import Mathlib

/-!
# Relative and absolute output offsets

`relative_output_offsets_to_absolute` and `absolute_output_offsets_to_relative` of
`cryptonote_format_utils.cpp`: a transaction input names the outputs of its ring by the gaps
between their global indices, the first one from zero. The first function adds the gaps up in
place, the second sorts the indices and takes the gaps in place, from the last one down.

Both loops are modelled as the source writes them, on `uint64_t` values that wrap: a fold of
`res[i] += res[i-1]` over `i` from `1` up, and of `res[i] -= res[i-1]` over `i` from
`size() - 1` down to `1`. `std::sort` is `List.insertionSort`: on `uint64_t` the sorted
permutation is unique.

The gaps of a sorted list add up to it again for every list (`offsets_round_trip`), since
`uint64_t` arithmetic is that of a ring. The indices of a list of gaps whose sums do not wrap are
sorted (`pairwise_relativeOutputOffsetsToAbsolute`), so the sort leaves them in place and the
gaps come back.
-/

namespace Equilibria.OutputOffsets

/-! ## The model -/

/-- One step of the loop of `relative_output_offsets_to_absolute`: `res[i] += res[i-1]`. -/
def addPrevious (res : List UInt64) (i : ℕ) : List UInt64 :=
  res.set i (res.getD i 0 + res.getD (i - 1) 0)

/-- One step of the loop of `absolute_output_offsets_to_relative`: `res[i] -= res[i-1]`. -/
def subPrevious (res : List UInt64) (i : ℕ) : List UInt64 :=
  res.set i (res.getD i 0 - res.getD (i - 1) 0)

/-- `relative_output_offsets_to_absolute`. -/
def relativeOutputOffsetsToAbsolute (off : List UInt64) : List UInt64 :=
  (List.range' 1 (off.length - 1)).foldl addPrevious off

/-- `absolute_output_offsets_to_relative`: an empty list is returned before `size() - 1` would
wrap; otherwise the sorted copy, with the loop from `size() - 1` down while `i != 0`. -/
def absoluteOutputOffsetsToRelative (off : List UInt64) : List UInt64 :=
  if off.length = 0 then off
  else
    let res := off.insertionSort (fun a b => a ≤ b)
    (List.range' 1 (res.length - 1)).reverse.foldl subPrevious res

/-! ## The loops -/

theorem length_addPrevious (res : List UInt64) (i : ℕ) :
    (addPrevious res i).length = res.length := List.length_set

theorem length_foldl_addPrevious :
    ∀ (is : List ℕ) (res : List UInt64), (is.foldl addPrevious res).length = res.length
  | [], _ => rfl
  | i :: is, res => by
    rw [List.foldl_cons, length_foldl_addPrevious is, length_addPrevious]

theorem sum_take_add_one (l : List UInt64) {i : ℕ} (hi : i < l.length) :
    (l.take (i + 1)).sum = (l.take i).sum + l[i] := by
  rw [List.take_add_one, List.sum_append, List.getElem?_eq_getElem hi]
  simp

/-- After `j` steps of the loop of `relative_output_offsets_to_absolute`, the first `j + 1`
entries are the sums of the prefixes and the others are as they were. -/
theorem foldl_addPrevious_getElem? (off : List UInt64) :
    ∀ j, j + 1 ≤ off.length → ∀ i,
      ((List.range' 1 j).foldl addPrevious off)[i]? =
        if i ≤ j then some (off.take (i + 1)).sum else off[i]?
  | 0, hj, i => by
    rw [List.range'_zero, List.foldl_nil]
    split_ifs with hi
    · have hi0 : i = 0 := by omega
      subst hi0
      rw [List.getElem?_eq_getElem (by omega), List.take_one]
      cases off with
      | nil => simp at hj
      | cons a rest => simp
    · rfl
  | j + 1, hj, i => by
    have ih := foldl_addPrevious_getElem? off j (by omega)
    rw [List.range'_concat, Nat.one_mul, Nat.add_comm 1 j, List.foldl_append, List.foldl_cons,
      List.foldl_nil, addPrevious, List.getElem?_set]
    have hlen : ((List.range' 1 j).foldl addPrevious off).length = off.length :=
      length_foldl_addPrevious _ _
    have hread : ∀ k, ((List.range' 1 j).foldl addPrevious off).getD k 0 =
        (if k ≤ j then some (off.take (k + 1)).sum else off[k]?).getD 0 := by
      intro k
      rw [List.getD_eq_getElem?_getD, ih k]
    by_cases hij : j + 1 = i
    · subst hij
      rw [if_pos rfl, if_pos (by omega), if_pos (by omega), hread, hread, if_neg (by omega),
        Nat.add_sub_cancel, if_pos (Nat.le_refl j), List.getElem?_eq_getElem (by omega),
        Option.getD_some, Option.getD_some, sum_take_add_one off (i := j + 1) (by omega)]
      exact congrArg some (UInt64.add_comm _ _)
    · rw [if_neg hij, ih i]
      by_cases hi : i ≤ j
      · rw [if_pos hi, if_pos (by omega)]
      · rw [if_neg hi, if_neg (by omega)]

theorem length_subPrevious (res : List UInt64) (i : ℕ) :
    (subPrevious res i).length = res.length := List.length_set

theorem length_foldl_subPrevious :
    ∀ (is : List ℕ) (res : List UInt64), (is.foldl subPrevious res).length = res.length
  | [], _ => rfl
  | i :: is, res => by
    rw [List.foldl_cons, length_foldl_subPrevious is, length_subPrevious]

/-- After the `m` steps of the loop of `absolute_output_offsets_to_relative` from the last index
down, the last `m` entries are the gaps to the entry before and the others are as they were. -/
theorem foldl_subPrevious_getElem? (s : List UInt64) :
    ∀ m, m + 1 ≤ s.length → ∀ i,
      ((List.range' (s.length - m) m).reverse.foldl subPrevious s)[i]? =
        if s.length - m ≤ i ∧ i < s.length then some (s.getD i 0 - s.getD (i - 1) 0)
        else s[i]?
  | 0, _, i => by
    rw [List.range'_zero, List.reverse_nil, List.foldl_nil, if_neg (by omega)]
  | m + 1, hm, i => by
    have ih := foldl_subPrevious_getElem? s m (by omega)
    have hrange : List.range' (s.length - (m + 1)) (m + 1) =
        (s.length - (m + 1)) :: List.range' (s.length - m) m := by
      rw [List.range'_succ, show s.length - (m + 1) + 1 = s.length - m by omega]
    rw [hrange, List.reverse_cons, List.foldl_append, List.foldl_cons, List.foldl_nil, subPrevious,
      List.getElem?_set, length_foldl_subPrevious]
    -- the entries the step reads are below the ones already rewritten
    have hread : ∀ k, k < s.length - m →
        ((List.range' (s.length - m) m).reverse.foldl subPrevious s).getD k 0 = s.getD k 0 := by
      intro k hk
      rw [List.getD_eq_getElem?_getD, ih k, if_neg (by omega), ← List.getD_eq_getElem?_getD]
    by_cases hki : s.length - (m + 1) = i
    · subst hki
      rw [if_pos rfl, if_pos (by omega), hread _ (by omega), hread _ (by omega),
        if_pos ⟨Nat.le_refl _, by omega⟩]
    · rw [if_neg hki, ih i]
      by_cases hi : s.length - m ≤ i ∧ i < s.length
      · rw [if_pos hi, if_pos ⟨by omega, hi.2⟩]
      · rw [if_neg hi, if_neg (by omega)]

/-! ## The two conversions -/

/-- `relative_output_offsets_to_absolute` puts at each index the sum of the gaps up to it. -/
theorem relativeOutputOffsetsToAbsolute_getElem? (off : List UInt64) (i : ℕ) :
    (relativeOutputOffsetsToAbsolute off)[i]? =
      if i < off.length then some (off.take (i + 1)).sum else none := by
  rcases Nat.eq_zero_or_pos off.length with h0 | hpos
  · rw [List.length_eq_zero_iff.mp h0]
    simp [relativeOutputOffsetsToAbsolute]
  · rw [relativeOutputOffsetsToAbsolute, foldl_addPrevious_getElem? off _ (by omega)]
    by_cases hi : i < off.length
    · rw [if_pos (by omega), if_pos hi]
    · rw [if_neg (by omega), if_neg hi, List.getElem?_eq_none (by omega)]

/-- `absolute_output_offsets_to_relative` puts at each index of the sorted list the gap to the
entry before, and keeps the first entry. -/
theorem absoluteOutputOffsetsToRelative_getElem? (off : List UInt64) (i : ℕ) :
    (absoluteOutputOffsetsToRelative off)[i]? =
      if 1 ≤ i ∧ i < off.length then
        some ((off.insertionSort (fun a b => a ≤ b)).getD i 0 -
          (off.insertionSort (fun a b => a ≤ b)).getD (i - 1) 0)
      else (off.insertionSort (fun a b => a ≤ b))[i]? := by
  rcases Nat.eq_zero_or_pos off.length with h0 | hpos
  · rw [List.length_eq_zero_iff.mp h0]
    simp [absoluteOutputOffsetsToRelative]
  · have hsorted := List.length_insertionSort (fun a b : UInt64 => a ≤ b) off
    rw [absoluteOutputOffsetsToRelative, if_neg (by omega)]
    dsimp only
    have hstart : (List.range' 1 ((off.insertionSort (fun a b => a ≤ b)).length - 1)) =
        List.range' ((off.insertionSort (fun a b => a ≤ b)).length -
          ((off.insertionSort (fun a b => a ≤ b)).length - 1))
          ((off.insertionSort (fun a b => a ≤ b)).length - 1) := by
      rw [show (off.insertionSort (fun a b => a ≤ b)).length -
        ((off.insertionSort (fun a b => a ≤ b)).length - 1) = 1 by omega]
    rw [hstart, foldl_subPrevious_getElem? _ _ (by omega), hsorted]
    simp only [show off.length - (off.length - 1) = 1 by omega]

theorem length_relativeOutputOffsetsToAbsolute (off : List UInt64) :
    (relativeOutputOffsetsToAbsolute off).length = off.length :=
  length_foldl_addPrevious _ _

theorem length_absoluteOutputOffsetsToRelative (off : List UInt64) :
    (absoluteOutputOffsetsToRelative off).length = off.length := by
  unfold absoluteOutputOffsetsToRelative
  split_ifs
  · rfl
  · rw [length_foldl_subPrevious, List.length_insertionSort]

/-! ## The round trip -/

/-- The gaps of the sorted list add up to its entries: a telescoping sum, exact in wrapping
arithmetic. -/
theorem sum_take_absoluteOutputOffsetsToRelative (off : List UInt64) :
    ∀ i, i < off.length →
      ((absoluteOutputOffsetsToRelative off).take (i + 1)).sum =
        (off.insertionSort (fun a b => a ≤ b)).getD i 0
  | 0, h => by
    have hfirst := absoluteOutputOffsetsToRelative_getElem? off 0
    rw [if_neg (by omega)] at hfirst
    rw [List.take_one, List.getD_eq_getElem?_getD, ← hfirst]
    cases hgap : absoluteOutputOffsetsToRelative off with
    | nil => rw [← length_absoluteOutputOffsetsToRelative, hgap] at h; simp at h
    | cons a rest => simp
  | i + 1, h => by
    have hlen := length_absoluteOutputOffsetsToRelative off
    have hgap := absoluteOutputOffsetsToRelative_getElem? off (i + 1)
    rw [if_pos ⟨by omega, h⟩, List.getElem?_eq_getElem (by omega)] at hgap
    rw [sum_take_add_one _ (by omega), sum_take_absoluteOutputOffsetsToRelative off i (by omega),
      Option.some.inj hgap, Nat.add_sub_cancel, UInt64.add_comm, UInt64.sub_add_cancel]

/-- The sums of gaps, read as naturals, are those of the naturals modulo `2 ^ 64`. -/
theorem toNat_sum (l : List UInt64) : l.sum.toNat = (l.map UInt64.toNat).sum % 2 ^ 64 := by
  induction l with
  | nil => rfl
  | cons a l ih =>
    rw [List.sum_cons, UInt64.toNat_add, ih, List.map_cons, List.sum_cons, Nat.add_mod_mod]

/-- When no prefix sum wraps, the indices `relative_output_offsets_to_absolute` computes are
sorted. -/
theorem pairwise_relativeOutputOffsetsToAbsolute (r : List UInt64)
    (hr : ∀ k, ((r.take k).map UInt64.toNat).sum ≤ 2 ^ 64 - 1) :
    (relativeOutputOffsetsToAbsolute r).Pairwise (fun a b => a ≤ b) := by
  have hentry : ∀ i (hi : i < (relativeOutputOffsetsToAbsolute r).length),
      ((relativeOutputOffsetsToAbsolute r)[i]).toNat = ((r.take (i + 1)).map UInt64.toNat).sum := by
    intro i hi
    have hget := relativeOutputOffsetsToAbsolute_getElem? r i
    rw [length_relativeOutputOffsetsToAbsolute] at hi
    rw [if_pos hi, List.getElem?_eq_getElem (by rw [length_relativeOutputOffsetsToAbsolute]; exact hi)]
      at hget
    rw [Option.some.inj hget, toNat_sum, Nat.mod_eq_of_lt (by have := hr (i + 1); omega)]
  rw [List.pairwise_iff_getElem]
  intro i j hi hj hij
  have hsplit : r.take (j + 1) = r.take (i + 1) ++ (r.drop (i + 1)).take (j - i) := by
    rw [← List.take_add, show i + 1 + (j - i) = j + 1 by omega]
  rw [UInt64.le_iff_toNat_le, hentry i hi, hentry j hj, hsplit, List.map_append, List.sum_append]
  exact Nat.le_add_right _ _

/-- Output offsets round trip: the gaps of a list add up to the list sorted, and the indices of
a list of gaps whose sums do not wrap give back the gaps. -/
theorem offsets_round_trip (v r : List UInt64)
    (hr : ∀ k, ((r.take k).map UInt64.toNat).sum ≤ 2 ^ 64 - 1) :
    relativeOutputOffsetsToAbsolute (absoluteOutputOffsetsToRelative v) =
        v.insertionSort (fun a b => a ≤ b) ∧
      absoluteOutputOffsetsToRelative (relativeOutputOffsetsToAbsolute r) = r := by
  constructor
  · apply List.ext_getElem?
    intro i
    rw [relativeOutputOffsetsToAbsolute_getElem?, length_absoluteOutputOffsetsToRelative]
    by_cases hi : i < v.length
    · rw [if_pos hi, sum_take_absoluteOutputOffsetsToRelative v i hi, List.getD_eq_getElem?_getD,
        List.getElem?_eq_getElem (by rw [List.length_insertionSort]; exact hi), Option.getD_some]
    · rw [if_neg hi, List.getElem?_eq_none (by rw [List.length_insertionSort]; omega)]
  · -- the indices are sorted, so `std::sort` leaves them in place
    have hsort := (pairwise_relativeOutputOffsetsToAbsolute r hr).insertionSort_eq
    have hlen := length_relativeOutputOffsetsToAbsolute r
    have hsum : ∀ k, k < r.length →
        (relativeOutputOffsetsToAbsolute r).getD k 0 = (r.take (k + 1)).sum := by
      intro k hk
      rw [List.getD_eq_getElem?_getD, relativeOutputOffsetsToAbsolute_getElem?, if_pos hk,
        Option.getD_some]
    apply List.ext_getElem?
    intro i
    rw [absoluteOutputOffsetsToRelative_getElem?, hsort, hlen]
    by_cases hgap : 1 ≤ i ∧ i < r.length
    · rw [if_pos hgap, hsum i hgap.2, hsum (i - 1) (by omega), show i - 1 + 1 = i by omega,
        sum_take_add_one r hgap.2, UInt64.add_comm, UInt64.add_sub_cancel, List.getElem?_eq_getElem hgap.2]
    · rw [if_neg hgap, relativeOutputOffsetsToAbsolute_getElem?]
      by_cases hi : i < r.length
      · have hi0 : i = 0 := by omega
        subst hi0
        rw [if_pos hi, List.take_one, List.getElem?_eq_getElem hi]
        cases r with
        | nil => simp at hi
        | cons a rest => simp
      · rw [if_neg hi, List.getElem?_eq_none (by omega)]

/-- The ring `{7, 3, 5}` and the gaps `{3, 2, 2}`. -/
theorem offsets_round_trip_of_three :
    relativeOutputOffsetsToAbsolute (absoluteOutputOffsetsToRelative [7, 3, 5]) =
        [7, 3, 5].insertionSort (fun a b => a ≤ b) ∧
      absoluteOutputOffsetsToRelative (relativeOutputOffsetsToAbsolute [3, 2, 2]) = [3, 2, 2] :=
  offsets_round_trip [7, 3, 5] [3, 2, 2] (fun k => by
    rcases k with _ | _ | _ | k <;> simp)

example : relativeOutputOffsetsToAbsolute (absoluteOutputOffsetsToRelative [7, 3, 5]) = [3, 5, 7] := by
  decide

end Equilibria.OutputOffsets
