import Mathlib

/-!
# Ordered maps as sorted association lists

The operations of an ordered map (`std::map` and the like) on a list of entries kept in
increasing key order: lookup, insertion that keeps an existing entry, assignment that
overwrites it, erasure, in-place update of one entry, and erasure of a prefix or a suffix of
that order. Insertion places a new entry by a decidable strict order on the keys; every
operation keeps the entries sorted, so iteration in list order is iteration in key order.
-/

namespace Equilibria.OrderedMap

variable {K V : Type*} [DecidableEq K]

/-- Entries in increasing key order. -/
abbrev OMap (K V : Type*) := List (K × V)

/-- The value stored under a key. -/
def find? (m : OMap K V) (k : K) : Option V := (m.find? (fun e => e.1 = k)).map Prod.snd

/-- The keys, in increasing order. -/
def keys (m : OMap K V) : List K := m.map Prod.fst

/-- Assign a value to a key, overwriting an entry that is there (`m[k] = v`). -/
def insertOrAssign [LT K] [DecidableLT K] (k : K) (v : V) : OMap K V → OMap K V
  | [] => [(k, v)]
  | e :: es =>
    if k < e.1 then (k, v) :: e :: es
    else if k = e.1 then (k, v) :: es
    else e :: insertOrAssign k v es

/-- Insert an entry unless the key is there already (`m.insert({k, v})`). -/
def insert [LT K] [DecidableLT K] (k : K) (v : V) (m : OMap K V) : OMap K V :=
  if (m.find? (fun e => e.1 = k)).isSome then m else insertOrAssign k v m

/-- Erase the entry of a key, if any. -/
def erase (k : K) (m : OMap K V) : OMap K V := m.filter (fun e => e.1 ≠ k)

/-- Apply a function to the value under a key; no entry, no change. -/
def modify (k : K) (f : V → V) (m : OMap K V) : OMap K V :=
  m.map (fun e => if e.1 = k then (e.1, f e.2) else e)

/-- Erase entries from the front while their keys satisfy `p`. -/
def eraseFrontWhile (p : K → Bool) (m : OMap K V) : OMap K V := m.dropWhile (fun e => p e.1)

/-- Erase entries from the back while their keys satisfy `p`. -/
def eraseBackWhile (p : K → Bool) (m : OMap K V) : OMap K V :=
  (m.reverse.dropWhile (fun e => p e.1)).reverse

@[simp] theorem keys_modify (k : K) (f : V → V) (m : OMap K V) :
    keys (modify k f m) = keys m := by
  induction m with
  | nil => rfl
  | cons e es ih =>
    simp only [modify, keys, List.map_cons] at ih ⊢
    split <;> simp [ih]

theorem length_modify (k : K) (f : V → V) (m : OMap K V) :
    (modify k f m).length = m.length := by
  simp [modify]

theorem find?_nil (k : K) : find? ([] : OMap K V) k = none := rfl

theorem find?_cons (e : K × V) (es : OMap K V) (k : K) :
    find? (e :: es) k = if e.1 = k then some e.2 else find? es k := by
  by_cases he : e.1 = k <;> simp [find?, he]

theorem mem_keys {m : OMap K V} {k : K} : k ∈ keys m ↔ (find? m k).isSome := by
  induction m with
  | nil => simp [keys, find?_nil]
  | cons e es ih =>
    rw [find?_cons]
    by_cases he : e.1 = k
    · simp [keys, he]
    · simp only [keys, List.map_cons, List.mem_cons, if_neg he] at ih ⊢
      rw [← ih]
      exact ⟨fun h => h.resolve_left (Ne.symm he), Or.inr⟩

theorem find?_modify (k : K) (f : V → V) (m : OMap K V) (k' : K) :
    find? (modify k f m) k' = if k' = k then (find? m k).map f else find? m k' := by
  induction m with
  | nil => simp [modify, find?_nil]
  | cons e es ih =>
    have hcons : modify k f (e :: es) =
        (if e.1 = k then (e.1, f e.2) else e) :: modify k f es := rfl
    rw [hcons, find?_cons, find?_cons, find?_cons]
    by_cases he : e.1 = k
    · by_cases hk : k' = k
      · subst hk
        simp [he]
      · have hne : e.1 ≠ k' := fun h => hk (h ▸ he)
        simp only [if_pos he, if_neg hne, if_neg hk, ih]
    · by_cases hk : k' = k
      · subst hk
        simp only [if_neg he, if_true, ih]
      · simp only [if_neg he, if_neg hk, ih]

theorem find?_insertOrAssign [LT K] [DecidableLT K] (k : K) (v : V) (m : OMap K V) (k' : K) :
    find? (insertOrAssign k v m) k' = if k' = k then some v else find? m k' := by
  induction m with
  | nil =>
    by_cases hk : k' = k
    · simp [insertOrAssign, find?_cons, hk]
    · simp [insertOrAssign, find?_cons, find?_nil, hk, Ne.symm hk]
  | cons e es ih =>
    simp only [insertOrAssign]
    split
    · rw [find?_cons]
      by_cases hk : k' = k
      · simp [hk]
      · simp [hk, Ne.symm hk]
    · split
      · rename_i he
        rw [find?_cons, find?_cons]
        by_cases hk : k' = k
        · simp [hk]
        · have hne : e.1 ≠ k' := fun h => hk (h.symm.trans he.symm)
          simp only [if_neg (Ne.symm hk), if_neg hk, if_neg hne]
      · rename_i he
        rw [find?_cons, find?_cons, ih]
        by_cases hk : e.1 = k'
        · subst hk
          simp [Ne.symm he]
        · simp only [if_neg hk]

theorem find?_insert [LT K] [DecidableLT K] (k : K) (v : V) (m : OMap K V) (k' : K) :
    find? (insert k v m) k' = if k' = k then some ((find? m k).getD v) else find? m k' := by
  unfold insert
  split
  · rename_i hsome
    have hfound : (find? m k).isSome := by
      unfold find?
      rw [Option.isSome_map]
      exact hsome
    by_cases hk : k' = k
    · subst hk
      obtain ⟨v', hv'⟩ := Option.isSome_iff_exists.mp hfound
      simp [hv']
    · simp [hk]
  · rename_i hnone
    have hfound : find? m k = none := by
      unfold find?
      rw [Option.map_eq_none_iff]
      exact Option.not_isSome_iff_eq_none.mp hnone
    rw [find?_insertOrAssign]
    by_cases hk : k' = k
    · simp [hk, hfound]
    · simp [hk]

theorem find?_erase (k : K) (m : OMap K V) (k' : K) :
    find? (erase k m) k' = if k' = k then none else find? m k' := by
  induction m with
  | nil => simp [erase, find?_nil]
  | cons e es ih =>
    have hcons : erase k (e :: es) = if e.1 ≠ k then e :: erase k es else erase k es := by
      by_cases he : e.1 = k <;> simp [erase, he]
    by_cases he : e.1 = k
    · rw [hcons, if_neg (not_not.mpr he), ih, find?_cons]
      by_cases hk : k' = k
      · simp [hk]
      · simp only [if_neg hk, if_neg (fun h : e.1 = k' => hk (h ▸ he))]
    · rw [hcons, if_pos he, find?_cons, find?_cons, ih]
      by_cases hk : e.1 = k'
      · subst hk
        simp [he]
      · simp only [if_neg hk]

theorem keys_erase (k : K) (m : OMap K V) : keys (erase k m) = (keys m).filter (· ≠ k) := by
  simp [keys, erase, List.filter_map, Function.comp_def]

/-- An assignment to an absent key adds exactly that key. -/
theorem keys_insertOrAssign_perm [LT K] [DecidableLT K] {k : K} (v : V) {m : OMap K V}
    (hk : k ∉ keys m) : (keys (insertOrAssign k v m)).Perm (k :: keys m) := by
  induction m with
  | nil => exact List.Perm.refl _
  | cons e es ih =>
    have hne : k ≠ e.1 := fun h => hk (by simp [keys, h])
    have hes : k ∉ keys es := fun h => hk (by simp only [keys, List.map_cons] at h ⊢; exact .tail _ h)
    simp only [insertOrAssign, if_neg hne]
    split
    · exact List.Perm.refl _
    · simp only [keys, List.map_cons] at ih ⊢
      exact ((ih hes).cons e.1).trans (List.Perm.swap k e.1 _)

theorem keys_insert_nodup [LT K] [DecidableLT K] (k : K) (v : V) {m : OMap K V}
    (hm : (keys m).Nodup) : (keys (insert k v m)).Nodup := by
  unfold insert
  split
  · exact hm
  · rename_i hnone
    have hk : k ∉ keys m := by
      rw [mem_keys]
      unfold find?
      rw [Option.isSome_map]
      exact hnone
    exact (keys_insertOrAssign_perm v hk).nodup_iff.mpr (List.nodup_cons.mpr ⟨hk, hm⟩)

theorem length_insert_le [LT K] [DecidableLT K] (k : K) (v : V) (m : OMap K V) :
    (insert k v m).length ≤ m.length + 1 := by
  unfold insert
  split
  · omega
  · rename_i hnone
    have hk : k ∉ keys m := by
      rw [mem_keys]
      unfold find?
      rw [Option.isSome_map]
      exact hnone
    have := (keys_insertOrAssign_perm v hk).length_eq
    simp only [keys, List.length_map, List.length_cons] at this
    omega

/-- With distinct keys, the entry at a position is the one a lookup finds. -/
theorem find?_of_getElem? {m : OMap K V} (hm : (keys m).Nodup) :
    ∀ {i : ℕ} {k : K} {v : V}, m[i]? = some (k, v) → find? m k = some v := by
  induction m with
  | nil => simp
  | cons e es ih =>
    intro i k v h
    simp only [keys, List.map_cons, List.nodup_cons] at hm
    rw [find?_cons]
    cases i with
    | zero =>
      simp only [List.getElem?_cons_zero, Option.some.injEq] at h
      subst h
      simp
    | succ i =>
      simp only [List.getElem?_cons_succ] at h
      have hmem : k ∈ keys es := by
        simp only [keys, List.mem_map]
        exact ⟨(k, v), List.mem_of_getElem? h, rfl⟩
      have hne : e.1 ≠ k := fun hek => hm.1 (hek ▸ hmem)
      rw [if_neg hne]
      exact ih hm.2 h

theorem mem_keys_insert [LT K] [DecidableLT K] {k k' : K} {v : V} {m : OMap K V} :
    k' ∈ keys (insert k v m) ↔ k' = k ∨ k' ∈ keys m := by
  rw [mem_keys, mem_keys, find?_insert]
  by_cases hk : k' = k <;> simp [hk]

end Equilibria.OrderedMap

/-! ## Maps in key order -/

namespace Equilibria.OrderedMap

variable {K V : Type*} [LinearOrder K]

theorem mem_keys_insertOrAssign {k k' : K} {v : V} {m : OMap K V} :
    k' ∈ keys (insertOrAssign k v m) ↔ k' = k ∨ k' ∈ keys m := by
  rw [mem_keys, mem_keys, find?_insertOrAssign]
  by_cases hk : k' = k <;> simp [hk]

/-- An assignment keeps the keys in increasing order. -/
theorem pairwise_insertOrAssign (k : K) (v : V) :
    ∀ {m : OMap K V}, (keys m).Pairwise (· < ·) → (keys (insertOrAssign k v m)).Pairwise (· < ·)
  | [], _ => by simp [insertOrAssign, keys]
  | e :: es, hm => by
    simp only [keys, List.map_cons, List.pairwise_cons] at hm
    simp only [insertOrAssign]
    split
    · rename_i hlt
      -- the new key goes in front of a larger one
      simp only [keys, List.map_cons, List.pairwise_cons, List.mem_cons]
      refine ⟨?_, hm.1, hm.2⟩
      rintro x (rfl | hx)
      · exact hlt
      · exact lt_trans hlt (hm.1 x hx)
    · split
      · rename_i heq
        subst heq
        simpa [keys] using hm
      · rename_i hlt hne
        have hek : e.1 < k := lt_of_le_of_ne (not_lt.mp hlt) (Ne.symm hne)
        simp only [keys, List.map_cons, List.pairwise_cons]
        refine ⟨fun x hx => ?_, pairwise_insertOrAssign k v hm.2⟩
        rcases mem_keys_insertOrAssign.mp hx with rfl | hx
        · exact hek
        · exact hm.1 x hx

theorem pairwise_eraseFrontWhile (p : K → Bool) {m : OMap K V} (hm : (keys m).Pairwise (· < ·)) :
    (keys (eraseFrontWhile p m)).Pairwise (· < ·) :=
  hm.sublist ((List.dropWhile_suffix _).sublist.map Prod.fst)

theorem pairwise_eraseBackWhile (p : K → Bool) {m : OMap K V} (hm : (keys m).Pairwise (· < ·)) :
    (keys (eraseBackWhile p m)).Pairwise (· < ·) := by
  have hsub : List.Sublist (eraseBackWhile p m) m := by
    have hdrop : List.Sublist (m.reverse.dropWhile fun e => p e.1) m.reverse :=
      (List.dropWhile_suffix _).sublist
    simpa only [eraseBackWhile, List.reverse_reverse] using hdrop.reverse
  exact hm.sublist (hsub.map Prod.fst)

/-- Assigning a key larger than every key appends its entry. -/
theorem insertOrAssign_of_lt {k : K} (v : V) :
    ∀ {m : OMap K V}, (∀ k' ∈ keys m, k' < k) → insertOrAssign k v m = m ++ [(k, v)]
  | [], _ => rfl
  | e :: es, h => by
    have he : e.1 < k := h e.1 (by simp [keys])
    have hes : ∀ k' ∈ keys es, k' < k := fun k' hk' => h k' (by simp [keys] at hk' ⊢; simp [hk'])
    have hnlt : ¬k < e.1 := not_lt.mpr (le_of_lt he)
    have hne : k ≠ e.1 := ne_of_gt he
    rw [insertOrAssign, if_neg hnlt, if_neg hne, insertOrAssign_of_lt v hes, List.cons_append]

/-- Assigning the entries of a map in key order, after entries of smaller keys, appends them:
the loop `m[k] = v` over a `std::map` copies it. -/
theorem foldl_insertOrAssign :
    ∀ {acc m : OMap K V}, (keys (acc ++ m)).Pairwise (· < ·) →
      m.foldl (fun acc e => insertOrAssign e.1 e.2 acc) acc = acc ++ m
  | acc, [], _ => by simp
  | acc, e :: es, h => by
    have hlt : ∀ k' ∈ keys acc, k' < e.1 := by
      simp only [keys, List.map_append, List.map_cons, List.pairwise_append,
        List.mem_cons] at h
      exact fun k' hk' => h.2.2 k' hk' e.1 (.inl rfl)
    rw [List.foldl_cons, insertOrAssign_of_lt e.2 hlt,
      foldl_insertOrAssign (by simpa using h)]
    simp

end Equilibria.OrderedMap
