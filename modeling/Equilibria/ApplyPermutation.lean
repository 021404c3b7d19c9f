import Mathlib

/-!
# Applying a permutation in place

`tools::apply_permutation` of `common/apply_permutation.h`, after Raymond Chen's algorithm: it
checks that every index below the size occurs in the permutation, then follows each cycle from
its least index with swaps, marking each slot it settles by writing its own index into a local
copy of the permutation. The vector version first checks that the sizes agree, and swaps with
`std::swap(v[i0], v[i1])`.

The template takes the swap as a function on a state. The `while` loop is given
`permutation.size()` rounds, the most a cycle of a permutation of that size needs; `none` says
the rounds ran out. A `CHECK_AND_ASSERT_THROW_MES` is an `Except` error with its message, raised
before the loops, so no swap is made when it throws.
-/

namespace Equilibria.ApplyPermutation

variable {α β : Type*}

/-! ## The model -/

/-- The `while` loop of `apply_permutation` following the cycle from `i`, for at most `fuel`
rounds: the marked copy of the permutation and the state once it ends. -/
def followCycle (swap : β → ℕ → ℕ → β) (i : ℕ) :
    ℕ → List ℕ → β → ℕ → Option (List ℕ × β)
  | 0, _, _, _ => none
  | fuel + 1, permutation, s, current =>
    if i ≠ permutation.getD current 0 then
      let next := permutation.getD current 0
      followCycle swap i fuel (permutation.set current current) (swap s current next) next
    else some (permutation.set current current, s)

/-- The `for` loop of `apply_permutation` over the indices `is`, each `while` loop given `fuel`
rounds. -/
def applyCycles (swap : β → ℕ → ℕ → β) (fuel : ℕ) (is : List ℕ) (permutation : List ℕ) (s : β) :
    Option (List ℕ × β) :=
  is.foldlM (fun acc i => followCycle swap i fuel acc.1 acc.2 i) (permutation, s)

/-- `apply_permutation(permutation, swap)`. -/
def applyPermutationWith (swap : β → ℕ → ℕ → β) (permutation : List ℕ) (s : β) :
    Except String (Option β) :=
  if (List.range permutation.length).all (fun n => permutation.contains n) then
    .ok ((applyCycles swap permutation.length (List.range permutation.length) permutation
      s).map Prod.snd)
  else .error "Bad permutation"

/-- `std::swap(v[i0], v[i1])`. -/
def swapEntries (v : List α) (i0 i1 : ℕ) : List α :=
  match v[i0]?, v[i1]? with
  | some a, some b => (v.set i0 b).set i1 a
  | _, _ => v

/-- `apply_permutation(permutation, v)`. -/
def applyPermutation (permutation : List ℕ) (v : List α) : Except String (Option (List α)) :=
  if permutation.length ≠ v.length then .error "Mismatched vector sizes"
  else applyPermutationWith swapEntries permutation v

/-! ## Lists -/

theorem getD_set_self {q : List ℕ} {c : ℕ} (hc : c < q.length) (k : ℕ) :
    (q.set c c).getD k 0 = if k = c then c else q.getD k 0 := by
  rw [List.getD_eq_getElem?_getD, List.getElem?_set]
  by_cases hk : k = c
  · subst hk
    rw [if_pos rfl, if_pos hc, if_pos rfl, Option.getD_some]
  · rw [if_neg (Ne.symm hk), if_neg hk, List.getD_eq_getElem?_getD]

/-- `std::swap(v[i0], v[i1])` reads each slot from the slot the transposition sends it to. -/
theorem swapEntries_getElem? {w : List α} {a b : ℕ} (ha : a < w.length) (hb : b < w.length)
    (x : ℕ) : (swapEntries w a b)[x]? = w[Equiv.swap a b x]? := by
  unfold swapEntries
  rw [List.getElem?_eq_getElem ha, List.getElem?_eq_getElem hb]
  dsimp only
  rw [List.getElem?_set, List.getElem?_set, List.length_set]
  by_cases hxb : x = b
  · subst hxb
    rw [if_pos rfl, if_pos hb, Equiv.swap_apply_right, List.getElem?_eq_getElem ha]
  · rw [if_neg (Ne.symm hxb)]
    by_cases hxa : x = a
    · subst hxa
      rw [if_pos rfl, if_pos ha, Equiv.swap_apply_left, List.getElem?_eq_getElem hb]
    · rw [if_neg (Ne.symm hxa), Equiv.swap_apply_of_ne_of_ne hxa hxb]

theorem length_swapEntries (w : List α) (a b : ℕ) : (swapEntries w a b).length = w.length := by
  unfold swapEntries
  split <;> simp

/-- A map of `[0, n)` into itself that is injective there reaches every slot. -/
theorem exists_eq_of_injective {n : ℕ} {f : ℕ → ℕ} (hlt : ∀ k < n, f k < n)
    (hinj : ∀ a < n, ∀ b < n, f a = f b → a = b) {j : ℕ} (hj : j < n) : ∃ k < n, f k = j := by
  obtain ⟨k, hk, hkj⟩ := Finset.surj_on_of_inj_on_of_card_le (s := Finset.range n)
    (t := Finset.range n) (fun k _ => f k)
    (fun k hk => Finset.mem_range.mpr (hlt k (Finset.mem_range.mp hk)))
    (fun a b ha hb hab => hinj a (Finset.mem_range.mp ha) b (Finset.mem_range.mp hb) hab)
    le_rfl j (Finset.mem_range.mpr hj)
  exact ⟨k, Finset.mem_range.mp hk, hkj.symm⟩

/-! ## The invariants -/

/-- The slot that slot `k` takes its value from while the cycle from `i` is followed and
`current` is its current slot: the slot that still points back to `i` takes the value carried in
`current`, the others the one their entry names. -/
def redirect (q : List ℕ) (i current k : ℕ) : ℕ :=
  if q.getD k 0 = i ∧ k ≠ i then current else q.getD k 0

/-- The invariant of the `for` loop before index `i`: the copy `q` of the permutation is a
permutation, each slot `k` of the result is the value at `q[k]` of the state, and every slot
below `i` is marked. -/
structure LoopInv (n : ℕ) (target : ℕ → Option α) (i : ℕ) (q : List ℕ) (w : List α) : Prop where
  length_q : q.length = n
  length_w : w.length = n
  entry_lt : ∀ k < n, q.getD k 0 < n
  injective : ∀ a < n, ∀ b < n, q.getD a 0 = q.getD b 0 → a = b
  target_eq : ∀ k < n, target k = w[q.getD k 0]?
  marked : ∀ j < i, q.getD j 0 = j

/-- The invariant of the `while` loop following the cycle from `i`, at the slot `current`. Once
the loop has moved on from `i`, slot `i` is marked and some other slot still points back to it. -/
structure CycleInv (n : ℕ) (target : ℕ → Option α) (i current : ℕ) (q : List ℕ) (w : List α) :
    Prop where
  length_q : q.length = n
  length_w : w.length = n
  start_lt : i < n
  current_lt : current < n
  entry_lt : ∀ k < n, q.getD k 0 < n
  injective : ∀ a < n, ∀ b < n, redirect q i current a = redirect q i current b → a = b
  target_eq : ∀ k < n, target k = w[redirect q i current k]?
  started : current ≠ i → q.getD i 0 = i ∧ ∃ k < n, k ≠ i ∧ q.getD k 0 = i
  marked : ∀ j < i, q.getD j 0 = j

/-- The slots of `[0, n)` not yet marked. -/
def unmarked (n : ℕ) (q : List ℕ) : ℕ := ((Finset.range n).filter (fun k => q.getD k 0 ≠ k)).card

theorem unmarked_le (n : ℕ) (q : List ℕ) : unmarked n q ≤ n := by
  unfold unmarked
  exact (Finset.card_filter_le _ _).trans (Finset.card_range n).le

theorem unmarked_pos {n : ℕ} {q : List ℕ} {k : ℕ} (hk : k < n) (hq : q.getD k 0 ≠ k) :
    0 < unmarked n q :=
  Finset.card_pos.mpr ⟨k, Finset.mem_filter.mpr ⟨Finset.mem_range.mpr hk, hq⟩⟩

/-- Marking an unmarked slot leaves one slot fewer to mark. -/
theorem unmarked_set {n : ℕ} {q : List ℕ} {c : ℕ} (hlen : q.length = n) (hc : c < n)
    (hq : q.getD c 0 ≠ c) : unmarked n (q.set c c) + 1 = unmarked n q := by
  unfold unmarked
  have hfilter : (Finset.range n).filter (fun k => (q.set c c).getD k 0 ≠ k) =
      ((Finset.range n).filter (fun k => q.getD k 0 ≠ k)).erase c := by
    ext k
    simp only [Finset.mem_filter, Finset.mem_erase, getD_set_self (hlen ▸ hc)]
    by_cases hkc : k = c
    · subst hkc
      simp
    · simp [hkc]
  have hmem : c ∈ (Finset.range n).filter (fun k => q.getD k 0 ≠ k) :=
    Finset.mem_filter.mpr ⟨Finset.mem_range.mpr hc, hq⟩
  rw [hfilter, Finset.card_erase_add_one hmem]

section Cycle

variable {n : ℕ} {target : ℕ → Option α}

/-- At the start of the `while` loop nothing is redirected. -/
theorem redirect_self (q : List ℕ) (i k : ℕ) : redirect q i i k = q.getD k 0 := by
  unfold redirect
  split_ifs with h
  · exact h.1.symm
  · rfl

theorem LoopInv.cycleInv {i : ℕ} {q : List ℕ} {w : List α} (hinv : LoopInv n target i q w)
    (hi : i < n) : CycleInv n target i i q w where
  length_q := hinv.length_q
  length_w := hinv.length_w
  start_lt := hi
  current_lt := hi
  entry_lt := hinv.entry_lt
  injective := by simpa only [redirect_self] using hinv.injective
  target_eq := by simpa only [redirect_self] using hinv.target_eq
  started := fun h => absurd rfl h
  marked := hinv.marked

section Step

variable {i c : ℕ} {q : List ℕ} {w : List α} (hinv : CycleInv n target i c q w)
include hinv

/-- Once the loop has moved on from `i`, the slot that points back to `i` reads from `current`. -/
theorem CycleInv.exists_back (hci : c ≠ i) :
    ∃ k₁ < n, k₁ ≠ i ∧ q.getD k₁ 0 = i ∧ redirect q i c k₁ = c := by
  obtain ⟨-, k₁, hk₁, hk₁i, hq₁⟩ := hinv.started hci
  exact ⟨k₁, hk₁, hk₁i, hq₁, by unfold redirect; rw [if_pos ⟨hq₁, hk₁i⟩]⟩

/-- A slot that reads from `current` without being redirected is `current`'s own at the start. -/
theorem CycleInv.redirect_eq_current {k : ℕ} (hk : k < n) (hkc : redirect q i c k = c)
    (hred : ¬ (q.getD k 0 = i ∧ k ≠ i)) : k = c := by
  by_cases hci : c = i
  · -- at the start, only slot `i` points to `i` without being redirected
    subst hci
    unfold redirect at hkc
    rw [if_neg hred] at hkc
    by_contra hne
    exact hred ⟨hkc, fun h => hne (h.trans rfl)⟩
  · obtain ⟨k₁, hk₁, hk₁i, hq₁, h₁⟩ := hinv.exists_back hci
    have := hinv.injective k hk k₁ hk₁ (hkc.trans h₁.symm)
    subst this
    exact absurd ⟨hq₁, hk₁i⟩ hred

/-- A round that goes on moves to a slot other than the current one. -/
theorem CycleInv.next_ne (hgo : i ≠ q.getD c 0) : q.getD c 0 ≠ c := by
  intro hc
  by_cases hci : c = i
  · exact hgo (hc.trans hci).symm
  · obtain ⟨k₁, hk₁, -, hq₁, h₁⟩ := hinv.exists_back hci
    have hself : redirect q i c c = c := by
      unfold redirect
      rw [if_neg (fun h => hgo h.1.symm), hc]
    have := hinv.injective k₁ hk₁ c hinv.current_lt (h₁.trans hself.symm)
    subst this
    exact hgo hq₁.symm

/-- After a round that goes on, each slot reads from where it read before, with `current` and
the next slot exchanged: the swap moved their values. -/
theorem CycleInv.redirect_step (hgo : i ≠ q.getD c 0) {k : ℕ} (hk : k < n) :
    redirect (q.set c c) i (q.getD c 0) k = Equiv.swap c (q.getD c 0) (redirect q i c k) := by
  have hc := hinv.current_lt
  have hlen := hinv.length_q
  have hcur : ¬ (q.getD c 0 = i ∧ c ≠ i) := fun h => hgo h.1.symm
  have hself : redirect q i c c = q.getD c 0 := by
    unfold redirect
    rw [if_neg hcur]
  by_cases hkc : k = c
  · -- the current slot is marked and takes the next slot's value
    subst hkc
    have hl : redirect (q.set k k) i (q.getD k 0) k = k := by
      unfold redirect
      rw [getD_set_self (hlen ▸ hc), if_pos rfl, if_neg (fun h => h.2 h.1)]
    rw [hl, hself, Equiv.swap_apply_right]
  · have hset : (q.set c c).getD k 0 = q.getD k 0 := by
      rw [getD_set_self (hlen ▸ hc), if_neg hkc]
    by_cases hred : q.getD k 0 = i ∧ k ≠ i
    · -- the slot pointing back to `i` now reads the value carried to the next slot
      have hl : redirect (q.set c c) i (q.getD c 0) k = q.getD c 0 := by
        unfold redirect
        rw [hset, if_pos hred]
      have hr : redirect q i c k = c := by
        unfold redirect
        rw [if_pos hred]
      rw [hl, hr, Equiv.swap_apply_left]
    · have hl : redirect (q.set c c) i (q.getD c 0) k = q.getD k 0 := by
        unfold redirect
        rw [hset, if_neg hred]
      have hr : redirect q i c k = q.getD k 0 := by
        unfold redirect
        rw [if_neg hred]
      rw [hl, hr, Equiv.swap_apply_of_ne_of_ne]
      · exact fun h => hkc (hinv.redirect_eq_current hk (hr.trans h) hred)
      · exact fun h => hkc (hinv.injective k hk c hc (hr.trans (h.trans hself.symm)))

/-- One round of the `while` loop that goes on keeps the invariant. -/
theorem CycleInv.step (hgo : i ≠ q.getD c 0) :
    CycleInv n target i (q.getD c 0) (q.set c c) (swapEntries w c (q.getD c 0)) := by
  have hc := hinv.current_lt
  have hlen := hinv.length_q
  have hnext := hinv.entry_lt c hc
  refine ⟨by rw [List.length_set, hlen], by rw [length_swapEntries, hinv.length_w], hinv.start_lt,
    hnext, ?_, ?_, ?_, ?_, ?_⟩
  · intro k hk
    rw [getD_set_self (hlen ▸ hc)]
    split_ifs
    · exact hc
    · exact hinv.entry_lt k hk
  · intro a ha b hb hab
    rw [hinv.redirect_step hgo ha, hinv.redirect_step hgo hb] at hab
    exact hinv.injective a ha b hb ((Equiv.swap c (q.getD c 0)).injective hab)
  · intro k hk
    rw [hinv.redirect_step hgo hk, swapEntries_getElem? (hinv.length_w ▸ hc)
      (hinv.length_w ▸ hnext), Equiv.swap_apply_self]
    exact hinv.target_eq k hk
  · intro _
    rw [getD_set_self (hlen ▸ hc)]
    by_cases hci : c = i
    · -- leaving `i`: it is marked, and the slot that points to it is found by counting
      subst hci
      refine ⟨if_pos rfl, ?_⟩
      obtain ⟨k₁, hk₁, hq₁⟩ := exists_eq_of_injective hinv.entry_lt
        (fun a ha b hb hab => hinv.injective a ha b hb (by rwa [redirect_self, redirect_self]))
        hinv.start_lt
      have hk₁c : k₁ ≠ c := fun h => hgo (h ▸ hq₁.symm)
      exact ⟨k₁, hk₁, hk₁c, by rw [getD_set_self (hlen ▸ hc), if_neg hk₁c, hq₁]⟩
    · obtain ⟨k₁, hk₁, hk₁i, hq₁, -⟩ := hinv.exists_back hci
      have hk₁c : k₁ ≠ c := fun h => hgo (h ▸ hq₁.symm)
      refine ⟨by rw [if_neg (Ne.symm hci)]; exact (hinv.started hci).1, k₁, hk₁, hk₁i, ?_⟩
      rw [getD_set_self (hlen ▸ hc), if_neg hk₁c, hq₁]
  · intro j hj
    rw [getD_set_self (hlen ▸ hc)]
    split_ifs with hjc
    · exact hjc.symm
    · exact hinv.marked j hj

/-- The last round of the `while` loop marks the current slot and ends the cycle: the invariant
of the `for` loop holds past `i`. -/
theorem CycleInv.exit (hstop : i = q.getD c 0) : LoopInv n target (i + 1) (q.set c c) w := by
  have hc := hinv.current_lt
  have hlen := hinv.length_q
  have hself : redirect q i c c = c := by
    unfold redirect
    split_ifs with h
    · rfl
    · -- not redirected: the current slot is `i` itself
      have hci : c = i := by
        by_contra hne
        exact h ⟨hstop.symm, hne⟩
      rw [← hstop, hci]
  -- every slot now reads from where it read before
  have hread : ∀ k < n, (q.set c c).getD k 0 = redirect q i c k := by
    intro k hk
    rw [getD_set_self (hlen ▸ hc)]
    split_ifs with hkc
    · rw [hkc, hself]
    · unfold redirect
      rw [if_neg]
      intro hred
      have hr : redirect q i c k = redirect q i c c := by
        rw [hself]; unfold redirect; rw [if_pos hred]
      exact hkc (hinv.injective k hk c hc hr)
  refine ⟨by rw [List.length_set, hlen], hinv.length_w, ?_, ?_, ?_, ?_⟩
  · intro k hk
    rw [getD_set_self (hlen ▸ hc)]
    split_ifs
    · exact hc
    · exact hinv.entry_lt k hk
  · intro a ha b hb hab
    rw [hread a ha, hread b hb] at hab
    exact hinv.injective a ha b hb hab
  · intro k hk
    rw [hread k hk]
    exact hinv.target_eq k hk
  · intro j hj
    rw [getD_set_self (hlen ▸ hc)]
    split_ifs with hjc
    · exact hjc.symm
    · rcases Nat.lt_succ_iff_lt_or_eq.mp hj with hji | hji
      · exact hinv.marked j hji
      · subst hji
        exact (hinv.started (Ne.symm hjc)).1

end Step

/-- The `while` loop ends within as many rounds as there are unmarked slots (and at least one),
with the invariant of the `for` loop past `i`. -/
theorem followCycle_spec {i : ℕ} :
    ∀ (fuel : ℕ) (c : ℕ) (q : List ℕ) (w : List α), CycleInv n target i c q w →
      unmarked n q ≤ fuel → 0 < fuel →
      ∃ q' w', followCycle swapEntries i fuel q w c = some (q', w') ∧
        LoopInv n target (i + 1) q' w'
  | 0, _, _, _, _, _, hpos => absurd hpos (Nat.lt_irrefl 0)
  | fuel + 1, c, q, w, hinv, hfuel, _ => by
    unfold followCycle
    split_ifs with hgo
    · -- a round that goes on marks the current slot, which was unmarked
      have hstep := hinv.step hgo
      have hcount := unmarked_set hinv.length_q hinv.current_lt (hinv.next_ne hgo)
      obtain ⟨k₁, hk₁, hk₁i, hq₁, -⟩ := hstep.exists_back (Ne.symm hgo)
      have hpos := unmarked_pos hk₁ (hq₁.trans_ne (Ne.symm hk₁i))
      exact followCycle_spec fuel _ _ _ hstep (by omega) (by omega)
    · exact ⟨_, _, rfl, hinv.exit (not_not.mp hgo)⟩

/-- The `for` loop over `i, ..., n - 1` ends with every slot marked. -/
theorem applyCycles_spec :
    ∀ (m i : ℕ) (q : List ℕ) (w : List α), i + m = n → LoopInv n target i q w →
      ∃ q' w', applyCycles swapEntries n (List.range' i m) q w = some (q', w') ∧
        LoopInv n target n q' w'
  | 0, i, q, w, hm, hinv => ⟨q, w, rfl, { hinv with marked := fun j hj => hinv.marked j (by omega) }⟩
  | m + 1, i, q, w, hm, hinv => by
    obtain ⟨q₁, w₁, hcycle, hinv₁⟩ := followCycle_spec n i q w (hinv.cycleInv (by omega))
      (unmarked_le n q) (by omega)
    obtain ⟨q', w', hrest, hinv'⟩ := applyCycles_spec m (i + 1) q₁ w₁ (by omega) hinv₁
    refine ⟨q', w', ?_, hinv'⟩
    unfold applyCycles at hrest ⊢
    rw [List.range'_succ, List.foldlM_cons, hcycle]
    exact hrest

end Cycle

/-! ## Correctness -/

/-- A list of length `n` that holds each of `0, ..., n - 1` is a permutation of them. -/
theorem perm_range_of_forall_mem {permutation : List ℕ} {n : ℕ} (hlen : permutation.length = n)
    (hall : ∀ k < n, k ∈ permutation) : permutation.Perm (List.range n) :=
  ((List.nodup_range).subperm (fun k hk => hall k (List.mem_range.mp hk))).perm_of_length_le
    (by rw [hlen, List.length_range]) |>.symm

/-- `apply_permutation` on a permutation of the indices of `v` returns, after finitely many
swaps, the vector whose `i`-th slot is `v[permutation[i]]`; on anything else it throws, before
any swap. -/
theorem applyPermutation_spec (permutation : List ℕ) (v : List α) :
    (permutation.length = v.length → (∀ k < v.length, k ∈ permutation) →
      ∃ w : List α, applyPermutation permutation v = .ok (some w) ∧
        ∀ i : ℕ, w[i]? = permutation[i]?.bind (fun j => v[j]?)) ∧
    (¬ permutation.Perm (List.range v.length) →
      applyPermutation permutation v = .error "Mismatched vector sizes" ∨
        applyPermutation permutation v = .error "Bad permutation") := by
  constructor
  · intro hlen hall
    have hperm := perm_range_of_forall_mem hlen hall
    have hnodup : permutation.Nodup := hperm.nodup_iff.mpr List.nodup_range
    have hinit : LoopInv v.length (fun k => v[permutation.getD k 0]?) 0 permutation v := by
      refine ⟨hlen, rfl, ?_, ?_, fun k _ => rfl, fun j hj => absurd hj (Nat.not_lt_zero j)⟩
      · intro k hk
        rw [List.getD_eq_getElem?_getD, List.getElem?_eq_getElem (hlen ▸ hk), Option.getD_some]
        exact List.mem_range.mp (hperm.subset (List.getElem_mem _))
      · intro a ha b hb hab
        rw [List.getD_eq_getElem?_getD, List.getElem?_eq_getElem (hlen ▸ ha),
          List.getD_eq_getElem?_getD, List.getElem?_eq_getElem (hlen ▸ hb), Option.getD_some,
          Option.getD_some] at hab
        exact (hnodup.getElem_inj_iff).mp hab
    obtain ⟨q, w, hrun, hfinal⟩ := applyCycles_spec v.length 0 permutation v (Nat.zero_add _) hinit
    have hcheck : (List.range permutation.length).all (fun n => permutation.contains n) = true := by
      rw [List.all_eq_true]
      intro k hk
      rw [List.contains_iff_mem]
      exact hall k (hlen ▸ List.mem_range.mp hk)
    refine ⟨w, ?_, ?_⟩
    · unfold applyPermutation applyPermutationWith
      rw [if_neg (not_not.mpr hlen), if_pos hcheck, hlen, List.range_eq_range', hrun]
      rfl
    · -- every slot is marked, so it holds its target
      intro i
      by_cases hi : i < v.length
      · have hentry : permutation[i]? = some permutation[i] := List.getElem?_eq_getElem (hlen ▸ hi)
        have htarget := hfinal.target_eq i hi
        rw [hfinal.marked i hi, List.getD_eq_getElem?_getD, hentry, Option.getD_some] at htarget
        rw [← htarget, hentry, Option.bind_some]
      · rw [List.getElem?_eq_none (by rw [hfinal.length_w]; omega),
          List.getElem?_eq_none (by omega), Option.bind_none]
  · intro hnot
    unfold applyPermutation applyPermutationWith
    by_cases hlen : permutation.length = v.length
    · right
      rw [if_neg (not_not.mpr hlen), if_neg]
      intro hcheck
      apply hnot
      rw [List.all_eq_true] at hcheck
      exact perm_range_of_forall_mem hlen (fun k hk => List.contains_iff_mem.mp
        (hcheck k (List.mem_range.mpr (hlen ▸ hk))))
    · left
      rw [if_pos hlen]

/-- The rotation `{1, 2, 0}` of three letters. -/
theorem applyPermutation_spec_rotation :
    ∃ w : List Char, applyPermutation [1, 2, 0] ['a', 'b', 'c'] = .ok (some w) ∧
      ∀ i : ℕ, w[i]? = [1, 2, 0][i]?.bind (fun j => ['a', 'b', 'c'][j]?) :=
  (applyPermutation_spec [1, 2, 0] ['a', 'b', 'c']).1 rfl (by decide)

example : applyPermutation [1, 2, 0] ['a', 'b', 'c'] = .ok (some ['b', 'c', 'a']) := by decide

example : applyPermutation [0, 0] ['a', 'b'] = .error "Bad permutation" := by decide

end Equilibria.ApplyPermutation
