import Equilibria.SwarmChanges

/-!
# Swarm sizes across `calc_swarm_changes`

Every phase of `calc_swarm_changes` moves nodes one at a time between the queue and the
swarms, and each move is guarded: a starving swarm is filled only up to `MIN_SWARM_SIZE`,
a node is taken only from a swarm holding more than `MIN_SWARM_SIZE`, the smallest swarm is
filled only while it is below `MAX_SWARM_SIZE`, and a new swarm is made of exactly
`MAX_SWARM_SIZE` nodes, each swapped for a queued one. So the bounds on the swarm sizes
hold after every phase, and the queue that is left is shorter than a new swarm and its
buffer.

The same guards keep every bound handed to `uniform_distribution_portable` positive and
every index it returns in range. The computation therefore fails only where the source
does not return: a rejection loop that never accepts a draw, or a search for a fresh swarm
id that never ends.

Each phase has one lemma in the form `Outcome fail post`: the phase returns a state with
`post`, or it fails and `fail` holds.
-/

namespace Equilibria.SwarmBounds

open CryptonoteBasic OrderedMap Equilibria.Random SwarmChanges

/-! ## Outcomes of a computation that may fail -/

/-- A computation of the model returns a value with `post`, or fails, and then `fail` holds,
which says how the source could fail to return. -/
def Outcome {α : Type} (fail : Prop) (post : α → Prop) : Option α → Prop
  | some a => post a
  | none => fail

section Outcome

variable {α β : Type} {fail : Prop} {P : α → Prop} {Q : β → Prop}

@[simp] theorem outcome_some (a : α) : Outcome fail P (some a) ↔ P a := Iff.rfl

@[simp] theorem outcome_none : Outcome fail P none ↔ fail := Iff.rfl

theorem Outcome.bind {x : Option α} {f : α → Option β} (hx : Outcome fail P x)
    (hf : ∀ a, P a → Outcome fail Q (f a)) : Outcome fail Q (x >>= f) := by
  cases x with
  | none => exact hx
  | some a => exact hf a hx

theorem Outcome.mono {x : Option α} {fail' : Prop} {P' : α → Prop} (hx : Outcome fail P x)
    (hfail : fail → fail') (h : ∀ a, P a → P' a) : Outcome fail' P' x := by
  cases x with
  | none => exact hfail hx
  | some a => exact h a hx

/-- The two halves of an outcome. -/
theorem Outcome.elim {x : Option α} (hx : Outcome fail P x) :
    (∀ a, x = some a → P a) ∧ (x = none → fail) := by
  cases x with
  | none => exact ⟨fun _ h => (nomatch h), fun _ => hx⟩
  | some a => exact ⟨fun _ h => Option.some.inj h ▸ hx, fun h => (nomatch h)⟩

end Outcome

variable {σ : Type} (E : Engine σ)

/-- Some rejection loop of the sampler does not return. -/
def Stall : Prop := ∃ s : σ, Stalls E s

/-! ## Drawing a node -/

/-- `pop_random_snode` on a non-empty vector whose size fits in 64 bits returns one of its
nodes and the others, unless the sampler stalls. -/
theorem popRandomSnode_outcome (s : σ) (vec : List PublicKey) (hpos : 0 < vec.length)
    (hfit : vec.length < 2 ^ 64) :
    Outcome (Stall E) (fun r => (r.1 :: r.2.1).Perm vec ∧ r.2.1.length + 1 = vec.length)
      (popRandomSnode E s vec) := by
  have hn : (UInt64.ofNat vec.length).toNat = vec.length := by
    rw [UInt64.toNat_ofNat', Nat.mod_eq_of_lt hfit]
  unfold popRandomSnode
  cases hdraw : uniformDistributionPortable E s (UInt64.ofNat vec.length) with
  | none => exact ⟨s, uniformDistributionPortable_eq_none (by rw [hn]; exact hpos) hdraw⟩
  | some r =>
    obtain ⟨idx, s'⟩ := r
    have hidx : idx.toNat < vec.length := by
      have := uniformDistributionPortable_lt hdraw
      rwa [hn] at this
    simp only [bind, Option.bind, List.getElem?_eq_getElem hidx, pure, outcome_some]
    exact ⟨List.getElem_cons_eraseIdx_perm hidx, by rw [List.length_eraseIdx_of_lt hidx]; omega⟩

/-! ## Choosing a swarm by size -/

section ElementBy

variable {α : Type} (size : α → ℕ)

theorem foldl_min_spec : ∀ (as : List α) (a : α),
    (as.foldl (fun best x => if size x < size best then x else best) a ∈ a :: as) ∧
      ∀ y ∈ a :: as, size (as.foldl (fun best x => if size x < size best then x else best) a) ≤
        size y
  | [], a => by simp
  | b :: as, a => by
    -- the accumulator after `b` is the smaller of `a` and `b`
    have hc : size (if size b < size a then b else a) ≤ size a ∧
        size (if size b < size a then b else a) ≤ size b := by
      split <;> omega
    have hmem : (if size b < size a then b else a) = a ∨ (if size b < size a then b else a) = b := by
      split <;> simp
    have ih := foldl_min_spec as (if size b < size a then b else a)
    simp only [List.foldl_cons]
    generalize (if size b < size a then b else a) = c at ih hc hmem
    generalize as.foldl (fun best x => if size x < size best then x else best) c = r at ih
    obtain ⟨hr, hbound⟩ := ih
    refine ⟨?_, fun y hy => ?_⟩
    · rcases List.mem_cons.mp hr with rfl | hr
      · rcases hmem with rfl | rfl <;> simp
      · exact List.mem_cons_of_mem _ (List.mem_cons_of_mem _ hr)
    · have hrc := hbound c List.mem_cons_self
      rcases List.mem_cons.mp hy with rfl | hy
      · omega
      · rcases List.mem_cons.mp hy with rfl | hy
        · omega
        · exact hbound y (List.mem_cons_of_mem _ hy)

theorem foldl_max_spec : ∀ (as : List α) (a : α),
    (as.foldl (fun best x => if size best < size x then x else best) a ∈ a :: as) ∧
      ∀ y ∈ a :: as,
        size y ≤ size (as.foldl (fun best x => if size best < size x then x else best) a)
  | [], a => by simp
  | b :: as, a => by
    -- the accumulator after `b` is the larger of `a` and `b`
    have hc : size a ≤ size (if size a < size b then b else a) ∧
        size b ≤ size (if size a < size b then b else a) := by
      split <;> omega
    have hmem : (if size a < size b then b else a) = a ∨ (if size a < size b then b else a) = b := by
      split <;> simp
    have ih := foldl_max_spec as (if size a < size b then b else a)
    simp only [List.foldl_cons]
    generalize (if size a < size b then b else a) = c at ih hc hmem
    generalize as.foldl (fun best x => if size best < size x then x else best) c = r at ih
    obtain ⟨hr, hbound⟩ := ih
    refine ⟨?_, fun y hy => ?_⟩
    · rcases List.mem_cons.mp hr with rfl | hr
      · rcases hmem with rfl | rfl <;> simp
      · exact List.mem_cons_of_mem _ (List.mem_cons_of_mem _ hr)
    · have hrc := hbound c List.mem_cons_self
      rcases List.mem_cons.mp hy with rfl | hy
      · omega
      · rcases List.mem_cons.mp hy with rfl | hy
        · omega
        · exact hbound y (List.mem_cons_of_mem _ hy)

/-- `std::min_element` returns a smallest member. -/
theorem minElementBy_spec {l : List α} {x : α} (h : minElementBy size l = some x) :
    x ∈ l ∧ ∀ y ∈ l, size x ≤ size y := by
  cases l with
  | nil => simp [minElementBy] at h
  | cons a as =>
    simp only [minElementBy, Option.some.injEq] at h
    subst h
    exact foldl_min_spec size as a

/-- `std::max_element` returns a largest member of a non-empty list. -/
theorem maxElementBy_spec {l : List α} (hl : l ≠ []) :
    ∃ x, maxElementBy size l = some x ∧ x ∈ l ∧ ∀ y ∈ l, size y ≤ size x := by
  cases l with
  | nil => exact absurd rfl hl
  | cons a as => exact ⟨_, rfl, foldl_max_spec size as a⟩

theorem minElementBy_eq_none {l : List α} (h : minElementBy size l = none) : l = [] := by
  cases l with
  | nil => rfl
  | cons a as => simp [minElementBy] at h

end ElementBy

/-! ## Swarm sizes -/

/-- The size of every swarm of `m` satisfies `P`. -/
def EverySwarm (P : ℕ → Prop) (m : SwarmMap) : Prop :=
  ∀ id l, find? m id = some l → P l.length

/-- Every swarm holds between one and `MAX_SWARM_SIZE` nodes. -/
def SizesWithin (m : SwarmMap) : Prop := EverySwarm (fun n => 1 ≤ n ∧ n ≤ maxSwarmSize) m

/-- Every swarm holds exactly `MAX_SWARM_SIZE` nodes. -/
def Saturated (m : SwarmMap) : Prop := EverySwarm (· = maxSwarmSize) m

section EverySwarm

variable {P : ℕ → Prop} {m : SwarmMap}

theorem everySwarm_modify (h : EverySwarm P m) (k : UInt64) (f : List PublicKey → List PublicKey)
    (hf : ∀ l, find? m k = some l → P (f l).length) : EverySwarm P (OrderedMap.modify k f m) := by
  intro id l hl
  rw [find?_modify] at hl
  split at hl
  · obtain ⟨l', hl', rfl⟩ := Option.map_eq_some_iff.mp hl
    exact hf l' hl'
  · exact h id l hl

/-- `std::map::insert` keeps a swarm that is there, or adds the new one. -/
theorem everySwarm_insert (h : EverySwarm P m) (k : UInt64) {v : List PublicKey}
    (hv : P v.length) : EverySwarm P (OrderedMap.insert k v m) := by
  intro id l hl
  rw [find?_insert] at hl
  split at hl
  · rename_i hid
    subst hid
    cases hf : find? m id with
    | none =>
      rw [hf, Option.getD_none, Option.some.injEq] at hl
      exact hl ▸ hv
    | some l' =>
      rw [hf, Option.getD_some, Option.some.injEq] at hl
      exact hl ▸ h id l' hf
  · exact h id l hl

theorem EverySwarm.mono {Q : ℕ → Prop} (h : EverySwarm P m) (hPQ : ∀ n, P n → Q n) :
    EverySwarm Q m := fun id l hl => hPQ _ (h id l hl)

end EverySwarm

theorem swarmSize_of_find? {m : SwarmMap} {id : UInt64} {l : List PublicKey}
    (h : find? m id = some l) : swarmSize m id = l.length := by
  simp [swarmSize, h]

theorem swarmSize_le {m : SwarmMap} (h : SizesWithin m) (id : UInt64) :
    swarmSize m id ≤ maxSwarmSize := by
  cases hf : find? m id with
  | none => simp [swarmSize, hf]
  | some l => rw [swarmSize_of_find? hf]; exact (h id l hf).2

theorem swarmSize_modify (k : UInt64) (f : List PublicKey → List PublicKey) (m : SwarmMap)
    (id : UInt64) :
    swarmSize (OrderedMap.modify k f m) id =
      if id = k then (((find? m k).map f).getD []).length else swarmSize m id := by
  unfold swarmSize
  rw [find?_modify]
  split <;> rfl

/-- Appending to a swarm adds at most one node to its size. -/
theorem swarmSize_push_le (k : UInt64) (pk : PublicKey) (m : SwarmMap) :
    swarmSize (OrderedMap.modify k (· ++ [pk]) m) k ≤ swarmSize m k + 1 := by
  rw [swarmSize_modify, if_pos rfl]
  cases hf : find? m k with
  | none => simp
  | some l => simp [swarmSize_of_find? hf]

/-- Replacing a swarm's nodes, or appending one to a swarm with room, keeps the bounds. -/
theorem sizesWithin_modify {m : SwarmMap} (h : SizesWithin m) (k : UInt64)
    (f : List PublicKey → List PublicKey)
    (hf : ∀ l, find? m k = some l → 1 ≤ (f l).length ∧ (f l).length ≤ maxSwarmSize) :
    SizesWithin (OrderedMap.modify k f m) :=
  everySwarm_modify h k f hf

theorem sizesWithin_push {m : SwarmMap} (h : SizesWithin m) {k : UInt64} (pk : PublicKey)
    (hroom : swarmSize m k < maxSwarmSize) : SizesWithin (OrderedMap.modify k (· ++ [pk]) m) := by
  refine sizesWithin_modify h k _ fun l hl => ?_
  rw [swarmSize_of_find? hl] at hroom
  simp only [List.length_append, List.length_singleton]
  omega

/-! ## Steps 1 to 3: moving nodes into existing swarms -/

/-- What steps 1 to 3 keep: the size bounds, the swarm ids `ids₀`, and a queue no longer
than `b₀`. -/
structure Kept (ids₀ : List UInt64) (b₀ : ℕ) (st : SwarmState σ) : Prop where
  sizes : SizesWithin st.1
  keys_eq : keys st.1 = ids₀
  buffer_le : st.2.1.length ≤ b₀

variable {ids₀ : List UInt64} {b₀ : ℕ}

theorem kept_push {m : SwarmMap} {buffer rest : List PublicKey} {s s' : σ} {pk : PublicKey}
    {id : UInt64} (hk : Kept ids₀ b₀ (m, buffer, s)) (hroom : swarmSize m id < maxSwarmSize)
    (hlen : rest.length ≤ buffer.length) :
    Kept ids₀ b₀ (OrderedMap.modify id (· ++ [pk]) m, rest, s') :=
  ⟨sizesWithin_push hk.sizes pk hroom, by rw [keys_modify]; exact hk.keys_eq,
    by have := hk.buffer_le; simp only at this ⊢; omega⟩

/-- Step 1 for one swarm: the swarm never passes `MAX_SWARM_SIZE`, since it has room for
the `needed` nodes it may still receive. -/
theorem fillFromBuffer_outcome (hb₀ : b₀ < 2 ^ 64) (id : UInt64) :
    ∀ (needed : ℕ) (st : SwarmState σ), Kept ids₀ b₀ st →
      swarmSize st.1 id + needed ≤ maxSwarmSize →
      Outcome (Stall E) (Kept ids₀ b₀) (fillFromBuffer E id needed st)
  | 0, st, hk, _ => hk
  | needed + 1, (m, buffer, s), hk, hroom => by
    unfold fillFromBuffer
    split
    · exact hk
    · rename_i hne
      have hpos : 0 < buffer.length := List.length_pos_iff.mpr (by simpa using hne)
      refine (popRandomSnode_outcome E s buffer hpos (lt_of_le_of_lt hk.buffer_le hb₀)).bind ?_
      rintro ⟨pk, rest, s'⟩ ⟨-, hlen : rest.length + 1 = buffer.length⟩
      have hroom' : swarmSize m id < maxSwarmSize := by simp only at hroom; omega
      refine fillFromBuffer_outcome hb₀ id needed _ (kept_push hk hroom' (by omega)) ?_
      have := swarmSize_push_le id pk m
      simp only at hroom ⊢
      omega

/-- Step 1: the starving swarms are filled to at most `MIN_SWARM_SIZE`. -/
theorem fillStarving_outcome (hb₀ : b₀ < 2 ^ 64) :
    ∀ (ids : List UInt64) (st : SwarmState σ), Kept ids₀ b₀ st →
      Outcome (Stall E) (Kept ids₀ b₀) (fillStarving E ids st)
  | [], st, hk => hk
  | id :: ids, (m, buffer, s), hk => by
    unfold fillStarving
    have hroom : swarmSize m id + (minSwarmSize - swarmSize m id) ≤ maxSwarmSize := by
      have := swarmSize_le hk.sizes id
      simp only [minSwarmSize, maxSwarmSize] at this ⊢
      omega
    refine (fillFromBuffer_outcome E hb₀ id _ _ hk hroom).bind fun st hst => ?_
    split
    · exact hst
    · exact fillStarving_outcome hb₀ ids st hst

/-- Replacing a swarm by a shorter list does not make any swarm larger. -/
theorem swarmSize_replace_le {m : SwarmMap} {k : UInt64} {rest : List PublicKey}
    (hrest : rest.length ≤ swarmSize m k) (id : UInt64) :
    swarmSize (OrderedMap.modify k (fun _ => rest) m) id ≤ swarmSize m id := by
  rw [swarmSize_modify]
  split
  · rename_i hid
    subst hid
    cases hf : find? m id with
    | none => simp
    | some l => simpa [swarmSize_of_find? hf] using hrest
  · exact le_rfl

/-- Step 2 for one swarm: a node is taken only from a swarm above `MIN_SWARM_SIZE`, which
keeps at least `MIN_SWARM_SIZE`, and the receiving swarm has room for it. -/
theorem stealFor_outcome (hb₀ : b₀ < 2 ^ 64) {allSwarms : List UInt64} (hne : allSwarms ≠ [])
    (id : UInt64) :
    ∀ (needed : ℕ) (st : SwarmState σ), Kept ids₀ b₀ st →
      swarmSize st.1 id + needed ≤ maxSwarmSize →
      Outcome (Stall E) (fun r => Kept ids₀ b₀ r.1) (stealFor E allSwarms id needed st)
  | 0, st, hk, _ => hk
  | needed + 1, (m, buffer, s), hk, hroom => by
    obtain ⟨large, hlarge, -, -⟩ := maxElementBy_spec (swarmSize m) hne
    simp only [stealFor, hlarge, bind, Option.bind]
    split
    · exact hk
    · rename_i hbig
      have hsize := swarmSize_le hk.sizes large
      simp only [minSwarmSize, maxSwarmSize] at hbig hsize
      refine (popRandomSnode_outcome E s ((find? m large).getD [])
        (by unfold swarmSize at hbig; omega) (by unfold swarmSize at hsize; omega)).bind ?_
      rintro ⟨pk, rest, s'⟩ ⟨-, hrest : rest.length + 1 = swarmSize m large⟩
      dsimp only
      -- the swarm robbed keeps at least `MIN_SWARM_SIZE` nodes
      have hsizes : SizesWithin m := hk.sizes
      have hsizes' : SizesWithin (OrderedMap.modify large (fun _ => rest) m) :=
        sizesWithin_modify hsizes large _ fun l hl => by
          rw [swarmSize_of_find? hl] at hrest hsize hbig
          simp only [maxSwarmSize]
          omega
      have hk' : Kept ids₀ b₀ (OrderedMap.modify large (fun _ => rest) m, buffer, s') :=
        ⟨hsizes', by rw [keys_modify]; exact hk.keys_eq, hk.buffer_le⟩
      have hle := swarmSize_replace_le (m := m) (k := large) (by omega : rest.length ≤ swarmSize m large) id
      simp only at hroom
      refine stealFor_outcome hb₀ hne id needed _ (kept_push hk' (by omega) le_rfl) ?_
      have := swarmSize_push_le id pk (OrderedMap.modify large (fun _ => rest) m)
      simp only
      omega

/-- Step 2: nodes are taken from large swarms for the swarms still starving. -/
theorem stealStarving_outcome (hb₀ : b₀ < 2 ^ 64) (allSwarms : List UInt64) :
    ∀ (ids : List UInt64) (st : SwarmState σ), (∀ id ∈ ids, id ∈ allSwarms) →
      Kept ids₀ b₀ st → Outcome (Stall E) (Kept ids₀ b₀) (stealStarving E allSwarms ids st)
  | [], st, _, hk => hk
  | id :: ids, (m, buffer, s), hids, hk => by
    have hrest : ∀ id ∈ ids, id ∈ allSwarms := fun i hi => hids i (List.mem_cons_of_mem _ hi)
    unfold stealStarving
    split
    · exact stealStarving_outcome hb₀ allSwarms ids _ hrest hk
    · have hne : allSwarms ≠ [] := List.ne_nil_of_mem (hids id List.mem_cons_self)
      have hroom : swarmSize m id + (minSwarmSize - swarmSize m id) ≤ maxSwarmSize := by
        have := swarmSize_le hk.sizes id
        simp only [minSwarmSize, maxSwarmSize] at this ⊢
        omega
      refine (stealFor_outcome E hb₀ hne id _ _ hk hroom).bind ?_
      rintro ⟨st, canContinue⟩ hst
      dsimp only
      cases canContinue
      · exact hst
      · exact stealStarving_outcome hb₀ allSwarms ids st hrest hst

/-- Step 3: the smallest swarm is filled while it is below `MAX_SWARM_SIZE`, so when the
step ends with nodes still queued, every swarm is full. -/
theorem fillUnsaturated_outcome (hb₀ : b₀ < 2 ^ 64) {allSwarms : List UInt64}
    (hall : ∀ id ∈ ids₀, id ∈ allSwarms) :
    ∀ (fuel : ℕ) (st : SwarmState σ), Kept ids₀ b₀ st → st.2.1.length ≤ fuel →
      Outcome (Stall E) (fun st => Kept ids₀ b₀ st ∧ (st.2.1 = [] ∨ Saturated st.1))
        (fillUnsaturated E allSwarms fuel st)
  | 0, st, hk, hfuel => ⟨hk, Or.inl (List.eq_nil_of_length_eq_zero (by omega))⟩
  | fuel + 1, (m, buffer, s), hk, hfuel => by
    -- a swarm of the map is one of `allSwarms`
    have hin : ∀ id l, find? m id = some l → id ∈ allSwarms := fun id l hl =>
      hall id (hk.keys_eq ▸ mem_keys.mpr (by simp [hl]))
    unfold fillUnsaturated
    split
    · rename_i hempty
      exact ⟨hk, Or.inl (List.isEmpty_iff.mp hempty)⟩
    · rename_i hne
      split
      · rename_i hnone
        have hnil := minElementBy_eq_none _ hnone
        exact ⟨hk, Or.inr fun id l hl => absurd (hnil ▸ hin id l hl) List.not_mem_nil⟩
      · rename_i smallest hsmall
        obtain ⟨-, hmin⟩ := minElementBy_spec _ hsmall
        split
        · rename_i hfull
          refine ⟨hk, Or.inr fun id l hl => ?_⟩
          have h1 := hmin id (hin id l hl)
          have h2 := (hk.sizes id l hl).2
          rw [swarmSize_of_find? hl] at h1
          omega
        · rename_i hroom
          have hpos : 0 < buffer.length := List.length_pos_iff.mpr (by simpa using hne)
          refine (popRandomSnode_outcome E s buffer hpos (lt_of_le_of_lt hk.buffer_le hb₀)).bind ?_
          rintro ⟨pk, rest, s'⟩ ⟨-, hlen : rest.length + 1 = buffer.length⟩
          have hroom' : swarmSize m smallest < maxSwarmSize :=
            lt_of_le_of_ne (swarmSize_le hk.sizes smallest) hroom
          exact fillUnsaturated_outcome hb₀ hall fuel _ (kept_push hk hroom' (by omega))
            (by simp only at hlen hfuel ⊢; omega)

/-! ## Step 4: new swarms -/

/-- `get_new_swarm_id` returns an id that is neither the queue's nor one of `ids`. -/
theorem getNewSwarmIdLoop_fresh (ids : List UInt64) :
    ∀ (fuel : ℕ) (s : σ) (idNew id : UInt64) (s' : σ),
      getNewSwarmIdLoop E ids fuel s idNew = some (id, s') → id ≠ queueSwarmId ∧ id ∉ ids
  | 0, _, _, _, _, h => by simp [getNewSwarmIdLoop] at h
  | fuel + 1, s, idNew, id, s', h => by
    unfold getNewSwarmIdLoop at h
    split at h
    · simp only [bind, Option.bind] at h
      split at h
      · simp at h
      · exact getNewSwarmIdLoop_fresh ids fuel _ _ id s' h
    · rename_i hfresh
      simp only [Option.some.injEq, Prod.mk.injEq] at h
      rw [← h.1]
      exact not_or.mp hfresh

theorem getNewSwarmId_fresh {s s' : σ} {ids : List UInt64} {id : UInt64}
    (h : getNewSwarmId E s ids = some (id, s')) : id ≠ queueSwarmId ∧ id ∉ ids :=
  getNewSwarmIdLoop_fresh E ids _ s _ id s' h

/-- Step 4's selection: each of the `n` rounds takes the last queued node and, where swarms
exist, swaps it with a random member of a random swarm, so every swarm stays full. -/
theorem selectSnodes_outcome :
    ∀ (n : ℕ) (m : SwarmMap) (buffer : List PublicKey) (s : σ) (selected : List PublicKey),
      Saturated m → (keys m).Nodup → m.length < 2 ^ 64 → n ≤ buffer.length →
      Outcome (Stall E)
        (fun r => Saturated r.1.1 ∧ keys r.1.1 = keys m ∧ r.1.2.1.length + n = buffer.length ∧
          r.2.length = selected.length + n)
        (selectSnodes E n ((m, buffer, s), selected))
  | 0, m, buffer, s, selected, hsat, _, _, _ => ⟨hsat, rfl, rfl, rfl⟩
  | n + 1, m, buffer, s, selected, hsat, hnodup, hfit, hn => by
    obtain ⟨fresh, hlast⟩ : ∃ fresh, buffer.getLast? = some fresh :=
      Option.isSome_iff_exists.mp (by
        rw [List.getLast?_isSome]
        exact List.ne_nil_of_length_pos (by omega))
    have hdrop : buffer.dropLast.length + 1 = buffer.length := by
      rw [List.length_dropLast]
      omega
    simp only [selectSnodes, hlast, bind, Option.bind]
    split
    · rename_i hpos
      have hlen : (UInt64.ofNat m.length).toNat = m.length := by
        rw [UInt64.toNat_ofNat', Nat.mod_eq_of_lt hfit]
      cases hdraw : uniformDistributionPortable E s (UInt64.ofNat m.length) with
      | none => exact ⟨s, uniformDistributionPortable_eq_none (by rw [hlen]; exact hpos) hdraw⟩
      | some r =>
        obtain ⟨idx, s'⟩ := r
        have hidx : idx.toNat < m.length := by
          have := uniformDistributionPortable_lt hdraw
          rwa [hlen] at this
        -- the drawn entry is the swarm a lookup of its id finds, so it is full
        have hentry : m[idx.toNat]? = some m[idx.toNat] := List.getElem?_eq_getElem hidx
        generalize m[idx.toNat] = e at hentry
        obtain ⟨key, swarm⟩ := e
        have hfind := find?_of_getElem? hnodup hentry
        have hfull : swarm.length = maxSwarmSize := hsat key swarm hfind
        simp only [hentry]
        refine (popRandomSnode_outcome E s' swarm (by rw [hfull]; decide)
          (by rw [hfull]; decide)).bind ?_
        rintro ⟨snode, rest, s''⟩ ⟨-, hrest : rest.length + 1 = swarm.length⟩
        dsimp only
        have hsat' : Saturated (OrderedMap.modify key (fun _ => rest ++ [fresh]) m) :=
          everySwarm_modify hsat key _ fun l hl => by
            rw [hfind, Option.some.injEq] at hl
            subst hl
            simp only [List.length_append, List.length_singleton]
            omega
        have hkeys : keys (OrderedMap.modify key (fun _ => rest ++ [fresh]) m) = keys m :=
          keys_modify _ _ _
        have hlenEq : (OrderedMap.modify key (fun _ => rest ++ [fresh]) m).length = m.length :=
          length_modify _ _ _
        refine (selectSnodes_outcome n _ buffer.dropLast s'' (selected ++ [snode]) hsat'
          (hkeys ▸ hnodup) (hlenEq ▸ hfit) (by omega)).mono id ?_
        rintro r ⟨hsat'', hkeys'', hbuf, hsel⟩
        refine ⟨hsat'', hkeys''.trans hkeys, by omega, ?_⟩
        rw [hsel, List.length_append, List.length_singleton]
        omega
    · refine (selectSnodes_outcome n m buffer.dropLast s (selected ++ [fresh]) hsat hnodup hfit
        (by omega)).mono id ?_
      rintro r ⟨hsat', hkeys', hbuf, hsel⟩
      refine ⟨hsat', hkeys', by omega, ?_⟩
      rw [hsel, List.length_append, List.length_singleton]
      omega

/-- What step 4 keeps: the size bounds, distinct swarm ids none of which is the queue's,
only full swarms while nodes are queued, and sizes that fit in 64 bits. -/
structure Growing (st : SwarmState σ) : Prop where
  sizes : SizesWithin st.1
  nodup : (keys st.1).Nodup
  queue_not_mem : queueSwarmId ∉ keys st.1
  full : st.2.1 = [] ∨ Saturated st.1
  fit : st.1.length + st.2.1.length < 2 ^ 64

/-- The swarm `std::map::insert` adds, or keeps, is full. -/
theorem growing_insert {m m' : SwarmMap} {buffer buffer' selected : List PublicKey} {s s' : σ}
    {newId : UInt64} (hg : Growing (m, buffer, s)) (hq : newId ≠ queueSwarmId)
    (hsat : Saturated m') (hkeys : keys m' = keys m) (hsel : selected.length = maxSwarmSize)
    (hbuf : buffer'.length + maxSwarmSize = buffer.length) :
    Growing (OrderedMap.insert newId selected m', buffer', s') := by
  have hsat' : Saturated (OrderedMap.insert newId selected m') := everySwarm_insert hsat newId hsel
  have hlen : m'.length = m.length := by
    simpa only [keys, List.length_map] using congrArg List.length hkeys
  have hfit := hg.fit
  have hins := length_insert_le newId selected m'
  refine ⟨hsat'.mono fun n hn => ?_, keys_insert_nodup _ _ (hkeys ▸ hg.nodup), ?_, Or.inr hsat', ?_⟩
  · simp only [hn, maxSwarmSize]
    omega
  · rw [mem_keys_insert, hkeys]
    exact fun h => h.elim (fun h' => hq h'.symm) hg.queue_not_mem
  · simp only [maxSwarmSize] at hfit hbuf ⊢
    omega

/-- Step 4: while `MAX_SWARM_SIZE + SWARM_BUFFER` nodes are queued, a full swarm is added;
so the step ends with a shorter queue. -/
theorem createSwarms_outcome (allSwarms : List UInt64) (seed : UInt64) :
    ∀ (fuel : ℕ) (st : SwarmState σ), Growing st → st.2.1.length ≤ fuel →
      Outcome (Stall E ∨ ∃ s, getNewSwarmId E s allSwarms = none)
        (fun st => Growing st ∧ st.2.1.length < maxSwarmSize + swarmBuffer)
        (createSwarms E allSwarms seed fuel st)
  | 0, st, hg, hfuel => ⟨hg, by simp only [maxSwarmSize, swarmBuffer]; omega⟩
  | fuel + 1, (m, buffer, s), hg, hfuel => by
    unfold createSwarms
    split
    · rename_i hlong
      have hsat : Saturated m := hg.full.resolve_left fun h => by
        have hnil : buffer = [] := h
        simp [hnil, maxSwarmSize, swarmBuffer] at hlong
      have hfit := hg.fit
      simp only at hfit hfuel hlong
      cases hid : getNewSwarmId E s allSwarms with
      | none => exact Or.inr ⟨s, hid⟩
      | some r =>
        obtain ⟨newId, s₁⟩ := r
        have hq := (getNewSwarmId_fresh E hid).1
        simp only [bind, Option.bind]
        cases hsh : tritonShuffle E buffer (seed + newId) with
        | none =>
          obtain ⟨k, hk⟩ := tritonShuffle_eq_none E (by omega) hsh
          exact Or.inl ⟨_, hk⟩
        | some buffer₁ =>
          have hperm := (tritonShuffle_perm E hsh).length_eq
          dsimp only
          refine ((selectSnodes_outcome E maxSwarmSize m buffer₁ s₁ [] hsat hg.nodup
            (by omega) (by simp only [maxSwarmSize] at hlong ⊢; omega)).mono Or.inl
              fun r h => h).bind ?_
          rintro ⟨⟨m', buffer', s'⟩, selected⟩ ⟨hsat', hkeys, hbuf, hsel⟩
          dsimp only at hsat' hkeys hbuf hsel ⊢
          rw [List.length_nil, Nat.zero_add] at hsel
          refine createSwarms_outcome allSwarms seed fuel _
            (growing_insert hg hq hsat' hkeys hsel (by omega)) ?_
          show buffer'.length ≤ fuel
          simp only [maxSwarmSize, swarmBuffer] at hbuf hlong
          omega
    · rename_i hshort
      exact ⟨hg, Nat.lt_of_not_ge hshort⟩

/-! ## The whole computation -/

/-- The swarms `calc_swarm_changes` starts from, the map without its queue, keep the bounds
of the input and have distinct ids other than the queue's. -/
theorem erase_queue_growing {swarmToSnodes : SwarmMap} (hkeys : (keys swarmToSnodes).Nodup)
    (hsizes : ∀ id l, id ≠ queueSwarmId → find? swarmToSnodes id = some l →
      1 ≤ l.length ∧ l.length ≤ maxSwarmSize) :
    SizesWithin (OrderedMap.erase queueSwarmId swarmToSnodes) ∧
      (keys (OrderedMap.erase queueSwarmId swarmToSnodes)).Nodup ∧
      queueSwarmId ∉ keys (OrderedMap.erase queueSwarmId swarmToSnodes) := by
  refine ⟨fun id l hl => ?_, ?_, ?_⟩
  · rw [find?_erase] at hl
    split at hl
    · simp at hl
    · rename_i hid
      exact hsizes id l hid hl
  · rw [keys_erase]
    exact hkeys.filter _
  · simp [keys_erase]

/-- `calc_swarm_changes` over any engine: from swarms of one to `MAX_SWARM_SIZE` nodes it
returns swarms of one to `MAX_SWARM_SIZE` nodes and a queue shorter than
`MAX_SWARM_SIZE + SWARM_BUFFER`, and while nodes are queued every swarm is full; or a
rejection loop stalls, or the search for a fresh swarm id does not end. -/
theorem calcSwarmChangesWith_outcome (swarmToSnodes : SwarmMap) (seed : UInt64)
    (hkeys : (keys swarmToSnodes).Nodup)
    (hsizes : ∀ id l, id ≠ queueSwarmId → find? swarmToSnodes id = some l →
      1 ≤ l.length ∧ l.length ≤ maxSwarmSize)
    (hfit : swarmToSnodes.length + ((find? swarmToSnodes queueSwarmId).getD []).length < 2 ^ 64) :
    Outcome (Stall E ∨ ∃ s ids, ids.Perm (keys (OrderedMap.erase queueSwarmId swarmToSnodes)) ∧
        getNewSwarmId E s ids = none)
      (fun m' => (∀ id l, id ≠ queueSwarmId → find? m' id = some l →
          1 ≤ l.length ∧ l.length ≤ maxSwarmSize) ∧
        ∃ queue, find? m' queueSwarmId = some queue ∧ queue.length < maxSwarmSize + swarmBuffer ∧
          (queue ≠ [] → ∀ id l, id ≠ queueSwarmId → find? m' id = some l →
            l.length = maxSwarmSize))
      (calcSwarmChangesWith E swarmToSnodes seed) := by
  obtain ⟨hsizes₀, hnodup₀, hq₀⟩ := erase_queue_growing hkeys hsizes
  have hlen₀ : (OrderedMap.erase queueSwarmId swarmToSnodes).length ≤ swarmToSnodes.length :=
    List.length_filter_le _ _
  unfold calcSwarmChangesWith
  generalize OrderedMap.erase queueSwarmId swarmToSnodes = m₀ at *
  generalize (find? swarmToSnodes queueSwarmId).getD [] = buffer₀ at *
  have hb₀ : buffer₀.length < 2 ^ 64 := by omega
  simp only [bind, Option.bind]
  cases hsh : tritonShuffle E ((keys m₀).insertionSort (· ≤ ·)) seed with
  | none =>
    obtain ⟨k, hk⟩ := tritonShuffle_eq_none E (by
      rw [List.length_insertionSort]
      simp only [keys, List.length_map]
      omega) hsh
    exact Or.inl ⟨_, hk⟩
  | some allSwarms =>
    have hperm : allSwarms.Perm (keys m₀) :=
      (tritonShuffle_perm E hsh).trans (List.perm_insertionSort _ _)
    dsimp only
    -- steps 1 to 3 keep the swarm ids and never lengthen the queue
    have hk₀ : Kept (keys m₀) buffer₀.length (m₀, buffer₀, E.seed seed) := ⟨hsizes₀, rfl, le_rfl⟩
    refine ((fillStarving_outcome E hb₀ _ _ hk₀).mono Or.inl fun _ h => h).bind
      fun st₁ hk₁ => ?_
    refine ((stealStarving_outcome E hb₀ allSwarms _ st₁
      (fun id hid => (List.mem_filter.mp hid).1) hk₁).mono Or.inl fun _ h => h).bind
        fun st₂ hk₂ => ?_
    refine ((fillUnsaturated_outcome E hb₀ (fun id hid => hperm.mem_iff.mpr hid) _ st₂ hk₂
      le_rfl).mono Or.inl fun _ h => h).bind fun st₃ h₃ => ?_
    obtain ⟨hk₃, hfull₃⟩ := h₃
    have hlen₃ : st₃.1.length = m₀.length := by
      simpa only [keys, List.length_map] using congrArg List.length hk₃.keys_eq
    have hg₃ : Growing st₃ := ⟨hk₃.sizes, hk₃.keys_eq ▸ hnodup₀, hk₃.keys_eq ▸ hq₀, hfull₃,
      by have := hk₃.buffer_le; omega⟩
    -- step 4 fails only by a stall or by a search for an id that does not end
    refine ((createSwarms_outcome E allSwarms seed _ st₃ hg₃ le_rfl).mono
      (fun h => h.elim Or.inl fun h' => Or.inr (h'.elim fun s hs => ⟨s, allSwarms, hperm, hs⟩))
        fun _ h => h).bind ?_
    rintro ⟨m₄, buffer₄, s₄⟩ ⟨hg₄, hshort⟩
    -- step 6 puts the queue back under an id no swarm has
    have hq₄ : find? m₄ queueSwarmId = none := by
      have := hg₄.queue_not_mem
      rw [mem_keys] at this
      simpa using this
    refine ⟨fun id l hid hl => ?_, buffer₄, by simp [find?_insert, hq₄], hshort, fun hne => ?_⟩
    · rw [find?_insert, if_neg hid] at hl
      exact hg₄.sizes id l hl
    · intro id l hid hl
      rw [find?_insert, if_neg hid] at hl
      exact (hg₄.full.resolve_left hne) id l hl

/-- One swarm of one node and a queue of fifteen, under `std::mt19937_64`. -/
def fifteenQueued : SwarmMap :=
  [(0, (List.range 15).map fun i => ⟨BitVec.ofNat 256 (i + 2)⟩), (7, [⟨1⟩])]

/-- An engine whose every word is 5. -/
def constantFive : Engine Unit := ⟨fun _ => (), fun _ => (5, ())⟩

/-- Twenty-five queued nodes and no swarm. -/
def twentyFiveQueued : SwarmMap := [(0, (List.range 25).map fun i => ⟨BitVec.ofNat 256 (i + 1)⟩)]

theorem repeated_swarm_id_drops_nodes :
    (keys twentyFiveQueued).Nodup ∧
    ((find? twentyFiveQueued queueSwarmId).getD []).Nodup ∧
    getNewSwarmId constantFive () [] = some (5, ()) ∧
    (calcSwarmChangesWith constantFive twentyFiveQueued 0).map
      (fun m => m.map fun e => (e.1, e.2.length)) = some [(0, 5), (5, 10)] := by
  decide +kernel

end Equilibria.SwarmBounds
