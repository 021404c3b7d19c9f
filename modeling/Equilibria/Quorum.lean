import Equilibria.StakeAccounting

/-!
# Quorums drawn from the funded nodes

`store_quorum_state_from_rewards_list` shuffles the indexes `0 .. n - 1` of the funded nodes
with a seed read from the block hash; the first `min n QUORUM_SIZE` shuffled indexes name the
voters and the next ones the nodes to test. Since `triton_shuffle` only exchanges entries, the
shuffled indexes are a permutation of `0 .. n - 1`: every index read is below `n`, and distinct
indexes name distinct nodes because the funded keys are distinct.

The function stores nothing when `get_block_id_by_height` returns the null hash.
-/

namespace Equilibria.Quorum

open CryptonoteBasic OrderedMap ServiceNodeState ServiceNodeList Equilibria.Random UndoLog

/-- What a stored quorum is for the funded keys `keys`: the counts the source computes, entries
from the list, no key twice and no voter tested. -/
structure QuorumOf (keys : List PublicKey) (state : QuorumState) : Prop where
  /-- `min(n, QUORUM_SIZE)` voters. -/
  quorum_length : state.quorumNodes.length = min keys.length quorumSize
  /-- `max(r / NTH_OF_THE_NETWORK_TO_TEST, min(MIN_NODES_TO_TEST, r))` nodes to test, with `r`
  the nodes that do not vote. -/
  test_length : state.nodesToTest.length =
    max ((keys.length - min keys.length quorumSize) / nthOfTheNetworkToTest)
      (min minNodesToTest (keys.length - min keys.length quorumSize))
  /-- Every voter is a funded node. -/
  quorum_mem : ∀ key ∈ state.quorumNodes, key ∈ keys
  /-- Every node to test is a funded node. -/
  test_mem : ∀ key ∈ state.nodesToTest, key ∈ keys
  /-- No node votes twice. -/
  quorum_nodup : state.quorumNodes.Nodup
  /-- No node is tested twice. -/
  test_nodup : state.nodesToTest.Nodup
  /-- No node votes on itself. -/
  disjoint : ∀ key ∈ state.quorumNodes, key ∉ state.nodesToTest

/-! ## The funded keys -/

/-- The funded keys are keys of the list, so they are distinct. -/
theorem getServiceNodesPubkeys_nodup (ctx : Context) (s : ServiceNodeList) :
    (getServiceNodesPubkeys ctx s).Nodup := by
  unfold getServiceNodesPubkeys
  rw [(List.perm_insertionSort _ _).nodup_iff]
  have hsub : ∀ entries : List (Sigma fun _ : PublicKey => ServiceNodeInfo),
      (entries.filterMap fun e =>
        if (e.2.isValid && ctx.hardForkVersion s.height > 9) || e.2.isFullyFunded then some e.1
        else none).Sublist (entries.map Sigma.fst) := by
    intro entries
    induction entries with
    | nil => exact List.Sublist.slnil
    | cons e es ih =>
      simp only [List.filterMap_cons, List.map_cons]
      split
      · exact ih.cons _
      · rename_i hsome
        split at hsome
        · cases hsome
          exact ih.cons_cons _
        · cases hsome
  exact (hsub _).nodup s.serviceNodesInfos.keys_nodup

/-! ## Reading keys by shuffled index -/

section Read

variable {keys : List PublicKey} {indexes : List ℕ}

/-- Indexes below the length read one key each. -/
theorem length_filterMap_getElem? (hlt : ∀ i ∈ indexes, i < keys.length) :
    (indexes.filterMap (keys[·]?)).length = indexes.length := by
  induction indexes with
  | nil => rfl
  | cons i rest ih =>
    have hi := hlt i List.mem_cons_self
    rw [List.filterMap_cons, List.getElem?_eq_getElem hi, List.length_cons, List.length_cons,
      ih fun j hj => hlt j (List.mem_cons_of_mem i hj)]

theorem mem_of_mem_filterMap_getElem? {key : PublicKey}
    (h : key ∈ indexes.filterMap (keys[·]?)) : key ∈ keys := by
  obtain ⟨i, -, hi⟩ := List.mem_filterMap.mp h
  exact List.mem_of_getElem? hi

/-- Distinct keys, read at the index of a key in the list of indexes. -/
theorem index_of_mem_filterMap_getElem? {key : PublicKey}
    (h : key ∈ indexes.filterMap (keys[·]?)) : ∃ i ∈ indexes, keys[i]? = some key :=
  List.mem_filterMap.mp h

/-- Distinct indexes read distinct keys of a duplicate-free list. -/
theorem nodup_filterMap_getElem? (hkeys : keys.Nodup) (hindexes : indexes.Nodup) :
    (indexes.filterMap (keys[·]?)).Nodup := by
  refine hindexes.filterMap fun i j key hi hj => ?_
  have hi' : keys[i]? = some key := hi
  have hj' : keys[j]? = some key := hj
  have hlt : i < keys.length := (List.getElem?_eq_some_iff.mp hi').1
  exact (List.getElem?_inj hlt hkeys).mp (hi'.trans hj'.symm)

end Read

/-! ## The stored quorum -/

/-- The assignment block of `store_quorum_state_from_rewards_list`: the keys at the first
`min n QUORUM_SIZE` shuffled indexes vote, and the keys at the next ones are tested. -/
def quorumFromIndexes (keys : List PublicKey) (indexes : List ℕ) : QuorumState :=
  let quorumCount := min keys.length quorumSize
  let numRemainingNodes := indexes.length - quorumCount
  let numNodesToTest := max (numRemainingNodes / nthOfTheNetworkToTest)
    (min minNodesToTest numRemainingNodes)
  ⟨(indexes.take quorumCount).filterMap (keys[·]?),
    ((indexes.drop quorumCount).take numNodesToTest).filterMap (keys[·]?)⟩

/-- With a hash that is not null, the function stores under the height the quorum read from the
shuffled indexes; with the null hash it stores nothing. -/
theorem storeQuorumStateFromRewardsList_eq_some {ctx : Context} {s s' : ServiceNodeList}
    {height : ℕ} (h : storeQuorumStateFromRewardsList ctx s height = some s') :
    (ctx.blockIdByHeight height = nullHash ∧ s' = s) ∨
      (ctx.blockIdByHeight height ≠ nullHash ∧ ∃ indexes,
        tritonShuffle mt19937_64 (List.range (getServiceNodesPubkeys ctx s).length)
          (seedOfHash (ctx.blockIdByHeight height)) = some indexes ∧
        s' = { s with
          quorumStates := insertOrAssign height
            (quorumFromIndexes (getServiceNodesPubkeys ctx s) indexes) s.quorumStates }) := by
  dsimp only [storeQuorumStateFromRewardsList] at h
  split at h
  · exact .inl ⟨‹_›, (Option.some.inj h).symm⟩
  · simp only [Option.bind_eq_bind, Option.bind_eq_some_iff, Option.pure_def,
      Option.some.injEq] at h
    obtain ⟨indexes, hshuffle, rfl⟩ := h
    exact .inr ⟨‹_›, indexes, hshuffle, rfl⟩

/-- A permutation of `0 .. n - 1`, cut after the voters, reads a quorum of the funded keys. -/
theorem quorumOf_of_perm {keys : List PublicKey} {indexes : List ℕ} (hkeys : keys.Nodup)
    (hperm : indexes.Perm (List.range keys.length)) :
    QuorumOf keys (quorumFromIndexes keys indexes) := by
  have hlen : indexes.length = keys.length := by rw [hperm.length_eq, List.length_range]
  have hlt : ∀ i ∈ indexes, i < keys.length := fun i hi =>
    List.mem_range.mp (hperm.mem_iff.mp hi)
  have hnodup : indexes.Nodup := hperm.nodup_iff.mpr List.nodup_range
  -- the number tested never exceeds the nodes that do not vote
  have htested : max ((keys.length - min keys.length quorumSize) / nthOfTheNetworkToTest)
      (min minNodesToTest (keys.length - min keys.length quorumSize)) ≤
      keys.length - min keys.length quorumSize := by
    apply max_le (Nat.div_le_self _ _) (min_le_right _ _)
  dsimp only [quorumFromIndexes]
  rw [hlen]
  constructor
  · rw [length_filterMap_getElem? fun i hi => hlt i (List.mem_of_mem_take hi), List.length_take,
      hlen]
    exact min_eq_left (min_le_left _ _)
  · rw [length_filterMap_getElem? fun i hi => hlt i (List.mem_of_mem_drop (List.mem_of_mem_take hi)),
      List.length_take, List.length_drop, hlen]
    exact min_eq_left htested
  · exact fun key hkey => mem_of_mem_filterMap_getElem? hkey
  · exact fun key hkey => mem_of_mem_filterMap_getElem? hkey
  · exact nodup_filterMap_getElem? hkeys (hnodup.sublist (List.take_sublist _ _))
  · exact nodup_filterMap_getElem? hkeys
      (hnodup.sublist ((List.take_sublist _ _).trans (List.drop_sublist _ _)))
  · intro key hvote htest
    obtain ⟨i, hi, hkey⟩ := index_of_mem_filterMap_getElem? hvote
    obtain ⟨j, hj, hkey'⟩ := index_of_mem_filterMap_getElem? htest
    -- a key read twice was read at one index, which cannot be both before and after the cut
    have hij : i = j :=
      (List.getElem?_inj (List.getElem?_eq_some_iff.mp hkey).1 hkeys).mp (hkey.trans hkey'.symm)
    subst hij
    exact List.disjoint_take_drop hnodup le_rfl hi (List.mem_of_mem_take hj)

/-- What `store_quorum_state_from_rewards_list` does: nothing for the null hash, and otherwise it
stores under the height a quorum of the funded keys, read from a permutation of their indexes. -/
def StoresQuorum (ctx : Context) (s : ServiceNodeList) (height : ℕ) (s' : ServiceNodeList) :
    Prop :=
  (ctx.blockIdByHeight height = nullHash ∧ s' = s) ∨
    (ctx.blockIdByHeight height ≠ nullHash ∧ ∃ indexes,
      indexes.Perm (List.range (getServiceNodesPubkeys ctx s).length) ∧
      s' = { s with
        quorumStates := insertOrAssign height
          (quorumFromIndexes (getServiceNodesPubkeys ctx s) indexes) s.quorumStates } ∧
      QuorumOf (getServiceNodesPubkeys ctx s)
        (quorumFromIndexes (getServiceNodesPubkeys ctx s) indexes))

/-- What the function stores when it returns is a quorum of the funded keys. -/
theorem storesQuorum_of_eq_some {ctx : Context} {s s' : ServiceNodeList} {height : ℕ}
    (h : storeQuorumStateFromRewardsList ctx s height = some s') :
    StoresQuorum ctx s height s' := by
  rcases storeQuorumStateFromRewardsList_eq_some h with hnull | ⟨hhash, indexes, hshuffle, rfl⟩
  · exact .inl hnull
  · have hperm := tritonShuffle_perm mt19937_64 hshuffle
    exact .inr ⟨hhash, indexes, hperm, rfl,
      quorumOf_of_perm (getServiceNodesPubkeys_nodup ctx s) hperm⟩

/-- The function fails to store only when a rejection loop of the shuffle never accepts, at a
state of the engine it seeds from a hash that is not null: it never divides by zero. -/
theorem storeQuorumStateFromRewardsList_eq_none {ctx : Context} {s : ServiceNodeList}
    {height : ℕ} (hsize : (getServiceNodesPubkeys ctx s).length < 2 ^ 64)
    (h : storeQuorumStateFromRewardsList ctx s height = none) :
    ctx.blockIdByHeight height ≠ nullHash ∧
      ∃ k, Stalls mt19937_64
        (mt19937_64.advance (mt19937_64.seed (seedOfHash (ctx.blockIdByHeight height))) k) := by
  dsimp only [storeQuorumStateFromRewardsList] at h
  split at h
  · cases h
  · rename_i hhash
    refine ⟨hhash, ?_⟩
    simp only [Option.bind_eq_bind, Option.bind_eq_none_iff] at h
    cases hshuffle : tritonShuffle mt19937_64 (List.range (getServiceNodesPubkeys ctx s).length)
        (seedOfHash (ctx.blockIdByHeight height)) with
    | none => exact tritonShuffle_eq_none mt19937_64 (by rw [List.length_range]; exact hsize) hshuffle
    | some indexes => exact absurd (h indexes hshuffle) (by simp)

/-! ## A quorum drawn, and the null hash -/

/-- The grace run's chain, whose block hashes are null, with the hash `1` at every height. -/
def hashedContext : Context := { graceContext with blockIdByHeight := fun _ => ⟨1⟩ }

/-- The grace run's list with a second funded node, listed under the key 8 with the record of
`nodeKey`. -/
def twoNodeState : ServiceNodeList :=
  { graceState with
    serviceNodesInfos := graceState.serviceNodesInfos.insert ⟨8⟩ StakeAccounting.graceRecord }

end Equilibria.Quorum
