import Equilibria.ServiceNodeTx
import Equilibria.SwarmChanges

/-!
# The service-node list over blocks

`block_added_generic`, `blockchain_detached` and `init` of `service_node_list.cpp`, with the
helpers they call: the expiry of nodes whose stake unlocked, the swarm update, the quorum of
each block, and the winner a block pays.

`block_added_generic` checks `m_height == block_height` only with `assert`, which release
builds compile out; the model follows release builds. `store()` writes the data members to
the database after every block and every detach, so the data `init` loads back during a
`blockchain_detached` are the list as it was before that call. A call that does not return (a
rejection loop that runs on, `at` on a missing key, a division by zero) is `none`.
-/

namespace Equilibria.ServiceNodeList

open CryptonoteBasic MapJournal OrderedMap ServiceNodeRules ServiceNodeState ServiceNodeTx
  FormatUtils Equilibria.Random SwarmChanges

/-- `UINT32_MAX`, the transaction index of a block's winner. -/
def uint32Max : ℕ := 0xFFFFFFFF

/-- `std::numeric_limits<uint64_t>::max()`. -/
def uint64Max : ℕ := 0xFFFFFFFFFFFFFFFF

/-- The seed read from the first 8 bytes of a block hash (`std::memcpy(&seed, hash.data, 8)`). -/
def seedOfHash (hash : Hash) : UInt64 := UInt64.ofNat hash.data.toNat

variable (env : Env) (ctx : Context)

/-! ## Expiry -/

/-- `get_expired_nodes`: from hard fork 5 the listed nodes whose lock period and grace period
are over; before it, the nodes registered in the block a lock period back. -/
def getExpiredNodes (s : ServiceNodeList) (blockHeight : ℕ) : List PublicKey :=
  let hfVersion := ctx.hardForkVersion blockHeight
  let lockBlocks := getStakingRequirementLockBlocks env.nettype +
    (if hfVersion ≥ 5 then stakingRequirementLockBlocksExcess else 0)
  if blockHeight < lockBlocks then []
  else if hfVersion ≥ 5 then
    s.serviceNodesInfos.entries.filterMap fun e =>
      if blockHeight > e.2.registrationHeight + lockBlocks then some e.1 else none
  else
    let expiredNodesBlockHeight := blockHeight - lockBlocks
    match ctx.blocks expiredNodesBlockHeight with
    | none => []
    | some (block, txs) =>
      txs.zipIdx.filterMap fun (tx, index) =>
        (isRegistrationTx env ctx tx block.timestamp expiredNodesBlockHeight index).map Prod.fst

/-- The expiry loop of `block_added_generic`: each expired node still listed is removed, its
record recorded first; the flag says whether any was. -/
def expireNodes (blockHeight : ℕ) : ServiceNodeList → List PublicKey → ServiceNodeList × Bool
  | s, [] => (s, false)
  | s, pubkey :: pubkeys =>
    match s.serviceNodesInfos.lookup pubkey with
    | none => expireNodes blockHeight s pubkeys
    | some info =>
      let s' := { s with
        rollbackEvents := s.rollbackEvents ++ [.rollbackChange blockHeight pubkey info]
        serviceNodesInfos := s.serviceNodesInfos.erase pubkey }
      ((expireNodes blockHeight s' pubkeys).1, true)

/-! ## Winner -/

/-- The reward-queue order of `select_winner`: `std::pair` compared lexicographically. -/
def waitingSinceLt (a b : ℕ × ℕ) : Bool := a.1 < b.1 || (a.1 = b.1 && a.2 < b.2)

/-- Whether `select_winner` considers a node (line 1100, with `operator_portions` read as
`portions_for_operator` and `contributors.length()` as `contributors.size()`). -/
def isWinnerCandidate (hfVersion : ℕ) (info : ServiceNodeInfo) : Bool :=
  ((info.isValid && hfVersion > 9) || info.isFullyFunded) &&
    ((info.portionsForOperator ≠ stakingPortions && info.contributors.length > 1) ||
      hfVersion < 12)

/-- The loop of `select_winner` over the entries in iteration order, from the candidate `key`
waiting since `oldest`: the candidate waiting the longest. -/
def selectWinnerFrom (hfVersion : ℕ) (entries : List (Sigma fun _ : PublicKey => ServiceNodeInfo))
    (oldest : ℕ × ℕ) (key : PublicKey) : PublicKey :=
  match entries with
  | [] => key
  | e :: es =>
    if isWinnerCandidate hfVersion e.2 then
      let waitingSince := (e.2.lastRewardBlockHeight, e.2.lastRewardTransactionIndex)
      if waitingSinceLt waitingSince oldest then selectWinnerFrom hfVersion es waitingSince e.1
      else selectWinnerFrom hfVersion es oldest key
    else selectWinnerFrom hfVersion es oldest key

/-- `select_winner`: the candidate that was paid longest ago; its `prev_id` argument is not
read. -/
def selectWinner (s : ServiceNodeList) : PublicKey :=
  selectWinnerFrom (ctx.hardForkVersion s.height) s.serviceNodesInfos.entries
    (uint64Max, uint32Max) nullPkey

/-- The portions `get_winner_addresses_and_portions` gives the operator. -/
def operatorPortionsOf (hfVersion : ℕ) (info : ServiceNodeInfo) : UInt64 :=
  if info.totalContributed ≥ info.stakingRequirement - info.stakingRequirement / 10 then
    info.portionsForOperator
  else if hfVersion < 12 then info.portionsForOperator
  else info.portionsForOperatorNoFee

/-- The contributor loop of `get_winner_addresses_and_portions`: each contributor's share of
the portions left after the operator's, in 128-bit arithmetic, and the operator's portions on
top for the contributor at the operator's address. -/
def contributorPortions (hfVersion : ℕ) (info : ServiceNodeInfo) :
    List (AccountPublicAddress × UInt64) :=
  let operatorPortions := operatorPortionsOf hfVersion info
  let remainingPortions := stakingPortions - operatorPortions
  info.contributors.map fun contributor =>
    let (lo, hi) := IntUtil.mul128 contributor.amount remainingPortions
    let resultlo := (IntUtil.div128_64 hi lo info.stakingRequirement).2.1
    (contributor.address,
      if contributor.address = info.operatorAddress then resultlo + operatorPortions else resultlo)

/-- `get_winner_addresses_and_portions`: the winner's contributors and their portions, or the
null address with every portion when there is no winner; `none` is `at` throwing. -/
def getWinnerAddressesAndPortions (s : ServiceNodeList) (height : ℕ) :
    Option (List (AccountPublicAddress × UInt64)) :=
  let key := selectWinner ctx s
  if key = nullPkey then some [(nullAddress, stakingPortions)]
  else (s.serviceNodesInfos.lookup key).map (contributorPortions (ctx.hardForkVersion height))

/-! ## Swarms and quorums -/

/-- The gathering loop of `update_swarms`: each node joins its swarm's list, in iteration
order. -/
def gatherSwarms (entries : List (Sigma fun _ : PublicKey => ServiceNodeInfo)) : SwarmMap :=
  entries.foldl (fun m e =>
    insertOrAssign e.2.swarmId ((OrderedMap.find? m e.2.swarmId).getD [] ++ [e.1]) m) []

/-- The apply loop of `update_swarms` for one swarm: each node whose swarm changed gets the new
id, its record recorded first. -/
def applySwarm (height : ℕ) (swarmId : UInt64) :
    ServiceNodeList → List PublicKey → Option ServiceNodeList
  | s, [] => some s
  | s, snode :: snodes => do
    let snInfo ← s.serviceNodesInfos.lookup snode
    if snInfo.swarmId = swarmId then applySwarm height swarmId s snodes
    else
      let s' := { s with
        rollbackEvents := s.rollbackEvents ++ [RollbackEvent.rollbackChange height snode snInfo]
        serviceNodesInfos := s.serviceNodesInfos.insert snode { snInfo with swarmId } }
      applySwarm height swarmId s' snodes

/-- The apply loop of `update_swarms` over all swarms, in id order. -/
def applySwarms (height : ℕ) : ServiceNodeList → SwarmMap → Option ServiceNodeList
  | s, [] => some s
  | s, (swarmId, snodes) :: rest => do
    let s ← applySwarm height swarmId s snodes
    applySwarms height s rest

/-- `update_swarms`: recompute the swarms from the block hash and move the nodes. -/
def updateSwarms (s : ServiceNodeList) (height : ℕ) : Option ServiceNodeList := do
  let seed := seedOfHash (ctx.blockIdByHeight height)
  let existingSwarms := gatherSwarms s.serviceNodesInfos.entries
  let changed ← calcSwarmChanges existingSwarms seed
  applySwarms height s changed

/-- The `memcmp` order of keys: their bytes compared from the first. -/
def keyLe (a b : PublicKey) : Bool := decide (keyBytes a ≤ keyBytes b)

/-- `get_service_nodes_pubkeys`: the funded nodes, in `memcmp` order (the keys are distinct, so
any sort gives this list). -/
def getServiceNodesPubkeys (s : ServiceNodeList) : List PublicKey :=
  let hfVersion := ctx.hardForkVersion s.height
  (s.serviceNodesInfos.entries.filterMap fun e =>
    if (e.2.isValid && hfVersion > 9) || e.2.isFullyFunded then some e.1 else none).insertionSort
    fun a b => keyLe a b = true

/-- `store_quorum_state_from_rewards_list`: shuffle the funded nodes with the block hash; the
first `QUORUM_SIZE` vote, and a share of the rest is tested. -/
def storeQuorumStateFromRewardsList (s : ServiceNodeList) (height : ℕ) : Option ServiceNodeList := do
  let blockHash := ctx.blockIdByHeight height
  if blockHash = nullHash then some s
  else
    let fullNodeList := getServiceNodesPubkeys ctx s
    let pubKeysIndexes ← tritonShuffle mt19937_64 (List.range fullNodeList.length) (seedOfHash blockHash)
    let quorumCount := min fullNodeList.length quorumSize
    let quorum := (pubKeysIndexes.take quorumCount).filterMap (fullNodeList[·]?)
    let numRemainingNodes := pubKeysIndexes.length - quorumCount
    let numNodesToTest := max (numRemainingNodes / nthOfTheNetworkToTest)
      (min minNodesToTest numRemainingNodes)
    let nodesToTest := ((pubKeysIndexes.drop quorumCount).take numNodesToTest).filterMap
      (fullNodeList[·]?)
    pure { s with quorumStates := insertOrAssign height ⟨quorum, nodesToTest⟩ s.quorumStates }

/-- Storing a quorum changes nothing but the quorums. -/
theorem storeQuorumStateFromRewardsList_eq_some {s s' : ServiceNodeList} {height : ℕ}
    (h : storeQuorumStateFromRewardsList ctx s height = some s') :
    ∃ quorumStates, s' = { s with quorumStates } := by
  simp only [storeQuorumStateFromRewardsList] at h
  split at h
  · exact ⟨s.quorumStates, (Option.some.inj h).symm⟩
  · simp only [Option.bind_eq_bind, Option.bind_eq_some_iff, Option.pure_def, Option.some.injEq] at h
    obtain ⟨_, _, rfl⟩ := h
    exact ⟨_, rfl⟩

/-! ## Blocks -/

/-- The transaction loop of `block_added_generic` for one transaction: registration, then
contribution, then deregistration; the flags say whether it registered and deregistered. -/
def processTransaction (s : ServiceNodeList) (tx : Transaction) (blockTimestamp : UInt64)
    (blockHeight index : ℕ) : ServiceNodeList × Bool × Bool :=
  let registered := processRegistrationTx env ctx s tx blockTimestamp blockHeight index
  let s := processContributionTx env ctx (registered.getD s) tx blockHeight index
  let deregistered := processDeregistrationTx s tx blockHeight
  (deregistered.getD s, registered.isSome, deregistered.isSome)

/-- The transaction loop of `block_added_generic` from transaction `index` on; the flag says
whether any transaction registered or deregistered a node. -/
def processTransactions (blockTimestamp : UInt64) (blockHeight : ℕ) :
    ℕ → ServiceNodeList → List Transaction → ServiceNodeList × Bool
  | _, s, [] => (s, false)
  | index, s, tx :: txs =>
    let (s, registered, deregistered) := processTransaction env ctx s tx blockTimestamp blockHeight index
    let (s, changed) := processTransactions blockTimestamp blockHeight (index + 1) s txs
    (s, registered || deregistered || changed)

/-- The rollback window: events older than `ROLLBACK_EVENT_EXPIRATION_BLOCKS` blocks are
culled and a barrier at the cull height is put in front. -/
def cullRollbackEvents (events : List RollbackEvent) (blockHeight : ℕ) : List RollbackEvent :=
  let cullHeight := if blockHeight < 30 then blockHeight else blockHeight - 30
  .preventRollback cullHeight :: events.dropWhile fun e => e.blockHeight < cullHeight

/-- The winner update of `block_added_generic`: the block's winner waits from this block on, as
though registered at transaction index `UINT32_MAX`. -/
def updateWinner (s : ServiceNodeList) (block : Block) : ServiceNodeList :=
  let winnerPubkey := getServiceNodeWinnerFromTxExtra block.minerTx.extra
  match s.serviceNodesInfos.lookup winnerPubkey with
  | none => s
  | some info =>
    { s with
      rollbackEvents := s.rollbackEvents ++ [.rollbackChange block.height winnerPubkey info]
      serviceNodesInfos := s.serviceNodesInfos.insert winnerPubkey
        { info with lastRewardBlockHeight := block.height, lastRewardTransactionIndex := uint32Max } }

/-- `block_added_generic`. -/
def blockAddedGeneric (s : ServiceNodeList) (block : Block) (txs : List Transaction) :
    Option ServiceNodeList := do
  let blockHeight := block.height
  let hfVersion := ctx.hardForkVersion blockHeight
  if hfVersion < 5 then some s
  else
    let s := { s with
      height := s.height + 1
      rollbackEvents := cullRollbackEvents s.rollbackEvents blockHeight }
    let (s, expired) := expireNodes blockHeight s (getExpiredNodes env ctx s blockHeight)
    let s := updateWinner s block
    let (s, changed) := processTransactions env ctx block.timestamp blockHeight 0 s txs
    let s ← if changed || expired then updateSwarms ctx s blockHeight else some s
    let deregisterLifetime :=
      if hfVersion ≥ 9 then deregisterLifetimeByHeightV2 else deregisterLifetimeByHeight
    let quorumLifetime := 6 * deregisterLifetime
    let cacheStateFromHeight := if blockHeight < quorumLifetime then 0 else blockHeight - quorumLifetime
    let s ← storeQuorumStateFromRewardsList ctx s blockHeight
    pure { s with quorumStates := eraseFrontWhile (· < cacheStateFromHeight) s.quorumStates }

/-- From hard fork 5 on, `block_added_generic` runs its stages in order: advance the height and
cull the events, expire nodes, record the winner, process the transactions, move the swarms when
a node came or went, store the quorum, and drop old quorums. Before hard fork 5 it does nothing. -/
theorem blockAddedGeneric_eq_some {s s' : ServiceNodeList} {block : Block}
    {txs : List Transaction} (h : blockAddedGeneric env ctx s block txs = some s') :
    (ctx.hardForkVersion block.height < 5 ∧ s' = s) ∨
    (5 ≤ ctx.hardForkVersion block.height ∧
      let s₀ := { s with
        height := s.height + 1
        rollbackEvents := cullRollbackEvents s.rollbackEvents block.height }
      let expired := expireNodes block.height s₀ (getExpiredNodes env ctx s₀ block.height)
      let processed :=
        processTransactions env ctx block.timestamp block.height 0 (updateWinner expired.1 block) txs
      ∃ s₃ s₄ cacheHeight,
        (if processed.2 || expired.2 then updateSwarms ctx processed.1 block.height
          else some processed.1) = some s₃ ∧
        storeQuorumStateFromRewardsList ctx s₃ block.height = some s₄ ∧
        s' = { s₄ with quorumStates := eraseFrontWhile (· < cacheHeight) s₄.quorumStates }) := by
  simp only [blockAddedGeneric, Option.bind_eq_bind, Option.pure_def] at h
  split at h
  · exact .inl ⟨‹_›, (Option.some.inj h).symm⟩
  · refine .inr ⟨by omega, ?_⟩
    split at h <;> rename_i hc <;>
      simp only [Option.bind_some, Option.bind_eq_some_iff, Option.some.injEq] at h
    · obtain ⟨s₃, h₃, s₄, h₄, rfl⟩ := h
      exact ⟨s₃, s₄, _, by rw [if_pos hc]; exact h₃, h₄, rfl⟩
    · obtain ⟨s₄, h₄, rfl⟩ := h
      exact ⟨_, s₄, _, by rw [if_neg hc], h₄, rfl⟩

/-! ## Initialization and rollback -/

/-- The inner loop of `init`'s rescan over a batch of heights; the flag says the transactions of
a block could not be read, which ends `init`. -/
def addBlocks : ServiceNodeList → List ℕ → Option (ServiceNodeList × Bool)
  | s, [] => some (s, false)
  | s, h :: hs =>
    match ctx.blocks h with
    | none => some (s, true)
    | some (block, txs) => do
      let s ← blockAddedGeneric env ctx s block txs
      addBlocks s hs

/-- The rescan loop of `init`: batches of up to 1000 blocks from `m_height` to the chain
height. A batch that adds no block leaves the list as it was, so the source loops for ever;
the fuel runs out exactly then. -/
def rescan : ℕ → ServiceNodeList → Option ServiceNodeList
  | 0, _ => none
  | fuel + 1, s =>
    if s.height < ctx.currentHeight then do
      let batch := List.range' s.height (min 1000 (ctx.currentHeight - s.height))
      let (s, stopped) ← addBlocks env ctx s batch
      if stopped then some s else rescan fuel s
    else some s

/-- `init`: keep the stored list if it is at the chain height, else rescan the chain from it,
or from a cleared list when there is none or it is ahead of the chain. -/
def init (stored : Option ServiceNodeList) : Option ServiceNodeList :=
  if ctx.currentHardForkVersion < 5 then some (clear ctx)
  else
    match stored with
    | some s =>
      if s.height = ctx.currentHeight then some s
      else rescan env ctx (ctx.currentHeight + 1)
        (if s.height > ctx.currentHeight then clear ctx else s)
    | none => rescan env ctx (ctx.currentHeight + 1) (clear ctx)

/-- The undo loop of `blockchain_detached` over the events, newest first: apply and drop every
event at or above `height`; `none` when an event fails to apply. -/
def popEvents (height : ℕ) : Infos → List RollbackEvent → Option (Infos × List RollbackEvent)
  | infos, [] => some (infos, [])
  | infos, e :: es =>
    if e.blockHeight ≥ height then
      match e.apply infos with
      | some infos => popEvents height infos es
      | none => none
    else some (infos, e :: es)

/-- The undo loop replays a journal: it pops a newest-first run of events at or above the height,
each recording an undo action, and leaves the map that replaying those actions gives. -/
theorem popEvents_rollback {height : ℕ} :
    ∀ {infos infos' : Infos} {events rest : List RollbackEvent},
      popEvents height infos events = some (infos', rest) →
      ∃ (popped : List RollbackEvent) (undos : List (Undo PublicKey ServiceNodeInfo)),
        events = popped ++ rest ∧ (∀ e ∈ popped, height ≤ e.blockHeight) ∧
        popped.map RollbackEvent.undo? = undos.map some ∧ rollback undos.reverse infos = some infos'
  | infos, infos', [], rest, h => by
    simp only [popEvents, Option.some.injEq, Prod.mk.injEq] at h
    obtain ⟨rfl, rfl⟩ := h
    exact ⟨[], [], rfl, by simp, rfl, rfl⟩
  | infos, infos', e :: es, rest, h => by
    simp only [popEvents] at h
    split at h
    · rename_i hheight
      cases happly : e.apply infos with
      | none => rw [happly] at h; cases h
      | some m =>
        rw [happly] at h
        obtain ⟨popped, undos, rfl, hpopped, hundo, hr⟩ := popEvents_rollback h
        rw [RollbackEvent.apply_eq, Option.bind_eq_some_iff] at happly
        obtain ⟨u, hu, hrun⟩ := happly
        refine ⟨e :: popped, u :: undos, rfl, ?_, by simp [hu, hundo], ?_⟩
        · intro e' he'
          rcases List.mem_cons.mp he' with rfl | he'
          · exact hheight
          · exact hpopped e' he'
        · rw [List.reverse_cons, rollback_append_single, hrun, Option.bind_some]
          exact hr
    · simp only [Option.some.injEq, Prod.mk.injEq] at h
      obtain ⟨rfl, rfl⟩ := h
      exact ⟨[], [], rfl, by simp, rfl, rfl⟩

/-- `blockchain_detached`: undo the events of the detached blocks, or rebuild the list with
`init` when an event cannot be undone; then drop the quorums of the detached heights and
expect the block at `height` next. -/
def blockchainDetached (s : ServiceNodeList) (height : ℕ) : Option ServiceNodeList := do
  let s' ← match popEvents height s.serviceNodesInfos s.rollbackEvents.reverse with
    | some (infos, rest) => some { s with serviceNodesInfos := infos, rollbackEvents := rest.reverse }
    | none => init env ctx (some s)
  pure { s' with
    quorumStates := eraseBackWhile (· ≥ height) s'.quorumStates
    height := height }

end Equilibria.ServiceNodeList
