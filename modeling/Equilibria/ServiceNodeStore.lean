import Equilibria.TxExtra
import Equilibria.Quorum
import Equilibria.RecordInvariant
import Equilibria.UndoLog

/-!
# Storing and loading the service-node list

`service_node_list::store` copies the quorums, the records and the rollback events into a
`data_members_for_serialization` and writes it with a `binary_archive<true>`; `load` clears the
list, parses the blob back and replays it: every quorum assigned under its height, every record
under its key, every event rebuilt as the event of its kind. A record writes its `swarm_id` only
from `version_1_swarms` on, so the blob of a record of version 0 comes back with whatever the
fresh record held. Every record a reachable list holds or keeps for an undo has version 1, and
its quorums are kept in height order, so `load` puts back what `store` wrote.
-/

namespace Equilibria.ServiceNodeStore

open BinaryArchive TxExtra CryptonoteBasic MapJournal OrderedMap ServiceNodeRules ServiceNodeState
  ServiceNodeTx ServiceNodeList ServiceNodeRuns RecordInvariant UndoLog Istream

/-! ## What a reachable list holds -/

section Reachable

variable {env : Env} {ctx : Context}

/-- A registration's record has version 1 from hard fork 5 on, and version 0 before. -/
theorem isRegistrationTx_version {tx : Transaction} {blockTimestamp : UInt64}
    {blockHeight index : ℕ} {key : PublicKey} {info : ServiceNodeInfo}
    (h : isRegistrationTx env ctx tx blockTimestamp blockHeight index = some (key, info)) :
    info.version = if ctx.hardForkVersion blockHeight ≥ 5 then 1 else 0 := by
  simp only [isRegistrationTx, Option.bind_eq_bind, Option.bind_none, Option.ite_none_left_eq_some,
    Option.bind_eq_some_iff, Option.pure_def, Option.some.injEq, Prod.mk.injEq] at h
  obtain ⟨_, -, -, -, -, -, -, -, -, -, _, -, -, -, _, -, _, -, -, rfl⟩ := h
  rfl

/-- A contribution changes the stakes only, never the version. -/
theorem applyContribution_version (info : ServiceNodeInfo) (idx : ℕ) (transferred : UInt64) :
    (applyContribution info idx transferred).version = info.version := by
  simp only [applyContribution]
  split
  · rfl
  · split <;> rfl

/-- From hard fork 5 on, registrations create records of version 1 and no write changes a
version. -/
theorem versionRule {blockHeight : ℕ} (h5 : 5 ≤ ctx.hardForkVersion blockHeight) :
    BlockRule env ctx blockHeight (·.version = 1) where
  registered _ _ _ _ _ h := by
    rw [isRegistrationTx_version h, if_pos h5]
  contributed s tx index hs := by
    rcases processContributionTx_eq env ctx s tx blockHeight index with h | ⟨pubkey, info, -,
      transferred, contributors, idx, -, hinfo, -, -, -, h⟩
    · rw [h]
      exact hs
    rw [h]
    refine hs.change hinfo ?_
    rw [applyContribution_version]
    exact hs.infos pubkey info hinfo
  waitingSince _ _ _ h := h
  swarm _ _ h := h

/-- Every record of a reachable list, listed or kept for an undo, has version 1: blocks before
hard fork 5 change nothing. -/
theorem reachable_version {s : ServiceNodeList} (hs : Reachable env s) :
    EveryRecord (·.version = 1) s :=
  everyRecord_of_blockRule (fun _ _ h5 => versionRule h5) hs

/-! The stages of a block before the quorum is stored write records and events only. -/

theorem expireNodes_quorumStates (blockHeight : ℕ) :
    ∀ (s : ServiceNodeList) (keys : List PublicKey),
      (expireNodes blockHeight s keys).1.quorumStates = s.quorumStates
  | _, [] => rfl
  | s, key :: keys => by
    simp only [expireNodes]
    split
    · exact expireNodes_quorumStates blockHeight s keys
    · exact expireNodes_quorumStates blockHeight _ keys

theorem updateWinner_quorumStates (s : ServiceNodeList) (block : Block) :
    (updateWinner s block).quorumStates = s.quorumStates := by
  simp only [updateWinner]
  split <;> rfl

theorem processTransaction_quorumStates (s : ServiceNodeList) (tx : Transaction)
    (blockTimestamp : UInt64) (blockHeight index : ℕ) :
    (processTransaction env ctx s tx blockTimestamp blockHeight index).1.quorumStates =
      s.quorumStates := by
  have hregistered :
      ((processRegistrationTx env ctx s tx blockTimestamp blockHeight index).getD s).quorumStates =
        s.quorumStates := by
    cases hr : processRegistrationTx env ctx s tx blockTimestamp blockHeight index with
    | none => rfl
    | some s' =>
      obtain ⟨_, _, _, -, -, rfl⟩ := processRegistrationTx_eq_some env ctx hr
      rfl
  have hcontributed : ∀ s' : ServiceNodeList,
      (processContributionTx env ctx s' tx blockHeight index).quorumStates = s'.quorumStates := by
    intro s'
    rcases processContributionTx_eq env ctx s' tx blockHeight index with h | ⟨_, _, _, _, _, _,
      -, -, -, -, -, h⟩ <;> rw [h]
  simp only [processTransaction]
  cases hd : processDeregistrationTx
      (processContributionTx env ctx
        ((processRegistrationTx env ctx s tx blockTimestamp blockHeight index).getD s)
        tx blockHeight index) tx blockHeight with
  | none => rw [Option.getD_none, hcontributed, hregistered]
  | some s' =>
    obtain ⟨_, _, -, rfl⟩ := processDeregistrationTx_eq_some hd
    rw [Option.getD_some]
    exact (hcontributed _).trans hregistered

theorem processTransactions_quorumStates (blockTimestamp : UInt64) (blockHeight : ℕ) :
    ∀ (index : ℕ) (s : ServiceNodeList) (txs : List Transaction),
      (processTransactions env ctx blockTimestamp blockHeight index s txs).1.quorumStates =
        s.quorumStates
  | _, _, [] => rfl
  | index, s, tx :: txs => by
    simp only [processTransactions]
    rw [processTransactions_quorumStates blockTimestamp blockHeight (index + 1),
      processTransaction_quorumStates]

theorem applySwarm_quorumStates (height : ℕ) (swarmId : UInt64) :
    ∀ {s s' : ServiceNodeList} (snodes : List PublicKey),
      applySwarm height swarmId s snodes = some s' → s'.quorumStates = s.quorumStates
  | s, s', [], h => by
    simp only [applySwarm, Option.some.injEq] at h
    rw [h]
  | s, s', snode :: snodes, h => by
    simp only [applySwarm, Option.bind_eq_bind, Option.bind_eq_some_iff] at h
    obtain ⟨info, -, h⟩ := h
    split at h
    · exact applySwarm_quorumStates height swarmId snodes h
    · exact (applySwarm_quorumStates height swarmId snodes h).trans rfl

theorem applySwarms_quorumStates (height : ℕ) :
    ∀ {s s' : ServiceNodeList} (swarms : SwarmChanges.SwarmMap),
      applySwarms height s swarms = some s' → s'.quorumStates = s.quorumStates
  | s, s', [], h => by
    simp only [applySwarms, Option.some.injEq] at h
    rw [h]
  | s, s', (swarmId, snodes) :: rest, h => by
    simp only [applySwarms, Option.bind_eq_bind, Option.bind_eq_some_iff] at h
    obtain ⟨s₁, h₁, h⟩ := h
    rw [applySwarms_quorumStates height rest h, applySwarm_quorumStates height swarmId snodes h₁]

theorem updateSwarms_quorumStates {s s' : ServiceNodeList} {height : ℕ}
    (h : updateSwarms ctx s height = some s') : s'.quorumStates = s.quorumStates := by
  simp only [updateSwarms, Option.bind_eq_bind, Option.bind_eq_some_iff] at h
  obtain ⟨swarms, -, h⟩ := h
  exact applySwarms_quorumStates height swarms h

/-- The quorums are kept in increasing height order, as an `std::map` keeps them. -/
def QuorumsSorted (s : ServiceNodeList) : Prop := (keys s.quorumStates).Pairwise (· < ·)

/-- A block stores at most one quorum, by assignment, and drops a prefix of them. -/
theorem blockAddedGeneric_quorumsSorted {s s' : ServiceNodeList} {block : Block}
    {txs : List Transaction} (hs : QuorumsSorted s)
    (h : blockAddedGeneric env ctx s block txs = some s') : QuorumsSorted s' := by
  rcases blockAddedGeneric_eq_some env ctx h with ⟨-, rfl⟩ | ⟨-, s₃, s₄, _, h₃, h₄, rfl⟩
  · exact hs
  unfold QuorumsSorted at hs ⊢
  -- every stage before the quorum keeps the quorums
  have hs₃ : s₃.quorumStates = s.quorumStates := by
    split at h₃
    · rw [updateSwarms_quorumStates h₃, processTransactions_quorumStates,
        updateWinner_quorumStates, expireNodes_quorumStates]
    · rw [← Option.some.inj h₃, processTransactions_quorumStates, updateWinner_quorumStates,
        expireNodes_quorumStates]
  have hs₄ : (keys s₄.quorumStates).Pairwise (· < ·) := by
    rcases Quorum.storeQuorumStateFromRewardsList_eq_some h₄ with ⟨-, rfl⟩ | ⟨-, _, -, rfl⟩
    · exact hs₃ ▸ hs
    · exact pairwise_insertOrAssign _ _ (hs₃ ▸ hs)
  dsimp only
  exact pairwise_eraseFrontWhile _ hs₄

/-- The quorums of every reachable list are in increasing height order. -/
theorem reachable_quorumsSorted {s : ServiceNodeList} (hs : Reachable env s) : QuorumsSorted s :=
  hs.invariant (fun _ => List.Pairwise.nil)
    (fun _ _ _ _ _ hs h => blockAddedGeneric_quorumsSorted hs h)
    (fun _ _ _ _ hs _ => hs)
    (fun _ height hs => pairwise_eraseBackWhile (· ≥ height) hs)

end Reachable

/-! ## The blob -/

/-- `service_node_info::version_1_swarms`: from this version on a record stores its swarm id. -/
def version1Swarms : ℕ := 1

/-- `quorum_state_for_serialization`. -/
structure QuorumStateForSerialization where
  /-- `height`. -/
  height : ℕ
  /-- `state`. -/
  state : QuorumState

/-- `node_info_for_serialization`. -/
structure NodeInfoForSerialization where
  /-- `key`. -/
  key : PublicKey
  /-- `info`. -/
  info : ServiceNodeInfo

/-- `contract_info_for_serialization`. -/
structure ContractInfoForSerialization where
  /-- `height`, the registration height. -/
  height : ℕ
  /-- `registerHash`. -/
  registerHash : Hash
  /-- `balance`. -/
  balance : ℕ
  /-- `last_data`: the index of the last data submission and the data. -/
  lastData : ℕ × List UInt8

/-- `data_members_for_serialization`; the events are the `rollback_event_variant`s, one
alternative per kind of event. -/
structure DataMembersForSerialization where
  /-- `quorum_states`. -/
  quorumStates : List QuorumStateForSerialization
  /-- `infos`. -/
  infos : List NodeInfoForSerialization
  /-- `events`. -/
  events : List RollbackEvent
  /-- `contracts`. -/
  contracts : List ContractInfoForSerialization
  /-- `height`. -/
  height : ℕ

/-! ### Reading: `binary_archive<false>` -/

/-- `account_public_address::do_serialize`. -/
def readAccountPublicAddress : Reader AccountPublicAddress := do
  let spendPublicKey ← field readPublicKey
  let viewPublicKey ← field readPublicKey
  guardGood
  pure ⟨spendPublicKey, viewPublicKey⟩

/-- `service_node_info::contribution::do_serialize`. -/
def readContribution : Reader Contribution := do
  let amount ← field (serializeVarint 64)
  let reserved ← field (serializeVarint 64)
  let address ← field readAccountPublicAddress
  guardGood
  pure ⟨UInt64.ofNat amount, UInt64.ofNat reserved, address⟩

/-- `service_node_info::do_serialize`, into a default-constructed record: the version starts
at `version_0`, and the swarm id keeps the value `swarmId` the fresh record holds unless the
version says it is stored. -/
def readServiceNodeInfo (swarmId : UInt64) : Reader ServiceNodeInfo := do
  let version ← field (serializeVarint 8)
  let registrationHeight ← field (serializeVarint 64)
  let lastRewardBlockHeight ← field (serializeVarint 64)
  let lastRewardTransactionIndex ← field (serializeVarint 32)
  let contributors ← field (readContainer readContribution)
  let totalContributed ← field (serializeVarint 64)
  let totalReserved ← field (serializeVarint 64)
  let stakingRequirement ← field (serializeVarint 64)
  let portionsForOperator ← field (serializeVarint 64)
  let portionsForOperatorNoFee ← field (serializeVarint 64)
  let swarmId ← if version ≥ version1Swarms then do
      let id ← field (serializeVarint 64)
      pure (UInt64.ofNat id)
    else pure swarmId
  let operatorAddress ← field readAccountPublicAddress
  guardGood
  pure
    { version, registrationHeight, lastRewardBlockHeight, lastRewardTransactionIndex,
      contributors
      totalContributed := UInt64.ofNat totalContributed
      totalReserved := UInt64.ofNat totalReserved
      stakingRequirement := UInt64.ofNat stakingRequirement
      portionsForOperator := UInt64.ofNat portionsForOperator
      portionsForOperatorNoFee := UInt64.ofNat portionsForOperatorNoFee
      swarmId, operatorAddress }

/-- `quorum_state::do_serialize`. -/
def readQuorumState : Reader QuorumState := do
  let quorumNodes ← field (readContainer readPublicKey)
  let nodesToTest ← field (readContainer readPublicKey)
  guardGood
  pure ⟨quorumNodes, nodesToTest⟩

/-- `quorum_state_for_serialization::do_serialize`: the height is a `uint64_t`, read whole. -/
def readQuorumStateForSerialization : Reader QuorumStateForSerialization := do
  let height ← field (serializeUint 8)
  let state ← field readQuorumState
  guardGood
  pure ⟨height, state⟩

/-- `node_info_for_serialization::do_serialize`. -/
def readNodeInfoForSerialization (swarmId : UInt64) : Reader NodeInfoForSerialization := do
  let key ← field readPublicKey
  let info ← field (readServiceNodeInfo swarmId)
  guardGood
  pure ⟨key, info⟩

/-- `rollback_event::do_serialize`, the part every event has. -/
def readRollbackEvent : Reader ℕ := do
  let blockHeight ← field (serializeVarint 64)
  guardGood
  pure blockHeight

/-- `rollback_change::do_serialize`. -/
def readRollbackChange (swarmId : UInt64) : Reader RollbackEvent := do
  let blockHeight ← field readRollbackEvent
  let key ← field readPublicKey
  let info ← field (readServiceNodeInfo swarmId)
  guardGood
  pure (.rollbackChange blockHeight key info)

/-- `rollback_new::do_serialize`. -/
def readRollbackNew : Reader RollbackEvent := do
  let blockHeight ← field readRollbackEvent
  let key ← field readPublicKey
  guardGood
  pure (.rollbackNew blockHeight key)

/-- `prevent_rollback::do_serialize`. -/
def readPreventRollback : Reader RollbackEvent := do
  let blockHeight ← field readRollbackEvent
  guardGood
  pure (.preventRollback blockHeight)

/-- The `VARIANT_TAG`s of the three events. -/
def rollbackChangeTag : UInt8 := 0xa1

/-- `VARIANT_TAG` of `rollback_new`. -/
def rollbackNewTag : UInt8 := 0xa2

/-- `VARIANT_TAG` of `prevent_rollback`. -/
def preventRollbackTag : UInt8 := 0xa3

/-- The variant serializer of `binary_archive<false>` over `rollback_event_variant`: the tag is
a `uint8_t` read whole, then `variant_reader` tries the alternatives in order and fails past the
last. -/
def readRollbackEventVariant (swarmId : UInt64) : Reader RollbackEvent := do
  let t ← serializeUint 1
  if t = rollbackChangeTag.toNat then readRollbackChange swarmId
  else if t = rollbackNewTag.toNat then readRollbackNew
  else if t = preventRollbackTag.toNat then readPreventRollback
  else reject

/-- `do_serialize` of `std::pair<uint64_t, std::string>`: the count 2 as a `begin_array`, the
number as a varint, the string. -/
def readLastData : Reader (ℕ × List UInt8) := do
  let cnt ← serializeVarint 64
  guardGood
  if cnt ≠ 2 then reject
  let first ← serializeVarint 64
  guardGood
  let second ← readString
  guardGood
  pure (first, second)

/-- `contract_info_for_serialization::do_serialize`. -/
def readContractInfoForSerialization : Reader ContractInfoForSerialization := do
  let height ← field (serializeUint 8)
  let registerHash ← field readHash
  let balance ← field (serializeUint 8)
  let lastData ← field readLastData
  guardGood
  pure ⟨height, registerHash, balance, lastData⟩

/-- `data_members_for_serialization::do_serialize`. -/
def readDataMembersForSerialization (swarmId : UInt64) : Reader DataMembersForSerialization := do
  let quorumStates ← field (readContainer readQuorumStateForSerialization)
  let infos ← field (readContainer (readNodeInfoForSerialization swarmId))
  let events ← field (readContainer (readRollbackEventVariant swarmId))
  let contracts ← field (readContainer readContractInfoForSerialization)
  let height ← field (serializeUint 8)
  guardGood
  pure ⟨quorumStates, infos, events, contracts, height⟩

/-! ### Writing: `binary_archive<true>` -/

/-- `account_public_address::do_serialize`. -/
def writeAccountPublicAddress (a : AccountPublicAddress) : List UInt8 :=
  writeKey a.spendPublicKey.data ++ writeKey a.viewPublicKey.data

/-- `service_node_info::contribution::do_serialize`. -/
def writeContribution (c : Contribution) : List UInt8 :=
  writeVarint c.amount.toNat ++ writeVarint c.reserved.toNat ++ writeAccountPublicAddress c.address

/-- `service_node_info::do_serialize`: the swarm id only from `version_1_swarms` on. -/
def writeServiceNodeInfo (info : ServiceNodeInfo) : List UInt8 :=
  writeVarint info.version ++ writeVarint info.registrationHeight ++
    writeVarint info.lastRewardBlockHeight ++ writeVarint info.lastRewardTransactionIndex ++
    writeContainer writeContribution info.contributors ++
    writeVarint info.totalContributed.toNat ++ writeVarint info.totalReserved.toNat ++
    writeVarint info.stakingRequirement.toNat ++ writeVarint info.portionsForOperator.toNat ++
    writeVarint info.portionsForOperatorNoFee.toNat ++
    (if info.version ≥ version1Swarms then writeVarint info.swarmId.toNat else []) ++
    writeAccountPublicAddress info.operatorAddress

/-- `quorum_state::do_serialize`. -/
def writeQuorumState (q : QuorumState) : List UInt8 :=
  writeContainer (fun k : PublicKey => writeKey k.data) q.quorumNodes ++
    writeContainer (fun k : PublicKey => writeKey k.data) q.nodesToTest

/-- `quorum_state_for_serialization::do_serialize`. -/
def writeQuorumStateForSerialization (q : QuorumStateForSerialization) : List UInt8 :=
  writeUint 8 q.height ++ writeQuorumState q.state

/-- `node_info_for_serialization::do_serialize`. -/
def writeNodeInfoForSerialization (n : NodeInfoForSerialization) : List UInt8 :=
  writeKey n.key.data ++ writeServiceNodeInfo n.info

/-- The variant serializer of `binary_archive<true>`: the tag, then the event's fields. -/
def writeRollbackEventVariant : RollbackEvent → List UInt8
  | .rollbackChange blockHeight key info =>
    rollbackChangeTag :: (writeVarint blockHeight ++ writeKey key.data ++ writeServiceNodeInfo info)
  | .rollbackNew blockHeight key => rollbackNewTag :: (writeVarint blockHeight ++ writeKey key.data)
  | .preventRollback blockHeight => preventRollbackTag :: writeVarint blockHeight

/-- `do_serialize` of `std::pair<uint64_t, std::string>`. -/
def writeLastData (d : ℕ × List UInt8) : List UInt8 :=
  writeVarint 2 ++ writeVarint d.1 ++ writeString d.2

/-- `contract_info_for_serialization::do_serialize`. -/
def writeContractInfoForSerialization (c : ContractInfoForSerialization) : List UInt8 :=
  writeUint 8 c.height ++ writeKey c.registerHash.data ++ writeUint 8 c.balance ++
    writeLastData c.lastData

/-- `data_members_for_serialization::do_serialize`. -/
def writeDataMembersForSerialization (d : DataMembersForSerialization) : List UInt8 :=
  writeContainer writeQuorumStateForSerialization d.quorumStates ++
    writeContainer writeNodeInfoForSerialization d.infos ++
    writeContainer writeRollbackEventVariant d.events ++
    writeContainer writeContractInfoForSerialization d.contracts ++
    writeUint 8 d.height

/-! ### `store` and `load` -/

/-- The copy `store` makes: quorums in height order, records in the map's iteration order,
events oldest first, no contracts. -/
def dataToStore (s : ServiceNodeList) : DataMembersForSerialization where
  quorumStates := s.quorumStates.map fun q => ⟨q.1, q.2⟩
  infos := s.serviceNodesInfos.entries.map fun e => ⟨e.1, e.2⟩
  events := s.rollbackEvents
  contracts := []
  height := s.height

/-- `service_node_list::store`: the blob it hands to `set_service_node_data`. -/
def store (s : ServiceNodeList) : List UInt8 :=
  writeDataMembersForSerialization (dataToStore s)

/-- The rebuild of an event in `load`: a new event of the variant's kind, its fields copied. -/
def rebuildEvent : RollbackEvent → RollbackEvent
  | .rollbackChange blockHeight key info => .rollbackChange blockHeight key info
  | .rollbackNew blockHeight key => .rollbackNew blockHeight key
  | .preventRollback blockHeight => .preventRollback blockHeight

/-- The replay of `load` onto a list: the height, every quorum assigned under its height, every
record under its key, the rebuilt events appended in order. -/
def restore (s : ServiceNodeList) (data : DataMembersForSerialization) : ServiceNodeList where
  height := data.height
  quorumStates := data.quorumStates.foldl (fun m q => insertOrAssign q.height q.state m) s.quorumStates
  serviceNodesInfos := data.infos.foldl (fun m n => m.insert n.key n.info) s.serviceNodesInfos
  rollbackEvents := s.rollbackEvents ++ data.events.map rebuildEvent

/-- `service_node_list::load` on the blob `get_service_node_data` returns (`none` when there is
no database or no blob): clear the list, then parse and replay; `false` leaves it cleared. -/
def load (ctx : Context) (swarmId : UInt64) (blob : Option (List UInt8)) : ServiceNodeList × Bool :=
  let s := clear ctx
  match blob with
  | none => (s, false)
  | some blob =>
    match parseBinary (readDataMembersForSerialization swarmId) blob with
    | none => (s, false)
    | some data => (restore s data, true)

/-! ## Round trips -/

/-- The values of a record fit the C++ types of `service_node_info`. -/
@[mk_iff]
structure InfoFits (info : ServiceNodeInfo) : Prop where
  /-- `version` is a `uint8_t`. -/
  version : info.version < 2 ^ 8
  /-- `registration_height` is a `uint64_t`. -/
  registrationHeight : info.registrationHeight < 2 ^ 64
  /-- `last_reward_block_height` is a `uint64_t`. -/
  lastRewardBlockHeight : info.lastRewardBlockHeight < 2 ^ 64
  /-- `last_reward_transaction_index` is a `uint32_t`. -/
  lastRewardTransactionIndex : info.lastRewardTransactionIndex < 2 ^ 32
  /-- The vector's size is a `size_t`. -/
  contributors : info.contributors.length < 2 ^ 64

/-- A record that reads back from its blob: its values fit, and its version stores the swarm
id. -/
def Storable (info : ServiceNodeInfo) : Prop := InfoFits info ∧ version1Swarms ≤ info.version

/-- The sizes of a quorum fit `size_t`. -/
def QuorumFits (q : QuorumState) : Prop :=
  q.quorumNodes.length < 2 ^ 64 ∧ q.nodesToTest.length < 2 ^ 64

/-- The height of an event fits its `uint64_t`, and a kept record is one `R` accepts. -/
def EventFits (R : ServiceNodeInfo → Prop) : RollbackEvent → Prop
  | .rollbackChange blockHeight _ info => blockHeight < 2 ^ 64 ∧ R info
  | .rollbackNew blockHeight _ => blockHeight < 2 ^ 64
  | .preventRollback blockHeight => blockHeight < 2 ^ 64

/-- The values of a contract fit their C++ types. -/
def ContractFits (c : ContractInfoForSerialization) : Prop :=
  c.height < 2 ^ 64 ∧ c.balance < 2 ^ 64 ∧ c.lastData.1 < 2 ^ 64 ∧ c.lastData.2.length < 2 ^ 64

/-- The values of the stored data fit their C++ types, with the records accepted by `R`. -/
@[mk_iff]
structure DataFits (R : ServiceNodeInfo → Prop) (d : DataMembersForSerialization) : Prop where
  /-- The quorums. -/
  quorumStates : d.quorumStates.length < 2 ^ 64 ∧
    ∀ q ∈ d.quorumStates, q.height < 2 ^ 64 ∧ QuorumFits q.state
  /-- The records. -/
  infos : d.infos.length < 2 ^ 64 ∧ ∀ n ∈ d.infos, R n.info
  /-- The events. -/
  events : d.events.length < 2 ^ 64 ∧ ∀ e ∈ d.events, EventFits R e
  /-- The contracts. -/
  contracts : d.contracts.length < 2 ^ 64 ∧ ∀ c ∈ d.contracts, ContractFits c
  /-- The height. -/
  height : d.height < 2 ^ 64

instance (info : ServiceNodeInfo) : Decidable (InfoFits info) :=
  decidable_of_iff _ (infoFits_iff info).symm

instance : DecidablePred Storable := fun info =>
  inferInstanceAs (Decidable (InfoFits info ∧ _))

instance : DecidablePred QuorumFits := fun _ => inferInstanceAs (Decidable (_ ∧ _))

instance {R : ServiceNodeInfo → Prop} [DecidablePred R] : DecidablePred (EventFits R)
  | .rollbackChange _ _ info => inferInstanceAs (Decidable (_ ∧ R info))
  | .rollbackNew _ _ => inferInstanceAs (Decidable (_ < _))
  | .preventRollback _ => inferInstanceAs (Decidable (_ < _))

instance : DecidablePred ContractFits := fun _ => inferInstanceAs (Decidable (_ ∧ _))

instance {R : ServiceNodeInfo → Prop} [DecidablePred R] (d : DataMembersForSerialization) :
    Decidable (DataFits R d) :=
  decidable_of_iff _ (dataFits_iff R d).symm

theorem lt_256_pow_8 {v : ℕ} (hv : v < 2 ^ 64) : v < 256 ^ 8 := lt_of_lt_of_eq hv (by decide)

theorem field_serializeUint_append {width v : ℕ} (hv : v < 256 ^ width) (rest : List UInt8) :
    field (serializeUint width) (ofBlob (writeUint width v ++ rest)) = some (v, ofBlob rest) := by
  simp [field, serializeUint_append, Nat.mod_eq_of_lt hv]

theorem readAccountPublicAddress_readsBack :
    ReadsBack readAccountPublicAddress writeAccountPublicAddress fun _ => True := by
  intro a _ rest
  simp [readAccountPublicAddress, writeAccountPublicAddress, field, List.append_assoc,
    readPublicKey_readsBack _ trivial]

theorem readContribution_readsBack : ReadsBack readContribution writeContribution fun _ => True := by
  intro c _ rest
  simp [readContribution, writeContribution, field, List.append_assoc,
    serializeVarint_append c.amount.toNat_lt, serializeVarint_append c.reserved.toNat_lt,
    readAccountPublicAddress_readsBack _ trivial]

theorem field_serializeVarint_append {bits v : ℕ} (hv : v < 2 ^ bits) (rest : List UInt8) :
    field (serializeVarint bits) (ofBlob (writeVarint v ++ rest)) = some (v, ofBlob rest) := by
  simp [field, serializeVarint_append hv]

/-- A record reads back from its blob, with the swarm id of the fresh record when its version
does not store one. -/
theorem readServiceNodeInfo_append (swarmId : UInt64) {info : ServiceNodeInfo}
    (hinfo : InfoFits info) (rest : List UInt8) :
    readServiceNodeInfo swarmId (ofBlob (writeServiceNodeInfo info ++ rest)) =
      some (if version1Swarms ≤ info.version then info else { info with swarmId }, ofBlob rest) := by
  have hcontributors := field_readsBack (readContainer_readsBack readContribution_readsBack
    (fun c _ => by simp [writeContribution, writeVarint_ne_nil])) info.contributors
    ⟨hinfo.contributors, fun _ _ => trivial⟩
  have haddress := field_readsBack readAccountPublicAddress_readsBack info.operatorAddress trivial
  rw [readServiceNodeInfo, writeServiceNodeInfo]
  simp only [bind_apply, List.append_assoc]
  -- the fields before the swarm id, one by one
  rw [field_serializeVarint_append hinfo.version, Option.bind_some,
    field_serializeVarint_append hinfo.registrationHeight, Option.bind_some,
    field_serializeVarint_append hinfo.lastRewardBlockHeight, Option.bind_some,
    field_serializeVarint_append hinfo.lastRewardTransactionIndex, Option.bind_some,
    hcontributors, Option.bind_some]
  simp only [field_serializeVarint_append (UInt64.toNat_lt _), Option.bind_some, UInt64.ofNat_toNat]
  -- the swarm id is written and read under the same test of the version
  by_cases hv : version1Swarms ≤ info.version
  · simp only [ge_iff_le, if_pos hv, bind_apply, field_serializeVarint_append (UInt64.toNat_lt _),
      Option.bind_some, pure_apply, UInt64.ofNat_toNat, haddress, guardGood_ofBlob]
  · simp only [ge_iff_le, if_neg hv, bind_apply, List.nil_append, Option.bind_some, pure_apply,
      haddress, guardGood_ofBlob]

theorem readServiceNodeInfo_readsBack (swarmId : UInt64) :
    ReadsBack (readServiceNodeInfo swarmId) writeServiceNodeInfo Storable := by
  intro info ⟨hinfo, hv⟩ rest
  rw [readServiceNodeInfo_append swarmId hinfo rest, if_pos hv]

theorem readQuorumState_readsBack : ReadsBack readQuorumState writeQuorumState QuorumFits := by
  intro q ⟨hn, ht⟩ rest
  simp [readQuorumState, writeQuorumState, List.append_assoc,
    field_readsBack readKeys_readsBack _ hn, field_readsBack readKeys_readsBack _ ht]

theorem readQuorumStateForSerialization_readsBack :
    ReadsBack readQuorumStateForSerialization writeQuorumStateForSerialization
      fun q => q.height < 2 ^ 64 ∧ QuorumFits q.state := by
  rintro ⟨height, state⟩ ⟨hh, hq⟩ rest
  simp [readQuorumStateForSerialization, writeQuorumStateForSerialization, List.append_assoc,
    field_serializeUint_append (lt_256_pow_8 hh), field_readsBack readQuorumState_readsBack state hq rest]

theorem readNodeInfoForSerialization_readsBack (swarmId : UInt64) :
    ReadsBack (readNodeInfoForSerialization swarmId) writeNodeInfoForSerialization
      fun n => Storable n.info := by
  rintro ⟨key, info⟩ hinfo rest
  simp [readNodeInfoForSerialization, writeNodeInfoForSerialization, List.append_assoc,
    field_readsBack readPublicKey_readsBack _ trivial,
    field_readsBack (readServiceNodeInfo_readsBack swarmId) info hinfo rest]

theorem readRollbackEvent_append {blockHeight : ℕ} (hh : blockHeight < 2 ^ 64)
    (rest : List UInt8) :
    field readRollbackEvent (ofBlob (writeVarint blockHeight ++ rest)) =
      some (blockHeight, ofBlob rest) := by
  simp [readRollbackEvent, field, serializeVarint_append hh]

/-- Each event reads back behind its tag. -/
theorem readRollbackEventVariant_readsBack (swarmId : UInt64) :
    ReadsBack (readRollbackEventVariant swarmId) writeRollbackEventVariant (EventFits Storable) := by
  intro e he rest
  cases e with
  | rollbackChange blockHeight key info =>
    obtain ⟨hh, hinfo⟩ := he
    have hi := field_readsBack (readServiceNodeInfo_readsBack swarmId) info hinfo rest
    simp +decide [readRollbackEventVariant, writeRollbackEventVariant, readRollbackChange,
      rollbackChangeTag, serializeUint_one_cons, List.append_assoc, readRollbackEvent_append hh,
      field_readsBack readPublicKey_readsBack _ trivial, hi]
  | rollbackNew blockHeight key =>
    simp +decide [readRollbackEventVariant, writeRollbackEventVariant, readRollbackNew,
      rollbackChangeTag, rollbackNewTag, serializeUint_one_cons, List.append_assoc,
      readRollbackEvent_append (show blockHeight < 2 ^ 64 from he),
      field_readsBack readPublicKey_readsBack _ trivial]
  | preventRollback blockHeight =>
    simp +decide [readRollbackEventVariant, writeRollbackEventVariant, readPreventRollback,
      rollbackChangeTag, rollbackNewTag, preventRollbackTag, serializeUint_one_cons,
      readRollbackEvent_append (show blockHeight < 2 ^ 64 from he)]

theorem readLastData_readsBack :
    ReadsBack readLastData writeLastData fun d => d.1 < 2 ^ 64 ∧ d.2.length < 2 ^ 64 := by
  rintro ⟨first, second⟩ ⟨hf, hs⟩ rest
  simp [readLastData, writeLastData, List.append_assoc, @serializeVarint_append 64 2 (by decide),
    serializeVarint_append hf, readString_append hs]

theorem readContractInfoForSerialization_readsBack :
    ReadsBack readContractInfoForSerialization writeContractInfoForSerialization ContractFits := by
  rintro ⟨height, registerHash, balance, lastData⟩ ⟨hh, hb, hd⟩ rest
  simp [readContractInfoForSerialization, writeContractInfoForSerialization, List.append_assoc,
    field_serializeUint_append (lt_256_pow_8 hh), field_serializeUint_append (lt_256_pow_8 hb),
    field_readsBack readHash_readsBack _ trivial, field_readsBack readLastData_readsBack lastData hd rest]

/-- The whole blob reads back when its values fit and every record stores its swarm id. -/
theorem readDataMembersForSerialization_readsBack (swarmId : UInt64) :
    ReadsBack (readDataMembersForSerialization swarmId) writeDataMembersForSerialization
      (DataFits Storable) := by
  rintro ⟨quorumStates, infos, events, contracts, height⟩ ⟨hq, hi, he, hc, hh⟩ rest
  have hquorums := field_readsBack (readContainer_readsBack readQuorumStateForSerialization_readsBack
    (fun q _ => by simp [writeQuorumStateForSerialization, writeUint])) quorumStates hq
  have hinfos := field_readsBack
    (readContainer_readsBack (readNodeInfoForSerialization_readsBack swarmId)
      (fun n _ => by simp [writeNodeInfoForSerialization, writeKey, writeUint])) infos hi
  have hevents := field_readsBack
    (readContainer_readsBack (readRollbackEventVariant_readsBack swarmId)
      (fun e _ => by cases e <;> simp [writeRollbackEventVariant])) events he
  have hcontracts := field_readsBack
    (readContainer_readsBack readContractInfoForSerialization_readsBack
      (fun c _ => by simp [writeContractInfoForSerialization, writeUint])) contracts hc
  simp [readDataMembersForSerialization, writeDataMembersForSerialization, List.append_assoc,
    hquorums, hinfos, hevents, hcontracts, field_serializeUint_append (lt_256_pow_8 hh)]

/-! ## `load` after `store` -/

/-- The values of a list fit the C++ types that `store` writes them as. -/
def Representable (s : ServiceNodeList) : Prop := DataFits InfoFits (dataToStore s)

/-- The records `store` writes of a reachable list all store their swarm ids. -/
theorem dataFits_dataToStore {env : Env} {s : ServiceNodeList} (hs : Reachable env s)
    (hfits : Representable s) : DataFits Storable (dataToStore s) := by
  have hversion := reachable_version hs
  obtain ⟨hq, ⟨hilen, hi⟩, ⟨helen, he⟩, hc, hh⟩ := hfits
  refine ⟨hq, ⟨hilen, fun n hn => ?_⟩, ⟨helen, fun e he' => ?_⟩, hc, hh⟩
  · -- a stored record is a listed one
    obtain ⟨entry, hentry, rfl⟩ := List.mem_map.mp hn
    have hlookup : s.serviceNodesInfos.lookup entry.1 = some entry.2 :=
      AList.mem_lookup_iff.mpr hentry
    have hv : entry.2.version = 1 := hversion.infos _ _ hlookup
    exact ⟨hi _ hn, by simp [version1Swarms, hv]⟩
  · -- a stored event is one of the list's, and its record is kept for an undo
    have hfit := he e he'
    cases e with
    | rollbackChange blockHeight key info =>
      have hv : info.version = 1 := hversion.events blockHeight key info he'
      exact ⟨hfit.1, hfit.2, by simp [version1Swarms, hv]⟩
    | rollbackNew => exact hfit
    | preventRollback => exact hfit

theorem parseBinary_store (swarmId : UInt64) {env : Env} {s : ServiceNodeList}
    (hs : Reachable env s) (hfits : Representable s) :
    parseBinary (readDataMembersForSerialization swarmId) (store s) = some (dataToStore s) :=
  parseBinary_readsBack (readDataMembersForSerialization_readsBack swarmId)
    (dataFits_dataToStore hs hfits)

/-- Assigning the stored quorums in height order rebuilds the map. -/
theorem restore_quorumStates (ctx : Context) {s : ServiceNodeList} (hsorted : QuorumsSorted s) :
    (restore (clear ctx) (dataToStore s)).quorumStates = s.quorumStates := by
  have h := @foldl_insertOrAssign ℕ QuorumState _ [] s.quorumStates
    (by simpa [QuorumsSorted] using hsorted)
  simpa [restore, clear, dataToStore, List.foldl_map] using h

/-- Inserting the stored records one by one gives back every lookup. -/
theorem restore_serviceNodesInfos (ctx : Context) (s : ServiceNodeList) :
    Agree (restore (clear ctx) (dataToStore s)).serviceNodesInfos s.serviceNodesInfos := by
  have h := agree_foldl_insert_entries s.serviceNodesInfos
  simpa [restore, clear, dataToStore, List.foldl_map] using h

theorem rebuildEvent_eq (e : RollbackEvent) : rebuildEvent e = e := by
  cases e <;> rfl

theorem restore_rollbackEvents (ctx : Context) (s : ServiceNodeList) :
    (restore (clear ctx) (dataToStore s)).rollbackEvents = s.rollbackEvents := by
  have hid : rebuildEvent = id := funext rebuildEvent_eq
  simp [restore, clear, dataToStore, hid]

/-- Loading what `store` wrote of a reachable list succeeds and puts back its height, its
records, its quorums and its events. -/
theorem load_store_roundtrip {env : Env} {s : ServiceNodeList} (hs : Reachable env s)
    (hfits : Representable s) (ctx : Context) (swarmId : UInt64) :
    ∃ s', load ctx swarmId (some (store s)) = (s', true) ∧ s'.height = s.height ∧
      Agree s'.serviceNodesInfos s.serviceNodesInfos ∧ s'.quorumStates = s.quorumStates ∧
      s'.rollbackEvents = s.rollbackEvents := by
  refine ⟨restore (clear ctx) (dataToStore s), ?_, rfl, restore_serviceNodesInfos ctx s,
    restore_quorumStates ctx (reachable_quorumsSorted hs), restore_rollbackEvents ctx s⟩
  simp only [load, parseBinary_store swarmId hs hfits]

/-- The list a fake chain reaches at height 130, with a registered node and its events, is
stored and loaded back. -/
theorem graceState_load_store_roundtrip :
    Representable graceState ∧
      ∃ s', load graceContext 0 (some (store graceState)) = (s', true) ∧
        s'.height = graceState.height ∧ Agree s'.serviceNodesInfos graceState.serviceNodesInfos ∧
        s'.quorumStates = graceState.quorumStates ∧
        s'.rollbackEvents = graceState.rollbackEvents := by
  have hfits : Representable graceState := by
    unfold Representable
    decide +kernel
  exact ⟨hfits, load_store_roundtrip graceState_inStepReachable.reachable hfits graceContext 0⟩

end Equilibria.ServiceNodeStore
