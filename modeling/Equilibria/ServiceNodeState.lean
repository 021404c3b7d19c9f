import Equilibria.MapJournal
import Equilibria.OrderedMap
import Equilibria.ServiceNodeRules

/-!
# State of the service-node list

The records of `service_node_list.h`: a contributor's stake, a node's registration record,
a quorum, the undo events the list records before each change, and the four data members of
`service_node_list`. Alongside them, what the list reads from outside itself: the node's
fixed environment (network type, cryptography, `triton::exp2`) and, for each call, the view of
the blockchain it queries and the values its uninitialized variables hold.

`m_service_nodes_infos` is an `std::unordered_map`, whose iteration order is unspecified; the
model is an association list whose order stands for that order. Heights and the transaction
index are natural numbers: the block parser admits at most `CRYPTONOTE_MAX_TX_PER_BLOCK`
transactions, so the `uint32_t` index never wraps.
-/

namespace Equilibria.ServiceNodeState

open CryptonoteBasic MapJournal OrderedMap ServiceNodeRules

/-- `service_node_info::contribution`. -/
structure Contribution where
  /-- `amount`: what the contributor has locked so far. -/
  amount : UInt64
  /-- `reserved`: what the contributor has reserved of the stake. -/
  reserved : UInt64
  /-- `address`. -/
  address : AccountPublicAddress
  deriving DecidableEq, Repr

/-- `service_node_info`. -/
structure ServiceNodeInfo where
  /-- `version`: 0 is `version_0`, 1 `version_1_swarms`. -/
  version : ℕ
  /-- `registration_height`. -/
  registrationHeight : ℕ
  /-- `last_reward_block_height`. -/
  lastRewardBlockHeight : ℕ
  /-- `last_reward_transaction_index`. -/
  lastRewardTransactionIndex : ℕ
  /-- `contributors`. -/
  contributors : List Contribution
  /-- `total_contributed`. -/
  totalContributed : UInt64
  /-- `total_reserved`. -/
  totalReserved : UInt64
  /-- `staking_requirement`. -/
  stakingRequirement : UInt64
  /-- `portions_for_operator`. -/
  portionsForOperator : UInt64
  /-- `portions_for_operator_no_fee`. -/
  portionsForOperatorNoFee : UInt64
  /-- `swarm_id`. -/
  swarmId : UInt64
  /-- `operator_address`. -/
  operatorAddress : AccountPublicAddress
  deriving DecidableEq, Repr

/-- A value-initialized `service_node_info` (`service_node_info info = {}`). -/
def ServiceNodeInfo.empty : ServiceNodeInfo :=
  ⟨0, 0, 0, 0, [], 0, 0, 0, 0, 0, 0, nullAddress⟩

/-- `service_node_info::is_valid`. -/
def ServiceNodeInfo.isValid (info : ServiceNodeInfo) : Bool :=
  info.totalContributed ≥ info.totalReserved

/-- `service_node_info::is_fully_funded`. -/
def ServiceNodeInfo.isFullyFunded (info : ServiceNodeInfo) : Bool :=
  info.totalContributed ≥ info.stakingRequirement

/-- `service_node_info::get_min_contribution`. -/
def ServiceNodeInfo.getMinContribution (info : ServiceNodeInfo) (hfVersion : ℕ) : UInt64 :=
  getMinNodeContribution hfVersion info.stakingRequirement info.totalReserved

/-- `quorum_state`. -/
structure QuorumState where
  /-- `quorum_nodes`: the voters. -/
  quorumNodes : List PublicKey
  /-- `nodes_to_test`. -/
  nodesToTest : List PublicKey
  deriving DecidableEq, Repr

/-- The undo events of `service_node_list`: `rollback_change` restores a node's record,
`rollback_new` removes a node that a registration added, `prevent_rollback` stops a rollback. -/
inductive RollbackEvent
  | rollbackChange (blockHeight : ℕ) (key : PublicKey) (info : ServiceNodeInfo)
  | rollbackNew (blockHeight : ℕ) (key : PublicKey)
  | preventRollback (blockHeight : ℕ)
  deriving DecidableEq, Repr

/-- `rollback_event::m_block_height`. -/
def RollbackEvent.blockHeight : RollbackEvent → ℕ
  | .rollbackChange h _ _ => h
  | .rollbackNew h _ => h
  | .preventRollback h => h

/-- The registration records by node key. -/
abbrev Infos := Map PublicKey ServiceNodeInfo

/-- `rollback_event::apply` of the three events; `none` is a `false` return. -/
def RollbackEvent.apply : RollbackEvent → Infos → Option Infos
  | .rollbackChange _ key info, infos => some (infos.insert key info)
  | .rollbackNew _ key, infos => if key ∈ infos then some (infos.erase key) else none
  | .preventRollback _, _ => none

/-- The undo action an event records in the terms of an undo journal; `prevent_rollback`
records none. -/
def RollbackEvent.undo? : RollbackEvent → Option (Undo PublicKey ServiceNodeInfo)
  | .rollbackChange _ key info => some (.restore key info)
  | .rollbackNew _ key => some (.remove key)
  | .preventRollback _ => none

/-- Applying an event runs the undo action it records. -/
theorem RollbackEvent.apply_eq (e : RollbackEvent) (infos : Infos) :
    e.apply infos = e.undo?.bind fun u => u.run infos := by
  cases e <;> rfl

/-- The data members of `service_node_list`. -/
structure ServiceNodeList where
  /-- `m_service_nodes_infos`. -/
  serviceNodesInfos : Infos
  /-- `m_rollback_events`, oldest first. -/
  rollbackEvents : List RollbackEvent
  /-- `m_height`: the height of the next block the list expects. -/
  height : ℕ
  /-- `m_quorum_states`, by height. -/
  quorumStates : OMap ℕ QuorumState

/-- What a node fixes once: its network, the cryptographic primitives, and `triton::exp2`. -/
structure Env where
  /-- `m_blockchain.nettype()`. -/
  nettype : NetworkType
  /-- The cryptographic primitives. -/
  crypto : Crypto
  /-- `triton::exp2`. -/
  exp2 : Float → Float

/-- What one call reads from the blockchain and from uninitialized memory. -/
structure Context where
  /-- `m_blockchain.get_hard_fork_version(height)`. -/
  hardForkVersion : ℕ → ℕ
  /-- `m_blockchain.get_current_hard_fork_version()`. -/
  currentHardForkVersion : ℕ
  /-- `m_blockchain.get_current_blockchain_height()`. -/
  currentHeight : ℕ
  /-- `m_blockchain.get_block_id_by_height(height)`. -/
  blockIdByHeight : ℕ → Hash
  /-- The main-chain block at a height with its transactions (`get_blocks`,
  `get_transactions`); `none` where either fails. -/
  blocks : ℕ → Option (Block × List Transaction)
  /-- The height `get_hard_fork_voting_info(5, ...)` reports for hard fork 5. -/
  hardFork5Height : ℕ
  /-- The value `is_registration_tx` reads from its uninitialized
  `portions_for_operator_no_fee` for a transaction. -/
  noFeeRead : Transaction → UInt64
  /-- The values `check_service_node_portions` reads for its self-initialized bound, per
  iteration, when checking a transaction. -/
  minPortionsRead : Transaction → ℕ → UInt64
  /-- The bytes of the fresh buffer `get_registration_hash` allocates for a transaction. -/
  heap : Transaction → ℕ → UInt8

/-- `service_node_list::clear`: no nodes, no events, no quorums, and the height at which hard
fork 5 starts. -/
def clear (ctx : Context) : ServiceNodeList :=
  ⟨∅, [], ctx.hardFork5Height, []⟩

/-- `service_node_list::get_quorum_state`: the stored quorum, or an empty one. -/
def getQuorumState (s : ServiceNodeList) (height : ℕ) : QuorumState :=
  (find? s.quorumStates height).getD ⟨[], []⟩

/-- `service_node_list::is_service_node`. -/
def isServiceNode (s : ServiceNodeList) (pubkey : PublicKey) : Bool :=
  (s.serviceNodesInfos.lookup pubkey).isSome

end Equilibria.ServiceNodeState
