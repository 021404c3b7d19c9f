import Equilibria.ServiceNodeRuns

/-!
# The undo log across a grace-period re-registration

`blockchain_detached(h)` undoes the blocks from `h` on by applying their rollback events from
the newest back. Every mutator of an existing record first records `rollback_change` with the
old record, and a registration of a new key records `rollback_new`, whose undo removes the
key. A node may register again during the grace period after its lock period, while its old
record is still listed; `process_registration_tx` then also records `rollback_new`, so undoing
that block removes the node instead of restoring its old record.

The runs below are on a fake chain, whose lock period is 30 blocks, with cryptographic
primitives under which the registration's signature verifies and its single output decodes
to a fixed amount. Every block's miner transaction names the winner `select_winner` picks, as
`validate_miner_tx` demands. When the node is fully funded it is that winner, and the
`rollback_change` of its reward queue position, recorded in the same block before the
re-registration, restores it on a detach. A node staked at a quarter of the requirement is
never a winner before hard fork 10, and the detach drops it.
-/

namespace Equilibria.UndoLog

open CryptonoteBasic ServiceNodeState ServiceNodeList ServiceNodeRuns

/-- The key of the node that registers twice. -/
def nodeKey : PublicKey := ⟨7⟩

/-- Its only contributor, who is also its operator. -/
def contributor : AccountPublicAddress := ⟨⟨11⟩, ⟨12⟩⟩

/-- Primitives under which the registration is signed and its output carries the staking
requirement of a fake chain. -/
def graceCrypto : Crypto where
  cnFastHash _ := nullHash
  checkKey _ := true
  checkSignature _ _ _ := true
  generateKeyDerivation _ _ := some ⟨1⟩
  derivationToScalar _ _ := ⟨2⟩
  derivePublicKey _ _ key := some key
  decodeRctSimple _ _ _ := some 1000000
  decodeRct _ _ _ := some 1000000

/-- A node on a fake chain. -/
def graceEnv : Env := ⟨.fakechain, graceCrypto, id⟩

/-- The same primitives with the output carrying a quarter of the staking requirement, the
least a first contributor may stake. -/
def partialCrypto : Crypto :=
  { graceCrypto with
    decodeRctSimple := fun _ _ _ => some 250000
    decodeRct := fun _ _ _ => some 250000 }

/-- A node on a fake chain whose registrations are staked at a quarter. -/
def partialEnv : Env := ⟨.fakechain, partialCrypto, id⟩

/-- A chain at version 5 from height 100 on, at height 130, whose block hashes are null. -/
def graceContext : Context where
  hardForkVersion _ := 5
  currentHardForkVersion := 5
  currentHeight := 130
  blockIdByHeight _ := nullHash
  blocks _ := none
  hardFork5Height := 100
  noFeeRead _ := 0
  minPortionsRead _ _ := 0
  heap _ _ := 0

/-- A transaction with nothing for the service-node list. -/
def emptyTx : Transaction := ⟨1, 0, [], [], [], [], false, .null⟩

/-- A miner transaction that names `winner`. -/
def coinbaseNaming (winner : PublicKey) : Transaction :=
  ⟨1, 0, [], [], [.serviceNodeWinner winner], [], false, .null⟩

/-- A block at a height, without transactions, whose miner transaction names `winner`. -/
def blockAt (height : ℕ) (winner : PublicKey) : Block :=
  ⟨height, 0, nullHash, coinbaseNaming winner⟩

/-- The registration of `nodeKey` with one contributor holding every portion, staking one
output locked until height 1000. -/
def registrationTx : Transaction :=
  ⟨3, 0, [], [⟨0, .toKey ⟨13⟩⟩],
    [.serviceNodeRegister
      ⟨[contributor.spendPublicKey], [contributor.viewPublicKey], stakingPortions,
        [stakingPortions], 1, ⟨0⟩⟩,
     .serviceNodePubkey nodeKey, .serviceNodeContributor contributor, .txSecretKey ⟨5⟩],
    [1000], false, .simple⟩

/-- The registration at height 100, on an empty list, then 29 blocks up to the end of the lock
period, each naming `winner`. -/
def blocksToGrace (winner : PublicKey) : List (Block × List Transaction) :=
  (blockAt 100 nullPkey, [registrationTx]) :: (List.range 29).map fun i => (blockAt (101 + i) winner, [])

theorem graceContext_wellFormed : WellFormed graceContext where
  blocks_height _ _ _ h := by simp [graceContext] at h
  blocks_txs _ _ _ h := by simp [graceContext] at h
  hardFork5 _ _ := by simp [graceContext]

/-! ## A fully funded node -/

/-- The list at height 130, after the registration block and the lock period, in which the
funded `nodeKey` won every block. -/
def graceState : ServiceNodeList :=
  (addBlocksInStep graceEnv graceContext (blocksToGrace nodeKey) (clear graceContext)).get
    (by decide +kernel)

/-- The run to height 130 keeps step with the chain. -/
theorem graceState_inStepReachable : InStepReachable graceEnv graceState :=
  addBlocksInStep_reachable graceEnv graceContext graceContext_wellFormed (blocksToGrace nodeKey)
    (.clear graceContext graceContext_wellFormed) (Option.some_get _).symm

/-! ## A node staked at a quarter -/

/-- The list at height 130 after registering `nodeKey` staked at a quarter; no block had a
winner. -/
def partialState : ServiceNodeList :=
  (addBlocksInStep partialEnv graceContext (blocksToGrace nullPkey) (clear graceContext)).get
    (by decide +kernel)

theorem partialState_inStepReachable : InStepReachable partialEnv partialState :=
  addBlocksInStep_reachable partialEnv graceContext graceContext_wellFormed (blocksToGrace nullPkey)
    (.clear graceContext graceContext_wellFormed) (Option.some_get _).symm

/-- The list after the block at height 130 re-registers `nodeKey`. -/
def reregisteredState : ServiceNodeList :=
  (blockAddedGeneric partialEnv graceContext partialState (blockAt 130 nullPkey)
    [registrationTx]).get (by decide +kernel)

/-- The list after that block is detached. -/
def detachedState : ServiceNodeList :=
  (ServiceNodeList.blockchainDetached partialEnv graceContext reregisteredState 130).get
    (by decide +kernel)

/-- A run in step with the chain reaches height 130 with `nodeKey` listed; the block at 130,
which names the winner and arrives in step, re-registers it, and detaching that block, in step,
pops only its `rollback_change` and `rollback_new` events, yet leaves `nodeKey` unlisted. -/
theorem grace_reregistration_rollback_drops_node :
    ∃ S S' S'' : ServiceNodeList,
      InStepReachable partialEnv S ∧ S.height = 130 ∧
      (S.serviceNodesInfos.lookup nodeKey).isSome ∧
      (Call.blockAdded graceContext (blockAt 130 nullPkey) [registrationTx]).InStep S ∧
      blockAddedGeneric partialEnv graceContext S (blockAt 130 nullPkey) [registrationTx] =
        some S' ∧
      (∀ e ∈ S'.rollbackEvents, 130 ≤ e.blockHeight → e.undo?.isSome) ∧
      (Call.blockchainDetached graceContext 130).InStep S' ∧
      ServiceNodeList.blockchainDetached partialEnv graceContext S' 130 = some S'' ∧
      S''.height = 130 ∧ S''.serviceNodesInfos.lookup nodeKey = none := by
  have hcall : (Call.blockAdded graceContext (blockAt 130 nullPkey) [registrationTx]).InStep
      partialState := by
    dsimp only [Call.InStep]
    -- the block is at the list's height and names its (null) winner
    exact ⟨graceContext_wellFormed, fun _ => by decide +kernel, fun _ => by decide +kernel, by decide⟩
  have hdetach : (Call.blockchainDetached graceContext 130).InStep reregisteredState :=
    ⟨graceContext_wellFormed, by decide +kernel, rfl⟩
  exact ⟨partialState, reregisteredState, detachedState, partialState_inStepReachable,
    by decide +kernel, by decide +kernel, hcall, (Option.some_get _).symm,
    by decide +kernel, hdetach, (Option.some_get _).symm, by decide +kernel,
    by decide +kernel⟩

end Equilibria.UndoLog
