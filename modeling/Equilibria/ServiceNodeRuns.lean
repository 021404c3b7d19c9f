import Equilibria.ServiceNodeList

/-!
# Runs of the service-node list

The list changes only through the two hooks the blockchain calls, `block_added` and
`blockchain_detached`, starting from a cleared list. `Reachable` admits every sequence of such
calls, each with its own view of the chain. `InStep` admits the calls the blockchain makes
while the list keeps step with it: a block from hard fork 5 on arrives at the height the list
expects (what `block_added_generic` asserts) and its miner transaction names the winner
`select_winner` picks (what the `validate_miner_tx` hook checks before the block is added), and
a detach comes after the chain was popped to the detach height, with a chain view whose blocks
sit at their heights. The hook's checks of the winner's outputs are left out of `InStep`; they
are modelled with the miner transaction.
-/

namespace Equilibria.ServiceNodeRuns

open CryptonoteBasic OrderedMap ServiceNodeState ServiceNodeList

/-- A hook call into the list. -/
inductive Call
  | blockAdded (ctx : Context) (block : Block) (txs : List Transaction)
  | blockchainDetached (ctx : Context) (height : ℕ)

variable (env : Env)

/-- The effect of a call; `none` when it does not return. -/
def Call.run : Call → ServiceNodeList → Option ServiceNodeList
  | .blockAdded ctx block txs, s => blockAddedGeneric env ctx s block txs
  | .blockchainDetached ctx height, s => ServiceNodeList.blockchainDetached env ctx s height

/-- The states a cleared list reaches through any sequence of calls. -/
inductive Reachable : ServiceNodeList → Prop
  | clear (ctx : Context) : Reachable (clear ctx)
  | step {s s' : ServiceNodeList} (c : Call) : Reachable s → c.run env s = some s' → Reachable s'

/-- A chain view as the blockchain gives it: every block sits at its height and passed the
parser's limit on transactions, and from the height of hard fork 5 on the version is at
least 5. -/
structure WellFormed (ctx : Context) : Prop where
  /-- `get_blocks` returns the block at the height asked for. -/
  blocks_height : ∀ h block txs, ctx.blocks h = some (block, txs) → block.height = h
  /-- A stored block has at most `CRYPTONOTE_MAX_TX_PER_BLOCK` transactions. -/
  blocks_txs : ∀ h block txs, ctx.blocks h = some (block, txs) →
    txs.length ≤ cryptonoteMaxTxPerBlock
  /-- Hard-fork versions reach 5 at the height `get_hard_fork_voting_info` reports. -/
  hardFork5 : ∀ h, ctx.hardFork5Height ≤ h → 5 ≤ ctx.hardForkVersion h

/-- The winner check of `validate_miner_tx` (lines 1131-1136), which `Blockchain` runs on a
block before `block_added_generic` sees it: from hard fork 5 on, the miner transaction names
the node `select_winner` picks on the list as it stands. -/
def NamesWinner (ctx : Context) (s : ServiceNodeList) (block : Block) : Prop :=
  5 ≤ ctx.hardForkVersion block.height →
    getServiceNodeWinnerFromTxExtra block.minerTx.extra = selectWinner ctx s

instance (ctx : Context) (s : ServiceNodeList) (block : Block) :
    Decidable (NamesWinner ctx s block) :=
  inferInstanceAs (Decidable (_ → _))

/-- A call the blockchain makes while the list keeps step with it. -/
def Call.InStep : Call → ServiceNodeList → Prop
  | .blockAdded ctx block txs, s =>
    WellFormed ctx ∧ (5 ≤ ctx.hardForkVersion block.height → block.height = s.height) ∧
      NamesWinner ctx s block ∧ txs.length ≤ cryptonoteMaxTxPerBlock
  | .blockchainDetached ctx height, s =>
    WellFormed ctx ∧ height ≤ s.height ∧ ctx.currentHeight = height

/-- The states a cleared list reaches through calls that keep step with the chain. -/
inductive InStepReachable : ServiceNodeList → Prop
  | clear (ctx : Context) : WellFormed ctx → InStepReachable (clear ctx)
  | step {s s' : ServiceNodeList} (c : Call) :
    InStepReachable s → c.InStep s → c.run env s = some s' → InStepReachable s'

/-- A state reached in step is reached. -/
theorem InStepReachable.reachable {s : ServiceNodeList} (h : InStepReachable env s) :
    Reachable env s := by
  induction h with
  | clear ctx _ => exact .clear ctx
  | step c _ _ hrun ih => exact .step c ih hrun

/-- Blocks added in order, each at the height the list expects, naming the winner and within
the transaction limit, as the chain adds them; `none` when a block is out of step or a call
does not return. -/
def addBlocksInStep (ctx : Context) :
    List (Block × List Transaction) → ServiceNodeList → Option ServiceNodeList
  | [], s => some s
  | (block, txs) :: rest, s =>
    if block.height = s.height ∧ NamesWinner ctx s block ∧
        txs.length ≤ cryptonoteMaxTxPerBlock then
      (blockAddedGeneric env ctx s block txs).bind (addBlocksInStep ctx rest)
    else none

/-- Blocks added in step from a state reached in step lead to a state reached in step. -/
theorem addBlocksInStep_reachable (ctx : Context) (hctx : WellFormed ctx) :
    ∀ (blocks : List (Block × List Transaction)) {s s' : ServiceNodeList},
      InStepReachable env s → addBlocksInStep env ctx blocks s = some s' →
        InStepReachable env s'
  | [], _, _, hs, h => by
    simp only [addBlocksInStep, Option.some.injEq] at h
    exact h ▸ hs
  | (block, txs) :: rest, s, s', hs, h => by
    simp only [addBlocksInStep] at h
    split at h
    · rename_i hstep
      cases hrun : blockAddedGeneric env ctx s block txs with
      | none => simp [hrun] at h
      | some s₁ =>
        rw [hrun, Option.bind_some] at h
        have hs₁ : InStepReachable env s₁ :=
          .step (.blockAdded ctx block txs) hs ⟨hctx, fun _ => hstep.1, hstep.2.1, hstep.2.2⟩ hrun
        exact addBlocksInStep_reachable ctx hctx rest hs₁ h
    · exact absurd h (by simp)

/-! ## Invariants of runs -/

section Invariant

variable {env} {Q : ServiceNodeList → Prop}
  (hclear : ∀ ctx, Q (ServiceNodeState.clear ctx))
  (hblock : ∀ ctx s block txs s', Q s → blockAddedGeneric env ctx s block txs = some s' → Q s')

include hblock in
theorem addBlocks_invariant {ctx : Context} :
    ∀ {s : ServiceNodeList} {r : ServiceNodeList × Bool} (heights : List ℕ),
      Q s → addBlocks env ctx s heights = some r → Q r.1
  | s, r, [], hs, h => by
    simp only [addBlocks, Option.some.injEq] at h
    exact h ▸ hs
  | s, r, height :: heights, hs, h => by
    simp only [addBlocks] at h
    split at h
    · simp only [Option.some.injEq] at h
      exact h ▸ hs
    · simp only [Option.bind_eq_bind, Option.bind_eq_some_iff] at h
      obtain ⟨s₁, h₁, h⟩ := h
      exact addBlocks_invariant heights (hblock ctx s _ _ s₁ hs h₁) h

include hblock in
theorem rescan_invariant {ctx : Context} :
    ∀ (fuel : ℕ) {s s' : ServiceNodeList}, Q s → rescan env ctx fuel s = some s' → Q s'
  | 0, _, _, _, h => by simp [rescan] at h
  | fuel + 1, s, s', hs, h => by
    simp only [rescan] at h
    split at h
    · simp only [Option.bind_eq_bind, Option.bind_eq_some_iff] at h
      obtain ⟨⟨s₁, stopped⟩, h₁, h⟩ := h
      have hs₁ := addBlocks_invariant hblock _ hs h₁
      split at h
      · exact Option.some.inj h ▸ hs₁
      · exact rescan_invariant fuel hs₁ h
    · exact Option.some.inj h ▸ hs

include hclear hblock in
theorem init_invariant {ctx : Context} {s s' : ServiceNodeList} (hs : Q s)
    (h : init env ctx (some s) = some s') : Q s' := by
  simp only [init] at h
  split at h
  · exact Option.some.inj h ▸ hclear ctx
  · split at h
    · exact Option.some.inj h ▸ hs
    · refine rescan_invariant hblock _ ?_ h
      split
      · exact hclear ctx
      · exact hs

variable
  (hpop : ∀ s height infos rest, Q s →
    popEvents height s.serviceNodesInfos s.rollbackEvents.reverse = some (infos, rest) →
      Q { s with serviceNodesInfos := infos, rollbackEvents := rest.reverse })
  (hdrop : ∀ s height, Q s →
    Q { s with quorumStates := eraseBackWhile (· ≥ height) s.quorumStates, height })

include hclear hblock hpop hdrop in
/-- `blockchain_detached` keeps a property that the undo of events, the rebuild by `init` and
the drop of the detached quorums keep. -/
theorem blockchainDetached_invariant {ctx : Context} {s s' : ServiceNodeList} {height : ℕ}
    (hs : Q s) (h : ServiceNodeList.blockchainDetached env ctx s height = some s') : Q s' := by
  simp only [ServiceNodeList.blockchainDetached, Option.bind_eq_bind, Option.pure_def] at h
  split at h
  · rename_i infos rest hpopped
    simp only [Option.bind_some, Option.some.injEq] at h
    subst h
    exact hdrop _ height (hpop s height infos rest hs hpopped)
  · simp only [Option.bind_eq_some_iff, Option.some.injEq] at h
    obtain ⟨s₁, h₁, rfl⟩ := h
    exact hdrop _ height (init_invariant hclear hblock hs h₁)

include hclear hblock hpop hdrop in
/-- A property of a cleared list that every call keeps holds of every reachable list. -/
theorem Reachable.invariant {s : ServiceNodeList} (hs : Reachable env s) : Q s := by
  induction hs with
  | clear ctx => exact hclear ctx
  | step c _ hrun ih =>
    cases c with
    | blockAdded ctx block txs => exact hblock ctx _ block txs _ ih hrun
    | blockchainDetached ctx height =>
      exact blockchainDetached_invariant hclear hblock hpop hdrop ih hrun

end Invariant

end Equilibria.ServiceNodeRuns
