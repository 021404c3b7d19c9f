import Equilibria.ServiceNodeState

/-!
# Popping blocks

`Blockchain::pop_blocks` and `pop_block_from_blockchain` of `blockchain.cpp`, with the
service-node list that the blockchain's hooks keep. The blockchain tells its hooks of a change
to the main chain: `block_added` in `handle_block_to_main_chain`, `blockchain_detached` in
`rollback_blockchain_switching` and `switch_to_alternative_blockchain`. The service-node list
changes only through them.

`pop_blocks`, which the `pop_blocks` RPC calls, cuts the chain and calls no hook: the list keeps
the height of the chain before the cut (`popBlocks_out_of_step`).

What `pop_block_from_blockchain` does besides cutting the chain (the hard-fork object, the
transactions returned to the pool, the caches) touches neither the chain nor the list.
-/

namespace Equilibria.ChainHooks

open CryptonoteBasic ServiceNodeState

/-- The main chain in `m_db`, each block with its transactions, and the service-node list the
blockchain's hooks keep. -/
structure Blockchain where
  blocks : List (Block × List Transaction)
  serviceNodeList : ServiceNodeList

/-- `m_db->height()`. -/
def Blockchain.height (chain : Blockchain) : ℕ := chain.blocks.length

/-- `pop_block_from_blockchain`: the top block leaves the chain; no hook is called. -/
def popBlockFromBlockchain (chain : Blockchain) : Except String Blockchain :=
  if chain.height > 1 then .ok { chain with blocks := chain.blocks.dropLast }
  else .error "Cannot pop the genesis block"

/-- The loop of `pop_blocks`. -/
def popBlocksLoop : ℕ → Blockchain → Except String Blockchain
  | 0, chain => .ok chain
  | n + 1, chain => do popBlocksLoop n (← popBlockFromBlockchain chain)

/-- `pop_blocks(nblocks)`: at most all blocks but the genesis block are popped; an exception
aborts the batch, which leaves the chain as it was. -/
def popBlocks (nblocks : ℕ) (chain : Blockchain) : Blockchain :=
  let blockchainHeight := chain.height
  let nblocks := if blockchainHeight > 0 then min nblocks (blockchainHeight - 1) else nblocks
  match popBlocksLoop nblocks chain with
  | .ok chain => chain
  | .error _ => chain

/-! ## What `pop_blocks` does -/

/-- Popping `n` blocks off a chain of more than `n` cuts it to its first `height - n` blocks and
leaves the service-node list as it is. -/
theorem popBlocksLoop_eq_ok (n : ℕ) (chain : Blockchain) (h : n < chain.height) :
    popBlocksLoop n chain =
      .ok { chain with blocks := chain.blocks.take (chain.height - n) } := by
  induction n generalizing chain with
  | zero => simp [popBlocksLoop, Blockchain.height]
  | succ n ih =>
    -- one block goes, and the rest of the loop runs on the shorter chain
    have hpop : popBlockFromBlockchain chain = .ok { chain with blocks := chain.blocks.dropLast } := by
      unfold popBlockFromBlockchain
      rw [if_pos (by omega)]
    have hlen : n < ({ chain with blocks := chain.blocks.dropLast } : Blockchain).height := by
      simp only [Blockchain.height, List.length_dropLast] at h ⊢
      omega
    have htake : chain.blocks.dropLast.take (chain.blocks.dropLast.length - n) =
        chain.blocks.take (chain.blocks.length - (n + 1)) := by
      simp only [Blockchain.height] at h
      rw [List.dropLast_eq_take, List.take_take, List.length_take]
      congr 1
      omega
    rw [popBlocksLoop, hpop]
    simp only [bind, Except.bind]
    rw [ih _ hlen]
    simp only [Blockchain.height, htake]

theorem serviceNodeList_of_popBlocksLoop {n : ℕ} {chain chain' : Blockchain}
    (h : popBlocksLoop n chain = .ok chain') : chain'.serviceNodeList = chain.serviceNodeList := by
  induction n generalizing chain with
  | zero =>
    simp only [popBlocksLoop, Except.ok.injEq] at h
    rw [h]
  | succ n ih =>
    unfold popBlocksLoop popBlockFromBlockchain at h
    split_ifs at h
    · simp only [bind, Except.bind] at h
      -- the popped chain keeps the list
      have hrest := ih h
      exact hrest
    · cases h

/-- `pop_blocks` never touches the service-node list. -/
theorem serviceNodeList_popBlocks (nblocks : ℕ) (chain : Blockchain) :
    (popBlocks nblocks chain).serviceNodeList = chain.serviceNodeList := by
  unfold popBlocks
  dsimp only
  split
  · rename_i heq
    exact serviceNodeList_of_popBlocksLoop heq
  · rfl

/-- On a chain of `height > 0` blocks, `pop_blocks(nblocks)` leaves `height - min nblocks
(height - 1)` of them. -/
theorem height_popBlocks (nblocks : ℕ) (chain : Blockchain) (h : 0 < chain.height) :
    (popBlocks nblocks chain).height = chain.height - min nblocks (chain.height - 1) := by
  have hloop := popBlocksLoop_eq_ok (min nblocks (chain.height - 1)) chain (by omega)
  unfold popBlocks
  dsimp only
  rw [if_pos h, hloop]
  simp only [Blockchain.height, List.length_take]
  omega

/-- `pop_blocks` leaves the service-node list out of step with the chain: from any chain of two
blocks or more whose list has its height, popping a block or more leaves the list at the old
height and the chain lower. -/
theorem popBlocks_out_of_step (nblocks : ℕ) (chain : Blockchain)
    (hstep : chain.serviceNodeList.height = chain.height) (hheight : 2 ≤ chain.height)
    (hn : 0 < nblocks) :
    (popBlocks nblocks chain).serviceNodeList = chain.serviceNodeList ∧
      (popBlocks nblocks chain).height < chain.height ∧
      (popBlocks nblocks chain).serviceNodeList.height ≠ (popBlocks nblocks chain).height := by
  have hheight' := height_popBlocks nblocks chain (by omega)
  have hlower : (popBlocks nblocks chain).height < chain.height := by
    rw [hheight']
    omega
  refine ⟨serviceNodeList_popBlocks nblocks chain, hlower, ?_⟩
  rw [serviceNodeList_popBlocks, hstep]
  exact Nat.ne_of_gt hlower

/-- Popping one block off a chain of two whose list is in step. -/
theorem popBlocks_out_of_step_two_blocks :
    (popBlocks 1 ⟨List.replicate 2 (⟨0, 0, ⟨0⟩, ⟨1, 0, [], [], [], [], false, .null⟩⟩, []),
        ⟨∅, [], 2, []⟩⟩).serviceNodeList = ⟨∅, [], 2, []⟩ ∧
      (popBlocks 1 ⟨List.replicate 2 (⟨0, 0, ⟨0⟩, ⟨1, 0, [], [], [], [], false, .null⟩⟩, []),
        ⟨∅, [], 2, []⟩⟩).height < 2 ∧
      (popBlocks 1 ⟨List.replicate 2 (⟨0, 0, ⟨0⟩, ⟨1, 0, [], [], [], [], false, .null⟩⟩, []),
        ⟨∅, [], 2, []⟩⟩).serviceNodeList.height ≠
        (popBlocks 1 ⟨List.replicate 2 (⟨0, 0, ⟨0⟩, ⟨1, 0, [], [], [], [], false, .null⟩⟩, []),
          ⟨∅, [], 2, []⟩⟩).height :=
  popBlocks_out_of_step 1 _ rfl (by decide) (by decide)

end Equilibria.ChainHooks
