import Equilibria.TxExtra
import Equilibria.QuorumCop

/-!
# The deregistration vote pool

`service_node_deregister.cpp`: the checks of a deregistration vote, and of the votes of a
deregistration transaction, against the quorum of their height; and `deregister_vote_pool`,
which gathers the votes for each height and tested node until `MIN_VOTES_TO_KICK_SERVICE_NODE`
of them make a deregistration transaction. `core::add_deregister_vote` hands the pool the votes
whose height is still open, with the quorum the service node list holds for it.

A failed check sets one flag of `vote_verification_context`; it is the error that names the flag
here. The hash and the signature check are parameters, the `Crypto` of the quorum cop; times are
the readings of `time(NULL)`.

`verify_deregister` accepts exactly enough votes, from distinct voters of the quorum, for a node
it tests, all signed (`verifyDeregister_eq_ok_iff`). Along any run of the pool's operations every
group holds votes of distinct voters that each pass `verify_vote` against the quorum of their
height (`poolRun_groupsSound`), so the transaction a full group makes carries a deregistration
that `verify_deregister` accepts (`addVote_deregisterTx_verifies`). The votes the quorum cop casts
pass `verify_vote` (`blockAdded_votes_verify`).
-/

namespace Equilibria.DeregisterVotes

open CryptonoteBasic MapJournal ServiceNodeState BinaryArchive TxExtra QuorumCop

/-! ## Checking votes -/

/-- `make_hash_from`: the fast hash of the height and the node's index, as they lie in memory. -/
def makeHashFrom (cnFastHash : List UInt8 → Hash) (blockHeight : UInt64)
    (serviceNodeIndex : UInt32) : Hash :=
  cnFastHash (writeUint 8 blockHeight.toNat ++ writeUint 4 serviceNodeIndex.toNat)

/-- `verify_votes_signature`: every signature checks under its key against the hash of the height
and the node's index. -/
def verifyVotesSignature (crypto : QuorumCop.Crypto) (blockHeight : UInt64) (serviceNodeIndex : UInt32)
    (keysAndSigs : List (PublicKey × Signature)) : Bool :=
  keysAndSigs.all fun keyAndSig =>
    crypto.checkSignature (makeHashFrom crypto.cnFastHash blockHeight serviceNodeIndex)
      keyAndSig.1 keyAndSig.2

/-- The flag of `vote_verification_context` that a failed check sets. -/
inductive VoteError where
  /-- `m_service_node_index_out_of_bounds`. -/
  | serviceNodeIndexOutOfBounds
  /-- `m_voters_quorum_index_out_of_bounds`. -/
  | votersQuorumIndexOutOfBounds
  /-- `m_duplicate_voters`. -/
  | duplicateVoters
  /-- `m_verification_failed`: a signature does not check. -/
  | verificationFailed
  /-- `m_not_enough_votes`. -/
  | notEnoughVotes
  deriving DecidableEq, Repr

/-- The flags of `vote_verification_context` that the pool and `add_deregister_vote` set. -/
structure VoteVerificationContext where
  verificationFailed : Bool
  invalidBlockHeight : Bool
  duplicateVoters : Bool
  votersQuorumIndexOutOfBounds : Bool
  serviceNodeIndexOutOfBounds : Bool
  addedToPool : Bool
  fullTxDeregisterMade : Bool
  notEnoughVotes : Bool
  deriving DecidableEq, Repr

/-- A context with no flag set, as `AUTO_VAL_INIT` makes it. -/
def VoteVerificationContext.init : VoteVerificationContext :=
  ⟨false, false, false, false, false, false, false, false⟩

/-- The flag a failed check sets. -/
def VoteVerificationContext.raise (vvc : VoteVerificationContext) :
    VoteError → VoteVerificationContext
  | .serviceNodeIndexOutOfBounds => { vvc with serviceNodeIndexOutOfBounds := true }
  | .votersQuorumIndexOutOfBounds => { vvc with votersQuorumIndexOutOfBounds := true }
  | .duplicateVoters => { vvc with duplicateVoters := true }
  | .verificationFailed => { vvc with verificationFailed := true }
  | .notEnoughVotes => { vvc with notEnoughVotes := true }

/-- The loop of `verify_votes_helper` over the votes: each voter's index lies in the quorum and
is counted once in `quorum_set`, and the voter's key and the signature are gathered. -/
def verifyVotersLoop (quorum : List PublicKey) :
    List ℕ → List (PublicKey × Signature) → List DeregisterTxVote →
      Except VoteError (List (PublicKey × Signature))
  | _, keysAndSigs, [] => .ok keysAndSigs
  | quorumSet, keysAndSigs, vote :: votes =>
    if h : vote.votersQuorumIndex.toNat < quorum.length then
      let count := quorumSet.getD vote.votersQuorumIndex.toNat 0 + 1
      if count > 1 then .error .duplicateVoters
      else verifyVotersLoop quorum (quorumSet.set vote.votersQuorumIndex.toNat count)
        (keysAndSigs ++ [(quorum[vote.votersQuorumIndex.toNat], vote.signature)]) votes
    else .error .votersQuorumIndexOutOfBounds

/-- `verify_votes_helper`: the node's index among the nodes to test, the voters, then the
signatures. `quorum_set` is resized to the quorum's size, all zeros, before its first use. -/
def verifyVotesHelper (crypto : QuorumCop.Crypto) (deregister : TxExtraServiceNodeDeregister)
    (quorumState : QuorumState) : Except VoteError Unit :=
  if deregister.serviceNodeIndex.toNat ≥ quorumState.nodesToTest.length then
    .error .serviceNodeIndexOutOfBounds
  else
    match verifyVotersLoop quorumState.quorumNodes
        (List.replicate quorumState.quorumNodes.length 0) [] deregister.votes with
    | .error e => .error e
    | .ok keysAndSigs =>
      if verifyVotesSignature crypto deregister.blockHeight deregister.serviceNodeIndex keysAndSigs
      then .ok ()
      else .error .verificationFailed

/-- `service_node_deregister::verify_deregister`. -/
def verifyDeregister (crypto : QuorumCop.Crypto) (deregister : TxExtraServiceNodeDeregister)
    (quorumState : QuorumState) : Except VoteError Unit :=
  if deregister.votes.length < minVotesToKickServiceNode then .error .notEnoughVotes
  else verifyVotesHelper crypto deregister quorumState

/-- `service_node_deregister::verify_vote`: the vote as a deregistration with one vote. -/
def verifyVote (crypto : QuorumCop.Crypto) (v : Vote) (quorumState : QuorumState) : Except VoteError Unit :=
  verifyVotesHelper crypto ⟨v.blockHeight, v.serviceNodeIndex, [⟨v.signature, v.votersQuorumIndex⟩]⟩
    quorumState

/-- The deregistration branch of `Blockchain::check_tx_inputs` (lines 3641-3750), all of that
function a deregistration reaches, since it has no inputs: a zero fee, the deregistration in the
extra, the quorum of its height, `verify_deregister`, a height below the chain's within the
deregistration lifetime, and no deregistration of the same node among the transactions of the
blocks from that height on. `get_blocks` failing rejects, and an earlier transaction whose extra
or quorum cannot be read is skipped. `nodes_to_test[index]` is read without a bound check; an
index past the end compares as no node. -/
def checkDeregisterTxInputs (crypto : QuorumCop.Crypto)
    (getQuorumState : UInt64 → Option QuorumState) (hfVersion : ℕ) (currHeight : UInt64)
    (getBlocks : UInt64 → UInt64 → Option (List Transaction)) (txnFee : UInt64)
    (tx : Transaction) : Bool :=
  if txnFee ≠ 0 then false
  else match getServiceNodeDeregisterFromTxExtra tx.extra with
    | none => false
    | some deregister =>
      match getQuorumState deregister.blockHeight with
      | none => false
      | some quorumState =>
        match verifyDeregister crypto deregister quorumState with
        | .error _ => false
        | .ok () =>
          let deregisterLifetime : UInt64 := if hfVersion ≥ 8
            then deregisterLifetimeByHeightV2.toUInt64 else deregisterLifetimeByHeight.toUInt64
          if deregister.blockHeight ≥ currHeight then false
          else if currHeight - deregister.blockHeight ≥ deregisterLifetime then false
          else match getBlocks deregister.blockHeight deregisterLifetime with
            | none => false
            | some txs => !txs.any fun existingTx =>
              existingTx.isDeregisterTx &&
                match getServiceNodeDeregisterFromTxExtra existingTx.extra with
                | none => false
                | some existing =>
                  match getQuorumState existing.blockHeight with
                  | none => false
                  | some existingQuorum =>
                    existingQuorum.nodesToTest[existing.serviceNodeIndex.toNat]? ==
                      quorumState.nodesToTest[deregister.serviceNodeIndex.toNat]?

/-! ## The pool -/

/-- `deregister_vote_pool::deregister_group`, the key of a group of votes. Its
`time_group_created` is never set and `operator==` does not compare it. -/
structure DeregisterGroup where
  blockHeight : UInt64
  serviceNodeIndex : UInt32
  deriving DecidableEq, Repr

/-- `deregister_vote_pool::deregister`: a vote and when it was last relayed. -/
structure Deregister where
  timeLastSentP2p : UInt64
  vote : Vote
  deriving DecidableEq, Repr

/-- `deregister_vote_pool`: its `m_deregisters`. -/
structure DeregisterVotePool where
  deregisters : Map DeregisterGroup (List Deregister)

/-- A pool with no votes. -/
def DeregisterVotePool.init : DeregisterVotePool := ⟨∅⟩

/-- The group a vote belongs to. -/
def groupOf (v : Vote) : DeregisterGroup := ⟨v.blockHeight, v.serviceNodeIndex⟩

/-- The fields of the `transaction` that `add_vote` writes. -/
structure DeregisterTx where
  version : ℕ
  isDeregister : Bool
  extra : List UInt8
  deriving DecidableEq, Repr

/-- The transaction `add_deregister_vote` hands to `add_vote`, as `set_null` leaves it. -/
def DeregisterTx.init : DeregisterTx := ⟨1, false, []⟩

/-- `is_deregister_tx`. -/
def DeregisterTx.isDeregisterTx (tx : DeregisterTx) : Bool := 3 ≤ tx.version && tx.isDeregister

/-- The deregistration `add_vote` makes of a group's votes, in their order. -/
def deregisterOfVotes (newVote : Vote) (votes : List Deregister) : TxExtraServiceNodeDeregister :=
  ⟨newVote.blockHeight, newVote.serviceNodeIndex,
    votes.map fun entry => ⟨entry.vote.signature, entry.vote.votersQuorumIndex⟩⟩

/-- `deregister_vote_pool::add_vote`: its result, the context, the pool, and the transaction. -/
def addVote (crypto : QuorumCop.Crypto) (newVote : Vote) (vvc : VoteVerificationContext)
    (quorumState : QuorumState) (tx : DeregisterTx) (pool : DeregisterVotePool) :
    Bool × VoteVerificationContext × DeregisterVotePool × DeregisterTx :=
  match verifyVote crypto newVote quorumState with
  | .error e => (false, vvc.raise e, pool, tx)
  | .ok () =>
    -- `m_deregisters[desired_group]` inserts an empty group for a key it does not hold
    let votes := (pool.deregisters.lookup (groupOf newVote)).getD []
    if votes.any (·.vote.votersQuorumIndex == newVote.votersQuorumIndex) then
      (true, vvc, ⟨pool.deregisters.insert (groupOf newVote) votes⟩, tx)
    else
      let votes := votes ++ [⟨0, newVote⟩]
      let pool : DeregisterVotePool := ⟨pool.deregisters.insert (groupOf newVote) votes⟩
      let vvc := { vvc with addedToPool := true }
      if votes.length ≥ minVotesToKickServiceNode then
        match addServiceNodeDeregisterToTxExtra tx.extra (deregisterOfVotes newVote votes) with
        | some extra =>
          (true, { vvc with fullTxDeregisterMade := true }, pool,
            { tx with extra, version := 3, isDeregister := true })
        | none => (true, { vvc with fullTxDeregisterMade := false }, pool, tx)
      else (true, vvc, pool, tx)

/-- The inner loop of `set_relayed`: the first vote of the voter is marked as sent at `now`. -/
def markSent (now : UInt64) (votersQuorumIndex : UInt32) : List Deregister → List Deregister
  | [] => []
  | entry :: entries =>
    if entry.vote.votersQuorumIndex = votersQuorumIndex then
      { entry with timeLastSentP2p := now } :: entries
    else entry :: markSent now votersQuorumIndex entries

/-- `deregister_vote_pool::set_relayed` at the time `now`. -/
def setRelayed (votes : List Vote) (now : UInt64) (pool : DeregisterVotePool) : DeregisterVotePool :=
  votes.foldl (fun pool findVote =>
    match pool.deregisters.lookup (groupOf findVote) with
    | none => pool
    | some entries =>
      ⟨pool.deregisters.insert (groupOf findVote)
        (markSent now findVote.votersQuorumIndex entries)⟩) pool

/-- `deregister_vote_pool::get_relayable_votes` at the time `now`: the votes not sent for more
than two minutes, the difference read back as a signed `time_t`. -/
def getRelayableVotes (now : UInt64) (pool : DeregisterVotePool) : List Vote :=
  pool.deregisters.entries.flatMap fun group =>
    (group.2.filter fun entry => (now - entry.timeLastSentP2p).toInt64 > 60 * 2).map (·.vote)

/-- `deregister_vote_pool::remove_used_votes`: the groups of the deregistrations in the block's
transactions are dropped. -/
def removeUsedVotes (txs : List Transaction) (pool : DeregisterVotePool) : DeregisterVotePool :=
  txs.foldl (fun pool tx =>
    if !tx.isDeregisterTx then pool
    else match getServiceNodeDeregisterFromTxExtra tx.extra with
      | none => pool
      | some deregister =>
        ⟨pool.deregisters.erase ⟨deregister.blockHeight, deregister.serviceNodeIndex⟩⟩) pool

/-- `deregister_vote_pool::remove_expired_votes`: the groups older than the vote lifetime below
`height` are dropped. -/
def removeExpiredVotes (height : UInt64) (pool : DeregisterVotePool) : DeregisterVotePool :=
  let voteLifetime : UInt64 := if height ≥ 426143
    then voteLifetimeByHeightV2.toUInt64 else voteLifetimeByHeight.toUInt64
  if height < voteLifetime then pool
  else
    let minimumHeight := height - voteLifetime
    ⟨pool.deregisters.entries.foldl
      (fun m e => if e.1.blockHeight < minimumHeight then m.erase e.1 else m) pool.deregisters⟩

/-! ## Handing votes to the pool -/

/-- What `core::add_deregister_vote` reads of the core, and what `handle_incoming_tx` answers
for the deregistration transaction. -/
structure VoteCore where
  /-- `max(get_current_blockchain_height(), get_target_blockchain_height())`. -/
  latestBlockHeight : UInt64
  /-- `get_current_hard_fork_version()`. -/
  hardForkVersion : ℕ
  handleIncomingTx : DeregisterTx → Bool

/-- `core::add_deregister_vote`: a vote older than the vote lifetime or newer than the chain is
rejected, as is one for a height whose quorum the service node list does not hold. -/
def addDeregisterVote (crypto : QuorumCop.Crypto) (getQuorumState : UInt64 → Option QuorumState)
    (core : VoteCore) (vote : Vote) (vvc : VoteVerificationContext) (pool : DeregisterVotePool) :
    Bool × VoteVerificationContext × DeregisterVotePool :=
  let latestBlockHeight := core.latestBlockHeight
  let deltaHeight := latestBlockHeight - vote.blockHeight
  let voteLifetime : UInt64 := if core.hardForkVersion ≥ 8
    then voteLifetimeByHeightV2.toUInt64 else voteLifetimeByHeight.toUInt64
  let vvc := if vote.blockHeight < latestBlockHeight ∧ deltaHeight ≥ voteLifetime then
      { vvc with invalidBlockHeight := true }
    else if vote.blockHeight > latestBlockHeight then { vvc with invalidBlockHeight := true }
    else vvc
  if vvc.invalidBlockHeight then (false, { vvc with verificationFailed := true }, pool)
  else match getQuorumState vote.blockHeight with
    | none => (false, { vvc with verificationFailed := true, invalidBlockHeight := true }, pool)
    | some quorumState =>
      let (result, vvc, pool, deregisterTx) :=
        addVote crypto vote vvc quorumState DeregisterTx.init pool
      if result && vvc.fullTxDeregisterMade then (core.handleIncomingTx deregisterTx, vvc, pool)
      else (result, vvc, pool)

/-! ## What the checks accept -/

theorem getD_set_of_lt {l : List ℕ} {i : ℕ} (hi : i < l.length) (a j : ℕ) :
    (l.set i a).getD j 0 = if j = i then a else l.getD j 0 := by
  rw [List.getD_eq_getElem?_getD, List.getElem?_set, List.getD_eq_getElem?_getD]
  by_cases hj : j = i
  · subst hj
    simp [hi]
  · simp [hj, Ne.symm hj]

/-- The voters' loop succeeds exactly when every voter's index lies in the quorum and has not been
counted yet, and no index comes twice; it gathers every voter's key with the signature. -/
theorem verifyVotersLoop_eq_ok_iff (quorum : List PublicKey) :
    ∀ (votes : List DeregisterTxVote) (quorumSet : List ℕ) (keysAndSigs keys : List (PublicKey × Signature)),
      quorumSet.length = quorum.length →
      (verifyVotersLoop quorum quorumSet keysAndSigs votes = .ok keys ↔
        (∀ vote ∈ votes, vote.votersQuorumIndex.toNat < quorum.length ∧
          quorumSet.getD vote.votersQuorumIndex.toNat 0 = 0) ∧
        (votes.map (·.votersQuorumIndex)).Nodup ∧
        keys = keysAndSigs ++ votes.map fun vote =>
          (quorum.getD vote.votersQuorumIndex.toNat nullPkey, vote.signature))
  | [], quorumSet, keysAndSigs, keys, _ => by
    simp only [verifyVotersLoop, Except.ok.injEq, List.not_mem_nil, false_implies, implies_true,
      List.map_nil, List.nodup_nil, List.append_nil, true_and]
    exact eq_comm
  | vote :: votes, quorumSet, keysAndSigs, keys, hlen => by
    simp only [verifyVotersLoop]
    by_cases hi : vote.votersQuorumIndex.toNat < quorum.length
    · rw [dif_pos hi]
      by_cases hc : quorumSet.getD vote.votersQuorumIndex.toNat 0 + 1 > 1
      · -- the voter was counted already
        rw [if_pos hc]
        simp only [reduceCtorEq, false_iff]
        rintro ⟨hall, -, -⟩
        have := (hall vote List.mem_cons_self).2
        omega
      · rw [if_neg hc]
        have hzero : quorumSet.getD vote.votersQuorumIndex.toNat 0 = 0 := by omega
        have hi' : vote.votersQuorumIndex.toNat < quorumSet.length := hlen ▸ hi
        rw [verifyVotersLoop_eq_ok_iff quorum votes _ _ keys (by rw [List.length_set, hlen])]
        simp only [getD_set_of_lt hi', List.mem_cons, forall_eq_or_imp, List.map_cons,
          List.nodup_cons, List.mem_map, List.append_assoc, List.singleton_append,
          List.getD_eq_getElem _ _ hi, hzero]
        -- the voter is counted now, so a later vote of the same voter is a duplicate
        have hrest : (∀ w ∈ votes, w.votersQuorumIndex.toNat < quorum.length ∧
            (if w.votersQuorumIndex.toNat = vote.votersQuorumIndex.toNat then 0 + 1
              else quorumSet.getD w.votersQuorumIndex.toNat 0) = 0) ↔
            (∀ w ∈ votes, w.votersQuorumIndex.toNat < quorum.length ∧
              quorumSet.getD w.votersQuorumIndex.toNat 0 = 0) ∧
            ¬ ∃ w ∈ votes, w.votersQuorumIndex = vote.votersQuorumIndex := by
          constructor
          · intro h
            refine ⟨fun w hw => ?_, fun ⟨w, hw, heq⟩ => ?_⟩
            · obtain ⟨hbound, hcount⟩ := h w hw
              split_ifs at hcount
              exact ⟨hbound, hcount⟩
            · have hcount := (h w hw).2
              rw [if_pos (congrArg UInt32.toNat heq)] at hcount
              omega
          · rintro ⟨h, hnew⟩ w hw
            have hne : w.votersQuorumIndex.toNat ≠ vote.votersQuorumIndex.toNat :=
              fun heq => hnew ⟨w, hw, UInt32.toNat_inj.mp heq⟩
            rw [if_neg hne]
            exact h w hw
        rw [hrest]
        simp only [hi, true_and]
        tauto
    · rw [dif_neg hi]
      simp only [reduceCtorEq, false_iff]
      rintro ⟨hall, -, -⟩
      exact hi (hall vote List.mem_cons_self).1

theorem getD_replicate_zero (n i : ℕ) : (List.replicate n 0).getD i 0 = 0 := by
  rw [List.getD_eq_getElem?_getD]
  simp

/-- `verify_votes_helper` accepts a node to test, distinct voters of the quorum, and signatures
that all check under the voters' keys. -/
theorem verifyVotesHelper_eq_ok_iff (crypto : QuorumCop.Crypto)
    (deregister : TxExtraServiceNodeDeregister) (quorumState : QuorumState) :
    verifyVotesHelper crypto deregister quorumState = .ok () ↔
      deregister.serviceNodeIndex.toNat < quorumState.nodesToTest.length ∧
      (∀ vote ∈ deregister.votes, vote.votersQuorumIndex.toNat < quorumState.quorumNodes.length) ∧
      (deregister.votes.map (·.votersQuorumIndex)).Nodup ∧
      ∀ vote ∈ deregister.votes, crypto.checkSignature
        (makeHashFrom crypto.cnFastHash deregister.blockHeight deregister.serviceNodeIndex)
        (quorumState.quorumNodes.getD vote.votersQuorumIndex.toNat nullPkey) vote.signature = true := by
  -- with `quorum_set` all zeros, the loop's condition on the counts always holds
  have hloopIff : ∀ keys, verifyVotersLoop quorumState.quorumNodes
      (List.replicate quorumState.quorumNodes.length 0) [] deregister.votes = .ok keys ↔
        (∀ vote ∈ deregister.votes, vote.votersQuorumIndex.toNat < quorumState.quorumNodes.length) ∧
        (deregister.votes.map (·.votersQuorumIndex)).Nodup ∧
        keys = deregister.votes.map fun vote =>
          (quorumState.quorumNodes.getD vote.votersQuorumIndex.toNat nullPkey, vote.signature) :=
    fun keys => by
      have hloop := verifyVotersLoop_eq_ok_iff quorumState.quorumNodes deregister.votes
        (List.replicate quorumState.quorumNodes.length 0) [] keys (by rw [List.length_replicate])
      simpa only [getD_replicate_zero, and_true, List.nil_append] using hloop
  unfold verifyVotesHelper
  by_cases hindex : deregister.serviceNodeIndex.toNat ≥ quorumState.nodesToTest.length
  · rw [if_pos hindex]
    simp only [reduceCtorEq, false_iff, not_and]
    intro hlt
    omega
  · rw [if_neg hindex]
    cases hloop : verifyVotersLoop quorumState.quorumNodes
        (List.replicate quorumState.quorumNodes.length 0) [] deregister.votes with
    | error e =>
      simp only [reduceCtorEq, false_iff, not_and]
      -- voters that pass the conditions make the loop succeed
      intro _ hbound hnodup _
      have := (hloopIff _).mpr ⟨hbound, hnodup, rfl⟩
      rw [hloop] at this
      cases this
    | ok keys =>
      obtain ⟨hbound, hnodup, rfl⟩ := (hloopIff keys).mp hloop
      simp only [verifyVotesSignature, List.all_map, List.all_eq_true, Function.comp_apply]
      constructor
      · split_ifs with hsig
        · intro _
          exact ⟨by omega, hbound, hnodup, hsig⟩
        · intro h
          cases h
      · rintro ⟨-, -, -, hsig⟩
        rw [if_pos hsig]

/-- `verify_deregister` accepts exactly `MIN_VOTES_TO_KICK_SERVICE_NODE` or more votes against a
node the quorum tests, from distinct voters of the quorum, each signature checking under its
voter's key against the hash of the height and the node's index. -/
theorem verifyDeregister_eq_ok_iff (crypto : QuorumCop.Crypto)
    (deregister : TxExtraServiceNodeDeregister) (quorumState : QuorumState) :
    verifyDeregister crypto deregister quorumState = .ok () ↔
      minVotesToKickServiceNode ≤ deregister.votes.length ∧
      deregister.serviceNodeIndex.toNat < quorumState.nodesToTest.length ∧
      (∀ vote ∈ deregister.votes, vote.votersQuorumIndex.toNat < quorumState.quorumNodes.length) ∧
      (deregister.votes.map (·.votersQuorumIndex)).Nodup ∧
      ∀ vote ∈ deregister.votes, crypto.checkSignature
        (makeHashFrom crypto.cnFastHash deregister.blockHeight deregister.serviceNodeIndex)
        (quorumState.quorumNodes.getD vote.votersQuorumIndex.toNat nullPkey) vote.signature = true := by
  unfold verifyDeregister
  by_cases hfew : deregister.votes.length < minVotesToKickServiceNode
  · rw [if_pos hfew]
    simp only [reduceCtorEq, false_iff, not_and]
    intro hle
    omega
  · rw [if_neg hfew, verifyVotesHelper_eq_ok_iff]
    simp only [Nat.le_of_not_lt hfew, true_and]

/-- `verify_vote` accepts a vote against a node the quorum tests, from a voter of the quorum,
whose signature checks under that voter's key. -/
theorem verifyVote_eq_ok_iff (crypto : QuorumCop.Crypto) (v : Vote) (quorumState : QuorumState) :
    verifyVote crypto v quorumState = .ok () ↔
      v.serviceNodeIndex.toNat < quorumState.nodesToTest.length ∧
      v.votersQuorumIndex.toNat < quorumState.quorumNodes.length ∧
      crypto.checkSignature (makeHashFrom crypto.cnFastHash v.blockHeight v.serviceNodeIndex)
        (quorumState.quorumNodes.getD v.votersQuorumIndex.toNat nullPkey) v.signature = true := by
  rw [verifyVote, verifyVotesHelper_eq_ok_iff]
  simp

/-! ## The groups of the pool -/

section Groups

variable (crypto : QuorumCop.Crypto) (getQuorumState : UInt64 → Option QuorumState)

/-- Every group holds votes of distinct voters, all for the group's height and node, each of
which passes `verify_vote` against the quorum the service node list holds for the height. -/
def GroupsSound (pool : DeregisterVotePool) : Prop :=
  ∀ group entries, pool.deregisters.lookup group = some entries →
    ((entries.map (·.vote)).map (·.votersQuorumIndex)).Nodup ∧
    ∀ v ∈ entries.map (·.vote), groupOf v = group ∧
      ∃ quorumState, getQuorumState group.blockHeight = some quorumState ∧
        verifyVote crypto v quorumState = .ok ()

theorem groupsSound_init : GroupsSound crypto getQuorumState DeregisterVotePool.init :=
  fun _ _ h => by cases h

variable {crypto getQuorumState}

/-- A pool whose groups each hold the votes of a group of a sound pool is sound: what erasing a
group or marking votes as sent leaves. -/
theorem GroupsSound.of_votes {pool pool' : DeregisterVotePool}
    (hsound : GroupsSound crypto getQuorumState pool)
    (hvotes : ∀ group entries, pool'.deregisters.lookup group = some entries →
      ∃ entries', pool.deregisters.lookup group = some entries' ∧
        entries.map (·.vote) = entries'.map (·.vote)) :
    GroupsSound crypto getQuorumState pool' := by
  intro group entries hlookup
  obtain ⟨entries', hlookup', hsame⟩ := hvotes group entries hlookup
  rw [hsame]
  exact hsound group entries' hlookup'

theorem GroupsSound.erase {pool : DeregisterVotePool}
    (hsound : GroupsSound crypto getQuorumState pool) (group : DeregisterGroup) :
    GroupsSound crypto getQuorumState ⟨pool.deregisters.erase group⟩ :=
  hsound.of_votes fun _ entries hlookup =>
    ⟨entries, lookup_of_lookup_erase hlookup, rfl⟩

/-- Replacing a group's entries by entries with the same votes keeps the pool sound. -/
theorem GroupsSound.insert_same_votes {pool : DeregisterVotePool}
    (hsound : GroupsSound crypto getQuorumState pool) {group : DeregisterGroup}
    {entries entries' : List Deregister} (hlookup : pool.deregisters.lookup group = some entries)
    (hsame : entries'.map (·.vote) = entries.map (·.vote)) :
    GroupsSound crypto getQuorumState ⟨pool.deregisters.insert group entries'⟩ :=
  hsound.of_votes fun group' entries'' hlookup'' => by
    by_cases hgroup : group' = group
    · subst hgroup
      rw [AList.lookup_insert] at hlookup''
      cases hlookup''
      exact ⟨entries, hlookup, hsame⟩
    · rw [AList.lookup_insert_ne hgroup] at hlookup''
      exact ⟨entries'', hlookup'', rfl⟩

theorem map_vote_markSent (now : UInt64) (votersQuorumIndex : UInt32) :
    ∀ entries : List Deregister,
      (markSent now votersQuorumIndex entries).map (·.vote) = entries.map (·.vote)
  | [] => rfl
  | entry :: entries => by
    simp only [markSent]
    split_ifs
    · rfl
    · rw [List.map_cons, List.map_cons, map_vote_markSent now votersQuorumIndex entries]

theorem GroupsSound.setRelayed {pool : DeregisterVotePool}
    (hsound : GroupsSound crypto getQuorumState pool) (votes : List Vote) (now : UInt64) :
    GroupsSound crypto getQuorumState (setRelayed votes now pool) := by
  induction votes generalizing pool with
  | nil => exact hsound
  | cons findVote votes ih =>
    apply ih
    dsimp only
    cases hlookup : pool.deregisters.lookup (groupOf findVote) with
    | none => exact hsound
    | some entries => exact hsound.insert_same_votes hlookup (map_vote_markSent _ _ entries)

theorem GroupsSound.removeUsedVotes {pool : DeregisterVotePool}
    (hsound : GroupsSound crypto getQuorumState pool) (txs : List Transaction) :
    GroupsSound crypto getQuorumState (removeUsedVotes txs pool) := by
  induction txs generalizing pool with
  | nil => exact hsound
  | cons tx txs ih =>
    apply ih
    dsimp only
    split_ifs
    · exact hsound
    · split
      · exact hsound
      · exact hsound.erase _

/-- The loop of `remove_expired_votes` erases groups and changes no other. -/
theorem GroupsSound.eraseOlder {pool : DeregisterVotePool}
    (hsound : GroupsSound crypto getQuorumState pool) (minimumHeight : UInt64) :
    GroupsSound crypto getQuorumState ⟨pool.deregisters.entries.foldl
      (fun m e => if e.1.blockHeight < minimumHeight then m.erase e.1 else m) pool.deregisters⟩ := by
  refine hsound.of_votes fun group entries hlookup => ⟨entries, ?_, rfl⟩
  dsimp only at hlookup
  rw [lookup_foldl_erase (fun e : Sigma (fun _ : DeregisterGroup => List Deregister) =>
    e.1.blockHeight < minimumHeight)] at hlookup
  split_ifs at hlookup
  exact hlookup

theorem GroupsSound.removeExpiredVotes {pool : DeregisterVotePool}
    (hsound : GroupsSound crypto getQuorumState pool) (height : UInt64) :
    GroupsSound crypto getQuorumState (removeExpiredVotes height pool) := by
  unfold DeregisterVotes.removeExpiredVotes
  dsimp only
  -- under either lifetime the pool is kept, or its older groups are erased
  split_ifs <;> first | exact hsound | exact hsound.eraseOlder _

/-- The entries `add_vote` finds for a vote's group: those of the group, or none. -/
theorem lookup_of_getD {pool : DeregisterVotePool} {group : DeregisterGroup}
    {votes : List Deregister} (hvotes : (pool.deregisters.lookup group).getD [] = votes) :
    pool.deregisters.lookup group = some votes ∨
      pool.deregisters.lookup group = none ∧ votes = [] := by
  cases hlookup : pool.deregisters.lookup group with
  | none =>
    rw [hlookup] at hvotes
    exact .inr ⟨rfl, hvotes.symm⟩
  | some entries =>
    rw [hlookup] at hvotes
    exact .inl (congrArg some hvotes)

/-- A vote that passes `verify_vote` against its height's quorum, from a voter new to its group,
keeps the pool sound when it joins the group. -/
theorem GroupsSound.append_vote {pool : DeregisterVotePool}
    (hsound : GroupsSound crypto getQuorumState pool) {v : Vote} {quorumState : QuorumState}
    (hquorum : getQuorumState v.blockHeight = some quorumState)
    (hverify : verifyVote crypto v quorumState = .ok ()) {votes : List Deregister}
    (hvotes : (pool.deregisters.lookup (groupOf v)).getD [] = votes)
    (hnew : ∀ entry ∈ votes, entry.vote.votersQuorumIndex ≠ v.votersQuorumIndex)
    (time : UInt64) :
    GroupsSound crypto getQuorumState
      ⟨pool.deregisters.insert (groupOf v) (votes ++ [⟨time, v⟩])⟩ := by
  -- the votes already in the group are sound
  have hold : ((votes.map (·.vote)).map (·.votersQuorumIndex)).Nodup ∧
      ∀ w ∈ votes.map (·.vote), groupOf w = groupOf v ∧
        ∃ quorumState, getQuorumState (groupOf v).blockHeight = some quorumState ∧
          verifyVote crypto w quorumState = .ok () := by
    rcases lookup_of_getD hvotes with hlookup | ⟨-, rfl⟩
    · exact hsound _ _ hlookup
    · simp
  intro group entries hlookup
  by_cases hgroup : group = groupOf v
  · subst hgroup
    rw [AList.lookup_insert] at hlookup
    cases hlookup
    simp only [List.map_append, List.map_cons, List.map_nil]
    refine ⟨List.nodup_append.mpr ⟨hold.1, List.nodup_singleton _, ?_⟩, fun w hw => ?_⟩
    · simp only [List.mem_map, List.mem_singleton]
      rintro _ ⟨_, ⟨entry, hentry, rfl⟩, rfl⟩ _ rfl
      exact hnew entry hentry
    · rcases List.mem_append.mp hw with hw | hw
      · exact hold.2 w hw
      · rw [List.mem_singleton.mp hw]
        exact ⟨rfl, quorumState, hquorum, hverify⟩
  · rw [AList.lookup_insert_ne hgroup] at hlookup
    exact hsound group entries hlookup

theorem GroupsSound.addVote {pool : DeregisterVotePool}
    (hsound : GroupsSound crypto getQuorumState pool) {v : Vote} {quorumState : QuorumState}
    (hquorum : getQuorumState v.blockHeight = some quorumState) (vvc : VoteVerificationContext)
    (tx : DeregisterTx) :
    GroupsSound crypto getQuorumState (addVote crypto v vvc quorumState tx pool).2.2.1 := by
  unfold DeregisterVotes.addVote
  cases hverify : verifyVote crypto v quorumState with
  | error e => exact hsound
  | ok u =>
    dsimp only
    generalize hvotes : (pool.deregisters.lookup (groupOf v)).getD [] = votes
    by_cases hdup : votes.any (·.vote.votersQuorumIndex == v.votersQuorumIndex)
    · -- a voter already in the group: the group is written back as it was
      rw [if_pos hdup]
      have hlookup : pool.deregisters.lookup (groupOf v) = some votes := by
        rcases lookup_of_getD hvotes with hlookup | ⟨-, rfl⟩
        · exact hlookup
        · simp at hdup
      exact hsound.insert_same_votes hlookup rfl
    · rw [if_neg hdup]
      have hnew : ∀ entry ∈ votes, entry.vote.votersQuorumIndex ≠ v.votersQuorumIndex :=
        fun entry hentry heq => hdup (List.any_eq_true.mpr ⟨entry, hentry, by simp [heq]⟩)
      have hjoin := hsound.append_vote hquorum hverify hvotes hnew 0
      -- whether or not the group is full, the pool is the one with the vote added
      split_ifs
      · split
        · exact hjoin
        · exact hjoin
      · exact hjoin

/-- `add_deregister_vote` leaves the pool as it is, or hands the vote to `add_vote` with the
quorum the service node list holds for its height. -/
theorem addDeregisterVote_pool (getQuorumState : UInt64 → Option QuorumState) (core : VoteCore)
    (vote : Vote) (vvc : VoteVerificationContext) (pool : DeregisterVotePool) :
    (addDeregisterVote crypto getQuorumState core vote vvc pool).2.2 = pool ∨
      ∃ quorumState vvc', getQuorumState vote.blockHeight = some quorumState ∧
        (addDeregisterVote crypto getQuorumState core vote vvc pool).2.2 =
          (addVote crypto vote vvc' quorumState DeregisterTx.init pool).2.2.1 := by
  unfold addDeregisterVote
  dsimp only
  -- a vote for a height out of range is rejected before the pool is read
  split_ifs <;> first
    | exact .inl rfl
    | split
      · exact .inl rfl
      · rename_i quorumState hquorum
        exact .inr ⟨quorumState, _, hquorum, by split_ifs <;> rfl⟩

theorem GroupsSound.addDeregisterVote {pool : DeregisterVotePool}
    (hsound : GroupsSound crypto getQuorumState pool) (core : VoteCore) (vote : Vote)
    (vvc : VoteVerificationContext) :
    GroupsSound crypto getQuorumState
      (addDeregisterVote crypto getQuorumState core vote vvc pool).2.2 := by
  rcases addDeregisterVote_pool getQuorumState core vote vvc pool with
    hpool | ⟨quorumState, vvc', hquorum, hpool⟩
  · rw [hpool]
    exact hsound
  · rw [hpool]
    exact hsound.addVote hquorum vvc' DeregisterTx.init

end Groups

/-! ## Runs of the pool -/

/-- A call into the pool: a vote from the network or the quorum cop, the relay of votes, and the
two calls of `Blockchain` for a new block. -/
inductive PoolEvent where
  | addDeregisterVote (core : VoteCore) (vote : Vote) (vvc : VoteVerificationContext)
  | setRelayed (votes : List Vote) (now : UInt64)
  | removeExpiredVotes (height : UInt64)
  | removeUsedVotes (txs : List Transaction)

/-- One call, with the quorums the service node list holds. -/
def poolStep (crypto : QuorumCop.Crypto) (getQuorumState : UInt64 → Option QuorumState) :
    PoolEvent → DeregisterVotePool → DeregisterVotePool
  | .addDeregisterVote core vote vvc, pool =>
    (addDeregisterVote crypto getQuorumState core vote vvc pool).2.2
  | .setRelayed votes now, pool => setRelayed votes now pool
  | .removeExpiredVotes height, pool => removeExpiredVotes height pool
  | .removeUsedVotes txs, pool => removeUsedVotes txs pool

/-- A run of calls. -/
def poolRun (crypto : QuorumCop.Crypto) (getQuorumState : UInt64 → Option QuorumState)
    (events : List PoolEvent) (pool : DeregisterVotePool) : DeregisterVotePool :=
  events.foldl (fun pool event => poolStep crypto getQuorumState event pool) pool

section Runs

variable {crypto : QuorumCop.Crypto} {getQuorumState : UInt64 → Option QuorumState}

theorem GroupsSound.poolStep {pool : DeregisterVotePool}
    (hsound : GroupsSound crypto getQuorumState pool) :
    ∀ event, GroupsSound crypto getQuorumState (poolStep crypto getQuorumState event pool)
  | .addDeregisterVote core vote vvc => hsound.addDeregisterVote core vote vvc
  | .setRelayed votes now => hsound.setRelayed votes now
  | .removeExpiredVotes height => hsound.removeExpiredVotes height
  | .removeUsedVotes txs => hsound.removeUsedVotes txs

theorem GroupsSound.poolRun {pool : DeregisterVotePool}
    (hsound : GroupsSound crypto getQuorumState pool) (events : List PoolEvent) :
    GroupsSound crypto getQuorumState (poolRun crypto getQuorumState events pool) := by
  induction events generalizing pool with
  | nil => exact hsound
  | cons event events ih => exact ih (hsound.poolStep event)

/-- Along every run of the pool from empty, each group holds votes of distinct voters, all for
the group's height and node, each passing `verify_vote` against the quorum the service node list
holds for that height. -/
theorem poolRun_groupsSound (crypto : QuorumCop.Crypto)
    (getQuorumState : UInt64 → Option QuorumState) (events : List PoolEvent) :
    GroupsSound crypto getQuorumState
      (poolRun crypto getQuorumState events DeregisterVotePool.init) :=
  (groupsSound_init crypto getQuorumState).poolRun events

end Runs

/-! ## The deregistration a full group makes -/

theorem length_lt_of_nodup {l : List UInt32} (hnodup : l.Nodup) : l.length < 2 ^ 64 := by
  have hfin : (l.map UInt32.toFin).Nodup :=
    hnodup.map fun _ _ heq => UInt32.toFin_inj.mp heq
  have hcard := hfin.length_le_card
  simp only [List.length_map, Fintype.card_fin] at hcard
  have hsize : UInt32.size = 2 ^ 32 := rfl
  omega


/-- The deregistration of a group of sound votes to which a new sound vote is added passes
`verify_deregister` once it holds enough votes. -/
theorem verifyDeregister_deregisterOfVotes {crypto : QuorumCop.Crypto}
    {getQuorumState : UInt64 → Option QuorumState} {pool : DeregisterVotePool}
    (hsound : GroupsSound crypto getQuorumState pool) {v : Vote} {quorumState : QuorumState}
    (hquorum : getQuorumState v.blockHeight = some quorumState)
    (hverify : verifyVote crypto v quorumState = .ok ()) {votes : List Deregister}
    (hvotes : (pool.deregisters.lookup (groupOf v)).getD [] = votes)
    (hnew : ∀ entry ∈ votes, entry.vote.votersQuorumIndex ≠ v.votersQuorumIndex)
    (henough : minVotesToKickServiceNode ≤ (votes ++ [Deregister.mk 0 v]).length) :
    verifyDeregister crypto (deregisterOfVotes v (votes ++ [Deregister.mk 0 v])) quorumState = .ok () := by
  -- the group with the new vote is a group of a sound pool
  have hgroup := hsound.append_vote hquorum hverify hvotes hnew 0 (groupOf v)
    (votes ++ [Deregister.mk 0 v]) (AList.lookup_insert _)
  obtain ⟨hnodup, hall⟩ := hgroup
  have hquorumOf : ∀ w ∈ (votes ++ [Deregister.mk 0 v]).map (·.vote), groupOf w = groupOf v ∧
      verifyVote crypto w quorumState = .ok () := by
    intro w hw
    obtain ⟨hw, quorumState', hquorum', hverify'⟩ := hall w hw
    rw [show (groupOf v).blockHeight = v.blockHeight from rfl, hquorum] at hquorum'
    cases hquorum'
    exact ⟨hw, hverify'⟩
  have hv := (verifyVote_eq_ok_iff crypto v quorumState).mp hverify
  unfold verifyDeregister
  rw [if_neg (by simpa [deregisterOfVotes] using henough), verifyVotesHelper_eq_ok_iff]
  simp only [deregisterOfVotes, List.map_map, List.mem_map, forall_exists_index, and_imp,
    forall_apply_eq_imp_iff₂]
  refine ⟨hv.1, fun entry hentry => ?_,
    by simpa [List.map_map, Function.comp_def] using hnodup, fun entry hentry => ?_⟩
  · exact ((verifyVote_eq_ok_iff crypto _ quorumState).mp
      (hquorumOf entry.vote (List.mem_map_of_mem hentry)).2).2.1
  · -- every vote of the group signs the group's height and node
    obtain ⟨hw, hverify'⟩ := hquorumOf entry.vote (List.mem_map_of_mem hentry)
    obtain ⟨-, -, hsig⟩ := (verifyVote_eq_ok_iff crypto _ quorumState).mp hverify'
    simp only [groupOf, DeregisterGroup.mk.injEq] at hw
    rw [← hw.1, ← hw.2]
    exact hsig

/-- After any run of the pool from empty, the transaction `add_vote` returns to
`add_deregister_vote` is the fresh one, or a deregistration transaction whose extra holds one
deregistration, for the vote's height and node, that passes `verify_deregister` against the same
quorum. -/
theorem addVote_deregisterTx_verifies (crypto : QuorumCop.Crypto)
    (getQuorumState : UInt64 → Option QuorumState) (events : List PoolEvent) {v : Vote}
    {quorumState : QuorumState} (hquorum : getQuorumState v.blockHeight = some quorumState)
    (vvc : VoteVerificationContext) {tx : DeregisterTx}
    (hadd : (addVote crypto v vvc quorumState DeregisterTx.init
      (poolRun crypto getQuorumState events DeregisterVotePool.init)).2.2.2 = tx) :
    tx = DeregisterTx.init ∨
      ∃ deregister, parseTxExtra tx.extra = some [.serviceNodeDeregister deregister] ∧
        tx.isDeregisterTx = true ∧ deregister.blockHeight = v.blockHeight ∧
        deregister.serviceNodeIndex = v.serviceNodeIndex ∧
        verifyDeregister crypto deregister quorumState = .ok () := by
  have hsound := (groupsSound_init crypto getQuorumState).poolRun events
  generalize poolRun crypto getQuorumState events DeregisterVotePool.init = pool at hsound hadd
  unfold addVote at hadd
  cases hverify : verifyVote crypto v quorumState with
  | error e =>
    simp only [hverify] at hadd
    exact .inl hadd.symm
  | ok u =>
    simp only [hverify] at hadd
    generalize hvotes : (pool.deregisters.lookup (groupOf v)).getD [] = votes at hadd
    split_ifs at hadd with hdup henough
    · exact .inl hadd.symm
    · have hnew : ∀ entry ∈ votes, entry.vote.votersQuorumIndex ≠ v.votersQuorumIndex :=
        fun entry hentry heq => hdup (List.any_eq_true.mpr ⟨entry, hentry, by simp [heq]⟩)
      split at hadd
      · rename_i extra hextra
        subst hadd
        refine .inr ⟨deregisterOfVotes v (votes ++ [Deregister.mk 0 v]), ?_, rfl, rfl, rfl,
          verifyDeregister_deregisterOfVotes hsound hquorum hverify hvotes hnew henough⟩
        -- the voters are distinct 32-bit indices, so the vote count fits its varint
        have hnodup := (hsound.append_vote hquorum hverify hvotes hnew 0 (groupOf v)
          (votes ++ [Deregister.mk 0 v]) (AList.lookup_insert _)).1
        have hfits : Fits (.serviceNodeDeregister (deregisterOfVotes v (votes ++ [Deregister.mk 0 v]))) := by
          have := length_lt_of_nodup hnodup
          simpa [Fits, deregisterOfVotes] using this
        exact parseTxExtra_addTxExtraField List.Forall₂.nil (by simp) hfits
          (by simp only [txExtraFieldTag]; decide) hextra
      · exact .inl hadd.symm
    · exact .inl hadd.symm

/-! ## A quorum of ten voters -/

/-- The key of the `i`-th node of the quorum below. -/
def fixtureKey (i : ℕ) : PublicKey := ⟨BitVec.ofNat 256 (i + 1)⟩

/-- A signature that is the signer's key, widened. -/
def keySignature (key : PublicKey) : Signature := ⟨key.data.setWidth 512⟩

/-- Primitives under which a signature checks exactly under the key it was made with. -/
def signerCrypto : QuorumCop.Crypto :=
  ⟨fun _ => ⟨0⟩, fun _ key sig => sig == keySignature key, fun _ _ key _ => keySignature key⟩

/-- Ten voters testing one node. -/
def tenVoterQuorum : QuorumState := ⟨(List.range 10).map fixtureKey, [fixtureKey 20]⟩

/-- The vote of voter `i` against the tested node at height 10, signed with the voter's key. -/
def voterVote (i : ℕ) : Vote := ⟨10, 0, i.toUInt32, keySignature (fixtureKey i)⟩

/-- A core at height 11 on hard fork 12, whose transaction handler accepts. -/
def heightElevenCore : VoteCore := ⟨11, 12, fun _ => true⟩

/-- The first six voters' votes, handed to the pool one by one. -/
def sixVotes : List PoolEvent :=
  (List.range 6).map fun i => .addDeregisterVote heightElevenCore (voterVote i) VoteVerificationContext.init

/-- The seventh vote completes the group, and `add_vote` returns the deregistration it makes. -/
theorem addVote_deregisterTx_verifies_seventh_vote :
    (addVote signerCrypto (voterVote 6) VoteVerificationContext.init tenVoterQuorum
        DeregisterTx.init (poolRun signerCrypto (fun _ => some tenVoterQuorum) sixVotes
          DeregisterVotePool.init)).2.2.2 ≠ DeregisterTx.init ∧
      ((addVote signerCrypto (voterVote 6) VoteVerificationContext.init tenVoterQuorum
          DeregisterTx.init (poolRun signerCrypto (fun _ => some tenVoterQuorum) sixVotes
            DeregisterVotePool.init)).2.2.2 = DeregisterTx.init ∨
        ∃ deregister, parseTxExtra (addVote signerCrypto (voterVote 6)
            VoteVerificationContext.init tenVoterQuorum DeregisterTx.init
            (poolRun signerCrypto (fun _ => some tenVoterQuorum) sixVotes
              DeregisterVotePool.init)).2.2.2.extra = some [.serviceNodeDeregister deregister] ∧
          (addVote signerCrypto (voterVote 6) VoteVerificationContext.init tenVoterQuorum
            DeregisterTx.init (poolRun signerCrypto (fun _ => some tenVoterQuorum) sixVotes
              DeregisterVotePool.init)).2.2.2.isDeregisterTx = true ∧
          deregister.blockHeight = (voterVote 6).blockHeight ∧
          deregister.serviceNodeIndex = (voterVote 6).serviceNodeIndex ∧
          verifyDeregister signerCrypto deregister tenVoterQuorum = .ok ()) :=
  ⟨by decide +kernel, addVote_deregisterTx_verifies _ (fun _ => some tenVoterQuorum) sixVotes rfl _ rfl⟩

/-! ## The quorum cop's votes -/

/-- Every vote the quorum cop casts in `block_added` passes `verify_vote` against the quorum it
was cast from, when `sign_vote` signs what `check_signature` checks under the node's own key and
quorums are no larger than 32-bit indices reach. -/
theorem blockAdded_votes_verify {core : Core} {crypto : QuorumCop.Crypto} {now : Int}
    {height : UInt64} {cop : QuorumCopState} {myPubkey : PublicKey} {mySeckey : SecretKey}
    (hkeys : core.getServiceNodeKeys = some (myPubkey, mySeckey))
    (hsign : ∀ blockHeight serviceNodeIndex, crypto.checkSignature
      (makeHashFrom crypto.cnFastHash blockHeight serviceNodeIndex) myPubkey
      (crypto.signVote blockHeight serviceNodeIndex myPubkey mySeckey) = true)
    (hquorums : ∀ blockHeight quorumState, core.getQuorumState blockHeight = some quorumState →
      quorumState.quorumNodes.length ≤ 2 ^ 32)
    {v : Vote} (hv : v ∈ (blockAdded core crypto now height cop).2) :
    ∃ quorumState, core.getQuorumState v.blockHeight = some quorumState ∧
      verifyVote crypto v quorumState = .ok () := by
  obtain ⟨-, -, pubkey, seckey, hkeys', hat⟩ := mem_blockAdded hv
  rw [hkeys] at hkeys'
  obtain ⟨rfl, rfl⟩ := Prod.mk.inj (Option.some.inj hkeys')
  obtain ⟨-, quorumState, myIndex, nodeIndex, node, hquorum, hindex, hnode, -, hvote⟩ :=
    (mem_votesAt_iff core crypto myPubkey mySeckey cop.uptimeProofSeen v.blockHeight v).mp hat
  refine ⟨quorumState, hquorum, (verifyVote_eq_ok_iff crypto v quorumState).mpr ?_⟩
  obtain ⟨hmy, hmyKey, -⟩ := List.idxOf?_eq_some_iff.mp hindex
  have hnodeLt : nodeIndex < quorumState.nodesToTest.length := (List.getElem?_eq_some_iff.mp hnode).1
  have hsize := hquorums v.blockHeight quorumState hquorum
  -- the voter's index fits 32 bits, so the vote names the voter's own key
  have hmyIndex : myIndex.toUInt32.toNat = myIndex := by
    rw [Nat.toUInt32, UInt32.toNat_ofNat', Nat.mod_eq_of_lt (by omega)]
  have hnodeIndex : nodeIndex.toUInt32.toNat ≤ nodeIndex := by
    rw [Nat.toUInt32, UInt32.toNat_ofNat']
    exact Nat.mod_le _ _
  rw [hvote]
  refine ⟨by dsimp only; omega, by dsimp only; omega, ?_⟩
  dsimp only
  rw [hmyIndex, List.getD_eq_getElem _ _ hmy, hmyKey]
  exact hsign v.blockHeight nodeIndex.toUInt32

/-- The lone voter's vote passes `verify_vote`. -/
theorem blockAdded_votes_verify_lone_voter :
    ∃ quorumState, loneVoterCore.getQuorumState 709 = some quorumState ∧
      verifyVote acceptingCrypto ⟨709, 0, 0, ⟨0⟩⟩ quorumState = .ok () :=
  @blockAdded_votes_verify loneVoterCore acceptingCrypto 7200 730 ⟨709, ∅⟩ ⟨1⟩ ⟨0⟩ rfl
    (fun _ _ => rfl) (fun _ _ h => by cases Option.some.inj h; decide) ⟨709, 0, 0, ⟨0⟩⟩
    (List.mem_singleton_self _)

end Equilibria.DeregisterVotes
