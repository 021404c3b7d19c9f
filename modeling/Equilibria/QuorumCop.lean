import Equilibria.BinaryArchive
import Equilibria.ServiceNodeState

/-!
# The quorum cop

`service_nodes::quorum_cop` of `cryptonote_core/quorum_cop.cpp`: it records in
`m_uptime_proof_seen` the time of the last uptime proof it accepted for each service node, forgets
old entries in `prune_uptime_proof`, and in `block_added` votes to deregister every node its
quorums test that has no entry.

`handle_uptime_proof` reads the entry through `operator[]`, which inserts a zero entry for a key
it does not hold, before it checks the proof's signature. A proof with a bad signature for a node
the cop has no entry for is rejected, but leaves that zero entry behind
(`handleUptimeProof_of_bad_signature`), and `block_added` spares every node with an entry until
`prune_uptime_proof` removes it.

The core and the cryptography are parameters: what `cryptonote::core` answers, and `cn_fast_hash`,
`check_signature` and `sign_vote`. The votes `block_added` passes to `add_deregister_vote` are its
output.

`block_added` votes at every height from `m_last_height` (or the oldest height still open to
votes) up to twenty blocks below the new block, against the tested nodes without an entry
(`blockAdded_vote_sound`), and moves `m_last_height` past them. A run of calls is a list of
events; along a run without `blockchain_detached` no height is voted on by two calls
(`run_vote_heights_increase`).
-/

namespace Equilibria.QuorumCop

open CryptonoteBasic MapJournal ServiceNodeState BinaryArchive

/-! ## Constants -/

/-- `REORG_SAFETY_BUFFER_IN_BLOCKS`. -/
def reorgSafetyBufferInBlocks : UInt64 := 20

/-- `UPTIME_PROOF_BUFFER_IN_SECONDS`. -/
def uptimeProofBufferInSeconds : UInt64 := 5 * 60

/-- `UPTIME_PROOF_FREQUENCY_IN_SECONDS`. -/
def uptimeProofFrequencyInSeconds : UInt64 := 60 * 60

/-- `UPTIME_PROOF_MAX_TIME_IN_SECONDS`. -/
def uptimeProofMaxTimeInSeconds : UInt64 :=
  uptimeProofFrequencyInSeconds * 2 + uptimeProofBufferInSeconds

/-- `UPTIME_PROOF_MAX_TIME_IN_SECONDS_V2`. -/
def uptimeProofMaxTimeInSecondsV2 : UInt64 :=
  uptimeProofFrequencyInSeconds * 48 + uptimeProofBufferInSeconds

/-! ## State and interfaces -/

/-- The state of a `quorum_cop`: `m_last_height` and `m_uptime_proof_seen`. -/
structure QuorumCopState where
  lastHeight : UInt64
  uptimeProofSeen : Map PublicKey UInt64

/-- `init`. -/
def init : QuorumCopState := ⟨0, ∅⟩

/-- The fields of `NOTIFY_UPTIME_PROOF::request` that `handle_uptime_proof` reads. -/
structure UptimeProof where
  timestamp : UInt64
  pubkey : PublicKey
  sig : Signature

/-- `service_node_deregister::vote`. -/
structure Vote where
  blockHeight : UInt64
  serviceNodeIndex : UInt32
  votersQuorumIndex : UInt32
  signature : Signature
  deriving DecidableEq, Repr

/-- What the quorum cop reads of `cryptonote::core`. -/
structure Core where
  getHardForkVersion : UInt64 → ℕ
  /-- `get_service_node_keys`: the node's own keys, if it is a service node. -/
  getServiceNodeKeys : Option (PublicKey × SecretKey)
  getCurrentBlockchainHeight : UInt64
  getTargetBlockchainHeight : UInt64
  getStartTime : Int
  getQuorumState : UInt64 → Option QuorumState
  isServiceNode : PublicKey → Bool

/-- The cryptographic functions the quorum cop calls. -/
structure Crypto where
  cnFastHash : List UInt8 → Hash
  checkSignature : Hash → PublicKey → Signature → Bool
  signVote : UInt64 → UInt32 → PublicKey → SecretKey → Signature

/-! ## Uptime proofs -/

/-- `make_hash`: the fast hash of `"SUP"` with its terminating zero, the key and the timestamp. -/
def makeHash (cnFastHash : List UInt8 → Hash) (pubkey : PublicKey) (timestamp : UInt64) : Hash :=
  cnFastHash ([0x53, 0x55, 0x50, 0] ++ writeUint 32 pubkey.data.toNat ++ writeUint 8 timestamp.toNat)

/-- `m_uptime_proof_seen[pubkey]` as a read: the value stored, and the map with a zero entry
added when there was none. -/
def readSeen (seen : Map PublicKey UInt64) (pubkey : PublicKey) : UInt64 × Map PublicKey UInt64 :=
  match seen.lookup pubkey with
  | some t => (t, seen)
  | none => (0, seen.insert pubkey 0)

/-- `handle_uptime_proof` at the time `now`: whether the proof is accepted, the value
`my_uptime_proof_confirmation` is set to (the source compares with the uninitialised local
`my_pubkey`, whose content is `myPubkey` here), and the new state. -/
def handleUptimeProof (core : Core) (crypto : Crypto) (myPubkey : PublicKey) (now : UInt64)
    (proof : UptimeProof) (cop : QuorumCopState) : Bool × Option Bool × QuorumCopState :=
  if proof.timestamp < now - uptimeProofBufferInSeconds ∨
      proof.timestamp > now + uptimeProofBufferInSeconds then (false, none, cop)
  else if !core.isServiceNode proof.pubkey then (false, none, cop)
  else
    let confirmation := some (proof.pubkey == myPubkey)
    -- the read through `operator[]` comes before the signature check
    let (lastSeen, seen) := readSeen cop.uptimeProofSeen proof.pubkey
    if lastSeen ≥ now - uptimeProofFrequencyInSeconds / 2 then
      (false, confirmation, { cop with uptimeProofSeen := seen })
    else if !crypto.checkSignature (makeHash crypto.cnFastHash proof.pubkey proof.timestamp)
        proof.pubkey proof.sig then
      (false, confirmation, { cop with uptimeProofSeen := seen })
    else (true, confirmation, { cop with uptimeProofSeen := seen.insert proof.pubkey now })

/-- The loop of `prune_uptime_proof`: every entry older than `pruneFromTimestamp` is erased. -/
def pruneSeen (pruneFromTimestamp : UInt64) (seen : Map PublicKey UInt64) : Map PublicKey UInt64 :=
  seen.entries.foldl (fun acc e => if e.2 < pruneFromTimestamp then acc.erase e.1 else acc) seen

/-- `prune_uptime_proof` at the time `now`. -/
def pruneUptimeProof (core : Core) (now : UInt64) (cop : QuorumCopState) : QuorumCopState :=
  let latestHeight := max core.getCurrentBlockchainHeight core.getTargetBlockchainHeight
  let pruneFromTimestamp := if core.getHardForkVersion latestHeight ≥ 10
    then now - uptimeProofMaxTimeInSecondsV2 else now - uptimeProofMaxTimeInSeconds
  { cop with uptimeProofSeen := pruneSeen pruneFromTimestamp cop.uptimeProofSeen }

/-! ## Votes -/

/-- `vote_off_node`: the node has no entry in `m_uptime_proof_seen`. -/
def voteOffNode (seen : Map PublicKey UInt64) (nodeKey : PublicKey) : Bool :=
  (seen.lookup nodeKey).isNone

/-- The body of the inner loop of `block_added`: the signed vote against the `nodeIndex`-th node
to test at `height`, when it is voted off. -/
def voteAgainst (crypto : Crypto) (myPubkey : PublicKey) (mySeckey : SecretKey)
    (seen : Map PublicKey UInt64) (height : UInt64) (myIndex : ℕ) (node : PublicKey × ℕ) :
    Option Vote :=
  if voteOffNode seen node.1 then
    some ⟨height, node.2.toUInt32, myIndex.toUInt32,
      crypto.signVote height node.2.toUInt32 myPubkey mySeckey⟩
  else none

/-- The votes `block_added` casts for the quorum of one height, if it is one of the voters. -/
def votesAt (core : Core) (crypto : Crypto) (myPubkey : PublicKey) (mySeckey : SecretKey)
    (seen : Map PublicKey UInt64) (height : UInt64) : List Vote :=
  if core.getHardForkVersion height < 5 then []
  else match core.getQuorumState height with
    | none => []
    | some state =>
      match state.quorumNodes.idxOf? myPubkey with
      | none => []
      | some myIndex =>
        state.nodesToTest.zipIdx.filterMap (voteAgainst crypto myPubkey mySeckey seen height myIndex)

/-- The outer loop of `block_added`, over `count` heights from `height`. -/
def voteLoop (core : Core) (crypto : Crypto) (myPubkey : PublicKey) (mySeckey : SecretKey)
    (seen : Map PublicKey UInt64) : UInt64 → ℕ → List Vote
  | _, 0 => []
  | height, count + 1 =>
    votesAt core crypto myPubkey mySeckey seen height ++
      voteLoop core crypto myPubkey mySeckey seen (height + 1) count

/-- `block_added` for a block at `height`, at the time `now`: the new state and the votes it
passes to `add_deregister_vote`. -/
def blockAdded (core : Core) (crypto : Crypto) (now : Int) (height : UInt64) (cop : QuorumCopState) :
    QuorumCopState × List Vote :=
  if core.getHardForkVersion height < 5 then (cop, [])
  else match core.getServiceNodeKeys with
    | none => (cop, [])
    | some (myPubkey, mySeckey) =>
      let latestHeight := max core.getCurrentBlockchainHeight core.getTargetBlockchainHeight
      if now - core.getStartTime < 60 * 60 * 2 then (cop, [])
      else
        let voteLifetime : UInt64 := if core.getHardForkVersion height ≥ 8
          then voteLifetimeByHeightV2.toUInt64 else voteLifetimeByHeight.toUInt64
        if latestHeight < voteLifetime then (cop, [])
        else
          let executeJusticeFromHeight := latestHeight - voteLifetime
          if height < executeJusticeFromHeight then (cop, [])
          else
            let start := max cop.lastHeight executeJusticeFromHeight
            let stop := height - reorgSafetyBufferInBlocks
            let votes := voteLoop core crypto myPubkey mySeckey cop.uptimeProofSeen start
              (stop.toNat - start.toNat)
            ({ cop with lastHeight := max start stop }, votes)

/-- `blockchain_detached`. -/
def blockchainDetached (height : UInt64) (cop : QuorumCopState) : QuorumCopState :=
  if cop.lastHeight ≥ height then { cop with lastHeight := height } else cop

/-! ## What `handle_uptime_proof` does to the state -/

theorem readSeen_of_lookup_eq_none {seen : Map PublicKey UInt64} {pubkey : PublicKey}
    (h : seen.lookup pubkey = none) : readSeen seen pubkey = (0, seen.insert pubkey 0) := by
  unfold readSeen
  rw [h]

theorem readSeen_of_lookup_eq_some {seen : Map PublicKey UInt64} {pubkey : PublicKey} {t : UInt64}
    (h : seen.lookup pubkey = some t) : readSeen seen pubkey = (t, seen) := by
  unfold readSeen
  rw [h]

/-- `handle_uptime_proof` never touches `m_last_height`. -/
theorem lastHeight_handleUptimeProof (core : Core) (crypto : Crypto) (myPubkey : PublicKey)
    (now : UInt64) (proof : UptimeProof) (cop : QuorumCopState) :
    (handleUptimeProof core crypto myPubkey now proof cop).2.2.lastHeight = cop.lastHeight := by
  unfold handleUptimeProof
  obtain ⟨lastSeen, seen⟩ := readSeen cop.uptimeProofSeen proof.pubkey
  dsimp only
  split_ifs <;> rfl

/-- A core under hard fork 10 that counts every key as a service node, and is not one itself. -/
def serviceNodeCore : Core := ⟨fun _ => 10, none, 0, 0, 0, fun _ => none, fun _ => true⟩

/-- Cryptography under which every signature checks. -/
def acceptingCrypto : Crypto := ⟨fun _ => ⟨0⟩, fun _ _ _ => true, fun _ _ _ _ => ⟨0⟩⟩

/-- A proof with a bad signature for a service node the cop has no entry for is rejected, and
leaves a zero entry for it: before it the node is voted off, after it the node is spared every
vote of `block_added` until `prune_uptime_proof` removes the entry. -/
theorem handleUptimeProof_of_bad_signature (core : Core) (crypto : Crypto) (myPubkey : PublicKey)
    (now : UInt64) (proof : UptimeProof) (cop : QuorumCopState)
    (hwindow : now - uptimeProofBufferInSeconds ≤ proof.timestamp ∧
      proof.timestamp ≤ now + uptimeProofBufferInSeconds)
    (hnode : core.isServiceNode proof.pubkey = true)
    (hunseen : cop.uptimeProofSeen.lookup proof.pubkey = none)
    (hnow : 0 < now - uptimeProofFrequencyInSeconds / 2)
    (hsig : crypto.checkSignature (makeHash crypto.cnFastHash proof.pubkey proof.timestamp)
      proof.pubkey proof.sig = false) :
    (handleUptimeProof core crypto myPubkey now proof cop).1 = false ∧
      (handleUptimeProof core crypto myPubkey now proof cop).2.2.uptimeProofSeen.lookup
        proof.pubkey = some 0 ∧
      voteOffNode cop.uptimeProofSeen proof.pubkey = true ∧
      ∀ (pubkey : PublicKey) (seckey : SecretKey) (height : UInt64) (myIndex nodeIndex : ℕ),
        voteAgainst crypto pubkey seckey
          (handleUptimeProof core crypto myPubkey now proof cop).2.2.uptimeProofSeen height myIndex
          (proof.pubkey, nodeIndex) = none := by
  have hrun : handleUptimeProof core crypto myPubkey now proof cop =
      (false, some (proof.pubkey == myPubkey),
        { cop with uptimeProofSeen := cop.uptimeProofSeen.insert proof.pubkey 0 }) := by
    have hlow : ¬ proof.timestamp < now - uptimeProofBufferInSeconds := UInt64.not_lt.mpr hwindow.1
    have hhigh : ¬ proof.timestamp > now + uptimeProofBufferInSeconds := UInt64.not_lt.mpr hwindow.2
    have hrecent : ¬ (0 : UInt64) ≥ now - uptimeProofFrequencyInSeconds / 2 := UInt64.not_le.mpr hnow
    unfold handleUptimeProof
    rw [readSeen_of_lookup_eq_none hunseen]
    simp only [hlow, hhigh, or_self, hnode, hrecent, hsig, if_false, Bool.not_true,
      Bool.not_false, if_true, Bool.false_eq_true]
  have hseen : (cop.uptimeProofSeen.insert proof.pubkey 0).lookup proof.pubkey = some 0 :=
    AList.lookup_insert _
  refine ⟨by rw [hrun], by rw [hrun]; exact hseen, by simp [voteOffNode, hunseen], ?_⟩
  intro pubkey seckey height myIndex nodeIndex
  rw [hrun]
  simp [voteAgainst, voteOffNode, hseen]

/-- The cop of a fresh daemon, one day into the epoch, rejects a proof with a bad signature for a
service node, keeps a zero entry for it, and no longer votes it off. -/
theorem handleUptimeProof_of_bad_signature_fresh :
    (handleUptimeProof ⟨fun _ => 10, none, 0, 0, 0, fun _ => none, fun _ => true⟩
        ⟨fun _ => ⟨0⟩, fun _ _ _ => false, fun _ _ _ _ => ⟨0⟩⟩ ⟨0⟩ 86400 ⟨86400, ⟨1⟩, ⟨0⟩⟩ init).1 =
        false ∧
      (handleUptimeProof ⟨fun _ => 10, none, 0, 0, 0, fun _ => none, fun _ => true⟩
        ⟨fun _ => ⟨0⟩, fun _ _ _ => false, fun _ _ _ _ => ⟨0⟩⟩ ⟨0⟩ 86400 ⟨86400, ⟨1⟩, ⟨0⟩⟩
        init).2.2.uptimeProofSeen.lookup ⟨1⟩ = some 0 ∧
      voteOffNode init.uptimeProofSeen ⟨1⟩ = true ∧
      ∀ (pubkey : PublicKey) (seckey : SecretKey) (height : UInt64) (myIndex nodeIndex : ℕ),
        voteAgainst ⟨fun _ => ⟨0⟩, fun _ _ _ => false, fun _ _ _ _ => ⟨0⟩⟩ pubkey seckey
          (handleUptimeProof ⟨fun _ => 10, none, 0, 0, 0, fun _ => none, fun _ => true⟩
            ⟨fun _ => ⟨0⟩, fun _ _ _ => false, fun _ _ _ _ => ⟨0⟩⟩ ⟨0⟩ 86400 ⟨86400, ⟨1⟩, ⟨0⟩⟩
            init).2.2.uptimeProofSeen height myIndex (⟨1⟩, nodeIndex) = none :=
  handleUptimeProof_of_bad_signature _ _ _ 86400 ⟨86400, ⟨1⟩, ⟨0⟩⟩ init ⟨by decide, by decide⟩ rfl
    rfl (by decide) rfl

/-! ## The votes of one height -/

/-- The votes `block_added` casts at one height: against every node to test that has no entry,
one vote each, with the voter's index in the quorum, if the voter is in it. -/
theorem mem_votesAt_iff (core : Core) (crypto : Crypto) (myPubkey : PublicKey)
    (mySeckey : SecretKey) (seen : Map PublicKey UInt64) (height : UInt64) (v : Vote) :
    v ∈ votesAt core crypto myPubkey mySeckey seen height ↔
      5 ≤ core.getHardForkVersion height ∧
        ∃ state myIndex, ∃ nodeIndex : ℕ, ∃ node, core.getQuorumState height = some state ∧
          state.quorumNodes.idxOf? myPubkey = some myIndex ∧
          state.nodesToTest[nodeIndex]? = some node ∧ seen.lookup node = none ∧
          v = ⟨height, nodeIndex.toUInt32, myIndex.toUInt32,
            crypto.signVote height nodeIndex.toUInt32 myPubkey mySeckey⟩ := by
  unfold votesAt
  by_cases hfork : core.getHardForkVersion height < 5
  · simp [hfork]
  · rw [if_neg hfork]
    split
    · rename_i hstate
      simp [hstate]
    · rename_i state hstate
      split
      · rename_i hindex
        simp [hstate, hindex]
      · rename_i myIndex hindex
        simp only [List.mem_filterMap, List.mem_zipIdx_iff_getElem?, voteAgainst, voteOffNode,
          Option.isNone_iff_eq_none, Prod.exists, hstate, Option.some.injEq]
        constructor
        · rintro ⟨node, nodeIndex, hnode, hvote⟩
          split_ifs at hvote with hseen
          exact ⟨by omega, state, myIndex, nodeIndex, node, rfl, hindex, hnode, hseen,
            (Option.some.inj hvote).symm⟩
        · rintro ⟨-, _, index, nodeIndex, node, rfl, hindex', hnode, hseen, rfl⟩
          -- the voter's index is the one the quorum gives
          obtain rfl : myIndex = index := Option.some.inj (hindex.symm.trans hindex')
          exact ⟨node, nodeIndex, hnode, by rw [if_pos hseen]⟩

theorem blockHeight_of_mem_votesAt {core : Core} {crypto : Crypto} {myPubkey : PublicKey}
    {mySeckey : SecretKey} {seen : Map PublicKey UInt64} {height : UInt64} {v : Vote}
    (h : v ∈ votesAt core crypto myPubkey mySeckey seen height) : v.blockHeight = height := by
  obtain ⟨-, _, _, _, _, -, -, -, -, rfl⟩ := (mem_votesAt_iff core crypto myPubkey mySeckey seen height v).mp h
  rfl

/-- The outer loop of `block_added` votes at the heights it runs over, and they do not wrap. -/
theorem mem_voteLoop {core : Core} {crypto : Crypto} {myPubkey : PublicKey} {mySeckey : SecretKey}
    {seen : Map PublicKey UInt64} {v : Vote} :
    ∀ {height : UInt64} {count : ℕ}, height.toNat + count ≤ 2 ^ 64 →
      v ∈ voteLoop core crypto myPubkey mySeckey seen height count →
      height.toNat ≤ v.blockHeight.toNat ∧ v.blockHeight.toNat < height.toNat + count ∧
        v ∈ votesAt core crypto myPubkey mySeckey seen v.blockHeight
  | _, 0, _, h => absurd h List.not_mem_nil
  | height, count + 1, hfit, h => by
    rcases List.mem_append.mp h with hv | hv
    · have hheight := blockHeight_of_mem_votesAt hv
      refine ⟨by rw [hheight], by rw [hheight]; omega, hheight ▸ hv⟩
    · -- a later height: the loop went on, so `height + 1` did not wrap
      cases count with
      | zero => exact absurd hv List.not_mem_nil
      | succ count =>
        have hsucc : (height + 1).toNat = height.toNat + 1 := by
          rw [UInt64.toNat_add, UInt64.toNat_one, Nat.mod_eq_of_lt (by omega)]
        obtain ⟨hlo, hhi, hat⟩ := mem_voteLoop (by rw [hsucc]; omega) hv
        rw [hsucc] at hlo hhi
        exact ⟨by omega, by omega, hat⟩

/-- `max` of two heights, as `maxOfLe` computes it, is the larger number. -/
theorem toNat_max (a b : UInt64) : (max a b).toNat = max a.toNat b.toNat := by
  show (if a ≤ b then b else a).toNat = max a.toNat b.toNat
  split_ifs with h <;> simp only [UInt64.le_iff_toNat_le] at h <;> omega

/-- `block_added` either changes nothing, or, as a service node, votes over the heights from a
start no earlier than `m_last_height` and moves `m_last_height` to the end of them. -/
theorem blockAdded_cases (core : Core) (crypto : Crypto) (now : Int) (height : UInt64)
    (cop : QuorumCopState) :
    blockAdded core crypto now height cop = (cop, []) ∨
      ∃ myPubkey mySeckey start stop, core.getServiceNodeKeys = some (myPubkey, mySeckey) ∧
        cop.lastHeight ≤ start ∧
        blockAdded core crypto now height cop =
          ({ cop with lastHeight := max start stop },
            voteLoop core crypto myPubkey mySeckey cop.uptimeProofSeen start
              (stop.toNat - start.toNat)) := by
  generalize hr : blockAdded core crypto now height cop = r
  unfold blockAdded at hr
  by_cases hfork : core.getHardForkVersion height < 5
  · rw [if_pos hfork] at hr
    exact .inl hr.symm
  rw [if_neg hfork] at hr
  split at hr
  · exact .inl hr.symm
  rename_i myPubkey mySeckey hkeys
  dsimp only at hr
  -- every guard that fails returns the state as it is; the one path through votes
  split_ifs at hr <;>
    first
    | exact .inl hr.symm
    | exact .inr ⟨myPubkey, mySeckey, _, _, hkeys,
      UInt64.le_iff_toNat_le.mpr (by rw [toNat_max]; omega), hr.symm⟩

/-- A vote of `block_added` is at a height from `m_last_height` up to the new `m_last_height`,
and is one of the votes of that height for the node's own keys. -/
theorem mem_blockAdded {core : Core} {crypto : Crypto} {now : Int} {height : UInt64}
    {cop : QuorumCopState} {v : Vote} (h : v ∈ (blockAdded core crypto now height cop).2) :
    cop.lastHeight.toNat ≤ v.blockHeight.toNat ∧
      v.blockHeight.toNat < (blockAdded core crypto now height cop).1.lastHeight.toNat ∧
      ∃ myPubkey mySeckey, core.getServiceNodeKeys = some (myPubkey, mySeckey) ∧
        v ∈ votesAt core crypto myPubkey mySeckey cop.uptimeProofSeen v.blockHeight := by
  rcases blockAdded_cases core crypto now height cop with hr | ⟨myPubkey, mySeckey, start, stop, hkeys, hstart, hr⟩
  · rw [hr] at h
    exact absurd h List.not_mem_nil
  · rw [hr] at h ⊢
    have hfit : start.toNat + (stop.toNat - start.toNat) ≤ 2 ^ 64 := by
      have := start.toNat_lt
      have := stop.toNat_lt
      omega
    obtain ⟨hlo, hhi, hat⟩ := mem_voteLoop hfit h
    have hstart' := UInt64.le_iff_toNat_le.mp hstart
    refine ⟨by omega, ?_, myPubkey, mySeckey, hkeys, hat⟩
    dsimp only
    rw [toNat_max]
    omega

/-- Every vote `block_added` casts is at a height from `m_last_height` up to the new
`m_last_height`, against a node its quorum at that height tests that has no entry in
`m_uptime_proof_seen`, from the node's own place in that quorum and signed with its keys. -/
theorem blockAdded_vote_sound {core : Core} {crypto : Crypto} {now : Int} {height : UInt64}
    {cop : QuorumCopState} {v : Vote} (h : v ∈ (blockAdded core crypto now height cop).2) :
    cop.lastHeight ≤ v.blockHeight ∧
      v.blockHeight < (blockAdded core crypto now height cop).1.lastHeight ∧
      5 ≤ core.getHardForkVersion v.blockHeight ∧
      ∃ myPubkey mySeckey state myIndex, ∃ nodeIndex : ℕ, ∃ node,
        core.getServiceNodeKeys = some (myPubkey, mySeckey) ∧
        core.getQuorumState v.blockHeight = some state ∧
        state.quorumNodes.idxOf? myPubkey = some myIndex ∧
        state.nodesToTest[nodeIndex]? = some node ∧ cop.uptimeProofSeen.lookup node = none ∧
        v = ⟨v.blockHeight, nodeIndex.toUInt32, myIndex.toUInt32,
          crypto.signVote v.blockHeight nodeIndex.toUInt32 myPubkey mySeckey⟩ := by
  obtain ⟨hlo, hhi, myPubkey, mySeckey, hkeys, hat⟩ := mem_blockAdded h
  obtain ⟨hfork, state, myIndex, nodeIndex, node, hstate, hindex, hnode, hseen, hv⟩ :=
    (mem_votesAt_iff core crypto myPubkey mySeckey cop.uptimeProofSeen v.blockHeight v).mp hat
  exact ⟨UInt64.le_iff_toNat_le.mpr hlo, UInt64.lt_iff_toNat_lt.mpr hhi, hfork, myPubkey, mySeckey,
    state, myIndex, nodeIndex, node, hkeys, hstate, hindex, hnode, hseen, hv⟩

/-- A service node at height 730 under hard fork 10, alive for two hours at the time `7200`,
that is the only voter of every quorum, each testing one node. -/
def loneVoterCore : Core :=
  ⟨fun _ => 10, some (⟨1⟩, ⟨0⟩), 730, 0, 0, fun _ => some ⟨[⟨1⟩], [⟨2⟩]⟩, fun _ => true⟩

/-- With `m_last_height` one below the last open height, the lone voter votes off the one node to
test there. -/
theorem blockAdded_vote_sound_lone_voter :
    (⟨709, ∅⟩ : QuorumCopState).lastHeight ≤ 709 ∧
      (709 : UInt64) < (blockAdded loneVoterCore acceptingCrypto 7200 730 ⟨709, ∅⟩).1.lastHeight ∧
      5 ≤ loneVoterCore.getHardForkVersion 709 ∧
      ∃ myPubkey mySeckey state myIndex, ∃ nodeIndex : ℕ, ∃ node,
        loneVoterCore.getServiceNodeKeys = some (myPubkey, mySeckey) ∧
        loneVoterCore.getQuorumState 709 = some state ∧
        state.quorumNodes.idxOf? myPubkey = some myIndex ∧
        state.nodesToTest[nodeIndex]? = some node ∧
        (⟨709, ∅⟩ : QuorumCopState).uptimeProofSeen.lookup node = none ∧
        (⟨709, 0, 0, ⟨0⟩⟩ : Vote) = ⟨709, nodeIndex.toUInt32, myIndex.toUInt32,
          acceptingCrypto.signVote 709 nodeIndex.toUInt32 myPubkey mySeckey⟩ :=
  @blockAdded_vote_sound loneVoterCore acceptingCrypto 7200 730 ⟨709, ∅⟩ ⟨709, 0, 0, ⟨0⟩⟩
    (List.mem_singleton_self _)

/-! ## Pruning -/

/-- `prune_uptime_proof` keeps exactly the entries no older than the time it prunes from. -/
theorem lookup_pruneSeen (pruneFromTimestamp : UInt64) (seen : Map PublicKey UInt64)
    (pubkey : PublicKey) :
    (pruneSeen pruneFromTimestamp seen).lookup pubkey =
      (seen.lookup pubkey).filter fun time => pruneFromTimestamp ≤ time := by
  unfold pruneSeen
  rw [lookup_foldl_erase (fun e => e.2 < pruneFromTimestamp)]
  cases hk : seen.lookup pubkey with
  | none => simp
  | some time =>
    -- the keys are distinct, so the one entry for `pubkey` is the one the lookup finds
    have hold : (∃ e ∈ seen.entries, e.1 = pubkey ∧ e.2 < pruneFromTimestamp) ↔
        time < pruneFromTimestamp := by
      constructor
      · rintro ⟨⟨k, t⟩, he, rfl, hlt⟩
        have : seen.lookup k = some t := AList.mem_lookup_iff.mpr he
        rw [hk] at this
        cases this
        exact hlt
      · exact fun hlt => ⟨⟨pubkey, time⟩, AList.mem_lookup_iff.mp hk, rfl, hlt⟩
    rw [if_congr hold rfl rfl, Option.filter_some]
    by_cases hlt : time < pruneFromTimestamp
    · rw [if_pos hlt, if_neg (by simpa using hlt)]
    · rw [if_neg hlt, if_pos (by simpa using hlt)]

/-! ## Runs of the quorum cop -/

/-- A call into the quorum cop, with what the core, the clock and the cryptography answer in it. -/
inductive Event where
  | uptimeProof (core : Core) (crypto : Crypto) (myPubkey : PublicKey) (now : UInt64)
      (proof : UptimeProof)
  | pruneUptimeProof (core : Core) (now : UInt64)
  | blockAdded (core : Core) (crypto : Crypto) (now : Int) (height : UInt64)
  | blockchainDetached (height : UInt64)

/-- The calls that detach blocks, after which heights are voted on again. -/
def Event.isDetached : Event → Bool
  | .blockchainDetached _ => true
  | _ => false

/-- One call: the new state and the votes it casts. -/
def step : Event → QuorumCopState → QuorumCopState × List Vote
  | .uptimeProof core crypto myPubkey now proof, cop =>
    ((handleUptimeProof core crypto myPubkey now proof cop).2.2, [])
  | .pruneUptimeProof core now, cop => (pruneUptimeProof core now cop, [])
  | .blockAdded core crypto now height, cop => blockAdded core crypto now height cop
  | .blockchainDetached height, cop => (blockchainDetached height cop, [])

/-- A run of calls: the final state, and the votes of each call in order. -/
def run : List Event → QuorumCopState → QuorumCopState × List (List Vote)
  | [], cop => (cop, [])
  | e :: es, cop =>
    let (cop', votes) := step e cop
    let (last, rest) := run es cop'
    (last, votes :: rest)

/-- The votes of one call lie between `m_last_height` before and after it. -/
theorem mem_step {e : Event} {cop : QuorumCopState} {v : Vote} (h : v ∈ (step e cop).2) :
    cop.lastHeight.toNat ≤ v.blockHeight.toNat ∧
      v.blockHeight.toNat < (step e cop).1.lastHeight.toNat := by
  cases e with
  | blockAdded core crypto now height =>
    obtain ⟨hlo, hhi, -⟩ := mem_blockAdded h
    exact ⟨hlo, hhi⟩
  | _ => exact absurd h List.not_mem_nil

/-- Only a detach lowers `m_last_height`. -/
theorem lastHeight_le_step {e : Event} (he : e.isDetached = false) (cop : QuorumCopState) :
    cop.lastHeight.toNat ≤ (step e cop).1.lastHeight.toNat := by
  cases e with
  | uptimeProof core crypto myPubkey now proof =>
    rw [step, lastHeight_handleUptimeProof]
  | pruneUptimeProof core now => exact Nat.le_refl _
  | blockAdded core crypto now height =>
    rcases blockAdded_cases core crypto now height cop with hr | ⟨_, _, start, stop, _, hstart, hr⟩
    · rw [step, hr]
    · rw [step, hr]
      have := UInt64.le_iff_toNat_le.mp hstart
      dsimp only
      rw [toNat_max]
      omega
  | blockchainDetached height => cases he

theorem run_cons (e : Event) (es : List Event) (cop : QuorumCopState) :
    (run (e :: es) cop).2 = (step e cop).2 :: (run es (step e cop).1).2 := rfl

/-- Without a detach, every vote of a run is at or above `m_last_height` at its start. -/
theorem lastHeight_le_of_mem_run {es : List Event} (hes : ∀ e ∈ es, e.isDetached = false)
    {cop : QuorumCopState} {votes : List Vote} (hvotes : votes ∈ (run es cop).2) {v : Vote}
    (hv : v ∈ votes) : cop.lastHeight.toNat ≤ v.blockHeight.toNat := by
  induction es generalizing cop with
  | nil => exact absurd hvotes List.not_mem_nil
  | cons e es ih =>
    rw [run_cons] at hvotes
    rcases List.mem_cons.mp hvotes with rfl | hrest
    · exact (mem_step hv).1
    · have hmono := lastHeight_le_step (hes e List.mem_cons_self) cop
      have hlater := ih (fun e' he' => hes e' (List.mem_cons_of_mem e he')) hrest
      omega

/-- Along a run without a detach, `block_added` never votes on a height twice: every vote of a
call is at a lower height than every vote of a later call. -/
theorem run_vote_heights_increase {es : List Event} (hes : ∀ e ∈ es, e.isDetached = false)
    (cop : QuorumCopState) :
    (run es cop).2.Pairwise fun votes votes' => ∀ v ∈ votes, ∀ w ∈ votes', v.blockHeight < w.blockHeight := by
  induction es generalizing cop with
  | nil => exact List.Pairwise.nil
  | cons e es ih =>
    have hes' : ∀ e' ∈ es, e'.isDetached = false := fun e' he' => hes e' (List.mem_cons_of_mem e he')
    rw [run_cons, List.pairwise_cons]
    refine ⟨fun votes' hvotes' v hv w hw => ?_, ih hes' (step e cop).1⟩
    -- the earlier call's votes end below where the later calls start
    have hbelow := (mem_step hv).2
    have habove := lastHeight_le_of_mem_run hes' hvotes' hw
    exact UInt64.lt_iff_toNat_lt.mpr (by omega)

/-- Two calls of `block_added` on successive blocks vote at increasing heights. -/
theorem run_vote_heights_increase_two_blocks :
    (run [.blockAdded loneVoterCore acceptingCrypto 7200 730,
        .blockAdded loneVoterCore acceptingCrypto 7200 731] ⟨709, ∅⟩).2.Pairwise
      fun votes votes' => ∀ v ∈ votes, ∀ w ∈ votes', v.blockHeight < w.blockHeight :=
  run_vote_heights_increase (fun _ he => by
    simp only [List.mem_cons, List.not_mem_nil, or_false] at he
    rcases he with rfl | rfl <;> rfl) _

end Equilibria.QuorumCop
