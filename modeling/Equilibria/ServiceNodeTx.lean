import Equilibria.ServiceNodeState
import Equilibria.FormatUtils

/-!
# Transactions the service-node list processes

`is_registration_tx`, `process_registration_tx`, `get_contribution`,
`process_contribution_tx` and `process_deregistration_tx`. Each processing function returns
the list after the transaction; the registration and deregistration functions return `none`
where the source returns `false`, which leaves the list as it was.

`process_swap_tx` is left out: it only computes a Boolean that `block_added_generic`
discards, and changes nothing.
-/

namespace Equilibria.ServiceNodeTx

open CryptonoteBasic MapJournal OrderedMap ServiceNodeRules ServiceNodeState FormatUtils

variable (env : Env) (ctx : Context)

/-- `contribution_tx_output_has_correct_unlock_time`: the output stays locked for the staking
period. `output_unlock_times` has one entry per output from version 3 on. -/
def contributionTxOutputHasCorrectUnlockTime (tx : Transaction) (i blockHeight : ℕ) : Bool :=
  let unlockTime := if tx.version ≥ 3 then tx.outputUnlockTimes.getD i 0 else tx.unlockTime
  unlockTime.toNat < cryptonoteMaxBlockNumber &&
    unlockTime.toNat ≥ blockHeight + getStakingRequirementLockBlocks env.nettype

/-- `get_reg_tx_staking_output_contribution`: the decoded amount of an output to a key, zero
where decoding throws or the transaction has no supported ring signature type. -/
def getRegTxStakingOutputContribution (tx : Transaction) (i : ℕ) (derivation : KeyDerivation) :
    UInt64 :=
  match tx.vout[i]? with
  | some ⟨_, .toKey _⟩ =>
    let scalar1 := env.crypto.derivationToScalar derivation i
    match tx.rctType with
    | .simple | .bulletproof | .bulletproof2 => (env.crypto.decodeRctSimple tx scalar1 i).getD 0
    | .full => (env.crypto.decodeRct tx scalar1 i).getD 0
    | .null => 0
  | _ => 0

/-- `get_contribution`: the contributor's address and the sum, in 64-bit arithmetic, of the
outputs to them that stay locked. -/
def getContribution (tx : Transaction) (blockHeight : ℕ) : Option (AccountPublicAddress × UInt64) := do
  let address ← getServiceNodeContributorFromTxExtra tx.extra
  let txKey ← getTxSecretKeyFromTxExtra tx.extra
  let derivation ← env.crypto.generateKeyDerivation address.viewPublicKey txKey
  let transferred := (List.range tx.vout.length).foldl
    (fun acc i =>
      if contributionTxOutputHasCorrectUnlockTime env tx i blockHeight then
        acc + getRegTxStakingOutputContribution env tx i derivation
      else acc) 0
  pure (address, transferred)

/-- The fields `reg_tx_extract_fields` reads from a registration. -/
structure RegistrationFields where
  /-- The contributors' addresses. -/
  addresses : List AccountPublicAddress
  /-- The operator's portions. -/
  portionsForOperator : UInt64
  /-- The contributors' portions. -/
  portions : List UInt64
  /-- The time after which the registration may not be mined. -/
  expirationTimestamp : UInt64
  /-- The service node's key. -/
  serviceNodeKey : PublicKey
  /-- The service node's signature. -/
  signature : Signature

/-- `reg_tx_extract_fields`. -/
def regTxExtractFields (tx : Transaction) : Option RegistrationFields := do
  let registration ← getServiceNodeRegisterFromTxExtra tx.extra
  let serviceNodeKey ← getServiceNodePubkeyFromTxExtra tx.extra
  pure ⟨List.zipWith AccountPublicAddress.mk registration.publicSpendKeys registration.publicViewKeys,
    registration.portionsForOperator, registration.portions, registration.expirationTimestamp,
    serviceNodeKey, registration.serviceNodeSignature⟩

/-- The contributor loop of `is_registration_tx`: reject a repeated address, reserve each
contributor's share of the stake (the computation of `portions_to_amount`), and add the
reservations up in 64-bit arithmetic. `seen` holds the addresses before the current one. -/
def reserveContributors (stakingRequirement : UInt64) :
    List AccountPublicAddress → List (AccountPublicAddress × UInt64) → UInt64 →
      Option (List Contribution × UInt64)
  | _, [], totalReserved => some ([], totalReserved)
  | seen, (address, portion) :: rest, totalReserved =>
    if address ∈ seen then none
    else
      let reserved := portionsToAmount portion stakingRequirement
      (reserveContributors stakingRequirement (seen ++ [address]) rest (totalReserved + reserved)).map
        fun r => (⟨0, reserved, address⟩ :: r.1, r.2)

/-- `is_registration_tx`: the node key and the record a valid registration creates. -/
def isRegistrationTx (tx : Transaction) (blockTimestamp : UInt64) (blockHeight index : ℕ) :
    Option (PublicKey × ServiceNodeInfo) := do
  let f ← regTxExtractFields tx
  if f.portions.length ≠ f.addresses.length || f.portions.isEmpty then none
  if !checkServiceNodePortions (ctx.minPortionsRead tx) f.portions then none
  if f.portionsForOperator > stakingPortions then none
  if ctx.noFeeRead tx > stakingPortions then none
  -- `get_portions_from_percent_str("0", ...)` sets the no-fee portions to zero
  let portionsForOperatorNoFee : UInt64 := 0
  let hash ← getRegistrationHash env.crypto (ctx.heap tx) f.addresses f.portionsForOperator
    f.portions f.expirationTimestamp
  if !env.crypto.checkKey f.serviceNodeKey ||
      !env.crypto.checkSignature hash f.serviceNodeKey f.signature then none
  if f.expirationTimestamp < blockTimestamp then none
  let hfVersion := ctx.hardForkVersion blockHeight
  let stakingRequirement := getStakingRequirement env.exp2 env.nettype blockHeight
  let (address, transferred) ← getContribution env tx blockHeight
  if transferred < stakingRequirement / UInt64.ofNat maxNumberOfContributors then none
  let isThisANewAddress := if address ∈ f.addresses then 0 else 1
  if f.addresses.length + isThisANewAddress > maxNumberOfContributors then none
  let operatorAddress ← f.addresses.head?
  let (contributors, totalReserved) ←
    reserveContributors stakingRequirement [] (f.addresses.zip f.portions) 0
  pure (f.serviceNodeKey,
    { version := if hfVersion ≥ 5 then 1 else 0
      registrationHeight := blockHeight
      lastRewardBlockHeight := blockHeight
      lastRewardTransactionIndex := index
      contributors := contributors
      totalContributed := 0
      totalReserved := totalReserved
      stakingRequirement := stakingRequirement
      portionsForOperator := f.portionsForOperator
      portionsForOperatorNoFee := portionsForOperatorNoFee
      swarmId := if hfVersion ≥ 5 then queueSwarmId else 0
      operatorAddress := operatorAddress })

/-- A registration that `is_registration_tx` accepts has consistent fields, and its record
starts with the reservations `reserveContributors` computes, nothing contributed yet, and its
place in the reward queue at the registration. -/
theorem isRegistrationTx_eq_some {tx : Transaction} {blockTimestamp : UInt64}
    {blockHeight index : ℕ} {key : PublicKey} {info : ServiceNodeInfo}
    (h : isRegistrationTx env ctx tx blockTimestamp blockHeight index = some (key, info)) :
    ∃ f : RegistrationFields, regTxExtractFields tx = some f ∧ key = f.serviceNodeKey ∧
      f.portions.length = f.addresses.length ∧ f.portions ≠ [] ∧
      checkServiceNodePortions (ctx.minPortionsRead tx) f.portions = true ∧
      f.portionsForOperator ≤ stakingPortions ∧
      f.addresses.length ≤ maxNumberOfContributors ∧
      info.stakingRequirement = getStakingRequirement env.exp2 env.nettype blockHeight ∧
      reserveContributors info.stakingRequirement [] (f.addresses.zip f.portions) 0 =
        some (info.contributors, info.totalReserved) ∧
      info.totalContributed = 0 ∧ info.registrationHeight = blockHeight ∧
      info.lastRewardBlockHeight = blockHeight ∧ info.lastRewardTransactionIndex = index ∧
      info.portionsForOperator = f.portionsForOperator ∧ info.portionsForOperatorNoFee = 0 ∧
      f.addresses.head? = some info.operatorAddress := by
  simp only [isRegistrationTx, Option.bind_eq_bind, Option.bind_none, Option.ite_none_left_eq_some,
    Option.bind_eq_some_iff, Option.pure_def, Option.some.injEq, Prod.mk.injEq] at h
  obtain ⟨f, hf, hlen, hcheck, hop, -, -, -, -, -, ⟨address, transferred⟩, -, -, hmax, operator,
    hoperator, ⟨contributors, totalReserved⟩, hreserve, rfl, rfl⟩ := h
  have hlen' : f.portions.length = f.addresses.length ∧ f.portions ≠ [] := by simpa using hlen
  have hmax' : f.addresses.length ≤ maxNumberOfContributors := by split at hmax <;> omega
  exact ⟨f, hf, rfl, hlen'.1, hlen'.2, by simpa using hcheck, by simpa using hop, hmax', rfl, hreserve, rfl,
    rfl, rfl, rfl, rfl, rfl, hoperator⟩
/-- `process_registration_tx`: add the registered node, recording its removal. A node that is
already listed may register again once its lock period is over, keeping its place in the
reward queue. -/
def processRegistrationTx (s : ServiceNodeList) (tx : Transaction) (blockTimestamp : UInt64)
    (blockHeight index : ℕ) : Option ServiceNodeList := do
  let (key, info) ← isRegistrationTx env ctx tx blockTimestamp blockHeight index
  let info ← match s.serviceNodesInfos.lookup key with
    | none => some info
    | some oldInfo =>
      if ctx.hardForkVersion blockHeight ≥ 5 then
        if blockHeight < oldInfo.registrationHeight + getStakingRequirementLockBlocks env.nettype then
          none
        else
          some { info with
            lastRewardBlockHeight := oldInfo.lastRewardBlockHeight
            lastRewardTransactionIndex := oldInfo.lastRewardTransactionIndex }
      else none
  pure { s with
    rollbackEvents := s.rollbackEvents ++ [.rollbackNew blockHeight key]
    serviceNodesInfos := s.serviceNodesInfos.insert key info }

/-- A registration that goes through writes the new record under its key, recording the key's
removal: either the key was not listed, or it was and its lock period is over, and then the new
record keeps the old place in the reward queue. -/
theorem processRegistrationTx_eq_some {s s' : ServiceNodeList} {tx : Transaction}
    {blockTimestamp : UInt64} {blockHeight index : ℕ}
    (h : processRegistrationTx env ctx s tx blockTimestamp blockHeight index = some s') :
    ∃ key info info', isRegistrationTx env ctx tx blockTimestamp blockHeight index = some (key, info) ∧
      ((s.serviceNodesInfos.lookup key = none ∧ info' = info) ∨
        ∃ oldInfo, s.serviceNodesInfos.lookup key = some oldInfo ∧
          5 ≤ ctx.hardForkVersion blockHeight ∧
          oldInfo.registrationHeight + getStakingRequirementLockBlocks env.nettype ≤ blockHeight ∧
          info' = { info with
            lastRewardBlockHeight := oldInfo.lastRewardBlockHeight
            lastRewardTransactionIndex := oldInfo.lastRewardTransactionIndex }) ∧
      s' = { s with
        rollbackEvents := s.rollbackEvents ++ [.rollbackNew blockHeight key]
        serviceNodesInfos := s.serviceNodesInfos.insert key info' } := by
  unfold processRegistrationTx at h
  cases hreg : isRegistrationTx env ctx tx blockTimestamp blockHeight index with
  | none => simp [hreg] at h
  | some r =>
    obtain ⟨key, info⟩ := r
    simp only [hreg, Option.bind_eq_bind, Option.bind_some] at h
    refine ⟨key, info, ?_⟩
    split at h
    · rename_i hnone
      exact ⟨info, rfl, .inl ⟨hnone, rfl⟩, (Option.some.inj h).symm⟩
    · rename_i oldInfo hold
      split_ifs at h with hhf hlock
      · simp at h
      · exact ⟨_, rfl, .inr ⟨oldInfo, hold, hhf, by omega, rfl⟩, (Option.some.inj h).symm⟩
      · simp at h

/-- The stake update of `process_contribution_tx` for the contributor at `idx`: the amount is
clamped so that the reservation cannot pass the staking requirement, added, and the
contributor's reservation raised to the amount when it passes it. -/
def applyContribution (info : ServiceNodeInfo) (idx : ℕ) (transferred : UInt64) :
    ServiceNodeInfo :=
  match info.contributors[idx]? with
  | none => info
  | some contributor =>
    let canIncreaseReservedBy := info.stakingRequirement - info.totalReserved
    let maxAmount := contributor.reserved + canIncreaseReservedBy
    let transferred := min (maxAmount - contributor.amount) transferred
    let amount := contributor.amount + transferred
    let totalContributed := info.totalContributed + transferred
    if amount > contributor.reserved then
      { info with
        contributors := info.contributors.set idx { contributor with amount, reserved := amount }
        totalContributed
        totalReserved := info.totalReserved + (amount - contributor.reserved) }
    else
      { info with
        contributors := info.contributors.set idx { contributor with amount }
        totalContributed }

/-- `process_contribution_tx`: add a contribution to a node that is not fully funded yet. A
new contributor needs a free place and the minimum contribution. -/
def processContributionTx (s : ServiceNodeList) (tx : Transaction) (blockHeight index : ℕ) :
    ServiceNodeList := Id.run do
  let some pubkey := getServiceNodePubkeyFromTxExtra tx.extra | return s
  let some info := s.serviceNodesInfos.lookup pubkey | return s
  let hfVersion := ctx.hardForkVersion blockHeight
  let blockForUnlock := if hfVersion ≥ 12 then info.registrationHeight else blockHeight
  let some (address, transferred) := getContribution env tx blockForUnlock | return s
  if info.isFullyFunded then return s
  let maxContribs := if hfVersion > 9 then maxNumberOfContributorsV2 else maxNumberOfContributors
  let found := info.contributors.findIdx? fun c => c.address = address
  if found.isNone && (info.contributors.length ≥ maxContribs ||
      transferred < info.getMinContribution (ctx.hardForkVersion blockHeight)) then
    return s
  let (contributors, idx) := match found with
    | some idx => (info.contributors, idx)
    | none => (info.contributors ++ [Contribution.mk 0 0 address], info.contributors.length)
  let info' := applyContribution { info with contributors } idx transferred
  return { s with
    rollbackEvents := s.rollbackEvents ++ [RollbackEvent.rollbackChange blockHeight pubkey info]
    serviceNodesInfos := s.serviceNodesInfos.insert pubkey
      { info' with lastRewardBlockHeight := blockHeight, lastRewardTransactionIndex := index } }

/-- `process_contribution_tx` either leaves the list alone or replaces the record of a listed
node that is not fully funded, recording the old one: the contribution goes to the contributor
with its address, or to a new contributor appended when there is room and the amount reaches the
minimum contribution, and the node waits in the reward queue from this transaction on. -/
theorem processContributionTx_eq (s : ServiceNodeList) (tx : Transaction) (blockHeight index : ℕ) :
    processContributionTx env ctx s tx blockHeight index = s ∨
    ∃ pubkey info address transferred contributors idx,
      getServiceNodePubkeyFromTxExtra tx.extra = some pubkey ∧
      s.serviceNodesInfos.lookup pubkey = some info ∧
      getContribution env tx
        (if ctx.hardForkVersion blockHeight ≥ 12 then info.registrationHeight else blockHeight) =
        some (address, transferred) ∧
      info.isFullyFunded = false ∧
      ((info.contributors.findIdx? (fun c => c.address = address) = some idx ∧
          contributors = info.contributors) ∨
        (info.contributors.findIdx? (fun c => c.address = address) = none ∧
          info.contributors.length < (if ctx.hardForkVersion blockHeight > 9
            then maxNumberOfContributorsV2 else maxNumberOfContributors) ∧
          info.getMinContribution (ctx.hardForkVersion blockHeight) ≤ transferred ∧
          contributors = info.contributors ++ [⟨0, 0, address⟩] ∧ idx = info.contributors.length)) ∧
      processContributionTx env ctx s tx blockHeight index = { s with
        rollbackEvents := s.rollbackEvents ++ [.rollbackChange blockHeight pubkey info]
        serviceNodesInfos := s.serviceNodesInfos.insert pubkey
          { applyContribution { info with contributors } idx transferred with
            lastRewardBlockHeight := blockHeight, lastRewardTransactionIndex := index } } := by
  rcases hp : getServiceNodePubkeyFromTxExtra tx.extra with _ | pubkey
  · exact .inl (by simp [processContributionTx, hp])
  rcases hi : s.serviceNodesInfos.lookup pubkey with _ | info
  · exact .inl (by simp [processContributionTx, hp, hi])
  rcases hc : getContribution env tx
      (if ctx.hardForkVersion blockHeight ≥ 12 then info.registrationHeight else blockHeight) with
    _ | ⟨address, transferred⟩
  · exact .inl (by simp [processContributionTx, hp, hi, hc])
  by_cases hfunded : info.isFullyFunded = true
  · exact .inl (by simp [processContributionTx, hp, hi, hc, hfunded])
  cases hfind : info.contributors.findIdx? (fun c => c.address = address) with
  | some idx =>
    refine .inr ⟨pubkey, info, address, transferred, info.contributors, idx, rfl, hi, hc,
      by simpa using hfunded, .inl ⟨hfind, rfl⟩, ?_⟩
    simp [processContributionTx, hp, hi, hc, hfunded, hfind]
  | none =>
    by_cases hroom : info.contributors.length < (if ctx.hardForkVersion blockHeight > 9
        then maxNumberOfContributorsV2 else maxNumberOfContributors) ∧
        info.getMinContribution (ctx.hardForkVersion blockHeight) ≤ transferred
    · refine .inr ⟨pubkey, info, address, transferred, _, _, rfl, hi, hc,
        by simpa using hfunded, .inr ⟨hfind, hroom.1, hroom.2, rfl, rfl⟩, ?_⟩
      simp [processContributionTx, hp, hi, hc, hfunded, hfind, Nat.not_le.mpr hroom.1,
        UInt64.not_lt.mpr hroom.2]
    · refine .inl ?_
      have hguard : (if 9 < ctx.hardForkVersion blockHeight then maxNumberOfContributorsV2
          else maxNumberOfContributors) ≤ info.contributors.length ∨
          transferred < info.getMinContribution (ctx.hardForkVersion blockHeight) := by
        by_contra hno
        rw [not_or, Nat.not_le, UInt64.not_lt] at hno
        exact hroom hno
      simp [processContributionTx, hp, hi, hc, hfunded, hfind, hguard]
/-- `process_deregistration_tx`: remove the node a deregistration names by its place among the
nodes its quorum tested, recording its record. -/
def processDeregistrationTx (s : ServiceNodeList) (tx : Transaction) (blockHeight : ℕ) :
    Option ServiceNodeList := do
  if !tx.isDeregisterTx then none
  let deregister ← getServiceNodeDeregisterFromTxExtra tx.extra
  let state := getQuorumState s deregister.blockHeight.toNat
  let key ← state.nodesToTest[deregister.serviceNodeIndex.toNat]?
  let info ← s.serviceNodesInfos.lookup key
  pure { s with
    rollbackEvents := s.rollbackEvents ++ [.rollbackChange blockHeight key info]
    serviceNodesInfos := s.serviceNodesInfos.erase key }

/-- A deregistration that goes through erases a listed record, recording it. -/
theorem processDeregistrationTx_eq_some {s s' : ServiceNodeList} {tx : Transaction}
    {blockHeight : ℕ} (h : processDeregistrationTx s tx blockHeight = some s') :
    ∃ key info, s.serviceNodesInfos.lookup key = some info ∧
      s' = { s with
        rollbackEvents := s.rollbackEvents ++ [.rollbackChange blockHeight key info]
        serviceNodesInfos := s.serviceNodesInfos.erase key } := by
  simp only [processDeregistrationTx, Option.bind_eq_bind, Option.pure_def] at h
  split at h
  · simp at h
  · simp only [Option.bind_eq_some_iff, Option.some.injEq] at h
    obtain ⟨_, _, key, _, info, hinfo, rfl⟩ := h
    exact ⟨key, info, hinfo, rfl⟩

end Equilibria.ServiceNodeTx
