import Equilibria.MinerTx
import Equilibria.RewardSplit

/-!
# Block templates pass the node's own checks

A coinbase that `construct_miner_tx` builds for a block template, as `create_block_template`
does, into a default-constructed transaction, passes `prevalidate_miner_transaction` and
`validate_miner_transaction` at the same height, median weight, block weight, fee and
generated coins, hook included. The producer and the validator reach the same numbers along
different paths: the validator computes the reward with no winner and the hook recomputes the
service nodes' share from the adjusted reward; the producer pays governance where
`cryptonote::allow_governance` gives an amount, the validator checks it where
`Blockchain::allow_governance` says so, and every height of the second list is one of the first.

Two conditions are needed. The fee must not overflow the reward: with a fee that brings the
miner's output to `2^64 - 1`, the outputs overflow and prevalidation fails. And the winner's
record must be one the reward split can pay, as every record of a reachable list is: on a record
with a zero staking requirement the winner's portions pay out more than the service nodes'
share, and validation finds that the coinbase spends too much.
-/

namespace Equilibria.BlockTemplate

open CryptonoteBasic IntUtil ServiceNodeRules ServiceNodeState ServiceNodeList ServiceNodeRuns
  BlockReward MinerTx RewardSplit UndoLog

/-! ## The validator's checks, one by one -/

/-- The hook's output loop accepts outputs that pay each portion's share to the key derived for
its index. -/
theorem checkServiceNodeOutputs_eq_ok {menv : MinerEnv} {vout : List TxOut} {total : UInt64}
    {height : ℕ} :
    ∀ {i : ℕ} {portions : List (AccountPublicAddress × UInt64)},
      (∀ j address portion, portions[j]? = some (address, portion) → ∃ key,
        getDeterministicOutputKey menv.crypto address
          (getDeterministicKeypairFromHeight menv height) (i + j + 1) = some key ∧
        vout[i + j + 1]? = some ⟨getPortionOfReward portion total, .toKey key⟩) →
      checkServiceNodeOutputs menv vout total height i portions = .ok true
  | _, [], _ => rfl
  | i, (address, portion) :: rest, h => by
    obtain ⟨key, hkey, hout⟩ := h 0 address portion rfl
    have hrest : checkServiceNodeOutputs menv vout total height (i + 1) rest = .ok true :=
      checkServiceNodeOutputs_eq_ok fun j address' portion' hj => by
        have hindex : i + (j + 1) + 1 = i + 1 + j + 1 := by omega
        rw [← hindex]
        exact h (j + 1) address' portion' hj
    simp [checkServiceNodeOutputs, voutAt, hout, hkey, hrest, bind, Except.bind]

/-- The hook accepts a coinbase that names the winner and carries the winner's outputs after
the miner's. -/
theorem validateMinerTx_eq_ok {menv : MinerEnv} {ctx : Context} {s : ServiceNodeList}
    {tx : Transaction} {height version : ℕ} (hversion : 5 ≤ version) {parts : BlockRewardParts}
    {winners : List (AccountPublicAddress × UInt64)}
    (hwinner : getServiceNodeWinnerFromTxExtra tx.extra = selectWinner ctx s)
    (hwinners : getWinnerAddressesAndPortions ctx s height = some winners)
    (hguard : winners.length < tx.vout.length) (hsize : tx.vout.length < 2 ^ 64)
    (houts : ∀ j address portion, winners[j]? = some (address, portion) → ∃ key,
      getDeterministicOutputKey menv.crypto address
        (getDeterministicKeypairFromHeight menv height) (0 + j + 1) = some key ∧
      tx.vout[0 + j + 1]? = some ⟨getPortionOfReward portion
        (serviceNodeRewardFormula parts.adjustedBaseReward version), .toKey key⟩) :
    validateMinerTx menv ctx s tx height version parts = .ok true := by
  -- `vout.size() - 1` does not wrap: the coinbase has an output
  have hsub : (UInt64.ofNat tx.vout.length - 1).toNat = tx.vout.length - 1 := by
    rw [toNat_ofNat_sub_one hsize, if_neg (by omega)]
  have hkept : ¬ (UInt64.ofNat tx.vout.length - 1).toNat < winners.length := by
    rw [hsub]
    omega
  unfold validateMinerTx
  rw [if_neg (by omega), if_neg (by simp [hwinner]), hwinners]
  simp only [if_neg hkept]
  exact checkServiceNodeOutputs_eq_ok houts

/-- The governance check accepts outputs that end with what the producer's governance block
adds at their index. -/
theorem checkGovernanceOutput_eq_ok {menv : MinerEnv} {height version : ℕ}
    {parts : BlockRewardParts} {front outs : List TxOut}
    (hgovernance : version ≥ 7 → parts.governance = allowGovernance height menv.nettype)
    (houts : governanceOutputs menv menv.nettype (getDeterministicKeypairFromHeight menv height)
      version parts.governance front.length = some outs) :
    checkGovernanceOutput menv height version parts (front ++ outs) = .ok true := by
  unfold checkGovernanceOutput
  split
  · rename_i hcheck
    -- where the validator looks, the producer has paid the governance amount
    have hpaid : parts.governance > 0 := by
      rw [hgovernance hcheck.1, gt_iff_lt, UInt64.lt_iff_toNat_lt, UInt64.toNat_zero,
        Nat.pos_iff_ne_zero, Ne, ← UInt64.toNat_zero, UInt64.toNat_inj]
      exact allowGovernance_ne_zero hcheck.2
    rcases governanceOutputs_eq_some houts with ⟨-, -, key, hkey, rfl⟩ | ⟨hnot, -⟩
    · simp [voutBack, toKeyOf, validateGovernanceRewardKey, hkey, bind, Except.bind]
      rfl
    · exact absurd ⟨hcheck.1, hpaid⟩ hnot
  · rfl

/-- `validate_miner_transaction` accepts when the hook and the governance check do and the
outputs spend at most the reward and the fee. -/
theorem validateMinerTransaction_eq_ok {menv : MinerEnv} {ctx : Context} {s : ServiceNodeList}
    {dbHeight : ℕ} {medianWeight : UInt64} {currentVersion : ℕ} {b : Block}
    {cumulativeBlockWeight fee baseReward alreadyGeneratedCoins : UInt64} {version : ℕ}
    {rewardParts : BlockRewardParts} (hversion : version ≠ 1) (hcurrent : 2 ≤ currentVersion)
    (hparts : getTritonBlockReward medianWeight cumulativeBlockWeight alreadyGeneratedCoins version
      ⟨b.height, fee, []⟩ menv.nettype = some rewardParts)
    (hhook : validateMinerTx menv ctx s b.minerTx dbHeight version rewardParts = .ok true)
    (hgovernance : checkGovernanceOutput menv dbHeight version rewardParts b.minerTx.vout = .ok true)
    (hspent : ¬ rewardParts.originalBaseReward + fee <
      b.minerTx.vout.foldl (fun money o => money + o.amount) 0)
    (hgenerated : b.minerTx.vout.foldl (fun money o => money + o.amount) 0 - fee ≤
      rewardParts.originalBaseReward) :
    ∃ generated partialBlockReward,
      validateMinerTransaction menv ctx s dbHeight medianWeight currentVersion b
        cumulativeBlockWeight fee baseReward alreadyGeneratedCoins version =
        .ok (true, generated, partialBlockReward) := by
  simp only [validateMinerTransaction, if_neg hversion, hparts, hhook, hgovernance, bind,
    Except.bind, pure, Except.pure, Bool.not_true, Bool.false_eq_true, if_false, hspent,
    if_neg (show ¬ currentVersion < 2 by omega), hgenerated, not_true_eq_false]
  exact ⟨_, _, rfl⟩

/-! ## The coinbase of a template -/

/-- A ready winner has at most `MAX_NUMBER_OF_CONTRIBUTORS_V2` portions. -/
theorem getWinnerAddressesAndPortions_length_le {ctx : Context} {s : ServiceNodeList}
    {height : ℕ} {winners : List (AccountPublicAddress × UInt64)}
    (hready : ∀ key info, s.serviceNodesInfos.lookup key = some info → RewardReady info)
    (hw : getWinnerAddressesAndPortions ctx s height = some winners) :
    winners.length ≤ maxNumberOfContributorsV2 := by
  simp only [getWinnerAddressesAndPortions] at hw
  split at hw
  · simp only [Option.some.injEq] at hw
    simp [← hw, maxNumberOfContributorsV2]
  · obtain ⟨info, hinfo, rfl⟩ := Option.map_eq_some_iff.mp hw
    simpa [contributorPortions] using (hready _ info hinfo).stake.length_le

/-- The outputs of a coinbase built on a ready record add up, without wrapping, to the reward
and the fee less what the service nodes' share leaves unpaid. -/
theorem constructMinerTx_amounts {menv : MinerEnv} {height version : ℕ} (hversion : 5 ≤ version)
    {winners : List (AccountPublicAddress × UInt64)}
    (hsum : (winners.map fun w => w.2.toNat).sum ≤ stakingPortions.toNat)
    {medianWeight blockWeight alreadyGeneratedCoins fee : UInt64} (hcoins : alreadyGeneratedCoins ≠ 0)
    {winnerKey : PublicKey} {parts : BlockRewardParts}
    (hparts : getTritonBlockReward medianWeight blockWeight alreadyGeneratedCoins version
      ⟨height, fee, winners⟩ menv.nettype = some parts)
    (hfit : parts.adjustedBaseReward.toNat + parts.governance.toNat + fee.toNat < 2 ^ 64)
    {minerAddress : AccountPublicAddress} {tx₀ tx : Transaction} {extraNonce : List UInt8}
    {txkey : Keypair}
    (htx : constructMinerTx menv height medianWeight alreadyGeneratedCoins blockWeight fee
      minerAddress tx₀ extraNonce version ⟨menv.nettype, winnerKey, winners⟩ txkey = some tx) :
    ∃ paid, paid ≤ parts.serviceNodeTotal.toNat ∧
      parts.serviceNodeTotal.toNat ≤ parts.adjustedBaseReward.toNat ∧
      (tx.vout.map fun o => o.amount.toNat).sum =
        parts.adjustedBaseReward.toNat - parts.serviceNodeTotal.toNat + fee.toNat + paid +
          parts.governance.toNat := by
  obtain ⟨parts', minerKey, serviceNodeOuts, governanceOuts, hparts', houts, hgovernance, -, -, -,
    -, -, hvout⟩ := constructMinerTx_eq_some htx
  have hsame : parts' = parts := Option.some.inj (hparts'.symm.trans hparts)
  subst parts'
  obtain ⟨hgov, -, hT, hP, hminer, hfee⟩ := getTritonBlockReward_parts hparts hcoins
  simp only [] at hgov hP hfee
  -- the service nodes' outputs pay the winner's portions, or the null winner's
  have hinfoSum : ((if winners.isEmpty then nullWinner else winners).map
      fun w => w.2.toNat).sum ≤ stakingPortions.toNat := by
    split
    · simp [nullWinner]
    · exact hsum
  have houts' : serviceNodeOutputs menv.crypto (getDeterministicKeypairFromHeight menv height)
      parts.serviceNodeTotal 0 (if winners.isEmpty then nullWinner else winners) =
      some serviceNodeOuts := by
    simpa [serviceNodeRewardOutputs, show version ≥ serviceNodeVersion from hversion] using houts
  have hpaid := (calculateSumOfPortions_toNat hinfoSum parts.serviceNodeTotal).2
  have hserviceNodes : (serviceNodeOuts.map fun o => o.amount.toNat).sum =
      ((if winners.isEmpty then nullWinner else winners).map
        fun w => (getPortionOfReward w.2 parts.serviceNodeTotal).toNat).sum := by
    have hamounts := congrArg (List.map UInt64.toNat) (serviceNodeOutputs_map_amount houts')
    simp only [List.map_map] at hamounts
    exact congrArg List.sum hamounts
  -- the governance output pays the governance amount, and is left out only when it is zero
  have hgovernanceSum : (governanceOuts.map fun o => o.amount.toNat).sum = parts.governance.toNat := by
    rcases governanceOutputs_eq_some hgovernance with ⟨-, -, key, -, rfl⟩ | ⟨hnot, rfl⟩
    · simp
    · by_cases h7 : version ≥ 7
      · have hzero : ¬ parts.governance > 0 := fun hpos => hnot ⟨h7, hpos⟩
        rw [gt_iff_lt, UInt64.lt_iff_toNat_lt, UInt64.toNat_zero] at hzero
        simp only [List.map_nil, List.sum_nil]
        omega
      · rw [hgov, if_neg h7]
        rfl
  have hTA := serviceNodeRewardFormula_toNat_le parts.adjustedBaseReward version
  rw [← hT] at hTA
  have hminer' : parts.minerReward.toNat =
      parts.adjustedBaseReward.toNat - parts.serviceNodeTotal.toNat + fee.toNat := by
    have hsub : (parts.adjustedBaseReward - parts.serviceNodeTotal).toNat =
        parts.adjustedBaseReward.toNat - parts.serviceNodeTotal.toNat :=
      UInt64.toNat_sub_of_le _ _ (UInt64.le_iff_toNat_le.mpr hTA)
    rw [BlockRewardParts.minerReward, hminer, hfee, toNat_add_of_lt (by omega), hsub]
  refine ⟨_, hpaid, hTA, ?_⟩
  rw [hvout, List.map_append, List.sum_append, List.map_cons, List.sum_cons, hserviceNodes,
    hgovernanceSum, hminer']

/-- A coinbase built for a block template at a height from hard fork 5 on, once coins have been
generated, passes prevalidation and validation at that height, when the winner's record is
ready to be paid and the fee does not overflow the reward. -/
theorem constructMinerTx_passes_checks {menv : MinerEnv} {ctx : Context} {s : ServiceNodeList}
    (hready : ∀ key info, s.serviceNodesInfos.lookup key = some info → RewardReady info)
    {height version : ℕ} (hheight : 1 ≤ height) (hversion : 5 ≤ version)
    {winners : List (AccountPublicAddress × UInt64)}
    (hwinners : getWinnerAddressesAndPortions ctx s height = some winners)
    {medianWeight blockWeight alreadyGeneratedCoins fee : UInt64} (hcoins : alreadyGeneratedCoins ≠ 0)
    {parts : BlockRewardParts}
    (hparts : getTritonBlockReward medianWeight blockWeight alreadyGeneratedCoins version
      ⟨height, fee, winners⟩ menv.nettype = some parts)
    (hfit : parts.adjustedBaseReward.toNat + parts.governance.toNat + fee.toNat < 2 ^ 64)
    {minerAddress : AccountPublicAddress} {extraNonce : List UInt8} {txkey : Keypair}
    {tx : Transaction}
    (htx : constructMinerTx menv height medianWeight alreadyGeneratedCoins blockWeight fee
      minerAddress defaultTransaction extraNonce version ⟨menv.nettype, selectWinner ctx s, winners⟩
      txkey = some tx)
    (timestamp : UInt64) (prevId : Hash) (baseReward : UInt64) :
    prevalidateMinerTransaction ⟨height, timestamp, prevId, tx⟩ height version = true ∧
      ∃ generated partialBlockReward,
        validateMinerTransaction menv ctx s height medianWeight version ⟨height, timestamp, prevId, tx⟩
          blockWeight fee baseReward alreadyGeneratedCoins version =
          .ok (true, generated, partialBlockReward) := by
  have hsum := getWinnerAddressesAndPortions_sum_le hready hwinners
  obtain ⟨paid, hpaid, hTA, hamounts⟩ :=
    constructMinerTx_amounts hversion hsum hcoins hparts hfit htx
  obtain ⟨parts', minerKey, serviceNodeOuts, governanceOuts, hparts', houts, hgovernance, hvin,
    hunlock, hver, hrct, hwinner, hvout⟩ := constructMinerTx_eq_some htx
  have hsame : parts' = parts := Option.some.inj (hparts'.symm.trans hparts)
  subst parts'
  obtain ⟨hgov, horiginal, hT, -, -, -⟩ := getTritonBlockReward_parts hparts hcoins
  -- the outputs add up to at most the reward and the fee, without wrapping
  have hfits : (tx.vout.map fun o => o.amount.toNat).sum < 2 ^ 64 := by omega
  have hmoney := foldl_amount_toNat hfits
  have horiginal' : parts.originalBaseReward.toNat =
      parts.adjustedBaseReward.toNat + parts.governance.toNat := by
    rw [horiginal, toNat_add_of_lt (by omega)]
  constructor
  · -- the prevalidation: one `txin_gen` at the height, version 3, the unlock time, no overflow
    have hcheck := (checkOutsOverflow_eq_true_iff tx).mpr hfits
    simp [prevalidateMinerTransaction, hvin, hunlock, hver, hrct, hcheck, defaultTransaction,
      serviceNodeVersion, show height ≠ 0 by omega, hversion]
  · -- the validator computes the same reward, paying no winner
    obtain ⟨paid', hvalidator⟩ := getTritonBlockReward_winnerInfo hparts []
    have houts' : serviceNodeOutputs menv.crypto (getDeterministicKeypairFromHeight menv height)
        parts.serviceNodeTotal 0 (if winners.isEmpty then nullWinner else winners) =
        some serviceNodeOuts := by
      simpa [serviceNodeRewardOutputs, show version ≥ serviceNodeVersion from hversion] using houts
    obtain ⟨hlength, hentries⟩ := serviceNodeOutputs_eq_some houts'
    have hlengthWinners := getWinnerAddressesAndPortions_length_le hready hwinners
    have hgovernanceLength : governanceOuts.length ≤ 1 := by
      rcases governanceOutputs_eq_some hgovernance with ⟨-, -, -, -, rfl⟩ | ⟨-, rfl⟩ <;> simp
    have hvoutLength : tx.vout.length = serviceNodeOuts.length + 1 + governanceOuts.length := by
      simp only [hvout, List.length_append, List.length_cons]
    have hinfoLength : winners.length ≤ serviceNodeOuts.length ∧
        serviceNodeOuts.length ≤ winners.length + 1 := by
      rw [hlength]
      cases winners with
      | nil => simp [nullWinner]
      | cons w ws => simp
    -- the winner's outputs sit at indices `1 + j`
    have hhook : validateMinerTx menv ctx s tx height version
        { parts with serviceNodePaid := paid' } = .ok true := by
      refine validateMinerTx_eq_ok hversion (by simpa using hwinner) hwinners ?_ ?_ ?_
      · omega
      · simp only [maxNumberOfContributorsV2] at hlengthWinners
        omega
      · intro j address portions hj
        have hnonempty : winners.isEmpty = false := by
          cases winners with
          | nil => simp at hj
          | cons _ _ => rfl
        obtain ⟨key, hkey, hout⟩ := hentries j address portions (by simpa [hnonempty] using hj)
        have hj' : j < serviceNodeOuts.length := (List.getElem?_eq_some_iff.mp hout).1
        refine ⟨key, by rw [← hkey]; congr 1; omega, ?_⟩
        rw [← hT, hvout, List.getElem?_append_left (by simp; omega)]
        simpa using hout
    have hgovernanceCheck : checkGovernanceOutput menv height version
        { parts with serviceNodePaid := paid' } tx.vout = .ok true := by
      rw [hvout]
      refine checkGovernanceOutput_eq_ok (fun h7 => by simpa [if_pos h7] using hgov) ?_
      simpa using hgovernance
    refine validateMinerTransaction_eq_ok (by omega) (by omega) hvalidator hhook hgovernanceCheck
      ?_ ?_
    · rw [UInt64.lt_iff_toNat_lt, hmoney, toNat_add_of_lt (by simp only []; omega)]
      simp only []
      omega
    · rw [UInt64.le_iff_toNat_le, UInt64.toNat_sub_of_le _ _ (UInt64.le_iff_toNat_le.mpr
        (by rw [hmoney]; omega)), hmoney]
      simp only []
      omega

/-- In every reachable list the coinbase of a block template passes the node's checks when the
fee does not overflow the reward, given a positive staking requirement at every height. -/
theorem reachable_constructMinerTx_passes_checks {env : Env}
    (hsr : ∀ height, 0 < (getStakingRequirement env.exp2 env.nettype height).toNat)
    {menv : MinerEnv} {ctx : Context} {s : ServiceNodeList} (hs : Reachable env s)
    {height version : ℕ} (hheight : 1 ≤ height) (hversion : 5 ≤ version)
    {winners : List (AccountPublicAddress × UInt64)}
    (hwinners : getWinnerAddressesAndPortions ctx s height = some winners)
    {medianWeight blockWeight alreadyGeneratedCoins fee : UInt64} (hcoins : alreadyGeneratedCoins ≠ 0)
    {parts : BlockRewardParts}
    (hparts : getTritonBlockReward medianWeight blockWeight alreadyGeneratedCoins version
      ⟨height, fee, winners⟩ menv.nettype = some parts)
    (hfit : parts.adjustedBaseReward.toNat + parts.governance.toNat + fee.toNat < 2 ^ 64)
    {minerAddress : AccountPublicAddress} {extraNonce : List UInt8} {txkey : Keypair}
    {tx : Transaction}
    (htx : constructMinerTx menv height medianWeight alreadyGeneratedCoins blockWeight fee
      minerAddress defaultTransaction extraNonce version ⟨menv.nettype, selectWinner ctx s, winners⟩
      txkey = some tx)
    (timestamp : UInt64) (prevId : Hash) (baseReward : UInt64) :
    prevalidateMinerTransaction ⟨height, timestamp, prevId, tx⟩ height version = true ∧
      ∃ generated partialBlockReward,
        validateMinerTransaction menv ctx s height medianWeight version ⟨height, timestamp, prevId, tx⟩
          blockWeight fee baseReward alreadyGeneratedCoins version =
          .ok (true, generated, partialBlockReward) :=
  constructMinerTx_passes_checks ((rewardRecordRule hsr).reachable hs).infos hheight hversion
    hwinners hcoins hparts hfit htx timestamp prevId baseReward

/-! ## Templates on the grace run -/

/-- A miner on the fake chain of the grace run, whose wallets are the null address. -/
def graceMinerEnv : MinerEnv :=
  ⟨.fakechain, graceCrypto, fun _ => ⟨3⟩, fun _ => nullAddress, fun _ => nullAddress⟩

/-- The key pair the templates' coinbases draw. -/
def templateTxKey : Keypair := ⟨⟨5⟩, ⟨6⟩⟩

/-- The winner's portions for the block at height 130 on the grace run. -/
def templateWinners : List (AccountPublicAddress × UInt64) :=
  (getWinnerAddressesAndPortions graceContext graceState 130).get (by decide +kernel)

/-- The reward of that block, empty, with one coin generated and no fee. -/
def templateParts : BlockRewardParts :=
  (getTritonBlockReward 0 0 1 5 ⟨130, 0, templateWinners⟩ graceMinerEnv.nettype).get
    (by decide +kernel)

/-- Its coinbase, paying `contributor`, with no extra nonce. -/
def templateCoinbase : Transaction :=
  (constructMinerTx graceMinerEnv 130 0 1 0 0 contributor defaultTransaction [] 5
    ⟨graceMinerEnv.nettype, selectWinner graceContext graceState, templateWinners⟩
    templateTxKey).get (by decide +kernel)

theorem templateCoinbase_passes_checks :
    (∀ key info, graceState.serviceNodesInfos.lookup key = some info → RewardReady info) ∧
      1 ≤ 130 ∧ 5 ≤ 5 ∧
      getWinnerAddressesAndPortions graceContext graceState 130 = some templateWinners ∧
      (1 : UInt64) ≠ 0 ∧
      getTritonBlockReward 0 0 1 5 ⟨130, 0, templateWinners⟩ graceMinerEnv.nettype =
        some templateParts ∧
      templateParts.adjustedBaseReward.toNat + templateParts.governance.toNat +
        (0 : UInt64).toNat < 2 ^ 64 ∧
      constructMinerTx graceMinerEnv 130 0 1 0 0 contributor defaultTransaction [] 5
        ⟨graceMinerEnv.nettype, selectWinner graceContext graceState, templateWinners⟩
        templateTxKey = some templateCoinbase ∧
      prevalidateMinerTransaction ⟨130, 0, nullHash, templateCoinbase⟩ 130 5 = true ∧
      ∃ generated partialBlockReward,
        validateMinerTransaction graceMinerEnv graceContext graceState 130 0 5
          ⟨130, 0, nullHash, templateCoinbase⟩ 0 0 0 1 5 =
          .ok (true, generated, partialBlockReward) := by
  have hready := ((rewardRecordRule graceEnv_stakingRequirement_pos).reachable
    graceState_inStepReachable.reachable).infos
  have hwinners : getWinnerAddressesAndPortions graceContext graceState 130 =
      some templateWinners := Option.eq_some_of_isSome _
  have hparts : getTritonBlockReward 0 0 1 5 ⟨130, 0, templateWinners⟩ graceMinerEnv.nettype =
      some templateParts := Option.eq_some_of_isSome _
  have hfit : templateParts.adjustedBaseReward.toNat + templateParts.governance.toNat +
      (0 : UInt64).toNat < 2 ^ 64 := by decide +kernel
  have htx : constructMinerTx graceMinerEnv 130 0 1 0 0 contributor defaultTransaction [] 5
      ⟨graceMinerEnv.nettype, selectWinner graceContext graceState, templateWinners⟩
      templateTxKey = some templateCoinbase := Option.eq_some_of_isSome _
  exact ⟨hready, by decide, by decide, hwinners, by decide, hparts, hfit, htx,
    constructMinerTx_passes_checks hready (by decide) (by decide) hwinners (by decide) hparts hfit
      htx 0 nullHash 0⟩

/-- The fee that brings the template's miner output to `2^64 - 1`. -/
def hugeFee : UInt64 := 18446744073709151072

/-- The template's coinbase with that fee. -/
def hugeFeeCoinbase : Transaction :=
  (constructMinerTx graceMinerEnv 130 0 1 0 hugeFee contributor defaultTransaction [] 5
    ⟨graceMinerEnv.nettype, selectWinner graceContext graceState, templateWinners⟩
    templateTxKey).get (by decide +kernel)

/-- The grace run's list with the winner's record given a zero staking requirement and a second
contributor, who has staked nothing. -/
def zeroRequirementState : ServiceNodeList :=
  { graceState with
    serviceNodesInfos := graceState.serviceNodesInfos.insert nodeKey
      { StakeAccounting.graceRecord with
        stakingRequirement := 0
        contributors := StakeAccounting.graceRecord.contributors ++ [⟨0, 0, ⟨⟨21⟩, ⟨22⟩⟩⟩] } }

/-- The winner's portions on that list: the divisions by zero give every contributor a whole
word. -/
def zeroRequirementWinners : List (AccountPublicAddress × UInt64) :=
  (getWinnerAddressesAndPortions graceContext zeroRequirementState 130).get (by decide +kernel)

/-- The template's coinbase on that list, with no fee. -/
def zeroRequirementCoinbase : Transaction :=
  (constructMinerTx graceMinerEnv 130 0 1 0 0 contributor defaultTransaction [] 5
    ⟨graceMinerEnv.nettype, selectWinner graceContext zeroRequirementState, zeroRequirementWinners⟩
    templateTxKey).get (by decide +kernel)

theorem unboundedTemplate_fails_checks :
    InStepReachable graceEnv graceState ∧
      getTritonBlockReward 0 0 1 5 ⟨130, hugeFee, templateWinners⟩ graceMinerEnv.nettype ≠ none ∧
      constructMinerTx graceMinerEnv 130 0 1 0 hugeFee contributor defaultTransaction [] 5
        ⟨graceMinerEnv.nettype, selectWinner graceContext graceState, templateWinners⟩
        templateTxKey = some hugeFeeCoinbase ∧
      prevalidateMinerTransaction ⟨130, 0, nullHash, hugeFeeCoinbase⟩ 130 5 = false ∧
      getWinnerAddressesAndPortions graceContext zeroRequirementState 130 =
        some zeroRequirementWinners ∧
      constructMinerTx graceMinerEnv 130 0 1 0 0 contributor defaultTransaction [] 5
        ⟨graceMinerEnv.nettype, selectWinner graceContext zeroRequirementState,
          zeroRequirementWinners⟩ templateTxKey = some zeroRequirementCoinbase ∧
      prevalidateMinerTransaction ⟨130, 0, nullHash, zeroRequirementCoinbase⟩ 130 5 = true ∧
      validateMinerTransaction graceMinerEnv graceContext zeroRequirementState 130 0 5
        ⟨130, 0, nullHash, zeroRequirementCoinbase⟩ 0 0 0 1 5 = .ok (false, 801086, false) :=
  ⟨graceState_inStepReachable, by decide +kernel, Option.eq_some_of_isSome _, by decide +kernel,
    Option.eq_some_of_isSome _, Option.eq_some_of_isSome _, by decide +kernel, by decide +kernel⟩

end Equilibria.BlockTemplate
