import Equilibria.BlockReward
import Equilibria.StakeAccounting

/-!
# The reward split never over-pays

A block's winner is paid by portions: each contributor gets the share of the portions left by
the operator that its stake is of the staking requirement, rounded down, and the contributor at
the operator's address gets the operator's portions on top. On a record whose stakes are
accounted, whose staking requirement is positive and whose operator portions are within
`STAKING_PORTIONS`, none of this wraps, and since the operator's address appears once the
portions add up to at most `STAKING_PORTIONS`. A portion `p` of a reward `T` pays
`⌊T * p / STAKING_PORTIONS⌋`, so such portions pay out at most `T` in all, without wrapping, and
the service nodes are never paid more than their share of a block's reward.

Registrations create such records, given a positive staking requirement, and nothing later
changes their terms, so every record of every reachable list is one.
-/

namespace Equilibria.RewardSplit

open CryptonoteBasic IntUtil FloorSum ServiceNodeRules ServiceNodeState ServiceNodeTx
  ServiceNodeList ServiceNodeRuns RecordInvariant StakeAccounting BlockReward UndoLog

/-- The terms of a registration that the reward split needs. -/
structure RewardTerms (info : ServiceNodeInfo) : Prop where
  /-- The staking requirement, the divisor of every share, is positive. -/
  stakingRequirement_pos : 0 < info.stakingRequirement.toNat
  /-- The operator's portions are within a whole stake. -/
  portionsForOperator_le : info.portionsForOperator ≤ stakingPortions
  /-- So are the operator's portions without the fee. -/
  portionsForOperatorNoFee_le : info.portionsForOperatorNoFee ≤ stakingPortions

instance (info : ServiceNodeInfo) : Decidable (RewardTerms info) :=
  decidable_of_iff
    (0 < info.stakingRequirement.toNat ∧ info.portionsForOperator ≤ stakingPortions ∧
      info.portionsForOperatorNoFee ≤ stakingPortions)
    ⟨fun ⟨h₁, h₂, h₃⟩ => ⟨h₁, h₂, h₃⟩, fun h => ⟨h.1, h.2, h.3⟩⟩

/-- A record whose winnings the split can pay out. -/
structure RewardReady (info : ServiceNodeInfo) : Prop where
  /-- The stakes are accounted. -/
  stake : StakeInvariant info
  /-- The terms are within bounds. -/
  terms : RewardTerms info

instance (info : ServiceNodeInfo) : Decidable (RewardReady info) :=
  decidable_of_iff (StakeInvariant info ∧ RewardTerms info)
    ⟨fun ⟨h₁, h₂⟩ => ⟨h₁, h₂⟩, fun h => ⟨h.1, h.2⟩⟩

example : ¬ RewardReady ServiceNodeInfo.empty := by decide

variable {info : ServiceNodeInfo}

/-! ## The portions of a winner -/

theorem operatorPortionsOf_le (h : RewardTerms info) (hfVersion : ℕ) :
    (operatorPortionsOf hfVersion info).toNat ≤ stakingPortions.toNat := by
  apply UInt64.le_iff_toNat_le.mp
  unfold operatorPortionsOf
  split_ifs
  · exact h.portionsForOperator_le
  · exact h.portionsForOperator_le
  · exact h.portionsForOperatorNoFee_le

/-- The portions of a winner are exact: the floor of each contributor's share of what the
operator leaves, and the operator's portions on top at the operator's address. -/
theorem contributorPortions_toNat (h : RewardReady info) (hfVersion : ℕ) :
    (contributorPortions hfVersion info).map (fun w => w.2.toNat) =
      info.contributors.map fun c =>
        c.amount.toNat * (stakingPortions.toNat - (operatorPortionsOf hfVersion info).toNat) /
            info.stakingRequirement.toNat +
          if c.address = info.operatorAddress then (operatorPortionsOf hfVersion info).toNat
          else 0 := by
  have hop := operatorPortionsOf_le h.terms hfVersion
  have hremaining : (stakingPortions - operatorPortionsOf hfVersion info).toNat =
      stakingPortions.toNat - (operatorPortionsOf hfVersion info).toNat :=
    UInt64.toNat_sub_of_le _ _ (UInt64.le_iff_toNat_le.mpr hop)
  simp only [contributorPortions, List.map_map]
  refine List.map_congr_left fun c hc => ?_
  have hamount : c.amount.toNat ≤ info.stakingRequirement.toNat :=
    le_trans (List.le_sum_of_mem (List.mem_map.mpr ⟨c, hc, rfl⟩)) h.stake.sum_amounts_le
  -- the share is at most the portions left, so its quotient fits in a word
  have hshare_le : c.amount.toNat * (stakingPortions.toNat -
      (operatorPortionsOf hfVersion info).toNat) / info.stakingRequirement.toNat ≤
      stakingPortions.toNat - (operatorPortionsOf hfVersion info).toNat :=
    Nat.div_le_of_le_mul (Nat.mul_le_mul_right _ hamount)
  have hshare := mulDiv_correct c.amount (stakingPortions - operatorPortionsOf hfVersion info)
    info.stakingRequirement h.terms.stakingRequirement_pos
    (by rw [hremaining]; exact lt_of_le_of_lt hshare_le (lt_of_le_of_lt (Nat.sub_le _ _)
      stakingPortions.toNat_lt))
  rw [hremaining] at hshare
  simp only [Function.comp_apply]
  split_ifs
  · have hSP := stakingPortions.toNat_lt
    rw [toNat_add_of_lt (by rw [hshare]; omega), hshare]
  · exact hshare

/-- The portions of a winner add up to at most `STAKING_PORTIONS`. -/
theorem contributorPortions_sum_le (h : RewardReady info) (hfVersion : ℕ) :
    ((contributorPortions hfVersion info).map fun w => w.2.toNat).sum ≤ stakingPortions.toNat := by
  rw [contributorPortions_toNat h hfVersion]
  exact sum_map_split_le info.contributors (fun c => c.amount.toNat) Contribution.address
    info.operatorAddress h.stake.addresses_nodup h.stake.sum_amounts_le
    (operatorPortionsOf_le h.terms hfVersion)

/-- The winner's portions, or the null winner's whole stake, add up to at most
`STAKING_PORTIONS` once every record is ready to be paid. -/
theorem getWinnerAddressesAndPortions_sum_le {ctx : Context} {s : ServiceNodeList} {height : ℕ}
    {winners : List (AccountPublicAddress × UInt64)}
    (hready : ∀ key info, s.serviceNodesInfos.lookup key = some info → RewardReady info)
    (hw : getWinnerAddressesAndPortions ctx s height = some winners) :
    (winners.map fun w => w.2.toNat).sum ≤ stakingPortions.toNat := by
  simp only [getWinnerAddressesAndPortions] at hw
  split at hw
  · simp only [Option.some.injEq] at hw
    simp [← hw]
  · obtain ⟨info, hinfo, rfl⟩ := Option.map_eq_some_iff.mp hw
    exact contributorPortions_sum_le (hready _ info hinfo) _

/-! ## Paying out portions -/

/-- A portion within a whole stake pays the floor of its share of the reward. -/
theorem getPortionOfReward_toNat {portions : UInt64}
    (h : portions.toNat ≤ stakingPortions.toNat) (total : UInt64) :
    (getPortionOfReward portions total).toNat =
      total.toNat * portions.toNat / stakingPortions.toNat :=
  portionsToAmount_toNat portions total h

/-- Portions adding up to at most `STAKING_PORTIONS` pay out at most the reward, and the 64-bit
sum of the payouts is their exact sum. -/
theorem calculateSumOfPortions_toNat {portions : List (AccountPublicAddress × UInt64)}
    (h : (portions.map fun w => w.2.toNat).sum ≤ stakingPortions.toNat) (total : UInt64) :
    (calculateSumOfPortions portions total).toNat =
        (portions.map fun w => (getPortionOfReward w.2 total).toNat).sum ∧
      (portions.map fun w => (getPortionOfReward w.2 total).toNat).sum ≤ total.toNat := by
  have hpay : (portions.map fun w => (getPortionOfReward w.2 total).toNat) =
      portions.map fun w => total.toNat * w.2.toNat / stakingPortions.toNat :=
    List.map_congr_left fun w hw =>
      getPortionOfReward_toNat (le_trans (List.le_sum_of_mem (List.mem_map.mpr ⟨w, hw, rfl⟩)) h) total
  have hle : (portions.map fun w => (getPortionOfReward w.2 total).toNat).sum ≤ total.toNat := by
    rw [hpay]
    exact sum_map_mul_div_le_of_sum_le portions (fun w => w.2.toNat) total.toNat _ h
  have hsum := toNat_foldl_add (fun w : AccountPublicAddress × UInt64 => getPortionOfReward w.2 total)
    portions 0 (by rw [UInt64.toNat_zero, Nat.zero_add]; exact lt_of_le_of_lt hle total.toNat_lt)
  rw [UInt64.toNat_zero, Nat.zero_add] at hsum
  unfold calculateSumOfPortions
  exact ⟨hsum, hle⟩

theorem calculateSumOfPortions_le {portions : List (AccountPublicAddress × UInt64)}
    (h : (portions.map fun w => w.2.toNat).sum ≤ stakingPortions.toNat) (total : UInt64) :
    calculateSumOfPortions portions total ≤ total := by
  obtain ⟨heq, hle⟩ := calculateSumOfPortions_toNat h total
  exact UInt64.le_iff_toNat_le.mpr (heq ▸ hle)

/-- The service nodes are paid at most their share when the winner's portions are within a whole
stake; the null winner's are. -/
theorem getTritonBlockReward_paid_le {medianWeight currentBlockWeight alreadyGeneratedCoins : UInt64}
    {hardForkVersion : ℕ} {minerContext : MinerRewardContext} {nettype : NetworkType}
    {parts : BlockRewardParts}
    (hw : (minerContext.snodeWinnerInfo.map fun w => w.2.toNat).sum ≤ stakingPortions.toNat)
    (h : getTritonBlockReward medianWeight currentBlockWeight alreadyGeneratedCoins hardForkVersion
      minerContext nettype = some parts) :
    parts.serviceNodePaid ≤ parts.serviceNodeTotal := by
  obtain ⟨baseReward, -, -, rfl⟩ := getTritonBlockReward_eq_some h
  split
  · exact UInt64.le_refl 0
  · apply calculateSumOfPortions_le
    split
    · decide
    · exact hw

/-- The reward split never over-pays: the winner's portions add up to at most
`STAKING_PORTIONS`, their payouts out of any reward add up, without wrapping, to at most that
reward, and the service nodes are paid at most their share of a block's reward. -/
theorem winnerPortions_never_overpay {ctx : Context} {s : ServiceNodeList} {height : ℕ}
    {winners : List (AccountPublicAddress × UInt64)}
    (hready : ∀ key info, s.serviceNodesInfos.lookup key = some info → RewardReady info)
    (hw : getWinnerAddressesAndPortions ctx s height = some winners) :
    (winners.map fun w => w.2.toNat).sum ≤ stakingPortions.toNat ∧
      (∀ total, (calculateSumOfPortions winners total).toNat =
          (winners.map fun w => (getPortionOfReward w.2 total).toNat).sum ∧
        calculateSumOfPortions winners total ≤ total) ∧
      ∀ medianWeight currentBlockWeight alreadyGeneratedCoins hardForkVersion fee nettype parts,
        getTritonBlockReward medianWeight currentBlockWeight alreadyGeneratedCoins
          hardForkVersion ⟨height, fee, winners⟩ nettype = some parts →
        parts.serviceNodePaid ≤ parts.serviceNodeTotal := by
  have hsum := getWinnerAddressesAndPortions_sum_le hready hw
  refine ⟨hsum, fun total => ⟨(calculateSumOfPortions_toNat hsum total).1,
    calculateSumOfPortions_le hsum total⟩, ?_⟩
  intro _ _ _ _ _ _ _ h
  exact getTritonBlockReward_paid_le hsum h

/-! ## Every reachable record is ready to be paid -/

section Reachable

variable {env : Env}
  (hsr : ∀ height, 0 < (getStakingRequirement env.exp2 env.nettype height).toNat)
include hsr

/-- Registrations fix terms within bounds, and nothing later changes them. -/
theorem rewardTermsRule : RecordRule env RewardTerms := by
  refine RecordRule.of_sameTerms (fun ctx _ _ blockHeight _ _ info h => ?_)
    fun info info' hsame h => ?_
  · obtain ⟨f, -, -, -, -, -, hop, -, hsr', -, -, -, -, -, hpo, hnofee, -⟩ :=
      isRegistrationTx_eq_some env ctx h
    exact ⟨hsr' ▸ hsr blockHeight, hpo ▸ hop, hnofee ▸ UInt64.zero_le⟩
  · exact ⟨hsame.stakingRequirement ▸ h.stakingRequirement_pos,
      hsame.portionsForOperator ▸ h.portionsForOperator_le,
      hsame.portionsForOperatorNoFee ▸ h.portionsForOperatorNoFee_le⟩

theorem rewardRecordRule : RecordRule env RewardReady :=
  (stakeRecordRule env).both (rewardTermsRule hsr) fun _ =>
    ⟨fun h => ⟨h.stake, h.terms⟩, fun h => ⟨h.1, h.2⟩⟩

/-- In every reachable list the service nodes are paid at most their share of any block's
reward. -/
theorem reachable_paid_le {ctx : Context} {s : ServiceNodeList} (hs : Reachable env s)
    {height : ℕ} {winners : List (AccountPublicAddress × UInt64)}
    (hw : getWinnerAddressesAndPortions ctx s height = some winners)
    {medianWeight currentBlockWeight alreadyGeneratedCoins : UInt64} {hardForkVersion : ℕ}
    {fee : UInt64} {nettype : NetworkType} {parts : BlockRewardParts}
    (h : getTritonBlockReward medianWeight currentBlockWeight alreadyGeneratedCoins
      hardForkVersion ⟨height, fee, winners⟩ nettype = some parts) :
    parts.serviceNodePaid ≤ parts.serviceNodeTotal :=
  getTritonBlockReward_paid_le
    (getWinnerAddressesAndPortions_sum_le ((rewardRecordRule hsr).reachable hs).infos hw) h

end Reachable

/-- The staking requirement off the main network is a fixed positive amount. -/
theorem graceEnv_stakingRequirement_pos (height : ℕ) :
    0 < (getStakingRequirement graceEnv.exp2 graceEnv.nettype height).toNat := by
  simp [getStakingRequirement, graceEnv, coin]

/-- The portions the grace run's winner is paid by. -/
def graceWinners : List (AccountPublicAddress × UInt64) :=
  (getWinnerAddressesAndPortions graceContext graceState graceState.height).get (by decide +kernel)

theorem graceWinners_never_overpay :
    (∀ key info, graceState.serviceNodesInfos.lookup key = some info → RewardReady info) ∧
      getWinnerAddressesAndPortions graceContext graceState graceState.height =
        some graceWinners ∧
      (graceWinners.map fun w => w.2.toNat).sum ≤ stakingPortions.toNat ∧
      (∀ total, (calculateSumOfPortions graceWinners total).toNat =
          (graceWinners.map fun w => (getPortionOfReward w.2 total).toNat).sum ∧
        calculateSumOfPortions graceWinners total ≤ total) ∧
      ∀ medianWeight currentBlockWeight alreadyGeneratedCoins hardForkVersion fee nettype parts,
        getTritonBlockReward medianWeight currentBlockWeight alreadyGeneratedCoins
          hardForkVersion ⟨graceState.height, fee, graceWinners⟩ nettype = some parts →
        parts.serviceNodePaid ≤ parts.serviceNodeTotal := by
  have hready := ((rewardRecordRule graceEnv_stakingRequirement_pos).reachable
    graceState_inStepReachable.reachable).infos
  have hw : getWinnerAddressesAndPortions graceContext graceState graceState.height =
      some graceWinners := Option.eq_some_of_isSome _
  exact ⟨hready, hw, winnerPortions_never_overpay hready hw⟩

end Equilibria.RewardSplit
