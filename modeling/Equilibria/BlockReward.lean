import Equilibria.ServiceNodeRules

/-!
# Block rewards

`get_block_reward` of `cryptonote_basic_impl.cpp`, and of `cryptonote_tx_utils.cpp` the
governance amounts, the service nodes' share of a reward, the payout of a portion of it, and
`get_triton_block_reward`, which splits a block's reward between governance, the winning
service node and the miner.

`size_t` is 64 bits wide, so block weights are `UInt64` and every wrap of the source's arithmetic
is modelled. The asserts of `get_block_reward` are compiled out in release builds and are not
modelled. A failed computation is `none`.
-/

namespace Equilibria.BlockReward

open CryptonoteBasic IntUtil ServiceNodeRules

/-- `MONEY_SUPPLY`. -/
def moneySupply : UInt64 := 840000000000

/-- `TRITON_SWAP`, the premine. -/
def tritonSwap : UInt64 := 107695988100

/-- `MINT_BRIDGE`. -/
def mintBridge : UInt64 := 167195840000

/-- `BURN_1`. -/
def burn1 : UInt64 := 70000000000

/-- `BURN_2`. -/
def burn2 : UInt64 := 40000000000

/-- `EMISSION_SPEED_FACTOR_PER_MINUTE`. -/
def emissionSpeedFactorPerMinute : ℕ := 20

/-- `SERVICE_NODE_VERSION`, the hard fork from which service nodes are paid. -/
def serviceNodeVersion : ℕ := 5

/-- `get_min_block_weight`: the full reward zone of a version. -/
def getMinBlockWeight (version : ℕ) : UInt64 :=
  if version < 2 then 90000
  else if version < 5 then 80000
  else 1000000

/-- `get_emission_speed_factor`. -/
def getEmissionSpeedFactor (version : ℕ) : ℕ :=
  if version ≥ 12 then emissionSpeedFactorPerMinute + 1
  else if version ≥ 6 ∧ version < 12 then emissionSpeedFactorPerMinute + 2
  else emissionSpeedFactorPerMinute

/-- `get_block_reward`: the base reward of a block of weight `currentBlockWeight` under the
median `medianWeight`; `none` for a block more than twice the median. -/
def getBlockReward (medianWeight currentBlockWeight alreadyGeneratedCoins : UInt64)
    (version : ℕ) : Option UInt64 :=
  if version = 0 then some 0
  else if medianWeight > 0 ∧ alreadyGeneratedCoins < tritonSwap ∧ version < 2 then
    some (tritonSwap / 7)
  else
    let alreadyGeneratedCoins :=
      if version > 10 ∧ version < 12 then alreadyGeneratedCoins - mintBridge + burn1
      else alreadyGeneratedCoins
    let alreadyGeneratedCoins :=
      if version > 11 then alreadyGeneratedCoins + burn2 else alreadyGeneratedCoins
    let baseReward :=
      (moneySupply - alreadyGeneratedCoins) >>> (getEmissionSpeedFactor version).toUInt64
    let baseReward := if version ≥ 9 ∧ version ≤ 10 then baseReward - coin else baseReward
    let fullRewardZone := getMinBlockWeight version
    let medianWeight := if medianWeight < fullRewardZone then fullRewardZone else medianWeight
    if currentBlockWeight ≤ medianWeight then some baseReward
    else if currentBlockWeight > 2 * medianWeight then none
    else
      let multiplicand := (2 * medianWeight - currentBlockWeight) * currentBlockWeight
      let (productLo, productHi) := mul128 baseReward multiplicand
      let (rewardHi, rewardLo, _) := div128_32 productHi productLo medianWeight.toUInt32
      let (_, rewardLo, _) := div128_32 rewardHi rewardLo medianWeight.toUInt32
      some rewardLo

/-! ## The weight penalty

For a version from 2, `get_block_reward` is a base reward that depends only on the coins
generated so far, followed by a penalty that depends only on the block's weight and the median.
The penalty multiplies in 128 bits and divides twice by the median with `div128_32`; below,
that is shown to be the single floor division by the median's square. -/

/-- The base reward `get_block_reward` computes for a version from 2, before the weight
penalty. -/
def getBaseReward (alreadyGeneratedCoins : UInt64) (version : ℕ) : UInt64 :=
  let alreadyGeneratedCoins :=
    if version > 10 ∧ version < 12 then alreadyGeneratedCoins - mintBridge + burn1
    else alreadyGeneratedCoins
  let alreadyGeneratedCoins :=
    if version > 11 then alreadyGeneratedCoins + burn2 else alreadyGeneratedCoins
  let baseReward :=
    (moneySupply - alreadyGeneratedCoins) >>> (getEmissionSpeedFactor version).toUInt64
  if version ≥ 9 ∧ version ≤ 10 then baseReward - coin else baseReward

/-- The median `get_block_reward` weighs a block against: at least the full reward zone. -/
def effectiveMedian (medianWeight : UInt64) (version : ℕ) : UInt64 :=
  let fullRewardZone := getMinBlockWeight version
  if medianWeight < fullRewardZone then fullRewardZone else medianWeight

/-- The tail of `get_block_reward` that applies the weight penalty to a base reward. -/
def weightPenalty (baseReward medianWeight currentBlockWeight : UInt64) : Option UInt64 :=
  if currentBlockWeight ≤ medianWeight then some baseReward
  else if currentBlockWeight > 2 * medianWeight then none
  else
    let multiplicand := (2 * medianWeight - currentBlockWeight) * currentBlockWeight
    let (productLo, productHi) := mul128 baseReward multiplicand
    let (rewardHi, rewardLo, _) := div128_32 productHi productLo medianWeight.toUInt32
    let (_, rewardLo, _) := div128_32 rewardHi rewardLo medianWeight.toUInt32
    some rewardLo

theorem getBlockReward_eq_weightPenalty {version : ℕ} (hv : 2 ≤ version)
    (medianWeight currentBlockWeight alreadyGeneratedCoins : UInt64) :
    getBlockReward medianWeight currentBlockWeight alreadyGeneratedCoins version =
      weightPenalty (getBaseReward alreadyGeneratedCoins version)
        (effectiveMedian medianWeight version) currentBlockWeight := by
  have h0 : version ≠ 0 := by omega
  have h2 : ¬ version < 2 := by omega
  simp only [getBlockReward, h0, h2, and_false, ↓reduceIte]
  rfl

/-- The penalty factor `(2M - W) * W` never exceeds `M^2`. -/
theorem sub_mul_le_sq (M W : ℕ) : (2 * M - W) * W ≤ M ^ 2 := by
  rcases le_total W (2 * M) with h | h
  · zify [h]
    nlinarith [sq_nonneg ((M : ℤ) - W)]
  · rw [Nat.sub_eq_zero_of_le h, Nat.zero_mul]
    exact Nat.zero_le _

/-- The penalised reward is at most the base reward. -/
theorem penalty_le (B M W : ℕ) : B * W * (2 * M - W) / M ^ 2 ≤ B := by
  apply Nat.div_le_of_le_mul
  calc B * W * (2 * M - W) = B * ((2 * M - W) * W) := by ring
    _ ≤ B * M ^ 2 := Nat.mul_le_mul_left _ (sub_mul_le_sq M W)
    _ = M ^ 2 * B := Nat.mul_comm _ _

/-- Past the median the penalty factor falls as the weight grows. -/
theorem penalty_antitone {B M W₁ W₂ : ℕ} (h1 : M ≤ W₁) (h12 : W₁ ≤ W₂) (h2 : W₂ ≤ 2 * M) :
    B * W₂ * (2 * M - W₂) / M ^ 2 ≤ B * W₁ * (2 * M - W₁) / M ^ 2 := by
  apply Nat.div_le_div_right
  rw [Nat.mul_assoc, Nat.mul_assoc]
  apply Nat.mul_le_mul_left
  zify [h2, h12.trans h2]
  -- W₁ (2M - W₁) - W₂ (2M - W₂) = (W₂ - W₁) (W₁ + W₂ - 2M)
  have hprod : (0 : ℤ) ≤ ((W₂ : ℤ) - W₁) * ((W₁ : ℤ) + W₂ - 2 * M) :=
    mul_nonneg (by linarith) (by linarith)
  nlinarith

theorem two_mul_toNat {M : UInt64} (hM : M.toNat < 2 ^ 32) : (2 * M).toNat = 2 * M.toNat := by
  have htwo : (2 : UInt64).toNat = 2 := rfl
  rw [UInt64.toNat_mul, htwo]
  omega

theorem weightPenalty_of_le {B M W : UInt64} (h : W ≤ M) : weightPenalty B M W = some B := by
  rw [weightPenalty, if_pos h]

theorem weightPenalty_of_gt {B M W : UInt64} (hM : M.toNat < 2 ^ 32)
    (h : 2 * M.toNat < W.toNat) : weightPenalty B M W = none := by
  have hgt : W > 2 * M := by rw [gt_iff_lt, UInt64.lt_iff_toNat_lt, two_mul_toNat hM]; exact h
  have hnle : ¬ W ≤ M := by rw [UInt64.le_iff_toNat_le]; omega
  rw [weightPenalty, if_neg hnle, if_pos hgt]

/-- Between the median and twice the median the two divisions by the median are one floor
division of the 128-bit product by its square, and the quotient fits the low word. -/
theorem weightPenalty_of_between {B M W : UInt64} (hM : M.toNat < 2 ^ 32) (hlt : M < W)
    (hle : W.toNat ≤ 2 * M.toNat) :
    ∃ r, weightPenalty B M W = some r ∧
      r.toNat = B.toNat * W.toNat * (2 * M.toNat - W.toNat) / M.toNat ^ 2 := by
  have hMW : M.toNat < W.toNat := UInt64.lt_iff_toNat_lt.mp hlt
  have hng : ¬ W > 2 * M := by rw [gt_iff_lt, UInt64.lt_iff_toNat_lt, two_mul_toNat hM]; omega
  have hnle : ¬ W ≤ M := by rw [UInt64.le_iff_toNat_le]; omega
  -- the multiplicand does not wrap
  have hmult : ((2 * M - W) * W).toNat = (2 * M.toNat - W.toNat) * W.toNat := by
    have hsub : (2 * M - W).toNat = 2 * M.toNat - W.toNat := by
      rw [UInt64.toNat_sub_of_le _ _ (by rw [UInt64.le_iff_toNat_le, two_mul_toNat hM]; exact hle),
        two_mul_toNat hM]
    have hfit : (2 * M.toNat - W.toNat) * W.toNat < 2 ^ 64 :=
      calc (2 * M.toNat - W.toNat) * W.toNat ≤ M.toNat ^ 2 := sub_mul_le_sq _ _
        _ < 2 ^ 32 * 2 ^ 32 := by rw [sq]; exact Nat.mul_lt_mul'' hM hM
        _ = 2 ^ 64 := by norm_num
    rw [UInt64.toNat_mul, hsub, Nat.mod_eq_of_lt hfit]
  have hM32 : M.toUInt32.toNat = M.toNat := by rw [UInt64.toNat_toUInt32]; omega
  have hd : 0 < M.toUInt32.toNat := by omega
  rw [weightPenalty, if_neg hnle, if_neg hng]
  dsimp only
  generalize hp : mul128 B ((2 * M - W) * W) = p
  obtain ⟨productLo, productHi⟩ := p
  have e1 := mul128_correct B ((2 * M - W) * W)
  rw [hp, hmult] at e1
  dsimp only at e1 ⊢
  generalize hq : div128_32 productHi productLo M.toUInt32 = q
  obtain ⟨rewardHi, rewardLo, r₁⟩ := q
  have e2 := div128_32_correct productHi productLo hd
  rw [hq, hM32] at e2
  dsimp only at e2 ⊢
  generalize hq' : div128_32 rewardHi rewardLo M.toUInt32 = q'
  obtain ⟨a, b, r₂⟩ := q'
  have e3 := div128_32_correct rewardHi rewardLo hd
  rw [hq', hM32] at e3
  dsimp only at e3 ⊢
  refine ⟨b, rfl, ?_⟩
  -- the two divisions are one by the square, whose quotient is at most the base reward
  have hquot : a.toNat * 2 ^ 64 + b.toNat =
      B.toNat * W.toNat * (2 * M.toNat - W.toNat) / M.toNat ^ 2 := by
    rw [e3.1, e2.1, e1, Nat.div_div_eq_div_mul, sq]
    congr 1
    ring
  have hB : B.toNat * W.toNat * (2 * M.toNat - W.toNat) / M.toNat ^ 2 < 2 ^ 64 :=
    lt_of_le_of_lt (penalty_le _ _ _) B.toNat_lt
  omega

/-- Growing the block never raises its reward, and a reward for the larger block means one for
the smaller. -/
theorem weightPenalty_antitone {B M W₁ W₂ r₂ : UInt64} (hM : M.toNat < 2 ^ 32) (h12 : W₁ ≤ W₂)
    (h2 : weightPenalty B M W₂ = some r₂) : ∃ r₁, weightPenalty B M W₁ = some r₁ ∧ r₂ ≤ r₁ := by
  rw [UInt64.le_iff_toNat_le] at h12
  by_cases hW₂ : W₂ ≤ M
  · -- both blocks are within the median
    rw [weightPenalty_of_le hW₂, Option.some.injEq] at h2
    have hW₁ : W₁ ≤ M := by rw [UInt64.le_iff_toNat_le] at hW₂ ⊢; omega
    subst h2
    exact ⟨B, weightPenalty_of_le hW₁, UInt64.le_iff_toNat_le.mpr le_rfl⟩
  by_cases hbig : 2 * M.toNat < W₂.toNat
  · rw [weightPenalty_of_gt hM hbig] at h2
    cases h2
  rw [UInt64.le_iff_toNat_le] at hW₂
  obtain ⟨r, hr, hrv⟩ := weightPenalty_of_between (B := B) (W := W₂) hM
    (UInt64.lt_iff_toNat_lt.mpr (by omega)) (by omega)
  rw [hr, Option.some.injEq] at h2
  subst h2
  by_cases hW₁ : W₁ ≤ M
  · -- the smaller block is within the median and gets the whole base reward
    refine ⟨B, weightPenalty_of_le hW₁, ?_⟩
    rw [UInt64.le_iff_toNat_le, hrv]
    exact penalty_le _ _ _
  · rw [UInt64.le_iff_toNat_le] at hW₁
    obtain ⟨r₁, hr₁, hrv₁⟩ := weightPenalty_of_between (B := B) (W := W₁) hM
      (UInt64.lt_iff_toNat_lt.mpr (by omega)) (by omega)
    refine ⟨r₁, hr₁, ?_⟩
    rw [UInt64.le_iff_toNat_le, hrv, hrv₁]
    exact penalty_antitone (by omega) h12 (by omega)

/-- The block-weight penalty of `get_block_reward`, for every version from 2 and every median
below `2^32`: the base reward up to the median, the base reward scaled by
`W (2M - W) / M^2` up to twice the median, no reward beyond, and so a reward that never rises
with the block's weight. -/
theorem getBlockReward_weight_penalty {version : ℕ} (hv : 2 ≤ version)
    (medianWeight alreadyGeneratedCoins : UInt64)
    (hM : (effectiveMedian medianWeight version).toNat < 2 ^ 32) :
    (∀ W, W ≤ effectiveMedian medianWeight version →
      getBlockReward medianWeight W alreadyGeneratedCoins version =
        some (getBaseReward alreadyGeneratedCoins version)) ∧
    (∀ W, effectiveMedian medianWeight version < W →
      W.toNat ≤ 2 * (effectiveMedian medianWeight version).toNat →
      ∃ r, getBlockReward medianWeight W alreadyGeneratedCoins version = some r ∧
        r.toNat = (getBaseReward alreadyGeneratedCoins version).toNat * W.toNat *
            (2 * (effectiveMedian medianWeight version).toNat - W.toNat) /
              (effectiveMedian medianWeight version).toNat ^ 2 ∧
        r ≤ getBaseReward alreadyGeneratedCoins version) ∧
    (∀ W, 2 * (effectiveMedian medianWeight version).toNat < W.toNat →
      getBlockReward medianWeight W alreadyGeneratedCoins version = none) ∧
    (∀ W₁ W₂ r₂, W₁ ≤ W₂ →
      getBlockReward medianWeight W₂ alreadyGeneratedCoins version = some r₂ →
      ∃ r₁, getBlockReward medianWeight W₁ alreadyGeneratedCoins version = some r₁ ∧
        r₂ ≤ r₁) := by
  simp only [getBlockReward_eq_weightPenalty hv]
  refine ⟨fun W hW => weightPenalty_of_le hW, fun W hlt hle => ?_,
    fun W hW => weightPenalty_of_gt hM hW, fun W₁ W₂ r₂ h12 h2 => weightPenalty_antitone hM h12 h2⟩
  obtain ⟨r, hr, hrv⟩ := weightPenalty_of_between hM hlt hle
  refine ⟨r, hr, hrv, ?_⟩
  rw [UInt64.le_iff_toNat_le, hrv]
  exact penalty_le _ _ _

/-- At version 5 with an empty chain the median is the full reward zone of a million, and a
block half as large again is paid three quarters of the base reward. -/
theorem getBlockReward_weight_penalty_v5 :
    2 ≤ 5 ∧ (effectiveMedian 0 5).toNat < 2 ^ 32 ∧
      ∃ r, getBlockReward 0 1500000 0 5 = some r ∧
        r.toNat = (getBaseReward 0 5).toNat * 1500000 *
            (2 * (effectiveMedian 0 5).toNat - 1500000) / (effectiveMedian 0 5).toNat ^ 2 ∧
        r ≤ getBaseReward 0 5 :=
  ⟨by decide, by decide,
    (@getBlockReward_weight_penalty 5 (by decide) 0 0 (by decide)).2.1 1500000 (by decide)
      (by decide)⟩

example : getBlockReward 0 1500000 0 5 = some 600814 := by decide

/-- `cryptonote::allow_governance`: the governance amount a block at `height` pays. -/
def allowGovernance (height : ℕ) : NetworkType → UInt64
  | .mainnet =>
    let forkHeight := 352846
    if height = forkHeight ∨ height = forkHeight + 21600 ∨ height = forkHeight + 2 * 21600 ∨
        height = forkHeight + 3 * 21600 ∨ height = forkHeight + 4 * 21600 ∨
        height = forkHeight + 5 * 21600 ∨ height = forkHeight + 6 * 21600 then 1000000 * coin
    else if height = 500000 then 11000000 * coin
    else if height = 663269 then mintBridge
    else if height = 800000 then burn2
    else 0
  | .testnet =>
    let forkHeight := 3750
    if height = forkHeight ∨ height = forkHeight + 216 ∨ height = forkHeight + 2 * 216 ∨
        height = forkHeight + 3 * 216 ∨ height = forkHeight + 4 * 216 ∨
        height = forkHeight + 5 * 216 ∨ height = forkHeight + 6 * 216 then 1000000 * coin
    else if height = 500000 then 11000000 * coin
    else 0
  | _ => 0

/-- `service_node_reward_formula`: the service nodes' share of a base reward. -/
def serviceNodeRewardFormula (baseReward : UInt64) (hardForkVersion : ℕ) : UInt64 :=
  if hardForkVersion > 11 then (baseReward / 4) * 3
  else if hardForkVersion ≥ serviceNodeVersion then baseReward / 2
  else 0

/-- `get_portion_of_reward`: `total_service_node_reward * portions / STAKING_PORTIONS` in
128 bits, keeping the low word of the quotient; the source computes it as `portions_to_amount`
does, with the reward in place of the staking requirement. -/
def getPortionOfReward (portions totalServiceNodeReward : UInt64) : UInt64 :=
  portionsToAmount portions totalServiceNodeReward

/-- `calculate_sum_of_portions`: the payouts of all portions, added in 64 bits. -/
def calculateSumOfPortions (portions : List (AccountPublicAddress × UInt64))
    (totalServiceNodeReward : UInt64) : UInt64 :=
  portions.foldl (fun reward p => reward + getPortionOfReward p.2 totalServiceNodeReward) 0

/-- `service_nodes::null_winner`: every portion to the null address. -/
def nullWinner : List (AccountPublicAddress × UInt64) := [(nullAddress, stakingPortions)]

/-- `block_reward_parts`. -/
structure BlockRewardParts where
  /-- `governance`. -/
  governance : UInt64
  /-- `service_node_total`: the service nodes' share. -/
  serviceNodeTotal : UInt64
  /-- `service_node_paid`: what the winner's portions pay out of that share. -/
  serviceNodePaid : UInt64
  /-- `base_miner`. -/
  baseMiner : UInt64
  /-- `base_miner_fee`. -/
  baseMinerFee : UInt64
  /-- `adjusted_base_reward`: the base reward without the governance amount. -/
  adjustedBaseReward : UInt64
  /-- `original_base_reward`. -/
  originalBaseReward : UInt64
  deriving DecidableEq, Repr

/-- `block_reward_parts::miner_reward`. -/
def BlockRewardParts.minerReward (parts : BlockRewardParts) : UInt64 :=
  parts.baseMiner + parts.baseMinerFee

/-- The fields of `miner_reward_context` that `get_triton_block_reward` reads. -/
structure MinerRewardContext where
  /-- `height`. -/
  height : ℕ
  /-- `fee`: the fees of the block's transactions. -/
  fee : UInt64
  /-- `snode_winner_info`: the winner's addresses and portions, or empty for the null winner. -/
  snodeWinnerInfo : List (AccountPublicAddress × UInt64)
  deriving DecidableEq, Repr

/-- `get_triton_block_reward`: the base reward with the governance amount on top, split into
the service nodes' share and the miner's. -/
def getTritonBlockReward (medianWeight currentBlockWeight alreadyGeneratedCoins : UInt64)
    (hardForkVersion : ℕ) (minerContext : MinerRewardContext) (nettype : NetworkType) :
    Option BlockRewardParts := do
  let baseReward ← getBlockReward medianWeight currentBlockWeight alreadyGeneratedCoins
    hardForkVersion
  let governance := if hardForkVersion ≥ 7 then allowGovernance minerContext.height nettype else 0
  let baseReward := baseReward + governance
  if baseReward = 0 then none
  if alreadyGeneratedCoins = 0 then
    return ⟨governance, 0, 0, baseReward, 0, baseReward, baseReward⟩
  let adjustedBaseReward := baseReward - governance
  let serviceNodeTotal := serviceNodeRewardFormula adjustedBaseReward hardForkVersion
  let winners := if minerContext.snodeWinnerInfo.isEmpty then nullWinner
    else minerContext.snodeWinnerInfo
  let serviceNodePaid := calculateSumOfPortions winners serviceNodeTotal
  return ⟨governance, serviceNodeTotal, serviceNodePaid, adjustedBaseReward - serviceNodeTotal,
    minerContext.fee, adjustedBaseReward, baseReward⟩

/-- What a successful `get_triton_block_reward` returns: on the first block everything goes to the
miner, afterwards the service nodes' share is taken from the reward without the governance
amount and paid by the winner's portions. -/
theorem getTritonBlockReward_eq_some {medianWeight currentBlockWeight alreadyGeneratedCoins : UInt64}
    {hardForkVersion : ℕ} {minerContext : MinerRewardContext} {nettype : NetworkType}
    {parts : BlockRewardParts}
    (h : getTritonBlockReward medianWeight currentBlockWeight alreadyGeneratedCoins hardForkVersion
      minerContext nettype = some parts) :
    let governance := if hardForkVersion ≥ 7 then allowGovernance minerContext.height nettype else 0
    ∃ baseReward, getBlockReward medianWeight currentBlockWeight alreadyGeneratedCoins
        hardForkVersion = some baseReward ∧ baseReward + governance ≠ 0 ∧
      parts = if alreadyGeneratedCoins = 0 then
          ⟨governance, 0, 0, baseReward + governance, 0, baseReward + governance,
            baseReward + governance⟩
        else
          let adjustedBaseReward := baseReward + governance - governance
          let serviceNodeTotal := serviceNodeRewardFormula adjustedBaseReward hardForkVersion
          let winners := if minerContext.snodeWinnerInfo.isEmpty then nullWinner
            else minerContext.snodeWinnerInfo
          ⟨governance, serviceNodeTotal, calculateSumOfPortions winners serviceNodeTotal,
            adjustedBaseReward - serviceNodeTotal, minerContext.fee, adjustedBaseReward,
            baseReward + governance⟩ := by
  intro governance
  simp only [getTritonBlockReward, Option.bind_eq_bind, Option.bind_eq_some_iff, Option.pure_def] at h
  obtain ⟨baseReward, hbase, h⟩ := h
  refine ⟨baseReward, hbase, ?_⟩
  -- the zero check comes first; then the two returns
  by_cases hzero : baseReward + governance = 0
  · simp only [governance] at hzero
    simp [hzero] at h
  refine ⟨hzero, ?_⟩
  simp only [governance] at hzero ⊢
  simp only [hzero, if_false] at h
  split at h <;> rename_i hagc <;> simp only [Option.some.injEq] at h <;> simp [hagc, ← h]

/-- The parts of a reward once coins have been generated: the original reward is the adjusted
one with the governance amount on top, the service nodes' share is taken from the adjusted
reward and paid by the winner's portions, and the miner gets the rest and the fee. -/
theorem getTritonBlockReward_parts {medianWeight currentBlockWeight alreadyGeneratedCoins : UInt64}
    {hardForkVersion : ℕ} {minerContext : MinerRewardContext} {nettype : NetworkType}
    {parts : BlockRewardParts}
    (h : getTritonBlockReward medianWeight currentBlockWeight alreadyGeneratedCoins hardForkVersion
      minerContext nettype = some parts) (hcoins : alreadyGeneratedCoins ≠ 0) :
    parts.governance =
        (if hardForkVersion ≥ 7 then allowGovernance minerContext.height nettype else 0) ∧
      parts.originalBaseReward = parts.adjustedBaseReward + parts.governance ∧
      parts.serviceNodeTotal = serviceNodeRewardFormula parts.adjustedBaseReward hardForkVersion ∧
      parts.serviceNodePaid = calculateSumOfPortions
        (if minerContext.snodeWinnerInfo.isEmpty then nullWinner else minerContext.snodeWinnerInfo)
        parts.serviceNodeTotal ∧
      parts.baseMiner = parts.adjustedBaseReward - parts.serviceNodeTotal ∧
      parts.baseMinerFee = minerContext.fee := by
  obtain ⟨baseReward, -, -, rfl⟩ := getTritonBlockReward_eq_some h
  simp [hcoins]

/-- The service nodes' share is at most the reward it is taken from. -/
theorem serviceNodeRewardFormula_toNat_le (baseReward : UInt64) (hardForkVersion : ℕ) :
    (serviceNodeRewardFormula baseReward hardForkVersion).toNat ≤ baseReward.toNat := by
  unfold serviceNodeRewardFormula
  split_ifs
  · -- three quarters, rounded down, of a word do not wrap
    have hquarter : (baseReward / 4).toNat = baseReward.toNat / 4 := UInt64.toNat_div _ _
    have hlt := baseReward.toNat_lt
    have hfit : baseReward.toNat / 4 * 3 < 2 ^ 64 := by omega
    have hthree : (3 : UInt64).toNat = 3 := rfl
    rw [UInt64.toNat_mul, hquarter, hthree, Nat.mod_eq_of_lt hfit]
    omega
  · rw [UInt64.toNat_div]
    exact Nat.div_le_self _ _
  · simp

/-- The winner's portions decide only what the service nodes are paid. -/
theorem getTritonBlockReward_winnerInfo {medianWeight currentBlockWeight alreadyGeneratedCoins : UInt64}
    {hardForkVersion : ℕ} {height : ℕ} {fee : UInt64}
    {info : List (AccountPublicAddress × UInt64)} {nettype : NetworkType} {parts : BlockRewardParts}
    (h : getTritonBlockReward medianWeight currentBlockWeight alreadyGeneratedCoins hardForkVersion
      ⟨height, fee, info⟩ nettype = some parts) (info' : List (AccountPublicAddress × UInt64)) :
    ∃ serviceNodePaid, getTritonBlockReward medianWeight currentBlockWeight alreadyGeneratedCoins
      hardForkVersion ⟨height, fee, info'⟩ nettype = some { parts with serviceNodePaid } := by
  obtain ⟨baseReward, hbase, hzero, rfl⟩ := getTritonBlockReward_eq_some h
  simp only [getTritonBlockReward, Option.bind_eq_bind, hbase, Option.bind_some]
  simp only at hzero
  simp only [hzero, if_false]
  split <;> simp

end Equilibria.BlockReward
