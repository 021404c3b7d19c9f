import Equilibria.CryptonoteBasic

/-!
# Blockchain pruning stripes

`common/pruning.h` and `common/pruning.cpp`: a pruned node keeps the prunable data of the blocks of
one stripe out of `2 ^ log_stripes`, stripes being runs of `CRYPTONOTE_PRUNING_STRIPE_SIZE` heights
taken in turn, and of every block within `CRYPTONOTE_PRUNING_TIP_BLOCKS` of the tip. A pruning
seed packs the stripe (`1` to `128`) and the log of the number of stripes into a `uint32_t`; the seed
`0` keeps everything.

The functions are modelled on the fixed-width types of the source. `get_pruning_stripe` is
overloaded there, on a seed and on a height; the height overload is `getBlockPruningStripe` here.

`get_next_unpruned_block_height` returns the least height from its argument on that the seed
keeps (`getNextUnprunedBlockHeight_least`). `get_next_pruned_block_height` asks it for the next
height of the following stripe, and when that height falls in the tip region gets back the start
of the tip region, a height every seed keeps, where no height up to the tip is pruned
(`getNextPrunedBlockHeight_spec`, `getNextPrunedBlockHeight_tip_divergence`).
-/

namespace Equilibria.Pruning

open CryptonoteBasic

/-! ## Constants -/

/-- `PRUNING_SEED_LOG_STRIPES_SHIFT`. -/
def pruningSeedLogStripesShift : UInt32 := 7

/-- `PRUNING_SEED_LOG_STRIPES_MASK`. -/
def pruningSeedLogStripesMask : UInt32 := 0x7

/-- `PRUNING_SEED_STRIPE_SHIFT`. -/
def pruningSeedStripeShift : UInt32 := 0

/-- `PRUNING_SEED_STRIPE_MASK`. -/
def pruningSeedStripeMask : UInt32 := 0x7f

/-- `CRYPTONOTE_PRUNING_STRIPE_SIZE`. -/
def cryptonotePruningStripeSize : UInt64 := 4096

/-- `CRYPTONOTE_PRUNING_LOG_STRIPES`. -/
def cryptonotePruningLogStripes : UInt32 := 3

/-- `CRYPTONOTE_PRUNING_TIP_BLOCKS`. -/
def cryptonotePruningTipBlocks : UInt64 := 5500

/-! ## Seeds and stripes -/

/-- `get_pruning_log_stripes`. -/
def getPruningLogStripes (pruningSeed : UInt32) : UInt32 :=
  (pruningSeed >>> pruningSeedLogStripesShift) &&& pruningSeedLogStripesMask

/-- `get_pruning_stripe` of a seed: `0` for the seed `0`, which keeps every block. -/
def getPruningStripe (pruningSeed : UInt32) : UInt32 :=
  if pruningSeed = 0 then 0
  else 1 + ((pruningSeed >>> pruningSeedStripeShift) &&& pruningSeedStripeMask)

/-- `make_pruning_seed`, with the messages of the two checks that throw. -/
def makePruningSeed (stripe logStripes : UInt32) : Except String UInt32 :=
  if logStripes > pruningSeedLogStripesMask then .error "log_stripes out of range"
  else if !(stripe > 0 && stripe.toUInt64 ≤ (1 : UInt64) <<< logStripes.toUInt64) then
    .error "stripe out of range"
  else .ok ((logStripes <<< pruningSeedLogStripesShift) |||
    ((stripe - 1) <<< pruningSeedStripeShift))

/-- `get_pruning_stripe` of a height: `0` in the tip region, else the stripe of its run. -/
def getBlockPruningStripe (blockHeight blockchainHeight : UInt64) (logStripes : UInt32) : UInt32 :=
  if blockHeight + cryptonotePruningTipBlocks ≥ blockchainHeight then 0
  else (((blockHeight / cryptonotePruningStripeSize) &&&
    ((1 : UInt64) <<< logStripes.toUInt64 - 1)) + 1).toUInt32

/-- `has_unpruned_block`: whether a node with this seed keeps the block at `blockHeight`. -/
def hasUnprunedBlock (blockHeight blockchainHeight : UInt64) (pruningSeed : UInt32) : Bool :=
  let stripe := getPruningStripe pruningSeed
  if stripe = 0 then true
  else
    let logStripes := getPruningLogStripes pruningSeed
    let blockStripe := getBlockPruningStripe blockHeight blockchainHeight logStripes
    blockStripe == 0 || blockStripe == stripe

/-- `get_next_unpruned_block_height`. The two `CHECK_AND_ASSERT_MES` at its start return
`block_height`, and so does the one on `h` at its end. -/
def getNextUnprunedBlockHeight (blockHeight blockchainHeight : UInt64) (pruningSeed : UInt32) :
    UInt64 :=
  if blockHeight.toNat > cryptonoteMaxBlockNumber + 1 then blockHeight
  else if blockchainHeight.toNat > cryptonoteMaxBlockNumber + 1 then blockHeight
  else
    let stripe := getPruningStripe pruningSeed
    if stripe = 0 then blockHeight
    else if blockHeight + cryptonotePruningTipBlocks ≥ blockchainHeight then blockHeight
    else
      let seedLogStripes := getPruningLogStripes pruningSeed
      let logStripes : UInt64 :=
        if seedLogStripes ≠ 0 then seedLogStripes.toUInt64 else cryptonotePruningLogStripes.toUInt64
      let mask : UInt64 := (1 <<< logStripes) - 1
      let blockPruningStripe : UInt32 :=
        (((blockHeight / cryptonotePruningStripeSize) &&& mask) + 1).toUInt32
      if blockPruningStripe = stripe then blockHeight
      else
        let cycles := (blockHeight / cryptonotePruningStripeSize) >>> logStripes
        let cycleStart := cycles + if stripe > blockPruningStripe then 0 else 1
        -- `(stripe - 1) * CRYPTONOTE_PRUNING_STRIPE_SIZE` is a `uint32_t` product
        let h := cycleStart * (cryptonotePruningStripeSize <<< logStripes) +
          ((stripe - 1) * cryptonotePruningStripeSize.toUInt32).toUInt64
        if h + cryptonotePruningTipBlocks > blockchainHeight then
          if blockchainHeight < cryptonotePruningTipBlocks then 0
          else blockchainHeight - cryptonotePruningTipBlocks
        else if h ≥ blockHeight then h else blockHeight

/-- `get_next_pruned_block_height`, which throws if `make_pruning_seed` does. -/
def getNextPrunedBlockHeight (blockHeight blockchainHeight : UInt64) (pruningSeed : UInt32) :
    Except String UInt64 :=
  let stripe := getPruningStripe pruningSeed
  if stripe = 0 then .ok blockchainHeight
  else if blockHeight + cryptonotePruningTipBlocks ≥ blockchainHeight then .ok blockchainHeight
  else
    let seedLogStripes := getPruningLogStripes pruningSeed
    let logStripes : UInt64 :=
      if seedLogStripes ≠ 0 then seedLogStripes.toUInt64 else cryptonotePruningLogStripes.toUInt64
    let mask : UInt64 := (1 <<< logStripes) - 1
    let blockPruningSeed : UInt32 :=
      (((blockHeight / cryptonotePruningStripeSize) &&& mask) + 1).toUInt32
    if blockPruningSeed ≠ stripe then .ok blockHeight
    else
      let nextStripe : UInt32 := (1 + (blockPruningSeed.toUInt64 &&& mask)).toUInt32
      (makePruningSeed nextStripe logStripes.toUInt32).map
        (getNextUnprunedBlockHeight blockHeight blockchainHeight)

/-! ## Heights on naturals

At the default `CRYPTONOTE_PRUNING_LOG_STRIPES`, a height's run is `height / 4096`, its stripe
that run modulo `8`, counted from `1`. -/

/-- The stripe of the run holding `height`. -/
def stripeOf (height : ℕ) : ℕ := height / 4096 % 8 + 1

/-- Whether a node keeping the stripe `stripe` keeps the block at `height`: it is in the tip
region or in a run of that stripe. -/
def Unpruned (stripe blockchainHeight height : ℕ) : Prop :=
  blockchainHeight ≤ height + 5500 ∨ stripeOf height = stripe

/-- The start of the first run of the stripe `stripe` after `height`'s run: `h` of
`get_next_unpruned_block_height`, in the current cycle of stripes or in the next one. -/
def nextStripeStart (stripe height : ℕ) : ℕ :=
  (height / 4096 / 8 + if stripe > stripeOf height then 0 else 1) * 32768 + (stripe - 1) * 4096

/-- What `get_next_unpruned_block_height` computes: `height` when it is kept, else the next run
of the stripe or the start of the tip region, whichever comes first. -/
def nextUnpruned (stripe blockchainHeight height : ℕ) : ℕ :=
  if blockchainHeight ≤ height + 5500 ∨ stripeOf height = stripe then height
  else min (nextStripeStart stripe height) (blockchainHeight - 5500)

/-- What `get_next_pruned_block_height` computes: `blockchainHeight` from the tip region on,
`height` in a run of another stripe, and in a run of its own stripe the answer of
`get_next_unpruned_block_height` for the stripe after it. -/
def nextPruned (stripe blockchainHeight height : ℕ) : ℕ :=
  if blockchainHeight ≤ height + 5500 then blockchainHeight
  else if stripeOf height = stripe then nextUnpruned (stripe % 8 + 1) blockchainHeight height
  else height

section NextStripeStart

variable {stripe height : ℕ} (h1 : 1 ≤ stripe) (h8 : stripe ≤ 8)
include h1 h8

theorem stripeOf_nextStripeStart : stripeOf (nextStripeStart stripe height) = stripe := by
  unfold nextStripeStart stripeOf
  split_ifs <;> omega

theorem lt_nextStripeStart : height < nextStripeStart stripe height := by
  unfold nextStripeStart
  unfold stripeOf at *
  split_ifs <;> omega

/-- No height from `height` to the next run of `stripe` has that stripe. -/
theorem stripeOf_ne_of_lt_nextStripeStart (hne : stripeOf height ≠ stripe) {h : ℕ}
    (hle : height ≤ h) (hlt : h < nextStripeStart stripe height) : stripeOf h ≠ stripe := by
  unfold nextStripeStart at hlt
  unfold stripeOf at *
  split_ifs at hlt <;> omega

theorem nextStripeStart_le : nextStripeStart stripe height ≤ height + 32768 := by
  unfold nextStripeStart
  unfold stripeOf
  split_ifs <;> omega

/-- From a run of its own stripe, the next run of the following stripe is the next run. -/
theorem nextStripeStart_next (hrun : stripeOf height = stripe) :
    nextStripeStart (stripe % 8 + 1) height = (height / 4096 + 1) * 4096 := by
  unfold nextStripeStart
  unfold stripeOf at *
  split_ifs <;> omega

end NextStripeStart

theorem nextUnpruned_le {stripe blockchainHeight height : ℕ} (h1 : 1 ≤ stripe) (h8 : stripe ≤ 8) :
    nextUnpruned stripe blockchainHeight height ≤ height + 32768 := by
  have : nextStripeStart stripe height ≤ height + 32768 := nextStripeStart_le h1 h8
  unfold nextUnpruned
  split_ifs <;> omega

/-- `nextUnpruned` is the least kept height from `height` on. -/
theorem nextUnpruned_isLeast {stripe blockchainHeight height : ℕ} (h1 : 1 ≤ stripe)
    (h8 : stripe ≤ 8) :
    IsLeast {h | height ≤ h ∧ Unpruned stripe blockchainHeight h}
      (nextUnpruned stripe blockchainHeight height) := by
  unfold nextUnpruned
  split_ifs with hkeep
  · exact ⟨⟨Nat.le_refl _, hkeep⟩, fun h hh => hh.1⟩
  · have hafter : height < nextStripeStart stripe height := lt_nextStripeStart h1 h8
    have hstart : stripeOf (nextStripeStart stripe height) = stripe :=
      stripeOf_nextStripeStart h1 h8
    refine ⟨⟨?_, ?_⟩, ?_⟩
    · omega
    · unfold Unpruned
      rcases Nat.le_total (nextStripeStart stripe height) (blockchainHeight - 5500) with hle | hle
      · rw [Nat.min_eq_left hle]
        exact Or.inr hstart
      · rw [Nat.min_eq_right hle]
        left
        omega
    · rintro h ⟨hle, hkept⟩
      by_contra hlt
      have hne := stripeOf_ne_of_lt_nextStripeStart h1 h8 (not_or.mp hkeep).2 hle (by omega)
      unfold Unpruned at hkept
      omega

/-- `nextPruned` keeps every height below it, and is `blockchainHeight`, a pruned height, or the
start of the tip region with every height from there to the tip kept. -/
theorem nextPruned_spec {stripe blockchainHeight height : ℕ} (h1 : 1 ≤ stripe) (h8 : stripe ≤ 8)
    (hlt : height < blockchainHeight) :
    height ≤ nextPruned stripe blockchainHeight height ∧
      nextPruned stripe blockchainHeight height ≤ blockchainHeight ∧
      (∀ h, height ≤ h → h < nextPruned stripe blockchainHeight height →
        Unpruned stripe blockchainHeight h) ∧
      (nextPruned stripe blockchainHeight height = blockchainHeight ∨
        ¬ Unpruned stripe blockchainHeight (nextPruned stripe blockchainHeight height) ∨
        (nextPruned stripe blockchainHeight height + 5500 = blockchainHeight ∧
          ∀ h, nextPruned stripe blockchainHeight height ≤ h → h < blockchainHeight →
            Unpruned stripe blockchainHeight h)) := by
  unfold nextPruned Unpruned
  split_ifs with htip hrun
  · -- from the tip region on, every height is kept
    exact ⟨by omega, Nat.le_refl _, fun h hle _ => Or.inl (by omega), Or.inl rfl⟩
  · -- in a run of its own stripe: the run's end, or the tip region if it comes first
    have hnext := nextStripeStart_next h1 h8 hrun
    have hrest : nextUnpruned (stripe % 8 + 1) blockchainHeight height =
        min ((height / 4096 + 1) * 4096) (blockchainHeight - 5500) := by
      unfold nextUnpruned
      rw [if_neg (by unfold stripeOf at *; omega), hnext]
    rw [hrest]
    have hrun' := hrun
    unfold stripeOf at hrun'
    refine ⟨by omega, by omega, fun h hle hlt' => Or.inr (by unfold stripeOf; omega), ?_⟩
    rcases Nat.lt_or_ge ((height / 4096 + 1) * 4096 + 5500) blockchainHeight with hfar | hnear
    · right; left
      rw [Nat.min_eq_left (by omega)]
      unfold stripeOf
      omega
    · right; right
      rw [Nat.min_eq_right (by omega)]
      exact ⟨by omega, fun h hle _ => Or.inl (by omega)⟩
  · -- in a run of another stripe, the height itself is pruned
    exact ⟨Nat.le_refl _, by omega, fun h hle hlt' => absurd hlt' (by omega),
      Or.inr (Or.inl (by omega))⟩

/-! ## The fixed-width computations on naturals -/

@[simp] theorem toNat_tipBlocks : cryptonotePruningTipBlocks.toNat = 5500 := rfl

theorem toNat_add_tip {blockHeight : UInt64} (hb : blockHeight.toNat + 5500 < 2 ^ 64) :
    (blockHeight + cryptonotePruningTipBlocks).toNat = blockHeight.toNat + 5500 := by
  rw [UInt64.toNat_add]
  exact Nat.mod_eq_of_lt hb

/-- A stripe of the default log stripes is one of eight values. -/
theorem stripe_cases {stripe : UInt32} (h1 : 1 ≤ stripe.toNat) (h8 : stripe.toNat ≤ 8) :
    ∃ k : Fin 8, stripe = UInt32.ofNat (k + 1) := by
  refine ⟨⟨stripe.toNat - 1, by omega⟩, ?_⟩
  rw [← UInt32.toNat_inj, UInt32.toNat_ofNat']
  simp only
  omega

/-- A seed `make_pruning_seed` builds reads back its stripe and log stripes. -/
theorem makePruningSeed_stripe {stripe pruningSeed : UInt32} (h1 : 1 ≤ stripe.toNat)
    (h8 : stripe.toNat ≤ 2 ^ cryptonotePruningLogStripes.toNat)
    (hseed : makePruningSeed stripe cryptonotePruningLogStripes = .ok pruningSeed) :
    getPruningStripe pruningSeed = stripe ∧
      getPruningLogStripes pruningSeed = cryptonotePruningLogStripes := by
  -- the eight stripes are checked one by one
  have hall : ∀ k : Fin 8, (makePruningSeed (UInt32.ofNat (k + 1)) cryptonotePruningLogStripes).map
      (fun seed => (getPruningStripe seed, getPruningLogStripes seed)) =
      .ok (UInt32.ofNat (k + 1), cryptonotePruningLogStripes) := by decide
  obtain ⟨k, rfl⟩ := stripe_cases h1 h8
  have hk := hall k
  rw [hseed] at hk
  simp only [Except.map, Except.ok.injEq, Prod.mk.injEq] at hk
  exact hk

/-- The seed `get_next_pruned_block_height` builds for the stripe after `stripe`. -/
theorem makePruningSeed_nextStripe {stripe : UInt32} (h1 : 1 ≤ stripe.toNat)
    (h8 : stripe.toNat ≤ 8) :
    ∃ pruningSeed, makePruningSeed (1 + (stripe.toUInt64 &&&
        (1 : UInt64) <<< cryptonotePruningLogStripes.toUInt64 - 1)).toUInt32
        cryptonotePruningLogStripes.toUInt64.toUInt32 = .ok pruningSeed ∧
      getPruningStripe pruningSeed = UInt32.ofNat (stripe.toNat % 8 + 1) ∧
      getPruningLogStripes pruningSeed = cryptonotePruningLogStripes := by
  -- the eight stripes are checked one by one
  have hall : ∀ k : Fin 8, (makePruningSeed (1 + ((UInt32.ofNat (k + 1)).toUInt64 &&&
      (1 : UInt64) <<< cryptonotePruningLogStripes.toUInt64 - 1)).toUInt32
      cryptonotePruningLogStripes.toUInt64.toUInt32).map
      (fun seed => (getPruningStripe seed, getPruningLogStripes seed)) =
      .ok (UInt32.ofNat ((k + 1) % 8 + 1), cryptonotePruningLogStripes) := by decide
  obtain ⟨k, rfl⟩ := stripe_cases h1 h8
  have hk := hall k
  have htoNat : (UInt32.ofNat (k + 1)).toNat = k + 1 := by
    rw [UInt32.toNat_ofNat']; omega
  rw [htoNat]
  revert hk
  cases makePruningSeed (1 + ((UInt32.ofNat (k + 1)).toUInt64 &&&
      (1 : UInt64) <<< cryptonotePruningLogStripes.toUInt64 - 1)).toUInt32
      cryptonotePruningLogStripes.toUInt64.toUInt32 with
  | error e => intro hk; cases hk
  | ok seed =>
    intro hk
    simp only [Except.map, Except.ok.injEq, Prod.mk.injEq] at hk
    exact ⟨seed, rfl, hk⟩

/-- `(block_height / CRYPTONOTE_PRUNING_STRIPE_SIZE & mask) + 1` is the stripe of the height. -/
theorem toNat_runStripe (height : UInt64) :
    ((((height / cryptonotePruningStripeSize) &&&
      ((1 : UInt64) <<< cryptonotePruningLogStripes.toUInt64 - 1)) + 1).toUInt32).toNat =
      stripeOf height.toNat := by
  have hmask : (1 : UInt64) <<< cryptonotePruningLogStripes.toUInt64 - 1 = 7 := by decide
  have hand : ((height / cryptonotePruningStripeSize) &&& 7).toNat = height.toNat / 4096 % 8 := by
    rw [UInt64.toNat_and, UInt64.toNat_div]
    exact Nat.and_two_pow_sub_one_eq_mod _ 3
  have hone : (1 : UInt64).toNat = 1 := rfl
  rw [hmask, UInt64.toNat_toUInt32, UInt64.toNat_add, hand, hone]
  unfold stripeOf
  omega

theorem runStripe_eq_iff (blockHeight : UInt64) (stripe : UInt32) :
    ((blockHeight / cryptonotePruningStripeSize &&&
      (1 : UInt64) <<< cryptonotePruningLogStripes.toUInt64 - 1) + 1).toUInt32 = stripe ↔
      stripeOf blockHeight.toNat = stripe.toNat := by
  rw [← UInt32.toNat_inj, toNat_runStripe]

/-- `h` of `get_next_unpruned_block_height` is `nextStripeStart`. -/
theorem cycleHeight_eq {stripe : UInt32} (h1 : 1 ≤ stripe.toNat) (h8 : stripe.toNat ≤ 8)
    (blockHeight : UInt64) :
    ((blockHeight / cryptonotePruningStripeSize) >>> cryptonotePruningLogStripes.toUInt64 +
        if stripe > ((blockHeight / cryptonotePruningStripeSize &&&
          (1 : UInt64) <<< cryptonotePruningLogStripes.toUInt64 - 1) + 1).toUInt32 then 0 else 1) *
      (cryptonotePruningStripeSize <<< cryptonotePruningLogStripes.toUInt64) +
      ((stripe - 1) * cryptonotePruningStripeSize.toUInt32).toUInt64 =
      UInt64.ofNat (nextStripeStart stripe.toNat blockHeight.toNat) := by
  have hcycles : ((blockHeight / cryptonotePruningStripeSize) >>>
      cryptonotePruningLogStripes.toUInt64).toNat = blockHeight.toNat / 4096 / 8 := by
    rw [UInt64.toNat_shiftRight, UInt64.toNat_div, Nat.shiftRight_eq_div_pow]
    rfl
  have hcmp : stripe > ((blockHeight / cryptonotePruningStripeSize &&&
      (1 : UInt64) <<< cryptonotePruningLogStripes.toUInt64 - 1) + 1).toUInt32 ↔
      stripe.toNat > stripeOf blockHeight.toNat := by
    rw [gt_iff_lt, UInt32.lt_iff_toNat_lt, toNat_runStripe]
  -- the `uint32_t` product does not wrap: the stripe is at most `8`
  have hlow : ((stripe - 1) * cryptonotePruningStripeSize.toUInt32).toUInt64.toNat =
      (stripe.toNat - 1) * 4096 := by
    have hsub : (stripe - 1).toNat = stripe.toNat - 1 := UInt32.toNat_sub_of_le _ _
      (UInt32.le_iff_toNat_le.mpr h1)
    rw [UInt32.toNat_toUInt64, UInt32.toNat_mul, hsub]
    exact Nat.mod_eq_of_lt (by change (stripe.toNat - 1) * 4096 < 2 ^ 32; omega)
  have hrun : (cryptonotePruningStripeSize <<< cryptonotePruningLogStripes.toUInt64) = 32768 := by
    decide
  rw [← UInt64.toNat_inj, UInt64.toNat_ofNat', hrun, UInt64.toNat_add, UInt64.toNat_mul,
    UInt64.toNat_add, hcycles, hlow, apply_ite UInt64.toNat, if_congr hcmp rfl rfl]
  unfold nextStripeStart
  have h32768 : (32768 : UInt64).toNat = 32768 := rfl
  have hzero : (0 : UInt64).toNat = 0 := rfl
  have hone : (1 : UInt64).toNat = 1 := rfl
  split_ifs <;> simp only [h32768, hzero, hone] <;> omega

theorem hasUnprunedBlock_zero (blockHeight blockchainHeight : UInt64) :
    hasUnprunedBlock blockHeight blockchainHeight 0 = true := by
  simp [hasUnprunedBlock, getPruningStripe]

/-- What `has_unpruned_block` answers for a seed of the stripe `stripe`. -/
theorem hasUnprunedBlock_iff {pruningSeed stripe : UInt32}
    (hstripe : getPruningStripe pruningSeed = stripe) (h0 : stripe ≠ 0)
    (hlog : getPruningLogStripes pruningSeed = cryptonotePruningLogStripes)
    {blockHeight blockchainHeight : UInt64} (hb : blockHeight.toNat + 5500 < 2 ^ 64) :
    hasUnprunedBlock blockHeight blockchainHeight pruningSeed = true ↔
      Unpruned stripe.toNat blockchainHeight.toNat blockHeight.toNat := by
  simp only [hasUnprunedBlock, getBlockPruningStripe, hstripe, hlog, h0, if_false]
  unfold Unpruned
  by_cases htip : blockchainHeight.toNat ≤ blockHeight.toNat + 5500
  · have : blockHeight + cryptonotePruningTipBlocks ≥ blockchainHeight := by
      rw [ge_iff_le, UInt64.le_iff_toNat_le, toNat_add_tip hb]
      exact htip
    simp [this, htip]
  · have : ¬ blockHeight + cryptonotePruningTipBlocks ≥ blockchainHeight := by
      rw [ge_iff_le, UInt64.le_iff_toNat_le, toNat_add_tip hb]
      exact htip
    simp only [this, if_false, htip, false_or, Bool.or_eq_true, beq_iff_eq, ← UInt32.toNat_inj,
      toNat_runStripe]
    simp [stripeOf]

theorem getNextUnprunedBlockHeight_zero (blockHeight blockchainHeight : UInt64) :
    getNextUnprunedBlockHeight blockHeight blockchainHeight 0 = blockHeight := by
  simp [getNextUnprunedBlockHeight, getPruningStripe]

/-- `get_next_unpruned_block_height` computes `nextUnpruned` for a seed of the stripe `stripe`. -/
theorem getNextUnprunedBlockHeight_toNat {pruningSeed stripe : UInt32}
    (hstripe : getPruningStripe pruningSeed = stripe) (h1 : 1 ≤ stripe.toNat) (h8 : stripe.toNat ≤ 8)
    (hlog : getPruningLogStripes pruningSeed = cryptonotePruningLogStripes)
    {blockHeight blockchainHeight : UInt64} (hb : blockHeight.toNat ≤ cryptonoteMaxBlockNumber + 1)
    (hc : blockchainHeight.toNat ≤ cryptonoteMaxBlockNumber + 1) :
    (getNextUnprunedBlockHeight blockHeight blockchainHeight pruningSeed).toNat =
      nextUnpruned stripe.toNat blockchainHeight.toNat blockHeight.toNat := by
  have hM : cryptonoteMaxBlockNumber = 500000000 := rfl
  have hb' : blockHeight.toNat + 5500 < 2 ^ 64 := by omega
  have h0 : stripe ≠ 0 := by
    intro h; rw [h] at h1; simp at h1
  have hbig : ¬ blockHeight.toNat > cryptonoteMaxBlockNumber + 1 := by omega
  have hcbig : ¬ blockchainHeight.toNat > cryptonoteMaxBlockNumber + 1 := by omega
  have hnext : nextStripeStart stripe.toNat blockHeight.toNat ≤ blockHeight.toNat + 32768 :=
    nextStripeStart_le h1 h8
  have hafter : blockHeight.toNat < nextStripeStart stripe.toNat blockHeight.toNat :=
    lt_nextStripeStart h1 h8
  simp only [getNextUnprunedBlockHeight, hstripe, hlog, h0, hbig, hcbig, if_false, ite_self,
    cycleHeight_eq h1 h8, runStripe_eq_iff]
  split_ifs with htip hrun hlate hshort hge
  -- every comparison of the branches on naturals; no sum wraps
  all_goals simp only [ge_iff_le, gt_iff_lt, UInt64.le_iff_toNat_le, UInt64.lt_iff_toNat_lt,
    toNat_add_tip hb', UInt64.toNat_add, UInt64.toNat_ofNat', toNat_tipBlocks] at *
  all_goals unfold nextUnpruned
  · rw [if_pos (Or.inl htip)]
  · rw [if_pos (Or.inr hrun)]
  · omega
  · have hle : cryptonotePruningTipBlocks ≤ blockchainHeight :=
      UInt64.le_iff_toNat_le.mpr (by rw [toNat_tipBlocks]; omega)
    rw [UInt64.toNat_sub_of_le _ _ hle, toNat_tipBlocks, if_neg (by omega)]
    omega
  · rw [if_neg (by omega)]
    omega
  · omega

/-- `get_next_pruned_block_height` computes `nextPruned` for a seed of the stripe `stripe`. -/
theorem getNextPrunedBlockHeight_toNat {pruningSeed stripe : UInt32}
    (hstripe : getPruningStripe pruningSeed = stripe) (h1 : 1 ≤ stripe.toNat) (h8 : stripe.toNat ≤ 8)
    (hlog : getPruningLogStripes pruningSeed = cryptonotePruningLogStripes)
    {blockHeight blockchainHeight : UInt64} (hb : blockHeight.toNat ≤ cryptonoteMaxBlockNumber + 1)
    (hc : blockchainHeight.toNat ≤ cryptonoteMaxBlockNumber + 1) :
    ∃ r, getNextPrunedBlockHeight blockHeight blockchainHeight pruningSeed = .ok r ∧
      r.toNat = nextPruned stripe.toNat blockchainHeight.toNat blockHeight.toNat := by
  have hM : cryptonoteMaxBlockNumber = 500000000 := rfl
  have hb' : blockHeight.toNat + 5500 < 2 ^ 64 := by omega
  have h0 : stripe ≠ 0 := by
    intro h; rw [h] at h1; simp at h1
  simp only [getNextPrunedBlockHeight, hstripe, hlog, h0, if_false, ite_self]
  split_ifs with htip hrun
  · rw [ge_iff_le, UInt64.le_iff_toNat_le, toNat_add_tip hb'] at htip
    refine ⟨_, rfl, ?_⟩
    rw [nextPruned, if_pos htip]
  · rw [ge_iff_le, UInt64.le_iff_toNat_le, toNat_add_tip hb'] at htip
    rw [ne_eq, runStripe_eq_iff] at hrun
    refine ⟨_, rfl, ?_⟩
    rw [nextPruned, if_neg htip, if_neg hrun]
  · -- a run of its own stripe: the seed of the next stripe is built and cannot throw
    rw [ge_iff_le, UInt64.le_iff_toNat_le, toNat_add_tip hb'] at htip
    rw [ne_eq, not_not] at hrun
    have hrunNat := (runStripe_eq_iff _ _).mp hrun
    rw [hrun]
    obtain ⟨nextSeed, hmake, hnext, hlog'⟩ := makePruningSeed_nextStripe h1 h8
    have hnextNat : (UInt32.ofNat (stripe.toNat % 8 + 1)).toNat = stripe.toNat % 8 + 1 := by
      rw [UInt32.toNat_ofNat']; omega
    rw [hmake]
    refine ⟨_, rfl, ?_⟩
    rw [getNextUnprunedBlockHeight_toNat hnext (by omega) (by omega) hlog' hb hc, hnextNat,
      nextPruned, if_neg htip, if_pos hrunNat]

/-! ## The next unpruned and the next pruned height -/

/-- `get_next_unpruned_block_height` returns the least height from `blockHeight` on that the seed
keeps, for the seed `0` and every seed of a stripe at the default log stripes. -/
theorem getNextUnprunedBlockHeight_least (blockHeight blockchainHeight : UInt64)
    (pruningSeed : UInt32)
    (hseed : pruningSeed = 0 ∨ ∃ stripe : UInt32, 1 ≤ stripe.toNat ∧
      stripe.toNat ≤ 2 ^ cryptonotePruningLogStripes.toNat ∧
      makePruningSeed stripe cryptonotePruningLogStripes = .ok pruningSeed)
    (hb : blockHeight.toNat ≤ cryptonoteMaxBlockNumber + 1)
    (hc : blockchainHeight.toNat ≤ cryptonoteMaxBlockNumber + 1) :
    blockHeight ≤ getNextUnprunedBlockHeight blockHeight blockchainHeight pruningSeed ∧
      hasUnprunedBlock (getNextUnprunedBlockHeight blockHeight blockchainHeight pruningSeed)
        blockchainHeight pruningSeed = true ∧
      ∀ h : UInt64, blockHeight ≤ h →
        h < getNextUnprunedBlockHeight blockHeight blockchainHeight pruningSeed →
        hasUnprunedBlock h blockchainHeight pruningSeed = false := by
  rcases hseed with rfl | ⟨stripe, h1, h8, hmake⟩
  · -- the seed `0` keeps every block
    rw [getNextUnprunedBlockHeight_zero]
    exact ⟨UInt64.le_refl _, hasUnprunedBlock_zero _ _, fun h hle hlt => absurd hlt (by
      rw [UInt64.lt_iff_toNat_lt, UInt64.le_iff_toNat_le] at *; omega)⟩
  obtain ⟨hstripe, hlog⟩ := makePruningSeed_stripe h1 h8 hmake
  have h8' : stripe.toNat ≤ 8 := h8
  have h0 : stripe ≠ 0 := by
    intro h; rw [h] at h1; simp at h1
  have hM : cryptonoteMaxBlockNumber = 500000000 := rfl
  have hr := getNextUnprunedBlockHeight_toNat hstripe h1 h8' hlog hb hc
  have hrle : nextUnpruned stripe.toNat blockchainHeight.toNat blockHeight.toNat ≤
      blockHeight.toNat + 32768 := nextUnpruned_le h1 h8'
  have hleast : IsLeast {h | blockHeight.toNat ≤ h ∧ Unpruned stripe.toNat blockchainHeight.toNat h}
      (nextUnpruned stripe.toNat blockchainHeight.toNat blockHeight.toNat) :=
    nextUnpruned_isLeast h1 h8'
  obtain ⟨⟨hfrom, hkept⟩, hleast⟩ := hleast
  refine ⟨?_, ?_, ?_⟩
  · rw [UInt64.le_iff_toNat_le, hr]
    exact hfrom
  · rw [hasUnprunedBlock_iff hstripe h0 hlog (by omega), hr]
    exact hkept
  · intro h hle hlt
    rw [UInt64.le_iff_toNat_le] at hle
    rw [UInt64.lt_iff_toNat_lt, hr] at hlt
    rw [Bool.eq_false_iff, ne_eq, hasUnprunedBlock_iff hstripe h0 hlog (by omega)]
    intro hkeep
    have := hleast ⟨hle, hkeep⟩
    omega

/-- From the start of the second run, a node keeping the first stripe next keeps the first
block of the next cycle. -/
theorem getNextUnprunedBlockHeight_least_second_run :
    (4096 : UInt64) ≤ getNextUnprunedBlockHeight 4096 10000000 384 ∧
      hasUnprunedBlock (getNextUnprunedBlockHeight 4096 10000000 384) 10000000 384 = true ∧
      ∀ h : UInt64, 4096 ≤ h → h < getNextUnprunedBlockHeight 4096 10000000 384 →
        hasUnprunedBlock h 10000000 384 = false :=
  getNextUnprunedBlockHeight_least 4096 10000000 384
    (Or.inr ⟨1, by decide, by decide, by decide⟩) (by decide) (by decide)

/-- What `get_next_pruned_block_height` returns: every height from `blockHeight` up to it is kept,
and it is `blockchainHeight`, a height the seed prunes, or the start of the tip region when every
height from there to the tip is kept too. In the last case no height from `blockHeight` on is
pruned, and the answer should have been `blockchainHeight`. -/
theorem getNextPrunedBlockHeight_spec (blockHeight blockchainHeight : UInt64)
    (pruningSeed : UInt32)
    (hseed : pruningSeed = 0 ∨ ∃ stripe : UInt32, 1 ≤ stripe.toNat ∧
      stripe.toNat ≤ 2 ^ cryptonotePruningLogStripes.toNat ∧
      makePruningSeed stripe cryptonotePruningLogStripes = .ok pruningSeed)
    (hlt : blockHeight < blockchainHeight)
    (hc : blockchainHeight.toNat ≤ cryptonoteMaxBlockNumber + 1) :
    ∃ r, getNextPrunedBlockHeight blockHeight blockchainHeight pruningSeed = .ok r ∧
      blockHeight ≤ r ∧ r ≤ blockchainHeight ∧
      (∀ h, blockHeight ≤ h → h < r → hasUnprunedBlock h blockchainHeight pruningSeed = true) ∧
      (r = blockchainHeight ∨ hasUnprunedBlock r blockchainHeight pruningSeed = false ∨
        (r + cryptonotePruningTipBlocks = blockchainHeight ∧
          ∀ h, r ≤ h → h < blockchainHeight →
            hasUnprunedBlock h blockchainHeight pruningSeed = true)) := by
  rw [UInt64.lt_iff_toNat_lt] at hlt
  rcases hseed with rfl | ⟨stripe, h1, h8, hmake⟩
  · -- the seed `0` keeps every block
    refine ⟨blockchainHeight, by simp [getNextPrunedBlockHeight, getPruningStripe], ?_,
      UInt64.le_refl _, fun h _ _ => hasUnprunedBlock_zero _ _, Or.inl rfl⟩
    rw [UInt64.le_iff_toNat_le]
    omega
  obtain ⟨hstripe, hlog⟩ := makePruningSeed_stripe h1 h8 hmake
  have h8' : stripe.toNat ≤ 8 := h8
  have h0 : stripe ≠ 0 := by
    intro h; rw [h] at h1; simp at h1
  have hM : cryptonoteMaxBlockNumber = 500000000 := rfl
  have hb : blockHeight.toNat ≤ cryptonoteMaxBlockNumber + 1 := by omega
  obtain ⟨r, hr, hrNat⟩ := getNextPrunedBlockHeight_toNat hstripe h1 h8' hlog hb hc
  obtain ⟨hfrom, hto, hkept, hend⟩ := nextPruned_spec h1 h8' hlt
  rw [← hrNat] at hfrom hto hkept hend
  have hkeep : ∀ h : UInt64, h.toNat ≤ blockchainHeight.toNat →
      (hasUnprunedBlock h blockchainHeight pruningSeed = true ↔
        Unpruned stripe.toNat blockchainHeight.toNat h.toNat) :=
    fun h hle => hasUnprunedBlock_iff hstripe h0 hlog (by omega)
  refine ⟨r, hr, UInt64.le_iff_toNat_le.mpr hfrom, UInt64.le_iff_toNat_le.mpr hto, ?_, ?_⟩
  · intro h hle hlt'
    rw [UInt64.le_iff_toNat_le] at hle
    rw [UInt64.lt_iff_toNat_lt] at hlt'
    exact (hkeep h (by omega)).mpr (hkept _ hle hlt')
  · rcases hend with hc' | hpruned | ⟨htip, hrest⟩
    · exact Or.inl (UInt64.toNat_inj.mp hc')
    · right; left
      rw [Bool.eq_false_iff, ne_eq, hkeep r hto]
      exact hpruned
    · right; right
      refine ⟨UInt64.toNat_inj.mp ?_, fun h hle hlt' => ?_⟩
      · rw [UInt64.toNat_add, toNat_tipBlocks]
        omega
      · rw [UInt64.le_iff_toNat_le] at hle
        rw [UInt64.lt_iff_toNat_lt] at hlt'
        exact (hkeep h (by omega)).mpr (hrest _ hle hlt')

/-- At the seed of the first stripe, from height `0` of a chain of `6000` blocks, every height is
kept (below `500` in the first run, from `500` on in the tip region), so the least pruned height
does not exist and the answer should be `6000`; `get_next_pruned_block_height` returns `500`. -/
theorem getNextPrunedBlockHeight_tip_divergence :
    makePruningSeed 1 cryptonotePruningLogStripes = .ok 384 ∧
      getNextPrunedBlockHeight 0 6000 384 = .ok 500 ∧
      ∀ h : UInt64, h < 6000 → hasUnprunedBlock h 6000 384 = true := by
  have hmake : makePruningSeed 1 cryptonotePruningLogStripes = .ok 384 := by decide
  refine ⟨hmake, by decide, ?_⟩
  intro h hlt
  obtain ⟨hstripe, hlog⟩ := makePruningSeed_stripe (by decide) (by decide) hmake
  rw [UInt64.lt_iff_toNat_lt] at hlt
  have h6000 : (6000 : UInt64).toNat = 6000 := rfl
  rw [hasUnprunedBlock_iff hstripe (by decide) hlog (by omega), h6000]
  unfold Unpruned
  by_cases hlow : h.toNat < 500
  · right
    unfold stripeOf
    have : (1 : UInt32).toNat = 1 := rfl
    omega
  · left
    omega

end Equilibria.Pruning
