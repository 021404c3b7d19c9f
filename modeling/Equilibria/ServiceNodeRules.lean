import Equilibria.IntUtil
import Equilibria.CryptonoteBasic
import Equilibria.FloorSum

/-!
# Staking rules of service nodes

`service_node_rules.h` and `service_node_rules.cpp`: the lock period and staking requirement,
the minimum contribution, the conversion between portions of `STAKING_PORTIONS` and amounts,
and the check of a registration's portions.

`get_staking_requirement` divides by `triton::exp2` in floating point on mainnet below height
800000; that function is a parameter here and the arithmetic around it is Lean's `Float`, the
same IEEE double the source uses.

`check_service_node_portions` declares its loop bound `min_portions` with an initializer that
names the variable being declared, which in C++ is that new, uninitialized variable and not the
parameter of the same name. The value each iteration reads is a parameter of the model; the
function's own `min_portions` argument is never read.
-/

namespace Equilibria.ServiceNodeRules

open CryptonoteBasic IntUtil

/-- `get_staking_requirement_lock_blocks`. -/
def getStakingRequirementLockBlocks : NetworkType → ℕ
  | .testnet => 1440
  | .fakechain => 30
  | _ => 20160

/-- `get_min_node_contribution`: the smallest first stake of a new contributor. -/
def getMinNodeContribution (hfVersion : ℕ) (stakingRequirement totalReserved : UInt64) : UInt64 :=
  if hfVersion > 9 then
    min (stakingRequirement - totalReserved)
      (stakingRequirement / UInt64.ofNat maxNumberOfContributorsV2)
  else
    min (stakingRequirement - totalReserved)
      (stakingRequirement / UInt64.ofNat maxNumberOfContributors)

/-- `get_staking_requirement`, with `triton::exp2` as the parameter `exp2`. -/
def getStakingRequirement (exp2 : Float → Float) (nettype : NetworkType) (height : ℕ) : UInt64 :=
  if nettype ≠ .mainnet then coin * 100
  else
    let hardforkHeight := 106950
    let height := if height < hardforkHeight then hardforkHeight else height
    let heightAdjusted := height - hardforkHeight
    if height ≥ 800000 then 35000
    else if height ≥ 352846 then
      70000 * coin + (20000.0 * coin.toFloat / exp2 (Float.ofNat heightAdjusted / 356446.0)).toUInt64
    else
      10000 * coin + (30000.0 * coin.toFloat / exp2 (Float.ofNat heightAdjusted / 129600.0)).toUInt64

/-- `portions_to_amount`: `staking_requirement * portions / STAKING_PORTIONS` in 128 bits,
keeping the low word of the quotient. -/
def portionsToAmount (portions stakingRequirement : UInt64) : UInt64 :=
  let (lo, hi) := mul128 stakingRequirement portions
  (div128_64 hi lo stakingPortions).2.1

/-- The loop of `check_service_node_portions` from iteration `i` with `portionsLeft` left;
`minPortionsRead i` is the value iteration `i` reads for its self-initialized bound. -/
def checkPortionsFrom (minPortionsRead : ℕ → UInt64) : ℕ → UInt64 → List UInt64 → Bool
  | _, _, [] => true
  | i, portionsLeft, portion :: portions =>
    let minPortions := min portionsLeft (minPortionsRead i)
    if portion < minPortions || portion > portionsLeft then false
    else checkPortionsFrom minPortionsRead (i + 1) (portionsLeft - portion) portions

/-- `check_service_node_portions`. -/
def checkServiceNodePortions (minPortionsRead : ℕ → UInt64) (portions : List UInt64) : Bool :=
  checkPortionsFrom minPortionsRead 0 stakingPortions portions

/-- `get_portions_to_make_amount`: the portions, rounded up, that make `amount`. -/
def getPortionsToMakeAmount (stakingRequirement amount : UInt64) : UInt64 :=
  let (lo, hi) := mul128 amount stakingPortions
  let hi := if lo > 0xFFFFFFFFFFFFFFFF - (stakingRequirement - 1) then hi + 1 else hi
  let lo := lo + (stakingRequirement - 1)
  (div128_64 hi lo stakingRequirement).2.1

/-! ## Portions -/

/-- Portions accepted by the check add up to at most the portions that were left. -/
theorem checkPortionsFrom_sum_le (minPortionsRead : ℕ → UInt64) :
    ∀ (i : ℕ) (portionsLeft : UInt64) (portions : List UInt64),
      checkPortionsFrom minPortionsRead i portionsLeft portions = true →
      (portions.map UInt64.toNat).sum ≤ portionsLeft.toNat
  | _, _, [], _ => by simp
  | i, portionsLeft, portion :: portions, h => by
    simp only [checkPortionsFrom, Bool.or_eq_true, decide_eq_true_eq] at h
    split at h
    · exact absurd h Bool.false_ne_true
    · rename_i hcheck
      have hle : portion ≤ portionsLeft := by grind
      have ih := checkPortionsFrom_sum_le minPortionsRead (i + 1) (portionsLeft - portion) portions h
      rw [UInt64.toNat_sub_of_le _ _ hle] at ih
      have hle' : portion.toNat ≤ portionsLeft.toNat := UInt64.le_iff_toNat_le.mp hle
      simp only [List.map_cons, List.sum_cons]
      omega

/-- The portions of a registration that passes the check add up to at most
`STAKING_PORTIONS`, whatever the uninitialized bound reads. -/
theorem checkServiceNodePortions_sum_le (minPortionsRead : ℕ → UInt64) (portions : List UInt64)
    (h : checkServiceNodePortions minPortionsRead portions = true) :
    (portions.map UInt64.toNat).sum ≤ stakingPortions.toNat :=
  checkPortionsFrom_sum_le minPortionsRead 0 stakingPortions portions h

/-- `portions_to_amount` is the exact floor of `staking_requirement * portions /
STAKING_PORTIONS` for every portion up to a whole stake. -/
theorem portionsToAmount_toNat (portions stakingRequirement : UInt64)
    (hp : portions.toNat ≤ stakingPortions.toNat) :
    (portionsToAmount portions stakingRequirement).toNat =
      stakingRequirement.toNat * portions.toNat / stakingPortions.toNat := by
  have hSP : 0 < stakingPortions.toNat := by decide
  have hfit : stakingRequirement.toNat * portions.toNat / stakingPortions.toNat < 2 ^ 64 := by
    have hle : stakingRequirement.toNat * portions.toNat / stakingPortions.toNat ≤
        stakingRequirement.toNat :=
      Nat.div_le_of_le_mul (by rw [Nat.mul_comm stakingPortions.toNat]; exact Nat.mul_le_mul_left _ hp)
    exact lt_of_le_of_lt hle stakingRequirement.toNat_lt
  exact mulDiv_correct stakingRequirement portions stakingPortions hSP hfit

/-- The first stake a new contributor must make never exceeds what is left to reserve. -/
theorem getMinNodeContribution_le (hfVersion : ℕ) (stakingRequirement totalReserved : UInt64) :
    getMinNodeContribution hfVersion stakingRequirement totalReserved ≤
      stakingRequirement - totalReserved := by
  unfold getMinNodeContribution
  split <;> exact Std.min_le_left

/-- The carry of `get_portions_to_make_amount` makes the 128-bit sum exact: `hi` has room for
the carry because `amount * STAKING_PORTIONS` stays below `STAKING_PORTIONS * 2^64`. -/
theorem portionsCarry_toNat (amount stakingRequirement : UInt64)
    (hs : 0 < stakingRequirement.toNat) :
    (if (mul128 amount stakingPortions).1 > 0xFFFFFFFFFFFFFFFF - (stakingRequirement - 1) then
        (mul128 amount stakingPortions).2 + 1 else (mul128 amount stakingPortions).2).toNat *
        2 ^ 64 + ((mul128 amount stakingPortions).1 + (stakingRequirement - 1)).toNat =
      amount.toNat * stakingPortions.toNat + (stakingRequirement.toNat - 1) := by
  have hprod := mul128_correct amount stakingPortions
  generalize (mul128 amount stakingPortions).1 = lo at *
  generalize (mul128 amount stakingPortions).2 = hi at *
  have hSP : stakingPortions.toNat = 2 ^ 64 - 4 := rfl
  have hmax : (0xFFFFFFFFFFFFFFFF : UInt64).toNat = 2 ^ 64 - 1 := rfl
  have ha := amount.toNat_lt
  have hlo := lo.toNat_lt
  have hS := stakingRequirement.toNat_lt
  -- the high word is below `STAKING_PORTIONS`, so adding the carry does not wrap
  have hhi : hi.toNat + 1 < 2 ^ 64 := by
    have hbound : hi.toNat * 2 ^ 64 < stakingPortions.toNat * 2 ^ 64 := by
      have := Nat.mul_lt_mul_of_pos_right ha (show 0 < stakingPortions.toNat by decide)
      rw [Nat.mul_comm (2 ^ 64)] at this
      omega
    have := Nat.lt_of_mul_lt_mul_right hbound
    omega
  have hpred : (stakingRequirement - 1).toNat = stakingRequirement.toNat - 1 := by
    have hone : (1 : UInt64) ≤ stakingRequirement := UInt64.le_iff_toNat_le.mpr hs
    rw [UInt64.toNat_sub_of_le _ _ hone]
    rfl
  have hcond : lo > 0xFFFFFFFFFFFFFFFF - (stakingRequirement - 1) ↔
      2 ^ 64 ≤ lo.toNat + (stakingRequirement.toNat - 1) := by
    have hle : stakingRequirement - 1 ≤ 0xFFFFFFFFFFFFFFFF :=
      UInt64.le_iff_toNat_le.mpr (by rw [hmax, hpred]; omega)
    rw [gt_iff_lt, UInt64.lt_iff_toNat_lt, UInt64.toNat_sub_of_le _ _ hle, hpred, hmax]
    omega
  have hsum : (lo + (stakingRequirement - 1)).toNat =
      (lo.toNat + (stakingRequirement.toNat - 1)) % 2 ^ 64 := by
    rw [UInt64.toNat_add, hpred]
  rw [hsum]
  split
  · rename_i hc
    have hwrap := hcond.mp hc
    have hcarry : (hi + 1).toNat = hi.toNat + 1 := by
      rw [toNat_add_of_lt] <;> rw [UInt64.toNat_one]
      exact hhi
    have hmod : (lo.toNat + (stakingRequirement.toNat - 1)) % 2 ^ 64 =
        lo.toNat + (stakingRequirement.toNat - 1) - 2 ^ 64 := by omega
    rw [hcarry, hmod, Nat.add_mul, Nat.one_mul]
    -- the word size as a name, so that `hi * 2^64` is one atom on both sides
    generalize 2 ^ 64 = W at *
    omega
  · rename_i hc
    have hfit := mt hcond.mpr hc
    rw [Nat.mod_eq_of_lt (by omega)]
    generalize 2 ^ 64 = W at *
    omega

/-- `get_portions_to_make_amount` is the exact ceiling of `amount * STAKING_PORTIONS /
staking_requirement` for every amount up to the requirement. -/
theorem getPortionsToMakeAmount_toNat {stakingRequirement amount : UInt64}
    (hs : 0 < stakingRequirement.toNat) (ha : amount.toNat ≤ stakingRequirement.toNat) :
    (getPortionsToMakeAmount stakingRequirement amount).toNat =
      (amount.toNat * stakingPortions.toNat + (stakingRequirement.toNat - 1)) /
        stakingRequirement.toNat := by
  have hcarry := portionsCarry_toNat amount stakingRequirement hs
  cases hm : mul128 amount stakingPortions with
  | mk lo hi =>
    rw [hm] at hcarry
    simp only [getPortionsToMakeAmount, hm]
    have hdiv := (div128_64_correct (if lo > 0xFFFFFFFFFFFFFFFF - (stakingRequirement - 1) then
      hi + 1 else hi) (lo + (stakingRequirement - 1)) stakingRequirement hs).1
    rw [hcarry] at hdiv
    -- the quotient is at most `STAKING_PORTIONS`, so its high word is zero
    have hq : (amount.toNat * stakingPortions.toNat + (stakingRequirement.toNat - 1)) /
        stakingRequirement.toNat < 2 ^ 64 := by
      have hSP : stakingPortions.toNat < 2 ^ 64 - 1 := by decide
      have hlt : amount.toNat * stakingPortions.toNat + (stakingRequirement.toNat - 1) <
          (stakingPortions.toNat + 1) * stakingRequirement.toNat := by
        have := Nat.mul_le_mul_right stakingPortions.toNat ha
        rw [Nat.add_mul, Nat.one_mul, Nat.mul_comm stakingPortions.toNat]
        omega
      have := (Nat.div_lt_iff_lt_mul hs).mpr hlt
      omega
    omega

/-- A ceiling division: `⌈n / d⌉ * d` reaches `n`, and one quotient less falls short of it. -/
theorem ceilDiv_spec {n d : ℕ} (hd : 0 < d) :
    n ≤ (n + (d - 1)) / d * d ∧ (0 < (n + (d - 1)) / d → ((n + (d - 1)) / d - 1) * d < n) := by
  have hle := Nat.div_mul_le_self (n + (d - 1)) d
  have hlt := Nat.lt_div_mul_add (a := n + (d - 1)) hd
  have hpos : 0 < (n + (d - 1)) / d → d ≤ (n + (d - 1)) / d * d :=
    fun h => Nat.le_mul_of_pos_left d h
  rw [Nat.sub_mul, Nat.one_mul]
  generalize (n + (d - 1)) / d * d = t at *
  omega

theorem getPortionsToMakeAmount_least {stakingRequirement amount : UInt64}
    (hs : 0 < stakingRequirement.toNat) (ha : amount.toNat ≤ stakingRequirement.toNat) :
    (getPortionsToMakeAmount stakingRequirement amount).toNat =
        (amount.toNat * stakingPortions.toNat + (stakingRequirement.toNat - 1)) /
          stakingRequirement.toNat ∧
      amount ≤ portionsToAmount (getPortionsToMakeAmount stakingRequirement amount)
        stakingRequirement ∧
      (∀ x, x < getPortionsToMakeAmount stakingRequirement amount →
        portionsToAmount x stakingRequirement < amount) ∧
      amount.toNat ≤ stakingRequirement.toNat *
        (getPortionsToMakeAmount stakingRequirement amount).toNat / stakingPortions.toNat ∧
      (getPortionsToMakeAmount stakingRequirement amount = 0 ∨
        stakingRequirement.toNat * ((getPortionsToMakeAmount stakingRequirement amount).toNat - 1) /
          stakingPortions.toNat < amount.toNat) := by
  have hp := getPortionsToMakeAmount_toNat hs ha
  have hSP : 0 < stakingPortions.toNat := by decide
  obtain ⟨hreach, hshort⟩ := ceilDiv_spec (n := amount.toNat * stakingPortions.toNat) hs
  rw [← hp] at hreach hshort
  generalize getPortionsToMakeAmount stakingRequirement amount = p at *
  -- `p` is at most a whole stake, so `portions_to_amount` is exact on it and below it
  have hpSP : p.toNat ≤ stakingPortions.toNat := by
    by_cases hpos : 0 < p.toNat
    · have hless : (p.toNat - 1) * stakingRequirement.toNat <
          stakingPortions.toNat * stakingRequirement.toNat := by
        rw [Nat.mul_comm stakingPortions.toNat]
        exact lt_of_lt_of_le (hshort hpos) (by rw [Nat.mul_comm amount.toNat,
          Nat.mul_comm stakingRequirement.toNat]; exact Nat.mul_le_mul_left _ ha)
      have := Nat.lt_of_mul_lt_mul_right hless
      omega
    · omega
  have hfloor : amount.toNat ≤ stakingRequirement.toNat * p.toNat / stakingPortions.toNat := by
    rw [Nat.le_div_iff_mul_le hSP, Nat.mul_comm stakingRequirement.toNat]
    exact hreach
  have hbelow : ∀ x : ℕ, x < p.toNat →
      stakingRequirement.toNat * x / stakingPortions.toNat < amount.toNat := by
    intro x hx
    rw [Nat.div_lt_iff_lt_mul hSP]
    have hxle : stakingRequirement.toNat * x ≤ stakingRequirement.toNat * (p.toNat - 1) :=
      Nat.mul_le_mul_left _ (by omega)
    have := hshort (by omega)
    rw [Nat.mul_comm (p.toNat - 1)] at this
    omega
  refine ⟨hp, ?_, ?_, hfloor, ?_⟩
  · rw [UInt64.le_iff_toNat_le, portionsToAmount_toNat _ _ hpSP]
    exact hfloor
  · intro x hx
    have hx' := UInt64.lt_iff_toNat_lt.mp hx
    rw [UInt64.lt_iff_toNat_lt, portionsToAmount_toNat _ _ (by omega)]
    exact hbelow x.toNat hx'
  · by_cases hzero : p = 0
    · exact .inl hzero
    · refine .inr (hbelow _ ?_)
      have : p.toNat ≠ 0 := fun h => hzero (UInt64.toNat_inj.mp (by simpa using h))
      omega

/-- Two coins of a three-coin stake: the portions the function returns are the least that make
them. -/
theorem twoOfThree_portionsToMakeAmount_least :
    0 < (3 : UInt64).toNat ∧ (2 : UInt64).toNat ≤ (3 : UInt64).toNat ∧
      ((getPortionsToMakeAmount 3 2).toNat =
          ((2 : UInt64).toNat * stakingPortions.toNat + ((3 : UInt64).toNat - 1)) /
            (3 : UInt64).toNat ∧
        2 ≤ portionsToAmount (getPortionsToMakeAmount 3 2) 3 ∧
        (∀ x, x < getPortionsToMakeAmount 3 2 → portionsToAmount x 3 < 2) ∧
        (2 : UInt64).toNat ≤ (3 : UInt64).toNat * (getPortionsToMakeAmount 3 2).toNat /
          stakingPortions.toNat ∧
        (getPortionsToMakeAmount 3 2 = 0 ∨
          (3 : UInt64).toNat * ((getPortionsToMakeAmount 3 2).toNat - 1) / stakingPortions.toNat <
            (2 : UInt64).toNat)) :=
  ⟨by decide, by decide, getPortionsToMakeAmount_least (by decide) (by decide)⟩

end Equilibria.ServiceNodeRules
