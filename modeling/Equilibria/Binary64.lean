import Mathlib

/-!
# Rounding to binary64

An IEEE 754 binary64 number keeps a 53-bit significand: a positive value rounds to the nearest
`m * 2 ^ e` with `2 ^ 52 ≤ m < 2 ^ 53`, ties to an even `m`. Finite values are kept here as the
rational numbers they are, and only nonnegative ones are modelled. The exponent is not bounded:
quotients of 64-bit integers lie between `2 ^ -64` and `2 ^ 64`, far inside the normal range, so
no subnormal result and no overflow arises from them.

Rounding moves a value by at most a relative `2 ^ -53` (`abs_roundBinary64_sub_le`) and keeps the
natural numbers below `2 ^ 53` (`roundBinary64_natCast`). So two quotients of naturals whose cross
products stay below `2 ^ 53` compare as doubles exactly as they compare as rationals
(`lt_div_ofNat`).
-/

namespace Equilibria.Binary64

/-! ## Rounding a rational -/

/-- The integer nearest `q`, ties to the even one. -/
def roundHalfEven (q : ℚ) : ℤ :=
  if 1 / 2 < q - ⌊q⌋ ∨ (q - ⌊q⌋ = 1 / 2 ∧ ⌊q⌋ % 2 = 1) then ⌊q⌋ + 1 else ⌊q⌋

theorem abs_roundHalfEven_sub_le (q : ℚ) : |(roundHalfEven q : ℚ) - q| ≤ 1 / 2 := by
  have hle := Int.floor_le q
  have hlt := Int.lt_floor_add_one q
  rw [abs_le]
  unfold roundHalfEven
  split_ifs with h
  · -- rounding up: the fraction is at least a half
    have hhalf : 1 / 2 ≤ q - ⌊q⌋ := by
      rcases h with h | ⟨h, -⟩
      · exact h.le
      · exact h.ge
    push_cast
    constructor <;> linarith
  · -- rounding down: the fraction is at most a half
    have hhalf : q - ⌊q⌋ ≤ 1 / 2 := not_lt.mp fun h' => h (.inl h')
    constructor <;> linarith

@[simp] theorem roundHalfEven_intCast (k : ℤ) : roundHalfEven k = k := by
  simp [roundHalfEven]

/-- The exponent `e` that brings a positive `x` into `[2 ^ 52, 2 ^ 53)` as `x / 2 ^ e`; the bit
lengths of the numerator and the denominator give it to within one. -/
def exponentOf (x : ℚ) : ℤ :=
  let e : ℤ := (Nat.log2 x.num.toNat : ℤ) - Nat.log2 x.den - 52
  if x / 2 ^ e < 2 ^ 52 then e - 1 else e

/-- The bit lengths of its numerator and denominator place a positive `x` within a factor of
two of `2 ^ (ln - ld)`. -/
theorem bounds_of_log2 {x : ℚ} (hx : 0 < x) :
    (2 : ℚ) ^ ((Nat.log2 x.num.toNat : ℤ) - Nat.log2 x.den - 1) < x ∧
      x < 2 ^ ((Nat.log2 x.num.toNat : ℤ) - Nat.log2 x.den + 1) := by
  have hnum : 0 < x.num := Rat.num_pos.mpr hx
  set n := x.num.toNat with hn
  set d := x.den with hd
  have hn0 : n ≠ 0 := by omega
  have hd0 : d ≠ 0 := x.den_nz
  have hx' : x = (n : ℚ) / d := by
    have hcast : ((n : ℤ) : ℚ) = (n : ℚ) := by norm_cast
    rw [← hcast, hn, Int.toNat_of_nonneg hnum.le, hd, Rat.num_div_den]
  have hnlo := Nat.log2_self_le hn0
  have hnhi := Nat.lt_log2_self (n := n)
  have hdlo := Nat.log2_self_le hd0
  have hdhi := Nat.lt_log2_self (n := d)
  have hnpos : (0 : ℚ) < n := by exact_mod_cast Nat.pos_of_ne_zero hn0
  have hdpos : (0 : ℚ) < d := by exact_mod_cast Nat.pos_of_ne_zero hd0
  rw [hx']
  constructor
  · rw [show ((Nat.log2 n : ℤ) - Nat.log2 d - 1) = (Nat.log2 n : ℤ) - (Nat.log2 d + 1 : ℕ) by
      push_cast; ring, zpow_sub₀ two_ne_zero, zpow_natCast, zpow_natCast,
      div_lt_div_iff₀ (by positivity) hdpos]
    have h : 2 ^ Nat.log2 n * d < n * 2 ^ (Nat.log2 d + 1) :=
      calc 2 ^ Nat.log2 n * d ≤ n * d := Nat.mul_le_mul_right _ hnlo
        _ < n * 2 ^ (Nat.log2 d + 1) := Nat.mul_lt_mul_of_pos_left hdhi (Nat.pos_of_ne_zero hn0)
    exact_mod_cast h
  · rw [show ((Nat.log2 n : ℤ) - Nat.log2 d + 1) = (Nat.log2 n + 1 : ℕ) - (Nat.log2 d : ℤ) by
      push_cast; ring, zpow_sub₀ two_ne_zero, zpow_natCast, zpow_natCast,
      div_lt_div_iff₀ hdpos (by positivity)]
    have h : n * 2 ^ Nat.log2 d < 2 ^ (Nat.log2 n + 1) * d :=
      calc n * 2 ^ Nat.log2 d < 2 ^ (Nat.log2 n + 1) * 2 ^ Nat.log2 d :=
            Nat.mul_lt_mul_of_pos_right hnhi (Nat.two_pow_pos _)
        _ ≤ 2 ^ (Nat.log2 n + 1) * d := Nat.mul_le_mul_left _ hdlo
    exact_mod_cast h

theorem exponentOf_spec {x : ℚ} (hx : 0 < x) :
    2 ^ 52 ≤ x / 2 ^ exponentOf x ∧ x / 2 ^ exponentOf x < 2 ^ 53 := by
  obtain ⟨hlo, hhi⟩ := bounds_of_log2 hx
  set e : ℤ := (Nat.log2 x.num.toNat : ℤ) - Nat.log2 x.den - 52 with he
  have h2e : (0 : ℚ) < 2 ^ e := zpow_pos two_pos e
  -- `x / 2 ^ e` lies strictly between `2 ^ 51` and `2 ^ 53`
  have hlo' : 2 ^ 51 < x / 2 ^ e := by
    rw [lt_div_iff₀ h2e, ← zpow_natCast, ← zpow_add₀ two_ne_zero,
      show ((51 : ℕ) : ℤ) + e = (Nat.log2 x.num.toNat : ℤ) - Nat.log2 x.den - 1 by omega]
    exact hlo
  have hhi' : x / 2 ^ e < 2 ^ 53 := by
    rw [div_lt_iff₀ h2e, ← zpow_natCast, ← zpow_add₀ two_ne_zero,
      show ((53 : ℕ) : ℤ) + e = (Nat.log2 x.num.toNat : ℤ) - Nat.log2 x.den + 1 by omega]
    exact hhi
  dsimp only [exponentOf]
  rw [← he]
  split_ifs with h
  · -- one more halving of the exponent doubles the quotient
    have hdouble : x / 2 ^ (e - 1) = 2 * (x / 2 ^ e) := by
      rw [zpow_sub_one₀ two_ne_zero]
      field_simp
    rw [hdouble]
    constructor <;> linarith
  · exact ⟨not_lt.mp h, hhi'⟩

/-- The binary64 value nearest a nonnegative `x`: `x / 2 ^ e` rounded to an integer of 53 bits,
ties to even, times `2 ^ e`. -/
def roundBinary64 (x : ℚ) : ℚ :=
  if x ≤ 0 then 0 else roundHalfEven (x / 2 ^ exponentOf x) * 2 ^ exponentOf x

/-- Rounding moves a nonnegative value by at most half a unit in the last place, a relative
`2 ^ -53`. -/
theorem abs_roundBinary64_sub_le {x : ℚ} (hx : 0 ≤ x) : |roundBinary64 x - x| ≤ x / 2 ^ 53 := by
  rcases hx.eq_or_lt with rfl | hpos
  · simp [roundBinary64]
  unfold roundBinary64
  rw [if_neg (not_le.mpr hpos)]
  obtain ⟨hlo, -⟩ := exponentOf_spec hpos
  set e := exponentOf x
  have h2e : (0 : ℚ) < 2 ^ e := zpow_pos two_pos e
  have hround := abs_roundHalfEven_sub_le (x / 2 ^ e)
  -- the unit `2 ^ e` is at most `x / 2 ^ 52`, since the significand has 53 bits
  have hunit : 2 ^ 52 * 2 ^ e ≤ x := (le_div_iff₀ h2e).mp hlo
  calc |(roundHalfEven (x / 2 ^ e) : ℚ) * 2 ^ e - x|
      = |(roundHalfEven (x / 2 ^ e) : ℚ) - x / 2 ^ e| * 2 ^ e := by
        rw [← abs_of_pos h2e, ← abs_mul, abs_of_pos h2e, sub_mul, div_mul_cancel₀ _ h2e.ne']
    _ ≤ 1 / 2 * 2 ^ e := mul_le_mul_of_nonneg_right hround h2e.le
    _ ≤ x / 2 ^ 53 := by
        rw [le_div_iff₀ (by positivity)]
        nlinarith

/-- A natural number below `2 ^ 53` is a binary64 value. -/
theorem roundBinary64_natCast {n : ℕ} (hn : n < 2 ^ 53) : roundBinary64 n = n := by
  rcases Nat.eq_zero_or_pos n with rfl | hpos
  · simp [roundBinary64]
  have hx : (0 : ℚ) < n := by exact_mod_cast hpos
  unfold roundBinary64
  rw [if_neg (not_le.mpr hx)]
  obtain ⟨hlo, -⟩ := exponentOf_spec hx
  set e := exponentOf (n : ℚ)
  have hn' : (n : ℚ) < 2 ^ 53 := by exact_mod_cast hn
  -- `n < 2 ^ 53` leaves no room for a positive exponent
  have he : e ≤ 0 := by
    by_contra hpos'
    have h2 : (2 : ℚ) ≤ 2 ^ e :=
      calc (2 : ℚ) = 2 ^ (1 : ℤ) := by norm_num
        _ ≤ 2 ^ e := zpow_le_zpow_right₀ one_le_two (by omega)
    have hhalf : (n : ℚ) / 2 ^ e ≤ n / 2 := div_le_div_of_nonneg_left hx.le two_pos h2
    linarith
  -- the quotient is the integer `n * 2 ^ k`, which rounds to itself
  obtain ⟨k, hk⟩ : ∃ k : ℕ, e = -(k : ℤ) := ⟨(-e).toNat, by omega⟩
  have hq : (n : ℚ) / 2 ^ e = ((n * 2 ^ k : ℕ) : ℤ) := by
    rw [hk, zpow_neg, zpow_natCast, div_inv_eq_mul]
    push_cast
    ring
  rw [hq, roundHalfEven_intCast, ← hq, div_mul_cancel₀ _ (zpow_ne_zero _ two_ne_zero)]

/-- Rounding keeps a strict order whose gap exceeds the two rounding errors. -/
theorem roundBinary64_lt_of_gap {x y : ℚ} (hx : 0 ≤ x) (hxy : x < y)
    (hgap : (x + y) / 2 ^ 53 < y - x) : roundBinary64 x < roundBinary64 y := by
  have hex := abs_le.mp (abs_roundBinary64_sub_le hx)
  have hey := abs_le.mp (abs_roundBinary64_sub_le (hx.trans hxy.le))
  linarith [hex.2, hey.1]

/-- Two quotients of naturals that differ, with cross products summing below `2 ^ 53`, differ by
at least `1 / (q * s)`, more than their two rounding errors. -/
theorem roundBinary64_div_lt {p q r s : ℕ} (hq : 0 < q) (hs : 0 < s)
    (hcross : p * s + r * q < 2 ^ 53) (hlt : p * s < r * q) :
    roundBinary64 (p / q) < roundBinary64 (r / s) := by
  have hq' : (0 : ℚ) < q := by exact_mod_cast hq
  have hs' : (0 : ℚ) < s := by exact_mod_cast hs
  have hcross' : (p * s + r * q : ℚ) < 2 ^ 53 := by exact_mod_cast hcross
  have hstep : (p * s + 1 : ℚ) ≤ r * q := by exact_mod_cast hlt
  apply roundBinary64_lt_of_gap (by positivity)
  · rw [div_lt_div_iff₀ hq' hs']
    linarith
  · rw [div_add_div _ _ hq'.ne' hs'.ne', div_sub_div _ _ hs'.ne' hq'.ne', div_div,
      div_lt_div_iff₀ (by positivity) (by positivity)]
    nlinarith [mul_pos hq' hs']

/-! ## Values and the operations used on them -/

/-- A nonnegative `double`: a finite one, as the rational number it is, infinity, or NaN. -/
inductive Value where
  | finite (value : ℚ)
  | infinity
  | nan
  deriving DecidableEq, Repr

/-- The conversion of an unsigned integer to `double`. -/
def ofNat (n : ℕ) : Value := .finite (roundBinary64 n)

/-- Division of nonnegative doubles, rounded to nearest: a positive number over zero is infinity,
and zero over zero is NaN. -/
def div : Value → Value → Value
  | .finite a, .finite b =>
    if b = 0 then (if a = 0 then .nan else .infinity) else .finite (roundBinary64 (a / b))
  | .finite _, .infinity => .finite 0
  | .infinity, .finite _ => .infinity
  | _, _ => .nan

/-- `<` on doubles, false whenever NaN is compared. -/
def lt : Value → Value → Bool
  | .finite a, .finite b => decide (a < b)
  | .finite _, .infinity => true
  | _, _ => false

/-- A quotient of naturals below `2 ^ 53` is computed as the rational quotient rounded once. -/
theorem div_ofNat {p q : ℕ} (hq : 0 < q) (hp53 : p < 2 ^ 53) (hq53 : q < 2 ^ 53) :
    div (ofNat p) (ofNat q) = .finite (roundBinary64 (p / q)) := by
  have hq' : (q : ℚ) ≠ 0 := by exact_mod_cast hq.ne'
  rw [ofNat, ofNat, roundBinary64_natCast hp53, roundBinary64_natCast hq53, div, if_neg hq']

/-- Quotients of naturals, the divisors below `2 ^ 53` and the cross products summing below
`2 ^ 53`, compare as doubles as they compare exactly. -/
theorem lt_div_ofNat {a b c d : ℕ} (hb : 0 < b) (hd : 0 < d) (hb53 : b < 2 ^ 53)
    (hd53 : d < 2 ^ 53) (hcross : a * d + c * b < 2 ^ 53) :
    lt (div (ofNat a) (ofNat b)) (div (ofNat c) (ofNat d)) = decide (a * d < c * b) := by
  have ha : a < 2 ^ 53 := lt_of_le_of_lt (Nat.le_mul_of_pos_right a hd) (by omega)
  have hc : c < 2 ^ 53 := lt_of_le_of_lt (Nat.le_mul_of_pos_right c hb) (by omega)
  rw [div_ofNat hb ha hb53, div_ofNat hd hc hd53, lt]
  by_cases h : a * d < c * b
  · simp only [h, decide_true, decide_eq_true_eq]
    exact roundBinary64_div_lt hb hd hcross h
  · simp only [h, decide_false, decide_eq_false_iff_not, not_lt]
    rcases (not_lt.mp h).lt_or_eq with h' | h'
    · exact (roundBinary64_div_lt hd hb (by omega) h').le
    · -- equal quotients round alike
      have heq : (c : ℚ) / d = a / b := by
        rw [div_eq_div_iff (by exact_mod_cast hd.ne') (by exact_mod_cast hb.ne')]
        exact_mod_cast h'
      rw [heq]

end Equilibria.Binary64
