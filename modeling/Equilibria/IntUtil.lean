import Equilibria.RestoringDivision

/-!
# Double-word multiplication and division of `int-util.h`

`mul128` multiplies two 64-bit words through their 32-bit halves with explicit carries;
`div128_64` divides a 128-bit dividend by a 64-bit divisor with a 128-step restoring loop
whose remainder is one 64-bit word and a carry bit; `div128_32` divides by a 32-bit divisor
in four 32-bit digits. The words are `UInt64` as in the source, so every wrap-around of the
C arithmetic is modelled.

`mul128` returns the exact product, and `div128_64` the exact quotient and remainder for
every nonzero divisor: its loop refines the restoring division of `RestoringDivision` on
a 128-bit register.
-/

namespace Equilibria.IntUtil

open RestoringDivision

/-- A 64-bit sum below `2^64` does not wrap. -/
theorem toNat_add_of_lt {a b : UInt64} (h : a.toNat + b.toNat < 2 ^ 64) :
    (a + b).toNat = a.toNat + b.toNat := by
  rw [UInt64.toNat_add, Nat.mod_eq_of_lt h]

/-- A 64-bit running sum is the exact sum while that stays below `2^64`. -/
theorem toNat_foldl_add {α : Type*} (f : α → UInt64) :
    ∀ (l : List α) (acc : UInt64), acc.toNat + (l.map fun a => (f a).toNat).sum < 2 ^ 64 →
      (l.foldl (fun acc a => acc + f a) acc).toNat = acc.toNat + (l.map fun a => (f a).toNat).sum
  | [], acc, _ => by simp
  | a :: l, acc, h => by
    simp only [List.map_cons, List.sum_cons] at h
    have hacc : (acc + f a).toNat = acc.toNat + (f a).toNat := toNat_add_of_lt (by omega)
    rw [List.foldl_cons, toNat_foldl_add f l (acc + f a) (by omega), hacc, List.map_cons,
      List.sum_cons]
    omega

/-- `hi_dword`. -/
def hiDword (val : UInt64) : UInt64 := val >>> 32

/-- `lo_dword`. -/
def loDword (val : UInt64) : UInt64 := val &&& 0xFFFFFFFF

/-- `mul128`: the low word of the product, and the high word it writes to `product_hi`. -/
def mul128 (multiplier multiplicand : UInt64) : UInt64 × UInt64 :=
  let a := hiDword multiplier
  let b := loDword multiplier
  let c := hiDword multiplicand
  let d := loDword multiplicand
  let ac := a * c
  let ad := a * d
  let bc := b * c
  let bd := b * d
  let adbc := ad + bc
  let adbcCarry : UInt64 := if adbc < ad then 1 else 0
  let productLo := bd + (adbc <<< 32)
  let productLoCarry : UInt64 := if productLo < bd then 1 else 0
  (productLo, ac + (adbc >>> 32) + (adbcCarry <<< 32) + productLoCarry)

/-- `div_with_reminder`: the quotient, and the remainder written back. -/
def divWithReminder (dividend : UInt64) (divisor remainder : UInt32) : UInt64 × UInt32 :=
  let dividend := dividend ||| (remainder.toUInt64 <<< 32)
  (dividend / divisor.toUInt64, (dividend % divisor.toUInt64).toUInt32)

/-- `div128_32`: long division in base `2^32`; the high and low quotient words and the
remainder. -/
def div128_32 (dividendHi dividendLo : UInt64) (divisor : UInt32) :
    UInt64 × UInt64 × UInt32 :=
  let (q3, r) := divWithReminder (hiDword dividendHi) divisor 0
  let (q2, r) := divWithReminder (loDword dividendHi) divisor r
  let (q1, r) := divWithReminder (hiDword dividendLo) divisor r
  let (q0, r) := divWithReminder (loDword dividendLo) divisor r
  ((q3 <<< 32) ||| q2, (q1 <<< 32) ||| q0, r)

/-- `shl128`: shift the two words left by one; the bit shifted out of the top. -/
def shl128 (hi lo : UInt64) : Bool × UInt64 × UInt64 :=
  (hi >>> 63 != 0, (hi <<< 1) + (lo >>> 63), lo <<< 1)

/-- One pass of the `div128_64` loop on the remainder and the two dividend words. -/
def div128Step (divisor : UInt64) (s : UInt64 × UInt64 × UInt64) :
    UInt64 × UInt64 × UInt64 :=
  let carry := s.1 >>> 63 != 0
  let remainder := s.1 <<< 1
  let (shifted, hi, lo) := shl128 s.2.1 s.2.2
  let remainder := if shifted then remainder ||| 1 else remainder
  if carry || remainder ≥ divisor then (remainder - divisor, hi, lo ||| 1)
  else (remainder, hi, lo)

/-- `n` passes of the `div128_64` loop. -/
def div128Loop (divisor : UInt64) : ℕ → UInt64 × UInt64 × UInt64 → UInt64 × UInt64 × UInt64
  | 0, s => s
  | n + 1, s => div128Loop divisor n (div128Step divisor s)

/-- `div128_64`: the high and low quotient words and the remainder. -/
def div128_64 (dividendHi dividendLo divisor : UInt64) : UInt64 × UInt64 × UInt64 :=
  let s := div128Loop divisor 128 (0, dividendHi, dividendLo)
  (s.2.1, s.2.2, s.1)

/-! ## Exactness -/

theorem hiDword_toNat (v : UInt64) : (hiDword v).toNat = v.toNat / 2 ^ 32 := by
  simp [hiDword, UInt64.toNat_shiftRight, Nat.shiftRight_eq_div_pow]

theorem loDword_toNat (v : UInt64) : (loDword v).toNat = v.toNat % 2 ^ 32 := by
  have h : (0xFFFFFFFF : UInt64).toNat = 2 ^ 32 - 1 := rfl
  rw [loDword, UInt64.toNat_and, h, Nat.and_two_pow_sub_one_eq_mod]

/-- Setting the low bit of an even word adds one. -/
theorem or_one_toNat {x : UInt64} (hx : x.toNat % 2 = 0) : (x ||| 1).toNat = x.toNat + 1 := by
  have h := Nat.two_pow_add_eq_or_of_lt (i := 1) (b := 1) (by norm_num) (x.toNat / 2)
  rw [UInt64.toNat_or, show (1 : UInt64).toNat = 1 from rfl]
  have hx2 : x.toNat = 2 ^ 1 * (x.toNat / 2) := by omega
  rw [hx2, ← h]

theorem shiftLeft_one_toNat (x : UInt64) : (x <<< 1).toNat = 2 * x.toNat % 2 ^ 64 := by
  rw [UInt64.toNat_shiftLeft, Nat.shiftLeft_eq]
  simp only [show (1 : UInt64).toNat % 64 = 1 from rfl, pow_one, Nat.mul_comm]

theorem shiftRight_63_toNat (x : UInt64) : (x >>> 63).toNat = x.toNat / 2 ^ 63 := by
  rw [UInt64.toNat_shiftRight, Nat.shiftRight_eq_div_pow]
  rfl

/-- The bit a shift by 63 tests is the top bit. -/
theorem shiftRight_63_ne_zero (x : UInt64) : (x >>> 63 != 0) = decide (2 ^ 63 ≤ x.toNat) := by
  have h := shiftRight_63_toNat x
  have hx := x.toNat_lt
  rw [Bool.eq_iff_iff, bne_iff_ne, decide_eq_true_iff, ne_eq, ← UInt64.toNat_inj, h,
    UInt64.toNat_zero]
  omega

/-- `mul128` computes the exact 128-bit product. -/
theorem mul128_correct (x y : UInt64) :
    (mul128 x y).2.toNat * 2 ^ 64 + (mul128 x y).1.toNat = x.toNat * y.toNat := by
  have hx := x.toNat_lt
  have hy := y.toNat_lt
  -- the four half-word products are exact
  set A := x.toNat / 2 ^ 32
  set B := x.toNat % 2 ^ 32
  set C := y.toNat / 2 ^ 32
  set D := y.toNat % 2 ^ 32
  have hA : A < 2 ^ 32 := by omega
  have hB : B < 2 ^ 32 := Nat.mod_lt _ (by norm_num)
  have hC : C < 2 ^ 32 := by omega
  have hD : D < 2 ^ 32 := Nat.mod_lt _ (by norm_num)
  have hprod (u v : ℕ) (hu : u < 2 ^ 32) (hv : v < 2 ^ 32) : u * v < 2 ^ 64 := by
    calc u * v < 2 ^ 32 * 2 ^ 32 := Nat.mul_lt_mul'' hu hv
      _ = 2 ^ 64 := by norm_num
  have hac : (hiDword x * hiDword y).toNat = A * C := by
    rw [UInt64.toNat_mul, hiDword_toNat, hiDword_toNat, Nat.mod_eq_of_lt (hprod _ _ hA hC)]
  have had : (hiDword x * loDword y).toNat = A * D := by
    rw [UInt64.toNat_mul, hiDword_toNat, loDword_toNat, Nat.mod_eq_of_lt (hprod _ _ hA hD)]
  have hbc : (loDword x * hiDword y).toNat = B * C := by
    rw [UInt64.toNat_mul, loDword_toNat, hiDword_toNat, Nat.mod_eq_of_lt (hprod _ _ hB hC)]
  have hbd : (loDword x * loDword y).toNat = B * D := by
    rw [UInt64.toNat_mul, loDword_toNat, loDword_toNat, Nat.mod_eq_of_lt (hprod _ _ hB hD)]
  have hxy : x.toNat * y.toNat = A * C * 2 ^ 64 + (A * D + B * C) * 2 ^ 32 + B * D := by
    have ex : x.toNat = A * 2 ^ 32 + B := by omega
    have ey : y.toNat = C * 2 ^ 32 + D := by omega
    rw [ex, ey]
    ring
  have hxylt : x.toNat * y.toNat < 2 ^ 128 := by
    calc x.toNat * y.toNat < 2 ^ 64 * 2 ^ 64 := Nat.mul_lt_mul'' hx hy
      _ = 2 ^ 128 := by norm_num
  have hAC := hprod _ _ hA hC
  have hAD := hprod _ _ hA hD
  have hBC := hprod _ _ hB hC
  have hBD := hprod _ _ hB hD
  -- the carries are the bits the wrapped sums lose
  simp only [mul128, UInt64.lt_iff_toNat_lt, UInt64.toNat_add, UInt64.toNat_shiftLeft,
    UInt64.toNat_shiftRight, Nat.shiftLeft_eq, Nat.shiftRight_eq_div_pow, hac, had, hbc, hbd]
  simp only [show (32 : UInt64).toNat % 64 = 32 from rfl]
  rw [hxy]
  split <;> split <;> simp only [show (1 : UInt64).toNat = 1 from rfl,
    show (0 : UInt64).toNat = 0 from rfl] <;> omega

/-- One pass of the loop written out on its three words. -/
theorem div128Step_eq (d r hi lo : UInt64) :
    div128Step d (r, hi, lo) =
      if (r >>> 63 != 0 || (if hi >>> 63 != 0 then r <<< 1 ||| 1 else r <<< 1) ≥ d) then
        ((if hi >>> 63 != 0 then r <<< 1 ||| 1 else r <<< 1) - d, (hi <<< 1) + (lo >>> 63),
          lo <<< 1 ||| 1)
      else ((if hi >>> 63 != 0 then r <<< 1 ||| 1 else r <<< 1), (hi <<< 1) + (lo >>> 63),
          lo <<< 1) := rfl

/-- The natural-number view of a `div128_64` loop state: remainder, and the 128-bit
register the two dividend words form. -/
def regNat (s : UInt64 × UInt64 × UInt64) : ℕ × ℕ :=
  (s.1.toNat, s.2.1.toNat * 2 ^ 64 + s.2.2.toNat)

/-- One pass of the word loop is one restoring-division step on the 128-bit register, as
long as the remainder is below the divisor: the carry bit keeps the doubled remainder exact. -/
theorem div128Step_regNat (d : UInt64) (s : UInt64 × UInt64 × UInt64)
    (hs : s.1.toNat < d.toNat) :
    regNat (div128Step d s) = step 128 d.toNat (regNat s) := by
  obtain ⟨r, hi, lo⟩ := s
  simp only at hs
  have hr := r.toNat_lt
  have hh := hi.toNat_lt
  have hl := lo.toNat_lt
  have hd := d.toNat_lt
  have htop : (hi.toNat * 2 ^ 64 + lo.toNat) / 2 ^ (128 - 1) = hi.toNat / 2 ^ 63 := by
    rw [show (128 - 1 : ℕ) = 64 + 63 from rfl, pow_add, ← Nat.div_div_eq_div_mul,
      Nat.add_comm, Nat.add_mul_div_right _ _ (by norm_num), Nat.div_eq_of_lt hl, Nat.zero_add]
  have hb : hi.toNat / 2 ^ 63 < 2 := by omega
  have hrem1 : (r <<< 1).toNat = 2 * r.toNat % 2 ^ 64 := shiftLeft_one_toNat r
  have hlo1 : (lo <<< 1).toNat = 2 * lo.toNat % 2 ^ 64 := shiftLeft_one_toNat lo
  have hhi1 : ((hi <<< 1) + (lo >>> 63)).toNat = (2 * hi.toNat + lo.toNat / 2 ^ 63) % 2 ^ 64 := by
    rw [UInt64.toNat_add, shiftLeft_one_toNat, shiftRight_63_toNat]
    omega
  -- the shifted remainder with the register's top bit, as a natural number below `2^64`
  have hrem2 : (if hi >>> 63 != 0 then r <<< 1 ||| 1 else r <<< 1).toNat =
      (2 * r.toNat + hi.toNat / 2 ^ 63) % 2 ^ 64 := by
    rw [shiftRight_63_ne_zero]
    by_cases htb : 2 ^ 63 ≤ hi.toNat
    · rw [if_pos (by simpa using htb), or_one_toNat (by rw [hrem1]; omega), hrem1]
      omega
    · rw [if_neg (by simpa using htb), hrem1]
      omega
  have hcarry := shiftRight_63_ne_zero r
  have hreg2 : 2 * (hi.toNat * 2 ^ 64 + lo.toNat) % 2 ^ 128 =
      (2 * hi.toNat + lo.toNat / 2 ^ 63) % 2 ^ 64 * 2 ^ 64 + 2 * lo.toNat % 2 ^ 64 := by
    omega
  rw [div128Step_eq, hcarry]
  simp only [regNat, step, htop]
  by_cases hc : d.toNat ≤ 2 * r.toNat + hi.toNat / 2 ^ 63
  · have hcond : (decide (2 ^ 63 ≤ r.toNat) ||
        (if hi >>> 63 != 0 then r <<< 1 ||| 1 else r <<< 1) ≥ d) = true := by
      simp only [Bool.or_eq_true, decide_eq_true_eq, ge_iff_le, UInt64.le_iff_toNat_le, hrem2]
      omega
    rw [if_pos hcond, if_pos hc]
    have hlo2 : (lo <<< 1 ||| 1).toNat = 2 * lo.toNat % 2 ^ 64 + 1 := by
      rw [or_one_toNat (by rw [hlo1]; omega), hlo1]
    simp only [Prod.mk.injEq]
    refine ⟨?_, ?_⟩
    · rw [UInt64.toNat_sub, hrem2]
      omega
    · rw [hhi1, hlo2, hreg2]
      omega
  · have hcond : (decide (2 ^ 63 ≤ r.toNat) ||
        (if hi >>> 63 != 0 then r <<< 1 ||| 1 else r <<< 1) ≥ d) = false := by
      simp only [Bool.or_eq_false_iff, decide_eq_false_iff_not, ge_iff_le,
        UInt64.le_iff_toNat_le, hrem2, not_le]
      omega
    rw [if_neg (by rw [hcond]; exact Bool.false_ne_true), if_neg hc]
    simp only [Prod.mk.injEq]
    refine ⟨by rw [hrem2]; omega, ?_⟩
    rw [hhi1, hlo1, hreg2]

/-- The loop keeps the remainder below the divisor. -/
theorem div128Step_rem_lt (d : UInt64) (s : UInt64 × UInt64 × UInt64)
    (hs : s.1.toNat < d.toNat) : (div128Step d s).1.toNat < d.toNat := by
  have h := div128Step_regNat d s hs
  have hfst : (div128Step d s).1.toNat = (step 128 d.toNat (regNat s)).1 := by
    rw [← h]
    rfl
  have hb : (s.2.1.toNat * 2 ^ 64 + s.2.2.toNat) / 2 ^ (128 - 1) < 2 := by
    have := s.2.1.toNat_lt
    have := s.2.2.toNat_lt
    omega
  rw [hfst]
  unfold step regNat
  by_cases hc : d.toNat ≤ 2 * s.1.toNat + (s.2.1.toNat * 2 ^ 64 + s.2.2.toNat) / 2 ^ (128 - 1)
  · rw [if_pos hc]
    omega
  · rw [if_neg hc]
    omega

theorem div128Loop_regNat (d : UInt64) :
    ∀ n (s : UInt64 × UInt64 × UInt64), s.1.toNat < d.toNat →
      regNat (div128Loop d n s) = steps 128 d.toNat n (regNat s)
  | 0, _, _ => rfl
  | n + 1, s, hs => by
    rw [div128Loop, steps, div128Loop_regNat d n _ (div128Step_rem_lt d s hs),
      div128Step_regNat d s hs]

/-- `div128_64` computes the exact quotient and remainder for every nonzero divisor. -/
theorem div128_64_correct (hi lo d : UInt64) (hd : 0 < d.toNat) :
    (div128_64 hi lo d).1.toNat * 2 ^ 64 + (div128_64 hi lo d).2.1.toNat =
        (hi.toNat * 2 ^ 64 + lo.toNat) / d.toNat ∧
      (div128_64 hi lo d).2.2.toNat = (hi.toNat * 2 ^ 64 + lo.toNat) % d.toNat := by
  have hN : hi.toNat * 2 ^ 64 + lo.toNat < 2 ^ 128 := by
    have := hi.toNat_lt
    have := lo.toNat_lt
    omega
  have h := div128Loop_regNat d 128 (0, hi, lo) hd
  rw [show regNat (0, hi, lo) = (0, hi.toNat * 2 ^ 64 + lo.toNat) from rfl,
    steps_correct hd hN] at h
  simp only [regNat, Prod.mk.injEq] at h
  exact ⟨h.2, h.1⟩

/-- `mul128` followed by `div128_64`, the source's way to compute `a * b / d`: the low
quotient word is the exact quotient whenever that fits in a word. -/
theorem mulDiv_correct (a b d : UInt64) (hd : 0 < d.toNat) (hfit : a.toNat * b.toNat / d.toNat < 2 ^ 64) :
    (div128_64 (mul128 a b).2 (mul128 a b).1 d).2.1.toNat = a.toNat * b.toNat / d.toNat := by
  have h := (div128_64_correct (mul128 a b).2 (mul128 a b).1 d hd).1
  rw [mul128_correct] at h
  have hlo := (div128_64 (mul128 a b).2 (mul128 a b).1 d).2.1.toNat_lt
  omega

/-- One digit of long division: the quotient of a number written as its high part and a low
digit is the high part's quotient shifted up, plus the quotient of the high part's remainder
with the digit beside it. -/
theorem longDiv_step (A x B d : ℕ) (hd : 0 < d) :
    (A * B + x) / d = A / d * B + (A % d * B + x) / d ∧
      (A * B + x) % d = (A % d * B + x) % d := by
  have hsplit : A * B + x = (A % d * B + x) + A / d * B * d := by
    conv_lhs => rw [← Nat.div_add_mod A d]
    ring
  rw [hsplit, Nat.add_mul_div_right _ _ hd, Nat.add_mul_mod_self_right]
  exact ⟨Nat.add_comm _ _, rfl⟩

/-- `div_with_reminder` brings down a 32-bit digit beside a remainder below the divisor: its
quotient and remainder are exact, and the quotient is a 32-bit digit again. -/
theorem divWithReminder_correct {dividend : UInt64} {divisor remainder : UInt32}
    (hdig : dividend.toNat < 2 ^ 32) (hrem : remainder.toNat < divisor.toNat) :
    (divWithReminder dividend divisor remainder).1.toNat =
        (remainder.toNat * 2 ^ 32 + dividend.toNat) / divisor.toNat ∧
      (divWithReminder dividend divisor remainder).2.toNat =
        (remainder.toNat * 2 ^ 32 + dividend.toNat) % divisor.toNat := by
  have hdlt := divisor.toNat_lt
  have hd : 0 < divisor.toNat := by omega
  -- the remainder is put above the digit
  have hcat : (dividend ||| (remainder.toUInt64 <<< 32)).toNat =
      remainder.toNat * 2 ^ 32 + dividend.toNat := by
    have hshift : (remainder.toUInt64 <<< 32).toNat = remainder.toNat <<< 32 := by
      rw [UInt64.toNat_shiftLeft, UInt32.toNat_toUInt64, Nat.shiftLeft_eq, Nat.shiftLeft_eq]
      simp only [show (32 : UInt64).toNat % 64 = 32 from rfl]
      omega
    rw [UInt64.toNat_or, hshift, Nat.or_comm, ← Nat.shiftLeft_add_eq_or_of_lt hdig,
      Nat.shiftLeft_eq]
  have hrem_lt : (remainder.toNat * 2 ^ 32 + dividend.toNat) % divisor.toNat < 2 ^ 32 :=
    lt_trans (Nat.mod_lt _ hd) hdlt
  simp only [divWithReminder, UInt64.toNat_div, UInt64.toNat_mod, UInt64.toNat_toUInt32, hcat,
    UInt32.toNat_toUInt64, true_and]
  exact Nat.mod_eq_of_lt hrem_lt

/-- A digit brought down beside a remainder below the divisor gives a quotient digit. -/
theorem digit_quotient_lt {r x d : ℕ} (hr : r < d) (hx : x < 2 ^ 32) :
    (r * 2 ^ 32 + x) / d < 2 ^ 32 := by
  rw [Nat.div_lt_iff_lt_mul (by omega)]
  calc r * 2 ^ 32 + x < (r + 1) * 2 ^ 32 := by omega
    _ ≤ d * 2 ^ 32 := Nat.mul_le_mul_right _ hr
    _ = 2 ^ 32 * d := Nat.mul_comm _ _

/-- `div128_32` computes the exact quotient and remainder for every nonzero divisor: four digits
of long division in base `2^32`. -/
theorem div128_32_correct (hi lo : UInt64) {d : UInt32} (hd : 0 < d.toNat) :
    (div128_32 hi lo d).1.toNat * 2 ^ 64 + (div128_32 hi lo d).2.1.toNat =
        (hi.toNat * 2 ^ 64 + lo.toNat) / d.toNat ∧
      (div128_32 hi lo d).2.2.toNat = (hi.toNat * 2 ^ 64 + lo.toNat) % d.toNat := by
  have hhi := hi.toNat_lt
  have hlo := lo.toNat_lt
  have hdig (v : UInt64) : (hiDword v).toNat < 2 ^ 32 ∧ (loDword v).toNat < 2 ^ 32 := by
    rw [hiDword_toNat, loDword_toNat]
    have := v.toNat_lt
    omega
  unfold div128_32
  generalize h3 : divWithReminder (hiDword hi) d 0 = s3
  obtain ⟨q3, r3⟩ := s3
  dsimp only
  have e3 := divWithReminder_correct (hdig hi).1 (show (0 : UInt32).toNat < d.toNat from hd)
  rw [h3] at e3
  generalize h2 : divWithReminder (loDword hi) d r3 = s2
  obtain ⟨q2, r2⟩ := s2
  dsimp only
  have e2 := divWithReminder_correct (hdig hi).2 (show r3.toNat < d.toNat by
    rw [e3.2]; exact Nat.mod_lt _ hd)
  rw [h2] at e2
  generalize h1 : divWithReminder (hiDword lo) d r2 = s1
  obtain ⟨q1, r1⟩ := s1
  dsimp only
  have e1 := divWithReminder_correct (hdig lo).1 (show r2.toNat < d.toNat by
    rw [e2.2]; exact Nat.mod_lt _ hd)
  rw [h1] at e1
  generalize h0 : divWithReminder (loDword lo) d r1 = s0
  obtain ⟨q0, r0⟩ := s0
  have e0 := divWithReminder_correct (hdig lo).2 (show r1.toNat < d.toNat by
    rw [e1.2]; exact Nat.mod_lt _ hd)
  rw [h0] at e0
  dsimp only
  -- each quotient is a digit, so the two words are assembled without overlap
  have hq2 : q2.toNat < 2 ^ 32 := by
    rw [e2.1]; exact digit_quotient_lt (by rw [e3.2]; exact Nat.mod_lt _ hd) (hdig hi).2
  have hq0 : q0.toNat < 2 ^ 32 := by
    rw [e0.1]; exact digit_quotient_lt (by rw [e1.2]; exact Nat.mod_lt _ hd) (hdig lo).2
  have hq3 : q3.toNat < 2 ^ 32 := by
    rw [e3.1, UInt32.toNat_zero, Nat.zero_mul, Nat.zero_add]
    exact lt_of_le_of_lt (Nat.div_le_self _ _) (hdig hi).1
  have hq1 : q1.toNat < 2 ^ 32 := by
    rw [e1.1]; exact digit_quotient_lt (by rw [e2.2]; exact Nat.mod_lt _ hd) (hdig lo).1
  have hword (q q' : UInt64) (hq : q.toNat < 2 ^ 32) (hq' : q'.toNat < 2 ^ 32) :
      ((q <<< 32) ||| q').toNat = q.toNat * 2 ^ 32 + q'.toNat := by
    have hshift : (q <<< 32).toNat = q.toNat <<< 32 := by
      rw [UInt64.toNat_shiftLeft, Nat.shiftLeft_eq, Nat.shiftLeft_eq]
      simp only [show (32 : UInt64).toNat % 64 = 32 from rfl]
      omega
    rw [UInt64.toNat_or, hshift, ← Nat.shiftLeft_add_eq_or_of_lt hq', Nat.shiftLeft_eq]
  rw [hword q3 q2 hq3 hq2, hword q1 q0 hq1 hq0]
  -- the number as its four digits, highest first, divided digit by digit
  have hN : hi.toNat * 2 ^ 64 + lo.toNat =
      (((hiDword hi).toNat * 2 ^ 32 + (loDword hi).toNat) * 2 ^ 32 + (hiDword lo).toNat) * 2 ^ 32 +
        (loDword lo).toNat := by
    rw [hiDword_toNat, loDword_toNat, hiDword_toNat, loDword_toNat]
    omega
  obtain ⟨d2, m2⟩ := longDiv_step (hiDword hi).toNat (loDword hi).toNat (2 ^ 32) d.toNat hd
  obtain ⟨d1, m1⟩ := longDiv_step ((hiDword hi).toNat * 2 ^ 32 + (loDword hi).toNat)
    (hiDword lo).toNat (2 ^ 32) d.toNat hd
  obtain ⟨d0, m0⟩ := longDiv_step
    (((hiDword hi).toNat * 2 ^ 32 + (loDword hi).toNat) * 2 ^ 32 + (hiDword lo).toNat)
    (loDword lo).toNat (2 ^ 32) d.toNat hd
  simp only [UInt32.toNat_zero, Nat.zero_mul, Nat.zero_add] at e3
  rw [hN, d0, m0, d1, m1, d2, m2, ← e3.1, ← e3.2, ← e2.1, ← e2.2, ← e1.1, ← e1.2, ← e0.1, ← e0.2]
  constructor
  · ring
  · rfl

end Equilibria.IntUtil
