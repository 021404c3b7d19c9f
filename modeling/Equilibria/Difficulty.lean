import Equilibria.IntUtil
import Equilibria.CryptonoteBasic

/-!
# The proof-of-work check

`check_hash` accepts a block hash for a difficulty when the hash, read as a little-endian 256-bit
integer, times the difficulty stays below `2^256`. For a difficulty that fits 64 bits it takes the
fast path `check_hash_64`, which multiplies the hash word by word and follows only the carries into
the top word, after it has rejected on the top word's product alone. Above that, `check_hash_128`
computes the product in 512 bits. On x86-64 the word product is `mul128`; elsewhere it is the
portable `mul`, which recombines four 32-bit partial products with two carry chains.
-/

namespace Equilibria.Difficulty

open CryptonoteBasic IntUtil

/-! ## The word product -/

/-- The portable `mul` of `difficulty.cpp`: the low and the high word of the product. -/
def portableMul (a b : UInt64) : UInt64 × UInt64 :=
  let aLow := a &&& 0xFFFFFFFF
  let aHigh := a >>> 32
  let bLow := b &&& 0xFFFFFFFF
  let bHigh := b >>> 32
  let res := aLow * bLow
  let lowRes1 := res &&& 0xFFFFFFFF
  let carry := res >>> 32
  let res := aHigh * bLow + carry
  let highResHigh1 := res >>> 32
  let highResLow1 := res &&& 0xFFFFFFFF
  let res := aLow * bHigh
  let lowRes2 := res &&& 0xFFFFFFFF
  let carry := res >>> 32
  let res := aHigh * bHigh + carry
  let highResHigh2 := res >>> 32
  let highResLow2 := res &&& 0xFFFFFFFF
  -- the addition
  let r := highResLow1 + lowRes2
  let carry := r >>> 32
  let low := (r <<< 32) ||| lowRes1
  let r := highResHigh1 + highResLow2 + carry
  let d3 := r &&& 0xFFFFFFFF
  let carry := r >>> 32
  let r := highResHigh2 + carry
  (low, d3 ||| (r <<< 32))

/-- `mul`: `mul128` on x86-64, the portable product elsewhere. -/
def mul (onX8664 : Bool) (a b : UInt64) : UInt64 × UInt64 :=
  if onX8664 then mul128 a b else portableMul a b

theorem and_mask_toNat (x : UInt64) : (x &&& 0xFFFFFFFF).toNat = x.toNat % 2 ^ 32 :=
  loDword_toNat x

theorem shiftRight_32_toNat (x : UInt64) : (x >>> 32).toNat = x.toNat / 2 ^ 32 :=
  hiDword_toNat x

/-- A word shifted up by 32 bits and the low half of another are combined by `|` as by `+`. -/
theorem shiftLeft_or_mask_toNat (x y : UInt64) :
    ((x <<< 32) ||| (y &&& 0xFFFFFFFF)).toNat = x.toNat % 2 ^ 32 * 2 ^ 32 + y.toNat % 2 ^ 32 := by
  have hshift : (x <<< 32).toNat = (x.toNat % 2 ^ 32) <<< 32 := by
    rw [UInt64.toNat_shiftLeft, Nat.shiftLeft_eq, Nat.shiftLeft_eq]
    simp only [show (32 : UInt64).toNat % 64 = 32 from rfl]
    omega
  have hy : (y &&& (0xFFFFFFFF : UInt64)).toNat < 2 ^ 32 := by
    rw [and_mask_toNat]
    exact Nat.mod_lt _ (by norm_num)
  rw [UInt64.toNat_or, hshift, ← Nat.shiftLeft_add_eq_or_of_lt hy, Nat.shiftLeft_eq, and_mask_toNat]

theorem mask_or_shiftLeft_toNat (x y : UInt64) :
    ((y &&& (0xFFFFFFFF : UInt64)) ||| (x <<< 32)).toNat =
      x.toNat % 2 ^ 32 * 2 ^ 32 + y.toNat % 2 ^ 32 := by
  rw [UInt64.or_comm, shiftLeft_or_mask_toNat]

/-- A product of two half words stays below `2^64`, with room for a half-word carry. -/
theorem halfWord_mul_le {u v : ℕ} (hu : u < 2 ^ 32) (hv : v < 2 ^ 32) :
    u * v ≤ (2 ^ 32 - 1) * (2 ^ 32 - 1) :=
  Nat.mul_le_mul (by omega) (by omega)

/-- The portable `mul` computes the exact 128-bit product. -/
theorem portableMul_correct (a b : UInt64) :
    (portableMul a b).2.toNat * 2 ^ 64 + (portableMul a b).1.toNat = a.toNat * b.toNat := by
  have ha := a.toNat_lt
  have hb := b.toNat_lt
  -- the half words and their four products, each exact in 64 bits
  set A1 := a.toNat / 2 ^ 32
  set A0 := a.toNat % 2 ^ 32
  set B1 := b.toNat / 2 ^ 32
  set B0 := b.toNat % 2 ^ 32
  have hA1 : A1 < 2 ^ 32 := by omega
  have hA0 : A0 < 2 ^ 32 := Nat.mod_lt _ (by norm_num)
  have hB1 : B1 < 2 ^ 32 := by omega
  have hB0 : B0 < 2 ^ 32 := Nat.mod_lt _ (by norm_num)
  have h00 := halfWord_mul_le hA0 hB0
  have h10 := halfWord_mul_le hA1 hB0
  have h01 := halfWord_mul_le hA0 hB1
  have h11 := halfWord_mul_le hA1 hB1
  have hab : a.toNat * b.toNat = A1 * B1 * 2 ^ 64 + (A1 * B0 + A0 * B1) * 2 ^ 32 + A0 * B0 := by
    have ea : a.toNat = A1 * 2 ^ 32 + A0 := by omega
    have eb : b.toNat = B1 * 2 ^ 32 + B0 := by omega
    rw [ea, eb]
    ring
  have hmul (x y : UInt64) (hx : x.toNat < 2 ^ 32) (hy : y.toNat < 2 ^ 32) :
      (x * y).toNat = x.toNat * y.toNat := by
    rw [UInt64.toNat_mul, Nat.mod_eq_of_lt (by have := halfWord_mul_le hx hy; omega)]
  have hLow (x : UInt64) : (x &&& (0xFFFFFFFF : UInt64)).toNat < 2 ^ 32 := by
    rw [and_mask_toNat]
    exact Nat.mod_lt _ (by norm_num)
  have hHigh (x : UInt64) : (x >>> 32).toNat < 2 ^ 32 := by
    rw [shiftRight_32_toNat]
    have := x.toNat_lt
    omega
  have p00 : ((a &&& (0xFFFFFFFF : UInt64)) * (b &&& (0xFFFFFFFF : UInt64))).toNat = A0 * B0 := by
    rw [hmul _ _ (hLow a) (hLow b), and_mask_toNat, and_mask_toNat]
  have p10 : ((a >>> 32) * (b &&& (0xFFFFFFFF : UInt64))).toNat = A1 * B0 := by
    rw [hmul _ _ (hHigh a) (hLow b), shiftRight_32_toNat, and_mask_toNat]
  have p01 : ((a &&& (0xFFFFFFFF : UInt64)) * (b >>> 32)).toNat = A0 * B1 := by
    rw [hmul _ _ (hLow a) (hHigh b), and_mask_toNat, shiftRight_32_toNat]
  have p11 : ((a >>> 32) * (b >>> 32)).toNat = A1 * B1 := by
    rw [hmul _ _ (hHigh a) (hHigh b), shiftRight_32_toNat, shiftRight_32_toNat]
  -- the words of the two carry chains, named as the source names them
  simp only [portableMul]
  set res1 := (a &&& (0xFFFFFFFF : UInt64)) * (b &&& (0xFFFFFFFF : UInt64))
  set res2 := (a >>> 32) * (b &&& (0xFFFFFFFF : UInt64)) + res1 >>> 32
  set res3 := (a &&& (0xFFFFFFFF : UInt64)) * (b >>> 32)
  set res4 := (a >>> 32) * (b >>> 32) + res3 >>> 32
  set r1 := (res2 &&& (0xFFFFFFFF : UInt64)) + (res3 &&& (0xFFFFFFFF : UInt64))
  set r2 := res2 >>> 32 + (res4 &&& (0xFFFFFFFF : UInt64)) + r1 >>> 32
  set r3 := res4 >>> 32 + r2 >>> 32
  -- no sum wraps: a half-word product leaves room for a half-word carry
  have hres2 : res2.toNat = A1 * B0 + A0 * B0 / 2 ^ 32 := by
    rw [UInt64.toNat_add, p10, shiftRight_32_toNat, p00]
    omega
  have hres4 : res4.toNat = A1 * B1 + A0 * B1 / 2 ^ 32 := by
    rw [UInt64.toNat_add, p11, shiftRight_32_toNat, p01]
    omega
  have hr1 : r1.toNat = res2.toNat % 2 ^ 32 + A0 * B1 % 2 ^ 32 := by
    rw [UInt64.toNat_add, and_mask_toNat, and_mask_toNat, p01]
    omega
  have hr2 : r2.toNat = res2.toNat / 2 ^ 32 + res4.toNat % 2 ^ 32 + r1.toNat / 2 ^ 32 := by
    rw [UInt64.toNat_add, UInt64.toNat_add, shiftRight_32_toNat, and_mask_toNat,
      shiftRight_32_toNat]
    omega
  have hr3 : r3.toNat = res4.toNat / 2 ^ 32 + r2.toNat / 2 ^ 32 := by
    rw [UInt64.toNat_add, shiftRight_32_toNat, shiftRight_32_toNat]
    omega
  rw [mask_or_shiftLeft_toNat, shiftLeft_or_mask_toNat, p00, hab]
  omega

/-- Both builds' `mul` compute the exact 128-bit product. -/
theorem mul_correct (onX8664 : Bool) (a b : UInt64) :
    (mul onX8664 a b).2.toNat * 2 ^ 64 + (mul onX8664 a b).1.toNat = a.toNat * b.toNat := by
  cases onX8664 with
  | false => exact portableMul_correct a b
  | true => exact mul128_correct a b

/-! ## The carries -/

/-- `cadd`: the sum of two words carries out. -/
def cadd (a b : UInt64) : Bool := a + b < a

/-- `cadc`: the sum of two words and a carry carries out. -/
def cadc (a b : UInt64) (c : Bool) : Bool := a + b < a || (c && a + b == -1)

/-- `cadd` carries exactly when the exact sum reaches `2^64`. -/
theorem cadd_eq (a b : UInt64) : cadd a b = decide (2 ^ 64 ≤ a.toNat + b.toNat) := by
  have ha := a.toNat_lt
  have hb := b.toNat_lt
  simp only [cadd, UInt64.lt_iff_toNat_lt, UInt64.toNat_add, decide_eq_decide]
  omega

/-- `cadc` carries exactly when the exact sum with the carry in reaches `2^64`: the wrapped sum
`2^64 - 1` carries exactly when a carry comes in. -/
theorem cadc_eq (a b : UInt64) (c : Bool) :
    cadc a b c = decide (2 ^ 64 ≤ a.toNat + b.toNat + c.toNat) := by
  have ha := a.toNat_lt
  have hb := b.toNat_lt
  have hmax : (-1 : UInt64).toNat = 2 ^ 64 - 1 := rfl
  rw [cadc, Bool.eq_iff_iff]
  simp only [Bool.or_eq_true, decide_eq_true_eq, Bool.and_eq_true, beq_iff_eq,
    UInt64.lt_iff_toNat_lt, ← UInt64.toNat_inj, UInt64.toNat_add, hmax]
  cases c <;>
    simp only [Bool.toNat_false, Bool.toNat_true, Bool.false_eq_true, false_and, or_false,
      true_and] <;> omega

/-! ## The check -/

/-- `swap64le(((const uint64_t *) &hash)[i])`: the `i`-th 64-bit word of the hash. The bytes are
little-endian, so `swap64le` leaves the word as it is read. -/
def hashWord (hash : Hash) (i : ℕ) : UInt64 := UInt64.ofNat (hash.data.toNat / 2 ^ (64 * i))

/-- `check_hash_64`. -/
def checkHash64 (onX8664 : Bool) (hash : Hash) (difficulty : UInt64) : Bool :=
  -- first the highest word, which most likely fails for a random hash
  let (top, high) := mul onX8664 (hashWord hash 3) difficulty
  if high != 0 then false
  else
    let (_, cur) := mul onX8664 (hashWord hash 0) difficulty
    let (low, high) := mul onX8664 (hashWord hash 1) difficulty
    let carry := cadd cur low
    let cur := high
    let (low, high) := mul onX8664 (hashWord hash 2) difficulty
    let carry := cadc cur low carry
    let carry := cadc high top carry
    !carry

/-- `max256bit`, the largest 256-bit value. -/
def max256bit : ℕ := 2 ^ 256 - 1

/-- `check_hash_128`, built with `FORCE_FULL_128_BITS`: the hash assembled from its four words,
highest first, times the `uint128_t` difficulty, in `uint512_t` arithmetic, where no value here
comes near `2^512`. -/
def checkHash128 (hash : Hash) (difficulty : BitVec 128) : Bool :=
  let hashVal := (List.range 4).foldl
    (fun hashVal i => (hashVal <<< 64) ||| (hashWord hash (3 - i)).toNat) 0
  decide (hashVal * difficulty.toNat ≤ max256bit)

/-- `max64bit`, the largest 64-bit value. -/
def max64bit : ℕ := 2 ^ 64 - 1

/-- `check_hash`: the fast path for a difficulty that fits 64 bits. -/
def checkHash (onX8664 : Bool) (hash : Hash) (difficulty : BitVec 128) : Bool :=
  if difficulty.toNat ≤ max64bit then checkHash64 onX8664 hash (UInt64.ofNat difficulty.toNat)
  else checkHash128 hash difficulty

theorem hashWord_toNat (hash : Hash) (i : ℕ) :
    (hashWord hash i).toNat = hash.data.toNat / 2 ^ (64 * i) % 2 ^ 64 :=
  UInt64.toNat_ofNat'

/-- The hash is its four words, lowest first. -/
theorem hash_eq_words (hash : Hash) :
    hash.data.toNat = (hashWord hash 0).toNat + (hashWord hash 1).toNat * 2 ^ 64 +
      (hashWord hash 2).toNat * 2 ^ 128 + (hashWord hash 3).toNat * 2 ^ 192 := by
  have hlt := hash.data.isLt
  simp only [hashWord_toNat]
  omega

/-- The loop of `check_hash_128` puts the hash together from its words. -/
theorem checkHash128_eq (hash : Hash) (difficulty : BitVec 128) :
    checkHash128 hash difficulty = decide (hash.data.toNat * difficulty.toNat < 2 ^ 256) := by
  have hword (x : ℕ) (i : ℕ) : (x <<< 64) ||| (hashWord hash i).toNat =
      x * 2 ^ 64 + (hashWord hash i).toNat := by
    rw [← Nat.shiftLeft_add_eq_or_of_lt (hashWord hash i).toNat_lt, Nat.shiftLeft_eq]
  have hval : (List.range 4).foldl
      (fun hashVal i => (hashVal <<< 64) ||| (hashWord hash (3 - i)).toNat) 0 = hash.data.toNat := by
    simp only [List.range_succ, List.range_zero, List.nil_append, List.foldl_append,
      List.foldl_cons, List.foldl_nil, hword, Nat.reduceSub]
    rw [hash_eq_words hash]
    omega
  simp only [checkHash128, hval, max256bit, decide_eq_decide]
  omega

/-- A carry test on a sum below `2^65` is the sum's high digit. -/
theorem toNat_decide_le {x : ℕ} (hx : x < 2 * 2 ^ 64) : (decide (2 ^ 64 ≤ x)).toNat = x / 2 ^ 64 := by
  by_cases h : 2 ^ 64 ≤ x
  · simp only [h, decide_true, Bool.toNat_true]
    omega
  · simp only [h, decide_false, Bool.toNat_false]
    omega

/-- The fast path is exact: it accepts exactly when the hash times the difficulty stays below
`2^256`. A nonzero high word of the top word's product already puts the product past `2^256`;
otherwise the three carries are those of the exact sum of the partial products, and the last is
the bit of `2^256`. -/
theorem checkHash64_iff (onX8664 : Bool) (hash : Hash) (difficulty : UInt64) :
    checkHash64 onX8664 hash difficulty = true ↔ hash.data.toNat * difficulty.toNat < 2 ^ 256 := by
  have e0 := mul_correct onX8664 (hashWord hash 0) difficulty
  have e1 := mul_correct onX8664 (hashWord hash 1) difficulty
  have e2 := mul_correct onX8664 (hashWord hash 2) difficulty
  have e3 := mul_correct onX8664 (hashWord hash 3) difficulty
  have hH : hash.data.toNat * difficulty.toNat =
      (hashWord hash 0).toNat * difficulty.toNat +
        (hashWord hash 1).toNat * difficulty.toNat * 2 ^ 64 +
        (hashWord hash 2).toNat * difficulty.toNat * 2 ^ 128 +
        (hashWord hash 3).toNat * difficulty.toNat * 2 ^ 192 := by
    rw [hash_eq_words hash]
    ring
  rw [hH]
  unfold checkHash64
  generalize mul onX8664 (hashWord hash 3) difficulty = m3 at e3 ⊢
  generalize mul onX8664 (hashWord hash 0) difficulty = m0 at e0 ⊢
  generalize mul onX8664 (hashWord hash 1) difficulty = m1 at e1 ⊢
  generalize mul onX8664 (hashWord hash 2) difficulty = m2 at e2 ⊢
  obtain ⟨top, high3⟩ := m3
  obtain ⟨low0, high0⟩ := m0
  obtain ⟨low1, high1⟩ := m1
  obtain ⟨low2, high2⟩ := m2
  dsimp only at e0 e1 e2 e3 ⊢
  have := top.toNat_lt
  have := low0.toNat_lt
  have := low1.toNat_lt
  have := low2.toNat_lt
  have := high0.toNat_lt
  have := high1.toNat_lt
  have := high2.toNat_lt
  by_cases hhigh : high3 = 0
  · -- the three carries, each the high digit of its exact sum
    have hc1 : (cadd high0 low1).toNat = (high0.toNat + low1.toNat) / 2 ^ 64 := by
      rw [cadd_eq, toNat_decide_le (by omega)]
    have hc2 : (cadc high1 low2 (cadd high0 low1)).toNat =
        (high1.toNat + low2.toNat + (cadd high0 low1).toNat) / 2 ^ 64 := by
      rw [cadc_eq, toNat_decide_le (by omega)]
    have hc3 : (cadc high2 top (cadc high1 low2 (cadd high0 low1))).toNat =
        (high2.toNat + top.toNat + (cadc high1 low2 (cadd high0 low1)).toNat) / 2 ^ 64 := by
      rw [cadc_eq, toNat_decide_le (by have := Bool.toNat_le (cadc high1 low2 (cadd high0 low1)); omega)]
    have h3 : high3.toNat = 0 := by rw [hhigh]; rfl
    simp only [hhigh, bne_self_eq_false, Bool.false_eq_true, if_false, Bool.not_eq_true']
    -- the last carry is the bit of `2^256` in the exact product
    generalize cadc high2 top (cadc high1 low2 (cadd high0 low1)) = c3 at hc3 ⊢
    cases c3
    · simp only [Bool.toNat_false, true_iff] at hc3 ⊢
      omega
    · simp only [Bool.toNat_true, Bool.true_eq_false, false_iff, not_lt] at hc3 ⊢
      omega
  · -- the top word's product alone is past `2^64`
    have h3 : 0 < high3.toNat := by
      rw [Nat.pos_iff_ne_zero, Ne, ← UInt64.toNat_zero, UInt64.toNat_inj]
      exact hhigh
    simp only [bne_iff_ne, ne_eq, hhigh, not_false_eq_true, if_true, Bool.false_eq_true, false_iff,
      not_lt]
    omega

/-- On both builds the fast path agrees with the 512-bit check: for every hash and every 64-bit
difficulty it accepts exactly when the hash times the difficulty stays below `2^256`, the
comparison `check_hash_128` makes; and the portable `mul` is the exact product. -/
theorem checkHash64_agrees_with_checkHash128 (hash : Hash) (difficulty : UInt64) (onX8664 : Bool) :
    (checkHash64 onX8664 hash difficulty = true ↔
        hash.data.toNat * difficulty.toNat < 2 ^ 256) ∧
      checkHash64 onX8664 hash difficulty =
        checkHash128 hash (BitVec.ofNat 128 difficulty.toNat) ∧
      ∀ a b : UInt64,
        (portableMul a b).2.toNat * 2 ^ 64 + (portableMul a b).1.toNat = a.toNat * b.toNat := by
  have hd : (BitVec.ofNat 128 difficulty.toNat).toNat = difficulty.toNat := by
    rw [BitVec.toNat_ofNat]
    have := difficulty.toNat_lt
    omega
  refine ⟨checkHash64_iff onX8664 hash difficulty, ?_, portableMul_correct⟩
  rw [checkHash128_eq, hd, Bool.eq_iff_iff, decide_eq_true_eq]
  exact checkHash64_iff onX8664 hash difficulty

/-- So `check_hash` is the exact comparison for every `uint128_t` difficulty, on both builds. -/
theorem checkHash_eq (onX8664 : Bool) (hash : Hash) (difficulty : BitVec 128) :
    checkHash onX8664 hash difficulty = decide (hash.data.toNat * difficulty.toNat < 2 ^ 256) := by
  unfold checkHash
  split_ifs with hsmall
  · have hd : (UInt64.ofNat difficulty.toNat).toNat = difficulty.toNat := by
      rw [UInt64.toNat_ofNat']
      exact Nat.mod_eq_of_lt (by unfold max64bit at hsmall; omega)
    rw [Bool.eq_iff_iff, checkHash64_iff, hd, decide_eq_true_eq]
  · exact checkHash128_eq hash difficulty

end Equilibria.Difficulty
