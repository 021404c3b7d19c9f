import Equilibria.SignDigits

/-!
# Scalars modulo the group order

The scalar functions of `crypto-ops.c` work on 32-byte little-endian strings, taken here as the
number they hold (`BitVec 256`, as the keys of `CryptonoteBasic`). `sc_check` accepts the
canonical scalars, those below the order `ℓ` of the base point, without a branch: it adds the
signs of the differences between the eight 32-bit words of `ℓ - 1` and of the scalar, the `i`-th
word's sign weighted by `2^i`, and keeps the sign of the sum by an arithmetic shift.
-/

namespace Equilibria.CryptoOps

open SignDigits

/-- `ℓ = 2^252 + 27742317777372353535851937790883648493`, the order of the base point. -/
def groupOrder : ℕ := 2 ^ 252 + 27742317777372353535851937790883648493

/-- `load_4(s + i)`: the four bytes from offset `i`, little-endian. -/
def load4 (s : BitVec 256) (i : ℕ) : ℕ := s.toNat / 2 ^ (8 * i) % 2 ^ 32

/-- `signum`. -/
def signum (a : ℤ) : ℤ := if a > 0 then 1 else if a < 0 then -1 else 0

/-- `sc_check`: 0 for a canonical scalar, -1 otherwise. The left shift of a negative `int64_t`
is undefined in C; the compilers emit the multiplication by `2^i` written here. `>> 8` of a
negative sum is the arithmetic shift, the floor division by `2^8`; the count is a natural
number, as the shift of `Int` by `Nat` has it. -/
def scCheck (s : BitVec 256) : ℤ :=
  let s0 : ℤ := load4 s 0
  let s1 : ℤ := load4 s 4
  let s2 : ℤ := load4 s 8
  let s3 : ℤ := load4 s 12
  let s4 : ℤ := load4 s 16
  let s5 : ℤ := load4 s 20
  let s6 : ℤ := load4 s 24
  let s7 : ℤ := load4 s 28
  (signum (1559614444 - s0) + signum (1477600026 - s1) * 2 ^ 1 + signum (2734136534 - s2) * 2 ^ 2 +
    signum (350157278 - s3) * 2 ^ 3 + signum (-s4) * 2 ^ 4 + signum (-s5) * 2 ^ 5 +
    signum (-s6) * 2 ^ 6 + signum (268435456 - s7) * 2 ^ 7) >>> (8 : ℕ)

theorem signum_eq_sign (a : ℤ) : signum a = a.sign := by
  rcases lt_trichotomy a 0 with h | h | h
  · rw [signum, if_neg (by omega), if_pos h, Int.sign_eq_neg_one_of_neg h]
  · rw [h, signum]
    rfl
  · rw [signum, if_pos h, Int.sign_eq_one_of_pos h]

/-- The eight 32-bit words of `ℓ - 1`, lowest first: `ℓ`'s lowest word less one, then `ℓ`'s. -/
def orderWords : List ℕ := [1559614444, 1477600026, 2734136534, 350157278, 0, 0, 0, 268435456]

theorem ofDigits_orderWords : Nat.ofDigits (2 ^ 32) orderWords = groupOrder - 1 := by
  norm_num [orderWords, groupOrder, Nat.ofDigits]

/-- The eight words `sc_check` loads. -/
def scalarWords (s : BitVec 256) : List ℕ := (List.range 8).map fun i => load4 s (4 * i)

theorem ofDigits_scalarWords (s : BitVec 256) : Nat.ofDigits (2 ^ 32) (scalarWords s) = s.toNat := by
  have hlt := s.isLt
  simp only [scalarWords, load4, List.range_succ, List.range_zero, List.nil_append,
    List.map_cons, List.map_nil, List.cons_append, Nat.ofDigits_cons, Nat.ofDigits_nil]
  norm_num
  omega

/-- The shifted sum is `0` or `-1` by the sign of a sum strictly inside `2^8`. -/
theorem shiftRight_eight_of_bounds {x : ℤ} (hlo : -2 ^ 8 < x) (hhi : x < 2 ^ 8) :
    x >>> (8 : ℕ) = if 0 ≤ x then 0 else -1 := by
  rw [Int.shiftRight_eq_div_pow]
  split_ifs with h <;> omega

/-- The sum `sc_check` shifts is the weighted sign sum of the words of `ℓ - 1` against the
scalar's. -/
theorem scCheck_eq_signSum (s : BitVec 256) :
    scCheck s = signSum orderWords (scalarWords s) >>> (8 : ℕ) := by
  simp only [scCheck, signum_eq_sign, orderWords, scalarWords, List.range_succ, List.range_zero,
    List.nil_append, List.map_cons, List.map_nil, List.cons_append, signSum_cons, signSum]
  congr 1
  push_cast
  ring_nf

/-- `sc_check` returns `0` exactly for the scalars below `ℓ`, and `-1` for the others. -/
theorem scCheck_eq (s : BitVec 256) : scCheck s = if s.toNat < groupOrder then 0 else -1 := by
  have hwords : ∀ w ∈ scalarWords s, w < 2 ^ 32 := by
    intro w hw
    obtain ⟨i, -, rfl⟩ := List.mem_map.mp hw
    exact Nat.mod_lt _ (by norm_num)
  have horder : ∀ w ∈ orderWords, w < 2 ^ 32 := by decide
  have hsign := signSum_sign (by rfl) horder hwords
  rw [ofDigits_orderWords, ofDigits_scalarWords] at hsign
  obtain ⟨hlo, hhi⟩ := signSum_bounds orderWords (scalarWords s)
  have hlen : orderWords.length = 8 := rfl
  rw [hlen] at hlo hhi
  have hl : 1 ≤ groupOrder := by norm_num [groupOrder]
  rw [scCheck_eq_signSum, shiftRight_eight_of_bounds hlo hhi]
  -- the sum is nonnegative exactly when the scalar is at most `ℓ - 1`
  have hiff : 0 ≤ signSum orderWords (scalarWords s) ↔ s.toNat < groupOrder := by
    rw [← Int.sign_nonneg_iff, hsign, Int.sign_nonneg_iff]
    omega
  by_cases h : s.toNat < groupOrder
  · rw [if_pos (hiff.mpr h), if_pos h]
  · rw [if_neg (mt hiff.mp h), if_neg h]

end Equilibria.CryptoOps
