import Mathlib

/-!
# Comparing digit strings by a weighted sum of signs

Branch-free comparisons of multi-word numbers add up the signs of the word differences, the
`i`-th weighted by `2^i`. Each weight is larger than all lower ones together, so the sign of the
sum is the sign of the most significant difference, which is the sign of the difference of the
two numbers when every word is a digit of the same base.
-/

namespace Equilibria.SignDigits

/-- `Σ sign (cᵢ - sᵢ) · 2^i` over two little-endian digit strings, up to the shorter one. -/
def signSum : List ℕ → List ℕ → ℤ
  | c :: cs, s :: ss => ((c : ℤ) - s).sign + 2 * signSum cs ss
  | _, _ => 0

@[simp] theorem signSum_cons (c s : ℕ) (cs ss : List ℕ) :
    signSum (c :: cs) (s :: ss) = ((c : ℤ) - s).sign + 2 * signSum cs ss := rfl

theorem neg_one_le_sign (x : ℤ) : -1 ≤ x.sign ∧ x.sign ≤ 1 := by
  rcases Int.sign_trichotomy x with h | h | h <;> rw [h] <;> norm_num

/-- The sum stays strictly between `-2^n` and `2^n` for `n` digits. -/
theorem signSum_bounds : ∀ cs ss : List ℕ,
    -2 ^ cs.length < signSum cs ss ∧ signSum cs ss < 2 ^ cs.length
  | [], _ => by simp [signSum]
  | c :: cs, [] => by
    have := pow_pos (two_pos : (0 : ℤ) < 2) (c :: cs).length
    simp only [signSum]
    constructor <;> linarith
  | c :: cs, s :: ss => by
    obtain ⟨ihlo, ihhi⟩ := signSum_bounds cs ss
    obtain ⟨hlo, hhi⟩ := neg_one_le_sign ((c : ℤ) - s)
    rw [signSum_cons, List.length_cons, pow_succ]
    constructor <;> linarith

section Base

variable {b : ℕ}

/-- For digit strings of one length in base `b`, the weighted sum of the word signs has the sign
of the difference of the numbers. The induction is on the strings from their low digit: a
nonzero sum over the higher digits outweighs the low sign, as a nonzero difference of the higher
parts outweighs the low digits' difference. -/
theorem signSum_sign : ∀ {cs ss : List ℕ}, cs.length = ss.length →
    (∀ c ∈ cs, c < b) → (∀ s ∈ ss, s < b) →
      (signSum cs ss).sign = (((Nat.ofDigits b cs : ℕ) : ℤ) - (Nat.ofDigits b ss : ℕ)).sign
  | [], [], _, _, _ => by simp [signSum]
  | c :: cs, s :: ss, hlen, hcs, hss => by
    have ih := signSum_sign (Nat.succ.inj hlen) (fun x hx => hcs x (.tail _ hx))
      (fun x hx => hss x (.tail _ hx))
    have hc := hcs c (.head _)
    have hs := hss s (.head _)
    rw [signSum_cons]
    set t := signSum cs ss
    set D := ((Nat.ofDigits b cs : ℕ) : ℤ) - (Nat.ofDigits b ss : ℕ)
    have hdiff : (((Nat.ofDigits b (c :: cs) : ℕ) : ℤ) - (Nat.ofDigits b (s :: ss) : ℕ)) =
        ((c : ℤ) - s) + b * D := by
      simp only [D, Nat.ofDigits_cons, Nat.cast_add, Nat.cast_mul]
      ring
    rw [hdiff]
    obtain ⟨hlo, hhi⟩ := neg_one_le_sign ((c : ℤ) - s)
    rcases Int.sign_trichotomy D with hD | hD | hD
    · -- the higher part of `c` is larger, by at least one unit of `b`
      have ht : 0 < t := Int.sign_eq_one_iff_pos.mp (ih.trans hD)
      have hDpos : 0 < D := Int.sign_eq_one_iff_pos.mp hD
      have hbD : (b : ℤ) ≤ b * D := le_mul_of_one_le_right (by positivity) hDpos
      rw [Int.sign_eq_one_of_pos (by linarith), Int.sign_eq_one_of_pos (by linarith)]
    · -- the higher digits agree: the low digit decides
      have ht : t = 0 := Int.sign_eq_zero_iff_zero.mp (ih.trans hD)
      have hD0 : D = 0 := Int.sign_eq_zero_iff_zero.mp hD
      rw [ht, hD0]
      simp
    · -- the higher part of `s` is larger
      have ht : t < 0 := Int.sign_eq_neg_one_iff_neg.mp (ih.trans hD)
      have hDneg : D < 0 := Int.sign_eq_neg_one_iff_neg.mp hD
      have hbD : (b : ℤ) * D ≤ -b := by nlinarith
      rw [Int.sign_eq_neg_one_of_neg (by linarith), Int.sign_eq_neg_one_of_neg (by linarith)]

end Base

end Equilibria.SignDigits
