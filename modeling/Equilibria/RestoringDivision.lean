import Mathlib

/-!
# Restoring division on a shift register

Binary long division as hardware and software loops do it: a `W`-bit register holds the
unread dividend bits at its top and the quotient bits found so far at its bottom. Each step
shifts the register left by one, moves its top bit into the remainder and subtracts the
divisor when the remainder reaches it, setting the freed low bit of the register. After `W`
steps the register holds the quotient and the remainder is the remainder, for every nonzero
divisor. The remainder is a natural number here; a fixed-width loop has to keep it exact.
-/

namespace Equilibria.RestoringDivision

/-- One step: the register's top bit joins the doubled remainder; when that reaches the
divisor it is subtracted and a quotient bit of one enters the register. -/
def step (W d : ℕ) (s : ℕ × ℕ) : ℕ × ℕ :=
  let r := 2 * s.1 + s.2 / 2 ^ (W - 1)
  if d ≤ r then (r - d, 2 * s.2 % 2 ^ W + 1) else (r, 2 * s.2 % 2 ^ W)

/-- `n` steps. -/
def steps (W d : ℕ) : ℕ → ℕ × ℕ → ℕ × ℕ
  | 0, s => s
  | n + 1, s => steps W d n (step W d s)

/-- The state with `p` dividend bits of `N` still unread: the remainder and quotient of the
bits read so far, and the unread bits above that quotient in the register. -/
def Inv (W d N p : ℕ) (s : ℕ × ℕ) : Prop :=
  s.1 = N / 2 ^ p % d ∧ s.2 = N % 2 ^ p * 2 ^ (W - p) + N / 2 ^ p / d

/-- Reading the next dividend bit doubles the prefix and adds the bit. -/
theorem div_pow_eq (N p : ℕ) : N / 2 ^ p = 2 * (N / 2 ^ (p + 1)) + N / 2 ^ p % 2 := by
  have h := Nat.mod_add_div (N / 2 ^ p) 2
  rw [Nat.div_div_eq_div_mul, ← pow_succ] at h
  omega

/-- The unread bits split into the next bit and the rest. -/
theorem mod_pow_succ_eq (N p : ℕ) : N % 2 ^ (p + 1) = N / 2 ^ p % 2 * 2 ^ p + N % 2 ^ p := by
  rw [Nat.mod_pow_succ]
  ring

/-- The register's top bit is the next unread dividend bit, and the shifted register keeps
the remaining unread bits above the doubled quotient. -/
theorem register_split {W N p Q : ℕ} (hp : p + 1 ≤ W) (hQ : Q < 2 ^ (W - (p + 1))) :
    (N % 2 ^ (p + 1) * 2 ^ (W - (p + 1)) + Q) / 2 ^ (W - 1) = N / 2 ^ p % 2 ∧
      2 * (N % 2 ^ (p + 1) * 2 ^ (W - (p + 1)) + Q) % 2 ^ W =
        N % 2 ^ p * 2 ^ (W - p) + 2 * Q := by
  set c := 2 ^ (W - (p + 1)) with hc
  set a := 2 ^ p with ha
  have hb : N / a % 2 < 2 := Nat.mod_lt _ (by norm_num)
  have hr : N % a < a := Nat.mod_lt _ (by positivity)
  have hpow1 : 2 ^ (W - 1) = a * c := by
    rw [ha, hc, ← pow_add]
    congr 1
    omega
  have hpow0 : 2 ^ (W - p) = 2 * c := by
    rw [hc, ← pow_succ']
    congr 1
    omega
  have hpowW : 2 ^ W = 2 * (a * c) := by
    rw [← hpow1, ← pow_succ']
    congr 1
    omega
  have hsplit := mod_pow_succ_eq N p
  rw [← ha] at hsplit
  rw [hsplit, hpow1, hpowW, hpow0]
  -- the register is `b * (a * c) + rest` with `rest < a * c`
  have hrest : N % a * c + Q < a * c := by
    have : N % a * c + c ≤ a * c := by
      have := Nat.mul_le_mul_right c (Nat.succ_le_of_lt hr)
      rw [Nat.succ_mul] at this
      exact this
    omega
  have hreg : (N / a % 2 * a + N % a) * c + Q = N / a % 2 * (a * c) + (N % a * c + Q) := by ring
  rw [hreg]
  constructor
  · rw [Nat.add_comm, Nat.add_mul_div_right _ _ (by positivity), Nat.div_eq_of_lt hrest,
      Nat.zero_add]
  · have h2 : 2 * (N / a % 2 * (a * c) + (N % a * c + Q)) =
        N / a % 2 * (2 * (a * c)) + (N % a * (2 * c) + 2 * Q) := by ring
    have hrest2 : N % a * (2 * c) + 2 * Q < 2 * (a * c) := by
      have e1 : N % a * (2 * c) = 2 * (N % a * c) := by ring
      omega
    rw [h2, Nat.add_comm, Nat.add_mul_mod_self_right, Nat.mod_eq_of_lt hrest2]

/-- One step keeps the invariant while there are unread bits, for every nonzero divisor. -/
theorem step_inv {W d N p : ℕ} {s : ℕ × ℕ} (hd : 0 < d) (hN : N < 2 ^ W) (hp : p + 1 ≤ W)
    (h : Inv W d N (p + 1) s) : Inv W d N p (step W d s) := by
  obtain ⟨hR, hX⟩ := h
  have hQ : N / 2 ^ (p + 1) / d < 2 ^ (W - (p + 1)) := by
    have hT : N / 2 ^ (p + 1) < 2 ^ (W - (p + 1)) := by
      rw [Nat.div_lt_iff_lt_mul (by positivity), ← pow_add]
      rwa [Nat.sub_add_cancel hp]
    exact lt_of_le_of_lt (Nat.div_le_self _ _) hT
  obtain ⟨htop, hshift⟩ := register_split (N := N) hp hQ
  have hnext := div_pow_eq N p
  have hdm := Nat.div_add_mod (N / 2 ^ (p + 1)) d
  have hRlt : s.1 < d := by rw [hR]; exact Nat.mod_lt _ hd
  have hb : N / 2 ^ p % 2 < 2 := Nat.mod_lt _ (by norm_num)
  rw [← hX] at htop hshift
  -- the bits read so far, with the new one: `2 * d * Q + r`
  have hprefix : N / 2 ^ p = d * (2 * (N / 2 ^ (p + 1) / d)) + (2 * s.1 + N / 2 ^ p % 2) := by
    rw [hR]
    nlinarith [hnext, hdm]
  unfold step
  simp only [htop]
  split
  · rename_i hle
    have hlt : 2 * s.1 + N / 2 ^ p % 2 - d < d := by omega
    have hsum : 2 * s.1 + N / 2 ^ p % 2 - d + d * (2 * (N / 2 ^ (p + 1) / d) + 1) =
        N / 2 ^ p := by
      have : d * (2 * (N / 2 ^ (p + 1) / d) + 1) = d * (2 * (N / 2 ^ (p + 1) / d)) + d := by
        ring
      omega
    have hqr := (Nat.div_mod_unique hd).mpr ⟨hsum, hlt⟩
    refine ⟨hqr.2.symm, ?_⟩
    rw [hshift, hqr.1]
    ring
  · rename_i hgt
    have hlt : 2 * s.1 + N / 2 ^ p % 2 < d := by omega
    have hsum : 2 * s.1 + N / 2 ^ p % 2 + d * (2 * (N / 2 ^ (p + 1) / d)) = N / 2 ^ p := by
      omega
    have hqr := (Nat.div_mod_unique hd).mpr ⟨hsum, hlt⟩
    exact ⟨hqr.2.symm, by rw [hshift, hqr.1]⟩

/-- The invariant with `n` bits unread leads, after `n` steps, to the invariant with none. -/
theorem steps_inv {W d N : ℕ} (hd : 0 < d) (hN : N < 2 ^ W) :
    ∀ n (s : ℕ × ℕ), n ≤ W → Inv W d N n s → Inv W d N 0 (steps W d n s)
  | 0, s, _, h => h
  | n + 1, s, hn, h => steps_inv hd hN n _ (by omega) (step_inv hd hN hn h)

/-- `W` steps from a zero remainder and a register holding a `W`-bit dividend leave the
remainder and the quotient. -/
theorem steps_correct {W d N : ℕ} (hd : 0 < d) (hN : N < 2 ^ W) :
    steps W d W (0, N) = (N % d, N / d) := by
  have hinit : Inv W d N W (0, N) := by
    have h0 : N / 2 ^ W = 0 := Nat.div_eq_of_lt hN
    refine ⟨by rw [h0]; rfl, ?_⟩
    simp only [h0, Nat.zero_div, Nat.add_zero, Nat.sub_self, pow_zero, Nat.mul_one]
    exact (Nat.mod_eq_of_lt hN).symm
  obtain ⟨h1, h2⟩ := steps_inv hd hN W (0, N) le_rfl hinit
  simp only [pow_zero, Nat.div_one, Nat.mod_one, Nat.zero_mul, Nat.zero_add] at h1 h2
  exact Prod.ext h1 h2

end Equilibria.RestoringDivision
