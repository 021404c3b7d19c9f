import Mathlib

/-!
# Sums of floor quotients

Rounding each share of a split down and then adding the shares never exceeds rounding the
whole down: `Σ ⌊f i / P⌋ ≤ ⌊(Σ f i) / P⌋`. For the shares `a * w i / P` of an amount `a` split
by weights `w i` out of `P`, the shares add up to at most `a` whenever the weights add up to at
most `P`, so a split computed share by share never pays out more than it splits.

A cut paid on top of the shares to the entries with one key, in a list whose keys are
distinct, is paid at most once; so a split of `P` that shares `P - o` by weights and pays `o` to
one key hands out at most `P`.

The last section relates a sum before and after one entry of the list is replaced, which is how
a running total kept beside the entries moves.
-/

namespace Equilibria.FloorSum

variable {ι : Type*}

/-- Rounding down each summand loses at least as much as rounding down the sum. -/
theorem sum_map_div_le (l : List ι) (f : ι → ℕ) (P : ℕ) :
    (l.map fun i => f i / P).sum ≤ (l.map f).sum / P := by
  induction l with
  | nil => simp
  | cons i l ih =>
    simp only [List.map_cons, List.sum_cons]
    calc f i / P + (l.map fun i => f i / P).sum
        ≤ f i / P + (l.map f).sum / P := Nat.add_le_add_left ih _
      _ ≤ (f i + (l.map f).sum) / P := Nat.div_add_div_le_add_div

/-- The shares of a split add up to at most the split amount times the weight used. -/
theorem sum_map_mul_div_le (l : List ι) (w : ι → ℕ) (a P : ℕ) :
    (l.map fun i => a * w i / P).sum ≤ a * (l.map w).sum / P := by
  have h := sum_map_div_le l (fun i => a * w i) P
  have e : (l.map fun i => a * w i).sum = a * (l.map w).sum := List.sum_map_mul_left l w a
  rwa [e] at h

/-- With weights adding up to at most the whole, the shares add up to at most the amount. -/
theorem sum_map_mul_div_le_of_sum_le (l : List ι) (w : ι → ℕ) (a P : ℕ)
    (hw : (l.map w).sum ≤ P) : (l.map fun i => a * w i / P).sum ≤ a := by
  refine le_trans (sum_map_mul_div_le l w a P) (Nat.div_le_of_le_mul ?_)
  calc a * (l.map w).sum ≤ a * P := Nat.mul_le_mul_left a hw
    _ = P * a := Nat.mul_comm a P

variable {α κ : Type*} [DecidableEq κ]

/-! ## A cut on top of the shares -/

/-- Paying `c` to the entries whose key is `k` pays nothing when no key is `k`. -/
theorem sum_map_ite_eq_zero (key : α → κ) (k : κ) (c : ℕ) {l : List α}
    (h : k ∉ l.map key) : (l.map fun a => if key a = k then c else 0).sum = 0 :=
  List.sum_eq_zero fun n hn => by
    obtain ⟨a, ha, rfl⟩ := List.mem_map.mp hn
    have hne : key a ≠ k := fun hk => h (hk ▸ List.mem_map_of_mem ha)
    simp [hne]

/-- Paying `c` to the entries whose key is `k` pays at most `c` when the keys are distinct. -/
theorem sum_map_ite_le_of_nodup (key : α → κ) (k : κ) (c : ℕ) :
    ∀ {l : List α}, (l.map key).Nodup → (l.map fun a => if key a = k then c else 0).sum ≤ c
  | [], _ => by simp
  | a :: l, h => by
    rw [List.map_cons, List.nodup_cons] at h
    rw [List.map_cons, List.sum_cons]
    by_cases ha : key a = k
    · rw [if_pos ha, sum_map_ite_eq_zero key k c (ha ▸ h.1), Nat.add_zero]
    · rw [if_neg ha, Nat.zero_add]
      exact sum_map_ite_le_of_nodup key k c h.2

/-- A split of `P` that shares `P - o` by weights adding up to at most `D`, each share rounded
down, and pays `o` on top to the entry with key `k` of a list with distinct keys, hands out at
most `P`. -/
theorem sum_map_split_le (l : List α) (w : α → ℕ) (key : α → κ) (k : κ) {o P D : ℕ}
    (hkey : (l.map key).Nodup) (hw : (l.map w).sum ≤ D) (ho : o ≤ P) :
    (l.map fun a => w a * (P - o) / D + if key a = k then o else 0).sum ≤ P := by
  have hshares : (l.map fun a => w a * (P - o) / D).sum ≤ P - o := by
    have e : (fun a => w a * (P - o) / D) = fun a => (P - o) * w a / D :=
      funext fun a => by rw [Nat.mul_comm]
    rw [e]
    exact sum_map_mul_div_le_of_sum_le l w (P - o) D hw
  have hcut := sum_map_ite_le_of_nodup key k o hkey
  rw [List.sum_map_add]
  omega

/-! ## Sums after one entry changes -/

/-- Replacing the entry at a position moves the sum by the difference of the two entries. -/
theorem sum_map_set_add (f : α → ℕ) :
    ∀ (l : List α) {i : ℕ} {x : α}, l[i]? = some x → ∀ y,
      ((l.set i y).map f).sum + f x = (l.map f).sum + f y
  | [], _, _, h, _ => by simp at h
  | a :: l, 0, x, h, y => by
    simp only [List.getElem?_cons_zero, Option.some.injEq] at h
    subst h
    simp only [List.set_cons_zero, List.map_cons, List.sum_cons]
    omega
  | a :: l, i + 1, x, h, y => by
    simp only [List.getElem?_cons_succ] at h
    have ih := sum_map_set_add f l h y
    simp only [List.set_cons_succ, List.map_cons, List.sum_cons]
    omega

/-- With `f` below `g` on every entry, the entries other than one entry `x` add up to at most
as much under `f` as under `g`. -/
theorem sum_map_add_le_of_mem {f g : α → ℕ} :
    ∀ {l : List α}, (∀ a ∈ l, f a ≤ g a) → ∀ {x : α}, x ∈ l →
      (l.map f).sum + g x ≤ (l.map g).sum + f x
  | [], _, _, hx => by simp at hx
  | a :: l, hfg, x, hx => by
    have hl : ∀ b ∈ l, f b ≤ g b := fun b hb => hfg b (List.mem_cons_of_mem a hb)
    have hsum : (l.map f).sum ≤ (l.map g).sum := List.sum_le_sum hl
    simp only [List.map_cons, List.sum_cons]
    rcases List.mem_cons.mp hx with rfl | hx
    · omega
    · have ih := sum_map_add_le_of_mem hl hx
      have ha := hfg a List.mem_cons_self
      omega

end Equilibria.FloorSum
