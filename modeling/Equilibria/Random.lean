import Equilibria.CryptonoteBasic

/-!
# Seeded randomness of the service-node list

`std::mt19937_64` as the C++ standard specifies it, the rejection sampler
`uniform_distribution_portable` and the Fisher-Yates shuffle `triton_shuffle`. The sampler
and the shuffle are written over any seeded 64-bit engine, so results about them can treat
the engine's output as an arbitrary stream of words.

The sampler divides by its bound, which the source does not check: a zero bound gives
`none`, as does a run of rejections longer than `drawLimit` draws, which stands for a loop
that does not return.
-/

namespace Equilibria.Random

/-- A seeded engine of 64-bit words, used as the source uses `std::mt19937_64`. -/
structure Engine (σ : Type) where
  /-- The engine constructed from a seed. -/
  seed : UInt64 → σ
  /-- The next word, and the engine after drawing it. -/
  next : σ → UInt64 × σ

/-- `std::mt19937_64::max()`. -/
def engineMax : UInt64 := 0xFFFFFFFFFFFFFFFF

/-- The state of `std::mt19937_64`: 312 words and the position of the next one. -/
structure Mt19937State where
  /-- The word array. -/
  words : Array UInt64
  /-- The index of the next word to temper; 312 asks for a twist first. -/
  index : ℕ

/-- Seeding: `x[0] = seed`, `x[i] = f * (x[i-1] ^ (x[i-1] >> 62)) + i`. -/
def mt19937Seed (seed : UInt64) : Mt19937State :=
  let words := (List.range 311).foldl
    (fun (acc : Array UInt64) i =>
      let prev := acc.getD i 0
      acc.push ((6364136223846793005 : UInt64) * (prev ^^^ (prev >>> 62)) + UInt64.ofNat (i + 1)))
    #[seed]
  ⟨words, 312⟩

/-- The twist that refills the 312 words in place. -/
def mt19937Twist (words : Array UInt64) : Array UInt64 :=
  (List.range 312).foldl
    (fun (acc : Array UInt64) i =>
      let y := (acc.getD i 0 &&& 0xFFFFFFFF80000000) ||| (acc.getD ((i + 1) % 312) 0 &&& 0x7FFFFFFF)
      let mag : UInt64 := if y &&& 1 = 0 then 0 else 0xB5026F5AA96619E9
      acc.setIfInBounds i (acc.getD ((i + 156) % 312) 0 ^^^ (y >>> 1) ^^^ mag))
    words

/-- The tempering of one word. -/
def mt19937Temper (y : UInt64) : UInt64 :=
  let y := y ^^^ ((y >>> 29) &&& 0x5555555555555555)
  let y := y ^^^ ((y <<< 17) &&& 0x71D67FFFEDA60000)
  let y := y ^^^ ((y <<< 37) &&& 0xFFF7EEE000000000)
  y ^^^ (y >>> 43)

/-- Draw one word. -/
def mt19937Next (s : Mt19937State) : UInt64 × Mt19937State :=
  let s := if 312 ≤ s.index then ⟨mt19937Twist s.words, 0⟩ else s
  (mt19937Temper (s.words.getD s.index 0), ⟨s.words, s.index + 1⟩)

/-- `std::mt19937_64`. -/
def mt19937_64 : Engine Mt19937State := ⟨mt19937Seed, mt19937Next⟩

variable {σ : Type}

/-- The number of draws the model lets the rejection loop make before it reports a loop
that does not return. -/
def drawLimit : ℕ := 2 ^ 64

/-- The rejection loop of `uniform_distribution_portable`: draw until below `secureMax`. -/
def drawBelow (E : Engine σ) (secureMax : UInt64) : ℕ → σ → Option (UInt64 × σ)
  | 0, _ => none
  | fuel + 1, s =>
    let (x, s) := E.next s
    if x ≥ secureMax then drawBelow E secureMax fuel s else some (x, s)

/-- `uniform_distribution_portable`: a draw below `n` by rejection, or `none` when `n` is
zero (a division by zero in the source) or the loop does not return. -/
def uniformDistributionPortable (E : Engine σ) (s : σ) (n : UInt64) : Option (UInt64 × σ) :=
  if n = 0 then none
  else
    let secureMax := engineMax - engineMax % n
    (drawBelow E secureMax drawLimit s).map fun (x, s) => (x / (secureMax / n), s)

/-- The rejection loop of `uniform_distribution_portable`, for a nonzero bound, does not return
from the engine state `s`. -/
def Stalls (E : Engine σ) (s : σ) : Prop :=
  ∃ n : UInt64, 0 < n.toNat ∧ drawBelow E (engineMax - engineMax % n) drawLimit s = none

/-- A draw with a nonzero bound fails only when its rejection loop stalls. -/
theorem uniformDistributionPortable_eq_none {E : Engine σ} {s : σ} {n : UInt64}
    (hn : 0 < n.toNat) (h : uniformDistributionPortable E s n = none) : Stalls E s := by
  have hne : n ≠ 0 := fun h0 => by simp [h0] at hn
  simp only [uniformDistributionPortable, if_neg hne, Option.map_eq_none_iff] at h
  exact ⟨n, hn, h⟩

/-! ## The stream of an engine -/

/-- The engine state after `k` draws from `s`. -/
def Engine.advance (E : Engine σ) (s : σ) : ℕ → σ
  | 0 => s
  | k + 1 => (E.next (E.advance s k)).2

/-- The word drawn from `s` after `k` others. -/
def Engine.draw (E : Engine σ) (s : σ) (k : ℕ) : UInt64 := (E.next (E.advance s k)).1

/-- The first `count` words drawn from `s` lie below `bound`. -/
def DrawsBelow (E : Engine σ) (s : σ) (count bound : ℕ) : Prop :=
  ∀ k < count, (E.draw s k).toNat < bound

instance (E : Engine σ) (s : σ) (count bound : ℕ) : Decidable (DrawsBelow E s count bound) :=
  inferInstanceAs (Decidable (∀ k < count, _))

/-- One pass of the rejection loop reads the next word of the stream. -/
theorem drawBelow_succ_advance (E : Engine σ) (s₀ : σ) (b : UInt64) (fuel k : ℕ) :
    drawBelow E b (fuel + 1) (E.advance s₀ k) =
      if E.draw s₀ k ≥ b then drawBelow E b fuel (E.advance s₀ (k + 1))
      else some (E.draw s₀ k, E.advance s₀ (k + 1)) := rfl

/-- The rejection loop stops on a state the stream reaches. -/
theorem drawBelow_advance (E : Engine σ) (s₀ : σ) (b : UInt64) :
    ∀ (fuel k : ℕ) {x : UInt64} {s' : σ}, drawBelow E b fuel (E.advance s₀ k) = some (x, s') →
      ∃ k', s' = E.advance s₀ k'
  | 0, _, _, _, h => by simp [drawBelow] at h
  | fuel + 1, k, x, s', h => by
    rw [drawBelow_succ_advance] at h
    by_cases hge : E.draw s₀ k ≥ b
    · rw [if_pos hge] at h
      exact drawBelow_advance E s₀ b fuel (k + 1) h
    · rw [if_neg hge] at h
      exact ⟨k + 1, (Prod.mk.inj (Option.some.inj h)).2.symm⟩

/-- The rejection threshold of a bound `n` leaves at most `n` words out: every word below
`2 ^ 64 - n` is accepted. -/
theorem le_secureMax {n : UInt64} (hn : 0 < n.toNat) :
    2 ^ 64 - n.toNat ≤ (engineMax - engineMax % n).toNat := by
  have hmax : engineMax.toNat = 2 ^ 64 - 1 := rfl
  have hmod : (engineMax % n).toNat < n.toNat := by
    rw [UInt64.toNat_mod]
    exact Nat.mod_lt _ hn
  rw [UInt64.toNat_sub_of_le _ _ (UInt64.le_iff_toNat_le.mpr
    (by rw [UInt64.toNat_mod]; exact Nat.mod_le _ _)), hmax]
  omega

/-- A draw below `2 ^ 64 - n` ends the rejection loop of a bound `n` at once, one word along
the stream. -/
theorem uniformDistributionPortable_advance (E : Engine σ) (s₀ : σ) {n : UInt64} {k : ℕ}
    (hn : 0 < n.toNat) (hdraw : (E.draw s₀ k).toNat < 2 ^ 64 - n.toNat) :
    ∃ r, uniformDistributionPortable E (E.advance s₀ k) n = some (r, E.advance s₀ (k + 1)) := by
  have hne : n ≠ 0 := fun h0 => by simp [h0] at hn
  have hlt : E.draw s₀ k < engineMax - engineMax % n :=
    UInt64.lt_iff_toNat_lt.mpr (lt_of_lt_of_le hdraw (le_secureMax hn))
  have hfuel : drawLimit = (drawLimit - 1) + 1 := rfl
  refine ⟨E.draw s₀ k / ((engineMax - engineMax % n) / n), ?_⟩
  rw [uniformDistributionPortable, if_neg hne, hfuel]
  dsimp only
  rw [drawBelow_succ_advance, if_neg (UInt64.not_le.mpr hlt), Option.map_some]

theorem drawBelow_lt (E : Engine σ) (b : UInt64) :
    ∀ (fuel : ℕ) (s s' : σ) (x : UInt64), drawBelow E b fuel s = some (x, s') → x < b
  | 0, _, _, _, h => by simp [drawBelow] at h
  | fuel + 1, s, s', x, h => by
    simp only [drawBelow] at h
    split at h
    · exact drawBelow_lt E b fuel _ s' x h
    · rename_i hlt
      simp only [Option.some.injEq, Prod.mk.injEq] at h
      rw [← h.1]
      exact UInt64.not_le.mp hlt

/-- What the sampler returns is below its bound: `x < n * ⌊max / n⌋` gives
`x / ⌊max / n⌋ < n`. -/
theorem uniformDistributionPortable_lt {E : Engine σ} {s s' : σ} {n r : UInt64}
    (h : uniformDistributionPortable E s n = some (r, s')) : r.toNat < n.toNat := by
  unfold uniformDistributionPortable at h
  split at h
  · simp at h
  · rename_i hne
    obtain ⟨⟨x, s''⟩, hdraw, hr⟩ := Option.map_eq_some_iff.mp h
    simp only [Prod.mk.injEq] at hr
    rw [← hr.1]
    have hx := UInt64.lt_iff_toNat_lt.mp (drawBelow_lt E _ _ _ _ _ hdraw)
    have hn : 0 < n.toNat := by
      rcases Nat.eq_zero_or_pos n.toNat with h0 | h0
      · exact absurd (UInt64.toNat_inj.mp (h0.trans UInt64.toNat_zero.symm)) hne
      · exact h0
    have hmax : engineMax.toNat = 2 ^ 64 - 1 := rfl
    have hnle : n.toNat ≤ engineMax.toNat := by
      rw [hmax]
      have := n.toNat_lt
      omega
    -- `secureMax = n * q` with `q = ⌊max / n⌋ ≥ 1`
    have hsecure : (engineMax - engineMax % n).toNat = n.toNat * (engineMax.toNat / n.toNat) := by
      rw [UInt64.toNat_sub_of_le _ _ (UInt64.le_iff_toNat_le.mpr
        (by rw [UInt64.toNat_mod]; exact Nat.mod_le _ _)), UInt64.toNat_mod]
      have := Nat.div_add_mod engineMax.toNat n.toNat
      omega
    have hq : 0 < engineMax.toNat / n.toNat := Nat.div_pos hnle hn
    have hquot : ((engineMax - engineMax % n) / n).toNat = engineMax.toNat / n.toNat := by
      rw [UInt64.toNat_div, hsecure, Nat.mul_div_cancel_left _ hn]
    rw [UInt64.toNat_div, hquot, Nat.div_lt_iff_lt_mul hq]
    rw [hsecure] at hx
    exact hx

/-- Exchange the entries at two positions of a list. -/
def swapAt {α : Type} (a : List α) (i j : ℕ) : List α :=
  match a[i]?, a[j]? with
  | some x, some y => (a.set i y).set j x
  | _, _ => a

/-- The loop of `triton_shuffle` from position `i` on, `fuel` positions left. -/
def shuffleFrom {α : Type} (E : Engine σ) : ℕ → ℕ → σ → List α → Option (List α)
  | 0, _, _, a => some a
  | fuel + 1, i, s, a => do
    let (j, s) ← uniformDistributionPortable E s (UInt64.ofNat (i + 1))
    shuffleFrom E fuel (i + 1) s (if i ≠ j.toNat then swapAt a i j.toNat else a)

/-- `triton_shuffle`: Fisher-Yates with an engine seeded from `seed`. -/
def tritonShuffle {α : Type} (E : Engine σ) (a : List α) (seed : UInt64) : Option (List α) :=
  if a.length ≤ 1 then some a else shuffleFrom E (a.length - 1) 1 (E.seed seed) a

/-! ## The shuffle permutes -/

/-- Exchanging two entries permutes the list. -/
theorem swapAt_perm {α : Type} (a : List α) (i j : ℕ) : (swapAt a i j).Perm a := by
  unfold swapAt
  split
  · rename_i x y hx hy
    obtain ⟨hi, rfl⟩ := List.getElem?_eq_some_iff.mp hx
    obtain ⟨hj, rfl⟩ := List.getElem?_eq_some_iff.mp hy
    -- the swapped list reads `a` through the transposition of `i` and `j`
    have hswap : (a.set i a[j]).set j a[i] =
        List.ofFn (fun k : Fin a.length => a[(Equiv.swap (⟨i, hi⟩ : Fin a.length) ⟨j, hj⟩ k).1]) := by
      apply List.ext_getElem (by simp)
      intro k hk _
      simp only [List.getElem_set, List.getElem_ofFn, Equiv.swap_apply_def, Fin.ext_iff]
      by_cases hkj : j = k
      · subst hkj
        simp only [if_true]
        split
        · rename_i hji
          subst hji
          rfl
        · rfl
      · by_cases hki : i = k
        · subst hki
          simp [hkj]
        · simp [hkj, hki, Ne.symm hkj, Ne.symm hki]
    rw [hswap]
    exact ((Equiv.swap _ _).ofFn_comp_perm (fun k : Fin a.length => a[k.1])).trans
      (by rw [List.ofFn_getElem])
  · exact List.Perm.refl a

/-- Every pass of the Fisher-Yates loop exchanges two entries, so what it returns is a
permutation of what it was given. -/
theorem shuffleFrom_perm {α : Type} (E : Engine σ) :
    ∀ (fuel i : ℕ) (s : σ) (a b : List α), shuffleFrom E fuel i s a = some b → b.Perm a
  | 0, _, _, a, b, h => by
    simp only [shuffleFrom, Option.some.injEq] at h
    subst h
    exact List.Perm.refl a
  | fuel + 1, i, s, a, b, h => by
    simp only [shuffleFrom, Option.bind_eq_bind, Option.bind_eq_some_iff] at h
    obtain ⟨⟨j, s'⟩, -, h⟩ := h
    refine (shuffleFrom_perm E fuel (i + 1) s' _ b h).trans ?_
    split
    · exact swapAt_perm a i j.toNat
    · exact List.Perm.refl a

theorem tritonShuffle_perm {α : Type} (E : Engine σ) {a b : List α} {seed : UInt64}
    (h : tritonShuffle E a seed = some b) : b.Perm a := by
  unfold tritonShuffle at h
  split at h
  · rw [Option.some.injEq] at h
    subst h
    exact List.Perm.refl a
  · exact shuffleFrom_perm E _ 1 _ a b h

/-! ## When the shuffle returns -/

/-- The loop from position `i`, with the engine `k` words along its stream, returns when its
words are below `2 ^ 64 - N` for an `N` past its last position: each rejection loop then
accepts its first draw. -/
theorem shuffleFrom_isSome {α : Type} (E : Engine σ) (s₀ : σ) {N : ℕ} (hN : N < 2 ^ 64) :
    ∀ (fuel i k : ℕ) (a : List α), i + fuel ≤ N →
      (∀ j < fuel, (E.draw s₀ (k + j)).toNat < 2 ^ 64 - N) →
        (shuffleFrom E fuel i (E.advance s₀ k) a).isSome
  | 0, _, _, _, _, _ => rfl
  | fuel + 1, i, k, a, hroom, hdraws => by
    have hbound : (UInt64.ofNat (i + 1)).toNat = i + 1 := by
      rw [UInt64.toNat_ofNat', Nat.mod_eq_of_lt (by omega)]
    obtain ⟨r, hr⟩ := uniformDistributionPortable_advance E s₀ (n := UInt64.ofNat (i + 1))
      (k := k) (by omega) (by have := hdraws 0 (by omega); rw [Nat.add_zero] at this; omega)
    simp only [shuffleFrom, Option.bind_eq_bind, hr, Option.bind_some]
    exact shuffleFrom_isSome E s₀ hN fuel (i + 1) (k + 1) _ (by omega)
      fun j hj => by rw [Nat.add_right_comm]; exact hdraws (j + 1) (by omega)

/-- `triton_shuffle` of `n` entries returns when the first `n - 1` words of the engine it
seeds lie below `2 ^ 64 - n`. -/
theorem tritonShuffle_isSome {α : Type} (E : Engine σ) {a : List α} {seed : UInt64}
    (hfit : a.length < 2 ^ 64)
    (hdraws : DrawsBelow E (E.seed seed) (a.length - 1) (2 ^ 64 - a.length)) :
    (tritonShuffle E a seed).isSome := by
  unfold tritonShuffle
  split
  · rfl
  · exact shuffleFrom_isSome E (E.seed seed) hfit (a.length - 1) 1 0 a (by omega)
      fun j hj => by rw [Nat.zero_add]; exact hdraws j hj

/-- The loop divides by `i + 1` only, so it fails only when a rejection loop never accepts, at a
state of the stream it reads. -/
theorem shuffleFrom_eq_none {α : Type} (E : Engine σ) (s₀ : σ) :
    ∀ (fuel i k : ℕ) (a : List α), i + fuel < 2 ^ 64 →
      shuffleFrom E fuel i (E.advance s₀ k) a = none → ∃ k', Stalls E (E.advance s₀ k')
  | 0, _, _, _, _, h => by simp [shuffleFrom] at h
  | fuel + 1, i, k, a, hfit, h => by
    simp only [shuffleFrom, Option.bind_eq_bind, Option.bind_eq_none_iff] at h
    cases hdraw : uniformDistributionPortable E (E.advance s₀ k) (UInt64.ofNat (i + 1)) with
    | none =>
      refine ⟨k, uniformDistributionPortable_eq_none ?_ hdraw⟩
      rw [UInt64.toNat_ofNat', Nat.mod_eq_of_lt (by omega)]
      omega
    | some r =>
      obtain ⟨j, s'⟩ := r
      -- the sampler's rejection loop leaves the engine further along the same stream
      have hs' : ∃ k', s' = E.advance s₀ k' := by
        have hne : UInt64.ofNat (i + 1) ≠ 0 := fun h0 => by
          have := congrArg UInt64.toNat h0
          rw [UInt64.toNat_ofNat', Nat.mod_eq_of_lt (by omega)] at this
          simp at this
        simp only [uniformDistributionPortable, if_neg hne, Option.map_eq_some_iff] at hdraw
        obtain ⟨⟨x, s''⟩, hloop, hres⟩ := hdraw
        cases hres
        exact drawBelow_advance E s₀ _ drawLimit k hloop
      obtain ⟨k', rfl⟩ := hs'
      exact shuffleFrom_eq_none E s₀ fuel (i + 1) k' _ (by omega) (h (j, _) hdraw)

/-- `triton_shuffle` fails only when a rejection loop stalls on the stream of the engine it
seeds. -/
theorem tritonShuffle_eq_none {α : Type} (E : Engine σ) {a : List α} {seed : UInt64}
    (hfit : a.length < 2 ^ 64) (h : tritonShuffle E a seed = none) :
    ∃ k, Stalls E (E.advance (E.seed seed) k) := by
  unfold tritonShuffle at h
  split at h
  · simp at h
  · exact shuffleFrom_eq_none E (E.seed seed) _ 1 0 a (by omega) h

/-! ## The first word of `std::mt19937_64`

The first draw after seeding twists all 312 words but returns only the new word 0, which the
twist writes first, from the seeded words 0, 1 and 156. Those follow the seeding's recurrence,
so the first draw is found without building either array. -/

/-- The word that seeding writes after `prev`, at position `i + 1`. -/
def seedNext (prev : UInt64) (i : ℕ) : UInt64 :=
  (6364136223846793005 : UInt64) * (prev ^^^ (prev >>> 62)) + UInt64.ofNat (i + 1)

/-- The `i`-th word of the seeded array. -/
def seedWord (seed : UInt64) : ℕ → UInt64
  | 0 => seed
  | i + 1 => seedNext (seedWord seed i) i

/-- The word the twist writes from the words at `i`, `i + 1` and `i + 156`. -/
def twistWord (x xNext xMid : UInt64) : UInt64 :=
  let y := (x &&& 0xFFFFFFFF80000000) ||| (xNext &&& 0x7FFFFFFF)
  let mag : UInt64 := if y &&& 1 = 0 then 0 else 0xB5026F5AA96619E9
  xMid ^^^ (y >>> 1) ^^^ mag

/-- One pass of the seeding loop. -/
def seedPush (acc : Array UInt64) (i : ℕ) : Array UInt64 := acc.push (seedNext (acc.getD i 0) i)

/-- One pass of the twist, in place. -/
def twistAt (acc : Array UInt64) (i : ℕ) : Array UInt64 :=
  acc.setIfInBounds i
    (twistWord (acc.getD i 0) (acc.getD ((i + 1) % 312) 0) (acc.getD ((i + 156) % 312) 0))

theorem mt19937Seed_eq (seed : UInt64) :
    mt19937Seed seed = ⟨(List.range 311).foldl seedPush #[seed], 312⟩ := rfl

theorem mt19937Twist_eq (words : Array UInt64) :
    mt19937Twist words = (List.range 312).foldl twistAt words := rfl

/-- The seeding loop writes the recurrence, each pass reading the word the last one wrote. -/
theorem foldl_seedPush_toList (seed : UInt64) (n : ℕ) :
    ((List.range n).foldl seedPush #[seed]).toList = (List.range (n + 1)).map (seedWord seed) := by
  induction n with
  | zero => rfl
  | succ n ih =>
    have hprev : ((List.range n).foldl seedPush #[seed]).getD n 0 = seedWord seed n := by
      rw [Array.getD_eq_getD_getElem?, ← Array.getElem?_toList, ih, List.getElem?_map,
        List.getElem?_range (Nat.lt_succ_self n)]
      rfl
    rw [List.range_succ, List.foldl_append, List.foldl_cons, List.foldl_nil, seedPush,
      Array.toList_push, ih, hprev, @List.range_succ (n + 1), List.map_append]
    rfl

/-- The seeded array holds `seedWord` at each of its 312 positions. -/
theorem mt19937Seed_getD (seed : UInt64) {i : ℕ} (hi : i < 312) :
    (mt19937Seed seed).words.getD i 0 = seedWord seed i := by
  rw [mt19937Seed_eq, Array.getD_eq_getD_getElem?, ← Array.getElem?_toList,
    foldl_seedPush_toList, List.getElem?_map, List.getElem?_range hi]
  rfl

/-- A pass of the twist writes only its own position. -/
theorem twistAt_getD_of_ne (acc : Array UInt64) {i j : ℕ} (h : i ≠ j) :
    (twistAt acc i).getD j 0 = acc.getD j 0 := by
  simp only [twistAt, Array.getD_eq_getD_getElem?, Array.getElem?_setIfInBounds, if_neg h]

theorem foldl_twistAt_getD_of_notMem {j : ℕ} :
    ∀ (l : List ℕ) (acc : Array UInt64), j ∉ l → (l.foldl twistAt acc).getD j 0 = acc.getD j 0
  | [], _, _ => rfl
  | i :: l, acc, hj => by
    rw [List.foldl_cons, foldl_twistAt_getD_of_notMem l _ fun h => hj (List.mem_cons_of_mem i h),
      twistAt_getD_of_ne acc fun h => hj (by rw [h]; exact List.mem_cons_self)]

/-- The twist's word 0 is written by its first pass, which no later pass touches. -/
theorem mt19937Twist_getD_zero {words : Array UInt64} (h : 0 < words.size) :
    (mt19937Twist words).getD 0 0 =
      twistWord (words.getD 0 0) (words.getD 1 0) (words.getD 156 0) := by
  have hnot : 0 ∉ (List.range 311).map Nat.succ := by simp
  rw [mt19937Twist_eq, List.range_succ_eq_map, List.foldl_cons, foldl_twistAt_getD_of_notMem _ _ hnot, twistAt,
    Array.getD_eq_getD_getElem?, Array.getElem?_setIfInBounds, if_pos rfl, if_pos h]
  rfl

/-- A draw from a state past its last word twists first, then tempers the new word 0. -/
theorem mt19937Next_fst_of_le {s : Mt19937State} (h : 312 ≤ s.index) :
    (mt19937Next s).1 = mt19937Temper ((mt19937Twist s.words).getD 0 0) := by
  rw [mt19937Next, if_pos h]

/-- The first word `std::mt19937_64` draws after seeding. -/
theorem mt19937_64_draw_zero (seed : UInt64) :
    mt19937_64.draw (mt19937_64.seed seed) 0 =
      mt19937Temper (twistWord (seedWord seed 0) (seedWord seed 1) (seedWord seed 156)) := by
  -- the length is read off the lemma, not computed: evaluating the seeding loop is what the
  -- lemmas avoid
  have hlen : (mt19937Seed seed).words.toList.length = 312 := by
    rw [mt19937Seed_eq, foldl_seedPush_toList, List.length_map, List.length_range]
  have hsize : 0 < (mt19937Seed seed).words.size := by
    rw [Array.size_eq_length_toList, hlen]
    decide
  have hindex : 312 ≤ (mt19937Seed seed).index := Nat.le_refl 312
  rw [Engine.draw, Engine.advance, mt19937_64, mt19937Next_fst_of_le hindex,
    mt19937Twist_getD_zero hsize, mt19937Seed_getD seed (by omega),
    mt19937Seed_getD seed (by omega), mt19937Seed_getD seed (by omega)]

end Equilibria.Random
