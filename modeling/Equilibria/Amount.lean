import Equilibria.RegistrationCommand

/-!
# Parsing and printing amounts

`parse_amount` and `print_money` of `cryptonote_format_utils.cpp`: amounts are written in coins
with `default_decimal_point` digits after the point (`4`, `2` or `0`, the values
`set_default_decimal_point` accepts), and held in atomic units.

`parse_amount` rewrites the string rather than computing a value: it trims it, drops trailing
zeros from the fraction while the fraction is longer than the decimal point, erases the first
point, pads the fraction with zeros to the decimal point, and hands the digits to
`epee::string_tools::get_xtype_from_string`, which checks that every character is a digit and
calls `boost::lexical_cast<uint64_t>` (`RegistrationCommand.lexicalCastUInt64`). It returns the
amount it writes, `none` where it returns `false`. `boost::algorithm::trim` classifies with
`std::isspace` of the global locale, the `"C"` locale here.

A trimmed string of digits with at most one point is read as the exact decimal value
`amountValue`. `parse_amount` accepts it exactly when that value in atomic units is a natural
number below `2 ^ 64`, except for a point followed only by zeros at the decimal point `0`: the
zeros are dropped with the point and an empty string is left (`parseAmount_eq_some_iff`,
`parseAmount_point_zero`). `print_money` prints every amount in a form `parse_amount` reads back
(`parseAmount_printMoney`).
-/

namespace Equilibria.Amount

open RegistrationCommand

/-! ## The model -/

/-- `std::isspace` of the `"C"` locale. -/
def isSpace (c : Char) : Bool := c == ' ' || ('\t' ≤ c && c ≤ '\r')

/-- `boost::algorithm::trim`: the leading and the trailing spaces are removed. -/
def trim (s : List Char) : List Char :=
  ((s.dropWhile isSpace).reverse.dropWhile isSpace).reverse

/-- The loop of `parse_amount` that erases the last character while the fraction is longer
than the decimal point and that character is `'0'`, on the string reversed. -/
def dropTrailingZeros (decimalPoint : ℕ) : List Char → ℕ → List Char × ℕ
  | '0' :: rest, fractionSize =>
    if decimalPoint < fractionSize then dropTrailingZeros decimalPoint rest (fractionSize - 1)
    else ('0' :: rest, fractionSize)
  | rest, fractionSize => (rest, fractionSize)

/-- `epee::string_tools::get_xtype_from_string` for `uint64_t`: every character is a digit, and
`boost::lexical_cast` parses the string. -/
def getXtypeFromString (s : List Char) : Option UInt64 :=
  if s.all Char.isDigit then lexicalCastUInt64 (String.ofList s) else none

/-- `parse_amount` at the decimal point `decimalPoint`. -/
def parseAmount (decimalPoint : ℕ) (strAmount : String) : Option UInt64 :=
  let s := trim strAmount.toList
  let pointIndex := s.idxOf '.'
  -- the string without its point, and the length of its fraction; `none` for `return false`
  let split : Option (List Char × ℕ) :=
    if pointIndex < s.length then
      let (rev, fractionSize) :=
        dropTrailingZeros decimalPoint s.reverse (s.length - pointIndex - 1)
      if decimalPoint < fractionSize then none
      else some (rev.reverse.eraseIdx pointIndex, fractionSize)
    else some (s, 0)
  match split with
  | none => none
  | some (s, fractionSize) =>
    if s.isEmpty then none
    else if fractionSize < decimalPoint then
      getXtypeFromString (s ++ List.replicate (decimalPoint - fractionSize) '0')
    else getXtypeFromString s

/-- `insert_money_decimal_point`: zeros in front up to `decimalPoint + 1` digits, then the point
before the last `decimalPoint` of them. -/
def insertMoneyDecimalPoint (s : List Char) (decimalPoint : ℕ) : List Char :=
  let s := if s.length < decimalPoint + 1
    then List.replicate (decimalPoint + 1 - s.length) '0' ++ s else s
  if decimalPoint > 0 then s.take (s.length - decimalPoint) ++ '.' :: s.drop (s.length - decimalPoint)
  else s

/-- `print_money(amount)` at the decimal point `decimalPoint`: `std::to_string(amount)` with the
point inserted. -/
def printMoney (decimalPoint : ℕ) (amount : UInt64) : String :=
  String.ofList (insertMoneyDecimalPoint (Nat.repr amount.toNat).toList decimalPoint)

/-! ## What an amount means -/

/-- The value of a string of decimal digits, as `lexical_cast` computes it. -/
def digitsValue (ds : List Char) : ℕ := ds.foldl (fun n c => 10 * n + (c.toNat - '0'.toNat)) 0

/-- The characters after the first point; none if there is no point. -/
def fractionPart (s : List Char) : List Char := (s.dropWhile (· ≠ '.')).drop 1

/-- The exact decimal value of a string of digits with at most one point. -/
def amountValue (s : List Char) : ℚ :=
  (digitsValue (s.filter (· ≠ '.')) : ℚ) / 10 ^ (fractionPart s).length

/-- A trimmed amount string and the amount it names in atomic units at the decimal point
`decimalPoint`: only digits and at most one point, at least one digit, and a value that is a
natural number below `2 ^ 64` in atomic units. -/
def IsAmount (decimalPoint : ℕ) (s : List Char) (amount : ℕ) : Prop :=
  (∀ c ∈ s, c.isDigit ∨ c = '.') ∧ s.count '.' ≤ 1 ∧ (∃ c ∈ s, c.isDigit) ∧
    amountValue s * 10 ^ decimalPoint = amount ∧ amount < 2 ^ 64

-- the character conditions are decided along the string, not by a search over every `Char`
instance (decimalPoint : ℕ) (s : List Char) (amount : ℕ) :
    Decidable (IsAmount decimalPoint s amount) :=
  @instDecidableAnd _ _ (List.decidableBAll _ s)
    (@instDecidableAnd _ _ inferInstance (@instDecidableAnd _ _ (List.decidableBEx _ s) inferInstance))

/-! ## Digits -/

theorem digitsValue_append_singleton (ds : List Char) (c : Char) :
    digitsValue (ds ++ [c]) = 10 * digitsValue ds + (c.toNat - '0'.toNat) := by
  simp only [digitsValue, List.foldl_append, List.foldl_cons, List.foldl_nil]

theorem digitsValue_append (ds es : List Char) :
    digitsValue (ds ++ es) = digitsValue ds * 10 ^ es.length + digitsValue es := by
  induction es using List.reverseRecOn with
  | nil => simp [digitsValue]
  | append_singleton es c ih =>
    rw [← List.append_assoc, digitsValue_append_singleton, ih, digitsValue_append_singleton,
      List.length_append, List.length_singleton, Nat.pow_succ]
    ring

@[simp] theorem digitsValue_replicate_zero (k : ℕ) : digitsValue (List.replicate k '0') = 0 := by
  induction k with
  | zero => rfl
  | succ k ih =>
    rw [List.replicate_succ', digitsValue_append_singleton, ih]
    rfl

/-- `lexical_cast` on a nonempty string of digits: its value, if below `2 ^ 64`. -/
theorem lexicalCastUInt64_of_digits {ds : List Char} (hne : ds ≠ []) (hdigits : ds.all Char.isDigit) :
    lexicalCastUInt64 (String.ofList ds) =
      if digitsValue ds < 2 ^ 64 then some (UInt64.ofNat (digitsValue ds)) else none := by
  have hvalue : decimalValue ds = some (digitsValue ds) := by
    unfold decimalValue
    rw [if_pos ⟨hne, hdigits⟩]
    rfl
  unfold lexicalCastUInt64
  rw [String.toList_ofList]
  -- the first character is a digit, so there is no sign
  obtain ⟨c, cs, rfl⟩ := List.exists_cons_of_ne_nil hne
  have hc : c.isDigit = true := (List.all_eq_true.mp hdigits) c List.mem_cons_self
  have hminus : c ≠ '-' := fun h => by subst h; exact absurd hc (by decide)
  have hplus : c ≠ '+' := fun h => by subst h; exact absurd hc (by decide)
  split
  rename_i hasMinus ds hsplit
  -- the first character is a digit, so there is no sign to strip
  have hds : hasMinus = false ∧ ds = c :: cs := by
    split at hsplit
    · exact absurd (List.cons.inj ‹_›).1 hminus
    · exact absurd (List.cons.inj ‹_›).1 hplus
    · simp only [Prod.mk.injEq] at hsplit
      exact ⟨hsplit.1.symm, hsplit.2.symm⟩
  obtain ⟨rfl, rfl⟩ := hds
  rw [hvalue]
  rfl

theorem digitsValue_toDigits (n : ℕ) : digitsValue (Nat.toDigits 10 n) = n := by
  induction n using Nat.strong_induction_on with
  | _ n ih =>
    rw [Nat.toDigits_eq_if (by decide)]
    split
    · rename_i hlt
      rw [show [n.digitChar] = [] ++ [n.digitChar] from rfl, digitsValue_append_singleton]
      show 10 * 0 + _ = n
      rw [show '0'.toNat = 48 from rfl, Nat.toNat_digitChar_sub_48_of_lt_ten hlt]
      omega
    · rename_i hge
      rw [digitsValue_append_singleton, ih (n / 10) (by omega), show '0'.toNat = 48 from rfl,
        Nat.toNat_digitChar_sub_48_of_lt_ten (Nat.mod_lt n (by decide))]
      omega

theorem toNat_bounds_of_isDigit {c : Char} (hc : c.isDigit) :
    '0'.toNat ≤ c.toNat ∧ c.toNat ≤ '9'.toNat := by
  simp only [Char.isDigit, Bool.and_eq_true, decide_eq_true_eq] at hc
  exact ⟨UInt32.le_iff_toNat_le.mp hc.1, UInt32.le_iff_toNat_le.mp hc.2⟩

/-- The last digit of a string of digits is its value mod 10. -/
theorem digitsValue_append_singleton_mod {ds : List Char} {c : Char} (hc : c.isDigit) :
    digitsValue (ds ++ [c]) % 10 = c.toNat - '0'.toNat := by
  have hc := toNat_bounds_of_isDigit hc
  have h0 : '0'.toNat = 48 := rfl
  have h9 : '9'.toNat = 57 := rfl
  rw [digitsValue_append_singleton]
  omega

/-- Digits that end in a digit other than `'0'` have a value that `10` does not divide. -/
theorem not_ten_dvd_digitsValue (ds : List Char) {fp : List Char} (hall : ∀ c ∈ fp, c.isDigit)
    (hne : fp ≠ []) (hfp : ∀ c, fp.getLast? = some c → c ≠ '0') :
    ¬ 10 ∣ digitsValue (ds ++ fp) := by
  obtain ⟨fp, c, rfl⟩ := (List.eq_nil_or_concat fp).resolve_left hne
  have hcd : c.isDigit := hall c (by simp)
  have hc0 : c.toNat ≠ '0'.toNat := fun h => hfp c (by simp) (Char.toNat_inj.mp h)
  have hbounds := toNat_bounds_of_isDigit hcd
  rw [List.concat_eq_append, ← List.append_assoc, Nat.dvd_iff_mod_eq_zero,
    digitsValue_append_singleton_mod hcd]
  omega

theorem isDigit_of_mem_replicate_zero {c : Char} {m : ℕ} (h : c ∈ List.replicate m '0') :
    c.isDigit := by
  rw [(List.mem_replicate.mp h).2]
  rfl

/-- `get_xtype_from_string` on a nonempty string: it succeeds exactly on digits, with their
value. -/
theorem getXtypeFromString_eq_some_iff {u : List Char} (hne : u ≠ []) (a : UInt64) :
    getXtypeFromString u = some a ↔ (∀ c ∈ u, c.isDigit) ∧ digitsValue u = a.toNat := by
  unfold getXtypeFromString
  by_cases hd : u.all Char.isDigit
  · have hall : ∀ c ∈ u, c.isDigit := List.all_eq_true.mp hd
    rw [if_pos hd, lexicalCastUInt64_of_digits hne hd]
    split_ifs with hlt
    · constructor
      · intro h
        refine ⟨hall, ?_⟩
        rw [← Option.some.inj h, UInt64.toNat_ofNat_of_lt' hlt]
      · rintro ⟨-, hv⟩
        rw [hv, UInt64.ofNat_toNat]
    · constructor
      · intro h; cases h
      · rintro ⟨-, hv⟩
        exact absurd (hv ▸ a.toNat_lt) hlt
  · rw [if_neg hd]
    constructor
    · intro h; cases h
    · rintro ⟨hall, -⟩
      exact absurd (List.all_eq_true.mpr hall) hd

/-! ## The value of an amount string -/

theorem fractionPart_of_notMem {t : List Char} (h : '.' ∉ t) : fractionPart t = [] := by
  have hdrop : t.dropWhile (· ≠ '.') = [] :=
    List.dropWhile_eq_nil_iff.mpr fun c hc => by
      have : c ≠ '.' := fun hc' => h (hc' ▸ hc)
      simpa using this
  rw [fractionPart, hdrop]
  rfl

theorem fractionPart_append_point {ip : List Char} (h : '.' ∉ ip) (rest : List Char) :
    fractionPart (ip ++ '.' :: rest) = rest := by
  have hdrop : (ip ++ '.' :: rest).dropWhile (· ≠ '.') = '.' :: rest := by
    rw [List.dropWhile_append_of_pos]
    · simp
    · intro c hc
      have : c ≠ '.' := fun hc' => h (hc' ▸ hc)
      simpa using this
  rw [fractionPart, hdrop]
  rfl

theorem filter_ne_point_of_notMem {t : List Char} (h : '.' ∉ t) : t.filter (· ≠ '.') = t :=
  List.filter_eq_self.mpr fun c hc => by
    have : c ≠ '.' := fun hc' => h (hc' ▸ hc)
    simpa using this

/-- The value of a string with no point is its digits' value. -/
theorem amountValue_of_notMem {t : List Char} (h : '.' ∉ t) : amountValue t = digitsValue t := by
  rw [amountValue, fractionPart_of_notMem h, filter_ne_point_of_notMem h, List.length_nil,
    pow_zero, div_one]

/-- The value of a string with one point: the digits over `10` to the length of the fraction,
trailing zeros of the fraction cancelling. -/
theorem amountValue_point {ip fp : List Char} (hip : '.' ∉ ip) (hfp : '.' ∉ fp) (m : ℕ) :
    amountValue (ip ++ '.' :: (fp ++ List.replicate m '0')) =
      (digitsValue (ip ++ fp) : ℚ) / 10 ^ fp.length := by
  have hzeros : '.' ∉ List.replicate m '0' := by simp
  have hfilter : (ip ++ '.' :: (fp ++ List.replicate m '0')).filter (· ≠ '.') =
      ip ++ fp ++ List.replicate m '0' := by
    rw [List.filter_append, List.filter_cons_of_neg (by simp), List.filter_append,
      filter_ne_point_of_notMem hip, filter_ne_point_of_notMem hfp,
      filter_ne_point_of_notMem hzeros, List.append_assoc]
  rw [amountValue, hfilter, fractionPart_append_point hip, digitsValue_append,
    digitsValue_replicate_zero, Nat.add_zero, List.length_append, List.length_replicate,
    Nat.cast_mul, Nat.cast_pow, Nat.cast_ofNat, pow_add]
  field_simp

/-- Scaling a decimal fraction `V / 10 ^ f` by `10 ^ d` gives `n` iff `V * 10 ^ d = n * 10 ^ f`. -/
theorem div_pow_ten_mul_pow_ten_eq_iff (v n f d : ℕ) :
    (v : ℚ) / 10 ^ f * 10 ^ d = n ↔ v * 10 ^ d = n * 10 ^ f := by
  rw [div_mul_eq_mul_div, div_eq_iff (by positivity)]
  exact_mod_cast Iff.rfl

theorem mul_pow_ten_eq_iff {f d : ℕ} (h : f ≤ d) (v n : ℕ) :
    v * 10 ^ d = n * 10 ^ f ↔ v * 10 ^ (d - f) = n := by
  have hpow : 10 ^ d = 10 ^ (d - f) * 10 ^ f := by rw [← pow_add, Nat.sub_add_cancel h]
  rw [hpow, ← Nat.mul_assoc, Nat.mul_left_inj (by positivity)]

/-- An amount string without a point: nonempty digits whose value in atomic units fits. -/
theorem isAmount_of_notMem_iff {t : List Char} (h : '.' ∉ t) (decimalPoint n : ℕ) :
    IsAmount decimalPoint t n ↔
      (∀ c ∈ t, c.isDigit) ∧ t ≠ [] ∧ digitsValue t * 10 ^ decimalPoint = n ∧ n < 2 ^ 64 := by
  unfold IsAmount
  rw [amountValue_of_notMem h]
  constructor
  · rintro ⟨hchars, -, ⟨c, hc, -⟩, hval, hlt⟩
    refine ⟨fun c hc => ?_, List.ne_nil_of_mem hc, by exact_mod_cast hval, hlt⟩
    rcases hchars c hc with hd | rfl
    · exact hd
    · exact absurd hc h
  · rintro ⟨hall, hne, hval, hlt⟩
    obtain ⟨c, cs, rfl⟩ := List.exists_cons_of_ne_nil hne
    refine ⟨fun c hc => .inl (hall c hc), ?_, ⟨c, List.mem_cons_self, hall c List.mem_cons_self⟩,
      by exact_mod_cast hval, hlt⟩
    rw [List.count_eq_zero.mpr h]
    exact Nat.zero_le 1

/-- An amount string with a point: digits on both sides, at least one of them, and the exact
value in atomic units fits. -/
theorem isAmount_point_iff {ip : List Char} (hip : '.' ∉ ip) (fp : List Char) (m decimalPoint n : ℕ) :
    IsAmount decimalPoint (ip ++ '.' :: (fp ++ List.replicate m '0')) n ↔
      (∀ c ∈ ip ++ fp, c.isDigit) ∧ ¬ (ip = [] ∧ fp = [] ∧ m = 0) ∧
        (digitsValue (ip ++ fp) : ℚ) / 10 ^ fp.length * 10 ^ decimalPoint = n ∧ n < 2 ^ 64 := by
  have hpoint : ('.').isDigit = false := rfl
  unfold IsAmount
  constructor
  · rintro ⟨hchars, hcount, ⟨c, hc, hcd⟩, hval, hlt⟩
    -- the point counted is the one after `ip`, so the fraction has none
    have hfp : '.' ∉ fp := by
      intro hmem
      have : 2 ≤ (ip ++ '.' :: (fp ++ List.replicate m '0')).count '.' := by
        have := List.count_pos_iff.mpr hmem
        simp only [List.count_append, List.count_cons_self]
        omega
      omega
    refine ⟨fun c hc => ?_, ?_, by rwa [amountValue_point hip hfp] at hval, hlt⟩
    · rcases hchars c (by simp only [List.mem_append, List.mem_cons] at hc ⊢; tauto) with hd | rfl
      · exact hd
      · simp only [List.mem_append] at hc
        exact (hc.elim hip hfp).elim
    · rintro ⟨rfl, rfl, rfl⟩
      simp only [List.nil_append, List.replicate_zero, List.mem_cons, List.not_mem_nil,
        or_false] at hc
      rw [hc] at hcd
      exact absurd hcd (by rw [hpoint]; decide)
  · rintro ⟨hall, hne, hval, hlt⟩
    have hfp : '.' ∉ fp := fun hmem => by
      have := hall '.' (List.mem_append_right ip hmem)
      rw [hpoint] at this
      exact Bool.false_ne_true this
    refine ⟨fun c hc => ?_, ?_, ?_, by rwa [amountValue_point hip hfp], hlt⟩
    · simp only [List.mem_append, List.mem_cons] at hc
      rcases hc with hc | rfl | hc | hc
      · exact .inl (hall c (List.mem_append_left fp hc))
      · exact .inr rfl
      · exact .inl (hall c (List.mem_append_right ip hc))
      · exact .inl (isDigit_of_mem_replicate_zero hc)
    · simp [List.count_append, List.count_eq_zero.mpr hip, List.count_eq_zero.mpr hfp, List.count_replicate]
    · by_cases hipe : ip = []
      · by_cases hfpe : fp = []
        · have hm : m ≠ 0 := fun hm => hne ⟨hipe, hfpe, hm⟩
          exact ⟨'0', by simp [hm], rfl⟩
        · obtain ⟨c, cs, rfl⟩ := List.exists_cons_of_ne_nil hfpe
          exact ⟨c, by simp, hall c (by simp)⟩
      · obtain ⟨c, cs, rfl⟩ := List.exists_cons_of_ne_nil hipe
        exact ⟨c, by simp, hall c (by simp)⟩

/-- A list is its part up to a last element other than `a`, then copies of `a`. -/
theorem exists_eq_append_replicate {α : Type*} (a : α) (l : List α) :
    ∃ p m, l = p ++ List.replicate m a ∧ ∀ c, p.getLast? = some c → c ≠ a := by
  induction l using List.reverseRecOn with
  | nil => exact ⟨[], 0, rfl, by simp⟩
  | append_singleton l b ih =>
    by_cases hb : b = a
    · obtain ⟨p, m, hl, hp⟩ := ih
      refine ⟨p, m + 1, ?_, hp⟩
      rw [hl, hb, List.replicate_succ', List.append_assoc]
    · exact ⟨l ++ [b], 0, by simp, by simp [hb]⟩

/-- A point followed only by zeros, in a string split at its first point and at the zeros that
end the fraction. -/
theorem point_zeros_iff {ip fp : List Char} (hip : '.' ∉ ip)
    (hfp : ∀ c, fp.getLast? = some c → c ≠ '0') (m : ℕ) :
    (∃ k, 0 < k ∧ ip ++ '.' :: (fp ++ List.replicate m '0') = '.' :: List.replicate k '0') ↔
      ip = [] ∧ fp = [] ∧ 0 < m := by
  constructor
  · rintro ⟨k, hk, h⟩
    cases ip with
    | cons c ip => exact absurd (List.cons.inj h).1 (fun hc => hip (hc ▸ List.mem_cons_self))
    | nil =>
      have hzeros := (List.append_eq_replicate_iff.mp (List.cons.inj h).2)
      -- a fraction of zeros would end in `'0'`
      have hfpnil : fp = [] := by
        by_contra hne
        rw [hzeros.2.1] at hne hfp
        exact hfp '0' (by rw [List.getLast?_replicate, if_neg (by simpa using hne)]) rfl
      subst hfpnil
      refine ⟨rfl, rfl, ?_⟩
      simp only [List.length_nil, List.length_replicate, Nat.zero_add] at hzeros
      omega
  · rintro ⟨rfl, rfl, hm⟩
    exact ⟨m, hm, rfl⟩

/-! ## `parse_amount` -/

/-- The zeros `dropTrailingZeros` strips from zeros in front of a character other than `'0'`:
as many as there are, but no more than bring the fraction down to the decimal point. -/
theorem dropTrailingZeros_replicate_append (decimalPoint : ℕ) {l : List Char}
    (hl : ∀ c, l.head? = some c → c ≠ '0') (m fractionSize : ℕ) :
    dropTrailingZeros decimalPoint (List.replicate m '0' ++ l) fractionSize =
      (List.replicate (m - min m (fractionSize - decimalPoint)) '0' ++ l,
        fractionSize - min m (fractionSize - decimalPoint)) := by
  induction m generalizing fractionSize with
  | zero =>
    -- the loop stops at once on a character other than `'0'`
    cases l with
    | nil => simp [dropTrailingZeros]
    | cons c rest =>
      have hc : c ≠ '0' := hl c rfl
      simp [dropTrailingZeros, hc]
  | succ m ih =>
    rw [List.replicate_succ, List.cons_append, dropTrailingZeros]
    split_ifs with hlt
    · rw [ih]
      have hmin : min (m + 1) (fractionSize - decimalPoint) =
          min m (fractionSize - 1 - decimalPoint) + 1 := by omega
      have hzeros : m + 1 - (min m (fractionSize - 1 - decimalPoint) + 1) =
          m - min m (fractionSize - 1 - decimalPoint) := by omega
      have hsize : fractionSize - (min m (fractionSize - 1 - decimalPoint) + 1) =
          fractionSize - 1 - min m (fractionSize - 1 - decimalPoint) := by omega
      rw [hmin, hzeros, hsize]
    · have hmin : min (m + 1) (fractionSize - decimalPoint) = 0 := by omega
      rw [hmin, Nat.sub_zero, Nat.sub_zero, List.replicate_succ, List.cons_append]

/-- The end of `parse_amount`: an empty string is rejected, and the fraction is padded to the
decimal point. -/
theorem padFraction_eq {decimalPoint fractionSize : ℕ} (h : fractionSize ≤ decimalPoint)
    (s : List Char) :
    (if s.isEmpty then none
      else if fractionSize < decimalPoint then
        getXtypeFromString (s ++ List.replicate (decimalPoint - fractionSize) '0')
      else getXtypeFromString s) =
    if s = [] then none
      else getXtypeFromString (s ++ List.replicate (decimalPoint - fractionSize) '0') := by
  by_cases hs : s = []
  · simp [hs]
  · by_cases hlt : fractionSize < decimalPoint
    · simp [hs, hlt]
    · have hzero : decimalPoint - fractionSize = 0 := by omega
      simp [hs, hlt, hzero]

/-- `parse_amount` on a string without a point: its digits, padded to the decimal point. -/
theorem parseAmount_of_notMem {strAmount : String} (h : '.' ∉ trim strAmount.toList)
    (decimalPoint : ℕ) :
    parseAmount decimalPoint strAmount =
      if trim strAmount.toList = [] then none
      else getXtypeFromString (trim strAmount.toList ++ List.replicate decimalPoint '0') := by
  unfold parseAmount
  generalize trim strAmount.toList = t at h ⊢
  have hidx : t.idxOf '.' = t.length := List.idxOf_of_notMem h
  simp only [hidx, lt_irrefl, if_false]
  rw [padFraction_eq (Nat.zero_le decimalPoint), Nat.sub_zero]

/-- `parse_amount` on a string with a point, split at its first point and at the zeros that end
the fraction: a fraction longer than the decimal point is rejected, and so is a string left
empty once the point and the zeros beyond the decimal point are gone. -/
theorem parseAmount_of_point {strAmount : String} {ip fp : List Char} {m : ℕ} (hip : '.' ∉ ip)
    (hfp : ∀ c, fp.getLast? = some c → c ≠ '0')
    (ht : trim strAmount.toList = ip ++ '.' :: (fp ++ List.replicate m '0')) (decimalPoint : ℕ) :
    parseAmount decimalPoint strAmount =
      if decimalPoint < fp.length then none
      else if ip = [] ∧ fp = [] ∧ (m = 0 ∨ decimalPoint = 0) then none
      else getXtypeFromString (ip ++ fp ++ List.replicate (decimalPoint - fp.length) '0') := by
  have hidx : (ip ++ '.' :: (fp ++ List.replicate m '0')).idxOf '.' = ip.length := by
    rw [List.idxOf_append_of_notMem hip, List.idxOf_cons_self, Nat.add_zero]
  have hlen : (ip ++ '.' :: (fp ++ List.replicate m '0')).length - ip.length - 1 =
      fp.length + m := by
    simp only [List.length_append, List.length_cons, List.length_replicate]
    omega
  have hrev : (ip ++ '.' :: (fp ++ List.replicate m '0')).reverse =
      List.replicate m '0' ++ (fp.reverse ++ '.' :: ip.reverse) := by
    simp [List.reverse_replicate]
  -- the reversed string starts with the last character of the fraction, or with the point
  have hhead : ∀ c, (fp.reverse ++ '.' :: ip.reverse).head? = some c → c ≠ '0' := by
    intro c hc
    cases hr : fp.reverse with
    | nil => simp [hr] at hc; rw [← hc]; decide
    | cons b bs =>
      rw [hr, List.cons_append, List.head?_cons] at hc
      apply hfp c
      rw [← List.head?_reverse, hr, List.head?_cons, hc]
  unfold parseAmount
  rw [ht]
  dsimp only
  rw [hidx, hlen, hrev, dropTrailingZeros_replicate_append decimalPoint hhead m (fp.length + m)]
  have hlt : ip.length < (ip ++ '.' :: (fp ++ List.replicate m '0')).length := by simp
  rw [if_pos hlt]
  -- `j` zeros are dropped: all of them, or down to the decimal point
  generalize hj : min m (fp.length + m - decimalPoint) = j
  have hjm : j ≤ m := hj ▸ Nat.min_le_left _ _
  dsimp only
  by_cases hd : decimalPoint < fp.length
  · have hF : decimalPoint < fp.length + m - j := by omega
    rw [if_pos hF, if_pos hd]
  · have hF : ¬ decimalPoint < fp.length + m - j := by omega
    rw [if_neg hF, if_neg hd]
    dsimp only
    rw [padFraction_eq (by omega)]
    have hs : (List.replicate (m - j) '0' ++ (fp.reverse ++ '.' :: ip.reverse)).reverse.eraseIdx
        ip.length = ip ++ fp ++ List.replicate (m - j) '0' := by
      simp [List.reverse_replicate, List.eraseIdx_append_of_length_le]
    have hempty : ip ++ fp ++ List.replicate (m - j) '0' = [] ↔
        ip = [] ∧ fp = [] ∧ (m = 0 ∨ decimalPoint = 0) := by
      simp only [List.append_eq_nil_iff, List.replicate_eq_nil_iff]
      constructor
      · rintro ⟨⟨rfl, rfl⟩, hz⟩
        refine ⟨rfl, rfl, ?_⟩
        simp only [List.length_nil] at hj
        omega
      · rintro ⟨rfl, rfl, hz⟩
        refine ⟨⟨rfl, rfl⟩, ?_⟩
        simp only [List.length_nil] at hj
        omega
    have hzeros : List.replicate (m - j) '0' ++
        List.replicate (decimalPoint - (fp.length + m - j)) '0' =
          List.replicate (decimalPoint - fp.length) '0' := by
      rw [List.replicate_append_replicate]
      congr 1
      omega
    rw [hs, List.append_assoc (ip ++ fp), hzeros]
    exact if_congr hempty rfl rfl

theorem parseAmount_eq_some_iff_of_notMem {strAmount : String} (h : '.' ∉ trim strAmount.toList)
    (decimalPoint : ℕ) (amount : UInt64) :
    parseAmount decimalPoint strAmount = some amount ↔
      IsAmount decimalPoint (trim strAmount.toList) amount.toNat := by
  rw [parseAmount_of_notMem h, isAmount_of_notMem_iff h]
  generalize trim strAmount.toList = t at h ⊢
  by_cases ht : t = []
  · simp [ht]
  · have hne : t ++ List.replicate decimalPoint '0' ≠ [] := by simp [ht]
    rw [if_neg ht, getXtypeFromString_eq_some_iff hne, digitsValue_append,
      digitsValue_replicate_zero, Nat.add_zero, List.length_replicate]
    constructor
    · rintro ⟨hall, hv⟩
      exact ⟨fun c hc => hall c (List.mem_append_left _ hc), ht, hv, amount.toNat_lt⟩
    · rintro ⟨hall, -, hv, -⟩
      refine ⟨fun c hc => ?_, hv⟩
      rcases List.mem_append.mp hc with hc | hc
      · exact hall c hc
      · exact isDigit_of_mem_replicate_zero hc

theorem parseAmount_eq_some_iff_of_point {strAmount : String} {ip fp : List Char} {m : ℕ}
    (hip : '.' ∉ ip) (hfp : ∀ c, fp.getLast? = some c → c ≠ '0')
    (ht : trim strAmount.toList = ip ++ '.' :: (fp ++ List.replicate m '0'))
    (decimalPoint : ℕ) (amount : UInt64) :
    parseAmount decimalPoint strAmount = some amount ↔
      IsAmount decimalPoint (trim strAmount.toList) amount.toNat ∧
        ¬ (decimalPoint = 0 ∧ ∃ k, 0 < k ∧ trim strAmount.toList = '.' :: List.replicate k '0') := by
  rw [parseAmount_of_point hip hfp ht, ht, isAmount_point_iff hip, point_zeros_iff hip hfp,
    div_pow_ten_mul_pow_ten_eq_iff]
  by_cases hd : decimalPoint < fp.length
  · rw [if_pos hd]
    simp only [reduceCtorEq, false_iff]
    rintro ⟨⟨hall, -, hv, -⟩, -⟩
    -- a fraction longer than the decimal point makes the digits a multiple of `10`
    have hpow : 10 ^ fp.length = 10 ^ (fp.length - decimalPoint) * 10 ^ decimalPoint := by
      rw [← pow_add, Nat.sub_add_cancel hd.le]
    rw [hpow, ← Nat.mul_assoc, Nat.mul_left_inj (by positivity)] at hv
    have hdvd : 10 ∣ digitsValue (ip ++ fp) :=
      hv ▸ Dvd.dvd.mul_left (dvd_pow_self 10 (by omega)) _
    exact not_ten_dvd_digitsValue ip (fun c hc => hall c (List.mem_append_right ip hc))
      (List.ne_nil_of_length_pos (by omega)) hfp hdvd
  · rw [if_neg hd, mul_pow_ten_eq_iff (by omega)]
    by_cases he : ip = [] ∧ fp = [] ∧ (m = 0 ∨ decimalPoint = 0)
    · rw [if_pos he]
      simp only [reduceCtorEq, false_iff]
      rintro ⟨⟨-, hne, -, -⟩, hexc⟩
      obtain ⟨rfl, rfl, hm | rfl⟩ := he
      · exact hne ⟨rfl, rfl, hm⟩
      · exact hexc ⟨rfl, rfl, rfl, Nat.pos_of_ne_zero fun hm => hne ⟨rfl, rfl, hm⟩⟩
    · have hne : ip ++ fp ++ List.replicate (decimalPoint - fp.length) '0' ≠ [] := by
        intro h
        simp only [List.append_eq_nil_iff, List.replicate_eq_nil_iff] at h
        obtain ⟨⟨rfl, rfl⟩, hz⟩ := h
        exact he ⟨rfl, rfl, .inr (by simpa using hz)⟩
      rw [if_neg he, getXtypeFromString_eq_some_iff hne, digitsValue_append,
        digitsValue_replicate_zero, Nat.add_zero, List.length_replicate]
      constructor
      · rintro ⟨hall, hv⟩
        exact ⟨⟨fun c hc => hall c (List.mem_append_left _ hc),
          fun h => he ⟨h.1, h.2.1, .inl h.2.2⟩, hv, amount.toNat_lt⟩,
          fun h => he ⟨h.2.1, h.2.2.1, .inr h.1⟩⟩
      · rintro ⟨⟨hall, -, hv, -⟩, -⟩
        refine ⟨fun c hc => ?_, hv⟩
        rcases List.mem_append.mp hc with hc | hc
        · exact hall c hc
        · exact isDigit_of_mem_replicate_zero hc

/-- `parse_amount` accepts exactly the amount strings, with the amount they name, but for a
point followed only by zeros at the decimal point `0`. -/
theorem parseAmount_eq_some_iff (decimalPoint : ℕ) (strAmount : String) (amount : UInt64) :
    parseAmount decimalPoint strAmount = some amount ↔
      IsAmount decimalPoint (trim strAmount.toList) amount.toNat ∧
        ¬ (decimalPoint = 0 ∧ ∃ k, 0 < k ∧ trim strAmount.toList = '.' :: List.replicate k '0') := by
  by_cases hp : '.' ∈ trim strAmount.toList
  · -- split at the first point, and the fraction before the zeros that end it
    obtain ⟨ip, rest, ht, hip⟩ := List.eq_append_cons_of_mem hp
    obtain ⟨fp, m, rfl, hfp⟩ := exists_eq_append_replicate '0' rest
    exact parseAmount_eq_some_iff_of_point hip hfp ht decimalPoint amount
  · have hexc : ¬ ∃ k, 0 < k ∧ trim strAmount.toList = '.' :: List.replicate k '0' := by
      rintro ⟨k, -, ht⟩
      exact hp (ht ▸ List.mem_cons_self)
    rw [parseAmount_eq_some_iff_of_notMem hp]
    exact ⟨fun h => ⟨h, fun h' => hexc h'.2⟩, And.left⟩

/-- At the decimal point `0` the string `".0"` names the amount `0`, and `parse_amount` rejects
it: the zero goes as a surplus fraction digit, the point is erased, and the string left is empty. -/
theorem parseAmount_point_zero : IsAmount 0 (trim ".0".toList) 0 ∧ parseAmount 0 ".0" = none := by
  have htrim : trim ".0".toList = ['.', '0'] := by decide
  refine ⟨?_, by decide⟩
  rw [htrim]
  refine ⟨by simp, by decide, ⟨'0', by simp, rfl⟩, ?_, by decide⟩
  -- the value is `0 / 10`, which the kernel does not compute in `ℚ`
  have hdigits : digitsValue (['.', '0'].filter (· ≠ '.')) = 0 := by decide
  rw [amountValue, hdigits, Nat.cast_zero, zero_div, zero_mul]

/-! ## `print_money` -/

theorem isSpace_of_isDigit {c : Char} (hc : c.isDigit) : isSpace c = false := by
  have hbounds := toNat_bounds_of_isDigit hc
  have h0 : '0'.toNat = 48 := rfl
  have hspace : (c == ' ') = false := by
    rw [beq_eq_false_iff_ne]
    rintro rfl
    exact absurd hbounds.1 (by decide)
  have hcr : ¬ c ≤ '\r' := fun h => by
    have h13 : c.toNat ≤ 13 := UInt32.le_iff_toNat_le.mp h
    omega
  simp [isSpace, hspace, hcr]

theorem dropWhile_isSpace_eq_self {s : List Char} (h : ∀ c ∈ s, isSpace c = false) :
    s.dropWhile isSpace = s := by
  cases s with
  | nil => rfl
  | cons c cs => simp [h c List.mem_cons_self]

/-- `trim` leaves a string without spaces as it is. -/
theorem trim_eq_self {s : List Char} (h : ∀ c ∈ s, isSpace c = false) : trim s = s := by
  have hrev : ∀ c ∈ s.reverse, isSpace c = false := fun c hc => h c (List.mem_reverse.mp hc)
  rw [trim, dropWhile_isSpace_eq_self h, dropWhile_isSpace_eq_self hrev, List.reverse_reverse]

/-- `insert_money_decimal_point` at a positive decimal point: the digits, padded with zeros in
front to more than `decimalPoint` of them, split by a point before the last `decimalPoint`. -/
theorem insertMoneyDecimalPoint_of_pos (s : List Char) {decimalPoint : ℕ} (hd : 0 < decimalPoint) :
    ∃ ip fp, insertMoneyDecimalPoint s decimalPoint = ip ++ '.' :: fp ∧
      ip ++ fp = List.replicate (decimalPoint + 1 - s.length) '0' ++ s ∧
      fp.length = decimalPoint ∧ ip ≠ [] := by
  -- both branches of the padding are the padded form, with no zeros in the second
  have hpad : (if s.length < decimalPoint + 1
      then List.replicate (decimalPoint + 1 - s.length) '0' ++ s else s) =
        List.replicate (decimalPoint + 1 - s.length) '0' ++ s := by
    split_ifs with hlt
    · rfl
    · rw [Nat.sub_eq_zero_of_le (by omega), List.replicate_zero, List.nil_append]
  simp only [insertMoneyDecimalPoint, hpad, if_pos hd]
  generalize hp : List.replicate (decimalPoint + 1 - s.length) '0' ++ s = p
  have hlen : decimalPoint + 1 ≤ p.length := by
    rw [← hp, List.length_append, List.length_replicate]
    omega
  refine ⟨p.take (p.length - decimalPoint), p.drop (p.length - decimalPoint), rfl,
    List.take_append_drop _ _, ?_, ?_⟩
  · rw [List.length_drop]
    omega
  · rw [← List.length_pos_iff, List.length_take]
    omega

theorem insertMoneyDecimalPoint_zero {s : List Char} (hs : s ≠ []) :
    insertMoneyDecimalPoint s 0 = s := by
  have hlen : ¬ s.length < 0 + 1 := by
    have := List.length_pos_iff.mpr hs
    omega
  simp [insertMoneyDecimalPoint, hlen]

/-- `parse_amount` reads back every amount `print_money` prints. -/
theorem parseAmount_printMoney (decimalPoint : ℕ) (amount : UInt64) :
    parseAmount decimalPoint (printMoney decimalPoint amount) = some amount := by
  have hdigits : ∀ c ∈ Nat.toDigits 10 amount.toNat, c.isDigit := fun c hc =>
    Nat.isDigit_of_mem_toDigits (by decide) (by decide) hc
  have hpoint : ('.').isDigit = false := rfl
  have hprint : (printMoney decimalPoint amount).toList =
      insertMoneyDecimalPoint (Nat.toDigits 10 amount.toNat) decimalPoint := by
    rw [printMoney, String.toList_ofList, Nat.toList_repr]
  rcases Nat.eq_zero_or_pos decimalPoint with rfl | hd
  · -- no point is inserted, and the digits are read as they are
    have hp : '.' ∉ Nat.toDigits 10 amount.toNat := fun h => by
      simpa [hpoint] using hdigits '.' h
    have ht : trim (printMoney 0 amount).toList = Nat.toDigits 10 amount.toNat := by
      rw [hprint, insertMoneyDecimalPoint_zero Nat.toDigits_ne_nil,
        trim_eq_self fun c hc => isSpace_of_isDigit (hdigits c hc)]
    rw [parseAmount_eq_some_iff_of_notMem (ht ▸ hp), ht, isAmount_of_notMem_iff hp]
    refine ⟨hdigits, Nat.toDigits_ne_nil, ?_, amount.toNat_lt⟩
    rw [digitsValue_toDigits, pow_zero, Nat.mul_one]
  · obtain ⟨ip, fp, heq, hcat, hlen, hip⟩ :=
      insertMoneyDecimalPoint_of_pos (Nat.toDigits 10 amount.toNat) hd
    -- the padded digits are all digits
    have hall : ∀ c ∈ ip ++ fp, c.isDigit := by
      rw [hcat]
      intro c hc
      rcases List.mem_append.mp hc with hc | hc
      · exact isDigit_of_mem_replicate_zero hc
      · exact hdigits c hc
    have hipd : '.' ∉ ip := fun h => by
      simpa [hpoint] using hall '.' (List.mem_append_left fp h)
    have hspaces : ∀ c ∈ ip ++ '.' :: fp, isSpace c = false := by
      intro c hc
      simp only [List.mem_append, List.mem_cons] at hc
      rcases hc with hc | rfl | hc
      · exact isSpace_of_isDigit (hall c (List.mem_append_left fp hc))
      · rfl
      · exact isSpace_of_isDigit (hall c (List.mem_append_right ip hc))
    have ht : trim (printMoney decimalPoint amount).toList = ip ++ '.' :: fp := by
      rw [hprint, heq, trim_eq_self hspaces]
    -- the zeros that end the fraction are the ones parse_amount drops
    obtain ⟨fp', m, hfp, hlast⟩ := exists_eq_append_replicate '0' fp
    rw [parseAmount_eq_some_iff_of_point hipd hlast (ht.trans (by rw [hfp])), ht]
    refine ⟨?_, fun h => absurd h.1 (Nat.pos_iff_ne_zero.mp hd)⟩
    have hnozeros : ip ++ '.' :: fp = ip ++ '.' :: (fp ++ List.replicate 0 '0') := by
      rw [List.replicate_zero, List.append_nil]
    rw [hnozeros, isAmount_point_iff hipd, div_pow_ten_mul_pow_ten_eq_iff, hcat,
      digitsValue_append, digitsValue_replicate_zero, Nat.zero_mul, Nat.zero_add,
      digitsValue_toDigits, hlen]
    exact ⟨hcat ▸ hall, fun h => hip h.1, rfl, amount.toNat_lt⟩

end Equilibria.Amount
