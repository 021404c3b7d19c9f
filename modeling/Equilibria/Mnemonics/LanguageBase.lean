import Mathlib

/-!
# Mnemonic languages

`Language::Base` of `mnemonics/language_base.h`: a word list with two lookup tables,
`word_map` from each word to its index and `trimmed_word_map` from each word's unique prefix to
its index, both filled by `populate_maps` when the language's singleton is built.

Words are the bytes of their `std::string`, so `size()` and `length()` are `List.length` and
`utf8prefix` copies whole UTF-8 sequences as the source does, byte by byte. The maps hash and
compare words after `tools::utf8canonical`, which decodes each UTF-8 sequence, applies
`std::towlower` to the code point and encodes it again. Only simplewallet calls `setlocale`; the
daemon, the wallet RPC server and the unit tests run in the `"C"` locale, whose `towlower`
lowers the ASCII letters only. On valid UTF-8, which the word lists and the seeds that
`bytes_to_words` writes are, decoding and encoding again gives back the same bytes, so the
canonical form lowers the bytes `'A'` to `'Z'` and keeps every other byte.

An `std::unordered_map` with these functors is modelled by what `find` returns for each key:
the entry whose key compares equal, if there is one. `operator[]` on a key equal to a stored
one keeps the stored key and replaces its value (`WordMap.set`).
-/

namespace Equilibria.Mnemonics

/-! ## Words -/

/-- The first-byte-or-not loop of `Language::utf8prefix`: every byte after the first that is a
continuation byte (`10xxxxxx`) is copied, and any other byte starts a new sequence while
`count` sequences remain to be started. -/
def utf8PrefixLoop : List UInt8 → ℕ → Bool → List UInt8
  | [], _, _ => []
  | b :: rest, count, first =>
    if !first && b &&& 0xc0 == 0x80 then b :: utf8PrefixLoop rest count false
    else match count with
      | 0 => []
      | count + 1 => b :: utf8PrefixLoop rest count false

/-- `Language::utf8prefix`: the first `count` UTF-8 sequences of `s`, or all of it. -/
def utf8Prefix (s : List UInt8) (count : ℕ) : List UInt8 := utf8PrefixLoop s count true

/-- The `towlower` of the `"C"` locale on one byte of valid UTF-8: only `'A'` to `'Z'` change. -/
def towlowerByte (b : UInt8) : UInt8 := if 0x41 ≤ b ∧ b ≤ 0x5a then b + 0x20 else b

/-- `tools::utf8canonical` with the `towlower` of the `"C"` locale, on valid UTF-8. -/
def utf8canonical (s : List UInt8) : List UInt8 := s.map towlowerByte

/-- `Language::WordEqual`. -/
def wordEqual (s0 s1 : List UInt8) : Bool := utf8canonical s0 == utf8canonical s1

theorem wordEqual_iff {s0 s1 : List UInt8} :
    wordEqual s0 s1 = true ↔ utf8canonical s0 = utf8canonical s1 := by
  simp [wordEqual]

@[simp] theorem wordEqual_self (s : List UInt8) : wordEqual s s = true := wordEqual_iff.mpr rfl

theorem wordEqual_trans {s0 s1 s2 : List UInt8} (h01 : wordEqual s0 s1 = true)
    (h12 : wordEqual s1 s2 = true) : wordEqual s0 s2 = true :=
  wordEqual_iff.mpr ((wordEqual_iff.mp h01).trans (wordEqual_iff.mp h12))

/-- A prefix never has more bytes than the word. -/
theorem length_utf8PrefixLoop_le :
    ∀ (s : List UInt8) (count : ℕ) (first : Bool), (utf8PrefixLoop s count first).length ≤ s.length
  | [], _, _ => by simp [utf8PrefixLoop]
  | b :: rest, count, first => by
    unfold utf8PrefixLoop
    split_ifs
    · simpa using length_utf8PrefixLoop_le rest count false
    · cases count with
      | zero => simp
      | succ count => simpa using length_utf8PrefixLoop_le rest count false

/-- A word of at most `count` bytes has at most `count` sequences: its prefix is all of it. -/
theorem utf8PrefixLoop_of_length_le :
    ∀ {s : List UInt8} {count : ℕ} (first : Bool), s.length ≤ count →
      utf8PrefixLoop s count first = s
  | [], _, _, _ => by simp [utf8PrefixLoop]
  | b :: rest, count, first, h => by
    unfold utf8PrefixLoop
    split_ifs
    · rw [utf8PrefixLoop_of_length_le false (by simp at h; omega)]
    · cases count with
      | zero => simp at h
      | succ count =>
        dsimp only
        rw [utf8PrefixLoop_of_length_le false (by simp at h; omega)]

theorem utf8Prefix_of_length_le {s : List UInt8} {count : ℕ} (h : s.length ≤ count) :
    utf8Prefix s count = s := utf8PrefixLoop_of_length_le true h

/-! ## The maps -/

/-- An `std::unordered_map<epee::wipeable_string, uint32_t, WordHash, WordEqual>`: what `find`
returns for each key, the stored key equal to it under `WordEqual` and its value. -/
abbrev WordMap := List UInt8 → Option (List UInt8 × ℕ)

namespace WordMap

/-- The map with no entries. -/
def empty : WordMap := fun _ => none

/-- `m[k] = v`: for the keys equal to `k`, the entry keeps the key stored before, or is `k` if
there was none, and takes the value `v`. -/
def set (m : WordMap) (k : List UInt8) (v : ℕ) : WordMap := fun k' =>
  if wordEqual k k' then some (((m k').map Prod.fst).getD k, v) else m k'

theorem set_apply (m : WordMap) (k k' : List UInt8) (v : ℕ) :
    m.set k v k' = if wordEqual k k' then some (((m k').map Prod.fst).getD k, v) else m k' := rfl

end WordMap

/-- The map the loop of `populate_maps` fills: `map[key w] = ii` for the words in order. -/
def fillMap (key : List UInt8 → List UInt8) (words : List (List UInt8)) : WordMap :=
  words.zipIdx.foldl (fun m p => m.set (key p.1) p.2) .empty

/-- A fold in `Except` that does not throw is the pure fold of what its steps return. -/
theorem foldlM_ok_eq_foldl {α β ε : Type} {f : α → β → Except ε α} {g : α → β → α}
    (hf : ∀ a b next, f a b = .ok next → next = g a b) :
    ∀ {xs : List β} {init last : α}, xs.foldlM f init = .ok last → last = xs.foldl g init
  | [], _, _, h => by cases h; rfl
  | x :: xs, init, last, h => by
    rw [List.foldlM_cons] at h
    cases hx : f init x with
    | error e => rw [hx] at h; cases h
    | ok next =>
      rw [hx] at h
      rw [List.foldl_cons, ← hf init x next hx]
      exact foldlM_ok_eq_foldl hf h

/-! ## Languages -/

/-- `NWORDS`: the length every word list must have. -/
def nwords : ℕ := 1626

/-- The bytes of a `std::string` literal. -/
def bytesOf (s : String) : List UInt8 := s.toUTF8.data.toList

/-- `Language::Base`, with the flags its constructor passes to `populate_maps`. -/
structure Language where
  languageName : String
  englishLanguageName : String
  wordList : List String
  uniquePrefixLength : ℕ
  /-- `ALLOW_SHORT_WORDS` -/
  allowShortWords : Bool
  /-- `ALLOW_DUPLICATE_PREFIXES` -/
  allowDuplicatePrefixes : Bool

namespace Language

variable (language : Language)

/-- The words of `word_list`, as bytes. -/
def words : List (List UInt8) := language.wordList.map bytesOf

/-- The key of a word in `trimmed_word_map`: its prefix when it has more bytes than the prefix
length, the whole word otherwise. -/
def trim (w : List UInt8) : List UInt8 :=
  if language.uniquePrefixLength < w.length then utf8Prefix w language.uniquePrefixLength
  else w

/-- `trim` is the prefix of the word, whatever its length. -/
theorem trim_eq_utf8Prefix (w : List UInt8) :
    language.trim w = utf8Prefix w language.uniquePrefixLength := by
  unfold trim
  split_ifs with h
  · rfl
  · exact (utf8Prefix_of_length_le (by omega)).symm

/-- `word_map` as `populate_maps` fills it. -/
def wordMap : WordMap := fillMap id language.words

/-- `trimmed_word_map` as `populate_maps` fills it. -/
def trimmedWordMap : WordMap := fillMap language.trim language.words

/-- One word of the loop of `populate_maps`, with the checks that throw. -/
def populateStep (maps : WordMap × WordMap) (p : List UInt8 × ℕ) :
    Except String (WordMap × WordMap) :=
  if p.1.length < language.uniquePrefixLength ∧ !language.allowShortWords then
    .error ("Too short word in " ++ language.languageName ++ " word list: " ++
      String.fromUTF8! ⟨p.1.toArray⟩)
  else if (maps.2 (language.trim p.1)).isSome ∧ !language.allowDuplicatePrefixes then
    .error ("Duplicate prefix in " ++ language.languageName ++ " word list: " ++
      String.fromUTF8! ⟨(language.trim p.1).toArray⟩)
  else .ok (maps.1.set p.1 p.2, maps.2.set (language.trim p.1) p.2)

/-- `populate_maps`. -/
def populateMaps : Except String (WordMap × WordMap) :=
  if language.wordList.length ≠ nwords then
    .error ("Wrong word list length for " ++ language.languageName)
  else language.words.zipIdx.foldlM language.populateStep (.empty, .empty)

/-- The checks of `populate_maps` never change what it stores: when it does not throw, its maps
are `wordMap` and `trimmedWordMap`. -/
theorem populateMaps_eq_ok {maps : WordMap × WordMap} (h : language.populateMaps = .ok maps) :
    maps = (language.wordMap, language.trimmedWordMap) := by
  have hfill : language.words.zipIdx.foldlM language.populateStep (.empty, .empty) = .ok maps := by
    simp only [populateMaps] at h
    split_ifs at h
    exact h
  -- a step that does not throw stores the word and its prefix
  have hstep : ∀ (init : WordMap × WordMap) (p : List UInt8 × ℕ) next,
      language.populateStep init p = .ok next →
        next = (init.1.set p.1 p.2, init.2.set (language.trim p.1) p.2) := by
    intro init p next hp
    simp only [populateStep] at hp
    split_ifs at hp
    exact (Except.ok.inj hp).symm
  rw [foldlM_ok_eq_foldl hstep hfill]
  have hsplit : ∀ (ps : List (List UInt8 × ℕ)) (m₁ m₂ : WordMap),
      ps.foldl (fun maps p => (maps.1.set p.1 p.2, maps.2.set (language.trim p.1) p.2))
        (m₁, m₂) = (ps.foldl (fun m p => m.set p.1 p.2) m₁,
          ps.foldl (fun m p => m.set (language.trim p.1) p.2) m₂) := by
    intro ps
    induction ps with
    | nil => intro m₁ m₂; rfl
    | cons p ps ih => intro m₁ m₂; exact ih _ _
  exact hsplit _ _ _

end Language

end Equilibria.Mnemonics
