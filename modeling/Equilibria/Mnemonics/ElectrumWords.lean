import Equilibria.BinaryArchive
import Equilibria.Mnemonics.ChineseSimplified
import Equilibria.Mnemonics.English
import Equilibria.Mnemonics.Dutch
import Equilibria.Mnemonics.French
import Equilibria.Mnemonics.Spanish
import Equilibria.Mnemonics.German
import Equilibria.Mnemonics.Italian
import Equilibria.Mnemonics.Portuguese
import Equilibria.Mnemonics.Japanese
import Equilibria.Mnemonics.Russian
import Equilibria.Mnemonics.Esperanto
import Equilibria.Mnemonics.Lojban
import Equilibria.Mnemonics.EnglishOld

/-!
# Mnemonic seeds

`crypto::ElectrumWords` of `mnemonics/electrum-words.cpp`. `bytes_to_words` writes each four
bytes of a key, read as a little-endian `uint32_t` `w[0]`, as three words of the chosen list: the
base-1626 digits of `w[0]`, each added to the one before modulo 1626. It then appends a checksum
word, one of the seed's words chosen by the CRC-32 of their unique prefixes. `words_to_bytes`
splits the words, finds the language with `find_seed_language`, tests the checksum word and
reads each group of three indices back, in `uint32_t` arithmetic.

`find_seed_language` tries thirteen languages in an order of its own, matching every word by its
prefix when the seed has a checksum word and whole otherwise; the first language that holds all
the words and passes the checksum test is taken.

Functions that return `false` return `none`; an exception that `create_checksum_index` throws is
`Except.error` with its message. `words` and `dst` are taken empty on entry.
-/

namespace Equilibria.ElectrumWords

open Mnemonics BinaryArchive

/-! ## `boost::crc_32_type` -/

/-- One bit of the reflected CRC-32 register: shift it right, and xor in the reflected polynomial
`0xEDB88320` when the bit shifted out is set. -/
def crcShift (c : UInt32) : UInt32 := if c &&& 1 = 1 then c >>> 1 ^^^ 0xEDB88320 else c >>> 1

/-- One byte through the register. -/
def crcByte (c : UInt32) (b : UInt8) : UInt32 := crcShift^[8] (c ^^^ b.toUInt32)

/-- `process_bytes` then `checksum()` of a fresh `boost::crc_32_type`: the register starts at
`0xFFFFFFFF` and is complemented at the end. -/
def crc32 (bytes : List UInt8) : UInt32 := bytes.foldl crcByte 0xFFFFFFFF ^^^ 0xFFFFFFFF

example : crc32 (bytesOf "123456789") = 0xCBF43926 := by decide +kernel

/-! ## Splitting a seed -/

/-- `std::isspace` of the `"C"` locale. -/
def isSpace (c : UInt8) : Bool := c == 0x20 || (0x09 ≤ c && c ≤ 0x0d)

/-- One byte of the loop of `wipeable_string::split`, from the fields so far and whether the
byte before was a space: a byte that is not a space starts a field after a space and extends the
last field otherwise. -/
def splitStep (st : List (List UInt8) × Bool) (c : UInt8) : List (List UInt8) × Bool :=
  if isSpace c then (st.1, true)
  else if st.2 then (st.1 ++ [[c]], false)
  else (st.1.modifyLast (· ++ [c]), false)

/-- `epee::wipeable_string::split`. -/
def split (s : List UInt8) : List (List UInt8) := (s.foldl splitStep ([], true)).1

/-! ## The languages -/

/-- The `language_instances` of `find_seed_language`, in the order it tries them. -/
noncomputable def languageInstances : List Language :=
  [chineseSimplified, english, dutch, french, spanish, german, italian, portuguese, japanese,
    russian, esperanto, lojban, englishOld]

/-- `get_language_list`: the languages a seed is written in. -/
noncomputable def getLanguageList : List Language :=
  [german, english, spanish, french, italian, dutch, portuguese, russian, japanese,
    chineseSimplified, esperanto, lojban]

/-! ## The checksum word -/

/-- The loop of `create_checksum_index`: the keys of `trimmed_word_map` that the words' prefixes
find, concatenated, or the exception for the first prefix that finds none. -/
def trimmedWords (language : Language) : List (List UInt8) → Except String (List UInt8)
  | [] => .ok []
  | w :: ws =>
    match language.trimmedWordMap (utf8Prefix w language.uniquePrefixLength) with
    | none => .error ("Word \"" ++ String.fromUTF8! ⟨(utf8Prefix w
        language.uniquePrefixLength).toArray⟩ ++ "\" not found in trimmed word map in " ++
        language.englishLanguageName)
    | some (key, _) => (trimmedWords language ws).map (key ++ ·)

/-- `create_checksum_index`: the CRC-32 of the prefixes, modulo the number of words. -/
def createChecksumIndex (wordList : List (List UInt8)) (language : Language) : Except String ℕ :=
  (trimmedWords language wordList).map fun trimmed => (crc32 trimmed).toNat % wordList.length

/-- `checksum_test`: whether the last word has the prefix of the word that the others' checksum
index picks. -/
def checksumTest (seed : List (List UInt8)) (language : Language) : Except String Bool :=
  match seed.getLast? with
  | none => .ok false
  | some lastWord =>
    (createChecksumIndex seed.dropLast language).map fun idx =>
      wordEqual (language.trim (seed.dropLast.getD idx [])) (language.trim lastWord)

/-! ## Finding the language -/

/-- The inner loop of `find_seed_language` for one language: the indices of the words, looked up
by their prefixes in `trimmed_word_map` when the seed has a checksum word and whole in `word_map`
otherwise, or `none` at the first word that is missing. -/
def matchSeed (language : Language) (hasChecksum : Bool) :
    List (List UInt8) → Option (List ℕ)
  | [] => some []
  | w :: ws =>
    let found := if hasChecksum then
      language.trimmedWordMap (utf8Prefix w language.uniquePrefixLength)
    else language.wordMap w
    match found with
    | none => none
    | some (_, ii) => (matchSeed language hasChecksum ws).map (ii :: ·)

/-- The outer loop of `find_seed_language` over the languages left to try, with the fallback
so far: a language that holds every word and passes the checksum test is returned with the
indices matched; after the last language the fallback, a language that held every word but
failed the test, is returned with the indices cleared. -/
def findSeedLanguageLoop (seed : List (List UInt8)) (hasChecksum : Bool) :
    Option Language → List Language → Except String (Option (Language × List ℕ))
  | fallback, [] => .ok (fallback.map (·, []))
  | fallback, language :: rest =>
    match matchSeed language hasChecksum seed with
    | none => findSeedLanguageLoop seed hasChecksum fallback rest
    | some matchedIndices =>
      if hasChecksum then
        match checksumTest seed language with
        | .error e => .error e
        | .ok true => .ok (some (language, matchedIndices))
        | .ok false => findSeedLanguageLoop seed hasChecksum (some language) rest
      else .ok (some (language, matchedIndices))

/-- `find_seed_language`. -/
noncomputable def findSeedLanguage (seed : List (List UInt8)) (hasChecksum : Bool) :
    Except String (Option (Language × List ℕ)) :=
  findSeedLanguageLoop seed hasChecksum none languageInstances

/-! ## Words to bytes -/

/-- The loop of `words_to_bytes` over `groups` groups of three matched indices: each group's
`w[0]`, computed in `uint32_t`, as four little-endian bytes, or `none` when `w[0]` modulo the
list's length is not the first index. The source reads past the indices only on the fallback
path, which the checksum test has rejected before. -/
def decodeIndices (wordListLength : ℕ) : ℕ → List ℕ → Option (List UInt8)
  | 0, _ => some []
  | groups + 1, i1 :: i2 :: i3 :: rest =>
    let n := wordListLength.toUInt32
    let w1 := i1.toUInt32
    let w2 := i2.toUInt32
    let w3 := i3.toUInt32
    let w0 := w1 + n * ((n - w1 + w2) % n) + n * n * ((n - w2 + w3) % n)
    if w0 % n = w1 then (decodeIndices wordListLength groups rest).map (writeUint 4 w0.toNat ++ ·)
    else none
  | _ + 1, _ => none

/-- `words_to_bytes` with the expected length `len` and the `duplicate` flag: the bytes and the
`language_name` found. -/
noncomputable def wordsToBytes (words : List UInt8) (len : ℕ) (duplicate : Bool) :
    Except String (Option (List UInt8 × String)) :=
  let seed := split words
  let expected := len * 8 * 3 / 32
  if len % 4 ≠ 0 then .ok none
  else if len ≠ 0 ∧ seed.length ≠ expected / 2 ∧ seed.length ≠ expected ∧
      seed.length ≠ expected + 1 then .ok none
  else
    -- a seed of unknown length is taken to end with its checksum word
    let hasChecksum : Bool := len == 0 || seed.length == expected + 1
    match findSeedLanguage seed hasChecksum with
    | .error e => .error e
    | .ok none => .ok none
    | .ok (some (language, matchedIndices)) =>
      match (if hasChecksum then checksumTest seed language else .ok true) with
      | .error e => .error e
      | .ok false => .ok none
      | .ok true =>
        let seed := if hasChecksum then seed.dropLast else seed
        match decodeIndices language.wordList.length (seed.length / 3) matchedIndices with
        | none => .ok none
        | some dst =>
          -- an electrum seed of half the words is duplicated, by a test of its own length
          let dst := if 0 < len ∧ duplicate ∧ seed.length = len * 3 / 32 / 2 then dst ++ dst
            else dst
          .ok (some (dst, language.languageName))

/-! ## Bytes to words -/

/-- The loop of `bytes_to_words`: each four bytes, read as a little-endian `uint32_t` `w[0]`, give
the indices `w[1]`, `w[2]` and `w[3]` of its three words in a list of `wordListLength` words. -/
def groupIndices (wordListLength : ℕ) : List UInt8 → List ℕ
  | b0 :: b1 :: b2 :: b3 :: rest =>
    let n := wordListLength.toUInt32
    let w0 := (leValue [b0, b1, b2, b3]).toUInt32
    let w1 := w0 % n
    let w2 := (w0 / n + w1) % n
    let w3 := (w0 / n / n + w2) % n
    w1.toNat :: w2.toNat :: w3.toNat :: groupIndices wordListLength rest
  | _ => []

/-- The language `bytes_to_words` writes in: the last of `get_language_list` with the name or the
English name asked for. -/
noncomputable def findLanguage (languageName : String) : Option Language :=
  getLanguageList.foldl (fun found l =>
    if languageName = l.languageName ∨ languageName = l.englishLanguageName then some l
    else found) none

/-- `bytes_to_words`: the words, each followed by a space, then the checksum word. -/
noncomputable def bytesToWords (src : List UInt8) (languageName : String) :
    Except String (Option (List UInt8)) :=
  if src.length % 4 ≠ 0 ∨ src.length = 0 then .ok none
  else match findLanguage languageName with
    | none => .ok none
    | some language =>
      let wordsStore := (groupIndices language.words.length src).map (language.words.getD · [])
      (createChecksumIndex wordsStore language).map fun idx =>
        some (wordsStore.flatMap (· ++ [0x20]) ++ wordsStore.getD idx [])

/-! ## How a seed is read -/

section Lookups

variable {language : Language} {w : List UInt8} {ws : List (List UInt8)} {key : List UInt8}
  {ii : ℕ}

/-- A word whose prefix `trimmed_word_map` holds is matched by the index stored for it. -/
theorem matchSeed_cons_of_trimmed
    (h : language.trimmedWordMap (utf8Prefix w language.uniquePrefixLength) = some (key, ii)) :
    matchSeed language true (w :: ws) = (matchSeed language true ws).map (ii :: ·) := by
  simp [matchSeed, h]

/-- A word whose prefix `trimmed_word_map` holds adds the stored key to the checksum's input. -/
theorem trimmedWords_cons_of_trimmed
    (h : language.trimmedWordMap (utf8Prefix w language.uniquePrefixLength) = some (key, ii)) :
    trimmedWords language (w :: ws) = (trimmedWords language ws).map (key ++ ·) := by
  simp [trimmedWords, h]

/-- A word whose prefix `trimmed_word_map` does not hold ends the match. -/
theorem matchSeed_cons_of_not_trimmed
    (h : language.trimmedWordMap (utf8Prefix w language.uniquePrefixLength) = none) :
    matchSeed language true (w :: ws) = none := by
  simp [matchSeed, h]

end Lookups

/-- A language that misses a word of the seed is passed over. -/
theorem findSeedLanguageLoop_of_matchSeed_none {seed : List (List UInt8)} {hasChecksum : Bool}
    {fallback : Option Language} {language : Language} {rest : List Language}
    (h : matchSeed language hasChecksum seed = none) :
    findSeedLanguageLoop seed hasChecksum fallback (language :: rest) =
      findSeedLanguageLoop seed hasChecksum fallback rest := by
  rw [findSeedLanguageLoop, h]

/-- A language that holds every prefix of the seed and passes the checksum test is taken, with
the indices of the words. -/
theorem findSeedLanguageLoop_of_checksumTest {seed : List (List UInt8)}
    {fallback : Option Language} {language : Language} {rest : List Language}
    {matchedIndices : List ℕ} (hmatch : matchSeed language true seed = some matchedIndices)
    (htest : checksumTest seed language = .ok true) :
    findSeedLanguageLoop seed true fallback (language :: rest) =
      .ok (some (language, matchedIndices)) := by
  rw [findSeedLanguageLoop, hmatch]
  simp [htest]

/-- A language that holds every prefix of the seed but fails the checksum test becomes the
fallback, and the search goes on. -/
theorem findSeedLanguageLoop_of_checksumTest_false {seed : List (List UInt8)}
    {fallback : Option Language} {language : Language} {rest : List Language}
    {matchedIndices : List ℕ} (hmatch : matchSeed language true seed = some matchedIndices)
    (htest : checksumTest seed language = .ok false) :
    findSeedLanguageLoop seed true fallback (language :: rest) =
      findSeedLanguageLoop seed true (some language) rest := by
  rw [findSeedLanguageLoop, hmatch]
  simp [htest]

/-- The checksum index is an index of the words. -/
theorem createChecksumIndex_lt {wordList : List (List UInt8)} {language : Language} {idx : ℕ}
    (hne : wordList ≠ []) (h : createChecksumIndex wordList language = .ok idx) :
    idx < wordList.length := by
  simp only [createChecksumIndex] at h
  cases htrim : trimmedWords language wordList with
  | error e => rw [htrim] at h; cases h
  | ok trimmed =>
    rw [htrim] at h
    cases h
    exact Nat.mod_lt _ (List.length_pos_of_ne_nil hne)

/-- What `bytes_to_words` writes when it succeeds: the key has a positive multiple of four bytes,
and the words are those at the indices of its groups, each followed by a space, then the one that
the checksum index picks among them. -/
theorem bytesToWords_eq_ok {src : List UInt8} {languageName : String} {words : List UInt8}
    {language : Language} (hwords : bytesToWords src languageName = .ok (some words))
    (hlanguage : findLanguage languageName = some language) :
    src.length % 4 = 0 ∧ src.length ≠ 0 ∧ ∃ c,
      createChecksumIndex ((groupIndices language.words.length src).map
        (language.words.getD · [])) language = .ok c ∧
      words = ((groupIndices language.words.length src).map (language.words.getD · [])).flatMap
          (· ++ [0x20]) ++
        ((groupIndices language.words.length src).map (language.words.getD · [])).getD c [] := by
  unfold bytesToWords at hwords
  split_ifs at hwords with hsize
  · simp at hwords
  rw [hlanguage] at hwords
  dsimp only at hwords
  cases hindex : createChecksumIndex ((groupIndices language.words.length src).map
      (language.words.getD · [])) language with
  | error e =>
    rw [hindex] at hwords
    cases hwords
  | ok c =>
    rw [hindex] at hwords
    simp only [Except.map, Except.ok.injEq, Option.some.injEq] at hwords
    exact ⟨by omega, by omega, c, rfl, hwords.symm⟩

/-- `words_to_bytes` on a seed of the expected length with its checksum word: once the language
is found and the checksum word passes, the bytes are the decoded indices of the other words. -/
theorem wordsToBytes_of_checksumTest {words : List UInt8} {len : ℕ} {duplicate : Bool}
    {seed : List (List UInt8)} {language : Language} {matchedIndices : List ℕ}
    {dst : List UInt8} (hseed : split words = seed) (hlen : len % 4 = 0)
    (hcount : seed.length = len * 8 * 3 / 32 + 1)
    (hfind : findSeedLanguage seed true = .ok (some (language, matchedIndices)))
    (htest : checksumTest seed language = .ok true)
    (hdecode : decodeIndices language.wordList.length (seed.dropLast.length / 3)
      matchedIndices = some dst)
    (hdup : seed.dropLast.length ≠ len * 3 / 32 / 2) :
    wordsToBytes words len duplicate = .ok (some (dst, language.languageName)) := by
  have hsizes : ¬(len ≠ 0 ∧ seed.length ≠ len * 8 * 3 / 32 / 2 ∧
      seed.length ≠ len * 8 * 3 / 32 ∧ seed.length ≠ len * 8 * 3 / 32 + 1) := by omega
  have hchecksum : (len == 0 || seed.length == len * 8 * 3 / 32 + 1) = true := by simp [hcount]
  simp only [wordsToBytes, hseed, hlen, hsizes, hchecksum, hfind, htest, ne_eq,
    not_true_eq_false, if_false, if_true]
  rw [hdecode]
  rw [List.length_dropLast] at hdup
  simp [hdup]

end Equilibria.ElectrumWords
