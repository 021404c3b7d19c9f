import Equilibria.Mnemonics.ElectrumWords

/-!
# Reading a seed back

`words_to_bytes` undoes `bytes_to_words` in everything but the choice of language. The decoder's
`uint32_t` arithmetic gives back each four bytes from their three indices
(`decodeIndices_groupIndices`), the seed splits back into its words, each word's prefix finds its
own index in a list whose prefixes are distinct, and the checksum word passes the test of the
language that wrote it. So `wordsToBytes_bytesToWords`: a seed is read back as its key, in its
language, whenever no language that `find_seed_language` tries before that one accepts it.

That condition is not implied by the word lists: `dutch_seed_read_as_english` is a Dutch seed that
English, tried before Dutch, accepts, prefixes and checksum alike.
-/

namespace Equilibria.ElectrumWords

open Mnemonics BinaryArchive

/-! ## The arithmetic of one group -/

/-- The decoder inverts the encoder on one group: from `w[1]`, `w[2]` and `w[3]` as
`bytes_to_words` computes them, the `uint32_t` expression of `words_to_bytes` gives back `w[0]`.
No product or sum wraps, since `w[0] < 2^32 < 1626^3`. -/
theorem decodeGroup_encodeGroup (w0 : UInt32) :
    let n : UInt32 := nwords.toUInt32
    let w1 := w0 % n
    let w2 := (w0 / n + w1) % n
    let w3 := (w0 / n / n + w2) % n
    w1 + n * ((n - w1 + w2) % n) + n * n * ((n - w2 + w3) % n) = w0 := by
  intro n w1 w2 w3
  have hn : n.toNat = 1626 := rfl
  have ha := w0.toNat_lt
  generalize hx : w0.toNat = x at ha
  -- the three indices in terms of the base-1626 digits of `x`
  have h1 : w1.toNat = x % 1626 := by simp [w1, UInt32.toNat_mod, hn, hx]
  have h2 : w2.toNat = (x / 1626 + x % 1626) % 1626 := by
    have hlt : x / 1626 + x % 1626 < 2 ^ 32 := by omega
    simp only [w2, UInt32.toNat_mod, UInt32.toNat_add, UInt32.toNat_div, hn, h1, hx,
      Nat.mod_eq_of_lt hlt]
  have h3 : w3.toNat = (x / 1626 / 1626 + (x / 1626 + x % 1626) % 1626) % 1626 := by
    have hlt : x / 1626 / 1626 + (x / 1626 + x % 1626) % 1626 < 2 ^ 32 := by omega
    simp only [w3, UInt32.toNat_mod, UInt32.toNat_add, UInt32.toNat_div, hn, h2, hx,
      Nat.mod_eq_of_lt hlt]
  -- each offset taken back modulo 1626 is the digit the addition hid
  have hq1 : ((n - w1 + w2) % n).toNat = x / 1626 % 1626 := by
    have hsub : (n - w1).toNat = 1626 - x % 1626 := by
      rw [UInt32.toNat_sub_of_le, hn, h1]
      rw [UInt32.le_iff_toNat_le, hn, h1]; omega
    have hlt : 1626 - x % 1626 + (x / 1626 + x % 1626) % 1626 < 2 ^ 32 := by omega
    simp only [UInt32.toNat_mod, UInt32.toNat_add, hsub, h2, hn, Nat.mod_eq_of_lt hlt]
    omega
  have hq2 : ((n - w2 + w3) % n).toNat = x / 1626 / 1626 % 1626 := by
    have hsub : (n - w2).toNat = 1626 - (x / 1626 + x % 1626) % 1626 := by
      rw [UInt32.toNat_sub_of_le, hn, h2]
      rw [UInt32.le_iff_toNat_le, hn, h2]; omega
    have hlt : 1626 - (x / 1626 + x % 1626) % 1626 +
        (x / 1626 / 1626 + (x / 1626 + x % 1626) % 1626) % 1626 < 2 ^ 32 := by omega
    simp only [UInt32.toNat_mod, UInt32.toNat_add, hsub, h3, hn, Nat.mod_eq_of_lt hlt]
    omega
  -- the digits put back together are `x`, and no product or sum leaves 32 bits
  have hp1 : 1626 * (x / 1626 % 1626) < 2 ^ 32 := by omega
  have hp2 : 1626 * 1626 * (x / 1626 / 1626 % 1626) < 2 ^ 32 := by omega
  have hsum : x % 1626 + 1626 * (x / 1626 % 1626) + 1626 * 1626 * (x / 1626 / 1626 % 1626) = x := by
    omega
  apply UInt32.toNat_inj.mp
  simp only [UInt32.toNat_add, UInt32.toNat_mul, hn, h1, hq1, hq2, hx, Nat.mod_eq_of_lt hp1,
    Nat.mod_eq_of_lt hp2]
  omega

theorem length_groupIndices (wordListLength : ℕ) :
    ∀ src : List UInt8, (groupIndices wordListLength src).length = 3 * (src.length / 4)
  | _ :: _ :: _ :: _ :: rest => by
    simp only [groupIndices, List.length_cons, length_groupIndices wordListLength rest]
    omega
  | [] | [_] | [_, _] | [_, _, _] => by simp [groupIndices]

/-- The indices of a list of 1626 words are indices of the list. -/
theorem lt_of_mem_groupIndices :
    ∀ {src : List UInt8} {i : ℕ}, i ∈ groupIndices nwords src → i < nwords
  | _ :: _ :: _ :: _ :: rest, i, h => by
    simp only [groupIndices, List.mem_cons] at h
    rcases h with h | h | h | h
    all_goals first
      | (subst h; rw [UInt32.toNat_mod]; exact Nat.mod_lt _ (by decide))
      | exact lt_of_mem_groupIndices h
  | [], _, h | [_], _, h | [_, _], _, h | [_, _, _], _, h => by simp [groupIndices] at h

/-- The loop of `words_to_bytes` reads back every group that `bytes_to_words` wrote, whatever
follows the indices of the last group. -/
theorem decodeIndices_groupIndices :
    ∀ (src : List UInt8) (extra : List ℕ), src.length % 4 = 0 →
      decodeIndices nwords (src.length / 4) (groupIndices nwords src ++ extra) = some src
  | [], _, _ => rfl
  | b0 :: b1 :: b2 :: b3 :: rest, extra, h => by
    have hrest : rest.length % 4 = 0 := by simp at h; omega
    have hgroups : (b0 :: b1 :: b2 :: b3 :: rest).length / 4 = rest.length / 4 + 1 := by
      simp only [List.length_cons]; omega
    -- `w[0]` holds the four bytes exactly
    have hw0 : ((leValue [b0, b1, b2, b3]).toUInt32).toNat = leValue [b0, b1, b2, b3] := by
      have hlt := leValue_lt [b0, b1, b2, b3]
      simp only [List.length_cons, List.length_nil] at hlt
      rw [Nat.toUInt32_eq, UInt32.toNat_ofNat', Nat.mod_eq_of_lt (by omega)]
    have hbytes : writeUint 4 (leValue [b0, b1, b2, b3]) = [b0, b1, b2, b3] :=
      writeUint_leValue [b0, b1, b2, b3]
    rw [hgroups, groupIndices]
    simp only [List.cons_append, decodeIndices, Nat.toUInt32_eq, UInt32.ofNat_toNat,
      decodeGroup_encodeGroup, decodeIndices_groupIndices rest extra hrest, Option.map_some,
      hw0, hbytes, List.cons_append, List.nil_append, if_true]
  | [_], _, h | [_, _], _, h | [_, _, _], _, h => by simp at h

/-! ## Splitting the seed -/

/-- A word with no space in it extends the field it continues. -/
theorem foldl_splitStep_word (fields : List (List UInt8)) :
    ∀ (f w : List UInt8), (∀ b ∈ w, isSpace b = false) →
      w.foldl splitStep (fields ++ [f], false) = (fields ++ [f ++ w], false)
  | f, [], _ => by simp
  | f, c :: w, h => by
    have hc : isSpace c = false := h c List.mem_cons_self
    rw [List.foldl_cons, splitStep, if_neg (by simp [hc]), if_neg (by simp),
      List.modifyLast_concat, foldl_splitStep_word fields (f ++ [c]) w
        (fun b hb => h b (List.mem_cons_of_mem c hb))]
    simp

/-- After a space, a word with no space in it is a field of its own. -/
theorem foldl_splitStep_field (fields : List (List UInt8)) {w : List UInt8} (hne : w ≠ [])
    (h : ∀ b ∈ w, isSpace b = false) :
    w.foldl splitStep (fields, true) = (fields ++ [w], false) := by
  obtain ⟨c, w, rfl⟩ := List.exists_cons_of_ne_nil hne
  have hc : isSpace c = false := h c List.mem_cons_self
  rw [List.foldl_cons, splitStep, if_neg (by simp [hc]), if_pos rfl,
    foldl_splitStep_word fields [c] w (fun b hb => h b (List.mem_cons_of_mem c hb))]
  rfl

/-- The words, each followed by a space, then a last word: `split` gives back the words. -/
theorem foldl_splitStep_words (last : List UInt8) (hlast : last ≠ [])
    (hlastSpace : ∀ b ∈ last, isSpace b = false) :
    ∀ (ws fields : List (List UInt8)), (∀ w ∈ ws, w ≠ [] ∧ ∀ b ∈ w, isSpace b = false) →
      (ws.flatMap (· ++ [0x20]) ++ last).foldl splitStep (fields, true) =
        (fields ++ ws ++ [last], false)
  | [], fields, _ => by simpa using foldl_splitStep_field fields hlast hlastSpace
  | w :: ws, fields, h => by
    have hw := h w List.mem_cons_self
    have hspace : [(0x20 : UInt8)].foldl splitStep (fields ++ [w], false) = (fields ++ [w], true) :=
      rfl
    rw [List.flatMap_cons, List.append_assoc, List.append_assoc, List.foldl_append,
      List.foldl_append, foldl_splitStep_field fields hw.1 hw.2, hspace,
      foldl_splitStep_words last hlast hlastSpace ws (fields ++ [w])
        (fun v hv => h v (List.mem_cons_of_mem w hv))]
    simp

theorem split_seed {ws : List (List UInt8)} {last : List UInt8}
    (hws : ∀ w ∈ ws, w ≠ [] ∧ ∀ b ∈ w, isSpace b = false) (hlast : last ≠ [])
    (hlastSpace : ∀ b ∈ last, isSpace b = false) :
    split (ws.flatMap (· ++ [0x20]) ++ last) = ws ++ [last] := by
  rw [split, foldl_splitStep_words last hlast hlastSpace ws [] hws]
  simp

/-! ## Looking the words up -/

/-- What `populate_maps` checks of a word list without `ALLOW_DUPLICATE_PREFIXES`, and what
splitting a seed needs: 1626 words, none empty or holding a space, and no two whose prefixes are
equal. -/
structure WellFormedWordList (language : Language) : Prop where
  length_eq : language.wordList.length = nwords
  no_space : ∀ w ∈ language.words, w ≠ [] ∧ ∀ b ∈ w, isSpace b = false
  prefixes_distinct : ∀ i j, i < nwords → j < nwords →
    wordEqual (language.trim (language.words.getD i [])) (language.trim (language.words.getD j []))
      = true → i = j

/-- Filling a map from pairs whose only entry with a key equal to `k` is `(w, i)`: the lookup of
`k` finds `(w, i)` once that entry is set, and no later entry changes it. -/
theorem foldl_set_of_unique {key : List UInt8 → List UInt8} {k w : List UInt8} {i : ℕ}
    (hw : wordEqual (key w) k = true) :
    ∀ (ps : List (List UInt8 × ℕ)) (m : WordMap),
      (∀ p ∈ ps, wordEqual (key p.1) k = true → p = (w, i)) →
      (m k = none ∧ (w, i) ∈ ps ∨ m k = some (key w, i)) →
      (ps.foldl (fun m p => m.set (key p.1) p.2) m) k = some (key w, i)
  | [], m, _, hm => by
    rcases hm with ⟨-, hmem⟩ | hm
    · simp at hmem
    · exact hm
  | p :: ps, m, hps, hm => by
    rw [List.foldl_cons]
    apply foldl_set_of_unique hw ps _ (fun q hq => hps q (List.mem_cons_of_mem p hq))
    rw [WordMap.set_apply]
    by_cases hp : wordEqual (key p.1) k = true
    · -- the entry itself: it keeps the key stored before, if any, and takes the index
      obtain rfl := hps p List.mem_cons_self hp
      right
      rcases hm with ⟨hnone, -⟩ | hsome
      · simp [hp, hnone]
      · simp [hp, hsome]
    · rw [if_neg hp]
      rcases hm with ⟨hnone, hmem⟩ | hsome
      · have hne : p ≠ (w, i) := by
          rintro rfl
          exact hp hw
        exact .inl ⟨hnone, (List.mem_cons.mp hmem).resolve_left (Ne.symm hne)⟩
      · exact .inr hsome

/-- In the map `populate_maps` fills, a key equal to the key of exactly one word finds that word's
key and index. -/
theorem fillMap_of_unique {key : List UInt8 → List UInt8} {words : List (List UInt8)}
    {k : List UInt8} {i : ℕ} (hi : i < words.length)
    (hmatch : wordEqual (key (words.getD i [])) k = true)
    (hother : ∀ j < words.length, wordEqual (key (words.getD j [])) k = true → j = i) :
    fillMap key words k = some (key (words.getD i []), i) := by
  apply foldl_set_of_unique hmatch
  · -- an entry of the indexed words is a word and its index
    rintro ⟨v, j⟩ hmem hv
    rw [List.mem_zipIdx_iff_getElem?] at hmem
    obtain ⟨hj, hget⟩ := List.getElem?_eq_some_iff.mp hmem
    have hgetD : words.getD j [] = v := by
      rw [List.getD_eq_getElem?_getD, List.getElem?_eq_getElem hj, hget, Option.getD_some]
    obtain rfl := hother j hj (by rw [hgetD]; exact hv)
    rw [hgetD]
  · left
    refine ⟨rfl, ?_⟩
    rw [List.mem_zipIdx_iff_getElem?, List.getD_eq_getElem?_getD, List.getElem?_eq_getElem hi,
      Option.getD_some]

namespace WellFormedWordList

variable {language : Language} (hwf : WellFormedWordList language)
include hwf

theorem length_words : language.words.length = nwords := by
  rw [Language.words, List.length_map, hwf.length_eq]

/-- In a well-formed list, the prefix of the `i`-th word finds the `i`-th word's key and `i`. -/
theorem trimmedWordMap_word {i : ℕ} (hi : i < nwords) :
    language.trimmedWordMap (utf8Prefix (language.words.getD i []) language.uniquePrefixLength) =
      some (language.trim (language.words.getD i []), i) := by
  rw [← Language.trim_eq_utf8Prefix]
  apply fillMap_of_unique (hwf.length_words ▸ hi) (wordEqual_self _)
  intro j hj hmatch
  exact hwf.prefixes_distinct j i (hwf.length_words ▸ hj) hi hmatch

/-- The words at indices of the list are matched back to those indices. -/
theorem matchSeed_words : ∀ idx : List ℕ, (∀ i ∈ idx, i < nwords) →
    matchSeed language true (idx.map (language.words.getD · [])) = some idx
  | [], _ => rfl
  | i :: idx, h => by
    rw [List.map_cons, matchSeed_cons_of_trimmed (hwf.trimmedWordMap_word (h i List.mem_cons_self)),
      matchSeed_words idx (fun j hj => h j (List.mem_cons_of_mem i hj))]
    rfl

/-- The words at indices of the list hold no space. -/
theorem no_space_getD {i : ℕ} (hi : i < nwords) :
    language.words.getD i [] ≠ [] ∧ ∀ b ∈ language.words.getD i [], isSpace b = false := by
  have hlt : i < language.words.length := hwf.length_words ▸ hi
  rw [List.getD_eq_getElem?_getD, List.getElem?_eq_getElem hlt, Option.getD_some]
  exact hwf.no_space _ (List.getElem_mem hlt)

end WellFormedWordList

/-! ## The round trip -/

/-- A seed ending with the word its checksum index picks passes the checksum test. -/
theorem checksumTest_seed {store : List (List UInt8)} {language : Language} {c : ℕ}
    (hindex : createChecksumIndex store language = .ok c) :
    checksumTest (store ++ [store.getD c []]) language = .ok true := by
  rw [checksumTest, List.getLast?_concat]
  simp [hindex, Except.map]

/-- The languages tried before `language` that each miss a prefix of the seed or fail its checksum
test are passed over, and `language` is taken. -/
theorem findSeedLanguageLoop_append {seed : List (List UInt8)} {language : Language}
    {matchedIndices : List ℕ} (hmatch : matchSeed language true seed = some matchedIndices)
    (htest : checksumTest seed language = .ok true) :
    ∀ (earlier : List Language) (fallback : Option Language) (later : List Language),
      (∀ other ∈ earlier, matchSeed other true seed = none ∨
        checksumTest seed other = .ok false) →
      findSeedLanguageLoop seed true fallback (earlier ++ language :: later) =
        .ok (some (language, matchedIndices))
  | [], _, _, _ => findSeedLanguageLoop_of_checksumTest hmatch htest
  | other :: earlier, fallback, later, h => by
    have hrest := fun f => findSeedLanguageLoop_append hmatch htest earlier f later
      (fun o ho => h o (List.mem_cons_of_mem other ho))
    rw [List.cons_append]
    cases hother : matchSeed other true seed with
    | none => rw [findSeedLanguageLoop_of_matchSeed_none hother, hrest]
    | some idx =>
      have hfail : checksumTest seed other = .ok false :=
        (h other List.mem_cons_self).resolve_left (by rw [hother]; simp)
      rw [findSeedLanguageLoop_of_checksumTest_false hother hfail, hrest]

/-- **The round trip.** A seed that `bytes_to_words` writes in a well-formed list is read back by
`words_to_bytes` as its key and its language, provided that each language `find_seed_language`
tries before that one misses a prefix of the seed or fails its checksum test. -/
theorem wordsToBytes_bytesToWords {src : List UInt8} {languageName : String} {words : List UInt8}
    {language : Language} {earlier later : List Language} (duplicate : Bool)
    (hwords : bytesToWords src languageName = .ok (some words))
    (hlanguage : findLanguage languageName = some language) (hwf : WellFormedWordList language)
    (horder : languageInstances = earlier ++ language :: later)
    (hearlier : ∀ other ∈ earlier, matchSeed other true (split words) = none ∨
      checksumTest (split words) other = .ok false) :
    wordsToBytes words src.length duplicate = .ok (some (src, language.languageName)) := by
  obtain ⟨hmod, hpos, c, hindex, rfl⟩ := bytesToWords_eq_ok hwords hlanguage
  rw [hwf.length_words] at hindex hearlier ⊢
  -- the indices of the groups, and the checksum index among them
  have hidxLt : ∀ i ∈ groupIndices nwords src, i < nwords := fun i hi => lt_of_mem_groupIndices hi
  have hlen : (groupIndices nwords src).length = 3 * (src.length / 4) :=
    length_groupIndices nwords src
  have hc : c < (groupIndices nwords src).length := by
    have hne : (groupIndices nwords src).map (language.words.getD · []) ≠ [] := by
      rw [← List.length_pos_iff, List.length_map, hlen]
      omega
    simpa using createChecksumIndex_lt hne hindex
  -- the seed is the words at the indices, then the word at the checksum index
  have hlast : ((groupIndices nwords src).map (language.words.getD · [])).getD c [] =
      language.words.getD ((groupIndices nwords src).getD c 0) [] := by
    simp only [List.getD_eq_getElem?_getD, List.getElem?_map, List.getElem?_eq_getElem hc,
      Option.map_some, Option.getD_some]
  have hlastLt : (groupIndices nwords src).getD c 0 < nwords := by
    rw [List.getD_eq_getElem?_getD, List.getElem?_eq_getElem hc, Option.getD_some]
    exact hidxLt _ (List.getElem_mem hc)
  have hseedWords : ∀ w ∈ (groupIndices nwords src).map (language.words.getD · []),
      w ≠ [] ∧ ∀ b ∈ w, isSpace b = false := by
    intro w hw
    obtain ⟨i, hi, rfl⟩ := List.mem_map.mp hw
    exact hwf.no_space_getD (hidxLt i hi)
  have hseed : split (((groupIndices nwords src).map (language.words.getD · [])).flatMap
        (· ++ [0x20]) ++ ((groupIndices nwords src).map (language.words.getD · [])).getD c []) =
      (groupIndices nwords src ++ [(groupIndices nwords src).getD c 0]).map
        (language.words.getD · []) := by
    rw [split_seed hseedWords (hlast ▸ (hwf.no_space_getD hlastLt).1)
      (hlast ▸ (hwf.no_space_getD hlastLt).2), hlast, List.map_append, List.map_singleton]
  -- each word finds its index, and the checksum word passes
  have hmatch := hwf.matchSeed_words (groupIndices nwords src ++ [(groupIndices nwords src).getD c 0])
    (by
      intro i hi
      rcases List.mem_append.mp hi with hi | hi
      · exact hidxLt i hi
      · rw [List.mem_singleton.mp hi]; exact hlastLt)
  have htest : checksumTest ((groupIndices nwords src ++ [(groupIndices nwords src).getD c 0]).map
      (language.words.getD · [])) language = .ok true := by
    rw [List.map_append, List.map_singleton, ← hlast]
    exact checksumTest_seed hindex
  have hfind : findSeedLanguage ((groupIndices nwords src ++
      [(groupIndices nwords src).getD c 0]).map (language.words.getD · [])) true =
        .ok (some (language, groupIndices nwords src ++ [(groupIndices nwords src).getD c 0])) := by
    rw [findSeedLanguage, horder]
    exact findSeedLanguageLoop_append hmatch htest earlier none later (hseed ▸ hearlier)
  -- the other words are the groups of the key
  have hdecode : decodeIndices language.wordList.length
      (((groupIndices nwords src ++ [(groupIndices nwords src).getD c 0]).map
        (language.words.getD · [])).dropLast.length / 3)
      (groupIndices nwords src ++ [(groupIndices nwords src).getD c 0]) = some src := by
    rw [hwf.length_eq, List.map_append, List.map_singleton, List.dropLast_concat, List.length_map,
      hlen, show 3 * (src.length / 4) / 3 = src.length / 4 by omega]
    exact decodeIndices_groupIndices src _ hmod
  apply wordsToBytes_of_checksumTest hseed hmod _ hfind htest hdecode
  · rw [List.map_append, List.map_singleton, List.dropLast_concat, List.length_map, hlen]
    omega
  · rw [List.length_map, List.length_append, hlen, List.length_singleton]
    omega

/-! ## A seed read in another language -/

/-- The Dutch key `0x551517c7` is written as `vermaak stil camcorder vermaak`. Chinese, tried
first, holds none of its one-character prefixes; English, tried next, holds `ver`, `sti` and
`cam`, and its checksum of them picks the first word again, whose prefix is the last word's. The
seed is read as English, as the key `0x549af354`. -/
theorem dutch_seed_read_as_english :
    bytesToWords [0xc7, 0x17, 0x15, 0x55] "Nederlands" =
        .ok (some (bytesOf "vermaak stil camcorder vermaak")) ∧
      ∀ duplicate, wordsToBytes (bytesOf "vermaak stil camcorder vermaak") 4 duplicate =
        .ok (some ([0x54, 0xf3, 0x9a, 0x54], "English")) := by
  constructor
  · -- the Dutch words, and the checksum word that the Dutch prefixes pick
    have hlanguage : findLanguage "Nederlands" = some dutch := by rfl
    have hstore : (groupIndices dutch.words.length [0xc7, 0x17, 0x15, 0x55]).map
        (dutch.words.getD · []) = [bytesOf "vermaak", bytesOf "stil", bytesOf "camcorder"] := by
      decide +kernel
    have hverm : dutch.trimmedWordMap (utf8Prefix (bytesOf "vermaak")
        dutch.uniquePrefixLength) = some (bytesOf "verm", 1441) := by decide +kernel
    have hstil : dutch.trimmedWordMap (utf8Prefix (bytesOf "stil")
        dutch.uniquePrefixLength) = some (bytesOf "stil", 1288) := by decide +kernel
    have hcamc : dutch.trimmedWordMap (utf8Prefix (bytesOf "camcorder")
        dutch.uniquePrefixLength) = some (bytesOf "camc", 201) := by decide +kernel
    have hindex : createChecksumIndex [bytesOf "vermaak", bytesOf "stil", bytesOf "camcorder"]
        dutch = .ok 0 := by
      rw [createChecksumIndex, trimmedWords_cons_of_trimmed hverm,
        trimmedWords_cons_of_trimmed hstil, trimmedWords_cons_of_trimmed hcamc, trimmedWords]
      decide +kernel
    simp only [bytesToWords, hlanguage, hstore, hindex]
    decide +kernel
  · intro duplicate
    have hseed : split (bytesOf "vermaak stil camcorder vermaak") =
        [bytesOf "vermaak", bytesOf "stil", bytesOf "camcorder", bytesOf "vermaak"] := by
      decide +kernel
    -- no Chinese word is `v`
    have hchinese : chineseSimplified.trimmedWordMap (utf8Prefix (bytesOf "vermaak")
        chineseSimplified.uniquePrefixLength) = none := by decide +kernel
    -- the English words `verification`, `stick` and `camp`
    have hver : english.trimmedWordMap (utf8Prefix (bytesOf "vermaak")
        english.uniquePrefixLength) = some (bytesOf "ver", 1516) := by decide +kernel
    have hsti : english.trimmedWordMap (utf8Prefix (bytesOf "stil")
        english.uniquePrefixLength) = some (bytesOf "sti", 1318) := by decide +kernel
    have hcam : english.trimmedWordMap (utf8Prefix (bytesOf "camcorder")
        english.uniquePrefixLength) = some (bytesOf "cam", 228) := by decide +kernel
    have henglish : matchSeed english true
        [bytesOf "vermaak", bytesOf "stil", bytesOf "camcorder", bytesOf "vermaak"] =
          some [1516, 1318, 228, 1516] := by
      rw [matchSeed_cons_of_trimmed hver, matchSeed_cons_of_trimmed hsti,
        matchSeed_cons_of_trimmed hcam, matchSeed_cons_of_trimmed hver, matchSeed]
      rfl
    -- the CRC-32 of `versticam` is 0 modulo 3: the checksum word is `vermaak`
    have hindex : createChecksumIndex [bytesOf "vermaak", bytesOf "stil", bytesOf "camcorder"]
        english = .ok 0 := by
      rw [createChecksumIndex, trimmedWords_cons_of_trimmed hver,
        trimmedWords_cons_of_trimmed hsti, trimmedWords_cons_of_trimmed hcam, trimmedWords]
      decide +kernel
    have htest : checksumTest
        [bytesOf "vermaak", bytesOf "stil", bytesOf "camcorder", bytesOf "vermaak"] english =
          .ok true := by
      rw [checksumTest, show [bytesOf "vermaak", bytesOf "stil", bytesOf "camcorder",
        bytesOf "vermaak"].dropLast = [bytesOf "vermaak", bytesOf "stil", bytesOf "camcorder"]
        from rfl, hindex]
      decide +kernel
    have hfind : findSeedLanguage
        [bytesOf "vermaak", bytesOf "stil", bytesOf "camcorder", bytesOf "vermaak"] true =
          .ok (some (english, [1516, 1318, 228, 1516])) := by
      rw [findSeedLanguage, languageInstances,
        findSeedLanguageLoop_of_matchSeed_none (matchSeed_cons_of_not_trimmed hchinese),
        findSeedLanguageLoop_of_checksumTest henglish htest]
    have hdecode : decodeIndices english.wordList.length 1 [1516, 1318, 228, 1516] =
        some [0x54, 0xf3, 0x9a, 0x54] := by decide +kernel
    exact wordsToBytes_of_checksumTest hseed (by decide) rfl hfind htest hdecode (by decide)

end Equilibria.ElectrumWords
