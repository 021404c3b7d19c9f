import Equilibria.BinaryArchive
import Equilibria.IntUtil
import Equilibria.CryptonoteBasic

/-!
# Base58

`tools::base58` of `common/base58.cpp`: the block codec that writes every 8 bytes as 11 symbols
of a 58-letter alphabet, and a shorter last block as fewer symbols, by the table
`encoded_block_sizes`; and the address codec, which puts a varint tag in front of the data and
the first 4 bytes of its `cn_fast_hash` behind it.

Both sides of the codec are byte strings, as the source's `std::string`s are. The lookup tables
`reverse_alphabet` and `decoded_block_sizes`, which the source builds at start-up, are the index
of a letter in `alphabet` and of a size in `encoded_block_sizes`, with `none` for the `-1` of an
absent entry. The number a block encodes fits 64 bits, so `encode_block` works on a natural
number; `decode_block` keeps its `uint64_t` arithmetic and the 128-bit product of its overflow
test.
-/

namespace Equilibria.Base58

open CryptonoteBasic IntUtil BinaryArchive

/-- `alphabet`. -/
def alphabet : List UInt8 :=
  "123456789ABCDEFGHJKLMNPQRSTUVWXYZabcdefghijkmnopqrstuvwxyz".toList.map fun c => c.toNat.toUInt8

/-- `alphabet_size`. -/
def alphabetSize : ℕ := 58

/-- `encoded_block_sizes`: the symbols that encode a block of 0 to 8 bytes. -/
def encodedBlockSizes : List ℕ := [0, 2, 3, 5, 6, 7, 9, 10, 11]

/-- `full_block_size`. -/
def fullBlockSize : ℕ := 8

/-- `full_encoded_block_size`. -/
def fullEncodedBlockSize : ℕ := 11

/-- `addr_checksum_size`. -/
def addrChecksumSize : ℕ := 4

/-- `reverse_alphabet`: the digit a symbol stands for. -/
def reverseAlphabet (letter : UInt8) : Option ℕ := alphabet.idxOf? letter

/-- `decoded_block_sizes`: the bytes a block of `encodedBlockSize` symbols decodes to. -/
def decodedBlockSizes (encodedBlockSize : ℕ) : Option ℕ :=
  encodedBlockSizes.idxOf? encodedBlockSize

/-- `uint_8be_to_64`: the bytes of a block read as a big-endian number. -/
def uint8beTo64 (data : List UInt8) : ℕ :=
  data.foldl (fun num b => 256 * num + b.toNat) 0

/-- `uint_64_to_8be`: the low `size` bytes of `num`, big-endian. -/
def uint64To8be (num : ℕ) : ℕ → List UInt8
  | 0 => []
  | size + 1 => uint64To8be (num / 256) size ++ [UInt8.ofNat num]

/-- The loop of `encode_block` at position `i`: while `num` is positive, its last base-58 digit
goes to position `i` and `i` moves left. Past the first position the loop stops: the source
would write before the block there, which it never does, since a block's number has no more
digits than the block has symbols. -/
def encodeBlockLoop (num : ℕ) : ℕ → List UInt8 → List UInt8
  | i, res =>
    if 0 < num then
      let res := res.set i (alphabet.getD (num % alphabetSize) 0)
      match i with
      | 0 => res
      | i + 1 => encodeBlockLoop (num / alphabetSize) i res
    else res

/-- `encode_block`, on a block that `encode` has filled with `alphabet[0]`. -/
def encodeBlock (block : List UInt8) : List UInt8 :=
  let encodedSize := encodedBlockSizes.getD block.length 0
  encodeBlockLoop (uint8beTo64 block) (encodedSize - 1)
    (List.replicate encodedSize (alphabet.getD 0 0))

/-- The loop of `decode_block` over the symbols from the last: the value so far and the place
value of the next digit. A digit is added only if its 128-bit product with its place value and
the sum do not leave 64 bits. -/
def decodeBlockLoop : List UInt8 → UInt64 → UInt64 → Option UInt64
  | [], resNum, _ => some resNum
  | letter :: block, resNum, order => do
    let digit ← reverseAlphabet letter
    let (productLo, productHi) := mul128 order (UInt64.ofNat digit)
    let tmp := resNum + productLo
    if tmp < resNum || productHi != 0 then none
    -- the place value wraps only after the eleventh, last, symbol of a block
    decodeBlockLoop block tmp (order * UInt64.ofNat alphabetSize)

/-- `decode_block`. -/
def decodeBlock (block : List UInt8) : Option (List UInt8) := do
  let resSize ← decodedBlockSizes block.length
  if resSize = 0 then none
  let resNum ← decodeBlockLoop block.reverse 0 1
  if resSize < fullBlockSize ∧ (1 : UInt64) <<< (8 * resSize).toUInt64 ≤ resNum then none
  pure (uint64To8be resNum.toNat resSize)

/-- The first loop of `encode`: `count` full blocks from the start of `data`. -/
def encodeFullBlocks : ℕ → List UInt8 → List UInt8
  | 0, _ => []
  | count + 1, data =>
    encodeBlock (data.take fullBlockSize) ++ encodeFullBlocks count (data.drop fullBlockSize)

/-- `encode`. -/
def encode (data : List UInt8) : List UInt8 :=
  if data.isEmpty then []
  else
    let fullBlockCount := data.length / fullBlockSize
    let lastBlockSize := data.length % fullBlockSize
    encodeFullBlocks fullBlockCount data ++
      if 0 < lastBlockSize then encodeBlock (data.drop (fullBlockCount * fullBlockSize))
      else []

/-- The first loop of `decode`: `count` full blocks from the start of `enc`. -/
def decodeFullBlocks : ℕ → List UInt8 → Option (List UInt8)
  | 0, _ => some []
  | count + 1, enc => do
    let block ← decodeBlock (enc.take fullEncodedBlockSize)
    let rest ← decodeFullBlocks count (enc.drop fullEncodedBlockSize)
    pure (block ++ rest)

/-- `decode`. -/
def decode (enc : List UInt8) : Option (List UInt8) :=
  if enc.isEmpty then some []
  else do
    let fullBlockCount := enc.length / fullEncodedBlockSize
    let lastBlockSize := enc.length % fullEncodedBlockSize
    let _ ← decodedBlockSizes lastBlockSize
    let data ← decodeFullBlocks fullBlockCount enc
    if 0 < lastBlockSize then
      let last ← decodeBlock (enc.drop (fullBlockCount * fullEncodedBlockSize))
      pure (data ++ last)
    else pure data

/-- The first `n` bytes of a hash as it lies in memory. -/
def hashPrefix (hash : Hash) (n : ℕ) : List UInt8 :=
  (List.range n).map fun i => UInt8.ofNat (hash.data.toNat / 256 ^ i)

/-- `encode_addr`, with `crypto::cn_fast_hash` as the parameter `cnFastHash`. -/
def encodeAddr (cnFastHash : List UInt8 → Hash) (tag : UInt64) (data : List UInt8) :
    List UInt8 :=
  let buf := writeVarint tag.toNat ++ data
  let hash := cnFastHash buf
  encode (buf ++ hashPrefix hash addrChecksumSize)

/-- `decode_addr`: the tag and the data of an address. -/
def decodeAddr (cnFastHash : List UInt8 → Hash) (addr : List UInt8) :
    Option (UInt64 × List UInt8) := do
  let addrData ← decode addr
  if addrData.length ≤ addrChecksumSize then none
  let checksum := addrData.drop (addrData.length - addrChecksumSize)
  let addrData := addrData.take (addrData.length - addrChecksumSize)
  let hash := cnFastHash addrData
  let expectedChecksum := hashPrefix hash addrChecksumSize
  if expectedChecksum ≠ checksum then none
  let (read, tag, _) := readVarint 64 addrData
  if read ≤ 0 then none
  pure (UInt64.ofNat tag, addrData.drop read.toNat)

/-! ## The alphabet and the block sizes -/

theorem alphabet_length : alphabet.length = alphabetSize := by decide

/-- Every digit's symbol reads back as that digit. -/
theorem reverseAlphabet_getD : ∀ d < alphabetSize, reverseAlphabet (alphabet.getD d 0) = some d := by
  decide

/-- A symbol that reads as a digit is that digit's symbol. -/
theorem reverseAlphabet_eq_some {letter : UInt8} {d : ℕ} (h : reverseAlphabet letter = some d) :
    d < alphabetSize ∧ alphabet.getD d 0 = letter := by
  obtain ⟨hlt, hget, -⟩ := List.idxOf?_eq_some_iff.mp h
  exact ⟨alphabet_length ▸ hlt, by
    rw [List.getD_eq_getElem?_getD, List.getElem?_eq_getElem hlt, Option.getD_some, hget]⟩

/-- A block of 1 to 8 bytes is encoded by a symbol count that decodes back to its size, at most
a full block's, whose numbers cover every number of its bytes. -/
theorem encodedBlockSizes_spec : ∀ size < fullBlockSize + 1, 0 < size →
    decodedBlockSizes (encodedBlockSizes.getD size 0) = some size ∧
      encodedBlockSizes.getD size 0 ≤ fullEncodedBlockSize ∧
      256 ^ size ≤ alphabetSize ^ encodedBlockSizes.getD size 0 := by
  decide

/-- A symbol count that decodes names the byte count it encodes. -/
theorem decodedBlockSizes_eq_some {n size : ℕ} (h : decodedBlockSizes n = some size) :
    size < fullBlockSize + 1 ∧ encodedBlockSizes.getD size 0 = n := by
  obtain ⟨hlt, hget, -⟩ := List.idxOf?_eq_some_iff.mp h
  exact ⟨hlt, by
    rw [List.getD_eq_getElem?_getD, List.getElem?_eq_getElem hlt, Option.getD_some, hget]⟩

/-- Only a full block takes a full block's symbols. -/
theorem lt_fullBlockSize_of_encoded : ∀ size < fullBlockSize + 1,
    encodedBlockSizes.getD size 0 < fullEncodedBlockSize → size < fullBlockSize := by
  decide

/-! ## Bytes and numbers -/

theorem uint8beTo64_append (data : List UInt8) (b : UInt8) :
    uint8beTo64 (data ++ [b]) = 256 * uint8beTo64 data + b.toNat := by
  simp [uint8beTo64, List.foldl_append]

theorem uint8beTo64_lt (data : List UInt8) : uint8beTo64 data < 256 ^ data.length := by
  induction data using List.reverseRecOn with
  | nil => simp [uint8beTo64]
  | append_singleton data b ih =>
    rw [uint8beTo64_append, List.length_append, List.length_singleton, pow_succ]
    have := b.toNat_lt
    omega

@[simp]
theorem length_uint64To8be (num size : ℕ) : (uint64To8be num size).length = size := by
  induction size generalizing num with
  | zero => rfl
  | succ size ih => simp [uint64To8be, ih]

/-- Reading back the low bytes of a number gives the number modulo their range. -/
theorem uint8beTo64_uint64To8be (num size : ℕ) :
    uint8beTo64 (uint64To8be num size) = num % 256 ^ size := by
  induction size generalizing num with
  | zero => simp [uint64To8be, uint8beTo64, Nat.mod_one]
  | succ size ih =>
    rw [uint64To8be, uint8beTo64_append, ih, UInt8.toNat_ofNat', show (2 : ℕ) ^ 8 = 256 from rfl,
      pow_succ', Nat.mod_mul (a := 256)]
    omega

/-- Writing the number a block reads as gives the block back. -/
theorem uint64To8be_uint8beTo64 (data : List UInt8) :
    uint64To8be (uint8beTo64 data) data.length = data := by
  induction data using List.reverseRecOn with
  | nil => rfl
  | append_singleton data b ih =>
    have hb := b.toNat_lt
    have hdiv : (256 * uint8beTo64 data + b.toNat) / 256 = uint8beTo64 data := by omega
    have hbyte : UInt8.ofNat (256 * uint8beTo64 data + b.toNat) = b := by
      apply UInt8.toNat_inj.mp
      rw [UInt8.toNat_ofNat']
      omega
    rw [uint8beTo64_append, List.length_append, List.length_singleton, uint64To8be, hdiv, ih,
      hbyte]

/-! ## The symbols of a block

`base58Digits num width` is what a block holding `num` should read: its base-58 digits, most
significant first, padded to `width` with the symbol of 0. The encoder writes exactly that, and
the decoder accepts a block exactly when it is that for a number below `2^64`. -/

/-- The `width` base-58 symbols of `num`, most significant first. -/
def base58Digits (num : ℕ) : ℕ → List UInt8
  | 0 => []
  | width + 1 => base58Digits (num / alphabetSize) width ++ [alphabet.getD (num % alphabetSize) 0]

@[simp]
theorem length_base58Digits (num width : ℕ) : (base58Digits num width).length = width := by
  induction width generalizing num with
  | zero => rfl
  | succ width ih => simp [base58Digits, ih]

theorem base58Digits_zero (width : ℕ) :
    base58Digits 0 width = List.replicate width (alphabet.getD 0 0) := by
  induction width with
  | zero => rfl
  | succ width ih => rw [base58Digits, Nat.zero_div, Nat.zero_mod, ih, List.replicate_succ']

theorem set_replicate_append {a x : UInt8} (i : ℕ) (suffix : List UInt8) :
    (List.replicate (i + 1) a ++ suffix).set i x = List.replicate i a ++ x :: suffix := by
  induction i with
  | zero => rfl
  | succ i ih =>
    rw [List.replicate_succ, List.cons_append, List.set_cons_succ, ih, List.replicate_succ,
      List.cons_append]

/-- `encode_block`'s loop, started at the last position of a block of `alphabet[0]`, writes the
symbols of any number the block has room for. -/
theorem encodeBlockLoop_eq : ∀ (i num : ℕ) (suffix : List UInt8),
    num < alphabetSize ^ (i + 1) →
      encodeBlockLoop num i (List.replicate (i + 1) (alphabet.getD 0 0) ++ suffix) =
        base58Digits num (i + 1) ++ suffix
  | i, 0, suffix, _ => by
    rw [encodeBlockLoop, if_neg (Nat.lt_irrefl 0), base58Digits_zero]
  | 0, num + 1, suffix, _ => by
    rw [encodeBlockLoop, if_pos (Nat.succ_pos num), set_replicate_append]
    rfl
  | i + 1, num + 1, suffix, hnum => by
    rw [encodeBlockLoop, if_pos (Nat.succ_pos num), set_replicate_append]
    dsimp only
    -- the rest of the number has one symbol less to fill
    have hrest : (num + 1) / alphabetSize < alphabetSize ^ (i + 1) := by
      rw [Nat.div_lt_iff_lt_mul (by decide), ← pow_succ]
      exact hnum
    rw [encodeBlockLoop_eq i _ _ hrest]
    conv_rhs => rw [base58Digits]
    rw [List.append_assoc]
    rfl

/-- `encode_block` writes the symbols of the number its bytes read as. -/
theorem encodeBlock_eq {block : List UInt8} (hpos : 0 < block.length)
    (hfull : block.length ≤ fullBlockSize) :
    encodeBlock block =
      base58Digits (uint8beTo64 block) (encodedBlockSizes.getD block.length 0) := by
  obtain ⟨-, -, hroom⟩ := encodedBlockSizes_spec block.length (by omega) hpos
  have hwidth : 0 < encodedBlockSizes.getD block.length 0 :=
    Nat.pos_of_ne_zero fun h => by
      rw [h, pow_zero] at hroom
      exact absurd hroom (Nat.not_le.mpr (Nat.one_lt_pow (by omega) (by decide)))
  have hlt := lt_of_lt_of_le (uint8beTo64_lt block) hroom
  obtain ⟨w, hw⟩ : ∃ w, encodedBlockSizes.getD block.length 0 = w + 1 :=
    ⟨_, (Nat.succ_pred_eq_of_pos hwidth).symm⟩
  rw [hw] at hlt ⊢
  have h := encodeBlockLoop_eq w (uint8beTo64 block) [] hlt
  rw [List.append_nil, List.append_nil] at h
  simpa only [encodeBlock, hw, Nat.add_sub_cancel] using h

/-- The carry test of `decode_block`, for the 128-bit product `p` of a place value and a
digit: it passes exactly when the sum stays below `2^64`. -/
theorem carryTest_eq_false {resNum productLo productHi : UInt64} {p : ℕ}
    (hp : productHi.toNat * 2 ^ 64 + productLo.toNat = p) :
    (resNum + productLo < resNum || productHi != 0) = false ↔ resNum.toNat + p < 2 ^ 64 := by
  have hlo := productLo.toNat_lt
  have hres := resNum.toNat_lt
  simp only [Bool.or_eq_false_iff, decide_eq_false_iff_not, UInt64.lt_iff_toNat_lt,
    UInt64.toNat_add, bne_eq_false_iff_eq, ← UInt64.toNat_inj, UInt64.toNat_zero]
  omega

theorem add_toNat_of_carryTest {resNum productLo productHi : UInt64} {p : ℕ}
    (hp : productHi.toNat * 2 ^ 64 + productLo.toNat = p) (hsum : resNum.toNat + p < 2 ^ 64) :
    (resNum + productLo).toNat = resNum.toNat + p := by
  rw [UInt64.toNat_add]
  omega

/-- The place value of `decode_block`'s loop is `58^k` modulo `2^64`. -/
theorem order_succ (k : ℕ) :
    UInt64.ofNat (alphabetSize ^ k) * UInt64.ofNat alphabetSize =
      UInt64.ofNat (alphabetSize ^ (k + 1)) := by
  rw [← UInt64.ofNat_mul, pow_succ]

/-- `decode_block`'s loop reads the symbols of a number, last first, as that number times the
place value of the first, when the sum stays below `2^64`. -/
theorem decodeBlockLoop_base58Digits : ∀ (width num : ℕ) (resNum : UInt64) (k : ℕ),
    k + width ≤ fullEncodedBlockSize → num < alphabetSize ^ width →
    resNum.toNat + alphabetSize ^ k * num < 2 ^ 64 →
      decodeBlockLoop (base58Digits num width).reverse resNum (UInt64.ofNat (alphabetSize ^ k)) =
        some (UInt64.ofNat (resNum.toNat + alphabetSize ^ k * num))
  | 0, num, resNum, k, _, hnum, _ => by
    have hzero : num = 0 := by simpa using hnum
    subst hzero
    simp [base58Digits, decodeBlockLoop]
  | width + 1, num, resNum, k, hk, hnum, hsum => by
    have hdigit := Nat.mod_lt num (show 0 < alphabetSize by decide)
    have hsplit : num = num % alphabetSize + alphabetSize * (num / alphabetSize) :=
      (Nat.mod_add_div num alphabetSize).symm
    -- the place value is exact: at most 58^10
    have horder : (UInt64.ofNat (alphabetSize ^ k)).toNat = alphabetSize ^ k := by
      rw [UInt64.toNat_ofNat']
      exact Nat.mod_eq_of_lt (lt_of_le_of_lt (Nat.pow_le_pow_right (by decide)
        (show k ≤ 10 by simp only [fullEncodedBlockSize] at hk; omega)) (by decide))
    have hterm : alphabetSize ^ k * (num % alphabetSize) ≤ alphabetSize ^ k * num :=
      Nat.mul_le_mul_left _ (Nat.mod_le _ _)
    simp only [base58Digits, List.reverse_append, List.reverse_singleton, List.singleton_append,
      decodeBlockLoop, reverseAlphabet_getD _ hdigit, Option.bind_eq_bind, Option.bind_some]
    generalize hprod : mul128 (UInt64.ofNat (alphabetSize ^ k))
      (UInt64.ofNat (num % alphabetSize)) = product
    obtain ⟨productLo, productHi⟩ := product
    have hp := mul128_correct (UInt64.ofNat (alphabetSize ^ k)) (UInt64.ofNat (num % alphabetSize))
    rw [hprod, horder, UInt64.toNat_ofNat', Nat.mod_eq_of_lt (lt_trans hdigit (by decide))] at hp
    dsimp only at hp ⊢
    have hok : resNum.toNat + alphabetSize ^ k * (num % alphabetSize) < 2 ^ 64 := by omega
    rw [(carryTest_eq_false hp).mpr hok]
    simp only [Bool.false_eq_true, if_false, order_succ]
    -- the rest of the symbols are those of the number's higher digits
    have hrest : num / alphabetSize < alphabetSize ^ width := by
      rw [Nat.div_lt_iff_lt_mul (by decide), ← pow_succ]
      exact hnum
    have hval : (resNum + productLo).toNat + alphabetSize ^ (k + 1) * (num / alphabetSize) =
        resNum.toNat + alphabetSize ^ k * num := by
      rw [add_toNat_of_carryTest hp hok, pow_succ]
      conv_rhs => rw [hsplit]
      ring
    rw [decodeBlockLoop_base58Digits width _ _ (k + 1) (by omega) hrest (by omega), hval]

/-- What `decode_block`'s loop accepts are the symbols of a number, last first, whose value
times the first place value, added to the value so far, stays below `2^64`. -/
theorem decodeBlockLoop_eq_some : ∀ (letters : List UInt8) (resNum r : UInt64) (k : ℕ),
    k + letters.length ≤ fullEncodedBlockSize →
    decodeBlockLoop letters resNum (UInt64.ofNat (alphabetSize ^ k)) = some r →
      ∃ num, num < alphabetSize ^ letters.length ∧
        letters = (base58Digits num letters.length).reverse ∧
        r.toNat = resNum.toNat + alphabetSize ^ k * num
  | [], resNum, r, k, _, h => by
    simp only [decodeBlockLoop, Option.some.injEq] at h
    subst h
    exact ⟨0, by simp, rfl, by simp⟩
  | letter :: letters, resNum, r, k, hk, h => by
    simp only [decodeBlockLoop, Option.bind_eq_bind, Option.bind_eq_some_iff] at h
    obtain ⟨digit, hdigit, h⟩ := h
    obtain ⟨hlt, rfl⟩ := reverseAlphabet_eq_some hdigit
    have horder : (UInt64.ofNat (alphabetSize ^ k)).toNat = alphabetSize ^ k := by
      rw [UInt64.toNat_ofNat']
      exact Nat.mod_eq_of_lt (lt_of_le_of_lt (Nat.pow_le_pow_right (by decide)
        (show k ≤ 10 by simp only [fullEncodedBlockSize, List.length_cons] at hk; omega))
        (by decide))
    generalize hprod : mul128 (UInt64.ofNat (alphabetSize ^ k)) (UInt64.ofNat digit) = product
      at h
    obtain ⟨productLo, productHi⟩ := product
    have hp := mul128_correct (UInt64.ofNat (alphabetSize ^ k)) (UInt64.ofNat digit)
    rw [hprod, horder, UInt64.toNat_ofNat', Nat.mod_eq_of_lt (lt_trans hlt (by decide))] at hp
    dsimp only at hp h
    -- the test passed, so the sum is exact
    cases htest : (resNum + productLo < resNum || productHi != 0)
    · rw [htest] at h
      simp only [Bool.false_eq_true, if_false, order_succ] at h
      have hok := (carryTest_eq_false hp).mp htest
      obtain ⟨num, hnum, hletters, hr⟩ := decodeBlockLoop_eq_some letters _ r (k + 1)
        (by simp only [List.length_cons] at hk; omega) h
      refine ⟨digit + alphabetSize * num, ?_, ?_, ?_⟩
      · rw [List.length_cons, pow_succ]
        have : alphabetSize * num + alphabetSize ≤ alphabetSize * alphabetSize ^ letters.length :=
          by rw [← Nat.mul_succ]; exact Nat.mul_le_mul_left _ hnum
        rw [Nat.mul_comm (alphabetSize ^ letters.length)]
        omega
      · have hmod : (digit + alphabetSize * num) % alphabetSize = digit := by
          rw [Nat.add_mul_mod_self_left, Nat.mod_eq_of_lt hlt]
        have hdiv : (digit + alphabetSize * num) / alphabetSize = num := by
          rw [Nat.add_mul_div_left _ _ (by decide), Nat.div_eq_of_lt hlt, Nat.zero_add]
        rw [List.length_cons, base58Digits, hmod, hdiv, List.reverse_append,
          List.reverse_singleton, List.singleton_append, ← hletters]
      · rw [hr, add_toNat_of_carryTest hp hok, pow_succ]
        ring
    · rw [htest] at h
      simp at h

/-- The last check of `decode_block` rejects exactly the numbers that do not fit the block's
bytes. -/
theorem decodeBlock_check_iff {resSize : ℕ} {resNum : UInt64} (hsize : resSize < fullBlockSize + 1) :
    (resSize < fullBlockSize ∧ (1 : UInt64) <<< (8 * resSize).toUInt64 ≤ resNum) ↔
      256 ^ resSize ≤ resNum.toNat := by
  have hshift : ∀ s < fullBlockSize,
      ((1 : UInt64) <<< (8 * s).toUInt64).toNat = 256 ^ s := by decide
  rcases Nat.lt_or_ge resSize fullBlockSize with hlt | hge
  · rw [UInt64.le_iff_toNat_le, hshift resSize hlt]
    exact ⟨fun h => h.2, fun h => ⟨hlt, h⟩⟩
  · have height : resSize = 8 := by simp only [fullBlockSize] at hsize hge; omega
    subst height
    have := resNum.toNat_lt
    exact ⟨fun h => absurd h.1 (Nat.lt_irrefl _), fun h => absurd h (by omega)⟩

theorem length_encodeBlockLoop (i : ℕ) : ∀ (num : ℕ) (res : List UInt8),
    (encodeBlockLoop num i res).length = res.length := by
  induction i with
  | zero =>
    intro num res
    rw [encodeBlockLoop]
    split <;> simp
  | succ i ih =>
    intro num res
    rw [encodeBlockLoop]
    split
    · simp [ih]
    · rfl

@[simp]
theorem length_encodeBlock (block : List UInt8) :
    (encodeBlock block).length = encodedBlockSizes.getD block.length 0 := by
  simp [encodeBlock, length_encodeBlockLoop]

/-- `decode_block` reads back every block of 1 to 8 bytes that `encode_block` writes. -/
theorem decodeBlock_encodeBlock {block : List UInt8} (hpos : 0 < block.length)
    (hfull : block.length ≤ fullBlockSize) : decodeBlock (encodeBlock block) = some block := by
  obtain ⟨hdec, hwidth, hroom⟩ := encodedBlockSizes_spec block.length (by omega) hpos
  have hv := uint8beTo64_lt block
  have hv64 : uint8beTo64 block < 2 ^ 64 :=
    lt_of_lt_of_le hv (by
      calc 256 ^ block.length ≤ 256 ^ 8 := Nat.pow_le_pow_right (by decide) hfull
        _ = 2 ^ 64 := by norm_num)
  have hloop := decodeBlockLoop_base58Digits _ _ 0 0 (by omega) (lt_of_lt_of_le hv hroom)
    (by simpa using hv64)
  simp only [UInt64.toNat_zero, pow_zero, Nat.one_mul, Nat.zero_add] at hloop
  rw [show UInt64.ofNat 1 = 1 from rfl] at hloop
  have hnum : (UInt64.ofNat (uint8beTo64 block)).toNat = uint8beTo64 block := by
    rw [UInt64.toNat_ofNat']
    exact Nat.mod_eq_of_lt hv64
  have hfits : ¬ (block.length < fullBlockSize ∧
      (1 : UInt64) <<< (8 * block.length).toUInt64 ≤ UInt64.ofNat (uint8beTo64 block)) := by
    rw [decodeBlock_check_iff (by omega), hnum]
    exact Nat.not_le.mpr hv
  rw [encodeBlock_eq hpos hfull]
  simp only [decodeBlock, length_base58Digits, hdec, Option.bind_eq_bind, Option.bind_some,
    Nat.pos_iff_ne_zero.mp hpos, if_false, hloop, hfits, hnum, uint64To8be_uint8beTo64]
  rfl

/-- What `decode_block` accepts is what `encode_block` writes for the bytes it returns, and the
block's symbol count decodes to their number. -/
theorem encodeBlock_decodeBlock {block data : List UInt8} (h : decodeBlock block = some data) :
    0 < data.length ∧ decodedBlockSizes block.length = some data.length ∧
      encodeBlock data = block := by
  simp only [decodeBlock, Option.bind_eq_bind, Option.bind_eq_some_iff] at h
  obtain ⟨size, hsize, h⟩ := h
  obtain ⟨hsize9, hwidth⟩ := decodedBlockSizes_eq_some hsize
  by_cases hzero : size = 0
  · simp [hzero] at h
  simp only [hzero, if_false, Option.bind_eq_some_iff] at h
  obtain ⟨resNum, hloop, h⟩ := h
  rw [show (1 : UInt64) = UInt64.ofNat (alphabetSize ^ 0) from rfl] at hloop
  by_cases hcheck : size < fullBlockSize ∧ (1 : UInt64) <<< (8 * size).toUInt64 ≤ resNum
  · rw [if_pos hcheck] at h
    simp at h
  rw [if_neg hcheck, Option.pure_def, Option.some.injEq] at h
  subst h
  rw [decodeBlock_check_iff hsize9, Nat.not_le] at hcheck
  -- the symbols are those of the number the loop read
  have hlen : block.length ≤ fullEncodedBlockSize := by
    rw [← hwidth]
    exact (encodedBlockSizes_spec size hsize9 (Nat.pos_of_ne_zero hzero)).2.1
  obtain ⟨num, -, hsymbols, hvalue⟩ :=
    decodeBlockLoop_eq_some block.reverse 0 resNum 0 (by simpa using hlen) hloop
  simp only [UInt64.toNat_zero, pow_zero, Nat.one_mul, Nat.zero_add, List.length_reverse]
    at hsymbols hvalue
  refine ⟨by simpa using Nat.pos_of_ne_zero hzero, by rw [length_uint64To8be]; exact hsize, ?_⟩
  have hpos : 0 < (uint64To8be resNum.toNat size).length := by
    simpa using Nat.pos_of_ne_zero hzero
  rw [encodeBlock_eq hpos (by simpa [fullBlockSize] using Nat.lt_succ_iff.mp hsize9),
    uint8beTo64_uint64To8be, Nat.mod_eq_of_lt hcheck, length_uint64To8be, hwidth, hvalue]
  exact List.reverse_injective hsymbols.symm

/-! ## The codec -/

theorem length_encodeFullBlocks : ∀ (count : ℕ) (data : List UInt8),
    count * fullBlockSize ≤ data.length →
      (encodeFullBlocks count data).length = count * fullEncodedBlockSize
  | 0, _, _ => rfl
  | count + 1, data, hlen => by
    have htake : (data.take fullBlockSize).length = fullBlockSize := by
      simp only [List.length_take]
      simp only [fullBlockSize] at hlen ⊢
      omega
    rw [encodeFullBlocks, List.length_append, length_encodeBlock, htake,
      length_encodeFullBlocks count _ (by simp only [List.length_drop, fullBlockSize] at hlen ⊢; omega),
      show encodedBlockSizes.getD fullBlockSize 0 = fullEncodedBlockSize from rfl, Nat.succ_mul,
      Nat.add_comm]

/-- `decode` reads back the full blocks `encode` writes, whatever follows them. -/
theorem decodeFullBlocks_encodeFullBlocks : ∀ (count : ℕ) (data tail : List UInt8),
    count * fullBlockSize ≤ data.length →
      decodeFullBlocks count (encodeFullBlocks count data ++ tail) =
        some (data.take (count * fullBlockSize))
  | 0, _, _, _ => rfl
  | count + 1, data, tail, hlen => by
    have htake : (data.take fullBlockSize).length = fullBlockSize := by
      simp only [List.length_take]
      simp only [fullBlockSize] at hlen ⊢
      omega
    have hblock : (encodeBlock (data.take fullBlockSize)).length = fullEncodedBlockSize := by
      rw [length_encodeBlock, htake]
      rfl
    rw [encodeFullBlocks, List.append_assoc, decodeFullBlocks, List.take_left' hblock,
      List.drop_left' hblock, decodeBlock_encodeBlock (by rw [htake]; decide) htake.le,
      decodeFullBlocks_encodeFullBlocks count _ _
        (by simp only [List.length_drop, fullBlockSize] at hlen ⊢; omega)]
    simp only [Option.bind_eq_bind, Option.bind_some, Option.pure_def, Nat.succ_mul,
      Nat.add_comm (count * fullBlockSize), List.take_add]

/-- What `decode` reads as full blocks, `encode` writes back as them. -/
theorem encodeFullBlocks_decodeFullBlocks : ∀ (count : ℕ) (enc full : List UInt8),
    count * fullEncodedBlockSize ≤ enc.length → decodeFullBlocks count enc = some full →
      full.length = count * fullBlockSize ∧
        ∀ tail, encodeFullBlocks count (full ++ tail) = enc.take (count * fullEncodedBlockSize)
  | 0, _, full, _, h => by
    simp only [decodeFullBlocks, Option.some.injEq] at h
    subst h
    exact ⟨rfl, fun _ => rfl⟩
  | count + 1, enc, full, hlen, h => by
    simp only [decodeFullBlocks, Option.bind_eq_bind, Option.bind_eq_some_iff, Option.pure_def,
      Option.some.injEq] at h
    obtain ⟨block, hblock, rest, hrest, rfl⟩ := h
    obtain ⟨-, hsize, hencode⟩ := encodeBlock_decodeBlock hblock
    -- a full block of symbols decodes to a full block of bytes
    have htake : (enc.take fullEncodedBlockSize).length = fullEncodedBlockSize := by
      simp only [List.length_take]
      simp only [fullEncodedBlockSize] at hlen ⊢
      omega
    rw [htake, show decodedBlockSizes fullEncodedBlockSize = some fullBlockSize from rfl,
      Option.some.injEq] at hsize
    obtain ⟨hlength, hrest'⟩ := encodeFullBlocks_decodeFullBlocks count _ rest
      (by simp only [List.length_drop, fullEncodedBlockSize] at hlen ⊢; omega) hrest
    refine ⟨by rw [List.length_append, ← hsize, hlength, Nat.succ_mul, Nat.add_comm], fun tail => ?_⟩
    rw [encodeFullBlocks, List.append_assoc, List.take_left' hsize.symm,
      List.drop_left' hsize.symm, hencode, hrest', Nat.succ_mul,
      Nat.add_comm (count * fullEncodedBlockSize), List.take_add]

/-- A last block of fewer than 8 bytes, none included: its symbol count is below a full
block's, decodes back to its size, and is zero only for no bytes. -/
theorem lastBlock_spec : ∀ size < fullBlockSize,
    decodedBlockSizes (encodedBlockSizes.getD size 0) = some size ∧
      encodedBlockSizes.getD size 0 < fullEncodedBlockSize ∧
      (0 < size ↔ 0 < encodedBlockSizes.getD size 0) := by
  decide

theorem decode_of_ne_nil {enc : List UInt8} (h : enc ≠ []) :
    decode enc = (decodedBlockSizes (enc.length % fullEncodedBlockSize)).bind fun _ =>
      (decodeFullBlocks (enc.length / fullEncodedBlockSize) enc).bind fun data =>
        if 0 < enc.length % fullEncodedBlockSize then
          (decodeBlock (enc.drop (enc.length / fullEncodedBlockSize * fullEncodedBlockSize))).bind
            fun last => some (data ++ last)
        else some data := by
  simp only [decode, List.isEmpty_iff, h, if_false]
  rfl

theorem encode_of_ne_nil {data : List UInt8} (h : data ≠ []) :
    encode data = encodeFullBlocks (data.length / fullBlockSize) data ++
      if 0 < data.length % fullBlockSize then
        encodeBlock (data.drop (data.length / fullBlockSize * fullBlockSize))
      else [] := by
  simp only [encode, List.isEmpty_iff, h, if_false]

/-- `decode` reads back everything `encode` writes. -/
theorem decode_encode (data : List UInt8) : decode (encode data) = some data := by
  by_cases hempty : data = []
  · subst hempty
    rfl
  -- `count` full blocks, then a last block of `lastBlockSize` bytes, possibly none
  have hlen := Nat.div_add_mod data.length fullBlockSize
  have hlastLt := Nat.mod_lt data.length (show 0 < fullBlockSize by decide)
  rw [encode_of_ne_nil hempty]
  set count := data.length / fullBlockSize
  set lastBlockSize := data.length % fullBlockSize
  obtain ⟨hdecLast, hwidthLt, hwidthPos⟩ := lastBlock_spec lastBlockSize hlastLt
  have hcount : count * fullBlockSize ≤ data.length := by
    rw [← hlen, Nat.mul_comm]
    exact Nat.le_add_right _ _
  have hdropLen : (data.drop (count * fullBlockSize)).length = lastBlockSize := by
    rw [List.length_drop, ← hlen, Nat.mul_comm, Nat.add_sub_cancel_left]
  set last := if 0 < lastBlockSize then encodeBlock (data.drop (count * fullBlockSize)) else []
    with hlast
  have hlastLen : last.length = encodedBlockSizes.getD lastBlockSize 0 := by
    by_cases hpos : 0 < lastBlockSize
    · rw [hlast, if_pos hpos, length_encodeBlock, hdropLen]
    · rw [hlast, if_neg hpos, List.length_nil]
      omega
  have hfullLen := length_encodeFullBlocks count data hcount
  have hencLen : (encodeFullBlocks count data ++ last).length =
      count * fullEncodedBlockSize + encodedBlockSizes.getD lastBlockSize 0 := by
    rw [List.length_append, hfullLen, hlastLen]
  have hdiv : (encodeFullBlocks count data ++ last).length / fullEncodedBlockSize = count := by
    rw [hencLen, Nat.mul_comm, Nat.mul_add_div (by decide), Nat.div_eq_of_lt hwidthLt,
      Nat.add_zero]
  have hmod : (encodeFullBlocks count data ++ last).length % fullEncodedBlockSize =
      encodedBlockSizes.getD lastBlockSize 0 := by
    rw [hencLen, Nat.mul_comm, Nat.mul_add_mod, Nat.mod_eq_of_lt hwidthLt]
  have hne : encodeFullBlocks count data ++ last ≠ [] := by
    intro hnil
    have hzero := congrArg List.length hnil
    rw [hencLen, List.length_nil] at hzero
    have hcountZero : count = 0 := by
      simp only [fullEncodedBlockSize] at hzero
      omega
    have hlastZero : lastBlockSize = 0 := by
      by_contra hne
      exact absurd (hwidthPos.mp (Nat.pos_of_ne_zero hne)) (by omega)
    apply hempty
    apply List.eq_nil_of_length_eq_zero
    rw [← hlen, hcountZero, hlastZero]
    rfl
  rw [decode_of_ne_nil hne, hmod, hdiv, hdecLast, Option.bind_some,
    decodeFullBlocks_encodeFullBlocks count data last hcount, Option.bind_some]
  by_cases hpos : 0 < lastBlockSize
  · -- the last block reads back the bytes after the full blocks
    rw [if_pos (hwidthPos.mp hpos), ← hfullLen, List.drop_left, hlast, if_pos hpos,
      decodeBlock_encodeBlock (by rw [hdropLen]; exact hpos) (by rw [hdropLen]; exact hlastLt.le),
      Option.bind_some, List.take_append_drop]
  · -- the full blocks are all there is
    rw [if_neg (mt hwidthPos.mpr hpos), List.take_of_length_le (by
      rw [← hlen, Nat.mul_comm]; omega)]

example : encode [255, 255, 255, 255, 255, 255, 255, 255] =
    "jpXCZedGfVQ".toList.map (·.toNat.toUInt8) := by
  decide

/-- What `decode` accepts is exactly what `encode` writes for the bytes it returns. -/
theorem encode_decode {enc data : List UInt8} (h : decode enc = some data) : encode data = enc := by
  by_cases hempty : enc = []
  · subst hempty
    simp only [decode, List.isEmpty_nil, if_true, Option.some.injEq] at h
    subst h
    rfl
  rw [decode_of_ne_nil hempty] at h
  have hlen := Nat.div_add_mod enc.length fullEncodedBlockSize
  have hwidthLt := Nat.mod_lt enc.length (show 0 < fullEncodedBlockSize by decide)
  set count := enc.length / fullEncodedBlockSize
  set width := enc.length % fullEncodedBlockSize
  simp only [Option.bind_eq_some_iff] at h
  obtain ⟨lastBlockSize, hdecLast, full, hfull, h⟩ := h
  obtain ⟨hsize9, hgetD⟩ := decodedBlockSizes_eq_some hdecLast
  have hsizeLt := lt_fullBlockSize_of_encoded _ hsize9 (hgetD ▸ hwidthLt)
  obtain ⟨-, -, hwidthPos⟩ := lastBlock_spec lastBlockSize hsizeLt
  rw [hgetD] at hwidthPos
  have hcount : count * fullEncodedBlockSize ≤ enc.length := by
    rw [← hlen, Nat.mul_comm]
    exact Nat.le_add_right _ _
  obtain ⟨hfullLen, hfullEnc⟩ := encodeFullBlocks_decodeFullBlocks count enc full hcount hfull
  by_cases hpos : 0 < width
  · -- a last block follows the full ones
    rw [if_pos hpos, Option.bind_eq_some_iff] at h
    obtain ⟨last, hlastDec, h⟩ := h
    rw [Option.some.injEq] at h
    subst h
    obtain ⟨-, hlastSize, hlastEnc⟩ := encodeBlock_decodeBlock hlastDec
    have hdropLen : (enc.drop (count * fullEncodedBlockSize)).length = width := by
      rw [List.length_drop, ← hlen, Nat.mul_comm, Nat.add_sub_cancel_left]
    rw [hdropLen, hdecLast, Option.some.injEq] at hlastSize
    have hdataLen : (full ++ last).length = count * fullBlockSize + lastBlockSize := by
      rw [List.length_append, hfullLen, hlastSize]
    have hne : full ++ last ≠ [] := by
      intro hnil
      have := congrArg List.length hnil
      rw [hdataLen, List.length_nil] at this
      exact absurd (hwidthPos.mpr hpos) (by omega)
    have hdiv : (count * fullBlockSize + lastBlockSize) / fullBlockSize = count := by
      rw [Nat.mul_comm, Nat.mul_add_div (by decide), Nat.div_eq_of_lt hsizeLt, Nat.add_zero]
    have hmod : (count * fullBlockSize + lastBlockSize) % fullBlockSize = lastBlockSize := by
      rw [Nat.mul_comm, Nat.mul_add_mod, Nat.mod_eq_of_lt hsizeLt]
    rw [encode_of_ne_nil hne, hdataLen, hdiv, hmod, if_pos (hwidthPos.mpr hpos), ← hfullLen,
      List.drop_left, hlastEnc, hfullEnc]
    exact List.take_append_drop _ _
  · -- the full blocks are all there is
    rw [if_neg hpos, Option.some.injEq] at h
    subst h
    have hzero : lastBlockSize = 0 := by
      by_contra hne
      exact hpos (hwidthPos.mp (Nat.pos_of_ne_zero hne))
    have hne : full ≠ [] := by
      intro hnil
      rw [hnil, List.length_nil] at hfullLen
      have hcountZero : count = 0 := by
        simp only [fullBlockSize] at hfullLen
        omega
      apply hempty
      apply List.eq_nil_of_length_eq_zero
      rw [← hlen, hcountZero]
      omega
    have hfull := hfullEnc []
    rw [List.append_nil] at hfull
    rw [encode_of_ne_nil hne, hfullLen, Nat.mul_div_cancel _ (by decide), Nat.mul_mod_left,
      if_neg (Nat.lt_irrefl 0), List.append_nil, hfull,
      List.take_of_length_le (by rw [← hlen, Nat.mul_comm]; omega)]

-- one above the largest full block: the symbols of `2^64`, which no 8 bytes encode
example : decode ("jpXCZedGfVR".toList.map (·.toNat.toUInt8)) = none := by decide

/-- `decode_addr` reads back the tag and the data of every address `encode_addr` writes. -/
theorem decodeAddr_encodeAddr (cnFastHash : List UInt8 → Hash) (tag : UInt64)
    (data : List UInt8) : decodeAddr cnFastHash (encodeAddr cnFastHash tag data) = some (tag, data) := by
  have hchecksum : (hashPrefix (cnFastHash (writeVarint tag.toNat ++ data)) addrChecksumSize).length =
      addrChecksumSize := by simp [hashPrefix]
  have hvarint := writeVarint_ne_nil tag.toNat
  have hbufLen : 0 < (writeVarint tag.toNat ++ data).length := by
    rw [List.length_append]
    have := List.length_pos_of_ne_nil hvarint
    omega
  have hlen : (writeVarint tag.toNat ++ data ++
      hashPrefix (cnFastHash (writeVarint tag.toNat ++ data)) addrChecksumSize).length -
        addrChecksumSize = (writeVarint tag.toNat ++ data).length := by
    rw [@List.length_append _ (writeVarint tag.toNat ++ data), hchecksum, Nat.add_sub_cancel]
  have hlong : ¬ (writeVarint tag.toNat ++ data ++
      hashPrefix (cnFastHash (writeVarint tag.toNat ++ data)) addrChecksumSize).length ≤
        addrChecksumSize := by
    rw [@List.length_append _ (writeVarint tag.toNat ++ data), hchecksum]
    omega
  -- the varint is read back whole, and it is not empty
  have hread : ¬ ((writeVarint tag.toNat).length : ℤ) ≤ 0 := by
    have := List.length_pos_of_ne_nil hvarint
    omega
  unfold decodeAddr encodeAddr
  simp only [decode_encode, Option.bind_eq_bind, Option.bind_some, hlong, hlen, if_false,
    List.drop_left, List.take_left, ne_eq, not_true_eq_false,
    readVarint_writeVarint tag.toNat_lt, hread, Int.toNat_natCast, UInt64.ofNat_toNat]
  rfl

/-- The base58 codec: `decode` reads back every byte string `encode` writes, `encode` writes
back every string `decode` accepts, and `decode_addr` reads back the tag and the data of every
address `encode_addr` writes, whatever the hash. -/
theorem base58_roundtrip :
    (∀ data : List UInt8, decode (encode data) = some data) ∧
    (∀ enc data : List UInt8, decode enc = some data → encode data = enc) ∧
    (∀ (cnFastHash : List UInt8 → Hash) (tag : UInt64) (data : List UInt8),
      decodeAddr cnFastHash (encodeAddr cnFastHash tag data) = some (tag, data)) :=
  ⟨decode_encode, fun _ _ h => encode_decode h, decodeAddr_encodeAddr⟩

end Equilibria.Base58
