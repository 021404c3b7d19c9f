import Equilibria.BinaryArchive
import Equilibria.CryptonoteBasic

/-!
# Transaction extra fields in bytes

The byte encoding of `tx_extra` of `tx_extra.h` and `cryptonote_format_utils.cpp`: the reader
and writer of every field of the `tx_extra_field` variant over the binary archive,
`parse_tx_extra`, which reads fields until the end of the bytes, and the `add_*_to_tx_extra`
helpers that append a field.

The variant tag is one byte. Keys, hashes, signatures and deregistration votes are blob types,
written as their bytes in memory; strings and vectors carry their size as a varint; the
integers of `tx_extra_burn`, `tx_extra_service_node_register` and
`tx_extra_service_node_deregister` are fixed-width, except that a `std::vector<uint64_t>` writes
its elements as varints. `tx_extra_padding` reads zero bytes up to the end of the stream, and
`tx_extra_merge_mining_tag` is a string holding a nested archive.

Half of the helpers bypass the archive: `add_data_to_tx_extra` writes a tag and the raw bytes
of a key or an address, which is the archive's encoding, but `add_extra_nonce_to_tx_extra` and
`add_memo_to_tx_extra` write the size as one raw byte where the reader expects a varint, and
`add_memo_to_tx_extra` checks no size.
-/

namespace Equilibria.TxExtra

open BinaryArchive CryptonoteBasic Istream

/-! ## Tags and limits -/

/-- `TX_EXTRA_PADDING_MAX_COUNT`. -/
def txExtraPaddingMaxCount : ℕ := 255

/-- `TX_EXTRA_NONCE_MAX_COUNT`. -/
def txExtraNonceMaxCount : ℕ := 255

/-- `TX_EXTRA_TAG_PADDING`. -/
def txExtraTagPadding : UInt8 := 0x00

/-- `TX_EXTRA_TAG_PUBKEY`. -/
def txExtraTagPubkey : UInt8 := 0x01

/-- `TX_EXTRA_NONCE`. -/
def txExtraNonce : UInt8 := 0x02

/-- `TX_EXTRA_MERGE_MINING_TAG`. -/
def txExtraMergeMiningTag : UInt8 := 0x03

/-- `TX_EXTRA_TAG_ADDITIONAL_PUBKEYS`. -/
def txExtraTagAdditionalPubkeys : UInt8 := 0x04

/-- `TX_EXTRA_TAG_SERVICE_NODE_REGISTER`. -/
def txExtraTagServiceNodeRegister : UInt8 := 0x70

/-- `TX_EXTRA_TAG_SERVICE_NODE_DEREGISTER`. -/
def txExtraTagServiceNodeDeregister : UInt8 := 0x71

/-- `TX_EXTRA_TAG_SERVICE_NODE_WINNER`. -/
def txExtraTagServiceNodeWinner : UInt8 := 0x72

/-- `TX_EXTRA_TAG_SERVICE_NODE_CONTRIBUTOR`. -/
def txExtraTagServiceNodeContributor : UInt8 := 0x73

/-- `TX_EXTRA_TAG_SERVICE_NODE_PUBKEY`. -/
def txExtraTagServiceNodePubkey : UInt8 := 0x74

/-- `TX_EXTRA_TAG_TX_SECRET_KEY`. -/
def txExtraTagTxSecretKey : UInt8 := 0x75

/-- `TX_EXTRA_TAG_BURN`. -/
def txExtraTagBurn : UInt8 := 0x76

/-- `TX_EXTRA_CONTRACT_INFO`. -/
def txExtraContractInfo : UInt8 := 0x78

/-- `TX_EXTRA_TAG_MEMO`. -/
def txExtraTagMemo : UInt8 := 0x81

/-- `TX_EXTRA_MYSTERIOUS_MINERGATE_TAG`. -/
def txExtraMysteriousMinergateTag : UInt8 := 0xDE

/-! ## Readers -/

/-- `return false`, with or without `failbit`. -/
def reject {α : Type} : Reader α := fun _ => none

/-- `EOF == peek()` with the state restored. -/
def peekAtEof : Reader Bool := fun s => some (s.peekEof, s)

/-- A `crypto::public_key`, a blob of 32 bytes. -/
def readPublicKey : Reader PublicKey := do
  let k ← readBlobNat 32
  pure ⟨BitVec.ofNat 256 k⟩

/-- A `crypto::secret_key`, a blob of 32 bytes. -/
def readSecretKey : Reader SecretKey := do
  let k ← readBlobNat 32
  pure ⟨BitVec.ofNat 256 k⟩

/-- A `crypto::hash`, a blob of 32 bytes. -/
def readHash : Reader Hash := do
  let h ← readBlobNat 32
  pure ⟨BitVec.ofNat 256 h⟩

/-- A `crypto::signature`, a blob of 64 bytes. -/
def readSignature : Reader Signature := do
  let sig ← readBlobNat 64
  pure ⟨BitVec.ofNat 512 sig⟩

/-- The loop of `tx_extra_padding::do_serialize` for `binary_archive<false>`, with `n` passes
left and the count `size` so far: stop at the end of the stream, else read a byte that has to
be zero. -/
def paddingLoop : ℕ → ℕ → Reader ℕ
  | 0, size => pure size
  | n + 1, size => do
    let eof ← peekAtEof
    if eof then pure size
    else
      let byte ← serializeUint 1
      if byte ≠ 0 then reject else paddingLoop n (size + 1)

/-- `tx_extra_padding::do_serialize` for `binary_archive<false>`: `size` counts the tag, and
at most `TX_EXTRA_PADDING_MAX_COUNT` bytes are accepted. -/
def readTxExtraPadding : Reader ℕ := do
  let size ← paddingLoop txExtraPaddingMaxCount 1
  if size ≤ txExtraPaddingMaxCount then pure size else reject

/-- The fields that are one key: `FIELD(key)` and `END_SERIALIZE()`. -/
def readKeyStruct {κ : Type} (key : Reader κ) : Reader κ := do
  let k ← field key
  guardGood
  pure k

/-- `tx_extra_pub_key`. -/
def readTxExtraPubKey : Reader PublicKey := readKeyStruct readPublicKey

/-- `tx_extra_service_node_winner`. -/
def readTxExtraServiceNodeWinner : Reader PublicKey := readKeyStruct readPublicKey

/-- `tx_extra_service_node_pubkey`. -/
def readTxExtraServiceNodePubkey : Reader PublicKey := readKeyStruct readPublicKey

/-- `tx_extra_tx_secret_key`. -/
def readTxExtraTxSecretKey : Reader SecretKey := readKeyStruct readSecretKey

/-- The fields that are one string: `FIELD(data)` and `END_SERIALIZE()`. -/
def readStringStruct : Reader (List UInt8) := do
  let str ← field readString
  guardGood
  pure str

/-- `tx_extra_mysterious_minergate`. -/
def readTxExtraMysteriousMinergate : Reader (List UInt8) := readStringStruct

/-- `tx_extra_contract_info`. -/
def readTxExtraContractInfo : Reader (List UInt8) := readStringStruct

/-- `tx_extra_memo`. -/
def readTxExtraMemo : Reader (List UInt8) := readStringStruct

/-- `tx_extra_nonce`: the string, then no more than `TX_EXTRA_NONCE_MAX_COUNT` bytes. -/
def readTxExtraNonce : Reader (List UInt8) := do
  let nonce ← field readString
  if txExtraNonceMaxCount < nonce.length then reject
  else do
    guardGood
    pure nonce

/-- `tx_extra_merge_mining_tag::serialize_helper`: `VARINT_FIELD_N("depth", depth)`,
`FIELD_N("merkle_root", merkle_root)`, `END_SERIALIZE()`. -/
def readMergeMiningHelper : Reader (ℕ × Hash) := do
  let depth ← field (serializeVarint 64)
  let merkleRoot ← field readHash
  guardGood
  pure (depth, merkleRoot)

/-- `tx_extra_merge_mining_tag::do_serialize` for `binary_archive<false>`: a string, read by
`serialization::serialize` on an archive of its own. -/
def readTxExtraMergeMiningTag : Reader (ℕ × Hash) := do
  let str ← readString
  match serialize readMergeMiningHelper (.ofBlob str) with
  | some (v, _) => pure v
  | none => reject

/-- `tx_extra_additional_pub_keys`. -/
def readTxExtraAdditionalPubKeys : Reader (List PublicKey) := do
  let data ← field (readContainer readPublicKey)
  guardGood
  pure data

/-- `tx_extra_service_node_contributor`. -/
def readTxExtraServiceNodeContributor : Reader AccountPublicAddress := do
  let spend ← field readPublicKey
  let view ← field readPublicKey
  guardGood
  pure ⟨spend, view⟩

/-- `tx_extra_service_node_register`: `m_portions` is a `std::vector<uint64_t>`, whose
elements `serialize_container_element` reads as varints. -/
def readTxExtraServiceNodeRegister : Reader TxExtraServiceNodeRegister := do
  let spendKeys ← field (readContainer readPublicKey)
  let viewKeys ← field (readContainer readPublicKey)
  let portionsForOperator ← field (serializeUint 8)
  let portions ← field (readContainer (serializeVarint 64))
  let expirationTimestamp ← field (serializeUint 8)
  let signature ← field readSignature
  guardGood
  pure ⟨spendKeys, viewKeys, UInt64.ofNat portionsForOperator, portions.map UInt64.ofNat,
    UInt64.ofNat expirationTimestamp, signature⟩

/-- `tx_extra_service_node_deregister::vote`, a blob: the signature, then the `uint32_t`
index. -/
def readVote : Reader DeregisterTxVote := do
  let b ← serializeBlob 68
  pure ⟨⟨BitVec.ofNat 512 (leValue (b.take 64))⟩, UInt32.ofNat (leValue (b.drop 64))⟩

/-- `tx_extra_service_node_deregister`. -/
def readTxExtraServiceNodeDeregister : Reader TxExtraServiceNodeDeregister := do
  let blockHeight ← field (serializeUint 8)
  let serviceNodeIndex ← field (serializeUint 4)
  let votes ← field (readContainer readVote)
  guardGood
  pure ⟨UInt64.ofNat blockHeight, UInt32.ofNat serviceNodeIndex, votes⟩

/-- `tx_extra_burn`. -/
def readTxExtraBurn : Reader UInt64 := do
  let amount ← field (serializeUint 8)
  guardGood
  pure (UInt64.ofNat amount)

/-- `variant_reader<...>::read` of `tx_extra_field` for the tag `t`: the reader of the first
alternative, in the order of the variant's types, whose tag is `t`; an unknown tag is
`return false`. -/
def variantReader (t : ℕ) : Reader TxExtraField :=
  if t = txExtraTagPadding.toNat then do
    let size ← readTxExtraPadding
    pure (.padding size)
  else if t = txExtraTagPubkey.toNat then do
    let k ← readTxExtraPubKey
    pure (.pubKey k)
  else if t = txExtraNonce.toNat then do
    let nonce ← readTxExtraNonce
    pure (.nonce nonce)
  else if t = txExtraMergeMiningTag.toNat then do
    let (depth, merkleRoot) ← readTxExtraMergeMiningTag
    pure (.mergeMiningTag depth merkleRoot)
  else if t = txExtraTagAdditionalPubkeys.toNat then do
    let keys ← readTxExtraAdditionalPubKeys
    pure (.additionalPubKeys keys)
  else if t = txExtraMysteriousMinergateTag.toNat then do
    let data ← readTxExtraMysteriousMinergate
    pure (.mysteriousMinergate data)
  else if t = txExtraTagServiceNodePubkey.toNat then do
    let k ← readTxExtraServiceNodePubkey
    pure (.serviceNodePubkey k)
  else if t = txExtraTagServiceNodeRegister.toNat then do
    let r ← readTxExtraServiceNodeRegister
    pure (.serviceNodeRegister r)
  else if t = txExtraTagServiceNodeContributor.toNat then do
    let a ← readTxExtraServiceNodeContributor
    pure (.serviceNodeContributor a)
  else if t = txExtraTagServiceNodeWinner.toNat then do
    let k ← readTxExtraServiceNodeWinner
    pure (.serviceNodeWinner k)
  else if t = txExtraTagServiceNodeDeregister.toNat then do
    let d ← readTxExtraServiceNodeDeregister
    pure (.serviceNodeDeregister d)
  else if t = txExtraTagTxSecretKey.toNat then do
    let k ← readTxExtraTxSecretKey
    pure (.txSecretKey k)
  else if t = txExtraTagBurn.toNat then do
    let amount ← readTxExtraBurn
    pure (.burn amount)
  else if t = txExtraContractInfo.toNat then do
    let json ← readTxExtraContractInfo
    pure (.contractInfo json)
  else if t = txExtraTagMemo.toNat then do
    let data ← readTxExtraMemo
    pure (.memo data)
  else reject

/-- The variant reader of `tx_extra_field`: `read_variant_tag` reads the tag with
`serialize_int`, then `variant_reader` reads the alternative. -/
def readTxExtraField : Reader TxExtraField := do
  let t ← serializeUint 1
  variantReader t

/-- The loop of `parse_tx_extra` with `fuel` passes: read a field, then stop once `peek` is at
the end of the stream. Every field starts with its tag byte, so as many passes as bytes are
enough. -/
def parseFieldsLoop : ℕ → Istream → Option (List TxExtraField × Istream)
  | 0, s => some ([], s)
  | fuel + 1, s =>
    match readTxExtraField s with
    | none => none
    | some (f, s') =>
      if s'.peekEof then some ([f], s')
      else (parseFieldsLoop fuel s').map fun r => (f :: r.1, r.2)

/-- `parse_tx_extra`: the fields of the bytes, in order, or `false` (`none`). -/
def parseTxExtra (txExtra : List UInt8) : Option (List TxExtraField) :=
  if txExtra.isEmpty then some []
  else
    match parseFieldsLoop txExtra.length (.ofBlob txExtra) with
    | some (fields, s) => if checkStreamState s then some fields else none
    | none => none

/-! ## Writers -/

/-- The 32 bytes of a key. -/
def writeKey (k : BitVec 256) : List UInt8 := writeUint 32 k.toNat

/-- `tx_extra_padding::do_serialize` for `binary_archive<true>`: `size - 1` zero bytes after
the tag, and `false` above `TX_EXTRA_PADDING_MAX_COUNT`. -/
def writeTxExtraPadding (size : ℕ) : Option (List UInt8) :=
  if txExtraPaddingMaxCount < size then none else some (List.replicate (size - 1) 0)

/-- `tx_extra_nonce` for `binary_archive<true>`: the string is written before the size check
returns `false`. -/
def writeTxExtraNonce (nonce : List UInt8) : Option (List UInt8) :=
  if txExtraNonceMaxCount < nonce.length then none else some (writeString nonce)

/-- `tx_extra_merge_mining_tag::do_serialize` for `binary_archive<true>`: the helper is
written to an archive of its own, and its bytes as a string. -/
def writeTxExtraMergeMiningTag (depth : ℕ) (merkleRoot : Hash) : List UInt8 :=
  writeString (writeVarint depth ++ writeKey merkleRoot.data)

/-- `tx_extra_service_node_register` for `binary_archive<true>`. -/
def writeTxExtraServiceNodeRegister (r : TxExtraServiceNodeRegister) : List UInt8 :=
  writeContainer (fun k : PublicKey => writeKey k.data) r.publicSpendKeys ++
    writeContainer (fun k : PublicKey => writeKey k.data) r.publicViewKeys ++
    writeUint 8 r.portionsForOperator.toNat ++
    writeContainer (fun p : UInt64 => writeVarint p.toNat) r.portions ++
    writeUint 8 r.expirationTimestamp.toNat ++
    writeUint 64 r.serviceNodeSignature.data.toNat

/-- The 68 bytes of a `tx_extra_service_node_deregister::vote`. -/
def writeVote (v : DeregisterTxVote) : List UInt8 :=
  writeUint 64 v.signature.data.toNat ++ writeUint 4 v.votersQuorumIndex.toNat

/-- `tx_extra_service_node_deregister` for `binary_archive<true>`. -/
def writeTxExtraServiceNodeDeregister (d : TxExtraServiceNodeDeregister) : List UInt8 :=
  writeUint 8 d.blockHeight.toNat ++ writeUint 4 d.serviceNodeIndex.toNat ++
    writeContainer writeVote d.votes

/-- `VARIANT_TAG`: the tag of each alternative of `tx_extra_field`. -/
def txExtraFieldTag : TxExtraField → UInt8
  | .padding _ => txExtraTagPadding
  | .pubKey _ => txExtraTagPubkey
  | .nonce _ => txExtraNonce
  | .mergeMiningTag _ _ => txExtraMergeMiningTag
  | .additionalPubKeys _ => txExtraTagAdditionalPubkeys
  | .mysteriousMinergate _ => txExtraMysteriousMinergateTag
  | .serviceNodePubkey _ => txExtraTagServiceNodePubkey
  | .serviceNodeRegister _ => txExtraTagServiceNodeRegister
  | .serviceNodeContributor _ => txExtraTagServiceNodeContributor
  | .serviceNodeWinner _ => txExtraTagServiceNodeWinner
  | .serviceNodeDeregister _ => txExtraTagServiceNodeDeregister
  | .txSecretKey _ => txExtraTagTxSecretKey
  | .burn _ => txExtraTagBurn
  | .contractInfo _ => txExtraContractInfo
  | .memo _ => txExtraTagMemo

/-- The `do_serialize` of each alternative for `binary_archive<true>`; `false` from the
padding and the nonce above their limits. -/
def writeTxExtraFieldBody : TxExtraField → Option (List UInt8)
  | .padding size => writeTxExtraPadding size
  | .pubKey k => some (writeKey k.data)
  | .nonce nonce => writeTxExtraNonce nonce
  | .mergeMiningTag depth merkleRoot => some (writeTxExtraMergeMiningTag depth merkleRoot)
  | .additionalPubKeys keys => some (writeContainer (fun k : PublicKey => writeKey k.data) keys)
  | .mysteriousMinergate data => some (writeString data)
  | .serviceNodePubkey k => some (writeKey k.data)
  | .serviceNodeRegister r => some (writeTxExtraServiceNodeRegister r)
  | .serviceNodeContributor a => some (writeKey a.spendPublicKey.data ++ writeKey a.viewPublicKey.data)
  | .serviceNodeWinner k => some (writeKey k.data)
  | .serviceNodeDeregister d => some (writeTxExtraServiceNodeDeregister d)
  | .txSecretKey k => some (writeKey k.data)
  | .burn amount => some (writeUint 8 amount.toNat)
  | .contractInfo json => some (writeString json)
  | .memo data => some (writeString data)

/-- The variant writer of `tx_extra_field`: `write_variant_tag` writes the tag with
`serialize_int`, then the alternative. -/
def writeTxExtraField (f : TxExtraField) : Option (List UInt8) :=
  (writeTxExtraFieldBody f).map (txExtraFieldTag f :: ·)

/-! ## The helpers that append a field -/

/-- `add_data_to_tx_extra`: the tag, then the raw bytes. -/
def addDataToTxExtra (txExtra data : List UInt8) (tag : UInt8) : List UInt8 :=
  txExtra ++ tag :: data

/-- `add_tx_extra_field_to_tx_extra`: the field as the archive writes it. -/
def addTxExtraFieldToTxExtra (txExtra : List UInt8) (f : TxExtraField) : Option (List UInt8) :=
  (writeTxExtraField f).map (txExtra ++ ·)

/-- `add_tx_pub_key_to_extra`. -/
def addTxPubKeyToExtra (txExtra : List UInt8) (txPubKey : PublicKey) : List UInt8 :=
  addDataToTxExtra txExtra (writeKey txPubKey.data) txExtraTagPubkey

/-- `add_service_node_pubkey_to_tx_extra`. -/
def addServiceNodePubkeyToTxExtra (txExtra : List UInt8) (pubkey : PublicKey) : List UInt8 :=
  addDataToTxExtra txExtra (writeKey pubkey.data) txExtraTagServiceNodePubkey

/-- `add_service_node_contributor_to_tx_extra`: the 64 bytes of the address. -/
def addServiceNodeContributorToTxExtra (txExtra : List UInt8) (address : AccountPublicAddress) :
    List UInt8 :=
  addDataToTxExtra txExtra (writeKey address.spendPublicKey.data ++ writeKey address.viewPublicKey.data)
    txExtraTagServiceNodeContributor

/-- `add_tx_secret_key_to_tx_extra`. -/
def addTxSecretKeyToTxExtra (txExtra : List UInt8) (key : SecretKey) : List UInt8 :=
  addDataToTxExtra txExtra (writeKey key.data) txExtraTagTxSecretKey

/-- `add_service_node_winner_to_tx_extra`. -/
def addServiceNodeWinnerToTxExtra (txExtra : List UInt8) (winner : PublicKey) : List UInt8 :=
  addDataToTxExtra txExtra (writeKey winner.data) txExtraTagServiceNodeWinner

/-- `add_extra_nonce_to_tx_extra`: at most `TX_EXTRA_NONCE_MAX_COUNT` bytes, with the size
written as one byte. -/
def addExtraNonceToTxExtra (txExtra extraNonce : List UInt8) : Option (List UInt8) :=
  if extraNonce.length ≤ txExtraNonceMaxCount then
    some (txExtra ++ txExtraNonce :: UInt8.ofNat extraNonce.length :: extraNonce)
  else none

/-- `add_memo_to_tx_extra`: the size written as one byte, `static_cast<uint8_t>`, with no
check. -/
def addMemoToTxExtra (txExtra memo : List UInt8) : List UInt8 :=
  txExtra ++ txExtraTagMemo :: UInt8.ofNat memo.length :: memo

/-- `add_additional_tx_pub_keys_to_extra`. -/
def addAdditionalTxPubKeysToExtra (txExtra : List UInt8) (additionalPubKeys : List PublicKey) :
    Option (List UInt8) :=
  addTxExtraFieldToTxExtra txExtra (.additionalPubKeys additionalPubKeys)

/-- `add_service_node_deregister_to_tx_extra`. -/
def addServiceNodeDeregisterToTxExtra (txExtra : List UInt8)
    (deregistration : TxExtraServiceNodeDeregister) : Option (List UInt8) :=
  addTxExtraFieldToTxExtra txExtra (.serviceNodeDeregister deregistration)

/-- `add_service_node_register_to_tx_extra`: as many portions as addresses, the spend and view
keys split out of the addresses. -/
def addServiceNodeRegisterToTxExtra (txExtra : List UInt8) (addresses : List AccountPublicAddress)
    (portionsForOperator : UInt64) (portions : List UInt64) (expirationTimestamp : UInt64)
    (serviceNodeSignature : Signature) : Option (List UInt8) :=
  if addresses.length ≠ portions.length then none
  else
    addTxExtraFieldToTxExtra txExtra
      (.serviceNodeRegister ⟨addresses.map (·.spendPublicKey), addresses.map (·.viewPublicKey),
        portionsForOperator, portions, expirationTimestamp, serviceNodeSignature⟩)

/-- `add_burned_amount_to_tx_extra`. -/
def addBurnedAmountToTxExtra (txExtra : List UInt8) (burn : UInt64) : Option (List UInt8) :=
  addTxExtraFieldToTxExtra txExtra (.burn burn)

/-- `add_contract_info_to_tx_extra`: an empty string is refused. -/
def addContractInfoToTxExtra (txExtra contractInfo : List UInt8) : Option (List UInt8) :=
  if contractInfo = [] then none else addTxExtraFieldToTxExtra txExtra (.contractInfo contractInfo)

/-! ## Reading back what the archive writes -/

/-- The sizes of a field fit the `size_t` the archive writes them in. -/
def Fits : TxExtraField → Prop
  | .nonce nonce => nonce.length < 2 ^ 64
  | .mergeMiningTag depth _ => depth < 2 ^ 64
  | .additionalPubKeys keys => keys.length < 2 ^ 64
  | .mysteriousMinergate data => data.length < 2 ^ 64
  | .serviceNodeRegister r =>
    r.publicSpendKeys.length < 2 ^ 64 ∧ r.publicViewKeys.length < 2 ^ 64 ∧ r.portions.length < 2 ^ 64
  | .serviceNodeDeregister d => d.votes.length < 2 ^ 64
  | .contractInfo json => json.length < 2 ^ 64
  | .memo data => data.length < 2 ^ 64
  | _ => True

theorem serializeUint_one_cons (c : UInt8) (rest : List UInt8) :
    serializeUint 1 (ofBlob (c :: rest)) = some (c.toNat, ofBlob rest) := by
  simp [serializeUint, serializeUintLoop, get_ofBlob_cons]

theorem readBlobNat_writeKey (k : BitVec 256) (rest : List UInt8) :
    readBlobNat 32 (ofBlob (writeKey k ++ rest)) = some (k.toNat, ofBlob rest) :=
  readBlobNat_readsBack 32 k.toNat (by have := k.isLt; omega) rest

theorem readPublicKey_readsBack :
    ReadsBack readPublicKey (fun k : PublicKey => writeKey k.data) fun _ => True := by
  intro k _ rest
  simp [readPublicKey, readBlobNat_writeKey]

theorem readSecretKey_readsBack :
    ReadsBack readSecretKey (fun k : SecretKey => writeKey k.data) fun _ => True := by
  intro k _ rest
  simp [readSecretKey, readBlobNat_writeKey]

theorem readHash_readsBack : ReadsBack readHash (fun h : Hash => writeKey h.data) fun _ => True := by
  intro h _ rest
  simp [readHash, readBlobNat_writeKey]

theorem readSignature_readsBack :
    ReadsBack readSignature (fun sig : Signature => writeUint 64 sig.data.toNat) fun _ => True := by
  intro sig _ rest
  simp [readSignature, readBlobNat_readsBack 64 sig.data.toNat (by have := sig.data.isLt; omega)]

theorem readKeyStruct_readsBack {κ : Type} {key : Reader κ} {w : κ → List UInt8} {P : κ → Prop}
    (h : ReadsBack key w P) : ReadsBack (readKeyStruct key) w P := by
  intro k hk rest
  simp [readKeyStruct, field_readsBack h k hk rest]

theorem readStringStruct_readsBack : ReadsBack readStringStruct writeString (·.length < 2 ^ 64) := by
  intro str hs rest
  simp [readStringStruct, field, readString_append hs]

theorem readVote_readsBack : ReadsBack readVote writeVote fun _ => True := by
  intro v _ rest
  have hsig : (writeVote v).take 64 = writeUint 64 v.signature.data.toNat :=
    List.take_left' (length_writeUint 64 _)
  have hidx : (writeVote v).drop 64 = writeUint 4 v.votersQuorumIndex.toNat :=
    List.drop_left' (length_writeUint 64 _)
  have hlen : (writeVote v).length = 68 := by simp [writeVote, length_writeUint]
  have hsigv : v.signature.data.toNat % 256 ^ 64 = v.signature.data.toNat := by
    have := v.signature.data.isLt; omega
  have hidxv : v.votersQuorumIndex.toNat % 256 ^ 4 = v.votersQuorumIndex.toNat := by
    have := v.votersQuorumIndex.toNat_lt; omega
  simp only [readVote, bind_apply, serializeBlob_append hlen, Option.bind_some, pure_apply, hsig,
    hidx, leValue_writeUint, hsigv, hidxv]
  simp

theorem readTxExtraNonce_readsBack :
    ReadsBack readTxExtraNonce writeString (·.length ≤ txExtraNonceMaxCount) := by
  intro nonce hn rest
  have hs : nonce.length < 2 ^ 64 := by unfold txExtraNonceMaxCount at hn; omega
  simp [readTxExtraNonce, field, readString_append hs, Nat.not_lt.mpr hn]

theorem readTxExtraMergeMiningTag_readsBack :
    ReadsBack readTxExtraMergeMiningTag (fun v : ℕ × Hash => writeTxExtraMergeMiningTag v.1 v.2)
      (·.1 < 2 ^ 64) := by
  rintro ⟨depth, merkleRoot⟩ hd rest
  have hinner : (writeVarint depth ++ writeKey merkleRoot.data).length < 2 ^ 64 := by
    have hv := length_writeVarint_le (k := 9) (v := depth) (by simp only at hd; omega)
    simp only [List.length_append, writeKey, length_writeUint]
    omega
  have hhelper : readMergeMiningHelper (ofBlob (writeVarint depth ++ writeKey merkleRoot.data)) =
      some ((depth, merkleRoot), ofBlob []) := by
    have hh := readHash_readsBack merkleRoot trivial []
    rw [List.append_nil] at hh
    simp [readMergeMiningHelper, field, serializeVarint_append hd, hh]
  simp [readTxExtraMergeMiningTag, writeTxExtraMergeMiningTag, readString_append hinner,
    serialize, hhelper, checkStreamState]

/-- A vector of keys. -/
theorem readKeys_readsBack :
    ReadsBack (readContainer readPublicKey) (writeContainer fun k : PublicKey => writeKey k.data)
      (·.length < 2 ^ 64) := by
  intro keys hk rest
  exact readContainer_readsBack readPublicKey_readsBack
    (fun k _ => by simp [writeKey, ← List.length_eq_zero_iff, length_writeUint]) keys
    ⟨hk, fun _ _ => trivial⟩ rest

theorem readTxExtraServiceNodeRegister_readsBack :
    ReadsBack readTxExtraServiceNodeRegister writeTxExtraServiceNodeRegister
      (fun r => r.publicSpendKeys.length < 2 ^ 64 ∧ r.publicViewKeys.length < 2 ^ 64 ∧
        r.portions.length < 2 ^ 64) := by
  rintro ⟨spendKeys, viewKeys, portionsForOperator, portions, expirationTimestamp, signature⟩
    ⟨hs, hv, hp⟩ rest
  -- the portions are a vector of varints of their values
  have hportions : writeContainer (fun p : UInt64 => writeVarint p.toNat) portions =
      writeContainer writeVarint (portions.map UInt64.toNat) := by
    simp [writeContainer, List.flatMap_map]
  have hread := readContainer_readsBack (fun v hv rest => serializeVarint_append hv rest)
    (fun v _ => writeVarint_ne_nil v) (portions.map UInt64.toNat)
    ⟨by simpa using hp, fun x hx => by
      obtain ⟨p, -, rfl⟩ := List.mem_map.mp hx
      exact p.toNat_lt⟩
  have hsig := readSignature_readsBack signature trivial rest
  simp [readTxExtraServiceNodeRegister, writeTxExtraServiceNodeRegister, field, List.append_assoc,
    readKeys_readsBack _ hs, readKeys_readsBack _ hv, serializeUint_append, hportions, hread,
    hsig, List.map_map, Function.comp_def]

theorem readTxExtraServiceNodeDeregister_readsBack :
    ReadsBack readTxExtraServiceNodeDeregister writeTxExtraServiceNodeDeregister
      (·.votes.length < 2 ^ 64) := by
  rintro ⟨blockHeight, serviceNodeIndex, votes⟩ hv rest
  have hvotes := readContainer_readsBack readVote_readsBack
    (fun v _ => by simp [writeVote, ← List.length_eq_zero_iff, length_writeUint]) votes
    ⟨hv, fun _ _ => trivial⟩ rest
  simp [readTxExtraServiceNodeDeregister, writeTxExtraServiceNodeDeregister, field,
    List.append_assoc, serializeUint_append, hvotes]

/-- `variant_reader` at a field's tag reads back the body the field's writer wrote, for every
alternative but the padding. -/
theorem variantReader_body {f : TxExtraField} {body : List UInt8} (hf : Fits f)
    (hpad : txExtraFieldTag f ≠ txExtraTagPadding) (hbody : writeTxExtraFieldBody f = some body)
    (rest : List UInt8) :
    variantReader (txExtraFieldTag f).toNat (ofBlob (body ++ rest)) = some (f, ofBlob rest) := by
  cases f with
  | padding size => exact absurd rfl hpad
  | pubKey k =>
    cases hbody
    simp +decide [variantReader, txExtraFieldTag, readTxExtraPubKey,
      readKeyStruct_readsBack readPublicKey_readsBack k trivial rest]
  | nonce nonce =>
    simp only [writeTxExtraFieldBody, writeTxExtraNonce] at hbody
    split at hbody
    · cases hbody
    · cases hbody
      simp +decide [variantReader, txExtraFieldTag,
        readTxExtraNonce_readsBack nonce (Nat.le_of_not_lt ‹_›) rest]
  | mergeMiningTag depth merkleRoot =>
    cases hbody
    simp +decide [variantReader, txExtraFieldTag,
      readTxExtraMergeMiningTag_readsBack (depth, merkleRoot) hf rest]
  | additionalPubKeys keys =>
    cases hbody
    simp +decide [variantReader, txExtraFieldTag, readTxExtraAdditionalPubKeys, field,
      readKeys_readsBack keys hf rest]
  | mysteriousMinergate data =>
    cases hbody
    simp +decide [variantReader, txExtraFieldTag, readTxExtraMysteriousMinergate,
      readStringStruct_readsBack data hf rest]
  | serviceNodePubkey k =>
    cases hbody
    simp +decide [variantReader, txExtraFieldTag, readTxExtraServiceNodePubkey,
      readKeyStruct_readsBack readPublicKey_readsBack k trivial rest]
  | serviceNodeRegister r =>
    cases hbody
    simp +decide [variantReader, txExtraFieldTag,
      readTxExtraServiceNodeRegister_readsBack r hf rest]
  | serviceNodeContributor a =>
    cases hbody
    simp +decide [variantReader, txExtraFieldTag, readTxExtraServiceNodeContributor, field,
      List.append_assoc, readPublicKey_readsBack _ trivial]
  | serviceNodeWinner k =>
    cases hbody
    simp +decide [variantReader, txExtraFieldTag, readTxExtraServiceNodeWinner,
      readKeyStruct_readsBack readPublicKey_readsBack k trivial rest]
  | serviceNodeDeregister d =>
    cases hbody
    simp +decide [variantReader, txExtraFieldTag,
      readTxExtraServiceNodeDeregister_readsBack d hf rest]
  | txSecretKey k =>
    cases hbody
    simp +decide [variantReader, txExtraFieldTag, readTxExtraTxSecretKey,
      readKeyStruct_readsBack readSecretKey_readsBack k trivial rest]
  | burn amount =>
    cases hbody
    simp +decide [variantReader, txExtraFieldTag, readTxExtraBurn, field, serializeUint_append]
  | contractInfo json =>
    cases hbody
    simp +decide [variantReader, txExtraFieldTag, readTxExtraContractInfo,
      readStringStruct_readsBack json hf rest]
  | memo data =>
    cases hbody
    simp +decide [variantReader, txExtraFieldTag, readTxExtraMemo,
      readStringStruct_readsBack data hf rest]

theorem ne_nil_of_writeTxExtraField {f : TxExtraField} {w : List UInt8}
    (hw : writeTxExtraField f = some w) : w ≠ [] := by
  simp only [writeTxExtraField, Option.map_eq_some_iff] at hw
  obtain ⟨body, -, rfl⟩ := hw
  simp

/-- The variant reader reads back every field but the padding that the archive writes. -/
theorem readTxExtraField_writeTxExtraField {f : TxExtraField} {w : List UInt8} (hf : Fits f)
    (hpad : txExtraFieldTag f ≠ txExtraTagPadding) (hw : writeTxExtraField f = some w)
    (rest : List UInt8) : readTxExtraField (ofBlob (w ++ rest)) = some (f, ofBlob rest) := by
  simp only [writeTxExtraField, Option.map_eq_some_iff] at hw
  obtain ⟨body, hbody, rfl⟩ := hw
  simp only [readTxExtraField, List.cons_append, bind_apply, serializeUint_one_cons,
    Option.bind_some, variantReader_body hf hpad hbody rest]

/-! ## Parsing fields written one after another -/

section Written

variable {fs : List TxExtraField} {ws : List (List UInt8)}

/-- The fields `fs` are written by the archive as the byte strings `ws`. -/
def Written (fs : List TxExtraField) (ws : List (List UInt8)) : Prop :=
  List.Forall₂ (fun f w => writeTxExtraField f = some w) fs ws

/-- Every field has a tag, so there are no more fields than bytes. -/
theorem Written.length_le (hw : Written fs ws) : fs.length ≤ ws.flatten.length := by
  induction hw with
  | nil => simp
  | cons hf _ ih =>
    have := ne_nil_of_writeTxExtraField hf
    simp only [List.length_cons, List.flatten_cons, List.length_append]
    have : 0 < List.length _ := List.length_pos_iff.mpr this
    omega

/-- `parse_tx_extra`'s loop over fields written one after another: each pass reads one of
them, and the loop stops at the end of the last. -/
theorem parseFieldsLoop_flatten (hw : Written fs ws)
    (hfs : ∀ f ∈ fs, Fits f ∧ txExtraFieldTag f ≠ txExtraTagPadding) (hne : fs ≠ []) :
    ∀ fuel, fs.length ≤ fuel → parseFieldsLoop fuel (ofBlob ws.flatten) = some (fs, ofBlob []) := by
  induction hw with
  | nil => exact absurd rfl hne
  | @cons f w fs' ws' hf hrest ih =>
    intro fuel hfuel
    obtain ⟨fuel, rfl⟩ : ∃ n, fuel = n + 1 := ⟨fuel - 1, by simp at hfuel; omega⟩
    have hread := readTxExtraField_writeTxExtraField (hfs f (by simp)).1 (hfs f (by simp)).2 hf
      ws'.flatten
    rw [List.flatten_cons, parseFieldsLoop, hread]
    cases hrest with
    | nil => simp [peekEof]
    | @cons f' w' fs'' ws'' hf' hrest' =>
      -- another field follows: `peek` sees its tag
      have hw' := ne_nil_of_writeTxExtraField hf'
      have hnot : (ofBlob (w' ++ ws''.flatten)).peekEof = false := by
        simp [peekEof, hw']
      have hih := ih (fun g hg => hfs g (List.mem_cons_of_mem f hg)) (by simp) fuel
        (by simpa using hfuel)
      rw [List.flatten_cons] at hih
      simp only [List.flatten_cons, hnot, Bool.false_eq_true, if_false, hih, Option.map_some]

/-- Fields other than the padding, each written by the archive, parse back from their bytes
written one after another. -/
theorem parseTxExtra_flatten (hw : Written fs ws)
    (hfs : ∀ f ∈ fs, Fits f ∧ txExtraFieldTag f ≠ txExtraTagPadding) :
    parseTxExtra ws.flatten = some fs := by
  cases hws : ws with
  | nil =>
    subst hws
    cases hw
    rfl
  | cons w ws' =>
    subst hws
    cases hw with
    | cons hf hrest =>
      have hne := ne_nil_of_writeTxExtraField hf
      have hloop := parseFieldsLoop_flatten (List.Forall₂.cons hf hrest) hfs (by simp) _
        (Written.length_le (List.Forall₂.cons hf hrest))
      rw [parseTxExtra, if_neg (by simp [hne]), hloop]
      rfl

end Written

/-! ## The helpers agree with the archive while sizes stay below 128 -/

/-- `add_data_to_tx_extra` writes what the archive writes for a key. -/
theorem addTxPubKeyToExtra_eq (txExtra : List UInt8) (k : PublicKey) :
    addTxExtraFieldToTxExtra txExtra (.pubKey k) = some (addTxPubKeyToExtra txExtra k) := rfl

theorem addServiceNodePubkeyToTxExtra_eq (txExtra : List UInt8) (k : PublicKey) :
    addTxExtraFieldToTxExtra txExtra (.serviceNodePubkey k) =
      some (addServiceNodePubkeyToTxExtra txExtra k) := rfl

theorem addServiceNodeContributorToTxExtra_eq (txExtra : List UInt8) (a : AccountPublicAddress) :
    addTxExtraFieldToTxExtra txExtra (.serviceNodeContributor a) =
      some (addServiceNodeContributorToTxExtra txExtra a) := rfl

theorem addServiceNodeWinnerToTxExtra_eq (txExtra : List UInt8) (k : PublicKey) :
    addTxExtraFieldToTxExtra txExtra (.serviceNodeWinner k) =
      some (addServiceNodeWinnerToTxExtra txExtra k) := rfl

theorem addTxSecretKeyToTxExtra_eq (txExtra : List UInt8) (k : SecretKey) :
    addTxExtraFieldToTxExtra txExtra (.txSecretKey k) = some (addTxSecretKeyToTxExtra txExtra k) :=
  rfl

/-- A raw size byte is the varint of a size below 128. -/
theorem writeString_of_lt {str : List UInt8} (h : str.length < 128) :
    writeString str = UInt8.ofNat str.length :: str := by
  rw [writeString, writeVarint_of_lt h]
  rfl

theorem addMemoToTxExtra_eq {memo : List UInt8} (h : memo.length < 128) (txExtra : List UInt8) :
    addTxExtraFieldToTxExtra txExtra (.memo memo) = some (addMemoToTxExtra txExtra memo) := by
  simp [addTxExtraFieldToTxExtra, writeTxExtraField, writeTxExtraFieldBody, txExtraFieldTag,
    addMemoToTxExtra, writeString_of_lt h]

theorem addExtraNonceToTxExtra_eq {nonce : List UInt8} (h : nonce.length < 128)
    (txExtra : List UInt8) :
    addTxExtraFieldToTxExtra txExtra (.nonce nonce) = addExtraNonceToTxExtra txExtra nonce := by
  have hmax : ¬txExtraNonceMaxCount < nonce.length := by unfold txExtraNonceMaxCount; omega
  simp [addTxExtraFieldToTxExtra, writeTxExtraField, writeTxExtraFieldBody, writeTxExtraNonce,
    txExtraFieldTag, addExtraNonceToTxExtra, hmax, Nat.le_of_not_lt hmax, writeString_of_lt h]

/-- Appending a field the archive writes to fields the archive wrote gives bytes that parse to
the fields and then the new one. -/
theorem parseTxExtra_addTxExtraField {fs : List TxExtraField} {ws : List (List UInt8)}
    (hw : Written fs ws) (hfs : ∀ f ∈ fs, Fits f ∧ txExtraFieldTag f ≠ txExtraTagPadding)
    {f : TxExtraField} (hf : Fits f) (hpad : txExtraFieldTag f ≠ txExtraTagPadding)
    {txExtra : List UInt8} (hadd : addTxExtraFieldToTxExtra ws.flatten f = some txExtra) :
    parseTxExtra txExtra = some (fs ++ [f]) := by
  simp only [addTxExtraFieldToTxExtra, Option.map_eq_some_iff] at hadd
  obtain ⟨w, hwf, rfl⟩ := hadd
  have hall : Written (fs ++ [f]) (ws ++ [w]) := List.rel_append hw (List.Forall₂.cons hwf .nil)
  have h := parseTxExtra_flatten hall (by
    intro g hg
    rcases List.mem_append.mp hg with hg | hg
    · exact hfs g hg
    · rw [List.mem_singleton.mp hg]; exact ⟨hf, hpad⟩)
  simpa using h

/-- A memo of 128 bytes, appended to an empty extra, makes bytes that do not parse: the raw
size byte 128 starts a varint that takes the memo's first byte. -/
theorem long_memo_breaks_extra :
    parseTxExtra [] = some [] ∧
      parseTxExtra (addMemoToTxExtra [] (List.replicate 128 0x61)) = none := by
  refine ⟨rfl, ?_⟩
  decide +kernel

/-! ## Sorting -/

/-- `pick<T>`, for the alternative with tag `tag`: every field of that alternative, in order,
written as its tag and its `do_serialize`; `false` if one of them fails. -/
def pick (tag : UInt8) : List TxExtraField → Option (List UInt8)
  | [] => some []
  | f :: fs =>
    if txExtraFieldTag f = tag then do
      let body ← writeTxExtraFieldBody f
      let rest ← pick tag fs
      pure (tag :: body ++ rest)
    else pick tag fs

/-- The order of the `pick` calls of `sort_tx_extra`. -/
def pickOrder : List UInt8 :=
  [txExtraTagPubkey, txExtraTagAdditionalPubkeys, txExtraNonce, txExtraMergeMiningTag,
    txExtraMysteriousMinergateTag, txExtraTagPadding, txExtraTagServiceNodeRegister,
    txExtraTagServiceNodeDeregister, txExtraTagServiceNodeWinner,
    txExtraTagServiceNodeContributor, txExtraTagServiceNodePubkey, txExtraTagTxSecretKey,
    txExtraTagBurn, txExtraContractInfo, txExtraTagMemo]

/-- The `pick` calls for the tags `tags` in turn, each erasing the fields it wrote: the bytes
written, and the fields left. -/
def pickAll : List UInt8 → List TxExtraField → Option (List UInt8 × List TxExtraField)
  | [], fields => some ([], fields)
  | tag :: tags, fields => do
    let bytes ← pick tag fields
    let r ← pickAll tags (fields.filter fun f => txExtraFieldTag f ≠ tag)
    pure (bytes ++ r.1, r.2)

/-- `sort_tx_extra` with `allow_partial = false`: its reading loop is `parse_tx_extra`'s, and
the fields are written back grouped in `pickOrder`; `false` if a field is left over. -/
def sortTxExtra (txExtra : List UInt8) : Option (List UInt8) :=
  if txExtra.isEmpty then some []
  else do
    let fields ← parseTxExtra txExtra
    let r ← pickAll pickOrder fields
    if r.2.isEmpty then some r.1 else none

/-- An extra of an empty memo and one byte of padding parses, but `sort_tx_extra` writes the
padding before the memo, where the padding reader takes the memo's tag for a padding byte:
the sorted extra does not parse. -/
theorem sorted_padding_breaks_extra :
    parseTxExtra [0x81, 0x00, 0x00] = some [.memo [], .padding 1] ∧
      sortTxExtra [0x81, 0x00, 0x00] = some [0x00, 0x81, 0x00] ∧
      parseTxExtra [0x00, 0x81, 0x00] = none := by
  refine ⟨by decide, by decide +kernel, by decide⟩

end Equilibria.TxExtra
