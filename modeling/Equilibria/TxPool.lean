import Equilibria.MapJournal
import Equilibria.CryptonoteBasic
import Equilibria.Binary64

/-!
# The transaction pool

`tx_memory_pool` keeps its transactions in the database's txpool table, by txid with their
metadata and blob. Beside the table it keeps, in memory, the txids sorted by fee and arrival
(`m_txs_by_fee_and_receive_time`), the txids that spend each key image (`m_spent_key_images`)
and a running total of the weights (`m_txpool_weight`). `add_tx`, `take_tx`, `prune`,
`remove_stuck_transactions` and `mark_double_spend` are meant to update the four together.
Database writes made under a `LockedTXN` take effect when it commits and are dropped when the
function returns first; the in-memory structures keep every write.

A transaction the pool already holds in the `stem` or `local` state of Dandelion++ passes the
key-image check, so it may be added again. Its table entry is replaced, but a second sorted entry
is put beside the first, and its weight is counted again.
-/

namespace Equilibria.TxPool

open CryptonoteBasic MapJournal

/-! ## Relay methods -/

/-- `relay_method`. -/
inductive RelayMethod
  | none
  | local
  | stem
  | fluff
  | block
  deriving DecidableEq, Repr

/-- The order of the `relay_method` values. -/
def RelayMethod.toNat : RelayMethod → ℕ
  | .none => 0
  | .local => 1
  | .stem => 2
  | .fluff => 3
  | .block => 4

/-- `relay_category`. -/
inductive RelayCategory
  | broadcasted
  | relayable
  | legacy
  | all
  deriving DecidableEq, Repr

/-- `matches_category`. -/
def matchesCategory (method : RelayMethod) (category : RelayCategory) : Bool :=
  match category with
  | .all => true
  | .relayable => method != .none
  | .broadcasted | .legacy =>
    match method with
    | .local | .stem => false
    | .block | .fluff => true
    | .none => category == .legacy

/-- `txpool_tx_meta_t`, with the fields the modelled code reads. -/
structure TxpoolTxMeta where
  /-- `weight`. -/
  weight : ℕ
  /-- `fee`. -/
  fee : ℕ
  /-- `receive_time`. -/
  receiveTime : ℕ
  /-- `is_deregister`. -/
  isDeregister : Bool
  /-- `kept_by_block`. -/
  keptByBlock : Bool
  /-- `relayed`. -/
  relayed : Bool
  /-- `do_not_relay`. -/
  doNotRelay : Bool
  /-- `double_spend_seen`. -/
  doubleSpendSeen : Bool
  /-- `is_local`. -/
  isLocal : Bool
  /-- `dandelionpp_stem`. -/
  dandelionppStem : Bool
  deriving DecidableEq, Repr

/-- `txpool_tx_meta_t meta{}`. -/
def TxpoolTxMeta.empty : TxpoolTxMeta :=
  ⟨0, 0, 0, false, false, false, false, false, false, false⟩

/-- `txpool_tx_meta_t::set_relay_method`: clear the four flags, then set the method's. -/
def TxpoolTxMeta.setRelayMethod (txMeta : TxpoolTxMeta) (method : RelayMethod) : TxpoolTxMeta :=
  let txMeta := { txMeta with
    keptByBlock := false, doNotRelay := false, isLocal := false, dandelionppStem := false }
  match method with
  | .none => { txMeta with doNotRelay := true }
  | .local => { txMeta with isLocal := true }
  | .fluff => txMeta
  | .stem => { txMeta with dandelionppStem := true }
  | .block => { txMeta with keptByBlock := true }

/-- `txpool_tx_meta_t::get_relay_method`. -/
def TxpoolTxMeta.getRelayMethod (txMeta : TxpoolTxMeta) : RelayMethod :=
  if txMeta.keptByBlock then .block
  else if txMeta.doNotRelay then .none
  else if txMeta.isLocal then .local
  else if txMeta.dandelionppStem then .stem
  else .fluff

/-- `txpool_tx_meta_t::upgrade_relay_method`: move to a later method only; the flag says whether
it moved. -/
def TxpoolTxMeta.upgradeRelayMethod (txMeta : TxpoolTxMeta) (method : RelayMethod) :
    TxpoolTxMeta × Bool :=
  if txMeta.getRelayMethod.toNat < method.toNat then (txMeta.setRelayMethod method, true)
  else (txMeta, false)

/-- `txpool_tx_meta_t::matches`. -/
def TxpoolTxMeta.matches (txMeta : TxpoolTxMeta) (category : RelayCategory) : Bool :=
  matchesCategory txMeta.getRelayMethod category

/-! ## The pool -/

/-- An element of `m_txs_by_fee_and_receive_time`: the key `(is_deregister, fee / weight,
receive_time)` with the txid; the key's `double` is computed from the fee and the weight kept
here. -/
structure SortedEntry where
  /-- `tx.is_deregister_tx()`. -/
  isDeregister : Bool
  /-- The fee. -/
  fee : ℕ
  /-- The weight. -/
  weight : ℕ
  /-- `receive_time`. -/
  receiveTime : ℕ
  /-- The txid. -/
  id : Hash
  deriving DecidableEq, Repr

/-- The bytes of a hash, in memory order. -/
def hashBytes (h : Hash) : List ℕ := (List.range 32).map fun i => h.data.toNat / 256 ^ i % 256

/-- The key's `fee / (double)(tx_weight)`: the 64-bit fee converted to `double`, divided by the
converted weight, each step rounded to nearest. -/
def feePerWeight (fee weight : ℕ) : Binary64.Value :=
  Binary64.div (Binary64.ofNat fee) (Binary64.ofNat weight)

/-- `txCompare`: the tuples `(!is_deregister, -fee_per_weight, receive_time, hash)` compared in
order, so deregistrations first, then the higher fee per weight, the earlier receive time and
the smaller hash bytes. Two fees per weight neither of which is below the other, as with a NaN,
leave the order to the receive time. -/
def txCompare (a b : SortedEntry) : Bool :=
  if a.isDeregister != b.isDeregister then a.isDeregister
  else if Binary64.lt (feePerWeight b.fee b.weight) (feePerWeight a.fee a.weight) then true
  else if Binary64.lt (feePerWeight a.fee a.weight) (feePerWeight b.fee b.weight) then false
  else if a.receiveTime != b.receiveTime then a.receiveTime < b.receiveTime
  else decide (hashBytes a.id < hashBytes b.id)

/-- The order `txCompare` is meant to be: the fees per weight compared exactly, by
cross-multiplying. -/
def txCompareExact (a b : SortedEntry) : Bool :=
  if a.isDeregister != b.isDeregister then a.isDeregister
  else if a.fee * b.weight != b.fee * a.weight then b.fee * a.weight < a.fee * b.weight
  else if a.receiveTime != b.receiveTime then a.receiveTime < b.receiveTime
  else decide (hashBytes a.id < hashBytes b.id)

/-- The `double` order of the source is the exact order for weights below `2 ^ 53` whose cross
products with the fees sum below `2 ^ 53`; beyond that, two fees per weight may round to one
`double`, and the receive time decides. -/
theorem txCompare_eq_txCompareExact {a b : SortedEntry} (ha : 0 < a.weight) (hb : 0 < b.weight)
    (ha53 : a.weight < 2 ^ 53) (hb53 : b.weight < 2 ^ 53)
    (hcross : a.fee * b.weight + b.fee * a.weight < 2 ^ 53) :
    txCompare a b = txCompareExact a b := by
  have hba : Binary64.lt (feePerWeight b.fee b.weight) (feePerWeight a.fee a.weight) =
      decide (b.fee * a.weight < a.fee * b.weight) :=
    Binary64.lt_div_ofNat hb ha hb53 ha53 (by omega)
  have hab : Binary64.lt (feePerWeight a.fee a.weight) (feePerWeight b.fee b.weight) =
      decide (a.fee * b.weight < b.fee * a.weight) :=
    Binary64.lt_div_ofNat ha hb ha53 hb53 hcross
  unfold txCompare txCompareExact
  rw [hba, hab]
  -- the two comparisons of the fees decide what the one test of the exact order does
  by_cases hlt : b.fee * a.weight < a.fee * b.weight
  · simp [hlt, Nat.ne_of_gt hlt]
  · by_cases hgt : a.fee * b.weight < b.fee * a.weight
    · simp [hlt, hgt, Nat.ne_of_lt hgt]
    · have heq : a.fee * b.weight = b.fee * a.weight := by omega
      simp [heq]

/-- `std::set::emplace` into a set in `txCompare` order: an element the order finds equivalent
keeps the set as it is. -/
def emplace (e : SortedEntry) : List SortedEntry → List SortedEntry
  | [] => [e]
  | x :: xs =>
    if txCompare e x then e :: x :: xs
    else if txCompare x e then x :: emplace e xs
    else x :: xs

/-- The members of `tx_memory_pool` and the txpool table they are kept beside. -/
structure TxMemoryPool where
  /-- The txpool table: the metadata and the transaction its blob holds, by txid. -/
  txpool : Map Hash (TxpoolTxMeta × Transaction)
  /-- `m_txs_by_fee_and_receive_time`, in `txCompare` order. -/
  txsByFeeAndReceiveTime : List SortedEntry
  /-- `m_spent_key_images`: the txids spending each key image. -/
  spentKeyImages : Map KeyImage (List Hash)
  /-- `m_txpool_weight`. -/
  txpoolWeight : ℕ
  /-- `m_txpool_max_weight`. -/
  txpoolMaxWeight : ℕ
  /-- `m_timed_out_transactions`. -/
  timedOutTransactions : List Hash

/-- `DEFAULT_TXPOOL_MAX_WEIGHT`. -/
def defaultTxpoolMaxWeight : ℕ := 648000000

/-- The pool the constructor makes over an empty table. -/
def TxMemoryPool.empty : TxMemoryPool := ⟨∅, [], ∅, 0, defaultTxpoolMaxWeight, []⟩

/-- `MEMPOOL_PRUNE_DEREGISTER_LIFETIME`. -/
def mempoolPruneDeregisterLifetime : ℕ := 24 * 60 * 60

/-- `CRYPTONOTE_MEMPOOL_TX_LIVETIME`. -/
def cryptonoteMempoolTxLivetime : ℕ := 86400 * 3

/-- `CRYPTONOTE_MEMPOOL_TX_FROM_ALT_BLOCK_LIVETIME`. -/
def cryptonoteMempoolTxFromAltBlockLivetime : ℕ := 604800

/-- `HF_VERSION_PER_BYTE_FEE`. -/
def hfVersionPerByteFee : ℕ := 100

/-- `CHECKED_GET_SPECIFIC_VARIANT(in, const txin_to_key, ...)`: the key image of an input. -/
def keyImageOf : TxIn → Option KeyImage
  | .toKey _ kImage => some kImage
  | _ => none

/-- `BlockchainDB::txpool_tx_matches_category`: `false` for a txid the table does not hold. -/
def txpoolTxMatchesCategory (p : TxMemoryPool) (id : Hash) (category : RelayCategory) : Bool :=
  match p.txpool.lookup id with
  | some (txMeta, _) => txMeta.matches category
  | none => false

/-! ## Key images -/

/-- `insert_key_images` from an input on; `false` is its `return false`, which keeps what the
earlier inputs and `operator[]` wrote. Only a transaction from a block may share a key image,
and only a move out of the `local` or `stem` state may insert a txid that is there. -/
def insertKeyImages (id : Hash) (txRelay : RelayMethod) :
    TxMemoryPool → List TxIn → TxMemoryPool × Bool
  | p, [] => (p, true)
  | p, input :: inputs =>
    match keyImageOf input with
    | none => (p, false)
    | some kImage =>
      -- `m_spent_key_images[k_image]` creates an empty set for a new key image
      let keiImageSet := (p.spentKeyImages.lookup kImage).getD []
      let p := { p with spentKeyImages := p.spentKeyImages.insert kImage keiImageSet }
      let oneTxid := keiImageSet.isEmpty || keiImageSet == [id]
      if txRelay != .block && !oneTxid then (p, false)
      else
        let inserted := !keiImageSet.contains id
        let p := { p with
          spentKeyImages := p.spentKeyImages.insert kImage
            (if inserted then keiImageSet ++ [id] else keiImageSet) }
        if inserted || !txpoolTxMatchesCategory p id .legacy then
          insertKeyImages id txRelay p inputs
        else (p, false)

/-- `remove_transaction_keyimages` from an input on; `false` is its `return false`. -/
def removeTransactionKeyimages (actualHash : Hash) :
    TxMemoryPool → List TxIn → TxMemoryPool × Bool
  | p, [] => (p, true)
  | p, input :: inputs =>
    match keyImageOf input with
    | none => (p, false)
    | some kImage =>
      match p.spentKeyImages.lookup kImage with
      | none => (p, false)
      | some keyImageSet =>
        if keyImageSet.isEmpty || !keyImageSet.contains actualHash then (p, false)
        else
          let keyImageSet := keyImageSet.erase actualHash
          let p := { p with
            spentKeyImages := if keyImageSet.isEmpty then p.spentKeyImages.erase kImage
              else p.spentKeyImages.insert kImage keyImageSet }
          removeTransactionKeyimages actualHash p inputs

/-- `have_tx_keyimg_as_spent`: another transaction spends the key image, or this one does and is
in a `legacy` state. -/
def haveTxKeyimgAsSpent (p : TxMemoryPool) (keyIm : KeyImage) (txid : Hash) : Bool :=
  match p.spentKeyImages.lookup keyIm with
  | none | some [] => false
  | some [other] => if other != txid then true else txpoolTxMatchesCategory p txid .legacy
  | some _ => true

/-- `have_tx_keyimges_as_spent`: an input that is not `txin_to_key` counts as spent. -/
def haveTxKeyimgesAsSpent (p : TxMemoryPool) (tx : Transaction) (txid : Hash) : Bool :=
  tx.vin.any fun input =>
    match keyImageOf input with
    | none => true
    | some kImage => haveTxKeyimgAsSpent p kImage txid

/-- `have_deregister_tx_already`: a broadcast deregistration in the pool for the same height and
node index. -/
def haveDeregisterTxAlready (p : TxMemoryPool) (tx : Transaction) : Bool :=
  if !tx.isDeregisterTx then false
  else
    match getServiceNodeDeregisterFromTxExtra tx.extra with
    | none => false
    | some deregister =>
      p.txpool.entries.any fun e =>
        e.2.1.matches .broadcasted && e.2.2.isDeregisterTx &&
          match getServiceNodeDeregisterFromTxExtra e.2.2.extra with
          | none => false
          | some poolDeregister =>
            poolDeregister.blockHeight == deregister.blockHeight &&
              poolDeregister.serviceNodeIndex == deregister.serviceNodeIndex

/-- `mark_double_spend`: every transaction spending one of the key images is marked. An input
that is not `txin_to_key` returns before the batch commits, so nothing is marked then. -/
def markDoubleSpend (p : TxMemoryPool) (tx : Transaction) : TxMemoryPool :=
  if !tx.vin.all fun input => (keyImageOf input).isSome then p
  else
    tx.vin.foldl (fun p input =>
      match keyImageOf input with
      | none => p
      | some kImage =>
        ((p.spentKeyImages.lookup kImage).getD []).foldl (fun p txid =>
          match p.txpool.lookup txid with
          | some (txMeta, poolTx) =>
            if !txMeta.doubleSpendSeen then
              { p with txpool := p.txpool.insert txid ({ txMeta with doubleSpendSeen := true }, poolTx) }
            else p
          | none => p) p) p

/-! ## Removal -/

/-- The loop of `prune`, from the back of the sorted set towards its second element. The flag is
`false` when it returns early, before the batch commits. -/
def pruneLoop (now bytes : ℕ) : TxMemoryPool → List SortedEntry → TxMemoryPool × Bool
  | p, [] => (p, true)
  | p, e :: es =>
    if !e.isDeregister || (now : ℤ) - mempoolPruneDeregisterLifetime ≤ e.receiveTime then (p, true)
    else if p.txpoolWeight ≤ bytes then (p, true)
    else
      match p.txpool.lookup e.id with
      | none => (p, false)
      | some (txMeta, tx) =>
        -- transactions kept by a block are never pruned
        if txMeta.keptByBlock then pruneLoop now bytes p es
        else
          let p := { p with
            txpool := p.txpool.erase e.id
            txpoolWeight := p.txpoolWeight - txMeta.weight }
          let p := (removeTransactionKeyimages e.id p tx.vin).1
          pruneLoop now bytes { p with txsByFeeAndReceiveTime := p.txsByFeeAndReceiveTime.erase e } es

/-- `prune`: drop old deregistrations, lowest priority first, while the pool is over `bytes`
(its maximum for 0). An early return leaves the table as it was. -/
def prune (p : TxMemoryPool) (now bytes : ℕ) : TxMemoryPool :=
  let bytes := if bytes = 0 then p.txpoolMaxWeight else bytes
  let r := pruneLoop now bytes p (p.txsByFeeAndReceiveTime.drop 1).reverse
  if r.2 then r.1 else { r.1 with txpool := p.txpool }

/-- `take_tx`: the metadata and transaction of a txid, removed from the pool; `none` when the
table does not hold it. -/
def takeTx (p : TxMemoryPool) (id : Hash) : Option (TxMemoryPool × TxpoolTxMeta × Transaction) :=
  match p.txpool.lookup id with
  | none => none
  | some (txMeta, tx) =>
    let p := { p with txpool := p.txpool.erase id, txpoolWeight := p.txpoolWeight - txMeta.weight }
    let p := (removeTransactionKeyimages id p tx.vin).1
    some ({ p with txsByFeeAndReceiveTime := p.txsByFeeAndReceiveTime.eraseP (·.id == id) }, txMeta, tx)

/-- The test of `remove_stuck_transactions`; the age is taken modulo 2^64, as the `uint64_t`
difference is. -/
def isStuck (now : ℕ) (txMeta : TxpoolTxMeta) : Bool :=
  let txAge := (((now : ℤ) - txMeta.receiveTime) % 2 ^ 64).toNat
  (txAge > cryptonoteMempoolTxLivetime && !txMeta.keptByBlock) ||
    (txAge > cryptonoteMempoolTxFromAltBlockLivetime && txMeta.keptByBlock) ||
    (txMeta.isDeregister && txAge > mempoolPruneDeregisterLifetime)

/-- `remove_stuck_transactions`: time out the stuck transactions, drop their sorted entries,
then remove them from the table with their weights and key images. -/
def removeStuckTransactions (p : TxMemoryPool) (now : ℕ) : TxMemoryPool :=
  let remove := p.txpool.entries.filterMap fun e =>
    if isStuck now e.2.1 then some (e.1, e.2.1.weight) else none
  let p := remove.foldl (fun p r =>
    { p with
      txsByFeeAndReceiveTime := p.txsByFeeAndReceiveTime.eraseP (·.id == r.1)
      timedOutTransactions :=
        if r.1 ∈ p.timedOutTransactions then p.timedOutTransactions
        else p.timedOutTransactions ++ [r.1] }) p
  remove.foldl (fun p r =>
    match p.txpool.lookup r.1 with
    | none => p
    | some (_, tx) =>
      let p := { p with txpool := p.txpool.erase r.1, txpoolWeight := p.txpoolWeight - r.2 }
      (removeTransactionKeyimages r.1 p tx.vin).1) p

/-! ## Adding -/

/-- What one `add_tx` call reads besides the pool: the clock, the fee `get_tx_miner_fee` wrote
(or what the uninitialized `fee` held when it failed), and the blockchain's verdicts. -/
structure AddTxContext where
  /-- `time(nullptr)`. -/
  now : ℕ
  /-- `fee`. -/
  fee : ℕ
  /-- `check_inputs_types_supported(tx)`. -/
  checkInputsTypesSupported : Bool
  /-- `m_blockchain.check_fee(tx_weight, fee)`. -/
  checkFee : Bool
  /-- `get_transaction_weight_limit(version)`. -/
  transactionWeightLimit : ℕ
  /-- `m_blockchain.check_tx_outputs(tx, tvc)`. -/
  checkTxOutputs : Bool
  /-- `check_tx_inputs(...)`. -/
  checkTxInputs : Bool

section Add

variable (ctx : AddTxContext) (tx : Transaction) (id : Hash) (txWeight : ℕ) (relayed : Bool)

/-- The sorted entry `add_tx` emplaces. -/
def sortedEntry : SortedEntry := ⟨tx.isDeregisterTx, ctx.fee, txWeight, ctx.now, id⟩

/-- The branch of `add_tx` for a transaction from a block whose inputs fail the check: insert it
as it is. The table refuses a txid it holds, and the exception makes `add_tx` return `false`. -/
def addKeptByBlock (p : TxMemoryPool) (txRelay : RelayMethod) : TxMemoryPool × Bool :=
  let txMeta := { TxpoolTxMeta.empty with
    weight := txWeight, fee := ctx.fee, receiveTime := ctx.now, relayed
    doubleSpendSeen := haveTxKeyimgesAsSpent p tx id || haveDeregisterTxAlready p tx
    isDeregister := tx.isDeregisterTx }
  let txMeta := txMeta.setRelayMethod txRelay
  let (p, ok) := insertKeyImages id txRelay p tx.vin
  if !ok then (p, false)
  else if id ∈ p.txpool then (p, false)
  else
    ({ p with
      txpool := p.txpool.insert id (txMeta, tx)
      txsByFeeAndReceiveTime := emplace (sortedEntry ctx tx id txWeight) p.txsByFeeAndReceiveTime },
      true)

/-- The branch of `add_tx` for a transaction whose inputs pass: a txid already there is written
again only when its relay method moves up, after a stem loop counts as fluff. -/
def addChecked (p : TxMemoryPool) (txRelay : RelayMethod) : TxMemoryPool × Bool :=
  let existing := p.txpool.lookup id
  let txMeta := match existing with
    | some (txMeta, _) => txMeta
    | none => TxpoolTxMeta.empty.setRelayMethod .none
  let txRelay := if existing.isSome && txRelay == .stem && txMeta.dandelionppStem then .fluff
    else txRelay
  let (txMeta, upgraded) := txMeta.upgradeRelayMethod txRelay
  if upgraded || existing.isNone then
    let txMeta := { txMeta with
      receiveTime := ctx.now, weight := txWeight, fee := ctx.fee, relayed
      doubleSpendSeen := false, isDeregister := tx.isDeregisterTx }
    let (p, ok) := insertKeyImages id txRelay p tx.vin
    if !ok then (p, false)
    else
      ({ p with
        txpool := (p.txpool.erase id).insert id (txMeta, tx)
        txsByFeeAndReceiveTime := emplace (sortedEntry ctx tx id txWeight) p.txsByFeeAndReceiveTime },
        true)
  else (p, true)

/-- `add_tx` up to the weight update: the checks, then one of the two branches. -/
def addTxCore (p : TxMemoryPool) (txRelay : RelayMethod) (version : ℕ) : TxMemoryPool × Bool :=
  let keptByBlock := txRelay == .block
  if tx.version = 0 then (p, false)
  else if !keptByBlock && id ∈ p.timedOutTransactions then (p, false)
  else if !ctx.checkInputsTypesSupported then (p, false)
  else if !keptByBlock && !tx.isDeregisterTx && !ctx.checkFee then (p, false)
  else if (!keptByBlock || version ≥ hfVersionPerByteFee) && txWeight > ctx.transactionWeightLimit then
    (p, false)
  else if !keptByBlock && haveTxKeyimgesAsSpent p tx id then (markDoubleSpend p tx, false)
  else if !keptByBlock && haveDeregisterTxAlready p tx then (markDoubleSpend p tx, false)
  else if !ctx.checkTxOutputs then (p, false)
  else if !ctx.checkTxInputs then
    if keptByBlock then addKeptByBlock ctx tx id txWeight relayed p txRelay else (p, false)
  else addChecked ctx tx id txWeight relayed p txRelay

/-- `tx_memory_pool::add_tx`: on success the weight is counted and the pool pruned to its
maximum. -/
def addTx (p : TxMemoryPool) (txRelay : RelayMethod) (version : ℕ) : TxMemoryPool × Bool :=
  match addTxCore ctx tx id txWeight relayed p txRelay version with
  | (p, true) =>
    let p := { p with txpoolWeight := p.txpoolWeight + txWeight }
    (prune p ctx.now p.txpoolMaxWeight, true)
  | (p, false) => (p, false)

end Add

/-! ## The weight counter across `add_tx` -/

@[simp] theorem TxpoolTxMeta.setRelayMethod_weight (txMeta : TxpoolTxMeta) (method : RelayMethod) :
    (txMeta.setRelayMethod method).weight = txMeta.weight := by
  cases method <;> rfl

/-- `insert_key_images` writes `m_spent_key_images` and nothing else: any view of the pool that
ignores that member is kept. -/
theorem insertKeyImages_keeps {α : Type} (g : TxMemoryPool → α)
    (hg : ∀ p s, g { p with spentKeyImages := s } = g p) (id : Hash) (txRelay : RelayMethod) :
    ∀ (p : TxMemoryPool) (inputs : List TxIn), g (insertKeyImages id txRelay p inputs).1 = g p
  | p, [] => rfl
  | p, input :: inputs => by
    rw [insertKeyImages]
    split
    · rfl
    · dsimp only
      -- the split also cases on whether the txid was inserted, which the view ignores
      split_ifs
      all_goals first
        | exact (hg _ _).trans (hg _ _)
        | exact (insertKeyImages_keeps g hg id txRelay _ inputs).trans ((hg _ _).trans (hg _ _))

@[simp] theorem insertKeyImages_txpool (id : Hash) (txRelay : RelayMethod) (p : TxMemoryPool)
    (inputs : List TxIn) : (insertKeyImages id txRelay p inputs).1.txpool = p.txpool :=
  insertKeyImages_keeps TxMemoryPool.txpool (fun _ _ => rfl) id txRelay p inputs

@[simp] theorem insertKeyImages_txpoolWeight (id : Hash) (txRelay : RelayMethod) (p : TxMemoryPool)
    (inputs : List TxIn) : (insertKeyImages id txRelay p inputs).1.txpoolWeight = p.txpoolWeight :=
  insertKeyImages_keeps TxMemoryPool.txpoolWeight (fun _ _ => rfl) id txRelay p inputs

@[simp] theorem insertKeyImages_txpoolMaxWeight (id : Hash) (txRelay : RelayMethod)
    (p : TxMemoryPool) (inputs : List TxIn) :
    (insertKeyImages id txRelay p inputs).1.txpoolMaxWeight = p.txpoolMaxWeight :=
  insertKeyImages_keeps TxMemoryPool.txpoolMaxWeight (fun _ _ => rfl) id txRelay p inputs

/-- What `insert_key_images` returns is the pool with only its key images rewritten. -/
theorem insertKeyImages_frame {id : Hash} {txRelay : RelayMethod} {p q : TxMemoryPool}
    {inputs : List TxIn} {ok : Bool} (hk : insertKeyImages id txRelay p inputs = (q, ok)) :
    q.txpool = p.txpool ∧ q.txpoolWeight = p.txpoolWeight ∧ q.txpoolMaxWeight = p.txpoolMaxWeight := by
  refine ⟨?_, ?_, ?_⟩
  · rw [← insertKeyImages_txpool id txRelay p inputs, hk]
  · rw [← insertKeyImages_txpoolWeight id txRelay p inputs, hk]
  · rw [← insertKeyImages_txpoolMaxWeight id txRelay p inputs, hk]

section Add

variable (ctx : AddTxContext) (tx : Transaction) (id : Hash) (txWeight : ℕ) (relayed : Bool)
variable {p p' : TxMemoryPool} {txRelay : RelayMethod}

/-- The block branch succeeds only for a txid the table lacks, and writes it with the weight. -/
theorem addKeptByBlock_success (hadd : addKeptByBlock ctx tx id txWeight relayed p txRelay = (p', true)) :
    p'.txpoolWeight = p.txpoolWeight ∧ p'.txpoolMaxWeight = p.txpoolMaxWeight ∧
      ∃ txMeta : TxpoolTxMeta, txMeta.weight = txWeight ∧
        p'.txpool = (p.txpool.erase id).insert id (txMeta, tx) := by
  unfold addKeptByBlock at hadd
  generalize hk : insertKeyImages id txRelay p tx.vin = r at hadd
  obtain ⟨q, ok⟩ := r
  obtain ⟨hq, hqw, hqmax⟩ := insertKeyImages_frame hk
  dsimp only at hadd
  split_ifs at hadd with hok hmem
  · cases hadd
  · cases hadd
  · cases hadd
    have hfresh : p.txpool.erase id = p.txpool :=
      erase_of_lookup_eq_none (AList.lookup_eq_none.mpr (hq ▸ hmem))
    refine ⟨hqw, hqmax, _, ?_, by rw [hfresh, hq]⟩
    exact TxpoolTxMeta.setRelayMethod_weight _ _

/-- The checked branch either keeps the pool, for a txid the table holds whose relay method does
not move up, or writes the txid with the weight. -/
theorem addChecked_success (hadd : addChecked ctx tx id txWeight relayed p txRelay = (p', true)) :
    p'.txpoolWeight = p.txpoolWeight ∧ p'.txpoolMaxWeight = p.txpoolMaxWeight ∧
      ((id ∈ p.txpool ∧ p'.txpool = p.txpool) ∨
        ∃ txMeta : TxpoolTxMeta, txMeta.weight = txWeight ∧
          p'.txpool = (p.txpool.erase id).insert id (txMeta, tx)) := by
  unfold addChecked at hadd
  -- the relay after the stem-loop test stays a local definition, so it splits nothing
  extract_lets existing txMeta₀ relay at hadd
  split at hadd
  split_ifs at hadd with hwrite
  · generalize hk : insertKeyImages id relay p tx.vin = r at hadd
    obtain ⟨q, ok⟩ := r
    obtain ⟨hq, hqw, hqmax⟩ := insertKeyImages_frame hk
    dsimp only at hadd
    split_ifs at hadd
    · cases hadd
    · cases hadd
      exact ⟨hqw, hqmax, .inr ⟨_, rfl, by rw [hq]⟩⟩
  · -- no upgrade for a txid that is there: the call returns true and writes nothing
    cases hadd
    have hsome : existing ≠ none := by
      simp only [Bool.or_eq_true, Option.isNone_iff_eq_none, not_or] at hwrite
      exact hwrite.2
    exact ⟨rfl, rfl, .inl ⟨AList.lookup_isSome.mp (Option.isSome_iff_ne_none.mpr hsome), rfl⟩⟩

/-- A branch that returns false on a failed check: a call that succeeds took the other one. -/
theorem of_ite_fail {c : Prop} [Decidable c] {q r : TxMemoryPool × Bool} {p' : TxMemoryPool}
    (hq : q.2 = false) (h : (if c then q else r) = (p', true)) : r = (p', true) := by
  split at h
  · rw [h] at hq
    cases hq
  · exact h

/-- A successful `add_tx` body leaves the two weights alone and either keeps the table, for a
txid it holds, or writes the txid with the new weight. -/
theorem addTxCore_success {version : ℕ}
    (hadd : addTxCore ctx tx id txWeight relayed p txRelay version = (p', true)) :
    p'.txpoolWeight = p.txpoolWeight ∧ p'.txpoolMaxWeight = p.txpoolMaxWeight ∧
      ((id ∈ p.txpool ∧ p'.txpool = p.txpool) ∨
        ∃ txMeta : TxpoolTxMeta, txMeta.weight = txWeight ∧
          p'.txpool = (p.txpool.erase id).insert id (txMeta, tx)) := by
  unfold addTxCore at hadd
  extract_lets keptByBlock at hadd
  -- each of the eight checks before the inputs' returns false when it fails
  iterate 8 replace hadd := of_ite_fail rfl hadd
  split at hadd
  · split at hadd
    · obtain ⟨hw, hmax, txMeta, hweight, htable⟩ := addKeptByBlock_success ctx tx id txWeight relayed hadd
      exact ⟨hw, hmax, .inr ⟨txMeta, hweight, htable⟩⟩
    · cases hadd
  · exact addChecked_success ctx tx id txWeight relayed hadd

/-- A successful `add_tx` is its body's success, then the weight update and the prune. -/
theorem addTx_eq_of_success {version : ℕ}
    (hadd : (addTx ctx tx id txWeight relayed p txRelay version).2 = true) :
    ∃ q, addTxCore ctx tx id txWeight relayed p txRelay version = (q, true) ∧
      (addTx ctx tx id txWeight relayed p txRelay version).1 =
        prune { q with txpoolWeight := q.txpoolWeight + txWeight } ctx.now q.txpoolMaxWeight := by
  unfold addTx at hadd ⊢
  rcases h : addTxCore ctx tx id txWeight relayed p txRelay version with ⟨q, _ | _⟩
  · rw [h] at hadd
    exact absurd hadd Bool.false_ne_true
  · exact ⟨q, rfl, rfl⟩

end Add

/-- The loop of `prune` stops at once while the pool is within `bytes`. -/
theorem pruneLoop_of_le {now bytes : ℕ} {p : TxMemoryPool} (h : p.txpoolWeight ≤ bytes) :
    ∀ sorted, pruneLoop now bytes p sorted = (p, true)
  | [] => rfl
  | _ :: _ => by rw [pruneLoop, if_pos h, ite_self]

/-- `prune` to the maximum changes nothing in a pool within its maximum. -/
theorem prune_of_le {p : TxMemoryPool} (now : ℕ) (h : p.txpoolWeight ≤ p.txpoolMaxWeight) :
    prune p now p.txpoolMaxWeight = p := by
  have hbytes : p.txpoolWeight ≤ if p.txpoolMaxWeight = 0 then p.txpoolMaxWeight
      else p.txpoolMaxWeight := by
    rw [ite_self]
    exact h
  simp only [prune, pruneLoop_of_le hbytes, if_true]

/-! ## Bookkeeping -/

/-- The sum of `meta.weight` over the table. -/
def txpoolTotalWeight (p : TxMemoryPool) : ℕ := total (fun entry => entry.1.weight) p.txpool

/-- The weight the table holds for a txid; 0 when it does not hold it. -/
def storedWeight (p : TxMemoryPool) (id : Hash) : ℕ :=
  ((p.txpool.lookup id).map fun entry => entry.1.weight).getD 0

/-- What the pool's four structures are meant to keep together: one sorted entry for each txid
of the table and none for another, the counter at the table's total weight, and for each key
image exactly the txids of the table that spend it, with no empty set kept. -/
structure Bookkeeping (p : TxMemoryPool) : Prop where
  sorted : ∀ id, (p.txsByFeeAndReceiveTime.filter (·.id == id)).length =
    if id ∈ p.txpool then 1 else 0
  weight : p.txpoolWeight = txpoolTotalWeight p
  keyImages : ∀ kImage id, id ∈ (p.spentKeyImages.lookup kImage).getD [] ↔
    ∃ entry, p.txpool.lookup id = some entry ∧ some kImage ∈ entry.2.vin.map keyImageOf
  nonempty : ∀ kImage, p.spentKeyImages.lookup kImage ≠ some []

/-- The pool the constructor makes keeps its bookkeeping. -/
theorem bookkeeping_empty : Bookkeeping TxMemoryPool.empty where
  sorted _ := by simp [TxMemoryPool.empty]
  weight := rfl
  keyImages _ _ := by simp [TxMemoryPool.empty]
  nonempty _ := by simp [TxMemoryPool.empty]

section Readd

variable {ctx : AddTxContext} {tx : Transaction} {id : Hash} {txWeight : ℕ} {relayed : Bool}
variable {p : TxMemoryPool} {txRelay : RelayMethod} {version : ℕ}

/-- Adding a txid the table holds counts a weight twice. When the call keeps the table the new
weight is counted on top of it; when it writes the txid the old entry's weight leaves the table
but stays in the counter. Below the maximum `prune` does nothing to undo either. -/
theorem addTx_readd_overcounts (hb : p.txpoolWeight = txpoolTotalWeight p)
    (hstored : 0 < storedWeight p id) (hw : 0 < txWeight)
    (hmax : p.txpoolWeight + txWeight ≤ p.txpoolMaxWeight)
    (hadd : (addTx ctx tx id txWeight relayed p txRelay version).2 = true) :
    txpoolTotalWeight (addTx ctx tx id txWeight relayed p txRelay version).1 <
      (addTx ctx tx id txWeight relayed p txRelay version).1.txpoolWeight := by
  obtain ⟨q, hcore, hp'⟩ := addTx_eq_of_success ctx tx id txWeight relayed hadd
  obtain ⟨hqw, hqmax, hq⟩ := addTxCore_success ctx tx id txWeight relayed hcore
  have hprune : prune { q with txpoolWeight := q.txpoolWeight + txWeight } ctx.now q.txpoolMaxWeight =
      { q with txpoolWeight := q.txpoolWeight + txWeight } :=
    prune_of_le ctx.now (by dsimp only; omega)
  rw [hp', hprune]
  obtain ⟨entry, hentry⟩ : ∃ entry, p.txpool.lookup id = some entry := by
    cases h : p.txpool.lookup id with
    | none => simp [storedWeight, h] at hstored
    | some entry => exact ⟨entry, rfl⟩
  have hold : txpoolTotalWeight p = entry.1.weight + total (fun e => e.1.weight) (p.txpool.erase id) :=
    total_of_lookup _ hentry
  have hpos : 0 < entry.1.weight := by simpa [storedWeight, hentry] using hstored
  rcases hq with ⟨-, htable⟩ | ⟨txMeta, hweight, htable⟩
  · -- the table is kept and the new weight counted on top
    have hsame : txpoolTotalWeight q = txpoolTotalWeight p := by rw [txpoolTotalWeight, htable]; rfl
    show txpoolTotalWeight q < q.txpoolWeight + txWeight
    omega
  · -- the written entry's weight replaces the old one's in the table, not in the counter
    have hnew : txpoolTotalWeight q = txWeight + total (fun e => e.1.weight) (p.txpool.erase id) := by
      rw [txpoolTotalWeight, htable, total_erase_insert, hweight]
    show txpoolTotalWeight q < q.txpoolWeight + txWeight
    omega

end Readd

/-- A transaction with one key input, as the wallet relays it in the `stem` state. -/
def stemTx : Transaction := ⟨2, 0, [.toKey 0 ⟨1⟩], [], [], [], false, .simple⟩

/-- Its txid. -/
def stemTxId : Hash := ⟨7⟩

/-- A call of `add_tx` for an ordinary transaction whose checks all pass, at time `now`: a fee of
1000 on a weight of 500, and inputs whose ring signatures verify. -/
def passingContext (now : ℕ) : AddTxContext := ⟨now, 1000, true, true, 100000, true, true⟩

/-- The pool the constructor makes, after the transaction arrives in the `stem` state. -/
def stemAdded : TxMemoryPool × Bool :=
  addTx (passingContext 100) stemTx stemTxId 500 false TxMemoryPool.empty .stem 12

/-- Then after it arrives again as `fluff`. -/
def fluffReadded : TxMemoryPool × Bool :=
  addTx (passingContext 200) stemTx stemTxId 500 false stemAdded.1 .fluff 12

/-- The transaction arrives in the `stem` state and then again as `fluff`, from the pool the
constructor makes. Both calls succeed; the second leaves two sorted entries for the txid and a
counter of twice the table's weight. -/
theorem readded_stem_tx_counted_twice :
    Bookkeeping TxMemoryPool.empty ∧ stemAdded.2 = true ∧ fluffReadded.2 = true ∧
      txpoolTotalWeight fluffReadded.1 = 500 ∧ fluffReadded.1.txpoolWeight = 1000 ∧
      (fluffReadded.1.txsByFeeAndReceiveTime.filter (·.id == stemTxId)).length = 2 ∧
      ¬ Bookkeeping fluffReadded.1 := by
  have hrun : stemAdded.2 = true ∧ fluffReadded.2 = true ∧ txpoolTotalWeight fluffReadded.1 = 500 ∧
      fluffReadded.1.txpoolWeight = 1000 ∧
      (fluffReadded.1.txsByFeeAndReceiveTime.filter (·.id == stemTxId)).length = 2 := by
    decide +kernel
  -- the first call leaves a pool whose counter is right, holding the txid with weight 500
  have hfirst : stemAdded.1.txpoolWeight = txpoolTotalWeight stemAdded.1 ∧
      0 < storedWeight stemAdded.1 stemTxId ∧
      stemAdded.1.txpoolWeight + 500 ≤ stemAdded.1.txpoolMaxWeight := by
    decide +kernel
  have hover : txpoolTotalWeight fluffReadded.1 < fluffReadded.1.txpoolWeight :=
    addTx_readd_overcounts hfirst.1 hfirst.2.1 (by decide) hfirst.2.2 hrun.2.1
  exact ⟨bookkeeping_empty, hrun.1, hrun.2.1, hrun.2.2.1, hrun.2.2.2.1, hrun.2.2.2.2,
    fun h => absurd h.weight (ne_of_gt hover)⟩

/-! ## Pruning -/

/-- The loop of `prune` stops at once at an entry that is not a deregistration. -/
theorem pruneLoop_of_ordinary {now bytes : ℕ} {p : TxMemoryPool} {e : SortedEntry}
    (he : e.isDeregister = false) (es : List SortedEntry) :
    pruneLoop now bytes p (e :: es) = (p, true) := by
  rw [pruneLoop, if_pos (by simp [he])]

/-- `prune` removes nothing while the lowest-priority entry is an ordinary transaction: its
loop starts there and stops on the first entry that is not an old deregistration, which
`txCompare` sorts after every deregistration. -/
theorem prune_of_lowest_ordinary {p : TxMemoryPool} (now bytes : ℕ)
    (hlow : ∀ e ∈ (p.txsByFeeAndReceiveTime.drop 1).getLast?, e.isDeregister = false) :
    prune p now bytes = p := by
  have hloop : pruneLoop now (if bytes = 0 then p.txpoolMaxWeight else bytes) p
      (p.txsByFeeAndReceiveTime.drop 1).reverse = (p, true) := by
    cases hrev : (p.txsByFeeAndReceiveTime.drop 1).reverse with
    | nil => rfl
    | cons e es =>
      have hlast : (p.txsByFeeAndReceiveTime.drop 1).getLast? = some e := by
        rw [← List.head?_reverse, hrev]
        rfl
      exact pruneLoop_of_ordinary (hlow e hlast) es
  simp only [prune, hloop, if_true]

/-- A second transaction, with its own key image. -/
def ordinaryTx : Transaction := ⟨2, 0, [.toKey 0 ⟨2⟩], [], [], [], false, .simple⟩

/-- Its txid. -/
def ordinaryTxId : Hash := ⟨8⟩

/-- The pool the constructor makes, after two ordinary transactions of weight 500 arrive as
`fluff`. -/
def twoOrdinary : TxMemoryPool :=
  (addTx (passingContext 200) ordinaryTx ordinaryTxId 500 false
    (addTx (passingContext 100) stemTx stemTxId 500 false TxMemoryPool.empty .fluff 12).1
    .fluff 12).1

/-- `prune(600)` on a pool of weight 1000 holding two ordinary transactions removes nothing: the
pool stays over the limit with an ordinary transaction, not kept by a block, after the first. -/
theorem prune_leaves_pool_over_limit :
    twoOrdinary.txpoolWeight = 1000 ∧ prune twoOrdinary 300 600 = twoOrdinary ∧
      600 < (prune twoOrdinary 300 600).txpoolWeight ∧
      ∃ e ∈ (prune twoOrdinary 300 600).txsByFeeAndReceiveTime.drop 1,
        e.isDeregister = false ∧
          ((prune twoOrdinary 300 600).txpool.lookup e.id).any (!·.1.keptByBlock) := by
  have hpool : twoOrdinary.txpoolWeight = 1000 ∧
      (∀ e ∈ (twoOrdinary.txsByFeeAndReceiveTime.drop 1).getLast?, e.isDeregister = false) ∧
      ∃ e ∈ twoOrdinary.txsByFeeAndReceiveTime.drop 1, e.isDeregister = false ∧
        (twoOrdinary.txpool.lookup e.id).any (!·.1.keptByBlock) := by
    decide +kernel
  have hprune : prune twoOrdinary 300 600 = twoOrdinary := prune_of_lowest_ordinary 300 600 hpool.2.1
  rw [hprune]
  exact ⟨hpool.1, rfl, by rw [hpool.1]; decide, hpool.2.2⟩

end Equilibria.TxPool
