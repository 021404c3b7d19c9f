import Equilibria.TxPool
import Equilibria.BlockReward
import Equilibria.DeregisterVotes

/-!
# Filling a block template

`tx_memory_pool::fill_block_template` walks the pool's sorted set, best first, and takes every
transaction that fits the block's weight, does not lower the miner's reward (from version 5;
before, the walk stops once the block passes the median), is ready to go on the chain and spends
no key image a transaction taken before spends.

`size_t` and `uint64_t` are 64 bits wide: the weight and fee counters and the coinbase are
`UInt64`, and the table's weights and fees are read into them as the 64-bit fields they are.
`is_transaction_ready_to_go` asks the blockchain about the transaction's inputs and, for a
deregistration, its age; its verdict is a parameter, as is the `pruned` flag of the table's
metadata. The metadata it rewrites on failure is not read again by the walk.

A deregistration has no inputs, so the key-image check cannot keep it from being taken twice:
distinct txids rest on the sorted set holding one entry per txid, which a transaction that
arrives in the `stem` state and again as `fluff` breaks.
-/

namespace Equilibria.TxPoolFill

open CryptonoteBasic MapJournal BlockReward TxPool ServiceNodeState DeregisterVotes

/-- `CRYPTONOTE_COINBASE_BLOB_RESERVED_SIZE`. -/
def cryptonoteCoinbaseBlobReservedSize : UInt64 := 600

/-- What `fill_block_template` reads besides the pool's members. -/
structure FillContext where
  /-- `meta.pruned` of each txid in the table. -/
  pruned : Hash → Bool
  /-- `is_transaction_ready_to_go` of a txid and the transaction its blob holds; an exception
  counts as not ready, as the caller's `catch` leaves `ready` false. -/
  isTransactionReadyToGo : Hash → Transaction → Bool
  /-- `m_mine_stem_txes`. -/
  mineStemTxes : Bool

/-- `have_key_images`: an input's key image is in the set; the first input that is not
`txin_to_key` ends the search with `false`. -/
def haveKeyImages (kImages : List KeyImage) : List TxIn → Bool
  | [] => false
  | input :: inputs =>
    match keyImageOf input with
    | none => false
    | some kImage => if kImage ∈ kImages then true else haveKeyImages kImages inputs

/-- `append_key_images`: insert the inputs' key images until an input that is not
`txin_to_key`, or one already in the set. -/
def appendKeyImages (kImages : List KeyImage) : List TxIn → List KeyImage
  | [] => kImages
  | input :: inputs =>
    match keyImageOf input with
    | none => kImages
    | some kImage =>
      if kImage ∈ kImages then kImages else appendKeyImages (kImages ++ [kImage]) inputs

/-- The variables `fill_block_template` updates as it walks the sorted set. -/
structure FillState where
  /-- `bl.tx_hashes`, from the template's empty list. -/
  txHashes : List Hash
  /-- `total_weight`. -/
  totalWeight : UInt64
  /-- `fee`. -/
  fee : UInt64
  /-- `best_coinbase`. -/
  bestCoinbase : UInt64
  /-- `coinbase`, which keeps the value of the last pass that computed it. -/
  coinbase : UInt64
  /-- `k_images`. -/
  kImages : List KeyImage

/-- The end of a pass: a transaction that is ready to go and spends no key image taken before is
added to the template, with `best_coinbase` set to the pass's `coinbase`. -/
def takeIfReady (ctx : FillContext) (id : Hash) (txMeta : TxpoolTxMeta) (tx : Transaction)
    (s : FillState) : FillState :=
  if !ctx.isTransactionReadyToGo id tx then s
  else if haveKeyImages s.kImages tx.vin then s
  else
    { s with
      txHashes := s.txHashes ++ [id]
      totalWeight := s.totalWeight + UInt64.ofNat txMeta.weight
      fee := s.fee + UInt64.ofNat txMeta.fee
      bestCoinbase := s.coinbase
      kImages := appendKeyImages s.kImages tx.vin }

/-- The loop of `fill_block_template` over the sorted set. -/
def fillLoop (ctx : FillContext) (p : TxMemoryPool) (medianWeight alreadyGeneratedCoins : UInt64)
    (version : ℕ) (maxTotalWeight : UInt64) : List SortedEntry → FillState → FillState
  | [], s => s
  | e :: es, s =>
    match p.txpool.lookup e.id with
    | none => fillLoop ctx p medianWeight alreadyGeneratedCoins version maxTotalWeight es s
    | some (txMeta, tx) =>
      if !txMeta.matches .legacy && !(ctx.mineStemTxes && txMeta.getRelayMethod == .stem) then
        fillLoop ctx p medianWeight alreadyGeneratedCoins version maxTotalWeight es s
      else if ctx.pruned e.id then
        fillLoop ctx p medianWeight alreadyGeneratedCoins version maxTotalWeight es s
      else if maxTotalWeight < s.totalWeight + UInt64.ofNat txMeta.weight then
        fillLoop ctx p medianWeight alreadyGeneratedCoins version maxTotalWeight es s
      else if version ≥ serviceNodeVersion then
        -- the reward of the block with the transaction, as `get_triton_block_reward` computes
        -- it for an empty `miner_reward_context` on mainnet
        match getTritonBlockReward medianWeight (s.totalWeight + UInt64.ofNat txMeta.weight)
            alreadyGeneratedCoins version ⟨0, 0, []⟩ .mainnet with
        | none => fillLoop ctx p medianWeight alreadyGeneratedCoins version maxTotalWeight es s
        | some rewardPartsOther =>
          let coinbase := rewardPartsOther.baseMiner + s.fee + UInt64.ofNat txMeta.fee
          if coinbase < s.bestCoinbase then
            fillLoop ctx p medianWeight alreadyGeneratedCoins version maxTotalWeight es
              { s with coinbase }
          else
            fillLoop ctx p medianWeight alreadyGeneratedCoins version maxTotalWeight es
              (takeIfReady ctx e.id txMeta tx { s with coinbase })
      -- before version 5 the walk stops once the block is past the median
      else if s.totalWeight > medianWeight then s
      else
        fillLoop ctx p medianWeight alreadyGeneratedCoins version maxTotalWeight es
          (takeIfReady ctx e.id txMeta tx s)

/-- `fill_block_template`: the txids for the template, `total_weight`, `fee` and
`expected_reward`; `none` when the reward of an empty block cannot be computed. -/
def fillBlockTemplate (ctx : FillContext) (p : TxMemoryPool)
    (medianWeight alreadyGeneratedCoins : UInt64) (version : ℕ) :
    Option (List Hash × UInt64 × UInt64 × UInt64) := do
  let rewardParts ←
    getTritonBlockReward medianWeight 0 alreadyGeneratedCoins version ⟨0, 0, []⟩ .mainnet
  let bestCoinbase := rewardParts.baseMiner
  let maxTotalWeightPreV5 := (130 * medianWeight) / 100 - cryptonoteCoinbaseBlobReservedSize
  let maxTotalWeightV5 := 2 * medianWeight - cryptonoteCoinbaseBlobReservedSize
  let maxTotalWeight := if version ≥ 5 then maxTotalWeightV5 else maxTotalWeightPreV5
  let s := fillLoop ctx p medianWeight alreadyGeneratedCoins version maxTotalWeight
    p.txsByFeeAndReceiveTime ⟨[], 0, 0, bestCoinbase, 0, []⟩
  pure (s.txHashes, s.totalWeight, s.fee, s.bestCoinbase)

/-! ## What the walk takes -/

/-- The fee of a txid in the table, read into 64 bits. -/
def tableFee (p : TxMemoryPool) (id : Hash) : UInt64 :=
  ((p.txpool.lookup id).map fun entry => UInt64.ofNat entry.1.fee).getD 0

/-- The weight of a txid in the table, read into 64 bits. -/
def tableWeight (p : TxMemoryPool) (id : Hash) : UInt64 :=
  ((p.txpool.lookup id).map fun entry => UInt64.ofNat entry.1.weight).getD 0

/-- From `s` to `s'` the walk took the entries `taken`, in order: each is a transaction of the
table that is ready to go, and its txid, fee and weight are counted. -/
def Took (ctx : FillContext) (p : TxMemoryPool) (s s' : FillState) (taken : List SortedEntry) :
    Prop :=
  (∀ e ∈ taken, ∃ txMeta tx, p.txpool.lookup e.id = some (txMeta, tx) ∧
    ctx.isTransactionReadyToGo e.id tx = true) ∧
  s'.txHashes = s.txHashes ++ taken.map (·.id) ∧
  s'.fee = s.fee + (taken.map fun e => tableFee p e.id).sum ∧
  s'.totalWeight = s.totalWeight + (taken.map fun e => tableWeight p e.id).sum

section Took

variable {ctx : FillContext} {p : TxMemoryPool}

theorem Took.refl (s : FillState) : Took ctx p s s [] := by
  simp [Took]

theorem Took.trans {s₁ s₂ s₃ : FillState} {taken₁ taken₂ : List SortedEntry}
    (h₁ : Took ctx p s₁ s₂ taken₁) (h₂ : Took ctx p s₂ s₃ taken₂) :
    Took ctx p s₁ s₃ (taken₁ ++ taken₂) := by
  obtain ⟨hready₁, hids₁, hfee₁, hweight₁⟩ := h₁
  obtain ⟨hready₂, hids₂, hfee₂, hweight₂⟩ := h₂
  refine ⟨fun e he => ?_, ?_, ?_, ?_⟩
  · rcases List.mem_append.mp he with he | he
    · exact hready₁ e he
    · exact hready₂ e he
  · rw [hids₂, hids₁, List.map_append, List.append_assoc]
  · rw [hfee₂, hfee₁, List.map_append, List.sum_append, UInt64.add_assoc]
  · rw [hweight₂, hweight₁, List.map_append, List.sum_append, UInt64.add_assoc]

/-- A change of `coinbase` alone takes nothing. -/
theorem Took.of_coinbase {s s' : FillState} {taken : List SortedEntry} (coinbase : UInt64)
    (h : Took ctx p { s with coinbase } s' taken) : Took ctx p s s' taken := h

/-- The end of a pass takes the entry or nothing. -/
theorem takeIfReady_took {e : SortedEntry} {txMeta : TxpoolTxMeta} {tx : Transaction}
    (hlookup : p.txpool.lookup e.id = some (txMeta, tx)) (s : FillState) :
    Took ctx p s (takeIfReady ctx e.id txMeta tx s) [] ∨
      Took ctx p s (takeIfReady ctx e.id txMeta tx s) [e] := by
  unfold takeIfReady
  by_cases hready : ctx.isTransactionReadyToGo e.id tx = true
  · by_cases hkeys : haveKeyImages s.kImages tx.vin = true
    · simp only [hready, hkeys, Bool.not_true, Bool.false_eq_true, if_false, if_true]
      exact Or.inl (Took.refl s)
    · simp only [hready, hkeys, Bool.not_true, Bool.false_eq_true, if_false]
      refine Or.inr ⟨fun e' he' => ?_, rfl, ?_, ?_⟩
      · rw [List.mem_singleton.mp he']
        exact ⟨txMeta, tx, hlookup, hready⟩
      · simp [tableFee, hlookup]
      · simp [tableWeight, hlookup]
  · simp only [hready, Bool.not_false, if_true]
    exact Or.inl (Took.refl s)

end Took

/-- The end of a pass leaves `total_weight` as it was or adds the transaction's weight. -/
theorem takeIfReady_totalWeight (ctx : FillContext) (id : Hash) (txMeta : TxpoolTxMeta)
    (tx : Transaction) (s : FillState) :
    (takeIfReady ctx id txMeta tx s).totalWeight = s.totalWeight ∨
      (takeIfReady ctx id txMeta tx s).totalWeight = s.totalWeight + UInt64.ofNat txMeta.weight := by
  unfold takeIfReady
  split_ifs
  · exact Or.inl rfl
  · exact Or.inl rfl
  · exact Or.inr rfl

/-- What a pass of the walk that goes on does to the variables: it sets `coinbase`, or it ends
on an entry of the table whose weight, added in 64 bits, is within the limit. A pass that skips
the entry sets `coinbase` to its own value. -/
def FillStep (ctx : FillContext) (p : TxMemoryPool) (maxTotalWeight : UInt64) (e : SortedEntry)
    (s s' : FillState) : Prop :=
  (∃ coinbase, s' = { s with coinbase }) ∨
    ∃ txMeta tx coinbase, p.txpool.lookup e.id = some (txMeta, tx) ∧
      ¬ maxTotalWeight < s.totalWeight + UInt64.ofNat txMeta.weight ∧
      s' = takeIfReady ctx e.id txMeta tx { s with coinbase }

section Step

variable {ctx : FillContext} {p : TxMemoryPool} {maxTotalWeight : UInt64}

/-- A pass takes its entry or nothing. -/
theorem FillStep.took {e : SortedEntry} {s s' : FillState}
    (h : FillStep ctx p maxTotalWeight e s s') : Took ctx p s s' [] ∨ Took ctx p s s' [e] := by
  rcases h with ⟨coinbase, rfl⟩ | ⟨txMeta, tx, coinbase, hlookup, -, rfl⟩
  · exact .inl (Took.of_coinbase coinbase (Took.refl _))
  · rcases takeIfReady_took hlookup { s with coinbase } with hnone | hone
    · exact .inl (Took.of_coinbase coinbase hnone)
    · exact .inr (Took.of_coinbase coinbase hone)

/-- A pass keeps `total_weight` within the limit. -/
theorem FillStep.totalWeight_le {e : SortedEntry} {s s' : FillState}
    (h : FillStep ctx p maxTotalWeight e s s') (hs : s.totalWeight ≤ maxTotalWeight) :
    s'.totalWeight ≤ maxTotalWeight := by
  rcases h with ⟨coinbase, rfl⟩ | ⟨txMeta, tx, coinbase, -, hfit, rfl⟩
  · exact hs
  · rcases takeIfReady_totalWeight ctx e.id txMeta tx { s with coinbase } with h | h
    · rw [h]
      exact hs
    · rw [h]
      exact UInt64.not_lt.mp hfit

end Step

/-- One pass of the walk over the sorted set: it stops with the variables as they are (before
version 5, past the median), or it steps to the rest of the set. -/
theorem fillLoop_cons (ctx : FillContext) (p : TxMemoryPool)
    (medianWeight alreadyGeneratedCoins : UInt64) (version : ℕ) (maxTotalWeight : UInt64)
    (e : SortedEntry) (es : List SortedEntry) (s : FillState) :
    fillLoop ctx p medianWeight alreadyGeneratedCoins version maxTotalWeight (e :: es) s = s ∨
      ∃ s', FillStep ctx p maxTotalWeight e s s' ∧
        fillLoop ctx p medianWeight alreadyGeneratedCoins version maxTotalWeight (e :: es) s =
          fillLoop ctx p medianWeight alreadyGeneratedCoins version maxTotalWeight es s' := by
  -- a pass that skips the entry steps to the same variables
  have hskip : ∃ s', FillStep ctx p maxTotalWeight e s s' ∧
      fillLoop ctx p medianWeight alreadyGeneratedCoins version maxTotalWeight es s =
        fillLoop ctx p medianWeight alreadyGeneratedCoins version maxTotalWeight es s' :=
    ⟨s, .inl ⟨s.coinbase, rfl⟩, rfl⟩
  rw [fillLoop.eq_2]
  split
  · exact .inr hskip
  · rename_i txMeta tx hlookup
    split_ifs with _ _ hfit
    · exact .inr hskip
    · exact .inr hskip
    · exact .inr hskip
    · split
      · exact .inr hskip
      · dsimp only
        split_ifs
        · exact .inr ⟨_, .inl ⟨_, rfl⟩, rfl⟩
        · exact .inr ⟨_, .inr ⟨txMeta, tx, _, hlookup, hfit, rfl⟩, rfl⟩
    · exact .inl rfl
    · exact .inr ⟨_, .inr ⟨txMeta, tx, s.coinbase, hlookup, hfit, rfl⟩, rfl⟩

/-- Whatever the walk does, it takes a sublist of the sorted set: ready transactions of the table,
each counted once for every entry it took. -/
theorem fillLoop_took (ctx : FillContext) (p : TxMemoryPool)
    (medianWeight alreadyGeneratedCoins : UInt64) (version : ℕ) (maxTotalWeight : UInt64) :
    ∀ (entries : List SortedEntry) (s : FillState), ∃ taken : List SortedEntry, taken.Sublist entries ∧
      Took ctx p s (fillLoop ctx p medianWeight alreadyGeneratedCoins version maxTotalWeight
        entries s) taken
  | [], s => ⟨[], List.Sublist.slnil, Took.refl s⟩
  | e :: es, s => by
    rcases fillLoop_cons ctx p medianWeight alreadyGeneratedCoins version maxTotalWeight e es s with
      hstop | ⟨s', hstep, hrest⟩
    · rw [hstop]
      exact ⟨[], List.nil_sublist _, Took.refl s⟩
    · obtain ⟨taken, hsub, htook⟩ := fillLoop_took ctx p medianWeight alreadyGeneratedCoins
        version maxTotalWeight es s'
      rw [hrest]
      rcases hstep.took with hnone | hone
      · exact ⟨taken, hsub.cons e, by simpa using hnone.trans htook⟩
      · exact ⟨e :: taken, hsub.cons_cons e, by simpa using hone.trans htook⟩

/-- What a template holds: the txids of a sublist of the sorted set, each a ready transaction of
the table, with `fee` and `total_weight` their sums in 64 bits. -/
theorem fillBlockTemplate_took {ctx : FillContext} {p : TxMemoryPool}
    {medianWeight alreadyGeneratedCoins : UInt64} {version : ℕ}
    {txHashes : List Hash} {totalWeight fee expectedReward : UInt64}
    (h : fillBlockTemplate ctx p medianWeight alreadyGeneratedCoins version =
      some (txHashes, totalWeight, fee, expectedReward)) :
    ∃ taken : List SortedEntry, taken.Sublist p.txsByFeeAndReceiveTime ∧
      (∀ e ∈ taken, ∃ txMeta tx, p.txpool.lookup e.id = some (txMeta, tx) ∧
        ctx.isTransactionReadyToGo e.id tx = true) ∧
      txHashes = taken.map (·.id) ∧ fee = (taken.map fun e => tableFee p e.id).sum ∧
      totalWeight = (taken.map fun e => tableWeight p e.id).sum := by
  simp only [fillBlockTemplate, Option.bind_eq_bind, Option.bind_eq_some_iff, Option.pure_def,
    Option.some.injEq, Prod.mk.injEq] at h
  obtain ⟨rewardParts, -, hhashes, hweight, hfee, -⟩ := h
  obtain ⟨taken, hsub, hready, hids, hfees, hweights⟩ := fillLoop_took ctx p medianWeight
    alreadyGeneratedCoins version _ p.txsByFeeAndReceiveTime ⟨[], 0, 0, rewardParts.baseMiner, 0, []⟩
  refine ⟨taken, hsub, hready, ?_, ?_, ?_⟩
  · rw [← hhashes, hids, List.nil_append]
  · rw [← hfee, hfees, UInt64.zero_add]
  · rw [← hweight, hweights, UInt64.zero_add]

/-- The walk keeps `total_weight` within the limit: a pass reaches its end only after the test
that the transaction's weight fits, in the same 64-bit sum that the end adds. -/
theorem fillLoop_totalWeight_le (ctx : FillContext) (p : TxMemoryPool)
    (medianWeight alreadyGeneratedCoins : UInt64) (version : ℕ) (maxTotalWeight : UInt64) :
    ∀ (entries : List SortedEntry) (s : FillState), s.totalWeight ≤ maxTotalWeight →
      (fillLoop ctx p medianWeight alreadyGeneratedCoins version maxTotalWeight entries s).totalWeight ≤
        maxTotalWeight
  | [], _, hs => hs
  | e :: es, s, hs => by
    rcases fillLoop_cons ctx p medianWeight alreadyGeneratedCoins version maxTotalWeight e es s with
      hstop | ⟨s', hstep, hrest⟩
    · rw [hstop]
      exact hs
    · rw [hrest]
      exact fillLoop_totalWeight_le ctx p medianWeight alreadyGeneratedCoins version maxTotalWeight
        es s' (hstep.totalWeight_le hs)

/-- What a template holds when the sorted set has one entry per txid, as the pool means to keep:
distinct txids, each of a ready transaction of the table, with `fee` and `total_weight` the
64-bit sums of their fees and weights, and `total_weight` within the version's limit. -/
theorem fillBlockTemplate_distinct_ready {ctx : FillContext} {p : TxMemoryPool}
    {medianWeight alreadyGeneratedCoins : UInt64} {version : ℕ}
    {txHashes : List Hash} {totalWeight fee expectedReward : UInt64}
    (hsorted : (p.txsByFeeAndReceiveTime.map (·.id)).Nodup)
    (h : fillBlockTemplate ctx p medianWeight alreadyGeneratedCoins version =
      some (txHashes, totalWeight, fee, expectedReward)) :
    txHashes.Nodup ∧
      (∀ id ∈ txHashes, ∃ txMeta tx, p.txpool.lookup id = some (txMeta, tx) ∧
        ctx.isTransactionReadyToGo id tx = true) ∧
      fee = (txHashes.map (tableFee p)).sum ∧ totalWeight = (txHashes.map (tableWeight p)).sum ∧
      totalWeight ≤ if version ≥ 5 then 2 * medianWeight - cryptonoteCoinbaseBlobReservedSize
        else (130 * medianWeight) / 100 - cryptonoteCoinbaseBlobReservedSize := by
  obtain ⟨taken, hsub, hready, rfl, hfee, hweight⟩ := fillBlockTemplate_took h
  refine ⟨hsorted.sublist (hsub.map _), ?_, by rw [hfee, List.map_map]; rfl,
    by rw [hweight, List.map_map]; rfl, ?_⟩
  · intro id hid
    obtain ⟨e, he, rfl⟩ := List.mem_map.mp hid
    exact hready e he
  · -- the returned weight is the walk's, which starts at zero
    simp only [fillBlockTemplate, Option.bind_eq_bind, Option.bind_eq_some_iff, Option.pure_def,
      Option.some.injEq, Prod.mk.injEq] at h
    obtain ⟨rewardParts, -, -, hweight', -, -⟩ := h
    rw [← hweight']
    exact fillLoop_totalWeight_le ctx p medianWeight alreadyGeneratedCoins version _ _ _
      UInt64.zero_le

theorem readyChain_twoOrdinary_distinct_ready :
    (twoOrdinary.txsByFeeAndReceiveTime.map (·.id)).Nodup ∧
      fillBlockTemplate ⟨fun _ => false, fun _ _ => true, false⟩ twoOrdinary 1000000 1000000 12 =
        some ([stemTxId, ordinaryTxId], 1000, 2000, 97368) ∧
      ([stemTxId, ordinaryTxId].Nodup ∧
        (∀ id ∈ [stemTxId, ordinaryTxId], ∃ txMeta tx, twoOrdinary.txpool.lookup id = some (txMeta, tx) ∧
          (⟨fun _ => false, fun _ _ => true, false⟩ : FillContext).isTransactionReadyToGo id tx = true) ∧
        (2000 : UInt64) = ([stemTxId, ordinaryTxId].map (tableFee twoOrdinary)).sum ∧
        (1000 : UInt64) = ([stemTxId, ordinaryTxId].map (tableWeight twoOrdinary)).sum ∧
        (1000 : UInt64) ≤ if 12 ≥ 5 then 2 * 1000000 - cryptonoteCoinbaseBlobReservedSize
          else (130 * 1000000) / 100 - cryptonoteCoinbaseBlobReservedSize) := by
  have hsorted : (twoOrdinary.txsByFeeAndReceiveTime.map (·.id)).Nodup := by decide +kernel
  have hfill : fillBlockTemplate ⟨fun _ => false, fun _ _ => true, false⟩ twoOrdinary 1000000
      1000000 12 = some ([stemTxId, ordinaryTxId], 1000, 2000, 97368) := by
    decide +kernel
  exact ⟨hsorted, hfill, fillBlockTemplate_distinct_ready hsorted hfill⟩

/-- The walk reads the blockchain's verdicts only for the txids of the entries it passes, and
for the transactions the table holds for them. -/
theorem fillLoop_congr {ctx ctx' : FillContext} {p : TxMemoryPool}
    {medianWeight alreadyGeneratedCoins : UInt64} {version : ℕ} {maxTotalWeight : UInt64}
    (hstem : ctx.mineStemTxes = ctx'.mineStemTxes) :
    ∀ (entries : List SortedEntry) (s : FillState),
      (∀ e ∈ entries, ∀ txMeta tx, p.txpool.lookup e.id = some (txMeta, tx) →
        ctx.pruned e.id = ctx'.pruned e.id ∧
          ctx.isTransactionReadyToGo e.id tx = ctx'.isTransactionReadyToGo e.id tx) →
      fillLoop ctx p medianWeight alreadyGeneratedCoins version maxTotalWeight entries s =
        fillLoop ctx' p medianWeight alreadyGeneratedCoins version maxTotalWeight entries s
  | [], _, _ => rfl
  | e :: es, s, hagree => by
    have ih : ∀ s, fillLoop ctx p medianWeight alreadyGeneratedCoins version maxTotalWeight es s =
        fillLoop ctx' p medianWeight alreadyGeneratedCoins version maxTotalWeight es s :=
      fun s => fillLoop_congr hstem es s fun e' he' => hagree e' (List.mem_cons_of_mem e he')
    simp only [fillLoop]
    cases hlookup : p.txpool.lookup e.id with
    | none => exact ih s
    | some entry =>
      obtain ⟨txMeta, tx⟩ := entry
      obtain ⟨hpruned, hready⟩ := hagree e List.mem_cons_self txMeta tx hlookup
      simp only [hstem, hpruned, takeIfReady, hready, ih]

/-- `fill_block_template` reads the blockchain's verdicts only for the sorted set's txids. -/
theorem fillBlockTemplate_congr {ctx ctx' : FillContext} {p : TxMemoryPool}
    (medianWeight alreadyGeneratedCoins : UInt64) (version : ℕ)
    (hstem : ctx.mineStemTxes = ctx'.mineStemTxes)
    (hagree : ∀ e ∈ p.txsByFeeAndReceiveTime, ∀ txMeta tx, p.txpool.lookup e.id = some (txMeta, tx) →
      ctx.pruned e.id = ctx'.pruned e.id ∧
        ctx.isTransactionReadyToGo e.id tx = ctx'.isTransactionReadyToGo e.id tx) :
    fillBlockTemplate ctx p medianWeight alreadyGeneratedCoins version =
      fillBlockTemplate ctx' p medianWeight alreadyGeneratedCoins version := by
  simp only [fillBlockTemplate, fillLoop_congr hstem _ _ hagree]

/-! ## A deregistration taken twice -/

/-- The deregistration of the tested node of `tenVoterQuorum` at height 10, with the signed votes
of its first seven voters, as `add_vote` writes it. -/
def sevenVoteDeregister : TxExtraServiceNodeDeregister :=
  ⟨10, 0, (List.range 7).map fun i => ⟨keySignature (fixtureKey i), i.toUInt32⟩⟩

/-- A deregistration transaction: version 3, no inputs, and the deregistration in its extra. -/
def deregisterTx : Transaction :=
  ⟨3, 0, [], [], [.serviceNodeDeregister sevenVoteDeregister], [], true, .null⟩

/-- Its txid. -/
def deregisterTxId : Hash := ⟨9⟩

/-- The verdict of `Blockchain::check_tx_inputs` on the deregistration, with no fee, on a chain at
height 11 and hard fork 12 that holds `tenVoterQuorum` for height 10 and no deregistration since. -/
def deregisterInputsVerdict : Bool :=
  checkDeregisterTxInputs signerCrypto (fun height => if height = 10 then some tenVoterQuorum else none)
    12 11 (fun _ _ => some []) 0 deregisterTx

/-- A call of `add_tx` for the deregistration at time `now`: no fee, the transaction checks pass,
and the inputs' verdict is the chain's. -/
def deregisterContext (now : ℕ) : AddTxContext :=
  ⟨now, 0, true, true, 100000, true, deregisterInputsVerdict⟩

/-- The pool the constructor makes, after the deregistration arrives in the `stem` state. -/
def deregisterStemAdded : TxMemoryPool × Bool :=
  addTx (deregisterContext 100) deregisterTx deregisterTxId 500 false TxMemoryPool.empty .stem 12

/-- Then after it arrives again as `fluff`. -/
def deregisterFluffReadded : TxMemoryPool × Bool :=
  addTx (deregisterContext 200) deregisterTx deregisterTxId 500 false deregisterStemAdded.1 .fluff 12

/-- A deregistration with seven signed votes and no fee, which `verify_deregister` and the chain's
input check accept, arrives in the `stem` state and again as `fluff`. It is accepted both times,
and a template filled at version 12 takes it twice, counting its weight twice, whenever the
blockchain finds it ready to go. -/
theorem deregistration_taken_twice (ctx : FillContext)
    (hready : ctx.isTransactionReadyToGo deregisterTxId deregisterTx = true)
    (hpruned : ctx.pruned deregisterTxId = false) :
    verifyDeregister signerCrypto sevenVoteDeregister tenVoterQuorum = .ok () ∧
      deregisterInputsVerdict = true ∧
      deregisterStemAdded.2 = true ∧ deregisterFluffReadded.2 = true ∧
      fillBlockTemplate ctx deregisterFluffReadded.1 1000000 1000000 12 =
        some ([deregisterTxId, deregisterTxId], 1000, 0, 95368) := by
  have hchecks : verifyDeregister signerCrypto sevenVoteDeregister tenVoterQuorum = .ok () ∧
      deregisterInputsVerdict = true := by
    decide +kernel
  have hadds : deregisterStemAdded.2 = true ∧ deregisterFluffReadded.2 = true := by
    decide +kernel
  -- the two sorted entries are both the deregistration's, which the table holds
  have hentries : ∀ e ∈ deregisterFluffReadded.1.txsByFeeAndReceiveTime, e.id = deregisterTxId := by
    decide +kernel
  have htable : (deregisterFluffReadded.1.txpool.lookup deregisterTxId).map Prod.snd =
      some deregisterTx := by
    decide +kernel
  have hfill : ∀ mineStemTxes, fillBlockTemplate ⟨fun _ => false, fun _ _ => true, mineStemTxes⟩
      deregisterFluffReadded.1 1000000 1000000 12 =
        some ([deregisterTxId, deregisterTxId], 1000, 0, 95368) := by
    decide +kernel
  refine ⟨hchecks.1, hchecks.2, hadds.1, hadds.2, ?_⟩
  rw [@fillBlockTemplate_congr ctx ⟨fun _ => false, fun _ _ => true, ctx.mineStemTxes⟩
    deregisterFluffReadded.1 1000000 1000000 12 rfl ?_, hfill]
  intro e he txMeta tx hlookup
  rw [hentries e he] at hlookup ⊢
  rw [hlookup, Option.map_some, Option.some.injEq] at htable
  subst htable
  exact ⟨hpruned, hready⟩

/-- The blockchain that finds every transaction ready and none pruned. -/
theorem readyChain_deregistration_taken_twice :
    (⟨fun _ => false, fun _ _ => true, false⟩ : FillContext).isTransactionReadyToGo
        deregisterTxId deregisterTx = true ∧
      (⟨fun _ => false, fun _ _ => true, false⟩ : FillContext).pruned deregisterTxId = false ∧
      verifyDeregister signerCrypto sevenVoteDeregister tenVoterQuorum = .ok () ∧
      deregisterInputsVerdict = true ∧
      deregisterStemAdded.2 = true ∧ deregisterFluffReadded.2 = true ∧
      fillBlockTemplate ⟨fun _ => false, fun _ _ => true, false⟩ deregisterFluffReadded.1 1000000
        1000000 12 = some ([deregisterTxId, deregisterTxId], 1000, 0, 95368) :=
  ⟨rfl, rfl, deregistration_taken_twice _ rfl rfl⟩

end Equilibria.TxPoolFill
