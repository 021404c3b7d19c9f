import Equilibria.BlockReward
import Equilibria.ServiceNodeList

/-!
# Miner transactions

`construct_miner_tx` of `cryptonote_tx_utils.cpp`, which builds the coinbase transaction of a
block template, and the checks a block's coinbase goes through: `prevalidate_miner_transaction`
and `validate_miner_transaction` of `blockchain.cpp`, with the `validate_miner_tx` hook of the
service-node list, which checks the winner's outputs.

The coinbase pays the miner at output 0, the winner's portions of the service nodes' share at
outputs `1 + i` to keys derived from a key pair fixed by the height, and the governance amount
at the last output. The producer adds the governance output when `cryptonote::allow_governance`
gives an amount; the validator checks the last output when `Blockchain::allow_governance`, a
list of heights of its own, says so.

A check can also go wrong instead of returning: `vout[i]` and `vout.back()` past the end of the
outputs are undefined behaviour, `boost::get` of the wrong alternative throws `boost::bad_get`,
and `unordered_map::at` of a missing key throws `std::out_of_range`. These are the faults of
`Fault`. The fields of `extra` are modelled as parsed; the byte encoding is not.
-/

namespace Equilibria.MinerTx

open CryptonoteBasic IntUtil ServiceNodeRules ServiceNodeState ServiceNodeList BlockReward

/-- `keypair`. -/
structure Keypair where
  /-- `pub`. -/
  pub : PublicKey
  /-- `sec`. -/
  sec : SecretKey
  deriving DecidableEq, Repr

/-- What the miner-transaction code reads besides the service-node list. -/
structure MinerEnv where
  /-- `m_nettype`. -/
  nettype : NetworkType
  /-- The cryptographic primitives. -/
  crypto : Crypto
  /-- The public key `generate_keys` computes for a given secret key. -/
  secretKeyToPublicKey : SecretKey → PublicKey
  /-- `get_config(nettype).GOVERNANCE_WALLET_ADDRESS`, as `get_account_address_from_str`
  parses it. -/
  governanceWalletAddress : NetworkType → AccountPublicAddress
  /-- `get_config(nettype).BRIDGE_WALLET_ADDRESS`, parsed likewise. -/
  bridgeWalletAddress : NetworkType → AccountPublicAddress

/-- How a check goes wrong instead of returning. -/
inductive Fault
  /-- An output read past the end of `vout`: undefined behaviour. -/
  | pastEnd
  /-- `boost::get` of an alternative the variant does not hold: `boost::bad_get`. -/
  | badGet
  /-- `unordered_map::at` of a missing key: `std::out_of_range`. -/
  | missingKey
  deriving DecidableEq, Repr

/-- `TX_EXTRA_NONCE_MAX_COUNT`. -/
def txExtraNonceMaxCount : ℕ := 255

/-- `HF_VERSION_MIN_V2_COINBASE_TX`. -/
def hfVersionMinV2CoinbaseTx : ℕ := 100

/-- `HF_VERSION_REJECT_SIGS_IN_COINBASE`. -/
def hfVersionRejectSigsInCoinbase : ℕ := 100

/-- `transaction::set_null`: what a default-constructed transaction holds. -/
def defaultTransaction : Transaction := ⟨1, 0, [], [], [], [], false, .null⟩

/-! ## Keys -/

/-- `get_deterministic_keypair_from_height`: the secret key is the eight bytes of the height,
little-endian, then zeros. -/
def getDeterministicKeypairFromHeight (menv : MinerEnv) (height : ℕ) : Keypair :=
  let sec : SecretKey := ⟨BitVec.ofNat 256 (height % 2 ^ 64)⟩
  ⟨menv.secretKeyToPublicKey sec, sec⟩

/-- `get_deterministic_output_key`: the one-time key of output `outputIndex` to `address`. -/
def getDeterministicOutputKey (crypto : Crypto) (address : AccountPublicAddress) (txKey : Keypair)
    (outputIndex : ℕ) : Option PublicKey := do
  let derivation ← crypto.generateKeyDerivation address.viewPublicKey txKey.sec
  crypto.derivePublicKey derivation outputIndex address.spendPublicKey

/-- `validate_governance_reward_key`, for the wallet address its string parses to. -/
def validateGovernanceRewardKey (menv : MinerEnv) (height : ℕ)
    (governanceWalletAddress : AccountPublicAddress) (outputIndex : ℕ) (outputKey : PublicKey) :
    Bool :=
  match getDeterministicOutputKey menv.crypto governanceWalletAddress
      (getDeterministicKeypairFromHeight menv height) outputIndex with
  | none => false
  | some correctKey => correctKey = outputKey

/-! ## Extra fields -/

/-- `add_tx_pub_key_to_extra`. -/
def addTxPubKeyToExtra (extra : List TxExtraField) (txPubKey : PublicKey) : List TxExtraField :=
  extra ++ [.pubKey txPubKey]

/-- `add_extra_nonce_to_tx_extra`: at most `TX_EXTRA_NONCE_MAX_COUNT` bytes. -/
def addExtraNonceToTxExtra (extra : List TxExtraField) (extraNonce : List UInt8) :
    Option (List TxExtraField) :=
  if extraNonce.length ≤ txExtraNonceMaxCount then some (extra ++ [.nonce extraNonce]) else none

/-- `add_service_node_winner_to_tx_extra`. -/
def addServiceNodeWinnerToTxExtra (extra : List TxExtraField) (winner : PublicKey) :
    List TxExtraField :=
  extra ++ [.serviceNodeWinner winner]

/-- The place of a field's kind in the order `sort_tx_extra` picks the kinds in. -/
def sortRank : TxExtraField → ℕ
  | .pubKey _ => 0
  | .additionalPubKeys _ => 1
  | .nonce _ => 2
  | .mergeMiningTag _ _ => 3
  | .mysteriousMinergate _ => 4
  | .padding _ => 5
  | .serviceNodeRegister _ => 6
  | .serviceNodeDeregister _ => 7
  | .serviceNodeWinner _ => 8
  | .serviceNodeContributor _ => 9
  | .serviceNodePubkey _ => 10
  | .txSecretKey _ => 11
  | .burn _ => 12
  | .contractInfo _ => 13
  | .memo _ => 14

/-- `sort_tx_extra` on parsed fields: the fields of each kind in turn, each kind in its order.
Every kind is picked, so it never fails. -/
def sortTxExtra (extra : List TxExtraField) : List TxExtraField :=
  (List.range 15).flatMap fun rank => extra.filter (sortRank · = rank)

/-! ## Building the coinbase -/

/-- `miner_tx_context`. -/
structure MinerTxContext where
  /-- `nettype`. -/
  nettype : NetworkType
  /-- `snode_winner_key`. -/
  snodeWinnerKey : PublicKey
  /-- `snode_winner_info`. -/
  snodeWinnerInfo : List (AccountPublicAddress × UInt64)
  deriving DecidableEq, Repr

/-- The service-node loop of `construct_miner_tx` from portion `i` on: output `1 + i` pays the
portion's share of `total` to the key `get_deterministic_output_key` derives from the
height's key pair. -/
def serviceNodeOutputs (crypto : Crypto) (snKey : Keypair) (total : UInt64) :
    ℕ → List (AccountPublicAddress × UInt64) → Option (List TxOut)
  | _, [] => some []
  | i, (address, portions) :: rest => do
    let outEphPublicKey ← getDeterministicOutputKey crypto address snKey (1 + i)
    let outs ← serviceNodeOutputs crypto snKey total (i + 1) rest
    some (⟨getPortionOfReward portions total, .toKey outEphPublicKey⟩ :: outs)

/-- The `extra` of the coinbase: the drawn transaction key, the extra nonce, sorted; then the
height's public key once coins have been generated, and the winner. -/
def minerTxExtra (txPubKey : PublicKey) (extraNonce : List UInt8) (snPubKey : PublicKey)
    (alreadyGeneratedCoins : UInt64) (winner : PublicKey) : Option (List TxExtraField) := do
  let extra := addTxPubKeyToExtra [] txPubKey
  let extra ← if extraNonce.isEmpty then some extra else addExtraNonceToTxExtra extra extraNonce
  let extra := sortTxExtra extra
  let extra := if alreadyGeneratedCoins ≠ 0 then addTxPubKeyToExtra extra snPubKey else extra
  some (addServiceNodeWinnerToTxExtra extra winner)

/-- The service-node block of `construct_miner_tx`: from `SERVICE_NODE_VERSION` on, an output
for each portion, from index 1. -/
def serviceNodeRewardOutputs (crypto : Crypto) (snKey : Keypair) (hardForkVersion : ℕ)
    (total : UInt64) (serviceNodeInfo : List (AccountPublicAddress × UInt64)) :
    Option (List TxOut) :=
  if hardForkVersion ≥ serviceNodeVersion then serviceNodeOutputs crypto snKey total 0 serviceNodeInfo
  else some []

/-- The governance block of `construct_miner_tx`: from version 7, when there is a governance
amount, an output of it at `outputIndex` to the governance wallet, the bridge wallet from
version 11 on. -/
def governanceOutputs (menv : MinerEnv) (nettype : NetworkType) (snKey : Keypair)
    (hardForkVersion : ℕ) (governance : UInt64) (outputIndex : ℕ) : Option (List TxOut) :=
  if hardForkVersion ≥ 7 ∧ governance > 0 then do
    let governanceWalletAddress := if hardForkVersion < 11 then
      menv.governanceWalletAddress nettype else menv.bridgeWalletAddress nettype
    let key ← getDeterministicOutputKey menv.crypto governanceWalletAddress snKey outputIndex
    some [⟨governance, .toKey key⟩]
  else some []

/-- `construct_miner_tx` into `tx`, with `txkey` the key pair `keypair::generate` draws; `none`
is returning false. The miner's output comes first, then the service nodes', then the
governance output, and their total must be the reward's. -/
def constructMinerTx (menv : MinerEnv) (height : ℕ)
    (medianSize alreadyGeneratedCoins currentBlockSize fee : UInt64)
    (minerAddress : AccountPublicAddress) (tx : Transaction) (extraNonce : List UInt8)
    (hardForkVersion : ℕ) (minerContext : MinerTxContext) (txkey : Keypair) :
    Option Transaction := do
  let version := if hardForkVersion ≥ serviceNodeVersion then 3
    else if hardForkVersion = 4 then 2 else 1
  let nettype := minerContext.nettype
  let serviceNodeInfo := if minerContext.snodeWinnerInfo.isEmpty then nullWinner
    else minerContext.snodeWinnerInfo
  let snKey := getDeterministicKeypairFromHeight menv height
  let extra ← minerTxExtra txkey.pub extraNonce snKey.pub alreadyGeneratedCoins
    minerContext.snodeWinnerKey
  let rewardParts ← getTritonBlockReward medianSize currentBlockSize alreadyGeneratedCoins
    hardForkVersion ⟨height, fee, minerContext.snodeWinnerInfo⟩ nettype
  let minerKey ← getDeterministicOutputKey menv.crypto minerAddress txkey 0
  let serviceNodeOuts ← serviceNodeRewardOutputs menv.crypto snKey hardForkVersion
    rewardParts.serviceNodeTotal serviceNodeInfo
  let vout : List TxOut := ⟨rewardParts.minerReward, .toKey minerKey⟩ :: serviceNodeOuts
  let governanceOuts ← governanceOutputs menv nettype snKey hardForkVersion rewardParts.governance
    vout.length
  let vout := vout ++ governanceOuts
  let summaryAmounts := vout.foldl (fun summary out => summary + out.amount) 0
  let expectedAmount :=
    rewardParts.minerReward + rewardParts.governance + rewardParts.serviceNodePaid
  if summaryAmounts ≠ expectedAmount then none
  let unlockTime := UInt64.ofNat (height + cryptonoteMinedMoneyUnlockWindow)
  some { tx with
    version
    vin := [.gen height]
    vout
    extra
    outputUnlockTimes := vout.map fun _ => unlockTime
    isDeregister := false
    unlockTime }

/-! ## Checking a coinbase -/

/-- The loop of `check_outs_overflow` from the running total `money` on. -/
def checkOutsOverflowFrom (money : UInt64) : List TxOut → Bool
  | [] => true
  | o :: os => if money > o.amount + money then false else checkOutsOverflowFrom (money + o.amount) os

/-- `check_outs_overflow`: adding up the outputs never wraps. -/
def checkOutsOverflow (tx : Transaction) : Bool := checkOutsOverflowFrom 0 tx.vout

/-- `Blockchain::prevalidate_miner_transaction`. -/
def prevalidateMinerTransaction (b : Block) (height hfVersion : ℕ) : Bool :=
  if height = 0 then true
  else
    match b.minerTx.vin with
    | [.gen inHeight] =>
      (b.minerTx.version > 1 || hfVersion < hfVersionMinV2CoinbaseTx) &&
        (!(hfVersion ≥ hfVersionRejectSigsInCoinbase && b.minerTx.version ≥ 2) ||
          b.minerTx.rctType == .null) &&
        inHeight == height &&
        b.minerTx.unlockTime == UInt64.ofNat (height + cryptonoteMinedMoneyUnlockWindow) &&
        checkOutsOverflow b.minerTx
    | _ => false

/-- `vout[i]`. -/
def voutAt (vout : List TxOut) (i : ℕ) : Except Fault TxOut :=
  match vout[i]? with
  | some out => .ok out
  | none => .error .pastEnd

/-- `vout.back()`. -/
def voutBack (vout : List TxOut) : Except Fault TxOut :=
  match vout.getLast? with
  | some out => .ok out
  | none => .error .pastEnd

/-- `boost::get<txout_to_key>(target).key`. -/
def toKeyOf : TxOutTarget → Except Fault PublicKey
  | .toKey key => .ok key
  | _ => .error .badGet

/-- The output loop of `service_node_list::validate_miner_tx` from portion `i` on: output
`i + 1` pays the portion's share of `total` to the key derived from the height's key pair. -/
def checkServiceNodeOutputs (menv : MinerEnv) (vout : List TxOut) (total : UInt64) (height : ℕ) :
    ℕ → List (AccountPublicAddress × UInt64) → Except Fault Bool
  | _, [] => .ok true
  | i, (address, portions) :: rest => do
    let voutIndex := i + 1
    let reward := getPortionOfReward portions total
    let out ← voutAt vout voutIndex
    if out.amount ≠ reward then return false
    match out.target with
    | .toKey key =>
      let govKey := getDeterministicKeypairFromHeight menv height
      match getDeterministicOutputKey menv.crypto address govKey voutIndex with
      | none => return false
      | some outEphPublicKey =>
        if key ≠ outEphPublicKey then return false
        checkServiceNodeOutputs menv vout total height (i + 1) rest
    | _ => return false

/-- `service_node_list::validate_miner_tx`: the winner named in `extra`, and the winner's
outputs. The guard compares `vout.size() - 1` in 64-bit `size_t`. -/
def validateMinerTx (menv : MinerEnv) (ctx : Context) (s : ServiceNodeList)
    (minerTx : Transaction) (height hardForkVersion : ℕ) (rewardParts : BlockRewardParts) :
    Except Fault Bool :=
  if hardForkVersion < 5 then .ok true
  else
    let baseReward := rewardParts.adjustedBaseReward
    let totalServiceNodeReward := serviceNodeRewardFormula baseReward hardForkVersion
    let winner := selectWinner ctx s
    if getServiceNodeWinnerFromTxExtra minerTx.extra ≠ winner then .ok false
    else
      match getWinnerAddressesAndPortions ctx s height with
      | none => .error .missingKey
      | some addressesAndPortions =>
        if (UInt64.ofNat minerTx.vout.length - 1).toNat < addressesAndPortions.length then
          .ok false
        else
          checkServiceNodeOutputs menv minerTx.vout totalServiceNodeReward height 0
            addressesAndPortions

/-- `Blockchain::allow_governance`: the heights at which the validator checks a governance
output. -/
def blockchainAllowGovernance (nettype : NetworkType) (height : ℕ) : Bool :=
  match nettype with
  | .mainnet =>
    let forkHeight := 352846
    height = forkHeight || height = forkHeight + 21600 || height = forkHeight + 2 * 21600 ||
      height = forkHeight + 3 * 21600 || height = forkHeight + 4 * 21600 ||
      height = forkHeight + 5 * 21600 || height = forkHeight + 6 * 21600 ||
      height = 663269 || height = 800000
  | .testnet =>
    let forkHeight := 3750
    height = forkHeight || height = forkHeight + 216 || height = forkHeight + 2 * 216 ||
      height = forkHeight + 3 * 216 || height = forkHeight + 4 * 216 ||
      height = forkHeight + 5 * 216 || height = forkHeight + 6 * 216
  | _ => false

/-- The governance check of `validate_miner_transaction`: from version 7, at the heights of
`Blockchain::allow_governance`, the last output pays the governance amount to the key derived
for the wallet of the version. -/
def checkGovernanceOutput (menv : MinerEnv) (height version : ℕ) (rewardParts : BlockRewardParts)
    (vout : List TxOut) : Except Fault Bool :=
  if version ≥ 7 ∧ blockchainAllowGovernance menv.nettype height then do
    let last ← voutBack vout
    if last.amount ≠ rewardParts.governance then return false
    let key ← toKeyOf last.target
    let governanceWalletAddress := if version < 11 then
      menv.governanceWalletAddress menv.nettype else menv.bridgeWalletAddress menv.nettype
    return validateGovernanceRewardKey menv height governanceWalletAddress (vout.length - 1) key
  else .ok true

/-- `Blockchain::validate_miner_transaction` for block `b` on a chain of `dbHeight` blocks,
under the median weight the version selects and the current hard-fork version: whether it
accepts, and the values it leaves in `base_reward` and `partial_block_reward`. The reward is
computed with no winner; the hook recomputes the service nodes' share. -/
def validateMinerTransaction (menv : MinerEnv) (ctx : Context) (s : ServiceNodeList)
    (dbHeight : ℕ) (medianWeight : UInt64) (currentVersion : ℕ) (b : Block)
    (cumulativeBlockWeight fee baseReward alreadyGeneratedCoins : UInt64) (version : ℕ) :
    Except Fault (Bool × UInt64 × Bool) := do
  let moneyInUse := b.minerTx.vout.foldl (fun money o => money + o.amount) 0
  if version = 1 then return (true, baseReward, false)
  let some rewardParts := getTritonBlockReward medianWeight cumulativeBlockWeight
      alreadyGeneratedCoins version ⟨b.height, fee, []⟩ menv.nettype
    | return (false, baseReward, false)
  let hookAccepts ← validateMinerTx menv ctx s b.minerTx dbHeight version rewardParts
  if !hookAccepts then return (false, baseReward, false)
  let baseReward := rewardParts.originalBaseReward
  let governanceAccepts ← checkGovernanceOutput menv dbHeight version rewardParts b.minerTx.vout
  if !governanceAccepts then return (false, baseReward, false)
  if baseReward + fee < moneyInUse then return (false, baseReward, false)
  if currentVersion < 2 then return (baseReward + fee = moneyInUse, baseReward, false)
  if ¬ moneyInUse - fee ≤ baseReward then return (false, baseReward, false)
  return (true, moneyInUse - fee, baseReward + fee ≠ moneyInUse)

/-! ## What the functions compute -/

theorem mem_sortTxExtra {extra : List TxExtraField} {field : TxExtraField} :
    field ∈ sortTxExtra extra ↔ field ∈ extra := by
  simp only [sortTxExtra, List.mem_flatMap, List.mem_range, List.mem_filter, decide_eq_true_eq]
  constructor
  · rintro ⟨_, _, hmem, _⟩
    exact hmem
  · intro hmem
    refine ⟨sortRank field, ?_, hmem, rfl⟩
    cases field <;> simp [sortRank]

theorem getServiceNodeWinnerFromTxExtra_append {extra : List TxExtraField} {winner : PublicKey}
    (hextra : ∀ key, .serviceNodeWinner key ∉ extra) :
    getServiceNodeWinnerFromTxExtra (addServiceNodeWinnerToTxExtra extra winner) = winner := by
  simp only [getServiceNodeWinnerFromTxExtra, addServiceNodeWinnerToTxExtra, List.findSome?_append]
  rw [List.findSome?_eq_none_iff.mpr fun field hfield => ?_]
  · simp
  · cases field with
    | serviceNodeWinner key => exact absurd hfield (hextra key)
    | _ => rfl

theorem checkOutsOverflowFrom_eq_true_iff :
    ∀ (money : UInt64) (vout : List TxOut), checkOutsOverflowFrom money vout = true ↔
      money.toNat + (vout.map fun o => o.amount.toNat).sum < 2 ^ 64
  | money, [] => by
    simp only [checkOutsOverflowFrom, List.map_nil, List.sum_nil, Nat.add_zero, true_iff]
    exact money.toNat_lt
  | money, o :: os => by
    -- the check fails exactly when adding the output wraps
    have hwrap : money > o.amount + money ↔ 2 ^ 64 ≤ money.toNat + o.amount.toNat := by
      rw [gt_iff_lt, UInt64.lt_iff_toNat_lt, UInt64.toNat_add]
      have := money.toNat_lt
      have := o.amount.toNat_lt
      omega
    simp only [checkOutsOverflowFrom, List.map_cons, List.sum_cons]
    by_cases h : 2 ^ 64 ≤ money.toNat + o.amount.toNat
    · rw [if_pos (hwrap.mpr h)]
      simp only [Bool.false_eq_true, false_iff]
      omega
    · rw [if_neg (mt hwrap.mp h), checkOutsOverflowFrom_eq_true_iff,
        toNat_add_of_lt (by omega)]
      omega

/-- The outputs pass `check_outs_overflow` exactly when their total stays below `2^64`, and
their 64-bit total is then the exact one. -/
theorem checkOutsOverflow_eq_true_iff (tx : Transaction) :
    checkOutsOverflow tx = true ↔ (tx.vout.map fun o => o.amount.toNat).sum < 2 ^ 64 := by
  rw [checkOutsOverflow, checkOutsOverflowFrom_eq_true_iff, UInt64.toNat_zero, Nat.zero_add]

theorem foldl_amount_toNat {vout : List TxOut}
    (h : (vout.map fun o => o.amount.toNat).sum < 2 ^ 64) :
    (vout.foldl (fun money (o : TxOut) => money + o.amount) 0).toNat =
      (vout.map fun o => o.amount.toNat).sum := by
  have hsum := toNat_foldl_add (fun o : TxOut => o.amount) vout 0 (by rwa [UInt64.toNat_zero, Nat.zero_add])
  rwa [UInt64.toNat_zero, Nat.zero_add] at hsum

/-- `vout.size() - 1` in 64-bit `size_t`: the difference when there is an output, and
`2^64 - 1` when there is none. -/
theorem toNat_ofNat_sub_one {n : ℕ} (hsize : n < 2 ^ 64) :
    (UInt64.ofNat n - 1).toNat = if n = 0 then 2 ^ 64 - 1 else n - 1 := by
  split
  · rename_i hzero
    subst hzero
    rfl
  · rename_i hpos
    have hone : (1 : UInt64) ≤ UInt64.ofNat n := by
      rw [UInt64.le_iff_toNat_le, UInt64.toNat_ofNat', Nat.mod_eq_of_lt hsize]
      exact Nat.one_le_iff_ne_zero.mpr hpos
    rw [UInt64.toNat_sub_of_le _ _ hone, UInt64.toNat_ofNat', Nat.mod_eq_of_lt hsize]
    rfl

theorem allowGovernance_ne_zero {nettype : NetworkType} {height : ℕ}
    (h : blockchainAllowGovernance nettype height = true) : allowGovernance height nettype ≠ 0 := by
  cases nettype with
  | mainnet =>
    simp only [blockchainAllowGovernance, Bool.or_eq_true, decide_eq_true_eq] at h
    rcases h with ((((((((h | h) | h) | h) | h) | h) | h) | h) | h) <;> subst h <;> decide
  | testnet =>
    simp only [blockchainAllowGovernance, Bool.or_eq_true, decide_eq_true_eq] at h
    rcases h with ((((((h | h) | h) | h) | h) | h) | h) <;> subst h <;> decide
  | stagenet => simp [blockchainAllowGovernance] at h
  | fakechain => simp [blockchainAllowGovernance] at h
  | undefined => simp [blockchainAllowGovernance] at h

example : blockchainAllowGovernance .mainnet 500000 = false ∧ allowGovernance 500000 .mainnet ≠ 0 := by
  decide

/-- The service-node loop writes one output per portion: the portion's share of the total, to
the key derived for its index. -/
theorem serviceNodeOutputs_eq_some {crypto : Crypto} {snKey : Keypair} {total : UInt64} :
    ∀ {i : ℕ} {info : List (AccountPublicAddress × UInt64)} {outs : List TxOut},
      serviceNodeOutputs crypto snKey total i info = some outs →
      outs.length = info.length ∧ ∀ j address portions, info[j]? = some (address, portions) →
        ∃ key, getDeterministicOutputKey crypto address snKey (1 + (i + j)) = some key ∧
          outs[j]? = some ⟨getPortionOfReward portions total, .toKey key⟩
  | _, [], outs, h => by
    simp only [serviceNodeOutputs, Option.some.injEq] at h
    subst h
    simp
  | i, (address, portions) :: rest, outs, h => by
    simp only [serviceNodeOutputs, Option.bind_eq_bind, Option.bind_eq_some_iff,
      Option.some.injEq] at h
    obtain ⟨key, hkey, outs', hrest, rfl⟩ := h
    obtain ⟨hlen, hout⟩ := serviceNodeOutputs_eq_some hrest
    refine ⟨by simp [hlen], fun j address' portions' hj => ?_⟩
    cases j with
    | zero =>
      simp only [List.getElem?_cons_zero, Option.some.injEq, Prod.mk.injEq] at hj
      obtain ⟨rfl, rfl⟩ := hj
      exact ⟨key, by simpa using hkey, rfl⟩
    | succ j =>
      obtain ⟨key', hkey', hout'⟩ := hout j address' portions' (by simpa using hj)
      exact ⟨key', by rw [← hkey']; congr 1; omega, by simpa using hout'⟩

theorem minerTxExtra_winner {txPubKey snPubKey winner : PublicKey} {extraNonce : List UInt8}
    {alreadyGeneratedCoins : UInt64} {extra : List TxExtraField}
    (h : minerTxExtra txPubKey extraNonce snPubKey alreadyGeneratedCoins winner = some extra) :
    getServiceNodeWinnerFromTxExtra extra = winner := by
  -- the fields before the winner are public keys and the nonce, whatever the sort does
  have hprefix : ∀ nonced : List TxExtraField, (∀ key, .serviceNodeWinner key ∉ nonced) →
      getServiceNodeWinnerFromTxExtra (addServiceNodeWinnerToTxExtra
        (if alreadyGeneratedCoins ≠ 0 then addTxPubKeyToExtra (sortTxExtra nonced) snPubKey
          else sortTxExtra nonced) winner) = winner := by
    intro nonced hnonced
    apply getServiceNodeWinnerFromTxExtra_append
    intro key hkey
    split at hkey
    · simp only [addTxPubKeyToExtra, List.mem_append, mem_sortTxExtra, List.mem_singleton,
        reduceCtorEq, or_false] at hkey
      exact hnonced key hkey
    · exact hnonced key (mem_sortTxExtra.mp hkey)
  simp only [minerTxExtra, Option.bind_eq_bind] at h
  split at h
  · simp only [Option.bind_some, Option.some.injEq] at h
    subst h
    exact hprefix _ (by simp [addTxPubKeyToExtra])
  · simp only [addExtraNonceToTxExtra] at h
    split at h
    · simp only [Option.bind_some, Option.some.injEq] at h
      subst h
      exact hprefix _ (by simp [addTxPubKeyToExtra])
    · simp at h

/-- The service-node outputs pay each portion's share of the total, in order. -/
theorem serviceNodeOutputs_map_amount {crypto : Crypto} {snKey : Keypair} {total : UInt64} :
    ∀ {i : ℕ} {info : List (AccountPublicAddress × UInt64)} {outs : List TxOut},
      serviceNodeOutputs crypto snKey total i info = some outs →
      outs.map TxOut.amount = info.map fun p => getPortionOfReward p.2 total
  | _, [], outs, h => by
    simp only [serviceNodeOutputs, Option.some.injEq] at h
    simp [← h]
  | i, (address, portions) :: rest, outs, h => by
    simp only [serviceNodeOutputs, Option.bind_eq_bind, Option.bind_eq_some_iff,
      Option.some.injEq] at h
    obtain ⟨key, -, outs', hrest, rfl⟩ := h
    simp [serviceNodeOutputs_map_amount hrest]

/-- The governance block adds one output of the governance amount, or none. -/
theorem governanceOutputs_eq_some {menv : MinerEnv} {nettype : NetworkType} {snKey : Keypair}
    {hardForkVersion : ℕ} {governance : UInt64} {outputIndex : ℕ} {outs : List TxOut}
    (h : governanceOutputs menv nettype snKey hardForkVersion governance outputIndex = some outs) :
    (hardForkVersion ≥ 7 ∧ governance > 0 ∧ ∃ key, getDeterministicOutputKey menv.crypto
        (if hardForkVersion < 11 then menv.governanceWalletAddress nettype
          else menv.bridgeWalletAddress nettype) snKey outputIndex = some key ∧
        outs = [⟨governance, .toKey key⟩]) ∨
      (¬ (hardForkVersion ≥ 7 ∧ governance > 0) ∧ outs = []) := by
  unfold governanceOutputs at h
  split at h
  · rename_i hpay
    simp only [Option.bind_eq_bind, Option.bind_eq_some_iff, Option.some.injEq] at h
    obtain ⟨key, hkey, rfl⟩ := h
    exact .inl ⟨hpay.1, hpay.2, key, hkey, rfl⟩
  · rename_i hpay
    simp only [Option.some.injEq] at h
    exact .inr ⟨hpay, h.symm⟩

theorem constructMinerTx_eq_some {menv : MinerEnv} {height : ℕ}
    {medianSize alreadyGeneratedCoins currentBlockSize fee : UInt64}
    {minerAddress : AccountPublicAddress} {tx tx' : Transaction} {extraNonce : List UInt8}
    {hardForkVersion : ℕ} {minerContext : MinerTxContext} {txkey : Keypair}
    (h : constructMinerTx menv height medianSize alreadyGeneratedCoins currentBlockSize fee
      minerAddress tx extraNonce hardForkVersion minerContext txkey = some tx') :
    let snKey := getDeterministicKeypairFromHeight menv height
    ∃ rewardParts minerKey serviceNodeOuts governanceOuts,
      getTritonBlockReward medianSize currentBlockSize alreadyGeneratedCoins hardForkVersion
        ⟨height, fee, minerContext.snodeWinnerInfo⟩ minerContext.nettype = some rewardParts ∧
      serviceNodeRewardOutputs menv.crypto snKey hardForkVersion rewardParts.serviceNodeTotal
        (if minerContext.snodeWinnerInfo.isEmpty then nullWinner
          else minerContext.snodeWinnerInfo) = some serviceNodeOuts ∧
      governanceOutputs menv minerContext.nettype snKey hardForkVersion rewardParts.governance
        (serviceNodeOuts.length + 1) = some governanceOuts ∧
      tx'.vin = [.gen height] ∧
      tx'.unlockTime = UInt64.ofNat (height + cryptonoteMinedMoneyUnlockWindow) ∧
      tx'.version = (if hardForkVersion ≥ serviceNodeVersion then 3
        else if hardForkVersion = 4 then 2 else 1) ∧
      tx'.rctType = tx.rctType ∧
      getServiceNodeWinnerFromTxExtra tx'.extra = minerContext.snodeWinnerKey ∧
      tx'.vout = ⟨rewardParts.minerReward, .toKey minerKey⟩ :: serviceNodeOuts ++ governanceOuts := by
  intro snKey
  simp only [constructMinerTx, Option.bind_eq_bind, Option.bind_eq_some_iff] at h
  obtain ⟨extra, hextra, rewardParts, hparts, minerKey, hminer, serviceNodeOuts, houts,
    governanceOuts, hgovernance, h⟩ := h
  split at h
  · simp at h
  simp only [Option.some.injEq] at h
  subst h
  exact ⟨rewardParts, minerKey, serviceNodeOuts, governanceOuts, hparts, houts,
    by simpa using hgovernance, rfl, rfl, rfl, rfl, minerTxExtra_winner hextra, rfl⟩

end Equilibria.MinerTx
