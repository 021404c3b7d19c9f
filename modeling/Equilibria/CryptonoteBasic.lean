import Mathlib

/-!
# Configuration constants, keys and transactions

The constants of `cryptonote_config.h`, `service_node_list.h` and
`service_node_deregister.h` that the modelled code reads, the fixed-size key and hash
types, and the transaction and block records with the fields the service-node code reads.

Keys, hashes and signatures are their bytes read as little-endian numbers. A transaction's
`extra` is the list of fields that `parse_tx_extra` reads from its extra bytes, in order;
every `get_*_from_tx_extra` getter takes the first field of its kind, as
`find_tx_extra_field_by_type` does. The byte encoding of the fields is a separate model.
-/

namespace Equilibria.CryptonoteBasic

/-! ## Constants -/

/-- `STAKING_PORTIONS`: the portions that make up a whole stake. -/
def stakingPortions : UInt64 := 0xfffffffffffffffc

/-- `MAX_NUMBER_OF_CONTRIBUTORS`. -/
def maxNumberOfContributors : ℕ := 4

/-- `MAX_NUMBER_OF_CONTRIBUTORS_V2`, the limit from hard fork 10. -/
def maxNumberOfContributorsV2 : ℕ := 100

/-- `MIN_PORTIONS`. -/
def minPortions : UInt64 := stakingPortions / 4

/-- `STAKING_REQUIREMENT_LOCK_BLOCKS_EXCESS`. -/
def stakingRequirementLockBlocksExcess : ℕ := 20

/-- `CRYPTONOTE_MAX_BLOCK_NUMBER`. -/
def cryptonoteMaxBlockNumber : ℕ := 500000000

/-- `CRYPTONOTE_MAX_TX_PER_BLOCK`: the block parser rejects more transaction hashes. -/
def cryptonoteMaxTxPerBlock : ℕ := 0x10000000

/-- `CRYPTONOTE_MINED_MONEY_UNLOCK_WINDOW`. -/
def cryptonoteMinedMoneyUnlockWindow : ℕ := 60

/-- `COIN`: atomic units in one coin. -/
def coin : UInt64 := 10000

/-- `QUORUM_SIZE`. -/
def quorumSize : ℕ := 10

/-- `MIN_VOTES_TO_KICK_SERVICE_NODE`. -/
def minVotesToKickServiceNode : ℕ := 7

/-- `NTH_OF_THE_NETWORK_TO_TEST`. -/
def nthOfTheNetworkToTest : ℕ := 100

/-- `MIN_NODES_TO_TEST`. -/
def minNodesToTest : ℕ := 50

/-- `MAX_SWARM_SIZE`. -/
def maxSwarmSize : ℕ := 10

/-- `SWARM_BUFFER`: spare queued nodes needed before a new swarm is made. -/
def swarmBuffer : ℕ := 5

/-- `MIN_SWARM_SIZE`: a smaller swarm is starving. -/
def minSwarmSize : ℕ := 5

/-- `QUEUE_SWARM_ID`: the swarm of nodes that wait for a real swarm. -/
def queueSwarmId : UInt64 := 0

/-- `VOTE_LIFETIME_BY_HEIGHT`: a day of blocks at the 180 s target. -/
def voteLifetimeByHeight : ℕ := 60 * 60 * 24 / 180

/-- `VOTE_LIFETIME_BY_HEIGHT_V2`: a day of blocks at the 120 s target. -/
def voteLifetimeByHeightV2 : ℕ := 60 * 60 * 24 / 120

/-- `DEREGISTER_LIFETIME_BY_HEIGHT`. -/
def deregisterLifetimeByHeight : ℕ := voteLifetimeByHeight

/-- `DEREGISTER_LIFETIME_BY_HEIGHT_V2`. -/
def deregisterLifetimeByHeightV2 : ℕ := voteLifetimeByHeightV2

/-- `cryptonote::network_type`. -/
inductive NetworkType
  | mainnet
  | testnet
  | stagenet
  | fakechain
  | undefined
  deriving DecidableEq, Repr

/-! ## Keys and hashes -/

/-- `crypto::public_key`. -/
structure PublicKey where
  /-- The 32 bytes, little-endian. -/
  data : BitVec 256
  deriving DecidableEq, Repr

/-- `crypto::secret_key`. -/
structure SecretKey where
  /-- The 32 bytes, little-endian. -/
  data : BitVec 256
  deriving DecidableEq, Repr

/-- `crypto::hash`. -/
structure Hash where
  /-- The 32 bytes, little-endian. -/
  data : BitVec 256
  deriving DecidableEq, Repr

/-- `crypto::key_derivation`. -/
structure KeyDerivation where
  /-- The 32 bytes, little-endian. -/
  data : BitVec 256
  deriving DecidableEq, Repr

/-- `crypto::signature`. -/
structure Signature where
  /-- The 64 bytes, little-endian. -/
  data : BitVec 512
  deriving DecidableEq, Repr

/-- `crypto::key_image`. -/
structure KeyImage where
  /-- The 32 bytes, little-endian. -/
  data : BitVec 256
  deriving DecidableEq, Repr

/-- `crypto::null_pkey`. -/
def nullPkey : PublicKey := ⟨0⟩

/-- `crypto::null_hash`. -/
def nullHash : Hash := ⟨0⟩

/-- `cryptonote::account_public_address`. -/
structure AccountPublicAddress where
  /-- `m_spend_public_key`. -/
  spendPublicKey : PublicKey
  /-- `m_view_public_key`. -/
  viewPublicKey : PublicKey
  deriving DecidableEq, Repr

/-- `service_nodes::null_address`. -/
def nullAddress : AccountPublicAddress := ⟨nullPkey, nullPkey⟩

/-! ## Transaction extra fields -/

/-- `tx_extra_service_node_register`. -/
structure TxExtraServiceNodeRegister where
  /-- `m_public_spend_keys`. -/
  publicSpendKeys : List PublicKey
  /-- `m_public_view_keys`. -/
  publicViewKeys : List PublicKey
  /-- `m_portions_for_operator`. -/
  portionsForOperator : UInt64
  /-- `m_portions`. -/
  portions : List UInt64
  /-- `m_expiration_timestamp`. -/
  expirationTimestamp : UInt64
  /-- `m_service_node_signature`. -/
  serviceNodeSignature : Signature
  deriving DecidableEq, Repr

/-- `tx_extra_service_node_deregister::vote`. -/
structure DeregisterTxVote where
  /-- `signature`. -/
  signature : Signature
  /-- `voters_quorum_index`. -/
  votersQuorumIndex : UInt32
  deriving DecidableEq, Repr

/-- `tx_extra_service_node_deregister`. -/
structure TxExtraServiceNodeDeregister where
  /-- `block_height`. -/
  blockHeight : UInt64
  /-- `service_node_index`. -/
  serviceNodeIndex : UInt32
  /-- `votes`. -/
  votes : List DeregisterTxVote
  deriving DecidableEq, Repr

/-- `tx_extra_field`, the variant of every extra field. -/
inductive TxExtraField
  | padding (size : ℕ)
  | pubKey (key : PublicKey)
  | nonce (nonce : List UInt8)
  | mergeMiningTag (depth : ℕ) (merkleRoot : Hash)
  | additionalPubKeys (keys : List PublicKey)
  | mysteriousMinergate (data : List UInt8)
  | serviceNodePubkey (key : PublicKey)
  | serviceNodeRegister (registration : TxExtraServiceNodeRegister)
  | serviceNodeContributor (address : AccountPublicAddress)
  | serviceNodeWinner (key : PublicKey)
  | serviceNodeDeregister (deregister : TxExtraServiceNodeDeregister)
  | txSecretKey (key : SecretKey)
  | burn (amount : UInt64)
  | contractInfo (json : List UInt8)
  | memo (data : List UInt8)
  deriving DecidableEq, Repr

/-! ## Transactions and blocks -/

/-- `txout_target_v`: only `txout_to_key` carries a key the modelled code reads. -/
inductive TxOutTarget
  | toKey (key : PublicKey)
  | toScript
  | toScripthash
  deriving DecidableEq, Repr

/-- `tx_out`. -/
structure TxOut where
  /-- `amount`. -/
  amount : UInt64
  /-- `target`. -/
  target : TxOutTarget
  deriving DecidableEq, Repr

/-- `txin_v`: the coinbase input `txin_gen` and the others. -/
inductive TxIn
  | gen (height : ℕ)
  | toScript
  | toScripthash
  | toKey (amount : UInt64) (kImage : KeyImage)
  deriving DecidableEq, Repr

/-- `rct::RCTType*`. -/
inductive RctType
  | null
  | full
  | simple
  | bulletproof
  | bulletproof2
  deriving DecidableEq, Repr

/-- `cryptonote::transaction`, with the fields the modelled code reads. -/
structure Transaction where
  /-- `version`; 3 is `version_3_per_output_unlock_times`. -/
  version : ℕ
  /-- `unlock_time`. -/
  unlockTime : UInt64
  /-- `vin`. -/
  vin : List TxIn
  /-- `vout`. -/
  vout : List TxOut
  /-- The fields of `extra`, in the order `parse_tx_extra` reads them. -/
  extra : List TxExtraField
  /-- `output_unlock_times`, one per output from version 3 on. -/
  outputUnlockTimes : List UInt64
  /-- `is_deregister`. -/
  isDeregister : Bool
  /-- `rct_signatures.type`. -/
  rctType : RctType
  deriving DecidableEq, Repr

/-- `transaction::is_deregister_tx`. -/
def Transaction.isDeregisterTx (tx : Transaction) : Bool := 3 ≤ tx.version && tx.isDeregister

/-- The block fields the service-node code reads; `height` is what `get_block_height`
reads from the coinbase input. -/
structure Block where
  /-- `get_block_height(block)`. -/
  height : ℕ
  /-- `timestamp`. -/
  timestamp : UInt64
  /-- `prev_id`. -/
  prevId : Hash
  /-- `miner_tx`. -/
  minerTx : Transaction
  deriving DecidableEq, Repr

/-! ## Extra getters -/

/-- `get_service_node_register_from_tx_extra`: the first registration field, accepted
when it has as many view keys as spend keys. -/
def getServiceNodeRegisterFromTxExtra (extra : List TxExtraField) :
    Option TxExtraServiceNodeRegister :=
  match extra.findSome? (fun | .serviceNodeRegister r => some r | _ => none) with
  | some r => if r.publicSpendKeys.length = r.publicViewKeys.length then some r else none
  | none => none

/-- `get_service_node_pubkey_from_tx_extra`. -/
def getServiceNodePubkeyFromTxExtra (extra : List TxExtraField) : Option PublicKey :=
  extra.findSome? (fun | .serviceNodePubkey k => some k | _ => none)

/-- `get_service_node_contributor_from_tx_extra`. -/
def getServiceNodeContributorFromTxExtra (extra : List TxExtraField) :
    Option AccountPublicAddress :=
  extra.findSome? (fun | .serviceNodeContributor a => some a | _ => none)

/-- `get_tx_secret_key_from_tx_extra`. -/
def getTxSecretKeyFromTxExtra (extra : List TxExtraField) : Option SecretKey :=
  extra.findSome? (fun | .txSecretKey k => some k | _ => none)

/-- `get_service_node_winner_from_tx_extra`: the null key when there is no winner field. -/
def getServiceNodeWinnerFromTxExtra (extra : List TxExtraField) : PublicKey :=
  (extra.findSome? (fun | .serviceNodeWinner k => some k | _ => none)).getD nullPkey

/-- `get_service_node_deregister_from_tx_extra`. -/
def getServiceNodeDeregisterFromTxExtra (extra : List TxExtraField) :
    Option TxExtraServiceNodeDeregister :=
  extra.findSome? (fun | .serviceNodeDeregister d => some d | _ => none)

/-- `get_memo_from_tx_extra`. -/
def getMemoFromTxExtra (extra : List TxExtraField) : Option (List UInt8) :=
  extra.findSome? (fun | .memo m => some m | _ => none)

/-! ## Cryptography -/

/-- The primitives of `crypto/` and `ringct/` that the modelled code calls, taken as
parameters: their C implementations are outside this model. A failing call is `none`; for the
`rct::decodeRct*` functions that is the exception they throw. -/
structure Crypto where
  /-- `crypto::cn_fast_hash` of a byte buffer. -/
  cnFastHash : List UInt8 → Hash
  /-- `crypto::check_key`: the bytes decode to a curve point. -/
  checkKey : PublicKey → Bool
  /-- `crypto::check_signature` of a hash under a public key. -/
  checkSignature : Hash → PublicKey → Signature → Bool
  /-- `crypto::generate_key_derivation`. -/
  generateKeyDerivation : PublicKey → SecretKey → Option KeyDerivation
  /-- `hw::device::derivation_to_scalar`. -/
  derivationToScalar : KeyDerivation → ℕ → SecretKey
  /-- `crypto::derive_public_key`. -/
  derivePublicKey : KeyDerivation → ℕ → PublicKey → Option PublicKey
  /-- `rct::decodeRctSimple` of an output of a transaction. -/
  decodeRctSimple : Transaction → SecretKey → ℕ → Option UInt64
  /-- `rct::decodeRct` of an output of a transaction. -/
  decodeRct : Transaction → SecretKey → ℕ → Option UInt64

end Equilibria.CryptonoteBasic
