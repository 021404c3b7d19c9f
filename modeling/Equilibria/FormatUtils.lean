import Equilibria.CryptonoteBasic

/-!
# Registration hash

`get_registration_hash` of `cryptonote_format_utils.cpp`: the digest a service node signs to
register, over the operator's portions, each contributor's address and portions, and the
expiration time, copied into a fresh heap buffer in their in-memory (little-endian) layout.

The buffer is allocated with room for `n * (64 + 8) + 8 + 8 + 8` bytes, where the loop writes
`8 + n * (64 + 8) + 8`, and all of it is hashed. The model takes the contents of the fresh
allocation as a parameter `heap`, the byte at each offset, so that the digest is what the code
computes for every memory content. The model follows release builds, where `NDEBUG` removes the
`assert` that the buffer was filled exactly.
-/

namespace Equilibria.FormatUtils

open CryptonoteBasic

/-- The 8 bytes of a `uint64_t` in memory. -/
def u64Bytes (x : UInt64) : List UInt8 :=
  (List.range 8).map fun i => (x >>> UInt64.ofNat (8 * i)).toUInt8

/-- The 32 bytes of a key in memory. -/
def keyBytes (k : PublicKey) : List UInt8 :=
  (List.range 32).map fun i => UInt8.ofNat (k.data.toNat / 2 ^ (8 * i))

/-- The 64 bytes of an `account_public_address`: the spend key, then the view key. -/
def addressBytes (a : AccountPublicAddress) : List UInt8 :=
  keyBytes a.spendPublicKey ++ keyBytes a.viewPublicKey

/-- The portion loop of `get_registration_hash`: no portion exceeds what is left. -/
def portionsFit : UInt64 → List UInt64 → Bool
  | _, [] => true
  | portionsLeft, portion :: portions =>
    if portion > portionsLeft then false else portionsFit (portionsLeft - portion) portions

/-- The bytes `get_registration_hash` copies into its buffer, in order. -/
def registrationBytes (addresses : List AccountPublicAddress) (operatorPortions : UInt64)
    (portions : List UInt64) (expirationTimestamp : UInt64) : List UInt8 :=
  u64Bytes operatorPortions ++
    (addresses.zip portions).flatMap (fun e => addressBytes e.1 ++ u64Bytes e.2) ++
    u64Bytes expirationTimestamp

/-- The number of bytes `get_registration_hash` allocates and hashes for `n` contributors. -/
def registrationBufferSize (n : ℕ) : ℕ := n * (64 + 8) + 8 + 8 + 8

/-- The hashed buffer: the copied bytes, and past them what the fresh allocation `heap` holds. -/
def registrationBuffer (heap : ℕ → UInt8) (addresses : List AccountPublicAddress)
    (operatorPortions : UInt64) (portions : List UInt64) (expirationTimestamp : UInt64) :
    List UInt8 :=
  let written := registrationBytes addresses operatorPortions portions expirationTimestamp
  (List.range (registrationBufferSize addresses.length)).map fun i => written.getD i (heap i)

/-- `get_registration_hash`. -/
def getRegistrationHash (c : Crypto) (heap : ℕ → UInt8) (addresses : List AccountPublicAddress)
    (operatorPortions : UInt64) (portions : List UInt64) (expirationTimestamp : UInt64) :
    Option Hash :=
  if addresses.length ≠ portions.length then none
  else if !portionsFit stakingPortions portions then none
  else some (c.cnFastHash (registrationBuffer heap addresses operatorPortions portions
    expirationTimestamp))

@[simp] theorem length_u64Bytes (x : UInt64) : (u64Bytes x).length = 8 := by
  simp [u64Bytes]

@[simp] theorem length_addressBytes (a : AccountPublicAddress) : (addressBytes a).length = 64 := by
  simp [addressBytes, keyBytes]

/-- The copied bytes are `8 + 72 n + 8` long for `n` address and portion pairs. -/
theorem length_registrationBytes (addresses : List AccountPublicAddress) (operatorPortions : UInt64)
    (portions : List UInt64) (expirationTimestamp : UInt64)
    (hlen : addresses.length = portions.length) :
    (registrationBytes addresses operatorPortions portions expirationTimestamp).length =
      8 + addresses.length * 72 + 8 := by
  have hpairs : ∀ (as : List AccountPublicAddress) (ps : List UInt64), as.length = ps.length →
      ((as.zip ps).flatMap (fun e => addressBytes e.1 ++ u64Bytes e.2)).length = as.length * 72 := by
    intro as
    induction as with
    | nil => simp
    | cons a as ih =>
      intro ps hps
      cases ps with
      | nil => simp at hps
      | cons p ps =>
        simp only [List.zip_cons_cons, List.flatMap_cons, List.length_append, length_addressBytes,
          length_u64Bytes, List.length_cons]
        rw [ih ps (by simpa using hps)]
        omega
  simp only [registrationBytes, List.length_append, length_u64Bytes, hpairs _ _ hlen]

/-- The buffer reading the written bytes and then the allocation, offset by offset. -/
theorem registrationBuffer_eq_append (heap : ℕ → UInt8) (written : List UInt8) (size : ℕ)
    (hsize : written.length ≤ size) :
    (List.range size).map (fun i => written.getD i (heap i)) =
      written ++ (List.range (size - written.length)).map (fun j => heap (written.length + j)) := by
  obtain ⟨k, rfl⟩ := Nat.exists_eq_add_of_le hsize
  rw [Nat.add_sub_cancel_left, List.range_add, List.map_append]
  congr 1
  · apply List.ext_getElem (by simp)
    intro i h1 h2
    simp only [List.getElem_map, List.getElem_range]
    simp only [List.length_map, List.length_range] at h1
    simp [List.getD_eq_getElem?_getD, List.getElem?_eq_getElem h1]
  · simp only [List.map_map]
    apply List.map_congr_left
    intro j _
    simp [List.getD_eq_getElem?_getD]

/-- What `get_registration_hash` computes: when the sizes agree and the portions fit, the digest
of the copied bytes followed by the 8 bytes the allocation holds past them. -/
theorem getRegistrationHash_eq (c : Crypto) (heap : ℕ → UInt8)
    (addresses : List AccountPublicAddress) (operatorPortions : UInt64) (portions : List UInt64)
    (expirationTimestamp : UInt64) (hlen : addresses.length = portions.length)
    (hfit : portionsFit stakingPortions portions = true) :
    getRegistrationHash c heap addresses operatorPortions portions expirationTimestamp =
      some (c.cnFastHash
        (registrationBytes addresses operatorPortions portions expirationTimestamp ++
          (List.range 8).map fun j => heap (8 + addresses.length * 72 + 8 + j))) := by
  have hw := length_registrationBytes addresses operatorPortions portions expirationTimestamp hlen
  have hsize : registrationBufferSize addresses.length - (8 + addresses.length * 72 + 8) = 8 := by
    unfold registrationBufferSize
    omega
  unfold getRegistrationHash registrationBuffer
  rw [if_neg (by omega), if_neg (by simp [hfit]),
    registrationBuffer_eq_append _ _ _ (by rw [hw]; unfold registrationBufferSize; omega), hw, hsize]

/-- `get_registration_hash` succeeds exactly when there are as many portions as addresses and
no portion exceeds the portions still left. -/
theorem getRegistrationHash_isSome (c : Crypto) (heap : ℕ → UInt8)
    (addresses : List AccountPublicAddress) (operatorPortions : UInt64) (portions : List UInt64)
    (expirationTimestamp : UInt64) :
    (getRegistrationHash c heap addresses operatorPortions portions expirationTimestamp).isSome =
      (addresses.length == portions.length && portionsFit stakingPortions portions) := by
  unfold getRegistrationHash
  by_cases hlen : addresses.length = portions.length
  · cases portionsFit stakingPortions portions <;> simp [hlen]
  · simp [hlen]

/-- At one contributor with a null address and a whole stake, the hashed buffer is not the 88
copied bytes, and two contents of the fresh allocation give two different buffers. -/
theorem registrationBuffer_reads_heap :
    registrationBuffer (fun _ => 0) [nullAddress] 0 [stakingPortions] 0 ≠
        registrationBytes [nullAddress] 0 [stakingPortions] 0 ∧
      registrationBuffer (fun _ => 0) [nullAddress] 0 [stakingPortions] 0 ≠
        registrationBuffer (fun _ => 1) [nullAddress] 0 [stakingPortions] 0 := by
  constructor <;> decide

end Equilibria.FormatUtils
