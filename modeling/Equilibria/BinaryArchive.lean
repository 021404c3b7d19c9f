import Mathlib

/-!
# Binary archive

`binary_archive` of `serialization/binary_archive.h` over the `std::istream` it reads and the
`std::ostream` it writes, with `tools::read_varint` and `tools::write_varint` of
`common/varint.h`, the `do_serialize` overloads of `string.h` and `container.h`, and
`parse_binary` of `binary_utils.h`.

A reader is a `do_serialize` for `binary_archive<false>`: from the state of the stream it
returns `false` (`none`) or the value read and the new state of the stream. The state is the
bytes not read yet and the `failbit` and `eofbit` flags, since the combinators signal errors
through them: a short `get` or `read` sets both, `read_varint` returns a negative count on an
overflowing or non-canonical varint and `serialize_uvarint` then sets `failbit`, and the `FIELD`
macros return `false` once the stream is no longer `good()`. A writer gives the bytes
`binary_archive<true>` appends to its `std::ostringstream`, which does not fail.

Values are natural numbers: a fixed-width integer is read little-endian from its bytes, and a
varint of a `bits`-bit type stops with `EVARINT_OVERFLOW` before its value leaves the type, so
nothing the reader builds wraps.

`read_varint` returns the count of bytes read when the input ends inside a varint, and 0 on
an empty input, without an error: `readVarint_canonical` shows that a varint the reader accepts
is the writer's encoding of its value or such a truncated tail, and `truncated_varint_parses`
that `parse_binary` accepts a `txin_gen` whose encoding is not what the writer produces.
-/

namespace Equilibria.BinaryArchive

/-! ## The input stream -/

/-- The stream a `binary_archive<false>` reads: the bytes not read yet, and the `failbit` and
`eofbit` of its state. -/
structure Istream where
  /-- The bytes from the read position to the end of the stream. -/
  rest : List UInt8
  /-- `failbit`. -/
  fail : Bool
  /-- `eofbit`. -/
  eof : Bool
  deriving DecidableEq, Repr

namespace Istream

/-- `good()`. -/
def good (s : Istream) : Bool := !s.fail && !s.eof

/-- A fresh `std::istringstream` over a blob. -/
def ofBlob (b : List UInt8) : Istream := ⟨b, false, false⟩

/-- `setstate(std::ios::failbit)`. -/
def setFail (s : Istream) : Istream := { s with fail := true }

/-- `get(c)`: the sentry fails on a stream that is not `good()`, and at the end of the stream
`failbit` and `eofbit` are set. `c` is left unassigned then; it is read as 0 here, and every
caller checks the stream before it uses the value. -/
def get (s : Istream) : UInt8 × Istream :=
  if s.good then
    match s.rest with
    | [] => (0, { s with fail := true, eof := true })
    | c :: cs => (c, { s with rest := cs })
  else (0, s.setFail)

/-- `read(buf, n)`: with fewer than `n` bytes left it reads them and sets `eofbit` and
`failbit`. -/
def read (s : Istream) (n : ℕ) : List UInt8 × Istream :=
  if s.good then
    if n ≤ s.rest.length then (s.rest.take n, { s with rest := s.rest.drop n })
    else (s.rest, ⟨[], true, true⟩)
  else ([], s.setFail)

/-- `EOF == peek()` followed by `clear(state)`, as every caller writes it: a stream that is not
`good()` peeks `EOF`, and the flags `peek` sets are restored. -/
def peekEof (s : Istream) : Bool := !s.good || s.rest.isEmpty

/-- `binary_archive<false>::remaining_bytes()`. -/
def remainingBytes (s : Istream) : ℕ := if s.good then s.rest.length else 0

@[simp] theorem good_ofBlob (b : List UInt8) : (ofBlob b).good = true := rfl

@[simp] theorem rest_ofBlob (b : List UInt8) : (ofBlob b).rest = b := rfl

@[simp] theorem remainingBytes_ofBlob (b : List UInt8) : (ofBlob b).remainingBytes = b.length :=
  rfl

theorem get_ofBlob_cons (c : UInt8) (cs : List UInt8) : (ofBlob (c :: cs)).get = (c, ofBlob cs) :=
  rfl

theorem read_ofBlob_append {b : List UInt8} {n : ℕ} (hb : b.length = n) (rest : List UInt8) :
    (ofBlob (b ++ rest)).read n = (b, ofBlob rest) := by
  subst hb
  simp [read, ofBlob, good]

end Istream

open Istream

/-! ## Varints -/

/-- `EVARINT_OVERFLOW`. -/
def evarintOverflow : Int := -1

/-- `EVARINT_REPRESENT`. -/
def evarintRepresent : Int := -2

/-- The loop of `tools::read_varint<bits>` from `shift`, with `read` bytes read and the value
`write` built so far: the count it returns (`EVARINT_OVERFLOW` or `EVARINT_REPRESENT` on an
error), the value, and the bytes after those it consumed. At the end of the input it returns
the count so far. -/
def readVarintLoop (bits shift read write : ℕ) : List UInt8 → Int × ℕ × List UInt8
  | [] => (read, write, [])
  | byte :: rest =>
    if shift + 7 ≥ bits ∧ byte.toNat ≥ 2 ^ (bits - shift) then (evarintOverflow, write, rest)
    else if byte.toNat = 0 ∧ shift ≠ 0 then (evarintRepresent, write, rest)
    else
      let write := write ||| (byte.toNat &&& 0x7f) <<< shift
      if byte.toNat &&& 0x80 = 0 then (read + 1, write, rest)
      else readVarintLoop bits (shift + 7) (read + 1) write rest

/-- `tools::read_varint<bits>`. -/
def readVarint (bits : ℕ) (b : List UInt8) : Int × ℕ × List UInt8 := readVarintLoop bits 0 0 0 b

/-- `tools::write_varint`: seven bits a byte, lowest first, with the high bit set on every byte
but the last. -/
def writeVarint (i : ℕ) : List UInt8 :=
  if i ≥ 0x80 then UInt8.ofNat ((i &&& 0x7f) ||| 0x80) :: writeVarint (i >>> 7)
  else [UInt8.ofNat i]
termination_by i
decreasing_by rw [Nat.shiftRight_eq_div_pow]; omega

theorem and_0x7f (n : ℕ) : n &&& 0x7f = n % 128 :=
  Nat.and_two_pow_sub_one_eq_mod n 7

theorem and_0x80_eq_zero {n : ℕ} (hn : n < 256) : n &&& 0x80 = 0 ↔ n < 128 :=
  (by decide +kernel : ∀ i : Fin 256, i.val &&& 128 = 0 ↔ i.val < 128) ⟨n, hn⟩

/-- Or-ing bits above those of `w` adds them. -/
theorem or_shiftLeft {w s : ℕ} (hw : w < 2 ^ s) (x : ℕ) : w ||| x <<< s = w + x * 2 ^ s := by
  rw [Nat.shiftLeft_eq, Nat.or_comm, Nat.mul_comm, ← Nat.two_pow_add_eq_or_of_lt hw]
  omega

theorem writeVarint_of_lt {i : ℕ} (h : i < 128) : writeVarint i = [UInt8.ofNat i] := by
  rw [writeVarint, if_neg (by omega)]

theorem writeVarint_eq_cons {i : ℕ} (h : 128 ≤ i) :
    writeVarint i = UInt8.ofNat (i % 128 + 128) :: writeVarint (i / 128) := by
  have hbyte : (i &&& 0x7f) ||| 0x80 = i % 128 + 128 := by
    have key := Nat.two_pow_add_eq_or_of_lt (Nat.mod_lt i (show 0 < 2 ^ 7 by decide)) 1
    simp only [Nat.reducePow, Nat.mul_one] at key
    rw [and_0x7f, Nat.or_comm, ← key]
    omega
  rw [writeVarint, if_pos h, hbyte, Nat.shiftRight_eq_div_pow]

theorem writeVarint_ne_nil (i : ℕ) : writeVarint i ≠ [] := by
  by_cases h : i < 128
  · simp [writeVarint_of_lt h]
  · simp [writeVarint_eq_cons (Nat.le_of_not_lt h)]

/-- A value below `128 ^ (k + 1)` takes at most `k + 1` bytes. -/
theorem length_writeVarint_le : ∀ {k v : ℕ}, v < 128 ^ (k + 1) → (writeVarint v).length ≤ k + 1
  | 0, v, hv => by simp [writeVarint_of_lt (by simpa using hv)]
  | k + 1, v, hv => by
    by_cases hsmall : v < 128
    · simp [writeVarint_of_lt hsmall]
    · have hdiv : v / 128 < 128 ^ (k + 1) := by
        rw [Nat.div_lt_iff_lt_mul (by decide), ← Nat.pow_succ]
        exact hv
      rw [writeVarint_eq_cons (Nat.le_of_not_lt hsmall), List.length_cons]
      exact Nat.succ_le_succ (length_writeVarint_le hdiv)

theorem lt_two_pow_sub {u s bits : ℕ} (h : u * 2 ^ s < 2 ^ bits) : u < 2 ^ (bits - s) := by
  by_cases hs : s ≤ bits
  · have hsplit : 2 ^ bits = 2 ^ (bits - s) * 2 ^ s := by
      rw [← Nat.pow_add, Nat.sub_add_cancel hs]
    rw [hsplit] at h
    exact Nat.lt_of_mul_lt_mul_right h
  · have hpow : 2 ^ bits ≤ 2 ^ s := Nat.pow_le_pow_right (by decide) (by omega)
    have hu : u = 0 := by
      by_contra hu
      have : 2 ^ s ≤ u * 2 ^ s := Nat.le_mul_of_pos_left _ (Nat.pos_of_ne_zero hu)
      omega
    rw [hu]
    exact Nat.two_pow_pos _

/-- The loop reads a writer's encoding of `u` at `shift` back: the value `u` is added at its
place, and the bytes after the encoding are left. -/
theorem readVarintLoop_writeVarint (bits : ℕ) (rest : List UInt8) (u : ℕ) :
    ∀ {shift read write : ℕ}, write < 2 ^ shift → (shift ≠ 0 → u ≠ 0) →
      write + u * 2 ^ shift < 2 ^ bits →
      readVarintLoop bits shift read write (writeVarint u ++ rest) =
        (((read + (writeVarint u).length : ℕ) : Int), write + u * 2 ^ shift, rest) := by
  induction u using Nat.strongRecOn with
  | ind u ih =>
    intro shift read write hw hu hfit
    have hroom : u < 2 ^ (bits - shift) := lt_two_pow_sub (by omega)
    by_cases hsmall : u < 128
    · -- the last byte: its high bit is clear
      have hbyte : (UInt8.ofNat u).toNat = u := by rw [UInt8.toNat_ofNat']; omega
      rw [writeVarint_of_lt hsmall, List.singleton_append, readVarintLoop, hbyte,
        if_neg (by omega), if_neg (by omega), Nat.and_two_pow_sub_one_eq_mod u 7 |>.trans
          (Nat.mod_eq_of_lt hsmall), or_shiftLeft hw, if_pos ((and_0x80_eq_zero (by omega)).mpr hsmall)]
      rfl
    · -- a byte with the high bit set, then the encoding of `u / 128` at `shift + 7`
      have hbig : 128 ≤ u := Nat.le_of_not_lt hsmall
      have hbyte : (UInt8.ofNat (u % 128 + 128)).toNat = u % 128 + 128 := by
        rw [UInt8.toNat_ofNat']; omega
      have hshift : shift + 7 < bits := by
        by_contra hge
        have : 2 ^ (bits - shift) ≤ 2 ^ 7 := Nat.pow_le_pow_right (by decide) (by omega)
        omega
      have hw' : write + (u % 128) * 2 ^ shift < 2 ^ (shift + 7) := by
        have : (u % 128) * 2 ^ shift + 2 ^ shift ≤ 2 ^ 7 * 2 ^ shift := by
          rw [← Nat.succ_mul]; exact Nat.mul_le_mul_right _ (by omega)
        rw [Nat.pow_add, Nat.mul_comm (2 ^ shift)]
        omega
      have hsplit : write + (u % 128) * 2 ^ shift + u / 128 * 2 ^ (shift + 7) =
          write + u * 2 ^ shift := by
        have hu : u = u % 128 + 128 * (u / 128) := (Nat.mod_add_div u 128).symm
        conv_rhs => rw [hu]
        rw [Nat.pow_add]
        ring
      have hrec := @ih (u / 128) (by omega) (shift + 7) (read + 1) _ hw'
        (fun _ => by omega) (by omega)
      rw [writeVarint_eq_cons hbig, List.cons_append, readVarintLoop, hbyte,
        if_neg (by omega), if_neg (by omega), and_0x7f, Nat.add_mod_right, Nat.mod_mod,
        or_shiftLeft hw, if_neg (by rw [and_0x80_eq_zero (by omega)]; omega), hrec, hsplit]
      simp only [List.length_cons]
      congr 2
      omega

/-- `read_varint` reads back what `write_varint` wrote, for a value of the type. -/
theorem readVarint_writeVarint {bits u : ℕ} (hu : u < 2 ^ bits) (rest : List UInt8) :
    readVarint bits (writeVarint u ++ rest) = (((writeVarint u).length : Int), u, rest) := by
  have h := @readVarintLoop_writeVarint bits rest u 0 0 0
    (by decide) (fun h => absurd rfl h) (by simpa using hu)
  simpa [readVarint] using h

/-- What the loop accepts from `shift` on: the writer's encoding of a value, added at its
place, or bytes that all carry the high bit and run to the end of the input. -/
theorem readVarintLoop_canonical {bits : ℕ} :
    ∀ {b : List UInt8} {shift read write : ℕ} {n : Int} {v : ℕ} {rest : List UInt8},
      readVarintLoop bits shift read write b = (n, v, rest) → 0 ≤ n → write < 2 ^ shift →
      (∃ u, (shift ≠ 0 → u ≠ 0) ∧ b = writeVarint u ++ rest ∧ v = write + u * 2 ^ shift) ∨
        (rest = [] ∧ ∀ x ∈ b, 128 ≤ x.toNat) := by
  intro b
  induction b with
  | nil =>
    intro shift read write n v rest h _ _
    simp only [readVarintLoop, Prod.mk.injEq] at h
    exact .inr ⟨h.2.2.symm, by simp⟩
  | cons byte bs ih =>
    intro shift read write n v rest h hn hw
    simp only [readVarintLoop] at h
    by_cases hover : shift + 7 ≥ bits ∧ byte.toNat ≥ 2 ^ (bits - shift)
    · rw [if_pos hover] at h
      simp only [Prod.mk.injEq] at h
      simp [← h.1, evarintOverflow] at hn
    rw [if_neg hover] at h
    by_cases hzero : byte.toNat = 0 ∧ shift ≠ 0
    · rw [if_pos hzero] at h
      simp only [Prod.mk.injEq] at h
      simp [← h.1, evarintRepresent] at hn
    rw [if_neg hzero, and_0x7f, or_shiftLeft hw] at h
    have hlt := byte.toNat_lt
    by_cases hlast : byte.toNat &&& 0x80 = 0
    · -- a byte without the high bit ends the varint: it is the whole encoding of its value
      rw [if_pos hlast] at h
      simp only [Prod.mk.injEq] at h
      have hsmall : byte.toNat < 128 := (and_0x80_eq_zero hlt).mp hlast
      refine .inl ⟨byte.toNat, fun hs => by omega, ?_, ?_⟩
      · rw [writeVarint_of_lt hsmall, UInt8.ofNat_toNat, h.2.2]
        rfl
      · rw [← h.2.1, Nat.mod_eq_of_lt hsmall]
    · rw [if_neg hlast] at h
      have hbig : 128 ≤ byte.toNat := by
        by_contra hs
        exact hlast ((and_0x80_eq_zero hlt).mpr (by omega))
      have hw' : write + byte.toNat % 128 * 2 ^ shift < 2 ^ (shift + 7) := by
        have : (byte.toNat % 128) * 2 ^ shift + 2 ^ shift ≤ 2 ^ 7 * 2 ^ shift := by
          rw [← Nat.succ_mul]; exact Nat.mul_le_mul_right _ (by omega)
        rw [Nat.pow_add, Nat.mul_comm (2 ^ shift)]
        omega
      rcases ih h hn hw' with ⟨u, hu, hbs, hv⟩ | ⟨hrest, hall⟩
      · -- the rest of the encoding: `byte` and `u` make up the value `byte % 128 + 128 * u`
        have hu0 : u ≠ 0 := hu (by omega)
        have hcode : 128 ≤ byte.toNat % 128 + 128 * u := by omega
        refine .inl ⟨byte.toNat % 128 + 128 * u, fun _ => by omega, ?_, ?_⟩
        · have hmod : (byte.toNat % 128 + 128 * u) % 128 + 128 = byte.toNat := by omega
          have hdiv : (byte.toNat % 128 + 128 * u) / 128 = u := by omega
          rw [writeVarint_eq_cons hcode, hmod, hdiv, UInt8.ofNat_toNat, List.cons_append, ← hbs]
        · rw [hv, Nat.pow_add]
          ring
      · exact .inr ⟨hrest, by simpa [hbig] using hall⟩

/-- A varint `read_varint` accepts is the writer's encoding of its value, followed by the rest
of the input, or a truncated tail: bytes that all carry the high bit, up to the end. -/
theorem readVarint_canonical {bits : ℕ} {b : List UInt8} {n : Int} {v : ℕ} {rest : List UInt8}
    (h : readVarint bits b = (n, v, rest)) (hn : 0 ≤ n) :
    b = writeVarint v ++ rest ∨ (rest = [] ∧ ∀ x ∈ b, 128 ≤ x.toNat) := by
  rcases readVarintLoop_canonical h hn (by decide) with ⟨u, -, hb, hv⟩ | htrunc
  · left
    simpa [hv] using hb
  · exact .inr htrunc

/-- A number below `2^s` with a digit below `2^k` put above it stays below `2^(s + k)`. -/
theorem add_mul_pow_lt {w x s k : ℕ} (hw : w < 2 ^ s) (hx : x < 2 ^ k) :
    w + x * 2 ^ s < 2 ^ (s + k) := by
  calc w + x * 2 ^ s < 2 ^ s + x * 2 ^ s := by omega
    _ = (x + 1) * 2 ^ s := by ring
    _ ≤ 2 ^ k * 2 ^ s := Nat.mul_le_mul_right _ hx
    _ = 2 ^ (s + k) := by rw [Nat.pow_add, Nat.mul_comm]

/-- The number the 7-bit groups of some bytes encode, lowest group first. -/
def varintGroups (consumed : List UInt8) : ℕ :=
  Nat.ofDigits 128 (consumed.map fun byte => byte.toNat % 128)

@[simp] theorem varintGroups_cons (byte : UInt8) (bs : List UInt8) :
    varintGroups (byte :: bs) = byte.toNat % 128 + 128 * varintGroups bs := by
  simp [varintGroups, Nat.ofDigits_cons]

/-- What the loop builds when it returns a count: the number the groups of the bytes it
consumed encode, added at its place, and below `2^bits`, so that no group leaves the type.
After its first byte the loop only runs at shifts below `bits`: a byte with the high bit set at
the shift of the last group overflows. -/
theorem readVarintLoop_groups {bits : ℕ} :
    ∀ {b : List UInt8} {shift read write : ℕ} {n : Int} {v : ℕ} {rest : List UInt8},
      readVarintLoop bits shift read write b = (n, v, rest) → 0 ≤ n → write < 2 ^ shift →
      (shift = 0 ∨ shift < bits) →
      ∃ consumed, b = consumed ++ rest ∧ n = ((read + consumed.length : ℕ) : Int) ∧
        v = write + varintGroups consumed * 2 ^ shift ∧ v < 2 ^ bits := by
  intro b
  induction b with
  | nil =>
    intro shift read write n v rest h _ hw hshift
    simp only [readVarintLoop, Prod.mk.injEq] at h
    obtain ⟨rfl, rfl, rfl⟩ := h
    refine ⟨[], rfl, by simp, by simp [varintGroups], ?_⟩
    rcases hshift with rfl | hlt
    · exact lt_of_lt_of_le hw (Nat.one_le_two_pow)
    · exact lt_of_lt_of_le hw (Nat.pow_le_pow_right (by decide) hlt.le)
  | cons byte bs ih =>
    intro shift read write n v rest h hn hw hshift
    simp only [readVarintLoop] at h
    by_cases hover : shift + 7 ≥ bits ∧ byte.toNat ≥ 2 ^ (bits - shift)
    · rw [if_pos hover] at h
      simp only [Prod.mk.injEq] at h
      simp [← h.1, evarintOverflow] at hn
    rw [if_neg hover] at h
    by_cases hzero : byte.toNat = 0 ∧ shift ≠ 0
    · rw [if_pos hzero] at h
      simp only [Prod.mk.injEq] at h
      simp [← h.1, evarintRepresent] at hn
    rw [if_neg hzero, and_0x7f, or_shiftLeft hw] at h
    have hlt := byte.toNat_lt
    have hle : shift ≤ bits := by omega
    by_cases hlast : byte.toNat &&& 0x80 = 0
    · -- the last byte: below `2^(bits - shift)` when it holds the last group
      rw [if_pos hlast] at h
      simp only [Prod.mk.injEq] at h
      obtain ⟨rfl, rfl, rfl⟩ := h
      have hsmall : byte.toNat < 128 := (and_0x80_eq_zero hlt).mp hlast
      refine ⟨[byte], rfl, by simp, by simp [varintGroups], ?_⟩
      by_cases hroom : shift + 7 < bits
      · calc write + byte.toNat % 128 * 2 ^ shift < 2 ^ (shift + 7) :=
            add_mul_pow_lt hw (Nat.mod_lt _ (by decide))
          _ ≤ 2 ^ bits := Nat.pow_le_pow_right (by decide) hroom.le
      · have hfit : byte.toNat % 128 < 2 ^ (bits - shift) := by
          rw [Nat.mod_eq_of_lt hsmall]
          omega
        have := add_mul_pow_lt hw hfit
        rwa [Nat.add_sub_cancel' hle] at this
    · -- a byte with the high bit set comes below the last group's shift
      rw [if_neg hlast] at h
      have hbig : 128 ≤ byte.toNat := by
        by_contra hs
        exact hlast ((and_0x80_eq_zero hlt).mpr (by omega))
      have hroom : shift + 7 < bits := by
        by_contra hge
        have : 2 ^ (bits - shift) ≤ 2 ^ 7 := Nat.pow_le_pow_right (by decide) (by omega)
        exact hover ⟨by omega, by omega⟩
      have hw' : write + byte.toNat % 128 * 2 ^ shift < 2 ^ (shift + 7) :=
        add_mul_pow_lt hw (Nat.mod_lt _ (by decide))
      obtain ⟨consumed, hb, hn', hv, hvlt⟩ := ih h hn hw' (.inr hroom)
      refine ⟨byte :: consumed, by rw [hb, List.cons_append], ?_, ?_, hvlt⟩
      · rw [hn', List.length_cons]
        push_cast
        ring
      · rw [hv, varintGroups_cons, Nat.pow_add]
        ring

/-- The loop on the writer's encoding of a value that does not fit from `shift` on: it stops
with `EVARINT_OVERFLOW` at the group that leaves the type. -/
theorem readVarintLoop_writeVarint_overflow (bits : ℕ) (rest : List UInt8) (u : ℕ) :
    ∀ {shift read write : ℕ}, write < 2 ^ shift → (shift ≠ 0 → u ≠ 0) →
      2 ^ bits ≤ write + u * 2 ^ shift →
      (readVarintLoop bits shift read write (writeVarint u ++ rest)).1 = evarintOverflow := by
  induction u using Nat.strongRecOn with
  | ind u ih =>
    intro shift read write hw hu hbig
    by_cases hsmall : u < 128
    · -- the last byte holds a group past the type
      have hbyte : (UInt8.ofNat u).toNat = u := by rw [UInt8.toNat_ofNat']; omega
      have hroom : shift + 7 ≥ bits := by
        by_contra hlt
        have := add_mul_pow_lt hw (show u < 2 ^ 7 by omega)
        have : 2 ^ (shift + 7) ≤ 2 ^ bits := Nat.pow_le_pow_right (by decide) (by omega)
        omega
      have hover : u ≥ 2 ^ (bits - shift) := by
        by_contra hfit
        by_cases hle : shift ≤ bits
        · have := add_mul_pow_lt hw (show u < 2 ^ (bits - shift) by omega)
          rw [Nat.add_sub_cancel' hle] at this
          omega
        · have : bits - shift = 0 := by omega
          rw [this] at hfit
          have : u = 0 := by omega
          have : shift ≠ 0 := by omega
          exact hu this ‹u = 0›
      rw [writeVarint_of_lt hsmall, List.singleton_append, readVarintLoop, hbyte,
        if_pos ⟨hroom, hover⟩]
    · have hbig' : 128 ≤ u := Nat.le_of_not_lt hsmall
      have hbyte : (UInt8.ofNat (u % 128 + 128)).toNat = u % 128 + 128 := by
        rw [UInt8.toNat_ofNat']; omega
      by_cases hroom : shift + 7 ≥ bits
      · -- a byte with the high bit set at the last group's shift
        have : 2 ^ (bits - shift) ≤ 2 ^ 7 := Nat.pow_le_pow_right (by decide) (by omega)
        rw [writeVarint_eq_cons hbig', List.cons_append, readVarintLoop, hbyte,
          if_pos ⟨hroom, by omega⟩]
      · have hw' : write + (u % 128) * 2 ^ shift < 2 ^ (shift + 7) :=
          add_mul_pow_lt hw (Nat.mod_lt _ (by decide))
        have hsplit : write + (u % 128) * 2 ^ shift + u / 128 * 2 ^ (shift + 7) =
            write + u * 2 ^ shift := by
          have hu : u = u % 128 + 128 * (u / 128) := (Nat.mod_add_div u 128).symm
          conv_rhs => rw [hu]
          rw [Nat.pow_add]
          ring
        rw [writeVarint_eq_cons hbig', List.cons_append, readVarintLoop, hbyte,
          if_neg (by omega), if_neg (by omega), and_0x7f, Nat.add_mod_right, Nat.mod_mod,
          or_shiftLeft hw, if_neg (by rw [and_0x80_eq_zero (by omega)]; omega)]
        exact ih (u / 128) (by omega) hw' (fun _ => by omega) (by omega)

/-- The loop on bytes that all have the high bit set, then a zero byte, while the zero group lies
below `bits` and is not the first group: it stops with `EVARINT_REPRESENT` at the zero byte. -/
theorem readVarintLoop_zeroAfter (bits : ℕ) (rest : List UInt8) :
    ∀ (p : List UInt8) {shift read write : ℕ}, (∀ byte ∈ p, 0x80 ≤ byte.toNat) →
      (shift ≠ 0 ∨ p ≠ []) → shift + 7 * p.length < bits →
        (readVarintLoop bits shift read write (p ++ 0 :: rest)).1 = evarintRepresent
  | [], shift, _, _, _, hfirst, _ => by
    have hshift : shift ≠ 0 := hfirst.resolve_right (fun h => h rfl)
    have hzero : (0 : UInt8).toNat = 0 := rfl
    -- a zero byte is below every bound of the overflow test
    rw [List.nil_append, readVarintLoop, hzero,
      if_neg (by have := Nat.two_pow_pos (bits - shift); omega), if_pos ⟨rfl, hshift⟩]
  | byte :: p, shift, count, write, hhigh, _, hroom => by
    have hbyte := hhigh byte List.mem_cons_self
    simp only [List.length_cons] at hroom
    -- a byte with the high bit set inside the type neither overflows nor ends the varint
    rw [List.cons_append, readVarintLoop, if_neg (by omega), if_neg (by omega),
      if_neg (by rw [and_0x80_eq_zero byte.toNat_lt]; omega)]
    exact readVarintLoop_zeroAfter bits rest p (fun b hb => hhigh b (List.mem_cons_of_mem byte hb))
      (.inl (by omega)) (by omega)

/-- A `do_serialize` for `binary_archive<false>`: `none` is `return false`. -/
def Reader (α : Type) : Type := Istream → Option (α × Istream)

instance : Monad Reader where
  pure a s := some (a, s)
  bind x f s := (x s).bind fun p => f p.1 p.2

section Readers

variable {α β : Type}

@[simp] theorem pure_apply (a : α) (s : Istream) : (pure a : Reader α) s = some (a, s) := rfl

@[simp] theorem bind_apply (x : Reader α) (f : α → Reader β) (s : Istream) :
    (x >>= f) s = (x s).bind fun p => f p.1 p.2 := rfl

/-- `if (!ar.stream().good()) return false;`, and `END_SERIALIZE()`. -/
def guardGood : Reader Unit := fun s => if s.good then some ((), s) else none

/-- The sanity check of `string.h` and `container.h`: no more elements than bytes left, or
`failbit` and `return false`. -/
def checkRemaining (size : ℕ) : Reader Unit := fun s =>
  if s.remainingBytes < size then none else some ((), s)

/-- The loop of `serialize_uint`, from `shift` with the value `ret` so far:
`ret += (b << shift)` for each byte `get` reads. -/
def serializeUintLoop : ℕ → ℕ → ℕ → Istream → ℕ × Istream
  | 0, _, ret, s => (ret, s)
  | n + 1, shift, ret, s =>
    let c := s.get
    serializeUintLoop n (shift + 8) (ret + c.1.toNat <<< shift) c.2

/-- `serialize_uint` over the `width` bytes of its type; `serialize_int` reads the unsigned
type of the same width. -/
def serializeUint (width : ℕ) : Reader ℕ := fun s => some (serializeUintLoop width 0 0 s)

/-- `serialize_blob`: `read` the bytes of a blob type. -/
def serializeBlob (len : ℕ) : Reader (List UInt8) := fun s => some (s.read len)

/-- `serialize_varint` of a `bits`-bit unsigned type: `read_varint` on an
`istreambuf_iterator`, which reads the stream's buffer without looking at or changing its
state; a negative count sets `failbit`. -/
def serializeVarint (bits : ℕ) : Reader ℕ := fun s =>
  let r := readVarint bits s.rest
  some (r.2.1, { s with rest := r.2.2, fail := s.fail || decide (r.1 < 0) })

/-- `FIELD(f)`: serialize the field, then `return false` unless the stream is `good()`;
`VARINT_FIELD(f)` is `field (serializeVarint bits)`. -/
def field (r : Reader α) : Reader α := do
  let v ← r
  guardGood
  pure v

/-- `do_serialize` of a `std::string`: its `size_t` size as a varint, the sanity check, and
the bytes. -/
def readString : Reader (List UInt8) := do
  let size ← serializeVarint 64
  checkRemaining size
  serializeBlob size

/-- The element loop of `do_serialize_container`: each element, then `good()`. -/
def readElems (elem : Reader α) : ℕ → Reader (List α)
  | 0 => pure []
  | n + 1 => do
    let e ← elem
    guardGood
    let es ← readElems elem n
    pure (e :: es)

/-- `do_serialize_container` for `binary_archive<false>`: `begin_array` reads the `size_t`
count as a varint, then the sanity check and the elements. -/
def readContainer (elem : Reader α) : Reader (List α) := do
  let cnt ← serializeVarint 64
  guardGood
  checkRemaining cnt
  readElems elem cnt

/-- `check_stream_state(ar)` of a reading archive: `good()` and `EOF == peek()`. -/
def checkStreamState (s : Istream) : Bool := s.good && s.rest.isEmpty

/-- `serialization::serialize`: `do_serialize`, then `check_stream_state`. -/
def serialize (r : Reader α) : Reader α := fun s =>
  match r s with
  | some (v, s') => if checkStreamState s' then some (v, s') else none
  | none => none

/-- `serialization::parse_binary`: `serialize` from a fresh stream over the blob. -/
def parseBinary (r : Reader α) (blob : List UInt8) : Option α :=
  (serialize r (.ofBlob blob)).map Prod.fst

end Readers

/-! ## Writers -/

/-- `serialize_uint` of `binary_archive<true>`: the `width` bytes of the value, lowest first. -/
def writeUint : ℕ → ℕ → List UInt8
  | 0, _ => []
  | width + 1, v => UInt8.ofNat (v &&& 0xff) :: writeUint width (v >>> 8)

/-- `do_serialize` of a `std::string` for `binary_archive<true>`. -/
def writeString (str : List UInt8) : List UInt8 := writeVarint str.length ++ str

/-- `do_serialize_container` for `binary_archive<true>`. -/
def writeContainer {α : Type} (elem : α → List UInt8) (v : List α) : List UInt8 :=
  writeVarint v.length ++ v.flatMap elem

/-! ## Blobs as numbers -/

/-- The number whose little-endian bytes are `b`: what a blob type such as a key holds. -/
def leValue : List UInt8 → ℕ
  | [] => 0
  | c :: cs => c.toNat + 256 * leValue cs

/-- `do_serialize` of a blob type of `n` bytes, read as the number its bytes hold. -/
def readBlobNat (n : ℕ) : Reader ℕ := do
  let b ← serializeBlob n
  pure (leValue b)

theorem leValue_writeUint : ∀ (width v : ℕ), leValue (writeUint width v) = v % 256 ^ width
  | 0, v => by simp [leValue, writeUint, Nat.mod_one]
  | width + 1, v => by
    have hbyte : (UInt8.ofNat (v &&& 0xff)).toNat = v % 256 := by
      rw [UInt8.toNat_ofNat', Nat.and_two_pow_sub_one_eq_mod v 8]
      omega
    have hsplit : v % 256 ^ (width + 1) = v % 256 + 256 * (v / 256 % 256 ^ width) := by
      rw [Nat.pow_succ, Nat.mul_comm _ 256, Nat.mod_mul]
    rw [writeUint, leValue, hbyte, leValue_writeUint width, Nat.shiftRight_eq_div_pow, hsplit]

theorem leValue_lt : ∀ b : List UInt8, leValue b < 256 ^ b.length
  | [] => by simp [leValue]
  | c :: cs => by
    have hc := c.toNat_lt
    have hcs := leValue_lt cs
    rw [leValue, List.length_cons, Nat.pow_succ]
    omega

/-- Writing the value of `b` back in `b.length` bytes gives `b`. -/
theorem writeUint_leValue : ∀ b : List UInt8, writeUint b.length (leValue b) = b
  | [] => rfl
  | c :: cs => by
    have hc := c.toNat_lt
    have hbyte : (c.toNat + 256 * leValue cs) &&& 0xff = c.toNat := by
      rw [Nat.and_two_pow_sub_one_eq_mod _ 8]
      omega
    have hrest : (c.toNat + 256 * leValue cs) >>> 8 = leValue cs := by
      rw [Nat.shiftRight_eq_div_pow]
      omega
    rw [List.length_cons, writeUint, leValue, hbyte, hrest, writeUint_leValue cs,
      UInt8.ofNat_toNat]

/-! ## Round trips -/

section RoundTrip

variable {α : Type}

/-- `r` reads back what `w` writes, for every value that satisfies `P`: from a fresh stream
that holds the encoding first, it returns the value and leaves the bytes after it. -/
def ReadsBack (r : Reader α) (w : α → List UInt8) (P : α → Prop) : Prop :=
  ∀ v, P v → ∀ rest, r (.ofBlob (w v ++ rest)) = some (v, .ofBlob rest)

@[simp] theorem guardGood_ofBlob (b : List UInt8) : guardGood (ofBlob b) = some ((), ofBlob b) :=
  rfl

theorem checkRemaining_ofBlob {size : ℕ} {b : List UInt8} (h : size ≤ b.length) :
    checkRemaining size (ofBlob b) = some ((), ofBlob b) := by
  simp [checkRemaining, Nat.not_lt.mpr h]

theorem serializeVarint_append {bits v : ℕ} (hv : v < 2 ^ bits) (rest : List UInt8) :
    serializeVarint bits (ofBlob (writeVarint v ++ rest)) = some (v, ofBlob rest) := by
  simp [serializeVarint, readVarint_writeVarint hv, ofBlob]

theorem serializeVarint_ofBlob {bits : ℕ} {b : List UInt8} {n : Int} {v : ℕ}
    {rest : List UInt8} (h : readVarint bits b = (n, v, rest)) :
    serializeVarint bits (ofBlob b) = some (v, ⟨rest, decide (n < 0), false⟩) := by
  simp [serializeVarint, h, ofBlob]

theorem serializeBlob_append {b : List UInt8} {n : ℕ} (hb : b.length = n) (rest : List UInt8) :
    serializeBlob n (ofBlob (b ++ rest)) = some (b, ofBlob rest) := by
  simp [serializeBlob, read_ofBlob_append hb]

theorem serializeUintLoop_writeUint (rest : List UInt8) :
    ∀ (width v shift ret : ℕ), serializeUintLoop width shift ret (ofBlob (writeUint width v ++ rest)) =
      (ret + v % 256 ^ width * 2 ^ shift, ofBlob rest)
  | 0, v, shift, ret => by simp [serializeUintLoop, writeUint, Nat.mod_one]
  | width + 1, v, shift, ret => by
    have hbyte : (UInt8.ofNat (v &&& 0xff)).toNat = v % 256 := by
      rw [UInt8.toNat_ofNat', Nat.and_two_pow_sub_one_eq_mod v 8]
      omega
    have hsplit : v % 256 ^ (width + 1) = v % 256 + 256 * (v / 256 % 256 ^ width) := by
      rw [Nat.pow_succ, Nat.mul_comm _ 256, Nat.mod_mul]
    simp only [writeUint, List.cons_append, serializeUintLoop, get_ofBlob_cons, hbyte,
      Nat.shiftRight_eq_div_pow, Nat.shiftLeft_eq, serializeUintLoop_writeUint rest width]
    rw [hsplit, Nat.pow_add]
    congr 1
    ring

theorem serializeUint_append (width v : ℕ) (rest : List UInt8) :
    serializeUint width (ofBlob (writeUint width v ++ rest)) = some (v % 256 ^ width, ofBlob rest) := by
  simp [serializeUint, serializeUintLoop_writeUint]

theorem length_writeUint : ∀ (width v : ℕ), (writeUint width v).length = width
  | 0, _ => rfl
  | width + 1, v => by simp [writeUint, length_writeUint width]

theorem readBlobNat_readsBack (n : ℕ) : ReadsBack (readBlobNat n) (writeUint n) (· < 256 ^ n) := by
  intro v hv rest
  simp [readBlobNat, serializeBlob_append (length_writeUint n v), leValue_writeUint,
    Nat.mod_eq_of_lt hv]

theorem field_readsBack {r : Reader α} {w : α → List UInt8} {P : α → Prop}
    (h : ReadsBack r w P) : ReadsBack (field r) w P := by
  intro v hv rest
  simp [field, h v hv rest]

theorem readString_append {str : List UInt8} (hs : str.length < 2 ^ 64) (rest : List UInt8) :
    readString (ofBlob (writeString str ++ rest)) = some (str, ofBlob rest) := by
  simp [readString, writeString, serializeVarint_append hs,
    checkRemaining_ofBlob (show str.length ≤ (str ++ rest).length by simp),
    serializeBlob_append rfl]

theorem readElems_append {elem : Reader α} {w : α → List UInt8} {P : α → Prop}
    (h : ReadsBack elem w P) (rest : List UInt8) :
    ∀ v : List α, (∀ e ∈ v, P e) →
      readElems elem v.length (ofBlob (v.flatMap w ++ rest)) = some (v, ofBlob rest)
  | [], _ => rfl
  | e :: es, hv => by
    have he := h e (hv e (by simp)) (es.flatMap w ++ rest)
    have hes := readElems_append h rest es (fun x hx => hv x (by simp [hx]))
    simp [readElems, List.flatMap_cons, List.append_assoc, he, hes]

theorem length_le_length_flatMap {w : α → List UInt8} :
    ∀ {v : List α}, (∀ e ∈ v, (w e) ≠ []) → v.length ≤ (v.flatMap w).length
  | [], _ => by simp
  | e :: es, hv => by
    have hne : (w e).length ≠ 0 := by simpa using hv e (by simp)
    have hes := length_le_length_flatMap (v := es) (fun x hx => hv x (by simp [hx]))
    simp only [List.length_cons, List.flatMap_cons, List.length_append]
    omega

/-- A container reads back what its writer wrote, when the elements do and none of them is
written as no bytes (the sanity check counts bytes). -/
theorem readContainer_readsBack {elem : Reader α} {w : α → List UInt8} {P : α → Prop}
    (h : ReadsBack elem w P) (hne : ∀ e, P e → w e ≠ []) :
    ReadsBack (readContainer elem) (writeContainer w)
      (fun v => v.length < 2 ^ 64 ∧ ∀ e ∈ v, P e) := by
  intro v ⟨hlen, hv⟩ rest
  have hroom : v.length ≤ (v.flatMap w ++ rest).length := by
    have := length_le_length_flatMap (w := w) (fun e he => hne e (hv e he))
    simp only [List.length_append]
    omega
  simp [readContainer, writeContainer, List.append_assoc, serializeVarint_append hlen,
    checkRemaining_ofBlob hroom, readElems_append h rest v hv]

/-- `parse_binary` reads back a value from exactly its encoding. -/
theorem parseBinary_readsBack {r : Reader α} {w : α → List UInt8} {P : α → Prop}
    (h : ReadsBack r w P) {v : α} (hv : P v) : parseBinary r (w v) = some v := by
  have hr := h v hv []
  rw [List.append_nil] at hr
  simp [parseBinary, serialize, hr, checkStreamState]

end RoundTrip

/-! ## `txin_gen` -/

/-- `txin_gen::do_serialize` for `binary_archive<false>`: `VARINT_FIELD(height)` of the
`size_t` height, then `END_SERIALIZE()`. -/
def readTxinGen : Reader ℕ := do
  let height ← field (serializeVarint 64)
  guardGood
  pure height

/-- `txin_gen::do_serialize` for `binary_archive<true>`. -/
def writeTxinGen (height : ℕ) : List UInt8 := writeVarint height

theorem readTxinGen_readsBack : ReadsBack readTxinGen writeTxinGen (· < 2 ^ 64) := by
  intro height hh rest
  simp [readTxinGen, field, writeTxinGen, serializeVarint_append hh]

/-- What `parse_binary` accepts as a `txin_gen`: the writer's encoding of the height, or a
varint cut off at the end of the blob. -/
theorem parseBinary_txinGen {b : List UInt8} {height : ℕ}
    (h : parseBinary readTxinGen b = some height) :
    b = writeTxinGen height ∨ ∀ x ∈ b, 128 ≤ x.toNat := by
  rcases hr : readVarint 64 b with ⟨n, v, rest⟩
  have hs := serializeVarint_ofBlob hr
  by_cases hn : n < 0
  · -- `serialize_uvarint` sets `failbit`, and `VARINT_FIELD` returns false
    simp [parseBinary, serialize, readTxinGen, field, hs, hn, guardGood, good] at h
  · have hread : readTxinGen (ofBlob b) = some (v, ofBlob rest) := by
      simp only [readTxinGen, field, bind_apply, hs, Option.bind_some, guardGood, good, hn,
        decide_false, Bool.not_false, Bool.and_self, if_true, pure_apply]
      rfl
    simp only [parseBinary, serialize, hread, checkStreamState, good_ofBlob, rest_ofBlob,
      Bool.true_and] at h
    by_cases hrest : rest = []
    · subst hrest
      simp only [List.isEmpty_nil, if_true, Option.map_some, Option.some.injEq] at h
      subst h
      rcases readVarint_canonical hr (by omega) with hb | ⟨_, htrunc⟩
      · exact .inl (by simpa [writeTxinGen] using hb)
      · exact .inr htrunc
    · simp [List.isEmpty_iff, hrest] at h

/-- `parse_binary` accepts a `txin_gen` that ends inside its varint, and the empty blob, with
height 0, which the writer encodes as the single byte 0. -/
theorem truncated_varint_parses :
    parseBinary readTxinGen [0x80] = some 0 ∧ parseBinary readTxinGen [] = some 0 ∧
      writeTxinGen 0 = [0x00] := by
  refine ⟨rfl, rfl, ?_⟩
  rw [writeTxinGen, writeVarint_of_lt (by decide)]
  rfl

end Equilibria.BinaryArchive
