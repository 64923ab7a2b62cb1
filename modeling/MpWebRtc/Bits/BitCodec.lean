import Mathlib.Algebra.BigOperators.Group.List.Basic
import MpWebRtc.Bits.BitReading
import MpWebRtc.Bits.BitWriting

/-!
# Codes of bits are read as they were written

Every write puts a number of some width at the place of the buffer, and the reader that belongs to
it finds the value from this number alone. So a sequence of values that has been written is read
from the place where it starts, whatever the places and the widths are: later writes do not touch
what is in front of them.
-/

namespace MpWebRtc

open Math

/-- The writes of a `BitBufferWriter`. -/
inductive BitOperation
  | bits (val : UInt64) (bitCount : Nat)
  | nonSymmetric (val numValues : UInt32)
  | exponentialGolomb (val : UInt32)
  | signedExponentialGolomb (val : Int)

/-- The reads of a `BitBuffer`; a wide number can be read in pieces. -/
inductive BitRead
  | bits (pieces : List Nat)
  | nonSymmetric (numValues : UInt32)
  | exponentialGolomb
  | signedExponentialGolomb

namespace BitOperation

/-- What can be written: up to 64 bits, one of several values, a signed number of 32 bits. -/
def Formed : BitOperation → Prop
  | .bits _ bitCount => 1 ≤ bitCount ∧ bitCount ≤ 64
  | .nonSymmetric _ numValues => 2 ≤ numValues.toNat
  | .exponentialGolomb _ => True
  | .signedExponentialGolomb val => -2 ^ 31 ≤ val ∧ val < 2 ^ 31

/-- The value that is written; of a number as many bits as there is room for. -/
def value : BitOperation → Int
  | .bits val bitCount => (val.toNat % 2 ^ bitCount : Nat)
  | .nonSymmetric val _ => val.toNat
  | .exponentialGolomb val => val.toNat
  | .signedExponentialGolomb val => val

/-- The read that belongs to a write. -/
inductive Matches : BitOperation → BitRead → Prop
  | bits (val : UInt64) (pieces : List Nat) (few : ∀ piece ∈ pieces, 0 < piece ∧ piece ≤ 32) :
      Matches (.bits val pieces.sum) (.bits pieces)
  | nonSymmetric (val numValues : UInt32) :
      Matches (.nonSymmetric val numValues) (.nonSymmetric numValues)
  | exponentialGolomb (val : UInt32) : Matches (.exponentialGolomb val) .exponentialGolomb
  | signedExponentialGolomb (val : Int) :
      Matches (.signedExponentialGolomb val) .signedExponentialGolomb

end BitOperation

namespace BitBuffer

/-- One write. -/
def write (buffer : BitBuffer) : BitOperation → Except BitBufferFault (Bool × BitBuffer)
  | .bits val bitCount => buffer.writeBits val bitCount
  | .nonSymmetric val numValues => buffer.writeNonSymmetric val numValues
  | .exponentialGolomb val => buffer.writeExponentialGolomb val
  | .signedExponentialGolomb val => buffer.writeSignedExponentialGolomb val

/-- A sequence of writes; none where one of them fails. -/
def writeAll : BitBuffer → List BitOperation → Option BitBuffer
  | buffer, [] => some buffer
  | buffer, operation :: operations =>
      match buffer.write operation with
      | .ok (true, next) => next.writeAll operations
      | _ => none

/-- A number in pieces, behind those that have been read. -/
def readPieces : BitBuffer → Nat → List Nat → Except BitBufferFault (Option Nat × BitBuffer)
  | buffer, val, [] => .ok (some val, buffer)
  | buffer, val, piece :: pieces => do
      let read ← buffer.readBits piece
      match read.1 with
      | none => return (none, read.2)
      | some low => read.2.readPieces (val * 2 ^ piece + low.toNat) pieces

/-- One read. -/
def read (buffer : BitBuffer) : BitRead → Except BitBufferFault (Option Int × BitBuffer)
  | .bits pieces =>
      (buffer.readPieces 0 pieces).map fun read => (read.1.map fun val => (val : Int), read.2)
  | .nonSymmetric numValues =>
      (buffer.readNonSymmetric numValues).map fun read =>
        (read.1.map fun val => (val.toNat : Int), read.2)
  | .exponentialGolomb =>
      buffer.readExponentialGolomb.map fun read =>
        (read.1.map fun val => (val.toNat : Int), read.2)
  | .signedExponentialGolomb => buffer.readSignedExponentialGolomb

/-- A sequence of reads, up to one that fails. -/
def readAll : BitBuffer → List BitRead → Except BitBufferFault (Option (List Int) × BitBuffer)
  | buffer, [] => .ok (some [], buffer)
  | buffer, first :: rest => do
      let one ← buffer.read first
      match one.1 with
      | none => return (none, one.2)
      | some val =>
          let more ← one.2.readAll rest
          return (more.1.map fun vals => val :: vals, more.2)

section Codes

variable {buffer after other : BitBuffer} {number width bitCount : Nat}

/-- A buffer has a number at its place. -/
structure Holds (buffer : BitBuffer) (number width : Nat) : Prop where
  enough : buffer.position + width ≤ buffer.size
  spells : field (bitAt buffer.bytes) buffer.position width = number % 2 ^ width

/-- What has been written is there, also after later writes. -/
theorem Wrote.holds (wrote : buffer.Wrote after number width)
    (enough : after.position ≤ after.size) (place : other.position = buffer.position)
    (size : other.size = after.size)
    (same : ∀ i, i < after.position → bitAt other.bytes i = bitAt after.bytes i) :
    other.Holds number width where
  enough := by
    rw [place, size, ← wrote.position]
    exact enough
  spells := by
    have behind := wrote.position
    rw [place]
    refine field_eq_mod fun i below => ?_
    rw [same (buffer.position + i) (by omega), wrote.bits, if_pos (by omega),
      Nat.add_sub_cancel_left]

/-- A write of bits that succeeds. -/
theorem writeBits_wrote {val : UInt64} (positive : 0 < bitCount) (few : bitCount ≤ 64)
    (written : buffer.writeBits val bitCount = .ok (true, after)) :
    buffer.Wrote after val.toNat bitCount := by
  by_cases enough : buffer.position + bitCount ≤ buffer.size
  · obtain ⟨after', written', wrote⟩ := writeBits_of_enough val positive few enough
    rw [written] at written'
    rw [(Prod.mk.inj (Except.ok.inj written')).2]
    exact wrote
  · rw [writeBits_of_short val (Nat.not_le.mp enough)] at written
    cases written

/-- A number is read in pieces. -/
theorem readPieces_spec (pieces : List Nat) (start : Nat)
    (few : ∀ piece ∈ pieces, 0 < piece ∧ piece ≤ 32)
    (enough : buffer.position + pieces.sum ≤ buffer.size) :
    ∃ after, buffer.readPieces start pieces =
        .ok (some (start * 2 ^ pieces.sum +
          field (bitAt buffer.bytes) buffer.position pieces.sum), after) ∧
      buffer.MovesBy after pieces.sum := by
  induction pieces generalizing buffer start with
  | nil => exact ⟨buffer, by simp [readPieces], rfl, rfl⟩
  | cons piece pieces ih =>
      obtain ⟨⟨positive, atMost⟩, fewRest⟩ := List.forall_mem_cons.mp few
      rw [List.sum_cons] at enough
      have firstRoom : buffer.position + piece ≤ buffer.size := by omega
      obtain ⟨middle, first, moves⟩ := readBits_of_enough positive atMost firstRoom
      have restRoom : middle.position + pieces.sum ≤ middle.size := by
        rw [moves.position, moves.size]
        omega
      have range := field_lt (bitAt buffer.bytes) buffer.position piece
      have small : 2 ^ piece ≤ 2 ^ 32 := Nat.pow_le_pow_right (by omega) atMost
      have number : (UInt32.ofNat (field (bitAt buffer.bytes) buffer.position piece)).toNat =
          field (bitAt buffer.bytes) buffer.position piece := by
        rw [UInt32.toNat_ofNat']
        exact Nat.mod_eq_of_lt (by omega)
      obtain ⟨after, rest, moves'⟩ := ih (start * 2 ^ piece +
        field (bitAt buffer.bytes) buffer.position piece) fewRest restRoom
      refine ⟨after, ?_, ?_⟩
      · unfold readPieces
        rw [first]
        show middle.readPieces (start * 2 ^ piece + _) pieces = _
        rw [number, rest, moves.bytes, moves.position, List.sum_cons, field_add]
        refine congrArg (fun val => Except.ok (some val, after)) ?_
        ring
      · rw [List.sum_cons]
        exact moves.trans moves'

end Codes

section Operations

variable {buffer after other : BitBuffer} {operation : BitOperation} {number width : Nat}

/-- A buffer that holds the number of an operation is read as its value. -/
def Decodes (operation : BitOperation) (number width : Nat) : Prop :=
  ∀ other : BitBuffer, other.Holds number width → ∀ read, operation.Matches read →
    ∃ after, other.read read = .ok (some operation.value, after) ∧ other.MovesBy after width

theorem decodes_bits (val : UInt64) (bitCount : Nat) :
    Decodes (.bits val bitCount) val.toNat bitCount := by
  intro other holds read matching
  cases matching with
  | bits _ pieces few =>
      obtain ⟨after, reads, moves⟩ := readPieces_spec pieces 0 few holds.enough
      refine ⟨after, ?_, moves⟩
      show (other.readPieces 0 pieces).map _ = _
      rw [reads, holds.spells, Nat.zero_mul, Nat.zero_add]
      rfl

theorem decodes_nonSymmetric_short {val numValues : UInt32} (two : 2 ≤ numValues.toNat)
    (few : numValues.toNat ≤ 2 ^ 31) (short : val < numMinBitsValues numValues) :
    Decodes (.nonSymmetric val numValues) val.toNat (countBits numValues.toNat - 1) := by
  intro other holds read matching
  have minimum := toNat_numMinBitsValues two few
  have half := two_pow_le_numValues two
  have double : 2 ^ countBits numValues.toNat = 2 * 2 ^ (countBits numValues.toNat - 1) := by
    rw [← pow_succ', Nat.sub_add_cancel (by have := two_le_countBits two; omega)]
  have small : val.toNat < 2 ^ (countBits numValues.toNat - 1) := by
    have below := UInt32.lt_iff_toNat_lt.mp short
    omega
  have code := holds.spells
  rw [Nat.mod_eq_of_lt small] at code
  cases matching
  obtain ⟨after, reads, moves⟩ := readNonSymmetric_of_short_code two few short holds.enough code
  refine ⟨after, ?_, moves⟩
  show (other.readNonSymmetric numValues).map _ = _
  rw [reads]
  rfl

theorem decodes_nonSymmetric_long {val numValues : UInt32} (two : 2 ≤ numValues.toNat)
    (few : numValues.toNat ≤ 2 ^ 31) (below : val < numValues)
    (long : ¬ val < numMinBitsValues numValues) :
    Decodes (.nonSymmetric val numValues) (val + numMinBitsValues numValues).toNat
      (countBits numValues.toNat) := by
  intro other holds read matching
  have minimum := toNat_numMinBitsValues two few
  have above := numValues_lt_two_pow numValues
  have small : (val + numMinBitsValues numValues).toNat < 2 ^ countBits numValues.toNat := by
    have less := UInt32.lt_iff_toNat_lt.mp below
    rw [UInt32.toNat_add]
    exact lt_of_le_of_lt (Nat.mod_le _ _) (by omega)
  have code := holds.spells
  rw [Nat.mod_eq_of_lt small] at code
  cases matching
  obtain ⟨after, reads, moves⟩ := readNonSymmetric_of_long_code two few below long holds.enough code
  refine ⟨after, ?_, moves⟩
  show (other.readNonSymmetric numValues).map _ = _
  rw [reads]
  rfl

/-- The zeros in front of a number and its bits. -/
theorem readExponentialGolomb_of_holds {val : UInt32} (small : val.toNat + 1 < 2 ^ 32)
    (holds : other.Holds (val.toNat + 1) (countBits (val.toNat + 1) * 2 - 1)) :
    ∃ after, other.readExponentialGolomb = .ok (some val, after) ∧
      other.MovesBy after (countBits (val.toNat + 1) * 2 - 1) := by
  have bits : 0 < countBits (val.toNat + 1) := Nat.size_pos.mpr (Nat.succ_pos _)
  have fits : val.toNat + 1 < 2 ^ (countBits (val.toNat + 1) * 2 - 1) :=
    lt_of_lt_of_le (Nat.lt_size_self _) (Nat.pow_le_pow_right (by omega) (by
      show countBits (val.toNat + 1) ≤ _
      omega))
  have code := holds.spells
  rw [Nat.mod_eq_of_lt fits] at code
  exact readExponentialGolomb_of_code small holds.enough code

/-- `WriteExponentialGolomb` writes the zeros and the number. -/
theorem writeExponentialGolomb_wrote {val : UInt32}
    (written : buffer.writeExponentialGolomb val = .ok (true, after)) :
    val.toNat + 1 < 2 ^ 32 ∧
      buffer.Wrote after (val.toNat + 1) (countBits (val.toNat + 1) * 2 - 1) := by
  unfold writeExponentialGolomb at written
  by_cases largest : val = 0xFFFFFFFF
  · rw [if_pos largest] at written
    cases written
  · rw [if_neg largest] at written
    have range := val.toNat_lt
    have small : val.toNat + 1 < 2 ^ 32 := by
      have apart : val.toNat ≠ 2 ^ 32 - 1 := fun same => largest (UInt32.toNat_inj.mp same)
      omega
    have number : (val.toUInt64 + 1).toNat = val.toNat + 1 := by
      rw [UInt64.toNat_add, UInt32.toNat_toUInt64]
      exact Nat.mod_eq_of_lt (lt_trans small (by decide))
    have bits : 0 < countBits (val.toNat + 1) := Nat.size_pos.mpr (Nat.succ_pos _)
    have few : countBits (val.toNat + 1) ≤ 32 := Nat.size_le.mpr small
    dsimp only at written
    have wrote := writeBits_wrote (by rw [number]; omega) (by rw [number]; omega) written
    rw [number] at wrote
    exact ⟨small, wrote⟩

/-- A signed number is written as the unsigned one for it. -/
theorem writeSignedExponentialGolomb_written {val : Int} (low : -2 ^ 31 ≤ val) (high : val < 2 ^ 31)
    (written : buffer.writeSignedExponentialGolomb val = .ok (true, after)) :
    ∃ unsigned : UInt32, buffer.writeExponentialGolomb unsigned = .ok (true, after) ∧
      unsigned.toNat = if 0 < val then 2 * val - 1 else -(2 * val) := by
  unfold writeSignedExponentialGolomb at written
  by_cases zero : val = 0
  · rw [if_pos zero] at written
    exact ⟨0, written, by rw [zero]; rfl⟩
  · rw [if_neg zero] at written
    by_cases positive : 0 < val
    · rw [if_pos positive] at written
      refine ⟨_, written, ?_⟩
      have number : (UInt32.ofNat val.toNat * 2 - 1).toNat = 2 * val.toNat - 1 := by
        rw [UInt32.toNat_sub, UInt32.toNat_mul, UInt32.toNat_ofNat']
        show (2 ^ 32 - 1 + val.toNat % 2 ^ 32 * 2 % 2 ^ 32) % 2 ^ 32 = 2 * val.toNat - 1
        omega
      rw [number, if_pos positive]
      omega
    · rw [if_neg positive] at written
      by_cases smallest : val = -2 ^ 31
      · rw [if_pos smallest] at written
        cases written
      · rw [if_neg smallest] at written
        refine ⟨_, written, ?_⟩
        have number : (UInt32.ofNat (-val).toNat * 2).toNat = 2 * (-val).toNat := by
          rw [UInt32.toNat_mul, UInt32.toNat_ofNat']
          show (-val).toNat % 2 ^ 32 * 2 % 2 ^ 32 = 2 * (-val).toNat
          omega
        rw [number, if_neg positive]
        omega

/-- **A write that succeeds** puts a number into the buffer that is read as the value. -/
theorem write_decodes (formed : operation.Formed)
    (written : buffer.write operation = .ok (true, after)) :
    ∃ number width, buffer.Wrote after number width ∧ Decodes operation number width := by
  cases operation with
  | bits val bitCount =>
      exact ⟨val.toNat, bitCount, writeBits_wrote formed.1 formed.2 written,
        decodes_bits val bitCount⟩
  | nonSymmetric val numValues =>
      have two : 2 ≤ numValues.toNat := formed
      have bits := two_le_countBits two
      change buffer.writeNonSymmetric val numValues = _ at written
      unfold writeNonSymmetric at written
      by_cases asserted : numValues ≤ val ∨ 2 ^ 31 < numValues.toNat
      · rw [if_pos asserted] at written
        cases written
      · rw [if_neg asserted] at written
        rw [not_or, UInt32.not_le, Nat.not_lt] at asserted
        obtain ⟨below, few⟩ := asserted
        have atMost := countBits_le few
        dsimp only at written
        by_cases short : val < numMinBitsValues numValues
        · rw [if_pos short] at written
          have wrote := writeBits_wrote (by omega) (by omega) written
          rw [UInt32.toNat_toUInt64] at wrote
          exact ⟨_, _, wrote, decodes_nonSymmetric_short two few short⟩
        · rw [if_neg short] at written
          have wrote := writeBits_wrote (by omega) (by omega) written
          rw [UInt32.toNat_toUInt64] at wrote
          exact ⟨_, _, wrote, decodes_nonSymmetric_long two few below short⟩
  | exponentialGolomb val =>
      obtain ⟨small, wrote⟩ := writeExponentialGolomb_wrote written
      refine ⟨_, _, wrote, fun other holds read matching => ?_⟩
      cases matching
      obtain ⟨after, reads, moves⟩ := readExponentialGolomb_of_holds small holds
      refine ⟨after, ?_, moves⟩
      show other.readExponentialGolomb.map _ = _
      rw [reads]
      rfl
  | signedExponentialGolomb val =>
      obtain ⟨low, high⟩ : -2 ^ 31 ≤ val ∧ val < 2 ^ 31 := formed
      obtain ⟨unsigned, written, code⟩ : ∃ unsigned : UInt32,
          buffer.writeExponentialGolomb unsigned = .ok (true, after) ∧
            unsigned.toNat = if 0 < val then 2 * val - 1 else -(2 * val) :=
        writeSignedExponentialGolomb_written low high written
      obtain ⟨small, wrote⟩ := writeExponentialGolomb_wrote written
      refine ⟨_, _, wrote, fun other holds read matching => ?_⟩
      cases matching
      obtain ⟨after, reads, moves⟩ := readExponentialGolomb_of_holds small holds
      exact ⟨after, readSignedExponentialGolomb_of_code reads small code, moves⟩

end Operations

section Sequences

variable {buffer after other : BitBuffer}

/-- The bits in front of a buffer and behind where it goes to are as they were. -/
structure Frames (before after : BitBuffer) : Prop where
  size : after.size = before.size
  ahead : before.position ≤ after.position
  outside : ∀ i, i < before.position ∨ after.position ≤ i →
    bitAt after.bytes i = bitAt before.bytes i

theorem Wrote.frames {number width : Nat} (wrote : buffer.Wrote after number width) :
    buffer.Frames after where
  size := wrote.size
  ahead := by
    rw [wrote.position]
    exact Nat.le_add_right _ _
  outside i out := by
    rw [wrote.position] at out
    rw [wrote.bits, if_neg (by omega)]

theorem Frames.trans {middle : BitBuffer} (first : buffer.Frames middle)
    (second : middle.Frames after) : buffer.Frames after where
  size := second.size.trans first.size
  ahead := first.ahead.trans second.ahead
  outside i out := by
    have one := first.ahead
    have two := second.ahead
    rw [second.outside i (by omega), first.outside i (by omega)]

/-- After a sequence of writes, the bits outside are as they were, and from the place where the
sequence starts its values are read. -/
theorem readAll_of_written (operations : List BitOperation)
    (formed : ∀ operation ∈ operations, operation.Formed)
    (written : buffer.writeAll operations = some after) :
    buffer.Frames after ∧ ∀ reads, List.Forall₂ BitOperation.Matches operations reads →
      ∀ other : BitBuffer, other.bytes = after.bytes → other.position = buffer.position →
        other.readAll reads = .ok (some (operations.map BitOperation.value), after) := by
  induction operations generalizing buffer with
  | nil =>
      obtain rfl := Option.some_inj.mp written
      refine ⟨⟨rfl, le_rfl, fun _ _ => rfl⟩, fun reads matching other bytes place => ?_⟩
      cases matching
      rw [eq_of_position bytes place]
      rfl
  | cons operation operations ih =>
      obtain ⟨formedFirst, formedRest⟩ := List.forall_mem_cons.mp formed
      unfold writeAll at written
      split at written
      · rename_i next one
        obtain ⟨number, width, wrote, decodes⟩ := write_decodes formedFirst one
        obtain ⟨frames, readRest⟩ := ih formedRest written
        refine ⟨wrote.frames.trans frames, fun reads matching other bytes place => ?_⟩
        cases matching with
        | cons matchFirst matchRest =>
            have size : other.size = next.size := by
              rw [← frames.size]
              exact congrArg (fun bytes => 8 * bytes.length) bytes
            have holds : other.Holds number width :=
              wrote.holds (position_le_size next) place size fun i before => by
                rw [bytes]
                exact frames.outside i (.inl before)
            obtain ⟨middle, readFirst, moves⟩ := decodes other holds _ matchFirst
            have rest := readRest _ matchRest middle (moves.bytes.trans bytes)
              (by rw [moves.position, wrote.position, place])
            unfold readAll
            rw [readFirst]
            show (middle.readAll _ >>= fun more => _) = _
            rw [rest]
            rfl
      · cases written

/-- **What is written is read back**, from the same place and to the same place, and the bits
outside are as they were. Reads that fail move nothing. -/
theorem written_values_are_read (buffer : BitBuffer) (operations : List BitOperation)
    (formed : ∀ operation ∈ operations, operation.Formed)
    (written : buffer.writeAll operations = some after) (reads : List BitRead)
    (matching : List.Forall₂ BitOperation.Matches operations reads) :
    (after.seek buffer.byteOffset buffer.bitOffset).1 = true ∧
      (after.seek buffer.byteOffset buffer.bitOffset).2.readAll reads =
        .ok (some (operations.map BitOperation.value), after) ∧
      (after.size = buffer.size ∧ ∀ i, i < buffer.position ∨ after.position ≤ i →
        bitAt after.bytes i = bitAt buffer.bytes i) ∧
      (∀ (other : BitBuffer) (bitCount : Nat), 0 < bitCount →
        ∃ read end', other.readBits bitCount = .ok (read, end') ∧ (read = none → end' = other)) ∧
      ∀ other : BitBuffer, ∃ read end', other.readExponentialGolomb = .ok (read, end') ∧
        (read = none → end' = other) := by
  obtain ⟨frames, readBack⟩ := readAll_of_written operations formed written
  have possible : ¬ (after.bytes.length < buffer.byteOffset ∨ 7 < buffer.bitOffset ∨
      (buffer.byteOffset = after.bytes.length ∧ 0 < buffer.bitOffset)) := by
    have inside := buffer.inside
    have inByte := buffer.inByte
    have sameSize := frames.size
    unfold size at sameSize
    omega
  have sought : after.seek buffer.byteOffset buffer.bitOffset =
      (true, (after.seek buffer.byteOffset buffer.bitOffset).2) ∧
      (after.seek buffer.byteOffset buffer.bitOffset).2.bytes = after.bytes ∧
      (after.seek buffer.byteOffset buffer.bitOffset).2.position = buffer.position := by
    unfold seek
    rw [dif_pos possible]
    exact ⟨rfl, rfl, rfl⟩
  obtain ⟨done, bytes, place⟩ := sought
  refine ⟨congrArg Prod.fst done, readBack reads matching _ bytes place,
    ⟨frames.size, frames.outside⟩, fun other bitCount positive => ?_, fun other => ?_⟩
  · by_cases enough : other.position + bitCount ≤ other.size ∧ bitCount ≤ 32
    · obtain ⟨end', read, -⟩ := readBits_of_enough positive enough.2 enough.1
      exact ⟨_, end', read, nofun⟩
    · exact ⟨none, other, readBits_of_short positive (by omega), fun _ => rfl⟩
  · obtain ⟨zeros, middle, -, outcome⟩ := readExponentialGolomb_cases other
    rcases outcome with ⟨-, end', -, -, found⟩ | ⟨-, nothing⟩
    · exact ⟨_, end', found, nofun⟩
    · exact ⟨none, other, nothing, fun _ => rfl⟩

end Sequences

section Examples

/-- Four bytes, from the third bit on. -/
def someBuffer : BitBuffer where
  bytes := [0xFF, 0, 0xFF, 0x0F]
  byteOffset := 0
  bitOffset := 3
  inside := by decide
  inByte := by decide

/-- A number of 12 bits, one of five values, and two Golomb codes. -/
def someOperations : List BitOperation :=
  [.bits 0xAAF 12, .nonSymmetric 3 5, .exponentialGolomb 3, .signedExponentialGolomb (-1)]

/-- The bytes afterwards. -/
def writtenBuffer : BitBuffer where
  bytes := [0xF5, 0x5F, 0x88, 0xCF]
  byteOffset := 3
  bitOffset := 2
  inside := by decide
  inByte := by decide

/-- The number is read in two pieces. -/
theorem written_values_are_read_instance :
    (writtenBuffer.seek 0 3).2.readAll
        [.bits [5, 7], .nonSymmetric 5, .exponentialGolomb, .signedExponentialGolomb] =
      .ok (some [0xAAF, 3, 3, -1], writtenBuffer) :=
  have formed : ∀ operation ∈ someOperations, operation.Formed := by
    refine List.forall_mem_cons.mpr ⟨?_, List.forall_mem_cons.mpr ⟨?_,
      List.forall_mem_cons.mpr ⟨trivial, List.forall_mem_singleton.mpr ?_⟩⟩⟩
    · exact (by decide : 1 ≤ 12 ∧ 12 ≤ 64)
    · exact (by decide : 2 ≤ (5 : UInt32).toNat)
    · exact (by decide : -2 ^ 31 ≤ (-1 : Int) ∧ (-1 : Int) < 2 ^ 31)
  have written : someBuffer.writeAll someOperations = some writtenBuffer := by rfl
  (written_values_are_read someBuffer someOperations formed written _
    (.cons (.bits 0xAAF [5, 7] (by decide)) (.cons (.nonSymmetric 3 5)
      (.cons (.exponentialGolomb 3) (.cons (.signedExponentialGolomb (-1)) .nil))))).2.1

end Examples

end BitBuffer

end MpWebRtc
