import Mathlib.Data.Nat.Size
import MpWebRtc.Math.BitField

/-!
# Buffers of bits

`BitBuffer` reads numbers of any width at any bit of a list of bytes, and `BitBufferWriter` writes
them. Both keep the byte and the bit in it where they go on. The functions work byte by byte with
shifts and masks, and they read and write nothing behind the buffer.
-/

namespace MpWebRtc

open Math

/-- Why a call on a buffer has no result. -/
inductive BitBufferFault
  | assertion
  | outOfBounds
  deriving DecidableEq

/-- `LowestBits`. -/
def lowestBits (byte : UInt8) (bitCount : Nat) : UInt8 := byte &&& UInt8.ofNat
    ((1 <<< bitCount) - 1)

/-- `HighestBits`. -/
def highestBits (byte : UInt8) (bitCount : Nat) : UInt8 :=
  let shift := 8 - bitCount
  let mask := UInt8.ofNat (0xFF <<< shift)
  UInt8.ofNat ((byte &&& mask).toNat >>> shift)

/-- `HighestByte`. -/
def highestByte (val : UInt64) : UInt8 := (val >>> 56).toUInt8

/-- `WritePartialByte`. -/
def writePartialByte (source : UInt8) (sourceBitCount : Nat) (target : UInt8)
    (targetBitOffset : Nat) : UInt8 :=
  let mask := UInt8.ofNat ((UInt8.ofNat (0xFF <<< (8 - sourceBitCount))).toNat >>> targetBitOffset)
  (target &&& ~~~mask) ||| UInt8.ofNat (source.toNat >>> targetBitOffset)

/-- `CountBits`. -/
def countBits (val : Nat) : Nat := val.size

/-- A byte of a buffer. -/
def bufferByte (bytes : List UInt8) (index : Nat) : Except BitBufferFault UInt8 :=
  match bytes[index]? with
  | none => .error .outOfBounds
  | some byte => .ok byte

/-- `BitBuffer` and `BitBufferWriter`, at a place that is inside the buffer or at its end. -/
structure BitBuffer where
  bytes : List UInt8
  byteOffset : Nat
  bitOffset : Nat
  inside : byteOffset * 8 + bitOffset ≤ bytes.length * 8
  inByte : bitOffset < 8

namespace BitBuffer

variable (buffer : BitBuffer)

/-- `RemainingBitCount`. -/
def remainingBitCount : Nat := (buffer.bytes.length - buffer.byteOffset) * 8 - buffer.bitOffset

/-- The full bytes that `PeekBits` shifts into the bits it has. -/
def shiftInBytes (bytes : List UInt8) : Nat → Nat → UInt32 → Except BitBufferFault UInt32
  | 0, _, bits => .ok bits
  | count + 1, index, bits => do
      let byte ← bufferByte bytes index
      shiftInBytes bytes count (index + 1) ((bits <<< 8) ||| byte.toUInt32)

/-- `PeekBits`; none where it returns false. -/
def peekBits (bitCount : Nat) : Except BitBufferFault (Option UInt32) :=
  if bitCount = 0 then .error .assertion
  else if buffer.remainingBitCount < bitCount ∨ 32 < bitCount then .ok none
  else do
    let remainingBitsInCurrentByte := 8 - buffer.bitOffset
    let first ← bufferByte buffer.bytes buffer.byteOffset
    let bits := lowestBits first remainingBitsInCurrentByte
    if bitCount < remainingBitsInCurrentByte then
      return some (highestBits bits (buffer.bitOffset + bitCount)).toUInt32
    else
      let bitCount := bitCount - remainingBitsInCurrentByte
      let bits ← shiftInBytes buffer.bytes (bitCount / 8) (buffer.byteOffset + 1) bits.toUInt32
      let bitsLeft := bitCount % 8
      if bitsLeft = 0 then return some bits
      else
        let last ← bufferByte buffer.bytes (buffer.byteOffset + 1 + bitCount / 8)
        return some ((bits <<< bitsLeft.toUInt32) ||| (highestBits last bitsLeft).toUInt32)

/-- `ConsumeBits`, with its result. -/
def consumeBits (bitCount : Nat) : Bool × BitBuffer :=
  if enough : bitCount ≤ buffer.remainingBitCount then
    (true,
      { buffer with
        byteOffset := buffer.byteOffset + (buffer.bitOffset + bitCount) / 8
        bitOffset := (buffer.bitOffset + bitCount) % 8
        inside := by
          have inside := buffer.inside
          have inByte := buffer.inByte
          unfold remainingBitCount at enough
          omega
        inByte := Nat.mod_lt _ (by decide) })
  else (false, buffer)

/-- `ReadBits`. -/
def readBits (bitCount : Nat) : Except BitBufferFault (Option UInt32 × BitBuffer) := do
  match ← buffer.peekBits bitCount with
  | none => return (none, buffer)
  | some val =>
      let consumed := buffer.consumeBits bitCount
      return (if consumed.1 then some val else none, consumed.2)

/-- The number of values of a non-symmetric code that have one bit less. -/
def numMinBitsValues (numValues : UInt32) : UInt32 :=
  UInt32.ofNat (1 <<< countBits numValues.toNat) - numValues

/-- `ReadNonSymmetric`. -/
def readNonSymmetric (numValues : UInt32) : Except BitBufferFault (Option UInt32 × BitBuffer) := do
  if numValues = 0 ∨ 2 ^ 31 < numValues.toNat then throw .assertion
  let countBits := countBits numValues.toNat
  let read ← buffer.readBits (countBits - 1)
  match read.1 with
  | none => return (none, read.2)
  | some val =>
      if val < numMinBitsValues numValues then return (some val, read.2)
      else
        let extra ← read.2.readBits 1
        match extra.1 with
        | none => return (none, extra.2)
        | some extraBit =>
            return (some ((val <<< 1) + extraBit - numMinBitsValues numValues), extra.2)

/-- `Seek`, with its result. -/
def seek (byteOffset bitOffset : Nat) : Bool × BitBuffer :=
  if possible : ¬ (buffer.bytes.length < byteOffset ∨ 7 < bitOffset ∨
      (byteOffset = buffer.bytes.length ∧ 0 < bitOffset)) then
    (true,
      { buffer with
        byteOffset := byteOffset
        bitOffset := bitOffset
        inside := by omega
        inByte := by omega })
  else (false, buffer)

/-- The zeros in front of an exponential Golomb code, and the buffer behind them; at most as many
as there are bits left. -/
def skipZeros : Nat → BitBuffer → Except BitBufferFault (Nat × BitBuffer)
  | 0, buffer => .ok (0, buffer)
  | fuel + 1, buffer => do
      match ← buffer.peekBits 1 with
      | none => return (0, buffer)
      | some peekedBit =>
          if peekedBit = 0 then
            let rest ← skipZeros fuel (buffer.consumeBits 1).2
            return (rest.1 + 1, rest.2)
          else return (0, buffer)

/-- The value of `ReadExponentialGolomb` behind the zeros; without one the buffer goes back. -/
def readBehindZeros (skipped : BitBuffer) (valueBitCount : Nat) :
    Except BitBufferFault (Option UInt32 × BitBuffer) :=
  let restore (moved : BitBuffer) : Except BitBufferFault (Option UInt32 × BitBuffer) :=
    let restored := moved.seek buffer.byteOffset buffer.bitOffset
    if restored.1 then .ok (none, restored.2) else .error .assertion
  if 32 < valueBitCount then restore skipped
  else do
    let read ← skipped.readBits valueBitCount
    match read.1 with
    | some val => return (some (val - 1), read.2)
    | none => restore read.2

/-- `ReadExponentialGolomb`. -/
def readExponentialGolomb : Except BitBufferFault (Option UInt32 × BitBuffer) := do
  let skipped ← skipZeros buffer.remainingBitCount buffer
  let peekedBit ← skipped.2.peekBits 1
  if peekedBit.any fun bit => bit != 1 then .error .assertion
  else buffer.readBehindZeros skipped.2 (skipped.1 + 1)

/-- `ReadSignedExponentialGolomb`. -/
def readSignedExponentialGolomb : Except BitBufferFault (Option Int × BitBuffer) := do
  let read ← buffer.readExponentialGolomb
  match read.1 with
  | none => return (none, read.2)
  | some unsignedVal =>
      if unsignedVal &&& 1 = 0 then return (some (-((unsignedVal / 2).toNat : Int)), read.2)
      else return (some ((unsignedVal + 1) / 2).toNat, read.2)

/-- The place of a buffer, in bits. -/
def position : Nat := 8 * buffer.byteOffset + buffer.bitOffset

/-- All bits of a buffer. -/
def size : Nat := 8 * buffer.bytes.length

section Bits

variable {buffer : BitBuffer} {byte : UInt8} {bitCount : Nat}

theorem toNat_lowestBits (byte : UInt8) (few : bitCount ≤ 8) :
    (lowestBits byte bitCount).toNat = byte.toNat % 2 ^ bitCount := by
  have fits : 2 ^ bitCount - 1 < 2 ^ 8 := by
    have : 2 ^ bitCount ≤ 2 ^ 8 := Nat.pow_le_pow_right (by omega) few
    omega
  unfold lowestBits
  rw [UInt8.toNat_and, UInt8.toNat_ofNat', Nat.shiftLeft_eq, Nat.one_mul, Nat.mod_eq_of_lt fits,
    Nat.and_two_pow_sub_one_eq_mod]

theorem toNat_highestBits (byte : UInt8) (bitCount : Nat) :
    (highestBits byte bitCount).toNat = byte.toNat / 2 ^ (8 - bitCount) := by
  have range : byte.toNat < 2 ^ 8 := byte.toNat_lt
  have masked : (byte.toNat &&& (255 <<< (8 - bitCount)) % 2 ^ 8) >>> (8 - bitCount) =
      byte.toNat / 2 ^ (8 - bitCount) := by
    refine Nat.eq_of_testBit_eq fun i => ?_
    rw [Nat.testBit_shiftRight, Nat.testBit_and, Nat.testBit_mod_two_pow, Nat.testBit_shiftLeft,
      Nat.testBit_div_two_pow, Nat.add_comm]
    by_cases inByte : i + (8 - bitCount) < 8
    · have ones : Nat.testBit 255 i = true := by
        show (2 ^ 8 - 1).testBit i = true
        rw [Nat.testBit_two_pow_sub_one]
        exact decide_eq_true (by omega)
      rw [Nat.add_sub_cancel, ones, decide_eq_true inByte, decide_eq_true (Nat.le_add_left _ _)]
      simp
    · have beyond : byte.toNat.testBit (i + (8 - bitCount)) = false :=
        Nat.testBit_lt_two_pow (lt_of_lt_of_le range (Nat.pow_le_pow_right (by omega) (by omega)))
      rw [beyond, Bool.false_and]
  unfold highestBits
  dsimp only
  rw [UInt8.toNat_ofNat', UInt8.toNat_and, UInt8.toNat_ofNat', masked]
  exact Nat.mod_eq_of_lt (lt_of_le_of_lt (Nat.div_le_self _ _) range)

variable {index : Nat}

theorem bufferByte_eq {bytes : List UInt8} (within : index < bytes.length) :
    ∃ byte, bytes[index]? = some byte ∧ bufferByte bytes index = .ok byte := by
  refine ⟨bytes[index], List.getElem?_eq_getElem within, ?_⟩
  unfold bufferByte
  rw [List.getElem?_eq_getElem within]

/-- More bits behind those that are there. -/
theorem toNat_shiftLeft_or {bits more : UInt32} {width shift : Nat} (few : width + shift ≤ 32)
    (small : shift < 32) (high : bits.toNat < 2 ^ width) (low : more.toNat < 2 ^ shift) :
    ((bits <<< shift.toUInt32) ||| more).toNat = bits.toNat * 2 ^ shift + more.toNat := by
  have shifts : shift.toUInt32.toNat % 32 = shift := by
    rw [Nat.toUInt32_eq, UInt32.toNat_ofNat']
    omega
  have fits : bits.toNat * 2 ^ shift < 2 ^ 32 := by
    calc
      _ < 2 ^ width * 2 ^ shift := Nat.mul_lt_mul_of_pos_right high (Nat.two_pow_pos shift)
      _ = 2 ^ (width + shift) := (pow_add 2 width shift).symm
      _ ≤ 2 ^ 32 := Nat.pow_le_pow_right (by omega) few
  rw [UInt32.toNat_or, UInt32.toNat_shiftLeft, shifts, Nat.shiftLeft_eq, Nat.mod_eq_of_lt fits,
    ← Nat.shiftLeft_eq, ← Nat.shiftLeft_add_eq_or_of_lt low]

/-- Full bytes are read as they are. -/
theorem shiftInBytes_spec {bytes : List UInt8} {start width : Nat} (count : Nat)
    {bits : UInt32} (known : bits.toNat = field (bitAt bytes) start width)
    (place : start + width = 8 * index) (within : index + count ≤ bytes.length)
    (few : width + 8 * count ≤ 32) :
    ∃ result, shiftInBytes bytes count index bits = .ok result ∧
      result.toNat = field (bitAt bytes) start (width + 8 * count) := by
  induction count generalizing index bits width with
  | zero => exact ⟨bits, rfl, known⟩
  | succ count ih =>
      have here : index < bytes.length := by omega
      obtain ⟨byte, found, isByte⟩ := bufferByte_eq here
      have next : ((bits <<< 8) ||| byte.toUInt32).toNat =
          field (bitAt bytes) start (width + 8) := by
        have whole : field (bitAt bytes) (start + width) 8 = byte.toNat := by
          have read : field (bitAt bytes) (8 * index + 0) 8 = byte.toNat / 2 ^ 0 % 2 ^ 8 :=
            field_of_byte found (by omega)
          rw [Nat.add_zero] at read
          rw [place, read]
          exact (Nat.mod_eq_of_lt (lt_of_le_of_lt (Nat.div_le_self _ _) byte.toNat_lt)).trans
            (Nat.div_one _)
        have small : byte.toUInt32.toNat < 2 ^ 8 := by
          rw [UInt8.toNat_toUInt32]
          exact byte.toNat_lt
        have high : bits.toNat < 2 ^ width := known ▸ field_lt (bitAt bytes) start width
        have shifted : ((bits <<< Nat.toUInt32 8) ||| byte.toUInt32).toNat =
            bits.toNat * 2 ^ 8 + byte.toUInt32.toNat :=
          toNat_shiftLeft_or (by omega) (by decide) high small
        rw [field_add, whole, ← known, ← UInt8.toNat_toUInt32]
        exact shifted
      have nextPlace : start + (width + 8) = 8 * (index + 1) := by omega
      obtain ⟨result, continued, total⟩ := ih next nextPlace (by omega) (by omega)
      refine ⟨result, ?_, ?_⟩
      · show (bufferByte bytes index >>= fun byte => _) = .ok result
        rw [isByte]
        exact continued
      · rw [total]
        congr 1
        omega

theorem remainingBitCount_lt_iff :
    buffer.remainingBitCount < bitCount ↔ buffer.size < buffer.position + bitCount := by
  have inside := buffer.inside
  have inByte := buffer.inByte
  unfold remainingBitCount size position
  omega

/-- The bits that are left in the first byte. -/
theorem toNat_lowestBits_eq_field (found : buffer.bytes[buffer.byteOffset]? = some byte) :
    (lowestBits byte (8 - buffer.bitOffset)).toNat =
      field (bitAt buffer.bytes) buffer.position (8 - buffer.bitOffset) := by
  have inByte := buffer.inByte
  have read := field_of_byte found (by omega : buffer.bitOffset + (8 - buffer.bitOffset) ≤ 8)
  unfold position
  rw [toNat_lowestBits byte (by omega), read, Nat.sub_self, pow_zero, Nat.div_one]

/-- The highest bits of a byte are the field at its start. -/
theorem toNat_highestBits_eq_field {bytes : List UInt8}
    (found : bytes[index]? = some byte) (few : bitCount ≤ 8) :
    (highestBits byte bitCount).toNat = field (bitAt bytes) (8 * index) bitCount := by
  have read : field (bitAt bytes) (8 * index + 0) bitCount =
      byte.toNat / 2 ^ (8 - 0 - bitCount) % 2 ^ bitCount := field_of_byte found (by omega)
  have range : byte.toNat / 2 ^ (8 - bitCount) < 2 ^ bitCount := by
    refine Nat.div_lt_of_lt_mul ?_
    rw [← pow_add, Nat.sub_add_cancel few]
    exact byte.toNat_lt
  rw [Nat.add_zero, Nat.sub_zero, Nat.mod_eq_of_lt range] at read
  rw [toNat_highestBits, read]

theorem ofNat_eq_of_toNat {val : UInt32} {number : Nat} (same : val.toNat = number) :
    val = UInt32.ofNat number := by
  rw [← same, UInt32.ofNat_toNat]

/-- What is peeked at is the field at the place of the buffer. -/
theorem peekBits_of_enough (positive : 0 < bitCount) (few : bitCount ≤ 32)
    (enough : buffer.position + bitCount ≤ buffer.size) :
    buffer.peekBits bitCount =
      .ok (some (UInt32.ofNat (field (bitAt buffer.bytes) buffer.position bitCount))) := by
  have inByte := buffer.inByte
  have within : buffer.byteOffset < buffer.bytes.length := by
    unfold position size at enough
    omega
  obtain ⟨first, found, isFirst⟩ := bufferByte_eq within
  have start := toNat_lowestBits_eq_field found
  unfold peekBits
  rw [if_neg positive.ne', if_neg (by rw [remainingBitCount_lt_iff]; omega), isFirst]
  show (if bitCount < 8 - buffer.bitOffset then _ else _) = _
  by_cases here : bitCount < 8 - buffer.bitOffset
  · rw [if_pos here]
    refine congrArg (fun val => Except.ok (some val)) (ofNat_eq_of_toNat ?_)
    have parts : 8 - buffer.bitOffset = bitCount + (8 - (buffer.bitOffset + bitCount)) := by omega
    have rest := field_lt (bitAt buffer.bytes) (buffer.position + bitCount)
      (8 - (buffer.bitOffset + bitCount))
    rw [UInt8.toNat_toUInt32, toNat_highestBits, start]
    conv_lhs => rw [parts, field_add]
    rw [Nat.mul_comm, Nat.mul_add_div (Nat.two_pow_pos _), Nat.div_eq_of_lt rest, Nat.add_zero]
  · rw [if_neg here]
    have known : (lowestBits first (8 - buffer.bitOffset)).toUInt32.toNat =
        field (bitAt buffer.bytes) buffer.position (8 - buffer.bitOffset) := by
      rw [UInt8.toNat_toUInt32, start]
    have place : buffer.position + (8 - buffer.bitOffset) = 8 * (buffer.byteOffset + 1) := by
      unfold position
      omega
    have full : buffer.byteOffset + 1 + (bitCount - (8 - buffer.bitOffset)) / 8 ≤
        buffer.bytes.length := by
      unfold position size at enough
      omega
    obtain ⟨bits, shifted, total⟩ := shiftInBytes_spec
      ((bitCount - (8 - buffer.bitOffset)) / 8) known place full (by omega)
    dsimp only
    rw [shifted]
    show (if (bitCount - (8 - buffer.bitOffset)) % 8 = 0 then _ else _) = _
    by_cases exact' : (bitCount - (8 - buffer.bitOffset)) % 8 = 0
    · rw [if_pos exact']
      refine congrArg (fun val => Except.ok (some val)) (ofNat_eq_of_toNat ?_)
      rw [total]
      congr 1
      omega
    · rw [if_neg exact']
      have behind : buffer.byteOffset + 1 + (bitCount - (8 - buffer.bitOffset)) / 8 <
          buffer.bytes.length := by
        unfold position size at enough
        omega
      obtain ⟨last, foundLast, isLast⟩ := bufferByte_eq behind
      have few' : (bitCount - (8 - buffer.bitOffset)) % 8 ≤ 8 := by omega
      have rest := toNat_highestBits_eq_field foundLast few'
      have lastPlace : buffer.position +
          (8 - buffer.bitOffset + 8 * ((bitCount - (8 - buffer.bitOffset)) / 8)) =
          8 * (buffer.byteOffset + 1 + (bitCount - (8 - buffer.bitOffset)) / 8) := by omega
      have widths : bitCount = 8 - buffer.bitOffset +
          8 * ((bitCount - (8 - buffer.bitOffset)) / 8) +
          (bitCount - (8 - buffer.bitOffset)) % 8 := by omega
      rw [isLast]
      refine congrArg (fun val => Except.ok (some val)) (ofNat_eq_of_toNat ?_)
      rw [toNat_shiftLeft_or (by omega) (by omega) (total ▸ field_lt _ _ _)
        (by rw [UInt8.toNat_toUInt32, rest]; exact field_lt _ _ _), total, UInt8.toNat_toUInt32,
        rest, ← lastPlace, ← field_add, ← widths]

theorem peekBits_of_short (positive : 0 < bitCount)
    (short : buffer.size < buffer.position + bitCount ∨ 32 < bitCount) :
    buffer.peekBits bitCount = .ok none := by
  unfold peekBits
  rw [if_neg positive.ne', if_pos (by rw [remainingBitCount_lt_iff]; exact short)]

/-- A buffer is determined by its bytes and its place. -/
theorem eq_of_position {first second : BitBuffer} (bytes : first.bytes = second.bytes)
    (place : first.position = second.position) : first = second := by
  have firstByte := first.inByte
  have secondByte := second.inByte
  have offsets : first.byteOffset = second.byteOffset ∧ first.bitOffset = second.bitOffset := by
    unfold position at place
    omega
  cases first
  cases second
  obtain ⟨rfl, rfl⟩ := offsets
  cases bytes
  rfl

/-- The same bytes at a later place. -/
structure MovesBy (before after : BitBuffer) (bitCount : Nat) : Prop where
  bytes : after.bytes = before.bytes
  position : after.position = before.position + bitCount

theorem MovesBy.size {before after : BitBuffer} (moves : before.MovesBy after bitCount) :
    after.size = before.size := by
  unfold BitBuffer.size
  rw [moves.bytes]

theorem MovesBy.trans {before middle after : BitBuffer} {more : Nat}
    (first : before.MovesBy middle bitCount) (second : middle.MovesBy after more) :
    before.MovesBy after (bitCount + more) where
  bytes := second.bytes.trans first.bytes
  position := by rw [second.position, first.position, Nat.add_assoc]

theorem consumeBits_of_enough (enough : buffer.position + bitCount ≤ buffer.size) :
    (buffer.consumeBits bitCount).1 = true ∧
      buffer.MovesBy (buffer.consumeBits bitCount).2 bitCount := by
  have room : bitCount ≤ buffer.remainingBitCount := by
    rw [← Nat.not_lt, remainingBitCount_lt_iff]
    omega
  unfold consumeBits
  rw [dif_pos room]
  refine ⟨rfl, rfl, ?_⟩
  unfold position
  dsimp only
  omega

/-- **Reading**: the field at the place of the buffer, which moves behind it. -/
theorem readBits_of_enough (positive : 0 < bitCount) (few : bitCount ≤ 32)
    (enough : buffer.position + bitCount ≤ buffer.size) :
    ∃ after, buffer.readBits bitCount =
        .ok (some (UInt32.ofNat (field (bitAt buffer.bytes) buffer.position bitCount)), after) ∧
      buffer.MovesBy after bitCount := by
  obtain ⟨consumed, moves⟩ := consumeBits_of_enough enough
  refine ⟨(buffer.consumeBits bitCount).2, ?_, moves⟩
  unfold readBits
  rw [peekBits_of_enough positive few enough]
  show Except.ok (if (buffer.consumeBits bitCount).1 then _ else _, _) = _
  rw [if_pos consumed]

/-- Reading too many bits fails, and nothing moves. -/
theorem readBits_of_short (positive : 0 < bitCount)
    (short : buffer.size < buffer.position + bitCount ∨ 32 < bitCount) :
    buffer.readBits bitCount = .ok (none, buffer) := by
  unfold readBits
  rw [peekBits_of_short positive short]
  rfl

end Bits

end BitBuffer

end MpWebRtc
