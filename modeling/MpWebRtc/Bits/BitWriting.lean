import MpWebRtc.Bits.BitBuffer

/-!
# Writing bits

`WriteBits` pushes the bits it is to write to the top of a word, and takes them from there: some
for the rest of the first byte, then full bytes, then the first bits of the last one. What is
pending is at the top of the word; what has been written is in the buffer, and nothing else is new.
-/

namespace MpWebRtc

open Math

/-- The bytes of a buffer, which keeps its size. -/
abbrev BufferBytes (byteCount : Nat) : Type := { bytes : List UInt8 // bytes.length = byteCount }

/-- A byte is stored in a buffer. -/
def storeByte {byteCount : Nat} (bytes : BufferBytes byteCount) (index : Nat) (byte : UInt8) :
    Except BitBufferFault (BufferBytes byteCount) :=
  if index < byteCount then .ok ⟨bytes.1.set index byte, by rw [List.length_set, bytes.2]⟩
  else .error .outOfBounds

namespace BitBuffer

variable (buffer : BitBuffer)

/-- The full bytes of `WriteBits`, and what is left of the value. -/
def writeFullBytes {byteCount : Nat} : Nat → BufferBytes byteCount → Nat → UInt64 →
    Except BitBufferFault (BufferBytes byteCount × UInt64)
  | 0, bytes, _, val => .ok (bytes, val)
  | count + 1, bytes, index, val => do
      let bytes ← storeByte bytes index (highestByte val)
      writeFullBytes count bytes (index + 1) (val <<< 8)

/-- The buffer with other bytes. -/
def withBytes (bytes : BufferBytes buffer.bytes.length) : BitBuffer :=
  { buffer with
    bytes := bytes.1
    inside := bytes.2.symm ▸ buffer.inside }

/-- `WriteBits`, with its result. -/
def writeBits (val : UInt64) (bitCount : Nat) : Except BitBufferFault (Bool × BitBuffer) :=
  if buffer.remainingBitCount < bitCount then .ok (false, buffer)
  else do
    let val := val <<< (64 - bitCount).toUInt64
    let remainingBitsInCurrentByte := 8 - buffer.bitOffset
    let bitsInFirstByte := min bitCount remainingBitsInCurrentByte
    let first ← bufferByte buffer.bytes buffer.byteOffset
    let bytes ← storeByte ⟨buffer.bytes, rfl⟩ buffer.byteOffset
      (writePartialByte (highestByte val) bitsInFirstByte first buffer.bitOffset)
    if bitCount ≤ remainingBitsInCurrentByte then
      return (buffer.withBytes bytes).consumeBits bitCount
    else
      let bitsLeft := bitCount - bitsInFirstByte
      let written ← writeFullBytes (bitsLeft / 8) bytes (buffer.byteOffset + 1)
        (val <<< bitsInFirstByte.toUInt64)
      if bitsLeft % 8 = 0 then return (buffer.withBytes written.1).consumeBits bitCount
      else
        let index := buffer.byteOffset + 1 + bitsLeft / 8
        let last ← bufferByte written.1.1 index
        let bytes ← storeByte written.1 index
          (writePartialByte (highestByte written.2) (bitsLeft % 8) last 0)
        return (buffer.withBytes bytes).consumeBits bitCount

/-- `WriteNonSymmetric`. -/
def writeNonSymmetric (val numValues : UInt32) : Except BitBufferFault (Bool × BitBuffer) :=
  if numValues ≤ val ∨ 2 ^ 31 < numValues.toNat then .error .assertion
  else
    let countBits := countBits numValues.toNat
    if val < numMinBitsValues numValues then buffer.writeBits val.toUInt64 (countBits - 1)
    else buffer.writeBits (val + numMinBitsValues numValues).toUInt64 countBits

/-- `WriteExponentialGolomb`. -/
def writeExponentialGolomb (val : UInt32) : Except BitBufferFault (Bool × BitBuffer) :=
  if val = 0xFFFFFFFF then .ok (false, buffer)
  else
    let valToEncode := val.toUInt64 + 1
    buffer.writeBits valToEncode (countBits valToEncode.toNat * 2 - 1)

/-- `WriteSignedExponentialGolomb`, for a signed number of 32 bits. -/
def writeSignedExponentialGolomb (val : Int) : Except BitBufferFault (Bool × BitBuffer) :=
  if val = 0 then buffer.writeExponentialGolomb 0
  else if 0 < val then
    let signedVal := UInt32.ofNat val.toNat
    buffer.writeExponentialGolomb (signedVal * 2 - 1)
  else if val = -2 ^ 31 then .ok (false, buffer)
  else
    let signedVal := UInt32.ofNat (-val).toNat
    buffer.writeExponentialGolomb (signedVal * 2)

section Words

variable {word : UInt64} {source target : UInt8} {value bitCount written count offset i : Nat}

/-- The bits of a value from some place on are at the top of a word. -/
def Pending (value bitCount written : Nat) (word : UInt64) : Prop :=
  ∀ i < 64, word.toNat.testBit (63 - i) =
    (decide (i + written < bitCount) && value.testBit (bitCount - 1 - (i + written)))

theorem pending_start (val : UInt64) (positive : 0 < bitCount) (few : bitCount ≤ 64) :
    Pending val.toNat bitCount 0 (val <<< (64 - bitCount).toUInt64) := by
  intro i below
  have shift : (64 - bitCount).toUInt64.toNat % 64 = 64 - bitCount := by
    rw [Nat.toUInt64_eq, UInt64.toNat_ofNat']
    omega
  rw [UInt64.toNat_shiftLeft, shift, Nat.testBit_mod_two_pow, Nat.testBit_shiftLeft]
  by_cases inside : i < bitCount
  · rw [decide_eq_true (by omega), decide_eq_true (by omega), decide_eq_true (by omega),
      Bool.true_and]
    congr 2
    omega
  · rw [decide_eq_false (by omega : ¬ 63 - i ≥ 64 - bitCount),
      decide_eq_false (by omega : ¬ i + 0 < bitCount)]
    simp

theorem Pending.shift (pending : Pending value bitCount written word) (few : bitCount ≤ 64)
    (small : count < 64) : Pending value bitCount (written + count) (word <<< count.toUInt64) := by
  intro i below
  have shift : count.toUInt64.toNat % 64 = count := by
    rw [Nat.toUInt64_eq, UInt64.toNat_ofNat']
    omega
  rw [UInt64.toNat_shiftLeft, shift, Nat.testBit_mod_two_pow, Nat.testBit_shiftLeft,
    decide_eq_true (by omega : 63 - i < 64), Bool.true_and]
  by_cases inside : i + count < 64
  · rw [decide_eq_true (by omega : 63 - i ≥ count), Bool.true_and]
    have place : 63 - i - count = 63 - (i + count) := by omega
    have behind : i + count + written = i + (written + count) := by omega
    rw [place, pending (i + count) inside, behind]
  · rw [decide_eq_false (by omega : ¬ 63 - i ≥ count),
      decide_eq_false (by omega : ¬ i + (written + count) < bitCount)]
    simp

theorem testBit_highestByte (word : UInt64) (below : i < 8) :
    (highestByte word).toNat.testBit (7 - i) = word.toNat.testBit (63 - i) := by
  unfold highestByte
  rw [UInt64.toNat_toUInt8, UInt64.toNat_shiftRight, Nat.testBit_mod_two_pow,
    decide_eq_true (by omega : 7 - i < 8), Bool.true_and]
  show (word.toNat >>> 56).testBit (7 - i) = _
  rw [Nat.testBit_shiftRight]
  congr 1
  omega

/-- The mask of `WritePartialByte`. -/
theorem testBit_mask (few : offset + count ≤ 8) (below : i < 8) :
    (UInt8.ofNat ((UInt8.ofNat (0xFF <<< (8 - count))).toNat >>> offset)).toNat.testBit (7 - i) =
      decide (offset ≤ i ∧ i < offset + count) := by
  have ones (place : Nat) : Nat.testBit 255 place = decide (place < 8) :=
    Nat.testBit_two_pow_sub_one 8 place
  rw [UInt8.toNat_ofNat', UInt8.toNat_ofNat', Nat.testBit_mod_two_pow, Nat.testBit_shiftRight,
    Nat.testBit_mod_two_pow, Nat.testBit_shiftLeft, ones, Bool.eq_iff_iff]
  simp only [Bool.and_eq_true, decide_eq_true_eq]
  omega

/-- Some bits of a byte are replaced, if there is nothing in the source behind them. -/
theorem testBit_writePartialByte (few : offset + count ≤ 8)
    (clean : ∀ i, count ≤ i → i + offset < 8 → source.toNat.testBit (7 - i) = false)
    (below : i < 8) :
    (writePartialByte source count target offset).toNat.testBit (7 - i) =
      if offset ≤ i ∧ i < offset + count then source.toNat.testBit (7 - (i - offset))
      else target.toNat.testBit (7 - i) := by
  have mask := testBit_mask few below
  have range := source.toNat_lt
  have shifted : (UInt8.ofNat (source.toNat >>> offset)).toNat.testBit (7 - i) =
      source.toNat.testBit (offset + (7 - i)) := by
    rw [UInt8.toNat_ofNat', Nat.testBit_mod_two_pow, Nat.testBit_shiftRight,
      decide_eq_true (by omega : 7 - i < 8), Bool.true_and]
  unfold writePartialByte
  dsimp only
  generalize UInt8.ofNat ((UInt8.ofNat (0xFF <<< (8 - count))).toNat >>> offset) = mask' at mask
  have complement : (~~~mask').toNat.testBit (7 - i) =
      !decide (offset ≤ i ∧ i < offset + count) := by
    have size : UInt8.size - 1 - mask'.toNat = 2 ^ 8 - (mask'.toNat + 1) := by
      show 256 - 1 - mask'.toNat = 2 ^ 8 - (mask'.toNat + 1)
      omega
    rw [UInt8.toNat_not, size, Nat.testBit_two_pow_sub_succ mask'.toNat_lt, mask,
      decide_eq_true (by omega : 7 - i < 8), Bool.true_and]
  rw [UInt8.toNat_or, UInt8.toNat_and, Nat.testBit_or, Nat.testBit_and, complement, shifted]
  by_cases replaced : offset ≤ i ∧ i < offset + count
  · have place : offset + (7 - i) = 7 - (i - offset) := by omega
    rw [if_pos replaced, decide_eq_true replaced, place]
    simp
  · rw [if_neg replaced, decide_eq_false replaced]
    have nothing : source.toNat.testBit (offset + (7 - i)) = false := by
      by_cases before : i < offset
      · exact Nat.testBit_lt_two_pow (lt_of_lt_of_le range
          (Nat.pow_le_pow_right (by omega) (by omega)))
      · have place : offset + (7 - i) = 7 - (i - offset) := by omega
        rw [place]
        exact clean (i - offset) (by omega) (by omega)
    rw [nothing]
    simp

end Words

section Written

variable {old bytes : List UInt8} {word : UInt64} {target byte : UInt8}
  {start value bitCount written count offset index : Nat}

/-- The first bits of a value have been written, and nothing else is new. -/
def Written (old bytes : List UInt8) (start value bitCount written : Nat) : Prop :=
  ∀ i, bitAt bytes i =
    if start ≤ i ∧ i < start + written then value.testBit (bitCount - 1 - (i - start))
    else bitAt old i

theorem written_nothing : Written old old start value bitCount 0 := by
  intro i
  rw [if_neg (by omega)]

/-- The next bits are put into one byte. -/
theorem Written.set (before : Written old bytes start value bitCount written)
    (found : bytes[index]? = some target) (place : start + written = 8 * index + offset)
    (few : offset + count ≤ 8) (bits : ∀ i < 8, byte.toNat.testBit (7 - i) =
      if offset ≤ i ∧ i < offset + count then value.testBit
    (bitCount - 1 - (written + (i - offset)))
      else target.toNat.testBit (7 - i)) :
    Written old (bytes.set index byte) start value bitCount (written + count) := by
  have within : index < bytes.length := (List.getElem?_eq_some_iff.mp found).1
  intro i
  rw [bitAt_set within]
  by_cases here : i / 8 = index
  · have split : i = 8 * index + i % 8 := by omega
    have inByte : i % 8 < 8 := Nat.mod_lt i (by omega)
    rw [if_pos here, bits (i % 8) inByte]
    by_cases replaced : offset ≤ i % 8 ∧ i % 8 < offset + count
    · rw [if_pos replaced, if_pos (by omega)]
      congr 1
      omega
    · have kept : target.toNat.testBit (7 - i % 8) = bitAt bytes i := by
        rw [← bitAt_of_byte found inByte, ← split]
      rw [if_neg replaced, kept, before i]
      by_cases earlier : start ≤ i ∧ i < start + written
      · rw [if_pos earlier, if_pos (by omega)]
      · rw [if_neg earlier, if_neg (by omega)]
  · rw [if_neg here, before i]
    by_cases earlier : start ≤ i ∧ i < start + written
    · rw [if_pos earlier, if_pos (by omega)]
    · rw [if_neg earlier, if_neg (by omega)]

variable {byteCount : Nat}

theorem storeByte_eq (bytes : BufferBytes byteCount) (byte : UInt8) (within : index < byteCount) :
    ∃ stored, storeByte bytes index byte = .ok stored ∧ stored.1 = bytes.1.set index byte :=
  ⟨_, if_pos within, rfl⟩

/-- Bits that are pending are stored in a part of a byte. -/
theorem Written.storePart {bytes : BufferBytes byteCount}
    (before : Written old bytes.1 start value bitCount written)
    (pending : Pending value bitCount written word) (found : bytes.1[index]? = some target)
    (place : start + written = 8 * index + offset) (few : offset + count ≤ 8)
    (enough : written + count ≤ bitCount)
    (clean : offset + count = 8 ∨ written + count = bitCount) :
    ∃ stored, storeByte bytes index (writePartialByte (highestByte word) count target offset) =
        .ok stored ∧ Written old stored.1 start value bitCount (written + count) := by
  have within : index < byteCount := bytes.2 ▸ (List.getElem?_eq_some_iff.mp found).1
  have source (j : Nat) (below : j < 8) : (highestByte word).toNat.testBit (7 - j) =
      (decide (j + written < bitCount) && value.testBit (bitCount - 1 - (j + written))) := by
    rw [testBit_highestByte word below]
    exact pending j (by omega)
  obtain ⟨stored, isStored, same⟩ :=
    storeByte_eq bytes (writePartialByte (highestByte word) count target offset) within
  refine ⟨stored, isStored, ?_⟩
  rw [same]
  refine before.set found place few fun i below => ?_
  rw [testBit_writePartialByte few ?_ below]
  · by_cases replaced : offset ≤ i ∧ i < offset + count
    · rw [if_pos replaced, if_pos replaced, source (i - offset) (by omega),
        decide_eq_true (by omega), Bool.true_and, Nat.add_comm written]
    · rw [if_neg replaced, if_neg replaced]
  · intro j behind inByte
    rw [source j (by omega), decide_eq_false (by omega), Bool.false_and]

/-- Full bytes that are pending are stored. -/
theorem writeFullBytes_spec (few : bitCount ≤ 64) (count : Nat)
    {bytes : BufferBytes byteCount} (before : Written old bytes.1 start value bitCount written)
    (pending : Pending value bitCount written word) (place : start + written = 8 * index)
    (within : index + count ≤ byteCount) (enough : written + 8 * count ≤ bitCount) :
    ∃ stored rest, writeFullBytes count bytes index word = .ok (stored, rest) ∧
      Written old stored.1 start value bitCount (written + 8 * count) ∧
      Pending value bitCount (written + 8 * count) rest := by
  induction count generalizing bytes written index word with
  | zero => exact ⟨bytes, word, rfl, before, pending⟩
  | succ count ih =>
      have here : index < byteCount := by omega
      have inBytes : index < bytes.1.length := by rw [bytes.2]; exact here
      have found : bytes.1[index]? = some bytes.1[index] := List.getElem?_eq_getElem inBytes
      have eight : Nat.toUInt64 8 = 8 := rfl
      obtain ⟨stored, isStored, same⟩ := storeByte_eq bytes (highestByte word) here
      have whole : Written old stored.1 start value bitCount (written + 8) := by
        rw [same]
        refine before.set found (place.trans (Nat.add_zero _).symm) (le_refl 8) fun i below => ?_
        rw [if_pos (by omega), testBit_highestByte word below, pending i (by omega),
          decide_eq_true (by omega), Bool.true_and, Nat.sub_zero, Nat.add_comm i]
      have shifted : Pending value bitCount (written + 8) (word <<< 8) :=
        eight ▸ pending.shift few (by omega)
      have nextPlace : start + (written + 8) = 8 * (index + 1) := by omega
      obtain ⟨result, rest, continued, all, left⟩ :=
        ih whole shifted nextPlace (by omega) (by omega)
      have total : written + 8 + 8 * count = written + 8 * (count + 1) := by omega
      rw [total] at all left
      refine ⟨result, rest, ?_, all, left⟩
      show (storeByte bytes index (highestByte word) >>= fun bytes => _) = _
      rw [isStored]
      exact continued

variable {buffer : BitBuffer}

/-- A buffer after bits have been written at its place. -/
structure Wrote (before after : BitBuffer) (value bitCount : Nat) : Prop where
  size : after.size = before.size
  position : after.position = before.position + bitCount
  bits : Written before.bytes after.bytes before.position value bitCount bitCount

/-- Behind the bytes that have been written the buffer goes on. -/
theorem wrote_consumeBits {bytes : BufferBytes buffer.bytes.length}
    (enough : buffer.position + bitCount ≤ buffer.size)
    (written : Written buffer.bytes bytes.1 buffer.position value bitCount bitCount) :
    ∃ after, (buffer.withBytes bytes).consumeBits bitCount = (true, after) ∧
      buffer.Wrote after value bitCount := by
  have size : (buffer.withBytes bytes).size = buffer.size := congrArg (8 * ·) bytes.2
  have room : (buffer.withBytes bytes).position + bitCount ≤ (buffer.withBytes bytes).size := by
    rw [size]
    exact enough
  obtain ⟨consumed, moves⟩ := consumeBits_of_enough room
  refine ⟨((buffer.withBytes bytes).consumeBits bitCount).2, Prod.ext consumed rfl, ?_, ?_, ?_⟩
  · rw [moves.size, size]
  · exact moves.position
  · rw [moves.bytes]
    exact written

/-- **Writing**: the bits of the value are at the place of the buffer, and nothing else is new. -/
theorem writeBits_of_enough (val : UInt64) (positive : 0 < bitCount) (few : bitCount ≤ 64)
    (enough : buffer.position + bitCount ≤ buffer.size) :
    ∃ after, buffer.writeBits val bitCount = .ok (true, after) ∧
      buffer.Wrote after val.toNat bitCount := by
  have inByte := buffer.inByte
  have within : buffer.byteOffset < buffer.bytes.length := by
    unfold position size at enough
    omega
  obtain ⟨first, found, isFirst⟩ := bufferByte_eq within
  have start := pending_start val positive few
  have nothing : Written buffer.bytes buffer.bytes buffer.position val.toNat bitCount 0 :=
    written_nothing
  unfold writeBits
  rw [if_neg (by rw [remainingBitCount_lt_iff]; omega), isFirst]
  dsimp only [bind, Except.bind]
  generalize val <<< (64 - bitCount).toUInt64 = word at start ⊢
  have own : Written buffer.bytes (⟨buffer.bytes, rfl⟩ : BufferBytes buffer.bytes.length).1
      buffer.position val.toNat bitCount 0 := nothing
  have place : buffer.position + 0 = 8 * buffer.byteOffset + buffer.bitOffset := rfl
  have firstFew : buffer.bitOffset + min bitCount (8 - buffer.bitOffset) ≤ 8 := by omega
  have firstEnough : 0 + min bitCount (8 - buffer.bitOffset) ≤ bitCount := by omega
  have clean : buffer.bitOffset + min bitCount (8 - buffer.bitOffset) = 8 ∨
      0 + min bitCount (8 - buffer.bitOffset) = bitCount := by omega
  obtain ⟨bytes, isStored, stored⟩ := own.storePart start found place firstFew firstEnough clean
  rw [isStored]
  dsimp only
  rw [Nat.zero_add] at stored
  by_cases one : bitCount ≤ 8 - buffer.bitOffset
  · rw [Nat.min_eq_left one] at stored
    obtain ⟨after, consumed, wrote⟩ := wrote_consumeBits enough stored
    rw [if_pos one, consumed]
    exact ⟨after, rfl, wrote⟩
  · have isMin : min bitCount (8 - buffer.bitOffset) = 8 - buffer.bitOffset := by omega
    rw [if_neg one, isMin]
    rw [isMin] at stored
    have left := start.shift few (by omega : 8 - buffer.bitOffset < 64)
    rw [Nat.zero_add] at left
    have fullPlace : buffer.position + (8 - buffer.bitOffset) = 8 * (buffer.byteOffset + 1) := by
      unfold position
      omega
    have fullWithin : buffer.byteOffset + 1 + (bitCount - (8 - buffer.bitOffset)) / 8 ≤
        buffer.bytes.length := by
      unfold position size at enough
      omega
    obtain ⟨full, rest, isFull, all, pending⟩ := writeFullBytes_spec few
      ((bitCount - (8 - buffer.bitOffset)) / 8) stored left fullPlace fullWithin (by omega)
    rw [isFull]
    dsimp only
    by_cases exact' : (bitCount - (8 - buffer.bitOffset)) % 8 = 0
    · have total : 8 - buffer.bitOffset + 8 * ((bitCount - (8 - buffer.bitOffset)) / 8) =
          bitCount := by omega
      rw [total] at all
      obtain ⟨after, consumed, wrote⟩ := wrote_consumeBits enough all
      rw [if_pos exact', consumed]
      exact ⟨after, rfl, wrote⟩
    · have lastWithin : buffer.byteOffset + 1 + (bitCount - (8 - buffer.bitOffset)) / 8 <
          full.1.length := by
        rw [full.2]
        unfold position size at enough
        omega
      have lastPlace : buffer.position +
          (8 - buffer.bitOffset + 8 * ((bitCount - (8 - buffer.bitOffset)) / 8)) =
          8 * (buffer.byteOffset + 1 + (bitCount - (8 - buffer.bitOffset)) / 8) + 0 := by omega
      have total : 8 - buffer.bitOffset + 8 * ((bitCount - (8 - buffer.bitOffset)) / 8) +
          (bitCount - (8 - buffer.bitOffset)) % 8 = bitCount := by omega
      obtain ⟨last, foundLast, isLast⟩ := bufferByte_eq lastWithin
      obtain ⟨bytes, isStored, stored⟩ :=
        all.storePart pending foundLast lastPlace (by omega) total.le (.inr total)
      rw [total] at stored
      obtain ⟨after, consumed, wrote⟩ := wrote_consumeBits enough stored
      rw [if_neg exact', isLast]
      dsimp only
      rw [isStored]
      dsimp only
      rw [consumed]
      exact ⟨after, rfl, wrote⟩

theorem writeBits_of_short (val : UInt64) (short : buffer.size < buffer.position + bitCount) :
    buffer.writeBits val bitCount = .ok (false, buffer) := by
  unfold writeBits
  rw [if_pos (remainingBitCount_lt_iff.mpr short)]

end Written

end BitBuffer

end MpWebRtc
