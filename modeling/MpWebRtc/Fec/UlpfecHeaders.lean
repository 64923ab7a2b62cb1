import Mathlib.Tactic.IntervalCases
import MpWebRtc.Math.BitField
import MpWebRtc.Math.Parity
import MpWebRtc.Math.Wire

/-!
# Headers of ULPFEC packets

A header names the media packets that were xored, by a base sequence number and a mask with one bit
for each number from the base on, and holds the parity of the fields of their RTP headers. The
reader moves the parity of the lengths, in place, to where the decoder looks for it; what matters is
that it restores what the writer was given.
-/

namespace MpWebRtc

open Math.Wire Math.Parity

/-- `kUlpfecPacketMaskSizeLBitClear`. -/
def kUlpfecPacketMaskSizeLBitClear : Nat := 2

/-- `kUlpfecPacketMaskSizeLBitSet`. -/
def kUlpfecPacketMaskSizeLBitSet : Nat := 6

/-- What `ReadFecHeader` fills in, with the packet as it leaves it. -/
structure FecHeader where
  data : List UInt8
  fecHeaderSize : Nat
  protectedSsrc : UInt32
  seqNumBase : UInt16
  packetMaskOffset : Nat
  packetMaskSize : Nat
  protectionLength : Nat

namespace Ulpfec

/-- `UlpfecHeaderSize`. -/
def ulpfecHeaderSize (packetMaskSize : Nat) : Nat :=
  if packetMaskSize ≤ kUlpfecPacketMaskSizeLBitClear then 10 + (2 + kUlpfecPacketMaskSizeLBitClear)
  else 10 + (2 + kUlpfecPacketMaskSizeLBitSet)

/-- `UlpfecHeaderReader::ReadFecHeader`; none where it returns false, for a truncated packet. -/
def readFecHeader (ssrc : UInt32) : List UInt8 → Option FecHeader
  | d0 :: d1 :: b0 :: b1 :: t0 :: t1 :: t2 :: t3 :: l0 :: l1 :: p0 :: p1 :: rest =>
      let packetMaskSize := if d0 &&& 0x40 ≠ 0 then kUlpfecPacketMaskSizeLBitSet
        else kUlpfecPacketMaskSizeLBitClear
      some {
        -- the length recovery field goes where FlexFEC has it
        data := d0 :: d1 :: l0 :: l1 :: t0 :: t1 :: t2 :: t3 :: l0 :: l1 :: p0 :: p1 :: rest
        fecHeaderSize := ulpfecHeaderSize packetMaskSize
        protectedSsrc := ssrc
        seqNumBase := UInt16.ofNat (readBigEndian [b0, b1])
        packetMaskOffset := 12
        packetMaskSize
        protectionLength := readBigEndian [p0, p1] }
  | _ => none

/-- `UlpfecHeaderWriter::FinalizeFecHeader`; none where it writes outside of the packet, or is given
a mask of another size. -/
def finalizeFecHeader (seqNumBase : UInt16) (packetMask : List UInt8) :
    List UInt8 → Option (List UInt8)
  | d0 :: d1 :: l0 :: l1 :: t0 :: t1 :: t2 :: t3 :: _ :: _ :: _ :: _ :: rest =>
      let fecHeaderSize := ulpfecHeaderSize packetMask.length
      let lBit := packetMask.length == kUlpfecPacketMaskSizeLBitSet
      if ¬ lBit ∧ packetMask.length ≠ kUlpfecPacketMaskSizeLBitClear then none
      else if rest.length < packetMask.length then none
      else
        let d0 := d0 &&& 0x7f
        some ((if lBit then d0 ||| 0x40 else d0 &&& 0xbf) :: d1 ::
          (writeBigEndian 2 seqNumBase.toNat ++ (t0 :: t1 :: t2 :: t3 :: l0 :: l1 ::
            (writeBigEndian 2 (12 + rest.length - fecHeaderSize) ++
              (packetMask ++ rest.drop packetMask.length)))))
  | _ => none

end Ulpfec

/-- What a reader gives back of a packet that a writer has finished: the parity of the fields,
except for the two bits of the version, the parity of the payloads, and the numbers of the mask. -/
structure FecHeader.Restores (header : FecHeader) (headerSize : Nat) (mediaSsrc : UInt32)
    (seqNumBase : UInt16) (packetMask data : List UInt8) : Prop where
  length : header.data.length = data.length
  firstByte : padded header.data 0 &&& 0x3f = padded data 0 &&& 0x3f
  fields : ∀ i, 0 < i → i < 8 → padded header.data i = padded data i
  payload : header.data.drop headerSize = data.drop headerSize
  fecHeaderSize : header.fecHeaderSize = headerSize
  ssrc : header.protectedSsrc = mediaSsrc
  base : header.seqNumBase = seqNumBase
  protectionLength : header.protectionLength = data.length - headerSize
  inside : header.packetMaskOffset + header.packetMaskSize ≤ header.data.length
  mask : (header.data.drop header.packetMaskOffset).take header.packetMaskSize = packetMask

/-- The two sizes of a mask. -/
def IsPacketMask (packetMask : List UInt8) : Prop :=
  packetMask.length = kUlpfecPacketMaskSizeLBitClear ∨
    packetMask.length = kUlpfecPacketMaskSizeLBitSet

section Bytes

/-- A fact about bytes is one about eight bits. -/
theorem forall_byte (Holds : UInt8 → Prop) (all : ∀ bits : BitVec 8, Holds ⟨bits⟩) (byte : UInt8) :
    Holds byte :=
  all byte.toBitVec

theorem lBit_set (byte : UInt8) :
    ((byte &&& 0x7f) ||| 0x40) &&& 0x40 ≠ 0 ∧ ((byte &&& 0x7f) ||| 0x40) &&& 0x3f = byte &&& 0x3f :=
  forall_byte (fun byte => ((byte &&& 0x7f) ||| 0x40) &&& 0x40 ≠ 0 ∧
    ((byte &&& 0x7f) ||| 0x40) &&& 0x3f = byte &&& 0x3f) (by decide +kernel) byte

theorem lBit_clear (byte : UInt8) :
    ((byte &&& 0x7f) &&& 0xbf) &&& 0x40 = 0 ∧ ((byte &&& 0x7f) &&& 0xbf) &&& 0x3f = byte &&& 0x3f :=
  forall_byte (fun byte => ((byte &&& 0x7f) &&& 0xbf) &&& 0x40 = 0 ∧
    ((byte &&& 0x7f) &&& 0xbf) &&& 0x3f = byte &&& 0x3f) (by decide +kernel) byte

end Bytes

variable {packetMask data : List UInt8}

/-- A list that is long enough begins with eight single items. -/
theorem exists_eight {Item : Type} (items : List Item) (long : 8 ≤ items.length) :
    ∃ i0 i1 i2 i3 i4 i5 i6 i7 rest,
      items = i0 :: i1 :: i2 :: i3 :: i4 :: i5 :: i6 :: i7 :: rest := by
  match items, long with
  | i0 :: i1 :: i2 :: i3 :: i4 :: i5 :: i6 :: i7 :: rest, _ =>
      exact ⟨i0, i1, i2, i3, i4, i5, i6, i7, rest, rfl⟩

theorem exists_four {Item : Type} (items : List Item) (long : 4 ≤ items.length) :
    ∃ i0 i1 i2 i3 rest, items = i0 :: i1 :: i2 :: i3 :: rest := by
  match items, long with
  | i0 :: i1 :: i2 :: i3 :: rest, _ => exact ⟨i0, i1, i2, i3, rest, rfl⟩

theorem ofNat_readBigEndian_half (value : UInt16) :
    UInt16.ofNat (readBigEndian (writeBigEndian 2 value.toNat)) = value := by
  apply UInt16.toNat_inj.mp
  have small := value.toNat_lt
  rw [readBigEndian_writeBigEndian, UInt16.toNat_ofNat']
  omega

/-- Two bytes that a number was written to. -/
theorem writeBigEndian_two (value : Nat) :
    writeBigEndian 2 value = [UInt8.ofNat (value / 256), UInt8.ofNat value] := by
  simp [writeBigEndian]

theorem writeBigEndian_four (value : Nat) :
    writeBigEndian 4 value = [UInt8.ofNat (value / 16777216), UInt8.ofNat (value / 65536),
      UInt8.ofNat (value / 256), UInt8.ofNat value] := by
  simp [writeBigEndian]

theorem readBigEndian_two (a b : UInt8) : readBigEndian [a, b] = a.toNat * 256 + b.toNat := by
  simp [readBigEndian]

theorem readBigEndian_four (a b c d : UInt8) :
    readBigEndian [a, b, c, d] = ((a.toNat * 256 + b.toNat) * 256 + c.toNat) * 256 + d.toNat := by
  simp [readBigEndian]

namespace Ulpfec

theorem headerSize_eq (isMask : IsPacketMask packetMask) :
    ulpfecHeaderSize packetMask.length = 12 + packetMask.length := by
  unfold ulpfecHeaderSize
  rcases isMask with two | six
  · rw [two, if_pos (Nat.le_refl _)]
    rfl
  · rw [six, if_neg (by decide)]
    rfl

/-- The L bit tells the size of the mask. -/
theorem exists_finished (seqNumBase : UInt16) (isMask : IsPacketMask packetMask)
    (d0 d1 l0 l1 t0 t1 t2 t3 x0 x1 x2 x3 : UInt8) {rest : List UInt8}
    (room : packetMask.length ≤ rest.length) :
    ∃ first, first &&& 0x3f = d0 &&& 0x3f ∧
      (if first &&& 0x40 ≠ 0 then kUlpfecPacketMaskSizeLBitSet
        else kUlpfecPacketMaskSizeLBitClear) = packetMask.length ∧
      finalizeFecHeader seqNumBase packetMask
        (d0 :: d1 :: l0 :: l1 :: t0 :: t1 :: t2 :: t3 :: x0 :: x1 :: x2 :: x3 :: rest) =
        some
    (first :: d1 :: (writeBigEndian 2 seqNumBase.toNat ++ (t0 :: t1 :: t2 :: t3 :: l0 :: l1 ::
          (writeBigEndian 2 (rest.length - packetMask.length) ++
            (packetMask ++ rest.drop packetMask.length))))) := by
  have size : 12 + rest.length - ulpfecHeaderSize packetMask.length =
      rest.length - packetMask.length := by
    rw [headerSize_eq isMask]
    omega
  rcases isMask with two | six
  · obtain ⟨bit, low⟩ := lBit_clear d0
    refine ⟨(d0 &&& 0x7f) &&& 0xbf, low, ?_, ?_⟩
    · rw [if_neg (not_not.mpr bit), two]
    · have clear : (packetMask.length == kUlpfecPacketMaskSizeLBitSet) = false := by
        rw [two]
        rfl
      unfold finalizeFecHeader
      simp only [clear, size]
      rw [if_neg (fun wrong => wrong.2 two), if_neg (Nat.not_lt.mpr room), if_neg Bool.false_ne_true]
  · obtain ⟨bit, low⟩ := lBit_set d0
    refine ⟨(d0 &&& 0x7f) ||| 0x40, low, ?_, ?_⟩
    · rw [if_pos bit, six]
    · have set : (packetMask.length == kUlpfecPacketMaskSizeLBitSet) = true := by
        rw [six]
        rfl
      unfold finalizeFecHeader
      dsimp only
      rw [set, size, if_neg (fun wrong => wrong.1 rfl), if_neg (Nat.not_lt.mpr room), if_pos rfl]

/-- The reader restores what the writer finishes. -/
theorem exists_restored (ssrc : UInt32) (seqNumBase : UInt16) (isMask : IsPacketMask packetMask)
    (fits : ulpfecHeaderSize packetMask.length ≤ data.length) (short : data.length < 65536) :
    ∃ finished header, finalizeFecHeader seqNumBase packetMask data = some finished ∧
      readFecHeader ssrc finished = some header ∧
      header.Restores (ulpfecHeaderSize packetMask.length) ssrc seqNumBase packetMask data := by
  rw [headerSize_eq isMask] at fits ⊢
  obtain ⟨d0, d1, l0, l1, t0, t1, t2, t3, tail, rfl⟩ := exists_eight data (by omega)
  simp only [List.length_cons] at fits short
  obtain ⟨x0, x1, x2, x3, rest, rfl⟩ := exists_four tail (by omega)
  simp only [List.length_cons] at fits short
  have room : packetMask.length ≤ rest.length := by omega
  obtain ⟨first, low, lBit, finished⟩ :=
    exists_finished seqNumBase isMask d0 d1 l0 l1 t0 t1 t2 t3 x0 x1 x2 x3 room
  refine ⟨_, _, finished, rfl, ?_⟩
  have whole : (packetMask ++ rest.drop packetMask.length).length = rest.length := by
    rw [List.length_append, List.length_drop]
    omega
  constructor
  case length => exact congrArg (· + 12) whole
  case firstByte => exact low
  case fields =>
    intro i positive below
    interval_cases i <;> rfl
  case payload =>
    rw [← List.drop_drop, ← List.drop_drop]
    exact List.drop_left
  case fecHeaderSize =>
    show ulpfecHeaderSize (if first &&& 0x40 ≠ 0 then _ else _) = _
    rw [lBit, headerSize_eq isMask]
  case ssrc => rfl
  case base => exact ofNat_readBigEndian_half seqNumBase
  case protectionLength =>
    show readBigEndian (writeBigEndian 2 (rest.length - packetMask.length)) = _
    rw [readBigEndian_writeBigEndian]
    simp only [List.length_cons]
    omega
  case inside =>
    show 12 + (if first &&& 0x40 ≠ 0 then _ else _) ≤
      (packetMask ++ rest.drop packetMask.length).length + 12
    rw [lBit, whole]
    omega
  case mask =>
    show (packetMask ++ rest.drop packetMask.length).take (if first &&& 0x40 ≠ 0 then _ else _) = _
    rw [lBit, List.take_left]

end Ulpfec

end MpWebRtc
