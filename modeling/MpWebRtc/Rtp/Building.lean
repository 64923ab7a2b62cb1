import Mathlib.Data.List.Induction
import MpWebRtc.Rtp.Layout

/-!
# Building a packet

Every call that builds a packet keeps its layout. An extension is written within the buffer
exactly if the zeros after it are, too: the check of `AllocateRawExtension` leaves them out,
so that in a buffer whose capacity is not a multiple of four bytes they may go beyond it.
-/

namespace MpWebRtc

open Math.Memory Math.Wire

namespace RtpPacket

/-- A packet without payload and padding, as far as it is built. -/
structure Built (p : RtpPacket) (csrcs : List UInt32) (twoByte : Bool)
    (extensions : List (UInt8 × List UInt8)) (rest : List UInt8) : Prop where
  buffer : p.buffer = fixedHeader p (firstByte (!extensions.isEmpty) false csrcs.length) ++
    (csrcs.flatMap wordBytes ++ (extensionArea twoByte extensions ++ rest))
  entries : p.extensionEntries = entriesFrom twoByte (16 + 4 * csrcs.length) extensions
  size : p.extensionsSize = (extensionBlock twoByte extensions).length
  offset : p.payloadOffset = 12 + 4 * csrcs.length + (extensionArea twoByte extensions).length
  noPayload : p.payloadSize = 0
  noPadding : p.paddingSize = 0
  few : csrcs.length ≤ 15
  typed : p.payloadType < 128

section Writing

variable {p : RtpPacket} {earlier old new later : List UInt8} {offset : Nat}

theorem write_eq_some (shape : p.buffer = earlier ++ (old ++ later))
    (position : offset = earlier.length) (same : old.length = new.length) :
    p.write offset new = some { p with buffer := earlier ++ (new ++ later) } := by
  rw [write, writeAt_eq_some shape position same, Option.map_some]

theorem write_eq_none (beyond : p.capacity < offset + new.length) : p.write offset new = none := by
  rw [write, writeAt_eq_none beyond, Option.map_none]

variable {result : RtpPacket}

/-- A write changes nothing but the buffer, and not its capacity. -/
theorem write_frame (written : p.write offset new = some result) :
    result = { p with buffer := result.buffer } ∧ result.capacity = p.capacity := by
  obtain ⟨buffer, wrote, rfl⟩ := Option.map_eq_some_iff.mp written
  exact ⟨rfl, length_writeAt wrote⟩

theorem room_of_write (written : p.write offset new = some result) :
    offset + new.length ≤ p.capacity := by
  obtain ⟨buffer, wrote, -⟩ := Option.map_eq_some_iff.mp written
  exact le_of_writeAt wrote

theorem length_csrcs (csrcs : List UInt32) :
    (csrcs.flatMap wordBytes).length = 4 * csrcs.length := by
  rw [length_flatMap_of_forall length_wordBytes, Nat.mul_comm]

theorem room_of_initial {memory : List UInt8} (cleared : initial memory = some p) :
    kFixedHeaderSize ≤ memory.length := by
  unfold initial at cleared
  simp only [Option.bind_eq_bind] at cleared
  obtain ⟨q, first, -⟩ := Option.bind_eq_some_iff.mp cleared
  have room := room_of_write first
  rw [List.length_replicate, Nat.zero_add] at room
  exact room

theorem room_of_setCsrcs {csrcs : List UInt32}
    (set : p.setCsrcs csrcs = some result) : 12 + 4 * csrcs.length ≤ p.capacity := by
  unfold RtpPacket.setCsrcs at set
  simp only [Option.bind_eq_bind] at set
  obtain ⟨q, first, second⟩ := Option.bind_eq_some_iff.mp set
  have room := room_of_write second
  rw [(write_frame first).2, length_csrcs] at room
  exact room

end Writing

variable {p : RtpPacket} {csrcs : List UInt32} {twoByte : Bool}
variable {extensions : List (UInt8 × List UInt8)} {rest : List UInt8}

section Fields

/-- The packet with its fixed header written in front of the rest. -/
def withHeader (p : RtpPacket) (first : UInt8) (body : List UInt8) : RtpPacket :=
  { p with buffer := fixedHeader p first ++ body }

/-- An empty packet. -/
theorem built_initial {memory : List UInt8} (room : kFixedHeaderSize ≤ memory.length) :
    ∃ p rest, initial memory = some p ∧ Built p [] false [] rest ∧
      p.capacity = memory.length ∧ p.settings = (true, {}) := by
  obtain ⟨old, rest, rfl, length⟩ := exists_split room
  let blank : RtpPacket := { buffer := old ++ rest }
  have cleared : blank.write 0 (List.replicate kFixedHeaderSize 0) =
      some { blank with buffer := [] ++ (List.replicate kFixedHeaderSize 0 ++ rest) } :=
    write_eq_some rfl rfl (by rw [length, List.length_replicate])
  have header : fixedHeader blank 0x80 = 0x80 :: List.replicate 11 0 := by
    change [0x80] ++ ([secondByte false 0] ++ (halfWordBytes 0 ++ (wordBytes 0 ++ wordBytes 0))) = _
    decide
  refine ⟨blank.withHeader 0x80 rest, rest, ?_, ?_, ?_, rfl⟩
  · unfold initial
    dsimp only
    rw [Option.bind_eq_bind]
    refine (congrArg (Option.bind · _) cleared).trans ?_
    rw [Option.bind_some, withHeader, header]
    rfl
  · refine ⟨?_, rfl, rfl, rfl, rfl, rfl, Nat.zero_le _, ?_⟩
    · rfl
    · exact (by decide : (0 : UInt8) < 128)
  · unfold capacity withHeader
    rw [List.length_append, List.length_append, length_fixedHeader, length]
    rfl

variable {first : UInt8} {body : List UInt8}

section

variable (shape : p.buffer = fixedHeader p first ++ body)
include shape

theorem setMarker_eq (typed : p.payloadType < 128) (marker : Bool) :
    p.setMarker marker = some ({ p with marker }.withHeader first body) := by
  have byte : byteAt p.buffer 1 = secondByte p.marker p.payloadType := by
    rw [shape]
    rfl
  have next : (if marker then byteAt p.buffer 1 ||| 0x80 else byteAt p.buffer 1 &&& 0x7F) =
      secondByte marker p.payloadType := by
    rw [byte]
    cases marker with
    | true => exact secondByte_setMarker typed _
    | false => exact secondByte_payloadType typed _
  unfold RtpPacket.setMarker
  rw [next]
  exact @write_eq_some { p with marker } [first] [_] [_] _ 1 shape rfl rfl

theorem setPayloadType_eq (typed : p.payloadType < 128) (payloadType : UInt8) :
    p.setPayloadType payloadType = some ({ p with payloadType }.withHeader first body) := by
  have byte : byteAt p.buffer 1 = secondByte p.marker p.payloadType := by
    rw [shape]
    rfl
  unfold RtpPacket.setPayloadType
  rw [byte, secondByte_setPayloadType typed]
  exact @write_eq_some { p with payloadType } [first] [_] [_] _ 1 shape rfl rfl

theorem setSequenceNumber_eq (sequenceNumber : UInt16) :
    p.setSequenceNumber sequenceNumber =
      some ({ p with sequenceNumber }.withHeader first body) := by
  unfold RtpPacket.setSequenceNumber
  rw [@write_eq_some { p with sequenceNumber } [first, secondByte p.marker p.payloadType]
    (halfWordBytes p.sequenceNumber) _ ((wordBytes p.timestamp ++ wordBytes p.ssrc) ++ body) 2
    (by simp [shape, fixedHeader]) rfl (by simp)]
  simp [withHeader, fixedHeader]

theorem setTimestamp_eq (timestamp : UInt32) :
    p.setTimestamp timestamp = some ({ p with timestamp }.withHeader first body) := by
  unfold RtpPacket.setTimestamp
  rw [@write_eq_some { p with timestamp }
    ([first, secondByte p.marker p.payloadType] ++ halfWordBytes p.sequenceNumber)
    (wordBytes p.timestamp) _ (wordBytes p.ssrc ++ body) 4
    (by simp [shape, fixedHeader]) (by simp) (by simp)]
  simp [withHeader, fixedHeader]

theorem setSsrc_eq (ssrc : UInt32) :
    p.setSsrc ssrc = some ({ p with ssrc }.withHeader first body) := by
  unfold RtpPacket.setSsrc
  rw [@write_eq_some { p with ssrc }
    ([first, secondByte p.marker p.payloadType] ++
      (halfWordBytes p.sequenceNumber ++ wordBytes p.timestamp))
    (wordBytes p.ssrc) _ body 8 (by simp [shape, fixedHeader]) (by simp) (by simp)]
  simp [withHeader, fixedHeader]

/-- Writing the first byte. -/
theorem write_first (next : UInt8) : p.write 0 [next] = some (p.withHeader next body) :=
  @write_eq_some p [] [_] [_] _ 0 shape rfl rfl

end

/-- A write behind the fixed header. -/
theorem write_behind {before old new later : List UInt8} {offset : Nat}
    (shape : p.buffer = fixedHeader p first ++ (before ++ (old ++ later)))
    (position : offset = 12 + before.length) (same : old.length = new.length) :
    p.write offset new = some (p.withHeader first (before ++ (new ++ later))) := by
  rw [@write_eq_some p (fixedHeader p first ++ before) old new later offset
    (by rw [shape, List.append_assoc])
    (by rw [position, List.length_append, length_fixedHeader]) same, List.append_assoc]
  rfl

theorem byteAt_first (shape : p.buffer = fixedHeader p first ++ body) :
    byteAt p.buffer 0 = first := by
  rw [shape]
  rfl

@[simp] theorem withHeader_capacity (p : RtpPacket) (first : UInt8) (body : List UInt8) :
    (p.withHeader first body).capacity = 12 + body.length := by
  rw [capacity, withHeader, List.length_append, length_fixedHeader]

/-- The contributing sources are set first. -/
theorem Built.setCsrcs (built : Built p [] false [] rest) (few : csrcs.length ≤ 15)
    (room : 12 + 4 * csrcs.length ≤ p.capacity) :
    ∃ p' rest', p.setCsrcs csrcs = some p' ∧ Built p' csrcs false [] rest' ∧
      p'.capacity = p.capacity ∧ p'.settings = p.settings := by
  have shape : p.buffer = fixedHeader p (firstByte false false 0) ++ rest := built.buffer
  rw [capacity, shape, List.length_append, length_fixedHeader] at room
  obtain ⟨old, rest, rfl, length⟩ := @exists_split _ rest (4 * csrcs.length) (by omega)
  let sized := { p with payloadOffset := kFixedHeaderSize + 4 * csrcs.length }
  have counted : sized.write 0 [(byteAt sized.buffer 0 &&& 0xF0) ||| UInt8.ofNat csrcs.length] =
      some (sized.withHeader (firstByte false false csrcs.length) (old ++ rest)) := by
    rw [byteAt_first (p := sized) shape, firstByte_setCount few]
    exact write_first (p := sized) shape _
  let numbered := sized.withHeader (firstByte false false csrcs.length) (csrcs.flatMap wordBytes ++ rest)
  have written : (sized.withHeader (firstByte false false csrcs.length) (old ++ rest)).write
      kFixedHeaderSize (csrcs.flatMap wordBytes) = some numbered :=
    write_eq_some rfl (length_fixedHeader ..).symm (by rw [length, length_csrcs])
  refine ⟨numbered, rest, ?_, ⟨rfl, built.entries, built.size, rfl, built.noPayload,
    built.noPadding, few, built.typed⟩, ?_, rfl⟩
  · unfold RtpPacket.setCsrcs
    dsimp only
    rw [Option.bind_eq_bind]
    exact (congrArg (Option.bind · _) counted).trans written
  · rw [withHeader_capacity, capacity, shape]
    simp only [List.length_append, length_fixedHeader, length, length_csrcs]

end Fields

section Extensions

variable {before words block old : List UInt8} {extensionsOffset : Nat}

/-- The length and the zeros are written, if the zeros fit. -/
theorem setExtensionLength_eq (shape : p.buffer = before ++ (words ++ (block ++ (old ++ rest))))
    (position : extensionsOffset = before.length + 2) (width : words.length = 2)
    (sized : p.extensionsSize = block.length) (small : block.length + 3 < 65536)
    (room : old.length = 4 * wordsOf block.length - block.length) :
    p.setExtensionLengthMaybeAddZeroPadding extensionsOffset =
      some { p with
        buffer := before ++ (halfWordBytes (UInt16.ofNat (wordsOf block.length)) ++
          (block ++ (List.replicate (4 * wordsOf block.length - block.length) 0 ++ rest)))
        payloadOffset := extensionsOffset + 4 * wordsOf block.length } := by
  rw [← sized] at small room ⊢
  have exact_words : (UInt16.ofNat (wordsOf p.extensionsSize)).toNat = wordsOf p.extensionsSize := by
    rw [UInt16.toNat_ofNat']
    unfold wordsOf
    omega
  have counted := @write_eq_some p before words
    (halfWordBytes (UInt16.ofNat (wordsOf p.extensionsSize))) (block ++ (old ++ rest))
    (extensionsOffset - 2) shape (by omega) (by rw [width, length_halfWordBytes])
  have padded := @write_eq_some
    { p with buffer := before ++ (halfWordBytes (UInt16.ofNat (wordsOf p.extensionsSize)) ++
      (block ++ (old ++ rest))) }
    (before ++ (halfWordBytes (UInt16.ofNat (wordsOf p.extensionsSize)) ++ block)) old
    (List.replicate (4 * wordsOf p.extensionsSize - p.extensionsSize) 0) rest
    (extensionsOffset + p.extensionsSize) (by simp only [List.append_assoc])
    (by simp only [List.length_append, length_halfWordBytes]; omega)
    (by rw [room, List.length_replicate])
  unfold setExtensionLengthMaybeAddZeroPadding
  simp only [Option.bind_eq_bind]
  rw [← wordsOf, counted, Option.bind_some, exact_words, padded, Option.bind_some]
  simp only [List.append_assoc]
  rw [Nat.mod_eq_of_lt (by unfold wordsOf; omega)]

/-- If the zeros do not fit, they are written beyond the buffer. -/
theorem setExtensionLength_eq_none
    (beyond : p.capacity < extensionsOffset + 4 * wordsOf p.extensionsSize)
    (small : p.extensionsSize + 3 < 65536) :
    p.setExtensionLengthMaybeAddZeroPadding extensionsOffset = none := by
  have exact_words : (UInt16.ofNat (wordsOf p.extensionsSize)).toNat = wordsOf p.extensionsSize := by
    rw [UInt16.toNat_ofNat']
    unfold wordsOf
    omega
  unfold setExtensionLengthMaybeAddZeroPadding
  simp only [Option.bind_eq_bind]
  rw [← wordsOf, exact_words]
  cases counted : p.write (extensionsOffset - 2)
      (halfWordBytes (UInt16.ofNat (wordsOf p.extensionsSize))) with
  | none => rfl
  | some q =>
      obtain ⟨same, capacity⟩ := write_frame counted
      have size : q.extensionsSize = p.extensionsSize := by rw [same]
      rw [Option.bind_some, size, write_eq_none, Option.bind_none]
      rw [List.length_replicate, capacity]
      unfold wordsOf at beyond ⊢
      omega

/-- Without extensions, the size of their headers is still open. -/
theorem Built.retag (built : Built p csrcs twoByte [] rest) (other : Bool) :
    Built p csrcs other [] rest :=
  ⟨built.buffer, built.entries, built.size, built.offset, built.noPayload, built.noPadding,
    built.few, built.typed⟩

theorem extensionBlock_ne_nil (filled : extensions ≠ []) :
    0 < (extensionBlock twoByte extensions).length := by
  obtain ⟨extension, rest, rfl⟩ := List.exists_cons_of_ne_nil filled
  rw [extensionBlock_cons, List.length_append, length_extensionHeader]
  unfold headerSize
  split <;> omega

theorem Built.capacity_eq (built : Built p csrcs twoByte extensions rest) :
    p.capacity = 12 + 4 * csrcs.length +
    (extensionArea twoByte extensions).length + rest.length := by
  rw [capacity, built.buffer]
  simp only [List.length_append, length_fixedHeader, length_csrcs]
  omega

/-- After the first extension is opened, the profile is written, then come two bytes for the
length, and the extensions so far. -/
theorem Built.openExtensions (built : Built p csrcs twoByte extensions rest)
    (room : 16 + 4 * csrcs.length + (extensionBlock twoByte extensions).length ≤ p.capacity) :
    ∃ words tail, words.length = 2 ∧
      p.openExtensions (16 + 4 * csrcs.length) (profileOf twoByte) =
        some (p.withHeader (firstByte true false csrcs.length) (csrcs.flatMap wordBytes ++
          (halfWordBytes (UInt16.ofNat (profileOf twoByte)) ++
            (words ++ (extensionBlock twoByte extensions ++ tail))))) ∧
      16 + 4 * csrcs.length + (extensionBlock twoByte extensions).length + tail.length =
        p.capacity := by
  have capacity := built.capacity_eq
  cases extensions with
  | nil =>
      have shape : p.buffer = fixedHeader p (firstByte false false csrcs.length) ++
        (csrcs.flatMap wordBytes ++ rest) := built.buffer
      rw [extensionBlock_nil, List.length_nil] at room
      have none : (extensionArea twoByte []).length = 0 := rfl
      obtain ⟨profile, rest, rfl, width⟩ := @exists_split _ rest 2 (by omega)
      rw [List.length_append] at capacity
      obtain ⟨words, tail, rfl, two⟩ := @exists_split _ rest 2 (by omega)
      rw [List.length_append] at capacity
      refine ⟨words, tail, two, ?_, by rw [extensionBlock_nil, List.length_nil]; omega⟩
      have empty : p.extensionsSize = 0 := built.size
      unfold RtpPacket.openExtensions
      rw [if_pos empty, byteAt_first shape, firstByte_setExtended built.few,
        Option.bind_eq_bind, write_first shape, Option.bind_some]
      exact write_behind rfl (by rw [length_csrcs]; omega) (by rw [width, length_halfWordBytes])
  | cons extension others =>
      have filled : extension :: others ≠ [] := List.cons_ne_nil _ _
      have nonempty := @extensionBlock_ne_nil twoByte _ filled
      rw [length_extensionArea filled] at capacity
      refine ⟨halfWordBytes (UInt16.ofNat (wordsOf
          (extensionBlock twoByte (extension :: others)).length)),
        List.replicate (4 * wordsOf (extensionBlock twoByte (extension :: others)).length -
          (extensionBlock twoByte (extension :: others)).length) 0 ++ rest, length_halfWordBytes _,
        ?_, ?_⟩
      · unfold RtpPacket.openExtensions
        rw [if_neg (by rw [built.size]; omega)]
        have shape := built.buffer
        unfold extensionArea at shape
        rw [if_neg filled] at shape
        refine congrArg some ?_
        unfold withHeader
        cases p
        simp only [RtpPacket.mk.injEq, true_and] at shape ⊢
        rw [shape]
        simp only [List.append_assoc, List.isEmpty_cons, Bool.not_false]
        rfl
      · rw [List.length_append, List.length_replicate]
        unfold wordsOf at capacity ⊢
        omega

theorem headerSize_profileOf (twoByte : Bool) :
    (if profileOf twoByte = kOneByteExtensionProfileId then 1 else 2) = headerSize twoByte := by
  cases twoByte <;> rfl

/-- The state after the header of a further extension is written. -/
theorem Built.writeExtensionHeader (built : Built p csrcs twoByte extensions rest) (id : UInt8)
    (length : Nat) (fits : 16 + 4 * csrcs.length +
      ((extensionBlock twoByte extensions).length + headerSize twoByte + length) ≤ p.capacity) :
    ∃ words tail, words.length = 2 ∧
      ((p.openExtensions (16 + 4 * csrcs.length) (profileOf twoByte)).bind fun p =>
        p.write (16 + 4 * csrcs.length + p.extensionsSize)
          (extensionHeader (profileOf twoByte) id length)) =
        some (p.withHeader (firstByte true false csrcs.length) (csrcs.flatMap wordBytes ++
          (halfWordBytes (UInt16.ofNat (profileOf twoByte)) ++
            (words ++ ((extensionBlock twoByte extensions ++
              extensionHeader (profileOf twoByte) id length) ++ tail))))) ∧
      16 + 4 * csrcs.length + (extensionBlock twoByte extensions).length + headerSize twoByte +
        tail.length = p.capacity := by
  obtain ⟨words, tail, width, opened, capacity⟩ := built.openExtensions (by omega)
  obtain ⟨old, tail, rfl, same⟩ := @exists_split _ tail (headerSize twoByte) (by omega)
  rw [List.length_append] at capacity
  refine ⟨words, tail, width, ?_, by omega⟩
  rw [opened, Option.bind_some]
  rw [@write_behind _ _ (csrcs.flatMap wordBytes ++ (halfWordBytes (UInt16.ofNat
    (profileOf twoByte)) ++ (words ++ extensionBlock twoByte extensions))) old _ tail _
    (by simp only [withHeader, List.append_assoc]; rfl)
    (by
      simp only [List.length_append, length_csrcs, length_halfWordBytes, width]
      change _ + p.extensionsSize = _
      rw [built.size]
      omega)
    (by rw [same, length_extensionHeader])]
  simp only [List.append_assoc]
  rfl

/-- A further extension is appended, with its value still open, if the zeros after it fit. -/
theorem Built.appendExtension (built : Built p csrcs twoByte extensions rest)
    (limited : p.capacity ≤ 65535) (id : UInt8) (length : Nat) (fits : 16 + 4 * csrcs.length +
      ((extensionBlock twoByte extensions).length + headerSize twoByte + length) ≤ p.capacity) :
    if 16 + 4 * csrcs.length +
        4 * wordsOf ((extensionBlock twoByte extensions).length + headerSize twoByte + length) ≤
          p.capacity then
      ∃ p' value rest', value.length = length ∧
        p.appendExtension (16 + 4 * csrcs.length) (profileOf twoByte) id length =
          some (p', some (16 + 4 * csrcs.length + (extensionBlock twoByte extensions).length +
            headerSize twoByte)) ∧
        Built p' csrcs twoByte (extensions ++ [(id, value)]) rest' ∧ p'.capacity = p.capacity ∧
        p'.settings = p.settings
    else p.appendExtension (16 + 4 * csrcs.length) (profileOf twoByte) id length = none := by
  obtain ⟨words, tail, width, written, capacity⟩ := built.writeExtensionHeader id length fits
  let header := p.withHeader (firstByte true false csrcs.length) (csrcs.flatMap wordBytes ++
    (halfWordBytes (UInt16.ofNat (profileOf twoByte)) ++
      (words ++ ((extensionBlock twoByte extensions ++
        extensionHeader (profileOf twoByte) id length) ++ tail))))
  let listed := header.listExtension (16 + 4 * csrcs.length) (headerSize twoByte) id length
  have whole : p.appendExtension (16 + 4 * csrcs.length) (profileOf twoByte) id length =
      (listed.setExtensionLengthMaybeAddZeroPadding (16 + 4 * csrcs.length)).bind fun p' =>
        some (p', some (UInt16.ofNat (16 + 4 * csrcs.length + p.extensionsSize +
          headerSize twoByte)).toNat) := by
    unfold RtpPacket.appendExtension
    simp only [Option.bind_eq_bind]
    rw [headerSize_profileOf, if_neg (by rw [built.size]; omega), ← Option.bind_assoc, written,
      Option.bind_some]
  have position : (UInt16.ofNat (16 + 4 * csrcs.length + p.extensionsSize +
      headerSize twoByte)).toNat = 16 + 4 * csrcs.length +
        (extensionBlock twoByte extensions).length + headerSize twoByte := by
    rw [UInt16.toNat_ofNat', built.size]
    omega
  have size : listed.extensionsSize =
      (extensionBlock twoByte extensions).length + headerSize twoByte + length := by
    rw [← built.size]
    rfl
  have kept : header.capacity = p.capacity := by
    rw [withHeader_capacity]
    simp only [List.length_append, length_csrcs, length_halfWordBytes, width,
      length_extensionHeader]
    omega
  rw [whole, position]
  split
  · rename_i padded
    unfold wordsOf at padded
    obtain ⟨value, tail, rfl, same⟩ := @exists_split _ tail length (by omega)
    rw [List.length_append] at capacity
    obtain ⟨old, rest, rfl, room⟩ := @exists_split _ tail
      (4 * wordsOf ((extensionBlock twoByte extensions).length + headerSize twoByte + length) -
        ((extensionBlock twoByte extensions).length + headerSize twoByte + length))
      (by unfold wordsOf; omega)
    have block : extensionBlock twoByte (extensions ++ [(id, value)]) =
        extensionBlock twoByte extensions ++
          (extensionHeader (profileOf twoByte) id length ++ value) := by
      rw [extensionBlock_concat, same]
    have total : (extensionBlock twoByte (extensions ++ [(id, value)])).length =
        (extensionBlock twoByte extensions).length + headerSize twoByte + length := by
      rw [length_extensionBlock_concat, same]
    have sized := @setExtensionLength_eq listed rest
      (fixedHeader p (firstByte true false csrcs.length) ++ (csrcs.flatMap wordBytes ++
        halfWordBytes (UInt16.ofNat (profileOf twoByte)))) words
      (extensionBlock twoByte (extensions ++ [(id, value)])) old (16 + 4 * csrcs.length)
      (by
        rw [block]
        change header.buffer = _
        simp only [header, withHeader, List.append_assoc])
      (by simp only [List.length_append, length_fixedHeader, length_csrcs,
        length_halfWordBytes]; omega)
      width (size.trans total.symm) (by omega) (by rw [room, total])
    rw [sized, Option.bind_some]
    refine ⟨_, value, rest, same, rfl, ⟨?_, ?_, size.trans total.symm, ?_, built.noPayload,
      built.noPadding, built.few, built.typed⟩, ?_, rfl⟩
    · have filled : extensions ++ [(id, value)] ≠ [] :=
        List.append_ne_nil_of_right_ne_nil _ (List.cons_ne_nil _ _)
      have flag : (!(extensions ++ [(id, value)]).isEmpty) = true := by simp
      rw [flag]
      unfold extensionArea
      rw [if_neg filled]
      simp only [List.append_assoc]
      rfl
    · rw [entriesFrom_concat, same, ← built.entries, ← built.size]
      rfl
    · rw [length_extensionArea (by simp)]
      change 16 + 4 * csrcs.length + _ = _
      omega
    · rw [← kept]
      unfold RtpPacket.capacity
      simp only [header, withHeader, List.length_append, total, length_extensionHeader,
        length_halfWordBytes, List.length_replicate, width, room, same]
      omega
  · rename_i beyond
    rw [setExtensionLength_eq_none, Option.bind_none]
    · rw [size]
      exact kept.trans_lt (not_le.mp beyond)
    · rw [size]
      omega

end Extensions

section Overwriting

variable {before others : List (UInt8 × List UInt8)} {id : UInt8} {old value : List UInt8}

/-- The buffer, split at one value: all values of a length have the same place. -/
theorem exists_split_middle (p : RtpPacket) (csrcs : List UInt32) (twoByte : Bool)
    (before others : List (UInt8 × List UInt8)) (id first : UInt8) (size : Nat)
    (tail : List UInt8) :
    ∃ earlier later,
      16 + 4 * csrcs.length + (extensionBlock twoByte before).length + headerSize twoByte =
        earlier.length ∧
      ∀ value : List UInt8, value.length = size →
        fixedHeader p first ++ (csrcs.flatMap wordBytes ++
          (extensionArea twoByte (before ++ (id, value) :: others) ++ tail)) =
            earlier ++ (value ++ later) := by
  let total := (extensionBlock twoByte (before ++ (id, List.replicate size 0) :: others)).length
  refine ⟨fixedHeader p first ++ (csrcs.flatMap wordBytes ++
    (halfWordBytes (UInt16.ofNat (profileOf twoByte)) ++ (halfWordBytes (UInt16.ofNat
      (wordsOf total)) ++ (extensionBlock twoByte before ++
        extensionHeader (profileOf twoByte) id size)))),
    extensionBlock twoByte others ++ (List.replicate (4 * wordsOf total - total) 0 ++ tail),
    ?_, ?_⟩
  · simp only [List.length_append, length_fixedHeader, length_csrcs, length_halfWordBytes,
      length_extensionHeader]
    omega
  · rintro value rfl
    have sized : (extensionBlock twoByte (before ++ (id, value) :: others)).length = total :=
      length_extensionBlock_of_shape (shapeOf_replace List.length_replicate.symm)
    rw [extensionArea_middle sized]
    simp only [List.append_assoc]

/-- The value is written over the old one. -/
theorem write_middle {first : UInt8} {tail : List UInt8}
    (shape : p.buffer = fixedHeader p first ++ (csrcs.flatMap wordBytes ++
      (extensionArea twoByte (before ++ (id, old) :: others) ++ tail)))
    (same : old.length = value.length) :
    p.write (16 + 4 * csrcs.length + (extensionBlock twoByte before).length + headerSize twoByte)
        value =
      some (p.withHeader first (csrcs.flatMap wordBytes ++
        (extensionArea twoByte (before ++ (id, value) :: others) ++ tail))) := by
  obtain ⟨earlier, later, position, split⟩ :=
    exists_split_middle p csrcs twoByte before others id first value.length tail
  rw [write_eq_some (shape.trans (split old same)) position same, withHeader, split value rfl]

theorem Built.overwrite (built : Built p csrcs twoByte (before ++ (id, old) :: others) rest)
    (same : old.length = value.length) :
    ∃ p', p.write (16 + 4 * csrcs.length + (extensionBlock twoByte before).length +
        headerSize twoByte) value = some p' ∧
      Built p' csrcs twoByte (before ++ (id, value) :: others) rest ∧ p'.capacity = p.capacity ∧
      p'.settings = p.settings := by
  have shape := @shapeOf_replace before others id old value same
  have written := write_middle built.buffer same
  refine ⟨_, written, ⟨?_, ?_, ?_, ?_, built.noPayload, built.noPadding, built.few, built.typed⟩,
    (write_frame written).2, rfl⟩
  · rw [← isEmpty_of_shape shape]
    rfl
  · rw [← entriesFrom_of_shape shape]
    exact built.entries
  · rw [← length_extensionBlock_of_shape shape]
    exact built.size
  · rw [← length_extensionArea_of_shape shape]
    exact built.offset

end Overwriting

section Promotion

/-- A round of the promotion: the last extension moves by the number of extensions. -/
theorem promoteEntries_cons {start : Nat} {before gap tail : List UInt8}
    {extension : UInt8 × List UInt8}
    {earlier : List ExtensionInfo} {moved : List ExtensionInfo} {memory : List UInt8}
    (position : before.length + 1 = start) (small : start + extensions.length + 1 < 65536)
    (short : extension.2.length < 256) (room : gap.length = extensions.length + 1)
    (others : ∀ gap' : List UInt8, gap'.length = extensions.length →
      promoteEntries earlier extensions.length
        (before ++ (gap' ++ (extensionHeader (profileOf true) extension.1 extension.2.length ++
          (extension.2 ++ tail)))) = some (moved, memory)) :
    promoteEntries
      ({ id := extension.1
         length := UInt8.ofNat extension.2.length
         offset := UInt16.ofNat start } :: earlier) (extensions.length + 1)
      (before ++ (extensionHeader (profileOf false) extension.1 extension.2.length ++
        (extension.2 ++ (gap ++ tail)))) =
      some ({ id := extension.1
              length := UInt8.ofNat extension.2.length
              offset := UInt16.ofNat (start + (extensions.length + 1)) } :: moved, memory) := by
  have read : (UInt16.ofNat start).toNat = start := by
    rw [UInt16.toNat_ofNat']
    omega
  have count : (UInt8.ofNat extension.2.length).toNat = extension.2.length := by
    rw [UInt8.toNat_ofNat']
    omega
  have value : ((before ++ (extensionHeader (profileOf false) extension.1 extension.2.length ++
      (extension.2 ++ (gap ++ tail)))).drop start).take extension.2.length = extension.2 := by
    rw [← List.append_assoc]
    exact take_drop_append (by rw [List.length_append, length_extensionHeader, ← position]; rfl)
  -- The bytes before the new place of the value.
  obtain ⟨middle, old, split, two⟩ := @exists_split _
    (extensionHeader (profileOf false) extension.1 extension.2.length ++ (extension.2 ++ gap))
    (extensions.length + 2)
    (by
      simp only [List.length_append, length_extensionHeader, room]
      change _ ≤ 1 + _
      omega)
  have size : old.length = extension.2.length := by
    have total := congrArg List.length split
    simp only [List.length_append, length_extensionHeader, room, two] at total
    change 1 + _ = _ at total
    omega
  obtain ⟨gap', header, rfl, width⟩ := @exists_split _ middle extensions.length (by omega)
  rw [List.length_append, width] at two
  obtain ⟨first, second, rfl⟩ := List.length_eq_two.mp (show header.length = 2 by omega)
  have shape : before ++ (extensionHeader (profileOf false) extension.1 extension.2.length ++
      (extension.2 ++ (gap ++ tail))) = (before ++ (gap' ++ [first, second])) ++ (old ++ tail) := by
    have whole := congrArg (fun middle => before ++ (middle ++ tail)) split
    simpa only [List.append_assoc] using whole
  have moveValue := @writeAt_eq_some _ _ _ _ extension.2 _ (start + (extensions.length + 1)) shape
    (by simp only [List.length_append, width, List.length_cons, List.length_nil]; omega) size
  have moveLength := @writeAt_eq_some _
    ((before ++ (gap' ++ [first, second])) ++ (extension.2 ++ tail)) (before ++ (gap' ++ [first])) [second]
    [UInt8.ofNat extension.2.length] (extension.2 ++ tail) (start + (extensions.length + 1) - 1)
    (by simp only [List.append_assoc, List.cons_append, List.nil_append])
    (by simp only [List.length_append, width, List.length_cons, List.length_nil]; omega) rfl
  have moveId := @writeAt_eq_some _
    ((before ++ (gap' ++ [first])) ++ ([UInt8.ofNat extension.2.length] ++ (extension.2 ++ tail)))
    (before ++ gap') [first] [extension.1]
    ([UInt8.ofNat extension.2.length] ++ (extension.2 ++ tail))
    (start + (extensions.length + 1) - 2)
    (by simp only [List.append_assoc, List.cons_append, List.nil_append])
    (by simp only [List.length_append, width]; omega) rfl
  rw [promoteEntries]
  simp only [Option.bind_eq_bind]
  rw [read, count, value, moveValue, Option.bind_some, moveLength, Option.bind_some, moveId,
    Option.bind_some, List.append_assoc]
  rw [Nat.add_sub_cancel]
  exact congrArg (Option.bind · _) (others gap' width)

/-- The promotion moves all extensions into the bytes after them. -/
theorem promoteEntries_eq {start : Nat} {before gap tail : List UInt8}
    (position : before.length = start)
    (small : start + (extensionBlock true extensions).length < 65536)
    (short : ∀ extension ∈ extensions, extension.2.length < 256)
    (room : gap.length = extensions.length) :
    promoteEntries (entriesFrom false start extensions).reverse extensions.length
        (before ++ (extensionBlock false extensions ++ (gap ++ tail))) =
      some ((entriesFrom true start extensions).reverse,
        before ++ (extensionBlock true extensions ++ tail)) := by
  -- From the last extension to the first, as the loop goes.
  induction extensions using List.reverseRecOn generalizing gap tail with
  | nil =>
      obtain rfl := List.length_eq_zero_iff.mp room
      rfl
  | append_singleton extensions extension ih =>
      rw [length_extensionBlock_concat] at small
      have grown := length_extensionBlock_true extensions
      have wide : headerSize true = 2 := rfl
      have narrow : headerSize false = 1 := rfl
      have moved := @promoteEntries_cons extensions
        (start + (extensionBlock false extensions).length + 1)
        (before ++ extensionBlock false extensions) gap tail extension
        (entriesFrom false start extensions).reverse (entriesFrom true start extensions).reverse
        (before ++ (extensionBlock true extensions ++
          (extensionHeader (profileOf true) extension.1 extension.2.length ++
            (extension.2 ++ tail))))
        (by rw [List.length_append]; omega) (by omega)
        (short _ (List.mem_append_right _ (List.mem_singleton_self _)))
        (by rw [room, List.length_append]; rfl)
        (fun gap' width => by
          rw [List.append_assoc]
          exact ih (by omega) (fun other member => short _ (List.mem_append_left _ member)) width)
      rw [entriesFrom_concat, entriesFrom_concat, List.reverse_append, List.reverse_append,
        extensionBlock_concat, extensionBlock_concat, List.length_append, List.length_singleton]
      simp only [List.reverse_singleton, List.singleton_append, List.append_assoc] at moved ⊢
      have same : start + (extensionBlock false extensions).length + 1 + (extensions.length + 1) =
          start + (extensionBlock true extensions).length + headerSize true := by omega
      rw [same] at moved
      exact moved

/-- The extensions so far get headers of two bytes. The check before has left room for the
zeros after them. -/
theorem Built.promote (built : Built p csrcs false extensions rest) (filled : extensions ≠ [])
    (limited : p.capacity ≤ 65535) (short : ∀ extension ∈ extensions, extension.2.length < 256)
    (room : 16 + 4 * csrcs.length + 4 * wordsOf (extensionBlock true extensions).length ≤
      p.capacity) :
    ∃ p' rest', p.promoteToTwoByteHeaderExtension (16 + 4 * csrcs.length) = some p' ∧
      Built p' csrcs true extensions rest' ∧ p'.capacity = p.capacity ∧
      p'.settings = p.settings := by
  unfold wordsOf at room
  have flag : (!extensions.isEmpty) = true := by simp [filled]
  have grown := length_extensionBlock_true extensions
  obtain ⟨words, tail, width, opened, capacity⟩ := built.openExtensions (by omega)
  obtain ⟨gap, tail, rfl, gapLength⟩ := @exists_split _ tail extensions.length (by omega)
  rw [List.length_append, gapLength] at capacity
  obtain ⟨old, rest', rfl, oldLength⟩ := @exists_split _ tail
    (4 * wordsOf (extensionBlock true extensions).length - (extensionBlock true extensions).length)
    (by unfold wordsOf; omega)
  rw [List.length_append, oldLength] at capacity
  have nonempty := @extensionBlock_ne_nil false _ filled
  have shape : p.buffer = (fixedHeader p (firstByte true false csrcs.length) ++
      (csrcs.flatMap wordBytes ++ (halfWordBytes (UInt16.ofNat (profileOf false)) ++ words))) ++
        (extensionBlock false extensions ++ (gap ++ (old ++ rest'))) := by
    unfold RtpPacket.openExtensions at opened
    rw [if_neg (by rw [built.size]; omega)] at opened
    have buffers := congrArg RtpPacket.buffer (Option.some.inj opened)
    rw [buffers]
    simp only [withHeader, List.append_assoc]
  have start : (fixedHeader p (firstByte true false csrcs.length) ++ (csrcs.flatMap wordBytes ++
      (halfWordBytes (UInt16.ofNat (profileOf false)) ++ words))).length =
        16 + 4 * csrcs.length := by
    simp only [List.length_append, length_fixedHeader, length_csrcs, length_halfWordBytes, width]
    omega
  have moved := @promoteEntries_eq extensions _ _ gap (old ++ rest') start (by omega) short gapLength
  let listed : RtpPacket :=
    { p with
      extensionEntries := entriesFrom true (16 + 4 * csrcs.length) extensions
      buffer := (fixedHeader p (firstByte true false csrcs.length) ++ (csrcs.flatMap wordBytes ++
        (halfWordBytes (UInt16.ofNat (profileOf false)) ++ words))) ++
          (extensionBlock true extensions ++ (old ++ rest')) }
  have profile := @write_eq_some listed
    (fixedHeader p (firstByte true false csrcs.length) ++ csrcs.flatMap wordBytes)
    (halfWordBytes (UInt16.ofNat (profileOf false)))
    (halfWordBytes (UInt16.ofNat kTwoByteExtensionProfileId))
    (words ++ (extensionBlock true extensions ++ (old ++ rest'))) (16 + 4 * csrcs.length - 4)
    (by simp only [listed, List.append_assoc])
    (by rw [List.length_append, length_fixedHeader, length_csrcs]; omega) (by simp)
  let wide : RtpPacket :=
    { listed with
      extensionsSize := listed.extensionsSize + listed.extensionEntries.length
      buffer := (fixedHeader p (firstByte true false csrcs.length) ++ csrcs.flatMap wordBytes) ++
        (halfWordBytes (UInt16.ofNat kTwoByteExtensionProfileId) ++
          (words ++ (extensionBlock true extensions ++ (old ++ rest')))) }
  have size : wide.extensionsSize = (extensionBlock true extensions).length := by
    change p.extensionsSize + (entriesFrom true _ extensions).length = _
    rw [built.size, length_entriesFrom, grown]
  have sized := @setExtensionLength_eq wide rest'
    (fixedHeader p (firstByte true false csrcs.length) ++ (csrcs.flatMap wordBytes ++
      halfWordBytes (UInt16.ofNat (profileOf true)))) words (extensionBlock true extensions) old
    (16 + 4 * csrcs.length) (by simp only [wide, List.append_assoc]; rfl)
    (by simp only [List.length_append, length_fixedHeader, length_csrcs,
      length_halfWordBytes]; omega)
    width size (by omega) oldLength
  have promoted : p.promoteToTwoByteHeaderExtension (16 + 4 * csrcs.length) =
      wide.setExtensionLengthMaybeAddZeroPadding (16 + 4 * csrcs.length) := by
    unfold promoteToTwoByteHeaderExtension
    simp only [Option.bind_eq_bind]
    rw [built.entries, length_entriesFrom, shape, moved, Option.bind_some]
    simp only [List.reverse_reverse]
    exact congrArg (Option.bind · _) profile
  refine ⟨_, rest', promoted.trans sized, ⟨?_, rfl, size, ?_, built.noPayload, built.noPadding,
    built.few, built.typed⟩, ?_, rfl⟩
  · rw [flag]
    unfold extensionArea
    rw [if_neg filled]
    simp only [List.append_assoc]
    rfl
  · rw [length_extensionArea filled]
    change 16 + 4 * csrcs.length + _ = _
    omega
  · unfold RtpPacket.capacity
    rw [shape]
    simp only [List.length_append, List.length_replicate, length_fixedHeader,
      length_halfWordBytes, width, gapLength, oldLength]
    omega

end Promotion

section Allocation

section

variable (built : Built p csrcs twoByte extensions rest)
include built

theorem Built.count : (byteAt p.buffer 0 &&& 0x0F).toNat = csrcs.length := by
  rw [byteAt_first built.buffer, firstByte_count built.few]

theorem Built.profile (filled : extensions ≠ []) :
    (readHalfWord p.buffer (12 + 4 * csrcs.length)).toNat = profileOf twoByte := by
  rw [built.buffer]
  unfold extensionArea
  rw [if_neg filled, ← List.append_assoc, List.append_assoc (halfWordBytes _), readHalfWord_append]
  · cases twoByte <;> rfl
  · rw [List.length_append, length_fixedHeader, length_csrcs]

theorem Built.findExtensionInfo {id : UInt8}
    (fresh : id ∉ extensions.map Prod.fst) : p.findExtensionInfo id = none := by
  unfold RtpPacket.findExtensionInfo
  rw [built.entries]
  exact find_entriesFrom_eq_none fresh _ _

end

/-- The size of the block with a further extension. -/
def sizeWith (twoByte : Bool) (extensions : List (UInt8 × List UInt8)) (length : Nat) : Nat :=
  (extensionBlock twoByte extensions).length + headerSize twoByte + length

/-- What comes of the allocation of a further extension: it is refused if its last byte is
beyond the buffer, and appended if the zeros after it are not. -/
def AllocatedAs (p : RtpPacket) (csrcs : List UInt32) (twoByte : Bool)
    (extensions : List (UInt8 × List UInt8)) (id : UInt8) (length : Nat)
    (result : Option (RtpPacket × Option Nat)) : Prop :=
  if p.capacity < 16 + 4 * csrcs.length + sizeWith twoByte extensions length then
    result = some (p, none)
  else if 16 + 4 * csrcs.length + 4 * wordsOf (sizeWith twoByte extensions length) ≤
      p.capacity then
    ∃ p' value rest', value.length = length ∧
      result = some (p', some (16 + 4 * csrcs.length + (extensionBlock twoByte extensions).length +
        headerSize twoByte)) ∧
      Built p' csrcs twoByte (extensions ++ [(id, value)]) rest' ∧ p'.capacity = p.capacity ∧
      p'.settings = p.settings
  else result = none

theorem Built.allocated_append (built : Built p csrcs twoByte extensions rest)
    (limited : p.capacity ≤ 65535) (id : UInt8) (length : Nat) :
    AllocatedAs p csrcs twoByte extensions id length
      (p.appendExtension (16 + 4 * csrcs.length) (profileOf twoByte) id length) := by
  unfold AllocatedAs
  split
  · rename_i beyond
    unfold RtpPacket.appendExtension
    dsimp only
    rw [headerSize_profileOf, built.size]
    exact if_pos beyond
  · next fits => exact built.appendExtension limited id length (not_lt.mp fits)

/-- An allocation after a promotion, which is done only if the new extension fits. There is room
for the zeros of the promotion if this extension has a byte, or if the capacity is in words. -/
theorem Built.allocated_promote (built : Built p csrcs false extensions rest)
    (filled : extensions ≠ []) (limited : p.capacity ≤ 65535)
    (short : ∀ extension ∈ extensions, extension.2.length < 256) (id : UInt8) {length : Nat}
    (positive : 0 < length ∨ p.capacity % 4 = 0) :
    AllocatedAs p csrcs true extensions id length
      (if 16 + 4 * csrcs.length + (p.extensionsSize + p.extensionEntries.length + 2 + length) >
          p.capacity then some (p, none)
      else (p.promoteToTwoByteHeaderExtension (16 + 4 * csrcs.length)).bind fun p =>
        p.appendExtension (16 + 4 * csrcs.length) kTwoByteExtensionProfileId id length) := by
  have same : p.extensionsSize + p.extensionEntries.length + 2 + length =
      sizeWith true extensions length := by
    rw [built.size, built.entries, length_entriesFrom, ← length_extensionBlock_true]
    rfl
  rw [same]
  unfold AllocatedAs
  split
  · rfl
  · rename_i fits
    have room : 16 + 4 * csrcs.length + 4 * wordsOf (extensionBlock true extensions).length ≤
        p.capacity := by
      unfold sizeWith at fits
      unfold wordsOf
      change ¬p.capacity < 16 + 4 * csrcs.length + (_ + 2 + length) at fits
      omega
    obtain ⟨p', rest', promoted, moved, capacity, settings⟩ :=
      built.promote filled limited short room
    rw [promoted, Option.bind_some]
    have allocated := moved.allocated_append (capacity.trans_le limited) id length
    unfold AllocatedAs at allocated
    rw [capacity, if_neg fits, settings] at allocated
    exact allocated

/-- The allocation of an extension with a new id. -/
theorem Built.allocated (built : Built p csrcs twoByte extensions rest)
    (opened : extensions = [] → twoByte = false) (limited : p.capacity ≤ 65535)
    (short : ∀ extension ∈ extensions, extension.2.length < 256) {id : UInt8} {length : Nat}
    (fresh : id ∉ extensions.map Prod.fst) (positive : 0 < length ∨ p.capacity % 4 = 0)
    (allowed : twoByteHeaderRequired id length = true → p.extmapAllowMixed = true) :
    AllocatedAs p csrcs (twoByte || twoByteHeaderRequired id length) extensions id length
      (p.allocateRawExtension id length) := by
  have none : ¬(0 < p.payloadSize ∨ 0 < p.paddingSize.toNat) := by
    rw [built.noPayload, built.noPadding]
    decide
  have checked : ¬(twoByteHeaderRequired id length ∧ ¬p.extmapAllowMixed) :=
    fun refused => refused.2 (allowed refused.1)
  have start : kFixedHeaderSize + csrcs.length * 4 + 4 = 16 + 4 * csrcs.length := by
    unfold kFixedHeaderSize
    omega
  have profileStart : 16 + 4 * csrcs.length - 4 = 12 + 4 * csrcs.length := by omega
  unfold allocateRawExtension
  dsimp only
  rw [built.findExtensionInfo fresh, if_neg none, if_neg checked, built.count, start, profileStart]
  by_cases filled : extensions = []
  · obtain rfl := opened filled
    subst filled
    rw [if_neg (by rw [built.size]; exact Nat.lt_irrefl 0), Bool.false_or]
    exact (built.retag _).allocated_append limited id length
  · have nonempty := @extensionBlock_ne_nil twoByte _ filled
    rw [if_pos (by rw [built.size]; exact nonempty), built.profile filled]
    cases twoByte with
    | true =>
        rw [if_neg fun narrow => absurd narrow.1 (by decide), Bool.true_or]
        exact built.allocated_append limited id length
    | false =>
        rw [Bool.false_or]
        cases required : twoByteHeaderRequired id length with
        | true =>
            rw [if_pos ⟨rfl, rfl⟩]
            exact built.allocated_promote filled limited short id positive
        | false =>
            rw [if_neg (by simp)]
            exact built.allocated_append limited id length

/-- An extension with a new id is set: it is refused, or it is there with its value, or the
zeros after it are written beyond the buffer. -/
theorem Built.setRawExtension (built : Built p csrcs twoByte extensions rest)
    (opened : extensions = [] → twoByte = false) (limited : p.capacity ≤ 65535)
    (short : ∀ extension ∈ extensions, extension.2.length < 256) {id : UInt8}
    {value : List UInt8} (fresh : id ∉ extensions.map Prod.fst)
    (positive : 0 < value.length ∨ p.capacity % 4 = 0)
    (allowed : twoByteHeaderRequired id value.length = true → p.extmapAllowMixed = true)
    {wide : Bool} (needed : (twoByte || twoByteHeaderRequired id value.length) = wide) :
    if p.capacity < 16 + 4 * csrcs.length + sizeWith wide extensions value.length then
      p.setRawExtension id value = some p
    else if 16 + 4 * csrcs.length + 4 * wordsOf (sizeWith wide extensions value.length) ≤
        p.capacity then
      ∃ p' rest', p.setRawExtension id value = some p' ∧
        Built p' csrcs wide (extensions ++ [(id, value)]) rest' ∧ p'.capacity = p.capacity ∧
        p'.settings = p.settings
    else p.setRawExtension id value = none := by
  have allocated := built.allocated opened limited short fresh positive allowed
  rw [needed] at allocated
  unfold AllocatedAs at allocated
  unfold RtpPacket.setRawExtension
  rw [Option.bind_eq_bind]
  split at allocated
  · next beyond => rw [if_pos beyond, allocated, Option.bind_some]
  · rename_i fits
    rw [if_neg fits]
    split at allocated
    · rename_i padded
      obtain ⟨p', old, rest', same, placed, listed, capacity, settings⟩ := allocated
      obtain ⟨p'', written, valued, kept, again⟩ := listed.overwrite same
      rw [if_pos padded, placed, Option.bind_some]
      exact ⟨p'', rest', written, valued, kept.trans capacity, again.trans settings⟩
    · next beyond => rw [if_neg beyond, allocated, Option.bind_none]

end Allocation

section Ending

/-- The payload is written after the headers. -/
theorem Built.setPayload (built : Built p csrcs twoByte extensions rest) {payload : List UInt8}
    (fits : p.payloadOffset + payload.length ≤ p.capacity) :
    ∃ rest', p.setPayload payload = some ({ p with payloadSize := payload.length }.withHeader
        (firstByte (!extensions.isEmpty) false csrcs.length) (csrcs.flatMap wordBytes ++
          (extensionArea twoByte extensions ++ (payload ++ rest')))) ∧
      p.payloadOffset + payload.length + rest'.length = p.capacity := by
  have capacity := built.capacity_eq
  have offset := built.offset
  obtain ⟨old, rest', rfl, same⟩ := @exists_split _ rest payload.length (by omega)
  rw [List.length_append] at capacity
  refine ⟨rest', ?_, by omega⟩
  unfold RtpPacket.setPayload
  rw [if_neg (by omega)]
  rw [@write_behind { p with payloadSize := payload.length } _
    (csrcs.flatMap wordBytes ++ extensionArea twoByte extensions) old payload rest' _
    (built.buffer.trans (by simp only [List.append_assoc]; rfl))
    (by
      rw [List.length_append, length_csrcs]
      omega) same, List.append_assoc]

/-- The padding is written after the payload. -/
theorem setPadding_eq {extended : Bool} {before : List UInt8} {count padding : Nat}
    (shape : p.buffer = fixedHeader p (firstByte extended false count) ++ (before ++ rest))
    (few : count ≤ 15) (position : p.payloadOffset + p.payloadSize = 12 + before.length)
    (small : padding ≤ 255) (fits : padding ≤ rest.length) :
    ∃ rest', p.setPadding padding =
      some ({ p with paddingSize := UInt8.ofNat padding }.withHeader
        (firstByte extended (padding != 0) count) (before ++ (paddingOf padding ++ rest'))) := by
  have capacity : p.capacity = 12 + before.length + rest.length := by
    rw [capacity, shape, List.length_append, List.length_append, length_fixedHeader]
    omega
  have size : (UInt8.ofNat padding).toNat = padding := by
    rw [UInt8.toNat_ofNat']
    omega
  unfold RtpPacket.setPadding
  rw [if_neg (by omega)]
  dsimp only
  rw [size]
  by_cases empty : padding = 0
  · subst empty
    refine ⟨rest, ?_⟩
    rw [if_neg (Nat.lt_irrefl 0), byteAt_first shape, firstByte_clearPadded few]
    exact write_first (p := { p with paddingSize := UInt8.ofNat 0 }) shape _
  · obtain ⟨old, rest', rfl, length⟩ := exists_split fits
    obtain ⟨zeros, last, rfl, most⟩ := @exists_split _ old (padding - 1) (by omega)
    rw [List.length_append] at length
    refine ⟨rest', ?_⟩
    rw [if_pos (by omega)]
    simp only [Option.bind_eq_bind]
    let padded := { p with paddingSize := UInt8.ofNat padding }
    have cleared : padded.write (p.payloadOffset + p.payloadSize)
        (List.replicate (padding - 1) 0) = some (padded.withHeader (firstByte extended false count)
          (before ++ (List.replicate (padding - 1) 0 ++ (last ++ rest')))) :=
      write_behind (shape.trans (by rw [List.append_assoc]; rfl)) position
        (by rw [most, List.length_replicate])
    have sized : (padded.withHeader (firstByte extended false count)
        (before ++ (List.replicate (padding - 1) 0 ++ (last ++ rest')))).write
          (p.payloadOffset + p.payloadSize + padding - 1) [UInt8.ofNat padding] =
        some (padded.withHeader (firstByte extended false count)
          ((before ++ List.replicate (padding - 1) 0) ++ ([UInt8.ofNat padding] ++ rest'))) :=
      write_behind (by rw [List.append_assoc]; rfl)
        (by rw [List.length_append, List.length_replicate]; omega)
        (by rw [List.length_singleton]; omega)
    have flag : (padding != 0) = true := bne_iff_ne.mpr empty
    have whole : (before ++ List.replicate (padding - 1) 0) ++ ([UInt8.ofNat padding] ++ rest') =
        before ++ (paddingOf padding ++ rest') := by
      unfold paddingOf
      rw [if_neg empty]
      simp only [List.append_assoc]
    rw [flag]
    refine (congrArg (Option.bind · _) cleared).trans ?_
    rw [Option.bind_some]
    refine (congrArg (Option.bind · _) sized).trans ?_
    rw [Option.bind_some, whole, byteAt_first rfl, firstByte_setPadded few]
    exact write_first rfl _

/-- A packet with all its parts. -/
structure Finished (p : RtpPacket) (csrcs : List UInt32) (twoByte : Bool)
    (extensions : List (UInt8 × List UInt8)) (payload : List UInt8) (padding : Nat)
    (rest : List UInt8) : Prop where
  buffer : p.buffer = wire p csrcs twoByte extensions payload padding ++ rest
  entries : p.extensionEntries = entriesFrom twoByte (16 + 4 * csrcs.length) extensions
  offset : p.payloadOffset = 12 + 4 * csrcs.length + (extensionArea twoByte extensions).length
  payloadSize : p.payloadSize = payload.length
  paddingSize : p.paddingSize = UInt8.ofNat padding

/-- The payload and the padding end the packet. -/
theorem Built.finish (built : Built p csrcs twoByte extensions rest) {payload : List UInt8}
    {padding : Nat} (small : padding ≤ 255)
    (fits : p.payloadOffset + payload.length + padding ≤ p.capacity) :
    ∃ p' rest', ((p.setPayload payload).bind fun p => p.setPadding padding) = some p' ∧
      Finished p' csrcs twoByte extensions payload padding rest' ∧
      p' = { p with
        payloadSize := p'.payloadSize
        paddingSize := p'.paddingSize
        buffer := p'.buffer } := by
  have room : p.payloadOffset + payload.length ≤ p.capacity := by omega
  obtain ⟨rest', loaded, capacity⟩ := built.setPayload room
  let full := { p with payloadSize := payload.length }.withHeader
    (firstByte (!extensions.isEmpty) false csrcs.length) (csrcs.flatMap wordBytes ++
      (extensionArea twoByte extensions ++ (payload ++ rest')))
  have offset := built.offset
  obtain ⟨rest'', padded⟩ := @setPadding_eq full rest' (!extensions.isEmpty)
    (csrcs.flatMap wordBytes ++ (extensionArea twoByte extensions ++ payload)) csrcs.length padding
    (by simp only [full, withHeader, List.append_assoc]; rfl) built.few
    (by
      change p.payloadOffset + payload.length = _
      simp only [List.length_append, length_csrcs]
      omega) small (by omega)
  rw [loaded, Option.bind_some]
  refine ⟨_, rest'', padded, ⟨?_, built.entries, built.offset, rfl, rfl⟩, rfl⟩
  simp only [withHeader, wire, List.append_assoc]
  rfl

end Ending

end RtpPacket

end MpWebRtc
