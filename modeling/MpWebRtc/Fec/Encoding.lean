import MpWebRtc.Fec.UlpfecHeaders
import MpWebRtc.Math.Memory
import MpWebRtc.Math.Serial
import MpWebRtc.Rtcp.Packets

/-!
# Encoding FEC packets

`ForwardErrorCorrection::EncodeFec` xors media packets into FEC packets, as a mask with one row for
each FEC packet tells. A FEC packet grows with the packets that are xored into it, and the first of
them is copied. What it holds in the end is the parity of its packets: that of the fields of their
RTP headers in front, with the length of the payload in place of the sequence number, and that of
their payloads behind its own header.
-/

namespace MpWebRtc

open Math Math.Wire Math.Parity Math.Memory

/-- `kRtpHeaderSize`. -/
def kRtpHeaderSize : Nat := 12

variable (packet : List UInt8)

/-- `ParseSequenceNumber`. -/
def parseSequenceNumber : UInt16 :=
  UInt16.ofNat (readBigEndian ((packet.drop 2).take 2))

/-- `ParseSsrc`. -/
def parseSsrc : UInt32 :=
  UInt32.ofNat (readBigEndian ((packet.drop 8).take 4))

/-- The fields of a media packet that are xored: P, X, CC, M and PT, the length of what is behind
the RTP header, and the timestamp. -/
def recoveryFields : List UInt8 :=
  packet.take 2 ++ (writeBigEndian 2 (packet.length - kRtpHeaderSize) ++ (packet.drop 4).take 4)

/-- What is behind the RTP header. -/
def mediaPayload : List UInt8 := packet.drop kRtpHeaderSize

/-- `XorHeaders`. -/
def xorHeaders (src dst : List UInt8) : List UInt8 := xorAt 0 (recoveryFields src) dst

/-- `XorPayloads`, of a whole payload into a packet that is long enough. -/
def xorPayloads (src : List UInt8) (dstOffset : Nat) (dst : List UInt8) : List UInt8 :=
  xorAt dstOffset (mediaPayload src) dst

/-- What `GenerateFecPayloads` does for a protected media packet; none where it is too long for the
zeros that the FEC packet begins with. -/
def protectMedia (fecHeaderSize : Nat) (media data : List UInt8) : Option (List UInt8) :=
  let mediaPayloadLength := media.length - kRtpHeaderSize
  let firstProtectedPacket := data.length = 0
  let fecPacketLength := fecHeaderSize + mediaPayloadLength
  if kIpPacketSize < fecPacketLength then none
  else
    let grown := data ++ List.replicate (fecPacketLength - data.length) 0
    if firstProtectedPacket then
      some (patched fecHeaderSize (mediaPayload media) (patched 0 (recoveryFields media) grown))
    else some (xorPayloads media fecHeaderSize (xorHeaders media grown))

/-- The loop of `GenerateFecPayloads` over the media packets, for one FEC packet and its row of the
mask; none also where the row has no such byte. -/
def generateFecPayload (packetMask : List UInt8) (fecHeaderSize : Nat) :
    (pktMaskIdx mediaPktIdx : Nat) → (mediaPackets : List (List UInt8)) → (data : List UInt8) →
    Option (List UInt8)
  | _, _, [], data => some data
  | pktMaskIdx, mediaPktIdx, media :: rest, data =>
      match packetMask[pktMaskIdx]? with
      | none => none
      | some byte =>
          let protects := byte.toNat &&& (1 <<< (7 - mediaPktIdx)) ≠ 0
          match if protects then protectMedia fecHeaderSize media data else some data with
          | none => none
          | some data =>
              match rest with
              | [] => some data
              | next :: _ =>
                  let mediaPktIdx := mediaPktIdx +
                    (parseSequenceNumber next - parseSequenceNumber media).toNat
                  generateFecPayload packetMask fecHeaderSize (pktMaskIdx + mediaPktIdx / 8)
                    (mediaPktIdx % 8) rest data

section Parity

variable {fecHeaderSize : Nat} {members : List (List UInt8)} {media data : List UInt8}

/-- What a FEC packet holds of the media packets that were xored into it. -/
structure HoldsParity (fecHeaderSize : Nat) (members : List (List UInt8)) (data : List UInt8) :
    Prop where
  empty : members = [] → data = []
  length : members ≠ [] → fecHeaderSize ≤ data.length
  covers : ∀ media ∈ members, fecHeaderSize + (mediaPayload media).length ≤ data.length
  short : data.length ≤ kIpPacketSize
  fields : ∀ i < 8, padded data i = parity (members.map recoveryFields) i
  payload : ∀ i, padded data (fecHeaderSize + i) = parity (members.map mediaPayload) i

theorem HoldsParity.nil : HoldsParity fecHeaderSize [] [] where
  empty _ := rfl
  length filled := absurd rfl filled
  covers _ none := absurd none (List.not_mem_nil)
  short := Nat.zero_le _
  fields _ _ := rfl
  payload _ := rfl

theorem length_recoveryFields (whole : kRtpHeaderSize ≤ media.length) :
    (recoveryFields media).length = 8 := by
  have : kRtpHeaderSize = 12 := rfl
  simp only [recoveryFields, List.length_append, List.length_take, List.length_drop,
    length_writeBigEndian]
  omega

theorem length_mediaPayload : (mediaPayload media).length = media.length - kRtpHeaderSize :=
  List.length_drop

variable {new old : List UInt8}

/-- A string in place of another: outside of it nothing changes. -/
theorem padded_patched {skip : Nat} (inside : skip + new.length ≤ old.length) (i : Nat) :
    padded (patched skip new old) i =
      if skip ≤ i ∧ i < skip + new.length then padded new (i - skip) else padded old i := by
  have taken : (old.take skip).length = skip := by
    rw [List.length_take]
    omega
  unfold patched
  by_cases before : i < skip
  · rw [if_neg (by omega), padded_append_left (by omega), padded_take before]
  · rw [padded_append_right (by omega), taken]
    by_cases within : i < skip + new.length
    · rw [if_pos ⟨by omega, within⟩, padded_append_left (by omega)]
    · rw [if_neg (by omega), padded_append_right (by omega), padded_drop]
      congr 1
      omega

/-- Xoring into zeros is copying. -/
theorem padded_patched_zeros {skip : Nat} (inside : skip + new.length ≤ old.length)
    (zeros : ∀ i, skip ≤ i → i < skip + new.length → padded old i = 0) (i : Nat) :
    padded (patched skip new old) i =
      padded old i ^^^ (if skip ≤ i then padded new (i - skip) else 0) := by
  rw [padded_patched inside]
  by_cases behind : skip ≤ i
  · rw [if_pos behind]
    by_cases within : i < skip + new.length
    · rw [if_pos ⟨behind, within⟩, zeros i behind within, UInt8.zero_xor]
    · rw [if_neg (by omega), padded_of_le new (by omega), UInt8.xor_zero]
  · rw [if_neg (by omega), if_neg behind, UInt8.xor_zero]

/-- The bytes of a FEC packet after one more media packet. -/
theorem padded_protectMedia (data : List UInt8) (whole : kRtpHeaderSize ≤ media.length)
    (wide : 8 ≤ fecHeaderSize)
    (fits : fecHeaderSize + (mediaPayload media).length ≤ kIpPacketSize) :
    ∃ after, protectMedia fecHeaderSize media data = some after ∧
      after.length = max data.length (fecHeaderSize + (mediaPayload media).length) ∧
      ∀ i, padded after i = padded data i ^^^
        ((if 0 ≤ i then padded (recoveryFields media) (i - 0) else 0) ^^^
          (if fecHeaderSize ≤ i then padded (mediaPayload media) (i - fecHeaderSize) else 0)) := by
  have fields := length_recoveryFields whole
  unfold protectMedia
  rw [← length_mediaPayload]
  dsimp only
  rw [if_neg (Nat.not_lt.mpr fits)]
  generalize grown : data ++ List.replicate
    (fecHeaderSize + (mediaPayload media).length - data.length) 0 = buffer
  have length : buffer.length = max data.length (fecHeaderSize + (mediaPayload media).length) := by
    rw [← grown, List.length_append, List.length_replicate]
    omega
  have same : ∀ i, padded buffer i = padded data i := fun i => by
    rw [← grown]
    exact padded_append_replicate
  have room : 0 + (recoveryFields media).length ≤ buffer.length := by omega
  by_cases first : data.length = 0
  · have none := List.length_eq_zero_iff.mp first
    have zero : ∀ i, padded buffer i = 0 := fun i => by
      rw [same, none]
      rfl
    rw [if_pos first]
    refine ⟨_, rfl, ?_, fun i => ?_⟩
    · rw [length_patched, length_patched room, length]
      rw [length_patched room]
      omega
    · rw [padded_patched_zeros, padded_patched_zeros room (fun i _ _ => zero i), same,
        UInt8.xor_assoc]
      · rw [length_patched room]
        omega
      · intro i behind _
        rw [padded_patched_zeros room (fun i _ _ => zero i), if_pos (Nat.zero_le _), zero,
          padded_of_le (recoveryFields media) (by omega), UInt8.xor_zero]
  · rw [if_neg first]
    unfold xorPayloads xorHeaders
    refine ⟨_, rfl, ?_, fun i => ?_⟩
    · rw [length_xorAt, length_xorAt room, length]
      rw [length_xorAt room]
      omega
    · rw [padded_xorAt, padded_xorAt room, same, UInt8.xor_assoc]
      rw [length_xorAt room]
      omega

/-- A protected packet joins those whose parity the FEC packet holds. -/
theorem HoldsParity.protectMedia (holds : HoldsParity fecHeaderSize members data)
    (whole : kRtpHeaderSize ≤ media.length) (wide : 8 ≤ fecHeaderSize)
    (fits : fecHeaderSize + (mediaPayload media).length ≤ kIpPacketSize) :
    ∃ after, MpWebRtc.protectMedia fecHeaderSize media data = some after ∧
      HoldsParity fecHeaderSize (members ++ [media]) after := by
  obtain ⟨after, done, length, bytes⟩ := padded_protectMedia data whole wide fits
  have fields := length_recoveryFields whole
  refine ⟨after, done, ?_⟩
  constructor
  case empty => exact fun none => absurd none (List.append_ne_nil_of_right_ne_nil _ (by simp))
  case length => exact fun _ => by omega
  case covers =>
    intro other member
    rcases List.mem_append.mp member with earlier | last
    · have covered := holds.covers other earlier
      omega
    · rw [List.mem_singleton.mp last]
      omega
  case short =>
    have short := holds.short
    omega
  case fields =>
    intro i below
    rw [bytes, if_pos (Nat.zero_le _), if_neg (by omega), UInt8.xor_zero, holds.fields i below,
      List.map_append, parity_append]
    exact congrArg _ (UInt8.xor_zero).symm
  case payload =>
    intro i
    rw [bytes, if_pos (Nat.zero_le _), if_pos (Nat.le_add_right _ _),
      padded_of_le (recoveryFields media) (by omega), UInt8.zero_xor, holds.payload,
      Nat.add_sub_cancel_left, List.map_append, parity_append]
    exact congrArg _ (UInt8.xor_zero).symm

end Parity

/-- How far a packet is behind the base of the mask. -/
def maskPosition (seqNumBase : UInt16) (packet : List UInt8) : Nat :=
  (parseSequenceNumber packet - seqNumBase).toNat

/-- The media packets that a row of the mask protects. -/
def protectedBy (packetMask : List UInt8) (seqNumBase : UInt16) (mediaPackets : List (List UInt8)) :
    List (List UInt8) :=
  mediaPackets.filter fun media => bitAt packetMask (maskPosition seqNumBase media)

section Loop

variable {packetMask : List UInt8} {fecHeaderSize : Nat} {seqNumBase : UInt16}

theorem and_shiftLeft_ne_zero_iff (value place : Nat) :
    value &&& (1 <<< place) ≠ 0 ↔ value.testBit place = true := by
  rw [Nat.one_shiftLeft, Nat.and_two_pow]
  cases value.testBit place
  · simp
  · simp

/-- From one packet to the next, the place in the mask moves on with the sequence numbers. -/
theorem maskPosition_next {media next : List UInt8}
    (later : maskPosition seqNumBase media < maskPosition seqNumBase next) :
    maskPosition seqNumBase next = maskPosition seqNumBase media +
      (parseSequenceNumber next - parseSequenceNumber media).toNat := by
  unfold maskPosition at *
  have first := (parseSequenceNumber media).toNat_lt
  have second := (parseSequenceNumber next).toNat_lt
  have third := seqNumBase.toNat_lt
  rw [UInt16.toNat_sub, UInt16.toNat_sub] at *
  rw [UInt16.toNat_sub]
  omega

/-- A media packet that can be protected in this header and by this mask. -/
structure Protectable (packetMask : List UInt8) (fecHeaderSize : Nat) (seqNumBase : UInt16)
    (media : List UInt8) : Prop where
  whole : kRtpHeaderSize ≤ media.length
  fits : fecHeaderSize + (mediaPayload media).length ≤ kIpPacketSize
  near : maskPosition seqNumBase media < 8 * packetMask.length

theorem protectedBy_singleton (media : List UInt8) :
    protectedBy packetMask seqNumBase [media] =
      if bitAt packetMask (maskPosition seqNumBase media) = true then [media] else [] := by
  unfold protectedBy
  rw [List.filter_cons, List.filter_nil]

variable {members : List (List UInt8)}

/-- One round of the loop. -/
theorem exists_protected (wide : 8 ≤ fecHeaderSize)
    {media data : List UInt8} (holds : HoldsParity fecHeaderSize members data)
    (fit : Protectable packetMask fecHeaderSize seqNumBase media) :
    ∃ byte after, packetMask[maskPosition seqNumBase media / 8]? = some byte ∧
      (if byte.toNat &&& (1 <<< (7 - maskPosition seqNumBase media % 8)) ≠ 0 then
        protectMedia fecHeaderSize media data else some data) = some after ∧
      HoldsParity fecHeaderSize (members ++ protectedBy packetMask seqNumBase [media]) after := by
  obtain ⟨whole, fits, near⟩ := fit
  have inside : maskPosition seqNumBase media / 8 < packetMask.length := by omega
  have bit : bitAt packetMask (maskPosition seqNumBase media) =
      packetMask[maskPosition seqNumBase media / 8].toNat.testBit
        (7 - maskPosition seqNumBase media % 8) := by
    unfold bitAt
    rw [List.getD_eq_getElem?_getD, List.getElem?_eq_getElem inside, Option.getD_some]
  by_cases isProtected : bitAt packetMask (maskPosition seqNumBase media) = true
  · obtain ⟨after, done, holdsAfter⟩ := holds.protectMedia whole wide fits
    refine ⟨_, after, List.getElem?_eq_getElem inside, ?_, ?_⟩
    · rw [if_pos ((and_shiftLeft_ne_zero_iff _ _).mpr (bit.symm.trans isProtected)), done]
    · rwa [protectedBy_singleton, if_pos isProtected]
  · refine ⟨_, data, List.getElem?_eq_getElem inside, ?_, ?_⟩
    · rw [if_neg]
      rw [and_shiftLeft_ne_zero_iff, ← bit]
      exact isProtected
    · rwa [protectedBy_singleton, if_neg isProtected, List.append_nil]

/-- The FEC packet holds the parity of the packets that its row protects. -/
theorem generateFecPayload_holds (packetMask : List UInt8) (fecHeaderSize : Nat)
    (seqNumBase : UInt16) (media : List UInt8) (rest : List (List UInt8))
    (wide : 8 ≤ fecHeaderSize) {data : List UInt8}
    (holds : HoldsParity fecHeaderSize members data)
    (fit : ∀ packet ∈ media :: rest, Protectable packetMask fecHeaderSize seqNumBase packet)
    (ascending : (media :: rest).Pairwise fun earlier later =>
      maskPosition seqNumBase earlier < maskPosition seqNumBase later) :
    ∃ after, generateFecPayload packetMask fecHeaderSize (maskPosition seqNumBase media / 8)
        (maskPosition seqNumBase media % 8) (media :: rest) data = some after ∧
      HoldsParity fecHeaderSize
        (members ++ protectedBy packetMask seqNumBase (media :: rest)) after := by
  induction rest generalizing media members data with
  | nil =>
      obtain ⟨byte, after, found, done, holdsAfter⟩ :=
        exists_protected wide holds (fit media List.mem_cons_self)
      refine ⟨after, ?_, holdsAfter⟩
      unfold generateFecPayload
      simp only [found, done]
  | cons next rest ih =>
      obtain ⟨byte, middle, found, done, holdsMiddle⟩ :=
        exists_protected wide holds (fit media List.mem_cons_self)
      obtain ⟨behind, ascendingRest⟩ := List.pairwise_cons.mp ascending
      obtain ⟨after, doneRest, holdsAfter⟩ := ih next holdsMiddle
        (fun packet member => fit packet (List.mem_cons_of_mem _ member)) ascendingRest
      have moved := maskPosition_next (behind next List.mem_cons_self)
      refine ⟨after, ?_, ?_⟩
      · unfold generateFecPayload
        simp only [found, done]
        rw [← doneRest]
        congr 1
        · omega
        · omega
      · have split : protectedBy packetMask seqNumBase (media :: next :: rest) =
            protectedBy packetMask seqNumBase [media] ++
              protectedBy packetMask seqNumBase (next :: rest) :=
          List.filter_append [media] (next :: rest)
        rwa [split, ← List.append_assoc]

end Loop

end MpWebRtc
