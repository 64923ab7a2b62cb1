import MpWebRtc.Math.Wire

/-!
# The common header of RTCP packets

Every RTCP packet starts with version, padding flag, a count or format, the packet type
and the length in words. Here the header is widened by four bytes for the path the
packet is about, so that it is eight bytes long. Packets of one datagram follow each
other without separator; the length says where the next one starts.
-/

namespace MpWebRtc

open Math.Wire

/-- `RtcpPacket::kHeaderLength` and `CommonHeader::kHeaderSizeBytes`. -/
def kHeaderLength : Nat := 8

/-- `RtcpPacket::CreateHeader`, with the length in words. -/
def createHeader (countOrFormat packetType length : Nat) (padding : Bool) (pathid : Int32) :
    List UInt8 :=
  [UInt8.ofNat (2 <<< 6 ||| (if padding then 1 <<< 5 else 0) ||| countOrFormat),
    UInt8.ofNat packetType, UInt8.ofNat (length >>> 8 &&& 0xff), UInt8.ofNat (length &&& 0xff)] ++
    writeBigEndian 4 pathid.toUInt32.toNat

/-- `CommonHeader`, with the payload it points to and what follows the packet. -/
structure CommonHeader where
  type : Nat
  fmt : Nat
  paddingSize : Nat
  payload : List UInt8
  pathid : Int32
  nextPacket : List UInt8
  deriving DecidableEq

/-- `CommonHeader::Parse`. -/
def CommonHeader.parse (buffer : List UInt8) : Option CommonHeader :=
  if buffer.length < kHeaderLength then none
  else
    let first := (buffer.getD 0 0).toNat
    if first >>> 6 ≠ 2 then none
    else
      let payloadSize := readBigEndian ((buffer.drop 2).take 2) * 4
      let header : CommonHeader :=
        { type := (buffer.getD 1 0).toNat
          fmt := first &&& 0x1f
          paddingSize := 0
          payload := (buffer.drop kHeaderLength).take payloadSize
          pathid := (UInt32.ofNat (readBigEndian ((buffer.drop 4).take 4))).toInt32
          nextPacket := (buffer.drop kHeaderLength).drop payloadSize }
      if buffer.length < kHeaderLength + payloadSize then none
      else if first &&& 0x20 = 0 then some header
      else if payloadSize = 0 then none
      else
        let paddingSize := (header.payload.getD (payloadSize - 1) 0).toNat
        if paddingSize = 0 then none
        else if payloadSize < paddingSize then none
        else
          some { header with
            paddingSize := paddingSize
            payload := header.payload.take (payloadSize - paddingSize) }

section CreateParse

variable {countOrFormat packetType words : Nat} {padding : Bool} {pathid : Int32}

@[simp]
theorem length_createHeader :
    (createHeader countOrFormat packetType words padding pathid).length = kHeaderLength := by
  simp [createHeader, kHeaderLength]

theorem firstByte (padding : Bool) (fits : countOrFormat < 32) :
    (UInt8.ofNat (2 <<< 6 ||| (if padding then 1 <<< 5 else 0) ||| countOrFormat)).toNat >>> 6 = 2 ∧
      (UInt8.ofNat (2 <<< 6 ||| (if padding then 1 <<< 5 else 0) ||| countOrFormat)).toNat &&& 0x1f =
        countOrFormat ∧
      ((UInt8.ofNat (2 <<< 6 ||| (if padding then 1 <<< 5 else 0) ||| countOrFormat)).toNat &&& 0x20 =
        0 ↔ padding = false) := by
  revert countOrFormat
  cases padding <;> decide

theorem length_read (fits : words < 65536) :
    readBigEndian [UInt8.ofNat (words >>> 8 &&& 0xff), UInt8.ofNat (words &&& 0xff)] = words := by
  have high : words >>> 8 &&& 0xff = words / 256 % 256 := by
    rw [Nat.shiftRight_eq_div_pow]
    exact Nat.and_two_pow_sub_one_eq_mod _ 8
  have low : words &&& 0xff = words % 256 := Nat.and_two_pow_sub_one_eq_mod _ 8
  rw [high, low]
  simp only [readBigEndian, List.foldl_cons, List.foldl_nil, UInt8.toNat_ofNat']
  omega

/-- The path id survives the conversion to unsigned and back. -/
theorem pathid_read (pathid : Int32) :
    (UInt32.ofNat (readBigEndian (writeBigEndian 4 pathid.toUInt32.toNat))).toInt32 = pathid := by
  have bound := pathid.toUInt32.toNat_lt
  rw [readBigEndian_writeBigEndian, Nat.mod_eq_of_lt (by omega), UInt32.ofNat_toNat]
  simp

variable (formatFits : countOrFormat < 32)
include formatFits

variable (typeFits : packetType < 256)
include typeFits

variable (lengthFits : words < 65536)
include lengthFits

/-- What parsing makes of a written header in front of enough bytes. -/
theorem parse_createHeader_append {after : List UInt8} (room : words * 4 ≤ after.length) :
    CommonHeader.parse (createHeader countOrFormat packetType words padding pathid ++ after) =
      if padding = false then
        some ⟨packetType, countOrFormat, 0, after.take (words * 4), pathid, after.drop (words * 4)⟩
      else if words * 4 = 0 then none
      else if ((after.take (words * 4)).getD (words * 4 - 1) 0).toNat = 0 then none
      else if words * 4 < ((after.take (words * 4)).getD (words * 4 - 1) 0).toNat then none
      else
        some ⟨packetType, countOrFormat, ((after.take (words * 4)).getD (words * 4 - 1) 0).toNat,
          (after.take (words * 4)).take
            (words * 4 - ((after.take (words * 4)).getD (words * 4 - 1) 0).toNat),
          pathid, after.drop (words * 4)⟩ := by
  obtain ⟨version, format, padded⟩ := firstByte padding formatFits
  have size : readBigEndian (((createHeader countOrFormat packetType words padding pathid ++
      after).drop 2).take 2) = words := length_read lengthFits
  have path : (UInt32.ofNat (readBigEndian (((createHeader countOrFormat packetType words padding
      pathid ++ after).drop 4).take 4))).toInt32 = pathid := pathid_read pathid
  have behind : (createHeader countOrFormat packetType words padding pathid ++ after).drop
      kHeaderLength = after := rfl
  have first : ((createHeader countOrFormat packetType words padding pathid ++ after).getD 0 0).toNat
      = (UInt8.ofNat (2 <<< 6 ||| (if padding then 1 <<< 5 else 0) ||| countOrFormat)).toNat := rfl
  have second : ((createHeader countOrFormat packetType words padding pathid ++
      after).getD 1 0).toNat = packetType := by
    change (UInt8.ofNat packetType).toNat = packetType
    rw [UInt8.toNat_ofNat', Nat.mod_eq_of_lt typeFits]
  unfold CommonHeader.parse
  rw [if_neg (by simp), size, path, behind, first, second]
  dsimp only
  rw [if_neg (not_not_intro version), if_neg (by simp; omega), format]
  simp only [padded]

/-- A packet without padding is read back as written, whatever follows it. -/
theorem parse_createHeader {body : List UInt8} (whole : body.length = words * 4)
    (rest : List UInt8) :
    CommonHeader.parse
        (createHeader countOrFormat packetType words false pathid ++ (body ++ rest)) =
      some ⟨packetType, countOrFormat, 0, body, pathid, rest⟩ := by
  have room : words * 4 ≤ (body ++ rest).length := by
    rw [List.length_append]
    omega
  rw [parse_createHeader_append formatFits typeFits lengthFits room, if_pos rfl, ← whole,
    List.take_left, List.drop_left]

/-- A padded packet is read back without its padding. -/
theorem parse_createHeader_padded {content : List UInt8} {padding : Nat} (some : 0 < padding)
    (few : padding < 256) (whole : content.length + padding = words * 4) :
    CommonHeader.parse (createHeader countOrFormat packetType words true pathid ++
        (content ++ (List.replicate (padding - 1) 0 ++ [UInt8.ofNat padding]))) =
      .some ⟨packetType, countOrFormat, padding, content, pathid, []⟩ := by
  have exact : (content ++ (List.replicate (padding - 1) 0 ++ [UInt8.ofNat padding])).length =
      words * 4 := by
    simp only [List.length_append, List.length_replicate, List.length_singleton]
    omega
  have last : ((content ++ (List.replicate (padding - 1) 0 ++ [UInt8.ofNat padding])).getD
      (words * 4 - 1) 0).toNat = padding := by
    rw [← List.append_assoc, List.getD_append_right _ _ _ _ (by simp; omega)]
    have place : words * 4 - 1 - (content ++ List.replicate (padding - 1) (0 : UInt8)).length = 0 := by
      simp only [List.length_append, List.length_replicate]
      omega
    rw [place, List.getD_cons_zero, UInt8.toNat_ofNat', Nat.mod_eq_of_lt few]
  rw [parse_createHeader_append formatFits typeFits lengthFits exact.ge, List.take_of_length_le exact.le,
    List.drop_of_length_le exact.le, last, if_neg (by decide), if_neg (by omega), if_neg (by omega),
    if_neg (by omega), show words * 4 - padding = content.length by omega, List.take_left]

end CreateParse

end MpWebRtc
