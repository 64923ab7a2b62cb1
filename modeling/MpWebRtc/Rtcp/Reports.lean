import MpWebRtc.Rtcp.Packets

/-!
# Reading reports back

A report block ends with a word for the highest number over all paths. `Create` fills it with
the number on the path once more, and `Parse` takes it for the other one; the number of the
report itself is not sent. Everything else in a sender or receiver report comes back, whatever
the word is that `Create` passes over.
-/

namespace MpWebRtc

open Math.Memory Math.Wire

namespace ReportBlock

variable (block : ReportBlock)

/-- `SetCumulativeLost` takes numbers of 24 bits. -/
def CumulativeLostFits : Prop :=
  -2 ^ 23 ≤ block.cumulativeLost.toInt ∧ block.cumulativeLost.toInt < 2 ^ 23

instance (block : ReportBlock) : Decidable block.CumulativeLostFits :=
  inferInstanceAs (Decidable (_ ∧ _))

/-- What comes back of a block. -/
def received : ReportBlock :=
  { block with
    extendedHighSeqNumP := block.extendedHighSeqNum
    rtcpSeq := 0 }

/-- The words of a block behind the losses. -/
theorem create_eq_words :
    block.create = (wordBytes block.sourceSsrc ++
      block.fractionLost :: writeBigEndian 3 block.cumulativeLost.toUInt32.toNat) ++
        ([block.extendedHighSeqNum, block.jitter, block.lastSr, block.delaySinceLastSr,
          block.extendedHighSeqNum].flatMap wordBytes ++ []) := by
  simp [create]

theorem cumulativeLost_read {block : ReportBlock} (fits : block.CumulativeLostFits) :
    (parse block.create).cumulativeLost = block.cumulativeLost := by
  have bytes : (block.create.drop 5).take 3 =
      writeBigEndian 3 block.cumulativeLost.toUInt32.toNat := rfl
  change Int32.ofInt (if readBigEndian ((block.create.drop 5).take 3) < 2 ^ 23 then
    (readBigEndian ((block.create.drop 5).take 3) : Int) else
    (readBigEndian ((block.create.drop 5).take 3) : Int) - 2 ^ 24) = _
  rw [bytes, readBigEndian_writeBigEndian]
  have signed : block.cumulativeLost.toInt = if 2 * block.cumulativeLost.toUInt32.toNat < 2 ^ 32
      then (block.cumulativeLost.toUInt32.toNat : Int)
      else (block.cumulativeLost.toUInt32.toNat : Int) - (2 ^ 32 : Nat) :=
    BitVec.toInt_eq_toNat_cond _
  have small := block.cumulativeLost.toUInt32.toNat_lt
  obtain ⟨low, high⟩ := fits
  have same : (if block.cumulativeLost.toUInt32.toNat % 256 ^ 3 < 2 ^ 23 then
      ((block.cumulativeLost.toUInt32.toNat % 256 ^ 3 : Nat) : Int) else
      ((block.cumulativeLost.toUInt32.toNat % 256 ^ 3 : Nat) : Int) - 2 ^ 24) =
        block.cumulativeLost.toInt := by
    rw [signed] at low high ⊢
    split at low
    all_goals omega
  rw [same, Int32.ofInt_toInt]

/-- A block is read back but for two of its numbers. -/
theorem parse_create {block : ReportBlock} (fits : block.CumulativeLostFits) :
    parse block.create = block.received := by
  have word (i : Nat) {value : UInt32} (listed : [block.extendedHighSeqNum, block.jitter,
      block.lastSr, block.delaySinceLastSr, block.extendedHighSeqNum][i]? = some value) :
      readWord block.create (8 + 4 * i) = value := by
    rw [create_eq_words]
    exact readWord_flatMap rfl listed
  exact ReportBlock.ext (parse_create_sourceSsrc block) rfl (cumulativeLost_read fits) (word 0 rfl)
    (word 1 rfl) (word 2 rfl) (word 3 rfl) (word 4 rfl) rfl

theorem received_eq_self_iff :
    block.received = block ↔
      block.extendedHighSeqNumP = block.extendedHighSeqNum ∧ block.rtcpSeq = 0 := by
  constructor
  · intro same
    exact ⟨(congrArg extendedHighSeqNumP same).symm, (congrArg rtcpSeq same).symm⟩
  · rintro ⟨overall, number⟩
    exact ReportBlock.ext rfl rfl rfl rfl rfl rfl rfl overall.symm number.symm

/-- All blocks come back if no block loses a number. -/
theorem map_received_eq_self_iff (blocks : List ReportBlock) :
    blocks.map received = blocks ↔ ∀ block ∈ blocks,
      block.extendedHighSeqNumP = block.extendedHighSeqNum ∧ block.rtcpSeq = 0 := by
  calc
    blocks.map received = blocks ↔ blocks.map received = blocks.map id := by rw [List.map_id]
    _ ↔ ∀ block ∈ blocks, block.received = id block := List.map_inj_left
    _ ↔ _ := by simp only [id_eq, received_eq_self_iff]

/-- The blocks behind the base of a report. -/
theorem parseBlocks_received {front : List UInt8} {size : Nat} (length : front.length = size)
    {blocks : List ReportBlock} (fits : ∀ block ∈ blocks, block.CumulativeLostFits) :
    parseBlocks blocks.length ((front ++ blocks.flatMap create).drop size) =
      blocks.map received := by
  rw [parseBlocks_drop length]
  exact List.map_congr_left fun block member => parse_create (fits block member)

end ReportBlock

/-- `rtcp::SenderReport`, without the path. -/
structure SenderReport where
  senderSsrc : UInt32
  ntp : NtpTime
  rtpTimestamp : UInt32
  senderPacketCount : UInt32
  senderOctetCount : UInt32
  reportBlocks : List ReportBlock

variable (packet : CommonHeader)

/-- `SenderReport::Parse`. -/
def SenderReport.parse : Option SenderReport :=
  if packet.payload.length < kSenderBaseLength + packet.fmt * ReportBlock.kLength then none
  else
    some
      { senderSsrc := ReportBlock.readWord packet.payload 0
        ntp := ⟨ReportBlock.readWord packet.payload 4, ReportBlock.readWord packet.payload 8⟩
        rtpTimestamp := ReportBlock.readWord packet.payload 12
        senderPacketCount := ReportBlock.readWord packet.payload 16
        senderOctetCount := ReportBlock.readWord packet.payload 20
        reportBlocks :=
          ReportBlock.parseBlocks packet.fmt (packet.payload.drop kSenderBaseLength) }

/-- `rtcp::ReceiverReport`, without the path. -/
structure ReceiverReport where
  senderSsrc : UInt32
  reportBlocks : List ReportBlock

/-- `ReceiverReport::Parse`. -/
def ReceiverReport.parse : Option ReceiverReport :=
  if packet.payload.length < kRrBaseLength + packet.fmt * ReportBlock.kLength then none
  else
    some
      { senderSsrc := ReportBlock.readWord packet.payload 0
        reportBlocks := ReportBlock.parseBlocks packet.fmt (packet.payload.drop kRrBaseLength) }

section RoundTrip

variable {pathid : Int32} {senderSsrc : UInt32} {ntp : NtpTime}
variable {rtpTimestamp packetCount octetCount gap : UInt32}

theorem length_reportBlocks (blocks : List ReportBlock) :
    (blocks.flatMap ReportBlock.create).length = blocks.length * ReportBlock.kLength :=
  length_flatMap_of_forall ReportBlock.length_create blocks

/-- Seven words stand in front of the blocks of a sender report. -/
theorem length_senderBase (words : List UInt32) (seven : words.length = 7) :
    (words.flatMap wordBytes).length = kSenderBaseLength := by
  rw [length_flatMap_of_forall length_wordBytes, seven, kSenderBaseLength]

theorem parse_senderReport {packet : CommonHeader} {blocks : List ReportBlock}
    (count : packet.fmt = blocks.length)
    (payload : packet.payload = [senderSsrc, ntp.seconds, ntp.fractions, rtpTimestamp,
      packetCount, octetCount, gap].flatMap wordBytes ++ blocks.flatMap ReportBlock.create)
    (fits : ∀ block ∈ blocks, block.CumulativeLostFits) :
    SenderReport.parse packet =
      some ⟨senderSsrc, ntp, rtpTimestamp, packetCount, octetCount,
        blocks.map ReportBlock.received⟩ := by
  have base : ([senderSsrc, ntp.seconds, ntp.fractions, rtpTimestamp, packetCount, octetCount,
      gap].flatMap wordBytes).length = kSenderBaseLength := length_senderBase _ rfl
  have size : packet.payload.length =
      kSenderBaseLength + packet.fmt * ReportBlock.kLength := by
    rw [payload, List.length_append, base, length_reportBlocks, count]
  have word (i : Nat) {value : UInt32} (listed : [senderSsrc, ntp.seconds, ntp.fractions,
      rtpTimestamp, packetCount, octetCount, gap][i]? = some value) :
      ReportBlock.readWord packet.payload (0 + 4 * i) = value := by
    rw [payload]
    exact @ReportBlock.readWord_flatMap _ [] _ _ i value rfl listed
  have behind : ReportBlock.parseBlocks packet.fmt (packet.payload.drop kSenderBaseLength) =
      blocks.map ReportBlock.received := by
    rw [payload, count]
    exact ReportBlock.parseBlocks_received base fits
  unfold SenderReport.parse
  rw [if_neg size.not_lt, behind, word 0 rfl, word 1 rfl, word 2 rfl, word 3 rfl, word 4 rfl,
    word 5 rfl]

theorem parse_receiverReport {packet : CommonHeader} {blocks : List ReportBlock}
    (count : packet.fmt = blocks.length)
    (payload : packet.payload = wordBytes senderSsrc ++ blocks.flatMap ReportBlock.create)
    (fits : ∀ block ∈ blocks, block.CumulativeLostFits) :
    ReceiverReport.parse packet = some ⟨senderSsrc, blocks.map ReportBlock.received⟩ := by
  have size : packet.payload.length = kRrBaseLength + packet.fmt * ReportBlock.kLength := by
    rw [payload, List.length_append, length_wordBytes, length_reportBlocks, count, kRrBaseLength]
  have behind : ReportBlock.parseBlocks packet.fmt (packet.payload.drop kRrBaseLength) =
      blocks.map ReportBlock.received := by
    rw [payload, count]
    exact ReportBlock.parseBlocks_received (length_wordBytes senderSsrc) fits
  have source : ReportBlock.readWord packet.payload 0 = senderSsrc := by
    rw [payload]
    exact ReportBlock.readWord_wordBytes senderSsrc _
  unfold ReceiverReport.parse
  rw [if_neg size.not_lt, behind, source]

variable (pathid senderSsrc ntp rtpTimestamp packetCount octetCount gap)
variable (blocks : { blocks : List ReportBlock // blocks.length ≤ kMaxNumberOfReportBlocks })

theorem senderReport_bytes_read (fits : ∀ block ∈ blocks.val, block.CumulativeLostFits)
    (rest : List UInt8) :
    ∃ header, CommonHeader.parse ((RtcpPacket.senderReport pathid senderSsrc ntp rtpTimestamp
        packetCount octetCount gap blocks).bytes ++ rest) = some header ∧
      header.pathid = pathid ∧
      SenderReport.parse header =
        some ⟨senderSsrc, ntp, rtpTimestamp, packetCount, octetCount,
          blocks.val.map ReportBlock.received⟩ := by
  have payload : (RtcpPacket.senderReport pathid senderSsrc ntp rtpTimestamp packetCount octetCount
      gap blocks).payload = [senderSsrc, ntp.seconds, ntp.fractions, rtpTimestamp,
        packetCount, octetCount, gap].flatMap wordBytes ++
          blocks.val.flatMap ReportBlock.create := by
    simp [RtcpPacket.payload]
  have short : (RtcpPacket.senderReport pathid senderSsrc ntp rtpTimestamp packetCount octetCount
      gap blocks).blockLength ≤ 65536 := by
    have few : blocks.val.length ≤ 31 := blocks.property
    rw [RtcpPacket.blockLength, payload, List.length_append, length_senderBase _ rfl,
      length_reportBlocks]
    unfold kHeaderLength kSenderBaseLength ReportBlock.kLength
    omega
  exact ⟨_, RtcpPacket.parse_bytes _ short rest, rfl, parse_senderReport rfl payload fits⟩

theorem receiverReport_bytes_read (fits : ∀ block ∈ blocks.val, block.CumulativeLostFits)
    (rest : List UInt8) :
    ∃ header, CommonHeader.parse
        ((RtcpPacket.receiverReport pathid senderSsrc blocks).bytes ++ rest) = some header ∧
      header.pathid = pathid ∧
      ReceiverReport.parse header = some ⟨senderSsrc, blocks.val.map ReportBlock.received⟩ := by
  have short : (RtcpPacket.receiverReport pathid senderSsrc blocks).blockLength ≤ 65536 := by
    have few : blocks.val.length ≤ 31 := blocks.property
    rw [RtcpPacket.blockLength, RtcpPacket.payload, List.length_append, length_wordBytes,
      length_reportBlocks]
    unfold kHeaderLength ReportBlock.kLength
    omega
  exact ⟨_, RtcpPacket.parse_bytes _ short rest, rfl, parse_receiverReport rfl rfl fits⟩

/-- **Reading reports back.** A sender or receiver report is read back as it was exactly if no
block has another number over all paths than on its own, and none has a number of its own. -/
theorem reports_read_back_iff (fits : ∀ block ∈ blocks.val, block.CumulativeLostFits)
    (rest : List UInt8) :
    ((∃ header, CommonHeader.parse ((RtcpPacket.senderReport pathid senderSsrc ntp rtpTimestamp
        packetCount octetCount gap blocks).bytes ++ rest) = some header ∧
      header.pathid = pathid ∧
      SenderReport.parse header =
        some ⟨senderSsrc, ntp, rtpTimestamp, packetCount, octetCount, blocks.val⟩) ↔
      ∀ block ∈ blocks.val,
        block.extendedHighSeqNumP = block.extendedHighSeqNum ∧ block.rtcpSeq = 0) ∧
    ((∃ header, CommonHeader.parse
        ((RtcpPacket.receiverReport pathid senderSsrc blocks).bytes ++ rest) = some header ∧
      header.pathid = pathid ∧
      ReceiverReport.parse header = some ⟨senderSsrc, blocks.val⟩) ↔
      ∀ block ∈ blocks.val,
        block.extendedHighSeqNumP = block.extendedHighSeqNum ∧ block.rtcpSeq = 0) := by
  rw [← ReportBlock.map_received_eq_self_iff]
  constructor
  · obtain ⟨header, parsed, path, read⟩ := senderReport_bytes_read pathid senderSsrc ntp
      rtpTimestamp packetCount octetCount gap blocks fits rest
    constructor
    · rintro ⟨_, again, -, same⟩
      obtain rfl := Option.some.inj (parsed.symm.trans again)
      exact congrArg SenderReport.reportBlocks (Option.some.inj (read.symm.trans same))
    · intro same
      rw [same] at read
      exact ⟨header, parsed, path, read⟩
  · obtain ⟨header, parsed, path, read⟩ :=
      receiverReport_bytes_read pathid senderSsrc blocks fits rest
    constructor
    · rintro ⟨_, again, -, same⟩
      obtain rfl := Option.some.inj (parsed.symm.trans again)
      exact congrArg ReceiverReport.reportBlocks (Option.some.inj (read.symm.trans same))
    · intro same
      rw [same] at read
      exact ⟨header, parsed, path, read⟩

/-- Losses below zero, and the same number twice. -/
def plainBlock : ReportBlock where
  sourceSsrc := 8
  fractionLost := 3
  cumulativeLost := -2
  extendedHighSeqNum := 70000
  jitter := 4
  lastSr := 5
  delaySinceLastSr := 6
  extendedHighSeqNumP := 70000

/-- Another number over all paths than on its own. -/
def splitBlock : ReportBlock :=
  { plainBlock with extendedHighSeqNumP := 70009 }

theorem plain_report_read_back :
    ∃ header, CommonHeader.parse ((RtcpPacket.senderReport 2 1 ⟨3, 4⟩ 5 6 7 9
        ⟨[plainBlock], by decide⟩).bytes ++ []) = some header ∧
      header.pathid = 2 ∧
      SenderReport.parse header = some ⟨1, ⟨3, 4⟩, 5, 6, 7, [plainBlock]⟩ :=
  (reports_read_back_iff 2 1 ⟨3, 4⟩ 5 6 7 9 ⟨[plainBlock], by decide⟩ (by decide) []).1.mpr
    (by decide)

/-- A number over all paths that differs from the one on the path is lost. -/
theorem overall_number_lost :
    ¬∃ header, CommonHeader.parse ((RtcpPacket.senderReport 2 1 ⟨3, 4⟩ 5 6 7 9
        ⟨[splitBlock], by decide⟩).bytes ++ []) = some header ∧
      header.pathid = 2 ∧
      SenderReport.parse header = some ⟨1, ⟨3, 4⟩, 5, 6, 7, [splitBlock]⟩ := by
  rintro ⟨header, parsed, -, same⟩
  obtain ⟨_, again, -, read⟩ := senderReport_bytes_read 2 1 ⟨3, 4⟩ 5 6 7 9
    ⟨[splitBlock], by decide⟩ (by decide) []
  obtain rfl := Option.some.inj (parsed.symm.trans again)
  have blocks := congrArg SenderReport.reportBlocks (Option.some.inj (read.symm.trans same))
  exact absurd blocks (by decide)

end RoundTrip

end MpWebRtc
