import Mathlib.Order.Defs.LinearOrder
import MpWebRtc.Math.Memory
import MpWebRtc.Rtcp.TransportFeedback

/-!
# The packets of a compound

The classes of RTCP packets the sender builds, each with the bytes it writes behind the
common header. Most of them keep the path they were given and write it to the header;
`App`, `Bye` and `ExtendedReports` always write 1, `Tmmbr`, `Tmmbn` and `Remb` always 3.
A compound is written to one buffer; whenever a packet does not fit behind the others the
buffer is sent, and a list of lost packets is cut where the buffer ends.
-/

namespace MpWebRtc

open Math.Memory Math.Wire

/-- The numbers of streams are keys of ordered maps. -/
instance linearOrderUInt32 : LinearOrder UInt32 where
  le_refl := UInt32.le_refl
  le_trans _ _ _ := UInt32.le_trans
  le_antisymm _ _ := UInt32.le_antisymm
  le_total := UInt32.le_total
  lt_iff_le_not_ge _ _ := by
    rw [UInt32.not_le]
    exact ⟨fun below => ⟨UInt32.le_of_lt below, below⟩, And.right⟩
  toDecidableLE := inferInstance

/-- The four bytes of a number. -/
def wordBytes (value : UInt32) : List UInt8 := writeBigEndian 4 value.toNat

@[simp]
theorem length_wordBytes (value : UInt32) : (wordBytes value).length = 4 := by
  simp [wordBytes]

theorem readBigEndian_wordBytes (value : UInt32) :
    UInt32.ofNat (readBigEndian (wordBytes value)) = value := by
  have bound := value.toNat_lt
  rw [wordBytes, readBigEndian_writeBigEndian, Nat.mod_eq_of_lt (by omega), UInt32.ofNat_toNat]

/-- `NtpTime`. -/
structure NtpTime where
  seconds : UInt32
  fractions : UInt32
  deriving DecidableEq

/-- `rtcp::ReportBlock`. -/
@[ext]
structure ReportBlock where
  sourceSsrc : UInt32
  fractionLost : UInt8 := 0
  cumulativeLost : Int32 := 0
  extendedHighSeqNum : UInt32 := 0
  jitter : UInt32 := 0
  lastSr : UInt32 := 0
  delaySinceLastSr : UInt32 := 0
  extendedHighSeqNumP : UInt32 := 0
  rtcpSeq : UInt32 := 0
  deriving DecidableEq

namespace ReportBlock

/-- `ReportBlock::kLength`. -/
def kLength : Nat := 28

variable (block : ReportBlock)

/-- `ReportBlock::Create`: the last word repeats the extended highest number. -/
def create : List UInt8 :=
  wordBytes block.sourceSsrc ++
    (block.fractionLost :: writeBigEndian 3 block.cumulativeLost.toUInt32.toNat ++
      wordBytes block.extendedHighSeqNum ++ wordBytes block.jitter ++ wordBytes block.lastSr ++
      wordBytes block.delaySinceLastSr ++ wordBytes block.extendedHighSeqNum)

variable (buffer : List UInt8)

/-- The word that starts at a byte of the buffer. -/
def readWord (start : Nat) : UInt32 :=
  UInt32.ofNat (readBigEndian ((buffer.drop start).take 4))

/-- A word is read back where it was written. -/
theorem readWord_append {earlier later : List UInt8} {start : Nat}
    (position : start = earlier.length) (value : UInt32) :
    readWord (earlier ++ (wordBytes value ++ later)) start = value := by
  have read := @take_drop_append _ earlier (wordBytes value) later start position
  rw [length_wordBytes] at read
  rw [readWord, read, readBigEndian_wordBytes]

theorem readWord_wordBytes (value : UInt32) (rest : List UInt8) :
    readWord (wordBytes value ++ rest) 0 = value :=
  readWord_append List.length_nil.symm value

theorem readWord_second (first value : UInt32) (rest : List UInt8) :
    readWord (wordBytes first ++ (wordBytes value ++ rest)) 4 = value :=
  readWord_append (length_wordBytes first).symm value

/-- One of several words is read back. -/
theorem readWord_flatMap {words : List UInt32} {earlier later : List UInt8} {start i : Nat}
    {value : UInt32} (position : start = earlier.length + 4 * i) (listed : words[i]? = some value) :
    readWord (earlier ++ (words.flatMap wordBytes ++ later)) start = value := by
  induction words generalizing earlier i with
  | nil => cases listed
  | cons word words ih =>
      cases i with
      | zero =>
          obtain rfl := Option.some.inj listed
          rw [List.flatMap_cons, List.append_assoc]
          exact readWord_append position _
      | succ i =>
          rw [List.flatMap_cons, List.append_assoc, ← List.append_assoc earlier]
          refine ih ?_ listed
          rw [List.length_append, length_wordBytes]
          omega

/-- All words are read back. -/
theorem map_readWord {earlier later : List UInt8} {start : Nat}
    (position : start = earlier.length) (words : List UInt32) :
    (List.range words.length).map
      (fun i => readWord (earlier ++ (words.flatMap wordBytes ++ later)) (start + 4 * i)) =
        words := by
  refine List.ext_getElem (by simp) fun i _ inside => ?_
  rw [List.getElem_map, List.getElem_range]
  exact readWord_flatMap (by rw [position]) (List.getElem?_eq_getElem inside)

/-- `ReportBlock::Parse` into a new block, of a buffer that is long enough. -/
def parse : ReportBlock where
  sourceSsrc := readWord buffer 0
  fractionLost := buffer.getD 4 0
  cumulativeLost :=
    let lost := readBigEndian ((buffer.drop 5).take 3)
    Int32.ofInt (if lost < 2 ^ 23 then lost else (lost : Int) - 2 ^ 24)
  extendedHighSeqNum := readWord buffer 8
  jitter := readWord buffer 12
  lastSr := readWord buffer 16
  delaySinceLastSr := readWord buffer 20
  extendedHighSeqNumP := readWord buffer 24
  rtcpSeq := 0

/-- The report blocks that stand one after the other. -/
def parseBlocks : (count : Nat) → (bytes : List UInt8) → List ReportBlock
  | 0, _ => []
  | count + 1, bytes => parse (bytes.take kLength) :: parseBlocks count (bytes.drop kLength)

@[simp]
theorem length_create : block.create.length = kLength := by
  simp [create, kLength]

theorem parse_create_sourceSsrc : (parse block.create).sourceSsrc = block.sourceSsrc := by
  change UInt32.ofNat (readBigEndian ((block.create.drop 0).take 4)) = _
  have front : block.create.take 4 = wordBytes block.sourceSsrc :=
    List.take_left' (length_wordBytes _)
  rw [List.drop_zero, front, readBigEndian_wordBytes]

/-- Blocks are read back one by one. -/
theorem parseBlocks_create (blocks : List ReportBlock) (rest : List UInt8) :
    parseBlocks blocks.length (blocks.flatMap create ++ rest) =
      blocks.map fun block => parse block.create := by
  induction blocks with
  | nil => rfl
  | cons block blocks ih =>
      rw [List.flatMap_cons, List.append_assoc, List.length_cons, parseBlocks,
        List.take_left' (length_create block), List.drop_left' (length_create block), ih,
        List.map_cons]

/-- The blocks behind the base of a report are read back. -/
theorem parseBlocks_drop {front : List UInt8} {size : Nat} (length : front.length = size)
    (blocks : List ReportBlock) :
    parseBlocks blocks.length ((front ++ blocks.flatMap create).drop size) =
      blocks.map fun block => parse block.create := by
  rw [List.drop_left' length]
  simpa using parseBlocks_create blocks []

end ReportBlock

/-- `Nack::PackedNack`. -/
structure PackedNack where
  firstPid : UInt16
  bitmask : UInt16

namespace PackedNack

variable (item : PackedNack)

/-- The bytes of an item. -/
def create : List UInt8 :=
  writeBigEndian 2 item.firstPid.toNat ++ writeBigEndian 2 item.bitmask.toNat

/-- The numbers that fit behind the first one, and those that do not. -/
def collect (firstPid : UInt16) : (bitmask : UInt16) → (packetIds : List UInt16) →
    UInt16 × List UInt16
  | bitmask, [] => (bitmask, [])
  | bitmask, packetId :: packetIds =>
      let shift := packetId - firstPid - 1
      if shift ≤ 15 then collect firstPid (bitmask ||| 1 <<< shift) packetIds
      else (bitmask, packetId :: packetIds)

theorem length_collect_le (firstPid : UInt16) (bitmask : UInt16) (packetIds : List UInt16) :
    (collect firstPid bitmask packetIds).2.length ≤ packetIds.length := by
  induction packetIds generalizing bitmask with
  | nil => exact le_rfl
  | cons packetId packetIds ih =>
      rw [collect]
      split
      · exact (ih _).trans (Nat.le_succ _)
      · exact le_rfl

/-- `Nack::Pack`. -/
def pack : (packetIds : List UInt16) → List PackedNack
  | [] => []
  | firstPid :: packetIds =>
      let collected := collect firstPid 0 packetIds
      ⟨firstPid, collected.1⟩ :: pack collected.2
termination_by packetIds => packetIds.length
decreasing_by
  have shorter := length_collect_le firstPid 0 packetIds
  simp only [List.length_cons]
  omega

/-- The numbers an item stands for. -/
def packetIds : List UInt16 :=
  item.firstPid ::
    ((List.range 16).filter fun bit => item.bitmask.toNat.testBit bit).map fun bit =>
      item.firstPid + 1 + UInt16.ofNat bit

/-- The items that stand one after the other. -/
def parseItems : (count : Nat) → (bytes : List UInt8) → List PackedNack
  | 0, _ => []
  | count + 1, bytes =>
      ⟨UInt16.ofNat (readBigEndian (bytes.take 2)),
        UInt16.ofNat (readBigEndian ((bytes.drop 2).take 2))⟩ :: parseItems count (bytes.drop 4)

@[simp]
theorem length_create : item.create.length = 4 := by
  simp [create]

end PackedNack

/-- `rtcp::TmmbItem`. -/
structure TmmbItem where
  ssrc : UInt32
  bitrateBps : UInt64
  packetOverhead : UInt16
  deriving DecidableEq

/-- A value as mantissa and exponent, halved until the mantissa fits. -/
def scaleDown (maxMantissa value : Nat) : Nat × Nat :=
  if value ≤ maxMantissa then (value, 0)
  else
    let scaled := scaleDown maxMantissa (value / 2)
    (scaled.1, scaled.2 + 1)
termination_by value
decreasing_by omega

/-- `TmmbItem::Create`. -/
def TmmbItem.create (item : TmmbItem) : List UInt8 :=
  let scaled := scaleDown 0x1ffff item.bitrateBps.toNat
  wordBytes item.ssrc ++
    writeBigEndian 4 (scaled.2 <<< 26 ||| scaled.1 <<< 9 ||| item.packetOverhead.toNat)

/-- `rtcp::ReceiveTimeInfo`. -/
structure ReceiveTimeInfo where
  ssrc : UInt32
  lastRr : UInt32
  delaySinceLastRr : UInt32

/-- `TargetBitrate::BitrateItem`. -/
structure BitrateItem where
  spatialLayer : UInt8
  temporalLayer : UInt8
  targetBitrateKbps : UInt32

/-- `Rrtr::Create`. -/
def createRrtr (ntp : NtpTime) : List UInt8 :=
  [4, 0, 0, 2] ++ wordBytes ntp.seconds ++ wordBytes ntp.fractions

/-- The bytes of an item of `Dlrr`. -/
def ReceiveTimeInfo.create (info : ReceiveTimeInfo) : List UInt8 :=
  wordBytes info.ssrc ++ wordBytes info.lastRr ++ wordBytes info.delaySinceLastRr

/-- `Dlrr::Create`: nothing without items. -/
def createDlrr (items : List ReceiveTimeInfo) : List UInt8 :=
  if items.isEmpty then []
  else [5, 0] ++ writeBigEndian 2 (3 * items.length) ++ items.flatMap ReceiveTimeInfo.create

theorem aligned_createDlrr (items : List ReceiveTimeInfo) : 4 ∣ (createDlrr items).length := by
  have item (info : ReceiveTimeInfo) : 4 ∣ info.create.length := by
    simp [ReceiveTimeInfo.create]
  unfold createDlrr
  split
  · exact dvd_zero 4
  · have whole := dvd_length_flatMap item items
    simp only [List.length_append, List.length_cons, List.length_nil, length_writeBigEndian]
    omega

/-- The bytes of an item of `TargetBitrate`. -/
def BitrateItem.create (item : BitrateItem) : List UInt8 :=
  [item.spatialLayer <<< 4 ||| item.temporalLayer] ++
    writeBigEndian 3 item.targetBitrateKbps.toNat

/-- `TargetBitrate::Create`. -/
def createTargetBitrate (items : List BitrateItem) : List UInt8 :=
  [42, 0] ++ writeBigEndian 2 items.length ++ items.flatMap BitrateItem.create

theorem aligned_createTargetBitrate (items : List BitrateItem) :
    4 ∣ (createTargetBitrate items).length := by
  have item (item : BitrateItem) : 4 ∣ item.create.length := by
    simp [BitrateItem.create]
  have whole := dvd_length_flatMap item items
  simp only [createTargetBitrate, List.length_append, List.length_cons, List.length_nil,
    length_writeBigEndian]
  omega

/-- `Sdes::Chunk`. -/
structure Chunk where
  ssrc : UInt32
  cname : List UInt8

/-- The bytes of a chunk, with at least one zero behind the name. -/
def Chunk.create (chunk : Chunk) : List UInt8 :=
  wordBytes chunk.ssrc ++ [1, UInt8.ofNat chunk.cname.length] ++ chunk.cname ++
    List.replicate (4 - (6 + chunk.cname.length) % 4) 0

/-- `SenderReport::kSenderBaseLength`. -/
def kSenderBaseLength : Nat := 28

/-- `ReceiverReport::kRrBaseLength`. -/
def kRrBaseLength : Nat := 4

def kMaxNumberOfReportBlocks : Nat := 0x1f
def kMaxNumberOfChunks : Nat := 0x1f
def kMaxNumberOfCsrcs : Nat := 0x1f - 1
def kMaxNumberOfSsrcs : Nat := 0xff
def kMaxNumberOfDlrrItems : Nat := 50

/-- The RTCP packets the sender builds, with the members `Create` reads. A sender report has a
word that is not written: the gap is what the buffer has there. -/
inductive RtcpPacket
  | senderReport (pathid : Int32) (senderSsrc : UInt32) (ntp : NtpTime)
      (rtpTimestamp packetCount octetCount gap : UInt32)
      (reportBlocks : { blocks : List ReportBlock // blocks.length ≤ kMaxNumberOfReportBlocks })
  | receiverReport (pathid : Int32) (senderSsrc : UInt32)
      (reportBlocks : { blocks : List ReportBlock // blocks.length ≤ kMaxNumberOfReportBlocks })
  | sdes (pathid : Int32) (chunks : { chunks : List Chunk // chunks.length ≤ kMaxNumberOfChunks })
  | pli (pathid : Int32) (senderSsrc mediaSsrc : UInt32)
  | nack (pathid : Int32) (senderSsrc mediaSsrc : UInt32) (packed : List PackedNack)
  | fir (pathid : Int32) (senderSsrc : UInt32) (items : List (UInt32 × UInt8))
  | tmmbr (senderSsrc : UInt32) (items : List TmmbItem)
  | tmmbn (senderSsrc : UInt32) (items : List TmmbItem)
  | lossNotification (pathid : Int32) (senderSsrc mediaSsrc : UInt32)
      (lastDecoded lastReceived : UInt16) (decodabilityFlag : Bool)
  | remb (senderSsrc : UInt32) (bitrateBps : Nat) (ssrcs : List UInt32)
  | extendedReports (senderSsrc : UInt32) (rrtr : Option NtpTime) (dlrr : List ReceiveTimeInfo)
      (targetBitrate : Option (List BitrateItem))
  | app (pathid : Int32) (senderSsrc : UInt32) (subType : Fin 32) (name : UInt32)
      (data : { data : List UInt8 // data.length % 4 = 0 })
  | bye (senderSsrc : UInt32) (csrcs : { csrcs : List UInt32 // csrcs.length ≤ kMaxNumberOfCsrcs })

namespace RtcpPacket

/-- The count or format in the header. -/
def countOrFormat : RtcpPacket → Nat
  | senderReport _ _ _ _ _ _ _ reportBlocks => reportBlocks.val.length
  | receiverReport _ _ reportBlocks => reportBlocks.val.length
  | sdes _ chunks => chunks.val.length
  | pli .. => 1
  | nack .. => 1
  | fir .. => 4
  | tmmbr .. => 3
  | tmmbn .. => 4
  | lossNotification .. => 15
  | remb .. => 15
  | extendedReports .. => 0
  | app _ _ subType _ _ => subType.val
  | bye _ csrcs => 1 + csrcs.val.length

/-- `kPacketType` of each class. -/
def packetType : RtcpPacket → Nat
  | senderReport .. => 200
  | receiverReport .. => 201
  | sdes .. => 202
  | bye .. => 203
  | app .. => 204
  | nack .. | tmmbr .. | tmmbn .. => 205
  | pli .. | fir .. | lossNotification .. | remb .. => 206
  | extendedReports .. => 207

/-- The path each class passes to `CreateHeader`. -/
def headerPathid : RtcpPacket → Int32
  | senderReport pathid _ _ _ _ _ _ _ => pathid
  | receiverReport pathid _ _ => pathid
  | sdes pathid _ => pathid
  | pli pathid _ _ => pathid
  | nack pathid _ _ _ => pathid
  | fir pathid _ _ => pathid
  | lossNotification pathid _ _ _ _ _ => pathid
  | tmmbr .. => 3
  | tmmbn .. => 3
  | remb .. => 3
  | extendedReports .. => 1
  | app .. => 1
  | bye .. => 1

/-- What `Create` of each class leaves behind the header. -/
def payload : RtcpPacket → List UInt8
  | senderReport _ senderSsrc ntp rtpTimestamp packetCount octetCount gap reportBlocks =>
      wordBytes senderSsrc ++
        (wordBytes ntp.seconds ++ wordBytes ntp.fractions ++ wordBytes rtpTimestamp ++
          wordBytes packetCount ++ wordBytes octetCount ++ wordBytes gap ++
          reportBlocks.val.flatMap ReportBlock.create)
  | receiverReport _ senderSsrc reportBlocks =>
      wordBytes senderSsrc ++ reportBlocks.val.flatMap ReportBlock.create
  | sdes _ chunks => chunks.val.flatMap Chunk.create
  | pli _ senderSsrc mediaSsrc => wordBytes senderSsrc ++ wordBytes mediaSsrc
  | nack _ senderSsrc mediaSsrc packed =>
      wordBytes senderSsrc ++ (wordBytes mediaSsrc ++ packed.flatMap PackedNack.create)
  | fir _ senderSsrc items =>
      wordBytes senderSsrc ++ wordBytes 0 ++
        items.flatMap fun item => wordBytes item.1 ++ [item.2, 0, 0, 0]
  | tmmbr senderSsrc items => wordBytes senderSsrc ++ wordBytes 0 ++ items.flatMap TmmbItem.create
  | tmmbn senderSsrc items => wordBytes senderSsrc ++ wordBytes 0 ++ items.flatMap TmmbItem.create
  | lossNotification _ senderSsrc mediaSsrc lastDecoded lastReceived decodabilityFlag =>
      wordBytes senderSsrc ++ wordBytes mediaSsrc ++ wordBytes 0x4C4E5446 ++
        writeBigEndian 2 lastDecoded.toNat ++
        writeBigEndian 2 ((lastReceived - lastDecoded).toNat <<< 1 |||
          (if decodabilityFlag then 1 else 0))
  | remb senderSsrc bitrateBps ssrcs =>
      let scaled := scaleDown 0x3ffff bitrateBps
      wordBytes senderSsrc ++ wordBytes 0 ++ wordBytes 0x52454D42 ++
        [UInt8.ofNat ssrcs.length, UInt8.ofNat (scaled.2 <<< 2 ||| scaled.1 >>> 16)] ++
        writeBigEndian 2 (scaled.1 &&& 0xffff) ++ ssrcs.flatMap wordBytes
  | extendedReports senderSsrc rrtr dlrr targetBitrate =>
      wordBytes senderSsrc ++ rrtr.elim [] createRrtr ++ createDlrr dlrr ++
        targetBitrate.elim [] createTargetBitrate
  | app _ senderSsrc _ name data => wordBytes senderSsrc ++ wordBytes name ++ data.val
  | bye senderSsrc csrcs => wordBytes senderSsrc ++ csrcs.val.flatMap wordBytes

/-- `BlockLength`: each class adds up what its `Create` passes over. -/
def blockLength (packet : RtcpPacket) : Nat := kHeaderLength + packet.payload.length

/-- The bytes of a packet. -/
def bytes (packet : RtcpPacket) : List UInt8 :=
  createHeader packet.countOrFormat packet.packetType (packet.payload.length / 4) false
    packet.headerPathid ++ packet.payload

variable (packet : RtcpPacket)

theorem countOrFormat_lt : packet.countOrFormat < 32 := by
  cases packet with
  | senderReport _ _ _ _ _ _ _ reportBlocks =>
      exact Nat.lt_succ_of_le reportBlocks.property
  | receiverReport _ _ reportBlocks => exact Nat.lt_succ_of_le reportBlocks.property
  | sdes _ chunks => exact Nat.lt_succ_of_le chunks.property
  | app _ _ subType _ _ => exact subType.isLt
  | bye _ csrcs =>
      have few : csrcs.val.length ≤ 30 := csrcs.property
      change 1 + csrcs.val.length < 32
      omega
  | _ => simp [countOrFormat]

theorem packetType_lt : packet.packetType < 256 := by
  cases packet <;> simp [packetType]

/-- Packets are made of whole words. -/
theorem aligned : 4 ∣ packet.payload.length := by
  have blocks (reportBlocks : List ReportBlock) :
      4 ∣ (reportBlocks.flatMap ReportBlock.create).length :=
    dvd_length_flatMap (fun block => by rw [ReportBlock.length_create]; decide) reportBlocks
  have words (ssrcs : List UInt32) : 4 ∣ (ssrcs.flatMap wordBytes).length :=
    dvd_length_flatMap (fun ssrc => by rw [length_wordBytes]) ssrcs
  have tmmb (items : List TmmbItem) : 4 ∣ (items.flatMap TmmbItem.create).length :=
    dvd_length_flatMap (fun item => by simp [TmmbItem.create]) items
  cases packet with
  | senderReport _ _ _ _ _ _ _ reportBlocks => simpa [payload] using blocks reportBlocks.val
  | receiverReport _ _ reportBlocks => simpa [payload] using blocks reportBlocks.val
  | sdes _ chunks =>
      refine dvd_length_flatMap (fun chunk => ?_) chunks.val
      simp only [Chunk.create, List.length_append, List.length_replicate, length_wordBytes,
        List.length_cons, List.length_nil]
      omega
  | nack => simp [payload]
  | fir _ _ items =>
      have request (item : UInt32 × UInt8) : 4 ∣ (wordBytes item.1 ++ [item.2, 0, 0, 0]).length := by
        simp
      simpa [payload] using dvd_length_flatMap request items
  | tmmbr _ items => simpa [payload] using tmmb items
  | tmmbn _ items => simpa [payload] using tmmb items
  | remb _ _ ssrcs =>
      have whole := words ssrcs
      simp only [payload, List.length_append, length_wordBytes, List.length_cons, List.length_nil,
        length_writeBigEndian]
      omega
  | extendedReports _ rrtr dlrr targetBitrate =>
      have reference : 4 ∣ (rrtr.elim [] createRrtr).length := by
        cases rrtr <;> simp [createRrtr]
      have delays := aligned_createDlrr dlrr
      have rates : 4 ∣ (targetBitrate.elim [] createTargetBitrate).length := by
        cases targetBitrate with
        | none => exact dvd_zero 4
        | some items => exact aligned_createTargetBitrate items
      simp only [payload, List.length_append, length_wordBytes]
      omega
  | app _ _ _ _ data => simpa [payload] using Nat.dvd_of_mod_eq_zero data.property
  | bye => simp [payload]
  | pli => simp [payload]
  | lossNotification => simp [payload]

theorem length_bytes : packet.bytes.length = packet.blockLength := by
  rw [bytes, List.length_append, length_createHeader, blockLength]

/-- A packet is read back from the front of a datagram. -/
theorem parse_bytes (short : packet.blockLength ≤ 65536) (rest : List UInt8) :
    CommonHeader.parse (packet.bytes ++ rest) =
      some ⟨packet.packetType, packet.countOrFormat, 0, packet.payload, packet.headerPathid,
        rest⟩ := by
  have whole : packet.payload.length = packet.payload.length / 4 * 4 :=
    (Nat.div_mul_cancel packet.aligned).symm
  have fits : packet.payload.length / 4 < 65536 := by
    have bound : kHeaderLength + packet.payload.length ≤ 65536 := short
    omega
  rw [bytes, List.append_assoc]
  exact parse_createHeader packet.countOrFormat_lt packet.packetType_lt fits whole rest

end RtcpPacket

/-- The buffer a compound is written to, and the datagrams that were sent from it. -/
structure PacketBuffer where
  packets : List RtcpPacket := []
  sent : List (List RtcpPacket) := []

namespace PacketBuffer

variable (buffer : PacketBuffer)

/-- `index`: how much of the buffer is in use. -/
def index : Nat := (buffer.packets.map RtcpPacket.blockLength).sum

/-- `RtcpPacket::OnBufferFull`: send the buffer, unless it is empty. -/
def onBufferFull : Option PacketBuffer :=
  if buffer.packets.isEmpty then none else some ⟨[], buffer.sent ++ [buffer.packets]⟩

/-- The loop in front of every packet: send the buffer until there is room. Once it is
empty sending fails, so that the loop ends after at most one round. -/
def makeRoom (maxLength length : Nat) : PacketBuffer × Bool :=
  if buffer.index + length ≤ maxLength then (buffer, true)
  else
    match buffer.onBufferFull with
    | none => (buffer, false)
    | some emptied => (emptied, decide (length ≤ maxLength))

/-- Write a packet behind the others. -/
def append (packet : RtcpPacket) : PacketBuffer :=
  { buffer with packets := buffer.packets ++ [packet] }

/-- `kNackHeaderLength`. -/
def kNackHeaderLength : Nat := kHeaderLength + 8

/-- A piece of a list of lost packets has the size of its items. -/
theorem blockLength_nack (pathid : Int32) (senderSsrc mediaSsrc : UInt32)
    (packed : List PackedNack) :
    (RtcpPacket.nack pathid senderSsrc mediaSsrc packed).blockLength =
      kNackHeaderLength + packed.length * 4 := by
  have items := length_flatMap_of_forall PackedNack.length_create packed
  simp only [RtcpPacket.blockLength, RtcpPacket.payload, List.length_append, length_wordBytes, items,
    kNackHeaderLength]
  omega

/-- `Nack::Create`: as many items at a time as the buffer has room for. -/
def createNack (maxLength : Nat) (pathid : Int32) (senderSsrc mediaSsrc : UInt32) :
    (packed : List PackedNack) → (buffer : PacketBuffer) → PacketBuffer × Bool
  | [], buffer => (buffer, true)
  | item :: packed, buffer =>
      match buffer.makeRoom maxLength (kNackHeaderLength + 4) with
      | (buffer, false) => (buffer, false)
      | (buffer, true) =>
          let numNackFields := (maxLength - buffer.index - kNackHeaderLength) / 4
          createNack maxLength pathid senderSsrc mediaSsrc (packed.drop (numNackFields - 1))
            (buffer.append
              (.nack pathid senderSsrc mediaSsrc (item :: packed.take (numNackFields - 1))))
termination_by packed => packed.length
decreasing_by
  simp only [List.length_drop, List.length_cons]
  omega

/-- `Create` of each class. -/
def create (maxLength : Nat) (packet : RtcpPacket) (buffer : PacketBuffer) : PacketBuffer × Bool :=
  match packet with
  | .nack pathid senderSsrc mediaSsrc packed =>
      createNack maxLength pathid senderSsrc mediaSsrc packed buffer
  | packet =>
      match buffer.makeRoom maxLength packet.blockLength with
      | (buffer, false) => (buffer, false)
      | (buffer, true) => (buffer.append packet, true)

/-- `CompoundPacket::Create`: a packet that cannot be written ends it. -/
def createAll (maxLength : Nat) : (packets : List RtcpPacket) → (buffer : PacketBuffer) →
    PacketBuffer × Bool
  | [], buffer => (buffer, true)
  | packet :: packets, buffer =>
      match create maxLength packet buffer with
      | (buffer, false) => (buffer, false)
      | (buffer, true) => createAll maxLength packets buffer

end PacketBuffer

/-- `IP_PACKET_SIZE`. -/
def kIpPacketSize : Nat := 1500

/-- `RtcpPacket::Build`: the datagrams a compound is sent in. The check of the length ends
the program; what was written before a packet that does not fit is sent without it. -/
def buildCompound (maxLength : Nat) (packets : List RtcpPacket) : List (List RtcpPacket) :=
  if kIpPacketSize < maxLength then []
  else
    match PacketBuffer.createAll maxLength packets {} with
    | (buffer, false) => buffer.sent
    | (buffer, true) => (buffer.onBufferFull.getD buffer).sent

/-- The bytes of a datagram. -/
def datagramBytes (packets : List RtcpPacket) : List UInt8 := packets.flatMap RtcpPacket.bytes

/-- `RtcpPacket::Build` of one packet, with a length that passes the check: what the callback
gets, and the result. -/
def RtcpPacket.build (maxLength : Nat) (packet : RtcpPacket) : List (List UInt8) × Bool :=
  match PacketBuffer.create maxLength packet {} with
  | (buffer, false) => (buffer.sent.map datagramBytes, false)
  | (buffer, true) =>
      match buffer.onBufferFull with
      | none => (buffer.sent.map datagramBytes, false)
      | some emptied => (emptied.sent.map datagramBytes, true)

end MpWebRtc
