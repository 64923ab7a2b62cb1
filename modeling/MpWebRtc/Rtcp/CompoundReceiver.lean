import MpWebRtc.Rtcp.Packets

/-!
# Receiving a compound

`RTCPReceiver::IncomingPacket` walks through the packets of a datagram, collects what they
report, and calls the observers at the end. There is one path id for the whole datagram:
every header overwrites it, so that the observers get the one of the last packet. Only
transport feedback keeps the path of its own header.

Of the other packets the observers that get no path id are told; they set neither the path
nor anything that is kept here, apart from their header.
-/

namespace MpWebRtc

open Math.Wire

/-- `RTCPReportBlock`: a report block and who sent it. -/
structure RtcpReportBlock where
  senderSsrc : UInt32
  block : ReportBlock

/-- `RTCPReceiver::PacketInformation`, with the bits of `packet_type_flags` that stand for
reports, lists of lost packets and transport feedback. -/
structure PacketInformation where
  srFlag : Bool := false
  rrFlag : Bool := false
  nackFlag : Bool := false
  transportFeedbackFlag : Bool := false
  remoteSsrc : UInt32 := 0
  nackSequenceNumbers : List UInt16 := []
  reportBlocks : List RtcpReportBlock := []
  pathid : Int32 := -1
  transportFeedback : Option TransportFeedback := none

/-- What `RTCPReceiver` is configured with. -/
structure RtcpReceiver where
  receiverOnly : Bool := false
  mainSsrc : UInt32
  registeredSsrcs : List UInt32
  remoteSsrc : UInt32
  rtcpBandwidthObserver : Bool := true
  transportFeedbackObserver : Bool := true

/-- A call of an observer: `OnReceivedNack`, `OnReceivedRtcpReceiverReport`,
`OnReceivedRtcpReportBlocks` and `OnTransportFeedback`. -/
inductive RtcpNotice
  | receivedNack (nackSequenceNumbers : List UInt16) (pathid : Int32)
  | receivedRtcpReceiverReport (reportBlocks : List RtcpReportBlock) (pathid : Int32)
  | receivedRtcpReportBlocks (reportBlocks : List RtcpReportBlock)
  | transportFeedback (feedback : TransportFeedback)

namespace RtcpReceiver

variable (receiver : RtcpReceiver)

/-- `HandleReportBlock`: only blocks about streams of ours are kept. -/
def handleReportBlocks (info : PacketInformation) (remoteSsrc : UInt32)
    (blocks : List ReportBlock) : PacketInformation :=
  { info with
    reportBlocks := info.reportBlocks ++
      (blocks.filter fun block => receiver.registeredSsrcs.contains block.sourceSsrc).map
        fun block => ⟨remoteSsrc, block⟩ }

/-- `HandleSenderReport` behind `SenderReport::Parse`. -/
def handleSenderReport (block : CommonHeader) (info : PacketInformation) : PacketInformation :=
  if block.payload.length < kSenderBaseLength + block.fmt * ReportBlock.kLength then info
  else
    let remoteSsrc := ReportBlock.readWord block.payload 0
    let info := { info with remoteSsrc := remoteSsrc }
    let info :=
      if receiver.remoteSsrc = remoteSsrc then { info with srFlag := true }
      else { info with rrFlag := true }
    receiver.handleReportBlocks info remoteSsrc
      (ReportBlock.parseBlocks block.fmt (block.payload.drop kSenderBaseLength))

/-- `HandleReceiverReport` behind `ReceiverReport::Parse`. -/
def handleReceiverReport (block : CommonHeader) (info : PacketInformation) : PacketInformation :=
  if block.payload.length < kRrBaseLength + block.fmt * ReportBlock.kLength then info
  else
    let remoteSsrc := ReportBlock.readWord block.payload 0
    receiver.handleReportBlocks { info with remoteSsrc := remoteSsrc, rrFlag := true } remoteSsrc
      (ReportBlock.parseBlocks block.fmt (block.payload.drop kRrBaseLength))

/-- `HandleNack` behind `Nack::Parse`. -/
def handleNack (block : CommonHeader) (info : PacketInformation) : PacketInformation :=
  if block.payload.length < 8 + 4 then info
  else if receiver.receiverOnly ∨ receiver.mainSsrc ≠ ReportBlock.readWord block.payload 4 then info
  else
    let packetIds := (PackedNack.parseItems ((block.payload.length - 8) / 4)
      (block.payload.drop 8)).flatMap PackedNack.packetIds
    { info with
      nackSequenceNumbers := info.nackSequenceNumbers ++ packetIds
      nackFlag := info.nackFlag || !packetIds.isEmpty }

/-- `HandleTransportFeedback`. -/
def handleTransportFeedback (block : CommonHeader) (info : PacketInformation) : PacketInformation :=
  match (TransportFeedback.ofPathid block.pathid).parse block with
  | none => info
  | some feedback =>
      { info with
        pathid := block.pathid
        transportFeedbackFlag := true
        transportFeedback := some feedback }

/-- The body of the loop of `ParseCompoundPacket`. -/
def handleBlock (block : CommonHeader) (info : PacketInformation) : PacketInformation :=
  let info := { info with pathid := block.pathid }
  if block.type = 200 then receiver.handleSenderReport block info
  else if block.type = 201 then receiver.handleReceiverReport block info
  else if block.type = kRtpfbPacketType ∧ block.fmt = 1 then receiver.handleNack block info
  else if block.type = kRtpfbPacketType ∧ block.fmt = kFeedbackMessageType then
    handleTransportFeedback block info
  else info

end RtcpReceiver

variable {block : CommonHeader} {buffer : List UInt8}

/-- Where the parts of a parsed packet stand in the buffer. -/
theorem CommonHeader.parse_parts (parsed : CommonHeader.parse buffer = some block) :
    kHeaderLength + block.payload.length + block.paddingSize ≤ buffer.length ∧
      block.payload = (buffer.drop kHeaderLength).take block.payload.length ∧
      block.nextPacket =
        buffer.drop (kHeaderLength + block.payload.length + block.paddingSize) := by
  unfold CommonHeader.parse at parsed
  dsimp only at parsed
  generalize readBigEndian ((buffer.drop 2).take 2) * 4 = payloadSize at parsed
  split_ifs at parsed with short version small plain empty none many
  · obtain rfl := Option.some.inj parsed
    have length : ((buffer.drop kHeaderLength).take payloadSize).length = payloadSize := by
      rw [List.length_take, List.length_drop]
      omega
    dsimp only
    rw [length]
    exact ⟨by omega, rfl, by rw [List.drop_drop, Nat.add_zero]⟩
  · obtain rfl := Option.some.inj parsed
    dsimp only
    generalize (((buffer.drop kHeaderLength).take payloadSize).getD (payloadSize - 1) 0).toNat =
      paddingSize at none many
    have length : (((buffer.drop kHeaderLength).take payloadSize).take
        (payloadSize - paddingSize)).length = payloadSize - paddingSize := by
      rw [List.length_take, List.length_take, List.length_drop]
      omega
    have whole : kHeaderLength + (payloadSize - paddingSize) + paddingSize =
        kHeaderLength + payloadSize := by omega
    rw [length, whole]
    refine ⟨by omega, ?_, by rw [List.drop_drop]⟩
    rw [List.take_take, Nat.min_eq_left (Nat.sub_le _ _)]

/-- Parsing advances: what follows a packet is shorter. -/
theorem CommonHeader.length_nextPacket_lt (parsed : CommonHeader.parse buffer = some block) :
    block.nextPacket.length < buffer.length := by
  obtain ⟨inside, -, next⟩ := CommonHeader.parse_parts parsed
  have positive : 0 < kHeaderLength := by decide
  rw [next, List.length_drop]
  omega

namespace RtcpReceiver

variable (receiver : RtcpReceiver)

/-- The loop of `ParseCompoundPacket`; it ends at the end of the datagram and at a header
that does not parse, which includes an empty rest. -/
def parseBlocks (receiver : RtcpReceiver) (packet : List UInt8)
    (info : PacketInformation) : PacketInformation :=
  match _parsed : CommonHeader.parse packet with
  | none => info
  | some block => receiver.parseBlocks block.nextPacket (receiver.handleBlock block info)
termination_by packet.length
decreasing_by exact CommonHeader.length_nextPacket_lt _parsed

variable (info : PacketInformation) {packet : List UInt8}

theorem parseBlocks_of_none
    (unparsed : CommonHeader.parse packet = none) : receiver.parseBlocks packet info = info := by
  rw [parseBlocks]
  split
  · rfl
  · rename_i found
    rw [unparsed] at found
    cases found

theorem parseBlocks_of_some {block : CommonHeader}
    (parsed : CommonHeader.parse packet = some block) :
    receiver.parseBlocks packet info =
      receiver.parseBlocks block.nextPacket (receiver.handleBlock block info) := by
  rw [parseBlocks]
  split
  · rename_i absent
    rw [parsed] at absent
    cases absent
  · rename_i found
    rw [parsed] at found
    obtain rfl := Option.some.inj found
    rfl

/-- `ParseCompoundPacket`: nothing, if there is a first header that does not parse. -/
def parseCompoundPacket (packet : List UInt8) : Option PacketInformation :=
  if !packet.isEmpty && (CommonHeader.parse packet).isNone then none
  else some (receiver.parseBlocks packet {})

/-- `TriggerCallbacksFromRtcpPacket`. -/
def triggerCallbacksFromRtcpPacket (info : PacketInformation) : List RtcpNotice :=
  (if !receiver.receiverOnly && info.nackFlag && !info.nackSequenceNumbers.isEmpty then
    [.receivedNack info.nackSequenceNumbers info.pathid]
  else []) ++
  (if receiver.rtcpBandwidthObserver && (info.srFlag || info.rrFlag) then
    [.receivedRtcpReceiverReport info.reportBlocks info.pathid]
  else []) ++
  (if info.srFlag || info.rrFlag then [.receivedRtcpReportBlocks info.reportBlocks] else []) ++
  (match info.transportFeedback with
  | none => []
  | some feedback =>
      if receiver.transportFeedbackObserver && info.transportFeedbackFlag &&
          (decide (feedback.mediaSsrc = receiver.mainSsrc) ||
            receiver.registeredSsrcs.contains feedback.mediaSsrc) then
        [.transportFeedback feedback]
      else [])

/-- `IncomingPacket`. -/
def incomingPacket (packet : List UInt8) : List RtcpNotice :=
  if packet.isEmpty then []
  else
    match receiver.parseCompoundPacket packet with
    | none => []
    | some info => receiver.triggerCallbacksFromRtcpPacket info

end RtcpReceiver
end MpWebRtc
