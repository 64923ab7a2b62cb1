import MpWebRtc.Sender.Egress
import MpWebRtc.Sender.Provenance

/-!
# The sending side as a whole

One stream with its splitter, the two packet histories, the pacer queue, the router,
the egress and the feedback demuxer. Between any two steps the collector may change in
any way, time may pass, and a packet may wait in the queue as long as it likes: the
pacer picks any queued packet. The rate limiter of retransmissions and the choice of
padding are left open, and other streams may use the demuxer, too.
-/

namespace MpWebRtc

open Math.Run

/-- A packet that left the egress: its bytes and fields, what was recorded of it for
feedback, and the history and number it is known under. -/
structure Transmission where
  packet : Packet
  records : List PacketSendInfo
  identity : Option (Nat × UInt16)

/-- The state of the sending side, with a log of all transmissions. -/
structure SenderState where
  collector : Collector
  now : Int := 0
  sender : RtpSender := {}
  sequenceNumberRtx : UInt16 := 1
  historyP : PacketHistory
  historyS : PacketHistory
  queue : List Packet := []
  router : PacketRouter
  demuxer : FeedbackDemuxer := {}
  sent : List Transmission := []

namespace SenderState

/-- The history that `pathid != 2` selects. -/
def historyOf (s : SenderState) (pathid : Nat) : PacketHistory :=
  if pathid ≠ 2 then s.historyP else s.historyS

/-- Replace the history of a path. -/
def setHistory (s : SenderState) (pathid : Nat) (h : PacketHistory) : SenderState :=
  if pathid ≠ 2 then { s with historyP := h } else { s with historyS := h }

end SenderState

/-- The two members of `ReSendPacket` differ in the history and in the id. -/
def resendId (c : Collector) (pathid : Nat) : Nat :=
  if pathid ≠ 2 then primaryId c else secondaryId c

variable (cfg : SenderConfig)

/-- `ReSendPacket`. -/
def reSendPacket (s : SenderState) (packetId : UInt16) (pathid : Nat)
    (admitted : Bool) : SenderState × Int :=
  let resent := reSendFrom cfg (resendId s.collector pathid) (s.historyOf pathid) s.now
    s.sequenceNumberRtx packetId admitted
  ({ s.setHistory pathid resent.history with
      sequenceNumberRtx := resent.sequenceNumberRtx
      queue := s.queue ++ resent.packet.toList }, resent.result)

/-- The loop of `OnReceivedNack`, which gives up at the first failure. Every number
comes with the answer of the rate limiter. -/
def nackLoop (cfg : SenderConfig) (pathid : Nat) : SenderState → List (UInt16 × Bool) → SenderState
  | s, [] => s
  | s, (packetId, admitted) :: rest =>
      let resent := reSendPacket cfg s packetId pathid admitted
      if resent.2 < 0 then resent.1 else nackLoop cfg pathid resent.1 rest

/-- `OnReceivedNack`. -/
def onReceivedNack (s : SenderState)
    (nackSequenceNumbers : List (UInt16 × Bool)) (avgRtt : Int) (pathid : Nat) : SenderState :=
  nackLoop cfg pathid
    (s.setHistory pathid ((s.historyOf pathid).setRtt s.now (5 + avgRtt))) nackSequenceNumbers

/-- The history and the number a packet is known under once it has been sent: those of
the stored packet for a retransmission, and those it is stored under for any other
packet. Padding is not stored. -/
def packetIdentity (c : Collector) (p : Packet) : Option (Nat × UInt16) :=
  match p.packetType with
  | some .kPadding => none
  | some .kRetransmission => p.retransmittedSequenceNumber.map fun n => (originOf p.subflowId, n)
  | _ => some (storagePath c (egressPacket c p), (egressPacket c p).subflowSeq)

/-- The history part of `RtpSenderEgress::SendPacket`. -/
def egressStore (s : SenderState) (p : Packet) : SenderState :=
  if p.isMedia && p.allowRetransmission then
    s.setHistory (storagePath s.collector p)
      ((s.historyOf (storagePath s.collector p)).putRtpPacket s.now p)
  else
    match p.retransmittedSequenceNumber with
    | some n =>
        s.setHistory (releasePath s.collector p)
          ((s.historyOf (releasePath s.collector p)).markPacketAsSent s.now n)
    | none => s

/-- `RtpSenderEgress::SendPacket`. -/
def egressSend (s : SenderState) (p : Packet) : SenderState :=
  let records := feedbackRecords cfg s.collector (egressNumber s.collector p)
  egressStore
    { s with
      demuxer := records.foldl FeedbackDemuxer.addPacket s.demuxer
      sent := s.sent ++
        [⟨egressPacket s.collector p, records, packetIdentity s.collector p⟩] }
    (egressPacket s.collector p)

/-- The pacer sends the packet at position `i` of its queue, through the router. -/
def pacerSend (s : SenderState) (i : Nat) : SenderState :=
  match s.queue[i]? with
  | none => s
  | some p =>
      let routed := s.router.sendPacket s.collector p
      egressSend cfg { s with queue := s.queue.eraseIdx i, router := routed.1 } routed.2

/-- `GeneratePadding`, with the payload of a stored packet. -/
def payloadPadding (s : SenderState) (best : Nat) : SenderState :=
  if cfg.rtx then
    let padding := s.historyP.getPayloadPaddingPacket s.now best (buildRtxPacket cfg)
      s.sequenceNumberRtx
    { s with
      historyP := padding.1
      sequenceNumberRtx := padding.2.1
      queue := s.queue ++
        (padding.2.2.map fun p => { p with packetType := some .kPadding }).toList }
  else s

/-- A packet of padding only: on the RTX stream if there is one, otherwise on the media
stream with its next RTP sequence number. -/
def plainPadding (s : SenderState) (sequenceNumber : UInt16)
    (payloadType headersSize paddingSize : Nat) : SenderState :=
  { s with
    sequenceNumberRtx := if cfg.rtx then s.sequenceNumberRtx + 1 else s.sequenceNumberRtx
    queue := s.queue ++
      [{ ssrc := if cfg.rtx then cfg.rtxSsrc else cfg.ssrc
         sequenceNumber := if cfg.rtx then s.sequenceNumberRtx else sequenceNumber
         payloadType := payloadType
         headersSize := headersSize
         payload := []
         paddingSize := paddingSize
         packetType := some .kPadding
         sandy := some 0
         mpFlowSeqNum := some 0
         transportSequenceNumber := some 0
         mpTransportSequenceNumber := some 0 }] }

/-- With early loss detection, packets are sent again before they are NACKed. -/
def resendEarlyLosses (s : SenderState) (infos : List StreamPacketInfo)
    (pathid : Nat) (admits : UInt16 → Bool) : SenderState :=
  if cfg.useEarlyLossDetection then
    (earlyLosses infos).foldl (fun s n => (reSendPacket cfg s n pathid (admits n)).1) s
  else s

/-- `RtpVideoSender::OnPacketFeedbackVector`. -/
def onPacketFeedbackVector (s : SenderState) (infos : List StreamPacketInfo)
    (pathid : Nat) (admits : UInt16 → Bool) : SenderState :=
  let resent := resendEarlyLosses cfg s infos pathid admits
  resent.setHistory pathid
    ((resent.historyOf pathid).cullAcknowledgedPackets (ackedPackets cfg.ssrc infos))

/-- `OnTransportFeedback`, with the reports passed on to our stream. -/
def onTransportFeedback (s : SenderState) (packets : List (UInt16 × Bool))
    (pathid : Nat) (admits : UInt16 → Bool) : SenderState :=
  let infos := (outputs (FeedbackDemuxer.reportPacket pathid) s.demuxer packets).filter
    (·.ssrc == cfg.ssrc)
  onPacketFeedbackVector cfg
    { s with demuxer := finalState (FeedbackDemuxer.reportPacket pathid) s.demuxer packets }
    infos pathid admits

/-- The packets of a split go to the pacer. -/
def enqueueSplit (s : SenderState) (split : Split) : SenderState :=
  { s with
    collector := split.collector
    sender := split.sender
    queue := s.queue ++ split.handed }

/-- What can happen on the sending side. -/
inductive SenderEvent
  | collectorChanged (c : Collector)
  | timePasses (now : Int)
  | sendToNetwork (p : Packet)
  | enqueuePackets (frame : Frame)
  | onReceivedNack (nackSequenceNumbers : List (UInt16 × Bool)) (avgRtt : Int) (pathid : Nat)
  | pacerSend (i : Nat)
  | payloadPadding (best : Nat)
  | plainPadding (sequenceNumber : UInt16) (payloadType headersSize paddingSize : Nat)
  | transportFeedback (packets : List (UInt16 × Bool)) (pathid : Nat) (admits : UInt16 → Bool)
  | foreignPacket (info : PacketSendInfo)

/-- The state after an event. -/
def senderNext (s : SenderState) : SenderEvent → SenderState
  | .collectorChanged c => { s with collector := c }
  | .timePasses now => { s with now := now }
  | .sendToNetwork p => enqueueSplit s (sendToNetwork s.collector s.now s.sender p)
  | .enqueuePackets frame =>
      enqueueSplit s (enqueuePackets s.collector s.now s.sender frame.packets)
  | .onReceivedNack numbers avgRtt pathid => onReceivedNack cfg s numbers avgRtt pathid
  | .pacerSend i => pacerSend cfg s i
  | .payloadPadding best => payloadPadding cfg s best
  | .plainPadding sequenceNumber payloadType headersSize paddingSize =>
      plainPadding cfg s sequenceNumber payloadType headersSize paddingSize
  | .transportFeedback packets pathid admits => onTransportFeedback cfg s packets pathid admits
  | .foreignPacket info => { s with demuxer := s.demuxer.addPacket info }

/-- One event, as a step of a run. -/
def senderStep (s : SenderState) (event : SenderEvent) : SenderState × List Transmission :=
  (senderNext cfg s event, (senderNext cfg s event).sent.drop s.sent.length)

end MpWebRtc
