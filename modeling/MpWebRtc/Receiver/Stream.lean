import MpWebRtc.Packet
import MpWebRtc.Receiver.Nack

/-!
# Receiving a video stream over two paths

`Call::DeliverRtp` looks at the connection a packet arrived on and at the path id in
its header. Where they differ it rewrites the id to the path the packet was numbered
on. RTX packets are then unpacked by `RtxReceiveStream`, and the media packet reaches
`RtpVideoStreamReceiver2`, which has one NACK module per path. Copies with the payload
type for duplicates are counted and dropped before either module sees them.
-/

namespace MpWebRtc

open NackModule

/-- `RtpPacketReceived`: the bytes that matter, the connection it arrived on, and
whether it was recovered by RTX. -/
structure ReceivedPacket where
  pathid : Nat
  ssrc : Nat
  sequenceNumber : UInt16
  payloadType : Nat
  payload : List UInt8
  sandy : Option Nat
  mpFlowSeqNum : Option UInt16
  recovered : Bool := false

/-- The bytes of a packet as they arrive over connection `pathid`. -/
def Packet.arrive (p : Packet) (pathid : Nat) : ReceivedPacket where
  pathid := pathid
  ssrc := p.ssrc
  sequenceNumber := p.sequenceNumber
  payloadType := p.payloadType
  payload := p.payload
  sandy := p.sandy
  mpFlowSeqNum := p.mpFlowSeqNum

namespace ReceivedPacket

variable (p : ReceivedPacket)

/-- `header.extension.sandy`, zero when absent. -/
def headerPath : Nat := p.sandy.getD 0

/-- `header.extension.mpflowseqnum`, zero when absent. -/
def headerSeqNum : UInt16 := p.mpFlowSeqNum.getD 0

/-- Attribute the packet to path `k`, in the field and in the header. -/
def assignPath (k : Nat) : ReceivedPacket :=
  { p with pathid := k, sandy := p.sandy.map fun _ => k }

end ReceivedPacket

/-- The rewriting of path ids in `Call::DeliverRtp`. -/
def resolvePath (p : ReceivedPacket) : ReceivedPacket :=
  if p.headerPath ≠ p.pathid then
    if p.headerPath = 2 ∧ p.pathid = 1 then p.assignPath 2
    else if p.headerPath = 1 ∧ p.pathid = 2 then p.assignPath 1
    else if p.headerPath = 3 ∨ p.headerPath = 0 ∨ p.headerPath = 1 then p.assignPath 1
    else p.assignPath 2
  else p

/-- What a depacketizer makes of a payload. -/
structure ParsedPayload where
  videoPayload : List UInt8
  isFirstPacketInFrame : Bool
  isKeyFrame : Bool

/-- The configuration of the stream: the negotiated payload types and the depacketizers.
The payload types that RTX uses are mapped to the ones they stand for. -/
structure StreamConfig where
  mediaSsrc : Nat
  rtxSsrc : Nat
  redPayloadType : Nat
  ulpfecPayloadType : Nat
  associatedPayloadTypes : Nat → Option Nat
  depacketize : Nat → List UInt8 → Option ParsedPayload
  nack : NackSettings := {}

/-- What the parsers with a state of their own answer when a packet arrives: the packets
that `DecodeFec` recovers with it, and those that `ParseGenericDependenciesExtension`
drops. Whether the packet exceeds `IP_PACKET_SIZE` depends on its headers too. -/
structure ParserAnswers where
  exceedsIpPacketSize : Bool := false
  recoveredFec : List ReceivedPacket := []
  dropsDescriptor : ReceivedPacket → Bool := fun _ => false

/-- RTCP feedback sent to the sender. -/
inductive Feedback
  | keyFrameRequest
  | nack (pathid : Nat) (sequenceNumbers : List UInt16)
  deriving DecidableEq

/-- The NACK modules of `RtpVideoStreamReceiver2` and its feedback buffer. -/
structure VideoReceiver where
  nackModule : NackModule := {}
  nackModuleS : NackModule := {}
  requestKeyFrame : Bool := false
  nackSequenceNumbersP : List UInt16 := []
  nackSequenceNumbersS : List UInt16 := []

namespace VideoReceiver

variable (r : VideoReceiver)

/-- The NACK module that the test `pathid != 2` selects. -/
def nackModuleOf (pathid : Nat) : NackModule :=
  if pathid ≠ 2 then r.nackModule else r.nackModuleS

/-- `SendBufferedRtcpFeedback`: a key-frame request replaces pending NACKs. -/
def sendBufferedRtcpFeedback : VideoReceiver × List Feedback :=
  ({ r with requestKeyFrame := false, nackSequenceNumbersP := [], nackSequenceNumbersS := [] },
    if r.requestKeyFrame then [.keyFrameRequest]
    else
      (if r.nackSequenceNumbersP = [] then [] else [.nack 1 r.nackSequenceNumbersP]) ++
        (if r.nackSequenceNumbersS = [] then [] else [.nack 2 r.nackSequenceNumbersS]))

/-- Store the state of a NACK module and buffer what it asked for. -/
def updateModule (pathid : Nat) (result : NackModule × NackRequest) : VideoReceiver :=
  let requestKeyFrame := r.requestKeyFrame || result.2.keyFrame
  if pathid ≠ 2 then
    { r with
      nackModule := result.1
      requestKeyFrame := requestKeyFrame
      nackSequenceNumbersP := r.nackSequenceNumbersP ++ result.2.nackBatch }
  else
    { r with
      nackModuleS := result.1
      requestKeyFrame := requestKeyFrame
      nackSequenceNumbersS := r.nackSequenceNumbersS ++ result.2.nackBatch }

variable (cfg : StreamConfig)

/-- Tell the NACK module of the path in the header about a packet. -/
def notifyNack (now : Int) (r : VideoReceiver) (p : ReceivedPacket)
    (isKeyframe isRecovered : Bool) : VideoReceiver :=
  r.updateModule p.headerPath
    ((r.nackModuleOf p.headerPath).onReceivedPacket cfg.nack now p.headerSeqNum isKeyframe isRecovered)

/-- `NotifyReceiverOfEmptyPacket`. -/
def notifyReceiverOfEmptyPacket (now : Int) (r : VideoReceiver)
    (p : ReceivedPacket) : VideoReceiver :=
  r.notifyNack cfg now p false false

/-- `OnReceivedPayloadData`, up to the insertion into the packet buffer. -/
def onReceivedPayloadData (now : Int) (r : VideoReceiver) (p : ReceivedPacket)
    (answers : ParserAnswers) (parsed : ParsedPayload) : VideoReceiver × List Feedback :=
  if answers.dropsDescriptor p then (r, [])
  else
    let notified := r.notifyNack cfg now p (parsed.isFirstPacketInFrame && parsed.isKeyFrame)
      p.recovered
    if parsed.videoPayload = [] then
      (notified.notifyReceiverOfEmptyPacket cfg now p).sendBufferedRtcpFeedback
    else notified.sendBufferedRtcpFeedback

/-- `ReceivePacket` for a packet that is not encapsulated. -/
def receivePlain (now : Int) (r : VideoReceiver) (p : ReceivedPacket)
    (answers : ParserAnswers) : VideoReceiver × List Feedback :=
  if p.payload = [] then (r.notifyReceiverOfEmptyPacket cfg now p, [])
  else
    match cfg.depacketize p.payloadType p.payload with
    | none => (r, [])
    | some parsed => r.onReceivedPayloadData cfg now p answers parsed

/-- `AddReceivedRedPacket` and `ProcessReceivedFec`: what the ULPFEC receiver hands back
for a RED packet is the packet inside, unless that is a FEC packet, and then whatever is
recovered with it. A packet recovered by RTX is not passed to `DecodeFec`. -/
def ulpfecReceive (answers : ParserAnswers) (p : ReceivedPacket) : List ReceivedPacket :=
  match p.payload with
  | [] => []
  | header :: block =>
      if answers.exceedsIpPacketSize ∨ 128 ≤ header.toNat then []
      else
        (if header.toNat = cfg.ulpfecPayloadType then []
          else [{ p with payloadType := header.toNat, payload := block, recovered := false }]) ++
        if p.recovered then [] else answers.recoveredFec

/-- `OnRecoveredPacket`, for a packet that the ULPFEC receiver hands back: another
encapsulation is refused. What is sent is added to what has been sent so far. -/
def onRecoveredPacket (now : Int) (answers : ParserAnswers)
    (state : VideoReceiver × List Feedback) (p : ReceivedPacket) : VideoReceiver × List Feedback :=
  if p.payloadType = cfg.redPayloadType then state
  else
    let received := state.1.receivePlain cfg now p answers
    (received.1, state.2 ++ received.2)

/-- `ReceivePacket`. -/
def receivePacket (now : Int) (r : VideoReceiver) (p : ReceivedPacket)
    (answers : ParserAnswers) : VideoReceiver × List Feedback :=
  if p.payload ≠ [] ∧ p.payloadType = cfg.redPayloadType then
    let noticed :=
      if p.payload.head?.map (·.toNat) = some cfg.ulpfecPayloadType then
        r.notifyReceiverOfEmptyPacket cfg now p
      else r
    (ulpfecReceive cfg answers p).foldl (onRecoveredPacket cfg now answers) (noticed, [])
  else r.receivePlain cfg now p answers

/-- `RtpVideoStreamReceiver2::OnRtpPacket`: copies are dropped here. -/
def onRtpPacket (now : Int) (r : VideoReceiver) (p : ReceivedPacket)
    (answers : ParserAnswers) : VideoReceiver × List Feedback :=
  if p.payloadType ≠ kDupPayloadType then r.receivePacket cfg now p answers else (r, [])

end VideoReceiver

variable (cfg : StreamConfig)

/-- `RtxReceiveStream::OnRtpPacket`: the media packet inside an RTX packet. -/
def unpackRtx (p : ReceivedPacket) : Option ReceivedPacket :=
  if p.payloadType = kDupPayloadType then none
  else
    match p.payload, cfg.associatedPayloadTypes p.payloadType with
    | high :: low :: payload, some payloadType =>
        some { p with
          ssrc := cfg.mediaSsrc
          sequenceNumber := high.toUInt16 <<< 8 + low.toUInt16
          payloadType := payloadType
          payload := payload
          recovered := true }
    | _, _ => none

/-- The media packet in what arrives, by its SSRC. -/
def mediaOf (p : ReceivedPacket) : Option ReceivedPacket :=
  if p.ssrc = cfg.rtxSsrc then unpackRtx cfg p
  else if p.ssrc = cfg.mediaSsrc then some p
  else none

/-- `Call::DeliverRtp` for video: attribute the packet to a path and pass it to the
stream, through RTX where its SSRC says so. -/
def deliverRtp (now : Int) (r : VideoReceiver) (p : ReceivedPacket)
    (answers : ParserAnswers) : VideoReceiver × List Feedback :=
  match mediaOf cfg (resolvePath p) with
  | none => (r, [])
  | some media => r.onRtpPacket cfg now media answers

/-- What happens at the receiver: a packet arrives, the repeating task of a NACK module
runs, or a new round-trip time is known. -/
inductive ReceiverEvent
  | deliver (now : Int) (p : ReceivedPacket) (answers : ParserAnswers)
  | timer (now : Int) (pathid : Nat)
  | updateRtt (rttMs : Int)

/-- One event at the receiver. NACKs by timer are not buffered. -/
def receiverStep (r : VideoReceiver) : ReceiverEvent → VideoReceiver × List Feedback
  | .deliver now p answers => deliverRtp cfg now r p answers
  | .timer now pathid =>
      let result := (r.nackModuleOf pathid).onTimer cfg.nack now
      if result.2.nackBatch = [] then (r.updateModule pathid result, [])
      else (r.updateModule pathid result).sendBufferedRtcpFeedback
  | .updateRtt rttMs =>
      ({ r with
          nackModule := r.nackModule.updateRtt rttMs
          nackModuleS := r.nackModuleS.updateRtt rttMs }, [])

end MpWebRtc
