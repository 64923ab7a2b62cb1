import Mathlib.Data.List.Basic

/-!
# RTP packets with multipath labels

A packet carries its path twice: in the fields `subflowId` and `subflowSeq`, which
steer it inside the sender, and in the header extensions `sandy` (path id) and
`mpFlowSeqNum` (number on that path), which are what the receiver sees. Path ids are
1 and 2 for packets sent on the path they are numbered on, 3 for a packet numbered on
path 1 and retransmitted on path 2, and 4 for the converse.
-/

namespace MpWebRtc

/-- `RtpPacketMediaType`. -/
inductive RtpPacketMediaType
  | kAudio
  | kVideo
  | kRetransmission
  | kForwardErrorCorrection
  | kPadding
  | kDupPacket
  deriving DecidableEq

/-- The payload type given to copies that only keep the telemetry of a path alive. -/
def kDupPayloadType : Nat := 50

/-- `RtpPacketToSend`, as the multipath code reads and writes it. An extension is
`none` when the packet has no room reserved for it. -/
structure Packet where
  ssrc : Nat
  sequenceNumber : UInt16
  payloadType : Nat
  headersSize : Nat
  payload : List UInt8
  paddingSize : Nat := 0
  packetType : Option RtpPacketMediaType
  allowRetransmission : Bool := true
  isKeyFrame : Bool := false
  captureTimeMs : Int := 0
  subflowId : Nat := 0
  subflowSeq : UInt16 := 0
  retransmittedSequenceNumber : Option UInt16 := none
  sandy : Option Nat := none
  mpFlowSeqNum : Option UInt16 := none
  transportSequenceNumber : Option UInt16 := none
  mpTransportSequenceNumber : Option UInt16 := none
  deriving DecidableEq

namespace Packet

variable (p : Packet)

/-- `headers_size() + payload_size() + padding_size()`, which is also `size()`. -/
def size : Nat := p.headersSize + p.payload.length + p.paddingSize

/-- `SetExtension<sandy>`. Once the payload is in place an extension can only be
overwritten, so a packet without room for it stays as it is; the other setters behave
the same. -/
def setSandy (id : Nat) : Packet := { p with sandy := p.sandy.map fun _ => id }

/-- `SetExtension<MpFlowSeqNum>`. -/
def setMpFlowSeqNum (seq : UInt16) : Packet :=
  { p with mpFlowSeqNum := p.mpFlowSeqNum.map fun _ => seq }

/-- `SetExtension<TransportSequenceNumber>`. -/
def setTransportSequenceNumber (seq : UInt16) : Packet :=
  { p with transportSequenceNumber := p.transportSequenceNumber.map fun _ => seq }

/-- `SetExtension<MpTransportSequenceNumber>`. -/
def setMpTransportSequenceNumber (seq : UInt16) : Packet :=
  { p with mpTransportSequenceNumber := p.mpTransportSequenceNumber.map fun _ => seq }

/-- Write path `id` and number `seq` into the fields and into the extensions. -/
def label (id : Nat) (seq : UInt16) : Packet :=
  ({ p with subflowId := id, subflowSeq := seq }.setMpFlowSeqNum seq).setSandy id

/-- Room for both path extensions, as `AllocatePacket` reserves it when they are
negotiated. -/
def CarriesPath : Prop := p.sandy.isSome ∧ p.mpFlowSeqNum.isSome

variable (id : Nat) (seq : UInt16)

@[simp] theorem label_subflowId : (p.label id seq).subflowId = id := rfl

@[simp] theorem label_subflowSeq : (p.label id seq).subflowSeq = seq := rfl

@[simp] theorem label_sequenceNumber : (p.label id seq).sequenceNumber = p.sequenceNumber := rfl

@[simp] theorem label_payloadType : (p.label id seq).payloadType = p.payloadType := rfl

@[simp] theorem label_sandy : (p.label id seq).sandy = p.sandy.map fun _ => id := rfl

@[simp] theorem label_mpFlowSeqNum :
    (p.label id seq).mpFlowSeqNum = p.mpFlowSeqNum.map fun _ => seq := rfl

end Packet

variable (k : Nat)

/-- The number of a packet on path `k`, if it is labelled with that path. -/
def numberOn (p : Packet) : Option UInt16 :=
  if p.subflowId = k then some p.subflowSeq else none

/-- The numbers of the packets labelled with path `k`, in order. -/
def numbersOn (packets : List Packet) : List UInt16 := packets.filterMap (numberOn k)

@[simp] theorem numbersOn_nil : numbersOn k [] = [] := rfl

@[simp] theorem numbersOn_append (earlier later : List Packet) :
    numbersOn k (earlier ++ later) = numbersOn k earlier ++ numbersOn k later :=
  List.filterMap_append

theorem numberOn_label (k id : Nat) (p : Packet) (seq : UInt16) :
    numberOn k (p.label id seq) = if id = k then some seq else none := rfl

/-- A video packet of this RTP sequence number, as allocated for a multipath call. -/
def videoPacket (sequenceNumber : UInt16) : Packet where
  ssrc := 1
  sequenceNumber := sequenceNumber
  payloadType := 96
  headersSize := 40
  payload := [0, 0, 0]
  packetType := some .kVideo
  sandy := some 0
  mpFlowSeqNum := some 0
  transportSequenceNumber := some 0
  mpTransportSequenceNumber := some 0

end MpWebRtc
