import MpWebRtc.Rtp.RtpPacket

/-!
# Retransmission in packets of their own

`BuildRtxPacket` puts a stored media packet into a packet of the retransmission stream: the
header with another payload type, number and source, the extensions one by one, and the
payload after the number of the media packet. `RtxReceiveStream` takes it out again.

Where the source gets memory with any content, the content is an argument.
-/

namespace MpWebRtc

/-- `RTPExtensionType`, in its order. -/
inductive RtpExtensionType where
  | transmissionTimeOffset
  | audioLevel
  | inbandComfortNoise
  | absoluteSendTime
  | sandy
  | mpFlowSeqNum
  | mpTransportSequenceNumber
  | absoluteCaptureTime
  | videoRotation
  | transportSequenceNumber
  | transportSequenceNumber02
  | playoutDelay
  | videoContentType
  | videoTiming
  | rtpStreamId
  | repairedRtpStreamId
  | mid
  | genericFrameDescriptor00
  | genericFrameDescriptor02
  | colorSpace
  deriving DecidableEq

/-- `RtpHeaderExtensionMap`. The id of a type that is not registered is 0. -/
structure RtpHeaderExtensionMap where
  ids : RtpExtensionType → UInt8
  extmapAllowMixed : Bool

def kInvalidId : UInt8 := 0

/-- `RtpExtension::kMaxValueSize`. -/
def kMaxValueSize : Nat := 255

/-- `BaseRtpStringExtension::kMaxValueSizeBytes`. -/
def kMaxValueSizeBytes : Nat := 16

def kRtxHeaderSize : Nat := 2

namespace RtpPacket

variable (p : RtpPacket)

/-- The value of the extension with an id. -/
def valueOf (id : UInt8) : Option (List UInt8) :=
  (p.findExtensionInfo id).map fun entry =>
    (p.buffer.drop entry.offset.toNat).take entry.length.toNat

/-- `HasExtension` and `FindExtension`. -/
def findExtension (extensions : RtpHeaderExtensionMap) (type : RtpExtensionType) :
    Option (List UInt8) :=
  if extensions.ids type = kInvalidId then none else p.valueOf (extensions.ids type)

/-- `AllocateExtension`, with the offset of the place for the value. -/
def allocateExtension (extensions : RtpHeaderExtensionMap)
    (type : RtpExtensionType) (length : Nat) : Option (RtpPacket × Option Nat) :=
  if length = 0 ∨ length > kMaxValueSize ∨
      (!p.extmapAllowMixed) = true ∧ length > kOneByteHeaderExtensionMaxValueSize then
    some (p, none)
  else if extensions.ids type = kInvalidId then some (p, none)
  else if (!p.extmapAllowMixed) = true ∧ extensions.ids type > kOneByteHeaderExtensionMaxId then
    some (p, none)
  else p.allocateRawExtension (extensions.ids type) length

/-- An extension is allocated, and its value is written there unless `writable` is false.
With the packet comes whether it was written. -/
def setAllocated (extensions : RtpHeaderExtensionMap) (type : RtpExtensionType)
    (value : List UInt8) (writable : Bool) : Option (RtpPacket × Bool) := do
  let (p, place) ← p.allocateExtension extensions type value.length
  match place with
  | none => some (p, false)
  | some offset => if writable then (p.write offset value).map fun p => (p, true) else some (p, false)

/-- `SetExtension`. -/
def setExtension (extensions : RtpHeaderExtensionMap) (type : RtpExtensionType)
    (value : List UInt8) : Option (RtpPacket × Bool) :=
  p.setAllocated extensions type value true

/-- `SetExtension` of an extension that is a text. One that is too long is not written. -/
def setStringExtension (extensions : RtpHeaderExtensionMap)
    (type : RtpExtensionType) (text : List UInt8) : Option (RtpPacket × Bool) :=
  p.setAllocated extensions type text (text.length ≤ kMaxValueSizeBytes)

end RtpPacket

/-- The extensions that are copied, in their order: all but those for the ids of the stream. -/
def copiedExtensions : List RtpExtensionType :=
  [.transmissionTimeOffset, .audioLevel, .inbandComfortNoise, .absoluteSendTime, .sandy,
    .mpFlowSeqNum, .mpTransportSequenceNumber, .absoluteCaptureTime, .videoRotation,
    .transportSequenceNumber, .transportSequenceNumber02, .playoutDelay, .videoContentType,
    .videoTiming, .repairedRtpStreamId, .genericFrameDescriptor00, .genericFrameDescriptor02,
    .colorSpace]

/-- What `RTPSender` has of the retransmission stream. -/
structure RtxSender where
  sendingMedia : Bool
  rtxPayloadTypeMap : UInt8 → Option UInt8
  rtpHeaderExtensionMap : RtpHeaderExtensionMap
  rtxSsrc : UInt32
  sequenceNumberRtx : UInt16
  alwaysSendMidAndRid : Bool
  rtxSsrcHasAcked : Bool
  mid : List UInt8
  rid : List UInt8

namespace RtxSender

variable (sender : RtxSender)

/-- The body of the loop of `CopyHeaderAndExtensionsToRtxPacket`. -/
def copyExtension (extensions : RtpHeaderExtensionMap) (packet rtxPacket : RtpPacket)
    (type : RtpExtensionType) : Option RtpPacket :=
  match packet.findExtension extensions type with
  | none => some rtxPacket
  | some source =>
      (rtxPacket.setAllocated sender.rtpHeaderExtensionMap type source true).map Prod.fst

/-- `CopyHeaderAndExtensionsToRtxPacket`. -/
def copyHeaderAndExtensionsToRtxPacket (extensions : RtpHeaderExtensionMap)
    (packet rtxPacket : RtpPacket) : Option RtpPacket := do
  let rtxPacket ← rtxPacket.setMarker packet.marker
  let rtxPacket ← rtxPacket.setTimestamp packet.timestamp
  let rtxPacket ← rtxPacket.setCsrcs packet.csrcs
  copiedExtensions.foldlM (sender.copyExtension extensions packet) rtxPacket

/-- An id of the stream, if there is one. -/
def setStreamId (type : RtpExtensionType) (text : List UInt8) (rtxPacket : RtpPacket) :
    Option RtpPacket :=
  if text = [] then some rtxPacket
  else (rtxPacket.setStringExtension sender.rtpHeaderExtensionMap type text).map Prod.fst

/-- The ids of the stream, until it is acknowledged. -/
def setStreamIds (rtxPacket : RtpPacket) : Option RtpPacket :=
  if sender.alwaysSendMidAndRid ∨ ¬sender.rtxSsrcHasAcked then do
    let rtxPacket ← sender.setStreamId .mid sender.mid rtxPacket
    sender.setStreamId .repairedRtpStreamId sender.rid rtxPacket
  else some rtxPacket

/-- The headers of the packet, which is built in memory of `max_packet_size_`. -/
def rtxHeaders (memory : List UInt8) (rtxPayloadType : UInt8)
    (extensions : RtpHeaderExtensionMap) (packet : RtpPacket) : Option RtpPacket := do
  let rtxPacket ← RtpPacket.initial memory
  let rtxPacket :=
    { rtxPacket with extmapAllowMixed := sender.rtpHeaderExtensionMap.extmapAllowMixed }
  let rtxPacket ← rtxPacket.setPayloadType rtxPayloadType
  let rtxPacket ← rtxPacket.setSequenceNumber sender.sequenceNumberRtx
  let rtxPacket ← rtxPacket.setSsrc sender.rtxSsrc
  let rtxPacket ← sender.copyHeaderAndExtensionsToRtxPacket extensions packet rtxPacket
  sender.setStreamIds rtxPacket

/-- The payload of the packet, if it fits. -/
def addPayload (packet rtxPacket : RtpPacket) : Option (Option RtpPacket) :=
  if rtxPacket.payloadOffset + (packet.payload.length + kRtxHeaderSize) > rtxPacket.capacity then
    some none
  else (rtxPacket.setPayload (halfWordBytes packet.sequenceNumber ++ packet.payload)).map some

/-- `BuildRtxPacket`, of a packet whose extensions are registered in `extensions`. -/
def buildRtxPacket (memory : List UInt8) (extensions : RtpHeaderExtensionMap)
    (packet : RtpPacket) : Option (Option RtpPacket) :=
  if ¬sender.sendingMedia then some none
  else
    match sender.rtxPayloadTypeMap packet.payloadType with
    | none => some none
    | some rtxPayloadType => do
        let rtxPacket ← sender.rtxHeaders memory rtxPayloadType extensions packet
        addPayload packet rtxPacket

/-- What `ReSendPacketPrimary` and `ReSendPacketSecondary` set in the packet, and whether the
number and the path id were set. -/
def resend (subflowSeq : UInt16) (pathid : UInt8) (rtxPacket : RtpPacket) :
    Option (RtpPacket × Bool × Bool) := do
  let (rtxPacket, numbered) ← rtxPacket.setExtension sender.rtpHeaderExtensionMap .mpFlowSeqNum
    (halfWordBytes subflowSeq)
  let (rtxPacket, placed) ← rtxPacket.setExtension sender.rtpHeaderExtensionMap .sandy [pathid]
  some (rtxPacket, numbered, placed)

end RtxSender

/-- `RtxReceiveStream`. -/
structure RtxReceiveStream where
  associatedPayloadTypes : UInt8 → Option UInt8
  mediaSsrc : UInt32

namespace RtxReceiveStream

/-- `CopyHeaderFrom`, to a new packet. Behind the headers, the buffer has any content. -/
def copyHeaderFrom (packet : RtpPacket) (spare : List UInt8) : RtpPacket where
  extmapAllowMixed := packet.extmapAllowMixed
  marker := packet.marker
  payloadType := packet.payloadType
  sequenceNumber := packet.sequenceNumber
  timestamp := packet.timestamp
  ssrc := packet.ssrc
  payloadOffset := packet.payloadOffset
  extensionEntries := packet.extensionEntries
  extensionsSize := packet.extensionsSize
  buffer := packet.buffer.take packet.payloadOffset ++ spare

/-- The media packet of a retransmission. -/
def mediaPacket (stream : RtxReceiveStream) (spare : List UInt8) (payloadType : UInt8)
    (rtxPacket : RtpPacket) : Option RtpPacket := do
  let mediaPacket := copyHeaderFrom rtxPacket spare
  let mediaPacket ← mediaPacket.setSsrc stream.mediaSsrc
  let mediaPacket ← mediaPacket.setSequenceNumber (readHalfWord rtxPacket.payload 0)
  let mediaPacket ← mediaPacket.setPayloadType payloadType
  let rtxPayload := rtxPacket.payload.drop kRtxHeaderSize
  -- `RTC_DCHECK`
  if mediaPacket.payloadOffset + rtxPayload.length > mediaPacket.capacity then none
  else mediaPacket.setPayload rtxPayload

/-- `OnRtpPacket`, with what is handed to the media sink. -/
def onRtpPacket (stream : RtxReceiveStream) (spare : List UInt8) (rtxPacket : RtpPacket) :
    Option (Option RtpPacket) :=
  if rtxPacket.payloadType = 50 then some none
  else if rtxPacket.payload.length < kRtxHeaderSize then some none
  else
    match stream.associatedPayloadTypes rtxPacket.payloadType with
    | none => some none
    | some payloadType => (stream.mediaPacket spare payloadType rtxPacket).map some

end RtxReceiveStream

end MpWebRtc
