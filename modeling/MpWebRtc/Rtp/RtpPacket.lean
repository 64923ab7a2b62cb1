import MpWebRtc.Math.Memory
import MpWebRtc.Rtcp.Packets

/-!
# The bytes of RTP packets

`RtpPacket` builds a packet in place, in a buffer of fixed capacity: the fixed header, the
contributing sources, the header extensions, the payload and the padding. Extensions are
appended one by one, with zeros up to the next multiple of four bytes, which the next
extension overwrites. Their headers have one byte as long as all ids and lengths are small;
the first extension that needs two makes all earlier ones move.

A write beyond the capacity has no meaning; the result of a function that does one is `none`.
-/

namespace MpWebRtc

open Math.Memory Math.Wire

def kFixedHeaderSize : Nat := 12
def kOneByteExtensionProfileId : Nat := 0xBEDE
def kTwoByteExtensionProfileId : Nat := 0x1000

/-- `RtpExtension::kOneByteHeaderExtensionMaxId`. -/
def kOneByteHeaderExtensionMaxId : UInt8 := 15

/-- `RtpExtension::kOneByteHeaderExtensionMaxValueSize`. -/
def kOneByteHeaderExtensionMaxValueSize : Nat := 16

/-- `kOneByteHeaderExtensionReservedId`, in the parser. -/
def kOneByteHeaderExtensionReservedId : UInt8 := 15

/-- `ExtensionInfo`. -/
structure ExtensionInfo where
  id : UInt8
  length : UInt8 := 0
  offset : UInt16 := 0
  deriving DecidableEq

/-- `RtpPacket`. The capacity is the length of the buffer. -/
structure RtpPacket where
  extmapAllowMixed : Bool := true
  marker : Bool := false
  payloadType : UInt8 := 0
  sequenceNumber : UInt16 := 0
  timestamp : UInt32 := 0
  ssrc : UInt32 := 0
  payloadOffset : Nat := kFixedHeaderSize
  payloadSize : Nat := 0
  paddingSize : UInt8 := 0
  extensionEntries : List ExtensionInfo := []
  extensionsSize : Nat := 0
  subflowId : UInt8 := 0
  subflowSeq : UInt16 := 0
  buffer : List UInt8
  deriving DecidableEq

/-- The number in two bytes. -/
def halfWordBytes (value : UInt16) : List UInt8 := writeBigEndian 2 value.toNat

variable (buffer : List UInt8)

/-- The byte at an index of the buffer. -/
def byteAt (index : Nat) : UInt8 := buffer.getD index 0

/-- The half word that starts at a byte of the buffer. -/
def readHalfWord (start : Nat) : UInt16 :=
  UInt16.ofNat (readBigEndian ((buffer.drop start).take 2))

namespace RtpPacket

variable (p : RtpPacket)

/-- `capacity()`. -/
def capacity : Nat := p.buffer.length

/-- `size()`. -/
def size : Nat := p.payloadOffset + p.payloadSize + p.paddingSize.toNat

/-- The bytes of the packet. -/
def bytes : List UInt8 := p.buffer.take p.size

/-- `payload()`. -/
def payload : List UInt8 := (p.buffer.drop p.payloadOffset).take p.payloadSize

/-- `Csrcs()`. -/
def csrcs : List UInt32 :=
  (List.range (byteAt p.buffer 0 &&& 0x0F).toNat).map fun i =>
    ReportBlock.readWord p.buffer (kFixedHeaderSize + 4 * i)

/-- The ids of the extensions with their values. -/
def extensionValues : List (UInt8 × List UInt8) :=
  p.extensionEntries.map fun entry =>
    (entry.id, (p.buffer.drop entry.offset.toNat).take entry.length.toNat)

section Building

variable (p : RtpPacket)

/-- `WriteAt`. -/
def write (offset : Nat) (values : List UInt8) : Option RtpPacket :=
  (writeAt p.buffer offset values).map fun buffer => { p with buffer }

/-- `RtpPacket(extensions, capacity)`, in memory with any content: `Clear`. -/
def initial (memory : List UInt8) : Option RtpPacket := do
  let p : RtpPacket := { buffer := memory }
  let p ← p.write 0 (List.replicate kFixedHeaderSize 0)
  p.write 0 [0x80]

/-- `SetMarker`. -/
def setMarker (marker : Bool) : Option RtpPacket :=
  { p with marker }.write 1
    [if marker then byteAt p.buffer 1 ||| 0x80 else byteAt p.buffer 1 &&& 0x7F]

/-- `SetPayloadType`. -/
def setPayloadType (payloadType : UInt8) : Option RtpPacket :=
  { p with payloadType }.write 1 [(byteAt p.buffer 1 &&& 0x80) ||| payloadType]

/-- `SetSequenceNumber`. -/
def setSequenceNumber (sequenceNumber : UInt16) : Option RtpPacket :=
  { p with sequenceNumber }.write 2 (halfWordBytes sequenceNumber)

/-- `SetTimestamp`. -/
def setTimestamp (timestamp : UInt32) : Option RtpPacket :=
  { p with timestamp }.write 4 (wordBytes timestamp)

/-- `SetSsrc`. -/
def setSsrc (ssrc : UInt32) : Option RtpPacket :=
  { p with ssrc }.write 8 (wordBytes ssrc)

/-- `SetCsrcs`. -/
def setCsrcs (csrcs : List UInt32) : Option RtpPacket := do
  let p := { p with payloadOffset := kFixedHeaderSize + 4 * csrcs.length }
  let p ← p.write 0 [(byteAt p.buffer 0 &&& 0xF0) ||| UInt8.ofNat csrcs.length]
  p.write kFixedHeaderSize (csrcs.flatMap wordBytes)

/-- `FindExtensionInfo`. -/
def findExtensionInfo (id : UInt8) : Option ExtensionInfo :=
  p.extensionEntries.find? fun entry => entry.id = id

/-- `SetExtensionLengthMaybeAddZeroPadding`, with the new payload offset. -/
def setExtensionLengthMaybeAddZeroPadding (extensionsOffset : Nat) : Option RtpPacket := do
  let extensionsWords := UInt16.ofNat ((p.extensionsSize + 3) / 4)
  let p ← p.write (extensionsOffset - 2) (halfWordBytes extensionsWords)
  let extensionPaddingSize := 4 * extensionsWords.toNat - p.extensionsSize
  let p ← p.write (extensionsOffset + p.extensionsSize) (List.replicate extensionPaddingSize 0)
  some { p with payloadOffset := extensionsOffset + (4 * extensionsWords.toNat) % 65536 }

/-- The loop of `PromoteToTwoByteHeaderExtension`, from the last entry to the first. -/
def promoteEntries : List ExtensionInfo → (writeReadDelta : Nat) → List UInt8 →
    Option (List ExtensionInfo × List UInt8)
  | [], _, memory => some ([], memory)
  | entry :: earlier, writeReadDelta, memory => do
      let readIndex := entry.offset.toNat
      let writeIndex := readIndex + writeReadDelta
      let memory ← writeAt memory writeIndex ((memory.drop readIndex).take entry.length.toNat)
      let memory ← writeAt memory (writeIndex - 1) [entry.length]
      let memory ← writeAt memory (writeIndex - 2) [entry.id]
      let (moved, memory) ← promoteEntries earlier (writeReadDelta - 1) memory
      some ({ entry with offset := UInt16.ofNat writeIndex } :: moved, memory)

/-- `PromoteToTwoByteHeaderExtension`. -/
def promoteToTwoByteHeaderExtension (extensionsOffset : Nat) : Option RtpPacket := do
  let (moved, buffer) ← promoteEntries p.extensionEntries.reverse p.extensionEntries.length p.buffer
  let p := { p with extensionEntries := moved.reverse, buffer }
  let p ← p.write (extensionsOffset - 4) (halfWordBytes (UInt16.ofNat kTwoByteExtensionProfileId))
  { p with
    extensionsSize := p.extensionsSize + p.extensionEntries.length
    }.setExtensionLengthMaybeAddZeroPadding extensionsOffset

/-- The first extension sets the extension bit and the profile. -/
def openExtensions (extensionsOffset profileId : Nat) : Option RtpPacket :=
  if p.extensionsSize = 0 then do
    let p ← p.write 0 [byteAt p.buffer 0 ||| 0x10]
    p.write (extensionsOffset - 4) (halfWordBytes (UInt16.ofNat profileId))
  else some p

/-- The header of an extension. -/
def extensionHeader (profileId : Nat) (id : UInt8) (length : Nat) : List UInt8 :=
  if profileId = kOneByteExtensionProfileId then [(id <<< 4) ||| UInt8.ofNat (length - 1)]
  else [id, UInt8.ofNat length]

/-- The entry of an extension whose header is written, and the new size of all. -/
def listExtension (extensionsOffset extensionHeaderSize : Nat) (id : UInt8)
    (length : Nat) : RtpPacket :=
  let entry : ExtensionInfo :=
    { id
      length := UInt8.ofNat length
      offset := UInt16.ofNat (extensionsOffset + p.extensionsSize + extensionHeaderSize) }
  { p with
    extensionEntries := p.extensionEntries ++ [entry]
    extensionsSize := p.extensionsSize + extensionHeaderSize + length }

/-- The second half of `AllocateRawExtension`: append the extension, if it fits. The check
is on the size without the zeros that follow. -/
def appendExtension (extensionsOffset profileId : Nat) (id : UInt8)
    (length : Nat) : Option (RtpPacket × Option Nat) :=
  let extensionHeaderSize := if profileId = kOneByteExtensionProfileId then 1 else 2
  let newExtensionsSize := p.extensionsSize + extensionHeaderSize + length
  let offset := UInt16.ofNat (extensionsOffset + p.extensionsSize + extensionHeaderSize)
  if extensionsOffset + newExtensionsSize > p.capacity then some (p, none)
  else do
    let p ← p.openExtensions extensionsOffset profileId
    let p ← p.write (extensionsOffset + p.extensionsSize) (extensionHeader profileId id length)
    let p ← (p.listExtension extensionsOffset extensionHeaderSize id
      length).setExtensionLengthMaybeAddZeroPadding extensionsOffset
    some (p, some offset.toNat)

/-- An extension needs a header of two bytes. -/
def twoByteHeaderRequired (id : UInt8) (length : Nat) : Bool :=
  decide (kOneByteHeaderExtensionMaxId < id) ||
    decide (kOneByteHeaderExtensionMaxValueSize < length) || decide (length = 0)

/-- `AllocateRawExtension`, with the offset of the place for the value. -/
def allocateRawExtension (id : UInt8) (length : Nat) : Option (RtpPacket × Option Nat) :=
  match p.findExtensionInfo id with
  | some entry => some (p, if entry.length.toNat = length then some entry.offset.toNat else none)
  | none =>
      if 0 < p.payloadSize ∨ 0 < p.paddingSize.toNat then some (p, none)
      else
        let numCsrc := (byteAt p.buffer 0 &&& 0x0F).toNat
        let extensionsOffset := kFixedHeaderSize + numCsrc * 4 + 4
        let required := twoByteHeaderRequired id length
        -- `RTC_CHECK`
        if required ∧ ¬p.extmapAllowMixed then none
        else if 0 < p.extensionsSize then
          let profileId := (readHalfWord p.buffer (extensionsOffset - 4)).toNat
          if profileId = kOneByteExtensionProfileId ∧ required then
            if extensionsOffset + (p.extensionsSize + p.extensionEntries.length + 2 + length) >
                p.capacity then some (p, none)
            else do
              let p ← p.promoteToTwoByteHeaderExtension extensionsOffset
              p.appendExtension extensionsOffset kTwoByteExtensionProfileId id length
          else p.appendExtension extensionsOffset profileId id length
        else
          p.appendExtension extensionsOffset
            (if required then kTwoByteExtensionProfileId else kOneByteExtensionProfileId) id length

/-- An extension is allocated and its value written, if there is a place for it. -/
def setRawExtension (id : UInt8) (value : List UInt8) : Option RtpPacket := do
  let (p, place) ← p.allocateRawExtension id value.length
  match place with
  | none => some p
  | some offset => p.write offset value

/-- `AllocatePayload`, and the payload is written there if it fits. -/
def setPayload (payload : List UInt8) : Option RtpPacket :=
  if p.payloadOffset + payload.length > p.capacity then some { p with payloadSize := 0 }
  else { p with payloadSize := payload.length }.write p.payloadOffset payload

/-- `SetPadding`. -/
def setPadding (paddingBytes : Nat) : Option RtpPacket :=
  if p.payloadOffset + p.payloadSize + paddingBytes > p.capacity then some p
  else
    let p := { p with paddingSize := UInt8.ofNat paddingBytes }
    if 0 < p.paddingSize.toNat then do
      let paddingOffset := p.payloadOffset + p.payloadSize
      let paddingEnd := paddingOffset + p.paddingSize.toNat
      let p ← p.write paddingOffset (List.replicate (p.paddingSize.toNat - 1) 0)
      let p ← p.write (paddingEnd - 1) [p.paddingSize]
      p.write 0 [byteAt p.buffer 0 ||| 0x20]
    else p.write 0 [byteAt p.buffer 0 &&& 0xDF]

end Building

section Parsing

/-- What the loop over the extensions has found so far. -/
structure FoundExtensions where
  extensionsSize : Nat := 0
  extensionEntries : List ExtensionInfo := []
  subflowId : UInt8 := 0
  subflowSeq : UInt16 := 0

/-- `FindOrCreateExtensionInfo`, and the entry is changed. -/
def changeExtensionInfo (entries : List ExtensionInfo) (id : UInt8)
    (change : ExtensionInfo → ExtensionInfo) : List ExtensionInfo :=
  match entries with
  | [] => [change { id }]
  | entry :: entries =>
      if entry.id = id then change entry :: entries
      else entry :: changeExtensionInfo entries id change

/-- A round of the loop over the extensions: whether it goes on, and what was found. The
path and its number are taken from the byte after the first header byte. -/
def parseExtension (bytes : List UInt8) (extensionOffset extensionsCapacity : Nat)
    (oneByte : Bool) (found : FoundExtensions) : Bool × FoundExtensions :=
  let start := extensionOffset + found.extensionsSize
  let first := byteAt bytes start
  if first = 0 then (true, { found with extensionsSize := found.extensionsSize + 1 })
  else
    let headerLength := if oneByte then 1 else 2
    let id := if oneByte then first >>> 4 else first
    let length := if oneByte then 1 + (first &&& 0xF) else byteAt bytes (start + 1)
    if oneByte ∧ (id = kOneByteHeaderExtensionReservedId ∨ id = 0 ∧ length ≠ 1) then
      (false, found)
    else if found.extensionsSize + headerLength + length.toNat > extensionsCapacity then
      (false, found)
    else
      let offset := start + headerLength
      if 65535 < offset then
        (false,
          { found with extensionEntries := changeExtensionInfo found.extensionEntries id fun e => e })
      else
        (true,
          { extensionsSize := found.extensionsSize + (headerLength + length.toNat)
            extensionEntries := changeExtensionInfo found.extensionEntries id fun entry =>
              { entry with offset := UInt16.ofNat offset, length }
            subflowId := if id = 3 then byteAt bytes (start + 1) else found.subflowId
            subflowSeq := if id = 4 then readHalfWord bytes (start + 1) else found.subflowSeq })

/-- The loop over the extensions. Every round that goes on advances, so the capacity bounds
the number of rounds. -/
def parseExtensions (bytes : List UInt8) (extensionOffset extensionsCapacity : Nat)
    (oneByte : Bool) : (fuel : Nat) → FoundExtensions → FoundExtensions
  | 0, found => found
  | fuel + 1, found =>
      if found.extensionsSize + (if oneByte then 1 else 2) < extensionsCapacity then
        match parseExtension bytes extensionOffset extensionsCapacity oneByte found with
        | (true, found) =>
            parseExtensions bytes extensionOffset extensionsCapacity oneByte fuel found
        | (false, found) => found
      else found

/-- The end of `ParseBuffer`: the payload is what is left without the padding. -/
def parsePayload (p : RtpPacket) : Option RtpPacket :=
  if p.payloadOffset + p.paddingSize.toNat > p.buffer.length then none
  else some { p with payloadSize := p.buffer.length - p.payloadOffset - p.paddingSize.toNat }

/-- `Parse`. -/
def parse (bytes : List UInt8) : Option RtpPacket :=
  let first := byteAt bytes 0
  let second := byteAt bytes 1
  if bytes.length < kFixedHeaderSize then none
  else if first >>> 6 ≠ 2 then none
  else
    let payloadOffset := kFixedHeaderSize + (first &&& 0x0F).toNat * 4
    if bytes.length < payloadOffset then none
    else
      let paddingSize := if first &&& 0x20 ≠ 0 then byteAt bytes (bytes.length - 1) else 0
      if first &&& 0x20 ≠ 0 ∧ paddingSize = 0 then none
      else
        let p : RtpPacket :=
          { marker := decide (second &&& 0x80 ≠ 0)
            payloadType := second &&& 0x7F
            sequenceNumber := readHalfWord bytes 2
            timestamp := ReportBlock.readWord bytes 4
            ssrc := ReportBlock.readWord bytes 8
            payloadOffset
            paddingSize
            buffer := bytes }
        if first &&& 0x10 = 0 then p.parsePayload
        else
          let extensionOffset := payloadOffset + 4
          if extensionOffset > bytes.length then none
          else
            let profile := (readHalfWord bytes payloadOffset).toNat
            let extensionsCapacity := (readHalfWord bytes (payloadOffset + 2)).toNat * 4
            if extensionOffset + extensionsCapacity > bytes.length then none
            else
              let found :=
                if profile = kOneByteExtensionProfileId ∨ profile = kTwoByteExtensionProfileId then
                  parseExtensions bytes extensionOffset extensionsCapacity
                    (profile = kOneByteExtensionProfileId) extensionsCapacity {}
                else {}
              { p with
                extensionsSize := found.extensionsSize
                extensionEntries := found.extensionEntries
                subflowId := found.subflowId
                subflowSeq := found.subflowSeq
                payloadOffset := extensionOffset + extensionsCapacity }.parsePayload

end Parsing

end RtpPacket

end MpWebRtc
