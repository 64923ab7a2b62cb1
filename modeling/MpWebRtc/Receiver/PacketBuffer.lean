import MpWebRtc.Math.SlotTable
import MpWebRtc.Receiver.Nack

/-!
# The packet buffer

`PacketBuffer` keeps video packets in a ring of slots, at their number modulo the size of
the ring, until all packets of a frame have arrived. A packet is marked continuous when
everything before it in its frame has arrived; the arrival of the last packet then starts a
search backwards for the first one, and the packets in between are handed out.

The search for the first packet of an H.264 frame does not look for a flag, but goes back
as long as the neighbouring slot holds a packet of the same timestamp.

Operations that dereference a slot have no result when the slot is empty.
-/

namespace MpWebRtc.VideoCoding

open Math.Serial

inductive VideoCodecType
  | kVideoCodecGeneric
  | kVideoCodecVP8
  | kVideoCodecVP9
  | kVideoCodecAV1
  | kVideoCodecH264
  | kVideoCodecMultiplex
  deriving DecidableEq

inductive VideoFrameType
  | kEmptyFrame
  | kVideoFrameKey
  | kVideoFrameDelta
  deriving DecidableEq

def kMaxNalusPerPacket : Nat := 10
def kIdr : UInt8 := 5
def kSps : UInt8 := 7
def kPps : UInt8 := 8
def kMaxPaddingAge : UInt16 := 1000

/-- `PacketBuffer::Packet`. A packet with an H.264 header has a list of NALU types. -/
structure PacketBuffer.Packet where
  seqNum : UInt16
  timestamp : UInt32
  codec : VideoCodecType
  isFirstPacketInFrame : Bool
  isLastPacketInFrame : Bool
  frameType : VideoFrameType := .kVideoFrameDelta
  width : UInt16 := 0
  height : UInt16 := 0
  nalus : Option (List UInt8) := none
  videoPayload : List UInt8 := []
  continuous : Bool := false

/-- The state of `PacketBuffer`. -/
structure PacketBuffer where
  maxSize : Nat
  size : Nat
  spsPpsIdrIsH264Keyframe : Bool
  buffer : Nat → Option PacketBuffer.Packet := fun _ => none
  firstSeqNum : UInt16 := 0
  firstPacketReceived : Bool := false
  isClearedToFirstSeqNum : Bool := false
  lastReceivedPacketMs : Option Int := none
  lastReceivedKeyframePacketMs : Option Int := none
  lastReceivedKeyframeRtpTimestamp : Option UInt32 := none
  newestInsertedSeqNum : Option UInt16 := none
  missingPackets : List UInt16 := []
  seqNums : SeqNumSet := {}

/-- `PacketBuffer::InsertResult`. -/
structure InsertResult where
  packets : List PacketBuffer.Packet := []
  bufferCleared : Bool := false

namespace PacketBuffer

variable (b : PacketBuffer)

/-- The slot of a number. -/
def indexOf (seqNum : UInt16) : Nat := seqNum.toNat % b.size

/-- The slot before a slot. -/
def prevIndex (index : Nat) : Nat :=
  if index > 0 then index - 1 else b.size - 1

/-- Write a slot. -/
def setSlot (index : Nat) (entry : Option Packet) : PacketBuffer :=
  { b with buffer := Function.update b.buffer index entry }

section Missing

variable (b : PacketBuffer)

/-- `UpdateMissingPackets`. The loop over the numbers after the newest one is guarded, so
that it goes through at most `kMaxPaddingAge` of them. -/
def updateMissingPackets (seqNum : UInt16) : PacketBuffer :=
  let newest := b.newestInsertedSeqNum.getD seqNum
  if aheadOf seqNum newest then
    let oldSeqNum := seqNum - kMaxPaddingAge
    let newest := if aheadOf oldSeqNum newest then oldSeqNum else newest
    { b with
      missingPackets := (NackModule.seqNumsBetween (newest + 1) seqNum).foldl
        (fun missing seq => b.seqNums.insert seq missing)
        (b.seqNums.eraseOlder oldSeqNum b.missingPackets)
      newestInsertedSeqNum := some seqNum }
  else
    { b with
      missingPackets :=
        if b.seqNums.find seqNum b.missingPackets then b.missingPackets.erase seqNum
        else b.missingPackets
      newestInsertedSeqNum := some newest }

/-- Is `upper_bound(seqNum)` past the beginning of the missing packets? -/
def missingUpTo (seqNum : UInt16) : Bool :=
  decide (0 < (b.seqNums.upperBound seqNum b.missingPackets).val)

/-- Remove the missing packets before `upper_bound(seqNum)`. -/
def eraseMissingUpTo (seqNum : UInt16) : PacketBuffer :=
  { b with
    missingPackets := b.missingPackets.drop (b.seqNums.upperBound seqNum b.missingPackets) }

/-- Remove the missing packets before `upper_bound(seqNum)`, but keep the last of them. -/
def eraseMissingBefore (seqNum : UInt16) : PacketBuffer :=
  { b with
    missingPackets :=
      b.missingPackets.drop ((b.seqNums.upperBound seqNum b.missingPackets).val - 1) }

end Missing

section Search

/-- `PotentialNewFrame`. -/
def potentialNewFrame (b : PacketBuffer) (seqNum : UInt16) : Bool :=
  match b.buffer (b.indexOf seqNum) with
  | none => false
  | some entry =>
      if entry.seqNum ≠ seqNum then false
      else if entry.isFirstPacketInFrame then true
      else
        match b.buffer (b.prevIndex (b.indexOf seqNum)) with
        | none => false
        | some prev =>
            if prev.seqNum ≠ entry.seqNum - 1 then false
            else if prev.timestamp ≠ entry.timestamp then false
            else prev.continuous

/-- The local variables of the search for the first packet of a frame. -/
structure FrameSearch where
  startSeqNum : UInt16
  startIndex : Nat
  hasSps : Bool := false
  hasPps : Bool := false
  hasIdr : Bool := false
  isKeyframe : Bool := false
  idrResolution : Option (UInt16 × UInt16) := none

variable (search : FrameSearch)

/-- Take note of the NALUs of a packet, which must have an H.264 header that is not full. -/
def FrameSearch.readNalus (spsPpsIdrIsH264Keyframe : Bool) (entry : Packet) : Option FrameSearch :=
  match entry.nalus with
  | none => none
  | some nalus =>
      if nalus.length ≥ kMaxNalusPerPacket then none
      else
        let hasSps := search.hasSps || decide (kSps ∈ nalus)
        let hasPps := search.hasPps || decide (kPps ∈ nalus)
        let hasIdr := search.hasIdr || decide (kIdr ∈ nalus)
        let key := hasIdr && (!spsPpsIdrIsH264Keyframe || hasSps && hasPps)
        some { search with
          hasSps := hasSps
          hasPps := hasPps
          hasIdr := hasIdr
          isKeyframe := search.isKeyframe || key
          idrResolution :=
            if key ∧ entry.width > 0 ∧ entry.height > 0 then some (entry.width, entry.height)
            else search.idrResolution }

/-- What a search notes about a packet it has come to. -/
def FrameSearch.note (b : PacketBuffer) (isH264 : Bool) (entry : Packet) : Option FrameSearch :=
  if isH264 then search.readNalus b.spsPpsIdrIsH264Keyframe entry else some search

/-- Go back one slot. -/
def FrameSearch.back (b : PacketBuffer) : FrameSearch :=
  { search with
    startIndex := b.prevIndex search.startIndex
    startSeqNum := search.startSeqNum - 1 }

/-- An H.264 frame ends before an empty slot or a packet of another timestamp. -/
def frameEnds (b : PacketBuffer) (timestamp : UInt32) (index : Nat) : Bool :=
  match b.buffer index with
  | none => true
  | some entry => entry.timestamp != timestamp

/-- The search backwards for the first packet, with the number of slots that may still be
tested. There is no frame if the note of a packet fails. -/
def searchFrameStart (b : PacketBuffer) (isH264 : Bool) (timestamp : UInt32) :
    Nat → FrameSearch → Option (Option FrameSearch)
  | 0, search => some (some search)
  | remaining + 1, search =>
      match b.buffer search.startIndex with
      | none => none
      | some entry =>
          if !isH264 && entry.isFirstPacketInFrame then some (some search)
          else
            match search.note b isH264 entry with
            | none => some none
            | some search =>
                if remaining = 0 then some (some search)
                else if isH264 && b.frameEnds timestamp (b.prevIndex search.startIndex) then
                  some (some search)
                else searchFrameStart b isH264 timestamp remaining (search.back b)

end Search

section Frames

variable (b : PacketBuffer)

/-- Write the frame type and the resolution that were found into the first packet of an
H.264 frame. -/
def labelFirst (search : FrameSearch) : Option PacketBuffer :=
  match b.buffer (b.indexOf search.startSeqNum) with
  | none => none
  | some first =>
      let resolution := search.idrResolution.getD (first.width, first.height)
      let first :=
        if search.isKeyframe then
          { first with
            frameType := .kVideoFrameKey
            width := resolution.1
            height := resolution.2 }
        else { first with frameType := .kVideoFrameDelta }
      some (b.setSlot (b.indexOf search.startSeqNum) (some first))

/-- Move packets out of the buffer, with the flags of a frame from `start` to `last`. -/
def takePackets (start last : UInt16) :
    PacketBuffer → List UInt16 → Option (PacketBuffer × List Packet)
  | b, [] => some (b, [])
  | b, seq :: rest =>
      match b.buffer (b.indexOf seq) with
      | none => none
      | some packet =>
          (takePackets start last (b.setSlot (b.indexOf seq) none) rest).map fun taken =>
            (taken.1, { packet with
              isFirstPacketInFrame := decide (seq = start)
              isLastPacketInFrame := decide (seq = last) } :: taken.2)

/-- Hand out the frame from `start` to `last`. -/
def takeFrame (start last : UInt16) : Option (PacketBuffer × List Packet) :=
  (takePackets start last b (NackModule.seqNumsBetween start (last + 1))).map fun taken =>
    (taken.1.eraseMissingUpTo last, taken.2)

/-- What to do with the outcome of a search: `none` in place of a frame ends `FindFrames`. -/
def finishFrame (isH264 : Bool) (last : UInt16) :
    Option FrameSearch → Option (PacketBuffer × Option (List Packet))
  | none => some (b, none)
  | some search =>
      if isH264 then
        match b.labelFirst search with
        | none => none
        | some b =>
            if !search.isKeyframe && b.missingUpTo search.startSeqNum then some (b, none)
            else (b.takeFrame search.startSeqNum last).map fun taken => (taken.1, some taken.2)
      else (b.takeFrame search.startSeqNum last).map fun taken => (taken.1, some taken.2)

/-- The frame that ends with the packet `entry` at `seqNum`. -/
def closeFrame (seqNum : UInt16) (entry : Packet) : Option (PacketBuffer × Option (List Packet)) :=
  let isH264 := decide (entry.codec = .kVideoCodecH264)
  match b.searchFrameStart isH264 entry.timestamp b.size
      { startSeqNum := seqNum, startIndex := b.indexOf seqNum } with
  | none => none
  | some found => b.finishFrame isH264 seqNum found

/-- The loop of `FindFrames`, with the number of rounds left. -/
def findFramesLoop : Nat → PacketBuffer → UInt16 → Option (PacketBuffer × List Packet)
  | 0, b, _ => some (b, [])
  | rounds + 1, b, seqNum =>
      if b.potentialNewFrame seqNum then
        match b.buffer (b.indexOf seqNum) with
        | none => none
        | some entry =>
            let entry := { entry with continuous := true }
            let b := b.setSlot (b.indexOf seqNum) (some entry)
            if entry.isLastPacketInFrame then
              match b.closeFrame seqNum entry with
              | none => none
              | some (b, none) => some (b, [])
              | some (b, some frame) =>
                  (findFramesLoop rounds b (seqNum + 1)).map fun found =>
                    (found.1, frame ++ found.2)
            else findFramesLoop rounds b (seqNum + 1)
      else some (b, [])

/-- `FindFrames`. -/
def findFrames (seqNum : UInt16) : Option (PacketBuffer × List Packet) :=
  findFramesLoop b.size b seqNum

end Frames

section Calls

variable (b : PacketBuffer)

/-- `ClearInternal`. -/
def clearInternal : PacketBuffer :=
  { b with
    buffer := fun _ => none
    firstPacketReceived := false
    isClearedToFirstSeqNum := false
    lastReceivedPacketMs := none
    lastReceivedKeyframePacketMs := none
    newestInsertedSeqNum := none
    missingPackets := [] }

/-- `ExpandBufferSize`. The packets move to their slots in the larger buffer. -/
def expandBufferSize : Option PacketBuffer :=
  if b.size = b.maxSize then none
  else
    let newSize := min b.maxSize (2 * b.size)
    some { b with
      size := newSize
      buffer := Math.SlotTable.rehash Packet.seqNum UInt16.toNat b.buffer newSize b.size }

/-- Expand the buffer while the slot of `seqNum` is taken. Every round makes the buffer
larger, so the maximal size bounds the number of rounds. -/
def expandFor (seqNum : UInt16) : Nat → PacketBuffer → PacketBuffer
  | 0, b => b
  | rounds + 1, b =>
      match b.expandBufferSize with
      | none => b
      | some b =>
          if (b.buffer (b.indexOf seqNum)).isSome then expandFor seqNum rounds b else b

/-- How `InsertPacket` treats a number: the packet is ignored, the buffer is full, or there
is room for the packet. -/
inductive Admission
  | ignored
  | full (b : PacketBuffer)
  | room (b : PacketBuffer)

/-- Find room for a number whose turn it is. -/
def findRoom (seqNum : UInt16) : Admission :=
  match b.buffer (b.indexOf seqNum) with
  | none => .room b
  | some entry =>
      if entry.seqNum = seqNum then .ignored
      else
        let b := expandFor seqNum b.maxSize b
        if (b.buffer (b.indexOf seqNum)).isSome then .full b else .room b

/-- The part of `InsertPacket` up to the slot of the packet. The first number has already
been moved when a duplicate is found. -/
def makeRoom (seqNum : UInt16) : PacketBuffer × Admission :=
  if !b.firstPacketReceived then
    let b := { b with
      firstSeqNum := seqNum
      firstPacketReceived := true }
    (b, b.findRoom seqNum)
  else if aheadOf b.firstSeqNum seqNum then
    if b.isClearedToFirstSeqNum then (b, .ignored)
    else
      let b := { b with firstSeqNum := seqNum }
      (b, b.findRoom seqNum)
  else (b, b.findRoom seqNum)

/-- Take note of when packets arrive. -/
def notePacket (now : Int) (packet : Packet) : PacketBuffer :=
  if packet.frameType = .kVideoFrameKey ∨
      b.lastReceivedKeyframeRtpTimestamp = some packet.timestamp then
    { b with
      lastReceivedPacketMs := some now
      lastReceivedKeyframePacketMs := some now
      lastReceivedKeyframeRtpTimestamp := some packet.timestamp }
  else { b with lastReceivedPacketMs := some now }

/-- Put a packet into its slot. -/
def storePacket (packet : Packet) : PacketBuffer :=
  b.setSlot (b.indexOf packet.seqNum) (some { packet with continuous := false })

/-- `InsertPacket`. -/
def insertPacket (now : Int) (packet : Packet) : Option (PacketBuffer × InsertResult) :=
  match b.makeRoom packet.seqNum with
  | (b, .ignored) => some (b, {})
  | (_, .full b) => some (b.clearInternal, { bufferCleared := true })
  | (_, .room b) =>
      let b := ((b.notePacket now packet).storePacket packet).updateMissingPackets packet.seqNum
      (b.findFrames packet.seqNum).map fun found => (found.1, { packets := found.2 })

/-- `InsertPadding`. -/
def insertPadding (seqNum : UInt16) : Option (PacketBuffer × InsertResult) :=
  ((b.updateMissingPackets seqNum).findFrames (seqNum + 1)).map fun found =>
    (found.1, { packets := found.2 })

/-- Empty a slot that holds a packet behind `seqNum`. -/
def clearSlot (seqNum : UInt16) (index : Nat) (buffer : Nat → Option Packet) :
    Nat → Option Packet :=
  match buffer index with
  | none => buffer
  | some stored =>
      if aheadOf seqNum stored.seqNum then Function.update buffer index none else buffer

/-- The loop of `ClearTo` over `count` slots. -/
def clearSlots (size : Nat) (seqNum : UInt16) :
    Nat → UInt16 → (Nat → Option Packet) → Nat → Option Packet
  | 0, _, buffer => buffer
  | count + 1, firstSeqNum, buffer =>
      clearSlots size seqNum count (firstSeqNum + 1)
        (clearSlot seqNum (firstSeqNum.toNat % size) buffer)

/-- `ClearTo`. -/
def clearTo (seqNum : UInt16) : PacketBuffer :=
  if b.isClearedToFirstSeqNum && aheadOf b.firstSeqNum seqNum then b
  else if !b.firstPacketReceived then b
  else
    let seqNum := seqNum + 1
    let iterations := min (forwardDiff b.firstSeqNum seqNum).toNat b.size
    eraseMissingBefore
      { b with
        buffer := clearSlots b.size seqNum iterations b.firstSeqNum b.buffer
        firstSeqNum := seqNum
        isClearedToFirstSeqNum := true } seqNum

end Calls

end PacketBuffer

end MpWebRtc.VideoCoding
