import MpWebRtc.Math.Serial
import MpWebRtc.Rtcp.Header
import MpWebRtc.Rtcp.StatusChunk

/-!
# Transport feedback messages

`TransportFeedback` reports consecutive packets of one path: which of them arrived, and
how long after the packet before. The object keeps the message in encoded form while
packets are added, so that it knows when the message is full. `Create` writes it down
and `ParseFrom` reads it.
-/

namespace MpWebRtc

open Math.Serial Math.Wire

/-- `TransportFeedback::ReceivedPacket`; a packet that was not received has no delta. -/
structure FeedbackPacket where
  sequenceNumber : UInt16
  deltaTicks : Option Int
  deriving DecidableEq

/-- `received`. -/
def FeedbackPacket.received (packet : FeedbackPacket) : Bool := packet.deltaTicks.isSome

def kTransportFeedbackHeaderSizeBytes : Nat := 8 + 8 + 8
def kChunkSizeBytes : Nat := 2
def kMaxSizeBytes : Nat := (1 <<< 16) * 4
def kMinPayloadSizeBytes : Nat := 8 + 8 + 2
def kDeltaScaleFactor : Int := 250
def kBaseScaleFactor : Int := 250 * (1 <<< 8)
def kTimeWrapPeriodUs : Int := (1 <<< 24) * kBaseScaleFactor
def kMaxReportedPackets : Nat := 0xffff
def kFeedbackMessageType : Nat := 15
/-- `Rtpfb::kPacketType`. -/
def kRtpfbPacketType : Nat := 205

/-- `TransportFeedback`. -/
structure TransportFeedback where
  senderSsrc : UInt32 := 0
  mediaSsrc : UInt32 := 0
  includeLost : Bool
  baseSeqNo : UInt16 := 0
  numSeqNo : Nat := 0
  pathid : Int32
  baseTimeTicks : Int := 0
  feedbackSeq : UInt8 := 0
  includeTimestamps : Bool
  lastTimestampUs : Int := 0
  receivedPackets : List FeedbackPacket := []
  allPackets : List FeedbackPacket := []
  encodedChunks : List Nat := []
  lastChunk : LastChunk := {}
  sizeBytes : Nat := kTransportFeedbackHeaderSizeBytes

namespace TransportFeedback

/-- The constructor from a path id. -/
def ofPathid (pathid : Int32) : TransportFeedback :=
  { includeTimestamps := true, includeLost := true, pathid := pathid }

variable (fb : TransportFeedback)

/-- `SetSenderSsrc`. -/
def setSenderSsrc (ssrc : UInt32) : TransportFeedback :=
  { fb with senderSsrc := ssrc }

/-- `SetMediaSsrc`. -/
def setMediaSsrc (ssrc : UInt32) : TransportFeedback :=
  { fb with mediaSsrc := ssrc }

/-- `GetBaseTimeUs`. -/
def getBaseTimeUs : Int := fb.baseTimeTicks * kBaseScaleFactor

/-- `GetBaseDeltaUs`: the time since an earlier message, across wrap-arounds of the base
time. -/
def getBaseDeltaUs (prevTimestampUs : Int) : Int :=
  let delta := fb.getBaseTimeUs - prevTimestampUs
  if (delta - kTimeWrapPeriodUs).natAbs < delta.natAbs then delta - kTimeWrapPeriodUs
  else if (delta + kTimeWrapPeriodUs).natAbs < delta.natAbs then delta + kTimeWrapPeriodUs
  else delta

/-- `SetBase`. -/
def setBase (baseSequence : UInt16) (refTimestampUs : Int) : TransportFeedback :=
  let baseTimeTicks := (refTimestampUs.tmod kTimeWrapPeriodUs).tdiv kBaseScaleFactor
  { fb with
    baseSeqNo := baseSequence
    baseTimeTicks := baseTimeTicks
    lastTimestampUs := baseTimeTicks * kBaseScaleFactor }

/-- `SetFeedbackSequenceNumber`. -/
def setFeedbackSequenceNumber (feedbackSequence : UInt8) : TransportFeedback :=
  { fb with feedbackSeq := feedbackSequence }

/-- `AddDeltaSize`, if it succeeds. -/
def addDeltaSize (deltaSize : Nat) : Option TransportFeedback :=
  if fb.numSeqNo = kMaxReportedPackets then none
  else
    let addChunkSize := if fb.lastChunk.empty then kChunkSizeBytes else 0
    if kMaxSizeBytes < fb.sizeBytes + deltaSize + addChunkSize then none
    else if fb.lastChunk.canAdd deltaSize then
      some { fb with
        sizeBytes := fb.sizeBytes + addChunkSize
        lastChunk := fb.lastChunk.add deltaSize
        numSeqNo := fb.numSeqNo + 1 }
    else if kMaxSizeBytes < fb.sizeBytes + deltaSize + kChunkSizeBytes then none
    else
      some { fb with
        encodedChunks := fb.encodedChunks ++ [fb.lastChunk.emit.1]
        sizeBytes := fb.sizeBytes + kChunkSizeBytes
        lastChunk := fb.lastChunk.emit.2.add deltaSize
        numSeqNo := fb.numSeqNo + 1 }

/-- The delta of a packet to the one before, in ticks, if 16 bits can hold it. -/
def deltaTicks (timestampUs : Int) : Option Int :=
  if fb.includeTimestamps then
    let deltaFull := (timestampUs - fb.lastTimestampUs).tmod kTimeWrapPeriodUs
    let deltaFull :=
      if deltaFull > kTimeWrapPeriodUs.tdiv 2 then deltaFull - kTimeWrapPeriodUs else deltaFull
    let rounding := kDeltaScaleFactor.tdiv 2
    let deltaFull :=
      (deltaFull + if deltaFull < 0 then -rounding else rounding).tdiv kDeltaScaleFactor
    let delta := deltaFull.bmod 65536
    if delta ≠ deltaFull then none else some delta
  else some 0

/-- The loop of `AddReceivedPacket` over the numbers that are skipped. -/
def addLost : (count : Nat) → (fb : TransportFeedback) → (nextSeqNo : UInt16) →
    TransportFeedback × Bool
  | 0, fb, _ => (fb, true)
  | count + 1, fb, nextSeqNo =>
      match fb.addDeltaSize 0 with
      | none => (fb, false)
      | some fb =>
          addLost count
            { fb with
              allPackets :=
                if fb.includeLost then fb.allPackets ++ [⟨nextSeqNo, none⟩] else fb.allPackets }
            (nextSeqNo + 1)

/-- The size of a delta. -/
def deltaSize (delta : Int) : Nat := if 0 ≤ delta ∧ delta ≤ 0xff then 1 else 2

/-- `AddReceivedPacket`. -/
def addReceivedPacket (sequenceNumber : UInt16) (timestampUs : Int) : TransportFeedback × Bool :=
  match fb.deltaTicks timestampUs with
  | none => (fb, false)
  | some delta =>
      let nextSeqNo := fb.baseSeqNo + UInt16.ofNat fb.numSeqNo
      let filled :=
        if sequenceNumber = nextSeqNo then (fb, true)
        else if aheadOf sequenceNumber (nextSeqNo - 1) then
          addLost (forwardDiff nextSeqNo sequenceNumber).toNat fb nextSeqNo
        else (fb, false)
      if filled.2 then
        match filled.1.addDeltaSize (deltaSize delta) with
        | none => (filled.1, false)
        | some fb =>
            ({ fb with
                receivedPackets := fb.receivedPackets ++ [⟨sequenceNumber, some delta⟩]
                allPackets :=
                  if fb.includeLost then fb.allPackets ++ [⟨sequenceNumber, some delta⟩]
                  else fb.allPackets
                lastTimestampUs := fb.lastTimestampUs + delta * kDeltaScaleFactor
                sizeBytes :=
                  if fb.includeTimestamps then fb.sizeBytes + deltaSize delta else fb.sizeBytes },
              true)
      else filled

/-- `BlockLength`: the size rounded up to whole words. -/
def blockLength : Nat := (fb.sizeBytes + 3) / 4 * 4

/-- `PaddingLength`. -/
def paddingLength : Nat := fb.blockLength - fb.sizeBytes

/-- The bytes of a delta. -/
def deltaBytes (delta : Int) : List UInt8 :=
  if 0 ≤ delta ∧ delta ≤ 0xff then writeBigEndian 1 delta.toNat
  else writeBigEndian 2 (delta % 65536).toNat

/-- The bytes behind the header, without padding. -/
def payloadBytes : List UInt8 :=
  writeBigEndian 4 fb.senderSsrc.toNat ++ writeBigEndian 4 fb.mediaSsrc.toNat ++
    writeBigEndian 2 fb.baseSeqNo.toNat ++ writeBigEndian 2 fb.numSeqNo ++
    writeBigEndian 3 (fb.baseTimeTicks % 2 ^ 24).toNat ++ [fb.feedbackSeq] ++
    fb.encodedChunks.flatMap (writeBigEndian 2) ++
    (if fb.lastChunk.empty then [] else writeBigEndian 2 fb.lastChunk.encodeLast) ++
    if fb.includeTimestamps then
      fb.receivedPackets.flatMap fun packet => deltaBytes (packet.deltaTicks.getD 0)
    else []

/-- The bytes of the padding; the last one says how many there are. -/
def paddingBytes (padding : Nat) : List UInt8 :=
  if 0 < padding then List.replicate (padding - 1) 0 ++ [UInt8.ofNat padding] else []

/-- `Create`, into a buffer with room for the message. -/
def create : Option (List UInt8) :=
  if fb.numSeqNo = 0 then none
  else
    some (createHeader kFeedbackMessageType kRtpfbPacketType ((fb.blockLength - kHeaderLength) / 4)
      (decide (0 < fb.paddingLength)) fb.pathid ++
      (fb.payloadBytes ++ paddingBytes fb.paddingLength))

/-- The status chunks of a message: the sizes, the chunks with the last one decoded, and
the bytes behind them. -/
def readChunks (statusCount : Nat) :
    (bytes : List UInt8) → (deltaSizes chunks : List Nat) → (lastChunk : LastChunk) →
      Option (List Nat × List Nat × LastChunk × List UInt8)
  | first :: second :: bytes, deltaSizes, chunks, lastChunk =>
      if deltaSizes.length < statusCount then
        let chunk := readBigEndian [first, second]
        let decoded := LastChunk.decode chunk (statusCount - deltaSizes.length)
        readChunks statusCount bytes (deltaSizes ++ decoded.content) (chunks ++ [chunk]) decoded
      else some (deltaSizes, chunks, lastChunk, first :: second :: bytes)
  | bytes, deltaSizes, chunks, lastChunk =>
      if deltaSizes.length < statusCount then none
      else some (deltaSizes, chunks, lastChunk, bytes)

/-- The deltas of a message, one for each size. -/
def readDeltas : (deltaSizes : List Nat) → (seqNo : UInt16) → (bytes : List UInt8) →
    Option (List FeedbackPacket)
  | [], _, _ => some []
  | 0 :: deltaSizes, seqNo, bytes =>
      (readDeltas deltaSizes (seqNo + 1) bytes).map (⟨seqNo, none⟩ :: ·)
  | 1 :: deltaSizes, seqNo, first :: bytes =>
      (readDeltas deltaSizes (seqNo + 1) bytes).map (⟨seqNo, some first.toNat⟩ :: ·)
  | 2 :: deltaSizes, seqNo, first :: second :: bytes =>
      (readDeltas deltaSizes (seqNo + 1) bytes).map
        (⟨seqNo, some ((readBigEndian [first, second] : Int).bmod 65536)⟩ :: ·)
  | _, _, _ => none

/-- A message without deltas says only which packets arrived. -/
def withoutDeltas : (deltaSizes : List Nat) → (seqNo : UInt16) → List FeedbackPacket
  | [], _ => []
  | deltaSize :: deltaSizes, seqNo =>
      ⟨seqNo, if 0 < deltaSize then some 0 else none⟩ :: withoutDeltas deltaSizes (seqNo + 1)

/-- The statuses of a message, from the sizes and the bytes behind the chunks. -/
def readStatuses (deltaSizes : List Nat) (seqNo : UInt16) (bytes : List UInt8) :
    Option (List FeedbackPacket) :=
  if deltaSizes.sum ≤ bytes.length then readDeltas deltaSizes seqNo bytes
  else some (withoutDeltas deltaSizes seqNo)

/-- `Parse`. -/
def parse (packet : CommonHeader) : Option TransportFeedback :=
  let payload := packet.payload
  if payload.length < kMinPayloadSizeBytes then none
  else
    let baseSeqNo := UInt16.ofNat (readBigEndian ((payload.drop 8).take 2))
    let statusCount := readBigEndian ((payload.drop 10).take 2)
    let baseTimeTicks := (readBigEndian ((payload.drop 12).take 3) : Int).bmod (2 ^ 24)
    if statusCount = 0 then none
    else
      match readChunks statusCount (payload.drop 16) [] [] {} with
      | none => none
      | some (deltaSizes, chunks, lastChunk, bytes) =>
          let hasDeltas := decide (deltaSizes.sum ≤ bytes.length)
          (readStatuses deltaSizes baseSeqNo bytes).map fun statuses =>
            { fb with
              senderSsrc := UInt32.ofNat (readBigEndian (payload.take 4))
              mediaSsrc := UInt32.ofNat (readBigEndian ((payload.drop 4).take 4))
              pathid := packet.pathid
              baseSeqNo := baseSeqNo
              numSeqNo := statusCount
              baseTimeTicks := baseTimeTicks
              feedbackSeq := payload.getD 15 0
              includeTimestamps := fb.includeTimestamps && hasDeltas
              lastTimestampUs := baseTimeTicks * kBaseScaleFactor +
                (statuses.map fun status => status.deltaTicks.getD 0 * kDeltaScaleFactor).sum
              receivedPackets := statuses.filter (·.received)
              allPackets := if fb.includeLost then statuses else []
              encodedChunks := chunks.dropLast
              lastChunk := lastChunk
              sizeBytes := kHeaderLength + 16 + kChunkSizeBytes * chunks.length +
                if hasDeltas then deltaSizes.sum else 0 }

/-- `ParseFrom`. -/
def parseFrom (buffer : List UInt8) : Option TransportFeedback :=
  match CommonHeader.parse buffer with
  | none => none
  | some header =>
      if header.type ≠ kRtpfbPacketType ∨ header.fmt ≠ kFeedbackMessageType then none
      else (ofPathid (-1)).parse header

section Frame

variable {fb : TransportFeedback}

/-- What adding statuses leaves alone. -/
def heading (fb : TransportFeedback) : UInt32 × UInt32 × Int32 × UInt16 × Int × UInt8 :=
  (fb.senderSsrc, fb.mediaSsrc, fb.pathid, fb.baseSeqNo, fb.baseTimeTicks, fb.feedbackSeq)

/-- `AddDeltaSize` counts one status, and changes only the chunks besides. -/
theorem eq_of_addDeltaSize {size : Nat} {next : TransportFeedback}
    (added : fb.addDeltaSize size = some next) :
    ∃ chunks lastChunk sizeBytes, sizeBytes ≤ fb.sizeBytes + kChunkSizeBytes ∧ next =
      { fb with
        encodedChunks := chunks
        lastChunk := lastChunk
        sizeBytes := sizeBytes
        numSeqNo := fb.numSeqNo + 1 } := by
  unfold addDeltaSize at added
  split at added
  · cases added
  extract_lets addChunkSize at added
  split at added
  · cases added
  split at added
  · have few : addChunkSize ≤ kChunkSizeBytes := by
      unfold addChunkSize
      split
      · exact le_rfl
      · exact Nat.zero_le _
    exact ⟨_, _, _, Nat.add_le_add_left few _, (Option.some.inj added).symm⟩
  split at added
  · cases added
  · exact ⟨_, _, _, le_rfl, (Option.some.inj added).symm⟩

/-- `AddDeltaSize` succeeds as long as there is room. -/
theorem exists_addDeltaSize {size : Nat} (below : fb.numSeqNo ≠ kMaxReportedPackets)
    (room : fb.sizeBytes + size + kChunkSizeBytes ≤ kMaxSizeBytes) :
    ∃ next, fb.addDeltaSize size = some next := by
  unfold addDeltaSize
  rw [if_neg below]
  extract_lets addChunkSize
  have few : addChunkSize ≤ kChunkSizeBytes := by
    unfold addChunkSize
    split
    · exact le_rfl
    · exact Nat.zero_le _
  rw [if_neg (by omega)]
  split
  · exact ⟨_, rfl⟩
  · rw [if_neg (by omega)]
    exact ⟨_, rfl⟩

/-- Lost packets change neither the heading nor the received packets. -/
theorem addLost_frame (count : Nat) (fb : TransportFeedback) (nextSeqNo : UInt16) :
    (addLost count fb nextSeqNo).1.heading = fb.heading ∧
      (addLost count fb nextSeqNo).1.receivedPackets = fb.receivedPackets ∧
      (addLost count fb nextSeqNo).1.lastTimestampUs = fb.lastTimestampUs := by
  induction count generalizing fb nextSeqNo with
  | zero => exact ⟨rfl, rfl, rfl⟩
  | succ count ih =>
      unfold addLost
      cases added : fb.addDeltaSize 0 with
      | none => exact ⟨rfl, rfl, rfl⟩
      | some next =>
          obtain ⟨_, _, _, -, rfl⟩ := eq_of_addDeltaSize added
          exact ih _ _

/-- Lost packets are recorded as long as there is room. -/
theorem addLost_succeeds (count : Nat) (fb : TransportFeedback) (nextSeqNo : UInt16)
    (few : fb.numSeqNo + count ≤ kMaxReportedPackets)
    (room : fb.sizeBytes + kChunkSizeBytes * count ≤ kMaxSizeBytes) :
    (addLost count fb nextSeqNo).2 = true ∧
      (addLost count fb nextSeqNo).1.numSeqNo = fb.numSeqNo + count ∧
      (addLost count fb nextSeqNo).1.sizeBytes ≤ fb.sizeBytes + kChunkSizeBytes * count := by
  induction count generalizing fb nextSeqNo with
  | zero => exact ⟨rfl, rfl, le_rfl⟩
  | succ count ih =>
      have space : fb.sizeBytes + 0 + kChunkSizeBytes ≤ kMaxSizeBytes := by
        rw [Nat.mul_succ] at room
        omega
      obtain ⟨next, added⟩ := exists_addDeltaSize (by omega) space
      obtain ⟨_, _, sizeBytes, grown, rfl⟩ := eq_of_addDeltaSize added
      unfold addLost
      rw [added]
      dsimp only
      rw [Nat.mul_succ] at room ⊢
      refine (ih _ (nextSeqNo + 1) ?_ ?_).imp_right fun ⟨counted, size⟩ =>
        ⟨counted.trans ?_, size.trans ?_⟩
      all_goals
        dsimp only
        omega

/-- `AddReceivedPacket` leaves the heading alone; when it succeeds the packet is received,
and else nothing more is. -/
theorem addReceivedPacket_cases (fb : TransportFeedback) (sequenceNumber : UInt16)
    (timestampUs : Int) :
    ∃ next, next.heading = fb.heading ∧
      ((fb.addReceivedPacket sequenceNumber timestampUs = (next, false) ∧
          next.receivedPackets = fb.receivedPackets) ∨
        ∃ delta, fb.addReceivedPacket sequenceNumber timestampUs = (next, true) ∧
          next.receivedPackets = fb.receivedPackets ++ [⟨sequenceNumber, some delta⟩]) := by
  unfold addReceivedPacket
  cases fb.deltaTicks timestampUs with
  | none => exact ⟨fb, rfl, .inl ⟨rfl, rfl⟩⟩
  | some delta =>
      extract_lets nextSeqNo filled
      have frame : filled.1.heading = fb.heading ∧
          filled.1.receivedPackets = fb.receivedPackets := by
        unfold filled
        split
        · exact ⟨rfl, rfl⟩
        · split
          · exact ⟨(addLost_frame _ _ _).1, (addLost_frame _ _ _).2.1⟩
          · exact ⟨rfl, rfl⟩
      obtain ⟨head, received⟩ := frame
      cases success : filled.2 with
      | false => exact ⟨filled.1, head, .inl ⟨Prod.ext rfl success, received⟩⟩
      | true =>
          cases added : filled.1.addDeltaSize (deltaSize delta) with
          | none => exact ⟨filled.1, head, .inl ⟨by dsimp only; rw [if_pos rfl, added], received⟩⟩
          | some next =>
              refine ⟨_, ?_, .inr ⟨delta, by dsimp only; rw [if_pos rfl, added], ?_⟩⟩
              all_goals obtain ⟨_, _, _, -, rfl⟩ := eq_of_addDeltaSize added
              · exact head
              · exact congrArg (· ++ [⟨sequenceNumber, some delta⟩]) received

end Frame

end TransportFeedback

end MpWebRtc
