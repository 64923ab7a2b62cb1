import MpWebRtc.Math.OrderedMap
import MpWebRtc.Math.Run
import MpWebRtc.Rtcp.TransportFeedback
import MpWebRtc.Unwrapper

/-!
# The transport feedback adapter of a path

`TransportFeedbackAdapter` remembers the packets of one path under their unwrapped
transport numbers on the path, and turns feedback messages into results for the
bandwidth estimator. Beside that it counts the bytes in flight: a packet counts from the
moment it is sent until feedback goes past it or it is too old.

One unwrapper serves the transport-wide numbers, the numbers on the path and the numbers
in feedback. The history is ordered by the numbers on the path, and feedback is compared
with them; but whether a packet counts when it is sent or expires depends on its
transport-wide number.
-/

namespace MpWebRtc

open Math Math.Run Math.Serial

/-- `kSendTimeHistoryWindow`, in microseconds. -/
def kSendTimeHistoryWindow : Int := 240000000

variable {Pacing : Type}

/-- `RtpPacketSendInfo`, as far as the adapter reads it. -/
structure RtpPacketSendInfo (Pacing : Type) where
  transportSequenceNumber : UInt16
  mpTransportSequenceNumber : UInt16
  length : Nat
  audio : Bool := false
  pacingInfo : Pacing

/-- `SentPacket`; a packet that has not been sent has no send time. -/
structure SentPacket (Pacing : Type) where
  sendTime : Option Int := none
  size : Nat
  priorUnackedData : Nat := 0
  pacingInfo : Pacing
  audio : Bool
  sequenceNumber : Int
  mpSequenceNumber : Int
  dataInFlight : Nat := 0
  deriving DecidableEq

/-- Two records of the same packet: what is known when it is added. -/
structure SentPacket.SameData (first second : SentPacket Pacing) : Prop where
  size : first.size = second.size
  pacingInfo : first.pacingInfo = second.pacingInfo
  audio : first.audio = second.audio
  sequenceNumber : first.sequenceNumber = second.sequenceNumber
  mpSequenceNumber : first.mpSequenceNumber = second.mpSequenceNumber

/-- `PacketFeedback`; a packet that has not been received has no receive time. -/
structure PacketFeedback (Pacing : Type) where
  creationTime : Int
  sent : SentPacket Pacing
  receiveTime : Option Int := none
  deriving DecidableEq

/-- `PacketResult`. -/
structure PacketResult (Pacing : Type) where
  sentPacket : SentPacket Pacing
  receiveTime : Option Int

/-- `TransportPacketsFeedback`. -/
structure TransportPacketsFeedback (Pacing : Type) where
  feedbackTime : Int
  firstUnackedSendTime : Option Int
  dataInFlight : Nat
  priorInFlight : Nat
  packetFeedbacks : List (PacketResult Pacing)

/-- `rtc::SentPacket`, with the fields of its `PacketInfo` that the adapter reads. -/
structure Rtc.SentPacket where
  packetMpid : Int := -1
  sendTimeMs : Int := -1
  includedInFeedback : Bool := false
  includedInAllocation : Bool := false
  packetSizeBytes : Nat := 0

/-- `InFlightBytesTracker`, for one network route. -/
structure InFlightBytesTracker where
  inFlightData : Option Nat := none

namespace InFlightBytesTracker

variable (tracker : InFlightBytesTracker)

/-- `AddInFlightPacketBytes`. -/
def addInFlightPacketBytes (packet : PacketFeedback Pacing) : InFlightBytesTracker :=
  match tracker.inFlightData with
  | some bytes => ⟨some (bytes + packet.sent.size)⟩
  | none => ⟨some packet.sent.size⟩

/-- `RemoveInFlightPacketBytes`. -/
def removeInFlightPacketBytes (packet : PacketFeedback Pacing) : InFlightBytesTracker :=
  if packet.sent.sendTime.isNone then tracker
  else
    match tracker.inFlightData with
    | some bytes =>
        let rest := if bytes < packet.sent.size then 0 else bytes - packet.sent.size
        ⟨if rest = 0 then none else some rest⟩
    | none => tracker

/-- `GetOutstandingData`. -/
def getOutstandingData : Nat := tracker.inFlightData.getD 0

theorem getOutstandingData_add (packet : PacketFeedback Pacing) :
    (tracker.addInFlightPacketBytes packet).getOutstandingData =
      tracker.getOutstandingData + packet.sent.size := by
  unfold addInFlightPacketBytes getOutstandingData
  cases tracker.inFlightData with
  | none => exact (Nat.zero_add _).symm
  | some bytes => rfl

end InFlightBytesTracker

/-- `TransportFeedbackAdapter`. The offset is set by the first feedback message. -/
structure TransportFeedbackAdapter (Pacing : Type) where
  pendingUntrackedSize : Nat := 0
  lastSendTime : Option Int := none
  lastUntrackedSendTime : Option Int := none
  /-- `seq_num_unwrapper_`. -/
  lastValue : Option Int := none
  history : OrderedMap Int (PacketFeedback Pacing) := {}
  lastAckSeqNum : Int := -1
  inFlight : InFlightBytesTracker := {}
  currentOffset : Int := 0
  lastTimestamp : Option Int := none

/-- The later of two times, if there is an earlier one. -/
def laterTime (earlier : Option Int) (time : Int) : Option Int :=
  some (match earlier with | none => time | some before => max before time)

/-- `RoundDownTo` a millisecond, which truncates. -/
def roundDownToMs (time : Int) : Int := time.tdiv 1000 * 1000

namespace TransportFeedbackAdapter

/-- `GetOutstandingData`. -/
def getOutstandingData (a : TransportFeedbackAdapter Pacing) : Nat :=
  a.inFlight.getOutstandingData

/-- A packet is too old when another one is created. -/
def expired (creationTime : Int) (entry : Int × PacketFeedback Pacing) : Bool :=
  decide (creationTime - entry.2.creationTime > kSendTimeHistoryWindow)

variable (a : TransportFeedbackAdapter Pacing)

/-- The loop of `AddPacket` over the oldest packets. -/
def expire (creationTime : Int) : TransportFeedbackAdapter Pacing :=
  { a with
    inFlight := (a.history.entries.takeWhile (expired creationTime)).foldl
      (fun tracker entry =>
        if entry.2.sent.sequenceNumber > a.lastAckSeqNum then
          tracker.removeInFlightPacketBytes entry.2
        else tracker) a.inFlight
    history := a.history.dropWhile (expired creationTime) }

/-- `seq_num_unwrapper_.Unwrap`, twice, of the transport-wide number. -/
def unwrapTransport (lastValue : Option Int) (transportSequenceNumber : UInt16) : Int :=
  unwrapWithoutUpdate (some (unwrapWithoutUpdate lastValue transportSequenceNumber))
    transportSequenceNumber

/-- The record of a packet that is added. -/
def newPacket (packetInfo : RtpPacketSendInfo Pacing)
    (overheadBytes : Nat) (creationTime : Int) : PacketFeedback Pacing :=
  let sequenceNumber := unwrapTransport a.lastValue packetInfo.transportSequenceNumber
  { creationTime := creationTime
    sent :=
      { size := packetInfo.length + overheadBytes
        pacingInfo := packetInfo.pacingInfo
        audio := packetInfo.audio
        sequenceNumber := sequenceNumber
        mpSequenceNumber :=
          unwrapWithoutUpdate (some sequenceNumber) packetInfo.mpTransportSequenceNumber } }

/-- `AddPacket`. -/
def addPacket (packetInfo : RtpPacketSendInfo Pacing)
    (overheadBytes : Nat) (creationTime : Int) : TransportFeedbackAdapter Pacing :=
  let packet := a.newPacket packetInfo overheadBytes creationTime
  let a := a.expire creationTime
  { a with
    lastValue := some packet.sent.mpSequenceNumber
    history := a.history.emplace packet.sent.mpSequenceNumber packet }

/-- `ProcessSentPacket` for a packet found in the history. -/
def markSent (seqNum sendTime : Int) (packet : PacketFeedback Pacing) :
    TransportFeedbackAdapter Pacing × Option (SentPacket Pacing) :=
  let sent : SentPacket Pacing :=
    { packet.sent with
      sendTime := some sendTime
      priorUnackedData := packet.sent.priorUnackedData + a.pendingUntrackedSize }
  let a := { a with lastSendTime := laterTime a.lastSendTime sendTime, pendingUntrackedSize := 0 }
  if packet.sent.sendTime.isSome then
    ({ a with history := a.history.modify seqNum fun packet => { packet with sent := sent } },
      none)
  else
    let inFlight :=
      if packet.sent.sequenceNumber > a.lastAckSeqNum then
        a.inFlight.addInFlightPacketBytes { packet with sent := sent }
      else a.inFlight
    let sent := { sent with dataInFlight := inFlight.getOutstandingData }
    ({ a with
        inFlight := inFlight
        history := a.history.modify seqNum fun packet => { packet with sent := sent } },
      some sent)

/-- `ProcessSentPacket`. -/
def processSentPacket (sentPacket : Rtc.SentPacket) :
    TransportFeedbackAdapter Pacing × Option (SentPacket Pacing) :=
  let sendTime := sentPacket.sendTimeMs * 1000
  if sentPacket.includedInFeedback || sentPacket.packetMpid != -1 then
    let seqNum := unwrapWithoutUpdate a.lastValue (wrap sentPacket.packetMpid)
    let a := { a with lastValue := some seqNum }
    match a.history.find seqNum with
    | none => (a, none)
    | some packet => a.markSent seqNum sendTime packet
  else if sentPacket.includedInAllocation then
    ({ a with
        pendingUntrackedSize := a.pendingUntrackedSize + sentPacket.packetSizeBytes
        lastUntrackedSendTime := laterTime a.lastUntrackedSendTime sendTime },
      none)
  else (a, none)

/-- The local time base of a feedback message. -/
def updateOffset (feedback : TransportFeedback)
    (feedbackReceiveTime : Int) : TransportFeedbackAdapter Pacing :=
  let currentOffset :=
    match a.lastTimestamp with
    | none => feedbackReceiveTime
    | some lastTimestamp =>
        let delta := roundDownToMs (feedback.getBaseDeltaUs lastTimestamp)
        -- protects against a negative offset
        if delta < 0 - a.currentOffset then feedbackReceiveTime else a.currentOffset + delta
  { a with currentOffset := currentOffset, lastTimestamp := some feedback.getBaseTimeUs }

/-- Feedback goes past the packets up to a number. -/
def acknowledge (seqNum : Int) : TransportFeedbackAdapter Pacing :=
  if seqNum > a.lastAckSeqNum then
    { a with
      inFlight := (a.history.entries.filter fun entry =>
          decide (a.lastAckSeqNum < entry.1 ∧ entry.1 ≤ seqNum)).foldl
        (fun tracker entry => tracker.removeInFlightPacketBytes entry.2) a.inFlight
      lastAckSeqNum := seqNum }
  else a

/-- One packet of a feedback message, with the time since the base of the message: the
result, if the packet is known and was sent. Received packets are forgotten. -/
def reportPacket (packetOffset : Int) (packet : FeedbackPacket) :
    TransportFeedbackAdapter Pacing × Int × List (PacketResult Pacing) :=
  let seqNum := unwrapWithoutUpdate a.lastValue packet.sequenceNumber
  let a := acknowledge { a with lastValue := some seqNum } seqNum
  match a.history.find seqNum with
  | none => (a, packetOffset, [])
  | some packetFeedback =>
      if packetFeedback.sent.sendTime.isNone then (a, packetOffset, [])
      else
        match packet.deltaTicks with
        | none => (a, packetOffset, [⟨packetFeedback.sent, packetFeedback.receiveTime⟩])
        | some delta =>
            let packetOffset := packetOffset + delta * kDeltaScaleFactor
            let receiveTime := a.currentOffset + roundDownToMs packetOffset
            ({ a with history := a.history.erase seqNum }, packetOffset,
              [⟨packetFeedback.sent, some receiveTime⟩])

/-- The loop of `ProcessTransportFeedbackInner` over the packets of a message. -/
def reportPackets : (a : TransportFeedbackAdapter Pacing) → (packetOffset : Int) →
    List FeedbackPacket → TransportFeedbackAdapter Pacing × List (PacketResult Pacing)
  | a, _, [] => (a, [])
  | a, packetOffset, packet :: packets =>
      let first := a.reportPacket packetOffset packet
      let rest := reportPackets first.1 first.2.1 packets
      (rest.1, first.2.2 ++ rest.2)

/-- `ProcessTransportFeedbackInner`. -/
def processTransportFeedbackInner (feedback : TransportFeedback) (feedbackReceiveTime : Int) :
    TransportFeedbackAdapter Pacing × List (PacketResult Pacing) :=
  (a.updateOffset feedback feedbackReceiveTime).reportPackets 0 feedback.allPackets

/-- `ProcessTransportFeedback`. -/
def processTransportFeedback (feedback : TransportFeedback) (feedbackReceiveTime : Int) :
    TransportFeedbackAdapter Pacing × Option (TransportPacketsFeedback Pacing) :=
  if feedback.numSeqNo = 0 then (a, none)
  else
    let inner := a.processTransportFeedbackInner feedback feedbackReceiveTime
    if inner.2.isEmpty then (inner.1, none)
    else
      (inner.1, some
        { feedbackTime := feedbackReceiveTime
          firstUnackedSendTime :=
            (inner.1.history.find inner.1.lastAckSeqNum).bind (·.sent.sendTime)
          dataInFlight := inner.1.getOutstandingData
          priorInFlight := a.getOutstandingData
          packetFeedbacks := inner.2 })

end TransportFeedbackAdapter

/-- The calls of an adapter. -/
inductive AdapterEvent (Pacing : Type) where
  | addPacket (packetInfo : RtpPacketSendInfo Pacing) (overheadBytes : Nat) (creationTime : Int)
  | processSentPacket (sentPacket : Rtc.SentPacket)
  | processTransportFeedback (feedback : TransportFeedback) (feedbackReceiveTime : Int)

namespace TransportFeedbackAdapter

/-- A call, with the results it hands to the bandwidth estimator. -/
def step (a : TransportFeedbackAdapter Pacing) :
    AdapterEvent Pacing → TransportFeedbackAdapter Pacing × List (PacketResult Pacing)
  | .addPacket packetInfo overheadBytes creationTime =>
      (a.addPacket packetInfo overheadBytes creationTime, [])
  | .processSentPacket sentPacket => ((a.processSentPacket sentPacket).1, [])
  | .processTransportFeedback feedback feedbackReceiveTime =>
      let handled := a.processTransportFeedback feedback feedbackReceiveTime
      (handled.1, (handled.2.map (·.packetFeedbacks)).getD [])

variable {a : TransportFeedbackAdapter Pacing}

/-- A message is either empty, or handled packet by packet. -/
theorem step_processTransportFeedback (feedback : TransportFeedback) (feedbackReceiveTime : Int) :
    a.step (.processTransportFeedback feedback feedbackReceiveTime) =
      if feedback.numSeqNo = 0 then (a, [])
      else (a.updateOffset feedback feedbackReceiveTime).reportPackets 0 feedback.allPackets := by
  unfold step processTransportFeedback
  dsimp only
  split
  · rfl
  · split
    · rename_i nothing
      rw [List.isEmpty_iff] at nothing
      exact Prod.ext rfl nothing.symm
    · rfl

/-- What sending a packet does: its record changes in place, and it counts the first
time. -/
theorem markSent_spec (a : TransportFeedbackAdapter Pacing) (seqNum sendTime : Int)
    (packet : PacketFeedback Pacing) :
    ∃ sent : SentPacket Pacing,
      (a.markSent seqNum sendTime packet).1.history =
        a.history.modify seqNum (fun packet => { packet with sent := sent }) ∧
      sent.sendTime = some sendTime ∧ sent.SameData packet.sent ∧
      (a.markSent seqNum sendTime packet).1.lastAckSeqNum = a.lastAckSeqNum ∧
      (a.markSent seqNum sendTime packet).1.lastValue = a.lastValue ∧
      (a.markSent seqNum sendTime packet).1.getOutstandingData = a.getOutstandingData +
        if packet.sent.sendTime = none ∧ a.lastAckSeqNum < packet.sent.sequenceNumber then
          packet.sent.size
        else 0 := by
  unfold markSent
  dsimp only
  split
  · rename_i again
    refine ⟨_, rfl, rfl, ⟨rfl, rfl, rfl, rfl, rfl⟩, rfl, rfl, ?_⟩
    rw [if_neg fun both => Option.isSome_iff_ne_none.mp again both.1]
    rfl
  · rename_i first
    refine ⟨_, rfl, rfl, ⟨rfl, rfl, rfl, rfl, rfl⟩, rfl, rfl, ?_⟩
    have fresh : packet.sent.sendTime = none := by simpa using first
    unfold getOutstandingData
    dsimp only
    by_cases ahead : a.lastAckSeqNum < packet.sent.sequenceNumber
    · rw [if_pos ahead, if_pos ⟨fresh, ahead⟩, InFlightBytesTracker.getOutstandingData_add]
    · rw [if_neg ahead, if_neg fun both => ahead both.2, Nat.add_zero]

/-- **Message rule.** What the setting of the offset and each packet of a message keep, the
message keeps. -/
theorem reportPackets_invariant {invariant : TransportFeedbackAdapter Pacing → Prop}
    (kept : ∀ a packetOffset packet, invariant a →
      invariant (reportPacket a packetOffset packet).1)
    (packets : List FeedbackPacket) (packetOffset : Int) (initial : invariant a) :
    invariant (a.reportPackets packetOffset packets).1 := by
  induction packets generalizing a packetOffset with
  | nil => exact initial
  | cons packet packets ih => exact ih _ (kept a packetOffset packet initial)

/-- What a packet of a message does: feedback goes past it, and it is forgotten if it
was received. -/
theorem reportPacket_cases (a : TransportFeedbackAdapter Pacing) (packetOffset : Int)
    (packet : FeedbackPacket) :
    let seqNum := unwrapWithoutUpdate a.lastValue packet.sequenceNumber
    let acked := acknowledge { a with lastValue := some seqNum } seqNum
    (((∀ entry, acked.history.find seqNum = some entry → entry.sent.sendTime = none) ∧
        (a.reportPacket packetOffset packet).1 = acked ∧
        (a.reportPacket packetOffset packet).2.2 = []) ∨
      ∃ entry, acked.history.find seqNum = some entry ∧ entry.sent.sendTime.isSome ∧
        ((packet.deltaTicks = none ∧ (a.reportPacket packetOffset packet).1 = acked ∧
            (a.reportPacket packetOffset packet).2.2 = [⟨entry.sent, entry.receiveTime⟩]) ∨
          packet.deltaTicks.isSome ∧
            (a.reportPacket packetOffset packet).1 =
              { acked with history := acked.history.erase seqNum } ∧
            ∃ time, (a.reportPacket packetOffset packet).2.2 = [⟨entry.sent, some time⟩])) := by
  dsimp only
  unfold reportPacket
  dsimp only
  split
  · next unknown => exact .inl ⟨fun entry found => by simp [unknown] at found, rfl, rfl⟩
  · rename_i entry found
    split
    · rename_i unsent
      refine .inl ⟨fun other same => ?_, rfl, rfl⟩
      rw [found, Option.some_inj] at same
      rw [← same]
      exact Option.isNone_iff_eq_none.mp unsent
    · rename_i sent
      refine .inr ⟨entry, found, by simpa [Option.isSome_iff_ne_none] using sent, ?_⟩
      split
      · next lost => exact .inl ⟨lost, rfl, rfl⟩
      · next delta received => exact .inr ⟨by simp [received], rfl, _, rfl⟩

end TransportFeedbackAdapter

end MpWebRtc
