import MpWebRtc.Collector
import MpWebRtc.Rtcp.Packets
import MpWebRtc.Unwrapper

/-!
# Receive statistics of a stream

`StreamStatisticianImpl` counts the packets of a stream three times: by their RTP sequence
numbers, and for each path by the numbers the packets have on it. Each numbering keeps its
own loss, highest number, jitter and report marks, but there is one unwrapper, which only
follows the RTP sequence numbers, and one time of the last packet.
-/

namespace MpWebRtc

/-- `kStatisticsTimeoutMs`. -/
def kStatisticsTimeoutMs : Int := 8000

/-- `RtpPacketReceived`, as the statistics read it. -/
structure RtpPacketReceived where
  sequenceNumber : UInt16
  timestamp : UInt32 := 0
  payloadTypeFrequency : Int := 90000
  subflowId : Nat
  subflowSeq : UInt16

/-- The two paths a packet is counted for. -/
inductive Subflow
  | primary
  | secondary
  deriving DecidableEq

namespace Subflow

/-- The path id in report requests. -/
def pathid : Subflow → Nat
  | primary => 1
  | secondary => 2

/-- A request for a report with this path id is answered with the numbers of the path. -/
def reportedBy (path : Subflow) (requested : Nat) (collector : Collector) : Prop :=
  match path with
  | primary => requested = 1
  | secondary =>
      requested = 2 ∧ collector.mpIsSecondPathOpen ∧ ¬collector.schedulerMentions "red"

instance (path : Subflow) (requested : Nat) (collector : Collector) :
    Decidable (path.reportedBy requested collector) :=
  match path with
  | primary => inferInstanceAs (Decidable (_ = _))
  | secondary => inferInstanceAs (Decidable (_ ∧ _))

end Subflow

/-- Every path id except 2 is counted for the primary path. -/
def RtpPacketReceived.subflow (packet : RtpPacketReceived) : Subflow :=
  if packet.subflowId ≠ 2 then .primary else .secondary

/-- What is kept for one numbering: the members without suffix, those ending in `primary`
or `_p`, and those ending in `secondary` or `_s`. -/
structure SequenceStatistics where
  jitterQ4 : UInt32 := 0
  cumulativeLoss : Int := 0
  cumulativeLossRtcpOffset : Int := 0
  lastReceiveTimeMs : Int := 0
  lastReceivedTimestamp : UInt32 := 0
  receivedSeqFirst : Int := -1
  receivedSeqMax : Int := -1
  receivedSeqOutOfOrder : Option UInt16 := none
  lastReportCumulativeLoss : Int := 0
  lastReportSeqMax : Int := -1

/-- What an arriving packet is relative to the highest number. -/
inductive ArrivalOrder
  | inOrder
  | postponed
  | old
  deriving DecidableEq

/-- The values `CalculateRtcpStatistics` computes for one numbering. -/
structure NumberingReport where
  fractionLost : UInt8 := 0
  packetsLost : Int := 0
  extendedHighestSequenceNumber : UInt32 := 0
  jitter : UInt32 := 0
  deriving DecidableEq

/-- `UpdateJitter` on the difference in arrival time and in timestamps. -/
def updateJitterQ4 (jitterQ4 : UInt32) (frequency receiveDiffMs : Int) (timestampDiff : UInt32) :
    UInt32 :=
  let receiveDiffRtp := UInt32.ofInt ((receiveDiffMs * frequency).tdiv 1000)
  let timeDiffSamples := (receiveDiffRtp - timestampDiff).toInt32.toInt.natAbs
  if timeDiffSamples < 450000 then
    let jitterDiffQ4 := (UInt32.ofNat (timeDiffSamples * 16) - jitterQ4).toInt32.toInt
    jitterQ4 + UInt32.ofInt ((jitterDiffQ4 + 8) / 16)
  else jitterQ4

namespace SequenceStatistics

variable (stats : SequenceStatistics)

/-- The packet after a postponed one settles whether the stream was restarted. -/
def settleRestart (number : UInt16) (sequenceNumber : Int) : Bool × SequenceStatistics :=
  match stats.receivedSeqOutOfOrder with
  | none => (false, stats)
  | some postponed =>
      let counted := { stats with
        cumulativeLoss := stats.cumulativeLoss - 1
        receivedSeqOutOfOrder := none }
      if number = postponed + 1 then
        (true, { counted with
          lastReportSeqMax := sequenceNumber - 2
          receivedSeqMax := sequenceNumber - 2 })
      else (false, counted)

/-- `UpdateOutOfOrder`, `MpPrimaryUpdateOutOfOrder` and `MpSecondaryUpdateOutOfOrder`. What
is compared with a postponed number is the number in this numbering, but what is postponed
is always the RTP sequence number. -/
def updateOutOfOrder (maxReorderingThreshold : Int)
    (number rtpNumber : UInt16) (sequenceNumber : Int) : ArrivalOrder × SequenceStatistics :=
  let (restarted, settled) := stats.settleRestart number sequenceNumber
  if restarted then (.inOrder, settled)
  else if maxReorderingThreshold < (sequenceNumber - settled.receivedSeqMax).natAbs then
    (.postponed, { settled with
      receivedSeqOutOfOrder := some rtpNumber
      cumulativeLoss := settled.cumulativeLoss + 1 })
  else if settled.receivedSeqMax < sequenceNumber then (.inOrder, settled)
  else (.old, settled)

/-- A packet is counted, as the first one or relative to the highest number. -/
def arrive (maxReorderingThreshold : Int)
    (number rtpNumber : UInt16) (sequenceNumber : Int) : ArrivalOrder × SequenceStatistics :=
  let counted := { stats with cumulativeLoss := stats.cumulativeLoss - 1 }
  if counted.receivedSeqFirst < 0 then
    (.inOrder, { counted with
      receivedSeqFirst := sequenceNumber
      lastReportSeqMax := sequenceNumber - 1
      receivedSeqMax := sequenceNumber - 1 })
  else counted.updateOutOfOrder maxReorderingThreshold number rtpNumber sequenceNumber

/-- A packet in order moves the highest number; what it skips is lost for now. -/
def advance (sequenceNumber : Int) : SequenceStatistics :=
  { stats with
    cumulativeLoss := stats.cumulativeLoss + (sequenceNumber - stats.receivedSeqMax)
    receivedSeqMax := sequenceNumber }

/-- `UpdateJitter`, `UpdateJitter_p` and `UpdateJitter_s`. -/
def updateJitter (packet : RtpPacketReceived) (nowMs : Int) : SequenceStatistics :=
  { stats with
    jitterQ4 := updateJitterQ4 stats.jitterQ4 packet.payloadTypeFrequency
      (nowMs - stats.lastReceiveTimeMs) (packet.timestamp - stats.lastReceivedTimestamp) }

/-- The packet the next jitter is relative to. -/
def noteReceived (packet : RtpPacketReceived) (nowMs : Int) : SequenceStatistics :=
  { stats with
    lastReceivedTimestamp := packet.timestamp
    lastReceiveTimeMs := nowMs }

/-- On a path, only a packet with a new timestamp and exactly this path id counts. -/
def updatePathJitter (pathid : Nat) (packet : RtpPacketReceived)
    (nowMs : Int) : SequenceStatistics :=
  if packet.subflowId = pathid ∧ packet.timestamp ≠ stats.lastReceivedTimestamp then
    (stats.updateJitter packet nowMs).noteReceived packet nowMs
  else stats

/-- What a path keeps after one of its packets, once the number of the packet is placed. -/
def receive (maxReorderingThreshold : Int)
    (packet : RtpPacketReceived) (pathNumber nowMs : Int) : SequenceStatistics :=
  let arrived := stats.arrive maxReorderingThreshold packet.subflowSeq packet.sequenceNumber
    pathNumber
  if arrived.1 = .inOrder then
    (arrived.2.advance pathNumber).updatePathJitter packet.subflow.pathid packet nowMs
  else arrived.2

/-- `CalculateRtcpStatistics`, `MpPrimaryCalculateRtcpStatistics` and
`MpSecondaryCalculateRtcpStatistics`, in their own numbering. -/
def calculateRtcpStatistics : NumberingReport × SequenceStatistics :=
  let expSinceLast := stats.receivedSeqMax - stats.lastReportSeqMax
  let lostSinceLast := stats.cumulativeLoss - stats.lastReportCumulativeLoss
  let packetsLost := stats.cumulativeLoss + stats.cumulativeLossRtcpOffset
  ({ fractionLost :=
        if 0 < expSinceLast ∧ 0 < lostSinceLast then
          UInt8.ofInt ((255 * lostSinceLast).tdiv expSinceLast)
        else 0
     packetsLost := max packetsLost 0
     extendedHighestSequenceNumber := UInt32.ofInt stats.receivedSeqMax
     jitter := stats.jitterQ4 >>> 4 },
    { stats with
      cumulativeLossRtcpOffset :=
        if packetsLost < 0 then -stats.cumulativeLoss else stats.cumulativeLossRtcpOffset
      lastReportCumulativeLoss := stats.cumulativeLoss
      lastReportSeqMax := stats.receivedSeqMax })

/-- The account of a path: loss, first and highest number, and a packet put off. -/
structure Counts (stats : SequenceStatistics) (loss first highest : Int)
    (postponed : Option UInt16) : Prop where
  loss : stats.cumulativeLoss = loss
  first : stats.receivedSeqFirst = first
  highest : stats.receivedSeqMax = highest
  postponed : stats.receivedSeqOutOfOrder = postponed

section Counting

variable {stats : SequenceStatistics} {maxReorderingThreshold pathNumber : Int}
variable (packet : RtpPacketReceived) (nowMs : Int)

theorem Counts.updatePathJitter {loss first highest : Int} {postponed : Option UInt16}
    (counts : stats.Counts loss first highest postponed) (pathid : Nat) :
    (stats.updatePathJitter pathid packet nowMs).Counts loss first highest postponed := by
  unfold SequenceStatistics.updatePathJitter
  split
  · exact ⟨counts.loss, counts.first, counts.highest, counts.postponed⟩
  · exact counts

/-- A report does not change the account. -/
theorem Counts.calculateRtcpStatistics {loss first highest : Int} {postponed : Option UInt16}
    (counts : stats.Counts loss first highest postponed) :
    stats.calculateRtcpStatistics.2.Counts loss first highest postponed :=
  ⟨counts.loss, counts.first, counts.highest, counts.postponed⟩

/-- The first packet of a path opens its account. -/
theorem receive_first (maxReorderingThreshold pathNumber : Int)
    (fresh : stats.receivedSeqFirst < 0) :
    (stats.receive maxReorderingThreshold packet pathNumber nowMs).Counts stats.cumulativeLoss
      pathNumber pathNumber stats.receivedSeqOutOfOrder := by
  have arrived : stats.arrive maxReorderingThreshold packet.subflowSeq packet.sequenceNumber
      pathNumber = (.inOrder, { stats with
        cumulativeLoss := stats.cumulativeLoss - 1
        receivedSeqFirst := pathNumber
        lastReportSeqMax := pathNumber - 1
        receivedSeqMax := pathNumber - 1 }) := if_pos fresh
  unfold receive
  rw [arrived]
  dsimp only
  rw [if_pos rfl]
  apply Counts.updatePathJitter
  refine ⟨?_, rfl, rfl, rfl⟩
  change stats.cumulativeLoss - 1 + (pathNumber - (pathNumber - 1)) = _
  omega

/-- Any further packet near the highest number is counted, and raises the highest number
if it is above it. -/
theorem receive_next (known : 0 ≤ stats.receivedSeqFirst)
    (settled : stats.receivedSeqOutOfOrder = none)
    (near : ((pathNumber - stats.receivedSeqMax).natAbs : Int) ≤ maxReorderingThreshold) :
    (stats.receive maxReorderingThreshold packet pathNumber nowMs).Counts
      (stats.cumulativeLoss - 1 + (max stats.receivedSeqMax pathNumber - stats.receivedSeqMax))
      stats.receivedSeqFirst (max stats.receivedSeqMax pathNumber) none := by
  have arrived : stats.arrive maxReorderingThreshold packet.subflowSeq packet.sequenceNumber
      pathNumber = (if stats.receivedSeqMax < pathNumber then .inOrder else .old,
        { stats with cumulativeLoss := stats.cumulativeLoss - 1 }) := by
    unfold arrive updateOutOfOrder settleRestart
    dsimp only
    rw [if_neg (not_lt.mpr known), settled]
    dsimp only
    rw [if_neg Bool.false_ne_true, if_neg (not_lt.mpr near)]
    split <;> rfl
  unfold receive
  rw [arrived]
  dsimp only
  by_cases above : stats.receivedSeqMax < pathNumber
  · rw [if_pos above, if_pos rfl, max_eq_right above.le]
    apply Counts.updatePathJitter
    exact ⟨rfl, rfl, rfl, settled⟩
  · rw [if_neg above, if_neg nofun, max_eq_left (not_lt.mp above)]
    refine ⟨?_, rfl, rfl, settled⟩
    change stats.cumulativeLoss - 1 = _
    omega

end Counting

end SequenceStatistics

/-- `RtcpStatistics`: what is not computed is zero. -/
structure RtcpStatistics where
  overall : NumberingReport := {}
  primary : NumberingReport := {}
  secondary : NumberingReport := {}
  deriving DecidableEq

/-- The values of a path. -/
def RtcpStatistics.on (statistics : RtcpStatistics) : Subflow → NumberingReport
  | .primary => statistics.primary
  | .secondary => statistics.secondary

/-- `StreamStatisticianImpl`, without the rates and the byte counters. An old packet can be counted
as retransmitted twice, so that the difference of the two packet counters wraps. -/
structure StreamStatistician where
  maxReorderingThreshold : Int
  enableRetransmitDetection : Bool := false
  overall : SequenceStatistics := {}
  primary : SequenceStatistics := {}
  secondary : SequenceStatistics := {}
  seqUnwrapper : Option Int := none
  transmittedPackets : UInt32 := 0
  retransmittedPackets : UInt32 := 0

namespace StreamStatistician

variable (s : StreamStatistician)

/-- What is kept for a path. -/
def on : Subflow → SequenceStatistics
  | .primary => s.primary
  | .secondary => s.secondary

/-- Replace what is kept for a path. -/
def setOn (path : Subflow) (stats : SequenceStatistics) : StreamStatistician :=
  match path with
  | .primary => { s with primary := stats }
  | .secondary => { s with secondary := stats }

section Receiving

/-! The delay up to which an old packet is not taken for a retransmission is computed from
the jitter and the frequency in floating point; it is the parameter `maxDelayMs`. -/

variable (maxDelayMs : UInt32 → UInt32 → Int)

/-- `IsRetransmitOfOldPacket`. -/
def isRetransmitOfOldPacket (s : StreamStatistician) (packet : RtpPacketReceived)
    (nowMs : Int) : Bool :=
  let frequencyKhz := UInt32.ofInt (packet.payloadTypeFrequency.tdiv 1000)
  let timestampDiff := packet.timestamp - s.overall.lastReceivedTimestamp
  let delay := maxDelayMs (s.overall.jitterQ4 >>> 4) frequencyKhz
  decide (nowMs - s.overall.lastReceiveTimeMs >
    ((timestampDiff / frequencyKhz).toNat : Int) + if delay = 0 then 1 else delay)

/-- An old packet may be a retransmission, which is counted if that is enabled. -/
def noteArrival (s : StreamStatistician) (arrival : ArrivalOrder) (packet : RtpPacketReceived)
    (nowMs : Int) : StreamStatistician :=
  if arrival = .old ∧ s.enableRetransmitDetection ∧
      s.isRetransmitOfOldPacket maxDelayMs packet nowMs then
    { s with retransmittedPackets := s.retransmittedPackets + 1 }
  else s

/-- The packet is counted by its RTP sequence number. -/
def arriveOverall (s : StreamStatistician) (packet : RtpPacketReceived) (sequenceNumber : Int)
    (nowMs : Int) : StreamStatistician :=
  let arrived := s.overall.arrive s.maxReorderingThreshold packet.sequenceNumber
    packet.sequenceNumber sequenceNumber
  { s with overall := arrived.2 }.noteArrival maxDelayMs arrived.1 packet nowMs

/-- The packet is counted by its number on its path. -/
def arriveOnPath (s : StreamStatistician) (packet : RtpPacketReceived) (pathNumber : Int)
    (nowMs : Int) : ArrivalOrder × StreamStatistician :=
  let arrived := (s.on packet.subflow).arrive s.maxReorderingThreshold packet.subflowSeq
    packet.sequenceNumber pathNumber
  (arrived.1, (s.setOn packet.subflow arrived.2).noteArrival maxDelayMs arrived.1 packet nowMs)

/-- The rest of `UpdateCounters`, for a packet in order on its path. -/
def receiveInOrder (s : StreamStatistician) (packet : RtpPacketReceived)
    (sequenceNumber pathNumber nowMs : Int) : StreamStatistician :=
  let path := packet.subflow
  let s := s.setOn path ((s.on path).advance pathNumber)
  let s := s.setOn path ((s.on path).updatePathJitter path.pathid packet nowMs)
  let overall := s.overall.advance sequenceNumber
  let overall :=
    if packet.timestamp ≠ overall.lastReceivedTimestamp ∧
        1 < s.transmittedPackets - s.retransmittedPackets then
      overall.updateJitter packet nowMs
    else overall
  { s with
    overall := overall.noteReceived packet nowMs
    seqUnwrapper := some sequenceNumber }

/-- `UpdateCounters`. A packet out of order in the RTP numbering goes on like one in order. -/
def updateCounters (s : StreamStatistician) (packet : RtpPacketReceived) (nowMs : Int) :
    StreamStatistician :=
  let s := { s with transmittedPackets := s.transmittedPackets + 1 }
  let sequenceNumber := unwrapWithoutUpdate s.seqUnwrapper packet.sequenceNumber
  let s := s.arriveOverall maxDelayMs packet sequenceNumber nowMs
  let pathNumber := unwrapWithoutUpdate s.seqUnwrapper packet.subflowSeq
  let (arrival, s) := s.arriveOnPath maxDelayMs packet pathNumber nowMs
  if arrival = .inOrder then s.receiveInOrder packet sequenceNumber pathNumber nowMs else s

end Receiving

/-- The stream has packets, and the last one in order is recent. -/
def isActive (nowMs : Int) : Bool :=
  decide (nowMs - s.overall.lastReceiveTimeMs < kStatisticsTimeoutMs) &&
    decide (0 ≤ s.overall.receivedSeqFirst)

/-- `MpPrimaryCalculateRtcpStatistics` and `MpSecondaryCalculateRtcpStatistics`: the highest
RTP sequence number goes along. -/
def calculateOnPath (path : Subflow) : RtcpStatistics × StreamStatistician :=
  let calculated := (s.on path).calculateRtcpStatistics
  let overall : NumberingReport :=
    { extendedHighestSequenceNumber := UInt32.ofInt s.overall.receivedSeqMax }
  (match path with
    | .primary => { overall, primary := calculated.1 }
    | .secondary => { overall, secondary := calculated.1 },
    s.setOn path calculated.2)

/-- `CalculateRtcpStatistics`. -/
def calculateOverall : RtcpStatistics × StreamStatistician :=
  let calculated := s.overall.calculateRtcpStatistics
  ({ overall := calculated.1 }, { s with overall := calculated.2 })

/-- `GetActiveStatisticsAndReset`. -/
def getActiveStatisticsAndReset (pathid : Nat) (nowMs : Int)
    (collector : Collector) : Option RtcpStatistics × StreamStatistician :=
  if s.isActive nowMs then
    let calculated :=
      if pathid = 1 then s.calculateOnPath .primary
      else if pathid = 2 ∧ collector.mpIsSecondPathOpen ∧ ¬collector.schedulerMentions "red" then
        s.calculateOnPath .secondary
      else s.calculateOverall
    (some calculated.1, calculated.2)
  else (none, s)

section Frame

variable (maxDelayMs : UInt32 → UInt32 → Int) (s : StreamStatistician)
variable (packet : RtpPacketReceived) (nowMs : Int) (path : Subflow) (stats : SequenceStatistics)

@[simp] theorem setOn_on_same : (s.setOn path stats).on path = stats := by
  cases path <;> rfl

theorem setOn_on_of_ne {path other : Subflow} (differs : path ≠ other)
    (stats : SequenceStatistics) : (s.setOn path stats).on other = s.on other := by
  cases path <;> cases other <;> first | rfl | exact absurd rfl differs

@[simp] theorem setOn_seqUnwrapper : (s.setOn path stats).seqUnwrapper = s.seqUnwrapper := by
  cases path <;> rfl

@[simp] theorem setOn_maxReorderingThreshold :
    (s.setOn path stats).maxReorderingThreshold = s.maxReorderingThreshold := by
  cases path <;> rfl

/-- Counting a retransmission touches nothing else. -/
theorem noteArrival_frame (arrival : ArrivalOrder) :
    (∀ path, (s.noteArrival maxDelayMs arrival packet nowMs).on path = s.on path) ∧
      (s.noteArrival maxDelayMs arrival packet nowMs).seqUnwrapper = s.seqUnwrapper ∧
      (s.noteArrival maxDelayMs arrival packet nowMs).maxReorderingThreshold =
        s.maxReorderingThreshold := by
  unfold noteArrival
  split
  · exact ⟨fun path => by cases path <;> rfl, rfl, rfl⟩
  · exact ⟨fun _ => rfl, rfl, rfl⟩

theorem arriveOverall_frame (sequenceNumber : Int) :
    (∀ path, (s.arriveOverall maxDelayMs packet sequenceNumber nowMs).on path = s.on path) ∧
      (s.arriveOverall maxDelayMs packet sequenceNumber nowMs).seqUnwrapper = s.seqUnwrapper ∧
      (s.arriveOverall maxDelayMs packet sequenceNumber nowMs).maxReorderingThreshold =
        s.maxReorderingThreshold := by
  obtain ⟨paths, unwrapper, threshold⟩ := noteArrival_frame maxDelayMs
    { s with overall := (s.overall.arrive s.maxReorderingThreshold packet.sequenceNumber
      packet.sequenceNumber sequenceNumber).2 } packet nowMs
    (s.overall.arrive s.maxReorderingThreshold packet.sequenceNumber
      packet.sequenceNumber sequenceNumber).1
  refine ⟨fun path => (paths path).trans ?_, unwrapper, threshold⟩
  cases path <;> rfl

theorem arriveOnPath_frame (pathNumber : Int) :
    (s.arriveOnPath maxDelayMs packet pathNumber nowMs).2.seqUnwrapper = s.seqUnwrapper ∧
      (s.arriveOnPath maxDelayMs packet pathNumber nowMs).2.maxReorderingThreshold =
        s.maxReorderingThreshold ∧
      (s.arriveOnPath maxDelayMs packet pathNumber nowMs).2.on packet.subflow =
        ((s.on packet.subflow).arrive s.maxReorderingThreshold packet.subflowSeq
          packet.sequenceNumber pathNumber).2 ∧
      ∀ path, packet.subflow ≠ path →
        (s.arriveOnPath maxDelayMs packet pathNumber nowMs).2.on path = s.on path := by
  obtain ⟨paths, unwrapper, threshold⟩ := noteArrival_frame maxDelayMs
    (s.setOn packet.subflow ((s.on packet.subflow).arrive s.maxReorderingThreshold
      packet.subflowSeq packet.sequenceNumber pathNumber).2) packet nowMs
    ((s.on packet.subflow).arrive s.maxReorderingThreshold packet.subflowSeq
      packet.sequenceNumber pathNumber).1
  refine ⟨unwrapper.trans (setOn_seqUnwrapper ..),
    threshold.trans (setOn_maxReorderingThreshold ..), (paths _).trans (setOn_on_same ..), ?_⟩
  intro path differs
  exact (paths path).trans (setOn_on_of_ne s differs _)

theorem receiveInOrder_frame (sequenceNumber pathNumber : Int) :
    (s.receiveInOrder packet sequenceNumber pathNumber nowMs).seqUnwrapper = some sequenceNumber ∧
      (s.receiveInOrder packet sequenceNumber pathNumber nowMs).maxReorderingThreshold =
        s.maxReorderingThreshold ∧
      (s.receiveInOrder packet sequenceNumber pathNumber nowMs).on packet.subflow =
        ((s.on packet.subflow).advance pathNumber).updatePathJitter packet.subflow.pathid packet
          nowMs ∧
      ∀ path, packet.subflow ≠ path →
        (s.receiveInOrder packet sequenceNumber pathNumber nowMs).on path = s.on path := by
  unfold receiveInOrder
  refine ⟨rfl, ?_, ?_, fun path differs => ?_⟩
  · cases packet.subflow <;> rfl
  · cases packet.subflow <;> rfl
  · cases known : packet.subflow <;> cases path <;> first | rfl | exact absurd known differs

/-- Every part of the state after a packet, except for the overall numbering and the packet
counts: a packet is counted on its path as if there were no other, once its number is
placed, and leaves the other path as it is. -/
theorem updateCounters_frame :
    (s.updateCounters maxDelayMs packet nowMs).on packet.subflow =
        (s.on packet.subflow).receive s.maxReorderingThreshold packet
          (unwrapWithoutUpdate s.seqUnwrapper packet.subflowSeq) nowMs ∧
      (∀ path, packet.subflow ≠ path →
        (s.updateCounters maxDelayMs packet nowMs).on path = s.on path) ∧
      (s.updateCounters maxDelayMs packet nowMs).maxReorderingThreshold =
        s.maxReorderingThreshold ∧
      ((s.updateCounters maxDelayMs packet nowMs).seqUnwrapper = s.seqUnwrapper ∨
        (s.updateCounters maxDelayMs packet nowMs).seqUnwrapper =
          some (unwrapWithoutUpdate s.seqUnwrapper packet.sequenceNumber)) := by
  let counted := { s with transmittedPackets := s.transmittedPackets + 1 }
  have same : ∀ path, counted.on path = s.on path := fun path => by cases path <;> rfl
  let sequenceNumber := unwrapWithoutUpdate s.seqUnwrapper packet.sequenceNumber
  let middle := counted.arriveOverall maxDelayMs packet sequenceNumber nowMs
  obtain ⟨paths, unwrapper, threshold⟩ :=
    arriveOverall_frame maxDelayMs counted packet nowMs sequenceNumber
  let pathNumber := unwrapWithoutUpdate middle.seqUnwrapper packet.subflowSeq
  have placed : pathNumber = unwrapWithoutUpdate s.seqUnwrapper packet.subflowSeq :=
    congrArg (unwrapWithoutUpdate · packet.subflowSeq) unwrapper
  let late := middle.arriveOnPath maxDelayMs packet pathNumber nowMs
  obtain ⟨lateUnwrapper, lateThreshold, own, other⟩ :=
    arriveOnPath_frame maxDelayMs middle packet nowMs pathNumber
  have result : s.updateCounters maxDelayMs packet nowMs =
      if late.1 = .inOrder then late.2.receiveInOrder packet sequenceNumber pathNumber nowMs
      else late.2 := rfl
  have arrived : (middle.on packet.subflow).arrive middle.maxReorderingThreshold
      packet.subflowSeq packet.sequenceNumber pathNumber =
        (s.on packet.subflow).arrive s.maxReorderingThreshold packet.subflowSeq
          packet.sequenceNumber (unwrapWithoutUpdate s.seqUnwrapper packet.subflowSeq) := by
    rw [placed, paths, same, threshold]
  have order : late.1 = ((s.on packet.subflow).arrive s.maxReorderingThreshold packet.subflowSeq
      packet.sequenceNumber (unwrapWithoutUpdate s.seqUnwrapper packet.subflowSeq)).1 :=
    congrArg Prod.fst arrived
  rw [arrived] at own
  rw [result]
  unfold SequenceStatistics.receive
  dsimp only
  rw [← order, ← own, ← placed]
  by_cases ahead : late.1 = .inOrder
  · obtain ⟨last, kept, moved, left⟩ :=
      receiveInOrder_frame late.2 packet nowMs sequenceNumber pathNumber
    rw [if_pos ahead, if_pos ahead]
    refine ⟨moved, fun path differs => ?_, ?_, Or.inr last⟩
    · exact (left path differs).trans ((other path differs).trans ((paths path).trans (same path)))
    · exact kept.trans (lateThreshold.trans threshold)
  · rw [if_neg ahead, if_neg ahead]
    refine ⟨rfl, fun path differs => ?_, lateThreshold.trans threshold,
      Or.inl (lateUnwrapper.trans unwrapper)⟩
    exact (other path differs).trans ((paths path).trans (same path))

/-- What a request for a report leaves on a path. -/
theorem getActiveStatisticsAndReset_frame (pathid : Nat) (collector : Collector) :
    (s.getActiveStatisticsAndReset pathid nowMs collector).2.seqUnwrapper = s.seqUnwrapper ∧
      (s.getActiveStatisticsAndReset pathid nowMs collector).2.maxReorderingThreshold =
        s.maxReorderingThreshold ∧
      ∀ path : Subflow, (s.getActiveStatisticsAndReset pathid nowMs collector).2.on path =
        if s.isActive nowMs ∧ path.reportedBy pathid collector then
          (s.on path).calculateRtcpStatistics.2
        else s.on path := by
  unfold getActiveStatisticsAndReset
  split_ifs with active primary secondary
  · refine ⟨rfl, rfl, fun path => ?_⟩
    cases path with
    | primary => rw [if_pos ⟨active, primary⟩]; rfl
    | secondary =>
        rw [if_neg fun asked => absurd (primary.symm.trans asked.2.1) (by decide)]
        rfl
  · refine ⟨rfl, rfl, fun path => ?_⟩
    cases path with
    | primary => rw [if_neg fun asked => primary asked.2]; rfl
    | secondary => rw [if_pos ⟨active, secondary⟩]; rfl
  · refine ⟨rfl, rfl, fun path => ?_⟩
    cases path with
    | primary => rw [if_neg fun asked => primary asked.2]; rfl
    | secondary => rw [if_neg fun asked => secondary asked.2]; rfl
  · refine ⟨rfl, rfl, fun path => ?_⟩
    rw [if_neg fun asked => active asked.1]

end Frame

end StreamStatistician

/-- `ReportBlock::SetCumulativeLost`. -/
def fitsReportBlock (cumulativeLost : Int) : Bool :=
  decide (-8388608 ≤ cumulativeLost) && decide (cumulativeLost < 8388608)

/-- The report block that `RtcpReportBlocks` makes of the statistics of a stream. -/
def addReportBlock (ssrc : UInt32) (pathid : Nat) (statistics : RtcpStatistics) :
    Option ReportBlock :=
  let path := if pathid ≠ 2 then statistics.primary else statistics.secondary
  if fitsReportBlock path.packetsLost then
    some {
      sourceSsrc := ssrc
      fractionLost := path.fractionLost
      cumulativeLost := Int32.ofInt path.packetsLost
      extendedHighSeqNum := path.extendedHighestSequenceNumber
      jitter := path.jitter
      extendedHighSeqNumP := statistics.overall.extendedHighestSequenceNumber }
  else none

/-- What happens to a statistician. -/
inductive StatisticsEvent
  | packet (packet : RtpPacketReceived) (nowMs : Int)
  | report (pathid : Nat) (nowMs : Int) (collector : Collector)
  | setMaxReorderingThreshold (threshold : Int)
  | enableRetransmitDetection (enable : Bool)

/-- One event at the statistician of a stream; a request for a report is answered with the
path id it is for. -/
def statisticsStep (maxDelayMs : UInt32 → UInt32 → Int) (ssrc : UInt32) (s : StreamStatistician) :
    StatisticsEvent → StreamStatistician × List (Nat × Option ReportBlock)
  | .packet packet nowMs => (s.updateCounters maxDelayMs packet nowMs, [])
  | .report pathid nowMs collector =>
      let answer := s.getActiveStatisticsAndReset pathid nowMs collector
      (answer.2, [(pathid, answer.1.bind (addReportBlock ssrc pathid))])
  | .setMaxReorderingThreshold threshold => ({ s with maxReorderingThreshold := threshold }, [])
  | .enableRetransmitDetection enable => ({ s with enableRetransmitDetection := enable }, [])

end MpWebRtc
