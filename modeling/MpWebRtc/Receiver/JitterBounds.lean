import MpWebRtc.Math.Run
import MpWebRtc.Receiver.StreamStatistics
import Mathlib.Tactic.SplitIfs
import Mathlib.Tactic.Zify

/-!
# Bounds of the jitter

The jitter of a numbering is kept in a sixteenth of a tick, and moves by a sixteenth of its distance
to the newest difference between the times of arrival and the timestamps. Differences from 450000
ticks on are not counted, so that it never gets above that. The cut-off looks at the absolute value
of a signed number of 32 bits, which the smallest one does not have.
-/

namespace MpWebRtc

open Math.Run

/-- A signed number of some bits; none where it overflows. -/
def signedOf (bits : Nat) (value : Int) : Option Int :=
  if -2 ^ (bits - 1) ≤ value ∧ value < 2 ^ (bits - 1) then some value else none

/-- The cut-off of the jitter, in ticks. -/
def jitterCutOff : Nat := 450000

/-- What a difference in time is in ticks, without the difference of the timestamps. -/
def ticksOff (frequency receiveDiffMs : Int) (timestampDiff : UInt32) : UInt32 :=
  UInt32.ofInt ((receiveDiffMs * frequency).tdiv 1000) - timestampDiff

/-- `UpdateJitter`; none where a signed number overflows. -/
def checkedJitterQ4 (jitterQ4 : UInt32) (frequency receiveTimeMs lastReceiveTimeMs : Int)
    (timestampDiff : UInt32) : Option UInt32 := do
  let receiveDiffMs ← signedOf 64 (receiveTimeMs - lastReceiveTimeMs)
  let scaled ← signedOf 64 (receiveDiffMs * frequency)
  let receiveDiffRtp := UInt32.ofInt (scaled.tdiv 1000)
  let timeDiffSamples ← signedOf 32 (receiveDiffRtp - timestampDiff).toInt32.toInt.natAbs
  if timeDiffSamples < jitterCutOff then
    let shifted ← signedOf 32 (timeDiffSamples * 16)
    let jitterDiffQ4 := (UInt32.ofInt shifted - jitterQ4).toInt32.toInt
    let rounded ← signedOf 32 (jitterDiffQ4 + 8)
    some (jitterQ4 + UInt32.ofInt (rounded / 16))
  else some jitterQ4

/-- No signed number of an update overflows before the cut-off: neither the difference in time and
its product with the frequency, nor the absolute value of the difference in ticks. -/
structure JitterFits (frequency receiveTimeMs lastReceiveTimeMs : Int) (timestampDiff : UInt32) :
    Prop where
  lower : -2 ^ 63 ≤ receiveTimeMs - lastReceiveTimeMs
  upper : receiveTimeMs - lastReceiveTimeMs < 2 ^ 63
  scaledLower : -2 ^ 63 ≤ (receiveTimeMs - lastReceiveTimeMs) * frequency
  scaledUpper : (receiveTimeMs - lastReceiveTimeMs) * frequency < 2 ^ 63
  notSmallest : ticksOff frequency (receiveTimeMs - lastReceiveTimeMs) timestampDiff ≠ 2147483648

section Update

variable {jitterQ4 : UInt32} {frequency receiveTimeMs lastReceiveTimeMs : Int}
  {timestampDiff : UInt32}

theorem signedOf_of_fits {bits : Nat} {value : Int} (lower : -2 ^ (bits - 1) ≤ value)
    (upper : value < 2 ^ (bits - 1)) : signedOf bits value = some value :=
  if_pos ⟨lower, upper⟩

theorem signedOf_eq_some {bits : Nat} {value result : Int}
    (done : signedOf bits value = some result) :
    result = value ∧ -2 ^ (bits - 1) ≤ value ∧ value < 2 ^ (bits - 1) := by
  unfold signedOf at done
  split_ifs at done with fits
  exact ⟨(Option.some.inj done).symm, fits⟩

theorem toInt_toInt32 (value : UInt32) :
    value.toInt32.toInt = if value.toNat < 2 ^ 31 then (value.toNat : Int)
      else value.toNat - 2 ^ 32 := by
  have same : value.toBitVec.toNat = value.toNat := rfl
  show value.toBitVec.toInt = _
  simp only [BitVec.toInt_eq_toNat_cond, same]
  split_ifs <;> omega

theorem toNat_ofInt (value : Int) : (UInt32.ofInt value).toNat = (value % 2 ^ 32).toNat := by
  unfold UInt32.ofInt
  rw [UInt32.toNat_ofNat']
  omega

/-- A change that stays in range is added without its wrap. -/
theorem toNat_add_emod {number : Nat} {change : Int} (lower : 0 ≤ number + change)
    (upper : number + change < 2 ^ 32) :
    (number + (change % 2 ^ 32).toNat) % 2 ^ 32 = (number + change).toNat := by
  have back : ((change % 2 ^ 32).toNat : Int) = change % 2 ^ 32 :=
    Int.toNat_of_nonneg (Int.emod_nonneg _ (by decide))
  zify
  rw [back, Int.toNat_of_nonneg lower, Int.add_emod_emod]
  exact Int.emod_eq_of_lt lower upper

/-- The absolute value of a number of 32 bits fits, except for that of the smallest one. -/
theorem natAbs_toInt32_lt_iff (value : UInt32) :
    (value.toInt32.toInt.natAbs : Int) < 2 ^ 31 ↔ value ≠ 2147483648 := by
  have bounded := value.toNat_lt
  have smallest : value = 2147483648 ↔ value.toNat = 2 ^ 31 := by
    rw [← UInt32.toNat_inj]
    rfl
  rw [Ne, smallest, toInt_toInt32]
  split_ifs <;> omega

section

variable (bounded : jitterQ4.toNat ≤ 16 * jitterCutOff)
include bounded

/-- The distance of a small number of ticks to the jitter. -/
theorem jitterDiffQ4_eq {ticks : Nat} (small : ticks < jitterCutOff) :
    (UInt32.ofNat (ticks * 16) - jitterQ4).toInt32.toInt = ticks * 16 - jitterQ4.toNat := by
  unfold jitterCutOff at bounded small
  rw [toInt_toInt32, UInt32.toNat_sub, UInt32.toNat_ofNat']
  split_ifs <;> omega

/-- The jitter moves by a sixteenth of the distance, and stays below the cut-off. -/
theorem toNat_updateJitterQ4_le (receiveDiffMs : Int) :
    (updateJitterQ4 jitterQ4 frequency receiveDiffMs timestampDiff).toNat ≤ 16 * jitterCutOff := by
  unfold updateJitterQ4
  dsimp only
  split_ifs with small
  · rw [jitterDiffQ4_eq bounded small, UInt32.toNat_add, toNat_ofInt]
    generalize (UInt32.ofInt ((receiveDiffMs * frequency).tdiv 1000) -
      timestampDiff).toInt32.toInt.natAbs = ticks at small
    unfold jitterCutOff at *
    rw [toNat_add_emod (by omega) (by omega)]
    omega
  · exact bounded

/-- An update is free of overflow exactly when the first steps of it are, and then it is the one
in exact numbers. -/
theorem checkedJitterQ4_eq
    (fits : JitterFits frequency receiveTimeMs lastReceiveTimeMs timestampDiff) :
    checkedJitterQ4 jitterQ4 frequency receiveTimeMs lastReceiveTimeMs timestampDiff =
      some (updateJitterQ4 jitterQ4 frequency (receiveTimeMs - lastReceiveTimeMs)
        timestampDiff) := by
  have absolute := (natAbs_toInt32_lt_iff _).mpr fits.notSmallest
  unfold ticksOff at absolute
  unfold checkedJitterQ4 updateJitterQ4
  rw [signedOf_of_fits fits.lower fits.upper, Option.bind_eq_bind, Option.bind_some,
    signedOf_of_fits fits.scaledLower fits.scaledUpper, Option.bind_some]
  dsimp only
  generalize UInt32.ofInt (((receiveTimeMs - lastReceiveTimeMs) * frequency).tdiv 1000) -
    timestampDiff = difference at absolute
  rw [signedOf_of_fits (by omega) (by omega), Option.bind_some]
  by_cases small : difference.toInt32.toInt.natAbs < jitterCutOff
  · have distance := jitterDiffQ4_eq bounded small
    have few := small
    have most := bounded
    unfold jitterCutOff at few most
    have exact_ticks : UInt32.ofInt ((difference.toInt32.toInt.natAbs : Int) * 16) =
        UInt32.ofNat (difference.toInt32.toInt.natAbs * 16) := by
      rw [← UInt32.toNat_inj, toNat_ofInt, UInt32.toNat_ofNat']
      omega
    rw [if_pos (Int.ofNat_lt.mpr small), if_pos few, signedOf_of_fits (by omega) (by omega),
      Option.bind_some, exact_ticks, distance, signedOf_of_fits (by omega) (by omega),
      Option.bind_some]
  · have many := small
    unfold jitterCutOff at many
    rw [if_neg fun below => small (Int.ofNat_lt.mp below), if_neg many]

end

theorem jitterFits_of_isSome
    (done : (checkedJitterQ4 jitterQ4 frequency receiveTimeMs lastReceiveTimeMs
      timestampDiff).isSome) :
    JitterFits frequency receiveTimeMs lastReceiveTimeMs timestampDiff := by
  obtain ⟨result, done⟩ := Option.isSome_iff_exists.mp done
  unfold checkedJitterQ4 at done
  obtain ⟨receiveDiffMs, passed, done⟩ := Option.bind_eq_some_iff.mp done
  obtain ⟨rfl, lower, upper⟩ := signedOf_eq_some passed
  obtain ⟨scaled, multiplied, done⟩ := Option.bind_eq_some_iff.mp done
  obtain ⟨rfl, scaledLower, scaledUpper⟩ := signedOf_eq_some multiplied
  obtain ⟨timeDiffSamples, absolute, done⟩ := Option.bind_eq_some_iff.mp done
  obtain ⟨-, -, small⟩ := signedOf_eq_some absolute
  exact ⟨lower, upper, scaledLower, scaledUpper, (natAbs_toInt32_lt_iff _).mp small⟩

end Update

namespace SequenceStatistics

/-- The jitter is below sixteen times the cut-off. -/
def JitterBounded (stats : SequenceStatistics) : Prop :=
  stats.jitterQ4.toNat ≤ 16 * jitterCutOff

/-- `UpdateJitter`, `UpdateJitter_p` and `UpdateJitter_s`; none where a signed number overflows. -/
def checkedJitter (stats : SequenceStatistics) (packet : RtpPacketReceived) (nowMs : Int) :
    Option SequenceStatistics :=
  (checkedJitterQ4 stats.jitterQ4 packet.payloadTypeFrequency nowMs stats.lastReceiveTimeMs
    (packet.timestamp - stats.lastReceivedTimestamp)).map fun jitterQ4 => { stats with jitterQ4 }

/-- The jitter of a path after a packet in order; none where a signed number overflows. -/
def checkedPathJitter (stats : SequenceStatistics) (pathid : Nat) (packet : RtpPacketReceived)
    (nowMs : Int) : Option SequenceStatistics :=
  if packet.subflowId = pathid ∧ packet.timestamp ≠ stats.lastReceivedTimestamp then
    (stats.checkedJitter packet nowMs).map (·.noteReceived packet nowMs)
  else some stats

/-- An update of the jitter with the packet does not overflow before the cut-off. -/
def UpdateFits (stats : SequenceStatistics) (packet : RtpPacketReceived) (nowMs : Int) : Prop :=
  JitterFits packet.payloadTypeFrequency nowMs stats.lastReceiveTimeMs
    (packet.timestamp - stats.lastReceivedTimestamp)

variable {stats : SequenceStatistics} {packet : RtpPacketReceived} {nowMs : Int}

theorem JitterBounded.updateJitter (bounded : stats.JitterBounded) :
    (stats.updateJitter packet nowMs).JitterBounded :=
  toNat_updateJitterQ4_le bounded _

theorem JitterBounded.updatePathJitter (bounded : stats.JitterBounded) (pathid : Nat) :
    (stats.updatePathJitter pathid packet nowMs).JitterBounded := by
  unfold SequenceStatistics.updatePathJitter
  split
  · exact bounded.updateJitter
  · exact bounded

theorem settleRestart_jitterQ4 (number : UInt16) (sequenceNumber : Int) :
    (stats.settleRestart number sequenceNumber).2.jitterQ4 = stats.jitterQ4 := by
  unfold settleRestart
  split
  · rfl
  · dsimp only
    split <;> rfl

/-- Counting a packet leaves the jitter. -/
theorem arrive_jitterQ4 (maxReorderingThreshold : Int) (number rtpNumber : UInt16)
    (sequenceNumber : Int) :
    (stats.arrive maxReorderingThreshold number rtpNumber sequenceNumber).2.jitterQ4 =
      stats.jitterQ4 := by
  unfold arrive
  dsimp only
  split
  · rfl
  · unfold updateOutOfOrder
    dsimp only
    split_ifs <;> apply settleRestart_jitterQ4

theorem JitterBounded.arrive (bounded : stats.JitterBounded) (maxReorderingThreshold : Int)
    (number rtpNumber : UInt16) (sequenceNumber : Int) :
    (stats.arrive maxReorderingThreshold number rtpNumber sequenceNumber).2.JitterBounded := by
  unfold JitterBounded
  rw [arrive_jitterQ4]
  exact bounded

theorem JitterBounded.calculateRtcpStatistics (bounded : stats.JitterBounded) :
    stats.calculateRtcpStatistics.2.JitterBounded :=
  bounded

variable {result : SequenceStatistics}

theorem checkedJitter_eq_some_iff (bounded : stats.JitterBounded) :
    stats.checkedJitter packet nowMs = some result ↔
      stats.UpdateFits packet nowMs ∧ result = stats.updateJitter packet nowMs := by
  constructor
  · intro done
    have fits : stats.UpdateFits packet nowMs := by
      apply jitterFits_of_isSome
      rw [← Option.isSome_map, ← checkedJitter, done]
      rfl
    rw [checkedJitter, checkedJitterQ4_eq bounded fits] at done
    exact ⟨fits, (Option.some.inj done).symm⟩
  · rintro ⟨fits, rfl⟩
    rw [checkedJitter, checkedJitterQ4_eq bounded fits]
    rfl

/-- What an update of the jitter of a path needs to be free of overflow. -/
def PathUpdateFits (stats : SequenceStatistics) (pathid : Nat) (packet : RtpPacketReceived)
    (nowMs : Int) : Prop :=
  packet.subflowId = pathid → packet.timestamp ≠ stats.lastReceivedTimestamp →
    stats.UpdateFits packet nowMs

theorem checkedPathJitter_eq_some_iff (bounded : stats.JitterBounded) (pathid : Nat) :
    stats.checkedPathJitter pathid packet nowMs = some result ↔
      stats.PathUpdateFits pathid packet nowMs ∧
        result = stats.updatePathJitter pathid packet nowMs := by
  unfold checkedPathJitter updatePathJitter PathUpdateFits
  split_ifs with counted
  · rw [Option.map_eq_some_iff]
    constructor
    · rintro ⟨updated, done, rfl⟩
      obtain ⟨fits, rfl⟩ := (checkedJitter_eq_some_iff bounded).mp done
      exact ⟨fun _ _ => fits, rfl⟩
    · rintro ⟨fits, rfl⟩
      exact ⟨_, (checkedJitter_eq_some_iff bounded).mpr ⟨fits counted.1 counted.2, rfl⟩, rfl⟩
  · rw [Option.some_inj]
    constructor
    · rintro rfl
      exact ⟨fun same differs => absurd ⟨same, differs⟩ counted, rfl⟩
    · rintro ⟨-, rfl⟩
      rfl

end SequenceStatistics

namespace StreamStatistician

/-- The jitter of every numbering is below sixteen times the cut-off. -/
structure JitterBounded (s : StreamStatistician) : Prop where
  overall : s.overall.JitterBounded
  primary : s.primary.JitterBounded
  secondary : s.secondary.JitterBounded

variable (s : StreamStatistician)

/-- The overall numbering after a packet in order; none where a signed number overflows. -/
def checkedOverallJitter (packet : RtpPacketReceived)
    (sequenceNumber nowMs : Int) : Option SequenceStatistics :=
  let overall := s.overall.advance sequenceNumber
  if packet.timestamp ≠ overall.lastReceivedTimestamp ∧
      1 < s.transmittedPackets - s.retransmittedPackets then
    overall.checkedJitter packet nowMs
  else some overall

/-- The rest of `UpdateCounters`, for a packet in order on its path; none where a signed number of
an update of the jitter overflows. -/
def checkedReceiveInOrder (packet : RtpPacketReceived)
    (sequenceNumber pathNumber nowMs : Int) : Option StreamStatistician := do
  let path := packet.subflow
  let stats ← ((s.on path).advance pathNumber).checkedPathJitter path.pathid packet nowMs
  let overall ← s.checkedOverallJitter packet sequenceNumber nowMs
  some { s.setOn path stats with
    overall := overall.noteReceived packet nowMs
    seqUnwrapper := some sequenceNumber }

section Receiving

variable (maxDelayMs : UInt32 → UInt32 → Int)

/-- The packet is counted by its RTP sequence number. -/
def countedOverall (s : StreamStatistician) (packet : RtpPacketReceived) (nowMs : Int) :
    StreamStatistician :=
  { s with transmittedPackets := s.transmittedPackets + 1 }.arriveOverall maxDelayMs packet
    (unwrapWithoutUpdate s.seqUnwrapper packet.sequenceNumber) nowMs

/-- The number of the packet on its path. -/
def numberOnPath (s : StreamStatistician) (packet : RtpPacketReceived) (nowMs : Int) : Int :=
  unwrapWithoutUpdate (s.countedOverall maxDelayMs packet nowMs).seqUnwrapper packet.subflowSeq

/-- What a packet finds when it has been counted: whether it is in order on its path, and the
state the jitter is updated in. -/
def counted (s : StreamStatistician) (packet : RtpPacketReceived) (nowMs : Int) :
    ArrivalOrder × StreamStatistician :=
  (s.countedOverall maxDelayMs packet nowMs).arriveOnPath maxDelayMs packet
    (s.numberOnPath maxDelayMs packet nowMs) nowMs

/-- `UpdateCounters`; none where a signed number of an update of the jitter overflows. -/
def checkedUpdateCounters (s : StreamStatistician) (packet : RtpPacketReceived) (nowMs : Int) :
    Option StreamStatistician :=
  let s := { s with transmittedPackets := s.transmittedPackets + 1 }
  let sequenceNumber := unwrapWithoutUpdate s.seqUnwrapper packet.sequenceNumber
  let s := s.arriveOverall maxDelayMs packet sequenceNumber nowMs
  let pathNumber := unwrapWithoutUpdate s.seqUnwrapper packet.subflowSeq
  let (arrival, s) := s.arriveOnPath maxDelayMs packet pathNumber nowMs
  if arrival = .inOrder then s.checkedReceiveInOrder packet sequenceNumber pathNumber nowMs
  else some s

end Receiving

section Steps

variable {maxDelayMs : UInt32 → UInt32 → Int} {s : StreamStatistician}
  {packet : RtpPacketReceived} {nowMs : Int}

/-- A packet moves the overall jitter if its timestamp is new and the packets received exceed the
retransmitted ones by more than one, in a difference that wraps. -/
def MovesOverall (s : StreamStatistician) (packet : RtpPacketReceived) : Prop :=
  packet.timestamp ≠ s.overall.lastReceivedTimestamp ∧
    1 < s.transmittedPackets - s.retransmittedPackets

/-- What the updates of a packet in order on its path need to be free of overflow. -/
structure InOrderFits (s : StreamStatistician) (packet : RtpPacketReceived) (nowMs : Int) :
    Prop where
  path : (s.on packet.subflow).PathUpdateFits packet.subflow.pathid packet nowMs
  overall : s.MovesOverall packet → s.overall.UpdateFits packet nowMs

section

variable (bounded : s.JitterBounded)
include bounded

theorem JitterBounded.on (path : Subflow) : (s.on path).JitterBounded := by
  cases path with
  | primary => exact bounded.primary
  | secondary => exact bounded.secondary

theorem JitterBounded.setOn (path : Subflow)
    {stats : SequenceStatistics} (kept : stats.JitterBounded) :
    (s.setOn path stats).JitterBounded := by
  cases path with
  | primary => exact ⟨bounded.overall, kept, bounded.secondary⟩
  | secondary => exact ⟨bounded.overall, bounded.primary, kept⟩

theorem JitterBounded.noteArrival (arrival : ArrivalOrder) :
    (s.noteArrival maxDelayMs arrival packet nowMs).JitterBounded := by
  unfold StreamStatistician.noteArrival
  split
  · exact ⟨bounded.overall, bounded.primary, bounded.secondary⟩
  · exact bounded

theorem JitterBounded.counted : (s.counted maxDelayMs packet nowMs).2.JitterBounded := by
  have overall : (s.countedOverall maxDelayMs packet nowMs).JitterBounded := by
    apply JitterBounded.noteArrival
    exact ⟨bounded.overall.arrive .., bounded.primary, bounded.secondary⟩
  apply JitterBounded.noteArrival
  apply overall.setOn
  exact (overall.on _).arrive ..

end

instance (s : StreamStatistician) (packet : RtpPacketReceived) :
    Decidable (s.MovesOverall packet) :=
  inferInstanceAs (Decidable (_ ∧ _))

/-- The overall numbering after a packet in order, in exact numbers. -/
def overallJitter (s : StreamStatistician) (packet : RtpPacketReceived)
    (sequenceNumber nowMs : Int) : SequenceStatistics :=
  if s.MovesOverall packet then (s.overall.advance sequenceNumber).updateJitter packet nowMs
  else s.overall.advance sequenceNumber

theorem receiveInOrder_eq (sequenceNumber pathNumber : Int) :
    s.receiveInOrder packet sequenceNumber pathNumber nowMs =
      { s.setOn packet.subflow (((s.on packet.subflow).advance pathNumber).updatePathJitter
          packet.subflow.pathid packet nowMs) with
        overall := (s.overallJitter packet sequenceNumber nowMs).noteReceived packet nowMs
        seqUnwrapper := some sequenceNumber } := by
  unfold receiveInOrder
  cases packet.subflow <;> rfl

theorem checkedOverallJitter_eq_some_iff (bounded : s.overall.JitterBounded) (sequenceNumber : Int)
    {result : SequenceStatistics} :
    s.checkedOverallJitter packet sequenceNumber nowMs = some result ↔
      (s.MovesOverall packet → s.overall.UpdateFits packet nowMs) ∧
        result = s.overallJitter packet sequenceNumber nowMs := by
  by_cases moves : s.MovesOverall packet
  · have checked : s.checkedOverallJitter packet sequenceNumber nowMs =
        (s.overall.advance sequenceNumber).checkedJitter packet nowMs :=
      if_pos moves
    have exact : s.overallJitter packet sequenceNumber nowMs =
        (s.overall.advance sequenceNumber).updateJitter packet nowMs :=
      if_pos moves
    have advanced : (s.overall.advance sequenceNumber).JitterBounded := bounded
    rw [checked, exact, SequenceStatistics.checkedJitter_eq_some_iff advanced]
    exact and_congr_left fun _ => ⟨fun fits _ => fits, fun fits => fits moves⟩
  · have checked : s.checkedOverallJitter packet sequenceNumber nowMs =
        some (s.overall.advance sequenceNumber) :=
      if_neg moves
    have exact : s.overallJitter packet sequenceNumber nowMs = s.overall.advance sequenceNumber :=
      if_neg moves
    rw [checked, exact, Option.some_inj]
    exact ⟨fun same => ⟨fun other => absurd other moves, same.symm⟩, fun same => same.2.symm⟩

/-- Without overflow a packet in order leaves what exact numbers leave. -/
theorem checkedReceiveInOrder_eq_some_iff (bounded : s.JitterBounded)
    (sequenceNumber pathNumber : Int) {result : StreamStatistician} :
    s.checkedReceiveInOrder packet sequenceNumber pathNumber nowMs = some result ↔
      s.InOrderFits packet nowMs ∧
        result = s.receiveInOrder packet sequenceNumber pathNumber nowMs := by
  have advanced : ((s.on packet.subflow).advance pathNumber).JitterBounded :=
    bounded.on packet.subflow
  rw [receiveInOrder_eq]
  constructor
  · intro done
    obtain ⟨stats, pathDone, done⟩ := Option.bind_eq_some_iff.mp done
    obtain ⟨path, rfl⟩ := (SequenceStatistics.checkedPathJitter_eq_some_iff advanced _).mp pathDone
    obtain ⟨last, overallDone, done⟩ := Option.bind_eq_some_iff.mp done
    obtain ⟨overall, rfl⟩ := (checkedOverallJitter_eq_some_iff bounded.overall _).mp overallDone
    exact ⟨⟨path, overall⟩, (Option.some.inj done).symm⟩
  · rintro ⟨fits, rfl⟩
    apply Option.bind_eq_some_iff.mpr
    refine ⟨_, (SequenceStatistics.checkedPathJitter_eq_some_iff advanced _).mpr ⟨fits.path, rfl⟩,
      ?_⟩
    apply Option.bind_eq_some_iff.mpr
    exact ⟨_, (checkedOverallJitter_eq_some_iff bounded.overall _).mpr ⟨fits.overall, rfl⟩, rfl⟩

theorem JitterBounded.receiveInOrder (bounded : s.JitterBounded) (sequenceNumber pathNumber : Int) :
    (s.receiveInOrder packet sequenceNumber pathNumber nowMs).JitterBounded := by
  have advanced : ((s.on packet.subflow).advance pathNumber).JitterBounded :=
    bounded.on packet.subflow
  have onPath : (s.setOn packet.subflow (((s.on packet.subflow).advance pathNumber).updatePathJitter
      packet.subflow.pathid packet nowMs)).JitterBounded :=
    bounded.setOn _ (advanced.updatePathJitter _)
  have overall : (s.overallJitter packet sequenceNumber nowMs).JitterBounded := by
    unfold overallJitter
    split
    · exact SequenceStatistics.JitterBounded.updateJitter bounded.overall
    · exact bounded.overall
  rw [receiveInOrder_eq]
  exact ⟨overall, onPath.primary, onPath.secondary⟩

theorem updateCounters_eq :
    s.updateCounters maxDelayMs packet nowMs =
      if (s.counted maxDelayMs packet nowMs).1 = .inOrder then
        (s.counted maxDelayMs packet nowMs).2.receiveInOrder packet
          (unwrapWithoutUpdate s.seqUnwrapper packet.sequenceNumber)
          (s.numberOnPath maxDelayMs packet nowMs) nowMs
      else (s.counted maxDelayMs packet nowMs).2 :=
  rfl

theorem checkedUpdateCounters_eq :
    s.checkedUpdateCounters maxDelayMs packet nowMs =
      if (s.counted maxDelayMs packet nowMs).1 = .inOrder then
        (s.counted maxDelayMs packet nowMs).2.checkedReceiveInOrder packet
          (unwrapWithoutUpdate s.seqUnwrapper packet.sequenceNumber)
          (s.numberOnPath maxDelayMs packet nowMs) nowMs
      else some (s.counted maxDelayMs packet nowMs).2 :=
  rfl

theorem JitterBounded.updateCounters (bounded : s.JitterBounded) :
    (s.updateCounters maxDelayMs packet nowMs).JitterBounded := by
  have counted : (s.counted maxDelayMs packet nowMs).2.JitterBounded := bounded.counted
  rw [updateCounters_eq]
  split
  · exact counted.receiveInOrder ..
  · exact counted

/-- What the updates of a packet need to be free of overflow; one that is not in order on its path
makes none. -/
def PacketFits (maxDelayMs : UInt32 → UInt32 → Int) (s : StreamStatistician)
    (packet : RtpPacketReceived) (nowMs : Int) : Prop :=
  (s.counted maxDelayMs packet nowMs).1 = .inOrder →
    (s.counted maxDelayMs packet nowMs).2.InOrderFits packet nowMs

theorem checkedUpdateCounters_eq_some_iff (bounded : s.JitterBounded)
    {result : StreamStatistician} :
    s.checkedUpdateCounters maxDelayMs packet nowMs = some result ↔
      s.PacketFits maxDelayMs packet nowMs ∧
        result = s.updateCounters maxDelayMs packet nowMs := by
  have counted : (s.counted maxDelayMs packet nowMs).2.JitterBounded := bounded.counted
  rw [updateCounters_eq, checkedUpdateCounters_eq]
  unfold PacketFits
  split_ifs with ahead
  · rw [checkedReceiveInOrder_eq_some_iff counted]
    exact and_congr_left fun _ => ⟨fun fits _ => fits, fun fits => fits ahead⟩
  · rw [Option.some_inj]
    exact ⟨fun same => ⟨fun other => absurd other ahead, same.symm⟩, fun same => same.2.symm⟩

end Steps

theorem JitterBounded.getActiveStatisticsAndReset {s : StreamStatistician}
    (bounded : s.JitterBounded) (pathid : Nat) (nowMs : Int) (collector : Collector) :
    (s.getActiveStatisticsAndReset pathid nowMs collector).2.JitterBounded := by
  unfold StreamStatistician.getActiveStatisticsAndReset
  split_ifs
  · exact bounded.setOn .primary (bounded.on .primary).calculateRtcpStatistics
  · exact bounded.setOn .secondary (bounded.on .secondary).calculateRtcpStatistics
  · exact ⟨bounded.overall.calculateRtcpStatistics, bounded.primary, bounded.secondary⟩
  · exact bounded

end StreamStatistician

section Run

variable (maxDelayMs : UInt32 → UInt32 → Int) (ssrc : UInt32)

/-- One event at the statistician of a stream; none where a signed number of an update of the
jitter overflows. -/
def checkedStatisticsStep (s : StreamStatistician) : StatisticsEvent → Option StreamStatistician
  | .packet packet nowMs => s.checkedUpdateCounters maxDelayMs packet nowMs
  | .report pathid nowMs collector =>
      some (s.getActiveStatisticsAndReset pathid nowMs collector).2
  | .setMaxReorderingThreshold threshold => some { s with maxReorderingThreshold := threshold }
  | .enableRetransmitDetection enable => some { s with enableRetransmitDetection := enable }

/-- The events of a run; none where a signed number of an update of the jitter overflows. -/
def checkedStatisticsRun (s : StreamStatistician) (events : List StatisticsEvent) :
    Option StreamStatistician :=
  events.foldlM (checkedStatisticsStep maxDelayMs) s

/-- The updates of an event are free of overflow; only packets make any. -/
def EventFits (s : StreamStatistician) : StatisticsEvent → Prop
  | .packet packet nowMs => s.PacketFits maxDelayMs packet nowMs
  | _ => True

/-- Up to every point of a run no update of the jitter has overflowed, and every jitter is below
sixteen times the cut-off. -/
def JitterSound (s : StreamStatistician) (events : List StatisticsEvent) : Prop :=
  ∀ before, before <+: events →
    ∃ reached, checkedStatisticsRun maxDelayMs s before = some reached ∧ reached.JitterBounded

variable {s : StreamStatistician}

theorem StreamStatistician.JitterBounded.step
    (bounded : s.JitterBounded) (event : StatisticsEvent) :
    (statisticsStep maxDelayMs ssrc s event).1.JitterBounded := by
  cases event with
  | packet packet nowMs => exact bounded.updateCounters
  | report pathid nowMs collector => exact bounded.getActiveStatisticsAndReset ..
  | setMaxReorderingThreshold threshold =>
      exact ⟨bounded.overall, bounded.primary, bounded.secondary⟩
  | enableRetransmitDetection enable =>
      exact ⟨bounded.overall, bounded.primary, bounded.secondary⟩

theorem checkedStatisticsStep_eq_some_iff {s result : StreamStatistician}
    (bounded : s.JitterBounded) (event : StatisticsEvent) :
    checkedStatisticsStep maxDelayMs s event = some result ↔
      EventFits maxDelayMs s event ∧ result = (statisticsStep maxDelayMs ssrc s event).1 := by
  cases event with
  | packet packet nowMs => exact StreamStatistician.checkedUpdateCounters_eq_some_iff bounded
  | report pathid nowMs collector =>
      exact ⟨fun same => ⟨trivial, (Option.some.inj same).symm⟩, fun same => by rw [same.2]; rfl⟩
  | setMaxReorderingThreshold threshold =>
      exact ⟨fun same => ⟨trivial, (Option.some.inj same).symm⟩, fun same => by rw [same.2]; rfl⟩
  | enableRetransmitDetection enable =>
      exact ⟨fun same => ⟨trivial, (Option.some.inj same).symm⟩, fun same => by rw [same.2]; rfl⟩

/-- A run is free of overflow exactly when each of its updates is, and leaves what exact numbers
leave. -/
theorem checkedStatisticsRun_eq_some_iff (bounded : s.JitterBounded)
    (events : List StatisticsEvent) {result : StreamStatistician} :
    checkedStatisticsRun maxDelayMs s events = some result ↔
      Along (statisticsStep maxDelayMs ssrc) (EventFits maxDelayMs) s events ∧
        result = finalState (statisticsStep maxDelayMs ssrc) s events := by
  induction events generalizing s with
  | nil => exact ⟨fun same => ⟨trivial, (Option.some.inj same).symm⟩, fun same => by
      rw [same.2]
      rfl⟩
  | cons event events ih =>
      have next := bounded.step maxDelayMs ssrc event
      constructor
      · intro done
        obtain ⟨moved, first, done⟩ := Option.bind_eq_some_iff.mp done
        obtain ⟨fits, rfl⟩ :=
          (checkedStatisticsStep_eq_some_iff maxDelayMs ssrc bounded event).mp first
        obtain ⟨others, same⟩ := (ih next).mp done
        exact ⟨⟨fits, others⟩, same⟩
      · rintro ⟨⟨fits, others⟩, same⟩
        apply Option.bind_eq_some_iff.mpr
        exact ⟨_, (checkedStatisticsStep_eq_some_iff maxDelayMs ssrc bounded event).mpr
          ⟨fits, rfl⟩, (ih next).mpr ⟨others, same⟩⟩

theorem StreamStatistician.JitterBounded.atEnd
    (bounded : s.JitterBounded) (events : List StatisticsEvent) :
    (finalState (statisticsStep maxDelayMs ssrc) s events).JitterBounded := by
  induction events generalizing s with
  | nil => exact bounded
  | cons event events ih => exact ih (bounded.step maxDelayMs ssrc event)

variable (maxReorderingThreshold : Int)

theorem jitterBounded_fresh : StreamStatistician.JitterBounded { maxReorderingThreshold } := by
  have zero : ({} : SequenceStatistics).JitterBounded := Nat.zero_le _
  exact ⟨zero, zero, zero⟩

/-- The jitter of a stream stays below sixteen times the cut-off, without overflow, as long as no
difference in ticks is the smallest number of 32 bits, which has no absolute value, and no
difference in time leaves 64 bits. -/
theorem jitterSound_iff_along_eventFits (events : List StatisticsEvent) :
    JitterSound maxDelayMs { maxReorderingThreshold } events ↔
      Along (statisticsStep maxDelayMs ssrc) (EventFits maxDelayMs) { maxReorderingThreshold }
        events := by
  have fresh := jitterBounded_fresh maxReorderingThreshold
  constructor
  · intro sound
    obtain ⟨reached, done, -⟩ := sound events List.prefix_rfl
    exact ((checkedStatisticsRun_eq_some_iff maxDelayMs ssrc fresh events).mp done).1
  · rintro fits before ⟨after, rfl⟩
    refine ⟨_, (checkedStatisticsRun_eq_some_iff maxDelayMs ssrc fresh before).mpr
      ⟨((along_append _ _ _).mp fits).1, rfl⟩, ?_⟩
    exact fresh.atEnd maxDelayMs ssrc before

/-- A first packet whose timestamp is half of the range away from the time it arrives at. -/
def farTimestamp : RtpPacketReceived where
  sequenceNumber := 1
  timestamp := 2147573648
  subflowId := 1
  subflowSeq := 1

/-- The difference in ticks of the first packet is the smallest number of 32 bits. -/
theorem smallest_difference_overflows :
    ¬JitterSound (fun _ _ => 0) { maxReorderingThreshold := 50 } [.packet farTimestamp 1000] := by
  intro sound
  obtain ⟨reached, done, -⟩ := sound _ List.prefix_rfl
  have overflows : checkedStatisticsRun (fun _ _ => 0) { maxReorderingThreshold := 50 }
      [.packet farTimestamp 1000] = none := by
    decide
  rw [overflows] at done
  cases done

end Run

end MpWebRtc
