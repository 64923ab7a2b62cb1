import Mathlib.Algebra.Order.Group.Int
import Mathlib.Algebra.Order.Group.Abs
import MpWebRtc.Rtcp.FeedbackConsistency

/-!
# Arrival times in transport feedback

A feedback message gives times as a base, in ticks of 64 ms, and for each received packet
the ticks of 250 µs since the one before. The sender of the feedback measures each delta
against the time it has already reported, not against the arrival before, so an error of
rounding is made up for by the next delta. The base is written as 24 bits and read with
sign; `GetBaseDeltaUs` finds the way between two bases that is at most half a period long.
-/

namespace MpWebRtc

open Math.Serial Math.Wire

namespace TransportFeedback

/-- `delta_us`. -/
def deltaUs (packet : FeedbackPacket) : Int := packet.deltaTicks.getD 0 * kDeltaScaleFactor

/-- The time at which the message says that its received packet `i` arrived. -/
def reconstructedUs (fb : TransportFeedback) (i : Nat) : Int :=
  fb.getBaseTimeUs + ((fb.receivedPackets.take (i + 1)).map deltaUs).sum

/-- The calls of `AddReceivedPacket` that succeed. -/
def receivedCalls : (fb : TransportFeedback) → (calls : List (UInt16 × Int)) →
    List (UInt16 × Int)
  | _, [] => []
  | fb, call :: calls =>
      let result := fb.addReceivedPacket call.1 call.2
      (if result.2 then [call] else []) ++ receivedCalls result.1 calls

/-- Half a tick apart at most, up to periods of the base time. -/
def WithinHalfTick (timestampUs reconstructedUs : Int) : Prop :=
  ∃ wraps : Int, -125 ≤ timestampUs - reconstructedUs - wraps * kTimeWrapPeriodUs ∧
    timestampUs - reconstructedUs - wraps * kTimeWrapPeriodUs ≤ 125

/-- The message gives the times of these arrivals. -/
structure Faithful (fb : TransportFeedback) (arrived : List (UInt16 × Int)) : Prop where
  timestamps : fb.includeTimestamps = true
  numbers : fb.receivedPackets.map (·.sequenceNumber) = arrived.map (·.1)
  time : fb.lastTimestampUs = fb.getBaseTimeUs + (fb.receivedPackets.map deltaUs).sum
  near : ∀ i call, arrived[i]? = some call → WithinHalfTick call.2 (fb.reconstructedUs i)

section Rounding

variable {fb : TransportFeedback}

/-- Rounding to ticks, away from zero at half a tick. -/
theorem rounded_near (deltaFull : Int) :
    -125 ≤ deltaFull - (deltaFull + if deltaFull < 0 then -125 else 125).tdiv 250 * 250 ∧
      deltaFull - (deltaFull + if deltaFull < 0 then -125 else 125).tdiv 250 * 250 ≤ 125 := by
  by_cases negative : deltaFull < 0
  · have mirrored : (deltaFull + -125).tdiv 250 = -((125 - deltaFull) / 250) := by
      rw [← Int.tdiv_eq_ediv_of_nonneg (by omega), ← Int.neg_tdiv]
      congr 1
      omega
    rw [if_pos negative, mirrored]
    omega
  · rw [if_neg negative, Int.tdiv_eq_ediv_of_nonneg (by omega)]
    omega

/-- The delta brings the running time to the arrival. -/
theorem deltaTicks_near {timestampUs delta : Int} (timestamps : fb.includeTimestamps = true)
    (measured : fb.deltaTicks timestampUs = some delta) :
    WithinHalfTick timestampUs (fb.lastTimestampUs + delta * kDeltaScaleFactor) := by
  unfold deltaTicks at measured
  rw [if_pos timestamps] at measured
  extract_lets remainder deltaFull rounding rounded narrowed at measured
  split at measured
  · cases measured
  next fits =>
  obtain rfl := Option.some.inj measured
  have same : narrowed = rounded := Decidable.not_not.mp fits
  have near := rounded_near deltaFull
  have parts := Int.tmod_add_mul_tdiv (timestampUs - fb.lastTimestampUs) kTimeWrapPeriodUs
  have scale : kDeltaScaleFactor = 250 := rfl
  have result : rounded = (deltaFull + if deltaFull < 0 then -125 else 125).tdiv 250 := rfl
  rw [same, result, scale]
  by_cases wrapped : remainder > kTimeWrapPeriodUs.tdiv 2
  · have full : deltaFull = remainder - kTimeWrapPeriodUs := if_pos wrapped
    refine ⟨(timestampUs - fb.lastTimestampUs).tdiv kTimeWrapPeriodUs + 1, ?_⟩
    rw [Int.add_mul, Int.one_mul, Int.mul_comm _ kTimeWrapPeriodUs]
    omega
  · have full : deltaFull = remainder := if_neg wrapped
    refine ⟨(timestampUs - fb.lastTimestampUs).tdiv kTimeWrapPeriodUs, ?_⟩
    rw [Int.mul_comm _ kTimeWrapPeriodUs]
    omega

end Rounding

section Arrivals

variable {fb : TransportFeedback} {arrived : List (UInt16 × Int)} {next : TransportFeedback}

/-- A lost packet changes neither the received packets nor the running time. -/
theorem Skips.received_frame {lost : Nat} (skips : fb.Skips lost next) :
    next.receivedPackets = fb.receivedPackets ∧ next.lastTimestampUs = fb.lastTimestampUs := by
  induction skips with
  | done => exact ⟨rfl, rfl⟩
  | more adds _ ih =>
      obtain ⟨encoded, added, rfl⟩ := adds
      obtain ⟨_, _, _, -, rfl⟩ := eq_of_addDeltaSize added
      simpa [listed, FeedbackPacket.received] using ih

theorem getBaseTimeUs_of_heading (heading : next.heading = fb.heading) :
    next.getBaseTimeUs = fb.getBaseTimeUs :=
  congrArg (fun heading => heading.2.2.2.2.1 * kBaseScaleFactor) heading

section

variable (faithful : Faithful fb arrived)
include faithful

/-- Skipped numbers leave the times of the arrivals alone. -/
theorem Faithful.skips {lost : Nat} {next : TransportFeedback}
    (skips : fb.Skips lost next) : Faithful next arrived := by
  obtain ⟨received, time⟩ := skips.received_frame
  obtain ⟨heading, timestamps, -, -⟩ := skips.frame
  have base := getBaseTimeUs_of_heading heading
  refine ⟨timestamps.trans faithful.timestamps, ?_, ?_, ?_⟩
  · rw [received]
    exact faithful.numbers
  · rw [received, time, base]
    exact faithful.time
  · intro i call member
    rw [reconstructedUs, received, base]
    exact faithful.near i call member

/-- A packet that is added arrives when the message says. -/
theorem Faithful.adds {timestampUs delta : Int}
    (measured : fb.deltaTicks timestampUs = some delta) {next : TransportFeedback}
    (adds : fb.Adds (some delta) next) :
    Faithful next (arrived ++ [(fb.baseSeqNo + UInt16.ofNat fb.numSeqNo, timestampUs)]) := by
  obtain ⟨heading, timestamps, -, -⟩ := adds.frame
  have base := getBaseTimeUs_of_heading heading
  have length : fb.receivedPackets.length = arrived.length := by
    simpa using congrArg List.length faithful.numbers
  obtain ⟨encoded, added, rfl⟩ := adds
  obtain ⟨_, _, _, -, rfl⟩ := eq_of_addDeltaSize added
  have sum : (([⟨fb.baseSeqNo + UInt16.ofNat fb.numSeqNo, some delta⟩] :
      List FeedbackPacket).map deltaUs).sum = delta * kDeltaScaleFactor := by
    simp [deltaUs]
  refine ⟨timestamps.trans faithful.timestamps, ?_, ?_, ?_⟩
  · simp [listed, FeedbackPacket.received, faithful.numbers]
  · rw [base]
    simp only [listed, FeedbackPacket.received, Option.isSome_some, List.filter_cons_of_pos,
      List.filter_nil, List.map_append, List.sum_append, sum, faithful.time, Option.getD_some,
      Int.add_assoc]
  · intro i call member
    rw [reconstructedUs, base]
    simp only [listed, FeedbackPacket.received, Option.isSome_some, List.filter_cons_of_pos,
      List.filter_nil]
    by_cases earlier : i < arrived.length
    · rw [List.getElem?_append_left earlier] at member
      rw [List.take_append_of_le_length (by omega)]
      exact faithful.near i call member
    · rw [List.getElem?_append_right (Nat.le_of_not_lt earlier), List.getElem?_singleton] at member
      split at member
      · obtain rfl := Option.some.inj member
        rw [List.take_of_length_le (by rw [List.length_append, List.length_singleton]; omega),
          List.map_append, List.sum_append, sum, ← Int.add_assoc, ← faithful.time]
        exact deltaTicks_near faithful.timestamps measured
      · cases member

/-- One call of `AddReceivedPacket`. -/
theorem Faithful.addReceivedPacket (call : UInt16 × Int) :
    Faithful (fb.addReceivedPacket call.1 call.2).1
      (arrived ++ if (fb.addReceivedPacket call.1 call.2).2 then [call] else []) := by
  obtain ⟨lost, next, skips, failed | ⟨delta, final, measured, turn, adds, succeeded⟩⟩ :=
    addReceivedPacket_adds fb call.1 call.2
  · rw [failed, if_neg Bool.false_ne_true, List.append_nil]
    exact faithful.skips skips
  · rw [succeeded, if_pos rfl]
    have added := (faithful.skips skips).adds ((skips.deltaTicks_eq _).trans measured) adds
    rw [← turn] at added
    exact added

/-- Any calls of `AddReceivedPacket`. -/
theorem Faithful.addReceivedPackets (calls : List (UInt16 × Int)) :
    Faithful (fb.addReceivedPackets calls) (arrived ++ fb.receivedCalls calls) := by
  induction calls generalizing fb arrived with
  | nil =>
      rw [receivedCalls, List.append_nil]
      exact faithful
  | cons call calls ih =>
      rw [receivedCalls, ← List.append_assoc]
      exact ih (faithful.addReceivedPacket call)

end

theorem Unused.faithful (unused : fb.Unused) (timestamps : fb.includeTimestamps = true) :
    Faithful fb [] := by
  have received : fb.receivedPackets = [] := unused ▸ rfl
  refine ⟨timestamps, by rw [received]; rfl, ?_, by simp⟩
  rw [received]
  exact unused.timed

end Arrivals

section BaseTimes

variable {fb : TransportFeedback} {deltas : List (Option Int)}

/-- Deltas of one or two bytes can be read when the bytes are there. -/
theorem exists_readDeltas {sizes : List Nat} (small : ∀ size ∈ sizes, size ≤ kLarge)
    (seqNo : UInt16) (bytes : List UInt8) (enough : sizes.sum ≤ bytes.length) :
    ∃ statuses, readDeltas sizes seqNo bytes = some statuses := by
  induction sizes generalizing seqNo bytes with
  | nil => exact ⟨[], rfl⟩
  | cons size sizes ih =>
      have others : ∀ size ∈ sizes, size ≤ kLarge := fun size member =>
        small size (List.mem_cons_of_mem _ member)
      have bound : size ≤ 2 := small size List.mem_cons_self
      rw [List.sum_cons] at enough
      obtain rfl | rfl | rfl : size = 0 ∨ size = 1 ∨ size = 2 := by omega
      · obtain ⟨statuses, read⟩ := ih others (seqNo + 1) bytes (by omega)
        exact ⟨_, by rw [readDeltas, read]; rfl⟩
      · obtain ⟨first, bytes, rfl⟩ := List.exists_cons_of_length_pos (l := bytes) (by omega)
        rw [List.length_cons] at enough
        obtain ⟨statuses, read⟩ := ih others (seqNo + 1) bytes (by omega)
        exact ⟨_, by rw [readDeltas, read]; rfl⟩
      · obtain ⟨first, bytes, rfl⟩ := List.exists_cons_of_length_pos (l := bytes) (by omega)
        rw [List.length_cons] at enough
        obtain ⟨second, bytes, rfl⟩ := List.exists_cons_of_length_pos (l := bytes) (by omega)
        rw [List.length_cons] at enough
        obtain ⟨statuses, read⟩ := ih others (seqNo + 1) bytes (by omega)
        exact ⟨_, by rw [readDeltas, read]; rfl⟩

theorem exists_readStatuses {sizes : List Nat} (small : ∀ size ∈ sizes, size ≤ kLarge)
    (seqNo : UInt16) (bytes : List UInt8) :
    ∃ statuses, readStatuses sizes seqNo bytes = some statuses := by
  unfold readStatuses
  split
  · next enough => exact exists_readDeltas small seqNo bytes enough
  · exact ⟨_, rfl⟩

/-- The base time is read with sign. -/
theorem Holds.baseTimeTicks_read (holds : Holds fb deltas) {bytes : List UInt8}
    (created : fb.create = some bytes) {parsed : TransportFeedback}
    (read : parseFrom bytes = some parsed) :
    parsed.baseTimeTicks = (fb.baseTimeTicks % 2 ^ 24).bmod (2 ^ 24) := by
  have reports : deltas ≠ [] := by
    rintro rfl
    have none : fb.numSeqNo = 0 := holds.count
    rw [create, if_pos none] at created
    cases created
  have small : ∀ size ∈ deltas.map statusSize, size ≤ kLarge := by
    intro size member
    obtain ⟨delta, -, rfl⟩ := List.mem_map.mp member
    exact statusSize_le delta
  obtain ⟨statuses, listed⟩ := exists_readStatuses small fb.baseSeqNo (fb.included deltas)
  obtain ⟨written, padding, created', header⟩ := holds.parse_create reports
  obtain ⟨reread, accepted, -, -, -, -, -, -, ticks⟩ :=
    holds.parse_payload reports listed (ofPathid (-1)) padding
  obtain rfl : written = bytes := Option.some.inj (created'.symm.trans created)
  have result : parseFrom written = some reread := by
    rw [parseFrom, header]
    exact (if_neg (by simp)).trans accepted
  obtain rfl : reread = parsed := Option.some.inj (result.symm.trans read)
  exact ticks

/-- A time in whole ticks of the base time. -/
def tickTruncated (timestampUs : Int) : Int := timestampUs / kBaseScaleFactor * kBaseScaleFactor

/-- The base times of parsed messages. -/
theorem Unused.baseTimeTicks_read (unused : fb.Unused) {baseSequence : UInt16}
    {refTimestampUs : Int} (nonneg : 0 ≤ refTimestampUs) {calls : List (UInt16 × Int)}
    {bytes : List UInt8}
    (created : ((fb.setBase baseSequence refTimestampUs).addReceivedPackets calls).create =
      some bytes) {parsed : TransportFeedback} (read : parseFrom bytes = some parsed) :
    ∃ wraps, parsed.baseTimeTicks = refTimestampUs / 64000 - wraps * 16777216 ∧
      -8388608 ≤ parsed.baseTimeTicks ∧ parsed.baseTimeTicks < 8388608 := by
  obtain ⟨deltas, holds⟩ :=
    (unused.setBase baseSequence refTimestampUs).holds.addReceivedPackets calls
  have range := Int.emod_nonneg refTimestampUs (show kTimeWrapPeriodUs ≠ 0 by decide)
  have base : ((fb.setBase baseSequence refTimestampUs).addReceivedPackets calls).baseTimeTicks =
      refTimestampUs % kTimeWrapPeriodUs / kBaseScaleFactor := by
    have heading := (addReceivedPackets_frame (fb.setBase baseSequence refTimestampUs) calls).1
    refine (congrArg (fun heading => heading.2.2.2.2.1) heading).trans ?_
    change (refTimestampUs.tmod kTimeWrapPeriodUs).tdiv kBaseScaleFactor = _
    rw [Int.tmod_eq_emod_of_nonneg nonneg, Int.tdiv_eq_ediv_of_nonneg range]
  have ticks := holds.baseTimeTicks_read created read
  rw [base] at ticks
  have period : kTimeWrapPeriodUs = 1073741824000 := rfl
  have scale : kBaseScaleFactor = 64000 := rfl
  rw [period, scale, Int.bmod] at ticks
  refine ⟨(refTimestampUs / 64000 - parsed.baseTimeTicks) / 16777216, ?_⟩
  split at ticks <;> omega

/-- The way from one base time to another. -/
theorem getBaseDeltaUs_eq {first second : TransportFeedback} {firstTicks secondTicks : Int}
    (firstRead : ∃ wraps, first.baseTimeTicks = firstTicks - wraps * 16777216 ∧
      -8388608 ≤ first.baseTimeTicks ∧ first.baseTimeTicks < 8388608)
    (secondRead : ∃ wraps, second.baseTimeTicks = secondTicks - wraps * 16777216 ∧
      -8388608 ≤ second.baseTimeTicks ∧ second.baseTimeTicks < 8388608)
    (near : -8388608 ≤ secondTicks - firstTicks ∧ secondTicks - firstTicks ≤ 8388608) :
    second.getBaseDeltaUs first.getBaseTimeUs = (secondTicks - firstTicks) * 64000 ∨
      ((secondTicks - firstTicks).natAbs = 8388608 ∧
        second.getBaseDeltaUs first.getBaseTimeUs = -((secondTicks - firstTicks) * 64000)) := by
  obtain ⟨firstWraps, firstEq, firstLow, firstHigh⟩ := firstRead
  obtain ⟨secondWraps, secondEq, secondLow, secondHigh⟩ := secondRead
  have period : kTimeWrapPeriodUs = 1073741824000 := rfl
  have scale : kBaseScaleFactor = 64000 := rfl
  unfold getBaseDeltaUs getBaseTimeUs
  dsimp only
  rw [period, scale]
  split
  · omega
  · split <;> omega

/-- The times of a message are those of the arrivals, each within half a tick. Between the
base times of two messages that were sent and read, less than half a period apart, lies
the difference of the two reference times in whole ticks; only when that is exactly half
a period can the direction be lost. -/
theorem feedback_times_faithful :
    (∀ (fb : TransportFeedback) (baseSequence : UInt16) (refTimestampUs : Int)
      (calls : List (UInt16 × Int)), fb.Unused → fb.includeTimestamps = true →
      ∀ reported, (fb.setBase baseSequence refTimestampUs).addReceivedPackets calls = reported →
      ∀ arrived, (fb.setBase baseSequence refTimestampUs).receivedCalls calls = arrived →
        reported.receivedPackets.map (·.sequenceNumber) = arrived.map (·.1) ∧
        ∀ i call, arrived[i]? = some call →
          WithinHalfTick call.2 (reported.reconstructedUs i)) ∧
    ∀ (first second : TransportFeedback) (firstSequence secondSequence : UInt16)
      (firstUs secondUs : Int) (firstCalls secondCalls : List (UInt16 × Int))
      (firstBytes secondBytes : List UInt8) (firstParsed secondParsed : TransportFeedback),
      first.Unused → second.Unused → 0 ≤ firstUs → 0 ≤ secondUs →
      ((first.setBase firstSequence firstUs).addReceivedPackets firstCalls).create =
        some firstBytes →
      ((second.setBase secondSequence secondUs).addReceivedPackets secondCalls).create =
        some secondBytes →
      parseFrom firstBytes = some firstParsed → parseFrom secondBytes = some secondParsed →
      |secondUs - firstUs| < kTimeWrapPeriodUs / 2 →
      |tickTruncated secondUs - tickTruncated firstUs| ≤ kTimeWrapPeriodUs / 2 ∧
        (secondParsed.getBaseDeltaUs firstParsed.getBaseTimeUs =
          tickTruncated secondUs - tickTruncated firstUs ∨
        (|tickTruncated secondUs - tickTruncated firstUs| = kTimeWrapPeriodUs / 2 ∧
          secondParsed.getBaseDeltaUs firstParsed.getBaseTimeUs =
            -(tickTruncated secondUs - tickTruncated firstUs))) := by
  refine ⟨?_, ?_⟩
  · intro fb baseSequence refTimestampUs calls unused timestamps reported rfl arrived rfl
    have started := (unused.setBase baseSequence refTimestampUs).faithful timestamps
    have faithful := started.addReceivedPackets calls
    exact ⟨faithful.numbers, faithful.near⟩
  · intro first second firstSequence secondSequence firstUs secondUs firstCalls secondCalls
      firstBytes secondBytes firstParsed secondParsed firstUnused secondUnused firstNonneg
      secondNonneg firstCreated secondCreated firstRead secondRead near
    have period : kTimeWrapPeriodUs = 1073741824000 := rfl
    have scale : kBaseScaleFactor = 64000 := rfl
    unfold tickTruncated
    rw [period, abs_lt] at near
    rw [period, scale, abs_le, Int.abs_eq_natAbs, ← Int.sub_mul]
    have ticks : -8388608 ≤ secondUs / 64000 - firstUs / 64000 ∧
        secondUs / 64000 - firstUs / 64000 ≤ 8388608 := by omega
    refine ⟨by omega, ?_⟩
    refine (getBaseDeltaUs_eq (firstUnused.baseTimeTicks_read firstNonneg firstCreated firstRead)
      (secondUnused.baseTimeTicks_read secondNonneg secondCreated secondRead) ticks).imp_right ?_
    rintro ⟨half, mirrored⟩
    exact ⟨by omega, mirrored⟩

/-- A message about one packet that arrives at its reference time, sent and read. -/
def sentAt (timestampUs : Int) : Option TransportFeedback :=
  (((ofPathid 1).setBase 7 timestampUs).addReceivedPackets [(7, timestampUs)]).create.bind parseFrom

/-- Two arrivals, half a tick and a period apart, and two messages across the wrap. -/
theorem feedback_times_faithful_across_wrap :
    (∀ i call, [((7 : UInt16), (64125 : Int)), (8, 1073741888250)][i]? = some call →
      WithinHalfTick call.2 ((((ofPathid 1).setBase 7 64000).addReceivedPackets
        [(7, 64125), (8, 1073741888250)]).reconstructedUs i)) ∧
    ∃ first second, sentAt 1073741760000 = some first ∧ sentAt 1073741888000 = some second ∧
      second.getBaseDeltaUs first.getBaseTimeUs = 128000 := by
  obtain ⟨arrivals, bases⟩ := feedback_times_faithful
  refine ⟨(arrivals (ofPathid 1) 7 64000 [(7, 64125), (8, 1073741888250)] rfl rfl _ rfl _
    (by decide)).2, ?_⟩
  obtain ⟨first, firstSent⟩ : ∃ first, sentAt 1073741760000 = some first :=
    Option.isSome_iff_exists.mp (by decide +kernel)
  obtain ⟨second, secondSent⟩ : ∃ second, sentAt 1073741888000 = some second :=
    Option.isSome_iff_exists.mp (by decide +kernel)
  refine ⟨first, second, firstSent, secondSent, ?_⟩
  obtain ⟨firstBytes, firstCreated, firstRead⟩ := Option.bind_eq_some_iff.mp firstSent
  obtain ⟨secondBytes, secondCreated, secondRead⟩ := Option.bind_eq_some_iff.mp secondSent
  have near : |(1073741888000 : Int) - 1073741760000| < kTimeWrapPeriodUs / 2 := by decide
  obtain ⟨-, same | ⟨half, -⟩⟩ := bases (ofPathid 1) (ofPathid 1) 7 7 1073741760000 1073741888000
    [(7, 1073741760000)] [(7, 1073741888000)] firstBytes secondBytes first second rfl rfl
    (by decide) (by decide) firstCreated secondCreated firstRead secondRead near
  · exact same
  · exact absurd half (by decide)

/-- Less than half a period apart, but exactly half in whole ticks: the way back is found. -/
theorem half_period_turned_back :
    |(536870912000 : Int) - 63999| < kTimeWrapPeriodUs / 2 ∧
      tickTruncated 536870912000 - tickTruncated 63999 = 536870912000 ∧
      ((sentAt 63999).bind fun first => (sentAt 536870912000).map fun second =>
        second.getBaseDeltaUs first.getBaseTimeUs) = some (-536870912000) := by
  decide +kernel

end BaseTimes

end TransportFeedback

end MpWebRtc
