import MpWebRtc.Receiver.PathReports

/-!
# The interval of a report

A report for a path is about the packets since the last one: how many were expected, and how many
of these are lost. The highest number of a path only grows, except for a restart, which also moves
the mark of the last report; and what is lost since then is at most what was expected, as long as
the path was not restarted. The block that is sent has the values of the path. The losses and the
marks are `int32_t`: what follows is about paths that have lost fewer than `2 ^ 31` packets.
-/

namespace MpWebRtc

open Math.Run

namespace SequenceStatistics

variable (stats : SequenceStatistics)

/-- `exp_since_last`. -/
def expectedSinceLast : Int :=
  stats.receivedSeqMax - stats.lastReportSeqMax

/-- `lost_since_last`. -/
def lostSinceLast : Int :=
  stats.cumulativeLoss - stats.lastReportCumulativeLoss

/-- The packet is the second one of a restart. -/
def CompletesRestart (packet : RtpPacketReceived) : Prop :=
  0 ≤ stats.receivedSeqFirst ∧
    ∃ postponed ∈ stats.receivedSeqOutOfOrder, packet.subflowSeq = postponed + 1

instance (stats : SequenceStatistics) (packet : RtpPacketReceived) :
    Decidable (stats.CompletesRestart packet) := inferInstanceAs (Decidable (_ ∧ _))

/-- What a report for the path relies on. -/
structure IntervalSound (stats : SequenceStatistics) (restarted : Bool) : Prop where
  ordered : 0 ≤ stats.expectedSinceLast
  balanced : restarted = false → stats.lostSinceLast ≤ stats.expectedSinceLast
  fresh : stats.receivedSeqFirst < 0 → stats.lostSinceLast ≤ 0
  offset : 0 ≤ stats.lastReportCumulativeLoss + stats.cumulativeLossRtcpOffset

section Receiving

variable {stats : SequenceStatistics} {threshold number : Int}
variable (packet : RtpPacketReceived) (nowMs : Int)

/-- What becomes of a packet: it is the first one, it completes a restart, it is in order, or it
leaves the highest number. -/
theorem arrive_cases :
    stats.receivedSeqFirst < 0 ∧
        stats.arrive threshold packet.subflowSeq packet.sequenceNumber number =
          (.inOrder, { stats with
            cumulativeLoss := stats.cumulativeLoss - 1
            receivedSeqFirst := number
            lastReportSeqMax := number - 1
            receivedSeqMax := number - 1 }) ∨
      stats.CompletesRestart packet ∧
        stats.arrive threshold packet.subflowSeq packet.sequenceNumber number =
          (.inOrder, { stats with
            cumulativeLoss := stats.cumulativeLoss - 1 - 1
            receivedSeqOutOfOrder := none
            lastReportSeqMax := number - 2
            receivedSeqMax := number - 2 }) ∨
      0 ≤ stats.receivedSeqFirst ∧ ∃ order loss postponed,
        stats.arrive threshold packet.subflowSeq packet.sequenceNumber number =
          (order, { stats with
            cumulativeLoss := loss
            receivedSeqOutOfOrder := postponed }) ∧
        (order = .inOrder → stats.receivedSeqMax < number ∧ loss ≤ stats.cumulativeLoss - 1) ∧
        loss ≤ stats.cumulativeLoss := by
  by_cases fresh : stats.receivedSeqFirst < 0
  · exact .inl ⟨fresh, if_pos fresh⟩
  · have known := not_lt.mp fresh
    by_cases completes : stats.CompletesRestart packet
    · refine .inr (.inl ⟨completes, ?_⟩)
      obtain ⟨-, postponed, pending, next⟩ := completes
      unfold arrive updateOutOfOrder settleRestart
      simp only [if_neg fresh, Option.mem_def.mp pending, if_pos next, if_true]
    · refine .inr (.inr ⟨known, ?_⟩)
      -- a packet put off before is settled, and then this one is placed
      obtain ⟨settled, settles, lost⟩ : ∃ settled,
          { stats with cumulativeLoss := stats.cumulativeLoss - 1 }.settleRestart packet.subflowSeq
            number = (false, { stats with
              cumulativeLoss := settled
              receivedSeqOutOfOrder := none }) ∧ settled ≤ stats.cumulativeLoss - 1 := by
        unfold settleRestart
        cases pending : stats.receivedSeqOutOfOrder with
        | none => exact ⟨stats.cumulativeLoss - 1, rfl, le_refl _⟩
        | some postponed =>
            have other : packet.subflowSeq ≠ postponed + 1 := fun next =>
              completes ⟨known, postponed, pending, next⟩
            refine ⟨stats.cumulativeLoss - 1 - 1, ?_, by omega⟩
            simp only [if_neg other]
      have arrived : stats.arrive threshold packet.subflowSeq packet.sequenceNumber number =
          { stats with cumulativeLoss := stats.cumulativeLoss - 1 }.updateOutOfOrder threshold
            packet.subflowSeq packet.sequenceNumber number := if_neg fresh
      rw [arrived]
      unfold updateOutOfOrder
      rw [settles]
      dsimp only
      rw [if_neg Bool.false_ne_true]
      split_ifs with far above
      · exact ⟨_, _, _, rfl, nofun, by omega⟩
      · exact ⟨_, _, _, rfl, fun _ => ⟨above, lost⟩, by omega⟩
      · exact ⟨_, _, _, rfl, nofun, by omega⟩

/-- The jitter is beside the point. -/
theorem IntervalSound.updatePathJitter {restarted : Bool} (sound : stats.IntervalSound restarted)
    (pathid : Nat) : (stats.updatePathJitter pathid packet nowMs).IntervalSound restarted := by
  unfold SequenceStatistics.updatePathJitter
  split
  · exact ⟨sound.ordered, sound.balanced, sound.fresh, sound.offset⟩
  · exact sound

/-- The interval stays sound; a restart may leave more lost packets than expected ones. -/
theorem IntervalSound.receive {restarted : Bool} (sound : stats.IntervalSound restarted) :
    (stats.receive threshold packet number nowMs).IntervalSound
      (restarted || decide (stats.CompletesRestart packet)) := by
  have ordered := sound.ordered
  have balanced := sound.balanced
  have fresh := sound.fresh
  have offset := sound.offset
  unfold expectedSinceLast at ordered balanced
  unfold lostSinceLast at balanced fresh
  unfold SequenceStatistics.receive
  rcases @arrive_cases stats threshold number packet with
    ⟨new, arrived⟩ | ⟨completes, arrived⟩ | ⟨known, order, loss, postponed, arrived, moves, least⟩
  · rw [arrived]
    dsimp only
    rw [if_pos rfl]
    apply IntervalSound.updatePathJitter
    constructor <;> dsimp only [expectedSinceLast, lostSinceLast, SequenceStatistics.advance]
    · omega
    · intro _
      have none := fresh new
      omega
    · intro _
      have none := fresh new
      omega
    · exact offset
  · rw [arrived]
    dsimp only
    rw [if_pos rfl, decide_eq_true completes, Bool.or_true]
    apply IntervalSound.updatePathJitter
    constructor <;> dsimp only [expectedSinceLast, lostSinceLast, SequenceStatistics.advance]
    · omega
    · exact nofun
    · exact fun new => absurd completes.1 (not_le.mpr new)
    · exact offset
  · rw [arrived]
    dsimp only
    have unflagged : (restarted || decide (stats.CompletesRestart packet)) = false →
        restarted = false := fun none => (Bool.or_eq_false_iff.mp none).1
    by_cases ahead : order = .inOrder
    · obtain ⟨above, fewer⟩ := moves ahead
      rw [if_pos ahead]
      apply IntervalSound.updatePathJitter
      constructor <;> dsimp only [expectedSinceLast, lostSinceLast, SequenceStatistics.advance]
      · omega
      · intro none
        have enough := balanced (unflagged none)
        omega
      · exact fun new => absurd known (not_le.mpr new)
      · exact offset
    · rw [if_neg ahead]
      constructor <;> dsimp only [expectedSinceLast, lostSinceLast]
      · exact ordered
      · intro none
        have enough := balanced (unflagged none)
        omega
      · exact fun new => absurd known (not_le.mpr new)
      · exact offset

end Receiving

/-- A report closes the interval. -/
theorem IntervalSound.calculateRtcpStatistics (stats : SequenceStatistics) :
    stats.calculateRtcpStatistics.2.IntervalSound false := by
  constructor <;>
    dsimp only [expectedSinceLast, lostSinceLast, SequenceStatistics.calculateRtcpStatistics]
  · omega
  · omega
  · omega
  · split <;> omega

end SequenceStatistics

section Reporting

variable (maxDelayMs : UInt32 → UInt32 → Int) (ssrc : UInt32) (path : Subflow)

/-- The state, and whether the path was restarted since its last report. -/
structure Interval where
  state : StreamStatistician
  restarted : Bool := false

/-- One event, remembering a restart of the path until its next report. -/
def intervalStep (interval : Interval) (event : StatisticsEvent) :
    Interval × List (Nat × Option ReportBlock) :=
  ({ state := (statisticsStep maxDelayMs ssrc interval.state event).1
     restarted :=
      match event with
      | .packet packet _ =>
          if packet.subflow = path then
            interval.restarted || decide ((interval.state.on path).CompletesRestart packet)
          else interval.restarted
      | .report pathid nowMs collector =>
          if interval.state.isActive nowMs ∧ path.reportedBy pathid collector then false
          else interval.restarted
      | _ => interval.restarted },
    (statisticsStep maxDelayMs ssrc interval.state event).2)

variable {path} {interval : Interval}

/-- Every event keeps the interval of the path sound. -/
theorem intervalStep_sound (event : StatisticsEvent)
    (sound : (interval.state.on path).IntervalSound interval.restarted) :
    ((intervalStep maxDelayMs ssrc path interval event).1.state.on path).IntervalSound
      (intervalStep maxDelayMs ssrc path interval event).1.restarted := by
  unfold intervalStep statisticsStep
  cases event with
  | packet packet nowMs =>
      obtain ⟨own, other, -, -⟩ := interval.state.updateCounters_frame maxDelayMs packet nowMs
      dsimp only
      by_cases counts : packet.subflow = path
      · subst counts
        rw [own, if_pos rfl]
        exact sound.receive packet nowMs
      · rw [other path counts, if_neg counts]
        exact sound
  | report pathid nowMs collector =>
      obtain ⟨-, -, paths⟩ :=
        interval.state.getActiveStatisticsAndReset_frame nowMs pathid collector
      dsimp only
      rw [paths]
      split
      · exact SequenceStatistics.IntervalSound.calculateRtcpStatistics _
      · exact sound
  | setMaxReorderingThreshold threshold => cases path <;> exact sound
  | enableRetransmitDetection enable => cases path <;> exact sound

theorem intervalSound_initial (threshold : Int) :
    (StreamStatistician.on { maxReorderingThreshold := threshold } path).IntervalSound false := by
  have empty : SequenceStatistics.IntervalSound {} false :=
    ⟨by decide, fun _ => by decide, fun _ => by decide, by decide⟩
  cases path <;> exact empty

/-- The interval of a path is sound in every state. -/
theorem interval_sound (path : Subflow) (threshold : Int) (run : List StatisticsEvent) :
    let interval : Interval := finalState (intervalStep maxDelayMs ssrc path)
      { state := { maxReorderingThreshold := threshold } } run
    (interval.state.on path).IntervalSound interval.restarted :=
  (along_true _ run).invariant
    (fun interval : Interval => (interval.state.on path).IntervalSound interval.restarted)
    (fun _ event sound _ => intervalStep_sound maxDelayMs ssrc event sound)
    (intervalSound_initial threshold)

/-- A report for a path: its interval, and the block that is sent. -/
structure ReportSound (s : StreamStatistician) (path : Subflow) (restarted : Bool)
    (answer : Option ReportBlock) : Prop where
  ordered : 0 ≤ (s.on path).expectedSinceLast
  scaled : (s.on path).calculateRtcpStatistics.1.fractionLost =
    UInt8.ofInt (if 0 < (s.on path).expectedSinceLast ∧ 0 < (s.on path).lostSinceLast then
      255 * (s.on path).lostSinceLast / (s.on path).expectedSinceLast else 0)
  exact : restarted = false → 0 < (s.on path).lostSinceLast →
    255 * (s.on path).lostSinceLast / (s.on path).expectedSinceLast < 256
  nonneg : 0 ≤ (s.on path).calculateRtcpStatistics.1.packetsLost
  representable : answer.isSome → 255 * (s.on path).lostSinceLast < 2 ^ 31
  answered : answer.map ReportBlock.pathFields =
    (s.on path).calculateRtcpStatistics.1.pathFields
  block : ∀ block ∈ answer, block.sourceSsrc = ssrc ∧
    block.extendedHighSeqNumP = UInt32.ofInt s.overall.receivedSeqMax ∧
    block.cumulativeLost.toInt = (s.on path).calculateRtcpStatistics.1.packetsLost

/-- Where a count fits the field of the block, reading the field back gives the count. -/
theorem toInt_cumulativeLost {packetsLost : Int} (fits : fitsReportBlock packetsLost) :
    (Int32.ofInt packetsLost).toInt = packetsLost := by
  unfold fitsReportBlock at fits
  rw [Bool.and_eq_true, decide_eq_true_eq, decide_eq_true_eq] at fits
  exact Int32.toInt_ofInt_of_le (by omega) (by omega)

/-- The statistics of a path, with the highest RTP sequence number. -/
theorem calculateOnPath_spec (path : Subflow) (s : StreamStatistician) :
    (s.calculateOnPath path).1.on path = (s.on path).calculateRtcpStatistics.1 ∧
      (s.calculateOnPath path).1.overall.extendedHighestSequenceNumber =
        UInt32.ofInt s.overall.receivedSeqMax := by
  cases path <;> exact ⟨rfl, rfl⟩

/-- The rest of the block of a path. -/
theorem addReportBlock_spec {statistics : RtcpStatistics} {block : ReportBlock}
    (sent : block ∈ addReportBlock ssrc path.pathid statistics) :
    block.sourceSsrc = ssrc ∧
      block.extendedHighSeqNumP = statistics.overall.extendedHighestSequenceNumber ∧
      block.cumulativeLost = Int32.ofInt (statistics.on path).packetsLost := by
  have chosen : (if path.pathid ≠ 2 then statistics.primary else statistics.secondary) =
      statistics.on path := by
    cases path <;> rfl
  unfold addReportBlock at sent
  rw [chosen] at sent
  dsimp only at sent
  split at sent
  · obtain rfl := Option.some.inj sent
    exact ⟨rfl, rfl, rfl⟩
  · cases sent

variable {collector : Collector}

/-- A request answered for a path is answered with what is computed for it. -/
theorem getActiveStatisticsAndReset_asked {s : StreamStatistician} {pathid : Nat} {nowMs : Int}
    (asked : path.reportedBy pathid collector) (active : s.isActive nowMs) :
    (s.getActiveStatisticsAndReset pathid nowMs collector).1 = some (s.calculateOnPath path).1 := by
  unfold StreamStatistician.getActiveStatisticsAndReset
  rw [if_pos active]
  cases path with
  | primary =>
      obtain rfl : pathid = 1 := asked
      rfl
  | secondary =>
      obtain ⟨rfl, opened, other⟩ := asked
      rw [if_neg (by decide), if_pos ⟨rfl, opened, other⟩]

/-- What is lost in the interval is at most what is reported as lost altogether. -/
theorem SequenceStatistics.IntervalSound.lost_le_packetsLost {stats : SequenceStatistics}
    {restarted : Bool} (sound : stats.IntervalSound restarted) :
    stats.lostSinceLast ≤ stats.calculateRtcpStatistics.1.packetsLost := by
  have offset := sound.offset
  unfold SequenceStatistics.lostSinceLast
  change _ ≤ max (stats.cumulativeLoss + stats.cumulativeLossRtcpOffset) 0
  omega

/-- In every run, at every report answered for a path, the number of packets expected since the
last report is not negative; the fraction lost is 255 times the packets lost since then divided by
those expected, or zero if none is lost, and fits its field unless the path was restarted in
between; the loss is not negative, and the block has the values computed for the path. -/
theorem report_interval_sound {threshold : Int} {earlier : List StatisticsEvent}
    {interval : Interval} (last : finalState (intervalStep maxDelayMs ssrc path)
      { state := { maxReorderingThreshold := threshold } } earlier = interval)
    {pathid : Nat} {nowMs : Int}
    (asked : path.reportedBy pathid collector) (active : interval.state.isActive nowMs) :
    ∃ answer, (statisticsStep maxDelayMs ssrc interval.state
        (.report pathid nowMs collector)).2 = [(pathid, answer)] ∧
      ReportSound ssrc interval.state path interval.restarted answer := by
  have sound : (interval.state.on path).IntervalSound interval.restarted :=
    last ▸ interval_sound maxDelayMs ssrc path threshold earlier
  have computed := getActiveStatisticsAndReset_asked asked active
  obtain ⟨own, highest⟩ := calculateOnPath_spec path interval.state
  obtain rfl := Subflow.reportedBy_pathid asked
  have ordered := sound.ordered
  refine ⟨addReportBlock ssrc path.pathid (interval.state.calculateOnPath path).1, ?_, ?_⟩
  · unfold statisticsStep
    dsimp only
    rw [computed]
    rfl
  · have fields : (addReportBlock ssrc path.pathid
        (interval.state.calculateOnPath path).1).map ReportBlock.pathFields =
          (interval.state.on path).calculateRtcpStatistics.1.pathFields := by
      rw [addReportBlock_pathFields, own]
    have fits : (addReportBlock ssrc path.pathid (interval.state.calculateOnPath path).1).isSome →
        fitsReportBlock (interval.state.on path).calculateRtcpStatistics.1.packetsLost := by
      intro sent
      by_contra large
      rw [← Option.isSome_map, fields, NumberingReport.pathFields, if_neg large] at sent
      exact Bool.false_ne_true sent
    refine ⟨ordered, ?_, ?_, ?_, ?_, fields, ?_⟩
    · change (if 0 < (interval.state.on path).expectedSinceLast ∧
        0 < (interval.state.on path).lostSinceLast then UInt8.ofInt
          ((255 * (interval.state.on path).lostSinceLast).tdiv
            (interval.state.on path).expectedSinceLast) else 0) = _
      split
      · rename_i some
        rw [Int.tdiv_eq_ediv_of_nonneg (by omega)]
      · rfl
    · intro unrestarted some
      have enough := sound.balanced unrestarted
      exact Int.ediv_lt_of_lt_mul (by omega) (by omega)
    · exact le_max_right ..
    · intro sent
      have range := fits sent
      have most := sound.lost_le_packetsLost
      unfold fitsReportBlock at range
      rw [Bool.and_eq_true, decide_eq_true_eq, decide_eq_true_eq] at range
      omega
    · intro block sent
      have represented := toInt_cumulativeLost (fits (Option.isSome_of_mem sent))
      obtain ⟨source, overall, lost⟩ := addReportBlock_spec ssrc sent
      rw [source, overall, highest, lost, own]
      exact ⟨rfl, rfl, represented⟩

/-- Packet 100 of path 1 and its report, and then packet 102. -/
def skippingRun : List StatisticsEvent :=
  [(numberedPacket 1 10 100).1, .report 1 0 openRoundRobin, (numberedPacket 1 12 102).1]

/-- One of the two packets expected since the last report is lost. -/
theorem report_interval_sound_skipping :
    ∃ answer, (statisticsStep (fun _ _ => 0) 1
        (finalState (intervalStep (fun _ _ => 0) 1 .primary)
          { state := { maxReorderingThreshold := 50 } } skippingRun).state
        (.report 1 0 openRoundRobin)).2 = [(1, answer)] ∧
      ReportSound 1 (finalState (intervalStep (fun _ _ => 0) 1 .primary)
          { state := { maxReorderingThreshold := 50 } } skippingRun).state .primary
        (finalState (intervalStep (fun _ _ => 0) 1 .primary)
          { state := { maxReorderingThreshold := 50 } } skippingRun).restarted answer :=
  report_interval_sound (fun _ _ => 0) 1 rfl (rfl : Subflow.primary.reportedBy 1 openRoundRobin)
    (by decide)

/-- A restart of path 1 while 100 packets are missing. -/
def restartedRun : List StatisticsEvent :=
  [(numberedPacket 1 10 100).1, (numberedPacket 1 11 201).1, (numberedPacket 1 3000 3000).1,
    (numberedPacket 1 3001 3001).1]

/-- Both paths are open and packets are sent on both. -/
def openRed : Collector := { openRoundRobin with scheduler := "red" }

/-- A report for path 2 between two packets with falling RTP sequence numbers. -/
def overtakenRun : List StatisticsEvent :=
  [(numberedPacket 1 10 5).1, .report 2 0 openRed, (numberedPacket 2 9 3).1]

/-- The state after a run. -/
def statisticsAfter (run : List StatisticsEvent) : StreamStatistician :=
  finalState (statisticsStep (fun _ _ => 0) 1) { maxReorderingThreshold := 200 } run

/-- Where one packet of two is lost, the fraction is 127 and not 128. After a restart it does not
fit its field. And in the numbering of the RTP sequence numbers, which the report for path 2 is
then about, a negative number of packets is expected. -/
theorem report_fraction_scaled :
    ((statisticsAfter skippingRun).primary.lostSinceLast = 1 ∧
        (statisticsAfter skippingRun).primary.expectedSinceLast = 2 ∧
        (statisticsAfter skippingRun).primary.calculateRtcpStatistics.1.fractionLost = 127) ∧
      ((statisticsAfter restartedRun).primary.lostSinceLast = 100 ∧
        (statisticsAfter restartedRun).primary.expectedSinceLast = 2 ∧
        (statisticsAfter restartedRun).primary.calculateRtcpStatistics.1.fractionLost = 206) ∧
      (statisticsAfter overtakenRun).isActive 0 ∧
      (statisticsAfter overtakenRun).overall.expectedSinceLast = -1 ∧
      ((statisticsAfter overtakenRun).getActiveStatisticsAndReset 2 0 openRed).1 =
        some (statisticsAfter overtakenRun).calculateOverall.1 :=
  ⟨by decide, by decide, by decide, by decide, by decide⟩

end Reporting

end MpWebRtc
