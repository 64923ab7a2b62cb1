import MpWebRtc.Math.Run
import MpWebRtc.Receiver.StreamStatistics

/-!
# What the statistics of a path depend on

The loss on a path is the size of the range of its numbers less the packets received, and
the reports for a path are made of its own packets: as far as the shared unwrapper, which
follows the RTP sequence numbers, puts the numbers of the path in one place. A number more
than half a circle away from the last RTP sequence number is put 2^16 too high or too low.
-/

namespace MpWebRtc

open Math.Run Math.Serial

variable (maxDelayMs : UInt32 → UInt32 → Int) (ssrc : UInt32) (s : StreamStatistician)

/-- The unwrapper was never below zero. -/
def StreamStatistician.Natural : Prop :=
  ∀ last, s.seqUnwrapper = some last → 0 ≤ last

theorem natural_initial (threshold : Int) :
    StreamStatistician.Natural { maxReorderingThreshold := threshold } :=
  fun _ => nofun

/-- Events keep the unwrapper above zero. -/
theorem statisticsStep_natural (event : StatisticsEvent)
    (natural : s.Natural) : (statisticsStep maxDelayMs ssrc s event).1.Natural := by
  cases event with
  | packet packet nowMs =>
      intro last known
      obtain ⟨-, -, -, kept | moved⟩ := s.updateCounters_frame maxDelayMs packet nowMs
      · exact natural last (kept.symm.trans known)
      · have placed := Option.some.inj (moved.symm.trans known)
        rw [← placed]
        exact unwrapWithoutUpdate_nonneg _ natural
  | report pathid nowMs collector =>
      intro last known
      obtain ⟨kept, -, -⟩ := s.getActiveStatisticsAndReset_frame nowMs pathid collector
      exact natural last (kept.symm.trans known)
  | setMaxReorderingThreshold threshold => exact natural
  | enableRetransmitDetection enable => exact natural

section Loss

/-- A packet counted for the path. -/
def StatisticsEvent.isOn (path : Subflow) : StatisticsEvent → Bool
  | .packet arrived _ => arrived.subflow = path
  | _ => false

/-- The numbers of the packets of a path, in order of arrival. Each packet of a run comes
with its number before this was cut to 16 bits. -/
def numbersOnPath (path : Subflow) (run : List (StatisticsEvent × Nat)) : List Nat :=
  run.filterMap fun event => if event.1.isOn path then some event.2 else none

/-- The state and the numbers that arrived on the path so far. -/
structure PathHistory where
  state : StreamStatistician
  numbers : List Nat := []

/-- One event, remembering the number. -/
def historyStep (path : Subflow) (history : PathHistory) (event : StatisticsEvent × Nat) :
    PathHistory × List (Nat × Option ReportBlock) :=
  ({ state := (statisticsStep maxDelayMs ssrc history.state event.1).1
     numbers := history.numbers ++ if event.1.isOn path then [event.2] else [] },
    (statisticsStep maxDelayMs ssrc history.state event.1).2)

/-- The packet has the 16 bits of its number, which is near the highest one so far. -/
def NearHighest (path : Subflow) (history : PathHistory) (event : StatisticsEvent × Nat) : Prop :=
  match event.1 with
  | .packet packet _ => packet.subflow = path →
      wrap event.2 = packet.subflowSeq ∧ ∀ highest ∈ history.numbers.max?,
        (((event.2 : Int) - highest).natAbs : Int) ≤ history.state.maxReorderingThreshold
  | _ => True

/-- The number is nearest to the last RTP sequence number. -/
def NearLastNumber (path : Subflow) (history : PathHistory) (event : StatisticsEvent × Nat) :
    Prop :=
  match event.1 with
  | .packet packet _ => packet.subflow = path → PlacedAt history.state.seqUnwrapper event.2
  | _ => True

instance (path : Subflow) (history : PathHistory) (event : StatisticsEvent × Nat) :
    Decidable (NearHighest path history event) :=
  match event with
  | (.packet .., _) => inferInstanceAs (Decidable (_ → _ ∧ _))
  | (.report .., _) => .isTrue trivial
  | (.setMaxReorderingThreshold _, _) => .isTrue trivial
  | (.enableRetransmitDetection _, _) => .isTrue trivial

instance (path : Subflow) (history : PathHistory) (event : StatisticsEvent × Nat) :
    Decidable (NearLastNumber path history event) :=
  match event with
  | (.packet .., _) => inferInstanceAs (Decidable (_ → _))
  | (.report .., _) => .isTrue trivial
  | (.setMaxReorderingThreshold _, _) => .isTrue trivial
  | (.enableRetransmitDetection _, _) => .isTrue trivial

/-- Packets of a path in any order, without a restart of the stream. -/
structure ReorderedRun (path : Subflow) (threshold : Int) (run : List (StatisticsEvent × Nat)) :
    Prop where
  distinct : (numbersOnPath path run).Nodup
  span : ∀ first ∈ numbersOnPath path run, ∀ second ∈ numbersOnPath path run,
    first < second + 32768
  near : Along (historyStep maxDelayMs ssrc path) (NearHighest path)
    { state := { maxReorderingThreshold := threshold } } run

/-- The loss on a path is the size of the range of its numbers less the packets received. -/
structure LossCounted (path : Subflow) (history : PathHistory) : Prop where
  natural : history.state.Natural
  fresh : history.numbers = [] → (history.state.on path).Counts 0 (-1) (-1) none
  counted : ∀ first highest, history.numbers.head? = some first →
    history.numbers.max? = some highest →
    (history.state.on path).Counts ((highest : Int) - first + 1 - history.numbers.length)
      first highest none

variable {path : Subflow} {history : PathHistory}

theorem LossCounted.initial (threshold : Int) :
    LossCounted path { state := { maxReorderingThreshold := threshold } } where
  natural := natural_initial threshold
  fresh _ := by cases path <;> exact ⟨rfl, rfl, rfl, rfl⟩
  counted _ _ := nofun

section

variable (counted : LossCounted path history)
include counted

/-- What does not change the account of the path keeps it right. -/
theorem LossCounted.kept {s : StreamStatistician} (natural : s.Natural)
    (same : ∀ loss first highest, (history.state.on path).Counts loss first highest none →
      (s.on path).Counts loss first highest none) :
    LossCounted path { history with state := s } where
  natural := natural
  fresh none := same _ _ _ (counted.fresh none)
  counted first highest head top := same _ _ _ (counted.counted first highest head top)

/-- A packet of the path, put where it belongs. -/
theorem LossCounted.received {s : StreamStatistician}
    {packet : RtpPacketReceived} {number : Nat} {nowMs : Int} (natural : s.Natural)
    (near : ∀ highest ∈ history.numbers.max?,
      (((number : Int) - highest).natAbs : Int) ≤ history.state.maxReorderingThreshold)
    (result : s.on path = (history.state.on path).receive history.state.maxReorderingThreshold
      packet number nowMs) :
    LossCounted path { state := s, numbers := history.numbers ++ [number] } := by
  refine ⟨natural, fun empty => absurd empty (List.append_ne_nil_of_right_ne_nil _ nofun), ?_⟩
  intro first highest head top
  rw [result]
  cases before : history.numbers with
  | nil =>
      rw [before] at head top
      obtain rfl := Option.some.inj head
      obtain rfl := Option.some.inj top
      have account := counted.fresh before
      have opened := SequenceStatistics.receive_first packet nowMs
        history.state.maxReorderingThreshold number (account.first.trans_lt (by decide : (-1 : Int) < 0))
      rw [account.loss, account.postponed] at opened
      simpa using opened
  | cons earliest rest =>
      rw [before] at head top near
      obtain rfl := Option.some.inj head
      have top : max (rest.foldl max earliest) number = highest := by
        rw [List.cons_append, List.max?_cons', List.foldl_append] at top
        exact Option.some.inj top
      have account := counted.counted earliest _ (congrArg List.head? before)
        (congrArg List.max? before)
      have close := near _ rfl
      rw [← account.highest] at close
      have next := SequenceStatistics.receive_next packet nowMs
        (account.first.symm ▸ Int.natCast_nonneg _) account.postponed close
      have raised : max (history.state.on path).receivedSeqMax number = (highest : Int) := by
        rw [account.highest, ← top]
        omega
      rw [raised, account.first] at next
      refine ⟨next.loss.trans ?_, next.first, next.highest, next.postponed⟩
      rw [account.loss, account.highest, before]
      simp only [List.length_append, List.length_cons, List.length_nil]
      omega

/-- Every event keeps the loss counted, if a packet of the path is near the highest number
and its number is put where it belongs. -/
theorem LossCounted.step {event : StatisticsEvent × Nat}
    (near : NearHighest path history event) (placed : NearLastNumber path history event) :
    LossCounted path (historyStep maxDelayMs ssrc path history event).1 := by
  obtain ⟨event, number⟩ := event
  have natural := statisticsStep_natural maxDelayMs ssrc history.state event counted.natural
  unfold historyStep
  cases event with
  | packet packet nowMs =>
      obtain ⟨own, other, -, -⟩ := history.state.updateCounters_frame maxDelayMs packet nowMs
      by_cases counts : packet.subflow = path
      · subst counts
        obtain ⟨cut, close⟩ := near rfl
        have lifted : unwrapWithoutUpdate history.state.seqUnwrapper packet.subflowSeq = number :=
          cut ▸ (unwrapWithoutUpdate_wrap_iff_placedAt counted.natural
            (Int.natCast_nonneg _)).mpr (placed rfl)
        rw [lifted] at own
        have result := counted.received natural close own
        simpa [StatisticsEvent.isOn] using result
      · have result := counted.kept natural fun _ _ _ account =>
          (other path counts).symm ▸ account
        simpa [StatisticsEvent.isOn, counts] using result
  | report pathid nowMs collector =>
      obtain ⟨-, -, paths⟩ := history.state.getActiveStatisticsAndReset_frame nowMs pathid collector
      have result := counted.kept natural fun _ _ _ account => by
        change ((history.state.getActiveStatisticsAndReset pathid nowMs collector).2.on
          path).Counts _ _ _ _
        rw [paths]
        split
        · exact account.calculateRtcpStatistics
        · exact account
      simpa [StatisticsEvent.isOn] using result
  | setMaxReorderingThreshold threshold =>
      have result := counted.kept natural fun _ _ _ account => by
        cases path <;> exact account
      simpa [StatisticsEvent.isOn] using result
  | enableRetransmitDetection enable =>
      have result := counted.kept natural fun _ _ _ account => by
        cases path <;> exact account
      simpa [StatisticsEvent.isOn] using result

end

/-- The history is the run with the numbers of the path. -/
theorem finalState_historyStep (run : List (StatisticsEvent × Nat)) (history : PathHistory) :
    finalState (historyStep maxDelayMs ssrc path) history run =
      { state := finalState (statisticsStep maxDelayMs ssrc) history.state (run.map Prod.fst)
        numbers := history.numbers ++ numbersOnPath path run } := by
  induction run generalizing history with
  | nil => simp [numbersOnPath]
  | cons event run ih =>
      rw [finalState_cons, ih, List.map_cons, finalState_cons]
      unfold historyStep numbersOnPath
      rw [List.filterMap_cons, List.append_assoc]
      split <;> simp_all

/-- The numbers of a path are placed where they belong, beginning with the lowest. -/
structure PlacedRun (path : Subflow) (threshold : Int) (run : List (StatisticsEvent × Nat)) : Prop
    where
  reordered : ReorderedRun maxDelayMs ssrc path threshold run
  placed : Along (historyStep maxDelayMs ssrc path) (NearLastNumber path)
    { state := { maxReorderingThreshold := threshold } } run
  lowestFirst : ∀ first ∈ (numbersOnPath path run).head?, ∀ number ∈ numbersOnPath path run,
    first ≤ number

/-- The loss that is counted for a path in a run. -/
def lossAfter (path : Subflow) (threshold : Int) (run : List (StatisticsEvent × Nat)) : Int :=
  ((finalState (statisticsStep maxDelayMs ssrc) { maxReorderingThreshold := threshold }
    (run.map Prod.fst)).on path).cumulativeLoss

variable {maxDelayMs ssrc} {run : List (StatisticsEvent × Nat)} {threshold : Int}

theorem PlacedRun.lossCounted (placed : PlacedRun maxDelayMs ssrc path threshold run) :
    LossCounted path
      { state := finalState (statisticsStep maxDelayMs ssrc)
          { maxReorderingThreshold := threshold } (run.map Prod.fst)
        numbers := numbersOnPath path run } := by
  have counted := (placed.reordered.near.and placed.placed).invariant (LossCounted path)
    (fun history event counted legal => counted.step maxDelayMs ssrc legal.1 legal.2)
    (LossCounted.initial threshold)
  rw [finalState_historyStep] at counted
  exact counted

/-- The loss as a function of the numbers, whatever their order. -/
theorem PlacedRun.lossAfter_eq
    (placed : PlacedRun maxDelayMs ssrc path threshold run) {lowest highest : Nat}
    (bottom : (numbersOnPath path run).min? = some lowest)
    (top : (numbersOnPath path run).max? = some highest) :
    lossAfter maxDelayMs ssrc path threshold run =
      (highest - lowest + 1 : Int) - (numbersOnPath path run).length := by
  obtain ⟨member, least⟩ := List.min?_eq_some_iff.mp bottom
  cases head : (numbersOnPath path run).head? with
  | none =>
      rw [List.head?_eq_none_iff.mp head] at member
      cases member
  | some first =>
      have below : first ≤ lowest := placed.lowestFirst first head lowest member
      have above : lowest ≤ first := least first (List.mem_of_head? head)
      rw [← Nat.le_antisymm below above]
      exact (placed.lossCounted.counted first highest head top).loss

/-- In whatever order the packets of a path arrive behind the lowest one, and whatever arrives on
the other path, the loss counted for the path is the size of the range of its numbers, less the
packets received, and the same in both runs: if each number of the path is nearest to the last RTP
sequence number when it arrives. -/
theorem path_loss_counted {run other : List (StatisticsEvent × Nat)}
    (placed : PlacedRun maxDelayMs ssrc path threshold run)
    (placed' : PlacedRun maxDelayMs ssrc path threshold other)
    (same : (numbersOnPath path run).Perm (numbersOnPath path other)) :
    (∀ lowest highest, (numbersOnPath path run).min? = some lowest →
      (numbersOnPath path run).max? = some highest →
        lossAfter maxDelayMs ssrc path threshold run =
          (highest - lowest + 1 : Int) - (numbersOnPath path run).length) ∧
      lossAfter maxDelayMs ssrc path threshold run =
        lossAfter maxDelayMs ssrc path threshold other := by
  refine ⟨fun lowest highest bottom top => placed.lossAfter_eq bottom top, ?_⟩
  cases top : (numbersOnPath path run).max? with
  | none =>
      have none := List.max?_eq_none_iff.mp top
      rw [none] at same
      exact (placed.lossCounted.fresh none).loss.trans
        (placed'.lossCounted.fresh same.nil_eq.symm).loss.symm
  | some highest =>
      obtain ⟨member, most⟩ := List.max?_eq_some_iff.mp top
      obtain ⟨lowest, bottom⟩ := Option.isSome_iff_exists.mp (List.isSome_min?_of_mem member)
      have top' : (numbersOnPath path other).max? = some highest :=
        List.max?_eq_some_iff.mpr ⟨same.subset member, fun number there =>
          most number (same.symm.subset there)⟩
      obtain ⟨member', least⟩ := List.min?_eq_some_iff.mp bottom
      have bottom' : (numbersOnPath path other).min? = some lowest :=
        List.min?_eq_some_iff.mpr ⟨same.subset member', fun number there =>
          least number (same.symm.subset there)⟩
      rw [placed.lossAfter_eq bottom top, placed'.lossAfter_eq bottom' top', same.length_eq]

/-- A packet of one path at time 0, with its number on the path. -/
def numberedPacket (subflowId : Nat) (sequenceNumber : UInt16) (number : Nat) :
    StatisticsEvent × Nat :=
  (.packet { sequenceNumber, subflowId, subflowSeq := wrap number } 0, number)

/-- Four packets of path 1, one of them late, and two of path 2. -/
def interleavedRun : List (StatisticsEvent × Nat) :=
  [numberedPacket 1 10 100, numberedPacket 2 11 7, numberedPacket 1 14 103,
    numberedPacket 1 12 101, numberedPacket 2 13 9, numberedPacket 1 16 105]

/-- The packets of path 1 in order and alone. -/
def orderedRun : List (StatisticsEvent × Nat) :=
  [numberedPacket 1 10 100, numberedPacket 1 12 101, numberedPacket 1 14 103,
    numberedPacket 1 16 105]

/-- The packets 102 and 104 are missing in either order. -/
theorem path_loss_counted_interleaved :
    (∀ lowest highest, (numbersOnPath .primary interleavedRun).min? = some lowest →
      (numbersOnPath .primary interleavedRun).max? = some highest →
        lossAfter (fun _ _ => 0) 1 .primary 50 interleavedRun =
          (highest - lowest + 1 : Int) - (numbersOnPath .primary interleavedRun).length) ∧
      lossAfter (fun _ _ => 0) 1 .primary 50 interleavedRun =
        lossAfter (fun _ _ => 0) 1 .primary 50 orderedRun :=
  path_loss_counted ⟨⟨by decide, by decide, by decide⟩, by decide, by decide⟩
    ⟨⟨by decide, by decide, by decide⟩, by decide, by decide⟩ (by decide)

/-- Five packets of path 1, while the RTP sequence number goes past half a circle from the
numbers of the path. -/
def crossingRun : List (StatisticsEvent × Nat) :=
  [numberedPacket 1 32860 100, numberedPacket 1 32870 101, numberedPacket 1 32880 102,
    numberedPacket 1 32890 103, numberedPacket 1 32900 104]

/-- No packet is missing, but one is counted too often. -/
theorem crossing_loss_negative :
    ReorderedRun (fun _ _ => 0) 1 .primary 50 crossingRun ∧
      (numbersOnPath .primary crossingRun).head? = some 100 ∧
      (numbersOnPath .primary crossingRun).max? = some 104 ∧
      lossAfter (fun _ _ => 0) 1 .primary 50 crossingRun = -1 ∧
      ((104 : Nat) - (100 : Nat) + 1 : Int) - (numbersOnPath .primary crossingRun).length = 0 :=
  ⟨⟨by decide, by decide, by decide⟩, rfl, rfl, by decide, by decide⟩

end Loss

section Isolation

/-- The fields of a report block that are about the path it is for. The highest RTP sequence
number, which goes along, is not one of them. -/
structure PathFields where
  fractionLost : UInt8
  cumulativeLost : Int32
  extendedHighSeqNum : UInt32
  jitter : UInt32
  deriving DecidableEq

/-- The fields of a block about its path. -/
def ReportBlock.pathFields (block : ReportBlock) : PathFields where
  fractionLost := block.fractionLost
  cumulativeLost := block.cumulativeLost
  extendedHighSeqNum := block.extendedHighSeqNum
  jitter := block.jitter

/-- The fields of the block made from the numbers of a path. -/
def NumberingReport.pathFields (report : NumberingReport) : Option PathFields :=
  if fitsReportBlock report.packetsLost then
    some {
      fractionLost := report.fractionLost
      cumulativeLost := Int32.ofInt report.packetsLost
      extendedHighSeqNum := report.extendedHighestSequenceNumber
      jitter := report.jitter }
  else none

/-- What is reported for a path: for each request, the fields about the path, if there is a
block. -/
def reportedOn (path : Subflow) (answer : Nat × Option ReportBlock) : Option (Option PathFields) :=
  if answer.1 = path.pathid then some (answer.2.map ReportBlock.pathFields) else none

/-- A packet of the path, a request for its report, or a setting. -/
def StatisticsEvent.concerns (path : Subflow) : StatisticsEvent → Bool
  | .packet arrived _ => arrived.subflow = path
  | .report pathid .. => pathid = path.pathid
  | _ => true

/-- An event that concerns the path, with the state in which it happens. -/
def concerning (path : Subflow) (s : StreamStatistician) (event : StatisticsEvent) :
    Option (StreamStatistician × StatisticsEvent) :=
  if event.concerns path then some (s, event) else none

/-- In the two states, the event means the same to its path: the number of a packet is
nearest at one place to both last RTP sequence numbers, and a request for a report finds
the stream active in both or in none. -/
def MeansTheSame (first second : StreamStatistician × StatisticsEvent) : Prop :=
  first.2 = second.2 ∧
    match first.2 with
    | .packet packet _ => ∃ number : Nat, wrap number = packet.subflowSeq ∧
        PlacedAt first.1.seqUnwrapper number ∧ PlacedAt second.1.seqUnwrapper number
    | .report _ nowMs _ => first.1.isActive nowMs = second.1.isActive nowMs
    | _ => True

/-- What an event means to its path. -/
inductive PathInput
  | packet (packet : RtpPacketReceived) (pathNumber nowMs : Int)
  | report (active : Bool) (collector : Collector)
  | setMaxReorderingThreshold (threshold : Int)
  | enableRetransmitDetection

/-- What an event means to its path in the state in which it happens. -/
def pathInput : StreamStatistician × StatisticsEvent → PathInput
  | (s, .packet packet nowMs) =>
      .packet packet (unwrapWithoutUpdate s.seqUnwrapper packet.subflowSeq) nowMs
  | (s, .report _ nowMs collector) => .report (s.isActive nowMs) collector
  | (_, .setMaxReorderingThreshold threshold) => .setMaxReorderingThreshold threshold
  | (_, .enableRetransmitDetection _) => .enableRetransmitDetection

/-- The statistics of one path on their own. -/
def pathStep (path : Subflow) (kept : SequenceStatistics × Int) :
    PathInput → (SequenceStatistics × Int) × List (Option PathFields)
  | .packet packet pathNumber nowMs => ((kept.1.receive kept.2 packet pathNumber nowMs, kept.2), [])
  | .report active collector =>
      if active then
        if path.reportedBy path.pathid collector then
          ((kept.1.calculateRtcpStatistics.2, kept.2), [kept.1.calculateRtcpStatistics.1.pathFields])
        else (kept, [NumberingReport.pathFields {}])
      else (kept, [none])
  | .setMaxReorderingThreshold threshold => ((kept.1, threshold), [])
  | .enableRetransmitDetection => (kept, [])

/-- The part of the state that belongs to a path. -/
def StreamStatistician.pathView (path : Subflow) (s : StreamStatistician) :
    SequenceStatistics × Int := (s.on path, s.maxReorderingThreshold)

variable {path : Subflow}

theorem Subflow.reportedBy_pathid {requested : Nat} {collector : Collector}
    (reported : path.reportedBy requested collector) : requested = path.pathid := by
  cases path with
  | primary => exact reported
  | secondary => exact reported.1

/-- The block of a path has its numbers. -/
theorem addReportBlock_pathFields (statistics : RtcpStatistics) :
    (addReportBlock ssrc path.pathid statistics).map ReportBlock.pathFields =
      (statistics.on path).pathFields := by
  have chosen : (if path.pathid ≠ 2 then statistics.primary else statistics.secondary) =
      statistics.on path := by
    cases path <;> rfl
  unfold addReportBlock NumberingReport.pathFields
  rw [chosen]
  dsimp only
  split <;> rfl

/-- What is answered to a request for the report of a path. -/
theorem getActiveStatisticsAndReset_fields (s : StreamStatistician) (nowMs : Int)
    (collector : Collector) :
    ((s.getActiveStatisticsAndReset path.pathid nowMs collector).1.bind
        (addReportBlock ssrc path.pathid)).map ReportBlock.pathFields =
      if s.isActive nowMs then
        if path.reportedBy path.pathid collector then
          (s.on path).calculateRtcpStatistics.1.pathFields
        else NumberingReport.pathFields {}
      else none := by
  by_cases active : s.isActive nowMs
  · rw [if_pos active]
    unfold StreamStatistician.getActiveStatisticsAndReset
    rw [if_pos active]
    dsimp only [Option.bind_some]
    rw [addReportBlock_pathFields]
    cases path with
    | primary =>
        have asked : Subflow.primary.reportedBy Subflow.primary.pathid collector := rfl
        rw [if_pos asked, if_pos (show Subflow.primary.pathid = 1 from rfl)]
        rfl
    | secondary =>
        rw [if_neg (by decide : ¬Subflow.pathid .secondary = 1)]
        by_cases asked : Subflow.secondary.pathid = 2 ∧ collector.mpIsSecondPathOpen ∧
            ¬collector.schedulerMentions "red"
        · have reported : Subflow.secondary.reportedBy Subflow.secondary.pathid collector := asked
          rw [if_pos asked, if_pos reported]
          rfl
        · have reported : ¬Subflow.secondary.reportedBy Subflow.secondary.pathid collector := asked
          rw [if_neg asked, if_neg reported]
          rfl
  · rw [if_neg active]
    unfold StreamStatistician.getActiveStatisticsAndReset
    rw [if_neg active]
    rfl

variable {event : StatisticsEvent}

/-- An event that does not concern a path leaves it alone and says nothing about it. -/
theorem statisticsStep_ignored {s : StreamStatistician} (ignored : event.concerns path = false) :
    (statisticsStep maxDelayMs ssrc s event).1.pathView path = s.pathView path ∧
      (statisticsStep maxDelayMs ssrc s event).2.filterMap (reportedOn path) = [] := by
  cases event with
  | packet packet nowMs =>
      obtain ⟨-, other, threshold, -⟩ := s.updateCounters_frame maxDelayMs packet nowMs
      exact ⟨Prod.ext (other path (of_decide_eq_false ignored)) threshold, rfl⟩
  | report pathid nowMs collector =>
      have differs : pathid ≠ path.pathid := of_decide_eq_false ignored
      obtain ⟨-, threshold, paths⟩ := s.getActiveStatisticsAndReset_frame nowMs pathid collector
      refine ⟨Prod.ext ((paths path).trans (if_neg fun asked =>
        differs (Subflow.reportedBy_pathid asked.2))) threshold, ?_⟩
      unfold statisticsStep reportedOn
      simp [differs]
  | setMaxReorderingThreshold threshold => cases ignored
  | enableRetransmitDetection enable => cases ignored

/-- An event that concerns a path moves it and is answered as the path on its own is. -/
theorem statisticsStep_followed {s : StreamStatistician} (followed : event.concerns path = true) :
    (statisticsStep maxDelayMs ssrc s event).1.pathView path =
        (pathStep path (s.pathView path) (pathInput (s, event))).1 ∧
      (statisticsStep maxDelayMs ssrc s event).2.filterMap (reportedOn path) =
        (pathStep path (s.pathView path) (pathInput (s, event))).2 := by
  cases event with
  | packet packet nowMs =>
      obtain rfl : packet.subflow = path := of_decide_eq_true followed
      obtain ⟨own, -, threshold, -⟩ := s.updateCounters_frame maxDelayMs packet nowMs
      exact ⟨Prod.ext own threshold, rfl⟩
  | report pathid nowMs collector =>
      obtain rfl : pathid = path.pathid := of_decide_eq_true followed
      obtain ⟨-, threshold, paths⟩ :=
        s.getActiveStatisticsAndReset_frame nowMs path.pathid collector
      have answered := @getActiveStatisticsAndReset_fields ssrc path s nowMs collector
      have moved := paths path
      unfold statisticsStep pathStep pathInput reportedOn StreamStatistician.pathView
      dsimp only
      rw [List.filterMap_cons, if_pos rfl, answered, moved, threshold]
      by_cases active : s.isActive nowMs
      · by_cases reported : path.reportedBy path.pathid collector
        · simp [active, reported]
        · simp [active, reported]
      · simp [active]
  | setMaxReorderingThreshold threshold =>
      refine ⟨?_, rfl⟩
      cases path <;> rfl
  | enableRetransmitDetection enable =>
      refine ⟨?_, rfl⟩
      cases path <;> rfl

/-- The reports for a path are those of the path on its own. -/
theorem reportedOn_outputs (s : StreamStatistician) (run : List StatisticsEvent) :
    (outputs (statisticsStep maxDelayMs ssrc) s run).filterMap (reportedOn path) =
      outputs (pathStep path) (s.pathView path)
        ((resolved (statisticsStep maxDelayMs ssrc) (concerning path) s run).map pathInput) := by
  rw [← resolved_map]
  apply filterMap_outputs
  · intro s event ignored
    apply statisticsStep_ignored
    by_contra concerned
    rw [Bool.not_eq_false] at concerned
    rw [concerning, if_pos concerned] at ignored
    cases ignored
  · intro s event input followed
    by_cases concerned : event.concerns path
    · rw [concerning, if_pos concerned] at followed
      obtain rfl := Option.some.inj followed
      exact statisticsStep_followed maxDelayMs ssrc concerned
    · rw [concerning, if_neg concerned] at followed
      cases followed

/-- Events that mean the same are the same input. -/
theorem MeansTheSame.pathInput_eq {first second : StreamStatistician × StatisticsEvent}
    (same : MeansTheSame first second) (naturalFirst : first.1.Natural)
    (naturalSecond : second.1.Natural) : pathInput first = pathInput second := by
  obtain ⟨s, event⟩ := first
  obtain ⟨t, other⟩ := second
  obtain ⟨rfl, meaning⟩ := same
  cases event with
  | packet packet nowMs =>
      obtain ⟨number, cut, here, there⟩ := meaning
      have lifted := (unwrapWithoutUpdate_wrap_iff_placedAt naturalFirst
        (Int.natCast_nonneg number)).mpr here
      have other := (unwrapWithoutUpdate_wrap_iff_placedAt naturalSecond
        (Int.natCast_nonneg number)).mpr there
      rw [cut] at lifted other
      unfold pathInput
      dsimp only at lifted other ⊢
      rw [lifted, other]
  | report pathid nowMs collector => exact congrArg (PathInput.report · collector) meaning
  | setMaxReorderingThreshold threshold => rfl
  | enableRetransmitDetection enable => rfl

theorem natural_concerning (path : Subflow) (threshold : Int) (run : List StatisticsEvent) :
    ∀ input ∈ resolved (statisticsStep maxDelayMs ssrc) (concerning path)
      { maxReorderingThreshold := threshold } run, input.1.Natural := by
  refine forall_resolved StreamStatistician.Natural
    (fun s event natural => statisticsStep_natural maxDelayMs ssrc s event natural) ?_
    (natural_initial threshold) run
  intro s event natural input member
  unfold concerning at member
  split at member
  · obtain rfl := Option.some.inj member
    exact natural
  · cases member

theorem map_pathInput_eq {first second : List (StreamStatistician × StatisticsEvent)}
    (same : List.Forall₂ MeansTheSame first second)
    (naturalFirst : ∀ input ∈ first, input.1.Natural)
    (naturalSecond : ∀ input ∈ second, input.1.Natural) :
    first.map pathInput = second.map pathInput := by
  induction same with
  | nil => rfl
  | cons head _ ih =>
      rw [List.forall_mem_cons] at naturalFirst naturalSecond
      rw [List.map_cons, List.map_cons, head.pathInput_eq naturalFirst.1 naturalSecond.1,
        ih naturalFirst.2 naturalSecond.2]

/-- Two runs with the same packets, requests and settings of a path have the same reports for
it, whatever happens on the other path: if at each of these events both runs put the number
of the packet at the same place, or both or none find the stream active. -/
theorem path_reports_isolated (path : Subflow) (threshold : Int)
    (firstRun secondRun : List StatisticsEvent) (same : List.Forall₂ MeansTheSame
      (resolved (statisticsStep maxDelayMs ssrc) (concerning path)
        { maxReorderingThreshold := threshold } firstRun)
      (resolved (statisticsStep maxDelayMs ssrc) (concerning path)
        { maxReorderingThreshold := threshold } secondRun)) :
    (outputs (statisticsStep maxDelayMs ssrc) { maxReorderingThreshold := threshold }
        firstRun).filterMap (reportedOn path) =
      (outputs (statisticsStep maxDelayMs ssrc) { maxReorderingThreshold := threshold }
        secondRun).filterMap (reportedOn path) := by
  have naturalFirst := natural_concerning maxDelayMs ssrc path threshold firstRun
  have naturalSecond := natural_concerning maxDelayMs ssrc path threshold secondRun
  rw [reportedOn_outputs, reportedOn_outputs, map_pathInput_eq same naturalFirst naturalSecond]

/-- With and without a packet of path 2, the report for path 1 is the same. -/
theorem path_reports_isolated_nearby :
    (outputs (statisticsStep (fun _ _ => 0) 1) { maxReorderingThreshold := 50 }
        [(numberedPacket 1 10 100).1, (numberedPacket 1 12 102).1,
          .report 1 0 openRoundRobin]).filterMap (reportedOn .primary) =
      (outputs (statisticsStep (fun _ _ => 0) 1) { maxReorderingThreshold := 50 }
        [(numberedPacket 1 10 100).1, (numberedPacket 2 11 7).1, (numberedPacket 1 12 102).1,
          .report 1 0 openRoundRobin]).filterMap (reportedOn .primary) :=
  path_reports_isolated (fun _ _ => 0) 1 .primary 50 _ _
    (.cons ⟨rfl, 100, by decide, by decide, by decide⟩
      (.cons ⟨rfl, 102, by decide, by decide, by decide⟩ (.cons ⟨rfl, by decide⟩ .nil)))

/-- A packet of path 2 moves the last RTP sequence number past half a circle from the next
packet of path 1, which then is not counted as the highest. -/
theorem path_reports_disturbed :
    List.filter (StatisticsEvent.concerns .primary)
        [(numberedPacket 1 32860 100).1, (numberedPacket 2 32890 5).1,
          (numberedPacket 1 32900 101).1, .report 1 0 openRoundRobin] =
      [(numberedPacket 1 32860 100).1, (numberedPacket 1 32900 101).1,
        .report 1 0 openRoundRobin] ∧
    (outputs (statisticsStep (fun _ _ => 0) 1) { maxReorderingThreshold := 50 }
      [(numberedPacket 1 32860 100).1, (numberedPacket 1 32900 101).1,
        .report 1 0 openRoundRobin]).filterMap (reportedOn .primary) =
      [some { fractionLost := 0, cumulativeLost := 0, extendedHighSeqNum := 101, jitter := 0 }] ∧
    (outputs (statisticsStep (fun _ _ => 0) 1) { maxReorderingThreshold := 50 }
      [(numberedPacket 1 32860 100).1, (numberedPacket 2 32890 5).1,
        (numberedPacket 1 32900 101).1, .report 1 0 openRoundRobin]).filterMap
          (reportedOn .primary) =
      [some { fractionLost := 0, cumulativeLost := 0, extendedHighSeqNum := 100, jitter := 0 }] :=
  ⟨rfl, by decide, by decide⟩

end Isolation

end MpWebRtc
