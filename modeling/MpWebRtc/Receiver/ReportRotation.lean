import MpWebRtc.Math.OrderedMap
import MpWebRtc.Math.Rotation
import MpWebRtc.Math.Run
import MpWebRtc.Receiver.StreamRestart

/-!
# The rotation of report blocks

A report has room for some blocks only. `RtcpReportBlocks` takes the streams in the order of their
SSRCs, from behind the one that was returned last, so that later reports have the other streams.
There is one such mark for both paths: requests for the other path use up turns. Whether the
reports of a path have every stream depends on the places of its requests among all requests.
-/

namespace MpWebRtc

open Math Math.Rotation Math.Run

/-- A call of `RtcpReportBlocks`, and what it reads of its surroundings. -/
structure ReportRequest where
  pathid : Nat
  nowMs : Int
  collector : Collector

namespace StreamStatistician

variable (s : StreamStatistician)

/-- The block that a stream answers a request with. -/
def answer (ssrc : UInt32) (request : ReportRequest) : Option ReportBlock :=
  (s.getActiveStatisticsAndReset request.pathid request.nowMs request.collector).1.bind
    (addReportBlock ssrc request.pathid)

/-- The stream after a request. -/
def answered (request : ReportRequest) : StreamStatistician :=
  (s.getActiveStatisticsAndReset request.pathid request.nowMs request.collector).2

/-- The loss in the block that a request is answered with. -/
def lossFor (request : ReportRequest) : Int :=
  if request.pathid = 1 then (s.on .primary).calculateRtcpStatistics.1.packetsLost
  else if Subflow.secondary.reportedBy request.pathid request.collector then
    (s.on .secondary).calculateRtcpStatistics.1.packetsLost
  else 0

end StreamStatistician

/-- `ReceiveStatisticsImpl`: the streams by SSRC, and the one that was returned last. -/
structure ReceiveStatistics where
  statisticians : OrderedMap UInt32 StreamStatistician := {}
  lastReturnedSsrc : UInt32 := 0

namespace ReceiveStatistics

variable (r : ReceiveStatistics)

/-- `add_report_block`. The statistician is shared with the map. -/
def addReportBlock (request : ReportRequest) (ssrc : UInt32)
    (statistician : StreamStatistician) (result : List ReportBlock) :
    ReceiveStatistics × List ReportBlock :=
  ({ r with statisticians := r.statisticians.modify ssrc (·.answered request) },
    result ++ (statistician.answer ssrc request).toList)

/-- A loop of `RtcpReportBlocks`. -/
def addReportBlocks (maxBlocks : Nat) (request : ReportRequest) :
    List (UInt32 × StreamStatistician) → ReceiveStatistics × List ReportBlock →
      ReceiveStatistics × List ReportBlock
  | [], reached => reached
  | (ssrc, statistician) :: rest, (r, result) =>
      if result.length < maxBlocks then
        addReportBlocks maxBlocks request rest (r.addReportBlock request ssrc statistician result)
      else (r, result)

/-- `RtcpReportBlocks`: the streams from `upper_bound` of the last SSRC on, and then the others. -/
def rtcpReportBlocks (maxBlocks : Nat) (request : ReportRequest) :
    ReceiveStatistics × List ReportBlock :=
  let statisticians := r.statisticians.entries
  let fromStart := statisticians.filter fun entry => decide (r.lastReturnedSsrc < entry.1)
  let others := statisticians.filter fun entry => decide (entry.1 ≤ r.lastReturnedSsrc)
  let reached := addReportBlocks maxBlocks request others
    (addReportBlocks maxBlocks request fromStart (r, []))
  match reached.2.getLast? with
  | none => reached
  | some block => ({ reached.1 with lastReturnedSsrc := block.sourceSsrc }, reached.2)

/-- One call, with its path and the SSRCs of its blocks. -/
def reportStep (maxBlocks : Nat) (r : ReceiveStatistics) (request : ReportRequest) :
    ReceiveStatistics × List (Nat × List UInt32) :=
  ((r.rtcpReportBlocks maxBlocks request).1,
    [(request.pathid, (r.rtcpReportBlocks maxBlocks request).2.map ReportBlock.sourceSsrc)])

/-- The streams with a block for a request. -/
def reporting (request : ReportRequest) : List UInt32 :=
  (r.statisticians.entries.filter fun entry => (entry.2.answer entry.1 request).isSome).map
    Prod.fst

end ReceiveStatistics

section Answers

theorem isSome_addReportBlock (ssrc : UInt32) (pathid : Nat) (statistics : RtcpStatistics) :
    (MpWebRtc.addReportBlock ssrc pathid statistics).isSome =
      fitsReportBlock
        (if pathid ≠ 2 then statistics.primary else statistics.secondary).packetsLost := by
  unfold MpWebRtc.addReportBlock
  extract_lets path
  change _ = fitsReportBlock path.packetsLost
  cases fitsReportBlock path.packetsLost <;> rfl

/-- A request does not change the loss. -/
theorem packetsLost_calculateRtcpStatistics (stats : SequenceStatistics) :
    stats.calculateRtcpStatistics.2.calculateRtcpStatistics.1.packetsLost =
      stats.calculateRtcpStatistics.1.packetsLost := by
  unfold SequenceStatistics.calculateRtcpStatistics
  dsimp only
  split
  · rw [add_neg_cancel, max_self]
    omega
  · rfl

namespace StreamStatistician

variable (s : StreamStatistician) (ssrc : UInt32) (request other : ReportRequest)

/-- There is a block if the stream is active and its loss fits. -/
theorem isSome_answer :
    (s.answer ssrc request).isSome =
      (s.isActive request.nowMs && fitsReportBlock (s.lossFor request)) := by
  obtain ⟨pathid, nowMs, collector⟩ := request
  unfold answer getActiveStatisticsAndReset lossFor
  dsimp only
  cases s.isActive nowMs with
  | false => rfl
  | true =>
      rw [if_pos rfl, Option.bind_some, isSome_addReportBlock, Bool.true_and]
      by_cases primary : pathid = 1
      · subst primary
        rfl
      · rw [if_neg primary, if_neg primary]
        by_cases secondary : Subflow.secondary.reportedBy pathid collector
        · have asked : pathid = 2 ∧ collector.mpIsSecondPathOpen ∧
              ¬collector.schedulerMentions "red" := secondary
          rw [if_pos asked, if_pos secondary, if_neg (not_not.mpr asked.1)]
          rfl
        · have unasked : ¬(pathid = 2 ∧ collector.mpIsSecondPathOpen ∧
              ¬collector.schedulerMentions "red") := secondary
          rw [if_neg unasked, if_neg secondary]
          split <;> rfl

theorem answered_isActive (nowMs : Int) :
    (s.answered request).isActive nowMs = s.isActive nowMs := by
  unfold answered getActiveStatisticsAndReset
  split
  · dsimp only
    split
    · rfl
    · split <;> rfl
  · rfl

theorem answered_lossFor : (s.answered request).lossFor other = s.lossFor other := by
  obtain ⟨-, -, paths⟩ :=
    s.getActiveStatisticsAndReset_frame request.nowMs request.pathid request.collector
  have same : ∀ path : Subflow,
      ((s.answered request).on path).calculateRtcpStatistics.1.packetsLost =
        (s.on path).calculateRtcpStatistics.1.packetsLost := by
    intro path
    unfold answered
    rw [paths]
    split
    · exact packetsLost_calculateRtcpStatistics _
    · rfl
  unfold lossFor
  rw [same, same]

/-- A request does not decide about the blocks of later ones. -/
theorem isSome_answer_answered :
    ((s.answered request).answer ssrc other).isSome = (s.answer ssrc other).isSome := by
  rw [isSome_answer, isSome_answer, answered_isActive, answered_lossFor]

variable {s ssrc request}

/-- The block is about the stream. -/
theorem sourceSsrc_answer {block : ReportBlock} (sent : block ∈ s.answer ssrc request) :
    block.sourceSsrc = ssrc := by
  obtain ⟨statistics, -, made⟩ := Option.bind_eq_some_iff.mp sent
  unfold MpWebRtc.addReportBlock at made
  extract_lets path at made
  split at made
  · obtain rfl := Option.some.inj made
    rfl
  · cases made

/-- The SSRCs of the blocks for a stream. -/
theorem map_sourceSsrc_answer :
    (s.answer ssrc request).toList.map ReportBlock.sourceSsrc =
      if (s.answer ssrc request).isSome then [ssrc] else [] := by
  cases sent : s.answer ssrc request with
  | none => rfl
  | some block => exact congrArg (fun source => [source]) (sourceSsrc_answer sent)

end StreamStatistician

end Answers

namespace ReceiveStatistics

section Call

variable {r : ReceiveStatistics} (maxBlocks : Nat) (request : ReportRequest)

/-- A block more or less, every stream has blocks for the requests it had blocks for. -/
theorem reporting_addReportBlock (ssrc : UInt32) (statistician : StreamStatistician)
    (result : List ReportBlock) (other : ReportRequest) :
    (r.addReportBlock request ssrc statistician result).1.reporting other = r.reporting other := by
  unfold reporting addReportBlock OrderedMap.modify
  dsimp only
  rw [List.filter_map, List.map_map]
  congr 1
  refine List.filter_congr fun entry _ => ?_
  dsimp only [Function.comp]
  split
  · exact StreamStatistician.isSome_answer_answered ..
  · rfl

/-- What a loop leaves, and the SSRCs of its blocks: of the streams it goes through, those that
report, as long as there is room. -/
theorem addReportBlocks_spec (entries : List (UInt32 × StreamStatistician))
    (reached : ReceiveStatistics × List ReportBlock) :
    (addReportBlocks maxBlocks request entries reached).1.lastReturnedSsrc =
        reached.1.lastReturnedSsrc ∧
      (∀ other, (addReportBlocks maxBlocks request entries reached).1.reporting other =
        reached.1.reporting other) ∧
      (addReportBlocks maxBlocks request entries reached).2.map ReportBlock.sourceSsrc =
        reached.2.map ReportBlock.sourceSsrc ++
          ((entries.filter fun entry => (entry.2.answer entry.1 request).isSome).map
            Prod.fst).take (maxBlocks - reached.2.length) := by
  induction entries generalizing reached with
  | nil => exact ⟨rfl, fun _ => rfl, by simp [addReportBlocks]⟩
  | cons entry rest ih =>
      obtain ⟨ssrc, statistician⟩ := entry
      obtain ⟨r, result⟩ := reached
      unfold addReportBlocks
      by_cases room : result.length < maxBlocks
      · obtain ⟨last, others, sources⟩ := ih (r.addReportBlock request ssrc statistician result)
        rw [if_pos room]
        refine ⟨last, fun other => (others other).trans (reporting_addReportBlock ..), ?_⟩
        rw [sources]
        unfold addReportBlock
        rw [List.map_append, List.append_assoc, StreamStatistician.map_sourceSsrc_answer,
          List.filter_cons]
        cases sent : statistician.answer ssrc request with
        | none =>
            rw [Option.isSome_none, if_neg Bool.false_ne_true, if_neg Bool.false_ne_true,
              Option.toList_none, List.append_nil, List.nil_append]
        | some block =>
            have left : maxBlocks - result.length = maxBlocks - (result.length + 1) + 1 := by omega
            rw [Option.isSome_some, if_pos rfl, if_pos rfl, Option.toList_some,
              List.length_append, List.length_singleton, List.map_cons, left,
              List.take_succ_cons, List.singleton_append]
      · rw [if_neg room]
        refine ⟨rfl, fun _ => rfl, ?_⟩
        rw [Nat.sub_eq_zero_of_le (not_lt.mp room), List.take_zero, List.append_nil]

/-- The SSRCs of the blocks are those of the reporting streams in the order of the turn, as long
as there is room, and the last one is remembered. -/
theorem rtcpReportBlocks_spec :
    (r.rtcpReportBlocks maxBlocks request).2.map ReportBlock.sourceSsrc =
        (behind r.lastReturnedSsrc (r.reporting request)).take maxBlocks ∧
      (∀ other, (r.rtcpReportBlocks maxBlocks request).1.reporting other = r.reporting other) ∧
      ∀ last, ((behind r.lastReturnedSsrc (r.reporting request)).take maxBlocks).getLast? =
          some last →
        (r.rtcpReportBlocks maxBlocks request).1.lastReturnedSsrc = last := by
  have kept : ∀ keep : UInt32 → Bool,
      ((r.statisticians.entries.filter fun entry => keep entry.1).filter fun entry =>
        (entry.2.answer entry.1 request).isSome).map Prod.fst =
          (r.reporting request).filter keep := by
    intro keep
    unfold reporting
    rw [List.filter_map, List.filter_filter, List.filter_filter]
    congr 1
    exact List.filter_congr fun entry _ => Bool.and_comm ..
  let first := addReportBlocks maxBlocks request
    (r.statisticians.entries.filter fun entry => decide (r.lastReturnedSsrc < entry.1)) (r, [])
  let reached := addReportBlocks maxBlocks request
    (r.statisticians.entries.filter fun entry => decide (entry.1 ≤ r.lastReturnedSsrc)) first
  obtain ⟨-, firstOthers, firstSources⟩ := addReportBlocks_spec maxBlocks request
    (r.statisticians.entries.filter fun entry => decide (r.lastReturnedSsrc < entry.1)) (r, [])
  change first.2.map ReportBlock.sourceSsrc = _ at firstSources
  obtain ⟨-, others, sources⟩ := addReportBlocks_spec maxBlocks request
    (r.statisticians.entries.filter fun entry => decide (entry.1 ≤ r.lastReturnedSsrc)) first
  have result : r.rtcpReportBlocks maxBlocks request =
      match reached.2.getLast? with
      | none => reached
      | some block => ({ reached.1 with lastReturnedSsrc := block.sourceSsrc }, reached.2) := rfl
  have ordered : behind r.lastReturnedSsrc (r.reporting request) =
      ((r.reporting request).filter fun ssrc => decide (r.lastReturnedSsrc < ssrc)) ++
        (r.reporting request).filter fun ssrc => decide (ssrc ≤ r.lastReturnedSsrc) :=
    congrArg (· ++ _) (List.filter_congr fun _ _ => decide_eq_decide.mpr Iff.rfl)
  have blocks : reached.2.map ReportBlock.sourceSsrc =
      (behind r.lastReturnedSsrc (r.reporting request)).take maxBlocks := by
    have filled := congrArg List.length firstSources
    rw [List.map_nil, List.nil_append, List.length_map, List.length_take, List.length_nil,
      Nat.sub_zero, kept fun ssrc => decide (r.lastReturnedSsrc < ssrc)] at filled
    have room : maxBlocks - first.2.length = maxBlocks -
        ((r.reporting request).filter fun ssrc => decide (r.lastReturnedSsrc < ssrc)).length := by
      omega
    rw [sources, firstSources, List.map_nil, List.nil_append, List.length_nil, Nat.sub_zero, room,
      kept fun ssrc => decide (r.lastReturnedSsrc < ssrc),
      kept fun ssrc => decide (ssrc ≤ r.lastReturnedSsrc), ← List.take_append, ordered]
  have reporting : ∀ other, reached.1.reporting other = r.reporting other := fun other =>
    (others other).trans (firstOthers other)
  rw [result]
  cases ended : reached.2.getLast? with
  | none =>
      refine ⟨blocks, reporting, fun last isLast => ?_⟩
      rw [← blocks, List.getLast?_map, ended] at isLast
      cases isLast
  | some block =>
      refine ⟨blocks, reporting, fun last isLast => ?_⟩
      rw [← blocks, List.getLast?_map, ended] at isLast
      exact Option.some.inj isLast

end Call

section Rotation

variable {maxBlocks : Nat} {active : List UInt32} {r : ReceiveStatistics}
variable {requests : List ReportRequest}

theorem reporting_sorted (r : ReceiveStatistics) (request : ReportRequest) :
    (r.reporting request).Pairwise (· < ·) :=
  List.pairwise_map.mpr (r.statisticians.sorted.filter _)

/-- Every call is the next turn, whichever path it is for. -/
theorem outputs_reportStep (positive : 0 < maxBlocks) (sorted : active.Pairwise (· < ·))
    (steady : ∀ request ∈ requests, r.reporting request = active) (start number : Nat)
    (reached : behind r.lastReturnedSsrc active =
      active.rotate (start + number * min maxBlocks active.length)) :
    outputs (reportStep maxBlocks) r requests =
      (requests.zipIdx number).map fun entry =>
        (entry.1.pathid, turn active start (min maxBlocks active.length) entry.2) := by
  induction requests generalizing r number with
  | nil => rfl
  | cons request rest ih =>
      obtain ⟨now, later⟩ := List.forall_mem_cons.mp steady
      obtain ⟨blocks, others, remembers⟩ := r.rtcpReportBlocks_spec maxBlocks request
      rw [now, reached, List.take_eq_take_min, List.length_rotate] at blocks remembers
      have next : behind (r.rtcpReportBlocks maxBlocks request).1.lastReturnedSsrc active =
          active.rotate (start + (number + 1) * min maxBlocks active.length) := by
        rcases Nat.eq_zero_or_pos active.length with none | some
        · rw [List.length_eq_zero_iff.mp none]
          rfl
        · have lasts : (((active.rotate (start + number * min maxBlocks active.length)).take
              (min maxBlocks active.length)).getLast?).isSome := by
            rw [List.getLast?_isSome, ← List.length_pos_iff, List.length_take, List.length_rotate]
            omega
          obtain ⟨last, isLast⟩ := Option.isSome_iff_exists.mp lasts
          rw [remembers last isLast, behind_getLast sorted (by omega) (min_le_right ..) isLast,
            Nat.add_assoc, ← Nat.succ_mul]
      have rest := ih (fun request member => (others request).trans (later request member))
        (number + 1) next
      rw [outputs_cons, List.zipIdx_cons, List.map_cons]
      refine congrArg₂ List.cons (Prod.ext rfl blocks) rest

end Rotation

end ReceiveStatistics

section Fairness

/-- The number of calls in which every stream should come up. -/
def callsForAll (maxBlocks total : Nat) : Nat := (total + maxBlocks - 1) / maxBlocks

variable (pathid : Nat)

/-- The SSRCs in the reports of a path. -/
def reportsOf (reports : List (Nat × List UInt32)) : List (List UInt32) :=
  (reports.filter fun report => decide (report.1 = pathid)).map Prod.snd

/-- The places of the requests for a path among all requests. -/
def placesOf (requests : List ReportRequest) : List Nat :=
  (requests.zipIdx.filter fun entry => decide (entry.1.pathid = pathid)).map Prod.snd

/-- Every call has as many blocks as there is room and need for, each for another active stream,
and every active stream is in one of any so many successive reports of a path. -/
structure ReportsRotate (maxBlocks : Nat) (active : List UInt32)
    (reports : List (Nat × List UInt32)) : Prop where
  distinct : ∀ report ∈ reports, report.2.Nodup ∧ ∀ ssrc ∈ report.2, ssrc ∈ active
  filled : ∀ report ∈ reports, report.2.length = min maxBlocks active.length
  fair : ∀ pathid first,
    first + callsForAll maxBlocks active.length ≤ (reportsOf pathid reports).length →
    ∀ ssrc ∈ active, ∃ report ∈ ((reportsOf pathid reports).drop first).take
      (callsForAll maxBlocks active.length), ssrc ∈ report

/-- So many successive requests for a path are at places that have, modulo the number of streams,
every turn. -/
def PlacesExhaustive (maxBlocks total : Nat) (requests : List ReportRequest) : Prop :=
  ∀ pathid first, first + callsForAll maxBlocks total ≤ (placesOf pathid requests).length →
    Exhaustive (min maxBlocks total) total
      (((placesOf pathid requests).drop first).take (callsForAll maxBlocks total))

variable {maxBlocks : Nat} {active : List UInt32} {r : ReceiveStatistics}
variable {requests : List ReportRequest}

/-- The reports of a path are the turns at its places. -/
theorem reportsOf_map_turn (start count pathid : Nat) :
    reportsOf pathid (requests.zipIdx.map fun entry =>
        (entry.1.pathid, turn active start count entry.2)) =
      (placesOf pathid requests).map (turn active start count) := by
  unfold reportsOf placesOf
  rw [List.filter_map, List.map_map, List.map_map]
  rfl

/-- The turns rotate if the places have every turn. -/
theorem reportsRotate_turns_iff (nodup : active.Nodup) (start : Nat) :
    ReportsRotate maxBlocks active (requests.zipIdx.map fun entry =>
        (entry.1.pathid, turn active start (min maxBlocks active.length) entry.2)) ↔
      PlacesExhaustive maxBlocks active.length requests := by
  have places : ∀ pathid first,
      (∀ ssrc ∈ active, ∃ report ∈ (((placesOf pathid requests).map
          (turn active start (min maxBlocks active.length))).drop first).take
            (callsForAll maxBlocks active.length), ssrc ∈ report) ↔
        Exhaustive (min maxBlocks active.length) active.length
          (((placesOf pathid requests).drop first).take (callsForAll maxBlocks active.length)) := by
    intro pathid first
    rw [← forall_exists_mem_turn_iff nodup (min_le_right ..) start, ← List.map_drop,
      ← List.map_take]
    simp only [List.mem_map, exists_exists_and_eq_and]
  constructor
  · intro rotate pathid first enough
    have fair := rotate.fair pathid first
    rw [reportsOf_map_turn, List.length_map] at fair
    exact (places pathid first).mp (fair enough)
  · intro exhaustive
    refine ⟨?_, ?_, fun pathid first enough => ?_⟩
    · intro report member
      obtain ⟨entry, -, rfl⟩ := List.mem_map.mp member
      exact ⟨nodup_turn nodup, fun ssrc among =>
        List.mem_rotate.mp (List.mem_of_mem_take among)⟩
    · intro report member
      obtain ⟨entry, -, rfl⟩ := List.mem_map.mp member
      exact length_turn (min_le_right ..)
    · rw [reportsOf_map_turn, List.length_map] at enough
      rw [reportsOf_map_turn]
      exact (places pathid first).mpr (exhaustive pathid first enough)

/-- With the same streams active in all calls, they rotate for each path exactly if the requests
for the path are at places that have every turn: both paths use up turns. -/
theorem reports_rotate_iff (positive : 0 < maxBlocks)
    (steady : ∀ request ∈ requests, r.reporting request = active) :
    ReportsRotate maxBlocks active (outputs (ReceiveStatistics.reportStep maxBlocks) r requests) ↔
      PlacesExhaustive maxBlocks active.length requests := by
  cases requests with
  | nil =>
      -- without a call, so many calls are none, and no stream is active
      have none : ∀ first, first + callsForAll maxBlocks active.length ≤ 0 → active = [] := by
        intro first enough
        unfold callsForAll at enough
        by_contra some
        have least := Nat.div_pos (show maxBlocks ≤ active.length + maxBlocks - 1 by
          have nonempty := List.length_pos_iff.mpr some
          omega) positive
        omega
      constructor
      · intro _ pathid first enough
        rw [none first enough]
        exact fun _ => nofun
      · intro _
        refine ⟨fun _ => nofun, fun _ => nofun, fun pathid first enough => ?_⟩
        rw [none first enough]
        exact fun _ => nofun
  | cons request rest =>
      have sorted : active.Pairwise (· < ·) := by
        rw [← steady request List.mem_cons_self]
        exact r.reporting_sorted request
      rw [ReceiveStatistics.outputs_reportStep positive sorted steady
        (passed r.lastReturnedSsrc active) 0
        (by rw [behind_eq_rotate sorted, Nat.zero_mul, Nat.add_zero])]
      exact reportsRotate_turns_iff (sorted.imp fun below => below.ne) _

/-- So many calls have room for every stream. -/
theorem enough_calls {total : Nat} (positive : 0 < maxBlocks) :
    total ≤ callsForAll maxBlocks total * min maxBlocks total := by
  unfold callsForAll
  rcases Nat.lt_or_ge total maxBlocks with small | large
  · rcases Nat.eq_zero_or_pos total with rfl | some
    · exact Nat.zero_le _
    · rw [min_eq_right small.le]
      exact Nat.le_mul_of_pos_left total (Nat.div_pos (by omega) positive)
  · rw [min_eq_left large]
    have parts := Nat.div_add_mod' (total + maxBlocks - 1) maxBlocks
    have rest := Nat.mod_lt (total + maxBlocks - 1) positive
    omega

/-- If all requests are for one path, every stream comes up in time. -/
theorem placesExhaustive_of_path {pathid : Nat} (positive : 0 < maxBlocks) (total : Nat)
    (alone : ∀ request ∈ requests, request.pathid = pathid) :
    PlacesExhaustive maxBlocks total requests := by
  intro other first enough
  rcases Nat.eq_zero_or_pos total with rfl | some
  · exact fun _ => nofun
  have nonempty : 0 < callsForAll maxBlocks total := Nat.div_pos (by omega) positive
  by_cases same : other = pathid
  · subst same
    have all : placesOf other requests = List.range' 0 requests.length := by
      unfold placesOf
      rw [List.filter_eq_self.mpr, List.zipIdx_map_snd]
      intro entry member
      exact decide_eq_true (alone _ (List.fst_mem_of_mem_zipIdx member))
    rw [all, List.length_range'] at enough
    rw [all, List.drop_range', List.take_range'_of_length_ge (by omega)]
    exact exhaustive_range' (by omega) (enough_calls positive)
  · have none : placesOf other requests = [] := by
      unfold placesOf
      rw [List.filter_eq_nil_iff.mpr, List.map_nil]
      intro entry member
      rw [alone _ (List.fst_mem_of_mem_zipIdx member)]
      exact (decide_eq_false (Ne.symm same)) ▸ Bool.false_ne_true
    rw [none, List.length_nil] at enough
    omega

/-- Two streams, with a packet each. -/
def twoStreams : ReceiveStatistics where
  statisticians := (OrderedMap.insert {} 1 oneReceived).insert 2 oneReceived

/-- A request for a path at once. -/
def requestFor : ReportRequest where
  pathid := pathid
  nowMs := 0
  collector := openRoundRobin

theorem reports_rotate_one_path :
    ReportsRotate 1 [1, 2]
      (outputs (ReceiveStatistics.reportStep 1) twoStreams [requestFor 1, requestFor 1]) :=
  (reports_rotate_iff Nat.one_pos (by decide)).mpr
    (placesExhaustive_of_path Nat.one_pos 2
      (by decide : ∀ request ∈ [requestFor 1, requestFor 1], request.pathid = 1))

/-- With room for one block, and requests for the paths in turn, a path only hears of one of the
two streams. -/
theorem alternating_reports_starve :
    (∀ request ∈ [requestFor 1, requestFor 2, requestFor 1, requestFor 2],
        twoStreams.reporting request = [1, 2]) ∧
      ¬ReportsRotate 1 [1, 2] (outputs (ReceiveStatistics.reportStep 1) twoStreams
        [requestFor 1, requestFor 2, requestFor 1, requestFor 2]) := by
  refine ⟨by decide, fun rotate => ?_⟩
  have missing := rotate.fair 1 0 (by decide) 2 (by decide)
  revert missing
  decide

end Fairness

end MpWebRtc
