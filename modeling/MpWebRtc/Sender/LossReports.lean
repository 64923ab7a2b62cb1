import Mathlib.Algebra.Order.BigOperators.Group.List
import Mathlib.Data.UInt
import Mathlib.Tactic.Convert
import MpWebRtc.Math.Successive
import MpWebRtc.Rtcp.CompoundReceiver

/-!
# Loss reports for the congestion controllers

`OnReceivedRtcpReceiverReportBlocks` compares every report block with the last one about the same
stream and path. What the streams of a list have advanced is divided into lost and received
packets, which are reported to the controller of the path. A change of the number of lost packets
counts without its sign, as the report has no negative numbers, and a fall by more than 65535 counts
as nothing. A list that shows no packet received is not reported and its advance is not made up
later.
-/

namespace MpWebRtc

open Math Math.Run Math.Successive

/-- `TransportLossReport`. The two numbers are never negative. -/
structure TransportLossReport where
  receiveTime : Int
  startTime : Int
  endTime : Int
  packetsLostDelta : Int
  packetsReceivedDelta : Int
  deriving DecidableEq

namespace RtcpReportBlock

/-- The stream a block is about. -/
def sourceSsrc (report : RtcpReportBlock) : UInt32 := report.block.sourceSsrc

/-- `packets_lost`, of which 24 bits are valid. -/
def packetsLost (report : RtcpReportBlock) : Int := report.block.cumulativeLost.toInt

/-- `extended_highest_sequence_number`, as a number. -/
def highest (report : RtcpReportBlock) : Int := report.block.extendedHighSeqNum.toNat

end RtcpReportBlock

/-- A block with the last one of its stream before it. -/
abbrev Compared := RtcpReportBlock × RtcpReportBlock

namespace Compared

/-- The packets that were sent between the blocks. -/
def numberOfPackets (pair : Compared) : UInt32 :=
  pair.2.block.extendedHighSeqNum - pair.1.block.extendedHighSeqNum

/-- The packets that were lost between the blocks, as the code counts them. -/
def lostDelta (pair : Compared) : Int :=
  let lostDelta := pair.2.packetsLost - pair.1.packetsLost
  if lostDelta < 0 then if lostDelta * -1 > 65535 then 0 else lostDelta * -1
  else lostDelta

end Compared

/-- `total_packets_delta`, an `int` to which unsigned numbers are added. -/
def totalPacketsDelta (compared : List Compared) : Int :=
  (compared.map Compared.numberOfPackets).sum.toInt32.toInt

/-- `total_packets_lost_delta`, an `int`. A loss counts less than `2 ^ 24`, so that the sum of a list
stays below `2 ^ 31` for up to 128 blocks, more than a datagram of 2048 bytes holds. -/
def totalPacketsLostDelta (compared : List Compared) : Int :=
  (compared.map Compared.lostDelta).sum

/-- What is kept of a path: `last_report_blocks_` and `last_report_block_time_`, or the same with
`_s_`; and whether the path has a controller. -/
structure PathLoss where
  controller : Bool := true
  lastReportBlocks : OrderedMap UInt32 RtcpReportBlock := {}
  lastReportBlockTime : Int := 0

namespace PathLoss

/-- The blocks of a list that have one before them. -/
def compared (kept : PathLoss) (reportBlocks : List RtcpReportBlock) : List Compared :=
  outputs (note RtcpReportBlock.sourceSsrc) kept.lastReportBlocks reportBlocks

/-- `OnReceivedRtcpReceiverReportBlocks`, for the path the blocks are about. -/
def onReceivedRtcpReceiverReportBlocks (kept : PathLoss) (reportBlocks : List RtcpReportBlock)
    (nowMs : Int) : PathLoss × Option TransportLossReport :=
  if reportBlocks.isEmpty then (kept, none)
  else
    let compared := kept.compared reportBlocks
    let kept := { kept with
      lastReportBlocks :=
        finalState (note RtcpReportBlock.sourceSsrc) kept.lastReportBlocks reportBlocks }
    if totalPacketsDelta compared = 0 then (kept, none)
    else
      let packetsReceivedDelta := totalPacketsDelta compared - totalPacketsLostDelta compared
      if packetsReceivedDelta < 1 then (kept, none)
      else if kept.controller then
        ({ kept with lastReportBlockTime := nowMs },
          some {
            receiveTime := nowMs
            startTime := kept.lastReportBlockTime
            endTime := nowMs
            packetsLostDelta := totalPacketsLostDelta compared
            packetsReceivedDelta := packetsReceivedDelta })
      else (kept, none)

end PathLoss

/-- A list of report blocks about a path, received at some time. -/
structure ReceivedBlocks where
  reportBlocks : List RtcpReportBlock
  nowMs : Int
  pathid : Int32

/-- Both paths. -/
structure LossReporter where
  primary : PathLoss := {}
  secondary : PathLoss := {}

/-- A path id other than 2 is that of the first path. Each report is for the controller of the
path, the second one or the first one. -/
def lossStep (reporter : LossReporter) (received : ReceivedBlocks) :
    LossReporter × List (Bool × TransportLossReport) :=
  if received.pathid ≠ 2 then
    let answer := reporter.primary.onReceivedRtcpReceiverReportBlocks received.reportBlocks
      received.nowMs
    ({ reporter with primary := answer.1 }, answer.2.toList.map fun report => (false, report))
  else
    let answer := reporter.secondary.onReceivedRtcpReceiverReportBlocks received.reportBlocks
      received.nowMs
    ({ reporter with secondary := answer.1 }, answer.2.toList.map fun report => (true, report))

/-- What becomes of a list: the blocks that are compared, and the report. -/
structure LossEntry where
  compared : List Compared
  report : Option TransportLossReport

/-- How far the streams have advanced. -/
def advanceOf (compared : List Compared) : Int :=
  (compared.map fun pair => pair.2.highest - pair.1.highest).sum

/-- The lists of one path, with what becomes of them. -/
def lossLedgerStep (kept : PathLoss) (received : ReceivedBlocks) : PathLoss × List LossEntry :=
  let answer := kept.onReceivedRtcpReceiverReportBlocks received.reportBlocks received.nowMs
  (answer.1, [⟨kept.compared received.reportBlocks, answer.2⟩])

/-- What a report says about the list it is made of. -/
structure Accounted (entry : LossEntry) (report : TransportLossReport) : Prop where
  lost : report.packetsLostDelta = totalPacketsLostDelta entry.compared
  net : (∀ pair ∈ entry.compared, pair.1.packetsLost ≤ pair.2.packetsLost) →
    report.packetsLostDelta =
      (entry.compared.map fun pair => pair.2.packetsLost - pair.1.packetsLost).sum
  lost_nonneg : 0 ≤ report.packetsLostDelta
  received_pos : 1 ≤ report.packetsReceivedDelta
  total : report.packetsLostDelta + report.packetsReceivedDelta = totalPacketsDelta entry.compared

section Totals

variable {compared : List Compared}

theorem Compared.lostDelta_nonneg (pair : Compared) : 0 ≤ pair.lostDelta := by
  unfold Compared.lostDelta
  dsimp only
  split_ifs <;> omega

theorem Compared.lostDelta_of_le {pair : Compared}
    (increased : pair.1.packetsLost ≤ pair.2.packetsLost) :
    pair.lostDelta = pair.2.packetsLost - pair.1.packetsLost :=
  if_neg (by omega)

theorem totalPacketsLostDelta_nonneg (compared : List Compared) :
    0 ≤ totalPacketsLostDelta compared := by
  apply List.sum_nonneg
  intro delta member
  obtain ⟨pair, -, rfl⟩ := List.mem_map.mp member
  exact pair.lostDelta_nonneg

theorem totalPacketsLostDelta_of_le
    (increased : ∀ pair ∈ compared, pair.1.packetsLost ≤ pair.2.packetsLost) :
    totalPacketsLostDelta compared =
      (compared.map fun pair => pair.2.packetsLost - pair.1.packetsLost).sum := by
  unfold totalPacketsLostDelta
  rw [List.map_congr_left fun pair member => Compared.lostDelta_of_le (increased pair member)]

/-- The unsigned sum is the advance as long as no number goes back. -/
theorem sum_numberOfPackets (forward : ∀ pair ∈ compared, pair.1.highest ≤ pair.2.highest) :
    ((compared.map Compared.numberOfPackets).sum.toNat : Int) = advanceOf compared % 4294967296 := by
  induction compared with
  | nil => rfl
  | cons pair compared ih =>
      rw [List.forall_mem_cons] at forward
      have rest := ih forward.2
      have first := forward.1
      unfold RtcpReportBlock.highest at first
      have difference : (pair.numberOfPackets.toNat : Int) = pair.2.highest - pair.1.highest := by
        unfold Compared.numberOfPackets RtcpReportBlock.highest
        have bound := pair.2.block.extendedHighSeqNum.toNat_lt
        rw [UInt32.toNat_sub]
        omega
      unfold advanceOf at rest ⊢
      rw [List.map_cons, List.map_cons, List.sum_cons, List.sum_cons, UInt32.toNat_add]
      omega

/-- An advance that is reported is the sum of its parts. -/
theorem totalPacketsDelta_eq (forward : ∀ pair ∈ compared, pair.1.highest ≤ pair.2.highest)
    (small : advanceOf compared < 4294967296) (positive : 1 ≤ totalPacketsDelta compared) :
    totalPacketsDelta compared = advanceOf compared := by
  have total := sum_numberOfPackets forward
  have nonneg : 0 ≤ advanceOf compared := by
    apply List.sum_nonneg
    intro difference member
    obtain ⟨pair, known, rfl⟩ := List.mem_map.mp member
    exact sub_nonneg.mpr (forward pair known)
  rw [Int.emod_eq_of_lt nonneg small] at total
  have signed : totalPacketsDelta compared =
      (compared.map Compared.numberOfPackets).sum.toBitVec.toInt := rfl
  rw [BitVec.toInt_eq_toNat_cond] at signed
  change _ = if 2 * (compared.map Compared.numberOfPackets).sum.toNat < 2 ^ 32 then
    ((compared.map Compared.numberOfPackets).sum.toNat : Int)
    else ((compared.map Compared.numberOfPackets).sum.toNat : Int) - (2 ^ 32 : Nat) at signed
  split at signed <;> omega

end Totals

section Ledger

variable {kept : PathLoss} {received : ReceivedBlocks} {run : List ReceivedBlocks}

/-- A list of blocks leaves the last block of each stream. -/
theorem onReceived_lastReportBlocks (kept : PathLoss) (reportBlocks : List RtcpReportBlock)
    (nowMs : Int) :
    (kept.onReceivedRtcpReceiverReportBlocks reportBlocks nowMs).1.lastReportBlocks =
      finalState (note RtcpReportBlock.sourceSsrc) kept.lastReportBlocks reportBlocks := by
  unfold PathLoss.onReceivedRtcpReceiverReportBlocks
  cases reportBlocks with
  | nil => rfl
  | cons block blocks =>
      rw [if_neg (by simp)]
      dsimp only
      split_ifs <;> rfl

/-- What a report says. -/
theorem onReceived_accounted {reportBlocks : List RtcpReportBlock} {nowMs : Int}
    {report : TransportLossReport}
    (reported : (kept.onReceivedRtcpReceiverReportBlocks reportBlocks nowMs).2 = some report) :
    Accounted ⟨kept.compared reportBlocks, some report⟩ report := by
  unfold PathLoss.onReceivedRtcpReceiverReportBlocks at reported
  dsimp only at reported
  split_ifs at reported with empty stalled unreceived present
  obtain rfl := Option.some.inj reported
  refine ⟨rfl, totalPacketsLostDelta_of_le, totalPacketsLostDelta_nonneg _, not_lt.mp unreceived, ?_⟩
  exact add_sub_cancel _ _

/-- The blocks of a run are compared as one list. -/
theorem lossLedger_compared (kept : PathLoss) (run : List ReceivedBlocks) :
    (outputs lossLedgerStep kept run).flatMap LossEntry.compared =
      kept.compared (run.flatMap ReceivedBlocks.reportBlocks) := by
  induction run generalizing kept with
  | nil => rfl
  | cons received run ih =>
      have own : (lossLedgerStep kept received).2.flatMap LossEntry.compared =
          kept.compared received.reportBlocks := List.append_nil _
      rw [outputs_cons, List.flatMap_append, ih, List.flatMap_cons, own]
      unfold PathLoss.compared
      rw [outputs_append, ← onReceived_lastReportBlocks kept received.reportBlocks received.nowMs]
      rfl

theorem lossLedger_accounted {entry : LossEntry} (member : entry ∈ outputs lossLedgerStep kept run)
    {report : TransportLossReport} (reported : entry.report = some report) :
    Accounted entry report := by
  obtain ⟨current, received, -, emitted⟩ := mem_outputs member
  obtain rfl := List.mem_singleton.mp emitted
  have known : (current.onReceivedRtcpReceiverReportBlocks received.reportBlocks
    received.nowMs).2 = some report := reported
  have accounted := onReceived_accounted known
  exact ⟨accounted.lost, accounted.net, accounted.lost_nonneg, accounted.received_pos,
    accounted.total⟩

theorem advanceOf_append (first second : List Compared) :
    advanceOf (first ++ second) = advanceOf first + advanceOf second := by
  unfold advanceOf
  rw [List.map_append, List.sum_append]

/-- What is reported and what is not make up the whole advance. -/
theorem sum_reported {entries : List LossEntry}
    (whole : ∀ entry ∈ entries, ∀ report, entry.report = some report →
      report.packetsLostDelta + report.packetsReceivedDelta = advanceOf entry.compared) :
    ((entries.filterMap LossEntry.report).map fun report =>
        report.packetsLostDelta + report.packetsReceivedDelta).sum +
      ((entries.filter fun entry => entry.report.isNone).map fun entry =>
        advanceOf entry.compared).sum = advanceOf (entries.flatMap LossEntry.compared) := by
  induction entries with
  | nil => rfl
  | cons entry entries ih =>
      rw [List.forall_mem_cons] at whole
      have rest := ih whole.2
      rw [List.flatMap_cons, advanceOf_append, ← rest]
      cases known : entry.report with
      | none =>
          rw [List.filterMap_cons_none known, List.filter_cons_of_pos (by rw [known]; rfl),
            List.map_cons, List.sum_cons]
          omega
      | some report =>
          have own := whole.1 report known
          rw [List.filterMap_cons_some known, List.filter_cons_of_neg (by rw [known]; simp),
            List.map_cons, List.sum_cons]
          omega

/-- A list is reported unless it shows no packet received. -/
theorem onReceived_isNone (present : kept.controller = true) (reportBlocks : List RtcpReportBlock)
    (nowMs : Int) :
    (kept.onReceivedRtcpReceiverReportBlocks reportBlocks nowMs).2 = none ↔
      totalPacketsDelta (kept.compared reportBlocks) ≤
        totalPacketsLostDelta (kept.compared reportBlocks) := by
  have nonneg := totalPacketsLostDelta_nonneg (kept.compared reportBlocks)
  unfold PathLoss.onReceivedRtcpReceiverReportBlocks
  cases reportBlocks with
  | nil => exact ⟨fun _ => nonneg, fun _ => rfl⟩
  | cons block blocks =>
      rw [if_neg (by simp)]
      dsimp only
      split_ifs with stalled unreceived
      · rw [stalled]
        exact ⟨fun _ => nonneg, fun _ => rfl⟩
      · exact ⟨fun _ => by omega, fun _ => rfl⟩
      · exact ⟨nofun, fun behind => absurd behind (by omega)⟩

theorem onReceived_controller (kept : PathLoss) (reportBlocks : List RtcpReportBlock)
    (nowMs : Int) :
    (kept.onReceivedRtcpReceiverReportBlocks reportBlocks nowMs).1.controller =
      kept.controller := by
  unfold PathLoss.onReceivedRtcpReceiverReportBlocks
  dsimp only
  split_ifs <;> rfl

theorem lossLedger_isNone (present : kept.controller = true) :
    ∀ entry ∈ outputs lossLedgerStep kept run, entry.report = none ↔
      totalPacketsDelta entry.compared ≤ totalPacketsLostDelta entry.compared := by
  refine (along_true kept run).forall_outputs (fun kept => kept.controller = true)
    (fun kept _ present _ => (onReceived_controller kept _ _).trans present) ?_ present
  intro kept received present _ entry emitted
  obtain rfl := List.mem_singleton.mp emitted
  exact onReceived_isNone present received.reportBlocks received.nowMs

end Ledger

section Paths

/-- The list is about the second path. -/
def ReceivedBlocks.second (received : ReceivedBlocks) : Bool := received.pathid = 2

/-- What is kept of a path. -/
def LossReporter.on (reporter : LossReporter) (second : Bool) : PathLoss :=
  if second then reporter.secondary else reporter.primary

/-- The report, if it is for the controller of the path. -/
def reportedTo (second : Bool) (answer : Bool × TransportLossReport) : Option TransportLossReport :=
  if answer.1 = second then some answer.2 else none

/-- The lists about a path. -/
def listsOf (second : Bool) (run : List ReceivedBlocks) : List ReceivedBlocks :=
  run.filter fun received => received.second == second

/-- What becomes of the lists about a path. -/
def lossLedger (reporter : LossReporter) (second : Bool) (run : List ReceivedBlocks) :
    List LossEntry :=
  outputs lossLedgerStep (reporter.on second) (listsOf second run)

/-- All blocks about a path. -/
def blocksOf (second : Bool) (run : List ReceivedBlocks) : List RtcpReportBlock :=
  (listsOf second run).flatMap ReceivedBlocks.reportBlocks

/-- A list about a path is handled by what is kept of it. -/
theorem lossStep_own (reporter : LossReporter) (received : ReceivedBlocks) :
    (lossStep reporter received).1.on received.second =
        (lossLedgerStep (reporter.on received.second) received).1 ∧
      (lossStep reporter received).2.filterMap (reportedTo received.second) =
        (lossLedgerStep (reporter.on received.second) received).2.filterMap LossEntry.report := by
  unfold lossStep lossLedgerStep LossReporter.on ReceivedBlocks.second reportedTo
  by_cases two : received.pathid = 2
  · rw [if_neg (not_not.mpr two)]
    simp only [two, decide_true, ↓reduceIte, true_and]
    cases (reporter.secondary.onReceivedRtcpReceiverReportBlocks received.reportBlocks
      received.nowMs).2 <;> rfl
  · rw [if_pos two]
    simp only [two, decide_false, Bool.false_eq_true, ↓reduceIte, true_and]
    cases (reporter.primary.onReceivedRtcpReceiverReportBlocks received.reportBlocks
      received.nowMs).2 <;> rfl

/-- The other path does not notice. -/
theorem lossStep_other (reporter : LossReporter) {received : ReceivedBlocks} {second : Bool}
    (other : received.second ≠ second) :
    (lossStep reporter received).1.on second = reporter.on second ∧
      (lossStep reporter received).2.filterMap (reportedTo second) = [] := by
  unfold ReceivedBlocks.second at other
  unfold lossStep LossReporter.on reportedTo
  by_cases two : received.pathid = 2
  · rw [if_neg (not_not.mpr two)]
    obtain rfl : second = false := by simpa [two] using other
    simp
  · rw [if_pos two]
    obtain rfl : second = true := by simpa [two] using other
    simp

/-- The reports of a path are those its own lists give. -/
theorem reports_of_path (reporter : LossReporter) (second : Bool) (run : List ReceivedBlocks) :
    (outputs lossStep reporter run).filterMap (reportedTo second) =
      (lossLedger reporter second run).filterMap LossEntry.report := by
  unfold lossLedger listsOf
  induction run generalizing reporter with
  | nil => rfl
  | cons received run ih =>
      rw [outputs_cons, List.filterMap_append, ih]
      by_cases same : received.second = second
      · obtain ⟨own, answer⟩ := lossStep_own reporter received
        rw [List.filter_cons_of_pos (by simpa using same), outputs_cons, List.filterMap_append, ← same,
          answer, own]
      · obtain ⟨other, answer⟩ := lossStep_other reporter same
        rw [List.filter_cons_of_neg (by simpa using same), other, answer, List.nil_append]

end Paths

/-- **Loss reports.** Every report of a path tells the advance of a list, divided into lost and
received packets. Along a run the reports and the lists without a report make up what the streams
have advanced from their first to their last block, and a list has no report exactly if it shows
no packet received. -/
theorem loss_deltas_accounted (reporter : LossReporter) (second : Bool) (run : List ReceivedBlocks)
    (fresh : (reporter.on second).lastReportBlocks = {})
    (present : (reporter.on second).controller = true)
    (forward : ∀ pair ∈ outputs (note RtcpReportBlock.sourceSsrc) {} (blocksOf second run),
      pair.1.highest ≤ pair.2.highest)
    (small : ∀ entry ∈ lossLedger reporter second run, entry.report.isSome →
      advanceOf entry.compared < 4294967296) :
    (outputs lossStep reporter run).filterMap (reportedTo second) =
        (lossLedger reporter second run).filterMap LossEntry.report ∧
      (∀ entry ∈ lossLedger reporter second run,
        (∀ report, entry.report = some report → Accounted entry report ∧
          report.packetsLostDelta + report.packetsReceivedDelta = advanceOf entry.compared) ∧
        (entry.report = none ↔
          totalPacketsDelta entry.compared ≤ totalPacketsLostDelta entry.compared)) ∧
      (((outputs lossStep reporter run).filterMap (reportedTo second)).map fun report =>
          report.packetsLostDelta + report.packetsReceivedDelta).sum +
        (((lossLedger reporter second run).filter fun entry => entry.report.isNone).map fun entry =>
          advanceOf entry.compared).sum =
        ∑ ssrc ∈ ((blocksOf second run).map RtcpReportBlock.sourceSsrc).toFinset,
          change RtcpReportBlock.sourceSsrc RtcpReportBlock.highest (blocksOf second run) ssrc := by
  have blocks : (lossLedger reporter second run).flatMap LossEntry.compared =
      outputs (note RtcpReportBlock.sourceSsrc) {} (blocksOf second run) := by
    unfold lossLedger
    rw [lossLedger_compared, PathLoss.compared, fresh]
    rfl
  have whole : ∀ entry ∈ lossLedger reporter second run, ∀ report, entry.report = some report →
      Accounted entry report ∧
        report.packetsLostDelta + report.packetsReceivedDelta = advanceOf entry.compared := by
    intro entry member report known
    have accounted := lossLedger_accounted member known
    refine ⟨accounted, accounted.total.trans (totalPacketsDelta_eq ?_ ?_ ?_)⟩
    · intro pair inside
      refine forward pair ?_
      rw [← blocks]
      exact List.mem_flatMap.mpr ⟨entry, member, inside⟩
    · refine small entry member ?_
      rw [known]
      rfl
    · have lost := accounted.lost_nonneg
      have received := accounted.received_pos
      have total := accounted.total
      omega
  refine ⟨reports_of_path reporter second run, fun entry member =>
    ⟨whole entry member, lossLedger_isNone present entry member⟩, ?_⟩
  rw [reports_of_path, sum_reported fun entry member report known =>
    (whole entry member report known).2, blocks, advanceOf]
  -- the two sides decide equality of numbers of streams in different ways
  convert @sum_differences _ _ _ RtcpReportBlock.sourceSsrc RtcpReportBlock.highest
    (blocksOf second run)

/-- A block about one stream, on the first path. -/
def lossBlock (lost : Int32) (highest : UInt32) (nowMs : Int) : ReceivedBlocks where
  reportBlocks := [⟨1, { sourceSsrc := 7, cumulativeLost := lost, extendedHighSeqNum := highest }⟩]
  nowMs := nowMs
  pathid := 1

/-- Two reports after the first blocks. -/
theorem loss_deltas_accounted_rising :
    (((outputs lossStep {} [lossBlock 5 100 0, lossBlock 6 110 10, lossBlock 6 115 20]).filterMap
        (reportedTo false)).map fun report =>
          report.packetsLostDelta + report.packetsReceivedDelta).sum +
      (((lossLedger {} false [lossBlock 5 100 0, lossBlock 6 110 10, lossBlock 6 115 20]).filter
        fun entry => entry.report.isNone).map fun entry => advanceOf entry.compared).sum =
      ∑ ssrc ∈ ((blocksOf false [lossBlock 5 100 0, lossBlock 6 110 10,
          lossBlock 6 115 20]).map RtcpReportBlock.sourceSsrc).toFinset,
        change RtcpReportBlock.sourceSsrc RtcpReportBlock.highest (blocksOf false
          [lossBlock 5 100 0, lossBlock 6 110 10, lossBlock 6 115 20]) ssrc :=
  (loss_deltas_accounted {} false [lossBlock 5 100 0, lossBlock 6 110 10, lossBlock 6 115 20] rfl rfl
    (by decide +kernel) (by decide +kernel)).2.2

/-- The number of lost packets falls by two and a loss of two is reported. -/
theorem falling_loss_reported :
    outputs lossStep {} [lossBlock 5 100 0, lossBlock 3 110 10] =
      [(false, { receiveTime := 10, startTime := 0, endTime := 10, packetsLostDelta := 2
                 packetsReceivedDelta := 8 })] ∧
    ¬∀ entry ∈ lossLedger {} false [lossBlock 5 100 0, lossBlock 3 110 10],
      ∀ report ∈ entry.report, report.packetsLostDelta =
        (entry.compared.map fun pair => pair.2.packetsLost - pair.1.packetsLost).sum := by
  decide +kernel

end MpWebRtc
