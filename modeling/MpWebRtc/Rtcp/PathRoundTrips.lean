import MpWebRtc.Math.OrderedMap
import MpWebRtc.Math.Run
import MpWebRtc.Receiver.StreamStatistics
import MpWebRtc.Rtcp.CompoundReceiver
import MpWebRtc.Rtcp.ReferenceTimes
import MpWebRtc.Rtcp.Reports

/-!
# Report blocks of the two paths

`RTCPReceiver` keeps what the reports of a path say apart from the other path: the last sender
report, the time of the last report block, and the blocks with their round-trip times. The path id
in the header of a report chooses the half it is kept in, and the same test chooses the half that a
result is read from. Only the time at which a sequence number last increased is shared.
-/

namespace MpWebRtc

open Math Math.Run

/-- `kRrTimeoutIntervals`. -/
def kRrTimeoutIntervals : Int := 3

/-- One reading of the clocks, in microseconds: the time, and the time of day. -/
structure ClockReading where
  us : Int
  utcUs : Int

/-- The milliseconds of a time, rounded. -/
def ClockReading.ms (now : ClockReading) : Int := (now.us + 500).tdiv 1000

/-- `TimeMicrosToNtp`. -/
def timeMicrosToNtp (ntpOffsetMs timeUs : Int) : NtpTime :=
  let timeNtpUs := timeUs + ntpOffsetMs * 1000
  { seconds := UInt32.ofInt (timeNtpUs.tdiv 1000000)
    fractions := UInt32.ofInt ((timeNtpUs.tmod 1000000 * 4294967296).tdiv 1000000) }

/-- `DivideRoundToNearest`. -/
def divideRoundToNearest (dividend divisor : Nat) : Nat :=
  dividend / divisor + if (divisor - 1) / 2 < dividend % divisor then 1 else 0

/-- `CompactNtpRttToMs`. -/
def compactNtpRttToMs (compactNtpInterval : UInt32) : Int :=
  if 0x80000000 < compactNtpInterval then 1
  else max (divideRoundToNearest (compactNtpInterval.toNat * 1000) 65536 : Nat) 1

/-- `NtpTime::Valid`. -/
def NtpTime.valid (ntp : NtpTime) : Bool := decide (ntp ≠ ⟨0, 0⟩)

/-- `ReportBlockData`. -/
structure ReportBlockData where
  reportBlock : RtcpReportBlock := ⟨0, { sourceSsrc := 0 }⟩
  reportBlockTimestampUtcUs : Int := 0
  lastRttMs : Int := 0
  minRttMs : Int := 0
  maxRttMs : Int := 0
  sumRttMs : Int := 0
  numRtts : Nat := 0

namespace ReportBlockData

variable (data : ReportBlockData)

/-- `SetReportBlock`. -/
def setReportBlock (reportBlock : RtcpReportBlock)
    (reportBlockTimestampUtcUs : Int) : ReportBlockData :=
  { data with
    reportBlock := reportBlock
    reportBlockTimestampUtcUs := reportBlockTimestampUtcUs }

/-- `AddRoundTripTimeSample`. -/
def addRoundTripTimeSample (rttMs : Int) : ReportBlockData :=
  { data with
    maxRttMs := if data.maxRttMs < rttMs then rttMs else data.maxRttMs
    minRttMs := if data.numRtts = 0 ∨ rttMs < data.minRttMs then rttMs else data.minRttMs
    lastRttMs := rttMs
    sumRttMs := data.sumRttMs + rttMs
    numRtts := data.numRtts + 1 }

end ReportBlockData

/-- The path that a path id stands for: every id but 2 is the primary path. -/
def Subflow.ofPathid (pathid : Int32) : Subflow := if pathid ≠ 2 then .primary else .secondary

/-- What the reports of a path leave: the members ending in `_p` or those ending in `_s`. -/
structure PathReception where
  remoteSenderNtpTime : NtpTime := ⟨0, 0⟩
  remoteSenderRtpTime : UInt32 := 0
  lastReceivedSrNtp : NtpTime := ⟨0, 0⟩
  lastReceivedRbMs : Int := 0
  receivedReportBlocks : OrderedMap UInt32 (OrderedMap UInt32 ReportBlockData) := {}

/-- The part of `RTCPReceiver` that reports have to do with. -/
structure ReportReceiver extends RtcpReceiver where
  reportIntervalMs : Int
  ntpOffsetMs : Int
  primary : PathReception := {}
  secondary : PathReception := {}
  lastIncreasedSequenceNumberMs : Int := 0
  numSkippedPackets : Nat := 0

/-- `PacketInformation`, with the round-trip time and the kept blocks. -/
structure ReportInformation extends PacketInformation where
  rttMs : Int := 0
  reportBlockDatas : List ReportBlockData := []

/-- A report in a datagram: what the datagram brought before it, and the readings of the clocks,
for the report and for each of its blocks. -/
structure ReportArrival where
  block : CommonHeader
  information : ReportInformation := {}
  clock : Nat → ClockReading

namespace ReportReceiver

variable (receiver : ReportReceiver)

/-- What is kept for a path. -/
def on : Subflow → PathReception
  | .primary => receiver.primary
  | .secondary => receiver.secondary

/-- Replace what is kept for a path. -/
def setOn (path : Subflow) (reception : PathReception) : ReportReceiver :=
  match path with
  | .primary => { receiver with primary := reception }
  | .secondary => { receiver with secondary := reception }

/-- What is kept of the blocks about a stream from a sender. -/
def blockData (path : Subflow) (sourceSsrc remoteSsrc : UInt32) : ReportBlockData :=
  ((((receiver.on path).receivedReportBlocks.find sourceSsrc).getD {}).find remoteSsrc).getD {}

/-- The round-trip time that a block tells of, on arrival. -/
def roundTripMs (now : ClockReading) (block : ReportBlock) : Int :=
  compactNtpRttToMs (compactNtp (timeMicrosToNtp receiver.ntpOffsetMs now.us) -
    block.delaySinceLastSr - block.lastSr)

/-- `HandleReportBlock`. -/
def handleReportBlock (now : ClockReading) (block : ReportBlock)
    (info : ReportInformation) (remoteSsrc : UInt32) : ReportReceiver × ReportInformation :=
  if receiver.registeredSsrcs.contains block.sourceSsrc then
    let path := Subflow.ofPathid info.pathid
    let kept := receiver.on path
    let row := (kept.receivedReportBlocks.find block.sourceSsrc).getD {}
    let before := receiver.blockData path block.sourceSsrc remoteSsrc
    let reported := before.setReportBlock ⟨remoteSsrc, block⟩ now.utcUs
    let data :=
      if block.lastSr ≠ 0 then reported.addRoundTripTimeSample (receiver.roundTripMs now block)
      else reported
    ({ receiver.setOn path { kept with
        lastReceivedRbMs := now.ms
        receivedReportBlocks :=
          kept.receivedReportBlocks.insert block.sourceSsrc (row.insert remoteSsrc data) } with
        lastIncreasedSequenceNumberMs :=
          if before.reportBlock.block.extendedHighSeqNum < block.extendedHighSeqNum then now.ms
          else receiver.lastIncreasedSequenceNumberMs },
      { info with
        rttMs := if block.lastSr ≠ 0 then receiver.roundTripMs now block else info.rttMs
        reportBlocks := info.reportBlocks ++ [data.reportBlock]
        reportBlockDatas := info.reportBlockDatas ++ [data] })
  else (receiver, info)

/-- The blocks of a report, each with its own reading of the clocks. -/
def handleReportBlocks (remoteSsrc : UInt32) (clock : Nat → ClockReading) :
    Nat → List ReportBlock → ReportReceiver × ReportInformation →
      ReportReceiver × ReportInformation
  | _, [], reached => reached
  | place, block :: rest, (receiver, info) =>
      handleReportBlocks remoteSsrc clock (place + 1) rest
        (receiver.handleReportBlock (clock place) block info remoteSsrc)

/-- `HandleSenderReport`. -/
def handleSenderReport (rtcpBlock : CommonHeader)
    (clock : Nat → ClockReading) (info : ReportInformation) : ReportReceiver × ReportInformation :=
  match SenderReport.parse rtcpBlock with
  | none => ({ receiver with numSkippedPackets := receiver.numSkippedPackets + 1 }, info)
  | some report =>
      let path := Subflow.ofPathid rtcpBlock.pathid
      let reached :=
        if receiver.remoteSsrc = report.senderSsrc then
          (receiver.setOn path { receiver.on path with
              remoteSenderNtpTime := report.ntp
              remoteSenderRtpTime := report.rtpTimestamp
              lastReceivedSrNtp := timeMicrosToNtp receiver.ntpOffsetMs (clock 0).us },
            { info with remoteSsrc := report.senderSsrc, srFlag := true })
        else (receiver, { info with remoteSsrc := report.senderSsrc, rrFlag := true })
      handleReportBlocks report.senderSsrc clock 1 report.reportBlocks reached

/-- `HandleReceiverReport`. -/
def handleReceiverReport (rtcpBlock : CommonHeader)
    (clock : Nat → ClockReading) (info : ReportInformation) : ReportReceiver × ReportInformation :=
  match ReceiverReport.parse rtcpBlock with
  | none => ({ receiver with numSkippedPackets := receiver.numSkippedPackets + 1 }, info)
  | some report =>
      handleReportBlocks report.senderSsrc clock 1 report.reportBlocks
        (receiver, { info with remoteSsrc := report.senderSsrc, rrFlag := true })

/-- The body of the loop of `ParseCompoundPacket`, for reports. -/
def handleReport (arrival : ReportArrival) : ReportReceiver × ReportInformation :=
  let info := { arrival.information with pathid := arrival.block.pathid }
  if arrival.block.type = 200 then
    receiver.handleSenderReport arrival.block arrival.clock info
  else if arrival.block.type = 201 then
    receiver.handleReceiverReport arrival.block arrival.clock info
  else (receiver, info)

/-- One report, with what is known of the datagram afterwards. -/
def reportStep (arrival : ReportArrival) : ReportReceiver × List ReportInformation :=
  ((receiver.handleReport arrival).1, [(receiver.handleReport arrival).2])

section Results

variable (receiver : ReportReceiver) (pathid : Int32)

/-- `RTT`: the last, average, least and largest round-trip time. -/
def rtt (remoteSsrc : UInt32) : Option (Int × Int × Int × Int) := do
  let row ← (receiver.on (Subflow.ofPathid pathid)).receivedReportBlocks.find receiver.mainSsrc
  let data ← row.find remoteSsrc
  if data.numRtts = 0 then none
  else some (data.lastRttMs, data.sumRttMs.tdiv data.numRtts, data.minRttMs, data.maxRttMs)

/-- `GetLatestReportBlockData`. -/
def getLatestReportBlockData : List ReportBlockData :=
  (receiver.on (Subflow.ofPathid pathid)).receivedReportBlocks.entries.flatMap fun row =>
    row.2.entries.map Prod.snd

/-- `StatisticsReceived`. -/
def statisticsReceived : List RtcpReportBlock :=
  (receiver.on (Subflow.ofPathid pathid)).receivedReportBlocks.entries.flatMap fun row =>
    row.2.entries.map fun entry => entry.2.reportBlock

/-- `NTP`: the times in the last sender report, and the time of its arrival. -/
def ntp : Option (NtpTime × UInt32 × NtpTime) :=
  let kept := receiver.on (Subflow.ofPathid pathid)
  if kept.lastReceivedSrNtp.valid then
    some (kept.remoteSenderNtpTime, kept.remoteSenderRtpTime, kept.lastReceivedSrNtp)
  else none

/-- `LastReceivedReportBlockMs`. -/
def lastReceivedReportBlockMs : Int :=
  (receiver.on (Subflow.ofPathid pathid)).lastReceivedRbMs

/-- `RtcpRrTimeout`: a timeout resets the timer. -/
def rtcpRrTimeout (now : ClockReading) : ReportReceiver × Bool :=
  let path := Subflow.ofPathid pathid
  let kept := receiver.on path
  if kept.lastReceivedRbMs = 0 then (receiver, false)
  else if kept.lastReceivedRbMs + kRrTimeoutIntervals * receiver.reportIntervalMs < now.ms then
    (receiver.setOn path { kept with lastReceivedRbMs := 0 }, true)
  else (receiver, false)

end Results

section Selection

variable (receiver : ReportReceiver) {path other : Subflow} (reception : PathReception)

@[simp] theorem setOn_on_same : (receiver.setOn path reception).on path = reception := by
  cases path <;> rfl

theorem setOn_on_of_ne (differs : other ≠ path) :
    (receiver.setOn other reception).on path = receiver.on path := by
  cases path <;> cases other <;> first | rfl | exact absurd rfl differs

end Selection

/-- What the results of a path are read from is the same. -/
structure Undisturbed (path : Subflow) (before after : ReportReceiver) : Prop where
  kept : after.on path = before.on path
  configured : after.toRtcpReceiver = before.toRtcpReceiver
  interval : after.reportIntervalMs = before.reportIntervalMs

section Frame

variable {receiver : ReportReceiver} {path : Subflow} {info : ReportInformation}

theorem Undisturbed.refl : Undisturbed path receiver receiver := ⟨rfl, rfl, rfl⟩

theorem Undisturbed.trans {first second third : ReportReceiver}
    (one : Undisturbed path first second) (two : Undisturbed path second third) :
    Undisturbed path first third :=
  ⟨two.kept.trans one.kept, two.configured.trans one.configured,
    two.interval.trans one.interval⟩

theorem Undisturbed.setOn {other : Subflow} (differs : other ≠ path) (reception : PathReception) :
    Undisturbed path receiver (receiver.setOn other reception) :=
  ⟨setOn_on_of_ne receiver reception differs, by cases other <;> rfl, by cases other <;> rfl⟩

/-- What is shared by the paths is no part of their results. -/
theorem Undisturbed.shared (lastIncreasedSequenceNumberMs : Int) (numSkippedPackets : Nat) :
    Undisturbed path receiver { receiver with
      lastIncreasedSequenceNumberMs := lastIncreasedSequenceNumberMs
      numSkippedPackets := numSkippedPackets } :=
  ⟨by cases path <;> rfl, rfl, rfl⟩

/-- A block of the other path. -/
theorem handleReportBlock_undisturbed (receiver : ReportReceiver) (now : ClockReading)
    (block : ReportBlock) (remoteSsrc : UInt32) (differs : Subflow.ofPathid info.pathid ≠ path) :
    Undisturbed path receiver (receiver.handleReportBlock now block info remoteSsrc).1 ∧
      (receiver.handleReportBlock now block info remoteSsrc).2.pathid = info.pathid := by
  unfold handleReportBlock
  split
  · exact ⟨(Undisturbed.setOn differs _).trans (.shared ..), rfl⟩
  · exact ⟨.refl, rfl⟩

theorem handleReportBlocks_undisturbed (remoteSsrc : UInt32) (clock : Nat → ClockReading)
    (place : Nat) (blocks : List ReportBlock) (differs : Subflow.ofPathid info.pathid ≠ path) :
    Undisturbed path receiver
      (handleReportBlocks remoteSsrc clock place blocks (receiver, info)).1 := by
  induction blocks generalizing receiver info place with
  | nil => exact .refl
  | cons block rest ih =>
      obtain ⟨first, pathid⟩ :=
        handleReportBlock_undisturbed receiver (clock place) block remoteSsrc differs
      have still : Subflow.ofPathid
          (receiver.handleReportBlock (clock place) block info remoteSsrc).2.pathid ≠ path := by
        rw [pathid]
        exact differs
      exact first.trans (ih (place + 1) still)

/-- A report of the other path. -/
theorem handleReport_undisturbed (arrival : ReportArrival)
    (differs : Subflow.ofPathid arrival.block.pathid ≠ path) :
    Undisturbed path receiver (receiver.handleReport arrival).1 := by
  unfold handleReport
  dsimp only
  split_ifs
  · unfold handleSenderReport
    split
    · exact .shared ..
    · dsimp only
      split_ifs
      · exact (Undisturbed.setOn differs _).trans
          (handleReportBlocks_undisturbed _ arrival.clock 1 _ differs)
      · exact handleReportBlocks_undisturbed _ arrival.clock 1 _ differs
  · unfold handleReceiverReport
    split
    · exact .shared ..
    · exact handleReportBlocks_undisturbed _ arrival.clock 1 _ differs
  · exact .refl

/-- The results for a path id are the same. -/
structure SameResults (pathid : Int32) (before after : ReportReceiver) : Prop where
  rtt : ∀ remoteSsrc, after.rtt pathid remoteSsrc = before.rtt pathid remoteSsrc
  statisticsReceived : after.statisticsReceived pathid = before.statisticsReceived pathid
  getLatestReportBlockData :
    after.getLatestReportBlockData pathid = before.getLatestReportBlockData pathid
  ntp : after.ntp pathid = before.ntp pathid
  lastReceivedReportBlockMs :
    after.lastReceivedReportBlockMs pathid = before.lastReceivedReportBlockMs pathid
  rtcpRrTimeout : ∀ now, (after.rtcpRrTimeout pathid now).2 = (before.rtcpRrTimeout pathid now).2

/-- Results are read from what is kept for their path. -/
theorem Undisturbed.sameResults {pathid : Int32} {after : ReportReceiver}
    (undisturbed : Undisturbed (Subflow.ofPathid pathid) receiver after) :
    SameResults pathid receiver after := by
  obtain ⟨kept, configured, interval⟩ := undisturbed
  constructor
  · intro remoteSsrc
    unfold rtt
    rw [kept, configured]
  · unfold statisticsReceived
    rw [kept]
  · unfold getLatestReportBlockData
    rw [kept]
  · unfold ntp
    rw [kept]
  · unfold lastReceivedReportBlockMs
    rw [kept]
  · intro now
    unfold rtcpRrTimeout
    dsimp only
    rw [kept, interval]
    split_ifs <;> rfl

end Frame

section RoundTrips

variable {receiver : ReportReceiver}

/-- There is no round-trip time under a millisecond. -/
theorem one_le_compactNtpRttToMs (interval : UInt32) : 1 ≤ compactNtpRttToMs interval := by
  unfold compactNtpRttToMs
  split
  · exact le_rfl
  · exact le_max_right ..

/-- What the handling of a block leaves of it: the block itself, and, if it tells of a sender
report, one more round-trip time, from its own times. -/
structure BlockRecorded (receiver : ReportReceiver) (now : ClockReading) (block : ReportBlock)
    (path : Subflow) (remoteSsrc : UInt32) (after : ReportReceiver) : Prop where
  reportBlock :
    (after.blockData path block.sourceSsrc remoteSsrc).reportBlock = ⟨remoteSsrc, block⟩
  sampled : block.lastSr ≠ 0 →
    (after.blockData path block.sourceSsrc remoteSsrc).lastRttMs =
        compactNtpRttToMs (compactNtp (timeMicrosToNtp receiver.ntpOffsetMs now.us) -
          block.delaySinceLastSr - block.lastSr) ∧
      1 ≤ (after.blockData path block.sourceSsrc remoteSsrc).lastRttMs ∧
      (after.blockData path block.sourceSsrc remoteSsrc).numRtts =
        (receiver.blockData path block.sourceSsrc remoteSsrc).numRtts + 1
  unsampled : block.lastSr = 0 →
    (after.blockData path block.sourceSsrc remoteSsrc).lastRttMs =
        (receiver.blockData path block.sourceSsrc remoteSsrc).lastRttMs ∧
      (after.blockData path block.sourceSsrc remoteSsrc).numRtts =
        (receiver.blockData path block.sourceSsrc remoteSsrc).numRtts

/-- The block data that the handling of a block leaves. -/
theorem blockData_handleReportBlock (now : ClockReading) (block : ReportBlock)
    (info : ReportInformation) (remoteSsrc : UInt32)
    (registered : receiver.registeredSsrcs.contains block.sourceSsrc) :
    (receiver.handleReportBlock now block info remoteSsrc).1.blockData
        (Subflow.ofPathid info.pathid) block.sourceSsrc remoteSsrc =
      let reported := (receiver.blockData (Subflow.ofPathid info.pathid) block.sourceSsrc
        remoteSsrc).setReportBlock ⟨remoteSsrc, block⟩ now.utcUs
      if block.lastSr ≠ 0 then reported.addRoundTripTimeSample (receiver.roundTripMs now block)
      else reported := by
  have shared : ∀ (r : ReportReceiver) (lastIncreasedSequenceNumberMs : Int) (path : Subflow),
      ({ r with lastIncreasedSequenceNumberMs := lastIncreasedSequenceNumberMs } :
        ReportReceiver).on path = r.on path := fun _ _ path => by cases path <;> rfl
  unfold handleReportBlock
  rw [if_pos registered]
  dsimp only
  conv_lhs => unfold blockData
  rw [shared, setOn_on_same]
  dsimp only
  rw [OrderedMap.find_insert, if_pos rfl, Option.getD_some, OrderedMap.find_insert, if_pos rfl,
    Option.getD_some]
  rfl

/-- The block is kept for its path, with its round-trip time. -/
theorem handleReportBlock_recorded (now : ClockReading) (block : ReportBlock)
    (info : ReportInformation) (remoteSsrc : UInt32)
    (registered : receiver.registeredSsrcs.contains block.sourceSsrc) :
    BlockRecorded receiver now block (Subflow.ofPathid info.pathid) remoteSsrc
      (receiver.handleReportBlock now block info remoteSsrc).1 := by
  have stored := blockData_handleReportBlock now block info remoteSsrc registered
  dsimp only at stored
  by_cases sender : block.lastSr = 0
  · rw [if_neg (not_not.mpr sender)] at stored
    refine ⟨?_, fun other => absurd sender other, fun _ => ?_⟩
    · rw [stored]
      rfl
    · rw [stored]
      exact ⟨rfl, rfl⟩
  · rw [if_pos sender] at stored
    refine ⟨?_, fun _ => ?_, fun other => absurd other sender⟩
    · rw [stored]
      rfl
    · rw [stored]
      exact ⟨rfl, one_le_compactNtpRttToMs _, rfl⟩

end RoundTrips

section AtLeastOne

/-- The round-trip times of a block, as far as there are any, are at least a millisecond. -/
def AtLeastOne (data : ReportBlockData) : Prop :=
  data.numRtts ≠ 0 →
    1 ≤ data.minRttMs ∧ data.minRttMs ≤ data.lastRttMs ∧ data.lastRttMs ≤ data.maxRttMs

/-- So they are for everything that is kept. -/
def RttsAtLeastOne (receiver : ReportReceiver) : Prop :=
  ∀ path, ∀ row ∈ (receiver.on path).receivedReportBlocks.entries, ∀ entry ∈ row.2.entries,
    AtLeastOne entry.2

theorem AtLeastOne.addRoundTripTimeSample {data : ReportBlockData} (kept : AtLeastOne data)
    {rttMs : Int} (positive : 1 ≤ rttMs) : AtLeastOne (data.addRoundTripTimeSample rttMs) := by
  intro _
  unfold AtLeastOne at kept
  unfold ReportBlockData.addRoundTripTimeSample
  dsimp only
  split_ifs <;> omega

variable {receiver : ReportReceiver} (kept : receiver.RttsAtLeastOne)
include kept

/-- What is kept of a block is kept of a block that was received, or nothing. -/
theorem RttsAtLeastOne.blockData (path : Subflow) (sourceSsrc remoteSsrc : UInt32) :
    AtLeastOne (receiver.blockData path sourceSsrc remoteSsrc) := by
  have nothing : AtLeastOne {} := fun some => absurd rfl some
  unfold ReportReceiver.blockData
  cases row : (receiver.on path).receivedReportBlocks.find sourceSsrc with
  | none => exact nothing
  | some entries =>
      rw [Option.getD_some]
      cases found : entries.find remoteSsrc with
      | none => exact nothing
      | some data =>
          exact kept path _ (OrderedMap.find_eq_some_iff.mp row) _
            (OrderedMap.find_eq_some_iff.mp found)

/-- Replacing what is kept for a path by what is as good. -/
theorem RttsAtLeastOne.setOn {path : Subflow}
    {reception : PathReception} (sound : ∀ row ∈ reception.receivedReportBlocks.entries,
      ∀ entry ∈ row.2.entries, AtLeastOne entry.2) :
    (receiver.setOn path reception).RttsAtLeastOne := by
  intro other
  by_cases same : path = other
  · subst same
    rw [setOn_on_same]
    exact sound
  · rw [setOn_on_of_ne receiver reception same]
    exact kept other

/-- What is shared by the paths has no round-trip times. -/
theorem RttsAtLeastOne.shared (lastIncreasedSequenceNumberMs : Int) (numSkippedPackets : Nat) :
    RttsAtLeastOne { receiver with
      lastIncreasedSequenceNumberMs := lastIncreasedSequenceNumberMs
      numSkippedPackets := numSkippedPackets } :=
  fun path => match path with
    | .primary => kept .primary
    | .secondary => kept .secondary

theorem handleReportBlock_atLeastOne (now : ClockReading)
    (block : ReportBlock) (info : ReportInformation) (remoteSsrc : UInt32) :
    (receiver.handleReportBlock now block info remoteSsrc).1.RttsAtLeastOne := by
  unfold handleReportBlock
  split
  · refine RttsAtLeastOne.shared (kept.setOn ?_) _ _
    intro row rowMember entry member
    rcases OrderedMap.mem_insert.mp rowMember with rfl | ⟨other, -⟩
    · rcases OrderedMap.mem_insert.mp member with rfl | ⟨old, -⟩
      · have before : AtLeastOne (receiver.blockData (Subflow.ofPathid info.pathid)
            block.sourceSsrc remoteSsrc) := kept.blockData _ _ _
        dsimp only
        split
        · exact AtLeastOne.addRoundTripTimeSample before (one_le_compactNtpRttToMs _)
        · exact before
      · cases found : (receiver.on (Subflow.ofPathid info.pathid)).receivedReportBlocks.find
            block.sourceSsrc with
        | none =>
            rw [found] at old
            exact absurd old List.not_mem_nil
        | some entries =>
            rw [found] at old
            exact kept _ _ (OrderedMap.find_eq_some_iff.mp found) entry old
    · exact kept _ row other entry member
  · exact kept

theorem handleReportBlocks_atLeastOne (remoteSsrc : UInt32)
    (clock : Nat → ClockReading) (place : Nat) (blocks : List ReportBlock)
    (info : ReportInformation) :
    (handleReportBlocks remoteSsrc clock place blocks (receiver, info)).1.RttsAtLeastOne := by
  induction blocks generalizing receiver info place with
  | nil => exact kept
  | cons block rest ih =>
      exact ih (handleReportBlock_atLeastOne kept (clock place) block info remoteSsrc) (place + 1) _

/-- A report keeps the round-trip times at a millisecond at least. -/
theorem handleReport_atLeastOne (arrival : ReportArrival) :
    (receiver.handleReport arrival).1.RttsAtLeastOne := by
  unfold handleReport
  dsimp only
  split_ifs
  · unfold handleSenderReport
    split
    · exact kept.shared _ _
    · dsimp only
      split_ifs
      · refine handleReportBlocks_atLeastOne (kept.setOn ?_) _ _ _ _ _
        exact kept _
      · exact handleReportBlocks_atLeastOne kept _ _ _ _ _
  · unfold handleReceiverReport
    split
    · exact kept.shared _ _
    · exact handleReportBlocks_atLeastOne kept _ _ _ _ _
  · exact kept

end AtLeastOne

/-- Reports of one path do not change the results of the other one: for every state and every
sequence of reports. The round-trip time that is recorded for a block is made of the times in this
block, and is a millisecond at least; and so are then all that a path has recorded. -/
theorem path_results_apart (arrivals : List ReportArrival) :
    (∀ pathid, (∀ arrival ∈ arrivals,
        Subflow.ofPathid arrival.block.pathid ≠ Subflow.ofPathid pathid) →
      SameResults pathid receiver (finalState reportStep receiver arrivals)) ∧
    (∀ now block info remoteSsrc, receiver.registeredSsrcs.contains block.sourceSsrc →
      BlockRecorded receiver now block (Subflow.ofPathid info.pathid) remoteSsrc
        (receiver.handleReportBlock now block info remoteSsrc).1) ∧
    (receiver.RttsAtLeastOne → (finalState reportStep receiver arrivals).RttsAtLeastOne) := by
  refine ⟨fun pathid others => ?_, fun now block info remoteSsrc => ?_, fun kept => ?_⟩
  · have along : Along reportStep (fun _ arrival =>
        Subflow.ofPathid arrival.block.pathid ≠ Subflow.ofPathid pathid) receiver arrivals :=
      along_of_forall_mem receiver others
    have undisturbed := along.invariant (Undisturbed (Subflow.ofPathid pathid) receiver)
      (fun _ arrival before differs => before.trans (handleReport_undisturbed arrival differs))
      .refl
    exact undisturbed.sameResults
  · exact handleReportBlock_recorded now block info remoteSsrc
  · have along : Along reportStep (fun _ _ => True) receiver arrivals := along_true _ _
    exact along.invariant RttsAtLeastOne
      (fun _ arrival sound _ => handleReport_atLeastOne sound arrival) kept

/-- A receiver with one stream of its own. -/
def freshReceiver : ReportReceiver where
  mainSsrc := 1
  registeredSsrcs := [1]
  remoteSsrc := 2
  reportIntervalMs := 1000
  ntpOffsetMs := 0

/-- A receiver report for path 2, with a block about the stream. -/
def secondaryReport : ReportArrival where
  block := {
    type := 201
    fmt := 1
    paddingSize := 0
    payload := wordBytes 2 ++ ReportBlock.create { sourceSsrc := 1, lastSr := 65536 }
    pathid := 2
    nextPacket := [] }
  clock _ := ⟨2000000, 2000000⟩

/-- The report has a round-trip time for path 2 and none for path 1. -/
example :
    (finalState reportStep freshReceiver [secondaryReport]).rtt 2 2 =
        some (1000, 1000, 1000, 1000) ∧
      (finalState reportStep freshReceiver [secondaryReport]).rtt 1 2 = none := by
  decide

theorem path_results_apart_secondary :
    SameResults 1 freshReceiver (finalState reportStep freshReceiver [secondaryReport]) :=
  (path_results_apart freshReceiver [secondaryReport]).1 1 (by decide)

end ReportReceiver

end MpWebRtc
