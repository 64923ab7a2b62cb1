import MpWebRtc.Math.Checked
import MpWebRtc.Receiver.PacketBuffer
import MpWebRtc.Rtcp.AppPackets

/-!
# The asymmetry of the paths

`OnInsertedPacket` counts, for the packets that the packet buffer hands out, how many of a
frame came on each path and when. At the end of a delta frame it computes from these how many
packets came too late on the path that the frame began with, keeps the last of these numbers in
a window, and decides whether the other end is to use the slow path less. The decision compares
the smoothed distance of frames with the one that the sender's frame rate makes expected.

The doubles in which delays are smoothed are left open.
-/

namespace MpWebRtc

open VideoCoding

/-- `MpCollector`, with what the receiver of the video writes and reads. -/
structure ReceiverCollector extends RemoteCollector where
  assymetry : Int := 0
  numCameraStreams : Int := 1

/-- Measuring the paths takes two of them, and no redundant scheduler. -/
def ReceiverCollector.comparesPaths (c : ReceiverCollector) : Bool :=
  !c.schedulerMentions "red" && c.mpIsSecondPathOpen

/-- What `OnInsertedPacket` reads of a packet. -/
structure InsertedPacket where
  pathId : Int
  arrivalTime : Int
  timesNacked : Int := -1
  frameType : VideoFrameType := .kVideoFrameDelta
  isFirstPacketInFrame : Bool
  isLastPacketInFrame : Bool
  deriving DecidableEq

/-- The counters of a frame. -/
structure PathAccount where
  primaryPacket : Nat := 0
  secondaryPacket : Nat := 0
  primaryNackPacket : Nat := 0
  secondaryNackPacket : Nat := 0
  firstPacketPath : Nat := 0
  primaryPacketTimes : List Int := []
  secondaryPacketTimes : List Int := []
  deriving DecidableEq

namespace PathAccount

variable (account : PathAccount)

/-- Count a packet. On the first path one that was never asked for again has -1, and counts as
asked for. -/
def count (packet : InsertedPacket) : PathAccount :=
  if packet.pathId ≠ 2 then
    { account with
      firstPacketPath := if packet.isFirstPacketInFrame then 1 else account.firstPacketPath
      primaryPacket := account.primaryPacket + 1
      primaryPacketTimes := packet.arrivalTime :: account.primaryPacketTimes
      primaryNackPacket :=
        if packet.timesNacked ≠ 0 then account.primaryNackPacket + 1
        else account.primaryNackPacket }
  else
    { account with
      firstPacketPath := if packet.isFirstPacketInFrame then 2 else account.firstPacketPath
      secondaryPacket := account.secondaryPacket + 1
      secondaryPacketTimes := packet.arrivalTime :: account.secondaryPacketTimes
      secondaryNackPacket :=
        if packet.timesNacked > 0 then account.secondaryNackPacket + 1
        else account.secondaryNackPacket }

/-- The counters of these packets. -/
def ofPackets (packets : List InsertedPacket) : PathAccount := packets.foldl count {}

/-- `*max_element` and `*min_element`, of a list that is not empty. -/
def maxElement (times : List Int) : Int := times.max?.getD 0
def minElement (times : List Int) : Int := times.min?.getD 0

/-- `delay_assymetry`. -/
def delayAssymetry : Int :=
  maxElement account.secondaryPacketTimes - maxElement account.primaryPacketTimes

/-- `gap`. -/
def gap : Int :=
  |minElement account.secondaryPacketTimes - maxElement account.primaryPacketTimes|

/-- `assymetrypackets`: the packets of the slow path that came after all of the other, without
those that were sent again. -/
def assymetryPackets : Int :=
  if account.delayAssymetry > 0 then
    if account.firstPacketPath = 2 then
      max 0 ((account.secondaryPacketTimes.countP
        (· > maxElement account.primaryPacketTimes) : Int) - account.secondaryNackPacket)
    else
      max 0 ((account.primaryPacketTimes.countP
        (· > maxElement account.secondaryPacketTimes) : Int) - account.primaryNackPacket)
  else 0

end PathAccount

/-- What is done with doubles. -/
structure DelayArithmetic (Double : Type) where
  /-- `0.9 * smoothed + 0.1 * delay`. -/
  smooth : Double → Int → Double
  exceeds : Double → Int → Bool
  atMost : Double → Int → Bool
  below : Double → Int → Bool
  truncate : Double → Int

inductive DivisionFault
  | byZero
  deriving DecidableEq

/-- `linearwindow_asymmetry`. -/
def kLinearwindowAsymmetry : Nat := 33

/-- A window of the last values. -/
def pushWindow (window : List Int) (value : Int) : List Int :=
  (if window.length > kLinearwindowAsymmetry then window.drop 1 else window) ++ [value]

/-- `std::accumulate(begin, end, 0) / size()`. -/
def average (window : List Int) : Except DivisionFault Int :=
  if window.length = 0 then .error .byZero else .ok (window.sum / window.length)

/-- `1000/remote_fps`. -/
def expectedIfd (remoteFps : UInt32) : Except DivisionFault Int :=
  if remoteFps = 0 then .error .byZero else .ok (1000 / remoteFps).toNat

/-- What `RtpVideoStreamReceiver2` keeps of the delays between frames. -/
structure FrameDelays (Double : Type) where
  smoothedTimings : Double
  smoothedTimingsIfd : Double
  previousFrameTime : Int
  assymetryPackets : List Int := []
  increaseRate : List Int := []
  decreaseRate : List Int := []
  asymmetricFeedback : Bool := false
  asymmetricFeedbackPositive : Bool := false
  asymmetricGd : Int := 0
  asymmetricRttdiff : Int := 10000

namespace FrameDelays

variable {Double : Type} (arithmetic : DelayArithmetic Double) (delays : FrameDelays Double)

/-- A feedback is in force. -/
def controls : Bool :=
  delays.asymmetricFeedback || delays.asymmetricFeedbackPositive

/-- The half of the difference of the round trip times. -/
def rttDiff (c : ReceiverCollector) : Int := |(c.rtt2 - c.rtt1).tdiv 2|

/-- The frame came on both paths, and their delays are known. -/
def bothPaths (account : PathAccount) (c : ReceiverCollector) : Bool :=
  decide (account.primaryPacketTimes.length > 0 ∧ account.secondaryPacketTimes.length > 0 ∧
    c.rtt1 > 0 ∧ c.rtt2 > 0)

/-- Whether the delay of the second path grows or falls is gathered until there is feedback. -/
def gather (delay : Int) : FrameDelays Double :=
  if delays.controls then delays
  else if delay > 0 then { delays with increaseRate := pushWindow delays.increaseRate delay }
  else { delays with decreaseRate := pushWindow delays.decreaseRate (-delay) }

/-- The first part of the end of a delta frame: the new delays go into the windows and into the
smoothed ones. -/
def measure (delays : FrameDelays Double) (c : ReceiverCollector) (account : PathAccount)
    (endTime : Int) : FrameDelays Double :=
  let both := bothPaths account c
  let gathered := if both then delays.gather account.delayAssymetry else delays
  { gathered with
    smoothedTimings :=
      arithmetic.smooth delays.smoothedTimings (if both then account.gap else 0)
    smoothedTimingsIfd :=
      arithmetic.smooth delays.smoothedTimingsIfd |endTime - delays.previousFrameTime|
    assymetryPackets :=
      pushWindow delays.assymetryPackets (if both then account.assymetryPackets else 0) }

/-- The averages of the gathered delays; none, while one kind is missing. -/
def gatheredRates : Except DivisionFault (Int × Int) :=
  if delays.increaseRate.length > 0 ∧ delays.decreaseRate.length > 0 then do
    let increase ← average delays.increaseRate
    let decrease ← average delays.decreaseRate
    return (increase, decrease)
  else return (0, 0)

/-- Begin to control the sender. -/
def startFeedback (delays : FrameDelays Double) (c : ReceiverCollector) (assymetry : Int) :
    Except DivisionFault (FrameDelays Double × ReceiverCollector) := do
  let (increase, decrease) ← delays.gatheredRates
  return ({ delays with
    asymmetricGd := arithmetic.truncate delays.smoothedTimings
    asymmetricRttdiff := rttDiff c
    asymmetricFeedback := if increase < decrease then delays.asymmetricFeedback else true
    asymmetricFeedbackPositive :=
      if increase < decrease then true else delays.asymmetricFeedbackPositive },
    { c with assymetry := assymetry + 1 })

/-- Whether to begin: the frame rate is looked at after the window and the feedback in force. -/
def startsFeedback (delays : FrameDelays Double) (c : ReceiverCollector) (assymetry : Int) :
    Except DivisionFault Bool :=
  if delays.assymetryPackets.length > kLinearwindowAsymmetry ∧ delays.controls = false ∧
      assymetry > 0 then do
    let expected ← expectedIfd c.remoteFps
    return arithmetic.exceeds delays.smoothedTimingsIfd (expected + 3 * c.numCameraStreams) &&
      decide (rttDiff c > 10) && decide (c.rtt2 > 0) && decide (c.rtt1 > 0)
  else return false

/-- Whether to stop. -/
def stopsFeedback (delays : FrameDelays Double) (c : ReceiverCollector) :
    Except DivisionFault Bool :=
  if delays.controls then do
    let expected ← expectedIfd c.remoteFps
    return arithmetic.atMost delays.smoothedTimingsIfd expected &&
      arithmetic.below delays.smoothedTimings delays.asymmetricGd &&
      decide (rttDiff c < delays.asymmetricRttdiff.tdiv 2)
  else return false

/-- The second part: the feedback mechanism. -/
def control (delays : FrameDelays Double) (c : ReceiverCollector) :
    Except DivisionFault (FrameDelays Double × ReceiverCollector) := do
  let assymetry ← average delays.assymetryPackets
  match ← delays.startsFeedback arithmetic c assymetry with
  | true => delays.startFeedback arithmetic c assymetry
  | false =>
      match ← delays.stopsFeedback arithmetic c with
      | true =>
          return ({ delays with
            asymmetricFeedback := false
            asymmetricFeedbackPositive := false
            asymmetricRttdiff := 10000 }, { c with assymetry := 0 })
      | false =>
          return (delays, if delays.controls then
            { c with assymetry := c.assymetry + assymetry + 1 } else c)

/-- A log line with the expected distance of frames, in a build with logging. -/
def logExpected (logging : Bool) (c : ReceiverCollector) : Except DivisionFault Unit :=
  if logging then (expectedIfd c.remoteFps).map fun _ => () else return ()

/-- The end of a delta frame. -/
def closeDelta (logging : Bool) (delays : FrameDelays Double) (c : ReceiverCollector)
    (account : PathAccount) (endTime : Int) :
    Except DivisionFault (FrameDelays Double × ReceiverCollector) := do
  let (delays, c) ← (delays.measure arithmetic c account endTime).control arithmetic c
  logExpected logging c
  return ({ delays with previousFrameTime := endTime }, c)

/-- What is done when the packet buffer was cleared. -/
def bufferCleared (logging : Bool) (delays : FrameDelays Double) (c : ReceiverCollector) :
    Except DivisionFault (FrameDelays Double × ReceiverCollector) :=
  if rttDiff c > 0 ∧ arithmetic.exceeds delays.smoothedTimings 0 then do
    logExpected logging c
    return ({ delays with
      asymmetricRttdiff := rttDiff c
      asymmetricFeedback := true
      asymmetricGd := arithmetic.truncate delays.smoothedTimings }, { c with assymetry := 100 })
  else return (delays, c)

section Collector

open Math.Checked

variable {delays after : FrameDelays Double} {c c' : ReceiverCollector} {arithmetic}

/-- All that the feedback mechanism changes of the collector is the asymmetry. -/
theorem control_collector (done : delays.control arithmetic c = .ok (after, c')) :
    c'.toRemoteCollector = c.toRemoteCollector := by
  obtain ⟨assymetry, -, done⟩ := bind_eq_ok_iff.mp done
  obtain ⟨starts, -, done⟩ := bind_eq_ok_iff.mp done
  cases starts with
  | true =>
      obtain ⟨rates, -, done⟩ := bind_eq_ok_iff.mp done
      obtain rfl := congrArg Prod.snd (Except.ok.inj done)
      rfl
  | false =>
      obtain ⟨stops, -, done⟩ := bind_eq_ok_iff.mp done
      cases stops with
      | true =>
          obtain rfl := congrArg Prod.snd (Except.ok.inj done)
          rfl
      | false =>
          obtain rfl := congrArg Prod.snd (Except.ok.inj done)
          dsimp only
          split <;> rfl

theorem closeDelta_collector {logging : Bool} {account : PathAccount} {endTime : Int}
    (done : delays.closeDelta arithmetic logging c account endTime = .ok (after, c')) :
    c'.toRemoteCollector = c.toRemoteCollector := by
  obtain ⟨⟨controlled, between⟩, control, done⟩ := bind_eq_ok_iff.mp done
  obtain ⟨-, -, done⟩ := bind_eq_ok_iff.mp done
  obtain rfl := congrArg Prod.snd (Except.ok.inj done)
  exact control_collector control

end Collector

end FrameDelays

/-- A delta frame that was closed, with the counters that were used. -/
structure ClosedFrame where
  packets : List InsertedPacket
  account : PathAccount
  deriving DecidableEq

/-- What the loop over the inserted packets keeps. `frame` are the packets since the last first
packet of a frame. -/
structure InsertionLoop (Double : Type) where
  account : PathAccount := {}
  frame : List InsertedPacket := []
  delays : FrameDelays Double
  collector : ReceiverCollector
  closed : List ClosedFrame := []

namespace InsertionLoop

variable {Double : Type} (arithmetic : DelayArithmetic Double) (logging : Bool)
  (assembles : List InsertedPacket → Bool)

/-- The end of a frame, once it is assembled. -/
def endFrame (loop : InsertionLoop Double) (last : InsertedPacket) :
    Except DivisionFault (InsertionLoop Double) :=
  let delays :=
    if loop.delays.previousFrameTime = 0 then
      { loop.delays with previousFrameTime := last.arrivalTime }
    else loop.delays
  if last.frameType = .kVideoFrameKey then do
    FrameDelays.logExpected logging loop.collector
    return { loop with delays := delays }
  else do
    let (delays, c) ← delays.closeDelta arithmetic logging loop.collector loop.account
      last.arrivalTime
    return { loop with
      account := {}
      delays := delays
      collector := c
      closed := loop.closed ++ [⟨loop.frame, loop.account⟩] }

/-- The loop of `OnInsertedPacket`. A frame that is not assembled is discarded. -/
def insert (loop : InsertionLoop Double) (packet : InsertedPacket) :
    Except DivisionFault (InsertionLoop Double) :=
  let counted := { loop with
    account := loop.account.count packet
    frame := if packet.isFirstPacketInFrame then [packet] else loop.frame ++ [packet] }
  if packet.isLastPacketInFrame && assembles counted.frame && loop.collector.comparesPaths then
    counted.endFrame arithmetic logging packet
  else return counted

end InsertionLoop

/-- `OnInsertedPacket`, with the delta frames that it closes. -/
def onInsertedPacket {Double : Type} (arithmetic : DelayArithmetic Double) (logging : Bool)
    (assembles : List InsertedPacket → Bool) (delays : FrameDelays Double) (c : ReceiverCollector)
    (packets : List InsertedPacket) (bufferCleared : Bool) :
    Except DivisionFault (FrameDelays Double × ReceiverCollector × List ClosedFrame) := do
  let loop ← packets.foldlM (InsertionLoop.insert arithmetic logging assembles)
    { delays := delays, collector := c }
  if bufferCleared then do
    let (delays, c) ← loop.delays.bufferCleared arithmetic logging loop.collector
    return (delays, c, loop.closed)
  else return (loop.delays, loop.collector, loop.closed)

end MpWebRtc
