import Mathlib.Algebra.Order.Floor.Ring
import Mathlib.Data.Rat.Floor
import MpWebRtc.Collector
import MpWebRtc.Math.Run
import MpWebRtc.Packet

/-!
# Splitting a frame over the two paths

`MPTrafficSplitImplementation` labels every packet of a video frame with a path and
the next number of that path, makes the copies a scheduler asks for, and hands both to
the pacer. It has three schedulers. The *window* scheduler sends key frames on the
best path, duplicates frames on path 2 while it starts up, obeys a full signal, and
otherwise divides a frame by the configured ratio. The *redundant* scheduler numbers
packets by their RTP sequence number. Everything else is *round robin*, which is also
what runs while the second path is closed.

Every loop over the packets of a frame is a run of its body, so the rules for runs
apply to it.
-/

namespace MpWebRtc

open Math.Run

/-- The counters of `RTPSender` together with the file-scope variables of its
translation unit. -/
structure RtpSender where
  sequenceNumberP : UInt16 := 10
  sequenceNumberS : UInt16 := 10
  sandyMpStartTime : Int := 0
  worstPathTime : Int := 0
  worstPathBytes : Int := 0
  totalPacketsSent : UInt32 := 0

/-- What one call hands to the pacer, and the state it leaves. -/
structure Split where
  collector : Collector
  sender : RtpSender
  packets : List Packet
  copies : List Packet := []

/-- The packets in the order in which the pacer receives them. -/
def Split.handed (split : Split) : List Packet := split.packets ++ split.copies

/-- A double converted to an integer: rounding toward zero. -/
def truncate (q : ℚ) : Int := if 0 ≤ q then ⌊q⌋ else ⌈q⌉

namespace RtpSender

variable (s : RtpSender)

/-- Label a packet with path 1 and take the next number of path 1. -/
def assignPrimary (p : Packet) : RtpSender × List Packet :=
  ({ s with sequenceNumberP := s.sequenceNumberP + 1 }, [p.label 1 s.sequenceNumberP])

/-- Label a packet with path 2 and take the next number of path 2. -/
def assignSecondary (p : Packet) : RtpSender × List Packet :=
  ({ s with sequenceNumberS := s.sequenceNumberS + 1 }, [p.label 2 s.sequenceNumberS])

/-- Label a packet with path 1 or with path 2. -/
def assignTo (primary : Bool) : RtpSender → Packet → RtpSender × List Packet :=
  if primary then assignPrimary else assignSecondary

/-- The time of the first split, set by the first call. -/
def startedAt (now : Int) : Int :=
  if s.sandyMpStartTime = 0 then now else s.sandyMpStartTime

/-- The sender once the start time is set. -/
def started (now : Int) : RtpSender :=
  { s with sandyMpStartTime := s.startedAt now }

end RtpSender

/-- The branches of `MPTrafficSplitImplementation`, in the order of its tests. -/
inductive SplitBranch
  | keyFrame
  | startUp
  | fullSignaled1
  | fullSignaled2
  | ratio
  | redundant
  | roundRobin
  deriving DecidableEq

variable (c : Collector)

/-- The branch a call takes. -/
def splitBranch (now : Int) (s : RtpSender) (keyframe : Bool) : SplitBranch :=
  if c.windowScheduling then
    if keyframe then .keyFrame
    else if c.ratio = 0 ∨ now - s.startedAt now ≤ 10000 then .startUp
    else if c.fullSignaledOn 1 && c.mpIsSecondPathOpen then .fullSignaled1
    else if c.fullSignaledOn 2 && c.mpIsSecondPathOpen then .fullSignaled2
    else .ratio
  else if c.redScheduling then .redundant
  else .roundRobin

section Window

variable (c : Collector)

/-- The path of key frames. -/
def keyFramePath : Nat := if c.bestPathid = 1 then 1 else 2

/-- All packets of a key frame go to the best path. -/
def splitKeyFrame (s : RtpSender) (packets : List Packet) : Split where
  collector := packets.foldl (fun c p => { c with payloadType := p.payloadType }) c
  sender := finalState (RtpSender.assignTo (c.bestPathid == 1)) s packets
  packets := outputs (RtpSender.assignTo (c.bestPathid == 1)) s packets

/-- A copy made during start-up keeps its packet type. -/
def startUpCopy (p : Packet) : Packet := { p with payloadType := kDupPayloadType }

/-- During start-up path 1 carries the frame and path 2 a copy of it. -/
def splitStartUp (s : RtpSender) (packets : List Packet) : Split where
  collector := c
  sender := finalState RtpSender.assignPrimary
    (finalState RtpSender.assignSecondary s (packets.map startUpCopy)) packets
  packets := outputs RtpSender.assignPrimary
    (finalState RtpSender.assignSecondary s (packets.map startUpCopy)) packets
  copies := outputs RtpSender.assignSecondary s (packets.map startUpCopy)

/-- A full signal on one path moves the frame to the other. -/
def splitAll (primary : Bool) (c : Collector) (s : RtpSender) (packets : List Packet) : Split where
  collector := c
  sender := finalState (RtpSender.assignTo primary) s packets
  packets := outputs (RtpSender.assignTo primary) s packets

/-- How many packets go to the best path (`p1`) and to the worst path (`p2`). -/
structure Shares where
  p1 : Int
  p2 : Int

/-- The shares by the ratio; the best path gets the larger one. The quotient is taken as exact: where
it gives a whole number, as 15 of 55 packets at the ratio 3/8, a rounded one may give one less. -/
def ratioShares (n : Nat) : Shares :=
  let split := if n = 1 then 1 else truncate (c.ratio / (1 + c.ratio) * n)
  let p1 := split
  let p2 := (n : Int) - split
  if p1 < p2 then ⟨p2, p1⟩ else ⟨p1, p2⟩

/-- A half signal scales the share of the worst path by `alpha`. -/
def halfSignalShares (n : Nat) (shares : Shares) : Shares :=
  if c.halfSignal then
    let p2 := truncate (shares.p2 * c.alpha)
    ⟨n - p2, p2⟩
  else shares

/-- The bytes of the first `p2` packets. -/
def worstBytes (packets : List Packet) (p2 : Int) : Int :=
  ((packets.take p2.toNat).map fun p => (p.size : Int)).sum

/-- The worst path has used up 115 % of its window in the current second. -/
def windowExhausted (s : RtpSender) : Prop :=
  (s.worstPathBytes ≥ (115 * c.primaryCongestionWnd).tdiv 100 ∧ c.bestPathid = 2) ∨
    (s.worstPathBytes ≥ (115 * c.secondaryCongestionWnd).tdiv 100 ∧ c.bestPathid = 1)

instance (c : Collector) (s : RtpSender) : Decidable (windowExhausted c s) :=
  inferInstanceAs (Decidable (_ ∨ _))

/-- Start the first one-second interval of byte accounting. -/
def RtpSender.startInterval (s : RtpSender) (now : Int) : RtpSender :=
  { s with worstPathTime := if s.worstPathTime = 0 then now else s.worstPathTime }

/-- Account the bytes of the worst path, and keep the path out once its window is
exhausted. -/
def windowShares (now : Int) (s : RtpSender) (packets : List Packet)
    (shares : Shares) : RtpSender × Shares :=
  if now - (s.startInterval now).worstPathTime ≥ 1000 then
    ({ s with worstPathTime := now, worstPathBytes := worstBytes packets shares.p2 }, shares)
  else if windowExhausted c s then (s.startInterval now, ⟨packets.length, 0⟩)
  else
    ({ s.startInterval now with
        worstPathBytes := s.worstPathBytes + worstBytes packets shares.p2 }, shares)

/-- The best path can carry `a` further packets. The test for best path 2 looks at the
share of the worst path. -/
def accommodates (shares : Shares) (a : Int) : Bool :=
  if c.bestPathid ≠ 2 then decide (((shares.p1 + a) * 1500 * 8 : ℚ) < c.sendingrate1)
  else decide (((shares.p2 + a) * 1500 * 8 : ℚ) < c.sendingrate2)

/-- Shares after the asymmetry correction, with the number of telemetry copies. -/
structure Corrected where
  shares : Shares
  dupPath : Nat := 0
  dupPackets : Nat := 0

/-- Move the packets the remote side reported as asymmetric to the best path. When
that empties the worst path, one copy keeps its telemetry alive. -/
def asymmetryShares (n : Nat) (shares : Shares) : Corrected :=
  if c.remoteAssymetry > 0 ∧ shares.p2 > 0 then
    let asymmetric :=
      if c.remoteAssymetry > shares.p2 then shares.p2 else c.remoteAssymetry
    let (moved, dupPath) : Shares × Nat :=
      if accommodates c shares asymmetric then
        (⟨n - (shares.p2 - asymmetric), shares.p2 - asymmetric⟩,
          if c.bestPathid ≠ 2 then 2 else 1)
      else (shares, 0)
    ⟨moved, dupPath, if moved.p2 = 0 then 1 else 0⟩
  else ⟨shares, 0, 0⟩

/-- All stages that determine the shares of a frame. -/
def plannedShares (now : Int) (s : RtpSender) (packets : List Packet) : RtpSender × Corrected :=
  let n := packets.length
  let accounted := windowShares c now s packets (halfSignalShares c n (ratioShares c n))
  (accounted.1, asymmetryShares c n accounted.2)

variable (bestIsPrimary : Bool)

/-- The loop that sends the first `p2` packets to the worst path; the state holds
`ratio_count`. -/
def ratioStep (p2 : Int) : RtpSender × Int → Packet → (RtpSender × Int) × List Packet
  | (s, count), p =>
      let (s, labelled) := RtpSender.assignTo (bestIsPrimary != decide (count < p2)) s p
      ((s, count + 1), labelled)

/-- The path the ratio loop treats as worst, as a label. -/
def worstLabel : Nat := if bestIsPrimary then 2 else 1

/-- A telemetry copy is marked as such by its packet type. -/
def telemetryCopy (p : Packet) : Packet :=
  { p with payloadType := kDupPayloadType, packetType := some .kDupPacket }

/-- Divide a frame between the best and the worst path. -/
def splitRatio (now : Int) (s : RtpSender) (packets : List Packet) : Split :=
  let planned := plannedShares c now s packets
  let corrected := planned.2
  let loop := ratioStep (c.bestPathid == 1) corrected.shares.p2
  let s := (finalState loop (planned.1, 0) packets).1
  let sent := outputs loop (planned.1, 0) packets
  let copied := (sent.take corrected.dupPackets).map telemetryCopy
  { collector := c
    sender := finalState (RtpSender.assignTo (corrected.dupPath == 1)) s copied
    packets := sent
    copies := outputs (RtpSender.assignTo (corrected.dupPath == 1)) s copied }

end Window

/-- The redundant scheduler numbers a packet by its RTP sequence number and leaves the
counters alone. -/
def splitRedundant (s : RtpSender) (packets : List Packet) : Split where
  collector := c
  sender := s
  packets := packets.map fun p => p.label 1 p.sequenceNumber

section RoundRobin

/-- The budgets of the two paths for a frame of `n` packets. The scale factor is
`1/2`, an integer quotient, so a half signal leaves a single packet to its path. -/
def roundRobinBudgets (c : Collector) (n : Nat) : ℚ × ℚ :=
  let alpha : ℚ := ((1 / 2 : Int) : ℚ) * c.alpha
  let reduced : ℚ := if (n * alpha : ℚ) < 1 then 1 else n * alpha
  if c.halfSignaledOn 2 then (n - reduced, reduced)
  else if c.halfSignaledOn 1 then (reduced, n - reduced)
  else (n, n)

/-- The state of the round-robin loop. -/
structure RoundRobin where
  sender : RtpSender
  p1 : ℚ
  p2 : ℚ

/-- `total_packets_sent`, which skips zero when it wraps. -/
def advanceTotal (total : UInt32) : UInt32 := if total < 4294967295 then total + 1 else 1

/-- The test by which round robin gives a packet to path 1. -/
def roundRobinPrimary (c : Collector) (loop : RoundRobin) : Bool :=
  decide (loop.p1 > 0) && !(c.fullSignaledOn 1 && c.mpIsSecondPathOpen) &&
    (loop.sender.totalPacketsSent % 2 == 0 || !c.mpIsSecondPathOpen ||
      (c.fullSignaledOn 2 && c.mpIsSecondPathOpen) || decide (loop.p2 = 0))

/-- The number path 1 gives a packet under round robin: while the second path is
closed, a non-zero RTP sequence number replaces the counter. -/
def roundRobinNumber (c : Collector) (s : RtpSender) (p : Packet) : RtpSender × UInt16 :=
  if !c.mpIsSecondPathOpen && s.sequenceNumberP != p.sequenceNumber &&
      decide (p.sequenceNumber > 0) then
    ({ s with sequenceNumberP := p.sequenceNumber }, p.sequenceNumber)
  else ({ s with sequenceNumberP := s.sequenceNumberP + 1 }, s.sequenceNumberP)

/-- The body of the round-robin loop. A packet that neither test takes stays as it
is. -/
def roundRobinStep (c : Collector) (loop : RoundRobin) (p : Packet) : RoundRobin × List Packet :=
  let (next, labelled) : RoundRobin × Packet :=
    if roundRobinPrimary c loop then
      let (s, number) := roundRobinNumber c loop.sender p
      (⟨s, loop.p1 - 1, loop.p2⟩, p.label 1 number)
    else if c.mpIsSecondPathOpen && decide (loop.p2 > 0) then
      let number := loop.sender.sequenceNumberS
      (⟨{ loop.sender with sequenceNumberS := number + 1 }, loop.p1, loop.p2 - 1⟩,
        p.label 2 number)
    else (loop, p)
  ({ next with
      sender := { next.sender with
        totalPacketsSent := advanceTotal next.sender.totalPacketsSent } }, [labelled])

/-- Distribute a frame in turn, within the budgets. -/
def splitRoundRobin (c : Collector) (s : RtpSender) (packets : List Packet) : Split :=
  let budgets := roundRobinBudgets c packets.length
  let loop : RoundRobin := ⟨s, budgets.1, budgets.2⟩
  { collector := c
    sender := (finalState (roundRobinStep c) loop packets).sender
    packets := outputs (roundRobinStep c) loop packets }

end RoundRobin

/-- `MPTrafficSplitImplementation`. -/
def mpTrafficSplitImplementation (now : Int) (s : RtpSender)
    (packets : List Packet) (keyframe : Bool) : Split :=
  match splitBranch c now s keyframe with
  | .keyFrame => splitKeyFrame c (s.started now) packets
  | .startUp => splitStartUp c (s.started now) packets
  | .fullSignaled1 => splitAll false c (s.started now) packets
  | .fullSignaled2 => splitAll true c (s.started now) packets
  | .ratio => splitRatio c now (s.started now) packets
  | .redundant => splitRedundant c (s.started now) packets
  | .roundRobin => splitRoundRobin c (s.started now) packets

/-- Both entry points stamp packets that have no capture time. -/
def stampCaptureTime (now : Int) (p : Packet) : Packet :=
  if p.captureTimeMs ≤ 0 then { p with captureTimeMs := now } else p

/-- `RTPSender::EnqueuePackets`: a frame is a key frame when one of its packets says
so. -/
def enqueuePackets (now : Int) (s : RtpSender) (packets : List Packet) : Split :=
  mpTrafficSplitImplementation c now s (packets.map (stampCaptureTime now))
    (packets.any (·.isKeyFrame))

/-- `RTPSender::SendToNetwork`: audio always takes path 1. -/
def sendToNetwork (now : Int) (s : RtpSender) (p : Packet) : Split where
  collector := c
  sender := (s.assignPrimary (stampCaptureTime now p)).1
  packets := (s.assignPrimary (stampCaptureTime now p)).2

end MpWebRtc
