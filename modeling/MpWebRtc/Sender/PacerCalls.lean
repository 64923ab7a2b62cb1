import MpWebRtc.Sender.PacingSteps

/-!
# The other calls of the pacing controller

How a controller is made, and what else is called on it. Each call that its assertions permit leaves
the controller ready.
-/

namespace MpWebRtc.Pacing

open Math.Checked PacingController

/-- What the field trials set once and for all. -/
structure PacerTrials where
  drainLargeQueues : Bool := true
  sendPaddingIfSilent : Bool := false
  paceAudio : Bool := false
  smallFirstProbePacket : Bool := false
  ignoreTransportOverhead : Bool := false
  paddingTargetDuration : Int := 5000
  minPacketLimit : Int := 5000
  minProbePacketsSent : Int := 5
  minProbeDelta : Int := 1000
  minProbeDuration : Int := 15000
  maxProbeDelay : Int := 3000

namespace PacingController

/-- The constructor. -/
def create (trials : PacerTrials) (mode : ProcessMode) (now : Int) : PacingController :=
  ({ mode := mode
     drainLargeQueues := trials.drainLargeQueues
     sendPaddingIfSilent := trials.sendPaddingIfSilent
     paceAudio := trials.paceAudio
     smallFirstProbePacket := trials.smallFirstProbePacket
     ignoreTransportOverhead := trials.ignoreTransportOverhead
     paddingTargetDuration := trials.paddingTargetDuration
     minPacketLimit := trials.minPacketLimit
     prober :=
       { minProbePacketsSent := trials.minProbePacketsSent
         minProbeDelta := trials.minProbeDelta
         minProbeDuration := trials.minProbeDuration
         maxProbeDelay := trials.maxProbeDelay }
     lastProcessTime := now
     lastSendTime := now
     packetQueue := { timeLastUpdated := now } } :
    PacingController).updateBudgetWithElapsedTime trials.minPacketLimit

variable (pacer : PacingController)

/-- `SetPacingRates`. -/
def setPacingRates (pacingRate paddingRate : Int) : PacingController :=
  { pacer with
    mediaRate := pacingRate
    paddingRate := paddingRate
    pacingBitrate := pacingRate
    paddingBudget := pacer.paddingBudget.setTargetRateKbps (toThousands paddingRate) }

/-- `Pause` and `Resume`. -/
def setPaused (now : Int) (paused : Bool) : Except PacerFault PacingController := do
  let queue ← checked (pacer.packetQueue.setPauseState paused now)
  return { pacer with paused, packetQueue := queue }

/-- A congestion window or outstanding data; whoever is not congested any more drains its debts. -/
def setCongestion (now : Int) (window : Option Int) (outstandingData : Int) : PacingController :=
  let next := { pacer with congestionWindowSize := window, outstandingData }
  if pacer.congested && !next.congested then next.drain now else next

/-- `SetCongestionWindow`. -/
def setCongestionWindow (now : Int) (window : Option Int) : PacingController :=
  pacer.setCongestion now window pacer.outstandingData

/-- `UpdateOutstandingData`. -/
def updateOutstandingData (now outstandingData : Int) : PacingController :=
  pacer.setCongestion now pacer.congestionWindowSize outstandingData

/-- `CreateProbeCluster`. -/
def createProbeCluster (bitrate now clusterId : Int) : PacingController :=
  { pacer with prober := pacer.prober.createProbeCluster bitrate now clusterId }

/-- `SetProbingEnabled`. -/
def setProbingEnabled (enabled : Bool) : Except PacerFault PacingController :=
  if pacer.packetCounter = 0 then return { pacer with prober := pacer.prober.setEnabled enabled }
  else .error .checkFailed

/-- `SetIncludeOverhead`. -/
def setIncludeOverhead : Except PacerFault PacingController := do
  let queue ← checked pacer.packetQueue.setIncludeOverhead
  return { pacer with includeOverhead := true, packetQueue := queue }

/-- `SetTransportOverhead`. -/
def setTransportOverhead (overheadPerPacket : Int) : Except PacerFault PacingController :=
  if pacer.ignoreTransportOverhead then return pacer
  else do
    let queue ← checked (pacer.packetQueue.setTransportOverhead overheadPerPacket)
    return { pacer with transportOverheadPerPacket := overheadPerPacket, packetQueue := queue }

end PacingController

/-- The calls besides `ProcessPackets`. -/
inductive PacerCall
  | setPacingRates (pacingRate paddingRate : Int)
  | enqueuePacket (packet : Packet)
  | pause
  | resume
  | setCongestionWindow (window : Option Int)
  | updateOutstandingData (outstandingData : Int)
  | createProbeCluster (bitrate clusterId : Int)
  | setProbingEnabled (enabled : Bool)
  | setAccountForAudioPackets (accountForAudio : Bool)
  | setIncludeOverhead
  | setTransportOverhead (overheadPerPacket : Int)
  | setQueueTimeLimit (limit : Int)

namespace PacerCall

/-- The call. -/
def perform (now : Int) (pacer : PacingController) : PacerCall → Except PacerFault PacingController
  | setPacingRates pacingRate paddingRate => return pacer.setPacingRates pacingRate paddingRate
  | enqueuePacket packet => pacer.enqueuePacket now packet
  | pause => pacer.setPaused now true
  | resume => pacer.setPaused now false
  | setCongestionWindow window => return pacer.setCongestionWindow now window
  | updateOutstandingData outstandingData => return pacer.updateOutstandingData now outstandingData
  | createProbeCluster bitrate clusterId => return pacer.createProbeCluster bitrate now clusterId
  | setProbingEnabled enabled => pacer.setProbingEnabled enabled
  | setAccountForAudioPackets accountForAudio => return { pacer with accountForAudio }
  | setIncludeOverhead => pacer.setIncludeOverhead
  | setTransportOverhead overheadPerPacket => pacer.setTransportOverhead overheadPerPacket
  | setQueueTimeLimit limit => return { pacer with queueTimeLimit := limit }

/-- What the call asserts. -/
def Permitted (pacer : PacingController) : PacerCall → Prop
  | setPacingRates pacingRate paddingRate => 0 < pacingRate ∧ 0 ≤ paddingRate
  | enqueuePacket packet => 0 < pacer.pacingBitrate ∧ packet.packetType.isSome
  | createProbeCluster bitrate _ => 0 < bitrate
  | setProbingEnabled _ => pacer.packetCounter = 0
  | setTransportOverhead overheadPerPacket => 0 ≤ overheadPerPacket
  | _ => True

end PacerCall

namespace PacingController

variable {pacer : PacingController} {now : Int}

theorem ready_create (trials : PacerTrials) (mode : ProcessMode) (now : Int) :
    (create trials mode now).Ready now := by
  refine (updateBudgetWithElapsedTime_spec _ _).ready ⟨?_, le_rfl, fun _ => rfl, ?_, ?_, le_rfl,
    le_rfl⟩
  · exact ⟨0, RoundRobinPacketQueue.consistent_initial now⟩
  · exact ⟨fun begun => (begun.elim (absurd rfl) nofun), id, le_rfl, le_rfl⟩
  · exact ⟨nofun, fun _ => nofun, fun _ => nofun⟩

/-- The clock may move on. -/
theorem Ready.later (ready : pacer.Ready now) {later : Int} (after : now ≤ later) :
    pacer.Ready later :=
  ⟨ready.queue, ready.clock.trans after, ready.started, ready.fit, ready.prober, ready.debt,
    ready.budget⟩

theorem Ready.setPacingRates (ready : pacer.Ready now) {pacingRate paddingRate : Int}
    (positive : 0 < pacingRate) (padding : 0 ≤ paddingRate) :
    (pacer.setPacingRates pacingRate paddingRate).Ready now := by
  refine ⟨ready.queue, ready.clock, ready.started,
    ⟨fun _ => ⟨positive, positive⟩, fun _ => positive, padding, ready.fit.overhead⟩, ready.prober,
    ready.debt, ?_⟩
  have kbps : 0 ≤ toThousands paddingRate := by
    unfold toThousands
    rw [if_pos padding]
    exact Int.tdiv_nonneg (by omega) (by decide)
  have window : (0 : Int) ≤ IntervalBudget.kWindowMs := by decide
  exact Int.tdiv_nonneg (Int.mul_nonneg window kbps) (by decide)

variable {queue : RoundRobinPacketQueue} (ready : pacer.Ready now)
include ready

/-- The queue may be replaced by one with the same packets. -/
theorem Ready.requeued {size next : Int}
    (same : RoundRobinPacketQueue.Refreshed (pacer.packetQueue.sized size) (queue.sized next))
    (clock : queue.timeLastUpdated ≤ now) : { pacer with packetQueue := queue }.Ready now := by
  refine ⟨⟨next, same.consistent⟩, clock, fun none => ?_, ready.fit, ready.prober, ready.debt,
    ready.budget⟩
  have count : queue.stamps.length = pacer.packetQueue.stamps.length := same.stamps.length_eq
  rw [sizePackets_eq ⟨next, same.consistent⟩, count, ← sizePackets_eq ready.queue]
  exact ready.started none

theorem Ready.setPaused (paused : Bool) :
    ∃ next, pacer.setPaused now paused = .ok next ∧ next.Ready now := by
  obtain ⟨size, consistent⟩ := ready.queue
  obtain ⟨queue, next, set, same, shape⟩ :=
    (RoundRobinPacketQueue.IgnoresSize.setPauseState paused now).exists_of
      (RoundRobinPacketQueue.setPauseState_spec consistent paused ready.clock)
  have clock : (queue.sized next).timeLastUpdated ≤ now := by
    rcases shape with same | same
    · rw [same]
      exact ready.clock
    · rw [same]
      exact le_rfl
  have requeued := ready.requeued same clock
  refine ⟨_, bind_eq_ok_iff.mpr ⟨queue, congrArg checked set, rfl⟩, ?_⟩
  exact ⟨requeued.queue, requeued.clock, requeued.started,
    ⟨ready.fit.rates, ready.fit.media, ready.fit.padding, ready.fit.overhead⟩, requeued.prober,
    requeued.debt, requeued.budget⟩

theorem Ready.setCongestion (window : Option Int)
    (outstandingData : Int) : (pacer.setCongestion now window outstandingData).Ready now := by
  have next : { pacer with congestionWindowSize := window, outstandingData }.Ready now :=
    ⟨ready.queue, ready.clock, ready.started, ready.fit, ready.prober, ready.debt, ready.budget⟩
  unfold PacingController.setCongestion
  dsimp only
  split_ifs
  · exact next.drain
  · exact next

theorem Ready.withCluster {bitrate : Int} (positive : 0 < bitrate)
    (clusterId : Int) : (pacer.createProbeCluster bitrate now clusterId).Ready now := by
  refine ⟨ready.queue, ready.clock, ready.started, ⟨fun begun => ready.fit.rates (begun.imp id ?_),
    ready.fit.media, ready.fit.padding, ready.fit.overhead⟩,
    ready.prober.createProbeCluster positive now clusterId, ready.debt, ready.budget⟩
  intro active
  unfold PacingController.createProbeCluster BitrateProber.createProbeCluster at active
  dsimp only at active
  split_ifs at active with wasActive
  exact wasActive

theorem Ready.setProbingEnabled (uncounted : pacer.packetCounter = 0)
    (enabled : Bool) : ∃ next, pacer.setProbingEnabled enabled = .ok next ∧ next.Ready now := by
  refine ⟨_, if_pos uncounted, ready.queue, ready.clock, ready.started,
    ⟨fun begun => ready.fit.rates (begun.imp id ?_), ready.fit.media, ready.fit.padding,
      ready.fit.overhead⟩, ready.prober.setEnabled enabled, ready.debt, ready.budget⟩
  intro active
  unfold BitrateProber.setEnabled at active
  dsimp only at active
  split_ifs at active
  exact active

/-- Overheads do not change which packets are in the queue. -/
theorem Ready.withOverhead {size next : Int}
    (same : RoundRobinPacketQueue.Refreshed (pacer.packetQueue.sized size) (queue.sized next))
    (clock : queue.timeLastUpdated = pacer.packetQueue.timeLastUpdated) {overhead : Int}
    (nonneg : 0 ≤ overhead) (includeOverhead : Bool) :
    { pacer with transportOverheadPerPacket := overhead, includeOverhead, packetQueue := queue }.Ready
      now := by
  have requeued := ready.requeued same (clock.le.trans ready.clock)
  exact ⟨requeued.queue, requeued.clock, requeued.started,
    ⟨ready.fit.rates, ready.fit.media, ready.fit.padding, nonneg⟩, requeued.prober, requeued.debt,
    requeued.budget⟩

/-- A call that is permitted leaves the controller ready. -/
theorem Ready.perform {call : PacerCall} (permitted : call.Permitted pacer) :
    ∃ next, call.perform now pacer = .ok next ∧ next.Ready now := by
  cases call with
  | setPacingRates pacingRate paddingRate =>
      exact ⟨_, rfl, ready.setPacingRates permitted.1 permitted.2⟩
  | enqueuePacket packet =>
      obtain ⟨next, enqueued, filled⟩ := enqueuePacket_spec ready
        ⟨ready.fit.media permitted.1, permitted.1⟩ permitted.2
      exact ⟨next, enqueued, filled.ready⟩
  | pause => exact ready.setPaused true
  | resume => exact ready.setPaused false
  | setCongestionWindow window => exact ⟨_, rfl, ready.setCongestion window _⟩
  | updateOutstandingData outstandingData => exact ⟨_, rfl, ready.setCongestion _ outstandingData⟩
  | createProbeCluster bitrate clusterId => exact ⟨_, rfl, ready.withCluster permitted clusterId⟩
  | setProbingEnabled enabled => exact ready.setProbingEnabled permitted enabled
  | setAccountForAudioPackets accountForAudio =>
      exact ⟨_, rfl, ready.queue, ready.clock, ready.started,
        ⟨ready.fit.rates, ready.fit.media, ready.fit.padding, ready.fit.overhead⟩, ready.prober,
        ready.debt, ready.budget⟩
  | setIncludeOverhead =>
      obtain ⟨queue, _, _, set, same, clock⟩ := ready.queue.setIncludeOverhead
      exact ⟨_, bind_eq_ok_iff.mpr ⟨queue, congrArg checked set, rfl⟩,
        ready.withOverhead same clock ready.fit.overhead true⟩
  | setTransportOverhead overheadPerPacket =>
      unfold PacerCall.perform PacingController.setTransportOverhead
      dsimp only
      split_ifs
      · exact ⟨pacer, rfl, ready⟩
      · obtain ⟨_, consistent⟩ := ready.queue
        obtain ⟨queue, _, set, same, clock, -⟩ :=
          (RoundRobinPacketQueue.IgnoresSize.setTransportOverhead overheadPerPacket).exists_of
            (RoundRobinPacketQueue.setTransportOverhead_spec consistent overheadPerPacket)
        exact ⟨_, bind_eq_ok_iff.mpr ⟨queue, congrArg checked set, rfl⟩,
          ready.withOverhead same clock permitted pacer.includeOverhead⟩
  | setQueueTimeLimit limit =>
      exact ⟨_, rfl, ready.queue, ready.clock, ready.started, ready.fit, ready.prober, ready.debt,
        ready.budget⟩

end PacingController

end MpWebRtc.Pacing
