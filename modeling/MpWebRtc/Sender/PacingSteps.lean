import MpWebRtc.Sender.PacingController
import MpWebRtc.Sender.RecountedSize

/-!
# What the steps of the pacing controller keep

A controller that is ready fails no check and divides by no zero: the queue is arranged and not
ahead of the clock, and the rates are set before the first packet is queued or probed with.
Each step is described by what it leaves alone, and by what it does to the queue.
-/

namespace MpWebRtc.Pacing

open Math.Checked Math.Rounds

/-- What is set from outside and stays as it is throughout the loop. -/
structure PacerSettings where
  mode : ProcessMode
  paddingTargetDuration : Int
  transportOverheadPerPacket : Int
  paused : Bool
  mediaRate : Int
  paddingRate : Int
  pacingBitrate : Int
  accountForAudio : Bool
  includeOverhead : Bool

namespace PacingController

def settings (pacer : PacingController) : PacerSettings where
  mode := pacer.mode
  paddingTargetDuration := pacer.paddingTargetDuration
  transportOverheadPerPacket := pacer.transportOverheadPerPacket
  paused := pacer.paused
  mediaRate := pacer.mediaRate
  paddingRate := pacer.paddingRate
  pacingBitrate := pacer.pacingBitrate
  accountForAudio := pacer.accountForAudio
  includeOverhead := pacer.includeOverhead

/-- `SetPacingRates` was called. -/
def RatesSet (settings : PacerSettings) : Prop :=
  0 < settings.mediaRate ∧ 0 < settings.pacingBitrate

/-- A packet was queued, or starts a probe. -/
def Begun (pacer : PacingController) : Prop :=
  pacer.packetCounter ≠ 0 ∨ pacer.prober.probingState = .active

/-- Rates and overheads are not negative, and the pacing rates are set before the first packet. -/
structure Fit (settings : PacerSettings) (begun : Prop) : Prop where
  rates : begun → RatesSet settings
  media : 0 < settings.pacingBitrate → 0 < settings.mediaRate
  padding : 0 ≤ settings.paddingRate
  overhead : 0 ≤ settings.transportOverheadPerPacket

/-- The invariant of the controller, with the clock at `now`. -/
structure Ready (now : Int) (pacer : PacingController) : Prop where
  queue : pacer.packetQueue.Arranged
  clock : pacer.packetQueue.timeLastUpdated ≤ now
  started : pacer.packetCounter = 0 → pacer.packetQueue.sizePackets = 0
  fit : Fit pacer.settings pacer.Begun
  prober : pacer.prober.Ready
  debt : 0 ≤ pacer.paddingDebt
  budget : 0 ≤ pacer.paddingBudget.maxBytesInBudget

variable {pacer : PacingController} {now : Int}

section Units

theorem dataAt_nonneg {rate duration : Int} (rateNonneg : 0 ≤ rate) (nonneg : 0 ≤ duration) :
    0 ≤ dataAt rate duration := by
  have := Int.mul_nonneg rateNonneg nonneg
  exact Int.tdiv_nonneg (by omega) (by decide)

end Units

section Budgets

/-- Only the budgets, the debts and the outstanding data differ. -/
structure Rebudgeted (pacer next : PacingController) : Prop where
  settings : next.settings = pacer.settings
  queue : next.packetQueue = pacer.packetQueue
  counter : next.packetCounter = pacer.packetCounter
  prober : next.prober = pacer.prober
  lastProcess : next.lastProcessTime = pacer.lastProcessTime
  lastSend : next.lastSendTime = pacer.lastSendTime
  debt : 0 ≤ pacer.paddingDebt → 0 ≤ next.paddingDebt
  budget : next.paddingBudget.maxBytesInBudget = pacer.paddingBudget.maxBytesInBudget

theorem Rebudgeted.ready {next : PacingController} (same : pacer.Rebudgeted next)
    (ready : pacer.Ready now) : next.Ready now := by
  refine ⟨?_, ?_, ?_, ?_, ?_, same.debt ready.debt, ?_⟩
  · exact same.queue ▸ ready.queue
  · exact same.queue ▸ ready.clock
  · rw [same.counter, same.queue]
    exact ready.started
  · unfold Begun
    rw [same.counter, same.settings, same.prober]
    exact ready.fit
  · exact same.prober ▸ ready.prober
  · rw [same.budget]
    exact ready.budget

theorem updateBudgetWithElapsedTime_spec (pacer : PacingController) (delta : Int) :
    pacer.Rebudgeted (pacer.updateBudgetWithElapsedTime delta) := by
  unfold updateBudgetWithElapsedTime
  split
  · refine ⟨rfl, rfl, rfl, rfl, rfl, rfl, id, ?_⟩
    dsimp only
    unfold IntervalBudget.increaseBudget
    split <;> rfl
  · exact ⟨rfl, rfl, rfl, rfl, rfl, rfl, fun _ => sub_nonneg.mpr (min_le_left ..), rfl⟩

theorem updateBudgetWithSentData_spec (pacer : PacingController) {size : Int} (nonneg : 0 ≤ size)
    (padding : 0 ≤ pacer.paddingRate) : pacer.Rebudgeted (pacer.updateBudgetWithSentData size) := by
  unfold updateBudgetWithSentData
  split
  · exact ⟨rfl, rfl, rfl, rfl, rfl, rfl, id, rfl⟩
  · exact ⟨rfl, rfl, rfl, rfl, rfl, rfl, fun debt =>
      le_min (Int.add_nonneg debt nonneg) (dataAt_nonneg padding (by decide)), rfl⟩

/-- The times of the last call and of the last packet do not matter. -/
theorem Ready.retimed (ready : pacer.Ready now) (lastProcessTime lastSendTime : Int)
    (firstSentPacketTime : Option Int) :
    { pacer with lastProcessTime, lastSendTime, firstSentPacketTime }.Ready now :=
  ⟨ready.queue, ready.clock, ready.started, ready.fit, ready.prober, ready.debt, ready.budget⟩

/-- `drain` sets the time of the last call, and only the budgets and debts besides. -/
theorem drain_spec (pacer : PacingController) (now : Int) :
    (pacer.updateTime now).Rebudgeted (pacer.drain now) :=
  updateBudgetWithElapsedTime_spec _ _

theorem Ready.drain (ready : pacer.Ready now) : (pacer.drain now).Ready now :=
  (pacer.drain_spec now).ready (ready.retimed now pacer.lastSendTime pacer.firstSentPacketTime)

theorem accountedSize_nonneg (ready : pacer.Ready now) (packet : Packet) :
    0 ≤ pacer.accountedSize packet ∧
      (0 < packet.payload.length + packet.paddingSize → 0 < pacer.accountedSize packet) := by
  have overhead : 0 ≤ pacer.transportOverheadPerPacket := ready.fit.overhead
  unfold accountedSize
  split_ifs <;> omega

end Budgets

section Times

theorem nextTimeByDebt_ok
    (rates : 0 < pacer.mediaRate) : ∃ time, pacer.nextTimeByDebt = .ok time := by
  unfold nextTimeByDebt
  split_ifs with media padding silent
  · exact ⟨_, bind_eq_ok_iff.mpr ⟨_, timeFor_ok rates _, rfl⟩⟩
  · exact ⟨_, bind_eq_ok_iff.mpr ⟨_, timeFor_ok rates _,
      bind_eq_ok_iff.mpr ⟨_, timeFor_ok padding.1 _, rfl⟩⟩⟩
  · exact ⟨_, rfl⟩
  · exact ⟨_, rfl⟩

variable (ready : pacer.Ready now)
include ready

theorem nextTimeWithoutProbe_ok : ∃ time, pacer.nextTimeWithoutProbe = .ok time := by
  unfold nextTimeWithoutProbe
  by_cases periodic : pacer.mode = .kPeriodic
  · exact ⟨_, if_pos periodic⟩
  · rw [if_neg periodic]
    split
    · exact ⟨_, rfl⟩
    · split_ifs with waits
      · exact ⟨_, rfl⟩
      · refine nextTimeByDebt_ok (ready.fit.rates (.inl fun none => waits ?_)).1
        rw [none]
        exact Bool.or_true _

/-- A controller that is ready knows when to send. -/
theorem nextSendTime_ok : ∃ time, pacer.nextSendTime now = .ok time := by
  unfold nextSendTime
  split_ifs
  · exact ⟨_, rfl⟩
  · split
    · exact ⟨_, rfl⟩
    · exact ⟨_, rfl⟩
    · obtain ⟨time, found⟩ := nextTimeWithoutProbe_ok ready
      exact ⟨some time, bind_eq_ok_iff.mpr ⟨time, found, rfl⟩⟩

theorem drainsBeforePush_ok :
    ∃ drains, pacer.drainsBeforePush now = .ok drains ∧
      (drains = true → pacer.mode = .kDynamic) := by
  unfold drainsBeforePush
  split_ifs with empty
  · obtain ⟨time, found⟩ := nextSendTime_ok ready
    exact ⟨_, bind_eq_ok_iff.mpr ⟨time, found, rfl⟩, fun _ => empty.1⟩
  · exact ⟨false, rfl, nofun⟩

end Times

section Queueing

/-- The packet has a size, and unless this is for a probe, sending it is accounted. -/
def Accounted (probing : Bool) (settings : PacerSettings) (packet : Packet) : Prop :=
  0 < packet.payload.length + packet.paddingSize ∧
    (probing = true ∨ packet.packetType ≠ some .kAudio ∨ settings.accountForAudio = true)

/-- The packet is in the queue; the debts may have been drained up to now. -/
structure Enqueued (now : Int) (packet : Packet) (pacer next : PacingController) : Prop where
  ready : next.Ready now
  settings : next.settings = pacer.settings
  stamps : ∃ arrived entered,
    next.packetQueue.stamps.Perm ((arrived, entered) :: pacer.packetQueue.stamps) ∧
      ∀ probing, Accounted probing pacer.settings packet → Accounted probing pacer.settings arrived
  counter : next.packetCounter = pacer.packetCounter + 1
  lastProcess : next.lastProcessTime = pacer.lastProcessTime ∨ next.lastProcessTime = now
  budget : pacer.mode = .kPeriodic → next.paddingBudget = pacer.paddingBudget
  probing : pacer.prober.probingState = .active → next.prober = pacer.prober

theorem Ready.withProber (ready : pacer.Ready now) (rates : RatesSet pacer.settings)
    (packetSize : Nat) :
    { pacer with prober := pacer.prober.onIncomingPacket packetSize }.Ready now :=
  ⟨ready.queue, ready.clock, ready.started,
    ⟨fun _ => rates, ready.fit.media, ready.fit.padding, ready.fit.overhead⟩, ready.prober.onIncomingPacket packetSize, ready.debt, ready.budget⟩

/-- Once the rates are set, packets can be queued. -/
theorem enqueuePacketInternal_spec (ready : pacer.Ready now) (rates : RatesSet pacer.settings)
    (packet : Packet) (priority : Int) :
    ∃ next, pacer.enqueuePacketInternal now packet priority = .ok next ∧
      Enqueued now packet pacer next := by
  have probed := ready.withProber rates packet.payload.length
  obtain ⟨drains, decided, dynamic⟩ := drainsBeforePush_ok probed
  generalize before : ({ pacer with
    prober := pacer.prober.onIncomingPacket packet.payload.length } : PacingController) = incoming
    at probed decided dynamic
  generalize isArrived : (if packet.captureTimeMs < 0 then
    { packet with captureTimeMs := toThousands now } else packet) = arrived
  have sameSize : ∀ probing, Accounted probing pacer.settings packet →
      Accounted probing pacer.settings arrived := by
    subst isArrived
    intro probing
    split_ifs <;> exact id
  generalize isDrained : (if drains then incoming.drain now else incoming) = drained
  have drainedReady : drained.Ready now := by
    subst isDrained
    split_ifs
    · exact probed.drain
    · exact probed
  have same : drained.settings = pacer.settings ∧ drained.packetQueue = pacer.packetQueue ∧
      drained.packetCounter = pacer.packetCounter ∧ drained.prober = incoming.prober ∧
      (drained.lastProcessTime = pacer.lastProcessTime ∨ drained.lastProcessTime = now) ∧
      (pacer.mode = .kPeriodic → drained.paddingBudget = pacer.paddingBudget) := by
    subst isDrained before
    split_ifs with isDrain
    · have effect := drain_spec ({ pacer with
        prober := pacer.prober.onIncomingPacket packet.payload.length } : PacingController) now
      refine ⟨effect.settings, effect.queue, effect.counter, effect.prober,
        .inr effect.lastProcess, fun periodic => ?_⟩
      cases (dynamic isDrain).symm.trans periodic
    · exact ⟨rfl, rfl, rfl, rfl, .inl rfl, fun _ => rfl⟩
  obtain ⟨settings, queue, counter, prober, lastProcess, budget⟩ := same
  obtain ⟨size, consistent⟩ := drainedReady.queue
  obtain ⟨pushed, sum, isPushed, spec⟩ :=
    (RoundRobinPacketQueue.IgnoresSize.push priority now drained.packetCounter arrived).exists_of
      (RoundRobinPacketQueue.push_spec consistent priority drainedReady.clock
        drained.packetCounter arrived)
  refine ⟨{ drained with packetQueue := pushed, packetCounter := drained.packetCounter + 1 }, ?_, ?_⟩
  · unfold enqueuePacketInternal
    dsimp only
    rw [before, isArrived, decided]
    change (checked ((if drains then incoming.drain now else incoming).packetQueue.push _ _ _ _) >>=
      _) = _
    rw [isDrained, isPushed]
    rfl
  · refine ⟨⟨⟨sum, spec.consistent⟩, spec.clock.le, nofun, ?_, drainedReady.prober, drainedReady.debt,
      drainedReady.budget⟩, settings, ?_, ?_, lastProcess, budget, ?_⟩
    · exact ⟨fun _ => settings ▸ rates, drainedReady.fit.media, drainedReady.fit.padding,
        drainedReady.fit.overhead⟩
    · exact ⟨arrived, _, queue ▸ spec.stamps, sameSize⟩
    · exact congrArg (· + 1) counter
    · intro active
      refine prober.trans ?_
      subst before
      exact BitrateProber.onIncomingPacket_eq_of_active active _

/-- The packets are in the queue. -/
structure Filled (now : Int) (packets : List Packet) (pacer next : PacingController) : Prop where
  ready : next.Ready now
  settings : next.settings = pacer.settings
  counted : next.packetCounter ≠ 0
  size : next.packetQueue.stamps.length = pacer.packetQueue.stamps.length + packets.length
  accounted : ∀ probing, (∀ packet ∈ packets, Accounted probing pacer.settings packet) →
    (∀ stamp ∈ pacer.packetQueue.stamps, Accounted probing pacer.settings stamp.1) →
      ∀ stamp ∈ next.packetQueue.stamps, Accounted probing pacer.settings stamp.1
  lastProcess : next.lastProcessTime = pacer.lastProcessTime ∨ next.lastProcessTime = now
  budget : pacer.mode = .kPeriodic → next.paddingBudget = pacer.paddingBudget
  probing : pacer.prober.probingState = .active → next.prober = pacer.prober

theorem Enqueued.filled {packet : Packet} {next : PacingController}
    (enqueued : Enqueued now packet pacer next) : Filled now [packet] pacer next := by
  obtain ⟨arrived, entered, perm, sameSize⟩ := enqueued.stamps
  refine ⟨enqueued.ready, enqueued.settings, ?_, perm.length_eq, ?_, enqueued.lastProcess,
    enqueued.budget, enqueued.probing⟩
  · rw [enqueued.counter]
    exact Nat.succ_ne_zero _
  · intro probing new old stamp member
    rcases List.mem_cons.mp (perm.subset member) with rfl | isOld
    · exact sameSize probing (new packet (.head _))
    · exact old stamp isOld

theorem Filled.trans {first later : List Packet} {middle last : PacingController}
    (filled : Filled now first pacer middle) (filled' : Filled now later middle last) :
    Filled now (first ++ later) pacer last := by
  have mode : middle.mode = pacer.mode := congrArg PacerSettings.mode filled.settings
  refine ⟨filled'.ready, filled'.settings.trans filled.settings, filled'.counted, ?_, ?_, ?_, ?_,
    ?_⟩
  · rw [filled'.size, filled.size, List.length_append, Nat.add_assoc]
  · intro probing all old
    have accounted := filled'.accounted probing
    rw [filled.settings] at accounted
    exact accounted (fun packet member => all packet (List.mem_append_right _ member))
      (filled.accounted probing (fun packet member => all packet (List.mem_append_left _ member))
        old)
  · rcases filled'.lastProcess with same | new
    · exact filled.lastProcess.imp same.trans same.trans
    · exact .inr new
  · exact fun periodic => (filled'.budget (mode.trans periodic)).trans (filled.budget periodic)
  · intro active
    have same := filled.probing active
    exact (filled'.probing (same ▸ active)).trans same

theorem enqueuePacket_spec (ready : pacer.Ready now) (rates : RatesSet pacer.settings)
    {packet : Packet} (typed : packet.packetType.isSome) :
    ∃ next, pacer.enqueuePacket now packet = .ok next ∧ Filled now [packet] pacer next := by
  obtain ⟨packetType, isType⟩ := Option.isSome_iff_exists.mp typed
  obtain ⟨next, enqueued, spec⟩ :=
    enqueuePacketInternal_spec ready rates packet (getPriorityForType packetType)
  refine ⟨next, ?_, spec.filled⟩
  unfold enqueuePacket
  rw [isType]
  exact enqueued

/-- All packets that have a type can be queued. -/
theorem enqueueAll_spec {packets : List Packet} (ready : pacer.Ready now)
    (counted : pacer.packetCounter ≠ 0) (typed : ∀ packet ∈ packets, packet.packetType.isSome) :
    ∃ next, pacer.enqueueAll now packets = .ok next ∧ Filled now packets pacer next := by
  induction packets generalizing pacer with
  | nil => exact ⟨pacer, rfl, ready, rfl, counted, rfl, fun _ _ old => old, .inl rfl, fun _ => rfl,
      fun _ => rfl⟩
  | cons packet packets ih =>
      obtain ⟨isTyped, typed'⟩ := List.forall_mem_cons.mp typed
      obtain ⟨middle, enqueued, filled⟩ :=
        enqueuePacket_spec ready (ready.fit.rates (.inl counted)) isTyped
      obtain ⟨next, rest, filled'⟩ := ih filled.ready filled.counted typed'
      refine ⟨next, ?_, filled.trans filled'⟩
      unfold enqueueAll
      rw [List.foldlM_cons, enqueued]
      exact rest

end Queueing

section Sending

variable {queue : RoundRobinPacketQueue}

theorem sizePackets_eq (arranged : queue.Arranged) : queue.sizePackets = queue.stamps.length := by
  obtain ⟨_, consistent⟩ := arranged
  unfold RoundRobinPacketQueue.stamps
  rw [List.length_map]
  exact consistent.count

theorem empty_iff (arranged : queue.Arranged) : queue.empty = true ↔ queue.stamps = [] := by
  unfold RoundRobinPacketQueue.empty
  rw [beq_iff_eq, sizePackets_eq arranged, List.length_eq_zero_iff]

section

variable (ready : pacer.Ready now)
include ready

theorem maySend_ok (counted : pacer.packetCounter ≠ 0)
    (pacingInfo : PacedPacketInfo) (targetSendTime : Int) :
    ∃ may, pacer.maySend pacingInfo targetSendTime now = .ok may := by
  unfold maySend
  dsimp only
  split_ifs with exempt congested early
  · exact ⟨_, rfl⟩
  · exact ⟨_, rfl⟩
  · split
    · exact ⟨_, rfl⟩
    · exact ⟨_, bind_eq_ok_iff.mpr ⟨_, timeFor_ok (ready.fit.rates (.inl counted)).1 _, rfl⟩⟩
  · split <;> exact ⟨_, rfl⟩

/-- What `GetPendingPacket` returns is the first packet of the queue. -/
theorem getPendingPacket_spec (pacingInfo : PacedPacketInfo) (targetSendTime : Int) :
    ∃ pending, pacer.getPendingPacket pacingInfo targetSendTime now = .ok pending ∧
      ∀ found ∈ pending,
        RoundRobinPacketQueue.Left pacer.packetQueue found.1 found.2 ∧
          pacer.packetCounter ≠ 0 := by
  unfold getPendingPacket
  by_cases empty : pacer.packetQueue.empty = true
  · exact ⟨none, if_pos empty, fun _ => nofun⟩
  · rw [if_neg empty]
    have waiting : pacer.packetQueue.sizePackets ≠ 0 := fun none => empty (beq_iff_eq.mpr none)
    have counted : pacer.packetCounter ≠ 0 := fun none => waiting (ready.started none)
    obtain ⟨may, decided⟩ := maySend_ok ready counted pacingInfo targetSendTime
    rw [decided]
    cases may with
    | false => exact ⟨none, rfl, fun _ => nofun⟩
    | true =>
        obtain ⟨packet, queue, popped, spec⟩ := ready.queue.pop waiting
        refine ⟨some (packet, queue), ?_, fun found member => ?_⟩
        · change (checked pacer.packetQueue.pop >>= _) = _
          rw [popped]
          rfl
        · obtain rfl := Option.some.inj member
          exact ⟨spec, counted⟩

theorem Ready.popped {packet : Packet} {queue : RoundRobinPacketQueue}
    (left : RoundRobinPacketQueue.Left pacer.packetQueue packet queue)
    (counted : pacer.packetCounter ≠ 0) : { pacer with packetQueue := queue }.Ready now := by
  obtain ⟨_, size, popped⟩ := left
  exact ⟨⟨size, popped.consistent⟩, popped.clock.le.trans ready.clock,
    fun none => absurd none counted, ready.fit, ready.prober, ready.debt, ready.budget⟩

/-- What `OnPacketSent` does: the times are set, and an accounted packet is paid for. -/
theorem onPacketSent_spec
    (packetType : Option RtpPacketMediaType) {size : Int} (nonneg : 0 ≤ size) (sendTime : Int) :
    (pacer.onPacketSent packetType size sendTime).Ready now ∧
      (pacer.onPacketSent packetType size sendTime).settings = pacer.settings ∧
      (pacer.onPacketSent packetType size sendTime).packetQueue = pacer.packetQueue ∧
      (pacer.onPacketSent packetType size sendTime).packetCounter = pacer.packetCounter ∧
      (pacer.onPacketSent packetType size sendTime).lastProcessTime = sendTime := by
  unfold onPacketSent
  have timed := ready.retimed pacer.lastProcessTime pacer.lastSendTime
    (pacer.firstSentPacketTime.or (some sendTime))
  dsimp only
  split_ifs
  · have same := updateBudgetWithSentData_spec ({ pacer with
      firstSentPacketTime := pacer.firstSentPacketTime.or (some sendTime) } : PacingController)
      nonneg ready.fit.padding
    exact ⟨(same.ready timed).retimed .., same.settings, same.queue, same.counter, rfl⟩
  · exact ⟨timed.retimed .., rfl, rfl, rfl, rfl⟩

end

/-- The padding that is left, or its debt, behind a packet. -/
theorem onPacketSent_padding (pacer : PacingController) (packetType : Option RtpPacketMediaType)
    (size sendTime : Int) :
    let next := pacer.onPacketSent packetType size sendTime
    if packetType ≠ some .kAudio ∨ pacer.accountForAudio = true then
      (pacer.mode = .kPeriodic → next.paddingBudget = pacer.paddingBudget.useBudget size) ∧
        (pacer.mode = .kDynamic → next.paddingDebt =
          min (pacer.paddingDebt + size) (dataAt pacer.paddingRate kMaxDebtInTime))
    else next.paddingBudget = pacer.paddingBudget ∧ next.paddingDebt = pacer.paddingDebt := by
  unfold onPacketSent updateBudgetWithSentData
  dsimp only
  split_ifs
  · split
    · rename_i mode
      refine ⟨fun _ => rfl, fun dynamic => ?_⟩
      cases mode.symm.trans dynamic
    · rename_i mode
      refine ⟨fun periodic => ?_, fun _ => rfl⟩
      cases mode.symm.trans periodic
  · exact ⟨rfl, rfl⟩

end Sending

end PacingController

end MpWebRtc.Pacing
