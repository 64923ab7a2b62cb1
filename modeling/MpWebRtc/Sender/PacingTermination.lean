import MpWebRtc.Sender.PacerCalls
import MpWebRtc.Sender.PacingRounds

/-!
# The send loop of the pacer ends

`ProcessPackets` of a controller that is ready comes to an end, whatever is in the queue and
whatever the rates are, if padding is accounted: it must not be audio that the pacer does not
account for, and the cap of the padding debt must be above zero if padding is wanted at all. Where
one of these fails there are controllers whose loop runs forever.
-/

namespace MpWebRtc.Pacing

open Math.Checked Math.Rounds PacingController

variable {Sender : Type} {io : PacketSender Sender} {now : Int} {pacer : PacingController}

namespace PacingController

section Before

theorem lateTarget_spec (ready : pacer.Ready now) (targetSendTime : Int) :
    (pacer.lateTarget targetSendTime).1.Ready now ∧
      (pacer.lateTarget targetSendTime).1.settings = pacer.settings ∧
      (pacer.lateTarget targetSendTime).1.prober = pacer.prober ∧
      (pacer.lateTarget targetSendTime).1.lastProcessTime = pacer.lastProcessTime ∧
      (pacer.lateTarget targetSendTime).2 ≤ max targetSendTime pacer.lastProcessTime := by
  unfold lateTarget
  split_ifs
  · have same := updateBudgetWithElapsedTime_spec pacer (pacer.lastProcessTime - targetSendTime)
    exact ⟨same.ready ready, same.settings, same.prober, same.lastProcess, le_max_right ..⟩
  · exact ⟨ready, rfl, rfl, rfl, le_max_left ..⟩

/-- A target time is not later than now, or than the last call; or else it is too early. -/
theorem aim_spec (ready : pacer.Ready now) :
    ∃ how, pacer.aim now = .ok how ∧ how.Meets
      (fun aimed => aimed.1.Ready now ∧ aimed.1.settings = pacer.settings ∧
        aimed.1.prober = pacer.prober ∧ aimed.1.lastProcessTime = pacer.lastProcessTime ∧
        aimed.2 ≤ max now pacer.lastProcessTime)
      (fun after => after.Ready now ∧ after.lastProcessTime = now) := by
  have aimed : ∀ time, time ≤ now → (pacer.lateTarget time).1.Ready now ∧
      (pacer.lateTarget time).1.settings = pacer.settings ∧
      (pacer.lateTarget time).1.prober = pacer.prober ∧
      (pacer.lateTarget time).1.lastProcessTime = pacer.lastProcessTime ∧
      (pacer.lateTarget time).2 ≤ max now pacer.lastProcessTime := by
    intro time inTime
    obtain ⟨ready', settings, prober, last, target⟩ := lateTarget_spec ready time
    exact ⟨ready', settings, prober, last, target.trans (max_le_max_right _ inTime)⟩
  unfold aim
  split
  · exact ⟨_, rfl, ready, rfl, rfl, rfl, le_max_left ..⟩
  · obtain ⟨time, found⟩ := nextSendTime_ok ready
    rw [found]
    cases time with
    | none => exact ⟨_, rfl, aimed now le_rfl⟩
    | some time =>
        by_cases early : now < time
        · exact ⟨_, if_pos early, ready.drain, (pacer.drain_spec now).lastProcess⟩
        · exact ⟨_, if_neg early, aimed time (not_lt.mp early)⟩

/-- A keepalive leaves the settings and the prober alone, and is sent now. -/
theorem sendKeepalive_spec (ready : pacer.Ready now) (sender : Sender) :
    (pacer.sendKeepalive io now sender).1.Ready now ∧
      (pacer.sendKeepalive io now sender).1.settings = pacer.settings ∧
      (pacer.sendKeepalive io now sender).1.prober = pacer.prober ∧
      ((pacer.sendKeepalive io now sender).1.lastProcessTime = pacer.lastProcessTime ∨
        (pacer.sendKeepalive io now sender).1.lastProcessTime = now) := by
  unfold sendKeepalive
  split_ifs
  · exact ⟨ready.retimed .., rfl, rfl, .inl rfl⟩
  · unfold onPaddingSent
    dsimp only
    split_ifs with sent
    · have same := updateBudgetWithSentData_spec pacer sent.le ready.fit.padding
      exact ⟨(same.ready ready).retimed .., same.settings, same.prober, .inr rfl⟩
    · exact ⟨ready.retimed .., rfl, rfl, .inr rfl⟩
  · exact ⟨ready, rfl, rfl, .inl rfl⟩

theorem drainRate_le (pacer : PacingController) : pacer.pacingBitrate ≤ pacer.drainRate := by
  unfold drainRate
  split_ifs
  · exact le_max_left ..
  · exact le_rfl

variable (ready : pacer.Ready now)
include ready

/-- The queue time is brought up to date, and the rate is at least the pacing rate. -/
theorem updateRate_spec :
    ∃ next rate, pacer.updateRate now = .ok (next, rate) ∧ next.Ready now ∧
      next.settings = pacer.settings ∧ next.prober = pacer.prober ∧
      next.lastProcessTime = pacer.lastProcessTime ∧ next.pacingBitrate ≤ rate := by
  unfold updateRate
  split_ifs
  · have updated := RoundRobinPacketQueue.updateQueueTime_eq ready.clock
    refine ⟨_, _, bind_eq_ok_iff.mpr ⟨_, congrArg checked updated, rfl⟩,
      ⟨ready.queue.imp fun _ consistent => consistent.advance now, le_rfl, ready.started, ready.fit, ready.prober, ready.debt,
        ready.budget⟩, rfl, rfl, rfl, drainRate_le _⟩
  · exact ⟨pacer, pacer.pacingBitrate, rfl, ready, rfl, rfl, rfl, le_rfl⟩

theorem Ready.withMediaRate {rate : Int}
    (le : pacer.pacingBitrate ≤ rate) : { pacer with mediaRate := rate }.Ready now :=
  ⟨ready.queue, ready.clock, ready.started,
    ⟨fun begun => ⟨(ready.fit.rates begun).2.trans_le le, (ready.fit.rates begun).2⟩,
      fun positive => positive.trans_le le, ready.fit.padding, ready.fit.overhead⟩,
    ready.prober, ready.debt, ready.budget⟩

theorem Ready.withMediaBudget (budget : IntervalBudget) :
    { pacer with mediaBudget := budget }.Ready now :=
  ⟨ready.queue, ready.clock, ready.started, ready.fit, ready.prober, ready.debt, ready.budget⟩

/-- Of the settings, only the media rate may follow the elapsed time. -/
theorem accountElapsed_spec (elapsed : Int) :
    ∃ next, pacer.accountElapsed now elapsed = .ok next ∧ next.Ready now ∧
      next.settings = { pacer.settings with mediaRate := next.mediaRate } ∧
      next.prober = pacer.prober ∧ next.lastProcessTime = pacer.lastProcessTime := by
  unfold accountElapsed
  split_ifs
  · obtain ⟨current, rate, updated, ready', settings, prober, lastProcess, le⟩ :=
      updateRate_spec ready
    rw [updated, ← settings, ← prober, ← lastProcess]
    cases pacer.mode with
    | kPeriodic =>
        have same := updateBudgetWithElapsedTime_spec ({ current with
          mediaBudget := current.mediaBudget.setTargetRateKbps (toThousands rate) } :
            PacingController) elapsed
        refine ⟨_, rfl, same.ready (ready'.withMediaBudget _), ?_, same.prober, same.lastProcess⟩
        have mediaRate := congrArg PacerSettings.mediaRate same.settings
        refine same.settings.trans ?_
        exact congrArg (fun rate => { current.settings with mediaRate := rate }) mediaRate.symm
    | kDynamic => exact ⟨_, rfl, ready'.withMediaRate le, rfl, rfl, rfl⟩
  · exact ⟨pacer, rfl, ready, rfl, rfl, rfl⟩

/-- Whoever probes has a cluster to probe for. -/
theorem probeCall_spec :
    ∃ call first, pacer.probeCall now = .ok (call, first) ∧ call.now = now ∧
      (call.recommendedProbeSize = none → pacer.prober.isProbing = false) ∧
      (first = true → RatesSet pacer.settings) := by
  unfold probeCall
  split_ifs with probing
  · have active : pacer.prober.probingState = .active := of_decide_eq_true probing
    obtain ⟨cluster, rest, shape⟩ := List.exists_cons_of_ne_nil (ready.prober.active active)
    rw [shape]
    exact ⟨_, _, rfl, rfl, nofun, fun _ => ready.fit.rates (.inr active)⟩
  · exact ⟨_, _, rfl, rfl, fun _ => eq_false_of_ne_true probing, nofun⟩

end Before

section Behind

variable {call : SendCall} {bound : Int} {loop : SendLoop Sender}

theorem Ready.withProbeResult (ready : pacer.Ready now) {prober : BitrateProber}
    (isReady : prober.Ready)
    (active : prober.probingState = .active → pacer.prober.probingState = .active)
    (failure : Bool) : { pacer with probingSendFailure := failure, prober }.Ready now :=
  ⟨ready.queue, ready.clock, ready.started,
    ⟨fun begun => ready.fit.rates (begun.imp id active), ready.fit.media, ready.fit.padding,
      ready.fit.overhead⟩,
    isReady, ready.debt, ready.budget⟩

/-- Behind the loop the time of the call is not behind its bound. -/
theorem finish_spec (holds : loop.Holds call bound) (isProbing : Bool) :
    ∃ after, loop.finish call isProbing = .ok after ∧ after.1.Ready call.now ∧
      after.1.lastProcessTime ≤ bound := by
  have ready := holds.ready.retimed (max loop.pacer.lastProcessTime loop.previousProcessTime)
    loop.pacer.lastSendTime loop.pacer.firstSentPacketTime
  have last := max_le holds.last holds.previous
  unfold SendLoop.finish
  dsimp only
  split_ifs with probing none
  · exact ⟨_, rfl, ready.withProbeResult ready.prober id true, last⟩
  · obtain ⟨prober, sent, isReady, wasActive⟩ := ready.prober.probeSent call.now loop.dataSent
    exact ⟨_, bind_eq_ok_iff.mpr ⟨prober, sent, rfl⟩,
      ready.withProbeResult isReady wasActive false, last⟩
  · exact ⟨_, rfl, ready, last⟩

end Behind

/-- What is behind a call: a controller that is ready again. -/
def Returns (now bound : Int) (after : PacingController × Sender) : Prop :=
  after.1.Ready now ∧ after.1.lastProcessTime ≤ bound

/-- A call from a target time returns at once, or when its loop ends. -/
theorem processFrom_spec (ready : pacer.Ready now) {bound targetSendTime : Int}
    (atNow : now ≤ bound) (target : targetSendTime ≤ bound) (last : pacer.lastProcessTime ≤ bound)
    (io : PacketSender Sender) (sender : Sender) :
    (∃ after, Returns now bound after ∧
      ∀ rounds, pacer.processFrom io now rounds targetSendTime sender = .ok (some after)) ∨
    ∃ call loop isProbing, call.now = now ∧ loop.Holds call bound ∧
      ((pacer.prober.isProbing = false → io.Tame pacer.settings) → loop.Tamed io call) ∧
      ∀ rounds, pacer.processFrom io now rounds targetSendTime sender = do
        match ← run (SendLoop.round io call) rounds loop with
        | none => return none
        | some loop => return some (← loop.finish call isProbing) := by
  have timed := ready.retimed now pacer.lastSendTime pacer.firstSentPacketTime
  obtain ⟨aliveReady, settings, prober, alive⟩ := @sendKeepalive_spec _ io _ _ timed sender
  have aliveLast : ((pacer.updateTime now).sendKeepalive io now sender).1.lastProcessTime ≤
      bound := by
    rcases alive with same | new
    · exact same.le.trans atNow
    · exact new.le.trans atNow
  by_cases paused : ((pacer.updateTime now).sendKeepalive io now sender).1.paused = true
  · exact .inl ⟨_, ⟨aliveReady, aliveLast⟩, fun _ => if_pos paused⟩
  · obtain ⟨accounted, elapsed, accountedReady, settings', prober', last'⟩ :=
      accountElapsed_spec aliveReady (pacer.elapsedTime now)
    obtain ⟨call, first, planned, atTime, unprobed, rates⟩ := probeCall_spec accountedReady
    refine .inr ⟨call,
      { pacer := accounted
        sender := ((pacer.updateTime now).sendKeepalive io now sender).2
        targetSendTime := targetSendTime
        previousProcessTime := pacer.lastProcessTime
        firstPacketInProbe := first }, accounted.prober.isProbing, atTime, ?_, ?_, fun rounds => ?_⟩
    · exact ⟨atTime ▸ accountedReady, target, last, last'.le.trans aliveLast, rates⟩
    · intro tame none
      have unprobed' : pacer.prober.isProbing = false := by
        have := unprobed none
        rw [prober', prober] at this
        exact this
      dsimp only
      rw [settings', settings]
      exact ⟨(tame unprobed').accounted, (tame unprobed').capped⟩
    · refine (if_neg paused).trans ?_
      have elapsed' : ((pacer.updateTime now).sendKeepalive io now sender).1.accountElapsed now
        (pacer.elapsedTime now) = .ok accounted := elapsed
      rw [elapsed']
      change (probeCall now accounted >>= _) = _
      rw [planned]
      rfl

theorem processPackets_spec (ready : pacer.Ready now) (io : PacketSender Sender) (sender : Sender) :
    (∃ after, Returns now (max now pacer.lastProcessTime) after ∧
      ∀ rounds, pacer.processPackets io now rounds sender = .ok (some after)) ∨
    ∃ call loop isProbing, call.now = now ∧ loop.Holds call (max now pacer.lastProcessTime) ∧
      ((pacer.prober.isProbing = false → io.Tame pacer.settings) → loop.Tamed io call) ∧
      ∀ rounds, pacer.processPackets io now rounds sender = do
        match ← run (SendLoop.round io call) rounds loop with
        | none => return none
        | some loop => return some (← loop.finish call isProbing) := by
  obtain ⟨how, planned, meets⟩ := aim_spec ready
  cases how with
  | exit after =>
      obtain ⟨afterReady, time⟩ := meets
      exact .inl ⟨(after, sender), ⟨afterReady, time.le.trans (le_max_left ..)⟩,
        fun _ => congrArg (· >>= _) planned⟩
  | next aimed =>
      obtain ⟨aimedReady, settings, prober, last, target⟩ := meets
      have processed : ∀ rounds, pacer.processPackets io now rounds sender =
          aimed.1.processFrom io now rounds aimed.2 sender :=
        fun _ => congrArg (· >>= _) planned
      simp only [processed]
      rw [← settings, ← prober]
      exact processFrom_spec aimedReady (le_max_left ..) target (last.le.trans (le_max_right ..)) io
        sender

/-- If padding is tame then `ProcessPackets` ends. -/
theorem processPackets_returns (lawful : io.Lawful) (ready : pacer.Ready now)
    (tame : pacer.prober.isProbing = false → io.Tame pacer.settings) (sender : Sender) :
    ∃ rounds after, pacer.processPackets io now rounds sender = .ok (some after) ∧
      Returns now (max now pacer.lastProcessTime) after := by
  rcases processPackets_spec ready io sender with ⟨after, returns, processed⟩ | looping
  · exact ⟨0, after, processed 0, returns⟩
  · obtain ⟨call, loop, isProbing, rfl, holds, tamed, processed⟩ := looping
    obtain ⟨rounds, last, ran, done⟩ := SendLoop.run_spec lawful (le_max_left ..) holds (tamed tame)
    obtain ⟨after, finished, returns⟩ := finish_spec done isProbing
    refine ⟨rounds, after, (processed rounds).trans ?_, returns⟩
    exact bind_eq_ok_iff.mpr ⟨some last, ran, bind_eq_ok_iff.mpr ⟨after, finished, rfl⟩⟩

/-- Whenever `ProcessPackets` ends, the controller is ready again. -/
theorem processPackets_ready (lawful : io.Lawful) (ready : pacer.Ready now) {sender : Sender}
    {rounds : Nat} {after : PacingController × Sender}
    (ended : pacer.processPackets io now rounds sender = .ok (some after)) : after.1.Ready now := by
  rcases processPackets_spec ready io sender with ⟨other, returns, processed⟩ | looping
  · obtain rfl := Option.some.inj (Except.ok.inj ((processed rounds).symm.trans ended))
    exact returns.1
  · obtain ⟨call, loop, isProbing, rfl, holds, -, processed⟩ := looping
    obtain ⟨last, ran, rest⟩ := bind_eq_ok_iff.mp ((processed rounds).symm.trans ended)
    cases last with
    | none => cases rest
    | some last =>
        have done := SendLoop.run_keeps lawful (le_max_left ..) holds ran
        obtain ⟨other, finished, returns⟩ := finish_spec done isProbing
        obtain ⟨found, finished', same⟩ := bind_eq_ok_iff.mp rest
        obtain rfl := Except.ok.inj (finished.symm.trans finished')
        obtain rfl := Option.some.inj (Except.ok.inj same)
        exact returns.1

end PacingController

/-- The states of a controller and its sender, with the clock at `now`: calls follow each other as
they are permitted, `ProcessPackets` among them if it ended, and the sender changes in between. -/
inductive Reachable (io : PacketSender Sender) : Int → PacingController → Sender → Prop
  | create (trials : PacerTrials) (mode : ProcessMode) (now : Int) (sender : Sender) :
      Reachable io now (create trials mode now) sender
  | later {now : Int} {pacer : PacingController} {sender : Sender}
      (reachable : Reachable io now pacer sender) {later : Int} (after : now ≤ later)
      (changed : Sender) : Reachable io later pacer changed
  | call {now : Int} {pacer : PacingController} {sender : Sender}
      (reachable : Reachable io now pacer sender) {call : PacerCall}
      (permitted : call.Permitted pacer) {next : PacingController}
      (performed : call.perform now pacer = .ok next) : Reachable io now next sender
  | process {now : Int} {pacer : PacingController} {sender : Sender}
      (reachable : Reachable io now pacer sender) {rounds : Nat}
      {after : PacingController × Sender}
      (ended : pacer.processPackets io now rounds sender = .ok (some after)) :
      Reachable io now after.1 after.2

theorem Reachable.ready (lawful : io.Lawful) {sender : Sender}
    (reachable : Reachable io now pacer sender) : pacer.Ready now := by
  induction reachable with
  | create trials mode now sender => exact ready_create trials mode now
  | later _ after _ ih => exact ih.later after
  | call _ permitted performed ih =>
      obtain ⟨next, performed', ready⟩ := ih.perform permitted
      obtain rfl := Except.ok.inj (performed.symm.trans performed')
      exact ready
  | process _ ended ih => exact processPackets_ready lawful ih ended

/-- `ProcessPackets` ends, and then the time of the last call is not later than now or than it was,
if padding is accounted and its debt not capped at zero; a probe needs neither. -/
theorem processPackets_ends (lawful : io.Lawful) {sender : Sender}
    (reachable : Reachable io now pacer sender)
    (tame : pacer.prober.isProbing = false → io.Tame pacer.settings) :
    ∃ rounds after, pacer.processPackets io now rounds sender = .ok (some after) ∧
      after.1.lastProcessTime ≤ max now pacer.lastProcessTime := by
  obtain ⟨rounds, after, processed, returns⟩ :=
    processPackets_returns lawful (reachable.ready lawful) tame sender
  exact ⟨rounds, after, processed, returns.2⟩

section Forever

variable (packetType : RtpPacketMediaType)

/-- A packet of one byte. -/
def bytePacket : Packet where
  ssrc := 1
  sequenceNumber := 0
  payloadType := 96
  headersSize := 12
  payload := []
  paddingSize := 1
  packetType := some packetType

/-- The sender that has one byte of padding for every request, once it has any. -/
def byteSender : PacketSender Bool where
  generatePadding := fun any _ => (if any then [bytePacket packetType] else [], any)
  sendPacket := fun any _ _ => any

theorem byteSender_spec {packetType : RtpPacketMediaType} {any : Bool} {size : Int}
    {packet : Packet} (member : packet ∈ ((byteSender packetType).generatePadding any size).1) :
    packet = bytePacket packetType := by
  cases any with
  | false => cases member
  | true => exact List.mem_singleton.mp member

theorem byteSender_lawful : (byteSender packetType).Lawful := by
  intro _ _ packet member
  rw [byteSender_spec member]
  exact ⟨rfl, Nat.zero_lt_one⟩

/-- A dynamic pacer with the default padding target ends; it has a packet to send, and its
overhead was included by two streams. -/
theorem processPackets_ends_default :
    ∃ pacer, [PacerCall.setPacingRates 100000000 800000, .enqueuePacket (bytePacket .kVideo),
        .setIncludeOverhead, .setIncludeOverhead].foldlM (PacerCall.perform 900000)
          (create {} .kDynamic 900000) = .ok pacer ∧
      pacer.processPackets (byteSender .kPadding) 900000 0 true = .ok none ∧
      ∃ rounds after, pacer.processPackets (byteSender .kPadding) 900000 rounds true =
          .ok (some after) ∧
        after.1.lastProcessTime ≤ max 900000 pacer.lastProcessTime := by
  have created : Reachable (byteSender .kPadding) 900000 (create {} .kDynamic 900000) true :=
    .create {} .kDynamic 900000 true
  have rated := @Reachable.call _ _ _ _ _ created (.setPacingRates 100000000 800000)
    ⟨by decide, by decide⟩ _ rfl
  have queued := @Reachable.call _ _ _ _ _ rated (.enqueuePacket (bytePacket .kVideo))
    ⟨by decide, rfl⟩ _ rfl
  have included := @Reachable.call _ _ _ _ _ queued .setIncludeOverhead trivial _ rfl
  have again := @Reachable.call _ _ _ _ _ included .setIncludeOverhead trivial _ rfl
  refine ⟨_, rfl, rfl, processPackets_ends (byteSender_lawful .kPadding) again (fun _ => ⟨?_, ?_⟩)⟩
  · intro _ _ packet member
    rw [byteSender_spec member]
    exact .inl (by decide)
  · intro _ _
    decide

def queueAt (now : Int) : RoundRobinPacketQueue := { timeLastUpdated := now }

def byteQueue (now : Int) (packetType : RtpPacketMediaType) (order : Nat) :
    RoundRobinPacketQueue where
  timeLastUpdated := now
  sizePackets := 1
  size := 1
  singlePacketQueue :=
    some ⟨getPriorityForType packetType, now, order, none, bytePacket packetType⟩

variable (packetCounter : Nat)

/-- Seven bits a second are rounded to one byte in the padding target of 600 ms, but to none in
500 ms. -/
def slowPadding (mediaDebt lastProcessTime outstandingData : Int)
    (firstSentPacketTime : Option Int) (packetQueue : RoundRobinPacketQueue) :
    PacingController where
  mode := .kDynamic
  paddingTargetDuration := 600000
  mediaDebt := mediaDebt
  mediaRate := 100000000
  paddingRate := 7
  pacingBitrate := 100000000
  lastProcessTime := lastProcessTime
  lastSendTime := 900000
  firstSentPacketTime := firstSentPacketTime
  packetQueue := packetQueue
  packetCounter := packetCounter
  outstandingData := outstandingData

/-- One packet is sent, and for some time there is no padding. -/
theorem slowPadding_reachable :
    Reachable (byteSender .kPadding) 1000000
      (slowPadding 1 1 900000 1 (some 900000) (queueAt 900000)) true := by
  have created : Reachable (byteSender .kPadding) 900000
      (create { paddingTargetDuration := 600000 } .kDynamic 900000) false := .create _ _ _ _
  have permitted : (PacerCall.setPacingRates 100000000 7).Permitted
      (create { paddingTargetDuration := 600000 } .kDynamic 900000) := ⟨by decide, by decide⟩
  have rated : Reachable (byteSender .kPadding) 900000
      (slowPadding 0 0 900000 0 none (queueAt 900000)) false := created.call permitted rfl
  have permitted' : (PacerCall.enqueuePacket (bytePacket .kVideo)).Permitted
      (slowPadding 0 0 900000 0 none (queueAt 900000)) := ⟨by decide, rfl⟩
  have queued : Reachable (byteSender .kPadding) 900000
      (slowPadding 1 0 900000 0 none (byteQueue 900000 .kVideo 0)) false :=
    rated.call permitted' rfl
  have ended : (slowPadding 1 0 900000 0 none (byteQueue 900000 .kVideo 0)).processPackets
      (byteSender .kPadding) 900000 2 false =
        .ok (some (slowPadding 1 1 900000 1 (some 900000) (queueAt 900000), false)) := by
    rfl
  exact (queued.process ended).later (by decide) true

def slowLoop (pacer : PacingController) (dataSent : Int) : SendLoop Bool where
  pacer := pacer
  sender := true
  targetSendTime := 900000
  previousProcessTime := 900000
  dataSent := dataSent

/-- The loop with slow padding: at its start, with a packet of padding and behind it. The debt from
before the call is drained in the second turn. -/
inductive SlowCycle : SendLoop Bool → Prop
  | start : SlowCycle (slowLoop (slowPadding 1 1 1000000 1 (some 900000) (queueAt 900000)) 0)
  | firstPadded : SlowCycle (slowLoop (slowPadding 2 1 1000000 1 (some 900000)
      (byteQueue 1000000 .kPadding 1)) 0)
  | firstDrained : SlowCycle (slowLoop (slowPadding 2 2 900000 2 (some 900000) (queueAt 1000000)) 1)
  | padded (order counter : Nat) (outstanding sent : Int) :
      SlowCycle (slowLoop (slowPadding (counter + 1) 0 1000000 outstanding (some 900000)
        (byteQueue 1000000 .kPadding order)) sent)
  | drained (counter : Nat) (outstanding sent : Int) :
      SlowCycle (slowLoop (slowPadding (counter + 1) 1 900000 outstanding (some 900000)
        (queueAt 1000000)) sent)

theorem SlowCycle.next (loop : SendLoop Bool) (cycle : SlowCycle loop) :
    ∃ next, loop.round (byteSender .kPadding) { now := 1000000 } = .ok (.next next) ∧
      SlowCycle next := by
  cases cycle with
  | start => exact ⟨_, rfl, .firstPadded⟩
  | firstPadded => exact ⟨_, rfl, .firstDrained⟩
  | firstDrained => exact ⟨_, rfl, .padded 2 2 2 1⟩
  | drained counter outstanding sent =>
      exact ⟨_, rfl, .padded (counter + 1) (counter + 1) outstanding sent⟩
  | padded order counter outstanding sent =>
      have pending : (slowPadding (counter + 1) 0 1000000 outstanding (some 900000)
          (byteQueue 1000000 .kPadding order)).getPendingPacket {} 900000 1000000 =
            .ok (some (bytePacket .kPadding, queueAt 1000000)) := rfl
      have target : (slowLoop (slowPadding (counter + 1) 1 900000 (outstanding + 1) (some 900000)
          (queueAt 1000000)) (sent + 1)).nextTarget { now := 1000000 } = .ok 900000 := rfl
      refine ⟨_, ?_, .drained counter (outstanding + 1) (sent + 1)⟩
      exact bind_eq_ok_iff.mpr ⟨_, rfl, bind_eq_ok_iff.mpr ⟨_, pending,
        bind_eq_ok_iff.mpr ⟨_, target, rfl⟩⟩⟩

/-- Audio that is not accounted, in periodic mode with a padding budget. -/
def audioPadding (packetQueue : RoundRobinPacketQueue) : PacingController where
  mode := .kPeriodic
  mediaBudget := ⟨1000, 62500, 3749⟩
  paddingBudget := ⟨100, 6250, 374⟩
  mediaRate := 1000000
  paddingRate := 100000
  pacingBitrate := 1000000
  lastProcessTime := 1000000
  lastSendTime := 1000000
  firstSentPacketTime := some 1000000
  packetQueue := packetQueue
  packetCounter := packetCounter
  outstandingData := 1

theorem audioPadding_reachable :
    Reachable (byteSender .kAudio) 1000000 (audioPadding 1 (queueAt 1000000)) true := by
  have created : Reachable (byteSender .kAudio) 900000 (create {} .kPeriodic 900000) false :=
    .create _ _ _ _
  have permitted : (PacerCall.setPacingRates 1000000 100000).Permitted
      (create {} .kPeriodic 900000) := ⟨by decide, by decide⟩
  have rated := created.call permitted rfl
  have permitted' : (PacerCall.enqueuePacket (bytePacket .kVideo)).Permitted
      ((create {} .kPeriodic 900000).setPacingRates 1000000 100000) := ⟨by decide, rfl⟩
  have queued := (rated.call permitted' rfl).later (show (900000 : Int) ≤ 1000000 by decide) false
  have ended : ({ (create {} .kPeriodic 900000).setPacingRates 1000000 100000 with
      packetQueue := byteQueue 900000 .kVideo 0
      packetCounter := 1 } : PacingController).processPackets (byteSender .kAudio) 1000000 2 false =
        .ok (some (audioPadding 1 (queueAt 1000000), false)) := by
    rfl
  exact (queued.process ended).later le_rfl true

def audioLoop (pacer : PacingController) (dataSent : Int) : SendLoop Bool where
  pacer := pacer
  sender := true
  targetSendTime := 1000000
  previousProcessTime := 1000000
  dataSent := dataSent

inductive AudioCycle : SendLoop Bool → Prop
  | idle (counter : Nat) (sent : Int) :
      AudioCycle (audioLoop (audioPadding (counter + 1) (queueAt 1000000)) sent)
  | padded (order counter : Nat) (sent : Int) :
      AudioCycle (audioLoop (audioPadding (counter + 1) (byteQueue 1000000 .kAudio order)) sent)

theorem AudioCycle.next (loop : SendLoop Bool) (cycle : AudioCycle loop) :
    ∃ next, loop.round (byteSender .kAudio) { now := 1000000 } = .ok (.next next) ∧
      AudioCycle next := by
  cases cycle with
  | idle counter sent => exact ⟨_, rfl, .padded (counter + 1) (counter + 1) sent⟩
  | padded order counter sent => exact ⟨_, rfl, .idle counter (sent + 1)⟩

/-- The loop can go on forever: with padding whose debt is capped at zero, and with padding that is
audio which is not accounted. -/
theorem padding_can_go_on_forever :
    ((byteSender .kPadding).Lawful ∧ Reachable (byteSender .kPadding) 1000000
        (slowPadding 1 1 900000 1 (some 900000) (queueAt 900000)) true ∧
      ∀ rounds, (slowPadding 1 1 900000 1 (some 900000) (queueAt 900000)).processPackets
        (byteSender .kPadding) 1000000 rounds true = .ok none) ∧
    ((byteSender .kAudio).Lawful ∧ Reachable (byteSender .kAudio) 1000000
        (audioPadding 1 (queueAt 1000000)) true ∧
      ∀ rounds, (audioPadding 1 (queueAt 1000000)).processPackets (byteSender .kAudio) 1000000
        rounds true = .ok none) := by
  refine ⟨⟨byteSender_lawful _, slowPadding_reachable, fun rounds => ?_⟩, byteSender_lawful _,
    audioPadding_reachable, fun rounds => ?_⟩
  · have forever := runs_forever SlowCycle.next .start rounds
    refine bind_eq_ok_iff.mpr
      ⟨.next (slowPadding 1 1 900000 1 (some 900000) (queueAt 900000), 900000), rfl, ?_⟩
    exact bind_eq_ok_iff.mpr ⟨slowPadding 1 1 1000000 1 (some 900000) (queueAt 900000), rfl,
      bind_eq_ok_iff.mpr ⟨({ now := 1000000 }, false), rfl,
        bind_eq_ok_iff.mpr ⟨none, forever, rfl⟩⟩⟩
  · have forever := runs_forever AudioCycle.next (.idle 0 0) rounds
    refine bind_eq_ok_iff.mpr ⟨.next (audioPadding 1 (queueAt 1000000), 1000000), rfl, ?_⟩
    exact bind_eq_ok_iff.mpr ⟨audioPadding 1 (queueAt 1000000), rfl,
      bind_eq_ok_iff.mpr ⟨({ now := 1000000 }, false), rfl,
        bind_eq_ok_iff.mpr ⟨none, forever, rfl⟩⟩⟩

end Forever

end MpWebRtc.Pacing
