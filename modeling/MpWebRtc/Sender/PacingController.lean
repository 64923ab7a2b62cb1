import MpWebRtc.Math.Rounds
import MpWebRtc.Sender.BitrateProber
import MpWebRtc.Sender.PacerQueue

/-!
# The pacing controller

`PacingController::ProcessPackets` sends queued packets, and padding where there are none, as far as
the budgets or the debts of its mode allow. The clock reads `now` throughout a call. The packet
sender is a parameter with a state of its own, which does not reach the controller.

The congestion window is `none` where it is unlimited.
-/

namespace MpWebRtc.Pacing

open Math.Rounds

/-- `ProcessMode`. -/
inductive ProcessMode
  | kPeriodic
  | kDynamic
  deriving DecidableEq

/-- `IntervalBudget`, which does not build up underuse. -/
structure IntervalBudget where
  targetRateKbps : Int := 0
  maxBytesInBudget : Int := 0
  bytesRemaining : Int := 0

namespace IntervalBudget

variable (budget : IntervalBudget)

def kWindowMs : Int := 500

/-- `set_target_rate_kbps`. -/
def setTargetRateKbps (targetRateKbps : Int) : IntervalBudget :=
  let maxBytesInBudget := (kWindowMs * targetRateKbps).tdiv 8
  { targetRateKbps
    maxBytesInBudget
    bytesRemaining := min (max (-maxBytesInBudget) budget.bytesRemaining) maxBytesInBudget }

/-- `IncreaseBudget`. -/
def increaseBudget (deltaTimeMs : Int) : IntervalBudget :=
  let bytes := (budget.targetRateKbps * deltaTimeMs).tdiv 8
  if budget.bytesRemaining < 0 then
    { budget with bytesRemaining := min (budget.bytesRemaining + bytes) budget.maxBytesInBudget }
  else { budget with bytesRemaining := min bytes budget.maxBytesInBudget }

/-- `UseBudget`. -/
def useBudget (bytes : Int) : IntervalBudget :=
  { budget with
    bytesRemaining := max (budget.bytesRemaining - bytes) (-budget.maxBytesInBudget) }

/-- `bytes_remaining`. -/
def remaining : Int := max 0 budget.bytesRemaining

end IntervalBudget

/-- `PacketSender`. -/
structure PacketSender (Sender : Type) where
  generatePadding : Sender → Int → List Packet × Sender
  sendPacket : Sender → Packet → PacedPacketInfo → Sender

def kCongestedPacketInterval : Int := 500000
def kMaxDebtInTime : Int := 500000
def kMaxElapsedTime : Int := 2000000
def kMaxProcessingInterval : Int := 30000
def kPausedProcessInterval : Int := kCongestedPacketInterval
def kMaxExpectedQueueLength : Int := 2000000
def kFirstPriority : Int := 0

/-- `GetPriorityForType`. -/
def getPriorityForType : RtpPacketMediaType → Int
  | .kAudio => kFirstPriority + 1
  | .kRetransmission => kFirstPriority + 2
  | .kVideo | .kForwardErrorCorrection => kFirstPriority + 3
  | .kPadding => kFirstPriority + 4
  | .kDupPacket => kFirstPriority + 10

/-- `PacingController`. -/
structure PacingController where
  mode : ProcessMode
  drainLargeQueues : Bool := true
  sendPaddingIfSilent : Bool := false
  paceAudio : Bool := false
  smallFirstProbePacket : Bool := false
  ignoreTransportOverhead : Bool := false
  paddingTargetDuration : Int := 5000
  minPacketLimit : Int := 5000
  transportOverheadPerPacket : Int := 0
  paused : Bool := false
  mediaBudget : IntervalBudget := {}
  paddingBudget : IntervalBudget := {}
  mediaDebt : Int := 0
  paddingDebt : Int := 0
  mediaRate : Int := 0
  paddingRate : Int := 0
  prober : BitrateProber := {}
  probingSendFailure : Bool := false
  pacingBitrate : Int := 0
  lastProcessTime : Int
  lastSendTime : Int
  firstSentPacketTime : Option Int := none
  packetQueue : RoundRobinPacketQueue
  packetCounter : Nat := 0
  congestionWindowSize : Option Int := none
  outstandingData : Int := 0
  queueTimeLimit : Int := kMaxExpectedQueueLength
  accountForAudio : Bool := false
  includeOverhead : Bool := false

namespace PacingController

variable (pacer : PacingController)

/-- `Congested`. -/
def congested : Bool := pacer.congestionWindowSize.any fun size => size ≤ pacer.outstandingData

/-- `UpdateBudgetWithElapsedTime`. -/
def updateBudgetWithElapsedTime (delta : Int) : PacingController :=
  match pacer.mode with
  | .kPeriodic =>
      let delta := toThousands (min kMaxProcessingInterval delta)
      { pacer with
        mediaBudget := pacer.mediaBudget.increaseBudget delta
        paddingBudget := pacer.paddingBudget.increaseBudget delta }
  | .kDynamic =>
      { pacer with
        mediaDebt := pacer.mediaDebt - min pacer.mediaDebt (dataAt pacer.mediaRate delta)
        paddingDebt := pacer.paddingDebt - min pacer.paddingDebt (dataAt pacer.paddingRate delta) }

/-- `UpdateBudgetWithSentData`. -/
def updateBudgetWithSentData (size : Int) : PacingController :=
  match pacer.mode with
  | .kPeriodic =>
      { pacer with
        outstandingData := pacer.outstandingData + size
        mediaBudget := pacer.mediaBudget.useBudget size
        paddingBudget := pacer.paddingBudget.useBudget size }
  | .kDynamic =>
      { pacer with
        outstandingData := pacer.outstandingData + size
        mediaDebt := min (pacer.mediaDebt + size) (dataAt pacer.mediaRate kMaxDebtInTime)
        paddingDebt := min (pacer.paddingDebt + size) (dataAt pacer.paddingRate kMaxDebtInTime) }

/-- `UpdateTimeAndGetElapsed`: the elapsed time, -/
def elapsedTime (now : Int) : Int := min (now - pacer.lastProcessTime) kMaxElapsedTime

/-- and the controller with the new time. -/
def updateTime (now : Int) : PacingController := { pacer with lastProcessTime := now }

/-- `UpdateTimeAndGetElapsed`, and the budgets with that time. -/
def drain (now : Int) : PacingController :=
  (pacer.updateTime now).updateBudgetWithElapsedTime (pacer.elapsedTime now)

/-- `ShouldSendKeepalive`. -/
def shouldSendKeepalive (now : Int) : Bool :=
  (pacer.sendPaddingIfSilent || pacer.paused || pacer.congested || pacer.packetCounter == 0) &&
    decide (kCongestedPacketInterval ≤ now - pacer.lastSendTime)

/-- The end of `NextSendTime`: when the debts allow the next packet. -/
def nextTimeByDebt : Except PacerFault Int :=
  if 0 < pacer.mediaRate ∧ !pacer.packetQueue.empty then do
    let flushTime ← timeFor pacer.mediaDebt pacer.mediaRate
    return min (pacer.lastSendTime + kPausedProcessInterval) (pacer.lastProcessTime + flushTime)
  else if 0 < pacer.paddingRate ∧ pacer.packetQueue.empty then do
    let mediaTime ← timeFor pacer.mediaDebt pacer.mediaRate
    let paddingTime ← timeFor pacer.paddingDebt pacer.paddingRate
    return min (pacer.lastSendTime + kPausedProcessInterval)
      (pacer.lastProcessTime + max mediaTime paddingTime)
  else if pacer.sendPaddingIfSilent then return pacer.lastSendTime + kPausedProcessInterval
  else return pacer.lastProcessTime + kPausedProcessInterval

/-- `NextSendTime` where no probe is scheduled. -/
def nextTimeWithoutProbe : Except PacerFault Int :=
  if pacer.mode = .kPeriodic then return pacer.lastProcessTime + pacer.minPacketLimit
  else
    match if pacer.paceAudio then none else pacer.packetQueue.leadingAudioPacketEnqueueTime with
    | some enqueueTime => return enqueueTime
    | none =>
        if pacer.congested || pacer.packetCounter == 0 then
          return pacer.lastSendTime + kCongestedPacketInterval
        else pacer.nextTimeByDebt

/-- The probe that takes priority: none if nothing is scheduled. -/
def scheduledProbe (now : Int) : Timestamp :=
  if pacer.prober.isProbing && !pacer.probingSendFailure then pacer.prober.nextProbeTimeAt now
  else .plusInfinity

/-- `NextSendTime`; no time stands for minus infinity. -/
def nextSendTime (now : Int) : Except PacerFault (Option Int) :=
  if pacer.paused then return some (pacer.lastSendTime + kPausedProcessInterval)
  else
    match pacer.scheduledProbe now with
    | .minusInfinity => return none
    | .finite time => return some time
    | .plusInfinity => do return some (← pacer.nextTimeWithoutProbe)

/-- The condition of `EnqueuePacketInternal` to drain the debts before a packet is queued. -/
def drainsBeforePush (now : Int) : Except PacerFault Bool :=
  if pacer.mode = .kDynamic ∧ pacer.packetQueue.empty then do
    let time ← pacer.nextSendTime now
    return time.all fun time => time ≤ now
  else return false

/-- `EnqueuePacketInternal`. -/
def enqueuePacketInternal (now : Int) (packet : Packet) (priority : Int) :
    Except PacerFault PacingController := do
  let pacer := { pacer with prober := pacer.prober.onIncomingPacket packet.payload.length }
  let packet :=
    if packet.captureTimeMs < 0 then { packet with captureTimeMs := toThousands now } else packet
  let drains ← pacer.drainsBeforePush now
  let pacer := if drains then pacer.drain now else pacer
  let queue ← checked (pacer.packetQueue.push priority now pacer.packetCounter packet)
  return { pacer with packetQueue := queue, packetCounter := pacer.packetCounter + 1 }

/-- `EnqueuePacket`. -/
def enqueuePacket (now : Int) (packet : Packet) : Except PacerFault PacingController := do
  let packetType ← checked packet.packetType
  pacer.enqueuePacketInternal now packet (getPriorityForType packetType)

/-- `EnqueuePacket`, for each packet. -/
def enqueueAll (now : Int) (packets : List Packet) : Except PacerFault PacingController :=
  packets.foldlM (fun pacer packet => pacer.enqueuePacket now packet) pacer

/-- `PaddingToAdd`. -/
def paddingToAdd (recommendedProbeSize : Option Int) (dataSent : Int) : Int :=
  if !pacer.packetQueue.empty || pacer.congested || pacer.packetCounter == 0 then 0
  else
    match recommendedProbeSize with
    | some size => if dataSent < size then size - dataSent else 0
    | none =>
        match pacer.mode with
        | .kPeriodic => pacer.paddingBudget.remaining
        | .kDynamic =>
            if 0 < pacer.paddingRate ∧ pacer.paddingDebt = 0 then
              dataAt pacer.paddingRate pacer.paddingTargetDuration
            else 0

/-- The checks of `GetPendingPacket`, for a queue that is not empty. -/
def maySend (pacingInfo : PacedPacketInfo) (targetSendTime now : Int) : Except PacerFault Bool :=
  let unpacedAudioPacket :=
    !pacer.paceAudio && pacer.packetQueue.leadingAudioPacketEnqueueTime.isSome
  if unpacedAudioPacket || pacingInfo.probeClusterId != kNotAProbe then return true
  else if pacer.congested then return false
  else
    match pacer.mode with
    | .kPeriodic => return decide (0 < pacer.mediaBudget.remaining)
    | .kDynamic =>
        if now ≤ targetSendTime then do
          let flushTime ← timeFor pacer.mediaDebt pacer.mediaRate
          return decide (now + flushTime ≤ targetSendTime)
        else return true

/-- `GetPendingPacket`: the packet, if there is one to send, and the queue. -/
def getPendingPacket (pacingInfo : PacedPacketInfo) (targetSendTime now : Int) :
    Except PacerFault (Option (Packet × RoundRobinPacketQueue)) :=
  if pacer.packetQueue.empty then return none
  else do
    let may ← pacer.maySend pacingInfo targetSendTime now
    if may then return some (← checked pacer.packetQueue.pop) else return none

/-- `OnPacketSent`. -/
def onPacketSent (packetType : Option RtpPacketMediaType) (packetSize sendTime : Int) :
    PacingController :=
  let pacer := { pacer with firstSentPacketTime := pacer.firstSentPacketTime.or (some sendTime) }
  let pacer :=
    if packetType ≠ some .kAudio ∨ pacer.accountForAudio then
      pacer.updateBudgetWithSentData packetSize
    else pacer
  { pacer with lastSendTime := sendTime, lastProcessTime := sendTime }

/-- `OnPaddingSent`. -/
def onPaddingSent (dataSent now : Int) : PacingController :=
  let pacer := if 0 < dataSent then pacer.updateBudgetWithSentData dataSent else pacer
  { pacer with lastSendTime := now, lastProcessTime := now }

/-- The size that is accounted for a packet. -/
def accountedSize (packet : Packet) : Int :=
  packet.payload.length + packet.paddingSize +
    if pacer.includeOverhead then packet.headersSize + pacer.transportOverheadPerPacket else 0

/-- A target time before the last call: the debts are reduced by the difference. -/
def lateTarget (targetSendTime : Int) : PacingController × Int :=
  if targetSendTime < pacer.lastProcessTime then
    (pacer.updateBudgetWithElapsedTime (pacer.lastProcessTime - targetSendTime),
      pacer.lastProcessTime)
  else (pacer, targetSendTime)

/-- The beginning of `ProcessPackets`, up to the target time; it may be too early to go on. -/
def aim (now : Int) : Except PacerFault (RoundEnd (PacingController × Int) PacingController) :=
  match pacer.mode with
  | .kPeriodic => return .next (pacer, now)
  | .kDynamic => do
      match ← pacer.nextSendTime now with
      | none => return .next (pacer.lateTarget now)
      | some time =>
          if now < time then return .exit (pacer.drain now) else return .next (pacer.lateTarget time)

/-- The keepalive of `ProcessPackets`. -/
def sendKeepalive {Sender : Type} (io : PacketSender Sender) (now : Int) (sender : Sender) :
    PacingController × Sender :=
  if pacer.shouldSendKeepalive now then
    if pacer.packetCounter = 0 then ({ pacer with lastSendTime := now }, sender)
    else
      let padding := io.generatePadding sender 1
      (pacer.onPaddingSent
          (padding.1.map fun packet => (packet.payload.length + packet.paddingSize : Int)).sum now,
        padding.1.foldl (fun sender packet => io.sendPacket sender packet {}) padding.2)
  else (pacer, sender)

/-- The rate that gets the queue out in time. -/
def drainRate : Int :=
  if pacer.drainLargeQueues then
    let averageTimeLeft := max 1000 (pacer.queueTimeLimit - pacer.packetQueue.averageQueueTime)
    max pacer.pacingBitrate ((pacer.packetQueue.size * 8000000).tdiv averageTimeLeft)
  else pacer.pacingBitrate

/-- The rate for the elapsed time, in `ProcessPackets`. -/
def updateRate (now : Int) : Except PacerFault (PacingController × Int) :=
  if 0 < pacer.packetQueue.size then do
    let queue ← checked (pacer.packetQueue.updateQueueTime now)
    let pacer := { pacer with packetQueue := queue }
    return (pacer, pacer.drainRate)
  else return (pacer, pacer.pacingBitrate)

/-- The budgets, or the media rate, for the elapsed time. -/
def accountElapsed (now elapsed : Int) : Except PacerFault PacingController :=
  if 0 < elapsed then do
    let updated ← pacer.updateRate now
    match pacer.mode with
    | .kPeriodic =>
        let pacer := updated.1
        let pacer :=
          { pacer with mediaBudget := pacer.mediaBudget.setTargetRateKbps (toThousands updated.2) }
        return pacer.updateBudgetWithElapsedTime elapsed
    | .kDynamic => return { updated.1 with mediaRate := updated.2 }
  else return pacer

end PacingController

/-- What is fixed throughout the loop of `ProcessPackets`. -/
structure SendCall where
  now : Int
  pacingInfo : PacedPacketInfo := {}
  recommendedProbeSize : Option Int := none

/-- The variables of the loop. -/
structure SendLoop (Sender : Type) where
  pacer : PacingController
  sender : Sender
  targetSendTime : Int
  previousProcessTime : Int
  firstPacketInProbe : Bool := false
  dataSent : Int := 0

namespace SendLoop

variable {Sender : Type} (io : PacketSender Sender) (call : SendCall) (loop : SendLoop Sender)

/-- The small packet that goes before a probe. -/
def enqueueSmallProbe : Except PacerFault (SendLoop Sender) :=
  if loop.pacer.smallFirstProbePacket && loop.firstPacketInProbe then
    let padding := io.generatePadding loop.sender 1
    match padding.1 with
    | [] => return { loop with sender := padding.2, firstPacketInProbe := false }
    | packet :: _ => do
        let pacer ← loop.pacer.enqueuePacketInternal call.now packet kFirstPriority
        return { loop with pacer, sender := padding.2, firstPacketInProbe := false }
  else return loop

/-- The debts are reduced up to the target time. -/
def reduceDebts : SendLoop Sender :=
  if loop.pacer.mode = .kDynamic ∧ loop.previousProcessTime < loop.targetSendTime then
    { loop with
      pacer := loop.pacer.updateBudgetWithElapsedTime
        (loop.targetSendTime - loop.previousProcessTime)
      previousProcessTime := loop.targetSendTime }
  else loop

/-- The branch without a pending packet. -/
def addPadding : Except PacerFault (RoundEnd (SendLoop Sender) (SendLoop Sender)) :=
  let paddingToAdd := loop.pacer.paddingToAdd call.recommendedProbeSize loop.dataSent
  if 0 < paddingToAdd then
    let padding := io.generatePadding loop.sender paddingToAdd
    if padding.1 = [] then return .exit { loop with sender := padding.2 }
    else do
      let pacer ← loop.pacer.enqueueAll call.now padding.1
      return .next { loop with pacer, sender := padding.2 }
  else return .exit loop

/-- The target time for the next packet. -/
def nextTarget : Except PacerFault Int :=
  match loop.pacer.mode with
  | .kPeriodic => return loop.targetSendTime
  | .kDynamic => do
      match ← loop.pacer.nextSendTime call.now with
      | none => return call.now
      | some time => return min call.now time

/-- The packet is sent and accounted. -/
def sendPacket (packet : Packet) (queue : RoundRobinPacketQueue) : SendLoop Sender :=
  let size := loop.pacer.accountedSize packet
  { loop with
    pacer := { loop.pacer with packetQueue := queue }.onPacketSent packet.packetType size
      loop.targetSendTime
    sender := io.sendPacket loop.sender packet call.pacingInfo
    dataSent := loop.dataSent + size }

/-- The branch with a pending packet, behind which a probe may be complete. -/
def afterPacket : Except PacerFault (RoundEnd (SendLoop Sender) (SendLoop Sender)) :=
  if call.recommendedProbeSize.any fun size => size < loop.dataSent then return .exit loop
  else do
    let targetSendTime ← loop.nextTarget call
    return .next { loop with targetSendTime }

/-- A round of the loop. -/
def round : Except PacerFault (RoundEnd (SendLoop Sender) (SendLoop Sender)) :=
  if loop.pacer.paused then return .exit loop
  else do
    let loop ← loop.enqueueSmallProbe io call
    let loop := loop.reduceDebts
    match ← loop.pacer.getPendingPacket call.pacingInfo loop.targetSendTime call.now with
    | none => loop.addPadding io call
    | some pending => (loop.sendPacket io call pending.1 pending.2).afterPacket call

/-- Behind the loop. -/
def finish (isProbing : Bool) : Except PacerFault (PacingController × Sender) :=
  let pacer :=
    { loop.pacer with lastProcessTime := max loop.pacer.lastProcessTime loop.previousProcessTime }
  if isProbing then
    if loop.dataSent = 0 then return ({ pacer with probingSendFailure := true }, loop.sender)
    else do
      let prober ← pacer.prober.probeSent call.now loop.dataSent
      return ({ pacer with probingSendFailure := false, prober }, loop.sender)
  else return (pacer, loop.sender)

end SendLoop

namespace PacingController

variable {Sender : Type} (io : PacketSender Sender) (now : Int) (pacer : PacingController)

/-- The probe of a call: what is fixed for the loop, and if it is the first of its cluster. -/
def probeCall : Except PacerFault (SendCall × Bool) :=
  if pacer.prober.isProbing then do
    let cluster ← checked pacer.prober.clusters.head?
    return ({ now := now
              pacingInfo := BitrateProber.currentCluster cluster
              recommendedProbeSize := some (pacer.prober.recommendedMinProbeSize cluster) },
      cluster.sentBytes == 0)
  else return ({ now := now }, false)

/-- `ProcessPackets` with a target time, whose loop runs for at most so many rounds. -/
def processFrom (rounds : Nat) (targetSendTime : Int) (sender : Sender) :
    Except PacerFault (Option (PacingController × Sender)) := do
  let alive := (pacer.updateTime now).sendKeepalive io now sender
  if alive.1.paused then return some alive
  else
    let accounted ← alive.1.accountElapsed now (pacer.elapsedTime now)
    let probe ← accounted.probeCall now
    let loop : SendLoop Sender :=
      { pacer := accounted
        sender := alive.2
        targetSendTime := targetSendTime
        previousProcessTime := pacer.lastProcessTime
        firstPacketInProbe := probe.2 }
    match ← run (SendLoop.round io probe.1) rounds loop with
    | none => return none
    | some loop => return some (← loop.finish probe.1 accounted.prober.isProbing)

/-- `ProcessPackets`. -/
def processPackets (rounds : Nat) (sender : Sender) :
    Except PacerFault (Option (PacingController × Sender)) := do
  match ← pacer.aim now with
  | .exit pacer => return some (pacer, sender)
  | .next aimed => aimed.1.processFrom io now rounds aimed.2 sender

end PacingController

end MpWebRtc.Pacing
