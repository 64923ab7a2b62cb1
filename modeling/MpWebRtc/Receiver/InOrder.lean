import Mathlib.Data.List.Chain
import MpWebRtc.Math.Run
import MpWebRtc.Receiver.Notice

/-!
# A receiver that gets consecutive numbers stays quiet

If on each path the media packets that reach the stream are numbered consecutively,
then both NACK lists stay empty and no feedback is sent, however the two paths and the
timers interleave. Copies do not matter here: they are dropped before they can.
-/

namespace MpWebRtc

open Math.Run Math.Serial

section Module

/-- The module misses nothing; `last` is the newest packet it has seen. -/
structure NackModule.Quiet (m : NackModule) (last : Option UInt16) : Prop where
  nackList : m.nackList = []
  initialized : m.initialized = last.isSome
  newest : ∀ number ∈ last, m.newestSeqNum = number

variable {m : NackModule} {last : Option UInt16} (settings : NackSettings) (now : Int)

theorem NackModule.getNackBatch_of_nil (empty : m.nackList = [])
    (options : NackModule.NackFilterOptions) : m.getNackBatch settings now options = (m, []) := by
  obtain ⟨initialized, newestSeqNum, nackList, keyframeList, recoveredList, rttMs⟩ := m
  subst empty
  rfl

theorem NackModule.addPacketsToNack_self (empty : m.nackList = []) (seqNum : UInt16) :
    m.addPacketsToNack settings.seqNums now seqNum seqNum = (m, false) := by
  have none : forwardDiff seqNum seqNum = 0 := UInt16.sub_self seqNum
  obtain ⟨initialized, newestSeqNum, nackList, keyframeList, recoveredList, rttMs⟩ := m
  subst empty
  simp [NackModule.addPacketsToNack, NackModule.eraseNacksOlder, none, NackModule.makeRoom,
    NackModule.seqNumsBetween, NackModule.addMissing, kMaxNackPackets]

/-- The successor of the newest packet leaves nothing missing. -/
theorem NackModule.Quiet.onReceivedPacket_next (quiet : m.Quiet last) {seqNum : UInt16}
    (next : ∀ number ∈ last, seqNum = number + 1) (isKeyframe : Bool) :
    (m.onReceivedPacket settings now seqNum isKeyframe false).1.Quiet (some seqNum) ∧
      (m.onReceivedPacket settings now seqNum isKeyframe false).2 = {} := by
  obtain ⟨empty, initialized, newest⟩ := quiet
  cases last with
  | none =>
      have fresh : m.initialized = false := initialized
      simp only [NackModule.onReceivedPacket, fresh, Bool.not_false, ↓reduceIte, and_true]
      exact ⟨empty, rfl, by simp⟩
  | some number =>
      have started : m.initialized = true := initialized
      have current : m.newestSeqNum = number := newest number rfl
      have successor : seqNum = m.newestSeqNum + 1 := by rw [current]; exact next number rfl
      subst successor
      have ahead : aheadOf m.newestSeqNum (m.newestSeqNum + 1) = false := not_aheadOf_succ _
      simp only [NackModule.onReceivedPacket, started, Bool.not_true, Bool.false_eq_true,
        ↓reduceIte, succ_ne_self, ahead]
      rw [NackModule.addPacketsToNack_self settings now (by exact empty),
        NackModule.getNackBatch_of_nil settings now (by exact empty)]
      exact ⟨⟨empty, rfl, by simp⟩, rfl⟩

/-- Hearing of a packet that is not ahead of the newest one changes nothing. -/
theorem NackModule.Quiet.onReceivedPacket_stale {newest seqNum : UInt16}
    (quiet : m.Quiet (some newest)) (stale : seqNum = newest ∨ aheadOf newest seqNum)
    (isKeyframe isRecovered : Bool) :
    m.onReceivedPacket settings now seqNum isKeyframe isRecovered = (m, {}) := by
  have started : m.initialized = true := quiet.initialized
  have current : m.newestSeqNum = newest := quiet.newest newest rfl
  subst current
  rcases stale with rfl | behind
  · simp [NackModule.onReceivedPacket, started]
  · have distinct : seqNum ≠ m.newestSeqNum := by
      rintro rfl
      simp [aheadOf] at behind
    have unchanged : m.nackList.filter (fun info => info.seqNum ≠ seqNum) = m.nackList := by
      rw [quiet.nackList, List.filter_nil]
    simp only [NackModule.onReceivedPacket, started, Bool.not_true, Bool.false_eq_true,
      ↓reduceIte, distinct, behind, unchanged]
    rw [← started]

theorem NackModule.Quiet.onTimer (quiet : m.Quiet last) : m.onTimer settings now = (m, {}) := by
  unfold NackModule.onTimer
  rw [NackModule.getNackBatch_of_nil settings now quiet.nackList]

end Module

section Stream

/-- Both modules are quiet and nothing is buffered; `last k` is the newest media packet
of path `k`. -/
structure VideoReceiver.Quiet (r : VideoReceiver) (last : Nat → Option UInt16) : Prop where
  primary : r.nackModule.Quiet (last 1)
  secondary : r.nackModuleS.Quiet (last 2)
  requestKeyFrame : r.requestKeyFrame = false
  nacksP : r.nackSequenceNumbersP = []
  nacksS : r.nackSequenceNumbersS = []

variable {r : VideoReceiver} {last : Nat → Option UInt16} (cfg : StreamConfig) (now : Int)

theorem VideoReceiver.Quiet.nackModuleOf (quiet : r.Quiet last) {k : Nat} (path : k = 1 ∨ k = 2) :
    (r.nackModuleOf k).Quiet (last k) := by
  rcases path with rfl | rfl
  · exact quiet.primary
  · exact quiet.secondary

theorem VideoReceiver.Quiet.updateModule (quiet : r.Quiet last) {k : Nat} (path : k = 1 ∨ k = 2)
    {m : NackModule} {latest : Option UInt16} (updated : m.Quiet latest) :
    (r.updateModule k (m, {})).Quiet (Function.update last k latest) := by
  obtain ⟨primary, secondary, requestKeyFrame, nacksP, nacksS⟩ := quiet
  rcases path with rfl | rfl
  · exact ⟨updated, secondary, by simpa [VideoReceiver.updateModule] using requestKeyFrame,
      by simpa [VideoReceiver.updateModule] using nacksP, nacksS⟩
  · exact ⟨primary, updated, by simpa [VideoReceiver.updateModule] using requestKeyFrame,
      nacksP, by simpa [VideoReceiver.updateModule] using nacksS⟩

theorem VideoReceiver.Quiet.sendBufferedRtcpFeedback (quiet : r.Quiet last) :
    r.sendBufferedRtcpFeedback.1.Quiet last ∧ r.sendBufferedRtcpFeedback.2 = [] := by
  refine ⟨⟨quiet.primary, quiet.secondary, rfl, rfl, rfl⟩, ?_⟩
  simp [VideoReceiver.sendBufferedRtcpFeedback, quiet.requestKeyFrame, quiet.nacksP, quiet.nacksS]

/-- A media packet of this stream, as it was sent the first time. -/
structure Accepted (cfg : StreamConfig) (p : ReceivedPacket) : Prop where
  media : p.ssrc = cfg.mediaSsrc
  notRtx : p.ssrc ≠ cfg.rtxSsrc
  plain : p.recovered = false

variable {p : ReceivedPacket}

theorem VideoReceiver.Quiet.notifyNack_next (quiet : r.Quiet last)
    (path : p.headerPath = 1 ∨ p.headerPath = 2)
    (next : ∀ number ∈ last p.headerPath, p.headerSeqNum = number + 1) (isKeyframe : Bool) :
    (r.notifyNack cfg now p isKeyframe false).Quiet
      (Function.update last p.headerPath (some p.headerSeqNum)) := by
  obtain ⟨updated, nothing⟩ :=
    (quiet.nackModuleOf path).onReceivedPacket_next cfg.nack now next isKeyframe
  unfold VideoReceiver.notifyNack
  rw [show ((r.nackModuleOf p.headerPath).onReceivedPacket cfg.nack now p.headerSeqNum isKeyframe
    false) = (_, {}) from Prod.ext rfl nothing]
  exact quiet.updateModule path updated

theorem VideoReceiver.Quiet.notifyNack_stale (quiet : r.Quiet last)
    (path : p.headerPath = 1 ∨ p.headerPath = 2) {newest : UInt16}
    (heard : last p.headerPath = some newest)
    (stale : p.headerSeqNum = newest ∨ aheadOf newest p.headerSeqNum)
    (isKeyframe isRecovered : Bool) :
    (r.notifyNack cfg now p isKeyframe isRecovered).Quiet last := by
  have watcher := quiet.nackModuleOf path
  rw [heard] at watcher
  unfold VideoReceiver.notifyNack
  rw [watcher.onReceivedPacket_stale cfg.nack now stale isKeyframe isRecovered]
  have updated := quiet.updateModule path watcher
  rwa [← heard, Function.update_eq_self] at updated

/-- The next media packet of a path keeps the receiver quiet. -/
theorem VideoReceiver.Quiet.telling_next (accepted : Accepted cfg p)
    (path : p.headerPath = 1 ∨ p.headerPath = 2)
    (next : ∀ number ∈ last p.headerPath, p.headerSeqNum = number + 1) :
    Telling cfg now p (·.Quiet last)
      (·.Quiet (Function.update last p.headerPath (some p.headerSeqNum))) (· = []) where
  tell := by
    intro r isKeyframe isRecovered recovered start
    have notRecovered : isRecovered = false := by
      simpa [accepted.plain] using recovered
    rcases start with before | after
    · rw [notRecovered]
      exact before.notifyNack_next cfg now path next isKeyframe
    · exact after.notifyNack_stale cfg now path (Function.update_self ..) (.inl rfl) isKeyframe
        isRecovered
  send := fun _ quiet => quiet.sendBufferedRtcpFeedback
  nothing := rfl
  append := by
    rintro first second rfl rfl
    rfl

/-- A media packet that is not ahead of the newest one keeps the receiver quiet. -/
theorem VideoReceiver.Quiet.telling_stale
    (path : p.headerPath = 1 ∨ p.headerPath = 2) {newest : UInt16}
    (heard : last p.headerPath = some newest)
    (stale : p.headerSeqNum = newest ∨ aheadOf newest p.headerSeqNum) :
    Telling cfg now p (·.Quiet last) (·.Quiet last) (· = []) where
  tell := by
    intro r isKeyframe isRecovered _ start
    exact (or_self_iff.mp start).notifyNack_stale cfg now path heard stale isKeyframe isRecovered
  send := fun _ quiet => quiet.sendBufferedRtcpFeedback
  nothing := rfl
  append := by
    rintro first second rfl rfl
    rfl

theorem resolvePath_of_eq (same : p.headerPath = p.pathid) : resolvePath p = p := by
  simp [resolvePath, same]

theorem VideoReceiver.Quiet.timer (quiet : r.Quiet last) (pathid : Nat) :
    (receiverStep cfg r (.timer now pathid)).1.Quiet last ∧
      (receiverStep cfg r (.timer now pathid)).2 = [] := by
  have either : r.nackModuleOf pathid = r.nackModuleOf (if pathid ≠ 2 then 1 else 2) ∧
      ∀ result, r.updateModule pathid result =
        r.updateModule (if pathid ≠ 2 then 1 else 2) result := by
    by_cases second : pathid = 2
    · simp [second]
    · simp [second, VideoReceiver.nackModuleOf, VideoReceiver.updateModule]
  have path : (if pathid ≠ 2 then 1 else 2) = 1 ∨ (if pathid ≠ 2 then 1 else 2) = 2 := by
    split <;> simp
  have watcher := quiet.nackModuleOf path
  simp only [receiverStep, either.1, either.2, watcher.onTimer cfg.nack now, ↓reduceIte, and_true]
  have updated := quiet.updateModule path watcher
  rwa [Function.update_eq_self] at updated

theorem VideoReceiver.Quiet.updateRtt (quiet : r.Quiet last) (rttMs : Int) :
    (receiverStep cfg r (.updateRtt rttMs)).1.Quiet last :=
  ⟨⟨quiet.primary.nackList, quiet.primary.initialized, quiet.primary.newest⟩,
    ⟨quiet.secondary.nackList, quiet.secondary.initialized, quiet.secondary.newest⟩,
    quiet.requestKeyFrame, quiet.nacksP, quiet.nacksS⟩

end Stream

section Delivery

/-- The packets that arrive over connection `k`, in order. -/
def arrivedOn (k : Nat) (events : List ReceiverEvent) : List ReceivedPacket :=
  events.filterMap fun
    | .deliver _ p _ => if p.pathid = k then some p else none
    | _ => none

/-- The numbers of the packets that are not copies. -/
def mediaNumbers (packets : List ReceivedPacket) : List UInt16 :=
  (packets.filter fun p => p.payloadType ≠ kDupPayloadType).map (·.headerSeqNum)

/-- A delivery over the two connections, without loss or reordering on either. -/
structure InOrderDelivery (sent : Nat → List ReceivedPacket) (events : List ReceiverEvent) :
    Prop where
  paths : ∀ now p answers, .deliver now p answers ∈ events → p.pathid = 1 ∨ p.pathid = 2
  inOrder : ∀ k, arrivedOn k events <+: sent k

/-- The parsers accept what arrives: a packet that is no copy is told to a NACK module,
and no packet that is still on its way is recovered with it. -/
def ReceiverEvent.Read (cfg : StreamConfig) : ReceiverEvent → Prop
  | .deliver _ p answers => p.payloadType ≠ kDupPayloadType →
      Noticed cfg answers (resolvePath p) ∧ NothingRecovered answers (resolvePath p)
  | _ => True

/-- A packet on connection `k` that is either a copy, or numbered on path `k` and one of
this stream. -/
structure SentOn (cfg : StreamConfig) (k : Nat) (p : ReceivedPacket) : Prop where
  pathid : p.pathid = k
  headerPath : p.payloadType ≠ kDupPayloadType → p.headerPath = k
  accepted : p.payloadType ≠ kDupPayloadType → Accepted cfg p

variable {cfg : StreamConfig} {now : Int} {r : VideoReceiver} {last : Nat → Option UInt16}

variable {sent : Nat → List ReceivedPacket} {events : List ReceiverEvent}

theorem InOrderDelivery.of_cons {event : ReceiverEvent}
    (delivery : InOrderDelivery sent (event :: events))
    (silent : ∀ k, arrivedOn k [event] = []) : InOrderDelivery sent events := by
  refine ⟨fun now p dec member => delivery.paths now p dec (List.mem_cons_of_mem _ member), ?_⟩
  intro k
  have arrived := delivery.inOrder k
  rwa [show arrivedOn k (event :: events) = arrivedOn k [event] ++ arrivedOn k events from
    List.filterMap_append (l := [event]), silent, List.nil_append] at arrived

variable {p : ReceivedPacket} {answers : ParserAnswers}

theorem InOrderDelivery.deliver_cons
    (delivery : InOrderDelivery sent (.deliver now p answers :: events)) :
    ∃ rest, sent p.pathid = p :: rest ∧
      InOrderDelivery (Function.update sent p.pathid rest) events := by
  have own : arrivedOn p.pathid (.deliver now p answers :: events) =
      p :: arrivedOn p.pathid events := by
    simp [arrivedOn]
  obtain ⟨suffix, whole⟩ := delivery.inOrder p.pathid
  rw [own] at whole
  refine ⟨arrivedOn p.pathid events ++ suffix, whole.symm,
    fun now q dec member => delivery.paths now q dec (List.mem_cons_of_mem _ member), ?_⟩
  intro k
  by_cases same : k = p.pathid
  · subst same
    rw [Function.update_self]
    exact List.prefix_append ..
  · rw [Function.update_of_ne same]
    have other : arrivedOn k (.deliver now p answers :: events) = arrivedOn k events := by
      simp [arrivedOn, Ne.symm same]
    exact other ▸ delivery.inOrder k

theorem deliverRtp_copy (copy : p.payloadType = kDupPayloadType)
    (answers : ParserAnswers) : deliverRtp cfg now r p answers = (r, []) := by
  have kept : (resolvePath p).payloadType = kDupPayloadType := by
    unfold resolvePath
    split_ifs <;> exact copy
  unfold deliverRtp
  split
  · rfl
  · rename_i media found
    have isCopy : media.payloadType = kDupPayloadType := by
      unfold mediaOf unpackRtx at found
      split_ifs at found
      exact Option.some.inj found ▸ kept
    simp [VideoReceiver.onRtpPacket, isCopy]

theorem mediaOf_accepted (accepted : Accepted cfg p) : mediaOf cfg p = some p := by
  rw [mediaOf, if_neg accepted.notRtx, if_pos accepted.media]

theorem deliverRtp_accepted (accepted : Accepted cfg p)
    (same : p.headerPath = p.pathid) (answers : ParserAnswers) :
    deliverRtp cfg now r p answers = r.onRtpPacket cfg now p answers := by
  rw [deliverRtp, resolvePath_of_eq same, mediaOf_accepted accepted]

/-- What is still to be delivered: packets on the path they are numbered on, whose media
numbers continue those already received. -/
structure Pending (cfg : StreamConfig) (last : Nat → Option UInt16)
    (sent : Nat → List ReceivedPacket) : Prop where
  sentOn : ∀ k, k = 1 ∨ k = 2 → ∀ p ∈ sent k, SentOn cfg k p
  consecutive : ∀ k, k = 1 ∨ k = 2 → ((last k).toList ++ mediaNumbers (sent k)).IsChain
    fun earlier later => later = earlier + 1

namespace Pending

variable {sent : Nat → List ReceivedPacket} {k : Nat} {p : ReceivedPacket}
variable {rest : List ReceivedPacket}

variable (pending : Pending cfg last sent)
include pending

theorem sentOn_rest (whole : sent k = p :: rest) :
    ∀ i, i = 1 ∨ i = 2 → ∀ q ∈ Function.update sent k rest i, SentOn cfg i q := by
  intro i path q member
  by_cases same : i = k
  · subst same
    rw [Function.update_self] at member
    exact pending.sentOn i path q (whole ▸ List.mem_cons_of_mem _ member)
  · rw [Function.update_of_ne same] at member
    exact pending.sentOn i path q member

theorem copy (whole : sent k = p :: rest) (isCopy : p.payloadType = kDupPayloadType) :
    Pending cfg last (Function.update sent k rest) := by
  refine ⟨pending.sentOn_rest whole, fun i path => ?_⟩
  have chain := pending.consecutive i path
  by_cases same : i = k
  · subst same
    rw [whole] at chain
    simpa [mediaNumbers, isCopy] using chain
  · rwa [Function.update_of_ne same]

theorem media_chain (path : k = 1 ∨ k = 2)
    (whole : sent k = p :: rest) (isMedia : p.payloadType ≠ kDupPayloadType) :
    (∀ number ∈ last k, p.headerSeqNum = number + 1) ∧
      (p.headerSeqNum :: mediaNumbers rest).IsChain fun earlier later => later = earlier + 1 := by
  have chain := pending.consecutive k path
  rw [whole, show mediaNumbers (p :: rest) = p.headerSeqNum :: mediaNumbers rest by
    simp [mediaNumbers, isMedia], List.isChain_append] at chain
  refine ⟨fun number newest => ?_, chain.2.1⟩
  exact chain.2.2 number (by simp [Option.mem_def.mp newest]) _ rfl

theorem media (path : k = 1 ∨ k = 2)
    (whole : sent k = p :: rest) (isMedia : p.payloadType ≠ kDupPayloadType) :
    Pending cfg (Function.update last k (some p.headerSeqNum)) (Function.update sent k rest) := by
  refine ⟨pending.sentOn_rest whole, fun i either => ?_⟩
  by_cases same : i = k
  · subst same
    rw [Function.update_self, Function.update_self]
    exact (pending.media_chain path whole isMedia).2
  · rw [Function.update_of_ne same, Function.update_of_ne same]
    exact pending.consecutive i either

end Pending

/-- One arrival keeps the receiver quiet and leaves the rest pending. -/
theorem VideoReceiver.Quiet.deliver (now : Int)
    {rest : List ReceivedPacket} (quiet : r.Quiet last) (pending : Pending cfg last sent)
    (path : p.pathid = 1 ∨ p.pathid = 2) (whole : sent p.pathid = p :: rest)
    (read : (ReceiverEvent.deliver now p answers).Read cfg) :
    (deliverRtp cfg now r p answers).2 = [] ∧ ∃ latest,
      (deliverRtp cfg now r p answers).1.Quiet latest ∧
        Pending cfg latest (Function.update sent p.pathid rest) := by
  have sentOn := pending.sentOn p.pathid path p (whole ▸ List.mem_cons_self ..)
  by_cases copy : p.payloadType = kDupPayloadType
  · rw [deliverRtp_copy copy]
    exact ⟨rfl, last, quiet, pending.copy whole copy⟩
  · have accepted := sentOn.accepted copy
    have next := (pending.media_chain path whole copy).1
    have same := (sentOn.headerPath copy).trans sentOn.pathid.symm
    obtain ⟨noticed, alone⟩ := read copy
    rw [resolvePath_of_eq same] at noticed alone
    rw [deliverRtp_accepted accepted same]
    rw [← sentOn.headerPath copy] at path next
    obtain ⟨still, nothing⟩ :=
      (VideoReceiver.Quiet.telling_next cfg now accepted path next).onRtpPacket alone noticed quiet
    rw [sentOn.headerPath copy] at path still
    exact ⟨nothing, _, still, pending.media path whole copy⟩

/-- **Quiet delivery.** If the media packets sent on each path are numbered
consecutively, an in-order delivery leaves nothing missing and sends no feedback. -/
theorem quiet_of_inOrderDelivery (sent : Nat → List ReceivedPacket) (events : List ReceiverEvent)
    (delivery : InOrderDelivery sent events) (read : ∀ event ∈ events, event.Read cfg)
    (pending : Pending cfg last sent) (quiet : r.Quiet last) :
    (∃ latest, (finalState (receiverStep cfg) r events).Quiet latest) ∧
      outputs (receiverStep cfg) r events = [] := by
  induction events generalizing r last sent with
  | nil => exact ⟨⟨last, quiet⟩, rfl⟩
  | cons event events ih =>
      rw [finalState_cons, outputs_cons]
      rw [List.forall_mem_cons] at read
      cases event with
      | timer now pathid =>
          obtain ⟨still, nothing⟩ := quiet.timer cfg now pathid
          rw [nothing, List.nil_append]
          exact ih sent (delivery.of_cons fun k => rfl) read.2 pending still
      | updateRtt rttMs =>
          exact ih sent (delivery.of_cons fun k => rfl) read.2 pending (quiet.updateRtt cfg rttMs)
      | deliver now p answers =>
          have path := delivery.paths now p answers (List.mem_cons_self ..)
          obtain ⟨rest, whole, remaining⟩ := delivery.deliver_cons
          obtain ⟨nothing, latest, still, left⟩ := quiet.deliver now pending path whole read.1
          rw [show (receiverStep cfg r (.deliver now p answers)).2 = [] from nothing,
            List.nil_append]
          exact ih _ remaining read.2 left still

end Delivery

end MpWebRtc
