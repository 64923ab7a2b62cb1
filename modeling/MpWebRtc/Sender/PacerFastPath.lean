import MpWebRtc.Sender.PacerConsistency

/-!
# The single-packet fast path

A packet that is pushed onto an empty queue stays in a slot of its own, and is moved to its
stream only when something else happens. This file compares the queue with one that has no
slot. The two agree as long as nothing depends on what the slot leaves out: the bytes of a
packet that left from the slot are not accounted to its stream, so a later turn between
streams of one priority may go the other way; and the slot keeps an enqueue time from which
the paused time is already subtracted, where the multiset of enqueue times has the time
itself.
-/

namespace MpWebRtc.Pacing

open Math Math.Run

section Schedules

/-- The part of the queue that decides whose turn it is. -/
structure Schedule where
  maxSize : Int
  streams : OrderedMap Nat Stream
  turns : List Turn

/-- Turns of one stream at one priority; if the accounts are exact, also with one size. -/
def SameTurn (exact : Bool) (turn other : Turn) : Prop :=
  turn.2 = other.2 ∧ turn.1.priority = other.1.priority ∧ (exact → turn = other)

/-- The same packets in the same order of turns. Where the accounts of bytes may differ,
no two streams have packets of the same priority. -/
structure Schedule.Similar (exact : Bool) (schedule other : Schedule) : Prop where
  queues : ∀ ssrc, (streamIn schedule.streams ssrc).packetQueue =
    (streamIn other.streams ssrc).packetQueue
  turns : List.Forall₂ (SameTurn exact) schedule.turns other.turns
  sizes : exact → schedule.maxSize = other.maxSize ∧
    ∀ ssrc, (streamIn schedule.streams ssrc).size = (streamIn other.streams ssrc).size
  apart : ¬ exact → ∀ p ∈ packetsOf schedule.streams.entries,
    ∀ q ∈ packetsOf schedule.streams.entries, p.ssrc ≠ q.ssrc → p.priority ≠ q.priority

variable {exact : Bool} {streams : OrderedMap Nat Stream} {turns : List Turn} {ssrc : Nat}

section

variable (scheduled : Scheduled streams turns)
include scheduled

theorem Scheduled.turns_nodup : turns.Nodup := by
  have distinct : (turnsOf streams.entries).Nodup := by
    refine (streams.sorted.filterMap _ ?_ : (turnsOf streams.entries).Pairwise _)
    intro first second before turn held other taken same
    obtain ⟨key, -, rfl⟩ := Option.map_eq_some_iff.mp held
    obtain ⟨next, -, rfl⟩ := Option.map_eq_some_iff.mp taken
    exact absurd (congrArg Prod.snd same) before.ne
  exact scheduled.turns_perm.nodup_iff.mpr distinct

/-- Taking away the turn of a stream leaves the turns of the other SSRCs, in order. -/
theorem Scheduled.unschedule_eq_filter (ssrc : Nat) :
    RoundRobinPacketQueue.unschedule (streamIn streams ssrc) turns =
      turns.filter fun turn => decide (turn.2 ≠ ssrc) := by
  have split := scheduled.turns_split ssrc
  have others : ∀ turn ∈ turnsOf (streams.erase ssrc).entries, turn.2 ≠ ssrc :=
    fun turn member => not_mem_turnsOf_erase streams member
  unfold RoundRobinPacketQueue.unschedule
  rw [(scheduled.streamIn_wellFormed ssrc).ssrc_eq]
  unfold Stream.turn at split
  cases held : (streamIn streams ssrc).priorityIt with
  | none =>
      rw [held] at split
      refine (List.filter_eq_self.mpr fun turn member => ?_).symm
      simpa using others turn (split.subset member)
  | some key =>
      rw [held] at split
      dsimp only
      rw [scheduled.turns_nodup.erase_eq_filter]
      refine List.filter_congr fun turn member => ?_
      rcases List.mem_cons.mp (split.subset member) with rfl | other
      · simp
      · have apart : turn.2 ≠ ssrc := others turn other
        have differs : turn ≠ (key, ssrc) := fun same => apart (by rw [same])
        simp [apart, differs]

/-- The priority of a turn is that of a packet of its stream. -/
theorem Scheduled.exists_packet {turn : Turn} (member : turn ∈ turns) :
    ∃ p ∈ packetsOf streams.entries, p.ssrc = turn.2 ∧ p.priority = turn.1.priority := by
  obtain ⟨entry, inMap, held⟩ := List.mem_filterMap.mp (scheduled.turns_perm.subset member)
  obtain ⟨key, isKey, rfl⟩ := Option.map_eq_some_iff.mp held
  have wellFormed := scheduled.wellFormed entry inMap
  have best := wellFormed.best
  rw [isKey] at best
  obtain ⟨p, top, isBest⟩ := Option.map_eq_some_iff.mp best.symm
  have first : p ∈ entry.2.packetQueue := List.mem_of_mem_head? (by rw [top]; rfl)
  exact ⟨p, List.mem_flatMap.mpr ⟨entry, inMap, first⟩, wellFormed.own p first, by rw [← isBest]⟩

end

theorem sameTurn_insert {left right : List Turn} (old : List.Forall₂ (SameTurn exact) left right)
    {turn other : Turn} (new : SameTurn exact turn other)
    (apart : ¬ exact → ∀ earlier ∈ left, earlier.1.priority ≠ turn.1.priority) :
    List.Forall₂ (SameTurn exact) (left.orderedInsert Turn.Before turn)
      (right.orderedInsert Turn.Before other) := by
  refine forall₂_orderedInsert new old fun first inLeft second _ same => ?_
  by_cases accounted : exact
  · rw [new.2.2 accounted, same.2.2 accounted]
  · -- the sizes are not compared
    have differs := apart accounted first inLeft
    rw [Turn.before_iff, Turn.before_iff, ← new.2.1, ← same.2.1]
    omega

/-- Where the accounts may differ, the other streams are scheduled at other priorities than
a packet whose priority is its own. -/
theorem Scheduled.unschedule_priority_ne (scheduled : Scheduled streams turns) {priority : Int}
    (own : ∀ p ∈ packetsOf streams.entries, p.ssrc ≠ ssrc → p.priority ≠ priority) :
    ∀ turn ∈ RoundRobinPacketQueue.unschedule (streamIn streams ssrc) turns,
      turn.1.priority ≠ priority := by
  intro turn member
  rw [scheduled.unschedule_eq_filter] at member
  obtain ⟨inTurns, apart⟩ := List.mem_filter.mp member
  obtain ⟨p, waits, isSsrc, isPriority⟩ := scheduled.exists_packet inTurns
  rw [← isPriority]
  refine own p waits ?_
  rw [isSsrc]
  simpa using apart

theorem streamIn_insert (streams : OrderedMap Nat Stream) (ssrc other : Nat) (stream : Stream) :
    streamIn (streams.insert ssrc stream) other =
      if other = ssrc then stream else streamIn streams other := by
  unfold streamIn
  rw [OrderedMap.find_insert]
  split <;> rfl

variable {schedule other : Schedule} (similar : schedule.Similar exact other)
include similar

/-- Streams of one SSRC replaced by similar ones. -/
theorem Schedule.Similar.replace {maxSize otherMaxSize : Int} {stream otherStream : Stream} {next otherNext : List Turn}
    (queue : stream.packetQueue = otherStream.packetQueue)
    (turns : List.Forall₂ (SameTurn exact) next otherNext)
    (sizes : exact → maxSize = otherMaxSize ∧ stream.size = otherStream.size)
    (apart : ¬ exact → ∀ p ∈ packetsOf (schedule.streams.insert ssrc stream).entries,
      ∀ q ∈ packetsOf (schedule.streams.insert ssrc stream).entries,
        p.ssrc ≠ q.ssrc → p.priority ≠ q.priority) :
    Schedule.Similar exact ⟨maxSize, schedule.streams.insert ssrc stream, next⟩
      ⟨otherMaxSize, other.streams.insert ssrc otherStream, otherNext⟩ where
  queues := by
    intro any
    dsimp only
    rw [streamIn_insert, streamIn_insert]
    by_cases same : any = ssrc
    · rw [if_pos same, if_pos same]
      exact queue
    · rw [if_neg same, if_neg same]
      exact similar.queues any
  turns := turns
  sizes := by
    refine fun accounted => ⟨(sizes accounted).1, fun any => ?_⟩
    dsimp only
    rw [streamIn_insert, streamIn_insert]
    by_cases same : any = ssrc
    · rw [if_pos same, if_pos same]
      exact (sizes accounted).2
    · rw [if_neg same, if_neg same]
      exact (similar.sizes accounted).2 any
  apart := apart

variable (scheduled : Scheduled schedule.streams schedule.turns)
  (otherScheduled : Scheduled other.streams other.turns)
include scheduled otherScheduled

/-- The others keep their turns. -/
theorem Schedule.Similar.unschedule (ssrc : Nat) :
    List.Forall₂ (SameTurn exact)
      (RoundRobinPacketQueue.unschedule (streamIn schedule.streams ssrc) schedule.turns)
      (RoundRobinPacketQueue.unschedule (streamIn other.streams ssrc) other.turns) := by
  rw [scheduled.unschedule_eq_filter, otherScheduled.unschedule_eq_filter]
  refine List.rel_filter (fun turn twin same => ?_) similar.turns
  dsimp only
  rw [same.1]

/-- Similar schedules give a packet the same turn. -/
theorem Schedule.Similar.scheduleFor {q r : RoundRobinPacketQueue}
    (turns : q.streamPriorities = schedule.turns) (otherTurns : r.streamPriorities = other.turns)
    {priority : Int} (own : ¬ exact → ∀ p ∈ packetsOf schedule.streams.entries,
      p.ssrc ≠ ssrc → p.priority ≠ priority)
    {key otherKey : StreamPrioKey} {next otherNext : List Turn}
    (made : q.scheduleFor (streamIn schedule.streams ssrc) priority = some (key, next))
    (otherMade : r.scheduleFor (streamIn other.streams ssrc) priority = some (otherKey, otherNext)) :
    List.Forall₂ (SameTurn exact) next otherNext := by
  have wellFormed := scheduled.streamIn_wellFormed ssrc
  have otherWellFormed := otherScheduled.streamIn_wellFormed ssrc
  have rest := similar.unschedule scheduled otherScheduled ssrc
  have apart : ¬ exact → _ := fun inexact => scheduled.unschedule_priority_ne (own inexact)
  have sizes : exact → (streamIn schedule.streams ssrc).size = (streamIn other.streams ssrc).size :=
    fun accounted => (similar.sizes accounted).2 ssrc
  have best := wellFormed.best
  have otherBest := otherWellFormed.best
  rw [← similar.queues ssrc] at otherBest
  have new : SameTurn exact (⟨priority, (streamIn schedule.streams ssrc).size⟩, ssrc)
      (⟨priority, (streamIn other.streams ssrc).size⟩, ssrc) :=
    ⟨rfl, rfl, fun accounted => by rw [sizes accounted]⟩
  unfold RoundRobinPacketQueue.scheduleFor at made otherMade
  rw [wellFormed.ssrc_eq, turns] at made
  rw [otherWellFormed.ssrc_eq, otherTurns] at otherMade
  unfold RoundRobinPacketQueue.unschedule at rest apart made otherMade
  rw [wellFormed.ssrc_eq] at rest apart made
  rw [otherWellFormed.ssrc_eq] at rest otherMade
  cases top : (streamIn schedule.streams ssrc).packetQueue.head? with
  | none =>
      rw [top] at best otherBest
      simp only [best, otherBest, Option.map_none] at made otherMade rest apart
      split at made <;> [cases made; skip]
      split at otherMade <;> [cases otherMade; skip]
      cases made
      cases otherMade
      exact sameTurn_insert rest new apart
  | some p =>
      rw [top] at best otherBest
      simp only [best, otherBest, Option.map_some] at made otherMade rest apart
      by_cases higher : priority < p.priority
      · rw [if_pos higher] at made otherMade
        cases made
        cases otherMade
        exact sameTurn_insert rest new apart
      · rw [if_neg higher] at made otherMade
        cases made
        cases otherMade
        exact similar.turns

/-- Similar schedules have the same packets. -/
theorem Schedule.Similar.packets_perm :
    (packetsOf schedule.streams.entries).Perm (packetsOf other.streams.entries) := by
  have counted : ∀ (streams : OrderedMap Nat Stream) (turns : List Turn),
      Scheduled streams turns → ∀ p : QueuedPacket,
        (packetsOf streams.entries).count p = (streamIn streams p.ssrc).packetQueue.count p := by
    intro streams turns scheduled p
    rw [(packetsOf_perm streams p.ssrc).count_eq, List.count_append]
    have elsewhere : (packetsOf (streams.erase p.ssrc).entries).count p = 0 := by
      refine List.count_eq_zero.mpr fun other => ?_
      obtain ⟨entry, inMap, inQueue⟩ := List.mem_flatMap.mp other
      obtain ⟨member, apart⟩ := OrderedMap.mem_erase.mp inMap
      exact apart ((scheduled.wellFormed entry member).own p inQueue).symm
    rw [elsewhere, Nat.add_zero]
  rw [List.perm_iff_count]
  intro p
  rw [counted _ _ scheduled, counted _ _ otherScheduled, similar.queues]

end Schedules

namespace RoundRobinPacketQueue

/-- The schedule of a queue. -/
def schedule (q : RoundRobinPacketQueue) : Schedule := ⟨q.maxSize, q.streams, q.streamPriorities⟩

/-- The queue with another schedule. -/
def withSchedule (q : RoundRobinPacketQueue) (schedule : Schedule) : RoundRobinPacketQueue :=
  { q with
    maxSize := schedule.maxSize
    streams := schedule.streams
    streamPriorities := schedule.turns }

theorem eq_withSchedule {q r : RoundRobinPacketQueue}
    (overhead : r.transportOverheadPerPacket = q.transportOverheadPerPacket)
    (clock : r.timeLastUpdated = q.timeLastUpdated) (paused : r.paused = q.paused)
    (count : r.sizePackets = q.sizePackets) (size : r.size = q.size)
    (sum : r.queueTimeSum = q.queueTimeSum) (pause : r.pauseTimeSum = q.pauseTimeSum)
    (times : r.enqueueTimes = q.enqueueTimes) (slot : r.singlePacketQueue = q.singlePacketQueue)
    (included : r.includeOverhead = q.includeOverhead) : r = q.withSchedule r.schedule := by
  unfold withSchedule
  rw [← overhead, ← clock, ← paused, ← count, ← size, ← sum, ← pause, ← times, ← slot, ← included]
  rfl

/-- The same packets, times and sums, with similar schedules, and no packet in the slot. -/
structure Matches (exact : Bool) (q r : RoundRobinPacketQueue) : Prop where
  consistent : q.Consistent
  otherConsistent : r.Consistent
  unslotted : q.singlePacketQueue = none
  rest : r = q.withSchedule r.schedule
  similar : q.schedule.Similar exact r.schedule

variable {exact : Bool} {q r : RoundRobinPacketQueue}

theorem Matches.inStreams_perm (same : q.Matches exact r) : q.inStreams.Perm r.inStreams :=
  same.similar.packets_perm same.consistent.scheduled same.otherConsistent.scheduled

/-- A packet that enters both queues. -/
theorem Matches.placed (same : q.Matches exact r) {next otherNext : RoundRobinPacketQueue}
    {p : QueuedPacket} {key otherKey : StreamPrioKey} {turns otherTurns : List Turn}
    (turn : q.scheduleFor (streamIn q.streams p.ssrc) p.priority = some (key, turns))
    (otherTurn : r.scheduleFor (streamIn r.streams p.ssrc) p.priority = some (otherKey, otherTurns))
    (own : ¬ exact → ∀ other ∈ q.inStreams, other.ssrc ≠ p.ssrc → other.priority ≠ p.priority)
    (kept : next.schedule = q.schedule) (rest : otherNext = next.withSchedule r.schedule)
    (unslotted : next.singlePacketQueue = none) (consistent : (next.placed p key turns).Consistent)
    (otherConsistent : (otherNext.placed p otherKey otherTurns).Consistent) :
    (next.placed p key turns).Matches exact (otherNext.placed p otherKey otherTurns) := by
  have streams : next.streams = q.streams := congrArg Schedule.streams kept
  have size : next.maxSize = q.maxSize := congrArg Schedule.maxSize kept
  refine ⟨consistent, otherConsistent, unslotted, by rw [rest]; rfl, ?_⟩
  have sameTurns : List.Forall₂ (SameTurn exact) turns otherTurns :=
    same.similar.scheduleFor same.consistent.scheduled same.otherConsistent.scheduled rfl rfl own
      turn otherTurn
  have queue := same.similar.queues p.ssrc
  change (streamIn q.streams p.ssrc).packetQueue = (streamIn r.streams p.ssrc).packetQueue at queue
  subst rest
  unfold RoundRobinPacketQueue.placed schedule
  dsimp only
  rw [streams, size]
  refine same.similar.replace ?_ sameTurns (fun accounted => ?_) (fun inexact => ?_)
  · change List.orderedInsert _ _ _ = List.orderedInsert _ _ (streamIn r.streams p.ssrc).packetQueue
    rw [queue]
  · exact ⟨(same.similar.sizes accounted).1, (same.similar.sizes accounted).2 p.ssrc⟩
  · have perm := inStreams_placed_perm next p key turns
    unfold RoundRobinPacketQueue.inStreams RoundRobinPacketQueue.placed at perm
    dsimp only at perm
    rw [streams] at perm
    intro first inFirst second inSecond differ
    have inFirst := perm.subset inFirst
    have inSecond := perm.subset inSecond
    rcases List.mem_cons.mp inFirst with rfl | oldFirst
    · rcases List.mem_cons.mp inSecond with rfl | oldSecond
      · exact absurd rfl differ
      · exact (own inexact second oldSecond (Ne.symm differ)).symm
    · rcases List.mem_cons.mp inSecond with rfl | oldSecond
      · exact own inexact first oldFirst differ
      · exact same.similar.apart inexact first oldFirst second oldSecond differ

theorem promote_of_unslotted (unslotted : q.singlePacketQueue = none) :
    q.maybePromoteSinglePacketToNormalQueue = some q := by
  rw [maybePromoteSinglePacketToNormalQueue, unslotted]

/-- What a push into the streams makes of a queue without a packet in the slot. -/
theorem pushNormal_eq (consistent : q.Consistent) (unslotted : q.singlePacketQueue = none)
    (priority : Int) {time : Int} (later : q.timeLastUpdated ≤ time) (order : Nat)
    (packet : Packet) :
    ∃ key turns, q.scheduleFor (streamIn q.streams packet.ssrc) priority = some (key, turns) ∧
      q.pushNormal priority time order packet =
        some ((((q.recorded time).advance time).counted
          ⟨priority, time - (q.advance time).pauseTimeSum, order, some time, packet⟩).placed
          ⟨priority, time - (q.advance time).pauseTimeSum, order, some time, packet⟩ key turns) := by
  have scheduled : Scheduled (q.recorded time).streams (q.recorded time).streamPriorities :=
    consistent.scheduled
  let p : QueuedPacket := ⟨priority, time, order, some time, packet⟩
  obtain ⟨key, turns, turn, pushed, -⟩ := pushQueued_of_arrival (p := p) scheduled rfl later
  refine ⟨key, turns, turn, ?_⟩
  unfold RoundRobinPacketQueue.pushNormal
  rw [promote_of_unslotted unslotted, Option.bind_some]
  exact pushed

/-- A push into the streams of both queues. -/
theorem Matches.pushNormal (same : q.Matches exact r) (priority : Int) {time : Int}
    (later : q.timeLastUpdated ≤ time) (order : Nat) (packet : Packet)
    (own : ¬ exact → ∀ p ∈ q.inStreams, p.ssrc ≠ packet.ssrc → p.priority ≠ priority) :
    ∃ next otherNext, q.pushNormal priority time order packet = some next ∧
      r.pushNormal priority time order packet = some otherNext ∧ next.Matches exact otherNext := by
  have otherUnslotted : r.singlePacketQueue = none := by
    rw [same.rest]
    exact same.unslotted
  have otherLater : r.timeLastUpdated ≤ time := by
    rw [same.rest]
    exact later
  obtain ⟨next, pushed, -, spec⟩ := pushNormal_spec same.consistent priority later order packet
  obtain ⟨otherNext, otherPushed, -, otherSpec⟩ :=
    pushNormal_spec same.otherConsistent priority otherLater order packet
  refine ⟨next, otherNext, pushed, otherPushed, ?_⟩
  obtain ⟨key, turns, turn, shape⟩ :=
    pushNormal_eq same.consistent same.unslotted priority later order packet
  obtain ⟨otherKey, otherTurns, otherTurn, otherShape⟩ :=
    pushNormal_eq same.otherConsistent otherUnslotted priority otherLater order packet
  obtain rfl := Option.some.inj (pushed.symm.trans shape)
  obtain rfl := Option.some.inj (otherPushed.symm.trans otherShape)
  have pause : (r.advance time).pauseTimeSum = (q.advance time).pauseTimeSum := by
    rw [same.rest]
    rfl
  rw [pause] at otherSpec ⊢
  refine same.placed turn otherTurn own rfl ?_ same.unslotted spec.consistent otherSpec.consistent
  rw [same.rest]
  rfl

/-- Rescheduling a stream in both queues after it has sent a packet. -/
theorem sameTurn_reschedule {stream otherStream : Stream} {turns otherTurns : List Turn}
    (queue : stream.packetQueue = otherStream.packetQueue) (ssrc : stream.ssrc = otherStream.ssrc)
    (size : exact → stream.size = otherStream.size)
    (rest : List.Forall₂ (SameTurn exact) turns otherTurns)
    (apart : ¬ exact → ∀ p ∈ stream.packetQueue, ∀ turn ∈ turns, turn.1.priority ≠ p.priority) :
    List.Forall₂ (SameTurn exact) (reschedule stream turns).2
      (reschedule otherStream otherTurns).2 := by
  unfold reschedule
  rw [← queue, ← ssrc]
  cases top : stream.packetQueue.head? with
  | none => exact rest
  | some p =>
      have first : p ∈ stream.packetQueue := List.mem_of_mem_head? (by rw [top]; rfl)
      refine sameTurn_insert rest ⟨rfl, rfl, fun accounted => ?_⟩ fun inexact => apart inexact p first
      rw [size accounted]

/-- A pop from the streams of both queues. -/
theorem Matches.popNormal (same : q.Matches exact r) (waiting : q.sizePackets ≠ 0) :
    ∃ packet next otherNext, q.popNormal = some (packet, next) ∧
      r.popNormal = some (packet, otherNext) ∧ next.Matches exact otherNext := by
  have otherUnslotted : r.singlePacketQueue = none := by
    rw [same.rest]
    exact same.unslotted
  have otherWaiting : r.sizePackets ≠ 0 := by
    rw [same.rest]
    exact waiting
  obtain ⟨turn, rest, p, others, time, turns, queue, inTime, popped⟩ :=
    popNormal_eq same.consistent same.unslotted waiting
  obtain ⟨otherTurn, otherRest, otherP, otherOthers, otherTime, otherTurns, otherQueue, otherInTime,
    otherPopped⟩ := popNormal_eq same.otherConsistent otherUnslotted otherWaiting
  -- the turn is that of the same stream, hence the packet is the same
  have sameTurns := same.similar.turns
  change List.Forall₂ _ q.streamPriorities r.streamPriorities at sameTurns
  rw [turns, otherTurns] at sameTurns
  have ssrc : turn.2 = otherTurn.2 := (List.forall₂_cons.mp sameTurns).1.1
  have sameQueue : (streamIn q.streams turn.2).packetQueue =
      (streamIn r.streams turn.2).packetQueue := same.similar.queues turn.2
  rw [← ssrc] at otherQueue otherPopped
  rw [queue, otherQueue] at sameQueue
  obtain ⟨rfl, -⟩ := List.cons.inj sameQueue
  obtain rfl : time = otherTime := Option.some.inj (inTime.symm.trans otherInTime)
  refine ⟨p.packet, _, _, popped, otherPopped, ?_⟩
  obtain ⟨consistent, split⟩ := same.consistent.sent same.unslotted queue inTime
  obtain ⟨otherConsistent, -⟩ := same.otherConsistent.sent otherUnslotted otherQueue inTime
  refine ⟨consistent, otherConsistent, same.unslotted, ?_, ?_⟩
  · rw [same.rest]
    rfl
  · have sentSize : exact → q.sentSize (streamIn q.streams turn.2) p =
        r.sentSize (streamIn r.streams turn.2) p := by
      intro accounted
      have sizes := same.similar.sizes accounted
      have size : (streamIn q.streams turn.2).size = (streamIn r.streams turn.2).size :=
        sizes.2 turn.2
      have most : q.maxSize = r.maxSize := sizes.1
      have packet : q.packetSize p = r.packetSize p := by rw [same.rest]; rfl
      rw [RoundRobinPacketQueue.sentSize, RoundRobinPacketQueue.sentSize, size, most, packet]
    have others := same.similar.unschedule same.consistent.scheduled
      same.otherConsistent.scheduled turn.2
    have tails : (q.sending turn.2 p).packetQueue = (r.sending turn.2 p).packetQueue := by
      unfold sending
      dsimp only
      rw [queue, otherQueue, sameQueue]
    refine same.similar.replace ?_ (sameTurn_reschedule tails rfl sentSize others ?_)
      (fun accounted => ?_) (fun inexact first inFirst second inSecond differ => ?_)
    · rw [reschedule_stream, reschedule_stream]
      exact tails
    · intro inexact next inTail
      have member : next ∈ (streamIn q.streams turn.2).packetQueue := List.mem_of_mem_tail inTail
      have isSsrc := (same.consistent.scheduled.streamIn_wellFormed turn.2).own next member
      have waits : next ∈ packetsOf q.streams.entries :=
        same.consistent.scheduled.mem_streamIn.mpr (isSsrc ▸ member)
      refine same.consistent.scheduled.unschedule_priority_ne fun other inOther apart => ?_
      exact same.similar.apart inexact other inOther next waits (isSsrc ▸ apart)
    · rw [reschedule_stream, reschedule_stream]
      exact ⟨congrArg₂ max (same.similar.sizes accounted).1 (sentSize accounted),
        sentSize accounted⟩
    · exact same.similar.apart inexact first (split.symm.subset (List.mem_cons_of_mem _ inFirst))
        second (split.symm.subset (List.mem_cons_of_mem _ inSecond)) differ

/-- The queue with another clock. -/
def retimed (q : RoundRobinPacketQueue) (now : Int) (paused : Bool) (queueTimeSum : Int)
    (pauseTimeSum : Int) : RoundRobinPacketQueue :=
  { q with
    timeLastUpdated := now
    paused := paused
    queueTimeSum := queueTimeSum
    pauseTimeSum := pauseTimeSum }

variable {next : RoundRobinPacketQueue}

/-- Promotion does not look at the clock. -/
theorem promote_retimed (consistent : q.Consistent) (now : Int) (paused : Bool)
    (queueTimeSum pauseTimeSum : Int)
    (promotes : q.maybePromoteSinglePacketToNormalQueue = some next) :
    (q.retimed now paused queueTimeSum pauseTimeSum).maybePromoteSinglePacketToNormalQueue =
      some (next.retimed now paused queueTimeSum pauseTimeSum) := by
  have kept : (q.retimed now paused queueTimeSum pauseTimeSum).singlePacketQueue =
      q.singlePacketQueue := rfl
  unfold maybePromoteSinglePacketToNormalQueue at promotes ⊢
  rw [kept]
  cases slot : q.singlePacketQueue with
  | none =>
      rw [slot] at promotes
      obtain rfl := Option.some.inj promotes
      rfl
  | some p =>
      rw [slot] at promotes
      have outside := (consistent.alone p slot).2
      unfold pushQueued enter at promotes ⊢
      dsimp only at promotes ⊢
      rw [outside] at promotes ⊢
      have turn : (q.retimed now paused queueTimeSum pauseTimeSum).scheduleFor
          ((q.retimed now paused queueTimeSum pauseTimeSum).streamOf p.ssrc) p.priority =
            q.scheduleFor (q.streamOf p.ssrc) p.priority := rfl
      rw [turn]
      cases made : q.scheduleFor (q.streamOf p.ssrc) p.priority with
      | none =>
          rw [made] at promotes
          cases promotes
      | some scheduled =>
          rw [made] at promotes
          obtain rfl := Option.some.inj promotes
          rfl

/-- The queue `r` has no slot; the queue `q` is like it once the slot is emptied. -/
structure Refines (exact : Bool) (q r : RoundRobinPacketQueue) : Prop where
  consistent : q.Consistent
  promotion : ∃ next, q.maybePromoteSinglePacketToNormalQueue = some next ∧ next.Matches exact r

theorem Consistent.repaused (consistent : q.Consistent) (paused : Bool) :
    Consistent { q with paused := paused } :=
  ⟨consistent.scheduled, consistent.times, consistent.sorted, consistent.alone, consistent.count,
    consistent.bytes, consistent.waiting⟩

theorem Matches.unslotted_right (same : q.Matches exact r) : r.singlePacketQueue = none := by
  rw [same.rest]
  exact same.unslotted

/-- A queue without a packet in the slot is its own promotion. -/
theorem Matches.refines (same : q.Matches exact r) : q.Refines exact r :=
  ⟨same.consistent, q, promote_of_unslotted same.unslotted, same⟩

/-- Time passes alike for both queues. -/
theorem Refines.later (refines : q.Refines exact r) (now : Int) (paused : Bool) :
    Refines exact { q.advance now with paused := paused }
    { r.advance now with paused := paused } := by
  obtain ⟨next, promotes, same⟩ := refines.promotion
  obtain ⟨_, again, -, -, -, rest⟩ := promote_spec refines.consistent
  obtain rfl := Option.some.inj (promotes.symm.trans again)
  have advanced : { next.advance now with paused := paused } =
      next.retimed now paused (q.advance now).queueTimeSum (q.advance now).pauseTimeSum := by
    rw [rest]
    rfl
  refine ⟨(refines.consistent.advance now).repaused paused, _,
    promote_retimed refines.consistent now paused _ _ promotes, ?_⟩
  rw [← advanced]
  refine ⟨(same.consistent.advance now).repaused paused,
    (same.otherConsistent.advance now).repaused paused, same.unslotted, ?_, same.similar⟩
  rw [same.rest]
  rfl

/-- A change of sizes that agrees on both queues. -/
theorem Matches.resized (same : q.Matches exact r) {included : Bool} {overhead size : Int}
    (consistent : Consistent { q with
      includeOverhead := included, transportOverheadPerPacket := overhead, size := size })
    (otherConsistent : Consistent { r with
      includeOverhead := included, transportOverheadPerPacket := overhead, size := size }) :
    Matches exact
      { q with includeOverhead := included, transportOverheadPerPacket := overhead, size := size }
      { r with includeOverhead := included, transportOverheadPerPacket := overhead, size := size } := by
  refine ⟨consistent, otherConsistent, same.unslotted, ?_, same.similar⟩
  rw [same.rest]
  rfl

theorem Refines.setIncludeOverhead (refines : q.Refines exact r)
    (excluded : q.includeOverhead = false) :
    ∃ next otherNext, q.setIncludeOverhead = some next ∧ r.setIncludeOverhead = some otherNext ∧
      next.Refines exact otherNext := by
  obtain ⟨promoted, promotes, same⟩ := refines.promotion
  obtain ⟨_, again, -, -, -, rest⟩ := promote_spec refines.consistent
  obtain rfl := Option.some.inj (promotes.symm.trans again)
  have otherExcluded : r.includeOverhead = false := by rw [same.rest, rest]; exact excluded
  obtain ⟨next, made, refreshed, -⟩ := setIncludeOverhead_spec refines.consistent excluded
  obtain ⟨otherNext, otherMade, otherRefreshed, -⟩ :=
    setIncludeOverhead_spec same.otherConsistent otherExcluded
  refine ⟨next, otherNext, made, otherMade, Matches.refines ?_⟩
  have consistent := refreshed.consistent
  have otherConsistent := otherRefreshed.consistent
  unfold RoundRobinPacketQueue.setIncludeOverhead at made otherMade
  rw [promotes, Option.map_some] at made
  rw [promote_of_unslotted same.unslotted_right, Option.map_some] at otherMade
  obtain rfl := Option.some.inj made
  obtain rfl := Option.some.inj otherMade
  have overhead : r.transportOverheadPerPacket = promoted.transportOverheadPerPacket := by
    rw [same.rest]
    rfl
  have size : r.size = promoted.size := by
    rw [same.rest]
    rfl
  rw [overhead, size, ← (same.inStreams_perm.map _).sum_eq] at otherConsistent ⊢
  exact same.resized consistent otherConsistent

theorem Refines.setTransportOverhead (refines : q.Refines exact r) (overhead : Int) :
    ∃ next otherNext, q.setTransportOverhead overhead = some next ∧
      r.setTransportOverhead overhead = some otherNext ∧ next.Refines exact otherNext := by
  obtain ⟨promoted, promotes, same⟩ := refines.promotion
  obtain ⟨next, made, refreshed, -⟩ := setTransportOverhead_spec refines.consistent overhead
  obtain ⟨otherNext, otherMade, otherRefreshed, -⟩ :=
    setTransportOverhead_spec same.otherConsistent overhead
  refine ⟨next, otherNext, made, otherMade, Matches.refines ?_⟩
  have consistent := refreshed.consistent
  have otherConsistent := otherRefreshed.consistent
  unfold RoundRobinPacketQueue.setTransportOverhead at made otherMade
  rw [promotes, Option.map_some] at made
  rw [promote_of_unslotted same.unslotted_right, Option.map_some] at otherMade
  obtain rfl := Option.some.inj made
  obtain rfl := Option.some.inj otherMade
  have previous : r.transportOverheadPerPacket = promoted.transportOverheadPerPacket := by
    rw [same.rest]
    rfl
  have size : r.size = promoted.size := by
    rw [same.rest]
    rfl
  have included : r.includeOverhead = promoted.includeOverhead := by
    rw [same.rest]
    rfl
  have packets : (packetsOf r.streams.entries).length = (packetsOf promoted.streams.entries).length :=
    same.inStreams_perm.length_eq.symm
  simp only [sum_overheads, packets, previous, size, included] at consistent otherConsistent ⊢
  exact same.resized consistent otherConsistent

/-- Two queues without packets. -/
theorem matches_of_empty (consistent : q.Consistent) (otherConsistent : r.Consistent)
    (unslotted : q.singlePacketQueue = none) (otherUnslotted : r.singlePacketQueue = none)
    (empty : q.sizePackets = 0) (otherEmpty : r.sizePackets = 0)
    (clock : r.timeLastUpdated = q.timeLastUpdated) (paused : r.paused = q.paused)
    (pause : r.pauseTimeSum = q.pauseTimeSum)
    (overhead : r.transportOverheadPerPacket = q.transportOverheadPerPacket)
    (included : r.includeOverhead = q.includeOverhead) : q.Matches false r := by
  have nothing : ∀ q : RoundRobinPacketQueue, q.Consistent → q.sizePackets = 0 →
      packetsOf q.streams.entries = [] ∧ q.streamPriorities = [] ∧ q.enqueueTimes = [] ∧
        q.size = 0 ∧ q.queueTimeSum = 0 := by
    intro q consistent empty
    have none := consistent.queued_eq_nil empty
    have noPackets : packetsOf q.streams.entries = [] := (List.append_eq_nil_iff.mp none).2
    have noTimes : q.enqueueTimes.map some = [] := by
      have times := consistent.times
      rw [show q.inStreams = [] from noPackets] at times
      exact times.eq_nil
    refine ⟨noPackets, consistent.scheduled.turns_eq_nil noPackets, List.map_eq_nil_iff.mp noTimes,
      ?_, ?_⟩
    · rw [consistent.bytes, none]
      rfl
    · rw [consistent.waiting, none]
      rfl
  obtain ⟨packets, turns, times, size, sum⟩ := nothing q consistent empty
  obtain ⟨otherPackets, otherTurns, otherTimes, otherSize, otherSum⟩ :=
    nothing r otherConsistent otherEmpty
  have queue : ∀ (streams : OrderedMap Nat Stream) (turns : List Turn), Scheduled streams turns →
      packetsOf streams.entries = [] → ∀ ssrc, (streamIn streams ssrc).packetQueue = [] := by
    intro streams turns scheduled none ssrc
    have perm := packetsOf_perm streams ssrc
    rw [none] at perm
    exact (List.append_eq_nil_iff.mp perm.symm.eq_nil).1
  refine ⟨consistent, otherConsistent, unslotted, ?_, ?_, ?_, nofun, ?_⟩
  · exact eq_withSchedule overhead clock paused (otherEmpty.trans empty.symm)
      (otherSize.trans size.symm) (otherSum.trans sum.symm) pause (otherTimes.trans times.symm)
      (otherUnslotted.trans unslotted.symm) included
  · intro ssrc
    exact (queue _ _ consistent.scheduled packets ssrc).trans
      (queue _ _ otherConsistent.scheduled otherPackets ssrc).symm
  · change List.Forall₂ _ q.streamPriorities r.streamPriorities
    rw [turns, otherTurns]
    exact .nil
  · intro _ first member
    rw [show packetsOf q.schedule.streams.entries = [] from packets] at member
    exact absurd member List.not_mem_nil

/-- A pop from both queues. A packet that leaves from the slot is not accounted to its
stream. -/
theorem Refines.pop (refines : q.Refines exact r) (waiting : q.sizePackets ≠ 0) :
    ∃ packet next otherNext, q.pop = some (packet, next) ∧ r.pop = some (packet, otherNext) ∧
      next.Refines (exact && q.singlePacketQueue.isNone) otherNext := by
  obtain ⟨promoted, promotes, same⟩ := refines.promotion
  obtain ⟨_, again, -, -, stamped, rest⟩ := promote_spec refines.consistent
  obtain rfl := Option.some.inj (promotes.symm.trans again)
  have promotedWaiting : promoted.sizePackets ≠ 0 := by
    rw [rest]
    exact waiting
  obtain ⟨packet, next, otherNext, popped, otherPopped, matching⟩ := same.popNormal promotedWaiting
  have otherPop : r.pop = some (packet, otherNext) := by
    rw [RoundRobinPacketQueue.pop, same.unslotted_right]
    exact otherPopped
  cases slot : q.singlePacketQueue with
  | none =>
      obtain rfl : q = promoted := Option.some.inj ((promote_of_unslotted slot).symm.trans promotes)
      refine ⟨packet, next, otherNext, ?_, otherPop, ?_⟩
      · rw [RoundRobinPacketQueue.pop, slot]
        exact popped
      · rw [Option.isNone_none, Bool.and_true]
        exact matching.refines
  | some p =>
      have empty := (refines.consistent.alone p slot).1
      have only : q.stamps = [(p.packet, p.enqueueTime)] := by
        rw [stamps, queued, slot, empty]
        rfl
      -- the promoted queue and the queue without a slot give the same packet, the only one
      have promotedPop : promoted.pop = some (packet, next) := by
        rw [RoundRobinPacketQueue.pop, same.unslotted]
        exact popped
      obtain ⟨_, _, again, left⟩ := pop_spec same.consistent promotedWaiting
      obtain ⟨rfl, rfl⟩ := Prod.mk.inj (Option.some.inj (promotedPop.symm.trans again))
      obtain ⟨entered, split⟩ := left.stamps
      have single := split.symm.trans stamped
      rw [only] at single
      obtain ⟨isPacket, none⟩ := List.cons.inj (List.perm_singleton.mp single)
      have isPacket : packet = p.packet := congrArg Prod.fst isPacket
      obtain ⟨_, after, own, departed⟩ := pop_spec refines.consistent waiting
      have shape := own
      rw [RoundRobinPacketQueue.pop, slot] at shape
      obtain ⟨rfl, rfl⟩ := Prod.mk.inj (Option.some.inj shape)
      refine ⟨packet, _, otherNext, by rw [isPacket]; exact own, otherPop, ?_⟩
      rw [Option.isNone_some, Bool.and_false]
      refine (matches_of_empty departed.consistent matching.otherConsistent rfl
        matching.unslotted_right rfl ?_ ?_ ?_ ?_ ?_ ?_).refines
      · have count : next.sizePackets = next.stamps.length := by
          rw [stamps, List.length_map]
          exact left.consistent.count
        rw [matching.rest]
        change next.sizePackets = 0
        rw [count, none]
        rfl
      · rw [matching.rest]
        exact left.clock.trans (by rw [rest])
      · rw [matching.rest]
        exact left.paused.trans (by rw [rest])
      · rw [matching.rest]
        exact left.pause.trans (by rw [rest])
      · rw [matching.rest]
        exact left.overhead.trans (by rw [rest])
      · rw [matching.rest]
        exact left.included.trans (by rw [rest])

/-- Promotion keeps the SSRC and the priority of a packet. -/
theorem exists_of_mem_promoted (consistent : q.Consistent)
    (promotes : q.maybePromoteSinglePacketToNormalQueue = some next) {p : QueuedPacket}
    (member : p ∈ next.inStreams) :
    ∃ original ∈ q.queued, original.ssrc = p.ssrc ∧ original.priority = p.priority := by
  cases slot : q.singlePacketQueue with
  | none =>
      obtain rfl := Option.some.inj ((promote_of_unslotted slot).symm.trans promotes)
      exact ⟨p, List.mem_append_right _ member, rfl, rfl⟩
  | some single =>
      obtain ⟨empty, outside⟩ := consistent.alone single slot
      obtain ⟨key, turns, -, pushed, -⟩ := pushQueued_of_slot consistent.scheduled outside
      rw [maybePromoteSinglePacketToNormalQueue, slot] at promotes
      dsimp only at promotes
      rw [pushed] at promotes
      obtain rfl := Option.some.inj promotes
      have moved := (inStreams_placed_perm _ _ key turns).subset member
      rcases List.mem_cons.mp moved with rfl | old
      · exact ⟨single, List.mem_append_left _ (by rw [slot]; exact List.mem_singleton_self _), rfl, rfl⟩
      · have none : p ∈ q.inStreams := old
        rw [empty] at none
        exact absurd none List.not_mem_nil

/-- On an empty queue that was never paused, the slot only delays a push into the streams. -/
theorem promote_push (consistent : q.Consistent) (priority : Int) {time : Int}
    (later : q.timeLastUpdated ≤ time) (order : Nat) (packet : Packet)
    (empty : q.sizePackets = 0) (unpaused : (q.advance time).pauseTimeSum = 0)
    (pushed : q.push priority time order packet = some next) :
    next.maybePromoteSinglePacketToNormalQueue = q.pushNormal priority time order packet := by
  have unslotted : q.singlePacketQueue = none := by
    have none := consistent.queued_eq_nil empty
    simpa using (List.append_eq_nil_iff.mp none).1
  obtain ⟨key, turns, turn, normal⟩ := pushNormal_eq consistent unslotted priority later order packet
  unfold RoundRobinPacketQueue.push at pushed
  rw [if_pos empty, updateQueueTime_eq later] at pushed
  let p : QueuedPacket := ⟨priority, time, order, none, packet⟩
  have slotted : p.subtractPauseTime (0 : Int) = p := by
    unfold QueuedPacket.subtractPauseTime
    rw [sub_zero]
  have shape : { q.advance time with
      singlePacketQueue := some (p.subtractPauseTime (q.advance time).pauseTimeSum)
      sizePackets := 1
      size := q.size + q.packetSize p } = next := Option.some.inj pushed
  rw [unpaused, slotted] at shape
  have scheduled : Scheduled next.streams next.streamPriorities := shape ▸ consistent.scheduled
  obtain ⟨_, _, again, promotes, -⟩ := pushQueued_of_slot (p := p) scheduled rfl
  subst shape
  obtain ⟨rfl, rfl⟩ := Prod.mk.inj (Option.some.inj (again.symm.trans turn))
  have slot : maybePromoteSinglePacketToNormalQueue { q.advance time with
      singlePacketQueue := some p
      sizePackets := 1
      size := q.size + q.packetSize p } = (pushQueued { q.advance time with
      singlePacketQueue := some p
      sizePackets := 1
      size := q.size + q.packetSize p } p).map fun q => { q with singlePacketQueue := none } := rfl
  rw [normal, unpaused, sub_zero, slot, promotes, ← unslotted]
  have count : 1 = q.sizePackets + 1 := by rw [empty]
  rw [count]
  rfl

/-- A push into the queue, and into the streams of the queue without a slot. -/
theorem Refines.push (refines : q.Refines exact r) (priority : Int) {time : Int}
    (later : q.timeLastUpdated ≤ time) (order : Nat) (packet : Packet)
    (unpaused : q.sizePackets = 0 → (q.advance time).pauseTimeSum = 0)
    (own : ¬ exact → ∀ p ∈ q.queued, p.ssrc ≠ packet.ssrc → p.priority ≠ priority) :
    ∃ next otherNext, q.push priority time order packet = some next ∧
      r.pushNormal priority time order packet = some otherNext ∧ next.Refines exact otherNext := by
  obtain ⟨promoted, promotes, same⟩ := refines.promotion
  obtain ⟨_, again, -, -, -, rest⟩ := promote_spec refines.consistent
  obtain rfl := Option.some.inj (promotes.symm.trans again)
  have promotedLater : promoted.timeLastUpdated ≤ time := by
    rw [rest]
    exact later
  have promotedOwn : ¬ exact → ∀ p ∈ promoted.inStreams,
      p.ssrc ≠ packet.ssrc → p.priority ≠ priority := by
    intro inexact p member apart
    obtain ⟨original, waits, ssrc, isPriority⟩ :=
      exists_of_mem_promoted refines.consistent promotes member
    rw [← isPriority]
    exact own inexact original waits (ssrc ▸ apart)
  obtain ⟨next, otherNext, pushed, otherPushed, matching⟩ :=
    same.pushNormal priority promotedLater order packet promotedOwn
  have normal : q.pushNormal priority time order packet =
      promoted.pushNormal priority time order packet := by
    unfold RoundRobinPacketQueue.pushNormal
    rw [promotes, promote_of_unslotted same.unslotted]
  obtain ⟨own, put, spec⟩ := push_spec refines.consistent priority later order packet
  by_cases empty : q.sizePackets = 0
  · refine ⟨own, otherNext, put, otherPushed, spec.consistent, next, ?_, matching⟩
    rw [promote_push refines.consistent priority later order packet empty (unpaused empty) put,
      normal, pushed]
  · refine ⟨next, otherNext, ?_, otherPushed, matching.refines⟩
    rw [RoundRobinPacketQueue.push, if_neg empty, normal, pushed]

/-- What a caller can see of a queue. -/
structure Observation where
  sizeInPackets : Nat
  size : Int
  averageQueueTime : Int
  oldestEnqueueTime : Option Int
  leadingAudioPacketEnqueueTime : Option Int

def observe (q : RoundRobinPacketQueue) : Observation where
  sizeInPackets := q.sizePackets
  size := q.size
  averageQueueTime := q.averageQueueTime
  oldestEnqueueTime := q.oldestEnqueueTime
  leadingAudioPacketEnqueueTime := q.leadingAudioPacketEnqueueTime

theorem leading_of_unslotted (unslotted : q.singlePacketQueue = none) :
    q.leading = q.streamPriorities.head?.bind fun turn =>
      (streamIn q.streams turn.2).packetQueue.head? := by
  unfold leading
  rw [unslotted]
  cases q.streamPriorities.head? with
  | none => rfl
  | some turn =>
      change (q.streams.find turn.2).bind _ = (streamIn q.streams turn.2).packetQueue.head?
      unfold streamIn
      cases q.streams.find turn.2 <;> rfl

/-- Promotion is not seen. -/
theorem observe_promoted (consistent : q.Consistent)
    (promotes : q.maybePromoteSinglePacketToNormalQueue = some next) :
    q.observe = next.observe := by
  obtain ⟨_, again, agree, unslotted, -, rest⟩ := promote_spec consistent
  obtain rfl := Option.some.inj (promotes.symm.trans again)
  have count : next.sizePackets = q.sizePackets := by rw [rest]
  have size : next.size = q.size := by rw [rest]
  have sum : next.queueTimeSum = q.queueTimeSum := by rw [rest]
  cases slot : q.singlePacketQueue with
  | none =>
      obtain rfl := Option.some.inj ((promote_of_unslotted slot).symm.trans promotes)
      rfl
  | some p =>
      obtain ⟨empty, outside⟩ := consistent.alone p slot
      have waiting : q.sizePackets ≠ 0 := by
        rw [consistent.count, queued, slot]
        exact Nat.succ_ne_zero _
      have times : q.enqueueTimes = [] := by
        have times := consistent.times
        rw [empty] at times
        exact List.map_eq_nil_iff.mp times.eq_nil
      obtain ⟨key, turns, -, pushed, -⟩ := pushQueued_of_slot consistent.scheduled outside
      have shape := promotes
      rw [maybePromoteSinglePacketToNormalQueue, slot] at shape
      dsimp only at shape
      rw [pushed] at shape
      have nextTimes : next.enqueueTimes = [p.enqueueTime] := by
        obtain rfl := Option.some.inj shape
        change q.enqueueTimes.orderedInsert _ _ = _
        rw [times]
        rfl
      have only : next.inStreams.Perm [promoted p] := by
        obtain rfl := Option.some.inj shape
        have moved := inStreams_placed_perm (q.recorded p.enqueueTime) (promoted p) key turns
        rw [show (q.recorded p.enqueueTime).inStreams = [] from empty] at moved
        exact moved
      have leading : next.leading = some (promoted p) := by
        obtain ⟨turn, others, top, later, -, nextTurns, queue, -, -⟩ :=
          popNormal_eq agree unslotted (count ▸ waiting)
        have member : top ∈ next.inStreams := (packetsOf_perm next.streams turn.2).symm.subset
          (List.mem_append_left _ (queue ▸ List.mem_cons_self))
        rw [leading_of_unslotted unslotted, nextTurns, List.head?_cons, Option.bind_some, queue,
          List.head?_cons, List.mem_singleton.mp (only.subset member)]
      unfold observe averageQueueTime oldestEnqueueTime leadingAudioPacketEnqueueTime
        RoundRobinPacketQueue.empty
      rw [leading, unslotted, slot, RoundRobinPacketQueue.leading, slot, count, size, sum, nextTimes]
      simp [waiting, promoted, Option.filter]

theorem Matches.observe_eq (same : q.Matches exact r) : q.observe = r.observe := by
  have leading : q.leading = r.leading := by
    rw [leading_of_unslotted same.unslotted, leading_of_unslotted same.unslotted_right]
    have turns := same.similar.turns
    change List.Forall₂ _ q.streamPriorities r.streamPriorities at turns
    generalize q.streamPriorities = left at turns
    generalize r.streamPriorities = right at turns
    cases turns with
    | nil => rfl
    | cons first _ =>
        rw [List.head?_cons, List.head?_cons, Option.bind_some, Option.bind_some, ← first.1]
        exact congrArg List.head? (same.similar.queues _)
  have count : r.sizePackets = q.sizePackets := by rw [same.rest]; rfl
  have size : r.size = q.size := by rw [same.rest]; rfl
  have sum : r.queueTimeSum = q.queueTimeSum := by rw [same.rest]; rfl
  have times : r.enqueueTimes = q.enqueueTimes := by rw [same.rest]; rfl
  unfold observe averageQueueTime oldestEnqueueTime leadingAudioPacketEnqueueTime
    RoundRobinPacketQueue.empty
  rw [leading, same.unslotted, same.unslotted_right, count, size, sum, times]

theorem Refines.observe_eq (refines : q.Refines exact r) : q.observe = r.observe := by
  obtain ⟨next, promotes, same⟩ := refines.promotion
  exact (observe_promoted refines.consistent promotes).trans same.observe_eq

end RoundRobinPacketQueue

section Runs

/-- A run of the queue, with a note whether a packet has left from the slot. -/
structure FastRun where
  run : PacerRun
  poppedAlone : Bool := false

/-- The event takes a packet from the slot. -/
def QueueEvent.popsSlot (q : RoundRobinPacketQueue) : QueueEvent → Bool
  | .pop => q.singlePacketQueue.isSome
  | _ => false

variable (state : FastRun)

/-- One operation of the queue with its slot. -/
def fastStep (event : QueueEvent) : FastRun × List Packet :=
  let next := pacerStep RoundRobinPacketQueue.push state.run event
  (⟨next.1, state.poppedAlone || event.popsSlot state.run.queue⟩, next.2)

/-- The slot leaves out nothing that counts: a packet is pushed onto an empty queue only
while no paused time has been summed up; and once a packet has left from the slot, no two
streams compete at one priority. -/
def QueueEvent.Harmless : QueueEvent → Prop
  | .push priority time _ packet =>
      (state.run.queue.sizePackets = 0 → (state.run.queue.advance time).pauseTimeSum = 0) ∧
        (state.poppedAlone → ∀ p ∈ state.run.queue.queued,
          p.ssrc ≠ packet.ssrc → p.priority ≠ priority)
  | _ => True

/-- The run of the queue and the run of the queue without a slot. -/
structure InStep (state : FastRun) (plain : PacerRun) : Prop where
  running : state.run.crashed = false
  plainRunning : plain.crashed = false
  refines : state.run.queue.Refines (!state.poppedAlone) plain.queue

theorem inStep_initial (start : Int) : InStep ⟨PacerRun.initial start, false⟩
    (PacerRun.initial start) where
  running := rfl
  plainRunning := rfl
  refines :=
    have consistent := RoundRobinPacketQueue.consistent_initial start
    have same : RoundRobinPacketQueue.Matches true { timeLastUpdated := start }
        { timeLastUpdated := start } :=
      ⟨consistent, consistent, rfl, rfl, fun _ => rfl, .nil, fun _ => ⟨rfl, fun _ => rfl⟩,
        fun inexact => absurd rfl inexact⟩
    same.refines

/-- The push of a queue without a slot: every packet goes through its stream. -/
def plainPush : PushOperation := RoundRobinPacketQueue.pushNormal

/-- Both queues perform an operation alike. -/
theorem perform_refines {exact : Bool} {q r : RoundRobinPacketQueue} (refines : q.Refines exact r)
    {event : QueueEvent} (legal : event.Legal q)
    (harmless : ∀ priority time order packet, event = .push priority time order packet →
      (q.sizePackets = 0 → (q.advance time).pauseTimeSum = 0) ∧
        (¬ exact → ∀ p ∈ q.queued, p.ssrc ≠ packet.ssrc → p.priority ≠ priority)) :
    ∃ popped next otherNext,
      event.perform RoundRobinPacketQueue.push q = some (popped, next) ∧
        event.perform plainPush r = some (popped, otherNext) ∧
        next.Refines (exact && !event.popsSlot q) otherNext := by
  obtain ⟨promoted, promotes, same⟩ := refines.promotion
  obtain ⟨_, again, -, -, -, rest⟩ := RoundRobinPacketQueue.promote_spec refines.consistent
  obtain rfl := Option.some.inj (promotes.symm.trans again)
  have clock : r.timeLastUpdated = q.timeLastUpdated := by rw [same.rest, rest]; rfl
  have paused : r.paused = q.paused := by rw [same.rest, rest]; rfl
  cases event with
  | push priority time order packet =>
      obtain ⟨unpaused, own⟩ := harmless priority time order packet rfl
      obtain ⟨next, otherNext, pushed, otherPushed, refined⟩ :=
        refines.push priority legal order packet unpaused own
      refine ⟨[], next, otherNext, ?_, ?_, ?_⟩
      · rw [QueueEvent.perform, pushed]
        rfl
      · rw [QueueEvent.perform, plainPush, otherPushed]
        rfl
      · exact (Bool.and_true exact).symm ▸ refined
  | pop =>
      obtain ⟨packet, next, otherNext, popped, otherPopped, refined⟩ := refines.pop legal
      refine ⟨[packet], next, otherNext, ?_, ?_, ?_⟩
      · rw [QueueEvent.perform, popped]
        rfl
      · rw [QueueEvent.perform, otherPopped]
        rfl
      · rw [QueueEvent.popsSlot, Option.not_isSome]
        exact refined
  | updateQueueTime now =>
      refine ⟨[], q.advance now, r.advance now, ?_, ?_, ?_⟩
      · rw [QueueEvent.perform, RoundRobinPacketQueue.updateQueueTime_eq legal]
        rfl
      · rw [QueueEvent.perform, RoundRobinPacketQueue.updateQueueTime_eq (clock ▸ legal)]
        rfl
      · have refined := refines.later now q.paused
        nth_rewrite 2 [← paused] at refined
        exact (Bool.and_true exact).symm ▸ refined
  | setPauseState state now =>
      by_cases unchanged : q.paused = state
      · refine ⟨[], q, r, ?_, ?_, (Bool.and_true exact).symm ▸ refines⟩
        · rw [QueueEvent.perform, RoundRobinPacketQueue.setPauseState, if_pos unchanged]
          rfl
        · rw [QueueEvent.perform, RoundRobinPacketQueue.setPauseState,
            if_pos (paused.trans unchanged)]
          rfl
      · refine ⟨[], _, _, ?_, ?_, (Bool.and_true exact).symm ▸ refines.later now state⟩
        · rw [QueueEvent.perform, RoundRobinPacketQueue.setPauseState, if_neg unchanged,
            RoundRobinPacketQueue.updateQueueTime_eq legal]
          rfl
        · rw [QueueEvent.perform, RoundRobinPacketQueue.setPauseState,
            if_neg fun same => unchanged (paused.symm.trans same),
            RoundRobinPacketQueue.updateQueueTime_eq (clock ▸ legal)]
          rfl
  | setIncludeOverhead =>
      obtain ⟨next, otherNext, made, otherMade, refined⟩ := refines.setIncludeOverhead legal
      refine ⟨[], next, otherNext, ?_, ?_, (Bool.and_true exact).symm ▸ refined⟩
      · rw [QueueEvent.perform, made]
        rfl
      · rw [QueueEvent.perform, otherMade]
        rfl
  | setTransportOverhead overhead =>
      obtain ⟨next, otherNext, made, otherMade, refined⟩ := refines.setTransportOverhead overhead
      refine ⟨[], next, otherNext, ?_, ?_, (Bool.and_true exact).symm ▸ refined⟩
      · rw [QueueEvent.perform, made]
        rfl
      · rw [QueueEvent.perform, otherMade]
        rfl

/-- One operation keeps the two runs in step. -/
theorem inStep_step {state : FastRun} {plain : PacerRun} (inStep : InStep state plain)
    {event : QueueEvent} (legal : event.Legal state.run.queue) (harmless : event.Harmless state) :
    (fastStep state event).2 = (pacerStep plainPush plain event).2 ∧
      InStep (fastStep state event).1 (pacerStep plainPush plain event).1 := by
  obtain ⟨popped, next, otherNext, performed, otherPerformed, refined⟩ :=
    perform_refines inStep.refines legal (by
      rintro priority time order packet rfl
      refine ⟨harmless.1, fun inexact => harmless.2 ?_⟩
      simpa using inexact)
  unfold fastStep pacerStep
  rw [performed, otherPerformed]
  refine ⟨rfl, inStep.running, inStep.plainRunning, ?_⟩
  rw [Bool.not_or]
  exact refined

theorem inStep_run {state : FastRun} {plain : PacerRun} (inStep : InStep state plain)
    {events : List QueueEvent}
    (along : Along fastStep (fun state event => event.Legal state.run.queue ∧ event.Harmless state)
      state events) :
    outputs fastStep state events = outputs (pacerStep plainPush) plain events ∧
      InStep (finalState fastStep state events)
    (finalState (pacerStep plainPush) plain events) := by
  induction events generalizing state plain with
  | nil => exact ⟨rfl, inStep⟩
  | cons event events ih =>
      obtain ⟨same, next⟩ := inStep_step inStep along.1.1 along.1.2
      obtain ⟨later, final⟩ := ih next along.2
      exact ⟨by rw [outputs_cons, outputs_cons, same, later], final⟩

/-- The note does not change the run. -/
theorem fastStep_run (events : List QueueEvent) :
    outputs fastStep state events =
        outputs (pacerStep RoundRobinPacketQueue.push) state.run events ∧
      (finalState fastStep state events).run =
        finalState (pacerStep RoundRobinPacketQueue.push) state.run events := by
  induction events generalizing state with
  | nil => exact ⟨rfl, rfl⟩
  | cons event events ih =>
      obtain ⟨later, final⟩ := ih (fastStep state event).1
      exact ⟨by rw [outputs_cons, outputs_cons, later]; rfl, final⟩

/-- **Fast path.** In every legal run in which the slot leaves out nothing that counts, the
queue returns the same packets as a queue without a slot, and shows the same sizes, queue
times and enqueue times. -/
theorem fast_path_refines_plain_queue (start : Int) (events : List QueueEvent)
    (harmless : Along fastStep
      (fun state event => event.Legal state.run.queue ∧ event.Harmless state)
      ⟨PacerRun.initial start, false⟩ events) :
    let fast := pacerStep RoundRobinPacketQueue.push
    let plain := pacerStep plainPush
    outputs fast (PacerRun.initial start) events = outputs plain (PacerRun.initial start) events ∧
      (finalState fast (PacerRun.initial start) events).crashed = false ∧
      (finalState plain (PacerRun.initial start) events).crashed = false ∧
      (finalState fast (PacerRun.initial start) events).queue.observe =
        (finalState plain (PacerRun.initial start) events).queue.observe := by
  intro fast plain
  obtain ⟨same, final⟩ := inStep_run (inStep_initial start) harmless
  obtain ⟨returned, run⟩ := fastStep_run ⟨PacerRun.initial start, false⟩ events
  rw [← returned, ← run]
  exact ⟨same, final.running, final.plainRunning, final.refines.observe_eq⟩

/-- A video packet of this SSRC. -/
def streamPacket (ssrc : Nat) (sequenceNumber : UInt16) : Packet :=
  { videoPacket sequenceNumber with ssrc := ssrc }

/-- A packet that leaves from the slot, and a second stream at another priority. -/
def promotedRun : List QueueEvent :=
  [.push 1 10 1 (streamPacket 1 1), .pop, .push 1 20 2 (streamPacket 1 2),
    .push 2 30 3 (streamPacket 2 1), .setPauseState true 40, .pop]

theorem fast_path_refines_promoted_run :
    (finalState (pacerStep RoundRobinPacketQueue.push) (PacerRun.initial 0) promotedRun).queue.observe =
      (finalState (pacerStep plainPush) (PacerRun.initial 0) promotedRun).queue.observe :=
  (fast_path_refines_plain_queue 0 promotedRun (by
    refine ⟨⟨by decide, ?_⟩, ⟨by decide, trivial⟩, ⟨by decide, ?_⟩, ⟨by decide, ?_⟩,
      ⟨by decide, trivial⟩, ⟨by decide, trivial⟩, trivial⟩ <;>
    exact ⟨by decide, by decide⟩)).2.2.2

/-- After a packet has left from the slot, the streams take turns in another order; and
after a pause, the slot shows an earlier enqueue time. -/
theorem fast_path_differs :
    outputs (pacerStep RoundRobinPacketQueue.push) (PacerRun.initial 0)
        [.push 1 10 1 (streamPacket 1 1), .pop, .push 1 20 2 (streamPacket 1 2),
          .push 1 30 3 (streamPacket 2 1), .pop] ≠
      outputs (pacerStep plainPush) (PacerRun.initial 0)
        [.push 1 10 1 (streamPacket 1 1), .pop, .push 1 20 2 (streamPacket 1 2),
          .push 1 30 3 (streamPacket 2 1), .pop] ∧
      (finalState (pacerStep RoundRobinPacketQueue.push) (PacerRun.initial 0)
        [.setPauseState true 10, .setPauseState false 20,
          .push 1 30 1 (streamPacket 1 1)]).queue.observe.oldestEnqueueTime = some 20 ∧
      (finalState (pacerStep plainPush) (PacerRun.initial 0)
        [.setPauseState true 10, .setPauseState false 20,
          .push 1 30 1 (streamPacket 1 1)]).queue.observe.oldestEnqueueTime = some 30 := by
  decide

end Runs

end MpWebRtc.Pacing
