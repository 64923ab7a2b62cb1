import MpWebRtc.Math.Run
import MpWebRtc.Math.StrictInsert
import MpWebRtc.Sender.PacerQueue

/-!
# The containers of the pacer queue agree

A stream is well formed when its packets are in order and its turn is that of its best
packet; the turns in `stream_priorities_` are those of the streams. A push or a pop
changes one stream and leaves the others and their turns alone, so each is settled by what
it does to that stream.
-/

namespace MpWebRtc.Pacing

open Math Math.Run

section Orders

/-- Retransmissions go before other packets of their priority. -/
def QueuedPacket.rank (p : QueuedPacket) : Nat := if p.isRetransmission then 0 else 1

theorem QueuedPacket.before_iff (p other : QueuedPacket) :
    p.Before other ↔ p.priority < other.priority ∨ p.priority = other.priority ∧
      (p.rank < other.rank ∨ p.rank = other.rank ∧ p.enqueueOrder < other.enqueueOrder) := by
  unfold QueuedPacket.Before QueuedPacket.Less QueuedPacket.rank
  by_cases same : other.priority = p.priority
  · rw [if_neg (not_not.mpr same)]
    cases p.isRetransmission <;> cases other.isRetransmission <;> simp [same]
  · rw [if_pos same]
    omega

theorem QueuedPacket.priority_le_of_before {p other : QueuedPacket} (before : p.Before other) :
    p.priority ≤ other.priority := by
  rw [QueuedPacket.before_iff] at before
  omega

theorem QueuedPacket.before_of_priority_lt {p other : QueuedPacket}
    (less : p.priority < other.priority) : p.Before other :=
  (QueuedPacket.before_iff p other).mpr (.inl less)

theorem QueuedPacket.Before.asymm (p other : QueuedPacket) (before : p.Before other) :
    ¬ other.Before p := by
  rw [QueuedPacket.before_iff] at *
  omega

theorem QueuedPacket.Before.trans (p second third : QueuedPacket) (first : p.Before second)
    (next : second.Before third) : p.Before third := by
  rw [QueuedPacket.before_iff] at *
  omega

theorem Turn.before_iff (turn other : Turn) :
    turn.Before other ↔ turn.1.priority < other.1.priority ∨
      turn.1.priority = other.1.priority ∧ turn.1.size < other.1.size := by
  unfold Turn.Before StreamPrioKey.Less
  split <;> omega

theorem Turn.Before.asymm (turn other : Turn) (before : turn.Before other) :
    ¬ other.Before turn := by
  rw [Turn.before_iff] at *
  omega

theorem Turn.Before.trans (turn second third : Turn) (first : turn.Before second)
    (next : second.Before third) : turn.Before third := by
  rw [Turn.before_iff] at *
  omega

end Orders

section Streams

/-- The packets of a stream are its own and in order, and its turn is that of the best
one. -/
structure Stream.WellFormed (ssrc : Nat) (stream : Stream) : Prop where
  ssrc_eq : stream.ssrc = ssrc
  own : ∀ p ∈ stream.packetQueue, p.ssrc = ssrc
  ordered : StrictlySorted QueuedPacket.Before stream.packetQueue
  best : stream.priorityIt = stream.packetQueue.head?.map fun p => ⟨p.priority, stream.size⟩

theorem Stream.wellFormed_new (ssrc : Nat) : ({ ssrc := ssrc } : Stream).WellFormed ssrc :=
  ⟨rfl, fun _ member => absurd member List.not_mem_nil, .nil, rfl⟩

/-- The turn of a stream, if it has one. -/
def Stream.turn (stream : Stream) (ssrc : Nat) : Option Turn :=
  stream.priorityIt.map fun key => (key, ssrc)

variable (entries : List (Nat × Stream))

/-- The turns of the streams. -/
def turnsOf : List Turn :=
  entries.filterMap fun entry => entry.2.turn entry.1

/-- The packets of the streams. -/
def packetsOf : List QueuedPacket :=
  entries.flatMap fun entry => entry.2.packetQueue

/-- The streams and `stream_priorities_` agree. -/
structure Scheduled (streams : OrderedMap Nat Stream) (turns : List Turn) : Prop where
  wellFormed : ∀ entry ∈ streams.entries, entry.2.WellFormed entry.1
  turns_perm : turns.Perm (turnsOf streams.entries)
  sorted : StrictlySorted Turn.Before turns

/-- The stream of an SSRC. -/
def streamIn (streams : OrderedMap Nat Stream) (ssrc : Nat) : Stream :=
  (streams.find ssrc).getD { ssrc := ssrc }

variable {streams : OrderedMap Nat Stream} {turns : List Turn} {ssrc : Nat}

theorem Scheduled.streamIn_wellFormed (scheduled : Scheduled streams turns) (ssrc : Nat) :
    (streamIn streams ssrc).WellFormed ssrc := by
  unfold streamIn
  cases found : streams.find ssrc with
  | none => exact Stream.wellFormed_new ssrc
  | some stream => exact scheduled.wellFormed _ (OrderedMap.find_eq_some_iff.mp found)

/-- The packets are those of one stream and those of the others. -/
theorem packetsOf_perm (streams : OrderedMap Nat Stream) (ssrc : Nat) :
    (packetsOf streams.entries).Perm
      ((streamIn streams ssrc).packetQueue ++ packetsOf (streams.erase ssrc).entries) := by
  unfold streamIn packetsOf
  cases found : streams.find ssrc with
  | none => rw [OrderedMap.erase_entries_of_absent found]; rfl
  | some stream => exact (OrderedMap.entries_perm_of_find found).flatMap_right _

theorem packetsOf_insert_perm (streams : OrderedMap Nat Stream) (ssrc : Nat) (stream : Stream) :
    (packetsOf (streams.insert ssrc stream).entries).Perm
      (stream.packetQueue ++ packetsOf (streams.erase ssrc).entries) :=
  OrderedMap.entries_insert_perm.flatMap_right _

theorem turnsOf_cons (entry : Nat × Stream) (entries : List (Nat × Stream)) :
    turnsOf (entry :: entries) = (entry.2.turn entry.1).toList ++ turnsOf entries := by
  unfold turnsOf
  cases held : entry.2.turn entry.1 <;> simp [held]

/-- The turns are that of one stream and those of the others. -/
theorem Scheduled.turns_split (scheduled : Scheduled streams turns) (ssrc : Nat) :
    turns.Perm (((streamIn streams ssrc).turn ssrc).toList ++
      turnsOf (streams.erase ssrc).entries) := by
  refine scheduled.turns_perm.trans ?_
  unfold streamIn
  cases found : streams.find ssrc with
  | none => rw [OrderedMap.erase_entries_of_absent found]; rfl
  | some stream =>
      rw [Option.getD_some, ← turnsOf_cons (ssrc, stream)]
      exact (OrderedMap.entries_perm_of_find found).filterMap _

/-- No other stream has a turn for this SSRC. -/
theorem not_mem_turnsOf_erase (streams : OrderedMap Nat Stream) {turn : Turn}
    (member : turn ∈ turnsOf (streams.erase ssrc).entries) : turn.2 ≠ ssrc := by
  obtain ⟨entry, inMap, held⟩ := List.mem_filterMap.mp member
  obtain ⟨key, -, rfl⟩ := Option.map_eq_some_iff.mp held
  exact (OrderedMap.mem_erase.mp inMap).2

/-- Without the turn of a stream the turns of the others remain. -/
theorem Scheduled.unschedule_perm (scheduled : Scheduled streams turns) (ssrc : Nat) :
    (RoundRobinPacketQueue.unschedule (streamIn streams ssrc) turns).Perm
      (turnsOf (streams.erase ssrc).entries) := by
  have split := scheduled.turns_split ssrc
  unfold RoundRobinPacketQueue.unschedule
  rw [(scheduled.streamIn_wellFormed ssrc).ssrc_eq]
  unfold Stream.turn at split
  cases held : (streamIn streams ssrc).priorityIt with
  | none =>
      rw [held] at split
      exact split
  | some key =>
      rw [held] at split
      have erased := split.erase (key, ssrc)
      simpa using erased

/-- A stream without its turn has no other. -/
theorem Scheduled.unschedule_free (scheduled : Scheduled streams turns) (ssrc : Nat) :
    (RoundRobinPacketQueue.unschedule (streamIn streams ssrc) turns).any
      (fun turn => turn.2 == ssrc) = false := by
  rw [List.any_eq_false]
  intro turn member
  have other := not_mem_turnsOf_erase streams ((scheduled.unschedule_perm ssrc).subset member)
  simpa using other

theorem unschedule_sorted (stream : Stream) (sorted : StrictlySorted Turn.Before turns) :
    StrictlySorted Turn.Before (RoundRobinPacketQueue.unschedule stream turns) := by
  unfold RoundRobinPacketQueue.unschedule
  split
  · exact sorted
  · exact List.Pairwise.sublist List.erase_sublist sorted

variable (scheduled : Scheduled streams turns)
include scheduled

/-- A stream may be replaced by a well-formed one together with its turn. -/
theorem Scheduled.replace {stream : Stream} (wellFormed : stream.WellFormed ssrc) {next : List Turn}
    (perm : next.Perm ((stream.turn ssrc).toList ++ turnsOf (streams.erase ssrc).entries))
    (sorted : StrictlySorted Turn.Before next) : Scheduled (streams.insert ssrc stream) next where
  wellFormed := by
    intro entry member
    rcases OrderedMap.mem_insert.mp member with rfl | ⟨other, -⟩
    · exact wellFormed
    · exact scheduled.wellFormed entry other
  turns_perm := by
    refine perm.trans ?_
    rw [← turnsOf_cons (ssrc, stream)]
    exact (OrderedMap.entries_insert_perm.filterMap _).symm
  sorted := sorted

/-- A stream with packets has a turn. -/
theorem Scheduled.turns_ne_nil (waiting : packetsOf streams.entries ≠ []) : turns ≠ [] := by
  rintro rfl
  apply waiting
  rw [packetsOf, List.flatMap_eq_nil_iff]
  intro entry member
  have noTurn := List.filterMap_eq_nil_iff.mp scheduled.turns_perm.symm.eq_nil entry member
  have best := (scheduled.wellFormed entry member).best
  rw [Option.map_eq_none_iff.mp noTurn] at best
  simpa using best.symm

/-- Streams without packets have no turn. -/
theorem Scheduled.turns_eq_nil (empty : packetsOf streams.entries = []) : turns = [] := by
  have none : turnsOf streams.entries = [] := by
    rw [turnsOf, List.filterMap_eq_nil_iff]
    intro entry member
    have queue := List.flatMap_eq_nil_iff.mp empty entry member
    have best := (scheduled.wellFormed entry member).best
    rw [queue] at best
    rw [Stream.turn, best]
    rfl
  exact (none ▸ scheduled.turns_perm).eq_nil

end Streams

namespace RoundRobinPacketQueue

section Placing

variable {q : RoundRobinPacketQueue}

/-- The queue with a packet in its stream. -/
def placed (q : RoundRobinPacketQueue) (p : QueuedPacket) (key : StreamPrioKey)
    (turns : List Turn) : RoundRobinPacketQueue :=
  let stream := streamIn q.streams p.ssrc
  { q with
    streamPriorities := turns
    streams := q.streams.insert p.ssrc
      { stream with
        packetQueue := stream.packetQueue.orderedInsert QueuedPacket.Before p
        priorityIt := some key } }

theorem inStreams_placed_perm (q : RoundRobinPacketQueue) (p : QueuedPacket) (key : StreamPrioKey)
    (turns : List Turn) : (q.placed p key turns).inStreams.Perm (p :: q.inStreams) := by
  refine (packetsOf_insert_perm q.streams p.ssrc _).trans ?_
  refine ((List.perm_orderedInsert _ p _).append_right _).trans ?_
  exact (packetsOf_perm q.streams p.ssrc).symm.cons p

variable {p : QueuedPacket}

/-- The stream of a packet that is pushed stays well formed, with this turn. -/
theorem wellFormed_insert {ssrc : Nat} {stream : Stream} (wellFormed : stream.WellFormed ssrc)
    (own : p.ssrc = ssrc) {key : StreamPrioKey}
    (best : some key = ((stream.packetQueue.orderedInsert QueuedPacket.Before p).head?.map
      fun p => ⟨p.priority, stream.size⟩)) :
    { stream with
      packetQueue := stream.packetQueue.orderedInsert QueuedPacket.Before p
      priorityIt := some key : Stream }.WellFormed ssrc where
  ssrc_eq := wellFormed.ssrc_eq
  own := by
    intro other member
    rcases (List.mem_orderedInsert _).mp member with rfl | old
    · exact own
    · exact wellFormed.own other old
  ordered := wellFormed.ordered.orderedInsert QueuedPacket.Before.asymm QueuedPacket.Before.trans p
  best := best

/-- A pushed packet finds its place among the turns: none of the checks fails. -/
theorem scheduleFor_spec (scheduled : Scheduled q.streams q.streamPriorities) (p : QueuedPacket) :
    ∃ key turns, q.scheduleFor (streamIn q.streams p.ssrc) p.priority = some (key, turns) ∧
      Scheduled (q.placed p key turns).streams turns := by
  have wellFormed := scheduled.streamIn_wellFormed p.ssrc
  have split := scheduled.turns_split p.ssrc
  have others := scheduled.unschedule_perm p.ssrc
  have free := scheduled.unschedule_free p.ssrc
  have sorted := unschedule_sorted (streamIn q.streams p.ssrc) scheduled.sorted
  have head := head?_orderedInsert (r := QueuedPacket.Before) p
    (streamIn q.streams p.ssrc).packetQueue
  have best := wellFormed.best
  unfold placed
  dsimp only
  generalize streamIn q.streams p.ssrc = stream at *
  -- the turn goes with the new packet
  have renewed (first : (stream.packetQueue.orderedInsert QueuedPacket.Before p).head? = some p) :
      Scheduled (q.streams.insert p.ssrc
        { stream with
          packetQueue := stream.packetQueue.orderedInsert QueuedPacket.Before p
          priorityIt := some ⟨p.priority, stream.size⟩ })
        ((unschedule stream q.streamPriorities).orderedInsert Turn.Before
          (⟨p.priority, stream.size⟩, stream.ssrc)) := by
    refine scheduled.replace (wellFormed_insert wellFormed rfl ?_) ?_
      (sorted.orderedInsert Turn.Before.asymm Turn.Before.trans _)
    · rw [first]
      rfl
    · rw [wellFormed.ssrc_eq]
      exact (List.perm_orderedInsert _ _ _).trans (others.cons _)
  unfold scheduleFor
  cases held : stream.priorityIt with
  | none =>
      have empty : stream.packetQueue = [] := by
        rw [held] at best
        simpa using best.symm
      have unscheduled : unschedule stream q.streamPriorities = q.streamPriorities := by
        rw [unschedule, held]
      rw [unscheduled] at free renewed
      rw [empty] at head
      refine ⟨_, _, if_neg ?_, renewed (by rw [empty]; exact head)⟩
      rw [wellFormed.ssrc_eq]
      exact ne_true_of_eq_false free
  | some current =>
      rw [held] at best
      obtain ⟨top, isTop, isCurrent⟩ := Option.map_eq_some_iff.mp best.symm
      rw [isTop] at head
      have priority : current.priority = top.priority := by rw [← isCurrent]
      by_cases higher : p.priority < current.priority
      · have before : p.Before top := QueuedPacket.before_of_priority_lt (priority ▸ higher)
        exact ⟨_, _, if_pos higher, renewed (by rw [head]; simp [before])⟩
      · refine ⟨current, q.streamPriorities, if_neg higher, scheduled.replace
          (wellFormed_insert wellFormed rfl ?_) ?_ scheduled.sorted⟩
        · rw [head]
          by_cases before : p.Before top
          · -- a packet that overtakes the top has its priority
            have same : p.priority = top.priority := by
              have le := QueuedPacket.priority_le_of_before before
              omega
            simp [before, same, isCurrent]
          · simp [before, isCurrent]
        · rw [Stream.turn, held] at split
          exact split

/-- The queue at a later time. -/
def advance (q : RoundRobinPacketQueue) (now : Int) : RoundRobinPacketQueue :=
  { q with
    pauseTimeSum := q.pauseTimeSum + if q.paused then now - q.timeLastUpdated else 0
    queueTimeSum := q.queueTimeSum +
      if q.paused then 0 else (now - q.timeLastUpdated) * q.sizePackets
    timeLastUpdated := now }

theorem updateQueueTime_eq {now : Int} (later : q.timeLastUpdated ≤ now) :
    q.updateQueueTime now = some (q.advance now) := by
  unfold updateQueueTime advance
  rw [if_neg (not_lt.mpr later)]
  by_cases same : now = q.timeLastUpdated
  · simp [same]
  · rw [if_neg same]
    by_cases paused : q.paused <;> simp [paused]

/-- A packet from the single-packet slot, as it enters its stream. -/
def promoted (p : QueuedPacket) : QueuedPacket := { p with enqueueTimeIt := some p.enqueueTime }

/-- The queue with the time of a packet recorded. -/
def recorded (q : RoundRobinPacketQueue) (time : Int) : RoundRobinPacketQueue :=
  { q with enqueueTimes := q.enqueueTimes.orderedInsert (· < ·) time }

/-- The queue with a packet counted. -/
def counted (q : RoundRobinPacketQueue) (p : QueuedPacket) : RoundRobinPacketQueue :=
  { q with sizePackets := q.sizePackets + 1, size := q.size + q.packetSize p }

/-- What a push into the streams does to a packet from the slot. -/
theorem pushQueued_of_slot (scheduled : Scheduled q.streams q.streamPriorities)
    (slot : p.enqueueTimeIt = none) :
    ∃ key turns, q.scheduleFor (streamIn q.streams p.ssrc) p.priority = some (key, turns) ∧
      q.pushQueued p = some ((q.recorded p.enqueueTime).placed (promoted p) key turns) ∧
      Scheduled (q.placed (promoted p) key turns).streams turns := by
  obtain ⟨key, turns, turn, next⟩ := scheduleFor_spec scheduled (promoted p)
  change q.scheduleFor (streamIn q.streams p.ssrc) p.priority = _ at turn
  refine ⟨key, turns, turn, ?_, next⟩
  unfold pushQueued enter
  change (q.scheduleFor (streamIn q.streams p.ssrc) p.priority).bind _ = _
  rw [turn, Option.bind_some, slot]
  rfl

/-- What a push into the streams does to a packet that comes from outside. -/
theorem pushQueued_of_arrival (scheduled : Scheduled q.streams q.streamPriorities) {time : Int}
    (arrival : p.enqueueTimeIt = some time)
    (later : q.timeLastUpdated ≤ p.enqueueTime) :
    ∃ key turns, q.scheduleFor (streamIn q.streams p.ssrc) p.priority = some (key, turns) ∧
      q.pushQueued p =
        some (((q.advance p.enqueueTime).counted
          (p.subtractPauseTime (q.advance p.enqueueTime).pauseTimeSum)).placed
            (p.subtractPauseTime (q.advance p.enqueueTime).pauseTimeSum) key turns) ∧
      Scheduled (q.placed (p.subtractPauseTime (q.advance p.enqueueTime).pauseTimeSum)
        key turns).streams turns := by
  obtain ⟨key, turns, turn, next⟩ := scheduleFor_spec scheduled
    (p.subtractPauseTime (q.advance p.enqueueTime).pauseTimeSum)
  change q.scheduleFor (streamIn q.streams p.ssrc) p.priority = _ at turn
  refine ⟨key, turns, turn, ?_, next⟩
  unfold pushQueued enter
  change (q.scheduleFor (streamIn q.streams p.ssrc) p.priority).bind _ = _
  rw [turn, Option.bind_some, arrival]
  have update : updateQueueTime { q with streamPriorities := turns } p.enqueueTime =
      some (advance { q with streamPriorities := turns } p.enqueueTime) := updateQueueTime_eq later
  dsimp only
  rw [update]
  rfl

end Placing

section Invariant

/-- All queued packets. -/
def queued (q : RoundRobinPacketQueue) : List QueuedPacket :=
  q.singlePacketQueue.toList ++ q.inStreams

/-- The time a packet has waited while the queue was not paused. -/
def waitingTime (q : RoundRobinPacketQueue) (p : QueuedPacket) : Int :=
  q.timeLastUpdated - p.enqueueTime - q.pauseTimeSum

/-- The containers and the running sums agree. -/
structure Consistent (q : RoundRobinPacketQueue) : Prop where
  scheduled : Scheduled q.streams q.streamPriorities
  times : (q.enqueueTimes.map some).Perm (q.inStreams.map (·.enqueueTimeIt))
  sorted : StrictlySorted (· < ·) q.enqueueTimes
  alone : ∀ p ∈ q.singlePacketQueue, q.inStreams = [] ∧ p.enqueueTimeIt = none
  count : q.sizePackets = q.queued.length
  bytes : q.size = (q.queued.map q.packetSize).sum
  waiting : q.queueTimeSum = (q.queued.map q.waitingTime).sum

theorem consistent_initial (start : Int) : Consistent { timeLastUpdated := start } where
  scheduled := ⟨fun _ member => absurd member List.not_mem_nil, .nil, .nil⟩
  times := .nil
  sorted := .nil
  alone := fun _ member => absurd member (Option.not_mem_none _)
  count := rfl
  bytes := rfl
  waiting := rfl

variable {q : RoundRobinPacketQueue}

theorem sum_map_add_const (list : List QueuedPacket) (f : QueuedPacket → Int) (delta : Int) :
    (list.map fun p => f p + delta).sum = (list.map f).sum + delta * list.length := by
  induction list with
  | nil => simp
  | cons p list ih =>
      simp only [List.map_cons, List.sum_cons, List.length_cons, ih]
      push_cast
      rw [Int.mul_add]
      omega

theorem Consistent.advance (consistent : q.Consistent) (now : Int) :
    (q.advance now).Consistent where
  scheduled := consistent.scheduled
  times := consistent.times
  sorted := consistent.sorted
  alone := consistent.alone
  count := consistent.count
  bytes := consistent.bytes
  waiting := by
    have waited : (q.advance now).waitingTime = fun p => q.waitingTime p +
        if q.paused then 0 else now - q.timeLastUpdated := by
      funext p
      unfold waitingTime RoundRobinPacketQueue.advance
      dsimp only
      by_cases paused : q.paused <;> simp [paused] <;> omega
    change q.queueTimeSum + _ = (q.queued.map _).sum
    rw [waited, sum_map_add_const, ← consistent.waiting, ← consistent.count]
    by_cases paused : q.paused <;> simp [paused]

/-- A packet in the streams, counted or moved there from the slot, keeps the agreement. -/
theorem Consistent.placed (consistent : q.Consistent) {r : RoundRobinPacketQueue}
    {p : QueuedPacket} {key : StreamPrioKey} {turns : List Turn} {time : Int}
    (inTime : p.enqueueTimeIt = some time)
    (scheduled : Scheduled (r.placed p key turns).streams turns)
    (streams : r.streams = q.streams) (alone : r.singlePacketQueue = none)
    (times : r.enqueueTimes = q.enqueueTimes.orderedInsert (· < ·) time)
    (count : r.sizePackets = q.inStreams.length + 1)
    (bytes : r.size = r.packetSize p + (q.inStreams.map r.packetSize).sum)
    (waiting : r.queueTimeSum = r.waitingTime p + (q.inStreams.map r.waitingTime).sum) :
    (r.placed p key turns).Consistent := by
  have same : r.inStreams = q.inStreams := by rw [inStreams, streams, inStreams]
  have perm : (r.placed p key turns).inStreams.Perm (p :: q.inStreams) :=
    same ▸ inStreams_placed_perm r p key turns
  have all : (r.placed p key turns).queued = (r.placed p key turns).inStreams := by
    change r.singlePacketQueue.toList ++ _ = _
    rw [alone]
    rfl
  refine ⟨scheduled, ?_, ?_, ?_, ?_, ?_, ?_⟩
  · change (r.enqueueTimes.map some).Perm _
    rw [times]
    refine ((List.perm_orderedInsert _ _ _).map some).trans ?_
    refine (consistent.times.cons (some time)).trans ?_
    rw [← inTime]
    exact (perm.map _).symm
  · change StrictlySorted _ r.enqueueTimes
    rw [times]
    have asymm : ∀ a b : Int, a < b → ¬ b < a := fun a b => lt_asymm
    have trans : ∀ a b c : Int, a < b → b < c → a < c := fun a b c => lt_trans
    exact StrictlySorted.orderedInsert asymm trans consistent.sorted time
  · intro other slot
    exact absurd (alone ▸ slot) (Option.not_mem_none other)
  · rw [all, perm.length_eq]
    exact count
  · rw [all]
    exact bytes.trans (perm.map _).sum_eq.symm
  · rw [all]
    exact waiting.trans (perm.map _).sum_eq.symm

/-- The packets with the times at which they entered, as the queue keeps them. -/
def stamps (q : RoundRobinPacketQueue) : List (Packet × Int) :=
  q.queued.map fun p => (p.packet, p.enqueueTime)

/-- Promotion moves the packet of the slot to its stream and changes no sum. -/
theorem promote_spec (consistent : q.Consistent) :
    ∃ r, q.maybePromoteSinglePacketToNormalQueue = some r ∧ r.Consistent ∧
      r.singlePacketQueue = none ∧ r.stamps.Perm q.stamps ∧
      r = { q with
        singlePacketQueue := none
        enqueueTimes := r.enqueueTimes
        streams := r.streams
        streamPriorities := r.streamPriorities } := by
  unfold maybePromoteSinglePacketToNormalQueue
  cases slot : q.singlePacketQueue with
  | none => exact ⟨q, rfl, consistent, slot, .refl _, by rw [← slot]⟩
  | some p =>
      obtain ⟨empty, outside⟩ := consistent.alone p slot
      obtain ⟨key, turns, -, pushed, scheduled⟩ := pushQueued_of_slot consistent.scheduled outside
      have queued : q.queued = [p] := by rw [queued, slot, empty]; rfl
      refine ⟨RoundRobinPacketQueue.placed { q.recorded p.enqueueTime with singlePacketQueue := none }
        (promoted p) key turns, ?_, ?_, rfl, ?_, rfl⟩
      · dsimp only
        rw [pushed]
        rfl
      · refine consistent.placed rfl scheduled rfl rfl rfl ?_ ?_ ?_
        · rw [empty]
          exact consistent.count.trans (by rw [queued]; rfl)
        · rw [empty]
          exact consistent.bytes.trans (by rw [queued]; rfl)
        · rw [empty]
          exact consistent.waiting.trans (by rw [queued]; rfl)
      · have moved := inStreams_placed_perm
          { q.recorded p.enqueueTime with singlePacketQueue := none } (promoted p) key turns
        change List.Perm (List.map _ ([] ++ inStreams _)) _
        rw [stamps, queued, List.nil_append]
        refine (moved.map _).trans ?_
        change List.Perm (_ :: q.inStreams.map _) _
        rw [empty]
        exact .refl _

/-- The queue `r` is the queue `q` once a packet has arrived. -/
structure Pushed (q : RoundRobinPacketQueue) (time : Int) (packet : Packet)
    (r : RoundRobinPacketQueue) : Prop where
  consistent : r.Consistent
  stamps : r.stamps.Perm ((packet, time - (q.advance time).pauseTimeSum) :: q.stamps)
  clock : r.timeLastUpdated = time
  pause : r.pauseTimeSum = (q.advance time).pauseTimeSum
  paused : r.paused = q.paused
  overhead : r.includeOverhead = q.includeOverhead

/-- A push into the streams. -/
theorem pushNormal_spec (consistent : q.Consistent) (priority : Int) {time : Int}
    (later : q.timeLastUpdated ≤ time) (order : Nat) (packet : Packet) :
    ∃ r, q.pushNormal priority time order packet = some r ∧ r.singlePacketQueue = none ∧
      Pushed q time packet r := by
  obtain ⟨promoted, moved, agree, empty, same, rest⟩ := promote_spec consistent
  have clock : promoted.timeLastUpdated = q.timeLastUpdated := by rw [rest]
  have pause : (promoted.advance time).pauseTimeSum = (q.advance time).pauseTimeSum := by rw [rest]; rfl
  have inStreams : promoted.queued = promoted.inStreams := by rw [queued, empty]; rfl
  let p : QueuedPacket := ⟨priority, time, order, some time, packet⟩
  have scheduled : Scheduled (promoted.recorded time).streams (promoted.recorded time).streamPriorities :=
    agree.scheduled
  obtain ⟨key, turns, -, pushed, next⟩ := pushQueued_of_arrival (p := p) scheduled rfl (clock ▸ later)
  unfold pushNormal
  rw [moved, Option.bind_some]
  refine ⟨_, pushed, empty, ?_, ?_, rfl, pause, by rw [rest]; rfl, by rw [rest]; rfl⟩
  · have advanced := agree.advance time
    refine advanced.placed rfl next rfl empty rfl ?_ ?_ ?_
    · change promoted.sizePackets + 1 = promoted.inStreams.length + 1
      rw [agree.count, inStreams]
    · change promoted.size + promoted.packetSize _ =
        promoted.packetSize _ + (promoted.inStreams.map promoted.packetSize).sum
      rw [agree.bytes, inStreams, Int.add_comm]
    · -- a packet that enters now has not waited yet
      have fresh : (promoted.advance time).waitingTime
          (p.subtractPauseTime (promoted.advance time).pauseTimeSum) = 0 := by
        change time - (time - (promoted.advance time).pauseTimeSum) -
          (promoted.advance time).pauseTimeSum = 0
        omega
      have waited := advanced.waiting
      change _ = ((promoted.queued).map _).sum at waited
      rw [inStreams] at waited
      change (promoted.advance time).queueTimeSum = (promoted.advance time).waitingTime
        (p.subtractPauseTime (promoted.advance time).pauseTimeSum) +
          (promoted.inStreams.map (promoted.advance time).waitingTime).sum
      rw [fresh, waited, Int.zero_add]
  · have entered := inStreams_placed_perm
      (((promoted.recorded time).advance time).counted
        (p.subtractPauseTime ((promoted.recorded time).advance time).pauseTimeSum))
      (p.subtractPauseTime ((promoted.recorded time).advance time).pauseTimeSum) key turns
    have stamped := (entered.map fun p => (p.packet, p.enqueueTime)).trans
      (.of_eq (List.map_cons ..))
    have before : promoted.stamps = promoted.inStreams.map fun p => (p.packet, p.enqueueTime) := by
      rw [stamps, inStreams]
    unfold RoundRobinPacketQueue.stamps queued
    change List.Perm (List.map _ (promoted.singlePacketQueue.toList ++ _)) _
    rw [empty, Option.toList_none, List.nil_append]
    refine stamped.trans ?_
    rw [← pause]
    exact (before ▸ same).cons _

theorem Consistent.queued_eq_nil (consistent : q.Consistent) (empty : q.sizePackets = 0) :
    q.queued = [] := List.length_eq_zero_iff.mp (consistent.count ▸ empty)

/-- A push. -/
theorem push_spec (consistent : q.Consistent) (priority : Int) {time : Int}
    (later : q.timeLastUpdated ≤ time) (order : Nat) (packet : Packet) :
    ∃ r, q.push priority time order packet = some r ∧ Pushed q time packet r := by
  unfold push
  by_cases empty : q.sizePackets = 0
  · rw [if_pos empty, updateQueueTime_eq later]
    have none := consistent.queued_eq_nil empty
    have noStreams : q.inStreams = [] := (List.append_eq_nil_iff.mp none).2
    have advanced := consistent.advance time
    let p : QueuedPacket := QueuedPacket.subtractPauseTime ⟨priority, time, order, Option.none, packet⟩
      (q.advance time).pauseTimeSum
    refine ⟨_, rfl, ⟨consistent.scheduled, consistent.times, consistent.sorted, ?_, ?_, ?_, ?_⟩, ?_,
      rfl, rfl, rfl, rfl⟩
    · intro other slot
      cases slot
      exact ⟨noStreams, rfl⟩
    · change 1 = ([p] ++ q.inStreams).length
      rw [noStreams]
      rfl
    · change q.size + q.packetSize p = (([p] ++ q.inStreams).map q.packetSize).sum
      rw [noStreams, consistent.bytes, none]
      simp
    · have waited := advanced.waiting
      change _ = (q.queued.map _).sum at waited
      change (q.advance time).queueTimeSum =
        (([p] ++ q.inStreams).map (q.advance time).waitingTime).sum
      have fresh : (q.advance time).waitingTime p = 0 := by
        change time - (time - (q.advance time).pauseTimeSum) - (q.advance time).pauseTimeSum = 0
        omega
      rw [noStreams, waited, none]
      simp [fresh]
    · change List.Perm (List.map _ ([p] ++ q.inStreams)) _
      rw [noStreams, stamps, none]
      exact .refl _
  · rw [if_neg empty]
    obtain ⟨r, pushed, -, spec⟩ := pushNormal_spec consistent priority later order packet
    exact ⟨r, pushed, spec⟩

/-- A stream that lost its top packet takes a turn for the next one. -/
theorem reschedule_stream (stream : Stream) (turns : List Turn) :
    (reschedule stream turns).1 = { stream with
      priorityIt := stream.packetQueue.head?.map fun p => ⟨p.priority, stream.size⟩ } := by
  unfold reschedule
  cases stream.packetQueue.head? <;> rfl

theorem reschedule_turns (stream : Stream) {turns : List Turn}
    (sorted : StrictlySorted Turn.Before turns) :
    (reschedule stream turns).2.Perm
        (((reschedule stream turns).1.turn stream.ssrc).toList ++ turns) ∧
      StrictlySorted Turn.Before (reschedule stream turns).2 := by
  unfold reschedule
  cases stream.packetQueue.head? with
  | none => exact ⟨.refl _, sorted⟩
  | some next =>
      exact ⟨List.perm_orderedInsert _ _ _,
        sorted.orderedInsert Turn.Before.asymm Turn.Before.trans _⟩

/-- The stream whose turn it is, with its best packet. -/
theorem getHighestPriorityStream_spec (scheduled : Scheduled q.streams q.streamPriorities)
    {turn : Turn} {rest : List Turn} (turns : q.streamPriorities = turn :: rest) :
    ∃ p others, (streamIn q.streams turn.2).packetQueue = p :: others ∧
      (streamIn q.streams turn.2).priorityIt = some turn.1 ∧
      q.getHighestPriorityStream = some (streamIn q.streams turn.2, p) := by
  have taken : turn ∈ turnsOf q.streams.entries :=
    scheduled.turns_perm.subset (turns ▸ List.mem_cons_self)
  obtain ⟨⟨ssrc, stream⟩, member, held⟩ := List.mem_filterMap.mp taken
  obtain ⟨key, isKey, rfl⟩ := Option.map_eq_some_iff.mp held
  have found : q.streams.find ssrc = some stream := OrderedMap.find_eq_some_iff.mpr member
  have isStream : streamIn q.streams ssrc = stream := by rw [streamIn, found, Option.getD_some]
  have best := (scheduled.wellFormed _ member).best
  dsimp only at isKey best ⊢
  rw [isKey] at best
  obtain ⟨p, top, -⟩ := Option.map_eq_some_iff.mp best.symm
  obtain ⟨others, queue⟩ := List.head?_eq_some_iff.mp top
  refine ⟨p, others, by rw [isStream, queue], by rw [isStream, isKey], ?_⟩
  unfold getHighestPriorityStream
  rw [turns, List.head?_cons, Option.bind_some, found, Option.bind_some, if_pos isKey, top, isStream]
  rfl

/-- The queue `r` is the queue `q` once a packet has left. -/
structure Popped (q : RoundRobinPacketQueue) (packet : Packet) (r : RoundRobinPacketQueue) :
    Prop where
  consistent : r.Consistent
  stamps : ∃ entered, q.stamps.Perm ((packet, entered) :: r.stamps)
  clock : r.timeLastUpdated = q.timeLastUpdated
  pause : r.pauseTimeSum = q.pauseTimeSum
  paused : r.paused = q.paused
  overhead : r.transportOverheadPerPacket = q.transportOverheadPerPacket
  included : r.includeOverhead = q.includeOverhead

/-- The stream that sends its best packet. -/
def sending (q : RoundRobinPacketQueue) (ssrc : Nat) (p : QueuedPacket) : Stream :=
  { streamIn q.streams ssrc with
    ssrc := ssrc
    size := q.sentSize (streamIn q.streams ssrc) p
    packetQueue := (streamIn q.streams ssrc).packetQueue.tail }

/-- The queue after the stream of this SSRC has sent its best packet. -/
def sent (q : RoundRobinPacketQueue) (ssrc : Nat) (p : QueuedPacket) (time : Int) :
    RoundRobinPacketQueue :=
  let rescheduled := reschedule (q.sending ssrc p)
    (unschedule (streamIn q.streams ssrc) q.streamPriorities)
  { q with
    queueTimeSum := q.queueTimeSum - q.waitingTime p
    enqueueTimes := q.enqueueTimes.erase time
    maxSize := max q.maxSize (q.sentSize (streamIn q.streams ssrc) p)
    size := q.size - q.packetSize p
    sizePackets := q.sizePackets - 1
    streamPriorities := rescheduled.2
    streams := q.streams.insert ssrc rescheduled.1 }

/-- A pop from the streams: none of the checks fails. -/
theorem popNormal_eq (consistent : q.Consistent) (alone : q.singlePacketQueue = none)
    (waiting : q.sizePackets ≠ 0) :
    ∃ turn rest p others time, q.streamPriorities = turn :: rest ∧
      (streamIn q.streams turn.2).packetQueue = p :: others ∧ p.enqueueTimeIt = some time ∧
      q.popNormal = some (p.packet, q.sent turn.2 p time) := by
  have all : q.queued = q.inStreams := by rw [queued, alone]; rfl
  have some : packetsOf q.streams.entries ≠ [] := by
    intro empty
    apply waiting
    rw [consistent.count, all, inStreams]
    exact congrArg List.length empty
  obtain ⟨turn, rest, turns⟩ := List.exists_cons_of_ne_nil (consistent.scheduled.turns_ne_nil some)
  obtain ⟨p, others, queue, held, highest⟩ :=
    getHighestPriorityStream_spec consistent.scheduled turns
  have split : q.inStreams.Perm
      (p :: (others ++ packetsOf (q.streams.erase turn.2).entries)) := by
    have perm := packetsOf_perm q.streams turn.2
    rw [queue] at perm
    exact perm
  obtain ⟨time, -, inTime⟩ : ∃ time ∈ q.enqueueTimes, Option.some time = p.enqueueTimeIt := by
    have listed := consistent.times.symm.subset
      (List.mem_map.mpr ⟨p, split.symm.subset List.mem_cons_self, rfl⟩)
    exact List.mem_map.mp listed
  refine ⟨turn, rest, p, others, time, turns, queue, inTime.symm, ?_⟩
  have ssrc := (consistent.scheduled.streamIn_wellFormed turn.2).ssrc_eq
  have last : ¬ (q.sizePackets - 1 = 0 ∧ q.queueTimeSum - q.waitingTime p ≠ 0) := by
    rintro ⟨none, left⟩
    apply left
    have length := split.length_eq
    have count := consistent.count
    rw [all] at count
    rw [List.length_cons] at length
    have empty : others ++ packetsOf (q.streams.erase turn.2).entries = [] :=
      List.length_eq_zero_iff.mp (by omega)
    rw [empty] at split
    rw [consistent.waiting, all, (split.map _).sum_eq]
    simp
  have free := consistent.scheduled.unschedule_free turn.2
  unfold popNormal
  rw [highest, Option.bind_some]
  dsimp only
  rw [← inTime, Option.bind_some, ssrc]
  have lastCheck : ¬ (q.sizePackets - 1 = 0 ∧
      q.queueTimeSum - (q.timeLastUpdated - p.enqueueTime - q.pauseTimeSum) ≠ 0) := last
  rw [if_neg lastCheck, if_neg (ne_true_of_eq_false free)]
  rfl

theorem Consistent.sent (consistent : q.Consistent) (alone : q.singlePacketQueue = none)
    {turn : Turn} {p : QueuedPacket} {others : List QueuedPacket} {time : Int}
    (queue : (streamIn q.streams turn.2).packetQueue = p :: others)
    (inTime : p.enqueueTimeIt = some time) :
    (q.sent turn.2 p time).Consistent ∧
      q.inStreams.Perm (p :: (q.sent turn.2 p time).inStreams) := by
  have wellFormed := consistent.scheduled.streamIn_wellFormed turn.2
  have unscheduled := consistent.scheduled.unschedule_perm turn.2
  have next := reschedule_stream (q.sending turn.2 p)
    (unschedule (streamIn q.streams turn.2) q.streamPriorities)
  obtain ⟨perm, sorted⟩ := reschedule_turns (q.sending turn.2 p)
    (unschedule_sorted (streamIn q.streams turn.2) consistent.scheduled.sorted)
  have scheduled : Scheduled (q.sent turn.2 p time).streams (q.sent turn.2 p time).streamPriorities := by
    refine consistent.scheduled.replace ?_ (perm.trans (unscheduled.append_left _)) sorted
    rw [next]
    refine ⟨rfl, fun other member => ?_, ?_, rfl⟩
    · exact wellFormed.own other (List.mem_of_mem_tail member)
    · exact List.Pairwise.sublist (List.tail_sublist _) wellFormed.ordered
  have rest : (q.sent turn.2 p time).inStreams.Perm
      (others ++ packetsOf (q.streams.erase turn.2).entries) := by
    refine (packetsOf_insert_perm q.streams turn.2 _).trans ?_
    rw [next]
    change ((streamIn q.streams turn.2).packetQueue.tail ++ _).Perm _
    rw [queue]
    exact .refl _
  have split : q.inStreams.Perm (p :: (q.sent turn.2 p time).inStreams) := by
    refine (packetsOf_perm q.streams turn.2).trans ?_
    rw [queue]
    exact rest.symm.cons p
  have before : q.queued = q.inStreams := by rw [queued, alone]; rfl
  have after : (q.sent turn.2 p time).queued = (q.sent turn.2 p time).inStreams := by
    rw [queued]
    change q.singlePacketQueue.toList ++ _ = _
    rw [alone]
    rfl
  refine ⟨⟨scheduled, ?_, List.Pairwise.sublist List.erase_sublist consistent.sorted, ?_, ?_, ?_, ?_⟩,
    split⟩
  · have times := (consistent.times.trans (split.map _)).erase (some time)
    rw [List.map_cons, inTime, List.erase_cons_head,
      ← List.map_erase (Option.some_injective Int)] at times
    exact times
  · intro other slot
    exact absurd (alone ▸ slot) (Option.not_mem_none other)
  · have count := consistent.count
    rw [before, split.length_eq, List.length_cons] at count
    rw [after]
    change q.sizePackets - 1 = _
    omega
  · have bytes := consistent.bytes
    rw [before, (split.map _).sum_eq, List.map_cons, List.sum_cons] at bytes
    rw [after]
    change q.size - q.packetSize p = ((q.sent turn.2 p time).inStreams.map q.packetSize).sum
    omega
  · have waiting := consistent.waiting
    rw [before, (split.map _).sum_eq, List.map_cons, List.sum_cons] at waiting
    rw [after]
    change q.queueTimeSum - q.waitingTime p =
      ((q.sent turn.2 p time).inStreams.map q.waitingTime).sum
    omega

/-- A pop of a queue that is not empty. -/
theorem pop_spec (consistent : q.Consistent) (waiting : q.sizePackets ≠ 0) :
    ∃ packet r, q.pop = some (packet, r) ∧ Popped q packet r := by
  unfold pop
  cases slot : q.singlePacketQueue with
  | some p =>
      obtain ⟨empty, -⟩ := consistent.alone p slot
      refine ⟨_, _, rfl, ⟨consistent.scheduled, consistent.times, consistent.sorted, ?_, ?_, ?_, ?_⟩,
        ⟨p.enqueueTime, ?_⟩, rfl, rfl, rfl, rfl, rfl⟩
      · exact fun _ member => absurd member (Option.not_mem_none _)
      · change 0 = q.inStreams.length
        rw [empty]
        rfl
      · change 0 = (q.inStreams.map _).sum
        rw [empty]
        rfl
      · change 0 = (q.inStreams.map _).sum
        rw [empty]
        rfl
      · change q.stamps.Perm (_ :: q.inStreams.map _)
        rw [stamps, queued, slot, empty]
        exact .refl _
  | none =>
      obtain ⟨turn, rest, p, others, time, turns, queue, inTime, popped⟩ :=
        popNormal_eq consistent slot waiting
      obtain ⟨next, split⟩ := consistent.sent slot queue inTime
      refine ⟨_, _, popped, next, ⟨p.enqueueTime, ?_⟩, rfl, rfl, rfl, rfl, rfl⟩
      unfold stamps queued
      change List.Perm _ (_ :: List.map _ (q.singlePacketQueue.toList ++ _))
      rw [slot]
      exact split.map fun p => (p.packet, p.enqueueTime)

/-- The queue `r` is the queue `q` with the same packets. -/
structure Refreshed (q r : RoundRobinPacketQueue) : Prop where
  consistent : r.Consistent
  stamps : r.stamps.Perm q.stamps

theorem setPauseState_spec (consistent : q.Consistent) (paused : Bool) {now : Int}
    (later : q.timeLastUpdated ≤ now) :
    ∃ r, q.setPauseState paused now = some r ∧ Refreshed q r ∧
      (r = q ∨ r = { q.advance now with paused := paused }) := by
  unfold setPauseState
  by_cases same : q.paused = paused
  · rw [if_pos same]
    exact ⟨q, rfl, ⟨consistent, .refl _⟩, .inl rfl⟩
  · rw [if_neg same, updateQueueTime_eq later]
    have advanced := consistent.advance now
    exact ⟨_, rfl, ⟨⟨advanced.scheduled, advanced.times, advanced.sorted, advanced.alone,
      advanced.count, advanced.bytes, advanced.waiting⟩, .refl _⟩, .inr rfl⟩

/-- A change of the overhead changes the size by what it changes for each packet. -/
theorem Consistent.resized (consistent : q.Consistent) {r : RoundRobinPacketQueue} {size : Int}
    (resized : r = { q with
      includeOverhead := r.includeOverhead
      transportOverheadPerPacket := r.transportOverheadPerPacket
      size := size }) (bytes : size = (q.queued.map r.packetSize).sum) : r.Consistent := by
  have queued : r.queued = q.queued := by rw [resized]; rfl
  rw [← queued] at bytes
  have waitingTime : r.waitingTime = q.waitingTime := by rw [resized]; rfl
  refine ⟨?_, ?_, ?_, ?_, ?_, ?_, ?_⟩
  · rw [resized]; exact consistent.scheduled
  · rw [resized]; exact consistent.times
  · rw [resized]; exact consistent.sorted
  · rw [resized]; exact consistent.alone
  · rw [queued, resized]; exact consistent.count
  · rw [← bytes, resized]
  · rw [queued, waitingTime, resized]; exact consistent.waiting

theorem setIncludeOverhead_spec (consistent : q.Consistent) (excluded : q.includeOverhead = false) :
    ∃ r, q.setIncludeOverhead = some r ∧ Refreshed q r ∧
      r.timeLastUpdated = q.timeLastUpdated ∧ r.pauseTimeSum = q.pauseTimeSum ∧
      r.paused = q.paused := by
  obtain ⟨promoted, moved, agree, empty, same, rest⟩ := promote_spec consistent
  unfold setIncludeOverhead
  rw [moved, Option.map_some]
  have inStreams : promoted.queued = promoted.inStreams := by rw [queued, empty]; rfl
  refine ⟨_, rfl, ⟨agree.resized rfl ?_, same⟩, by rw [rest], by rw [rest], by rw [rest]⟩
  have without : promoted.includeOverhead = false := by rw [rest]; exact excluded
  rw [agree.bytes, inStreams, ← List.sum_map_add]
  congr 1
  apply List.map_congr_left
  intro p _
  simp [packetSize, without]

theorem sum_overheads (entries : List (Nat × Stream)) (overhead previous : Int) :
    (entries.map fun entry => (entry.2.packetQueue.length : Int) * overhead -
        entry.2.packetQueue.length * previous).sum =
      (overhead - previous) * (packetsOf entries).length := by
  induction entries with
  | nil => simp [packetsOf]
  | cons entry entries ih =>
      have all : packetsOf (entry :: entries) = entry.2.packetQueue ++ packetsOf entries := rfl
      rw [List.map_cons, List.sum_cons, ih, all, List.length_append]
      push_cast
      rw [Int.mul_add, ← Int.mul_sub, Int.mul_comm]

theorem setTransportOverhead_spec (consistent : q.Consistent) (overhead : Int) :
    ∃ r, q.setTransportOverhead overhead = some r ∧ Refreshed q r ∧
      r.timeLastUpdated = q.timeLastUpdated ∧ r.pauseTimeSum = q.pauseTimeSum ∧
      r.paused = q.paused := by
  obtain ⟨promoted, moved, agree, empty, same, rest⟩ := promote_spec consistent
  unfold setTransportOverhead
  rw [moved, Option.map_some]
  have inStreams : promoted.queued = promoted.inStreams := by rw [queued, empty]; rfl
  refine ⟨_, rfl, ⟨agree.resized rfl ?_, same⟩, by rw [rest], by rw [rest], by rw [rest]⟩
  rw [inStreams]
  by_cases included : promoted.includeOverhead
  · have larger : RoundRobinPacketQueue.packetSize
        { promoted with transportOverheadPerPacket := overhead } =
          fun p => promoted.packetSize p + (overhead - promoted.transportOverheadPerPacket) := by
      funext p
      simp only [packetSize, included, if_true]
      omega
    rw [if_pos included, sum_overheads, agree.bytes, inStreams]
    change _ = (promoted.inStreams.map (RoundRobinPacketQueue.packetSize
      { promoted with transportOverheadPerPacket := overhead })).sum
    rw [larger, sum_map_add_const]
    rfl
  · rw [if_neg included, agree.bytes, inStreams]
    congr 1
    apply List.map_congr_left
    intro p _
    simp [packetSize, included]

end Invariant

end RoundRobinPacketQueue

section Runs

/-- The operations of the queue. -/
inductive QueueEvent
  | push (priority enqueueTime : Int) (enqueueOrder : Nat) (packet : Packet)
  | pop
  | updateQueueTime (now : Int)
  | setPauseState (paused : Bool) (now : Int)
  | setIncludeOverhead
  | setTransportOverhead (overheadPerPacket : Int)

/-- How a packet is put into the queue. -/
abbrev PushOperation :=
  RoundRobinPacketQueue → Int → Int → Nat → Packet → Option RoundRobinPacketQueue

variable (push : PushOperation)

/-- One operation, with the packets it returns. -/
def QueueEvent.perform (q : RoundRobinPacketQueue) :
    QueueEvent → Option (List Packet × RoundRobinPacketQueue)
  | .push priority enqueueTime enqueueOrder packet =>
      (push q priority enqueueTime enqueueOrder packet).map ([], ·)
  | .pop => q.pop.map fun popped => ([popped.1], popped.2)
  | .updateQueueTime now => (q.updateQueueTime now).map ([], ·)
  | .setPauseState paused now => (q.setPauseState paused now).map ([], ·)
  | .setIncludeOverhead => q.setIncludeOverhead.map ([], ·)
  | .setTransportOverhead overheadPerPacket =>
      (q.setTransportOverhead overheadPerPacket).map ([], ·)

/-- The caller's side: times do not decrease, only a queue with packets is popped, and the
overhead is included at most once. -/
def QueueEvent.Legal (q : RoundRobinPacketQueue) : QueueEvent → Prop
  | .push _ enqueueTime _ _ => q.timeLastUpdated ≤ enqueueTime
  | .pop => q.sizePackets ≠ 0
  | .updateQueueTime now => q.timeLastUpdated ≤ now
  | .setPauseState _ now => q.timeLastUpdated ≤ now
  | .setIncludeOverhead => q.includeOverhead = false
  | .setTransportOverhead _ => True

instance (q : RoundRobinPacketQueue) : (event : QueueEvent) → Decidable (event.Legal q)
  | .push _ enqueueTime _ _ => inferInstanceAs (Decidable (q.timeLastUpdated ≤ enqueueTime))
  | .pop => inferInstanceAs (Decidable (q.sizePackets ≠ 0))
  | .updateQueueTime now => inferInstanceAs (Decidable (q.timeLastUpdated ≤ now))
  | .setPauseState _ now => inferInstanceAs (Decidable (q.timeLastUpdated ≤ now))
  | .setIncludeOverhead => inferInstanceAs (Decidable (q.includeOverhead = false))
  | .setTransportOverhead _ => .isTrue trivial

/-- The packet an operation brings. -/
def QueueEvent.arrival : QueueEvent → List Packet
  | .push _ _ _ packet => [packet]
  | _ => []

/-- A queue with its history: a clock that stands still while the queue is paused, the
packets that arrived with its reading at that time, and the packets that left. -/
structure PacerRun where
  queue : RoundRobinPacketQueue
  crashed : Bool := false
  unpausedClock : Int
  arrivals : List (Packet × Int) := []
  departures : List Packet := []

variable (start : Int)

/-- A new queue. -/
def PacerRun.initial : PacerRun where
  queue := { timeLastUpdated := start }
  unpausedClock := start

/-- One operation of a run; a failed check ends the program. -/
def pacerStep (run : PacerRun) (event : QueueEvent) : PacerRun × List Packet :=
  match event.perform push run.queue with
  | none => ({ run with crashed := true }, [])
  | some (popped, queue) =>
      let clock := run.unpausedClock +
        if run.queue.paused then 0 else queue.timeLastUpdated - run.queue.timeLastUpdated
      ({ queue := queue
         crashed := run.crashed
         unpausedClock := clock
         arrivals := run.arrivals ++ event.arrival.map (·, clock)
         departures := run.departures ++ popped }, popped)

/-- Every packet that arrived has left or is queued, and none twice; `queue_time_sum_` is
the time the queued ones have waited by the unpaused clock. -/
def PacerRun.Conserves (run : PacerRun) : Prop :=
  ∃ gone waiting : List (Packet × Int), run.arrivals.Perm (gone ++ waiting) ∧
    gone.map Prod.fst = run.departures ∧
    (waiting.map Prod.fst).Perm (run.queue.queued.map (·.packet)) ∧
    run.queue.queueTimeSum = (waiting.map fun stamp => run.unpausedClock - stamp.2).sum

/-- The SSRC has exactly one turn, whose priority is that of its best packet. -/
def RoundRobinPacketQueue.HasTurn (q : RoundRobinPacketQueue) (ssrc : Nat) : Prop :=
  ∃ key best, q.streamPriorities.filter (fun turn => turn.2 = ssrc) = [(key, ssrc)] ∧
    best ∈ q.queued ∧ best.ssrc = ssrc ∧ best.priority = key.priority ∧
    ∀ p ∈ q.queued, p.ssrc = ssrc → ¬ p.Before best

/-- What a way to push does for a consistent queue. -/
def PushOperation.Sound : Prop :=
  ∀ (q : RoundRobinPacketQueue) (priority time : Int) (order : Nat) (packet : Packet),
    q.Consistent → q.timeLastUpdated ≤ time →
      ∃ r, push q priority time order packet = some r ∧ q.Pushed time packet r

theorem push_sound : PushOperation.Sound RoundRobinPacketQueue.push :=
  fun _ priority _ order packet consistent later =>
    RoundRobinPacketQueue.push_spec consistent priority later order packet

/-- What one legal operation does: it passes its checks, keeps the agreement, adds up the
paused time, and moves packets from the outside into the queue and out of it. -/
structure Performed (q : RoundRobinPacketQueue) (event : QueueEvent) (popped : List Packet)
    (r : RoundRobinPacketQueue) : Prop where
  consistent : r.Consistent
  pause : r.pauseTimeSum =
    q.pauseTimeSum + if q.paused then r.timeLastUpdated - q.timeLastUpdated else 0
  stamps : ∃ gone, gone.map Prod.fst = popped ∧
    (q.stamps ++ event.arrival.map (·, r.timeLastUpdated - r.pauseTimeSum)).Perm (gone ++ r.stamps)

variable {event : QueueEvent} {q r : RoundRobinPacketQueue}

theorem performed_of_same_time (refreshed : q.Refreshed r) (nothing : event.arrival = [])
    (clock : r.timeLastUpdated = q.timeLastUpdated) (pause : r.pauseTimeSum = q.pauseTimeSum) :
    Performed q event [] r := by
  refine ⟨refreshed.consistent, ?_, [], rfl, ?_⟩
  · rw [clock, pause, sub_self, ite_self, add_zero]
  · rw [nothing]
    simpa using refreshed.stamps.symm

theorem performed_of_later {now : Int} (refreshed : q.Refreshed r) (nothing : event.arrival = [])
    (clock : r.timeLastUpdated = now) (pause : r.pauseTimeSum = (q.advance now).pauseTimeSum) :
    Performed q event [] r := by
  refine ⟨refreshed.consistent, ?_, [], rfl, ?_⟩
  · rw [clock, pause]
    rfl
  · rw [nothing]
    simpa using refreshed.stamps.symm

theorem perform_spec {push : PushOperation} (sound : push.Sound) {q : RoundRobinPacketQueue}
    (consistent : q.Consistent) (legal : event.Legal q) :
    ∃ popped r, event.perform push q = some (popped, r) ∧ Performed q event popped r := by
  cases event with
  | push priority time order packet =>
      obtain ⟨r, pushed, spec⟩ := sound q priority time order packet consistent legal
      refine ⟨[], r, by rw [QueueEvent.perform, pushed]; rfl, spec.consistent, ?_, [], rfl, ?_⟩
      · rw [spec.clock, spec.pause]
        rfl
      · rw [spec.clock, spec.pause]
        exact List.perm_append_comm.trans spec.stamps.symm
  | pop =>
      obtain ⟨packet, r, popped, spec⟩ := RoundRobinPacketQueue.pop_spec consistent legal
      obtain ⟨entered, split⟩ := spec.stamps
      refine ⟨[packet], r, by rw [QueueEvent.perform, popped]; rfl, spec.consistent, ?_,
        [(packet, entered)], rfl, ?_⟩
      · rw [spec.clock, spec.pause, sub_self, ite_self, add_zero]
      · have nothing : QueueEvent.pop.arrival = [] := rfl
        rw [nothing, List.map_nil, List.append_nil]
        exact split
  | updateQueueTime now =>
      refine ⟨[], q.advance now, ?_, performed_of_later ⟨consistent.advance now, .refl _⟩ rfl rfl rfl⟩
      rw [QueueEvent.perform, RoundRobinPacketQueue.updateQueueTime_eq legal]
      rfl
  | setPauseState paused now =>
      obtain ⟨r, set, refreshed, rfl | rfl⟩ :=
        RoundRobinPacketQueue.setPauseState_spec consistent paused legal
      · exact ⟨[], _, by rw [QueueEvent.perform, set]; rfl,
          performed_of_same_time refreshed rfl rfl rfl⟩
      · exact ⟨[], _, by rw [QueueEvent.perform, set]; rfl,
          performed_of_later refreshed rfl rfl rfl⟩
  | setIncludeOverhead =>
      obtain ⟨r, set, refreshed, clock, pause, -⟩ :=
        RoundRobinPacketQueue.setIncludeOverhead_spec consistent legal
      exact ⟨[], r, by rw [QueueEvent.perform, set]; rfl,
        performed_of_same_time refreshed rfl clock pause⟩
  | setTransportOverhead overhead =>
      obtain ⟨r, set, refreshed, clock, pause, -⟩ :=
        RoundRobinPacketQueue.setTransportOverhead_spec consistent overhead
      exact ⟨[], r, by rw [QueueEvent.perform, set]; rfl,
        performed_of_same_time refreshed rfl clock pause⟩

/-- The invariant of a run. -/
structure PacerRun.Orderly (run : PacerRun) : Prop where
  running : run.crashed = false
  consistent : run.queue.Consistent
  clock : run.unpausedClock = run.queue.timeLastUpdated - run.queue.pauseTimeSum
  stamps : ∃ gone, gone.map Prod.fst = run.departures ∧
    run.arrivals.Perm (gone ++ run.queue.stamps)

theorem orderly_initial : (PacerRun.initial start).Orderly where
  running := rfl
  consistent := RoundRobinPacketQueue.consistent_initial start
  clock := (sub_zero start).symm
  stamps := ⟨[], rfl, .refl _⟩

theorem pacerStep_orderly {push : PushOperation} (sound : push.Sound) {run : PacerRun}
    (orderly : run.Orderly) (legal : event.Legal run.queue) :
    (pacerStep push run event).1.Orderly := by
  obtain ⟨popped, r, performed, spec⟩ := perform_spec sound orderly.consistent legal
  have clock : (run.unpausedClock + if run.queue.paused then 0
      else r.timeLastUpdated - run.queue.timeLastUpdated) = r.timeLastUpdated - r.pauseTimeSum := by
    rw [orderly.clock, spec.pause]
    split_ifs <;> omega
  unfold pacerStep
  rw [performed]
  dsimp only
  rw [clock]
  refine ⟨orderly.running, spec.consistent, rfl, ?_⟩
  obtain ⟨earlier, departed, arrived⟩ := orderly.stamps
  obtain ⟨gone, left, moved⟩ := spec.stamps
  refine ⟨earlier ++ gone, by rw [List.map_append, departed, left], ?_⟩
  refine (arrived.append_right _).trans ?_
  rw [List.append_assoc, List.append_assoc]
  exact moved.append_left earlier

theorem PacerRun.Orderly.conserves {run : PacerRun} (orderly : run.Orderly) : run.Conserves := by
  obtain ⟨gone, departed, arrived⟩ := orderly.stamps
  refine ⟨gone, run.queue.stamps, arrived, departed, ?_, ?_⟩
  · rw [RoundRobinPacketQueue.stamps, List.map_map]
    exact .refl _
  · rw [orderly.consistent.waiting, RoundRobinPacketQueue.stamps, List.map_map, orderly.clock]
    congr 1
    apply List.map_congr_left
    intro p _
    simp only [RoundRobinPacketQueue.waitingTime, Function.comp_apply]
    omega

/-- The packets of an SSRC are those of its stream. -/
theorem Scheduled.mem_streamIn {streams : OrderedMap Nat Stream} {turns : List Turn}
    (scheduled : Scheduled streams turns) {p : QueuedPacket} :
    p ∈ packetsOf streams.entries ↔ p ∈ (streamIn streams p.ssrc).packetQueue := by
  have split := (packetsOf_perm streams p.ssrc).mem_iff (a := p)
  rw [split, List.mem_append]
  refine ⟨fun member => ?_, .inl⟩
  rcases member with own | other
  · exact own
  · obtain ⟨entry, inMap, inQueue⟩ := List.mem_flatMap.mp other
    obtain ⟨member, apart⟩ := OrderedMap.mem_erase.mp inMap
    exact absurd ((scheduled.wellFormed entry member).own p inQueue).symm apart

theorem RoundRobinPacketQueue.Consistent.hasTurn {q : RoundRobinPacketQueue}
    (consistent : q.Consistent) (alone : q.singlePacketQueue = none) {p : QueuedPacket}
    (waits : p ∈ q.queued) : q.HasTurn p.ssrc := by
  have all : q.queued = q.inStreams := by rw [queued, alone]; rfl
  rw [all] at waits
  have scheduled := consistent.scheduled
  have wellFormed := scheduled.streamIn_wellFormed p.ssrc
  have member := scheduled.mem_streamIn.mp waits
  have own : ∀ other ∈ q.inStreams, other.ssrc = p.ssrc →
      other ∈ (streamIn q.streams p.ssrc).packetQueue := by
    intro other inStreams same
    rw [← same]
    exact scheduled.mem_streamIn.mp inStreams
  obtain ⟨best, rest, queue⟩ := List.exists_cons_of_ne_nil (List.ne_nil_of_mem member)
  have held := wellFormed.best
  rw [queue, List.head?_cons, Option.map_some] at held
  have first : best ∈ (streamIn q.streams p.ssrc).packetQueue := queue ▸ List.mem_cons_self
  have bestSsrc : best.ssrc = p.ssrc := wellFormed.own best first
  refine ⟨⟨best.priority, (streamIn q.streams p.ssrc).size⟩, best, ?_, ?_, bestSsrc, rfl, ?_⟩
  · have turns := (scheduled.turns_split p.ssrc).filter fun turn => decide (turn.2 = p.ssrc)
    have others : (turnsOf (q.streams.erase p.ssrc).entries).filter
        (fun turn => decide (turn.2 = p.ssrc)) = [] := by
      rw [List.filter_eq_nil_iff]
      intro turn member
      simpa using not_mem_turnsOf_erase q.streams member
    rw [Stream.turn, held, List.filter_append, others, List.append_nil] at turns
    exact List.perm_singleton.mp (turns.trans (by simp))
  · rw [all]
    exact scheduled.mem_streamIn.mpr (bestSsrc ▸ first)
  · intro other inQueue same before
    rw [all] at inQueue
    have ordered := wellFormed.ordered
    have place := own other inQueue same
    rw [queue] at ordered place
    rcases List.mem_cons.mp place with rfl | later
    · exact QueuedPacket.Before.asymm _ _ before before
    · exact List.rel_of_pairwise_cons ordered later before

/-- **Pacer queue.** In every legal run no check fails; every packet that arrived has left
once or is queued; `size_packets_`, `size_` and `queue_time_sum_` are the number, the sizes
and the unpaused waiting times of the queued packets; and either a packet is alone in its
slot and nothing is scheduled, or each SSRC with queued packets has one turn, at the
priority of its best packet. -/
theorem pacer_queue_consistent (events : List QueueEvent)
    (legal : Along (pacerStep RoundRobinPacketQueue.push)
      (fun run event => event.Legal run.queue) (PacerRun.initial start) events) :
    let run := finalState (pacerStep RoundRobinPacketQueue.push) (PacerRun.initial start) events
    run.crashed = false ∧ run.Conserves ∧
      run.queue.sizePackets = run.queue.queued.length ∧
      run.queue.size = (run.queue.queued.map run.queue.packetSize).sum ∧
      (∀ p ∈ run.queue.singlePacketQueue, run.queue.queued = [p] ∧
        run.queue.streamPriorities = []) ∧
      (run.queue.singlePacketQueue = none → ∀ p ∈ run.queue.queued, run.queue.HasTurn p.ssrc) := by
  intro run
  have orderly : run.Orderly := legal.invariant PacerRun.Orderly
    (fun run event held allowed => pacerStep_orderly push_sound held allowed) (orderly_initial start)
  have consistent := orderly.consistent
  refine ⟨orderly.running, orderly.conserves, consistent.count, consistent.bytes, ?_, ?_⟩
  · intro p slot
    obtain ⟨empty, -⟩ := consistent.alone p slot
    refine ⟨?_, ?_⟩
    · rw [RoundRobinPacketQueue.queued, slot, empty]
      rfl
    · exact consistent.scheduled.turns_eq_nil empty
  · exact fun alone p waits => consistent.hasTurn alone waits

/-- Two packets, one of them promoted from its slot, wait while the queue is paused. -/
def pausedRun : List QueueEvent :=
  [.push 1 10 1 (videoPacket 1), .push 1 20 2 (videoPacket 2), .setPauseState true 30,
    .updateQueueTime 50, .setIncludeOverhead, .pop]

theorem pacer_queue_consistent_paused :
    (finalState (pacerStep RoundRobinPacketQueue.push) (PacerRun.initial 0) pausedRun).crashed =
        false ∧
      (finalState (pacerStep RoundRobinPacketQueue.push) (PacerRun.initial 0)
        pausedRun).Conserves :=
  have consistent := pacer_queue_consistent 0 pausedRun (by decide)
  ⟨consistent.1, consistent.2.1⟩

/-- A packet in the single-packet slot is queued, and its SSRC has no turn. -/
theorem single_packet_has_no_turn :
    ∃ p ∈ (finalState (pacerStep RoundRobinPacketQueue.push) (PacerRun.initial 0)
        [.push 1 10 1 (videoPacket 1)]).queue.queued,
      ¬ (finalState (pacerStep RoundRobinPacketQueue.push) (PacerRun.initial 0)
        [.push 1 10 1 (videoPacket 1)]).queue.HasTurn p.ssrc := by
  refine ⟨⟨1, 10, 1, none, videoPacket 1⟩, by decide, ?_⟩
  rintro ⟨key, best, turns, -⟩
  cases turns

end Runs

end MpWebRtc.Pacing
