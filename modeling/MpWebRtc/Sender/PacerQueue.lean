import Mathlib.Algebra.Ring.Int.Defs
import Mathlib.Data.List.Sort
import MpWebRtc.Math.OrderedMap
import MpWebRtc.Packet

/-!
# The queue of the pacer

`RoundRobinPacketQueue` keeps the packets of each SSRC in a priority queue and takes turns
between SSRCs: the one whose best packet has the highest priority goes first, and among
equals the one that has sent the fewest bytes. Four containers refer to each other: the
streams with their packets, `stream_priorities_` with one entry for each scheduled stream,
the multiset of enqueue times, and a slot for a packet that is alone in the queue, which
passes by the other three.

Iterators are modelled by the element they point to; `none` is the end of the container.
A priority queue and a multimap are lists in their order, where a new element goes behind
its equals. Sizes and times are integers. An operation that fails one of its `RTC_CHECK`s
has no result.
-/

namespace MpWebRtc.Pacing

open Math

/-- `QueuedPacket`. -/
structure QueuedPacket where
  priority : Int
  enqueueTime : Int
  enqueueOrder : Nat
  enqueueTimeIt : Option Int
  packet : Packet
  deriving DecidableEq

namespace QueuedPacket

def isRetransmission (p : QueuedPacket) : Bool := p.packet.packetType == some .kRetransmission

def ssrc (p : QueuedPacket) : Nat := p.packet.ssrc

variable (p other : QueuedPacket)

/-- `operator<`: the greater packet leaves the queue first. -/
def Less : Prop :=
  if p.priority ≠ other.priority then p.priority > other.priority
  else if p.isRetransmission ≠ other.isRetransmission then other.isRetransmission
  else p.enqueueOrder > other.enqueueOrder

/-- `p` leaves the queue before `other`. -/
def Before : Prop := Less other p

instance : DecidableRel Before := fun p other =>
  inferInstanceAs (Decidable (if other.priority ≠ p.priority then other.priority > p.priority
    else if other.isRetransmission ≠ p.isRetransmission then p.isRetransmission
    else other.enqueueOrder > p.enqueueOrder))

/-- `SubtractPauseTime`. -/
def subtractPauseTime (p : QueuedPacket) (pauseTimeSum : Int) : QueuedPacket :=
  { p with enqueueTime := p.enqueueTime - pauseTimeSum }

end QueuedPacket

/-- `StreamPrioKey`. -/
structure StreamPrioKey where
  priority : Int
  size : Int
  deriving DecidableEq

/-- `StreamPrioKey::operator<`. -/
def StreamPrioKey.Less (key other : StreamPrioKey) : Prop :=
  if key.priority ≠ other.priority then key.priority < other.priority else key.size < other.size

/-- An entry of `stream_priorities_`: the key and the SSRC. -/
abbrev Turn := StreamPrioKey × Nat

/-- The order of `stream_priorities_`. -/
def Turn.Before (turn other : Turn) : Prop := turn.1.Less other.1

instance : DecidableRel Turn.Before := fun turn other =>
  inferInstanceAs (Decidable (if turn.1.priority ≠ other.1.priority then
    turn.1.priority < other.1.priority else turn.1.size < other.1.size))

/-- `Stream`. -/
structure Stream where
  size : Int := 0
  ssrc : Nat := 0
  packetQueue : List QueuedPacket := []
  priorityIt : Option StreamPrioKey := none

def kMaxLeadingSize : Int := 1400

/-- `RoundRobinPacketQueue`. -/
structure RoundRobinPacketQueue where
  transportOverheadPerPacket : Int := 0
  timeLastUpdated : Int
  paused : Bool := false
  sizePackets : Nat := 0
  size : Int := 0
  maxSize : Int := kMaxLeadingSize
  queueTimeSum : Int := 0
  pauseTimeSum : Int := 0
  streamPriorities : List Turn := []
  streams : OrderedMap Nat Stream := {}
  enqueueTimes : List Int := []
  singlePacketQueue : Option QueuedPacket := none
  includeOverhead : Bool := false

namespace RoundRobinPacketQueue

variable (q : RoundRobinPacketQueue)

/-- `PacketSize`. -/
def packetSize (p : QueuedPacket) : Int :=
  p.packet.payload.length + p.packet.paddingSize +
    if q.includeOverhead then p.packet.headersSize + q.transportOverheadPerPacket else 0

/-- `UpdateQueueTime`. -/
def updateQueueTime (now : Int) : Option RoundRobinPacketQueue :=
  if now < q.timeLastUpdated then none
  else if now = q.timeLastUpdated then some q
  else
    let delta := now - q.timeLastUpdated
    if q.paused then
      some { q with pauseTimeSum := q.pauseTimeSum + delta, timeLastUpdated := now }
    else
      some { q with
        queueTimeSum := q.queueTimeSum + delta * q.sizePackets
        timeLastUpdated := now }

/-- `IsSsrcScheduled`. -/
def isSsrcScheduled (ssrc : Nat) : Bool := q.streamPriorities.any fun turn => turn.2 == ssrc

/-- The stream of an SSRC, which `Push` creates when there is none. -/
def streamOf (ssrc : Nat) : Stream := (q.streams.find ssrc).getD { ssrc := ssrc }

/-- `stream_priorities_` without the turn of a stream. -/
def unschedule (stream : Stream) (streamPriorities : List Turn) : List Turn :=
  match stream.priorityIt with
  | none => streamPriorities
  | some key => streamPriorities.erase (key, stream.ssrc)

/-- The turn a stream has once a packet of this priority is pushed: a stream without one
gets it, and an earlier turn replaces a later one. -/
def scheduleFor (stream : Stream) (priority : Int) : Option (StreamPrioKey × List Turn) :=
  let key : StreamPrioKey := ⟨priority, stream.size⟩
  match stream.priorityIt with
  | none =>
      if q.isSsrcScheduled stream.ssrc then none
      else some (key, q.streamPriorities.orderedInsert Turn.Before (key, stream.ssrc))
  | some current =>
      if priority < current.priority then
        some (key, (unschedule stream q.streamPriorities).orderedInsert Turn.Before
          (key, stream.ssrc))
      else some (current, q.streamPriorities)

/-- A packet from the single-packet slot only adds its enqueue time; any other packet is
counted now. -/
def enter (p : QueuedPacket) : Option (RoundRobinPacketQueue × QueuedPacket) :=
  match p.enqueueTimeIt with
  | none =>
      some ({ q with enqueueTimes := q.enqueueTimes.orderedInsert (· < ·) p.enqueueTime },
        { p with enqueueTimeIt := some p.enqueueTime })
  | some _ =>
      (q.updateQueueTime p.enqueueTime).map fun q =>
        ({ q with
            sizePackets := q.sizePackets + 1
            size := q.size + q.packetSize (p.subtractPauseTime q.pauseTimeSum) },
          p.subtractPauseTime q.pauseTimeSum)

/-- `Push(QueuedPacket)`. -/
def pushQueued (p : QueuedPacket) : Option RoundRobinPacketQueue :=
  let stream := q.streamOf p.ssrc
  (q.scheduleFor stream p.priority).bind fun scheduled =>
    (enter { q with streamPriorities := scheduled.2 } p).map fun entered =>
      { entered.1 with
        streams := q.streams.insert p.ssrc
          { stream with
            packetQueue := stream.packetQueue.orderedInsert QueuedPacket.Before entered.2
            priorityIt := some scheduled.1 } }

/-- `MaybePromoteSinglePacketToNormalQueue`. -/
def maybePromoteSinglePacketToNormalQueue : Option RoundRobinPacketQueue :=
  match q.singlePacketQueue with
  | none => some q
  | some p => (q.pushQueued p).map fun q => { q with singlePacketQueue := none }

/-- The branch of `Push` for a queue that is not empty. -/
def pushNormal (priority enqueueTime : Int) (enqueueOrder : Nat) (packet : Packet) :
    Option RoundRobinPacketQueue :=
  q.maybePromoteSinglePacketToNormalQueue.bind fun q =>
    { q with enqueueTimes := q.enqueueTimes.orderedInsert (· < ·) enqueueTime }.pushQueued
      ⟨priority, enqueueTime, enqueueOrder, some enqueueTime, packet⟩

/-- `Push`. -/
def push (priority enqueueTime : Int) (enqueueOrder : Nat) (packet : Packet) :
    Option RoundRobinPacketQueue :=
  if q.sizePackets = 0 then
    let p : QueuedPacket := ⟨priority, enqueueTime, enqueueOrder, none, packet⟩
    (q.updateQueueTime enqueueTime).map fun q =>
      { q with
        singlePacketQueue := some (p.subtractPauseTime q.pauseTimeSum)
        sizePackets := 1
        size := q.size + q.packetSize p }
  else q.pushNormal priority enqueueTime enqueueOrder packet

/-- `GetHighestPriorityStream`, with the packet on top of it. -/
def getHighestPriorityStream : Option (Stream × QueuedPacket) :=
  q.streamPriorities.head?.bind fun turn =>
    (q.streams.find turn.2).bind fun stream =>
      if stream.priorityIt = some turn.1 then stream.packetQueue.head?.map (stream, ·) else none

/-- The turn of a stream after its top packet is gone. -/
def reschedule (stream : Stream) (streamPriorities : List Turn) : Stream × List Turn :=
  match stream.packetQueue.head? with
  | none => ({ stream with priorityIt := none }, streamPriorities)
  | some next =>
      let key : StreamPrioKey := ⟨next.priority, stream.size⟩
      ({ stream with priorityIt := some key },
        streamPriorities.orderedInsert Turn.Before (key, stream.ssrc))

/-- The bytes accounted to a stream that sends a packet: at least the most any stream has
sent, less the allowed lead. -/
def sentSize (stream : Stream) (p : QueuedPacket) : Int :=
  max (stream.size + q.packetSize p) (q.maxSize - kMaxLeadingSize)

/-- `Pop` from the streams. -/
def popNormal : Option (Packet × RoundRobinPacketQueue) :=
  q.getHighestPriorityStream.bind fun highest =>
    let stream := highest.1
    let p := highest.2
    let unscheduled := unschedule stream q.streamPriorities
    let queueTimeSum := q.queueTimeSum - (q.timeLastUpdated - p.enqueueTime - q.pauseTimeSum)
    p.enqueueTimeIt.bind fun time =>
      if q.sizePackets - 1 = 0 ∧ queueTimeSum ≠ 0 then none
      else if unscheduled.any fun turn => turn.2 == stream.ssrc then none
      else
        let rescheduled := reschedule
          { stream with size := q.sentSize stream p, packetQueue := stream.packetQueue.tail }
          unscheduled
        some (p.packet, { q with
          queueTimeSum := queueTimeSum
          enqueueTimes := q.enqueueTimes.erase time
          maxSize := max q.maxSize (q.sentSize stream p)
          size := q.size - q.packetSize p
          sizePackets := q.sizePackets - 1
          streamPriorities := rescheduled.2
          streams := q.streams.insert stream.ssrc rescheduled.1 })

/-- `Pop`. -/
def pop : Option (Packet × RoundRobinPacketQueue) :=
  match q.singlePacketQueue with
  | some p =>
      some (p.packet, { q with
        singlePacketQueue := none
        queueTimeSum := 0
        sizePackets := 0
        size := 0 })
  | none => q.popNormal

/-- `Empty`. -/
def empty : Bool := q.sizePackets == 0

/-- The packet that `Pop` would return. -/
def leading : Option QueuedPacket :=
  match q.singlePacketQueue with
  | some p => some p
  | none =>
      q.streamPriorities.head?.bind fun turn =>
        (q.streams.find turn.2).bind fun stream => stream.packetQueue.head?

/-- `LeadingAudioPacketEnqueueTime`. -/
def leadingAudioPacketEnqueueTime : Option Int :=
  (q.leading.filter fun p => p.packet.packetType == some .kAudio).map (·.enqueueTime)

/-- `OldestEnqueueTime`; `none` is `MinusInfinity`. -/
def oldestEnqueueTime : Option Int :=
  match q.singlePacketQueue with
  | some p => some p.enqueueTime
  | none => if q.empty then none else q.enqueueTimes.head?

/-- `AverageQueueTime`. -/
def averageQueueTime : Int := if q.empty then 0 else q.queueTimeSum.tdiv q.sizePackets

/-- `SetPauseState`. -/
def setPauseState (paused : Bool) (now : Int) : Option RoundRobinPacketQueue :=
  if q.paused = paused then some q
  else (q.updateQueueTime now).map fun q => { q with paused := paused }

/-- The packets in the streams. -/
def inStreams : List QueuedPacket := q.streams.entries.flatMap fun entry => entry.2.packetQueue

/-- `SetIncludeOverhead`. -/
def setIncludeOverhead : Option RoundRobinPacketQueue :=
  q.maybePromoteSinglePacketToNormalQueue.map fun q =>
    { q with
      includeOverhead := true
      size := q.size + (q.inStreams.map fun p =>
        (p.packet.headersSize : Int) + q.transportOverheadPerPacket).sum }

/-- `SetTransportOverhead`. -/
def setTransportOverhead (overheadPerPacket : Int) : Option RoundRobinPacketQueue :=
  q.maybePromoteSinglePacketToNormalQueue.map fun q =>
    { q with
      transportOverheadPerPacket := overheadPerPacket
      size := if q.includeOverhead then
          q.size + (q.streams.entries.map fun entry =>
            entry.2.packetQueue.length * overheadPerPacket -
              entry.2.packetQueue.length * q.transportOverheadPerPacket).sum
        else q.size }

end RoundRobinPacketQueue

end MpWebRtc.Pacing
