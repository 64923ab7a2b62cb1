import Mathlib.Data.List.Forall2
import MpWebRtc.Sender.FeedbackAdapter

/-!
# Feedback finds the packets of a path

The packets added to an adapter are numbered consecutively on their path, modulo 2^16.
If the unwrapper always stays in one epoch, a packet is stored under its number plus one
fixed multiple of 2^16, and a reported number leads to the packet it was given to.

The unwrapper is fed with the transport-wide number of a packet before the number on the
path. These are independent counters. The unwrapper stays in the epoch as long as the
transport-wide number is unwrapped to less than half a circle from the packet; the
numbers of recent packets in between do no harm.
-/

namespace MpWebRtc

open Math Math.Run Math.Serial

variable {Pacing : Type}

/-- What a packet was added with. -/
structure AddedPacket (Pacing : Type) where
  packetInfo : RtpPacketSendInfo Pacing
  overheadBytes : Nat
  creationTime : Int

/-- A record is about the packet. -/
structure AddedPacket.Describes (added : AddedPacket Pacing) (sent : SentPacket Pacing) : Prop where
  size : sent.size = added.packetInfo.length + added.overheadBytes
  pacingInfo : sent.pacingInfo = added.packetInfo.pacingInfo
  audio : sent.audio = added.packetInfo.audio

/-- An adapter with the packets that were added to it. -/
structure PathRun (Pacing : Type) where
  adapter : TransportFeedbackAdapter Pacing := {}
  added : List (AddedPacket Pacing) := []

namespace PathRun

/-- The packets that a call adds. -/
def addedBy : AdapterEvent Pacing → List (AddedPacket Pacing)
  | .addPacket packetInfo overheadBytes creationTime =>
      [⟨packetInfo, overheadBytes, creationTime⟩]
  | .processSentPacket _ => []
  | .processTransportFeedback _ _ => []

/-- A call. -/
def step (run : PathRun Pacing) (event : AdapterEvent Pacing) :
    PathRun Pacing × List (PacketResult Pacing) :=
  (⟨(run.adapter.step event).1, run.added ++ addedBy event⟩, (run.adapter.step event).2)

/-- A packet is among the last 2^15. -/
def Recent (count n : Nat) : Prop := n < count ∧ count ≤ n + 32768

/-- The 16-bit number of the `n`-th packet, which is among the last 2^15. -/
def Names (origin count : Nat) (value : UInt16) (n : Nat) : Prop :=
  Recent count n ∧ value = wrap (origin + n)

/-- Packets are numbered consecutively from the origin, and calls name recent packets. -/
def Numbered (origin : Nat) (run : PathRun Pacing) : AdapterEvent Pacing → Prop
  | .addPacket packetInfo _ _ =>
      packetInfo.mpTransportSequenceNumber = wrap (origin + run.added.length)
  | .processSentPacket sentPacket =>
      (sentPacket.includedInFeedback || sentPacket.packetMpid != -1) →
        ∃ n, Names origin run.added.length (wrap sentPacket.packetMpid) n
  | .processTransportFeedback feedback _ =>
      ∀ packet ∈ feedback.allPackets, ∃ n, Names origin run.added.length packet.sequenceNumber n

/-- The transport-wide number of a packet does not lead out of the epoch. -/
def InEpoch (origin epoch : Nat) (run : PathRun Pacing) : AdapterEvent Pacing → Prop
  | .addPacket packetInfo _ _ =>
      Nearest (TransportFeedbackAdapter.unwrapTransport run.adapter.lastValue
        packetInfo.transportSequenceNumber) (epochKey origin epoch run.added.length)
  | .processSentPacket _ => True
  | .processTransportFeedback _ _ => True

instance (origin epoch : Nat) (run : PathRun Pacing) (event : AdapterEvent Pacing) :
    Decidable (run.InEpoch origin epoch event) :=
  match event with
  | .addPacket _ _ _ => inferInstanceAs (Decidable (Nearest _ _))
  | .processSentPacket _ => .isTrue trivial
  | .processTransportFeedback _ _ => .isTrue trivial

/-- The record of the `n`-th packet, if it is stored and was sent. -/
def sentRecord (origin epoch : Nat) (a : TransportFeedbackAdapter Pacing) (n : Nat) :
    Option (SentPacket Pacing) :=
  (a.history.find (epochKey origin epoch n)).bind fun packet =>
    if packet.sent.sendTime.isSome then some packet.sent else none

/-- What a list of statuses should lead to: each is applied to the packet it names, and a
received packet is forgotten. -/
def applyStatuses : (record : Nat → Option (SentPacket Pacing)) → List (Nat × Bool) →
    List (SentPacket Pacing × Bool)
  | _, [] => []
  | record, (n, received) :: statuses =>
      match record n with
      | none => applyStatuses record statuses
      | some sent =>
          (sent, received) ::
            applyStatuses (if received then Function.update record n none else record) statuses

/-- The numbers of the packets that are reported as received. -/
def receivedNumbers (results : List (PacketResult Pacing)) : List Int :=
  (results.filter (·.receiveTime.isSome)).map (·.sentPacket.mpSequenceNumber)

/-- The entry is the record of the packet that its key stands for. -/
def Filed (origin epoch : Nat) (added : List (AddedPacket Pacing))
    (entry : Int × PacketFeedback Pacing) : Prop :=
  ∃ n packet, added[n]? = some packet ∧ entry.1 = epochKey origin epoch n ∧
    packet.Describes entry.2.sent ∧ entry.2.creationTime = packet.creationTime

/-- The entries are filed, the unwrapper is at a recent packet, and what is stored has not
been received. -/
structure Kept (origin epoch : Nat) (added : List (AddedPacket Pacing))
    (a : TransportFeedbackAdapter Pacing) : Prop where
  natural : ∀ last, a.lastValue = some last → 0 ≤ last
  positioned : added ≠ [] →
    ∃ n, Recent added.length n ∧ a.lastValue = some (epochKey origin epoch n)
  filed : ∀ entry ∈ a.history.entries, Filed origin epoch added entry
  numbered : ∀ entry ∈ a.history.entries, entry.2.sent.mpSequenceNumber = entry.1
  unreceived : ∀ entry ∈ a.history.entries, entry.2.receiveTime = none

variable {origin epoch : Nat} {added : List (AddedPacket Pacing)}
  {a : TransportFeedbackAdapter Pacing}

theorem kept_initial : Kept origin epoch [] ({} : TransportFeedbackAdapter Pacing) where
  natural _ isLast := nomatch isLast
  positioned other := absurd rfl other
  filed := List.forall_mem_nil _
  numbered := List.forall_mem_nil _
  unreceived := List.forall_mem_nil _

namespace Kept

/-- A recent number leads to its packet, whichever recent number came before. -/
theorem unwrap (kept : Kept origin epoch added a) {value : UInt16} {n : Nat}
    (names : Names origin added.length value n) :
    unwrapWithoutUpdate a.lastValue value = epochKey origin epoch n := by
  obtain ⟨recent, rfl⟩ := names
  have some : added ≠ [] := by
    rintro rfl
    exact absurd recent.1 (Nat.not_lt_zero n)
  obtain ⟨m, before, last⟩ := kept.positioned some
  rw [last, ← wrap_epochKey origin epoch, unwrapWithoutUpdate_wrap_iff (epochKey_nonneg m) (epochKey_nonneg n)]
  obtain ⟨first, second⟩ := before
  obtain ⟨third, fourth⟩ := recent
  unfold Nearest epochKey
  omega

/-- The same packets, with the unwrapper at a recent one. -/
theorem move (kept : Kept origin epoch added a) {other : TransportFeedbackAdapter Pacing} {n : Nat}
    (recent : Recent added.length n) (last : other.lastValue = some (epochKey origin epoch n))
    (fewer : ∀ entry ∈ other.history.entries, entry ∈ a.history.entries) :
    Kept origin epoch added other where
  natural number isLast := by
    rw [last, Option.some_inj] at isLast
    exact isLast ▸ epochKey_nonneg n
  positioned _ := ⟨n, recent, last⟩
  filed entry member := kept.filed entry (fewer entry member)
  numbered entry member := kept.numbered entry (fewer entry member)
  unreceived entry member := kept.unreceived entry (fewer entry member)

end Kept

end PathRun

namespace TransportFeedbackAdapter

variable {a : TransportFeedbackAdapter Pacing}

@[simp] theorem acknowledge_history (seqNum : Int) :
    (a.acknowledge seqNum).history = a.history := by
  unfold acknowledge
  split <;> rfl

@[simp] theorem acknowledge_lastValue (seqNum : Int) :
    (a.acknowledge seqNum).lastValue = a.lastValue := by
  unfold acknowledge
  split <;> rfl

end TransportFeedbackAdapter

namespace PathRun

variable {origin epoch : Nat} {added : List (AddedPacket Pacing)}
  {a : TransportFeedbackAdapter Pacing}

/-- What a status does to the packet it names. -/
theorem Kept.reportPacket (kept : Kept origin epoch added a) {packet : FeedbackPacket} {n : Nat}
    (names : Names origin added.length packet.sequenceNumber n) (packetOffset : Int) :
    (a.reportPacket packetOffset packet).1.lastValue = some (epochKey origin epoch n) ∧
      ((sentRecord origin epoch a n = none ∧
          (a.reportPacket packetOffset packet).1.history = a.history ∧
          (a.reportPacket packetOffset packet).2.2 = []) ∨
        ∃ entry, (epochKey origin epoch n, entry) ∈ a.history.entries ∧
          sentRecord origin epoch a n = some entry.sent ∧
          ((packet.received = false ∧
              (a.reportPacket packetOffset packet).1.history = a.history ∧
              (a.reportPacket packetOffset packet).2.2 = [⟨entry.sent, none⟩]) ∨
            packet.received = true ∧
              (a.reportPacket packetOffset packet).1.history =
                a.history.erase (epochKey origin epoch n) ∧
              ∃ time, (a.reportPacket packetOffset packet).2.2 = [⟨entry.sent, some time⟩])) := by
  have cases := TransportFeedbackAdapter.reportPacket_cases a packetOffset packet
  dsimp only at cases
  rw [kept.unwrap names] at cases
  simp only [TransportFeedbackAdapter.acknowledge_history] at cases
  rcases cases with ⟨unsent, same, nothing⟩ | ⟨entry, found, sent, reported⟩
  · rw [same, nothing]
    refine ⟨by simp, .inl ⟨?_, by simp, rfl⟩⟩
    rw [sentRecord, Option.bind_eq_none_iff]
    intro entry found
    rw [unsent entry found]
    rfl
  · have member := OrderedMap.find_eq_some_iff.mp found
    have record : sentRecord origin epoch a n = some entry.sent := by
      rw [sentRecord, found, Option.bind_some, if_pos sent]
    rcases reported with ⟨lost, same, result⟩ | ⟨received, erased, result⟩
    · rw [same, result]
      refine ⟨by simp, .inr ⟨entry, member, record, .inl ⟨?_, by simp, ?_⟩⟩⟩
      · rw [FeedbackPacket.received, lost]
        rfl
      · rw [kept.unreceived _ member]
    · rw [erased]
      exact ⟨by simp, .inr ⟨entry, member, record, .inr ⟨received, rfl, result⟩⟩⟩

/-- What a list of statuses did to an adapter. -/
structure Applied (origin epoch : Nat) (added : List (AddedPacket Pacing))
    (a : TransportFeedbackAdapter Pacing) (statuses : List (Nat × Bool))
    (after : TransportFeedbackAdapter Pacing × List (PacketResult Pacing)) : Prop where
  kept : Kept origin epoch added after.1
  results : after.2.map (fun result => (result.sentPacket, result.receiveTime.isSome)) =
    applyStatuses (sentRecord origin epoch a) statuses
  fewer : ∀ entry ∈ after.1.history.entries, entry ∈ a.history.entries
  stays : ∀ entry ∈ a.history.entries,
    entry ∈ after.1.history.entries ∨ entry.1 ∈ receivedNumbers after.2
  once : (receivedNumbers after.2).Nodup
  stored : ∀ number ∈ receivedNumbers after.2, ∃ entry ∈ a.history.entries, entry.1 = number
  gone : ∀ number ∈ receivedNumbers after.2,
    ∀ entry ∈ after.1.history.entries, entry.1 ≠ number

variable {b : TransportFeedbackAdapter Pacing}

theorem sentRecord_erase {n : Nat}
    (erased : b.history = a.history.erase (epochKey origin epoch n)) :
    sentRecord origin epoch b = Function.update (sentRecord origin epoch a) n none := by
  funext m
  unfold sentRecord
  rw [erased, OrderedMap.find_erase]
  by_cases same : m = n
  · rw [same, if_pos rfl, Function.update_self]
    rfl
  · rw [if_neg (mt epochKey_inj.mp same), Function.update_of_ne same]

theorem sentRecord_congr (same : b.history = a.history) :
    sentRecord origin epoch b = sentRecord origin epoch a := by
  unfold sentRecord
  rw [same]

variable {after : TransportFeedbackAdapter Pacing × List (PacketResult Pacing)}

variable {statuses : List (Nat × Bool)}

/-- A status without a reception, before the others. -/
theorem Applied.cons_same
    (applied : Applied origin epoch added b statuses after) (same : b.history = a.history)
    {n : Nat} {result : List (PacketResult Pacing)}
    (expected : result = [] ∧ sentRecord origin epoch a n = none ∨
      ∃ sent, result = [⟨sent, none⟩] ∧ sentRecord origin epoch a n = some sent)
    {received : Bool} (lost : result ≠ [] → received = false) :
    Applied origin epoch added a ((n, received) :: statuses) (after.1, result ++ after.2) := by
  have numbers : receivedNumbers (result ++ after.2) = receivedNumbers after.2 := by
    rcases expected with ⟨rfl, -⟩ | ⟨sent, rfl, -⟩ <;> rfl
  refine ⟨applied.kept, ?_, same ▸ applied.fewer, ?_, ?_, ?_, ?_⟩
  · rw [applyStatuses, List.map_append, applied.results, sentRecord_congr same]
    rcases expected with ⟨rfl, unknown⟩ | ⟨sent, rfl, known⟩
    · rw [unknown]
      rfl
    · rw [known, lost (List.cons_ne_nil _ _)]
      rfl
  · rw [numbers, ← same]
    exact applied.stays
  · rw [numbers]
    exact applied.once
  · rw [numbers, ← same]
    exact applied.stored
  · rw [numbers]
    exact applied.gone

/-- A reception, before the others. -/
theorem Applied.cons_received (applied : Applied origin epoch added b statuses after) {n : Nat}
    (erased : b.history = a.history.erase (epochKey origin epoch n)) {entry : PacketFeedback Pacing}
    (member : (epochKey origin epoch n, entry) ∈ a.history.entries)
    (number : entry.sent.mpSequenceNumber = epochKey origin epoch n)
    (record : sentRecord origin epoch a n = some entry.sent) (time : Int) :
    Applied origin epoch added a ((n, true) :: statuses)
      (after.1, ⟨entry.sent, some time⟩ :: after.2) := by
  have numbers : receivedNumbers (⟨entry.sent, some time⟩ :: after.2) =
      epochKey origin epoch n :: receivedNumbers after.2 := by
    rw [← number]
    rfl
  have removed : ∀ other ∈ b.history.entries,
      other ∈ a.history.entries ∧ other.1 ≠ epochKey origin epoch n := by
    intro other inside
    rw [erased] at inside
    exact OrderedMap.mem_erase.mp inside
  refine ⟨applied.kept, ?_, fun other inside => (removed other (applied.fewer other inside)).1,
    ?_, ?_, ?_, ?_⟩
  · rw [applyStatuses, record, List.map_cons, applied.results, sentRecord_erase erased]
    rfl
  · rw [numbers]
    intro other inside
    by_cases same : other.1 = epochKey origin epoch n
    · exact .inr (same ▸ List.mem_cons_self)
    · have remains : other ∈ b.history.entries := by
        rw [erased]
        exact OrderedMap.mem_erase.mpr ⟨inside, same⟩
      exact (applied.stays other remains).imp_right (List.mem_cons_of_mem _)
  · rw [numbers, List.nodup_cons]
    refine ⟨fun again => ?_, applied.once⟩
    obtain ⟨other, inside, same⟩ := applied.stored _ again
    exact (removed other inside).2 same
  · rw [numbers, List.forall_mem_cons]
    refine ⟨⟨_, member, rfl⟩, fun later reported => ?_⟩
    obtain ⟨other, inside, same⟩ := applied.stored later reported
    exact ⟨other, (removed other inside).1, same⟩
  · rw [numbers, List.forall_mem_cons]
    exact ⟨fun other inside => (removed other (applied.fewer other inside)).2, applied.gone⟩

/-- **Statuses find their packets.** -/
theorem Kept.reportPackets (kept : Kept origin epoch added a) {packets : List FeedbackPacket}
    {ns : List Nat}
    (names : List.Forall₂ (fun packet n => Names origin added.length packet.sequenceNumber n)
      packets ns) (packetOffset : Int) :
    Applied origin epoch added a (ns.zip (packets.map (·.received)))
      (a.reportPackets packetOffset packets) := by
  induction names generalizing a packetOffset with
  | nil =>
      exact ⟨kept, rfl, fun _ => id, fun _ => .inl, .nil, List.forall_mem_nil _,
        List.forall_mem_nil _⟩
  | @cons packet n packets ns first rest ih =>
      rw [List.map_cons, List.zip_cons_cons, TransportFeedbackAdapter.reportPackets]
      obtain ⟨last, cases⟩ := kept.reportPacket first packetOffset
      rcases cases with ⟨unknown, same, nothing⟩ |
        ⟨entry, member, record, ⟨lost, same, result⟩ | ⟨received, erased, time, result⟩⟩
      · have next := ih (kept.move first.1 last (same ▸ fun _ => id))
          (a.reportPacket packetOffset packet).2.1
        exact next.cons_same same (.inl ⟨nothing, unknown⟩) fun some => absurd nothing some
      · have next := ih (kept.move first.1 last (same ▸ fun _ => id))
          (a.reportPacket packetOffset packet).2.1
        exact next.cons_same same (.inr ⟨entry.sent, result, record⟩) fun _ => lost
      · have next := ih (kept.move first.1 last fun _ member =>
          (OrderedMap.mem_erase.mp (erased ▸ member)).1) (a.reportPacket packetOffset packet).2.1
        rw [received, result]
        exact next.cons_received erased member (kept.numbered _ member) record time

/-- What a call should do in an epoch: the stored packets are where they belong, an added
packet is stored, statuses are applied to the packets they name, and a stored packet
remains until it is reported as received or too old. -/
structure Matches (origin epoch : Nat) (run : PathRun Pacing) (event : AdapterEvent Pacing) :
    Prop where
  filed : ∀ entry ∈ (run.step event).1.adapter.history.entries,
    Filed origin epoch (run.step event).1.added entry
  stored : addedBy event ≠ [] → ∃ packet,
    (epochKey origin epoch run.added.length, packet) ∈ (run.step event).1.adapter.history.entries
  applied : ∀ feedback time, event = .processTransportFeedback feedback time →
    feedback.numSeqNo ≠ 0 →
    ∀ ns, List.Forall₂
        (fun packet n => Names origin run.added.length packet.sequenceNumber n)
        feedback.allPackets ns →
      (run.step event).2.map (fun result => (result.sentPacket, result.receiveTime.isSome)) =
        applyStatuses (sentRecord origin epoch run.adapter)
          (ns.zip (feedback.allPackets.map (·.received)))
  stays : ∀ entry ∈ run.adapter.history.entries,
    (∃ other ∈ (run.step event).1.adapter.history.entries, other.1 = entry.1) ∨
      entry.1 ∈ receivedNumbers (run.step event).2 ∨
      ∃ packet ∈ addedBy event,
        packet.creationTime - entry.2.creationTime > kSendTimeHistoryWindow

/-- What a call reports as received was stored and is gone, and it stores nothing under
the keys that are past. -/
structure Reports (origin epoch : Nat) (run : PathRun Pacing) (event : AdapterEvent Pacing) :
    Prop where
  kept : Kept origin epoch (run.step event).1.added (run.step event).1.adapter
  once : (receivedNumbers (run.step event).2).Nodup
  known : ∀ number ∈ receivedNumbers (run.step event).2,
    ∃ entry ∈ run.adapter.history.entries, entry.1 = number
  gone : ∀ number ∈ receivedNumbers (run.step event).2,
    ∀ entry ∈ (run.step event).1.adapter.history.entries, entry.1 ≠ number
  new : ∀ entry ∈ (run.step event).1.adapter.history.entries,
    (∃ other ∈ run.adapter.history.entries, other.1 = entry.1) ∨
      addedBy event ≠ [] ∧ entry.1 = epochKey origin epoch run.added.length

variable {run : PathRun Pacing}

theorem Filed.append {entry : Int × PacketFeedback Pacing} (filed : Filed origin epoch added entry)
    (more : List (AddedPacket Pacing)) : Filed origin epoch (added ++ more) entry := by
  obtain ⟨n, packet, isAdded, place⟩ := filed
  refine ⟨n, packet, ?_, place⟩
  rw [List.getElem?_append_left (List.getElem?_eq_some_iff.mp isAdded).1, isAdded]

theorem Filed.key_lt {entry : Int × PacketFeedback Pacing}
    (filed : Filed origin epoch added entry) : entry.1 < epochKey origin epoch added.length := by
  obtain ⟨n, packet, isAdded, place, -⟩ := filed
  have bound := (List.getElem?_eq_some_iff.mp isAdded).1
  rw [place]
  unfold epochKey
  omega

section AddPacket

variable {packetInfo : RtpPacketSendInfo Pacing} {overheadBytes : Nat} {creationTime : Int}

variable (kept : Kept origin epoch run.added run.adapter)
include kept

/-- The new packet gets the next key. -/
theorem mpSequenceNumber_newPacket
    (number : run.Numbered origin (.addPacket packetInfo overheadBytes creationTime))
    (inEpoch : run.InEpoch origin epoch (.addPacket packetInfo overheadBytes creationTime)) :
    (run.adapter.newPacket packetInfo overheadBytes creationTime).sent.mpSequenceNumber =
      epochKey origin epoch run.added.length := by
  have natural : 0 ≤ TransportFeedbackAdapter.unwrapTransport run.adapter.lastValue
      packetInfo.transportSequenceNumber := by
    refine unwrapWithoutUpdate_nonneg _ fun last isLast => ?_
    rw [← Option.some_inj.mp isLast]
    exact unwrapWithoutUpdate_nonneg _ kept.natural
  unfold Numbered at number
  unfold TransportFeedbackAdapter.newPacket
  dsimp only
  rw [number, ← wrap_epochKey origin epoch, unwrapWithoutUpdate_wrap_iff natural
    (epochKey_nonneg _)]
  exact inEpoch

/-- The expired packets leave, and the new packet is stored. -/
theorem mem_history_addPacket
    (place : (run.adapter.newPacket packetInfo overheadBytes creationTime).sent.mpSequenceNumber =
      epochKey origin epoch run.added.length) (entry : Int × PacketFeedback Pacing) :
    entry ∈ (run.step (.addPacket packetInfo overheadBytes
        creationTime)).1.adapter.history.entries ↔
      entry ∈ (run.adapter.history.dropWhile
        (TransportFeedbackAdapter.expired creationTime)).entries ∨
      entry = (epochKey origin epoch run.added.length,
        run.adapter.newPacket packetInfo overheadBytes creationTime) := by
  have absent : (run.adapter.history.dropWhile (TransportFeedbackAdapter.expired
      creationTime)).find (epochKey origin epoch run.added.length) = none := by
    rw [OrderedMap.find_eq_none_iff]
    exact fun other member =>
      (kept.filed other (OrderedMap.mem_of_mem_dropWhile member)).key_lt.ne
  refine Iff.trans OrderedMap.mem_emplace ?_
  rw [place]
  exact or_congr_right ⟨fun new => new.1, fun new => ⟨new, absent⟩⟩

theorem step_addPacket
    (number : run.Numbered origin (.addPacket packetInfo overheadBytes creationTime))
    (inEpoch : run.InEpoch origin epoch (.addPacket packetInfo overheadBytes creationTime)) :
    run.Matches origin epoch (.addPacket packetInfo overheadBytes creationTime) ∧
      run.Reports origin epoch (.addPacket packetInfo overheadBytes creationTime) := by
  have place := mpSequenceNumber_newPacket kept number inEpoch
  have history := mem_history_addPacket kept place
  have position : (run.step (.addPacket packetInfo overheadBytes
      creationTime)).1.adapter.lastValue = some (epochKey origin epoch run.added.length) :=
    congrArg some place
  have filed : ∀ entry ∈ (run.step (.addPacket packetInfo overheadBytes
      creationTime)).1.adapter.history.entries, Filed origin epoch
        (run.step (.addPacket packetInfo overheadBytes creationTime)).1.added entry := by
    intro entry member
    rcases (history entry).mp member with old | rfl
    · exact (kept.filed entry (OrderedMap.mem_of_mem_dropWhile old)).append _
    · exact ⟨run.added.length, _, List.getElem?_concat_length, rfl, ⟨rfl, rfl, rfl⟩, rfl⟩
  refine ⟨⟨filed, fun _ => ⟨_, (history _).mpr (.inr rfl)⟩, fun _ _ other => (nomatch other),
    fun entry member => ?_⟩, ⟨⟨?_, fun _ => ?_, filed, fun entry member => ?_,
    fun entry member => ?_⟩, .nil, List.forall_mem_nil _, List.forall_mem_nil _,
    fun entry member => ?_⟩⟩
  · by_cases remains : entry ∈ (run.adapter.history.dropWhile
        (TransportFeedbackAdapter.expired creationTime)).entries
    · exact .inl ⟨entry, (history entry).mpr (.inl remains), rfl⟩
    · have old := OrderedMap.of_not_mem_dropWhile member remains
      exact .inr (.inr ⟨_, List.mem_singleton_self _, of_decide_eq_true old⟩)
  · intro last isLast
    rw [position, Option.some_inj] at isLast
    exact isLast ▸ epochKey_nonneg _
  · refine ⟨run.added.length, ?_, position⟩
    have count : (run.step (.addPacket packetInfo overheadBytes creationTime)).1.added.length =
        run.added.length + 1 := List.length_append
    unfold Recent
    omega
  · rcases (history entry).mp member with old | rfl
    · exact kept.numbered entry (OrderedMap.mem_of_mem_dropWhile old)
    · exact place
  · rcases (history entry).mp member with old | rfl
    · exact kept.unreceived entry (OrderedMap.mem_of_mem_dropWhile old)
    · rfl
  · rcases (history entry).mp member with old | rfl
    · exact .inl ⟨entry, OrderedMap.mem_of_mem_dropWhile old, rfl⟩
    · exact .inr ⟨List.cons_ne_nil _ _, rfl⟩

end AddPacket

variable {event : AdapterEvent Pacing}

/-- A call that neither adds nor reports, and leaves every record where it is. -/
theorem handled_of_same_keys (noneAdded : addedBy event = [])
    (kept : Kept origin epoch run.added (run.adapter.step event).1)
    (noneReported : (run.adapter.step event).2 = [])
    (noStatus : ∀ feedback time, event = .processTransportFeedback feedback time →
      feedback.numSeqNo = 0) (keys : (run.adapter.step event).1.history.entries.map Prod.fst =
      run.adapter.history.entries.map Prod.fst) :
    run.Matches origin epoch event ∧ run.Reports origin epoch event := by
  have same : (run.step event).1.added = run.added := by
    rw [step, noneAdded, List.append_nil]
  have empty : receivedNumbers (run.step event).2 = [] := by
    rw [step, noneReported]
    rfl
  rw [← same] at kept
  refine ⟨⟨kept.filed, fun some => absurd noneAdded some, fun feedback time isFeedback some => ?_,
    fun entry member => .inl ?_⟩, ⟨kept, ?_, ?_, ?_, fun entry member => .inl ?_⟩⟩
  · exact absurd (noStatus feedback time isFeedback) some
  · exact List.mem_map.mp (keys ▸ List.mem_map_of_mem member)
  · rw [empty]
    exact .nil
  · rw [empty]
    exact List.forall_mem_nil _
  · rw [empty]
    exact List.forall_mem_nil _
  · exact List.mem_map.mp (keys ▸ List.mem_map_of_mem member)

/-- Sending a packet changes its record in place. -/
theorem Kept.markSent (kept : Kept origin epoch added a) {n : Nat} {sendTime : Int}
    {packet : PacketFeedback Pacing} (recent : Recent added.length n)
    (last : a.lastValue = some (epochKey origin epoch n))
    (found : a.history.find (epochKey origin epoch n) = some packet) :
    Kept origin epoch added (a.markSent (epochKey origin epoch n) sendTime packet).1 := by
  obtain ⟨sent, history, -, data, -, lastValue, -⟩ :=
    a.markSent_spec (epochKey origin epoch n) sendTime packet
  have stored := OrderedMap.find_eq_some_iff.mp found
  -- an entry is an old one, or the changed one
  have entries : ∀ entry ∈
      (a.markSent (epochKey origin epoch n) sendTime packet).1.history.entries, entry ∈ a.history.entries ∨
        entry = (epochKey origin epoch n, { packet with sent := sent }) := by
    intro entry member
    rw [history] at member
    rcases OrderedMap.mem_modify.mp member with ⟨old, -⟩ | ⟨same, value, inside, new⟩
    · exact .inl old
    · have unique : value = packet := congrArg Prod.snd (OrderedMap.eq_of_key_eq inside stored rfl)
      subst unique
      exact .inr (Prod.ext same new)
  refine ⟨fun number isLast => kept.natural number (lastValue ▸ isLast),
    fun _ => ⟨n, recent, lastValue.trans last⟩, fun entry member => ?_, fun entry member => ?_,
    fun entry member => ?_⟩
  · rcases entries entry member with old | rfl
    · exact kept.filed entry old
    · obtain ⟨m, origin', isAdded, place, describes, created⟩ := kept.filed _ stored
      exact ⟨m, origin', isAdded, place, ⟨data.size.trans describes.size,
        data.pacingInfo.trans describes.pacingInfo, data.audio.trans describes.audio⟩, created⟩
  · rcases entries entry member with old | rfl
    · exact kept.numbered entry old
    · exact data.mpSequenceNumber.trans (kept.numbered _ stored)
  · rcases entries entry member with old | rfl
    · exact kept.unreceived entry old
    · exact kept.unreceived (epochKey origin epoch n, packet) stored

theorem step_processSentPacket (kept : Kept origin epoch run.added run.adapter)
    {sentPacket : Rtc.SentPacket} (number : run.Numbered origin (.processSentPacket sentPacket)) :
    run.Matches origin epoch (.processSentPacket sentPacket) ∧
      run.Reports origin epoch (.processSentPacket sentPacket) := by
  suffices handled : Kept origin epoch run.added (run.adapter.processSentPacket sentPacket).1 ∧
      (run.adapter.processSentPacket sentPacket).1.history.entries.map Prod.fst =
        run.adapter.history.entries.map Prod.fst from
    handled_of_same_keys rfl handled.1 rfl (fun _ _ other => nomatch other) handled.2
  unfold TransportFeedbackAdapter.processSentPacket
  dsimp only
  split
  · rename_i tracked
    obtain ⟨n, names⟩ := number tracked
    rw [kept.unwrap names]
    have moved (other) (same : other = { run.adapter with
        lastValue := some (epochKey origin epoch n) }) : Kept origin epoch run.added other :=
      kept.move names.1 (by rw [same]) (by rw [same]; exact fun _ => id)
    split
    · exact ⟨moved _ rfl, rfl⟩
    · rename_i packet found
      obtain ⟨sent, history, -⟩ := TransportFeedbackAdapter.markSent_spec
        { run.adapter with lastValue := some (epochKey origin epoch n) } (epochKey origin epoch n)
        (sentPacket.sendTimeMs * 1000) packet
      refine ⟨(moved _ rfl).markSent names.1 rfl found, ?_⟩
      rw [history]
      exact OrderedMap.keys_modify _
  · split
    · exact ⟨⟨kept.natural, kept.positioned, kept.filed, kept.numbered, kept.unreceived⟩, rfl⟩
    · exact ⟨kept, rfl⟩

/-- The packets that the statuses name. -/
theorem exists_named {count : Nat} {packets : List FeedbackPacket}
    (named : ∀ packet ∈ packets, ∃ n, Names origin count packet.sequenceNumber n) :
    ∃ ns, List.Forall₂ (fun packet n => Names origin count packet.sequenceNumber n) packets ns := by
  induction packets with
  | nil => exact ⟨[], .nil⟩
  | cons packet packets ih =>
      rw [List.forall_mem_cons] at named
      obtain ⟨n, first⟩ := named.1
      obtain ⟨ns, rest⟩ := ih named.2
      exact ⟨n :: ns, .cons first rest⟩

theorem step_processTransportFeedback (kept : Kept origin epoch run.added run.adapter)
    {feedback : TransportFeedback} {time : Int}
    (number : run.Numbered origin (.processTransportFeedback feedback time)) :
    run.Matches origin epoch (.processTransportFeedback feedback time) ∧
      run.Reports origin epoch (.processTransportFeedback feedback time) := by
  by_cases empty : feedback.numSeqNo = 0
  · have same := run.adapter.step_processTransportFeedback feedback time
    rw [if_pos empty] at same
    refine handled_of_same_keys rfl ?_ (by rw [same]) ?_ (by rw [same])
    · rw [same]
      exact kept
    · rintro _ _ ⟨⟩
      exact empty
  · have message := run.adapter.step_processTransportFeedback feedback time
    rw [if_neg empty] at message
    have based : Kept origin epoch run.added (run.adapter.updateOffset feedback time) :=
      ⟨kept.natural, kept.positioned, kept.filed, kept.numbered, kept.unreceived⟩
    have same : (run.step (.processTransportFeedback feedback time)).1.added = run.added :=
      List.append_nil _
    have reached : ((run.step (.processTransportFeedback feedback time)).1.adapter,
        (run.step (.processTransportFeedback feedback time)).2) =
        (run.adapter.updateOffset feedback time).reportPackets 0 feedback.allPackets := message
    obtain ⟨ns, names⟩ := exists_named number
    have applied := based.reportPackets names 0
    rw [← reached] at applied
    refine ⟨⟨?_, fun some => absurd rfl some, ?_, fun entry member => ?_⟩,
      ⟨same ▸ applied.kept, applied.once, applied.stored, applied.gone,
        fun entry member => .inl ⟨entry, applied.fewer entry member, rfl⟩⟩⟩
    · exact same ▸ applied.kept.filed
    · rintro _ _ ⟨⟩ _ others namedOthers
      have applied := based.reportPackets namedOthers 0
      rw [← reached] at applied
      exact applied.results
    · rcases applied.stays entry member with remains | reported
      · exact .inl ⟨entry, remains, rfl⟩
      · exact .inr (.inl reported)

/-- **Step rule.** -/
theorem Kept.step (kept : Kept origin epoch run.added run.adapter)
    (legal : run.Numbered origin event ∧ run.InEpoch origin epoch event) :
    run.Matches origin epoch event ∧ run.Reports origin epoch event := by
  cases event with
  | addPacket packetInfo overheadBytes creationTime => exact step_addPacket kept legal.1 legal.2
  | processSentPacket sentPacket => exact step_processSentPacket kept legal.1
  | processTransportFeedback feedback time => exact step_processTransportFeedback kept legal.1

/-- What a run reports as received is stored at its start or added later, and is
reported once. -/
theorem received_once {events : List (AdapterEvent Pacing)}
    (legal : Along step (fun run event => run.Numbered origin event ∧
      run.InEpoch origin epoch event) run events) (kept : Kept origin epoch run.added run.adapter) :
    (receivedNumbers (outputs step run events)).Nodup ∧
      ∀ number ∈ receivedNumbers (outputs step run events),
        (∃ entry ∈ run.adapter.history.entries, entry.1 = number) ∨
          epochKey origin epoch run.added.length ≤ number := by
  induction events generalizing run with
  | nil => exact ⟨.nil, List.forall_mem_nil _⟩
  | cons event events ih =>
      have reports := (kept.step legal.1).2
      obtain ⟨later, origins⟩ := ih legal.2 reports.kept
      have numbers : receivedNumbers (outputs step run (event :: events)) =
          receivedNumbers (run.step event).2 ++
            receivedNumbers (outputs step (run.step event).1 events) := by
        rw [outputs_cons, receivedNumbers, List.filter_append, List.map_append]
        rfl
      have longer : epochKey origin epoch run.added.length ≤
          epochKey origin epoch (run.step event).1.added.length := by
        have count : (run.step event).1.added.length =
            run.added.length + (addedBy event).length := List.length_append
        unfold epochKey
        omega
      rw [numbers, List.nodup_append]
      refine ⟨⟨reports.once, later, ?_⟩, fun number member => ?_⟩
      · rintro number now _ again rfl
        rcases origins number again with ⟨entry, member, same⟩ | above
        · exact reports.gone number now entry member same
        · obtain ⟨entry, member, same⟩ := reports.known number now
          have below := (kept.filed entry member).key_lt
          omega
      · rcases List.mem_append.mp member with now | again
        · exact .inl (reports.known number now)
        · rcases origins number again with ⟨entry, member, same⟩ | above
          · rcases reports.new entry member with ⟨other, old, equal⟩ | ⟨-, fresh⟩
            · exact .inl ⟨other, old, equal.trans same⟩
            · exact .inr (by omega)
          · exact .inr (longer.trans above)

/-- In a run that stays in one epoch, packets are stored under their number plus a fixed
multiple of 2^16, a status is applied to the packet it names and to no other, and each
packet is reported as received at most once. -/
theorem feedback_matches_packets (origin epoch : Nat) (events : List (AdapterEvent Pacing))
    (numbered : Along step (Numbered origin) {} events)
    (inEpoch : Along step (InEpoch origin epoch) {} events) :
    Along step (Matches origin epoch) {} events ∧
      (receivedNumbers (outputs step {} events)).Nodup := by
  have legal := numbered.and inEpoch
  refine ⟨?_, (received_once legal kept_initial).1⟩
  exact legal.of_invariant (fun run => Kept origin epoch run.added run.adapter)
    (fun _ _ kept legal => (kept.step legal).2.kept)
    (fun _ _ kept legal => (kept.step legal).1) kept_initial

section Runs

/-- A packet is added. -/
def adding (transport mp : UInt16) : AdapterEvent Unit :=
  .addPacket ⟨transport, mp, 100, false, ()⟩ 0 0

/-- The first packet of the path is sent. -/
def firstSent : AdapterEvent Unit := .processSentPacket { packetMpid := 0, sendTimeMs := 1 }

/-- The first packet of the path is reported as received. -/
def firstReceived : AdapterEvent Unit :=
  .processTransportFeedback
    (((TransportFeedback.ofPathid 1).setBase 0 0).addReceivedPacket 0 1000).1 2000

theorem numbered_firstSent {run : PathRun Unit} (second : run.added.length = 2) :
    run.Numbered 0 firstSent := by
  intro _
  refine ⟨0, ⟨?_, ?_⟩, by decide⟩ <;> omega

theorem numbered_firstReceived {run : PathRun Unit} (second : run.added.length = 2) :
    run.Numbered 0 firstReceived := by
  have packets : (((TransportFeedback.ofPathid 1).setBase 0 0).addReceivedPacket 0
      1000).1.allPackets = [⟨0, some 4⟩] := by decide +kernel
  intro packet member
  rw [packets, List.mem_singleton] at member
  refine ⟨0, ⟨?_, ?_⟩, by rw [member]; decide⟩ <;> omega

/-- Between two packets of the path the other path sends 40000. The second packet goes to
another epoch, and a status for the first one is not applied. -/
theorem epoch_lost :
    let events := [adding 0 0, adding 40000 1, firstSent, firstReceived]
    Along step (Numbered 0) {} events ∧
      (∀ epoch, ¬ Along step (Matches 0 epoch) {} events) ∧
      (finalState step ({} : PathRun Unit) events).adapter.history.entries.map Prod.fst =
        [0, 65537] ∧ outputs step ({} : PathRun Unit) events = [] := by
  have keys : (finalState step ({} : PathRun Unit)
      [adding 0 0, adding 40000 1]).adapter.history.entries.map Prod.fst = [0, 65537] := by
    decide +kernel
  refine ⟨⟨rfl, rfl, numbered_firstSent rfl, numbered_firstReceived rfl, trivial⟩,
    fun epoch ⟨_, second, _⟩ => ?_, by decide +kernel, by decide +kernel⟩
  obtain ⟨entry, member, isFirst⟩ := List.mem_map.mp
    (keys ▸ List.mem_cons_self : (0 : Int) ∈ (finalState step ({} : PathRun Unit)
      [adding 0 0, adding 40000 1]).adapter.history.entries.map Prod.fst)
  obtain ⟨other, otherMember, isSecond⟩ := List.mem_map.mp
    (keys ▸ List.mem_cons_of_mem _ List.mem_cons_self : (65537 : Int) ∈
      (finalState step ({} : PathRun Unit)
        [adding 0 0, adding 40000 1]).adapter.history.entries.map Prod.fst)
  obtain ⟨n, -, -, first, -⟩ := second.filed entry member
  have bound := (second.filed other otherMember).key_lt
  rw [isFirst] at first
  rw [isSecond] at bound
  unfold epochKey at first bound
  have count : (step (step ({} : PathRun Unit) (adding 0 0)).1 (adding 40000 1)).1.added.length =
      2 := rfl
  omega

/-- With a few packets in between the status is applied. -/
theorem feedback_matches_packets_near :
    Along step (Matches 0 0) ({} : PathRun Unit)
        [adding 0 0, adding 4000 1, firstSent, firstReceived] ∧
      (receivedNumbers (outputs step ({} : PathRun Unit)
        [adding 0 0, adding 4000 1, firstSent, firstReceived])).Nodup ∧
      receivedNumbers (outputs step ({} : PathRun Unit)
        [adding 0 0, adding 4000 1, firstSent, firstReceived]) = [0] := by
  have matched := feedback_matches_packets 0 0
    [adding 0 0, adding 4000 1, firstSent, firstReceived]
    ⟨rfl, rfl, numbered_firstSent rfl, numbered_firstReceived rfl, trivial⟩
    ⟨by decide, by decide, trivial, trivial, trivial⟩
  exact ⟨matched.1, matched.2, by decide +kernel⟩

end Runs

end PathRun

end MpWebRtc
