import MpWebRtc.Sender.FeedbackAdapter

/-!
# Bytes in flight on a path

The bytes in flight should be those of the packets that are remembered, have been sent,
and have a number on the path that feedback has not yet reached. They are kept as a
running count: a sent packet is added, and what feedback passes or what expires is
removed. Feedback compares the numbers on the path. The other two compare the
transport-wide number with the last acknowledged number on the path, so that the count is
right as long as the two numbers of a packet are on the same side of it.
-/

namespace MpWebRtc

open Math Math.Run Math.Serial

variable {Pacing : Type}

/-- What a packet counts for: its size, once it has been sent. -/
def PacketFeedback.bytes (packet : PacketFeedback Pacing) : Nat :=
  if packet.sent.sendTime.isSome then packet.sent.size else 0

namespace InFlightBytesTracker

variable {tracker : InFlightBytesTracker}

theorem getOutstandingData_remove (packet : PacketFeedback Pacing) :
    (tracker.removeInFlightPacketBytes packet).getOutstandingData =
      tracker.getOutstandingData - packet.bytes := by
  unfold removeInFlightPacketBytes getOutstandingData PacketFeedback.bytes
  obtain ⟨inFlightData⟩ := tracker
  cases packet.sent.sendTime with
  | none => rfl
  | some time =>
      rw [if_neg (by simp), if_pos (by simp)]
      cases inFlightData with
      | none => exact (Nat.zero_sub _).symm
      | some bytes =>
          dsimp only [Option.getD_some]
          split_ifs <;> simp only [Option.getD_none, Option.getD_some] <;> omega

/-- Removing packets one by one removes their sum. -/
theorem getOutstandingData_foldl (counts : Int × PacketFeedback Pacing → Prop)
    [DecidablePred counts] (entries : List (Int × PacketFeedback Pacing))
    (tracker : InFlightBytesTracker) :
    (entries.foldl (fun tracker entry =>
        if counts entry then tracker.removeInFlightPacketBytes entry.2 else tracker)
        tracker).getOutstandingData =
      tracker.getOutstandingData -
        (entries.map fun entry => if counts entry then entry.2.bytes else 0).sum := by
  induction entries generalizing tracker with
  | nil => rfl
  | cons entry entries ih =>
      rw [List.foldl_cons, ih, List.map_cons, List.sum_cons]
      split
      · rw [getOutstandingData_remove, Nat.sub_sub]
      · rw [Nat.zero_add]

end InFlightBytesTracker

namespace TransportFeedbackAdapter

open InFlightBytesTracker

/-- What an entry of the history should count for after feedback up to a number. -/
def unacked (ack : Int) (entry : Int × PacketFeedback Pacing) : Nat :=
  if ack < entry.2.sent.mpSequenceNumber then entry.2.bytes else 0

/-- The sizes of the packets in the history that have been sent and that feedback has not
reached. -/
def unackedData (a : TransportFeedbackAdapter Pacing) : Nat :=
  a.history.total (unacked a.lastAckSeqNum)

/-- The two numbers of a packet are on the same side of the last acknowledged one. -/
def SameSide (a : TransportFeedbackAdapter Pacing) (packet : PacketFeedback Pacing) : Prop :=
  a.lastAckSeqNum < packet.sent.sequenceNumber ↔ a.lastAckSeqNum < packet.sent.mpSequenceNumber

instance (a : TransportFeedbackAdapter Pacing) (packet : PacketFeedback Pacing) :
    Decidable (a.SameSide packet) :=
  inferInstanceAs (Decidable (_ ↔ _))

/-- A call compares the right numbers: for each sent packet that expires, and for a
packet that is sent for the first time. -/
def ComparesRight (a : TransportFeedbackAdapter Pacing) : AdapterEvent Pacing → Prop
  | .addPacket _ _ creationTime =>
      ∀ entry ∈ a.history.entries.takeWhile (expired creationTime),
        entry.2.sent.sendTime.isSome → a.SameSide entry.2
  | .processSentPacket sentPacket =>
      ∀ entry ∈ a.history.entries,
        entry.1 = unwrapWithoutUpdate a.lastValue (wrap sentPacket.packetMpid) →
        entry.2.sent.sendTime = none → a.SameSide entry.2
  | .processTransportFeedback _ _ => True

instance (a : TransportFeedbackAdapter Pacing) (event : AdapterEvent Pacing) :
    Decidable (a.ComparesRight event) :=
  match event with
  | .addPacket _ _ creationTime =>
      inferInstanceAs (Decidable (∀ entry ∈ a.history.entries.takeWhile (expired creationTime),
        entry.2.sent.sendTime.isSome → a.SameSide entry.2))
  | .processSentPacket sentPacket =>
      inferInstanceAs (Decidable (∀ entry ∈ a.history.entries,
        entry.1 = unwrapWithoutUpdate a.lastValue (wrap sentPacket.packetMpid) →
        entry.2.sent.sendTime = none → a.SameSide entry.2))
  | .processTransportFeedback _ _ => .isTrue trivial

/-- The count is right, and packets are under their numbers on the path. -/
structure Accounted (a : TransportFeedbackAdapter Pacing) : Prop where
  keyed : ∀ entry ∈ a.history.entries, entry.2.sent.mpSequenceNumber = entry.1
  counted : a.getOutstandingData = a.unackedData

variable {a : TransportFeedbackAdapter Pacing}

/-- Feedback for a number reaches it. -/
theorem seqNum_le_lastAckSeqNum (a : TransportFeedbackAdapter Pacing) (seqNum : Int) :
    seqNum ≤ (a.acknowledge seqNum).lastAckSeqNum := by
  unfold acknowledge
  split
  · exact Int.le_refl seqNum
  · next reached => exact Int.not_lt.mp reached

theorem accounted_initial : Accounted ({} : TransportFeedbackAdapter Pacing) where
  keyed := List.forall_mem_nil _
  counted := rfl

namespace Accounted

variable (accounted : Accounted a)
include accounted

/-- Only the history, the acknowledged number and the tracker matter. -/
theorem congr {other : TransportFeedbackAdapter Pacing}
    (history : other.history = a.history) (ack : other.lastAckSeqNum = a.lastAckSeqNum)
    (tracker : other.inFlight = a.inFlight) : Accounted other where
  keyed := history ▸ accounted.keyed
  counted := by
    have counted := accounted.counted
    unfold getOutstandingData unackedData at counted ⊢
    rw [history, ack, tracker, counted]

theorem expire {creationTime : Int}
    (right : ∀ entry ∈ a.history.entries.takeWhile (expired creationTime),
      entry.2.sent.sendTime.isSome → a.SameSide entry.2) : Accounted (a.expire creationTime) where
  keyed entry member := accounted.keyed entry (OrderedMap.mem_of_mem_dropWhile member)
  counted := by
    -- each expired packet is removed if and only if it counted
    have same : ((a.history.entries.takeWhile (expired creationTime)).map fun entry =>
          if entry.2.sent.sequenceNumber > a.lastAckSeqNum then entry.2.bytes else 0).sum =
        ((a.history.entries.takeWhile (expired creationTime)).map
          (unacked a.lastAckSeqNum)).sum := by
      refine congrArg List.sum (List.map_congr_left fun entry member => ?_)
      unfold unacked PacketFeedback.bytes
      by_cases sent : entry.2.sent.sendTime.isSome
      · have side := right entry member sent
        exact if_congr side rfl rfl
      · rw [if_neg sent, ite_self, ite_self]
    have counted := accounted.counted
    have parts := a.history.total_dropWhile (unacked a.lastAckSeqNum) (expired creationTime)
    unfold getOutstandingData unackedData at counted ⊢
    unfold TransportFeedbackAdapter.expire
    dsimp only
    rw [getOutstandingData_foldl (fun entry => entry.2.sent.sequenceNumber > a.lastAckSeqNum),
      same, counted]
    omega

theorem addPacket {packetInfo : RtpPacketSendInfo Pacing} {overheadBytes : Nat} {creationTime : Int}
    (right : a.ComparesRight (.addPacket packetInfo overheadBytes creationTime)) :
    Accounted (a.addPacket packetInfo overheadBytes creationTime) := by
  have expired := accounted.expire right
  unfold TransportFeedbackAdapter.addPacket
  dsimp only
  refine ⟨fun entry member => ?_, ?_⟩
  · rcases OrderedMap.mem_emplace.mp member with old | ⟨rfl, -⟩
    · exact expired.keyed entry old
    · rfl
  · have counted := expired.counted
    unfold getOutstandingData unackedData at counted ⊢
    dsimp only
    rw [counted, OrderedMap.total_emplace]
    exact ite_self _

theorem markSent {seqNum sendTime : Int}
    {packet : PacketFeedback Pacing} (found : a.history.find seqNum = some packet)
    (right : packet.sent.sendTime = none → a.SameSide packet) :
    Accounted (a.markSent seqNum sendTime packet).1 := by
  obtain ⟨sent, history, isSent, data, ack, -, outstanding⟩ :=
    markSent_spec a seqNum sendTime packet
  have keyed : packet.sent.mpSequenceNumber = seqNum :=
    accounted.keyed _ (OrderedMap.find_eq_some_iff.mp found)
  refine ⟨fun entry changed => ?_, ?_⟩
  · rw [history] at changed
    rcases OrderedMap.mem_modify.mp changed with ⟨old, -⟩ | ⟨same, value, -, new⟩
    · exact accounted.keyed entry old
    · rw [new, same]
      exact data.mpSequenceNumber.trans keyed
  · -- the packet counts from the first time on
    have sum := OrderedMap.total_modify (unacked a.lastAckSeqNum)
      (fun packet => { packet with sent := sent }) found
    have counted := accounted.counted
    unfold unackedData at counted ⊢
    rw [history, ack, outstanding, counted]
    simp only [unacked, PacketFeedback.bytes, data.mpSequenceNumber, data.size, isSent,
      Option.isSome_some, if_true] at sum ⊢
    cases before : packet.sent.sendTime with
    | none =>
        have side : a.SameSide packet := right before
        simp only [before, Option.isSome_none, Bool.false_eq_true, if_false, ite_self,
          Nat.add_zero] at sum
        rw [sum]
        unfold SameSide at side
        exact congrArg _ (if_congr (by simpa using side) rfl rfl)
    | some time =>
        simp only [before, Option.isSome_some, if_true] at sum
        rw [if_neg (by simp)]
        exact (Nat.add_right_cancel sum).symm

theorem processSentPacket {sentPacket : Rtc.SentPacket}
    (right : a.ComparesRight (.processSentPacket sentPacket)) :
    Accounted (a.processSentPacket sentPacket).1 := by
  unfold TransportFeedbackAdapter.processSentPacket
  dsimp only
  split
  · split
    · exact accounted.congr rfl rfl rfl
    · rename_i packet found
      refine markSent (a := { a with lastValue := some _ }) (accounted.congr rfl rfl rfl) found
        fun fresh => ?_
      exact right (_, packet) (OrderedMap.find_eq_some_iff.mp found) rfl fresh
  · split
    · exact accounted.congr rfl rfl rfl
    · exact accounted

/-- Feedback removes what it passes. -/
theorem acknowledge (seqNum : Int) : Accounted (a.acknowledge seqNum) := by
  unfold TransportFeedbackAdapter.acknowledge
  split
  · rename_i later
    refine ⟨accounted.keyed, ?_⟩
    have counted := accounted.counted
    have parts : a.unackedData = a.history.total (unacked seqNum) +
        (a.history.entries.map fun entry =>
          if a.lastAckSeqNum < entry.1 ∧ entry.1 ≤ seqNum then entry.2.bytes else 0).sum := by
      unfold unackedData OrderedMap.total
      rw [← List.sum_map_add]
      refine congrArg List.sum (List.map_congr_left fun entry member => ?_)
      have key := accounted.keyed entry member
      unfold unacked
      rw [key]
      split_ifs <;> omega
    unfold getOutstandingData at counted ⊢
    unfold unackedData
    dsimp only
    rw [List.foldl_filter]
    simp only [decide_eq_true_eq]
    rw [getOutstandingData_foldl (fun entry => a.lastAckSeqNum < entry.1 ∧ entry.1 ≤ seqNum),
      counted, parts, Nat.add_sub_cancel]
  · exact accounted

/-- A packet that feedback has passed may be forgotten. -/
theorem erase {seqNum : Int} (passed : seqNum ≤ a.lastAckSeqNum) :
    Accounted { a with history := a.history.erase seqNum } := by
  refine ⟨fun entry member => accounted.keyed entry (OrderedMap.mem_erase.mp member).1, ?_⟩
  have counted := accounted.counted
  unfold getOutstandingData unackedData at counted ⊢
  dsimp only
  rw [counted]
  refine (OrderedMap.total_filter fun entry member dropped => ?_).symm
  have key := accounted.keyed entry member
  have same : entry.1 = seqNum := by simpa using dropped
  exact if_neg (by omega)

theorem reportPacket (packetOffset : Int) (packet : FeedbackPacket) :
    Accounted (a.reportPacket packetOffset packet).1 := by
  have moved (number : Int) : Accounted { a with lastValue := some number } :=
    accounted.congr rfl rfl rfl
  have acked := (moved (unwrapWithoutUpdate a.lastValue packet.sequenceNumber)).acknowledge
    (unwrapWithoutUpdate a.lastValue packet.sequenceNumber)
  rcases reportPacket_cases a packetOffset packet with
    ⟨-, same, -⟩ | ⟨entry, -, -, ⟨-, same, -⟩ | ⟨-, erased, -⟩⟩
  · rw [same]
    exact acked
  · rw [same]
    exact acked
  · rw [erased]
    exact acked.erase (seqNum_le_lastAckSeqNum _ _)

end Accounted

theorem Accounted.step (accounted : Accounted a) {event : AdapterEvent Pacing}
    (right : a.ComparesRight event) : Accounted (a.step event).1 := by
  cases event with
  | addPacket packetInfo overheadBytes creationTime => exact accounted.addPacket right
  | processSentPacket sentPacket => exact accounted.processSentPacket right
  | processTransportFeedback feedback feedbackReceiveTime =>
      rw [step_processTransportFeedback]
      split
      · exact accounted
      · exact reportPackets_invariant (fun _ offset packet kept => kept.reportPacket offset packet)
          _ _ (accounted.congr rfl rfl rfl)

/-- In every state of a run whose calls compare the right numbers, the outstanding data is
the size of the packets in the history that have been sent and that feedback has not
reached. -/
theorem getOutstandingData_eq_unackedData (events : List (AdapterEvent Pacing))
    (right : Along step ComparesRight {} events) (earlier later : List (AdapterEvent Pacing))
    (reached : events = earlier ++ later) :
    (finalState step {} earlier).getOutstandingData =
      (finalState step {} earlier).unackedData := by
  rw [reached, along_append] at right
  exact (right.1.invariant Accounted (fun _ _ accounted => accounted.step)
    accounted_initial).counted

/-- A packet of 100 bytes with its two numbers is added and sent. -/
def sendAt (seconds : Int) (transport mp : UInt16) : List (AdapterEvent Unit) :=
  [.addPacket ⟨transport, mp, 80, false, ()⟩ 20 (seconds * 1000000),
    .processSentPacket { packetMpid := mp.toNat, sendTimeMs := seconds * 1000 }]

/-- Feedback for the first two packets of the path: the first was lost. -/
def firstLost : AdapterEvent Unit :=
  .processTransportFeedback
    (((TransportFeedback.ofPathid 1).setBase 0 0).addReceivedPacket 1 64000).1 201000000

/-- The other path has sent five packets. A lost packet expires after feedback went past
it, and is removed from the count a second time. -/
theorem expired_packet_removed_twice :
    let run := sendAt 0 5 0 ++ sendAt 100 6 1 ++ sendAt 200 8 2 ++ [firstLost] ++ sendAt 241 9 3
    let before := finalState step ({} : TransportFeedbackAdapter Unit) (run.take 7)
    let after := finalState step ({} : TransportFeedbackAdapter Unit) (run.take 8)
    before.getOutstandingData = 100 ∧ before.unackedData = 100 ∧
      after.getOutstandingData = 0 ∧ after.unackedData = 100 := by
  decide +kernel

/-- The same run without the other path. -/
theorem getOutstandingData_single_path :
    let run := sendAt 0 0 0 ++ sendAt 100 1 1 ++ sendAt 200 2 2 ++ [firstLost] ++ sendAt 241 3 3
    let reached := finalState step ({} : TransportFeedbackAdapter Unit) run
    reached.getOutstandingData = reached.unackedData ∧ reached.unackedData = 200 :=
  ⟨getOutstandingData_eq_unackedData _ (by decide +kernel) _ [] (List.append_nil _).symm,
    by decide +kernel⟩

end TransportFeedbackAdapter

end MpWebRtc
