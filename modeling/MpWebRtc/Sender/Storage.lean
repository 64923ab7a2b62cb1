import Mathlib.Tactic.IntervalCases
import MpWebRtc.Receiver.Stream
import MpWebRtc.Sender.Discipline

/-!
# A NACK and the packet it names

The receiver NACKs what it reads in the extensions of the packets it gets. The sender
looks the number up in one of its histories. The two meet as long as the egress stores
a packet under what its extensions say. It does not when the second path has closed
while the packet was waiting, nor when a packet of path 2 leaves under redundant
scheduling.
-/

namespace MpWebRtc

open Math.Run

variable (c : Collector)

/-- The history and the number a packet is stored under. -/
def storageKey (p : Packet) : Nat × UInt16 :=
  (storagePath c (egressPacket c p), (egressPacket c p).subflowSeq)

/-- The history and the number by which a NACK asks for a packet: the receiver resolves
the path id in the bytes, and `ReSendPacket` selects the history by it. -/
def nackKey (connection : Nat) (p : Packet) : Nat × UInt16 :=
  (pathOf (resolvePath (p.arrive connection)).headerPath,
    (resolvePath (p.arrive connection)).headerSeqNum)

/-- The bytes name what is stored, over whichever connection they arrive. -/
def NamesStored (p : Packet) : Prop :=
  ∀ connection, connection = 1 ∨ connection = 2 →
    nackKey connection (egressPacket c p) = storageKey c p

/-- Nothing that a NACK depends on is rewritten at the egress: with the second path
closed a packet that takes part in feedback has its RTP sequence number as number, and
a packet of path 2 leaves only while the second path is open and not redundant. -/
def KeepsLabel (p : Packet) : Prop :=
  (p.transportSequenceNumber.isSome → ¬ c.mpIsSecondPathOpen →
      p.subflowSeq = p.sequenceNumber ∨ p.sequenceNumber = 0) ∧
    (p.subflowId = 2 → c.mpIsSecondPathOpen ∧ ¬ c.redScheduling)

instance (c : Collector) (p : Packet) : Decidable (KeepsLabel c p) :=
  inferInstanceAs (Decidable (_ ∧ _))

section Packet

variable {c : Collector} {p : Packet} {connection id : Nat}

/-- The receiver attributes a packet to the path it was numbered on, over whichever
connection it arrives. -/
theorem resolvePath_arrive (path : connection = 1 ∨ connection = 2)
    (pathId : id ≤ 4) (sandy : p.sandy = some id) :
    resolvePath (p.arrive connection) =
      { p.arrive (originOf id) with sandy := some (originOf id) } := by
  have header : (p.arrive connection).headerPath = id := by
    simp [Packet.arrive, ReceivedPacket.headerPath, sandy]
  have arrived : (p.arrive connection).pathid = connection := rfl
  unfold resolvePath
  rw [header, arrived]
  rcases path with rfl | rfl <;> interval_cases id <;>
    simp [ReceivedPacket.assignPath, Packet.arrive, sandy, originOf]

theorem nackKey_of_extensions {seq : UInt16}
    (path : connection = 1 ∨ connection = 2) (pathId : id ≤ 2) (sandy : p.sandy = some id)
    (number : p.mpFlowSeqNum = some seq) : nackKey connection p = (pathOf id, seq) := by
  have same : pathOf (originOf id) = pathOf id := by interval_cases id <;> rfl
  rw [nackKey, resolvePath_arrive path (by omega : id ≤ 4) sandy, ← same]
  simp [ReceivedPacket.headerPath, ReceivedPacket.headerSeqNum, Packet.arrive, number]

/-- The egress keeps the number exactly when it has no reason to replace it. -/
theorem egressNumber_subflowSeq_eq_iff :
    (egressNumber c p).subflowSeq = p.subflowSeq ↔
      (p.transportSequenceNumber.isSome → ¬ c.mpIsSecondPathOpen →
        p.subflowSeq = p.sequenceNumber ∨ p.sequenceNumber = 0) := by
  have positive : p.sequenceNumber > 0 ↔ p.sequenceNumber ≠ 0 := UInt16.pos_iff_ne_zero
  unfold egressNumber
  split
  · rename_i rewritten
    obtain ⟨hasTransport, closed, different, nonzero⟩ := rewritten
    simp [hasTransport, closed, different, different.symm, positive.mp nonzero]
  · rename_i kept
    simp only [true_iff]
    intro hasTransport closed
    by_contra neither
    rw [not_or] at neither
    exact kept ⟨hasTransport, closed, neither.1, positive.mpr neither.2⟩

/-- A labelled packet is stored in the history of its path exactly when path 2 is in
use on its own. -/
theorem storagePath_eq_iff (pathId : p.subflowId ≤ 2) :
    storagePath c (egressPacket c p) = pathOf p.subflowId ↔
      (p.subflowId = 2 → c.mpIsSecondPathOpen ∧ ¬ c.redScheduling) := by
  have ids : p.subflowId = 0 ∨ p.subflowId = 1 ∨ p.subflowId = 2 := by omega
  unfold storagePath pathOf
  rw [egressPacket_subflowId]
  rcases ids with zero | one | two <;> cases isOpen : c.mpIsSecondPathOpen <;>
    cases red : c.redScheduling <;> simp_all

/-- The bytes of a labelled packet name what is stored exactly when its label is kept. -/
theorem namesStored_iff (labelled : Labelled p) : NamesStored c p ↔ KeepsLabel c p := by
  obtain ⟨sandy, number⟩ := egressPacket_extensions c p
  have named : ∀ connection, connection = 1 ∨ connection = 2 →
      nackKey connection (egressPacket c p) = (pathOf p.subflowId, p.subflowSeq) :=
    fun connection path => nackKey_of_extensions path labelled.pathId
      (sandy.trans labelled.sandy) (number.trans labelled.mpFlowSeqNum)
  have same : NamesStored c p ↔
      storagePath c (egressPacket c p) = pathOf p.subflowId ∧
        (egressNumber c p).subflowSeq = p.subflowSeq := by
    constructor
    · intro names
      have first := (named 1 (.inl rfl)).symm.trans (names 1 (.inl rfl))
      rw [storageKey, egressPacket_subflowSeq, Prod.mk.injEq] at first
      exact ⟨first.1.symm, first.2.symm⟩
    · rintro ⟨history, key⟩ connection path
      rw [named connection path, storageKey, egressPacket_subflowSeq, history, key]
  rw [same, storagePath_eq_iff labelled.pathId, egressNumber_subflowSeq_eq_iff, KeepsLabel, and_comm]

end Packet

section Runs

variable {cfg : SenderConfig}

/-- A retransmittable media packet `p` leaves the egress in this event. -/
def SenderEvent.SendsMedia (s : SenderState) (event : SenderEvent) (p : Packet) : Prop :=
  ∃ i, event = .pacerSend i ∧ s.leaving i = some p ∧ p.isMedia ∧ p.allowRetransmission

/-- A media packet that leaves is found under its storage key afterwards. -/
theorem stored_after_send {s : SenderState} {event : SenderEvent} {p : Packet} (ready : Ready s)
    (sends : event.SendsMedia s p) :
    ((senderNext cfg s event).historyOf (storageKey s.collector p).1).getStoredPacket
        (storageKey s.collector p).2 =
      some ⟨some (egressPacket s.collector p), some s.now, false, 0⟩ := by
  obtain ⟨i, rfl, leaves, media, allowed⟩ := sends
  obtain ⟨router, sent⟩ := pacerSend_of_leaving cfg leaves
  change ((pacerSend cfg s i).historyOf _).getStoredPacket _ = _
  rw [sent, egressSend_historyOf_media media allowed, storageKey, pathOf_storagePath]
  simp only [↓reduceIte]
  exact (PacketHistory.putRtpPacket_inserted (ready _).wellFormed (ready _).storing _ _).found

/-- **A NACK names what was stored.** In every run, each media packet that leaves the
egress is stored, and what its bytes name is what it is stored under exactly when its
label is kept. -/
theorem media_stored_as_named_iff (c : Collector) (startTransportSeq : UInt16)
    (numberToStore : Nat) (events : List SenderEvent)
    (admissible : ∀ event ∈ events, event.Admissible cfg) :
    Along (senderStep cfg)
      (fun s event => ∀ p, event.SendsMedia s p →
        ((senderNext cfg s event).historyOf (storageKey s.collector p).1).getStoredPacket
            (storageKey s.collector p).2 =
          some ⟨some (egressPacket s.collector p), some s.now, false, 0⟩ ∧
        (NamesStored s.collector p ↔ KeepsLabel s.collector p))
      (SenderState.initial c startTransportSeq numberToStore) events := by
  refine (along_of_forall_mem _ admissible).of_invariant Sound senderStep_sound ?_
    (initial_sound c startTransportSeq numberToStore)
  intro s event sound _ p sends
  refine ⟨stored_after_send sound.ready sends, ?_⟩
  obtain ⟨i, -, leaves, media, -⟩ := sends
  exact namesStored_iff ((queued_leaving sound.queue leaves).labelled_of_isMedia media)

theorem videoFrame_fresh (first : UInt16) (rest : List UInt16) :
    ∀ p ∈ (videoFrame first rest).packets, Fresh p := by
  intro p member
  obtain ⟨seq, -, rfl⟩ := List.mem_map.mp member
  exact ⟨by simp [videoPacket], by simp [videoPacket], rfl, rfl, rfl, rfl, rfl⟩

/-- A sender of video packets, with or without RTX. -/
def videoSender (rtx : Bool) : SenderConfig where
  ssrc := 1
  rtxSsrc := 2
  rtx := rtx
  rtxPayloadTypeMap := fun payloadType => if payloadType = 96 then some 97 else none
  rtxHeadersSize := fun p => p.headersSize
  maxPacketSize := 1200

/-- A packet is queued while the second path is open, and the collector changes before
it is sent. -/
def waitingRun (c : Collector) : List SenderEvent :=
  [.enqueuePackets (videoFrame 500 []), .collectorChanged c]

/-- The state in which the packet is about to be sent. -/
def waitingState (c : Collector) : SenderState :=
  finalState (senderStep (videoSender false)) (.initial openRoundRobin 0 600) (waitingRun c)

/-- The packet that is about to be sent. -/
def waitingPacket : Packet :=
  { (stampCaptureTime 0 (videoPacket 500)).label 1 10 with
    transportSequenceNumber := some 1
    mpTransportSequenceNumber := some 1 }

/-- If the second path stays open, the packet is stored under what its bytes say. -/
theorem open_path_stores_as_named :
    SenderEvent.SendsMedia (waitingState openRoundRobin) (.pacerSend 0) waitingPacket ∧
      NamesStored openRoundRobin waitingPacket := by
  have sends : SenderEvent.SendsMedia (waitingState openRoundRobin) (.pacerSend 0)
      waitingPacket :=
    ⟨0, rfl, by decide +kernel, rfl, rfl⟩
  have admissible : ∀ event ∈ waitingRun openRoundRobin ++ [.pacerSend 0],
      event.Admissible (videoSender false) := by
    simp only [waitingRun, List.cons_append, List.nil_append, List.forall_mem_cons,
      List.not_mem_nil, false_implies, implies_true, and_true]
    exact ⟨videoFrame_fresh 500 [], trivial, trivial⟩
  have stored := media_stored_as_named_iff openRoundRobin 0 600 _ admissible
  exact ⟨sends, (stored.2.2.1 waitingPacket sends).2.mpr (by decide)⟩

/-- If the second path closes meanwhile, the packet is stored under its RTP sequence
number, and the NACK for what its bytes say finds nothing. -/
theorem closed_path_stores_under_other_number :
    SenderEvent.SendsMedia (waitingState (Collector.initial 0 0)) (.pacerSend 0) waitingPacket ∧
      storageKey (Collector.initial 0 0) waitingPacket = (1, 500) ∧
      nackKey 1 (egressPacket (Collector.initial 0 0) waitingPacket) = (1, 10) ∧
      ¬ NamesStored (Collector.initial 0 0) waitingPacket := by
  refine ⟨⟨0, rfl, by decide +kernel, rfl, rfl⟩, by decide, by decide, ?_⟩
  intro names
  have same := names 1 (.inl rfl)
  revert same
  decide

end Runs

end MpWebRtc
