import MpWebRtc.Sender.Storage

/-!
# Pending retransmissions

A packet that is taken from a history for retransmission is marked as pending there
until the retransmission has left. The egress releases it, in the history that the path
id, the scheduler and the state of the second path select *then*. For packets numbered
on path 1 this is always the history they were taken from. For packets numbered on path
2 it is so only while the second path is open and not redundant.
-/

namespace MpWebRtc

open Math.Run

variable (s : SenderState)

/-- Every pending packet has a retransmission in the queue. -/
def PendingQueued : Prop :=
  ∀ k, k = 1 ∨ k = 2 → ∀ n, (s.historyOf k).Pends n → ∃ q ∈ s.queue, RetransmissionOf k n q

/-- A retransmission of packet `n` of path `k` leaves the egress in this event. -/
def SenderEvent.SendsRetransmission (event : SenderEvent) (k : Nat) (n : UInt16) : Prop :=
  ∃ i q, event = .pacerSend i ∧ s.leaving i = some q ∧ RetransmissionOf k n q

/-- The condition under which a retransmission is released: one numbered on path 2
leaves only while the second path is open and not redundant, and the history spans at
most half of the number space, so that every packet in it can be found. -/
def SenderEvent.ReleasesOrigin (event : SenderEvent) : Prop :=
  ∀ k n, event.SendsRetransmission s k n →
    (k = 2 → s.collector.mpIsSecondPathOpen ∧ ¬ s.collector.redScheduling) ∧
      (s.historyOf k).packets.length ≤ 32768

/-- Packet `n` of path `k` has been released: if it is still stored it is no longer
pending and counts one retransmission more, and the other history is as before. -/
structure Released (s s' : SenderState) (k : Nat) (n : UInt16) : Prop where
  entry : ∀ stored, (s.historyOf k).getStoredPacket n = some stored →
    ∃ after, (s'.historyOf k).getStoredPacket n = some after ∧
      after.pendingTransmission = false ∧
      after.timesRetransmitted = stored.timesRetransmitted + 1
  other : ∀ j, j = 1 ∨ j = 2 → j ≠ k → s'.historyOf j = s.historyOf j

section Step

variable {cfg : SenderConfig} {s : SenderState} {i k : Nat} {n : UInt16} {q : Packet}

theorem pathOf_of_path (path : k = 1 ∨ k = 2) : pathOf k = k := by
  rcases path with rfl | rfl <;> rfl

theorem RetransmissionOf.path (of : RetransmissionOf k n q) : k = 1 ∨ k = 2 := by
  rw [← of.origin]
  unfold originOf
  split <;> simp

theorem RetransmissionOf.notStored (of : RetransmissionOf k n q) :
    (q.isMedia && q.allowRetransmission) = false := by
  simp [Packet.isMedia, of.packetType]

/-- A retransmission is released in the history it was taken from. -/
theorem RetransmissionOf.releasePath_eq (of : RetransmissionOf k n q) {c : Collector}
    (condition : k = 2 → c.mpIsSecondPathOpen ∧ ¬ c.redScheduling) :
    releasePath c (egressPacket c q) = k := by
  have origin := of.origin
  have least := of.pathId.1
  have most := of.pathId.2
  unfold releasePath
  rw [egressPacket_subflowId]
  unfold originOf at origin
  split at origin
  · rename_i second
    obtain ⟨isOpen, notRed⟩ := condition origin.symm
    rw [← origin, if_neg]
    simp only [isOpen, ↓reduceIte, not_or]
    exact ⟨notRed, by omega, by omega⟩
  · rename_i first
    have ids : q.subflowId = 1 ∨ q.subflowId = 3 := by omega
    rw [← origin, if_pos]
    rcases ids with one | three
    · simp [one]
    · by_cases isOpen : c.mpIsSecondPathOpen <;> simp [isOpen, three]

theorem pacerSend_historyOf_retransmission (cfg : SenderConfig) (leaves : s.leaving i = some q)
    (of : RetransmissionOf k n q)
    (condition : k = 2 → s.collector.mpIsSecondPathOpen ∧ ¬ s.collector.redScheduling) (j : Nat) :
    (pacerSend cfg s i).historyOf j =
      if k = pathOf j then (s.historyOf j).markPacketAsSent s.now n else s.historyOf j := by
  obtain ⟨router, sends⟩ := pacerSend_of_leaving cfg leaves
  rw [sends, egressSend_historyOf_retransmission of.notStored of.number,
    of.releasePath_eq condition]
  rfl

/-- A retransmission that leaves under the condition releases its packet. -/
theorem released_of_releasesOrigin (ready : Ready s) (leaves : s.leaving i = some q)
    (of : RetransmissionOf k n q)
    (condition : k = 2 → s.collector.mpIsSecondPathOpen ∧ ¬ s.collector.redScheduling) :
    Released s (pacerSend cfg s i) k n := by
  have histories := pacerSend_historyOf_retransmission cfg leaves of condition
  constructor
  · intro stored found
    refine ⟨PacketHistory.markSent s.now stored, ?_, rfl, rfl⟩
    rw [histories, if_pos (pathOf_of_path of.path).symm, PacketHistory.markPacketAsSent,
      if_pos (ready k).storing]
    exact PacketHistory.getStoredPacket_updateStored (fun _ => rfl) found
  · intro j path other
    rw [histories, if_neg]
    rw [pathOf_of_path path]
    exact other.symm

/-- What leaves is a queued packet with its transport numbers written. -/
theorem retransmissionOf_leaving {p : Packet} (present : s.queue[i]? = some p)
    (leaves : s.leaving i = some q) : RetransmissionOf k n q ↔ RetransmissionOf k n p := by
  have same : (s.router.sendPacket s.collector p).2 = q := by
    simpa [SenderState.leaving, present] using leaves
  obtain ⟨transport, mpTransport, equation, -⟩ := s.router.sendPacket_packet s.collector p
  rw [← same, equation]
  exact ⟨fun of => ⟨of.packetType, of.number, of.subflowSeq, of.pathId, of.origin⟩,
    fun of => ⟨of.packetType, of.number, of.subflowSeq, of.pathId, of.origin⟩⟩

/-- Sending a packet under the condition keeps pending packets queued. -/
theorem pacerSend_pendingQueued (sound : Sound s) (pending : PendingQueued s)
    (condition : SenderEvent.ReleasesOrigin s (.pacerSend i)) :
    PendingQueued (pacerSend cfg s i) := by
  cases leaves : s.leaving i with
  | none => rwa [pacerSend_of_not_leaving leaves]
  | some q =>
      obtain ⟨p, present, -⟩ := Option.map_eq_some_iff.mp leaves
      intro j path m pends
      obtain ⟨copy, inQueue, of⟩ := pending j path m ((pacerSend_calm cfg sound i j).pends m pends)
      obtain ⟨position, atPosition⟩ := List.mem_iff_getElem?.mp inQueue
      rw [pacerSend_queue leaves]
      by_cases gone : position = i
      · -- The last copy has left, so its packet has just been released.
        subst gone
        obtain rfl := Option.some.inj (present.symm.trans atPosition)
        have ofLeaving := (retransmissionOf_leaving present leaves).mpr of
        obtain ⟨isOpen, short⟩ := condition j m ⟨position, q, rfl, leaves, ofLeaving⟩
        rw [pacerSend_historyOf_retransmission cfg leaves ofLeaving isOpen,
          if_pos (pathOf_of_path path).symm] at pends
        exact absurd pends (PacketHistory.not_pends_of_markPacketAsSent (sound.ready j).wellFormed
          (sound.ready j).storing short s.now)
      · exact ⟨copy, List.mem_eraseIdx_iff_getElem?.mpr ⟨position, gone, atPosition⟩, of⟩

end Step

section Runs

variable {cfg : SenderConfig}

theorem senderStep_pendingQueued (s : SenderState) (event : SenderEvent)
    (invariant : Sound s ∧ PendingQueued s)
    (legal : event.Admissible cfg ∧ event.ReleasesOrigin s) :
    Sound (senderStep cfg s event).1 ∧ PendingQueued (senderStep cfg s event).1 := by
  obtain ⟨sound, pending⟩ := invariant
  refine ⟨senderStep_sound s event sound legal.1, ?_⟩
  by_cases isSent : ∃ i, event = .pacerSend i
  · obtain ⟨i, rfl⟩ := isSent
    exact pacerSend_pendingQueued sound pending legal.2
  · have moves := senderNext_moves sound.ready legal.1 (not_exists.mp isSent)
    obtain ⟨added, grows, -⟩ := moves.queue
    intro k path n pends
    rcases moves.pends k path n pends with before | inQueue
    · obtain ⟨q, member, of⟩ := pending k path n before
      exact ⟨q, grows ▸ List.mem_append_left _ member, of⟩
    · exact inQueue

variable (c : Collector) (startTransportSeq : UInt16) (numberToStore : Nat)

theorem initial_pendingQueued :
    PendingQueued (SenderState.initial c startTransportSeq numberToStore) := by
  rintro k path n ⟨stored, member, -⟩
  unfold SenderState.historyOf at member
  split at member <;> simp [SenderState.initial] at member

/-- **Pending retransmissions are released.** In every run in which retransmissions
numbered on path 2 leave only while the second path is open and not redundant, from
histories that span at most half of the number space, each retransmission that leaves
releases its packet, and at every point all pending packets have a retransmission in the
queue. -/
theorem retransmissions_release_pending (events : List SenderEvent)
    (admissible : ∀ event ∈ events, event.Admissible cfg)
    (releases : Along (senderStep cfg) (fun s event => event.ReleasesOrigin s)
      (SenderState.initial c startTransportSeq numberToStore) events) :
    Along (senderStep cfg)
        (fun s event => ∀ k n, event.SendsRetransmission s k n →
          Released s (senderNext cfg s event) k n)
        (SenderState.initial c startTransportSeq numberToStore) events ∧
      ∀ earlier later, events = earlier ++ later →
        PendingQueued (finalState (senderStep cfg)
          (SenderState.initial c startTransportSeq numberToStore) earlier) := by
  have start := initial_sound c startTransportSeq numberToStore
  have startPending := initial_pendingQueued c startTransportSeq numberToStore
  have legal := (along_of_forall_mem (SenderState.initial c startTransportSeq numberToStore)
    admissible).and releases
  constructor
  · refine legal.of_invariant _ senderStep_pendingQueued ?_ ⟨start, startPending⟩
    rintro s event ⟨sound, -⟩ ⟨-, condition⟩ k n ⟨i, q, rfl, leaves, of⟩
    exact released_of_releasesOrigin sound.ready leaves of (condition k n ⟨i, q, rfl, leaves, of⟩).1
  · rintro earlier later rfl
    rw [along_append] at legal
    exact (legal.1.invariant _ senderStep_pendingQueued ⟨start, startPending⟩).2

/-- A packet of path 2 is sent and NACKed, and the collector changes before its
retransmission is sent. -/
def nackedRun : List SenderEvent :=
  [.enqueuePackets (videoFrame 500 [501]), .pacerSend 0, .pacerSend 0, .timePasses 100,
    .onReceivedNack [(10, true)] 50 2, .collectorChanged c]

/-- The state in which the retransmission is about to be sent. -/
def nackedState : SenderState :=
  finalState (senderStep (videoSender false)) (.initial openRoundRobin 0 600) (nackedRun c)

variable (mpTransportSequenceNumber : UInt16)

/-- The retransmission that is about to be sent. -/
def nackedPacket : Packet :=
  { (stampCaptureTime 0 (videoPacket 501)).label 2 10 with
    packetType := some .kRetransmission
    retransmittedSequenceNumber := some 10
    transportSequenceNumber := some 3
    mpTransportSequenceNumber := some mpTransportSequenceNumber }

theorem nackedPacket_retransmissionOf :
    RetransmissionOf 2 10 (nackedPacket mpTransportSequenceNumber) :=
  ⟨rfl, rfl, rfl, ⟨(by decide : 1 ≤ 2), (by decide : 2 ≤ 4)⟩, rfl⟩

/-- With the second path open and not redundant throughout, all releases are right. -/
theorem releasesOrigin_of_open {s : SenderState} {event : SenderEvent}
    (isOpen : s.collector.mpIsSecondPathOpen ∧ ¬ s.collector.redScheduling)
    (short : s.historyP.packets.length ≤ 32768 ∧ s.historyS.packets.length ≤ 32768) :
    event.ReleasesOrigin s := by
  refine fun k n _ => ⟨fun _ => isOpen, ?_⟩
  unfold SenderState.historyOf
  split
  · exact short.1
  · exact short.2

/-- If the second path stays open, the retransmission releases its packet. -/
theorem open_path_releases_pending :
    SenderEvent.SendsRetransmission (nackedState openRoundRobin) (.pacerSend 0) 2 10 ∧
      Released (nackedState openRoundRobin)
        (senderNext (videoSender false) (nackedState openRoundRobin) (.pacerSend 0)) 2 10 := by
  have sends : SenderEvent.SendsRetransmission (nackedState openRoundRobin) (.pacerSend 0) 2 10 :=
    ⟨0, nackedPacket 2, rfl, by decide +kernel, nackedPacket_retransmissionOf 2⟩
  have admissible : ∀ event ∈ nackedRun openRoundRobin ++ [.pacerSend 0],
      event.Admissible (videoSender false) := by
    simp only [nackedRun, List.cons_append, List.nil_append, List.forall_mem_cons,
      List.not_mem_nil, false_implies, implies_true, and_true]
    exact ⟨videoFrame_fresh 500 [501], trivial, trivial, trivial, trivial, trivial, trivial⟩
  have isOpen : Along (senderStep (videoSender false))
      (fun s _ => (s.collector.mpIsSecondPathOpen ∧ ¬ s.collector.redScheduling) ∧
        s.historyP.packets.length ≤ 32768 ∧ s.historyS.packets.length ≤ 32768)
      (.initial openRoundRobin 0 600) (nackedRun openRoundRobin ++ [.pacerSend 0]) := by
    decide +kernel
  have released := (retransmissions_release_pending openRoundRobin 0 600 _ admissible
    (isOpen.mono fun _ _ both => releasesOrigin_of_open both.1 both.2)).1
  rw [along_append] at released
  exact ⟨sends, released.2.1 2 10 sends⟩

/-- If the second path closes meanwhile, the packet of path 2 stays pending with nothing
in the queue. -/
theorem closed_path_leaves_packet_pending :
    SenderEvent.SendsRetransmission (nackedState (Collector.initial 0 0)) (.pacerSend 0) 2 10 ∧
      ¬ Released (nackedState (Collector.initial 0 0))
        (senderNext (videoSender false) (nackedState (Collector.initial 0 0)) (.pacerSend 0)) 2 10 ∧
      ¬ PendingQueued
        (senderNext (videoSender false) (nackedState (Collector.initial 0 0)) (.pacerSend 0)) := by
  have untouched : ((senderNext (videoSender false) (nackedState (Collector.initial 0 0))
      (.pacerSend 0)).historyOf 2).getStoredPacket 10 =
      ((nackedState (Collector.initial 0 0)).historyOf 2).getStoredPacket 10 := by decide +kernel
  have pends : ((senderNext (videoSender false) (nackedState (Collector.initial 0 0))
      (.pacerSend 0)).historyOf 2).Pends 10 := by
    unfold PacketHistory.Pends
    decide +kernel
  have empty : (senderNext (videoSender false) (nackedState (Collector.initial 0 0))
      (.pacerSend 0)).queue = [] := by decide +kernel
  refine ⟨⟨0, nackedPacket 3, rfl, by decide +kernel, nackedPacket_retransmissionOf 3⟩, ?_, ?_⟩
  · intro release
    obtain ⟨stored, found⟩ : ∃ stored, ((nackedState (Collector.initial 0 0)).historyOf
        2).getStoredPacket 10 = some stored := Option.isSome_iff_exists.mp (by decide +kernel)
    obtain ⟨after, same, -, counted⟩ := release.entry stored found
    obtain rfl := Option.some.inj (found.symm.trans (untouched.symm.trans same))
    omega
  · intro queued
    obtain ⟨q, member, -⟩ := queued 2 (.inr rfl) 10 pends
    rw [empty] at member
    exact List.not_mem_nil member

end Runs

end MpWebRtc
