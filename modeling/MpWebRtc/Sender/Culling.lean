import MpWebRtc.Sender.Pending

/-!
# Acknowledged packets

Feedback on a path reports transport numbers. The demuxer turns them into the packet
numbers that the egress recorded, and those packets are removed from the history of the
path. The record says on which path a packet *travelled*; the history is the one of the
path it was *numbered* on. The right packet is removed as long as the two agree for
everything that is recorded.
-/

namespace MpWebRtc

open Math.Run

/-- The record of a packet agrees with the history and the number it is known under: it
is no padding, it travels on the path it is numbered on, path 2 is not merged into path
1, and a retransmission is not renumbered. -/
structure RecordedAsKnown (c : Collector) (p : Packet) : Prop where
  notPadding : p.packetType ≠ some .kPadding
  samePath : p.subflowId ≠ 3 ∧ p.subflowId ≠ 4
  second : p.subflowId = 2 → ¬ c.redScheduling ∧
    (c.mpIsSecondPathOpen ∨ p.packetType = some .kRetransmission)
  sameNumber : p.packetType = some .kRetransmission →
    c.mpIsSecondPathOpen ∨ p.subflowSeq = p.sequenceNumber ∨ p.sequenceNumber = 0

/-- What is recorded in this event is recorded under its identity. -/
def SenderEvent.RecordsAsKnown (s : SenderState) (event : SenderEvent) : Prop :=
  ∀ i q, event = .pacerSend i → s.leaving i = some q → q.transportSequenceNumber.isSome →
    RecordedAsKnown s.collector q

/-- The record says what the packet is known under. -/
def Transmission.Truthful (t : Transmission) : Prop :=
  ∀ r ∈ t.records, t.identity = some (pathOf r.pathid, r.mpRtpSequenceNumber)

/-- The feedback acknowledges a transmission of packet `n` of path `k`. -/
def Acknowledges (s : SenderState) (packets : List (UInt16 × Bool)) (pathid k : Nat)
    (n : UInt16) : Prop :=
  ∃ t ∈ s.sent, t.identity = some (k, n) ∧
    ∃ r ∈ t.records, pathOf r.pathid = pathOf pathid ∧
      (r.mpTransportSequenceNumber, true) ∈ packets

section Records

variable {cfg : SenderConfig} {c : Collector} {p : Packet}

theorem mem_feedbackRecords {r : PacketSendInfo} (member : r ∈ feedbackRecords cfg c p) :
    p.transportSequenceNumber.isSome ∧ r.mpRtpSequenceNumber = p.subflowSeq ∧
      (r.pathid = feedbackPath p ∨ (r.pathid = 1 ∧ c.redScheduling)) := by
  unfold feedbackRecords at member
  split at member
  · rename_i transport mpTransport hasTransport hasMpTransport
    refine ⟨by simp [hasTransport], ?_⟩
    rcases List.mem_append.mp member with redundant | ordinary
    · split at redundant
      · rename_i red
        rw [List.mem_singleton.mp redundant]
        exact ⟨rfl, .inr ⟨rfl, red⟩⟩
      · simp at redundant
    · rw [List.mem_singleton.mp ordinary]
      exact ⟨rfl, .inl rfl⟩
  · simp at member

theorem egressNumber_transportSequenceNumber (c : Collector) (p : Packet) :
    (egressNumber c p).transportSequenceNumber = p.transportSequenceNumber := by
  unfold egressNumber
  split <;> rfl

/-- A retransmission that travels on its own path is recorded as what it is. -/
theorem recorded_retransmission {k : Nat} {n : UInt16} (of : RetransmissionOf k n p)
    (condition : RecordedAsKnown c p) :
    ∀ r ∈ feedbackRecords cfg c (egressNumber c p),
      packetIdentity c p = some (pathOf r.pathid, r.mpRtpSequenceNumber) := by
  intro r member
  obtain ⟨-, number, path⟩ := mem_feedbackRecords member
  have kept : (egressNumber c p).subflowSeq = p.subflowSeq := by
    rw [egressNumber_subflowSeq_eq_iff]
    intro _ closed
    exact (condition.sameNumber of.packetType).resolve_left closed
  have ids : p.subflowId = 1 ∨ p.subflowId = 2 := by
    have bounds := of.pathId
    have others := condition.samePath
    omega
  have identity : packetIdentity c p = some (originOf p.subflowId, n) := by
    simp [packetIdentity, of.packetType, of.number]
  have travelled : pathOf r.pathid = originOf p.subflowId := by
    rcases ids with one | two
    · rcases path with own | ⟨first, -⟩
      · rw [own, feedbackPath, egressNumber_subflowId, one]
        rfl
      · rw [first, one]
        rfl
    · have notRed := (condition.second two).1
      rcases path with own | ⟨-, red⟩
      · rw [own, feedbackPath, egressNumber_subflowId, two]
        rfl
      · exact absurd red notRed
  rw [identity, travelled, number, kept, of.subflowSeq]

/-- A labelled packet is recorded for the history it is stored in. -/
theorem recorded_labelled (labelled : Labelled p) (condition : RecordedAsKnown c p) :
    ∀ r ∈ feedbackRecords cfg c (egressNumber c p),
      packetIdentity c p = some (pathOf r.pathid, r.mpRtpSequenceNumber) := by
  intro r member
  obtain ⟨-, number, path⟩ := mem_feedbackRecords member
  have identity : packetIdentity c p =
      some (storagePath c (egressPacket c p), (egressNumber c p).subflowSeq) := by
    rw [← egressPacket_subflowSeq]
    have notPadding := labelled.notPadding
    have notRetransmission := labelled.notRetransmission
    unfold packetIdentity
    split <;> simp_all
  have stored : storagePath c (egressPacket c p) = pathOf p.subflowId := by
    rw [storagePath_eq_iff labelled.pathId]
    intro two
    obtain ⟨notRed, isOpen | isRetransmission⟩ := condition.second two
    · exact ⟨isOpen, notRed⟩
    · exact absurd isRetransmission labelled.notRetransmission
  have travelled : pathOf r.pathid = pathOf p.subflowId := by
    have ids : p.subflowId = 0 ∨ p.subflowId = 1 ∨ p.subflowId = 2 := by
      have bound := labelled.pathId
      omega
    rcases path with own | ⟨first, red⟩
    · rw [own, feedbackPath, egressNumber_subflowId]
      rcases ids with zero | one | two <;> simp [*, pathOf]
    · have notSecond : p.subflowId ≠ 2 := fun two => (condition.second two).1 red
      rw [first]
      simp [pathOf, notSecond]
  rw [identity, stored, travelled, number]

/-- What leaves under the condition is recorded as what it is. -/
theorem recorded_as_known (cfg : SenderConfig) (queued : Queued p)
    (condition : p.transportSequenceNumber.isSome → RecordedAsKnown c p) :
    ∀ r ∈ feedbackRecords cfg c (egressNumber c p),
      packetIdentity c p = some (pathOf r.pathid, r.mpRtpSequenceNumber) := by
  intro r member
  have recorded := (mem_feedbackRecords member).1
  rw [egressNumber_transportSequenceNumber] at recorded
  cases queued with
  | labelled labelled => exact recorded_labelled labelled (condition recorded) r member
  | retransmission k path n of => exact recorded_retransmission of (condition recorded) r member
  | padding padding => exact absurd padding.packetType (condition recorded).notPadding

end Records

section Invariant

variable {cfg : SenderConfig} {s : SenderState}

/-- Everything the demuxer remembers of our stream was recorded by a transmission. -/
def Remembered (cfg : SenderConfig) (s : SenderState) : Prop :=
  ∀ k, ∀ entry ∈ s.demuxer.historyOf k, entry.2.ssrc = cfg.ssrc →
    ∃ t ∈ s.sent, ∃ r ∈ t.records, (r.pathid = 2 ↔ k = 2) ∧
      entry.1 % 65536 = r.mpTransportSequenceNumber.toNat ∧
      entry.2.mpRtpSequenceNumber = r.mpRtpSequenceNumber

/-- What holds of the sending side when everything is recorded as what it is. -/
structure Accountable (cfg : SenderConfig) (s : SenderState) : Prop where
  sound : Sound s
  truthful : ∀ t ∈ s.sent, t.Truthful
  remembered : Remembered cfg s

theorem mem_of_mem_addPackets {records : List PacketSendInfo} {d : FeedbackDemuxer} {k : Nat}
    {entry : Int × StreamPacketInfo}
    (member : entry ∈ (records.foldl FeedbackDemuxer.addPacket d).historyOf k) :
    entry ∈ d.historyOf k ∨ ∃ r ∈ records, (r.pathid = 2 ↔ k = 2) ∧
      entry.1 % 65536 = r.mpTransportSequenceNumber.toNat ∧
      entry.2.mpRtpSequenceNumber = r.mpRtpSequenceNumber := by
  induction records generalizing d with
  | nil => exact .inl member
  | cons record records ih =>
      rcases ih member with earlier | ⟨r, inRecords, added⟩
      · rcases FeedbackDemuxer.mem_of_mem_addPacket earlier with kept | ⟨path, key, same⟩
        · exact .inl kept
        · exact .inr ⟨record, List.mem_cons_self .., path, key, by rw [same]; rfl⟩
      · exact .inr ⟨r, List.mem_cons_of_mem _ inRecords, added⟩

/-- Sending a packet under the condition keeps the accounts. -/
theorem pacerSend_accountable {i : Nat} (accountable : Accountable cfg s)
    (condition : SenderEvent.RecordsAsKnown s (.pacerSend i)) :
    (∀ t ∈ (pacerSend cfg s i).sent, t.Truthful) ∧ Remembered cfg (pacerSend cfg s i) := by
  cases leaves : s.leaving i with
  | none =>
      rw [pacerSend_of_not_leaving leaves]
      exact ⟨accountable.truthful, accountable.remembered⟩
  | some q =>
      obtain ⟨router, sends⟩ := pacerSend_of_leaving cfg leaves
      have queued := queued_leaving accountable.sound.queue leaves
      have truthful := recorded_as_known cfg queued (condition i q rfl leaves)
      have sent : (pacerSend cfg s i).sent = s.sent ++ [⟨egressPacket s.collector q,
          feedbackRecords cfg s.collector (egressNumber s.collector q),
          packetIdentity s.collector q⟩] := by
        rw [sends]
        exact (egressStore_frame _ _).2.2
      have demuxer : (pacerSend cfg s i).demuxer =
          (feedbackRecords cfg s.collector (egressNumber s.collector q)).foldl
            FeedbackDemuxer.addPacket s.demuxer := by
        rw [sends]
        exact (egressStore_frame _ _).2.1
      constructor
      · rw [sent]
        exact List.forall_mem_append.mpr
          ⟨accountable.truthful, List.forall_mem_singleton.mpr truthful⟩
      · intro k entry member ours
        rw [demuxer] at member
        rw [sent]
        rcases mem_of_mem_addPackets member with kept | ⟨r, recorded, matched⟩
        · obtain ⟨t, earlier, record⟩ := accountable.remembered k entry kept ours
          exact ⟨t, List.mem_append_left _ earlier, record⟩
        · exact ⟨_, List.mem_append_right _ (List.mem_singleton_self _), r, recorded, matched⟩

theorem senderStep_accountable (s : SenderState) (event : SenderEvent)
    (accountable : Accountable cfg s) (legal : event.Admissible cfg ∧ event.RecordsAsKnown s) :
    Accountable cfg (senderStep cfg s event).1 := by
  have sound := senderStep_sound s event accountable.sound legal.1
  by_cases isSent : ∃ i, event = .pacerSend i
  · obtain ⟨i, rfl⟩ := isSent
    obtain ⟨truthful, remembered⟩ := pacerSend_accountable accountable legal.2
    exact ⟨sound, truthful, remembered⟩
  · have moves := senderNext_moves accountable.sound.ready legal.1 (not_exists.mp isSent)
    have sent : (senderStep cfg s event).1.sent = s.sent := moves.sent
    refine ⟨sound, sent ▸ accountable.truthful, ?_⟩
    intro k entry member ours
    rcases moves.recorded k entry member with kept | foreign
    · obtain ⟨t, earlier, record⟩ := accountable.remembered k entry kept ours
      exact ⟨t, sent ▸ earlier, record⟩
    · exact absurd ours foreign

theorem initial_accountable (c : Collector) (startTransportSeq : UInt16) (numberToStore : Nat) :
    Accountable cfg (SenderState.initial c startTransportSeq numberToStore) := by
  refine ⟨initial_sound c startTransportSeq numberToStore, by simp [SenderState.initial], ?_⟩
  intro k entry member
  simp [SenderState.initial, FeedbackDemuxer.historyOf] at member

end Invariant

section Removal

variable {cfg : SenderConfig} {s : SenderState} {k pathid : Nat} {n : UInt16}

/-- Asking for a packet removes none. -/
theorem reSendPacket_stores (stores : (s.historyOf k).Stores n) (packetId : UInt16)
    (admitted : Bool) : ((reSendPacket cfg s packetId pathid admitted).1.historyOf k).Stores n := by
  rcases reSendPacket_cases cfg s packetId pathid admitted with
    ⟨-, histories⟩ | ⟨p, -, histories, -⟩
  · rwa [histories]
  · rw [histories]
    split
    · rename_i same
      rw [← historyOf_pathOf s k, ← same, historyOf_pathOf] at stores
      exact stores.updateStored packetId fun _ => rfl
    · exact stores

variable {admits : UInt16 → Bool} {infos : List StreamPacketInfo}

theorem resendEarlyLosses_stores (stores : (s.historyOf k).Stores n) :
    ((resendEarlyLosses cfg s infos pathid admits).historyOf k).Stores n := by
  unfold resendEarlyLosses
  split
  · generalize earlyLosses infos = numbers
    induction numbers generalizing s with
    | nil => exact stores
    | cons number numbers ih => exact ih (reSendPacket_stores stores number (admits number))
  · exact stores

/-- Feedback removes a packet only if its number was acknowledged on its path. -/
theorem onPacketFeedbackVector_stores (ready : Ready s) (stores : (s.historyOf k).Stores n)
    (kept : pathOf pathid = pathOf k → n ∉ ackedPackets cfg.ssrc infos) :
    ((onPacketFeedbackVector cfg s infos pathid admits).historyOf k).Stores n := by
  have moves : Moves cfg s (resendEarlyLosses cfg s infos pathid admits) :=
    resendEarlyLosses_moves infos pathid admits ready
  have resent : ((resendEarlyLosses cfg s infos pathid admits).historyOf k).Stores n :=
    resendEarlyLosses_stores stores
  unfold onPacketFeedbackVector
  dsimp only
  rw [historyOf_update _ _ _ fun h => h.cullAcknowledgedPackets (ackedPackets cfg.ssrc infos)]
  split
  · next same => exact resent.cullAcknowledgedPackets (moves.ready k).wellFormed (kept same)
  · exact resent

variable {packets : List (UInt16 × Bool)}

/-- What is reported as received was remembered under a number of the feedback. -/
theorem mem_of_mem_reported {d : FeedbackDemuxer} :
    ∀ info ∈ outputs (FeedbackDemuxer.reportPacket pathid) d packets, info.received →
      ∃ number, (number, true) ∈ packets ∧ ∃ entry ∈ d.historyOf pathid,
        entry.1 % 65536 = number.toNat ∧ entry.2.ssrc = info.ssrc ∧
          entry.2.mpRtpSequenceNumber = info.mpRtpSequenceNumber := by
  have reports : Along (FeedbackDemuxer.reportPacket pathid) (fun _ packet => packet ∈ packets)
      d packets := along_of_forall_mem d fun _ => id
  refine reports.forall_outputs
    (fun current => ∀ entry ∈ current.historyOf pathid, entry ∈ d.historyOf pathid) ?_ ?_
    fun _ => id
  · intro current packet remembered _ entry member
    exact remembered entry (FeedbackDemuxer.mem_of_mem_reportPacket member)
  · intro current packet remembered inFeedback info reported received
    obtain ⟨same, entry, member, found⟩ := FeedbackDemuxer.mem_of_reported reported
    have isReceived : packet.2 = true := same ▸ received
    exact ⟨packet.1, isReceived ▸ inFeedback, entry, remembered entry member, found⟩

/-- Feedback removes only packets of which it acknowledges a transmission. -/
theorem acknowledges_of_removed
    (accountable : Accountable cfg s) (path : k = 1 ∨ k = 2) (stores : (s.historyOf k).Stores n)
    (removed : ¬ ((onTransportFeedback cfg s packets pathid admits).historyOf k).Stores n) :
    Acknowledges s packets pathid k n := by
  have acknowledged : pathOf pathid = pathOf k ∧ n ∈ ackedPackets cfg.ssrc
      ((outputs (FeedbackDemuxer.reportPacket pathid) s.demuxer packets).filter
        (·.ssrc == cfg.ssrc)) := by
    by_contra kept
    rw [not_and] at kept
    exact removed (onPacketFeedbackVector_stores (s := { s with demuxer := _ })
      accountable.sound.ready stores kept)
  obtain ⟨selected, member⟩ := acknowledged
  obtain ⟨info, isAcked, rfl⟩ := List.mem_map.mp member
  obtain ⟨inReports, received⟩ := List.mem_filter.mp isAcked
  rw [Bool.and_eq_true, beq_iff_eq] at received
  obtain ⟨number, inFeedback, entry, remembered, key, ssrc, seq⟩ :=
    mem_of_mem_reported info (List.mem_of_mem_filter inReports) received.1
  obtain ⟨t, sent, r, record, samePath, sameKey, sameSeq⟩ :=
    accountable.remembered pathid entry remembered (ssrc.trans received.2)
  have onPath : pathOf r.pathid = pathOf pathid := by simp [pathOf, samePath]
  have sameNumber : r.mpTransportSequenceNumber = number := by
    apply UInt16.toNat.inj
    exact_mod_cast sameKey.symm.trans key
  refine ⟨t, sent, ?_, r, record, onPath, sameNumber ▸ inFeedback⟩
  rw [accountable.truthful t sent r record, onPath, selected, pathOf_of_path path, ← sameSeq, seq]

end Removal

section Runs

variable {cfg : SenderConfig}

/-- **Culling is exact.** In every run in which what is recorded for feedback is recorded
under the history and the number it is known under, feedback removes a stored packet only
if it acknowledges a transmission of this packet. -/
theorem feedback_culls_only_acknowledged (c : Collector) (startTransportSeq : UInt16)
    (numberToStore : Nat) (events : List SenderEvent)
    (admissible : ∀ event ∈ events, event.Admissible cfg)
    (recorded : Along (senderStep cfg) (fun s event => event.RecordsAsKnown s)
      (SenderState.initial c startTransportSeq numberToStore) events) :
    Along (senderStep cfg)
      (fun s event => ∀ packets pathid admits, event = .transportFeedback packets pathid admits →
        ∀ k, k = 1 ∨ k = 2 → ∀ n, (s.historyOf k).Stores n →
          ¬ ((senderNext cfg s event).historyOf k).Stores n →
            Acknowledges s packets pathid k n)
      (SenderState.initial c startTransportSeq numberToStore) events := by
  have legal := (along_of_forall_mem (SenderState.initial c startTransportSeq numberToStore)
    admissible).and recorded
  refine legal.of_invariant (Accountable cfg) senderStep_accountable ?_
    (initial_accountable c startTransportSeq numberToStore)
  rintro s event accountable - packets pathid admits rfl k path n stores removed
  exact acknowledges_of_removed accountable path stores removed

/-- While the second path is open and not redundant, packets that are neither padding
nor retransmissions are recorded as what they are. -/
theorem recordsAsKnown_of_open {s : SenderState} {event : SenderEvent}
    (isOpen : s.collector.mpIsSecondPathOpen ∧ ¬ s.collector.redScheduling)
    (ordinary : ∀ p ∈ s.queue, p.packetType ≠ some .kPadding ∧
      p.packetType ≠ some .kRetransmission ∧ p.subflowId ≤ 2) : event.RecordsAsKnown s := by
  rintro i q - leaves -
  obtain ⟨p, present, rfl⟩ := Option.map_eq_some_iff.mp leaves
  obtain ⟨transport, mpTransport, same, -⟩ := s.router.sendPacket_packet s.collector p
  obtain ⟨notPadding, notRetransmission, pathId⟩ := ordinary p (List.mem_of_getElem? present)
  rw [same]
  exact ⟨notPadding, ⟨by dsimp only; omega, by dsimp only; omega⟩,
    fun _ => ⟨isOpen.2, .inl isOpen.1⟩, fun isRetransmission => absurd isRetransmission
      notRetransmission⟩

/-- A packet is sent on each path. -/
def sentRun : List SenderEvent :=
  [.enqueuePackets (videoFrame 500 [501]), .pacerSend 0, .pacerSend 0]

/-- Then the packet of path 1 is NACKed and sent again over path 2. -/
def resentRun : List SenderEvent :=
  sentRun ++ [.timePasses 100, .collectorChanged { openRoundRobin with bestPathid := 2 },
    .onReceivedNack [(10, true)] 50 1, .pacerSend 0]

/-- The feedback of path 2 reports one packet as received. -/
def feedbackFor (number : UInt16) : SenderEvent :=
  .transportFeedback [(number, true)] 2 fun _ => true

/-- The state after a run, from a fresh start. -/
def stateAfter (events : List SenderEvent) : SenderState :=
  finalState (senderStep (videoSender false)) (.initial openRoundRobin 0 600) events

instance (h : PacketHistory) (n : UInt16) : Decidable (h.Stores n) :=
  inferInstanceAs (Decidable (∃ stored ∈ h.packets, stored.number = some n))

/-- Feedback for the packet of path 2 removes it. -/
theorem acknowledged_packet_culled :
    ((stateAfter sentRun).historyOf 2).Stores 10 ∧
      ¬ ((senderNext (videoSender false) (stateAfter sentRun) (feedbackFor 1)).historyOf 2).Stores
        10 ∧
      Acknowledges (stateAfter sentRun) [(1, true)] 2 2 10 := by
  have stores : ((stateAfter sentRun).historyOf 2).Stores 10 := by decide +kernel
  have removed : ¬ ((senderNext (videoSender false) (stateAfter sentRun)
      (feedbackFor 1)).historyOf 2).Stores 10 := by decide +kernel
  have admissible : ∀ event ∈ sentRun ++ [feedbackFor 1],
      event.Admissible (videoSender false) := by
    simp only [sentRun, List.cons_append, List.nil_append, List.forall_mem_cons,
      List.not_mem_nil, false_implies, implies_true, and_true]
    exact ⟨videoFrame_fresh 500 [501], trivial, trivial, trivial⟩
  have ordinary : Along (senderStep (videoSender false))
      (fun s _ => (s.collector.mpIsSecondPathOpen ∧ ¬ s.collector.redScheduling) ∧
        ∀ p ∈ s.queue, p.packetType ≠ some .kPadding ∧
          p.packetType ≠ some .kRetransmission ∧ p.subflowId ≤ 2)
      (.initial openRoundRobin 0 600) (sentRun ++ [feedbackFor 1]) := by
    decide +kernel
  have culled := feedback_culls_only_acknowledged openRoundRobin 0 600 _ admissible
    (ordinary.mono fun _ _ both => recordsAsKnown_of_open both.1 both.2)
  rw [along_append] at culled
  exact ⟨stores, removed, culled.2.1 _ _ _ rfl 2 (.inr rfl) 10 stores removed⟩

/-- Feedback for the retransmission of packet 10 of path 1 over path 2 removes packet 10
of path 2. -/
theorem unacknowledged_packet_culled :
    ((stateAfter resentRun).historyOf 2).Stores 10 ∧
      ¬ ((senderNext (videoSender false) (stateAfter resentRun) (feedbackFor 2)).historyOf
        2).Stores 10 ∧
      ¬ Acknowledges (stateAfter resentRun) [(2, true)] 2 2 10 := by
  refine ⟨by decide +kernel, by decide +kernel, ?_⟩
  unfold Acknowledges
  decide +kernel

end Runs

end MpWebRtc
