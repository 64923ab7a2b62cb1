import MpWebRtc.Sender.System

/-!
# What holds of the sending side in every run

Whatever happens, the histories stay well formed, and every packet in the queue is of
one of three kinds: labelled by the splitter, so that its extensions agree with its
fields; a retransmission, which says where it was taken from; or padding. All events
except the sending of a packet only *move* the state: they add to the queue, mark a
packet as pending only together with queueing its retransmission, and record nothing.
-/

namespace MpWebRtc

open Math.Run

/-- A retransmission of packet `n` of path `k`. -/
structure RetransmissionOf (k : Nat) (n : UInt16) (p : Packet) : Prop where
  packetType : p.packetType = some .kRetransmission
  number : p.retransmittedSequenceNumber = some n
  subflowSeq : p.subflowSeq = n
  pathId : 1 ≤ p.subflowId ∧ p.subflowId ≤ 4
  origin : originOf p.subflowId = k

/-- A packet labelled by the splitter, or left without a path. -/
structure Labelled (p : Packet) : Prop where
  notRetransmission : p.packetType ≠ some .kRetransmission
  notPadding : p.packetType ≠ some .kPadding
  original : p.retransmittedSequenceNumber = none
  pathId : p.subflowId ≤ 2
  sandy : p.sandy = some p.subflowId
  mpFlowSeqNum : p.mpFlowSeqNum = some p.subflowSeq

/-- Padding is not numbered on any path. -/
structure Padding (p : Packet) : Prop where
  packetType : p.packetType = some .kPadding
  original : p.retransmittedSequenceNumber = none

/-- The kinds of packets in the queue. -/
inductive Queued (p : Packet) : Prop
  | labelled (labelled : Labelled p)
  | retransmission (k : Nat) (path : k = 1 ∨ k = 2) (n : UInt16) (of : RetransmissionOf k n p)
  | padding (padding : Padding p)

theorem Queued.labelled_of_isMedia {p : Packet} (queued : Queued p) (media : p.isMedia) :
    Labelled p := by
  cases queued with
  | labelled labelled => exact labelled
  | retransmission k path n of => simp [Packet.isMedia, of.packetType] at media
  | padding padding => simp [Packet.isMedia, padding.packetType] at media

/-- A packet as the packetizer allocates it: new, and with the path extensions reserved
but not written. -/
structure Fresh (p : Packet) : Prop where
  notRetransmission : p.packetType ≠ some .kRetransmission
  notPadding : p.packetType ≠ some .kPadding
  original : p.retransmittedSequenceNumber = none
  subflowId : p.subflowId = 0
  subflowSeq : p.subflowSeq = 0
  sandy : p.sandy = some 0
  mpFlowSeqNum : p.mpFlowSeqNum = some 0

/-- The events that the sending side can see: the packets of a frame are new, and other
streams have another SSRC. -/
def SenderEvent.Admissible (cfg : SenderConfig) : SenderEvent → Prop
  | .sendToNetwork p => Fresh p
  | .enqueuePackets frame => ∀ p ∈ frame.packets, Fresh p
  | .foreignPacket info => info.ssrc ≠ cfg.ssrc
  | _ => True

section Labels

/-- What a packet needs to be labelled. -/
structure Labellable (p : Packet) : Prop where
  notRetransmission : p.packetType ≠ some .kRetransmission
  notPadding : p.packetType ≠ some .kPadding
  original : p.retransmittedSequenceNumber = none
  room : p.CarriesPath

theorem Labellable.label {p : Packet} (labellable : Labellable p) {id : Nat} (path : id ≤ 2)
    (seq : UInt16) : Labelled (p.label id seq) := by
  obtain ⟨old, sandy⟩ := Option.isSome_iff_exists.mp labellable.room.1
  obtain ⟨oldSeq, number⟩ := Option.isSome_iff_exists.mp labellable.room.2
  exact ⟨labellable.notRetransmission, labellable.notPadding, labellable.original, path,
    by simp [sandy], by simp [number]⟩

variable {p : Packet}

theorem Labelled.labellable (labelled : Labelled p) : Labellable p :=
  ⟨labelled.notRetransmission, labelled.notPadding, labelled.original,
    by simp [labelled.sandy], by simp [labelled.mpFlowSeqNum]⟩

theorem Fresh.stamped (fresh : Fresh p) (now : Int) : Fresh (stampCaptureTime now p) := by
  unfold stampCaptureTime
  split
  · exact ⟨fresh.notRetransmission, fresh.notPadding, fresh.original, fresh.subflowId,
      fresh.subflowSeq, fresh.sandy, fresh.mpFlowSeqNum⟩
  · exact fresh

theorem Fresh.labelled (fresh : Fresh p) : Labelled p :=
  ⟨fresh.notRetransmission, fresh.notPadding, fresh.original, by simp [fresh.subflowId],
    by rw [fresh.sandy, fresh.subflowId], by rw [fresh.mpFlowSeqNum, fresh.subflowSeq]⟩

theorem startUpCopy_labellable (labellable : Labellable p) : Labellable (startUpCopy p) :=
  ⟨labellable.notRetransmission, labellable.notPadding, labellable.original, labellable.room⟩

theorem telemetryCopy_labellable (labellable : Labellable p) : Labellable (telemetryCopy p) :=
  ⟨by simp [telemetryCopy], by simp [telemetryCopy], labellable.original, labellable.room⟩

variable {c : Collector} {now : Int} {s : RtpSender} {packets : List Packet} {keyframe : Bool}

theorem split_packets_labelled (fresh : ∀ p ∈ packets, Fresh p) :
    ∀ q ∈ (mpTrafficSplitImplementation c now s packets keyframe).packets, Labelled q := by
  intro q member
  obtain ⟨p, inFrame, same | ⟨id, seq, path, rfl⟩⟩ := split_original member
  · rw [same]
    exact (fresh p inFrame).labelled
  · exact (fresh p inFrame).labelled.labellable.label (by omega) seq

theorem assignTo_loop_labelled (primary : Bool) {s : RtpSender} {packets : List Packet}
    (labellable : ∀ p ∈ packets, Labellable p) :
    ∀ q ∈ outputs (RtpSender.assignTo primary) s packets, Labelled q := by
  intro q member
  obtain ⟨p, copied, seq, rfl⟩ := assignTo_loop_origin primary member
  exact (labellable p copied).label (by split <;> simp) seq

theorem split_copies_labelled (fresh : ∀ p ∈ packets, Fresh p) :
    ∀ q ∈ (mpTrafficSplitImplementation c now s packets keyframe).copies, Labelled q := by
  intro q member
  have originals : ∀ p ∈ (mpTrafficSplitImplementation c now s packets keyframe).packets,
      Labelled p := split_packets_labelled fresh
  unfold mpTrafficSplitImplementation at member originals
  cases branch : splitBranch c now s keyframe <;> rw [branch] at member originals <;>
    dsimp only at originals
  case startUp =>
    refine assignTo_loop_labelled false ?_ q member
    intro p copied
    obtain ⟨raw, inFrame, rfl⟩ := List.mem_map.mp copied
    exact startUpCopy_labellable (fresh raw inFrame).labelled.labellable
  case ratio =>
    refine assignTo_loop_labelled _ ?_ q member
    intro p copied
    obtain ⟨raw, inSent, rfl⟩ := List.mem_map.mp copied
    exact telemetryCopy_labellable (originals raw (List.mem_of_mem_take inSent)).labellable
  all_goals simp [splitKeyFrame, splitAll, splitRedundant, splitRoundRobin] at member

end Labels

section Histories

variable (s : SenderState)

/-- A path id selects the history of path 1 or of path 2. -/
def pathOf (pathid : Nat) : Nat := if pathid ≠ 2 then 1 else 2

theorem pathOf_cases (pathid : Nat) : pathOf pathid = 1 ∨ pathOf pathid = 2 := by
  unfold pathOf
  split <;> simp

theorem historyOf_setHistory (j k : Nat) (h : PacketHistory) :
    (s.setHistory j h).historyOf k = if pathOf j = pathOf k then h else s.historyOf k := by
  unfold SenderState.setHistory SenderState.historyOf pathOf
  by_cases first : j = 2 <;> by_cases second : k = 2 <;> simp [first, second]

variable (j : Nat) (h : PacketHistory)

@[simp] theorem setHistory_queue : (s.setHistory j h).queue = s.queue := by
  unfold SenderState.setHistory
  split <;> rfl

@[simp] theorem setHistory_collector : (s.setHistory j h).collector = s.collector := by
  unfold SenderState.setHistory
  split <;> rfl

@[simp] theorem setHistory_demuxer : (s.setHistory j h).demuxer = s.demuxer := by
  unfold SenderState.setHistory
  split <;> rfl

@[simp] theorem setHistory_sent : (s.setHistory j h).sent = s.sent := by
  unfold SenderState.setHistory
  split <;> rfl

end Histories

section Moves

variable {cfg : SenderConfig} {s s' s'' : SenderState}

/-- Both histories are usable. -/
def Ready (s : SenderState) : Prop := ∀ k, (s.historyOf k).Usable

/-- A change of state in which no packet is sent. -/
structure Moves (cfg : SenderConfig) (s s' : SenderState) : Prop where
  ready : Ready s'
  queue : ∃ added, s'.queue = s.queue ++ added ∧ ∀ q ∈ added, Queued q
  pends : ∀ k, k = 1 ∨ k = 2 → ∀ n, (s'.historyOf k).Pends n →
    (s.historyOf k).Pends n ∨ ∃ q ∈ s'.queue, RetransmissionOf k n q
  recorded : ∀ k, ∀ entry ∈ s'.demuxer.historyOf k,
    entry ∈ s.demuxer.historyOf k ∨ entry.2.ssrc ≠ cfg.ssrc
  sent : s'.sent = s.sent

namespace Moves

theorem refl (ready : Ready s) : Moves cfg s s :=
  ⟨ready, ⟨[], by simp, by simp⟩, fun _ _ _ => .inl, fun _ _ => .inl, rfl⟩

theorem trans (first : Moves cfg s s') (second : Moves cfg s' s'') : Moves cfg s s'' := by
  obtain ⟨added, grows, queued⟩ := first.queue
  obtain ⟨added', grows', queued'⟩ := second.queue
  refine ⟨second.ready, ⟨added ++ added', by rw [grows', grows, List.append_assoc],
    List.forall_mem_append.mpr ⟨queued, queued'⟩⟩, ?_, ?_, second.sent.trans first.sent⟩
  · intro k path n pending
    rcases second.pends k path n pending with earlier | inQueue
    · rcases first.pends k path n earlier with before | ⟨q, member, of⟩
      · exact .inl before
      · exact .inr ⟨q, grows' ▸ List.mem_append_left _ member, of⟩
    · exact .inr inQueue
  · intro k entry member
    rcases second.recorded k entry member with earlier | foreign
    · exact first.recorded k entry earlier
    · exact .inr foreign

/-- A change that does not touch the histories, and only adds to the queue. -/
theorem of_enqueue (ready : Ready s) (historyP : s'.historyP = s.historyP)
    (historyS : s'.historyS = s.historyS) (demuxer : s'.demuxer = s.demuxer)
    (sent : s'.sent = s.sent) {added : List Packet} (queue : s'.queue = s.queue ++ added)
    (queued : ∀ q ∈ added, Queued q) : Moves cfg s s' := by
  have histories : ∀ k, s'.historyOf k = s.historyOf k := by
    intro k
    simp [SenderState.historyOf, historyP, historyS]
  refine ⟨fun k => ?_, ⟨added, queue, queued⟩, fun k _ n pending => ?_, ?_, sent⟩
  · rw [histories]
    exact ready k
  · exact .inl (histories k ▸ pending)
  · rw [demuxer]
    exact fun k entry => .inl

/-- A calm operation on one history. -/
theorem of_calm (ready : Ready s) (pathid : Nat) {h : PacketHistory}
    (calm : (s.historyOf pathid).Calm h) : Moves cfg s (s.setHistory pathid h) := by
  have either : ∀ k, (s.historyOf k).Calm ((s.setHistory pathid h).historyOf k) := by
    intro k
    rw [historyOf_setHistory]
    split
    · rename_i same
      have selected : s.historyOf k = s.historyOf pathid := by
        unfold pathOf at same
        unfold SenderState.historyOf
        split_ifs at same ⊢ <;> simp_all
      rwa [selected]
    · exact .refl _
  refine ⟨fun k => (either k).usable (ready k), ⟨[], by simp, by simp⟩,
    fun k _ n pending => .inl ((either k).pends n pending), ?_, by simp⟩
  rw [setHistory_demuxer]
  exact fun k entry => .inl

end Moves

theorem retransmissionOf_of_retransmits {id : Nat} {stored p : Packet} {n : UInt16}
    (retransmits : Retransmits cfg id stored p) (number : stored.subflowSeq = n)
    (pathId : 1 ≤ id ∧ id ≤ 4) : RetransmissionOf (originOf id) n p := by
  cases retransmits with
  | plain isPlain same =>
      subst same number
      exact ⟨rfl, rfl, rfl, pathId, rfl⟩
  | rtx isRtx rtxPacket counter built same =>
      subst same number
      exact ⟨rfl, rfl, rfl, pathId, rfl⟩

theorem resendId_spec (c : Collector) (pathid : Nat) :
    (1 ≤ resendId c pathid ∧ resendId c pathid ≤ 4) ∧
      originOf (resendId c pathid) = pathOf pathid := by
  unfold resendId pathOf primaryId secondaryId originOf
  split_ifs <;> simp_all

theorem historyOf_pathOf (s : SenderState) (pathid : Nat) :
    s.historyOf (pathOf pathid) = s.historyOf pathid := by
  unfold pathOf SenderState.historyOf
  split <;> simp_all

/-- `ReSendPacket` either changes nothing that matters, or marks the packet of this
number as pending and queues its retransmission. -/
theorem reSendPacket_cases (cfg : SenderConfig) (s : SenderState) (packetId : UInt16)
    (pathid : Nat) (admitted : Bool) :
    ((reSendPacket cfg s packetId pathid admitted).1.queue = s.queue ∧
        ∀ k, (reSendPacket cfg s packetId pathid admitted).1.historyOf k = s.historyOf k) ∨
      ∃ p, (reSendPacket cfg s packetId pathid admitted).1.queue = s.queue ++ [p] ∧
        (∀ k, (reSendPacket cfg s packetId pathid admitted).1.historyOf k =
          if pathOf pathid = pathOf k then
            (s.historyOf pathid).updateStored packetId ({ · with pendingTransmission := true })
          else s.historyOf k) ∧
        ∃ old original, (s.historyOf pathid).getStoredPacket packetId = some old ∧
          old.packet = some original ∧
          Retransmits cfg (resendId s.collector pathid) original p := by
  have histories : ∀ k, (reSendPacket cfg s packetId pathid admitted).1.historyOf k =
      (s.setHistory pathid (reSendFrom cfg (resendId s.collector pathid) (s.historyOf pathid) s.now
        s.sequenceNumberRtx packetId admitted).history).historyOf k := fun k => rfl
  have queue : (reSendPacket cfg s packetId pathid admitted).1.queue =
      s.queue ++ (reSendFrom cfg (resendId s.collector pathid) (s.historyOf pathid) s.now
        s.sequenceNumberRtx packetId admitted).packet.toList := rfl
  rcases reSendFrom_cases cfg (resendId s.collector pathid) (s.historyOf pathid) s.now
    s.sequenceNumberRtx packetId admitted with ⟨nothing, unchanged⟩ | ⟨p, retransmitted⟩
  · refine .inl ⟨by rw [queue, nothing]; simp, fun k => ?_⟩
    rw [histories, unchanged, historyOf_setHistory]
    split
    · next same => rw [← historyOf_pathOf s k, ← same, historyOf_pathOf]
    · rfl
  · refine .inr ⟨p, by rw [queue, retransmitted.packet]; rfl, fun k => ?_, retransmitted.stored⟩
    rw [histories, retransmitted.history, historyOf_setHistory]

theorem reSendPacket_moves (cfg : SenderConfig) (ready : Ready s) (packetId : UInt16)
    (pathid : Nat) (admitted : Bool) : Moves cfg s
    (reSendPacket cfg s packetId pathid admitted).1 := by
  have demuxer : (reSendPacket cfg s packetId pathid admitted).1.demuxer = s.demuxer := by
    simp [reSendPacket]
  have sent : (reSendPacket cfg s packetId pathid admitted).1.sent = s.sent := by
    simp [reSendPacket]
  have recorded : ∀ k, ∀ entry ∈
      (reSendPacket cfg s packetId pathid admitted).1.demuxer.historyOf k,
      entry ∈ s.demuxer.historyOf k ∨ entry.2.ssrc ≠ cfg.ssrc := by
    rw [demuxer]
    exact fun k entry => .inl
  rcases reSendPacket_cases cfg s packetId pathid admitted with
    ⟨queue, histories⟩ | ⟨p, queue, histories, old, original, found, isOriginal, retransmits⟩
  · refine ⟨fun k => ?_, ⟨[], by simpa using queue, by simp⟩, ?_, recorded, sent⟩
    · rw [histories]
      exact ready k
    · intro k _ n pending
      exact .inl (histories k ▸ pending)
  · have formed := (ready pathid).wellFormed
    have numbered := formed.number_of_getStoredPacket found
    have number : original.subflowSeq = packetId := by
      simpa [StoredPacket.number, isOriginal] using numbered
    have resent : RetransmissionOf (pathOf pathid) packetId p := by
      have spec := resendId_spec s.collector pathid
      exact spec.2 ▸ retransmissionOf_of_retransmits retransmits number spec.1
    refine ⟨fun k => ?_, ⟨[p], queue, ?_⟩, ?_, recorded, sent⟩
    · rw [histories]
      split
      · exact (ready pathid).updateStored packetId fun _ => rfl
      · exact ready k
    · rw [List.forall_mem_singleton]
      exact .retransmission _ (pathOf_cases pathid) packetId resent
    · intro k path n pending
      rw [histories] at pending
      split at pending
      · rename_i same
        have selected : pathOf k = k := by rcases path with rfl | rfl <;> rfl
        rcases PacketHistory.pends_of_markAsPending formed pending with before | rfl
        · refine .inl ?_
          rwa [← historyOf_pathOf s k, ← same, historyOf_pathOf]
        · refine .inr ⟨p, by simp [queue], ?_⟩
          rw [← selected, ← same]
          exact resent
      · exact .inl pending

theorem nackLoop_moves (pathid : Nat) (numbers : List (UInt16 × Bool)) (ready : Ready s) :
    Moves cfg s (nackLoop cfg pathid s numbers) := by
  induction numbers generalizing s with
  | nil => exact .refl ready
  | cons number numbers ih =>
      have first := reSendPacket_moves cfg ready number.1 pathid number.2
      unfold nackLoop
      dsimp only
      split
      · exact first
      · exact first.trans (ih first.ready)

variable (infos : List StreamPacketInfo)

theorem resendEarlyLosses_moves (pathid : Nat) (admits : UInt16 → Bool) (ready : Ready s) :
    Moves cfg s (resendEarlyLosses cfg s infos pathid admits) := by
  unfold resendEarlyLosses
  split
  · generalize earlyLosses infos = numbers
    induction numbers generalizing s with
    | nil => exact .refl ready
    | cons number numbers ih =>
        have first := reSendPacket_moves cfg ready number pathid (admits number)
        exact first.trans (ih first.ready)
  · exact .refl ready

theorem onPacketFeedbackVector_moves (pathid : Nat) (admits : UInt16 → Bool) (ready : Ready s) :
    Moves cfg s (onPacketFeedbackVector cfg s infos pathid admits) := by
  have resent : Moves cfg s (resendEarlyLosses cfg s infos pathid admits) :=
    resendEarlyLosses_moves infos pathid admits ready
  exact resent.trans (.of_calm resent.ready pathid (.cullAcknowledgedPackets _))

/-- A change of the demuxer only, which forgets records or adds those of other streams. -/
theorem Moves.of_demuxer (ready : Ready s) (d : FeedbackDemuxer)
    (recorded : ∀ k, ∀ entry ∈ d.historyOf k,
      entry ∈ s.demuxer.historyOf k ∨ entry.2.ssrc ≠ cfg.ssrc) :
    Moves cfg s { s with demuxer := d } :=
  ⟨ready, ⟨[], by simp, by simp⟩, fun _ _ _ => .inl, recorded, rfl⟩

theorem mem_of_mem_reports {pathid k : Nat} {packets : List (UInt16 × Bool)}
    {d : FeedbackDemuxer} {entry : Int × StreamPacketInfo} (member : entry ∈
      (finalState (FeedbackDemuxer.reportPacket pathid) d packets).historyOf k) :
    entry ∈ d.historyOf k := by
  induction packets generalizing d with
  | nil => exact member
  | cons packet packets ih => exact FeedbackDemuxer.mem_of_mem_reportPacket (ih member)

theorem paddingPacket_original {h : PacketHistory} {now : Int} {best : Nat} {counter : UInt16}
    {p : Packet}
    (made : (h.getPayloadPaddingPacket now best (buildRtxPacket cfg) counter).2.2 = some p) :
    p.retransmittedSequenceNumber = none := by
  unfold PacketHistory.getPayloadPaddingPacket at made
  split at made
  · simp at made
  · rename_i stored _
    cases built : buildRtxPacket cfg counter stored with
    | mk counter' packet =>
        rw [built] at made
        cases packet with
        | none => simp at made
        | some q =>
            have wraps : Wraps cfg stored q := buildRtxPacket_wraps (congrArg Prod.snd built)
            have same : q = p := by simpa using made
            exact same ▸ wraps.original

theorem payloadPadding_moves (best : Nat) (ready : Ready s) :
    Moves cfg s (payloadPadding cfg s best) := by
  unfold payloadPadding
  split
  · have calm := PacketHistory.Calm.getPayloadPaddingPacket (h := s.historyP) s.now best
      (buildRtxPacket cfg) s.sequenceNumberRtx
    have moved : Moves cfg s (s.setHistory 1 (s.historyP.getPayloadPaddingPacket s.now best
        (buildRtxPacket cfg) s.sequenceNumberRtx).1) := .of_calm ready 1 calm
    refine moved.trans (.of_enqueue moved.ready rfl rfl rfl rfl rfl ?_)
    intro q member
    obtain ⟨p, made, rfl⟩ := Option.map_eq_some_iff.mp (Option.mem_toList.mp member)
    have original := paddingPacket_original made
    exact .padding ⟨rfl, original⟩
  · exact .refl ready

theorem enqueueSplit_moves {split : Split} (ready : Ready s)
    (labelled : ∀ q ∈ split.handed, Labelled q) : Moves cfg s (enqueueSplit s split) :=
  .of_enqueue ready rfl rfl rfl rfl rfl fun q member => .labelled (labelled q member)

/-- Every admissible event moves the state, except that the pacer sends a packet. -/
theorem senderNext_moves (ready : Ready s) {event : SenderEvent}
    (admissible : event.Admissible cfg) (notSent : ∀ i, event ≠ .pacerSend i) :
    Moves cfg s (senderNext cfg s event) := by
  cases event with
  | collectorChanged c =>
      exact .of_enqueue ready rfl rfl rfl rfl (List.append_nil _).symm (by simp)
  | timePasses now =>
      exact .of_enqueue ready rfl rfl rfl rfl (List.append_nil _).symm (by simp)
  | sendToNetwork p =>
      refine enqueueSplit_moves ready ?_
      simp only [Split.handed, sendToNetwork, List.append_nil, RtpSender.assignPrimary,
        List.forall_mem_singleton]
      exact (admissible.stamped s.now).labelled.labellable.label (by decide) _
  | enqueuePackets frame =>
      have fresh : ∀ p ∈ frame.packets.map (stampCaptureTime s.now), Fresh p := by
        intro p member
        obtain ⟨raw, inFrame, rfl⟩ := List.mem_map.mp member
        exact (admissible raw inFrame).stamped s.now
      refine enqueueSplit_moves ready ?_
      exact List.forall_mem_append.mpr ⟨split_packets_labelled fresh, split_copies_labelled fresh⟩
  | onReceivedNack numbers avgRtt pathid =>
      have noted : Moves cfg s (s.setHistory pathid
          ((s.historyOf pathid).setRtt s.now (5 + avgRtt))) :=
        .of_calm ready pathid (.setRtt s.now (5 + avgRtt))
      exact noted.trans (nackLoop_moves pathid numbers noted.ready)
  | pacerSend i => exact absurd rfl (notSent i)
  | payloadPadding best => exact payloadPadding_moves best ready
  | plainPadding sequenceNumber payloadType headersSize paddingSize =>
      refine .of_enqueue ready rfl rfl rfl rfl rfl ?_
      rw [List.forall_mem_singleton]
      exact .padding ⟨rfl, rfl⟩
  | transportFeedback packets pathid admits =>
      have noted : Moves cfg s { s with
          demuxer := finalState (FeedbackDemuxer.reportPacket pathid) s.demuxer packets } :=
        .of_demuxer ready _ fun k entry member => .inl (mem_of_mem_reports member)
      exact noted.trans (onPacketFeedbackVector_moves _ pathid admits noted.ready)
  | foreignPacket info =>
      refine .of_demuxer ready _ fun k entry member => ?_
      rcases FeedbackDemuxer.mem_of_mem_addPacket member with kept | ⟨-, -, same⟩
      · exact .inl kept
      · exact .inr (same ▸ admissible)

end Moves

section Sending

variable {cfg : SenderConfig} {s : SenderState} {i : Nat} {q : Packet}

/-- The packet that reaches the egress when the pacer sends from position `i`. -/
def SenderState.leaving (s : SenderState) (i : Nat) : Option Packet :=
  s.queue[i]?.map fun p => (s.router.sendPacket s.collector p).2

theorem Queued.renumbered {p : Packet} (queued : Queued p) (transport mpTransport : Option UInt16) :
    Queued { p with
      transportSequenceNumber := transport
      mpTransportSequenceNumber := mpTransport } := by
  cases queued with
  | labelled labelled =>
      exact .labelled ⟨labelled.notRetransmission, labelled.notPadding, labelled.original,
        labelled.pathId, labelled.sandy, labelled.mpFlowSeqNum⟩
  | retransmission k path n of =>
      exact .retransmission k path n ⟨of.packetType, of.number, of.subflowSeq, of.pathId, of.origin⟩
  | padding padding => exact .padding ⟨padding.packetType, padding.original⟩

theorem queued_leaving (queued : ∀ p ∈ s.queue, Queued p) (leaves : s.leaving i = some q) :
    Queued q := by
  obtain ⟨p, present, rfl⟩ := Option.map_eq_some_iff.mp leaves
  obtain ⟨transport, mpTransport, same, -⟩ := s.router.sendPacket_packet s.collector p
  rw [same]
  exact (queued p (List.mem_of_getElem? present)).renumbered transport mpTransport

theorem pacerSend_of_leaving (cfg : SenderConfig) (leaves : s.leaving i = some q) :
    ∃ router, pacerSend cfg s i =
      egressSend cfg { s with queue := s.queue.eraseIdx i, router := router } q := by
  obtain ⟨p, present, rfl⟩ := Option.map_eq_some_iff.mp leaves
  exact ⟨(s.router.sendPacket s.collector p).1, by simp [pacerSend, present]⟩

theorem pacerSend_of_not_leaving (nothing : s.leaving i = none) : pacerSend cfg s i = s := by
  simp [pacerSend, Option.map_eq_none_iff.mp nothing]

variable (c : Collector)

theorem pathOf_storagePath (p : Packet) : pathOf (storagePath c p) = storagePath c p := by
  unfold storagePath
  split <;> rfl

theorem pathOf_releasePath (p : Packet) : pathOf (releasePath c p) = releasePath c p := by
  unfold releasePath
  split <;> rfl

/-- The selected history is the one of its path. -/
theorem historyOf_update (s : SenderState) (j k : Nat) (change : PacketHistory → PacketHistory) :
    (s.setHistory j (change (s.historyOf j))).historyOf k =
      if pathOf j = pathOf k then change (s.historyOf k) else s.historyOf k := by
  rw [historyOf_setHistory]
  split
  · next same => rw [← historyOf_pathOf s k, ← same, historyOf_pathOf]
  · rfl

/-- The egress puts a media packet into the history of its path. -/
theorem egressSend_historyOf_media (media : q.isMedia) (allowed : q.allowRetransmission) (k : Nat) :
    (egressSend cfg s q).historyOf k =
      if storagePath s.collector (egressPacket s.collector q) = pathOf k then
        (s.historyOf k).putRtpPacket s.now (egressPacket s.collector q)
      else s.historyOf k := by
  rw [← pathOf_storagePath]
  unfold egressSend egressStore
  simp only [egressPacket_isMedia, media, egressPacket_allowRetransmission, allowed,
    Bool.and_self, ↓reduceIte]
  exact historyOf_update _ _ k fun h => h.putRtpPacket s.now (egressPacket s.collector q)

/-- The egress releases a retransmitted packet in the history that its path id
selects now. -/
theorem egressSend_historyOf_retransmission {n : UInt16}
    (notStored : (q.isMedia && q.allowRetransmission) = false)
    (number : q.retransmittedSequenceNumber = some n) (k : Nat) :
    (egressSend cfg s q).historyOf k =
      if releasePath s.collector (egressPacket s.collector q) = pathOf k then
        (s.historyOf k).markPacketAsSent s.now n
      else s.historyOf k := by
  rw [← pathOf_releasePath]
  unfold egressSend egressStore
  simp only [egressPacket_isMedia, egressPacket_allowRetransmission, notStored,
    Bool.false_eq_true, ↓reduceIte, egressPacket_retransmittedSequenceNumber, number]
  exact historyOf_update _ _ k fun h => h.markPacketAsSent s.now n

/-- Other packets leave the histories as they are. -/
theorem egressSend_historyOf_other (notStored : (q.isMedia && q.allowRetransmission) = false)
    (original : q.retransmittedSequenceNumber = none) (k : Nat) :
    (egressSend cfg s q).historyOf k = s.historyOf k := by
  unfold egressSend egressStore
  simp only [egressPacket_isMedia, egressPacket_allowRetransmission, notStored,
    Bool.false_eq_true, ↓reduceIte, egressPacket_retransmittedSequenceNumber, original]
  rfl

theorem egressSend_calm (cfg : SenderConfig) (s : SenderState) {q : Packet} (queued : Queued q)
    (k : Nat) : (s.historyOf k).Calm ((egressSend cfg s q).historyOf k) := by
  by_cases stored : q.isMedia && q.allowRetransmission
  · rw [Bool.and_eq_true] at stored
    rw [egressSend_historyOf_media stored.1 stored.2]
    split
    · obtain ⟨sandy, number⟩ := egressPacket_extensions s.collector q
      have labelled := queued.labelled_of_isMedia stored.1
      refine .putRtpPacket s.now ⟨?_, ?_⟩
      · rw [sandy, labelled.sandy]
        rfl
      · rw [number, labelled.mpFlowSeqNum]
        rfl
    · exact .refl _
  · have notStored : (q.isMedia && q.allowRetransmission) = false := by simpa using stored
    cases number : q.retransmittedSequenceNumber with
    | none =>
        rw [egressSend_historyOf_other notStored number]
        exact .refl _
    | some n =>
        rw [egressSend_historyOf_retransmission notStored number]
        split
        · exact .markPacketAsSent ..
        · exact .refl _

theorem egressStore_frame (s : SenderState) (p : Packet) :
    (egressStore s p).queue = s.queue ∧ (egressStore s p).demuxer = s.demuxer ∧
      (egressStore s p).sent = s.sent := by
  unfold egressStore
  split
  · simp
  · split <;> simp

/-- The histories are in use and well formed, and the queue holds what it should. -/
structure Sound (s : SenderState) : Prop where
  ready : Ready s
  queue : ∀ p ∈ s.queue, Queued p

theorem Moves.sound {s' : SenderState} (moves : Moves cfg s s') (sound : Sound s) : Sound s' := by
  obtain ⟨added, grows, queued⟩ := moves.queue
  exact ⟨moves.ready, grows ▸ List.forall_mem_append.mpr ⟨sound.queue, queued⟩⟩

/-- Sending a packet is calm for both histories. -/
theorem pacerSend_calm (cfg : SenderConfig) (sound : Sound s) (i k : Nat) :
    (s.historyOf k).Calm ((pacerSend cfg s i).historyOf k) := by
  cases leaves : s.leaving i with
  | none =>
      rw [pacerSend_of_not_leaving leaves]
      exact .refl _
  | some q =>
      obtain ⟨router, sends⟩ := pacerSend_of_leaving cfg leaves
      rw [sends]
      exact egressSend_calm cfg { s with queue := s.queue.eraseIdx i, router := router }
        (queued_leaving sound.queue leaves) k

theorem pacerSend_queue (leaves : s.leaving i = some q) :
    (pacerSend cfg s i).queue = s.queue.eraseIdx i := by
  obtain ⟨router, sends⟩ := pacerSend_of_leaving cfg leaves
  rw [sends]
  exact (egressStore_frame _ _).1

/-- Soundness is kept by every admissible event. -/
theorem senderStep_sound (s : SenderState) (event : SenderEvent) (sound : Sound s)
    (admissible : event.Admissible cfg) : Sound (senderStep cfg s event).1 := by
  by_cases isSent : ∃ i, event = .pacerSend i
  · obtain ⟨i, rfl⟩ := isSent
    refine ⟨fun k => (pacerSend_calm cfg sound i k).usable (sound.ready k), ?_⟩
    change ∀ p ∈ (pacerSend cfg s i).queue, Queued p
    cases leaves : s.leaving i with
    | none =>
        rw [pacerSend_of_not_leaving leaves]
        exact sound.queue
    | some q =>
        rw [pacerSend_queue leaves]
        exact fun p member => sound.queue p ((List.eraseIdx_sublist ..).subset member)
  · exact (senderNext_moves sound.ready admissible (not_exists.mp isSent)).sound sound

/-- The sending side before anything has happened. -/
def SenderState.initial (c : Collector) (startTransportSeq : UInt16) (numberToStore : Nat) :
    SenderState where
  collector := c
  historyP := { numberToStore := numberToStore }
  historyS := { numberToStore := numberToStore }
  router := .initial startTransportSeq

theorem initial_sound (startTransportSeq : UInt16) (numberToStore : Nat) :
    Sound (SenderState.initial c startTransportSeq numberToStore) := by
  have empty : ({ numberToStore := numberToStore } : PacketHistory).Usable :=
    ⟨rfl, ⟨by simp, 0, .nil 0⟩, by simp [PacketHistory.Holds]⟩
  refine ⟨fun k => ?_, by simp [SenderState.initial]⟩
  unfold SenderState.historyOf
  split <;> exact empty

end Sending

end MpWebRtc
