import MpWebRtc.Delivery
import MpWebRtc.Receiver.Window
import MpWebRtc.Sender.Storage

/-!
# A lost packet and its retransmission

A NACK on path `k` makes the sender take the packet from the history of path `k`, wrap
it if RTX is in use, and send it on the best path, whichever that is. The receiver
undoes all of this: it attributes the packet to path `k` and unwraps it. So the loop is
closed, unless the stream does not tell the NACK module of the packet. That is the case
for the copies made during start-up: they are stored and asked for like any other packet
of their path, and dropped when they arrive again.
-/

namespace MpWebRtc

open Math.Run

/-- The two ends have negotiated the same stream. -/
structure Agrees (cfg : SenderConfig) (stream : StreamConfig) : Prop where
  rtxSsrc : stream.rtxSsrc = cfg.rtxSsrc
  distinct : stream.mediaSsrc ≠ stream.rtxSsrc
  payloadTypes : ∀ payloadType rtxPayloadType,
    cfg.rtxPayloadTypeMap payloadType = some rtxPayloadType →
      rtxPayloadType ≠ kDupPayloadType ∧
        stream.associatedPayloadTypes rtxPayloadType = some payloadType

/-- What becomes of a queued packet: the router and then the egress send it. -/
def transmit (router : PacketRouter) (c : Collector) (p : Packet) : Packet :=
  egressPacket c (router.sendPacket c p).2

/-- A stored packet of path `k` as the stream sees it when it arrives again. -/
def seenAgain (cfg : SenderConfig) (k : Nat) (original : Packet) : ReceivedPacket :=
  { (original.label k original.subflowSeq).arrive k with recovered := cfg.rtx }

/-- Packet `n` of path `k` is no longer missing, and the other path is not affected. -/
structure ClosesLoop (before after : VideoReceiver) (k : Nat) (n : UInt16) : Prop where
  removed : n ∉ (after.nackModuleOf k).missing
  nackList : ∀ j, ¬ (k = 2 ↔ j = 2) →
    (after.nackModuleOf j).nackList = (before.nackModuleOf j).nackList
  recoveredList : ∀ j, ¬ (k = 2 ↔ j = 2) →
    (after.nackModuleOf j).recoveredList = (before.nackModuleOf j).recoveredList
  newestSeqNum : ∀ j, ¬ (k = 2 ↔ j = 2) →
    (after.nackModuleOf j).newestSeqNum = (before.nackModuleOf j).newestSeqNum

section Wire

variable {cfg : SenderConfig} {stream : StreamConfig} {original p : Packet} {id connection : Nat}

/-- On the way out only fields change that are not part of the bytes. -/
theorem transmit_arrive (router : PacketRouter) (c : Collector) (p : Packet) (connection : Nat) :
    (transmit router c p).arrive connection = p.arrive connection := by
  obtain ⟨transport, mpTransport, same, -⟩ := router.sendPacket_packet c p
  unfold transmit egressPacket egressPath egressNumber
  rw [same]
  split_ifs <;> rfl

theorem bigEndian_read (n : UInt16) :
    (n >>> 8).toUInt8.toUInt16 <<< 8 + n.toUInt8.toUInt16 = n := by
  have bound := n.toNat_lt
  apply UInt16.toNat_inj.mp
  simp only [UInt16.toNat_add, UInt16.toNat_shiftLeft, UInt8.toNat_toUInt16, UInt16.toNat_toUInt8,
    UInt16.toNat_shiftRight, Nat.shiftLeft_eq, Nat.shiftRight_eq_div_pow,
    show (8 : UInt16).toNat % 16 = 8 from rfl]
  omega

theorem seenAgain_header (cfg : SenderConfig) (k : Nat) (room : original.CarriesPath) :
    (seenAgain cfg k original).headerPath = k ∧
      (seenAgain cfg k original).headerSeqNum = original.subflowSeq := by
  obtain ⟨oldPath, sandy⟩ := Option.isSome_iff_exists.mp room.1
  obtain ⟨oldSeq, number⟩ := Option.isSome_iff_exists.mp room.2
  simp [seenAgain, ReceivedPacket.headerPath, ReceivedPacket.headerSeqNum, Packet.arrive, sandy,
    number]

/-- The receiver gets the stored packet back out of its retransmission, attributed to the
path it was numbered on. -/
theorem mediaOf_retransmission (agrees : Agrees cfg stream)
    (retransmits : Retransmits cfg id original p) (room : original.CarriesPath)
    (ours : original.ssrc = stream.mediaSsrc) (path : connection = 1 ∨ connection = 2)
    (pathId : id ≤ 4) :
    mediaOf stream (resolvePath (p.arrive connection)) =
      some (seenAgain cfg (originOf id) original) := by
  obtain ⟨oldPath, sandy⟩ := Option.isSome_iff_exists.mp room.1
  obtain ⟨oldSeq, number⟩ := Option.isSome_iff_exists.mp room.2
  cases retransmits with
  | plain isPlain same =>
      have label : p.sandy = some id := by simp [same, relabel, sandy]
      have isMedia : p.ssrc = stream.mediaSsrc := by rw [same]; exact ours
      rw [resolvePath_arrive path pathId label, mediaOf,
        if_neg (by exact fun rtx => agrees.distinct (isMedia.symm.trans rtx)),
        if_pos (by exact isMedia)]
      simp [same, relabel, seenAgain, Packet.arrive, sandy, number, isPlain, Packet.label,
        Packet.setSandy, Packet.setMpFlowSeqNum]
  | rtx isRtx rtxPacket counter built same =>
      have wraps := buildRtxPacket_wraps built
      have label : p.sandy = some id := by simp [same, relabel, wraps.sandy, sandy]
      have isRtxSsrc : p.ssrc = stream.rtxSsrc := by
        rw [agrees.rtxSsrc, ← wraps.ssrc, same]
        rfl
      obtain ⟨notCopy, associated⟩ := agrees.payloadTypes _ _ wraps.payloadType
      rw [resolvePath_arrive path pathId label, mediaOf, if_pos (by exact isRtxSsrc)]
      simp [unpackRtx, same, relabel, seenAgain, Packet.arrive, Packet.label, Packet.setSandy,
        Packet.setMpFlowSeqNum, notCopy, wraps.payload, bigEndian, associated, bigEndian_read,
        wraps.sandy, wraps.mpFlowSeqNum, sandy, number, isRtx, ours, -UInt16.toUInt16_toUInt8]

end Wire

section Receiver

variable {stream : StreamConfig} {r : VideoReceiver} {m : ReceivedPacket} {answers : ParserAnswers}

/-- The NACK lists are within their windows, and those of the other paths are as in `r`. -/
structure Beside (r : VideoReceiver) (k : Nat) (r' : VideoReceiver) : Prop where
  watchful : r'.Watchful
  other : ∀ j, ¬ (k = 2 ↔ j = 2) → r'.nackModuleOf j = r.nackModuleOf j

theorem Beside.closesLoop {k : Nat} {n : UInt16} {r' : VideoReceiver} (beside : Beside r k r')
    (removed : n ∉ (r'.nackModuleOf k).missing) : ClosesLoop r r' k n where
  removed := removed
  nackList := fun j other => by rw [beside.other j other]
  recoveredList := fun j other => by rw [beside.other j other]
  newestSeqNum := fun j other => by rw [beside.other j other]

/-- Telling a NACK module of a packet takes it off the list. -/
theorem Beside.telling (r : VideoReceiver) (stream : StreamConfig) (now : Int)
    (m : ReceivedPacket) :
    Telling stream now m (Beside r m.headerPath)
      (fun r' => Beside r m.headerPath r' ∧
        m.headerSeqNum ∉ (r'.nackModuleOf m.headerPath).missing) fun _ => True where
  tell := by
    intro r' isKeyframe isRecovered _ start
    have beside : Beside r m.headerPath r' := start.elim id And.left
    have heard := (beside.watchful m.headerPath).onReceivedPacket stream.nack now m.headerSeqNum
      isKeyframe isRecovered
    refine ⟨⟨beside.watchful.notifyNack m isKeyframe isRecovered, fun j other => ?_⟩, ?_⟩
    · rw [VideoReceiver.notifyNack, nackModuleOf_updateModule, if_neg other]
      exact beside.other j other
    · rw [VideoReceiver.notifyNack, nackModuleOf_updateModule, if_pos Iff.rfl]
      exact heard.2
  send := fun _ after => ⟨⟨⟨after.1.watchful, after.1.other⟩, after.2⟩, trivial⟩
  nothing := trivial
  append := fun _ _ _ _ => trivial

/-- The loop is closed exactly if the packet is told to its NACK module, or was not
missing. -/
theorem onRtpPacket_closesLoop_iff (now : Int) (watchful : r.Watchful)
    (nothing : NothingRecovered answers m) :
    ClosesLoop r (r.onRtpPacket stream now m answers).1 m.headerPath m.headerSeqNum ↔
      Noticed stream answers m ∨ m.headerSeqNum ∉ (r.nackModuleOf m.headerPath).missing := by
  have start : Beside r m.headerPath r := ⟨watchful, fun _ _ => rfl⟩
  by_cases noticed : Noticed stream answers m
  · obtain ⟨⟨beside, removed⟩, -⟩ :=
      (Beside.telling r stream now m).onRtpPacket nothing noticed start
    exact ⟨fun _ => .inl noticed, fun _ => beside.closesLoop removed⟩
  · rw [onRtpPacket_of_not_noticed noticed]
    exact ⟨fun closes => .inr closes.removed,
      fun either => start.closesLoop (either.resolve_left noticed)⟩

end Receiver

section Sender

variable {cfg : SenderConfig} {s : SenderState} {pathid : Nat}

/-- A retransmission of a packet that this history holds. -/
structure ResentFrom (cfg : SenderConfig) (id : Nat) (h : PacketHistory) (numbers : List UInt16)
    (original p : Packet) : Prop where
  holds : h.Holds original
  asked : original.subflowSeq ∈ numbers
  retransmits : Retransmits cfg id original p

theorem ResentFrom.of_holds {id : Nat} {h h' : PacketHistory} {numbers numbers' : List UInt16}
    {original p : Packet} (resent : ResentFrom cfg id h' numbers' original p)
    (holds : ∀ q, h'.Holds q → h.Holds q) (more : numbers' ⊆ numbers) :
    ResentFrom cfg id h numbers original p :=
  ⟨holds original resent.holds, more resent.asked, resent.retransmits⟩

/-- A step of the NACK loop: it queues at most a retransmission of the packet asked for. -/
theorem reSendPacket_queue (cfg : SenderConfig) (ready : Ready s) (packetId : UInt16)
    (pathid : Nat) (admitted : Bool) :
    ∃ added, (reSendPacket cfg s packetId pathid admitted).1.queue = s.queue ++ added ∧
      (∀ p ∈ added, ∃ original, ResentFrom cfg (resendId s.collector pathid) (s.historyOf pathid)
        [packetId] original p) ∧
      ∀ q, ((reSendPacket cfg s packetId pathid admitted).1.historyOf pathid).Holds q →
        (s.historyOf pathid).Holds q := by
  rcases reSendPacket_cases cfg s packetId pathid admitted with
    ⟨queue, histories⟩ | ⟨p, queue, histories, old, original, found, isOriginal, retransmits⟩
  · exact ⟨[], by simpa using queue, by simp, fun q => by rw [histories]; exact id⟩
  · have numbered := (ready pathid).wellFormed.number_of_getStoredPacket found
    have number : original.subflowSeq = packetId := by
      simpa [StoredPacket.number, isOriginal] using numbered
    refine ⟨[p], queue, ?_, fun q holds => ?_⟩
    · rw [List.forall_mem_singleton]
      exact ⟨original, ⟨old, PacketHistory.mem_of_getStoredPacket found, isOriginal⟩,
        by simp [number], retransmits⟩
    · rw [histories, if_pos rfl] at holds
      refine .of_updateStored ?_ holds
      exact fun _ => rfl

/-- What a NACK queues are retransmissions of the packets it asks for. -/
theorem nackLoop_queue (cfg : SenderConfig) (ready : Ready s) (pathid : Nat)
    (numbers : List (UInt16 × Bool)) :
    ∃ added, (nackLoop cfg pathid s numbers).queue = s.queue ++ added ∧
      ∀ p ∈ added, ∃ original, ResentFrom cfg (resendId s.collector pathid) (s.historyOf pathid)
        (numbers.map Prod.fst) original p := by
  induction numbers generalizing s with
  | nil => exact ⟨[], by simp [nackLoop], by simp⟩
  | cons number numbers ih =>
      obtain ⟨added, queue, resent, kept⟩ := reSendPacket_queue cfg ready number.1 pathid number.2
      have collector : (reSendPacket cfg s number.1 pathid number.2).1.collector = s.collector := by
        simp [reSendPacket]
      have first : ∀ p ∈ added, ∃ original, ResentFrom cfg (resendId s.collector pathid)
          (s.historyOf pathid) ((number :: numbers).map Prod.fst) original p := by
        intro p member
        obtain ⟨original, resentFrom⟩ := resent p member
        exact ⟨original, resentFrom.of_holds (fun _ => id) (by simp)⟩
      unfold nackLoop
      dsimp only
      split
      · exact ⟨added, queue, first⟩
      · obtain ⟨more, grows, later⟩ :=
          ih (reSendPacket_moves cfg ready number.1 pathid number.2).ready
        refine ⟨added ++ more, by rw [grows, queue, List.append_assoc],
          List.forall_mem_append.mpr ⟨first, fun p member => ?_⟩⟩
        obtain ⟨original, resentFrom⟩ := later p member
        rw [collector] at resentFrom
        exact ⟨original, resentFrom.of_holds kept (by simp)⟩

/-- The packets that an event adds to the queue. -/
def SenderEvent.queued (cfg : SenderConfig) (s : SenderState) (event : SenderEvent) : List Packet :=
  (senderNext cfg s event).queue.drop s.queue.length

theorem onReceivedNack_queued (ready : Ready s) (numbers : List (UInt16 × Bool)) (avgRtt : Int) :
    ∀ p ∈ (SenderEvent.onReceivedNack numbers avgRtt pathid).queued cfg s, ∃ original,
      ResentFrom cfg (resendId s.collector pathid) (s.historyOf pathid) (numbers.map Prod.fst)
        original p := by
  have noted : Moves cfg s (s.setHistory pathid
      ((s.historyOf pathid).setRtt s.now (5 + avgRtt))) :=
    .of_calm ready pathid (.setRtt s.now (5 + avgRtt))
  obtain ⟨added, grows, resent⟩ := nackLoop_queue cfg noted.ready pathid numbers
  intro p member
  unfold SenderEvent.queued senderNext onReceivedNack at member
  rw [grows, setHistory_queue, List.drop_left] at member
  obtain ⟨original, resentFrom⟩ := resent p member
  rw [historyOf_setHistory, if_pos rfl, setHistory_collector] at resentFrom
  exact ⟨original, resentFrom.of_holds (fun _ => .of_setRtt) (List.Subset.refl _)⟩

end Sender

section Runs

variable {cfg : SenderConfig}

/-- **Recovery closes the loop.** In every run of the sender, whatever a NACK on path `k`
queues is the retransmission of a packet that is stored there under a number the NACK
asks for. Whenever and however it leaves, and whichever connection it arrives on, in
whatever state the receiver is, as long as `DecodeFec` recovers no other packet with it:
the packet is then off the NACK list of path `k` and the other path is not affected,
exactly if the stream tells the NACK module of the stored packet, or it was not missing
any more. -/
theorem retransmission_closes_loop_iff (stream : StreamConfig) (agrees : Agrees cfg stream)
    (c : Collector) (startTransportSeq : UInt16) (numberToStore : Nat)
    (events : List SenderEvent) (admissible : ∀ event ∈ events, event.Admissible cfg)
    (received : List ReceiverEvent) :
    Along (senderStep cfg)
      (fun s event => ∀ numbers avgRtt k, event = .onReceivedNack numbers avgRtt k →
        k = 1 ∨ k = 2 → ∀ p ∈ event.queued cfg s, ∃ original,
          ResentFrom cfg (resendId s.collector k) (s.historyOf k) (numbers.map Prod.fst)
            original p ∧
          (original.ssrc = stream.mediaSsrc → ∀ router c' connection now answers,
            connection = 1 ∨ connection = 2 →
            NothingRecovered answers (seenAgain cfg k original) →
            (ClosesLoop (finalState (receiverStep stream) {} received)
                (deliverRtp stream now (finalState (receiverStep stream) {} received)
                  ((transmit router c' p).arrive connection) answers).1 k original.subflowSeq ↔
              Noticed stream answers (seenAgain cfg k original) ∨
                original.subflowSeq ∉
                  ((finalState (receiverStep stream) {} received).nackModuleOf k).missing)))
      (SenderState.initial c startTransportSeq numberToStore) events := by
  refine (along_of_forall_mem _ admissible).of_invariant Sound senderStep_sound ?_
    (initial_sound c startTransportSeq numberToStore)
  rintro s event sound - numbers avgRtt k rfl path p member
  obtain ⟨original, resentFrom⟩ := onReceivedNack_queued sound.ready numbers avgRtt p member
  refine ⟨original, resentFrom, fun ours router c' connection now answers either nothing => ?_⟩
  obtain ⟨pathId, origin⟩ := resendId_spec s.collector k
  have isPath : originOf (resendId s.collector k) = k := by
    rw [origin]
    rcases path with rfl | rfl <;> rfl
  have room := (sound.ready k).room original resentFrom.holds
  have media := mediaOf_retransmission agrees resentFrom.retransmits room ours either pathId.2
  have header := seenAgain_header cfg k room
  rw [isPath] at media
  rw [deliverRtp, transmit_arrive, media]
  have closes :=
    @onRtpPacket_closesLoop_iff stream _ _ _ now (watchful_of_run stream received) nothing
  rwa [header.1, header.2] at closes

theorem videoSender_agrees (rtx : Bool) : Agrees (videoSender rtx) plainStream := by
  refine ⟨rfl, by decide, fun payloadType rtxPayloadType mapped => ?_⟩
  simp only [videoSender] at mapped
  split at mapped
  · rename_i isVideo
    obtain rfl := Option.some.inj mapped
    rw [isVideo]
    decide
  · simp at mapped

/-- The receiver, after these packets have arrived over connection 2. -/
def receiverAfter (packets : List Packet) : VideoReceiver :=
  finalState (receiverStep plainStream) {} (packets.map fun p => .deliver 0 (p.arrive 2) {})

/-- Three packets are sent on each path, and then path 1 becomes the best one. -/
def lossRun : List SenderEvent :=
  .enqueuePackets (videoFrame 500 [501, 502, 503, 504, 505]) ::
    List.replicate 6 (.pacerSend 0) ++
      [.timePasses 100, .collectorChanged { openRoundRobin with bestPathid := 1 }]

/-- The sender after that, with RTX. -/
def lossState : SenderState :=
  finalState (senderStep (videoSender true)) (.initial openRoundRobin 0 600) lossRun

/-- The receiver got packets 10 and 12 of path 2. -/
def lossReceived : List Packet := [(videoPacket 501).label 2 10, (videoPacket 505).label 2 12]

/-- Packet 11 of path 2 is missing. Its retransmission, by RTX over path 1, closes the
loop. -/
theorem cross_path_retransmission_closes_loop :
    (11 : UInt16) ∈ ((receiverAfter lossReceived).nackModuleOf 2).missing ∧
      ∃ p ∈ (SenderEvent.onReceivedNack [(11, true)] 50 2).queued (videoSender true) lossState,
        p.subflowId = 4 ∧
        ClosesLoop (receiverAfter lossReceived)
          (deliverRtp plainStream 100 (receiverAfter lossReceived)
            ((transmit (.initial 0) openRoundRobin p).arrive 1) {}).1 2 11 := by
  have admissible : ∀ event ∈ lossRun ++ [.onReceivedNack [(11, true)] 50 2],
      event.Admissible (videoSender true) := by
    simp only [lossRun, List.cons_append, List.forall_mem_cons, List.forall_mem_append]
    refine ⟨videoFrame_fresh 500 _, ⟨fun event member => ?_, trivial, trivial, ?_⟩, ?_⟩
    · rw [List.eq_of_mem_replicate member]
      trivial
    · simp
    · exact ⟨trivial, by simp⟩
  have closes := retransmission_closes_loop_iff plainStream (videoSender_agrees true)
    openRoundRobin 0 600 _ admissible (lossReceived.map fun p => .deliver 0 (p.arrive 2) {})
  rw [along_append] at closes
  obtain ⟨p, member, cross⟩ : ∃ p ∈ (SenderEvent.onReceivedNack [(11, true)] 50 2).queued
      (videoSender true) lossState, p.subflowId = 4 := by decide +kernel
  obtain ⟨original, resentFrom, closesIff⟩ := closes.2.1 _ _ 2 rfl (.inr rfl) p member
  have number : original.subflowSeq = 11 := by simpa using resentFrom.asked
  have stored : ∀ q ∈ (lossState.historyOf 2).packets.filterMap (·.packet),
      q.ssrc = 1 ∧ q.payloadType = 96 := by decide +kernel
  obtain ⟨entry, inHistory, isOriginal⟩ := resentFrom.holds
  obtain ⟨ours, isVideo⟩ := stored original (List.mem_filterMap.mpr ⟨entry, inHistory, isOriginal⟩)
  have payloadType : (seenAgain (videoSender true) 2 original).payloadType = 96 := isVideo
  have noticed : Noticed plainStream {} (seenAgain (videoSender true) 2 original) := by
    refine ⟨by rw [payloadType]; decide, ?_⟩
    rw [payloadType, if_neg (by simp [plainStream])]
    exact .inr ⟨rfl, rfl⟩
  refine ⟨by decide +kernel, p, member, cross, ?_⟩
  rw [← number]
  exact (closesIff ours (.initial 0) openRoundRobin 1 100 {} (.inl rfl)
    (.inl rfl)).mpr (.inl noticed)

/-- During start-up with path 2 best, a copy comes between two key frames on path 2. -/
def copyRun : List SenderEvent :=
  [.timePasses 20, .enqueuePackets (keyVideoFrame 100 []), .timePasses 40,
    .enqueuePackets (videoFrame 101 []), .timePasses 60, .enqueuePackets (keyVideoFrame 102 []),
    .pacerSend 0, .pacerSend 0, .pacerSend 0, .pacerSend 0, .timePasses 200]

/-- The sender after that, without RTX. -/
def copyState : SenderState :=
  finalState (senderStep (videoSender false)) (.initial (openWindow 2) 0 600) copyRun

/-- The receiver got the two key frames. -/
def copyReceived : List Packet := [(videoPacket 100).label 2 10, (videoPacket 102).label 2 12]

/-- The copy is asked for and sent again, but arriving it stays on the NACK list. -/
theorem retransmitted_copy_stays_missing :
    ∃ p ∈ (SenderEvent.onReceivedNack [(11, true)] 50 2).queued (videoSender false) copyState,
      RetransmissionOf 2 11 p ∧
      ¬ ClosesLoop (receiverAfter copyReceived)
        (deliverRtp plainStream 200 (receiverAfter copyReceived)
          ((transmit (.initial 0) (openWindow 2) p).arrive 2) {}).1 2 11 := by
  obtain ⟨p, member, fields⟩ : ∃ p ∈ (SenderEvent.onReceivedNack [(11, true)] 50 2).queued
      (videoSender false) copyState,
      (p.packetType = some .kRetransmission ∧ p.retransmittedSequenceNumber = some 11 ∧
        p.subflowSeq = 11 ∧ p.subflowId = 2) ∧
      (11 : UInt16) ∈ ((deliverRtp plainStream 200 (receiverAfter copyReceived)
        ((transmit (.initial 0) (openWindow 2) p).arrive 2) {}).1.nackModuleOf 2).missing := by
    decide +kernel
  obtain ⟨⟨packetType, number, seq, id⟩, stays⟩ := fields
  exact ⟨p, member, ⟨packetType, number, seq, by omega, by rw [id]; rfl⟩,
    fun closes => closes.removed stays⟩

end Runs

end MpWebRtc
