import MpWebRtc.Receiver.Redundant
import MpWebRtc.Router
import MpWebRtc.Sender.Numbering
import MpWebRtc.Sender.Provenance

/-!
# From the splitter to the NACK modules

A copy takes a number of its path, and the receiver drops it before a NACK module
hears of it. So between two media packets of a path a copy looks like a loss. This
file connects the numbering of the sender with the bookkeeping of the receiver: as
long as on each path the copies come before the first media packet or after the last,
a delivery without loss leaves both NACK lists empty.
-/

namespace MpWebRtc

open Math Math.Run

/-- The collector a call sees. -/
def SendCall.collector : SendCall → Collector
  | .sendToNetwork c _ _ => c
  | .enqueuePackets c _ _ => c

/-- Under redundant scheduling a packet is sent over both connections, otherwise over
that of the path it travels on. -/
def SendCall.carriedOn (call : SendCall) (k : Nat) (p : Packet) : Bool :=
  call.collector.redScheduling || travelPath call.collector p == k

/-- What one call sends over connection `k`. -/
def carryStep (k : Nat) (s : RtpSender) (call : SendCall) : RtpSender × List ReceivedPacket :=
  ((sendStep s call).1, ((sendStep s call).2.filter (call.carriedOn k)).map (·.arrive k))

/-- What a run of calls sends over connection `k`. -/
def sentOver (s : RtpSender) (calls : List SendCall) (k : Nat) : List ReceivedPacket :=
  outputs (carryStep k) s calls

theorem finalState_carryStep (k : Nat) (s : RtpSender) (calls : List SendCall) :
    finalState (carryStep k) s calls = finalState sendStep s calls := by
  induction calls generalizing s with
  | nil => rfl
  | cons call calls ih => exact ih _

theorem sentOver_append (k : Nat) (s : RtpSender) (earlier later : List SendCall) :
    sentOver s (earlier ++ later) k =
      sentOver s earlier k ++ sentOver (finalState sendStep s earlier) later k := by
  rw [sentOver, outputs_append, finalState_carryStep]
  rfl

/-- A packet of the stream that the receiver accepts on whichever path it comes. A FlexFEC
packet is none: it has an SSRC of its own, and is numbered on a path all the same. -/
structure StreamMedia (cfg : StreamConfig) (p : Packet) : Prop where
  carriesPath : p.CarriesPath
  media : p.ssrc = cfg.mediaSsrc
  notRtx : p.ssrc ≠ cfg.rtxSsrc
  notCopy : p.payloadType ≠ kDupPayloadType

/-- The call splits a frame of the stream while the second path is open. -/
def SendCall.OpenFrame (cfg : StreamConfig) : SendCall → Prop
  | .sendToNetwork _ _ _ => False
  | .enqueuePackets c _ frame =>
      c.mpIsSecondPathOpen ∧ ∀ p ∈ frame.packets, StreamMedia cfg p

/-- Every packet of the call gets a path. -/
def SendCall.Covers (s : RtpSender) : SendCall → Prop
  | .sendToNetwork _ _ _ => True
  | .enqueuePackets c now frame =>
      MpWebRtc.Covers c now s (frame.packets.any (·.isKeyFrame)) (frame.stamped now).packets.length

instance (s : RtpSender) : (call : SendCall) → Decidable (call.Covers s)
  | .sendToNetwork _ _ _ => .isTrue trivial
  | .enqueuePackets c now _ => inferInstanceAs (Decidable (MpWebRtc.Covers c now s _ _))

/-- The call may send media on path `k`. -/
def SendCall.MediaOn (k : Nat) (s : RtpSender) : SendCall → Prop
  | .sendToNetwork _ _ _ => k = 1
  | .enqueuePackets c now frame =>
      MpWebRtc.MediaOn c now s (frame.stamped now).packets (frame.packets.any (·.isKeyFrame)) k

/-- The call sends copies on path `k`. -/
def SendCall.CopiesOn (k : Nat) (s : RtpSender) : SendCall → Prop
  | .sendToNetwork _ _ _ => False
  | .enqueuePackets c now frame =>
      MpWebRtc.CopiesOn c now s (frame.stamped now).packets (frame.packets.any (·.isKeyFrame)) k

instance (k : Nat) (s : RtpSender) : (call : SendCall) → Decidable (call.MediaOn k s)
  | .sendToNetwork _ _ _ => inferInstanceAs (Decidable (k = 1))
  | .enqueuePackets c now _ => inferInstanceAs (Decidable (MpWebRtc.MediaOn c now s _ _ k))

instance (k : Nat) (s : RtpSender) : (call : SendCall) → Decidable (call.CopiesOn k s)
  | .sendToNetwork _ _ _ => .isFalse id
  | .enqueuePackets c now _ => inferInstanceAs (Decidable (MpWebRtc.CopiesOn c now s _ _ k))

section Call

variable {cfg : StreamConfig} {k : Nat} {s : RtpSender} {call : SendCall} {p : Packet}

theorem streamMedia_stamped (now : Int) (media : StreamMedia cfg p) :
    StreamMedia cfg (stampCaptureTime now p) := by
  unfold stampCaptureTime
  split
  · exact ⟨media.carriesPath, media.media, media.notRtx, media.notCopy⟩
  · exact media

theorem StreamMedia.sentOn (media : StreamMedia cfg p) (seq : UInt16) :
    SentOn cfg k ((p.label k seq).arrive k) := by
  obtain ⟨old, room⟩ := Option.isSome_iff_exists.mp media.carriesPath.1
  refine ⟨rfl, by simp [ReceivedPacket.headerPath, Packet.arrive, room], fun _ => ?_⟩
  exact ⟨media.media, media.notRtx, rfl⟩

theorem StreamMedia.headerSeqNum {p : Packet} (media : StreamMedia cfg p) (id : Nat)
    (seq : UInt16) : ((p.label id seq).arrive k).headerSeqNum = seq := by
  obtain ⟨old, room⟩ := Option.isSome_iff_exists.mp media.carriesPath.2
  simp [ReceivedPacket.headerSeqNum, Packet.arrive, room]

theorem travelPath_of_label {c : Collector} (isOpen : c.mpIsSecondPathOpen)
    (path : p.subflowId = 1 ∨ p.subflowId = 2) : travelPath c p = p.subflowId := by
  rcases path with one | two
  · simp [travelPath, one]
  · simp [travelPath, two, isOpen]

/-- What an open call hands over once every packet has a path: labelled originals, and
labelled copies. -/
inductive Handed (cfg : StreamConfig) (k : Nat) (s : RtpSender) (call : SendCall) (q : Packet) :
    Prop
  | original (p : Packet) (id : Nat) (seq : UInt16) (media : StreamMedia cfg p)
      (path : id = 1 ∨ id = 2) (labelled : q = p.label id seq)
      (allowed : id = k → call.MediaOn k s)
  | copy (path : q.subflowId = 1 ∨ q.subflowId = 2) (isCopy : q.IsCopy)
      (allowed : q.subflowId = k → call.CopiesOn k s)

theorem handed_of_openFrame (path : k = 1 ∨ k = 2) (openFrame : call.OpenFrame cfg)
    (covers : call.Covers s) : ∀ q ∈ (sendStep s call).2, Handed cfg k s call q := by
  cases call with
  | sendToNetwork => exact openFrame.elim
  | enqueuePackets c now frame =>
      intro q member
      have routed := (split_routed_iff c now s (frame.stamped now) _).mpr covers q member
      rcases List.mem_append.mp member with isOriginal | isCopy
      · obtain ⟨p, inFrame, labelled⟩ := split_original isOriginal
        obtain ⟨raw, inRaw, rfl⟩ := List.mem_map.mp inFrame
        have media := streamMedia_stamped now (openFrame.2 raw inRaw)
        rcases labelled with rfl | ⟨id, seq, isPath, rfl⟩
        · have unassigned := (frame.stamped now).unassigned _ inFrame
          rcases routed.1 with one | two <;> simp_all
        · refine .original _ id seq media isPath rfl ?_
          rintro rfl
          by_contra avoided
          exact split_packets_avoid (frame.stamped now) path avoided _ isOriginal rfl
      · refine .copy routed.1 (split_copy isCopy) ?_
        rintro same
        by_contra avoided
        exact split_copies_avoid avoided q isCopy same

/-- Outside redundant scheduling an open call sends a packet over the connection of
its label. -/
theorem Handed.carriedOn_iff {q : Packet} (handed : Handed cfg k s call q)
    (openFrame : call.OpenFrame cfg) (notRed : ¬ call.collector.redScheduling) (i : Nat) :
    call.carriedOn i q ↔ q.subflowId = i := by
  have isOpen : call.collector.mpIsSecondPathOpen := by
    cases call with
    | sendToNetwork => exact openFrame.elim
    | enqueuePackets => exact openFrame.1
  have path : q.subflowId = 1 ∨ q.subflowId = 2 := by
    cases handed with
    | original p id seq media path labelled allowed => rwa [labelled]
    | copy path isCopy allowed => exact path
  simp [SendCall.carriedOn, notRed, travelPath_of_label isOpen path]

theorem Handed.sentOn {q : Packet} (handed : Handed cfg k s call q) (same : q.subflowId = k) :
    SentOn cfg k (q.arrive k) := by
  cases handed with
  | original p id seq media path labelled allowed =>
      subst labelled
      rw [show k = id from same.symm]
      exact media.sentOn seq
  | copy path isCopy allowed => exact ⟨rfl, fun media => absurd isCopy media,
      fun media => absurd isCopy media⟩

/-- A call without media on path `k` sends only copies over connection `k`. -/
theorem carryStep_copies (path : k = 1 ∨ k = 2) (openFrame : call.OpenFrame cfg)
    (notRed : ¬ call.collector.redScheduling) (covers : call.Covers s)
    (noMedia : ¬ call.MediaOn k s) :
    ∀ p ∈ (carryStep k s call).2, p.payloadType = kDupPayloadType := by
  intro p member
  obtain ⟨q, carried, rfl⟩ := List.mem_map.mp member
  obtain ⟨inCall, carried⟩ := List.mem_filter.mp carried
  have handed := handed_of_openFrame path openFrame covers q inCall
  have same := (handed.carriedOn_iff openFrame notRed k).mp carried
  cases handed with
  | original p id seq media path labelled allowed =>
      subst labelled
      exact absurd (allowed same) noMedia
  | copy path isCopy allowed => exact isCopy

/-- A call without copies on path `k` sends the numbers of path `k` as media. -/
theorem carryStep_media (path : k = 1 ∨ k = 2) (openFrame : call.OpenFrame cfg)
    (notRed : ¬ call.collector.redScheduling) (covers : call.Covers s)
    (noCopies : ¬ call.CopiesOn k s) :
    mediaNumbers (carryStep k s call).2 = numbersOn k (sendStep s call).2 := by
  have handed := handed_of_openFrame path openFrame covers
  unfold carryStep mediaNumbers numbersOn
  generalize (sendStep s call).2 = packets at handed
  induction packets with
  | nil => rfl
  | cons q packets ih =>
      rw [List.forall_mem_cons] at handed
      specialize ih handed.2
      have carried := handed.1.carriedOn_iff openFrame notRed k
      by_cases same : q.subflowId = k
      · cases handed.1 with
        | original p id seq media path labelled allowed =>
            subst labelled
            have isMedia : ((p.label id seq).arrive k).payloadType ≠ kDupPayloadType :=
              media.notCopy
            rw [List.filter_cons_of_pos (carried.mpr same), List.map_cons,
              List.filter_cons_of_pos (by simpa using isMedia), List.map_cons, ih,
              List.filterMap_cons_some (numberOn_label k id p seq ▸ if_pos same),
              media.headerSeqNum]
        | copy path isCopy allowed => exact absurd (allowed same) noCopies
      · have unnumbered : numberOn k q = none := if_neg same
        rw [List.filter_cons_of_neg (fun is => same (carried.mp is)), ih,
          List.filterMap_cons_none unnumbered]

theorem carryStep_sentOn (path : k = 1 ∨ k = 2) (openFrame : call.OpenFrame cfg)
    (notRed : ¬ call.collector.redScheduling) (covers : call.Covers s) :
    ∀ p ∈ (carryStep k s call).2, SentOn cfg k p := by
  intro p member
  obtain ⟨q, carried, rfl⟩ := List.mem_map.mp member
  obtain ⟨inCall, carried⟩ := List.mem_filter.mp carried
  have handed := handed_of_openFrame path openFrame covers q inCall
  exact handed.sentOn ((handed.carriedOn_iff openFrame notRed k).mp carried)

end Call

section Runs

variable {cfg : StreamConfig} {k : Nat} {s : RtpSender} {calls : List SendCall}

/-- On path `k`, copies come only before the first media packet or after the last. -/
def CopiesApart (k : Nat) (s : RtpSender) (calls : List SendCall) : Prop :=
  ∃ before during after, calls = before ++ during ++ after ∧
    Along sendStep (fun s call => ¬ call.MediaOn k s) s before ∧
    Along sendStep (fun s call => ¬ call.CopiesOn k s) (finalState sendStep s before) during ∧
    Along sendStep (fun s call => ¬ call.MediaOn k s)
      (finalState sendStep s (before ++ during)) after

/-- The calls number by the counters of the paths, label everything, and keep copies
apart from media. -/
structure CounterNumbered (s : RtpSender) (calls : List SendCall) : Prop where
  notRed : ∀ call ∈ calls, ¬ call.collector.redScheduling
  covers : Along sendStep (fun s call => call.Covers s) s calls
  copiesApart : ∀ k, k = 1 ∨ k = 2 → CopiesApart k s calls

/-- A call that the single-call lemmas apply to. -/
def SendCall.Plain (cfg : StreamConfig) (s : RtpSender) (call : SendCall) : Prop :=
  call.OpenFrame cfg ∧ ¬ call.collector.redScheduling ∧ call.Covers s

theorem CounterNumbered.plain (numbered : CounterNumbered s calls)
    (openFrames : ∀ call ∈ calls, call.OpenFrame cfg) :
    Along sendStep (fun s call => call.Plain cfg s) s calls :=
  (along_of_forall_mem s openFrames).and
    ((along_of_forall_mem s numbered.notRed).and numbered.covers)

theorem mediaNumbers_append (earlier later : List ReceivedPacket) :
    mediaNumbers (earlier ++ later) = mediaNumbers earlier ++ mediaNumbers later := by
  simp [mediaNumbers]

theorem sentOver_sentOn (path : k = 1 ∨ k = 2)
    (plain : Along sendStep (fun s call => call.Plain cfg s) s calls) :
    ∀ p ∈ sentOver s calls k, SentOn cfg k p := by
  induction calls generalizing s with
  | nil => simp [sentOver]
  | cons call calls ih =>
      obtain ⟨⟨openFrame, notRed, covers⟩, later⟩ := plain
      exact List.forall_mem_append.mpr ⟨carryStep_sentOn path openFrame notRed covers, ih later⟩

theorem sentOver_copies (path : k = 1 ∨ k = 2)
    (plain : Along sendStep (fun s call => call.Plain cfg s) s calls)
    (noMedia : Along sendStep (fun s call => ¬ call.MediaOn k s) s calls) :
    mediaNumbers (sentOver s calls k) = [] := by
  induction calls generalizing s with
  | nil => rfl
  | cons call calls ih =>
      obtain ⟨⟨openFrame, notRed, covers⟩, later⟩ := plain
      have copies := carryStep_copies path openFrame notRed covers noMedia.1
      have none : mediaNumbers (carryStep k s call).2 = [] := by
        simpa [mediaNumbers] using copies
      rw [sentOver, outputs_cons, mediaNumbers_append, none, List.nil_append]
      exact ih later noMedia.2

theorem sentOver_media (path : k = 1 ∨ k = 2)
    (plain : Along sendStep (fun s call => call.Plain cfg s) s calls)
    (noCopies : Along sendStep (fun s call => ¬ call.CopiesOn k s) s calls) :
    mediaNumbers (sentOver s calls k) = numbersOn k (outputs sendStep s calls) := by
  induction calls generalizing s with
  | nil => rfl
  | cons call calls ih =>
      obtain ⟨⟨openFrame, notRed, covers⟩, later⟩ := plain
      rw [sentOver, outputs_cons, mediaNumbers_append, outputs_cons, numbersOn_append,
        carryStep_media path openFrame notRed covers noCopies.1]
      exact congrArg _ (ih later noCopies.2)

theorem SendCall.Plain.keepsCounter {call : SendCall} (plain : call.Plain cfg s) :
    call.KeepsCounter s := by
  obtain ⟨openFrame, notRed, -⟩ := plain
  cases call with
  | sendToNetwork => trivial
  | enqueuePackets c now frame =>
      refine ⟨fun branch => notRed ?_, fun closed => absurd openFrame.1 closed⟩
      unfold splitBranch at branch
      split_ifs at branch with window key start full1 full2 red
      exact red

theorem numbersOn_isChain (path : k = 1 ∨ k = 2)
    (plain : Along sendStep (fun s call => call.Plain cfg s) s calls) :
    (numbersOn k (outputs sendStep s calls)).IsChain fun earlier later => later = earlier + 1 := by
  rcases path with rfl | rfl
  · exact (run_counts_primary s calls (plain.mono fun _ _ plain => plain.keepsCounter)).isChain
  · exact (run_counts_secondary s calls).isChain

/-- Media numbers are consecutive on a path whose copies are kept apart. -/
theorem sentOver_isChain (path : k = 1 ∨ k = 2)
    (plain : Along sendStep (fun s call => call.Plain cfg s) s calls)
    (apart : CopiesApart k s calls) :
    (mediaNumbers (sentOver s calls k)).IsChain fun earlier later => later = earlier + 1 := by
  obtain ⟨before, during, after, rfl, silentBefore, noCopies, silentAfter⟩ := apart
  rw [along_append, along_append] at plain
  obtain ⟨⟨plainBefore, plainDuring⟩, plainAfter⟩ := plain
  rw [sentOver_append, sentOver_append, mediaNumbers_append, mediaNumbers_append,
    sentOver_copies path plainBefore silentBefore, sentOver_copies path plainAfter silentAfter,
    sentOver_media path plainDuring noCopies, List.nil_append, List.append_nil]
  exact numbersOn_isChain path plainDuring

theorem CounterNumbered.pending (numbered : CounterNumbered s calls)
    (openFrames : ∀ call ∈ calls, call.OpenFrame cfg) :
    Pending cfg (fun _ => none) (sentOver s calls) := by
  have plain := numbered.plain openFrames
  exact ⟨fun k path => sentOver_sentOn path plain,
    fun k path => sentOver_isChain path plain (numbered.copiesApart k path)⟩

end Runs

section Redundant

variable {cfg : StreamConfig} {s : RtpSender} {call : SendCall} {calls : List SendCall}

/-- The calls use the redundant scheduler throughout, on consecutive RTP sequence
numbers. -/
structure RedundantNumbered (calls : List SendCall) : Prop where
  redundant : ∀ call ∈ calls,
    call.collector.redScheduling ∧ ¬ call.collector.windowScheduling
  consecutive : Consecutive (calls.flatMap SendCall.rtpNumbers)

/-- What a redundant call sends over connection `k`. -/
theorem carryStep_redundant {c : Collector} {now : Int} {frame : Frame}
    (red : c.redScheduling ∧ ¬ c.windowScheduling) (k : Nat) :
    (carryStep k s (.enqueuePackets c now frame)).2 =
      (frame.stamped now).packets.map fun p => (p.label 1 p.sequenceNumber).arrive k := by
  have both : (SendCall.enqueuePackets c now frame).carriedOn k = fun _ => true := by
    funext p
    simp [SendCall.carriedOn, SendCall.collector, red.1]
  simp [carryStep, sendStep, enqueuePackets, mpTrafficSplitImplementation, splitBranch, red,
    splitRedundant, Split.handed, both, Frame.stamped]

theorem sentOver_redundant (openFrames : ∀ call ∈ calls, call.OpenFrame cfg)
    (numbered : ∀ call ∈ calls, call.collector.redScheduling ∧ ¬ call.collector.windowScheduling)
    (k : Nat) : sentOver s calls k = (sentOver s calls 1).map (·.over k) := by
  induction calls generalizing s with
  | nil => rfl
  | cons call calls ih =>
      rw [List.forall_mem_cons] at openFrames numbered
      unfold sentOver at ih ⊢
      rw [outputs_cons, outputs_cons, List.map_append]
      refine congrArg₂ _ ?_ (ih openFrames.2 numbered.2)
      cases call with
      | sendToNetwork => exact openFrames.1.elim
      | enqueuePackets c now frame =>
          rw [carryStep_redundant (c := c) numbered.1, carryStep_redundant (c := c) numbered.1,
            List.map_map]
          rfl

/-- A packet that a redundant call sends over connection 1. -/
theorem carryStep_redundant_packet (openFrame : call.OpenFrame cfg)
    (red : call.collector.redScheduling ∧ ¬ call.collector.windowScheduling)
    {p : ReceivedPacket} (member : p ∈ (carryStep 1 s call).2) :
    Accepted cfg p ∧ p.payloadType ≠ kDupPayloadType ∧ p.pathid = 1 ∧ p.sandy = some 1 := by
  cases call with
  | sendToNetwork => exact openFrame.elim
  | enqueuePackets c now frame =>
      rw [carryStep_redundant (c := c) red] at member
      obtain ⟨q, inFrame, rfl⟩ := List.mem_map.mp member
      obtain ⟨raw, inRaw, rfl⟩ := List.mem_map.mp inFrame
      have media := streamMedia_stamped now (openFrame.2 raw inRaw)
      have sent := media.sentOn (k := 1) (stampCaptureTime now raw).sequenceNumber
      obtain ⟨old, room⟩ := Option.isSome_iff_exists.mp media.carriesPath.1
      exact ⟨sent.accepted media.notCopy, media.notCopy, rfl, by simp [Packet.arrive, room]⟩

theorem carryStep_redundant_numbers (openFrame : call.OpenFrame cfg)
    (red : call.collector.redScheduling ∧ ¬ call.collector.windowScheduling) :
    (carryStep 1 s call).2.map (·.headerSeqNum) = call.rtpNumbers := by
  cases call with
  | sendToNetwork => exact openFrame.elim
  | enqueuePackets c now frame =>
      rw [carryStep_redundant (c := c) red, SendCall.rtpNumbers, if_pos openFrame.1,
        List.map_map, Frame.stamped, List.map_map]
      refine List.map_congr_left fun raw inRaw => ?_
      have media := streamMedia_stamped now (openFrame.2 raw inRaw)
      exact (media.headerSeqNum 1 _).trans (stampCaptureTime_sequenceNumber now raw)

theorem RedundantNumbered.stream (numbered : RedundantNumbered calls)
    (openFrames : ∀ call ∈ calls, call.OpenFrame cfg) :
    RedundantStream cfg (sentOver s calls 1) := by
  have packets : ∀ p ∈ sentOver s calls 1, Accepted cfg p ∧ p.payloadType ≠ kDupPayloadType ∧
      p.pathid = 1 ∧ p.sandy = some 1 := by
    intro p member
    obtain ⟨current, call, inRun, emitted⟩ := mem_outputs member
    exact carryStep_redundant_packet (openFrames call inRun) (numbered.redundant call inRun) emitted
  have numbers : (sentOver s calls 1).map (·.headerSeqNum) = calls.flatMap SendCall.rtpNumbers := by
    have redundant := numbered.redundant
    clear numbered packets
    induction calls generalizing s with
    | nil => rfl
    | cons call calls ih =>
        rw [List.forall_mem_cons] at openFrames redundant
        rw [sentOver, outputs_cons, List.map_append, List.flatMap_cons,
          carryStep_redundant_numbers openFrames.1 redundant.1]
        exact congrArg _ (ih openFrames.2 redundant.2)
  exact ⟨fun p member => (packets p member).1, fun p member => (packets p member).2.1,
    fun p member => (packets p member).2.2.1, fun p member => (packets p member).2.2.2,
    numbers ▸ numbered.consecutive⟩

end Redundant

section NoSpuriousNack

variable (s : RtpSender)

/-- The sender numbers and the connections deliver in a way that leaves no gap: either
by the path counters, with copies apart from media, or redundantly with little skew. -/
def LeavesNoGap (calls : List SendCall) (events : List ReceiverEvent) : Prop :=
  CounterNumbered s calls ∨ (RedundantNumbered calls ∧ SmallSkew events)

theorem quiet_of_leavesNoGap (cfg : StreamConfig) (s : RtpSender) (calls : List SendCall)
    (events : List ReceiverEvent) (openFrames : ∀ call ∈ calls, call.OpenFrame cfg)
    (noGap : LeavesNoGap s calls events) (delivery : InOrderDelivery (sentOver s calls) events)
    (read : ∀ event ∈ events, event.Read cfg) :
    (∃ latest, (finalState (receiverStep cfg) {} events).Quiet latest) ∧
      outputs (receiverStep cfg) {} events = [] := by
  rcases noGap with numbered | ⟨numbered, skew⟩
  · refine quiet_of_inOrderDelivery _ events delivery read (numbered.pending openFrames) ?_
    exact ⟨⟨rfl, rfl, by simp⟩, ⟨rfl, rfl, by simp⟩, rfl, rfl, rfl⟩
  · rw [show sentOver s calls = fun k => (sentOver s calls 1).map (·.over k) from
      funext (sentOver_redundant openFrames numbered.redundant)] at delivery
    obtain ⟨quiet, nothing⟩ :=
      quiet_of_redundantDelivery (numbered.stream openFrames) events delivery read skew
    exact ⟨⟨_, quiet⟩, nothing⟩

theorem LeavesNoGap.of_append {s : RtpSender} {calls : List SendCall}
    {earlier later : List ReceiverEvent} (noGap : LeavesNoGap s calls (earlier ++ later)) :
    LeavesNoGap s calls earlier :=
  noGap.imp id (And.imp id SmallSkew.of_append)

/-- **No spurious NACK.** Frames are split with the second path open, each connection
delivers what was sent over it, in order and without loss, the parsers accept it, and
nothing is recovered by FEC before it arrives. If the numbering leaves no gap, then at
every point both NACK lists are empty and neither a NACK nor a key-frame request has been
sent. -/
theorem lossless_delivery_sends_no_feedback (cfg : StreamConfig) (s : RtpSender)
    (calls : List SendCall) (events : List ReceiverEvent)
    (openFrames : ∀ call ∈ calls, call.OpenFrame cfg) (noGap : LeavesNoGap s calls events)
    (delivery : InOrderDelivery (sentOver s calls) events)
    (read : ∀ event ∈ events, event.Read cfg) :
    ∀ earlier later, events = earlier ++ later →
      (finalState (receiverStep cfg) {} earlier).nackModule.nackList = [] ∧
        (finalState (receiverStep cfg) {} earlier).nackModuleS.nackList = [] ∧
        outputs (receiverStep cfg) {} earlier = [] := by
  rintro earlier later rfl
  obtain ⟨⟨latest, quiet⟩, nothing⟩ :=
    quiet_of_leavesNoGap cfg s calls earlier openFrames noGap.of_append delivery.of_append
      fun event member => read event (List.mem_append_left _ member)
  exact ⟨quiet.primary.nackList, quiet.secondary.nackList, nothing⟩

/-- A stream of video packets whose payloads always parse. -/
def plainStream : StreamConfig where
  mediaSsrc := 1
  rtxSsrc := 2
  redPayloadType := 127
  ulpfecPayloadType := 126
  associatedPayloadTypes := fun payloadType => if payloadType = 97 then some 96 else none
  depacketize := fun _ payload => some ⟨payload, true, true⟩

/-- A key frame of video packets with these RTP sequence numbers. -/
def keyVideoFrame (first : UInt16) (rest : List UInt16) : Frame where
  packets := (first :: rest).map fun seq => { videoPacket seq with isKeyFrame := true }
  nonempty := by simp
  unassigned := by simp [videoPacket]

theorem videoFrame_openFrame {c : Collector} (isOpen : c.mpIsSecondPathOpen) (now : Int)
    (first : UInt16) (rest : List UInt16) :
    (SendCall.enqueuePackets c now (videoFrame first rest)).OpenFrame plainStream ∧
      (SendCall.enqueuePackets c now (keyVideoFrame first rest)).OpenFrame plainStream := by
  refine ⟨⟨isOpen, fun p member => ?_⟩, ⟨isOpen, fun p member => ?_⟩⟩
  all_goals
    obtain ⟨seq, -, rfl⟩ := List.mem_map.mp member
    exact ⟨⟨rfl, rfl⟩, rfl, by simp [plainStream, videoPacket],
      by simp [kDupPayloadType, videoPacket]⟩

/-- First everything that was sent over connection 1 arrives, then everything that was
sent over connection 2. -/
def firstThenSecond (sent : Nat → List ReceivedPacket) : List ReceiverEvent :=
  (sent 1 ++ sent 2).map fun p => .deliver 0 p {}

theorem arrivedOn_deliveries (k : Nat) (packets : List ReceivedPacket) :
    arrivedOn k (packets.map fun p => .deliver 0 p {}) = packets.filter (·.pathid = k) := by
  rw [arrivedOn, List.filterMap_map, ← List.filterMap_eq_filter]
  refine List.filterMap_congr fun p _ => ?_
  by_cases same : p.pathid = k <;> simp [Option.guard, same]

variable (calls : List SendCall)

theorem sentOver_pathid (k : Nat) : ∀ p ∈ sentOver s calls k, p.pathid = k := by
  apply forall_outputs
  intro s call p member
  obtain ⟨q, -, rfl⟩ := List.mem_map.mp member
  rfl

theorem firstThenSecond_inOrder :
    InOrderDelivery (sentOver s calls) (firstThenSecond (sentOver s calls)) := by
  have first := sentOver_pathid s calls 1
  have second := sentOver_pathid s calls 2
  constructor
  · intro now p answers member
    obtain ⟨q, sent, same⟩ := List.mem_map.mp member
    obtain ⟨-, rfl, -⟩ := ReceiverEvent.deliver.inj same
    rcases List.mem_append.mp sent with one | two
    · exact .inl (first q one)
    · exact .inr (second q two)
  · intro k
    rw [firstThenSecond, arrivedOn_deliveries, List.filter_append]
    rcases eq_or_ne k 1 with rfl | notFirst
    · rw [List.filter_eq_self.mpr (by simpa using first),
        List.filter_eq_nil_iff.mpr (fun p member => by simp [second p member]), List.append_nil]
    · rw [List.filter_eq_nil_iff.mpr (fun p member => by simp [first p member, notFirst.symm]),
        List.nil_append]
      rcases eq_or_ne k 2 with rfl | notSecond
      · rw [List.filter_eq_self.mpr (by simpa using second)]
      · rw [List.filter_eq_nil_iff.mpr (fun p member => by simp [second p member, notSecond.symm])]
        exact List.nil_prefix

/-- Packets that are not encapsulated are read by the plain stream. -/
theorem firstThenSecond_read {sent : Nat → List ReceivedPacket}
    (notRed : ∀ p ∈ sent 1 ++ sent 2, p.payloadType ≠ 127) :
    ∀ event ∈ firstThenSecond sent, event.Read plainStream := by
  intro event member
  obtain ⟨p, isSent, rfl⟩ := List.mem_map.mp member
  have same : (resolvePath p).payloadType = p.payloadType := by
    unfold resolvePath
    split_ifs <;> rfl
  have plain : (resolvePath p).payloadType ≠ plainStream.redPayloadType := by
    rw [same]
    exact notRed p isSent
  intro notCopy
  refine ⟨⟨by rwa [same], ?_⟩, .inr rfl⟩
  rw [if_neg (fun red => plain red.2)]
  exact .inr ⟨rfl, rfl⟩

variable (bestPathid : Int)

/-- The window scheduler during start-up. -/
def openWindow : Collector :=
  { Collector.initial 0 0 with mpSecondPath := 1, bestPathid := bestPathid, scheduler := "window" }

/-- A key frame and an ordinary frame during start-up, by the best path. -/
def startUpCalls : List SendCall :=
  [.enqueuePackets (openWindow bestPathid) 20 (keyVideoFrame 100 []),
    .enqueuePackets (openWindow bestPathid) 40 (videoFrame 101 []),
    .enqueuePackets (openWindow bestPathid) 60 (keyVideoFrame 102 [])]

theorem startUpCalls_openFrame : ∀ call ∈ startUpCalls bestPathid, call.OpenFrame plainStream := by
  simp only [startUpCalls, List.forall_mem_cons, List.not_mem_nil, false_implies, implies_true,
    and_true]
  exact ⟨(videoFrame_openFrame rfl _ _ _).2, (videoFrame_openFrame rfl _ _ _).1,
    (videoFrame_openFrame rfl _ _ _).2⟩

/-- With path 1 best, start-up copies have path 2 to themselves. -/
theorem startUp_copies_alone_send_no_feedback :
    (finalState (receiverStep plainStream) {}
        (firstThenSecond (sentOver {} (startUpCalls 1)))).nackModule.nackList = [] ∧
      (finalState (receiverStep plainStream) {}
        (firstThenSecond (sentOver {} (startUpCalls 1)))).nackModuleS.nackList = [] ∧
      outputs (receiverStep plainStream) {} (firstThenSecond (sentOver {} (startUpCalls 1))) =
        [] := by
  have noGap : LeavesNoGap {} (startUpCalls 1) (firstThenSecond (sentOver {} (startUpCalls 1))) := by
    refine .inl ⟨by decide +kernel, by decide +kernel, ?_⟩
    rintro k (rfl | rfl)
    · exact ⟨[], startUpCalls 1, [], by simp, trivial, by decide +kernel, trivial⟩
    · exact ⟨startUpCalls 1, [], [], by simp, by decide +kernel, trivial, trivial⟩
  exact lossless_delivery_sends_no_feedback plainStream {} (startUpCalls 1) _
    (startUpCalls_openFrame 1) noGap (firstThenSecond_inOrder _ _)
    (firstThenSecond_read (by decide +kernel)) _ [] (List.append_nil _).symm

/-- With path 2 best, a start-up copy comes between two key frames on path 2. The
receiver sees the frames in order and asks for the copy. -/
theorem startUp_copy_between_key_frames_is_nacked :
    (∀ call ∈ startUpCalls 2, call.OpenFrame plainStream) ∧
      InOrderDelivery (sentOver {} (startUpCalls 2))
        (firstThenSecond (sentOver {} (startUpCalls 2))) ∧
      (∀ event ∈ firstThenSecond (sentOver {} (startUpCalls 2)), event.Read plainStream) ∧
      ((finalState (receiverStep plainStream) {}
        (firstThenSecond (sentOver {} (startUpCalls 2)))).nackModuleS.nackList.map
          (·.seqNum)) = [11] ∧
      outputs (receiverStep plainStream) {} (firstThenSecond (sentOver {} (startUpCalls 2))) =
        [.nack 2 [11]] :=
  ⟨startUpCalls_openFrame 2, firstThenSecond_inOrder _ _, firstThenSecond_read (by decide +kernel),
    by decide +kernel, by decide +kernel⟩

end NoSpuriousNack

end MpWebRtc
