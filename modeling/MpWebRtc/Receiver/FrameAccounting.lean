import MpWebRtc.Receiver.PathAsymmetry

/-!
# The packets of a frame

The counters of a frame are reset when a delta frame is closed, and not at the end of a key frame
or of a frame that could not be assembled. A delta frame that the packet buffer hands out together
with such a frame before it is therefore closed with the packets of both, and one that follows a
closed frame, or comes first, with its own.
-/

namespace MpWebRtc

open Math.Checked VideoCoding

/-- The packets of one frame, as the packet buffer hands them out. -/
structure ReceivedFrame where
  body : List InsertedPacket := []
  last : InsertedPacket
  first : ∀ packet ∈ (body ++ [last]).head?, packet.isFirstPacketInFrame = true
  notFirst : ∀ packet ∈ (body ++ [last]).tail, packet.isFirstPacketInFrame = false
  isLast : last.isLastPacketInFrame = true
  notLast : ∀ packet ∈ body, packet.isLastPacketInFrame = false

namespace ReceivedFrame

def packets (frame : ReceivedFrame) : List InsertedPacket := frame.body ++ [frame.last]

/-- A delta frame that is assembled while the paths are compared. -/
def Closes (assembles : List InsertedPacket → Bool) (c : ReceiverCollector)
    (frame : ReceivedFrame) : Prop :=
  assembles frame.packets = true ∧ c.comparesPaths = true ∧
    frame.last.frameType ≠ .kVideoFrameKey

end ReceivedFrame

/-- One call of `OnInsertedPacket`: the collector as it is then, and the frames that are handed
out. -/
structure InsertCall where
  collector : ReceiverCollector
  frames : List ReceivedFrame
  bufferCleared : Bool := false

section Counters

variable (account : PathAccount)

theorem length_count (packet : InsertedPacket) :
    (account.count packet).primaryPacket + (account.count packet).secondaryPacket =
      account.primaryPacket + account.secondaryPacket + 1 := by
  unfold PathAccount.count
  by_cases primary : packet.pathId ≠ 2
  · rw [if_pos primary]
    exact Nat.add_right_comm ..
  · rw [if_neg primary]
    rfl

variable (packets : List InsertedPacket)

theorem length_foldl_count :
    (packets.foldl PathAccount.count account).primaryPacket +
        (packets.foldl PathAccount.count account).secondaryPacket =
      account.primaryPacket + account.secondaryPacket + packets.length := by
  induction packets generalizing account with
  | nil => rfl
  | cons packet packets ih =>
      rw [List.foldl_cons, ih, length_count, List.length_cons]
      omega

theorem length_ofPackets :
    (PathAccount.ofPackets packets).primaryPacket +
      (PathAccount.ofPackets packets).secondaryPacket = packets.length :=
  (length_foldl_count {} packets).trans (Nat.zero_add _)

/-- The counters show whether there were packets before. -/
theorem ofPackets_append_eq_iff (stale own : List InsertedPacket) :
    PathAccount.ofPackets (stale ++ own) = PathAccount.ofPackets own ↔ stale = [] := by
  constructor
  · intro same
    have whole := length_ofPackets (stale ++ own)
    rw [same, length_ofPackets, List.length_append] at whole
    exact List.length_eq_zero_iff.mp (Nat.right_eq_add.mp whole)
  · rintro rfl
    rfl

end Counters

namespace InsertionLoop

variable {Double : Type} {arithmetic : DelayArithmetic Double} {logging : Bool}
  {assembles : List InsertedPacket → Bool}

/-- The loop has counted these packets, and holds those of the last frame begun. -/
def counted (loop : InsertionLoop Double) (packets frame : List InsertedPacket) :
    InsertionLoop Double :=
  { loop with
    account := packets.foldl PathAccount.count loop.account
    frame := frame }

variable {packets : List InsertedPacket}

/-- Packets that end no frame are counted. -/
theorem foldlM_insert_of_not_last (loop : InsertionLoop Double)
    (notLast : ∀ packet ∈ packets, packet.isLastPacketInFrame = false) :
    packets.foldlM (insert arithmetic logging assembles) loop =
      .ok (loop.counted packets (packets.foldl (fun frame packet =>
        if packet.isFirstPacketInFrame then [packet] else frame ++ [packet]) loop.frame)) := by
  induction packets generalizing loop with
  | nil => rfl
  | cons packet packets ih =>
      rw [List.foldlM_cons]
      have step : loop.insert arithmetic logging assembles packet =
          .ok (loop.counted [packet]
            (if packet.isFirstPacketInFrame then [packet] else loop.frame ++ [packet])) := by
        unfold insert
        dsimp only
        rw [if_neg]
        · rfl
        · rw [notLast packet (.head _), Bool.false_and, Bool.false_and]
          exact Bool.false_ne_true
      rw [step]
      exact ih _ fun other member => notLast other (.tail _ member)

theorem foldl_frame_of_not_first (frame : List InsertedPacket)
    (notFirst : ∀ packet ∈ packets, packet.isFirstPacketInFrame = false) :
    packets.foldl (fun frame packet =>
      if packet.isFirstPacketInFrame then [packet] else frame ++ [packet]) frame =
        frame ++ packets := by
  induction packets generalizing frame with
  | nil => exact (List.append_nil _).symm
  | cons packet packets ih =>
      rw [List.foldl_cons, notFirst packet (.head _), if_neg Bool.false_ne_true,
        ih _ fun other member => notFirst other (.tail _ member), List.append_assoc]
      rfl

/-- The packets of a frame are what is given to the depacketizer. -/
theorem foldl_frame (frame : ReceivedFrame) (before : List InsertedPacket) :
    frame.packets.foldl (fun frame packet =>
      if packet.isFirstPacketInFrame then [packet] else frame ++ [packet]) before =
        frame.packets := by
  have first := frame.first
  have notFirst := frame.notFirst
  change ∀ packet ∈ frame.packets.head?, _ at first
  change ∀ packet ∈ frame.packets.tail, _ at notFirst
  cases shape : frame.packets with
  | nil => exact absurd shape (List.append_ne_nil_of_right_ne_nil _ (List.cons_ne_nil _ _))
  | cons packet packets =>
      rw [shape] at first notFirst
      rw [List.tail_cons] at notFirst
      rw [List.foldl_cons, first packet rfl, if_pos rfl, foldl_frame_of_not_first _ notFirst]
      rfl

/-- The packets of a frame are counted together, and then the frame ends. -/
theorem foldlM_insert_frame (loop : InsertionLoop Double) (frame : ReceivedFrame) :
    frame.packets.foldlM (insert arithmetic logging assembles) loop =
      if assembles frame.packets && loop.collector.comparesPaths then
        (loop.counted frame.packets frame.packets).endFrame arithmetic logging frame.last
      else .ok (loop.counted frame.packets frame.packets) := by
  have whole := foldl_frame frame loop.frame
  unfold ReceivedFrame.packets at *
  rw [List.foldlM_append, foldlM_insert_of_not_last loop frame.notLast]
  rw [List.foldl_append] at whole
  change insert arithmetic logging assembles _ frame.last >>= pure = _
  rw [bind_pure]
  unfold insert
  dsimp only [counted]
  rw [List.foldl_cons, List.foldl_nil] at whole
  rw [frame.isLast, Bool.true_and, whole, List.foldl_append]
  rfl

variable {loop after : InsertionLoop Double} {last : InsertedPacket}

/-- The end of a key frame does not touch the counters. -/
theorem endFrame_key (key : last.frameType = .kVideoFrameKey)
    (ended : loop.endFrame arithmetic logging last = .ok after) :
    after.account = loop.account ∧ after.closed = loop.closed ∧
      after.collector = loop.collector := by
  unfold endFrame at ended
  rw [if_pos key] at ended
  obtain ⟨-, -, done⟩ := bind_eq_ok_iff.mp ended
  obtain rfl := Except.ok.inj done
  exact ⟨rfl, rfl, rfl⟩

/-- The end of a delta frame records it with the counters as they are, and resets them. -/
theorem endFrame_delta (delta : last.frameType ≠ .kVideoFrameKey)
    (ended : loop.endFrame arithmetic logging last = .ok after) :
    after.account = {} ∧ after.closed = loop.closed ++ [⟨loop.frame, loop.account⟩] ∧
      after.collector.toRemoteCollector = loop.collector.toRemoteCollector := by
  unfold endFrame at ended
  rw [if_neg delta] at ended
  obtain ⟨⟨delays, c⟩, closed, done⟩ := bind_eq_ok_iff.mp ended
  obtain rfl := Except.ok.inj done
  exact ⟨rfl, rfl, FrameDelays.closeDelta_collector closed⟩

theorem comparesPaths_congr {c c' : ReceiverCollector}
    (same : c'.toRemoteCollector = c.toRemoteCollector) : c'.comparesPaths = c.comparesPaths := by
  unfold ReceiverCollector.comparesPaths
  rw [same]

variable {stale : List InsertedPacket}

/-- What a frame does to the loop: it is closed with the counters of all packets since the last
reset, or its packets are added to them. -/
theorem insert_frame {loop between : InsertionLoop Double} {frame : ReceivedFrame}
    (counts : loop.account = .ofPackets stale)
    (done : frame.packets.foldlM (insert arithmetic logging assembles) loop = .ok between) :
    between.collector.comparesPaths = loop.collector.comparesPaths ∧
      (frame.Closes assembles loop.collector ∧ between.account = .ofPackets [] ∧
          between.closed = loop.closed ++
            [⟨frame.packets, .ofPackets (stale ++ frame.packets)⟩] ∨
        ¬ frame.Closes assembles loop.collector ∧
          between.account = .ofPackets (stale ++ frame.packets) ∧
          between.closed = loop.closed) := by
  have counted : frame.packets.foldl PathAccount.count loop.account =
      .ofPackets (stale ++ frame.packets) := by
    rw [counts, PathAccount.ofPackets, PathAccount.ofPackets, List.foldl_append]
  rw [foldlM_insert_frame] at done
  split_ifs at done with ends
  · rw [Bool.and_eq_true] at ends
    by_cases key : frame.last.frameType = .kVideoFrameKey
    · obtain ⟨account, closed, collector⟩ := endFrame_key key done
      exact ⟨congrArg _ collector, .inr ⟨fun closes => closes.2.2 key, account.trans counted, closed⟩⟩
    · obtain ⟨account, closed, collector⟩ := endFrame_delta key done
      refine ⟨comparesPaths_congr collector, .inl ⟨⟨ends.1, ends.2, key⟩, account, ?_⟩⟩
      rw [closed]
      exact congrArg (fun account => loop.closed ++ [⟨frame.packets, account⟩]) counted
  · obtain rfl := Except.ok.inj done
    refine ⟨rfl, .inr ⟨fun closes => ends ?_, counted, rfl⟩⟩
    rw [Bool.and_eq_true]
    exact ⟨closes.1, closes.2.1⟩

theorem isChain_cons_iff_head {Element : Type} {relation : Element → Element → Prop}
    {element : Element} {rest : List Element} :
    (element :: rest).IsChain relation ↔
      (∀ next ∈ rest.head?, relation element next) ∧ rest.IsChain relation := by
  cases rest with
  | nil => exact iff_of_true (.singleton _) ⟨nofun, .nil⟩
  | cons next rest =>
      rw [List.isChain_cons_cons, List.head?_cons]
      exact and_congr_left' ⟨fun related _ same => Option.some.inj same ▸ related,
        fun related => related next rfl⟩

/-- The delta frames of a loop are closed with their own counters, if and only if the frame
before each, if there is one, was closed; for the first frame, the packets counted before
decide. -/
theorem closed_own_iff {frames : List ReceivedFrame} (counts : loop.account = .ofPackets stale)
    (done : (frames.flatMap ReceivedFrame.packets).foldlM (insert arithmetic logging assembles)
      loop = .ok after) :
    ∃ closed, after.closed = loop.closed ++ closed ∧
      ((∀ frame ∈ closed, frame.account = .ofPackets frame.packets) ↔
        frames.IsChain (fun frame next =>
          next.Closes assembles loop.collector → frame.Closes assembles loop.collector) ∧
        (stale ≠ [] → ∀ frame ∈ frames.head?, ¬ frame.Closes assembles loop.collector)) := by
  induction frames generalizing stale loop with
  | nil =>
      obtain rfl := Except.ok.inj done
      exact ⟨[], (List.append_nil _).symm, iff_of_true (fun _ => nofun) ⟨.nil, fun _ _ => nofun⟩⟩
  | cons frame frames ih =>
      rw [List.flatMap_cons, List.foldlM_append] at done
      obtain ⟨between, first, rest⟩ := bind_eq_ok_iff.mp done
      obtain ⟨compares, either⟩ := insert_frame counts first
      have same : ∀ other : ReceivedFrame, other.Closes assembles between.collector ↔
          other.Closes assembles loop.collector := fun other => by
        unfold ReceivedFrame.Closes
        rw [compares]
      rcases either with ⟨closes, account, isClosed⟩ | ⟨stays, account, isClosed⟩
      · obtain ⟨closed, later, own⟩ := ih account rest
        simp only [same] at own
        refine ⟨⟨frame.packets, .ofPackets (stale ++ frame.packets)⟩ :: closed, ?_, ?_⟩
        · rw [later, isClosed, List.append_assoc]
          rfl
        · rw [List.forall_mem_cons, own, ofPackets_append_eq_iff, isChain_cons_iff_head,
            List.head?_cons]
          simp only [Option.mem_some_iff, forall_eq', closes, not_true_eq_false, imp_false,
            ne_eq, not_not, implies_true, false_imp_iff, true_and, and_true]
          exact and_comm
      · obtain ⟨closed, later, own⟩ := ih account rest
        simp only [same] at own
        have some : stale ++ frame.packets ≠ [] := fun none =>
          List.append_ne_nil_of_right_ne_nil _ (List.cons_ne_nil _ _)
            (List.append_eq_nil_iff.mp none).2
        refine ⟨closed, later.trans (congrArg (· ++ closed) isClosed), ?_⟩
        rw [own, isChain_cons_iff_head, List.head?_cons]
        simp only [Option.mem_some_iff, forall_eq', stays, not_false_eq_true, imp_false,
          implies_true, some, ne_eq, true_imp_iff, and_true]
        exact and_comm

end InsertionLoop

section Calls

variable {Double : Type} (arithmetic : DelayArithmetic Double) (logging : Bool)
  (assembles : List InsertedPacket → Bool)

/-- Calls of `OnInsertedPacket` in order, and the delta frames that they close. -/
def insertCalls (delays : FrameDelays Double) : List InsertCall →
    Except DivisionFault (List ClosedFrame)
  | [] => .ok []
  | call :: calls => do
      let (delays, _, closed) ← onInsertedPacket arithmetic logging assembles delays call.collector
        (call.frames.flatMap ReceivedFrame.packets) call.bufferCleared
      return closed ++ (← insertCalls delays calls)

variable {arithmetic logging assembles} {delays : FrameDelays Double} {closed : List ClosedFrame}

theorem closed_own_iff_of_call {call : InsertCall} {after : FrameDelays Double}
    {c : ReceiverCollector}
    (done : onInsertedPacket arithmetic logging assembles delays call.collector
      (call.frames.flatMap ReceivedFrame.packets) call.bufferCleared = .ok (after, c, closed)) :
    (∀ frame ∈ closed, frame.account = .ofPackets frame.packets) ↔
      call.frames.IsChain fun frame next =>
        next.Closes assembles call.collector → frame.Closes assembles call.collector := by
  obtain ⟨loop, looped, done⟩ := bind_eq_ok_iff.mp done
  have same : closed = loop.closed := by
    cases cleared : call.bufferCleared with
    | false =>
        rw [cleared] at done
        exact (congrArg (·.2.2) (Except.ok.inj done)).symm
    | true =>
        rw [cleared] at done
        obtain ⟨cleared, -, done⟩ := bind_eq_ok_iff.mp done
        exact (congrArg (·.2.2) (Except.ok.inj done)).symm
  have counts : ({ delays := delays, collector := call.collector } :
      InsertionLoop Double).account = .ofPackets [] := rfl
  obtain ⟨closed', isClosed, own⟩ := InsertionLoop.closed_own_iff counts looped
  rw [same, isClosed, List.nil_append, own]
  exact and_iff_left fun some => absurd rfl some

/-- Over all calls, the delta frames are closed with the counters of their own packets, if and
only if in every call a closed frame comes first or directly after a closed frame: not after a
key frame, nor after one that could not be assembled. -/
theorem closed_frames_own_iff {calls : List InsertCall}
    (done : insertCalls arithmetic logging assembles delays calls = .ok closed) :
    (∀ frame ∈ closed, frame.account = .ofPackets frame.packets) ↔
      ∀ call ∈ calls, call.frames.IsChain fun frame next =>
        next.Closes assembles call.collector → frame.Closes assembles call.collector := by
  induction calls generalizing delays closed with
  | nil =>
      obtain rfl := Except.ok.inj done
      exact iff_of_true (fun _ => nofun) fun _ => nofun
  | cons call calls ih =>
      obtain ⟨⟨between, c, first⟩, called, done⟩ := bind_eq_ok_iff.mp done
      obtain ⟨later, continued, done⟩ := bind_eq_ok_iff.mp done
      obtain rfl := Except.ok.inj done
      rw [List.forall_mem_append, closed_own_iff_of_call called, ih continued, List.forall_mem_cons]

end Calls

section Examples

/-- Whole numbers in place of doubles. -/
def wholeArithmetic : DelayArithmetic Int where
  smooth smoothed delay := (9 * smoothed + delay) / 10
  exceeds smoothed bound := decide (smoothed > bound)
  atMost smoothed bound := decide (smoothed ≤ bound)
  below smoothed bound := decide (smoothed < bound)
  truncate smoothed := smoothed

/-- A frame of two packets, one on each path. -/
def twoPathFrame (type : VideoFrameType) (time : Int) : ReceivedFrame where
  body := [⟨1, time, 0, type, true, false⟩]
  last := ⟨2, time + 1, 0, type, false, true⟩
  first packet isFirst := by
    obtain rfl := Option.some.inj isFirst
    rfl
  notFirst packet member := by
    obtain rfl := List.mem_singleton.mp member
    rfl
  isLast := rfl
  notLast packet member := by
    obtain rfl := List.mem_singleton.mp member
    rfl

/-- Two paths of known delay. -/
def twoPathCollector : ReceiverCollector where
  mpSecondPath := 1
  rtt1 := 20
  rtt2 := 40
  sendingrate1 := 0
  sendingrate2 := 0

def freshDelays : FrameDelays Int where
  smoothedTimings := 0
  smoothedTimingsIfd := 0
  previousFrameTime := 0

/-- One call, with these frames. -/
def oneCall (frames : List ReceivedFrame) : List InsertCall := [⟨twoPathCollector, frames, false⟩]

/-- The counters of `twoPathFrame`. -/
def twoPathAccount (time : Int) : PathAccount where
  primaryPacket := 1
  secondaryPacket := 1
  firstPacketPath := 1
  primaryPacketTimes := [time]
  secondaryPacketTimes := [time + 1]

/-- Delta frames, each after another. -/
theorem closed_frames_own_iff_instance :
    twoPathAccount 100 = .ofPackets (twoPathFrame .kVideoFrameDelta 100).packets ∧
      twoPathAccount 133 = .ofPackets (twoPathFrame .kVideoFrameDelta 133).packets := by
  have ran : insertCalls wholeArithmetic true (fun _ => true) freshDelays
      (oneCall [twoPathFrame .kVideoFrameDelta 100, twoPathFrame .kVideoFrameDelta 133]) =
        .ok [⟨(twoPathFrame .kVideoFrameDelta 100).packets, twoPathAccount 100⟩,
          ⟨(twoPathFrame .kVideoFrameDelta 133).packets, twoPathAccount 133⟩] := by
    decide
  have own := (closed_frames_own_iff ran).mpr fun call member => by
    obtain rfl := List.mem_singleton.mp member
    refine .cons_cons (fun _ => ?_) (.singleton _)
    exact ⟨rfl, by decide, by decide⟩
  exact ⟨own _ List.mem_cons_self, own _ (.tail _ List.mem_cons_self)⟩

/-- A delta frame that is handed out with a key frame before it is closed with the packets of
both. -/
theorem key_frame_counted_with_delta :
    ∃ closed, insertCalls wholeArithmetic true (fun _ => true) freshDelays
      (oneCall [twoPathFrame .kVideoFrameKey 100, twoPathFrame .kVideoFrameDelta 133]) =
        .ok closed ∧
      ¬ ∀ frame ∈ closed, frame.account = .ofPackets frame.packets := by
  refine ⟨[⟨(twoPathFrame .kVideoFrameDelta 133).packets,
    .ofPackets ((twoPathFrame .kVideoFrameKey 100).packets ++
      (twoPathFrame .kVideoFrameDelta 133).packets)⟩], by decide, fun own => ?_⟩
  have counted := congrArg PathAccount.primaryPacket (own _ (.head _))
  revert counted
  decide

end Examples

end MpWebRtc
