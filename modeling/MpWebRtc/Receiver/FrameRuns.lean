import MpWebRtc.Receiver.FrameOrder

/-!
# Runs of the frame buffer

The buffer with what it handed out, and with the ids that were continuous, since it was last
cleared. Whatever frames are inserted, and whenever the buffer is asked for one, no operation fails,
frames are handed out in order behind all they depend on, and the counters are exact.
-/

namespace MpWebRtc

open Math

namespace FrameMap

variable {frames next : FrameMap} {handed settled settled' : List VideoLayerFrameId}

/-- Of the ids that were continuous it matters only which they are. -/
theorem Counted.congr (counted : Counted frames handed settled [])
    (same : ∀ id, id ∈ settled ↔ id ∈ settled') : Counted frames handed settled' [] where
  counted found held := by
    rw [counted.counted found held]
    refine missing_congr fun key _ => ?_
    rw [List.mem_append, List.mem_append, same]
  flagged found := by
    rw [counted.flagged found, same]
  complete := counted.complete
  known id member := counted.known id ((same id).mpr member)
  queued := .nil
  waiting _ member := nomatch member

/-- The ids of the continuous frames in the map. -/
def continuousIds (frames : FrameMap) : List VideoLayerFrameId :=
  (frames.entries.filter fun entry => entry.2.continuous).map Prod.fst

theorem mem_continuousIds {id : VideoLayerFrameId} :
    id ∈ frames.continuousIds ↔ ∃ info, frames.find id = some info ∧ info.continuous = true := by
  unfold continuousIds
  rw [List.mem_map]
  constructor
  · rintro ⟨⟨key, info⟩, member, rfl⟩
    obtain ⟨member, on⟩ := List.mem_filter.mp member
    exact ⟨info, OrderedMap.find_eq_some_iff.mpr member, on⟩
  · rintro ⟨info, found, on⟩
    exact ⟨(id, info), List.mem_filter.mpr ⟨OrderedMap.find_eq_some_iff.mp found, on⟩, rfl⟩

end FrameMap

namespace FrameBuffer

variable {b : FrameBuffer} {frame : EncodedFrame} {handed settled : List VideoLayerFrameId}

section Insert

section

variable (counted : b.frames.Counted handed settled [])
include counted

theorem isContinuous_eq {key : VideoLayerFrameId}
    (ahead : ∀ other ∈ handed, other < key) : b.isContinuous key = decide (key ∈ settled) := by
  unfold isContinuous
  cases found : b.frames.find key with
  | none =>
      have absent := counted.not_settled ahead found
      rw [decide_eq_false absent]
      rfl
  | some info =>
      have flag := counted.flagged found
      rw [or_iff_left List.not_mem_nil] at flag
      change info.continuous = _
      rw [Bool.eq_iff_iff, decide_eq_true_eq]
      exact flag

variable (records : b.decodedFramesHistory.Records handed)
include records

/-- The references that are not fulfilled yet, unless one of them will never be. -/
theorem referenceDependencies_spec
    {spatialLayer : Nat} {references : List Int} {pending : List FrameDependency}
    (computed : b.referenceDependencies spatialLayer references = some pending) :
    pending.map FrameDependency.id =
      (references.map fun pictureId => (⟨pictureId, spatialLayer⟩ : VideoLayerFrameId)).filter
        (fun key => decide (key ∉ handed)) ∧
    ∀ dependency ∈ pending, dependency.continuous = decide (dependency.id ∈ settled) ∧
      ∀ other ∈ handed, other < dependency.id := by
  induction references generalizing pending with
  | nil =>
      obtain rfl := Option.some.inj computed
      exact ⟨rfl, fun _ member => nomatch member⟩
  | cons reference references ih =>
      unfold referenceDependencies at computed
      dsimp only at computed
      rw [List.map_cons]
      split_ifs at computed with past decoded
      · have given := records.sound.mem_of_wasDecoded decoded
        rw [List.filter_cons_of_neg (by simpa using given)]
        exact ih computed
      · obtain ⟨rest, further, rfl⟩ := Option.map_eq_some_iff.mp computed
        obtain ⟨ids, all⟩ := ih further
        have ahead : ∀ other ∈ handed, other < (⟨reference, spatialLayer⟩ : VideoLayerFrameId) := by
          intro other member
          obtain ⟨last, known, below⟩ := records.newest other member
          rw [known] at past
          exact below.trans_lt (not_le.mp fun behind => past (decide_eq_true behind))
        have fresh : (⟨reference, spatialLayer⟩ : VideoLayerFrameId) ∉ handed :=
          fun member => lt_irrefl _ (ahead _ member)
        rw [List.filter_cons_of_pos (by simpa using fresh), List.map_cons, ids]
        refine ⟨rfl, fun dependency member => ?_⟩
        rcases List.mem_cons.mp member with rfl | member
        · exact ⟨isContinuous_eq counted ahead, ahead⟩
        · exact all dependency member

/-- The lower layer is either the last decoded frame or not decoded. -/
theorem lowerLayerDependency_spec
    (valid : frame.validReferences = true) (ahead : ∀ other ∈ handed, other < frame.id) :
    (b.lowerLayerDependency frame).map FrameDependency.id =
      (if frame.interLayerPredicted then [frame.lowerLayer] else []).filter
        (fun key => decide (key ∉ handed)) ∧
    ∀ dependency ∈ b.lowerLayerDependency frame,
      dependency.continuous = decide (dependency.id ∈ settled) ∧
        ∀ other ∈ handed, other < dependency.id := by
  unfold lowerLayerDependency
  by_cases predicted : frame.interLayerPredicted = true
  swap
  · rw [if_neg predicted, if_neg predicted]
    exact ⟨rfl, fun _ member => nomatch member⟩
  rw [if_pos predicted, if_pos predicted]
  have lower : frame.lowerLayer < frame.id := EncodedFrame.before_of_valid valid _ (by
    unfold EncodedFrame.dependencies
    rw [if_pos predicted]
    exact List.mem_append_cons_self)
  dsimp only
  by_cases decoded : b.decodedFramesHistory.getLastDecodedFrameId = some frame.lowerLayer
  · have given := records.last _ decoded
    rw [decide_eq_true decoded]
    simp only [Bool.true_or, Bool.not_true, Bool.or_self, Bool.false_eq_true, if_false]
    rw [List.filter_cons_of_neg (by simpa using given)]
    exact ⟨rfl, fun _ member => nomatch member⟩
  · rw [decide_eq_false decoded]
    simp only [Bool.false_or, Bool.not_false, Bool.or_true, if_true]
    -- nothing lies between the lower layer and the frame
    have above : ∀ other ∈ handed, other < frame.lowerLayer := by
      intro other member
      obtain ⟨last, known, below⟩ := records.newest other member
      have behind := ahead last (records.last last known)
      refine below.trans_lt (lt_of_le_of_ne ?_ fun same => decoded (same ▸ known))
      rw [VideoLayerFrameId.lt_def] at behind lower
      rw [VideoLayerFrameId.le_def]
      change last.pictureId < frame.id.pictureId ∨ last.pictureId = frame.id.pictureId ∧
        last.spatialLayer ≤ frame.id.spatialLayer - 1
      omega
    have fresh : frame.lowerLayer ∉ handed := fun member => lt_irrefl _ (above _ member)
    rw [List.filter_cons_of_pos (by simpa using fresh)]
    refine ⟨rfl, fun dependency member => ?_⟩
    obtain rfl := List.mem_singleton.mp member
    exact ⟨isContinuous_eq counted above, above⟩

/-- `UpdateFrameInfoWithIncomingFrame` drops the frame, or enters it but for the frame itself. -/
theorem updateFrameInfoWithIncomingFrame_spec
    (valid : frame.validReferences = true) (ahead : ∀ other ∈ handed, other < frame.id)
    {old : FrameInfo} (found : b.frames.find frame.id = some old) :
    b.updateFrameInfoWithIncomingFrame frame = some none ∨
    ∃ reached pending, b.updateFrameInfoWithIncomingFrame frame = some (some reached) ∧
      FrameMap.Unfulfilled handed settled frame pending ∧
      FrameMap.Entered b.frames
        (reached.modify frame.id fun info => { info with frame := some frame })
        handed settled frame pending old := by
  unfold updateFrameInfoWithIncomingFrame
  cases computed : b.referenceDependencies frame.id.spatialLayer frame.references with
  | none => exact .inl rfl
  | some references =>
      right
      obtain ⟨ids, all⟩ := referenceDependencies_spec counted records computed
      obtain ⟨ids', all'⟩ := lowerLayerDependency_spec counted records valid ahead
      dsimp only
      generalize pendingIs : references ++ b.lowerLayerDependency frame = pending
      have unfulfilled : FrameMap.Unfulfilled handed settled frame pending := by
        subst pendingIs
        refine ⟨?_, fun dependency member => ?_, fun dependency member => ?_⟩
        · rw [List.map_append, ids, ids', ← List.filter_append]
          rfl
        · exact (List.mem_append.mp member).elim (fun member => (all dependency member).1)
            fun member => (all' dependency member).1
        · exact (List.mem_append.mp member).elim (fun member => (all dependency member).2)
            fun member => (all' dependency member).2
      have apart := unfulfilled.apart (EncodedFrame.before_of_valid valid)
      obtain ⟨reached, registered, effect⟩ := @FrameMap.registerDependencies_eq_some
        (b.frames.modify frame.id fun info =>
          { info with
            numMissingContinuous := pending.length
            numMissingDecodable := pending.length }) frame.id pending
        { old with
          numMissingContinuous := pending.length
          numMissingDecodable := pending.length }
        (by rw [unfulfilled.ids]; exact (EncodedFrame.distinct_of_valid valid).filter _) apart
        (by rw [OrderedMap.find_modify, if_pos rfl, found]; rfl) List.countP_le_length
      rw [registered]
      refine ⟨reached, pending, rfl, unfulfilled, fun key => ?_⟩
      rw [OrderedMap.find_modify, effect, OrderedMap.find_modify]
      by_cases same : key = frame.id
      · subst same
        rw [if_pos rfl, if_neg apart, if_neg apart, if_pos rfl, if_pos rfl, Option.map_some,
          FrameInfo.lessContinuous, ← unfulfilled.length_sub, ← unfulfilled.length]
      · rw [if_neg same, if_neg same, if_neg same, if_neg same]

end

/-- A frame is inserted. What was ready stays so, and the ids that have been continuous are those
that were and those that are. -/
theorem insertAdmitted_spec (wired : b.frames.Wired handed)
    (counted : b.frames.Counted handed settled []) (records : b.decodedFramesHistory.Records handed)
    (valid : frame.validReferences = true) (ahead : ∀ other ∈ handed, other < frame.id)
    (lastContinuousPictureId : Int) :
    ∃ frames lastContinuousFrame returned, b.insertAdmitted frame lastContinuousPictureId =
        some ({ b with frames := frames, lastContinuousFrame := lastContinuousFrame }, returned) ∧
      frames.Wired handed ∧ frames.Counted handed (frames.continuousIds ++ settled) [] ∧
      ∀ done ids, b.frames.Ready settled done ids →
        frames.Ready (frames.continuousIds ++ settled) done ids := by
  have wired₁ := wired.emplace ahead
  have counted₁ := counted.emplace ahead
  have there : (OrderedMap.find (b.frames.emplace frame.id {}) frame.id).isSome := by
    rw [OrderedMap.find_emplace]
    split_ifs with new
    · rfl
    · exact Option.isSome_iff_ne_none.mpr fun none => new ⟨rfl, none⟩
  -- the ids that have been continuous, in the form of the statement
  have close : ∀ (frames : FrameMap) settled', frames.Counted handed settled' [] →
      (∀ id ∈ settled, id ∈ settled') →
      (∀ id ∈ settled', id ∈ settled ∨ (frames.find id).isSome) →
      ∀ id, id ∈ settled' ↔ id ∈ frames.continuousIds ++ settled := by
    intro frames settled' counted more only id
    rw [List.mem_append, FrameMap.mem_continuousIds]
    constructor
    · intro member
      rcases only id member with old | there
      · exact .inr old
      · obtain ⟨info, found⟩ := Option.isSome_iff_exists.mp there
        exact .inl ⟨info, found, (counted.flagged found).mpr (.inl member)⟩
    · rintro (⟨info, found, on⟩ | old)
      · exact ((counted.flagged found).mp on).resolve_right List.not_mem_nil
      · exact more id old
  have unchanged := close _ settled counted₁ (fun _ => id) fun _ => .inl
  have stays : ∀ done ids, b.frames.Ready settled done ids →
      FrameMap.Ready (b.frames.emplace frame.id {})
        (FrameMap.continuousIds (b.frames.emplace frame.id {}) ++ settled) done ids :=
    fun done ids ready => ready.mono fun id _ visited =>
      ⟨FrameMap.frameAt_emplace id, List.mem_append_right _ visited⟩
  unfold insertAdmitted
  dsimp only
  by_cases held : ((OrderedMap.find (b.frames.emplace frame.id {}) frame.id).any fun info =>
      info.frame.isSome) = true
  · rw [if_pos held]
    exact ⟨_, _, _, rfl, wired₁, counted₁.congr unchanged, stays⟩
  rw [if_neg held]
  obtain ⟨old, found⟩ := Option.isSome_iff_exists.mp there
  have empty : old.frame = none := by
    rw [found] at held
    exact Option.not_isSome_iff_eq_none.mp held
  rcases @updateFrameInfoWithIncomingFrame_spec
    { b with frames := b.frames.emplace frame.id {} } frame handed settled counted₁ records valid
    ahead old found with dropped | ⟨reached, pending, updated, unfulfilled, entered⟩
  · rw [dropped]
    exact ⟨_, _, _, rfl, wired₁, counted₁.congr unchanged, stays⟩
  have before := EncodedFrame.before_of_valid valid
  have wired₂ := wired₁.enter found empty (EncodedFrame.distinct_of_valid valid) before
    unfulfilled entered
  have counted₂ := counted₁.enter found empty unfulfilled entered
  have apart := unfulfilled.apart before
  have frameAt := entered.frameAt apart
  have entry := (entered frame.id).trans ((if_neg apart).trans (if_pos rfl))
  -- frames that were there stay
  have keeps : ∀ id ∈ settled, FrameMap.frameAt
      (reached.modify frame.id fun info => { info with frame := some frame }) id =
        b.frames.frameAt id := by
    intro id visited
    rw [frameAt, FrameMap.frameAt_emplace, if_neg]
    rintro rfl
    have on := (counted₁.flagged found).mpr (.inl visited)
    have some := (counted₁.complete found on).2
    rw [empty] at some
    exact nomatch some
  rw [updated, Option.bind_some]
  dsimp only
  rw [entry, Option.bind_some]
  by_cases zero : missing frame.dependencies (settled ++ handed) = 0
  · rw [if_pos zero]
    have fresh : frame.id ∉ settled := fun visited => by
      have on := (counted₁.flagged found).mpr (.inl visited)
      have some := (counted₁.complete found on).2
      rw [empty] at some
      exact nomatch some
    have same := @FrameMap.sameWiring_mark
      (reached.modify frame.id fun info => { info with frame := some frame }) frame.id
    obtain ⟨final, settled', propagated, same', counted', more, only, ends⟩ :=
      (counted₂.mark entry zero rfl fresh).propagate (wired₂.of_sameWiring same)
        b.lastContinuousFrame
    obtain ⟨last, reaches⟩ := Option.isSome_iff_exists.mp (ends (.inl (List.cons_ne_nil _ _)))
    have all := close final.1 settled' counted' more fun id member => by
      rw [same'.isSome_find]
      exact only id member
    rw [propagated, Option.bind_some, reaches]
    refine ⟨_, _, _, rfl, wired₂.of_sameWiring (same.trans same'), counted'.congr all, ?_⟩
    intro done ids ready
    refine ready.mono fun id _ visited => ⟨?_, List.mem_append_right _ visited⟩
    rw [same'.frameAt, same.frameAt]
    exact keeps id visited
  · rw [if_neg zero]
    refine ⟨_, _, _, rfl, wired₂, counted₂.congr ?_, ?_⟩
    · exact close _ settled counted₂ (fun _ => id) fun _ => .inl
    · intro done ids ready
      exact ready.mono fun id _ visited => ⟨keeps id visited, List.mem_append_right _ visited⟩

/-- A frame that passes the checks is valid, and newer than all that were handed out unless the
buffer is cleared. -/
theorem admission_spec (records : b.decodedFramesHistory.Records handed) (frame : EncodedFrame) :
    b.admission frame = .drop ∨ frame.validReferences = true ∧
      ((∃ jump, b.admission frame = .clear jump) ∨
        b.admission frame = .keep ∧ ∀ other ∈ handed, other < frame.id) := by
  unfold admission
  by_cases valid : frame.validReferences = true
  swap
  · exact .inl (if_pos (by simpa using valid))
  rw [if_neg (by simpa using valid)]
  by_cases full : kMaxFramesBuffered ≤ b.frames.entries.length
  · rw [if_pos full]
    by_cases key : frame.isKeyframe = true
    · exact .inr ⟨valid, .inl ⟨false, if_pos key⟩⟩
    · exact .inl (if_neg key)
  rw [if_neg full]
  cases passed : b.decodedFramesHistory.lastDecoded.filter
      fun last => decide (frame.id ≤ last.1) with
  | some last =>
      dsimp only
      by_cases jump : (timestampAheadOf frame.timestamp last.2 && frame.isKeyframe) = true
      · exact .inr ⟨valid, .inl ⟨true, if_pos jump⟩⟩
      · exact .inl (if_neg jump)
  | none =>
      refine .inr ⟨valid, ?_⟩
      dsimp only
      split_ifs
      · exact .inl ⟨true, rfl⟩
      · refine .inr ⟨rfl, fun other member => ?_⟩
        obtain ⟨last, known, below⟩ := records.newest other member
        obtain ⟨both, there, rfl⟩ := Option.map_eq_some_iff.mp known
        rw [there, Option.filter_eq_none_iff] at passed
        exact below.trans_lt (not_le.mp fun behind => passed both rfl (decide_eq_true behind))

end Insert

end FrameBuffer

/-- What can happen to a frame buffer. The posted task of `InsertFrame` may run at any time. -/
inductive FrameEvent
  | insertFrame (frame : EncodedFrame)
  | nextFrame (latestReturnTimeMs : Int) (keyframeRequired : Bool)
      (maxWaitingTime : EncodedFrame → Int)
  | findAgain (maxWaitingTime : EncodedFrame → Int)
  | runCallback (nowMs : Int) (maxWaitingTime : EncodedFrame → Int)
  | clear
  | start
  | stop

/-- A frame buffer, and since it was last cleared, the frames it handed out and the ids under which
there was a continuous frame. -/
structure FrameSession where
  buffer : FrameBuffer := {}
  handedOut : List EncodedFrame := []
  continuousIds : List VideoLayerFrameId := []

namespace FrameSession

/-- The ids of the frames that were handed out. -/
def handedIds (s : FrameSession) : List VideoLayerFrameId := s.handedOut.map EncodedFrame.id

/-- Nothing is known of before. -/
def afterClear (s : FrameSession) : FrameSession := { buffer := s.buffer }

/-- One event, unless an operation fails. -/
def step (s : FrameSession) : FrameEvent → Option FrameSession
  | .insertFrame frame =>
      let kept := match s.buffer.admission frame with
        | .clear _ => s.afterClear
        | _ => s
      (s.buffer.insertFrame frame).map fun reached =>
        { kept with
          buffer := reached.1
          continuousIds := reached.1.frames.continuousIds ++ kept.continuousIds }
  | .nextFrame latestReturnTimeMs keyframeRequired maxWaitingTime =>
      (s.buffer.nextFrame latestReturnTimeMs keyframeRequired maxWaitingTime).map fun buffer =>
        { s with buffer := buffer }
  | .findAgain maxWaitingTime =>
      (s.buffer.findAgain maxWaitingTime).map fun buffer => { s with buffer := buffer }
  | .runCallback nowMs maxWaitingTime =>
      (s.buffer.runCallback nowMs maxWaitingTime).map fun reached =>
        { s with buffer := reached.1, handedOut := s.handedOut ++ reached.2 }
  | .clear => some { s.afterClear with buffer := s.buffer.clearFramesAndHistory }
  | .start => some { s with buffer := s.buffer.start }
  | .stop => some { s with buffer := s.buffer.stop }

/-- A run, unless an operation fails. -/
def run (s : FrameSession) : List FrameEvent → Option FrameSession
  | [] => some s
  | event :: events => (s.step event).bind fun s => run s events

/-- What a user of the buffer can rely on, and the counters mean. -/
structure Sound (s : FrameSession) : Prop where
  increasing : s.handedIds.Pairwise (· < ·)
  supported : EncodedFrame.Supported [] s.handedOut
  named : ∀ id frame, s.buffer.frames.frameAt id = some frame → frame.id = id
  decodable : ∀ id info frame, s.buffer.frames.find id = some info → info.frame = some frame →
    info.numMissingDecodable = missing frame.dependencies s.handedIds
  continuous : ∀ id info frame, s.buffer.frames.find id = some info → info.frame = some frame →
    info.numMissingContinuous = missing frame.dependencies (s.continuousIds ++ s.handedIds)
  marked : ∀ id info, s.buffer.frames.find id = some info →
    (info.continuous = true ↔ id ∈ s.continuousIds)
  dependents : ∀ id info, s.buffer.frames.find id = some info →
    ∀ dependent ∈ info.dependentFrames, (s.buffer.frames.frameAt dependent).isSome
  held : ∀ id info, s.buffer.frames.find id = some info → info.continuous = true →
    info.frame.isSome
  alive : s.buffer.callbackTask = true →
    ∀ id ∈ s.buffer.framesToDecode, (s.buffer.frames.frameAt id).isSome

/-- The invariant of all runs. -/
structure Inv (s : FrameSession) : Prop where
  wired : s.buffer.frames.Wired s.handedIds
  counted : s.buffer.frames.Counted s.handedIds s.continuousIds []
  records : s.buffer.decodedFramesHistory.Records s.handedIds
  increasing : s.handedIds.Pairwise (· < ·)
  supported : EncodedFrame.Supported [] s.handedOut
  ready : s.buffer.callbackTask = true →
    s.buffer.frames.Ready s.continuousIds s.handedIds s.buffer.framesToDecode

theorem Inv.sound {s : FrameSession} (inv : s.Inv) : s.Sound where
  increasing := inv.increasing
  supported := inv.supported
  named _ _ held := inv.wired.named held
  decodable _ _ _ found held := inv.wired.decodable found held
  continuous _ _ _ found held := inv.counted.counted found held
  marked _ _ found := (inv.counted.flagged found).trans (or_iff_left List.not_mem_nil)
  dependents id info found dependent member := by
    obtain ⟨frame, held, -⟩ := (inv.wired.listed found dependent).mp member
    rw [held]
    rfl
  held _ _ found on := (inv.counted.complete found on).2
  alive running := (inv.ready running).isSome_frameAt

theorem wired_empty : FrameMap.Wired {} [] where
  named held := nomatch held
  distinct held := nomatch held
  before needs := nomatch needs.choose_spec.1
  listedOnce found := nomatch found
  listed found := nomatch found
  registered needs := nomatch needs.choose_spec.1
  decodable found := nomatch found
  ahead found := nomatch found

theorem counted_empty : FrameMap.Counted {} [] [] [] where
  counted found := nomatch found
  flagged found := nomatch found
  complete found := nomatch found
  known _ member := nomatch member
  queued := .nil
  waiting _ member := nomatch member

variable {s : FrameSession}

/-- Nothing was handed out. -/
theorem Inv.append_nil (inv : s.Inv) :
    ({ s with handedOut := s.handedOut ++ [] } : FrameSession).Inv := by
  rw [List.append_nil]
  exact inv

theorem inv_cleared (b : FrameBuffer) :
    ({ buffer := b.clearFramesAndHistory } : FrameSession).Inv :=
  ⟨wired_empty, counted_empty, DecodedFramesHistory.records_initial, .nil, trivial,
    fun _ => trivial⟩

/-- Choosing frames. -/
theorem Inv.findNextFrame (inv : s.Inv) (maxWaitingTime : EncodedFrame → Int) :
    ∃ buffer, s.buffer.findNextFrame maxWaitingTime = some buffer ∧
      ({ s with buffer := buffer } : FrameSession).Inv := by
  obtain ⟨chosen, found, ready⟩ :=
    FrameBuffer.findNextFrame_spec inv.wired inv.counted maxWaitingTime
  exact ⟨_, found, inv.wired, inv.counted, inv.records, inv.increasing, inv.supported,
    fun _ => ready⟩

theorem Inv.insertAdmitted (inv : s.Inv) {frame : EncodedFrame}
    (valid : frame.validReferences = true) (ahead : ∀ other ∈ s.handedIds, other < frame.id)
    (lastContinuousPictureId : Int) :
    ∃ reached, s.buffer.insertAdmitted frame lastContinuousPictureId = some reached ∧
      ({ s with
          buffer := reached.1
          continuousIds := reached.1.frames.continuousIds ++ s.continuousIds } :
        FrameSession).Inv := by
  obtain ⟨frames, last, returned, inserted, wired, counted, ready⟩ :=
    FrameBuffer.insertAdmitted_spec inv.wired inv.counted inv.records valid ahead
      lastContinuousPictureId
  exact ⟨_, inserted, wired, counted, inv.records, inv.increasing, inv.supported,
    fun running => ready _ _ (inv.ready running)⟩

/-- No event makes an operation fail, and each keeps the invariant. -/
theorem Inv.step (inv : s.Inv) (event : FrameEvent) : ∃ s', s.step event = some s' ∧ s'.Inv := by
  cases event with
  | insertFrame frame =>
      unfold FrameSession.step FrameBuffer.insertFrame
      dsimp only
      rcases FrameBuffer.admission_spec inv.records frame with
        drop | ⟨valid, ⟨jump, clear⟩ | ⟨keep, ahead⟩⟩
      · rw [drop]
        refine ⟨_, rfl, inv.wired, inv.counted.congr fun id => ?_, inv.records, inv.increasing,
          inv.supported, fun running => (inv.ready running).mono fun id _ visited =>
            ⟨rfl, List.mem_append_right _ visited⟩⟩
        change _ ↔ id ∈ s.buffer.frames.continuousIds ++ s.continuousIds
        rw [List.mem_append, FrameMap.mem_continuousIds]
        refine (or_iff_right_of_imp ?_).symm
        rintro ⟨info, found, on⟩
        exact ((inv.counted.flagged found).mp on).resolve_right List.not_mem_nil
      · rw [clear]
        dsimp only
        obtain ⟨reached, inserted, inv'⟩ := (inv_cleared s.buffer).insertAdmitted valid
          (fun _ member => nomatch member)
          (if jump = true then -1
            else (s.buffer.lastContinuousFrame.map (·.pictureId)).getD (-1))
        rw [inserted]
        exact ⟨_, rfl, inv'⟩
      · rw [keep]
        dsimp only
        obtain ⟨reached, inserted, inv'⟩ := inv.insertAdmitted valid ahead
          ((s.buffer.lastContinuousFrame.map (·.pictureId)).getD (-1))
        rw [inserted]
        exact ⟨_, rfl, inv'⟩
  | nextFrame latestReturnTimeMs keyframeRequired maxWaitingTime =>
      unfold FrameSession.step FrameBuffer.nextFrame
      dsimp only
      split
      · exact ⟨s, rfl, inv⟩
      · obtain ⟨chosen, found, ready⟩ := @FrameBuffer.findNextFrame_spec _ _
          { s.buffer with
            latestReturnTimeMs := latestReturnTimeMs
            keyframeRequired := keyframeRequired
            callbackTask := true } inv.wired inv.counted maxWaitingTime
        rw [found]
        exact ⟨_, rfl, inv.wired, inv.counted, inv.records, inv.increasing, inv.supported,
          fun _ => ready⟩
  | findAgain maxWaitingTime =>
      unfold FrameSession.step FrameBuffer.findAgain
      dsimp only
      split
      · obtain ⟨buffer, found, inv'⟩ := inv.findNextFrame maxWaitingTime
        rw [found]
        exact ⟨_, rfl, inv'⟩
      · exact ⟨s, rfl, inv⟩
  | runCallback nowMs maxWaitingTime =>
      unfold FrameSession.step FrameBuffer.runCallback
      dsimp only
      by_cases running : s.buffer.callbackTask = true
      swap
      · rw [if_pos (by simpa using running)]
        exact ⟨_, rfl, inv.append_nil⟩
      rw [if_neg (by simpa using running)]
      by_cases chosen : s.buffer.framesToDecode = []
      · rw [if_neg (not_not.mpr chosen)]
        split_ifs
        · have inv' : ({ s with buffer := { s.buffer with callbackTask := false } } :
              FrameSession).Inv :=
            ⟨inv.wired, inv.counted, inv.records, inv.increasing, inv.supported,
              fun off => nomatch off⟩
          exact ⟨_, rfl, inv'.append_nil⟩
        · obtain ⟨buffer, found, inv'⟩ := inv.findNextFrame maxWaitingTime
          rw [found]
          exact ⟨_, rfl, inv'.append_nil⟩
      · rw [if_pos chosen, FrameBuffer.getNextFrame, if_neg chosen]
        obtain ⟨frames, history, out, handed, wired, counted, records, increasing, supported⟩ :=
          FrameBuffer.handOut_spec inv.wired inv.counted inv.records inv.increasing
            (inv.ready running)
        rw [handed]
        have ids : (s.handedOut ++ out).map EncodedFrame.id =
            s.handedIds ++ out.map EncodedFrame.id := List.map_append
        refine ⟨_, rfl, ?_⟩
        rw [← ids] at wired counted records increasing
        refine ⟨wired, counted, records, increasing, ?_, fun off => nomatch off⟩
        exact EncodedFrame.supported_append.mpr ⟨inv.supported, supported⟩
  | clear => exact ⟨_, rfl, inv_cleared s.buffer⟩
  | start =>
      exact ⟨_, rfl, inv.wired, inv.counted, inv.records, inv.increasing, inv.supported, inv.ready⟩
  | stop =>
      refine ⟨_, rfl, ?_⟩
      unfold FrameBuffer.stop
      split
      · exact inv
      · exact ⟨inv.wired, inv.counted, inv.records, inv.increasing, inv.supported,
          fun off => nomatch off⟩

theorem Inv.run (inv : s.Inv)
    (events : List FrameEvent) : ∃ s', s.run events = some s' ∧ s'.Inv := by
  induction events generalizing s with
  | nil => exact ⟨s, rfl, inv⟩
  | cons event events ih =>
      obtain ⟨next, stepped, inv⟩ := inv.step event
      obtain ⟨last, ran, inv⟩ := ih inv
      exact ⟨last, by rw [FrameSession.run, stepped, Option.bind_some, ran], inv⟩

/-- In every run of a frame buffer no operation fails, and what it promises holds. The ids are numbers
without a bound; of `int64_t` the same is true as long as no two ids of a run are `2 ^ 63` apart,
beyond which `IsRepresentable` fails. -/
theorem frame_buffer_sound (events : List FrameEvent) :
    ∃ s, ({} : FrameSession).run events = some s ∧ s.Sound := by
  have initial : ({} : FrameSession).Inv :=
    ⟨wired_empty, counted_empty, DecodedFramesHistory.records_initial, .nil, trivial,
      fun off => nomatch off⟩
  obtain ⟨s, ran, inv⟩ := initial.run events
  exact ⟨s, ran, inv.sound⟩

end FrameSession

end MpWebRtc
