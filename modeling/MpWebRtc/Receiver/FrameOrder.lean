import MpWebRtc.Receiver.FrameDependencies

/-!
# The order in which frames are handed out

What `FindNextFrame` chooses stays ready until it is handed out, however many frames are inserted
in between: everything a chosen frame depends on has been handed out, or is chosen before it. So
frames leave the buffer in the order of their ids, each behind all it depends on.
-/

namespace MpWebRtc

open Math

namespace DecodedFramesHistory

/-- The history records the frames that were handed out, which come in order. -/
structure Records (history : DecodedFramesHistory) (handed : List VideoLayerFrameId) : Prop where
  sound : history.Sound handed
  newest : ∀ other ∈ handed, ∃ last, history.getLastDecodedFrameId = some last ∧ other ≤ last
  last : ∀ last, history.getLastDecodedFrameId = some last → last ∈ handed

theorem records_initial : ({} : DecodedFramesHistory).Records [] :=
  ⟨sound_initial, fun _ => nofun, fun _ => nofun⟩

theorem Records.insertDecoded {history : DecodedFramesHistory} {handed : List VideoLayerFrameId}
    (records : history.Records handed) {id : VideoLayerFrameId}
    (ahead : ∀ other ∈ handed, other < id) (timestamp : UInt32) :
    (history.insertDecoded id timestamp).Records (handed ++ [id]) where
  sound := records.sound.insertDecoded ahead timestamp
  newest other member := by
    refine ⟨id, rfl, ?_⟩
    rcases List.mem_append.mp member with member | last
    · exact (ahead other member).le
    · exact (List.mem_singleton.mp last).le
  last last known := by
    obtain rfl := Option.some.inj known
    exact List.mem_append_right _ (List.mem_singleton.mpr rfl)

end DecodedFramesHistory

namespace EncodedFrame

/-- Each frame comes behind all it depends on. -/
def Supported : (given : List VideoLayerFrameId) → List EncodedFrame → Prop
  | _, [] => True
  | given, frame :: frames =>
      (∀ key ∈ frame.dependencies, key ∈ given) ∧ Supported (given ++ [frame.id]) frames

theorem supported_append {given : List VideoLayerFrameId} {earlier later : List EncodedFrame} :
    Supported given (earlier ++ later) ↔
      Supported given earlier ∧ Supported (given ++ earlier.map id) later := by
  induction earlier generalizing given with
  | nil => simp [Supported]
  | cons frame earlier ih =>
      rw [List.cons_append, Supported, Supported, ih, and_assoc, List.map_cons, List.append_assoc]
      rfl

variable {frame : EncodedFrame}

theorem distinct_of_valid (valid : frame.validReferences = true) : frame.dependencies.Nodup := by
  unfold validReferences at valid
  simp only [Bool.and_eq_true, List.all_eq_true, decide_eq_true_eq] at valid
  obtain ⟨⟨earlier, distinct⟩, -⟩ := valid
  refine List.Nodup.append (distinct.map fun first second same => ?_) ?_ fun key member lower => ?_
  · exact (VideoLayerFrameId.mk.inj same).1
  · split
    · exact List.nodup_singleton _
    · exact .nil
  · obtain ⟨reference, listed, rfl⟩ := List.mem_map.mp member
    split at lower
    · have same := congrArg VideoLayerFrameId.pictureId (List.mem_singleton.mp lower)
      exact absurd same (earlier reference listed).ne
    · exact nomatch lower

theorem before_of_valid (valid : frame.validReferences = true) :
    ∀ key ∈ frame.dependencies, key < frame.id := by
  unfold validReferences at valid
  simp only [Bool.and_eq_true, List.all_eq_true, decide_eq_true_eq, Bool.not_eq_true',
    Bool.and_eq_false_iff, beq_eq_false_iff_ne] at valid
  obtain ⟨⟨earlier, -⟩, layer⟩ := valid
  intro key member
  rcases List.mem_append.mp member with member | lower
  · obtain ⟨reference, listed, rfl⟩ := List.mem_map.mp member
    exact .inl (earlier reference listed)
  · split_ifs at lower with predicted
    · obtain rfl := List.mem_singleton.mp lower
      refine .inr ⟨rfl, ?_⟩
      rw [predicted] at layer
      have positive := layer.resolve_left Bool.noConfusion
      change frame.id.spatialLayer - 1 < frame.id.spatialLayer
      omega
    · exact nomatch lower

end EncodedFrame

namespace FrameMap

variable {frames next : FrameMap} {handed settled settled' done : List VideoLayerFrameId}
variable {ids : List VideoLayerFrameId}

/-- The ids are those of continuous frames in order, and every dependency of one is in `done` or
comes before it. -/
def Ready (frames : FrameMap) (settled : List VideoLayerFrameId) :
    (done : List VideoLayerFrameId) → List VideoLayerFrameId → Prop
  | _, [] => True
  | done, id :: ids =>
      (∃ frame, frames.frameAt id = some frame ∧ id ∈ settled ∧
        ∀ key ∈ frame.dependencies, key ∈ done) ∧
      (∀ later ∈ ids, id < later) ∧ Ready frames settled (done ++ [id]) ids

/-- Frames stay ready, as long as they are there. -/
theorem Ready.mono (ready : Ready frames settled done ids)
    (kept : ∀ id ∈ ids, id ∈ settled → next.frameAt id = frames.frameAt id ∧ id ∈ settled') :
    Ready next settled' done ids := by
  induction ids generalizing done with
  | nil => trivial
  | cons id ids ih =>
      obtain ⟨⟨frame, held, visited, given⟩, first, rest⟩ := ready
      obtain ⟨same, visited⟩ := kept id (.head _) visited
      exact ⟨⟨frame, same.trans held, visited, given⟩, first,
        ih rest fun other member => kept other (.tail _ member)⟩

theorem Ready.isSome_frameAt (ready : Ready frames settled done ids) :
    ∀ id ∈ ids, (frames.frameAt id).isSome := by
  induction ids generalizing done with
  | nil => exact fun _ member => nomatch member
  | cons id ids ih =>
      obtain ⟨⟨frame, held, -⟩, -, rest⟩ := ready
      intro other member
      rcases List.mem_cons.mp member with rfl | member
      · rw [held]
        rfl
      · exact ih rest other member

end FrameMap

namespace FrameBuffer

variable {frames : FrameMap} {handed settled ids : List VideoLayerFrameId}
variable {history : DecodedFramesHistory}

/-- Frames that are ready are handed out. -/
theorem handOut_spec (wired : frames.Wired handed) (counted : frames.Counted handed settled [])
    (records : history.Records handed) (ordered : handed.Pairwise (· < ·))
    (ready : frames.Ready settled handed ids) :
    ∃ next history' out, handOut ids frames history = some (next, history', out) ∧
      next.Wired (handed ++ out.map EncodedFrame.id) ∧
      next.Counted (handed ++ out.map EncodedFrame.id) settled [] ∧
      history'.Records (handed ++ out.map EncodedFrame.id) ∧
      (handed ++ out.map EncodedFrame.id).Pairwise (· < ·) ∧
      EncodedFrame.Supported handed out := by
  induction ids generalizing frames handed history with
  | nil =>
      refine ⟨frames, history, [], rfl, ?_⟩
      rw [List.map_nil, List.append_nil]
      exact ⟨wired, counted, records, ordered, trivial⟩
  | cons id ids ih =>
      obtain ⟨⟨frame, held, visited, given⟩, first, rest⟩ := ready
      obtain ⟨info, found, isFrame⟩ := FrameMap.exists_of_frameAt held
      obtain rfl : frame.id = id := wired.named held
      obtain ⟨reached, propagated, wired', counted', kept⟩ := wired.handOut counted found visited
      have ahead := wired.ahead found
      have ordered' : (handed ++ [frame.id]).Pairwise (· < ·) := by
        rw [List.pairwise_append]
        refine ⟨ordered, List.pairwise_singleton _ _, fun other member last known => ?_⟩
        rw [List.mem_singleton.mp known]
        exact ahead other member
      obtain ⟨next, history', out, ran, wired'', counted'', records', ordered'', supported⟩ :=
        ih wired' counted' (records.insertDecoded ahead frame.timestamp) ordered'
          (rest.mono fun other member visited => ⟨kept other (first other member), visited⟩)
      refine ⟨next, history', frame :: out, ?_, ?_⟩
      · rw [handOut, found, Option.bind_some, isFrame, Option.bind_some, propagated,
          Option.bind_some, ran]
        rfl
      · rw [List.map_cons, List.append_cons]
        exact ⟨wired'', counted'', records', ordered'', given, supported⟩

section Find

variable {front suffix : List (VideoLayerFrameId × FrameInfo)}
variable {entry : VideoLayerFrameId × FrameInfo}

theorem find_of_split (split : frames.entries = front ++ entry :: suffix) :
    frames.find entry.1 = some entry.2 := by
  rw [OrderedMap.find_eq_some_iff, split]
  exact List.mem_append_cons_self

/-- Two entries that follow one another have no key between them. -/
theorem key_eq_of_between {after : VideoLayerFrameId × FrameInfo} {key : VideoLayerFrameId}
    (split : frames.entries = front ++ entry :: after :: suffix) (there : (frames.find key).isSome)
    (low : entry.1 ≤ key) (high : key < after.1) : key = entry.1 := by
  obtain ⟨info, found⟩ := Option.isSome_iff_exists.mp there
  have member := OrderedMap.find_eq_some_iff.mp found
  have sorted := frames.sorted
  rw [split, List.pairwise_append] at sorted
  obtain ⟨-, sorted, across⟩ := sorted
  rw [split, List.mem_append, List.mem_cons, List.mem_cons] at member
  rcases member with earlier | same | same | later
  · exact absurd (across _ earlier _ (.head _)) low.not_gt
  · rw [← same]
  · rw [← same] at high
    exact absurd high (lt_irrefl key)
  · have behind := List.rel_of_pairwise_cons (List.pairwise_cons.mp sorted).2 later
    exact absurd high behind.not_gt

/-- The frames that follow in a superframe are ready behind those before. -/
theorem gatherSuperframe_spec {frame : EncodedFrame} {done : List VideoLayerFrameId}
    (wired : frames.Wired handed) (counted : frames.Counted handed settled [])
    (split : frames.entries = front ++ entry :: suffix)
    (picture : entry.1.pictureId = frame.id.pictureId) (given : ∀ id ∈ handed, id ∈ done)
    (here : entry.1 ∈ done) (completed : Bool) :
    ∃ superframe, gatherSuperframe frame completed suffix = some superframe ∧
      frames.Ready settled done superframe.1 ∧ ∀ later ∈ superframe.1, entry.1 < later := by
  induction suffix generalizing front entry done completed with
  | nil => exact ⟨([], completed), rfl, trivial, fun _ member => nomatch member⟩
  | cons after suffix ih =>
      have nothing : ∃ superframe, some (([] : List VideoLayerFrameId), completed) = some superframe ∧
          frames.Ready settled done superframe.1 ∧ ∀ later ∈ superframe.1, entry.1 < later :=
        ⟨_, rfl, trivial, fun _ member => nomatch member⟩
      have split' : frames.entries = (front ++ [entry]) ++ after :: suffix := by
        rw [split, List.append_assoc]
        rfl
      have found := find_of_split split'
      have later : entry.1 < after.1 := by
        have sorted := frames.sorted
        rw [split, List.pairwise_append] at sorted
        exact List.rel_of_pairwise_cons sorted.2.1 (.head _)
      unfold gatherSuperframe
      split_ifs with stops
      · exact nothing
      simp only [Bool.or_eq_true, decide_eq_true_eq, not_or, not_not, Bool.not_eq_true',
        Bool.not_eq_false] at stops
      obtain ⟨same, continuous⟩ := stops
      obtain ⟨frame', isFrame⟩ := Option.isSome_iff_exists.mp (counted.complete found continuous).2
      rw [isFrame, Option.bind_some]
      dsimp only
      by_cases many : (if frame'.interLayerPredicted = true then 1 else 0) <
          after.2.numMissingDecodable
      · rw [if_pos many]
        exact nothing
      rw [if_neg many]
      by_cases other : frame.timestamp ≠ frame'.timestamp
      · rw [if_pos other]
        exact nothing
      rw [if_neg other]
      have held : frames.frameAt after.1 = some frame' := (FrameMap.frameAt_eq found).trans isFrame
      have named : frame'.id = after.1 := wired.named held
      have supported : ∀ key ∈ frame'.dependencies, key ∈ done := by
        intro key needed
        by_cases passed : key ∈ handed
        · exact given key passed
        -- one dependency may be missing, which is then the frame just before
        have count := wired.decodable found isFrame
        have some := missing_pos needed passed
        have predicted : frame'.interLayerPredicted = true := by
          by_contra off
          rw [if_neg off] at many
          omega
        rw [if_pos predicted] at many
        have lower : frame'.lowerLayer ∈ frame'.dependencies := by
          unfold EncodedFrame.dependencies
          rw [if_pos predicted]
          exact List.mem_append_cons_self
        have below : frame'.lowerLayer < after.1 := wired.before ⟨frame', held, lower⟩
        have above : entry.1 ≤ frame'.lowerLayer := by
          have layers := (VideoLayerFrameId.lt_def _ _).mp later
          rw [VideoLayerFrameId.le_def]
          change entry.1.pictureId < frame'.id.pictureId ∨ entry.1.pictureId = frame'.id.pictureId ∧
            entry.1.spatialLayer ≤ frame'.id.spatialLayer - 1
          rw [named]
          omega
        have behind := wired.ahead (find_of_split split)
        have fresh : frame'.lowerLayer ∉ handed := fun member =>
          absurd (behind _ member) above.not_gt
        have there : (frames.find frame'.lowerLayer).isSome :=
          (wired.registered ⟨frame', held, lower⟩ fresh).resolve_right
            fun ⟨other, member, passed⟩ =>
              absurd ((behind other member).trans_le above) passed.not_gt
        have isLower : key = frame'.lowerLayer := by
          by_contra apart
          exact passed (mem_of_missing_le_one (by omega) (wired.distinct held) lower fresh needed
            apart)
        rw [isLower, key_eq_of_between split there above below]
        exact here
      have visited : after.1 ∈ settled :=
        ((counted.flagged found).mp continuous).resolve_right List.not_mem_nil
      obtain ⟨superframe, gathered, ready, behind⟩ := ih split' same
        (fun id member => List.mem_append_left [after.1] (given id member))
        List.mem_append_cons_self frame'.isLastSpatialLayer
      rw [gathered]
      refine ⟨_, rfl, ⟨⟨frame', held, visited, supported⟩, behind, ready⟩, fun id member => ?_⟩
      rcases List.mem_cons.mp member with rfl | member
      · exact later
      · exact later.trans (behind id member)

/-- What `FindNextFrame` chooses is ready. -/
theorem findLoop_spec {b : FrameBuffer} (wired : b.frames.Wired handed)
    (counted : b.frames.Counted handed settled []) (maxWaitingTime : EncodedFrame → Int)
    (split : b.frames.entries = front ++ suffix) {chosen : List VideoLayerFrameId}
    (ready : b.frames.Ready settled handed chosen) :
    ∃ chosen', b.findLoop maxWaitingTime chosen suffix = some chosen' ∧
      b.frames.Ready settled handed chosen' := by
  induction suffix generalizing front chosen with
  | nil => exact ⟨chosen, rfl, ready⟩
  | cons entry suffix ih =>
      have next : ∀ {chosen}, b.frames.Ready settled handed chosen →
          ∃ chosen', b.findLoop maxWaitingTime chosen suffix = some chosen' ∧
            b.frames.Ready settled handed chosen' := by
        have split' : b.frames.entries = (front ++ [entry]) ++ suffix := by
          rw [split, List.append_assoc]
          rfl
        exact fun {_} ready => ih split' ready
      unfold findLoop
      split_ifs with past skip
      · exact ⟨chosen, rfl, ready⟩
      · exact next ready
      simp only [Bool.or_eq_true, Bool.not_eq_true', decide_eq_true_eq, not_or, Bool.not_eq_false,
        Nat.not_lt, Nat.le_zero_eq] at skip
      obtain ⟨continuous, none⟩ := skip
      have found := find_of_split split
      obtain ⟨frame, isFrame⟩ := Option.isSome_iff_exists.mp (counted.complete found continuous).2
      rw [isFrame, Option.bind_some]
      by_cases refused : (b.keyframeRequired && !frame.isKeyframe) = true
      · rw [if_pos refused]
        exact next ready
      rw [if_neg refused]
      by_cases old : (b.decodedFramesHistory.getLastDecodedFrameTimestamp.any fun last =>
          timestampAheadOf last frame.timestamp) = true
      · rw [if_pos old]
        exact next ready
      rw [if_neg old]
      by_cases upper : frame.interLayerPredicted = true
      · rw [if_pos upper]
        exact next ready
      rw [if_neg upper]
      have held : b.frames.frameAt entry.1 = some frame := (FrameMap.frameAt_eq found).trans isFrame
      have named : frame.id = entry.1 := wired.named held
      have supported : ∀ key ∈ frame.dependencies, key ∈ handed :=
        missing_eq_zero_iff.mp ((wired.decodable found isFrame).symm.trans none)
      have visited : entry.1 ∈ settled :=
        ((counted.flagged found).mp continuous).resolve_right List.not_mem_nil
      obtain ⟨superframe, gathered, follow, behind⟩ := gatherSuperframe_spec wired counted split
        (congrArg VideoLayerFrameId.pictureId named.symm)
        (fun id member => List.mem_append_left [entry.1] member)
        List.mem_append_cons_self frame.isLastSpatialLayer
      have whole : b.frames.Ready settled handed (entry.1 :: superframe.1) :=
        ⟨⟨frame, held, visited, supported⟩, behind, follow⟩
      rw [gathered, Option.bind_some]
      split_ifs
      · exact next ready
      · exact next whole
      · exact ⟨_, rfl, whole⟩

theorem findNextFrame_spec {b : FrameBuffer} (wired : b.frames.Wired handed)
    (counted : b.frames.Counted handed settled []) (maxWaitingTime : EncodedFrame → Int) :
    ∃ chosen, b.findNextFrame maxWaitingTime = some { b with framesToDecode := chosen } ∧
      b.frames.Ready settled handed chosen := by
  have split : b.frames.entries = [] ++ b.frames.entries := rfl
  have start : b.frames.Ready settled handed [] := trivial
  obtain ⟨chosen, found, ready⟩ := findLoop_spec wired counted maxWaitingTime split start
  exact ⟨chosen, by rw [findNextFrame, found]; rfl, ready⟩

end Find

end FrameBuffer

end MpWebRtc
