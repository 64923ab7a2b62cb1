import MpWebRtc.Math.Missing
import MpWebRtc.Receiver.FrameCounters

/-!
# The dependencies of buffered frames

The entries of the frame buffer are wired: an entry lists exactly the frames in the buffer that
depend on its id, and whatever a buffered frame depends on has an entry until it is handed out or
passed. The counters are those of the dependencies that are missing. Every operation of the buffer
preserves this, so no counter is ever counted below zero and no lookup of a dependent fails.
-/

namespace MpWebRtc

open Math

namespace FrameMap

variable {frames next : FrameMap} {handed settled queue : List VideoLayerFrameId}
variable {id key : VideoLayerFrameId} {info : FrameInfo} {frame : EncodedFrame}

/-- The frame under an id. -/
def frameAt (frames : FrameMap) (id : VideoLayerFrameId) : Option EncodedFrame :=
  (frames.find id).bind FrameInfo.frame

theorem frameAt_eq (found : frames.find id = some info) : frames.frameAt id = info.frame := by
  rw [frameAt, found, Option.bind_some]

theorem exists_of_frameAt (held : frames.frameAt id = some frame) :
    ∃ info, frames.find id = some info ∧ info.frame = some frame :=
  Option.bind_eq_some_iff.mp held

/-- The frame under `id` depends on `key`. -/
def Needs (frames : FrameMap) (id key : VideoLayerFrameId) : Prop :=
  ∃ frame, frames.frameAt id = some frame ∧ key ∈ frame.dependencies

/-- The entries are wired as the frames depend on each other; all ids in `handed` have been handed
out. -/
structure Wired (frames : FrameMap) (handed : List VideoLayerFrameId) : Prop where
  named : ∀ {id frame}, frames.frameAt id = some frame → frame.id = id
  distinct : ∀ {id frame}, frames.frameAt id = some frame → frame.dependencies.Nodup
  before : ∀ {id key}, frames.Needs id key → key < id
  listedOnce : ∀ {id info}, frames.find id = some info → info.dependentFrames.Nodup
  listed : ∀ {id info}, frames.find id = some info →
    ∀ dependent, dependent ∈ info.dependentFrames ↔ frames.Needs dependent id
  registered : ∀ {id key}, frames.Needs id key → key ∉ handed →
    (frames.find key).isSome ∨ ∃ other ∈ handed, key ≤ other
  decodable : ∀ {id info frame}, frames.find id = some info → info.frame = some frame →
    info.numMissingDecodable = missing frame.dependencies handed
  ahead : ∀ {id info}, frames.find id = some info → ∀ other ∈ handed, other < id

/-- The counters of missing continuous frames. The ids in `settled` have been continuous and their
dependents know; those in `queue` are continuous, but their dependents do not know yet. -/
structure Counted (frames : FrameMap) (handed settled queue : List VideoLayerFrameId) : Prop where
  counted : ∀ {id info frame}, frames.find id = some info → info.frame = some frame →
    info.numMissingContinuous = missing frame.dependencies (settled ++ handed)
  flagged : ∀ {id info}, frames.find id = some info →
    (info.continuous = true ↔ id ∈ settled ∨ id ∈ queue)
  complete : ∀ {id info}, frames.find id = some info → info.continuous = true →
    info.numMissingContinuous = 0 ∧ info.frame.isSome
  known : ∀ id ∈ settled, (frames.find id).isSome ∨ ∃ other ∈ handed, id ≤ other
  queued : queue.Nodup
  waiting : ∀ id ∈ queue, (frames.find id).isSome ∧ id ∉ settled

theorem Wired.not_mem_handed (wired : Wired frames handed) (found : frames.find id = some info) :
    id ∉ handed := fun member => lt_irrefl id (wired.ahead found id member)

section Visit

/-- What propagation of continuity leaves alone. -/
def SameWiring (frames next : FrameMap) : Prop :=
  ∀ id, (next.find id).map (fun info =>
      (info.dependentFrames, info.numMissingDecodable, info.frame)) =
    (frames.find id).map fun info => (info.dependentFrames, info.numMissingDecodable, info.frame)

theorem SameWiring.refl (frames : FrameMap) : SameWiring frames frames := fun _ => rfl

theorem SameWiring.trans {last : FrameMap} (first : SameWiring frames next)
    (second : SameWiring next last) : SameWiring frames last :=
  fun id => (second id).trans (first id)

section

variable (same : SameWiring frames next)
include same

theorem SameWiring.find {info' : FrameInfo} (found : next.find id = some info') :
    ∃ info, frames.find id = some info ∧ info.dependentFrames = info'.dependentFrames ∧
      info.numMissingDecodable = info'.numMissingDecodable ∧ info.frame = info'.frame := by
  have known := same id
  rw [found] at known
  obtain ⟨info, found, equal⟩ := Option.map_eq_some_iff.mp known.symm
  obtain ⟨first, rest⟩ := Prod.mk.inj equal
  exact ⟨info, found, first, Prod.mk.inj rest⟩

theorem SameWiring.frameAt (id : VideoLayerFrameId) : next.frameAt id = frames.frameAt id := by
  have known := congrArg (fun found => found.bind fun parts => parts.2.2) (same id)
  simp only [Option.bind_map, Function.comp_def] at known
  exact known

theorem SameWiring.isSome_find (id : VideoLayerFrameId) :
    (next.find id).isSome = (frames.find id).isSome := by
  have known := congrArg Option.isSome (same id)
  rwa [Option.isSome_map, Option.isSome_map] at known

theorem SameWiring.needs : next.Needs id key ↔ frames.Needs id key := by
  unfold Needs
  rw [same.frameAt]

end

theorem Wired.of_sameWiring (wired : Wired frames handed) (same : SameWiring frames next) :
    Wired next handed where
  named held := wired.named ((same.frameAt _).symm.trans held)
  distinct held := wired.distinct ((same.frameAt _).symm.trans held)
  before needs := wired.before (same.needs.mp needs)
  listedOnce found := by
    obtain ⟨info, before, equal, -⟩ := same.find found
    exact equal ▸ wired.listedOnce before
  listed found dependent := by
    obtain ⟨info, before, equal, -⟩ := same.find found
    rw [← equal, same.needs]
    exact wired.listed before dependent
  registered needs fresh := by
    rw [same.isSome_find]
    exact wired.registered (same.needs.mp needs) fresh
  decodable found held := by
    obtain ⟨info, before, -, equal, frames⟩ := same.find found
    exact equal ▸ wired.decodable before (frames.trans held)
  ahead found := by
    obtain ⟨info, before, -⟩ := same.find found
    exact wired.ahead before

/-- The dependents of a frame in the queue still count it. -/
theorem Counted.counts_dependents (counted : Counted frames handed settled (id :: queue))
    (wired : Wired frames handed) (found : frames.find id = some info)
    (dependent : VideoLayerFrameId) (member : dependent ∈ info.dependentFrames) :
    ∃ other frame, frames.find dependent = some other ∧ other.frame = some frame ∧
      id ∈ frame.dependencies ∧ 0 < other.numMissingContinuous := by
  obtain ⟨frame, held, needed⟩ := (wired.listed found dependent).mp member
  obtain ⟨other, there, held⟩ := exists_of_frameAt held
  refine ⟨other, frame, there, held, needed, ?_⟩
  rw [counted.counted there held]
  refine missing_pos needed fun done => ?_
  rcases List.mem_append.mp done with done | done
  · exact (counted.waiting id (.head _)).2 done
  · exact wired.not_mem_handed found done

/-- Visiting a frame of the queue: its dependents are counted down, and those that become continuous
join the queue. -/
theorem Counted.visit (counted : Counted frames handed settled (id :: queue))
    (wired : Wired frames handed) (found : frames.find id = some info) :
    ∃ reached, continueDependents info.dependentFrames frames = some reached ∧
      SameWiring frames reached.1 ∧
      Counted reached.1 handed (id :: settled) (queue ++ reached.2) := by
  have needy := counted.counts_dependents wired found
  obtain ⟨reached, done, effect, sub, fresh⟩ := continueDependents_eq_some
    (wired.listedOnce found) fun dependent member => by
      obtain ⟨other, -, there, -, -, positive⟩ := needy dependent member
      exact ⟨other, there, positive⟩
  have same : SameWiring frames reached.1 := by
    intro key
    rw [effect, Option.map_map]
    refine congrArg (fun change => Option.map change (frames.find key)) (funext fun info => ?_)
    dsimp only [Function.comp_apply]
    split <;> rfl
  -- an entry behind the visit, and what it was before
  have back : ∀ {key info'}, reached.1.find key = some info' → ∃ other,
      frames.find key = some other ∧
        info' = if key ∈ info.dependentFrames then other.oneContinuous else other := by
    intro key info' known
    rw [effect] at known
    obtain ⟨other, there, rfl⟩ := Option.map_eq_some_iff.mp known
    exact ⟨other, there, rfl⟩
  obtain ⟨apart, distinct⟩ := List.nodup_cons.mp counted.queued
  -- a dependent was not continuous
  have notYet : ∀ {key other}, frames.find key = some other → key ∈ info.dependentFrames →
      other.continuous = false := by
    intro key other there member
    obtain ⟨_, _, there', -, -, positive⟩ := needy key member
    obtain rfl := Option.some.inj (there.symm.trans there')
    refine Bool.eq_false_iff.mpr fun continuous => ?_
    exact positive.ne' (counted.complete there continuous).1
  refine ⟨reached, done, same, ?_, ?_, ?_, ?_, ?_, ?_⟩
  · intro key info' frame known held
    obtain ⟨other, there, rfl⟩ := back known
    have count : info.dependentFrames.contains key = true ↔ id ∈ frame.dependencies := by
      rw [List.contains_iff_mem, wired.listed found key]
      have held' : frames.frameAt key = some frame := by
        rw [← same.frameAt, frameAt_eq known, held]
      constructor
      · rintro ⟨_, held, needed⟩
        exact Option.some.inj (held'.symm.trans held) ▸ needed
      · exact fun needed => ⟨frame, held', needed⟩
    split_ifs at held ⊢ with member
    · obtain ⟨_, frame', there', held', needed, positive⟩ := needy key member
      obtain rfl := Option.some.inj (there.symm.trans there')
      obtain rfl := Option.some.inj (held.symm.trans held')
      have before := counted.counted there held
      have unmarked : id ∉ settled ++ handed := fun done => by
        rcases List.mem_append.mp done with done | done
        · exact (counted.waiting id (.head _)).2 done
        · exact wired.not_mem_handed found done
      have step := missing_cons_of_mem (wired.distinct ((frameAt_eq there).trans held)) needed
        unmarked
      rw [List.cons_append]
      change other.numMissingContinuous - 1 = _
      omega
    · have other' : id ∉ frame.dependencies := fun needed =>
        member (List.contains_iff_mem.mp (count.mpr needed))
      rw [List.cons_append, missing_cons_of_not_mem other']
      exact counted.counted there held
  · intro key info' known
    obtain ⟨other, there, rfl⟩ := back known
    have flag := counted.flagged there
    rw [List.mem_cons] at flag
    rw [List.mem_cons, List.mem_append, fresh]
    split_ifs with member
    · have off := notYet there member
      rw [off] at flag
      obtain ⟨-, no⟩ := not_or.mp (flag.not.mp Bool.false_ne_true)
      obtain ⟨_, _, there', -, -, positive⟩ := needy key member
      obtain rfl := Option.some.inj (there.symm.trans there')
      have outside := not_or.mp (flag.not.mp Bool.false_ne_true)
      have inner := not_or.mp outside.2
      simp only [FrameInfo.oneContinuous, off, Bool.false_or, decide_eq_true_eq, outside.1,
        inner.1, inner.2, or_false, false_or, member, true_and]
      constructor
      · exact fun last => ⟨other, there, by omega⟩
      · rintro ⟨_, there', one⟩
        obtain rfl := Option.some.inj (there.symm.trans there')
        omega
    · rw [flag]
      simp only [member, false_and, or_false]
      tauto
  · intro key info' known on
    obtain ⟨other, there, rfl⟩ := back known
    split_ifs at on ⊢ with member
    · have off := notYet there member
      simp only [FrameInfo.oneContinuous, off, Bool.false_or, decide_eq_true_eq] at on
      obtain ⟨_, frame, there', held, -⟩ := needy key member
      obtain rfl := Option.some.inj (there.symm.trans there')
      exact ⟨on, by rw [FrameInfo.oneContinuous, held]; rfl⟩
    · exact counted.complete there on
  · intro key member
    rw [same.isSome_find]
    rcases List.mem_cons.mp member with rfl | member
    · exact .inl (by rw [found]; rfl)
    · exact counted.known key member
  · refine distinct.append (sub.nodup (wired.listedOnce found)) fun key waits new => ?_
    obtain ⟨member, other, there, -⟩ := (fresh key).mp new
    have on := (counted.flagged there).mpr (.inr (.tail _ waits))
    rw [notYet there member] at on
    exact Bool.false_ne_true on
  · intro key member
    rw [same.isSome_find, List.mem_cons]
    rcases List.mem_append.mp member with waits | new
    · obtain ⟨there, outside⟩ := counted.waiting key (.tail _ waits)
      refine ⟨there, not_or.mpr ⟨?_, outside⟩⟩
      rintro rfl
      exact apart waits
    · obtain ⟨member, other, there, -⟩ := (fresh key).mp new
      have flag := counted.flagged there
      rw [notYet there member] at flag
      obtain ⟨outside, notQueued⟩ := not_or.mp (flag.not.mp Bool.false_ne_true)
      refine ⟨by rw [there]; rfl, not_or.mpr ⟨?_, outside⟩⟩
      rintro rfl
      exact notQueued (.head _)

/-- Propagation goes well, and settles what was in the queue. -/
theorem Counted.propagate (counted : Counted frames handed settled queue)
    (wired : Wired frames handed) (lastContinuousFrame : Option VideoLayerFrameId) :
    ∃ reached settled', propagateContinuity queue frames lastContinuousFrame = some reached ∧
      SameWiring frames reached.1 ∧ Counted reached.1 handed settled' [] ∧
      (∀ id ∈ settled, id ∈ settled') ∧
      (∀ id ∈ settled', id ∈ settled ∨ (frames.find id).isSome) ∧
      (queue ≠ [] ∨ lastContinuousFrame.isSome → reached.2.isSome) := by
  induction queue, frames, lastContinuousFrame using propagateContinuity.induct
    generalizing settled with
  | case1 frames last =>
      refine ⟨(frames, last), settled, by rw [propagateContinuity], .refl _, counted,
        fun _ => id, fun _ => .inl, ?_⟩
      exact fun some => some.resolve_left fun apart => apart rfl
  | case2 frames last id queue absent =>
      have there := (counted.waiting id (.head _)).1
      rw [absent] at there
      exact nomatch there
  | case3 frames last id queue info found failed =>
      obtain ⟨reached, done, -⟩ := counted.visit wired found
      exact nomatch failed.symm.trans done
  | case4 frames last id queue info found last' reached done =>
      rename_i ih
      obtain ⟨_, done', same, visited⟩ := counted.visit wired found
      obtain rfl := Option.some.inj (done.symm.trans done')
      obtain ⟨final, settled', ran, same', all, more, only, ends⟩ :=
        ih visited (wired.of_sameWiring same)
      refine ⟨final, settled', ?_, same.trans same', all,
        fun key member => more key (.tail _ member), fun key member => ?_, fun _ => ends (.inr ?_)⟩
      · rw [propagateContinuity, found]
        dsimp only
        split
        · next none => exact nomatch none.symm.trans done
        · rename_i some
          obtain rfl := Option.some.inj (some.symm.trans done)
          exact ran
      · rcases only key member with member | there
        · rcases List.mem_cons.mp member with rfl | member
          · exact .inr (by rw [found]; rfl)
          · exact .inl member
        · exact .inr ((same.isSome_find key).symm.trans there)
      · cases last with
        | none => rfl
        | some value =>
            change (if _ then some id else some value).isSome
            split <;> rfl

end Visit

section Enter

theorem needs_congr (same : next.frameAt id = frames.frameAt id) :
    next.Needs id key ↔ frames.Needs id key := by
  unfold Needs
  rw [same]

theorem frameAt_emplace (key : VideoLayerFrameId) :
    frameAt (frames.emplace id {}) key = frames.frameAt key := by
  unfold frameAt
  rw [OrderedMap.find_emplace]
  split_ifs with new
  · rw [new.1, new.2]
    rfl
  · rfl

/-- An entry without a frame. -/
theorem Wired.emplace (wired : Wired frames handed) (fresh : ∀ other ∈ handed, other < id) :
    Wired (frames.emplace id {}) handed where
  named held := wired.named ((frameAt_emplace _).symm.trans held)
  distinct held := wired.distinct ((frameAt_emplace _).symm.trans held)
  before needs := wired.before ((needs_congr (frameAt_emplace _)).mp needs)
  listedOnce found := by
    rw [OrderedMap.find_emplace] at found
    split_ifs at found
    · obtain rfl := Option.some.inj found
      exact .nil
    · exact wired.listedOnce found
  listed found dependent := by
    rw [needs_congr (frameAt_emplace _)]
    rw [OrderedMap.find_emplace] at found
    split_ifs at found with new
    · obtain ⟨rfl, absent⟩ := new
      obtain rfl := Option.some.inj found
      refine iff_of_false List.not_mem_nil fun needs => ?_
      have notHanded : _ ∉ handed := fun member => lt_irrefl _ (fresh _ member)
      rcases wired.registered needs notHanded with there | ⟨other, member, passed⟩
      · rw [absent] at there
        exact nomatch there
      · exact absurd passed (fresh other member).not_ge
    · exact wired.listed found dependent
  registered needs notHanded := by
    refine (wired.registered ((needs_congr (frameAt_emplace _)).mp needs) notHanded).imp_left
      fun there => ?_
    rw [OrderedMap.find_emplace]
    split_ifs
    · rfl
    · exact there
  decodable found held := by
    rw [OrderedMap.find_emplace] at found
    split_ifs at found
    · obtain rfl := Option.some.inj found
      exact nomatch held
    · exact wired.decodable found held
  ahead found := by
    rw [OrderedMap.find_emplace] at found
    split_ifs at found with new
    · exact new.1 ▸ fresh
    · exact wired.ahead found

theorem Counted.not_settled (counted : Counted frames handed settled queue)
    (fresh : ∀ other ∈ handed, other < id) (absent : frames.find id = none) : id ∉ settled := by
  intro member
  rcases counted.known id member with there | ⟨other, member, passed⟩
  · rw [absent] at there
    exact nomatch there
  · exact absurd passed (fresh other member).not_ge

theorem Counted.emplace (counted : Counted frames handed settled [])
    (fresh : ∀ other ∈ handed, other < id) : Counted (frames.emplace id {}) handed settled [] where
  counted found held := by
    rw [OrderedMap.find_emplace] at found
    split_ifs at found
    · obtain rfl := Option.some.inj found
      exact nomatch held
    · exact counted.counted found held
  flagged found := by
    rw [OrderedMap.find_emplace] at found
    split_ifs at found with new
    · obtain ⟨rfl, absent⟩ := new
      obtain rfl := Option.some.inj found
      exact iff_of_false Bool.false_ne_true
        (not_or.mpr ⟨counted.not_settled fresh absent, List.not_mem_nil⟩)
    · exact counted.flagged found
  complete found on := by
    rw [OrderedMap.find_emplace] at found
    split_ifs at found
    · obtain rfl := Option.some.inj found
      exact nomatch on
    · exact counted.complete found on
  known key member := by
    refine (counted.known key member).imp_left fun there => ?_
    rw [OrderedMap.find_emplace]
    split_ifs
    · rfl
    · exact there
  queued := .nil
  waiting _ member := nomatch member

/-- What `UpdateFrameInfoWithIncomingFrame` finds: the dependencies that have not been handed out,
and which of them are continuous. -/
structure Unfulfilled (handed settled : List VideoLayerFrameId) (frame : EncodedFrame)
    (pending : List FrameDependency) : Prop where
  ids : pending.map FrameDependency.id =
    frame.dependencies.filter fun key => decide (key ∉ handed)
  flags : ∀ dependency ∈ pending, dependency.continuous = decide (dependency.id ∈ settled)
  ahead : ∀ dependency ∈ pending, ∀ other ∈ handed, other < dependency.id

variable {pending : List FrameDependency} {old : FrameInfo}

section

variable (unfulfilled : Unfulfilled handed settled frame pending)
include unfulfilled

theorem Unfulfilled.mem_ids :
    key ∈ pending.map FrameDependency.id ↔ key ∈ frame.dependencies ∧ key ∉ handed := by
  rw [unfulfilled.ids, List.mem_filter, decide_eq_true_eq]

theorem Unfulfilled.length : pending.length = missing frame.dependencies handed := by
  have size := congrArg List.length unfulfilled.ids
  rwa [List.length_map, length_filter_not_mem] at size

/-- What is left of the counter of missing continuous frames. -/
theorem Unfulfilled.length_sub :
    pending.length - continuousAmong pending = missing frame.dependencies (settled ++ handed) := by
  have parts := List.length_eq_countP_add_countP FrameDependency.continuous (l := pending)
  have flags : pending.countP (fun dependency => !dependency.continuous) =
      (pending.map FrameDependency.id).countP fun key => decide (key ∉ settled) := by
    rw [List.countP_map]
    refine List.countP_congr fun dependency member => ?_
    simp [unfulfilled.flags dependency member]
  have rest : (pending.map FrameDependency.id).countP (fun key => decide (key ∉ settled)) =
      missing frame.dependencies (settled ++ handed) := by
    rw [unfulfilled.ids, List.countP_filter, missing]
    refine List.countP_congr fun key _ => ?_
    simp
  simp only [Bool.not_eq_true, Bool.decide_eq_false] at parts
  unfold continuousAmong
  omega

end

/-- How the map changes when a frame is entered under its id. -/
def Entered (frames next : FrameMap) (handed settled : List VideoLayerFrameId)
    (frame : EncodedFrame) (pending : List FrameDependency) (old : FrameInfo) : Prop :=
  ∀ key, next.find key =
    if key ∈ pending.map FrameDependency.id then
      some (((frames.find key).getD {}).neededBy frame.id)
    else if key = frame.id then
      some { old with
        numMissingContinuous := missing frame.dependencies (settled ++ handed)
        numMissingDecodable := missing frame.dependencies handed
        frame := some frame }
    else frames.find key

section

variable (entered : Entered frames next handed settled frame pending old)
include entered

/-- An entry behind that was there, or stands for a dependency that is new. -/
theorem Entered.cases {info' : FrameInfo} (found : next.find key = some info') :
    (key ∈ pending.map FrameDependency.id ∧
      info' = ((frames.find key).getD {}).neededBy frame.id) ∨
    (key ∉ pending.map FrameDependency.id ∧ key = frame.id ∧ info' =
      { old with
        numMissingContinuous := missing frame.dependencies (settled ++ handed)
        numMissingDecodable := missing frame.dependencies handed
        frame := some frame }) ∨
    (key ∉ pending.map FrameDependency.id ∧ key ≠ frame.id ∧ frames.find key = some info') := by
  rw [entered] at found
  split_ifs at found with waits same
  · exact .inl ⟨waits, (Option.some.inj found).symm⟩
  · exact .inr (.inl ⟨waits, same, (Option.some.inj found).symm⟩)
  · exact .inr (.inr ⟨waits, same, found⟩)

theorem Entered.isSome_find (there : (frames.find key).isSome) : (next.find key).isSome := by
  rw [entered]
  split_ifs
  · rfl
  · rfl
  · exact there

theorem Entered.frameAt
    (apart : frame.id ∉ pending.map FrameDependency.id) (key : VideoLayerFrameId) :
    next.frameAt key = if key = frame.id then some frame else frames.frameAt key := by
  unfold FrameMap.frameAt
  rw [entered]
  by_cases same : key = frame.id
  · rw [if_neg (same ▸ apart), if_pos same, if_pos same]
    rfl
  · rw [if_neg same, if_neg same]
    split_ifs
    · cases frames.find key <;> rfl
    · rfl

theorem Entered.needs
    (apart : frame.id ∉ pending.map FrameDependency.id) (empty : frames.frameAt frame.id = none) :
    next.Needs id key ↔ id = frame.id ∧ key ∈ frame.dependencies ∨ frames.Needs id key := by
  unfold Needs
  rw [entered.frameAt apart]
  split_ifs with same
  · subst same
    rw [empty]
    simp
  · simp [same]

end

variable (wired : Wired frames handed) (counted : Counted frames handed settled [])
  (found : frames.find frame.id = some old) (empty : old.frame = none)
  (distinct : frame.dependencies.Nodup) (before : ∀ key ∈ frame.dependencies, key < frame.id)
  (unfulfilled : Unfulfilled handed settled frame pending)
  (entered : Entered frames next handed settled frame pending old)

include before unfulfilled in
theorem Unfulfilled.apart : frame.id ∉ pending.map FrameDependency.id := fun member =>
  lt_irrefl _ (before _ (unfulfilled.mem_ids.mp member).1)

include wired found empty distinct before unfulfilled entered in
/-- Entering a frame keeps the wiring. -/
theorem Wired.enter : Wired next handed := by
  have apart := unfulfilled.apart before
  have none : frames.frameAt frame.id = none := (frameAt_eq found).trans empty
  have frameAt := entered.frameAt apart
  have needs : ∀ {id key}, next.Needs id key ↔
      id = frame.id ∧ key ∈ frame.dependencies ∨ frames.Needs id key := entered.needs apart none
  -- nothing in the buffer needs the frame before it has an entry
  have unlisted : ∀ {key info}, frames.find key = some info → frame.id ∉ info.dependentFrames := by
    intro key info there member
    obtain ⟨other, held, -⟩ := (wired.listed there _).mp member
    exact nomatch none.symm.trans held
  constructor
  · intro id other held
    rw [frameAt] at held
    split_ifs at held with same
    · obtain rfl := Option.some.inj held
      exact same.symm
    · exact wired.named held
  · intro id other held
    rw [frameAt] at held
    split_ifs at held
    · obtain rfl := Option.some.inj held
      exact distinct
    · exact wired.distinct held
  · intro id key need
    rcases needs.mp need with ⟨rfl, member⟩ | need
    · exact before key member
    · exact wired.before need
  · intro key info' there
    rcases entered.cases there with ⟨-, rfl⟩ | ⟨-, -, rfl⟩ | ⟨-, -, there⟩
    · change (((frames.find key).getD {}).dependentFrames ++ [frame.id]).Nodup
      cases known : frames.find key with
      | none => exact List.nodup_singleton _
      | some info =>
          refine (wired.listedOnce known).append (List.nodup_singleton _) fun other member last => ?_
          obtain rfl := List.mem_singleton.mp last
          exact unlisted known member
    · exact (wired.listedOnce found :)
    · exact wired.listedOnce there
  · intro key info' there dependent
    rw [needs]
    rcases entered.cases there with ⟨waits, rfl⟩ | ⟨-, rfl, rfl⟩ | ⟨outside, other, there⟩
    · obtain ⟨member, fresh⟩ := unfulfilled.mem_ids.mp waits
      change dependent ∈ ((frames.find key).getD {}).dependentFrames ++ [frame.id] ↔ _
      rw [List.mem_append, List.mem_singleton, or_comm]
      refine or_congr (iff_self_and.mpr fun _ => member) ?_
      cases known : frames.find key with
      | none =>
          refine iff_of_false List.not_mem_nil fun need => ?_
          rcases wired.registered need fresh with there | ⟨other, passed, behind⟩
          · rw [known] at there
            exact nomatch there
          · obtain ⟨dependency, listed, rfl⟩ := List.mem_map.mp waits
            exact absurd behind (unfulfilled.ahead dependency listed other passed).not_ge
      | some info => exact wired.listed known dependent
    · refine (wired.listed found dependent).trans (or_iff_right ?_).symm
      exact fun both => lt_irrefl _ (before _ both.2)
    · refine (wired.listed there dependent).trans (or_iff_right ?_).symm
      rintro ⟨rfl, member⟩
      have given : key ∈ handed := by
        by_contra fresh
        exact outside (unfulfilled.mem_ids.mpr ⟨member, fresh⟩)
      exact wired.not_mem_handed there given
  · intro id key need fresh
    rcases needs.mp need with ⟨rfl, member⟩ | need
    · refine .inl ?_
      rw [entered, if_pos (unfulfilled.mem_ids.mpr ⟨member, fresh⟩)]
      rfl
    · exact (wired.registered need fresh).imp_left entered.isSome_find
  · intro key info' other there held
    rcases entered.cases there with ⟨-, rfl⟩ | ⟨-, -, rfl⟩ | ⟨-, -, there⟩
    · cases known : frames.find key with
      | none =>
          rw [known] at held
          exact nomatch held
      | some info =>
          rw [known] at held
          exact (wired.decodable known held :)
    · obtain rfl := Option.some.inj held
      rfl
    · exact wired.decodable there held
  · intro key info' there
    rcases entered.cases there with ⟨waits, -⟩ | ⟨-, rfl, -⟩ | ⟨-, -, there⟩
    · obtain ⟨dependency, listed, rfl⟩ := List.mem_map.mp waits
      exact unfulfilled.ahead dependency listed
    · exact wired.ahead found
    · exact wired.ahead there

include counted found empty unfulfilled entered in
/-- Entering a frame keeps the counters. -/
theorem Counted.enter : Counted next handed settled [] := by
  -- the frame is not continuous yet
  have off : old.continuous = false := by
    refine Bool.eq_false_iff.mpr fun on => ?_
    have held := (counted.complete found on).2
    rw [empty] at held
    exact nomatch held
  constructor
  · intro key info' other there held
    rcases entered.cases there with ⟨-, rfl⟩ | ⟨-, -, rfl⟩ | ⟨-, -, there⟩
    · cases known : frames.find key with
      | none =>
          rw [known] at held
          exact nomatch held
      | some info =>
          rw [known] at held
          exact (counted.counted known held :)
    · obtain rfl := Option.some.inj held
      rfl
    · exact counted.counted there held
  · intro key info' there
    rcases entered.cases there with ⟨waits, rfl⟩ | ⟨-, rfl, rfl⟩ | ⟨-, -, there⟩
    · cases known : frames.find key with
      | none =>
          obtain ⟨dependency, listed, rfl⟩ := List.mem_map.mp waits
          exact iff_of_false Bool.false_ne_true (not_or.mpr
            ⟨counted.not_settled (unfulfilled.ahead dependency listed) known, List.not_mem_nil⟩)
      | some info => exact (counted.flagged known :)
    · exact (counted.flagged found :)
    · exact counted.flagged there
  · intro key info' there on
    rcases entered.cases there with ⟨-, rfl⟩ | ⟨-, -, rfl⟩ | ⟨-, -, there⟩
    · cases known : frames.find key with
      | none =>
          rw [known] at on
          exact nomatch on
      | some info =>
          rw [known] at on
          exact (counted.complete known on :)
    · rw [off] at on
      exact nomatch on
    · exact counted.complete there on
  · exact fun key member => (counted.known key member).imp_left entered.isSome_find
  · exact .nil
  · exact fun _ member => nomatch member

/-- A frame that misses nothing is marked, and is to be visited. -/
theorem Counted.mark (counted : Counted frames handed settled [])
    (found : frames.find id = some info) (zero : info.numMissingContinuous = 0)
    (held : info.frame.isSome) (fresh : id ∉ settled) :
    Counted (frames.modify id fun info => { info with continuous := true }) handed settled
    [id] := by
  have back : ∀ {key info'},
      OrderedMap.find (frames.modify id fun info => { info with continuous := true }) key =
        some info' → ∃ other, frames.find key = some other ∧
          info' = if key = id then { other with continuous := true } else other := by
    intro key info' known
    rw [OrderedMap.find_modify] at known
    split_ifs at known ⊢ with same
    · obtain ⟨other, there, rfl⟩ := Option.map_eq_some_iff.mp known
      exact ⟨other, there, rfl⟩
    · exact ⟨info', known, rfl⟩
  have isSome : ∀ key, (frames.find key).isSome →
      (OrderedMap.find (frames.modify id fun info => { info with continuous := true }) key).isSome := by
    intro key there
    rw [OrderedMap.find_modify]
    split_ifs
    · rwa [Option.isSome_map]
    · exact there
  constructor
  · intro key info' frame known held
    obtain ⟨other, there, rfl⟩ := back known
    split_ifs at held ⊢
    · exact (counted.counted there held :)
    · exact counted.counted there held
  · intro key info' known
    obtain ⟨other, there, rfl⟩ := back known
    rw [List.mem_singleton]
    split_ifs with same
    · exact iff_of_true rfl (.inr same)
    · rw [counted.flagged there]
      exact or_congr_right (iff_of_false List.not_mem_nil same)
  · intro key info' known on
    obtain ⟨other, there, rfl⟩ := back known
    split_ifs at on ⊢ with same
    · subst same
      obtain rfl := Option.some.inj (found.symm.trans there)
      exact ⟨zero, held⟩
    · exact counted.complete there on
  · exact fun key member => (counted.known key member).imp_left (isSome key)
  · exact List.nodup_singleton id
  · intro key member
    obtain rfl := List.mem_singleton.mp member
    exact ⟨isSome _ (by rw [found]; rfl), fresh⟩

theorem sameWiring_mark :
    SameWiring frames (frames.modify id fun info => { info with continuous := true }) := by
  intro key
  rw [OrderedMap.find_modify]
  split_ifs
  · rw [Option.map_map]
    rfl
  · rfl

end Enter

section HandOut

/-- The map behind handing out a frame: its dependents are counted down, and the frame is removed
with all before it. -/
theorem Wired.handOut (wired : Wired frames handed) (counted : Counted frames handed settled [])
    (found : frames.find id = some info) (visited : id ∈ settled) :
    ∃ reached, propagateDecodability info.dependentFrames frames = some reached ∧
      Wired (reached.filter fun entry => decide (id < entry.1)) (handed ++ [id]) ∧
      Counted (reached.filter fun entry => decide (id < entry.1)) (handed ++ [id]) settled [] ∧
      ∀ key, id < key →
        frameAt (reached.filter fun entry => decide (id < entry.1)) key = frames.frameAt key := by
  have fresh := wired.not_mem_handed found
  obtain ⟨reached, done, effect⟩ := propagateDecodability_eq_some (wired.listedOnce found)
    fun dependent member other there => by
      obtain ⟨frame, held, needed⟩ := (wired.listed found dependent).mp member
      rw [frameAt_eq there] at held
      rw [wired.decodable there held]
      exact missing_pos needed fresh
  refine ⟨reached, done, ?_⟩
  obtain ⟨next, kept⟩ : ∃ next : FrameMap, reached.filter (fun entry => decide (id < entry.1)) = next :=
    ⟨_, rfl⟩
  rw [kept]
  have find : ∀ key, next.find key = (reached.find key).filter fun _ => decide (id < key) :=
    fun key => kept ▸ OrderedMap.find_filter key
  -- an entry that is left, and what it was before
  have back : ∀ {key info'}, next.find key = some info' → id < key ∧ ∃ other,
      frames.find key = some other ∧
        info' = if key ∈ info.dependentFrames then other.oneDecoded else other := by
    intro key info' known
    rw [find, Option.filter_eq_some_iff, decide_eq_true_eq] at known
    obtain ⟨known, later⟩ := known
    rw [effect] at known
    obtain ⟨other, there, rfl⟩ := Option.map_eq_some_iff.mp known
    exact ⟨later, other, there, rfl⟩
  have isSome : ∀ {key}, id < key → (frames.find key).isSome → (next.find key).isSome := by
    intro key later there
    obtain ⟨other, there⟩ := Option.isSome_iff_exists.mp there
    rw [find, decide_eq_true later, effect, there]
    rfl
  have frameAt : ∀ key, next.frameAt key = if id < key then frames.frameAt key else none := by
    intro key
    unfold FrameMap.frameAt
    rw [find, effect]
    by_cases later : id < key
    · rw [if_pos later, decide_eq_true later]
      cases frames.find key with
      | none => rfl
      | some other =>
          change (if key ∈ info.dependentFrames then other.oneDecoded else other).frame = other.frame
          split <;> rfl
    · rw [if_neg later, decide_eq_false later]
      cases frames.find key <;> rfl
  have needs : ∀ {dependent key}, next.Needs dependent key ↔
      id < dependent ∧ frames.Needs dependent key := by
    intro dependent key
    unfold Needs
    rw [frameAt]
    split_ifs with later
    · simp only [later, true_and]
    · simp [later]
  have passed : ∀ {key}, ((frames.find key).isSome ∨ ∃ other ∈ handed, key ≤ other) →
      (next.find key).isSome ∨ ∃ other ∈ handed ++ [id], key ≤ other := by
    rintro key (there | ⟨other, member, behind⟩)
    · rcases lt_or_ge id key with later | behind
      · exact .inl (isSome later there)
      · exact .inr ⟨id, List.mem_append_right _ (List.mem_singleton.mpr rfl), behind⟩
    · exact .inr ⟨other, List.mem_append_left _ member, behind⟩
  have before : ∀ other ∈ handed ++ [id], other ≤ id := by
    intro other member
    rcases List.mem_append.mp member with member | last
    · exact (wired.ahead found other member).le
    · exact (List.mem_singleton.mp last).le
  refine ⟨⟨?_, ?_, ?_, ?_, ?_, ?_, ?_, ?_⟩, ⟨?_, ?_, ?_, ?_, .nil, fun _ member => nomatch member⟩,
    fun key later => (frameAt key).trans (if_pos later)⟩
  · intro key frame held
    rw [frameAt] at held
    split_ifs at held
    exact wired.named held
  · intro key frame held
    rw [frameAt] at held
    split_ifs at held
    exact wired.distinct held
  · exact fun need => wired.before (needs.mp need).2
  · intro key info' known
    obtain ⟨-, other, there, rfl⟩ := back known
    split_ifs
    · exact (wired.listedOnce there :)
    · exact wired.listedOnce there
  · intro key info' known dependent
    obtain ⟨later, other, there, rfl⟩ := back known
    have all : dependent ∈ other.dependentFrames ↔ next.Needs dependent key := by
      rw [wired.listed there, needs]
      exact (and_iff_right_of_imp fun need => later.trans (wired.before need)).symm
    split_ifs
    · exact all
    · exact all
  · intro dependent key need fresh
    exact passed (wired.registered (needs.mp need).2 fun member =>
      fresh (List.mem_append_left _ member))
  · intro key info' frame known held
    obtain ⟨later, other, there, rfl⟩ := back known
    have same : missing frame.dependencies (handed ++ [id]) =
        missing frame.dependencies (id :: handed) :=
      missing_congr fun dependency _ => by simp [or_comm]
    rw [same]
    split_ifs at held ⊢ with member
    · change other.frame = _ at held
      obtain ⟨_, held', needed⟩ := (wired.listed found key).mp member
      rw [frameAt_eq there, held] at held'
      obtain rfl := Option.some.inj held'
      have step := missing_cons_of_mem (wired.distinct ((frameAt_eq there).trans held)) needed fresh
      have before := wired.decodable there held
      change other.numMissingDecodable - 1 = _
      omega
    · have apart : id ∉ frame.dependencies := fun needed =>
        member ((wired.listed found key).mpr ⟨frame, (frameAt_eq there).trans held, needed⟩)
      rw [missing_cons_of_not_mem apart]
      exact wired.decodable there held
  · intro key info' known other member
    exact (before other member).trans_lt (back known).1
  · intro key info' frame known held
    obtain ⟨-, other, there, rfl⟩ := back known
    have same : missing frame.dependencies (settled ++ (handed ++ [id])) =
        missing frame.dependencies (settled ++ handed) := by
      refine missing_congr fun dependency _ => ?_
      simp only [List.mem_append, List.mem_singleton]
      refine or_congr_right' fun outside => or_iff_left fun same => outside (same ▸ visited)
    rw [same]
    split_ifs at held ⊢
    · exact (counted.counted there held :)
    · exact counted.counted there held
  · intro key info' known
    obtain ⟨-, other, there, rfl⟩ := back known
    split_ifs
    · exact (counted.flagged there :)
    · exact counted.flagged there
  · intro key info' known on
    obtain ⟨-, other, there, rfl⟩ := back known
    split_ifs at on ⊢
    · exact (counted.complete there on :)
    · exact counted.complete there on
  · exact fun key member => passed (counted.known key member)

end HandOut

end FrameMap

end MpWebRtc
