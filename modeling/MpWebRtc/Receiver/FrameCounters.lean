import MpWebRtc.Receiver.FrameBuffer

/-!
# What the loops of the frame buffer do

Each loop over a list of ids changes the entries of these ids, each once, and no others.
-/

namespace MpWebRtc

open Math

namespace FrameInfo

variable (info : FrameInfo)

/-- A dependency becomes continuous. -/
def oneContinuous : FrameInfo :=
  { info with
    numMissingContinuous := info.numMissingContinuous - 1
    continuous := info.continuous || decide (info.numMissingContinuous - 1 = 0) }

/-- A dependency is decoded. -/
def oneDecoded : FrameInfo :=
  { info with numMissingDecodable := info.numMissingDecodable - 1 }

/-- A frame depends on the one of the entry. -/
def neededBy (id : VideoLayerFrameId) : FrameInfo :=
  { info with dependentFrames := info.dependentFrames ++ [id] }

/-- Some dependencies are continuous already. -/
def lessContinuous (count : Nat) : FrameInfo :=
  { info with numMissingContinuous := info.numMissingContinuous - count }

end FrameInfo

namespace FrameMap

variable {frames : FrameMap} {id : VideoLayerFrameId} {dependents : List VideoLayerFrameId}

theorem propagateDecodability_eq_some (distinct : dependents.Nodup)
    (counted : ∀ dependent ∈ dependents, ∀ info, frames.find dependent = some info →
      0 < info.numMissingDecodable) :
    ∃ reached, propagateDecodability dependents frames = some reached ∧
      ∀ id, reached.find id = (frames.find id).map fun info =>
        if id ∈ dependents then info.oneDecoded else info := by
  induction dependents generalizing frames with
  | nil =>
      refine ⟨frames, rfl, fun id => ?_⟩
      simp only [List.not_mem_nil, if_false]
      exact Option.map_id'.symm
  | cons dependent dependents ih =>
      obtain ⟨apart, distinct⟩ := List.nodup_cons.mp distinct
      unfold propagateDecodability
      cases found : frames.find dependent with
      | none =>
          obtain ⟨reached, done, effect⟩ := ih distinct
            fun other member => counted other (.tail _ member)
          refine ⟨reached, done, fun id => (effect id).trans ?_⟩
          cases known : frames.find id with
          | none => rfl
          | some info =>
              have other : id ≠ dependent := fun same => by
                rw [same, found] at known
                exact nomatch known
              simp only [Option.map_some, List.mem_cons, other, false_or]
      | some info =>
          have positive := counted dependent (.head _) info found
          dsimp only
          rw [if_neg positive.ne']
          obtain ⟨reached, done, effect⟩ := @ih
            (frames.modify dependent fun info =>
              { info with numMissingDecodable := info.numMissingDecodable - 1 }) distinct
            fun other member info known => by
              rw [OrderedMap.find_modify,
                if_neg fun same : other = dependent => apart (same ▸ member)] at known
              exact counted other (.tail _ member) info known
          refine ⟨reached, done, fun id => (effect id).trans ?_⟩
          rw [OrderedMap.find_modify]
          by_cases same : id = dependent
          · subst same
            rw [if_pos rfl, found]
            simp only [Option.map_some, apart, if_false, List.mem_cons, true_or, if_true]
            rfl
          · rw [if_neg same]
            simp only [List.mem_cons, same, false_or]

/-- The frames that become continuous are those with one missing dependency. -/
theorem continueDependents_eq_some (distinct : dependents.Nodup)
    (counted : ∀ dependent ∈ dependents, ∃ info, frames.find dependent = some info ∧
      0 < info.numMissingContinuous) :
    ∃ reached, continueDependents dependents frames = some reached ∧
      (∀ id, reached.1.find id = (frames.find id).map fun info =>
        if id ∈ dependents then info.oneContinuous else info) ∧
      reached.2.Sublist dependents ∧
      ∀ id, id ∈ reached.2 ↔ id ∈ dependents ∧
        ∃ info, frames.find id = some info ∧ info.numMissingContinuous = 1 := by
  induction dependents generalizing frames with
  | nil =>
      refine ⟨(frames, []), rfl, fun id => ?_, .slnil, fun id => ?_⟩
      · simp only [List.not_mem_nil, if_false]
        exact Option.map_id'.symm
      · simp
  | cons dependent dependents ih =>
      obtain ⟨apart, distinct⟩ := List.nodup_cons.mp distinct
      obtain ⟨info, found, positive⟩ := counted dependent (.head _)
      unfold continueDependents
      rw [found]
      dsimp only
      -- the map behind this entry, whether or not its frame becomes continuous
      have later : ∀ next : FrameMap,
          (∀ id, next.find id = if id = dependent then some info.oneContinuous
            else frames.find id) →
          ∃ reached, continueDependents dependents next = some reached ∧
            (∀ id, reached.1.find id = (frames.find id).map fun info =>
              if id ∈ dependent :: dependents then info.oneContinuous else info) ∧
            reached.2.Sublist dependents ∧
            ∀ id, id ∈ reached.2 ↔ id ∈ dependents ∧
              ∃ info, frames.find id = some info ∧ info.numMissingContinuous = 1 := by
        intro next changed
        have unchanged : ∀ other ∈ dependents, next.find other = frames.find other :=
          fun other member => (changed other).trans
            (if_neg fun same : other = dependent => apart (same ▸ member))
        obtain ⟨reached, done, effect, sub, fresh⟩ := @ih next distinct fun other member => by
          rw [unchanged other member]
          exact counted other (.tail _ member)
        refine ⟨reached, done, fun id => ?_, sub, fun id => ?_⟩
        · rw [effect, changed]
          by_cases same : id = dependent
          · subst same
            rw [if_pos rfl, found]
            simp only [Option.map_some, apart, if_false, List.mem_cons, true_or, if_true]
          · rw [if_neg same]
            simp only [List.mem_cons, same, false_or]
        · rw [fresh]
          refine and_congr_right fun member => ?_
          rw [unchanged id member]
      have down : countDownContinuous frames dependent info = some (frames.modify dependent
          fun info => { info with numMissingContinuous := info.numMissingContinuous - 1 }) :=
        if_neg positive.ne'
      rw [down, Option.bind_some]
      by_cases last : info.numMissingContinuous - 1 = 0
      · rw [if_pos last]
        obtain ⟨reached, done, effect, sub, fresh⟩ := later
          ((frames.modify dependent fun info =>
              { info with numMissingContinuous := info.numMissingContinuous - 1 }).modify dependent
            fun info => { info with continuous := true }) (fun id => by
              rw [OrderedMap.find_modify, OrderedMap.find_modify]
              by_cases same : id = dependent
              · subst same
                rw [if_pos rfl, if_pos rfl, if_pos rfl, found]
                simp only [Option.map_some, FrameInfo.oneContinuous, last, decide_true,
                  Bool.or_true]
              · rw [if_neg same, if_neg same, if_neg same])
        rw [done]
        refine ⟨_, rfl, effect, sub.cons_cons dependent, fun id => ?_⟩
        rw [List.mem_cons, fresh, List.mem_cons]
        constructor
        · rintro (rfl | ⟨member, one⟩)
          · exact ⟨.inl rfl, info, found, by omega⟩
          · exact ⟨.inr member, one⟩
        · rintro ⟨rfl | member, one⟩
          · exact .inl rfl
          · exact .inr ⟨member, one⟩
      · rw [if_neg last]
        obtain ⟨reached, done, effect, sub, fresh⟩ := later
          (frames.modify dependent fun info =>
            { info with numMissingContinuous := info.numMissingContinuous - 1 }) (fun id => by
              rw [OrderedMap.find_modify]
              by_cases same : id = dependent
              · subst same
                rw [if_pos rfl, if_pos rfl, found]
                simp only [Option.map_some, FrameInfo.oneContinuous, last, decide_false,
                  Bool.or_false]
              · rw [if_neg same, if_neg same])
        refine ⟨reached, done, effect, sub.cons dependent, fun id => ?_⟩
        rw [fresh, List.mem_cons]
        constructor
        · exact fun both => ⟨.inr both.1, both.2⟩
        · rintro ⟨rfl | member, other, known, one⟩
          · obtain rfl := Option.some.inj (found.symm.trans known)
            omega
          · exact ⟨member, other, known, one⟩

/-- How many of the dependencies are continuous. -/
def continuousAmong (dependencies : List FrameDependency) : Nat :=
  dependencies.countP FrameDependency.continuous

/-- A frame is entered with what it depends on. -/
theorem registerDependencies_eq_some {dependencies : List FrameDependency} {info : FrameInfo}
    (distinct : (dependencies.map FrameDependency.id).Nodup)
    (other : id ∉ dependencies.map FrameDependency.id) (found : frames.find id = some info)
    (counted : continuousAmong dependencies ≤ info.numMissingContinuous) :
    ∃ reached, registerDependencies id dependencies frames = some reached ∧
      ∀ key, reached.find key =
        if key ∈ dependencies.map FrameDependency.id then
          some (((frames.find key).getD {}).neededBy id)
        else if key = id then some (info.lessContinuous (continuousAmong dependencies))
        else frames.find key := by
  induction dependencies generalizing frames info with
  | nil =>
      refine ⟨frames, rfl, fun key => ?_⟩
      rw [List.map_nil, if_neg List.not_mem_nil]
      split_ifs with same
      · exact same ▸ found
      · rfl
  | cons dependency dependencies ih =>
      rw [List.map_cons] at distinct other
      obtain ⟨apart, distinct⟩ := List.nodup_cons.mp distinct
      obtain ⟨first, other⟩ := not_or.mp (fun member => other (List.mem_cons.mpr member))
      unfold registerDependencies
      -- the counter goes down if the dependency is continuous
      obtain ⟨counts, step, info', entered, less, bound⟩ :
          ∃ counts : FrameMap, (if dependency.continuous then
              (frames.find id).bind fun info => countDownContinuous frames id info
            else some frames) = some counts ∧
          ∃ info', (∀ key, counts.find key = if key = id then some info' else frames.find key) ∧
            info'.lessContinuous (continuousAmong dependencies) =
              info.lessContinuous (continuousAmong (dependency :: dependencies)) ∧
            continuousAmong dependencies ≤ info'.numMissingContinuous := by
        unfold continuousAmong at counted ⊢
        by_cases continuous : dependency.continuous = true
        · rw [List.countP_cons_of_pos continuous] at counted ⊢
          refine ⟨_, by
            rw [if_pos continuous, found, Option.bind_some]
            exact if_neg (by omega), info.lessContinuous 1, fun key => ?_, ?_, ?_⟩
          · rw [OrderedMap.find_modify]
            split_ifs with same
            · rw [same, found]
              rfl
            · rfl
          · simp only [FrameInfo.lessContinuous, Nat.sub_sub, Nat.add_comm]
          · simp only [FrameInfo.lessContinuous]
            omega
        · rw [List.countP_cons_of_neg continuous] at counted ⊢
          refine ⟨frames, if_neg continuous, info, fun key => ?_, rfl, counted⟩
          split_ifs with same
          · exact same ▸ found
          · rfl
      rw [step, Option.bind_some]
      have next : ∀ key, ((counts.emplace dependency.id {}).modify dependency.id fun info =>
          { info with dependentFrames := info.dependentFrames ++ [id] }).find key =
            if key = dependency.id then some (((frames.find key).getD {}).neededBy id)
            else counts.find key := by
        intro key
        rw [OrderedMap.find_modify, OrderedMap.find_emplace]
        by_cases here : key = dependency.id
        · subst here
          rw [if_pos rfl, if_pos rfl, entered, if_neg (Ne.symm first)]
          cases frames.find dependency.id with
          | none =>
              rw [if_pos ⟨rfl, rfl⟩]
              rfl
          | some old =>
              rw [if_neg fun both => nomatch both.2]
              rfl
        · rw [if_neg here, if_neg here, if_neg fun both => here both.1]
      obtain ⟨reached, done, effect⟩ := ih distinct other
        ((next id).trans ((if_neg first).trans ((entered id).trans (if_pos rfl)))) bound
      refine ⟨reached, done, fun key => ?_⟩
      rw [effect, less, next, List.map_cons]
      by_cases here : key = dependency.id
      · subst here
        rw [if_neg apart, if_neg (Ne.symm first), if_pos rfl, if_pos (.head _)]
      · rw [if_neg here, entered]
        simp only [List.mem_cons, here, false_or]
        by_cases same : key = id
        · subst same
          rw [if_neg other, if_neg other, if_pos rfl, if_pos rfl]
        · rw [if_neg same, if_neg same]

end FrameMap

end MpWebRtc
