import Mathlib.Data.List.Basic

/-!
# Runs of a deterministic transition function

A component is a function `step : State → Event → State × List Output`. This file
folds such a function over a list of events, and supplies the two rules every
result about runs rests on: a predicate that each legal step preserves holds at the
end of a legal run, and a predicate on outputs that each legal step establishes
holds of everything a legal run emits.
-/

namespace Math.Run

variable {State Event Output : Type*} (step : State → Event → State × List Output)

/-- The state reached by processing `events` in order. -/
def finalState : State → List Event → State
  | state, [] => state
  | state, event :: events => finalState (step state event).1 events

/-- Everything emitted while processing `events` in order. -/
def outputs : State → List Event → List Output
  | _, [] => []
  | state, event :: events => (step state event).2 ++ outputs (step state event).1 events

/-- Every event of the run is legal in the state in which it is processed. -/
def Along (legal : State → Event → Prop) : State → List Event → Prop
  | _, [] => True
  | state, event :: events => legal state event ∧ Along legal (step state event).1 events

variable (state : State)

@[simp] theorem finalState_nil : finalState step state [] = state := rfl

variable (event : Event)

@[simp] theorem finalState_cons (events : List Event) :
    finalState step state (event :: events) = finalState step (step state event).1 events := rfl

@[simp] theorem outputs_nil : outputs step state [] = [] := rfl

@[simp] theorem outputs_cons (events : List Event) :
    outputs step state (event :: events) =
      (step state event).2 ++ outputs step (step state event).1 events := rfl

variable {step} {legal : State → Event → Prop}

@[simp] theorem along_nil : Along step legal state [] := trivial

@[simp] theorem along_cons (events : List Event) :
    Along step legal state (event :: events) ↔
      legal state event ∧ Along step legal (step state event).1 events := Iff.rfl

instance decidableAlong [∀ state event, Decidable (legal state event)] (state : State)
    (events : List Event) : Decidable (Along step legal state events) :=
  match events with
  | [] => .isTrue trivial
  | event :: events =>
      have := decidableAlong (step state event).1 events
      inferInstanceAs (Decidable (_ ∧ _))

variable (earlier later : List Event)

theorem finalState_append :
    finalState step state (earlier ++ later) =
      finalState step (finalState step state earlier) later := by
  induction earlier generalizing state with
  | nil => rfl
  | cons event events ih => exact ih _

theorem outputs_append :
    outputs step state (earlier ++ later) =
      outputs step state earlier ++ outputs step (finalState step state earlier) later := by
  induction earlier generalizing state with
  | nil => rfl
  | cons event events ih => simp [ih]

/-- Translating the events one by one translates the run. -/
theorem outputs_map {Source : Type*} (translate : Source → Event) (state : State)
    (events : List Source) :
    outputs step state (events.map translate) =
      outputs (fun state event => step state (translate event)) state events := by
  induction events generalizing state with
  | nil => rfl
  | cons event events ih => simp [ih]

/-- Legality of a translated run. -/
theorem along_map {Source : Type*} (translate : Source → Event) (state : State)
    (events : List Source) :
    Along step legal state (events.map translate) ↔
      Along (fun state event => step state (translate event))
        (fun state event => legal state (translate event)) state events := by
  induction events generalizing state with
  | nil => rfl
  | cons event events ih => exact and_congr_right' (ih _)

/-- A step that emits one output for each event emits as many as there are events. -/
theorem forall₂_outputs {related : Event → Output → Prop}
    (emits : ∀ state event, ∃ output, (step state event).2 = [output] ∧ related event output)
    (state : State) (events : List Event) :
    List.Forall₂ related events (outputs step state events) := by
  induction events generalizing state with
  | nil => exact .nil
  | cons event events ih =>
      obtain ⟨output, emitted, holds⟩ := emits state event
      rw [outputs_cons, emitted]
      exact .cons holds (ih _)

/-- **Invariant rule.** What one legal step preserves, a legal run preserves. -/
theorem Along.invariant (invariant : State → Prop)
    (preserved : ∀ state event, invariant state → legal state event →
      invariant (step state event).1)
    {state : State} {events : List Event} (along : Along step legal state events)
    (initial : invariant state) : invariant (finalState step state events) := by
  induction events generalizing state with
  | nil => exact initial
  | cons event events ih => exact ih along.2 (preserved state event initial along.1)

variable (invariant : State → Prop)

/-- **Output rule.** Under an invariant, what one legal step establishes of each of
its outputs holds of every output of a legal run. -/
theorem Along.forall_outputs {good : Output → Prop}
    (preserved : ∀ state event, invariant state → legal state event →
      invariant (step state event).1) (emits : ∀ state event, invariant state → legal state event →
      ∀ output ∈ (step state event).2, good output)
    {state : State} {events : List Event} (along : Along step legal state events)
    (initial : invariant state) : ∀ output ∈ outputs step state events, good output := by
  induction events generalizing state with
  | nil => simp
  | cons event events ih =>
      intro output member
      rcases List.mem_append.mp member with first | later
      · exact emits state event initial along.1 output first
      · exact ih along.2 (preserved state event initial along.1) output later

theorem along_true (events : List Event) : Along step (fun _ _ => True) state events := by
  induction events generalizing state with
  | nil => trivial
  | cons event events ih => exact ⟨trivial, ih _⟩

/-- A condition on the events alone is legality in every state. -/
theorem along_of_forall_mem {admissible : Event → Prop} {events : List Event}
    (all : ∀ event ∈ events, admissible event) :
    Along step (fun _ event => admissible event) state events := by
  induction events generalizing state with
  | nil => trivial
  | cons event events ih =>
      rw [List.forall_mem_cons] at all
      exact ⟨all.1, ih _ all.2⟩

/-- What every step establishes of each of its outputs holds of every output of a run. -/
theorem forall_outputs {good : Output → Prop}
    (emits : ∀ state event, ∀ output ∈ (step state event).2, good output)
    (state : State) (events : List Event) : ∀ output ∈ outputs step state events, good output :=
  (along_true state events).forall_outputs (fun _ => True) (fun _ _ _ _ => trivial)
    (fun s e _ _ => emits s e) trivial

/-- Every output of a run was emitted by one of its events. -/
theorem mem_outputs {state : State} {events : List Event} {output : Output}
    (member : output ∈ outputs step state events) :
    ∃ current, ∃ event ∈ events, output ∈ (step current event).2 := by
  induction events generalizing state with
  | nil => simp at member
  | cons event events ih =>
      rcases List.mem_append.mp member with first | later
      · exact ⟨state, event, List.mem_cons_self .., first⟩
      · obtain ⟨current, origin, inList, emitted⟩ := ih later
        exact ⟨current, origin, List.mem_cons_of_mem _ inList, emitted⟩

/-- **Step rule.** Under an invariant, what every legal event satisfies in the state in
which it is processed holds along a legal run. -/
theorem Along.of_invariant {good : State → Event → Prop}
    (preserved : ∀ state event, invariant state → legal state event →
      invariant (step state event).1)
    (satisfies : ∀ state event, invariant state → legal state event → good state event)
    {state : State} {events : List Event} (along : Along step legal state events)
    (initial : invariant state) : Along step good state events := by
  induction events generalizing state with
  | nil => trivial
  | cons event events ih =>
      exact ⟨satisfies state event initial along.1,
        ih along.2 (preserved state event initial along.1)⟩

/-- **Exactness rule.** If under an invariant a legal step keeps a good state good
exactly when the event is harmless, then all states a legal run reaches are good
exactly when all its events are harmless. -/
theorem Along.forall_reached_iff (invariant good : State → Prop) {harmless : State → Event → Prop}
    (preserved : ∀ state event, invariant state → legal state event →
      invariant (step state event).1)
    (exact_step : ∀ state event, invariant state → legal state event → good state →
      (good (step state event).1 ↔ harmless state event))
    {state : State} {events : List Event} (along : Along step legal state events)
    (initial : invariant state) (start : good state) :
    (∀ earlier later, events = earlier ++ later → good (finalState step state earlier)) ↔
      Along step harmless state events := by
  induction events generalizing state with
  | nil =>
      refine ⟨fun _ => trivial, fun _ earlier later split => ?_⟩
      rw [(List.append_eq_nil_iff.mp split.symm).1]
      exact start
  | cons event events ih =>
      have next := ih along.2 (preserved state event initial along.1)
      constructor
      · intro reached
        have kept : good (step state event).1 := reached [event] events rfl
        refine ⟨(exact_step state event initial along.1 start).mp kept, (next kept).mp ?_⟩
        intro earlier later split
        exact reached (event :: earlier) later (by rw [split, List.cons_append])
      · rintro ⟨harmlessFirst, rest⟩ earlier later split
        have kept := (exact_step state event initial along.1 start).mpr harmlessFirst
        cases earlier with
        | nil => exact start
        | cons first earlier =>
            obtain ⟨rfl, tail⟩ := List.cons.inj split
            exact (next kept).mpr rest earlier later tail

theorem Along.and {other : State → Event → Prop} {state : State} {events : List Event}
    (first : Along step legal state events) (second : Along step other state events) :
    Along step (fun state event => legal state event ∧ other state event) state events := by
  induction events generalizing state with
  | nil => trivial
  | cons event events ih => exact ⟨⟨first.1, second.1⟩, ih first.2 second.2⟩

theorem Along.mono {weaker : State → Event → Prop}
    (weaken : ∀ state event, legal state event → weaker state event)
    {state : State} {events : List Event} (along : Along step legal state events) :
    Along step weaker state events := by
  induction events generalizing state with
  | nil => trivial
  | cons event events ih => exact ⟨weaken state event along.1, ih along.2⟩

theorem along_append :
    Along step legal state (earlier ++ later) ↔
      Along step legal state earlier ∧
        Along step legal (finalState step state earlier) later := by
  induction earlier generalizing state with
  | nil => simp
  | cons event events ih => simp [ih, and_assoc]

/-- What holds of every event after those before it, when one more event comes. -/
theorem forall_split_append_singleton_iff {holds : List Event → Event → Prop}
    (events : List Event) (last : Event) :
    (∀ earlier event later, events ++ [last] = earlier ++ event :: later → holds earlier event) ↔
      (∀ earlier event later, events = earlier ++ event :: later → holds earlier event) ∧
        holds events last := by
  constructor
  · intro all
    refine ⟨fun earlier event later split => ?_, all events last [] rfl⟩
    refine all earlier event (later ++ [last]) ?_
    rw [split, List.append_assoc, List.cons_append]
  · rintro ⟨before, final⟩ earlier event later split
    rcases List.eq_nil_or_concat later with rfl | ⟨rest, end', rfl⟩
    · obtain ⟨rfl, same⟩ := List.append_inj' split rfl
      obtain rfl := (List.cons.inj same).1
      exact final
    · rw [List.concat_eq_append, ← List.cons_append, ← List.append_assoc] at split
      exact before earlier event rest (List.append_inj' split rfl).1

section Projection

/-! A part of the state that some events do not touch runs on its own, fed with what the
other events mean to it in the state in which they are processed. -/

variable {Input Local Seen : Type*} (resolve : State → Event → Option Input)

/-- What the events of a run mean, for those that mean something. -/
def resolved (step : State → Event → State × List Output)
    (resolve : State → Event → Option Input) : State → List Event → List Input
  | _, [] => []
  | state, event :: events =>
      (resolve state event).toList ++ resolved step resolve (step state event).1 events

variable {resolve}

theorem resolved_map {Meaning : Type*} (read : Input → Meaning) (state : State)
    (events : List Event) :
    resolved step (fun state event => (resolve state event).map read) state events =
      (resolved step resolve state events).map read := by
  induction events generalizing state with
  | nil => rfl
  | cons event events ih =>
      rw [resolved, resolved, List.map_append, ih]
      cases resolve state event <;> rfl

/-- Under an invariant, what holds of every meaning holds of all meanings along a run. -/
theorem forall_resolved (invariant : State → Prop) {good : Input → Prop}
    (preserved : ∀ state event, invariant state → invariant (step state event).1)
    (means : ∀ state event, invariant state → ∀ input ∈ resolve state event, good input)
    {state : State} (initial : invariant state) (events : List Event) :
    ∀ input ∈ resolved step resolve state events, good input := by
  induction events generalizing state with
  | nil => exact fun _ => nofun
  | cons event events ih =>
      intro input member
      rcases List.mem_append.mp member with first | later
      · exact means state event initial input (Option.mem_toList.mp first)
      · exact ih (preserved state event initial) input later

/-- **Projection rule.** If every event either leaves the local part as it is, unseen, or
moves it as its meaning does, then what is seen of a run is a local run on the meanings. -/
theorem filterMap_outputs (view : State → Local) (see : Output → Option Seen)
    {localStep : Local → Input → Local × List Seen}
    (ignored : ∀ state event, resolve state event = none →
      view (step state event).1 = view state ∧ (step state event).2.filterMap see = [])
    (followed : ∀ state event input, resolve state event = some input →
      view (step state event).1 = (localStep (view state) input).1 ∧
        (step state event).2.filterMap see = (localStep (view state) input).2)
    (state : State) (events : List Event) :
    (outputs step state events).filterMap see =
      outputs localStep (view state) (resolved step resolve state events) := by
  induction events generalizing state with
  | nil => rfl
  | cons event events ih =>
      rw [outputs_cons, List.filterMap_append, ih, resolved]
      cases meaning : resolve state event with
      | none =>
          obtain ⟨same, unseen⟩ := ignored state event meaning
          rw [same, unseen]
          rfl
      | some input =>
          obtain ⟨moved, seen⟩ := followed state event input meaning
          rw [moved, seen]
          rfl

end Projection

end Math.Run
