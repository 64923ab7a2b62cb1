import MpWebRtc.Math.Run

/-!
# Watched runs

A monitor reads what a component emits, one output at a time, and judges every output by what it has
read before. It is a run of its own, over the outputs of the other one. Where a relation between the
state of the component and what the monitor knows is kept by every step, a verdict on the outputs of
a step is one on those of a run.
-/

namespace Math.Run

variable {State Event Output Watch : Type*} {step : State → Event → State × List Output}
  {read : Watch → Output → Watch} {good : Watch → Output → Prop}

/-- The monitor as a component that emits nothing. -/
def watching (read : Watch → Output → Watch) (seen : Watch) (output : Output) :
    Watch × List Empty :=
  (read seen output, [])

theorem finalState_watching (seen : Watch) (outputs : List Output) :
    finalState (watching read) seen outputs = outputs.foldl read seen := by
  induction outputs generalizing seen with
  | nil => rfl
  | cons output outputs ih => exact ih _

/-- **Monitor rule.** What every step establishes of its outputs, as the monitor sees them, holds
of all outputs of a run. -/
theorem along_outputs (related : State → Watch → Prop)
    (preserved : ∀ state seen event, related state seen →
      Along (watching read) good seen (step state event).2 ∧
        related (step state event).1 ((step state event).2.foldl read seen))
    {state : State} {seen : Watch} (start : related state seen) (events : List Event) :
    Along (watching read) good seen (outputs step state events) := by
  induction events generalizing state seen with
  | nil => trivial
  | cons event events ih =>
      obtain ⟨first, next⟩ := preserved state seen event start
      rw [outputs_cons, along_append, finalState_watching]
      exact ⟨first, ih next⟩

end Math.Run
