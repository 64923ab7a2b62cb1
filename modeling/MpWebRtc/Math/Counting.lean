import Mathlib.Data.List.Chain
import MpWebRtc.Math.Run

/-!
# Lists numbered by a counter

`Counts next start numbers stop` says that `numbers` is what a counter reads when it
is taken once per element, starting at `start` and advanced by `next` each time, and
that it stands at `stop` afterwards. Unlike being a chain for `next`, this composes
under concatenation without a side condition, so it is the form in which numbering
properties pass from a loop body to a loop and from one call to a run of calls.
-/

namespace Math

variable {α : Type*} {next : α → α}

/-- `numbers` are the successive values of a counter going from `start` to `stop`. -/
def Counts (next : α → α) : α → List α → α → Prop
  | start, [], stop => start = stop
  | start, number :: numbers, stop => number = start ∧ Counts next (next start) numbers stop

namespace Counts

@[simp] theorem nil_iff (start stop : α) : Counts next start [] stop ↔ start = stop := Iff.rfl

@[simp] theorem cons_iff (start number stop : α) (numbers : List α) :
    Counts next start (number :: numbers) stop ↔
      number = start ∧ Counts next (next start) numbers stop := Iff.rfl

theorem append {start middle stop : α} {earlier later : List α}
    (first : Counts next start earlier middle) (second : Counts next middle later stop) :
    Counts next start (earlier ++ later) stop := by
  induction earlier generalizing start with
  | nil => exact first ▸ second
  | cons number numbers ih => exact ⟨first.1, ih first.2⟩

variable {numbers : List α} {start stop : α} (counts : Counts next start numbers stop)
include counts

theorem head?_eq : ∀ number ∈ numbers.head?, number = start := by
  cases numbers with
  | nil => simp
  | cons number numbers => simpa using counts.1

theorem getLast?_next : ∀ number ∈ numbers.getLast?, next number = stop := by
  induction numbers generalizing start with
  | nil => simp
  | cons number numbers ih =>
      cases numbers with
      | nil =>
          have last : next number = stop := by simpa [counts.1] using counts.2
          simpa using last
      | cons second numbers => simpa using ih counts.2

/-- A counter's readings are consecutive. -/
theorem isChain : numbers.IsChain (fun earlier later => later = next earlier) := by
  induction numbers generalizing start with
  | nil => exact .nil
  | cons number numbers ih =>
      rw [List.isChain_cons]
      refine ⟨?_, ih counts.2⟩
      intro later member
      rw [counts.1]
      exact counts.2.head?_eq later member

end Counts

section Runs

variable {State Event Output : Type*} {step : State → Event → State × List Output}
variable {legal : State → Event → Prop}

/-- **Numbering rule.** If in every legal step the numbers of the outputs are readings
of a counter kept in the state, then so are the numbers of all outputs of a legal
run. Outputs without a number (`number output = none`) are skipped. -/
theorem Run.Along.counts (invariant : State → Prop) (counter : State → α)
    (number : Output → Option α) (preserved : ∀ state event, invariant state → legal state event →
      invariant (step state event).1)
    (stepCounts : ∀ state event, invariant state → legal state event →
      Counts next (counter state) ((step state event).2.filterMap number)
        (counter (step state event).1))
    {state : State} {events : List Event} (along : Run.Along step legal state events)
    (initial : invariant state) :
    Counts next (counter state) ((Run.outputs step state events).filterMap number)
      (counter (Run.finalState step state events)) := by
  induction events generalizing state with
  | nil => rfl
  | cons event events ih =>
      rw [Run.outputs_cons, List.filterMap_append]
      exact (stepCounts state event initial along.1).append
        (ih along.2 (preserved state event initial along.1))

/-- The numbering rule for a step function that always counts, as loop bodies do. -/
theorem Run.counts_outputs (counter : State → α) (number : Output → Option α)
    (stepCounts : ∀ state event, Counts next (counter state)
      ((step state event).2.filterMap number) (counter (step state event).1))
    (state : State) (events : List Event) :
    Counts next (counter state) ((Run.outputs step state events).filterMap number)
      (counter (Run.finalState step state events)) :=
  (Run.along_true state events).counts (fun _ => True) counter number (fun _ _ _ _ => trivial)
    (fun s e _ _ => stepCounts s e) trivial

end Runs

end Math
