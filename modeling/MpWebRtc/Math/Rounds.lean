import Mathlib.Order.WellFounded
import MpWebRtc.Math.Checked

/-!
# Loops in rounds

A loop is given by one round, which goes on from a new state or leaves the loop with a result. It
ends if every round that goes on lowers a well-founded rank, and it runs forever if no round leaves.
-/

namespace Math.Rounds

open Math.Checked

variable {Fault State Result : Type}

/-- How a round ends. -/
inductive RoundEnd (State Result : Type)
  | next (state : State)
  | exit (result : Result)

/-- The loop, for at most so many rounds; no result if it goes on behind them. -/
def run (round : State → Except Fault (RoundEnd State Result)) :
    Nat → State → Except Fault (Option Result)
  | 0, _ => .ok none
  | rounds + 1, state => do
      match ← round state with
      | .next state => run round rounds state
      | .exit result => .ok (some result)

variable {round : State → Except Fault (RoundEnd State Result)} {state : State}

theorem run_next {next : State} (ended : round state = .ok (.next next)) (rounds : Nat) :
    run round (rounds + 1) state = run round rounds next :=
  congrArg (· >>= _) ended

theorem run_exit {result : Result} (ended : round state = .ok (.exit result)) (rounds : Nat) :
    run round (rounds + 1) state = .ok (some result) :=
  congrArg (· >>= _) ended

/-- What the rule for termination asks of the end of a round. -/
def RoundEnd.Meets (continues : State → Prop)
    (leaves : Result → Prop) : RoundEnd State Result → Prop
  | .next state => continues state
  | .exit result => leaves result

variable {invariant : State → Prop} {goal : Result → Prop}

/-- If every round keeps the invariant and lowers the rank, or leaves with the goal, then the loop
ends with the goal. -/
theorem exists_run {Rank : Type} [LT Rank] [WellFoundedLT Rank] (rank : State → Rank)
    (step : ∀ state, invariant state → ∃ how, round state = .ok how ∧
      how.Meets (fun next => invariant next ∧ rank next < rank state) goal)
    (holds : invariant state) :
    ∃ rounds result, run round rounds state = .ok (some result) ∧ goal result := by
  generalize level : rank state = value
  induction value using WellFoundedLT.induction generalizing state with
  | ind value ih =>
      obtain ⟨how, ended, meets⟩ := step state holds
      cases how with
      | exit result => exact ⟨1, result, run_exit ended 0, meets⟩
      | next next =>
          obtain ⟨holds', lower⟩ := meets
          obtain ⟨rounds, result, ran, done⟩ := ih _ (level ▸ lower) holds' rfl
          exact ⟨rounds + 1, result, (run_next ended rounds).trans ran, done⟩

/-- If every round keeps the invariant, or leaves with the goal, then a result has the goal. -/
theorem holds_of_run
    (step : ∀ state how, invariant state → round state = .ok how → how.Meets invariant goal)
    (holds : invariant state) {rounds : Nat} {result : Result}
    (ran : run round rounds state = .ok (some result)) : goal result := by
  induction rounds generalizing state with
  | zero => cases ran
  | succ rounds ih =>
      obtain ⟨how, ended, rest⟩ := bind_eq_ok_iff.mp ran
      have meets := step state how holds ended
      cases how with
      | next next => exact ih meets rest
      | exit last =>
          obtain rfl := Option.some.inj (Except.ok.inj rest)
          exact meets

/-- If no round of an invariant leaves the loop, then the loop runs forever. -/
theorem runs_forever
    (step : ∀ state, invariant state → ∃ next, round state = .ok (.next next) ∧ invariant next)
    (holds : invariant state) (rounds : Nat) : run round rounds state = .ok none := by
  induction rounds generalizing state with
  | zero => rfl
  | succ rounds ih =>
      obtain ⟨next, ended, holds'⟩ := step state holds
      exact (run_next ended rounds).trans (ih holds')

end Math.Rounds
