import Mathlib.Data.Int.ModEq
import Mathlib.Order.Basic

/-!
# Windows on a cycle

Integers are put on a cycle by their remainder. Those of one window have places of their own, and
the places that are passed on the way from one number to another are those of the numbers between
them.
-/

namespace Math

variable {size first second number other : Int}

/-- Less than once around, a remainder grows with the number, but for the turn. -/
theorem emod_near (positive : 0 < size) (behind : first ≤ second) (near : second - first < size) :
    second % size = first % size + (second - first) ∨
      second % size = first % size + (second - first) - size := by
  have low : 0 ≤ first % size := Int.emod_nonneg first positive.ne'
  have high : first % size < size := Int.emod_lt_of_pos first positive
  have moved : second % size = (first % size + (second - first)) % size := by
    rw [Int.emod_add_emod, add_sub_cancel]
  by_cases turns : first % size + (second - first) < size
  · refine .inl ?_
    rw [moved]
    exact Int.emod_eq_of_lt (by omega) turns
  · refine .inr ?_
    rw [moved, ← Int.sub_emod_right]
    exact Int.emod_eq_of_lt (by omega) (by omega)

/-- Two numbers of one window have different places. -/
theorem emod_ne_of_near (positive : 0 < size) (behind : first < second)
    (near : second - first < size) : second % size ≠ first % size := by
  rcases emod_near positive behind.le near with same | same
  · omega
  · omega

/-- The places behind the one of `first` and before the one of `second`, around the cycle. -/
def PassedPlaces (size first second place : Int) : Prop :=
  if first % size < second % size then first % size < place ∧ place < second % size
  else first % size < place ∨ place < second % size

/-- Of the window in front of a number, those that are passed on the way to it are the numbers
behind the start. -/
theorem passedPlaces_iff (ahead : first < second) (near : second - first < size)
    (inside : second - size < number) (below : number < second) :
    PassedPlaces size first second (number % size) ↔ first < number := by
  have positive : 0 < size := by omega
  have firstLow : 0 ≤ first % size := Int.emod_nonneg first positive.ne'
  have firstHigh : first % size < size := Int.emod_lt_of_pos first positive
  have numberLow : 0 ≤ number % size := Int.emod_nonneg number positive.ne'
  have numberHigh : number % size < size := Int.emod_lt_of_pos number positive
  have secondLow : 0 ≤ second % size := Int.emod_nonneg second positive.ne'
  have secondHigh : second % size < size := Int.emod_lt_of_pos second positive
  have toSecond := emod_near positive ahead.le near
  have fromNumber := emod_near positive below.le (by omega : second - number < size)
  unfold PassedPlaces
  split_ifs with order
  · constructor
    · rintro ⟨low, high⟩
      omega
    · intro behind
      omega
  · constructor
    · rintro (low | high)
      · omega
      · omega
    · intro behind
      omega

end Math
