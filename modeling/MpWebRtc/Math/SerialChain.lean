import MpWebRtc.Math.Serial

/-!
# Serial numbers in a chain

Numbers of which each is ahead of all that come before stay within half a circle, counted from the
first, so going from one to the next adds up. Ahead of the last one there is room for a number of
which the first ones may be ahead again.
-/

namespace Math.Serial

variable {first last older newer number : UInt16}

theorem not_aheadOf_self (number : UInt16) : aheadOf number number = false := by
  rw [Bool.eq_false_iff]
  intro ahead
  have := (aheadOf_iff _ _).mp ahead
  omega

theorem ne_of_aheadOf (ahead : aheadOf newer older) : newer ≠ older := by
  rintro rfl
  rw [not_aheadOf_self] at ahead
  cases ahead

theorem aheadOf_asymm (ahead : aheadOf newer older) : aheadOf older newer = false := by
  rw [Bool.eq_false_iff]
  intro back
  rw [aheadOf_iff] at ahead back
  have := newer.toNat_lt
  have := older.toNat_lt
  omega

/-- Of two different numbers one is ahead. -/
theorem aheadOf_of_not (apart : newer ≠ older) (not : aheadOf older newer = false) :
    aheadOf newer older := by
  have back := mt (aheadOf_iff older newer).mpr (Bool.eq_false_iff.mp not)
  rw [aheadOf_iff]
  have apart : newer.toNat ≠ older.toNat := fun same => apart (UInt16.toNat_inj.mp same)
  have := newer.toNat_lt
  have := older.toNat_lt
  omega

theorem aheadOrAt_iff : aheadOrAt newer older ↔ newer = older ∨ aheadOf newer older := by
  unfold aheadOf
  rw [Bool.and_eq_true, bne_iff_ne]
  by_cases same : newer = older
  · subst same
    refine iff_of_true ?_ (.inl rfl)
    unfold aheadOrAt
    rw [if_neg (by omega), decide_eq_true_iff, UInt16.lt_iff_toNat_lt, toNat_forwardDiff]
    have := newer.toNat_lt
    have half : (32768 : UInt16).toNat = 32768 := rfl
    omega
  · exact ⟨fun ahead => .inr ⟨same, ahead⟩, fun either => (either.resolve_left same).2⟩

/-- How far a number that is ahead can be. -/
theorem forwardDiff_of_aheadOf (ahead : aheadOf newer older) :
    0 < (forwardDiff older newer).toNat ∧ (forwardDiff older newer).toNat ≤ 32768 := by
  rw [aheadOf_iff] at ahead
  rw [toNat_forwardDiff]
  have := newer.toNat_lt
  have := older.toNat_lt
  omega

/-- Half a circle away the larger number is ahead. -/
theorem forwardDiff_eq_half_iff : (forwardDiff older newer).toNat = 32768 ∧ aheadOf newer older ↔
    older.toNat + 32768 = newer.toNat := by
  rw [aheadOf_iff, toNat_forwardDiff]
  have := newer.toNat_lt
  have := older.toNat_lt
  omega

/-- Along a chain the distances add up. -/
theorem forwardDiff_chain (middle : aheadOf newer older) (end_ : aheadOf last newer)
    (whole : aheadOf last older) :
    (forwardDiff older last).toNat =
      (forwardDiff older newer).toNat + (forwardDiff newer last).toNat := by
  rw [aheadOf_iff] at *
  rw [toNat_forwardDiff, toNat_forwardDiff, toNat_forwardDiff]
  have := newer.toNat_lt
  have := older.toNat_lt
  have := last.toNat_lt
  omega

/-- If a number is ahead of the last of a chain, and one of the chain is ahead of it again, then
so are all before that one. -/
theorem aheadOf_of_later (chain : aheadOf newer older) (end_ : last = newer ∨ aheadOf last newer)
    (whole : aheadOf last older) (next : aheadOf number last) (again : aheadOf newer number) :
    aheadOf older number := by
  have := newer.toNat_lt
  have := older.toNat_lt
  have := last.toNat_lt
  have := number.toNat_lt
  rcases end_ with rfl | end_
  · rw [aheadOf_asymm next] at again
    cases again
  · rw [aheadOf_iff] at *
    omega

/-- A number that both ends of a chain are ahead of is behind all of it. -/
theorem aheadOf_of_ends (start : older = first ∨ aheadOf older first)
    (end_ : last = older ∨ aheadOf last older) (whole : last = first ∨ aheadOf last first)
    (behindFirst : aheadOf first number) (behindLast : aheadOf last number) :
    aheadOf older number := by
  have := first.toNat_lt
  have := older.toNat_lt
  have := last.toNat_lt
  have := number.toNat_lt
  rcases start with rfl | start
  · exact behindFirst
  · rcases end_ with rfl | end_
    · exact behindLast
    · rcases whole with rfl | whole
      · rw [aheadOf_asymm end_] at start
        cases start
      · rw [aheadOf_iff] at *
        omega

end Math.Serial
