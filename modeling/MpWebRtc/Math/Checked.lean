/-!
# Computations that may fail

What is known of a computation in `Except` that has a result: each of its steps has one.
-/

namespace Math.Checked

variable {Fault Value Result : Type} {first : Except Fault Value}
  {next : Value → Except Fault Result}

theorem bind_eq_ok_iff {result : Result} :
    (first >>= next) = .ok result ↔ ∃ value, first = .ok value ∧ next value = .ok result := by
  cases first with
  | error fault => exact ⟨nofun, fun ⟨_, failed, _⟩ => nomatch failed⟩
  | ok value =>
      refine ⟨fun done => ⟨value, rfl, done⟩, ?_⟩
      intro both
      obtain ⟨other, same, done⟩ := both
      obtain rfl := Except.ok.inj same
      exact done

/-- If no step fails, there is a result. -/
theorem exists_bind_eq_ok (done : ∃ value, first = .ok value)
    (continues : ∀ value, ∃ result, next value = .ok result) :
    ∃ result, (first >>= next) = .ok result := by
  obtain ⟨value, done⟩ := done
  obtain ⟨result, continued⟩ := continues value
  exact ⟨result, bind_eq_ok_iff.mpr ⟨value, done, continued⟩⟩

end Math.Checked
