import Mathlib.Data.List.Nodup

/-!
# Counting what is missing

How many of the things something depends on are not done yet. A counter keeps this number if it
goes down by one whenever one of them becomes done, which is the only time it may go down.
-/

namespace Math

variable {Key : Type*} [DecidableEq Key]

/-- How many of the dependencies are not done. -/
def missing (dependencies done : List Key) : Nat :=
  dependencies.countP fun dependency => decide (dependency ∉ done)

variable {dependencies done done' : List Key} {key : Key}

theorem missing_congr (same : ∀ dependency ∈ dependencies, dependency ∈ done ↔ dependency ∈ done') :
    missing dependencies done = missing dependencies done' := by
  refine List.countP_congr fun dependency member => ?_
  simp only [decide_eq_true_eq]
  exact not_congr (same dependency member)

theorem missing_eq_zero_iff :
    missing dependencies done = 0 ↔ ∀ dependency ∈ dependencies, dependency ∈ done := by
  simp [missing, List.countP_eq_zero]

theorem missing_pos (member : key ∈ dependencies) (absent : key ∉ done) :
    0 < missing dependencies done :=
  List.countP_pos_iff.mpr ⟨key, member, decide_eq_true absent⟩

/-- Something that nothing depends on does not count. -/
theorem missing_cons_of_not_mem (other : key ∉ dependencies) :
    missing dependencies (key :: done) = missing dependencies done := by
  refine missing_congr fun dependency member => ?_
  rw [List.mem_cons, or_iff_right]
  rintro rfl
  exact other member

/-- A dependency that becomes done counts once. -/
theorem missing_cons_of_mem (distinct : dependencies.Nodup) (member : key ∈ dependencies)
    (absent : key ∉ done) : missing dependencies (key :: done) + 1 = missing dependencies done := by
  induction dependencies with
  | nil => cases member
  | cons first dependencies ih =>
      obtain ⟨apart, distinct⟩ := List.nodup_cons.mp distinct
      unfold missing at ih ⊢
      by_cases here : first = key
      · subst here
        have rest : missing dependencies (first :: done) = missing dependencies done :=
          missing_cons_of_not_mem apart
        rw [List.countP_cons_of_neg (by simp), List.countP_cons_of_pos (by simpa using absent)]
        exact congrArg (· + 1) rest
      · have later := (List.mem_cons.mp member).resolve_left (Ne.symm here)
        have step := ih distinct later
        by_cases known : first ∈ done
        · rw [List.countP_cons_of_neg (by simp [known]),
            List.countP_cons_of_neg (by simpa using known)]
          exact step
        · rw [List.countP_cons_of_pos (by simp [here, known]),
            List.countP_cons_of_pos (by simpa using known)]
          exact congrArg (· + 1) step

/-- Where one thing is missing at most, all others are done. -/
theorem mem_of_missing_le_one (few : missing dependencies done ≤ 1)
    (distinct : dependencies.Nodup) (member : key ∈ dependencies) (absent : key ∉ done)
    {dependency : Key} (listed : dependency ∈ dependencies) (other : dependency ≠ key) :
    dependency ∈ done := by
  have step := missing_cons_of_mem distinct member absent
  have all := missing_eq_zero_iff.mp (show missing dependencies (key :: done) = 0 by omega)
  exact (List.mem_cons.mp (all dependency listed)).resolve_left other

/-- Counting what is missing is counting a list of what is missing. -/
theorem length_filter_not_mem :
    (dependencies.filter fun dependency => decide (dependency ∉ done)).length =
      missing dependencies done :=
  (List.countP_eq_length_filter).symm

end Math
