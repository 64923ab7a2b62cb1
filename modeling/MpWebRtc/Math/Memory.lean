import Mathlib.Data.List.Basic

/-!
# Writing into a buffer

A buffer is the list of its cells. Writing some values at an offset replaces the cells there
and fails if they are not all inside. Proofs about a sequence of writes keep the buffer as
an explicit concatenation: a write replaces one part by another of the same length.
-/

namespace Math.Memory

variable {Cell : Type*} {memory earlier old new later : List Cell} {offset : Nat}

/-- Write the values at the offset, if they fit. -/
def writeAt (memory : List Cell) (offset : Nat) (values : List Cell) : Option (List Cell) :=
  if offset + values.length ≤ memory.length then
    some (memory.take offset ++ (values ++ memory.drop (offset + values.length)))
  else none

/-- A write replaces the part at its offset. -/
theorem writeAt_eq_some (shape : memory = earlier ++ (old ++ later))
    (position : offset = earlier.length) (same : old.length = new.length) :
    writeAt memory offset new = some (earlier ++ (new ++ later)) := by
  subst position
  unfold writeAt
  rw [shape, List.take_left, ← same, ← List.length_append, ← List.append_assoc earlier,
    List.drop_left, if_pos]
  rw [List.length_append, List.length_append, List.length_append]
  omega

theorem writeAt_eq_none (beyond : memory.length < offset + new.length) :
    writeAt memory offset new = none :=
  if_neg (Nat.not_le.mpr beyond)

variable {result : List Cell}

/-- What was written had a place. -/
theorem le_of_writeAt (written : writeAt memory offset new = some result) :
    offset + new.length ≤ memory.length := by
  by_contra beyond
  rw [writeAt_eq_none (Nat.not_le.mp beyond)] at written
  cases written

theorem length_writeAt (written : writeAt memory offset new = some result) :
    result.length = memory.length := by
  unfold writeAt at written
  split at written
  · rename_i fits
    obtain rfl := Option.some.inj written
    rw [List.length_append, List.length_append, List.length_take, List.length_drop]
    omega
  · cases written

/-- Two writes behind one another are one. -/
theorem writeAt_append (memory : List Cell) (offset : Nat) (first second : List Cell) :
    ((writeAt memory offset first).bind fun written =>
      writeAt written
    (offset + first.length) second) = writeAt memory offset (first ++ second) := by
  by_cases inside : offset + (first ++ second).length ≤ memory.length
  · rw [List.length_append] at inside
    have reached : offset ≤ memory.length := by omega
    obtain ⟨earlier, rest, rfl, position⟩ :=
      (⟨memory.take offset, memory.drop offset, (List.take_append_drop ..).symm,
        List.length_take_of_le reached⟩ :
        ∃ earlier rest, memory = earlier ++ rest ∧ earlier.length = offset)
    rw [List.length_append] at inside
    have one : (rest.take first.length).length = first.length := by
      rw [List.length_take]
      omega
    have two : ((rest.drop first.length).take second.length).length = second.length := by
      rw [List.length_take, List.length_drop]
      omega
    have shape : earlier ++ rest = earlier ++ (rest.take first.length ++
        ((rest.drop first.length).take second.length ++
          (rest.drop first.length).drop second.length)) := by
      rw [List.take_append_drop, List.take_append_drop]
    rw [writeAt_eq_some shape position.symm one, Option.bind_some,
      writeAt_eq_some (List.append_assoc _ _ _).symm
        (by rw [List.length_append, position]) two]
    rw [← List.append_assoc (rest.take first.length)] at shape
    rw [writeAt_eq_some shape position.symm (by
      rw [List.length_append, List.length_append, one, two])]
    simp only [List.append_assoc]
  · have beyond : writeAt memory offset (first ++ second) = none := if_neg inside
    rw [beyond]
    cases written : writeAt memory offset first with
    | none => rfl
    | some result =>
        rw [List.length_append, ← Nat.add_assoc] at inside
        refine if_neg ?_
        rw [length_writeAt written]
        exact inside

/-- A write makes everything up to its end known. -/
theorem take_writeAt (written : writeAt memory offset new = some result) :
    result.take (offset + new.length) = memory.take offset ++ new := by
  have room := le_of_writeAt written
  unfold writeAt at written
  rw [if_pos room] at written
  obtain rfl := Option.some.inj written
  have length : (memory.take offset).length = offset := List.length_take_of_le (by omega)
  have whole : (memory.take offset ++ new).length = offset + new.length := by
    rw [List.length_append, length]
  rw [← List.append_assoc, List.take_append_of_le_length (Nat.le_of_eq whole.symm),
    List.take_of_length_le (Nat.le_of_eq whole)]

/-- Reading a part gives it back. -/
theorem take_drop_append (position : offset = earlier.length) :
    ((earlier ++ (new ++ later)).drop offset).take new.length = new := by
  rw [position, List.drop_left, List.take_left]

/-- A list that is long enough has a first part of any length. -/
theorem exists_split {count : Nat} (enough : count ≤ memory.length) :
    ∃ first rest, memory = first ++ rest ∧ first.length = count :=
  ⟨memory.take count, memory.drop count, (List.take_append_drop ..).symm,
    List.length_take_of_le enough⟩

/-- A list with some of its cells replaced. -/
def patched (skip : Nat) (new old : List Cell) : List Cell :=
  old.take skip ++ (new ++ old.drop (skip + new.length))

variable {skip : Nat}

theorem length_patched (inside : skip + new.length ≤ old.length) :
    (patched skip new old).length = old.length := by
  unfold patched
  rw [List.length_append, List.length_append, List.length_take, List.length_drop]
  omega

/-- All cells are replaced. -/
theorem patched_zero (same : old.length = new.length) : patched 0 new old = new := by
  unfold patched
  rw [List.take_zero, List.nil_append, Nat.zero_add, ← same, List.drop_length, List.append_nil]

/-- Nothing is behind the end. -/
theorem patched_of_le {cell : Cell} (ended : old.length ≤ skip) :
    patched skip (List.replicate (old.length - skip) cell) old = old := by
  unfold patched
  rw [Nat.sub_eq_zero_of_le ended, List.take_of_length_le ended, List.replicate_zero,
    List.length_nil, Nat.add_zero, List.drop_of_length_le ended, List.append_nil, List.append_nil]

/-- What is behind the start of a write up to the end does not matter. -/
theorem patched_patched {first skip : Nat} {tail : List Cell} (behind : first ≤ skip)
    (inside : skip + new.length ≤ old.length) (whole : first + tail.length = old.length) :
    patched first tail (patched skip new old) = patched first tail old := by
  have same : (patched skip new old).take first = old.take first := by
    unfold patched
    rw [List.take_append_of_le_length (by rw [List.length_take]; omega), List.take_take,
      Nat.min_eq_left behind]
  have ended : (patched skip new old).drop (first + tail.length) = old.drop old.length := by
    rw [whole, ← length_patched inside, List.drop_length, length_patched inside, List.drop_length]
  calc
    patched first tail (patched skip new old) = old.take first ++ (tail ++ old.drop old.length) := by
      rw [← same, ← ended]
      rfl
    _ = patched first tail old := by rw [patched, whole]

/-- A write into a part is a write of the whole part. -/
theorem writeAt_patched (shape : memory = earlier ++ (old ++ later))
    (position : offset = earlier.length) (inside : skip + new.length ≤ old.length) :
    writeAt memory (offset + skip) new = writeAt memory offset (patched skip new old) := by
  have reached : skip ≤ old.length := Nat.le_trans (Nat.le_add_right skip _) inside
  obtain ⟨first, rest, rfl, length⟩ := exists_split reached
  have enough : new.length ≤ rest.length := by
    rw [List.length_append, length] at inside
    omega
  obtain ⟨middle, last, rfl, width⟩ := exists_split enough
  have split : patched skip new (first ++ (middle ++ last)) = first ++ (new ++ last) := by
    unfold patched
    rw [← length, List.take_left, ← width, ← List.length_append, ← List.append_assoc first middle,
      List.drop_left]
  rw [split, writeAt_eq_some shape position (by
    simp only [List.length_append]
    omega)]
  have whole : memory = (earlier ++ first) ++ (middle ++ (last ++ later)) := by
    rw [shape]
    simp only [List.append_assoc]
  rw [writeAt_eq_some whole (by rw [List.length_append, position, length]) width]
  simp only [List.append_assoc]

end Math.Memory
