import MpWebRtc.Math.Memory
import Mathlib.Data.Option.Basic
import Mathlib.Data.Option.Defs

/-!
# Output through a reused buffer

A writer fills a buffer from the front, and sends the front part when the buffer is full. Each
step writes some values at offsets behind what is in use, and then counts them as used. If every
step writes all it counts, what is sent does not depend on what the buffer held before: two runs
that start from different buffers send the same.
-/

namespace Math

open Memory

/-- The buffer, how much of it is in use, and what was sent. -/
structure Output (Cell : Type) where
  memory : List Cell
  index : Nat := 0
  sent : List (List Cell) := []

namespace Output

section Relation

variable {First Second First' Second' : Type*} {related : First → Second → Prop}
variable {related' : First' → Second' → Prop} {one : Option First} {two : Option Second}

/-- Both results go on alike. -/
theorem rel_bind (rel : Option.Rel related one two) {next : First → Option First'}
    {next' : Second → Option Second'}
    (step : ∀ first second, related first second → Option.Rel related' (next first) (next' second)) :
    Option.Rel related' (one.bind next) (two.bind next') := by
  cases rel with
  | none => exact .none
  | some both => exact step _ _ both

theorem rel_map (rel : Option.Rel related one two) {next : First → First'}
    {next' : Second → Second'}
    (step : ∀ first second, related first second → related' (next first) (next' second)) :
    Option.Rel related' (one.map next) (two.map next') := by
  cases rel with
  | none => exact .none
  | some both => exact .some (step _ _ both)

theorem eq_of_rel {Result : Type*} {one two : Option Result} (rel : Option.Rel Eq one two) :
    one = two := by
  cases rel with
  | none => rfl
  | some same => rw [same]

end Relation

variable {Cell : Type} (out : Output Cell)

/-- Write at an offset behind what is in use. -/
def write (offset : Nat) (values : List Cell) : Option (Output Cell) :=
  (writeAt out.memory (out.index + offset) values).map fun memory => { out with memory := memory }

/-- Count some more cells as used. -/
def advance (count : Nat) : Output Cell :=
  { out with index := out.index + count }

/-- Several writes. -/
def writeAll (out : Output Cell) : List (Nat × List Cell) → Option (Output Cell)
  | [] => some out
  | entry :: entries => (out.write entry.1 entry.2).bind fun out => writeAll out entries

/-- Several writes, and then count. -/
def fill (entries : List (Nat × List Cell)) (count : Nat) : Option (Output Cell) :=
  (out.writeAll entries).map fun out => out.advance count

/-- Write values and count them. -/
def put (values : List Cell) : Option (Output Cell) :=
  (out.write 0 values).map fun out => out.advance values.length

/-- Send what is in use. -/
def flush : Output Cell :=
  ⟨out.memory, 0, out.sent ++ [out.memory.take out.index]⟩

/-- Each write starts where the last one ended. -/
def Contiguous : (start : Nat) → List (Nat × List Cell) → Prop
  | _, [] => True
  | start, entry :: entries => entry.1 = start ∧ Contiguous (start + entry.2.length) entries

theorem write_append (offset : Nat) (first second : List Cell) :
    ((out.write offset first).bind fun out => out.write (offset + first.length) second) =
      out.write offset (first ++ second) := by
  have both := writeAt_append out.memory (out.index + offset) first second
  unfold write
  rw [← both]
  cases writeAt out.memory (out.index + offset) first with
  | none => rfl
  | some memory =>
      simp only [Option.map_some, Option.bind_some, Nat.add_assoc]

/-- Writes that follow one another are one. -/
theorem writeAll_eq_write {start : Nat} (entry : Nat × List Cell) (entries : List (Nat × List Cell))
    (contiguous : Contiguous start (entry :: entries)) (out : Output Cell) :
    out.writeAll (entry :: entries) = out.write start ((entry :: entries).flatMap Prod.snd) := by
  induction entries generalizing out start entry with
  | nil =>
      obtain ⟨rfl, -⟩ := contiguous
      rw [writeAll, List.flatMap_singleton]
      exact Option.bind_fun_some _
  | cons next entries ih =>
      obtain ⟨rfl, behind⟩ := contiguous
      rw [writeAll, List.flatMap_cons, ← write_append]
      exact congrArg _ (funext fun out => ih next behind out)

/-- A step that writes all it counts. -/
theorem fill_eq_put {entries : List (Nat × List Cell)} (some : entries ≠ [])
    (contiguous : Contiguous 0 entries) {count : Nat}
    (counted : (entries.flatMap Prod.snd).length = count) (out : Output Cell) :
    out.fill entries count = out.put (entries.flatMap Prod.snd) := by
  obtain ⟨entry, entries, rfl⟩ := List.exists_cons_of_ne_nil some
  rw [fill, writeAll_eq_write entry entries contiguous, put, counted]

theorem put_eq_some {out : Output Cell} {earlier old new later : List Cell}
    (shape : out.memory = earlier ++ (old ++ later)) (position : out.index = earlier.length)
    (same : old.length = new.length) :
    out.put new = some ⟨earlier ++ (new ++ later), out.index + new.length, out.sent⟩ := by
  rw [put, write, Nat.add_zero, writeAt_eq_some shape position same]
  rfl

/-- Two runs agree on all that was written and sent. -/
structure Alike (first second : Output Cell) : Prop where
  index : first.index = second.index
  size : first.memory.length = second.memory.length
  written : first.memory.take first.index = second.memory.take second.index
  sent : first.sent = second.sent

section TwoRuns

variable {first second : Output Cell}

theorem Alike.start {memory memory' : List Cell} (size : memory.length = memory'.length)
    (sent : List (List Cell)) : Alike ⟨memory, 0, sent⟩ ⟨memory', 0, sent⟩ :=
  ⟨rfl, size, rfl, rfl⟩

/-- Both runs write, or both fail. -/
theorem Alike.put (alike : Alike first second) (values : List Cell) :
    Option.Rel Alike (first.put values) (second.put values) := by
  unfold Output.put write
  rw [Nat.add_zero, Nat.add_zero]
  by_cases room : first.index + values.length ≤ first.memory.length
  · have room' : second.index + values.length ≤ second.memory.length := by
      rw [← alike.index, ← alike.size]
      exact room
    obtain ⟨memory, one⟩ : ∃ memory, writeAt first.memory first.index values = some memory :=
      ⟨_, if_pos room⟩
    obtain ⟨memory', two⟩ : ∃ memory, writeAt second.memory second.index values = some memory :=
      ⟨_, if_pos room'⟩
    rw [one, two]
    refine .some ⟨?_, ?_, ?_, alike.sent⟩
    · exact congrArg (· + values.length) alike.index
    · exact (length_writeAt one).trans (alike.size.trans (length_writeAt two).symm)
    · exact (take_writeAt one).trans ((congrArg (· ++ values) alike.written).trans
        (take_writeAt two).symm)
  · have beyond : ¬second.index + values.length ≤ second.memory.length := by
      rw [← alike.index, ← alike.size]
      exact room
    have one : writeAt first.memory first.index values = none := if_neg room
    have two : writeAt second.memory second.index values = none := if_neg beyond
    rw [one, two]
    exact .none

theorem Alike.flush (alike : Alike first second) : Alike first.flush second.flush where
  index := rfl
  size := alike.size
  written := rfl
  sent := by
    unfold Output.flush
    rw [alike.sent, alike.written]

end TwoRuns

end Output

end Math
