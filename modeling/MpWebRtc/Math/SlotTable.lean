import Mathlib.Data.Option.Basic
import Mathlib.Logic.Function.Basic
import Mathlib.Data.List.Basic

/-!
# Tables with one slot for each key

A table of slots in which an entry can only be in one slot, that of its key: the position
of the key modulo the number of slots. Such a table stands for a finite map from keys to
entries. Reading, writing and emptying a slot are operations on the map as long as no
slot is taken from another key, and so is moving all entries to a larger table.
-/

namespace Math.SlotTable

variable {Entry Key : Type*} [DecidableEq Key] (key : Entry → Key) (position : Key → Nat)

/-- The entry of a key. -/
def lookup (size : Nat) (slots : Nat → Option Entry) (wanted : Key) : Option Entry :=
  (slots (position wanted % size)).filter fun entry => key entry = wanted

/-- Every entry is in the slot of its key. -/
def InPlace (size : Nat) (slots : Nat → Option Entry) : Prop :=
  ∀ slot entry, slots slot = some entry → position (key entry) % size = slot

variable {key position} {size : Nat} {slots : Nat → Option Entry}

theorem lookup_eq_some_iff {wanted : Key} {entry : Entry} :
    lookup key position size slots wanted = some entry ↔
      slots (position wanted % size) = some entry ∧ key entry = wanted := by
  rw [lookup, Option.filter_eq_some_iff, decide_eq_true_eq]

theorem lookup_eq_none_of_empty {wanted : Key} (empty : slots (position wanted % size) = none) :
    lookup key position size slots wanted = none := by
  rw [lookup, empty]
  rfl

theorem InPlace.lookup_key (inPlace : InPlace key position size slots) {slot : Nat}
    {entry : Entry} (held : slots slot = some entry) :
    lookup key position size slots (key entry) = some entry :=
  lookup_eq_some_iff.mpr ⟨by rw [inPlace slot entry held, held], rfl⟩

/-- Keys that share a slot are not both in the table. -/
theorem eq_of_same_slot {first second : Key} {one two : Entry}
    (firstHeld : lookup key position size slots first = some one)
    (secondHeld : lookup key position size slots second = some two)
    (same : position first % size = position second % size) : first = second := by
  obtain ⟨heldOne, rfl⟩ := lookup_eq_some_iff.mp firstHeld
  obtain ⟨heldTwo, rfl⟩ := lookup_eq_some_iff.mp secondHeld
  rw [same, heldTwo, Option.some.injEq] at heldOne
  rw [heldOne]

section Update

variable {wanted : Key} {entry : Option Entry}

/-- The slot of a key is empty or holds its entry. -/
def Owned (key : Entry → Key) (position : Key → Nat) (size : Nat) (slots : Nat → Option Entry)
    (wanted : Key) : Prop :=
  ∀ entry ∈ slots (position wanted % size), key entry = wanted

theorem owned_of_lookup {held : Entry} (found : lookup key position size slots wanted = some held) :
    Owned key position size slots wanted := by
  obtain ⟨inSlot, named⟩ := lookup_eq_some_iff.mp found
  intro entry member
  rw [inSlot, Option.mem_some_iff] at member
  rw [← member, named]

omit [DecidableEq Key] in
theorem owned_of_empty (empty : slots (position wanted % size) = none) :
    Owned key position size slots wanted := by
  intro entry member
  rw [empty] at member
  exact absurd member (Option.not_mem_none entry)

variable (owned : Owned key position size slots wanted)
  (named : ∀ new ∈ entry, key new = wanted)
include owned named

/-- Writing the slot of a key is an update of the map. -/
theorem lookup_update :
    lookup key position size (Function.update slots (position wanted % size) entry) =
      Function.update (lookup key position size slots) wanted entry := by
  funext other
  by_cases same : other = wanted
  · subst same
    rw [Function.update_self, lookup, Function.update_self]
    cases entry with
    | none => rfl
    | some new => rw [Option.filter_some, decide_eq_true (named new rfl), if_pos rfl]
  · rw [Function.update_of_ne same, lookup, lookup]
    by_cases shared : position other % size = position wanted % size
    · -- neither the old nor the new entry of the slot is that of the other key
      have mismatch (content : Option Entry) (belongs : ∀ held ∈ content, key held = wanted) :
          content.filter (fun held => key held = other) = none := by
        cases content with
        | none => rfl
        | some held =>
            rw [Option.filter_some, if_neg]
            rw [decide_eq_true_eq, belongs held rfl]
            exact Ne.symm same
      rw [shared, Function.update_self, mismatch entry named, mismatch _ owned]
    · rw [Function.update_of_ne shared]

omit [DecidableEq Key] owned in
theorem InPlace.update (inPlace : InPlace key position size slots) :
    InPlace key position size (Function.update slots (position wanted % size) entry) := by
  intro slot held inSlot
  by_cases same : slot = position wanted % size
  · subst same
    rw [Function.update_self] at inSlot
    rw [named held inSlot]
  · rw [Function.update_of_ne same] at inSlot
    exact inPlace slot held inSlot

end Update

section Rehash

/-- Put the entries of the first `count` slots into the slots of a table of another size. -/
def rehash (key : Entry → Key) (position : Key → Nat) (slots : Nat → Option Entry)
    (newSize count : Nat) : Nat → Option Entry :=
  (List.range count).foldl
    (fun new slot =>
      match slots slot with
      | none => new
      | some entry => Function.update new (position (key entry) % newSize) (some entry))
    fun _ => none

variable {newSize : Nat}

omit [DecidableEq Key] in
/-- If the number of slots is multiplied, entries that were apart stay apart. -/
theorem rehash_eq_some_iff (inPlace : InPlace key position size slots) (multiple : size ∣ newSize)
    (count slot : Nat) (entry : Entry) :
    rehash key position slots newSize count slot = some entry ↔
      position (key entry) % newSize = slot ∧ slots (position (key entry) % size) = some entry ∧
        position (key entry) % size < count := by
  induction count with
  | zero => simp [rehash]
  | succ count ih =>
      have step : rehash key position slots newSize (count + 1) =
          match slots count with
          | none => rehash key position slots newSize count
          | some entry =>
              Function.update (rehash key position slots newSize count)
                (position (key entry) % newSize) (some entry) := by
        rw [rehash, List.range_succ, List.foldl_append]
        rfl
      rw [step]
      cases content : slots count with
      | none =>
          rw [ih]
          refine and_congr_right fun _ => and_congr_right fun held => ?_
          have other : position (key entry) % size ≠ count := by
            rintro same
            rw [same, content] at held
            simp at held
          omega
      | some last =>
          dsimp only
          have there := inPlace count last content
          by_cases same : slot = position (key last) % newSize
          · subst same
            rw [Function.update_self, Option.some.injEq]
            constructor
            · rintro rfl
              exact ⟨rfl, by rw [there, content], by omega⟩
            · rintro ⟨shared, held, -⟩
              have old : position (key entry) % size = count := by
                rw [← there, ← Nat.mod_mod_of_dvd _ multiple, shared, Nat.mod_mod_of_dvd _ multiple]
              rw [old, content, Option.some.injEq] at held
              exact held
          · rw [Function.update_of_ne same, ih]
            refine and_congr_right fun new => and_congr_right fun held => ?_
            have other : position (key entry) % size ≠ count := by
              intro old
              rw [old, content, Option.some.injEq] at held
              exact same (held ▸ new.symm)
            omega

theorem lookup_rehash (inPlace : InPlace key position size slots) (multiple : size ∣ newSize)
    (nonempty : 0 < size) :
    lookup key position newSize (rehash key position slots newSize size) =
      lookup key position size slots := by
  funext wanted
  apply Option.ext
  intro entry
  rw [lookup_eq_some_iff, lookup_eq_some_iff, rehash_eq_some_iff inPlace multiple]
  constructor
  · rintro ⟨⟨-, held, -⟩, rfl⟩
    exact ⟨held, rfl⟩
  · rintro ⟨held, rfl⟩
    exact ⟨⟨rfl, held, Nat.mod_lt _ nonempty⟩, rfl⟩

omit [DecidableEq Key] in
theorem inPlace_rehash (inPlace : InPlace key position size slots) (multiple : size ∣ newSize) :
    InPlace key position newSize (rehash key position slots newSize size) :=
  fun slot entry held => ((rehash_eq_some_iff inPlace multiple size slot entry).mp held).1

end Rehash

end Math.SlotTable
