import MpWebRtc.Math.Serial

/-!
# Slots numbered by position

A window over a numbered stream keeps its elements in a list of slots: the slot at
position `i` is either empty or holds the element numbered `first + i`, modulo 2^16.
The number of an occupied slot is therefore determined by its position, and looking a
number up is a matter of computing a position.
-/

namespace Math

open Serial

variable {Slot : Type*}

/-- An occupied slot at position `i` holds number `first + i`. -/
def NumberedFrom (number : Slot → Option UInt16) (first : UInt16) (slots : List Slot) : Prop :=
  ∀ i slot, slots[i]? = some slot → ∀ n ∈ number slot, n = first + UInt16.ofNat i

namespace NumberedFrom

variable {number : Slot → Option UInt16} {first : UInt16} {slots : List Slot}

theorem nil (first : UInt16) : NumberedFrom number first [] := by
  intro i slot found
  simp at found

variable (numbered : NumberedFrom number first slots)
include numbered

theorem drop (k : Nat) : NumberedFrom number (first + UInt16.ofNat k) (slots.drop k) := by
  intro i slot found n occupied
  rw [List.getElem?_drop] at found
  rw [numbered (k + i) slot found n occupied, UInt16.ofNat_add, UInt16.add_assoc]

theorem dropWhile (skipped : Slot → Bool) :
    ∃ next, NumberedFrom number next (slots.dropWhile skipped) := by
  have whole : slots.takeWhile skipped ++ slots.dropWhile skipped = slots :=
    List.takeWhile_append_dropWhile
  have rest := numbered.drop (slots.takeWhile skipped).length
  rw [← congrArg (List.drop (slots.takeWhile skipped).length) whole, List.drop_left] at rest
  exact ⟨_, rest⟩

/-- Replacing a slot keeps the numbering if the new content has the right number. -/
theorem set {i : Nat} {slot : Slot} (right : ∀ n ∈ number slot, n = first + UInt16.ofNat i) :
    NumberedFrom number first (slots.set i slot) := by
  intro j other found n occupied
  by_cases same : i = j
  · subst same
    obtain ⟨inRange, content⟩ := List.getElem?_eq_some_iff.mp found
    rw [List.getElem_set_self] at content
    exact right n (content ▸ occupied)
  · rw [List.getElem?_set_ne same] at found
    exact numbered j other found n occupied

/-- Changing a slot in place keeps the numbering if its content keeps its number. -/
theorem modify (i : Nat) {change : Slot → Slot}
    (keeps : ∀ slot, ∀ n ∈ number (change slot), n ∈ number slot) :
    NumberedFrom number first (slots.modify i change) := by
  intro j slot found n isNumbered
  rw [List.getElem?_modify] at found
  obtain ⟨old, present, rfl⟩ := Option.map_eq_some_iff.mp found
  refine numbered j old present n ?_
  split at isNumbered
  · exact keeps old n isNumbered
  · exact isNumbered

theorem append_empty {blank : Slot} (empty : number blank = none) (k : Nat) :
    NumberedFrom number first (slots ++ List.replicate k blank) := by
  intro i slot found n occupied
  rcases Nat.lt_or_ge i slots.length with inside | beyond
  · rw [List.getElem?_append_left inside] at found
    exact numbered i slot found n occupied
  · rw [List.getElem?_append_right beyond] at found
    have isBlank := List.eq_of_mem_replicate (List.mem_of_getElem? found)
    simp [isBlank, empty] at occupied

theorem empty_append {blank : Slot} (empty : number blank = none) {k : Nat} {start : UInt16}
    (shift : start + UInt16.ofNat k = first) :
    NumberedFrom number start (List.replicate k blank ++ slots) := by
  intro i slot found n occupied
  rcases Nat.lt_or_ge i k with before | inside
  · rw [List.getElem?_append_left (by simpa using before)] at found
    have isBlank := List.eq_of_mem_replicate (List.mem_of_getElem? found)
    simp [isBlank, empty] at occupied
  · rw [List.getElem?_append_right (by simpa using inside), List.length_replicate] at found
    rw [numbered (i - k) slot found n occupied, ← shift, UInt16.add_assoc, ← UInt16.ofNat_add,
      Nat.add_sub_cancel' inside]

/-- The slot at the offset of a number holds that number, if it is occupied. -/
theorem number_of_offset {n m : UInt16} {i : Nat}
    {slot : Slot} (position : offset first n = i) (found : slots[i]? = some slot)
    (occupied : number slot = some m) : m = n := by
  rw [numbered i slot found m occupied]
  exact add_ofNat_offset position

/-- Conversely, in a window of at most half the number space the slot of a number is at
its offset. -/
theorem offset_of_number {n : UInt16} {i : Nat}
    {slot : Slot} (found : slots[i]? = some slot) (occupied : number slot = some n)
    (short : slots.length ≤ 32768) : offset first n = i := by
  rw [numbered i slot found n occupied]
  obtain ⟨inRange, -⟩ := List.getElem?_eq_some_iff.mp found
  exact offset_add (by omega)

end NumberedFrom

end Math
