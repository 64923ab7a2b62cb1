import Mathlib.Data.List.Forall2
import Mathlib.Data.List.Sort

/-!
# Insertion behind equals

A multimap or a priority queue with a strict order puts a new element before the first
element it precedes, hence behind its equals. This is `List.orderedInsert` at the strict
order. The lemmas say that the list stays sorted, what comes first, and that two lists
whose elements correspond stay so when the new elements compare alike.
-/

namespace Math

variable {α β : Type*} {r : α → α → Prop} [DecidableRel r] {s : β → β → Prop} [DecidableRel s]

/-- No element precedes an earlier one. -/
def StrictlySorted (r : α → α → Prop) (list : List α) : Prop :=
  list.Pairwise fun earlier later => ¬ r later earlier

theorem StrictlySorted.orderedInsert (asymm : ∀ a b, r a b → ¬ r b a)
    (trans : ∀ a b c, r a b → r b c → r a c) {list : List α} (sorted : StrictlySorted r list)
    (x : α) : StrictlySorted r (list.orderedInsert r x) := by
  induction list with
  | nil => exact List.pairwise_singleton _ _
  | cons y list ih =>
      obtain ⟨first, rest⟩ := List.pairwise_cons.mp sorted
      rw [List.orderedInsert_cons]
      by_cases precedes : r x y
      · rw [if_pos precedes]
        refine List.Pairwise.cons (fun z member => ?_) sorted
        rcases List.mem_cons.mp member with rfl | later
        · exact asymm _ _ precedes
        · exact fun before => first z later (trans z x y before precedes)
      · rw [if_neg precedes]
        refine List.Pairwise.cons (fun z member => ?_) (ih rest)
        rcases (List.mem_orderedInsert r).mp member with rfl | later
        · exact precedes
        · exact first z later

theorem head?_orderedInsert (x : α) (list : List α) :
    (list.orderedInsert r x).head? =
      some (match list.head? with
        | none => x
        | some y => if r x y then x else y) := by
  cases list with
  | nil => rfl
  | cons y list =>
      rw [List.orderedInsert_cons]
      by_cases precedes : r x y <;> simp [precedes]

/-- Corresponding elements that compare alike go to corresponding places. -/
theorem forall₂_orderedInsert {match₂ : α → β → Prop} {x : α} {y : β} (new : match₂ x y)
    {left : List α} {right : List β} (old : List.Forall₂ match₂ left right)
    (alike : ∀ a ∈ left, ∀ b ∈ right, match₂ a b → (r x a ↔ s y b)) :
    List.Forall₂ match₂ (left.orderedInsert r x) (right.orderedInsert s y) := by
  induction old with
  | nil => exact .cons new .nil
  | @cons a b left right first rest ih =>
      have here := alike a List.mem_cons_self b List.mem_cons_self first
      have later := ih fun a inLeft b inRight =>
        alike a (List.mem_cons_of_mem _ inLeft) b (List.mem_cons_of_mem _ inRight)
      rw [List.orderedInsert_cons, List.orderedInsert_cons]
      by_cases precedes : r x a
      · rw [if_pos precedes, if_pos (here.mp precedes)]
        exact .cons new (.cons first rest)
      · rw [if_neg precedes, if_neg fun before => precedes (here.mpr before)]
        exact .cons first later

end Math
