import Mathlib.Data.List.Basic
import Mathlib.Data.List.DropRight
import Mathlib.Tactic.SplitIfs

/-!
# Queues whose items keep their places

A double-ended queue grows and shrinks at both ends without moving its items. Counted from a
fixed origin, an item therefore keeps its place, and a place can be held on to as long as its item
is there.
-/

namespace Math

/-- A queue whose first item has the place `origin`. -/
structure PlacedQueue (Item : Type) where
  origin : Int := 0
  items : List Item := []
  deriving DecidableEq

namespace PlacedQueue

variable {Item : Type} (queue : PlacedQueue Item)

/-- The place of the item with this index. -/
def place (index : Nat) : Int := queue.origin + index

/-- The item at a place. -/
def itemAt (place : Int) : Option Item :=
  if place < queue.origin then none else queue.items[(place - queue.origin).toNat]?

/-- Change an item. -/
def modify (queue : PlacedQueue Item) (index : Nat) (change : Item → Item) : PlacedQueue Item :=
  { queue with items := queue.items.modify index change }

/-- Put an item in the place of another. -/
def set (queue : PlacedQueue Item) (index : Nat) (item : Item) : PlacedQueue Item :=
  { queue with items := queue.items.set index item }

/-- Remove the first items, as long as they are to be dropped. -/
def dropWhile (queue : PlacedQueue Item) (drops : Item → Bool) : PlacedQueue Item where
  origin := queue.origin + (queue.items.takeWhile drops).length
  items := queue.items.dropWhile drops

/-- Grow at both ends. -/
def grow (front back : Nat) (item : Item) : PlacedQueue Item where
  origin := queue.origin - front
  items := List.replicate front item ++ queue.items ++ List.replicate back item

section Places

variable {queue : PlacedQueue Item} {index : Nat} {place : Int} {item : Item}

theorem itemAt_place (queue : PlacedQueue Item) (index : Nat) :
    queue.itemAt (queue.place index) = queue.items[index]? := by
  unfold itemAt PlacedQueue.place
  have here : (queue.origin + index - queue.origin).toNat = index := by omega
  rw [if_neg (by omega), here]

/-- Where an item is, it has an index. -/
theorem exists_index (found : queue.itemAt place = some item) :
    ∃ index, place = queue.place index ∧ queue.items[index]? = some item := by
  unfold itemAt at found
  split_ifs at found with before
  refine ⟨(place - queue.origin).toNat, ?_, found⟩
  unfold PlacedQueue.place
  omega

variable (change : Item → Item)

theorem itemAt_modify :
    (queue.modify index change).itemAt place =
      if place = queue.place index then (queue.itemAt place).map change
      else queue.itemAt place := by
  unfold itemAt modify PlacedQueue.place
  dsimp only
  by_cases before : place < queue.origin
  · rw [if_pos before, if_pos before, if_neg (by omega)]
  · rw [if_neg before, if_neg before, List.getElem?_modify]
    by_cases same : place = queue.origin + index
    · have here : index = (place - queue.origin).toNat := by omega
      rw [if_pos same, ← here]
      simp only [↓reduceIte]
      rfl
    · have apart : index ≠ (place - queue.origin).toNat := by omega
      rw [if_neg same]
      simp only [apart, ↓reduceIte]
      exact congrFun Option.map_id _

theorem itemAt_modify_of_ne (apart : place ≠ queue.place index) :
    (queue.modify index change).itemAt place = queue.itemAt place := by
  rw [itemAt_modify, if_neg apart]

theorem itemAt_set_of_ne (apart : place ≠ queue.place index) :
    (queue.set index item).itemAt place = queue.itemAt place := by
  unfold itemAt set PlacedQueue.place at *
  dsimp only
  by_cases before : place < queue.origin
  · rw [if_pos before, if_pos before]
  · rw [if_neg before, if_neg before, List.getElem?_set_ne (by omega)]

/-- What is not dropped stays in its place. -/
theorem itemAt_dropWhile {drops : Item → Bool} (found : queue.itemAt place = some item)
    (stays : drops item = false) : (queue.dropWhile drops).itemAt place = some item := by
  obtain ⟨index, rfl, present⟩ := exists_index found
  have behind : (queue.items.takeWhile drops).length ≤ index := by
    by_contra inside
    rw [Nat.not_le] at inside
    have whole : queue.items.takeWhile drops ++ queue.items.dropWhile drops = queue.items :=
      List.takeWhile_append_dropWhile
    have taken : (queue.items.takeWhile drops)[index]? = some item := by
      rw [← whole, List.getElem?_append_left inside] at present
      exact present
    have dropped := List.all_eq_true.mp List.all_takeWhile item (List.mem_of_getElem? taken)
    rw [stays] at dropped
    cases dropped
  have rest : queue.items = queue.items.takeWhile drops ++ queue.items.dropWhile drops :=
    List.takeWhile_append_dropWhile.symm
  rw [rest, List.getElem?_append_right behind] at present
  unfold itemAt dropWhile PlacedQueue.place
  dsimp only
  rw [if_neg (by omega)]
  have here : (queue.origin + index - (queue.origin + (queue.items.takeWhile drops).length)).toNat =
      index - (queue.items.takeWhile drops).length := by omega
  rw [here]
  exact present

/-- Growing keeps everything in its place. -/
theorem itemAt_grow {front back : Nat} {blank : Item} (found : queue.itemAt place = some item) :
    (queue.grow front back blank).itemAt place = some item := by
  obtain ⟨index, rfl, present⟩ := exists_index found
  have inside := (List.getElem?_eq_some_iff.mp present).1
  unfold itemAt grow PlacedQueue.place
  dsimp only
  rw [if_neg (by omega)]
  have here : (queue.origin + index - (queue.origin - front)).toNat = front + index := by omega
  rw [here, List.getElem?_append_left (by rw [List.length_append, List.length_replicate]; omega),
    List.getElem?_append_right (by rw [List.length_replicate]; omega), List.length_replicate,
    Nat.add_sub_cancel_left]
  exact present

end Places

end PlacedQueue

end Math
