import Mathlib.Data.List.TakeWhile

/-!
# Binary search

`std::lower_bound` halves a range that begins with the items for which a test holds and ends with
those for which it does not, and returns where the second part begins. On a range that is not
divided in this way the result means nothing.
-/

namespace Math.LowerBound

variable {Item : Type} (before : Item → Bool)

/-- The loop, over the `count` items from `first` on. Every round takes at least one item off the
range, so its length bounds the number of rounds. -/
def loop (items : List Item) : Nat → Nat → Nat → Nat
  | 0, first, _ => first
  | rounds + 1, first, count =>
      if count = 0 then first
      else if (items[first + count / 2]?).any before then
        loop items rounds (first + count / 2 + 1) (count - (count / 2 + 1))
      else loop items rounds first (count / 2)

/-- `std::lower_bound`, as an index. -/
def index (items : List Item) : Nat := loop before items items.length 0 items.length

/-- The test holds for a first part of the items, and for no other. -/
def Partitioned (items : List Item) : Prop :=
  items.Pairwise fun earlier later => before later = true → before earlier = true

variable {before} {items : List Item}

theorem Partitioned.dropWhile_eq_filter (partitioned : Partitioned before items) :
    items.dropWhile before = items.filter fun item => !before item := by
  induction items with
  | nil => rfl
  | cons item items ih =>
      obtain ⟨first, rest⟩ := List.pairwise_cons.mp partitioned
      by_cases holds : before item = true
      · rw [List.dropWhile_cons_of_pos holds, List.filter_cons_of_neg (by rw [holds]; decide), ih rest]
      · have none : ∀ later ∈ items, (!before later) = true := fun later member => by
          rw [Bool.not_eq_true', Bool.eq_false_iff]
          exact fun holdsLater => holds (first later member holdsLater)
        rw [List.dropWhile_cons_of_neg holds, List.filter_cons_of_pos (by rwa [Bool.not_eq_true',
          Bool.eq_false_iff]), List.filter_eq_self.mpr none]

theorem getElem?_of_lt (i : Nat) (inside : i < (items.takeWhile before).length) :
    ∃ item, items[i]? = some item ∧ before item = true := by
  obtain ⟨item, taken⟩ : ∃ item, (items.takeWhile before)[i]? = some item :=
    ⟨_, List.getElem?_eq_getElem inside⟩
  refine ⟨item, ?_, List.all_eq_true.mp List.all_takeWhile _ (List.mem_of_getElem? taken)⟩
  rw [← List.takeWhile_append_dropWhile (p := before) (l := items),
    List.getElem?_append_left inside]
  exact taken

variable (partitioned : Partitioned before items)
include partitioned

/-- Behind the first part the test does not hold. -/
theorem Partitioned.not_before_of_le {i : Nat}
    (behind : (items.takeWhile before).length ≤ i) : (items[i]?).any before = false := by
  have whole := List.takeWhile_append_dropWhile (p := before) (l := items)
  rw [← whole, List.getElem?_append_right behind, partitioned.dropWhile_eq_filter]
  cases found : (items.filter fun item => !before item)[i - (items.takeWhile before).length]? with
  | none => rfl
  | some item => exact (Bool.not_eq_true' _).mp (List.mem_filter.mp (List.mem_of_getElem? found)).2

theorem loop_eq (rounds first count : Nat)
    (enough : count ≤ rounds) (after : first ≤ (items.takeWhile before).length)
    (within : (items.takeWhile before).length ≤ first + count) :
    loop before items rounds first count = (items.takeWhile before).length := by
  induction rounds generalizing first count with
  | zero =>
      rw [loop]
      omega
  | succ rounds ih =>
      rw [loop]
      by_cases none : count = 0
      · rw [if_pos none]
        omega
      · rw [if_neg none]
        rcases Nat.lt_or_ge (first + count / 2) (items.takeWhile before).length with inside | behind
        · obtain ⟨item, found, holds⟩ := getElem?_of_lt _ inside
          rw [found, Option.any_some, if_pos holds]
          apply ih
          · omega
          · omega
          · omega
        · rw [partitioned.not_before_of_le behind, if_neg Bool.false_ne_true]
          apply ih
          · omega
          · omega
          · omega

theorem index_eq : index before items = (items.takeWhile before).length := by
  apply loop_eq partitioned
  · exact Nat.le_refl _
  · exact Nat.zero_le _
  · rw [Nat.zero_add]
    exact (List.takeWhile_sublist _).length_le

/-- What is left from the result on are the items for which the test does not hold. -/
theorem drop_index : items.drop (index before items) = items.filter fun item => !before item := by
  rw [index_eq partitioned, ← partitioned.dropWhile_eq_filter]
  have whole := List.takeWhile_append_dropWhile (p := before) (l := items)
  exact (congrArg (List.drop _) whole.symm).trans List.drop_left

end Math.LowerBound
