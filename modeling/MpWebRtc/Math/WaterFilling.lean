import Mathlib.Algebra.BigOperators.Ring.List
import Mathlib.Algebra.Order.BigOperators.Group.List
import Mathlib.Algebra.Order.Field.Rat
import Mathlib.Data.Rat.Floor
import Mathlib.Tactic.FieldSimp
import Mathlib.Tactic.Linarith
import Mathlib.Tactic.Ring

/-!
# Water filling

An amount is shared out by weights among vessels with capacities. Vessels are taken in the order in
which they get full; each is filled up as long as its share of what is left fills it, and the rest
is shared out in whole units. Then there is a level such that each vessel has what its weight
brings it at that level, or its capacity where that is less.
-/

namespace Math

/-- What takes a part of the amount. -/
structure Vessel where
  capacity : Int
  weight : ℚ

namespace Vessel

/-- The level at which the vessel is full. -/
def fullAt (vessel : Vessel) : ℚ := vessel.capacity / vessel.weight

/-- What the vessel has at a level. -/
def contentAt (vessel : Vessel) (level : ℚ) : Int := min vessel.capacity ⌊vessel.weight * level⌋

/-- The weight of a list of vessels. -/
def totalWeight (vessels : List Vessel) : ℚ := (vessels.map weight).sum

/-- The capacity of a list of vessels. -/
def totalCapacity (vessels : List Vessel) : Int := (vessels.map capacity).sum

/-- What the vessels get of an amount. The weights are those of all vessels in the list. -/
def pour : List Vessel → Int → ℚ → List Int
  | [], _, _ => []
  | vessel :: rest, amount, weights =>
      if vessel.weight / weights * amount ≥ vessel.capacity then
        vessel.capacity :: pour rest (amount - vessel.capacity) (weights - vessel.weight)
      else (vessel :: rest).map fun vessel => ⌊vessel.weight / weights * amount⌋

@[simp] theorem totalWeight_cons (vessel : Vessel) (rest : List Vessel) :
    totalWeight (vessel :: rest) = vessel.weight + totalWeight rest := rfl

@[simp] theorem totalCapacity_cons (vessel : Vessel) (rest : List Vessel) :
    totalCapacity (vessel :: rest) = vessel.capacity + totalCapacity rest := rfl

variable {vessels rest : List Vessel} {vessel : Vessel} {amount : Int}

theorem totalWeight_nonneg (positive : ∀ vessel ∈ vessels, 0 < vessel.weight) :
    0 ≤ totalWeight vessels := by
  apply List.sum_nonneg
  intro weight member
  obtain ⟨vessel, isIn, rfl⟩ := List.mem_map.mp member
  exact (positive vessel isIn).le

theorem totalWeight_cons_pos (positive : ∀ other ∈ vessel :: rest, 0 < other.weight) :
    0 < totalWeight (vessel :: rest) := by
  have first := positive vessel List.mem_cons_self
  have others := totalWeight_nonneg fun other member => positive other (.tail _ member)
  rw [totalWeight_cons]
  linarith

theorem totalWeight_sub : totalWeight (vessel :: rest) - vessel.weight = totalWeight rest := by
  rw [totalWeight_cons]
  ring

/-- A vessel that the level does not fill has what its weight brings it. -/
theorem contentAt_of_lt {level : ℚ} (positive : 0 < vessel.weight) (above : level < vessel.fullAt) :
    vessel.contentAt level = ⌊vessel.weight * level⌋ := by
  apply min_eq_right
  have less : vessel.weight * level < vessel.capacity := by
    unfold fullAt at above
    rw [lt_div_iff₀ positive] at above
    rwa [mul_comm]
  exact Int.floor_le_iff.mpr (by linarith)

/-- A vessel that the level fills is full. -/
theorem contentAt_of_le {level : ℚ} (positive : 0 < vessel.weight)
    (reached : vessel.fullAt ≤ level) : vessel.contentAt level = vessel.capacity := by
  apply min_eq_left
  unfold fullAt at reached
  rw [div_le_iff₀ positive, mul_comm] at reached
  exact Int.le_floor.mpr reached

/-- The share fills a vessel when the level does. -/
theorem enough_iff {weights : ℚ} (positive : 0 < vessel.weight) :
    vessel.weight / weights * amount ≥ vessel.capacity ↔ vessel.fullAt ≤ amount / weights := by
  unfold fullAt
  rw [div_le_iff₀ positive, ge_iff_le]
  have same : vessel.weight / weights * amount = amount / weights * vessel.weight := by ring
  rw [same]

/-- A vessel that is filled takes no more than there is. -/
theorem capacity_le_of_enough (positive : ∀ other ∈ vessel :: rest, 0 < other.weight)
    (nonneg : 0 ≤ amount)
    (enough : vessel.weight / totalWeight (vessel :: rest) * amount ≥ vessel.capacity) :
    vessel.capacity ≤ amount := by
  have weights := totalWeight_cons_pos positive
  have part : vessel.weight / totalWeight (vessel :: rest) ≤ 1 := by
    rw [div_le_one weights, totalWeight_cons]
    linarith [totalWeight_nonneg fun other member => positive other (.tail _ member)]
  have fits : (vessel.capacity : ℚ) ≤ amount :=
    le_trans enough (mul_le_of_le_one_left (by exact_mod_cast nonneg) part)
  exact_mod_cast fits

/-- **There is a level** at which each vessel has what it gets, and it is not below the level of the
amount. -/
theorem exists_level (positive : ∀ vessel ∈ vessels, 0 < vessel.weight)
    (sorted : vessels.Pairwise fun first second => first.fullAt ≤ second.fullAt) {low : ℚ}
    (below : low * totalWeight vessels ≤ amount) :
    ∃ level, low ≤ level ∧
      pour vessels amount (totalWeight vessels) = vessels.map fun vessel =>
        vessel.contentAt level := by
  induction vessels generalizing amount low with
  | nil => exact ⟨low, le_rfl, rfl⟩
  | cons vessel rest ih =>
      have weight := positive vessel List.mem_cons_self
      have weights := totalWeight_cons_pos positive
      have isBelow : low ≤ amount / totalWeight (vessel :: rest) := (le_div_iff₀ weights).mpr below
      obtain ⟨first, sorted⟩ := List.pairwise_cons.mp sorted
      unfold pour
      split
      · rename_i enough
        have reached := (enough_iff weight).mp enough
        -- what is left is not below the level of the amount
        have left : amount / totalWeight (vessel :: rest) * totalWeight rest ≤
            ((amount - vessel.capacity : Int) : ℚ) := by
          have whole : amount / totalWeight (vessel :: rest) * totalWeight (vessel :: rest) =
              amount := div_mul_cancel₀ _ weights.ne'
          rw [totalWeight_cons, mul_add, ← totalWeight_cons] at whole
          have share : vessel.weight / totalWeight (vessel :: rest) * amount =
              amount / totalWeight (vessel :: rest) * vessel.weight := by ring
          rw [share] at enough
          push_cast
          linarith
        obtain ⟨level, high, poured⟩ := ih (fun other member => positive other (.tail _ member))
          sorted left
        refine ⟨level, isBelow.trans high, ?_⟩
        rw [totalWeight_sub, poured, List.map_cons, contentAt_of_le weight (reached.trans high)]
      · rename_i short
        rw [enough_iff weight, not_le] at short
        refine ⟨amount / totalWeight (vessel :: rest), isBelow, List.map_congr_left ?_⟩
        intro other member
        have later : vessel.fullAt ≤ other.fullAt := by
          rcases List.mem_cons.mp member with rfl | member
          · exact le_rfl
          · exact first other member
        rw [contentAt_of_lt (positive other member) (short.trans_le later)]
        congr 1
        ring

/-- What is shared out in whole units is at most the amount, and less than a unit is lost for each
vessel. -/
theorem sum_shares (nonempty : vessels ≠ []) (share : Vessel → ℚ) :
    ((vessels.map fun vessel => ⌊share vessel⌋).sum : ℚ) ≤ (vessels.map share).sum ∧
      (vessels.map share).sum <
    (vessels.map fun vessel => ⌊share vessel⌋).sum + vessels.length := by
  induction vessels with
  | nil => exact absurd rfl nonempty
  | cons vessel rest ih =>
      have lower := Int.floor_le (share vessel)
      have upper := Int.lt_floor_add_one (share vessel)
      rw [List.map_cons, List.map_cons, List.sum_cons, List.sum_cons, List.length_cons]
      rw [Int.cast_add, Nat.cast_add, Nat.cast_one]
      cases rest with
      | nil =>
          simp only [List.map_nil, List.sum_nil, List.length_nil, Int.cast_zero, Nat.cast_zero]
          constructor <;> linarith
      | cons next rest =>
          obtain ⟨atMost, lost⟩ := ih (List.cons_ne_nil _ _)
          constructor <;> linarith

/-- The shares add up to the amount. -/
theorem sum_share (positive : 0 < totalWeight vessels) :
    (vessels.map fun vessel => vessel.weight / totalWeight vessels * amount).sum = amount := by
  have same : (fun vessel : Vessel => vessel.weight / totalWeight vessels * amount) =
      fun vessel => vessel.weight * (amount / totalWeight vessels) := by
    funext vessel
    ring
  rw [same, List.sum_map_mul_right]
  exact mul_div_cancel₀ _ positive.ne'

/-- No more is poured than there is. -/
theorem sum_pour_le (positive : ∀ vessel ∈ vessels, 0 < vessel.weight) (nonneg : 0 ≤ amount) :
    (pour vessels amount (totalWeight vessels)).sum ≤ amount := by
  induction vessels generalizing amount with
  | nil => exact nonneg
  | cons vessel rest ih =>
      have weights := totalWeight_cons_pos positive
      have others := fun other member => positive other (.tail _ member)
      unfold pour
      split
      · rename_i enough
        have fits := capacity_le_of_enough positive nonneg enough
        have left : 0 ≤ amount - vessel.capacity := by omega
        rw [totalWeight_sub, List.sum_cons]
        linarith [ih others left]
      · have shares := (sum_shares (List.cons_ne_nil vessel rest)
          fun other => other.weight / totalWeight (vessel :: rest) * amount).1
        rw [sum_share weights] at shares
        exact_mod_cast shares

/-- When the vessels can hold the amount, less than a unit is lost for each vessel. -/
theorem le_sum_pour (positive : ∀ vessel ∈ vessels, 0 < vessel.weight)
    (holds : amount ≤ totalCapacity vessels) :
    amount ≤ (pour vessels amount (totalWeight vessels)).sum + (vessels.length - 1 : Nat) := by
  induction vessels generalizing amount with
  | nil => exact holds
  | cons vessel rest ih =>
      have weights := totalWeight_cons_pos positive
      unfold pour
      split
      · rw [totalCapacity_cons] at holds
        have left := ih (fun other member => positive other (.tail _ member))
          (show amount - vessel.capacity ≤ totalCapacity rest by omega)
        rw [totalWeight_sub, List.sum_cons, List.length_cons]
        omega
      · have shares := (sum_shares (List.cons_ne_nil vessel rest)
          fun other => other.weight / totalWeight (vessel :: rest) * amount).2
        rw [sum_share weights] at shares
        have less : amount < ((vessel :: rest).map fun other =>
            ⌊other.weight / totalWeight (vessel :: rest) * amount⌋).sum +
              (vessel :: rest).length := by exact_mod_cast shares
        rw [List.length_cons] at less ⊢
        omega

end Vessel

end Math
