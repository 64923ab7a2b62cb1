import Mathlib.Data.List.Rotate
import Mathlib.Data.List.Pairwise
import Mathlib.Order.Lattice

/-!
# Rotation over sorted keys

A cursor is a key; the next turn starts behind it and wraps around. What is taken in a turn is
then a part of the sorted keys as they are rotated, and with a cursor on the last key that was
taken the next turn goes on where this one stopped. Which keys a turn has is a matter of their
places, modulo the number of keys.
-/

namespace Math.Rotation

variable {Key : Type*} [LinearOrder Key] {keys : List Key} {cursor : Key}

/-- The keys in the order of a turn: those behind the cursor, and then the others. -/
def behind (cursor : Key) (keys : List Key) : List Key :=
  keys.filter (fun key => decide (cursor < key)) ++ keys.filter fun key => decide (key ≤ cursor)

/-- The number of keys up to the cursor. -/
def passed (cursor : Key) (keys : List Key) : Nat :=
  (keys.filter fun key => decide (key ≤ cursor)).length

section

variable (sorted : keys.Pairwise (· < ·))
include sorted

/-- In sorted keys, the ones up to the cursor come first. -/
theorem filter_le_append_filter_lt :
    keys.filter (fun key => decide (key ≤ cursor)) ++
      keys.filter (fun key => decide (cursor < key)) = keys := by
  induction keys with
  | nil => rfl
  | cons first rest ih =>
      obtain ⟨least, sortedRest⟩ := List.pairwise_cons.mp sorted
      by_cases up : first ≤ cursor
      · rw [List.filter_cons, if_pos (decide_eq_true up), List.filter_cons,
          if_neg (by simpa using up), List.cons_append, ih sortedRest]
      · have above : ∀ key ∈ first :: rest, cursor < key := by
          intro key member
          rcases List.mem_cons.mp member with rfl | later
          · exact not_le.mp up
          · exact (not_le.mp up).trans (least key later)
        rw [List.filter_eq_nil_iff.mpr fun key member => by simpa using above key member,
          List.filter_eq_self.mpr fun key member => decide_eq_true (above key member),
          List.nil_append]

/-- The order of a turn is a rotation. -/
theorem behind_eq_rotate : behind cursor keys = keys.rotate (passed cursor keys) := by
  have parts := List.rotate_append_length_eq (keys.filter fun key => decide (key ≤ cursor))
    (keys.filter fun key => decide (cursor < key))
  rw [filter_le_append_filter_lt sorted] at parts
  exact parts.symm

/-- Up to the key at a place are the keys up to that place. -/
theorem passed_getElem {place : Nat}
    (inside : place < keys.length) : passed keys[place] keys = place + 1 := by
  have upTo : keys.filter (fun key => decide (key ≤ keys[place])) = keys.take (place + 1) := by
    have increasing := List.pairwise_iff_getElem.mp sorted
    have within : (keys.take (place + 1)).filter (fun key => decide (key ≤ keys[place])) =
        keys.take (place + 1) := by
      refine List.filter_eq_self.mpr fun key member => ?_
      obtain ⟨other, bound, rfl⟩ := List.mem_take_iff_getElem.mp member
      rcases Nat.lt_succ_iff_lt_or_eq.mp (lt_of_lt_of_le bound (min_le_left _ _)) with lt | rfl
      · exact decide_eq_true (increasing other place (by omega) inside lt).le
      · exact decide_eq_true le_rfl
    have beyond : (keys.drop (place + 1)).filter (fun key => decide (key ≤ keys[place])) = [] := by
      refine List.filter_eq_nil_iff.mpr fun key member => ?_
      obtain ⟨offset, bound, rfl⟩ := List.mem_drop_iff_getElem.mp member
      simpa using increasing place (place + 1 + offset) inside (by omega) (by omega)
    have parts := congrArg (List.filter fun key => decide (key ≤ keys[place]))
      (List.take_append_drop (place + 1) keys)
    rw [List.filter_append, within, beyond, List.append_nil] at parts
    exact parts.symm
  unfold passed
  rw [upTo, List.length_take, min_eq_left (by omega)]

/-- With the cursor on the last key of a turn, the next turn goes on where this one stopped. -/
theorem behind_getLast {start count : Nat} (positive : 0 < count)
    (bounded : count ≤ keys.length) {last : Key}
    (isLast : ((keys.rotate start).take count).getLast? = some last) :
    behind last keys = keys.rotate (start + count) := by
  have place : (count - 1 + start) % keys.length < keys.length := Nat.mod_lt _ (by omega)
  rw [List.getLast?_eq_getElem?, List.length_take, List.length_rotate, min_eq_left bounded,
    List.getElem?_take_of_lt (by omega), List.getElem?_rotate (by omega),
    List.getElem?_eq_getElem place] at isLast
  obtain rfl := Option.some.inj isLast
  rw [behind_eq_rotate sorted, passed_getElem sorted place, ← List.rotate_mod,
    Nat.mod_add_mod, show count - 1 + start + 1 = start + count by omega, List.rotate_mod]

end

section Turns

variable {Key : Type*} {keys : List Key} {start count total : Nat} {turns : List Nat}

/-- A key is in a turn if its place is among those of the turn, modulo the number of keys. -/
theorem getElem_mem_take_rotate (nodup : keys.Nodup) {place start count : Nat}
    (inside : place < keys.length) (bounded : count ≤ keys.length) :
    keys[place] ∈ (keys.rotate start).take count ↔
      ((place : Int) - start) % keys.length < count := by
  rw [List.mem_take_iff_getElem]
  simp only [List.length_rotate, List.getElem_rotate, min_eq_left bounded]
  constructor
  · rintro ⟨offset, bound, same⟩
    have placed : (offset + start) % keys.length = place := (nodup.getElem_inj_iff).mp same
    have there : ((place : Int) - start) % keys.length = offset % keys.length := by
      rw [← placed, Int.natCast_emod, Int.sub_eq_add_neg, Int.emod_add_emod, Int.natCast_add,
        Int.add_neg_cancel_right]
    rw [there, Int.emod_eq_of_lt (by omega) (by omega)]
    exact_mod_cast bound
  · intro near
    have nonneg := Int.emod_nonneg ((place : Int) - start) (show (keys.length : Int) ≠ 0 by omega)
    obtain ⟨offset, known⟩ := Int.eq_ofNat_of_zero_le nonneg
    refine ⟨offset, by omega, ?_⟩
    have placed : (offset + start) % keys.length = place := by
      have lifted : (((offset + start) % keys.length : Nat) : Int) = place := by
        rw [Int.natCast_emod, Int.natCast_add, ← known, Int.emod_add_emod, Int.sub_add_cancel,
          Int.emod_eq_of_lt (by omega) (by omega)]
      exact_mod_cast lifted
    simp only [placed]

/-- The keys of a turn, when each turn before it had as many. -/
def turn (keys : List Key) (start count number : Nat) : List Key :=
  (keys.rotate (start + number * count)).take count

/-- Among some of the turns, every place comes up. -/
def Exhaustive (count total : Nat) (turns : List Nat) : Prop :=
  ∀ place < total, ∃ number ∈ turns, ((place : Int) - (number * count : Nat)) % total < count

instance : Decidable (Exhaustive count total turns) := Nat.decidableBallLT _ _

theorem length_turn {number : Nat} (bounded : count ≤ keys.length) :
    (turn keys start count number).length = count := by
  rw [turn, List.length_take, List.length_rotate, min_eq_left bounded]

theorem nodup_turn (nodup : keys.Nodup) {number : Nat} : (turn keys start count number).Nodup :=
  (List.nodup_rotate.mpr nodup).sublist (List.take_sublist ..)

/-- The places go around. -/
theorem exhaustive_iff_forall_int (positive : 0 < total) :
    Exhaustive count total turns ↔
      ∀ place : Int, ∃ number ∈ turns, (place - (number * count : Nat)) % total < count := by
  constructor
  · intro exhaustive place
    have nonneg := Int.emod_nonneg place (show (total : Int) ≠ 0 by omega)
    have below := Int.emod_lt_of_pos place (show 0 < (total : Int) by omega)
    obtain ⟨number, member, near⟩ := exhaustive (place % total).toNat (by omega)
    refine ⟨number, member, ?_⟩
    rw [Int.toNat_of_nonneg nonneg, Int.emod_sub_emod] at near
    exact near
  · exact fun exhaustive place _ => exhaustive place

/-- Where the first turn starts does not matter to whether every key comes up. -/
theorem forall_exists_mem_turn_iff (nodup : keys.Nodup) (bounded : count ≤ keys.length)
    (start : Nat) :
    (∀ key ∈ keys, ∃ number ∈ turns, key ∈ turn keys start count number) ↔
      Exhaustive count keys.length turns := by
  rcases Nat.eq_zero_or_pos keys.length with none | positive
  · rw [List.length_eq_zero_iff.mp none]
    exact ⟨fun _ _ => nofun, fun _ _ => nofun⟩
  have placed : ∀ {place number : Nat} (inside : place < keys.length),
      keys[place] ∈ turn keys start count number ↔
        ((place : Int) - start - (number * count : Nat)) % keys.length < count := by
    intro place number inside
    rw [turn, getElem_mem_take_rotate nodup inside bounded, Int.natCast_add, Int.sub_sub]
  rw [exhaustive_iff_forall_int positive]
  constructor
  · intro all place
    have nonneg := Int.emod_nonneg (place + start) (show (keys.length : Int) ≠ 0 by omega)
    have below := Int.emod_lt_of_pos (place + start) (show 0 < (keys.length : Int) by omega)
    have inside : ((place + start) % keys.length).toNat < keys.length := by omega
    obtain ⟨number, member, among⟩ := all _ (List.getElem_mem inside)
    refine ⟨number, member, ?_⟩
    have near := (placed inside).mp among
    rw [Int.toNat_of_nonneg nonneg, Int.sub_sub, Int.emod_sub_emod, ← Int.sub_sub,
      Int.add_sub_cancel] at near
    exact near
  · intro exhaustive key member
    obtain ⟨place, inside, rfl⟩ := List.getElem_of_mem member
    obtain ⟨number, among, near⟩ := exhaustive ((place : Int) - start)
    exact ⟨number, among, (placed inside).mpr near⟩

/-- Successive turns, enough of them, cover everything. -/
theorem exhaustive_range' {first length : Nat} (positive : 0 < count)
    (enough : total ≤ length * count) : Exhaustive count total (List.range' first length) := by
  intro place inside
  have nonneg := Int.emod_nonneg ((place : Int) - (first * count : Nat))
    (show (total : Int) ≠ 0 by omega)
  have below := Int.emod_lt_of_pos ((place : Int) - (first * count : Nat))
    (show 0 < (total : Int) by omega)
  obtain ⟨distance, known⟩ := Int.eq_ofNat_of_zero_le nonneg
  have near := Nat.mod_lt distance positive
  have early : distance / count < length := (Nat.div_lt_iff_lt_mul positive).mpr (by omega)
  refine ⟨first + distance / count, List.mem_range'_1.mpr
    ⟨Nat.le_add_right .., Nat.add_lt_add_left early first⟩, ?_⟩
  have parts := Nat.div_add_mod' distance count
  have shifted : ((place : Int) - ((first + distance / count) * count : Nat)) % total =
      ((distance % count : Nat) : Int) % total := by
    have left : ((distance % count : Nat) : Int) =
        (distance : Int) - (distance / count * count : Nat) := by omega
    rw [left, ← known, Int.emod_sub_emod, Nat.add_mul, Int.natCast_add, Int.sub_sub]
  have least := Nat.mod_le distance count
  rw [shifted, Int.emod_eq_of_lt (Int.natCast_nonneg _) (by omega)]
  omega

end Turns

end Math.Rotation
