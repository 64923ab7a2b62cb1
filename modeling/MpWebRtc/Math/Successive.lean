import Mathlib.Algebra.BigOperators.Group.Finset.Piecewise
import Mathlib.Algebra.Ring.Int.Defs
import MpWebRtc.Math.OrderedMap
import MpWebRtc.Math.Run

/-!
# Successive values under a key

A map remembers the last value of every key; each further value is compared with the last one of
its key. The differences of a measure between them telescope: over a whole list of values they add
up to the difference between the last and the first value of every key.
-/

namespace Math.Successive

open Math.Run

variable {Key Value : Type} [LinearOrder Key] (key : Value → Key)

/-- Remember a value under its key, and give out the last one with it. -/
def note (last : OrderedMap Key Value) (value : Value) :
    OrderedMap Key Value × List (Value × Value) :=
  (last.insert (key value) value, (last.find (key value)).toList.map fun before => (before, value))

/-- The first value of a key. -/
def firstOf (values : List Value) (k : Key) : Option Value :=
  values.find? fun value => decide (key value = k)

/-- The last value of a key. -/
def lastOf (values : List Value) (k : Key) : Option Value :=
  values.reverse.find? fun value => decide (key value = k)

variable {key} {values : List Value} {value : Value} {k : Key}

theorem firstOf_append_singleton :
    firstOf key (values ++ [value]) k =
      (firstOf key values k).or (if key value = k then some value else none) := by
  unfold firstOf
  rw [List.find?_append, List.find?_singleton]
  simp only [decide_eq_true_eq]

theorem lastOf_append_singleton :
    lastOf key
    (values ++ [value]) k = if key value = k then some value else lastOf key values k := by
  unfold lastOf
  rw [List.reverse_append, List.reverse_singleton, List.singleton_append, List.find?_cons]
  by_cases same : key value = k <;> simp [same]

theorem firstOf_isSome : (firstOf key values k).isSome ↔ k ∈ values.map key := by
  simp [firstOf, List.find?_isSome]

theorem lastOf_isSome : (lastOf key values k).isSome ↔ k ∈ values.map key := by
  simp [lastOf, List.find?_isSome]

/-- The map has the last values. -/
theorem find_finalState (map : OrderedMap Key Value) (values : List Value) (k : Key) :
    (finalState (note key) map values).find k = (lastOf key values k).or (map.find k) := by
  induction values using List.reverseRecOn with
  | nil => rfl
  | append_singleton values value ih =>
      rw [finalState_append, finalState_cons, finalState_nil, note, OrderedMap.find_insert, ih,
        lastOf_append_singleton]
      by_cases same : k = key value
      · rw [if_pos same, if_pos same.symm]
        rfl
      · rw [if_neg same, if_neg fun equal => same equal.symm]

/-- The change of a measure of a key over the values. -/
def change (key : Value → Key) (measure : Value → Int) (values : List Value) (k : Key) : Int :=
  (lastOf key values k).elim 0 measure - (firstOf key values k).elim 0 measure

section Change

variable {measure : Value → Int}

theorem change_of_ne (other : key value ≠ k) :
    change key measure (values ++ [value]) k = change key measure values k := by
  unfold change
  rw [lastOf_append_singleton, firstOf_append_singleton, if_neg other, if_neg other, Option.or_none]

/-- The first value of a key is no change. -/
theorem change_first (fresh : key value ∉ values.map key) :
    change key measure (values ++ [value]) (key value) = 0 := by
  unfold change
  have absent : firstOf key values (key value) = none := by
    rw [← Option.not_isSome_iff_eq_none, firstOf_isSome]
    exact fresh
  rw [lastOf_append_singleton, firstOf_append_singleton, absent, if_pos rfl, if_pos rfl]
  exact sub_self _

/-- A further value adds its difference to the last one. -/
theorem change_next {before : Value} (last : lastOf key values (key value) = some before) :
    change key measure (values ++ [value]) (key value) =
      change key measure values (key value) + (measure value - measure before) := by
  have known : (firstOf key values (key value)).isSome := by
    rw [firstOf_isSome, ← lastOf_isSome, last]
    rfl
  obtain ⟨first, found⟩ := Option.isSome_iff_exists.mp known
  unfold change
  rw [lastOf_append_singleton, firstOf_append_singleton, found, last, if_pos rfl]
  change measure value - measure first = measure before - measure first +
    (measure value - measure before)
  omega

end Change

/-- **Telescoping.** The differences between successive values of the keys add up to the changes
of the keys. -/
theorem sum_differences (measure : Value → Int) (values : List Value) :
    ((outputs (note key) {} values).map fun pair => measure pair.2 - measure pair.1).sum =
      ∑ k ∈ (values.map key).toFinset, change key measure values k := by
  induction values using List.reverseRecOn with
  | nil => rfl
  | append_singleton values value ih =>
      have known : (finalState (note key) {} values).find (key value) =
          lastOf key values (key value) :=
        (find_finalState {} values (key value)).trans (Option.or_none ..)
      have keys : ((values ++ [value]).map key).toFinset =
          insert (key value) (values.map key).toFinset := by
        rw [List.map_append, List.toFinset_append, List.map_singleton, List.toFinset_cons,
          List.toFinset_nil, insert_empty_eq, Finset.union_comm, Finset.singleton_union]
      rw [outputs_append, List.map_append, List.sum_append, ih, keys, outputs_cons, outputs_nil,
        List.append_nil, note, known]
      cases last : lastOf key values (key value) with
      | none =>
          have fresh : key value ∉ values.map key := by
            rw [← lastOf_isSome, last]
            exact Bool.false_ne_true
          have outside : key value ∉ (values.map key).toFinset := by rwa [List.mem_toFinset]
          rw [Finset.sum_insert outside, change_first fresh, zero_add]
          refine (add_zero _).trans (Finset.sum_congr rfl fun k member => ?_)
          refine (change_of_ne fun same => outside ?_).symm
          rwa [same]
      | some before =>
          have member : key value ∈ (values.map key).toFinset := by
            rw [List.mem_toFinset, ← lastOf_isSome, last]
            rfl
          have step (k : Key) : change key measure (values ++ [value]) k =
              change key measure values k +
                if k = key value then measure value - measure before else 0 := by
            by_cases same : k = key value
            · rw [if_pos same, same, change_next last]
            · rw [if_neg same, add_zero, change_of_ne fun equal => same equal.symm]
          rw [Finset.insert_eq_of_mem member, Finset.sum_congr rfl fun k _ => step k,
            Finset.sum_add_distrib, Finset.sum_ite_eq', if_pos member]
          exact congrArg _ (add_zero _)

end Math.Successive
