import Mathlib.Algebra.BigOperators.Group.List.Basic
import Mathlib.Algebra.GroupWithZero.Nat
import Mathlib.Data.List.Pairwise
import Mathlib.Data.List.TakeWhile
import Mathlib.Order.Lattice

/-!
# Ordered maps

A finite map whose entries are kept in the order of their keys, as a list. The order is
a field of the structure, so that an entry is determined by its key and everything else
can be said by membership: what is found under a key, what insertion adds and replaces,
and what remains of the entries that satisfy a condition.
-/

namespace Math

theorem sorted_nil {Key Value : Type} [LinearOrder Key] :
    ([] : List (Key × Value)).Pairwise fun first second => first.1 < second.1 := .nil

/-- A map with its entries in key order. -/
structure OrderedMap (Key Value : Type) [LinearOrder Key] where
  entries : List (Key × Value) := []
  sorted : entries.Pairwise (fun first second => first.1 < second.1) := by exact sorted_nil

namespace OrderedMap

variable {Key Value : Type} [LinearOrder Key]

instance [DecidableEq Value] : DecidableEq (OrderedMap Key Value) := fun first second =>
  decidable_of_iff (first.entries = second.entries)
    ⟨fun same => by cases first; cases second; congr, fun same => same ▸ rfl⟩

/-- The value under a key. -/
def find (map : OrderedMap Key Value) (key : Key) : Option Value :=
  (map.entries.find? fun entry => decide (entry.1 = key)).map Prod.snd

/-- The entries that satisfy a condition. -/
def filter (map : OrderedMap Key Value) (keep : Key × Value → Bool) : OrderedMap Key Value where
  entries := map.entries.filter keep
  sorted := map.sorted.filter keep

/-- The entries from a key on. -/
def lowerBound (map : OrderedMap Key Value) (key : Key) : List (Key × Value) :=
  map.entries.filter fun entry => decide (key ≤ entry.1)

/-- Put a value under a key, in place of the one that is there. -/
def insert (map : OrderedMap Key Value) (key : Key) (value : Value) : OrderedMap Key Value where
  entries := map.entries.filter (fun entry => decide (entry.1 < key)) ++
    (key, value) :: map.entries.filter (fun entry => decide (key < entry.1))
  sorted := by
    refine List.pairwise_append.mpr ⟨map.sorted.filter _, ?_, ?_⟩
    · refine (map.sorted.filter _).cons fun entry member => ?_
      simpa using (List.mem_filter.mp member).2
    · intro first before second after
      have below : first.1 < key := by simpa using (List.mem_filter.mp before).2
      rcases List.mem_cons.mp after with rfl | above
      · exact below
      · exact below.trans (by simpa using (List.mem_filter.mp above).2)

/-- Put a value under a key, unless there is one already. -/
def emplace (map : OrderedMap Key Value) (key : Key) (value : Value) : OrderedMap Key Value :=
  if (map.find key).isSome then map else map.insert key value

/-- Change the value under a key. -/
def modify (map : OrderedMap Key Value) (key : Key) (change : Value → Value) :
    OrderedMap Key Value where
  entries := map.entries.map fun entry =>
    (entry.1, if entry.1 = key then change entry.2 else entry.2)
  sorted := List.pairwise_map.mpr map.sorted

/-- Remove a key. -/
def erase (map : OrderedMap Key Value) (key : Key) : OrderedMap Key Value :=
  map.filter fun entry => decide (entry.1 ≠ key)

/-- Remove entries from the front, as long as they satisfy a condition. -/
def dropWhile (map : OrderedMap Key Value) (drop : Key × Value → Bool) : OrderedMap Key Value where
  entries := map.entries.dropWhile drop
  sorted := map.sorted.sublist (List.dropWhile_sublist drop)

/-- The largest key. -/
def maxKey (map : OrderedMap Key Value) : Option Key := map.entries.getLast?.map Prod.fst

/-- The total of a quantity over the entries. -/
def total (map : OrderedMap Key Value) (quantity : Key × Value → Nat) : Nat :=
  (map.entries.map quantity).sum

variable {map : OrderedMap Key Value} {key : Key} {value : Value}

/-- An entry is determined by its key. -/
theorem eq_of_key_eq {first second : Key × Value} (one : first ∈ map.entries)
    (two : second ∈ map.entries) (same : first.1 = second.1) : first = second := by
  have apart : map.entries.Pairwise fun first second => first.1 = second.1 → first = second :=
    map.sorted.imp fun before equal => absurd equal before.ne
  have apart' : map.entries.Pairwise (flip fun first second : Key × Value =>
      first.1 = second.1 → first = second) :=
    map.sorted.imp fun before equal => absurd equal before.ne'
  exact List.Pairwise.forall_of_forall_of_flip (fun _ _ _ => rfl) apart apart' one two same

theorem find_eq_some_iff : map.find key = some value ↔ (key, value) ∈ map.entries := by
  unfold find
  rw [Option.map_eq_some_iff]
  constructor
  · rintro ⟨⟨k, v⟩, found, rfl⟩
    have same : k = key := by simpa using List.find?_some found
    exact same ▸ List.mem_of_find?_eq_some found
  · intro member
    cases found : map.entries.find? fun entry => decide (entry.1 = key) with
    | none => simpa using List.find?_eq_none.mp found _ member
    | some entry =>
        have same : entry.1 = key := by simpa using List.find?_some found
        exact ⟨entry, rfl, by rw [eq_of_key_eq (List.mem_of_find?_eq_some found) member same]⟩

theorem find_eq_none_iff : map.find key = none ↔ ∀ entry ∈ map.entries, entry.1 ≠ key := by
  simp [find]

variable {entry : Key × Value}

theorem mem_insert :
    entry ∈ (map.insert key value).entries ↔
      entry = (key, value) ∨ entry ∈ map.entries ∧ entry.1 ≠ key := by
  simp only [insert, List.mem_append, List.mem_cons, List.mem_filter, decide_eq_true_eq]
  constructor
  · rintro (⟨member, below⟩ | rfl | ⟨member, above⟩)
    · exact .inr ⟨member, below.ne⟩
    · exact .inl rfl
    · exact .inr ⟨member, above.ne'⟩
  · rintro (rfl | ⟨member, other⟩)
    · exact .inr (.inl rfl)
    · rcases lt_or_gt_of_ne other with below | above
      · exact .inl ⟨member, below⟩
      · exact .inr (.inr ⟨member, above⟩)

theorem mem_emplace :
    entry ∈ (map.emplace key value).entries ↔
      entry ∈ map.entries ∨ entry = (key, value) ∧ map.find key = none := by
  unfold emplace
  cases found : map.find key with
  | none =>
      have absent := find_eq_none_iff.mp found
      rw [if_neg (by simp), mem_insert]
      constructor
      · rintro (rfl | ⟨member, _⟩)
        · exact .inr ⟨rfl, rfl⟩
        · exact .inl member
      · rintro (member | ⟨rfl, _⟩)
        · exact .inr ⟨member, absent _ member⟩
        · exact .inl rfl
  | some _ => simp

variable {change : Value → Value}

theorem mem_modify :
    entry ∈ (map.modify key change).entries ↔
      entry ∈ map.entries ∧ entry.1 ≠ key ∨
        entry.1 = key ∧ ∃ value, (key, value) ∈ map.entries ∧ entry.2 = change value := by
  simp only [modify, List.mem_map]
  constructor
  · rintro ⟨⟨k, v⟩, member, rfl⟩
    by_cases same : k = key
    · subst same
      exact .inr ⟨rfl, v, member, if_pos rfl⟩
    · dsimp only
      rw [if_neg same]
      exact .inl ⟨member, same⟩
  · rintro (⟨member, other⟩ | ⟨same, value, member, changed⟩)
    · exact ⟨entry, member, by rw [if_neg other]⟩
    · refine ⟨(key, value), member, ?_⟩
      rw [if_pos rfl, ← changed, ← same]

theorem keys_modify (change : Value → Value) :
    (map.modify key change).entries.map Prod.fst = map.entries.map Prod.fst := by
  rw [modify, List.map_map]
  rfl

theorem mem_erase : entry ∈ (map.erase key).entries ↔ entry ∈ map.entries ∧ entry.1 ≠ key := by
  simp [erase, filter]

theorem mem_filter {keep : Key × Value → Bool} {entry : Key × Value} :
    entry ∈ (map.filter keep).entries ↔ entry ∈ map.entries ∧ keep entry = true :=
  List.mem_filter

variable (other : Key)

theorem find_erase : (map.erase key).find other = if other = key then none else map.find other := by
  split
  · rename_i same
    rw [find_eq_none_iff]
    intro entry member
    rw [same]
    exact (mem_erase.mp member).2
  · rename_i apart
    refine Option.ext fun value => ?_
    rw [find_eq_some_iff, find_eq_some_iff, mem_erase]
    exact ⟨And.left, fun member => ⟨member, apart⟩⟩

theorem find_insert :
    (map.insert key value).find other = if other = key then some value else map.find other := by
  split
  · rename_i same
    rw [same, find_eq_some_iff, mem_insert]
    exact .inl rfl
  · rename_i apart
    refine Option.ext fun found => ?_
    rw [find_eq_some_iff, find_eq_some_iff, mem_insert]
    constructor
    · rintro (same | ⟨member, -⟩)
      · exact absurd (Prod.mk.inj same).1 apart
      · exact member
    · exact fun member => .inr ⟨member, apart⟩

theorem find_emplace :
    (map.emplace key value).find other =
      if other = key ∧ map.find key = none then some value else map.find other := by
  unfold emplace
  cases found : map.find key with
  | none =>
      rw [if_neg (by simp), find_insert]
      by_cases same : other = key
      · rw [if_pos same, if_pos ⟨same, rfl⟩]
      · rw [if_neg same, if_neg (fun both => same both.1)]
  | some old =>
      rw [if_pos (Option.isSome_some), if_neg (fun both => nomatch both.2)]

theorem find_modify :
    (map.modify key change).find other =
      if other = key then (map.find other).map change else map.find other := by
  refine Option.ext fun found => ?_
  rw [find_eq_some_iff, mem_modify]
  split_ifs with same
  · subst same
    rw [Option.map_eq_some_iff]
    constructor
    · rintro (⟨-, apart⟩ | ⟨-, before, member, rfl⟩)
      · exact absurd rfl apart
      · exact ⟨before, find_eq_some_iff.mpr member, rfl⟩
    · rintro ⟨before, member, rfl⟩
      exact .inr ⟨rfl, before, find_eq_some_iff.mp member, rfl⟩
  · rw [find_eq_some_iff]
    constructor
    · rintro (⟨member, -⟩ | ⟨here, -⟩)
      · exact member
      · exact absurd here same
    · exact fun member => .inl ⟨member, same⟩

theorem find_filter {keep : Key × Value → Bool} :
    (map.filter keep).find other = (map.find other).filter fun value => keep (other, value) := by
  refine Option.ext fun found => ?_
  rw [find_eq_some_iff, mem_filter, Option.filter_eq_some_iff, find_eq_some_iff]

theorem nodup_entries (map : OrderedMap Key Value) : map.entries.Nodup :=
  map.sorted.imp fun before same => absurd (congrArg Prod.fst same) before.ne

/-- The entry under a key, and the others. -/
theorem entries_perm_of_find (found : map.find key = some value) :
    map.entries.Perm ((key, value) :: (map.erase key).entries) := by
  have apart : (key, value) ∉ (map.erase key).entries := fun member => (mem_erase.mp member).2 rfl
  refine (List.perm_ext_iff_of_nodup map.nodup_entries
    (List.nodup_cons.mpr ⟨apart, nodup_entries _⟩)).mpr fun entry => ?_
  rw [List.mem_cons, mem_erase]
  constructor
  · intro member
    by_cases same : entry.1 = key
    · exact .inl (eq_of_key_eq member (find_eq_some_iff.mp found) same)
    · exact .inr ⟨member, same⟩
  · rintro (rfl | ⟨member, -⟩)
    · exact find_eq_some_iff.mp found
    · exact member

theorem entries_insert_perm :
    (map.insert key value).entries.Perm ((key, value) :: (map.erase key).entries) := by
  have apart : (key, value) ∉ (map.erase key).entries := fun member => (mem_erase.mp member).2 rfl
  refine (List.perm_ext_iff_of_nodup (nodup_entries _)
    (List.nodup_cons.mpr ⟨apart, nodup_entries _⟩)).mpr fun entry => ?_
  rw [List.mem_cons, mem_erase, mem_insert]

theorem erase_entries_of_absent (absent : map.find key = none) :
    (map.erase key).entries = map.entries := by
  refine List.filter_eq_self.mpr fun entry member => ?_
  simpa using find_eq_none_iff.mp absent entry member

theorem mem_lowerBound : entry ∈ map.lowerBound key ↔ entry ∈ map.entries ∧ key ≤ entry.1 := by
  simp [lowerBound]

/-- Nothing is larger than the largest key. -/
theorem le_maxKey (member : entry ∈ map.entries)
    (largest : map.maxKey = some key) : entry.1 ≤ key := by
  obtain ⟨last, isLast, rfl⟩ := Option.map_eq_some_iff.mp largest
  obtain ⟨front, split⟩ := List.getLast?_eq_some_iff.mp isLast
  have sorted := map.sorted
  rw [split] at member sorted
  rcases List.mem_append.mp member with earlier | same
  · exact ((List.pairwise_append.mp sorted).2.2 entry earlier last (List.mem_singleton_self _)).le
  · rw [List.mem_singleton.mp same]

/-- The largest key is one of the keys. -/
theorem exists_of_maxKey (largest : map.maxKey = some key) :
    ∃ value, (key, value) ∈ map.entries := by
  obtain ⟨last, isLast, rfl⟩ := Option.map_eq_some_iff.mp largest
  exact ⟨last.2, List.mem_of_getLast? isLast⟩

theorem maxKey_isSome (member : entry ∈ map.entries) : map.maxKey.isSome := by
  rw [maxKey, Option.isSome_map, Option.isSome_iff_ne_none, Ne, List.getLast?_eq_none_iff]
  exact List.ne_nil_of_mem member

/-- The largest key is the one that bounds the others. -/
theorem maxKey_eq_some_iff :
    map.maxKey = some key ↔
      (∃ value, (key, value) ∈ map.entries) ∧ ∀ entry ∈ map.entries, entry.1 ≤ key := by
  constructor
  · exact fun largest => ⟨exists_of_maxKey largest, fun _ member => le_maxKey member largest⟩
  · rintro ⟨⟨value, member⟩, bound⟩
    obtain ⟨other, largest⟩ := Option.isSome_iff_exists.mp (maxKey_isSome member)
    obtain ⟨otherValue, otherMember⟩ := exists_of_maxKey largest
    have same : other = key := le_antisymm (bound _ otherMember) (le_maxKey member largest)
    rw [largest, same]

/-- The first entry has the least key. -/
theorem head_le {first entry : Key × Value} (least : map.entries.head? = some first)
    (member : entry ∈ map.entries) : first.1 ≤ entry.1 := by
  obtain ⟨rest, split⟩ := List.head?_eq_some_iff.mp least
  have sorted := map.sorted
  rw [split] at member sorted
  rcases List.mem_cons.mp member with rfl | later
  · exact le_rfl
  · exact (List.rel_of_pairwise_cons sorted later).le

variable {drop : Key × Value → Bool}

/-- What is left after removing from the front was there before. -/
theorem mem_of_mem_dropWhile
    (member : entry ∈ (map.dropWhile drop).entries) : entry ∈ map.entries :=
  (List.dropWhile_sublist drop).subset member

/-- What was removed from the front satisfies the condition. -/
theorem of_not_mem_dropWhile
    (member : entry ∈ map.entries) (gone : entry ∉ (map.dropWhile drop).entries) :
    drop entry = true := by
  have whole := List.takeWhile_append_dropWhile (p := drop) (l := map.entries)
  rw [← whole, List.mem_append] at member
  rcases member with front | back
  · exact List.mem_takeWhile_imp front
  · exact absurd back gone

/-- Removal is from the front: what comes after a remaining entry remains. -/
theorem mem_dropWhile_of_lt {first second : Key × Value}
    (remains : first ∈ (map.dropWhile drop).entries) (member : second ∈ map.entries)
    (after : first.1 < second.1) : second ∈ (map.dropWhile drop).entries := by
  have whole := List.takeWhile_append_dropWhile (p := drop) (l := map.entries)
  have sorted := map.sorted
  rw [← whole] at member sorted
  rcases List.mem_append.mp member with front | back
  · exact absurd ((List.pairwise_append.mp sorted).2.2 second front first remains) after.not_gt
  · exact back

section Total

variable {quantity : Key × Value → Nat}

/-- Entries that count for nothing may be left out. -/
theorem total_filter {keep : Key × Value → Bool}
    (nothing : ∀ entry ∈ map.entries, keep entry = false → quantity entry = 0) :
    (map.filter keep).total quantity = map.total quantity := by
  unfold total filter
  dsimp only
  revert nothing
  induction map.entries with
  | nil => exact fun _ => rfl
  | cons entry rest ih =>
      intro nothing
      have first := nothing entry List.mem_cons_self
      have others := ih fun other member => nothing other (List.mem_cons_of_mem _ member)
      rw [List.filter_cons, List.map_cons, List.sum_cons]
      split
      · rw [List.map_cons, List.sum_cons, others]
      · next dropped => rw [others, first (by simpa using dropped), Nat.zero_add]

/-- A new entry adds what it counts for. -/
theorem total_insert (absent : map.find key = none) :
    (map.insert key value).total quantity = map.total quantity + quantity (key, value) := by
  have other := find_eq_none_iff.mp absent
  have parts : ∀ entries : List (Key × Value), (∀ entry ∈ entries, entry.1 ≠ key) →
      (entries.map quantity).sum =
        ((entries.filter fun entry => decide (entry.1 < key)).map quantity).sum +
          ((entries.filter fun entry => decide (key < entry.1)).map quantity).sum := by
    intro entries
    induction entries with
    | nil => exact fun _ => rfl
    | cons entry rest ih =>
        intro others
        have rest := ih fun other member => others other (List.mem_cons_of_mem _ member)
        rw [List.map_cons, List.sum_cons, rest, List.filter_cons, List.filter_cons]
        rcases lt_or_gt_of_ne (others entry List.mem_cons_self) with below | above
        · rw [if_pos (by simpa using below), if_neg (by simpa using below.le), List.map_cons,
            List.sum_cons, Nat.add_assoc]
        · rw [if_neg (by simpa using above.le), if_pos (by simpa using above), List.map_cons,
            List.sum_cons, Nat.add_left_comm]
  unfold total insert
  dsimp only
  rw [parts map.entries other, List.map_append, List.sum_append, List.map_cons, List.sum_cons]
  omega

theorem total_emplace (nothing : quantity (key, value) = 0) :
    (map.emplace key value).total quantity = map.total quantity := by
  unfold emplace
  split
  · rfl
  · next absent => rw [total_insert (by simpa using absent), nothing, Nat.add_zero]

/-- A changed entry counts for its new value in place of the old one. -/
theorem total_modify (quantity : Key × Value → Nat) (change : Value → Value)
    (found : map.find key = some value) :
    (map.modify key change).total quantity + quantity (key, value) =
      map.total quantity + quantity (key, change value) := by
  have changed : ∀ entries : List (Key × Value),
      entries.Pairwise (fun first second => first.1 < second.1) → (key, value) ∈ entries →
      ((entries.map fun entry =>
          (entry.1, if entry.1 = key then change entry.2 else entry.2)).map quantity).sum +
        quantity (key, value) = (entries.map quantity).sum + quantity (key, change value) := by
    intro entries
    induction entries with
    | nil => exact fun _ member => absurd member List.not_mem_nil
    | cons entry rest ih =>
        intro sorted member
        obtain ⟨before, sortedRest⟩ := List.pairwise_cons.mp sorted
        rcases List.mem_cons.mp member with rfl | later
        · -- the keys behind are larger, so that nothing else changes
          have same : (rest.map fun entry =>
              (entry.1, if entry.1 = key then change entry.2 else entry.2)) = rest := by
            refine (List.map_congr_left fun entry inRest => ?_).trans (List.map_id _)
            rw [if_neg (before entry inRest).ne']
            rfl
          simp only [List.map_cons, List.sum_cons, if_pos, same]
          omega
        · have behind := ih sortedRest later
          have apart : entry.1 ≠ key := (before _ later).ne
          rw [List.map_cons, List.map_cons, List.map_cons, List.sum_cons, List.sum_cons,
            if_neg apart, Prod.eta]
          omega
  exact changed map.entries map.sorted (find_eq_some_iff.mp found)

/-- What is removed from the front no longer counts. -/
theorem total_dropWhile (quantity : Key × Value → Nat) (drop : Key × Value → Bool) :
    (map.dropWhile drop).total quantity + ((map.entries.takeWhile drop).map quantity).sum =
      map.total quantity := by
  have whole := congrArg (fun entries => (entries.map quantity).sum)
    (List.takeWhile_append_dropWhile (p := drop) (l := map.entries))
  simp only [List.map_append, List.sum_append] at whole
  unfold total dropWhile
  dsimp only
  omega

end Total

end OrderedMap

end Math
