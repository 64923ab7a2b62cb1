import MpWebRtc.Math.OrderedMap

/-!
# Lists with iterators

A linked list hands out iterators that stay with their nodes, so that a map can lead from a key
straight to a node. Nodes are numbered here as they are made, and a number is not used again. An
operation on an iterator fails if its node is gone. `Indexes` says that a map leads to every node
and to no other; each operation on list and map keeps it.
-/

namespace Math

/-- A list whose nodes have numbers. Only the back grows, so that the numbers increase. -/
structure NodeList (Value : Type) where
  nodes : List (Nat × Value) := []
  fresh : Nat := 0
  increasing : nodes.Pairwise (fun first second => first.1 < second.1) := by exact .nil
  below : ∀ node ∈ nodes, node.1 < fresh := by exact nofun

namespace NodeList

variable {Value : Type} (list : NodeList Value)

/-- What is in the list. -/
def values : List Value := list.nodes.map Prod.snd

def size : Nat := list.nodes.length

/-- Make a node at the end. -/
def emplaceBack (value : Value) : NodeList Value where
  nodes := list.nodes ++ [(list.fresh, value)]
  fresh := list.fresh + 1
  increasing := by
    refine List.pairwise_append.mpr ⟨list.increasing, List.pairwise_singleton _ _, ?_⟩
    intro first before second last
    rw [List.mem_singleton.mp last]
    exact list.below first before
  below := by
    intro node member
    rcases List.mem_append.mp member with old | new
    · exact Nat.lt_succ_of_lt (list.below node old)
    · rw [List.mem_singleton.mp new]
      exact Nat.lt_succ_self _

/-- The iterator before the end. -/
def prevEnd : Option Nat := list.nodes.getLast?.map Prod.fst

/-- An iterator may be used while its node is in the list. -/
def Live (iterator : Nat) : Prop :=
  ∃ node ∈ list.nodes, node.1 = iterator

instance (list : NodeList Value) (iterator : Nat) : Decidable (list.Live iterator) :=
  inferInstanceAs (Decidable (∃ node ∈ list.nodes, node.1 = iterator))

/-- Change the value at an iterator. -/
def update (iterator : Nat) (change : Value → Value) : Option (NodeList Value) :=
  if list.Live iterator then
    some {
      nodes := list.nodes.map fun node =>
        (node.1, if node.1 = iterator then change node.2 else node.2)
      fresh := list.fresh
      increasing := List.pairwise_map.mpr list.increasing
      below := by
        intro node member
        obtain ⟨old, listed, rfl⟩ := List.mem_map.mp member
        exact list.below old listed }
  else none

/-- Remove the node at an iterator. -/
def erase (iterator : Nat) : Option (NodeList Value) :=
  if list.Live iterator then
    some {
      nodes := list.nodes.filter fun node => decide (node.1 ≠ iterator)
      fresh := list.fresh
      increasing := list.increasing.filter _
      below := fun node member => list.below node (List.mem_filter.mp member).1 }
  else none

def front : Option Value := list.nodes.head?.map Prod.snd

/-- Remove the first node. -/
def popFront : Option (NodeList Value) :=
  if list.nodes = [] then none
  else
    some {
      nodes := list.nodes.tail
      fresh := list.fresh
      increasing := list.increasing.tail
      below := fun node member => list.below node (List.mem_of_mem_tail member) }

theorem eq_of_mem {list : NodeList Value} {first second : Nat × Value}
    (one : first ∈ list.nodes) (two : second ∈ list.nodes) (same : first.1 = second.1) :
    first = second :=
  @OrderedMap.eq_of_key_eq Nat Value _ ⟨list.nodes, list.increasing⟩ first second one two same

theorem prevEnd_emplaceBack (value : Value) :
    (list.emplaceBack value).prevEnd = some list.fresh := by
  unfold prevEnd emplaceBack
  dsimp only
  rw [List.getLast?_concat]
  rfl

/-- A map leads from the key of each node to the node, and nowhere else. -/
def Indexes {Key : Type} [LinearOrder Key] (map : OrderedMap Key Nat) (key : Value → Key)
    (list : NodeList Value) : Prop :=
  ∀ k iterator, map.find k = some iterator ↔
    ∃ value, (iterator, value) ∈ list.nodes ∧ key value = k

namespace Indexes

variable {Key : Type} [LinearOrder Key] {map : OrderedMap Key Nat} {key : Value → Key}
variable {list : NodeList Value}

/-- No two nodes have one key. -/
theorem nodup (indexes : Indexes map key list) : (list.values.map key).Nodup := by
  unfold values
  rw [List.map_map]
  refine List.pairwise_map.mpr (List.Pairwise.imp_of_mem ?_ list.increasing)
  intro first second one two before same
  have found := (indexes (key first.2) first.1).mpr ⟨first.2, one, rfl⟩
  have again := (indexes (key first.2) second.1).mpr ⟨second.2, two, same.symm⟩
  rw [found] at again
  exact before.ne (Option.some.inj again)

/-- Nodes with one key are one. -/
theorem eq_of_key (indexes : Indexes map key list) {first second : Nat × Value}
    (one : first ∈ list.nodes) (two : second ∈ list.nodes) (same : key first.2 = key second.2) :
    first = second := by
  have found := (indexes (key first.2) first.1).mpr ⟨first.2, one, rfl⟩
  have again := (indexes (key first.2) second.1).mpr ⟨second.2, two, same.symm⟩
  rw [found] at again
  exact eq_of_mem one two (Option.some.inj again)

theorem absent_of_find (indexes : Indexes map key list) {k : Key} (absent : map.find k = none) :
    ∀ value ∈ list.values, key value ≠ k := by
  intro value member same
  obtain ⟨node, listed, rfl⟩ := List.mem_map.mp member
  have found := (indexes k node.1).mpr ⟨node.2, listed, same⟩
  rw [absent] at found
  cases found

theorem empty : Indexes {} key {} := by
  intro k iterator
  constructor
  · intro found
    cases found
  · rintro ⟨value, member, -⟩
    cases member

variable (indexes : Indexes map key list)
include indexes

/-- A node for a new key. -/
theorem emplaceBack {value : Value} (absent : map.find (key value) = none) :
    Indexes (map.insert (key value) list.fresh) key (list.emplaceBack value) := by
  intro k iterator
  have members (other : Value) : (iterator, other) ∈ (list.emplaceBack value).nodes ↔
      (iterator, other) ∈ list.nodes ∨ (iterator, other) = (list.fresh, value) := by
    unfold NodeList.emplaceBack
    rw [List.mem_append, List.mem_singleton]
  rw [OrderedMap.find_insert]
  by_cases same : k = key value
  · rw [if_pos same]
    constructor
    · intro found
      obtain rfl := Option.some.inj found
      exact ⟨value, (members value).mpr (.inr rfl), same.symm⟩
    · rintro ⟨other, member, keyed⟩
      rcases (members other).mp member with old | new
      · have known : other ∈ list.values := List.mem_map.mpr ⟨(iterator, other), old, rfl⟩
        exact absurd (keyed.trans same) (indexes.absent_of_find absent other known)
      · rw [(Prod.mk.inj new).1]
  · rw [if_neg same, indexes k iterator]
    constructor
    · rintro ⟨other, old, keyed⟩
      exact ⟨other, (members other).mpr (.inl old), keyed⟩
    · rintro ⟨other, member, keyed⟩
      rcases (members other).mp member with old | new
      · exact ⟨other, old, keyed⟩
      · rw [(Prod.mk.inj new).2] at keyed
        exact absurd keyed.symm same

theorem live {k : Key} {iterator : Nat}
    (found : map.find k = some iterator) : list.Live iterator := by
  obtain ⟨value, member, -⟩ := (indexes k iterator).mp found
  exact ⟨(iterator, value), member, rfl⟩

/-- A change that leaves the key. -/
theorem update {k : Key} {iterator : Nat}
    (found : map.find k = some iterator) {change : Value → Value}
    (keyed : ∀ value, key (change value) = key value) :
    ∃ list', list.update iterator change = some list' ∧ Indexes map key list' ∧
      list'.values = list.values.map fun value => if key value = k then change value else value := by
  refine ⟨_, if_pos (indexes.live found), ?_, ?_⟩
  · intro other position
    rw [indexes other position]
    constructor
    · rintro ⟨value, member, same⟩
      by_cases here : position = iterator
      · refine ⟨change value, List.mem_map.mpr ⟨(position, value), member, ?_⟩, ?_⟩
        · dsimp only
          rw [if_pos here]
        · rw [keyed, same]
      · refine ⟨value, List.mem_map.mpr ⟨(position, value), member, ?_⟩, same⟩
        dsimp only
        rw [if_neg here]
    · rintro ⟨value, member, same⟩
      obtain ⟨node, listed, equal⟩ := List.mem_map.mp member
      obtain ⟨rfl, changed⟩ := Prod.mk.inj equal
      refine ⟨node.2, listed, ?_⟩
      rw [← same, ← changed]
      by_cases here : node.1 = iterator
      · rw [if_pos here, keyed]
      · rw [if_neg here]
  · unfold values
    dsimp only
    rw [List.map_map, List.map_map]
    refine List.map_congr_left fun node member => ?_
    have known := (indexes (key node.2) node.1).mpr ⟨node.2, member, rfl⟩
    change (if node.1 = iterator then change node.2 else node.2) = _
    by_cases here : node.1 = iterator
    · obtain ⟨value, listed, same⟩ := (indexes k iterator).mp found
      have one := eq_of_mem member listed here
      have keyedAs : key node.2 = k := by rw [one]; exact same
      rw [if_pos here, Function.comp_apply, if_pos keyedAs]
    · have apart : key node.2 ≠ k := by
        intro same
        rw [same, found] at known
        exact here (Option.some.inj known).symm
      rw [if_neg here, Function.comp_apply, if_neg apart]

/-- A node is removed with its key. -/
theorem erase {k : Key} {iterator : Nat} (found : map.find k = some iterator) :
    ∃ list', list.erase iterator = some list' ∧ Indexes (map.erase k) key list' ∧
      list'.nodes = list.nodes.filter fun node => decide (node.1 ≠ iterator) := by
  refine ⟨_, if_pos (indexes.live found), ?_, rfl⟩
  intro other position
  obtain ⟨value, listed, keyed⟩ := (indexes k iterator).mp found
  rw [OrderedMap.find_erase]
  by_cases same : other = k
  · rw [if_pos same]
    refine ⟨nofun, ?_⟩
    rintro ⟨another, member, keyedToo⟩
    obtain ⟨old, apart⟩ := List.mem_filter.mp member
    have one := indexes.eq_of_key old listed (by rw [keyedToo, keyed, same])
    exact absurd (Prod.mk.inj one).1 (of_decide_eq_true apart)
  · rw [if_neg same, indexes other position]
    constructor
    · rintro ⟨another, member, keyedToo⟩
      refine ⟨another, List.mem_filter.mpr ⟨member, decide_eq_true fun here => same ?_⟩, keyedToo⟩
      have one := eq_of_mem member listed here
      rw [← keyedToo, ← keyed, (Prod.mk.inj one).2]
    · rintro ⟨another, member, keyedToo⟩
      exact ⟨another, (List.mem_filter.mp member).1, keyedToo⟩

/-- The first node is removed with its key. -/
theorem popFront {first : Nat × Value}
    {rest : List (Nat × Value)} (shape : list.nodes = first :: rest) :
    ∃ list', list.popFront = some list' ∧ list'.nodes = rest ∧
      Indexes (map.erase (key first.2)) key list' := by
  have listed : first ∈ list.nodes := by
    rw [shape]
    exact List.mem_cons_self
  have found := (indexes (key first.2) first.1).mpr ⟨first.2, listed, rfl⟩
  obtain ⟨erased, -, others, remaining⟩ := indexes.erase found
  have behind : erased.nodes = rest := by
    have sorted := list.increasing
    rw [shape] at sorted
    rw [remaining, shape, List.filter_cons_of_neg (by simp), List.filter_eq_self]
    intro node member
    have before := List.rel_of_pairwise_cons sorted member
    exact decide_eq_true before.ne'
  have tail : list.nodes.tail = rest := by rw [shape, List.tail_cons]
  refine ⟨_, if_neg (by rw [shape]; exact List.cons_ne_nil _ _), tail, ?_⟩
  intro other position
  rw [others other position, behind]
  dsimp only
  rw [tail]

end Indexes

end NodeList

end Math
