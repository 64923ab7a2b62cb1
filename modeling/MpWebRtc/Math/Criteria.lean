import Mathlib.Data.List.Lex
import Mathlib.Data.List.Sort
import Mathlib.Data.Set.Basic

/-!
# Ranking by criteria

A ranking compares by one criterion after the other until one decides. It is a strict weak order
when every criterion is one among those that the criteria before it leave tied. A sort, or a scan
for the best element, finds a best element for a strict weak order, and need not otherwise.
-/

namespace Math.Criteria

variable {α : Type*}

/-- A strict weak order of the elements of a set. -/
structure StrictWeakOn (before : α → α → Prop) (s : Set α) : Prop where
  asymm : ∀ a ∈ s, ∀ b ∈ s, before a b → ¬ before b a
  trans : ∀ a ∈ s, ∀ b ∈ s, ∀ c ∈ s, before a b → before b c → before a c
  tied_trans : ∀ a ∈ s, ∀ b ∈ s, ∀ c ∈ s, ¬ before a b ∧ ¬ before b a →
    ¬ before b c ∧ ¬ before c b → ¬ before a c ∧ ¬ before c a

/-- Neither of the two comes before the other. -/
def Tied (before : α → α → Prop) (a b : α) : Prop := ¬ before a b ∧ ¬ before b a

theorem Tied.symm {before : α → α → Prop} {a b : α} (tied : Tied before a b) : Tied before b a :=
  And.symm tied

/-- A comparison that leaves it to another one to decide between those it leaves tied. -/
def cascade (first second : α → α → Prop) (a b : α) : Prop :=
  first a b ∨ Tied first a b ∧ second a b

namespace StrictWeakOn

variable {before first second : α → α → Prop} {s t : Set α} {a b c : α}

theorem irrefl (order : StrictWeakOn before s) (member : a ∈ s) : ¬ before a a :=
  fun less => order.asymm a member a member less less

theorem mono (order : StrictWeakOn before t) (subset : s ⊆ t) : StrictWeakOn before s where
  asymm a inA b inB := order.asymm a (subset inA) b (subset inB)
  trans a inA b inB c inC := order.trans a (subset inA) b (subset inB) c (subset inC)
  tied_trans a inA b inB c inC := order.tied_trans a (subset inA) b (subset inB) c (subset inC)

theorem congr (same : ∀ a ∈ s, ∀ b ∈ s, first a b ↔ second a b) :
    StrictWeakOn first s ↔ StrictWeakOn second s := by
  have transfer : ∀ {left right : α → α → Prop}, (∀ a ∈ s, ∀ b ∈ s, left a b ↔ right a b) →
      StrictWeakOn left s → StrictWeakOn right s := by
    intro left right same order
    refine ⟨fun a inA b inB => ?_, fun a inA b inB c inC => ?_, fun a inA b inB c inC => ?_⟩
    · rw [← same a inA b inB, ← same b inB a inA]
      exact order.asymm a inA b inB
    · rw [← same a inA b inB, ← same b inB c inC, ← same a inA c inC]
      exact order.trans a inA b inB c inC
    · rw [← same a inA b inB, ← same b inB c inC, ← same a inA c inC, ← same b inB a inA,
        ← same c inC b inB, ← same c inC a inA]
      exact order.tied_trans a inA b inB c inC
  exact ⟨transfer same, transfer fun a inA b inB => (same a inA b inB).symm⟩

/-- Larger keys first. -/
theorem of_key {β : Type*} [LinearOrder β] (key : α → β)
    (larger : ∀ a ∈ s, ∀ b ∈ s, before a b ↔ key b < key a) : StrictWeakOn before s := by
  refine (congr larger).mpr ⟨fun a _ b _ less => not_lt_of_gt less,
    fun a _ b _ c _ left right => right.trans left, fun a _ b _ c _ left right => ?_⟩
  have same : key a = key c :=
    (le_antisymm (not_lt.mp left.1) (not_lt.mp left.2)).trans
      (le_antisymm (not_lt.mp right.1) (not_lt.mp right.2))
  rw [same]
  exact ⟨lt_irrefl _, lt_irrefl _⟩

/-- Where nothing is ranked, everything is tied. -/
theorem of_all_tied (tied : ∀ a ∈ s, ∀ b ∈ s, ¬ before a b) : StrictWeakOn before s where
  asymm a inA b inB less := absurd less (tied a inA b inB)
  trans a inA b inB _ _ less := absurd less (tied a inA b inB)
  tied_trans a inA _ _ c inC _ _ := ⟨tied a inA c inC, tied c inC a inA⟩

theorem before_of_tied_left (order : StrictWeakOn before s) (inA : a ∈ s) (inB : b ∈ s)
    (inC : c ∈ s) (tied : Tied before a b) (less : before b c) : before a c := by
  by_contra not
  by_cases back : before c a
  · exact tied.2 (order.trans b inB c inC a inA less back)
  · exact (order.tied_trans b inB a inA c inC tied.symm ⟨not, back⟩).1 less

theorem before_of_tied_right (order : StrictWeakOn before s) (inA : a ∈ s) (inB : b ∈ s)
    (inC : c ∈ s) (less : before a b) (tied : Tied before b c) : before a c := by
  by_contra not
  by_cases back : before c a
  · exact tied.2 (order.trans c inC a inA b inB back less)
  · exact (order.tied_trans a inA c inC b inB ⟨not, back⟩ tied.symm).1 less

theorem not_before_trans (order : StrictWeakOn before s) (inA : a ∈ s) (inB : b ∈ s)
    (inC : c ∈ s) (left : ¬ before b a) (right : ¬ before c b) : ¬ before c a := by
  intro less
  by_cases forth : before a b
  · exact right (order.trans c inC a inA b inB less forth)
  · exact right (order.before_of_tied_right inC inA inB less ⟨forth, left⟩)

/-- The ties of a cascade are those of both comparisons. -/
theorem tied_cascade_iff : Tied (cascade first second) a b ↔
    Tied first a b ∧ Tied second a b := by
  constructor
  · rintro ⟨left, right⟩
    have tied : Tied first a b := ⟨fun less => left (.inl less), fun less => right (.inl less)⟩
    exact ⟨tied, fun less => left (.inr ⟨tied, less⟩), fun less => right (.inr ⟨tied.symm, less⟩)⟩
  · rintro ⟨tied, left, right⟩
    exact ⟨fun less => less.elim tied.1 fun less => left less.2,
      fun less => less.elim tied.2 fun less => right less.2⟩

/-- A cascade of two comparisons ranks exactly when the second one ranks whatever the first one
leaves tied. -/
theorem cascade_iff (order : StrictWeakOn first s) :
    StrictWeakOn (cascade first second) s ↔
      ∀ a ∈ s, StrictWeakOn second {b ∈ s | Tied first a b} := by
  constructor
  · intro whole a inA
    have tied : ∀ b ∈ {b ∈ s | Tied first a b}, ∀ c ∈ {b ∈ s | Tied first a b},
        Tied first b c := fun b inB c inC =>
      order.tied_trans b inB.1 a inA c inC.1 inB.2.symm inC.2
    refine (congr fun b inB c inC => ?_).mp (whole.mono fun b inB => inB.1)
    exact ⟨fun less => (less.resolve_left (tied b inB c inC).1).2,
      fun less => .inr ⟨tied b inB c inC, less⟩⟩
  · intro classes
    refine ⟨fun a inA b inB less back => ?_, fun a inA b inB c inC left right => ?_,
      fun a inA b inB c inC left right => ?_⟩
    · rcases less with less | ⟨tied, less⟩
      · exact back.elim (order.asymm a inA b inB less) fun back => back.1.2 less
      · have back := (back.resolve_left tied.2).2
        exact (classes a inA).asymm a ⟨inA, order.irrefl inA, order.irrefl inA⟩ b ⟨inB, tied⟩
          less back
    · rcases left with left | ⟨leftTied, left⟩
      · rcases right with right | ⟨rightTied, -⟩
        · exact .inl (order.trans a inA b inB c inC left right)
        · exact .inl (order.before_of_tied_right inA inB inC left rightTied)
      · rcases right with right | ⟨rightTied, right⟩
        · exact .inl (order.before_of_tied_left inA inB inC leftTied right)
        · have tied := order.tied_trans a inA b inB c inC leftTied rightTied
          exact .inr ⟨tied, (classes a inA).trans a ⟨inA, order.irrefl inA, order.irrefl inA⟩
            b ⟨inB, leftTied⟩ c ⟨inC, tied⟩ left right⟩
    · obtain ⟨leftFirst, leftSecond⟩ := tied_cascade_iff.mp left
      obtain ⟨rightFirst, rightSecond⟩ := tied_cascade_iff.mp right
      have tied := order.tied_trans a inA b inB c inC leftFirst rightFirst
      exact tied_cascade_iff.mpr ⟨tied, (classes a inA).tied_trans
        a ⟨inA, order.irrefl inA, order.irrefl inA⟩ b ⟨inB, leftFirst⟩ c ⟨inC, tied⟩
        leftSecond rightSecond⟩

end StrictWeakOn

/-- The criteria one after the other, until one decides: positive if the first is larger. -/
def compareBy : List (α → Int) → α → α → Int
  | [], _, _ => 0
  | criterion :: criteria, a, b =>
      if criterion a > criterion b then 1
      else if criterion a < criterion b then -1
      else compareBy criteria a b

section CompareBy

variable {criteria : List (α → Int)} {a b : α}

theorem compareBy_pos_iff :
    0 < compareBy criteria a b ↔ criteria.map (· b) < criteria.map (· a) := by
  induction criteria with
  | nil => simp [compareBy]
  | cons criterion criteria rest =>
      rw [compareBy, List.map_cons, List.map_cons, List.cons_lt_cons_iff]
      split_ifs with larger smaller
      · exact iff_of_true Int.one_pos (.inl larger)
      · refine iff_of_false (by decide) fun less => ?_
        rcases less with less | ⟨same, -⟩ <;> omega
      · rw [rest]
        exact ⟨fun less => .inr ⟨by omega, less⟩, fun less => (less.resolve_left (by omega)).2⟩

theorem compareBy_eq_zero_iff :
    compareBy criteria a b = 0 ↔ criteria.map (· a) = criteria.map (· b) := by
  induction criteria with
  | nil => simp [compareBy]
  | cons criterion criteria rest =>
      rw [compareBy, List.map_cons, List.map_cons, List.cons.injEq]
      split_ifs with larger smaller
      · exact iff_of_false (by decide) fun same => by omega
      · exact iff_of_false (by decide) fun same => by omega
      · rw [rest]
        exact ⟨fun same => ⟨by omega, same⟩, And.right⟩

theorem compareBy_append (criteria others : List (α → Int)) (a b : α) :
    compareBy (criteria ++ others) a b =
      if compareBy criteria a b ≠ 0 then compareBy criteria a b else compareBy others a b := by
  induction criteria with
  | nil => simp [compareBy]
  | cons criterion criteria rest =>
      simp only [List.cons_append, compareBy]
      split_ifs <;> simp_all

/-- Two are tied when no criterion tells them apart. -/
theorem tied_compareBy_iff :
    Tied (fun a b => 0 < compareBy criteria a b) a b ↔ compareBy criteria a b = 0 := by
  rw [compareBy_eq_zero_iff, Tied, compareBy_pos_iff, compareBy_pos_iff, not_lt, not_lt]
  exact ⟨fun both => le_antisymm both.1 both.2, fun same => ⟨same.le, same.ge⟩⟩

/-- Criteria rank. -/
theorem strictWeakOn_compareBy (criteria : List (α → Int)) (s : Set α) :
    StrictWeakOn (fun a b => 0 < compareBy criteria a b) s :=
  .of_key (fun a => criteria.map (· a)) fun _ _ _ _ => compareBy_pos_iff

end CompareBy

section Sorting

variable {before le : α → α → Prop} [DecidableRel le] {s : Set α} {list : List α}

theorem pairwise_orderedInsert (order : StrictWeakOn before s)
    (iffNot : ∀ a b, le a b ↔ ¬ before b a) {a : α} (member : a ∈ s)
    (within : ∀ b ∈ list, b ∈ s) (sorted : list.Pairwise fun a b => ¬ before b a) :
    (list.orderedInsert le a).Pairwise fun a b => ¬ before b a := by
  induction list with
  | nil => simp
  | cons b list rest =>
      obtain ⟨first, sorted⟩ := List.pairwise_cons.mp sorted
      have inB : b ∈ s := within b List.mem_cons_self
      have within : ∀ b ∈ list, b ∈ s := fun c member => within c (List.mem_cons_of_mem b member)
      rw [List.orderedInsert_cons]
      split
      · rename_i ahead
        have ahead := (iffNot a b).mp ahead
        refine List.pairwise_cons.mpr ⟨fun c inList => ?_, List.pairwise_cons.mpr ⟨first, sorted⟩⟩
        rcases List.mem_cons.mp inList with rfl | inList
        · exact ahead
        · intro less
          by_cases back : before b c
          · exact ahead (order.trans b inB c (within c inList) a member back less)
          · exact ahead (order.before_of_tied_left inB (within c inList) member
              ⟨back, first c inList⟩ less)
      · rename_i behind
        have behind := not_not.mp (mt (iffNot a b).mpr behind)
        refine List.pairwise_cons.mpr ⟨fun c inserted => ?_, rest within sorted⟩
        rcases List.mem_cons.mp ((List.perm_orderedInsert _ a list).subset inserted)
          with rfl | inList
        · exact order.asymm b inB c member behind
        · exact first c inList

/-- A sort by a strict weak order leaves nothing before anything that comes earlier. -/
theorem pairwise_insertionSort (order : StrictWeakOn before s)
    (iffNot : ∀ a b, le a b ↔ ¬ before b a) (within : ∀ a ∈ list, a ∈ s) :
    (list.insertionSort le).Pairwise fun a b => ¬ before b a := by
  induction list with
  | nil => exact .nil
  | cons a list rest =>
      have others : ∀ b ∈ list, b ∈ s := fun b member => within b (List.mem_cons_of_mem a member)
      rw [List.insertionSort_cons]
      exact pairwise_orderedInsert order iffNot (within a List.mem_cons_self)
        (fun b member => others b ((List.perm_insertionSort _ list).subset member)) (rest others)

/-- Sorting compares the first element with the first one of the sorted rest. -/
theorem head?_insertionSort_cons (a : α) (rest : List α) :
    ((a :: rest).insertionSort le).head? =
      match (rest.insertionSort le).head? with
      | none => some a
      | some best => if le a best then some a else some best := by
  rw [List.insertionSort_cons]
  cases rest.insertionSort le with
  | nil => rfl
  | cons best others =>
      rw [List.orderedInsert_cons]
      dsimp only [List.head?_cons]
      split <;> rfl

/-- A stable sort puts first what comes before all elements earlier in the list, and after none
that is later. -/
theorem head?_insertionSort_iff (order : StrictWeakOn before s)
    (iffNot : ∀ a b, le a b ↔ ¬ before b a) (within : ∀ a ∈ list, a ∈ s) {top : α} :
    (list.insertionSort le).head? = some top ↔ ∃ earlier later, list = earlier ++ top :: later ∧
      (∀ a ∈ earlier, before top a) ∧ ∀ a ∈ later, ¬ before a top := by
  constructor
  · induction list generalizing top with
    | nil => simp
    | cons first rest ih =>
        rw [head?_insertionSort_cons]
        rw [List.forall_mem_cons] at within
        split
        · rename_i empty
          have length := List.length_insertionSort le rest
          rw [List.head?_eq_none_iff.mp empty] at length
          obtain rfl := List.length_eq_zero_iff.mp length.symm
          rintro ⟨⟩
          exact ⟨[], [], rfl, by simp, by simp⟩
        · rename_i best isBest
          obtain ⟨earlier, later, whole, better, least⟩ := ih within.2 isBest
          have inBest : best ∈ s := within.2 best (by simp [whole])
          split
          · rename_i ahead
            rintro ⟨⟩
            refine ⟨[], rest, rfl, by simp, fun a member => ?_⟩
            refine order.not_before_trans within.1 inBest (within.2 a member)
              ((iffNot _ _).mp ahead) ?_
            rw [whole] at member
            rcases List.mem_append.mp member with inEarlier | inLater
            · exact order.asymm best inBest a (within.2 a (by simp [whole, inEarlier]))
                (better a inEarlier)
            · rcases List.mem_cons.mp inLater with rfl | inLater
              · exact order.irrefl inBest
              · exact least a inLater
          · rename_i behind
            rintro ⟨⟩
            refine ⟨first :: earlier, later, by rw [whole]; rfl, ?_, least⟩
            exact List.forall_mem_cons.mpr ⟨by simpa [iffNot] using behind, better⟩
  · rintro ⟨earlier, later, rfl, better, least⟩
    clear within
    induction earlier with
    | nil =>
        rw [List.nil_append, head?_insertionSort_cons]
        split
        · rfl
        · rename_i best isHead
          have member := (List.mem_insertionSort le).mp (List.mem_of_mem_head? isHead)
          rw [if_pos ((iffNot _ _).mpr (least best member))]
    | cons a earlier ih =>
        rw [List.forall_mem_cons] at better
        rw [List.cons_append, head?_insertionSort_cons, ih better.2]
        exact if_neg fun ahead => (iffNot _ _).mp ahead better.1

/-- Nothing comes before the first element of the sorted list. -/
theorem not_before_head (order : StrictWeakOn before s)
    (iffNot : ∀ a b, le a b ↔ ¬ before b a) (within : ∀ a ∈ list, a ∈ s) {top : α}
    (isTop : (list.insertionSort le).head? = some top) : ∀ a ∈ list, ¬ before a top := by
  intro a member
  have sorted := pairwise_insertionSort order iffNot within
  have moved : a ∈ list.insertionSort le := (List.perm_insertionSort _ list).symm.subset member
  obtain ⟨others, eq⟩ := List.head?_eq_some_iff.mp isTop
  rw [eq] at sorted moved
  rcases List.mem_cons.mp moved with rfl | inOthers
  · exact order.irrefl (within a member)
  · exact (List.pairwise_cons.mp sorted).1 a inOthers

end Sorting

section Scan

variable {less : α → α → Bool} {s : Set α}

/-- `std::max_element`: a later element takes over when the best so far is less. -/
def maxElement (less : α → α → Bool) : List α → Option α
  | [] => none
  | first :: rest =>
      some (rest.foldl (fun largest next => if less largest next then next else largest) first)

theorem foldl_max (order : StrictWeakOn (fun a b => less a b = true) s) (list : List α)
    {first : α} (member : first ∈ s) (within : ∀ a ∈ list, a ∈ s) :
    let best := list.foldl (fun largest next => if less largest next then next else largest) first
    best ∈ first :: list ∧ ∀ a ∈ first :: list, ¬ less best a := by
  induction list generalizing first with
  | nil => simpa using order.irrefl member
  | cons next list rest =>
      have inNext : next ∈ s := within next List.mem_cons_self
      have others : ∀ a ∈ list, a ∈ s := fun a inList => within a (List.mem_cons_of_mem next inList)
      dsimp only
      rw [List.foldl_cons]
      split
      · rename_i larger
        obtain ⟨inRest, best⟩ := rest inNext others
        refine ⟨List.mem_cons_of_mem _ inRest, List.forall_mem_cons.mpr ⟨fun back => ?_, best⟩⟩
        have inBest := List.forall_mem_cons.mpr ⟨inNext, others⟩ _ inRest
        exact best next List.mem_cons_self
          (order.trans _ inBest first member next inNext back larger)
      · rename_i notLess
        obtain ⟨inRest, best⟩ := rest member others
        refine ⟨?_, List.forall_mem_cons.mpr ⟨best first List.mem_cons_self,
          List.forall_mem_cons.mpr ⟨fun above => ?_,
            fun a inList => best a (List.mem_cons_of_mem _ inList)⟩⟩⟩
        · rcases List.mem_cons.mp inRest with same | inList
          · rw [same]
            exact List.mem_cons_self
          · exact List.mem_cons_of_mem _ (List.mem_cons_of_mem _ inList)
        · have inBest := List.forall_mem_cons.mpr ⟨member, others⟩ _ inRest
          refine best first List.mem_cons_self ?_
          by_cases back : less next first
          · exact order.trans _ inBest next inNext first member above back
          · exact order.before_of_tied_right inBest inNext member above ⟨back, notLess⟩

/-- The scan ends at an element that is not less than any other. -/
theorem maxElement_best (order : StrictWeakOn (fun a b => less a b = true) s) {list : List α}
    (within : ∀ a ∈ list, a ∈ s) {best : α} (found : maxElement less list = some best) :
    best ∈ list ∧ ∀ a ∈ list, ¬ less best a := by
  cases list with
  | nil => cases found
  | cons first list =>
      obtain ⟨inFirst, inList⟩ := List.forall_mem_cons.mp within
      cases found
      exact foldl_max order list inFirst inList

end Scan

end Math.Criteria
