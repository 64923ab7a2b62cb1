import Mathlib.Data.Int.DivMod
import MpWebRtc.Math.Criteria

/-!
# Ranking by a signed difference of counters

Counters modulo `2 * half` are compared by the sign of their difference, read as a signed number.
This ranks counters that lie within half a circle. Two counters half a circle apart are behind each
other, and three can go around, so beyond half a circle only ties are ranked consistently.
-/

namespace Math.SignedDifference

open Math.Criteria

/-- How far `x` is ahead of `y`, going forward. -/
def gap (m x y : Int) : Int := (x - y) % m

section Gap

variable {m x y z : Int}

theorem gap_nonneg (positive : 0 < m) : 0 ≤ gap m x y :=
  Int.emod_nonneg _ positive.ne'

theorem gap_lt (positive : 0 < m) : gap m x y < m :=
  Int.emod_lt_of_pos _ positive

theorem gap_self : gap m x x = 0 := by simp [gap]

/-- Two steps forward, or the rest of the circle. -/
theorem gap_add (positive : 0 < m) :
    gap m x z = gap m x y + gap m y z ∨
      gap m x z + m = gap m x y + gap m y z := by
  have first := gap_nonneg (x := x) (y := y) positive
  have second := gap_nonneg (x := y) (y := z) positive
  have firstLt := gap_lt (x := x) (y := y) positive
  have secondLt := gap_lt (x := y) (y := z) positive
  have sum : gap m x z = (gap m x y + gap m y z) % m := by
    unfold gap
    rw [← Int.add_emod]
    congr 1
    omega
  rw [sum]
  by_cases short : gap m x y + gap m y z < m
  · left
    exact Int.emod_eq_of_lt (by omega) short
  · right
    rw [← Int.sub_emod_right, Int.emod_eq_of_lt (by omega) (by omega)]
    omega

/-- There and back is nothing or the whole circle. -/
theorem gap_swap (positive : 0 < m) :
    gap m x y = 0 ∧ gap m y x = 0 ∨
      0 < gap m x y ∧ gap m x y + gap m y x = m := by
  have there := gap_nonneg (x := x) (y := y) positive
  have back := gap_nonneg (x := y) (y := x) positive
  have thereLt := gap_lt (x := x) (y := y) positive
  have backLt := gap_lt (x := y) (y := x) positive
  have sum := gap_add (x := x) (y := y) (z := x) positive
  rw [gap_self] at sum
  omega

end Gap

variable {α : Type*} {half : Nat} {value : α → Int} {later : α → α → Prop} {list : List α}

/-- The sign of the difference, and on equal counters another comparison. -/
def byDifference (half : Nat) (value : α → Int) (later : α → α → Prop) (a b : α) : Prop :=
  0 < Int.bmod (value a - value b) (2 * half) ∨
    Int.bmod (value a - value b) (2 * half) = 0 ∧ later a b

/-- All counters lie less than half a circle ahead of one of them. -/
def WithinHalf (half : Nat) (value : α → Int) (s : Set α) : Prop :=
  ∃ lowest ∈ s, ∀ a ∈ s, gap (2 * half) (value a) (value lowest) < half

/-- Any two counters are half a circle apart, or equal and tied. -/
def Opposite (half : Nat) (value : α → Int) (later : α → α → Prop) (s : Set α) : Prop :=
  ∀ a ∈ s, ∀ b ∈ s, gap (2 * half) (value a) (value b) = half ∨
    gap (2 * half) (value a) (value b) = 0 ∧ ¬ later a b

section Ranking

variable {s : Set α} {a b : α} (positive : 0 < half)

include positive

theorem byDifference_iff : byDifference half value later a b ↔
    0 < gap (2 * half) (value a) (value b) ∧ gap (2 * half) (value a) (value b) < half ∨
      gap (2 * half) (value a) (value b) = 0 ∧ later a b := by
  have bmod : Int.bmod (value a - value b) (2 * half) =
      if gap (2 * half) (value a) (value b) < half then gap (2 * half) (value a) (value b)
      else gap (2 * half) (value a) (value b) - 2 * half := by
    unfold gap Int.bmod
    push_cast
    rw [show (2 * (half : Int) + 1) / 2 = half by omega]
  have below := gap_lt (m := 2 * half) (x := value a) (y := value b) (by omega)
  unfold byDifference
  rw [bmod]
  split
  · next within => exact ⟨fun less => less.imp (fun ahead => ⟨ahead, within⟩) id,
      fun less => less.imp And.left id⟩
  · rename_i far
    refine iff_of_false (fun less => ?_) (fun less => ?_)
    · rcases less with less | ⟨less, -⟩ <;> omega
    · rcases less with ⟨-, less⟩ | ⟨same, -⟩ <;> omega

/-- Within half a circle the counters rank by how far they are ahead of the lowest one. -/
theorem strictWeakOn_of_withinHalf (within : WithinHalf half value s)
    (order : StrictWeakOn later s) : StrictWeakOn (byDifference half value later) s := by
  obtain ⟨lowest, -, near⟩ := within
  let ahead (a : α) : Int := gap (2 * half) (value a) (value lowest)
  have byAhead : StrictWeakOn (fun a b => ahead b < ahead a) s :=
    .of_key ahead fun _ _ _ _ => Iff.rfl
  have cascaded : StrictWeakOn (cascade (fun a b => ahead b < ahead a) later) s :=
    byAhead.cascade_iff.mpr fun a _ => order.mono fun b member => member.1
  refine (StrictWeakOn.congr fun a inA b inB => ?_).mpr cascaded
  have nearA := near a inA
  have nearB := near b inB
  have aheadA := gap_nonneg (m := 2 * half) (x := value a) (y := value lowest) (by omega)
  have aheadB := gap_nonneg (m := 2 * half) (x := value b) (y := value lowest) (by omega)
  have between := gap_nonneg (m := 2 * half) (x := value a) (y := value b) (by omega)
  have below := gap_lt (m := 2 * half) (x := value a) (y := value b) (by omega)
  have sum := gap_add (m := 2 * half) (x := value a) (y := value b) (z := value lowest) (by omega)
  rw [byDifference_iff positive]
  unfold cascade Tied
  constructor
  · rintro (⟨more, less⟩ | ⟨same, less⟩)
    · exact .inl (show gap _ _ _ < gap _ _ _ by omega)
    · exact .inr ⟨⟨show ¬ gap _ _ _ < gap _ _ _ by omega, show ¬ gap _ _ _ < gap _ _ _ by omega⟩,
        less⟩
  · rintro (less | ⟨⟨notMore, notLess⟩, less⟩)
    · have less : gap (2 * half) (value b) (value lowest) <
          gap (2 * half) (value a) (value lowest) := less
      exact .inl ⟨by omega, by omega⟩
    · have notMore : ¬ gap (2 * half) (value b) (value lowest) <
          gap (2 * half) (value a) (value lowest) := notMore
      have notLess : ¬ gap (2 * half) (value a) (value lowest) <
          gap (2 * half) (value b) (value lowest) := notLess
      exact .inr ⟨by omega, less⟩

theorem strictWeakOn_of_opposite (opposite : Opposite half value later s) :
    StrictWeakOn (byDifference half value later) s := by
  refine .of_all_tied fun a inA b inB less => ?_
  rw [byDifference_iff positive] at less
  rcases opposite a inA b inB with apart | ⟨same, notLater⟩
  · rcases less with ⟨-, less⟩ | ⟨same, -⟩ <;> omega
  · rcases less with ⟨less, -⟩ | ⟨-, less⟩
    · omega
    · exact notLater less

theorem tied_of_half (apart : gap (2 * half) (value a) (value b) = half) :
    Tied (byDifference half value later) a b := by
  have swap := gap_swap (m := 2 * half) (x := value a) (y := value b) (by omega)
  rw [Tied, byDifference_iff positive, byDifference_iff positive]
  refine ⟨fun less => ?_, fun less => ?_⟩
  · rcases less with ⟨-, less⟩ | ⟨same, -⟩ <;> omega
  · rcases less with ⟨-, less⟩ | ⟨same, -⟩ <;> omega

/-- Beside two counters half a circle apart there is no room for a third one: it would be between
them on both ways around. -/
theorem gap_of_half (order : StrictWeakOn (byDifference half value later) s) (inA : a ∈ s)
    (inB : b ∈ s) (apart : gap (2 * half) (value a) (value b) = half) {c : α} (inC : c ∈ s) :
    gap (2 * half) (value c) (value a) = 0 ∨ gap (2 * half) (value c) (value a) = half := by
  obtain ⟨notBefore, notBehind⟩ : Tied (byDifference half value later) a b :=
    tied_of_half positive apart
  have nonneg := gap_nonneg (m := 2 * half) (x := value c) (y := value a) (by omega)
  have below := gap_lt (m := 2 * half) (x := value c) (y := value a) (by omega)
  have swapA := gap_swap (m := 2 * half) (x := value c) (y := value a) (by omega)
  have swapB := gap_swap (m := 2 * half) (x := value c) (y := value b) (by omega)
  have belowB := gap_lt (m := 2 * half) (x := value c) (y := value b) (by omega)
  have nonnegB := gap_nonneg (m := 2 * half) (x := value c) (y := value b) (by omega)
  have sum := gap_add (m := 2 * half) (x := value c) (y := value a) (z := value b) (by omega)
  by_contra room
  by_cases near : gap (2 * half) (value c) (value a) < half
  · refine notBehind (order.trans b inB c inC a inA ?_ ?_)
    · exact (byDifference_iff positive).mpr (.inl ⟨by omega, by omega⟩)
    · exact (byDifference_iff positive).mpr (.inl ⟨by omega, near⟩)
  · refine notBefore (order.trans a inA c inC b inB ?_ ?_)
    · exact (byDifference_iff positive).mpr (.inl ⟨by omega, by omega⟩)
    · exact (byDifference_iff positive).mpr (.inl ⟨by omega, by omega⟩)

theorem opposite_of_half (order : StrictWeakOn (byDifference half value later) s) (inA : a ∈ s)
    (inB : b ∈ s) (apart : gap (2 * half) (value a) (value b) = half) :
    Opposite half value later s := by
  intro c inC d inD
  have atC := gap_of_half positive order inA inB apart inC
  have atD := gap_of_half positive order inA inB apart inD
  have swapD := gap_swap (m := 2 * half) (x := value d) (y := value a) (by omega)
  have sum := gap_add (m := 2 * half) (x := value c) (y := value a) (z := value d) (by omega)
  have nonneg := gap_nonneg (m := 2 * half) (x := value c) (y := value d) (by omega)
  have below := gap_lt (m := 2 * half) (x := value c) (y := value d) (by omega)
  by_cases equal : gap (2 * half) (value c) (value d) = 0
  · refine .inr ⟨equal, fun less => ?_⟩
    have before : byDifference half value later c d :=
      (byDifference_iff positive).mpr (.inr ⟨equal, less⟩)
    -- both are tied with the one on the other side
    rcases atC with same | opposed
    · have sumC := gap_add (m := 2 * half) (x := value c) (y := value a) (z := value b) (by omega)
      have sumD := gap_add (m := 2 * half) (x := value d) (y := value a) (z := value b) (by omega)
      have aroundC := gap_nonneg (m := 2 * half) (x := value c) (y := value b) (by omega)
      have aroundD := gap_nonneg (m := 2 * half) (x := value d) (y := value b) (by omega)
      have tiedC : Tied (byDifference half value later) c b := tied_of_half positive (by omega)
      have tiedD : Tied (byDifference half value later) d b := tied_of_half positive (by omega)
      exact (order.tied_trans c inC b inB d inD tiedC tiedD.symm).1 before
    · have tiedC : Tied (byDifference half value later) c a := tied_of_half positive opposed
      have tiedD : Tied (byDifference half value later) d a := tied_of_half positive (by omega)
      exact (order.tied_trans c inC a inA d inD tiedC tiedD.symm).1 before
  · exact .inl (by omega)

omit positive in
/-- Something comes last in a strict weak order of finitely many elements. -/
theorem exists_last {before : α → α → Prop} {list : List α}
    (order : StrictWeakOn before {a | a ∈ list}) (nonempty : list ≠ []) :
    ∃ last ∈ list, ∀ a ∈ list, ¬ before last a := by
  classical
  have found : ∃ last, maxElement (fun a b => decide (before a b)) list = some last := by
    cases list with
    | nil => exact absurd rfl nonempty
    | cons first rest => exact ⟨_, rfl⟩
  obtain ⟨last, found⟩ := found
  have decided : StrictWeakOn (fun a b => decide (before a b) = true) {a | a ∈ list} :=
    (StrictWeakOn.congr fun _ _ _ _ => decide_eq_true_iff).mpr order
  obtain ⟨member, notLess⟩ := maxElement_best decided (fun a inList => inList) found
  exact ⟨last, member, fun a inList less => notLess a inList (decide_eq_true less)⟩

/-- **The signed difference ranks** exactly the counters within half a circle, and those of which
no two are ranked at all. -/
theorem strictWeakOn_byDifference_iff {list : List α} (nonempty : list ≠ [])
    (order : StrictWeakOn later {a | a ∈ list}) :
    StrictWeakOn (byDifference half value later) {a | a ∈ list} ↔
      WithinHalf half value {a | a ∈ list} ∨ Opposite half value later {a | a ∈ list} := by
  refine ⟨fun ranked => ?_, fun either => either.elim
    (fun within => strictWeakOn_of_withinHalf positive within order)
    (strictWeakOn_of_opposite positive)⟩
  by_cases exists_half : ∃ a ∈ list, ∃ b ∈ list, gap (2 * half) (value a) (value b) = half
  · obtain ⟨a, inA, b, inB, apart⟩ := exists_half
    exact .inr (opposite_of_half positive ranked inA inB apart)
  · obtain ⟨lowest, member, last⟩ := exists_last ranked nonempty
    refine .inl ⟨lowest, member, fun a inList => ?_⟩
    have notBefore := mt (byDifference_iff positive).mpr (last a inList)
    have notHalf : gap (2 * half) (value a) (value lowest) ≠ half := fun apart =>
      exists_half ⟨a, inList, lowest, member, apart⟩
    have swap := gap_swap (m := 2 * half) (x := value a) (y := value lowest) (by omega)
    have below := gap_lt (m := 2 * half) (x := value a) (y := value lowest) (by omega)
    by_contra far
    exact notBefore (.inl ⟨by omega, by omega⟩)

end Ranking

end Math.SignedDifference
