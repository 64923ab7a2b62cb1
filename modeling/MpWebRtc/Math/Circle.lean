import Mathlib.Data.List.Pairwise
import Mathlib.Data.List.TakeWhile
import Mathlib.Tactic.Common

/-!
# Numbers on a circle

Numbers modulo `M` are compared by the shorter way around; at the maximal distance the larger value
is ahead. A map whose keys are in this order need not be within half a circle, but a walk through
the map over less than half a circle visits exactly what lies on the way.
-/

namespace Math.Circle

variable {M : Nat} (a b : Fin M)

/-- How far `b` is ahead of `a`, going forward. -/
def forwardDiff : Nat := if a ≤ b then b.val - a.val else M - (a.val - b.val)

/-- The shorter way between two numbers. -/
def minDiff : Nat := min (forwardDiff a b) (forwardDiff b a)

/-- `a` is ahead of `b`, or equal to it. -/
def aheadOrAt : Bool :=
  if M % 2 = 0 ∧ minDiff a b = M / 2 then decide (b < a) else decide (forwardDiff b a ≤ M / 2)

/-- `a` is ahead of `b`. -/
def aheadOf : Bool := a != b && aheadOrAt a b

/-- The number that is `steps` further. -/
def add (a : Fin M) (steps : Nat) : Fin M :=
  ⟨(a.val + steps) % M, Nat.mod_lt _ (a.pos)⟩

/-- The number that is `steps` back. -/
def subtract (a : Fin M) (steps : Nat) : Fin M :=
  ⟨(a.val + (M - steps % M)) % M, Nat.mod_lt _ (a.pos)⟩

/-- On the way from one number forward to another. -/
def Between (first middle last : Fin M) : Prop :=
  0 < forwardDiff first middle ∧ forwardDiff first middle < forwardDiff first last

instance (first middle last : Fin M) : Decidable (Between first middle last) :=
  inferInstanceAs (Decidable (_ ∧ _))

section Distance

variable {a b c first middle last : Fin M}

theorem forwardDiff_lt (a b : Fin M) : forwardDiff a b < M := by
  have := a.isLt
  have := b.isLt
  unfold forwardDiff
  split
  · omega
  · rename_i behind
    have : b.val < a.val := Nat.lt_of_not_le behind
    omega

@[simp] theorem forwardDiff_self (a : Fin M) : forwardDiff a a = 0 := by
  unfold forwardDiff
  rw [if_pos (Fin.le_refl a), Nat.sub_self]

theorem forwardDiff_eq_zero_iff : forwardDiff a b = 0 ↔ a = b := by
  refine ⟨fun none => Fin.ext ?_, fun same => by rw [same, forwardDiff_self]⟩
  have := a.isLt
  have := b.isLt
  unfold forwardDiff at none
  split at none
  · rename_i before
    have : a.val ≤ b.val := before
    omega
  · omega

/-- Two ways forward, or the rest of the circle. -/
theorem forwardDiff_add (a b c : Fin M) :
    forwardDiff a c = forwardDiff a b + forwardDiff b c ∨
      forwardDiff a c + M = forwardDiff a b + forwardDiff b c := by
  have := a.isLt
  have := b.isLt
  have := c.isLt
  unfold forwardDiff
  simp only [Fin.le_def]
  split_ifs <;> omega

theorem forwardDiff_swap (apart : a ≠ b) : forwardDiff a b + forwardDiff b a = M := by
  have around := forwardDiff_add a b a
  have positive : 0 < forwardDiff a b := Nat.pos_of_ne_zero (mt forwardDiff_eq_zero_iff.mp apart)
  rw [forwardDiff_self] at around
  omega

/-- From what is `steps` back it is so many steps forward. -/
theorem forwardDiff_subtract (a : Fin M) {steps : Nat} (less : steps < M) :
    forwardDiff (subtract a steps) a = steps := by
  have below := a.isLt
  have value : (subtract a steps).val = if a.val < steps then a.val + (M - steps)
      else a.val - steps := by
    unfold subtract
    dsimp only
    rw [Nat.mod_eq_of_lt less]
    split
    · exact Nat.mod_eq_of_lt (by omega)
    · rw [show a.val + (M - steps) = a.val - steps + M by omega, Nat.add_mod_right]
      exact Nat.mod_eq_of_lt (by omega)
  unfold forwardDiff
  simp only [Fin.le_def]
  rw [value]
  split_ifs <;> omega

end Distance

section AheadOrAt

variable {a b : Fin M}

theorem forwardDiff_le_of_aheadOrAt (ahead : aheadOrAt a b) : forwardDiff b a ≤ (M + 1) / 2 := by
  have below := forwardDiff_lt b a
  unfold aheadOrAt minDiff at ahead
  split at ahead
  · rename_i most
    by_cases same : a = b
    · rw [same, forwardDiff_self]
      exact Nat.zero_le _
    · have around := forwardDiff_swap same
      omega
  · rw [decide_eq_true_iff] at ahead
    omega

theorem le_forwardDiff_of_not_aheadOrAt (behind : aheadOrAt a b = false) :
    M / 2 ≤ forwardDiff b a := by
  unfold aheadOrAt minDiff at behind
  split at behind
  · rename_i most
    by_cases same : a = b
    · have half := most.2
      rw [same, forwardDiff_self] at half ⊢
      omega
    · have around := forwardDiff_swap same
      omega
  · rw [decide_eq_false_iff_not] at behind
    omega

end AheadOrAt

section Ahead

variable {a b c first middle last : Fin M} (even : M % 2 = 0)

include even

theorem aheadOf_iff : aheadOf a b ↔ a ≠ b ∧
    (forwardDiff b a < M / 2 ∨ forwardDiff b a = M / 2 ∧ b < a) := by
  unfold aheadOf
  rw [Bool.and_eq_true, bne_iff_ne]
  refine and_congr_right fun apart => ?_
  have around := forwardDiff_swap apart
  unfold aheadOrAt minDiff
  split
  · rename_i most
    rw [decide_eq_true_iff]
    have half := most.2
    constructor
    · intro larger
      exact .inr ⟨by omega, larger⟩
    · rintro (near | ⟨-, larger⟩)
      · omega
      · exact larger
  · rename_i notMost
    have notHalf : min (forwardDiff a b) (forwardDiff b a) ≠ M / 2 := fun half =>
      notMost ⟨even, half⟩
    rw [decide_eq_true_iff]
    constructor
    · intro near
      exact .inl (by omega)
    · rintro (near | ⟨half, -⟩)
      · exact near.le
      · omega

theorem aheadOf_asymm (ahead : aheadOf a b) : aheadOf b a = false := by
  rw [Bool.eq_false_iff]
  intro back
  rw [aheadOf_iff even] at ahead back
  have around := forwardDiff_swap ahead.1
  rcases ahead.2 with near | ⟨half, larger⟩
  · rcases back.2 with near | ⟨half, -⟩ <;> omega
  · rcases back.2 with near | ⟨-, smaller⟩
    · omega
    · exact absurd smaller (Nat.lt_asymm larger)

/-- What is ahead of one number and behind another is on the way between them. -/
theorem between_of_aheadOf (ahead : aheadOf middle first) (behind : aheadOf last middle) :
    Between first middle last := by
  rw [aheadOf_iff even] at ahead behind
  have positive : 0 < forwardDiff first middle :=
    Nat.pos_of_ne_zero (mt forwardDiff_eq_zero_iff.mp ahead.1.symm)
  have rest : 0 < forwardDiff middle last :=
    Nat.pos_of_ne_zero (mt forwardDiff_eq_zero_iff.mp behind.1.symm)
  refine ⟨positive, ?_⟩
  rcases forwardDiff_add first middle last with sum | around
  · omega
  · -- both ways would be half the circle, and the two ends the same number
    have same : first = last := forwardDiff_eq_zero_iff.mp (by omega)
    rcases ahead.2 with near | ⟨-, larger⟩
    · omega
    · rcases behind.2 with near | ⟨-, smaller⟩
      · omega
      · rw [same] at larger
        exact absurd smaller (Nat.lt_asymm larger)

omit even in
theorem aheadOf_of_near (positive : 0 < forwardDiff b a) (near : forwardDiff b a < M / 2) :
    aheadOf a b := by
  have apart : a ≠ b := fun same => by
    rw [same, forwardDiff_self] at positive
    exact absurd positive (Nat.lt_irrefl 0)
  have around := forwardDiff_swap apart
  unfold aheadOf aheadOrAt minDiff
  rw [Bool.and_eq_true, bne_iff_ne]
  refine ⟨apart, ?_⟩
  rw [if_neg fun most => by omega]
  exact decide_eq_true near.le

omit even in
/-- What is on a short way is ahead of where it begins and behind where it ends. -/
theorem aheadOf_of_between (short : forwardDiff first last < M / 2)
    (between : Between first middle last) : aheadOf middle first ∧ aheadOf last middle := by
  obtain ⟨positive, less⟩ := between
  have sum := forwardDiff_add first middle last
  have bound := forwardDiff_lt middle last
  exact ⟨aheadOf_of_near positive (by omega), aheadOf_of_near (by omega) (by omega)⟩

omit even in
theorem Between.trans_left {inner : Fin M} (between : Between first middle last)
    (later : Between middle inner last) : Between first inner last := by
  obtain ⟨positive, less⟩ := between
  obtain ⟨further, below⟩ := later
  have sum := forwardDiff_add first middle last
  have step := forwardDiff_add first middle inner
  have bound := forwardDiff_lt middle last
  have bound := forwardDiff_lt first last
  have bound := forwardDiff_lt first inner
  unfold Between
  omega

omit even in
theorem Between.trans_right {inner : Fin M} (between : Between first middle last)
    (earlier : Between first inner middle) : Between first inner last :=
  ⟨earlier.1, earlier.2.trans between.2⟩

end Ahead

/-- A map with its keys in the order of the circle: each is behind all that follow. -/
structure CircularMap (M : Nat) (Value : Type) where
  entries : List (Fin M × Value) := []
  ordered : entries.Pairwise fun first second => aheadOf second.1 first.1 := by exact .nil

namespace CircularMap

variable {Value : Type} (map : CircularMap M Value)

/-- Put a value under a key, unless there is one already. There is no place for a key that is ahead
of one entry and behind an earlier one. -/
def emplace (key : Fin M) (value : Value) : Option (CircularMap M Value) :=
  if map.entries.any fun entry => decide (entry.1 = key) then some map
  else
    let before := map.entries.takeWhile fun entry => aheadOf key entry.1
    let after := map.entries.dropWhile fun entry => aheadOf key entry.1
    if placed : ∀ entry ∈ after, aheadOf entry.1 key then
      some {
        entries := before ++ (key, value) :: after
        ordered := by
          have split : (before ++ after).Pairwise fun first second => aheadOf second.1 first.1 := by
            rw [List.takeWhile_append_dropWhile]
            exact map.ordered
          obtain ⟨inBefore, inAfter, across⟩ := List.pairwise_append.mp split
          refine List.pairwise_append.mpr ⟨inBefore, inAfter.cons placed, ?_⟩
          intro first isBefore second isAfter
          rcases List.mem_cons.mp isAfter with rfl | isAfter
          · exact List.mem_takeWhile_imp (p := fun entry : Fin M × Value => aheadOf key entry.1)
              isBefore
          · exact across first isBefore second isAfter }
    else none

/-- The entries without those behind a key, at the beginning. -/
def eraseBehind (key : Fin M) : CircularMap M Value where
  entries := map.entries.dropWhile fun entry => aheadOf key entry.1
  ordered := map.ordered.sublist (List.dropWhile_sublist _)

/-- Remove a key. -/
def erase (key : Fin M) : CircularMap M Value where
  entries := map.entries.filter fun entry => decide (entry.1 ≠ key)
  ordered := map.ordered.sublist List.filter_sublist

/-- The entries from the first that is ahead of one key, as long as another one is ahead of them. -/
def walk (first last : Fin M) : List (Fin M × Value) :=
  (map.entries.dropWhile fun entry => !aheadOf entry.1 first).takeWhile fun entry =>
    aheadOf last entry.1

variable {map} {first last : Fin M} {entry : Fin M × Value}

theorem head_dropWhile_ahead {entries tail : List (Fin M × Value)} {head : Fin M × Value}
    (rest : entries.dropWhile (fun entry => !aheadOf entry.1 first) = head :: tail) :
    aheadOf head.1 first := by
  have notBefore := List.head_dropWhile_not (p := fun entry : Fin M × Value =>
    !aheadOf entry.1 first) (l := entries) (by rw [rest]; exact List.cons_ne_nil _ _)
  simpa [rest] using notBefore

/-- A walk over a short way visits the entries on the way. -/
theorem mem_walk_iff (even : M % 2 = 0) (short : forwardDiff first last < M / 2) :
    entry ∈ map.walk first last ↔ entry ∈ map.entries ∧ Between first entry.1 last := by
  unfold walk
  constructor
  · intro member
    have behind := List.mem_takeWhile_imp member
    have inRest := (List.takeWhile_sublist _).subset member
    refine ⟨(List.dropWhile_sublist _).subset inRest, ?_⟩
    have ordered := map.ordered.sublist (List.dropWhile_sublist fun entry => !aheadOf entry.1 first)
    cases rest : map.entries.dropWhile fun entry => !aheadOf entry.1 first with
    | nil =>
        rw [rest] at inRest
        cases inRest
    | cons head tail =>
        have ahead : aheadOf head.1 first := by
          have notBefore := List.head_dropWhile_not (p := fun entry : Fin M × Value =>
            !aheadOf entry.1 first) (l := map.entries) (by rw [rest]; exact List.cons_ne_nil _ _)
          simpa [rest] using notBefore
        rw [rest] at member inRest ordered
        rcases List.mem_cons.mp inRest with rfl | inTail
        · exact between_of_aheadOf even ahead behind
        · have headBehind : aheadOf last head.1 := by
            rw [List.takeWhile_cons] at member
            split at member
            · next holds => exact holds
            · cases member
          have atHead := between_of_aheadOf even ahead headBehind
          exact atHead.trans_left (between_of_aheadOf even
            ((List.pairwise_cons.mp ordered).1 entry inTail) behind)
  · rintro ⟨member, between⟩
    obtain ⟨ahead, behind⟩ := aheadOf_of_between short between
    obtain ⟨earlier, later, split⟩ := List.append_of_mem member
    have ordered := map.ordered
    rw [split] at ordered ⊢
    obtain ⟨orderedBefore, -, across⟩ := List.pairwise_append.mp ordered
    have kept : (earlier ++ entry :: later).dropWhile (fun entry => !aheadOf entry.1 first) =
        earlier.dropWhile (fun entry => !aheadOf entry.1 first) ++ entry :: later := by
      rw [List.dropWhile_append]
      split
      · rename_i none
        rw [List.isEmpty_iff.mp none, List.nil_append, List.dropWhile_cons_of_neg (by simp [ahead])]
      · rfl
    -- whatever is visited before is on the way to this entry
    have visited : ∀ other ∈ earlier.dropWhile (fun entry => !aheadOf entry.1 first),
        aheadOf last other.1 := by
      intro other inRest
      have toEntry : aheadOf entry.1 other.1 := across other ((List.dropWhile_sublist _).subset
        inRest) entry List.mem_cons_self
      have ordered := orderedBefore.sublist
        (List.dropWhile_sublist fun entry => !aheadOf entry.1 first)
      cases rest : earlier.dropWhile fun entry => !aheadOf entry.1 first with
      | nil =>
          rw [rest] at inRest
          cases inRest
      | cons head tail =>
          have ahead := head_dropWhile_ahead rest
          have inHead : head ∈ earlier := (List.dropWhile_sublist _).subset
            (rest ▸ List.mem_cons_self)
          have atHead := between_of_aheadOf even ahead (across head inHead entry List.mem_cons_self)
          rw [rest] at inRest ordered
          refine (aheadOf_of_between short (between.trans_right ?_)).2
          rcases List.mem_cons.mp inRest with rfl | inTail
          · exact atHead
          · exact atHead.trans_left (between_of_aheadOf even
              ((List.pairwise_cons.mp ordered).1 other inTail) toEntry)
    rw [kept, List.takeWhile_append_of_pos visited,
      List.takeWhile_cons_of_pos (p := fun entry : Fin M × Value => aheadOf last entry.1) behind]
    exact List.mem_append_cons_self

theorem mem_dropWhile_append {Entry : Type} {drop : Entry → Bool} {first second : List Entry}
    {entry : Entry} (absent : entry ∉ second) :
    entry ∈ (first ++ second).dropWhile drop ↔ entry ∈ first.dropWhile drop := by
  rw [List.dropWhile_append]
  split
  · rename_i none
    rw [List.isEmpty_iff.mp none]
    exact iff_of_false (fun member => absent ((List.dropWhile_sublist _).subset member))
      List.not_mem_nil
  · rw [List.mem_append]
    exact or_iff_left absent

/-- A new key changes nothing behind it. -/
theorem mem_eraseBehind_emplace (even : M % 2 = 0) {key old : Fin M} {value : Value}
    {next : CircularMap M Value} (placed : map.emplace key value = some next)
    (behind : aheadOf key entry.1) :
    entry ∈ (next.eraseBehind old).entries ↔ entry ∈ (map.eraseBehind old).entries := by
  unfold emplace at placed
  split at placed
  · rw [Option.some_inj.mp placed]
  · dsimp only at placed
    split at placed
    · rename_i ahead
      obtain rfl := Option.some_inj.mp placed
      have absent : entry ∉ map.entries.dropWhile fun entry => aheadOf key entry.1 := by
        intro member
        have back := aheadOf_asymm even (ahead entry member)
        rw [behind] at back
        cases back
      have other : entry ≠ (key, value) := by
        rintro rfl
        have back := aheadOf_asymm even behind
        rw [behind] at back
        cases back
      dsimp only [eraseBehind]
      conv_rhs => rw [← List.takeWhile_append_dropWhile (p := fun entry : Fin M × Value =>
        aheadOf key entry.1) (l := map.entries)]
      rw [mem_dropWhile_append absent, mem_dropWhile_append]
      exact fun member => (List.mem_cons.mp member).elim other absent
    · cases placed

end CircularMap

end Math.Circle
