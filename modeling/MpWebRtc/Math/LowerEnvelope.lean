import Mathlib.Algebra.Order.Field.Basic
import Mathlib.Data.List.Basic
import Mathlib.Tactic.Linarith
import Mathlib.Tactic.LinearCombination
import Mathlib.Tactic.Ring

/-!
# Lower envelopes of falling lines

Of falling lines that start above zero, the lower envelope has those that on some interval to the
right of zero are below all others, and above zero. It is built from flat to steep lines on a stack:
each line of the stack begins where it crosses the line under it, later than that one begins and
before that one is used up.
-/

namespace Math.LowerEnvelope

variable {K : Type} [Field K] [LinearOrder K]

/-- The line that falls from `height` by `slope` a unit. -/
@[ext]
structure Line (K : Type) where
  height : K
  slope : K
  deriving DecidableEq

namespace Line

def value (line : Line K) (x : K) : K := line.height - line.slope * x

/-- Where a steeper line crosses this one. -/
def crossing (line steeper : Line K) : K :=
  (steeper.height - line.height) / (steeper.slope - line.slope)

end Line

/-- Whatever is above zero is reached by one of the lower lines. -/
def Covers (lower upper : List (Line K)) : Prop :=
  ∀ line ∈ upper, ∀ x, 0 < x → ∃ other ∈ lower, other.value x ≤ line.value x ∨ other.value x ≤ 0

/-- On some interval to the right of zero the line is above zero and below all others. -/
def OnEnvelope (lines : List (Line K)) (line : Line K) : Prop :=
  ∃ a b, 0 ≤ a ∧ a < b ∧ ∀ x, a < x → x < b →
    0 < line.value x ∧ ∀ other ∈ lines, other ≠ line → line.value x < other.value x

section Covering

variable {lower middle upper : List (Line K)}

theorem Covers.of_subset (subset : ∀ line ∈ upper, line ∈ lower) : Covers lower upper :=
  fun line member _ _ => ⟨line, subset line member, .inl le_rfl⟩

theorem Covers.trans (first : Covers lower middle) (second : Covers middle upper) :
    Covers lower upper := by
  intro line member x positive
  obtain ⟨between, isMiddle, reached⟩ := second line member x positive
  obtain ⟨other, isLower, reached'⟩ := first between isMiddle x positive
  refine ⟨other, isLower, ?_⟩
  rcases reached' with below | zero
  · exact reached.imp below.trans below.trans
  · exact .inr zero

/-- It is enough to cover lines one by one. -/
theorem covers_iff : Covers lower upper ↔ ∀ line ∈ upper, Covers lower [line] := by
  constructor
  · intro covers line member other isOther
    rw [List.mem_singleton.mp isOther]
    exact covers line member
  · intro each line member
    exact each line member line (.head _)

end Covering

namespace Line

variable {line steeper : Line K} {x : K} [IsStrictOrderedRing K]

section

variable (steep : line.slope < steeper.slope)
include steep

theorem value_le_iff : line.value x ≤ steeper.value x ↔ x ≤ line.crossing steeper := by
  unfold crossing value
  rw [le_div_iff₀ (sub_pos.mpr steep)]
  constructor
  · intro below
    linarith
  · intro before
    linarith

theorem value_lt_iff : line.value x < steeper.value x ↔ x < line.crossing steeper := by
  unfold crossing value
  rw [lt_div_iff₀ (sub_pos.mpr steep)]
  constructor
  · intro below
    linarith
  · intro before
    linarith

theorem value_crossing :
    steeper.value (line.crossing steeper) = line.value (line.crossing steeper) := by
  refine le_antisymm ?_ ((value_le_iff steep).mpr le_rfl)
  exact not_lt.mp fun below => lt_irrefl _ ((value_lt_iff steep).mp below)

end

theorem value_anti (falls : 0 ≤ line.slope) {y : K} (before : x ≤ y) :
    line.value y ≤ line.value x := by
  unfold value
  have := mul_le_mul_of_nonneg_left before falls
  linarith

/-- A line that is above zero at some point stays so for a while. -/
theorem exists_positive_after (falls : 0 ≤ line.slope) (positive : 0 < line.value x) :
    ∃ b, x < b ∧ ∀ y, y < b → 0 < line.value y := by
  have larger : 0 < line.slope + 1 := by linarith
  refine ⟨x + line.value x / (line.slope + 1), by linarith [div_pos positive larger],
    fun y before => ?_⟩
  rcases le_total y x with early | late
  · exact lt_of_lt_of_le positive (value_anti falls early)
  · have short : (y - x) * (line.slope + 1) < line.value x := by
      rw [← lt_div_iff₀ larger]
      linarith
    have step : line.value y = line.value x - line.slope * (y - x) := by
      unfold value
      ring
    rw [step]
    linarith

end Line

section Covering

variable {lower upper : List (Line K)} {line : Line K} [IsStrictOrderedRing K]

/-- A line of the envelope is one of those that cover. -/
theorem mem_of_onEnvelope (covers : Covers lower upper) (subset : ∀ line ∈ lower, line ∈ upper)
    (member : line ∈ upper) (onEnvelope : OnEnvelope upper line) : line ∈ lower := by
  obtain ⟨a, b, nonneg, order, interval⟩ := onEnvelope
  obtain ⟨x, after, before⟩ := exists_between order
  obtain ⟨positive, below⟩ := interval x after before
  obtain ⟨other, isLower, reached⟩ := covers line member x (lt_of_le_of_lt nonneg after)
  by_cases same : other = line
  · exact same ▸ isLower
  · have above := below other (subset other isLower) same
    rcases reached with under | zero
    · exact absurd above (not_lt.mpr under)
    · linarith

/-- A line that is not below another on an interval, and is not the same, is strictly above it. -/
theorem lt_of_le_on {a b : K} {other : Line K} (apart : other ≠ line)
    (le : ∀ x, a < x → x < b → line.value x ≤ other.value x) {x : K} (after : a < x)
    (before : x < b) : line.value x < other.value x := by
  refine lt_of_le_of_ne (le x after before) fun meet => apart ?_
  have slopes : other.slope = line.slope := by
    obtain ⟨left, left_after, left_before⟩ := exists_between after
    obtain ⟨right, right_after, right_before⟩ := exists_between before
    have onLeft := le left left_after (left_before.trans before)
    have onRight := le right (after.trans right_after) right_before
    have difference : ∀ y, other.value y - line.value y = (line.slope - other.slope) * (y - x) := by
      intro y
      unfold Line.value at meet ⊢
      linear_combination -meet
    have leftSign := difference left
    have rightSign := difference right
    by_contra different
    rcases lt_or_gt_of_ne different with flat | steep
    · have := mul_neg_of_pos_of_neg (sub_pos.mpr flat) (sub_neg.mpr left_before)
      linarith
    · have := mul_neg_of_neg_of_pos (sub_neg.mpr steep) (sub_pos.mpr right_after)
      linarith
  have heights : other.height = line.height := by
    unfold Line.value at meet
    rw [slopes] at meet
    linarith
  exact Line.ext heights slopes

end Covering

/-- A line of the stack, and where it begins. -/
structure Layer (K : Type) where
  line : Line K
  start : K

/-- The stack, with the steepest line on top. -/
inductive Layered : List (Layer K) → Prop
  | bottom {line : Line K} (positive : 0 < line.height) (falls : 0 ≤ line.slope) :
      Layered [⟨line, 0⟩]
  | push {top : Layer K} {below : List (Layer K)} {line : Line K} (layered : Layered (top :: below))
      (steep : top.line.slope < line.slope) (later : top.start < top.line.crossing line)
      (used : 0 < top.line.value (top.line.crossing line)) :
      Layered (⟨line, top.line.crossing line⟩ :: top :: below)

namespace Layered

variable {top : Layer K} {below : List (Layer K)}

theorem tail {next : Layer K} (layered : Layered (top :: next :: below)) :
    Layered (next :: below) := by
  cases layered with
  | push layered steep later used => exact layered

theorem falls (layered : Layered (top :: below)) : 0 ≤ top.line.slope := by
  generalize shape : top :: below = stack at layered
  induction layered generalizing top below with
  | bottom positive falls =>
      obtain ⟨rfl, -⟩ := List.cons.inj shape
      exact falls
  | push layered steep later used ih =>
      obtain ⟨rfl, -⟩ := List.cons.inj shape
      exact (ih rfl).trans steep.le

variable [IsStrictOrderedRing K]

section

variable (layered : Layered (top :: below))
include layered

/-- Where the top line begins it is above zero. -/
theorem start : 0 ≤ top.start ∧ 0 < top.line.value top.start := by
  generalize shape : top :: below = stack at layered
  induction layered generalizing top below with
  | bottom positive falls =>
      obtain ⟨rfl, -⟩ := List.cons.inj shape
      refine ⟨le_rfl, ?_⟩
      unfold Line.value
      linarith
  | push layered steep later used ih =>
      obtain ⟨rfl, -⟩ := List.cons.inj shape
      refine ⟨(ih rfl).1.trans later.le, ?_⟩
      rw [Line.value_crossing steep]
      exact used

/-- Behind its beginning the top line is below all others. -/
theorem top_lt {x : K} (after : top.start < x) :
    ∀ layer ∈ below, top.line.value x < layer.line.value x := by
  generalize shape : top :: below = stack at layered
  induction layered generalizing top below with
  | bottom positive falls =>
      obtain ⟨rfl, rfl⟩ := List.cons.inj shape
      exact fun _ => nofun
  | push layered steep later used ih =>
      obtain ⟨rfl, rfl⟩ := List.cons.inj shape
      have overtaken : _ < _ := not_le.mp (mt (Line.value_le_iff steep).mp (not_le.mpr after))
      intro layer member
      rcases List.mem_cons.mp member with rfl | deeper
      · exact overtaken
      · exact overtaken.trans (ih (later.trans after) rfl layer deeper)

/-- A line under the top is below all others on an interval that ends before the top begins. -/
theorem below_interval :
    ∀ layer ∈ below, ∃ a b, 0 ≤ a ∧ a < b ∧ b ≤ top.start ∧ ∀ x, a < x → x < b →
      0 < layer.line.value x ∧ ∀ other ∈ top :: below, other.line ≠ layer.line →
        layer.line.value x < other.line.value x := by
  generalize shape : top :: below = stack at layered
  induction layered generalizing top below with
  | bottom positive falls =>
      obtain ⟨rfl, rfl⟩ := List.cons.inj shape
      exact fun _ => nofun
  | @push old deeper line layered steep later used ih =>
      obtain ⟨rfl, rfl⟩ := List.cons.inj shape
      intro layer member
      rcases List.mem_cons.mp member with rfl | isDeeper
      · refine ⟨layer.start, _, (layered.start).1, later, le_rfl, fun x after before => ⟨?_, ?_⟩⟩
        · exact lt_of_lt_of_le used (Line.value_anti layered.falls before.le)
        · intro other isOther apart
          rcases List.mem_cons.mp isOther with rfl | inStack
          · exact (Line.value_lt_iff steep).mpr before
          · rcases List.mem_cons.mp inStack with rfl | isDeeper
            · exact absurd rfl apart
            · exact layered.top_lt after other isDeeper
      · obtain ⟨a, b, nonneg, order, early, interval⟩ := ih rfl layer isDeeper
        refine ⟨a, b, nonneg, order, early.trans later.le, fun x after before => ?_⟩
        obtain ⟨positive, lowest⟩ := interval x after before
        refine ⟨positive, fun other isOther apart => ?_⟩
        rcases List.mem_cons.mp isOther with rfl | inStack
        · have under : old.line.value x < line.value x :=
            (Line.value_lt_iff steep).mpr (before.trans_le (early.trans later.le))
          by_cases same : old.line = layer.line
          · exact same ▸ under
          · exact (lowest old (.head _) same).trans under
        · exact lowest other inStack apart

end

/-- Each line of the stack is below the others on an interval. -/
theorem interval {stack : List (Layer K)} (layered : Layered stack) :
    ∀ layer ∈ stack, ∃ a b, 0 ≤ a ∧ a < b ∧ ∀ x, a < x → x < b →
      0 < layer.line.value x ∧ ∀ other ∈ stack, other.line ≠ layer.line →
        layer.line.value x < other.line.value x := by
  cases stack with
  | nil => exact fun _ => nofun
  | cons top below =>
      intro layer member
      rcases List.mem_cons.mp member with rfl | isBelow
      · obtain ⟨nonneg, positive⟩ := layered.start
        obtain ⟨b, order, stays⟩ := Line.exists_positive_after layered.falls positive
        refine ⟨layer.start, b, nonneg, order, fun x after before => ⟨stays x before, ?_⟩⟩
        intro other isOther apart
        rcases List.mem_cons.mp isOther with rfl | deeper
        · exact absurd rfl apart
        · exact layered.top_lt after other deeper
      · obtain ⟨a, b, nonneg, order, -, interval⟩ := layered.below_interval layer isBelow
        exact ⟨a, b, nonneg, order, interval⟩

/-- If the stack covers the lines, its own lines are on their envelope. -/
theorem onEnvelope {stack : List (Layer K)} (layered : Layered stack) {lines : List (Line K)}
    (covers : Covers (stack.map Layer.line) lines) :
    ∀ layer ∈ stack, OnEnvelope lines layer.line := by
  intro layer member
  obtain ⟨a, b, nonneg, order, interval⟩ := layered.interval layer member
  refine ⟨a, b, nonneg, order, fun x after before => ⟨(interval x after before).1, ?_⟩⟩
  intro other isOther apart
  refine lt_of_le_on apart (fun y after before => ?_) after before
  obtain ⟨positive, lowest⟩ := interval y after before
  obtain ⟨line, isLine, reached⟩ := covers other isOther y (lt_of_le_of_lt nonneg after)
  obtain ⟨found, inStack, rfl⟩ := List.mem_map.mp isLine
  have least : layer.line.value y ≤ found.line.value y := by
    by_cases same : found.line = layer.line
    · rw [same]
    · exact (lowest found inStack same).le
  rcases reached with under | zero
  · exact least.trans under
  · linarith

end Layered

section Steps

variable {top : Layer K} {below : List (Layer K)} {line : Line K} {lines : List (Line K)}
  [IsStrictOrderedRing K]

/-- If the new line crosses the top before this begins, then the top is not needed. -/
theorem covers_pop {next : Layer K}
    (layered : Layered (top :: next :: below)) (steep : top.line.slope < line.slope)
    (early : top.line.crossing line ≤ top.start)
    (covers : Covers ((top :: next :: below).map Layer.line ++ [line]) lines) :
    Covers ((next :: below).map Layer.line ++ [line]) lines := by
  refine Covers.trans (covers_iff.mpr fun other member => ?_) covers
  rw [List.map_cons, List.cons_append] at member
  rcases List.mem_cons.mp member with rfl | stays
  · intro same isSame x _
    rw [List.mem_singleton.mp isSame]
    rcases le_or_gt x top.start with before | after
    · cases layered with
      | push layered steeper later used =>
          exact ⟨next.line, .head _, .inl ((Line.value_le_iff steeper).mpr before)⟩
    · refine ⟨line, List.mem_append_cons_self, .inl (not_lt.mp fun under => ?_)⟩
      have := (Line.value_lt_iff steep).mp under
      linarith
  · exact Covers.of_subset fun same isSame => List.mem_singleton.mp isSame ▸ stays

/-- If the new line crosses the top when this is used up, then the new line is not needed. -/
theorem covers_drop (falls : 0 ≤ top.line.slope) (steep : top.line.slope < line.slope)
    (late : top.line.value (top.line.crossing line) ≤ 0)
    (covers : Covers ((top :: below).map Layer.line ++ [line]) lines) :
    Covers ((top :: below).map Layer.line) lines := by
  refine Covers.trans (covers_iff.mpr fun other member => ?_) covers
  rcases List.mem_append.mp member with stays | new
  · exact Covers.of_subset fun same isSame => List.mem_singleton.mp isSame ▸ stays
  · intro same isSame x _
    rw [List.mem_singleton.mp isSame, List.mem_singleton.mp new]
    refine ⟨top.line, .head _, ?_⟩
    rcases le_or_gt x (top.line.crossing line) with before | after
    · exact .inl ((Line.value_le_iff steep).mpr before)
    · exact .inr ((Line.value_anti falls after.le).trans late)

end Steps

end Math.LowerEnvelope
