import Mathlib.Tactic.Common

/-!
# Serial numbers modulo 2^16

Two 16-bit numbers are compared by the shorter way around the circle. At the maximal
distance the larger value counts as ahead. The relation is total and irreflexive, but
transitive only inside half a circle, which is why the age of a number relative to a
reference, `forwardDiff number reference`, is what invariants bound.
-/

namespace Math.Serial

variable (a b : UInt16)

/-- How far `b` is ahead of `a`, going forward. -/
def forwardDiff : UInt16 := b - a

/-- `a` is ahead of `b`, or equal to it. -/
def aheadOrAt : Bool :=
  if a.toNat = b.toNat + 32768 then decide (b < a) else decide (forwardDiff b a < 32768)

/-- `a` is ahead of `b`. -/
def aheadOf : Bool := a != b && aheadOrAt a b

theorem toNat_forwardDiff : (forwardDiff a b).toNat = (65536 - a.toNat + b.toNat) % 65536 := by
  rw [forwardDiff, UInt16.toNat_sub]

theorem ne_of_forwardDiff {a b : UInt16} (positive : 0 < (forwardDiff a b).toNat) : a ≠ b := by
  rintro rfl
  rw [toNat_forwardDiff] at positive
  have := a.toNat_lt
  omega

/-- Going from `a` to `b` and on to `c` covers both distances, if that is less than a
full circle. -/
theorem forwardDiff_add (a b c : UInt16)
    (short : (forwardDiff a b).toNat + (forwardDiff b c).toNat < 65536) :
    (forwardDiff a c).toNat = (forwardDiff a b).toNat + (forwardDiff b c).toNat := by
  have whole : forwardDiff a c = forwardDiff a b + forwardDiff b c := by
    unfold forwardDiff
    grind
  rw [whole, UInt16.toNat_add, Nat.mod_eq_of_lt short]

theorem aheadOf_of_forwardDiff {a b : UInt16} (positive : 0 < (forwardDiff b a).toNat)
    (short : (forwardDiff b a).toNat < 32768) : aheadOf a b := by
  have distinct := ne_of_forwardDiff positive
  have first := a.toNat_lt
  have second := b.toNat_lt
  have below : forwardDiff b a < 32768 := UInt16.lt_iff_toNat_lt.mpr short
  rw [toNat_forwardDiff] at short
  unfold aheadOf aheadOrAt
  rw [if_neg (by omega)]
  simp [distinct.symm, below]

theorem not_aheadOf_of_forwardDiff {a b : UInt16} (positive : 0 < (forwardDiff a b).toNat)
    (short : (forwardDiff a b).toNat < 32768) : aheadOf a b = false := by
  have first := a.toNat_lt
  have second := b.toNat_lt
  rw [toNat_forwardDiff] at short positive
  have far : ¬ forwardDiff b a < 32768 := by
    rw [UInt16.lt_iff_toNat_lt, toNat_forwardDiff, show (32768 : UInt16).toNat = 32768 from rfl]
    omega
  unfold aheadOf aheadOrAt
  rw [if_neg (by omega)]
  simp [far]

theorem aheadOf_iff :
    aheadOf a b ↔ b.toNat < a.toNat ∧ a.toNat ≤ b.toNat + 32768 ∨
      a.toNat + 32768 < b.toNat := by
  have first := a.toNat_lt
  have second := b.toNat_lt
  have below : forwardDiff b a < 32768 ↔ (65536 - b.toNat + a.toNat) % 65536 < 32768 := by
    rw [UInt16.lt_iff_toNat_lt, toNat_forwardDiff]
    rfl
  have distinct : a ≠ b ↔ a.toNat ≠ b.toNat := not_congr UInt16.toNat_inj.symm
  unfold aheadOf aheadOrAt
  rw [Bool.and_eq_true, bne_iff_ne, distinct]
  split
  · rename_i half
    rw [decide_eq_true_eq, UInt16.lt_iff_toNat_lt]
    omega
  · rename_i other
    rw [decide_eq_true_eq, below]
    omega

theorem forwardDiff_succ (a : UInt16) : (forwardDiff a (a + 1)).toNat = 1 := by
  have := a.toNat_lt
  rw [toNat_forwardDiff, UInt16.toNat_add, show (1 : UInt16).toNat = 1 from rfl]
  omega

/-- A number is not ahead of its successor. -/
@[simp] theorem not_aheadOf_succ (a : UInt16) : aheadOf a (a + 1) = false := by
  have step := forwardDiff_succ a
  exact not_aheadOf_of_forwardDiff (by omega) (by omega)

@[simp] theorem succ_ne_self (a : UInt16) : a + 1 ≠ a := by
  have step := forwardDiff_succ a
  exact (ne_of_forwardDiff (by omega)).symm

/-- Where `b` is relative to `a`: how far ahead, or minus how far behind. -/
def offset : Int :=
  if aheadOf b a then (forwardDiff a b).toNat else -((forwardDiff b a).toNat : Int)

theorem emod_add_offset : ((a.toNat : Int) + offset a b) % 65536 = b.toNat := by
  have first := a.toNat_lt
  have second := b.toNat_lt
  unfold offset
  split <;> rw [toNat_forwardDiff] <;> omega

variable {i : Nat}

theorem offset_add {a : UInt16} (short : i < 32768) : offset a (a + UInt16.ofNat i) = i := by
  have bound := a.toNat_lt
  have distance : (forwardDiff a (a + UInt16.ofNat i)).toNat = i := by
    rw [toNat_forwardDiff, UInt16.toNat_add, UInt16.toNat_ofNat']
    omega
  rcases Nat.eq_zero_or_pos i with rfl | positive
  · simp [offset, aheadOf, forwardDiff]
  · rw [offset, if_pos (aheadOf_of_forwardDiff (by omega) (by omega)), distance]

@[simp] theorem offset_self (a : UInt16) : offset a a = 0 := by
  simp [offset, aheadOf, forwardDiff]

/-- Going forward by a non-negative offset arrives. -/
theorem add_ofNat_offset {a b : UInt16} (ahead : offset a b = i) : a + UInt16.ofNat i = b := by
  have position := emod_add_offset a b
  apply UInt16.toNat_inj.mp
  rw [UInt16.toNat_add, UInt16.toNat_ofNat']
  omega

/-- Going forward from behind arrives, too. -/
theorem add_ofNat_neg_offset {a b : UInt16} (behind : offset a b = -(i : Int)) :
    b + UInt16.ofNat i = a := by
  have position := emod_add_offset a b
  have bound := a.toNat_lt
  apply UInt16.toNat_inj.mp
  rw [UInt16.toNat_add, UInt16.toNat_ofNat']
  omega

variable (value : Int)

/-- The 16-bit number of an unbounded one. -/
def wrap : UInt16 := UInt16.ofNat (value % 65536).toNat

theorem toNat_wrap : ((wrap value).toNat : Int) = value % 65536 := by
  rw [wrap, UInt16.toNat_ofNat']
  omega

variable {first second : Int}

theorem wrap_eq_iff : wrap first = wrap second ↔ first % 65536 = second % 65536 := by
  rw [← toNat_wrap, ← toNat_wrap, Int.ofNat_inj, UInt16.toNat_inj]

theorem wrap_add_ofNat (count : Nat) : wrap value + UInt16.ofNat count = wrap (value + count) := by
  apply UInt16.toNat_inj.mp
  have first := toNat_wrap value
  have second := toNat_wrap (value + count)
  rw [UInt16.toNat_add, UInt16.toNat_ofNat']
  omega

/-- Between numbers less than half a circle apart, going forward covers the difference. -/
theorem toNat_forwardDiff_wrap (after : first ≤ second) (near : second - first < 65536) :
    ((forwardDiff (wrap first) (wrap second)).toNat : Int) = second - first := by
  have one := toNat_wrap first
  have two := toNat_wrap second
  rw [toNat_forwardDiff]
  omega

/-- The offset of numbers less than half a circle apart is their difference. -/
theorem offset_wrap (behind : first - second < 32768)
    (ahead : second - first < 32768) : offset (wrap first) (wrap second) = second - first := by
  rcases Int.lt_trichotomy first second with before | rfl | after
  · have distance := toNat_forwardDiff_wrap (Int.le_of_lt before) (by omega)
    rw [offset, if_pos (aheadOf_of_forwardDiff (by omega) (by omega)), distance]
  · rw [offset_self]
    omega
  · have distance := toNat_forwardDiff_wrap (Int.le_of_lt after) (by omega)
    rw [offset, if_neg (by
      rw [not_aheadOf_of_forwardDiff (by omega) (by omega)]
      decide), distance]
    omega

theorem offset_pos_iff : 0 < offset a b ↔ aheadOf b a := by
  have first := a.toNat_lt
  have second := b.toNat_lt
  unfold offset
  split
  · rename_i ahead
    rw [aheadOf_iff] at ahead
    rw [toNat_forwardDiff]
    exact ⟨fun _ => (aheadOf_iff b a).mpr ahead, fun _ => by omega⟩
  · next behind => exact ⟨fun positive => by omega, fun ahead => absurd ahead behind⟩

theorem offset_neg_iff : offset a b < 0 ↔ aheadOf a b := by
  have first := a.toNat_lt
  have second := b.toNat_lt
  unfold offset
  rw [aheadOf_iff a b]
  split
  · rename_i ahead
    rw [aheadOf_iff] at ahead
    constructor
    · intro negative
      omega
    · omega
  · rename_i behind
    rw [aheadOf_iff] at behind
    rw [toNat_forwardDiff]
    omega

/-- An offset is at most half of the numbers. -/
theorem offset_le : offset a b ≤ 32768 := by
  have first := a.toNat_lt
  have second := b.toNat_lt
  unfold offset
  split
  · rename_i ahead
    rw [aheadOf_iff] at ahead
    rw [toNat_forwardDiff]
    omega
  · omega

theorem natAbs_offset_le : (offset a b).natAbs ≤ 32768 := by
  have first := a.toNat_lt
  have second := b.toNat_lt
  have near := offset_le a b
  unfold offset at near ⊢
  split
  · rename_i ahead
    rw [if_pos ahead] at near
    omega
  · rename_i behind
    rw [aheadOf_iff] at behind
    rw [toNat_forwardDiff]
    omega

/-- A number within the circle ahead of another one is at its distance, if it is not behind. -/
theorem offset_add_of_nonneg {a : UInt16} (short : i < 65536)
    (reached : 0 ≤ offset a (a + UInt16.ofNat i)) : offset a (a + UInt16.ofNat i) = i := by
  have position := emod_add_offset a (a + UInt16.ofNat i)
  have near := offset_le a (a + UInt16.ofNat i)
  have bound := a.toNat_lt
  rw [UInt16.toNat_add, UInt16.toNat_ofNat'] at position
  omega

theorem offset_of_behind {a b : UInt16} (positive : 0 < (forwardDiff b a).toNat)
    (short : (forwardDiff b a).toNat < 32768) : offset a b = -((forwardDiff b a).toNat : Int) := by
  unfold offset
  rw [not_aheadOf_of_forwardDiff positive short, if_neg Bool.false_ne_true]

end Math.Serial
