import Mathlib.Data.Nat.Bitwise
import Mathlib.Tactic.Ring

/-!
# Bit fields

A sequence of bits, and the number that some of them spell, the first one highest. A field is
taken apart into fields, and its bits are those of its number. The bits of a list of bytes are
those of its bytes, from the highest on.
-/

namespace Math

/-- The number that `width` bits spell from `start` on. -/
def field (bits : Nat → Bool) (start : Nat) : Nat → Nat
  | 0 => 0
  | width + 1 => 2 * field bits start width + (bits (start + width)).toNat

section Field

variable {bits other : Nat → Bool} {start width value : Nat}

@[simp] theorem field_zero : field bits start 0 = 0 := rfl

theorem field_succ : field bits start (width + 1) =
    2 * field bits start width + (bits (start + width)).toNat := rfl

theorem field_lt (bits : Nat → Bool) (start width : Nat) : field bits start width < 2 ^ width := by
  induction width with
  | zero => exact Nat.one_pos
  | succ width ih =>
      have bit := Bool.toNat_lt (bits (start + width))
      rw [field_succ, pow_succ]
      omega

/-- Two fields one after the other. -/
theorem field_add (bits : Nat → Bool) (start width more : Nat) :
    field bits start (width + more) =
      field bits start width * 2 ^ more + field bits (start + width) more := by
  induction more with
  | zero => simp
  | succ more ih =>
      rw [← Nat.add_assoc, field_succ, field_succ, ih, Nat.add_assoc start]
      ring

/-- A field whose bits are those of a number. -/
theorem field_eq_mod (same : ∀ i < width, bits (start + i) = value.testBit (width - 1 - i)) :
    field bits start width = value % 2 ^ width := by
  induction width generalizing value with
  | zero => simp [Nat.mod_one]
  | succ width ih =>
      have last : bits (start + width) = value.testBit 0 := by
        rw [same width (Nat.lt_succ_self width)]
        congr 1
        omega
      have front : field bits start width = value / 2 % 2 ^ width := by
        refine ih fun i below => ?_
        rw [same i (Nat.lt_succ_of_lt below), ← Nat.testBit_succ]
        congr 1
        omega
      have parity : (decide (value % 2 = 1)).toNat = value % 2 := by
        rcases Nat.mod_two_eq_zero_or_one value with even | odd
        · rw [even]
          rfl
        · rw [odd]
          rfl
      rw [field_succ, front, last, Nat.testBit_zero, parity, pow_succ, Nat.mul_comm (2 ^ width),
        Nat.mod_mul]
      omega

/-- The bits of a field. -/
theorem testBit_field {i : Nat} (below : i < width) :
    (field bits start width).testBit (width - 1 - i) = bits (start + i) := by
  induction width generalizing i with
  | zero => exact absurd below (Nat.not_lt_zero i)
  | succ width ih =>
      rw [field_succ]
      have bit := Bool.toNat_lt (bits (start + width))
      rcases Nat.lt_succ_iff_lt_or_eq.mp below with earlier | rfl
      · have place : width + 1 - 1 - i = (width - 1 - i) + 1 := by omega
        rw [place, Nat.testBit_succ, ← ih earlier]
        congr 1
        omega
      · rw [Nat.add_sub_cancel, Nat.sub_self, Nat.testBit_zero]
        cases bits (start + i) <;> simp

/-- A field of zeros. -/
theorem field_eq_zero_iff : field bits start width = 0 ↔ ∀ i < width, bits (start + i) = false := by
  constructor
  · intro zero i below
    have bit : (field bits start width).testBit (width - 1 - i) = bits (start + i) :=
      testBit_field below
    rw [← bit, zero, Nat.zero_testBit]
  · intro zeros
    have spelled : field bits start width = 0 % 2 ^ width :=
      field_eq_mod fun i below => by rw [zeros i below, Nat.zero_testBit]
    rw [spelled, Nat.zero_mod]

end Field

/-- A bit of a list of bytes. -/
def bitAt (bytes : List UInt8) (i : Nat) : Bool :=
  (bytes.getD (i / 8) 0).toNat.testBit (7 - i % 8)

section Bytes

variable {bytes : List UInt8} {byte : UInt8} {index place width : Nat}

/-- The bits of one byte. -/
theorem bitAt_of_byte (found : bytes[index]? = some byte) (inside : place < 8) :
    bitAt bytes (8 * index + place) = byte.toNat.testBit (7 - place) := by
  unfold bitAt
  rw [Nat.mul_add_div (by omega), Nat.div_eq_of_lt inside, Nat.mul_add_mod,
    Nat.mod_eq_of_lt inside, Nat.add_zero, List.getD_eq_getElem?_getD, found, Option.getD_some]

/-- A field inside one byte. -/
theorem field_of_byte (found : bytes[index]? = some byte) (inside : place + width ≤ 8) :
    field (bitAt bytes) (8 * index + place) width =
      byte.toNat / 2 ^ (8 - place - width) % 2 ^ width := by
  refine field_eq_mod fun i below => ?_
  rw [Nat.add_assoc, bitAt_of_byte found (by omega), Nat.testBit_div_two_pow]
  congr 1
  omega

/-- Another byte in the place of one. -/
theorem bitAt_set (within : index < bytes.length) (i : Nat) :
    bitAt (bytes.set index byte) i =
      if i / 8 = index then byte.toNat.testBit (7 - i % 8) else bitAt bytes i := by
  unfold bitAt
  rw [List.getD_eq_getElem?_getD, List.getElem?_set, List.getD_eq_getElem?_getD]
  by_cases same : i / 8 = index
  · rw [if_pos same.symm, if_pos within, if_pos same, Option.getD_some]
  · rw [if_neg (Ne.symm same), if_neg same]

end Bytes

end Math
