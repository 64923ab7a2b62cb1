import MpWebRtc.Math.Serial

/-!
# Unwrapping sequence numbers

`SeqNumUnwrapper` extends 16-bit numbers to unbounded ones, starting from the first
number it sees: each number is placed as near as possible to the one before. A number
less than half a circle away from the one before is placed where it belongs.

The older `SequenceNumberUnwrapper` does the same, but does not go below zero.
-/

namespace MpWebRtc

open Math.Serial

/-- `SeqNumUnwrapper`. -/
structure SeqNumUnwrapper where
  lastUnwrapped : Int := 0
  lastValue : Option UInt16 := none

namespace SeqNumUnwrapper

/-- The value `Unwrap` returns. -/
def unwrapped (unwrapper : SeqNumUnwrapper) (value : UInt16) : Int :=
  match unwrapper.lastValue with
  | none => value.toNat
  | some last =>
      let next := unwrapper.lastUnwrapped + (forwardDiff last value).toNat
      if aheadOrAt value last then next else next - 65536

/-- `Unwrap`. -/
def unwrap (unwrapper : SeqNumUnwrapper) (value : UInt16) : Int × SeqNumUnwrapper :=
  (unwrapper.unwrapped value, ⟨unwrapper.unwrapped value, some value⟩)

/-- The value is the last one without its multiple of 2^16. -/
def Valid (unwrapper : SeqNumUnwrapper) : Prop :=
  ∀ last, unwrapper.lastValue = some last → wrap unwrapper.lastUnwrapped = last

variable {unwrapper : SeqNumUnwrapper}

theorem valid_initial : Valid {} := by
  rintro last ⟨⟩

/-- Relative to the last value, a number goes to the nearest place. -/
theorem unwrapped_eq_offset {value last : UInt16} (after : unwrapper.lastValue = some last) :
    unwrapper.unwrapped value = unwrapper.lastUnwrapped + offset last value := by
  have first := value.toNat_lt
  have second := last.toNat_lt
  have there := toNat_forwardDiff last value
  have back := toNat_forwardDiff value last
  unfold unwrapped
  rw [after]
  dsimp only
  by_cases same : value = last
  · subst same
    have none : (forwardDiff value value).toNat = 0 := by omega
    rw [offset_self, if_pos (by simp [aheadOrAt, forwardDiff]), none]
    rfl
  · have apart : value.toNat ≠ last.toNat := fun equal => same (UInt16.toNat_inj.mp equal)
    unfold offset aheadOf
    have distinct : (value != last) = true := by simpa using same
    rw [distinct, Bool.true_and]
    split <;> omega

variable (valid : unwrapper.Valid)
include valid

/-- Unwrapping only adds multiples of 2^16. -/
theorem Valid.wrap_unwrapped (value : UInt16) : wrap (unwrapper.unwrapped value) = value := by
  have bound := value.toNat_lt
  apply UInt16.toNat_inj.mp
  have crop := toNat_wrap (unwrapper.unwrapped value)
  cases known : unwrapper.lastValue with
  | none =>
      rw [unwrapped, known] at crop
      rw [unwrapped, known]
      dsimp only at crop ⊢
      omega
  | some last =>
      have before := toNat_wrap unwrapper.lastUnwrapped
      have position := emod_add_offset last value
      rw [valid last known] at before
      rw [unwrapped_eq_offset known] at crop ⊢
      omega

theorem Valid.unwrap (value : UInt16) : (unwrapper.unwrap value).2.Valid := by
  rintro last ⟨⟩
  exact valid.wrap_unwrapped value

/-- A number less than half a circle from the last one is found. -/
theorem Valid.unwrapped_wrap {last : UInt16}
    (known : unwrapper.lastValue = some last) {number : Int}
    (behind : unwrapper.lastUnwrapped - number < 32768)
    (ahead : number - unwrapper.lastUnwrapped < 32768) :
    unwrapper.unwrapped (wrap number) = number := by
  rw [unwrapped_eq_offset known, ← valid last known, offset_wrap behind ahead]
  omega

end SeqNumUnwrapper

variable (lastValue : Option Int)

/-- `UnwrapWithoutUpdate`, after the last unwrapped value. -/
def unwrapWithoutUpdate (value : UInt16) : Int :=
  match lastValue with
  | none => value.toNat
  | some last =>
      let croppedLast := UInt16.ofNat (last % 65536).toNat
      let delta : Int := value.toNat - croppedLast.toNat
      if aheadOf value croppedLast then
        if delta < 0 then last + (delta + 65536) else last + delta
      else if delta > 0 ∧ last + delta - 65536 ≥ 0 then last + (delta - 65536)
      else last + delta

/-- Unwrapping only adds multiples of 2^16. -/
theorem unwrapWithoutUpdate_emod (value : UInt16) :
    unwrapWithoutUpdate lastValue value % 65536 = value.toNat := by
  have bound := value.toNat_lt
  unfold unwrapWithoutUpdate
  cases lastValue with
  | none =>
      dsimp only
      omega
  | some last =>
      dsimp only
      rw [UInt16.toNat_ofNat']
      split_ifs <;> omega

/-- `number` is the nearest to `last` of the non-negative numbers with its 16 bits. In
the middle between two of them the upper or lower half of the circle decides. -/
def Nearest (last number : Int) : Prop :=
  (last - number < 32768 ∨ last - number = 32768 ∧ 32768 ≤ last % 65536) ∧
    (number - last < 32768 ∨ number - last = 32768 ∧ last % 65536 < 32768 ∨ number < 65536)

instance (last number : Int) : Decidable (Nearest last number) :=
  inferInstanceAs (Decidable (_ ∧ _))

/-- A number is found exactly if it is the nearest. -/
theorem unwrapWithoutUpdate_wrap_iff {last number : Int} (origin : 0 ≤ last)
    (natural : 0 ≤ number) :
    unwrapWithoutUpdate (some last) (wrap number) = number ↔ Nearest last number := by
  have there := toNat_wrap number
  have here := toNat_wrap last
  have newer := aheadOf_iff (wrap number) (wrap last)
  have first := (wrap number).toNat_lt
  have second := (wrap last).toNat_lt
  unfold unwrapWithoutUpdate Nearest
  dsimp only
  rw [← wrap]
  by_cases ahead : aheadOf (wrap number) (wrap last)
  · rw [if_pos ahead]
    have ahead := newer.mp ahead
    split <;> constructor <;> omega
  · rw [if_neg ahead]
    have behind := mt newer.mpr ahead
    split <;> constructor <;> omega

/-- Unwrapping does not go below zero. -/
theorem unwrapWithoutUpdate_nonneg {lastValue : Option Int} (value : UInt16)
    (origin : ∀ last, lastValue = some last → 0 ≤ last) :
    0 ≤ unwrapWithoutUpdate lastValue value := by
  cases lastValue with
  | none => exact Int.natCast_nonneg _
  | some last =>
      have start := origin last rfl
      have here := toNat_wrap last
      unfold unwrapWithoutUpdate
      dsimp only
      rw [← wrap]
      split_ifs <;> omega

/-- Unwrapping after the last value puts the 16 bits of `number` at `number`. -/
def PlacedAt (number : Int) : Prop :=
  match lastValue with
  | none => number < 65536
  | some last => Nearest last number

instance (lastValue : Option Int) (number : Int) : Decidable (PlacedAt lastValue number) :=
  match lastValue with
  | none => inferInstanceAs (Decidable (_ < _))
  | some _ => inferInstanceAs (Decidable (Nearest _ _))

theorem unwrapWithoutUpdate_wrap_iff_placedAt {lastValue : Option Int} {number : Int}
    (origin : ∀ last, lastValue = some last → 0 ≤ last) (natural : 0 ≤ number) :
    unwrapWithoutUpdate lastValue (wrap number) = number ↔ PlacedAt lastValue number := by
  cases lastValue with
  | none =>
      have crop := toNat_wrap number
      unfold unwrapWithoutUpdate PlacedAt
      dsimp only
      omega
  | some last => exact unwrapWithoutUpdate_wrap_iff (origin last rfl) natural

/-- Where the `n`-th number from an origin is in an epoch. -/
def epochKey (origin epoch n : Nat) : Int := origin + n + 65536 * epoch

section EpochKey

variable {origin epoch : Nat}

theorem wrap_epochKey (origin epoch n : Nat) :
    wrap (epochKey origin epoch n) = wrap (origin + n) := by
  rw [wrap_eq_iff]
  unfold epochKey
  omega

theorem epochKey_nonneg (n : Nat) : 0 ≤ epochKey origin epoch n := by
  unfold epochKey
  omega

theorem epochKey_inj {first second : Nat} :
    epochKey origin epoch first = epochKey origin epoch second ↔ first = second := by
  unfold epochKey
  omega

end EpochKey

end MpWebRtc
