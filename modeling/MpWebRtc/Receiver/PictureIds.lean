import MpWebRtc.Math.Circle

/-!
# Picture ids

The picture ids of VP8 and VP9 have 15 bits, and the indices of base layers 8 bits. Both are
extended to unbounded numbers by placing each as near as possible to the one before.
-/

namespace MpWebRtc

open Math.Circle

/-- `kPicIdLength`. -/
abbrev kPicIdLength : Nat := 32768

/-- A picture id. -/
abbrev PictureId : Type := Fin kPicIdLength

/-- `picture_id & 0x7FFF`. -/
def pictureIdOf (value : Int) : PictureId := ⟨(value % 32768).toNat, by unfold kPicIdLength; omega⟩

/-- `SeqNumUnwrapper<T, M>`. The last value is the last unwrapped one modulo `M`. -/
structure CircleUnwrapper (M : Nat) where
  lastUnwrapped : Int := 0
  lastValue : Option (Fin M) := none
  valid : ∀ last, lastValue = some last → lastUnwrapped % M = last.val := by
    intro last isLast
    cases isLast

namespace CircleUnwrapper

variable {M : Nat}

/-- The value `Unwrap` returns. -/
def unwrapped (unwrapper : CircleUnwrapper M) (value : Fin M) : Int :=
  match unwrapper.lastValue with
  | none => value.val
  | some last =>
      let next := unwrapper.lastUnwrapped + forwardDiff last value
      if aheadOrAt value last then next else next - M

/-- Unwrapping only adds multiples of `M`. -/
theorem unwrapped_emod (unwrapper : CircleUnwrapper M) (value : Fin M) :
    unwrapper.unwrapped value % M = value.val := by
  have below := value.isLt
  unfold unwrapped
  cases known : unwrapper.lastValue with
  | none =>
      show (value.val : Int) % M = value.val
      exact Int.emod_eq_of_lt (Int.natCast_nonneg _) (by exact_mod_cast below)
  | some last =>
      have before := unwrapper.valid last known
      have bound := last.isLt
      have next : (unwrapper.lastUnwrapped + (forwardDiff last value : Int)) % M = value.val := by
        rw [← Int.emod_add_emod, before]
        unfold forwardDiff
        split
        · rename_i ordered
          have ordered : last.val ≤ value.val := ordered
          rw [show (last.val : Int) + ((value.val - last.val : Nat) : Int) = value.val by omega]
          exact Int.emod_eq_of_lt (Int.natCast_nonneg _) (by exact_mod_cast below)
        · rename_i behind
          have behind : value.val < last.val := Nat.lt_of_not_le behind
          rw [show (last.val : Int) + ((M - (last.val - value.val) : Nat) : Int) =
            value.val + M by omega, Int.add_emod_right]
          exact Int.emod_eq_of_lt (Int.natCast_nonneg _) (by exact_mod_cast below)
      dsimp only
      split
      · exact next
      · rw [Int.sub_emod_right]
        exact next

/-- `Unwrap`. -/
def unwrap (unwrapper : CircleUnwrapper M) (value : Fin M) : Int × CircleUnwrapper M :=
  (unwrapper.unwrapped value,
    { lastUnwrapped := unwrapper.unwrapped value
      lastValue := some value
      valid := fun last isLast => by
        rw [← Option.some_inj.mp isLast]
        exact unwrapper.unwrapped_emod value })

/-- A picture id less than half the circle away is placed where it belongs. -/
theorem unwrapped_near {unwrapper : CircleUnwrapper kPicIdLength} {last value : PictureId}
    (known : unwrapper.lastValue = some last) {place : Int}
    (near : unwrapper.lastUnwrapped - 16384 < place ∧ place < unwrapper.lastUnwrapped + 16384)
    (means : place % 32768 = value.val) : unwrapper.unwrapped value = place := by
  have before := unwrapper.valid last known
  have same := unwrapper.unwrapped_emod value
  have range := forwardDiff_lt last value
  unfold unwrapped at same ⊢
  rw [known] at same ⊢
  dsimp only [kPicIdLength] at before same range ⊢
  by_cases ahead : aheadOrAt value last
  · have near := forwardDiff_le_of_aheadOrAt ahead
    rw [if_pos ahead] at same ⊢
    dsimp only [kPicIdLength] at near
    omega
  · have far := le_forwardDiff_of_not_aheadOrAt (Bool.eq_false_iff.mpr ahead)
    rw [if_neg ahead] at same ⊢
    dsimp only [kPicIdLength] at far
    omega

end CircleUnwrapper

end MpWebRtc
