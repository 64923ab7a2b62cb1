import Mathlib.Tactic.SplitIfs
import MpWebRtc.Bits.BitBuffer

/-!
# Reading codes of bits

What the readers of variable-length codes return where a code is in the buffer. An exponential
Golomb code is found by its zeros: they are skipped one by one, and where there is no code behind
them, the buffer goes back to where it was.
-/

namespace MpWebRtc

open Math

namespace BitBuffer

variable {buffer after : BitBuffer} {bitCount zeros : Nat}

/-- The zeros from the place of a buffer on, and the place where they end. -/
structure Zeros (buffer after : BitBuffer) (zeros : Nat) : Prop where
  moves : buffer.MovesBy after zeros
  inside : after.position ≤ buffer.size
  bits : ∀ i < zeros, bitAt buffer.bytes (buffer.position + i) = false
  stops : after.position < buffer.size → bitAt buffer.bytes after.position = true

theorem field_one (bits : Nat → Bool) (start : Nat) : field bits start 1 = (bits start).toNat := by
  rw [field_succ, field_zero, Nat.add_zero, Nat.mul_zero, Nat.zero_add]

/-- One bit. -/
theorem peekBits_one (enough : buffer.position < buffer.size) :
    buffer.peekBits 1 =
      .ok (some (if bitAt buffer.bytes buffer.position then 1 else 0)) := by
  rw [peekBits_of_enough Nat.one_pos (by omega) enough, field_one]
  cases bitAt buffer.bytes buffer.position <;> rfl

theorem position_le_size (buffer : BitBuffer) : buffer.position ≤ buffer.size := by
  have inside := buffer.inside
  unfold position size
  omega

/-- The loop of `ReadExponentialGolomb` ends behind the zeros. -/
theorem skipZeros_spec (fuel : Nat) (buffer : BitBuffer)
    (enough : buffer.size ≤ buffer.position + fuel) :
    ∃ zeros after, skipZeros fuel buffer = .ok (zeros, after) ∧ buffer.Zeros after zeros := by
  have stay : buffer.MovesBy buffer 0 := ⟨rfl, rfl⟩
  induction fuel generalizing buffer with
  | zero =>
      refine ⟨0, buffer, rfl, stay, position_le_size buffer, nofun, fun before => ?_⟩
      omega
  | succ fuel ih =>
      unfold skipZeros
      by_cases ended : buffer.position < buffer.size
      · rw [peekBits_one ended]
        cases bit : bitAt buffer.bytes buffer.position with
        | true => exact ⟨0, buffer, rfl, stay, position_le_size buffer, nofun, fun _ => bit⟩
        | false =>
            have one : buffer.position + 1 ≤ buffer.size := ended
            obtain ⟨-, moves⟩ := consumeBits_of_enough one
            obtain ⟨zeros, after, skipped, found⟩ := ih (buffer.consumeBits 1).2
              (by rw [moves.size, moves.position]; omega) ⟨rfl, rfl⟩
            refine ⟨zeros + 1, after, ?_, ?_, ?_, fun i below => ?_, fun before => ?_⟩
            · show (skipZeros fuel (buffer.consumeBits 1).2 >>= fun rest => _) = _
              rw [skipped]
              rfl
            · rw [Nat.add_comm]
              exact moves.trans found.moves
            · rw [← moves.size]
              exact found.inside
            · cases i with
              | zero => exact bit
              | succ i =>
                  have later := found.bits i (by omega)
                  rw [moves.bytes, moves.position] at later
                  rw [← later]
                  congr 1
                  omega
            · rw [← moves.bytes]
              exact found.stops (by rw [moves.size]; exact before)
      · rw [peekBits_of_short Nat.one_pos (.inl (by omega))]
        exact ⟨0, buffer, rfl, stay, position_le_size buffer, nofun, fun before => absurd before ended⟩

/-- Going back to a place of the same bytes. -/
theorem seek_back (same : after.bytes = buffer.bytes) :
    after.seek buffer.byteOffset buffer.bitOffset = (true, buffer) := by
  have inside := buffer.inside
  have inByte := buffer.inByte
  unfold seek
  rw [dif_pos (by rw [same]; omega)]
  exact congrArg (Prod.mk true) (eq_of_position same rfl)

/-- `ReadExponentialGolomb`: the value behind the zeros, or nothing, and the buffer back at its
place. -/
theorem readExponentialGolomb_cases (buffer : BitBuffer) :
    ∃ zeros after, buffer.Zeros after zeros ∧
      ((zeros + 1 ≤ 32 ∧ ∃ last, after.MovesBy last (zeros + 1) ∧ last.position ≤ buffer.size ∧
          buffer.readExponentialGolomb =
            .ok (some (UInt32.ofNat (field (bitAt buffer.bytes) after.position (zeros + 1)) - 1),
              last)) ∨
        ((32 < zeros + 1 ∨ buffer.size < after.position + (zeros + 1)) ∧
          buffer.readExponentialGolomb = .ok (none, buffer))) := by
  have inside : buffer.size ≤ buffer.position + buffer.remainingBitCount := by
    have next := remainingBitCount_lt_iff.mp (Nat.lt_succ_self buffer.remainingBitCount)
    omega
  obtain ⟨zeros, after, skipped, found⟩ := skipZeros_spec buffer.remainingBitCount buffer inside
  refine ⟨zeros, after, found, ?_⟩
  have back := seek_back found.moves.bytes
  have peeked : ∃ bit, after.peekBits 1 = .ok bit ∧ (bit.any fun bit => bit != 1) = false := by
    by_cases before : after.position < after.size
    · have bit : bitAt after.bytes after.position = true := by
        rw [found.moves.bytes]
        exact found.stops (by rw [← found.moves.size]; exact before)
      refine ⟨some 1, ?_, rfl⟩
      rw [peekBits_one before, bit]
      rfl
    · exact ⟨none, peekBits_of_short Nat.one_pos (.inl (by omega)), rfl⟩
  obtain ⟨bit, peeked, asserted⟩ := peeked
  have reads : buffer.readExponentialGolomb = buffer.readBehindZeros after (zeros + 1) := by
    unfold readExponentialGolomb
    rw [skipped]
    show (after.peekBits 1 >>= fun bit => _) = _
    rw [peeked]
    show (if bit.any fun bit => bit != 1 then _ else _) = _
    rw [asserted, if_neg Bool.false_ne_true]
  rw [reads]
  unfold readBehindZeros
  dsimp only
  by_cases large : 32 < zeros + 1
  · refine .inr ⟨.inl large, ?_⟩
    rw [if_pos large, back]
    rfl
  · rw [if_neg large]
    by_cases enough : after.position + (zeros + 1) ≤ after.size
    · refine .inl ⟨by omega, ?_⟩
      obtain ⟨last, read, moves⟩ := readBits_of_enough (Nat.succ_pos zeros) (by omega) enough
      refine ⟨last, moves, ?_, ?_⟩
      · rw [moves.position, ← found.moves.size]
        exact enough
      · rw [read, found.moves.bytes]
        rfl
    · refine .inr ⟨.inr (by rw [← found.moves.size]; omega), ?_⟩
      rw [readBits_of_short (Nat.succ_pos zeros) (.inl (by omega))]
      show (if (after.seek buffer.byteOffset buffer.bitOffset).1 then _ else _) = _
      rw [back]
      rfl

/-- The code of a number in front of which are as many zeros as it has bits but one. -/
theorem readExponentialGolomb_of_code {val : UInt32} (small : val.toNat + 1 < 2 ^ 32)
    (enough : buffer.position + (countBits (val.toNat + 1) * 2 - 1) ≤ buffer.size)
    (code : field (bitAt buffer.bytes) buffer.position (countBits (val.toNat + 1) * 2 - 1) =
      val.toNat + 1) :
    ∃ after, buffer.readExponentialGolomb = .ok (some val, after) ∧
      buffer.MovesBy after (countBits (val.toNat + 1) * 2 - 1) := by
  have some_bits : 0 < countBits (val.toNat + 1) := Nat.size_pos.mpr (Nat.succ_pos _)
  have few : countBits (val.toNat + 1) ≤ 32 := Nat.size_le.mpr small
  have below : val.toNat + 1 < 2 ^ countBits (val.toNat + 1) := Nat.lt_size_self _
  have top : 2 ^ (countBits (val.toNat + 1) - 1) ≤ val.toNat + 1 :=
    Nat.lt_size.mp (Nat.sub_lt some_bits Nat.one_pos)
  generalize countBits (val.toNat + 1) = count at *
  have widths : count * 2 - 1 = count - 1 + count := by omega
  rw [widths, field_add] at code
  have value := field_lt (bitAt buffer.bytes) (buffer.position + (count - 1)) count
  have noHigh : field (bitAt buffer.bytes) buffer.position (count - 1) = 0 := by
    by_contra high
    have : 2 ^ count ≤ field (bitAt buffer.bytes) buffer.position (count - 1) * 2 ^ count :=
      Nat.le_mul_of_pos_left _ (Nat.pos_of_ne_zero high)
    omega
  rw [noHigh, Nat.zero_mul, Nat.zero_add] at code
  have zeroBits := field_eq_zero_iff.mp noHigh
  have topBit : bitAt buffer.bytes (buffer.position + (count - 1)) = true := by
    have bit : (field (bitAt buffer.bytes) (buffer.position + (count - 1)) count).testBit
        (count - 1 - 0) = bitAt buffer.bytes (buffer.position + (count - 1) + 0) :=
      testBit_field some_bits
    rw [Nat.sub_zero, Nat.add_zero, code] at bit
    rw [← bit]
    refine Nat.testBit_of_two_pow_le_and_two_pow_add_one_gt top ?_
    rw [Nat.sub_add_cancel some_bits]
    exact below
  obtain ⟨zeros, after, found, outcome⟩ := readExponentialGolomb_cases buffer
  have all : zeros = count - 1 := by
    rcases Nat.lt_trichotomy zeros (count - 1) with fewer | same | more
    · have stopped := found.stops (by rw [found.moves.position]; omega)
      rw [found.moves.position, zeroBits zeros fewer] at stopped
      cases stopped
    · exact same
    · rw [found.bits (count - 1) more] at topBit
      cases topBit
  have valueCount : zeros + 1 = count := by rw [all, Nat.sub_add_cancel some_bits]
  have room : after.position + (zeros + 1) ≤ buffer.size := by
    rw [found.moves.position]
    omega
  rcases outcome with ⟨-, last, moves, -, read⟩ | ⟨tooFar, -⟩
  · refine ⟨last, ?_, ?_⟩
    · rw [read, found.moves.position, all, Nat.sub_add_cancel some_bits, code]
      refine congrArg (fun val => Except.ok (some val, last)) ?_
      rw [UInt32.ofNat_add, UInt32.ofNat_toNat]
      exact UInt32.add_sub_cancel val 1
    · have both := found.moves.trans moves
      rwa [valueCount, all, ← widths] at both
  · omega

/-- The two halves of a signed exponential Golomb code. -/
theorem readSignedExponentialGolomb_of_code {unsigned : UInt32} {val : Int}
    (read : buffer.readExponentialGolomb = .ok (some unsigned, after))
    (small : unsigned.toNat + 1 < 2 ^ 32)
    (code : unsigned.toNat = if 0 < val then 2 * val - 1 else -(2 * val)) :
    buffer.readSignedExponentialGolomb = .ok (some val, after) := by
  unfold readSignedExponentialGolomb
  rw [read]
  show (if unsigned &&& 1 = 0 then _ else _) = _
  have parity : unsigned &&& 1 = 0 ↔ unsigned.toNat % 2 = 0 := by
    rw [← UInt32.toNat_inj, UInt32.toNat_and]
    exact Iff.of_eq (congrArg (· = 0) (Nat.and_one_is_mod _))
  have half : (unsigned / 2).toNat = unsigned.toNat / 2 := UInt32.toNat_div _ _
  have nextHalf : ((unsigned + 1) / 2).toNat = (unsigned.toNat + 1) / 2 := by
    rw [UInt32.toNat_div, UInt32.toNat_add]
    exact congrArg (· / 2) (Nat.mod_eq_of_lt small)
  by_cases even : unsigned.toNat % 2 = 0
  · rw [if_pos (parity.mpr even), half]
    have value : -((unsigned.toNat / 2 : Nat) : Int) = val := by
      split_ifs at code <;> omega
    rw [value]
    rfl
  · rw [if_neg (fun none' => even (parity.mp none')), nextHalf]
    have value : (((unsigned.toNat + 1) / 2 : Nat) : Int) = val := by
      split_ifs at code <;> omega
    rw [value]
    rfl

section NonSymmetric

variable {numValues val : UInt32}

theorem numValues_lt_two_pow (numValues : UInt32) :
    numValues.toNat < 2 ^ countBits numValues.toNat := Nat.lt_size_self _

theorem countBits_le (few : numValues.toNat ≤ 2 ^ 31) : countBits numValues.toNat ≤ 32 :=
  Nat.size_le.mpr (lt_of_le_of_lt few (by decide))

variable (two : 2 ≤ numValues.toNat)
include two

theorem two_le_countBits : 2 ≤ countBits numValues.toNat :=
  Nat.lt_size.mpr two

theorem two_pow_le_numValues : 2 ^ (countBits numValues.toNat - 1) ≤ numValues.toNat :=
  Nat.lt_size.mp (Nat.sub_lt (Nat.size_pos.mpr (by omega)) Nat.one_pos)

variable (few : numValues.toNat ≤ 2 ^ 31)
include few

theorem toNat_numMinBitsValues :
    (numMinBitsValues numValues).toNat =
      2 ^ countBits numValues.toNat - numValues.toNat := by
  have above := numValues_lt_two_pow numValues
  have atMost : 2 ^ countBits numValues.toNat ≤ 2 ^ 32 :=
    Nat.pow_le_pow_right (by omega) (countBits_le few)
  unfold numMinBitsValues
  rw [UInt32.toNat_sub, UInt32.toNat_ofNat', Nat.shiftLeft_eq, Nat.one_mul]
  omega

/-- A value in the smaller number of bits. -/
theorem readNonSymmetric_of_short_code (short : val < numMinBitsValues numValues)
    (enough : buffer.position + (countBits numValues.toNat - 1) ≤ buffer.size)
    (code : field (bitAt buffer.bytes) buffer.position (countBits numValues.toNat - 1) =
      val.toNat) :
    ∃ after, buffer.readNonSymmetric numValues = .ok (some val, after) ∧
      buffer.MovesBy after (countBits numValues.toNat - 1) := by
  have bits := two_le_countBits two
  have atMost := countBits_le few
  obtain ⟨after, read, moves⟩ := readBits_of_enough (by omega) (by omega) enough
  refine ⟨after, ?_, moves⟩
  have asserted : ¬ (numValues = 0 ∨ 2 ^ 31 < numValues.toNat) := by
    rintro (zero | many)
    · rw [zero] at two
      cases two
    · omega
  unfold readNonSymmetric
  rw [if_neg asserted]
  show (buffer.readBits (countBits numValues.toNat - 1) >>= fun read => _) = _
  rw [read, code, UInt32.ofNat_toNat]
  show (if val < numMinBitsValues numValues then _ else _) = _
  rw [if_pos short]
  rfl

/-- A value in the larger number of bits. -/
theorem readNonSymmetric_of_long_code (below : val < numValues)
    (long : ¬ val < numMinBitsValues numValues)
    (enough : buffer.position + countBits numValues.toNat ≤ buffer.size)
    (code : field (bitAt buffer.bytes) buffer.position (countBits numValues.toNat) =
      (val + numMinBitsValues numValues).toNat) :
    ∃ after, buffer.readNonSymmetric numValues = .ok (some val, after) ∧
      buffer.MovesBy after (countBits numValues.toNat) := by
  have bits := two_le_countBits two
  have atMost := countBits_le few
  have minimum := toNat_numMinBitsValues two few
  have above := numValues_lt_two_pow numValues
  have powers : 2 ^ countBits numValues.toNat ≤ 2 ^ 32 := Nat.pow_le_pow_right (by omega) atMost
  rw [UInt32.lt_iff_toNat_lt] at below long
  have total : (val + numMinBitsValues numValues).toNat =
      val.toNat + (numMinBitsValues numValues).toNat := by
    rw [UInt32.toNat_add]
    exact Nat.mod_eq_of_lt (by omega)
  have asserted : ¬ (numValues = 0 ∨ 2 ^ 31 < numValues.toNat) := by
    rintro (zero | many)
    · rw [zero] at two
      cases two
    · omega
  have widths : countBits numValues.toNat = countBits numValues.toNat - 1 + 1 := by omega
  rw [total, widths, field_add, field_one, pow_one] at code
  generalize high : field (bitAt buffer.bytes) buffer.position (countBits numValues.toNat - 1) =
    front at code
  generalize low : bitAt buffer.bytes
    (buffer.position + (countBits numValues.toNat - 1)) = bit at code
  have bitRange := Bool.toNat_lt bit
  have firstRoom : buffer.position + (countBits numValues.toNat - 1) ≤ buffer.size := by omega
  obtain ⟨middle, first, moves⟩ := readBits_of_enough (by omega) (by omega) firstRoom
  have secondRoom : middle.position + 1 ≤ middle.size := by
    rw [moves.size, moves.position]
    omega
  obtain ⟨after, second, moves'⟩ := readBits_of_enough Nat.one_pos (by omega) secondRoom
  rw [high] at first
  rw [moves.bytes, moves.position, field_one, low] at second
  have frontRange : front < 2 ^ 32 := by omega
  have extra : (UInt32.ofNat bit.toNat).toNat = bit.toNat := by
    rw [UInt32.toNat_ofNat']
    exact Nat.mod_eq_of_lt (by omega)
  have notShort : ¬ UInt32.ofNat front < numMinBitsValues numValues := by
    rw [UInt32.lt_iff_toNat_lt, UInt32.toNat_ofNat', Nat.mod_eq_of_lt frontRange]
    omega
  have value : (UInt32.ofNat front <<< 1) + UInt32.ofNat bit.toNat =
      val + numMinBitsValues numValues := by
    rw [← UInt32.toNat_inj, total, UInt32.toNat_add, UInt32.toNat_shiftLeft, extra,
      UInt32.toNat_ofNat', Nat.mod_eq_of_lt frontRange]
    show (front <<< 1 % 2 ^ 32 + bit.toNat) % 2 ^ 32 = _
    rw [Nat.shiftLeft_eq, pow_one]
    omega
  refine ⟨after, ?_, ?_⟩
  · unfold readNonSymmetric
    rw [if_neg asserted]
    show (buffer.readBits (countBits numValues.toNat - 1) >>= fun read => _) = _
    rw [first]
    show (if UInt32.ofNat front < numMinBitsValues numValues then _ else _) = _
    rw [if_neg notShort]
    show (middle.readBits 1 >>= fun extra => _) = _
    rw [second]
    show Except.ok (some ((UInt32.ofNat front <<< 1) + UInt32.ofNat bit.toNat -
      numMinBitsValues numValues), after) = _
    rw [value, UInt32.add_sub_cancel]
  · have both := moves.trans moves'
    rwa [← widths] at both

end NonSymmetric

end BitBuffer

end MpWebRtc
