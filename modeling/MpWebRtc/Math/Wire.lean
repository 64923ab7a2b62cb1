import Mathlib.Data.Nat.Bitwise
import Mathlib.Tactic.Ring

/-!
# Numbers on the wire

Two ways a format lays out numbers. An integer of fixed width is written most
significant byte first; reading it back gives the value modulo the width. Several small
fields of one word are combined by shifting each to its place, from the top; shifting
back and masking gives each of them, provided that they fit and that the word was empty
where they go.
-/

namespace Math.Wire

section Bytes

/-- The value in `width` bytes, most significant first. -/
def writeBigEndian : (width value : Nat) → List UInt8
  | 0, _ => []
  | width + 1, value => UInt8.ofNat (value / 256 ^ width) :: writeBigEndian width value

variable (bytes : List UInt8)

/-- The number the bytes spell. -/
def readBigEndian : Nat :=
  bytes.foldl (fun value byte => value * 256 + byte.toNat) 0

@[simp]
theorem length_writeBigEndian (width value : Nat) :
    (writeBigEndian width value).length = width := by
  induction width with
  | zero => rfl
  | succ width ih => simp [writeBigEndian, ih]

theorem foldl_writeBigEndian (width value start : Nat) :
    (writeBigEndian width value).foldl (fun value byte => value * 256 + byte.toNat) start =
      start * 256 ^ width + value % 256 ^ width := by
  induction width generalizing start with
  | zero => simp [writeBigEndian, Nat.mod_one]
  | succ width ih =>
      have high : value % 256 ^ (width + 1) =
          value % 256 ^ width + 256 ^ width * (value / 256 ^ width % 256) := by
        rw [pow_succ, Nat.mod_mul]
      rw [writeBigEndian, List.foldl_cons, ih, UInt8.toNat_ofNat', high]
      ring

/-- Reading gives back what was written, modulo the width. -/
@[simp]
theorem readBigEndian_writeBigEndian (width value : Nat) :
    readBigEndian (writeBigEndian width value) = value % 256 ^ width := by
  simpa [readBigEndian] using foldl_writeBigEndian width value 0

theorem foldl_bytes_lt (start : Nat) :
    bytes.foldl (fun value byte => value * 256 + byte.toNat) start <
      (start + 1) * 256 ^ bytes.length := by
  induction bytes generalizing start with
  | nil => simp
  | cons byte bytes ih =>
      rw [List.foldl_cons, List.length_cons]
      calc
        _ < (start * 256 + byte.toNat + 1) * 256 ^ bytes.length := ih _
        _ ≤ (start + 1) * 256 * 256 ^ bytes.length := by
          have range := byte.toNat_lt
          exact Nat.mul_le_mul_right _ (by omega)
        _ = (start + 1) * 256 ^ (bytes.length + 1) := by ring

/-- As many bytes spell no larger number. -/
theorem readBigEndian_lt : readBigEndian bytes < 256 ^ bytes.length := by
  simpa [readBigEndian] using foldl_bytes_lt bytes 0

end Bytes

section Pieces

variable {Piece : Type} {write : Piece → List UInt8} {size : Nat}

/-- Pieces of one size, one after the other. -/
theorem length_flatMap_of_forall (same : ∀ piece, (write piece).length = size)
    (pieces : List Piece) : (pieces.flatMap write).length = pieces.length * size := by
  induction pieces with
  | nil => simp
  | cons piece pieces ih =>
      rw [List.flatMap_cons, List.length_append, ih, same, List.length_cons]
      ring

/-- Aligned pieces, one after the other, are aligned. -/
theorem dvd_length_flatMap (aligned : ∀ piece, size ∣ (write piece).length)
    (pieces : List Piece) : size ∣ (pieces.flatMap write).length := by
  induction pieces with
  | nil => simp
  | cons piece pieces ih =>
      rw [List.flatMap_cons, List.length_append]
      exact Nat.dvd_add (aligned piece) ih

end Pieces

section Fields

/-- Put the fields into the word, the first at place `index` counted from the top. -/
def packFields (width capacity : Nat) : (word index : Nat) → (fields : List Nat) → Nat
  | word, _, [] => word
  | word, index, field :: fields =>
      packFields width capacity (word ||| field <<< (width * (capacity - 1 - index))) (index + 1)
        fields

variable {width capacity : Nat}

theorem testBit_packFields (word index : Nat) (fields : List Nat) (bit : Nat) :
    (packFields width capacity word index fields).testBit bit =
      (word.testBit bit || fields.zipIdx.any fun entry =>
        decide (width * (capacity - 1 - (index + entry.2)) ≤ bit) &&
          entry.1.testBit (bit - width * (capacity - 1 - (index + entry.2)))) := by
  induction fields generalizing word index with
  | nil => simp [packFields]
  | cons field fields ih =>
      rw [packFields, ih, Nat.testBit_or, Nat.testBit_shiftLeft, List.zipIdx_cons', List.any_cons,
        List.any_map, Bool.or_assoc]
      simp only [Function.comp_def, Nat.add_zero, Nat.add_assoc, Nat.add_comm 1, ge_iff_le, Prod.map_fst,
        Prod.map_snd, id_eq]

/-- Fields at different places do not share a bit. -/
theorem place_add_width_le (width capacity : Nat) {first second : Nat} (before : first < second)
    (fits : second < capacity) :
    width * (capacity - 1 - second) + width ≤ width * (capacity - 1 - first) := by
  have shifted : capacity - 1 - second + 1 ≤ capacity - 1 - first := by omega
  calc width * (capacity - 1 - second) + width = width * (capacity - 1 - second + 1) := by ring
    _ ≤ width * (capacity - 1 - first) := Nat.mul_le_mul_left width shifted

variable {fields : List Nat}

/-- The field at a place is read back by a shift and a mask. -/
theorem packFields_shiftRight_mod {word : Nat}
    (empty : ∀ bit < width * capacity, word.testBit bit = false)
    (small : ∀ field ∈ fields, field < 2 ^ width) (room : fields.length ≤ capacity)
    {index field : Nat} (here : fields[index]? = some field) :
    (packFields width capacity word 0 fields >>> (width * (capacity - 1 - index))) % 2 ^ width =
      field := by
  obtain ⟨inside, rfl⟩ := List.getElem?_eq_some_iff.mp here
  apply Nat.eq_of_testBit_eq
  intro bit
  rw [Nat.testBit_mod_two_pow, Nat.testBit_shiftRight, testBit_packFields]
  by_cases low : bit < width
  · have below : width * (capacity - 1 - index) + bit < width * capacity := by
      calc width * (capacity - 1 - index) + bit < width * (capacity - 1 - index) + width := by omega
        _ = width * (capacity - 1 - index + 1) := by ring
        _ ≤ width * capacity := Nat.mul_le_mul_left width (by omega)
    rw [empty _ below]
    simp only [low, decide_true, Bool.true_and, Bool.false_or, Nat.zero_add]
    rw [Bool.eq_iff_iff, List.any_eq_true]
    constructor
    · rintro ⟨⟨other, place⟩, member, held⟩
      obtain ⟨within, rfl⟩ := List.mk_mem_zipIdx_iff_getElem?.mp member |>
        List.getElem?_eq_some_iff.mp
      simp only [Bool.and_eq_true, decide_eq_true_eq] at held
      have fitting := small _ (List.getElem_mem within)
      rcases Nat.lt_trichotomy place index with before | rfl | after
      · have apart := place_add_width_le width capacity before (by omega)
        omega
      · simpa using held.2
      · have apart := place_add_width_le width capacity after (by omega)
        have absent := Nat.testBit_eq_false_of_lt (lt_of_lt_of_le fitting
          (Nat.pow_le_pow_right (by omega) (show width ≤
            width * (capacity - 1 - index) + bit - width * (capacity - 1 - place) by omega)))
        rw [absent] at held
        exact absurd held.2 (by simp)
    · intro held
      refine ⟨(fields[index], index), List.mk_mem_zipIdx_iff_getElem?.mpr here, ?_⟩
      simpa using held
  · have high := Nat.testBit_eq_false_of_lt (lt_of_lt_of_le (small _ (List.getElem_mem inside))
      (Nat.pow_le_pow_right (by omega) (Nat.le_of_not_lt low)))
    simp [low, high]

/-- Bits above the fields are those of the word. -/
theorem testBit_packFields_of_le {word : Nat}
    (small : ∀ field ∈ fields, field < 2 ^ width) (room : fields.length ≤ capacity) {bit : Nat}
    (above : width * capacity ≤ bit) :
    (packFields width capacity word 0 fields).testBit bit = word.testBit bit := by
  rw [testBit_packFields, Bool.or_eq_left_iff_imp, List.any_eq_true]
  rintro ⟨⟨field, place⟩, member, held⟩
  obtain ⟨within, rfl⟩ := List.mk_mem_zipIdx_iff_getElem?.mp member |> List.getElem?_eq_some_iff.mp
  simp only [Bool.and_eq_true, decide_eq_true_eq, Nat.zero_add] at held
  have placed : width * (capacity - 1 - place) + width ≤ width * capacity := by
    calc width * (capacity - 1 - place) + width = width * (capacity - 1 - place + 1) := by ring
      _ ≤ width * capacity := Nat.mul_le_mul_left width (by omega)
  have absent := Nat.testBit_eq_false_of_lt (lt_of_lt_of_le (small _ (List.getElem_mem within))
    (Nat.pow_le_pow_right (by omega) (show width ≤ bit - width * (capacity - 1 - place) by omega)))
  rw [absent] at held
  exact absurd held.2 (by simp)

/-- The fields do not make the word longer. -/
theorem packFields_lt {word length : Nat}
    (small : ∀ field ∈ fields, field < 2 ^ width) (room : fields.length ≤ capacity)
    (below : word < 2 ^ length) (holds : width * capacity ≤ length) :
    packFields width capacity word 0 fields < 2 ^ length := by
  refine Nat.lt_pow_two_of_testBit _ fun bit above => ?_
  rw [testBit_packFields_of_le small room (holds.trans above)]
  exact Nat.testBit_lt_two_pow (below.trans_le (Nat.pow_le_pow_right (by decide) above))

end Fields

end Math.Wire
