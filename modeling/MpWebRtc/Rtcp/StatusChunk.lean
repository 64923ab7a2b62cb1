import MpWebRtc.Math.Wire

/-!
# Status chunks of transport feedback

A feedback message says of every packet whether it arrived and how many bytes its delay
takes: nothing for a lost packet, one byte for a small delay, two for a large one. These
sizes are compressed into words of 16 bits. A run of equal sizes takes one word; else
fourteen sizes of at most one fit a word, or seven arbitrary ones. `LastChunk` collects
sizes as long as one word can hold them, and then emits as many as it can.

The sizes in a chunk are `LastChunk.content`. The invariant `LastChunk.Valid` says that
the flags describe them and that one word can hold them; from it follows that decoding
an encoded chunk gives the content back.
-/

namespace MpWebRtc

open Math.Wire

def kMaxRunLengthCapacity : Nat := 0x1fff
def kMaxOneBitCapacity : Nat := 14
def kMaxTwoBitCapacity : Nat := 7
def kMaxVectorCapacity : Nat := kMaxOneBitCapacity
def kLarge : Nat := 2

/-- `LastChunk`. The array holds the first sizes, as many as there is room for. -/
structure LastChunk where
  deltaSizes : List Nat := []
  size : Nat := 0
  allSame : Bool := true
  hasLargeDelta : Bool := false

namespace LastChunk

/-- `Empty`. -/
def empty (chunk : LastChunk) : Bool := chunk.size == 0

/-- `CanAdd`. -/
def canAdd (chunk : LastChunk) (deltaSize : Nat) : Bool :=
  decide (chunk.size < kMaxTwoBitCapacity) ||
    (decide (chunk.size < kMaxOneBitCapacity) && !chunk.hasLargeDelta && deltaSize != kLarge) ||
    (decide (chunk.size < kMaxRunLengthCapacity) && chunk.allSame &&
      chunk.deltaSizes.getD 0 0 == deltaSize)

/-- `Add`. -/
def add (chunk : LastChunk) (deltaSize : Nat) : LastChunk :=
  let deltaSizes :=
    if chunk.size < kMaxVectorCapacity then chunk.deltaSizes ++ [deltaSize] else chunk.deltaSizes
  { deltaSizes := deltaSizes
    size := chunk.size + 1
    allSame := chunk.allSame && deltaSize == deltaSizes.getD 0 0
    hasLargeDelta := chunk.hasLargeDelta || deltaSize == kLarge }

/-- `EncodeOneBit`. -/
def encodeOneBit (chunk : LastChunk) : Nat :=
  packFields 1 kMaxOneBitCapacity 0x8000 0 (chunk.deltaSizes.take chunk.size)

/-- `EncodeTwoBit`. -/
def encodeTwoBit (chunk : LastChunk) (size : Nat) : Nat :=
  packFields 2 kMaxTwoBitCapacity 0xc000 0 (chunk.deltaSizes.take size)

/-- `EncodeRunLength`. -/
def encodeRunLength (chunk : LastChunk) : Nat :=
  chunk.deltaSizes.getD 0 0 <<< 13 ||| chunk.size

/-- `Emit`: the word, and the chunk with the sizes that did not go into it. -/
def emit (chunk : LastChunk) : Nat × LastChunk :=
  if chunk.allSame then (chunk.encodeRunLength, {})
  else if chunk.size = kMaxOneBitCapacity then (chunk.encodeOneBit, {})
  else
    let rest := chunk.deltaSizes.drop kMaxTwoBitCapacity
    (chunk.encodeTwoBit kMaxTwoBitCapacity,
      { deltaSizes := rest
        size := chunk.size - kMaxTwoBitCapacity
        allSame := rest.all fun deltaSize => deltaSize == rest.getD 0 0
        hasLargeDelta := rest.any fun deltaSize => deltaSize == kLarge })

/-- `EncodeLast`. -/
def encodeLast (chunk : LastChunk) : Nat :=
  if chunk.allSame then chunk.encodeRunLength
  else if chunk.size ≤ kMaxTwoBitCapacity then chunk.encodeTwoBit chunk.size
  else chunk.encodeOneBit

/-- The sizes `AppendTo` appends. -/
def content (chunk : LastChunk) : List Nat :=
  if chunk.allSame then List.replicate chunk.size (chunk.deltaSizes.getD 0 0)
  else chunk.deltaSizes.take chunk.size

/-- `DecodeOneBit`. -/
def decodeOneBit (chunk maxSize : Nat) : LastChunk :=
  let size := min kMaxOneBitCapacity maxSize
  { deltaSizes := (List.range size).map fun i => chunk >>> (kMaxOneBitCapacity - 1 - i) &&& 0x01
    size := size
    allSame := false
    hasLargeDelta := false }

/-- `DecodeTwoBit`. -/
def decodeTwoBit (chunk maxSize : Nat) : LastChunk :=
  let size := min kMaxTwoBitCapacity maxSize
  { deltaSizes :=
      (List.range size).map fun i => chunk >>> (2 * (kMaxTwoBitCapacity - 1 - i)) &&& 0x03
    size := size
    allSame := false
    hasLargeDelta := true }

/-- `DecodeRunLength`. -/
def decodeRunLength (chunk maxSize : Nat) : LastChunk :=
  let size := min (chunk &&& 0x1fff) maxSize
  let deltaSize := chunk >>> 13 &&& 0x03
  { deltaSizes := List.replicate (min size kMaxVectorCapacity) deltaSize
    size := size
    allSame := true
    hasLargeDelta := decide (kLarge ≤ deltaSize) }

/-- `Decode`. -/
def decode (chunk maxSize : Nat) : LastChunk :=
  if chunk &&& 0x8000 = 0 then decodeRunLength chunk maxSize
  else if chunk &&& 0x4000 = 0 then decodeOneBit chunk maxSize
  else decodeTwoBit chunk maxSize

/-- The chunk has collected these sizes, and one word can hold them. -/
structure Collects (chunk : LastChunk) (sizes : List Nat) : Prop where
  array : chunk.deltaSizes = sizes.take kMaxVectorCapacity
  size : chunk.size = sizes.length
  allSame : chunk.allSame = true ↔ ∀ deltaSize ∈ sizes, deltaSize = sizes.getD 0 0
  hasLargeDelta : chunk.hasLargeDelta = true ↔ kLarge ∈ sizes
  small : ∀ deltaSize ∈ sizes, deltaSize ≤ kLarge
  fits : sizes.length ≤ kMaxTwoBitCapacity ∨
    (sizes.length ≤ kMaxOneBitCapacity ∧ kLarge ∉ sizes) ∨
    (sizes.length ≤ kMaxRunLengthCapacity ∧ chunk.allSame = true)

section Word

/-- Masking a single bit. -/
theorem and_mask_eq_zero_iff (word mask bit : Nat) (single : mask = 2 ^ bit) :
    word &&& mask = 0 ↔ word.testBit bit = false := by
  rw [single, Nat.and_two_pow]
  cases word.testBit bit <;> simp

/-- Reading all fields of a word gives the list that was packed. -/
theorem map_range_packFields {width capacity word : Nat} {fields : List Nat}
    (empty : ∀ bit < width * capacity, word.testBit bit = false)
    (small : ∀ field ∈ fields, field < 2 ^ width) (room : fields.length ≤ capacity) :
    (List.range fields.length).map (fun i =>
        packFields width capacity word 0 fields >>>
    (width * (capacity - 1 - i)) &&& 2 ^ width - 1) =
      fields := by
  apply List.ext_getElem?
  intro i
  rw [List.getElem?_map]
  by_cases inside : i < fields.length
  · have here : fields[i]? = some fields[i] := List.getElem?_eq_getElem inside
    rw [List.getElem?_range inside, here, Option.map_some, Nat.and_two_pow_sub_one_eq_mod,
      packFields_shiftRight_mod empty small room here]
  · rw [List.getElem?_eq_none (by simpa using inside), List.getElem?_eq_none (by simpa using inside),
      Option.map_none]

/-- A word of one-bit fields is decoded as such. -/
theorem decode_oneBit {sizes : List Nat} {maxSize : Nat}
    (enough : min kMaxOneBitCapacity maxSize = sizes.length)
    (small : ∀ deltaSize ∈ sizes, deltaSize < 2 ^ 1) :
    (decode (packFields 1 kMaxOneBitCapacity 0x8000 0 sizes) maxSize).content = sizes := by
  have room : sizes.length ≤ kMaxOneBitCapacity := enough ▸ Nat.min_le_left _ _
  have top : packFields 1 kMaxOneBitCapacity 0x8000 0 sizes &&& 0x8000 ≠ 0 := by
    rw [Ne, and_mask_eq_zero_iff _ 0x8000 15 rfl, testBit_packFields_of_le small room (by decide)]
    decide
  have second : packFields 1 kMaxOneBitCapacity 0x8000 0 sizes &&& 0x4000 = 0 := by
    rw [and_mask_eq_zero_iff _ 0x4000 14 rfl, testBit_packFields_of_le small room (by decide)]
    decide
  have unused : ∀ bit < 1 * kMaxOneBitCapacity, Nat.testBit 0x8000 bit = false := by decide
  have fields := map_range_packFields unused small room
  simp only [Nat.one_mul] at fields
  unfold decode
  rw [if_neg top, if_pos second]
  simp only [decodeOneBit, content, Bool.false_eq_true, if_false, enough]
  exact (congrArg (List.take sizes.length) fields).trans List.take_length

/-- A word of two-bit fields is decoded as such. -/
theorem decode_twoBit {sizes : List Nat} {maxSize : Nat}
    (enough : min kMaxTwoBitCapacity maxSize = sizes.length)
    (small : ∀ deltaSize ∈ sizes, deltaSize < 2 ^ 2) :
    (decode (packFields 2 kMaxTwoBitCapacity 0xc000 0 sizes) maxSize).content = sizes := by
  have room : sizes.length ≤ kMaxTwoBitCapacity := enough ▸ Nat.min_le_left _ _
  have top : packFields 2 kMaxTwoBitCapacity 0xc000 0 sizes &&& 0x8000 ≠ 0 := by
    rw [Ne, and_mask_eq_zero_iff _ 0x8000 15 rfl, testBit_packFields_of_le small room (by decide)]
    decide
  have second : packFields 2 kMaxTwoBitCapacity 0xc000 0 sizes &&& 0x4000 ≠ 0 := by
    rw [Ne, and_mask_eq_zero_iff _ 0x4000 14 rfl, testBit_packFields_of_le small room (by decide)]
    decide
  have unused : ∀ bit < 2 * kMaxTwoBitCapacity, Nat.testBit 0xc000 bit = false := by decide
  have fields := map_range_packFields unused small room
  unfold decode
  rw [if_neg top, if_neg second]
  simp only [decodeTwoBit, content, Bool.false_eq_true, if_false, enough]
  exact (congrArg (List.take sizes.length) fields).trans List.take_length

/-- A run is decoded as such. -/
theorem decode_runLength {deltaSize length maxSize : Nat} (small : deltaSize ≤ kLarge)
    (positive : 0 < length) (fits : length ≤ kMaxRunLengthCapacity) (enough : length ≤ maxSize) :
    (decode (deltaSize <<< 13 ||| length) maxSize).content = List.replicate length deltaSize := by
  unfold kLarge at small
  unfold kMaxRunLengthCapacity at fits
  have word : deltaSize <<< 13 ||| length = deltaSize * 8192 + length := by
    rw [← Nat.shiftLeft_add_eq_or_of_lt (by omega), Nat.shiftLeft_eq]
  have low : deltaSize * 8192 + length &&& 0x1fff = length := by
    rw [Nat.and_two_pow_sub_one_eq_mod _ 13]
    omega
  have high : (deltaSize * 8192 + length) >>> 13 &&& 0x03 = deltaSize := by
    rw [Nat.and_two_pow_sub_one_eq_mod _ 2, Nat.shiftRight_eq_div_pow]
    omega
  have top : deltaSize * 8192 + length &&& 0x8000 = 0 := by
    rw [and_mask_eq_zero_iff _ 0x8000 15 rfl]
    exact Nat.testBit_lt_two_pow (by omega)
  rw [word]
  unfold decode
  rw [if_pos top]
  simp only [decodeRunLength, content, if_true, low, high, Nat.min_eq_left enough]
  obtain ⟨rest, split⟩ : ∃ rest, min length kMaxVectorCapacity = rest + 1 :=
    ⟨min length kMaxVectorCapacity - 1, by unfold kMaxVectorCapacity kMaxOneBitCapacity; omega⟩
  rw [split, List.replicate_succ, List.getD_cons_zero]

end Word

section Collecting

variable {chunk : LastChunk} {sizes : List Nat} {deltaSize : Nat}

theorem collects_empty : Collects {} [] where
  array := rfl
  size := rfl
  allSame := by simp
  hasLargeDelta := by simp
  small := by simp
  fits := .inl (by simp)

/-- A constant list. -/
theorem eq_replicate_of_constant (constant : ∀ deltaSize ∈ sizes, deltaSize = sizes.getD 0 0) :
    sizes = List.replicate sizes.length (sizes.getD 0 0) :=
  List.eq_replicate_iff.mpr ⟨rfl, constant⟩

section

variable (collects : Collects chunk sizes)
include collects

theorem Collects.getD_zero : chunk.deltaSizes.getD 0 0 = sizes.getD 0 0 := by
  rw [collects.array]
  cases sizes <;> rfl

/-- Without a run, the array holds all sizes. -/
theorem Collects.length_le_of_not_allSame
    (different : ¬ chunk.allSame) : sizes.length ≤ kMaxVectorCapacity := by
  rcases collects.fits with few | ⟨several, -⟩ | ⟨-, same⟩
  · exact few.trans (by decide)
  · exact several
  · exact absurd same different

theorem Collects.deltaSizes_eq (different : ¬ chunk.allSame) : chunk.deltaSizes = sizes := by
  rw [collects.array]
  exact List.take_of_length_le (collects.length_le_of_not_allSame different)

/-- `AppendTo` appends what was collected. -/
theorem Collects.content_eq : chunk.content = sizes := by
  unfold content
  rw [collects.size]
  by_cases same : chunk.allSame
  · rw [if_pos same, collects.getD_zero]
    exact (eq_replicate_of_constant (collects.allSame.mp same)).symm
  · rw [if_neg same, collects.deltaSizes_eq same, List.take_length]

end

theorem getD_append_singleton (sizes : List Nat) (deltaSize : Nat) :
    (sizes ++ [deltaSize]).getD 0 0 = if sizes = [] then deltaSize else sizes.getD 0 0 := by
  cases sizes <;> simp

variable (collects : Collects chunk sizes)
include collects

/-- `Add` collects one more size. -/
theorem Collects.add (small : deltaSize ≤ kLarge)
    (can : chunk.canAdd deltaSize) : Collects (chunk.add deltaSize) (sizes ++ [deltaSize]) := by
  have array : (if chunk.size < kMaxVectorCapacity then chunk.deltaSizes ++ [deltaSize]
      else chunk.deltaSizes) = (sizes ++ [deltaSize]).take kMaxVectorCapacity := by
    rw [collects.size, collects.array]
    split
    · rename_i few
      rw [List.take_of_length_le few.le, List.take_of_length_le]
      rw [List.length_append, List.length_singleton]
      exact few
    · next full => rw [List.take_append_of_le_length (Nat.le_of_not_lt full)]
  have head : ((sizes ++ [deltaSize]).take kMaxVectorCapacity).getD 0 0 =
      (sizes ++ [deltaSize]).getD 0 0 := by
    cases sizes <;> rfl
  have allSame : (chunk.add deltaSize).allSame = true ↔
      ∀ other ∈ sizes ++ [deltaSize], other = (sizes ++ [deltaSize]).getD 0 0 := by
    simp only [LastChunk.add, array, head, Bool.and_eq_true, beq_iff_eq, collects.allSame,
      getD_append_singleton, List.mem_append, List.mem_singleton]
    by_cases none : sizes = []
    · simp [none]
    · simp only [none, if_false]
      constructor
      · rintro ⟨constant, last⟩ other (earlier | rfl)
        · exact constant other earlier
        · exact last
      · intro constant
        exact ⟨fun other earlier => constant other (.inl earlier), constant _ (.inr rfl)⟩
  refine ⟨?_, ?_, allSame, ?_, ?_, ?_⟩
  · simpa [LastChunk.add] using array
  · simp [LastChunk.add, collects.size]
  · simp only [LastChunk.add, Bool.or_eq_true, beq_iff_eq, collects.hasLargeDelta, List.mem_append,
      List.mem_singleton]
    exact or_congr_right eq_comm
  · intro other member
    rcases List.mem_append.mp member with earlier | last
    · exact collects.small other earlier
    · exact (List.mem_singleton.mp last) ▸ small
  · simp only [canAdd, Bool.or_eq_true, Bool.and_eq_true, decide_eq_true_eq, bne_iff_ne,
      Bool.not_eq_true', beq_iff_eq, collects.size] at can
    rw [List.length_append, List.length_singleton]
    rcases can with (few | ⟨⟨several, noLarge⟩, notLarge⟩) | ⟨⟨run, same⟩, equal⟩
    · exact .inl few
    · refine .inr (.inl ⟨several, ?_⟩)
      have absent : kLarge ∉ sizes := by
        rw [← collects.hasLargeDelta]
        simp [noLarge]
      simp [absent, Ne.symm notLarge]
    · refine .inr (.inr ⟨run, ?_⟩)
      rw [collects.getD_zero] at equal
      rw [allSame]
      have constant := collects.allSame.mp same
      intro other member
      rw [getD_append_singleton]
      rcases List.mem_append.mp member with earlier | last
      · rw [if_neg (List.ne_nil_of_mem earlier)]
        exact constant other earlier
      · rw [List.mem_singleton.mp last]
        split
        · rfl
        · exact equal.symm

theorem Collects.length_le : sizes.length ≤ kMaxRunLengthCapacity := by
  rcases collects.fits with few | ⟨several, -⟩ | ⟨run, -⟩
  · exact few.trans (by decide)
  · exact several.trans (by decide)
  · exact run

/-- A chunk of a single run is encoded and decoded. -/
theorem Collects.decode_encodeRunLength (same : chunk.allSame)
    (some : sizes ≠ []) {maxSize : Nat} (enough : sizes.length ≤ maxSize) :
    (decode chunk.encodeRunLength maxSize).content = sizes := by
  have constant := collects.allSame.mp same
  have positive : 0 < sizes.length := List.length_pos_iff.mpr some
  have first : sizes.getD 0 0 ∈ sizes := by
    obtain ⟨head, tail, rfl⟩ := List.exists_cons_of_ne_nil some
    exact List.mem_cons_self
  rw [encodeRunLength, collects.getD_zero, collects.size,
    decode_runLength (collects.small _ first) positive collects.length_le enough]
  exact (eq_replicate_of_constant constant).symm

/-- Without a large size, every size is one bit. -/
theorem Collects.oneBit (noLarge : kLarge ∉ sizes) : ∀ deltaSize ∈ sizes, deltaSize < 2 ^ 1 := by
  intro other member
  have bound := collects.small other member
  have different : other ≠ kLarge := fun same => noLarge (same ▸ member)
  unfold kLarge at bound different
  omega

theorem Collects.twoBit : ∀ deltaSize ∈ sizes, deltaSize < 2 ^ 2 := by
  intro other member
  have bound := collects.small other member
  unfold kLarge at bound
  omega

/-- Beyond two-bit capacity, a mixed chunk has no large size. -/
theorem Collects.noLarge_of_length (different : ¬ chunk.allSame)
    (many : kMaxTwoBitCapacity < sizes.length) : kLarge ∉ sizes := by
  rcases collects.fits with few | ⟨-, noLarge⟩ | ⟨-, same⟩
  · omega
  · exact noLarge
  · exact absurd same different

/-- The word of the last chunk is decoded to its content. -/
theorem Collects.decode_encodeLast (some : sizes ≠ []) :
    (decode chunk.encodeLast sizes.length).content = sizes := by
  unfold encodeLast
  by_cases same : chunk.allSame
  · rw [if_pos same]
    exact collects.decode_encodeRunLength same some le_rfl
  · rw [if_neg same, encodeTwoBit, encodeOneBit, collects.deltaSizes_eq same, collects.size,
      List.take_length]
    split
    · next few => exact decode_twoBit (Nat.min_eq_right few) collects.twoBit
    · rename_i many
      exact decode_oneBit (Nat.min_eq_right (collects.length_le_of_not_allSame same))
        (collects.oneBit (collects.noLarge_of_length same (Nat.lt_of_not_le many)))

/-- A chunk that refuses a size is emitted in part or as a whole, and then takes it. -/
theorem Collects.emit (full : chunk.canAdd deltaSize = false) :
    ∃ emitted rest, sizes = emitted ++ rest ∧ emitted ≠ [] ∧
      (∀ maxSize, emitted.length ≤ maxSize → (decode chunk.emit.1 maxSize).content = emitted) ∧
      Collects chunk.emit.2 rest ∧ chunk.emit.2.canAdd deltaSize := by
  have many : kMaxTwoBitCapacity ≤ sizes.length := by
    simp only [canAdd, Bool.or_eq_false_iff, decide_eq_false_iff_not, collects.size] at full
    omega
  have some : sizes ≠ [] := List.ne_nil_of_length_pos (lt_of_lt_of_le (by decide) many)
  unfold LastChunk.emit
  by_cases same : chunk.allSame
  · rw [if_pos same]
    exact ⟨sizes, [], (List.append_nil _).symm, some,
      fun maxSize enough => collects.decode_encodeRunLength same some enough, collects_empty, rfl⟩
  · have array := collects.deltaSizes_eq same
    have fewer := collects.length_le_of_not_allSame same
    rw [if_neg same]
    by_cases whole : chunk.size = kMaxOneBitCapacity
    · have length : sizes.length = kMaxOneBitCapacity := collects.size ▸ whole
      rw [if_pos whole]
      refine ⟨sizes, [], (List.append_nil _).symm, some, fun maxSize enough => ?_, collects_empty,
        rfl⟩
      rw [encodeOneBit, array, collects.size, List.take_length]
      refine decode_oneBit (by omega) (collects.oneBit (collects.noLarge_of_length same ?_))
      rw [length]
      decide
    · rw [if_neg whole]
      have short : (sizes.drop kMaxTwoBitCapacity).length < kMaxTwoBitCapacity := by
        rw [collects.size] at whole
        rw [List.length_drop]
        unfold kMaxVectorCapacity kMaxOneBitCapacity at *
        unfold kMaxTwoBitCapacity at *
        omega
      have front : (sizes.take kMaxTwoBitCapacity).length = kMaxTwoBitCapacity :=
        List.length_take_of_le many
      refine ⟨sizes.take kMaxTwoBitCapacity, sizes.drop kMaxTwoBitCapacity,
        (List.take_append_drop _ _).symm, List.ne_nil_of_length_pos (by rw [front]; decide),
        fun maxSize enough => ?_, ⟨?_, ?_, ?_, ?_, ?_, .inl short.le⟩, ?_⟩
      · rw [encodeTwoBit, array]
        exact decode_twoBit (by omega) fun other member =>
          collects.twoBit other (List.mem_of_mem_take member)
      · rw [array]
        exact (List.take_of_length_le (short.le.trans (by decide))).symm
      · simp [collects.size]
      · simp [array]
      · simp only [array, List.any_eq_true, beq_iff_eq, exists_eq_right]
      · exact fun other member => collects.small other (List.mem_of_mem_drop member)
      · rw [List.length_drop, ← collects.size] at short
        simp [canAdd, short]

theorem Collects.encodeRunLength_lt : chunk.encodeRunLength < 2 ^ 16 := by
  have first : sizes.getD 0 0 ≤ kLarge := by
    cases sizes with
    | nil => decide
    | cons head tail => exact collects.small head List.mem_cons_self
  have length := collects.length_le
  unfold kLarge at first
  unfold kMaxRunLengthCapacity at length
  rw [encodeRunLength, collects.getD_zero, collects.size,
    ← Nat.shiftLeft_add_eq_or_of_lt (by omega), Nat.shiftLeft_eq]
  omega

theorem Collects.encodeTwoBit_lt (different : ¬ chunk.allSame)
    {size : Nat} (few : size ≤ kMaxTwoBitCapacity) : chunk.encodeTwoBit size < 2 ^ 16 := by
  rw [encodeTwoBit, collects.deltaSizes_eq different]
  exact packFields_lt (fun other member => collects.twoBit other (List.mem_of_mem_take member))
    ((List.length_take_le _ _).trans few) (by decide) (by decide)

theorem Collects.encodeOneBit_lt (different : ¬ chunk.allSame)
    (many : kMaxTwoBitCapacity < sizes.length) : chunk.encodeOneBit < 2 ^ 16 := by
  rw [encodeOneBit, collects.deltaSizes_eq different, collects.size, List.take_length]
  exact packFields_lt (collects.oneBit (collects.noLarge_of_length different many))
    (collects.length_le_of_not_allSame different) (by decide) (by decide)

/-- The word of the last chunk has 16 bits. -/
theorem Collects.encodeLast_lt : chunk.encodeLast < 2 ^ 16 := by
  unfold encodeLast
  split
  · exact collects.encodeRunLength_lt
  · rename_i different
    split
    · next few => exact collects.encodeTwoBit_lt different few
    · rename_i many
      exact collects.encodeOneBit_lt different (collects.size ▸ Nat.lt_of_not_le many)

/-- An emitted word has 16 bits. -/
theorem Collects.emit_lt : chunk.emit.1 < 2 ^ 16 := by
  unfold LastChunk.emit
  split
  · exact collects.encodeRunLength_lt
  · rename_i different
    split
    · rename_i whole
      refine collects.encodeOneBit_lt different ?_
      rw [← collects.size, whole]
      decide
    · exact collects.encodeTwoBit_lt different le_rfl

end Collecting

end LastChunk

end MpWebRtc
