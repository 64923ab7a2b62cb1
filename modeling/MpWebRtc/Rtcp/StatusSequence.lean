import Mathlib.Data.List.Induction
import Mathlib.Tactic.IntervalCases
import Mathlib.Tactic.SplitIfs
import MpWebRtc.Rtcp.StatusChunk

/-!
# Sequences of status chunks

`AddDeltaSize` adds one size after the other to the last chunk, and emits a word where the chunk
does not take the next one. Whatever the sizes are, no assertion of `LastChunk` fails on the way,
and the words say them again: each is decoded with the number of sizes that are still to come, and
what a word leaves out is in the next one.
-/

namespace MpWebRtc

namespace LastChunk

/-- The assertions of `EncodeRunLength`. -/
def runLengthAsserted (chunk : LastChunk) : Bool :=
  chunk.allSame && decide (chunk.size ≤ kMaxRunLengthCapacity)

/-- The assertions of `EncodeOneBit`. -/
def oneBitAsserted (chunk : LastChunk) : Bool :=
  !chunk.hasLargeDelta && decide (chunk.size ≤ kMaxOneBitCapacity)

/-- The assertion of `EncodeTwoBit`. -/
def twoBitAsserted (chunk : LastChunk) (size : Nat) : Bool := decide (size ≤ chunk.size)

/-- The assertions of `Emit`, with those of what it calls. -/
def emitAsserted (chunk : LastChunk) : Bool :=
  (!chunk.canAdd 0 || !chunk.canAdd 1 || !chunk.canAdd 2) &&
    if chunk.allSame then chunk.runLengthAsserted
    else if chunk.size = kMaxOneBitCapacity then chunk.oneBitAsserted
    else decide (kMaxTwoBitCapacity ≤ chunk.size) && chunk.twoBitAsserted kMaxTwoBitCapacity

/-- The assertions of `EncodeLast`, with those of what it calls. -/
def encodeLastAsserted (chunk : LastChunk) : Bool :=
  decide (0 < chunk.size) &&
    if chunk.allSame then chunk.runLengthAsserted
    else if chunk.size ≤ kMaxTwoBitCapacity then chunk.twoBitAsserted chunk.size
    else chunk.oneBitAsserted

variable (fed : LastChunk × List Nat)

/-- The last chunk and the words in front of it after one more size, as `AddDeltaSize` adds it;
none where an assertion fails. -/
def feed (deltaSize : Nat) : Option (LastChunk × List Nat) :=
  if kLarge < deltaSize then none
  else if fed.1.canAdd deltaSize then some (fed.1.add deltaSize, fed.2)
  else if fed.1.emitAsserted then
    let emitted := fed.1.emit
    if emitted.2.canAdd deltaSize then
      some (emitted.2.add deltaSize, fed.2 ++ [emitted.1])
    else none
  else none

/-- All sizes of a sequence. -/
def feedAll (deltaSizes : List Nat) : Option (LastChunk × List Nat) :=
  deltaSizes.foldlM feed ({}, [])

/-- The words of a sequence, with the last chunk unless it is empty. -/
def words : List Nat :=
  fed.2 ++ if fed.1.empty then [] else [fed.1.encodeLast]

/-- The sizes that words say, each decoded with the number of sizes that remain. -/
def decodeChunks : (chunks : List Nat) → (maxSize : Nat) → List Nat
  | [], _ => []
  | chunk :: chunks, maxSize =>
      let deltaSizes := (decode chunk maxSize).content
      deltaSizes ++ decodeChunks chunks (maxSize - deltaSizes.length)

variable {chunk : LastChunk} {sizes : List Nat} {deltaSize : Nat}

section

variable (collects : Collects chunk sizes)
include collects

/-- A chunk of one size can be encoded as a run. -/
theorem Collects.runLengthAsserted (same : chunk.allSame) : chunk.runLengthAsserted = true := by
  unfold LastChunk.runLengthAsserted
  rw [same, Bool.true_and, decide_eq_true_eq, collects.size]
  exact collects.length_le

/-- A chunk of several sizes that is too long for two bits each can be encoded with one. -/
theorem Collects.oneBitAsserted (different : ¬ chunk.allSame)
    (many : kMaxTwoBitCapacity < sizes.length) : chunk.oneBitAsserted = true := by
  have noLarge : ¬ chunk.hasLargeDelta = true :=
    fun large => collects.noLarge_of_length different many (collects.hasLargeDelta.mp large)
  unfold LastChunk.oneBitAsserted
  rw [Bool.eq_false_iff.mpr noLarge, Bool.not_false, Bool.true_and, decide_eq_true_eq,
    collects.size]
  exact collects.length_le_of_not_allSame different

/-- A chunk that refuses a size can be emitted. -/
theorem Collects.emitAsserted (small : deltaSize ≤ kLarge)
    (full : chunk.canAdd deltaSize = false) : chunk.emitAsserted = true := by
  have refuses : (!chunk.canAdd 0 || !chunk.canAdd 1 || !chunk.canAdd 2) = true := by
    unfold kLarge at small
    interval_cases deltaSize <;> rw [full] <;> simp
  have many : kMaxTwoBitCapacity ≤ sizes.length := by
    simp only [canAdd, Bool.or_eq_false_iff, decide_eq_false_iff_not, collects.size] at full
    omega
  unfold LastChunk.emitAsserted
  rw [refuses, Bool.true_and]
  split_ifs with same whole
  · exact collects.runLengthAsserted same
  · refine collects.oneBitAsserted same ?_
    rw [← collects.size, whole]
    decide
  · unfold twoBitAsserted
    rw [collects.size]
    simpa using many

/-- A chunk with a size can be the last one. -/
theorem Collects.encodeLastAsserted (some : sizes ≠ []) : chunk.encodeLastAsserted = true := by
  have positive : 0 < sizes.length := List.length_pos_iff.mpr some
  unfold LastChunk.encodeLastAsserted
  rw [collects.size, decide_eq_true positive, Bool.true_and]
  split_ifs with same few
  · exact collects.runLengthAsserted same
  · unfold twoBitAsserted
    rw [collects.size]
    exact decide_eq_true le_rfl
  · exact collects.oneBitAsserted same (Nat.lt_of_not_le few)

end

/-- The words say the sizes in front of those that the last chunk has collected. -/
structure Spells (fed : LastChunk × List Nat) (sizes : List Nat) : Prop where
  holds : ∃ front last, sizes = front ++ last ∧ fed.1.Collects last ∧ (sizes ≠ [] → last ≠ []) ∧
    ∀ chunks more, decodeChunks (fed.2 ++ chunks) (front.length + more) =
      front ++ decodeChunks chunks more

theorem spells_nothing : Spells ({}, []) [] :=
  ⟨[], [], rfl, collects_empty, fun some => absurd rfl some, fun chunks more => by simp⟩

/-- One more size. -/
theorem Spells.feed {fed : LastChunk × List Nat} (spells : Spells fed sizes)
    (small : deltaSize ≤ kLarge) :
    ∃ next, feed fed deltaSize = some next ∧ Spells next (sizes ++ [deltaSize]) := by
  obtain ⟨front, last, rfl, collects, nonempty, decodes⟩ := spells
  unfold LastChunk.feed
  rw [if_neg (Nat.not_lt.mpr small)]
  by_cases can : fed.1.canAdd deltaSize
  · rw [if_pos can]
    exact ⟨_, rfl, front, last ++ [deltaSize], List.append_assoc _ _ _, collects.add small can,
      fun _ => List.concat_ne_nil _ _, decodes⟩
  · have full : fed.1.canAdd deltaSize = false := Bool.eq_false_iff.mpr can
    obtain ⟨emitted, rest, rfl, some, decodesEmitted, remaining, takes⟩ := collects.emit full
    rw [if_neg can, if_pos (collects.emitAsserted small full)]
    dsimp only
    rw [if_pos takes]
    refine ⟨_, rfl, front ++ emitted, rest ++ [deltaSize], ?_, remaining.add small takes,
      fun _ => List.concat_ne_nil _ _, fun chunks more => ?_⟩
    · simp only [List.append_assoc]
    · have total : (front ++ emitted).length + more = front.length + (emitted.length + more) := by
        rw [List.length_append, Nat.add_assoc]
      rw [total, List.append_assoc, decodes, List.singleton_append, decodeChunks,
        decodesEmitted _ (Nat.le_add_right _ _), Nat.add_sub_cancel_left, List.append_assoc]

/-- All sizes. -/
theorem spells_feedAll (sizes : List Nat) (small : ∀ deltaSize ∈ sizes, deltaSize ≤ kLarge) :
    ∃ fed, feedAll sizes = some fed ∧ Spells fed sizes := by
  induction sizes using List.reverseRecOn with
  | nil => exact ⟨_, rfl, spells_nothing⟩
  | append_singleton sizes deltaSize ih =>
      obtain ⟨fed, reached, spells⟩ := ih fun other member =>
        small other (List.mem_append_left _ member)
      obtain ⟨next, more, spellsNext⟩ := spells.feed (small deltaSize (by simp))
      refine ⟨next, ?_, spellsNext⟩
      unfold feedAll at reached ⊢
      rw [List.foldlM_append, reached]
      show (LastChunk.feed fed deltaSize >>= pure) = some next
      rw [more]
      rfl

/-- **The words of a sequence of sizes are decoded to the sequence**, and no assertion fails while
they are made: a chunk that is emitted can be, and takes the next size, and the last one can be
encoded. -/
theorem decodeChunks_words (sizes : List Nat) (small : ∀ deltaSize ∈ sizes, deltaSize ≤ kLarge) :
    ∃ fed, feedAll sizes = some fed ∧ (sizes ≠ [] → fed.1.encodeLastAsserted = true) ∧
      decodeChunks (words fed) sizes.length = sizes := by
  obtain ⟨fed, reached, front, last, rfl, collects, nonempty, decodes⟩ := spells_feedAll sizes small
  refine ⟨fed, reached, fun some => collects.encodeLastAsserted (nonempty some), ?_⟩
  unfold words
  rw [List.length_append, decodes]
  by_cases nothing : last = []
  · rw [nothing] at collects ⊢
    have empty : fed.1.empty = true := by
      unfold LastChunk.empty
      rw [collects.size]
      rfl
    rw [empty, if_pos rfl]
    rfl
  · have filled : fed.1.empty = false := by
      unfold LastChunk.empty
      rw [collects.size, beq_eq_false_iff_ne]
      exact fun zero => nothing (List.length_eq_zero_iff.mp zero)
    rw [filled, if_neg Bool.false_ne_true, decodeChunks, collects.decode_encodeLast nothing,
      decodeChunks, List.append_nil]

/-- Seven sizes with a large one are emitted in a word before the eighth is added. -/
theorem decodeChunks_words_instance :
    ∃ fed, feedAll [0, 1, 2, 0, 1, 2, 0, 1] = some fed ∧
      ([0, 1, 2, 0, 1, 2, 0, 1] ≠ [] → fed.1.encodeLastAsserted = true) ∧
      decodeChunks (words fed) 8 = [0, 1, 2, 0, 1, 2, 0, 1] :=
  decodeChunks_words [0, 1, 2, 0, 1, 2, 0, 1] (by decide)

end LastChunk

end MpWebRtc
