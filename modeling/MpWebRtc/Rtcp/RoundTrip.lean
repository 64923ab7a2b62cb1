import Mathlib.Data.List.Forall2
import MpWebRtc.Rtcp.TransportFeedback

/-!
# Transport feedback survives the wire

A feedback message under construction records a list of deltas, one for each reported
number: nothing for a lost packet, the ticks since the packet before for a received one.
`TransportFeedback.Records` relates the object to that list: the packets are the deltas
numbered from the base, the chunks encode their sizes, and the size of the message is
accounted for. Adding a packet, successfully or not, extends the list; what `Create`
writes for an object that records a list is read back by `ParseFrom` as that list.
-/

namespace MpWebRtc

open Math.Serial Math.Wire

/-- A word that stands for these sizes wherever that many are expected. -/
structure Carries (word : Nat) (part : List Nat) : Prop where
  some : part ≠ []
  fits : word < 2 ^ 16
  decodes : ∀ maxSize, part.length ≤ maxSize → (LastChunk.decode word maxSize).content = part

/-- The emitted chunks and the last one hold these sizes. -/
structure Encodes (chunks : List Nat) (lastChunk : LastChunk) (sizes : List Nat) : Prop where
  holds : ∃ parts last, List.Forall₂ Carries chunks parts ∧ lastChunk.Collects last ∧
    parts.flatten ++ last = sizes ∧ (last = [] → sizes = [])

namespace TransportFeedback

/-- The size of a status. -/
def statusSize : (delta : Option Int) → Nat
  | none => 0
  | some delta => deltaSize delta

/-- The bytes of a status. -/
def statusBytes : (delta : Option Int) → List UInt8
  | none => []
  | some delta => deltaBytes delta

/-- The statuses with these deltas, numbered from a base. -/
def numberFrom : (seqNo : UInt16) → (deltas : List (Option Int)) → List FeedbackPacket
  | _, [] => []
  | seqNo, delta :: deltas => ⟨seqNo, delta⟩ :: numberFrom (seqNo + 1) deltas

/-- The words that the chunks of a message take. -/
def chunkCount (chunks : List Nat) (lastChunk : LastChunk) : Nat :=
  chunks.length + if lastChunk.empty then 0 else 1

/-- The message holds these deltas, whether it includes timestamps and losses or not. -/
structure Holds (fb : TransportFeedback) (deltas : List (Option Int)) : Prop where
  received : fb.receivedPackets = (numberFrom fb.baseSeqNo deltas).filter (·.received)
  count : fb.numSeqNo = deltas.length
  few : deltas.length ≤ kMaxReportedPackets
  encodes : Encodes fb.encodedChunks fb.lastChunk (deltas.map statusSize)
  size : fb.sizeBytes = kTransportFeedbackHeaderSizeBytes +
    kChunkSizeBytes * chunkCount fb.encodedChunks fb.lastChunk +
      if fb.includeTimestamps then (deltas.map statusSize).sum else 0
  room : fb.sizeBytes ≤ kMaxSizeBytes

/-- The message records these deltas. -/
structure Records (fb : TransportFeedback) (deltas : List (Option Int)) : Prop where
  includeTimestamps : fb.includeTimestamps = true
  includeLost : fb.includeLost = true
  packets : fb.allPackets = numberFrom fb.baseSeqNo deltas
  received : fb.receivedPackets = (numberFrom fb.baseSeqNo deltas).filter (·.received)
  count : fb.numSeqNo = deltas.length
  few : deltas.length ≤ kMaxReportedPackets
  encodes : Encodes fb.encodedChunks fb.lastChunk (deltas.map statusSize)
  size : fb.sizeBytes = kTransportFeedbackHeaderSizeBytes +
    kChunkSizeBytes * chunkCount fb.encodedChunks fb.lastChunk + (deltas.map statusSize).sum
  room : fb.sizeBytes ≤ kMaxSizeBytes
  ticks : ∀ delta, some delta ∈ deltas → -32768 ≤ delta ∧ delta < 32768

end TransportFeedback

section Adding

namespace TransportFeedback

variable {fb : TransportFeedback} {deltas : List (Option Int)}

theorem deltaSize_le (delta : Int) : deltaSize delta ≤ kLarge := by
  unfold deltaSize
  split <;> decide

theorem numberFrom_append_singleton (seqNo : UInt16) (deltas : List (Option Int))
    (delta : Option Int) :
    numberFrom seqNo (deltas ++ [delta]) =
      numberFrom seqNo deltas ++ [⟨seqNo + UInt16.ofNat deltas.length, delta⟩] := by
  induction deltas generalizing seqNo with
  | nil => simp [numberFrom]
  | cons first deltas ih =>
      have next : seqNo + 1 + UInt16.ofNat deltas.length =
          seqNo + UInt16.ofNat (deltas.length + 1) := by
        rw [UInt16.ofNat_add, UInt16.add_assoc, UInt16.add_comm 1]
        rfl
      rw [List.cons_append, numberFrom, ih, numberFrom, next, List.length_cons, List.cons_append]

variable {sizes : List Nat}

theorem empty_iff {chunk : LastChunk} (collects : chunk.Collects sizes) :
    chunk.empty = true ↔ sizes = [] := by
  unfold LastChunk.empty
  rw [collects.size, beq_iff_eq, List.length_eq_zero_iff]

variable {next : TransportFeedback}

/-- `AddDeltaSize` encodes one more size, and keeps the message small enough for it. -/
theorem addDeltaSize_spec {size : Nat}
    (encodes : Encodes fb.encodedChunks fb.lastChunk sizes) (small : size ≤ kLarge)
    (added : fb.addDeltaSize size = some next) :
    fb.numSeqNo ≠ kMaxReportedPackets ∧ next.sizeBytes + size ≤ kMaxSizeBytes ∧
      Encodes next.encodedChunks next.lastChunk (sizes ++ [size]) ∧
      next.sizeBytes + kChunkSizeBytes * chunkCount fb.encodedChunks fb.lastChunk =
        fb.sizeBytes + kChunkSizeBytes * chunkCount next.encodedChunks next.lastChunk ∧
      ∃ chunks lastChunk sizeBytes, next =
        { fb with
          encodedChunks := chunks
          lastChunk := lastChunk
          sizeBytes := sizeBytes
          numSeqNo := fb.numSeqNo + 1 } := by
  obtain ⟨parts, last, carried, collects, whole, none⟩ := encodes.holds
  unfold addDeltaSize at added
  split at added
  · cases added
  next open' =>
  extract_lets addChunkSize at added
  split at added
  · cases added
  next fits =>
  split at added
  next can =>
    obtain rfl := Option.some.inj added
    have collected := collects.add small can
    have filled : (fb.lastChunk.add size).empty = false := by
      rw [Bool.eq_false_iff, Ne, empty_iff collected]
      simp
    refine ⟨open', by simp only; omega, ⟨⟨parts, _, carried, collected, ?_, by simp⟩⟩, ?_,
      _, _, _, rfl⟩
    · rw [← List.append_assoc, whole]
    · simp only [chunkCount, filled, Bool.false_eq_true, if_false]
      unfold addChunkSize kChunkSizeBytes
      split <;> omega
  next cannot =>
    split at added
    · cases added
    next fits' =>
    obtain rfl := Option.some.inj added
    obtain ⟨emitted, rest, split, some, decodes, remaining, can⟩ :=
      collects.emit (Bool.eq_false_iff.mpr cannot)
    have collected := remaining.add small can
    have filled : (fb.lastChunk.emit.2.add size).empty = false := by
      rw [Bool.eq_false_iff, Ne, empty_iff collected]
      simp
    have occupied : fb.lastChunk.empty = false := by
      rw [Bool.eq_false_iff, Ne, empty_iff collects, split]
      simp [some]
    refine ⟨open', by simp only; omega, ⟨⟨parts ++ [emitted], _, ?_, collected, ?_, by simp⟩⟩, ?_,
      _, _, _, rfl⟩
    · exact List.rel_append carried (.cons ⟨some, collects.emit_lt, decodes⟩ .nil)
    · rw [← whole, split]
      simp
    · simp only [chunkCount, filled, occupied, Bool.false_eq_true, if_false, List.length_append,
        List.length_singleton]
      unfold kChunkSizeBytes
      omega

/-- A status that is encoded is then listed, and the bytes of its delta are counted. -/
def listed (fb : TransportFeedback) (seqNo : UInt16) (delta : Option Int) : TransportFeedback :=
  { fb with
    receivedPackets := fb.receivedPackets ++ [⟨seqNo, delta⟩].filter (·.received)
    allPackets := if fb.includeLost then fb.allPackets ++ [⟨seqNo, delta⟩] else fb.allPackets
    lastTimestampUs := fb.lastTimestampUs + delta.getD 0 * kDeltaScaleFactor
    sizeBytes := if fb.includeTimestamps then fb.sizeBytes + statusSize delta else fb.sizeBytes }

/-- The next message has one status more. -/
def Adds (fb : TransportFeedback) (delta : Option Int) (next : TransportFeedback) : Prop :=
  ∃ encoded, fb.addDeltaSize (statusSize delta) = some encoded ∧
    next = encoded.listed (fb.baseSeqNo + UInt16.ofNat fb.numSeqNo) delta

/-- The next message has these lost packets more. -/
inductive Skips : (fb : TransportFeedback) → (lost : Nat) → (next : TransportFeedback) → Prop
  | done (fb : TransportFeedback) : Skips fb 0 fb
  | more {fb further next : TransportFeedback} {lost : Nat} :
      fb.Adds none further → Skips further lost next → Skips fb (lost + 1) next

theorem Adds.frame {delta : Option Int} (adds : fb.Adds delta next) :
    next.heading = fb.heading ∧ next.includeTimestamps = fb.includeTimestamps ∧
      next.includeLost = fb.includeLost ∧ next.numSeqNo = fb.numSeqNo + 1 := by
  obtain ⟨encoded, added, rfl⟩ := adds
  obtain ⟨_, _, _, -, rfl⟩ := eq_of_addDeltaSize added
  exact ⟨rfl, rfl, rfl, rfl⟩

theorem Skips.frame {lost : Nat} {next : TransportFeedback} (skips : fb.Skips lost next) :
    next.heading = fb.heading ∧ next.includeTimestamps = fb.includeTimestamps ∧
      next.includeLost = fb.includeLost ∧ next.numSeqNo = fb.numSeqNo + lost := by
  induction skips with
  | done => exact ⟨rfl, rfl, rfl, rfl⟩
  | more adds _ ih =>
      obtain ⟨heading, timestamps, lost, count⟩ := adds.frame
      obtain ⟨heading', timestamps', lost', count'⟩ := ih
      refine ⟨heading'.trans heading, timestamps'.trans timestamps, lost'.trans lost, ?_⟩
      omega

/-- The loop over the skipped numbers adds them one by one, as long as it can. -/
theorem addLost_skips (count : Nat) (fb : TransportFeedback) {nextSeqNo : UInt16}
    (turn : nextSeqNo = fb.baseSeqNo + UInt16.ofNat fb.numSeqNo) :
    ∃ lost, fb.Skips lost (addLost count fb nextSeqNo).1 ∧
      ((addLost count fb nextSeqNo).2 = true → lost = count) := by
  induction count generalizing fb nextSeqNo with
  | zero => exact ⟨0, .done fb, fun _ => rfl⟩
  | succ count ih =>
      unfold addLost
      cases added : fb.addDeltaSize 0 with
      | none => exact ⟨0, .done fb, fun success => absurd success Bool.false_ne_true⟩
      | some encoded =>
          dsimp only
          have adds : fb.Adds none { encoded with allPackets :=
              if encoded.includeLost then encoded.allPackets ++ [⟨nextSeqNo, none⟩]
              else encoded.allPackets } := by
            refine ⟨encoded, added, ?_⟩
            simp [listed, FeedbackPacket.received, statusSize, turn]
          obtain ⟨heading, -, -, counted⟩ := adds.frame
          have base : encoded.baseSeqNo = fb.baseSeqNo :=
            congrArg (fun heading => heading.2.2.2.1) heading
          have after : nextSeqNo + 1 = encoded.baseSeqNo + UInt16.ofNat encoded.numSeqNo := by
            rw [base, show encoded.numSeqNo = fb.numSeqNo + 1 from counted, turn, UInt16.ofNat_add,
              UInt16.add_assoc]
            rfl
          obtain ⟨lost, skips, all⟩ := ih { encoded with allPackets :=
            if encoded.includeLost then encoded.allPackets ++ [⟨nextSeqNo, none⟩]
            else encoded.allPackets } after
          exact ⟨lost + 1, .more adds skips, fun success => congrArg (· + 1) (all success)⟩

/-- `AddReceivedPacket` adds skipped numbers, and when it succeeds the packet after them. -/
theorem addReceivedPacket_adds (fb : TransportFeedback) (sequenceNumber : UInt16)
    (timestampUs : Int) :
    ∃ lost next, fb.Skips lost next ∧
      (fb.addReceivedPacket sequenceNumber timestampUs = (next, false) ∨
        ∃ delta final, fb.deltaTicks timestampUs = some delta ∧
          sequenceNumber = next.baseSeqNo + UInt16.ofNat next.numSeqNo ∧
          next.Adds (some delta) final ∧
          fb.addReceivedPacket sequenceNumber timestampUs = (final, true)) := by
  unfold addReceivedPacket
  cases measured : fb.deltaTicks timestampUs with
  | none => exact ⟨0, fb, .done fb, .inl rfl⟩
  | some delta =>
      extract_lets nextSeqNo filled
      have fill : ∃ lost, fb.Skips lost filled.1 ∧ (filled.2 = true →
          sequenceNumber = filled.1.baseSeqNo + UInt16.ofNat filled.1.numSeqNo) := by
        unfold filled
        split
        next turn => exact ⟨0, .done fb, fun _ => turn⟩
        split
        · have turn : nextSeqNo = fb.baseSeqNo + UInt16.ofNat fb.numSeqNo := rfl
          obtain ⟨lost, skips, all⟩ :=
            addLost_skips (forwardDiff nextSeqNo sequenceNumber).toNat fb turn
          refine ⟨lost, skips, fun success => ?_⟩
          obtain ⟨heading, -, -, count⟩ := skips.frame
          have base : (addLost (forwardDiff nextSeqNo sequenceNumber).toNat fb
              nextSeqNo).1.baseSeqNo = fb.baseSeqNo :=
            congrArg (fun heading => heading.2.2.2.1) heading
          rw [base, count, all success, UInt16.ofNat_add, UInt16.ofNat_toNat, forwardDiff]
          grind
        · exact ⟨0, .done fb, fun impossible => absurd impossible Bool.false_ne_true⟩
      obtain ⟨lost, skips, turn⟩ := fill
      refine ⟨lost, filled.1, skips, ?_⟩
      cases success : filled.2 with
      | false => exact .inl (Prod.ext rfl success)
      | true =>
          cases added : filled.1.addDeltaSize (deltaSize delta) with
          | none =>
              left
              dsimp only
              rw [if_pos rfl, added]
          | some encoded =>
              refine .inr ⟨delta, _, rfl, turn success, ⟨encoded, added, rfl⟩, ?_⟩
              dsimp only
              rw [if_pos rfl, added]
              simp [listed, FeedbackPacket.received, statusSize, turn success]

theorem statusSize_le (delta : Option Int) : statusSize delta ≤ kLarge := by
  cases delta with
  | none => decide
  | some delta => exact deltaSize_le delta

/-- A message that holds deltas holds those added to it. -/
theorem Holds.adds (holds : Holds fb deltas) {delta : Option Int} {next : TransportFeedback}
    (adds : fb.Adds delta next) : Holds next (deltas ++ [delta]) := by
  obtain ⟨encoded, added, rfl⟩ := adds
  obtain ⟨below, room, encodes, accounted, _, _, _, rfl⟩ :=
    addDeltaSize_spec holds.encodes (statusSize_le delta) added
  have few := holds.few
  have size := holds.size
  have count := holds.count
  refine ⟨?_, ?_, ?_, ?_, ?_, ?_⟩
  · simp only [listed, holds.received, count, numberFrom_append_singleton, List.filter_append]
  · simp only [listed, count, List.length_append, List.length_singleton]
  · rw [count] at below
    rw [List.length_append, List.length_singleton]
    omega
  · rw [List.map_append]
    exact encodes
  · simp only [listed, List.map_append, List.sum_append, List.map_singleton,
      List.sum_singleton] at accounted ⊢
    split <;> simp_all <;> omega
  · simp only [listed] at room ⊢
    split <;> omega

/-- The message after calls to `AddReceivedPacket`, whether they succeed or not. -/
def addReceivedPackets (fb : TransportFeedback) (calls : List (UInt16 × Int)) : TransportFeedback :=
  calls.foldl (fun fb call => (fb.addReceivedPacket call.1 call.2).1) fb

theorem Skips.deltaTicks_eq {lost : Nat} (skips : fb.Skips lost next)
    (timestampUs : Int) : next.deltaTicks timestampUs = fb.deltaTicks timestampUs := by
  induction skips with
  | done => rfl
  | more adds _ ih =>
      rw [ih]
      obtain ⟨encoded, added, rfl⟩ := adds
      obtain ⟨_, _, _, -, rfl⟩ := eq_of_addDeltaSize added
      simp [deltaTicks, listed]

section Rule

variable {motive : TransportFeedback → List (Option Int) → Prop}
  (lost : ∀ {fb next : TransportFeedback} {deltas : List (Option Int)},
    motive fb deltas → fb.Adds none next → motive next (deltas ++ [none]))
  (received : ∀ {fb next : TransportFeedback} {deltas : List (Option Int)} {timestampUs delta : Int},
    motive fb deltas → fb.deltaTicks timestampUs = some delta → fb.Adds (some delta) next →
      motive next (deltas ++ [some delta]))

include lost

theorem Skips.rule {skipped : Nat} {next : TransportFeedback} (skips : fb.Skips skipped next)
    (initial : motive fb deltas) : motive next (deltas ++ List.replicate skipped none) := by
  induction skips generalizing deltas with
  | done => simpa using initial
  | more adds _ ih =>
      rw [List.replicate_succ, List.append_cons]
      exact ih (lost initial adds)

include received

/-- What a lost packet and a received packet preserve, `AddReceivedPacket` preserves. -/
theorem addReceivedPacket_rule (initial : motive fb deltas) (sequenceNumber : UInt16)
    (timestampUs : Int) :
    ∃ more, motive (fb.addReceivedPacket sequenceNumber timestampUs).1 (deltas ++ more) := by
  obtain ⟨skipped, next, skips, failed | ⟨delta, final, measured, -, adds, succeeded⟩⟩ :=
    addReceivedPacket_adds fb sequenceNumber timestampUs
  · rw [failed]
    exact ⟨_, skips.rule lost initial⟩
  · rw [succeeded]
    refine ⟨List.replicate skipped none ++ [some delta], ?_⟩
    rw [← List.append_assoc]
    exact received (skips.rule lost initial) ((skips.deltaTicks_eq _).trans measured) adds

/-- What a lost packet and a received packet preserve, any calls preserve. -/
theorem addReceivedPackets_rule (initial : motive fb deltas) (calls : List (UInt16 × Int)) :
    ∃ more, motive (fb.addReceivedPackets calls) (deltas ++ more) := by
  induction calls generalizing fb deltas with
  | nil => exact ⟨[], by rw [List.append_nil]; exact initial⟩
  | cons call calls ih =>
      obtain ⟨first, preserved⟩ := addReceivedPacket_rule lost received initial call.1 call.2
      obtain ⟨more, final⟩ := ih preserved
      exact ⟨first ++ more, by rw [← List.append_assoc]; exact final⟩

end Rule

/-- Any calls leave the heading and the flags alone. -/
theorem addReceivedPackets_frame (fb : TransportFeedback) (calls : List (UInt16 × Int)) :
    (fb.addReceivedPackets calls).heading = fb.heading ∧
      (fb.addReceivedPackets calls).includeTimestamps = fb.includeTimestamps ∧
      (fb.addReceivedPackets calls).includeLost = fb.includeLost := by
  obtain ⟨_, same⟩ := @addReceivedPackets_rule fb []
    (fun next _ => next.heading = fb.heading ∧
      next.includeTimestamps = fb.includeTimestamps ∧ next.includeLost = fb.includeLost)
    (fun same adds => ⟨adds.frame.1.trans same.1, adds.frame.2.1.trans same.2.1,
      adds.frame.2.2.1.trans same.2.2⟩)
    (fun same _ adds => ⟨adds.frame.1.trans same.1, adds.frame.2.1.trans same.2.1,
      adds.frame.2.2.1.trans same.2.2⟩)
    ⟨rfl, rfl, rfl⟩ calls
  exact same

/-- Any calls leave a message that holds a list. -/
theorem Holds.addReceivedPackets (holds : Holds fb deltas) (calls : List (UInt16 × Int)) :
    ∃ more, Holds (fb.addReceivedPackets calls) (deltas ++ more) :=
  addReceivedPackets_rule (fun holds adds => holds.adds adds) (fun holds _ adds => holds.adds adds)
    holds calls

/-- A message with statuses has a chunk. -/
theorem Encodes.chunkCount_pos {chunks : List Nat} {lastChunk : LastChunk}
    (encodes : Encodes chunks lastChunk sizes) (some : sizes ≠ []) :
    0 < chunkCount chunks lastChunk := by
  obtain ⟨parts, last, -, collects, -, none⟩ := encodes.holds
  have filled : lastChunk.empty = false := by
    rw [Bool.eq_false_iff, Ne, empty_iff collects]
    exact fun nothing => some (none nothing)
  simp [chunkCount, filled]

theorem deltaTicks_range {timestampUs delta : Int} (timestamps : fb.includeTimestamps = true)
    (measured : fb.deltaTicks timestampUs = some delta) : -32768 ≤ delta ∧ delta < 32768 := by
  unfold deltaTicks at measured
  rw [if_pos timestamps] at measured
  extract_lets deltaFull deltaWrapped rounding deltaRounded rounded at measured
  split at measured
  · cases measured
  · obtain rfl := Option.some.inj measured
    have below : -(((65536 : Nat) : Int) / 2) ≤ deltaRounded.bmod 65536 := Int.le_bmod (by decide)
    have above : deltaRounded.bmod 65536 < (((65536 : Nat) : Int) + 1) / 2 :=
      Int.bmod_lt (by decide)
    unfold rounded
    omega

theorem Records.holds (records : Records fb deltas) : Holds fb deltas where
  received := records.received
  count := records.count
  few := records.few
  encodes := records.encodes
  size := by
    rw [if_pos records.includeTimestamps]
    exact records.size
  room := records.room

theorem Records.of_holds (holds : Holds fb deltas) (timestamps : fb.includeTimestamps = true)
    (lost : fb.includeLost = true) (packets : fb.allPackets = numberFrom fb.baseSeqNo deltas)
    (ticks : ∀ delta, some delta ∈ deltas → -32768 ≤ delta ∧ delta < 32768) :
    Records fb deltas where
  includeTimestamps := timestamps
  includeLost := lost
  packets := packets
  received := holds.received
  count := holds.count
  few := holds.few
  encodes := holds.encodes
  size := by
    have size := holds.size
    rw [if_pos timestamps] at size
    exact size
  room := holds.room
  ticks := ticks

variable (records : Records fb deltas)
include records

/-- A status that was added is recorded. -/
theorem Records.adds {delta : Option Int}
    (ticks : ∀ ticks, delta = some ticks → -32768 ≤ ticks ∧ ticks < 32768)
    {next : TransportFeedback} (adds : fb.Adds delta next) : Records next (deltas ++ [delta]) := by
  obtain ⟨-, timestamps, lost, -⟩ := adds.frame
  have holds := records.holds.adds adds
  obtain ⟨encoded, added, rfl⟩ := adds
  obtain ⟨_, _, _, -, rfl⟩ := eq_of_addDeltaSize added
  refine .of_holds holds (timestamps.trans records.includeTimestamps)
    (lost.trans records.includeLost) ?_ ?_
  · simp only [listed, records.includeLost, if_true, records.packets, records.count,
      numberFrom_append_singleton]
  · intro other member
    rcases List.mem_append.mp member with earlier | last
    · exact records.ticks other earlier
    · exact ticks other (List.mem_singleton.mp last).symm

/-- Any calls to `AddReceivedPacket` leave a message that records a list. -/
theorem Records.addReceivedPackets (calls : List (UInt16 × Int)) :
    ∃ more, Records (fb.addReceivedPackets calls) (deltas ++ more) ∧
      (fb.addReceivedPackets calls).heading = fb.heading := by
  obtain ⟨more, recorded⟩ := addReceivedPackets_rule (motive := Records)
    (fun records adds => Records.adds records (by simp) adds)
    (fun records measured adds => Records.adds records
      (fun ticks equal => Option.some.inj equal ▸ deltaTicks_range records.includeTimestamps
        measured) adds)
    records calls
  exact ⟨more, recorded, (addReceivedPackets_frame fb calls).1⟩

/-- `AddReceivedPacket` records what it can. -/
theorem Records.addReceivedPacket (sequenceNumber : UInt16) (timestampUs : Int) :
    ∃ more, Records (fb.addReceivedPacket sequenceNumber timestampUs).1 (deltas ++ more) ∧
      (fb.addReceivedPacket sequenceNumber timestampUs).1.heading = fb.heading :=
  records.addReceivedPackets [(sequenceNumber, timestampUs)]

end TransportFeedback

end Adding

section Reading

namespace TransportFeedback

variable {fb : TransportFeedback} {deltas : List (Option Int)} {deltaSizes : List Nat}

theorem readChunks_of_le {statusCount : Nat} (bytes : List UInt8)
    (enough : statusCount ≤ deltaSizes.length) (chunks : List Nat) (lastChunk : LastChunk) :
    readChunks statusCount bytes deltaSizes chunks lastChunk =
      some (deltaSizes, chunks, lastChunk, bytes) := by
  unfold readChunks
  split <;> rw [if_neg (Nat.not_lt.mpr enough)]

/-- One chunk is read and decoded. -/
theorem readChunks_word {statusCount word : Nat} (fits : word < 2 ^ 16)
    (missing : deltaSizes.length < statusCount) (bytes : List UInt8) (chunks : List Nat)
    (lastChunk : LastChunk) :
    readChunks statusCount (writeBigEndian 2 word ++ bytes) deltaSizes chunks lastChunk =
      readChunks statusCount bytes
        (deltaSizes ++ (LastChunk.decode word (statusCount - deltaSizes.length)).content)
        (chunks ++ [word]) (LastChunk.decode word (statusCount - deltaSizes.length)) := by
  have read : readBigEndian (writeBigEndian 2 word) = word := by
    rw [readBigEndian_writeBigEndian, show 256 ^ 2 = 2 ^ 16 from rfl, Nat.mod_eq_of_lt fits]
  change readChunks statusCount (UInt8.ofNat (word / 256 ^ 1) :: UInt8.ofNat (word / 256 ^ 0) ::
    bytes) deltaSizes chunks lastChunk = _
  rw [readChunks, if_pos missing]
  dsimp only
  rw [show [UInt8.ofNat (word / 256 ^ 1), UInt8.ofNat (word / 256 ^ 0)] = writeBigEndian 2 word
    from rfl, read]

/-- Emitted chunks are read back. -/
theorem readChunks_emitted {statusCount : Nat} {words : List Nat} {parts : List (List Nat)}
    (carried : List.Forall₂ Carries words parts) (bytes : List UInt8) (deltaSizes chunks : List Nat)
    (lastChunk : LastChunk) (fits : deltaSizes.length + parts.flatten.length ≤ statusCount) :
    ∃ decoded, readChunks statusCount (words.flatMap (writeBigEndian 2) ++ bytes) deltaSizes chunks
        lastChunk =
      readChunks statusCount bytes (deltaSizes ++ parts.flatten) (chunks ++ words) decoded := by
  induction carried generalizing deltaSizes chunks lastChunk with
  | nil => exact ⟨lastChunk, by simp⟩
  | @cons word part words parts carries _ ih =>
      have positive : 0 < part.length := List.length_pos_iff.mpr carries.some
      rw [List.flatten_cons, List.length_append] at fits
      obtain ⟨decoded, further⟩ := ih (deltaSizes ++ part) (chunks ++ [word])
        (LastChunk.decode word (statusCount - deltaSizes.length))
        (by rw [List.length_append]; omega)
      refine ⟨decoded, ?_⟩
      rw [List.flatMap_cons, List.append_assoc, readChunks_word carries.fits (by omega),
        carries.decodes _ (by omega), further]
      simp

/-- The bytes of the chunks. -/
def chunkBytes (fb : TransportFeedback) : List UInt8 :=
  fb.encodedChunks.flatMap (writeBigEndian 2) ++
    if fb.lastChunk.empty then [] else writeBigEndian 2 fb.lastChunk.encodeLast

/-- The chunks of a message are read back as the sizes they encode. -/
theorem readChunks_chunkBytes {sizes : List Nat}
    (encodes : Encodes fb.encodedChunks fb.lastChunk sizes) (some : sizes ≠ [])
    (bytes : List UInt8) :
    ∃ chunks decoded, readChunks sizes.length (fb.chunkBytes ++ bytes) [] [] {} =
      .some (sizes, chunks, decoded, bytes) := by
  obtain ⟨parts, last, carried, collects, whole, none⟩ := encodes.holds
  have remaining : last ≠ [] := fun nothing => some (none nothing)
  have filled : fb.lastChunk.empty = false := by
    rw [Bool.eq_false_iff, Ne, empty_iff collects]
    exact remaining
  have length : sizes.length = parts.flatten.length + last.length := by
    rw [← whole, List.length_append]
  have positive : 0 < last.length := List.length_pos_iff.mpr remaining
  unfold chunkBytes
  simp only [filled, Bool.false_eq_true, if_false, List.append_assoc]
  have fits : ([] : List Nat).length + parts.flatten.length ≤ sizes.length := by
    rw [List.length_nil]
    omega
  obtain ⟨decoded, emitted⟩ := readChunks_emitted carried
    (writeBigEndian 2 fb.lastChunk.encodeLast ++ bytes) [] [] {} fits
  rw [emitted, List.nil_append, readChunks_word collects.encodeLast_lt (by omega),
    show sizes.length - parts.flatten.length = last.length by omega,
    collects.decode_encodeLast remaining, whole, readChunks_of_le _ le_rfl]
  exact ⟨_, _, rfl⟩

@[simp]
theorem length_statusBytes (delta : Option Int) :
    (statusBytes delta).length = statusSize delta := by
  cases delta with
  | none => rfl
  | some delta =>
      rw [statusBytes, statusSize, deltaBytes, deltaSize]
      split <;> rw [length_writeBigEndian]

theorem length_flatMap_statusBytes (deltas : List (Option Int)) :
    (deltas.flatMap statusBytes).length = (deltas.map statusSize).sum := by
  simp [List.length_flatMap]

/-- Deltas are read back. -/
theorem readDeltas_statusBytes (seqNo : UInt16)
    (ticks : ∀ delta, some delta ∈ deltas → -32768 ≤ delta ∧ delta < 32768) :
    readDeltas (deltas.map statusSize) seqNo (deltas.flatMap statusBytes) =
      some (numberFrom seqNo deltas) := by
  induction deltas generalizing seqNo with
  | nil => rfl
  | cons delta deltas ih =>
      have others := ih (seqNo + 1) fun delta member => ticks delta (List.mem_cons_of_mem _ member)
      rw [List.map_cons, List.flatMap_cons, numberFrom]
      cases delta with
      | none =>
          rw [statusSize, statusBytes, List.nil_append, readDeltas, others]
          rfl
      | some delta =>
          have range := ticks delta List.mem_cons_self
          rw [statusSize, statusBytes, deltaSize, deltaBytes]
          by_cases short : 0 ≤ delta ∧ delta ≤ 0xff
          · rw [if_pos short, if_pos short]
            change readDeltas (1 :: deltas.map statusSize) seqNo
              (UInt8.ofNat (delta.toNat / 256 ^ 0) :: deltas.flatMap statusBytes) = _
            have read : ((UInt8.ofNat (delta.toNat / 256 ^ 0)).toNat : Int) = delta := by
              rw [UInt8.toNat_ofNat']
              omega
            rw [readDeltas, others, read]
            rfl
          · rw [if_neg short, if_neg short]
            change readDeltas (2 :: deltas.map statusSize) seqNo
              (UInt8.ofNat ((delta % 65536).toNat / 256 ^ 1) ::
                UInt8.ofNat ((delta % 65536).toNat / 256 ^ 0) :: deltas.flatMap statusBytes) = _
            have read : ((readBigEndian (writeBigEndian 2 (delta % 65536).toNat) : Nat) : Int).bmod
                65536 = delta := by
              rw [readBigEndian_writeBigEndian, Nat.mod_eq_of_lt (by omega), Int.bmod]
              split <;> omega
            rw [readDeltas, others]
            exact congrArg (fun delta => some (⟨seqNo, some delta⟩ :: numberFrom (seqNo + 1) deltas))
              read

/-- The deltas of the received packets are the deltas of all packets. -/
theorem flatMap_received (seqNo : UInt16) (deltas : List (Option Int)) :
    (((numberFrom seqNo deltas).filter (·.received)).flatMap fun packet =>
      deltaBytes (packet.deltaTicks.getD 0)) = deltas.flatMap statusBytes := by
  induction deltas generalizing seqNo with
  | nil => rfl
  | cons delta deltas ih =>
      cases delta with
      | none => simpa [numberFrom, FeedbackPacket.received, statusBytes] using ih (seqNo + 1)
      | some delta =>
          simpa [numberFrom, FeedbackPacket.received, statusBytes] using ih (seqNo + 1)

/-- The bytes behind the chunks of a message that holds these deltas. -/
def included (fb : TransportFeedback) (deltas : List (Option Int)) : List UInt8 :=
  if fb.includeTimestamps then deltas.flatMap statusBytes else []

section

variable (holds : Holds fb deltas)
include holds

/-- What follows the heading of a message. -/
theorem Holds.payloadBytes_eq :
    fb.payloadBytes = writeBigEndian 4 fb.senderSsrc.toNat ++
    (writeBigEndian 4 fb.mediaSsrc.toNat ++
      (writeBigEndian 2 fb.baseSeqNo.toNat ++ (writeBigEndian 2 fb.numSeqNo ++
        (writeBigEndian 3 (fb.baseTimeTicks % 2 ^ 24).toNat ++
          (fb.feedbackSeq :: (fb.chunkBytes ++ fb.included deltas)))))) := by
  unfold payloadBytes chunkBytes included
  rw [holds.received, flatMap_received]
  simp

theorem Holds.length_payloadBytes : fb.payloadBytes.length + kHeaderLength = fb.sizeBytes := by
  have chunks : fb.chunkBytes.length =
      kChunkSizeBytes * chunkCount fb.encodedChunks fb.lastChunk := by
    unfold chunkBytes chunkCount kChunkSizeBytes
    rw [List.length_append, List.length_flatMap]
    simp only [length_writeBigEndian, List.map_const', List.sum_replicate_nat]
    split <;> simp only [List.length_nil, length_writeBigEndian] <;> omega
  have statuses : (fb.included deltas).length =
      if fb.includeTimestamps then (deltas.map statusSize).sum else 0 := by
    unfold included
    split
    · exact length_flatMap_statusBytes deltas
    · rfl
  rw [holds.payloadBytes_eq, holds.size]
  simp only [List.length_append, length_writeBigEndian, List.length_cons, chunks, statuses]
  unfold kHeaderLength kTransportFeedbackHeaderSizeBytes
  omega

/-- `Create` writes a block that is read as a header and the payload. -/
theorem Holds.parse_create (some : deltas ≠ []) :
    ∃ bytes padding, fb.create = .some bytes ∧ CommonHeader.parse bytes =
      .some ⟨kRtpfbPacketType, kFeedbackMessageType, padding, fb.payloadBytes, fb.pathid, []⟩ := by
  have length := holds.length_payloadBytes
  have room := holds.room
  have positive : fb.numSeqNo ≠ 0 := by
    rw [holds.count, Ne, List.length_eq_zero_iff]
    exact some
  have block : fb.blockLength = fb.sizeBytes + fb.paddingLength := by
    unfold paddingLength blockLength
    omega
  have words : fb.blockLength = (fb.blockLength - kHeaderLength) / 4 * 4 + kHeaderLength := by
    unfold blockLength kHeaderLength at *
    omega
  have lengthFits : (fb.blockLength - kHeaderLength) / 4 < 65536 := by
    unfold blockLength kHeaderLength kMaxSizeBytes at *
    omega
  have padding : fb.paddingLength < 4 := by
    unfold paddingLength blockLength
    omega
  unfold create
  rw [if_neg positive]
  refine ⟨_, fb.paddingLength, rfl, ?_⟩
  by_cases padded : 0 < fb.paddingLength
  · rw [paddingBytes, if_pos padded, decide_eq_true padded]
    exact parse_createHeader_padded (by decide) (by decide) lengthFits padded (by omega) (by omega)
  · have none : fb.paddingLength = 0 := by omega
    rw [paddingBytes, if_neg padded, decide_eq_false padded, none]
    exact parse_createHeader (by decide) (by decide) lengthFits (by omega) []

/-- What parsing makes of the payload of a message, once its statuses are read. -/
theorem Holds.parse_payload (some : deltas ≠ []) {statuses : List FeedbackPacket}
    (read : readStatuses (deltas.map statusSize) fb.baseSeqNo (fb.included deltas) = .some statuses)
    (into : TransportFeedback) (padding : Nat) :
    ∃ parsed, into.parse
        ⟨kRtpfbPacketType, kFeedbackMessageType, padding, fb.payloadBytes, fb.pathid, []⟩ =
        .some parsed ∧
      parsed.pathid = fb.pathid ∧ parsed.baseSeqNo = fb.baseSeqNo ∧
      parsed.feedbackSeq = fb.feedbackSeq ∧ parsed.numSeqNo = fb.numSeqNo ∧
      parsed.receivedPackets = statuses.filter (·.received) ∧
      parsed.allPackets = (if into.includeLost then statuses else []) ∧
      parsed.baseTimeTicks = (fb.baseTimeTicks % 2 ^ 24).bmod (2 ^ 24) := by
  have payload := holds.payloadBytes_eq
  have long : ¬ fb.payloadBytes.length < kMinPayloadSizeBytes := by
    have length := holds.length_payloadBytes
    have chunked := Encodes.chunkCount_pos holds.encodes (by simpa using some)
    rw [holds.size] at length
    unfold kHeaderLength kTransportFeedbackHeaderSizeBytes kChunkSizeBytes at length
    unfold kMinPayloadSizeBytes
    omega
  have base : readBigEndian ((fb.payloadBytes.drop 8).take 2) = fb.baseSeqNo.toNat := by
    rw [payload]
    exact (readBigEndian_writeBigEndian 2 _).trans (Nat.mod_eq_of_lt fb.baseSeqNo.toNat_lt)
  have count : readBigEndian ((fb.payloadBytes.drop 10).take 2) = deltas.length := by
    rw [payload, ← holds.count]
    refine (readBigEndian_writeBigEndian 2 _).trans (Nat.mod_eq_of_lt ?_)
    rw [holds.count]
    exact lt_of_le_of_lt holds.few (by decide)
  have time : readBigEndian ((fb.payloadBytes.drop 12).take 3) =
      (fb.baseTimeTicks % 2 ^ 24).toNat := by
    rw [payload]
    refine (readBigEndian_writeBigEndian 3 _).trans (Nat.mod_eq_of_lt ?_)
    omega
  have sequence : fb.payloadBytes.getD 15 0 = fb.feedbackSeq := by
    rw [payload]
    rfl
  have body : fb.payloadBytes.drop 16 = fb.chunkBytes ++ fb.included deltas := by
    rw [payload]
    rfl
  obtain ⟨chunks, decoded, chunked⟩ := readChunks_chunkBytes holds.encodes
    (by simpa using some) (fb.included deltas)
  rw [List.length_map] at chunked
  unfold parse
  dsimp only
  rw [if_neg long, count, if_neg (by simpa using some), body, chunked]
  dsimp only
  rw [base, UInt16.ofNat_toNat, read, time, sequence]
  refine ⟨_, rfl, rfl, rfl, rfl, holds.count.symm, rfl, rfl, ?_⟩
  rw [Int.toNat_of_nonneg (Int.emod_nonneg _ (by decide))]

end

/-- The statuses of a recorded list are read back. -/
theorem Records.readStatuses_included (records : Records fb deltas) :
    readStatuses (deltas.map statusSize) fb.baseSeqNo (fb.included deltas) =
      some (numberFrom fb.baseSeqNo deltas) := by
  rw [included, if_pos records.includeTimestamps, readStatuses,
    if_pos (length_flatMap_statusBytes deltas).ge]
  exact readDeltas_statusBytes fb.baseSeqNo records.ticks

/-- Reading 24 bits with sign changes the base time by whole periods. -/
theorem baseTime_read (baseTimeTicks : Int) :
    (baseTimeTicks % 2 ^ 24).bmod (2 ^ 24) * kBaseScaleFactor % kTimeWrapPeriodUs =
      baseTimeTicks * kBaseScaleFactor % kTimeWrapPeriodUs := by
  have read : (baseTimeTicks % 2 ^ 24).bmod (2 ^ 24) % 2 ^ 24 = baseTimeTicks % 2 ^ 24 := by
    rw [Int.bmod]
    split <;> omega
  have wrap : kTimeWrapPeriodUs = kBaseScaleFactor * 2 ^ 24 := rfl
  have positive : 0 < kBaseScaleFactor := by decide
  rw [wrap, Int.mul_comm _ kBaseScaleFactor, Int.mul_comm _ kBaseScaleFactor,
    Int.mul_emod_mul_of_pos _ _ positive, Int.mul_emod_mul_of_pos _ _ positive, read]

/-- A message that records a list survives writing and reading. -/
theorem Records.parseFrom_create (records : Records fb deltas) (some : deltas ≠ []) :
    ∃ bytes parsed, fb.create = .some bytes ∧ parseFrom bytes = .some parsed ∧
      parsed.pathid = fb.pathid ∧ parsed.baseSeqNo = fb.baseSeqNo ∧
      parsed.feedbackSeq = fb.feedbackSeq ∧ parsed.numSeqNo = fb.numSeqNo ∧
      parsed.receivedPackets = fb.receivedPackets ∧ parsed.allPackets = fb.allPackets ∧
      parsed.getBaseTimeUs % kTimeWrapPeriodUs = fb.getBaseTimeUs % kTimeWrapPeriodUs := by
  obtain ⟨bytes, padding, created, header⟩ := records.holds.parse_create some
  obtain ⟨parsed, accepted, path, base, sequence, count, received, all, time⟩ :=
    records.holds.parse_payload some records.readStatuses_included (ofPathid (-1)) padding
  refine ⟨bytes, parsed, created, ?_, path, base, sequence, count,
    received.trans records.received.symm, all.trans records.packets.symm, ?_⟩
  · rw [parseFrom, header]
    exact (if_neg (by simp)).trans accepted
  · rw [getBaseTimeUs, time, baseTime_read]
    rfl

/-- A message without packets records nothing. -/
theorem records_nil (fb : TransportFeedback) (timestamps : fb.includeTimestamps = true)
    (lost : fb.includeLost = true) (packets : fb.allPackets = [])
    (received : fb.receivedPackets = [])
    (count : fb.numSeqNo = 0) (chunks : fb.encodedChunks = []) (lastChunk : fb.lastChunk = {})
    (size : fb.sizeBytes = kTransportFeedbackHeaderSizeBytes) : Records fb [] where
  includeTimestamps := timestamps
  includeLost := lost
  packets := packets
  received := received
  count := count
  few := Nat.zero_le _
  encodes := ⟨[], [], by rw [chunks]; exact .nil, by rw [lastChunk]; exact LastChunk.collects_empty,
    rfl, fun _ => rfl⟩
  size := by rw [size, chunks, lastChunk]; rfl
  room := by rw [size]; decide
  ticks := by simp

/-- The message of `path` for these calls. -/
def report (pathid : Int32) (senderSsrc mediaSsrc : UInt32) (baseSequence : UInt16)
    (refTimestampUs : Int) (feedbackSequence : UInt8) (calls : List (UInt16 × Int)) :
    TransportFeedback :=
  (((((ofPathid pathid).setSenderSsrc senderSsrc).setMediaSsrc mediaSsrc).setBase baseSequence
    refTimestampUs).setFeedbackSequenceNumber feedbackSequence).addReceivedPackets calls

/-- Whatever packets were added to a message, if it reports any it is read back at the
other end: path, numbers, arrivals and losses, and the base time up to its period. -/
theorem parseFrom_create_report (pathid : Int32) (senderSsrc mediaSsrc : UInt32)
    (baseSequence : UInt16) (refTimestampUs : Int) (feedbackSequence : UInt8)
    (calls : List (UInt16 × Int))
    (reports : (report pathid senderSsrc mediaSsrc baseSequence refTimestampUs feedbackSequence
      calls).numSeqNo ≠ 0) :
    ∃ bytes parsed,
      (report pathid senderSsrc mediaSsrc baseSequence refTimestampUs feedbackSequence
        calls).create = some bytes ∧
      parseFrom bytes = some parsed ∧ parsed.pathid = pathid ∧ parsed.baseSeqNo = baseSequence ∧
      parsed.feedbackSeq = feedbackSequence ∧
      parsed.numSeqNo = (report pathid senderSsrc mediaSsrc baseSequence refTimestampUs
        feedbackSequence calls).numSeqNo ∧
      parsed.receivedPackets = (report pathid senderSsrc mediaSsrc baseSequence refTimestampUs
        feedbackSequence calls).receivedPackets ∧
      parsed.allPackets = (report pathid senderSsrc mediaSsrc baseSequence refTimestampUs
        feedbackSequence calls).allPackets ∧
      parsed.getBaseTimeUs % kTimeWrapPeriodUs = (report pathid senderSsrc mediaSsrc baseSequence
        refTimestampUs feedbackSequence calls).getBaseTimeUs % kTimeWrapPeriodUs := by
  have initial : Records (((((ofPathid pathid).setSenderSsrc senderSsrc).setMediaSsrc
      mediaSsrc).setBase baseSequence refTimestampUs).setFeedbackSequenceNumber feedbackSequence)
      [] := records_nil _ rfl rfl rfl rfl rfl rfl rfl rfl
  obtain ⟨deltas, records, unchanged⟩ := initial.addReceivedPackets calls
  rw [List.nil_append] at records
  have some : deltas ≠ [] := by
    rw [Ne, ← List.length_eq_zero_iff, ← records.count]
    exact reports
  let fb := report pathid senderSsrc mediaSsrc baseSequence refTimestampUs feedbackSequence calls
  have path : fb.pathid = pathid := congrArg (fun heading => heading.2.2.1) unchanged
  have base : fb.baseSeqNo = baseSequence := congrArg (fun heading => heading.2.2.2.1) unchanged
  have sequence : fb.feedbackSeq = feedbackSequence :=
    congrArg (fun heading => heading.2.2.2.2.2) unchanged
  obtain ⟨bytes, parsed, created, read, pathRead, baseRead, sequenceRead, rest⟩ :=
    records.parseFrom_create some
  exact ⟨bytes, parsed, created, read, pathRead.trans path, baseRead.trans base,
    sequenceRead.trans sequence, rest⟩

/-- Two arrivals with a loss between them, on the second path. -/
theorem parseFrom_create_report_loss :
    ∃ bytes parsed,
      (report 2 1 7 65535 128000 9 [(65535, 130000), (1, 131000)]).create = some bytes ∧
      parseFrom bytes = some parsed ∧ parsed.pathid = 2 ∧
      parsed.allPackets = [⟨65535, some 8⟩, ⟨0, none⟩, ⟨1, some 4⟩] := by
  obtain ⟨bytes, parsed, created, read, path, -, -, -, -, all, -⟩ :=
    parseFrom_create_report 2 1 7 65535 128000 9 [(65535, 130000), (1, 131000)] (by decide)
  exact ⟨bytes, parsed, created, read, path, all.trans (by decide)⟩

end TransportFeedback

end Reading

end MpWebRtc
