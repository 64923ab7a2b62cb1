import MpWebRtc.Rtcp.RoundTrip

/-!
# Self-consistency of transport feedback

A `TransportFeedback` keeps the same statuses in several forms: encoded chunks with a last
chunk that is still open, the list of received packets, the running time and the size of
the message. `IsConsistent` recomputes them from each other. `Accounts` says that the
forms agree on one list of sizes and one list of deltas; adding packets and parsing both
establish it. What is left of the check is the base time, which `IsConsistent` computes
in 32 bits, and the size, which counts deltas only when timestamps are included.
-/

namespace MpWebRtc

open Math.Serial Math.Wire

namespace TransportFeedback

/-- The constructor from the two flags and a path id. -/
def ofFlags (includeTimestamps includeLost : Bool) (pathid : Int32) : TransportFeedback :=
  { includeTimestamps := includeTimestamps, includeLost := includeLost, pathid := pathid }

variable (fb : TransportFeedback)

/-- `Clear`. -/
def clear : TransportFeedback :=
  { fb with
    sizeBytes := kTransportFeedbackHeaderSizeBytes
    numSeqNo := 0
    lastTimestampUs := fb.getBaseTimeUs
    receivedPackets := []
    allPackets := []
    encodedChunks := []
    lastChunk := {} }

/-- The fields that `Parse` reads before it clears the rest. -/
def readHeading (packet : CommonHeader) : TransportFeedback :=
  let payload := packet.payload
  { fb with
    senderSsrc := UInt32.ofNat (readBigEndian (payload.take 4))
    mediaSsrc := UInt32.ofNat (readBigEndian ((payload.drop 4).take 4))
    pathid := packet.pathid
    baseSeqNo := UInt16.ofNat (readBigEndian ((payload.drop 8).take 2))
    baseTimeTicks := (readBigEndian ((payload.drop 12).take 3) : Int).bmod 16777216
    feedbackSeq := payload.getD 15 0 }

/-- `Parse` with the object it leaves: a payload that is too short is refused at once, and
every later failure clears what was read. -/
def parseInto (packet : CommonHeader) : TransportFeedback × Bool :=
  if packet.payload.length < kMinPayloadSizeBytes then (fb, false)
  else
    match fb.parse packet with
    | none => ((fb.readHeading packet).clear, false)
    | some parsed => (parsed, true)

/-- The sizes that `IsConsistent` decodes. -/
def decodedSizes (chunks : List Nat) (lastChunk : LastChunk) : List Nat :=
  (chunks.flatMap fun chunk => (LastChunk.decode chunk kMaxReportedPackets).content) ++
    if lastChunk.empty then [] else lastChunk.content

/-- The loop of `IsConsistent`: the time after the sizes, and the received packets left. -/
def checkDeltas : (deltaSizes : List Nat) → (seqNo : UInt16) → (packets : List FeedbackPacket) →
    (timestampUs : Int) → Option (Int × List FeedbackPacket)
  | [], _, packets, timestampUs => some (timestampUs, packets)
  | deltaSize :: deltaSizes, seqNo, packets, timestampUs =>
      if 0 < deltaSize then
        match packets with
        | [] => none
        | packet :: packets =>
            let deltaTicks := packet.deltaTicks.getD 0
            if packet.sequenceNumber ≠ seqNo then none
            else if deltaSize = 1 ∧ (deltaTicks < 0 ∨ deltaTicks > 0xff) then none
            else
              checkDeltas deltaSizes (seqNo + 1) packets (timestampUs + deltaTicks * kDeltaScaleFactor)
      else checkDeltas deltaSizes (seqNo + 1) packets timestampUs

/-- `IsConsistent`. The base time is a product of two values of 32 bits. -/
def isConsistent : Bool :=
  let deltaSizes := decodedSizes fb.encodedChunks fb.lastChunk
  let packetSize := kTransportFeedbackHeaderSizeBytes +
    kChunkSizeBytes * chunkCount fb.encodedChunks fb.lastChunk +
    if fb.includeTimestamps then deltaSizes.sum else 0
  if fb.numSeqNo ≠ deltaSizes.length then false
  else
    match checkDeltas deltaSizes fb.baseSeqNo fb.receivedPackets
        ((fb.baseTimeTicks * kBaseScaleFactor).bmod 4294967296) with
    | none => false
    | some (timestampUs, packets) =>
        packets.isEmpty && timestampUs == fb.lastTimestampUs && fb.sizeBytes == packetSize

/-- A delta that a size may stand for. -/
def Describes (deltaSize : Nat) : (delta : Option Int) → Prop
  | none => deltaSize = 0
  | some delta => 0 < deltaSize ∧ (deltaSize = 1 → 0 ≤ delta ∧ delta ≤ 0xff)

/-- The time that deltas take. -/
def elapsedUs (deltas : List (Option Int)) : Int :=
  (deltas.map fun delta => delta.getD 0 * kDeltaScaleFactor).sum

/-- The forms of a message agree on these sizes and deltas. -/
structure Accounts (fb : TransportFeedback) (sizes : List Nat) (deltas : List (Option Int)) :
    Prop where
  decoded : decodedSizes fb.encodedChunks fb.lastChunk = sizes
  described : List.Forall₂ Describes sizes deltas
  received : fb.receivedPackets = (numberFrom fb.baseSeqNo deltas).filter (·.received)
  count : fb.numSeqNo = sizes.length
  time : fb.lastTimestampUs = fb.getBaseTimeUs + elapsedUs deltas

/-- The base time is the same in 32 bits. -/
def BaseTimeFits : Prop :=
  -33554 ≤ fb.baseTimeTicks ∧ fb.baseTimeTicks ≤ 33554

section Checking

variable {fb : TransportFeedback} {sizes : List Nat} {deltas : List (Option Int)}

theorem elapsedUs_cons (delta : Option Int) (deltas : List (Option Int)) :
    elapsedUs (delta :: deltas) = delta.getD 0 * kDeltaScaleFactor + elapsedUs deltas := by
  simp [elapsedUs]

theorem elapsedUs_append (deltas more : List (Option Int)) :
    elapsedUs (deltas ++ more) = elapsedUs deltas + elapsedUs more := by
  simp [elapsedUs]

/-- The loop consumes all packets that the sizes describe. -/
theorem checkDeltas_of_describes (described : List.Forall₂ Describes sizes deltas)
    (seqNo : UInt16) (timestampUs : Int) :
    checkDeltas sizes seqNo ((numberFrom seqNo deltas).filter (·.received)) timestampUs =
      some (timestampUs + elapsedUs deltas, []) := by
  induction described generalizing seqNo timestampUs with
  | nil => simp [checkDeltas, numberFrom, elapsedUs]
  | @cons size delta sizes deltas describes _ ih =>
      cases delta with
      | none =>
          obtain rfl : size = 0 := describes
          rw [checkDeltas.eq_def, elapsedUs_cons]
          dsimp only
          rw [if_neg (Nat.lt_irrefl 0)]
          simpa [numberFrom, FeedbackPacket.received] using ih (seqNo + 1) timestampUs
      | some delta =>
          obtain ⟨positive, short⟩ := describes
          have fits : ¬ (size = 1 ∧ (delta < 0 ∨ delta > 0xff)) := by omega
          have rest := ih (seqNo + 1) (timestampUs + delta * kDeltaScaleFactor)
          rw [checkDeltas.eq_def, elapsedUs_cons]
          dsimp only
          rw [if_pos positive]
          simp only [numberFrom, FeedbackPacket.received, Option.isSome_some, List.filter_cons_of_pos,
            ne_eq, not_true_eq_false, if_false, Option.getD_some, fits]
          rw [← Int.add_assoc]
          exact rest

/-- Whether the base time is the same in 32 bits. -/
theorem bmod_eq_getBaseTimeUs_iff (fb : TransportFeedback) :
    (fb.baseTimeTicks * kBaseScaleFactor).bmod 4294967296 = fb.getBaseTimeUs ↔
      fb.BaseTimeFits := by
  have scale : kBaseScaleFactor = 64000 := rfl
  unfold getBaseTimeUs BaseTimeFits
  rw [scale, Int.bmod]
  split <;> omega

/-- What `IsConsistent` checks of a message whose forms agree. -/
theorem Accounts.isConsistent_iff (accounts : Accounts fb sizes deltas) :
    fb.isConsistent = true ↔ fb.BaseTimeFits ∧
      fb.sizeBytes = kTransportFeedbackHeaderSizeBytes +
        kChunkSizeBytes * chunkCount fb.encodedChunks fb.lastChunk +
        if fb.includeTimestamps then sizes.sum else 0 := by
  unfold isConsistent
  rw [accounts.decoded, accounts.received]
  simp only [accounts.count, ne_eq, not_true_eq_false, if_false,
    checkDeltas_of_describes accounts.described, List.isEmpty_nil, Bool.true_and, Bool.and_eq_true,
    beq_iff_eq, accounts.time]
  rw [Int.add_left_inj, bmod_eq_getBaseTimeUs_iff]

end Checking

section Adding

variable {fb : TransportFeedback} {deltas : List (Option Int)}

/-- Words that carry sizes are decoded to them however many are expected. -/
theorem flatMap_decode_of_carries {chunks : List Nat} {parts : List (List Nat)}
    (carried : List.Forall₂ Carries chunks parts)
    (few : parts.flatten.length ≤ kMaxReportedPackets) :
    (chunks.flatMap fun chunk => (LastChunk.decode chunk kMaxReportedPackets).content) =
      parts.flatten := by
  induction carried with
  | nil => rfl
  | cons carries _ ih =>
      rw [List.flatten_cons, List.length_append] at few
      rw [List.flatMap_cons, List.flatten_cons, carries.decodes _ (by omega), ih (by omega)]

theorem decodedSizes_of_encodes {chunks sizes : List Nat} {lastChunk : LastChunk}
    (encodes : Encodes chunks lastChunk sizes) (few : sizes.length ≤ kMaxReportedPackets) :
    decodedSizes chunks lastChunk = sizes := by
  obtain ⟨parts, last, carried, collects, rfl, -⟩ := encodes.holds
  rw [List.length_append] at few
  unfold decodedSizes
  rw [flatMap_decode_of_carries carried (by omega), collects.content_eq]
  split
  · next nothing => rw [(empty_iff collects).mp nothing]
  · rfl

theorem describes_statusSize (delta : Option Int) : Describes (statusSize delta) delta := by
  cases delta with
  | none => rfl
  | some delta =>
      rw [statusSize, Describes, deltaSize]
      by_cases short : 0 ≤ delta ∧ delta ≤ 0xff
      · rw [if_pos short]
        exact ⟨Nat.one_pos, fun _ => short⟩
      · rw [if_neg short]
        exact ⟨Nat.two_pos, fun impossible => absurd impossible (by decide)⟩

/-- The running time is the base time and the deltas. -/
def Timed (fb : TransportFeedback) (deltas : List (Option Int)) : Prop :=
  fb.lastTimestampUs = fb.getBaseTimeUs + elapsedUs deltas

theorem Timed.adds (timed : Timed fb deltas) {delta : Option Int} {next : TransportFeedback}
    (adds : fb.Adds delta next) : Timed next (deltas ++ [delta]) := by
  unfold Timed at *
  obtain ⟨encoded, added, rfl⟩ := adds
  obtain ⟨_, _, _, -, rfl⟩ := eq_of_addDeltaSize added
  simp only [listed, timed, elapsedUs_append, elapsedUs_cons, getBaseTimeUs]
  simp only [elapsedUs, List.map_nil, List.sum_nil, Int.add_zero, Int.add_assoc]

theorem Holds.accounts (holds : Holds fb deltas) (timed : Timed fb deltas) :
    Accounts fb (deltas.map statusSize) deltas where
  decoded := decodedSizes_of_encodes holds.encodes (by simpa using holds.few)
  described := by
    rw [List.forall₂_map_left_iff]
    exact List.forall₂_same.mpr fun delta _ => describes_statusSize delta
  received := holds.received
  count := by rw [holds.count, List.length_map]
  time := timed

/-- A message to which packets were added is consistent when its base time fits. -/
theorem isConsistent_addReceivedPackets (initial : Holds fb []) (timed : Timed fb [])
    (calls : List (UInt16 × Int)) :
    (fb.addReceivedPackets calls).isConsistent = true ↔ fb.BaseTimeFits := by
  obtain ⟨deltas, holds, timed⟩ := addReceivedPackets_rule
    (motive := fun next deltas => Holds next deltas ∧ Timed next deltas)
    (fun ⟨holds, timed⟩ adds => ⟨holds.adds adds, timed.adds adds⟩)
    (fun ⟨holds, timed⟩ _ adds => ⟨holds.adds adds, timed.adds adds⟩)
    ⟨initial, timed⟩ calls
  have heading := (addReceivedPackets_frame fb calls).1
  have ticks : (fb.addReceivedPackets calls).baseTimeTicks = fb.baseTimeTicks :=
    congrArg (fun heading => heading.2.2.2.2.1) heading
  rw [(holds.accounts timed).isConsistent_iff, BaseTimeFits, ticks]
  exact and_iff_left holds.size

end Adding

section Parsing

variable {fb parsed : TransportFeedback} {packet : CommonHeader}

/-- The sizes of a word whose number is not limited. -/
def fullSizes (word : Nat) : List Nat := (LastChunk.decode word kMaxReportedPackets).content

variable (word maxSize : Nat)

theorem content_decodeRunLength :
    (LastChunk.decodeRunLength word maxSize).content =
      List.replicate (min (word &&& 0x1fff) maxSize) (word >>> 13 &&& 0x03) := by
  unfold LastChunk.decodeRunLength LastChunk.content
  dsimp only
  rw [if_pos rfl]
  cases min (word &&& 0x1fff) maxSize with
  | zero => rfl
  | succ length =>
      obtain ⟨rest, split⟩ : ∃ rest, min (length + 1) kMaxVectorCapacity = rest + 1 :=
        ⟨min length 13, by unfold kMaxVectorCapacity kMaxOneBitCapacity; omega⟩
      rw [split]
      rfl

theorem content_decodeOneBit :
    (LastChunk.decodeOneBit word maxSize).content =
      (List.range (min kMaxOneBitCapacity maxSize)).map fun i =>
        word >>> (kMaxOneBitCapacity - 1 - i) &&& 0x01 := by
  unfold LastChunk.decodeOneBit LastChunk.content
  dsimp only
  rw [if_neg Bool.false_ne_true, List.take_of_length_le]
  rw [List.length_map, List.length_range]

theorem content_decodeTwoBit :
    (LastChunk.decodeTwoBit word maxSize).content =
      (List.range (min kMaxTwoBitCapacity maxSize)).map fun i =>
        word >>> (2 * (kMaxTwoBitCapacity - 1 - i)) &&& 0x03 := by
  unfold LastChunk.decodeTwoBit LastChunk.content
  dsimp only
  rw [if_neg Bool.false_ne_true, List.take_of_length_le]
  rw [List.length_map, List.length_range]

/-- Fewer sizes are a first part of the sizes of a word. -/
theorem content_decode (word : Nat) {maxSize : Nat} (few : maxSize ≤ kMaxReportedPackets) :
    (LastChunk.decode word maxSize).content = (fullSizes word).take maxSize := by
  unfold fullSizes LastChunk.decode
  split
  · rw [content_decodeRunLength, content_decodeRunLength, List.take_replicate]
    congr 1
    omega
  split
  · rw [content_decodeOneBit, content_decodeOneBit, ← List.map_take, List.take_range]
    congr 2
    unfold kMaxReportedPackets kMaxOneBitCapacity at *
    omega
  · rw [content_decodeTwoBit, content_decodeTwoBit, ← List.map_take, List.take_range]
    congr 2
    unfold kMaxReportedPackets kMaxTwoBitCapacity at *
    omega

/-- How far the chunks of a message are read: all but the last one in full. -/
def ChunksRead (statusCount : Nat) (deltaSizes chunks : List Nat) (lastChunk : LastChunk) : Prop :=
  (deltaSizes = [] ∧ chunks = []) ∨
    ∃ earlier word, chunks = earlier ++ [word] ∧ (earlier.flatMap fullSizes).length < statusCount ∧
      lastChunk = LastChunk.decode word (statusCount - (earlier.flatMap fullSizes).length) ∧
      deltaSizes = earlier.flatMap fullSizes ++ lastChunk.content

variable {deltaSizes chunks : List Nat} {lastChunk : LastChunk}

/-- A message that is not read to the end has all of its chunks read in full. -/
theorem ChunksRead.deltaSizes_eq {statusCount : Nat}
    (read : ChunksRead statusCount deltaSizes chunks lastChunk)
    (few : statusCount ≤ kMaxReportedPackets) (missing : deltaSizes.length < statusCount) :
    deltaSizes = chunks.flatMap fullSizes := by
  rcases read with ⟨rfl, rfl⟩ | ⟨earlier, word, rfl, -, rfl, rfl⟩
  · rfl
  · rw [content_decode word (by omega), List.length_append, List.length_take] at missing
    rw [content_decode word (by omega), List.flatMap_append, List.flatMap_singleton,
      List.take_of_length_le (by omega)]

theorem readChunks_spec {statusCount : Nat} (few : statusCount ≤ kMaxReportedPackets)
    {bytes : List UInt8} {deltaSizes chunks sizes words : List Nat} {lastChunk last : LastChunk}
    {rest : List UInt8} (read : ChunksRead statusCount deltaSizes chunks lastChunk)
    (result : readChunks statusCount bytes deltaSizes chunks lastChunk =
      some (sizes, words, last, rest)) :
    ChunksRead statusCount sizes words last ∧ statusCount ≤ sizes.length := by
  induction bytes, deltaSizes, chunks, lastChunk using readChunks.induct statusCount with
  | case1 first second bytes deltaSizes chunks lastChunk missing chunk decoded ih =>
      rw [readChunks, if_pos missing] at result
      have full := read.deltaSizes_eq few missing
      refine ih (.inr ⟨chunks, chunk, rfl, full ▸ missing, ?_, ?_⟩) result
      · rw [← full]
      · rw [← full]
  | case2 first second bytes deltaSizes chunks lastChunk enough =>
      rw [readChunks, if_neg enough] at result
      cases result
      exact ⟨read, Nat.le_of_not_lt enough⟩
  | case3 deltaSizes chunks lastChunk bytes short missing =>
      unfold readChunks at result
      split at result
      · exact absurd rfl (short _ _ _)
      · rw [if_pos missing] at result
        cases result
  | case4 deltaSizes chunks lastChunk bytes short enough =>
      unfold readChunks at result
      split at result
      · exact absurd rfl (short _ _ _)
      · rw [if_neg enough] at result
        cases result
        exact ⟨read, Nat.le_of_not_lt enough⟩

/-- A message that is read to the end has its sizes in the chunks. -/
theorem ChunksRead.decodedSizes_eq {statusCount : Nat}
    (read : ChunksRead statusCount deltaSizes chunks lastChunk)
    (few : statusCount ≤ kMaxReportedPackets) (some : statusCount ≠ 0)
    (enough : statusCount ≤ deltaSizes.length) :
    decodedSizes chunks.dropLast lastChunk = deltaSizes ∧ deltaSizes.length = statusCount ∧
      chunkCount chunks.dropLast lastChunk = chunks.length := by
  rcases read with ⟨rfl, -⟩ | ⟨earlier, word, rfl, missing, last, rfl⟩
  · rw [List.length_nil] at enough
    omega
  · have content : lastChunk.content =
        (fullSizes word).take (statusCount - (earlier.flatMap fullSizes).length) := by
      rw [last]
      exact content_decode word (by omega)
    have length : lastChunk.content.length ≤
        statusCount - (earlier.flatMap fullSizes).length := by
      rw [content]
      exact List.length_take_le _ _
    rw [List.length_append] at enough ⊢
    have filled : lastChunk.empty = false := by
      unfold LastChunk.empty
      rw [beq_eq_false_iff_ne]
      intro nothing
      have none : lastChunk.content.length = 0 := by
        unfold LastChunk.content
        rw [nothing]
        split <;> rfl
      omega
    rw [List.dropLast_concat]
    refine ⟨?_, by omega, ?_⟩
    · rw [decodedSizes, filled, if_neg Bool.false_ne_true]
      rfl
    · rw [chunkCount, filled, if_neg Bool.false_ne_true, List.length_append, List.length_singleton]

variable {statuses : List FeedbackPacket}

theorem readDeltas_spec {sizes : List Nat} {seqNo : UInt16} {bytes : List UInt8}
    (read : readDeltas sizes seqNo bytes = some statuses) :
    ∃ deltas, statuses = numberFrom seqNo deltas ∧ List.Forall₂ Describes sizes deltas := by
  induction sizes, seqNo, bytes using readDeltas.induct generalizing statuses with
  | case1 => exact ⟨[], (Option.some.inj read).symm, .nil⟩
  | case2 seqNo bytes sizes ih =>
      rw [readDeltas, Option.map_eq_some_iff] at read
      obtain ⟨others, further, rfl⟩ := read
      obtain ⟨deltas, rfl, described⟩ := ih further
      exact ⟨none :: deltas, rfl, .cons rfl described⟩
  | case3 sizes seqNo first bytes ih =>
      rw [readDeltas, Option.map_eq_some_iff] at read
      obtain ⟨others, further, rfl⟩ := read
      obtain ⟨deltas, rfl, described⟩ := ih further
      have range := first.toNat_lt
      exact ⟨some first.toNat :: deltas, rfl,
        .cons ⟨Nat.one_pos, fun _ => ⟨by omega, by omega⟩⟩ described⟩
  | case4 sizes seqNo first second bytes ih =>
      rw [readDeltas, Option.map_eq_some_iff] at read
      obtain ⟨others, further, rfl⟩ := read
      obtain ⟨deltas, rfl, described⟩ := ih further
      exact ⟨some _ :: deltas, rfl,
        .cons ⟨Nat.two_pos, fun impossible => absurd impossible (by decide)⟩ described⟩
  | case5 sizes seqNo bytes nil zero one two =>
      rw [readDeltas.eq_def] at read
      split at read
      · exact absurd rfl nil
      · exact absurd rfl (zero _)
      · exact absurd rfl (one _ _ _ rfl)
      · exact absurd rfl (two _ _ _ _ rfl)
      · cases read

theorem withoutDeltas_spec (sizes : List Nat) (seqNo : UInt16) :
    ∃ deltas, withoutDeltas sizes seqNo = numberFrom seqNo deltas ∧
      List.Forall₂ Describes sizes deltas := by
  induction sizes generalizing seqNo with
  | nil => exact ⟨[], rfl, .nil⟩
  | cons size sizes ih =>
      obtain ⟨deltas, numbered, described⟩ := ih (seqNo + 1)
      refine ⟨(if 0 < size then some 0 else none) :: deltas, ?_, .cons ?_ described⟩
      · rw [withoutDeltas, numberFrom, numbered]
      · split
        · next positive => exact ⟨positive, fun _ => ⟨le_rfl, by decide⟩⟩
        · next nothing => exact Nat.eq_zero_of_not_pos nothing

theorem readStatuses_spec {sizes : List Nat} {seqNo : UInt16} {bytes : List UInt8}
    (read : readStatuses sizes seqNo bytes = some statuses) :
    ∃ deltas, statuses = numberFrom seqNo deltas ∧ List.Forall₂ Describes sizes deltas := by
  unfold readStatuses at read
  split at read
  · exact readDeltas_spec read
  · cases read
    exact withoutDeltas_spec sizes seqNo

theorem sum_numberFrom (seqNo : UInt16) (deltas : List (Option Int)) :
    ((numberFrom seqNo deltas).map fun status => status.deltaTicks.getD 0 * kDeltaScaleFactor).sum =
      elapsedUs deltas := by
  induction deltas generalizing seqNo with
  | nil => rfl
  | cons delta deltas ih => rw [numberFrom, List.map_cons, List.sum_cons, ih, elapsedUs_cons]

variable (payload : List UInt8)

/-- The number of statuses that a payload announces. -/
def statusCountOf : Nat := readBigEndian ((payload.drop 10).take 2)

/-- The base time that a payload gives, in ticks. -/
def baseTimeTicksOf : Int :=
  (readBigEndian ((payload.drop 12).take 3) : Int).bmod 16777216

/-- The payload reports received packets, and has their deltas. -/
def carriesDeltas : Bool :=
  match readChunks (statusCountOf payload) (payload.drop 16) [] [] {} with
  | none => false
  | some (deltaSizes, _, _, bytes) =>
      decide (0 < deltaSizes.sum) && decide (deltaSizes.sum ≤ bytes.length)

theorem statusCountOf_le : statusCountOf payload ≤ kMaxReportedPackets := by
  have bound := readBigEndian_lt ((payload.drop 10).take 2)
  have short : 256 ^ ((payload.drop 10).take 2).length ≤ 256 ^ 2 :=
    Nat.pow_le_pow_right (by decide) (List.length_take_le _ _)
  unfold statusCountOf kMaxReportedPackets
  omega

/-- An accepted message accounts for what its payload says. -/
theorem accounts_of_parse (accepted : fb.parse packet = some parsed) :
    ∃ sizes chunks lastChunk bytes deltas,
      readChunks (statusCountOf packet.payload) (packet.payload.drop 16) [] [] {} =
        some (sizes, chunks, lastChunk, bytes) ∧
      Accounts parsed sizes deltas ∧
      parsed.baseTimeTicks = baseTimeTicksOf packet.payload ∧
      parsed.includeTimestamps = (fb.includeTimestamps && decide (sizes.sum ≤ bytes.length)) ∧
      parsed.sizeBytes = kTransportFeedbackHeaderSizeBytes +
        kChunkSizeBytes * chunkCount parsed.encodedChunks parsed.lastChunk +
        if sizes.sum ≤ bytes.length then sizes.sum else 0 := by
  unfold parse at accepted
  dsimp only at accepted
  split at accepted
  · cases accepted
  split at accepted
  · cases accepted
  next some =>
  split at accepted
  · cases accepted
  next sizes chunks lastChunk bytes read =>
  rw [Option.map_eq_some_iff] at accepted
  obtain ⟨statuses, listed, rfl⟩ := accepted
  obtain ⟨progress, enough⟩ :=
    readChunks_spec (statusCountOf_le packet.payload) (.inl ⟨rfl, rfl⟩) read
  obtain ⟨decoded, count, words⟩ :=
    progress.decodedSizes_eq (statusCountOf_le packet.payload) some enough
  obtain ⟨deltas, rfl, described⟩ := readStatuses_spec listed
  refine ⟨sizes, chunks, lastChunk, bytes, deltas, read,
    ⟨decoded, described, rfl, count.symm, ?_⟩, ?_, rfl, ?_⟩
  · simp only [getBaseTimeUs, sum_numberFrom]
  · unfold baseTimeTicksOf
    norm_num
  · dsimp only
    rw [words]
    simp only [decide_eq_true_eq]
    rfl

/-- An accepted message is consistent when its base time fits, unless deltas were read into
an object that does not count them. -/
theorem isConsistent_of_parse (accepted : fb.parse packet = some parsed) :
    parsed.isConsistent = true ↔
      (-33554 ≤ baseTimeTicksOf packet.payload ∧ baseTimeTicksOf packet.payload ≤ 33554) ∧
      (fb.includeTimestamps = true ∨ carriesDeltas packet.payload = false) := by
  obtain ⟨sizes, chunks, lastChunk, bytes, deltas, read, accounts, ticks, timestamps, size⟩ :=
    accounts_of_parse accepted
  rw [accounts.isConsistent_iff, BaseTimeFits, ticks, size, timestamps, carriesDeltas, read]
  apply and_congr_right
  intro _
  by_cases present : sizes.sum ≤ bytes.length
  · cases fb.includeTimestamps <;> simp [present]
  · simp [present]

end Parsing

section Objects

variable {fb : TransportFeedback}

/-- The object has no statuses yet: it was just constructed, or cleared. -/
def Unused (fb : TransportFeedback) : Prop := fb.clear = fb

/-- The object reports no packet. -/
def Statusless (fb : TransportFeedback) : Prop :=
  fb.numSeqNo = 0 ∧ fb.receivedPackets = [] ∧ fb.allPackets = []

theorem Unused.setBase (unused : fb.Unused) (baseSequence : UInt16) (refTimestampUs : Int) :
    (fb.setBase baseSequence refTimestampUs).Unused := by
  unfold Unused at *
  rw [← unused]
  rfl

theorem Unused.holds (unused : fb.Unused) : Holds fb [] := by
  unfold Unused at unused
  rw [← unused]
  exact ⟨rfl, rfl, Nat.zero_le _, ⟨[], [], .nil, LastChunk.collects_empty, rfl, fun _ => rfl⟩,
    by cases included : fb.clear.includeTimestamps <;> rfl,
    (by decide : kTransportFeedbackHeaderSizeBytes ≤ kMaxSizeBytes)⟩

theorem Unused.timed (unused : fb.Unused) : Timed fb [] := by
  unfold Unused at unused
  rw [← unused]
  exact (Int.add_zero _).symm

/-- The base time of `SetBase` fits when the time since the last wrap is less than 33555
ticks. -/
theorem baseTimeFits_setBase_iff (fb : TransportFeedback) (baseSequence : UInt16)
    {refTimestampUs : Int} (nonneg : 0 ≤ refTimestampUs) :
    (fb.setBase baseSequence refTimestampUs).BaseTimeFits ↔
      refTimestampUs % kTimeWrapPeriodUs < 33555 * kBaseScaleFactor := by
  have range := Int.emod_nonneg refTimestampUs (show kTimeWrapPeriodUs ≠ 0 by decide)
  unfold BaseTimeFits setBase
  dsimp only
  rw [Int.tmod_eq_emod_of_nonneg nonneg, Int.tdiv_eq_ediv_of_nonneg range]
  have scale : kBaseScaleFactor = 64000 := rfl
  rw [scale]
  omega

variable {packet : CommonHeader}

/-- `Parse` succeeds exactly when it accepts the message. -/
theorem parse_of_parseInto {parsed : TransportFeedback}
    (accepted : fb.parseInto packet = (parsed, true)) : fb.parse packet = some parsed := by
  unfold parseInto at accepted
  split at accepted
  · cases accepted
  split at accepted
  · cases accepted
  · rename_i result
    cases accepted
    exact result

theorem statusless_of_parseInto {left : TransportFeedback}
    (failed : fb.parseInto packet = (left, false)) :
    left.Statusless ↔ kMinPayloadSizeBytes ≤ packet.payload.length ∨ fb.Statusless := by
  unfold parseInto at failed
  split at failed
  · rename_i short
    cases failed
    rw [or_iff_right (Nat.not_le.mpr short)]
  · rename_i long
    split at failed
    · cases failed
      exact iff_of_true ⟨rfl, rfl, rfl⟩ (.inl (Nat.le_of_not_lt long))
    · cases failed

/-- When a feedback object is consistent. After `SetBase` and any calls of
`AddReceivedPacket`: when the base time fits 32 bits. After a message was parsed: when its
base time fits, and the object counts deltas or there are none. A message that is refused
leaves no statuses, unless it is too short and the object had some. -/
theorem feedback_consistent_iff (fb : TransportFeedback) :
    (fb.Unused → ∀ (baseSequence : UInt16) (refTimestampUs : Int) (calls : List (UInt16 × Int)),
      0 ≤ refTimestampUs →
      (((fb.setBase baseSequence refTimestampUs).addReceivedPackets calls).isConsistent = true ↔
        refTimestampUs % kTimeWrapPeriodUs < 33555 * kBaseScaleFactor)) ∧
    (∀ packet parsed, fb.parseInto packet = (parsed, true) →
      (parsed.isConsistent = true ↔
        (-33554 ≤ baseTimeTicksOf packet.payload ∧ baseTimeTicksOf packet.payload ≤ 33554) ∧
        (fb.includeTimestamps = true ∨ carriesDeltas packet.payload = false))) ∧
    ∀ packet left, fb.parseInto packet = (left, false) →
      (left.Statusless ↔ kMinPayloadSizeBytes ≤ packet.payload.length ∨ fb.Statusless) := by
  refine ⟨?_, ?_, ?_⟩
  · intro unused baseSequence refTimestampUs calls nonneg
    have started := unused.setBase baseSequence refTimestampUs
    rw [isConsistent_addReceivedPackets started.holds started.timed,
      baseTimeFits_setBase_iff fb baseSequence nonneg]
  · intro packet parsed accepted
    exact isConsistent_of_parse (parse_of_parseInto accepted)
  · intro packet left failed
    exact statusless_of_parseInto failed

/-- A message about two arrivals, as it is on the wire. -/
def twoArrivals : List UInt8 :=
  [143, 205, 0, 5, 0, 0, 0, 1, 0, 0, 0, 1, 0, 0, 0, 7, 0, 0, 0, 2, 0, 0, 0, 9, 32, 2, 4, 4]

/-- A message that ends behind the media source. -/
def noStatuses : List UInt8 := [143, 205, 0, 2, 0, 0, 0, 1, 0, 0, 0, 1, 0, 0, 0, 7]

/-- An arrival and a loss soon after the start. -/
theorem feedback_consistent_after_loss :
    (((ofFlags true false 1).setBase 65535 128000).addReceivedPackets
      [(65535, 130000), (1, 131000)]).isConsistent = true ∧
    ∃ packet, CommonHeader.parse twoArrivals = some packet ∧
      ((ofFlags true false 1).parseInto packet).2 = true ∧
      ((ofFlags true false 1).parseInto packet).1.isConsistent = true := by
  obtain ⟨adding, parsing, -⟩ := feedback_consistent_iff (ofFlags true false 1)
  refine ⟨(adding rfl 65535 128000 _ (by decide)).mpr (by decide), ?_⟩
  have accepted : ((ofFlags true false 1).parseInto
      ⟨205, 15, 0, twoArrivals.drop 8, 1, []⟩).2 = true := by decide +kernel
  refine ⟨⟨205, 15, 0, twoArrivals.drop 8, 1, []⟩, by decide, accepted, ?_⟩
  have fits : -33554 ≤ baseTimeTicksOf (twoArrivals.drop 8) ∧
      baseTimeTicksOf (twoArrivals.drop 8) ≤ 33554 := by decide +kernel
  generalize result : (ofFlags true false 1).parseInto ⟨205, 15, 0, twoArrivals.drop 8, 1, []⟩ =
    parsed at accepted ⊢
  exact (parsing _ parsed.1 (result.trans (Prod.ext rfl accepted))).mpr ⟨fits, .inl rfl⟩

/-- The base time overflows the check; deltas read into an object without timestamps are
not counted; a message that is too short leaves the statuses of the one before. -/
theorem feedback_inconsistent :
    (((ofFlags true true 1).setBase 0 2147520000).addReceivedPackets
      [(0, 2147520000)]).isConsistent = false ∧
    ∃ packet short, CommonHeader.parse twoArrivals = some packet ∧
      CommonHeader.parse noStatuses = some short ∧
      ((ofFlags false true 1).parseInto packet).2 = true ∧
      ((ofFlags false true 1).parseInto packet).1.isConsistent = false ∧
      ((ofFlags true true 1).parseInto packet).2 = true ∧
      (((ofFlags true true 1).parseInto packet).1.parseInto short).2 = false ∧
      (((ofFlags true true 1).parseInto packet).1.parseInto short).1.numSeqNo = 2 := by
  refine ⟨by decide, ⟨205, 15, 0, twoArrivals.drop 8, 1, []⟩,
    ⟨205, 15, 0, noStatuses.drop 8, 1, []⟩, by decide, by decide, ?_⟩
  decide +kernel

end Objects

end TransportFeedback

end MpWebRtc
