import MpWebRtc.Math.Output
import MpWebRtc.Rtcp.Packets

/-!
# What is written of an emitted packet

`Create` of each class writes to a buffer that was not cleared, and passes over what it wrote. Where
it passes over as much as it wrote, everything that is sent was written: two runs with different
buffers send the same. `SenderReport` passes over four bytes that it does not write.
-/

namespace MpWebRtc

open Math Math.Wire

/-- A step of `Create`: what is written behind `*index`, and by how much `*index` grows. -/
structure Passage where
  writes : List (Nat × List UInt8)
  count : Nat

namespace Passage

/-- The writes follow one another, and are passed over exactly. -/
structure Tight (passage : Passage) : Prop where
  written : passage.writes ≠ []
  contiguous : Output.Contiguous 0 passage.writes
  counted : (passage.writes.flatMap Prod.snd).length = passage.count

/-- The bytes of a step. -/
def bytes (passage : Passage) : List UInt8 := passage.writes.flatMap Prod.snd

/-- One write that is passed over. -/
def single (bytes : List UInt8) : Passage := ⟨[(0, bytes)], bytes.length⟩

theorem single_tight (bytes : List UInt8) : (single bytes).Tight :=
  ⟨List.cons_ne_nil _ _, ⟨rfl, trivial⟩, by simp [single]⟩

/-- The steps one after the other. -/
def runAll : List Passage → Output UInt8 → Option (Output UInt8)
  | [], out => some out
  | passage :: rest, out => (out.fill passage.writes passage.count).bind (runAll rest)

end Passage

/-- `RtcpPacket::CreateHeader`. -/
def headerPassage (countOrFormat packetType length : Nat) (padding : Bool) (pathid : Int32) :
    Passage :=
  ⟨[(0, createHeader countOrFormat packetType length padding pathid)], kHeaderLength⟩

/-- `CreateCommonFeedback`. -/
def commonFeedbackPassage (senderSsrc mediaSsrc : UInt32) : Passage :=
  ⟨[(0, wordBytes senderSsrc), (4, wordBytes mediaSsrc)], 8⟩

/-- `ReportBlock::Create`. -/
def ReportBlock.passage (block : ReportBlock) : Passage where
  writes := [(0, wordBytes block.sourceSsrc), (4, [block.fractionLost]),
    (5, writeBigEndian 3 block.cumulativeLost.toUInt32.toNat),
    (8, wordBytes block.extendedHighSeqNum), (12, wordBytes block.jitter),
    (16, wordBytes block.lastSr), (20, wordBytes block.delaySinceLastSr),
    (24, wordBytes block.extendedHighSeqNum)]
  count := ReportBlock.kLength

/-- An item of `Nack::Create`. -/
def PackedNack.passage (item : PackedNack) : Passage where
  writes := [(0, writeBigEndian 2 item.firstPid.toNat), (2, writeBigEndian 2 item.bitmask.toNat)]
  count := 4

/-- A chunk of `Sdes::Create`, and its padding. -/
def Chunk.passages (chunk : Chunk) : List Passage :=
  [⟨[(0, wordBytes chunk.ssrc), (4, [1]), (5, [UInt8.ofNat chunk.cname.length]),
      (6, chunk.cname)], 6 + chunk.cname.length⟩,
    .single (List.replicate (4 - (6 + chunk.cname.length) % 4) 0)]

/-- The header of a sender report behind the common one. Its base length is that of seven words,
but it has six. -/
def senderPassage (senderSsrc : UInt32) (ntp : NtpTime)
    (rtpTimestamp packetCount octetCount : UInt32) : Passage where
  writes := [(0, wordBytes senderSsrc), (4, wordBytes ntp.seconds), (8, wordBytes ntp.fractions),
    (12, wordBytes rtpTimestamp), (16, wordBytes packetCount), (20, wordBytes octetCount)]
  count := kSenderBaseLength

/-- The packets that are built one by one, with the members `Create` reads. -/
inductive EmittedPacket
  | senderReport (pathid : Int32) (senderSsrc : UInt32) (ntp : NtpTime)
      (rtpTimestamp packetCount octetCount : UInt32)
      (reportBlocks : { blocks : List ReportBlock // blocks.length ≤ kMaxNumberOfReportBlocks })
  | receiverReport (pathid : Int32) (senderSsrc : UInt32)
      (reportBlocks : { blocks : List ReportBlock // blocks.length ≤ kMaxNumberOfReportBlocks })
  | nack (pathid : Int32) (senderSsrc mediaSsrc : UInt32) (packed : List PackedNack)
  | sdes (pathid : Int32) (chunks : { chunks : List Chunk // chunks.length ≤ kMaxNumberOfChunks })
  | remb (senderSsrc : UInt32) (bitrateBps : Nat) (ssrcs : List UInt32)
  | transportFeedback (feedback : TransportFeedback)

namespace EmittedPacket

/-- `BlockLength` of each class. -/
def blockLength : EmittedPacket → Nat
  | senderReport _ _ _ _ _ _ reportBlocks =>
      kHeaderLength + kSenderBaseLength + reportBlocks.val.length * ReportBlock.kLength
  | receiverReport _ _ reportBlocks =>
      kHeaderLength + kRrBaseLength + reportBlocks.val.length * ReportBlock.kLength
  | nack _ _ _ packed => kHeaderLength + 8 + packed.length * 4
  | sdes _ chunks =>
      kHeaderLength + (chunks.val.map fun chunk =>
        6 + chunk.cname.length + (4 - (6 + chunk.cname.length) % 4)).sum
  | remb _ _ ssrcs => kHeaderLength + 8 + (2 + ssrcs.length) * 4
  | transportFeedback feedback => feedback.blockLength

/-- `HeaderLength`. -/
def headerLength (packet : EmittedPacket) : Nat := (packet.blockLength - kHeaderLength) / 4

/-- A fragment of `Nack::Create`. -/
def nackPassages (pathid : Int32) (senderSsrc mediaSsrc : UInt32) (items : List PackedNack) :
    List Passage :=
  headerPassage 1 205 ((8 + items.length * 4) / 4) false pathid ::
    commonFeedbackPassage senderSsrc mediaSsrc :: items.map PackedNack.passage

/-- The steps of `TransportFeedback::Create`. -/
def feedbackPassages (feedback : TransportFeedback) : List Passage :=
  headerPassage kFeedbackMessageType kRtpfbPacketType
      ((feedback.blockLength - kHeaderLength) / 4) (decide (0 < feedback.paddingLength))
      feedback.pathid ::
    commonFeedbackPassage feedback.senderSsrc feedback.mediaSsrc ::
    .single (writeBigEndian 2 feedback.baseSeqNo.toNat) ::
    .single (writeBigEndian 2 feedback.numSeqNo) ::
    .single (writeBigEndian 3 (feedback.baseTimeTicks % 2 ^ 24).toNat) ::
    .single [feedback.feedbackSeq] ::
    (feedback.encodedChunks.map fun chunk => .single (writeBigEndian 2 chunk)) ++
    (if feedback.lastChunk.empty then []
      else [.single (writeBigEndian 2 feedback.lastChunk.encodeLast)]) ++
    (if feedback.includeTimestamps then
        feedback.receivedPackets.map fun packet =>
          .single (TransportFeedback.deltaBytes (packet.deltaTicks.getD 0))
      else []) ++
    (TransportFeedback.paddingBytes feedback.paddingLength).map fun byte => .single [byte]

/-- The steps of `Create` of each class, but for lists of lost packets. -/
def passages (packet : EmittedPacket) : List Passage :=
  match packet with
  | senderReport pathid senderSsrc ntp rtpTimestamp packetCount octetCount reportBlocks =>
      headerPassage reportBlocks.val.length 200 packet.headerLength false pathid ::
        senderPassage senderSsrc ntp rtpTimestamp packetCount octetCount ::
        reportBlocks.val.map ReportBlock.passage
  | receiverReport pathid senderSsrc reportBlocks =>
      headerPassage reportBlocks.val.length 201 packet.headerLength false pathid ::
        .single (wordBytes senderSsrc) :: reportBlocks.val.map ReportBlock.passage
  | nack pathid senderSsrc mediaSsrc packed => nackPassages pathid senderSsrc mediaSsrc packed
  | sdes pathid chunks =>
      headerPassage chunks.val.length 202 packet.headerLength false pathid ::
        chunks.val.flatMap Chunk.passages
  | remb senderSsrc bitrateBps ssrcs =>
      let scaled := scaleDown 0x3ffff bitrateBps
      headerPassage 15 206 packet.headerLength false 3 :: commonFeedbackPassage senderSsrc 0 ::
        .single (wordBytes 0x52454D42) :: .single [UInt8.ofNat ssrcs.length] ::
        .single [UInt8.ofNat (scaled.2 <<< 2 ||| scaled.1 >>> 16)] ::
        .single (writeBigEndian 2 (scaled.1 &&& 0xffff)) ::
        ssrcs.map fun ssrc => .single (wordBytes ssrc)
  | transportFeedback feedback => feedbackPassages feedback

end EmittedPacket

section Buffer

variable (callback : Bool)

/-- `RtcpPacket::OnBufferFull`: without a callback nothing can be sent. -/
def onBufferFull (out : Output UInt8) : Option (Output UInt8 × Bool) :=
  if out.index = 0 then some (out, false)
  else if callback then some (out.flush, true)
  else none

/-- The loop in front of a packet. Once the buffer is empty, sending fails. -/
def makeRoom (maxLength length : Nat) (out : Output UInt8) : Option (Output UInt8 × Bool) :=
  if out.index + length ≤ maxLength then some (out, true)
  else (onBufferFull callback out).map fun reached =>
    (reached.1, reached.2 && decide (reached.1.index + length ≤ maxLength))

/-- The steps of a packet, where there is room. -/
def createBlock (maxLength length : Nat) (passages : List Passage)
    (out : Output UInt8) : Option (Output UInt8 × Bool) :=
  (makeRoom callback maxLength length out).bind fun reached =>
    if reached.2 then (Passage.runAll passages reached.1).map fun out => (out, true)
    else some reached

/-- `Nack::Create`: as many items at a time as the buffer has room for. -/
def createNack (callback : Bool) (maxLength : Nat) (pathid : Int32)
    (senderSsrc mediaSsrc : UInt32) : (packed : List PackedNack) → (out : Output UInt8) →
      Option (Output UInt8 × Bool)
  | [], out => some (out, true)
  | item :: packed, out =>
      (makeRoom callback maxLength (kHeaderLength + 8 + 4) out).bind fun reached =>
        if reached.2 then
          let numNackFields := (maxLength - reached.1.index - (kHeaderLength + 8)) / 4
          (Passage.runAll (EmittedPacket.nackPassages pathid senderSsrc mediaSsrc
              (item :: packed.take (numNackFields - 1))) reached.1).bind fun out =>
            createNack callback maxLength pathid senderSsrc mediaSsrc
              (packed.drop (numNackFields - 1)) out
        else some reached
termination_by packed => packed.length
decreasing_by
  simp only [List.length_drop, List.length_cons]
  omega

namespace EmittedPacket

/-- `Create` of each class; a fault is a write past the end of the buffer, or sending without a
callback. -/
def create (callback : Bool) (maxLength : Nat) (packet : EmittedPacket) (out : Output UInt8) :
    Option (Output UInt8 × Bool) :=
  match packet with
  | nack pathid senderSsrc mediaSsrc packed =>
      createNack callback maxLength pathid senderSsrc mediaSsrc packed out
  | transportFeedback feedback =>
      if feedback.numSeqNo = 0 then some (out, false)
      else createBlock callback maxLength packet.blockLength packet.passages out
  | packet => createBlock callback maxLength packet.blockLength packet.passages out

variable (packet : EmittedPacket)

/-- `RtcpPacket::Build` through a callback: what is sent and the result, of what the buffer had
before. -/
def build (maxLength : Nat) (buffer : List UInt8) : Option (List (List UInt8) × Bool) :=
  if kIpPacketSize < maxLength then none
  else
    (packet.create true maxLength ⟨buffer, 0, []⟩).bind fun reached =>
      if reached.2 then
        (onBufferFull true reached.1).map fun reached => (reached.1.sent, reached.2)
      else some (reached.1.sent, false)

/-- `RtcpPacket::Build` as a whole, in a new buffer of `BlockLength`. Invalid packets, which are not
created or not of this length, are not supported. -/
def buildWhole (buffer : List UInt8) : Option (List UInt8) :=
  (packet.create false buffer.length ⟨buffer, 0, []⟩).bind fun reached =>
    if reached.2 ∧ reached.1.index = buffer.length then
      some (reached.1.memory.take buffer.length)
    else none

end EmittedPacket

end Buffer

section Tight

open Passage

theorem headerPassage_tight (countOrFormat packetType length : Nat) (padding : Bool)
    (pathid : Int32) : (headerPassage countOrFormat packetType length padding pathid).Tight :=
  ⟨List.cons_ne_nil _ _, ⟨rfl, trivial⟩, by simp [headerPassage, length_createHeader]⟩

theorem commonFeedbackPassage_tight (senderSsrc mediaSsrc : UInt32) :
    (commonFeedbackPassage senderSsrc mediaSsrc).Tight :=
  ⟨List.cons_ne_nil _ _, ⟨rfl, by simp [Output.Contiguous]⟩, by simp [commonFeedbackPassage]⟩

theorem ReportBlock.passage_tight (block : ReportBlock) : block.passage.Tight :=
  ⟨List.cons_ne_nil _ _, by simp [ReportBlock.passage, Output.Contiguous],
    by simp [ReportBlock.passage, ReportBlock.kLength]⟩

theorem PackedNack.passage_tight (item : PackedNack) : item.passage.Tight :=
  ⟨List.cons_ne_nil _ _, by simp [PackedNack.passage, Output.Contiguous],
    by simp [PackedNack.passage]⟩

theorem Chunk.passages_tight (chunk : Chunk) : ∀ passage ∈ chunk.passages, passage.Tight := by
  intro passage member
  rcases List.mem_cons.mp member with rfl | member
  · exact ⟨List.cons_ne_nil _ _, by simp [Output.Contiguous], by simp; omega⟩
  · obtain rfl := List.mem_singleton.mp member
    exact single_tight _

namespace EmittedPacket

theorem nackPassages_tight (pathid : Int32) (senderSsrc mediaSsrc : UInt32)
    (items : List PackedNack) :
    ∀ passage ∈ nackPassages pathid senderSsrc mediaSsrc items, passage.Tight := by
  unfold nackPassages
  rw [List.forall_mem_cons, List.forall_mem_cons, List.forall_mem_map]
  exact ⟨headerPassage_tight .., commonFeedbackPassage_tight .., fun item _ => item.passage_tight⟩

theorem feedbackPassages_tight (feedback : TransportFeedback) :
    ∀ passage ∈ feedbackPassages feedback, passage.Tight := by
  unfold feedbackPassages
  simp only [List.forall_mem_cons, List.forall_mem_append, List.forall_mem_map, single_tight,
    headerPassage_tight, commonFeedbackPassage_tight, implies_true, and_true, true_and]
  constructor
  · split
    · exact fun _ => nofun
    · exact List.forall_mem_singleton.mpr (single_tight _)
  · split
    · exact List.forall_mem_map.mpr fun _ _ => single_tight _
    · exact fun _ => nofun

/-- A sender report. -/
def isSenderReport : EmittedPacket → Prop
  | senderReport .. => True
  | _ => False

/-- Every class but `SenderReport` passes over exactly what it writes. -/
theorem passages_tight {packet : EmittedPacket} (other : ¬packet.isSenderReport) :
    ∀ passage ∈ packet.passages, passage.Tight := by
  cases packet with
  | senderReport => exact absurd trivial other
  | receiverReport pathid senderSsrc reportBlocks =>
      unfold passages
      rw [List.forall_mem_cons, List.forall_mem_cons, List.forall_mem_map]
      exact ⟨headerPassage_tight .., single_tight _, fun block _ => block.passage_tight⟩
  | nack pathid senderSsrc mediaSsrc packed => exact nackPassages_tight _ _ _ _
  | sdes pathid chunks =>
      unfold passages
      rw [List.forall_mem_cons, List.forall_mem_flatMap]
      exact ⟨headerPassage_tight .., fun chunk _ => chunk.passages_tight⟩
  | remb senderSsrc bitrateBps ssrcs =>
      unfold passages
      simp only [List.forall_mem_cons, List.forall_mem_map, single_tight, headerPassage_tight,
        commonFeedbackPassage_tight, implies_true, and_true]
  | transportFeedback feedback => exact feedbackPassages_tight feedback

end EmittedPacket

end Tight

section TwoRuns

open Output

variable {first second : Output UInt8}

/-- Both runs go on alike, with the same result, or both fail. -/
abbrev AlikeResults : Option (Output UInt8 × Bool) → Option (Output UInt8 × Bool) → Prop :=
  Option.Rel fun one two => Alike one.1 two.1 ∧ one.2 = two.2

theorem Passage.Tight.fill {passage : Passage} (tight : passage.Tight)
    (alike : Alike first second) :
    Option.Rel Alike (first.fill passage.writes passage.count)
      (second.fill passage.writes passage.count) := by
  rw [fill_eq_put tight.written tight.contiguous tight.counted,
    fill_eq_put tight.written tight.contiguous tight.counted]
  exact alike.put _

variable {passages : List Passage}

theorem Passage.runAll_alike
    (tight : ∀ passage ∈ passages, passage.Tight) (alike : Alike first second) :
    Option.Rel Alike (runAll passages first) (runAll passages second) := by
  induction passages generalizing first second with
  | nil => exact .some alike
  | cons passage rest ih =>
      obtain ⟨now, later⟩ := List.forall_mem_cons.mp tight
      unfold runAll
      exact rel_bind (now.fill alike) fun _ _ next => ih later next

variable (callback : Bool)

theorem onBufferFull_alike (alike : Alike first second) :
    AlikeResults (onBufferFull callback first) (onBufferFull callback second) := by
  unfold onBufferFull
  rw [← alike.index]
  split_ifs
  · exact .some ⟨alike, rfl⟩
  · exact .some ⟨alike.flush, rfl⟩
  · exact .none

variable (maxLength length : Nat)

theorem makeRoom_alike (alike : Alike first second) :
    AlikeResults (makeRoom callback maxLength length first)
      (makeRoom callback maxLength length second) := by
  unfold makeRoom
  rw [← alike.index]
  split_ifs
  · exact .some ⟨alike, rfl⟩
  · refine rel_map (onBufferFull_alike callback alike) fun one two next => ?_
    rw [next.1.index, next.2]
    exact ⟨next.1, rfl⟩

theorem createBlock_alike
    (tight : ∀ passage ∈ passages, passage.Tight) (alike : Alike first second) :
    AlikeResults (createBlock callback maxLength length passages first)
      (createBlock callback maxLength length passages second) := by
  refine rel_bind (makeRoom_alike callback maxLength length alike) fun one two next => ?_
  rw [next.2]
  split_ifs
  · exact rel_map (Passage.runAll_alike tight next.1) fun _ _ done => ⟨done, rfl⟩
  · exact .some next

/-- Every fragment is written as a whole. -/
theorem createNack_alike (maxLength : Nat) (pathid : Int32)
    (senderSsrc mediaSsrc : UInt32) (packed : List PackedNack) (alike : Alike first second) :
    AlikeResults (createNack callback maxLength pathid senderSsrc mediaSsrc packed first)
      (createNack callback maxLength pathid senderSsrc mediaSsrc packed second) := by
  induction packed, first using createNack.induct maxLength generalizing second with
  | case1 out =>
      unfold createNack
      exact .some ⟨alike, rfl⟩
  | case2 item packed out ih =>
      unfold createNack
      refine rel_bind (makeRoom_alike callback maxLength _ alike) fun one two next => ?_
      rw [← next.2, ← next.1.index]
      split_ifs
      · have tight := EmittedPacket.nackPassages_tight pathid senderSsrc mediaSsrc
          (item :: packed.take ((maxLength - one.1.index - (kHeaderLength + 8)) / 4 - 1))
        exact rel_bind (Passage.runAll_alike tight next.1) fun _ _ done => ih one _ done
      · exact .some next

namespace EmittedPacket

variable {packet : EmittedPacket}

/-- Two runs of `Create` go alike. -/
theorem create_alike (callback : Bool) (maxLength : Nat)
    (other : ¬packet.isSenderReport) (alike : Alike first second) :
    AlikeResults (packet.create callback maxLength first)
      (packet.create callback maxLength second) := by
  have block : AlikeResults
      (createBlock callback maxLength packet.blockLength packet.passages first)
      (createBlock callback maxLength packet.blockLength packet.passages second) :=
    createBlock_alike callback maxLength packet.blockLength (passages_tight other) alike
  cases packet with
  | nack pathid senderSsrc mediaSsrc packed =>
      exact createNack_alike callback maxLength pathid senderSsrc mediaSsrc packed alike
  | transportFeedback feedback =>
      unfold create
      dsimp only
      split_ifs
      · exact .some ⟨alike, rfl⟩
      · exact block
  | senderReport => exact absurd trivial other
  | receiverReport => exact block
  | sdes => exact block
  | remb => exact block

/-- What is sent does not depend on what the buffers had before. -/
def DependsOnPacket (packet : EmittedPacket) : Prop :=
  (∀ maxLength buffer buffer', buffer.length = kIpPacketSize → buffer'.length = kIpPacketSize →
      packet.build maxLength buffer = packet.build maxLength buffer') ∧
    ∀ buffer buffer', buffer.length = packet.blockLength → buffer'.length = packet.blockLength →
      packet.buildWhole buffer = packet.buildWhole buffer'

variable {buffer buffer' : List UInt8}

theorem build_eq (other : ¬packet.isSenderReport) (maxLength : Nat)
    (same : buffer.length = buffer'.length) :
    packet.build maxLength buffer = packet.build maxLength buffer' := by
  unfold build
  split_ifs
  · rfl
  · refine eq_of_rel (rel_bind (create_alike true maxLength other (Alike.start same []))
      fun one two next => ?_)
    rw [← next.2]
    split_ifs
    · exact rel_map (onBufferFull_alike true next.1) fun _ _ done => Prod.ext done.1.sent done.2
    · exact .some (Prod.ext next.1.sent rfl)

theorem buildWhole_eq (other : ¬packet.isSenderReport) (same : buffer.length = buffer'.length) :
    packet.buildWhole buffer = packet.buildWhole buffer' := by
  unfold buildWhole
  rw [← same]
  refine eq_of_rel (rel_bind (create_alike false buffer.length other (Alike.start same []))
    fun one two next => ?_)
  rw [← next.2, ← next.1.index]
  split_ifs with valid
  · have written := next.1.written
    rw [← next.1.index, valid.2] at written
    exact .some written
  · exact .none

end EmittedPacket

end TwoRuns

section Gap

open Math.Memory Math.Output EmittedPacket

/-- Steps that are passed over exactly replace as much of the buffer as they write. -/
theorem Passage.runAll_eq_some {passages : List Passage}
    (tight : ∀ passage ∈ passages, passage.Tight) {out : Output UInt8}
    {earlier old later : List UInt8} (shape : out.memory = earlier ++ (old ++ later))
    (position : out.index = earlier.length)
    (size : old.length = (passages.flatMap Passage.bytes).length) :
    runAll passages out = some ⟨earlier ++ (passages.flatMap Passage.bytes ++ later),
      out.index + (passages.flatMap Passage.bytes).length, out.sent⟩ := by
  induction passages generalizing out earlier old with
  | nil =>
      obtain rfl := List.length_eq_zero_iff.mp size
      rw [List.flatMap_nil, ← shape]
      rfl
  | cons passage rest ih =>
      obtain ⟨now, behind⟩ := List.forall_mem_cons.mp tight
      rw [List.flatMap_cons, List.length_append] at size
      have enough : passage.bytes.length ≤ old.length := by omega
      obtain ⟨first, second, rfl, length⟩ := exists_split enough
      rw [List.length_append] at size
      rw [List.append_assoc] at shape
      have written := put_eq_some shape position length
      have next : runAll rest ⟨earlier ++ (passage.bytes ++ (second ++ later)),
          out.index + passage.bytes.length, out.sent⟩ =
            some ⟨(earlier ++ passage.bytes) ++ (rest.flatMap Passage.bytes ++ later),
              out.index + passage.bytes.length + (rest.flatMap Passage.bytes).length, out.sent⟩ :=
        ih behind (List.append_assoc ..).symm (by rw [List.length_append, position]) (by omega)
      rw [runAll, fill_eq_put now.written now.contiguous now.counted]
      change (out.put passage.bytes).bind (runAll rest) = _
      rw [written, Option.bind_some, next, List.flatMap_cons, List.length_append, Nat.add_assoc,
        List.append_assoc, List.append_assoc]

variable (blocks : List ReportBlock)

/-- The bytes of the blocks of a report. -/
def blockBytes : List UInt8 :=
  (blocks.map ReportBlock.passage).flatMap Passage.bytes

theorem length_blockBytes : (blockBytes blocks).length = blocks.length * ReportBlock.kLength := by
  unfold blockBytes
  rw [List.flatMap_map]
  exact length_flatMap_of_forall (fun block => block.passage_tight.counted) blocks

variable {pathid : Int32} {senderSsrc : UInt32} {ntp : NtpTime}
  {rtpTimestamp packetCount octetCount : UInt32}

theorem senderPassage_fill {out : Output UInt8} {earlier base later : List UInt8}
    (shape : out.memory = earlier ++ (base ++ later)) (position : out.index = earlier.length)
    (size : base.length = 24) :
    let passage := senderPassage senderSsrc ntp rtpTimestamp packetCount octetCount
    out.fill passage.writes passage.count =
      some ⟨earlier ++ (passage.bytes ++ later), out.index + kSenderBaseLength, out.sent⟩ := by
  intro passage
  have contiguous : Contiguous 0 passage.writes := by
    simp [passage, senderPassage, Contiguous]
  have length : base.length = passage.bytes.length := by
    rw [size]
    simp [Passage.bytes, passage, senderPassage]
  have whole : out.writeAll passage.writes = out.write 0 passage.bytes :=
    writeAll_eq_write _ _ contiguous out
  rw [fill, whole, write, Nat.add_zero, writeAt_eq_some shape position length]
  rfl

/-- What a sender report is in the buffer: the word behind its header is the one that was there. -/
theorem buildWhole_senderReport
    {reportBlocks : { blocks : List ReportBlock // blocks.length ≤ kMaxNumberOfReportBlocks }}
    {head base gap rest : List UInt8} (start : head.length = 8) (middle : base.length = 24)
    (word : gap.length = 4) (size : rest.length = reportBlocks.val.length * ReportBlock.kLength) :
    let report := senderReport pathid senderSsrc ntp rtpTimestamp packetCount octetCount
      reportBlocks
    report.buildWhole (head ++ (base ++ (gap ++ rest))) =
      some (createHeader reportBlocks.val.length 200 report.headerLength false pathid ++
        ((senderPassage senderSsrc ntp rtpTimestamp packetCount octetCount).bytes ++
          (gap ++ blockBytes reportBlocks.val))) := by
  intro report
  let header := createHeader reportBlocks.val.length 200 report.headerLength false pathid
  let passage := senderPassage senderSsrc ntp rtpTimestamp packetCount octetCount
  let fields := passage.bytes
  let buffer := head ++ (base ++ (gap ++ rest))
  have total : buffer.length = kHeaderLength + kSenderBaseLength +
      reportBlocks.val.length * ReportBlock.kLength := by
    simp only [buffer, List.length_append, start, middle, word, size, kHeaderLength,
      kSenderBaseLength]
    omega
  have headed : header.length = 8 := length_createHeader
  have fielded : fields.length = 24 := by
    simp [fields, passage, Passage.bytes, senderPassage]
  -- the common header, the header of the report, and then the blocks
  have first : (⟨buffer, 0, []⟩ : Output UInt8).put header =
      some ⟨[] ++ (header ++ (base ++ (gap ++ rest))), 0 + header.length, []⟩ :=
    put_eq_some rfl rfl (start.trans headed.symm)
  have second : (⟨[] ++ (header ++ (base ++ (gap ++ rest))), 0 + header.length, []⟩ :
      Output UInt8).fill passage.writes passage.count =
      some ⟨header ++ (fields ++ (gap ++ rest)), 0 + header.length + kSenderBaseLength, []⟩ :=
    senderPassage_fill rfl (Nat.zero_add _) middle
  have third : Passage.runAll (reportBlocks.val.map ReportBlock.passage)
      ⟨header ++ (fields ++ (gap ++ rest)), 0 + header.length + kSenderBaseLength, []⟩ =
        some ⟨header ++ (fields ++ gap) ++ (blockBytes reportBlocks.val ++ []),
          0 + header.length + kSenderBaseLength + (blockBytes reportBlocks.val).length, []⟩ := by
    refine Passage.runAll_eq_some
      (List.forall_mem_map.mpr fun block _ => block.passage_tight) ?_ ?_
      (size.trans (length_blockBytes _).symm)
    · simp only [List.append_assoc, List.append_nil]
    · simp only [List.length_append, headed, fielded, word, kSenderBaseLength]
  have steps : Passage.runAll report.passages ⟨buffer, 0, []⟩ =
        some ⟨header ++ (fields ++ gap) ++ (blockBytes reportBlocks.val ++ []),
          0 + header.length + kSenderBaseLength + (blockBytes reportBlocks.val).length, []⟩ := by
    let opening := headerPassage reportBlocks.val.length 200 report.headerLength false pathid
    have tight : opening.Tight := headerPassage_tight ..
    have put : (⟨buffer, 0, []⟩ : Output UInt8).fill opening.writes opening.count =
          (⟨buffer, 0, []⟩ : Output UInt8).put header :=
      (fill_eq_put tight.written tight.contiguous tight.counted _).trans
        (congrArg _ (List.append_nil header))
    change (Output.fill _ opening.writes opening.count).bind _ = _
    rw [put, first, Option.bind_some, Passage.runAll, second, Option.bind_some]
    exact third
  have ended : 0 + header.length + kSenderBaseLength + (blockBytes reportBlocks.val).length =
      buffer.length := by
    rw [total, headed, length_blockBytes]
    rfl
  have created : report.create false buffer.length ⟨buffer, 0, []⟩ =
        some (⟨header ++ (fields ++ gap) ++ (blockBytes reportBlocks.val ++ []), buffer.length, []⟩,
          true) := by
    change createBlock _ _ _ _ _ = _
    unfold createBlock makeRoom
    rw [if_pos (by rw [total]; exact (Nat.zero_add _).le), Option.bind_some, if_pos rfl, steps,
      ended]
    rfl
  have whole : (header ++ (fields ++ gap) ++ (blockBytes reportBlocks.val ++ [])).length =
      buffer.length := by
    simp only [List.length_append, List.length_nil, headed, fielded, word, length_blockBytes, total,
      kHeaderLength, kSenderBaseLength]
    omega
  have built : report.buildWhole buffer =
        (report.create false buffer.length ⟨buffer, 0, []⟩).bind fun reached =>
            if reached.2 ∧ reached.1.index = buffer.length then
              some (reached.1.memory.take buffer.length)
            else none := rfl
  refine built.trans ?_
  rw [created, Option.bind_some, if_pos ⟨rfl, rfl⟩, List.take_of_length_le whole.le]
  simp only [List.append_assoc, List.append_nil]
  rfl

/-- Two contents of a new buffer give two sender reports. -/
theorem senderReport_not_dependsOnPacket {packet : EmittedPacket}
    (report : packet.isSenderReport) : ¬packet.DependsOnPacket := by
  intro depends
  cases packet with
  | senderReport pathid senderSsrc ntp rtpTimestamp packetCount octetCount reportBlocks =>
      -- a buffer with one byte all over
      let buffer : UInt8 → List UInt8 := fun byte => List.replicate 8 byte ++
        (List.replicate 24 byte ++ (List.replicate 4 byte ++
          List.replicate (reportBlocks.val.length * ReportBlock.kLength) byte))
      have content : ∀ byte, (senderReport pathid senderSsrc ntp rtpTimestamp packetCount octetCount
          reportBlocks).buildWhole (buffer byte) = _ := fun byte =>
        buildWhole_senderReport List.length_replicate List.length_replicate List.length_replicate
          List.length_replicate
      have size : ∀ byte, (buffer byte).length = (senderReport pathid senderSsrc ntp rtpTimestamp
          packetCount octetCount reportBlocks).blockLength := by
        intro byte
        simp only [buffer, List.length_append, List.length_replicate, blockLength, kHeaderLength,
          kSenderBaseLength]
        omega
      have same := depends.2 (buffer 0) (buffer 1) (size 0) (size 1)
      rw [content, content] at same
      have rest := List.append_cancel_left (List.append_cancel_left (Option.some.inj same))
      exact absurd (List.append_cancel_right rest) (by decide)
  | _ => exact report

/-- What `Build` emits of a packet depends on nothing but the packet, for all packets but sender
reports; of these it emits a word of what the buffer had before. -/
theorem emission_dependsOnPacket_iff (packet : EmittedPacket) :
    packet.DependsOnPacket ↔ ¬packet.isSenderReport := by
  constructor
  · exact fun depends report => senderReport_not_dependsOnPacket report depends
  · intro other
    exact ⟨fun maxLength _ _ size size' => build_eq other maxLength (size.trans size'.symm),
      fun _ _ size size' => buildWhole_eq other (size.trans size'.symm)⟩

/-- A report without blocks sends the last word of its buffer. -/
theorem sender_report_leaks :
    let report := senderReport 1 1 ⟨0, 0⟩ 0 0 0 ⟨[], Nat.zero_le _⟩
    ¬(report.buildWhole (List.replicate 36 0) = report.buildWhole (List.replicate 36 1)) ∧
      ¬report.DependsOnPacket := by
  have differ : ¬((senderReport 1 1 ⟨0, 0⟩ 0 0 0 ⟨[], Nat.zero_le _⟩).buildWhole
      (List.replicate 36 0) =
        (senderReport 1 1 ⟨0, 0⟩ 0 0 0 ⟨[], Nat.zero_le _⟩).buildWhole (List.replicate 36 1)) := by
    decide
  exact ⟨differ, fun depends => differ (depends.2 _ _ rfl rfl)⟩

end Gap

end MpWebRtc
