import MpWebRtc.Rtcp.CompoundReceiver
import MpWebRtc.Rtcp.CompoundSender
import MpWebRtc.Rtcp.NackPacking

/-!
# The path a report is attributed to

A compound is built for one path, and its report blocks and lists of lost packets are about
that path. The receiver tells its observers the path id of the last packet of the datagram,
so that they learn the right one only if that packet wrote it. Of the packets that may stand
behind a report, `Tmmbr`, `Tmmbn` and `Remb` never do, and `ExtendedReports`, `App` and
`Bye` only for path 1.
-/

namespace MpWebRtc

open Math.Wire

namespace RtcpPacket

/-- A packet built for a path: where its class keeps a path id, it is that one. -/
def BuiltFor (pathid : Int32) : RtcpPacket → Prop
  | senderReport own _ _ _ _ _ _ _ => own = pathid
  | receiverReport own _ _ => own = pathid
  | sdes own _ => own = pathid
  | pli own _ _ => own = pathid
  | nack own _ _ _ => own = pathid
  | fir own _ _ => own = pathid
  | lossNotification own _ _ _ _ _ => own = pathid
  | _ => True

/-- A packet of a class that writes another path id than that of the compound. -/
def WritesOther (pathid : Int32) : RtcpPacket → Prop
  | tmmbr .. | tmmbn .. | remb .. => pathid ≠ 3
  | extendedReports .. | app .. | bye .. => pathid ≠ 1
  | _ => False

/-- The report blocks of a sender or receiver report. -/
def reportBlocks : RtcpPacket → List ReportBlock
  | senderReport _ _ _ _ _ _ _ blocks => blocks.val
  | receiverReport _ _ blocks => blocks.val
  | _ => []

theorem headerPathid_eq_iff {pathid : Int32} {packet : RtcpPacket}
    (built : packet.BuiltFor pathid) :
    packet.headerPathid = pathid ↔ ¬packet.WritesOther pathid := by
  cases packet with
  | tmmbr | tmmbn | remb | extendedReports | app | bye =>
      simp only [headerPathid, WritesOther, ne_eq, not_not, eq_comm]
  | _ => simpa [headerPathid, WritesOther, BuiltFor] using built

/-- The header of a packet in front of the rest of the datagram. -/
def header (packet : RtcpPacket) (rest : List UInt8) : CommonHeader :=
  ⟨packet.packetType, packet.countOrFormat, 0, packet.payload, packet.headerPathid, rest⟩

end RtcpPacket

namespace RtcpReceiver

variable (receiver : RtcpReceiver)

/-- The receiver keeps a report block of the packet. -/
def TakesReport (packet : RtcpPacket) : Prop :=
  ∃ block ∈ packet.reportBlocks, receiver.registeredSsrcs.contains block.sourceSsrc = true

/-- The packet lists lost packets of a stream of ours. -/
def TakesNack : RtcpPacket → Prop
  | .nack _ _ mediaSsrc packed =>
      receiver.receiverOnly = false ∧ receiver.mainSsrc = mediaSsrc ∧ packed ≠ []
  | _ => False

/-- The observers are told of a report block or of lost packets. -/
def Takes (datagram : List RtcpPacket) : Prop :=
  receiver.rtcpBandwidthObserver = true ∧ (∃ packet ∈ datagram, receiver.TakesReport packet) ∨
    ∃ packet ∈ datagram, receiver.TakesNack packet

/-- The report blocks that the receiver keeps of a packet, as it reads them. -/
def takenReports : RtcpPacket → List RtcpReportBlock
  | .senderReport _ senderSsrc _ _ _ _ _ blocks | .receiverReport _ senderSsrc blocks =>
      (receiver.handleReportBlocks {} senderSsrc
        (blocks.val.map fun block => ReportBlock.parse block.create)).reportBlocks
  | _ => []

/-- The numbers of lost packets that the receiver takes from a packet. -/
def takenNumbers : RtcpPacket → List UInt16
  | .nack _ _ mediaSsrc packed =>
      if receiver.receiverOnly ∨ receiver.mainSsrc ≠ mediaSsrc then []
      else packed.flatMap PackedNack.packetIds
  | _ => []

/-- The observers are told everything that the receiver takes from a datagram. -/
structure TellsAll (datagram : List RtcpPacket) : Prop where
  reports : receiver.rtcpBandwidthObserver = true → datagram.flatMap receiver.takenReports ≠ [] →
    ∃ pathid, RtcpNotice.receivedRtcpReceiverReport (datagram.flatMap receiver.takenReports) pathid ∈
      receiver.incomingPacket (datagramBytes datagram)
  numbers : receiver.receiverOnly = false → datagram.flatMap receiver.takenNumbers ≠ [] →
    ∃ pathid, RtcpNotice.receivedNack (datagram.flatMap receiver.takenNumbers) pathid ∈
      receiver.incomingPacket (datagramBytes datagram)

end RtcpReceiver

/-- What a notice reports is attributed to the path. A notice without path id attributes
nothing. -/
def RtcpNotice.AttributedTo (pathid : Int32) : RtcpNotice → Prop
  | receivedNack _ reported => reported = pathid
  | receivedRtcpReceiverReport blocks reported => blocks ≠ [] → reported = pathid
  | receivedRtcpReportBlocks _ => True
  | transportFeedback feedback => feedback.pathid = pathid

section Fragments

open PacketBuffer

/-- Everything that is written satisfies a condition and fits into a datagram; what was sent
is not empty. -/
structure PacketBuffer.Holds (condition : RtcpPacket → Prop) (maxLength : Nat)
    (buffer : PacketBuffer) : Prop where
  packets : ∀ packet ∈ buffer.packets, condition packet ∧ packet.blockLength ≤ maxLength
  sent : ∀ datagram ∈ buffer.sent,
    datagram ≠ [] ∧ ∀ packet ∈ datagram, condition packet ∧ packet.blockLength ≤ maxLength

variable {condition : RtcpPacket → Prop} {maxLength : Nat} {buffer : PacketBuffer}

section

variable (holds : buffer.Holds condition maxLength)
include holds

theorem PacketBuffer.Holds.onBufferFull
    {emptied : PacketBuffer} (full : buffer.onBufferFull = some emptied) :
    emptied.Holds condition maxLength ∧ emptied.packets = [] := by
  unfold PacketBuffer.onBufferFull at full
  split at full
  · cases full
  · rename_i filled
    obtain rfl := Option.some.inj full
    refine ⟨⟨List.forall_mem_nil _, fun datagram member => ?_⟩, rfl⟩
    rcases List.mem_append.mp member with before | last
    · exact holds.sent datagram before
    · obtain rfl := List.mem_singleton.mp last
      exact ⟨fun empty => filled (by rw [empty]; rfl), holds.packets⟩

/-- Making room keeps what is written; if it succeeds, there is room. -/
theorem PacketBuffer.Holds.makeRoom (length : Nat) :
    (buffer.makeRoom maxLength length).1.Holds condition maxLength ∧
      ((buffer.makeRoom maxLength length).2 = true →
        (buffer.makeRoom maxLength length).1.index + length ≤ maxLength) := by
  unfold PacketBuffer.makeRoom
  split
  · next room => exact ⟨holds, fun _ => room⟩
  · cases full : buffer.onBufferFull with
    | none => exact ⟨holds, fun success => absurd success Bool.false_ne_true⟩
    | some emptied =>
        obtain ⟨kept, empty⟩ := holds.onBufferFull full
        refine ⟨kept, fun success => ?_⟩
        have fits : length ≤ maxLength := of_decide_eq_true success
        simpa [index, empty] using fits

theorem PacketBuffer.Holds.append {packet : RtcpPacket}
    (meets : condition packet) (fits : packet.blockLength ≤ maxLength) :
    (buffer.append packet).Holds condition maxLength := by
  refine ⟨fun other member => ?_, holds.sent⟩
  rcases List.mem_append.mp member with before | last
  · exact holds.packets other before
  · obtain rfl := List.mem_singleton.mp last
    exact ⟨meets, fits⟩

end

theorem PacketBuffer.Holds.createNack {pathid : Int32} {senderSsrc mediaSsrc : UInt32}
    (meets : ∀ packed, condition (.nack pathid senderSsrc mediaSsrc packed))
    (packed : List PackedNack) {buffer : PacketBuffer} (holds : buffer.Holds condition maxLength) :
    (PacketBuffer.createNack maxLength pathid senderSsrc mediaSsrc packed buffer).1.Holds condition
      maxLength := by
  induction packed, buffer using PacketBuffer.createNack.induct maxLength pathid senderSsrc
    mediaSsrc with
  | case1 buffer =>
      rw [PacketBuffer.createNack]
      exact holds
  | case2 buffer item packed stopped made =>
      rw [PacketBuffer.createNack, made]
      have kept := (holds.makeRoom (kNackHeaderLength + 4)).1
      rwa [made] at kept
  | case3 buffer item packed emptied made fields ih =>
      rw [PacketBuffer.createNack, made]
      obtain ⟨kept, room⟩ := holds.makeRoom (kNackHeaderLength + 4)
      rw [made] at kept room
      have room : emptied.index + (kNackHeaderLength + 4) ≤ maxLength := room rfl
      refine ih (kept.append (meets _) ?_)
      rw [blockLength_nack, List.length_cons, List.length_take]
      omega

section

variable (pieces : ∀ pathid senderSsrc mediaSsrc packed other,
  condition (.nack pathid senderSsrc mediaSsrc packed) →
    condition (.nack pathid senderSsrc mediaSsrc other))
include pieces

theorem PacketBuffer.Holds.create {packet : RtcpPacket} (holds : buffer.Holds condition maxLength)
    (meets : condition packet) :
    (PacketBuffer.create maxLength packet buffer).1.Holds condition maxLength := by
  unfold PacketBuffer.create
  split
  · exact holds.createNack (fun other => pieces _ _ _ _ other meets) _
  · obtain ⟨kept, room⟩ := holds.makeRoom packet.blockLength
    split
    · next made => rwa [made] at kept
    · rename_i emptied made
      rw [made] at kept room
      have fits : emptied.index + packet.blockLength ≤ maxLength := room rfl
      exact kept.append meets (by omega)

theorem PacketBuffer.Holds.createAll {packets : List RtcpPacket}
    (holds : buffer.Holds condition maxLength) (meets : ∀ packet ∈ packets, condition packet) :
    (PacketBuffer.createAll maxLength packets buffer).1.Holds condition maxLength := by
  induction packets generalizing buffer with
  | nil => exact holds
  | cons packet packets ih =>
      have written := holds.create pieces (List.forall_mem_cons.mp meets).1
      rw [PacketBuffer.createAll]
      split
      · next made => rwa [made] at written
      · rename_i made
        rw [made] at written
        exact ih written (List.forall_mem_cons.mp meets).2

/-- The datagrams of a compound hold packets of the compound, each short enough for its
length field. -/
theorem buildCompound_holds {packets : List RtcpPacket}
    (meets : ∀ packet ∈ packets, condition packet) :
    ∀ datagram ∈ buildCompound maxLength packets, datagram ≠ [] ∧
      ∀ packet ∈ datagram, condition packet ∧ packet.blockLength ≤ kIpPacketSize := by
  intro datagram member
  unfold buildCompound at member
  split at member
  · cases member
  · rename_i short
    have empty : PacketBuffer.Holds condition maxLength {} :=
      ⟨List.forall_mem_nil _, List.forall_mem_nil _⟩
    have written := empty.createAll pieces meets
    have widen : (datagram ≠ [] ∧
        ∀ packet ∈ datagram, condition packet ∧ packet.blockLength ≤ maxLength) →
        datagram ≠ [] ∧ ∀ packet ∈ datagram, condition packet ∧
          packet.blockLength ≤ kIpPacketSize := fun ⟨filled, all⟩ =>
      ⟨filled, fun packet inside => ⟨(all packet inside).1,
        (all packet inside).2.trans (Nat.le_of_not_lt short)⟩⟩
    apply widen
    split at member
    · rename_i made
      rw [made] at written
      exact written.sent datagram member
    · rename_i buffer made
      rw [made] at written
      cases full : buffer.onBufferFull with
      | none =>
          rw [full] at member
          exact written.sent datagram member
      | some emptied =>
          rw [full] at member
          exact (written.onBufferFull full).1.sent datagram member

end

end Fragments

section Reception

variable {receiver : RtcpReceiver} {info : PacketInformation}

/-- What was collected has its flag, and there is no transport feedback. -/
structure PacketInformation.Coherent (info : PacketInformation) : Prop where
  reports : info.reportBlocks ≠ [] → (info.srFlag || info.rrFlag) = true
  nacks : info.nackSequenceNumbers ≠ [] → info.nackFlag = true
  feedback : info.transportFeedback = none

theorem coherent_empty : PacketInformation.Coherent {} :=
  ⟨fun some => absurd rfl some, fun some => absurd rfl some, rfl⟩

/-- What handling a packet does to what was collected. -/
structure Collects (receiver : RtcpReceiver) (packet : RtcpPacket) (info next : PacketInformation) :
    Prop where
  pathid : next.pathid = packet.headerPathid
  reports : next.reportBlocks = info.reportBlocks ++ receiver.takenReports packet
  nacks : next.nackSequenceNumbers = info.nackSequenceNumbers ++ receiver.takenNumbers packet
  coherent : info.Coherent → next.Coherent

variable {packet : RtcpPacket}

/-- Report blocks are kept if they are about a stream of ours. -/
theorem takenReports_ne_nil_iff :
    receiver.takenReports packet ≠ [] ↔ receiver.TakesReport packet := by
  have kept (remoteSsrc : UInt32) (blocks : List ReportBlock) :
      (receiver.handleReportBlocks {} remoteSsrc
          (blocks.map fun block => ReportBlock.parse block.create)).reportBlocks ≠ [] ↔
        ∃ block ∈ blocks, receiver.registeredSsrcs.contains block.sourceSsrc = true := by
    simp only [RtcpReceiver.handleReportBlocks, List.nil_append, ne_eq, List.map_eq_nil_iff,
      List.filter_eq_nil_iff, List.mem_map, forall_exists_index, and_imp, forall_apply_eq_imp_iff₂,
      ReportBlock.parse_create_sourceSsrc, not_forall, not_not, exists_prop]
  cases packet with
  | senderReport => exact kept _ _
  | receiverReport => exact kept _ _
  | _ => exact iff_of_false (fun some => some rfl) fun ⟨_, member, _⟩ => nomatch member

theorem takenNumbers_ne_nil_iff : receiver.takenNumbers packet ≠ [] ↔ receiver.TakesNack packet := by
  cases packet with
  | nack pathid senderSsrc mediaSsrc packed =>
      have listed : packed.flatMap PackedNack.packetIds ≠ [] ↔ packed ≠ [] := by
        cases packed <;> simp [PackedNack.packetIds]
      unfold RtcpReceiver.takenNumbers RtcpReceiver.TakesNack
      dsimp only
      split_ifs with foreign
      · refine iff_of_false (fun some => some rfl) fun ⟨both, ours, _⟩ => ?_
        simp [both, ours] at foreign
      · obtain ⟨both, ours⟩ := not_or.mp foreign
        simpa [both, not_not.mp ours] using listed
  | _ => exact iff_of_false (fun some => some rfl) id

/-- A report that does not change what else was collected. -/
theorem collects_of_reports {flagged : PacketInformation} {remoteSsrc : UInt32}
    (pathid : flagged.pathid = packet.headerPathid)
    (reports : flagged.reportBlocks = info.reportBlocks)
    (nacks : flagged.nackSequenceNumbers = info.nackSequenceNumbers)
    (nackFlag : flagged.nackFlag = info.nackFlag)
    (feedback : flagged.transportFeedback = info.transportFeedback)
    (flag : (flagged.srFlag || flagged.rrFlag) = true)
    (taken : receiver.takenReports packet = (receiver.handleReportBlocks {} remoteSsrc
      (packet.reportBlocks.map fun block => ReportBlock.parse block.create)).reportBlocks)
    (other : receiver.takenNumbers packet = []) :
    Collects receiver packet info (receiver.handleReportBlocks flagged remoteSsrc
      (packet.reportBlocks.map fun block => ReportBlock.parse block.create)) where
  pathid := pathid
  reports := by
    rw [taken, ← reports]
    rfl
  nacks := by
    rw [other, List.append_nil]
    exact nacks
  coherent := fun coherent =>
    ⟨fun _ => flag, fun some => nackFlag.trans (coherent.nacks (nacks ▸ some)),
      feedback.trans coherent.feedback⟩

variable {block : CommonHeader} {senderSsrc : UInt32}

theorem handleSenderReport_eq {fixed : List UInt8}
    {blocks : List ReportBlock} (size : fixed.length = 24) (count : block.fmt = blocks.length)
    (payload : block.payload =
      wordBytes senderSsrc ++ (fixed ++ blocks.flatMap ReportBlock.create)) :
    receiver.handleSenderReport block info =
      receiver.handleReportBlocks
        (if receiver.remoteSsrc = senderSsrc then
          { info with remoteSsrc := senderSsrc, srFlag := true }
        else { info with remoteSsrc := senderSsrc, rrFlag := true }) senderSsrc
        (blocks.map fun block => ReportBlock.parse block.create) := by
  have front : (wordBytes senderSsrc ++ fixed).length = kSenderBaseLength := by
    rw [List.length_append, length_wordBytes, size, kSenderBaseLength]
  have whole : block.payload.length = kSenderBaseLength + block.fmt * ReportBlock.kLength := by
    rw [payload, count, ← List.append_assoc, List.length_append, front,
      length_flatMap_of_forall ReportBlock.length_create]
  have behind : ReportBlock.parseBlocks block.fmt (block.payload.drop kSenderBaseLength) =
      blocks.map fun block => ReportBlock.parse block.create := by
    rw [payload, count, ← List.append_assoc, ReportBlock.parseBlocks_drop front]
  rw [RtcpReceiver.handleSenderReport, if_neg whole.not_lt, behind, payload, ReportBlock.readWord_wordBytes]

theorem collects_senderReport (pathid : Int32) (senderSsrc : UInt32) (ntp : NtpTime)
    (rtpTimestamp packetCount octetCount gap : UInt32)
    (blocks : { blocks : List ReportBlock // blocks.length ≤ kMaxNumberOfReportBlocks })
    (rest : List UInt8) :
    Collects receiver
      (.senderReport pathid senderSsrc ntp rtpTimestamp packetCount octetCount gap blocks) info
      (receiver.handleBlock ((RtcpPacket.senderReport pathid senderSsrc ntp rtpTimestamp packetCount
        octetCount gap blocks).header rest) info) := by
  have size : (wordBytes ntp.seconds ++ wordBytes ntp.fractions ++ wordBytes rtpTimestamp ++
      wordBytes packetCount ++ wordBytes octetCount ++ wordBytes gap).length = 24 := by
    simp
  change Collects _ _ _ (receiver.handleSenderReport _ { info with pathid := pathid })
  rw [handleSenderReport_eq size rfl rfl]
  split
  · exact collects_of_reports rfl rfl rfl rfl rfl rfl rfl rfl
  · exact collects_of_reports rfl rfl rfl rfl rfl (Bool.or_true _) rfl rfl

theorem handleReceiverReport_eq {blocks : List ReportBlock} (count : block.fmt = blocks.length)
    (payload : block.payload = wordBytes senderSsrc ++ blocks.flatMap ReportBlock.create) :
    receiver.handleReceiverReport block info =
      receiver.handleReportBlocks { info with remoteSsrc := senderSsrc, rrFlag := true } senderSsrc
        (blocks.map fun block => ReportBlock.parse block.create) := by
  have whole : block.payload.length = kRrBaseLength + block.fmt * ReportBlock.kLength := by
    rw [payload, count, List.length_append, length_wordBytes,
      length_flatMap_of_forall ReportBlock.length_create, kRrBaseLength]
  rw [RtcpReceiver.handleReceiverReport, if_neg whole.not_lt, payload, count,
    kRrBaseLength, ReportBlock.parseBlocks_drop (length_wordBytes senderSsrc), ReportBlock.readWord_wordBytes]

theorem collects_receiverReport (pathid : Int32) (senderSsrc : UInt32)
    (blocks : { blocks : List ReportBlock // blocks.length ≤ kMaxNumberOfReportBlocks })
    (rest : List UInt8) :
    Collects receiver (.receiverReport pathid senderSsrc blocks) info
      (receiver.handleBlock ((RtcpPacket.receiverReport pathid senderSsrc blocks).header rest)
        info) := by
  change Collects _ _ _ (receiver.handleReceiverReport _ { info with pathid := pathid })
  rw [handleReceiverReport_eq rfl rfl]
  exact collects_of_reports rfl rfl rfl rfl rfl (Bool.or_true _) rfl rfl

theorem collects_nack (pathid : Int32) (senderSsrc mediaSsrc : UInt32) (packed : List PackedNack)
    (rest : List UInt8) :
    Collects receiver (.nack pathid senderSsrc mediaSsrc packed) info
      (receiver.handleBlock ((RtcpPacket.nack pathid senderSsrc mediaSsrc packed).header rest)
        info) := by
  have items := length_flatMap_of_forall PackedNack.length_create packed
  have whole : (wordBytes senderSsrc ++ (wordBytes mediaSsrc ++
      packed.flatMap PackedNack.create)).length = 8 + packed.length * 4 := by
    simp only [List.length_append, length_wordBytes, items]
    omega
  change Collects _ _ _ (receiver.handleNack _ { info with pathid := pathid })
  rw [RtcpReceiver.handleNack]
  simp only [RtcpPacket.header, RtcpPacket.payload, whole, ReportBlock.readWord_second]
  have nothing (none : receiver.takenNumbers (.nack pathid senderSsrc mediaSsrc packed) = []) :
      Collects receiver (.nack pathid senderSsrc mediaSsrc packed) info
        { info with pathid := pathid } :=
    ⟨rfl, (List.append_nil _).symm, by rw [none, List.append_nil],
      fun coherent => ⟨coherent.reports, coherent.nacks, coherent.feedback⟩⟩
  split_ifs with short foreign
  · obtain rfl : packed = [] := List.eq_nil_of_length_eq_zero (by omega)
    exact nothing (ite_self _)
  · exact nothing (if_pos foreign)
  · have all : receiver.takenNumbers (.nack pathid senderSsrc mediaSsrc packed) =
        packed.flatMap PackedNack.packetIds := if_neg foreign
    have count : (8 + packed.length * 4 - 8) / 4 = packed.length := by omega
    have behind : (wordBytes senderSsrc ++ (wordBytes mediaSsrc ++
        packed.flatMap PackedNack.create)).drop 8 = packed.flatMap PackedNack.create := rfl
    rw [count, behind, PackedNack.parseItems_create]
    refine ⟨rfl, (List.append_nil _).symm, by rw [all], fun coherent => ⟨coherent.reports,
      fun some => ?_, coherent.feedback⟩⟩
    rw [Bool.or_eq_true, Bool.not_eq_true', List.isEmpty_eq_false_iff]
    exact (not_and_or.mp (mt List.append_eq_nil_iff.mpr some)).imp coherent.nacks id

/-- Handling a packet of a compound. Packets of the other classes only leave their path. -/
theorem collects_packet (packet : RtcpPacket) (rest : List UInt8) :
    Collects receiver packet info (receiver.handleBlock (packet.header rest) info) := by
  cases packet with
  | senderReport => exact collects_senderReport ..
  | receiverReport => exact collects_receiverReport ..
  | nack => exact collects_nack ..
  | _ =>
      exact ⟨rfl, (List.append_nil _).symm, (List.append_nil _).symm, fun coherent =>
        ⟨coherent.reports, coherent.nacks, coherent.feedback⟩⟩

theorem parse_packet (short : packet.blockLength ≤ kIpPacketSize)
    (rest : List UInt8) : CommonHeader.parse (packet.bytes ++ rest) = some (packet.header rest) :=
  packet.parse_bytes (short.trans (by decide)) rest

variable {datagram : List RtcpPacket}

/-- What is collected from a datagram: the path of its last packet, and what the receiver
takes from any of them. -/
theorem parseBlocks_datagram (short : ∀ packet ∈ datagram, packet.blockLength ≤ kIpPacketSize)
    {info next : PacketInformation} (coherent : info.Coherent)
    (parsed : receiver.parseBlocks (datagramBytes datagram) info = next) :
    next.pathid = (datagram.getLast?.map RtcpPacket.headerPathid).getD info.pathid ∧
      next.reportBlocks = info.reportBlocks ++ datagram.flatMap receiver.takenReports ∧
      next.nackSequenceNumbers =
        info.nackSequenceNumbers ++ datagram.flatMap receiver.takenNumbers ∧
      next.Coherent := by
  induction datagram generalizing info with
  | nil =>
      rw [datagramBytes, List.flatMap_nil, receiver.parseBlocks_of_none info rfl] at parsed
      subst parsed
      simpa using coherent
  | cons packet datagram ih =>
      obtain ⟨first, others⟩ := List.forall_mem_cons.mp short
      have collects : Collects receiver packet info
          (receiver.handleBlock (packet.header (datagramBytes datagram)) info) :=
        collects_packet packet _
      have header : CommonHeader.parse (datagramBytes (packet :: datagram)) =
          some (packet.header (datagramBytes datagram)) := by
        rw [datagramBytes, List.flatMap_cons]
        exact parse_packet first _
      rw [receiver.parseBlocks_of_some info header] at parsed
      obtain ⟨pathid, reports, nacks, done⟩ := ih others (collects.coherent coherent) parsed
      refine ⟨?_, ?_, ?_, done⟩
      · rw [pathid, collects.pathid, List.getLast?_cons]
        cases datagram.getLast? <;> rfl
      · rw [reports, collects.reports, List.flatMap_cons, List.append_assoc]
      · rw [nacks, collects.nacks, List.flatMap_cons, List.append_assoc]

/-- The observers are told the path of what was collected last. -/
theorem triggerCallbacks_attributed (coherent : info.Coherent) (pathid : Int32) :
    (∀ notice ∈ receiver.triggerCallbacksFromRtcpPacket info, notice.AttributedTo pathid) ↔
      (receiver.rtcpBandwidthObserver = true ∧ info.reportBlocks ≠ [] ∨
        receiver.receiverOnly = false ∧ info.nackSequenceNumbers ≠ [] → info.pathid = pathid) := by
  have nacks : (∀ notice ∈ (if !receiver.receiverOnly && info.nackFlag &&
      !info.nackSequenceNumbers.isEmpty then
        [RtcpNotice.receivedNack info.nackSequenceNumbers info.pathid] else []),
      notice.AttributedTo pathid) ↔
      (receiver.receiverOnly = false ∧ info.nackSequenceNumbers ≠ [] → info.pathid = pathid) := by
    split
    · rename_i told
      simp only [Bool.and_eq_true, Bool.not_eq_true', List.isEmpty_eq_false_iff] at told
      rw [List.forall_mem_singleton]
      exact ⟨fun same _ => same, fun same => same ⟨told.1.1, told.2⟩⟩
    · rename_i quiet
      refine iff_of_true (List.forall_mem_nil _) fun ⟨both, listed⟩ => absurd ?_ quiet
      simp [both, coherent.nacks listed, listed]
  have reports : (∀ notice ∈ (if receiver.rtcpBandwidthObserver && (info.srFlag || info.rrFlag) then
        [RtcpNotice.receivedRtcpReceiverReport info.reportBlocks info.pathid] else []),
      notice.AttributedTo pathid) ↔
      (receiver.rtcpBandwidthObserver = true ∧ info.reportBlocks ≠ [] → info.pathid = pathid) := by
    split
    · rename_i told
      rw [Bool.and_eq_true] at told
      rw [List.forall_mem_singleton]
      exact ⟨fun same some => same some.2, fun same some => same ⟨told.1, some⟩⟩
    · rename_i quiet
      refine iff_of_true (List.forall_mem_nil _) fun ⟨observer, listed⟩ => absurd ?_ quiet
      rw [observer, coherent.reports listed]
      rfl
  have plain : ∀ notice ∈ (if info.srFlag || info.rrFlag then
      [RtcpNotice.receivedRtcpReportBlocks info.reportBlocks] else []),
      notice.AttributedTo pathid := by
    split
    · exact List.forall_mem_singleton.mpr trivial
    · exact List.forall_mem_nil _
  rw [RtcpReceiver.triggerCallbacksFromRtcpPacket, coherent.feedback, List.append_nil]
  simp only [List.forall_mem_append, nacks, reports]
  rw [and_iff_left plain, or_imp, and_comm]

theorem incomingPacket_datagram (filled : datagram ≠ [])
    (short : ∀ packet ∈ datagram, packet.blockLength ≤ kIpPacketSize) :
    receiver.incomingPacket (datagramBytes datagram) =
      receiver.triggerCallbacksFromRtcpPacket
    (receiver.parseBlocks (datagramBytes datagram) {}) := by
  obtain ⟨packet, others, rfl⟩ := List.exists_cons_of_ne_nil filled
  have header : CommonHeader.parse (datagramBytes (packet :: others)) =
      some (packet.header (datagramBytes others)) := by
    rw [datagramBytes, List.flatMap_cons]
    exact parse_packet (List.forall_mem_cons.mp short).1 _
  rw [RtcpReceiver.incomingPacket, if_neg, RtcpReceiver.parseCompoundPacket, header]
  · rfl
  · intro empty
    rw [List.isEmpty_iff.mp empty] at header
    cases header

section

variable (filled : datagram ≠ []) (short : ∀ packet ∈ datagram, packet.blockLength ≤ kIpPacketSize)
include filled short

/-- Whatever is taken from a datagram is told. -/
theorem incomingPacket_tellsAll : receiver.TellsAll datagram := by
  obtain ⟨-, reports, nacks, coherent⟩ := parseBlocks_datagram short coherent_empty rfl
  have told : receiver.incomingPacket (datagramBytes datagram) = _ :=
    incomingPacket_datagram filled short
  rw [List.nil_append] at reports nacks
  unfold RtcpReceiver.triggerCallbacksFromRtcpPacket at told
  constructor
  · intro observer some
    have flagged := coherent.reports (reports ▸ some)
    rw [told, observer, flagged, reports]
    exact ⟨_, List.mem_append_left _ (List.mem_append_left _
      (List.mem_append_right _ (List.mem_singleton_self _)))⟩
  · intro both some
    have flagged := coherent.nacks (nacks ▸ some)
    rw [told, both, flagged, nacks, List.isEmpty_eq_false_iff.mpr some]
    exact ⟨_, List.mem_append_left _ (List.mem_append_left _
      (List.mem_append_left _ (List.mem_singleton_self _)))⟩

/-- A datagram is attributed to a path if nothing is taken from it or its last packet says
so. -/
theorem incomingPacket_attributed {pathid : Int32}
    (built : ∀ packet ∈ datagram, packet.BuiltFor pathid) :
    (∀ notice ∈ receiver.incomingPacket (datagramBytes datagram), notice.AttributedTo pathid) ↔
      (receiver.Takes datagram → ∀ packet ∈ datagram.getLast?, ¬packet.WritesOther pathid) := by
  obtain ⟨path, reports, nacks, coherent⟩ := parseBlocks_datagram short coherent_empty rfl
  obtain ⟨last, isLast⟩ := Option.ne_none_iff_exists'.mp (mt List.getLast?_eq_none_iff.mp filled)
  have told : (receiver.rtcpBandwidthObserver = true ∧
      (receiver.parseBlocks (datagramBytes datagram) {}).reportBlocks ≠ [] ∨
      receiver.receiverOnly = false ∧
        (receiver.parseBlocks (datagramBytes datagram) {}).nackSequenceNumbers ≠ []) ↔
      receiver.Takes datagram := by
    rw [reports, nacks]
    simp only [List.nil_append, ne_eq, List.flatMap_eq_nil_iff, not_forall, exists_prop]
    simp only [← ne_eq, takenReports_ne_nil_iff, takenNumbers_ne_nil_iff]
    refine or_congr Iff.rfl ⟨fun taken => taken.2, fun taken => ⟨?_, taken⟩⟩
    obtain ⟨packet, -, takes⟩ := taken
    cases packet with
    | nack => exact takes.1
    | _ => exact takes.elim
  rw [incomingPacket_datagram filled short, triggerCallbacks_attributed coherent, told, path, isLast]
  simp only [Option.map_some, Option.getD_some, Option.mem_def, Option.some.injEq, forall_eq',
    RtcpPacket.headerPathid_eq_iff (built last (List.mem_of_getLast? isLast))]

end

end Reception

section Pending

namespace RtcpSender

/-- The flags whose packets write path 3. -/
def writesThree : List Nat := [kRtcpTmmbr, kRtcpTmmbn, kRtcpRemb]

/-- The flags whose packets write path 1. -/
def writesOne : List Nat :=
  [kRtcpAnyExtendedReports, kRtcpBye, kAppSubtypeMpHalf, kAppSubtypeMpFull, kAppSubtypeQuic,
    kAppSubtypeMpFrameRate, kAppSubtypeMpAsymmetry, kAppSubtypeMpRr1, kAppSubtypeMpRr2]

/-- The flags whose packets write another path id than that of the compound. -/
def WritesOtherPath (pathid : Int32) (flag : Nat) : Prop :=
  flag ∈ writesThree ∧ pathid ≠ 3 ∨ flag ∈ writesOne ∧ pathid ≠ 1

/-- The flags packets are built for, in the order of the compound: by value, a BYE last. -/
def compoundOrder (flags : List (Nat × Bool)) : List Nat :=
  let known := (flags.map Prod.fst).filter fun flag => (builders.lookup flag).isSome
  known.filter (fun flag => flag ≠ kRtcpBye) ++ if kRtcpBye ∈ known then [kRtcpBye] else []

/-- A packet that was built for a flag and a path. -/
structure BuiltFrom (pathid : Int32) (flag : Nat) (packet : RtcpPacket) : Prop where
  path : packet.BuiltFor pathid
  writes : packet.WritesOther pathid ↔ WritesOtherPath pathid flag

variable {packet : RtcpPacket} {pathid : Int32}

theorem builtFrom_own {flag : Nat}
    (path : packet.BuiltFor pathid) (never : packet.WritesOther pathid ↔ False)
    (other : flag ∉ writesThree ∧ flag ∉ writesOne) : BuiltFrom pathid flag packet :=
  ⟨path, never.trans (iff_of_false id fun writes =>
    writes.elim (fun three => other.1 three.1) fun one => other.2 one.1)⟩

theorem builtFrom_three {flag : Nat}
    (path : packet.BuiltFor pathid) (three : packet.WritesOther pathid ↔ pathid ≠ 3)
    (kind : flag ∈ writesThree ∧ flag ∉ writesOne) : BuiltFrom pathid flag packet :=
  ⟨path, three.trans ⟨fun other => .inl ⟨kind.1, other⟩, fun writes =>
    writes.elim And.right fun one => absurd one.1 kind.2⟩⟩

theorem builtFrom_one {flag : Nat}
    (path : packet.BuiltFor pathid) (one : packet.WritesOther pathid ↔ pathid ≠ 1)
    (kind : flag ∉ writesThree ∧ flag ∈ writesOne) : BuiltFrom pathid flag packet :=
  ⟨path, one.trans ⟨fun other => .inr ⟨kind.2, other⟩, fun writes =>
    writes.elim (fun three => absurd three.1 kind.1) And.right⟩⟩

variable {context : RtcpContext}

theorem exists_of_buildTMMBR {sender : RtcpSender}
    (built : sender.buildTMMBR context = some packet) :
    ∃ items, packet = .tmmbr sender.ssrc items := by
  unfold buildTMMBR at built
  split at built
  · cases built
  · dsimp only at built
    split_ifs at built
    exact ⟨_, (Option.some.inj built).symm⟩

variable {sender next : RtcpSender}

/-- Every builder builds for the path it is given, in its class's way. -/
theorem builtFrom_of_mem : ∀ entry ∈ builders, ∀ (sender : RtcpSender) (packet : RtcpPacket),
    (entry.2 sender context pathid).2 = some packet → BuiltFrom pathid entry.1 packet := by
  unfold builders
  repeat' refine List.forall_mem_cons.mpr ⟨?_, ?_⟩
  -- Extended reports and the application packets all write path 1.
  all_goals try
    rintro sender packet ⟨⟩
    first
    | exact builtFrom_own rfl Iff.rfl (by decide)
    | exact builtFrom_three trivial Iff.rfl (by decide)
    | exact builtFrom_one trivial Iff.rfl (by decide)
  · intro sender packet request
    obtain ⟨items, rfl⟩ := exists_of_buildTMMBR request
    exact builtFrom_three trivial Iff.rfl (by decide)
  · exact fun _ none => absurd none List.not_mem_nil

/-- What the loop has built from the flags it has seen. -/
structure Progress (pathid : Int32) (known : List Nat) (out : CompoundPacket) : Prop where
  packets : List.Forall₂ (BuiltFrom pathid) (known.filter fun flag => flag ≠ kRtcpBye) out.packets
  bye : List.Forall₂ (BuiltFrom pathid) (if kRtcpBye ∈ known then [kRtcpBye] else []) out.bye.toList

theorem Progress.buildFlag {context : RtcpContext} {pathid : Int32} {known : List Nat}
    {sender next : RtcpSender} {out done : CompoundPacket} (progress : Progress pathid known out)
    {flag : Nat × Bool}
    (built : RtcpSender.buildFlag context pathid sender out flag = (next, some done)) :
    Progress pathid
      (known ++ [flag.1].filter fun flag => (builders.lookup flag).isSome) done := by
  unfold RtcpSender.buildFlag at built
  dsimp only at built
  cases found : builders.lookup flag.1 with
  | none =>
      rw [found] at built
      obtain rfl := Option.some.inj (congrArg Prod.snd built)
      simpa [found] using progress
  | some build =>
      rw [found] at built
      dsimp only at built
      have kept : [flag.1].filter (fun flag => (builders.lookup flag).isSome) = [flag.1] := by
        simp [found]
      rw [kept]
      split at built
      · cases built
      · rename_i packet made
        have fits := builtFrom_of_mem _ (mem_of_lookup found) _ _ (congrArg Prod.snd made)
        split_ifs at built with bye
        · obtain rfl := Option.some.inj (congrArg Prod.snd built)
          rw [bye] at fits ⊢
          refine ⟨?_, ?_⟩
          · simpa using progress.packets
          · simpa using fits
        · obtain rfl := Option.some.inj (congrArg Prod.snd built)
          refine ⟨?_, ?_⟩
          · rw [List.filter_append, List.filter_cons_of_pos (by simpa using bye), List.filter_nil]
            exact List.rel_append progress.packets (.cons fits .nil)
          · simpa [Ne.symm bye] using progress.bye

/-- The loop builds the packets of the flags in order and keeps a BYE apart. -/
theorem Progress.buildFlags {context : RtcpContext} {pathid : Int32} (flags : List (Nat × Bool))
    {known : List Nat} {sender next : RtcpSender} {out done : CompoundPacket}
    (progress : Progress pathid known out)
    (built : RtcpSender.buildFlags context pathid flags sender out = (next, some done)) :
    Progress pathid
      (known ++ (flags.map Prod.fst).filter fun flag => (builders.lookup flag).isSome) done := by
  induction flags generalizing known sender out with
  | nil =>
      obtain rfl := Option.some.inj (congrArg Prod.snd built)
      simpa using progress
  | cons flag flags ih =>
      rw [RtcpSender.buildFlags] at built
      split at built
      · cases built
      · rename_i made
        have step := ih (progress.buildFlag made) built
        rwa [List.append_assoc, ← List.filter_append] at step

/-- The packets of a compound, each with the flag it was built for. -/
theorem computeCompoundRTCPPacket_builtFrom {packetTypes : List Nat} {packets : List RtcpPacket}
    (computed : sender.computeCompoundRTCPPacket context packetTypes pathid = (next, .ok packets)) :
    List.Forall₂ (BuiltFrom pathid)
      (compoundOrder (sender.prepare context packetTypes).1.reportFlags.entries) packets := by
  unfold computeCompoundRTCPPacket at computed
  cases prepared : sender.prepare context packetTypes with
  | mk ready result =>
      rw [prepared] at computed
      cases result with
      | some result => cases computed
      | none =>
          dsimp only at computed
          split at computed
          · cases computed
          · rename_i built
            obtain ⟨-, rfl⟩ := computed
            have start : Progress pathid [] {} := ⟨.nil, by simp⟩
            have done := start.buildFlags _ built
            rw [List.nil_append] at done
            exact List.rel_append done.packets done.bye

end RtcpSender

end Pending

/-- Every report block and list of lost packets that is taken from a compound for a path is handed
over, and these, like transport feedback, with the id of that path. -/
def Attributed (sender : RtcpSender) (receiver : RtcpReceiver) (context : RtcpContext)
    (packetTypes : List Nat) (pathid : Int32) : Prop :=
  ∀ datagram ∈ sender.sendCompoundRTCP context packetTypes pathid, receiver.TellsAll datagram ∧
    ∀ notice ∈ receiver.incomingPacket (datagramBytes datagram), notice.AttributedTo pathid

section Compound

variable (sender : RtcpSender) (receiver : RtcpReceiver) (context : RtcpContext)
  (packetTypes : List Nat) (pathid : Int32)

/-- The datagrams of a compound are made of packets built for its path. -/
theorem sendCompoundRTCP_built :
    ∀ datagram ∈ sender.sendCompoundRTCP context packetTypes pathid, datagram ≠ [] ∧
      ∀ packet ∈ datagram, packet.BuiltFor pathid ∧ packet.blockLength ≤ kIpPacketSize := by
  unfold RtcpSender.sendCompoundRTCP
  split
  · exact List.forall_mem_nil _
  · rename_i computed
    have built := RtcpSender.computeCompoundRTCPPacket_builtFrom computed
    refine buildCompound_holds (fun _ _ _ _ _ same => same) fun packet member => ?_
    obtain ⟨index, inside, rfl⟩ := List.getElem_of_mem member
    exact (built.get (built.length_eq ▸ inside) inside).path

/-- In each datagram the last packet decides. -/
theorem attributed_iff_last :
    Attributed sender receiver context packetTypes pathid ↔
      ∀ datagram ∈ sender.sendCompoundRTCP context packetTypes pathid, receiver.Takes datagram →
        ∀ packet ∈ datagram.getLast?, ¬packet.WritesOther pathid := by
  refine forall₂_congr fun datagram member => ?_
  obtain ⟨filled, built⟩ := sendCompoundRTCP_built sender context packetTypes pathid datagram member
  have short : ∀ packet ∈ datagram, packet.blockLength ≤ kIpPacketSize :=
    fun packet inside => (built packet inside).2
  exact (and_iff_right (incomingPacket_tellsAll filled short)).trans
    (incomingPacket_attributed filled short fun packet inside => (built packet inside).1)

/-- The last packet of a compound is that of the last flag. -/
theorem last_writes_iff {next : RtcpSender} {packets : List RtcpPacket}
    (computed : sender.computeCompoundRTCPPacket context packetTypes pathid = (next, .ok packets)) :
    (∀ packet ∈ packets.getLast?, ¬packet.WritesOther pathid) ↔
      ∀ flag ∈ (RtcpSender.compoundOrder
        (sender.prepare context packetTypes).1.reportFlags.entries).getLast?,
        ¬RtcpSender.WritesOtherPath pathid flag := by
  have built := RtcpSender.computeCompoundRTCPPacket_builtFrom computed
  have reversed := List.forall₂_reverse_iff.mpr built
  rw [List.getLast?_eq_head?_reverse, List.getLast?_eq_head?_reverse]
  generalize packets.reverse = backwards at reversed ⊢
  generalize (RtcpSender.compoundOrder
    (sender.prepare context packetTypes).1.reportFlags.entries).reverse = flags at reversed ⊢
  cases reversed with
  | nil => simp
  | cons last _ => simp [last.writes]

/-- **Attribution of a compound.** A compound for a path is attributed to it exactly if no
datagram from which something is taken ends in a packet that writes another path id. If the
compound is sent as one datagram, this is the packet of the last pending flag. -/
theorem compound_attributed_iff :
    (Attributed sender receiver context packetTypes pathid ↔
      ∀ datagram ∈ sender.sendCompoundRTCP context packetTypes pathid, receiver.Takes datagram →
        ∀ packet ∈ datagram.getLast?, ¬packet.WritesOther pathid) ∧
    ∀ next packets,
      sender.computeCompoundRTCPPacket context packetTypes pathid = (next, .ok packets) →
      sender.sendCompoundRTCP context packetTypes pathid = [packets] →
      (Attributed sender receiver context packetTypes pathid ↔
        (receiver.Takes packets →
          ∀ flag ∈ (RtcpSender.compoundOrder
            (sender.prepare context packetTypes).1.reportFlags.entries).getLast?,
            ¬RtcpSender.WritesOtherPath pathid flag)) := by
  have general := attributed_iff_last sender receiver context packetTypes pathid
  refine ⟨general, fun next packets computed single => ?_⟩
  rw [general, single, List.forall_mem_singleton,
    last_writes_iff sender context packetTypes pathid computed]

end Compound

/-- A receiver of media that reports its reference time as well. -/
def referenceTimeSender : RtcpSender where
  ssrc := 1
  remoteSsrc := 2
  xrSendReceiverReferenceTimeEnabled := true
  receiveStatistics := some fun _ => [{ sourceSsrc := 2 }]

/-- The sender of the media. -/
def mediaSender : RtcpReceiver where
  mainSsrc := 2
  registeredSsrcs := [2]
  remoteSsrc := 1

/-- Without extended reports the report comes last, and is attributed. -/
theorem compound_attributed_plain :
    Attributed { referenceTimeSender with xrSendReceiverReferenceTimeEnabled := false } mediaSender
      {} [kRtcpReport] 2 := by
  refine ((compound_attributed_iff _ _ _ _ _).2 _ _ rfl rfl).mpr fun _ flag member => ?_
  obtain rfl : kRtcpRr = flag := Option.some.inj member
  unfold RtcpSender.WritesOtherPath
  decide

/-- A report about path 2 is followed by extended reports, which write path 1. -/
theorem report_followed_by_extended_reports :
    ¬Attributed referenceTimeSender mediaSender {} [kRtcpReport] 2 := by
  have sent : referenceTimeSender.sendCompoundRTCP {} [kRtcpReport] 2 =
      [[.receiverReport 2 1 ⟨[{ sourceSsrc := 2 }], by decide⟩,
        .extendedReports 1 (some ⟨0, 0⟩) [] none]] := rfl
  rw [attributed_iff_last, sent, List.forall_mem_singleton]
  intro holds
  have taken : mediaSender.Takes [.receiverReport 2 1 ⟨[{ sourceSsrc := 2 }], by decide⟩,
      .extendedReports 1 (some ⟨0, 0⟩) [] none] :=
    .inl ⟨rfl, _, List.mem_cons_self, _, List.mem_singleton_self _, by decide⟩
  exact holds taken _ rfl (show (2 : Int32) ≠ 1 by decide)

end MpWebRtc
