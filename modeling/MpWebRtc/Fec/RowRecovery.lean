import Mathlib.Data.List.Sort
import MpWebRtc.Fec.Recovery

/-!
# What a row of the mask protects

The two sides together, for ULPFEC: every row of the mask is turned into a FEC packet, and the
header of that packet gets the row. The numbers that the decoder reads from the header are exactly
those of the packets that were xored, whatever the gaps between them, and whichever of these packets
is lost, the FEC packet gives it back from the others.
-/

namespace MpWebRtc

open Math Math.Wire Math.Parity Ulpfec

/-- The rounds of `GenerateFecPayloads` and `FinalizeFecHeaders`, for one row each; none where a
round reads or writes outside of a packet or of a row. -/
def generateFecPackets (seqNumBase : UInt16) (mediaPackets : List (List UInt8)) :
    (packetMasks : List (List UInt8)) → Option (List (List UInt8))
  | [] => some []
  | packetMask :: packetMasks =>
      match generateFecPayload packetMask (ulpfecHeaderSize packetMask.length) 0 0 mediaPackets []
      with
      | none => none
      | some data =>
          match finalizeFecHeader seqNumBase packetMask data with
          | none => none
          | some fecPacket =>
              (generateFecPackets seqNumBase mediaPackets packetMasks).map (fecPacket :: ·)

/-- The loops of `InsertFecPacket` over the mask: the numbers of the protected packets. -/
def readPacketMask (header : FecHeader) : List UInt16 :=
  (List.range header.packetMaskSize).flatMap fun byteIdx =>
    let packetMask := header.data.getD (header.packetMaskOffset + byteIdx) 0
    ((List.range 8).filter fun bitIdx => packetMask.toNat &&& (1 <<< (7 - bitIdx)) ≠ 0).map
      fun bitIdx => header.seqNumBase + UInt16.ofNat ((byteIdx <<< 3) + bitIdx)

/-- A protected packet, which has arrived unless it is the one that is lost. -/
def arrivedUnless (lost media : List UInt8) : ProtectedPacket where
  seqNum := parseSequenceNumber media
  pkt := if media = lost then none else some media

/-- The protected packets of a FEC packet when one of them has not arrived. -/
def allBut (lost : List UInt8) (members : List (List UInt8)) : List ProtectedPacket :=
  members.map (arrivedUnless lost)

/-- Media packets of one sender, in the order of their numbers. -/
structure IsBlock (ssrc : UInt32) (seqNumBase : UInt16) (mediaPackets : List (List UInt8)) :
    Prop where
  media : ∀ media ∈ mediaPackets, IsMedia ssrc media
  ascending : mediaPackets.Pairwise fun earlier later =>
    maskPosition seqNumBase earlier < maskPosition seqNumBase later

/-- A row that protects packets of a block, and nothing else. -/
structure IsRowOf (seqNumBase : UInt16) (mediaPackets : List (List UInt8))
    (packetMask : List UInt8) : Prop where
  isMask : IsPacketMask packetMask
  fits : ∀ media ∈ mediaPackets,
    Protectable packetMask (ulpfecHeaderSize packetMask.length) seqNumBase media
  places : ∀ i < 8 * packetMask.length, bitAt packetMask i = true →
    ∃ media ∈ mediaPackets, maskPosition seqNumBase media = i
  filled : protectedBy packetMask seqNumBase mediaPackets ≠ []

section Numbers

variable {seqNumBase : UInt16} {packetMask : List UInt8} {mediaPackets : List (List UInt8)}

theorem add_maskPosition (media : List UInt8) :
    seqNumBase + UInt16.ofNat (maskPosition seqNumBase media) = parseSequenceNumber media := by
  unfold maskPosition
  rw [UInt16.ofNat_toNat, UInt16.add_comm]
  exact UInt16.sub_add_cancel _ _

/-- The two loops over bytes and bits are one loop over the mask. -/
theorem flatMap_range_eq (packetMask : List UInt8) (size : Nat) :
    ((List.range size).flatMap fun byteIdx =>
      ((List.range 8).filter fun bitIdx =>
        (packetMask.getD byteIdx 0).toNat &&& (1 <<< (7 - bitIdx)) ≠ 0).map fun bitIdx =>
          seqNumBase + UInt16.ofNat ((byteIdx <<< 3) + bitIdx)) =
      ((List.range (8 * size)).filter (bitAt packetMask)).map fun position =>
        seqNumBase + UInt16.ofNat position := by
  induction size with
  | zero => rfl
  | succ size ih =>
      rw [List.range_succ (n := size), List.flatMap_append, ih, Nat.mul_succ, List.range_add,
        List.filter_append, List.map_append, List.flatMap_singleton, List.filter_map, List.map_map]
      have bits : ∀ bitIdx ∈ List.range 8,
          decide ((packetMask.getD size 0).toNat &&& (1 <<< (7 - bitIdx)) ≠ 0) =
            (bitAt packetMask ∘ (8 * size + ·)) bitIdx := by
        intro bitIdx member
        have below := List.mem_range.mp member
        rw [Bool.eq_iff_iff, decide_eq_true_iff, and_shiftLeft_ne_zero_iff, Function.comp_apply]
        unfold bitAt
        rw [show (8 * size + bitIdx) / 8 = size by omega,
          show (8 * size + bitIdx) % 8 = bitIdx by omega]
      rw [List.filter_congr bits]
      congr 1
      apply List.map_congr_left
      intro bitIdx _
      rw [Function.comp_apply, Nat.shiftLeft_eq, Nat.mul_comm size]

/-- The bits of a row are the places of the packets that it protects. -/
theorem IsRowOf.positions (row : IsRowOf seqNumBase mediaPackets packetMask)
    (ascending : mediaPackets.Pairwise fun earlier later =>
      maskPosition seqNumBase earlier < maskPosition seqNumBase later) :
    (List.range (8 * packetMask.length)).filter (bitAt packetMask) =
      (protectedBy packetMask seqNumBase mediaPackets).map (maskPosition seqNumBase) := by
  have sortedBits : ((List.range (8 * packetMask.length)).filter (bitAt packetMask)).Pairwise
      (· < ·) := List.pairwise_lt_range.filter _
  have sortedPlaces : ((protectedBy packetMask seqNumBase mediaPackets).map
      (maskPosition seqNumBase)).Pairwise (· < ·) :=
    List.pairwise_map.mpr (ascending.filter _)
  apply sortedBits.eq_of_mem_iff sortedPlaces
  intro i
  rw [List.mem_filter, List.mem_range, List.mem_map]
  constructor
  · rintro ⟨inside, isSet⟩
    obtain ⟨media, member, rfl⟩ := row.places i inside isSet
    exact ⟨media, List.mem_filter.mpr ⟨member, isSet⟩, rfl⟩
  · rintro ⟨media, member, rfl⟩
    obtain ⟨inBlock, isSet⟩ := List.mem_filter.mp member
    exact ⟨(row.fits media inBlock).near, isSet⟩

/-- The decoder reads the numbers of the packets that the row protects. -/
theorem readPacketMask_eq {header : FecHeader} {headerSize : Nat} {ssrc : UInt32}
    {data : List UInt8} (restores : header.Restores headerSize ssrc seqNumBase packetMask data)
    (row : IsRowOf seqNumBase mediaPackets packetMask)
    (ascending : mediaPackets.Pairwise fun earlier later =>
      maskPosition seqNumBase earlier < maskPosition seqNumBase later) :
    readPacketMask header =
      (protectedBy packetMask seqNumBase mediaPackets).map parseSequenceNumber := by
  have mask := restores.mask
  have inside := restores.inside
  have length : header.packetMaskSize = packetMask.length := by
    rw [← mask, List.length_take, List.length_drop]
    omega
  have numbers : (protectedBy packetMask seqNumBase mediaPackets).map parseSequenceNumber =
      ((List.range (8 * packetMask.length)).filter (bitAt packetMask)).map fun position =>
        seqNumBase + UInt16.ofNat position := by
    rw [row.positions ascending, List.map_map]
    exact List.map_congr_left fun media _ => (add_maskPosition media).symm
  rw [numbers, ← flatMap_range_eq]
  unfold readPacketMask
  rw [length, restores.base]
  apply List.flatMap_congr
  intro byteIdx member
  have below : byteIdx < header.packetMaskSize := by
    rw [length]
    exact List.mem_range.mp member
  have byte : header.data.getD (header.packetMaskOffset + byteIdx) 0 =
      packetMask.getD byteIdx 0 := by
    calc
      padded header.data (header.packetMaskOffset + byteIdx) =
          padded (header.data.drop header.packetMaskOffset) byteIdx := (padded_drop _).symm
      _ = padded ((header.data.drop header.packetMaskOffset).take header.packetMaskSize) byteIdx :=
        (padded_take below).symm
      _ = padded packetMask byteIdx := by rw [mask]
  rw [byte]

end Numbers

section Lost

variable {lost : List UInt8} {others : List (List UInt8)}

theorem allBut_append (first second : List (List UInt8)) :
    allBut lost (first ++ second) = allBut lost first ++ allBut lost second := List.map_append

/-- The packets that have arrived are pointed to, and leave the number of the missing one alone. -/
theorem allBut_arrived (absent : lost ∉ others) :
    pointedTo (allBut lost others) = others ∧
      ∀ seqNum, lastMissing (allBut lost others) seqNum = seqNum := by
  induction others with
  | nil => exact ⟨rfl, fun _ => rfl⟩
  | cons media rest ih =>
      obtain ⟨other, absentRest⟩ := not_or.mp (fun one => absent (List.mem_cons.mpr one))
      obtain ⟨pointed, missing⟩ := ih absentRest
      have arrived : (arrivedUnless lost media).pkt = some media :=
        if_neg fun same => other same.symm
      constructor
      · show List.filterMap ProtectedPacket.pkt (arrivedUnless lost media :: allBut lost rest) = _
        rw [List.filterMap_cons_some arrived]
        exact congrArg (media :: ·) pointed
      · intro seqNum
        show lastMissing (arrivedUnless lost media :: allBut lost rest) seqNum = _
        unfold lastMissing
        rw [List.foldl_cons, arrived, if_neg (Option.some_ne_none media)]
        exact missing seqNum

theorem allBut_lost (earlier later : List (List UInt8)) (before : lost ∉ earlier)
    (behind : lost ∉ later) :
    pointedTo (allBut lost (earlier ++ lost :: later)) = earlier ++ later ∧
      lastMissing (allBut lost (earlier ++ lost :: later)) none =
        some (parseSequenceNumber lost) := by
  obtain ⟨pointedEarlier, missingEarlier⟩ := allBut_arrived before
  obtain ⟨pointedLater, missingLater⟩ := allBut_arrived behind
  have gone : (arrivedUnless lost lost).pkt = none := if_pos rfl
  rw [allBut_append]
  constructor
  · show List.filterMap ProtectedPacket.pkt (_ ++ arrivedUnless lost lost :: allBut lost later) = _
    rw [List.filterMap_append, List.filterMap_cons_none gone]
    exact congrArg₂ (· ++ ·) pointedEarlier pointedLater
  · show List.foldl _ none (_ ++ arrivedUnless lost lost :: allBut lost later) = _
    rw [List.foldl_append, List.foldl_cons, if_pos gone]
    exact missingLater _

end Lost

section Rows

variable {ssrc : UInt32} {packetMask front : List UInt8} {rest : List (List UInt8)}

/-- One row: the FEC packet is made, read back, and gives back any one packet. -/
theorem exists_fecPacket (block : IsBlock ssrc (parseSequenceNumber front) (front :: rest))
    (row : IsRowOf (parseSequenceNumber front) (front :: rest) packetMask) :
    ∃ data fecPacket header,
      generateFecPayload packetMask (ulpfecHeaderSize packetMask.length) 0 0 (front :: rest) [] =
        some data ∧
      finalizeFecHeader (parseSequenceNumber front) packetMask data = some fecPacket ∧
      readFecHeader ssrc fecPacket = some header ∧
      readPacketMask header =
        (protectedBy packetMask (parseSequenceNumber front) (front :: rest)).map
          parseSequenceNumber ∧
      ∀ lost ∈ protectedBy packetMask (parseSequenceNumber front) (front :: rest),
        recoverPacket header
            (allBut lost (protectedBy packetMask (parseSequenceNumber front) (front :: rest))) =
          .ok (some (parseSequenceNumber lost, lost)) := by
  have size := headerSize_eq row.isMask
  have first : maskPosition (parseSequenceNumber front) front = 0 := by
    unfold maskPosition
    rw [UInt16.sub_self]
    rfl
  obtain ⟨data, generated, holds⟩ := generateFecPayload_holds packetMask
    (ulpfecHeaderSize packetMask.length) (parseSequenceNumber front) front rest (by omega)
    HoldsParity.nil row.fits block.ascending
  rw [first] at generated
  rw [List.nil_append] at holds
  have long := holds.length row.filled
  have short := holds.short
  have limit : kIpPacketSize = 1500 := rfl
  obtain ⟨fecPacket, header, finalized, read, restores⟩ := exists_restored ssrc
    (parseSequenceNumber front) row.isMask long (by omega)
  refine ⟨data, fecPacket, header, generated, finalized, read,
    readPacketMask_eq restores row block.ascending, fun lost member => ?_⟩
  have inBlock (media : List UInt8)
      (inRow : media ∈ protectedBy packetMask (parseSequenceNumber front) (front :: rest)) :
      IsMedia ssrc media := block.media media (List.mem_filter.mp inRow).1
  have ascending : (protectedBy packetMask (parseSequenceNumber front) (front :: rest)).Pairwise
      fun earlier later => maskPosition (parseSequenceNumber front) earlier <
        maskPosition (parseSequenceNumber front) later := block.ascending.filter _
  generalize protectedBy packetMask (parseSequenceNumber front) (front :: rest) = members at *
  obtain ⟨earlier, later, rfl⟩ := List.append_of_mem member
  obtain ⟨-, behind, before⟩ := List.pairwise_append.mp ascending
  have notBefore : lost ∉ earlier := fun inside =>
    Nat.lt_irrefl _ (before lost inside lost List.mem_cons_self)
  have notBehind : lost ∉ later := fun inside =>
    Nat.lt_irrefl _ ((List.pairwise_cons.mp behind).1 lost inside)
  obtain ⟨pointed, missing⟩ := allBut_lost earlier later notBefore notBehind
  apply recoverPacket_eq holds (by omega) restores _ (inBlock lost member) pointed missing
  intro media inside
  refine (inBlock media ?_).whole
  rcases List.mem_append.mp inside with one | other
  · exact List.mem_append_left _ one
  · exact List.mem_append_right _ (List.mem_cons_of_mem _ other)

/-- The FEC packets of a block, one for each row: each is read back with the numbers of the packets
that its row protects, and gives back any one of them from the others, byte for byte. -/
theorem generateFecPackets_recover {packetMasks : List (List UInt8)}
    (block : IsBlock ssrc (parseSequenceNumber front) (front :: rest))
    (rows : ∀ packetMask ∈ packetMasks,
      IsRowOf (parseSequenceNumber front) (front :: rest) packetMask) :
    ∃ fecPackets,
      generateFecPackets (parseSequenceNumber front) (front :: rest) packetMasks =
        some fecPackets ∧
      List.Forall₂ (fun packetMask fecPacket => ∃ header,
        readFecHeader ssrc fecPacket = some header ∧
        readPacketMask header =
          (protectedBy packetMask (parseSequenceNumber front) (front :: rest)).map
            parseSequenceNumber ∧
        ∀ lost ∈ protectedBy packetMask (parseSequenceNumber front) (front :: rest),
          recoverPacket header
              (allBut lost (protectedBy packetMask (parseSequenceNumber front) (front :: rest))) =
            .ok (some (parseSequenceNumber lost, lost)))
        packetMasks fecPackets := by
  induction packetMasks with
  | nil => exact ⟨[], rfl, .nil⟩
  | cons packetMask packetMasks ih =>
      obtain ⟨row, otherRows⟩ := List.forall_mem_cons.mp rows
      obtain ⟨data, fecPacket, header, generated, finalized, recovers⟩ := exists_fecPacket block row
      obtain ⟨fecPackets, generatedRest, others⟩ := ih otherRows
      refine ⟨fecPacket :: fecPackets, ?_, .cons ⟨header, recovers⟩ others⟩
      unfold generateFecPackets
      rw [generated]
      dsimp only
      rw [finalized, generatedRest]
      rfl

/-- A media packet of the SSRC 1. -/
def sampleMedia (number : UInt16) (payload : List UInt8) : List UInt8 :=
  [0x80, 96] ++ (writeBigEndian 2 number.toNat ++ ([0, 0, 0, 7, 0, 0, 0, 1] ++ payload))

/-- Three media packets, with a gap between them and with the last number behind them. -/
def sampleFront : List UInt8 := sampleMedia 65535 [1, 2]

def sampleRest : List (List UInt8) := [sampleMedia 0 [3], sampleMedia 2 []]

theorem generateFecPackets_recover_sample :
    ∃ fecPackets,
      generateFecPackets (parseSequenceNumber sampleFront) (sampleFront :: sampleRest)
        [[0xd0, 0], [0x90, 0]] = some fecPackets ∧
      List.Forall₂ (fun packetMask fecPacket => ∃ header,
        readFecHeader 1 fecPacket = some header ∧
        readPacketMask header =
          (protectedBy packetMask (parseSequenceNumber sampleFront)
            (sampleFront :: sampleRest)).map parseSequenceNumber ∧
        ∀ lost ∈ protectedBy packetMask (parseSequenceNumber sampleFront)
            (sampleFront :: sampleRest),
          recoverPacket header (allBut lost (protectedBy packetMask
              (parseSequenceNumber sampleFront) (sampleFront :: sampleRest))) =
            .ok (some (parseSequenceNumber lost, lost)))
        [[0xd0, 0], [0x90, 0]] fecPackets := by
  have media : ∀ media ∈ sampleFront :: sampleRest,
      kRtpHeaderSize ≤ media.length ∧ media.length ≤ kIpPacketSize - kRtpHeaderSize ∧
        padded media 0 &&& 0xc0 = 0x80 ∧ parseSsrc media = 1 := by
    decide
  have ascending : (sampleFront :: sampleRest).Pairwise fun earlier later =>
      maskPosition (parseSequenceNumber sampleFront) earlier <
        maskPosition (parseSequenceNumber sampleFront) later := by
    decide
  have rows : ∀ packetMask ∈ ([[0xd0, 0], [0x90, 0]] : List (List UInt8)),
      packetMask.length = kUlpfecPacketMaskSizeLBitClear ∧
      (∀ media ∈ sampleFront :: sampleRest, kRtpHeaderSize ≤ media.length ∧
        ulpfecHeaderSize packetMask.length + (mediaPayload media).length ≤ kIpPacketSize ∧
        maskPosition (parseSequenceNumber sampleFront) media < 8 * packetMask.length) ∧
      (∀ i < 8 * packetMask.length, bitAt packetMask i = true →
        ∃ media ∈ sampleFront :: sampleRest,
          maskPosition (parseSequenceNumber sampleFront) media = i) ∧
      protectedBy packetMask (parseSequenceNumber sampleFront) (sampleFront :: sampleRest) ≠ [] := by
    decide
  apply generateFecPackets_recover ⟨fun packet member => ?_, ascending⟩
  · intro packetMask member
    obtain ⟨size, fits, places, filled⟩ := rows packetMask member
    refine ⟨.inl size, fun packet inside => ?_, places, filled⟩
    obtain ⟨whole, room, near⟩ := fits packet inside
    exact ⟨whole, room, near⟩
  · obtain ⟨whole, short, version, ssrc⟩ := media packet member
    exact ⟨whole, short, version, ssrc⟩

end Rows

end MpWebRtc
