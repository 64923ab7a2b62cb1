import Mathlib.Data.List.Chain
import MpWebRtc.Rtcp.Packets

/-!
# Packing lists of lost packets

A list of numbers is packed greedily: an item has a first number and a mask of the sixteen
behind it. Unpacking gives the numbers of the list again; it gives the list itself if every
number is less than half the range behind the one before. The items are cut where a buffer
ends, so that the lists of all buffers together are the list of the items.
-/

namespace MpWebRtc

open Math.Memory Math.Wire

namespace PackedNack

/-- The loop of `Nack::Unpack` over the bits of a mask. -/
def unpackBits (pid bitmask : UInt16) : List UInt16 :=
  if bitmask = 0 then []
  else (if bitmask &&& 1 ≠ 0 then [pid] else []) ++ unpackBits (pid + 1) (bitmask >>> 1)
termination_by bitmask.toNat
decreasing_by
  next some =>
    have positive : bitmask.toNat ≠ 0 := fun zero => some (UInt16.toNat_inj.mp zero)
    rw [UInt16.toNat_shiftRight]
    exact Nat.div_lt_self (Nat.pos_of_ne_zero positive) Nat.one_lt_two

/-- A round of the loop of `Nack::Unpack`. -/
def unpack (item : PackedNack) : List UInt16 :=
  item.firstPid :: unpackBits (item.firstPid + 1) item.bitmask

/-- The set bits of a mask. -/
def setBits (bitmask : UInt16) : List Nat :=
  (List.range 16).filter fun bit => bitmask.toNat.testBit bit

theorem unpackBits_eq {count : Nat} {bitmask : UInt16} (small : bitmask.toNat < 2 ^ count)
    (pid : UInt16) :
    unpackBits pid bitmask =
      ((List.range count).filter fun bit => bitmask.toNat.testBit bit).map fun bit =>
        pid + UInt16.ofNat bit := by
  induction count generalizing pid bitmask with
  | zero =>
      have zero : bitmask = 0 := UInt16.toNat_inj.mp (Nat.lt_one_iff.mp small)
      rw [unpackBits, if_pos zero]
      rfl
  | succ count ih =>
      have half : (bitmask >>> 1).toNat = bitmask.toNat / 2 := by
        rw [UInt16.toNat_shiftRight]
        rfl
      have lower : (bitmask >>> 1).toNat < 2 ^ count := by
        rw [half]
        omega
      have lowest : bitmask &&& 1 ≠ 0 ↔ bitmask.toNat.testBit 0 = true := by
        rw [ne_eq, ← UInt16.toNat_inj, UInt16.toNat_and, Nat.testBit_zero, decide_eq_true_eq]
        change ¬bitmask.toNat &&& 1 = 0 ↔ _
        rw [Nat.and_one_is_mod]
        omega
      have others : ((List.range count).map Nat.succ).filter
          (fun bit => bitmask.toNat.testBit bit) =
            ((List.range count).filter fun bit => (bitmask >>> 1).toNat.testBit bit).map
              Nat.succ := by
        rw [List.filter_map, half]
        congr 2
        funext bit
        exact Nat.testBit_succ ..
      have shifted : (fun bit => pid + UInt16.ofNat bit) ∘ Nat.succ =
          fun bit => pid + 1 + UInt16.ofNat bit := by
        funext bit
        change pid + UInt16.ofNat (bit + 1) = _
        rw [UInt16.ofNat_add, UInt16.add_assoc, UInt16.add_comm 1]
        rfl
      rw [unpackBits, List.range_succ_eq_map, List.filter_cons, others]
      by_cases zero : bitmask = 0
      · subst zero
        simp
      · rw [if_neg zero, ih lower (pid + 1)]
        by_cases low : bitmask.toNat.testBit 0 = true
        · rw [if_pos (lowest.mpr low), if_pos low, List.map_cons, List.map_map, shifted]
          exact congrArg (· :: _) (UInt16.add_zero pid).symm
        · rw [if_neg (mt lowest.mp low), if_neg low, List.map_map, shifted]
          rfl

/-- The loop gives the numbers of an item. -/
theorem unpack_eq_packetIds (item : PackedNack) : item.unpack = item.packetIds := by
  unfold unpack packetIds
  rw [unpackBits_eq item.bitmask.toNat_lt]

theorem packetIds_eq_setBits (firstPid bitmask : UInt16) :
    packetIds ⟨firstPid, bitmask⟩ =
      firstPid :: (setBits bitmask).map fun bit => firstPid + 1 + UInt16.ofNat bit :=
  rfl

theorem testBit_mark (bitmask shift : UInt16) (small : shift ≤ 15) (bit : Nat) :
    (bitmask ||| 1 <<< shift).toNat.testBit bit =
      (bitmask.toNat.testBit bit || decide (shift.toNat = bit)) := by
  have low : shift.toNat ≤ 15 := UInt16.le_iff_toNat_le.mp small
  have power : ((1 : UInt16) <<< shift).toNat = 2 ^ shift.toNat := by
    rw [UInt16.toNat_shiftLeft, Nat.mod_eq_of_lt (by omega : shift.toNat < 16)]
    change 1 <<< shift.toNat % 2 ^ 16 = _
    rw [Nat.one_shiftLeft, Nat.mod_eq_of_lt]
    exact Nat.pow_lt_pow_right (by decide) (by omega)
  rw [UInt16.toNat_or, power, Nat.testBit_or, Nat.testBit_two_pow]

/-- A number near behind the first one is the number of its bit. -/
theorem eq_of_shift {firstPid packetId : UInt16} {bit : Nat}
    (shift : (packetId - firstPid - 1).toNat = bit) :
    firstPid + 1 + UInt16.ofNat bit = packetId := by
  rw [← shift, UInt16.ofNat_toNat]
  grind

/-- What is collected: a first part of the list, with a bit for each number. -/
theorem collect_spec (firstPid bitmask : UInt16) (packetIds : List UInt16) :
    ∃ taken, packetIds = taken ++ (collect firstPid bitmask packetIds).2 ∧
      (∀ packetId ∈ taken, packetId - firstPid - 1 ≤ 15) ∧
      ∀ bit, (collect firstPid bitmask packetIds).1.toNat.testBit bit = true ↔
        bitmask.toNat.testBit bit = true ∨
          ∃ packetId ∈ taken, (packetId - firstPid - 1).toNat = bit := by
  induction packetIds generalizing bitmask with
  | nil => exact ⟨[], rfl, List.forall_mem_nil _, fun bit => by simp [collect]⟩
  | cons packetId packetIds ih =>
      rw [collect]
      split
      · rename_i near
        obtain ⟨taken, split, all, bits⟩ := ih (bitmask ||| 1 <<< (packetId - firstPid - 1))
        refine ⟨packetId :: taken, congrArg (packetId :: ·) split,
          List.forall_mem_cons.mpr ⟨near, all⟩, fun bit => ?_⟩
        rw [bits, testBit_mark _ _ near, Bool.or_eq_true, decide_eq_true_eq, or_assoc,
          List.exists_mem_cons_iff]
      · exact ⟨[], rfl, List.forall_mem_nil _, fun bit => by simp⟩

theorem mem_packetIds_iff {firstPid bitmask packetId : UInt16} :
    packetId ∈ packetIds ⟨firstPid, bitmask⟩ ↔ packetId = firstPid ∨
      ∃ bit, bit < 16 ∧ bitmask.toNat.testBit bit = true ∧
        firstPid + 1 + UInt16.ofNat bit = packetId := by
  rw [packetIds_eq_setBits, List.mem_cons, List.mem_map]
  simp only [setBits, List.mem_filter, List.mem_range, and_assoc]

/-- Unpacking gives the numbers of the list. -/
theorem mem_packetIds_pack (packetIds : List UInt16) (packetId : UInt16) :
    packetId ∈ (pack packetIds).flatMap PackedNack.packetIds ↔ packetId ∈ packetIds := by
  induction packetIds using pack.induct with
  | case1 => rw [pack, List.flatMap_nil]
  | case2 firstPid packetIds collected ih =>
      obtain ⟨taken, split, near, bits⟩ := collect_spec firstPid 0 packetIds
      rw [pack, List.flatMap_cons, List.mem_append, ih, mem_packetIds_iff, List.mem_cons, or_assoc]
      refine or_congr_right ?_
      conv_rhs => rw [split]
      rw [List.mem_append]
      refine or_congr_left ?_
      constructor
      · rintro ⟨bit, -, set, rfl⟩
        rcases (bits bit).mp set with none | ⟨other, member, shift⟩
        · simp at none
        · rw [eq_of_shift shift]
          exact member
      · intro member
        have small : (packetId - firstPid - 1).toNat ≤ 15 :=
          UInt16.le_iff_toNat_le.mp (near packetId member)
        exact ⟨_, by omega, (bits _).mpr (.inr ⟨packetId, member, rfl⟩), eq_of_shift rfl⟩

/-- A number that is less than half the range behind another. -/
def Follows (earlier later : UInt16) : Prop :=
  0 < (later - earlier).toNat ∧ (later - earlier).toNat < 2 ^ 15

instance (earlier later : UInt16) : Decidable (Follows earlier later) :=
  inferInstanceAs (Decidable (_ ∧ _))

/-- A bit above all others comes last. -/
theorem setBits_mark {bitmask shift : UInt16} (small : shift ≤ 15)
    (above : ∀ bit ∈ setBits bitmask, bit < shift.toNat) :
    setBits (bitmask ||| 1 <<< shift) = setBits bitmask ++ [shift.toNat] := by
  have low : shift.toNat < 16 := Nat.lt_succ_of_le (UInt16.le_iff_toNat_le.mp small)
  have parts : List.range 16 =
      List.range shift.toNat ++ shift.toNat :: List.range' (shift.toNat + 1) (15 - shift.toNat) := by
    have joined := @List.range'_append 0 shift.toNat (15 - shift.toNat + 1) 1
    have whole : shift.toNat + (15 - shift.toNat + 1) = 16 := by omega
    rw [whole, Nat.one_mul, Nat.zero_add] at joined
    rw [List.range_eq_range', List.range_eq_range', ← List.range'_succ, joined]
  have clear (bit : Nat) (past : shift.toNat ≤ bit) (inside : bit < 16) :
      bitmask.toNat.testBit bit = false := by
    by_contra set
    have listed : bit ∈ setBits bitmask :=
      List.mem_filter.mpr ⟨List.mem_range.mpr inside, eq_true_of_ne_false set⟩
    exact absurd (above bit listed) (Nat.not_lt.mpr past)
  have early : (List.range shift.toNat).filter
      (fun bit => (bitmask ||| 1 <<< shift).toNat.testBit bit) =
        (List.range shift.toNat).filter fun bit => bitmask.toNat.testBit bit := by
    refine List.filter_congr fun bit member => ?_
    have before := List.mem_range.mp member
    rw [testBit_mark _ _ small, decide_eq_false (by omega), Bool.or_false]
  have late (mask : UInt16) (unset : ∀ bit, shift.toNat < bit → bit < 16 →
      mask.toNat.testBit bit = false) :
      (List.range' (shift.toNat + 1) (15 - shift.toNat)).filter
        (fun bit => mask.toNat.testBit bit) = [] := by
    refine List.filter_eq_nil_iff.mpr fun bit member => ?_
    obtain ⟨past, inside⟩ := List.mem_range'_1.mp member
    rw [unset bit (by omega) (by omega)]
    exact Bool.false_ne_true
  have marked : (bitmask ||| 1 <<< shift).toNat.testBit shift.toNat = true := by
    rw [testBit_mark _ _ small, decide_eq_true rfl, Bool.or_true]
  unfold setBits
  rw [parts, List.filter_append, List.filter_append, List.filter_cons, List.filter_cons, early,
    if_pos marked, clear _ (Nat.le_refl _) low, if_neg Bool.false_ne_true,
    late bitmask fun bit past => clear bit past.le, late]
  · rw [List.append_nil]
  · intro bit past inside
    rw [testBit_mark _ _ small, clear bit past.le inside, decide_eq_false (by omega)]
    rfl

/-- Where a number is that follows one near the first. -/
theorem offset_of_follows {firstPid last packetId : UInt16} (near : (last - firstPid).toNat ≤ 16)
    (follows : Follows last packetId) :
    (packetId - firstPid).toNat = (last - firstPid).toNat + (packetId - last).toNat := by
  obtain ⟨-, gap⟩ := follows
  have sum : packetId - firstPid = (last - firstPid) + (packetId - last) := by grind
  rw [sum, UInt16.toNat_add]
  omega

/-- In a list where each number follows the one before, the bits are collected in order. -/
theorem collect_of_chain {firstPid bitmask last : UInt16} {packetIds : List UInt16}
    (chain : List.IsChain Follows (last :: packetIds)) (near : (last - firstPid).toNat ≤ 16)
    (below : ∀ bit ∈ setBits bitmask, bit < (last - firstPid).toNat) :
    ∃ taken, packetIds = taken ++ (collect firstPid bitmask packetIds).2 ∧
      setBits (collect firstPid bitmask packetIds).1 =
        setBits bitmask ++ taken.map fun packetId => (packetId - firstPid - 1).toNat := by
  induction packetIds generalizing bitmask last with
  | nil => exact ⟨[], rfl, (List.append_nil _).symm⟩
  | cons packetId packetIds ih =>
      obtain ⟨follows, chain⟩ := List.isChain_cons_cons.mp chain
      have offset := offset_of_follows near follows
      have positive := follows.1
      rw [collect]
      split
      · rename_i small
        have shift : (packetId - firstPid - 1).toNat + 1 = (packetId - firstPid).toNat := by
          rw [UInt16.toNat_sub_of_le]
          · change _ - 1 + 1 = _
            omega
          · rw [UInt16.le_iff_toNat_le]
            change 1 ≤ _
            omega
        have low : (packetId - firstPid - 1).toNat ≤ 15 := UInt16.le_iff_toNat_le.mp small
        have added := setBits_mark small fun bit member => by
          have before := below bit member
          omega
        obtain ⟨taken, split, bits⟩ := ih chain (by omega) fun bit member => by
          rw [added] at member
          rcases List.mem_append.mp member with old | new
          · have before := below bit old
            omega
          · rw [List.mem_singleton.mp new]
            omega
        refine ⟨packetId :: taken, congrArg (packetId :: ·) split, ?_⟩
        rw [bits, added, List.append_assoc]
        rfl
      · exact ⟨[], rfl, (List.append_nil _).symm⟩

/-- A list where each number follows the one before is unpacked as it was. -/
theorem packetIds_pack_of_chain {packetIds : List UInt16} (chain : List.IsChain Follows packetIds) :
    (pack packetIds).flatMap PackedNack.packetIds = packetIds := by
  induction packetIds using pack.induct with
  | case1 => rw [pack, List.flatMap_nil]
  | case2 firstPid packetIds collected ih =>
      have start : (firstPid - firstPid).toNat ≤ 16 := by
        rw [UInt16.sub_self]
        decide
      have empty : setBits 0 = [] := by decide
      obtain ⟨taken, split, bits⟩ := @collect_of_chain firstPid 0 firstPid packetIds chain start
        (by rw [empty]; exact List.forall_mem_nil _)
      rw [empty, List.nil_append] at bits
      have rest : List.IsChain Follows collected.2 := by
        have tail := chain.tail
        rw [List.tail_cons, split] at tail
        exact tail.right_of_append
      have unpacked : (taken.map fun packetId => (packetId - firstPid - 1).toNat).map
          (fun bit => firstPid + 1 + UInt16.ofNat bit) = taken := by
        rw [List.map_map]
        exact (List.map_congr_left fun packetId _ => eq_of_shift rfl).trans (List.map_id _)
      rw [pack, List.flatMap_cons, packetIds_eq_setBits, bits, unpacked, ih rest, List.cons_append,
        ← split]

end PackedNack

/-- `rtcp::Nack`, without the path. -/
structure Nack where
  senderSsrc : UInt32
  mediaSsrc : UInt32
  packetIds : List UInt16

/-- `Nack::Parse`. -/
def Nack.parse (packet : CommonHeader) : Option Nack :=
  if packet.payload.length < 8 + 4 then none
  else
    some
      { senderSsrc := ReportBlock.readWord packet.payload 0
        mediaSsrc := ReportBlock.readWord packet.payload 4
        packetIds := (PackedNack.parseItems ((packet.payload.length - 8) / 4)
          (packet.payload.drop 8)).flatMap PackedNack.unpack }

section Fragments

variable {maxLength : Nat} {pathid : Int32} {senderSsrc mediaSsrc : UInt32}

theorem PackedNack.parse_item (item : PackedNack) (rest : List UInt8) :
    (⟨UInt16.ofNat (readBigEndian ((item.create ++ rest).take 2)),
      UInt16.ofNat (readBigEndian (((item.create ++ rest).drop 2).take 2))⟩ : PackedNack) =
        item := by
  have number (value : UInt16) :
      UInt16.ofNat (readBigEndian (writeBigEndian 2 value.toNat)) = value := by
    have small := value.toNat_lt
    rw [readBigEndian_writeBigEndian, Nat.mod_eq_of_lt (by omega), UInt16.ofNat_toNat]
  have first : (item.create ++ rest).take 2 = writeBigEndian 2 item.firstPid.toNat := rfl
  have second : ((item.create ++ rest).drop 2).take 2 = writeBigEndian 2 item.bitmask.toNat := rfl
  rw [first, second, number, number]

theorem PackedNack.parseItems_create (packed : List PackedNack) :
    parseItems packed.length (packed.flatMap create) = packed := by
  induction packed with
  | nil => rfl
  | cons item packed ih =>
      rw [List.flatMap_cons, List.length_cons, parseItems, parse_item,
        List.drop_left' (length_create item), ih]

/-- One packet with some of the items is read back. -/
theorem parse_nack (pathid : Int32) (senderSsrc mediaSsrc : UInt32) {packed : List PackedNack}
    (filled : packed ≠ [])
    (short : (RtcpPacket.nack pathid senderSsrc mediaSsrc packed).blockLength ≤ 65536) :
    ∃ header, CommonHeader.parse (RtcpPacket.nack pathid senderSsrc mediaSsrc packed).bytes =
        some header ∧
      header.type = 205 ∧ header.fmt = 1 ∧ header.pathid = pathid ∧
      Nack.parse header =
        some ⟨senderSsrc, mediaSsrc, packed.flatMap PackedNack.packetIds⟩ := by
  have parsed := RtcpPacket.parse_bytes _ short []
  rw [List.append_nil] at parsed
  refine ⟨_, parsed, rfl, rfl, rfl, ?_⟩
  have items := length_flatMap_of_forall PackedNack.length_create packed
  have some := List.length_pos_of_ne_nil filled
  have size : (wordBytes senderSsrc ++ (wordBytes mediaSsrc ++
      packed.flatMap PackedNack.create)).length = 8 + packed.length * 4 := by
    rw [List.length_append, List.length_append, length_wordBytes, length_wordBytes, items]
    omega
  have unpacked : PackedNack.unpack = PackedNack.packetIds :=
    funext PackedNack.unpack_eq_packetIds
  unfold Nack.parse RtcpPacket.payload
  dsimp only
  have behind : (wordBytes senderSsrc ++ (wordBytes mediaSsrc ++
      packed.flatMap PackedNack.create)).drop 8 = packed.flatMap PackedNack.create := rfl
  have count : (8 + packed.length * 4 - 8) / 4 = packed.length := by omega
  rw [size, if_neg (by omega), ReportBlock.readWord_wordBytes, ReportBlock.readWord_second, behind,
    count, PackedNack.parseItems_create, unpacked]

/-- How many items fit. -/
def itemsPerPacket (maxLength : Nat) : Nat := (maxLength - PacketBuffer.kNackHeaderLength) / 4

/-- From an empty buffer, as many items are written as fit. -/
theorem createNack_empty (room : PacketBuffer.kNackHeaderLength + 4 ≤ maxLength)
    (item : PackedNack) (packed : List PackedNack) (sent : List (List RtcpPacket)) :
    PacketBuffer.createNack maxLength pathid senderSsrc mediaSsrc (item :: packed) ⟨[], sent⟩ =
      PacketBuffer.createNack maxLength pathid senderSsrc mediaSsrc
        (packed.drop (itemsPerPacket maxLength - 1))
        ⟨[.nack pathid senderSsrc mediaSsrc
          (item :: packed.take (itemsPerPacket maxLength - 1))], sent⟩ := by
  have made : PacketBuffer.makeRoom ⟨[], sent⟩ maxLength (PacketBuffer.kNackHeaderLength + 4) =
      (⟨[], sent⟩, true) := by
    unfold PacketBuffer.makeRoom
    rw [if_pos]
    exact (Nat.zero_add _).trans_le room
  rw [PacketBuffer.createNack, made]
  rfl

/-- A full buffer is sent before the next item. -/
theorem createNack_full (room : PacketBuffer.kNackHeaderLength + 4 ≤ maxLength)
    {part : List PackedNack} (full : part.length = itemsPerPacket maxLength) (item : PackedNack)
    (packed : List PackedNack) (sent : List (List RtcpPacket)) :
    PacketBuffer.createNack maxLength pathid senderSsrc mediaSsrc (item :: packed)
        ⟨[.nack pathid senderSsrc mediaSsrc part], sent⟩ =
      PacketBuffer.createNack maxLength pathid senderSsrc mediaSsrc (item :: packed)
        ⟨[], sent ++ [[.nack pathid senderSsrc mediaSsrc part]]⟩ := by
  have made : PacketBuffer.makeRoom ⟨[.nack pathid senderSsrc mediaSsrc part], sent⟩ maxLength
      (PacketBuffer.kNackHeaderLength + 4) =
        (⟨[], sent ++ [[.nack pathid senderSsrc mediaSsrc part]]⟩, true) := by
    have index : PacketBuffer.index ⟨[.nack pathid senderSsrc mediaSsrc part], sent⟩ =
        PacketBuffer.kNackHeaderLength + part.length * 4 := by
      unfold PacketBuffer.index
      rw [List.map_singleton, List.sum_singleton, PacketBuffer.blockLength_nack]
    unfold itemsPerPacket at full
    unfold PacketBuffer.makeRoom
    rw [index, if_neg (by omega)]
    change (_, decide _) = _
    rw [decide_eq_true room]
  have made' : PacketBuffer.makeRoom ⟨[], sent ++ [[.nack pathid senderSsrc mediaSsrc part]]⟩
      maxLength (PacketBuffer.kNackHeaderLength + 4) =
        (⟨[], sent ++ [[.nack pathid senderSsrc mediaSsrc part]]⟩, true) := by
    unfold PacketBuffer.makeRoom
    rw [if_pos]
    exact (Nat.zero_add _).trans_le room
  rw [PacketBuffer.createNack, made, PacketBuffer.createNack, made']

/-- The items are cut into parts, one for each buffer. -/
theorem createNack_parts (room : PacketBuffer.kNackHeaderLength + 4 ≤ maxLength) {count : Nat}
    {packed : List PackedNack} (size : packed.length = count) (filled : packed ≠ [])
    (sent : List (List RtcpPacket)) :
    ∃ parts last, packed = parts.flatten ++ last ∧
      (∀ part ∈ parts ++ [last], part ≠ [] ∧ part.length ≤ itemsPerPacket maxLength) ∧
      PacketBuffer.createNack maxLength pathid senderSsrc mediaSsrc packed ⟨[], sent⟩ =
        (⟨[.nack pathid senderSsrc mediaSsrc last],
          sent ++ parts.map fun part => [.nack pathid senderSsrc mediaSsrc part]⟩, true) := by
  induction count using Nat.strong_induction_on generalizing packed sent with
  | h count ih =>
      have some : 1 ≤ itemsPerPacket maxLength := by
        unfold itemsPerPacket
        omega
      obtain ⟨item, packed, rfl⟩ := List.exists_cons_of_ne_nil filled
      rw [createNack_empty room]
      have bound : (item :: packed.take (itemsPerPacket maxLength - 1)).length ≤
          itemsPerPacket maxLength := by
        rw [List.length_cons, List.length_take]
        omega
      cases left : packed.drop (itemsPerPacket maxLength - 1) with
      | nil =>
          have all : packed.take (itemsPerPacket maxLength - 1) = packed :=
            List.take_of_length_le (List.drop_eq_nil_iff.mp left)
          rw [all] at bound ⊢
          refine ⟨[], item :: packed, rfl, ?_, ?_⟩
          · exact List.forall_mem_singleton.mpr ⟨List.cons_ne_nil _ _, bound⟩
          · rw [PacketBuffer.createNack, List.map_nil, List.append_nil]
      | cons next others =>
          have long : itemsPerPacket maxLength - 1 < packed.length := by
            by_contra short
            rw [List.drop_of_length_le (Nat.not_lt.mp short)] at left
            cases left
          have full : (item :: packed.take (itemsPerPacket maxLength - 1)).length =
              itemsPerPacket maxLength := by
            rw [List.length_cons, List.length_take]
            omega
          have fewer : (next :: others).length < count := by
            rw [← left, ← size, List.length_drop, List.length_cons]
            omega
          obtain ⟨parts, last, split, bounds, done⟩ := ih _ fewer rfl (List.cons_ne_nil _ _)
            (sent ++ [[.nack pathid senderSsrc mediaSsrc
              (item :: packed.take (itemsPerPacket maxLength - 1))]])
          refine ⟨(item :: packed.take (itemsPerPacket maxLength - 1)) :: parts, last, ?_, ?_, ?_⟩
          · rw [List.flatten_cons, List.append_assoc, ← split, ← left, List.cons_append,
              List.take_append_drop]
          · exact List.forall_mem_cons.mpr ⟨⟨List.cons_ne_nil _ _, bound⟩, bounds⟩
          · rw [createNack_full room full, done, List.map_cons, List.append_assoc]
            rfl

theorem build_nack (room : PacketBuffer.kNackHeaderLength + 4 ≤ maxLength)
    {packed : List PackedNack} (filled : packed ≠ []) :
    ∃ parts : List (List PackedNack), packed = parts.flatten ∧
      (∀ part ∈ parts, part ≠ [] ∧ part.length ≤ itemsPerPacket maxLength) ∧
      (RtcpPacket.nack pathid senderSsrc mediaSsrc packed).build maxLength =
        (parts.map fun part => (RtcpPacket.nack pathid senderSsrc mediaSsrc part).bytes, true) := by
  obtain ⟨parts, last, split, bounds, done⟩ := @createNack_parts maxLength pathid senderSsrc
    mediaSsrc room _ packed rfl filled []
  refine ⟨parts ++ [last], ?_, bounds, ?_⟩
  · rw [split, List.flatten_append, List.flatten_singleton]
  · have created : PacketBuffer.create maxLength
        (.nack pathid senderSsrc mediaSsrc packed) {} = _ := done
    have alone (part : List PackedNack) :
        datagramBytes [.nack pathid senderSsrc mediaSsrc part] =
          (RtcpPacket.nack pathid senderSsrc mediaSsrc part).bytes := List.append_nil _
    unfold RtcpPacket.build
    rw [created]
    change (List.map _ (([] ++ _) ++ [_]), true) = _
    rw [List.nil_append, List.map_append, List.map_map, List.map_singleton, List.map_append,
      List.map_singleton, alone]
    exact congrArg (fun list => (list ++ [_], true)) (List.map_congr_left fun part _ => alone part)

/-- What a datagram is read as. -/
def ReadsAsNack (pathid : Int32) (fragment : List UInt8) (nack : Nack) : Prop :=
  ∃ header, CommonHeader.parse fragment = some header ∧ header.type = 205 ∧ header.fmt = 1 ∧
    header.pathid = pathid ∧ Nack.parse header = some nack

/-- **Lists of lost packets.** A list of numbers is sent in datagrams that are short enough and
are read back for the path. Together they have the numbers of the list, and in the order of the
list if each of them follows the one before. -/
theorem nack_read_back (pathid : Int32) (senderSsrc mediaSsrc : UInt32) {maxLength : Nat}
    (room : PacketBuffer.kNackHeaderLength + 4 ≤ maxLength) (checked : maxLength ≤ kIpPacketSize)
    {packetIds : List UInt16} (filled : packetIds ≠ []) :
    ∃ fragments nacks,
      (RtcpPacket.nack pathid senderSsrc mediaSsrc (PackedNack.pack packetIds)).build maxLength =
        (fragments, true) ∧
      List.Forall₂ (fun fragment nack => fragment.length ≤ maxLength ∧
        ReadsAsNack pathid fragment nack ∧ nack.senderSsrc = senderSsrc ∧
          nack.mediaSsrc = mediaSsrc) fragments nacks ∧
      (∀ packetId, packetId ∈ nacks.flatMap Nack.packetIds ↔ packetId ∈ packetIds) ∧
      (packetIds.IsChain PackedNack.Follows → nacks.flatMap Nack.packetIds = packetIds) := by
  have items : PackedNack.pack packetIds ≠ [] := by
    obtain ⟨firstPid, packetIds, rfl⟩ := List.exists_cons_of_ne_nil filled
    rw [PackedNack.pack]
    exact List.cons_ne_nil _ _
  obtain ⟨parts, split, bounds, built⟩ := @build_nack maxLength pathid senderSsrc mediaSsrc room
    _ items
  have together : (parts.map fun part => (⟨senderSsrc, mediaSsrc,
      part.flatMap PackedNack.packetIds⟩ : Nack)).flatMap Nack.packetIds =
        (PackedNack.pack packetIds).flatMap PackedNack.packetIds := by
    rw [split, List.flatMap_map, List.flatten_eq_flatMap, List.flatMap_assoc]
    rfl
  refine ⟨_, parts.map fun part => ⟨senderSsrc, mediaSsrc, part.flatMap PackedNack.packetIds⟩,
    built, ?_, fun packetId => ?_, fun chain => ?_⟩
  · rw [List.forall₂_map_left_iff, List.forall₂_map_right_iff, List.forall₂_same]
    intro part member
    obtain ⟨some, few⟩ := bounds part member
    have size := PacketBuffer.blockLength_nack pathid senderSsrc mediaSsrc part
    have fits : (RtcpPacket.nack pathid senderSsrc mediaSsrc part).blockLength ≤ maxLength := by
      unfold itemsPerPacket at few
      omega
    have short : maxLength ≤ 65536 := Nat.le_trans checked (by decide)
    refine ⟨?_, parse_nack pathid senderSsrc mediaSsrc some (fits.trans short), rfl, rfl⟩
    rw [RtcpPacket.length_bytes]
    exact fits
  · rw [together]
    exact PackedNack.mem_packetIds_pack packetIds packetId
  · rw [together]
    exact PackedNack.packetIds_pack_of_chain chain

theorem nack_read_back_wrapped :
    ∃ fragments nacks,
      (RtcpPacket.nack 2 7 9 (PackedNack.pack [65535, 0, 3, 20])).build 20 = (fragments, true) ∧
      List.Forall₂ (fun fragment nack => fragment.length ≤ 20 ∧
        ReadsAsNack 2 fragment nack ∧ nack.senderSsrc = 7 ∧ nack.mediaSsrc = 9) fragments nacks ∧
      nacks.flatMap Nack.packetIds = [65535, 0, 3, 20] := by
  obtain ⟨fragments, nacks, built, read, -, ordered⟩ := nack_read_back 2 7 9
    (by decide : PacketBuffer.kNackHeaderLength + 4 ≤ 20) (by decide)
    (List.cons_ne_nil 65535 [0, 3, 20])
  exact ⟨fragments, nacks, built, read, ordered (by decide)⟩

end Fragments

end MpWebRtc
