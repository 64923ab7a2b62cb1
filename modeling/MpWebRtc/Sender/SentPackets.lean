import MpWebRtc.Math.Run
import MpWebRtc.Sender.SequenceMap
import MpWebRtc.Sender.Splitter

/-!
# Which sent packets are remembered

`RtpSenderEgress` puts every video packet into the map of sequence numbers as it leaves, also the
copies that the splitter makes during start-up, which repeat the numbers of a frame. The packets
sent last are remembered, up to three quarters of what the map can hold, as long as they leave in the
order of their numbers.
-/

namespace MpWebRtc

open Math Math.Run Math.Serial

namespace SequenceNumberMap

variable {map : SequenceNumberMap}

/-- A number leads to what is stored with it. -/
theorem get_eq_some_iff (ascending : Ascending map.associations) (a : Association) :
    map.get a.sequenceNumber = some a.info ↔ a ∈ map.associations := by
  rw [get_eq ascending]
  constructor
  · intro found
    obtain ⟨stored, found, info⟩ := Option.map_eq_some_iff.mp found
    have number : stored.sequenceNumber = a.sequenceNumber := by
      simpa using List.find?_some found
    have same : stored = a := by
      cases stored
      cases a
      exact congr (congrArg Association.mk number) info
    exact same ▸ List.mem_of_find?_eq_some found
  · intro member
    cases found : map.associations.find? (·.sequenceNumber = a.sequenceNumber) with
    | none => exact absurd (decide_eq_true rfl) (List.find?_eq_none.mp found a member)
    | some stored =>
        have number : stored.sequenceNumber = a.sequenceNumber := by
          simpa using List.find?_some found
        rw [ascending.eq_of_number (List.mem_of_find?_eq_some found) member number]
        rfl

/-- From the first number to the last it is less than half a circle. -/
def SpanBelowHalf (associations : List Association) : Prop :=
  ∀ first ∈ associations.head?, ∀ last ∈ associations.getLast?,
    (forwardDiff first.sequenceNumber last.sequenceNumber).toNat < 32768

theorem forwardDiff_self (number : UInt16) : (forwardDiff number number).toNat = 0 := by
  unfold forwardDiff
  rw [UInt16.sub_self]
  rfl

/-- The span is below half a circle, unless the last number is half a circle above another. -/
theorem spanBelowHalf_iff {associations : List Association} {last : Association}
    (ascending : Ascending associations) (isLast : associations.getLast? = some last) :
    SpanBelowHalf associations ↔
      ∀ a ∈ associations, a.sequenceNumber.toNat + 32768 ≠ last.sequenceNumber.toNat := by
  obtain ⟨first, isFirst⟩ : ∃ first, associations.head? = some first := by
    cases associations with
    | nil => cases isLast
    | cons first rest => exact ⟨first, rfl⟩
  have only : SpanBelowHalf associations ↔
      (forwardDiff first.sequenceNumber last.sequenceNumber).toNat < 32768 := by
    unfold SpanBelowHalf
    rw [isFirst, isLast]
    simp only [Option.mem_some_iff, forall_eq']
  rw [only]
  constructor
  · intro short a member half
    obtain ⟨far, ahead⟩ := forwardDiff_eq_half_iff.mpr half
    rcases ascending.ahead_of_first isFirst member with rfl | start
    · omega
    · rcases ascending.number (List.mem_of_mem_head? isFirst) isLast with same | whole
      · rw [same, aheadOf_asymm start] at ahead
        cases ahead
      · have sum := forwardDiff_chain start ahead whole
        omega
  · intro apart
    rcases ascending.number (List.mem_of_mem_head? isFirst) isLast with same | ahead
    · rw [same, forwardDiff_self]
      decide
    · have far := forwardDiff_of_aheadOf ahead
      have notHalf : (forwardDiff first.sequenceNumber last.sequenceNumber).toNat ≠ 32768 :=
        fun half => apart first (List.mem_of_mem_head? isFirst)
          (forwardDiff_eq_half_iff.mp ⟨half, ahead⟩)
      omega

end SequenceNumberMap

/-- What the map reads of a packet. -/
structure EgressPacket where
  packet : Packet
  timestamp : UInt32
  isFirstPacketOfFrame : Bool
  marker : Bool

/-- `RtpSenderEgress`, when `need_rtp_packet_infos_` is set. `sent` are the video packets that were
sent, the oldest first. -/
structure InfoEgress where
  timestampOffset : UInt32
  map : SequenceNumberMap
  sent : List Association := []

/-- The last packets. -/
def recent (count : Nat) (sent : List Association) : List Association :=
  sent.drop (sent.length - count)

namespace InfoEgress

variable (egress : InfoEgress)

/-- What is put into the map for a packet. -/
def association (p : EgressPacket) : Association where
  sequenceNumber := p.packet.sequenceNumber
  info := ⟨p.timestamp - egress.timestampOffset, p.isFirstPacketOfFrame, p.marker⟩

def insert (new : Association) : InfoEgress :=
  { egress with
    map := egress.map.insertPacket new
    sent := egress.sent ++ [new] }

/-- `SendPacket`. -/
def sendPacket (p : EgressPacket) : InfoEgress × List Empty :=
  (if p.packet.packetType = some .kVideo then egress.insert (egress.association p) else egress, [])

/-- The last packets, up to three quarters of the entries, are found under their numbers, and the
map spans less than half a circle. -/
def Remembers : Prop :=
  (∀ a ∈ recent egress.map.newSize egress.sent,
      egress.map.get a.sequenceNumber = some a.info) ∧
    SequenceNumberMap.SpanBelowHalf egress.map.associations

/-- A packet that can be sent: its number is ahead of those of the last packets, or these are all
the same packet, and no number that stays in the map is exactly half a circle below it. -/
def Takes (new : Association) : Prop :=
  ((∀ older ∈ recent (egress.map.newSize - 1) egress.sent,
        aheadOf new.sequenceNumber older.sequenceNumber) ∨
      ∀ older ∈ recent (egress.map.newSize - 1) egress.sent, older = new) ∧
    ∀ a ∈ egress.map.pared, a.sequenceNumber.toNat + 32768 ≠ new.sequenceNumber.toNat

/-- What holds of the map after any packets. -/
structure Kept (egress : InfoEgress) : Prop where
  enough : 4 < egress.map.maxEntries
  few : egress.map.associations.length ≤ egress.map.maxEntries
  ascending : SequenceNumberMap.Ascending egress.map.associations
  suffix : egress.map.associations <:+ egress.sent
  nonempty : egress.sent ≠ [] → egress.map.associations ≠ []

section Step

variable {egress : InfoEgress} {new : Association}

theorem recent_suffix (count : Nat) (sent : List Association) : recent count sent <:+ sent :=
  List.drop_suffix _ _

theorem recent_append {count : Nat} (positive : 0 < count) (sent : List Association)
    (new : Association) : recent count (sent ++ [new]) = recent (count - 1) sent ++ [new] := by
  unfold recent
  rw [List.length_append, List.length_singleton, List.drop_append_of_le_length (by omega)]
  have same : sent.length + 1 - count = sent.length - (count - 1) := by omega
  rw [same]

theorem last_mem_recent {count : Nat} (positive : 0 < count) {sent : List Association}
    {last : Association} (isLast : sent.getLast? = some last) : last ∈ recent count sent := by
  obtain ⟨earlier, rfl⟩ := List.getLast?_eq_some_iff.mp isLast
  rw [recent_append positive]
  exact List.mem_append_cons_self

variable (kept : egress.Kept)
include kept

/-- If the last packets are remembered, they are in the map, also when it is pared down. -/
theorem Kept.mem_pared (remembers : egress.Remembers) {older : Association}
    (isRecent : older ∈ recent (egress.map.newSize - 1) egress.sent) :
    older ∈ egress.map.pared := by
  have inMap : older ∈ egress.map.associations := by
    refine (SequenceNumberMap.get_eq_some_iff kept.ascending older).mp (remembers.1 older ?_)
    refine (List.suffix_of_suffix_length_le (recent_suffix _ _) (recent_suffix _ _) ?_).subset
      isRecent
    unfold recent
    rw [List.length_drop, List.length_drop]
    omega
  unfold SequenceNumberMap.pared SequenceNumberMap.eraseTo
  split_ifs with full
  · refine (List.suffix_of_suffix_length_le (recent_suffix _ egress.sent)
      ((List.drop_suffix _ _).trans kept.suffix) ?_).subset isRecent
    unfold recent
    rw [List.length_drop, List.length_drop, full]
    unfold SequenceNumberMap.newSize
    omega
  · exact inMap

/-- An entry of the map is not the packet that is put behind it. -/
theorem Kept.ne_of_next {back older : Association}
    (isLast : egress.map.associations.getLast? = some back)
    (next : aheadOf new.sequenceNumber back.sequenceNumber)
    (member : older ∈ egress.map.associations) : older ≠ new := by
  rintro rfl
  rcases kept.ascending.number member isLast with same | ahead
  · exact ne_of_aheadOf next same.symm
  · rw [aheadOf_asymm next] at ahead
    cases ahead

theorem Kept.insert (new : Association) : (egress.insert new).Kept := by
  have spec := SequenceNumberMap.insertPacket_eq kept.ascending new
  have enough : 4 < (egress.insert new).map.maxEntries := by
    change 4 < (egress.map.insertPacket new).maxEntries
    rw [SequenceNumberMap.insertPacket_maxEntries]
    exact kept.enough
  have few : (egress.insert new).map.associations.length ≤
      (egress.insert new).map.maxEntries := by
    change _ ≤ (egress.map.insertPacket new).maxEntries
    rw [SequenceNumberMap.insertPacket_maxEntries]
    exact SequenceNumberMap.length_insertPacket_le kept.enough kept.few kept.ascending new
  refine ⟨enough, few, SequenceNumberMap.insertPacket_ascending kept.ascending new, ?_, ?_⟩
  · change (egress.map.insertPacket new).associations <:+ egress.sent ++ [new]
    rw [spec]
    split_ifs with next
    · obtain ⟨back, isLast, next⟩ := (Option.any_eq_true ..).mp next
      have partitioned : LowerBound.Partitioned
          (fun a => aheadOf a.sequenceNumber new.sequenceNumber) egress.map.pared :=
        List.Pairwise.sublist egress.map.pared_sublist (kept.ascending.partitioned isLast next)
      rw [← partitioned.dropWhile_eq_filter]
      obtain ⟨earlier, whole⟩ := ((List.dropWhile_suffix _).trans
        ((List.drop_suffix _ _).trans kept.suffix) :
          egress.map.pared.dropWhile _ <:+ egress.sent)
      exact ⟨earlier, by rw [← List.append_assoc, whole]⟩
    · exact List.suffix_append _ _
  · intro _ none
    change (egress.map.insertPacket new).associations = [] at none
    rw [spec] at none
    split_ifs at none
    exact List.append_ne_nil_of_right_ne_nil _ (List.cons_ne_nil _ _) none

/-- After a packet the last packets are remembered as before, if and only if it can be sent. -/
theorem Kept.remembers_insert_iff (remembers : egress.Remembers)
    (new : Association) : (egress.insert new).Remembers ↔ egress.Takes new := by
  have positive : 0 < egress.map.newSize - 1 := by
    have enough := kept.enough
    unfold SequenceNumberMap.newSize
    omega
  have ascending := SequenceNumberMap.insertPacket_ascending kept.ascending new
  have spec := SequenceNumberMap.insertPacket_eq kept.ascending new
  have size : (egress.insert new).map.newSize = egress.map.newSize := by
    unfold InfoEgress.insert SequenceNumberMap.newSize
    rw [SequenceNumberMap.insertPacket_maxEntries]
  have last : (egress.map.insertPacket new).associations.getLast? = some new := by
    rw [spec]
    split_ifs
    · exact List.getLast?_concat
    · rfl
  have isNew : new ∈ (egress.map.insertPacket new).associations := List.mem_of_getLast? last
  -- It is about the packets that were remembered before, and the span.
  have parts : (egress.insert new).Remembers ↔
      (∀ older ∈ recent (egress.map.newSize - 1) egress.sent,
        older ∈ (egress.map.insertPacket new).associations) ∧
      ∀ a ∈ (egress.map.insertPacket new).associations,
        a.sequenceNumber.toNat + 32768 ≠ new.sequenceNumber.toNat := by
    unfold Remembers
    rw [size]
    change (∀ a ∈ recent egress.map.newSize (egress.sent ++ [new]),
      (egress.map.insertPacket new).get a.sequenceNumber = some a.info) ∧
        SequenceNumberMap.SpanBelowHalf (egress.map.insertPacket new).associations ↔ _
    rw [recent_append (by omega), SequenceNumberMap.spanBelowHalf_iff ascending last,
      List.forall_mem_append, List.forall_mem_singleton]
    simp only [SequenceNumberMap.get_eq_some_iff ascending, isNew, and_true]
  rw [parts, spec]
  unfold Takes
  cases isLast : egress.map.associations.getLast? with
  | none =>
      have empty : egress.map.associations = [] := List.getLast?_eq_none_iff.mp isLast
      have unsent : egress.sent = [] := by
        by_contra sent
        exact kept.nonempty sent empty
      have nothing : egress.map.pared = [] := by
        unfold SequenceNumberMap.pared
        rw [empty, List.drop_nil]
      have noRecent : recent (egress.map.newSize - 1) egress.sent = [] := by
        rw [unsent]
        exact List.drop_nil
      rw [nothing, noRecent]
      refine iff_of_true ⟨fun _ => nofun, fun a member => ?_⟩ ⟨.inl fun _ => nofun, fun _ => nofun⟩
      obtain rfl := List.mem_singleton.mp member
      omega
  | some back =>
      have sentLast : egress.sent.getLast? = some back := by
        obtain ⟨earlier, whole⟩ := kept.suffix
        rw [← whole, List.getLast?_append, isLast]
        rfl
      have backRecent := last_mem_recent positive sentLast
      rw [Option.any_some]
      by_cases next : aheadOf new.sequenceNumber back.sequenceNumber = true
      · rw [if_pos next]
        have inMap : ∀ older ∈ egress.map.pared, older ∈ egress.map.associations := fun _ =>
          (egress.map.pared_sublist.subset ·)
        refine and_congr ?_ ?_
        · constructor
          · intro left
            refine .inl fun older isRecent => ?_
            have member := inMap older (kept.mem_pared remembers isRecent)
            rcases List.mem_append.mp (left older isRecent) with stays | same
            · exact SequenceNumberMap.aheadOf_of_left kept.ascending isLast member next
                ((Bool.not_eq_true' _).mp (List.mem_filter.mp stays).2)
            · exact absurd (List.mem_singleton.mp same) (kept.ne_of_next isLast next member)
          · rintro (ahead | same) older isRecent
            · refine List.mem_append_left _ (List.mem_filter.mpr
                ⟨kept.mem_pared remembers isRecent, ?_⟩)
              rw [aheadOf_asymm (ahead older isRecent)]
              rfl
            · rw [same back backRecent, not_aheadOf_self] at next
              cases next
        · constructor
          · intro apart a member half
            have ahead := (forwardDiff_eq_half_iff.mpr half).2
            refine apart a (List.mem_append_left _ (List.mem_filter.mpr ⟨member, ?_⟩)) half
            rw [aheadOf_asymm ahead]
            rfl
          · intro apart a member
            rcases List.mem_append.mp member with stays | same
            · exact apart a (List.mem_filter.mp stays).1
            · rw [List.mem_singleton.mp same]
              omega
      · rw [if_neg next]
        constructor
        · rintro ⟨same, -⟩
          have all : ∀ older ∈ recent (egress.map.newSize - 1) egress.sent, older = new :=
            fun older isRecent => List.mem_singleton.mp (same older isRecent)
          refine ⟨.inr all, fun a member => ?_⟩
          rw [← all back backRecent]
          exact (SequenceNumberMap.spanBelowHalf_iff kept.ascending isLast).mp remembers.2 a
            (egress.map.pared_sublist.subset member)
        · rintro ⟨ahead | same, -⟩
          · exact absurd (ahead back backRecent) next
          · refine ⟨fun older isRecent => List.mem_singleton.mpr (same older isRecent),
              fun a member => ?_⟩
            rw [List.mem_singleton.mp member]
            omega

/-- One packet, whatever its type. -/
theorem Kept.sendPacket (p : EgressPacket) : (egress.sendPacket p).1.Kept := by
  unfold InfoEgress.sendPacket
  dsimp only
  split_ifs
  · exact kept.insert _
  · exact kept

end Step

/-- A packet that is not put into the map, or can be. -/
def CanSend (p : EgressPacket) : Prop :=
  p.packet.packetType = some .kVideo → egress.Takes (egress.association p)

theorem Kept.remembers_sendPacket_iff {egress : InfoEgress} (kept : egress.Kept)
    (remembers : egress.Remembers) (p : EgressPacket) :
    (egress.sendPacket p).1.Remembers ↔ egress.CanSend p := by
  unfold InfoEgress.sendPacket CanSend
  dsimp only
  split_ifs with video
  · rw [kept.remembers_insert_iff remembers]
    exact ⟨fun takes _ => takes, fun takes => takes video⟩
  · exact iff_of_true remembers fun isVideo => absurd isVideo video

variable (timestampOffset : UInt32)

/-- An egress as constructed. -/
def initial (maxEntries : Nat) : InfoEgress where
  timestampOffset := timestampOffset
  map := ⟨maxEntries, []⟩

theorem kept_initial {maxEntries : Nat} (enough : 4 < maxEntries) :
    (initial timestampOffset maxEntries).Kept where
  enough := enough
  few := Nat.zero_le _
  ascending := .nil
  suffix := List.suffix_refl _
  nonempty := absurd rfl

/-- The packets sent before one of a run. -/
def afterSending (maxEntries : Nat) (sends : List EgressPacket) : InfoEgress :=
  finalState sendPacket (initial timestampOffset maxEntries) sends

theorem kept_afterSending {maxEntries : Nat} (enough : 4 < maxEntries)
    (sends : List EgressPacket) : (afterSending timestampOffset maxEntries sends).Kept :=
  (along_true (initial timestampOffset maxEntries) sends).invariant Kept
    (fun _ p kept _ => kept.sendPacket p) (kept_initial timestampOffset enough)

/-- **Sent packets are remembered.** Whatever is sent, the map's numbers ascend and are no more than
it may hold. In every state of a run the last packets, up to three quarters of the entries, are found
under their numbers and the map spans less than half a circle, if and only if each packet can be
sent in the state in which it is: its number is ahead of those of the last packets, or these are the
same packet, and no number that stays in the map is exactly half a circle below it. -/
theorem sent_packets_remembered_iff (maxEntries : Nat)
    (enough : 4 < maxEntries) (sends : List EgressPacket) :
    (SequenceNumberMap.Ascending
        (afterSending timestampOffset maxEntries sends).map.associations ∧
      (afterSending timestampOffset maxEntries sends).map.associations.length ≤ maxEntries) ∧
      ((∀ earlier later, sends = earlier ++ later →
          (afterSending timestampOffset maxEntries earlier).Remembers) ↔
        Along sendPacket CanSend (initial timestampOffset maxEntries) sends) := by
  have kept := kept_afterSending timestampOffset enough sends
  have size : (afterSending timestampOffset maxEntries sends).map.maxEntries = maxEntries := by
    refine (along_true (initial timestampOffset maxEntries) sends).invariant
      (fun egress => egress.map.maxEntries = maxEntries) (fun egress p same _ => ?_) rfl
    unfold sendPacket
    dsimp only
    split_ifs
    · exact (SequenceNumberMap.insertPacket_maxEntries ..).trans same
    · exact same
  refine ⟨⟨kept.ascending, Nat.le_trans kept.few (Nat.le_of_eq size)⟩, ?_⟩
  refine (along_true (initial timestampOffset maxEntries) sends).forall_reached_iff Kept Remembers
    (fun _ p kept _ => kept.sendPacket p)
    (fun _ p kept _ remembers => kept.remembers_sendPacket_iff remembers p)
    (kept_initial timestampOffset enough) ⟨fun a isRecent => ?_, fun _ => nofun⟩
  exact absurd ((recent_suffix _ _).subset isRecent) List.not_mem_nil

/-- The packet of a frame of one. -/
def onlyPacket (p : Packet) : EgressPacket := ⟨p, 90000, true, true⟩

/-- A map that can hold eight entries, and two frames of one packet. -/
theorem sent_packets_remembered_iff_instance :
    (afterSending 0 8 [onlyPacket (videoPacket 1), onlyPacket (videoPacket 2)]).Remembers := by
  refine (sent_packets_remembered_iff 0 8 (by decide)
    [onlyPacket (videoPacket 1), onlyPacket (videoPacket 2)]).2.mpr ⟨fun _ => ⟨?_, ?_⟩,
    fun _ => ⟨?_, ?_⟩, trivial⟩ _ [] (List.append_nil _).symm
  · exact .inl fun _ => nofun
  · exact fun _ => nofun
  · exact .inl (by decide)
  · decide

/-- What the splitter hands over for two frames of one packet, the second of them during start-up. -/
def startUpSends : List EgressPacket :=
  (onlyPacket (videoPacket 1) ::
    (splitStartUp (Collector.initial 0 0) {} [videoPacket 2]).handed.map onlyPacket)

/-- The copy of the second frame makes the map forget the first. -/
theorem copy_makes_forget :
    ¬ ∀ a ∈ recent (3 * 8192 / 4) (afterSending 0 8192 startUpSends).sent,
      (afterSending 0 8192 startUpSends).map.get a.sequenceNumber = some a.info := by
  decide

end InfoEgress

end MpWebRtc
