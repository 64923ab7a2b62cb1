import Mathlib.Data.List.Induction
import Mathlib.Data.List.Perm.Basic
import MpWebRtc.Math.Run
import MpWebRtc.Sender.History

/-!
# What a packet history holds

Over any calls, a packet history is a queue of slots numbered by position, with a packet in
its first slot. A number that is not older than that of the first packet leads to the packet
stored last under it, and an older one to nothing, even if a packet is stored under it. What
is bounded is the number of packets: `CullOldPackets` makes room before a packet is stored,
but a packet whose number is far from the others is stored behind, or in front of, as many
empty slots as there are numbers in between.
-/

namespace MpWebRtc

open Math Math.Run Math.Serial

namespace PacketHistory

variable (h : PacketHistory)

/-- `PutRtpPacket`: without a send time the packet waits in the pacer queue. -/
def putWithSendTime (now : Int) (sendTimeMs : Option Int) (p : Packet) : PacketHistory :=
  if h.storing then
    let h := (h.cullOldPackets now).removeDuplicate p.subflowSeq
    h.insertAt (h.getPacketIndex p.subflowSeq) ⟨some p, sendTimeMs, sendTimeMs.isNone, 0⟩
  else h

/-- What `GetPacketAndSetSendTime` does to a stored packet. -/
def setSendTime (now : Int) (stored : StoredPacket) : StoredPacket :=
  { stored with
    sendTimeMs := some now
    pendingTransmission := false
    timesRetransmitted :=
      if stored.sendTimeMs.isSome then stored.timesRetransmitted + 1
      else stored.timesRetransmitted }

/-- `GetPacketAndSetSendTime`. -/
def getPacketAndSetSendTime (now : Int) (sequenceNumber : UInt16) : PacketHistory × Option Packet :=
  match h.getPacketState now sequenceNumber with
  | none => (h, none)
  | some stored => (h.updateStored sequenceNumber (setSendTime now), stored.packet)

/-- `Clear`. -/
def clear : PacketHistory := { h with packets := [] }

/-- `SetStorePacketsStatus`. -/
def setStorePacketsStatus (storing : Bool) (numberToStore : Nat) : PacketHistory :=
  { h.clear with storing := storing, numberToStore := min kMaxCapacity numberToStore }

/-- The packets in the slots, the oldest first. -/
def storedPackets : List Packet := h.packets.filterMap (·.packet)

/-- The number is that of the first packet, or newer. -/
def Reaches (n : UInt16) : Prop :=
  ∀ front ∈ h.storedPackets.head?, n = front.subflowSeq ∨ aheadOf n front.subflowSeq

/-- What `CullOldPackets` leaves: there is room, and either the first packet is pending or
young, or the limits on the number and on the age of the packets are kept. -/
def Trimmed (now : Int) : Prop :=
  ∀ front ∈ h.packets.head?, h.packets.length < kMaxCapacity ∧
    (front.pendingTransmission ∨ now < front.sendTimeMs.getD 0 + h.packetDurationMs ∨
      h.packets.length < h.numberToStore ∧
        now < front.sendTimeMs.getD 0 + h.packetDurationMs * kPacketCullingDelayFactor)

/-- Removing packets from the front, each because the history is full or because the packet
is old enough. -/
inductive Culls (now : Int) : PacketHistory → PacketHistory → Prop
  | done (h : PacketHistory) : Culls now h h
  | front {h culled : PacketHistory} {front : StoredPacket} (first : h.packets.head? = some front)
      (test : h.cullsFront now front) (rest : Culls now (h.removePacket 0) culled) :
      Culls now h culled

end PacketHistory

/-- The calls of `RtpPacketHistory`. The clock is read once in a call. -/
inductive HistoryCall
  | putRtpPacket (now : Int) (sendTimeMs : Option Int) (p : Packet)
  | getPacketAndSetSendTime (now : Int) (sequenceNumber : UInt16)
  | getPacketAndMarkAsPending (now : Int) (sequenceNumber : UInt16)
      (encapsulate : Packet → Option Packet)
  | markPacketAsSent (now : Int) (sequenceNumber : UInt16)
  | cullAcknowledgedPackets (sequenceNumbers : List UInt16)
  | getPayloadPaddingPacket (now : Int) (best : Nat) (encapsulate : Packet → Option Packet)
  | setRtt (now rttMs : Int)
  | setStorePacketsStatus (storing : Bool) (numberToStore : Nat)
  | clear

/-- One call; the packet it stores is what is recorded of it. -/
def historyCallStep (h : PacketHistory) : HistoryCall → PacketHistory × List Packet
  | .putRtpPacket now sendTimeMs p =>
      (h.putWithSendTime now sendTimeMs p, if h.storing then [p] else [])
  | .getPacketAndSetSendTime now n => ((h.getPacketAndSetSendTime now n).1, [])
  | .getPacketAndMarkAsPending now n encapsulate =>
      ((h.getPacketAndMarkAsPending now n (fun (_ : Unit) p => ((), encapsulate p)) ()).1, [])
  | .markPacketAsSent now n => (h.markPacketAsSent now n, [])
  | .cullAcknowledgedPackets numbers => (h.cullAcknowledgedPackets numbers, [])
  | .getPayloadPaddingPacket now best encapsulate =>
      ((h.getPayloadPaddingPacket now best (fun (_ : Unit) p => ((), encapsulate p)) ()).1, [])
  | .setRtt now rttMs => (h.setRtt now rttMs, [])
  | .setStorePacketsStatus storing numberToStore =>
      (h.setStorePacketsStatus storing numberToStore, [])
  | .clear => (h.clear, [])

/-- A history as constructed. -/
def PacketHistory.initial : PacketHistory where
  storing := false
  numberToStore := 0

/-- The last of the packets with this number. -/
def mostRecent (n : UInt16) (stored : List Packet) : Option Packet :=
  (stored.filter (·.subflowSeq = n)).getLast?

namespace PacketHistory

/-- What a call may change about which packets are stored. -/
def ChangesOnly (h after : PacketHistory) : HistoryCall → Prop
  | .putRtpPacket now _ p =>
      if h.storing then
        ∃ culled, Culls now h culled ∧ culled.Trimmed now ∧
          culled.storedPackets <:+ h.storedPackets ∧
          after.storedPackets.Perm (p :: culled.storedPackets.filter (·.subflowSeq ≠ p.subflowSeq))
      else after.storedPackets = h.storedPackets
  | .cullAcknowledgedPackets numbers =>
      after.storedPackets.Sublist h.storedPackets ∧
        after.storedPackets.filter (·.subflowSeq ∉ numbers) =
          h.storedPackets.filter (·.subflowSeq ∉ numbers)
  | .setRtt now rttMs =>
      Culls now { h with rttMs := rttMs } after ∧ (h.storing → after.Trimmed now) ∧
        after.storedPackets <:+ h.storedPackets
  | .setStorePacketsStatus .. => after.storedPackets = []
  | .clear => after.storedPackets = []
  | _ => after.storedPackets = h.storedPackets

/-- The representation of a history, relative to all the packets ever stored in it. -/
structure Lawful (h : PacketHistory) (everStored : List Packet) : Prop where
  wellFormed : h.WellFormed
  length : h.packets.length < 65536
  count : h.storedPackets.length ≤ kMaxCapacity
  recent : ∀ p ∈ h.storedPackets, mostRecent p.subflowSeq everStored = some p

section Slots

/-! How replacing one slot changes the list of packets. -/

variable {Slot Content : Type*} {slots : List Slot} (content : Slot → Option Content)

theorem filterMap_set {i : Nat} {old : Slot} (present : slots[i]? = some old) :
    ∃ older newer, slots.filterMap content = older ++ (content old).toList ++ newer ∧
      (∀ new, (slots.set i new).filterMap content = older ++ (content new).toList ++ newer) ∧
      (i = 0 → older = []) := by
  obtain ⟨inRange, atIndex⟩ := List.getElem?_eq_some_iff.mp present
  refine ⟨(slots.take i).filterMap content, (slots.drop (i + 1)).filterMap content, ?_, ?_, ?_⟩
  · have whole : slots = slots.take i ++ old :: slots.drop (i + 1) := by
      rw [← atIndex, List.getElem_cons_drop, List.take_append_drop]
    conv_lhs => rw [whole]
    rw [List.filterMap_append, List.filterMap_cons, List.append_assoc]
    cases content old <;> rfl
  · intro new
    rw [List.set_eq_take_append_cons_drop, if_pos inRange, List.filterMap_append,
      List.filterMap_cons, List.append_assoc]
    cases content new <;> rfl
  · rintro rfl
    rfl

theorem filterMap_dropWhile_isNone :
    (slots.dropWhile fun slot => (content slot).isNone).filterMap content =
      slots.filterMap content := by
  induction slots with
  | nil => rfl
  | cons slot slots ih =>
      rw [List.dropWhile_cons]
      cases filled : content slot with
      | none => simp [filled, ih]
      | some value => simp [filled]

end Slots

section Storage

variable {h : PacketHistory} {change : StoredPacket → StoredPacket}

/-- Changing slots in place without touching the packets changes no packet. -/
theorem storedPackets_modify (i : Nat) (keeps : ∀ stored, (change stored).packet = stored.packet) :
    { h with packets := h.packets.modify i change }.storedPackets = h.storedPackets := by
  unfold storedPackets
  dsimp only
  cases present : h.packets[i]? with
  | none => rw [List.modify_eq_self (List.getElem?_eq_none_iff.mp present)]
  | some old =>
      obtain ⟨older, newer, before, after, -⟩ := filterMap_set StoredPacket.packet present
      rw [List.modify_eq_set_getElem?, present, before]
      exact (after (change old)).trans (by rw [keeps])

variable (n : UInt16)

theorem storedPackets_updateStored (keeps : ∀ stored, (change stored).packet = stored.packet) :
    (h.updateStored n change).storedPackets = h.storedPackets := by
  unfold updateStored
  split
  · exact storedPackets_modify _ keeps
  · rfl

variable {stored : StoredPacket}

/-- Removing the packet of a slot leaves the others in their order. -/
theorem storedPackets_removePacket {i : Nat} (present : h.packets[i]? = some stored) :
    ∃ older newer, h.storedPackets = older ++ stored.packet.toList ++ newer ∧
      (h.removePacket i).storedPackets = older ++ newer ∧ (i = 0 → older = []) := by
  obtain ⟨older, newer, before, after, front⟩ := filterMap_set StoredPacket.packet present
  have emptied : (h.packets.modify i fun stored => { stored with packet := none }).filterMap
      StoredPacket.packet = older ++ newer := by
    rw [List.modify_eq_set_getElem?, present]
    exact (after _).trans (by rw [Option.toList_none, List.append_nil])
  refine ⟨older, newer, before, ?_, front⟩
  unfold removePacket storedPackets
  dsimp only
  split
  · exact (filterMap_dropWhile_isNone StoredPacket.packet).trans emptied
  · exact emptied

/-- Removing the front removes no packet but the oldest. -/
theorem storedPackets_removeFront {front : StoredPacket} (first : h.packets.head? = some front) :
    (h.removePacket 0).storedPackets <:+ h.storedPackets := by
  obtain ⟨older, newer, before, after, none⟩ :=
    storedPackets_removePacket (List.head?_eq_getElem? ▸ first)
  rw [before, after, none rfl]
  exact List.suffix_append _ _

variable {culled : PacketHistory} {now : Int}

theorem Culls.wellFormed (culls : Culls now h culled)
    (formed : h.WellFormed) : culled.WellFormed := by
  induction culls with
  | done => exact formed
  | front _ _ _ ih => exact ih (removePacket_wellFormed formed 0)

/-- Only the oldest packets are culled. -/
theorem Culls.suffix (culls : Culls now h culled) : culled.storedPackets <:+ h.storedPackets := by
  induction culls with
  | done => exact List.suffix_refl _
  | front first _ _ ih => exact ih.trans (storedPackets_removeFront first)

theorem cullLoop_culls (now : Int) (fuel : Nat) (h : PacketHistory) :
    Culls now h (cullLoop now fuel h) := by
  induction fuel generalizing h with
  | zero => exact .done h
  | succ fuel ih =>
      unfold cullLoop
      split
      · exact .done h
      · rename_i front first
        split
        · next test => exact .front first test (ih _)
        · exact .done h

theorem length_removePacket_le (h : PacketHistory) (i : Nat) :
    (h.removePacket i).packets.length ≤ h.packets.length := by
  unfold removePacket
  dsimp only
  split
  · exact Nat.le_trans (List.dropWhile_sublist _).length_le (by simp)
  · simp

theorem Culls.length_le (culls : Culls now h culled) :
    culled.packets.length ≤ h.packets.length := by
  induction culls with
  | done => exact Nat.le_refl _
  | front _ _ _ ih => exact Nat.le_trans ih (length_removePacket_le _ 0)

theorem length_updateStored (change : StoredPacket → StoredPacket) :
    (h.updateStored n change).packets.length = h.packets.length := by
  unfold updateStored
  split <;> simp

theorem length_cullAcknowledgedPackets_le (numbers : List UInt16) :
    (h.cullAcknowledgedPackets numbers).packets.length ≤ h.packets.length := by
  induction numbers generalizing h with
  | nil => exact Nat.le_refl _
  | cons n numbers ih =>
      refine Nat.le_trans (ih (h := h.cullAcknowledgedPacket n)) ?_
      unfold cullAcknowledgedPacket
      split
      · exact Nat.le_refl _
      · exact length_removePacket_le h _

theorem length_insertAt_le (index : Int) (new : StoredPacket) :
    (h.insertAt index new).packets.length ≤ h.packets.length + index.natAbs + 1 := by
  unfold insertAt
  simp only [List.length_set, List.length_append, List.length_replicate]
  omega

theorem length_removeFront_lt {front : StoredPacket} (first : h.packets.head? = some front) :
    (h.removePacket 0).packets.length < h.packets.length := by
  obtain ⟨rest, whole⟩ := List.head?_eq_some_iff.mp first
  have shape : (h.removePacket 0).packets = rest.dropWhile (·.packet.isNone) := by
    unfold removePacket
    rw [whole]
    simp
  have shorter : (rest.dropWhile (·.packet.isNone)).length ≤ rest.length :=
    (List.dropWhile_sublist _).length_le
  rw [shape, whole, List.length_cons]
  omega

/-- Culling goes on until the limits are kept. -/
theorem trimmed_cullLoop (now : Int) {fuel : Nat} (enough : h.packets.length ≤ fuel) :
    (cullLoop now fuel h).Trimmed now := by
  induction fuel generalizing h with
  | zero =>
      have none : h.packets = [] := List.length_eq_zero_iff.mp (Nat.le_zero.mp enough)
      intro front isFront
      rw [cullLoop, none] at isFront
      cases isFront
  | succ fuel ih =>
      unfold cullLoop
      split
      · rename_i none
        intro front isFront
        rw [none] at isFront
        cases isFront
      · rename_i front first
        split
        · have shorter := length_removeFront_lt first
          exact ih (by omega)
        · rename_i keeps
          intro other isFront
          obtain rfl : front = other := Option.some.inj (first.symm.trans isFront)
          simp only [cullsFront, Bool.or_eq_true, Bool.and_eq_true, decide_eq_true_eq,
            Bool.not_eq_true', decide_eq_false_iff_not, not_or, not_and, Int.not_le,
            ge_iff_le, gt_iff_lt, Int.not_lt, Nat.not_le] at keeps
          refine ⟨keeps.1, ?_⟩
          by_cases pending : front.pendingTransmission
          · exact .inl pending
          · by_cases young : now < front.sendTimeMs.getD 0 + h.packetDurationMs
            · exact .inr (.inl young)
            · exact .inr (.inr (keeps.2 ⟨Bool.not_eq_true _ ▸ pending, Int.not_lt.mp young⟩))

theorem Trimmed.length_lt (trimmed : h.Trimmed now) : h.packets.length < kMaxCapacity := by
  cases isFront : h.packets.head? with
  | none =>
      rw [List.head?_eq_none_iff.mp isFront]
      decide
  | some front => exact (trimmed front isFront).1

variable {p : Packet}

theorem mem_storedPackets : p ∈ h.storedPackets ↔ ∃ stored ∈ h.packets, stored.packet = some p :=
  List.mem_filterMap

theorem number_of_packet (isStored : stored.packet = some p) :
    stored.number = some p.subflowSeq := by
  rw [StoredPacket.number, isStored, Option.map_some]

/-- In a history of at most half the number space a packet is where its number leads. -/
theorem WellFormed.getStoredPacket_of_stored (formed : h.WellFormed)
    (short : h.packets.length ≤ 32768) (member : p ∈ h.storedPackets) :
    ∃ stored, h.getStoredPacket p.subflowSeq = some stored ∧ stored.packet = some p := by
  obtain ⟨stored, inSlot, isStored⟩ := mem_storedPackets.mp member
  exact ⟨stored, formed.getStoredPacket_of_mem short inSlot (number_of_packet isStored), isStored⟩

/-- What is left after a removal was in another slot. -/
theorem mem_storedPackets_removePacket {i : Nat} (member : p ∈ (h.removePacket i).storedPackets) :
    ∃ j stored, j ≠ i ∧ h.packets[j]? = some stored ∧ stored.packet = some p := by
  have inEmptied : p ∈ (h.packets.modify i fun stored => { stored with packet := none }).filterMap
      StoredPacket.packet := by
    unfold removePacket storedPackets at member
    dsimp only at member
    split at member
    · exact filterMap_dropWhile_isNone StoredPacket.packet ▸ member
    · exact member
  obtain ⟨slot, inSlot, isStored⟩ := List.mem_filterMap.mp inEmptied
  obtain ⟨j, atPosition⟩ := List.mem_iff_getElem?.mp inSlot
  rw [List.getElem?_modify] at atPosition
  obtain ⟨old, present, rfl⟩ := Option.map_eq_some_iff.mp atPosition
  by_cases same : i = j
  · rw [if_pos same] at isStored
    cases isStored
  · rw [if_neg same] at isStored
    exact ⟨j, old, Ne.symm same, present, isStored⟩

theorem isSome_getStoredPacket :
    (h.getStoredPacket n).isSome = h.occupied (h.getPacketIndex n) := by
  unfold getStoredPacket
  split
  · rename_i taken
    rw [taken]
    unfold occupied at taken
    cases present : h.packets[(h.getPacketIndex n).toNat]? with
    | none => simp [present] at taken
    | some stored => rfl
  · next free => exact (Bool.not_eq_true _ ▸ free : h.occupied _ = false).symm

/-- After a packet of the same number is removed, none is left under the number, and all the
others are. -/
theorem WellFormed.storedPackets_removeDuplicate (formed : h.WellFormed)
    (short : h.packets.length ≤ 32768) (n : UInt16) :
    (h.removeDuplicate n).storedPackets = h.storedPackets.filter (·.subflowSeq ≠ n) := by
  unfold removeDuplicate
  rw [← isSome_getStoredPacket]
  cases found : h.getStoredPacket n with
  | none =>
      rw [if_neg (by simp)]
      refine (List.filter_eq_self.mpr fun p member => ?_).symm
      rw [decide_eq_true_eq]
      rintro rfl
      obtain ⟨stored, present, -⟩ := formed.getStoredPacket_of_stored short member
      cases found.symm.trans present
  | some stored =>
      obtain ⟨i, position, present, occupied⟩ := getStoredPacket_eq_some found
      obtain ⟨p, isStored⟩ := Option.isSome_iff_exists.mp occupied
      have same : p.subflowSeq = n := formed.number_at position present (number_of_packet isStored)
      rw [if_pos Option.isSome_some, position, Int.toNat_natCast]
      obtain ⟨older, newer, before, after, -⟩ := storedPackets_removePacket present
      have others : ∀ q ∈ older ++ newer, decide (q.subflowSeq ≠ n) = true := by
        intro q member
        obtain ⟨j, other, apart, atPosition, isOther⟩ :=
          mem_storedPackets_removePacket (after ▸ member)
        rw [decide_eq_true_eq]
        rintro rfl
        have index := formed.index_of_number short atPosition (number_of_packet isOther)
        exact apart (Int.ofNat_inj.mp (index.symm.trans position))
      rw [before, after, isStored, List.append_assoc, List.filter_append, List.filter_append]
      rw [List.forall_mem_append] at others
      rw [List.filter_eq_self.mpr others.1, List.filter_eq_self.mpr others.2]
      simp [same]

/-- Numbers are looked up relative to the first packet. -/
theorem WellFormed.index_of_front (formed : h.WellFormed) {front : Packet}
    (isFront : h.storedPackets.head? = some front) (n : UInt16) :
    h.getPacketIndex n = offset front.subflowSeq n ∧
      NumberedFrom StoredPacket.number front.subflowSeq h.packets := by
  obtain ⟨first, numbered⟩ := formed.numbered
  unfold storedPackets at isFront
  cases whole : h.packets with
  | nil => simp [whole] at isFront
  | cons slot rest =>
      obtain ⟨p, isStored⟩ := Option.isSome_iff_exists.mp (formed.front slot (by simp [whole]))
      rw [whole, List.filterMap_cons_some isStored] at isFront
      obtain rfl : p = front := Option.some.inj isFront
      have same : p.subflowSeq = first := by
        simpa using numbered 0 slot (by simp [whole]) _ (number_of_packet isStored)
      rw [← whole, same]
      refine ⟨getPacketIndex_eq_offset ?_ n, numbered⟩
      rw [whole, List.head?_cons, Option.bind_some, number_of_packet isStored, same]

theorem reaches_iff {front : Packet} (isFront : h.storedPackets.head? = some front)
    (n : UInt16) : h.Reaches n ↔ 0 ≤ offset front.subflowSeq n := by
  unfold Reaches
  rw [isFront]
  have ahead := offset_pos_iff front.subflowSeq n
  have behind := offset_neg_iff front.subflowSeq n
  constructor
  · intro reached
    rcases reached front rfl with same | newer
    · exact Int.le_of_eq (same ▸ (offset_self _).symm)
    · exact Int.le_of_lt (ahead.mpr newer)
  · rintro nonneg other ⟨⟩
    rcases Int.lt_or_eq_of_le nonneg with positive | zero
    · exact .inr (ahead.mp positive)
    · refine .inl ?_
      simpa using (add_ofNat_offset (i := 0) zero.symm).symm

section

variable (formed : h.WellFormed)
include formed

/-- A lookup finds the packet of a number exactly if the number is not older than that of the
first packet. -/
theorem WellFormed.getStoredPacket_iff (length : h.packets.length < 65536)
    (n : UInt16) (p : Packet) :
    (h.getStoredPacket n).bind (·.packet) = some p ↔
      p ∈ h.storedPackets ∧ p.subflowSeq = n ∧ h.Reaches n := by
  constructor
  · intro found
    obtain ⟨stored, isFound, isStored⟩ := Option.bind_eq_some_iff.mp found
    obtain ⟨i, position, present, -⟩ := getStoredPacket_eq_some isFound
    have member := mem_storedPackets.mpr ⟨stored, List.mem_of_getElem? present, isStored⟩
    refine ⟨member, formed.number_at position present (number_of_packet isStored), ?_⟩
    obtain ⟨front, isFront⟩ : ∃ front, h.storedPackets.head? = some front :=
      ⟨_, List.head?_eq_some_head (List.ne_nil_of_mem member)⟩
    rw [reaches_iff isFront, ← (formed.index_of_front isFront n).1, position]
    exact Int.natCast_nonneg i
  · rintro ⟨member, rfl, reached⟩
    obtain ⟨stored, inSlot, isStored⟩ := mem_storedPackets.mp member
    obtain ⟨i, present⟩ := List.mem_iff_getElem?.mp inSlot
    obtain ⟨front, isFront⟩ : ∃ front, h.storedPackets.head? = some front :=
      ⟨_, List.head?_eq_some_head (List.ne_nil_of_mem member)⟩
    obtain ⟨index, numbered⟩ := formed.index_of_front isFront p.subflowSeq
    have inRange := (List.getElem?_eq_some_iff.mp present).1
    have number := numbered i stored present _ (number_of_packet isStored)
    rw [reaches_iff isFront, number] at reached
    have position := offset_add_of_nonneg (Nat.lt_trans inRange length) reached
    rw [← number, ← index] at position
    rw [getStoredPacket_of_index position present (by simp [isStored]), Option.bind_some, isStored]

/-- Putting a packet where its number leads adds it, if there is none under the number. -/
theorem WellFormed.storedPackets_insertAt {n : UInt16}
    (absent : ∀ q ∈ h.storedPackets, q.subflowSeq ≠ n) {new : StoredPacket}
    (isNew : new.packet = some p) :
    (h.insertAt (h.getPacketIndex n) new).storedPackets.Perm (p :: h.storedPackets) := by
  have blank : ∀ count, (List.replicate count StoredPacket.placeholder).filterMap
      StoredPacket.packet = [] := by
    intro count
    rw [List.filterMap_replicate_of_none rfl]
  rcases Int.lt_or_le (h.getPacketIndex n) 0 with before | within
  · -- The packet becomes the front.
    obtain ⟨k, behind⟩ : ∃ k : Nat, h.getPacketIndex n = -((k + 1 : Nat) : Int) :=
      ⟨(-h.getPacketIndex n).toNat - 1, by omega⟩
    unfold storedPackets
    rw [behind, insertAt_before, List.filterMap_cons_some isNew, List.filterMap_append, blank]
    rfl
  · -- The slot is empty, or beyond the end.
    obtain ⟨i, position⟩ := Int.eq_ofNat_of_zero_le within
    have shape := insertAt_within (h := h) i new
    have padded : (h.packets ++ List.replicate (i + 1 - h.packets.length)
        StoredPacket.placeholder).filterMap StoredPacket.packet = h.storedPackets := by
      rw [List.filterMap_append, blank, List.append_nil]
      rfl
    obtain ⟨old, present⟩ : ∃ old, (h.packets ++ List.replicate (i + 1 - h.packets.length)
        StoredPacket.placeholder)[i]? = some old := by
      refine ⟨_, List.getElem?_eq_getElem ?_⟩
      rw [List.length_append, List.length_replicate]
      omega
    have empty : old.packet = none := by
      rcases Nat.lt_or_ge i h.packets.length with inside | beyond
      · rw [List.getElem?_append_left inside] at present
        rw [← Option.not_isSome_iff_eq_none]
        intro occupied
        obtain ⟨q, isStored⟩ := Option.isSome_iff_exists.mp occupied
        refine absent q (mem_storedPackets.mpr ⟨old, List.mem_of_getElem? present, isStored⟩) ?_
        exact formed.number_at position present (number_of_packet isStored)
      · rw [List.getElem?_append_right beyond] at present
        rw [List.eq_of_mem_replicate (List.mem_of_getElem? present)]
        rfl
    obtain ⟨older, newer, all, after, -⟩ := filterMap_set StoredPacket.packet present
    rw [empty, Option.toList_none, List.append_nil, padded] at all
    unfold storedPackets at all ⊢
    rw [position, shape, after new, isNew, all, Option.toList_some, List.append_assoc]
    exact List.perm_middle

/-- A history is never longer than the number space. -/
theorem WellFormed.length_putWithSendTime (storing : h.storing)
    (now : Int) (sendTimeMs : Option Int) (p : Packet) :
    (h.putWithSendTime now sendTimeMs p).packets.length < 65536 := by
  have culledFormed : (h.cullOldPackets now).WellFormed :=
    (cullLoop_culls now h.packets.length h).wellFormed formed
  have room := (trimmed_cullLoop now (Nat.le_refl h.packets.length)).length_lt
  have shorter : ((h.cullOldPackets now).removeDuplicate p.subflowSeq).packets.length <
      kMaxCapacity := by
    refine Nat.lt_of_le_of_lt ?_ room
    unfold removeDuplicate
    split
    · exact length_removePacket_le _ _
    · exact Nat.le_refl _
  have kept := removeDuplicate_wellFormed culledFormed p.subflowSeq
  unfold putWithSendTime
  rw [if_pos storing]
  refine Nat.lt_of_le_of_lt (length_insertAt_le _ _) ?_
  have near : (((h.cullOldPackets now).removeDuplicate p.subflowSeq).getPacketIndex
      p.subflowSeq).natAbs ≤ 32768 := by
    by_cases empty : ((h.cullOldPackets now).removeDuplicate p.subflowSeq).packets = []
    · rw [getPacketIndex_of_nil empty]
      decide
    · obtain ⟨first, -, index⟩ := kept.index empty
      rw [index]
      exact natAbs_offset_le first _
  unfold kMaxCapacity at shorter
  omega

/-- Storing a packet culls the oldest, and replaces what was under its number. -/
theorem WellFormed.putWithSendTime_changes (storing : h.storing)
    (now : Int) (sendTimeMs : Option Int) (p : Packet) :
    ∃ culled, Culls now h culled ∧ culled.Trimmed now ∧
      (h.putWithSendTime now sendTimeMs p).storedPackets.Perm
        (p :: culled.storedPackets.filter (·.subflowSeq ≠ p.subflowSeq)) := by
  have culls := cullLoop_culls now h.packets.length h
  have trimmed := trimmed_cullLoop now (Nat.le_refl h.packets.length)
  have room := trimmed.length_lt
  refine ⟨_, culls, trimmed, ?_⟩
  have culledFormed := culls.wellFormed formed
  have rest := culledFormed.storedPackets_removeDuplicate
    (Nat.le_trans (Nat.le_of_lt room) (by decide)) p.subflowSeq
  unfold putWithSendTime
  rw [if_pos storing, ← rest]
  refine (removeDuplicate_wellFormed culledFormed p.subflowSeq).storedPackets_insertAt ?_ rfl
  intro q member
  rw [rest] at member
  exact of_decide_eq_true (List.mem_filter.mp member).2

/-- An acknowledgment removes nothing but the packet its number leads to. -/
theorem WellFormed.cullAcknowledgedPacket_changes (n : UInt16) :
    (h.cullAcknowledgedPacket n).storedPackets.Sublist h.storedPackets ∧
      ∀ kept : UInt16 → Bool, kept n = false →
        (h.cullAcknowledgedPacket n).storedPackets.filter (kept ·.subflowSeq) =
          h.storedPackets.filter (kept ·.subflowSeq) := by
  unfold cullAcknowledgedPacket
  split
  · exact ⟨List.Sublist.refl _, fun _ _ => rfl⟩
  · rename_i within
    rw [not_or, Int.not_lt, Nat.not_le] at within
    obtain ⟨stored, present⟩ : ∃ stored,
        h.packets[(h.getPacketIndex n).toNat]? = some stored :=
      ⟨_, List.getElem?_eq_getElem within.2⟩
    obtain ⟨older, newer, before, after, -⟩ := storedPackets_removePacket present
    rw [before, after]
    refine ⟨(List.sublist_append_left older _).append (List.Sublist.refl newer), ?_⟩
    intro kept acknowledged
    rw [List.filter_append, List.filter_append, List.filter_append]
    cases isStored : stored.packet with
    | none => simp
    | some p =>
        have same : p.subflowSeq = n :=
          formed.number_at (Int.toNat_of_nonneg within.1).symm present
            (number_of_packet isStored)
        simp [same, acknowledged]

theorem WellFormed.cullAcknowledgedPackets_changes (numbers : List UInt16) :
    (h.cullAcknowledgedPackets numbers).storedPackets.Sublist h.storedPackets ∧
      ∀ kept : UInt16 → Bool, (∀ n ∈ numbers, kept n = false) →
        (h.cullAcknowledgedPackets numbers).storedPackets.filter (kept ·.subflowSeq) =
          h.storedPackets.filter (kept ·.subflowSeq) := by
  induction numbers generalizing h with
  | nil => exact ⟨List.Sublist.refl _, fun _ _ => rfl⟩
  | cons n numbers ih =>
      obtain ⟨fewer, same⟩ := formed.cullAcknowledgedPacket_changes n
      obtain ⟨rest, others⟩ := ih (cullAcknowledgedPacket_wellFormed formed n)
      refine ⟨rest.trans fewer, fun kept acknowledged => ?_⟩
      rw [List.forall_mem_cons] at acknowledged
      exact (others kept acknowledged.2).trans (same kept acknowledged.1)

/-- Every call changes only what it may. -/
theorem WellFormed.changesOnly (call : HistoryCall) :
    h.ChangesOnly (historyCallStep h call).1 call := by
  cases call with
  | putRtpPacket now sendTimeMs p =>
      unfold ChangesOnly historyCallStep
      dsimp only
      split
      · rename_i storing
        obtain ⟨culled, culls, trimmed, changed⟩ :=
          formed.putWithSendTime_changes storing now sendTimeMs p
        exact ⟨culled, culls, trimmed, culls.suffix, changed⟩
      · rename_i disabled
        rw [putWithSendTime, if_neg disabled]
  | getPacketAndSetSendTime now n =>
      unfold ChangesOnly historyCallStep getPacketAndSetSendTime
      dsimp only
      split
      · rfl
      · exact storedPackets_updateStored n fun _ => rfl
  | getPacketAndMarkAsPending now n encapsulate =>
      unfold ChangesOnly historyCallStep getPacketAndMarkAsPending
      dsimp only
      split
      · rfl
      · split
        · rfl
        · exact storedPackets_updateStored n fun _ => rfl
  | markPacketAsSent now n =>
      unfold ChangesOnly historyCallStep markPacketAsSent
      dsimp only
      split
      · exact storedPackets_updateStored n fun _ => rfl
      · rfl
  | cullAcknowledgedPackets numbers =>
      obtain ⟨fewer, same⟩ := formed.cullAcknowledgedPackets_changes numbers
      exact ⟨fewer, same (fun n => decide (n ∉ numbers)) fun n member => by simp [member]⟩
  | getPayloadPaddingPacket now best encapsulate =>
      unfold ChangesOnly historyCallStep getPayloadPaddingPacket
      dsimp only
      split
      · rfl
      · split
        · rfl
        · exact storedPackets_modify best fun _ => rfl
  | setRtt now rttMs =>
      have culls : Culls now { h with rttMs := rttMs } (h.setRtt now rttMs) ∧
          (h.storing → (h.setRtt now rttMs).Trimmed now) := by
        unfold setRtt
        split
        · exact ⟨cullLoop_culls now _ _, fun _ => trimmed_cullLoop now (Nat.le_refl _)⟩
        · next disabled => exact ⟨.done _, fun storing => absurd storing disabled⟩
      exact ⟨culls.1, culls.2, culls.1.suffix⟩
  | setStorePacketsStatus storing numberToStore => rfl
  | clear => rfl

theorem historyCallStep_wellFormed (call : HistoryCall) :
    (historyCallStep h call).1.WellFormed := by
  have empty : ∀ after : PacketHistory, after.packets = [] → after.WellFormed := by
    intro after none
    refine ⟨by simp [none], 0, ?_⟩
    rw [none]
    exact NumberedFrom.nil 0
  cases call with
  | putRtpPacket now sendTimeMs p =>
      unfold historyCallStep putWithSendTime
      dsimp only
      split
      · exact (insertAt_inserted (removeDuplicate_wellFormed (cullLoop_wellFormed now _ formed)
          p.subflowSeq) rfl).wellFormed
      · exact formed
  | getPacketAndSetSendTime now n =>
      unfold historyCallStep getPacketAndSetSendTime
      dsimp only
      split
      · exact formed
      · exact updateStored_wellFormed formed n fun _ => rfl
  | getPacketAndMarkAsPending now n encapsulate =>
      unfold historyCallStep getPacketAndMarkAsPending
      dsimp only
      split
      · exact formed
      · split
        · exact formed
        · exact updateStored_wellFormed formed n fun _ => rfl
  | markPacketAsSent now n =>
      unfold historyCallStep markPacketAsSent
      dsimp only
      split
      · exact updateStored_wellFormed formed n fun _ => rfl
      · exact formed
  | cullAcknowledgedPackets numbers => exact cullAcknowledgedPackets_wellFormed formed numbers
  | getPayloadPaddingPacket now best encapsulate =>
      unfold historyCallStep getPayloadPaddingPacket
      dsimp only
      split
      · exact formed
      · split
        · exact formed
        · exact formed.modify best fun _ => rfl
  | setRtt now rttMs => exact setRtt_wellFormed formed now rttMs
  | setStorePacketsStatus storing numberToStore => exact empty _ rfl
  | clear => exact empty _ rfl

end

variable {everStored : List Packet}

/-- No call but storing a packet makes the history longer. -/
theorem length_historyCallStep_le (h : PacketHistory) (call : HistoryCall)
    (other : ∀ now sendTimeMs p, call ≠ .putRtpPacket now sendTimeMs p) :
    (historyCallStep h call).1.packets.length ≤ h.packets.length := by
  cases call with
  | putRtpPacket now sendTimeMs p => exact absurd rfl (other now sendTimeMs p)
  | cullAcknowledgedPackets numbers => exact length_cullAcknowledgedPackets_le numbers
  | setRtt now rttMs =>
      unfold historyCallStep setRtt
      dsimp only
      split
      · exact (cullLoop_culls now _ _).length_le
      · exact Nat.le_refl _
  | setStorePacketsStatus storing numberToStore => exact Nat.zero_le _
  | clear => exact Nat.zero_le _
  | getPacketAndSetSendTime now n =>
      unfold historyCallStep getPacketAndSetSendTime
      dsimp only
      split
      · exact Nat.le_refl _
      · exact Nat.le_of_eq (length_updateStored n _)
  | getPacketAndMarkAsPending now n encapsulate =>
      unfold historyCallStep getPacketAndMarkAsPending
      dsimp only
      split
      · exact Nat.le_refl _
      · split
        · exact Nat.le_refl _
        · exact Nat.le_of_eq (length_updateStored n _)
  | markPacketAsSent now n =>
      unfold historyCallStep markPacketAsSent
      dsimp only
      split
      · exact Nat.le_of_eq (length_updateStored n _)
      · exact Nat.le_refl _
  | getPayloadPaddingPacket now best encapsulate =>
      unfold historyCallStep getPayloadPaddingPacket
      dsimp only
      split
      · exact Nat.le_refl _
      · split
        · exact Nat.le_refl _
        · simp

/-- A call that stores nothing new keeps the law. -/
theorem Lawful.fewer (lawful : h.Lawful everStored) {after : PacketHistory}
    (formed : after.WellFormed) (shorter : after.packets.length ≤ h.packets.length)
    (sublist : after.storedPackets.Sublist h.storedPackets) : after.Lawful (everStored ++ []) := by
  rw [List.append_nil]
  exact ⟨formed, Nat.lt_of_le_of_lt shorter lawful.length,
    Nat.le_trans sublist.length_le lawful.count,
    fun p member => lawful.recent p (sublist.subset member)⟩

theorem mostRecent_append_same (p : Packet) :
    mostRecent p.subflowSeq (everStored ++ [p]) = some p := by
  unfold mostRecent
  simp

theorem mostRecent_append_of_ne {n : UInt16} (other : p.subflowSeq ≠ n) :
    mostRecent n (everStored ++ [p]) = mostRecent n everStored := by
  unfold mostRecent
  simp [other]

/-- Storing a packet keeps the law. -/
theorem Lawful.put (lawful : h.Lawful everStored) (storing : h.storing) (now : Int)
    (sendTimeMs : Option Int) (p : Packet) :
    (h.putWithSendTime now sendTimeMs p).Lawful (everStored ++ [p]) := by
  obtain ⟨culled, culls, trimmed, changed⟩ :=
    lawful.wellFormed.putWithSendTime_changes storing now sendTimeMs p
  have room := trimmed.length_lt
  refine ⟨historyCallStep_wellFormed lawful.wellFormed (.putRtpPacket now sendTimeMs p),
    lawful.wellFormed.length_putWithSendTime storing now sendTimeMs p, ?_, ?_⟩
  · have fewer : culled.storedPackets.length ≤ culled.packets.length := List.length_filterMap_le _ _
    have kept := List.length_filter_le (fun q : Packet => decide (q.subflowSeq ≠ p.subflowSeq))
      culled.storedPackets
    rw [changed.length_eq, List.length_cons]
    omega
  · intro q member
    rcases List.mem_cons.mp (changed.mem_iff.mp member) with rfl | other
    · exact mostRecent_append_same q
    · obtain ⟨inCulled, apart⟩ := List.mem_filter.mp other
      rw [mostRecent_append_of_ne (Ne.symm (of_decide_eq_true apart))]
      exact lawful.recent q (culls.suffix.subset inCulled)

/-- Every call keeps the law. -/
theorem Lawful.step (lawful : h.Lawful everStored) (call : HistoryCall) :
    (historyCallStep h call).1.Lawful (everStored ++ (historyCallStep h call).2) := by
  have formed := historyCallStep_wellFormed lawful.wellFormed call
  have changes := lawful.wellFormed.changesOnly call
  have shorter := length_historyCallStep_le h call
  cases call with
  | putRtpPacket now sendTimeMs p =>
      unfold historyCallStep
      dsimp only
      split
      · next storing => exact lawful.put storing now sendTimeMs p
      · rename_i disabled
        have same : h.putWithSendTime now sendTimeMs p = h := if_neg disabled
        rw [same]
        exact lawful.fewer lawful.wellFormed (Nat.le_refl _) (List.Sublist.refl _)
  | cullAcknowledgedPackets numbers => exact lawful.fewer formed (shorter fun _ _ _ => nofun) changes.1
  | setRtt now rttMs => exact lawful.fewer formed (shorter fun _ _ _ => nofun) changes.2.2.sublist
  | setStorePacketsStatus storing numberToStore =>
      exact lawful.fewer formed (shorter fun _ _ _ => nofun) (List.nil_sublist _)
  | clear => exact lawful.fewer formed (shorter fun _ _ _ => nofun) (List.nil_sublist _)
  | _ => exact lawful.fewer formed (shorter fun _ _ _ => nofun) (changes ▸ List.Sublist.refl _)

/-- The law holds after any calls. -/
theorem lawful_finalState (calls : List HistoryCall) :
    (finalState historyCallStep initial calls).Lawful (outputs historyCallStep initial calls) := by
  induction calls using List.reverseRecOn with
  | nil =>
      exact ⟨⟨fun _ => nofun, 0, NumberedFrom.nil 0⟩, by decide, by decide, fun _ => nofun⟩
  | append_singleton calls call ih =>
      rw [finalState_append, outputs_append]
      simpa using ih.step call

/-- In every state a history reaches: its first slot holds a packet; the slots are numbered
by position; at most `kMaxCapacity` packets are stored; a number leads to the packet stored
under it exactly if it is not older than the first one, and that is the packet stored last
under it; and the next call changes which packets are stored only as it may: by storing or
acknowledging packets, by culling the oldest until the limits are kept, or by clearing
all. -/
theorem history_representation (calls : List HistoryCall) :
    let h := finalState historyCallStep initial calls
    (∀ front ∈ h.packets.head?, front.packet.isSome) ∧
      (∃ first, ∀ (i : Nat) (stored : StoredPacket) (p : Packet), h.packets[i]? = some stored →
        stored.packet = some p → p.subflowSeq = first + UInt16.ofNat i) ∧
      h.storedPackets.length ≤ kMaxCapacity ∧
      (∀ n p, (h.getStoredPacket n).bind (·.packet) = some p ↔
        p ∈ h.storedPackets ∧ p.subflowSeq = n ∧ h.Reaches n) ∧
      (∀ p ∈ h.storedPackets,
        mostRecent p.subflowSeq (outputs historyCallStep initial calls) = some p) ∧
      ∀ call, h.ChangesOnly (historyCallStep h call).1 call := by
  intro h
  have lawful : h.Lawful (outputs historyCallStep initial calls) := lawful_finalState calls
  obtain ⟨first, numbered⟩ := lawful.wellFormed.numbered
  refine ⟨lawful.wellFormed.front, ⟨first, ?_⟩, lawful.count,
    lawful.wellFormed.getStoredPacket_iff lawful.length, lawful.recent,
    lawful.wellFormed.changesOnly⟩
  intro i stored p present isStored
  exact numbered i stored present p.subflowSeq (number_of_packet isStored)

/-- A packet far ahead of the only other one. -/
def distantCalls : List HistoryCall :=
  [.setStorePacketsStatus true 600, .putRtpPacket 0 (some 0) (videoPacket 1),
    .putRtpPacket 0 (some 0) { videoPacket 2 with subflowSeq := 10000 }]

/-- Two packets take more slots than any limit allows. -/
theorem history_longer_than_limits :
    (finalState historyCallStep initial distantCalls).numberToStore = 600 ∧
      kMaxCapacity < (finalState historyCallStep initial distantCalls).packets.length := by
  let single : PacketHistory :=
    { storing := true
      numberToStore := 600
      packets := [⟨some (videoPacket 1), some 0, false, 0⟩] }
  have room : (single.cullOldPackets 0).removeDuplicate 10000 = single := by decide
  have index : single.getPacketIndex 10000 = (10000 : Nat) := by decide
  have last : finalState historyCallStep initial distantCalls =
      single.insertAt (10000 : Nat)
        ⟨some { videoPacket 2 with subflowSeq := 10000 }, some 0, false, 0⟩ := by
    rw [← index, ← room]
    rfl
  rw [last]
  refine ⟨rfl, ?_⟩
  rw [insertAt_within, List.length_set, List.length_append, List.length_replicate]
  decide

end Storage

end PacketHistory

end MpWebRtc
