import MpWebRtc.Math.Numbered
import MpWebRtc.Packet

/-!
# The packet history

`RtpPacketHistory` keeps sent packets for retransmission, under their number on the
path. It is a queue of slots indexed by the distance to the number of its first packet;
a number that was skipped, or whose packet was removed, leaves an empty slot. Packets
leave the front by age and by capacity, and anywhere by acknowledgment.

The order in which packets are reused as padding is left open: the choice is an
argument of `getPayloadPaddingPacket`.
-/

namespace MpWebRtc

open Math Math.Serial

def kMaxCapacity : Nat := 9600
def kMinPacketDurationMs : Int := 1000
def kMinPacketDurationRtt : Int := 3
def kPacketCullingDelayFactor : Int := 3

/-- A slot of the history. The default is the placeholder for a missing packet. -/
structure StoredPacket where
  packet : Option Packet := none
  sendTimeMs : Option Int := none
  pendingTransmission : Bool := true
  timesRetransmitted : Nat := 0
  deriving DecidableEq

/-- `StoredPacket(nullptr, nullopt, 0)`. -/
def StoredPacket.placeholder : StoredPacket := {}

/-- The number of the packet in a slot. -/
def StoredPacket.number (stored : StoredPacket) : Option UInt16 := stored.packet.map (·.subflowSeq)

theorem StoredPacket.isSome_of_number {stored : StoredPacket} {n : UInt16}
    (isNumbered : stored.number = some n) : stored.packet.isSome := by
  simpa [number] using Option.isSome_of_eq_some isNumbered

/-- `RtpPacketHistory`. -/
structure PacketHistory where
  storing : Bool := true
  numberToStore : Nat
  rttMs : Int := -1
  packets : List StoredPacket := []
  deriving DecidableEq

namespace PacketHistory

variable (h : PacketHistory)

/-- `GetPacketIndex`. The front of a non-empty history holds a packet. -/
def getPacketIndex (sequenceNumber : UInt16) : Int :=
  match h.packets.head?.bind StoredPacket.number with
  | none => 0
  | some firstSeq =>
      if firstSeq = sequenceNumber then 0
      else
        let packetIndex : Int := sequenceNumber.toNat - firstSeq.toNat
        if aheadOf sequenceNumber firstSeq then
          if sequenceNumber < firstSeq then packetIndex + 65536 else packetIndex
        else if sequenceNumber > firstSeq then packetIndex - 65536
        else packetIndex

/-- The slot with this index, if it is in the queue and occupied. -/
def occupied (packetIndex : Int) : Bool :=
  decide (0 ≤ packetIndex) && (h.packets[packetIndex.toNat]?.any (·.packet.isSome))

/-- `GetStoredPacket`. -/
def getStoredPacket (sequenceNumber : UInt16) : Option StoredPacket :=
  if h.occupied (h.getPacketIndex sequenceNumber) then
    h.packets[(h.getPacketIndex sequenceNumber).toNat]?
  else none

/-- Change a stored packet in place. -/
def updateStored (sequenceNumber : UInt16) (change : StoredPacket → StoredPacket) : PacketHistory :=
  if h.occupied (h.getPacketIndex sequenceNumber) then
    { h with packets := h.packets.modify (h.getPacketIndex sequenceNumber).toNat change }
  else h

/-- `RemovePacket`: empty the slot, and drop empty slots from the front. -/
def removePacket (packetIndex : Nat) : PacketHistory :=
  let emptied := h.packets.modify packetIndex fun stored => { stored with packet := none }
  { h with
    packets := if packetIndex = 0 then emptied.dropWhile (·.packet.isNone) else emptied }

/-- How long packets are kept at least. -/
def packetDurationMs : Int :=
  max (kMinPacketDurationRtt * h.rttMs) kMinPacketDurationMs

/-- The test by which `CullOldPackets` removes the front packet. -/
def cullsFront (now : Int) (front : StoredPacket) : Bool :=
  let sendTimeMs := front.sendTimeMs.getD 0
  decide (h.packets.length ≥ kMaxCapacity) ||
    (!front.pendingTransmission && !decide (sendTimeMs + h.packetDurationMs > now) &&
      (decide (h.packets.length ≥ h.numberToStore) ||
        decide (sendTimeMs + h.packetDurationMs * kPacketCullingDelayFactor ≤ now)))

/-- The loop of `CullOldPackets`. Every round shortens the queue, so its length bounds
the number of rounds. -/
def cullLoop (now : Int) : Nat → PacketHistory → PacketHistory
  | 0, h => h
  | fuel + 1, h =>
      match h.packets.head? with
      | none => h
      | some front => if h.cullsFront now front then cullLoop now fuel (h.removePacket 0) else h

/-- `CullOldPackets`. -/
def cullOldPackets (now : Int) : PacketHistory := cullLoop now h.packets.length h

/-- `SetRtt`. -/
def setRtt (now rttMs : Int) : PacketHistory :=
  if h.storing then { h with rttMs := rttMs }.cullOldPackets now else { h with rttMs := rttMs }

/-- Remove a packet stored under the same number. -/
def removeDuplicate (sequenceNumber : UInt16) : PacketHistory :=
  if h.occupied (h.getPacketIndex sequenceNumber) then
    h.removePacket (h.getPacketIndex sequenceNumber).toNat
  else h

/-- Put a slot at this index, extending the queue with placeholders at the front or at
the back. -/
def insertAt (packetIndex : Int) (stored : StoredPacket) : PacketHistory :=
  let extended := List.replicate (-packetIndex).toNat .placeholder ++ h.packets
  let padded := extended ++ List.replicate (packetIndex.toNat + 1 - extended.length) .placeholder
  { h with packets := padded.set packetIndex.toNat stored }

/-- `PutRtpPacket`, for a packet sent at time `now`. -/
def putRtpPacket (now : Int) (p : Packet) : PacketHistory :=
  if h.storing then
    let h := (h.cullOldPackets now).removeDuplicate p.subflowSeq
    h.insertAt (h.getPacketIndex p.subflowSeq) ⟨some p, some now, false, 0⟩
  else h

/-- `VerifyRtt`: not retransmitted within the last round trip. -/
def verifyRtt (now : Int) (stored : StoredPacket) : Bool :=
  !(stored.sendTimeMs.any fun sendTimeMs =>
    decide (stored.timesRetransmitted > 0) && decide (now < sendTimeMs + h.rttMs))

/-- `GetPacketState`. -/
def getPacketState (now : Int) (sequenceNumber : UInt16) : Option StoredPacket :=
  if h.storing then (h.getStoredPacket sequenceNumber).filter (h.verifyRtt now) else none

/-- `GetPacketAndMarkAsPending`. The encapsulation may keep a state of its own. -/
def getPacketAndMarkAsPending {Memory : Type} (now : Int)
    (sequenceNumber : UInt16) (encapsulate : Memory → Packet → Memory × Option Packet)
    (memory : Memory) : PacketHistory × Memory × Option Packet :=
  match (h.getPacketState now sequenceNumber).bind fun stored =>
    if stored.pendingTransmission then none else stored.packet with
  | none => (h, memory, none)
  | some p =>
      match encapsulate memory p with
      | (memory, none) => (h, memory, none)
      | (memory, some encapsulated) =>
          (h.updateStored sequenceNumber ({ · with pendingTransmission := true }), memory,
            some encapsulated)

/-- What `MarkPacketAsSent` does to a stored packet. -/
def markSent (now : Int) (stored : StoredPacket) : StoredPacket :=
  { stored with
    sendTimeMs := some now
    pendingTransmission := false
    timesRetransmitted := stored.timesRetransmitted + 1 }

/-- `MarkPacketAsSent`. -/
def markPacketAsSent (now : Int) (sequenceNumber : UInt16) : PacketHistory :=
  if h.storing then h.updateStored sequenceNumber (markSent now) else h

/-- `GetPayloadPaddingPacket`, when the packet at index `best` is the most useful. -/
def getPayloadPaddingPacket {Memory : Type} (now : Int) (best : Nat)
    (encapsulate : Memory → Packet → Memory × Option Packet) (memory : Memory) :
    PacketHistory × Memory × Option Packet :=
  match (h.packets[best]?).bind fun stored =>
    if h.storing ∧ ¬ stored.pendingTransmission then stored.packet else none with
  | none => (h, memory, none)
  | some p =>
      match encapsulate memory p with
      | (memory, none) => (h, memory, none)
      | (memory, some encapsulated) =>
          ({ h with
              packets := h.packets.modify best fun stored =>
                { stored with
                  sendTimeMs := some now
                  timesRetransmitted := stored.timesRetransmitted + 1 } }, memory,
            some encapsulated)

/-- The body of the loop of `CullAcknowledgedPackets`. -/
def cullAcknowledgedPacket (sequenceNumber : UInt16) : PacketHistory :=
  if h.getPacketIndex sequenceNumber < 0 ∨
      h.packets.length ≤ (h.getPacketIndex sequenceNumber).toNat then h
  else h.removePacket (h.getPacketIndex sequenceNumber).toNat

/-- `CullAcknowledgedPackets`. -/
def cullAcknowledgedPackets (sequenceNumbers : List UInt16) : PacketHistory :=
  sequenceNumbers.foldl cullAcknowledgedPacket h

section Invariant

variable {h : PacketHistory}

/-- The front of the queue is occupied, and slots are numbered by position. -/
structure WellFormed (h : PacketHistory) : Prop where
  front : ∀ stored ∈ h.packets.head?, stored.packet.isSome
  numbered : ∃ first, NumberedFrom StoredPacket.number first h.packets

theorem getPacketIndex_eq_offset {first : UInt16}
    (front : h.packets.head?.bind StoredPacket.number = some first) (n : UInt16) :
    h.getPacketIndex n = offset first n := by
  have bound := first.toNat_lt
  have bound' := n.toNat_lt
  unfold getPacketIndex
  rw [front]
  dsimp only
  split_ifs with same ahead below above
  · simp [← same]
  all_goals
    simp only [offset, ahead, Bool.false_eq_true, ↓reduceIte, toNat_forwardDiff]
    simp only [gt_iff_lt, UInt16.lt_iff_toNat_lt] at *
    have distinct : first.toNat ≠ n.toNat := fun equal => same (UInt16.toNat_inj.mp equal)
    omega

/-- In a non-empty history the index of a number is its offset from the first one. -/
theorem WellFormed.index (formed : h.WellFormed) (nonempty : h.packets ≠ []) :
    ∃ first, NumberedFrom StoredPacket.number first h.packets ∧
      ∀ n, h.getPacketIndex n = offset first n := by
  obtain ⟨first, numbered⟩ := formed.numbered
  obtain ⟨stored, rest, whole⟩ := List.exists_cons_of_ne_nil nonempty
  obtain ⟨p, present⟩ := Option.isSome_iff_exists.mp (formed.front stored (by simp [whole]))
  have isFirst : stored.number = some p.subflowSeq := by simp [StoredPacket.number, present]
  have position := numbered 0 stored (by simp [whole]) p.subflowSeq isFirst
  refine ⟨first, numbered, getPacketIndex_eq_offset ?_⟩
  simpa [whole, isFirst] using position

theorem getPacketIndex_of_nil (empty : h.packets = []) (n : UInt16) : h.getPacketIndex n = 0 := by
  simp [getPacketIndex, empty]

/-- The slot a number is looked up in holds that number. -/
theorem WellFormed.number_at (formed : h.WellFormed) {n m : UInt16} {i : Nat}
    {stored : StoredPacket} (position : h.getPacketIndex n = i)
    (found : h.packets[i]? = some stored) (isNumbered : stored.number = some m) : m = n := by
  have nonempty : h.packets ≠ [] := by
    intro empty
    simp [empty] at found
  obtain ⟨first, numbered, index⟩ := formed.index nonempty
  exact numbered.number_of_offset ((index n).symm.trans position) found isNumbered

end Invariant

section Preservation

variable {h : PacketHistory} {stored : StoredPacket} {change : StoredPacket → StoredPacket}

theorem mem_of_mem_modify {slots : List StoredPacket} {i : Nat}
    (member : stored ∈ slots.modify i change) :
    stored ∈ slots ∨ ∃ old, slots[i]? = some old ∧ stored = change old := by
  obtain ⟨j, found⟩ := List.mem_iff_getElem?.mp member
  rw [List.getElem?_modify] at found
  obtain ⟨old, present, rfl⟩ := Option.map_eq_some_iff.mp found
  split
  · rename_i same
    subst same
    exact .inr ⟨old, present, rfl⟩
  · exact .inl (List.mem_of_getElem? present)

/-- Changing slots in place without touching the packets keeps a history well formed. -/
theorem WellFormed.modify (formed : h.WellFormed) (i : Nat) {change : StoredPacket → StoredPacket}
    (keeps : ∀ stored, (change stored).packet = stored.packet) :
    { h with packets := h.packets.modify i change }.WellFormed := by
  obtain ⟨first, numbered⟩ := formed.numbered
  refine ⟨?_, first, numbered.modify i fun stored n => ?_⟩
  · intro stored isFront
    rw [Option.mem_def, List.head?_eq_getElem?, List.getElem?_modify] at isFront
    obtain ⟨old, present, rfl⟩ := Option.map_eq_some_iff.mp isFront
    have occupied := formed.front old (List.head?_eq_getElem? ▸ present)
    split
    · rw [keeps]
      exact occupied
    · exact occupied
  · simp [StoredPacket.number, keeps]

theorem updateStored_wellFormed (formed : h.WellFormed) (n : UInt16)
    (keeps : ∀ stored, (change stored).packet = stored.packet) :
    (h.updateStored n change).WellFormed := by
  unfold updateStored
  split
  · exact formed.modify _ keeps
  · exact formed

theorem removePacket_wellFormed (formed : h.WellFormed) (i : Nat) :
    (h.removePacket i).WellFormed := by
  obtain ⟨first, numbered⟩ := formed.numbered
  have emptied : NumberedFrom StoredPacket.number first
      (h.packets.modify i fun stored => { stored with packet := none }) :=
    numbered.modify i (by simp [StoredPacket.number])
  unfold removePacket
  by_cases isFront : i = 0
  · simp only [isFront, ↓reduceIte] at emptied ⊢
    refine ⟨?_, emptied.dropWhile _⟩
    intro stored head
    have notSkipped := List.head?_dropWhile_not (fun stored : StoredPacket => stored.packet.isNone)
      (h.packets.modify 0 fun stored => { stored with packet := none })
    rw [Option.mem_def.mp head] at notSkipped
    simpa [Option.isSome_iff_ne_none] using notSkipped
  · simp only [isFront, ↓reduceIte]
    refine ⟨?_, first, emptied⟩
    intro stored head
    rw [List.head?_eq_getElem?, List.getElem?_modify_ne _ _ isFront,
      ← List.head?_eq_getElem?] at head
    exact formed.front stored head

theorem mem_of_mem_removePacket {i : Nat}
    (member : stored ∈ (h.removePacket i).packets) (occupied : stored.packet.isSome) :
    stored ∈ h.packets := by
  have inEmptied : stored ∈ h.packets.modify i fun stored => { stored with packet := none } := by
    unfold removePacket at member
    dsimp only at member
    split at member
    · exact (List.dropWhile_sublist _).subset member
    · exact member
  rcases mem_of_mem_modify inEmptied with kept | ⟨old, -, rfl⟩
  · exact kept
  · simp at occupied

theorem cullLoop_wellFormed (now : Int) (fuel : Nat) (formed : h.WellFormed) :
    (cullLoop now fuel h).WellFormed := by
  induction fuel generalizing h with
  | zero => exact formed
  | succ fuel ih =>
      unfold cullLoop
      split
      · exact formed
      · split
        · exact ih (removePacket_wellFormed formed 0)
        · exact formed

theorem mem_of_mem_cullLoop {now : Int} {fuel : Nat}
    (member : stored ∈ (cullLoop now fuel h).packets) (occupied : stored.packet.isSome) :
    stored ∈ h.packets := by
  induction fuel generalizing h with
  | zero => exact member
  | succ fuel ih =>
      unfold cullLoop at member
      split at member
      · exact member
      · split at member
        · exact mem_of_mem_removePacket (ih member) occupied
        · exact member

theorem removeDuplicate_wellFormed (formed : h.WellFormed) (n : UInt16) :
    (h.removeDuplicate n).WellFormed := by
  unfold removeDuplicate
  split
  · exact removePacket_wellFormed formed _
  · exact formed

variable {n : UInt16}

theorem mem_of_mem_removeDuplicate
    (member : stored ∈ (h.removeDuplicate n).packets) (occupied : stored.packet.isSome) :
    stored ∈ h.packets := by
  unfold removeDuplicate at member
  split at member
  · exact mem_of_mem_removePacket member occupied
  · exact member

theorem mem_of_mem_insertAt {i : Int} {new stored : StoredPacket}
    (member : stored ∈ (h.insertAt i new).packets) (occupied : stored.packet.isSome) :
    stored ∈ h.packets ∨ stored = new := by
  have notBlank : stored ≠ .placeholder := by
    rintro rfl
    simp [StoredPacket.placeholder] at occupied
  rcases List.mem_or_eq_of_mem_set member with inPadded | rfl
  · simp only [List.mem_append, List.mem_replicate, notBlank, and_false, false_or, or_false]
      at inPadded
    exact .inl inPadded
  · exact .inr rfl

/-- A packet put at the index of its number: the history stays well formed, and the
number now leads to the packet. -/
structure Inserted (h : PacketHistory) (n : UInt16) (new : StoredPacket) : Prop where
  wellFormed : h.WellFormed
  found : h.getStoredPacket n = some new

theorem getStoredPacket_of_index {i : Nat}
    (position : h.getPacketIndex n = i) (found : h.packets[i]? = some stored)
    (occupied : stored.packet.isSome) : h.getStoredPacket n = some stored := by
  simp [getStoredPacket, PacketHistory.occupied, position, found, occupied]

theorem inserted_front (slots : List StoredPacket) {new : StoredPacket}
    (isNumbered : new.number = some n) (whole : h.packets = new :: slots)
    (numbered : NumberedFrom StoredPacket.number n h.packets) : Inserted h n new := by
  have occupied := StoredPacket.isSome_of_number isNumbered
  refine ⟨⟨by simp [whole, occupied], n, numbered⟩, ?_⟩
  refine getStoredPacket_of_index (i := 0) ?_ (by simp [whole]) occupied
  rw [getPacketIndex_eq_offset (by simpa [whole] using isNumbered), offset_self]
  rfl

theorem insertAt_before (k : Nat) (new : StoredPacket) :
    (h.insertAt (-((k + 1 : Nat) : Int)) new).packets =
      new :: (List.replicate k .placeholder ++ h.packets) := by
  have front : (-((k + 1 : Nat) : Int)).toNat = 0 := by omega
  have back : (- -((k + 1 : Nat) : Int)).toNat = k + 1 := by omega
  simp only [insertAt, front, back, List.replicate_succ, List.cons_append, List.length_cons,
    Nat.zero_add, show 1 - ((List.replicate k StoredPacket.placeholder ++ h.packets).length + 1) = 0
      by omega, List.replicate_zero, List.append_nil, List.set_cons_zero]

theorem insertAt_within (i : Nat) (new : StoredPacket) :
    (h.insertAt i new).packets =
      (h.packets ++ List.replicate (i + 1 - h.packets.length) StoredPacket.placeholder).set i new := by
  simp [insertAt]

theorem insertAt_inserted (formed : h.WellFormed) {new : StoredPacket}
    (isNumbered : new.number = some n) : Inserted (h.insertAt (h.getPacketIndex n) new) n new := by
  have blank : StoredPacket.placeholder.number = none := rfl
  have occupied := StoredPacket.isSome_of_number isNumbered
  by_cases empty : h.packets = []
  · refine inserted_front [] isNumbered ?_ ?_
    · simp [insertAt, getPacketIndex_of_nil empty, empty]
    · simp only [insertAt, getPacketIndex_of_nil empty, empty]
      exact ((NumberedFrom.nil n).append_empty blank 1).set (by simp [isNumbered])
  · obtain ⟨first, numbered, index⟩ := formed.index empty
    by_cases before : h.getPacketIndex n < 0
    · -- The queue grows at the front, and the packet becomes its first one.
      obtain ⟨k, behind⟩ : ∃ k : Nat, h.getPacketIndex n = -((k + 1 : Nat) : Int) :=
        ⟨(-h.getPacketIndex n).toNat - 1, by omega⟩
      have shift : n + UInt16.ofNat (k + 1) = first :=
        add_ofNat_neg_offset ((index n).symm.trans behind)
      have shape := behind ▸ insertAt_before (h := h) k new
      refine inserted_front _ isNumbered shape ?_
      have grown : NumberedFrom StoredPacket.number n
          ((List.replicate (k + 1) StoredPacket.placeholder ++ h.packets).set 0 new) :=
        (numbered.empty_append blank shift).set (by simp [isNumbered])
      rw [shape]
      exact grown
    · -- The packet goes into the queue or behind it.
      obtain ⟨i, ahead⟩ : ∃ i : Nat, h.getPacketIndex n = i := 
        ⟨(h.getPacketIndex n).toNat, by omega⟩
      have shape : (h.insertAt (h.getPacketIndex n) new).packets =
          (h.packets ++
            List.replicate (i + 1 - h.packets.length) StoredPacket.placeholder).set i new := by
        rw [ahead, insertAt_within]
      have arrives : first + UInt16.ofNat i = n := add_ofNat_offset ((index n).symm.trans ahead)
      have stillNumbered : NumberedFrom StoredPacket.number first
          (h.insertAt (h.getPacketIndex n) new).packets := by
        rw [shape]
        exact (numbered.append_empty blank _).set (by simp [isNumbered, arrives])
      have atIndex : (h.insertAt (h.getPacketIndex n) new).packets[i]? = some new := by
        rw [shape, List.getElem?_set_self]
        simp only [List.length_append, List.length_replicate]
        omega
      have front : ∀ stored ∈ (h.insertAt (h.getPacketIndex n) new).packets.head?,
          stored.packet.isSome := by
        intro stored isFront
        rw [Option.mem_def, List.head?_eq_getElem?] at isFront
        by_cases zero : i = 0
        · rw [zero] at atIndex
          rw [← Option.some.inj (atIndex.symm.trans isFront)]
          exact occupied
        · rw [shape, List.getElem?_set_ne zero, List.getElem?_append_left
            (List.length_pos_of_ne_nil empty), ← List.head?_eq_getElem?] at isFront
          exact formed.front stored isFront
      have wellFormed : (h.insertAt (h.getPacketIndex n) new).WellFormed :=
        ⟨front, first, stillNumbered⟩
      refine ⟨wellFormed, getStoredPacket_of_index (i := i) ?_ atIndex occupied⟩
      have nonempty : (h.insertAt (h.getPacketIndex n) new).packets ≠ [] := by
        intro none
        simp [none] at atIndex
      obtain ⟨stored, rest, whole⟩ := List.exists_cons_of_ne_nil nonempty
      obtain ⟨p, present⟩ := Option.isSome_iff_exists.mp (front stored (by simp [whole]))
      have isFirst : stored.number = some p.subflowSeq := by simp [StoredPacket.number, present]
      have same : p.subflowSeq = first := by
        simpa using stillNumbered 0 stored (by simp [whole]) p.subflowSeq isFirst
      have isFront : (h.insertAt (h.getPacketIndex n) new).packets.head?.bind
          StoredPacket.number = some first := by
        simp [whole, isFirst, same]
      rw [getPacketIndex_eq_offset isFront, ← index, ahead]

theorem putRtpPacket_inserted (formed : h.WellFormed) (storing : h.storing) (now : Int)
    (p : Packet) : Inserted (h.putRtpPacket now p) p.subflowSeq ⟨some p, some now, false, 0⟩ := by
  unfold putRtpPacket
  rw [if_pos storing]
  exact insertAt_inserted
    (removeDuplicate_wellFormed (cullLoop_wellFormed now _ formed) p.subflowSeq) rfl

theorem putRtpPacket_wellFormed (formed : h.WellFormed) (now : Int) (p : Packet) :
    (h.putRtpPacket now p).WellFormed := by
  by_cases storing : h.storing
  · exact (putRtpPacket_inserted formed storing now p).wellFormed
  · simpa [putRtpPacket, storing] using formed

theorem mem_of_mem_putRtpPacket {now : Int} {p : Packet}
    (member : stored ∈ (h.putRtpPacket now p).packets) (occupied : stored.packet.isSome) :
    stored ∈ h.packets ∨ stored = ⟨some p, some now, false, 0⟩ := by
  unfold putRtpPacket at member
  split at member
  · rcases mem_of_mem_insertAt member occupied with kept | new
    · exact .inl (mem_of_mem_cullLoop (mem_of_mem_removeDuplicate kept occupied) occupied)
    · exact .inr new
  · exact .inl member

theorem setRtt_wellFormed (formed : h.WellFormed) (now rttMs : Int) :
    (h.setRtt now rttMs).WellFormed := by
  have same : { h with rttMs := rttMs }.WellFormed := ⟨formed.front, formed.numbered⟩
  unfold setRtt
  split
  · exact cullLoop_wellFormed now _ same
  · exact same

theorem mem_of_mem_setRtt {now rttMs : Int}
    (member : stored ∈ (h.setRtt now rttMs).packets) (occupied : stored.packet.isSome) :
    stored ∈ h.packets := by
  unfold setRtt at member
  split at member
  · exact mem_of_mem_cullLoop (h := { h with rttMs := rttMs }) member occupied
  · exact member

end Preservation

section Storing

variable (h : PacketHistory)

@[simp] theorem removePacket_storing (i : Nat) : (h.removePacket i).storing = h.storing := rfl

@[simp] theorem updateStored_storing (n : UInt16) (change : StoredPacket → StoredPacket) :
    (h.updateStored n change).storing = h.storing := by
  unfold updateStored
  split <;> rfl

@[simp] theorem cullLoop_storing (now : Int) (fuel : Nat) :
    (cullLoop now fuel h).storing = h.storing := by
  induction fuel generalizing h with
  | zero => rfl
  | succ fuel ih =>
      unfold cullLoop
      split
      · rfl
      · split
        · rw [ih, removePacket_storing]
        · rfl

@[simp] theorem setRtt_storing (now rttMs : Int) : (h.setRtt now rttMs).storing = h.storing := by
  unfold setRtt
  split
  · exact cullLoop_storing _ now _
  · rfl

@[simp] theorem putRtpPacket_storing (now : Int) (p : Packet) :
    (h.putRtpPacket now p).storing = h.storing := by
  unfold putRtpPacket removeDuplicate
  dsimp only
  split
  · split <;> exact cullLoop_storing _ now _
  · rfl

@[simp] theorem cullAcknowledgedPackets_storing (numbers : List UInt16) :
    (h.cullAcknowledgedPackets numbers).storing = h.storing := by
  induction numbers generalizing h with
  | nil => rfl
  | cons n numbers ih =>
      refine (ih _).trans ?_
      unfold cullAcknowledgedPacket
      split <;> rfl

end Storing

section Lookup

variable {h : PacketHistory} {n : UInt16} {stored : StoredPacket}

theorem getStoredPacket_eq_some (found : h.getStoredPacket n = some stored) :
    ∃ i : Nat, h.getPacketIndex n = i ∧ h.packets[i]? = some stored ∧ stored.packet.isSome := by
  unfold getStoredPacket at found
  split at found
  · rename_i isOccupied
    simp only [occupied, Bool.and_eq_true, decide_eq_true_eq, found, Option.any_some] at isOccupied
    exact ⟨_, (Int.toNat_of_nonneg isOccupied.1).symm, found, isOccupied.2⟩
  · simp at found

theorem mem_of_getStoredPacket (found : h.getStoredPacket n = some stored) :
    stored ∈ h.packets := by
  obtain ⟨i, -, present, -⟩ := getStoredPacket_eq_some found
  exact List.mem_of_getElem? present

theorem WellFormed.number_of_getStoredPacket (formed : h.WellFormed)
    (found : h.getStoredPacket n = some stored) : stored.number = some n := by
  obtain ⟨i, position, present, occupied⟩ := getStoredPacket_eq_some found
  obtain ⟨p, isPacket⟩ := Option.isSome_iff_exists.mp occupied
  have isNumbered : stored.number = some p.subflowSeq := by simp [StoredPacket.number, isPacket]
  rw [isNumbered, formed.number_at position present isNumbered]

theorem WellFormed.index_of_number (formed : h.WellFormed) {i : Nat}
    (short : h.packets.length ≤ 32768) (present : h.packets[i]? = some stored)
    (isNumbered : stored.number = some n) : h.getPacketIndex n = i := by
  have nonempty : h.packets ≠ [] := by
    intro empty
    simp [empty] at present
  obtain ⟨first, numbered, index⟩ := formed.index nonempty
  rw [index, numbered.offset_of_number present isNumbered short]

/-- In a history of at most half the number space every stored packet can be found. -/
theorem WellFormed.getStoredPacket_of_mem (formed : h.WellFormed)
    (short : h.packets.length ≤ 32768) (member : stored ∈ h.packets)
    (isNumbered : stored.number = some n) : h.getStoredPacket n = some stored := by
  obtain ⟨i, present⟩ := List.mem_iff_getElem?.mp member
  have occupied := StoredPacket.isSome_of_number isNumbered
  exact getStoredPacket_of_index (formed.index_of_number short present isNumbered) present occupied

variable {change : StoredPacket → StoredPacket}

theorem getPacketIndex_modify {i : Nat}
    (keeps : ∀ stored, (change stored).packet = stored.packet) (n : UInt16) :
    { h with packets := h.packets.modify i change }.getPacketIndex n = h.getPacketIndex n := by
  unfold getPacketIndex
  dsimp only
  rw [List.head?_eq_getElem?, List.head?_eq_getElem?, List.getElem?_modify]
  congr 1
  cases front : h.packets[0]? with
  | none => rfl
  | some slot =>
      simp only [Option.map_eq_map, Option.map_some, Option.bind_some, StoredPacket.number]
      split <;> simp [keeps]

theorem updateStored_packets {i : Nat} (position : h.getPacketIndex n = i)
    (present : h.packets[i]? = some stored) (isOccupied : stored.packet.isSome)
    (change : StoredPacket → StoredPacket) :
    h.updateStored n change = { h with packets := h.packets.modify i change } := by
  simp [updateStored, occupied, position, present, isOccupied]

theorem mem_of_mem_updateStored (member : stored ∈ (h.updateStored n change).packets) :
    stored ∈ h.packets ∨ ∃ old, h.getStoredPacket n = some old ∧ stored = change old := by
  unfold updateStored at member
  split at member
  · rename_i isOccupied
    rcases mem_of_mem_modify member with kept | ⟨old, present, rfl⟩
    · exact .inl kept
    · exact .inr ⟨old, by simp [getStoredPacket, isOccupied, present], rfl⟩
  · exact .inl member

/-- In a history of at most half the number space, an update reaches the packet of that
number. -/
theorem WellFormed.updated_of_number (formed : h.WellFormed) (short : h.packets.length ≤ 32768)
    (keeps : ∀ stored, (change stored).packet = stored.packet)
    (member : stored ∈ (h.updateStored n change).packets) (isNumbered : stored.number = some n) :
    ∃ old, h.getStoredPacket n = some old ∧ stored = change old := by
  rcases mem_of_mem_updateStored member with kept | updated
  · have found := formed.getStoredPacket_of_mem short kept isNumbered
    obtain ⟨i, position, present, isOccupied⟩ := getStoredPacket_eq_some found
    rw [updateStored_packets position present isOccupied] at member
    obtain ⟨j, atPosition⟩ := List.mem_iff_getElem?.mp member
    have same : i = j := by
      have stillFormed := formed.modify i keeps
      have index := stillFormed.index_of_number (by simpa using short) atPosition isNumbered
      rw [getPacketIndex_modify keeps, position] at index
      exact_mod_cast index
    subst same
    rw [List.getElem?_modify, present] at atPosition
    exact ⟨stored, found, by simpa using atPosition.symm⟩
  · exact updated

/-- An update is seen by the next lookup. -/
theorem getStoredPacket_updateStored (keeps : ∀ stored, (change stored).packet = stored.packet)
    (found : h.getStoredPacket n = some stored) :
    (h.updateStored n change).getStoredPacket n = some (change stored) := by
  obtain ⟨i, position, present, isOccupied⟩ := getStoredPacket_eq_some found
  rw [updateStored_packets position present isOccupied]
  refine getStoredPacket_of_index (i := i) ?_ ?_ (by rwa [keeps])
  · rw [getPacketIndex_modify keeps, position]
  · simp [present]

end Lookup

section Acknowledgment

variable {h : PacketHistory} {n : UInt16}

/-- A packet is stored under this number. -/
def Stores (h : PacketHistory) (n : UInt16) : Prop :=
  ∃ stored ∈ h.packets, stored.number = some n

/-- Changing a stored packet in place removes none. -/
theorem Stores.updateStored (stores : h.Stores n) (m : UInt16)
    {change : StoredPacket → StoredPacket}
    (keeps : ∀ stored, (change stored).packet = stored.packet) :
    (h.updateStored m change).Stores n := by
  obtain ⟨stored, member, isNumbered⟩ := stores
  unfold PacketHistory.updateStored
  split
  · obtain ⟨j, present⟩ := List.mem_iff_getElem?.mp member
    have changed := congrArg (Option.map fun old =>
      if (h.getPacketIndex m).toNat = j then change old else old) present
    refine ⟨_, List.mem_iff_getElem?.mpr ⟨j, (List.getElem?_modify ..).trans changed⟩, ?_⟩
    dsimp only
    split
    · rwa [StoredPacket.number, keeps]
    · exact isNumbered
  · exact ⟨stored, member, isNumbered⟩

variable {stored : StoredPacket}

theorem mem_removePacket {i j : Nat} (other : i ≠ j)
    (present : h.packets[j]? = some stored) (occupied : stored.packet.isSome) :
    stored ∈ (h.removePacket i).packets := by
  have inEmptied : stored ∈ h.packets.modify i fun stored => { stored with packet := none } := by
    refine List.mem_iff_getElem?.mpr ⟨j, ?_⟩
    rw [List.getElem?_modify_ne _ _ other, present]
  unfold removePacket
  dsimp only
  split
  · rw [← List.takeWhile_append_dropWhile (p := fun stored : StoredPacket => stored.packet.isNone)
      (l := h.packets.modify i fun stored => { stored with packet := none })] at inEmptied
    rcases List.mem_append.mp inEmptied with dropped | kept
    · have empty := List.all_eq_true.mp List.all_takeWhile stored dropped
      simp [Option.isNone_iff_eq_none.mp empty] at occupied
    · exact kept
  · exact inEmptied

theorem mem_of_mem_cullAcknowledgedPacket {m : UInt16}
    (member : stored ∈ (h.cullAcknowledgedPacket m).packets) (occupied : stored.packet.isSome) :
    stored ∈ h.packets := by
  unfold cullAcknowledgedPacket at member
  split at member
  · exact member
  · exact mem_of_mem_removePacket member occupied

theorem cullAcknowledgedPacket_wellFormed (formed : h.WellFormed) (m : UInt16) :
    (h.cullAcknowledgedPacket m).WellFormed := by
  unfold cullAcknowledgedPacket
  split
  · exact formed
  · exact removePacket_wellFormed formed _

/-- An acknowledgment removes no packet but the one of its number. -/
theorem Stores.cullAcknowledgedPacket (stores : h.Stores n) (formed : h.WellFormed) {m : UInt16}
    (other : m ≠ n) : (h.cullAcknowledgedPacket m).Stores n := by
  obtain ⟨stored, member, isNumbered⟩ := stores
  unfold PacketHistory.cullAcknowledgedPacket
  split
  · exact ⟨stored, member, isNumbered⟩
  · rename_i within
    obtain ⟨j, present⟩ := List.mem_iff_getElem?.mp member
    have occupied := StoredPacket.isSome_of_number isNumbered
    refine ⟨stored, mem_removePacket ?_ present occupied, isNumbered⟩
    rintro rfl
    rw [not_or, Int.not_lt] at within
    exact other (formed.number_at (Int.toNat_of_nonneg within.1).symm present isNumbered).symm

theorem cullAcknowledgedPackets_wellFormed (formed : h.WellFormed) (numbers : List UInt16) :
    (h.cullAcknowledgedPackets numbers).WellFormed := by
  induction numbers generalizing h with
  | nil => exact formed
  | cons m numbers ih => exact ih (cullAcknowledgedPacket_wellFormed formed m)

theorem mem_of_mem_cullAcknowledgedPackets {numbers : List UInt16}
    (member : stored ∈ (h.cullAcknowledgedPackets numbers).packets)
    (occupied : stored.packet.isSome) : stored ∈ h.packets := by
  induction numbers generalizing h with
  | nil => exact member
  | cons m numbers ih => exact mem_of_mem_cullAcknowledgedPacket (ih member) occupied

/-- Acknowledgments remove no packets but those of their numbers. -/
theorem Stores.cullAcknowledgedPackets (stores : h.Stores n) (formed : h.WellFormed)
    {numbers : List UInt16} (absent : n ∉ numbers) :
    (h.cullAcknowledgedPackets numbers).Stores n := by
  induction numbers generalizing h with
  | nil => exact stores
  | cons m numbers ih =>
      rw [List.mem_cons, not_or] at absent
      exact ih (stores.cullAcknowledgedPacket formed (Ne.symm absent.1))
        (cullAcknowledgedPacket_wellFormed formed m) absent.2

end Acknowledgment

section Pending

variable {h : PacketHistory} {n : UInt16}

/-- The packet of this number is waiting to be retransmitted. -/
def Pends (h : PacketHistory) (n : UInt16) : Prop :=
  ∃ stored ∈ h.packets, stored.number = some n ∧ stored.pendingTransmission

/-- This packet is stored. -/
def Holds (h : PacketHistory) (p : Packet) : Prop := ∃ stored ∈ h.packets, stored.packet = some p

/-- The history is in use and in order, and its packets have room for a path. -/
structure Usable (h : PacketHistory) : Prop where
  storing : h.storing = true
  wellFormed : h.WellFormed
  room : ∀ p, h.Holds p → p.CarriesPath

theorem Holds.of_updateStored {p : Packet} {m : UInt16} {change : StoredPacket → StoredPacket}
    (keeps : ∀ stored, (change stored).packet = stored.packet)
    (holds : (h.updateStored m change).Holds p) : h.Holds p := by
  obtain ⟨stored, member, isStored⟩ := holds
  rcases mem_of_mem_updateStored member with kept | ⟨old, found, rfl⟩
  · exact ⟨stored, kept, isStored⟩
  · exact ⟨old, mem_of_getStoredPacket found, keeps old ▸ isStored⟩

theorem Holds.of_setRtt {p : Packet} {now rttMs : Int} (holds : (h.setRtt now rttMs).Holds p) :
    h.Holds p := by
  obtain ⟨stored, member, isStored⟩ := holds
  exact ⟨stored, mem_of_mem_setRtt member (by simp [isStored]), isStored⟩

theorem Usable.updateStored (usable : h.Usable) (m : UInt16) {change : StoredPacket → StoredPacket}
    (keeps : ∀ stored, (change stored).packet = stored.packet) : (h.updateStored m change).Usable :=
  ⟨(updateStored_storing ..).trans usable.storing,
    updateStored_wellFormed usable.wellFormed m keeps,
    fun p holds => usable.room p (holds.of_updateStored keeps)⟩

/-- An operation that keeps the history usable and marks no packet as pending. -/
structure Calm (h h' : PacketHistory) : Prop where
  usable : h.Usable → h'.Usable
  pends : ∀ n, h'.Pends n → h.Pends n

namespace Calm

theorem refl (h : PacketHistory) : Calm h h := ⟨id, fun _ => id⟩

theorem of_mem {h' : PacketHistory} (storing : h'.storing = h.storing)
    (wellFormed : h.WellFormed → h'.WellFormed)
    (kept : ∀ stored ∈ h'.packets, stored.packet.isSome → stored ∈ h.packets) : Calm h h' := by
  constructor
  · intro usable
    refine ⟨storing.trans usable.storing, wellFormed usable.wellFormed, ?_⟩
    rintro p ⟨stored, member, isStored⟩
    exact usable.room p ⟨stored, kept stored member (by simp [isStored]), isStored⟩
  · rintro n ⟨stored, member, isNumbered, isPending⟩
    have occupied := StoredPacket.isSome_of_number isNumbered
    exact ⟨stored, kept stored member occupied, isNumbered, isPending⟩

theorem setRtt (now rttMs : Int) : Calm h (h.setRtt now rttMs) :=
  of_mem (setRtt_storing ..) (fun formed => setRtt_wellFormed formed now rttMs)
    fun _ => mem_of_mem_setRtt

theorem putRtpPacket (now : Int) {p : Packet} (room : p.CarriesPath) :
    Calm h (h.putRtpPacket now p) := by
  constructor
  · intro usable
    refine ⟨(putRtpPacket_storing ..).trans usable.storing,
      putRtpPacket_wellFormed usable.wellFormed now p, ?_⟩
    rintro q ⟨stored, member, isStored⟩
    rcases mem_of_mem_putRtpPacket member (by simp [isStored]) with kept | rfl
    · exact usable.room q ⟨stored, kept, isStored⟩
    · exact Option.some.inj isStored ▸ room
  · rintro n ⟨stored, member, isNumbered, isPending⟩
    have occupied := StoredPacket.isSome_of_number isNumbered
    rcases mem_of_mem_putRtpPacket member occupied with kept | rfl
    · exact ⟨stored, kept, isNumbered, isPending⟩
    · simp at isPending

theorem cullAcknowledgedPackets (numbers : List UInt16) :
    Calm h (h.cullAcknowledgedPackets numbers) :=
  of_mem (cullAcknowledgedPackets_storing ..)
    (fun formed => cullAcknowledgedPackets_wellFormed formed numbers)
    fun _ => mem_of_mem_cullAcknowledgedPackets

theorem markPacketAsSent (now : Int) (n : UInt16) : Calm h (h.markPacketAsSent now n) := by
  unfold PacketHistory.markPacketAsSent
  split
  · refine ⟨fun usable => usable.updateStored n fun _ => rfl, ?_⟩
    rintro m ⟨stored, member, isNumbered, isPending⟩
    rcases mem_of_mem_updateStored member with kept | ⟨old, -, rfl⟩
    · exact ⟨stored, kept, isNumbered, isPending⟩
    · simp [markSent] at isPending
  · exact refl h

theorem getPayloadPaddingPacket {Memory : Type} (now : Int) (best : Nat)
    (encapsulate : Memory → Packet → Memory × Option Packet) (memory : Memory) :
    Calm h (h.getPayloadPaddingPacket now best encapsulate memory).1 := by
  unfold PacketHistory.getPayloadPaddingPacket
  split
  · exact refl h
  · split
    · exact refl h
    · constructor
      · intro usable
        refine ⟨usable.storing, usable.wellFormed.modify best fun _ => rfl, ?_⟩
        rintro p ⟨stored, member, isStored⟩
        rcases mem_of_mem_modify member with kept | ⟨old, present, rfl⟩
        · exact usable.room p ⟨stored, kept, isStored⟩
        · exact usable.room p ⟨old, List.mem_of_getElem? present, isStored⟩
      · rintro n ⟨stored, member, isNumbered, isPending⟩
        rcases mem_of_mem_modify member with kept | ⟨old, present, rfl⟩
        · exact ⟨stored, kept, isNumbered, isPending⟩
        · exact ⟨old, List.mem_of_getElem? present, isNumbered, isPending⟩

end Calm

/-- Marking a packet as pending affects only its number. -/
theorem pends_of_markAsPending (formed : h.WellFormed) {packetId : UInt16}
    (pending : (h.updateStored packetId ({ · with pendingTransmission := true })).Pends n) :
    h.Pends n ∨ n = packetId := by
  obtain ⟨stored, member, isNumbered, isPending⟩ := pending
  rcases mem_of_mem_updateStored member with kept | ⟨old, found, rfl⟩
  · exact .inl ⟨stored, kept, isNumbered, isPending⟩
  · have same := formed.number_of_getStoredPacket found
    exact .inr (Option.some.inj (isNumbered.symm.trans same))

/-- Once marked as sent, a packet is no longer pending, if it can be found. -/
theorem not_pends_of_markPacketAsSent (formed : h.WellFormed) (storing : h.storing)
    (short : h.packets.length ≤ 32768) (now : Int) : ¬ (h.markPacketAsSent now n).Pends n := by
  rintro ⟨stored, member, isNumbered, isPending⟩
  unfold markPacketAsSent at member
  rw [if_pos storing] at member
  have keeps : ∀ stored, (markSent now stored).packet = stored.packet := fun _ => rfl
  obtain ⟨old, -, rfl⟩ := formed.updated_of_number short keeps member isNumbered
  simp [markSent] at isPending

end Pending

end PacketHistory

end MpWebRtc
