import MpWebRtc.Math.KeyedSet
import MpWebRtc.Math.PlacedQueue
import MpWebRtc.Sender.HistoryLaw

/-!
# Packets for padding

With `enable_padding_prio` a packet history keeps a set of pointers to its packets, the most useful
for padding first: those that were retransmitted less often, and of these the newer. The order is
read from the packets, so a packet is taken out of the set before it is counted as retransmitted.
A packet is erased by comparing, too: the slot of a missing packet has a count and an insertion
order of its own, both 0 in a placeholder, and these are the values of the first packet until it
is retransmitted.
-/

namespace MpWebRtc

open Math

/-- Maximum number of entries in the set, and one more. -/
def kMaxPaddingtHistory : Nat := 63

/-- A slot of the history, with the order in which packets were inserted. -/
structure PrioritySlot extends StoredPacket where
  insertOrder : UInt64 := 0
  deriving DecidableEq

namespace PrioritySlot

/-- `MoreUseful`. -/
def moreUseful (lhs rhs : PrioritySlot) : Bool :=
  if lhs.timesRetransmitted ≠ rhs.timesRetransmitted then
    decide (lhs.timesRetransmitted < rhs.timesRetransmitted)
  else decide (lhs.insertOrder > rhs.insertOrder)

end PrioritySlot

/-- `MoreUseful`, through pointers. A pointer is the place of a slot in the queue. -/
def moreUseful (queue : PlacedQueue PrioritySlot) (lhs rhs : Int) : Bool :=
  match queue.itemAt lhs, queue.itemAt rhs with
  | some lhs, some rhs => lhs.moreUseful rhs
  | _, _ => false

/-- `RtpPacketHistory`, with its set. -/
structure PriorityHistory where
  enablePaddingPrio : Bool
  storing : Bool := false
  numberToStore : Nat := 0
  rttMs : Int := -1
  queue : PlacedQueue PrioritySlot := {}
  packetsInserted : UInt64 := 0
  paddingPriority : List Int := []

namespace PriorityHistory

variable (h : PriorityHistory)

/-- The history without the set. -/
def toHistory : PacketHistory where
  storing := h.storing
  numberToStore := h.numberToStore
  rttMs := h.rttMs
  packets := h.queue.items.map PrioritySlot.toStoredPacket

/-- `IncrementTimesRetransmitted`, of the packet with this index. -/
def incrementTimesRetransmitted (index : Nat) : PriorityHistory :=
  let place := h.queue.place index
  let counted := h.queue.modify index fun slot =>
    { slot with timesRetransmitted := slot.timesRetransmitted + 1 }
  let inPrioritySet := h.enablePaddingPrio &&
    h.paddingPriority.any (KeyedSet.equivalent (moreUseful h.queue) place)
  { h with
    queue := counted
    paddingPriority :=
      if inPrioritySet then
        KeyedSet.insert (moreUseful counted)
          (KeyedSet.erase (moreUseful h.queue) h.paddingPriority place) place
      else h.paddingPriority }

/-- `RemovePacket`: the packet is moved out, and its slot is erased from the set. -/
def removePacket (index : Nat) : PriorityHistory :=
  let emptied := h.queue.modify index fun slot => { slot with packet := none }
  { h with
    queue := if index = 0 then emptied.dropWhile (·.packet.isNone) else emptied
    paddingPriority :=
      if h.enablePaddingPrio then
        KeyedSet.erase (moreUseful emptied) h.paddingPriority (emptied.place index)
      else h.paddingPriority }

/-- The loop of `CullOldPackets`. -/
def cullLoop (now : Int) : Nat → PriorityHistory → PriorityHistory
  | 0, h => h
  | fuel + 1, h =>
      match h.queue.items.head? with
      | none => h
      | some front =>
          if h.toHistory.cullsFront now front.toStoredPacket then
            cullLoop now fuel (h.removePacket 0)
          else h

/-- `CullOldPackets`. -/
def cullOldPackets (now : Int) : PriorityHistory :=
  cullLoop now h.queue.items.length h

/-- `Reset`, and `Clear`. -/
def reset : PriorityHistory :=
  { h with queue := {}, paddingPriority := [] }

/-- `SetStorePacketsStatus`. -/
def setStorePacketsStatus (storing : Bool) (numberToStore : Nat) : PriorityHistory :=
  { h.reset with storing := storing, numberToStore := min kMaxCapacity numberToStore }

/-- `SetRtt`. -/
def setRtt (now rttMs : Int) : PriorityHistory :=
  if h.storing then { h with rttMs := rttMs }.cullOldPackets now else { h with rttMs := rttMs }

/-- Remove a packet stored under the same number. -/
def removeDuplicate (sequenceNumber : UInt16) : PriorityHistory :=
  let packetIndex := h.toHistory.getPacketIndex sequenceNumber
  if h.toHistory.occupied packetIndex then h.removePacket packetIndex.toNat else h

/-- Put a slot at this index, extending the queue with placeholders at the front or at the
back. -/
def insertAt (packetIndex : Int) (slot : PrioritySlot) : PriorityHistory :=
  let front := (-packetIndex).toNat
  let back := packetIndex.toNat + 1 - (front + h.queue.items.length)
  { h with
    queue := (h.queue.grow front back ⟨.placeholder, 0⟩).set packetIndex.toNat slot }

/-- Put a slot into the set, in the place of the least useful if there is no room. -/
def addPriority (index : Nat) : PriorityHistory :=
  if h.enablePaddingPrio then
    let kept :=
      if h.paddingPriority.length ≥ kMaxPaddingtHistory - 1 then h.paddingPriority.dropLast
      else h.paddingPriority
    { h with
      paddingPriority := KeyedSet.insert (moreUseful h.queue) kept (h.queue.place index) }
  else h

/-- `PutRtpPacket`. -/
def putRtpPacket (now : Int) (sendTimeMs : Option Int) (p : Packet) : PriorityHistory :=
  if h.storing then
    let h := (h.cullOldPackets now).removeDuplicate p.subflowSeq
    let packetIndex := h.toHistory.getPacketIndex p.subflowSeq
    let stored : PrioritySlot := ⟨⟨some p, sendTimeMs, sendTimeMs.isNone, 0⟩, h.packetsInserted⟩
    { h.insertAt packetIndex stored with
      packetsInserted := h.packetsInserted + 1 }.addPriority packetIndex.toNat
  else h

/-- The index that a number leads to, if a packet is there and `VerifyRtt` lets it be sent
again. -/
def sendableIndex (now : Int) (sequenceNumber : UInt16) : Option Nat :=
  if (h.toHistory.getPacketState now sequenceNumber).isSome then
    some (h.toHistory.getPacketIndex sequenceNumber).toNat
  else none

/-- `GetPacketAndSetSendTime`. -/
def getPacketAndSetSendTime (now : Int) (sequenceNumber : UInt16) : PriorityHistory :=
  match h.sendableIndex now sequenceNumber with
  | none => h
  | some index =>
      let counted :=
        if (h.queue.items[index]?).any (·.sendTimeMs.isSome) then
          h.incrementTimesRetransmitted index
        else h
      { counted with
        queue := counted.queue.modify index fun slot =>
          { slot with sendTimeMs := some now, pendingTransmission := false } }

/-- `GetPacketAndMarkAsPending`. -/
def getPacketAndMarkAsPending (now : Int) (sequenceNumber : UInt16)
    (encapsulate : Packet → Option Packet) : PriorityHistory :=
  match h.sendableIndex now sequenceNumber with
  | none => h
  | some index =>
      if (h.queue.items[index]?).any fun slot =>
          !slot.pendingTransmission && (slot.packet.bind encapsulate).isSome then
        { h with
          queue := h.queue.modify index fun slot => { slot with pendingTransmission := true } }
      else h

/-- `MarkPacketAsSent`. -/
def markPacketAsSent (now : Int) (sequenceNumber : UInt16) : PriorityHistory :=
  let packetIndex := h.toHistory.getPacketIndex sequenceNumber
  if h.storing && h.toHistory.occupied packetIndex then
    { h with
      queue := h.queue.modify packetIndex.toNat fun slot =>
        { slot with sendTimeMs := some now, pendingTransmission := false }
    }.incrementTimesRetransmitted packetIndex.toNat
  else h

/-- `SetPendingTransmission`. -/
def setPendingTransmission (sequenceNumber : UInt16) : PriorityHistory :=
  let packetIndex := h.toHistory.getPacketIndex sequenceNumber
  if h.storing && h.toHistory.occupied packetIndex then
    { h with
      queue := h.queue.modify packetIndex.toNat fun slot =>
        { slot with pendingTransmission := true } }
  else h

/-- The packet that `GetPayloadPaddingPacket` takes: the first of the set, or the last of the
queue. -/
def bestPacket : Option Nat :=
  if h.enablePaddingPrio then
    h.paddingPriority.head?.map fun place => (place - h.queue.origin).toNat
  else
    (h.queue.items.reverse.findIdx? (·.packet.isSome)).map (h.queue.items.length - 1 - ·)

/-- `GetPayloadPaddingPacket`. -/
def getPayloadPaddingPacket (now : Int) (encapsulate : Packet → Option Packet) : PriorityHistory :=
  match if h.storing then h.bestPacket else none with
  | none => h
  | some index =>
      if (h.queue.items[index]?).any fun slot =>
          !slot.pendingTransmission && (slot.packet.bind encapsulate).isSome then
        { h with
          queue := h.queue.modify index fun slot => { slot with sendTimeMs := some now }
        }.incrementTimesRetransmitted index
      else h

/-- The body of the loop of `CullAcknowledgedPackets`. -/
def cullAcknowledgedPacket (sequenceNumber : UInt16) : PriorityHistory :=
  let packetIndex := h.toHistory.getPacketIndex sequenceNumber
  if packetIndex < 0 ∨ h.queue.items.length ≤ packetIndex.toNat then h
  else h.removePacket packetIndex.toNat

/-- `CullAcknowledgedPackets`. -/
def cullAcknowledgedPackets (sequenceNumbers : List UInt16) : PriorityHistory :=
  sequenceNumbers.foldl cullAcknowledgedPacket h

end PriorityHistory

/-- The calls of `RtpPacketHistory`. -/
inductive PriorityCall
  | setStorePacketsStatus (storing : Bool) (numberToStore : Nat)
  | setRtt (now rttMs : Int)
  | putRtpPacket (now : Int) (sendTimeMs : Option Int) (p : Packet)
  | getPacketAndSetSendTime (now : Int) (sequenceNumber : UInt16)
  | getPacketAndMarkAsPending (now : Int) (sequenceNumber : UInt16)
      (encapsulate : Packet → Option Packet)
  | markPacketAsSent (now : Int) (sequenceNumber : UInt16)
  | getPayloadPaddingPacket (now : Int) (encapsulate : Packet → Option Packet)
  | cullAcknowledgedPackets (sequenceNumbers : List UInt16)
  | setPendingTransmission (sequenceNumber : UInt16)
  | clear

def PriorityHistory.step (h : PriorityHistory) : PriorityCall → PriorityHistory
  | .setStorePacketsStatus storing numberToStore => h.setStorePacketsStatus storing numberToStore
  | .setRtt now rttMs => h.setRtt now rttMs
  | .putRtpPacket now sendTimeMs p => h.putRtpPacket now sendTimeMs p
  | .getPacketAndSetSendTime now n => h.getPacketAndSetSendTime now n
  | .getPacketAndMarkAsPending now n encapsulate => h.getPacketAndMarkAsPending now n encapsulate
  | .markPacketAsSent now n => h.markPacketAsSent now n
  | .getPayloadPaddingPacket now encapsulate => h.getPayloadPaddingPacket now encapsulate
  | .cullAcknowledgedPackets numbers => h.cullAcknowledgedPackets numbers
  | .setPendingTransmission n => h.setPendingTransmission n
  | .clear => h.reset

namespace PrioritySlot

variable {lhs rhs : PrioritySlot}

theorem moreUseful_iff : lhs.moreUseful rhs = true ↔
    lhs.timesRetransmitted < rhs.timesRetransmitted ∨
      lhs.timesRetransmitted = rhs.timesRetransmitted ∧ rhs.insertOrder < lhs.insertOrder := by
  unfold moreUseful
  split_ifs with apart
  · rw [decide_eq_true_iff]
    exact ⟨.inl, fun either => either.resolve_right fun same => apart same.1⟩
  · have same : lhs.timesRetransmitted = rhs.timesRetransmitted := not_not.mp apart
    rw [decide_eq_true_iff]
    refine ⟨fun newer => .inr ⟨same, newer⟩, fun either => ?_⟩
    rcases either with less | newer
    · exact absurd same (Nat.ne_of_lt less)
    · exact newer.2

variable (slot : PrioritySlot)

theorem moreUseful_self : slot.moreUseful slot = false := by
  rw [Bool.eq_false_iff]
  intro before
  rcases moreUseful_iff.mp before with less | newer
  · exact Nat.lt_irrefl _ less
  · exact UInt64.lt_irrefl _ newer.2

theorem moreUseful_trans {first second third : PrioritySlot}
    (before : first.moreUseful second = true) (after : second.moreUseful third = true) :
    first.moreUseful third = true := by
  rw [moreUseful_iff] at *
  rcases before with less | ⟨same, newer⟩
  · rcases after with less' | ⟨same', -⟩
    · exact .inl (less.trans less')
    · exact .inl (same' ▸ less)
  · rcases after with less' | ⟨same', newer'⟩
    · exact .inl (same ▸ less')
    · exact .inr ⟨same.trans same', UInt64.lt_trans newer' newer⟩

/-- What the order reads of a slot. -/
def key : Nat × UInt64 := (slot.timesRetransmitted, slot.insertOrder)

theorem moreUseful_congr {lhs lhs' rhs rhs' : PrioritySlot} (left : lhs'.key = lhs.key)
    (right : rhs'.key = rhs.key) : lhs'.moreUseful rhs' = lhs.moreUseful rhs := by
  unfold moreUseful
  rw [(Prod.mk.inj left).1, (Prod.mk.inj left).2, (Prod.mk.inj right).1, (Prod.mk.inj right).2]

/-- Neither of two slots is more useful, if and only if the order reads the same of them. -/
theorem not_moreUseful_iff :
    (lhs.moreUseful rhs = false ∧ rhs.moreUseful lhs = false) ↔ lhs.key = rhs.key := by
  constructor
  · intro neither
    have left := mt moreUseful_iff.mpr (Bool.eq_false_iff.mp neither.1)
    have right := mt moreUseful_iff.mpr (Bool.eq_false_iff.mp neither.2)
    rw [not_or, Nat.not_lt] at left right
    have same : lhs.timesRetransmitted = rhs.timesRetransmitted := Nat.le_antisymm right.1 left.1
    refine Prod.ext same ?_
    have order := UInt64.not_lt.mp fun newer => left.2 ⟨same, newer⟩
    have order' := UInt64.not_lt.mp fun newer => right.2 ⟨same.symm, newer⟩
    exact UInt64.le_antisymm order order'
  · intro same
    have this : lhs.moreUseful rhs = lhs.moreUseful lhs := moreUseful_congr rfl same.symm
    have that : rhs.moreUseful lhs = lhs.moreUseful lhs := moreUseful_congr same.symm rfl
    rw [this, that]
    exact ⟨moreUseful_self lhs, moreUseful_self lhs⟩

end PrioritySlot

section Pointers

variable {queue queue' : PlacedQueue PrioritySlot} {place : Int}

/-- What the order reads at a place. -/
def keyAt (queue : PlacedQueue PrioritySlot) (place : Int) : Option (Nat × UInt64) :=
  (queue.itemAt place).map PrioritySlot.key

theorem moreUseful_self (queue : PlacedQueue PrioritySlot) (place : Int) :
    moreUseful queue place place = false := by
  unfold moreUseful
  split
  · rename_i lhs rhs left right
    rw [Option.some.inj (left.symm.trans right)]
    exact rhs.moreUseful_self
  · rfl

theorem moreUseful_eq_true_iff {lhs rhs : Int} : moreUseful queue lhs rhs = true ↔
    ∃ left right, queue.itemAt lhs = some left ∧ queue.itemAt rhs = some right ∧
      left.moreUseful right = true := by
  unfold moreUseful
  constructor
  · intro before
    split at before
    · next left right leftFound rightFound => exact ⟨left, right, leftFound, rightFound, before⟩
    · cases before
  · rintro ⟨left, right, leftFound, rightFound, before⟩
    rw [leftFound, rightFound]
    exact before

theorem moreUseful_trans {first second third : Int} (before : moreUseful queue first second = true)
    (after : moreUseful queue second third = true) : moreUseful queue first third = true := by
  obtain ⟨left, middle, leftFound, middleFound, before⟩ := moreUseful_eq_true_iff.mp before
  obtain ⟨middle', right, middleFound', rightFound, after⟩ := moreUseful_eq_true_iff.mp after
  obtain rfl := Option.some.inj (middleFound.symm.trans middleFound')
  exact moreUseful_eq_true_iff.mpr
    ⟨left, right, leftFound, rightFound, PrioritySlot.moreUseful_trans before after⟩

theorem moreUseful_congr {lhs rhs : Int} (left : keyAt queue' lhs = keyAt queue lhs)
    (right : keyAt queue' rhs = keyAt queue rhs) :
    moreUseful queue' lhs rhs = moreUseful queue lhs rhs := by
  unfold keyAt at left right
  unfold moreUseful
  cases leftFound : queue.itemAt lhs with
  | none =>
      rw [leftFound] at left
      rw [Option.map_eq_none_iff.mp left]
  | some slot =>
      rw [leftFound] at left
      obtain ⟨slot', leftFound', sameLeft⟩ := Option.map_eq_some_iff.mp left
      cases rightFound : queue.itemAt rhs with
      | none =>
          rw [rightFound] at right
          rw [Option.map_eq_none_iff.mp right, leftFound']
      | some other =>
          rw [rightFound] at right
          obtain ⟨other', rightFound', sameRight⟩ := Option.map_eq_some_iff.mp right
          rw [leftFound', rightFound']
          exact PrioritySlot.moreUseful_congr sameLeft sameRight

/-- A packet is stored at this place. -/
def Points (queue : PlacedQueue PrioritySlot) (place : Int) : Prop :=
  ∃ slot, queue.itemAt place = some slot ∧ slot.packet.isSome

/-- The members are in order, and each points to a packet. -/
structure InOrder (queue : PlacedQueue PrioritySlot) (members : List Int) : Prop where
  sorted : KeyedSet.Sorted (moreUseful queue) members
  points : ∀ place ∈ members, Points queue place

namespace InOrder

variable {members : List Int}

theorem nil (queue : PlacedQueue PrioritySlot) : InOrder queue [] := ⟨.nil, fun _ => nofun⟩

section

variable (ordered : InOrder queue members)
include ordered

theorem sublist {fewer : List Int} (sublist : fewer.Sublist members) : InOrder queue fewer :=
  ⟨ordered.sorted.sublist sublist, fun place member =>
    ordered.points place (sublist.subset member)⟩

/-- As long as the members point to packets, and what the order reads of them is the same, the
queue may change. -/
theorem congr (same : ∀ place ∈ members, keyAt queue' place = keyAt queue place)
    (points : ∀ place ∈ members, Points queue place → Points queue' place) :
    InOrder queue' members := by
  refine ⟨ordered.sorted.congr ?_, fun place member => points place member
    (ordered.points place member)⟩
  intro first isMember second isMember'
  exact moreUseful_congr (same first isMember) (same second isMember')

theorem of_itemAt
    (same : ∀ place ∈ members, ∀ slot, queue.itemAt place = some slot → slot.packet.isSome →
      queue'.itemAt place = some slot) : InOrder queue' members := by
  refine ordered.congr (fun place member => ?_) fun place member => ?_
  · obtain ⟨slot, found, isStored⟩ := ordered.points place member
    unfold keyAt
    rw [found, same place member slot found isStored]
  · rintro ⟨slot, found, isStored⟩
    exact ⟨slot, same place member slot found isStored, isStored⟩

/-- Changing a slot in place, without a change of what the order reads or of its packet. -/
theorem modify (index : Nat)
    {change : PrioritySlot → PrioritySlot} (key : ∀ slot, (change slot).key = slot.key)
    (packet : ∀ slot, (change slot).packet = slot.packet) :
    InOrder (queue.modify index change) members := by
  refine ordered.congr (fun place _ => ?_) fun place _ => ?_
  · unfold keyAt
    rw [PlacedQueue.itemAt_modify]
    split
    · rw [Option.map_map]
      exact congrArg (Option.map · _) (funext key)
    · rfl
  · rintro ⟨slot, found, isStored⟩
    unfold Points
    rw [PlacedQueue.itemAt_modify, found]
    split
    · exact ⟨_, rfl, (packet slot).symm ▸ isStored⟩
    · exact ⟨_, rfl, isStored⟩

/-- Changing a slot that is not in the set. -/
theorem modify_of_not_mem {index : Nat}
    (absent : queue.place index ∉ members) (change : PrioritySlot → PrioritySlot) :
    InOrder (queue.modify index change) members := by
  refine ordered.of_itemAt fun place member slot found _ => ?_
  rw [PlacedQueue.itemAt_modify_of_ne]
  · exact found
  · rintro rfl
    exact absent member

end

theorem not_mem_erase (queue : PlacedQueue PrioritySlot) (members : List Int) (place : Int) :
    place ∉ KeyedSet.erase (moreUseful queue) members place := fun member =>
  KeyedSet.ne_of_mem_erase (moreUseful_self queue) member rfl

theorem erase (ordered : InOrder queue members) (place : Int) :
    InOrder queue (KeyedSet.erase (moreUseful queue) members place) :=
  ordered.sublist List.filter_sublist

theorem insert (ordered : InOrder queue members) (points : Points queue place) :
    InOrder queue (KeyedSet.insert (moreUseful queue) members place) := by
  have trans : ∀ first second third, moreUseful queue first second = true →
      moreUseful queue second third = true → moreUseful queue first third = true :=
    fun _ _ _ => moreUseful_trans
  refine ⟨ordered.sorted.insert trans place, fun other member => ?_⟩
  rcases KeyedSet.mem_of_mem_insert member with rfl | old
  · exact points
  · exact ordered.points other old

end InOrder

end Pointers

end MpWebRtc
