import MpWebRtc.Sender.PaddingPriority

/-!
# What the set of padding packets holds

After any calls the pointers of the set are in order, point to stored packets, and are at most 62.
Removing a number under which no packet is stored changes nothing, unless the empty slot compares
equal to a packet of the set.
-/

namespace MpWebRtc

open Math Math.Serial

namespace PriorityHistory

variable {h : PriorityHistory}

section Projection

theorem map_modify {Item Image : Type} {read : Item → Image} (change : Item → Item)
    (change' : Image → Image) (commutes : ∀ item, read (change item) = change' (read item))
    (items : List Item) (index : Nat) :
    (items.modify index change).map read = (items.map read).modify index change' := by
  apply List.ext_getElem?
  intro i
  rw [List.getElem?_map, List.getElem?_modify, List.getElem?_modify, List.getElem?_map]
  cases items[i]? with
  | none => rfl
  | some item =>
      change some (read _) = some _
      split
      · rw [commutes]
      · rfl

/-- Only the packets count for a history to be well formed. -/
theorem wellFormed_congr {history history' : PacketHistory} (formed : history.WellFormed)
    (same : history'.packets.map (·.packet) = history.packets.map (·.packet)) :
    history'.WellFormed := by
  obtain ⟨first, numbered⟩ := formed.numbered
  have at_index : ∀ (i : Nat) (stored : StoredPacket), history'.packets[i]? = some stored →
      ∃ old, history.packets[i]? = some old ∧ old.packet = stored.packet := by
    intro i stored found
    have here : (history'.packets.map (·.packet))[i]? = (history.packets.map (·.packet))[i]? := by
      rw [same]
    rw [List.getElem?_map, List.getElem?_map, found, Option.map_some] at here
    exact Option.map_eq_some_iff.mp here.symm
  refine ⟨fun stored isFirst => ?_, first, fun i stored found n isNumbered => ?_⟩
  · rw [Option.mem_def, List.head?_eq_getElem?] at isFirst
    obtain ⟨old, found, same⟩ := at_index 0 stored isFirst
    rw [← same]
    exact formed.front old (List.head?_eq_getElem? ▸ found)
  · obtain ⟨old, found, same⟩ := at_index i stored found
    refine numbered i old found n ?_
    unfold StoredPacket.number at isNumbered ⊢
    rw [same]
    exact isNumbered

/-- Changing slots in place without touching their packets keeps a history well formed. -/
theorem modify_wellFormed (formed : h.toHistory.WellFormed) (index : Nat)
    (change : PrioritySlot → PrioritySlot) (keeps : ∀ slot, (change slot).packet = slot.packet)
    {after : PriorityHistory} (changed : after.queue = h.queue.modify index change) :
    after.toHistory.WellFormed := by
  refine wellFormed_congr formed ?_
  unfold toHistory
  rw [changed, List.map_map, List.map_map]
  exact (map_modify change id keeps h.queue.items index).trans (List.modify_id ..)

theorem toHistory_removePacket (h : PriorityHistory) (index : Nat) :
    (h.removePacket index).toHistory = h.toHistory.removePacket index := by
  have emptied : (h.queue.items.modify index fun slot => { slot with packet := none }).map
      PrioritySlot.toStoredPacket = (h.queue.items.map PrioritySlot.toStoredPacket).modify index
        fun stored => { stored with packet := none } :=
    map_modify (fun slot : PrioritySlot => { slot with packet := none })
      (fun stored : StoredPacket => { stored with packet := none }) (fun _ => rfl) _ _
  unfold removePacket PacketHistory.removePacket toHistory PlacedQueue.modify
    PlacedQueue.dropWhile
  dsimp only
  rw [← emptied]
  by_cases front : index = 0
  · rw [if_pos front, if_pos front, List.dropWhile_map]
    rfl
  · rw [if_neg front, if_neg front]

theorem toHistory_cullLoop (now : Int) (fuel : Nat) (h : PriorityHistory) :
    (cullLoop now fuel h).toHistory = PacketHistory.cullLoop now fuel h.toHistory := by
  induction fuel generalizing h with
  | zero => rfl
  | succ fuel ih =>
      unfold cullLoop PacketHistory.cullLoop
      have first : h.toHistory.packets.head? =
          h.queue.items.head?.map PrioritySlot.toStoredPacket := List.head?_map
      rw [first]
      cases h.queue.items.head? with
      | none => rfl
      | some front =>
          dsimp only [Option.map_some]
          split
          · rw [ih, toHistory_removePacket]
          · rfl

theorem toHistory_cullOldPackets (h : PriorityHistory) (now : Int) :
    (h.cullOldPackets now).toHistory = h.toHistory.cullOldPackets now := by
  unfold cullOldPackets PacketHistory.cullOldPackets
  rw [toHistory_cullLoop]
  exact congrArg (PacketHistory.cullLoop now · _) (List.length_map _).symm

theorem toHistory_removeDuplicate (h : PriorityHistory) (n : UInt16) :
    (h.removeDuplicate n).toHistory = h.toHistory.removeDuplicate n := by
  unfold removeDuplicate PacketHistory.removeDuplicate
  dsimp only
  split
  · exact toHistory_removePacket h _
  · rfl

theorem toHistory_insertAt (h : PriorityHistory) (packetIndex : Int) (slot : PrioritySlot) :
    (h.insertAt packetIndex slot).toHistory =
      h.toHistory.insertAt packetIndex slot.toStoredPacket := by
  unfold insertAt PacketHistory.insertAt toHistory PlacedQueue.grow PlacedQueue.set
  dsimp only
  rw [List.map_set, List.map_append, List.map_append, List.map_replicate, List.map_replicate,
    List.length_append, List.length_replicate, List.length_map]

end Projection

/-- What holds of the set after any calls. -/
structure Tidy (h : PriorityHistory) : Prop where
  formed : h.toHistory.WellFormed
  ordered : InOrder h.queue h.paddingPriority
  room : h.paddingPriority.length ≤ kMaxPaddingtHistory - 1
  off : h.enablePaddingPrio = false → h.paddingPriority = []

section Steps

/-- A history without packets. -/
theorem Tidy.of_empty (queue : h.queue.items = []) (set : h.paddingPriority = []) : h.Tidy := by
  have none : h.toHistory.packets = [] := by
    unfold toHistory
    rw [queue]
    rfl
  refine ⟨⟨?_, 0, ?_⟩, ?_, ?_, fun _ => set⟩
  · rw [none]
    exact fun _ => nofun
  · rw [none]
    exact NumberedFrom.nil 0
  · rw [set]
    exact .nil _
  · rw [set]
    exact Nat.zero_le _

section

variable (tidy : h.Tidy)
include tidy

/-- Changes of a slot that are not seen by the order. -/
theorem Tidy.modify (index : Nat) {change : PrioritySlot → PrioritySlot}
    (key : ∀ slot, (change slot).key = slot.key)
    (packet : ∀ slot, (change slot).packet = slot.packet) :
    { h with queue := h.queue.modify index change }.Tidy :=
  ⟨modify_wellFormed tidy.formed index change packet rfl, tidy.ordered.modify index key packet,
    tidy.room, tidy.off⟩

/-- A packet is taken out of the set before it is counted, and put back after it. -/
theorem Tidy.incrementTimesRetransmitted {index : Nat}
    (points : Points h.queue (h.queue.place index)) :
    (h.incrementTimesRetransmitted index).Tidy := by
  have formed : (h.incrementTimesRetransmitted index).toHistory.WellFormed :=
    modify_wellFormed tidy.formed index (fun slot =>
      { slot with timesRetransmitted := slot.timesRetransmitted + 1 }) (fun _ => rfl) rfl
  have counted : Points (h.queue.modify index fun slot =>
      { slot with timesRetransmitted := slot.timesRetransmitted + 1 }) (h.queue.place index) := by
    obtain ⟨slot, found, isStored⟩ := points
    unfold Points
    rw [PlacedQueue.itemAt_modify, if_pos rfl, found]
    exact ⟨_, rfl, isStored⟩
  by_cases inSet : (h.enablePaddingPrio && h.paddingPriority.any
      (KeyedSet.equivalent (moreUseful h.queue) (h.queue.place index))) = true
  · have taken := InOrder.not_mem_erase h.queue h.paddingPriority (h.queue.place index)
    have erased := (tidy.ordered.erase (h.queue.place index)).modify_of_not_mem taken fun slot =>
      { slot with timesRetransmitted := slot.timesRetransmitted + 1 }
    have set : (h.incrementTimesRetransmitted index).paddingPriority = _ := if_pos inSet
    rw [Bool.and_eq_true] at inSet
    refine ⟨formed, ?_, ?_, fun off => ?_⟩
    · rw [set]
      exact erased.insert counted
    · have smaller := KeyedSet.length_erase_lt inSet.2
      have larger := @KeyedSet.length_insert_le _ (moreUseful (h.queue.modify index fun slot =>
        { slot with timesRetransmitted := slot.timesRetransmitted + 1 }))
        (KeyedSet.erase (moreUseful h.queue) h.paddingPriority (h.queue.place index))
        (h.queue.place index)
      have room := tidy.room
      rw [set]
      omega
    · rw [show h.enablePaddingPrio = false from off] at inSet
      cases inSet.1
  · have set : (h.incrementTimesRetransmitted index).paddingPriority = h.paddingPriority :=
      if_neg inSet
    refine ⟨formed, ?_, set ▸ tidy.room, fun off => set.trans (tidy.off off)⟩
    rw [set]
    refine tidy.ordered.modify_of_not_mem (fun member => ?_) _
    cases enabled : h.enablePaddingPrio with
    | false =>
        rw [tidy.off enabled] at member
        cases member
    | true =>
        rw [enabled, Bool.true_and] at inSet
        exact inSet (List.any_eq_true.mpr
          ⟨_, member, KeyedSet.equivalent_self (moreUseful_self h.queue) _⟩)

theorem Tidy.removePacket (index : Nat) : (h.removePacket index).Tidy := by
  have formed : (h.removePacket index).toHistory.WellFormed := by
    rw [toHistory_removePacket]
    exact PacketHistory.removePacket_wellFormed tidy.formed index
  -- The set was in order by the same keys, and without the slot it points to packets.
  have erased : InOrder (h.queue.modify index fun slot => { slot with packet := none })
      (h.removePacket index).paddingPriority := by
    have same : ∀ place, keyAt (h.queue.modify index fun slot => { slot with packet := none })
        place = keyAt h.queue place := fun place => by
      unfold keyAt
      rw [PlacedQueue.itemAt_modify]
      split
      · rw [Option.map_map]
        rfl
      · rfl
    cases enabled : h.enablePaddingPrio with
    | false =>
        have set : (h.removePacket index).paddingPriority = h.paddingPriority :=
          if_neg (enabled ▸ Bool.false_ne_true)
        rw [set, tidy.off enabled]
        exact .nil _
    | true =>
        have set : (h.removePacket index).paddingPriority = _ := if_pos enabled
        rw [set]
        refine ⟨(tidy.ordered.sorted.congr fun first _ second _ =>
          moreUseful_congr (same first) (same second)).erase _, fun place member => ?_⟩
        obtain ⟨slot, found, isStored⟩ := tidy.ordered.points place (KeyedSet.mem_erase.mp member).1
        refine ⟨slot, ?_, isStored⟩
        rw [PlacedQueue.itemAt_modify_of_ne]
        · exact found
        · exact KeyedSet.ne_of_mem_erase (moreUseful_self _) member
  refine ⟨formed, ?_, ?_, fun off => ?_⟩
  · by_cases front : index = 0
    · have queue : (h.removePacket index).queue = _ := if_pos front
      rw [queue]
      refine erased.of_itemAt fun place _ slot found isStored => ?_
      refine PlacedQueue.itemAt_dropWhile found ?_
      rw [Option.isNone_eq_false_iff]
      exact isStored
    · have queue : (h.removePacket index).queue = _ := if_neg front
      rw [queue]
      exact erased
  · refine Nat.le_trans ?_ tidy.room
    unfold PriorityHistory.removePacket
    dsimp only
    split
    · exact KeyedSet.length_erase_le _ _
    · exact Nat.le_refl _
  · have set : (h.removePacket index).paddingPriority = h.paddingPriority :=
      if_neg (ne_true_of_eq_false off)
    rw [set]
    exact tidy.off off

theorem Tidy.cullLoop (now : Int) (fuel : Nat) : (PriorityHistory.cullLoop now fuel h).Tidy := by
  induction fuel generalizing h with
  | zero => exact tidy
  | succ fuel ih =>
      unfold PriorityHistory.cullLoop
      split
      · exact tidy
      · split
        · exact ih (tidy.removePacket 0)
        · exact tidy

theorem Tidy.removeDuplicate (n : UInt16) : (h.removeDuplicate n).Tidy := by
  unfold PriorityHistory.removeDuplicate
  dsimp only
  split
  · exact tidy.removePacket _
  · exact tidy

theorem Tidy.insertAt {n : UInt16} {slot : PrioritySlot} (isNumbered : slot.number = some n)
    (free : h.toHistory.occupied (h.toHistory.getPacketIndex n) = false) :
    (h.insertAt (h.toHistory.getPacketIndex n) slot).Tidy ∧
      Points (h.insertAt (h.toHistory.getPacketIndex n) slot).queue
        ((h.insertAt (h.toHistory.getPacketIndex n) slot).queue.place
          (h.toHistory.getPacketIndex n).toNat) := by
  have formed : (h.insertAt (h.toHistory.getPacketIndex n) slot).toHistory.WellFormed := by
    rw [toHistory_insertAt]
    exact (PacketHistory.insertAt_inserted tidy.formed isNumbered).wellFormed
  generalize h.toHistory.getPacketIndex n = packetIndex at free formed ⊢
  have occupied := StoredPacket.isSome_of_number isNumbered
  unfold PriorityHistory.insertAt at formed ⊢
  dsimp only at formed ⊢
  generalize shape : h.queue.grow (-packetIndex).toNat
    (packetIndex.toNat + 1 - ((-packetIndex).toNat + h.queue.items.length))
    ⟨.placeholder, 0⟩ = grown at formed ⊢
  have items : grown.items = List.replicate (-packetIndex).toNat ⟨.placeholder, 0⟩ ++
      h.queue.items ++ List.replicate
        (packetIndex.toNat + 1 - ((-packetIndex).toNat + h.queue.items.length))
          ⟨.placeholder, 0⟩ := shape ▸ rfl
  have inside : packetIndex.toNat < grown.items.length := by
    rw [items, List.length_append, List.length_append, List.length_replicate, List.length_replicate]
    omega
  -- Where the packet goes there is a placeholder, or the slot of a missing packet.
  have blank : ∀ old, grown.items[packetIndex.toNat]? = some old → old.packet = none := by
    intro old found
    rw [items, List.append_assoc] at found
    by_cases before : packetIndex < 0
    · rw [List.getElem?_append_left (by rw [List.length_replicate]; omega)] at found
      rw [List.eq_of_mem_replicate (List.mem_of_getElem? found)]
      rfl
    · have front : (-packetIndex).toNat = 0 := by omega
      rw [front, List.replicate_zero, List.nil_append] at found
      rcases Nat.lt_or_ge packetIndex.toNat h.queue.items.length with within | beyond
      · rw [List.getElem?_append_left within] at found
        have there : h.toHistory.packets[packetIndex.toNat]? = some old.toStoredPacket := by
          unfold toHistory
          dsimp only
          rw [List.getElem?_map, found]
          rfl
        unfold PacketHistory.occupied at free
        rw [there, decide_eq_true (Int.not_lt.mp before), Bool.true_and] at free
        exact Option.isSome_eq_false_iff.mp free |> Option.isNone_iff_eq_none.mp
      · rw [List.getElem?_append_right beyond] at found
        rw [List.eq_of_mem_replicate (List.mem_of_getElem? found)]
        rfl
  refine ⟨⟨formed, tidy.ordered.of_itemAt fun place _ stored found isStored => ?_, tidy.room,
    tidy.off⟩, slot, ?_, occupied⟩
  · have kept : grown.itemAt place = some stored := shape ▸ PlacedQueue.itemAt_grow found
    rw [PlacedQueue.itemAt_set_of_ne]
    · exact kept
    · rintro rfl
      rw [PlacedQueue.itemAt_place] at kept
      rw [blank stored kept] at isStored
      cases isStored
  · rw [PlacedQueue.itemAt_place]
    exact List.getElem?_set_self inside

theorem Tidy.addPriority {index : Nat}
    (points : Points h.queue (h.queue.place index)) : (h.addPriority index).Tidy := by
  unfold PriorityHistory.addPriority
  split
  · rename_i enabled
    dsimp only
    generalize shape : (if h.paddingPriority.length ≥ kMaxPaddingtHistory - 1 then
      h.paddingPriority.dropLast else h.paddingPriority) = kept
    have fewer : kept.Sublist h.paddingPriority ∧ kept.length < kMaxPaddingtHistory - 1 := by
      rw [← shape]
      split
      · rename_i full
        refine ⟨List.dropLast_sublist _, ?_⟩
        have room := tidy.room
        have some : 0 < kMaxPaddingtHistory - 1 := by decide
        rw [List.length_dropLast]
        omega
      · next free => exact ⟨.refl _, Nat.not_le.mp free⟩
    have larger := @KeyedSet.length_insert_le _ (moreUseful h.queue) kept (h.queue.place index)
    refine ⟨tidy.formed, (tidy.ordered.sublist fewer.1).insert points,
      Nat.le_trans larger fewer.2, fun off => ?_⟩
    rw [show h.enablePaddingPrio = false from off] at enabled
    cases enabled
  · exact tidy

end

/-- After the removal of a packet under a number, the slot that the number leads to is free. -/
theorem occupied_removeDuplicate {history : PacketHistory} (formed : history.WellFormed)
    (short : history.packets.length ≤ 32768) (n : UInt16) :
    (history.removeDuplicate n).occupied ((history.removeDuplicate n).getPacketIndex n) =
      false := by
  rw [← PacketHistory.isSome_getStoredPacket, Option.isSome_eq_false_iff, Option.isNone_iff_eq_none]
  have left := formed.storedPackets_removeDuplicate short n
  by_contra some
  obtain ⟨stored, found⟩ := Option.ne_none_iff_exists'.mp some
  obtain ⟨i, position, present, occupied⟩ := PacketHistory.getStoredPacket_eq_some found
  obtain ⟨p, isStored⟩ := Option.isSome_iff_exists.mp occupied
  have member : p ∈ (history.removeDuplicate n).storedPackets :=
    PacketHistory.mem_storedPackets.mpr ⟨stored, List.mem_of_getElem? present, isStored⟩
  have same := (PacketHistory.removeDuplicate_wellFormed formed n).number_at position present
    (PacketHistory.number_of_packet isStored)
  rw [left] at member
  exact of_decide_eq_true (List.mem_filter.mp member).2 same

theorem Tidy.putRtpPacket (tidy : h.Tidy) (now : Int) (sendTimeMs : Option Int) (p : Packet) :
    (h.putRtpPacket now sendTimeMs p).Tidy := by
  unfold PriorityHistory.putRtpPacket
  split
  · dsimp only
    have culled : (h.cullOldPackets now).Tidy := tidy.cullLoop now _
    have short : (h.cullOldPackets now).toHistory.packets.length ≤ 32768 := by
      have room := (PacketHistory.trimmed_cullLoop now
        (Nat.le_refl h.toHistory.packets.length)).length_lt
      rw [toHistory_cullOldPackets]
      exact Nat.le_trans (Nat.le_of_lt room) (by decide)
    have free := occupied_removeDuplicate culled.formed short p.subflowSeq
    rw [← toHistory_removeDuplicate] at free
    let slot : PrioritySlot := ⟨⟨some p, sendTimeMs, sendTimeMs.isNone, 0⟩,
      ((h.cullOldPackets now).removeDuplicate p.subflowSeq).packetsInserted⟩
    have isNumbered : slot.number = some p.subflowSeq := rfl
    obtain ⟨inserted, points⟩ := (culled.removeDuplicate p.subflowSeq).insertAt isNumbered free
    refine Tidy.addPriority ?_ points
    exact ⟨inserted.formed, inserted.ordered, inserted.room, inserted.off⟩
  · exact tidy

/-- A slot that is found occupied is the one a pointer may point to. -/
theorem points_of_occupied {packetIndex : Int}
    (occupied : h.toHistory.occupied packetIndex = true) :
    Points h.queue (h.queue.place packetIndex.toNat) := by
  unfold PacketHistory.occupied toHistory at occupied
  dsimp only at occupied
  rw [Bool.and_eq_true, List.getElem?_map] at occupied
  unfold Points
  rw [PlacedQueue.itemAt_place]
  cases found : h.queue.items[packetIndex.toNat]? with
  | none =>
      rw [found] at occupied
      cases occupied.2
  | some slot =>
      rw [found] at occupied
      exact ⟨slot, rfl, occupied.2⟩

/-- The changes of a slot before a packet is counted do not move it. -/
theorem points_modify {queue : PlacedQueue PrioritySlot} {index : Nat}
    {change : PrioritySlot → PrioritySlot} (packet : ∀ slot, (change slot).packet = slot.packet)
    (points : Points queue (queue.place index)) :
    Points (queue.modify index change) ((queue.modify index change).place index) := by
  obtain ⟨slot, found, isStored⟩ := points
  have here : (queue.modify index change).itemAt (queue.place index) = some (change slot) := by
    rw [PlacedQueue.itemAt_modify, if_pos rfl, found]
    rfl
  exact ⟨change slot, here, (packet slot).symm ▸ isStored⟩

theorem occupied_of_sendableIndex {now : Int} {n : UInt16} {index : Nat}
    (sendable : h.sendableIndex now n = some index) : Points h.queue (h.queue.place index) := by
  unfold sendableIndex at sendable
  split at sendable
  · rename_i some
    obtain rfl := Option.some.inj sendable
    apply points_of_occupied
    rw [← PacketHistory.isSome_getStoredPacket]
    unfold PacketHistory.getPacketState at some
    split at some
    · rw [Option.isSome_iff_exists] at some ⊢
      obtain ⟨stored, found⟩ := some
      exact ⟨stored, (Option.filter_eq_some_iff.mp found).1⟩
    · cases some
  · cases sendable

variable (tidy : h.Tidy)
include tidy

theorem Tidy.getPacketAndSetSendTime (now : Int) (n : UInt16) :
    (h.getPacketAndSetSendTime now n).Tidy := by
  unfold PriorityHistory.getPacketAndSetSendTime
  split
  · exact tidy
  · rename_i index sendable
    dsimp only
    have counted : (if (h.queue.items[index]?).any (·.sendTimeMs.isSome) then
        h.incrementTimesRetransmitted index else h).Tidy := by
      split
      · exact tidy.incrementTimesRetransmitted (occupied_of_sendableIndex sendable)
      · exact tidy
    refine counted.modify index ?_ ?_
    · exact fun _ => rfl
    · exact fun _ => rfl

theorem Tidy.getPacketAndMarkAsPending (now : Int) (n : UInt16)
    (encapsulate : Packet → Option Packet) :
    (h.getPacketAndMarkAsPending now n encapsulate).Tidy := by
  unfold PriorityHistory.getPacketAndMarkAsPending
  split
  · exact tidy
  · split
    · refine tidy.modify _ ?_ ?_
      · exact fun _ => rfl
      · exact fun _ => rfl
    · exact tidy

theorem Tidy.markPacketAsSent (now : Int) (n : UInt16) : (h.markPacketAsSent now n).Tidy := by
  unfold PriorityHistory.markPacketAsSent
  dsimp only
  split
  · rename_i stored
    rw [Bool.and_eq_true] at stored
    refine (tidy.modify _ ?_ ?_).incrementTimesRetransmitted
      (points_modify ?_ (points_of_occupied stored.2))
    · exact fun _ => rfl
    · exact fun _ => rfl
    · exact fun _ => rfl
  · exact tidy

theorem Tidy.setPendingTransmission (n : UInt16) : (h.setPendingTransmission n).Tidy := by
  unfold PriorityHistory.setPendingTransmission
  dsimp only
  split
  · refine tidy.modify _ ?_ ?_
    · exact fun _ => rfl
    · exact fun _ => rfl
  · exact tidy

/-- Only a stored packet is encapsulated. -/
theorem Tidy.getPayloadPaddingPacket (now : Int)
    (encapsulate : Packet → Option Packet) : (h.getPayloadPaddingPacket now encapsulate).Tidy := by
  unfold PriorityHistory.getPayloadPaddingPacket
  split
  · exact tidy
  · rename_i index _
    split
    · rename_i sends
      have points : Points h.queue (h.queue.place index) := by
        unfold Points
        rw [PlacedQueue.itemAt_place]
        cases found : h.queue.items[index]? with
        | none =>
            rw [found] at sends
            cases sends
        | some slot =>
            rw [found, Option.any_some, Bool.and_eq_true] at sends
            refine ⟨slot, rfl, ?_⟩
            cases isStored : slot.packet with
            | none =>
                rw [isStored] at sends
                cases sends.2
            | some p => rfl
      refine (tidy.modify _ ?_ ?_).incrementTimesRetransmitted (points_modify ?_ points)
      · exact fun _ => rfl
      · exact fun _ => rfl
      · exact fun _ => rfl
    · exact tidy

theorem Tidy.cullAcknowledgedPacket (n : UInt16) : (h.cullAcknowledgedPacket n).Tidy := by
  unfold PriorityHistory.cullAcknowledgedPacket
  dsimp only
  split
  · exact tidy
  · exact tidy.removePacket _

theorem Tidy.cullAcknowledgedPackets (numbers : List UInt16) :
    (h.cullAcknowledgedPackets numbers).Tidy := by
  induction numbers generalizing h with
  | nil => exact tidy
  | cons n numbers ih => exact ih (tidy.cullAcknowledgedPacket n)

/-- Every call keeps the set tidy. -/
theorem Tidy.step (call : PriorityCall) : (h.step call).Tidy := by
  cases call with
  | setStorePacketsStatus storing numberToStore => exact .of_empty rfl rfl
  | setRtt now rttMs =>
      have same : { h with rttMs := rttMs }.Tidy :=
        ⟨wellFormed_congr tidy.formed rfl, tidy.ordered, tidy.room, tidy.off⟩
      unfold PriorityHistory.step PriorityHistory.setRtt
      dsimp only
      split
      · exact same.cullLoop now _
      · exact same
  | putRtpPacket now sendTimeMs p => exact tidy.putRtpPacket now sendTimeMs p
  | getPacketAndSetSendTime now n => exact tidy.getPacketAndSetSendTime now n
  | getPacketAndMarkAsPending now n encapsulate =>
      exact tidy.getPacketAndMarkAsPending now n encapsulate
  | markPacketAsSent now n => exact tidy.markPacketAsSent now n
  | getPayloadPaddingPacket now encapsulate => exact tidy.getPayloadPaddingPacket now encapsulate
  | cullAcknowledgedPackets numbers => exact tidy.cullAcknowledgedPackets numbers
  | setPendingTransmission n => exact tidy.setPendingTransmission n
  | clear => exact .of_empty rfl rfl

end Steps

section Removal

/-- The slot that a number leads to. -/
def slotOf (h : PriorityHistory) (n : UInt16) : Option PrioritySlot :=
  if h.toHistory.getPacketIndex n < 0 then none
  else h.queue.items[(h.toHistory.getPacketIndex n).toNat]?

/-- The slot that a number leads to compares equal to a packet of the set. -/
def LooksLikeMember (h : PriorityHistory) (n : UInt16) : Prop :=
  ∃ slot, h.slotOf n = some slot ∧
    ∃ place ∈ h.paddingPriority, keyAt h.queue place = some slot.key

variable {queue : PlacedQueue PrioritySlot}

/-- What is found at two places is equivalent, if and only if the order reads the same there. -/
theorem equivalent_iff {place other : Int}
    {slot member : PrioritySlot} (found : queue.itemAt place = some slot)
    (found' : queue.itemAt other = some member) :
    KeyedSet.equivalent (moreUseful queue) place other = true ↔ member.key = slot.key := by
  have here : moreUseful queue place other = slot.moreUseful member := by
    unfold moreUseful
    rw [found, found']
  have there : moreUseful queue other place = member.moreUseful slot := by
    unfold moreUseful
    rw [found, found']
  unfold KeyedSet.equivalent
  rw [here, there, Bool.and_eq_true, Bool.not_eq_true', Bool.not_eq_true',
    PrioritySlot.not_moreUseful_iff]
  exact eq_comm

/-- A slot without a packet is emptied to what it is. -/
theorem modify_empty {index : Nat} {slot : PrioritySlot}
    (found : queue.items[index]? = some slot) (empty : slot.packet = none) :
    (queue.modify index fun slot => { slot with packet := none }) = queue := by
  unfold PlacedQueue.modify
  have same : queue.items.modify index (fun slot => { slot with packet := none }) =
      queue.items := by
    apply List.ext_getElem?
    intro i
    rw [List.getElem?_modify]
    split
    · rename_i here
      subst here
      rw [found, ← empty]
      rfl
    · exact congrFun Option.map_id _
  rw [same]

/-- An acknowledgment of a number that is not stored changes nothing, if and only if its slot
does not compare equal to a packet of the set. -/
theorem Tidy.cullAcknowledgedPacket_eq_self_iff (tidy : h.Tidy) {n : UInt16}
    (absent : ¬ h.toHistory.Stores n) : h.cullAcknowledgedPacket n = h ↔ ¬ h.LooksLikeMember n := by
  unfold PriorityHistory.cullAcknowledgedPacket LooksLikeMember slotOf
  dsimp only
  by_cases outside : h.toHistory.getPacketIndex n < 0 ∨
      h.queue.items.length ≤ (h.toHistory.getPacketIndex n).toNat
  · rw [if_pos outside]
    refine iff_of_true rfl ?_
    rintro ⟨slot, found, -⟩
    split_ifs at found with before
    rw [List.getElem?_eq_none (outside.resolve_left before)] at found
    cases found
  · rw [if_neg outside]
    rw [not_or, Nat.not_le] at outside
    obtain ⟨slot, found⟩ : ∃ slot,
        h.queue.items[(h.toHistory.getPacketIndex n).toNat]? = some slot :=
      ⟨_, List.getElem?_eq_getElem outside.2⟩
    have there : h.toHistory.packets[(h.toHistory.getPacketIndex n).toNat]? =
        some slot.toStoredPacket := by
      unfold toHistory
      dsimp only
      rw [List.getElem?_map]
      exact congrArg _ found
    have position := (Int.toNat_of_nonneg (Int.not_lt.mp outside.1)).symm
    have empty : slot.packet = none := by
      by_contra some
      obtain ⟨p, isStored⟩ := Option.ne_none_iff_exists'.mp some
      have isNumbered : slot.toStoredPacket.number = Option.some p.subflowSeq :=
        PacketHistory.number_of_packet isStored
      have same := tidy.formed.number_at position there isNumbered
      exact absent ⟨_, List.mem_of_getElem? there, same ▸ isNumbered⟩
    have notFront : (h.toHistory.getPacketIndex n).toNat ≠ 0 := by
      intro front
      rw [front, ← List.head?_eq_getElem?] at there
      have stored := tidy.formed.front _ there
      rw [empty] at stored
      cases stored
    have place := PlacedQueue.itemAt_place h.queue (h.toHistory.getPacketIndex n).toNat
    rw [found] at place
    have unchanged : h.removePacket (h.toHistory.getPacketIndex n).toNat = { h with
        paddingPriority :=
          if h.enablePaddingPrio then
            KeyedSet.erase (moreUseful h.queue) h.paddingPriority
              (h.queue.place (h.toHistory.getPacketIndex n).toNat)
          else h.paddingPriority } := by
      unfold PriorityHistory.removePacket
      dsimp only
      rw [modify_empty found empty, if_neg notFront]
    have whole : h.removePacket (h.toHistory.getPacketIndex n).toNat = h ↔
        KeyedSet.erase (moreUseful h.queue) h.paddingPriority
          (h.queue.place (h.toHistory.getPacketIndex n).toNat) = h.paddingPriority := by
      rw [unchanged]
      cases enabled : h.enablePaddingPrio with
      | false =>
          refine iff_of_true ?_ ?_
          · rw [if_neg Bool.false_ne_true, ← enabled]
          · rw [tidy.off enabled]
            rfl
      | true =>
          rw [if_pos rfl, ← enabled]
          exact ⟨congrArg PriorityHistory.paddingPriority, fun same => by rw [same]⟩
    rw [whole, KeyedSet.erase_eq_self_iff, if_neg outside.1, found]
    constructor
    · rintro apart ⟨slot', same, other, member, key⟩
      obtain rfl := Option.some.inj same
      obtain ⟨packet, found', -⟩ := tidy.ordered.points other member
      unfold keyAt at key
      rw [found'] at key
      have equal := (equivalent_iff place found').mpr (Option.some.inj key)
      rw [apart other member] at equal
      cases equal
    · intro unlike other member
      by_contra equal
      obtain ⟨packet, found', -⟩ := tidy.ordered.points other member
      have key := (equivalent_iff place found').mp ((Bool.not_eq_false _).mp equal)
      refine unlike ⟨slot, rfl, other, member, ?_⟩
      unfold keyAt
      rw [found']
      exact congrArg some key

end Removal

variable (enablePaddingPrio : Bool)

/-- A history as constructed. -/
def initial : PriorityHistory where
  enablePaddingPrio := enablePaddingPrio

theorem tidy_run (calls : List PriorityCall) :
    (calls.foldl PriorityHistory.step (initial enablePaddingPrio)).Tidy := by
  induction calls using List.reverseRecOn with
  | nil => exact .of_empty rfl rfl
  | append_singleton calls call ih =>
      rw [List.foldl_append]
      exact ih.step call

/-- **The set of padding packets.** After any calls each pointer of the set leads to a stored
packet, none is there twice, and there are at most `kMaxPaddingtHistory - 1`. An acknowledgment of a
number under which no packet is stored changes neither the queue nor the set, if and only if the
slot the number leads to, if there is one, has not the count and insertion order of a packet of the
set. -/
theorem padding_priority_after_calls (enablePaddingPrio : Bool) (calls : List PriorityCall) :
    let h := calls.foldl PriorityHistory.step (initial enablePaddingPrio)
    (∀ place ∈ h.paddingPriority, Points h.queue place) ∧
      h.paddingPriority.Nodup ∧
      h.paddingPriority.length ≤ kMaxPaddingtHistory - 1 ∧
      ∀ n, ¬ h.toHistory.Stores n →
        (h.cullAcknowledgedPackets [n] = h ↔ ¬ h.LooksLikeMember n) := by
  intro h
  have tidy : h.Tidy := tidy_run enablePaddingPrio calls
  exact ⟨tidy.ordered.points, tidy.ordered.sorted.nodup (moreUseful_self h.queue), tidy.room,
    fun n absent => tidy.cullAcknowledgedPacket_eq_self_iff absent⟩

/-- A packet, and another with a number between them left out. -/
def gapCalls : List PriorityCall :=
  [.setStorePacketsStatus true 600, .putRtpPacket 0 (some 0) { videoPacket 1 with subflowSeq := 10 },
    .putRtpPacket 0 (some 0) { videoPacket 2 with subflowSeq := 12 }]

/-- The acknowledgment of the number between them takes the first packet out of the set. -/
theorem missing_number_erases_first_packet :
    let h := gapCalls.foldl PriorityHistory.step (initial true)
    h.paddingPriority = [2, 0] ∧ ¬ h.toHistory.Stores 11 ∧
      (h.cullAcknowledgedPackets [11]).queue = h.queue ∧
      (h.cullAcknowledgedPackets [11]).paddingPriority = [2] := by
  refine ⟨by decide, ?_, by decide, by decide⟩
  rintro ⟨stored, member, isNumbered⟩
  revert stored
  decide

end PriorityHistory

end MpWebRtc
