import MpWebRtc.Rtp.BuildParse

/-!
# Setting an extension again

An extension that is in the packet already is overwritten in its place, also after the
payload is set, if the new value has the length of the old one. The layout of the packet
stays as it is.
-/

namespace MpWebRtc

open Math.Memory Math.Wire

namespace RtpPacket

variable {p : RtpPacket} {csrcs : List UInt32} {twoByte : Bool} {rest : List UInt8}
variable {before others : List (UInt8 × List UInt8)} {id : UInt8} {old value : List UInt8}

/-- The entry of an extension in the middle. -/
theorem findExtensionInfo_middle (entries : p.extensionEntries =
      entriesFrom twoByte (16 + 4 * csrcs.length) (before ++ (id, old) :: others))
    (first : id ∉ before.map Prod.fst) :
    p.findExtensionInfo id =
      some
        { id
          length := UInt8.ofNat old.length
          offset := UInt16.ofNat (16 + 4 * csrcs.length + (extensionBlock twoByte before).length +
            headerSize twoByte) } := by
  unfold RtpPacket.findExtensionInfo
  rw [entries, entriesFrom_append, List.find?_append, find_entriesFrom_eq_none first,
    Option.none_or, entriesFrom]
  exact List.find?_cons_of_pos (decide_eq_true rfl)

section Packets

variable {payload : List UInt8} {padding : Nat}

section

variable (finished : Finished p csrcs twoByte (before ++ (id, old) :: others) payload padding rest)
include finished

theorem Finished.shape :
    p.buffer = fixedHeader p (firstByte (!(before ++ (id, old) :: others).isEmpty)
      (padding != 0) csrcs.length) ++ (csrcs.flatMap wordBytes ++ (extensionArea twoByte
        (before ++ (id, old) :: others) ++ (payload ++ (paddingOf padding ++ rest)))) := by
  rw [finished.buffer, wire]
  simp only [List.append_assoc]

theorem Finished.overwrite (same : old.length = value.length) :
    ∃ p', p.write (16 + 4 * csrcs.length + (extensionBlock twoByte before).length +
        headerSize twoByte) value = some p' ∧
      Finished p' csrcs twoByte (before ++ (id, value) :: others) payload padding rest ∧
      p'.capacity = p.capacity ∧ p'.settings = p.settings := by
  have shape := @shapeOf_replace before others id old value same
  have written := write_middle finished.shape same
  refine ⟨_, written, ⟨?_, ?_, ?_, finished.payloadSize, finished.paddingSize⟩,
    (write_frame written).2, rfl⟩
  · rw [wire, ← isEmpty_of_shape shape]
    simp only [withHeader, List.append_assoc]
    rfl
  · rw [← entriesFrom_of_shape shape]
    exact finished.entries
  · rw [← length_extensionArea_of_shape shape]
    exact finished.offset

/-- Some bytes of a value are written. -/
theorem Finished.patch {skip : Nat} {new : List UInt8} (inside : skip + new.length ≤ old.length) :
    ∃ p', p.write (16 + 4 * csrcs.length + (extensionBlock twoByte before).length +
        headerSize twoByte + skip) new = some p' ∧
      Finished p' csrcs twoByte (before ++ (id, patched skip new old) :: others) payload padding
        rest ∧
      p'.capacity = p.capacity ∧ p'.settings = p.settings := by
  obtain ⟨p', written, finished', capacity, settings⟩ :=
    finished.overwrite (length_patched inside).symm
  obtain ⟨earlier, later, position, split⟩ :=
    exists_split_middle p csrcs twoByte before others id _ old.length _
  refine ⟨p', ?_, finished', capacity, settings⟩
  rw [← written]
  unfold RtpPacket.write
  rw [writeAt_patched (finished.shape.trans (split old rfl)) position inside]

end

theorem valid_replace {header : PacketHeader}
    (valid : Draft.Valid ⟨header, twoByte, before ++ (id, old) :: others⟩)
    (same : old.length = value.length) :
    Draft.Valid ⟨header, twoByte, before ++ (id, value) :: others⟩ := by
  have of_shape {q : UInt8 → Nat → Prop}
      (all : ∀ extension ∈ before ++ (id, old) :: others, q extension.1 extension.2.length) :
      ∀ extension ∈ before ++ (id, value) :: others, q extension.1 extension.2.length := by
    intro extension member
    rcases List.mem_append.mp member with member | member
    · exact all _ (List.mem_append_left _ member)
    · rcases List.mem_cons.mp member with rfl | member
      · have here := all (id, old) (List.mem_append_right _ (List.mem_cons_self ..))
        rwa [same] at here
      · exact all _ (List.mem_append_right _ (List.mem_cons_of_mem _ member))
  refine ⟨valid.typed, ?_, ?_, ?_, ?_⟩
  · exact of_shape (q := fun id length => 1 ≤ id ∧ 1 ≤ length ∧ length ≤ 255) valid.sized
  · have ids := valid.distinct
    rw [List.map_append, List.map_cons] at ids ⊢
    exact ids
  · exact fun empty => absurd empty (List.append_ne_nil_of_right_ne_nil _ (List.cons_ne_nil _ _))
  · exact fun narrow => of_shape (q := fun id length => twoByteHeaderRequired id length = false)
      (valid.small narrow)

end Packets

end RtpPacket

open RtpPacket

/-- An extension with its value replaced, if it has the id and the value has its length. -/
def overwritten (id : UInt8) (value : List UInt8) (extension : UInt8 × List UInt8) :
    UInt8 × List UInt8 :=
  if extension.1 = id ∧ extension.2.length = value.length then (id, value) else extension

/-- The draft with the value of an extension replaced, or with a further extension. -/
def Draft.set (draft : Draft) (id : UInt8) (value : List UInt8) : Draft :=
  if id ∈ draft.extensions.map Prod.fst then
    { draft with extensions := draft.extensions.map (overwritten id value) }
  else draft.extend id value

variable {id : UInt8}

theorem overwritten_of_ne {extension : UInt8 × List UInt8}
    (other : extension.1 ≠ id) (value : List UInt8) : overwritten id value extension = extension :=
  if_neg fun here => other here.1

theorem map_overwritten_of_notMem {extensions : List (UInt8 × List UInt8)}
    (absent : id ∉ extensions.map Prod.fst) (value : List UInt8) :
    extensions.map (overwritten id value) = extensions := by
  refine (List.map_congr_left fun extension member => ?_).trans (List.map_id _)
  refine overwritten_of_ne (fun same => absent ?_) value
  rw [← same]
  exact List.mem_map_of_mem member

/-- The list with the value in its middle replaced. -/
theorem map_overwritten_middle {before others : List (UInt8 × List UInt8)}
    {old value : List UInt8} (distinct : ((before ++ (id, old) :: others).map Prod.fst).Nodup)
    (same : old.length = value.length) :
    (before ++ (id, old) :: others).map (overwritten id value) =
      before ++ (id, value) :: others := by
  rw [List.map_append, List.map_cons, List.nodup_append] at distinct
  have first : id ∉ before.map Prod.fst := fun member =>
    distinct.2.2 id member id List.mem_cons_self rfl
  have later : id ∉ others.map Prod.fst := (List.nodup_cons.mp distinct.2.1).1
  have here : overwritten id value (id, old) = (id, value) := if_pos ⟨rfl, same⟩
  rw [List.map_append, List.map_cons, map_overwritten_of_notMem first,
    map_overwritten_of_notMem later, here]

end MpWebRtc
