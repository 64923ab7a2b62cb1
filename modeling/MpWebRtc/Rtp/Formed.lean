import MpWebRtc.Rtp.CheckedParsing
import MpWebRtc.Rtp.Parsing

/-!
# Packets that are built or parsed

A packet is made empty or parsed from bytes, and then changed by calls in any order. Whatever
was called, its extensions have different ids, and the values of the extensions and the payload
are in the buffer.
-/

namespace MpWebRtc

open Math.Memory

namespace RtpPacket

/-- A packet that is built or parsed. A call that writes beyond the buffer makes no packet. -/
inductive Made : RtpPacket → Prop where
  | initial {memory : List UInt8} {p : RtpPacket} (cleared : initial memory = some p) : Made p
  | parsed {before p : RtpPacket} {bytes : List UInt8}
      (accepted : parseBuffer before bytes = .ok (some p)) : Made p
  | called {p p' : RtpPacket} {call : BuildCall} (made : Made p) (inRange : call.InRange)
      (ran : p.run call = some p') : Made p'
  | sourced {p p' : RtpPacket} {csrcs : List UInt32} (made : Made p) (few : csrcs.length ≤ 15)
      (empty : p.extensionsSize = 0 ∧ p.payloadSize = 0 ∧ p.paddingSize = 0)
      (set : p.setCsrcs csrcs = some p') : Made p'
  | loaded {p p' : RtpPacket} {payload : List UInt8} (made : Made p)
      (set : p.setPayload payload = some p') : Made p'
  | padded {p p' : RtpPacket} {padding : Nat} (made : Made p)
      (set : p.setPadding padding = some p') : Made p'
  | onPath {p : RtpPacket} (made : Made p) (subflowId : UInt8) (subflowSeq : UInt16) :
      Made { p with subflowId, subflowSeq }
  | identified {p : RtpPacket} (made : Made p) (extmapAllowMixed : Bool) :
      Made { p with extmapAllowMixed }

/-- The extensions of a list have different ids, and their values are in so many bytes. -/
structure Listed (entries : List ExtensionInfo) (size : Nat) : Prop where
  distinct : (entries.map ExtensionInfo.id).Nodup
  placed : ∀ entry ∈ entries, entry.offset.toNat + entry.length.toNat ≤ size

/-- What holds of every packet. -/
structure Formed (p : RtpPacket) : Prop where
  listed : Listed p.extensionEntries p.buffer.length
  loaded : p.payloadOffset + p.payloadSize ≤ p.buffer.length
  typed : p.payloadType < 128

/-- What a call for an extension can change. -/
structure Extended (p p' : RtpPacket) : Prop where
  kept : p' = { p with
    extensionEntries := p'.extensionEntries
    extensionsSize := p'.extensionsSize
    payloadOffset := p'.payloadOffset
    buffer := p'.buffer }
  capacity : p'.capacity = p.capacity

variable {p p' p'' : RtpPacket} {offset : Nat} {values : List UInt8}

theorem Extended.refl (p : RtpPacket) : Extended p p := ⟨rfl, rfl⟩

theorem Extended.trans (first : Extended p p') (second : Extended p' p'') : Extended p p'' := by
  refine ⟨?_, second.capacity.trans first.capacity⟩
  rw [second.kept, first.kept]

theorem extended_of_write (written : p.write offset values = some p') : Extended p p' := by
  obtain ⟨frame, capacity⟩ := write_frame written
  refine ⟨?_, capacity⟩
  rw [frame]

section Writes

/-- A write, with changes of fields that say nothing about places. -/
theorem Formed.write (formed : Formed p) (written : p.write offset values = some p') :
    Formed p' := by
  obtain ⟨frame, capacity⟩ := write_frame written
  have size : p'.buffer.length = p.buffer.length := capacity
  have entries : p'.extensionEntries = p.extensionEntries := by rw [frame]
  have start : p'.payloadOffset = p.payloadOffset := by rw [frame]
  have load : p'.payloadSize = p.payloadSize := by rw [frame]
  have type : p'.payloadType = p.payloadType := by rw [frame]
  refine ⟨?_, ?_, ?_⟩
  · rw [entries, size]
    exact formed.listed
  · rw [start, load, size]
    exact formed.loaded
  · rw [type]
    exact formed.typed

theorem formed_initial {memory : List UInt8} (cleared : initial memory = some p) : Formed p := by
  have room := room_of_initial cleared
  unfold initial at cleared
  simp only [Option.bind_eq_bind] at cleared
  obtain ⟨q, first, second⟩ := Option.bind_eq_some_iff.mp cleared
  have blank : Formed { buffer := memory } := by
    refine ⟨⟨List.nodup_nil, fun _ member => absurd member List.not_mem_nil⟩, room, ?_⟩
    exact (by decide : (0 : UInt8) < 128)
  exact (blank.write first).write second

theorem Formed.setPayload (formed : Formed p) (set : p.setPayload values = some p') :
    Formed p' := by
  unfold RtpPacket.setPayload at set
  split at set
  · obtain rfl := Option.some.inj set
    exact ⟨formed.listed, (Nat.le_add_right ..).trans formed.loaded, formed.typed⟩
  · rename_i fits
    have sized : Formed { p with payloadSize := values.length } :=
      ⟨formed.listed, Nat.le_of_not_lt fits, formed.typed⟩
    exact sized.write set

theorem Formed.setPadding {padding : Nat} (formed : Formed p)
    (set : p.setPadding padding = some p') : Formed p' := by
  unfold RtpPacket.setPadding at set
  split at set
  · obtain rfl := Option.some.inj set
    exact formed
  · have sized : Formed { p with paddingSize := UInt8.ofNat padding } :=
      ⟨formed.listed, formed.loaded, formed.typed⟩
    dsimp only at set
    split at set
    · simp only [Option.bind_eq_bind] at set
      obtain ⟨zeros, first, set⟩ := Option.bind_eq_some_iff.mp set
      obtain ⟨last, second, third⟩ := Option.bind_eq_some_iff.mp set
      exact ((sized.write first).write second).write third
    · exact sized.write set

theorem Formed.setCsrcs {csrcs : List UInt32} (formed : Formed p) (empty : p.payloadSize = 0)
    (set : p.setCsrcs csrcs = some p') : Formed p' := by
  have room := room_of_setCsrcs set
  unfold RtpPacket.setCsrcs at set
  simp only [Option.bind_eq_bind] at set
  obtain ⟨q, first, second⟩ := Option.bind_eq_some_iff.mp set
  have sized : Formed { p with payloadOffset := kFixedHeaderSize + 4 * csrcs.length } := by
    refine ⟨formed.listed, ?_, formed.typed⟩
    change kFixedHeaderSize + 4 * csrcs.length + p.payloadSize ≤ _
    rw [empty]
    exact room
  exact (sized.write first).write second

end Writes

section Allocating

variable {extensionsOffset profileId length : Nat} {id : UInt8} {place : Option Nat}

/-- The payload begins behind the zeros. -/
theorem setExtensionLength_frame
    (set : p.setExtensionLengthMaybeAddZeroPadding extensionsOffset = some p') :
    p' = { p with
      payloadOffset := p'.payloadOffset
      buffer := p'.buffer } ∧
      p'.capacity = p.capacity ∧ p'.payloadOffset ≤ p.capacity := by
  unfold setExtensionLengthMaybeAddZeroPadding at set
  simp only [Option.bind_eq_bind] at set
  obtain ⟨counted, first, set⟩ := Option.bind_eq_some_iff.mp set
  obtain ⟨zeroed, second, rest⟩ := Option.bind_eq_some_iff.mp set
  obtain ⟨frame, capacity⟩ := write_frame first
  obtain ⟨frame', capacity'⟩ := write_frame second
  have room := room_of_write second
  obtain rfl := Option.some.inj rest
  refine ⟨?_, capacity'.trans capacity, ?_⟩
  · rw [frame', frame]
  · rw [List.length_replicate, capacity] at room
    change extensionsOffset + _ % 65536 ≤ p.capacity
    omega

theorem promoteEntries_listed {entries moved : List ExtensionInfo} {delta size : Nat}
    {memory result : List UInt8} (sized : memory.length = size)
    (placed : ∀ entry ∈ entries, entry.offset.toNat + entry.length.toNat ≤ size)
    (promoted : promoteEntries entries delta memory = some (moved, result)) :
    moved.map ExtensionInfo.id = entries.map ExtensionInfo.id ∧ result.length = size ∧
      ∀ entry ∈ moved, entry.offset.toNat + entry.length.toNat ≤ size := by
  induction entries generalizing delta memory moved with
  | nil =>
      obtain ⟨rfl, rfl⟩ := Prod.mk.inj (Option.some.inj promoted)
      exact ⟨rfl, sized, fun _ member => absurd member List.not_mem_nil⟩
  | cons entry entries ih =>
      rw [promoteEntries] at promoted
      simp only [Option.bind_eq_bind, Option.bind_eq_some_iff] at promoted
      obtain ⟨valued, value, sizedUp, lengthByte, named, idByte, ⟨others, final⟩, rest, promoted⟩ :=
        promoted
      obtain ⟨rfl, rfl⟩ := Prod.mk.inj (Option.some.inj promoted)
      have inside := placed entry List.mem_cons_self
      have room := le_of_writeAt value
      rw [List.length_take, List.length_drop, sized] at room
      have size' := (length_writeAt idByte).trans
        ((length_writeAt lengthByte).trans ((length_writeAt value).trans sized))
      obtain ⟨ids, kept, later⟩ := ih size'
        (fun other member => placed other (List.mem_cons_of_mem _ member)) rest
      refine ⟨?_, kept, ?_⟩
      · rw [List.map_cons, List.map_cons, ids]
      · intro other member
        rcases List.mem_cons.mp member with rfl | member
        · change (UInt16.ofNat (entry.offset.toNat + delta)).toNat + entry.length.toNat ≤ size
          rw [UInt16.toNat_ofNat']
          omega
        · exact later other member

/-- Promotion moves the values within the buffer. -/
theorem promote_formed (formed : Formed p) (empty : p.payloadSize = 0)
    (promoted : p.promoteToTwoByteHeaderExtension extensionsOffset = some p') :
    Formed p' ∧ Extended p p' ∧
      p'.extensionEntries.map ExtensionInfo.id = p.extensionEntries.map ExtensionInfo.id := by
  unfold promoteToTwoByteHeaderExtension at promoted
  simp only [Option.bind_eq_bind] at promoted
  obtain ⟨⟨moved, buffer⟩, first, promoted⟩ := Option.bind_eq_some_iff.mp promoted
  obtain ⟨profiled, second, third⟩ := Option.bind_eq_some_iff.mp promoted
  obtain ⟨ids, size, placed⟩ := promoteEntries_listed rfl
    (fun entry member => formed.listed.placed entry (List.mem_reverse.mp member)) first
  obtain ⟨frame, capacity⟩ := write_frame second
  obtain ⟨frame', capacity', start⟩ := setExtensionLength_frame third
  have buffered : profiled.buffer.length = p.buffer.length := capacity.trans size
  have sized : p'.buffer.length = p.buffer.length := capacity'.trans buffered
  have entries : p'.extensionEntries = moved.reverse := by
    rw [frame', frame]
  have names : moved.reverse.map ExtensionInfo.id = p.extensionEntries.map ExtensionInfo.id := by
    rw [List.map_reverse, ids, List.map_reverse, List.reverse_reverse]
  refine ⟨⟨⟨?_, ?_⟩, ?_, ?_⟩, ⟨?_, sized⟩, ?_⟩
  · rw [entries, names]
    exact formed.listed.distinct
  · intro entry member
    rw [entries] at member
    rw [sized]
    exact placed entry (List.mem_reverse.mp member)
  · have load : p'.payloadSize = 0 := by
      rw [frame', frame]
      exact empty
    rw [load, sized]
    exact start.trans_eq buffered
  · have type : p'.payloadType = p.payloadType := by rw [frame', frame]
    rw [type]
    exact formed.typed
  · rw [frame', frame]
  · rw [entries, names]

theorem openExtensions_frame (opened : p.openExtensions extensionsOffset profileId = some p') :
    p' = { p with buffer := p'.buffer } ∧ p'.capacity = p.capacity := by
  unfold RtpPacket.openExtensions at opened
  split at opened
  · simp only [Option.bind_eq_bind] at opened
    obtain ⟨flagged, first, second⟩ := Option.bind_eq_some_iff.mp opened
    obtain ⟨frame, capacity⟩ := write_frame first
    obtain ⟨frame', capacity'⟩ := write_frame second
    refine ⟨?_, capacity'.trans capacity⟩
    rw [frame', frame]
  · obtain rfl := Option.some.inj opened
    exact ⟨rfl, rfl⟩

variable (formed : Formed p)
include formed

/-- An extension is refused or appended within the buffer. -/
theorem append_formed (empty : p.payloadSize = 0)
    (fresh : id ∉ p.extensionEntries.map ExtensionInfo.id)
    (appended : p.appendExtension extensionsOffset profileId id length = some (p', place)) :
    Formed p' ∧ Extended p p' := by
  unfold RtpPacket.appendExtension at appended
  dsimp only at appended
  generalize (if profileId = kOneByteExtensionProfileId then 1 else 2) = headerSize at appended
  split at appended
  · obtain ⟨rfl, -⟩ := Prod.mk.inj (Option.some.inj appended)
    exact ⟨formed, .refl p⟩
  next fits =>
  simp only [Option.bind_eq_bind, Option.bind_eq_some_iff] at appended
  obtain ⟨opened, first, headed, second, sized, third, appended⟩ := appended
  obtain ⟨rfl, -⟩ := Prod.mk.inj (Option.some.inj appended)
  obtain ⟨frame, capacity⟩ := openExtensions_frame first
  obtain ⟨frame', capacity'⟩ := write_frame second
  obtain ⟨frame'', capacity'', start⟩ := setExtensionLength_frame third
  have kept : headed.capacity = p.capacity := capacity'.trans capacity
  have size : sized.buffer.length = p.buffer.length := capacity''.trans kept
  have entries : sized.extensionEntries = p.extensionEntries ++
      [{ id
         length := UInt8.ofNat length
         offset := UInt16.ofNat (extensionsOffset + p.extensionsSize + headerSize) }] := by
    rw [frame'', frame', frame]
    rfl
  refine ⟨⟨⟨?_, ?_⟩, ?_, ?_⟩, ?_, size⟩
  · rw [entries, List.map_append, List.map_singleton, List.nodup_append]
    refine ⟨formed.listed.distinct, List.pairwise_singleton _ _, ?_⟩
    rintro first member second last rfl
    obtain rfl := List.mem_singleton.mp last
    exact fresh member
  · intro entry member
    rw [entries] at member
    rw [size]
    rcases List.mem_append.mp member with member | member
    · exact formed.listed.placed entry member
    · obtain rfl := List.mem_singleton.mp member
      have whole : extensionsOffset + (p.extensionsSize + headerSize + length) ≤ p.buffer.length :=
        Nat.le_of_not_lt fits
      rw [UInt16.toNat_ofNat', UInt8.toNat_ofNat']
      have near := Nat.mod_le (extensionsOffset + p.extensionsSize + headerSize) (2 ^ 16)
      have short := Nat.mod_le length (2 ^ 8)
      omega
  · have load : sized.payloadSize = 0 := by
      rw [frame'', frame', frame]
      exact empty
    rw [load, size]
    exact start.trans_eq kept
  · have type : sized.payloadType = p.payloadType := by
      rw [frame'', frame', frame]
      rfl
    rw [type]
    exact formed.typed
  · rw [frame'', frame', frame]
    rfl

theorem allocate_formed (allocated : p.allocateRawExtension id length = some (p', place)) :
    Formed p' ∧ Extended p p' := by
  unfold allocateRawExtension at allocated
  cases found : p.findExtensionInfo id with
  | some entry =>
      rw [found] at allocated
      obtain ⟨rfl, -⟩ := Prod.mk.inj (Option.some.inj allocated)
      exact ⟨formed, .refl p⟩
  | none =>
      rw [found] at allocated
      have fresh : id ∉ p.extensionEntries.map ExtensionInfo.id := by
        intro member
        obtain ⟨entry, listed, same⟩ := List.mem_map.mp member
        exact List.find?_eq_none.mp found entry listed (decide_eq_true same)
      dsimp only at allocated
      split at allocated
      · obtain ⟨rfl, -⟩ := Prod.mk.inj (Option.some.inj allocated)
        exact ⟨formed, .refl p⟩
      next open' =>
      have empty : p.payloadSize = 0 := by omega
      split at allocated
      · cases allocated
      split at allocated
      · split at allocated
        · split at allocated
          · obtain ⟨rfl, -⟩ := Prod.mk.inj (Option.some.inj allocated)
            exact ⟨formed, .refl p⟩
          · simp only [Option.bind_eq_bind] at allocated
            obtain ⟨wide, promoted, appended⟩ := Option.bind_eq_some_iff.mp allocated
            obtain ⟨formed', extended, ids⟩ := promote_formed formed empty promoted
            have empty' : wide.payloadSize = 0 := by
              rw [extended.kept]
              exact empty
            obtain ⟨formed'', further⟩ := append_formed formed' empty' (ids ▸ fresh) appended
            exact ⟨formed'', extended.trans further⟩
        · exact append_formed formed empty fresh allocated
      · exact append_formed formed empty fresh allocated

theorem setRawExtension_formed (set : p.setRawExtension id values = some p') : Formed p' := by
  unfold RtpPacket.setRawExtension at set
  rw [Option.bind_eq_bind] at set
  obtain ⟨⟨q, place⟩, allocated, written⟩ := Option.bind_eq_some_iff.mp set
  obtain ⟨formed', -⟩ := allocate_formed formed allocated
  cases place with
  | none =>
      obtain rfl := Option.some.inj written
      exact formed'
  | some offset => exact formed'.write written

/-- Every call keeps a packet in form. -/
theorem Formed.run {call : BuildCall} (inRange : call.InRange)
    (ran : p.run call = some p') : Formed p' := by
  cases call with
  | setPayloadType payloadType =>
      have typed : Formed { p with payloadType } := ⟨formed.listed, formed.loaded, inRange⟩
      exact typed.write ran
  | setRawExtension id value => exact setRawExtension_formed formed ran
  | setMarker marker =>
      have marked : Formed { p with marker } := ⟨formed.listed, formed.loaded, formed.typed⟩
      exact marked.write ran
  | setSequenceNumber sequenceNumber =>
      have numbered : Formed { p with sequenceNumber } :=
        ⟨formed.listed, formed.loaded, formed.typed⟩
      exact numbered.write ran
  | setTimestamp timestamp =>
      have timed : Formed { p with timestamp } := ⟨formed.listed, formed.loaded, formed.typed⟩
      exact timed.write ran
  | setSsrc ssrc =>
      have sourced : Formed { p with ssrc } := ⟨formed.listed, formed.loaded, formed.typed⟩
      exact sourced.write ran

end Allocating

section Parsing

variable {bytes : List UInt8} {layout : ExtensionLayout} {found : FoundExtensions}
  {entries : List ExtensionInfo} {id : UInt8} {size : Nat}

theorem mem_changeExtensionInfo {change : ExtensionInfo → ExtensionInfo} {entry : ExtensionInfo}
    (member : entry ∈ changeExtensionInfo entries id change) :
    entry ∈ entries ∨ ∃ old, (old ∈ entries ∨ old = { id }) ∧ entry = change old := by
  induction entries with
  | nil => exact .inr ⟨{ id }, .inr rfl, List.mem_singleton.mp member⟩
  | cons first entries ih =>
      rw [changeExtensionInfo] at member
      split at member
      · rcases List.mem_cons.mp member with rfl | later
        · exact .inr ⟨first, .inl List.mem_cons_self, rfl⟩
        · exact .inl (List.mem_cons_of_mem _ later)
      · rcases List.mem_cons.mp member with rfl | later
        · exact .inl List.mem_cons_self
        · rcases ih later with there | ⟨old, listed | new, same⟩
          · exact .inl (List.mem_cons_of_mem _ there)
          · exact .inr ⟨old, .inl (List.mem_cons_of_mem _ listed), same⟩
          · exact .inr ⟨old, .inr new, same⟩

/-- An id is listed once. -/
theorem ids_changeExtensionInfo {change : ExtensionInfo → ExtensionInfo}
    (keeps : ∀ entry, (change entry).id = entry.id)
    (distinct : (entries.map ExtensionInfo.id).Nodup) :
    ((changeExtensionInfo entries id change).map ExtensionInfo.id).Nodup := by
  by_cases listed : id ∈ entries.map ExtensionInfo.id
  · have same : (changeExtensionInfo entries id change).map ExtensionInfo.id =
        entries.map ExtensionInfo.id := by
      clear distinct
      induction entries with
      | nil => exact absurd listed List.not_mem_nil
      | cons first entries ih =>
          rw [changeExtensionInfo]
          split
          · rw [List.map_cons, List.map_cons, keeps]
          · rename_i other
            rw [List.map_cons, List.map_cons,
              ih ((List.mem_cons.mp listed).resolve_left (Ne.symm other))]
    rw [same]
    exact distinct
  · rw [changeExtensionInfo_of_fresh listed, List.map_append, List.map_singleton, keeps,
      List.nodup_append]
    refine ⟨distinct, List.pairwise_singleton _ _, ?_⟩
    rintro first member second last rfl
    obtain rfl := List.mem_singleton.mp last
    exact listed member

theorem Listed.change {change : ExtensionInfo → ExtensionInfo} (listed : Listed entries size)
    (keeps : ∀ entry, (change entry).id = entry.id)
    (placed : ∀ entry : ExtensionInfo, (entry ∈ entries ∨ entry = { id }) →
      (change entry).offset.toNat + (change entry).length.toNat ≤ size) :
    Listed (changeExtensionInfo entries id change) size := by
  refine ⟨ids_changeExtensionInfo keeps listed.distinct, fun entry member => ?_⟩
  rcases mem_changeExtensionInfo member with there | ⟨old, listed, rfl⟩
  · exact listed.placed entry there
  · exact placed old listed

theorem Listed.record {element : ExtensionElement} (fits : Fits layout element)
    (inside : layout.offset + layout.capacity ≤ size)
    (listed : Listed found.extensionEntries size) :
    Listed (record bytes layout found element).extensionEntries size := by
  refine Listed.change listed (fun _ => rfl) fun entry _ => ?_
  have near := fits.near
  have ended := fits.ended
  dsimp only
  rw [UInt16.toNat_ofNat']
  omega

theorem parseExtensionsChecked_listed {fuel : Nat} {after : FoundExtensions}
    (inside : layout.offset + layout.capacity ≤ bytes.length)
    (listed : Listed found.extensionEntries bytes.length)
    (read : parseExtensionsChecked bytes layout.offset layout.capacity layout.oneByte fuel found =
      .ok after) : Listed after.extensionEntries bytes.length := by
  have header : (if layout.oneByte = true then 1 else 2) = layout.headerLength := rfl
  induction fuel generalizing found with
  | zero =>
      rw [parseExtensionsChecked, header] at read
      split at read
      · cases read
      · obtain rfl := Except.ok.inj read
        exact listed
  | succ fuel ih =>
      rw [parseExtensionsChecked, header] at read
      by_cases more : found.extensionsSize + layout.headerLength < layout.capacity
      · have round := parseExtensionChecked_eq more inside
        rw [if_pos more] at read
        by_cases zero : byteAt bytes (layout.offset + found.extensionsSize) = 0
        · rw [if_pos zero] at round
          rw [round] at read
          exact @ih { found with extensionsSize := found.extensionsSize + 1 } listed read
        · rw [if_neg zero] at round
          cases element : elementAt bytes layout found.extensionsSize with
          | none =>
              rw [element] at round
              obtain ⟨entries, stopped, same⟩ := round
              rw [stopped] at read
              obtain rfl := Except.ok.inj read
              rcases same with rfl | ⟨other, rfl⟩
              · exact listed
              · refine listed.change (fun _ => rfl) fun entry known => ?_
                rcases known with there | rfl
                · exact listed.placed entry there
                · exact Nat.zero_le _
          | some element' =>
              rw [element] at round
              obtain ⟨-, overread, within⟩ := round
              by_cases beyond : Overreads bytes layout element'
              · rw [overread beyond] at read
                cases read
              · rw [within beyond] at read
                exact ih (listed.record (fits_of_elementAt more element).2 inside) read
      · rw [if_neg more] at read
        obtain rfl := Except.ok.inj read
        exact listed

theorem formed_of_parsePayload {before : RtpPacket} {payloadOffset : Nat}
    (listed : Listed found.extensionEntries bytes.length)
    (parsed : ((before.withHeading bytes).withFound found payloadOffset).parsePayload = some p) :
    Formed p := by
  unfold parsePayload at parsed
  split at parsed
  · cases parsed
  next fits =>
  obtain rfl := Option.some.inj parsed
  refine ⟨listed, ?_, ?_⟩
  · have whole : payloadOffset + ((before.withHeading bytes).withFound found
        payloadOffset).paddingSize.toNat ≤ bytes.length := Nat.le_of_not_lt fits
    change payloadOffset + (bytes.length - payloadOffset - _) ≤ bytes.length
    omega
  · change byteAt bytes 1 &&& 0x7F < 128
    rw [UInt8.lt_iff_toNat_lt, UInt8.toNat_and]
    exact Nat.lt_succ_of_le Nat.and_le_right

theorem formed_parsed {before : RtpPacket} (accepted : parseBuffer before bytes = .ok (some p)) :
    Formed p := by
  have nothing : Listed before.keptPath.extensionEntries bytes.length :=
    ⟨List.nodup_nil, fun _ member => absurd member List.not_mem_nil⟩
  rcases parseBuffer_cases before bytes with
    ⟨-, refused | ⟨payloadOffset, read⟩⟩ | ⟨layout, -, inside, read⟩
  · cases refused.symm.trans accepted
  · exact formed_of_parsePayload nothing (Except.ok.inj (read.symm.trans accepted))
  · rw [read] at accepted
    cases loop : parseExtensionsChecked bytes layout.offset layout.capacity layout.oneByte
        layout.capacity before.keptPath with
    | error fault =>
        rw [loop] at accepted
        cases accepted
    | ok after =>
        rw [loop] at accepted
        exact formed_of_parsePayload (parseExtensionsChecked_listed inside nothing loop)
          (Except.ok.inj accepted)

end Parsing

/-- A packet is in form, whatever was called. -/
theorem Made.formed (made : Made p) : Formed p := by
  induction made with
  | initial cleared => exact formed_initial cleared
  | parsed accepted => exact formed_parsed accepted
  | called _ inRange ran ih => exact ih.run inRange ran
  | sourced _ _ empty set ih => exact ih.setCsrcs empty.2.1 set
  | loaded _ set ih => exact ih.setPayload set
  | padded _ set ih => exact ih.setPadding set
  | onPath _ _ _ ih => exact ⟨ih.listed, ih.loaded, ih.typed⟩
  | identified _ _ ih => exact ⟨ih.listed, ih.loaded, ih.typed⟩

section Usual

variable {memory payload : List UInt8} {csrcs : List UInt32} {calls : List BuildCall}
  {padding : Nat}

theorem Made.runs (made : Made p) (inRange : ∀ call ∈ calls, call.InRange)
    (ran : calls.foldlM run p = some p') : Made p' := by
  induction calls generalizing p with
  | nil =>
      obtain rfl := Option.some.inj ran
      exact made
  | cons call calls ih =>
      rw [List.foldlM_cons, Option.bind_eq_bind] at ran
      obtain ⟨next, first, ran⟩ := Option.bind_eq_some_iff.mp ran
      exact ih (made.called (inRange call List.mem_cons_self) first)
        (fun other member => inRange other (List.mem_cons_of_mem _ member)) ran

/-- Packets that are built in the usual order. -/
theorem made_of_build (few : csrcs.length ≤ 15) (inRange : ∀ call ∈ calls, call.InRange)
    (built : build memory csrcs calls payload padding = some p) : Made p := by
  unfold build buildHeaders at built
  simp only [Option.bind_eq_bind, Option.bind_assoc, Option.bind_eq_some_iff] at built
  obtain ⟨empty, cleared, sourced, set, headed, ran, full, loaded, padded⟩ := built
  have bare : empty.extensionsSize = 0 ∧ empty.payloadSize = 0 ∧ empty.paddingSize = 0 := by
    unfold RtpPacket.initial at cleared
    simp only [Option.bind_eq_bind] at cleared
    obtain ⟨zeroed, first, second⟩ := Option.bind_eq_some_iff.mp cleared
    rw [(write_frame second).1, (write_frame first).1]
    exact ⟨rfl, rfl, rfl⟩
  have begun : Made sourced := .sourced (.initial cleared) few bare set
  exact .padded (.loaded (begun.runs inRange ran) loaded) padded

end Usual

end RtpPacket

end MpWebRtc
