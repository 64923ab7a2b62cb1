import MpWebRtc.Rtp.BuildParse
import MpWebRtc.Rtp.Formed
import MpWebRtc.Rtp.PathFields

/-!
# Removing an extension

`RemoveExtension` builds the packet again, in a buffer of the default size, and leaves one
extension out. The new packet has the header fields, the other extensions, the payload and the
padding, as far as they fit. It does not have the contributing sources, nor the path and its
number, and a padding that does not fit is left out without notice.
-/

namespace MpWebRtc

open Math.Memory

def kDefaultPacketSize : Nat := 1500

namespace Draft

open RtpPacket

variable {start capacity : Nat} {draft : Draft} {extensions : List (UInt8 × List UInt8)}

/-- A draft with all of some extensions. -/
def extendAll (draft : Draft) (extensions : List (UInt8 × List UInt8)) : Draft :=
  extensions.foldl (fun draft extension => draft.extend extension.1 extension.2) draft

/-- A draft with those of some extensions that fit. -/
def offer (start capacity : Nat) (draft : Draft) (extensions : List (UInt8 × List UInt8)) : Draft :=
  extensions.foldl (fun draft extension =>
    draft.apply start capacity (.setRawExtension extension.1 extension.2)) draft

theorem extendAll_header (draft : Draft) (extensions : List (UInt8 × List UInt8)) :
    (extendAll draft extensions).header = draft.header := by
  induction extensions generalizing draft with
  | nil => rfl
  | cons extension extensions ih => exact ih _

theorem extendAll_extensions (draft : Draft) (extensions : List (UInt8 × List UInt8)) :
    (extendAll draft extensions).extensions = draft.extensions ++ extensions := by
  induction extensions generalizing draft with
  | nil => exact (List.append_nil _).symm
  | cons extension extensions ih =>
      refine (ih _).trans ?_
      exact List.append_assoc _ [extension] extensions

theorem extendAll_twoByte (draft : Draft) (extensions : List (UInt8 × List UInt8)) :
    (extendAll draft extensions).twoByte = (draft.twoByte || extensions.any fun extension =>
      twoByteHeaderRequired extension.1 extension.2.length) := by
  induction extensions generalizing draft with
  | nil => exact (Bool.or_false _).symm
  | cons extension extensions ih =>
      refine (ih _).trans ?_
      rw [List.any_cons, ← Bool.or_assoc]
      rfl

theorem blockSize_le_extendAll (draft : Draft) (extensions : List (UInt8 × List UInt8)) :
    draft.blockSize ≤ (extendAll draft extensions).blockSize := by
  induction extensions generalizing draft with
  | nil => exact Nat.le_refl _
  | cons extension extensions ih =>
      exact (draft.blockSize_lt_extend extension.1 extension.2).le.trans (ih _)

/-- Extensions that fit together are all taken. -/
theorem offer_eq_extendAll (fits : start + (extendAll draft extensions).blockSize ≤ capacity) :
    offer start capacity draft extensions = extendAll draft extensions := by
  induction extensions generalizing draft with
  | nil => rfl
  | cons extension extensions ih =>
      have first : start + (draft.extend extension.1 extension.2).blockSize ≤ capacity :=
        (Nat.add_le_add_left (blockSize_le_extendAll _ extensions) start).trans fits
      have taken : draft.apply start capacity (.setRawExtension extension.1 extension.2) =
          draft.extend extension.1 extension.2 := if_pos first
      unfold offer at ih ⊢
      rw [List.foldl_cons, taken]
      exact ih fits

theorem length_offer_le (start capacity : Nat) (draft : Draft)
    (extensions : List (UInt8 × List UInt8)) :
    (offer start capacity draft extensions).extensions.length ≤
      draft.extensions.length + extensions.length := by
  induction extensions generalizing draft with
  | nil => exact Nat.le_refl _
  | cons extension extensions ih =>
      have step : (draft.apply start capacity
          (.setRawExtension extension.1 extension.2)).extensions.length ≤
            draft.extensions.length + 1 := by
        unfold apply
        dsimp only
        split
        · exact (List.length_append ..).le
        · exact Nat.le_succ _
      have rest := ih (draft.apply start capacity (.setRawExtension extension.1 extension.2))
      rw [List.length_cons]
      change (offer start capacity (draft.apply start capacity
        (.setRawExtension extension.1 extension.2)) extensions).extensions.length ≤ _
      omega

/-- Extensions that are all taken fit together. -/
theorem fits_of_length_offer (first : start + draft.blockSize ≤ capacity)
    (all : draft.extensions.length + extensions.length ≤
      (offer start capacity draft extensions).extensions.length) :
    start + (extendAll draft extensions).blockSize ≤ capacity := by
  induction extensions generalizing draft with
  | nil => exact first
  | cons extension extensions ih =>
      by_cases fits : start + (draft.extend extension.1 extension.2).blockSize ≤ capacity
      · have taken : draft.apply start capacity (.setRawExtension extension.1 extension.2) =
            draft.extend extension.1 extension.2 := if_pos fits
        unfold offer at all ih
        rw [List.foldl_cons, taken] at all
        refine ih fits ?_
        refine le_trans ?_ all
        change (draft.extensions ++ [extension]).length + extensions.length ≤ _
        rw [List.length_append, List.length_singleton, List.length_cons]
        omega
      · have refused : draft.apply start capacity (.setRawExtension extension.1 extension.2) =
            draft := if_neg fits
        unfold offer at all
        rw [List.foldl_cons, refused, List.length_cons] at all
        have most := length_offer_le start capacity draft extensions
        unfold offer at most
        omega

/-- What holds of a draft of the new packet. -/
structure Copied (draft : Draft) : Prop where
  opened : draft.extensions = [] → draft.twoByte = false
  short : ∀ extension ∈ draft.extensions, extension.2.length < 256

theorem Copied.extend {id : UInt8} {value : List UInt8} (copied : Copied draft)
    (short : value.length < 256) : Copied (draft.extend id value) := by
  refine ⟨fun empty => absurd empty (draft.extend_ne_nil id value), fun extension member => ?_⟩
  rcases List.mem_append.mp member with member | member
  · exact copied.short extension member
  · rw [List.mem_singleton.mp member]
    exact short

end Draft

namespace RtpPacket

section Removal

variable (p : RtpPacket)

/-- The value of an extension of the packet. -/
def entryValue (entry : ExtensionInfo) : List UInt8 :=
  (p.buffer.drop entry.offset.toNat).take entry.length.toNat

/-- The new packet before its extensions, in memory with any content. -/
def copyHeading (memory : List UInt8) : Option RtpPacket := do
  let newPacket ← initial memory
  let newPacket ← newPacket.setMarker p.marker
  let newPacket ← newPacket.setPayloadType p.payloadType
  let newPacket ← newPacket.setSequenceNumber p.sequenceNumber
  let newPacket ← newPacket.setTimestamp p.timestamp
  let newPacket ← newPacket.setSsrc p.ssrc
  some { newPacket with extmapAllowMixed := p.extmapAllowMixed }

/-- The loop over the extensions, with the packet and whether the one to remove was found. It is
left with `some none` if another one cannot be allocated. A place of no bytes is like none. -/
def copyOthers (idToRemove : UInt8) : List ExtensionInfo → (newPacket : RtpPacket) →
    (foundExtension : Bool) → Option (Option (RtpPacket × Bool))
  | [], newPacket, foundExtension => some (some (newPacket, foundExtension))
  | entry :: entries, newPacket, foundExtension =>
      if entry.id = idToRemove then copyOthers idToRemove entries newPacket true
      else
        match newPacket.allocateRawExtension entry.id entry.length.toNat with
        | none => none
        | some (newPacket, none) =>
            if entry.length ≠ 0 then some none
            else copyOthers idToRemove entries newPacket foundExtension
        | some (newPacket, some offset) =>
            match newPacket.write offset (entryValue p entry) with
            | none => none
            | some newPacket => copyOthers idToRemove entries newPacket foundExtension

/-- The payload and the padding of the new packet. The payload is copied to the place that
`AllocatePayload` gives, which is null if it does not fit. -/
def copyBody (newPacket : RtpPacket) : Option RtpPacket :=
  if newPacket.payloadOffset + p.payloadSize > newPacket.capacity ∧ 0 < p.payloadSize then none
  else (newPacket.setPayload p.payload).bind fun newPacket =>
    newPacket.setPadding p.paddingSize.toNat

/-- `RemoveExtension`, with the object that it leaves. The memory is that of the new packet. -/
def removeExtension (memory : List UInt8) (extensions : RtpHeaderExtensionMap)
    (type : RtpExtensionType) : Option (RtpPacket × Bool) :=
  let idToRemove := extensions.ids type
  if idToRemove = kInvalidId then some (p, false)
  else
    match (p.copyHeading memory).bind fun newPacket =>
        copyOthers p idToRemove p.extensionEntries newPacket false with
    | none => none
    | some none => some (p, false)
    | some (some (_, false)) => some (p, false)
    | some (some (newPacket, true)) => (p.copyBody newPacket).map fun newPacket => (newPacket, true)

end Removal

section Law

variable (p : RtpPacket) (id : UInt8)

/-- The extensions that are to stay. -/
def otherExtensions : List (UInt8 × List UInt8) :=
  p.extensionValues.filter fun extension => decide (extension.1 ≠ id)

/-- The extensions that are to stay need headers of two bytes. -/
def othersWide : Bool :=
  (p.otherExtensions id).any fun extension => twoByteHeaderRequired extension.1 extension.2.length

/-- One extension is gone, and all else is as before. -/
structure SameWithout (p' : RtpPacket) : Prop where
  content : p'.content = { p.content with extensions := p.otherExtensions id }
  path : p'.subflowId = p.subflowId ∧ p'.subflowSeq = p.subflowSeq

/-- There is nothing that a new packet of the default size would not have. -/
structure Rebuildable : Prop where
  noCsrcs : p.csrcs = []
  noPath : p.subflowId = 0 ∧ p.subflowSeq = 0
  others : 16 + (extensionBlock (p.othersWide id) (p.otherExtensions id)).length ≤
    kDefaultPacketSize
  padding : p.paddingSize = 0 ∨
    12 + (extensionArea (p.othersWide id) (p.otherExtensions id)).length + p.payloadSize +
      p.paddingSize.toNat ≤ kDefaultPacketSize

end Law

section Rebuilding

variable {p newPacket newPacket' : RtpPacket} {draft : Draft} {rest : List UInt8}
  {memory : List UInt8} {id : UInt8}

/-- The new packet is on no path. -/
theorem copyHeading_path (copied : p.copyHeading memory = some newPacket) :
    newPacket.subflowId = 0 ∧ newPacket.subflowSeq = 0 := by
  unfold copyHeading initial at copied
  simp only [Option.bind_eq_bind, Option.bind_assoc, Option.bind_eq_some_iff] at copied
  obtain ⟨p₀, zeros, p₁, version, p₂, marker, p₃, type, p₄, number, p₅, time, p₆, source, copied⟩ :=
    copied
  obtain rfl := Option.some.inj copied
  rw [(write_frame source).1, (write_frame time).1, (write_frame number).1, (write_frame type).1,
    (write_frame marker).1, (write_frame version).1, (write_frame zeros).1]
  exact ⟨rfl, rfl⟩

/-- The header that is rebuilt. -/
theorem copyHeading_follows (sized : memory.length = kDefaultPacketSize)
    (typed : p.payloadType < 128) :
    ∃ newPacket rest, p.copyHeading memory = some newPacket ∧
      Follows newPacket { header := p.header } [] rest ∧
      newPacket.capacity = kDefaultPacketSize := by
  have room : kFixedHeaderSize ≤ memory.length := by
    rw [sized]
    decide
  obtain ⟨empty, rest, cleared, built, capacity, settings⟩ := built_initial room
  have initial : empty.header = {} := congrArg Prod.snd settings
  have follows : Follows empty {} [] rest := ⟨built, initial⟩
  let calls : List BuildCall :=
    [.setMarker p.marker, .setPayloadType p.payloadType, .setSequenceNumber p.sequenceNumber,
      .setTimestamp p.timestamp, .setSsrc p.ssrc]
  have inRange : ∀ call ∈ calls, call.InRange := by
    simp [calls, BuildCall.InRange, typed]
  have allowed : ∀ call ∈ calls, call.Allowed empty.extmapAllowMixed := by
    simp [calls, BuildCall.Allowed]
  have limited : empty.capacity ≤ 65535 := by
    rw [capacity, sized]
    decide
  obtain ⟨full, rest', ran, copied, kept, -⟩ :=
    (follows.runs valid_empty limited inRange allowed List.nodup_nil rfl).1 (.inl rfl)
  have built' := copied.built
  refine ⟨{ full with extmapAllowMixed := p.extmapAllowMixed }, rest', ?_,
    ⟨⟨built'.buffer, built'.entries, built'.size, built'.offset, built'.noPayload,
      built'.noPadding, built'.few, built'.typed⟩, copied.header⟩, ?_⟩
  · simp only [calls, List.foldlM_cons, List.foldlM_nil, Option.bind_eq_bind, RtpPacket.run] at ran
    unfold copyHeading
    simp only [Option.bind_eq_bind]
    rw [cleared, Option.bind_some]
    simp only [Option.bind_eq_some_iff] at ran
    obtain ⟨p₁, marker, p₂, type, p₃, number, p₄, time, p₅, source, ran⟩ := ran
    obtain rfl := Option.some.inj ran
    rw [marker, Option.bind_some, type, Option.bind_some, number, Option.bind_some, time,
      Option.bind_some, source, Option.bind_some]
  · exact kept.trans (capacity.trans sized)

/-- Without leave for headers of two bytes, an extension that needs them is checked in vain. -/
theorem Built.allocate_eq_none {csrcs : List UInt32} {twoByte : Bool}
    {extensions : List (UInt8 × List UInt8)} {length : Nat}
    (built : Built p csrcs twoByte extensions rest) (fresh : id ∉ extensions.map Prod.fst)
    (refused : twoByteHeaderRequired id length ∧ ¬p.extmapAllowMixed) :
    p.allocateRawExtension id length = none := by
  have none : ¬(0 < p.payloadSize ∨ 0 < p.paddingSize.toNat) := by
    rw [built.noPayload, built.noPadding]
    decide
  unfold allocateRawExtension
  dsimp only
  rw [built.findExtensionInfo fresh, if_neg none, if_pos refused]

/-- What comes of the allocation of a place in the new packet, with its value. In a buffer of the
default size the zeros fit if the extension does. -/
theorem Follows.copy {value : List UInt8} (follows : Follows newPacket draft [] rest)
    (copied : draft.Copied) (sized : newPacket.capacity = kDefaultPacketSize)
    (fresh : id ∉ draft.extensions.map Prod.fst) :
    newPacket.allocateRawExtension id value.length = none ∨
    (draft.apply 16 kDefaultPacketSize (.setRawExtension id value) = draft ∧
      newPacket.allocateRawExtension id value.length = some (newPacket, none)) ∨
    (draft.apply 16 kDefaultPacketSize (.setRawExtension id value) = draft.extend id value ∧
      ∃ middle offset newPacket' rest',
        newPacket.allocateRawExtension id value.length = some (middle, some offset) ∧
        middle.write offset value = some newPacket' ∧
        Follows newPacket' (draft.extend id value) [] rest') := by
  by_cases refused : twoByteHeaderRequired id value.length ∧ ¬newPacket.extmapAllowMixed
  · exact .inl (follows.built.allocate_eq_none fresh refused)
  right
  have allowed : twoByteHeaderRequired id value.length = true →
      newPacket.extmapAllowMixed = true := fun required => by
    by_contra barred
    exact refused ⟨required, barred⟩
  have limited : newPacket.capacity ≤ 65535 := by
    rw [sized]
    decide
  have words : newPacket.capacity % 4 = 0 := by
    rw [sized]
    decide
  have outcome : AllocatedAs newPacket [] (draft.extend id value).twoByte draft.extensions id
      value.length (newPacket.allocateRawExtension id value.length) :=
    follows.built.allocated copied.opened limited copied.short fresh (.inr words) allowed
  have size := draft.blockSize_extend id value
  unfold AllocatedAs at outcome
  rw [sized, List.length_nil, Nat.mul_zero, Nat.add_zero, ← size] at outcome
  by_cases fits : 16 + (draft.extend id value).blockSize ≤ kDefaultPacketSize
  · right
    have padded : 16 + 4 * wordsOf (draft.extend id value).blockSize ≤ kDefaultPacketSize := by
      unfold kDefaultPacketSize wordsOf at *
      omega
    rw [if_neg (Nat.not_lt.mpr fits), if_pos padded] at outcome
    obtain ⟨middle, old, rest', same, placed, listed, capacity, settings⟩ := outcome
    obtain ⟨newPacket', written, valued, kept, again⟩ := listed.overwrite same
    have header : newPacket'.header = newPacket.header :=
      (congrArg Prod.snd again).trans (congrArg Prod.snd settings)
    exact ⟨if_pos fits, middle, _, newPacket', rest', placed, written, valued,
      header.trans follows.header⟩
  · left
    rw [if_pos (Nat.lt_of_not_le fits)] at outcome
    exact ⟨if_neg fits, outcome⟩

/-- The extensions of some entries that are to stay. -/
def othersOf (p : RtpPacket) (id : UInt8) (entries : List ExtensionInfo) :
    List (UInt8 × List UInt8) :=
  (entries.map fun entry => (entry.id, p.entryValue entry)).filter fun extension =>
    decide (extension.1 ≠ id)

/-- The loop offers the other extensions one by one to the new packet. -/
theorem copyOthers_follows {entries : List ExtensionInfo} {found found' : Bool}
    (placed : ∀ entry ∈ entries,
      entry.offset.toNat + entry.length.toNat ≤ p.buffer.length)
    (distinct : (draft.extensions.map Prod.fst ++ entries.map ExtensionInfo.id).Nodup)
    (follows : Follows newPacket draft [] rest) (formed : Formed newPacket)
    (copied : draft.Copied) (sized : newPacket.capacity = kDefaultPacketSize)
    (done : copyOthers p id entries newPacket found = some (some (newPacket', found'))) :
    ∃ rest', Follows newPacket' (draft.offer 16 kDefaultPacketSize (othersOf p id entries)) []
        rest' ∧
      (draft.offer 16 kDefaultPacketSize (othersOf p id entries)).Copied ∧
      Extended newPacket newPacket' := by
  induction entries generalizing newPacket draft rest found with
  | nil =>
      obtain ⟨rfl, -⟩ := Prod.mk.inj (Option.some.inj (Option.some.inj done))
      exact ⟨rest, follows, copied, .refl _⟩
  | cons entry entries ih =>
      have placed' : ∀ other ∈ entries, other.offset.toNat + other.length.toNat ≤
          p.buffer.length := fun other member => placed other (List.mem_cons_of_mem _ member)
      rw [List.map_cons] at distinct
      have fewer := distinct.sublist
        (List.Sublist.append_left (List.sublist_cons_self entry.id _) _)
      have fresh : entry.id ∉ draft.extensions.map Prod.fst := fun member =>
        (List.nodup_append.mp distinct).2.2 _ member _ List.mem_cons_self rfl
      rw [copyOthers] at done
      by_cases removed : entry.id = id
      · have others : othersOf p id (entry :: entries) = othersOf p id entries := by
          unfold othersOf
          rw [List.map_cons, List.filter_cons_of_neg (by simpa using removed)]
        rw [if_pos removed] at done
        rw [others]
        exact ih placed' fewer follows formed copied sized done
      · have others : othersOf p id (entry :: entries) =
            (entry.id, p.entryValue entry) :: othersOf p id entries := by
          unfold othersOf
          rw [List.map_cons, List.filter_cons_of_pos (by simpa using removed)]
        have size : (p.entryValue entry).length = entry.length.toNat := by
          have inside := placed entry List.mem_cons_self
          unfold entryValue
          rw [List.length_take, List.length_drop]
          omega
        rw [if_neg removed, ← size] at done
        rw [others]
        unfold Draft.offer at ih ⊢
        rw [List.foldl_cons]
        rcases @Follows.copy _ _ _ entry.id (p.entryValue entry) follows copied sized fresh with
          crashed | ⟨same, refused⟩ | ⟨more, middle, offset, next, rest', place, written, follows'⟩
        · rw [crashed] at done
          cases done
        · rw [refused] at done
          dsimp only at done
          split at done
          · cases done
          · rw [same]
            exact ih placed' fewer follows formed copied sized done
        · rw [place] at done
          dsimp only at done
          rw [written] at done
          dsimp only at done
          rw [more]
          obtain ⟨formed', extended⟩ := allocate_formed formed place
          have extended' := extended.trans (extended_of_write written)
          have distinct' : ((draft.extend entry.id (p.entryValue entry)).extensions.map Prod.fst ++
              entries.map ExtensionInfo.id).Nodup := by
            change ((draft.extensions ++ [(entry.id, p.entryValue entry)]).map Prod.fst ++
              entries.map ExtensionInfo.id).Nodup
            rw [List.map_append, List.append_assoc]
            exact distinct
          have short : (p.entryValue entry).length < 256 := by
            rw [size]
            exact entry.length.toNat_lt
          obtain ⟨rest'', last, copied', further⟩ := ih placed' distinct' follows'
            (formed'.write written) (copied.extend short) (extended'.capacity.trans sized) done
          exact ⟨rest'', last, copied', extended'.trans further⟩

variable {p' : RtpPacket} {extensions : RtpHeaderExtensionMap} {type : RtpExtensionType}

/-- The draft of the new packet. -/
def rebuiltDraft (p : RtpPacket) (id : UInt8) : Draft :=
  Draft.offer 16 kDefaultPacketSize { header := p.header } (p.otherExtensions id)

/-- The new packet before its payload, if an extension is removed. -/
theorem removed_cases (formed : Formed p) (sized : memory.length = kDefaultPacketSize)
    (removed : p.removeExtension memory extensions type = some (p', true)) :
    ∃ newPacket rest, Follows newPacket (p.rebuiltDraft (extensions.ids type)) [] rest ∧
      (p.rebuiltDraft (extensions.ids type)).Copied ∧
      newPacket.capacity = kDefaultPacketSize ∧
      (newPacket.subflowId = 0 ∧ newPacket.subflowSeq = 0) ∧ p.copyBody newPacket = some p' := by
  obtain ⟨heading, rest, headed, follows, capacity⟩ :=
    copyHeading_follows (p := p) sized formed.typed
  have path := copyHeading_path headed
  have built := follows.built
  have empty : Formed heading := by
    refine ⟨⟨?_, ?_⟩, ?_, built.typed⟩
    · rw [built.entries]
      exact List.nodup_nil
    · rw [built.entries]
      exact fun _ member => absurd member List.not_mem_nil
    · rw [built.offset, built.noPayload]
      change 12 ≤ heading.capacity
      rw [capacity]
      decide
  unfold removeExtension at removed
  dsimp only at removed
  split at removed
  · cases removed
  rw [headed, Option.bind_some] at removed
  split at removed
  · cases removed
  · cases removed
  · cases removed
  next newPacket copied =>
  have distinct : (({ header := p.header } : Draft).extensions.map Prod.fst ++
      p.extensionEntries.map ExtensionInfo.id).Nodup := formed.listed.distinct
  have new : ({ header := p.header } : Draft).Copied :=
    ⟨fun _ => rfl, fun _ member => absurd member List.not_mem_nil⟩
  obtain ⟨rest', follows', sound, extended⟩ :=
    copyOthers_follows formed.listed.placed distinct follows empty new capacity copied
  obtain ⟨result, body, same⟩ := Option.map_eq_some_iff.mp removed
  obtain rfl := (Prod.mk.inj same).1
  refine ⟨newPacket, rest', follows', sound, extended.capacity.trans capacity, ?_, body⟩
  rw [extended.kept]
  exact path

end Rebuilding

section Frame

variable {p p' newPacket : RtpPacket} {draft : Draft} {rest memory : List UInt8} {id : UInt8}

theorem length_payload (formed : Formed p) : p.payload.length = p.payloadSize := by
  have inside := formed.loaded
  unfold RtpPacket.payload
  rw [List.length_take, List.length_drop]
  omega

/-- What is in the new packet, if its padding fits. -/
theorem copyBody_content (formed : Formed p) (follows : Follows newPacket draft [] rest)
    (copied : draft.Copied) (sized : newPacket.capacity = kDefaultPacketSize)
    (fits : newPacket.payloadOffset + p.payloadSize + p.paddingSize.toNat ≤ kDefaultPacketSize)
    (body : p.copyBody newPacket = some p') :
    p'.content =
        { header := draft.header
          csrcs := []
          extensions := draft.extensions
          payload := p.payload
          paddingSize := p.paddingSize.toNat } ∧
      p'.subflowId = newPacket.subflowId ∧ p'.subflowSeq = newPacket.subflowSeq := by
  have small : p.paddingSize.toNat ≤ 255 := Nat.le_of_lt_succ p.paddingSize.toNat_lt
  have size := length_payload formed
  have built := follows.built
  have room : newPacket.payloadOffset + p.payload.length + p.paddingSize.toNat ≤
      newPacket.capacity := by omega
  obtain ⟨result, rest', ended, finished, kept⟩ := built.finish small room
  unfold copyBody at body
  rw [if_neg (by omega), ended] at body
  obtain rfl := Option.some.inj body
  have offset := built.offset
  have area : 16 + 4 * ([] : List UInt32).length +
      (extensionBlock draft.twoByte draft.extensions).length ≤ 65535 := by
    by_cases none : draft.extensions = []
    · rw [none, extensionBlock_nil]
      decide
    · rw [length_extensionArea none] at offset
      unfold wordsOf at offset
      unfold kDefaultPacketSize at fits
      rw [List.length_nil] at offset ⊢
      omega
  have header : result.header = draft.header := by
    rw [kept]
    exact follows.header
  have content := content_of_wire finished.buffer rfl (List.append_nil _).symm finished.entries
    finished.offset finished.payloadSize finished.paddingSize built.few small area
    (fun extension member => Nat.le_of_lt_succ (copied.short extension member))
  rw [content, header]
  refine ⟨rfl, ?_⟩
  rw [kept]
  exact ⟨rfl, rfl⟩

/-- A padding that does not fit is left out. -/
theorem copyBody_unpadded (formed : Formed p) (follows : Follows newPacket draft [] rest)
    (sized : newPacket.capacity = kDefaultPacketSize)
    (beyond : ¬newPacket.payloadOffset + p.payloadSize + p.paddingSize.toNat ≤ kDefaultPacketSize)
    (body : p.copyBody newPacket = some p') : p'.paddingSize = 0 ∧ p.paddingSize ≠ 0 := by
  have size := length_payload formed
  have built := follows.built
  have offset := built.offset
  have capacity := built.capacity_eq
  unfold copyBody at body
  split at body
  · cases body
  next room =>
  have fits : ¬newPacket.payloadOffset + p.payload.length > newPacket.capacity := by omega
  obtain ⟨full, loaded, padded⟩ := Option.bind_eq_some_iff.mp body
  unfold RtpPacket.setPayload at loaded
  rw [if_neg fits] at loaded
  obtain ⟨frame, kept⟩ := write_frame loaded
  have start : full.payloadOffset = newPacket.payloadOffset := by rw [frame]
  have load : full.payloadSize = p.payload.length := by rw [frame]
  have none : full.paddingSize = 0 := by
    rw [frame]
    exact built.noPadding
  have kept' : full.capacity = newPacket.capacity := kept
  unfold RtpPacket.setPadding at padded
  rw [if_pos (by omega)] at padded
  obtain rfl := Option.some.inj padded
  refine ⟨none, fun unpadded => ?_⟩
  rw [unpadded] at beyond
  change ¬newPacket.payloadOffset + p.payloadSize + 0 ≤ _ at beyond
  omega

theorem wanted_eq (p : RtpPacket) (id : UInt8) :
    Draft.extendAll { header := p.header } (p.otherExtensions id) =
      ⟨p.header, p.othersWide id, p.otherExtensions id⟩ := by
  have header := Draft.extendAll_header { header := p.header } (p.otherExtensions id)
  have wide := Draft.extendAll_twoByte { header := p.header } (p.otherExtensions id)
  have all := Draft.extendAll_extensions { header := p.header } (p.otherExtensions id)
  rw [Bool.false_or] at wide
  rw [List.nil_append] at all
  generalize Draft.extendAll { header := p.header } (p.otherExtensions id) = wanted at *
  cases wanted
  cases header
  cases wide
  cases all
  rfl

/-- The draft of the new packet has the other extensions exactly if they fit together. -/
theorem rebuiltDraft_iff (p : RtpPacket) (id : UInt8) :
    ((p.rebuiltDraft id).extensions = p.otherExtensions id ↔
      16 + (extensionBlock (p.othersWide id) (p.otherExtensions id)).length ≤
        kDefaultPacketSize) ∧
    ((p.rebuiltDraft id).extensions = p.otherExtensions id →
      p.rebuiltDraft id = ⟨p.header, p.othersWide id, p.otherExtensions id⟩) := by
  have wanted := wanted_eq p id
  have taken (fits : 16 + (extensionBlock (p.othersWide id) (p.otherExtensions id)).length ≤
      kDefaultPacketSize) :
      p.rebuiltDraft id = ⟨p.header, p.othersWide id, p.otherExtensions id⟩ := by
    refine (Draft.offer_eq_extendAll ?_).trans wanted
    rw [wanted]
    exact fits
  have fits (all : (p.rebuiltDraft id).extensions = p.otherExtensions id) :
      16 + (extensionBlock (p.othersWide id) (p.otherExtensions id)).length ≤
        kDefaultPacketSize := by
    have together := @Draft.fits_of_length_offer 16 kDefaultPacketSize { header := p.header }
      (p.otherExtensions id)
      (by
        change 16 + 0 ≤ kDefaultPacketSize
        decide)
      (by
        change 0 + _ ≤ (p.rebuiltDraft id).extensions.length
        rw [all, Nat.zero_add])
    rw [wanted] at together
    exact together
  exact ⟨⟨fits, fun room => congrArg Draft.extensions (taken room)⟩, fun all => taken (fits all)⟩

/-- **Removing an extension.** If `RemoveExtension` fails, the packet is as before. If it
succeeds, one extension is gone and all else is as before exactly if there was nothing that a new
packet of the default size does not have: no contributing source, no path, no extension and no
padding that do not fit. -/
theorem remove_extension_frame_iff (p : RtpPacket) (made : Made p) (memory : List UInt8)
    (sized : memory.length = kDefaultPacketSize) (extensions : RtpHeaderExtensionMap)
    (type : RtpExtensionType) :
    (∀ p', p.removeExtension memory extensions type = some (p', false) → p' = p) ∧
    ∀ p', p.removeExtension memory extensions type = some (p', true) →
      (SameWithout p (extensions.ids type) p' ↔ Rebuildable p (extensions.ids type)) := by
  constructor
  · intro p' failed
    unfold removeExtension at failed
    dsimp only at failed
    split at failed
    · exact (Prod.mk.inj (Option.some.inj failed)).1.symm
    split at failed
    · cases failed
    · exact (Prod.mk.inj (Option.some.inj failed)).1.symm
    · exact (Prod.mk.inj (Option.some.inj failed)).1.symm
    · obtain ⟨_, _, same⟩ := Option.map_eq_some_iff.mp failed
      cases (Prod.mk.inj same).2
  · intro p' removed
    have formed := made.formed
    obtain ⟨newPacket, rest, follows, copied, capacity, path, body⟩ :=
      removed_cases formed sized removed
    obtain ⟨together, wanted⟩ := rebuiltDraft_iff p (extensions.ids type)
    have offset := follows.built.offset
    rw [List.length_nil, Nat.mul_zero, Nat.add_zero] at offset
    have start (all : (p.rebuiltDraft (extensions.ids type)).extensions =
        p.otherExtensions (extensions.ids type)) :
        newPacket.payloadOffset = 12 + (extensionArea (p.othersWide (extensions.ids type))
          (p.otherExtensions (extensions.ids type))).length := by
      rw [offset, wanted all]
    by_cases fits : newPacket.payloadOffset + p.payloadSize + p.paddingSize.toNat ≤
        kDefaultPacketSize
    · obtain ⟨content, samePath, sameNumber⟩ :=
        copyBody_content formed follows copied capacity fits body
      constructor
      · intro same
        have whole := content.symm.trans same.content
        obtain ⟨-, sources, all, -, -⟩ := PacketContent.mk.inj whole
        refine ⟨sources.symm, ⟨?_, ?_⟩, together.mp all, .inr ?_⟩
        · rw [← same.path.1, samePath, path.1]
        · rw [← same.path.2, sameNumber, path.2]
        · rw [← start all]
          exact fits
      · intro rebuildable
        have all := together.mpr rebuildable.others
        refine ⟨?_, ?_, ?_⟩
        · rw [content, wanted all, ← rebuildable.noCsrcs]
          rfl
        · rw [samePath, path.1, rebuildable.noPath.1]
        · rw [sameNumber, path.2, rebuildable.noPath.2]
    · obtain ⟨dropped, padded⟩ := copyBody_unpadded formed follows capacity fits body
      refine iff_of_false (fun same => padded ?_) (fun rebuildable => ?_)
      · have padding := congrArg PacketContent.paddingSize same.content
        change p'.paddingSize.toNat = p.paddingSize.toNat at padding
        rw [← UInt8.toNat_inj, ← padding, dropped]
      · have room := rebuildable.padding.resolve_left padded
        rw [← start (together.mpr rebuildable.others)] at room
        exact fits room

/-- A packet with two extensions, from which the first is removed. -/
def removable (csrcs : List UInt32) : Option RtpPacket :=
  build (List.replicate 48 0xFF) csrcs [.setRawExtension 3 [5], .setRawExtension 20 [1, 2]]
    [8, 9] 2

theorem remove_extension_plain :
    ∃ p p', removable [] = some p ∧
      p.removeExtension (List.replicate 1500 0xFF) (pathIds 3 4) .sandy = some (p', true) ∧
      SameWithout p 3 p' := by
  have done : ((removable []).bind fun p => (p.removeExtension (List.replicate 1500 0xFF)
      (pathIds 3 4) .sandy).map Prod.snd) = some true := by
    decide +kernel
  have plain : ∀ p ∈ removable [], p.csrcs = [] ∧ (p.subflowId = 0 ∧ p.subflowSeq = 0) ∧
      16 + (extensionBlock (p.othersWide 3) (p.otherExtensions 3)).length ≤ kDefaultPacketSize ∧
      12 + (extensionArea (p.othersWide 3) (p.otherExtensions 3)).length + p.payloadSize +
        p.paddingSize.toNat ≤ kDefaultPacketSize := by
    decide +kernel
  obtain ⟨p, built, done⟩ := Option.bind_eq_some_iff.mp done
  obtain ⟨⟨p', _⟩, removed, rfl⟩ := Option.map_eq_some_iff.mp done
  obtain ⟨noCsrcs, noPath, others, padding⟩ := plain p built
  have made : Made p := made_of_build (by decide) (by decide) built
  exact ⟨p, p', built, removed, ((remove_extension_frame_iff p made (List.replicate 1500 0xFF)
    List.length_replicate (pathIds 3 4) .sandy).2 p' removed).mpr
      ⟨noCsrcs, noPath, others, .inr padding⟩⟩

/-- The contributing source and the path of a packet are lost with an extension. -/
theorem removal_loses_source_and_path :
    ∃ p p', Made p ∧
      p.removeExtension (List.replicate 1500 0xFF) (pathIds 3 4) .sandy = some (p', true) ∧
      p.csrcs = [7] ∧ p'.csrcs = [] ∧ p.subflowId = 2 ∧ p'.subflowId = 0 := by
  have done : ((removable [7]).bind fun p => ({ p with subflowId := 2 }.removeExtension
      (List.replicate 1500 0xFF) (pathIds 3 4) .sandy).map fun result : RtpPacket × Bool =>
        (p.csrcs, result.1.csrcs, result.1.subflowId, result.2)) =
          some (([7] : List UInt32), ([] : List UInt32), (0 : UInt8), true) := by
    decide +kernel
  obtain ⟨p, built, done⟩ := Option.bind_eq_some_iff.mp done
  obtain ⟨⟨p', _⟩, removed, values⟩ := Option.map_eq_some_iff.mp done
  obtain ⟨sources, values⟩ := Prod.mk.inj values
  obtain ⟨lost, values⟩ := Prod.mk.inj values
  obtain ⟨path, rfl⟩ := Prod.mk.inj values
  have made : Made p := made_of_build (by decide) (by decide) built
  exact ⟨_, p', made.onPath 2 p.subflowSeq, removed, sources, lost, rfl, path⟩

end Frame

end RtpPacket

end MpWebRtc
