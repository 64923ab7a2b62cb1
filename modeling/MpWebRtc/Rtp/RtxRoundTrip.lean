import MpWebRtc.Rtp.Overwriting
import MpWebRtc.Rtp.Rtx

/-!
# From the retransmission back to the media packet

The packet that `RtxReceiveStream` hands on has the header fields, the contributing sources
and the payload of the media packet that was stored, and the path and its number as they
were set for the retransmission. What the extensions are does not matter: whatever is
copied, added or refused, the packet keeps its layout, and the two ends agree on that.
-/

namespace MpWebRtc

open Math.Memory Math.Wire

namespace RtpPacket

variable {p p' : RtpPacket} {csrcs : List UInt32} {id : UInt8} {length : Nat}

/-- A packet under construction keeps its layout, with some extensions. -/
def Sound (p : RtpPacket) (csrcs : List UInt32) : Prop :=
  ∃ draft rest, Follows p draft csrcs rest ∧ draft.Valid

/-- A step keeps the layout, the fixed header and the capacity. -/
structure Keeps (p p' : RtpPacket) (csrcs : List UInt32) : Prop where
  sound : Sound p' csrcs
  capacity : p'.capacity = p.capacity
  settings : p'.settings = p.settings

theorem Sound.refl (sound : Sound p csrcs) : Keeps p p csrcs := ⟨sound, rfl, rfl⟩

theorem Keeps.trans {p'' : RtpPacket} (first : Keeps p p' csrcs) (second : Keeps p' p'' csrcs) :
    Keeps p p'' csrcs :=
  ⟨second.sound, second.capacity.trans first.capacity, second.settings.trans first.settings⟩

section Allocation

/-- Where an extension with an id is. -/
theorem exists_middle {extensions : List (UInt8 × List UInt8)}
    (listed : id ∈ extensions.map Prod.fst) :
    ∃ before old others, extensions = before ++ (id, old) :: others ∧
      id ∉ before.map Prod.fst := by
  induction extensions with
  | nil => exact absurd listed List.not_mem_nil
  | cons extension extensions ih =>
      by_cases here : extension.1 = id
      · exact ⟨[], extension.2, extensions, by rw [← here]; rfl, List.not_mem_nil⟩
      · obtain ⟨before, old, others, split, first⟩ :=
          ih ((List.mem_cons.mp listed).resolve_left (Ne.symm here))
        refine ⟨extension :: before, old, others, by rw [split]; rfl, ?_⟩
        rw [List.map_cons, List.mem_cons, not_or]
        exact ⟨Ne.symm here, first⟩

theorem headerSize_le_extensionBlock {twoByte : Bool} {before others : List (UInt8 × List UInt8)}
    {old : List UInt8} :
    (extensionBlock twoByte before).length + headerSize twoByte ≤
      (extensionBlock twoByte (before ++ (id, old) :: others)).length := by
  have block : extensionBlock twoByte (before ++ (id, old) :: others) =
      extensionBlock twoByte before ++ extensionBlock twoByte ((id, old) :: others) :=
    List.flatMap_append
  rw [block, extensionBlock_cons]
  simp only [List.length_append, length_extensionHeader]
  omega

/-- The allocation of an extension that is there. -/
theorem allocateRawExtension_middle {twoByte : Bool} {before others : List (UInt8 × List UInt8)}
    {old : List UInt8} (entries : p.extensionEntries =
      entriesFrom twoByte (16 + 4 * csrcs.length) (before ++ (id, old) :: others))
    (first : id ∉ before.map Prod.fst) (short : old.length ≤ 255) (limited : 16 + 4 * csrcs.length +
      (extensionBlock twoByte (before ++ (id, old) :: others)).length ≤ 65535) :
    p.allocateRawExtension id length = some (p, if old.length = length then
      some (16 + 4 * csrcs.length + (extensionBlock twoByte before).length + headerSize twoByte)
      else none) := by
  have inside := @headerSize_le_extensionBlock id twoByte before others old
  have size : (UInt8.ofNat old.length).toNat = old.length := by
    rw [UInt8.toNat_ofNat']
    omega
  have position : (UInt16.ofNat (16 + 4 * csrcs.length + (extensionBlock twoByte before).length +
      headerSize twoByte)).toNat = 16 + 4 * csrcs.length + (extensionBlock twoByte before).length +
        headerSize twoByte := by
    rw [UInt16.toNat_ofNat']
    omega
  unfold RtpPacket.allocateRawExtension
  rw [findExtensionInfo_middle entries first]
  dsimp only
  rw [size, position]

/-- An allocation is refused, or it gives a place, and the draft with any value there is followed
when it is written. -/
theorem Follows.allocateRawExtension {draft : Draft} {rest : List UInt8} {place : Option Nat}
    (follows : Follows p draft csrcs rest) (valid : draft.Valid)
    (limited : p.capacity ≤ 65535) (inRange : 1 ≤ id ∧ 1 ≤ length ∧ length ≤ 255)
    (allowed : twoByteHeaderRequired id length = true → p.extmapAllowMixed = true)
    (allocated : p.allocateRawExtension id length = some (p', place)) :
    (place = none ∧ p' = p) ∨
    ∃ offset, place = some offset ∧ p'.capacity = p.capacity ∧ p'.settings = p.settings ∧
      (∃ old rest', old.length = length ∧ Follows p' (draft.set id old) csrcs rest') ∧
      ∀ value : List UInt8, value.length = length → (draft.set id value).Valid ∧
        ∃ p'' rest', p'.write offset value = some p'' ∧
          Follows p'' (draft.set id value) csrcs rest' ∧ p''.capacity = p.capacity ∧
          p''.settings = p.settings := by
  have short : ∀ extension ∈ draft.extensions, extension.2.length < 256 :=
    fun extension member => Nat.lt_succ_of_le (valid.sized extension member).2.2
  by_cases listed : id ∈ draft.extensions.map Prod.fst
  · obtain ⟨before, old, others, split, first⟩ := exists_middle listed
    have replaced (value : List UInt8) (same : old.length = value.length) : draft.set id value =
        ⟨draft.header, draft.twoByte, before ++ (id, value) :: others⟩ := by
      have distinct := valid.distinct
      unfold Draft.set
      rw [if_pos listed]
      rw [split] at distinct ⊢
      rw [map_overwritten_middle distinct same]
    obtain ⟨header, twoByte, extensions⟩ := draft
    obtain rfl : extensions = before ++ (id, old) :: others := split
    have block : 16 + 4 * csrcs.length +
        (extensionBlock twoByte (before ++ (id, old) :: others)).length ≤ 65535 := by
      have padded := follows.padded.resolve_left
        (List.append_ne_nil_of_right_ne_nil _ (List.cons_ne_nil _ _))
      unfold Draft.blockSize wordsOf at padded
      dsimp only at padded
      omega
    rw [allocateRawExtension_middle follows.built.entries first
      (Nat.le_of_lt_succ (short (id, old) (List.mem_append_right _ (List.mem_cons_self ..))))
      block] at allocated
    obtain ⟨rfl, rfl⟩ := Prod.mk.inj (Option.some.inj allocated)
    by_cases same : old.length = length
    · rw [if_pos same]
      refine .inr ⟨_, rfl, rfl, rfl, ⟨old, rest, same, ?_⟩, fun value long => ?_⟩
      · rw [replaced old rfl]
        exact follows
      · obtain ⟨p'', written, built, capacity, settings⟩ :=
          follows.built.overwrite (same.trans long.symm)
        rw [replaced value (same.trans long.symm)]
        exact ⟨valid_replace valid (same.trans long.symm), p'', rest, written,
          ⟨built, (congrArg Prod.snd settings).trans follows.header⟩, capacity, settings⟩
    · rw [if_neg same]
      exact .inl ⟨rfl, rfl⟩
  · have added (value : List UInt8) : draft.set id value = draft.extend id value := if_neg listed
    have outcome := follows.built.allocated valid.opened limited short listed (.inl inRange.2.1)
      allowed
    rw [allocated] at outcome
    unfold AllocatedAs at outcome
    split at outcome
    · obtain ⟨rfl, rfl⟩ := Prod.mk.inj (Option.some.inj outcome)
      exact .inl ⟨rfl, rfl⟩
    · split at outcome
      · obtain ⟨q, value, rest', same, result, built, capacity, settings⟩ := outcome
        obtain ⟨rfl, rfl⟩ := Prod.mk.inj (Option.some.inj result)
        have header : p'.header = draft.header := (congrArg Prod.snd settings).trans follows.header
        refine .inr ⟨_, rfl, capacity, settings, ⟨value, rest', same, ?_⟩, fun next long => ?_⟩
        · rw [added, Draft.extend, same]
          exact ⟨built, header⟩
        · obtain ⟨p'', written, valued, kept, again⟩ := built.overwrite (same.trans long.symm)
          rw [added]
          refine ⟨valid.extend ?_ listed, p'', rest', written, ⟨?_, ?_⟩, kept.trans capacity,
            again.trans settings⟩
          · rw [BuildCall.InRange, long]
            exact inRange
          · rw [Draft.extend, long]
            exact valued
          · exact (congrArg Prod.snd again).trans header
      · exact absurd outcome (Option.some_ne_none _)

/-- An allocation keeps the layout, and so does writing a value to its place. -/
theorem Sound.allocateRawExtension {place : Option Nat} (sound : Sound p csrcs)
    (limited : p.capacity ≤ 65535) (inRange : 1 ≤ id ∧ 1 ≤ length ∧ length ≤ 255)
    (allowed : twoByteHeaderRequired id length = true → p.extmapAllowMixed = true)
    (allocated : p.allocateRawExtension id length = some (p', place)) :
    Keeps p p' csrcs ∧ ∀ offset ∈ place, ∀ value : List UInt8, value.length = length →
      ∃ p'', p'.write offset value = some p'' ∧ Keeps p p'' csrcs := by
  obtain ⟨draft, rest, follows, valid⟩ := sound
  rcases follows.allocateRawExtension valid limited inRange allowed allocated with
    ⟨rfl, rfl⟩ | ⟨offset, rfl, capacity, settings, ⟨old, rest', long, opened⟩, written⟩
  · exact ⟨Sound.refl ⟨draft, rest, follows, valid⟩, fun _ none => absurd none (by simp)⟩
  · refine ⟨⟨⟨_, rest', opened, (written old long).1⟩, capacity, settings⟩, ?_⟩
    rintro _ ⟨⟩ value same
    obtain ⟨valid', p'', rest'', wrote, followed, capacity', settings'⟩ := written value same
    exact ⟨p'', wrote, ⟨_, rest'', followed, valid'⟩, capacity', settings'⟩

variable {extensions : RtpHeaderExtensionMap} {type : RtpExtensionType}

/-- An extension is refused, or its id and its length are in range. -/
theorem allocateExtension_cases (p : RtpPacket) (extensions : RtpHeaderExtensionMap)
    (type : RtpExtensionType) (length : Nat) :
    p.allocateExtension extensions type length = some (p, none) ∨
      (1 ≤ extensions.ids type ∧ 1 ≤ length ∧ length ≤ 255) ∧
        (twoByteHeaderRequired (extensions.ids type) length = true → p.extmapAllowMixed = true) ∧
        p.allocateExtension extensions type length =
          p.allocateRawExtension (extensions.ids type) length := by
  unfold allocateExtension
  split
  · exact Or.inl rfl
  · rename_i sized
    split
    · exact Or.inl rfl
    · rename_i registered
      split
      · exact Or.inl rfl
      · rename_i narrow
        right
        obtain ⟨positive, short, small⟩ : length ≠ 0 ∧ ¬length > kMaxValueSize ∧
            ¬((!p.extmapAllowMixed) = true ∧
              length > kOneByteHeaderExtensionMaxValueSize) := by
          simpa only [not_or] using sized
        refine ⟨⟨?_, Nat.pos_of_ne_zero positive, not_lt.mp short⟩, ?_, rfl⟩
        · refine UInt8.le_iff_toNat_le.mpr (Nat.pos_of_ne_zero fun zero => registered ?_)
          exact UInt8.toNat_inj.mp zero
        · intro required
          by_contra mixed
          have plain : (!p.extmapAllowMixed) = true := by simpa using mixed
          unfold twoByteHeaderRequired at required
          simp only [Bool.or_eq_true, decide_eq_true_eq] at required
          rcases required with (wide | long) | empty
          · exact narrow ⟨plain, wide⟩
          · exact small ⟨plain, long⟩
          · exact positive empty

/-- Setting an extension keeps the layout. -/
theorem Sound.setAllocated {value : List UInt8} {writable done : Bool} (sound : Sound p csrcs)
    (limited : p.capacity ≤ 65535)
    (set : p.setAllocated extensions type value writable = some (p', done)) : Keeps p p' csrcs := by
  unfold RtpPacket.setAllocated at set
  rw [Option.bind_eq_bind] at set
  rcases allocateExtension_cases p extensions type value.length with
    refused | ⟨inRange, allowed, raw⟩
  · rw [refused, Option.bind_some] at set
    obtain ⟨rfl, -⟩ := Prod.mk.inj (Option.some.inj set)
    exact sound.refl
  · rw [raw] at set
    obtain ⟨⟨q, place⟩, allocated, set⟩ := Option.bind_eq_some_iff.mp set
    obtain ⟨kept, written⟩ := sound.allocateRawExtension limited inRange allowed allocated
    cases place with
    | none =>
        obtain ⟨rfl, -⟩ := Prod.mk.inj (Option.some.inj set)
        exact kept
    | some offset =>
        cases writable with
        | false =>
            obtain ⟨rfl, -⟩ := Prod.mk.inj (Option.some.inj set)
            exact kept
        | true =>
            obtain ⟨p'', wrote, again⟩ := written offset rfl value rfl
            obtain ⟨q', other, result⟩ := Option.map_eq_some_iff.mp set
            obtain ⟨rfl, -⟩ := Prod.mk.inj result
            obtain rfl := Option.some.inj (wrote.symm.trans other)
            exact again

end Allocation

section Headers

variable {sender : RtxSender} {extensions : RtpHeaderExtensionMap} {packet : RtpPacket}

theorem Sound.copyExtensions {types : List RtpExtensionType} (sound : Sound p csrcs)
    (limited : p.capacity ≤ 65535)
    (copied : types.foldlM (sender.copyExtension extensions packet) p = some p') :
    Keeps p p' csrcs := by
  induction types generalizing p with
  | nil =>
      obtain rfl := Option.some.inj copied
      exact sound.refl
  | cons type types ih =>
      rw [List.foldlM_cons, Option.bind_eq_bind] at copied
      obtain ⟨q, one, others⟩ := Option.bind_eq_some_iff.mp copied
      have kept : Keeps p q csrcs := by
        unfold RtxSender.copyExtension at one
        split at one
        · obtain rfl := Option.some.inj one
          exact sound.refl
        · obtain ⟨⟨q', done⟩, set, rfl⟩ := Option.map_eq_some_iff.mp one
          exact sound.setAllocated limited set
      exact kept.trans (ih kept.sound (kept.capacity.trans_le limited) others)

theorem Sound.setStreamId {type : RtpExtensionType} {text : List UInt8} (sound : Sound p csrcs)
    (limited : p.capacity ≤ 65535) (set : sender.setStreamId type text p = some p') :
    Keeps p p' csrcs := by
  unfold RtxSender.setStreamId at set
  split at set
  · obtain rfl := Option.some.inj set
    exact sound.refl
  · obtain ⟨⟨q, done⟩, allocated, rfl⟩ := Option.map_eq_some_iff.mp set
    exact sound.setAllocated limited allocated

theorem Sound.setStreamIds (sound : Sound p csrcs) (limited : p.capacity ≤ 65535)
    (set : sender.setStreamIds p = some p') : Keeps p p' csrcs := by
  unfold RtxSender.setStreamIds at set
  split at set
  · rw [Option.bind_eq_bind] at set
    obtain ⟨q, mid, rid⟩ := Option.bind_eq_some_iff.mp set
    have first := sound.setStreamId limited mid
    exact first.trans (first.sound.setStreamId (first.capacity.trans_le limited) rid)
  · obtain rfl := Option.some.inj set
    exact sound.refl

theorem length_csrcs_le (packet : RtpPacket) : packet.csrcs.length ≤ 15 := by
  unfold RtpPacket.csrcs
  rw [List.length_map, List.length_range, UInt8.toNat_and]
  exact Nat.and_le_right

/-- The header of the retransmission. -/
def rtxHeader (sender : RtxSender) (rtxPayloadType : UInt8) (packet : RtpPacket) :
    PacketHeader where
  marker := packet.marker
  payloadType := rtxPayloadType
  sequenceNumber := sender.sequenceNumberRtx
  timestamp := packet.timestamp
  ssrc := sender.rtxSsrc

/-- The headers of the retransmission keep the layout, if they are built. -/
theorem sound_rtxHeaders {memory : List UInt8} {rtxPayloadType : UInt8}
    (limited : memory.length ≤ 65535) (small : rtxPayloadType < 128)
    (built : sender.rtxHeaders memory rtxPayloadType extensions packet = some p) :
    Sound p packet.csrcs ∧ p.capacity = memory.length ∧
      p.header = rtxHeader sender rtxPayloadType packet := by
  unfold RtxSender.rtxHeaders RtxSender.copyHeaderAndExtensionsToRtxPacket at built
  simp only [Option.bind_eq_bind, Option.bind_eq_some_iff] at built
  obtain ⟨start, cleared, p1, typed, p2, numbered, p3, sourced, p7, copied, ids⟩ := built
  obtain ⟨p4, marked, p5, timed, p6, contributed, copied⟩ := copied
  -- The fixed header.
  obtain ⟨blank, rest, initial, layout, capacity, settings⟩ :=
    built_initial (room_of_initial cleared)
  obtain rfl := Option.some.inj (initial.symm.trans cleared)
  let mixed := { blank with
    extmapAllowMixed := sender.rtpHeaderExtensionMap.extmapAllowMixed }
  have begun : Follows mixed {} [] rest :=
    ⟨⟨layout.buffer, layout.entries, layout.size, layout.offset, layout.noPayload,
      layout.noPadding, layout.few, layout.typed⟩, congrArg Prod.snd settings⟩
  let calls : List BuildCall :=
    [.setPayloadType rtxPayloadType, .setSequenceNumber sender.sequenceNumberRtx,
      .setSsrc sender.rtxSsrc, .setMarker packet.marker, .setTimestamp packet.timestamp]
  have same : mixed.capacity = memory.length := capacity
  obtain ⟨fixed, rest', ran, follows, kept, -⟩ := (@Follows.runs mixed {} [] rest calls begun
    valid_empty (same.trans_le limited)
    (by simpa [calls, BuildCall.InRange] using small)
    (by simp [calls, BuildCall.Allowed]) List.nodup_nil _ rfl).1 (Or.inl rfl)
  have chained : calls.foldlM RtpPacket.run mixed = some p5 := by
    simp only [calls, List.foldlM_cons, List.foldlM_nil, RtpPacket.run, Option.bind_eq_bind,
      Option.pure_def]
    rw [typed, Option.bind_some, numbered, Option.bind_some, sourced, Option.bind_some, marked,
      Option.bind_some, timed, Option.bind_some]
  obtain rfl := Option.some.inj (ran.symm.trans chained)
  -- The contributing sources.
  obtain ⟨listed, rest'', set, sources, again, header⟩ :=
    follows.built.setCsrcs (length_csrcs_le packet) (room_of_setCsrcs contributed)
  obtain rfl := Option.some.inj (set.symm.trans contributed)
  have sound : Sound listed packet.csrcs :=
    ⟨_, rest'', ⟨sources, (congrArg Prod.snd header).trans follows.header⟩,
      (valid_empty.foldl 16 mixed.capacity (by simpa [calls, BuildCall.InRange] using small)
        List.nodup_nil : (calls.foldl (Draft.apply 16 mixed.capacity) {}).Valid)⟩
  have size : listed.capacity = memory.length := again.trans (kept.trans same)
  -- The extensions.
  have first := sound.copyExtensions (size.trans_le limited) copied
  have second := first.sound.setStreamIds (first.capacity.trans_le (size.trans_le limited)) ids
  have all := first.trans second
  refine ⟨all.sound, all.capacity.trans size, ?_⟩
  exact (congrArg Prod.snd (all.settings.trans header)).trans follows.header

end Headers

section Ending

variable {payload : List UInt8} {draft : Draft} {rest : List UInt8}

/-- A packet with its payload. -/
structure Ended (p : RtpPacket) (csrcs : List UInt32) (payload : List UInt8) (draft : Draft)
    (rest : List UInt8) : Prop where
  finished : Finished p csrcs draft.twoByte draft.extensions payload 0 rest
  header : p.header = draft.header
  valid : draft.Valid
  limited : 16 + 4 * csrcs.length + (extensionBlock draft.twoByte draft.extensions).length ≤ 65535
  few : csrcs.length ≤ 15

section

variable (fits : p.payloadOffset + payload.length ≤ p.capacity)
  (set : p.setPayload payload = some p')
include fits set

theorem Built.loaded {twoByte : Bool} {extensions : List (UInt8 × List UInt8)}
    (built : Built p csrcs twoByte extensions rest) :
    ∃ rest, Finished p' csrcs twoByte extensions payload 0 rest ∧ p'.settings = p.settings := by
  obtain ⟨rest', loaded, -⟩ := built.setPayload fits
  obtain rfl := Option.some.inj (loaded.symm.trans set)
  refine ⟨rest', ⟨?_, built.entries, built.offset, rfl, built.noPadding⟩, rfl⟩
  simp only [withHeader, wire, List.append_assoc]
  rfl

/-- The payload is set in a packet that follows a draft. -/
theorem Follows.loaded (follows : Follows p draft csrcs rest) (valid : draft.Valid)
    (limited : p.capacity ≤ 65535) :
    ∃ rest, Ended p' csrcs payload draft rest ∧ p'.settings = p.settings := by
  obtain ⟨rest', finished, same⟩ := follows.built.loaded fits set
  have few := follows.built.few
  refine ⟨rest', ⟨finished, (congrArg Prod.snd same).trans follows.header, valid, ?_, few⟩, same⟩
  rcases follows.padded with empty | padded
  · rw [empty, extensionBlock_nil, List.length_nil]
    omega
  · unfold Draft.blockSize wordsOf at padded
    omega

theorem Sound.setPayload (sound : Sound p csrcs) (limited : p.capacity ≤ 65535) :
    ∃ draft rest, Ended p' csrcs payload draft rest ∧ p'.header = p.header := by
  obtain ⟨draft, rest, follows, valid⟩ := sound
  obtain ⟨rest', ended, same⟩ := follows.loaded fits set valid limited
  exact ⟨draft, rest', ended, congrArg Prod.snd same⟩

end

/-- The value of an extension in a list. -/
def lookup (extensions : List (UInt8 × List UInt8)) (id : UInt8) : Option (List UInt8) :=
  (extensions.find? fun extension => extension.1 = id).map Prod.snd

variable {before others : List (UInt8 × List UInt8)}

theorem lookup_middle {value : List UInt8} (first : id ∉ before.map Prod.fst) :
    lookup (before ++ (id, value) :: others) id = some value := by
  have absent : before.find? (fun extension => extension.1 = id) = none := by
    rw [List.find?_eq_none]
    intro extension member
    rw [decide_eq_true_iff]
    rintro rfl
    exact first (List.mem_map_of_mem member)
  unfold lookup
  rw [List.find?_append, absent, Option.none_or]
  exact congrArg (Option.map Prod.snd) (List.find?_cons_of_pos (decide_eq_true rfl))

theorem lookup_of_ne {old value : List UInt8} {other : UInt8} (different : other ≠ id) :
    lookup (before ++ (id, value) :: others) other =
      lookup (before ++ (id, old) :: others) other := by
  have skip (value : List UInt8) :
      ((id, value) :: others).find? (fun extension => extension.1 = other) =
        others.find? (fun extension => extension.1 = other) :=
    List.find?_cons_of_neg (by rw [decide_eq_true_iff]; exact Ne.symm different)
  unfold lookup
  rw [List.find?_append, List.find?_append, skip, skip]

theorem valueOf_eq_lookup (p : RtpPacket) (id : UInt8) :
    p.valueOf id = lookup p.extensionValues id := by
  unfold lookup extensionValues RtpPacket.valueOf findExtensionInfo
  rw [List.find?_map, Option.map_map]
  rfl

/-- What comes of setting an extension after the payload. -/
structure SetAs (p p' : RtpPacket) (csrcs : List UInt32) (payload : List UInt8)
    (draft draft' : Draft) (rest : List UInt8) (id : UInt8) (value : List UInt8) (done : Bool) :
    Prop where
  ended : Ended p' csrcs payload draft' rest
  header : p'.header = p.header
  set : done = true → lookup draft'.extensions id = some value
  others : ∀ other, lookup draft'.extensions other ≠ lookup draft.extensions other →
    other = id ∧ ∃ old, lookup draft.extensions other = some old ∧ old.length = value.length

/-- After the payload, an extension is set in its place, or not at all. -/
theorem Ended.setExtension (ended : Ended p csrcs payload draft rest) (filled : payload ≠ [])
    (extensions : RtpHeaderExtensionMap) (type : RtpExtensionType) (value : List UInt8) :
    ∃ p' done draft', p.setExtension extensions type value = some (p', done) ∧
      SetAs p p' csrcs payload draft draft' rest (extensions.ids type) value done := by
  have unchanged (refused : p.allocateExtension extensions type value.length = some (p, none)) :
      ∃ p' done draft', p.setExtension extensions type value = some (p', done) ∧
        SetAs p p' csrcs payload draft draft' rest (extensions.ids type) value done := by
    refine ⟨p, false, draft, ?_, ended, rfl, fun impossible => absurd impossible (by decide),
      fun _ different => absurd rfl different⟩
    unfold RtpPacket.setExtension RtpPacket.setAllocated
    rw [refused]
    rfl
  rcases allocateExtension_cases p extensions type value.length with
    refused | ⟨inRange, allowed, raw⟩
  · exact unchanged refused
  · by_cases listed : extensions.ids type ∈ draft.extensions.map Prod.fst
    · obtain ⟨before, old, others, split, first⟩ := exists_middle listed
      obtain ⟨header, twoByte, list⟩ := draft
      obtain rfl : list = before ++ (extensions.ids type, old) :: others := split
      have short := (ended.valid.sized (extensions.ids type, old)
        (List.mem_append_right _ (List.mem_cons_self ..))).2.2
      rw [allocateRawExtension_middle ended.finished.entries first short ended.limited] at raw
      by_cases same : old.length = value.length
      · obtain ⟨p', written, finished, capacity, settings⟩ := ended.finished.overwrite same
        have kept : p'.header = p.header := congrArg Prod.snd settings
        refine ⟨p', true, ⟨header, twoByte, before ++ (extensions.ids type, value) :: others⟩, ?_,
          ⟨finished, kept.trans ended.header, valid_replace ended.valid same, ?_, ended.few⟩, kept,
          fun _ => lookup_middle first, ?_⟩
        · unfold RtpPacket.setExtension RtpPacket.setAllocated
          rw [raw, if_pos same]
          exact Option.map_eq_some_iff.mpr ⟨p', written, rfl⟩
        · rw [← length_extensionBlock_of_shape (shapeOf_replace same)]
          exact ended.limited
        · intro other changed
          by_cases here : other = extensions.ids type
          · subst here
            exact ⟨rfl, old, lookup_middle first, same⟩
          · exact absurd (lookup_of_ne here) changed
      · rw [if_neg same] at raw
        exact unchanged raw
    · have late : p.allocateRawExtension (extensions.ids type) value.length = some (p, none) := by
        unfold RtpPacket.allocateRawExtension findExtensionInfo
        rw [ended.finished.entries, find_entriesFrom_eq_none listed]
        dsimp only
        rw [if_pos]
        left
        rw [ended.finished.payloadSize]
        exact List.length_pos_of_ne_nil filled
      exact unchanged (raw.trans late)

/-- The number and the path id of the retransmission. -/
theorem Ended.resend (ended : Ended p csrcs payload draft rest) (filled : payload ≠ [])
    (sender : RtxSender) (subflowSeq : UInt16) (pathid : UInt8) :
    ∃ sent numbered placed draft',
      sender.resend subflowSeq pathid p = some (sent, numbered, placed) ∧
      Ended sent csrcs payload draft' rest ∧ sent.header = p.header ∧
      (numbered = true → lookup draft'.extensions (sender.rtpHeaderExtensionMap.ids .mpFlowSeqNum) =
        some (halfWordBytes subflowSeq)) ∧
      (placed = true → lookup draft'.extensions (sender.rtpHeaderExtensionMap.ids .sandy) =
        some [pathid]) := by
  obtain ⟨p1, numbered, draft1, first, flow⟩ := ended.setExtension filled
    sender.rtpHeaderExtensionMap .mpFlowSeqNum (halfWordBytes subflowSeq)
  obtain ⟨p2, placed, draft2, second, path⟩ := flow.ended.setExtension filled
    sender.rtpHeaderExtensionMap .sandy [pathid]
  refine ⟨p2, numbered, placed, draft2, ?_, path.ended, path.header.trans flow.header, ?_, path.set⟩
  · unfold RtxSender.resend
    simp only [Option.bind_eq_bind]
    rw [first, Option.bind_some, second, Option.bind_some]
  · intro set
    have before := flow.set set
    by_contra changed
    -- The path id has one byte and would not be written over a number of two.
    obtain ⟨-, old, found, length⟩ := path.others _ (fun same => changed (same.trans before))
    obtain rfl := Option.some.inj (before.symm.trans found)
    rw [length_halfWordBytes] at length
    exact absurd length (by rw [List.length_singleton]; decide)

end Ending

section Receiving

variable {payload : List UInt8} {draft : Draft} {rest : List UInt8}

theorem fixedHeader_congr {q : RtpPacket} (same : q.header = p.header) (first : UInt8) :
    fixedHeader q first = fixedHeader p first := by
  obtain ⟨marker, payloadType, sequenceNumber, timestamp, ssrc⟩ := PacketHeader.mk.inj same
  unfold fixedHeader
  rw [marker, payloadType, sequenceNumber, timestamp, ssrc]

/-- A packet with its payload is parsed. -/
theorem Ended.parse (ended : Ended p csrcs payload draft rest) :
    ∃ q, parse p.bytes = some q ∧
      ParsedAs q p csrcs draft.twoByte draft.extensions payload 0 := by
  have typed : p.payloadType < 128 := by
    have type : p.payloadType = draft.header.payloadType :=
      congrArg PacketHeader.payloadType ended.header
    rw [type]
    exact ended.valid.typed
  rw [bytes_of_finished ended.finished (Nat.zero_le _)]
  exact parse_wire ended.limited ended.valid.sized ended.valid.small ended.valid.distinct typed
    ended.few (Nat.zero_le _)

variable {q : RtpPacket} {twoByte : Bool} {extensions : List (UInt8 × List UInt8)}
variable {stream : RtxReceiveStream} {body spare : List UInt8} {number : UInt16}

/-- The headers that are copied to the media packet. -/
theorem copyHeaderFrom_buffer (parsed : ParsedAs q p csrcs twoByte extensions payload 0)
    (spare : List UInt8) :
    (RtxReceiveStream.copyHeaderFrom q spare).buffer =
      fixedHeader (RtxReceiveStream.copyHeaderFrom q spare)
        (firstByte (!extensions.isEmpty) false csrcs.length) ++
          (csrcs.flatMap wordBytes ++ (extensionArea twoByte extensions ++ spare)) := by
  have header : (RtxReceiveStream.copyHeaderFrom q spare).header = p.header := parsed.header
  have length : q.payloadOffset = (fixedHeader p (firstByte (!extensions.isEmpty) false
      csrcs.length) ++ (csrcs.flatMap wordBytes ++ extensionArea twoByte extensions)).length := by
    rw [parsed.offset]
    simp only [List.length_append, length_fixedHeader, length_csrcs]
    omega
  have split : q.buffer = (fixedHeader p (firstByte (!extensions.isEmpty) false csrcs.length) ++
      (csrcs.flatMap wordBytes ++ extensionArea twoByte extensions)) ++ (payload ++ []) := by
    rw [parsed.buffer, wire]
    simp only [List.append_assoc]
    rfl
  rw [fixedHeader_congr header]
  change q.buffer.take q.payloadOffset ++ spare = _
  rw [split, length, List.take_left]
  simp only [List.append_assoc]

/-- The media packet that is taken out of a retransmission. -/
theorem mediaPacket_content {payloadType : UInt8} (typed : p.payloadType < 128)
    (parsed : ParsedAs q p csrcs twoByte extensions (halfWordBytes number ++ body) 0)
    (room : body.length ≤ spare.length) (few : csrcs.length ≤ 15)
    (limited : 16 + 4 * csrcs.length + (extensionBlock twoByte extensions).length ≤ 65535)
    (short : ∀ extension ∈ extensions, extension.2.length ≤ 255) :
    ∃ media, stream.mediaPacket spare payloadType q = some media ∧
      media.content =
        { header :=
            { marker := p.marker
              payloadType
              sequenceNumber := number
              timestamp := p.timestamp
              ssrc := stream.mediaSsrc }
          csrcs
          extensions := understood twoByte extensions
          payload := body
          paddingSize := 0 } := by
  have whole : q.payload = halfWordBytes number ++ body :=
    payload_of_wire (parsed.buffer.trans (List.append_nil _).symm) parsed.offset
      parsed.payloadSize
  have osn : readHalfWord q.payload 0 = number := by
    rw [whole]
    exact @readHalfWord_append [] body 0 rfl number
  have after : q.payload.drop kRtxHeaderSize = body := by
    rw [whole]
    exact List.drop_left' (length_halfWordBytes _)
  let first := firstByte (!extensions.isEmpty) false csrcs.length
  let tail := csrcs.flatMap wordBytes ++ (extensionArea twoByte extensions ++ spare)
  let copy := RtxReceiveStream.copyHeaderFrom q spare
  have copyTyped : copy.payloadType < 128 := by
    have type : q.payloadType = p.payloadType := congrArg PacketHeader.payloadType parsed.header
    change q.payloadType < 128
    rw [type]
    exact typed
  let sourced := { copy with ssrc := stream.mediaSsrc }.withHeader first tail
  let numbered := { sourced with sequenceNumber := number }.withHeader first tail
  let renamed := { numbered with payloadType }.withHeader first tail
  have setSource : copy.setSsrc stream.mediaSsrc = some sourced :=
    setSsrc_eq (copyHeaderFrom_buffer parsed spare) _
  have setNumber : sourced.setSequenceNumber number = some numbered := setSequenceNumber_eq rfl _
  have setType : numbered.setPayloadType payloadType = some renamed :=
    setPayloadType_eq (p := numbered) rfl copyTyped payloadType
  obtain ⟨old, rest, rfl, same⟩ := exists_split room
  have offset : renamed.payloadOffset = 12 + 4 * csrcs.length +
      (extensionArea twoByte extensions).length := parsed.offset
  have fits : ¬renamed.payloadOffset + body.length > renamed.capacity := by
    rw [offset, withHeader_capacity]
    simp only [tail, List.length_append, length_csrcs]
    omega
  let loaded := { renamed with payloadSize := body.length }
  have written : loaded.write renamed.payloadOffset body = some (loaded.withHeader first
      ((csrcs.flatMap wordBytes ++ extensionArea twoByte extensions) ++ (body ++ rest))) := by
    refine @write_behind loaded first _ old body rest _ ?_ ?_ same
    · change fixedHeader _ first ++ tail = _
      simp only [tail, List.append_assoc]
      rfl
    · rw [offset, List.length_append, length_csrcs]
      omega
  refine ⟨loaded.withHeader first
    ((csrcs.flatMap wordBytes ++ extensionArea twoByte extensions) ++ (body ++ rest)), ?_, ?_⟩
  · unfold RtxReceiveStream.mediaPacket
    simp only [Option.bind_eq_bind]
    refine (congrArg (Option.bind · _) setSource).trans ?_
    rw [Option.bind_some, osn, setNumber, Option.bind_some, setType, Option.bind_some, after,
      if_neg fits]
    unfold RtpPacket.setPayload
    rw [if_neg fits]
    exact written
  · have fields := PacketHeader.mk.inj parsed.header
    have content := @content_of_wire renamed (loaded.withHeader first
      ((csrcs.flatMap wordBytes ++ extensionArea twoByte extensions) ++ (body ++ rest))) csrcs
      twoByte extensions body rest 0 _ _
      (by
        simp only [withHeader, wire, List.append_assoc]
        rfl) rfl (List.takeWhile_append_dropWhile ..).symm parsed.entries offset rfl rfl few
      (Nat.zero_le _) limited short
    rw [content]
    have header : renamed.header =
        { marker := p.marker
          payloadType
          sequenceNumber := number
          timestamp := p.timestamp
          ssrc := stream.mediaSsrc } := by
      rw [← fields.1, ← fields.2.2.2.1]
      rfl
    rw [header]
    rfl

end Receiving

section RoundTrip

variable {sender : RtxSender} {stream : RtxReceiveStream} {memory : List UInt8}
variable {extensions : RtpHeaderExtensionMap} {packet rtxPacket : RtpPacket}
variable {rtxPayloadType : UInt8}

/-- No header of one byte has the id that the parser takes for the reserved one. -/
def Readable (p : RtpPacket) (csrcs : List UInt32) : Prop :=
  (readHalfWord p.buffer (12 + 4 * csrcs.length)).toNat = kTwoByteExtensionProfileId ∨
    kOneByteHeaderExtensionReservedId ∉ p.extensionEntries.map ExtensionInfo.id

theorem Ended.allUnderstood {payload rest : List UInt8} {draft : Draft}
    (ended : Ended p csrcs payload draft rest) (readable : Readable p csrcs) :
    AllUnderstood draft := by
  have ids : p.extensionEntries.map ExtensionInfo.id = draft.extensions.map Prod.fst := by
    rw [ended.finished.entries, ids_entriesFrom]
  rcases readable with wide | absent
  · by_cases empty : draft.extensions = []
    · right
      rw [empty]
      exact List.not_mem_nil
    · left
      have shape : p.buffer = (fixedHeader p (firstByte (!draft.extensions.isEmpty) false
          csrcs.length) ++ csrcs.flatMap wordBytes) ++ (halfWordBytes (UInt16.ofNat (profileOf
            draft.twoByte)) ++ (halfWordBytes (UInt16.ofNat (wordsOf (extensionBlock draft.twoByte
              draft.extensions).length)) ++ (extensionBlock draft.twoByte draft.extensions ++
                (List.replicate (4 * wordsOf (extensionBlock draft.twoByte
                  draft.extensions).length - (extensionBlock draft.twoByte
                    draft.extensions).length) 0 ++ (payload ++ rest))))) := by
        rw [ended.finished.buffer]
        unfold wire extensionArea
        rw [if_neg empty]
        simp only [List.append_assoc]
        rfl
      rw [shape, readHalfWord_append] at wide
      · cases twoByte : draft.twoByte with
        | true => rfl
        | false =>
            rw [twoByte] at wide
            exact absurd wide (by decide)
      · rw [List.length_append, length_fixedHeader, length_csrcs]
  · right
    rw [← ids]
    exact absent

/-- **Retransmission.** If `BuildRtxPacket` returns a packet, and its payload type is not the
one of duplicates, then the packet that is sent is parsed, and what is handed to the media
sink is the media packet that was stored, with the path id and the number of the
retransmission. -/
theorem rtx_round_trip (limited : memory.length ≤ 65535)
    (mapped : sender.rtxPayloadTypeMap packet.payloadType = some rtxPayloadType)
    (small : rtxPayloadType < 128) (notDuplicate : rtxPayloadType ≠ 50)
    (inverse : stream.associatedPayloadTypes rtxPayloadType = some packet.payloadType)
    (built : sender.buildRtxPacket memory extensions packet = some (some rtxPacket))
    (subflowSeq : UInt16) (pathid : UInt8) :
    ∃ sent numbered placed received,
      sender.resend subflowSeq pathid rtxPacket = some (sent, numbered, placed) ∧
      parse sent.bytes = some received ∧
      ∀ spare : List UInt8, received.payload.length ≤ spare.length →
        ∃ media, stream.onRtpPacket spare received = some (some media) ∧
          media.header =
            { marker := packet.marker
              payloadType := packet.payloadType
              sequenceNumber := packet.sequenceNumber
              timestamp := packet.timestamp
              ssrc := stream.mediaSsrc } ∧
          media.csrcs = packet.csrcs ∧ media.payload = packet.payload ∧
          (Readable sent packet.csrcs →
            (numbered = true → media.valueOf (sender.rtpHeaderExtensionMap.ids .mpFlowSeqNum) =
              some (halfWordBytes subflowSeq)) ∧
            (placed = true → media.valueOf (sender.rtpHeaderExtensionMap.ids .sandy) =
              some [pathid])) := by
  unfold RtxSender.buildRtxPacket at built
  split at built
  · exact absurd (Option.some.inj built) (Option.some_ne_none _).symm
  rw [mapped] at built
  dsimp only at built
  rw [Option.bind_eq_bind] at built
  obtain ⟨headers, headersBuilt, ended⟩ := Option.bind_eq_some_iff.mp built
  obtain ⟨sound, capacity, header⟩ := sound_rtxHeaders limited small headersBuilt
  unfold RtxSender.addPayload at ended
  split at ended
  · exact absurd (Option.some.inj ended) (Option.some_ne_none _).symm
  next fits =>
  obtain ⟨rtx, set, same⟩ := Option.map_eq_some_iff.mp ended
  obtain rfl := Option.some.inj same
  let payload := halfWordBytes packet.sequenceNumber ++ packet.payload
  have length : payload.length = packet.payload.length + 2 := by
    rw [List.length_append, length_halfWordBytes, Nat.add_comm]
  have filled : payload ≠ [] := List.ne_nil_of_length_pos (by omega)
  obtain ⟨draft, rest, whole, again⟩ := sound.setPayload
    (show headers.payloadOffset + payload.length ≤ headers.capacity by
      rw [length]
      exact not_lt.mp fits) set (capacity.trans_le limited)
  obtain ⟨sent, numbered, placed, draft', resent, final, kept, flow, path⟩ :=
    whole.resend filled sender subflowSeq pathid
  obtain ⟨received, parsed, found⟩ := final.parse
  refine ⟨sent, numbered, placed, received, resent, parsed, ?_⟩
  intro spare room
  have sentHeader : sent.header = rtxHeader sender rtxPayloadType packet :=
    kept.trans (again.trans header)
  have type : received.payloadType = rtxPayloadType :=
    congrArg PacketHeader.payloadType (found.header.trans sentHeader)
  have typed : sent.payloadType < 128 := by
    have sentType : sent.payloadType = rtxPayloadType :=
      congrArg PacketHeader.payloadType sentHeader
    rw [sentType]
    exact small
  have receivedPayload : received.payload = payload :=
    payload_of_wire (found.buffer.trans (List.append_nil _).symm) found.offset found.payloadSize
  rw [receivedPayload, length] at room
  obtain ⟨media, taken, content⟩ := @mediaPacket_content sent packet.csrcs received draft'.twoByte
    draft'.extensions stream packet.payload spare packet.sequenceNumber packet.payloadType typed
    found (by omega) final.few final.limited
    (fun extension member => (final.valid.sized extension member).2.2)
  have marker : sent.marker = packet.marker := congrArg PacketHeader.marker sentHeader
  have timestamp : sent.timestamp = packet.timestamp := congrArg PacketHeader.timestamp sentHeader
  rw [marker, timestamp] at content
  refine ⟨media, ?_, congrArg PacketContent.header content, congrArg PacketContent.csrcs content,
    congrArg PacketContent.payload content, ?_⟩
  · unfold RtxReceiveStream.onRtpPacket
    rw [type, if_neg notDuplicate, receivedPayload, length, if_neg (by
      unfold kRtxHeaderSize
      omega), inverse]
    dsimp only
    rw [taken, Option.map_some]
  · intro readable
    have values : media.extensionValues = draft'.extensions :=
      (congrArg PacketContent.extensions content).trans
        ((understood_eq_self_iff draft').mpr (final.allUnderstood readable))
    rw [valueOf_eq_lookup, valueOf_eq_lookup, values]
    exact ⟨flow, path⟩

/-- A sender that retransmits packets of type 96, with the path and its number. -/
def plainSender (rtxPayloadType : UInt8) : RtxSender where
  sendingMedia := true
  rtxPayloadTypeMap := fun payloadType => if payloadType = 96 then some rtxPayloadType else none
  rtpHeaderExtensionMap :=
    { ids := fun type =>
        match type with
        | .sandy => 3
        | .mpFlowSeqNum => 4
        | _ => kInvalidId
      extmapAllowMixed := false }
  rtxSsrc := 2
  sequenceNumberRtx := 70
  alwaysSendMidAndRid := false
  rtxSsrcHasAcked := true
  mid := []
  rid := []

/-- The other end of its stream. -/
def plainReceiver (rtxPayloadType : UInt8) : RtxReceiveStream where
  associatedPayloadTypes := fun payloadType => if payloadType = rtxPayloadType then some 96 else none
  mediaSsrc := 1

/-- A media packet with a contributing source, a path id and a number. -/
def plainPacket : Option RtpPacket :=
  build (List.replicate 48 0) [7]
    [.setMarker true, .setPayloadType 96, .setSequenceNumber 1000, .setTimestamp 5000, .setSsrc 1,
      .setRawExtension 3 [1], .setRawExtension 4 [0, 9]] [1, 2, 3] 0

theorem rtx_round_trip_plain :
    ∃ packet rtxPacket sent received media, plainPacket = some packet ∧
      (plainSender 97).buildRtxPacket (List.replicate 60 0)
        (plainSender 97).rtpHeaderExtensionMap packet = some (some rtxPacket) ∧
      (plainSender 97).resend 9 3 rtxPacket = some (sent, true, true) ∧
      parse sent.bytes = some received ∧
      (plainReceiver 97).onRtpPacket (List.replicate 60 0) received = some (some media) ∧
      media.header = { packet.header with ssrc := 1 } ∧ media.csrcs = packet.csrcs ∧
      media.payload = packet.payload := by
  have stored : plainPacket.isSome = true := by decide +kernel
  obtain ⟨packet, isPlain⟩ := Option.isSome_iff_exists.mp stored
  have types : ∀ packet ∈ plainPacket, packet.payloadType = 96 := by decide +kernel
  have returned : ∀ packet ∈ plainPacket, ((plainSender 97).buildRtxPacket (List.replicate 60 0)
      (plainSender 97).rtpHeaderExtensionMap packet).join.isSome = true := by decide +kernel
  have taken : ∀ packet ∈ plainPacket, ∀ rtxPacket ∈ ((plainSender 97).buildRtxPacket
      (List.replicate 60 0) (plainSender 97).rtpHeaderExtensionMap packet).join,
        ((plainSender 97).resend 9 3 rtxPacket).map Prod.snd = some (true, true) ∧
        ∀ sent ∈ (plainSender 97).resend 9 3 rtxPacket, ∀ received ∈ parse sent.1.bytes,
          received.payload.length ≤ 60 := by decide +kernel
  obtain ⟨rtxPacket, joined⟩ := Option.isSome_iff_exists.mp (returned packet isPlain)
  have built := Option.join_eq_some_iff.mp joined
  have mapped : (plainSender 97).rtxPayloadTypeMap packet.payloadType = some 97 := by
    rw [types packet isPlain]
    rfl
  have inverse : (plainReceiver 97).associatedPayloadTypes 97 = some packet.payloadType := by
    rw [types packet isPlain]
    rfl
  obtain ⟨sent, numbered, placed, received, resent, parsed, handed⟩ :=
    rtx_round_trip (by decide) mapped (by decide) (by decide) inverse
      built 9 3
  obtain ⟨set, room⟩ := taken packet isPlain rtxPacket joined
  rw [resent] at set
  obtain ⟨rfl, rfl⟩ := Prod.mk.inj (Option.some.inj set)
  obtain ⟨media, done, header, csrcs, payload, -⟩ := handed (List.replicate 60 0)
    (by
      rw [List.length_replicate]
      exact room _ resent received parsed)
  exact ⟨packet, rtxPacket, sent, received, media, isPlain, built, resent, parsed, done, header,
    csrcs, payload⟩

/-- With 50 for the retransmissions, they are handed to nobody. -/
theorem rtx_dropped_as_duplicate :
    (plainPacket.bind fun packet =>
      ((plainSender 50).buildRtxPacket (List.replicate 60 0)
        (plainSender 50).rtpHeaderExtensionMap packet).join.bind fun rtxPacket =>
          ((plainSender 50).resend 9 3 rtxPacket).bind fun sent =>
            (parse sent.1.bytes).bind fun received =>
              (plainReceiver 50).onRtpPacket (List.replicate 60 0) received) = some none := by
  decide +kernel

end RoundTrip

end RtpPacket

end MpWebRtc
