import Mathlib.Logic.Function.Basic
import MpWebRtc.Rtp.RtxRoundTrip

/-!
# Media packets and their reserved extensions

`AllocatePacket` makes a packet with the extensions that are filled in later, with zeros in
them. The encoder side then sets header fields, other extensions and the payload. As far as this
goes, the extensions for the path are still zero, and every extension can be set again.
-/

namespace MpWebRtc

open Math.Memory

/-- The types, in their order. -/
def RtpExtensionType.all : List RtpExtensionType :=
  [.transmissionTimeOffset, .audioLevel, .inbandComfortNoise, .absoluteSendTime, .sandy,
    .mpFlowSeqNum, .mpTransportSequenceNumber, .absoluteCaptureTime, .videoRotation,
    .transportSequenceNumber, .transportSequenceNumber02, .playoutDelay, .videoContentType,
    .videoTiming, .rtpStreamId, .repairedRtpStreamId, .mid, .genericFrameDescriptor00,
    .genericFrameDescriptor02, .colorSpace]

theorem RtpExtensionType.mem_all (type : RtpExtensionType) : type ∈ RtpExtensionType.all := by
  cases type <;> decide

namespace RtpHeaderExtensionMap

variable (extensions : RtpHeaderExtensionMap)

/-- `GetType`. -/
def getType (id : UInt8) : Option RtpExtensionType :=
  RtpExtensionType.all.find? fun type => extensions.ids type = id

/-- `Register`, with the map that it leaves. -/
def register (id : UInt8) (type : RtpExtensionType) : RtpHeaderExtensionMap :=
  if id = kInvalidId then extensions
  else if (extensions.getType id).isSome then extensions
  else { extensions with ids := Function.update extensions.ids type id }

/-- `Deregister`. -/
def deregister (type : RtpExtensionType) : RtpHeaderExtensionMap :=
  { extensions with ids := Function.update extensions.ids type kInvalidId }

/-- A map that is filled by registration. -/
inductive Registered : RtpHeaderExtensionMap → Prop where
  | empty (extmapAllowMixed : Bool) : Registered ⟨fun _ => kInvalidId, extmapAllowMixed⟩
  | register {extensions : RtpHeaderExtensionMap} (filled : Registered extensions) (id : UInt8)
      (type : RtpExtensionType) : Registered (extensions.register id type)
  | deregister {extensions : RtpHeaderExtensionMap} (filled : Registered extensions)
      (type : RtpExtensionType) : Registered (extensions.deregister type)
  | setExtmapAllowMixed {extensions : RtpHeaderExtensionMap} (filled : Registered extensions)
      (extmapAllowMixed : Bool) : Registered { extensions with extmapAllowMixed }

variable {extensions}

theorem getType_eq_none {id : UInt8} (unused : (extensions.getType id).isSome ≠ true)
    (type : RtpExtensionType) : extensions.ids type ≠ id := by
  intro used
  have none := Option.not_isSome_iff_eq_none.mp unused
  exact List.find?_eq_none.mp none type type.mem_all (decide_eq_true used)

/-- Two types do not share an id. -/
theorem Registered.injective (filled : Registered extensions) {first second : RtpExtensionType}
    (valid : extensions.ids first ≠ kInvalidId)
    (same : extensions.ids first = extensions.ids second) : first = second := by
  induction filled with
  | empty extmapAllowMixed => exact absurd rfl valid
  | setExtmapAllowMixed _ _ ih => exact ih valid same
  | register _ id type ih =>
      unfold RtpHeaderExtensionMap.register at valid same
      split at valid
      · rename_i zero
        rw [if_pos zero] at same
        exact ih valid same
      next nonzero =>
      split at valid
      · rename_i used
        rw [if_neg nonzero, if_pos used] at same
        exact ih valid same
      next unused =>
      rw [if_neg nonzero, if_neg unused] at same
      dsimp only at valid same
      by_cases here : first = type
      · by_cases there : second = type
        · exact here.trans there.symm
        · rw [here, Function.update_self, Function.update_of_ne there] at same
          exact absurd same.symm (getType_eq_none unused second)
      · by_cases there : second = type
        · rw [there, Function.update_self, Function.update_of_ne here] at same
          exact absurd same (getType_eq_none unused first)
        · rw [Function.update_of_ne here, Function.update_of_ne there] at same
          rw [Function.update_of_ne here] at valid
          exact ih valid same
  | deregister _ type ih =>
      unfold RtpHeaderExtensionMap.deregister at valid same
      dsimp only at valid same
      by_cases here : first = type
      · rw [here, Function.update_self] at valid
        exact absurd rfl valid
      · rw [Function.update_of_ne here] at valid same
        by_cases there : second = type
        · rw [there, Function.update_self] at same
          exact absurd same valid
        · rw [Function.update_of_ne there] at same
          exact ih valid same

/-- The type of a registered id. -/
theorem Registered.getType_ids (filled : Registered extensions) {type : RtpExtensionType}
    (valid : extensions.ids type ≠ kInvalidId) :
    extensions.getType (extensions.ids type) = some type := by
  unfold getType
  cases found : RtpExtensionType.all.find? fun other =>
      extensions.ids other = extensions.ids type with
  | none => exact absurd (decide_eq_true rfl) (List.find?_eq_none.mp found type type.mem_all)
  | some other =>
      have same : extensions.ids other = extensions.ids type :=
        of_decide_eq_true (List.find?_some
          (p := fun other => decide (extensions.ids other = extensions.ids type)) found)
      rw [filled.injective (same ▸ valid) same]

end RtpHeaderExtensionMap

/-- A draft with all extensions changed. -/
def Draft.mapped (draft : Draft) (f : UInt8 × List UInt8 → UInt8 × List UInt8) : Draft :=
  { draft with extensions := draft.extensions.map f }

/-- What `RTPSender` has of its stream. -/
structure MediaSender where
  ssrc : UInt32
  csrcs : List UInt32
  rtpHeaderExtensionMap : RtpHeaderExtensionMap
  alwaysSendMidAndRid : Bool
  ssrcHasAcked : Bool
  mid : List UInt8
  rid : List UInt8

/-- The extensions that `AllocatePacket` reserves, with their sizes. -/
def reservedExtensions : List (RtpExtensionType × Nat) :=
  [(.absoluteSendTime, 3), (.transmissionTimeOffset, 3), (.transportSequenceNumber, 2), (.sandy, 1),
    (.mpFlowSeqNum, 2), (.mpTransportSequenceNumber, 2)]

/-- The extensions for the path, with their sizes. -/
def pathExtensions : List (RtpExtensionType × Nat) :=
  [(.sandy, 1), (.mpFlowSeqNum, 2), (.mpTransportSequenceNumber, 2)]

/-- `VideoTimingExtension::kValueSizeBytes`. -/
def kVideoTimingSize : Nat := 13

/-- `kPacketizationFinishDeltaOffset`. -/
def kPacketizationFinishDeltaOffset : Nat := 5

/-- `kPacerExitDeltaOffset`. -/
def kPacerExitDeltaOffset : Nat := 7

/-- `kNetwork2TimestampDeltaOffset`. -/
def kNetwork2TimestampDeltaOffset : Nat := 11

namespace RtpPacket

/-- `HasExtension`. -/
def hasExtension (p : RtpPacket) (extensions : RtpHeaderExtensionMap) (type : RtpExtensionType) :
    Prop :=
  (p.findExtension extensions type).isSome = true

instance (p : RtpPacket) (extensions : RtpHeaderExtensionMap) (type : RtpExtensionType) :
    Decidable (p.hasExtension extensions type) :=
  inferInstanceAs (Decidable (_ = true))

/-- `SetExtension` of a time of the video timing extension, at an offset in its value. -/
def setTiming (p : RtpPacket) (extensions : RtpHeaderExtensionMap) (delta : UInt16)
    (offset : Nat) : Option RtpPacket := do
  let (p, place) ← p.allocateExtension extensions .videoTiming kVideoTimingSize
  match place with
  | none => some p
  | some start => p.write (start + offset) (halfWordBytes delta)

end RtpPacket

namespace MediaSender

variable (sender : MediaSender)

/-- `ReserveExtension`. -/
def reserveExtension (packet : RtpPacket) (extension : RtpExtensionType × Nat) : Option RtpPacket :=
  (packet.setExtension sender.rtpHeaderExtensionMap extension.1
    (List.replicate extension.2 0)).map Prod.fst

/-- An id of the stream, if there is one. -/
def setStreamId (type : RtpExtensionType) (text : List UInt8) (packet : RtpPacket) :
    Option RtpPacket :=
  if text = [] then some packet
  else (packet.setStringExtension sender.rtpHeaderExtensionMap type text).map Prod.fst

/-- The fixed header and the contributing sources. -/
def startPacket (memory : List UInt8) : Option RtpPacket := do
  let packet ← RtpPacket.initial memory
  let packet := { packet with extmapAllowMixed := sender.rtpHeaderExtensionMap.extmapAllowMixed }
  let packet ← packet.setSsrc sender.ssrc
  packet.setCsrcs sender.csrcs

/-- `AllocatePacket`, in memory of `max_packet_size_` and the extra capacity. -/
def allocatePacket (memory : List UInt8) : Option RtpPacket := do
  let packet ← sender.startPacket memory
  let packet ← reservedExtensions.foldlM sender.reserveExtension packet
  if sender.alwaysSendMidAndRid ∨ ¬sender.ssrcHasAcked then do
    let packet ← sender.setStreamId .mid sender.mid packet
    sender.setStreamId .rtpStreamId sender.rid packet
  else some packet

/-- A packet from `AllocatePacket`, with further header fields and extensions. -/
inductive Prepared : RtpPacket → Prop where
  | allocated {memory : List UInt8} {p : RtpPacket} (limited : memory.length ≤ 65535)
      (few : sender.csrcs.length ≤ 15) (done : sender.allocatePacket memory = some p) : Prepared p
  | headed {p p' : RtpPacket} {call : BuildCall} (prepared : Prepared p)
      (header : call.extensionId = none) (inRange : call.InRange) (ran : p.run call = some p') :
      Prepared p'
  | extended {p p' : RtpPacket} {type : RtpExtensionType} {value : List UInt8} {done : Bool}
      (prepared : Prepared p) (other : type ∉ pathExtensions.map Prod.fst)
      (set : p.setExtension sender.rtpHeaderExtensionMap type value = some (p', done)) :
      Prepared p'

/-- A packet with its payload, which a copy in RED sets again, before it is handed to the
splitter. -/
inductive Media : RtpPacket → Prop where
  | loaded {p p' : RtpPacket} {payload : List UInt8} (prepared : sender.Prepared p)
      (filled : payload ≠ []) (fits : p.payloadOffset + payload.length ≤ p.capacity)
      (set : p.setPayload payload = some p') : Media p'
  | headed {p p' : RtpPacket} {call : BuildCall} (media : Media p)
      (header : call.extensionId = none) (inRange : call.InRange) (ran : p.run call = some p') :
      Media p'
  | reloaded {p p' : RtpPacket} {payload : List UInt8} (media : Media p) (filled : payload ≠ [])
      (fits : p.payloadOffset + payload.length ≤ p.capacity)
      (set : p.setPayload payload = some p') : Media p'
  | packetized {p p' : RtpPacket} {delta : UInt16} (media : Media p)
      (present : p.hasExtension sender.rtpHeaderExtensionMap .videoTiming)
      (set : p.setTiming sender.rtpHeaderExtensionMap delta kPacketizationFinishDeltaOffset =
        some p') : Media p'

end MediaSender

namespace RtpPacket

variable {sender : MediaSender} {p p' : RtpPacket} {draft : Draft} {rest : List UInt8}

/-- An extension for the path is zero. -/
def ReservedZero (sender : MediaSender) (extension : UInt8 × List UInt8) : Prop :=
  ∀ field ∈ pathExtensions, sender.rtpHeaderExtensionMap.ids field.1 ≠ kInvalidId →
    extension.1 = sender.rtpHeaderExtensionMap.ids field.1 →
      extension.2 = List.replicate field.2 0

/-- An extension could be set again. -/
def Settable (sender : MediaSender) (extension : UInt8 × List UInt8) : Prop :=
  twoByteHeaderRequired extension.1 extension.2.length = true →
    sender.rtpHeaderExtensionMap.extmapAllowMixed = true

/-- A packet before its payload. -/
structure Laid (sender : MediaSender) (p : RtpPacket) (draft : Draft) (rest : List UInt8) :
    Prop where
  follows : Follows p draft sender.csrcs rest
  valid : draft.Valid
  mixed : p.extmapAllowMixed = sender.rtpHeaderExtensionMap.extmapAllowMixed
  limited : p.capacity ≤ 65535
  reserved : ∀ extension ∈ draft.extensions, ReservedZero sender extension
  settable : ∀ extension ∈ draft.extensions, Settable sender extension

theorem mem_set {id : UInt8} {value : List UInt8} {extension : UInt8 × List UInt8}
    (member : extension ∈ (draft.set id value).extensions) :
    extension ∈ draft.extensions ∨ extension = (id, value) := by
  unfold Draft.set at member
  split at member
  · obtain ⟨old, listed, rfl⟩ := List.mem_map.mp member
    unfold overwritten
    split
    · exact .inr rfl
    · exact .inl listed
  · rcases List.mem_append.mp member with listed | new
    · exact .inl listed
    · exact .inr (List.mem_singleton.mp new)

theorem Laid.set {id : UInt8} {value rest' : List UInt8} (laid : Laid sender p draft rest)
    (follows : Follows p' (draft.set id value) sender.csrcs rest')
    (valid : (draft.set id value).Valid) (capacity : p'.capacity = p.capacity)
    (settings : p'.settings = p.settings) (reserved : ReservedZero sender (id, value))
    (settable : Settable sender (id, value)) : Laid sender p' (draft.set id value) rest' where
  follows := follows
  valid := valid
  mixed := (congrArg Prod.fst settings).trans laid.mixed
  limited := capacity.trans_le laid.limited
  reserved := by
    intro extension member
    rcases mem_set member with listed | rfl
    · exact laid.reserved extension listed
    · exact reserved
  settable := by
    intro extension member
    rcases mem_set member with listed | rfl
    · exact laid.settable extension listed
    · exact settable

/-- An extension is set, or its place is left with any content if it cannot be written. -/
theorem Laid.setAllocated {type : RtpExtensionType} {value : List UInt8} {writable done : Bool}
    (laid : Laid sender p draft rest)
    (reserved : ∀ stored : List UInt8, (writable = true → stored = value) →
      ReservedZero sender (sender.rtpHeaderExtensionMap.ids type, stored))
    (set : p.setAllocated sender.rtpHeaderExtensionMap type value writable = some (p', done)) :
    ∃ draft' rest', Laid sender p' draft' rest' := by
  unfold RtpPacket.setAllocated at set
  rw [Option.bind_eq_bind] at set
  rcases allocateExtension_cases p sender.rtpHeaderExtensionMap type value.length with
    refused | ⟨inRange, allowed, raw⟩
  · rw [refused, Option.bind_some] at set
    obtain ⟨rfl, -⟩ := Prod.mk.inj (Option.some.inj set)
    exact ⟨draft, rest, laid⟩
  rw [raw] at set
  obtain ⟨⟨q, place⟩, allocated, result⟩ := Option.bind_eq_some_iff.mp set
  have settable (stored : List UInt8) (same : stored.length = value.length) :
      Settable sender (sender.rtpHeaderExtensionMap.ids type, stored) := by
    intro required
    rw [← laid.mixed]
    dsimp only at required
    rw [same] at required
    exact allowed required
  rcases laid.follows.allocateRawExtension laid.valid laid.limited inRange allowed allocated with
    ⟨rfl, rfl⟩ | ⟨offset, rfl, capacity, settings, ⟨old, rest', long, opened⟩, written⟩
  · obtain ⟨rfl, -⟩ := Prod.mk.inj (Option.some.inj result)
    exact ⟨draft, rest, laid⟩
  · cases writable with
    | false =>
        obtain ⟨rfl, -⟩ := Prod.mk.inj (Option.some.inj result)
        exact ⟨_, rest', laid.set opened (written old long).1 capacity settings
          (reserved old nofun) (settable old long)⟩
    | true =>
        obtain ⟨valid, p'', rest'', wrote, followed, capacity', settings'⟩ := written value rfl
        obtain ⟨q', other, same⟩ := Option.map_eq_some_iff.mp result
        obtain ⟨rfl, -⟩ := Prod.mk.inj same
        obtain rfl := Option.some.inj (wrote.symm.trans other)
        exact ⟨_, rest'', laid.set followed valid capacity' settings'
          (reserved value fun _ => rfl) (settable value rfl)⟩

/-- Extensions of other types are not extensions for the path. -/
theorem reservedZero_of_other (filled : sender.rtpHeaderExtensionMap.Registered)
    {type : RtpExtensionType} (other : type ∉ pathExtensions.map Prod.fst) (value : List UInt8) :
    ReservedZero sender (sender.rtpHeaderExtensionMap.ids type, value) := by
  intro field member valid same
  have equal := filled.injective valid same.symm
  exact absurd (equal ▸ List.mem_map_of_mem member) other

theorem reservedZero_of_zero (filled : sender.rtpHeaderExtensionMap.Registered)
    {extension : RtpExtensionType × Nat} (listed : extension ∈ reservedExtensions) :
    ReservedZero sender
      (sender.rtpHeaderExtensionMap.ids extension.1, List.replicate extension.2 0) := by
  intro field member valid same
  have equal := filled.injective valid same.symm
  have size : ∀ field ∈ pathExtensions, ∀ extension ∈ reservedExtensions,
      field.1 = extension.1 → extension.2 = field.2 := by
    decide
  dsimp only
  rw [size field member extension listed equal]

/-- A call for a header field. -/
theorem Laid.run {call : BuildCall} (laid : Laid sender p draft rest)
    (header : call.extensionId = none) (inRange : call.InRange) (ran : p.run call = some p') :
    ∃ draft' rest', Laid sender p' draft' rest' := by
  have fresh : ∀ id ∈ call.extensionId, id ∉ draft.extensions.map Prod.fst := by
    rw [header]
    exact fun _ none => absurd none (by simp)
  have allowed : call.Allowed p.extmapAllowMixed := by
    cases call with
    | setRawExtension id value => cases header
    | setMarker | setPayloadType | setSequenceNumber | setTimestamp | setSsrc => exact trivial
  have extensions (start capacity : Nat) :
      (draft.apply start capacity call).extensions = draft.extensions ∧
        (draft.apply start capacity call).blockSize = draft.blockSize := by
    cases call with
    | setRawExtension id value => cases header
    | setMarker | setPayloadType | setSequenceNumber | setTimestamp | setSsrc => exact ⟨rfl, rfl⟩
  have padded : (draft.apply (16 + 4 * sender.csrcs.length) p.capacity call).Padded
      (16 + 4 * sender.csrcs.length) p.capacity := by
    have before := laid.follows.padded
    unfold Draft.Padded at before ⊢
    rw [(extensions _ _).1, (extensions _ _).2]
    exact before
  obtain ⟨q, rest', done, follows, capacity, mixed⟩ :=
    laid.follows.run laid.valid laid.limited inRange allowed fresh padded
  obtain rfl := Option.some.inj (done.symm.trans ran)
  refine ⟨_, rest', follows, laid.valid.apply inRange fresh, mixed.trans laid.mixed,
    capacity.trans_le laid.limited, ?_, ?_⟩
  · rw [(extensions _ _).1]
    exact laid.reserved
  · rw [(extensions _ _).1]
    exact laid.settable

variable {memory : List UInt8}

theorem laid_startPacket (limited : memory.length ≤ 65535)
    (few : sender.csrcs.length ≤ 15) (started : sender.startPacket memory = some p) :
    ∃ draft rest, Laid sender p draft rest := by
  unfold MediaSender.startPacket at started
  simp only [Option.bind_eq_bind] at started
  obtain ⟨empty, cleared, started⟩ := Option.bind_eq_some_iff.mp started
  obtain ⟨sourced, source, listed⟩ := Option.bind_eq_some_iff.mp started
  obtain ⟨empty', rest, cleared', built, capacity, settings⟩ :=
    built_initial (room_of_initial cleared)
  obtain rfl := Option.some.inj (cleared'.symm.trans cleared)
  have initial : empty'.header = {} := congrArg Prod.snd settings
  let mixed : RtpPacket :=
    { empty' with extmapAllowMixed := sender.rtpHeaderExtensionMap.extmapAllowMixed }
  have follows : Follows mixed {} [] rest :=
    ⟨⟨built.buffer, built.entries, built.size, built.offset, built.noPayload, built.noPadding,
      built.few, built.typed⟩, initial⟩
  obtain ⟨sourced', rest', source', follows', capacity', mixed'⟩ :=
    @Follows.run _ _ _ _ (.setSsrc sender.ssrc) follows valid_empty (capacity.trans_le limited)
      trivial trivial nofun (.inl rfl)
  obtain rfl := Option.some.inj (source'.symm.trans source)
  obtain ⟨packet, rest'', listed', built', capacity'', settings'⟩ :=
    follows'.built.setCsrcs few (room_of_setCsrcs listed)
  obtain rfl := Option.some.inj (listed'.symm.trans listed)
  refine ⟨{ header := { ssrc := sender.ssrc } }, rest'', ⟨built', ?_⟩, ?_, ?_, ?_, ?_, ?_⟩
  · exact (congrArg Prod.snd settings').trans follows'.header
  · exact ⟨valid_empty.typed, valid_empty.sized, valid_empty.distinct, valid_empty.opened,
      valid_empty.small⟩
  · exact (congrArg Prod.fst settings').trans mixed'
  · rw [capacity'', capacity']
    exact capacity.trans_le limited
  · exact fun _ member => absurd member List.not_mem_nil
  · exact fun _ member => absurd member List.not_mem_nil

section

variable (filled : sender.rtpHeaderExtensionMap.Registered)
include filled

theorem Laid.reserve {extensions : List (RtpExtensionType × Nat)} (laid : Laid sender p draft rest)
    (listed : ∀ extension ∈ extensions, extension ∈ reservedExtensions)
    (reserved : extensions.foldlM sender.reserveExtension p = some p') :
    ∃ draft' rest', Laid sender p' draft' rest' := by
  induction extensions generalizing p draft rest with
  | nil =>
      obtain rfl := Option.some.inj reserved
      exact ⟨draft, rest, laid⟩
  | cons extension extensions ih =>
      rw [List.foldlM_cons, Option.bind_eq_bind] at reserved
      obtain ⟨next, first, others⟩ := Option.bind_eq_some_iff.mp reserved
      obtain ⟨⟨next', done⟩, set, rfl⟩ := Option.map_eq_some_iff.mp first
      obtain ⟨draft', rest', laid'⟩ := laid.setAllocated (fun stored same => by
        rw [same rfl]
        exact reservedZero_of_zero filled (listed extension List.mem_cons_self)) set
      exact ih laid' (fun other member => listed other (List.mem_cons_of_mem _ member)) others

theorem Laid.setStreamId
    {type : RtpExtensionType} (other : type ∉ pathExtensions.map Prod.fst) {text : List UInt8}
    (laid : Laid sender p draft rest) (set : sender.setStreamId type text p = some p') :
    ∃ draft' rest', Laid sender p' draft' rest' := by
  unfold MediaSender.setStreamId at set
  split at set
  · obtain rfl := Option.some.inj set
    exact ⟨draft, rest, laid⟩
  · obtain ⟨⟨next, done⟩, written, rfl⟩ := Option.map_eq_some_iff.mp set
    exact laid.setAllocated (fun stored _ => reservedZero_of_other filled other stored) written

theorem laid_allocatePacket (limited : memory.length ≤ 65535) (few : sender.csrcs.length ≤ 15)
    (allocated : sender.allocatePacket memory = some p) :
    ∃ draft rest, Laid sender p draft rest := by
  unfold MediaSender.allocatePacket at allocated
  simp only [Option.bind_eq_bind] at allocated
  obtain ⟨started, start, allocated⟩ := Option.bind_eq_some_iff.mp allocated
  obtain ⟨reserved, reserve, streamed⟩ := Option.bind_eq_some_iff.mp allocated
  obtain ⟨draft, rest, laid⟩ := laid_startPacket limited few start
  obtain ⟨draft', rest', laid'⟩ := laid.reserve filled (fun _ member => member) reserve
  split at streamed
  · obtain ⟨named, mid, rid⟩ := Option.bind_eq_some_iff.mp streamed
    obtain ⟨_, _, laid''⟩ := laid'.setStreamId filled (by decide) mid
    exact laid''.setStreamId filled (by decide) rid
  · obtain rfl := Option.some.inj streamed
    exact ⟨draft', rest', laid'⟩

/-- A packet before its payload, whatever was set. -/
theorem laid_of_prepared
    (prepared : sender.Prepared p) : ∃ draft rest, Laid sender p draft rest := by
  induction prepared with
  | allocated limited few done => exact laid_allocatePacket filled limited few done
  | headed _ header inRange ran ih =>
      obtain ⟨draft, rest, laid⟩ := ih
      exact laid.run header inRange ran
  | extended _ other set ih =>
      obtain ⟨draft, rest, laid⟩ := ih
      exact laid.setAllocated (fun stored _ => reservedZero_of_other filled other stored) set

end

section Loaded

variable {payload : List UInt8}

/-- A packet with its payload. -/
structure Ready (sender : MediaSender) (p : RtpPacket) (payload : List UInt8) (draft : Draft)
    (rest : List UInt8) : Prop where
  ended : Ended p sender.csrcs payload draft rest
  filled : payload ≠ []
  mixed : p.extmapAllowMixed = sender.rtpHeaderExtensionMap.extmapAllowMixed
  settable : ∀ extension ∈ draft.extensions, Settable sender extension

theorem Laid.setPayload (laid : Laid sender p draft rest) (filled : payload ≠ [])
    (fits : p.payloadOffset + payload.length ≤ p.capacity)
    (set : p.setPayload payload = some p') : ∃ rest', Ready sender p' payload draft rest' := by
  obtain ⟨rest', ended, same⟩ := laid.follows.loaded fits set laid.valid laid.limited
  exact ⟨rest', ended, filled, (congrArg Prod.fst same).trans laid.mixed, laid.settable⟩

section

variable (ready : Ready sender p payload draft rest)
include ready

/-- Setting the payload again replaces it. -/
theorem Ready.setPayload {again : List UInt8} (filled : again ≠ [])
    (fits : p.payloadOffset + again.length ≤ p.capacity)
    (set : p.setPayload again = some p') : ∃ rest', Ready sender p' again draft rest' := by
  have ended := ready.ended
  have finished := ended.finished
  have type : p.payloadType = draft.header.payloadType := congrArg PacketHeader.payloadType ended.header
  let size := (extensionBlock draft.twoByte draft.extensions).length
  let bare : RtpPacket := { p with payloadSize := 0, extensionsSize := size }
  have room : bare.payloadOffset + again.length ≤ bare.capacity := fits
  have built : Built bare sender.csrcs draft.twoByte draft.extensions
      (payload ++ (paddingOf 0 ++ rest)) := by
    refine ⟨finished.buffer.trans ?_, finished.entries, rfl, finished.offset, rfl,
      finished.paddingSize, ended.few, type ▸ ended.valid.typed⟩
    simp only [wire, List.append_assoc]
    rfl
  have sized : bare.setPayload again = some { p' with extensionsSize := size } := by
    unfold RtpPacket.setPayload write at set ⊢
    rw [if_neg (not_lt.mpr fits)] at set
    rw [if_neg (not_lt.mpr room)]
    obtain ⟨buffer, written, rfl⟩ := Option.map_eq_some_iff.mp set
    exact Option.map_eq_some_iff.mpr ⟨buffer, written, rfl⟩
  obtain ⟨rest', loaded, same⟩ := built.loaded room sized
  exact ⟨rest', ⟨⟨loaded.buffer, loaded.entries, loaded.offset, loaded.payloadSize,
    loaded.paddingSize⟩, (congrArg Prod.snd same).trans ended.header, ended.valid, ended.limited,
    ended.few⟩, filled, (congrArg Prod.fst same).trans ready.mixed, ready.settable⟩

/-- A header field is set after the payload. -/
theorem Ready.reheader {header : PacketHeader}
    (set : p'.header = header) (typed : header.payloadType < 128) (others : p' = { p with
      marker := p'.marker
      payloadType := p'.payloadType
      sequenceNumber := p'.sequenceNumber
      timestamp := p'.timestamp
      ssrc := p'.ssrc }) :
    Ready sender (p'.withHeader (firstByte (!draft.extensions.isEmpty) (0 != 0)
      sender.csrcs.length) (sender.csrcs.flatMap wordBytes ++ (extensionArea draft.twoByte
        draft.extensions ++ (payload ++ paddingOf 0)) ++ rest)) payload { draft with header }
      rest := by
  have finished := ready.ended.finished
  have valid := ready.ended.valid
  refine ⟨⟨⟨?_, ?_, ?_, ?_, ?_⟩, set, ⟨typed, valid.sized, valid.distinct, valid.opened,
    valid.small⟩, ready.ended.limited, ready.ended.few⟩, ready.filled, ?_, ready.settable⟩
  · exact (List.append_assoc ..).symm
  · rw [others]
    exact finished.entries
  · rw [others]
    exact finished.offset
  · rw [others]
    exact finished.payloadSize
  · rw [others]
    exact finished.paddingSize
  · rw [others]
    exact ready.mixed

theorem Ready.run {call : BuildCall}
    (header : call.extensionId = none) (inRange : call.InRange) (ran : p.run call = some p') :
    ∃ header', Ready sender p' payload { draft with header := header' } rest := by
  have shape : p.buffer = fixedHeader p (firstByte (!draft.extensions.isEmpty) (0 != 0)
      sender.csrcs.length) ++ (sender.csrcs.flatMap wordBytes ++ (extensionArea draft.twoByte
        draft.extensions ++ (payload ++ paddingOf 0)) ++ rest) :=
    ready.ended.finished.buffer.trans (List.append_assoc ..)
  have same := ready.ended.header
  have type : p.payloadType = draft.header.payloadType := congrArg PacketHeader.payloadType same
  have typed : p.payloadType < 128 := type ▸ ready.ended.valid.typed
  cases call with
  | setRawExtension id value => cases header
  | setMarker marker =>
      obtain rfl := Option.some.inj ((setMarker_eq shape typed marker).symm.trans ran)
      exact ⟨_, ready.reheader rfl typed rfl⟩
  | setPayloadType payloadType =>
      obtain rfl := Option.some.inj ((setPayloadType_eq shape typed payloadType).symm.trans ran)
      exact ⟨_, ready.reheader rfl inRange rfl⟩
  | setSequenceNumber sequenceNumber =>
      obtain rfl := Option.some.inj ((setSequenceNumber_eq shape sequenceNumber).symm.trans ran)
      exact ⟨_, ready.reheader rfl typed rfl⟩
  | setTimestamp timestamp =>
      obtain rfl := Option.some.inj ((setTimestamp_eq shape timestamp).symm.trans ran)
      exact ⟨_, ready.reheader rfl typed rfl⟩
  | setSsrc ssrc =>
      obtain rfl := Option.some.inj ((setSsrc_eq shape ssrc).symm.trans ran)
      exact ⟨_, ready.reheader rfl typed rfl⟩

/-- After the payload, the place of an extension is found if it is there with the same length,
and there is no place otherwise. -/
theorem Ready.allocateExtension (type : RtpExtensionType) (length : Nat) :
    (∃ before old others,
      draft.extensions = before ++ (sender.rtpHeaderExtensionMap.ids type, old) :: others ∧
      old.length = length ∧
      p.allocateExtension sender.rtpHeaderExtensionMap type length =
        some (p, some (16 + 4 * sender.csrcs.length +
          (extensionBlock draft.twoByte before).length + headerSize draft.twoByte))) ∨
    (∀ extension ∈ draft.extensions, ¬(extension.1 = sender.rtpHeaderExtensionMap.ids type ∧
      extension.2.length = length)) ∧
      p.allocateExtension sender.rtpHeaderExtensionMap type length = some (p, none) := by
  have ended := ready.ended
  have distinct := ended.valid.distinct
  generalize hid : sender.rtpHeaderExtensionMap.ids type = id at *
  by_cases listed : id ∈ draft.extensions.map Prod.fst
  · obtain ⟨before, old, others, split, first⟩ := exists_middle listed
    have member : (id, old) ∈ draft.extensions := by
      rw [split]
      exact List.mem_append_cons_self
    have sized := ended.valid.sized _ member
    have entries := ended.finished.entries
    have limited := ended.limited
    rw [split] at entries limited
    have raw := @allocateRawExtension_middle p sender.csrcs id length draft.twoByte before others
      old entries first sized.2.2 limited
    by_cases same : old.length = length
    · left
      refine ⟨before, old, others, split, same, ?_⟩
      have mixed : (!p.extmapAllowMixed) = true → twoByteHeaderRequired id length = false := by
        intro barred
        by_contra required
        have allowed := ready.settable _ member
          (by rw [Bool.not_eq_false] at required; rw [← same] at required; exact required)
        rw [ready.mixed, allowed] at barred
        cases barred
      have narrow (barred : (!p.extmapAllowMixed) = true) : ¬kOneByteHeaderExtensionMaxId < id ∧
          ¬kOneByteHeaderExtensionMaxValueSize < length := by
        have unneeded := mixed barred
        unfold twoByteHeaderRequired at unneeded
        simp only [Bool.or_eq_false_iff, decide_eq_false_iff_not] at unneeded
        exact unneeded.1
      unfold RtpPacket.allocateExtension
      rw [hid, if_neg, if_neg, if_neg, raw, if_pos same]
      · exact fun ⟨barred, wide⟩ => (narrow barred).1 wide
      · rintro rfl
        exact absurd sized.1 (by decide : ¬(1 : UInt8) ≤ 0)
      · rintro (zero | long | ⟨barred, wide⟩)
        · have positive := sized.2.1
          dsimp only at positive
          omega
        · have short := sized.2.2
          dsimp only at short
          unfold kMaxValueSize at long
          omega
        · exact (narrow barred).2 wide
    · right
      constructor
      · rintro extension member' ⟨here, size⟩
        have equal : extension = (id, old) := by
          rw [split] at member' distinct
          rw [List.map_append, List.map_cons, List.nodup_append] at distinct
          have named (list : List (UInt8 × List UInt8)) (there : extension ∈ list) :
              id ∈ list.map Prod.fst := by
            rw [← here]
            exact List.mem_map_of_mem there
          rcases List.mem_append.mp member' with earlier | later
          · exact absurd (named before earlier) first
          · rcases List.mem_cons.mp later with rfl | later
            · rfl
            · exact absurd (named others later) (List.nodup_cons.mp distinct.2.1).1
        rw [equal] at size
        exact same size
      · rcases allocateExtension_cases p sender.rtpHeaderExtensionMap type length with
          refused | ⟨-, -, passed⟩
        · exact refused
        · rw [passed, hid, raw, if_neg same]
  · right
    constructor
    · rintro extension member ⟨here, -⟩
      exact listed (here ▸ List.mem_map_of_mem member)
    · rcases allocateExtension_cases p sender.rtpHeaderExtensionMap type length with
        refused | ⟨-, -, passed⟩
      · exact refused
      · rw [passed, hid]
        unfold RtpPacket.allocateRawExtension findExtensionInfo
        rw [ended.finished.entries, find_entriesFrom_eq_none listed]
        dsimp only
        rw [if_pos]
        left
        rw [ended.finished.payloadSize]
        exact List.length_pos_of_ne_nil ready.filled

end

/-- An extension with some bytes of its value replaced, if it has the id and the length. -/
def patchAt (id : UInt8) (length skip : Nat) (new : List UInt8)
    (extension : UInt8 × List UInt8) : UInt8 × List UInt8 :=
  if extension.1 = id ∧ extension.2.length = length then (id, patched skip new extension.2)
  else extension

theorem overwritten_eq_patchAt (id : UInt8) (value : List UInt8) (extension : UInt8 × List UInt8) :
    overwritten id value extension = patchAt id value.length 0 value extension := by
  unfold overwritten patchAt
  split
  · next here => rw [patched_zero here.2]
  · rfl

theorem patchAt_of_ne {id : UInt8} {extension : UInt8 × List UInt8} (other : extension.1 ≠ id)
    (length skip : Nat) (new : List UInt8) : patchAt id length skip new extension = extension :=
  if_neg fun here => other here.1

theorem map_patchAt_middle {before others : List (UInt8 × List UInt8)} {id : UInt8}
    {old new : List UInt8} {skip : Nat}
    (distinct : ((before ++ (id, old) :: others).map Prod.fst).Nodup) :
    (before ++ (id, old) :: others).map (patchAt id old.length skip new) =
      before ++ (id, patched skip new old) :: others := by
  rw [List.map_append, List.map_cons, List.nodup_append] at distinct
  have same (list : List (UInt8 × List UInt8)) (absent : id ∉ list.map Prod.fst) :
      list.map (patchAt id old.length skip new) = list := by
    refine (List.map_congr_left fun extension member => ?_).trans (List.map_id _)
    refine patchAt_of_ne (fun here => absent ?_) ..
    rw [← here]
    exact List.mem_map_of_mem member
  have first : id ∉ before.map Prod.fst := fun member =>
    distinct.2.2 id member id List.mem_cons_self rfl
  have here : patchAt id old.length skip new (id, old) = (id, patched skip new old) :=
    if_pos ⟨rfl, rfl⟩
  rw [List.map_append, List.map_cons, same before first,
    same others (List.nodup_cons.mp distinct.2.1).1, here]

section

variable (ready : Ready sender p payload draft rest)
include ready

/-- Some bytes of an extension that is there are written. -/
theorem Ready.patch {before others : List (UInt8 × List UInt8)} {id : UInt8} {old new : List UInt8}
    {skip : Nat} (split : draft.extensions = before ++ (id, old) :: others)
    (inside : skip + new.length ≤ old.length) :
    ∃ p', p.write (16 + 4 * sender.csrcs.length + (extensionBlock draft.twoByte before).length +
        headerSize draft.twoByte + skip) new = some p' ∧
      Ready sender p' payload
        (draft.mapped (patchAt id old.length skip new)) rest ∧
      p'.settings = p.settings := by
  obtain ⟨header, twoByte, list⟩ := draft
  obtain rfl : list = before ++ (id, old) :: others := split
  have ended := ready.ended
  have same : old.length = (patched skip new old).length := (length_patched inside).symm
  obtain ⟨p', written, finished, -, settings⟩ := ended.finished.patch inside
  refine ⟨p', written, ?_, settings⟩
  unfold Draft.mapped
  dsimp only
  rw [map_patchAt_middle ended.valid.distinct]
  refine ⟨⟨finished, (congrArg Prod.snd settings).trans ended.header,
    valid_replace ended.valid same, ?_, ended.few⟩, ready.filled,
    (congrArg Prod.fst settings).trans ready.mixed, ?_⟩
  · rw [← length_extensionBlock_of_shape (shapeOf_replace same)]
    exact ended.limited
  · intro extension member
    rcases List.mem_append.mp member with earlier | later
    · exact ready.settable extension (List.mem_append_left _ earlier)
    · rcases List.mem_cons.mp later with rfl | later
      · have settable := ready.settable (id, old) List.mem_append_cons_self
        unfold Settable at settable ⊢
        dsimp only at settable ⊢
        rwa [← same]
      · exact ready.settable extension (List.mem_append_right _ (List.mem_cons_of_mem _ later))

/-- What is written to the place of an extension is written to the extension, if there is one of
this length. -/
theorem Ready.writeExtension {length skip : Nat} {new : List UInt8} (type : RtpExtensionType)
    (inside : skip + new.length ≤ length) :
    ∃ p' place, p.allocateExtension sender.rtpHeaderExtensionMap type length = some (p, place) ∧
      (match place with
        | none => some p
        | some start => p.write (start + skip) new) = some p' ∧
      Ready sender p' payload
        (draft.mapped (patchAt (sender.rtpHeaderExtensionMap.ids type) length skip new)) rest ∧
      p'.settings = p.settings := by
  rcases ready.allocateExtension type length with
    ⟨before, old, others, split, rfl, allocated⟩ | ⟨absent, refused⟩
  · obtain ⟨p', written, patched, settings⟩ := ready.patch split inside
    exact ⟨p', _, allocated, written, patched, settings⟩
  · have same : draft.extensions.map (patchAt (sender.rtpHeaderExtensionMap.ids type) length skip
        new) = draft.extensions :=
      (List.map_congr_left fun extension member => if_neg (absent extension member)).trans
        (List.map_id _)
    unfold Draft.mapped
    rw [same]
    exact ⟨p, none, refused, rfl, ready, rfl⟩

theorem Ready.setExtension (type : RtpExtensionType) (value : List UInt8) :
    ∃ p' done, p.setExtension sender.rtpHeaderExtensionMap type value = some (p', done) ∧
      Ready sender p' payload
        (draft.mapped (overwritten (sender.rtpHeaderExtensionMap.ids type) value)) rest ∧
      p'.settings = p.settings := by
  obtain ⟨p', place, allocated, written, ready', settings⟩ :=
    ready.writeExtension type (Nat.zero_add value.length).le
  have whole : overwritten (sender.rtpHeaderExtensionMap.ids type) value =
      patchAt (sender.rtpHeaderExtensionMap.ids type) value.length 0 value :=
    funext (overwritten_eq_patchAt _ _)
  rw [whole]
  unfold RtpPacket.setExtension RtpPacket.setAllocated
  rw [Option.bind_eq_bind, allocated, Option.bind_some]
  cases place with
  | none =>
      obtain rfl := Option.some.inj written
      exact ⟨p, false, rfl, ready', settings⟩
  | some start =>
      refine ⟨p', true, ?_, ready', settings⟩
      exact Option.map_eq_some_iff.mpr ⟨p', written, rfl⟩

theorem Ready.setTiming (delta : UInt16) {offset : Nat} (inside : offset + 2 ≤ kVideoTimingSize) :
    ∃ p', p.setTiming sender.rtpHeaderExtensionMap delta offset = some p' ∧
      Ready sender p' payload
        (draft.mapped (patchAt (sender.rtpHeaderExtensionMap.ids .videoTiming) kVideoTimingSize
          offset (halfWordBytes delta))) rest ∧
      p'.settings = p.settings := by
  have inside' : offset + (halfWordBytes delta).length ≤ kVideoTimingSize := by
    rw [length_halfWordBytes]
    exact inside
  obtain ⟨p', place, allocated, written, ready', settings⟩ :=
    ready.writeExtension .videoTiming inside'
  refine ⟨p', ?_, ready', settings⟩
  unfold RtpPacket.setTiming
  rw [Option.bind_eq_bind, allocated, Option.bind_some]
  exact written

end

/-- A media packet is ready, with zeros for the path. -/
theorem ready_of_media (filled : sender.rtpHeaderExtensionMap.Registered) (media : sender.Media p) :
    ∃ payload draft rest, Ready sender p payload draft rest ∧
      ∀ extension ∈ draft.extensions, ReservedZero sender extension := by
  induction media with
  | loaded prepared nonempty fits set =>
      obtain ⟨draft, rest, laid⟩ := laid_of_prepared filled prepared
      obtain ⟨rest', ready⟩ := laid.setPayload nonempty fits set
      exact ⟨_, draft, rest', ready, laid.reserved⟩
  | headed _ header inRange ran ih =>
      obtain ⟨payload, draft, rest, ready, reserved⟩ := ih
      obtain ⟨header', ready'⟩ := ready.run header inRange ran
      exact ⟨payload, _, rest, ready', reserved⟩
  | reloaded _ nonempty fits set ih =>
      obtain ⟨payload, draft, rest, ready, reserved⟩ := ih
      obtain ⟨rest', ready'⟩ := ready.setPayload nonempty fits set
      exact ⟨_, draft, rest', ready', reserved⟩
  | @packetized _ _ delta _ _ set ih =>
      obtain ⟨payload, draft, rest, ready, reserved⟩ := ih
      obtain ⟨p'', set', ready', -⟩ := ready.setTiming delta
        (by decide : kPacketizationFinishDeltaOffset + 2 ≤ kVideoTimingSize)
      obtain rfl := Option.some.inj (set'.symm.trans set)
      refine ⟨payload, _, rest, ready', fun extension member => ?_⟩
      obtain ⟨old, listed, rfl⟩ := List.mem_map.mp member
      unfold patchAt
      split
      · exact reservedZero_of_other filled (by decide) _
      · exact reserved old listed

end Loaded

end RtpPacket

end MpWebRtc
