import MpWebRtc.Rtp.Building

/-!
# What a packet is meant to hold

The calls that build a packet, and beside the packet in its buffer a draft that says what
it holds: the last value of each header field, and the extensions that were not refused. An
extension is refused if its last byte is beyond the buffer. The packet follows the draft as
long as the zeros after the extensions are in the buffer, too; the draft only grows, so this
is so of all calls if it is so of the last.
-/

namespace MpWebRtc

open Math.Memory Math.Wire

/-- What a packet holds. -/
structure PacketContent where
  header : PacketHeader
  csrcs : List UInt32
  extensions : List (UInt8 × List UInt8)
  payload : List UInt8
  paddingSize : Nat
  deriving DecidableEq

/-- A call on a packet under construction, after the contributing sources. -/
inductive BuildCall where
  | setMarker (marker : Bool)
  | setPayloadType (payloadType : UInt8)
  | setSequenceNumber (sequenceNumber : UInt16)
  | setTimestamp (timestamp : UInt32)
  | setSsrc (ssrc : UInt32)
  | setRawExtension (id : UInt8) (value : List UInt8)
  deriving DecidableEq

namespace RtpPacket

def content (p : RtpPacket) : PacketContent where
  header := p.header
  csrcs := p.csrcs
  extensions := p.extensionValues
  payload := p.payload
  paddingSize := p.paddingSize.toNat

/-- A call. -/
def run (p : RtpPacket) : BuildCall → Option RtpPacket
  | .setMarker marker => p.setMarker marker
  | .setPayloadType payloadType => p.setPayloadType payloadType
  | .setSequenceNumber sequenceNumber => p.setSequenceNumber sequenceNumber
  | .setTimestamp timestamp => p.setTimestamp timestamp
  | .setSsrc ssrc => p.setSsrc ssrc
  | .setRawExtension id value => p.setRawExtension id value

variable (memory : List UInt8)

/-- A packet without payload and padding, built in memory with any content. -/
def buildHeaders (csrcs : List UInt32) (calls : List BuildCall) : Option RtpPacket := do
  let p ← initial memory
  let p ← p.setCsrcs csrcs
  calls.foldlM run p

/-- A packet. -/
def build (csrcs : List UInt32) (calls : List BuildCall)
    (payload : List UInt8) (padding : Nat) : Option RtpPacket := do
  let p ← buildHeaders memory csrcs calls
  let p ← p.setPayload payload
  p.setPadding padding

end RtpPacket

/-- The ids of the extensions that are set. -/
def BuildCall.extensionId : BuildCall → Option UInt8
  | .setRawExtension id _ => some id
  | _ => none

/-- The arguments of a call are in the range of their fields. -/
def BuildCall.InRange : BuildCall → Prop
  | .setPayloadType payloadType => payloadType < 128
  | .setRawExtension id value => 1 ≤ id ∧ 1 ≤ value.length ∧ value.length ≤ 255
  | _ => True

instance : DecidablePred BuildCall.InRange
  | .setPayloadType payloadType => inferInstanceAs (Decidable (payloadType < 128))
  | .setRawExtension id value =>
      inferInstanceAs (Decidable (1 ≤ id ∧ 1 ≤ value.length ∧ value.length ≤ 255))
  | .setMarker _ | .setSequenceNumber _ | .setTimestamp _ | .setSsrc _ => instDecidableTrue

open RtpPacket

/-- Headers of two bytes may be used, or the call needs none. -/
def BuildCall.Allowed (mixed : Bool) : BuildCall → Prop
  | .setRawExtension id value => twoByteHeaderRequired id value.length = true → mixed = true
  | _ => True

theorem BuildCall.allowed_mixed (call : BuildCall) : call.Allowed true := by
  cases call with
  | setRawExtension => exact fun _ => rfl
  | setMarker | setPayloadType | setSequenceNumber | setTimestamp | setSsrc => exact trivial

/-- What a packet under construction is meant to hold. -/
structure Draft where
  header : PacketHeader := {}
  twoByte : Bool := false
  extensions : List (UInt8 × List UInt8) := []

namespace Draft

/-- A further extension. -/
def extend (draft : Draft) (id : UInt8) (value : List UInt8) : Draft where
  header := draft.header
  twoByte := draft.twoByte || twoByteHeaderRequired id value.length
  extensions := draft.extensions ++ [(id, value)]

/-- The size of the block of extensions. -/
def blockSize (draft : Draft) : Nat := (extensionBlock draft.twoByte draft.extensions).length

/-- What a call is meant to do, with room for extensions from `start` to the capacity. -/
def apply (start capacity : Nat) (draft : Draft) : BuildCall → Draft
  | .setMarker marker => { draft with header := { draft.header with marker } }
  | .setPayloadType payloadType => { draft with header := { draft.header with payloadType } }
  | .setSequenceNumber sequenceNumber =>
      { draft with header := { draft.header with sequenceNumber } }
  | .setTimestamp timestamp => { draft with header := { draft.header with timestamp } }
  | .setSsrc ssrc => { draft with header := { draft.header with ssrc } }
  | .setRawExtension id value =>
      if start + (draft.extend id value).blockSize ≤ capacity then draft.extend id value else draft

/-- The extensions with the zeros after them are in the buffer. -/
def Padded (start capacity : Nat) (draft : Draft) : Prop :=
  draft.extensions = [] ∨ start + 4 * wordsOf draft.blockSize ≤ capacity

instance (start capacity : Nat) (draft : Draft) : Decidable (draft.Padded start capacity) :=
  inferInstanceAs (Decidable (_ ∨ _))

/-- What holds of every draft. -/
structure Valid (draft : Draft) : Prop where
  typed : draft.header.payloadType < 128
  sized : ∀ extension ∈ draft.extensions,
    1 ≤ extension.1 ∧ 1 ≤ extension.2.length ∧ extension.2.length ≤ 255
  distinct : (draft.extensions.map Prod.fst).Nodup
  opened : draft.extensions = [] → draft.twoByte = false
  small : draft.twoByte = false →
    ∀ extension ∈ draft.extensions, twoByteHeaderRequired extension.1 extension.2.length = false

variable {draft : Draft} {start capacity : Nat} {call : BuildCall}

theorem blockSize_extend (draft : Draft) (id : UInt8) (value : List UInt8) :
    (draft.extend id value).blockSize =
      sizeWith (draft.extend id value).twoByte draft.extensions value.length :=
  length_extensionBlock_concat ..

theorem extend_ne_nil (draft : Draft) (id : UInt8) (value : List UInt8) :
    (draft.extend id value).extensions ≠ [] :=
  List.append_ne_nil_of_right_ne_nil _ (List.cons_ne_nil _ _)

/-- A further extension makes the block longer. -/
theorem blockSize_lt_extend (draft : Draft) (id : UInt8) (value : List UInt8) :
    draft.blockSize < (draft.extend id value).blockSize := by
  have grown := length_extensionBlock_true draft.extensions
  rw [blockSize_extend]
  unfold sizeWith blockSize
  have header : 1 ≤ headerSize (draft.extend id value).twoByte := by
    unfold headerSize
    split <;> omega
  have wider : (extensionBlock draft.twoByte draft.extensions).length ≤
      (extensionBlock (draft.extend id value).twoByte draft.extensions).length := by
    change _ ≤ (extensionBlock (draft.twoByte || _) _).length
    cases draft.twoByte <;> cases twoByteHeaderRequired id value.length <;>
      simp only [Bool.or_self, Bool.or_true, Bool.or_false] <;> omega
  omega

/-- The draft only grows: if the zeros fit at last, they have always fitted. -/
theorem Padded.of_apply (padded : (draft.apply start capacity call).Padded start capacity) :
    draft.Padded start capacity := by
  cases call with
  | setRawExtension id value =>
      unfold apply at padded
      dsimp only at padded
      split at padded
      · have fits := padded.resolve_left (draft.extend_ne_nil id value)
        have longer := draft.blockSize_lt_extend id value
        right
        unfold wordsOf at fits ⊢
        omega
      · exact padded
  | setMarker | setPayloadType | setSequenceNumber | setTimestamp | setSsrc => exact padded

theorem Padded.of_foldl {calls : List BuildCall}
    (padded : (calls.foldl (apply start capacity) draft).Padded start capacity) :
    draft.Padded start capacity := by
  induction calls generalizing draft with
  | nil => exact padded
  | cons call calls ih => exact (ih padded).of_apply

theorem Valid.extend (valid : draft.Valid) {id : UInt8} {value : List UInt8}
    (inRange : (BuildCall.setRawExtension id value).InRange)
    (fresh : id ∉ draft.extensions.map Prod.fst) : (draft.extend id value).Valid where
  typed := valid.typed
  sized := by
    intro extension member
    rcases List.mem_append.mp member with member | member
    · exact valid.sized extension member
    · rw [List.mem_singleton.mp member]
      exact inRange
  distinct := by
    change ((draft.extensions ++ [(id, value)]).map Prod.fst).Nodup
    rw [List.map_append, List.map_singleton, List.nodup_append]
    refine ⟨valid.distinct, List.pairwise_singleton _ _, ?_⟩
    rintro first member second last rfl
    obtain rfl := List.mem_singleton.mp last
    exact fresh member
  opened := fun empty => absurd empty (draft.extend_ne_nil id value)
  small := by
    intro narrow extension member
    obtain ⟨before, required⟩ := Bool.or_eq_false_iff.mp narrow
    rcases List.mem_append.mp member with member | member
    · exact valid.small before extension member
    · rw [List.mem_singleton.mp member]
      exact required

theorem Valid.apply (valid : draft.Valid) (inRange : call.InRange)
    (fresh : ∀ id ∈ call.extensionId, id ∉ draft.extensions.map Prod.fst) :
    (draft.apply start capacity call).Valid := by
  cases call with
  | setRawExtension id value =>
      unfold Draft.apply
      dsimp only
      split
      · exact valid.extend inRange (fresh id rfl)
      · exact valid
  | setPayloadType payloadType =>
      exact ⟨inRange, valid.sized, valid.distinct, valid.opened, valid.small⟩
  | setMarker | setSequenceNumber | setTimestamp | setSsrc =>
      exact ⟨valid.typed, valid.sized, valid.distinct, valid.opened, valid.small⟩

/-- The ids of a draft and of the calls to come. -/
def idsWith (draft : Draft) (calls : List BuildCall) : List UInt8 :=
  draft.extensions.map Prod.fst ++ calls.filterMap BuildCall.extensionId

variable {calls : List BuildCall}

theorem fresh_of_idsWith (distinct : (draft.idsWith (call :: calls)).Nodup) :
    ∀ id ∈ call.extensionId, id ∉ draft.extensions.map Prod.fst := by
  intro id listed member
  rw [idsWith, List.filterMap_cons_some listed] at distinct
  exact (List.nodup_append.mp distinct).2.2 id member id (List.mem_cons_self ..) rfl

theorem idsWith_apply (start capacity : Nat) (distinct : (draft.idsWith (call :: calls)).Nodup) :
    ((draft.apply start capacity call).idsWith calls).Nodup := by
  cases call with
  | setRawExtension id value =>
      have listed : (BuildCall.setRawExtension id value :: calls).filterMap
        BuildCall.extensionId = id :: calls.filterMap BuildCall.extensionId := rfl
      unfold apply
      dsimp only
      split
      · unfold idsWith at distinct ⊢
        rw [listed] at distinct
        change ((draft.extensions ++ [(id, value)]).map Prod.fst ++ _).Nodup
        rwa [List.map_append, List.append_assoc]
      · refine distinct.sublist (List.Sublist.append_left ?_ _)
        rw [listed]
        exact List.sublist_cons_self ..
  | setMarker | setPayloadType | setSequenceNumber | setTimestamp | setSsrc => exact distinct

theorem Valid.foldl (valid : draft.Valid) (start capacity : Nat)
    (inRange : ∀ call ∈ calls, call.InRange) (distinct : (draft.idsWith calls).Nodup) :
    (calls.foldl (Draft.apply start capacity) draft).Valid := by
  induction calls generalizing draft with
  | nil => exact valid
  | cons call calls ih =>
      rw [List.foldl_cons]
      exact ih (valid.apply (inRange _ (List.mem_cons_self ..)) (fresh_of_idsWith distinct))
        (fun other member => inRange other (List.mem_cons_of_mem _ member))
        (idsWith_apply start capacity distinct)

end Draft

namespace RtpPacket

/-- A packet follows a draft. -/
structure Follows (p : RtpPacket) (draft : Draft) (csrcs : List UInt32) (rest : List UInt8) :
    Prop where
  built : Built p csrcs draft.twoByte draft.extensions rest
  header : p.header = draft.header

variable {p : RtpPacket} {draft : Draft} {csrcs : List UInt32} {rest : List UInt8}
variable {call : BuildCall}

section

variable (follows : Follows p draft csrcs rest)
include follows

theorem Follows.padded : draft.Padded (16 + 4 * csrcs.length) p.capacity := by
  have capacity := follows.built.capacity_eq
  by_cases empty : draft.extensions = []
  · exact Or.inl empty
  · rw [length_extensionArea empty] at capacity
    right
    unfold Draft.blockSize
    omega

/-- Changing a field of the fixed header changes the draft in the same way. -/
theorem Follows.reheader {p' : RtpPacket}
    {header : PacketHeader} (set : p'.header = header) (typed : header.payloadType < 128)
    (others : p' = { p with
      marker := p'.marker
      payloadType := p'.payloadType
      sequenceNumber := p'.sequenceNumber
      timestamp := p'.timestamp
      ssrc := p'.ssrc }) :
    ∃ p'' rest', some (p'.withHeader (firstByte (!draft.extensions.isEmpty) false csrcs.length)
        (csrcs.flatMap wordBytes ++ (extensionArea draft.twoByte draft.extensions ++ rest))) =
          some p'' ∧
      Follows p'' { draft with header } csrcs rest' ∧ p''.capacity = p.capacity ∧
      p''.extmapAllowMixed = p.extmapAllowMixed := by
  have built := follows.built
  refine ⟨_, rest, rfl, ⟨⟨rfl, ?_, ?_, ?_, ?_, ?_, built.few, ?_⟩, set⟩, ?_, ?_⟩
  · rw [others]
    exact built.entries
  · rw [others]
    exact built.size
  · rw [others]
    exact built.offset
  · rw [others]
    exact built.noPayload
  · rw [others]
    exact built.noPadding
  · rw [← set] at typed
    exact typed
  · rw [withHeader_capacity, built.capacity_eq]
    simp only [List.length_append, length_csrcs]
    omega
  · rw [others]
    rfl

theorem Follows.setRawExtension (valid : draft.Valid)
    (limited : p.capacity ≤ 65535) {id : UInt8} {value : List UInt8}
    (inRange : (BuildCall.setRawExtension id value).InRange)
    (allowed : (BuildCall.setRawExtension id value).Allowed p.extmapAllowMixed)
    (fresh : id ∉ draft.extensions.map Prod.fst) :
    if p.capacity < 16 + 4 * csrcs.length + (draft.extend id value).blockSize then
      p.setRawExtension id value = some p
    else if 16 + 4 * csrcs.length + 4 * wordsOf (draft.extend id value).blockSize ≤
        p.capacity then
      ∃ p' rest', p.setRawExtension id value = some p' ∧
        Built p' csrcs (draft.extend id value).twoByte (draft.extend id value).extensions rest' ∧
        p'.capacity = p.capacity ∧ p'.settings = p.settings
    else p.setRawExtension id value = none := by
  have short : ∀ extension ∈ draft.extensions, extension.2.length < 256 :=
    fun extension member => Nat.lt_succ_of_le (valid.sized extension member).2.2
  rw [draft.blockSize_extend]
  exact follows.built.setRawExtension valid.opened limited short fresh (.inl inRange.2.1) allowed rfl

/-- A call does what it is meant to do, if the zeros after the extensions fit. -/
theorem Follows.run (valid : draft.Valid) (limited : p.capacity ≤ 65535) (inRange : call.InRange)
    (allowed : call.Allowed p.extmapAllowMixed)
    (fresh : ∀ id ∈ call.extensionId, id ∉ draft.extensions.map Prod.fst)
    (padded : (draft.apply (16 + 4 * csrcs.length) p.capacity call).Padded (16 + 4 * csrcs.length)
      p.capacity) :
    ∃ p' rest', p.run call = some p' ∧
      Follows p' (draft.apply (16 + 4 * csrcs.length) p.capacity call) csrcs rest' ∧
      p'.capacity = p.capacity ∧ p'.extmapAllowMixed = p.extmapAllowMixed := by
  have built := follows.built
  have same := follows.header
  cases call with
  | setMarker marker =>
      rw [RtpPacket.run, setMarker_eq built.buffer built.typed]
      exact follows.reheader (congrArg (fun header => { header with marker }) same) valid.typed rfl
  | setPayloadType payloadType =>
      rw [RtpPacket.run, setPayloadType_eq built.buffer built.typed]
      exact follows.reheader (congrArg (fun header => { header with payloadType }) same) inRange rfl
  | setSequenceNumber sequenceNumber =>
      rw [RtpPacket.run, setSequenceNumber_eq built.buffer]
      exact follows.reheader (congrArg (fun header => { header with sequenceNumber }) same)
        valid.typed rfl
  | setTimestamp timestamp =>
      rw [RtpPacket.run, setTimestamp_eq built.buffer]
      exact follows.reheader (congrArg (fun header => { header with timestamp }) same)
        valid.typed rfl
  | setSsrc ssrc =>
      rw [RtpPacket.run, setSsrc_eq built.buffer]
      exact follows.reheader (congrArg (fun header => { header with ssrc }) same) valid.typed rfl
  | setRawExtension id value =>
      have set := follows.setRawExtension valid limited inRange allowed (fresh id rfl)
      rw [Draft.apply] at padded ⊢
      by_cases fits : 16 + 4 * csrcs.length + (draft.extend id value).blockSize ≤ p.capacity
      · rw [if_neg (not_lt.mpr fits)] at set
        rw [if_pos fits] at padded ⊢
        rw [if_pos (padded.resolve_left (draft.extend_ne_nil id value))] at set
        obtain ⟨p', rest', done, listed, capacity, settings⟩ := set
        exact ⟨p', rest', done, ⟨listed, (congrArg Prod.snd settings).trans same⟩, capacity,
          congrArg Prod.fst settings⟩
      · rw [if_pos (not_le.mp fits)] at set
        rw [if_neg fits]
        exact ⟨p, rest, set, follows, rfl, rfl⟩

/-- If they do not fit, they are written beyond the buffer. -/
theorem Follows.run_eq_none (valid : draft.Valid)
    (limited : p.capacity ≤ 65535) (inRange : call.InRange)
    (allowed : call.Allowed p.extmapAllowMixed)
    (fresh : ∀ id ∈ call.extensionId, id ∉ draft.extensions.map Prod.fst)
    (beyond : ¬(draft.apply (16 + 4 * csrcs.length) p.capacity call).Padded
      (16 + 4 * csrcs.length) p.capacity) : p.run call = none := by
  cases call with
  | setRawExtension id value =>
      have set := follows.setRawExtension valid limited inRange allowed (fresh id rfl)
      rw [Draft.apply] at beyond
      by_cases fits : 16 + 4 * csrcs.length + (draft.extend id value).blockSize ≤ p.capacity
      · rw [if_pos fits] at beyond
        rw [if_neg (not_lt.mpr fits), if_neg fun padded => beyond (Or.inr padded)] at set
        exact set
      · rw [if_neg fits] at beyond
        exact absurd follows.padded beyond
  | setMarker | setPayloadType | setSequenceNumber | setTimestamp | setSsrc =>
      exact absurd follows.padded beyond

end

section Runs

variable {calls : List BuildCall}

/-- All calls do what they are meant to do, if the zeros fit at last. If they do not, one call
writes them beyond the buffer. -/
theorem Follows.runs (follows : Follows p draft csrcs rest) (valid : draft.Valid)
    (limited : p.capacity ≤ 65535) (inRange : ∀ call ∈ calls, call.InRange)
    (allowed : ∀ call ∈ calls, call.Allowed p.extmapAllowMixed)
    (distinct : (draft.idsWith calls).Nodup) {last : Draft}
    (applied : calls.foldl (Draft.apply (16 + 4 * csrcs.length) p.capacity) draft = last) :
    (last.Padded (16 + 4 * csrcs.length) p.capacity →
      ∃ p' rest', calls.foldlM RtpPacket.run p = some p' ∧ Follows p' last csrcs rest' ∧
        p'.capacity = p.capacity ∧ p'.extmapAllowMixed = p.extmapAllowMixed) ∧
      (¬last.Padded (16 + 4 * csrcs.length) p.capacity →
        calls.foldlM RtpPacket.run p = none) := by
  induction calls generalizing p draft rest with
  | nil =>
      subst applied
      exact ⟨fun _ => ⟨p, rest, rfl, follows, rfl, rfl⟩, absurd follows.padded⟩
  | cons call calls ih =>
      have here := inRange _ (List.mem_cons_self ..)
      have may := allowed _ (List.mem_cons_self ..)
      have fresh := Draft.fresh_of_idsWith distinct
      rw [List.foldl_cons] at applied
      rw [List.foldlM_cons]
      by_cases padded : (draft.apply (16 + 4 * csrcs.length) p.capacity call).Padded
          (16 + 4 * csrcs.length) p.capacity
      · obtain ⟨p', rest', ran, next, capacity, mixed⟩ :=
          follows.run valid limited here may fresh padded
        rw [ran, ← capacity, ← mixed]
        rw [← capacity] at next applied
        exact ih next (valid.apply here fresh) (capacity.trans_le limited)
          (fun other member => inRange other (List.mem_cons_of_mem _ member))
          (fun other member => mixed ▸ allowed other (List.mem_cons_of_mem _ member))
          (Draft.idsWith_apply _ _ distinct) applied
      · subst applied
        refine ⟨fun whole => absurd whole.of_foldl padded, fun _ => ?_⟩
        rw [follows.run_eq_none valid limited here may fresh padded]
        rfl

/-- What the calls are meant to leave in a packet. -/
def draftOf (capacity : Nat) (csrcs : List UInt32) (calls : List BuildCall) : Draft :=
  calls.foldl (Draft.apply (16 + 4 * csrcs.length) capacity) {}

variable {memory : List UInt8}

theorem valid_empty : ({} : Draft).Valid where
  typed := by decide
  sized := fun _ member => absurd member List.not_mem_nil
  distinct := List.nodup_nil
  opened := fun _ => rfl
  small := fun _ _ member => absurd member List.not_mem_nil

theorem valid_draftOf (capacity : Nat) (csrcs : List UInt32)
    (inRange : ∀ call ∈ calls, call.InRange)
    (distinct : (calls.filterMap BuildCall.extensionId).Nodup) :
    (draftOf capacity csrcs calls).Valid :=
  valid_empty.foldl _ _ inRange distinct

variable (few : csrcs.length ≤ 15)
include few

variable (room : 12 + 4 * csrcs.length ≤ memory.length)
include room

/-- The packet at the first call. -/
theorem follows_empty :
    ∃ p rest, ((initial memory).bind fun p => p.setCsrcs csrcs) = some p ∧
      Follows p {} csrcs rest ∧ p.capacity = memory.length ∧ p.extmapAllowMixed = true := by
  have fixed : kFixedHeaderSize ≤ memory.length := by
    unfold kFixedHeaderSize
    omega
  obtain ⟨p, rest, cleared, built, capacity, settings⟩ := built_initial fixed
  obtain ⟨p', rest', set, sourced, same, kept⟩ := built.setCsrcs few (room.trans_eq capacity.symm)
  rw [cleared, Option.bind_some]
  have initial := kept.trans settings
  exact ⟨p', rest', set, ⟨sourced, congrArg Prod.snd initial⟩, same.trans capacity,
    congrArg Prod.fst initial⟩

/-- The headers are built as they are meant to be, or written beyond the buffer. -/
theorem buildHeaders_spec (limited : memory.length ≤ 65535)
    (inRange : ∀ call ∈ calls, call.InRange)
    (distinct : (calls.filterMap BuildCall.extensionId).Nodup) :
    ((draftOf memory.length csrcs calls).Padded (16 + 4 * csrcs.length) memory.length →
      ∃ p rest, buildHeaders memory csrcs calls = some p ∧
        Follows p (draftOf memory.length csrcs calls) csrcs rest ∧
        p.capacity = memory.length) ∧
      (¬(draftOf memory.length csrcs calls).Padded (16 + 4 * csrcs.length) memory.length →
        buildHeaders memory csrcs calls = none) := by
  obtain ⟨p, rest, begun, follows, capacity, mixed⟩ := follows_empty few room
  unfold buildHeaders
  simp only [Option.bind_eq_bind]
  rw [← Option.bind_assoc, begun, Option.bind_some]
  rw [← capacity] at limited ⊢
  refine (follows.runs valid_empty limited inRange (fun call _ => mixed ▸ call.allowed_mixed)
    distinct rfl).imp_left fun whole padded => ?_
  obtain ⟨p', rest', ran, next, same, -⟩ := whole padded
  exact ⟨p', rest', ran, next, same⟩

end Runs

end RtpPacket

end MpWebRtc
