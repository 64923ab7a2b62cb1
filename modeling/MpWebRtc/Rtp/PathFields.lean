import MpWebRtc.Rtp.CheckedParsing
import MpWebRtc.Rtp.Rtx

/-!
# The path of a packet, read twice

The parser takes the path of a packet and its number from the elements with the ids 3 and 4,
at the byte after the first byte of the element. The rest of the receiver asks for them by the
ids that were negotiated, with `GetExtension`.

The two readers look at the same place for packets with elements of one header byte, if the
negotiated ids are 3 and 4 and the elements have the lengths of their values. A packet without
these extensions leaves in the object the path that it had.
-/

namespace MpWebRtc

/-- The parser of an extension that is a number in some bytes. -/
def parseValue {α : Type} (width : Nat) (read : List UInt8 → Nat → α) (data : List UInt8) :
    Option α :=
  if data.length ≠ width then none else some (read data 0)

/-- `sandy::Parse`. -/
def Sandy.parse : List UInt8 → Option UInt8 := parseValue 1 byteAt

/-- `MpFlowSeqNum::Parse`. -/
def MpFlowSeqNum.parse : List UInt8 → Option UInt16 := parseValue 2 readHalfWord

namespace RtpPacket

/-- `GetExtension`, with the parser of the extension. -/
def getExtension {α : Type} (p : RtpPacket) (extensions : RtpHeaderExtensionMap)
    (type : RtpExtensionType) (parse : List UInt8 → Option α) : Option α :=
  let raw := (p.findExtension extensions type).getD []
  if raw.isEmpty then none else parse raw

section Places

/-- A field of the packet object that the parser fills by itself. -/
structure PathField (α : Type) where
  type : RtpExtensionType
  inLineId : UInt8
  width : Nat
  read : List UInt8 → Nat → α
  positive : 0 < width
  read_take : ∀ bytes start, read ((bytes.drop start).take width) 0 = read bytes start

/-- The field `subflow_id`. -/
def subflowIdField : PathField UInt8 where
  type := .sandy
  inLineId := 3
  width := 1
  read := byteAt
  positive := Nat.one_pos
  read_take := by simp [byteAt]

/-- The field `subflow_seq`. -/
def subflowSeqField : PathField UInt16 where
  type := .mpFlowSeqNum
  inLineId := 4
  width := 2
  read := readHalfWord
  positive := Nat.two_pos
  read_take := by
    intro bytes start
    unfold readHalfWord
    rw [List.drop_zero, List.take_take]
    rfl

/-- The place for elements, empty in a packet that has none. -/
def layoutOf (bytes : List UInt8) : ExtensionLayout := (extensionLayout bytes).getD ⟨0, 0, true⟩

/-- The elements that the parser reads. -/
def elementsIn (bytes : List UInt8) : List ExtensionElement := elementsOf bytes (layoutOf bytes)

variable {α : Type} (field : PathField α) (extensions : RtpHeaderExtensionMap) (bytes : List UInt8)

/-- Where the parser finds the field. -/
def inLinePlace : Option Nat :=
  (lastWith field.inLineId (elementsIn bytes)).map fun element =>
    (layoutOf bytes).offset + element.position + 1

/-- Where `GetExtension` finds the field. -/
def negotiatedPlace : Option Nat :=
  if extensions.ids field.type = kInvalidId then none
  else
    ((lastWith (extensions.ids field.type) (elementsIn bytes)).filter fun element =>
      decide (element.length.toNat = field.width)).map fun element =>
        (layoutOf bytes).offset + element.position + (layoutOf bytes).headerLength

/-- The field is in an element of the form that the parser expects. -/
structure Regular : Prop where
  oneByte : (layoutOf bytes).oneByte = true
  negotiated : extensions.ids field.type = field.inLineId
  sized : ∃ element, lastWith field.inLineId (elementsIn bytes) = some element ∧
    element.length.toNat = field.width

/-- The two readers get the same value from the packet and the value that the object had: from
an element of the expected form, or from no element and an object without a path, or else
because different places have equal contents. -/
inductive ReadAlike [OfNat α 0] (before : α) : Prop where
  | regular (form : Regular field extensions bytes)
  | unset (noneInLine : inLinePlace field bytes = none)
      (noneNegotiated : negotiatedPlace field extensions bytes = none) (new : before = 0)
  | old (place : Nat) (noneInLine : inLinePlace field bytes = none)
      (negotiated : negotiatedPlace field extensions bytes = some place)
      (equal : before = field.read bytes place)
  | zero (place : Nat) (inLine : inLinePlace field bytes = some place)
      (noneNegotiated : negotiatedPlace field extensions bytes = none)
      (equal : field.read bytes place = 0)
  | elsewhere (place other : Nat) (inLine : inLinePlace field bytes = some place)
      (negotiated : negotiatedPlace field extensions bytes = some other)
      (different : place ≠ other) (equal : field.read bytes place = field.read bytes other)

end Places

section SamePlace

variable {bytes : List UInt8} {layout : ExtensionLayout} {element : ExtensionElement}

/-- An element is what there is at its position, which is not before the start. -/
theorem elementAt_of_mem {fuel position : Nat}
    (member : element ∈ elementsFrom bytes layout fuel position) :
    position ≤ element.position ∧ elementAt bytes layout element.position = some element := by
  induction fuel generalizing position with
  | zero => cases member
  | succ fuel ih =>
      unfold elementsFrom at member
      split at member
      · rename_i more
        split at member
        · obtain ⟨after, read⟩ := ih member
          exact ⟨Nat.le_of_succ_le after, read⟩
        · cases read : elementAt bytes layout position with
          | none =>
              rw [read] at member
              cases member
          | some first =>
              rw [read] at member
              have here := (fits_of_elementAt more read).1
              rcases List.mem_cons.mp member with rfl | later
              · exact ⟨here.ge, here.symm ▸ read⟩
              · obtain ⟨after, read⟩ := ih later
                exact ⟨(Nat.le_add_right ..).trans after, read⟩
      · cases member

/-- Every element ends before the next. -/
theorem elementsFrom_pairwise (bytes : List UInt8) (layout : ExtensionLayout)
    (fuel position : Nat) :
    (elementsFrom bytes layout fuel position).Pairwise fun first second =>
      first.position + layout.headerLength + first.length.toNat ≤ second.position := by
  induction fuel generalizing position with
  | zero => exact .nil
  | succ fuel ih =>
      unfold elementsFrom
      split
      · rename_i more
        split
        · exact ih _
        · cases read : elementAt bytes layout position with
          | none => exact .nil
          | some first =>
              have here := (fits_of_elementAt more read).1
              refine List.pairwise_cons.mpr ⟨fun second later => ?_, ih _⟩
              have after := (elementAt_of_mem later).1
              omega
      · exact .nil

theorem lastWith_eq_some {id : UInt8} {elements : List ExtensionElement}
    (found : lastWith id elements = some element) :
    element ∈ elements ∧ element.id = id :=
  ⟨List.mem_reverse.mp (List.mem_of_find?_eq_some found),
    of_decide_eq_true (List.find?_some 
      (p := fun element : ExtensionElement => decide (element.id = id)) found)⟩

/-- Two elements do not overlap. -/
theorem elements_apart {first second : ExtensionElement} (member : first ∈ elementsIn bytes)
    (other : second ∈ elementsIn bytes) (different : first.position ≠ second.position) :
    first.position + (layoutOf bytes).headerLength + first.length.toNat ≤ second.position ∨
      second.position + (layoutOf bytes).headerLength + second.length.toNat ≤ first.position := by
  have apart := List.pairwise_iff_getElem.mp
    (elementsFrom_pairwise bytes (layoutOf bytes) (layoutOf bytes).capacity 0)
  obtain ⟨i, inside, rfl⟩ := List.mem_iff_getElem.mp member
  obtain ⟨j, inside', rfl⟩ := List.mem_iff_getElem.mp other
  rcases Nat.lt_trichotomy i j with before | rfl | behind
  · exact .inl (apart i j inside inside' before)
  · exact absurd rfl different
  · exact .inr (apart j i inside' inside behind)

variable {extensions : RtpHeaderExtensionMap}

/-- The readers look at the same place only in elements of the expected form. -/
theorem regular_of_same_place {α : Type} {field : PathField α} {place : Nat}
    (inLine : inLinePlace field bytes = some place)
    (negotiated : negotiatedPlace field extensions bytes = some place) :
    Regular field extensions bytes := by
  obtain ⟨first, found, firstPlace⟩ := Option.map_eq_some_iff.mp inLine
  unfold negotiatedPlace at negotiated
  split at negotiated
  · cases negotiated
  obtain ⟨second, chosen, secondPlace⟩ := Option.map_eq_some_iff.mp negotiated
  obtain ⟨found', width⟩ := Option.filter_eq_some_iff.mp chosen
  have sized := of_decide_eq_true width
  obtain ⟨member, firstId⟩ := lastWith_eq_some found
  obtain ⟨member', secondId⟩ := lastWith_eq_some found'
  have wide := field.positive
  have header : (layoutOf bytes).headerLength = if (layoutOf bytes).oneByte then 1 else 2 := rfl
  by_cases here : first.position = second.position
  · -- the same element, behind a header of one byte
    have same : first = second := by
      have read := (elementAt_of_mem member).2
      rw [here] at read
      exact Option.some.inj (read.symm.trans (elementAt_of_mem member').2)
    subst same
    refine ⟨?_, secondId.symm.trans firstId, first, found, sized⟩
    by_contra wider
    rw [if_neg wider] at header
    omega
  · -- a place in the value of one element, and just behind the first byte of the other
    have apart := elements_apart member member' here
    have short : (layoutOf bytes).headerLength = 1 ∨ (layoutOf bytes).headerLength = 2 := by
      rw [header]
      split
      · exact .inl rfl
      · exact .inr rfl
    omega

theorem Regular.same_place {α : Type} {field : PathField α}
    (form : Regular field extensions bytes) (valid : field.inLineId ≠ kInvalidId) :
    ∃ place, inLinePlace field bytes = some place ∧
      negotiatedPlace field extensions bytes = some place := by
  obtain ⟨oneByte, negotiated, element, found, sized⟩ := form
  have header : (layoutOf bytes).headerLength = 1 := if_pos oneByte
  refine ⟨(layoutOf bytes).offset + element.position + 1, ?_, ?_⟩
  · unfold inLinePlace
    rw [found]
    rfl
  · unfold negotiatedPlace
    rw [negotiated, if_neg valid, found, Option.filter_some, if_pos (decide_eq_true sized), header]
    rfl

end SamePlace

section Values

variable {α : Type} {field : PathField α} {extensions : RtpHeaderExtensionMap}
  {bytes : List UInt8} {p q : RtpPacket} {found : FoundExtensions}

/-- What an accepted packet leaves in the object. -/
structure Accepted (p : RtpPacket) (bytes : List UInt8) (q : RtpPacket) : Prop where
  buffer : q.buffer = bytes
  inside : (layoutOf bytes).offset + (layoutOf bytes).capacity ≤ bytes.length
  found : FoundIn bytes (layoutOf bytes) (elementsIn bytes) p.keptPath
    { extensionEntries := q.extensionEntries
      subflowId := q.subflowId
      subflowSeq := q.subflowSeq }

theorem accepted_of_parsePayload {payloadOffset : Nat}
    (inside : (layoutOf bytes).offset + (layoutOf bytes).capacity ≤ bytes.length)
    (read : FoundIn bytes (layoutOf bytes) (elementsIn bytes) p.keptPath found)
    (parsed : ((p.withHeading bytes).withFound found payloadOffset).parsePayload = some q) :
    Accepted p bytes q := by
  unfold parsePayload at parsed
  split at parsed
  · cases parsed
  · obtain rfl := Option.some.inj parsed
    exact ⟨rfl, inside, read.path, read.number, read.values⟩

theorem parseBuffer_accepted (accepted : parseBuffer p bytes = .ok (some q)) :
    Accepted p bytes q := by
  rcases parseBuffer_cases p bytes with
    ⟨absent, refused | ⟨payloadOffset, read⟩⟩ | ⟨layout, present, inside, read⟩
  · cases refused.symm.trans accepted
  · have empty : layoutOf bytes = ⟨0, 0, true⟩ := by
      unfold layoutOf
      rw [absent]
      rfl
    have nothing : elementsIn bytes = [] := by
      unfold elementsIn
      rw [empty]
      rfl
    have parsed := Except.ok.inj (read.symm.trans accepted)
    refine accepted_of_parsePayload ?_ ?_ parsed
    · rw [empty]
      exact Nat.zero_le _
    · rw [nothing]
      exact ⟨rfl, rfl, fun _ => rfl⟩
  · have place : layoutOf bytes = layout := by
      unfold layoutOf
      rw [present]
      rfl
    have loop := parseExtensionsChecked_cases layout.capacity p.keptPath inside (Nat.le_add_left ..)
    rw [read] at accepted
    rcases loop with ⟨-, failed⟩ | ⟨-, after, ended, others⟩
    · rw [failed] at accepted
      cases accepted
    · rw [ended] at accepted
      have parsed := Except.ok.inj accepted
      refine accepted_of_parsePayload ?_ ?_ parsed
      · rw [place]
        exact inside
      · unfold elementsIn
        rw [place]
        exact others

theorem Accepted.inLine_subflowId (accepted : Accepted p bytes q) :
    q.subflowId =
      ((inLinePlace subflowIdField bytes).map (subflowIdField.read bytes)).getD p.subflowId := by
  unfold inLinePlace
  rw [Option.map_map]
  exact accepted.found.path

theorem Accepted.inLine_subflowSeq (accepted : Accepted p bytes q) :
    q.subflowSeq =
      ((inLinePlace subflowSeqField bytes).map (subflowSeqField.read bytes)).getD p.subflowSeq := by
  unfold inLinePlace
  rw [Option.map_map]
  exact accepted.found.number

theorem parseValue_nil (field : PathField α) : parseValue field.width field.read [] = none :=
  if_pos field.positive.ne

theorem findExtension_getD (p : RtpPacket) (extensions : RtpHeaderExtensionMap)
    (type : RtpExtensionType) :
    (p.findExtension extensions type).getD [] =
      if extensions.ids type = kInvalidId then []
      else rawAt p.buffer p.extensionEntries (extensions.ids type) := by
  unfold findExtension
  split
  · rfl
  · unfold valueOf findExtensionInfo rawAt
    cases p.extensionEntries.find? fun entry => entry.id = extensions.ids type with
    | none => rfl
    | some entry => rfl

theorem parseValue_valueAt {layout : ExtensionLayout} {element : ExtensionElement}
    (fits : Fits layout element) (inside : layout.offset + layout.capacity ≤ bytes.length)
    (field : PathField α) :
    parseValue field.width field.read (valueAt bytes layout element) =
      if element.length.toNat = field.width then
        some (field.read bytes (layout.offset + element.position + layout.headerLength))
      else none := by
  have ended := fits.ended
  have size : (valueAt bytes layout element).length = element.length.toNat := by
    unfold valueAt
    rw [List.length_take, List.length_drop]
    omega
  unfold parseValue
  rw [size]
  by_cases sized : element.length.toNat = field.width
  · rw [if_neg (not_not.mpr sized), if_pos sized]
    unfold valueAt
    rw [sized, field.read_take]
  · rw [if_pos sized, if_neg sized]

/-- What `GetExtension` yields is at the negotiated place. -/
theorem Accepted.getExtension_eq (accepted : Accepted p bytes q) (field : PathField α) :
    q.getExtension extensions field.type (parseValue field.width field.read) =
      (negotiatedPlace field extensions bytes).map (field.read bytes) := by
  have raw : q.getExtension extensions field.type (parseValue field.width field.read) =
      parseValue field.width field.read ((q.findExtension extensions field.type).getD []) := by
    unfold getExtension
    dsimp only
    split
    · next empty => rw [List.isEmpty_iff.mp empty, parseValue_nil]
    · rfl
  rw [raw, findExtension_getD, accepted.buffer]
  unfold negotiatedPlace
  split
  · exact parseValue_nil field
  · rw [accepted.found.values]
    cases chosen : lastWith (extensions.ids field.type) (elementsIn bytes) with
    | none => exact parseValue_nil field
    | some element =>
        have fits : Fits (layoutOf bytes) element :=
          fits_of_mem_elementsFrom (lastWith_eq_some chosen).1
        change parseValue field.width field.read (valueAt bytes (layoutOf bytes) element) = _
        rw [parseValue_valueAt fits accepted.inside, Option.filter_some]
        by_cases sized : element.length.toNat = field.width
        · rw [if_pos sized, if_pos (decide_eq_true sized)]
          rfl
        · rw [if_neg sized, if_neg (by simpa using sized)]
          rfl

/-- When the value read by the parser, or else kept from before, is the one that `GetExtension`
yields, or else 0. -/
theorem reads_eq_iff [OfNat α 0] (valid : field.inLineId ≠ kInvalidId) (before : α) :
    ((inLinePlace field bytes).map (field.read bytes)).getD before =
        ((negotiatedPlace field extensions bytes).map (field.read bytes)).getD 0 ↔
      ReadAlike field extensions bytes before := by
  constructor
  · intro equal
    cases inLine : inLinePlace field bytes with
    | none =>
        rw [inLine] at equal
        cases negotiated : negotiatedPlace field extensions bytes with
        | none =>
            rw [negotiated] at equal
            exact .unset inLine negotiated equal
        | some place =>
            rw [negotiated] at equal
            exact .old place inLine negotiated equal
    | some place =>
        rw [inLine] at equal
        cases negotiated : negotiatedPlace field extensions bytes with
        | none =>
            rw [negotiated] at equal
            exact .zero place inLine negotiated equal
        | some other =>
            rw [negotiated] at equal
            by_cases same : place = other
            · subst same
              exact .regular (regular_of_same_place inLine negotiated)
            · exact .elsewhere place other inLine negotiated same equal
  · intro alike
    cases alike with
    | regular form =>
        obtain ⟨place, inLine, negotiated⟩ := form.same_place valid
        rw [inLine, negotiated]
        rfl
    | unset inLine negotiated new =>
        rw [inLine, negotiated]
        exact new
    | old place inLine negotiated equal =>
        rw [inLine, negotiated]
        exact equal
    | zero place inLine negotiated equal =>
        rw [inLine, negotiated]
        exact equal
    | elsewhere place other inLine negotiated _ equal =>
        rw [inLine, negotiated]
        exact equal

end Values

section Agreement

/-- A map with ids for the path and its number alone. -/
def pathIds (path number : UInt8) : RtpHeaderExtensionMap where
  ids
    | .sandy => path
    | .mpFlowSeqNum => number
    | _ => kInvalidId
  extmapAllowMixed := true

/-- **The path of a packet.** Whatever the object held before and whatever is negotiated, the
fields that an accepted packet leaves are the values of the extensions, or 0 without them,
exactly if both fields are read alike from the packet and the fields before. -/
theorem path_fields_agree_iff (p q : RtpPacket) (extensions : RtpHeaderExtensionMap)
    (bytes : List UInt8) (accepted : parseBuffer p bytes = .ok (some q)) :
    (q.subflowId = (q.getExtension extensions .sandy Sandy.parse).getD 0 ∧
      q.subflowSeq = (q.getExtension extensions .mpFlowSeqNum MpFlowSeqNum.parse).getD 0) ↔
    ReadAlike subflowIdField extensions bytes p.subflowId ∧
      ReadAlike subflowSeqField extensions bytes p.subflowSeq := by
  have left := parseBuffer_accepted accepted
  have path : q.getExtension extensions .sandy Sandy.parse =
      (negotiatedPlace subflowIdField extensions bytes).map (subflowIdField.read bytes) :=
    left.getExtension_eq subflowIdField
  have number : q.getExtension extensions .mpFlowSeqNum MpFlowSeqNum.parse =
      (negotiatedPlace subflowSeqField extensions bytes).map (subflowSeqField.read bytes) :=
    left.getExtension_eq subflowSeqField
  rw [path, number, left.inLine_subflowId, left.inLine_subflowSeq]
  exact and_congr (reads_eq_iff (by decide) p.subflowId) (reads_eq_iff (by decide) p.subflowSeq)

/-- A packet of path 2 with number 258, in elements of the expected form. -/
def onSecondPath : List UInt8 :=
  [0x90, 0, 0, 0, 0, 0, 0, 0, 0, 0, 0, 0, 0xBE, 0xDE, 0, 2, 0x30, 2, 0x41, 1, 2, 0, 0, 0]

theorem path_fields_agree_one_byte :
    ∃ q, parseBuffer { buffer := [], subflowId := 9 } onSecondPath = .ok (some q) ∧
      q.subflowId = (q.getExtension (pathIds 3 4) .sandy Sandy.parse).getD 0 ∧
      q.subflowSeq = (q.getExtension (pathIds 3 4) .mpFlowSeqNum MpFlowSeqNum.parse).getD 0 := by
  have accepted : ∃ q, parseBuffer { buffer := [], subflowId := 9 } onSecondPath = .ok (some q) :=
    ⟨_, rfl⟩
  obtain ⟨q, read⟩ := accepted
  refine ⟨q, read, (path_fields_agree_iff _ q (pathIds 3 4) onSecondPath read).mpr ⟨?_, ?_⟩⟩
  · exact .regular ⟨rfl, rfl, ⟨0, 3, 1⟩, by decide, rfl⟩
  · exact .regular ⟨rfl, rfl, ⟨2, 4, 2⟩, by decide, rfl⟩

/-- A packet without extensions keeps the path of the packet before; path 7 in an element with
two header bytes is taken to be path 1, its length; and with another negotiated id the parser
does not see it. -/
theorem path_fields_disagree :
    (∃ q, parseBuffer { buffer := [], subflowId := 2 } [0x80, 0, 0, 0, 0, 0, 0, 0, 0, 0, 0, 0] =
        .ok (some q) ∧ q.subflowId = 2 ∧
      q.getExtension (pathIds 3 4) .sandy Sandy.parse = none) ∧
    (∃ q, parseBuffer { buffer := [] } [0x90, 0, 0, 0, 0, 0, 0, 0, 0, 0, 0, 0,
        0x10, 0, 0, 1, 3, 1, 7, 0] = .ok (some q) ∧ q.subflowId = 1 ∧
      q.getExtension (pathIds 3 4) .sandy Sandy.parse = some 7) ∧
    (∃ q, parseBuffer { buffer := [] } [0x90, 0, 0, 0, 0, 0, 0, 0, 0, 0, 0, 0,
        0xBE, 0xDE, 0, 1, 0x50, 7, 0, 0] = .ok (some q) ∧ q.subflowId = 0 ∧
      q.getExtension (pathIds 5 6) .sandy Sandy.parse = some 7) :=
  ⟨⟨_, rfl, rfl, rfl⟩, ⟨_, rfl, rfl, rfl⟩, ⟨_, rfl, rfl, rfl⟩⟩

end Agreement

end RtpPacket

end MpWebRtc
