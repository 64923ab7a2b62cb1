import MpWebRtc.Rtp.RtpPacket

/-!
# The reads of the packet parser

`ParseBuffer` as it runs on an object that is already there, with every read checked
against the length of the buffer. A read beyond it ends the run with a fault, and so does
a loop that does not come to its end.

The elements of the header extension are listed on their own, from the bytes. Reading them
is safe, with one exception: an element with id 4 is always taken to have two bytes, and in
a packet that ends with an element of one byte the second of them is not there.
-/

namespace MpWebRtc

open Math.Wire

/-- What can go wrong in a run of the parser. -/
inductive ReadFault where
  | outOfBounds
  | unfinished
  deriving DecidableEq

variable (buffer : List UInt8)

/-- Some bytes of the buffer are read. -/
def fetch {α : Type} (start count : Nat) (value : α) : Except ReadFault α :=
  if start + count ≤ buffer.length then .ok value else .error .outOfBounds

def fetchByte (index : Nat) : Except ReadFault UInt8 :=
  fetch buffer index 1 (byteAt buffer index)

def fetchHalfWord (start : Nat) : Except ReadFault UInt16 :=
  fetch buffer start 2 (readHalfWord buffer start)

def fetchWord (start : Nat) : Except ReadFault UInt32 :=
  fetch buffer start 4 (ReportBlock.readWord buffer start)

/-- A read that is done under a condition. -/
def fetchIf {α : Type} (condition : Prop) [Decidable condition] (read : Except ReadFault α)
    (otherwise : α) : Except ReadFault α :=
  if condition then read else .ok otherwise

namespace RtpPacket

/-- A round of the loop over the extensions. -/
def parseExtensionChecked (bytes : List UInt8) (extensionOffset extensionsCapacity : Nat)
    (oneByte : Bool) (found : FoundExtensions) : Except ReadFault (Bool × FoundExtensions) := do
  let start := extensionOffset + found.extensionsSize
  let first ← fetchByte bytes start
  if first = 0 then .ok (true, { found with extensionsSize := found.extensionsSize + 1 })
  else
    let headerLength := if oneByte then 1 else 2
    let id := if oneByte then first >>> 4 else first
    let length ← fetchIf (oneByte = false) (fetchByte bytes (start + 1)) (1 + (first &&& 0xF))
    if oneByte ∧ (id = kOneByteHeaderExtensionReservedId ∨ id = 0 ∧ length ≠ 1) then
      .ok (false, found)
    else if found.extensionsSize + headerLength + length.toNat > extensionsCapacity then
      .ok (false, found)
    else
      let offset := start + headerLength
      if 65535 < offset then
        .ok (false,
          { found with extensionEntries := changeExtensionInfo found.extensionEntries id fun e => e })
      else
        let subflowId ← fetchIf (id = 3) (fetchByte bytes (start + 1)) found.subflowId
        let subflowSeq ← fetchIf (id = 4) (fetchHalfWord bytes (start + 1)) found.subflowSeq
        .ok (true,
          { extensionsSize := found.extensionsSize + (headerLength + length.toNat)
            extensionEntries := changeExtensionInfo found.extensionEntries id fun entry =>
              { entry with offset := UInt16.ofNat offset, length }
            subflowId
            subflowSeq })

/-- The loop over the extensions, which has to end within the rounds that it is given. -/
def parseExtensionsChecked (bytes : List UInt8) (extensionOffset extensionsCapacity : Nat)
    (oneByte : Bool) : (fuel : Nat) → FoundExtensions → Except ReadFault FoundExtensions
  | 0, found =>
      if found.extensionsSize + (if oneByte then 1 else 2) < extensionsCapacity then
        .error .unfinished
      else .ok found
  | fuel + 1, found =>
      if found.extensionsSize + (if oneByte then 1 else 2) < extensionsCapacity then do
        let round ← parseExtensionChecked bytes extensionOffset extensionsCapacity oneByte found
        if round.1 then
          parseExtensionsChecked bytes extensionOffset extensionsCapacity oneByte fuel round.2
        else .ok round.2
      else .ok found

/-- `ParseBuffer`, with the object that it leaves if it succeeds. The path and its number are
what they were, unless the loop reads others. -/
def parseBuffer (p : RtpPacket) (bytes : List UInt8) : Except ReadFault (Option RtpPacket) :=
  if bytes.length < kFixedHeaderSize then .ok none
  else do
    let first ← fetchByte bytes 0
    if first >>> 6 ≠ 2 then .ok none
    else
      let second ← fetchByte bytes 1
      let sequenceNumber ← fetchHalfWord bytes 2
      let timestamp ← fetchWord bytes 4
      let ssrc ← fetchWord bytes 8
      let payloadOffset := kFixedHeaderSize + (first &&& 0x0F).toNat * 4
      if bytes.length < payloadOffset then .ok none
      else
        let paddingSize ← fetchIf (first &&& 0x20 ≠ 0) (fetchByte bytes (bytes.length - 1)) 0
        if first &&& 0x20 ≠ 0 ∧ paddingSize = 0 then .ok none
        else
          let p :=
            { p with
              marker := decide (second &&& 0x80 ≠ 0)
              payloadType := second &&& 0x7F
              sequenceNumber
              timestamp
              ssrc
              payloadOffset
              paddingSize
              extensionsSize := 0
              extensionEntries := []
              buffer := bytes }
          if first &&& 0x10 = 0 then .ok p.parsePayload
          else
            let extensionOffset := payloadOffset + 4
            if extensionOffset > bytes.length then .ok none
            else
              let profile ← fetchHalfWord bytes payloadOffset
              let words ← fetchHalfWord bytes (payloadOffset + 2)
              let extensionsCapacity := words.toNat * 4
              if extensionOffset + extensionsCapacity > bytes.length then .ok none
              else
                let kept : FoundExtensions := { subflowId := p.subflowId, subflowSeq := p.subflowSeq }
                let found ← fetchIf
                  (profile.toNat = kOneByteExtensionProfileId ∨
                    profile.toNat = kTwoByteExtensionProfileId)
                  (parseExtensionsChecked bytes extensionOffset extensionsCapacity
                    (profile.toNat = kOneByteExtensionProfileId) extensionsCapacity kept)
                  kept
                .ok { p with
                  extensionsSize := found.extensionsSize
                  extensionEntries := found.extensionEntries
                  subflowId := found.subflowId
                  subflowSeq := found.subflowSeq
                  payloadOffset := extensionOffset + extensionsCapacity }.parsePayload

section Elements

/-- An element of the header extension: where it starts, behind the start of the first. -/
structure ExtensionElement where
  position : Nat
  id : UInt8
  length : UInt8
  deriving DecidableEq

/-- Where the elements of the header extension are. -/
structure ExtensionLayout where
  offset : Nat
  capacity : Nat
  oneByte : Bool

/-- The length of the header of an element. -/
def ExtensionLayout.headerLength (layout : ExtensionLayout) : Nat := if layout.oneByte then 1 else 2

variable (bytes : List UInt8)

/-- The place for elements in a packet that is not refused before they are read. -/
def extensionLayout : Option ExtensionLayout :=
  let first := byteAt bytes 0
  let payloadOffset := kFixedHeaderSize + (first &&& 0x0F).toNat * 4
  let profile := (readHalfWord bytes payloadOffset).toNat
  let extensionsCapacity := (readHalfWord bytes (payloadOffset + 2)).toNat * 4
  if bytes.length < kFixedHeaderSize then none
  else if first >>> 6 ≠ 2 then none
  else if bytes.length < payloadOffset then none
  else if first &&& 0x20 ≠ 0 ∧ byteAt bytes (bytes.length - 1) = 0 then none
  else if first &&& 0x10 = 0 then none
  else if payloadOffset + 4 > bytes.length then none
  else if payloadOffset + 4 + extensionsCapacity > bytes.length then none
  else if profile = kOneByteExtensionProfileId ∨ profile = kTwoByteExtensionProfileId then
    some ⟨payloadOffset + 4, extensionsCapacity, decide (profile = kOneByteExtensionProfileId)⟩
  else none

/-- The element at a position, unless it is one at which reading stops. -/
def elementAt (layout : ExtensionLayout) (position : Nat) : Option ExtensionElement :=
  let start := layout.offset + position
  let first := byteAt bytes start
  let id := if layout.oneByte then first >>> 4 else first
  let length := if layout.oneByte then 1 + (first &&& 0xF) else byteAt bytes (start + 1)
  if layout.oneByte ∧ (id = kOneByteHeaderExtensionReservedId ∨ id = 0 ∧ length ≠ 1) then none
  else if position + layout.headerLength + length.toNat > layout.capacity then none
  else if 65535 < start + layout.headerLength then none
  else some ⟨position, id, length⟩

/-- The elements from a position on. A zero between them is skipped. -/
def elementsFrom (bytes : List UInt8) (layout : ExtensionLayout) :
    (fuel position : Nat) → List ExtensionElement
  | 0, _ => []
  | fuel + 1, position =>
      if position + layout.headerLength < layout.capacity then
        if byteAt bytes (layout.offset + position) = 0 then
          elementsFrom bytes layout fuel (position + 1)
        else
          match elementAt bytes layout position with
          | none => []
          | some element =>
              element :: elementsFrom bytes layout fuel
                (position + (layout.headerLength + element.length.toNat))
      else []

/-- The elements of the header extension. -/
def elementsOf (layout : ExtensionLayout) : List ExtensionElement :=
  elementsFrom bytes layout layout.capacity 0

/-- The packet ends with an element of one byte that has the id of the path's number. -/
def EndsInShortNumber : Prop :=
  ∃ layout, extensionLayout bytes = some layout ∧ layout.oneByte = true ∧
    layout.offset + layout.capacity = bytes.length ∧
    ∃ element ∈ elementsOf bytes layout,
      element.id = 4 ∧ element.length = 1 ∧ element.position + 2 = layout.capacity

end Elements

section Rounds

variable {bytes : List UInt8} {layout : ExtensionLayout} {found : FoundExtensions}

theorem fetch_of_le {α : Type} {buffer : List UInt8} {start count : Nat}
    (inside : start + count ≤ buffer.length)
    (value : α) : fetch buffer start count value = .ok value :=
  if_pos inside

/-- What is found with an element. -/
def record (bytes : List UInt8) (layout : ExtensionLayout) (found : FoundExtensions)
    (element : ExtensionElement) : FoundExtensions where
  extensionsSize := element.position + (layout.headerLength + element.length.toNat)
  extensionEntries := changeExtensionInfo found.extensionEntries element.id fun entry =>
    { entry with
      offset := UInt16.ofNat (layout.offset + element.position + layout.headerLength)
      length := element.length }
  subflowId :=
    if element.id = 3 then byteAt bytes (layout.offset + element.position + 1) else found.subflowId
  subflowSeq :=
    if element.id = 4 then readHalfWord bytes (layout.offset + element.position + 1)
    else found.subflowSeq

/-- The number of the path is read from beyond the buffer. -/
def Overreads (bytes : List UInt8) (layout : ExtensionLayout) (element : ExtensionElement) : Prop :=
  element.id = 4 ∧ bytes.length < layout.offset + element.position + 3

/-- What a round does with the byte at its position, and how its reads end. -/
theorem parseExtensionChecked_eq
    (more : found.extensionsSize + layout.headerLength < layout.capacity)
    (inside : layout.offset + layout.capacity ≤ bytes.length) :
    if byteAt bytes (layout.offset + found.extensionsSize) = 0 then
      parseExtensionChecked bytes layout.offset layout.capacity layout.oneByte found =
        .ok (true, { found with extensionsSize := found.extensionsSize + 1 })
    else
      match elementAt bytes layout found.extensionsSize with
      | none => ∃ entries,
          parseExtensionChecked bytes layout.offset layout.capacity layout.oneByte found =
            .ok (false, { found with extensionEntries := entries }) ∧
          (entries = found.extensionEntries ∨
            ∃ id, entries = changeExtensionInfo found.extensionEntries id fun e => e)
      | some element =>
          element.position = found.extensionsSize ∧
          (Overreads bytes layout element →
            parseExtensionChecked bytes layout.offset layout.capacity layout.oneByte found =
              .error .outOfBounds) ∧
          (¬Overreads bytes layout element →
            parseExtensionChecked bytes layout.offset layout.capacity layout.oneByte found =
              .ok (true, record bytes layout found element)) := by
  have header : (if layout.oneByte = true then 1 else 2) = layout.headerLength := rfl
  have bounds : 1 ≤ layout.headerLength ∧ (layout.oneByte = false → layout.headerLength = 2) := by
    unfold ExtensionLayout.headerLength
    cases layout.oneByte <;> decide
  have firstRead : fetchByte bytes (layout.offset + found.extensionsSize) =
      .ok (byteAt bytes (layout.offset + found.extensionsSize)) := fetch_of_le (by omega) _
  have lengthRead (first : UInt8) : fetchIf (layout.oneByte = false)
      (fetchByte bytes (layout.offset + found.extensionsSize + 1)) (1 + (first &&& 0xF)) =
      .ok (if layout.oneByte = true then 1 + (first &&& 0xF)
        else byteAt bytes (layout.offset + found.extensionsSize + 1)) := by
    unfold fetchIf
    by_cases narrow : layout.oneByte = true
    · rw [if_neg (by rw [narrow]; decide), if_pos narrow]
    · have wide := bounds.2 (Bool.eq_false_of_not_eq_true narrow)
      rw [if_pos (Bool.eq_false_of_not_eq_true narrow), if_neg narrow]
      exact fetch_of_le (by omega) _
  unfold parseExtensionChecked
  dsimp only
  rw [firstRead, header]
  dsimp only [bind, Except.bind]
  by_cases zero : byteAt bytes (layout.offset + found.extensionsSize) = 0
  · rw [if_pos zero, if_pos zero]
  rw [if_neg zero, if_neg zero, lengthRead]
  unfold elementAt
  dsimp only
  generalize (if layout.oneByte = true then
    byteAt bytes (layout.offset + found.extensionsSize) >>> 4
    else byteAt bytes (layout.offset + found.extensionsSize)) = id
  generalize (if layout.oneByte = true then
    1 + (byteAt bytes (layout.offset + found.extensionsSize) &&& 0xF)
    else byteAt bytes (layout.offset + found.extensionsSize + 1)) = length
  by_cases reserved : layout.oneByte = true ∧
      (id = kOneByteHeaderExtensionReservedId ∨ id = 0 ∧ length ≠ 1)
  · rw [if_pos reserved, if_pos reserved]
    exact ⟨_, rfl, .inl rfl⟩
  rw [if_neg reserved, if_neg reserved]
  by_cases beyond : found.extensionsSize + layout.headerLength + length.toNat > layout.capacity
  · rw [if_pos beyond, if_pos beyond]
    exact ⟨_, rfl, .inl rfl⟩
  rw [if_neg beyond, if_neg beyond]
  by_cases far : 65535 < layout.offset + found.extensionsSize + layout.headerLength
  · rw [if_pos far, if_pos far]
    exact ⟨_, rfl, .inr ⟨id, rfl⟩⟩
  rw [if_neg far, if_neg far]
  have pathRead : fetchIf (id = 3) (fetchByte bytes (layout.offset + found.extensionsSize + 1))
      found.subflowId = .ok (if id = 3 then
        byteAt bytes (layout.offset + found.extensionsSize + 1) else found.subflowId) := by
    unfold fetchIf
    split
    · exact fetch_of_le (by omega) _
    · rfl
  rw [pathRead]
  dsimp only
  refine ⟨rfl, ?_, ?_⟩
  · rintro ⟨number, short⟩
    dsimp only at number short
    rw [fetchIf, if_pos number, fetchHalfWord, fetch, if_neg (by omega)]
  · intro enough
    have numberRead : fetchIf (id = 4)
        (fetchHalfWord bytes (layout.offset + found.extensionsSize + 1)) found.subflowSeq =
        .ok (if id = 4 then readHalfWord bytes (layout.offset + found.extensionsSize + 1)
          else found.subflowSeq) := by
      unfold fetchIf
      split
      · rename_i number
        refine fetch_of_le (Nat.le_of_not_lt fun short => enough ⟨number, ?_⟩) _
        dsimp only
        omega
      · rfl
    rw [numberRead]
    rfl

/-- What holds of every element. -/
structure Fits (layout : ExtensionLayout) (element : ExtensionElement) : Prop where
  started : element.position + layout.headerLength < layout.capacity
  ended : element.position + layout.headerLength + element.length.toNat ≤ layout.capacity
  filled : layout.oneByte = true → 1 ≤ element.length.toNat
  near : layout.offset + element.position + layout.headerLength ≤ 65535

theorem one_le_narrowLength (first : UInt8) : 1 ≤ (1 + (first &&& 0xF)).toNat := by
  have small : (first &&& 0xF).toNat ≤ 15 := by
    rw [UInt8.toNat_and]
    exact Nat.and_le_right
  rw [UInt8.toNat_add]
  change 1 ≤ (1 + (first &&& 0xF).toNat) % 256
  omega

variable {element : ExtensionElement}

theorem fits_of_elementAt {position : Nat} (more : position + layout.headerLength < layout.capacity)
    (read : elementAt bytes layout position = some element) :
    element.position = position ∧ Fits layout element := by
  unfold elementAt at read
  dsimp only at read
  generalize (if layout.oneByte = true then byteAt bytes (layout.offset + position) >>> 4
    else byteAt bytes (layout.offset + position)) = id at read
  generalize sized : (if layout.oneByte = true then
    1 + (byteAt bytes (layout.offset + position) &&& 0xF)
    else byteAt bytes (layout.offset + position + 1)) = length at read
  split at read
  · cases read
  split at read
  · cases read
  next within =>
  split at read
  · cases read
  next near =>
  obtain rfl := Option.some.inj read
  refine ⟨rfl, more, Nat.le_of_not_lt within, ?_, Nat.le_of_not_lt near⟩
  intro narrow
  rw [if_pos narrow] at sized
  rw [← sized]
  exact one_le_narrowLength _

theorem fits_of_mem_elementsFrom {fuel position : Nat}
    (member : element ∈ elementsFrom bytes layout fuel position) : Fits layout element := by
  induction fuel generalizing position with
  | zero => cases member
  | succ fuel ih =>
      unfold elementsFrom at member
      split at member
      · rename_i more
        split at member
        · exact ih member
        · cases read : elementAt bytes layout position with
          | none =>
              rw [read] at member
              cases member
          | some first =>
              rw [read] at member
              rcases List.mem_cons.mp member with rfl | later
              · exact (fits_of_elementAt more read).2
              · exact ih later
      · cases member

/-- Only the last element of a packet can be too short for the number of the path. -/
theorem overreads_iff (fits : Fits layout element)
    (inside : layout.offset + layout.capacity ≤ bytes.length) :
    Overreads bytes layout element ↔ layout.oneByte = true ∧
      layout.offset + layout.capacity = bytes.length ∧ element.id = 4 ∧ element.length = 1 ∧
      element.position + 2 = layout.capacity := by
  have started := fits.started
  have ended := fits.ended
  unfold Overreads
  cases narrow : layout.oneByte with
  | false =>
      have header : layout.headerLength = 2 := by
        unfold ExtensionLayout.headerLength
        rw [narrow]
        rfl
      refine iff_of_false (fun ⟨_, short⟩ => ?_) (by simp)
      omega
  | true =>
      have header : layout.headerLength = 1 := by
        unfold ExtensionLayout.headerLength
        rw [narrow]
        rfl
      have filled := fits.filled narrow
      have one : element.length = 1 ↔ element.length.toNat = 1 := UInt8.toNat_inj.symm
      rw [one]
      constructor
      · rintro ⟨number, short⟩
        exact ⟨rfl, by omega, number, by omega, by omega⟩
      · rintro ⟨-, whole, number, -, last⟩
        exact ⟨number, by omega⟩

/-- The last element with an id. -/
def lastWith (id : UInt8) (elements : List ExtensionElement) : Option ExtensionElement :=
  elements.reverse.find? fun element => element.id = id

theorem lastWith_cons (id : UInt8) (element : ExtensionElement) (elements : List ExtensionElement) :
    lastWith id (element :: elements) =
      (lastWith id elements).or (if element.id = id then some element else none) := by
  unfold lastWith
  rw [List.reverse_cons, List.find?_append]
  congr 1
  by_cases same : element.id = id
  · rw [if_pos same]
    exact List.find?_cons_of_pos (decide_eq_true same)
  · rw [if_neg same]
    exact List.find?_cons_of_neg (by simpa using same)

/-- The bytes that the entry with an id stands for. -/
def rawAt (bytes : List UInt8) (entries : List ExtensionInfo) (id : UInt8) : List UInt8 :=
  match entries.find? fun entry => entry.id = id with
  | none => []
  | some entry => (bytes.drop entry.offset.toNat).take entry.length.toNat

/-- The value of an element. -/
def valueAt (bytes : List UInt8) (layout : ExtensionLayout) (element : ExtensionElement) :
    List UInt8 :=
  (bytes.drop (layout.offset + element.position + layout.headerLength)).take element.length.toNat

theorem find_changeExtensionInfo {change : ExtensionInfo → ExtensionInfo}
    (keeps : ∀ entry, (change entry).id = entry.id) (entries : List ExtensionInfo)
    (id other : UInt8) :
    (changeExtensionInfo entries id change).find? (fun entry => entry.id = other) =
      if other = id then
        some (change ((entries.find? fun entry => entry.id = id).getD { id }))
      else entries.find? fun entry => entry.id = other := by
  induction entries with
  | nil =>
      rw [changeExtensionInfo]
      by_cases same : other = id
      · subst same
        rw [if_pos rfl]
        exact List.find?_cons_of_pos (decide_eq_true (keeps _))
      · rw [if_neg same]
        exact List.find?_cons_of_neg (by simpa [keeps] using Ne.symm same)
  | cons entry entries ih =>
      rw [changeExtensionInfo]
      by_cases here : entry.id = id
      · by_cases same : other = id
        · simp [here, same, keeps]
        · have skipped : ¬id = other := Ne.symm same
          simp [here, same, skipped, keeps]
      · rw [if_neg here, List.find?_cons, ih, List.find?_cons]
        by_cases current : entry.id = other
        · have different : ¬other = id := fun equal => here (current.trans equal)
          simp [current, different]
        · simp [current, here]

/-- An element that is found is what its entry stands for. -/
theorem rawAt_record (fits : Fits layout element) (id : UInt8) :
    rawAt bytes (record bytes layout found element).extensionEntries id =
      if element.id = id then valueAt bytes layout element
      else rawAt bytes found.extensionEntries id := by
  have position : (UInt16.ofNat (layout.offset + element.position +
      layout.headerLength)).toNat = layout.offset + element.position + layout.headerLength := by
    have near := fits.near
    rw [UInt16.toNat_ofNat']
    omega
  unfold rawAt record
  dsimp only
  rw [find_changeExtensionInfo]
  · by_cases same : element.id = id
    · rw [if_pos same.symm, if_pos same]
      dsimp only
      rw [position]
      rfl
    · rw [if_neg (Ne.symm same), if_neg same]
  · exact fun _ => rfl

/-- An entry that is looked up and then left alone stands for nothing new. -/
theorem rawAt_unchanged (bytes : List UInt8) (entries : List ExtensionInfo) (id other : UInt8) :
    rawAt bytes (changeExtensionInfo entries id fun e => e) other = rawAt bytes entries other := by
  unfold rawAt
  rw [find_changeExtensionInfo (fun _ => rfl)]
  by_cases same : other = id
  · subst same
    rw [if_pos rfl]
    cases entries.find? fun entry => entry.id = other with
    | none => rfl
    | some entry => rfl
  · rw [if_neg same]

/-- What the loop has found after these elements. -/
structure FoundIn (bytes : List UInt8) (layout : ExtensionLayout)
    (elements : List ExtensionElement) (before after : FoundExtensions) : Prop where
  path : after.subflowId = ((lastWith 3 elements).map fun element =>
    byteAt bytes (layout.offset + element.position + 1)).getD before.subflowId
  number : after.subflowSeq = ((lastWith 4 elements).map fun element =>
    readHalfWord bytes (layout.offset + element.position + 1)).getD before.subflowSeq
  values : ∀ id, rawAt bytes after.extensionEntries id =
    ((lastWith id elements).map (valueAt bytes layout)).getD
      (rawAt bytes before.extensionEntries id)

theorem getD_map_or {α β : Type} (f : α → β) (last : Option α) (first : α) (here : Prop)
    [Decidable here] (before : β) :
    (last.map f).getD (if here then f first else before) =
      ((last.or (if here then some first else none)).map f).getD before := by
  cases last with
  | some last => rfl
  | none =>
      by_cases there : here
      · rw [if_pos there, if_pos there]
        rfl
      · rw [if_neg there, if_neg there]
        rfl

theorem FoundIn.cons {element : ExtensionElement} {elements : List ExtensionElement}
    {after : FoundExtensions} (fits : Fits layout element)
    (others : FoundIn bytes layout elements (record bytes layout found element) after) :
    FoundIn bytes layout (element :: elements) found after where
  path := by
    rw [lastWith_cons, others.path, ← getD_map_or]
    rfl
  number := by
    rw [lastWith_cons, others.number, ← getD_map_or]
    rfl
  values := by
    intro id
    rw [lastWith_cons, others.values, rawAt_record fits, getD_map_or]

/-- The loop comes to its end, and all its reads are in the buffer but for the number of the
path in a short element. -/
theorem parseExtensionsChecked_cases (fuel : Nat) (found : FoundExtensions)
    (inside : layout.offset + layout.capacity ≤ bytes.length)
    (enough : layout.capacity ≤ found.extensionsSize + fuel) :
    ((∃ element ∈ elementsFrom bytes layout fuel found.extensionsSize,
        Overreads bytes layout element) ∧
      parseExtensionsChecked bytes layout.offset layout.capacity layout.oneByte fuel found =
        .error .outOfBounds) ∨
    (∀ element ∈ elementsFrom bytes layout fuel found.extensionsSize,
        ¬Overreads bytes layout element) ∧
      ∃ after, parseExtensionsChecked bytes layout.offset layout.capacity layout.oneByte fuel
          found = .ok after ∧
        FoundIn bytes layout (elementsFrom bytes layout fuel found.extensionsSize) found after := by
  have header : (if layout.oneByte = true then 1 else 2) = layout.headerLength := rfl
  have positive : 1 ≤ layout.headerLength := by
    rw [← header]
    split <;> decide
  have nothing (found : FoundExtensions) : FoundIn bytes layout [] found found :=
    ⟨rfl, rfl, fun _ => rfl⟩
  induction fuel generalizing found with
  | zero =>
      refine .inr ⟨fun _ member => absurd member List.not_mem_nil, found, ?_, nothing found⟩
      rw [parseExtensionsChecked, header, if_neg (by omega)]
  | succ fuel ih =>
      rw [elementsFrom, parseExtensionsChecked, header]
      by_cases more : found.extensionsSize + layout.headerLength < layout.capacity
      · have round := parseExtensionChecked_eq more inside
        rw [if_pos more, if_pos more]
        by_cases zero : byteAt bytes (layout.offset + found.extensionsSize) = 0
        · rw [if_pos zero] at round
          rw [if_pos zero, round]
          refine (ih { found with extensionsSize := found.extensionsSize + 1 } ?_).imp_right fun ⟨safe, after, ended, others⟩ =>
              ⟨safe, after, ended, others.path, others.number, others.values⟩
          dsimp only
          omega
        · rw [if_neg zero] at round ⊢
          cases read : elementAt bytes layout found.extensionsSize with
          | none =>
              rw [read] at round
              obtain ⟨entries, stopped, same⟩ := round
              refine .inr ⟨fun _ member => absurd member List.not_mem_nil,
                { found with extensionEntries := entries }, ?_, rfl, rfl, ?_⟩
              · rw [stopped]
                rfl
              · intro id
                rcases same with rfl | ⟨other, rfl⟩
                · rfl
                · exact rawAt_unchanged bytes _ _ _
          | some element =>
              rw [read] at round
              obtain ⟨position, overread, within⟩ := round
              have fits := (fits_of_elementAt more read).2
              dsimp only
              by_cases beyond : Overreads bytes layout element
              · refine .inl ⟨⟨element, List.mem_cons_self, beyond⟩, ?_⟩
                rw [overread beyond]
                rfl
              · have next : (record bytes layout found element).extensionsSize =
                    found.extensionsSize + (layout.headerLength + element.length.toNat) := by
                  rw [← position]
                  rfl
                rw [within beyond, ← next]
                have rest := ih (record bytes layout found element) (by omega)
                refine rest.imp (fun ⟨⟨other, member, beyond'⟩, failed⟩ =>
                  ⟨⟨other, List.mem_cons_of_mem _ member, beyond'⟩, failed⟩) ?_
                rintro ⟨safe, after, ended, others⟩
                refine ⟨?_, after, ended, others.cons fits⟩
                intro other member
                rcases List.mem_cons.mp member with rfl | later
                · exact beyond
                · exact safe other later
      · rw [if_neg more, if_neg more]
        exact .inr ⟨fun _ member => absurd member List.not_mem_nil, found, rfl, nothing found⟩

end Rounds

section Buffers

variable {bytes : List UInt8} {layout : ExtensionLayout}

/-- The object when the elements of the header extension are to be read. -/
def withHeading (p : RtpPacket) (bytes : List UInt8) : RtpPacket :=
  { p with
    marker := decide (byteAt bytes 1 &&& 0x80 ≠ 0)
    payloadType := byteAt bytes 1 &&& 0x7F
    sequenceNumber := readHalfWord bytes 2
    timestamp := ReportBlock.readWord bytes 4
    ssrc := ReportBlock.readWord bytes 8
    payloadOffset := kFixedHeaderSize + (byteAt bytes 0 &&& 0x0F).toNat * 4
    paddingSize := if byteAt bytes 0 &&& 0x20 ≠ 0 then byteAt bytes (bytes.length - 1) else 0
    extensionsSize := 0
    extensionEntries := []
    buffer := bytes }

variable (p : RtpPacket)

/-- The object with what was found in the header extension. -/
def withFound (found : FoundExtensions) (payloadOffset : Nat) : RtpPacket :=
  { p with
    extensionsSize := found.extensionsSize
    extensionEntries := found.extensionEntries
    subflowId := found.subflowId
    subflowSeq := found.subflowSeq
    payloadOffset }

/-- The path that an object already has. -/
def keptPath : FoundExtensions where
  subflowId := p.subflowId
  subflowSeq := p.subflowSeq

/-- A packet is refused, or has no elements that the parser would read, or its elements are
read. All other reads are in the buffer. -/
theorem parseBuffer_cases (bytes : List UInt8) :
    (extensionLayout bytes = none ∧ (parseBuffer p bytes = .ok none ∨
      ∃ payloadOffset, parseBuffer p bytes =
        .ok ((p.withHeading bytes).withFound p.keptPath payloadOffset).parsePayload)) ∨
    ∃ layout, extensionLayout bytes = some layout ∧
      layout.offset + layout.capacity ≤ bytes.length ∧
      parseBuffer p bytes = (parseExtensionsChecked bytes layout.offset layout.capacity
        layout.oneByte layout.capacity p.keptPath).map fun found =>
          ((p.withHeading bytes).withFound found (layout.offset + layout.capacity)).parsePayload := by
  unfold parseBuffer extensionLayout
  dsimp only
  by_cases short : bytes.length < kFixedHeaderSize
  · rw [if_pos short, if_pos short]
    exact .inl ⟨rfl, .inl rfl⟩
  have long : 12 ≤ bytes.length := Nat.le_of_not_lt short
  have firstRead : fetchByte bytes 0 = .ok (byteAt bytes 0) := fetch_of_le (by omega) _
  have secondRead : fetchByte bytes 1 = .ok (byteAt bytes 1) := fetch_of_le (by omega) _
  have numberRead : fetchHalfWord bytes 2 = .ok (readHalfWord bytes 2) := fetch_of_le (by omega) _
  have timeRead : fetchWord bytes 4 = .ok (ReportBlock.readWord bytes 4) := fetch_of_le (by omega) _
  have sourceRead : fetchWord bytes 8 = .ok (ReportBlock.readWord bytes 8) :=
    fetch_of_le (by omega) _
  have paddingRead : fetchIf (byteAt bytes 0 &&& 0x20 ≠ 0) (fetchByte bytes (bytes.length - 1)) 0 =
      .ok (if byteAt bytes 0 &&& 0x20 ≠ 0 then byteAt bytes (bytes.length - 1) else 0) := by
    unfold fetchIf
    split
    · exact fetch_of_le (by omega) _
    · rfl
  rw [if_neg short, if_neg short, firstRead]
  dsimp only [bind, Except.bind]
  by_cases version : byteAt bytes 0 >>> 6 ≠ 2
  · rw [if_pos version, if_pos version]
    exact .inl ⟨rfl, .inl rfl⟩
  rw [if_neg version, if_neg version, secondRead, numberRead, timeRead, sourceRead]
  dsimp only
  by_cases sources : bytes.length < kFixedHeaderSize + (byteAt bytes 0 &&& 0x0F).toNat * 4
  · rw [if_pos sources, if_pos sources]
    exact .inl ⟨rfl, .inl rfl⟩
  rw [if_neg sources, if_neg sources, paddingRead]
  dsimp only
  have padding : (byteAt bytes 0 &&& 0x20 ≠ 0 ∧
      (if byteAt bytes 0 &&& 0x20 ≠ 0 then byteAt bytes (bytes.length - 1) else 0) = 0) ↔
      byteAt bytes 0 &&& 0x20 ≠ 0 ∧ byteAt bytes (bytes.length - 1) = 0 :=
    and_congr_right fun flag => by rw [if_pos flag]
  by_cases unpadded : byteAt bytes 0 &&& 0x20 ≠ 0 ∧ byteAt bytes (bytes.length - 1) = 0
  · rw [if_pos (padding.mpr unpadded), if_pos unpadded]
    exact .inl ⟨rfl, .inl rfl⟩
  rw [if_neg (mt padding.mp unpadded), if_neg unpadded]
  by_cases plain : byteAt bytes 0 &&& 0x10 = 0
  · rw [if_pos plain, if_pos plain]
    exact .inl ⟨rfl, .inr ⟨_, rfl⟩⟩
  rw [if_neg plain, if_neg plain]
  by_cases cut : kFixedHeaderSize + (byteAt bytes 0 &&& 0x0F).toNat * 4 + 4 > bytes.length
  · rw [if_pos cut, if_pos cut]
    exact .inl ⟨rfl, .inl rfl⟩
  have profileRead : fetchHalfWord bytes (kFixedHeaderSize + (byteAt bytes 0 &&& 0x0F).toNat * 4) =
      .ok (readHalfWord bytes (kFixedHeaderSize + (byteAt bytes 0 &&& 0x0F).toNat * 4)) :=
    fetch_of_le (by omega) _
  have wordsRead : fetchHalfWord bytes (kFixedHeaderSize +
        (byteAt bytes 0 &&& 0x0F).toNat * 4 + 2) =
      .ok (readHalfWord bytes (kFixedHeaderSize + (byteAt bytes 0 &&& 0x0F).toNat * 4 + 2)) :=
    fetch_of_le (by omega) _
  rw [if_neg cut, if_neg cut, profileRead, wordsRead]
  dsimp only
  by_cases large : kFixedHeaderSize + (byteAt bytes 0 &&& 0x0F).toNat * 4 + 4 +
      (readHalfWord bytes (kFixedHeaderSize + (byteAt bytes 0 &&& 0x0F).toNat * 4 + 2)).toNat * 4 >
        bytes.length
  · rw [if_pos large, if_pos large]
    exact .inl ⟨rfl, .inl rfl⟩
  rw [if_neg large, if_neg large, fetchIf]
  by_cases known : (readHalfWord bytes (kFixedHeaderSize +
      (byteAt bytes 0 &&& 0x0F).toNat * 4)).toNat = kOneByteExtensionProfileId ∨
      (readHalfWord bytes (kFixedHeaderSize + (byteAt bytes 0 &&& 0x0F).toNat * 4)).toNat =
        kTwoByteExtensionProfileId
  · rw [if_pos known, if_pos known]
    exact .inr ⟨_, rfl, Nat.le_of_not_lt large, rfl⟩
  · rw [if_neg known, if_neg known]
    exact .inl ⟨rfl, .inr ⟨_, rfl⟩⟩

end Buffers

section Unchecked

variable {α β : Type}

/-- A run that comes to its end yields this value. -/
structure Yields (run : Except ReadFault α) (value : α) : Prop where
  eq : ∀ result, run = .ok result → result = value

theorem yields_ok (value : α) : Yields (.ok value) value :=
  ⟨fun _ ended => (Except.ok.inj ended).symm⟩

theorem yields_fetch (buffer : List UInt8) (start count : Nat) (value : α) :
    Yields (fetch buffer start count value) value := by
  refine ⟨fun result ended => ?_⟩
  unfold fetch at ended
  split at ended
  · exact (Except.ok.inj ended).symm
  · cases ended

theorem Yields.bind {run : Except ReadFault α} {value : α} {next : α → Except ReadFault β}
    {final : β} (first : Yields run value) (second : Yields (next value) final) :
    Yields (run >>= next) final := by
  refine ⟨fun result ended => ?_⟩
  cases ran : run with
  | error fault =>
      rw [ran] at ended
      cases ended
  | ok middle =>
      rw [ran] at ended
      rw [← first.eq middle ran] at second
      exact second.eq result ended

theorem yields_ite {condition : Prop} [Decidable condition] {run other : Except ReadFault α}
    {value otherwise : α} (positive : condition → Yields run value)
    (negative : ¬condition → Yields other otherwise) :
    Yields (if condition then run else other) (if condition then value else otherwise) := by
  by_cases holds : condition
  · rw [if_pos holds, if_pos holds]
    exact positive holds
  · rw [if_neg holds, if_neg holds]
    exact negative holds

theorem Yields.fetchIf {condition : Prop} [Decidable condition] {run : Except ReadFault α}
    {value : α} (read : Yields run value) (otherwise : α) :
    Yields (fetchIf condition run otherwise) (if condition then value else otherwise) :=
  yields_ite (fun _ => read) fun _ => yields_ok otherwise

theorem yields_parseExtension (bytes : List UInt8) (extensionOffset extensionsCapacity : Nat)
    (oneByte : Bool) (found : FoundExtensions) :
    Yields (parseExtensionChecked bytes extensionOffset extensionsCapacity oneByte found)
      (parseExtension bytes extensionOffset extensionsCapacity oneByte found) := by
  unfold parseExtensionChecked parseExtension
  dsimp only
  refine (yields_fetch ..).bind (yields_ite (fun _ => yields_ok _) fun _ => ?_)
  have swapped (narrow wide : UInt8) : (if oneByte = false then wide else narrow) =
      if oneByte = true then narrow else wide := by
    cases oneByte <;> rfl
  refine ((yields_fetch ..).fetchIf _).bind ?_
  rw [swapped]
  refine yields_ite (fun _ => yields_ok _) fun _ => ?_
  refine yields_ite (fun _ => yields_ok _) fun _ => ?_
  refine yields_ite (fun _ => yields_ok _) fun _ => ?_
  exact ((yields_fetch ..).fetchIf _).bind (((yields_fetch ..).fetchIf _).bind (yields_ok _))

theorem yields_parseExtensions (bytes : List UInt8) (extensionOffset extensionsCapacity : Nat)
    (oneByte : Bool) (fuel : Nat) (found : FoundExtensions) :
    Yields (parseExtensionsChecked bytes extensionOffset extensionsCapacity oneByte fuel found)
      (parseExtensions bytes extensionOffset extensionsCapacity oneByte fuel found) := by
  induction fuel generalizing found with
  | zero =>
      refine ⟨fun result ended => ?_⟩
      unfold parseExtensionsChecked at ended
      by_cases more : found.extensionsSize + (if oneByte = true then 1 else 2) < extensionsCapacity
      · rw [if_pos more] at ended
        cases ended
      · rw [if_neg more] at ended
        exact (Except.ok.inj ended).symm
  | succ fuel ih =>
      unfold parseExtensionsChecked parseExtensions
      refine yields_ite (fun _ => ?_) fun _ => yields_ok _
      refine (yields_parseExtension ..).bind ?_
      cases parseExtension bytes extensionOffset extensionsCapacity oneByte found with
      | mk more next =>
          cases more with
          | true => exact ih next
          | false => exact yields_ok next

/-- For a new object, the checked parser and the plain one come to the same. -/
theorem yields_parse (memory bytes : List UInt8) :
    Yields (parseBuffer { buffer := memory } bytes) (parse bytes) := by
  unfold parseBuffer parse
  dsimp only
  refine yields_ite (fun _ => yields_ok _) fun _ => ?_
  refine (yields_fetch ..).bind (yields_ite (fun _ => yields_ok _) fun _ => ?_)
  refine (yields_fetch ..).bind ((yields_fetch ..).bind ((yields_fetch ..).bind
    ((yields_fetch ..).bind (yields_ite (fun _ => yields_ok _) fun _ => ?_))))
  refine ((yields_fetch ..).fetchIf _).bind (yields_ite (fun _ => yields_ok _) fun _ => ?_)
  refine yields_ite (fun _ => yields_ok _) fun _ => ?_
  refine yields_ite (fun _ => yields_ok _) fun _ => ?_
  refine (yields_fetch ..).bind ((yields_fetch ..).bind (yields_ite (fun _ => yields_ok _)
    fun _ => ?_))
  exact ((yields_parseExtensions ..).fetchIf _).bind (yields_ok _)

end Unchecked

section Safety

/-- **Reads of the parser.** Whatever the bytes and whatever the object held before, the loop
over the elements comes to its end, and every read is in the buffer exactly if the packet does
not end in an element of one byte with the id of the path's number. -/
theorem reads_inside_iff (p : RtpPacket) (bytes : List UInt8) :
    parseBuffer p bytes ≠ .error .unfinished ∧
      ((∃ result, parseBuffer p bytes = .ok result) ↔ ¬EndsInShortNumber bytes) := by
  rcases parseBuffer_cases p bytes with
    ⟨absent, refused | ⟨_, accepted⟩⟩ | ⟨layout, found, inside, read⟩
  · have none : ¬EndsInShortNumber bytes := by
      rintro ⟨layout, found, -⟩
      cases absent.symm.trans found
    rw [refused]
    exact ⟨nofun, iff_of_true ⟨_, rfl⟩ none⟩
  · have none : ¬EndsInShortNumber bytes := by
      rintro ⟨layout, found, -⟩
      cases absent.symm.trans found
    rw [accepted]
    exact ⟨nofun, iff_of_true ⟨_, rfl⟩ none⟩
  · have loop := parseExtensionsChecked_cases layout.capacity p.keptPath inside (Nat.le_add_left ..)
    rw [read]
    rcases loop with ⟨⟨element, member, overread⟩, failed⟩ | ⟨safe, after, ended, -⟩
    · rw [failed]
      refine ⟨nofun, iff_of_false nofun (not_not.mpr ?_)⟩
      obtain ⟨narrow, whole, number, short, last⟩ :=
        (overreads_iff (fits_of_mem_elementsFrom member) inside).mp overread
      exact ⟨layout, found, narrow, whole, element, member, number, short, last⟩
    · rw [ended]
      refine ⟨nofun, iff_of_true ⟨_, rfl⟩ ?_⟩
      rintro ⟨other, found', narrow, whole, element, member, number, short, last⟩
      obtain rfl : layout = other := Option.some.inj (found.symm.trans found')
      exact safe element member ((overreads_iff (fits_of_mem_elementsFrom member) inside).mpr
        ⟨narrow, whole, number, short, last⟩)

/-- Two zeros, and an element of one byte with id 4 at the end of the packet. -/
theorem short_number_read_beyond_buffer :
    parseBuffer { buffer := [] } [0x90, 0, 0, 0, 0, 0, 0, 0, 0, 0, 0, 0, 0xBE, 0xDE, 0, 1,
      0, 0, 0x40, 7] = .error .outOfBounds := by
  rfl

end Safety

end RtpPacket

end MpWebRtc
