import MpWebRtc.Rtp.RtpPacket

/-!
# The layout of a built packet

What the calls that build a packet write, as one list of bytes: the fixed header, the
contributing sources, the block of extensions with its length and the zeros after it, and
then whatever is in the rest of the buffer. Every call keeps this shape.
-/

namespace MpWebRtc

open Math.Memory Math.Wire

/-- The fields of the fixed header. -/
structure PacketHeader where
  marker : Bool := false
  payloadType : UInt8 := 0
  sequenceNumber : UInt16 := 0
  timestamp : UInt32 := 0
  ssrc : UInt32 := 0
  deriving DecidableEq

namespace RtpPacket

def header (p : RtpPacket) : PacketHeader where
  marker := p.marker
  payloadType := p.payloadType
  sequenceNumber := p.sequenceNumber
  timestamp := p.timestamp
  ssrc := p.ssrc

/-- What calls for extensions leave as it is. -/
def settings (p : RtpPacket) : Bool × PacketHeader := (p.extmapAllowMixed, p.header)

section Shape

/-- The profile of the extensions. -/
def profileOf (twoByte : Bool) : Nat :=
  if twoByte then kTwoByteExtensionProfileId else kOneByteExtensionProfileId

/-- The size of the header of an extension. -/
def headerSize (twoByte : Bool) : Nat := if twoByte then 2 else 1

/-- The extensions one after the other. -/
def extensionBlock (twoByte : Bool) (extensions : List (UInt8 × List UInt8)) : List UInt8 :=
  extensions.flatMap fun extension =>
    extensionHeader (profileOf twoByte) extension.1 extension.2.length ++ extension.2

variable (size : Nat)

/-- The size of a block in words. -/
def wordsOf : Nat := (size + 3) / 4

/-- The extensions with what comes before and after them, if there are any. -/
def extensionArea (twoByte : Bool) (extensions : List (UInt8 × List UInt8)) : List UInt8 :=
  if extensions = [] then []
  else
    let size := (extensionBlock twoByte extensions).length
    halfWordBytes (UInt16.ofNat (profileOf twoByte)) ++
      (halfWordBytes (UInt16.ofNat (wordsOf size)) ++
        (extensionBlock twoByte extensions ++ List.replicate (4 * wordsOf size - size) 0))

/-- Where the values are, if the first header is at `start`. -/
def entriesFrom (twoByte : Bool) : (start : Nat) → List (UInt8 × List UInt8) → List ExtensionInfo
  | _, [] => []
  | start, extension :: extensions =>
      { id := extension.1
        length := UInt8.ofNat extension.2.length
        offset := UInt16.ofNat (start + headerSize twoByte) } ::
        entriesFrom twoByte (start + headerSize twoByte + extension.2.length) extensions

/-- The first byte: version, padding bit, extension bit and number of contributing sources. -/
def firstByte (extended padded : Bool) (count : Nat) : UInt8 :=
  UInt8.ofNat (128 + (if padded then 32 else 0) + (if extended then 16 else 0) + count)

/-- The second byte: marker and payload type. -/
def secondByte (marker : Bool) (payloadType : UInt8) : UInt8 :=
  if marker then payloadType ||| 0x80 else payloadType

variable (p : RtpPacket)

/-- The fixed header. -/
def fixedHeader (first : UInt8) : List UInt8 :=
  [first] ++ ([secondByte p.marker p.payloadType] ++ (halfWordBytes p.sequenceNumber ++
    (wordBytes p.timestamp ++ wordBytes p.ssrc)))

/-- The padding. Its last byte is its size. -/
def paddingOf : List UInt8 :=
  if size = 0 then [] else List.replicate (size - 1) 0 ++ [UInt8.ofNat size]

/-- All bytes of a packet with the fields of `p`. -/
def wire (csrcs : List UInt32) (twoByte : Bool)
    (extensions : List (UInt8 × List UInt8)) (payload : List UInt8) (padding : Nat) : List UInt8 :=
  fixedHeader p (firstByte (!extensions.isEmpty) (padding != 0) csrcs.length) ++
    (csrcs.flatMap wordBytes ++ (extensionArea twoByte extensions ++
      (payload ++ paddingOf padding)))

variable {twoByte : Bool} {extensions : List (UInt8 × List UInt8)}

@[simp] theorem length_halfWordBytes (value : UInt16) : (halfWordBytes value).length = 2 := by
  simp [halfWordBytes]

@[simp] theorem length_extensionHeader (twoByte : Bool) (id : UInt8) (length : Nat) :
    (extensionHeader (profileOf twoByte) id length).length = headerSize twoByte := by
  cases twoByte <;> rfl

@[simp] theorem length_fixedHeader (first : UInt8) : (fixedHeader p first).length = 12 := by
  simp [fixedHeader]

@[simp] theorem length_paddingOf : (paddingOf size).length = size := by
  unfold paddingOf
  split
  · next empty => rw [empty, List.length_nil]
  · rw [List.length_append, List.length_replicate, List.length_singleton]
    omega

@[simp] theorem extensionBlock_nil (twoByte : Bool) : extensionBlock twoByte [] = [] := rfl

theorem extensionBlock_cons (twoByte : Bool) (extension : UInt8 × List UInt8)
    (extensions : List (UInt8 × List UInt8)) :
    extensionBlock twoByte (extension :: extensions) =
      extensionHeader (profileOf twoByte) extension.1 extension.2.length ++
        (extension.2 ++ extensionBlock twoByte extensions) := by
  rw [extensionBlock, List.flatMap_cons, List.append_assoc]
  rfl

theorem extensionBlock_concat (twoByte : Bool) (extensions : List (UInt8 × List UInt8))
    (extension : UInt8 × List UInt8) :
    extensionBlock twoByte (extensions ++ [extension]) =
      extensionBlock twoByte extensions ++
        (extensionHeader (profileOf twoByte) extension.1 extension.2.length ++ extension.2) := by
  rw [extensionBlock, List.flatMap_append, List.flatMap_singleton]
  rfl

theorem length_extensionBlock_concat (twoByte : Bool) (extensions : List (UInt8 × List UInt8))
    (extension : UInt8 × List UInt8) :
    (extensionBlock twoByte (extensions ++ [extension])).length =
      (extensionBlock twoByte extensions).length + headerSize twoByte + extension.2.length := by
  rw [extensionBlock_concat, List.length_append, List.length_append, length_extensionHeader,
    Nat.add_assoc]

/-- Promotion makes every extension one byte longer. -/
theorem length_extensionBlock_true (extensions : List (UInt8 × List UInt8)) :
    (extensionBlock true extensions).length =
      (extensionBlock false extensions).length + extensions.length := by
  induction extensions with
  | nil => rfl
  | cons extension extensions ih =>
      rw [extensionBlock_cons, extensionBlock_cons, List.length_append, List.length_append,
        List.length_append, List.length_append, length_extensionHeader, length_extensionHeader, ih,
        List.length_cons]
      simp only [headerSize, Bool.false_eq_true, ↓reduceIte]
      omega

theorem length_entriesFrom (twoByte : Bool) (start : Nat) :
    (entriesFrom twoByte start extensions).length = extensions.length := by
  induction extensions generalizing start with
  | nil => rfl
  | cons extension extensions ih => rw [entriesFrom, List.length_cons, ih, List.length_cons]

theorem entriesFrom_concat (twoByte : Bool) (start : Nat)
    (extensions : List (UInt8 × List UInt8)) (extension : UInt8 × List UInt8) :
    entriesFrom twoByte start (extensions ++ [extension]) =
      entriesFrom twoByte start extensions ++
        [{ id := extension.1
           length := UInt8.ofNat extension.2.length
           offset := UInt16.ofNat
            (start + (extensionBlock twoByte extensions).length + headerSize twoByte) }] := by
  induction extensions generalizing start with
  | nil => rfl
  | cons first extensions ih =>
      rw [List.cons_append, entriesFrom, entriesFrom, ih, List.cons_append, extensionBlock_cons,
        List.length_append, List.length_append, length_extensionHeader]
      congr 5
      omega

theorem ids_entriesFrom (twoByte : Bool) (start : Nat) :
    (entriesFrom twoByte start extensions).map ExtensionInfo.id = extensions.map Prod.fst := by
  induction extensions generalizing start with
  | nil => rfl
  | cons extension extensions ih => rw [entriesFrom, List.map_cons, List.map_cons, ih]

/-- An id that is not there is not found. -/
theorem find_entriesFrom_eq_none {id : UInt8} (fresh : id ∉ extensions.map Prod.fst)
    (twoByte : Bool) (start : Nat) :
    (entriesFrom twoByte start extensions).find? (fun entry => entry.id = id) = none := by
  rw [List.find?_eq_none]
  intro entry member
  have listed : entry.id ∈ (entriesFrom twoByte start extensions).map ExtensionInfo.id :=
    List.mem_map_of_mem member
  rw [ids_entriesFrom] at listed
  rw [decide_eq_true_iff]
  rintro rfl
  exact fresh listed

theorem length_extensionArea (filled : extensions ≠ []) :
    (extensionArea twoByte extensions).length =
      4 + 4 * wordsOf (extensionBlock twoByte extensions).length := by
  unfold extensionArea wordsOf
  rw [if_neg filled]
  simp only [List.length_append, length_halfWordBytes, List.length_replicate]
  omega

end Shape

section Shapes

variable {twoByte : Bool} {first second others : List (UInt8 × List UInt8)}

/-- The ids and the lengths of extensions. -/
def shapeOf (extensions : List (UInt8 × List UInt8)) : List (UInt8 × Nat) :=
  extensions.map fun extension => (extension.1, extension.2.length)

section

variable (same : shapeOf first = shapeOf second)
include same

theorem length_extensionBlock_of_shape :
    (extensionBlock twoByte first).length = (extensionBlock twoByte second).length := by
  induction first generalizing second with
  | nil =>
      obtain rfl := List.map_eq_nil_iff.mp same.symm
      rfl
  | cons extension first ih =>
      cases second with
      | nil => exact absurd same (List.cons_ne_nil _ _)
      | cons other second =>
          obtain ⟨head, tail⟩ := List.cons.inj same
          have length : extension.2.length = other.2.length := (Prod.mk.inj head).2
          rw [extensionBlock_cons, extensionBlock_cons]
          simp only [List.length_append, length_extensionHeader]
          rw [ih tail, length]

theorem entriesFrom_of_shape (start : Nat) :
    entriesFrom twoByte start first = entriesFrom twoByte start second := by
  induction first generalizing second start with
  | nil =>
      obtain rfl := List.map_eq_nil_iff.mp same.symm
      rfl
  | cons extension first ih =>
      cases second with
      | nil => exact absurd same (List.cons_ne_nil _ _)
      | cons other second =>
          obtain ⟨head, tail⟩ := List.cons.inj same
          have id : extension.1 = other.1 := (Prod.mk.inj head).1
          have length : extension.2.length = other.2.length := (Prod.mk.inj head).2
          rw [entriesFrom, entriesFrom, ih tail, id, length]

theorem eq_nil_of_shape : first = [] ↔ second = [] := by
  rw [← List.length_eq_zero_iff, ← List.length_eq_zero_iff]
  have count := congrArg List.length same
  rw [shapeOf, shapeOf, List.length_map, List.length_map] at count
  rw [count]

theorem length_extensionArea_of_shape :
    (extensionArea twoByte first).length = (extensionArea twoByte second).length := by
  by_cases empty : first = []
  · rw [empty, (eq_nil_of_shape same).mp empty]
  · rw [length_extensionArea empty, length_extensionArea (mt (eq_nil_of_shape same).mpr empty),
      length_extensionBlock_of_shape same]

theorem isEmpty_of_shape : first.isEmpty = second.isEmpty := by
  rw [Bool.eq_iff_iff, List.isEmpty_iff, List.isEmpty_iff]
  exact eq_nil_of_shape same

end

theorem entriesFrom_append (twoByte : Bool) (start : Nat)
    (first second : List (UInt8 × List UInt8)) :
    entriesFrom twoByte start (first ++ second) = entriesFrom twoByte start first ++
      entriesFrom twoByte (start + (extensionBlock twoByte first).length) second := by
  induction first generalizing start with
  | nil => rfl
  | cons extension first ih =>
      rw [List.cons_append, entriesFrom, entriesFrom, ih, List.cons_append, extensionBlock_cons,
        List.length_append, List.length_append, length_extensionHeader]
      simp only [Nat.add_assoc]

/-- The lists with one value replaced have the same shape. -/
theorem shapeOf_replace {id : UInt8} {old value : List UInt8} (same : old.length = value.length) :
    shapeOf (first ++ (id, old) :: second) = shapeOf (first ++ (id, value) :: second) := by
  unfold shapeOf
  rw [List.map_append, List.map_append, List.map_cons, List.map_cons, same]

/-- The area of the extensions, split at one value. -/
theorem extensionArea_middle {before others : List (UInt8 × List UInt8)} {id : UInt8}
    {value : List UInt8} {size : Nat}
    (sized : (extensionBlock twoByte (before ++ (id, value) :: others)).length = size) :
    extensionArea twoByte (before ++ (id, value) :: others) =
      halfWordBytes (UInt16.ofNat (profileOf twoByte)) ++
        (halfWordBytes (UInt16.ofNat (wordsOf size)) ++
          (extensionBlock twoByte before ++
            (extensionHeader (profileOf twoByte) id value.length ++
              (value ++ (extensionBlock twoByte others ++
                List.replicate (4 * wordsOf size - size) 0))))) := by
  have filled : before ++ (id, value) :: others ≠ [] :=
    List.append_ne_nil_of_right_ne_nil _ (List.cons_ne_nil _ _)
  have block : extensionBlock twoByte (before ++ (id, value) :: others) =
      extensionBlock twoByte before ++
        (extensionHeader (profileOf twoByte) id value.length ++
          (value ++ extensionBlock twoByte others)) := by
    rw [← extensionBlock_cons twoByte (id, value)]
    exact List.flatMap_append
  unfold extensionArea
  rw [if_neg filled, sized, block]
  simp only [List.append_assoc]

end Shapes

section Reading

variable {earlier later : List UInt8} {start : Nat}

/-- A half word is read back where it was written. -/
theorem readHalfWord_append (position : start = earlier.length) (value : UInt16) :
    readHalfWord (earlier ++ (halfWordBytes value ++ later)) start = value := by
  have read := @take_drop_append _ earlier (halfWordBytes value) later start position
  rw [length_halfWordBytes] at read
  rw [readHalfWord, read, halfWordBytes, readBigEndian_writeBigEndian]
  refine UInt16.toNat_inj.mp ?_
  rw [UInt16.toNat_ofNat']
  have small := value.toNat_lt
  omega

end Reading

section Bytes

/-! The bits of the first two bytes. -/

theorem firstByte_cases (p : UInt8 → Bool → Bool → Nat → Prop)
    [∀ byte extended padded count, Decidable (p byte extended padded count)]
    (all : ∀ (count : Fin 16) (extended padded : Bool),
      p (firstByte extended padded count) extended padded count)
    {count : Nat} (few : count ≤ 15) (extended padded : Bool) :
    p (firstByte extended padded count) extended padded count :=
  all ⟨count, Nat.lt_succ_of_le few⟩ extended padded

variable {count : Nat}

section

variable (few : count ≤ 15)
include few

theorem firstByte_count (extended padded : Bool) :
    (firstByte extended padded count &&& 0x0F).toNat = count :=
  firstByte_cases (fun byte _ _ count => (byte &&& 0x0F).toNat = count) (by decide) few ..

theorem firstByte_setCount :
    (firstByte false false 0 &&& 0xF0) ||| UInt8.ofNat count = firstByte false false count :=
  firstByte_cases
    (fun _ _ _ count => (firstByte false false 0 &&& 0xF0) ||| UInt8.ofNat count =
      firstByte false false count) (by decide) few false false

theorem firstByte_setExtended (padded : Bool) :
    firstByte false padded count ||| 0x10 = firstByte true padded count :=
  firstByte_cases
    (fun _ _ padded count => firstByte false padded count ||| 0x10 = firstByte true padded count)
    (by decide) few false padded

theorem firstByte_setPadded (extended : Bool) :
    firstByte extended false count ||| 0x20 = firstByte extended true count :=
  firstByte_cases
    (fun _ extended _ count =>
      firstByte extended false count ||| 0x20 = firstByte extended true count)
    (by decide) few extended false

theorem firstByte_clearPadded (extended : Bool) :
    firstByte extended false count &&& 0xDF = firstByte extended false count :=
  firstByte_cases
    (fun _ extended _ count =>
      firstByte extended false count &&& 0xDF = firstByte extended false count)
    (by decide) few extended false

theorem firstByte_version (extended padded : Bool) : firstByte extended padded count >>> 6 = 2 :=
  firstByte_cases (fun byte _ _ _ => byte >>> 6 = 2) (by decide) few ..

theorem firstByte_padded (extended padded : Bool) :
    firstByte extended padded count &&& 0x20 ≠ 0 ↔ padded = true :=
  firstByte_cases (fun byte _ padded _ => byte &&& 0x20 ≠ 0 ↔ padded = true) (by decide) few ..

theorem firstByte_extended (extended padded : Bool) :
    firstByte extended padded count &&& 0x10 = 0 ↔ extended = false :=
  firstByte_cases (fun byte extended _ _ => byte &&& 0x10 = 0 ↔ extended = false) (by decide) few ..

end

variable {payloadType : UInt8}

theorem secondByte_cases (p : UInt8 → Bool → UInt8 → Prop)
    [∀ byte marker payloadType, Decidable (p byte marker payloadType)]
    (all : ∀ (small : Fin 128) (marker : Bool),
      p (secondByte marker (UInt8.ofNat small)) marker (UInt8.ofNat small))
    (small : payloadType < 128) (marker : Bool) :
    p (secondByte marker payloadType) marker payloadType := by
  have bound : payloadType.toNat < 128 := UInt8.lt_iff_toNat_lt.mp small
  have result := all ⟨payloadType.toNat, bound⟩ marker
  rwa [UInt8.ofNat_toNat] at result

variable (small : payloadType < 128)
include small

theorem secondByte_marker (marker : Bool) :
    secondByte marker payloadType &&& 0x80 = if marker then 0x80 else 0 :=
  secondByte_cases (fun byte marker _ => byte &&& 0x80 = if marker then 0x80 else 0)
    (by decide) small marker

theorem secondByte_payloadType (marker : Bool) :
    secondByte marker payloadType &&& 0x7F = payloadType :=
  secondByte_cases (fun byte _ payloadType => byte &&& 0x7F = payloadType) (by decide) small marker

theorem secondByte_setMarker (marker : Bool) :
    secondByte marker payloadType ||| 0x80 = secondByte true payloadType :=
  secondByte_cases (fun byte _ payloadType => byte ||| 0x80 = secondByte true payloadType)
    (by decide) small marker

theorem secondByte_setPayloadType (marker : Bool) (next : UInt8) :
    (secondByte marker payloadType &&& 0x80) ||| next = secondByte marker next := by
  rw [secondByte_marker small]
  cases marker with
  | true => exact UInt8.or_comm ..
  | false => exact UInt8.zero_or

end Bytes

end RtpPacket

end MpWebRtc
