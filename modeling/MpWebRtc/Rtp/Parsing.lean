import MpWebRtc.Rtp.Draft

/-!
# Parsing a built packet

The parser reads back the parts of the layout one by one. It finds the extensions in their
order, up to the first one that has the reserved id of headers of one byte: there it stops,
although the other side writes such a header.
-/

namespace MpWebRtc

open Math.Memory Math.Wire

namespace RtpPacket

variable {twoByte : Bool} {extensions : List (UInt8 × List UInt8)}

section Values

variable {before later buffer : List UInt8} {start : Nat}

/-- The values are where the entries say. -/
theorem values_entriesFrom (shape : buffer = before ++ (extensionBlock twoByte extensions ++ later))
    (position : before.length = start)
    (limited : start + (extensionBlock twoByte extensions).length ≤ 65535)
    (short : ∀ extension ∈ extensions, extension.2.length ≤ 255) :
    (entriesFrom twoByte start extensions).map (fun entry =>
      (entry.id, (buffer.drop entry.offset.toNat).take entry.length.toNat)) = extensions := by
  induction extensions generalizing before start with
  | nil => rfl
  | cons extension extensions ih =>
      rw [extensionBlock_cons, List.length_append, List.length_append, length_extensionHeader]
        at limited
      have here := short _ (List.mem_cons_self ..)
      have offset : (UInt16.ofNat (start + headerSize twoByte)).toNat =
          start + headerSize twoByte := by
        rw [UInt16.toNat_ofNat']
        omega
      have length : (UInt8.ofNat extension.2.length).toNat = extension.2.length := by
        rw [UInt8.toNat_ofNat']
        omega
      have value : (buffer.drop (start + headerSize twoByte)).take extension.2.length =
          extension.2 := by
        rw [shape, extensionBlock_cons, List.append_assoc, List.append_assoc,
          ← List.append_assoc before]
        exact take_drop_append (by rw [List.length_append, length_extensionHeader, position])
      have others := @ih (before ++ (extensionHeader (profileOf twoByte) extension.1
          extension.2.length ++ extension.2)) (start + headerSize twoByte + extension.2.length)
        (by rw [shape, extensionBlock_cons]; simp only [List.append_assoc])
        (by rw [List.length_append, List.length_append, length_extensionHeader]; omega)
        (by omega) (fun other member => short _ (List.mem_cons_of_mem _ member))
      rw [entriesFrom, List.map_cons, others, offset, length, value]

/-- The contributing sources are read back. -/
theorem readWord_csrcs {csrcs : List UInt32}
    (shape : buffer = before ++ (csrcs.flatMap wordBytes ++ later))
    (position : before.length = start) :
    (List.range csrcs.length).map (fun i => ReportBlock.readWord buffer (start + 4 * i)) =
      csrcs := by
  rw [shape]
  exact ReportBlock.map_readWord position.symm csrcs

end Values

section Headers

/-- The parts of a header of one byte. -/
theorem narrowHeader_parts {id : UInt8} {length : Nat} (positive : 1 ≤ id)
    (narrow : twoByteHeaderRequired id length = false) :
    (id <<< 4) ||| UInt8.ofNat (length - 1) ≠ 0 ∧
      ((id <<< 4) ||| UInt8.ofNat (length - 1)) >>> 4 = id ∧
      (1 : UInt8) + (((id <<< 4) ||| UInt8.ofNat (length - 1)) &&& 0xF) = UInt8.ofNat length := by
  have all : ∀ (id : Fin 16) (length : Fin 17), 1 ≤ id → 1 ≤ length →
      (UInt8.ofNat id <<< 4) ||| UInt8.ofNat (length - 1) ≠ 0 ∧
        ((UInt8.ofNat id <<< 4) ||| UInt8.ofNat (length - 1)) >>> 4 = UInt8.ofNat id ∧
        (1 : UInt8) + (((UInt8.ofNat id <<< 4) ||| UInt8.ofNat (length - 1)) &&& 0xF) =
          UInt8.ofNat length := by
    decide
  unfold twoByteHeaderRequired at narrow
  simp only [Bool.or_eq_false_iff, decide_eq_false_iff_not, not_lt] at narrow
  obtain ⟨⟨small, short⟩, filled⟩ := narrow
  have bound : id.toNat ≤ (15 : UInt8).toNat := UInt8.le_iff_toNat_le.mp (UInt8.not_lt.mp small)
  have one : 1 ≤ id.toNat := UInt8.le_iff_toNat_le.mp positive
  change id.toNat ≤ 15 at bound
  change length ≤ 16 at short
  have result := all ⟨id.toNat, by omega⟩ ⟨length, by omega⟩ (Fin.le_def.mpr one)
    (Fin.le_def.mpr (show 1 ≤ length by omega))
  simpa only [UInt8.ofNat_toNat] using result

theorem changeExtensionInfo_of_fresh {entries : List ExtensionInfo} {id : UInt8}
    (fresh : id ∉ entries.map ExtensionInfo.id) (change : ExtensionInfo → ExtensionInfo) :
    changeExtensionInfo entries id change = entries ++ [change { id }] := by
  induction entries with
  | nil => rfl
  | cons entry entries ih =>
      rw [List.map_cons, List.mem_cons, not_or] at fresh
      rw [changeExtensionInfo, if_neg (Ne.symm fresh.1), ih fresh.2, List.cons_append]

variable {before later : List UInt8} {id : UInt8} {value : List UInt8} {bytes : List UInt8}
variable {extensionOffset extensionsCapacity : Nat} {found : FoundExtensions}

/-- The byte behind the first part. -/
theorem byteAt_append {position : Nat} (behind : position = before.length) (byte : UInt8) :
    byteAt (before ++ (byte :: later)) position = byte := by
  rw [byteAt, behind, List.getD_eq_getElem?_getD, List.getElem?_append_right (Nat.le_refl _),
    Nat.sub_self]
  rfl

/-- An extension that is understood is found. -/
theorem parseExtension_found
    (shape : bytes = before ++ (extensionHeader (profileOf twoByte) id value.length ++
      (value ++ later))) (position : before.length = extensionOffset + found.extensionsSize)
    (positive : 1 ≤ id) (sized : 1 ≤ value.length ∧ value.length ≤ 255)
    (narrow : twoByte = false → twoByteHeaderRequired id value.length = false)
    (understood : twoByte = true ∨ id ≠ kOneByteHeaderExtensionReservedId)
    (fresh : id ∉ found.extensionEntries.map ExtensionInfo.id)
    (fits : found.extensionsSize + headerSize twoByte + value.length ≤ extensionsCapacity)
    (limited : before.length + headerSize twoByte ≤ 65535) :
    ∃ next, parseExtension bytes extensionOffset extensionsCapacity (!twoByte) found =
        (true, next) ∧
      next.extensionsSize = found.extensionsSize + (headerSize twoByte + value.length) ∧
      next.extensionEntries = found.extensionEntries ++
        [{ id
           length := UInt8.ofNat value.length
           offset := UInt16.ofNat (before.length + headerSize twoByte) }] := by
  have length : (UInt8.ofNat value.length).toNat = value.length := by
    rw [UInt8.toNat_ofNat']
    omega
  have nonzero : id ≠ 0 := by
    rintro rfl
    exact absurd positive (by decide)
  unfold parseExtension
  dsimp only
  rw [← position]
  cases twoByte with
  | true =>
      have first : byteAt bytes before.length = id := by
        rw [shape]
        exact byteAt_append rfl id
      have second : byteAt bytes (before.length + 1) = UInt8.ofNat value.length := by
        have regrouped : bytes = (before ++ [id]) ++ (UInt8.ofNat value.length :: (value ++ later)) := by
          rw [shape, List.append_assoc]
          rfl
        rw [regrouped]
        exact byteAt_append (by rw [List.length_append, List.length_singleton]) _
      change found.extensionsSize + 2 + value.length ≤ _ at fits
      change before.length + 2 ≤ _ at limited
      rw [first, if_neg nonzero, second]
      simp only [Bool.not_true, Bool.false_eq_true, ↓reduceIte, false_and]
      rw [length, if_neg (not_lt.mpr fits), if_neg (not_lt.mpr limited),
        changeExtensionInfo_of_fresh fresh]
      exact ⟨_, rfl, rfl, rfl⟩
  | false =>
      obtain ⟨filled, number, size⟩ := narrowHeader_parts positive (narrow rfl)
      have first : byteAt bytes before.length = (id <<< 4) ||| UInt8.ofNat (value.length - 1) := by
        rw [shape]
        exact byteAt_append rfl _
      have known : ¬(id = kOneByteHeaderExtensionReservedId ∨
          id = 0 ∧ UInt8.ofNat value.length ≠ 1) := by
        rintro (reserved | ⟨zero, -⟩)
        · exact understood.elim (fun wide => absurd wide (by decide)) fun other => other reserved
        · exact nonzero zero
      change found.extensionsSize + 1 + value.length ≤ _ at fits
      change before.length + 1 ≤ _ at limited
      rw [first, if_neg filled, number, size]
      simp only [Bool.not_false, ↓reduceIte, true_and]
      rw [if_neg known, length, if_neg (not_lt.mpr fits), if_neg (not_lt.mpr limited),
        changeExtensionInfo_of_fresh fresh]
      exact ⟨_, rfl, rfl, rfl⟩

/-- At the reserved id the parser stops. -/
theorem parseExtension_reserved (shape : bytes = before ++ (extensionHeader (profileOf false)
      kOneByteHeaderExtensionReservedId value.length ++ (value ++ later)))
    (position : before.length = extensionOffset + found.extensionsSize)
    (narrow : twoByteHeaderRequired kOneByteHeaderExtensionReservedId value.length = false) :
    parseExtension bytes extensionOffset extensionsCapacity true found = (false, found) := by
  obtain ⟨filled, number, size⟩ := narrowHeader_parts (by decide) narrow
  have first : byteAt bytes before.length =
      (kOneByteHeaderExtensionReservedId <<< 4) ||| UInt8.ofNat (value.length - 1) := by
    rw [shape]
    exact byteAt_append rfl _
  unfold parseExtension
  dsimp only
  rw [← position, first, if_neg filled, number]
  exact if_pos ⟨rfl, Or.inl rfl⟩

/-- A zero is skipped. -/
theorem parseExtension_zero (oneByte : Bool) (shape : bytes = before ++ (0 :: later))
    (position : before.length = extensionOffset + found.extensionsSize) :
    parseExtension bytes extensionOffset extensionsCapacity oneByte found =
      (true, { found with extensionsSize := found.extensionsSize + 1 }) := by
  have first : byteAt bytes before.length = 0 := by
    rw [shape]
    exact byteAt_append rfl _
  unfold parseExtension
  dsimp only
  rw [← position, first, if_pos rfl]

end Headers

section Loop

/-- The extensions up to the first one with the reserved id, if headers have one byte. -/
def understood (twoByte : Bool) (extensions : List (UInt8 × List UInt8)) :
    List (UInt8 × List UInt8) :=
  extensions.takeWhile fun extension =>
    twoByte || extension.1 != kOneByteHeaderExtensionReservedId

variable {before later bytes : List UInt8} {extensionOffset extensionsCapacity : Nat}
variable {found : FoundExtensions} {zeros : Nat}

/-- In the zeros at the end nothing is found. -/
theorem parseExtensions_zeros (oneByte : Bool) (fuel : Nat)
    (shape : bytes = before ++ (List.replicate zeros 0 ++ later))
    (position : before.length = extensionOffset + found.extensionsSize)
    (left : found.extensionsSize + zeros = extensionsCapacity) :
    (parseExtensions bytes extensionOffset extensionsCapacity oneByte fuel found).extensionEntries =
      found.extensionEntries := by
  induction fuel generalizing before zeros found with
  | zero => rfl
  | succ fuel ih =>
      rw [parseExtensions]
      by_cases more : found.extensionsSize + (if oneByte = true then 1 else 2) < extensionsCapacity
      · obtain ⟨zeros, rfl⟩ : ∃ fewer, zeros = fewer + 1 := Nat.exists_eq_add_one.mpr (by omega)
        rw [List.replicate_succ, List.cons_append] at shape
        rw [if_pos more, parseExtension_zero oneByte shape position]
        exact @ih (before ++ [0]) { found with extensionsSize := found.extensionsSize + 1 } zeros
          (by rw [shape, List.append_assoc]; rfl)
          (by rw [List.length_append, List.length_singleton, position]; rfl)
          (by change found.extensionsSize + 1 + zeros = _; omega)
      · rw [if_neg more]

/-- The loop finds the extensions that it understands. -/
theorem parseExtensions_block {fuel : Nat}
    (shape : bytes = before ++ (extensionBlock twoByte extensions ++
      (List.replicate zeros 0 ++ later)))
    (position : before.length = extensionOffset + found.extensionsSize)
    (left : found.extensionsSize + (extensionBlock twoByte extensions).length + zeros =
      extensionsCapacity)
    (limited : before.length + (extensionBlock twoByte extensions).length ≤ 65535)
    (sized : ∀ extension ∈ extensions,
      1 ≤ extension.1 ∧ 1 ≤ extension.2.length ∧ extension.2.length ≤ 255)
    (narrow : twoByte = false →
      ∀ extension ∈ extensions, twoByteHeaderRequired extension.1 extension.2.length = false)
    (distinct : (found.extensionEntries.map ExtensionInfo.id ++
      extensions.map Prod.fst).Nodup) (enough : extensions.length ≤ fuel) :
    (parseExtensions bytes extensionOffset extensionsCapacity (!twoByte) fuel
        found).extensionEntries =
      found.extensionEntries ++ entriesFrom twoByte before.length
        (understood twoByte extensions) := by
  induction extensions generalizing before found fuel with
  | nil =>
      rw [parseExtensions_zeros _ _ shape position (by simpa using left)]
      exact (List.append_nil _).symm
  | cons extension extensions ih =>
      obtain ⟨fuel, rfl⟩ : ∃ less, fuel = less + 1 :=
        Nat.exists_eq_add_one.mpr (Nat.lt_of_lt_of_le (Nat.succ_pos _) enough)
      rw [extensionBlock_cons] at shape
      rw [extensionBlock_cons, List.length_append, List.length_append, length_extensionHeader]
        at left limited
      have here := sized _ (List.mem_cons_self ..)
      have header : (if (!twoByte) = true then 1 else 2) = headerSize twoByte := by
        cases twoByte <;> rfl
      have split : bytes = before ++ (extensionHeader (profileOf twoByte) extension.1
          extension.2.length ++ (extension.2 ++ (extensionBlock twoByte extensions ++
            (List.replicate zeros 0 ++ later)))) := by
        rw [shape]
        simp only [List.append_assoc]
      rw [parseExtensions, header, if_pos (by omega), understood, List.takeWhile_cons]
      by_cases known : twoByte = true ∨ extension.1 ≠ kOneByteHeaderExtensionReservedId
      · have fresh : extension.1 ∉ found.extensionEntries.map ExtensionInfo.id :=
          fun member => (List.nodup_append.mp distinct).2.2 _ member _ (List.mem_cons_self ..) rfl
        obtain ⟨next, parsed, size, entries⟩ := parseExtension_found split position here.1 here.2
          (fun one => narrow one _ (List.mem_cons_self ..)) known fresh
          (show _ ≤ extensionsCapacity by omega) (by omega)
        have flag : (twoByte || extension.1 != kOneByteHeaderExtensionReservedId) = true := by
          rw [Bool.or_eq_true, bne_iff_ne]
          exact known
        have behind : (before ++ (extensionHeader (profileOf twoByte) extension.1
            extension.2.length ++ extension.2)).length =
              before.length + headerSize twoByte + extension.2.length := by
          rw [List.length_append, List.length_append, length_extensionHeader, Nat.add_assoc]
        have others := @ih (before ++ (extensionHeader (profileOf twoByte) extension.1
            extension.2.length ++ extension.2)) next fuel
          (by rw [split]; simp only [List.append_assoc]) (by rw [behind, size, position]; omega)
          (by rw [size]; omega) (by rw [behind]; omega)
          (fun other member => sized _ (List.mem_cons_of_mem _ member))
          (fun one other member => narrow one _ (List.mem_cons_of_mem _ member))
          (by
            rw [entries, List.map_append, List.append_assoc]
            exact distinct)
          (Nat.le_of_succ_le_succ enough)
        rw [parsed, if_pos flag, entriesFrom]
        refine others.trans ?_
        rw [entries, behind, List.append_assoc]
        rfl
      · obtain ⟨one, reserved⟩ := not_or.mp known
        obtain rfl := Bool.eq_false_of_not_eq_true one
        have same := not_ne_iff.mp reserved
        rw [same] at split
        have required := narrow rfl _ (List.mem_cons_self ..)
        rw [same] at required
        have flag : (false || extension.1 != kOneByteHeaderExtensionReservedId) = false := by
          rw [same]
          rfl
        rw [flag, Bool.not_false, parseExtension_reserved split position required]
        exact (List.append_nil _).symm

end Loop

section Wire

variable {p : RtpPacket} {csrcs : List UInt32} {payload : List UInt8} {padding : Nat}

theorem length_wire :
    (wire p csrcs twoByte extensions payload padding).length =
      12 + 4 * csrcs.length + (extensionArea twoByte extensions).length + payload.length +
        padding := by
  unfold wire
  simp only [List.length_append, length_fixedHeader, length_csrcs, length_paddingOf]
  omega

theorem readHalfWord_wire :
    readHalfWord (wire p csrcs twoByte extensions payload padding) 2 = p.sequenceNumber := by
  unfold wire fixedHeader
  simp only [List.append_assoc]
  rw [← List.append_assoc [_]]
  exact readHalfWord_append rfl _

theorem readWord_timestamp_wire :
    ReportBlock.readWord (wire p csrcs twoByte extensions payload padding) 4 = p.timestamp := by
  unfold wire fixedHeader
  simp only [List.append_assoc]
  rw [← List.append_assoc [_], ← List.append_assoc (_ ++ _)]
  exact ReportBlock.readWord_append (by simp) _

theorem readWord_ssrc_wire :
    ReportBlock.readWord (wire p csrcs twoByte extensions payload padding) 8 = p.ssrc := by
  unfold wire fixedHeader
  simp only [List.append_assoc]
  rw [← List.append_assoc [_], ← List.append_assoc (_ ++ _), ← List.append_assoc (_ ++ _)]
  exact ReportBlock.readWord_append (by simp) _

/-- The last byte of a padded packet is the size of the padding. -/
theorem byteAt_last_wire (padded : padding ≠ 0) :
    byteAt (wire p csrcs twoByte extensions payload padding)
      ((wire p csrcs twoByte extensions payload padding).length - 1) = UInt8.ofNat padding := by
  have split : wire p csrcs twoByte extensions payload padding =
      (fixedHeader p (firstByte (!extensions.isEmpty) (padding != 0) csrcs.length) ++
        (csrcs.flatMap wordBytes ++ (extensionArea twoByte extensions ++
          (payload ++ List.replicate (padding - 1) 0)))) ++ (UInt8.ofNat padding :: []) := by
    unfold wire paddingOf
    rw [if_neg padded]
    simp only [List.append_assoc]
  rw [split]
  exact byteAt_append (by rw [List.length_append]; rfl) _

/-- What the parser is to find in the bytes of a packet. -/
structure ParsedAs (q p : RtpPacket) (csrcs : List UInt32) (twoByte : Bool)
    (extensions : List (UInt8 × List UInt8)) (payload : List UInt8) (padding : Nat) : Prop where
  buffer : q.buffer = wire p csrcs twoByte extensions payload padding
  header : q.header = p.header
  entries : q.extensionEntries =
    entriesFrom twoByte (16 + 4 * csrcs.length) (understood twoByte extensions)
  offset : q.payloadOffset = 12 + 4 * csrcs.length + (extensionArea twoByte extensions).length
  payloadSize : q.payloadSize = payload.length
  paddingSize : q.paddingSize = UInt8.ofNat padding

theorem parsePayload_eq {q : RtpPacket}
    (buffer : q.buffer = wire p csrcs twoByte extensions payload padding)
    (header : q.header = p.header) (entries : q.extensionEntries =
      entriesFrom twoByte (16 + 4 * csrcs.length) (understood twoByte extensions))
    (offset : q.payloadOffset = 12 + 4 * csrcs.length + (extensionArea twoByte extensions).length)
    (paddingSize : q.paddingSize = UInt8.ofNat padding) (small : padding ≤ 255) :
    ∃ q', q.parsePayload = some q' ∧
      ParsedAs q' p csrcs twoByte extensions payload padding := by
  have size : q.paddingSize.toNat = padding := by
    rw [paddingSize, UInt8.toNat_ofNat']
    omega
  have length := @length_wire twoByte extensions p csrcs payload padding
  unfold parsePayload
  rw [if_neg (by rw [buffer, size, offset]; omega)]
  refine ⟨_, rfl, ⟨buffer, header, entries, offset, ?_, paddingSize⟩⟩
  change q.buffer.length - q.payloadOffset - q.paddingSize.toNat = _
  rw [buffer, size, offset]
  omega

theorem length_le_extensionBlock (twoByte : Bool) (extensions : List (UInt8 × List UInt8)) :
    extensions.length ≤ (extensionBlock twoByte extensions).length := by
  induction extensions with
  | nil => exact Nat.le_refl 0
  | cons extension extensions ih =>
      rw [extensionBlock_cons, List.length_append, List.length_append, length_extensionHeader,
        List.length_cons]
      have header : 1 ≤ headerSize twoByte := by
        unfold headerSize
        split <;> omega
      omega

variable
    (limited : 16 + 4 * csrcs.length + (extensionBlock twoByte extensions).length ≤ 65535)
    (sized : ∀ extension ∈ extensions,
      1 ≤ extension.1 ∧ 1 ≤ extension.2.length ∧ extension.2.length ≤ 255)
    (narrow : twoByte = false →
      ∀ extension ∈ extensions, twoByteHeaderRequired extension.1 extension.2.length = false)
    (distinct : (extensions.map Prod.fst).Nodup)

include limited sized narrow distinct

/-- The part of the bytes with the extensions is read back. -/
theorem parseExtensions_wire (filled : extensions ≠ []) :
    let bytes := wire p csrcs twoByte extensions payload padding
    let words := wordsOf (extensionBlock twoByte extensions).length
    (readHalfWord bytes (12 + 4 * csrcs.length)).toNat = profileOf twoByte ∧
      (readHalfWord bytes (12 + 4 * csrcs.length + 2)).toNat = words ∧
      (parseExtensions bytes (16 + 4 * csrcs.length) (4 * words) (!twoByte) (4 * words)
        {}).extensionEntries =
          entriesFrom twoByte (16 + 4 * csrcs.length) (understood twoByte extensions) := by
  intro bytes words
  let block := extensionBlock twoByte extensions
  let header := fixedHeader p (firstByte (!extensions.isEmpty) (padding != 0) csrcs.length) ++
    csrcs.flatMap wordBytes
  have start : header.length = 12 + 4 * csrcs.length := by
    rw [List.length_append, length_fixedHeader, length_csrcs]
  have split : bytes = header ++ (halfWordBytes (UInt16.ofNat (profileOf twoByte)) ++
      (halfWordBytes (UInt16.ofNat words) ++
        (block ++ (List.replicate (4 * words - block.length) 0 ++
          (payload ++ paddingOf padding))))) := by
    unfold bytes wire extensionArea
    rw [if_neg filled]
    simp only [header, List.append_assoc]
    rfl
  have small : words < 65536 := by
    unfold words wordsOf
    omega
  have many := length_le_extensionBlock twoByte extensions
  refine ⟨?_, ?_, ?_⟩
  · rw [split, readHalfWord_append start.symm]
    cases twoByte <;> rfl
  · rw [split, ← List.append_assoc, readHalfWord_append, UInt16.toNat_ofNat']
    · omega
    · rw [List.length_append, start, length_halfWordBytes]
  · have behind : (header ++ (halfWordBytes (UInt16.ofNat (profileOf twoByte)) ++
        halfWordBytes (UInt16.ofNat words))).length = 16 + 4 * csrcs.length := by
      simp only [List.length_append, start, length_halfWordBytes]
      omega
    rw [← behind]
    refine (@parseExtensions_block twoByte extensions _ (payload ++ paddingOf padding) _ _ _ {}
      (4 * words - block.length) _ ?_ rfl ?_ ?_ sized narrow distinct ?_).trans rfl
    · rw [split]
      simp only [List.append_assoc]
      rfl
    · change 0 + _ + _ = _
      unfold words block wordsOf
      omega
    · rw [behind]
      exact limited
    · unfold words wordsOf
      omega

/-- The parser finds the parts of the packet, but of its extensions only those that it
understands. -/
theorem parse_wire (typed : p.payloadType < 128) (few : csrcs.length ≤ 15)
    (small : padding ≤ 255) :
    ∃ q, parse (wire p csrcs twoByte extensions payload padding) = some q ∧
      ParsedAs q p csrcs twoByte extensions payload padding := by
  have length := @length_wire twoByte extensions p csrcs payload padding
  have first : byteAt (wire p csrcs twoByte extensions payload padding) 0 =
    firstByte (!extensions.isEmpty) (padding != 0) csrcs.length := rfl
  have second : byteAt (wire p csrcs twoByte extensions payload padding) 1 =
    secondByte p.marker p.payloadType := rfl
  have marked : decide (secondByte p.marker p.payloadType &&& 0x80 ≠ 0) = p.marker := by
    rw [secondByte_marker typed]
    cases p.marker <;> rfl
  have start : kFixedHeaderSize + csrcs.length * 4 = 12 + 4 * csrcs.length := by
    unfold kFixedHeaderSize
    omega
  have enough : ¬(wire p csrcs twoByte extensions payload padding).length < kFixedHeaderSize := by
    unfold kFixedHeaderSize
    omega
  have flag := firstByte_padded few (!extensions.isEmpty) (padding != 0)
  have paddingSize : (if firstByte (!extensions.isEmpty) (padding != 0) csrcs.length &&& 0x20 ≠ 0
      then byteAt (wire p csrcs twoByte extensions payload padding)
        ((wire p csrcs twoByte extensions payload padding).length - 1) else 0) =
      UInt8.ofNat padding := by
    by_cases empty : padding = 0
    · subst empty
      rw [if_neg (mt flag.mp (by decide))]
      rfl
    · rw [if_pos (flag.mpr (bne_iff_ne.mpr empty)), byteAt_last_wire empty]
  have counted : ¬(firstByte (!extensions.isEmpty) (padding != 0) csrcs.length &&& 0x20 ≠ 0 ∧
      UInt8.ofNat padding = 0) := by
    rintro ⟨padded, zero⟩
    have size := congrArg UInt8.toNat zero
    rw [UInt8.toNat_ofNat'] at size
    change padding % 256 = 0 at size
    exact bne_iff_ne.mp (flag.mp padded) (by omega)
  unfold parse
  dsimp only
  rw [first, second, if_neg enough, if_neg (not_ne_iff.mpr (firstByte_version few _ _)),
    firstByte_count few, start, if_neg (by omega), paddingSize, if_neg counted, marked,
    secondByte_payloadType typed, readHalfWord_wire, readWord_timestamp_wire, readWord_ssrc_wire]
  by_cases empty : extensions = []
  · have none : firstByte (!extensions.isEmpty) (padding != 0) csrcs.length &&& 0x10 = 0 :=
      (firstByte_extended few _ _).mpr (by rw [empty]; rfl)
    rw [if_pos none]
    subst empty
    exact parsePayload_eq rfl rfl rfl rfl rfl small
  · have some : ¬(firstByte (!extensions.isEmpty) (padding != 0) csrcs.length &&& 0x10 = 0) :=
      mt (firstByte_extended few _ _).mp (by simp [empty])
    have area := @length_extensionArea twoByte _ empty
    obtain ⟨profile, words, entries⟩ := @parseExtensions_wire twoByte extensions p csrcs payload
      padding limited sized narrow distinct empty
    have oneByte : decide (profileOf twoByte = kOneByteExtensionProfileId) = !twoByte := by
      cases twoByte <;> rfl
    have known : profileOf twoByte = kOneByteExtensionProfileId ∨
        profileOf twoByte = kTwoByteExtensionProfileId := by
      cases twoByte
      · exact Or.inl rfl
      · exact Or.inr rfl
    have offset : 12 + 4 * csrcs.length + 4 = 16 + 4 * csrcs.length := by omega
    rw [if_neg some, if_neg (by omega), profile, words, if_neg (by omega), if_pos known, oneByte,
      offset, Nat.mul_comm (wordsOf _)]
    refine parsePayload_eq rfl rfl entries ?_ rfl small
    rw [area]
    dsimp only
    omega

end Wire

end RtpPacket

end MpWebRtc
