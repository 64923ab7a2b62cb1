import Mathlib.Data.List.TakeWhile
import MpWebRtc.Rtp.Parsing

/-!
# Building and parsing a packet

A packet that was built and is then parsed holds the same, with two exceptions that the
checks of the two sides leave open. The zeros after the extensions do not count when a new
extension is checked against the capacity, so that they may be written beyond it. And an
extension with id 15 may have a header of one byte, in which the parser takes 15 for the
reserved id: it drops this extension and all after it.
-/

namespace MpWebRtc

open Math.Memory Math.Wire

namespace RtpPacket

variable {p q : RtpPacket} {csrcs : List UInt32} {twoByte : Bool}
variable {extensions : List (UInt8 × List UInt8)} {payload rest : List UInt8} {padding : Nat}

section Contents

variable (buffer : q.buffer = wire p csrcs twoByte extensions payload padding ++ rest)
include buffer

theorem csrcs_of_wire (few : csrcs.length ≤ 15) : q.csrcs = csrcs := by
  have first : byteAt q.buffer 0 =
      firstByte (!extensions.isEmpty) (padding != 0) csrcs.length := by
    rw [buffer]
    rfl
  unfold RtpPacket.csrcs
  rw [first, firstByte_count few]
  have shape : q.buffer = fixedHeader p (firstByte (!extensions.isEmpty) (padding != 0)
      csrcs.length) ++ (csrcs.flatMap wordBytes ++ ((extensionArea twoByte extensions ++
        (payload ++ paddingOf padding)) ++ rest)) := by
    rw [buffer, wire, List.append_assoc, List.append_assoc]
  exact readWord_csrcs shape (length_fixedHeader ..)

theorem payload_of_wire
    (offset : q.payloadOffset = 12 + 4 * csrcs.length + (extensionArea twoByte extensions).length)
    (size : q.payloadSize = payload.length) : q.payload = payload := by
  have split : q.buffer = (fixedHeader p (firstByte (!extensions.isEmpty) (padding != 0)
      csrcs.length) ++ (csrcs.flatMap wordBytes ++ extensionArea twoByte extensions)) ++
        (payload ++ (paddingOf padding ++ rest)) := by
    rw [buffer, wire]
    simp only [List.append_assoc]
  unfold RtpPacket.payload
  rw [split, size]
  refine take_drop_append ?_
  rw [offset]
  simp only [List.length_append, length_fixedHeader, length_csrcs]
  omega

/-- The values of the first extensions. -/
theorem extensionValues_of_wire {shown others : List (UInt8 × List UInt8)}
    (split : extensions = shown ++ others)
    (entries : q.extensionEntries = entriesFrom twoByte (16 + 4 * csrcs.length) shown)
    (limited : 16 + 4 * csrcs.length + (extensionBlock twoByte extensions).length ≤ 65535)
    (sized : ∀ extension ∈ extensions, extension.2.length ≤ 255) : q.extensionValues = shown := by
  unfold extensionValues
  rw [entries]
  by_cases empty : shown = []
  · rw [empty]
    rfl
  · have filled : extensions ≠ [] := by
      rw [split]
      exact List.append_ne_nil_of_left_ne_nil empty _
    have block : extensionBlock twoByte extensions =
        extensionBlock twoByte shown ++ extensionBlock twoByte others := by
      rw [split]
      exact List.flatMap_append
    have shape : q.buffer = (fixedHeader p (firstByte (!extensions.isEmpty) (padding != 0)
        csrcs.length) ++ (csrcs.flatMap wordBytes ++ (halfWordBytes
          (UInt16.ofNat (profileOf twoByte)) ++ halfWordBytes
            (UInt16.ofNat (wordsOf (extensionBlock twoByte extensions).length))))) ++
        (extensionBlock twoByte shown ++ (extensionBlock twoByte others ++ (List.replicate
          (4 * wordsOf (extensionBlock twoByte extensions).length -
            (extensionBlock twoByte extensions).length) 0 ++
              (payload ++ (paddingOf padding ++ rest))))) := by
      rw [buffer]
      unfold wire extensionArea
      rw [if_neg filled]
      simp only [List.append_assoc, block]
    refine values_entriesFrom shape ?_ ?_ ?_
    · simp only [List.length_append, length_fixedHeader, length_csrcs, length_halfWordBytes]
      omega
    · rw [block, List.length_append] at limited
      omega
    · intro extension member
      refine sized extension ?_
      rw [split]
      exact List.mem_append_left _ member

end Contents

section RoundTrip

variable {memory : List UInt8} {calls : List BuildCall}

/-- What the packet is meant to hold. -/
def intended (capacity : Nat) (csrcs : List UInt32) (calls : List BuildCall)
    (payload : List UInt8) (padding : Nat) : PacketContent where
  header := (draftOf capacity csrcs calls).header
  csrcs := csrcs
  extensions := (draftOf capacity csrcs calls).extensions
  payload := payload
  paddingSize := padding

/-- The packet is built within its buffer, holds what it is meant to hold, and is parsed to
a packet that holds the same. -/
def RoundTrips (memory : List UInt8) (csrcs : List UInt32) (calls : List BuildCall)
    (payload : List UInt8) (padding : Nat) : Prop :=
  ∃ p q, build memory csrcs calls payload padding = some p ∧ parse p.bytes = some q ∧
    p.content = intended memory.length csrcs calls payload padding ∧ q.content = p.content

/-- No extension is taken for a reserved one. -/
def AllUnderstood (draft : Draft) : Prop :=
  draft.twoByte = true ∨ kOneByteHeaderExtensionReservedId ∉ draft.extensions.map Prod.fst

instance : DecidablePred AllUnderstood := fun _ => inferInstanceAs (Decidable (_ ∨ _))

theorem understood_eq_self_iff (draft : Draft) :
    understood draft.twoByte draft.extensions = draft.extensions ↔ AllUnderstood draft := by
  rw [understood, List.takeWhile_eq_self_iff]
  unfold AllUnderstood
  cases draft.twoByte with
  | true => simp
  | false =>
      simp only [Bool.false_or, bne_iff_ne, Bool.false_eq_true, false_or, List.mem_map, not_exists,
        not_and]

theorem blockSize_limited {draft : Draft} (few : csrcs.length ≤ 15)
    (limited : memory.length ≤ 65535)
    (padded : draft.Padded (16 + 4 * csrcs.length) memory.length) :
    16 + 4 * csrcs.length + (extensionBlock draft.twoByte draft.extensions).length ≤ 65535 := by
  rcases padded with empty | padded
  · rw [empty, extensionBlock_nil, List.length_nil]
    omega
  · unfold Draft.blockSize wordsOf at padded
    omega

theorem bytes_of_finished (finished : Finished p csrcs twoByte extensions payload padding rest)
    (small : padding ≤ 255) : p.bytes = wire p csrcs twoByte extensions payload padding := by
  have size : p.size = (wire p csrcs twoByte extensions payload padding).length := by
    have count : (UInt8.ofNat padding).toNat = padding := by
      rw [UInt8.toNat_ofNat']
      omega
    rw [length_wire, RtpPacket.size, finished.offset, finished.payloadSize, finished.paddingSize,
      count]
  rw [RtpPacket.bytes, finished.buffer, size, List.take_left]

/-- What a finished packet holds. -/
theorem content_of_wire {shown others : List (UInt8 × List UInt8)}
    (buffer : q.buffer = wire p csrcs twoByte extensions payload padding ++ rest)
    (header : q.header = p.header) (split : extensions = shown ++ others)
    (entries : q.extensionEntries = entriesFrom twoByte (16 + 4 * csrcs.length) shown)
    (offset : q.payloadOffset = 12 + 4 * csrcs.length + (extensionArea twoByte extensions).length)
    (payloadSize : q.payloadSize = payload.length)
    (paddingSize : q.paddingSize = UInt8.ofNat padding) (few : csrcs.length ≤ 15)
    (small : padding ≤ 255)
    (limited : 16 + 4 * csrcs.length + (extensionBlock twoByte extensions).length ≤ 65535)
    (sized : ∀ extension ∈ extensions, extension.2.length ≤ 255) :
    q.content =
      { header := p.header
        csrcs
        extensions := shown
        payload
        paddingSize := padding } := by
  have count : q.paddingSize.toNat = padding := by
    rw [paddingSize, UInt8.toNat_ofNat']
    omega
  rw [RtpPacket.content, header, csrcs_of_wire buffer few,
    extensionValues_of_wire buffer split entries limited sized,
    payload_of_wire buffer offset payloadSize, count]

/-- **Build and parse.** Whatever is called, in any order, the packet is built within its
buffer and parsed to the same exactly if the extensions that fit also fit with the zeros
after them, and none of them is taken for a reserved one. -/
theorem build_parse_round_trip (few : csrcs.length ≤ 15)
    (room : 12 + 4 * csrcs.length ≤ memory.length) (limited : memory.length ≤ 65535)
    (inRange : ∀ call ∈ calls, call.InRange)
    (distinct : (calls.filterMap BuildCall.extensionId).Nodup) (small : padding ≤ 255)
    (fits : ∀ p ∈ buildHeaders memory csrcs calls,
      p.payloadOffset + payload.length + padding ≤ memory.length) :
    RoundTrips memory csrcs calls payload padding ↔
      (draftOf memory.length csrcs calls).Padded (16 + 4 * csrcs.length) memory.length ∧
        AllUnderstood (draftOf memory.length csrcs calls) := by
  have valid := valid_draftOf memory.length csrcs inRange distinct
  by_cases padded : (draftOf memory.length csrcs calls).Padded (16 + 4 * csrcs.length) memory.length
  · obtain ⟨p, rest, started, follows, capacity⟩ :=
      (buildHeaders_spec few room limited inRange distinct).1 padded
    have placed := fits p started
    rw [← capacity] at placed
    obtain ⟨p', rest', ended, finished, kept⟩ := follows.built.finish small placed
    have built : build memory csrcs calls payload padding = some p' := by
      unfold build
      simp only [Option.bind_eq_bind]
      rw [started, Option.bind_some, ended]
    have header : p'.header = (draftOf memory.length csrcs calls).header := by
      rw [kept]
      exact follows.header
    have typed : p'.payloadType < 128 := by
      rw [kept]
      exact follows.built.typed
    have block := blockSize_limited few limited padded
    have short : ∀ extension ∈ (draftOf memory.length csrcs calls).extensions,
        extension.2.length ≤ 255 := fun extension member => (valid.sized extension member).2.2
    have content := content_of_wire finished.buffer rfl (List.append_nil _).symm finished.entries
      finished.offset finished.payloadSize finished.paddingSize few small block short
    obtain ⟨q, parsed, found⟩ := @parse_wire _ _ p' csrcs payload padding block
      valid.sized valid.small valid.distinct typed few small
    rw [← bytes_of_finished finished small] at parsed
    have again := content_of_wire (found.buffer.trans (List.append_nil _).symm) found.header
      (List.takeWhile_append_dropWhile ..).symm found.entries found.offset found.payloadSize
      found.paddingSize few small block short
    have whole : q.content = p'.content ↔ AllUnderstood (draftOf memory.length csrcs calls) := by
      rw [content, again, PacketContent.mk.injEq]
      simp only [true_and, and_true]
      exact understood_eq_self_iff _
    constructor
    · rintro ⟨p'', q', build, parse, -, same⟩
      obtain rfl := Option.some.inj (built.symm.trans build)
      obtain rfl := Option.some.inj (parsed.symm.trans parse)
      exact ⟨padded, whole.mp same⟩
    · rintro ⟨-, known⟩
      refine ⟨p', q, built, parsed, ?_, whole.mpr known⟩
      rw [content, header]
      rfl
  · have none : build memory csrcs calls payload padding = none := by
      unfold build
      rw [(buildHeaders_spec few room limited inRange distinct).2 padded]
      rfl
    constructor
    · rintro ⟨p, q, built, -⟩
      exact absurd (none.symm.trans built) (Option.some_ne_none _).symm
    · rintro ⟨fitting, -⟩
      exact absurd fitting padded

/-- A packet whose second extension makes the first one move. -/
theorem build_parse_promoted :
    RoundTrips (List.replicate 48 0xFF) [7]
      [.setMarker true, .setRawExtension 3 [5], .setPayloadType 96, .setRawExtension 20 [1, 2]]
      [8, 9] 2 := by
  refine (build_parse_round_trip ?_ ?_ ?_ ?_ ?_ ?_ ?_).mpr ?_
  all_goals decide +kernel

/-- In 18 bytes, the two bytes of an extension fit, but not the zeros after them. In any
buffer, an extension with id 15 is not found. -/
theorem build_parse_fails :
    ¬RoundTrips (List.replicate 18 0) [] [.setRawExtension 3 [1]] [] 0 ∧
      ¬RoundTrips (List.replicate 40 0) [] [.setRawExtension 15 [1]] [] 0 := by
  have beyond : build (List.replicate 18 0) [] [.setRawExtension 3 [1]] [] 0 = none := by
    decide +kernel
  have lost : ∀ p ∈ build (List.replicate 40 0) [] [.setRawExtension 15 [1]] [] 0,
      ∀ q ∈ parse p.bytes, q.content ≠ p.content := by
    decide +kernel
  constructor
  · rintro ⟨p, q, built, -⟩
    exact absurd (beyond.symm.trans built) (Option.some_ne_none _).symm
  · rintro ⟨p, q, built, parsed, -, same⟩
    exact lost p built q parsed same

end RoundTrip

end RtpPacket

end MpWebRtc
