import MpWebRtc.Rtp.MediaPacket

/-!
# Zeroing what is written after the protection

`ZeroMutableExtensions` is to undo everything that is written to a media packet after its
protection is computed. It covers the extensions of the pacer and of the last sender, but not
the path, its number and the transport number on the path, which the splitter and the router
write: whatever these are set to stays.
-/

namespace MpWebRtc

open Math.Memory Math.Wire

/-- From which byte on `ZeroMutableExtensions` clears the value of an extension. -/
def mutableFrom : RtpExtensionType → Option Nat
  | .videoTiming => some kPacerExitDeltaOffset
  | .transportSequenceNumber
  | .transportSequenceNumber02
  | .transmissionTimeOffset
  | .absoluteSendTime => some 0
  | .sandy
  | .mpFlowSeqNum
  | .mpTransportSequenceNumber
  | .audioLevel
  | .absoluteCaptureTime
  | .colorSpace
  | .genericFrameDescriptor00
  | .genericFrameDescriptor02
  | .mid
  | .playoutDelay
  | .repairedRtpStreamId
  | .rtpStreamId
  | .videoContentType
  | .videoRotation
  | .inbandComfortNoise => none

/-- What is written to a packet after the protection is computed. -/
inductive LateAssignment where
  | splitter (subflowId : UInt8) (subflowSeq : UInt16)
  | router (transportSeq : UInt16) (mpTransportSeq : Option UInt16)
  | egress (transmissionOffset absoluteSendTime : Nat) (populateNetwork2 : Bool) (delta : UInt16)
  deriving DecidableEq

namespace RtpPacket

variable (extensions : RtpHeaderExtensionMap)

/-- A round of `ZeroMutableExtensions`. -/
def zeroExtension (p : RtpPacket) (entry : ExtensionInfo) : Option RtpPacket :=
  match (extensions.getType entry.id).bind mutableFrom with
  | none => some p
  | some skip =>
      if skip < entry.length.toNat then
        p.write (entry.offset.toNat + skip) (List.replicate (entry.length.toNat - skip) 0)
      else some p

/-- `ZeroMutableExtensions`. -/
def zeroMutableExtensions (p : RtpPacket) : Option RtpPacket :=
  p.extensionEntries.foldlM (zeroExtension extensions) p

/-- `SetExtension`, of an extension that is in the packet. -/
def setPresent (p : RtpPacket) (type : RtpExtensionType) (value : List UInt8) : Option RtpPacket :=
  if p.hasExtension extensions type then (p.setExtension extensions type value).map Prod.fst
  else some p

/-- The writes of the splitter, of `PacketRouter::SendPacket` and of
`RtpSenderEgress::SendPacket`. The router does not set the number on the path for paths that it
does not know. -/
def assign (p : RtpPacket) : LateAssignment → Option RtpPacket
  | .splitter subflowId subflowSeq => do
      let p := { p with subflowId, subflowSeq }
      let (p, _) ← p.setExtension extensions .mpFlowSeqNum (halfWordBytes subflowSeq)
      let (p, _) ← p.setExtension extensions .sandy [subflowId]
      some p
  | .router transportSeq mpTransportSeq =>
      if p.hasExtension extensions .transportSequenceNumber ∧
          p.hasExtension extensions .mpTransportSequenceNumber then do
        let (p, _) ← p.setExtension extensions .transportSequenceNumber (halfWordBytes transportSeq)
        match mpTransportSeq with
        | none => some p
        | some mpTransportSeq =>
            (p.setExtension extensions .mpTransportSequenceNumber
              (halfWordBytes mpTransportSeq)).map Prod.fst
      else some p
  | .egress transmissionOffset absoluteSendTime populateNetwork2 delta => do
      let p ← p.setPresent extensions .transmissionTimeOffset (writeBigEndian 3 transmissionOffset)
      let p ← p.setPresent extensions .absoluteSendTime (writeBigEndian 3 absoluteSendTime)
      if p.hasExtension extensions .videoTiming then
        p.setTiming extensions delta
          (if populateNetwork2 then kNetwork2TimestampDeltaOffset else kPacerExitDeltaOffset)
      else some p

/-- After the assignments, zeroing gives the bytes that it gave before. -/
def Undone (p p' : RtpPacket) : Prop :=
  ∃ zeroed zeroed', p.zeroMutableExtensions extensions = some zeroed ∧
    p'.zeroMutableExtensions extensions = some zeroed' ∧ zeroed'.bytes = zeroed.bytes

end RtpPacket

variable (assignments : List LateAssignment)

/-- The path that was assigned last, or 0. -/
def lastPathId : UInt8 :=
  assignments.foldl (fun last assignment => match assignment with
    | .splitter subflowId _ => subflowId
    | _ => last) 0

/-- The number on the path that was assigned last, or 0. -/
def lastPathSeq : UInt16 :=
  assignments.foldl (fun last assignment => match assignment with
    | .splitter _ subflowSeq => subflowSeq
    | _ => last) 0

/-- The transport number on the path that was assigned last, or 0. -/
def lastTransportSeq : UInt16 :=
  assignments.foldl (fun last assignment => match assignment with
    | .router _ (some mpTransportSeq) => mpTransportSeq
    | _ => last) 0

/-- The extensions for the path that the packet has are assigned zeros at last. -/
structure PathUnset (extensions : RtpHeaderExtensionMap) (p : RtpPacket)
    (assignments : List LateAssignment) : Prop where
  path : p.hasExtension extensions .sandy → lastPathId assignments = 0
  number : p.hasExtension extensions .mpFlowSeqNum → lastPathSeq assignments = 0
  transport : p.hasExtension extensions .transportSequenceNumber →
    p.hasExtension extensions .mpTransportSequenceNumber → lastTransportSeq assignments = 0

section Patches

/-- Some bytes that are written to the value of an extension with a length. -/
structure Patch where
  type : RtpExtensionType
  length : Nat
  skip : Nat
  new : List UInt8

/-- The patches of an assignment. The router works if both its extensions are there. -/
def LateAssignment.patches (numbered : Bool) : LateAssignment → List Patch
  | .splitter subflowId subflowSeq =>
      [⟨.mpFlowSeqNum, 2, 0, halfWordBytes subflowSeq⟩, ⟨.sandy, 1, 0, [subflowId]⟩]
  | .router transportSeq mpTransportSeq =>
      if numbered then
        ⟨.transportSequenceNumber, 2, 0, halfWordBytes transportSeq⟩ ::
          mpTransportSeq.toList.map fun mpTransportSeq =>
            ⟨.mpTransportSequenceNumber, 2, 0, halfWordBytes mpTransportSeq⟩
      else []
  | .egress transmissionOffset absoluteSendTime populateNetwork2 delta =>
      [⟨.transmissionTimeOffset, 3, 0, writeBigEndian 3 transmissionOffset⟩,
        ⟨.absoluteSendTime, 3, 0, writeBigEndian 3 absoluteSendTime⟩,
        ⟨.videoTiming, kVideoTimingSize,
          if populateNetwork2 then kNetwork2TimestampDeltaOffset else kPacerExitDeltaOffset,
          halfWordBytes delta⟩]

/-- A patch is within the value, and behind what is left of a value that is cleared. Of the values
that are not cleared only those for the path are patched. -/
structure Patch.Fitting (patch : Patch) : Prop where
  inside : patch.skip + patch.new.length ≤ patch.length
  behind : ∀ first, mutableFrom patch.type = some first → first ≤ patch.skip
  known : mutableFrom patch.type = none → patch.type ∈ pathExtensions.map Prod.fst

variable {assignment : LateAssignment}

theorem LateAssignment.fitting {numbered : Bool} {patch : Patch}
    (member : patch ∈ assignment.patches numbered) : patch.Fitting := by
  cases assignment with
  | splitter subflowId subflowSeq =>
      rcases List.mem_cons.mp member with rfl | member
      · exact ⟨(RtpPacket.length_halfWordBytes subflowSeq).le, nofun,
          fun _ => List.mem_of_elem_eq_true rfl⟩
      · obtain rfl := List.mem_singleton.mp member
        exact ⟨Nat.le_refl 1, nofun, fun _ => List.mem_of_elem_eq_true rfl⟩
  | router transportSeq mpTransportSeq =>
      unfold LateAssignment.patches at member
      dsimp only at member
      split at member
      · rcases List.mem_cons.mp member with rfl | member
        · exact ⟨(RtpPacket.length_halfWordBytes transportSeq).le,
            fun _ same => (Option.some.inj same).ge, nofun⟩
        · obtain ⟨number, -, rfl⟩ := List.mem_map.mp member
          exact ⟨(RtpPacket.length_halfWordBytes number).le, nofun,
            fun _ => List.mem_of_elem_eq_true rfl⟩
      · exact absurd member List.not_mem_nil
  | egress transmissionOffset absoluteSendTime populateNetwork2 delta =>
      unfold LateAssignment.patches at member
      have timed (value : Nat) : 0 + (writeBigEndian 3 value).length ≤ 3 := by
        rw [length_writeBigEndian]
      rcases List.mem_cons.mp member with rfl | member
      · exact ⟨timed _, fun _ same => (Option.some.inj same).ge, nofun⟩
      rcases List.mem_cons.mp member with rfl | member
      · exact ⟨timed _, fun _ same => (Option.some.inj same).ge, nofun⟩
      obtain rfl := List.mem_singleton.mp member
      cases populateNetwork2 with
      | false =>
          exact ⟨(by decide : 7 + 2 ≤ 13), fun _ same => (Option.some.inj same).ge, nofun⟩
      | true =>
          refine ⟨(by decide : 11 + 2 ≤ 13), fun _ same => ?_, nofun⟩
          obtain rfl := Option.some.inj same
          exact (by decide : 7 ≤ 11)

variable (extensions : RtpHeaderExtensionMap)

/-- A patch on an extension. -/
def Patch.apply (patch : Patch) (extension : UInt8 × List UInt8) : UInt8 × List UInt8 :=
  RtpPacket.patchAt (extensions.ids patch.type) patch.length patch.skip patch.new extension

/-- Patches on an extension, one after the other. -/
def patchedBy (patches : List Patch) (extension : UInt8 × List UInt8) : UInt8 × List UInt8 :=
  patches.foldl (fun extension patch => patch.apply extensions extension) extension

/-- What `ZeroMutableExtensions` leaves of an extension. -/
def zeroed (extension : UInt8 × List UInt8) : UInt8 × List UInt8 :=
  match (extensions.getType extension.1).bind mutableFrom with
  | none => extension
  | some skip => (extension.1,
      patched skip (List.replicate (extension.2.length - skip) 0) extension.2)

variable {extensions} {patch : Patch} {patches : List Patch} {extension : UInt8 × List UInt8}

theorem Patch.apply_fst (patch : Patch) (extension : UInt8 × List UInt8) :
    (patch.apply extensions extension).1 = extension.1 := by
  unfold Patch.apply RtpPacket.patchAt
  split
  · next here => exact here.1.symm
  · rfl

theorem Patch.length_apply (fitting : patch.Fitting) (extension : UInt8 × List UInt8) :
    (patch.apply extensions extension).2.length = extension.2.length := by
  unfold Patch.apply RtpPacket.patchAt
  split
  · next here => exact length_patched (here.2 ▸ fitting.inside)
  · rfl

theorem Patch.apply_of_ne (other : extension.1 ≠ extensions.ids patch.type) :
    patch.apply extensions extension = extension :=
  RtpPacket.patchAt_of_ne other ..

/-- What is patched behind the start of the zeros is cleared anyway. -/
theorem zeroed_apply (filled : extensions.Registered) (valid : extension.1 ≠ kInvalidId)
    (fitting : patch.Fitting) (cleared : (extensions.getType extension.1).bind mutableFrom ≠ none) :
    zeroed extensions (patch.apply extensions extension) = zeroed extensions extension := by
  by_cases same : extension.1 = extensions.ids patch.type
  · rw [same] at valid cleared
    rw [filled.getType_ids valid, Option.bind_some] at cleared
    obtain ⟨first, start⟩ := Option.ne_none_iff_exists'.mp cleared
    have behind := fitting.behind first start
    unfold zeroed
    rw [Patch.length_apply fitting, Patch.apply_fst, same, filled.getType_ids valid,
      Option.bind_some, start]
    dsimp only
    unfold Patch.apply RtpPacket.patchAt
    split
    · rename_i here
      by_cases long : first ≤ extension.2.length
      · have whole : first + (List.replicate (extension.2.length - first) (0 : UInt8)).length =
            extension.2.length := by
          rw [List.length_replicate]
          omega
        rw [patched_patched behind (here.2 ▸ fitting.inside) whole]
      · have inside := fitting.inside
        omega
    · rfl
  · rw [Patch.apply_of_ne same]

theorem zeroed_patchedBy (filled : extensions.Registered) (valid : extension.1 ≠ kInvalidId)
    (fitting : ∀ patch ∈ patches, patch.Fitting)
    (cleared : (extensions.getType extension.1).bind mutableFrom ≠ none) :
    zeroed extensions (patchedBy extensions patches extension) = zeroed extensions extension := by
  induction patches generalizing extension with
  | nil => rfl
  | cons patch patches ih =>
      have same := @Patch.apply_fst extensions patch extension
      refine (ih (same ▸ valid) (fun other member => fitting other (List.mem_cons_of_mem _ member))
        (same ▸ cleared)).trans ?_
      exact zeroed_apply filled valid (fitting patch List.mem_cons_self) cleared

theorem patchedBy_fst (patches : List Patch) (extension : UInt8 × List UInt8) :
    (patchedBy extensions patches extension).1 = extension.1 := by
  induction patches generalizing extension with
  | nil => rfl
  | cons patch patches ih => exact (ih _).trans (Patch.apply_fst patch extension)

theorem patchedBy_append (first second : List Patch) (extension : UInt8 × List UInt8) :
    patchedBy extensions (first ++ second) extension =
      patchedBy extensions second (patchedBy extensions first extension) :=
  List.foldl_append

/-- An extension that no patch is for stays. -/
theorem patchedBy_of_ne (others : ∀ patch ∈ patches, extension.1 ≠ extensions.ids patch.type) :
    patchedBy extensions patches extension = extension := by
  induction patches with
  | nil => rfl
  | cons patch patches ih =>
      have same : patch.apply extensions extension = extension :=
        Patch.apply_of_ne (others patch List.mem_cons_self)
      unfold patchedBy
      rw [List.foldl_cons, same]
      exact ih fun other member => others other (List.mem_cons_of_mem _ member)

/-- The types that an assignment writes. -/
def LateAssignment.types : LateAssignment → List RtpExtensionType
  | .splitter .. => [.mpFlowSeqNum, .sandy]
  | .router .. => [.transportSequenceNumber, .mpTransportSequenceNumber]
  | .egress .. => [.transmissionTimeOffset, .absoluteSendTime, .videoTiming]

theorem LateAssignment.type_mem {numbered : Bool}
    (member : patch ∈ assignment.patches numbered) : patch.type ∈ assignment.types := by
  have listed : patch.type ∈ (assignment.patches numbered).map Patch.type :=
    List.mem_map_of_mem member
  cases assignment with
  | splitter _ _ => exact listed
  | egress _ _ _ _ => exact listed
  | router _ mpTransportSeq =>
      cases numbered with
      | false => exact absurd listed List.not_mem_nil
      | true =>
          cases mpTransportSeq with
          | none => exact List.mem_cons.mpr (.inl (List.mem_singleton.mp listed))
          | some _ => exact listed

section PathValues

variable {numbered : Bool} {type : RtpExtensionType}

/-- A value that is written whole. -/
theorem Patch.apply_whole {length : Nat} {old new : List UInt8} (before : old.length = length)
    (after : new.length = length) :
    Patch.apply extensions ⟨type, length, 0, new⟩ (extensions.ids type, old) =
      (extensions.ids type, new) := by
  unfold Patch.apply RtpPacket.patchAt
  rw [if_pos ⟨rfl, before⟩]
  dsimp only
  rw [patched_zero (before.trans after.symm)]

/-- An extension is not changed by a patch for another type. -/
theorem Patch.apply_of_type (filled : extensions.Registered)
    (valid : extensions.ids type ≠ kInvalidId) (other : patch.type ≠ type) (value : List UInt8) :
    patch.apply extensions (extensions.ids type, value) = (extensions.ids type, value) :=
  Patch.apply_of_ne fun same => other (filled.injective valid same).symm

theorem patchedBy_of_types (filled : extensions.Registered)
    (valid : extensions.ids type ≠ kInvalidId) {assignment : LateAssignment}
    (other : type ∉ assignment.types) (value : List UInt8) :
    patchedBy extensions (assignment.patches numbered) (extensions.ids type, value) =
      (extensions.ids type, value) := by
  refine patchedBy_of_ne fun patch member same => other ?_
  rw [filled.injective valid same]
  exact LateAssignment.type_mem member

/-- What the assignments leave of a value, if each of them leaves the bytes of a number. -/
theorem patchedBy_assignments {Value : Type} (encode : Value → List UInt8)
    {step : Value → LateAssignment → Value} {id : UInt8}
    (each : ∀ value assignment, patchedBy extensions (LateAssignment.patches numbered assignment)
      (id, encode value) = (id, encode (step value assignment)))
    (assignments : List LateAssignment) (value : Value) :
    patchedBy extensions (assignments.flatMap (LateAssignment.patches numbered))
      (id, encode value) = (id, encode (assignments.foldl step value)) := by
  induction assignments generalizing value with
  | nil => rfl
  | cons assignment assignments ih =>
      rw [List.flatMap_cons, patchedBy_append, each, ih, List.foldl_cons]

variable (filled : extensions.Registered)
include filled

theorem patchedBy_path
    (valid : extensions.ids .sandy ≠ kInvalidId) (assignments : List LateAssignment) :
    patchedBy extensions (assignments.flatMap (LateAssignment.patches numbered))
      (extensions.ids .sandy, [0]) = (extensions.ids .sandy, [lastPathId assignments]) := by
  refine patchedBy_assignments (fun subflowId => [subflowId]) (fun value assignment => ?_)
    assignments 0
  cases assignment with
  | splitter subflowId subflowSeq =>
      unfold patchedBy LateAssignment.patches
      dsimp only [List.foldl_cons, List.foldl_nil]
      rw [Patch.apply_of_type filled valid]
      · exact Patch.apply_whole rfl rfl
      · exact nofun
  | router _ _ => exact patchedBy_of_types filled valid (by simp [LateAssignment.types]) _
  | egress _ _ _ _ => exact patchedBy_of_types filled valid (by simp [LateAssignment.types]) _

theorem patchedBy_pathNumber
    (valid : extensions.ids .mpFlowSeqNum ≠ kInvalidId) (assignments : List LateAssignment) :
    patchedBy extensions (assignments.flatMap (LateAssignment.patches numbered))
      (extensions.ids .mpFlowSeqNum, halfWordBytes 0) =
        (extensions.ids .mpFlowSeqNum, halfWordBytes (lastPathSeq assignments)) := by
  refine patchedBy_assignments halfWordBytes (fun value assignment => ?_) assignments 0
  cases assignment with
  | splitter subflowId subflowSeq =>
      unfold patchedBy LateAssignment.patches
      dsimp only [List.foldl_cons, List.foldl_nil]
      rw [Patch.apply_whole (RtpPacket.length_halfWordBytes _) (RtpPacket.length_halfWordBytes _),
        Patch.apply_of_type filled valid]
      exact nofun
  | router _ _ => exact patchedBy_of_types filled valid (by simp [LateAssignment.types]) _
  | egress _ _ _ _ => exact patchedBy_of_types filled valid (by simp [LateAssignment.types]) _

theorem patchedBy_transportNumber (valid : extensions.ids .mpTransportSequenceNumber ≠ kInvalidId)
    (assignments : List LateAssignment) :
    patchedBy extensions (assignments.flatMap (LateAssignment.patches true))
      (extensions.ids .mpTransportSequenceNumber, halfWordBytes 0) =
        (extensions.ids .mpTransportSequenceNumber,
          halfWordBytes (lastTransportSeq assignments)) := by
  refine patchedBy_assignments halfWordBytes (fun value assignment => ?_) assignments 0
  cases assignment with
  | splitter _ _ => exact patchedBy_of_types filled valid (by simp [LateAssignment.types]) _
  | router transportSeq mpTransportSeq =>
      cases mpTransportSeq with
      | none =>
          refine Patch.apply_of_type filled valid ?_ _
          exact nofun
      | some mpTransportSeq =>
          unfold patchedBy LateAssignment.patches
          dsimp only
          rw [if_pos rfl]
          dsimp only [Option.toList_some, List.map_cons, List.map_nil, List.foldl_cons,
            List.foldl_nil]
          rw [Patch.apply_of_type filled valid]
          · exact Patch.apply_whole (RtpPacket.length_halfWordBytes _)
              (RtpPacket.length_halfWordBytes _)
          · exact nofun
  | egress _ _ _ _ => exact patchedBy_of_types filled valid (by simp [LateAssignment.types]) _

/-- Without both its extensions the router writes nothing. -/
theorem patchedBy_unnumbered (valid : extensions.ids .mpTransportSequenceNumber ≠ kInvalidId)
    (assignments : List LateAssignment) (value : List UInt8) :
    patchedBy extensions (assignments.flatMap (LateAssignment.patches false))
      (extensions.ids .mpTransportSequenceNumber, value) =
        (extensions.ids .mpTransportSequenceNumber, value) := by
  refine patchedBy_of_ne fun patch member same => ?_
  obtain ⟨assignment, -, written⟩ := List.mem_flatMap.mp member
  have type := filled.injective valid same
  cases assignment with
  | router _ _ => exact absurd written List.not_mem_nil
  | splitter _ _ =>
      have typed := LateAssignment.type_mem written
      rw [← type] at typed
      simp [LateAssignment.types] at typed
  | egress _ _ _ _ =>
      have typed := LateAssignment.type_mem written
      rw [← type] at typed
      simp [LateAssignment.types] at typed

end PathValues

theorem length_zeroed (extension : UInt8 × List UInt8) :
    (zeroed extensions extension).2.length = extension.2.length := by
  unfold zeroed
  split
  · rfl
  · rename_i skip _
    by_cases inside : skip ≤ extension.2.length
    · refine length_patched ?_
      rw [List.length_replicate]
      omega
    · rw [patched_of_le (Nat.le_of_not_le inside)]

theorem zeroed_fst (extension : UInt8 × List UInt8) :
    (zeroed extensions extension).1 = extension.1 := by
  unfold zeroed
  split <;> rfl

theorem length_patchedBy (fitting : ∀ patch ∈ patches, patch.Fitting)
    (extension : UInt8 × List UInt8) :
    (patchedBy extensions patches extension).2.length = extension.2.length := by
  induction patches generalizing extension with
  | nil => rfl
  | cons patch patches ih =>
      refine (ih (fun other member => fitting other (List.mem_cons_of_mem _ member)) _).trans ?_
      exact Patch.length_apply (fitting patch List.mem_cons_self) extension

/-- What is not cleared. -/
theorem zeroed_of_kept (kept : (extensions.getType extension.1).bind mutableFrom = none) :
    zeroed extensions extension = extension := by
  unfold zeroed
  rw [kept]

/-- A value is as before after patches and zeroing if it is cleared or not patched. -/
theorem zeroed_patchedBy_of_none (kept : (extensions.getType extension.1).bind mutableFrom = none) :
    zeroed extensions (patchedBy extensions patches extension) = zeroed extensions extension ↔
      patchedBy extensions patches extension = extension := by
  rw [zeroed_of_kept kept, zeroed_of_kept]
  rw [patchedBy_fst]
  exact kept

end Patches

namespace RtpPacket

variable {sender : MediaSender} {p p' : RtpPacket} {payload rest : List UInt8} {draft : Draft}

theorem mapped_mapped (draft : Draft) (f g : UInt8 × List UInt8 → UInt8 × List UInt8) :
    (draft.mapped f).mapped g = draft.mapped (g ∘ f) := by
  unfold Draft.mapped
  rw [List.map_map]

theorem mapped_patchedBy_nil (extensions : RtpHeaderExtensionMap) (draft : Draft) :
    draft.mapped (patchedBy extensions []) = draft := by
  have same : draft.extensions.map (patchedBy extensions []) = draft.extensions :=
    List.map_id' draft.extensions
  unfold Draft.mapped
  rw [same]

section

variable (ready : Ready sender p payload draft rest)
include ready

/-- The path and the number are kept beside the bytes too. -/
theorem Ready.onPath (subflowId : UInt8)
    (subflowSeq : UInt16) : Ready sender { p with subflowId, subflowSeq } payload draft rest := by
  obtain ⟨⟨⟨buffer, entries, offset, payloadSize, paddingSize⟩, header, valid, limited, few⟩,
    filled, mixed, settable⟩ := ready
  exact ⟨⟨⟨buffer, entries, offset, payloadSize, paddingSize⟩, header, valid, limited, few⟩,
    filled, mixed, settable⟩

theorem Ready.hasExtension_iff (type : RtpExtensionType) :
    p.hasExtension sender.rtpHeaderExtensionMap type ↔
      sender.rtpHeaderExtensionMap.ids type ∈ draft.extensions.map Prod.fst := by
  unfold hasExtension findExtension
  by_cases invalid : sender.rtpHeaderExtensionMap.ids type = kInvalidId
  · rw [if_pos invalid, invalid]
    refine ⟨nofun, fun listed => ?_⟩
    obtain ⟨extension, member, zero⟩ := List.mem_map.mp listed
    have sized := (ready.ended.valid.sized extension member).1
    rw [zero] at sized
    exact absurd sized (by decide)
  rw [if_neg invalid]
  unfold RtpPacket.valueOf RtpPacket.findExtensionInfo
  rw [Option.isSome_map, List.find?_isSome, ready.ended.finished.entries,
    ← ids_entriesFrom draft.twoByte (16 + 4 * sender.csrcs.length), List.mem_map]
  simp only [decide_eq_true_eq]

theorem Ready.setWhole (type : RtpExtensionType)
    {value : List UInt8} {length : Nat} (size : value.length = length) :
    ∃ p' done, p.setExtension sender.rtpHeaderExtensionMap type value = some (p', done) ∧
      Ready sender p' payload (draft.mapped
        (Patch.apply sender.rtpHeaderExtensionMap ⟨type, length, 0, value⟩)) rest := by
  subst size
  have same : Patch.apply sender.rtpHeaderExtensionMap ⟨type, value.length, 0, value⟩ =
      overwritten (sender.rtpHeaderExtensionMap.ids type) value :=
    funext fun extension => (overwritten_eq_patchAt _ _ extension).symm
  obtain ⟨p', done, set, ready', -⟩ := ready.setExtension type value
  exact ⟨p', done, set, same ▸ ready'⟩

/-- An extension that is not there needs no check before it is set. -/
theorem Ready.absent {type : RtpExtensionType}
    (absent : ¬p.hasExtension sender.rtpHeaderExtensionMap type) (length skip : Nat)
    (new : List UInt8) :
    draft.mapped (Patch.apply sender.rtpHeaderExtensionMap ⟨type, length, skip, new⟩) = draft := by
  rw [ready.hasExtension_iff] at absent
  have same : draft.extensions.map
      (Patch.apply sender.rtpHeaderExtensionMap ⟨type, length, skip, new⟩) = draft.extensions := by
    refine (List.map_congr_left fun extension member => ?_).trans (List.map_id _)
    refine Patch.apply_of_ne fun here => absent ?_
    rw [← here]
    exact List.mem_map_of_mem member
  unfold Draft.mapped
  rw [same]

theorem Ready.setPresent (type : RtpExtensionType)
    {value : List UInt8} {length : Nat} (size : value.length = length) :
    ∃ p', p.setPresent sender.rtpHeaderExtensionMap type value = some p' ∧
      Ready sender p' payload (draft.mapped
        (Patch.apply sender.rtpHeaderExtensionMap ⟨type, length, 0, value⟩)) rest := by
  unfold RtpPacket.setPresent
  split
  · obtain ⟨p', done, set, ready'⟩ := ready.setWhole type size
    exact ⟨p', Option.map_eq_some_iff.mpr ⟨_, set, rfl⟩, ready'⟩
  · rename_i absent
    rw [ready.absent absent]
    exact ⟨p, rfl, ready⟩

end

/-- The two extensions of the router are there. -/
def numbered (sender : MediaSender) (draft : Draft) : Bool :=
  sender.rtpHeaderExtensionMap.ids .transportSequenceNumber ∈ draft.extensions.map Prod.fst ∧
    sender.rtpHeaderExtensionMap.ids .mpTransportSequenceNumber ∈ draft.extensions.map Prod.fst

section

variable (ready : Ready sender p payload draft rest)
include ready

theorem Ready.assignPath (subflowId : UInt8) (subflowSeq : UInt16) (given : Bool) :
    ∃ p', p.assign sender.rtpHeaderExtensionMap (.splitter subflowId subflowSeq) = some p' ∧
      Ready sender p' payload (draft.mapped (patchedBy sender.rtpHeaderExtensionMap
        (LateAssignment.patches given (.splitter subflowId subflowSeq)))) rest := by
  obtain ⟨q, done, numbered, ready'⟩ :=
    (ready.onPath subflowId subflowSeq).setWhole .mpFlowSeqNum (length_halfWordBytes subflowSeq)
  obtain ⟨p', done', routed, ready''⟩ := ready'.setWhole .sandy (rfl : [subflowId].length = 1)
  refine ⟨p', ?_, ?_⟩
  · unfold RtpPacket.assign
    simp only [Option.bind_eq_bind]
    rw [numbered, Option.bind_some, routed, Option.bind_some]
  · rw [mapped_mapped] at ready''
    exact ready''

theorem Ready.assignNumbers (transportSeq : UInt16) (mpTransportSeq : Option UInt16) :
    ∃ p', p.assign sender.rtpHeaderExtensionMap (.router transportSeq mpTransportSeq) = some p' ∧
      Ready sender p' payload (draft.mapped (patchedBy sender.rtpHeaderExtensionMap
        (LateAssignment.patches (numbered sender draft) (.router transportSeq mpTransportSeq))))
        rest := by
  unfold RtpPacket.assign LateAssignment.patches RtpPacket.numbered
  dsimp only
  have present := and_congr (ready.hasExtension_iff .transportSequenceNumber)
    (ready.hasExtension_iff .mpTransportSequenceNumber)
  by_cases both : sender.rtpHeaderExtensionMap.ids .transportSequenceNumber ∈
        draft.extensions.map Prod.fst ∧
      sender.rtpHeaderExtensionMap.ids .mpTransportSequenceNumber ∈ draft.extensions.map Prod.fst
  · rw [if_pos (present.mpr both), if_pos (decide_eq_true both)]
    obtain ⟨q, done, numbered, ready'⟩ :=
      ready.setWhole .transportSequenceNumber (length_halfWordBytes transportSeq)
    rw [Option.bind_eq_bind, numbered, Option.bind_some]
    cases mpTransportSeq with
    | none => exact ⟨q, rfl, ready'⟩
    | some number =>
        obtain ⟨p', done', routed, ready''⟩ :=
          ready'.setWhole .mpTransportSequenceNumber (length_halfWordBytes number)
        rw [mapped_mapped] at ready''
        exact ⟨p', Option.map_eq_some_iff.mpr ⟨_, routed, rfl⟩, ready''⟩
  · rw [if_neg fun given => both (present.mp given),
      if_neg fun given => both (of_decide_eq_true given), mapped_patchedBy_nil]
    exact ⟨p, rfl, ready⟩

theorem Ready.assignTimes
    (transmissionOffset absoluteSendTime : Nat) (populateNetwork2 : Bool) (delta : UInt16)
    (given : Bool) :
    ∃ p', p.assign sender.rtpHeaderExtensionMap
        (.egress transmissionOffset absoluteSendTime populateNetwork2 delta) = some p' ∧
      Ready sender p' payload (draft.mapped (patchedBy sender.rtpHeaderExtensionMap
        (LateAssignment.patches given
          (.egress transmissionOffset absoluteSendTime populateNetwork2 delta)))) rest := by
  obtain ⟨first, offset, ready₁⟩ := ready.setPresent .transmissionTimeOffset
    (length_writeBigEndian 3 transmissionOffset)
  obtain ⟨second, time, ready₂⟩ := ready₁.setPresent .absoluteSendTime
    (length_writeBigEndian 3 absoluteSendTime)
  unfold RtpPacket.assign
  simp only [Option.bind_eq_bind]
  rw [offset, Option.bind_some, time, Option.bind_some]
  have inside : (if populateNetwork2 then kNetwork2TimestampDeltaOffset
      else kPacerExitDeltaOffset) + 2 ≤ kVideoTimingSize := by
    cases populateNetwork2 <;> decide
  split
  · obtain ⟨p', timed, ready₃, -⟩ := ready₂.setTiming delta inside
    rw [mapped_mapped, mapped_mapped] at ready₃
    exact ⟨p', timed, ready₃⟩
  · rename_i absent
    refine ⟨second, rfl, ?_⟩
    rw [← ready₂.absent absent kVideoTimingSize (if populateNetwork2 then
      kNetwork2TimestampDeltaOffset else kPacerExitDeltaOffset) (halfWordBytes delta),
      mapped_mapped, mapped_mapped] at ready₂
    exact ready₂

theorem Ready.assign (assignment : LateAssignment) :
    ∃ p', p.assign sender.rtpHeaderExtensionMap assignment = some p' ∧
      Ready sender p' payload (draft.mapped (patchedBy sender.rtpHeaderExtensionMap
        (assignment.patches (numbered sender draft)))) rest := by
  cases assignment with
  | splitter subflowId subflowSeq => exact ready.assignPath subflowId subflowSeq _
  | router transportSeq mpTransportSeq => exact ready.assignNumbers transportSeq mpTransportSeq
  | egress transmissionOffset absoluteSendTime populateNetwork2 delta =>
      exact ready.assignTimes transmissionOffset absoluteSendTime populateNetwork2 delta _

end

theorem ids_patchedBy (patches : List Patch) :
    (draft.mapped (patchedBy sender.rtpHeaderExtensionMap patches)).extensions.map Prod.fst =
      draft.extensions.map Prod.fst := by
  unfold Draft.mapped
  rw [List.map_map]
  exact List.map_congr_left fun extension _ => patchedBy_fst patches extension

section

variable (ready : Ready sender p payload draft rest)
include ready

/-- All assignments are patches on the extensions. -/
theorem Ready.assignAll (assignments : List LateAssignment) :
    ∃ p', assignments.foldlM (RtpPacket.assign sender.rtpHeaderExtensionMap) p = some p' ∧
      Ready sender p' payload (draft.mapped (patchedBy sender.rtpHeaderExtensionMap
        (assignments.flatMap (LateAssignment.patches (numbered sender draft))))) rest := by
  induction assignments generalizing p draft with
  | nil =>
      rw [List.flatMap_nil, mapped_patchedBy_nil]
      exact ⟨p, rfl, ready⟩
  | cons assignment assignments ih =>
      obtain ⟨q, assigned, ready'⟩ := ready.assign assignment
      obtain ⟨p', others, ready''⟩ := ih ready'
      have same : numbered sender (draft.mapped (patchedBy sender.rtpHeaderExtensionMap
          (assignment.patches (numbered sender draft)))) = numbered sender draft := by
        unfold RtpPacket.numbered
        rw [ids_patchedBy]
      rw [same, mapped_mapped] at ready''
      refine ⟨p', ?_, ?_⟩
      · rw [List.foldlM_cons, Option.bind_eq_bind, assigned, Option.bind_some, others]
      · have whole : patchedBy sender.rtpHeaderExtensionMap
            ((assignment :: assignments).flatMap (LateAssignment.patches (numbered sender draft))) =
          patchedBy sender.rtpHeaderExtensionMap
              (assignments.flatMap (LateAssignment.patches (numbered sender draft))) ∘
            patchedBy sender.rtpHeaderExtensionMap
              (assignment.patches (numbered sender draft)) :=
          funext fun extension => patchedBy_append _ _ extension
        rw [whole]
        exact ready''

/-- A round of the loop, at the extension after those of `before`. -/
theorem Ready.zeroExtension {before others : List (UInt8 × List UInt8)}
    {extension : UInt8 × List UInt8} (split : draft.extensions = before ++ extension :: others) :
    ∃ p', p.zeroExtension sender.rtpHeaderExtensionMap
        { id := extension.1
          length := UInt8.ofNat extension.2.length
          offset := UInt16.ofNat (16 + 4 * sender.csrcs.length +
            (extensionBlock draft.twoByte before).length + headerSize draft.twoByte) } = some p' ∧
      Ready sender p' payload
        { draft with
          extensions := before ++ zeroed sender.rtpHeaderExtensionMap extension :: others }
        rest := by
  obtain ⟨id, value⟩ := extension
  obtain ⟨header, twoByte, list⟩ := draft
  obtain rfl : list = before ++ (id, value) :: others := split
  have ended := ready.ended
  have small : (UInt8.ofNat value.length).toNat = value.length := by
    have short := (ended.valid.sized (id, value) List.mem_append_cons_self).2.2
    dsimp only at short
    rw [UInt8.toNat_ofNat']
    omega
  have place : (UInt16.ofNat (16 + 4 * sender.csrcs.length +
      (extensionBlock twoByte before).length + headerSize twoByte)).toNat =
      16 + 4 * sender.csrcs.length + (extensionBlock twoByte before).length +
        headerSize twoByte := by
    have limited := ended.limited
    have block : extensionBlock twoByte (before ++ (id, value) :: others) =
        extensionBlock twoByte before ++ extensionBlock twoByte ((id, value) :: others) :=
      List.flatMap_append
    dsimp only at limited
    rw [block, extensionBlock_cons, List.length_append, List.length_append,
      length_extensionHeader] at limited
    rw [UInt16.toNat_ofNat']
    omega
  unfold RtpPacket.zeroExtension zeroed
  dsimp only
  cases (sender.rtpHeaderExtensionMap.getType id).bind mutableFrom with
  | none => exact ⟨p, rfl, ready⟩
  | some skip =>
      dsimp only
      rw [small, place]
      split
      · rename_i inside
        have fits : skip + (List.replicate (value.length - skip) (0 : UInt8)).length ≤
            value.length := by
          rw [List.length_replicate]
          omega
        obtain ⟨p', written, ready', -⟩ := ready.patch rfl fits
        unfold Draft.mapped at ready'
        dsimp only at ready'
        rw [map_patchAt_middle ended.valid.distinct] at ready'
        exact ⟨p', written, ready'⟩
      · rename_i outside
        rw [patched_of_le (Nat.not_lt.mp outside)]
        exact ⟨p, rfl, ready⟩

/-- The extensions are zeroed one after the other. -/
theorem Ready.zeroFrom {before others : List (UInt8 × List UInt8)}
    (split : draft.extensions = before ++ others) :
    ∃ p', (entriesFrom draft.twoByte (16 + 4 * sender.csrcs.length +
          (extensionBlock draft.twoByte before).length) others).foldlM
        (RtpPacket.zeroExtension sender.rtpHeaderExtensionMap) p = some p' ∧
      Ready sender p' payload
        { draft with
          extensions := before ++ others.map (zeroed sender.rtpHeaderExtensionMap) } rest := by
  induction others generalizing p draft before with
  | nil =>
      refine ⟨p, rfl, ?_⟩
      rw [List.map_nil, ← split]
      exact ready
  | cons extension others ih =>
      obtain ⟨q, round, ready'⟩ := ready.zeroExtension split
      have next : before ++ zeroed sender.rtpHeaderExtensionMap extension :: others =
          (before ++ [zeroed sender.rtpHeaderExtensionMap extension]) ++ others :=
        (List.append_cons ..)
      obtain ⟨p', rounds, ready''⟩ := ih ready' next
      refine ⟨p', ?_, ?_⟩
      · dsimp only at rounds
        rw [length_extensionBlock_concat, length_zeroed, ← Nat.add_assoc, ← Nat.add_assoc] at rounds
        rw [entriesFrom, List.foldlM_cons, Option.bind_eq_bind, round, Option.bind_some, rounds]
      · rw [List.map_cons, List.append_cons]
        exact ready''

theorem Ready.zero :
    ∃ p', p.zeroMutableExtensions sender.rtpHeaderExtensionMap = some p' ∧
      Ready sender p' payload (draft.mapped (zeroed sender.rtpHeaderExtensionMap)) rest := by
  have done := ready.zeroFrom (List.nil_append draft.extensions).symm
  unfold RtpPacket.zeroMutableExtensions
  rw [ready.ended.finished.entries]
  exact done

end

theorem extensionBlock_inj {twoByte : Bool} {first second : List (UInt8 × List UInt8)}
    (shape : shapeOf first = shapeOf second)
    (same : extensionBlock twoByte first = extensionBlock twoByte second) : first = second := by
  induction first generalizing second with
  | nil => exact (List.map_eq_nil_iff.mp shape.symm).symm
  | cons extension first ih =>
      cases second with
      | nil => exact absurd shape (List.cons_ne_nil _ _)
      | cons other second =>
          obtain ⟨head, tail⟩ := List.cons.inj shape
          obtain ⟨id, length⟩ := Prod.mk.inj head
          rw [extensionBlock_cons, extensionBlock_cons, id, length, List.append_cancel_left_eq]
            at same
          obtain ⟨value, block⟩ := List.append_inj same length
          rw [Prod.ext id value, ih tail block]

/-- Packets with the same layout have the same bytes if the values are the same. -/
theorem Ready.bytes_eq_iff {f g : UInt8 × List UInt8 → UInt8 × List UInt8} {rest' : List UInt8}
    (ready : Ready sender p payload (draft.mapped f) rest)
    (ready' : Ready sender p' payload (draft.mapped g) rest')
    (shape : shapeOf (draft.extensions.map f) = shapeOf (draft.extensions.map g)) :
    p'.bytes = p.bytes ↔ draft.extensions.map g = draft.extensions.map f := by
  have ended := ready.ended
  have ended' := ready'.ended
  have header : p'.header = p.header := ended'.header.trans ended.header.symm
  rw [bytes_of_finished ended.finished (Nat.zero_le _),
    bytes_of_finished ended'.finished (Nat.zero_le _)]
  unfold wire Draft.mapped
  dsimp only
  rw [fixedHeader_congr header, isEmpty_of_shape shape, List.append_cancel_left_eq,
    List.append_cancel_left_eq, List.append_cancel_right_eq]
  constructor
  · intro area
    by_cases empty : draft.extensions.map f = []
    · rw [empty, (eq_nil_of_shape shape).mp empty]
    · unfold extensionArea at area
      rw [if_neg empty, if_neg (mt (eq_nil_of_shape shape).mpr empty),
        length_extensionBlock_of_shape shape] at area
      dsimp only at area
      rw [List.append_cancel_left_eq, List.append_cancel_left_eq,
        List.append_cancel_right_eq] at area
      exact extensionBlock_inj shape.symm area
  · intro same
    rw [same]

theorem fitting_assignments {assignments : List LateAssignment} {given : Bool} {patch : Patch}
    (member : patch ∈ assignments.flatMap (LateAssignment.patches given)) : patch.Fitting := by
  obtain ⟨assignment, -, written⟩ := List.mem_flatMap.mp member
  exact LateAssignment.fitting written

/-- An extension for the path is not cleared, so its zeros have to be there again. -/
theorem zeroed_path_iff (filled : sender.rtpHeaderExtensionMap.Registered)
    {type : RtpExtensionType} (kept : mutableFrom type = none)
    (valid : sender.rtpHeaderExtensionMap.ids type ≠ kInvalidId) (patches : List Patch)
    (value : List UInt8) :
    zeroed sender.rtpHeaderExtensionMap (patchedBy sender.rtpHeaderExtensionMap patches
        (sender.rtpHeaderExtensionMap.ids type, value)) =
      zeroed sender.rtpHeaderExtensionMap (sender.rtpHeaderExtensionMap.ids type, value) ↔
    patchedBy sender.rtpHeaderExtensionMap patches
        (sender.rtpHeaderExtensionMap.ids type, value) =
      (sender.rtpHeaderExtensionMap.ids type, value) := by
  refine zeroed_patchedBy_of_none ?_
  dsimp only
  rw [filled.getType_ids valid, Option.bind_some]
  exact kept

end RtpPacket

section Results

open RtpPacket

variable {sender : MediaSender} {p p' : RtpPacket} {payload rest : List UInt8} {draft : Draft}
variable {assignments : List LateAssignment}

theorem halfWordBytes_inj {first second : UInt16}
    (same : halfWordBytes first = halfWordBytes second) : first = second := by
  have number := congrArg readBigEndian same
  unfold halfWordBytes at number
  rw [readBigEndian_writeBigEndian, readBigEndian_writeBigEndian] at number
  have small := first.toNat_lt
  have small' := second.toNat_lt
  exact UInt16.toNat_inj.mp (by omega)

variable {extension : UInt8 × List UInt8}

theorem id_valid (ready : Ready sender p payload draft rest)
    (member : extension ∈ draft.extensions) : extension.1 ≠ kInvalidId := by
  intro zero
  have sized := (ready.ended.valid.sized extension member).1
  rw [zero] at sized
  exact absurd sized (by decide)

/-- An extension for the path that is there has zeros. -/
theorem path_zero (ready : Ready sender p payload draft rest)
    (reserved : ∀ extension ∈ draft.extensions, ReservedZero sender extension)
    {type : RtpExtensionType} {width : Nat} (path : (type, width) ∈ pathExtensions)
    (present : p.hasExtension sender.rtpHeaderExtensionMap type) :
    sender.rtpHeaderExtensionMap.ids type ≠ kInvalidId ∧
      (sender.rtpHeaderExtensionMap.ids type, List.replicate width 0) ∈ draft.extensions := by
  obtain ⟨extension, member, id⟩ := List.mem_map.mp ((ready.hasExtension_iff type).mp present)
  have valid := id_valid ready member
  rw [id] at valid
  refine ⟨valid, ?_⟩
  rw [← reserved extension member _ path valid id, ← id]
  exact member

/-- Nothing but the extensions for the path is written and not cleared. -/
theorem patchedBy_other (filled : sender.rtpHeaderExtensionMap.Registered) {given : Bool}
    (valid : extension.1 ≠ kInvalidId)
    (kept : (sender.rtpHeaderExtensionMap.getType extension.1).bind mutableFrom = none)
    (other : ∀ field ∈ pathExtensions, extension.1 ≠ sender.rtpHeaderExtensionMap.ids field.1) :
    patchedBy sender.rtpHeaderExtensionMap
      (assignments.flatMap (LateAssignment.patches given)) extension = extension := by
  refine patchedBy_of_ne fun patch member same => ?_
  rw [same] at valid kept
  rw [filled.getType_ids valid, Option.bind_some] at kept
  obtain ⟨field, path, type⟩ := List.mem_map.mp ((fitting_assignments member).known kept)
  exact other field path (type ▸ same)

theorem replicate_eq_halfWordBytes : List.replicate 2 (0 : UInt8) = halfWordBytes 0 := by
  decide

/-- The extensions for the path end as zeros. -/
theorem patchedBy_unset (filled : sender.rtpHeaderExtensionMap.Registered)
    (ready : Ready sender p payload draft rest)
    (unset : PathUnset sender.rtpHeaderExtensionMap p assignments)
    {field : RtpExtensionType × Nat} (path : field ∈ pathExtensions)
    (listed : sender.rtpHeaderExtensionMap.ids field.1 ∈ draft.extensions.map Prod.fst)
    (valid : sender.rtpHeaderExtensionMap.ids field.1 ≠ kInvalidId) :
    patchedBy sender.rtpHeaderExtensionMap
      (assignments.flatMap (LateAssignment.patches (numbered sender draft)))
      (sender.rtpHeaderExtensionMap.ids field.1, List.replicate field.2 0) =
    (sender.rtpHeaderExtensionMap.ids field.1, List.replicate field.2 0) := by
  have present := (ready.hasExtension_iff field.1).mpr listed
  rcases List.mem_cons.mp path with rfl | path
  · dsimp only at *
    rw [List.replicate_one, patchedBy_path filled valid, unset.path present]
  rcases List.mem_cons.mp path with rfl | path
  · dsimp only at *
    rw [replicate_eq_halfWordBytes, patchedBy_pathNumber filled valid, unset.number present]
  obtain rfl := List.mem_singleton.mp path
  dsimp only at *
  cases both : numbered sender draft with
  | false => exact patchedBy_unnumbered filled valid assignments _
  | true =>
      have transport := (ready.hasExtension_iff _).mpr (of_decide_eq_true both).1
      rw [replicate_eq_halfWordBytes, patchedBy_transportNumber filled valid,
        unset.transport transport present]

/-- The extensions are as before exactly if those for the path are. -/
theorem zeroed_all_iff (filled : sender.rtpHeaderExtensionMap.Registered)
    (ready : Ready sender p payload draft rest)
    (reserved : ∀ extension ∈ draft.extensions, ReservedZero sender extension) :
    (∀ extension ∈ draft.extensions,
      zeroed sender.rtpHeaderExtensionMap (patchedBy sender.rtpHeaderExtensionMap
        (assignments.flatMap (LateAssignment.patches (numbered sender draft))) extension) =
      zeroed sender.rtpHeaderExtensionMap extension) ↔
    PathUnset sender.rtpHeaderExtensionMap p assignments := by
  constructor
  · intro same
    refine ⟨fun present => ?_, fun present => ?_, fun transport present => ?_⟩
    · obtain ⟨valid, member⟩ := path_zero ready reserved (by decide : (.sandy, 1) ∈ _) present
      have left := (zeroed_path_iff filled rfl valid _ _).mp (same _ member)
      rw [List.replicate_one, patchedBy_path filled valid] at left
      exact List.head_eq_of_cons_eq (Prod.mk.inj left).2
    · obtain ⟨valid, member⟩ :=
        path_zero ready reserved (by decide : (.mpFlowSeqNum, 2) ∈ _) present
      have left := (zeroed_path_iff filled rfl valid _ _).mp (same _ member)
      rw [replicate_eq_halfWordBytes, patchedBy_pathNumber filled valid] at left
      exact halfWordBytes_inj (Prod.mk.inj left).2
    · obtain ⟨valid, member⟩ :=
        path_zero ready reserved (by decide : (.mpTransportSequenceNumber, 2) ∈ _) present
      have left := (zeroed_path_iff filled rfl valid _ _).mp (same _ member)
      have both : numbered sender draft = true := decide_eq_true
        ⟨(ready.hasExtension_iff _).mp transport, (ready.hasExtension_iff _).mp present⟩
      rw [replicate_eq_halfWordBytes, both, patchedBy_transportNumber filled valid] at left
      exact halfWordBytes_inj (Prod.mk.inj left).2
  · intro unset extension member
    have valid := id_valid ready member
    by_cases kept : (sender.rtpHeaderExtensionMap.getType extension.1).bind mutableFrom = none
    · rw [zeroed_patchedBy_of_none kept]
      by_cases other : ∀ field ∈ pathExtensions,
          extension.1 ≠ sender.rtpHeaderExtensionMap.ids field.1
      · exact patchedBy_other filled valid kept other
      · push Not at other
        obtain ⟨field, path, here⟩ := other
        have zeros := reserved extension member field path (here ▸ valid) here
        obtain ⟨id, value⟩ := extension
        dsimp only at here zeros
        subst here zeros
        exact patchedBy_unset filled ready unset path (List.mem_map_of_mem member) valid
    · exact zeroed_patchedBy filled valid (fun patch => fitting_assignments) kept

theorem shapeOf_map {list : List (UInt8 × List UInt8)} {f : UInt8 × List UInt8 → UInt8 × List UInt8}
    (same : ∀ extension, (f extension).1 = extension.1 ∧
      (f extension).2.length = extension.2.length) : shapeOf (list.map f) = shapeOf list := by
  unfold shapeOf
  rw [List.map_map]
  exact List.map_congr_left fun extension _ => Prod.ext (same extension).1 (same extension).2

/-- Zeroing undoes the assignments exactly if what they write for the path ends as zeros. -/
theorem undone_iff (filled : sender.rtpHeaderExtensionMap.Registered) (media : sender.Media p)
    (assignments : List LateAssignment) :
    ∃ p', assignments.foldlM (RtpPacket.assign sender.rtpHeaderExtensionMap) p = some p' ∧
      (Undone sender.rtpHeaderExtensionMap p p' ↔
        PathUnset sender.rtpHeaderExtensionMap p assignments) := by
  obtain ⟨payload, draft, rest, ready, reserved⟩ := ready_of_media filled media
  obtain ⟨p', assigned, ready'⟩ := ready.assignAll assignments
  obtain ⟨cleared, zero, readyZero⟩ := ready.zero
  obtain ⟨cleared', zero', readyZero'⟩ := ready'.zero
  rw [mapped_mapped] at readyZero'
  have shape : shapeOf (draft.extensions.map (zeroed sender.rtpHeaderExtensionMap)) =
      shapeOf (draft.extensions.map (zeroed sender.rtpHeaderExtensionMap ∘
        patchedBy sender.rtpHeaderExtensionMap
          (assignments.flatMap (LateAssignment.patches (numbered sender draft))))) := by
    rw [← List.map_map,
      shapeOf_map fun extension => ⟨zeroed_fst extension, length_zeroed extension⟩,
      shapeOf_map fun extension => ⟨zeroed_fst extension, length_zeroed extension⟩,
      shapeOf_map fun extension => ⟨patchedBy_fst _ extension,
        length_patchedBy (fun patch => fitting_assignments) extension⟩]
  have bytes := readyZero.bytes_eq_iff readyZero' shape
  refine ⟨p', assigned, ?_⟩
  rw [← zeroed_all_iff filled ready reserved]
  constructor
  · rintro ⟨_, _, first, second, same⟩
    obtain rfl := Option.some.inj (zero.symm.trans first)
    obtain rfl := Option.some.inj (zero'.symm.trans second)
    exact List.map_inj_left.mp (bytes.mp same)
  · intro same
    exact ⟨cleared, cleared', zero, zero', bytes.mpr (List.map_inj_left.mpr same)⟩

/-- A sender that has the path and the send time as extensions. -/
def pathSender : MediaSender where
  ssrc := 1
  csrcs := []
  rtpHeaderExtensionMap :=
    ((⟨fun _ => kInvalidId, false⟩ : RtpHeaderExtensionMap).register 3 .sandy).register 5
      .absoluteSendTime
  alwaysSendMidAndRid := false
  ssrcHasAcked := false
  mid := []
  rid := []

/-- A packet of it. -/
def pathPacket : Option RtpPacket :=
  (pathSender.allocatePacket (List.replicate 40 0xFF)).bind fun p => p.setPayload [8]

theorem registered_pathSender : pathSender.rtpHeaderExtensionMap.Registered :=
  .register (.register (.empty false) 3 .sandy) 5 .absoluteSendTime

theorem media_pathPacket {p : RtpPacket} (built : pathPacket = some p) : pathSender.Media p := by
  have fits : ∀ q ∈ pathSender.allocatePacket (List.replicate 40 0xFF),
      q.payloadOffset + ([8] : List UInt8).length ≤ q.capacity := by
    decide +kernel
  obtain ⟨q, allocated, set⟩ := Option.bind_eq_some_iff.mp built
  exact .loaded (.allocated (by decide) (by decide) allocated) (List.cons_ne_nil _ _)
    (fits q allocated) set

/-- A send time is undone. -/
theorem send_time_undone :
    ∃ p p', pathPacket = some p ∧
      [LateAssignment.egress 1 2 false 3].foldlM
        (RtpPacket.assign pathSender.rtpHeaderExtensionMap) p = some p' ∧
      Undone pathSender.rtpHeaderExtensionMap p p' := by
  have built : pathPacket.isSome = true := by
    decide +kernel
  obtain ⟨p, built⟩ := Option.isSome_iff_exists.mp built
  obtain ⟨p', assigned, undone⟩ :=
    undone_iff registered_pathSender (media_pathPacket built) [.egress 1 2 false 3]
  exact ⟨p, p', built, assigned, undone.mpr ⟨fun _ => rfl, fun _ => rfl, fun _ _ => rfl⟩⟩

/-- A path is not undone. -/
theorem path_not_undone :
    ∃ p p', pathSender.rtpHeaderExtensionMap.Registered ∧ pathSender.Media p ∧
      [LateAssignment.splitter 1 5].foldlM
        (RtpPacket.assign pathSender.rtpHeaderExtensionMap) p = some p' ∧
      ¬Undone pathSender.rtpHeaderExtensionMap p p' := by
  have differ : (pathPacket.bind fun p => ([LateAssignment.splitter 1 5].foldlM
      (RtpPacket.assign pathSender.rtpHeaderExtensionMap) p).bind fun p' =>
        (p.zeroMutableExtensions pathSender.rtpHeaderExtensionMap).bind fun zeroed =>
          (p'.zeroMutableExtensions pathSender.rtpHeaderExtensionMap).map fun zeroed' =>
            decide (zeroed'.bytes = zeroed.bytes)) = some false := by
    decide +kernel
  simp only [Option.bind_eq_some_iff] at differ
  obtain ⟨p, built, p', assigned, zeroed, first, differ⟩ := differ
  obtain ⟨zeroed', second, differ⟩ := Option.map_eq_some_iff.mp differ
  refine ⟨p, p', registered_pathSender, media_pathPacket built, assigned, ?_⟩
  rintro ⟨_, _, first', second', same⟩
  obtain rfl := Option.some.inj (first.symm.trans first')
  obtain rfl := Option.some.inj (second.symm.trans second')
  exact of_decide_eq_false differ same

end Results

end MpWebRtc
