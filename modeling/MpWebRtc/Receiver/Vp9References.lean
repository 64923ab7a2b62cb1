import Mathlib.Data.List.Nodup
import MpWebRtc.Math.OrderedMap
import MpWebRtc.Receiver.PictureIds

/-!
# The references of VP9 frames

In non-flexible mode a VP9 frame refers to the frames that its position in the group of pictures
names, except those before a frame at which it could have switched up from a lower layer.
`ManageFrameVp9` leaves out such a reference by lowering the number of references while it goes
through them: the reference stays where it is, and the last one is not reached any more.
-/

namespace MpWebRtc

open Math Math.Circle

def kMaxTemporalLayers : Nat := 5
def kMaxSpatialLayers : Nat := 5
def kMaxGofSaved : Nat := 50
def kMaxVp9RefPics : Nat := 3
def kMaxVp9FramesInGof : Nat := 255
def kMaxFrameReferences : Nat := 5
def kNoPictureId : Int := -1
def kNoTl0PicIdx : Int := -1
def kNoTemporalIdx : Nat := 255

/-- A frame of a group of pictures: its layer, and how far back its references are. -/
structure GofFrame where
  temporalIdx : Nat
  pidDiff : List UInt8

/-- `GofInfoVP9`, with the frames of the group. -/
structure GofInfoVp9 where
  frames : List GofFrame := []
  pidStart : PictureId := 0

/-- `kTemporalStructureMode1`: one layer, each frame refers to the one before. -/
def temporalStructureMode1 : List GofFrame := [{ temporalIdx := 0, pidDiff := [1] }]

/-- What the finder reads of a frame. -/
structure Vp9Frame where
  keyFrame : Bool := false
  pictureId : Int
  temporalIdx : Nat
  spatialIdx : Nat := 0
  tl0PicIdx : Int
  flexibleMode : Bool := false
  pidDiff : List UInt8 := []
  interPicPredicted : Bool := true
  interLayerPredicted : Bool := false
  temporalUpSwitch : Bool := false
  ssDataAvailable : Bool := false
  gof : List GofFrame := []

/-- A frame with its references. -/
structure ReferencingFrame where
  pictureId : Int
  spatialLayer : Nat
  interLayerPredicted : Bool
  references : List Int

/-- `GofInfo`, with the index of the structure it points to. -/
structure GofInfo where
  slot : Nat
  lastPictureId : PictureId

/-- `FrameDecision`; a frame without picture id or layer is left to the rules for such frames. -/
inductive FrameDecision
  | stash
  | handOff (frame : ReferencingFrame)
  | drop
  | managePidOrSeqNum

/-- What `RtpFrameReferenceFinder` keeps for VP9. -/
structure Vp9Finder where
  lastPictureId : Option PictureId := none
  currentSsIdx : Nat := 0
  scalabilityStructures : Nat → GofInfoVp9 := fun _ => {}
  gofInfo : OrderedMap Int GofInfo := {}
  upSwitch : CircularMap kPicIdLength Nat := {}
  missingFramesForLayer : Nat → CircularMap kPicIdLength Unit := fun _ => {}
  unwrapper : CircleUnwrapper kPicIdLength := {}
  tl0Unwrapper : CircleUnwrapper 256 := {}

namespace GofInfoVp9

/-- The position of a picture in the group. -/
def gofIdx (gof : GofInfoVp9) (pictureId : PictureId) : Nat :=
  forwardDiff gof.pidStart pictureId % gof.frames.length

/-- The frame at a position. -/
def frameAt (gof : GofInfoVp9) (gofIdx : Nat) : GofFrame :=
  gof.frames.getD gofIdx { temporalIdx := 0, pidDiff := [] }

end GofInfoVp9

namespace Vp9Finder

variable (finder : Vp9Finder)

/-- Part of `FrameReceivedVp9`: the frames in a gap are missing. Stops at a layer that is too high;
whether it came to the end is the second result. -/
def missGap (gof : GofInfoVp9) (pictureId : PictureId) :
    Nat → Nat → PictureId → (Nat → CircularMap kPicIdLength Unit) →
      Option ((Nat → CircularMap kPicIdLength Unit) × Bool)
  | 0, _, _, missing => some (missing, true)
  | steps + 1, gofIdx, last, missing =>
      if last = pictureId then some (missing, true)
      else
        let gofIdx := (gofIdx + 1) % min gof.frames.length kMaxVp9FramesInGof
        let temporalIdx := (gof.frameAt gofIdx).temporalIdx
        if temporalIdx ≥ kMaxTemporalLayers then some (missing, false)
        else
          match (missing temporalIdx).emplace last () with
          | none => none
          | some layer =>
              missGap gof pictureId steps gofIdx (add last 1)
                (Function.update missing temporalIdx layer)

/-- `FrameReceivedVp9`, for the entry of a base layer frame. -/
def frameReceivedVp9 (pictureId : PictureId) (tl0 : Int) (info : GofInfo) : Option Vp9Finder :=
  let gof := finder.scalabilityStructures info.slot
  if aheadOf pictureId info.lastPictureId then
    (missGap gof pictureId (forwardDiff info.lastPictureId pictureId)
        (forwardDiff gof.pidStart info.lastPictureId % min gof.frames.length kMaxVp9FramesInGof)
        (add info.lastPictureId 1) finder.missingFramesForLayer).map fun missed =>
      { finder with
        missingFramesForLayer := missed.1
        gofInfo :=
          if missed.2 then
            finder.gofInfo.modify tl0 fun info => { info with lastPictureId := pictureId }
          else finder.gofInfo }
  else
    let temporalIdx := (gof.frameAt (forwardDiff gof.pidStart pictureId %
      min gof.frames.length kMaxVp9FramesInGof)).temporalIdx
    if temporalIdx ≥ kMaxTemporalLayers then some finder
    else
      some { finder with
        missingFramesForLayer := Function.update finder.missingFramesForLayer temporalIdx
          ((finder.missingFramesForLayer temporalIdx).erase pictureId) }

/-- `MissingRequiredFrameVp9`. -/
def missingRequiredFrameVp9 (pictureId : PictureId) (gof : GofInfoVp9) : Bool :=
  let position := gof.frameAt (gof.gofIdx pictureId)
  decide (position.temporalIdx ≥ kMaxTemporalLayers) ||
    position.pidDiff.any fun diff =>
      (List.range position.temporalIdx).any fun layer =>
        (((finder.missingFramesForLayer layer).eraseBehind
            (subtract pictureId diff.toNat)).entries.head?).any fun missing =>
          aheadOf pictureId missing.1

/-- `UpSwitchInIntervalVp9`. -/
def upSwitchInIntervalVp9 (pictureId : PictureId) (temporalIdx : Nat) (pidRef : PictureId) : Bool :=
  (finder.upSwitch.walk pidRef pictureId).any fun entry => decide (entry.2 < temporalIdx)

/-- The loop over the references. The reference is put in its place in any case; a superseded one
lowers the number of references, which is also the bound of the loop. -/
def fillReferences (superseded : PictureId → Bool) :
    List PictureId → Nat → Nat → List PictureId → List PictureId
  | [], _, numReferences, references => references.take numReferences
  | reference :: rest, i, numReferences, references =>
      if i < numReferences then
        fillReferences superseded rest (i + 1)
          (if superseded reference then numReferences - 1 else numReferences)
          (references ++ [reference])
      else references.take numReferences

/-- Unwrap one number after the other. -/
def unwrapAll (unwrapper : CircleUnwrapper kPicIdLength) :
    List PictureId → List Int × CircleUnwrapper kPicIdLength
  | [] => ([], unwrapper)
  | number :: numbers =>
      let first := unwrapper.unwrap number
      let rest := unwrapAll first.2 numbers
      (first.1 :: rest.1, rest.2)

/-- `UnwrapPictureIds`, and the frame is handed off. -/
def handOff (frame : Vp9Frame) (pictureId : PictureId) (references : List PictureId) :
    Vp9Finder × FrameDecision :=
  let unwrappedReferences := unwrapAll finder.unwrapper references
  let unwrappedId := unwrappedReferences.2.unwrap pictureId
  ({ finder with unwrapper := unwrappedId.2 },
    .handOff
      { pictureId := unwrappedId.1
        spatialLayer := frame.spatialIdx
        interLayerPredicted := frame.interLayerPredicted
        references := unwrappedReferences.1 })

/-- A scalability structure is saved, and the base layer frame that brings it points to it. It is
ignored on other layers; there is none if it is too large. -/
def receiveStructure (frame : Vp9Frame) (pictureId : PictureId) (tl0 : Int) : Option Vp9Finder :=
  if !frame.ssDataAvailable || decide (frame.temporalIdx ≠ 0) then some finder
  else if frame.gof.length > kMaxVp9FramesInGof ||
      frame.gof.any fun position => decide (position.pidDiff.length > kMaxVp9RefPics) then none
  else
    let frames := if frame.gof = [] then temporalStructureMode1 else frame.gof
    let slot := (finder.currentSsIdx + 1) % kMaxGofSaved
    some { finder with
      currentSsIdx := slot
      scalabilityStructures := Function.update finder.scalabilityStructures slot
        { frames := frames, pidStart := pictureId }
      gofInfo := finder.gofInfo.emplace tl0 { slot := slot, lastPictureId := pictureId } }

/-- The last part of `ManageFrameVp9`: the references of a frame whose group is known. -/
def findReferences (frame : Vp9Frame) (pictureId : PictureId) (tl0 : Int) (info : GofInfo) :
    Option (Vp9Finder × FrameDecision) :=
  let cleaned := { finder with
    gofInfo := finder.gofInfo.dropWhile fun entry => decide (entry.1 < tl0 - kMaxGofSaved) }
  match cleaned.frameReceivedVp9 pictureId tl0 info with
  | none => none
  | some finder =>
      let gof := finder.scalabilityStructures info.slot
      if finder.missingRequiredFrameVp9 pictureId gof then some (finder, .stash)
      else
        let recorded :=
          if frame.temporalUpSwitch then finder.upSwitch.emplace pictureId frame.temporalIdx
          else some finder.upSwitch
        match recorded with
        | none => none
        | some upSwitch =>
            let finder := { finder with upSwitch := upSwitch.eraseBehind (subtract pictureId 50) }
            let position := gof.frameAt (gof.gofIdx pictureId)
            if position.pidDiff.length > kMaxFrameReferences then some (finder, .drop)
            else
              let references := fillReferences
                (finder.upSwitchInIntervalVp9 pictureId frame.temporalIdx)
                (position.pidDiff.map fun diff => subtract pictureId diff.toNat) 0
                position.pidDiff.length []
              some (finder.handOff frame pictureId
                (if frame.interPicPredicted then references else []))

/-- The part of `ManageFrameVp9` for a frame with an index of its base layer frame, once a
scalability structure that it brings is saved. -/
def manageInGroup (frame : Vp9Frame) (pictureId : PictureId) (tl0 : Int) :
    Option (Vp9Finder × FrameDecision) :=
  if frame.keyFrame then
    if !frame.ssDataAvailable && frame.spatialIdx == 0 then some (finder, .drop)
    else
      match finder.gofInfo.find tl0 with
      | none => some (finder, .stash)
      | some info =>
          (finder.frameReceivedVp9 pictureId tl0 info).map fun finder =>
            finder.handOff frame pictureId []
  else if !frame.ssDataAvailable && frame.temporalIdx == 0 then
    match finder.gofInfo.find (tl0 - 1) with
    | none => some (finder, .stash)
    | some previous =>
        let info := (finder.gofInfo.find tl0).getD
          { slot := previous.slot, lastPictureId := pictureId }
        findReferences { finder with gofInfo := finder.gofInfo.emplace tl0 info } frame pictureId
          tl0 info
  else
    match finder.gofInfo.find tl0 with
    | none => some (finder, .stash)
    | some info => finder.findReferences frame pictureId tl0 info

/-- `ManageFrameVp9`. There is no result when a number has no place in one of the sets that are
ordered on the circle. -/
def manageFrameVp9 (frame : Vp9Frame) : Option (Vp9Finder × FrameDecision) :=
  if frame.pictureId = kNoPictureId ∨ frame.temporalIdx = kNoTemporalIdx then
    some (finder, .managePidOrSeqNum)
  else if frame.temporalIdx ≥ kMaxTemporalLayers ∨ frame.spatialIdx ≥ kMaxSpatialLayers then
    some (finder, .drop)
  else
    let pictureId := pictureIdOf frame.pictureId
    let finder := { finder with lastPictureId := finder.lastPictureId.or (some pictureId) }
    if frame.flexibleMode then
      if frame.pidDiff.length > kMaxFrameReferences then some (finder, .drop)
      else
        some (finder.handOff frame pictureId
          (frame.pidDiff.map fun diff => subtract pictureId diff.toNat))
    else if frame.tl0PicIdx = kNoTl0PicIdx then some (finder, .drop)
    else
      let unwrapped := finder.tl0Unwrapper.unwrap ⟨(frame.tl0PicIdx % 256).toNat, by omega⟩
      let finder := { finder with tl0Unwrapper := unwrapped.2 }
      match finder.receiveStructure frame pictureId unwrapped.1 with
      | none => some (finder, .drop)
      | some finder => finder.manageInGroup frame pictureId unwrapped.1

section Loop

variable {superseded : PictureId → Bool} {reference : PictureId}

/-- What is in place below the bound stays. -/
theorem mem_fillReferences_of_mem_take {rest references : List PictureId} {i k numReferences : Nat}
    (inPlace : reference ∈ references.take k) (below : k ≤ i) (within : k ≤ numReferences) :
    reference ∈ fillReferences superseded rest i numReferences references := by
  induction rest generalizing i numReferences references with
  | nil => exact List.take_subset_take_left references within inPlace
  | cons next rest ih =>
      unfold fillReferences
      split
      · refine ih ?_ (by omega) (by split <;> omega)
        rw [List.take_append]
        exact List.mem_append_left _ inPlace
      · exact List.take_subset_take_left references within inPlace

/-- References that are not superseded are put in their places one after the other. -/
theorem fillReferences_append {kept rest references : List PictureId} {i numReferences : Nat}
    (none : ∀ reference ∈ kept, superseded reference = false)
    (within : i + kept.length ≤ numReferences) :
    fillReferences superseded (kept ++ rest) i numReferences references =
      fillReferences superseded rest (i + kept.length) numReferences (references ++ kept) := by
  induction kept generalizing i references with
  | nil => simp
  | cons next kept ih =>
      obtain ⟨first, none⟩ := List.forall_mem_cons.mp none
      rw [List.length_cons] at within
      rw [List.cons_append, fillReferences, if_pos (by omega), first, if_neg Bool.false_ne_true,
        ih none (by omega), List.append_assoc, List.length_cons]
      congr 1
      omega

/-- The loop leaves out the superseded references exactly when none but the last is superseded. -/
theorem fillReferences_eq_filter_iff (superseded : PictureId → Bool) (references : List PictureId) :
    fillReferences superseded references 0 references.length [] =
        references.filter (fun reference => !superseded reference) ↔
      ∀ reference ∈ references.dropLast, superseded reference = false := by
  cases found : references.find? superseded with
  | none =>
      have none : ∀ reference ∈ references, superseded reference = false := fun reference member =>
        Bool.eq_false_iff.mpr (List.find?_eq_none.mp found reference member)
      refine iff_of_true ?_ fun reference member => none reference (List.dropLast_subset _ member)
      have filled : fillReferences superseded (references ++ []) 0 references.length [] =
          fillReferences superseded [] (0 + references.length) references.length
            ([] ++ references) := fillReferences_append none (Nat.zero_add _).le
      rw [List.append_nil, List.nil_append] at filled
      have all : ∀ reference ∈ references, (!superseded reference) = true := fun reference member =>
        by rw [none reference member, Bool.not_false]
      rw [filled, fillReferences, List.take_length, List.filter_eq_self.mpr all]
  | some first =>
      obtain ⟨isSuperseded, kept, rest, rfl, before⟩ := List.find?_eq_some_iff_append.mp found
      have none : ∀ reference ∈ kept, superseded reference = false := fun reference member => by
        simpa using before reference member
      have length : (kept ++ first :: rest).length = kept.length + (rest.length + 1) := by
        rw [List.length_append, List.length_cons]
      have filled : fillReferences superseded (kept ++ first :: rest) 0
          (kept ++ first :: rest).length [] = fillReferences superseded (first :: rest)
            (0 + kept.length) (kept ++ first :: rest).length ([] ++ kept) :=
        fillReferences_append none (by omega)
      rw [Nat.zero_add, List.nil_append, fillReferences, if_pos (by omega), isSuperseded,
        if_pos rfl] at filled
      rw [filled]
      cases rest with
      | nil =>
          refine iff_of_true ?_ ?_
          · have all : ∀ reference ∈ kept, (!superseded reference) = true := fun reference member =>
              by rw [none reference member, Bool.not_false]
            rw [fillReferences, List.filter_append, List.filter_cons_of_neg (by simp [isSuperseded]),
              List.filter_nil, List.append_nil, List.filter_eq_self.mpr all, length]
            exact List.take_left' rfl
          · rw [List.dropLast_concat]
            exact none
      | cons next rest =>
          refine iff_of_false (fun same => ?_) fun all => ?_
          · -- the superseded reference stays below the bound
            have inPlace : first ∈ (kept ++ [first]).take (kept.length + 1) := by
              rw [List.take_of_length_le (by simp)]
              simp
            have stays : first ∈ fillReferences superseded (next :: rest) (kept.length + 1)
                ((kept ++ first :: next :: rest).length - 1) (kept ++ [first]) :=
              mem_fillReferences_of_mem_take inPlace le_rfl (by rw [length, List.length_cons]; omega)
            rw [same] at stays
            have keeps := (List.mem_filter.mp stays).2
            rw [isSuperseded] at keeps
            cases keeps
          · have early : first ∈ (kept ++ first :: next :: rest).dropLast := by
              rw [List.dropLast_append_of_ne_nil (List.cons_ne_nil _ _), List.dropLast_cons_cons]
              exact List.mem_append_cons_self
            rw [all first early] at isSuperseded
            cases isSuperseded

end Loop

section Unwrapping

theorem subtract_val (pictureId : PictureId) (diff : Nat) :
    ((subtract pictureId diff).val : Int) = ((pictureId.val : Int) - diff) % 32768 := by
  have below := pictureId.isLt
  unfold subtract
  dsimp only [kPicIdLength] at below ⊢
  omega

/-- Once the place of a picture is fixed, the pictures that are at most 255 back are put there. -/
theorem unwrapAll_near (diffs : List UInt8) (unwrapper : CircleUnwrapper kPicIdLength)
    (pictureId : PictureId) (place : Int) {last : PictureId}
    (known : unwrapper.lastValue = some last) (means : place % 32768 = pictureId.val)
    (near : place - 255 ≤ unwrapper.lastUnwrapped ∧ unwrapper.lastUnwrapped ≤ place) :
    let unwrapped := unwrapAll unwrapper (diffs.map fun diff => subtract pictureId diff.toNat)
    unwrapped.1 = diffs.map (fun diff => place - diff.toNat) ∧
      (unwrapped.2.unwrap pictureId).1 = place := by
  induction diffs generalizing unwrapper last with
  | nil => exact ⟨rfl, CircleUnwrapper.unwrapped_near known (by omega) means⟩
  | cons diff diffs ih =>
      have small := diff.toNat_lt
      have value := subtract_val pictureId diff.toNat
      have first : unwrapper.unwrapped (subtract pictureId diff.toNat) = place - diff.toNat :=
        CircleUnwrapper.unwrapped_near known (by omega) (by omega)
      have placed : place - 255 ≤ unwrapper.unwrapped (subtract pictureId diff.toNat) ∧
          unwrapper.unwrapped (subtract pictureId diff.toNat) ≤ place := by omega
      have rest := ih (unwrapper.unwrap (subtract pictureId diff.toNat)).2 rfl placed
      exact ⟨congrArg₂ _ first rest.1, rest.2⟩

/-- The references are unwrapped to where the frame is, less the differences. -/
theorem unwrapAll_eq (unwrapper : CircleUnwrapper kPicIdLength) (diffs : List UInt8)
    (pictureId : PictureId) :
    let unwrapped := unwrapAll unwrapper (diffs.map fun diff => subtract pictureId diff.toNat)
    unwrapped.1 = diffs.map fun diff => (unwrapped.2.unwrap pictureId).1 - diff.toNat := by
  cases diffs with
  | nil => rfl
  | cons diff diffs =>
      have small := diff.toNat_lt
      have below : pictureId.val < 32768 := pictureId.isLt
      have value := subtract_val pictureId diff.toNat
      have whole : unwrapper.unwrapped (subtract pictureId diff.toNat) % 32768 =
          (subtract pictureId diff.toNat).val := unwrapper.unwrapped_emod _
      have placed : unwrapper.unwrapped (subtract pictureId diff.toNat) + diff.toNat - 255 ≤
            unwrapper.unwrapped (subtract pictureId diff.toNat) ∧
          unwrapper.unwrapped (subtract pictureId diff.toNat) ≤
            unwrapper.unwrapped (subtract pictureId diff.toNat) + diff.toNat := by omega
      obtain ⟨rest, last⟩ := unwrapAll_near diffs
        (unwrapper.unwrap (subtract pictureId diff.toNat)).2 pictureId
        (unwrapper.unwrapped (subtract pictureId diff.toNat) + diff.toNat) rfl (by omega) placed
      dsimp only
      rw [List.map_cons, unwrapAll, List.map_cons]
      dsimp only
      rw [last, rest]
      congr 1
      show unwrapper.unwrapped _ = _
      omega

/-- Unwrapping loses nothing. -/
theorem unwrapAll_pictureIdOf (unwrapper : CircleUnwrapper kPicIdLength)
    (references : List PictureId) :
    (unwrapAll unwrapper references).1.map pictureIdOf = references := by
  induction references generalizing unwrapper with
  | nil => rfl
  | cons reference references ih =>
      have whole : unwrapper.unwrapped reference % 32768 = reference.val :=
        unwrapper.unwrapped_emod reference
      refine congrArg₂ _ (Fin.ext ?_) (ih _)
      show (unwrapper.unwrapped reference % 32768).toNat = reference.val
      omega

theorem pictureIdOf_sub {place : Int} {pictureId : PictureId}
    (means : place % 32768 = pictureId.val) (diff : Nat) :
    pictureIdOf (place - diff) = subtract pictureId diff := by
  have value := subtract_val pictureId diff
  refine Fin.ext ?_
  show ((place - diff) % 32768).toNat = (subtract pictureId diff).val
  omega

end Unwrapping

variable (upSwitch : CircularMap kPicIdLength Nat)

/-- A recorded frame of a lower layer at which the stream could be switched up is strictly between
the picture and the one that is `diff` before. -/
def Superseded (pictureId : PictureId) (temporalIdx : Nat) (diff : UInt8) : Prop :=
  ∃ entry ∈ upSwitch.entries, entry.2 < temporalIdx ∧
    Between (subtract pictureId diff.toNat) entry.1 pictureId

instance (upSwitch : CircularMap kPicIdLength Nat) (pictureId : PictureId) (temporalIdx : Nat)
    (diff : UInt8) : Decidable (Superseded upSwitch pictureId temporalIdx diff) :=
  inferInstanceAs (Decidable (∃ entry ∈ upSwitch.entries, _))

/-- The group of pictures that a frame with this index of its base layer frame belongs to. A base
layer frame without a structure joins the group of the one before. -/
def groupAt (finder : Vp9Finder) (frame : Vp9Frame) (tl0 : Int) : Option GofInfoVp9 :=
  ((finder.gofInfo.find tl0).or
      (if !frame.ssDataAvailable && frame.temporalIdx == 0 then finder.gofInfo.find (tl0 - 1)
        else none)).map fun info => finder.scalabilityStructures info.slot

/-- The group of pictures that a frame belongs to, with the structure that it brings. -/
def groupOf (finder : Vp9Finder) (frame : Vp9Frame) : Option GofInfoVp9 :=
  let tl0 := (finder.tl0Unwrapper.unwrap ⟨(frame.tl0PicIdx % 256).toNat, by omega⟩).1
  (finder.receiveStructure frame (pictureIdOf frame.pictureId) tl0).bind fun received =>
    received.groupAt frame tl0

/-- What is not superseded of the references that the position of a frame in its group names. -/
def keptDiffs (gof : GofInfoVp9) (frame : Vp9Frame) : List UInt8 :=
  let pictureId := pictureIdOf frame.pictureId
  (gof.frameAt (gof.gofIdx pictureId)).pidDiff.filter fun diff =>
    decide (¬ Superseded upSwitch pictureId frame.temporalIdx diff)

/-- The frame refers to what its position in the group names, less what is superseded, and to each
frame once. -/
def FollowsGroup (finder : Vp9Finder) (gof : GofInfoVp9) (frame : Vp9Frame)
    (handed : ReferencingFrame) : Prop :=
  handed.references = (keptDiffs finder.upSwitch gof frame).map (fun diff =>
      handed.pictureId - diff.toNat) ∧
    handed.references.Nodup

instance (finder : Vp9Finder) (gof : GofInfoVp9) (frame : Vp9Frame) (handed : ReferencingFrame) :
    Decidable (finder.FollowsGroup gof frame handed) :=
  inferInstanceAs (Decidable (_ = _ ∧ List.Nodup _))

/-- Of what the position names, at most the last one is superseded by what is recorded and not too
old. -/
def OnlyLastSuperseded (finder : Vp9Finder) (gof : GofInfoVp9) (frame : Vp9Frame) : Prop :=
  let pictureId := pictureIdOf frame.pictureId
  ∀ diff ∈ (gof.frameAt (gof.gofIdx pictureId)).pidDiff.dropLast,
    ¬ Superseded (finder.upSwitch.eraseBehind (subtract pictureId 50)) pictureId frame.temporalIdx
      diff

/-- No reference that the position names is named twice, unless it is superseded. -/
def NamedOnce (finder : Vp9Finder) (gof : GofInfoVp9) (frame : Vp9Frame) : Prop :=
  (keptDiffs (finder.upSwitch.eraseBehind (subtract (pictureIdOf frame.pictureId) 50)) gof
    frame).Nodup

instance (finder : Vp9Finder) (gof : GofInfoVp9) (frame : Vp9Frame) :
    Decidable (finder.OnlyLastSuperseded gof frame ∧ finder.NamedOnce gof frame) :=
  inferInstanceAs (Decidable ((∀ diff ∈ _, ¬ Superseded _ _ _ diff) ∧ List.Nodup _))

section References

variable {finder next : Vp9Finder} {frame : Vp9Frame} {handed : ReferencingFrame}
  {pictureId : PictureId} {tl0 : Int} {info : GofInfo}

/-- The walk through the recorded frames finds those in between. -/
theorem upSwitchInIntervalVp9_iff (temporalIdx : Nat) (diff : UInt8) :
    finder.upSwitchInIntervalVp9 pictureId temporalIdx (subtract pictureId diff.toNat) ↔
      Superseded finder.upSwitch pictureId temporalIdx diff := by
  have small := diff.toNat_lt
  have steps : forwardDiff (subtract pictureId diff.toNat) pictureId = diff.toNat :=
    forwardDiff_subtract pictureId (by unfold kPicIdLength; omega)
  unfold upSwitchInIntervalVp9 Superseded
  rw [List.any_eq_true]
  simp only [decide_eq_true_iff]
  refine exists_congr fun entry => ?_
  rw [CircularMap.mem_walk_iff rfl (by rw [steps]; unfold kPicIdLength; omega)]
  tauto

/-- The references that the loop leaves are those that are not superseded exactly when only the
last one is. -/
theorem references_iff (unwrapper : CircleUnwrapper kPicIdLength) (temporalIdx : Nat)
    (diffs : List UInt8) :
    let unwrapped := unwrapAll unwrapper
      (fillReferences (finder.upSwitchInIntervalVp9 pictureId temporalIdx)
        (diffs.map fun diff => subtract pictureId diff.toNat) 0 diffs.length [])
    unwrapped.1 = (diffs.filter fun diff =>
        decide (¬ Superseded finder.upSwitch pictureId temporalIdx diff)).map
          (fun diff => (unwrapped.2.unwrap pictureId).1 - diff.toNat) ↔
      ∀ diff ∈ diffs.dropLast, ¬ Superseded finder.upSwitch pictureId temporalIdx diff := by
  have filtered : (diffs.map fun diff => subtract pictureId diff.toNat).filter
        (fun reference => !finder.upSwitchInIntervalVp9 pictureId temporalIdx reference) =
      (diffs.filter fun diff => decide (¬ Superseded finder.upSwitch pictureId temporalIdx diff)).map
        fun diff => subtract pictureId diff.toNat := by
    rw [List.filter_map]
    congr 1
    refine List.filter_congr fun diff _ => ?_
    rw [Function.comp_apply, decide_not]
    congr 1
    rw [← Bool.decide_coe (finder.upSwitchInIntervalVp9 pictureId temporalIdx _)]
    exact decide_eq_decide.mpr (upSwitchInIntervalVp9_iff temporalIdx diff)
  have loop := fillReferences_eq_filter_iff (finder.upSwitchInIntervalVp9 pictureId temporalIdx)
    (diffs.map fun diff => subtract pictureId diff.toNat)
  rw [List.length_map, filtered, ← List.map_dropLast] at loop
  intro unwrapped
  have last : (∀ reference ∈ diffs.dropLast.map fun diff => subtract pictureId diff.toNat,
      finder.upSwitchInIntervalVp9 pictureId temporalIdx reference = false) ↔
      ∀ diff ∈ diffs.dropLast, ¬ Superseded finder.upSwitch pictureId temporalIdx diff := by
    rw [List.forall_mem_map]
    refine forall₂_congr fun diff _ => ?_
    rw [← upSwitchInIntervalVp9_iff, Bool.not_eq_true]
  rw [← last, ← loop]
  constructor
  · intro same
    have place : (unwrapped.2.unwrap pictureId).1 % 32768 = pictureId.val :=
      unwrapped.2.unwrapped_emod pictureId
    have wrapped := congrArg (List.map pictureIdOf) same
    rw [unwrapAll_pictureIdOf, List.map_map] at wrapped
    rw [wrapped]
    exact List.map_congr_left fun diff _ => pictureIdOf_sub place diff.toNat
  · intro same
    have equal : unwrapped = unwrapAll unwrapper ((diffs.filter fun diff =>
        decide (¬ Superseded finder.upSwitch pictureId temporalIdx diff)).map fun diff =>
          subtract pictureId diff.toNat) := congrArg (unwrapAll unwrapper) same
    rw [equal]
    exact unwrapAll_eq unwrapper _ pictureId

/-- What `FrameReceivedVp9` leaves alone. -/
theorem frameReceivedVp9_keeps (received : finder.frameReceivedVp9 pictureId tl0 info = some next) :
    next.scalabilityStructures = finder.scalabilityStructures ∧
      next.upSwitch = finder.upSwitch := by
  unfold frameReceivedVp9 at received
  dsimp only at received
  split at received
  · obtain ⟨missed, -, rfl⟩ := Option.map_eq_some_iff.mp received
    exact ⟨rfl, rfl⟩
  · split at received
    · obtain rfl := Option.some_inj.mp received
      exact ⟨rfl, rfl⟩
    · obtain rfl := Option.some_inj.mp received
      exact ⟨rfl, rfl⟩

/-- That the frame itself is recorded changes nothing for its references. -/
theorem superseded_emplace {upSwitch recorded : CircularMap kPicIdLength Nat} {layer : Nat}
    (placed : upSwitch.emplace pictureId layer = some recorded) (old : PictureId)
    (temporalIdx : Nat) (diff : UInt8) :
    Superseded (recorded.eraseBehind old) pictureId temporalIdx diff ↔
      Superseded (upSwitch.eraseBehind old) pictureId temporalIdx diff := by
  have small := diff.toNat_lt
  have steps : forwardDiff (subtract pictureId diff.toNat) pictureId = diff.toNat :=
    forwardDiff_subtract pictureId (by unfold kPicIdLength; omega)
  have short : forwardDiff (subtract pictureId diff.toNat) pictureId < kPicIdLength / 2 := by
    rw [steps]
    unfold kPicIdLength
    omega
  refine exists_congr fun entry => ?_
  constructor
  · rintro ⟨member, lower, between⟩
    have behind := (aheadOf_of_between short between).2
    exact ⟨(CircularMap.mem_eraseBehind_emplace rfl placed behind).mp member, lower, between⟩
  · rintro ⟨member, lower, between⟩
    have behind := (aheadOf_of_between short between).2
    exact ⟨(CircularMap.mem_eraseBehind_emplace rfl placed behind).mpr member, lower, between⟩

/-- Different entries of the position name different frames. -/
theorem nodup_references_iff (pictureId : Int) (diffs : List UInt8) :
    (diffs.map fun diff => pictureId - diff.toNat).Nodup ↔ diffs.Nodup := by
  refine List.nodup_map_iff fun first second same => ?_
  apply UInt8.toNat_inj.mp
  have equal : pictureId - first.toNat = pictureId - second.toNat := same
  omega

/-- The references of a frame whose group is known. -/
theorem findReferences_followsGroup (predicted : frame.interPicPredicted = true)
    (found : finder.findReferences frame (pictureIdOf frame.pictureId) tl0 info =
      some (next, .handOff handed)) :
    next.FollowsGroup (finder.scalabilityStructures info.slot) frame handed ↔
      finder.OnlyLastSuperseded (finder.scalabilityStructures info.slot) frame ∧
        finder.NamedOnce (finder.scalabilityStructures info.slot) frame := by
  unfold findReferences at found
  dsimp only at found
  split at found
  · cases found
  · rename_i received isReceived
    obtain ⟨structures, upSwitches⟩ := frameReceivedVp9_keeps isReceived
    dsimp only at structures upSwitches
    split at found
    · cases Option.some_inj.mp found
    · split at found
      · cases found
      · rename_i upSwitch isRecorded
        -- what supersedes a reference was recorded before
        have before : ∀ diff,
            Superseded (upSwitch.eraseBehind (subtract (pictureIdOf frame.pictureId) 50))
              (pictureIdOf frame.pictureId) frame.temporalIdx diff ↔
            Superseded (finder.upSwitch.eraseBehind
                (subtract (pictureIdOf frame.pictureId) 50))
              (pictureIdOf frame.pictureId) frame.temporalIdx diff := by
          intro diff
          rw [upSwitches] at isRecorded
          split at isRecorded
          · exact superseded_emplace isRecorded _ _ diff
          · rw [Option.some_inj.mp isRecorded]
        generalize isCleared : ({ received with
            upSwitch := upSwitch.eraseBehind
              (subtract (pictureIdOf frame.pictureId) 50) } : Vp9Finder) = cleared at found
        split at found
        · cases Option.some_inj.mp found
        · rw [structures] at found
          obtain ⟨rfl, handedOff⟩ := Prod.mk.inj (Option.some_inj.mp found)
          obtain rfl := FrameDecision.handOff.inj handedOff
          have follows := @references_iff cleared (pictureIdOf frame.pictureId)
            cleared.unwrapper frame.temporalIdx
            ((finder.scalabilityStructures info.slot).frameAt
              ((finder.scalabilityStructures info.slot).gofIdx
                (pictureIdOf frame.pictureId))).pidDiff
          have erased : cleared.upSwitch =
              upSwitch.eraseBehind (subtract (pictureIdOf frame.pictureId) 50) := by
            rw [← isCleared]
          have kept : keptDiffs cleared.upSwitch (finder.scalabilityStructures info.slot)
              frame = keptDiffs (finder.upSwitch.eraseBehind
                (subtract (pictureIdOf frame.pictureId) 50))
                  (finder.scalabilityStructures info.slot) frame := by
            rw [erased]
            exact List.filter_congr fun diff _ => decide_eq_decide.mpr (not_congr (before diff))
          refine Iff.trans (and_congr_right fun same => ?_) (and_congr_left' (follows.trans ?_))
          · rw [same]
            unfold NamedOnce
            rw [← kept]
            exact nodup_references_iff _ _
          · rw [erased]
            exact forall₂_congr fun diff _ => not_congr (before diff)

theorem receiveStructure_keeps
    (received : finder.receiveStructure frame pictureId tl0 = some next) :
    next.upSwitch = finder.upSwitch := by
  unfold receiveStructure at received
  split at received
  · rw [← Option.some_inj.mp received]
  · split at received
    · cases received
    · rw [← Option.some_inj.mp received]

/-- What else is kept does not matter for the structures. -/
theorem receiveStructure_congr (lastPictureId : Option PictureId)
    (tl0Unwrapper : CircleUnwrapper 256) :
    ({ finder with
        lastPictureId := lastPictureId
        tl0Unwrapper := tl0Unwrapper } : Vp9Finder).receiveStructure frame pictureId tl0 =
      (finder.receiveStructure frame pictureId tl0).map fun received =>
        { received with
          lastPictureId := lastPictureId
          tl0Unwrapper := tl0Unwrapper } := by
  unfold receiveStructure
  split
  · rfl
  · split
    · rfl
    · rfl

/-- The references of a frame with an index of its base layer frame. -/
theorem manageInGroup_followsGroup (delta : frame.keyFrame = false)
    (predicted : frame.interPicPredicted = true)
    (managed : finder.manageInGroup frame (pictureIdOf frame.pictureId) tl0 =
      some (next, .handOff handed)) :
    ∃ gof, finder.groupAt frame tl0 = some gof ∧
      (next.FollowsGroup gof frame handed ↔
        finder.OnlyLastSuperseded gof frame ∧ finder.NamedOnce gof frame) := by
  unfold manageInGroup at managed
  rw [delta, if_neg Bool.false_ne_true] at managed
  unfold groupAt
  split at managed
  · rename_i joins
    rw [if_pos joins]
    split at managed
    · cases Option.some_inj.mp managed
    · rename_i previous isPrevious
      have follows := findReferences_followsGroup predicted managed
      refine ⟨_, ?_, follows⟩
      rw [isPrevious]
      cases finder.gofInfo.find tl0 with
      | none => rfl
      | some info => rfl
  · rename_i stays
    split at managed
    · cases Option.some_inj.mp managed
    · rename_i info known
      refine ⟨_, ?_, findReferences_followsGroup predicted managed⟩
      rw [known]
      rfl

end References

/-- **VP9 frames refer to what their group names, less what is superseded,** exactly when at most
the last of the references that the position names is superseded and none of the others is named
twice. -/
theorem manageFrameVp9_references_iff {finder next : Vp9Finder} {frame : Vp9Frame}
    {handed : ReferencingFrame} (nonFlexible : frame.flexibleMode = false)
    (delta : frame.keyFrame = false) (predicted : frame.interPicPredicted = true)
    (managed : finder.manageFrameVp9 frame = some (next, .handOff handed)) :
    ∃ gof, finder.groupOf frame = some gof ∧
      (next.FollowsGroup gof frame handed ↔
        finder.OnlyLastSuperseded gof frame ∧ finder.NamedOnce gof frame) := by
  unfold manageFrameVp9 at managed
  split at managed
  · cases Option.some_inj.mp managed
  · split at managed
    · cases Option.some_inj.mp managed
    · dsimp only at managed
      rw [nonFlexible, if_neg Bool.false_ne_true] at managed
      split at managed
      · cases Option.some_inj.mp managed
      · split at managed
        · cases Option.some_inj.mp managed
        · rename_i received isReceived
          rw [receiveStructure_congr] at isReceived
          obtain ⟨plain, isPlain, rfl⟩ := Option.map_eq_some_iff.mp isReceived
          obtain ⟨gof, group, follows⟩ := manageInGroup_followsGroup delta predicted managed
          refine ⟨gof, ?_, follows.trans ?_⟩
          · unfold groupOf
            dsimp only
            rw [isPlain]
            exact group
          · unfold OnlyLastSuperseded NamedOnce
            dsimp only
            rw [receiveStructure_keeps isPlain]

end Vp9Finder

variable (pidDiff : List UInt8)

/-- A group of four pictures with three layers; the last one refers to the two before it. -/
def fourPictures : List GofFrame :=
  [{ temporalIdx := 0, pidDiff := [4] }, { temporalIdx := 2, pidDiff := [1] },
    { temporalIdx := 1, pidDiff := [2] }, { temporalIdx := 2, pidDiff := pidDiff }]

/-- A key frame with its group, a frame of the highest layer, and one of the layer between at which
the stream can be switched up. -/
def switchedUp : List Vp9Frame :=
  [{ keyFrame := true, pictureId := 0, temporalIdx := 0, tl0PicIdx := 0, ssDataAvailable := true,
     gof := fourPictures pidDiff },
    { pictureId := 1, temporalIdx := 2, tl0PicIdx := 0 },
    { pictureId := 2, temporalIdx := 1, tl0PicIdx := 0, temporalUpSwitch := true }]

/-- The next frame of the highest layer. -/
def afterSwitch : Vp9Frame := { pictureId := 3, temporalIdx := 2, tl0PicIdx := 0 }

/-- The finder after frames that are all managed. -/
def Vp9Finder.afterFrames (frames : List Vp9Frame) : Vp9Finder :=
  frames.foldl (fun finder frame => ((finder.manageFrameVp9 frame).map Prod.fst).getD finder) {}

/-- Where the superseded reference comes last, only the other one is left. -/
theorem last_reference_ignored :
    ∃ (next : Vp9Finder) (gof : GofInfoVp9) (handed : ReferencingFrame),
      (Vp9Finder.afterFrames (switchedUp [1, 2])).groupOf afterSwitch = some gof ∧
      handed.references = [2] ∧ next.FollowsGroup gof afterSwitch handed := by
  obtain ⟨gof, group, follows⟩ := @Vp9Finder.manageFrameVp9_references_iff
    (Vp9Finder.afterFrames (switchedUp [1, 2])) _ afterSwitch _ rfl rfl rfl rfl
  have gofIs : gof = { frames := fourPictures [1, 2], pidStart := 0 } :=
    (Option.some_inj.mp group).symm
  refine ⟨_, gof, _, group, ?_, follows.mpr ?_⟩
  · decide +kernel
  · rw [gofIs]
    decide +kernel

/-- Of the references 1 and 2, the frame keeps the one before the switch. -/
theorem superseded_reference_survives :
    ∃ (next : Vp9Finder) (gof : GofInfoVp9) (handed : ReferencingFrame),
      (Vp9Finder.afterFrames (switchedUp [2, 1])).manageFrameVp9 afterSwitch =
        some (next, .handOff handed) ∧
      (Vp9Finder.afterFrames (switchedUp [2, 1])).groupOf afterSwitch = some gof ∧
      handed.references = [1] ∧ ¬ next.FollowsGroup gof afterSwitch handed := by
  refine ⟨_, _, _, rfl, rfl, by decide +kernel, by decide +kernel⟩

end MpWebRtc
