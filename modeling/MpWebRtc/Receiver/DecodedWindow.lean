import Mathlib.Data.List.Induction
import Mathlib.Tactic.SplitIfs
import MpWebRtc.Math.CyclicWindow
import MpWebRtc.Math.Run
import MpWebRtc.Receiver.DecodedFrames

/-!
# The window of the decoded frames

`DecodedFramesHistory` with any window size that is an `int`. A layer has a bit for each place of a cycle of that
size; when its last id moves on, the bits of the ids that were skipped are cleared. So the bits of
the window behind the last id are those of the frames that were inserted, as long as the
differences of the ids are signed numbers of 64 bits.
-/

namespace MpWebRtc

open Math

/-- A difference of signed numbers of 64 bits; none where it overflows. -/
def signedSub (left right : Int) : Option Int :=
  if -2 ^ 63 ≤ left - right ∧ left - right < 2 ^ 63 then some (left - right) else none

/-- `PictureIdToIndex`. -/
def pictureIdToIndexIn (windowSize : Nat) (frameId : Int) : Nat :=
  let m := frameId.tmod windowSize
  (if m ≥ 0 then m else m + windowSize).toNat

namespace LayerHistory

variable (windowSize : Nat)

/-- The buffer when the last id moves on by `idJump`. -/
def clearSkipped (buffer : List Bool) (last pictureId idJump : Int) : List Bool :=
  let lastIndex := pictureIdToIndexIn windowSize last
  let newIndex := pictureIdToIndexIn windowSize pictureId
  if (windowSize : Int) ≤ idJump then fillFalse buffer 0 buffer.length
  else if lastIndex < newIndex then fillFalse buffer (lastIndex + 1) newIndex
  else fillFalse (fillFalse buffer (lastIndex + 1) buffer.length) 0 newIndex

/-- The buffer without the values that expire; none where the jump overflows. -/
def expiredIn (history : LayerHistory) (pictureId : Int) : Option (List Bool) :=
  match history.lastPictureId with
  | none => some history.buffer
  | some last =>
      (signedSub pictureId last).map fun idJump =>
        clearSkipped windowSize history.buffer last pictureId idJump

/-- The part of `InsertDecoded` about one layer; none also where the assertion fails. -/
def insertDecodedIn (history : LayerHistory) (pictureId : Int) : Option LayerHistory :=
  if history.lastPictureId.any fun last => decide (pictureId ≤ last) then none
  else
    (history.expiredIn windowSize pictureId).map fun buffer =>
      { buffer := buffer.set (pictureIdToIndexIn windowSize pictureId) true
        lastPictureId := some pictureId }

end LayerHistory

namespace DecodedFramesHistory

/-- `InsertDecoded`. -/
def insertDecodedIn (windowSize : Nat) (history : DecodedFramesHistory)
    (frameId : VideoLayerFrameId) (timestamp : UInt32) : Option DecodedFramesHistory :=
  let lastDecoded := some (frameId, timestamp)
  if history.layers.length < frameId.spatialLayer + 1 then
    let layers := history.layers ++
      List.replicate (frameId.spatialLayer + 1 - history.layers.length)
        { buffer := List.replicate windowSize false }
    some
      { layers := layers.modify frameId.spatialLayer fun layer =>
          { buffer := layer.buffer.set (pictureIdToIndexIn windowSize frameId.pictureId) true
            lastPictureId := some frameId.pictureId }
        lastDecoded := lastDecoded }
  else
    match history.layers[frameId.spatialLayer]? with
    | none => none
    | some layer =>
        (layer.insertDecodedIn windowSize frameId.pictureId).map fun layer =>
          { layers := history.layers.set frameId.spatialLayer layer
            lastDecoded := lastDecoded }

/-- `WasDecoded`; none where the difference overflows. -/
def wasDecodedIn (windowSize : Nat) (history : DecodedFramesHistory)
    (frameId : VideoLayerFrameId) : Option Bool :=
  match history.layers[frameId.spatialLayer]? with
  | none => some false
  | some layer =>
      match layer.lastPictureId with
      | none => some false
      | some last =>
          (signedSub last windowSize).map fun oldest =>
            if frameId.pictureId ≤ oldest then false
            else if last < frameId.pictureId then false
            else layer.buffer.getD (pictureIdToIndexIn windowSize frameId.pictureId) false

end DecodedFramesHistory

/-- The calls that change a history. -/
inductive DecodedCall
  | insertDecoded (frameId : VideoLayerFrameId) (timestamp : UInt32)
  | clear

namespace DecodedFramesHistory

variable (windowSize : Nat)

/-- `window_size_`: the `size_t` of the constructor as an `int`; 0 where that is not positive. -/
def window : Nat := ((windowSize : Int).bmod (2 ^ 32)).toNat

/-- One call. Where `window_size_` is not positive no buffer has a place for the id. -/
def call (history : DecodedFramesHistory) : DecodedCall → Option DecodedFramesHistory
  | .insertDecoded frameId timestamp =>
      if window windowSize = 0 then none
      else history.insertDecodedIn (window windowSize) frameId timestamp
  | .clear => some {}

/-- A history with the given window size after the calls. -/
def afterDecodedCalls (calls : List DecodedCall) : Option DecodedFramesHistory :=
  calls.foldlM (call windowSize) {}

/-- The ids that are inserted on a layer by one more call. -/
def insertedBy (layer : Nat) (ids : List Int) : DecodedCall → List Int
  | .insertDecoded frameId _ =>
      if frameId.spatialLayer = layer then ids ++ [frameId.pictureId] else ids
  | .clear => []

/-- The ids that have been inserted on a layer since the last `Clear`. -/
def inserted (layer : Nat) (calls : List DecodedCall) : List Int :=
  calls.foldl (insertedBy layer) []

end DecodedFramesHistory

section Layer

variable {windowSize : Nat} {history : LayerHistory} {ids : List Int} {pictureId last : Int}

theorem pictureIdToIndexIn_eq (positive : 0 < windowSize) (frameId : Int) :
    (pictureIdToIndexIn windowSize frameId : Int) = frameId % windowSize := by
  have low : 0 ≤ frameId % windowSize := Int.emod_nonneg _ (by omega)
  have high : frameId % windowSize < windowSize := Int.emod_lt_of_pos _ (by omega)
  unfold pictureIdToIndexIn
  dsimp only
  rw [Int.tmod_eq_emod]
  split_ifs <;> omega

theorem pictureIdToIndexIn_lt (positive : 0 < windowSize) (frameId : Int) :
    pictureIdToIndexIn windowSize frameId < windowSize := by
  have high : frameId % windowSize < windowSize := Int.emod_lt_of_pos _ (by omega)
  have same := pictureIdToIndexIn_eq positive frameId
  omega

theorem pictureIdToIndexIn_ne (positive : 0 < windowSize) {frameId other : Int}
    (behind : other < frameId) (near : frameId - other < windowSize) :
    pictureIdToIndexIn windowSize frameId ≠ pictureIdToIndexIn windowSize other := by
  intro same
  have apart : frameId % (windowSize : Int) ≠ other % windowSize :=
    emod_ne_of_near (by omega) behind near
  rw [← pictureIdToIndexIn_eq positive, ← pictureIdToIndexIn_eq positive, same] at apart
  exact apart rfl

theorem signedSub_of_fits {left right : Int} (ahead : right ≤ left)
    (fits : left - right < 2 ^ 63) : signedSub left right = some (left - right) :=
  if_pos ⟨by omega, fits⟩

namespace LayerHistory

/-- The bits of the window are those of the ids that have been inserted. -/
structure Exact (windowSize : Nat) (history : LayerHistory) (ids : List Int) : Prop where
  size : history.buffer.length = windowSize
  last : history.lastPictureId = ids.getLast?
  newest : ∀ last ∈ ids.getLast?, ∀ id ∈ ids, id ≤ last
  fresh : ids = [] → history.buffer = List.replicate windowSize false
  bits : ∀ last ∈ ids.getLast?, ∀ pictureId, last - windowSize < pictureId → pictureId ≤ last →
    (history.buffer.getD (pictureIdToIndexIn windowSize pictureId) false = true ↔ pictureId ∈ ids)

theorem exact_new (windowSize : Nat) :
    Exact windowSize { buffer := List.replicate windowSize false } [] where
  size := List.length_replicate
  last := rfl
  newest _ known := nomatch known
  fresh _ := rfl
  bits _ known := nomatch known

/-- What is left in the buffer are the bits of the ids behind the new one. -/
structure Cleared (windowSize : Nat) (buffer : List Bool) (ids : List Int) (pictureId : Int) :
    Prop where
  size : buffer.length = windowSize
  bits : ∀ other, pictureId - windowSize < other → other < pictureId →
    (buffer.getD (pictureIdToIndexIn windowSize other) false = true ↔ other ∈ ids)

/-- Nothing expires in a new layer. -/
theorem cleared_new (windowSize : Nat) (pictureId : Int) :
    Cleared windowSize (List.replicate windowSize false) [] pictureId where
  size := List.length_replicate
  bits other _ _ := by
    rw [List.getD_eq_getElem?_getD, List.getElem?_replicate]
    split <;> simp

/-- The bit of the new id is set in the buffer that has been cleared. -/
theorem Cleared.set {buffer : List Bool} (positive : 0 < windowSize)
    (cleared : Cleared windowSize buffer ids pictureId) (newest : ∀ id ∈ ids, id < pictureId) :
    Exact windowSize
      { buffer := buffer.set (pictureIdToIndexIn windowSize pictureId) true
        lastPictureId := some pictureId } (ids ++ [pictureId]) where
  size := by rw [List.length_set, cleared.size]
  last := List.getLast?_concat.symm
  newest last isLast id member := by
    rw [List.getLast?_concat] at isLast
    obtain rfl := Option.some_inj.mp isLast
    rcases List.mem_append.mp member with old | new
    · exact (newest id old).le
    · exact (List.mem_singleton.mp new).le
  fresh nothing := absurd nothing (by simp)
  bits last isLast other inside below := by
    rw [List.getLast?_concat] at isLast
    obtain rfl := Option.some_inj.mp isLast
    have index : pictureIdToIndexIn windowSize pictureId < buffer.length := by
      rw [cleared.size]
      exact pictureIdToIndexIn_lt positive pictureId
    by_cases same : other = pictureId
    · rw [same, List.getD_eq_getElem?_getD, List.getElem?_set_self index]
      simp
    · have earlier : other < pictureId := by omega
      have apart : pictureIdToIndexIn windowSize pictureId ≠ pictureIdToIndexIn windowSize other :=
        pictureIdToIndexIn_ne positive earlier (by omega)
      rw [List.getD_eq_getElem?_getD, List.getElem?_set_ne apart, ← List.getD_eq_getElem?_getD,
        cleared.bits other inside earlier, List.mem_append, List.mem_singleton, or_iff_left same]

theorem length_clearSkipped (buffer : List Bool) (last pictureId idJump : Int) :
    (clearSkipped windowSize buffer last pictureId idJump).length = buffer.length := by
  unfold clearSkipped
  dsimp only
  split_ifs <;> simp

variable (positive : 0 < windowSize)
include positive

/-- Of the window in front of the new id, the bits behind the last one are cleared. -/
theorem getD_clearSkipped {buffer : List Bool} {other : Int}
    (size : buffer.length = windowSize) (ahead : last < pictureId)
    (inside : pictureId - windowSize < other) (below : other < pictureId) :
    (clearSkipped windowSize buffer last pictureId (pictureId - last)).getD
        (pictureIdToIndexIn windowSize other) false =
      (buffer.getD (pictureIdToIndexIn windowSize other) false && decide (other ≤ last)) := by
  have index : pictureIdToIndexIn windowSize other < windowSize :=
    pictureIdToIndexIn_lt positive other
  have otherPlace := pictureIdToIndexIn_eq positive other
  have lastPlace := pictureIdToIndexIn_eq positive last
  have newPlace := pictureIdToIndexIn_eq positive pictureId
  unfold clearSkipped
  dsimp only
  by_cases far : (windowSize : Int) ≤ pictureId - last
  · have new : ¬ other ≤ last := by omega
    rw [if_pos far, getD_fillFalse, size]
    simp [index, new]
  · have passed := passedPlaces_iff ahead (Int.not_le.mp far) inside below
    unfold PassedPlaces at passed
    rw [if_neg far]
    by_cases order : pictureIdToIndexIn windowSize last < pictureIdToIndexIn windowSize pictureId
    · rw [if_pos order, getD_fillFalse]
      rw [if_pos (by omega)] at passed
      congr 1
      rw [Bool.eq_iff_iff]
      simp
      omega
    · rw [if_neg order, getD_fillFalse, getD_fillFalse, size, Bool.and_assoc]
      rw [if_neg (by omega)] at passed
      congr 1
      rw [Bool.eq_iff_iff]
      simp
      omega

/-- The bits of the ids that are skipped are cleared, and no others of the new window. -/
theorem Exact.expiredIn (exact' : history.Exact windowSize ids)
    (newest : ∀ id ∈ ids, id < pictureId)
    (fits : ∀ last ∈ ids.getLast?, pictureId - last < 2 ^ 63) :
    ∃ buffer, history.expiredIn windowSize pictureId = some buffer ∧
      Cleared windowSize buffer ids pictureId := by
  unfold LayerHistory.expiredIn
  rw [exact'.last]
  cases isLast : ids.getLast? with
  | none =>
      obtain rfl := List.getLast?_eq_none_iff.mp isLast
      refine ⟨history.buffer, rfl, ?_⟩
      rw [exact'.fresh rfl]
      exact cleared_new windowSize pictureId
  | some last =>
      have ahead : last < pictureId := newest last (List.mem_of_getLast? isLast)
      have atMost : ∀ id ∈ ids, id ≤ last := exact'.newest last isLast
      have jump : signedSub pictureId last = some (pictureId - last) :=
        signedSub_of_fits ahead.le (fits last isLast)
      refine ⟨clearSkipped windowSize history.buffer last pictureId (pictureId - last), ?_, ?_, ?_⟩
      · dsimp only
        rw [jump, Option.map_some]
      · rw [length_clearSkipped, exact'.size]
      · intro other inside below
        rw [getD_clearSkipped positive exact'.size ahead inside below]
        by_cases old : other ≤ last
        · rw [← exact'.bits last isLast other (by omega) old]
          simp [old]
        · have new : other ∉ ids := fun member => old (atMost other member)
          simp [old, new]

/-- A newer id is inserted. -/
theorem Exact.insertDecodedIn
    (exact' : history.Exact windowSize ids) (newest : ∀ id ∈ ids, id < pictureId)
    (fits : ∀ last ∈ ids.getLast?, pictureId - last < 2 ^ 63) :
    ∃ after, history.insertDecodedIn windowSize pictureId = some after ∧
      after.Exact windowSize (ids ++ [pictureId]) := by
  obtain ⟨buffer, expired, cleared⟩ := exact'.expiredIn positive newest fits
  have asserted : ¬ history.lastPictureId.any (fun last => decide (pictureId ≤ last)) = true := by
    rw [exact'.last, Option.any_eq_true]
    rintro ⟨last, isLast, notNewer⟩
    exact absurd (newest last (List.mem_of_getLast? isLast))
      (Int.not_lt.mpr (of_decide_eq_true notNewer))
  refine ⟨_, ?_, cleared.set positive newest⟩
  unfold LayerHistory.insertDecodedIn
  rw [if_neg asserted, expired]
  rfl

end LayerHistory

end Layer

namespace DecodedFramesHistory

/-- A layer is exact; on one that is missing nothing has been inserted. -/
def ExactAt (windowSize : Nat) : Option LayerHistory → List Int → Prop
  | some layer, ids => layer.Exact windowSize ids
  | none, ids => ids = []

/-- Every layer is exact. -/
def Exact (windowSize : Nat) (history : DecodedFramesHistory) (inserts : Nat → List Int) : Prop :=
  ∀ i, ExactAt windowSize history.layers[i]? (inserts i)

variable {windowSize : Nat} {history : DecodedFramesHistory} {inserts : Nat → List Int}
  {frameId : VideoLayerFrameId} {timestamp : UInt32}

theorem exact_initial (windowSize : Nat) : Exact windowSize {} fun _ => [] := fun _ => rfl

theorem window_eq (int : windowSize < 2 ^ 31) : window windowSize = windowSize := by
  unfold window
  rw [Int.bmod_eq_of_le_mul_two (by omega) (by omega), Int.toNat_natCast]

theorem insertedBy_self {layer : Nat} (same : frameId.spatialLayer = layer) (ids : List Int) :
    insertedBy layer ids (.insertDecoded frameId timestamp) = ids ++ [frameId.pictureId] :=
  if_pos same

theorem insertedBy_of_ne {layer : Nat} (apart : frameId.spatialLayer ≠ layer) (ids : List Int) :
    insertedBy layer ids (.insertDecoded frameId timestamp) = ids :=
  if_neg apart

theorem Exact.insertDecodedIn (positive : 0 < windowSize)
    (exact' : history.Exact windowSize inserts)
    (newest : ∀ id ∈ inserts frameId.spatialLayer, id < frameId.pictureId)
    (fits : ∀ last ∈ (inserts frameId.spatialLayer).getLast?,
      frameId.pictureId - last < 2 ^ 63) (timestamp : UInt32) :
    ∃ after, history.insertDecodedIn windowSize frameId timestamp = some after ∧
      after.Exact windowSize fun layer => insertedBy layer (inserts layer)
        (.insertDecoded frameId timestamp) := by
  unfold DecodedFramesHistory.insertDecodedIn
  dsimp only
  by_cases missing : history.layers.length < frameId.spatialLayer + 1
  · rw [if_pos missing]
    refine ⟨_, rfl, fun i => ?_⟩
    have there : ExactAt windowSize history.layers[i]? (inserts i) := exact' i
    dsimp only
    rw [List.getElem?_modify, List.getElem?_append]
    by_cases old : i < history.layers.length
    · have other : frameId.spatialLayer ≠ i := by omega
      rw [if_pos old, insertedBy_of_ne other]
      simp only [if_neg other]
      simpa using there
    · have nothing : history.layers[i]? = none := List.getElem?_eq_none (Nat.not_lt.mp old)
      rw [nothing] at there
      have isNil : inserts i = [] := there
      rw [if_neg old, List.getElem?_replicate, isNil]
      by_cases same : frameId.spatialLayer = i
      · rw [insertedBy_self same, if_pos (by omega)]
        simp only [if_pos same]
        exact (LayerHistory.cleared_new windowSize frameId.pictureId).set positive nofun
      · rw [insertedBy_of_ne same]
        simp only [if_neg same]
        split
        · exact LayerHistory.exact_new windowSize
        · rfl
  · rw [if_neg missing]
    have within : frameId.spatialLayer < history.layers.length := by omega
    have there : ExactAt windowSize history.layers[frameId.spatialLayer]?
      (inserts frameId.spatialLayer) := exact' frameId.spatialLayer
    rw [List.getElem?_eq_getElem within] at there ⊢
    dsimp only
    obtain ⟨layer, inserted, exactLayer⟩ :=
      LayerHistory.Exact.insertDecodedIn positive there newest fits
    rw [inserted]
    refine ⟨_, rfl, fun i => ?_⟩
    dsimp only
    rw [List.getElem?_set]
    by_cases same : frameId.spatialLayer = i
    · rw [insertedBy_self same]
      subst same
      rw [if_pos rfl, if_pos within]
      exact exactLayer
    · rw [insertedBy_of_ne same, if_neg same]
      exact exact' i

/-- What an exact history says of a frame. -/
theorem Exact.wasDecodedIn (exact' : history.Exact windowSize inserts)
    (fits : ∀ last ∈ (inserts frameId.spatialLayer).getLast?,
      -2 ^ 63 + windowSize ≤ last ∧ last < 2 ^ 63) :
    ∃ was, history.wasDecodedIn windowSize frameId = some was ∧
      (was = true ↔ frameId.pictureId ∈ inserts frameId.spatialLayer ∧
        ∀ last ∈ (inserts frameId.spatialLayer).getLast?,
          last - windowSize < frameId.pictureId) := by
  have there : ExactAt windowSize history.layers[frameId.spatialLayer]?
    (inserts frameId.spatialLayer) := exact' frameId.spatialLayer
  unfold DecodedFramesHistory.wasDecodedIn
  cases isLayer : history.layers[frameId.spatialLayer]? with
  | none =>
      rw [isLayer] at there
      have isNil : inserts frameId.spatialLayer = [] := there
      exact ⟨false, rfl, by simp [isNil]⟩
  | some layer =>
      rw [isLayer] at there
      have exactLayer : layer.Exact windowSize (inserts frameId.spatialLayer) := there
      dsimp only
      rw [exactLayer.last]
      cases isLast : (inserts frameId.spatialLayer).getLast? with
      | none => exact ⟨false, rfl, by simp [List.getLast?_eq_none_iff.mp isLast]⟩
      | some last =>
          have difference : signedSub last windowSize = some (last - windowSize) :=
            if_pos (by have := fits last isLast; omega)
          dsimp only
          rw [difference]
          have atMost := exactLayer.newest last isLast frameId.pictureId
          refine ⟨_, rfl, ?_⟩
          have only : (∀ other ∈ some last, other - windowSize < frameId.pictureId) ↔
              last - windowSize < frameId.pictureId := by simp
          rw [only]
          dsimp only
          by_cases old : frameId.pictureId ≤ last - windowSize
          · rw [if_pos old]
            exact iff_of_false Bool.false_ne_true fun both => absurd old (Int.not_le.mpr both.2)
          · rw [if_neg old]
            by_cases new : last < frameId.pictureId
            · rw [if_pos new]
              exact iff_of_false Bool.false_ne_true fun both =>
                absurd new (Int.not_lt.mpr (atMost both.1))
            · rw [if_neg new, and_iff_left (Int.not_le.mp old)]
              exact exactLayer.bits last isLast frameId.pictureId (Int.not_le.mp old)
                (Int.not_lt.mp new)

theorem inserted_concat (layer : Nat) (calls : List DecodedCall) (call : DecodedCall) :
    inserted layer (calls ++ [call]) = insertedBy layer (inserted layer calls) call := by
  unfold inserted
  rw [List.foldl_append]
  rfl

theorem afterDecodedCalls_concat (windowSize : Nat) (calls : List DecodedCall)
    (call : DecodedCall) :
    afterDecodedCalls windowSize (calls ++ [call]) =
      (afterDecodedCalls windowSize calls).bind fun history => history.call windowSize call := by
  unfold afterDecodedCalls
  rw [List.foldlM_append]
  simp

/-- A frame that is newer than those of its layer. -/
def IsNewer (earlier : List DecodedCall) : DecodedCall → Prop
  | .insertDecoded frameId _ =>
      ∀ id ∈ inserted frameId.spatialLayer earlier, id < frameId.pictureId
  | .clear => True

/-- The id is a signed number of 64 bits, and so are its differences to the last one of the layer
and to the window size. -/
def IsRepresentable (windowSize : Nat) (earlier : List DecodedCall) : DecodedCall → Prop
  | .insertDecoded frameId _ =>
      (-2 ^ 63 + windowSize ≤ frameId.pictureId ∧ frameId.pictureId < 2 ^ 63) ∧
        ∀ last ∈ (inserted frameId.spatialLayer earlier).getLast?,
          frameId.pictureId - last < 2 ^ 63
  | .clear => True

/-- Every call of a sequence, with those before it. -/
def Throughout (holds : List DecodedCall → DecodedCall → Prop) (calls : List DecodedCall) : Prop :=
  ∀ earlier call later, calls = earlier ++ call :: later → holds earlier call

variable {calls : List DecodedCall}

/-- The history is exact after every run, and the last ids leave room for the window. -/
theorem exact_afterDecodedCalls (positive : 0 < windowSize) (int : windowSize < 2 ^ 31)
    (increasing : Throughout IsNewer calls) (fits : Throughout (IsRepresentable windowSize) calls) :
    (∃ history, afterDecodedCalls windowSize calls = some history ∧
      history.Exact windowSize fun layer => inserted layer calls) ∧
      ∀ layer, ∀ last ∈ (inserted layer calls).getLast?,
        -2 ^ 63 + windowSize ≤ last ∧ last < 2 ^ 63 := by
  induction calls using List.reverseRecOn with
  | nil => exact ⟨⟨{}, rfl, exact_initial windowSize⟩, fun _ _ nothing => nomatch nothing⟩
  | append_singleton calls call ih =>
      obtain ⟨increasing, isNewer⟩ :=
        (Run.forall_split_append_singleton_iff calls call).mp increasing
      obtain ⟨fits, representable⟩ := (Run.forall_split_append_singleton_iff calls call).mp fits
      obtain ⟨⟨history, reached, exact'⟩, lasts⟩ := ih increasing fits
      simp only [inserted_concat]
      rw [afterDecodedCalls_concat, reached, Option.bind_some]
      cases call with
      | clear => exact ⟨⟨{}, rfl, exact_initial windowSize⟩, fun _ _ nothing => nomatch nothing⟩
      | insertDecoded frameId timestamp =>
          obtain ⟨after, inserted, exactAfter⟩ :=
            exact'.insertDecodedIn positive isNewer representable.2 timestamp
          refine ⟨⟨after, ?_, exactAfter⟩, fun layer last isLast => ?_⟩
          · rw [DecodedFramesHistory.call, window_eq int, if_neg positive.ne', inserted]
          · by_cases same : frameId.spatialLayer = layer
            · rw [insertedBy_self same, List.getLast?_concat] at isLast
              rw [← Option.some_inj.mp isLast]
              exact representable.1
            · rw [insertedBy_of_ne same] at isLast
              exact lasts layer last isLast

/-- **The history knows exactly the frames of the window**, whatever the order of the layers and
the jumps between the ids, if no difference of ids overflows and the window is an `int`. -/
theorem wasDecoded_iff_inserted (positive : 0 < windowSize) (int : windowSize < 2 ^ 31)
    (increasing : Throughout IsNewer calls) (fits : Throughout (IsRepresentable windowSize) calls) :
    ∃ history, afterDecodedCalls windowSize calls = some history ∧
      ∀ frameId, ∃ was, history.wasDecodedIn (window windowSize) frameId = some was ∧
        (was = true ↔ frameId.pictureId ∈ inserted frameId.spatialLayer calls ∧
          ∀ last ∈ (inserted frameId.spatialLayer calls).getLast?,
            last - windowSize < frameId.pictureId) := by
  obtain ⟨⟨history, reached, exact'⟩, lasts⟩ := exact_afterDecodedCalls positive int increasing fits
  rw [window_eq int]
  exact ⟨history, reached, fun frameId => exact'.wasDecodedIn (lasts frameId.spatialLayer)⟩

section Examples

theorem throughout_nil (holds : List DecodedCall → DecodedCall → Prop) : Throughout holds [] :=
  fun _ _ _ split => absurd split.symm (by simp)

theorem Throughout.concat {holds : List DecodedCall → DecodedCall → Prop} {call : DecodedCall}
    (before : Throughout holds calls) (last : holds calls call) :
    Throughout holds (calls ++ [call]) :=
  (Run.forall_split_append_singleton_iff calls call).mpr ⟨before, last⟩

/-- Two frames of a layer, and one of a higher layer between them. -/
theorem wasDecoded_iff_inserted_instance :
    let calls : List DecodedCall :=
      [.insertDecoded ⟨-3, 0⟩ 0, .insertDecoded ⟨7, 2⟩ 0, .insertDecoded ⟨-1, 0⟩ 0]
    ∃ history, afterDecodedCalls 4 calls = some history ∧
      ∀ frameId, ∃ was, history.wasDecodedIn (window 4) frameId = some was ∧
        (was = true ↔ frameId.pictureId ∈ inserted frameId.spatialLayer calls ∧
          ∀ last ∈ (inserted frameId.spatialLayer calls).getLast?,
            last - (4 : Nat) < frameId.pictureId) :=
  wasDecoded_iff_inserted (by decide) (by decide)
    ((((throughout_nil _).concat
      (show ∀ id ∈ ([] : List Int), id < -3 from nofun)).concat
      (show ∀ id ∈ ([] : List Int), id < 7 from nofun)).concat
      (show ∀ id ∈ [(-3 : Int)], id < -1 by decide))
    ((((throughout_nil _).concat
      ⟨by decide, show ∀ last ∈ (none : Option Int), (-3 : Int) - last < 2 ^ 63 from nofun⟩).concat
      ⟨by decide, show ∀ last ∈ (none : Option Int), (7 : Int) - last < 2 ^ 63 from nofun⟩).concat
      ⟨by decide, show ∀ last ∈ some (-3 : Int), (-1 : Int) - last < 2 ^ 63 by decide⟩)

/-- The jump from one id to the next is no signed number of 64 bits, and neither is the difference
of the smallest id and the window size; and of the window size 2^32 + 4 only 4 is left. -/
theorem differences_overflow :
    (Throughout IsNewer [.insertDecoded ⟨-2 ^ 62, 0⟩ 0, .insertDecoded ⟨2 ^ 62, 0⟩ 0] ∧
        afterDecodedCalls 4 [.insertDecoded ⟨-2 ^ 62, 0⟩ 0, .insertDecoded ⟨2 ^ 62, 0⟩ 0] =
          none) ∧
      Throughout IsNewer [.insertDecoded ⟨-2 ^ 63, 0⟩ 0] ∧
      (afterDecodedCalls 4 [.insertDecoded ⟨-2 ^ 63, 0⟩ 0]).map
        (fun history => history.wasDecodedIn (window 4) ⟨-2 ^ 63, 0⟩) = some none ∧
      Throughout IsNewer [.insertDecoded ⟨0, 0⟩ 0, .insertDecoded ⟨4, 0⟩ 0] ∧
      (afterDecodedCalls (2 ^ 32 + 4) [.insertDecoded ⟨0, 0⟩ 0, .insertDecoded ⟨4, 0⟩ 0]).map
        (fun history => history.wasDecodedIn (window (2 ^ 32 + 4)) ⟨0, 0⟩) =
          some (some false) := by
  have small : window 4 = 4 := window_eq (by decide)
  have narrowed : window (2 ^ 32 + 4) = 4 := by decide
  unfold afterDecodedCalls
  simp only [small, narrowed]
  refine ⟨⟨?_, rfl⟩, ?_, rfl, ?_, rfl⟩
  · exact ((throughout_nil _).concat (show ∀ id ∈ ([] : List Int), id < -2 ^ 62 from nofun)).concat
      (show ∀ id ∈ [(-2 ^ 62 : Int)], id < 2 ^ 62 by decide)
  · exact (throughout_nil _).concat (show ∀ id ∈ ([] : List Int), id < -2 ^ 63 from nofun)
  · exact ((throughout_nil _).concat (show ∀ id ∈ ([] : List Int), id < 0 from nofun)).concat
      (show ∀ id ∈ [(0 : Int)], id < 4 by decide)

end Examples

section FrameBufferWindow

theorem pictureIdToIndexIn_kMaxFramesHistory (frameId : Int) :
    pictureIdToIndexIn kMaxFramesHistory frameId = pictureIdToIndex frameId := by
  have positive : 0 < kMaxFramesHistory := by decide
  have same := pictureIdToIndexIn_eq positive frameId
  unfold pictureIdToIndex
  omega

/-- In the window of the frame buffer the bits expire as in its history. -/
theorem expiredIn_kMaxFramesHistory {layer : LayerHistory} {pictureId : Int}
    (fits : ∀ last ∈ layer.lastPictureId, last < pictureId ∧ pictureId - last < 2 ^ 63) :
    layer.expiredIn kMaxFramesHistory pictureId = some (layer.expired pictureId) := by
  unfold LayerHistory.expiredIn LayerHistory.expired
  cases isLast : layer.lastPictureId with
  | none => rfl
  | some last =>
      obtain ⟨ahead, near⟩ := fits last isLast
      dsimp only
      rw [signedSub_of_fits ahead.le near, Option.map_some]
      unfold LayerHistory.clearSkipped
      simp only [pictureIdToIndexIn_kMaxFramesHistory]

/-- `InsertDecoded` of the frame buffer's history. -/
theorem insertDecodedIn_kMaxFramesHistory
    (fits : ∀ layer, history.layers[frameId.spatialLayer]? = some layer →
      ∀ last ∈ layer.lastPictureId,
        last < frameId.pictureId ∧ frameId.pictureId - last < 2 ^ 63) (timestamp : UInt32) :
    history.insertDecodedIn kMaxFramesHistory frameId timestamp =
      some (history.insertDecoded frameId timestamp) := by
  unfold DecodedFramesHistory.insertDecodedIn DecodedFramesHistory.insertDecoded
  dsimp only
  by_cases missing : history.layers.length < frameId.spatialLayer + 1
  · rw [if_pos missing]
    congr 2
    refine List.ext_getElem? fun i => ?_
    rw [List.getElem?_modify, List.getElem?_modify]
    by_cases same : frameId.spatialLayer = i
    · simp only [if_pos same]
      rw [List.getElem?_append_right (by omega), List.getElem?_replicate, if_pos (by omega)]
      unfold LayerHistory.insertDecoded
      rw [pictureIdToIndexIn_kMaxFramesHistory]
      rfl
    · simp only [if_neg same]
  · rw [if_neg missing]
    have within : frameId.spatialLayer < history.layers.length := by omega
    have asserted : ¬ history.layers[frameId.spatialLayer].lastPictureId.any
        (fun last => decide (frameId.pictureId ≤ last)) = true := by
      rw [Option.any_eq_true]
      rintro ⟨last, isLast, notNewer⟩
      exact absurd (fits _ (List.getElem?_eq_getElem within) last isLast).1
        (Int.not_lt.mpr (of_decide_eq_true notNewer))
    have expired := expiredIn_kMaxFramesHistory (fits _ (List.getElem?_eq_getElem within))
    rw [List.getElem?_eq_getElem within]
    dsimp only
    unfold LayerHistory.insertDecodedIn
    rw [if_neg asserted, expired, pictureIdToIndexIn_kMaxFramesHistory,
      Nat.sub_eq_zero_of_le within, List.replicate_zero, List.append_nil]
    simp only [Option.map_some]
    congr 2
    refine List.ext_getElem? fun i => ?_
    rw [List.getElem?_modify, List.getElem?_set]
    by_cases same : frameId.spatialLayer = i
    · subst same
      simp only [if_pos within, List.getElem?_eq_getElem within, reduceIte]
      rfl
    · simp only [if_neg same, Option.map_eq_map, Option.map_id']

/-- `WasDecoded` of the frame buffer's history. -/
theorem wasDecodedIn_kMaxFramesHistory
    (fits : ∀ layer, history.layers[frameId.spatialLayer]? = some layer →
      ∀ last ∈ layer.lastPictureId, -2 ^ 63 + kMaxFramesHistory ≤ last ∧ last < 2 ^ 63) :
    history.wasDecodedIn kMaxFramesHistory frameId = some (history.wasDecoded frameId) := by
  unfold DecodedFramesHistory.wasDecodedIn DecodedFramesHistory.wasDecoded
  cases isLayer : history.layers[frameId.spatialLayer]? with
  | none => rfl
  | some layer =>
      dsimp only
      cases isLast : layer.lastPictureId with
      | none => rfl
      | some last =>
          obtain ⟨low, high⟩ := fits layer isLayer last isLast
          have difference : signedSub last kMaxFramesHistory = some (last - kMaxFramesHistory) :=
            if_pos (by omega)
          dsimp only
          rw [difference, pictureIdToIndexIn_kMaxFramesHistory]
          rfl

end FrameBufferWindow

end DecodedFramesHistory

end MpWebRtc
