import Mathlib.Data.List.Basic
import Mathlib.Order.Lattice

/-!
# The history of decoded frames

For each spatial layer a cyclic buffer remembers which of the last picture ids were decoded. A
bit belongs to the newest id with its index that is not ahead of the last decoded one; bits that
change their id are cleared when the last id moves on. What the history says to be decoded was
decoded.
-/

namespace MpWebRtc

/-- `VideoLayerFrameId`. -/
structure VideoLayerFrameId where
  pictureId : Int
  spatialLayer : Nat
  deriving DecidableEq

namespace VideoLayerFrameId

/-- `operator<` and `operator<=`. -/
instance linearOrderVideoLayerFrameId : LinearOrder VideoLayerFrameId where
  le first second := first.pictureId < second.pictureId ∨
    first.pictureId = second.pictureId ∧ first.spatialLayer ≤ second.spatialLayer
  lt first second := first.pictureId < second.pictureId ∨
    first.pictureId = second.pictureId ∧ first.spatialLayer < second.spatialLayer
  le_refl _ := .inr ⟨rfl, Nat.le_refl _⟩
  le_trans _ _ _ _ _ := by omega
  le_antisymm first second lower upper := by
    have same : first.pictureId = second.pictureId ∧ first.spatialLayer = second.spatialLayer := by
      omega
    cases first
    cases second
    rw [VideoLayerFrameId.mk.injEq]
    exact same
  le_total _ _ := by omega
  lt_iff_le_not_ge _ _ := by omega
  toDecidableLE _ _ := inferInstanceAs (Decidable (_ ∨ _))
  toDecidableLT _ _ := inferInstanceAs (Decidable (_ ∨ _))

variable (first second : VideoLayerFrameId)

theorem le_def :
    first ≤ second ↔ first.pictureId < second.pictureId ∨
      first.pictureId = second.pictureId ∧ first.spatialLayer ≤ second.spatialLayer := Iff.rfl

theorem lt_def :
    first < second ↔ first.pictureId < second.pictureId ∨
      first.pictureId = second.pictureId ∧ first.spatialLayer < second.spatialLayer := Iff.rfl

end VideoLayerFrameId

/-- `kMaxFramesHistory`, the window that the frame buffer asks for. -/
def kMaxFramesHistory : Nat := 8192

/-- `PictureIdToIndex`. -/
def pictureIdToIndex (frameId : Int) : Nat := (frameId % kMaxFramesHistory).toNat

/-- `DecodedFramesHistory::LayerHistory`. -/
structure LayerHistory where
  buffer : List Bool := List.replicate kMaxFramesHistory false
  lastPictureId : Option Int := none

namespace LayerHistory

/-- `std::fill` with `false`, from `start` up to `stop`. -/
def fillFalse (buffer : List Bool) (start stop : Nat) : List Bool :=
  buffer.mapIdx fun i bit => bit && !(decide (start ≤ i) && decide (i < stop))

variable (history : LayerHistory)

/-- The buffer without the values that expire when `pictureId` is inserted. -/
def expired (pictureId : Int) : List Bool :=
  match history.lastPictureId with
  | none => history.buffer
  | some last =>
      let lastIndex := pictureIdToIndex last
      let newIndex := pictureIdToIndex pictureId
      if kMaxFramesHistory ≤ pictureId - last then fillFalse history.buffer 0 history.buffer.length
      else if lastIndex < newIndex then fillFalse history.buffer (lastIndex + 1) newIndex
      else fillFalse (fillFalse history.buffer (lastIndex + 1) history.buffer.length) 0 newIndex

/-- The part of `InsertDecoded` about one layer. -/
def insertDecoded (pictureId : Int) : LayerHistory where
  buffer := (history.expired pictureId).set (pictureIdToIndex pictureId) true
  lastPictureId := some pictureId

end LayerHistory

/-- `DecodedFramesHistory`. The last frame and its timestamp are set and reset together. -/
structure DecodedFramesHistory where
  layers : List LayerHistory := []
  lastDecoded : Option (VideoLayerFrameId × UInt32) := none

namespace DecodedFramesHistory

variable (history : DecodedFramesHistory)

/-- `GetLastDecodedFrameId`. -/
def getLastDecodedFrameId : Option VideoLayerFrameId :=
  history.lastDecoded.map Prod.fst

/-- `GetLastDecodedFrameTimestamp`. -/
def getLastDecodedFrameTimestamp : Option UInt32 :=
  history.lastDecoded.map Prod.snd

/-- `InsertDecoded`. Missing layers are added first; in a new one nothing expires. -/
def insertDecoded (history : DecodedFramesHistory) (frameId : VideoLayerFrameId)
    (timestamp : UInt32) : DecodedFramesHistory where
  layers := (history.layers ++
      List.replicate (frameId.spatialLayer + 1 - history.layers.length) ({} : LayerHistory)).modify
    frameId.spatialLayer fun layer => layer.insertDecoded frameId.pictureId
  lastDecoded := some (frameId, timestamp)

/-- `WasDecoded`. -/
def wasDecoded (frameId : VideoLayerFrameId) : Bool :=
  match history.layers[frameId.spatialLayer]? with
  | none => false
  | some layer =>
      match layer.lastPictureId with
      | none => false
      | some last =>
          if frameId.pictureId ≤ last - kMaxFramesHistory then false
          else if last < frameId.pictureId then false
          else layer.buffer.getD (pictureIdToIndex frameId.pictureId) false

end DecodedFramesHistory

section Layer

namespace LayerHistory

theorem getD_fillFalse (buffer : List Bool) (start stop i : Nat) :
    (fillFalse buffer start stop).getD i false =
      (buffer.getD i false && !(decide (start ≤ i) && decide (i < stop))) := by
  unfold fillFalse
  rw [List.getD_eq_getElem?_getD, List.getD_eq_getElem?_getD, List.getElem?_mapIdx]
  cases buffer[i]? with
  | none => rfl
  | some bit => rfl

@[simp]
theorem length_fillFalse (buffer : List Bool) (start stop : Nat) :
    (fillFalse buffer start stop).length = buffer.length := by
  simp [fillFalse]

/-- The bits of a layer say what was decoded. -/
structure Sound (history : LayerHistory) (decoded : Int → Prop) : Prop where
  size : history.buffer.length = kMaxFramesHistory
  fresh : history.lastPictureId = none → ∀ i, history.buffer.getD i false = false
  last : ∀ last, history.lastPictureId = some last → decoded last
  bits : ∀ last, history.lastPictureId = some last → ∀ pictureId,
    last - kMaxFramesHistory < pictureId → pictureId ≤ last →
      history.buffer.getD (pictureIdToIndex pictureId) false = true → decoded pictureId

variable {history : LayerHistory} {decoded : Int → Prop}

theorem sound_new : ({} : LayerHistory).Sound decoded where
  size := List.length_replicate
  fresh _ i := by
    rw [List.getD_eq_getElem?_getD, List.getElem?_replicate]
    split <;> rfl
  last _ known := nomatch known
  bits _ known := nomatch known

theorem Sound.mono (sound : history.Sound decoded) {decoded' : Int → Prop}
    (more : ∀ pictureId, decoded pictureId → decoded' pictureId) : history.Sound decoded' where
  size := sound.size
  fresh := sound.fresh
  last last known := more last (sound.last last known)
  bits last known pictureId inside below bit :=
    more pictureId (sound.bits last known pictureId inside below bit)

theorem length_expired (history : LayerHistory) (pictureId : Int) :
    (history.expired pictureId).length = history.buffer.length := by
  unfold expired
  split
  · rfl
  · dsimp only
    split_ifs <;> simp

/-- A bit that is left after others expired was there, and belongs to the same id as before. -/
theorem getD_expired {last pictureId other : Int} (known : history.lastPictureId = some last)
    (size : history.buffer.length = kMaxFramesHistory) (ahead : last < pictureId)
    (inside : pictureId - kMaxFramesHistory < other) (below : other < pictureId)
    (bit : (history.expired pictureId).getD (pictureIdToIndex other) false = true) :
    other ≤ last ∧ history.buffer.getD (pictureIdToIndex other) false = true := by
  unfold expired at bit
  rw [known] at bit
  dsimp only at bit
  split_ifs at bit with far later
  · exfalso
    rw [getD_fillFalse, size] at bit
    have index : pictureIdToIndex other < kMaxFramesHistory := by
      unfold pictureIdToIndex kMaxFramesHistory
      omega
    simp [index] at bit
  · rw [getD_fillFalse, Bool.and_eq_true] at bit
    refine ⟨?_, bit.1⟩
    have kept := bit.2
    simp only [Bool.not_eq_true', Bool.and_eq_false_iff, decide_eq_false_iff_not] at kept
    unfold pictureIdToIndex kMaxFramesHistory at *
    omega
  · rw [getD_fillFalse, getD_fillFalse, size, Bool.and_eq_true, Bool.and_eq_true] at bit
    obtain ⟨⟨kept, first⟩, second⟩ := bit
    refine ⟨?_, kept⟩
    simp only [Bool.not_eq_true', Bool.and_eq_false_iff, decide_eq_false_iff_not] at first second
    unfold pictureIdToIndex kMaxFramesHistory at *
    omega

/-- A newer id is inserted. -/
theorem Sound.insertDecoded (sound : history.Sound decoded) {pictureId : Int}
    (newest : ∀ other, decoded other → other < pictureId) :
    (history.insertDecoded pictureId).Sound fun other => decoded other ∨ other = pictureId where
  size := by
    rw [LayerHistory.insertDecoded, List.length_set, length_expired, sound.size]
  fresh none := nomatch none
  last _ known := .inr (Option.some.inj known).symm
  bits := by
    rintro _ known other inside below bit
    obtain rfl : pictureId = _ := Option.some.inj known
    by_cases same : other = pictureId
    · exact .inr same
    have earlier : other < pictureId := by omega
    have apart : pictureIdToIndex pictureId ≠ pictureIdToIndex other := by
      unfold pictureIdToIndex kMaxFramesHistory at *
      omega
    have before : (history.expired pictureId).getD (pictureIdToIndex other) false = true := by
      rw [LayerHistory.insertDecoded] at bit
      rwa [List.getD_eq_getElem?_getD, List.getElem?_set_ne apart,
        ← List.getD_eq_getElem?_getD] at bit
    cases known : history.lastPictureId with
    | none =>
        rw [expired, known] at before
        exact absurd before (by rw [sound.fresh known]; exact Bool.false_ne_true)
    | some last =>
        have ahead := newest last (sound.last last known)
        obtain ⟨old, bit⟩ := getD_expired known sound.size ahead inside earlier before
        exact .inl (sound.bits last known other (by omega) old bit)

end LayerHistory

end Layer

namespace DecodedFramesHistory

/-- The history says only of decoded frames that they were decoded. -/
def Sound (history : DecodedFramesHistory) (decoded : List VideoLayerFrameId) : Prop :=
  ∀ (i : Nat) (layer : LayerHistory), history.layers[i]? = some layer →
    layer.Sound fun pictureId => ⟨pictureId, i⟩ ∈ decoded

variable {history : DecodedFramesHistory} {decoded : List VideoLayerFrameId}

theorem sound_initial : ({} : DecodedFramesHistory).Sound decoded := fun i _ known => by
  rw [List.getElem?_nil] at known
  exact nomatch known

theorem Sound.mem_of_wasDecoded (sound : history.Sound decoded) {frameId : VideoLayerFrameId}
    (was : history.wasDecoded frameId = true) : frameId ∈ decoded := by
  unfold wasDecoded at was
  split at was
  · exact nomatch was
  · rename_i layer there
    split at was
    · exact nomatch was
    · rename_i last known
      split_ifs at was with old new
      exact (sound _ layer there).bits last known frameId.pictureId (by omega) (by omega) was

/-- Frames are inserted in their order. -/
theorem Sound.insertDecoded (sound : history.Sound decoded) {frameId : VideoLayerFrameId}
    (newest : ∀ other ∈ decoded, other < frameId) (timestamp : UInt32) :
    (history.insertDecoded frameId timestamp).Sound (decoded ++ [frameId]) := by
  intro i layer there
  have sounds : ∀ (i : Nat) (layer : LayerHistory), (history.layers ++ List.replicate
      (frameId.spatialLayer + 1 - history.layers.length) ({} : LayerHistory))[i]? = some layer →
        layer.Sound fun pictureId => ⟨pictureId, i⟩ ∈ decoded := by
    intro i layer there
    rw [List.getElem?_append] at there
    split_ifs at there with old
    · exact sound i layer there
    · obtain ⟨-, rfl⟩ := List.mem_replicate.mp (List.mem_of_getElem? there)
      exact LayerHistory.sound_new
  unfold DecodedFramesHistory.insertDecoded at there
  rw [List.getElem?_modify] at there
  obtain ⟨before, known, rfl⟩ := Option.map_eq_some_iff.mp there
  have kept := sounds i before known
  split_ifs with same
  · subst same
    refine (kept.insertDecoded fun other member => ?_).mono fun pictureId known => ?_
    · rcases newest _ member with behind | ⟨-, behind⟩
      · exact behind
      · exact absurd behind (Nat.lt_irrefl _)
    · rcases known with known | rfl
      · exact List.mem_append_left _ known
      · exact List.mem_append_right _ (List.mem_singleton.mpr rfl)
  · exact kept.mono fun pictureId known => List.mem_append_left _ known

end DecodedFramesHistory

end MpWebRtc
