import MpWebRtc.Math.OrderedMap
import MpWebRtc.Receiver.DecodedFrames

/-!
# The frame buffer

Frames wait in a map from their ids until everything they depend on has been handed out. For a
frame that is not there, an entry may stand already with the frames that depend on it. Each entry
counts how many of the dependencies of its frame are not continuous and how many are not decoded;
the counters go down as frames become continuous and as they are handed out.

An operation fails where the source would read through a dead iterator or a null pointer, or would
count below zero. The clock and the timing are inputs; render times and statistics are left out.
-/

namespace MpWebRtc

open Math

/-- `EncodedFrame`, as the buffer reads it. -/
structure EncodedFrame where
  id : VideoLayerFrameId
  timestamp : UInt32 := 0
  references : List Int := []
  interLayerPredicted : Bool := false
  isLastSpatialLayer : Bool := true

namespace EncodedFrame

variable (frame : EncodedFrame)

/-- `is_keyframe`. -/
def isKeyframe : Bool := frame.references.isEmpty

/-- The id of the lower layer of the same picture. -/
def lowerLayer : VideoLayerFrameId :=
  ⟨frame.id.pictureId, frame.id.spatialLayer - 1⟩

/-- What a frame depends on: its references in the same layer, and the lower layer if it is
predicted from that. -/
def dependencies : List VideoLayerFrameId :=
  (frame.references.map fun pictureId => ⟨pictureId, frame.id.spatialLayer⟩) ++
    if frame.interLayerPredicted then [frame.lowerLayer] else []

/-- `ValidReferences`. -/
def validReferences : Bool :=
  (frame.references.all fun reference => decide (reference < frame.id.pictureId)) &&
    decide frame.references.Nodup &&
    !(frame.interLayerPredicted && frame.id.spatialLayer == 0)

end EncodedFrame

/-- `AheadOf` for timestamps. -/
def timestampAheadOf (a b : UInt32) : Bool :=
  a != b && if a - b = 0x80000000 then decide (b < a) else decide (a - b < 0x80000000)

/-- `FrameBuffer::FrameInfo`. -/
structure FrameInfo where
  dependentFrames : List VideoLayerFrameId := []
  numMissingContinuous : Nat := 0
  numMissingDecodable : Nat := 0
  continuous : Bool := false
  frame : Option EncodedFrame := none

/-- `FrameMap`. -/
abbrev FrameMap := OrderedMap VideoLayerFrameId FrameInfo

/-- A dependency that is not fulfilled yet, in `UpdateFrameInfoWithIncomingFrame`. -/
structure FrameDependency where
  id : VideoLayerFrameId
  continuous : Bool

/-- `kMaxFramesBuffered`. -/
def kMaxFramesBuffered : Nat := 800

/-- `kMaxAllowedFrameDelayMs`. -/
def kMaxAllowedFrameDelayMs : Int := 5

namespace FrameMap

variable (frames : FrameMap)

/-- `--num_missing_continuous`, unless it is zero. -/
def countDownContinuous (id : VideoLayerFrameId) (info : FrameInfo) : Option FrameMap :=
  if info.numMissingContinuous = 0 then none
  else some (frames.modify id fun info =>
    { info with numMissingContinuous := info.numMissingContinuous - 1 })

/-- The loop of `PropagateContinuity` over the dependents of a frame, and which of them became
continuous. -/
def continueDependents : List VideoLayerFrameId → FrameMap →
    Option (FrameMap × List VideoLayerFrameId)
  | [], frames => some (frames, [])
  | dependent :: dependents, frames =>
      match frames.find dependent with
      | none => continueDependents dependents frames
      | some info =>
          (countDownContinuous frames dependent info).bind fun frames =>
            if info.numMissingContinuous - 1 = 0 then
              (continueDependents dependents (frames.modify dependent fun info =>
                { info with continuous := true })).map fun reached =>
                  (reached.1, dependent :: reached.2)
            else continueDependents dependents frames

/-- The loop of `PropagateDecodability`. -/
def propagateDecodability : List VideoLayerFrameId → FrameMap → Option FrameMap
  | [], frames => some frames
  | dependent :: dependents, frames =>
      match frames.find dependent with
      | none => propagateDecodability dependents frames
      | some info =>
          if info.numMissingDecodable = 0 then none
          else propagateDecodability dependents (frames.modify dependent fun info =>
            { info with numMissingDecodable := info.numMissingDecodable - 1 })

/-- How many counts are left, over all frames. -/
def countsLeft : Nat := frames.total fun entry => entry.2.numMissingContinuous

theorem countsLeft_countDown {frames frames' : FrameMap} {id : VideoLayerFrameId} {info : FrameInfo}
    (found : frames.find id = some info)
    (counted : countDownContinuous frames id info = some frames') :
    frames'.countsLeft + 1 = frames.countsLeft := by
  unfold countDownContinuous at counted
  split_ifs at counted with zero
  obtain rfl := Option.some.inj counted
  have change := OrderedMap.total_modify (fun entry => entry.2.numMissingContinuous)
    (fun info => { info with numMissingContinuous := info.numMissingContinuous - 1 }) found
  dsimp only at change
  unfold countsLeft
  omega

theorem countsLeft_mark (id : VideoLayerFrameId) :
    countsLeft (frames.modify id fun info => { info with continuous := true }) =
      frames.countsLeft := by
  unfold countsLeft OrderedMap.total OrderedMap.modify
  rw [List.map_map]
  refine congrArg List.sum (List.map_congr_left fun entry _ => ?_)
  dsimp only [Function.comp_apply]
  split <;> rfl

/-- Every frame that becomes continuous has used up a count. -/
theorem countsLeft_continueDependents {dependents : List VideoLayerFrameId}
    {frames : FrameMap} {reached : FrameMap × List VideoLayerFrameId}
    (continued : continueDependents dependents frames = some reached) :
    reached.1.countsLeft + reached.2.length ≤ frames.countsLeft := by
  induction dependents generalizing frames reached with
  | nil =>
      obtain rfl := Option.some.inj continued
      exact le_rfl
  | cons dependent dependents ih =>
      unfold continueDependents at continued
      split at continued
      · exact ih continued
      · rename_i info found
        obtain ⟨counted, down, continued⟩ := Option.bind_eq_some_iff.mp continued
        have less := countsLeft_countDown found down
        split_ifs at continued
        · obtain ⟨rest, further, rfl⟩ := Option.map_eq_some_iff.mp continued
          have bound := ih further
          rw [countsLeft_mark] at bound
          change rest.1.countsLeft + (rest.2.length + 1) ≤ _
          omega
        · have bound := ih continued
          omega

/-- `PropagateContinuity`, with the frames that are still to be visited and the last continuous
frame. -/
def propagateContinuity (queue : List VideoLayerFrameId) (frames : FrameMap)
    (lastContinuousFrame : Option VideoLayerFrameId) :
    Option (FrameMap × Option VideoLayerFrameId) :=
  match queue with
  | [] => some (frames, lastContinuousFrame)
  | id :: queue =>
      match frames.find id with
      | none => none
      | some info =>
          let lastContinuousFrame :=
            if lastContinuousFrame.all fun last => decide (last < id) then some id
            else lastContinuousFrame
          match _continued : continueDependents info.dependentFrames frames with
          | none => none
          | some reached =>
              propagateContinuity (queue ++ reached.2) reached.1 lastContinuousFrame
termination_by frames.countsLeft + queue.length
decreasing_by
  have bound := countsLeft_continueDependents ‹_ = some reached›
  rw [List.length_append, List.length_cons]
  omega

/-- The loop at the end of `UpdateFrameInfoWithIncomingFrame`. -/
def registerDependencies (id : VideoLayerFrameId) : List FrameDependency → FrameMap →
    Option FrameMap
  | [], frames => some frames
  | dependency :: dependencies, frames =>
      (if dependency.continuous then
          (frames.find id).bind fun info => countDownContinuous frames id info
        else some frames).bind fun frames =>
          registerDependencies id dependencies
            ((frames.emplace dependency.id {}).modify dependency.id fun info =>
              { info with dependentFrames := info.dependentFrames ++ [id] })

end FrameMap

/-- The state of `FrameBuffer`. `callbackTask` says whether the task is running, and an iterator is
the key of its entry. -/
structure FrameBuffer where
  frames : FrameMap := {}
  decodedFramesHistory : DecodedFramesHistory := {}
  lastContinuousFrame : Option VideoLayerFrameId := none
  framesToDecode : List VideoLayerFrameId := []
  keyframeRequired : Bool := false
  latestReturnTimeMs : Int := 0
  callbackTask : Bool := false
  stopped : Bool := false

/-- How `InsertFrame` treats a frame before it looks for its entry. The buffer is cleared with or
without a jump of the picture ids. -/
inductive FrameAdmission
  | drop
  | keep
  | clear (jump : Bool)
  deriving DecidableEq

namespace FrameBuffer

variable (b : FrameBuffer)

/-- `ClearFramesAndHistory`. -/
def clearFramesAndHistory : FrameBuffer :=
  { b with
    frames := {}
    lastContinuousFrame := none
    framesToDecode := []
    decodedFramesHistory := {} }

/-- The checks at the beginning of `InsertFrame`. A buffer that has been cleared passes those that
follow. -/
def admission (frame : EncodedFrame) : FrameAdmission :=
  if !frame.validReferences then .drop
  else if kMaxFramesBuffered ≤ b.frames.entries.length then
    if frame.isKeyframe then .clear false else .drop
  else
    match b.decodedFramesHistory.lastDecoded.filter fun last => decide (frame.id ≤ last.1) with
    | some last =>
        if timestampAheadOf frame.timestamp last.2 && frame.isKeyframe then .clear true else .drop
    | none =>
        if (b.frames.entries.head?.any fun first => decide (frame.id < first.1)) &&
            b.frames.maxKey.any fun last => decide (last < frame.id) then .clear true
        else .keep

/-- Is there a continuous frame with this id? -/
def isContinuous (id : VideoLayerFrameId) : Bool :=
  (b.frames.find id).any fun info => info.continuous

/-- The loop of `UpdateFrameInfoWithIncomingFrame` over the references: those that are not fulfilled
yet, unless there is one that will never be. -/
def referenceDependencies (b : FrameBuffer) (spatialLayer : Nat) :
    List Int → Option (List FrameDependency)
  | [] => some []
  | reference :: references =>
      let refKey : VideoLayerFrameId := ⟨reference, spatialLayer⟩
      if b.decodedFramesHistory.getLastDecodedFrameId.any fun last => decide (refKey ≤ last) then
        if b.decodedFramesHistory.wasDecoded refKey then
          referenceDependencies b spatialLayer references
        else none
      else (referenceDependencies b spatialLayer references).map
        (⟨refKey, b.isContinuous refKey⟩ :: ·)

/-- The dependency on the lower layer, if it is not fulfilled yet. -/
def lowerLayerDependency (frame : EncodedFrame) : List FrameDependency :=
  if frame.interLayerPredicted then
    let lowerLayerDecoded :=
      decide (b.decodedFramesHistory.getLastDecodedFrameId = some frame.lowerLayer)
    let lowerLayerContinuous := lowerLayerDecoded || b.isContinuous frame.lowerLayer
    if !lowerLayerContinuous || !lowerLayerDecoded then [⟨frame.lowerLayer, lowerLayerContinuous⟩]
    else []
  else []

/-- `UpdateFrameInfoWithIncomingFrame`: the map of frames, or nothing where it returns `false`. The
second kind of failure is a fault. -/
def updateFrameInfoWithIncomingFrame (frame : EncodedFrame) : Option (Option FrameMap) :=
  match b.referenceDependencies frame.id.spatialLayer frame.references with
  | none => some none
  | some references =>
      let notYetFulfilled := references ++ b.lowerLayerDependency frame
      (FrameMap.registerDependencies frame.id notYetFulfilled
        (b.frames.modify frame.id fun info =>
          { info with
            numMissingContinuous := notYetFulfilled.length
            numMissingDecodable := notYetFulfilled.length })).map some

/-- `InsertFrame` behind its checks, with the last continuous picture id it would return. -/
def insertAdmitted (frame : EncodedFrame) (lastContinuousPictureId : Int) :
    Option (FrameBuffer × Int) :=
  let b := { b with frames := b.frames.emplace frame.id {} }
  if (b.frames.find frame.id).any fun info => info.frame.isSome then
    some (b, lastContinuousPictureId)
  else
    (b.updateFrameInfoWithIncomingFrame frame).bind fun updated =>
      match updated with
      | none => some (b, lastContinuousPictureId)
      | some frames =>
          let frames := frames.modify frame.id fun info => { info with frame := some frame }
          (frames.find frame.id).bind fun info =>
            if info.numMissingContinuous = 0 then
              (FrameMap.propagateContinuity [frame.id]
                (frames.modify frame.id fun info => { info with continuous := true })
                b.lastContinuousFrame).bind fun reached =>
                  reached.2.map fun last =>
                    ({ b with frames := reached.1, lastContinuousFrame := reached.2 },
                      last.pictureId)
            else some ({ b with frames := frames }, lastContinuousPictureId)

/-- `InsertFrame`, with the value it returns. -/
def insertFrame (frame : EncodedFrame) : Option (FrameBuffer × Int) :=
  let lastContinuousPictureId := (b.lastContinuousFrame.map (·.pictureId)).getD (-1)
  match b.admission frame with
  | .drop => some (b, lastContinuousPictureId)
  | .keep => b.insertAdmitted frame lastContinuousPictureId
  | .clear jump =>
      b.clearFramesAndHistory.insertAdmitted frame (if jump then -1 else lastContinuousPictureId)

/-- The inner loop of `FindNextFrame`: the further frames of a superframe, and whether the last one
is the last layer. -/
def gatherSuperframe (frame : EncodedFrame) : (lastLayerCompleted : Bool) →
    List (VideoLayerFrameId × FrameInfo) → Option (List VideoLayerFrameId × Bool)
  | lastLayerCompleted, [] => some ([], lastLayerCompleted)
  | lastLayerCompleted, entry :: entries =>
      if entry.1.pictureId ≠ frame.id.pictureId || !entry.2.continuous then
        some ([], lastLayerCompleted)
      else
        entry.2.frame.bind fun next =>
          let numAllowedUndecodedRefs := if next.interLayerPredicted then 1 else 0
          if numAllowedUndecodedRefs < entry.2.numMissingDecodable then
            some ([], lastLayerCompleted)
          else if frame.timestamp ≠ next.timestamp then some ([], lastLayerCompleted)
          else
            (gatherSuperframe frame next.isLastSpatialLayer entries).map fun superframe =>
              (entry.1 :: superframe.1, superframe.2)

/-- The loop of `FindNextFrame`, with the frames it has chosen so far. -/
def findLoop (b : FrameBuffer) (maxWaitingTime : EncodedFrame → Int) :
    (chosen : List VideoLayerFrameId) → List (VideoLayerFrameId × FrameInfo) →
      Option (List VideoLayerFrameId)
  | chosen, [] => some chosen
  | chosen, entry :: entries =>
      if !(b.lastContinuousFrame.any fun last => decide (entry.1 ≤ last)) then some chosen
      else if !entry.2.continuous || decide (0 < entry.2.numMissingDecodable) then
        findLoop b maxWaitingTime chosen entries
      else
        entry.2.frame.bind fun frame =>
          if b.keyframeRequired && !frame.isKeyframe then findLoop b maxWaitingTime chosen entries
          else if b.decodedFramesHistory.getLastDecodedFrameTimestamp.any fun last =>
              timestampAheadOf last frame.timestamp then
            findLoop b maxWaitingTime chosen entries
          else if frame.interLayerPredicted then findLoop b maxWaitingTime chosen entries
          else
            (gatherSuperframe frame frame.isLastSpatialLayer entries).bind fun superframe =>
              if !superframe.2 then findLoop b maxWaitingTime chosen entries
              else if maxWaitingTime frame < -kMaxAllowedFrameDelayMs then
                findLoop b maxWaitingTime (entry.1 :: superframe.1) entries
              else some (entry.1 :: superframe.1)

/-- `FindNextFrame`, as far as it chooses frames. -/
def findNextFrame (maxWaitingTime : EncodedFrame → Int) : Option FrameBuffer :=
  (b.findLoop maxWaitingTime [] b.frames.entries).map fun chosen =>
    { b with framesToDecode := chosen }

/-- The loop of `GetNextFrame`: hand out a frame, and remove it and all before it. -/
def handOut : List VideoLayerFrameId → FrameMap → DecodedFramesHistory →
    Option (FrameMap × DecodedFramesHistory × List EncodedFrame)
  | [], frames, history => some (frames, history, [])
  | id :: ids, frames, history =>
      (frames.find id).bind fun info =>
        info.frame.bind fun frame =>
          (FrameMap.propagateDecodability info.dependentFrames frames).bind fun frames =>
            (handOut ids (frames.filter fun entry => decide (id < entry.1))
              (history.insertDecoded id frame.timestamp)).map fun reached =>
                (reached.1, reached.2.1, frame :: reached.2.2)

/-- `GetNextFrame`: the buffer, and the frames that are put together to one. The iterators stay in
`frames_to_decode_`, but they are dead. -/
def getNextFrame : Option (FrameBuffer × List EncodedFrame) :=
  if b.framesToDecode = [] then none
  else
    (handOut b.framesToDecode b.frames b.decodedFramesHistory).map fun reached =>
      ({ b with frames := reached.1, decodedFramesHistory := reached.2.1 }, reached.2.2)

/-- `NextFrame`, which waits for a frame. -/
def nextFrame (latestReturnTimeMs : Int) (keyframeRequired : Bool)
    (maxWaitingTime : EncodedFrame → Int) : Option FrameBuffer :=
  if b.stopped then some b
  else
    ({ b with
        latestReturnTimeMs := latestReturnTimeMs
        keyframeRequired := keyframeRequired
        callbackTask := true } : FrameBuffer).findNextFrame maxWaitingTime

/-- The task that `InsertFrame` posts when there are new continuous frames. -/
def findAgain (maxWaitingTime : EncodedFrame → Int) : Option FrameBuffer :=
  if b.callbackTask then b.findNextFrame maxWaitingTime else some b

/-- The task of `StartWaitForNextFrameOnQueue`, with what it hands out. -/
def runCallback (nowMs : Int) (maxWaitingTime : EncodedFrame → Int) :
    Option (FrameBuffer × List EncodedFrame) :=
  if !b.callbackTask then some (b, [])
  else if b.framesToDecode ≠ [] then
    b.getNextFrame.map fun reached => ({ reached.1 with callbackTask := false }, reached.2)
  else if b.latestReturnTimeMs ≤ nowMs then some ({ b with callbackTask := false }, [])
  else (b.findNextFrame maxWaitingTime).map fun b => (b, [])

/-- `Start`. -/
def start : FrameBuffer := { b with stopped := false }

/-- `Stop`. -/
def stop : FrameBuffer :=
  if b.stopped then b else { b with stopped := true, callbackTask := false }

end FrameBuffer

end MpWebRtc
