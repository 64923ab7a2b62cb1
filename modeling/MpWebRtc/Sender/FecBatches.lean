import MpWebRtc.Math.Watched
import MpWebRtc.Receiver.PacketBuffer

/-!
# Batches of forward error correction

The generator of FEC packets collects the packets of the base layer until a frame ends at which
enough of them are there, and has them encoded as one batch. The parameters of a batch are latched
with its first packet, and there are two sets of them, for key frames and for others. Which one is
used is read from a flag of the first packet, but the loop that sends a frame sets this flag only
after it has given the packet to the generator.
-/

namespace MpWebRtc

open Math.Run VideoCoding

/-- `FecMaskType`. -/
inductive FecMaskType
  | kFecMaskRandom
  | kFecMaskBursty
  deriving DecidableEq

/-- `FecProtectionParams`. -/
structure FecProtectionParams where
  fecRate : Int := 0
  maxFecFrames : Int := 0
  fecMaskType : FecMaskType := .kFecMaskRandom
  deriving DecidableEq

/-- `UlpfecGenerator::Params`. -/
structure FecParams where
  deltaParams : FecProtectionParams := {}
  keyframeParams : FecProtectionParams := {}

/-- What the generator reads of an `RtpPacketToSend`; the first three are in its buffer. -/
structure VideoPacket where
  sequenceNumber : UInt16
  marker : Bool
  payload : List UInt8
  isKeyFrame : Bool := false

/-- An FEC packet wrapped in RED behind the header of a media packet. -/
structure RedPacket where
  payloadType : UInt8
  sequenceNumber : UInt16
  marker : Bool
  payload : List UInt8

def kMaxExcessOverhead : Int := 50

def kMinMediaPackets : Nat := 4

def kHighProtectionThreshold : Int := 80

def kUlpfecMaxMediaPackets : Nat := 48

/-- `kNoTemporalIdx`, for a frame without temporal layers. -/
def noTemporalLayer : UInt8 := 0xFF

/-- `ForwardErrorCorrection::NumFecPackets`. -/
def numFecPackets (numMediaPackets : Nat) (protectionFactor : Int) : Int :=
  let numFecPackets := (numMediaPackets * protectionFactor + 128) / 256
  if 0 < protectionFactor ∧ numFecPackets = 0 then 1 else numFecPackets

/-- `UlpfecGenerator`, without its rate. -/
structure UlpfecGenerator where
  redPayloadType : UInt8
  ulpfecPayloadType : UInt8
  mediaPackets : List VideoPacket := []
  lastMediaPacket : Option VideoPacket := none
  generatedFecPackets : List (List UInt8) := []
  numProtectedFrames : Nat := 0
  minNumMediaPackets : Nat := 1
  currentParams : FecParams := {}
  keyframeInProcess : Bool := false
  pendingParams : Option FecParams := none

/-- What can be seen of a generator at work: parameters that are set, packets that are added, with
the type of the frame they belong to, assertions, and calls of the encoder. -/
inductive FecEvent
  | parametersSet (params : FecParams)
  | added (packet : VideoPacket) (frameType : VideoFrameType)
  | asserted (holds : Bool)
  | encoded (media : List VideoPacket) (params : FecProtectionParams)

namespace UlpfecGenerator

variable (g : UlpfecGenerator)

/-- `SetProtectionParameters`. -/
def setProtectionParameters (params : FecParams) : UlpfecGenerator :=
  { g with pendingParams := some params }

/-- `CurrentParams`. -/
def params : FecProtectionParams :=
  if g.keyframeInProcess then g.currentParams.keyframeParams else g.currentParams.deltaParams

/-- `Overhead`, in 256ths. -/
def overhead : Int :=
  (numFecPackets g.mediaPackets.length g.params.fecRate * 256).tdiv g.mediaPackets.length

/-- `ExcessOverheadBelowMax`. -/
def excessOverheadBelowMax : Bool :=
  decide (g.overhead - g.params.fecRate < kMaxExcessOverhead)

/-- `MinimumMediaPacketsReached`: with two packets a frame or more, one more is needed. -/
def minimumMediaPacketsReached : Bool :=
  if g.mediaPackets.length < 2 * g.numProtectedFrames then
    decide (g.minNumMediaPackets ≤ g.mediaPackets.length)
  else decide (g.minNumMediaPackets + 1 ≤ g.mediaPackets.length)

/-- `ResetState`. -/
def resetState : UlpfecGenerator :=
  { g with
    mediaPackets := []
    lastMediaPacket := none
    generatedFecPackets := []
    numProtectedFrames := 0 }

/-- The pending parameters are applied. The protection level is compared before it is known whether
the batch is one of a key frame. -/
def applyPending : UlpfecGenerator :=
  match g.pendingParams with
  | none => g
  | some pending =>
      let g := { g with
        currentParams := pending
        pendingParams := none }
      { g with
        minNumMediaPackets :=
          if kHighProtectionThreshold < g.params.fecRate then kMinMediaPackets else 1 }

/-- The first packet of a batch starts it. -/
def startBatch (packet : VideoPacket) : UlpfecGenerator :=
  if g.mediaPackets = [] then
    { g.applyPending with keyframeInProcess := packet.isKeyFrame }
  else g

/-- A packet is kept as long as the masks can protect it. -/
def keepPacket (packet : VideoPacket) : UlpfecGenerator :=
  if g.mediaPackets.length < kUlpfecMaxMediaPackets then
    { g with
      mediaPackets := g.mediaPackets ++ [packet]
      lastMediaPacket := some packet }
  else g

/-- The last packet of a frame completes it. -/
def completeFrame (packet : VideoPacket) : UlpfecGenerator :=
  if packet.marker then { g with numProtectedFrames := g.numProtectedFrames + 1 } else g

/-- A completed frame completes the batch: as many frames as there may be, or enough packets. -/
def batchComplete (packet : VideoPacket) : Bool :=
  packet.marker && (decide ((g.numProtectedFrames : Int) = g.params.maxFecFrames) ||
    (g.excessOverheadBelowMax && g.minimumMediaPacketsReached))

section Encoding

/-! What `EncodeFec` makes of a batch is the parameter `encodeFec`. -/

variable (encodeFec : List VideoPacket → FecProtectionParams → List (List UInt8))

/-- A complete batch is encoded; without FEC packets the next one starts at once. -/
def encodeBatch (g : UlpfecGenerator) (packet : VideoPacket) : UlpfecGenerator × List FecEvent :=
  if g.batchComplete packet then
    let generated := encodeFec g.mediaPackets g.params
    let encoded := { g with generatedFecPackets := generated }
    (if generated = [] then encoded.resetState else encoded, [.encoded g.mediaPackets g.params])
  else (g, [])

/-- `AddPacketAndGenerateFec`, for a packet of a frame of the type. -/
def addPacketAndGenerateFec (g : UlpfecGenerator) (packet : VideoPacket)
    (frameType : VideoFrameType) : UlpfecGenerator × List FecEvent :=
  let started := g.startBatch packet
  let kept := (started.keepPacket packet).completeFrame packet
  let encoded := kept.encodeBatch encodeFec packet
  (encoded.1, [.added packet frameType, .asserted (decide (g.generatedFecPackets = [])),
    .asserted (decide (packet.isKeyFrame = started.keyframeInProcess))] ++ encoded.2)

/-- `GetFecPackets`. -/
def getFecPackets (g : UlpfecGenerator) : List RedPacket × UlpfecGenerator :=
  if g.generatedFecPackets = [] then ([], g)
  else
    (g.lastMediaPacket.toList.flatMap fun last =>
      g.generatedFecPackets.map fun data =>
        { payloadType := g.redPayloadType
          sequenceNumber := last.sequenceNumber
          marker := false
          payload := g.ulpfecPayloadType :: data },
      g.resetState)

end Encoding

end UlpfecGenerator

/-- One packet of a frame: what is set since the packet before it, and what the packetizer and the
assignment of a sequence number give, if they succeed. -/
structure PacketAttempt where
  parametersSet : List FecParams := []
  payload : Option (List UInt8)
  sequenceNumber : Option UInt16

/-- A call of `SendVideo`: the packets are those of the packetizer, which marks the last one if the
frame ends its picture. A call fails before its packets without a payload, or if it cannot be
encrypted. -/
structure SendVideoCall where
  frameType : VideoFrameType
  payloadEmpty : Bool := false
  encrypted : Bool := true
  temporalId : UInt8 := noTemporalLayer
  endOfPicture : Bool := true
  attempts : List PacketAttempt

/-- The parameters of every call are pending, one after the other. -/
def setAll (g : UlpfecGenerator) (parameters : List FecParams) : UlpfecGenerator × List FecEvent :=
  (parameters.foldl UlpfecGenerator.setProtectionParameters g, parameters.map .parametersSet)

section Sending

variable (encodeFec : List VideoPacket → FecProtectionParams → List (List UInt8))

/-- A packet goes to the generator unless it is of an upper temporal layer. It is not flagged yet:
`set_is_key_frame` comes after this. -/
def protectPacket (g : UlpfecGenerator) (call : SendVideoCall) (packet : VideoPacket) :
    UlpfecGenerator × List FecEvent :=
  if call.temporalId = 0 ∨ call.temporalId = noTemporalLayer then
    g.addPacketAndGenerateFec encodeFec packet call.frameType
  else (g, [])

/-- The loop of `SendVideo` over the packets of a frame, and whether it ends without a failure. -/
def sendPackets (call : SendVideoCall) :
    UlpfecGenerator → List PacketAttempt → Bool × UlpfecGenerator × List FecEvent
  | g, [] => (true, g, [])
  | g, attempt :: attempts =>
      let set := setAll g attempt.parametersSet
      match attempt.payload, attempt.sequenceNumber with
      | some payload, some sequenceNumber =>
          let packet : VideoPacket :=
            { sequenceNumber
              marker := call.endOfPicture && attempts.isEmpty
              payload }
          let sent := protectPacket encodeFec set.1 call packet
          let rest := sendPackets call sent.1 attempts
          (rest.1, rest.2.1, set.2 ++ sent.2 ++ rest.2.2)
      | _, _ => (false, set.1, set.2)

/-- `SendVideo`, as far as it concerns the generator. -/
def sendVideo (g : UlpfecGenerator) (call : SendVideoCall) : UlpfecGenerator × List FecEvent :=
  if call.frameType = .kEmptyFrame ∨ call.payloadEmpty ∨ ¬call.encrypted ∨ call.attempts = [] then
    (g, [])
  else
    let sent := sendPackets encodeFec call g call.attempts
    (if sent.1 then sent.2.1.getFecPackets.2 else sent.2.1, sent.2.2)

/-- What happens to a sender of video. -/
inductive VideoEvent
  | setProtectionParameters (params : FecParams)
  | sendVideo (call : SendVideoCall)

def videoStep (g : UlpfecGenerator) : VideoEvent → UlpfecGenerator × List FecEvent
  | .setProtectionParameters params => setAll g [params]
  | .sendVideo call => sendVideo encodeFec g call

end Sending

/-- What a batch is by what has been seen: its packets, whether the first one belongs to a key
frame, the parameters that were set last when it started, and those that are set last now. -/
structure Batch where
  packets : List VideoPacket := []
  ofKeyFrame : Bool := false
  latched : FecParams := {}
  lastSet : FecParams := {}

namespace Batch

variable (batch : Batch)

/-- A batch starts with the first packet that is added after the one before it was encoded. -/
def read : FecEvent → Batch
  | .parametersSet params => { batch with lastSet := params }
  | .added packet frameType =>
      if batch.packets = [] then
        { batch with
          packets := [packet]
          ofKeyFrame := decide (frameType = .kVideoFrameKey)
          latched := batch.lastSet }
      else { batch with packets := batch.packets ++ [packet] }
  | .asserted _ => batch
  | .encoded _ _ => { batch with packets := [] }

/-- The parameters a batch is to be encoded with. -/
def params : FecProtectionParams :=
  if batch.ofKeyFrame then batch.latched.keyframeParams else batch.latched.deltaParams

/-- Assertions hold, and what is encoded is the batch from its first packet on, with the parameters
latched for the type of its frame. -/
def Sound : FecEvent → Prop
  | .asserted holds => holds = true
  | .encoded media params =>
      media ≠ [] ∧ media <+: batch.packets ∧ params = batch.params
  | _ => True

/-- A batch that is encoded does not start with a key frame, or there is no difference between the
parameters for key frames and for others. -/
def Alike : FecEvent → Prop
  | .encoded _ _ => batch.ofKeyFrame → batch.latched.keyframeParams = batch.latched.deltaParams
  | _ => True

/-- What the generator does: the flag of a packet is never set, so that it always takes the
parameters of frames that are no key frames. -/
def Explained : FecEvent → Prop
  | .asserted holds => holds = true
  | .encoded media params =>
      media ≠ [] ∧ media <+: batch.packets ∧ params = batch.latched.deltaParams
  | _ => True

/-- Up to the end of a run, every event is sound for the batch it is read with. -/
def SoundRun (events : List FecEvent) : Prop :=
  Along (watching read) Sound {} events

/-- What the generator does is sound exactly where the two sets of parameters are alike. -/
theorem Explained.sound_iff {batch : Batch} {event : FecEvent} (explained : batch.Explained event) :
    batch.Sound event ↔ batch.Alike event := by
  cases event with
  | parametersSet params => exact Iff.rfl
  | added packet frameType => exact Iff.rfl
  | asserted holds => exact iff_of_true explained trivial
  | encoded media params =>
      obtain ⟨nonempty, covered, rfl⟩ := explained
      constructor
      · rintro ⟨-, -, same⟩ key
        unfold Batch.params at same
        rw [if_pos key] at same
        exact same.symm
      · intro alike
        refine ⟨nonempty, covered, ?_⟩
        unfold Batch.params
        split
        · next key => exact (alike key).symm
        · rfl

end Batch

/-- Between two packets the generator holds the beginning of the batch, as far as the masks can
protect it, and the parameters that are latched for it. -/
structure UlpfecGenerator.Mirrors (g : UlpfecGenerator) (batch : Batch) : Prop where
  media : g.mediaPackets = batch.packets.take kUlpfecMaxMediaPackets
  unflagged : g.keyframeInProcess = false
  pending : g.pendingParams.getD g.currentParams = batch.lastSet
  latched : batch.packets ≠ [] → g.currentParams = batch.latched
  idle : g.generatedFecPackets = []

namespace UlpfecGenerator

variable {g : UlpfecGenerator} {batch : Batch} {packet : VideoPacket} {frameType : VideoFrameType}

theorem Mirrors.setAll (mirrors : g.Mirrors batch) (parameters : List FecParams) :
    Along (watching Batch.read) Batch.Explained batch (setAll g parameters).2 ∧
      (MpWebRtc.setAll g parameters).1.Mirrors
        ((MpWebRtc.setAll g parameters).2.foldl Batch.read batch) := by
  induction parameters generalizing g batch with
  | nil => exact ⟨trivial, mirrors⟩
  | cons params parameters ih =>
      have next : (g.setProtectionParameters params).Mirrors (batch.read (.parametersSet params)) :=
        ⟨mirrors.media, mirrors.unflagged, rfl, mirrors.latched, mirrors.idle⟩
      exact ⟨⟨trivial, (ih next).1⟩, (ih next).2⟩

theorem Mirrors.media_eq_nil_iff (mirrors : g.Mirrors batch) :
    g.mediaPackets = [] ↔ batch.packets = [] := by
  rw [mirrors.media, List.take_eq_nil_iff]
  exact or_iff_right (by decide)

/-- What holds of the generator once a packet has started or joined the batch, before it is kept. -/
structure Started (started : UlpfecGenerator) (g : UlpfecGenerator) (batch : Batch) : Prop where
  media : started.mediaPackets = g.mediaPackets
  unflagged : started.keyframeInProcess = false
  pending : started.pendingParams.getD started.currentParams = batch.lastSet
  latched : started.currentParams = batch.latched
  idle : started.generatedFecPackets = []

theorem applyPending_currentParams :
    g.applyPending.currentParams = g.pendingParams.getD g.currentParams := by
  unfold applyPending
  cases g.pendingParams <;> rfl

theorem applyPending_pendingParams : g.applyPending.pendingParams = none := by
  unfold applyPending
  cases pending : g.pendingParams with
  | none => exact pending
  | some params => rfl

theorem applyPending_media : g.applyPending.mediaPackets = g.mediaPackets := by
  unfold applyPending
  cases g.pendingParams <;> rfl

theorem applyPending_generated : g.applyPending.generatedFecPackets = g.generatedFecPackets := by
  unfold applyPending
  cases g.pendingParams <;> rfl

/-- The first packet of a batch latches what is pending, and a packet brings no flag. -/
theorem Mirrors.startBatch (mirrors : g.Mirrors batch) (plain : packet.isKeyFrame = false) :
    (g.startBatch packet).Started g (batch.read (.added packet frameType)) := by
  unfold UlpfecGenerator.startBatch
  by_cases first : g.mediaPackets = []
  · have opened := mirrors.media_eq_nil_iff.mp first
    have same : batch.read (.added packet frameType) =
        { batch with
          packets := [packet]
          ofKeyFrame := decide (frameType = .kVideoFrameKey)
          latched := batch.lastSet } :=
      if_pos opened
    rw [if_pos first, same]
    refine ⟨applyPending_media, plain, ?_, ?_, applyPending_generated.trans mirrors.idle⟩
    · show g.applyPending.pendingParams.getD g.applyPending.currentParams = batch.lastSet
      rw [applyPending_pendingParams, applyPending_currentParams]
      exact mirrors.pending
    · exact applyPending_currentParams.trans mirrors.pending
  · have joined := fun empty => first (mirrors.media_eq_nil_iff.mpr empty)
    have same : batch.read (.added packet frameType) =
        { batch with packets := batch.packets ++ [packet] } :=
      if_neg joined
    rw [if_neg first, same]
    exact ⟨rfl, mirrors.unflagged, mirrors.pending, mirrors.latched joined, mirrors.idle⟩

theorem read_added_packets :
    (batch.read (.added packet frameType)).packets = batch.packets ++ [packet] := by
  unfold Batch.read
  dsimp only
  split
  · next opened => rw [opened, List.nil_append]
  · rfl

/-- A packet is kept as long as there are not more than the masks can protect. -/
theorem take_append_singleton (packets : List VideoPacket) :
    (packets ++ [packet]).take kUlpfecMaxMediaPackets =
      if (packets.take kUlpfecMaxMediaPackets).length < kUlpfecMaxMediaPackets then
        packets.take kUlpfecMaxMediaPackets ++ [packet]
      else packets.take kUlpfecMaxMediaPackets := by
  rw [List.length_take]
  split
  · rename_i room
    have short : packets.take kUlpfecMaxMediaPackets = packets := List.take_of_length_le (by omega)
    rw [short]
    apply List.take_of_length_le
    rw [List.length_append, List.length_singleton]
    omega
  · exact List.take_append_of_le_length (by omega)

/-- With the packet kept, the generator mirrors the batch that it has joined. -/
theorem Mirrors.keepPacket (mirrors : g.Mirrors batch) (plain : packet.isKeyFrame = false) :
    (((g.startBatch packet).keepPacket packet).completeFrame packet).Mirrors
      (batch.read (.added packet frameType)) := by
  have started : (g.startBatch packet).Started g (batch.read (.added packet frameType)) :=
    mirrors.startBatch plain
  have kept : ((g.startBatch packet).keepPacket packet).Mirrors
      (batch.read (.added packet frameType)) := by
    unfold UlpfecGenerator.keepPacket
    rw [started.media, mirrors.media]
    split
    · rename_i room
      refine ⟨?_, started.unflagged, started.pending, fun _ => started.latched, started.idle⟩
      rw [read_added_packets, take_append_singleton, if_pos room]
    · rename_i full
      refine ⟨?_, started.unflagged, started.pending, fun _ => started.latched, started.idle⟩
      rw [read_added_packets, take_append_singleton, if_neg full, started.media, mirrors.media]
  unfold UlpfecGenerator.completeFrame
  split
  · exact ⟨kept.media, kept.unflagged, kept.pending, kept.latched, kept.idle⟩
  · exact kept

section Encoding

variable {encodeFec : List VideoPacket → FecProtectionParams → List (List UInt8)}

theorem Mirrors.resetState (mirrors : g.Mirrors batch) (generated : List (List UInt8)) :
    UlpfecGenerator.Mirrors { g with generatedFecPackets := generated }.resetState
      { batch with packets := [] } :=
  ⟨rfl, mirrors.unflagged, mirrors.pending, fun nonempty => absurd rfl nonempty, rfl⟩

theorem getFecPackets_of_idle (idle : g.generatedFecPackets = []) : g.getFecPackets.2 = g := by
  unfold getFecPackets
  rw [if_pos idle]

theorem getFecPackets_of_generated (generated : g.generatedFecPackets ≠ []) :
    g.getFecPackets.2 = g.resetState := by
  unfold getFecPackets
  rw [if_neg generated]

variable (mirrors : g.Mirrors batch)
include mirrors

theorem Mirrors.getFecPackets : g.getFecPackets.2 = g :=
  getFecPackets_of_idle mirrors.idle

/-- A batch is encoded from its first packet on, and the next one starts when its FEC packets have
been fetched, at once if there are none. -/
theorem Mirrors.encodeBatch (nonempty : batch.packets ≠ []) :
    Along (watching Batch.read) Batch.Explained batch (g.encodeBatch encodeFec packet).2 ∧
      (g.encodeBatch encodeFec packet).1.getFecPackets.2.Mirrors
        ((g.encodeBatch encodeFec packet).2.foldl Batch.read batch) ∧
      (packet.marker = false → (g.encodeBatch encodeFec packet).1.generatedFecPackets = []) := by
  unfold UlpfecGenerator.encodeBatch
  split
  · rename_i complete
    have marked : packet.marker = true := by
      unfold batchComplete at complete
      exact (Bool.and_eq_true_iff.mp complete).1
    have params : g.params = batch.latched.deltaParams := by
      unfold UlpfecGenerator.params
      rw [mirrors.unflagged, if_neg Bool.false_ne_true, mirrors.latched nonempty]
    refine ⟨⟨⟨?_, ?_, params⟩, trivial⟩, ?_, fun plain => ?_⟩
    · exact fun empty => nonempty (mirrors.media_eq_nil_iff.mp empty)
    · rw [mirrors.media]
      exact List.take_prefix ..
    · dsimp only
      split
      · rw [getFecPackets_of_idle rfl]
        exact mirrors.resetState _
      · rename_i generated
        rw [getFecPackets_of_generated generated]
        exact mirrors.resetState _
    · rw [plain] at marked
      cases marked
  · refine ⟨trivial, ?_, fun _ => mirrors.idle⟩
    rw [mirrors.getFecPackets]
    exact mirrors

/-- A packet that is added joins the batch or starts it; the assertions hold. -/
theorem Mirrors.addPacketAndGenerateFec (plain : packet.isKeyFrame = false) :
    let added := g.addPacketAndGenerateFec encodeFec packet frameType
    Along (watching Batch.read) Batch.Explained batch added.2 ∧
      added.1.getFecPackets.2.Mirrors (added.2.foldl Batch.read batch) ∧
      (packet.marker = false → added.1.generatedFecPackets = []) := by
  have started : (g.startBatch packet).Started g (batch.read (.added packet frameType)) :=
    mirrors.startBatch plain
  have joined : (batch.read (.added packet frameType)).packets ≠ [] := by
    rw [read_added_packets]
    exact List.append_ne_nil_of_right_ne_nil _ (List.cons_ne_nil _ _)
  have kept : (((g.startBatch packet).keepPacket packet).completeFrame packet).Mirrors
      (batch.read (.added packet frameType)) :=
    mirrors.keepPacket plain
  obtain ⟨along, next, idle⟩ := kept.encodeBatch joined
  refine ⟨⟨trivial, ?_, ?_, along⟩, next, idle⟩
  · exact decide_eq_true mirrors.idle
  · exact decide_eq_true (plain.trans started.unflagged.symm)

end Encoding

end UlpfecGenerator

section Runs

variable (encodeFec : List VideoPacket → FecProtectionParams → List (List UInt8))
variable {g : UlpfecGenerator} {batch : Batch}

/-- Verdicts on the events of two steps are one on all of them. -/
theorem along_watching_append {batch : Batch} {earlier later : List FecEvent}
    (first : Along (watching Batch.read) Batch.Explained batch earlier)
    (second : Along (watching Batch.read) Batch.Explained (earlier.foldl Batch.read batch) later) :
    Along (watching Batch.read) Batch.Explained batch (earlier ++ later) := by
  rw [along_append, finalState_watching]
  exact ⟨first, second⟩

theorem UlpfecGenerator.Mirrors.protectPacket (mirrors : g.Mirrors batch) (call : SendVideoCall)
    {packet : VideoPacket} (plain : packet.isKeyFrame = false) :
    let sent := MpWebRtc.protectPacket encodeFec g call packet
    Along (watching Batch.read) Batch.Explained batch sent.2 ∧
      sent.1.getFecPackets.2.Mirrors (sent.2.foldl Batch.read batch) ∧
      (packet.marker = false → sent.1.generatedFecPackets = []) := by
  unfold MpWebRtc.protectPacket
  split
  · exact mirrors.addPacketAndGenerateFec plain
  · refine ⟨trivial, ?_, fun _ => mirrors.idle⟩
    rw [mirrors.getFecPackets]
    exact mirrors

/-- Only the last packet of a frame has a marker, so that the FEC packets that are generated with it
are fetched before the next packet. -/
theorem UlpfecGenerator.Mirrors.sendPackets (mirrors : g.Mirrors batch) (call : SendVideoCall)
    (attempts : List PacketAttempt) :
    let sent := MpWebRtc.sendPackets encodeFec call g attempts
    Along (watching Batch.read) Batch.Explained batch sent.2.2 ∧
      (if sent.1 then sent.2.1.getFecPackets.2 else sent.2.1).Mirrors
        (sent.2.2.foldl Batch.read batch) := by
  induction attempts generalizing g batch with
  | nil =>
      refine ⟨trivial, ?_⟩
      show g.getFecPackets.2.Mirrors batch
      rw [mirrors.getFecPackets]
      exact mirrors
  | cons attempt attempts ih =>
      obtain ⟨set, next⟩ := mirrors.setAll attempt.parametersSet
      unfold MpWebRtc.sendPackets
      dsimp only
      split
      · rename_i payload sequenceNumber _ _
        have plain : ({ sequenceNumber, marker := call.endOfPicture && attempts.isEmpty, payload } :
            VideoPacket).isKeyFrame = false := rfl
        obtain ⟨sent, fetched, idle⟩ := next.protectPacket encodeFec call plain
        have both := along_watching_append set sent
        rw [← List.foldl_append] at fetched
        cases attempts with
        | nil =>
            refine ⟨along_watching_append both trivial, ?_⟩
            rw [List.foldl_append]
            exact fetched
        | cons following attempts =>
            rw [UlpfecGenerator.getFecPackets_of_idle (idle (Bool.and_false _))] at fetched
            obtain ⟨rest, last⟩ := ih fetched
            refine ⟨along_watching_append both rest, ?_⟩
            rw [List.foldl_append]
            exact last
      · exact ⟨set, next⟩

/-- A call of `SendVideo` is explained, and leaves the generator between two packets. -/
theorem UlpfecGenerator.Mirrors.videoStep (mirrors : g.Mirrors batch) (event : VideoEvent) :
    Along (watching Batch.read) Batch.Explained batch (MpWebRtc.videoStep encodeFec g event).2 ∧
      (MpWebRtc.videoStep encodeFec g event).1.Mirrors
        ((MpWebRtc.videoStep encodeFec g event).2.foldl Batch.read batch) := by
  cases event with
  | setProtectionParameters params => exact mirrors.setAll [params]
  | sendVideo call =>
      unfold MpWebRtc.videoStep sendVideo
      dsimp only
      split
      · exact ⟨trivial, mirrors⟩
      · exact mirrors.sendPackets encodeFec call call.attempts

variable (redPayloadType ulpfecPayloadType : UInt8)

/-- The generator at its construction. -/
def newGenerator : UlpfecGenerator where
  redPayloadType := redPayloadType
  ulpfecPayloadType := ulpfecPayloadType

variable (events : List VideoEvent)

/-- In every run, whatever the encoder makes of a batch, the assertions hold and each batch is
encoded from its first packet on, always with the parameters for frames that are no key frames. -/
theorem videoRun_explained :
    Along (watching Batch.read) Batch.Explained {}
      (outputs (videoStep encodeFec) (newGenerator redPayloadType ulpfecPayloadType) events) := by
  apply along_outputs UlpfecGenerator.Mirrors
  · intro g batch event mirrors
    exact mirrors.videoStep encodeFec event
  · exact ⟨rfl, rfl, rfl, fun nonempty => absurd rfl nonempty, rfl⟩

/-- A run is sound exactly when none of its batches that are encoded starts with a key frame whose
parameters differ from those for other frames. -/
theorem videoRun_sound_iff :
    Batch.SoundRun
        (outputs (videoStep encodeFec) (newGenerator redPayloadType ulpfecPayloadType) events) ↔
      Along (watching Batch.read) Batch.Alike {}
        (outputs (videoStep encodeFec) (newGenerator redPayloadType ulpfecPayloadType) events) := by
  have explained := videoRun_explained encodeFec redPayloadType ulpfecPayloadType events
  constructor
  · intro sound
    apply (explained.and sound).mono
    exact fun batch event both => both.1.sound_iff.mp both.2
  · intro alike
    apply (explained.and alike).mono
    exact fun batch event both => both.1.sound_iff.mpr both.2

end Runs

/-- Twice as much protection for key frames, and one key frame in a single packet. -/
def keyFrameSent : List VideoEvent :=
  [.setProtectionParameters
    { deltaParams := { fecRate := 64, maxFecFrames := 1 }
      keyframeParams := { fecRate := 128, maxFecFrames := 1 } },
   .sendVideo
    { frameType := .kVideoFrameKey
      attempts := [{ payload := some [1], sequenceNumber := some 7 }] }]

/-- The key frame is protected like any other frame. -/
theorem key_frame_unprotected :
    ¬Batch.SoundRun (outputs (videoStep fun _ _ => [[0]]) (newGenerator 100 101) keyFrameSent) := by
  rintro ⟨-, -, -, -, sound, -⟩
  exact absurd sound.2.2 (by decide)

end MpWebRtc
