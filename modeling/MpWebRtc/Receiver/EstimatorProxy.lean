import MpWebRtc.Math.OrderedMap
import MpWebRtc.Math.Run
import MpWebRtc.Rtcp.TransportFeedback
import MpWebRtc.Unwrapper

/-!
# The proxy for the sender's bandwidth estimation

`RemoteEstimatorProxy` remembers when the packets of each path arrived and reports the
times to the sender: periodically from a window start on, or for the packets a sender
asks for. The two paths have maps, window starts and message counters of their own, but
the numbers of both go through one unwrapper. A failed `RTC_CHECK` ends the program;
here it is a flag, after which nothing happens anymore.
-/

namespace MpWebRtc

open Math Math.Serial

/-- `kMaxNumberOfPackets`. -/
def kMaxNumberOfPackets : Int := 1 <<< 15

/-- The default of `back_window`. -/
def kBackWindowMs : Int := 500

/-- `kMaxTimeMs`. -/
def kMaxTimeMs : Int := (2 ^ 63 - 1) / 1000

/-- `FeedbackRequest`. -/
structure FeedbackRequest where
  includeTimestamps : Bool
  sequenceCount : Int

/-- The fields of `RTPHeader` the proxy reads; an extension may be absent. -/
structure ArrivedHeader where
  ssrc : UInt32 := 0
  sandy : Option UInt8
  mpTransportSequenceNumber : Option UInt16
  feedbackRequest : Option FeedbackRequest := none

/-- What the proxy keeps for one path. -/
structure PathArrivals where
  periodicWindowStartSeq : Option Int := none
  packetArrivalTimes : OrderedMap Int Int := {}
  feedbackPacketCount : UInt8 := 0
  lastProcessTimeMs : Int := -1

namespace PathArrivals

variable (path : PathArrivals)

/-- Nothing is left to report. -/
def reported : Bool :=
  match path.periodicWindowStartSeq with
  | none => false
  | some start => (path.packetArrivalTimes.lowerBound start).isEmpty

/-- Start a new feedback packet: cull old packets, and extend the window to the number. -/
def openWindow (seq arrivalTimeMs : Int) : PathArrivals :=
  { path with
    packetArrivalTimes :=
      if path.reported then
        path.packetArrivalTimes.dropWhile fun entry =>
          decide (entry.1 < seq) && decide (arrivalTimeMs - entry.2 ≥ kBackWindowMs)
      else path.packetArrivalTimes
    periodicWindowStartSeq :=
      match path.periodicWindowStartSeq with
      | none => some seq
      | some start => if seq < start then some seq else some start }

/-- Limit the range of sequence numbers to send feedback for. -/
def limitRange (sendPeriodicFeedback : Bool) : PathArrivals :=
  match path.packetArrivalTimes.maxKey with
  | none => path
  | some newest =>
      if path.packetArrivalTimes.entries.any fun entry =>
          decide (entry.1 < newest - kMaxNumberOfPackets) then
        let kept := path.packetArrivalTimes.filter fun entry =>
          decide (newest - kMaxNumberOfPackets ≤ entry.1)
        { path with
          packetArrivalTimes := kept
          periodicWindowStartSeq :=
            if sendPeriodicFeedback then kept.entries.head?.map Prod.fst
            else path.periodicWindowStartSeq }
      else path

/-- The part of `IncomingPacket` about one path: whether the packet is new, and the path
after it. -/
def arrive (sendPeriodicFeedback : Bool) (seq arrivalTimeMs : Int) : PathArrivals × Bool :=
  let path := if sendPeriodicFeedback then path.openWindow seq arrivalTimeMs else path
  if (path.packetArrivalTimes.find seq).isSome then (path, false)
  else
    (({ path with packetArrivalTimes := path.packetArrivalTimes.insert seq arrivalTimeMs } :
      PathArrivals).limitRange sendPeriodicFeedback, true)

end PathArrivals

/-- The loop of `BuildFeedbackPacket` behind the first packet: the message, and the
number after the last one added. -/
def addArrivals : (entries : List (Int × Int)) → (fb : TransportFeedback) →
    (nextSequenceNumber : Int) → TransportFeedback × Int
  | [], fb, nextSequenceNumber => (fb, nextSequenceNumber)
  | entry :: entries, fb, nextSequenceNumber =>
      match fb.addReceivedPacket (wrap entry.1) (entry.2 * 1000) with
      | (fb, true) => addArrivals entries fb (entry.1 + 1)
      | (fb, false) => (fb, nextSequenceNumber)

/-- `BuildFeedbackPacket`, for the entries from `begin_iterator` to `end_iterator`; no
result if `RTC_CHECK(begin_iterator != it)` fails. -/
def buildFeedbackPacket (feedbackPacketCount : UInt8) (mediaSsrc : UInt32)
    (baseSequenceNumber beginTimeMs : Int) (entries : List (Int × Int)) (fb : TransportFeedback) :
    Option (TransportFeedback × Int) :=
  let fb := ((fb.setMediaSsrc mediaSsrc).setBase (wrap baseSequenceNumber)
    (beginTimeMs * 1000)).setFeedbackSequenceNumber feedbackPacketCount
  match entries with
  | [] => some (fb, baseSequenceNumber)
  | entry :: entries =>
      match fb.addReceivedPacket (wrap entry.1) (entry.2 * 1000) with
      | (fb, true) => some (addArrivals entries fb (entry.1 + 1))
      | (_, false) => none

/-- A message handed to `SendCombinedRtcpPacket`, with the path it is about. -/
structure SentFeedback where
  pathid : Int32
  packet : TransportFeedback

/-- How a round of the loop of `SendPeriodicFeedbacks` ends. -/
inductive WindowRound where
  | done
  | failed (path : PathArrivals)
  | sent (message : SentFeedback) (path : PathArrivals) (start : Int)

/-- A round of the loop of `SendPeriodicFeedbacks` for one path. -/
def sendRound (pathid : Int32) (mediaSsrc : UInt32) (path : PathArrivals) (start : Int) :
    WindowRound :=
  match path.packetArrivalTimes.lowerBound start with
  | [] => .done
  | first :: entries =>
      let counted := { path with feedbackPacketCount := path.feedbackPacketCount + 1 }
      match buildFeedbackPacket path.feedbackPacketCount mediaSsrc start first.2 (first :: entries)
          (.ofPathid pathid) with
      | none => .failed counted
      | some (packet, next) =>
          .sent ⟨pathid, packet⟩ { counted with periodicWindowStartSeq := some next } next

/-- The loop of `SendPeriodicFeedbacks` for one path; `fuel` bounds the messages. The
flag says that no check failed. -/
def sendWindow (pathid : Int32) (mediaSsrc : UInt32) :
    (fuel : Nat) → (path : PathArrivals) → (start : Int) →
      PathArrivals × List SentFeedback × Bool
  | 0, path, _ => (path, [], true)
  | fuel + 1, path, start =>
      match sendRound pathid mediaSsrc path start with
      | .done => (path, [], true)
      | .failed path => (path, [], false)
      | .sent message path start =>
          let rest := sendWindow pathid mediaSsrc fuel path start
          (rest.1, message :: rest.2.1, rest.2.2)

/-- The part of `SendPeriodicFeedbacks` about one path. The first call only takes the time. -/
def PathArrivals.sendPeriodic (path : PathArrivals) (pathid : Int32) (mediaSsrc : UInt32)
    (nowMs : Int) : PathArrivals × List SentFeedback × Bool :=
  if path.lastProcessTimeMs < 0 then ({ path with lastProcessTimeMs := nowMs }, [], true)
  else
    match path.periodicWindowStartSeq with
    | none => (path, [], true)
    | some start =>
        let sent := sendWindow pathid mediaSsrc path.packetArrivalTimes.entries.length path start
        ({ sent.1 with lastProcessTimeMs := if sent.2.2 then nowMs else path.lastProcessTimeMs },
          sent.2.1, sent.2.2)

/-- `RemoteEstimatorProxy`. -/
structure EstimatorProxy where
  primary : PathArrivals := {}
  secondary : PathArrivals := {}
  unwrapper : SeqNumUnwrapper := {}
  mediaSsrc : UInt32 := 0
  sendPeriodicFeedback : Bool := true
  checkFailed : Bool := false

namespace EstimatorProxy

variable (proxy : EstimatorProxy)

/-- The state of a path. -/
def path (pathid : Int32) : PathArrivals :=
  if pathid ≠ 2 then proxy.primary else proxy.secondary

/-- Replace the state of a path. -/
def setPath (pathid : Int32) (path : PathArrivals) : EstimatorProxy :=
  if pathid ≠ 2 then { proxy with primary := path } else { proxy with secondary := path }

/-- The path `IncomingPacket` counts a packet with this extension for. -/
def pathOfSandy (sandy : UInt8) : Int32 :=
  if sandy = 2 then 2
  else if sandy = 1 then 1
  else if sandy ≤ 0 ∨ sandy = 4 ∨ sandy = 1 then 1
  else 2

/-- `SendFeedbackOnRequest`. The message is made by the constructor with two flags: the
path id goes into `include_lost` and the path of the message stays the default. -/
def sendFeedbackOnRequest (sequenceNumber : Int)
    (request : FeedbackRequest) (pathid : Int32) : EstimatorProxy × List SentFeedback :=
  if request.sequenceCount = 0 then (proxy, [])
  else
    let path := proxy.path pathid
    let packet : TransportFeedback :=
      { includeTimestamps := request.includeTimestamps
        includeLost := decide (pathid ≠ 0)
        pathid := -1 }
    let firstSequenceNumber := sequenceNumber - request.sequenceCount + 1
    let behind := path.packetArrivalTimes.lowerBound firstSequenceNumber
    let counted := { path with feedbackPacketCount := path.feedbackPacketCount + 1 }
    match buildFeedbackPacket path.feedbackPacketCount proxy.mediaSsrc firstSequenceNumber
        ((behind.head?.map Prod.snd).getD 0)
        (behind.filter fun entry => decide (entry.1 ≤ sequenceNumber)) packet with
    | none =>
        let proxy := proxy.setPath pathid counted
        ({ proxy with checkFailed := true }, [])
    | some (packet, _) =>
        let kept := path.packetArrivalTimes.filter fun entry =>
          decide (firstSequenceNumber ≤ entry.1)
        (proxy.setPath pathid { counted with packetArrivalTimes := kept }, [⟨pathid, packet⟩])

/-- The path and the unwrapped number of a packet; without the extensions both stay -1. -/
def place (header : ArrivedHeader) : EstimatorProxy × Int32 × Int :=
  match header.sandy, header.mpTransportSequenceNumber with
  | some sandy, some number =>
      let unwrapped := proxy.unwrapper.unwrap number
      -- `subflow_seq` has 32 bits.
      ({ proxy with unwrapper := unwrapped.2 }, pathOfSandy sandy, unwrapped.1.bmod (2 ^ 32))
  | _, _ => (proxy, -1, -1)

/-- The path of a packet that was placed there; all but 2 is the first path. -/
def countedPath (pathid : Int32) : Int32 := if pathid ≠ 2 then 1 else 2

/-- Remember a packet that was placed, and whether it is new. -/
def remember (pathid : Int32) (seq arrivalTimeMs : Int) : EstimatorProxy × Bool :=
  let arrived := (proxy.path pathid).arrive proxy.sendPeriodicFeedback seq arrivalTimeMs
  (proxy.setPath pathid arrived.1, arrived.2)

/-- `IncomingPacket`. -/
def incomingPacket (arrivalTimeMs : Int) (header : ArrivedHeader) :
    EstimatorProxy × List SentFeedback :=
  if arrivalTimeMs < 0 ∨ arrivalTimeMs > kMaxTimeMs then (proxy, [])
  else
    let placed := ({ proxy with mediaSsrc := header.ssrc } : EstimatorProxy).place header
    let remembered := placed.1.remember (countedPath placed.2.1) placed.2.2 arrivalTimeMs
    match remembered.2, header.feedbackRequest with
    | true, some request =>
        remembered.1.sendFeedbackOnRequest placed.2.2 request (countedPath placed.2.1)
    | _, _ => (remembered.1, [])

/-- `SendPeriodicFeedbacks`. -/
def sendPeriodicFeedbacks (nowMs : Int) : EstimatorProxy × List SentFeedback :=
  if proxy.primary.periodicWindowStartSeq = none ∧ proxy.secondary.periodicWindowStartSeq = none then
    (proxy, [])
  else
    let first := proxy.primary.sendPeriodic 1 proxy.mediaSsrc nowMs
    if first.2.2 then
      let second := proxy.secondary.sendPeriodic 2 proxy.mediaSsrc nowMs
      ({ proxy with primary := first.1, secondary := second.1, checkFailed := !second.2.2 },
        first.2.1 ++ second.2.1)
    else ({ proxy with primary := first.1, checkFailed := true }, first.2.1)

/-- `Process`. -/
def process (nowMs : Int) : EstimatorProxy × List SentFeedback :=
  if proxy.sendPeriodicFeedback then proxy.sendPeriodicFeedbacks nowMs else (proxy, [])

end EstimatorProxy

/-- What happens to the proxy. -/
inductive ProxyEvent where
  | incomingPacket (arrivalTimeMs : Int) (header : ArrivedHeader)
  | process (nowMs : Nat)
  | setSendPeriodicFeedback (sendPeriodicFeedback : Bool)

/-- One event, unless a check has failed. -/
def EstimatorProxy.step (proxy : EstimatorProxy) (event : ProxyEvent) :
    EstimatorProxy × List SentFeedback :=
  if proxy.checkFailed then (proxy, [])
  else
    match event with
    | .incomingPacket arrivalTimeMs header => proxy.incomingPacket arrivalTimeMs header
    | .process nowMs => proxy.process nowMs
    | .setSendPeriodicFeedback sendPeriodicFeedback =>
        ({ proxy with sendPeriodicFeedback := sendPeriodicFeedback }, [])

section Building

variable {fb : TransportFeedback}

/-- The first packet of a message is at most 256 ticks after the base time. -/
theorem deltaTicks_setBase (fb : TransportFeedback) (base : UInt16) {timestampUs : Int}
    (nonneg : 0 ≤ timestampUs) : ∃ delta, (fb.setBase base timestampUs).deltaTicks timestampUs =
      some delta := by
  have period : kTimeWrapPeriodUs = 1073741824000 := rfl
  have half : kTimeWrapPeriodUs.tdiv 2 = 536870912000 := rfl
  have scale : kBaseScaleFactor = 64000 := rfl
  have tick : kDeltaScaleFactor = 250 := rfl
  unfold TransportFeedback.deltaTicks TransportFeedback.setBase
  split
  · extract_lets baseTimeTicks deltaFull deltaWrapped rounding deltaRounded delta
    have base : baseTimeTicks = timestampUs % 1073741824000 / 64000 := by
      unfold baseTimeTicks
      rw [period, scale, Int.tmod_eq_emod_of_nonneg nonneg, Int.tdiv_eq_ediv_of_nonneg (by omega)]
    have full : deltaFull = timestampUs % 64000 := by
      change (timestampUs - baseTimeTicks * kBaseScaleFactor).tmod kTimeWrapPeriodUs = _
      rw [base, period, scale, Int.tmod_eq_emod_of_nonneg (by omega)]
      omega
    have wrapped : deltaWrapped = deltaFull := if_neg (by rw [half]; omega)
    have rounded : deltaRounded = (deltaFull + 125) / 250 := by
      unfold deltaRounded
      rw [wrapped, if_neg (by omega), tick]
      exact Int.tdiv_eq_ediv_of_nonneg (show 0 ≤ deltaFull + 125 by omega)
    have fits : delta = deltaRounded := by
      unfold delta
      rw [Int.bmod]
      split <;> omega
    rw [if_neg (not_not_intro fits)]
    exact ⟨_, rfl⟩
  · exact ⟨_, rfl⟩

/-- The first packet can be added if it is less than half a circle behind the base. -/
theorem addReceivedPacket_first {base number delta timestampUs : Int}
    (fresh : fb.numSeqNo = 0 ∧ fb.sizeBytes = kTransportFeedbackHeaderSizeBytes)
    (starts : fb.baseSeqNo = wrap base) (measured : fb.deltaTicks timestampUs = some delta)
    (after : base ≤ number) (near : number - base < 32767) :
    (fb.addReceivedPacket (wrap number) timestampUs).2 = true := by
  have gap := toNat_forwardDiff_wrap after (by omega)
  have behind : wrap base - 1 = wrap (base - 1) := by
    have back := wrap_add_ofNat (base - 1) 1
    rw [show base - 1 + ((1 : Nat) : Int) = base by omega] at back
    rw [← back]
    grind
  have turn := toNat_forwardDiff_wrap (show base - 1 ≤ number by omega) (by omega)
  have room : ∀ filled : TransportFeedback, filled.numSeqNo ≤ 32767 →
      filled.sizeBytes ≤ kTransportFeedbackHeaderSizeBytes + kChunkSizeBytes * 32767 →
      ∃ next, filled.addDeltaSize (TransportFeedback.deltaSize delta) = some next := by
    intro filled few small
    have size : TransportFeedback.deltaSize delta ≤ 2 := by
      unfold TransportFeedback.deltaSize
      split <;> omega
    apply TransportFeedback.exists_addDeltaSize
    · unfold kMaxReportedPackets
      omega
    · unfold kTransportFeedbackHeaderSizeBytes kChunkSizeBytes at *
      unfold kMaxSizeBytes
      omega
  unfold TransportFeedback.addReceivedPacket
  rw [measured]
  extract_lets nextSeqNo filled
  have expected : nextSeqNo = wrap base := by
    unfold nextSeqNo
    rw [fresh.1, starts]
    exact UInt16.add_zero _
  have full : filled.2 = true ∧ filled.1.numSeqNo ≤ 32767 ∧
      filled.1.sizeBytes ≤ kTransportFeedbackHeaderSizeBytes + kChunkSizeBytes * 32767 := by
    unfold filled
    rw [expected]
    split
    · exact ⟨rfl, by rw [fresh.1]; omega, by rw [fresh.2]; omega⟩
    · rw [behind, if_pos (aheadOf_of_forwardDiff (by omega) (by omega))]
      obtain ⟨success, counted, size⟩ := TransportFeedback.addLost_succeeds
        (forwardDiff (wrap base) (wrap number)).toNat fb (wrap base)
        (by rw [fresh.1]; unfold kMaxReportedPackets; omega)
        (by
          rw [fresh.2]
          unfold kTransportFeedbackHeaderSizeBytes kChunkSizeBytes kMaxSizeBytes
          omega)
      refine ⟨success, by omega, size.trans ?_⟩
      rw [fresh.2]
      unfold kChunkSizeBytes
      omega
  obtain ⟨next, added⟩ := room filled.1 full.2.1 full.2.2
  dsimp only
  rw [if_pos full.1, added]

/-- The loop adds packets from the front. -/
theorem addArrivals_spec (entries : List (Int × Int)) (fb : TransportFeedback) (next : Int) :
    ∃ taken rest, entries = taken ++ rest ∧
      (addArrivals entries fb next).1.heading = fb.heading ∧
      (addArrivals entries fb next).1.receivedPackets.map (·.sequenceNumber) =
        fb.receivedPackets.map (·.sequenceNumber) ++ taken.map (wrap ·.1) ∧
      (addArrivals entries fb next).2 = ((next - 1) :: taken.map (·.1)).getLast (by simp) + 1 := by
  induction entries generalizing fb next with
  | nil => exact ⟨[], [], rfl, rfl, by simp [addArrivals], by simp [addArrivals]⟩
  | cons entry entries ih =>
      unfold addArrivals
      obtain ⟨further, head, ⟨result, received⟩ | ⟨delta, result, received⟩⟩ :=
        fb.addReceivedPacket_cases (wrap entry.1) (entry.2 * 1000)
      · rw [result]
        exact ⟨[], entry :: entries, rfl, head, by simp [received], by simp⟩
      · rw [result]
        obtain ⟨taken, rest, split, unchanged, numbers, last⟩ := ih further (entry.1 + 1)
        refine ⟨entry :: taken, rest, by rw [split]; rfl, unchanged.trans head, ?_, ?_⟩
        · rw [numbers, received]
          simp
        · rw [last]
          simp

/-- A message reports packets from the front, if the first one is near enough to the base. -/
theorem buildFeedbackPacket_spec (pathid : Int32) (count : UInt8) (ssrc : UInt32) {base : Int}
    {first : Int × Int} (entries : List (Int × Int)) (nonneg : 0 ≤ first.2) (after : base ≤ first.1)
    (near : first.1 - base < 32767) :
    ∃ packet taken rest last,
      buildFeedbackPacket count ssrc base first.2 (first :: entries) (.ofPathid pathid) =
        some (packet, last.1 + 1) ∧
      first :: entries = taken ++ last :: rest ∧ packet.pathid = pathid ∧
      packet.receivedPackets.map (·.sequenceNumber) = (taken ++ [last]).map (wrap ·.1) := by
  unfold buildFeedbackPacket
  extract_lets fb
  obtain ⟨delta, measured⟩ := deltaTicks_setBase
    ((TransportFeedback.ofPathid pathid).setMediaSsrc ssrc) (wrap base)
    (show 0 ≤ first.2 * 1000 by omega)
  have success : (fb.addReceivedPacket (wrap first.1) (first.2 * 1000)).2 = true :=
    addReceivedPacket_first ⟨rfl, rfl⟩ rfl measured after near
  obtain ⟨further, head, ⟨result, -⟩ | ⟨_, result, received⟩⟩ :=
    fb.addReceivedPacket_cases (wrap first.1) (first.2 * 1000)
  · rw [result] at success
    cases success
  · obtain ⟨taken, rest, split, unchanged, numbers, last⟩ :=
      addArrivals_spec entries further (first.1 + 1)
    have path : (addArrivals entries further (first.1 + 1)).1.pathid = pathid :=
      congrArg (fun heading => heading.2.2.1) (unchanged.trans head)
    rw [received] at numbers
    dsimp only
    rw [result]
    rcases List.eq_nil_or_concat taken with rfl | ⟨taken, final, rfl⟩
    · have next : (addArrivals entries further (first.1 + 1)).2 = first.1 + 1 := by
        rw [last]
        simp
      exact ⟨_, [], rest, first, congrArg some (Prod.ext rfl next), by simp [split], path, numbers⟩
    · have next : (addArrivals entries further (first.1 + 1)).2 = final.1 + 1 := by
        rw [last]
        simp
      refine ⟨_, first :: taken, rest, final, congrArg some (Prod.ext rfl next), by simp [split],
        path, ?_⟩
      · rw [numbers]
        simp [fb, TransportFeedback.setBase, TransportFeedback.setMediaSsrc,
          TransportFeedback.setFeedbackSequenceNumber, TransportFeedback.ofPathid]

end Building

end MpWebRtc
