import MpWebRtc.Math.OrderedMap
import MpWebRtc.Rtcp.Packets

/-!
# Building a compound

`RTCPSender` keeps a set of pending flags, ordered by their values. A call adds the types
it was asked for, decides on the reports that go with them, and then builds one packet for
each flag in that order, for one path. A volatile flag is taken out when its turn comes; a
BYE is held back to the end.

The timers of the next report and the statistics of what was sent are not kept, and the
clock, the statistics of received streams and the numbers of the collector are inputs.
-/

namespace MpWebRtc

open Math

/-- `RtcpMode`. -/
inductive RtcpMode
  | off
  | compound
  | reducedSize
  deriving DecidableEq

def kAppSubtypeMpHalf : Nat := 0x0000
def kRtcpReport : Nat := 0x0001
def kRtcpSr : Nat := 0x0002
def kRtcpRr : Nat := 0x0004
def kRtcpSdes : Nat := 0x0008
def kRtcpBye : Nat := 0x0010
def kRtcpPli : Nat := 0x0020
def kRtcpNack : Nat := 0x0040
def kRtcpFir : Nat := 0x0080
def kRtcpTmmbr : Nat := 0x0100
def kRtcpTmmbn : Nat := 0x0200
def kRtcpLossNotification : Nat := 0x2000
def kRtcpRemb : Nat := 0x10000
def kRtcpXrReceiverReferenceTime : Nat := 0x40000
def kRtcpXrDlrrReportBlock : Nat := 0x80000
def kRtcpXrTargetBitrate : Nat := 0x200000
def kAppSubtypeMpFull : Nat := 0x1000000
def kAppSubtypeQuic : Nat := 0x2000000
def kAppSubtypeMpFrameRate : Nat := 0x3000000
def kAppSubtypeMpAsymmetry : Nat := 0x4000000
def kAppSubtypeMpRr1 : Nat := 0x5000000
def kAppSubtypeMpRr2 : Nat := 0x6000000

/-- `kRtcpAnyExtendedReports`. -/
def kRtcpAnyExtendedReports : Nat :=
  kRtcpXrReceiverReferenceTime ||| kRtcpXrDlrrReportBlock ||| kRtcpXrTargetBitrate

/-- Four bytes of application data. -/
def AppData : Type := { data : List UInt8 // data.length = 4 }

/-- `RTCPSender::FeedbackState`, with the bounding set of the receiver if there is one and
whether we own a part of it. -/
structure FeedbackState where
  packetsSent : UInt32 := 0
  mediaBytesSent : UInt32 := 0
  lastRrNtpSecs : UInt32 := 0
  lastRrNtpFrac : UInt32 := 0
  remoteSr : UInt32 := 0
  lastXrRtis : List ReceiveTimeInfo := []
  receiver : Option (List TmmbItem × Bool) := none

/-- `RTCPSender::RtcpContext`, with the clock, the collector, the search for the bounding set and
what the buffer has where a sender report is not written. -/
structure RtcpContext where
  feedbackState : FeedbackState := {}
  nackList : List UInt16 := []
  nowUs : Int := 0
  now : NtpTime := ⟨0, 0⟩
  compactNow : UInt32 := 0
  gap : UInt32 := 0
  asymmetryPackets : AppData := ⟨[0, 0, 0, 0], rfl⟩
  asymmetryRr1 : AppData := ⟨[0, 0, 0, 0], rfl⟩
  asymmetryRr2 : AppData := ⟨[0, 0, 0, 0], rfl⟩
  frameRate : AppData := ⟨[0, 0, 0, 0], rfl⟩
  findBoundingSet : List TmmbItem → List TmmbItem := id

theorem no_chunks_lt : ([] : List Chunk).length < kMaxNumberOfChunks := by decide

/-- `RTCPSender`. The named contributing sources are fewer than a packet can list, since
`AddMixedCNAME` refuses more. -/
structure RtcpSender where
  audio : Bool := false
  ssrc : UInt32
  method : RtcpMode := .compound
  sending : Bool := false
  timestampOffset : UInt32 := 0
  lastRtpTimestamp : UInt32 := 0
  lastFrameCaptureTimeMs : Int := -1
  lastPayloadType : Int := -1
  rtpClockRatesKhz : Int → Int := fun _ => 0
  remoteSsrc : UInt32
  cname : List UInt8 := []
  csrcCnames : { cnames : List Chunk // cnames.length < kMaxNumberOfChunks } :=
    ⟨[], no_chunks_lt⟩
  receiveStatistics : Option (Int32 → List ReportBlock) := none
  csrcs : List UInt32 := []
  sequenceNumberFir : UInt8 := 0
  lastDecodedSeqNum : UInt16 := 0
  lastReceivedSeqNum : UInt16 := 0
  decodabilityFlag : Bool := false
  rembBitrate : Nat := 0
  rembSsrcs : List UInt32 := []
  tmmbnToSend : List TmmbItem := []
  tmmbrSendBps : UInt32 := 0
  packetOhSend : UInt16 := 0
  maxPacketSize : Nat := kIpPacketSize - 28
  xrSendReceiverReferenceTimeEnabled : Bool := false
  sendVideoBitrateAllocation : Bool := false
  videoBitrateAllocation : List BitrateItem := []
  reportFlags : OrderedMap Nat Bool := {}

namespace RtcpSender

variable (sender : RtcpSender)

/-- `SetFlag`: all kinds of extended reports share one flag; a flag that is there stays. -/
def setFlag (type : Nat) (isVolatile : Bool) : RtcpSender :=
  { sender with
    reportFlags := sender.reportFlags.emplace
      (if type &&& kRtcpAnyExtendedReports ≠ 0 then kRtcpAnyExtendedReports else type) isVolatile }

/-- `SetFlags`. -/
def setFlags (types : List Nat) (isVolatile : Bool) : RtcpSender :=
  types.foldl (fun sender type => sender.setFlag type isVolatile) sender

/-- `IsFlagPresent`. -/
def isFlagPresent (type : Nat) : Bool := (sender.reportFlags.find type).isSome

/-- `ConsumeFlag`, not forced: whether the flag was there. -/
def consumeFlag (type : Nat) : RtcpSender × Bool :=
  match sender.reportFlags.find type with
  | none => (sender, false)
  | some true => ({ sender with reportFlags := sender.reportFlags.erase type }, true)
  | some false => (sender, true)

/-- `AllVolatileFlagsConsumed`. -/
def allVolatileFlagsConsumed : Bool :=
  sender.reportFlags.entries.all fun flag => !flag.2

/-- `MpPrimaryCreateReportBlocks` and `MpSecondaryCreateReportBlocks`, which differ in the
path they ask for. -/
def createReportBlocks (context : RtcpContext) (pathid : Int32) : List ReportBlock :=
  match sender.receiveStatistics with
  | none => []
  | some reportBlocks =>
      let feedback := context.feedbackState
      if feedback.lastRrNtpSecs ≠ 0 ∨ feedback.lastRrNtpFrac ≠ 0 then
        let receiveTime := (feedback.lastRrNtpSecs &&& 0x0000FFFF) <<< 16 +
          (feedback.lastRrNtpFrac &&& 0xffff0000) >>> 16
        (reportBlocks pathid).map fun block =>
          { block with
            lastSr := feedback.remoteSr
            delaySinceLastSr := context.compactNow - receiveTime }
      else reportBlocks pathid

/-- `SetReportBlocks`: too many are refused. -/
def setReportBlocks (blocks : List ReportBlock) :
    { blocks : List ReportBlock // blocks.length ≤ kMaxNumberOfReportBlocks } :=
  if few : blocks.length ≤ kMaxNumberOfReportBlocks then ⟨blocks, few⟩ else ⟨[], by decide⟩

/-- The report blocks of a path. -/
def reportBlocksFor (context : RtcpContext) (pathid : Int32) :
    { blocks : List ReportBlock // blocks.length ≤ kMaxNumberOfReportBlocks } :=
  setReportBlocks (sender.createReportBlocks context (if pathid ≠ 2 then 1 else 2))

/-- The RTP timestamp of this moment, in `BuildSR`. -/
def rtpTimestampNow (context : RtcpContext) : UInt32 :=
  let configured := sender.rtpClockRatesKhz sender.lastPayloadType
  let rtpRate := if configured ≤ 0 then (if sender.audio then 8 else 90) else configured
  let elapsed := ((context.nowUs + 500).tdiv 1000 - sender.lastFrameCaptureTimeMs) * rtpRate
  sender.timestampOffset + sender.lastRtpTimestamp + UInt32.ofNat (elapsed % 2 ^ 32).toNat

/-- `BuildSR`. -/
def buildSR (context : RtcpContext) (pathid : Int32) : RtcpPacket :=
  .senderReport pathid sender.ssrc context.now (sender.rtpTimestampNow context)
    context.feedbackState.packetsSent context.feedbackState.mediaBytesSent context.gap
    (sender.reportBlocksFor context pathid)

/-- `BuildRR`. -/
def buildRR (context : RtcpContext) (pathid : Int32) : RtcpPacket :=
  .receiverReport pathid sender.ssrc (sender.reportBlocksFor context pathid)

/-- `BuildSDES`. -/
def buildSDES (pathid : Int32) : RtcpPacket :=
  .sdes pathid ⟨⟨sender.ssrc, sender.cname⟩ :: sender.csrcCnames.val, sender.csrcCnames.property⟩

/-- `BuildPLI`. -/
def buildPLI (pathid : Int32) : RtcpPacket :=
  .pli pathid sender.ssrc sender.remoteSsrc

/-- `BuildFIR`. -/
def buildFIR (pathid : Int32) : RtcpSender × RtcpPacket :=
  let sender := { sender with sequenceNumberFir := sender.sequenceNumberFir + 1 }
  (sender, .fir pathid sender.ssrc [(sender.remoteSsrc, sender.sequenceNumberFir)])

/-- `BuildREMB`. -/
def buildREMB : RtcpPacket :=
  .remb sender.ssrc sender.rembBitrate
    (if sender.rembSsrcs.length ≤ kMaxNumberOfSsrcs then sender.rembSsrcs else [])

/-- `BuildTMMBR`: only if the request is new and would enter the bounding set. -/
def buildTMMBR (context : RtcpContext) : Option RtcpPacket :=
  match context.feedbackState.receiver with
  | none => none
  | some (candidates, tmmbrOwner) =>
      let own : TmmbItem := ⟨sender.ssrc, sender.tmmbrSendBps.toUInt64, sender.packetOhSend⟩
      let same (candidate : TmmbItem) : Bool :=
        decide (candidate.bitrateBps = own.bitrateBps ∧ candidate.packetOverhead = own.packetOverhead)
      let enters : Bool := tmmbrOwner ||
        (context.findBoundingSet (candidates ++ [own])).any fun item => decide (item.ssrc = sender.ssrc)
      if !candidates.isEmpty && (candidates.any same || !enters) then none
      else if sender.tmmbrSendBps = 0 then none
      else
        some (.tmmbr sender.ssrc
          [⟨sender.remoteSsrc, sender.tmmbrSendBps.toUInt64, sender.packetOhSend⟩])

/-- `BuildTMMBN`. -/
def buildTMMBN : RtcpPacket :=
  .tmmbn sender.ssrc (sender.tmmbnToSend.filter fun item => decide (0 < item.bitrateBps))

/-- `BuildLossNotification`. -/
def buildLossNotification (pathid : Int32) : RtcpPacket :=
  .lossNotification pathid sender.ssrc sender.remoteSsrc sender.lastDecodedSeqNum
    sender.lastReceivedSeqNum sender.decodabilityFlag

/-- `BuildNACK`. -/
def buildNACK (context : RtcpContext) (pathid : Int32) : RtcpPacket :=
  .nack pathid sender.ssrc sender.remoteSsrc (PackedNack.pack context.nackList)

/-- `BuildBYE`: too many contributing sources are refused. -/
def buildBYE : RtcpPacket :=
  .bye sender.ssrc
    (if few : sender.csrcs.length ≤ kMaxNumberOfCsrcs then ⟨sender.csrcs, few⟩
    else ⟨[], by decide⟩)

/-- `BuildExtendedReports`. -/
def buildExtendedReports (context : RtcpContext) : RtcpSender × RtcpPacket :=
  ({ sender with sendVideoBitrateAllocation := false },
    .extendedReports sender.ssrc
      (if !sender.sending && sender.xrSendReceiverReferenceTimeEnabled then some context.now
      else none)
      (context.feedbackState.lastXrRtis.take kMaxNumberOfDlrrItems)
      (if sender.sendVideoBitrateAllocation then some sender.videoBitrateAllocation else none))

/-- The `BuildAPP` functions: name "sand", a subtype and four bytes. -/
def buildAPP (pathid : Int32) (subType : Fin 32) (data : AppData) : RtcpPacket :=
  .app pathid sender.ssrc subType 0x73616e64 ⟨data.val, by rw [data.property]⟩

/-- A function that builds the packet of a flag, or none. -/
abbrev Builder := RtcpSender → RtcpContext → Int32 → RtcpSender × Option RtcpPacket

/-- `builders_`. -/
def builders : List (Nat × Builder) :=
  [(kRtcpSr, fun sender context pathid => (sender, some (sender.buildSR context pathid))),
    (kRtcpRr, fun sender context pathid => (sender, some (sender.buildRR context pathid))),
    (kRtcpSdes, fun sender _ pathid => (sender, some (sender.buildSDES pathid))),
    (kRtcpPli, fun sender _ pathid => (sender, some (sender.buildPLI pathid))),
    (kRtcpFir, fun sender _ pathid =>
      ((sender.buildFIR pathid).1, some (sender.buildFIR pathid).2)),
    (kRtcpRemb, fun sender _ _ => (sender, some sender.buildREMB)),
    (kRtcpBye, fun sender _ _ => (sender, some sender.buildBYE)),
    (kRtcpLossNotification, fun sender _ pathid =>
      (sender, some (sender.buildLossNotification pathid))),
    (kRtcpTmmbr, fun sender context _ => (sender, sender.buildTMMBR context)),
    (kRtcpTmmbn, fun sender _ _ => (sender, some sender.buildTMMBN)),
    (kRtcpNack, fun sender context pathid => (sender, some (sender.buildNACK context pathid))),
    (kRtcpAnyExtendedReports, fun sender context _ =>
      ((sender.buildExtendedReports context).1, some (sender.buildExtendedReports context).2)),
    (kAppSubtypeQuic, fun sender _ pathid =>
      (sender, some (sender.buildAPP pathid 1 ⟨[99, 99, 99, 99], rfl⟩))),
    (kAppSubtypeMpHalf, fun sender _ pathid =>
      (sender, some (sender.buildAPP pathid 1 ⟨[98, 98, 98, 98], rfl⟩))),
    (kAppSubtypeMpFull, fun sender _ pathid =>
      (sender, some (sender.buildAPP pathid 1 ⟨[97, 97, 97, 97], rfl⟩))),
    (kAppSubtypeMpFrameRate, fun sender context pathid =>
      (sender, some (sender.buildAPP pathid 2 context.frameRate))),
    (kAppSubtypeMpAsymmetry, fun sender context pathid =>
      (sender, some (sender.buildAPP pathid 3 context.asymmetryPackets))),
    (kAppSubtypeMpRr1, fun sender context pathid =>
      (sender, some (sender.buildAPP pathid 4 context.asymmetryRr1))),
    (kAppSubtypeMpRr2, fun sender context pathid =>
      (sender, some (sender.buildAPP pathid 5 context.asymmetryRr2)))]

theorem mem_of_lookup {flag : Nat} {build : Builder} (found : builders.lookup flag = some build) :
    (flag, build) ∈ builders := by
  obtain ⟨front, back, split, -⟩ := List.lookup_eq_some_iff.mp found
  rw [split]
  simp

/-- `PrepareReport`, without the timers. A report that was asked for explicitly leaves
`kRtcpReport` alone. -/
def prepareReport (context : RtcpContext) : RtcpSender :=
  let explicit := sender.isFlagPresent kRtcpSr || sender.isFlagPresent kRtcpRr
  let consumed := sender.consumeFlag kRtcpReport
  let generateReport := explicit || consumed.2 && decide (sender.method = .reducedSize) ||
    decide (sender.method = .compound)
  let sender :=
    if explicit then sender
    else if generateReport then
      consumed.1.setFlag (if sender.sending then kRtcpSr else kRtcpRr) true
    else consumed.1
  let sender :=
    if sender.isFlagPresent kRtcpSr || sender.isFlagPresent kRtcpRr && !sender.cname.isEmpty then
      sender.setFlag kRtcpSdes true
    else sender
  if generateReport && (!sender.sending && sender.xrSendReceiverReferenceTimeEnabled ||
      !context.feedbackState.lastXrRtis.isEmpty || sender.sendVideoBitrateAllocation) then
    sender.setFlag kRtcpAnyExtendedReports true
  else sender

/-- The packets built so far, and the BYE that waits for the end. -/
structure CompoundPacket where
  packets : List RtcpPacket := []
  bye : Option RtcpPacket := none

/-- One round of the loop over the flags: none, if a builder fails. A flag without builder is
passed over. -/
def buildFlag (context : RtcpContext) (pathid : Int32) (sender : RtcpSender)
    (out : CompoundPacket) (flag : Nat × Bool) : RtcpSender × Option CompoundPacket :=
  let sender :=
    if flag.2 then { sender with reportFlags := sender.reportFlags.erase flag.1 } else sender
  match builders.lookup flag.1 with
  | none => (sender, some out)
  | some build =>
      match build sender context pathid with
      | (sender, none) => (sender, none)
      | (sender, some packet) =>
          if flag.1 = kRtcpBye then (sender, some { out with bye := some packet })
          else (sender, some { out with packets := out.packets ++ [packet] })

/-- The loop over the flags. -/
def buildFlags (context : RtcpContext) (pathid : Int32) :
    (flags : List (Nat × Bool)) → (sender : RtcpSender) → (out : CompoundPacket) →
      RtcpSender × Option CompoundPacket
  | [], sender, out => (sender, some out)
  | flag :: flags, sender, out =>
      match buildFlag context pathid sender out flag with
      | (sender, none) => (sender, none)
      | (sender, some out) => buildFlags context pathid flags sender out

/-- What `ComputeCompoundRTCPPacket` does before media was sent: give up on a sender report.
The value is returned if the call ends there. -/
def withoutTimestamp : RtcpSender × Option Int :=
  let sr := sender.consumeFlag kRtcpSr
  let report := if sender.sending then sr.1.consumeFlag kRtcpReport else (sr.1, false)
  if (report.2 || sr.2) && report.1.allVolatileFlagsConsumed then (report.1, some 0)
  else if sender.sending && decide (sender.method = .compound) then (report.1, some (-1))
  else (report.1, none)

/-- The flags that are due once the types asked for are added and reports are decided on. -/
def prepare (context : RtcpContext) (packetTypes : List Nat) : RtcpSender × Option Int :=
  if sender.method = .off then (sender, some (-1))
  else
    let asked := sender.setFlags packetTypes true
    let ready := if 0 ≤ asked.lastFrameCaptureTimeMs then (asked, none) else asked.withoutTimestamp
    match ready with
    | (sender, some result) => (sender, some result)
    | (sender, none) => (sender.prepareReport context, none)

/-- `ComputeCompoundRTCPPacket`: the packets, or the value it returns without them. -/
def computeCompoundRTCPPacket (context : RtcpContext)
    (packetTypes : List Nat) (pathid : Int32) : RtcpSender × Except Int (List RtcpPacket) :=
  match sender.prepare context packetTypes with
  | (sender, some result) => (sender, .error result)
  | (sender, none) =>
      match buildFlags context pathid sender.reportFlags.entries sender {} with
      | (sender, none) => (sender, .error (-1))
      | (sender, some out) => (sender, .ok (out.packets ++ out.bye.toList))

/-- `SendCompoundRTCP`: the datagrams handed to the transport. -/
def sendCompoundRTCP (context : RtcpContext) (packetTypes : List Nat)
    (pathid : Int32) : List (List RtcpPacket) :=
  match sender.computeCompoundRTCPPacket context packetTypes pathid with
  | (_, .error _) => []
  | (sender, .ok packets) => buildCompound sender.maxPacketSize packets

end RtcpSender
end MpWebRtc
