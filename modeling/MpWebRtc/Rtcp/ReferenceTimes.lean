import MpWebRtc.Math.NodeList
import MpWebRtc.Rtcp.Packets

/-!
# Received reference times

`RTCPReceiver` keeps the reference times of other receivers in a list, and a map from their SSRCs
to the nodes of it. Extended reports add and change entries, a BYE removes one, and the sender
takes the first ones. List and map stay in step over any run, so that no iterator is used after
its node is gone, and what is taken is the latest of each SSRC.
-/

namespace MpWebRtc

open Math Math.Wire

def kMaxNumberOfStoredRrtrs : Nat := 300

/-- `CompactNtp`. -/
def compactNtp (ntp : NtpTime) : UInt32 := ntp.seconds <<< 16 ||| ntp.fractions >>> 16

/-- `RTCPReceiver::RrtrInformation`. -/
structure RrtrInformation where
  ssrc : UInt32
  receivedRemoteMidNtpTime : UInt32
  localReceiveMidNtpTime : UInt32

/-- The loop of `ExtendedReports::Parse` over the blocks. Only the first block with a reference
time is kept. -/
def readExtendedBlocks (blocks : List UInt8) (rrtr : Option NtpTime) : Option (Option NtpTime) :=
  if blocks.length < 4 then some rrtr
  else
    let blockType := blocks.getD 0 0
    let blockLength := readBigEndian ((blocks.drop 2).take 2)
    if blocks.length < 4 + blockLength * 4 then none
    else
      readExtendedBlocks (blocks.drop (4 + blockLength * 4))
        (if blockType = 4 ∧ blockLength = 2 ∧ rrtr = none then
          some ⟨ReportBlock.readWord blocks 4, ReportBlock.readWord blocks 8⟩
        else rrtr)
termination_by blocks.length
decreasing_by
  rw [List.length_drop]
  omega

variable (block : CommonHeader)

/-- `ExtendedReports::Parse`: who sent it, and the reference time in it. -/
def parseExtendedReports : Option (UInt32 × Option NtpTime) :=
  if block.payload.length < 4 then none
  else
    (readExtendedBlocks (block.payload.drop 4) none).map fun rrtr =>
      (ReportBlock.readWord block.payload 0, rrtr)

/-- `Bye::Parse`: who leaves. -/
def parseBye : Option UInt32 :=
  let size := block.payload.length
  if size < 4 * block.fmt then none
  else if 4 * block.fmt < size ∧
      size - 4 * block.fmt < 1 + (block.payload.getD (4 * block.fmt) 0).toNat then none
  else some (if block.fmt = 0 then 0 else ReportBlock.readWord block.payload 0)

/-- The reference times in `RTCPReceiver`. -/
structure ReferenceTimes where
  receivedRrtrs : NodeList RrtrInformation := {}
  receivedRrtrsSsrcIt : OrderedMap UInt32 Nat := {}
  numSkippedPackets : Nat := 0

namespace ReferenceTimes

variable (receiver : ReferenceTimes)

/-- `HandleXrReceiveReferenceTime`. -/
def handleXrReceiveReferenceTime (now : NtpTime) (senderSsrc : UInt32)
    (rrtr : NtpTime) : Option ReferenceTimes :=
  match receiver.receivedRrtrsSsrcIt.find senderSsrc with
  | some iterator =>
      (receiver.receivedRrtrs.update iterator fun info =>
        { info with
          receivedRemoteMidNtpTime := compactNtp rrtr
          localReceiveMidNtpTime := compactNtp now }).map fun rrtrs =>
        { receiver with receivedRrtrs := rrtrs }
  | none =>
      if receiver.receivedRrtrs.size < kMaxNumberOfStoredRrtrs then
        let rrtrs := receiver.receivedRrtrs.emplaceBack
          ⟨senderSsrc, compactNtp rrtr, compactNtp now⟩
        rrtrs.prevEnd.map fun iterator =>
          { receiver with
            receivedRrtrs := rrtrs
            receivedRrtrsSsrcIt := receiver.receivedRrtrsSsrcIt.insert senderSsrc iterator }
      else some receiver

/-- `HandleXr`, as far as reference times go. -/
def handleXr (now : NtpTime) (block : CommonHeader) : Option ReferenceTimes :=
  match parseExtendedReports block with
  | none => some { receiver with numSkippedPackets := receiver.numSkippedPackets + 1 }
  | some (_, none) => some receiver
  | some (senderSsrc, some rrtr) => receiver.handleXrReceiveReferenceTime now senderSsrc rrtr

/-- `HandleBye`, as far as reference times go. -/
def handleBye (block : CommonHeader) : Option ReferenceTimes :=
  match parseBye block with
  | none => some { receiver with numSkippedPackets := receiver.numSkippedPackets + 1 }
  | some senderSsrc =>
      match receiver.receivedRrtrsSsrcIt.find senderSsrc with
      | none => some receiver
      | some iterator =>
          (receiver.receivedRrtrs.erase iterator).map fun rrtrs =>
            { receiver with
              receivedRrtrs := rrtrs
              receivedRrtrsSsrcIt := receiver.receivedRrtrsSsrcIt.erase senderSsrc }

/-- The loop of `ConsumeReceivedXrReferenceTimeInfo`. -/
def consumeLoop (nowNtp : UInt32) : Nat → ReferenceTimes →
    Option (List ReceiveTimeInfo × ReferenceTimes)
  | 0, receiver => some ([], receiver)
  | count + 1, receiver => do
      let rrtr ← receiver.receivedRrtrs.front
      let rrtrs ← receiver.receivedRrtrs.popFront
      let (infos, receiver) ← consumeLoop nowNtp count
        { receiver with
          receivedRrtrs := rrtrs
          receivedRrtrsSsrcIt := receiver.receivedRrtrsSsrcIt.erase rrtr.ssrc }
      return (⟨rrtr.ssrc, rrtr.receivedRemoteMidNtpTime, nowNtp - rrtr.localReceiveMidNtpTime⟩ ::
        infos, receiver)

/-- `ConsumeReceivedXrReferenceTimeInfo`. -/
def consumeReceivedXrReferenceTimeInfo (now : NtpTime) :
    Option (List ReceiveTimeInfo × ReferenceTimes) :=
  consumeLoop (compactNtp now) (min receiver.receivedRrtrs.size kMaxNumberOfDlrrItems) receiver

end ReferenceTimes

/-- A packet that is handled, or a call of the sender. The clock is read as an NTP time. -/
inductive ReferenceEvent
  | extendedReports (now : NtpTime) (block : CommonHeader)
  | bye (block : CommonHeader)
  | consume (now : NtpTime)

/-- What is noted about an event with a reference time. -/
def ReferenceEvent.rrtr : ReferenceEvent → Option RrtrInformation
  | .extendedReports now block => do
      let (senderSsrc, rrtr) ← parseExtendedReports block
      let rrtr ← rrtr
      return ⟨senderSsrc, compactNtp rrtr, compactNtp now⟩
  | .bye _ | .consume _ => none

/-- The latest that was received of an SSRC. -/
def latestRrtr (events : List ReferenceEvent) (ssrc : UInt32) : Option RrtrInformation :=
  ((events.filterMap ReferenceEvent.rrtr).filter fun info => decide (info.ssrc = ssrc)).getLast?

/-- What the sender makes of an entry. -/
def RrtrInformation.toReceiveTimeInfo (info : RrtrInformation) (nowNtp : UInt32) :
    ReceiveTimeInfo :=
  ⟨info.ssrc, info.receivedRemoteMidNtpTime, nowNtp - info.localReceiveMidNtpTime⟩

namespace ReferenceTimes

/-- One event. -/
def step (receiver : ReferenceTimes) : ReferenceEvent → Option ReferenceTimes
  | .extendedReports now block => receiver.handleXr now block
  | .bye block => receiver.handleBye block
  | .consume now => (receiver.consumeReceivedXrReferenceTimeInfo now).map Prod.snd

variable {receiver : ReferenceTimes} {events : List ReferenceEvent}

/-- List and map in step, with the latest of each SSRC. -/
structure InStep (events : List ReferenceEvent) (receiver : ReferenceTimes) : Prop where
  indexes : NodeList.Indexes receiver.receivedRrtrsSsrcIt RrtrInformation.ssrc
    receiver.receivedRrtrs
  bounded : receiver.receivedRrtrs.size ≤ kMaxNumberOfStoredRrtrs
  latest : ∀ info ∈ receiver.receivedRrtrs.values, latestRrtr events info.ssrc = some info

variable {event : ReferenceEvent}

theorem latestRrtr_append_none (nothing : event.rrtr = none)
    (ssrc : UInt32) : latestRrtr (events ++ [event]) ssrc = latestRrtr events ssrc := by
  unfold latestRrtr
  rw [List.filterMap_append, List.filterMap_cons_none nothing, List.filterMap_nil, List.append_nil]

theorem latestRrtr_append_some {info : RrtrInformation}
    (noted : event.rrtr = some info) (ssrc : UInt32) :
    latestRrtr (events ++ [event]) ssrc =
      if info.ssrc = ssrc then some info else latestRrtr events ssrc := by
  unfold latestRrtr
  rw [List.filterMap_append, List.filterMap_cons_some noted, List.filterMap_nil, List.filter_append]
  by_cases same : info.ssrc = ssrc
  · rw [if_pos same, List.filter_cons_of_pos (by simpa using same), List.filter_nil,
      List.getLast?_concat]
  · rw [if_neg same, List.filter_cons_of_neg (by simpa using same), List.filter_nil,
      List.append_nil]

theorem inStep_initial : InStep [] {} where
  indexes := NodeList.Indexes.empty
  bounded := Nat.zero_le _
  latest := nofun

/-- Entries that are removed leave the rest in step. -/
theorem InStep.remove (inStep : InStep events receiver)
    (nothing : event.rrtr = none) {receiver' : ReferenceTimes}
    (indexes : NodeList.Indexes receiver'.receivedRrtrsSsrcIt RrtrInformation.ssrc
      receiver'.receivedRrtrs)
    (fewer : List.Sublist receiver'.receivedRrtrs.nodes receiver.receivedRrtrs.nodes) :
    InStep (events ++ [event]) receiver' where
  indexes := indexes
  bounded := fewer.length_le.trans inStep.bounded
  latest := by
    intro info member
    rw [latestRrtr_append_none nothing]
    exact inStep.latest info ((fewer.map Prod.snd).subset member)

theorem InStep.handleXrReceiveReferenceTime {event : ReferenceEvent}
    (inStep : InStep events receiver) {now rrtr : NtpTime} {senderSsrc : UInt32}
    (noted : event.rrtr = some ⟨senderSsrc, compactNtp rrtr, compactNtp now⟩) :
    ∃ receiver', receiver.handleXrReceiveReferenceTime now senderSsrc rrtr = some receiver' ∧
      InStep (events ++ [event]) receiver' := by
  cases found : receiver.receivedRrtrsSsrcIt.find senderSsrc with
  | some iterator =>
      obtain ⟨rrtrs, updated, indexes, values⟩ := @NodeList.Indexes.update _ _ _ _ _ _
        inStep.indexes _ _ found
        (fun info => ⟨info.ssrc, compactNtp rrtr, compactNtp now⟩) fun _ => rfl
      refine ⟨⟨rrtrs, receiver.receivedRrtrsSsrcIt, receiver.numSkippedPackets⟩, ?_, indexes,
        ?_, ?_⟩
      · rw [ReferenceTimes.handleXrReceiveReferenceTime, found]
        dsimp only
        rw [updated, Option.map_some]
      · have same := congrArg List.length values
        rw [NodeList.values, List.length_map, List.length_map, NodeList.values,
          List.length_map] at same
        exact same.trans_le inStep.bounded
      · intro info member
        change info ∈ rrtrs.values at member
        rw [values] at member
        obtain ⟨old, listed, rfl⟩ := List.mem_map.mp member
        rw [latestRrtr_append_some noted]
        by_cases here : old.ssrc = senderSsrc
        · rw [if_pos here, if_pos here.symm, here]
        · rw [if_neg here, if_neg (fun same => here same.symm)]
          exact inStep.latest old listed
  | none =>
      rw [ReferenceTimes.handleXrReceiveReferenceTime, found]
      dsimp only
      by_cases room : receiver.receivedRrtrs.size < kMaxNumberOfStoredRrtrs
      · rw [if_pos room, NodeList.prevEnd_emplaceBack]
        have indexes := @NodeList.Indexes.emplaceBack _ _ _ _ _ _ inStep.indexes
          ⟨senderSsrc, compactNtp rrtr, compactNtp now⟩ found
        refine ⟨_, rfl, indexes, ?_, ?_⟩
        · change (receiver.receivedRrtrs.nodes ++ [_]).length ≤ _
          rw [List.length_append, List.length_singleton]
          exact room
        · intro info member
          change info ∈ (receiver.receivedRrtrs.nodes ++ [_]).map Prod.snd at member
          rw [latestRrtr_append_some noted]
          rw [List.map_append] at member
          rcases List.mem_append.mp member with old | new
          · have apart := inStep.indexes.absent_of_find found info old
            rw [if_neg (fun same => apart same.symm)]
            exact inStep.latest info old
          · rw [List.mem_singleton.mp new, if_pos rfl]
      · rw [if_neg room]
        refine ⟨receiver, rfl, inStep.indexes, inStep.bounded, ?_⟩
        intro info member
        have apart := inStep.indexes.absent_of_find found info member
        rw [latestRrtr_append_some noted, if_neg (fun same => apart same.symm)]
        exact inStep.latest info member

/-- What the sender takes are the first entries, and they are gone with their keys. -/
theorem consumeLoop_spec (nowNtp : UInt32) {count : Nat} {list : NodeList RrtrInformation}
    {map : OrderedMap UInt32 Nat} (skipped : Nat)
    (indexes : NodeList.Indexes map RrtrInformation.ssrc list) (enough : count ≤ list.size) :
    ∃ receiver', consumeLoop nowNtp count ⟨list, map, skipped⟩ =
        some ((list.values.take count).map fun info => info.toReceiveTimeInfo nowNtp, receiver') ∧
      NodeList.Indexes receiver'.receivedRrtrsSsrcIt RrtrInformation.ssrc
        receiver'.receivedRrtrs ∧
      receiver'.receivedRrtrs.nodes = list.nodes.drop count := by
  induction count generalizing list map with
  | zero => exact ⟨_, rfl, indexes, rfl⟩
  | succ count ih =>
      obtain ⟨first, rest, shape⟩ := List.exists_cons_of_length_pos
        (show 0 < list.nodes.length by unfold NodeList.size at enough; omega)
      obtain ⟨behind, popped, remaining, others⟩ := indexes.popFront shape
      have left : count ≤ behind.size := by
        unfold NodeList.size at enough ⊢
        rw [shape, List.length_cons] at enough
        rw [remaining]
        omega
      obtain ⟨receiver', taken, whole, tail⟩ := ih others left
      have front : list.front = some first.2 := by
        rw [NodeList.front, shape]
        rfl
      refine ⟨receiver', ?_, whole, ?_⟩
      · rw [consumeLoop]
        dsimp only
        rw [front, popped]
        simp only [Option.bind_eq_bind, Option.bind_some]
        rw [taken]
        unfold NodeList.values
        rw [shape, remaining]
        rfl
      · rw [tail, remaining, shape]
        rfl

theorem InStep.consume (inStep : InStep events receiver) (now : NtpTime) :
    ∃ receiver', receiver.consumeReceivedXrReferenceTimeInfo now =
        some ((receiver.receivedRrtrs.values.take kMaxNumberOfDlrrItems).map
          fun info => info.toReceiveTimeInfo (compactNtp now), receiver') ∧
      InStep (events ++ [.consume now]) receiver' ∧
      receiver'.receivedRrtrs.values =
        receiver.receivedRrtrs.values.drop kMaxNumberOfDlrrItems := by
  obtain ⟨receiver', taken, whole, tail⟩ := consumeLoop_spec (compactNtp now)
    receiver.numSkippedPackets inStep.indexes (Nat.min_le_left _ kMaxNumberOfDlrrItems)
  have size : receiver.receivedRrtrs.size = receiver.receivedRrtrs.values.length :=
    (List.length_map _).symm
  refine ⟨receiver', ?_, ?_, ?_⟩
  · rw [List.take_eq_take_min, ← size, Nat.min_comm]
    exact taken
  · refine inStep.remove rfl whole ?_
    rw [tail]
    exact List.drop_sublist _ _
  · rw [List.drop_eq_drop_min, ← size, Nat.min_comm, NodeList.values, tail, List.map_drop]
    rfl

/-- One event keeps list and map in step, and uses no iterator whose node is gone. -/
theorem InStep.step (inStep : InStep events receiver) (event : ReferenceEvent) :
    ∃ receiver', receiver.step event = some receiver' ∧ InStep (events ++ [event]) receiver' := by
  cases event with
  | extendedReports now block =>
      unfold ReferenceTimes.step handleXr
      dsimp only
      cases parsed : parseExtendedReports block with
      | none =>
          refine ⟨_, rfl, inStep.remove ?_ inStep.indexes (List.Sublist.refl _)⟩
          rw [ReferenceEvent.rrtr, parsed]
          rfl
      | some report =>
          obtain ⟨senderSsrc, rrtr⟩ := report
          cases rrtr with
          | none =>
              refine ⟨_, rfl, inStep.remove ?_ inStep.indexes (List.Sublist.refl _)⟩
              rw [ReferenceEvent.rrtr, parsed]
              rfl
          | some rrtr =>
              refine inStep.handleXrReceiveReferenceTime ?_
              rw [ReferenceEvent.rrtr, parsed]
              rfl
  | bye block =>
      unfold ReferenceTimes.step handleBye
      dsimp only
      cases parseBye block with
      | none => exact ⟨_, rfl, inStep.remove rfl inStep.indexes (List.Sublist.refl _)⟩
      | some senderSsrc =>
          dsimp only
          cases found : receiver.receivedRrtrsSsrcIt.find senderSsrc with
          | none => exact ⟨_, rfl, inStep.remove rfl inStep.indexes (List.Sublist.refl _)⟩
          | some iterator =>
              obtain ⟨rrtrs, erased, indexes, remaining⟩ := inStep.indexes.erase found
              dsimp only
              rw [erased]
              refine ⟨_, rfl, inStep.remove rfl indexes ?_⟩
              dsimp only
              rw [remaining]
              exact List.filter_sublist
  | consume now =>
      obtain ⟨receiver', taken, next, -⟩ := inStep.consume now
      refine ⟨receiver', ?_, next⟩
      rw [ReferenceTimes.step, taken]
      rfl

theorem InStep.run (inStep : InStep events receiver) (later : List ReferenceEvent) :
    ∃ receiver', later.foldlM ReferenceTimes.step receiver = some receiver' ∧
      InStep (events ++ later) receiver' := by
  induction later generalizing events receiver with
  | nil =>
      refine ⟨receiver, rfl, ?_⟩
      rw [List.append_nil]
      exact inStep
  | cons event later ih =>
      obtain ⟨next, stepped, nextInStep⟩ := inStep.step event
      obtain ⟨receiver', ran, kept⟩ := ih nextInStep
      refine ⟨receiver', ?_, ?_⟩
      · rw [List.foldlM_cons, stepped]
        exact ran
      · rw [List.append_cons]
        exact kept

/-- **The book of reference times.** Over any run no iterator is used after its node is gone.
The map leads from each SSRC in the list to its node, and nowhere else, no SSRC is listed twice,
and the list stays within its limit. What the sender takes then are the first entries: each SSRC
once, with the latest that was received of it, and it is not pending any more. -/
theorem reference_times_in_step (events : List ReferenceEvent) :
    ∃ receiver, events.foldlM ReferenceTimes.step {} = some receiver ∧
      (∀ ssrc iterator, receiver.receivedRrtrsSsrcIt.find ssrc = some iterator ↔
        ∃ info, (iterator, info) ∈ receiver.receivedRrtrs.nodes ∧ info.ssrc = ssrc) ∧
      (receiver.receivedRrtrs.values.map RrtrInformation.ssrc).Nodup ∧
      receiver.receivedRrtrs.size ≤ kMaxNumberOfStoredRrtrs ∧
      ∀ now, ∃ infos receiver',
        receiver.consumeReceivedXrReferenceTimeInfo now = some (infos, receiver') ∧
        infos.length = min kMaxNumberOfDlrrItems receiver.receivedRrtrs.size ∧
        (infos.map ReceiveTimeInfo.ssrc).Nodup ∧
        ∀ info ∈ infos, ∃ rrtr ∈ receiver.receivedRrtrs.values,
          latestRrtr events info.ssrc = some rrtr ∧ info = rrtr.toReceiveTimeInfo (compactNtp now) ∧
          ∀ left ∈ receiver'.receivedRrtrs.values, left.ssrc ≠ info.ssrc := by
  obtain ⟨receiver, ran, inStep⟩ := inStep_initial.run events
  rw [List.nil_append] at inStep
  refine ⟨receiver, ran, inStep.indexes, inStep.indexes.nodup, inStep.bounded, fun now => ?_⟩
  obtain ⟨receiver', taken, -, left⟩ := inStep.consume now
  have once := inStep.indexes.nodup
  rw [← List.take_append_drop kMaxNumberOfDlrrItems receiver.receivedRrtrs.values, ← left,
    List.map_append] at once
  obtain ⟨first, -, apart⟩ := List.nodup_append.mp once
  refine ⟨_, receiver', taken, ?_, ?_, ?_⟩
  · rw [List.length_map, List.length_take, NodeList.values, List.length_map]
    rfl
  · rw [List.map_map]
    exact first
  · intro info member
    obtain ⟨rrtr, listed, rfl⟩ := List.mem_map.mp member
    have pending := List.mem_of_mem_take listed
    refine ⟨rrtr, pending, inStep.latest rrtr pending, rfl, fun other remaining same => ?_⟩
    exact apart _ (List.mem_map_of_mem listed) _ (List.mem_map_of_mem remaining) same.symm

end ReferenceTimes

end MpWebRtc
