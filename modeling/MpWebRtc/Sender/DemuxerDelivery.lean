import Mathlib.Data.List.Forall2
import MpWebRtc.Math.OrderedMap
import MpWebRtc.Math.Run
import MpWebRtc.Sender.Feedback

/-!
# Feedback reaches the streams

`TransportFeedbackDemuxer` hands each report to the observers of the packet's stream. For
each path the last 5000 packets are remembered, as long as they are not reported as
received. A packet is remembered under its unwrapped number on its path. Both paths and
their feedback share one unwrapper, which follows the packets that are added: the number
of a packet is found again if it is less than half a circle from the last packet that was
added on any path.
-/

namespace MpWebRtc

open Math.Run Math.Serial

variable {Observer : Type}

/-- `TransportFeedbackDemuxer` with its observers. -/
structure StreamDemuxer (Observer : Type) where
  packets : FeedbackDemuxer := {}
  observers : List (List Nat × Observer) := []

namespace StreamDemuxer

variable (demuxer : StreamDemuxer Observer)

/-- `RegisterStreamFeedbackObserver`. -/
def registerStreamFeedbackObserver (ssrcs : List Nat)
    (observer : Observer) : StreamDemuxer Observer :=
  { demuxer with observers := demuxer.observers ++ [(ssrcs, observer)] }

/-- `DeRegisterStreamFeedbackObserver`. -/
def deRegisterStreamFeedbackObserver [DecidableEq Observer]
    (observer : Observer) : StreamDemuxer Observer :=
  { demuxer with observers := demuxer.observers.eraseP fun entry => entry.2 = observer }

/-- The calls of `OnPacketFeedbackVector`: each observer gets the reports of its streams,
if there are any. -/
def notify (observers : List (List Nat × Observer)) (infos : List StreamPacketInfo)
    (pathid : Nat) : List (Observer × List StreamPacketInfo × Nat) :=
  observers.filterMap fun observer =>
    let selected := infos.filter fun info => decide (0 < observer.1.count info.ssrc)
    if selected.isEmpty then none else some (observer.2, selected, pathid)

/-- `OnTransportFeedback`. -/
def onTransportFeedback (packets : List (UInt16 × Bool))
    (pathid : Nat) : StreamDemuxer Observer × List (Observer × List StreamPacketInfo × Nat) :=
  ({ demuxer with
      packets := finalState (FeedbackDemuxer.reportPacket pathid) demuxer.packets packets },
    notify demuxer.observers
      (outputs (FeedbackDemuxer.reportPacket pathid) demuxer.packets packets) pathid)

end StreamDemuxer

/-- The calls of a demuxer. -/
inductive DemuxerEvent (Observer : Type) where
  | register (ssrcs : List Nat) (observer : Observer)
  | deRegister (observer : Observer)
  | addPacket (info : PacketSendInfo)
  | onTransportFeedback (packets : List (UInt16 × Bool)) (pathid : Nat)

/-- What happened on a path: the packets that were added, and those that were reported as
received. -/
structure PathLedger where
  added : List PacketSendInfo := []
  received : List Nat := []

namespace PathLedger

/-- The `n`-th packet is one of the last 5000, and belongs to a stream. -/
def LastAdded (ledger : PathLedger) (n : Nat) (record : PacketSendInfo) : Prop :=
  ledger.added[n]? = some record ∧ record.ssrc ≠ 0 ∧
    ledger.added.length ≤ n + kMaxPacketsInHistory

/-- A status reports the packet with its number among the last 5000. -/
def report (origin : Nat) (ledger : PathLedger) (status : UInt16 × Bool) : PathLedger :=
  if status.2 then
    { ledger with
      received := ledger.received ++ (List.range ledger.added.length).filter fun n =>
        decide (ledger.added.length ≤ n + kMaxPacketsInHistory ∧ wrap (origin + n) = status.1) }
  else ledger

end PathLedger

/-- A demuxer with what happened on the paths; the second path is `true`. -/
structure DemuxerRun (Observer : Type) where
  demuxer : StreamDemuxer Observer := {}
  ledger : Bool → PathLedger := fun _ => {}

namespace DemuxerRun

/-- The path of an id. -/
def pathOfId (pathid : Nat) : Bool := decide (pathid = 2)

variable (origin epoch : Bool → Nat)

/-- A call, with the calls of the observers. -/
def step [DecidableEq Observer] (run : DemuxerRun Observer) :
    DemuxerEvent Observer → DemuxerRun Observer × List (Observer × List StreamPacketInfo × Nat)
  | .register ssrcs observer =>
      ({ run with demuxer := run.demuxer.registerStreamFeedbackObserver ssrcs observer }, [])
  | .deRegister observer =>
      ({ run with demuxer := run.demuxer.deRegisterStreamFeedbackObserver observer }, [])
  | .addPacket info =>
      let path := pathOfId info.pathid
      ({ demuxer := { run.demuxer with packets := run.demuxer.packets.addPacket info }
         ledger := Function.update run.ledger path
          { run.ledger path with added := (run.ledger path).added ++ [info] } }, [])
  | .onTransportFeedback packets pathid =>
      let path := pathOfId pathid
      let handled := run.demuxer.onTransportFeedback packets pathid
      ({ demuxer := handled.1
         ledger := Function.update run.ledger path
          (packets.foldl (PathLedger.report (origin path)) (run.ledger path)) }, handled.2)

/-- The packets of each path are numbered consecutively, and a message has one status for
a number. -/
def Numbered (run : DemuxerRun Observer) : DemuxerEvent Observer → Prop
  | .register _ _ => True
  | .deRegister _ => True
  | .addPacket info =>
      info.mpTransportSequenceNumber = wrap (origin (pathOfId info.pathid) +
        (run.ledger (pathOfId info.pathid)).added.length)
  | .onTransportFeedback packets _ => (packets.map Prod.fst).Nodup

/-- The unwrapper finds a number. -/
def Lands (lastValue : Option Int) (number : Int) : Prop :=
  match lastValue with
  | none => number < 65536
  | some last => Nearest last number

/-- The last packet on any path does not lead out of the epoch of the path: for a packet
that is added, and for each status of one of the last 5000 packets. -/
def InEpoch (run : DemuxerRun Observer) : DemuxerEvent Observer → Prop
  | .register _ _ => True
  | .deRegister _ => True
  | .addPacket info =>
      let path := pathOfId info.pathid
      info.ssrc ≠ 0 → Lands run.demuxer.packets.lastValue
        (epochKey (origin path) (epoch path) (run.ledger path).added.length)
  | .onTransportFeedback packets pathid =>
      let path := pathOfId pathid
      ∀ status ∈ packets, ∀ n record, (run.ledger path).LastAdded n record →
        n ∉ (run.ledger path).received → status.1 = wrap (origin path + n) →
        Lands run.demuxer.packets.lastValue (epochKey (origin path) (epoch path) n)

/-- The report about a packet. -/
def reportOf (record : PacketSendInfo) (received : Bool) (pathid : Nat) : StreamPacketInfo where
  ssrc := record.ssrc
  rtpSequenceNumber := record.rtpSequenceNumber
  mpRtpSequenceNumber := record.mpRtpSequenceNumber
  pathid := some pathid
  received := received

/-- What a status should lead to: the report about the packet with its number among the
last 5000 that is not yet received, and in any case no report about a packet of the other
path. -/
structure Answers (origin : Nat) (ledger : PathLedger) (pathid : Nat) (status : UInt16 × Bool)
    (answer : List StreamPacketInfo) : Prop where
  complete : ∀ n record, ledger.LastAdded n record → n ∉ ledger.received →
    status.1 = wrap (origin + n) → answer = [reportOf record status.2 pathid]
  own : ∀ info ∈ answer, ∃ record ∈ ledger.added, info = reportOf record status.2 pathid

/-- What a message should lead to: every status is answered, and the observers get the
answers that are about their streams. -/
def Delivers [DecidableEq Observer] (run : DemuxerRun Observer) : DemuxerEvent Observer → Prop
  | .register _ _ => True
  | .deRegister _ => True
  | .addPacket _ => True
  | .onTransportFeedback packets pathid =>
      let path := pathOfId pathid
      ∃ answers, List.Forall₂ (Answers (origin path) (run.ledger path) pathid) packets answers ∧
        (run.step origin (.onTransportFeedback packets pathid)).2 =
          StreamDemuxer.notify run.demuxer.observers answers.flatten pathid

end DemuxerRun

namespace SentMap

variable {map : SentMap} {key top : Int} {info : StreamPacketInfo}
  {entry : Int × StreamPacketInfo}

/-- A key above all others goes to the end. -/
theorem insert_above (above : ∀ entry ∈ map, entry.1 < key) :
    map.insert key info = map ++ [(key, info)] := by
  have absent : map.any (fun entry => entry.1 == key) = false := by
    rw [List.any_eq_false]
    intro entry member
    simpa using (above entry member).ne
  unfold insert
  rw [absent, if_neg Bool.false_ne_true]
  clear absent
  induction map with
  | nil => rfl
  | cons first rest ih =>
      rw [List.forall_mem_cons] at above
      rw [List.orderedInsert, if_neg (by simpa using above.1), ih above.2, List.cons_append]

/-- Increasing numbers between two bounds are not more than fit. -/
theorem add_length_le {bottom : Int} (sorted : map.Pairwise fun first second => first.1 < second.1)
    (above : ∀ entry ∈ map, bottom < entry.1) (below : ∀ entry ∈ map, entry.1 ≤ top)
    (ordered : bottom ≤ top) : bottom + map.length ≤ top := by
  induction map generalizing bottom with
  | nil => simpa using ordered
  | cons first rest ih =>
      rw [List.pairwise_cons] at sorted
      rw [List.forall_mem_cons] at above below
      have remaining := ih sorted.2 sorted.1 below.2 below.1
      rw [List.length_cons]
      push_cast
      have step := above.1
      omega

/-- The last 5000 numbers are never dropped. -/
theorem mem_trim (sorted : map.Pairwise fun first second => first.1 < second.1)
    (below : ∀ entry ∈ map, entry.1 ≤ top) (member : entry ∈ map)
    (recent : top < entry.1 + kMaxPacketsInHistory) : entry ∈ map.trim := by
  have whole := List.take_append_drop (map.length - kMaxPacketsInHistory) map
  unfold trim
  by_contra dropped
  have early : entry ∈ List.take (map.length - kMaxPacketsInHistory) map := by
    rw [← whole, List.mem_append] at member
    exact member.resolve_right dropped
  have counted : (List.drop (map.length - kMaxPacketsInHistory) map).length =
      kMaxPacketsInHistory := by
    have some := List.length_pos_of_mem early
    rw [List.length_take] at some
    rw [List.length_drop]
    omega
  rw [← whole, List.pairwise_append] at sorted
  have fits := add_length_le sorted.2.1 (sorted.2.2 entry early)
    (fun other later => below other (List.mem_of_mem_drop later)) (below entry member)
  rw [counted] at fits
  omega

end SentMap

namespace DemuxerRun

/-- A path is in its epoch: what is remembered are packets of the path under their keys,
and the last 5000 are remembered as long as they are not received. -/
structure Filed (origin epoch : Nat) (ledger : PathLedger) (history : SentMap) : Prop where
  sorted : history.Pairwise fun first second => first.1 < second.1
  own : ∀ entry ∈ history, ∃ n record, ledger.added[n]? = some record ∧ record.ssrc ≠ 0 ∧
    entry = (epochKey origin epoch n, record.streamInfo)
  stored : ∀ n record, ledger.LastAdded n record → n ∉ ledger.received →
    (epochKey origin epoch n, record.streamInfo) ∈ history

section Path

variable {origin epoch : Nat} {ledger : PathLedger} {history : SentMap}

theorem Filed.key_lt (filed : Filed origin epoch ledger history) {entry : Int × StreamPacketInfo}
    (member : entry ∈ history) : entry.1 < epochKey origin epoch ledger.added.length := by
  obtain ⟨n, record, isAdded, -, rfl⟩ := filed.own entry member
  have bound := (List.getElem?_eq_some_iff.mp isAdded).1
  unfold epochKey
  dsimp only
  omega

/-- The packets of the path stay remembered when another one is added. -/
theorem LastAdded.before {info record : PacketSendInfo} {n : Nat}
    (last : PathLedger.LastAdded { ledger with added := ledger.added ++ [info] } n record) :
    ledger.LastAdded n record ∨ n = ledger.added.length ∧ record = info := by
  obtain ⟨isAdded, stream, recent⟩ := last
  dsimp only at isAdded recent
  rw [List.length_append, List.length_singleton] at recent
  rcases Nat.lt_or_ge n ledger.added.length with old | new
  · rw [List.getElem?_append_left old] at isAdded
    exact .inl ⟨isAdded, stream, by omega⟩
  · rw [List.getElem?_append_right new, List.getElem?_singleton] at isAdded
    split at isAdded
    · rename_i same
      exact .inr ⟨by omega, (Option.some_inj.mp isAdded).symm⟩
    · cases isAdded

/-- Adding a packet of a stream under the next key. -/
theorem Filed.addPacket (filed : Filed origin epoch ledger history) (info : PacketSendInfo) :
    Filed origin epoch { ledger with added := ledger.added ++ [info] }
      (SentMap.trim (if info.ssrc ≠ 0 then
        history.insert (epochKey origin epoch ledger.added.length) info.streamInfo
        else history)) := by
  rw [SentMap.insert_above fun entry member => filed.key_lt member]
  set grown : SentMap := if info.ssrc ≠ 0 then
    history ++ [(epochKey origin epoch ledger.added.length, info.streamInfo)] else history
    with isGrown
  -- what is remembered before old entries are dropped
  have members : ∀ entry, entry ∈ grown ↔ entry ∈ history ∨
      info.ssrc ≠ 0 ∧ entry = (epochKey origin epoch ledger.added.length, info.streamInfo) := by
    intro entry
    rw [isGrown]
    split
    · next stream => simp [stream]
    · next other => simp [other]
  have sorted : grown.Pairwise fun first second => first.1 < second.1 := by
    rw [isGrown]
    split
    · refine List.pairwise_append.mpr ⟨filed.sorted, List.pairwise_singleton _ _, ?_⟩
      intro entry member other isNew
      rw [List.mem_singleton.mp isNew]
      exact filed.key_lt member
    · exact filed.sorted
  have below : ∀ entry ∈ grown, entry.1 ≤ epochKey origin epoch ledger.added.length := by
    intro entry member
    rcases (members entry).mp member with old | ⟨-, rfl⟩
    · exact (filed.key_lt old).le
    · exact le_rfl
  refine ⟨sorted.sublist (List.drop_sublist _ _), fun entry member => ?_,
    fun n record last fresh => ?_⟩
  · rcases (members entry).mp (List.mem_of_mem_drop member) with old | ⟨stream, rfl⟩
    · obtain ⟨n, record, isAdded, place⟩ := filed.own entry old
      refine ⟨n, record, ?_, place⟩
      rw [List.getElem?_append_left (List.getElem?_eq_some_iff.mp isAdded).1, isAdded]
    · exact ⟨ledger.added.length, info, List.getElem?_concat_length, stream, rfl⟩
  · have recent : (ledger.added ++ [info]).length ≤ n + kMaxPacketsInHistory := last.2.2
    rw [List.length_append, List.length_singleton] at recent
    refine SentMap.mem_trim sorted below ((members _).mpr ?_) ?_
    · rcases LastAdded.before last with old | ⟨rfl, rfl⟩
      · exact .inl (filed.stored n record old fresh)
      · exact .inr ⟨last.2.1, rfl⟩
    · unfold epochKey
      dsimp only
      omega

/-- A status that reports a packet as received removes it. -/
theorem Filed.report (filed : Filed origin epoch ledger history) (lastValue : Option Int)
    (status : UInt16 × Bool) :
    Filed origin epoch (ledger.report origin status)
      (if status.2 then history.erase (unwrapWithoutUpdate lastValue status.1) else history) := by
  unfold PathLedger.report
  split
  · refine ⟨filed.sorted.sublist List.filter_sublist,
      fun entry member => filed.own entry (List.mem_of_mem_filter member),
      fun n record last fresh => ?_⟩
    have bound : n < ledger.added.length := (List.getElem?_eq_some_iff.mp last.1).1
    dsimp only at fresh
    rw [List.mem_append, not_or] at fresh
    refine List.mem_filter.mpr ⟨filed.stored n record last fresh.1, ?_⟩
    rw [bne_iff_ne]
    intro same
    -- the removed key has the number of the status
    have number : wrap (origin + n) = status.1 := by
      have crop := unwrapWithoutUpdate_emod lastValue status.1
      rw [← same, ← toNat_wrap, wrap_epochKey] at crop
      exact UInt16.toNat_inj.mp (Int.ofNat_inj.mp crop)
    refine fresh.2 (List.mem_filter.mpr ⟨List.mem_range.mpr bound, ?_⟩)
    exact decide_eq_true ⟨last.2.2, number⟩
  · exact filed

variable {lastValue : Option Int}

/-- The unwrapper finds the numbers for which it should. -/
theorem Lands.unwrap {n : Nat} (lands : Lands lastValue (epochKey origin epoch n))
    (natural : ∀ last, lastValue = some last → 0 ≤ last) :
    unwrapWithoutUpdate lastValue (wrap (origin + n)) = epochKey origin epoch n := by
  rw [← wrap_epochKey origin epoch]
  cases lastValue with
  | none =>
      have small : epochKey origin epoch n < 65536 := lands
      have positive := @epochKey_nonneg origin epoch n
      have crop := toNat_wrap (epochKey origin epoch n)
      unfold unwrapWithoutUpdate
      dsimp only
      omega
  | some last =>
      rw [unwrapWithoutUpdate_wrap_iff (natural last rfl) (epochKey_nonneg n)]
      exact lands

theorem Filed.find_eq_some_iff (filed : Filed origin epoch ledger history) {key : Int}
    {info : StreamPacketInfo} : history.find key = some info ↔ (key, info) ∈ history := by
  have same : history.find key = (⟨history, filed.sorted⟩ :
      Math.OrderedMap Int StreamPacketInfo).find key := by
    simp [SentMap.find, Math.OrderedMap.find, beq_eq_decide]
  rw [same, Math.OrderedMap.find_eq_some_iff]

/-- The packet under the unwrapped number answers the status. -/
theorem Filed.answers (filed : Filed origin epoch ledger history)
    (natural : ∀ last, lastValue = some last → 0 ≤ last) (pathid : Nat) (status : UInt16 × Bool)
    (lands : ∀ n record, ledger.LastAdded n record → n ∉ ledger.received →
      status.1 = wrap (origin + n) → Lands lastValue (epochKey origin epoch n)) :
    Answers origin ledger pathid status
      ((history.find (unwrapWithoutUpdate lastValue status.1)).toList.map fun info =>
        { info with received := status.2, pathid := some pathid }) := by
  constructor
  · intro n record last fresh number
    have landed := (lands n record last fresh number).unwrap natural
    rw [number, landed, filed.find_eq_some_iff.mpr (filed.stored n record last fresh)]
    rfl
  · intro info answered
    obtain ⟨known, found, rfl⟩ := List.mem_map.mp answered
    have member := filed.find_eq_some_iff.mp (Option.mem_toList.mp found)
    obtain ⟨n, record, isAdded, -, place⟩ := filed.own _ member
    refine ⟨record, List.mem_of_getElem? isAdded, ?_⟩
    rw [(Prod.mk.inj place).2]
    rfl

end Path

variable (d : FeedbackDemuxer)

/-- What a status does to the demuxer. -/
theorem reportPacket_spec (pathid : Nat) (status : UInt16 × Bool) :
    (d.reportPacket pathid status).1.lastValue = d.lastValue ∧
      (∀ k, (d.reportPacket pathid status).1.historyOf k =
        if pathid = 2 ↔ k = 2 then
          if status.2 then
            (d.historyOf pathid).erase (unwrapWithoutUpdate d.lastValue status.1)
          else d.historyOf pathid
        else d.historyOf k) ∧
      (d.reportPacket pathid status).2 =
        ((d.historyOf pathid).find (unwrapWithoutUpdate d.lastValue status.1)).toList.map
          fun info => { info with received := status.2, pathid := some pathid } := by
  unfold FeedbackDemuxer.reportPacket
  dsimp only
  split
  · rename_i unknown
    refine ⟨rfl, fun k => ?_, by rw [unknown]; rfl⟩
    have absent : (d.historyOf pathid).erase (unwrapWithoutUpdate d.lastValue status.1) =
        d.historyOf pathid := by
      refine List.filter_eq_self.mpr fun entry member => ?_
      rw [SentMap.find, Option.map_eq_none_iff, List.find?_eq_none] at unknown
      simpa using unknown entry member
    split
    · next same => rw [absent, ite_self, FeedbackDemuxer.historyOf_congr d same]
    · rfl
  · rename_i info found
    refine ⟨?_, fun k => ?_, by rw [found]; rfl⟩
    · split
      · unfold FeedbackDemuxer.setHistory
        split <;> rfl
      · rfl
    · split
      · rw [FeedbackDemuxer.historyOf_setHistory]
      · split
        · next same => rw [FeedbackDemuxer.historyOf_congr d same]
        · rfl

section Message

variable {origin epoch : Nat} {ledger : PathLedger} {d : FeedbackDemuxer} {pathid : Nat}

@[simp] theorem report_added (status : UInt16 × Bool) :
    (ledger.report origin status).added = ledger.added := by
  unfold PathLedger.report
  split <;> rfl

/-- A status marks only packets with its number. -/
theorem mem_report_received {status : UInt16 × Bool} {n : Nat}
    (member : n ∈ (ledger.report origin status).received) :
    n ∈ ledger.received ∨ wrap (origin + n) = status.1 := by
  unfold PathLedger.report at member
  split at member
  · rcases List.mem_append.mp member with old | new
    · exact .inl old
    · exact .inr (of_decide_eq_true (List.mem_filter.mp new).2).2
  · exact .inl member

/-- **Message rule.** The statuses of a message are answered one after the other. In
between, packets with other numbers become received, which changes nothing for the
statuses that follow. -/
theorem reportPackets_answers {current : PathLedger} {statuses : List (UInt16 × Bool)}
    (filed : Filed origin epoch current (d.historyOf pathid))
    (natural : ∀ last, d.lastValue = some last → 0 ≤ last)
    (distinct : (statuses.map Prod.fst).Nodup) (same : current.added = ledger.added)
    (fresh : ∀ status ∈ statuses, ∀ n : Nat, status.1 = wrap (origin + n) →
      n ∉ ledger.received → n ∉ current.received)
    (marked : ∀ n ∈ ledger.received, n ∈ current.received)
    (lands : ∀ status ∈ statuses, ∀ n record, ledger.LastAdded n record →
      n ∉ ledger.received → status.1 = wrap (origin + n) →
      Lands d.lastValue (epochKey origin epoch n)) :
    (∃ answers, List.Forall₂ (Answers origin ledger pathid) statuses answers ∧
        outputs (FeedbackDemuxer.reportPacket pathid) d statuses = answers.flatten) ∧
      Filed origin epoch (statuses.foldl (PathLedger.report origin) current)
        ((finalState (FeedbackDemuxer.reportPacket pathid) d statuses).historyOf pathid) ∧
      (finalState (FeedbackDemuxer.reportPacket pathid) d statuses).lastValue = d.lastValue ∧
      ∀ k, ¬ (pathid = 2 ↔ k = 2) →
        (finalState (FeedbackDemuxer.reportPacket pathid) d statuses).historyOf k =
          d.historyOf k := by
  induction statuses generalizing d current with
  | nil => exact ⟨⟨[], .nil, rfl⟩, filed, rfl, fun _ _ => rfl⟩
  | cons status statuses ih =>
      rw [List.map_cons, List.nodup_cons] at distinct
      rw [List.forall_mem_cons] at fresh lands
      have added (n : Nat) (record : PacketSendInfo) :
          current.LastAdded n record ↔ ledger.LastAdded n record := by
        unfold PathLedger.LastAdded
        rw [same]
      obtain ⟨last, histories, answer⟩ := reportPacket_spec d pathid status
      have own := histories pathid
      rw [if_pos Iff.rfl] at own
      have next := filed.report d.lastValue status
      rw [← own] at next
      have answered := filed.answers natural pathid status fun n record isLast new =>
        lands.1 n record ((added n record).mp isLast) fun old => new (marked n old)
      rw [← answer] at answered
      obtain ⟨⟨answers, rest, emitted⟩, after, lastAfter, others⟩ := ih next (last ▸ natural)
        distinct.2 (by rw [report_added, same])
        (by
          intro later member n number new old
          rcases mem_report_received old with before | equal
          · exact fresh.2 later member n number new before
          · exact distinct.1 (List.mem_map.mpr ⟨later, member, number.trans equal⟩))
        (by
          intro n old
          unfold PathLedger.report
          split
          · exact List.mem_append_left _ (marked n old)
          · exact marked n old)
        (last ▸ lands.2)
      refine ⟨⟨(d.reportPacket pathid status).2 :: answers, .cons ⟨?_, ?_⟩ rest, ?_⟩, after,
        lastAfter.trans last, ?_⟩
      · intro n record isLast new number
        exact answered.complete n record ((added n record).mpr isLast) (fresh.1 n number new) number
      · intro info member
        rw [← same]
        exact answered.own info member
      · rw [outputs_cons, emitted, List.flatten_cons]
      · intro k other
        have unchanged := histories k
        rw [if_neg other] at unchanged
        exact (others k other).trans unchanged

end Message

variable {origin epoch : Bool → Nat} {run : DemuxerRun Observer}

/-- Both paths are in their epochs. -/
structure Settled (origin epoch : Bool → Nat) (run : DemuxerRun Observer) : Prop where
  natural : ∀ last, run.demuxer.packets.lastValue = some last → 0 ≤ last
  filed : ∀ pathid, Filed (origin (pathOfId pathid)) (epoch (pathOfId pathid))
    (run.ledger (pathOfId pathid)) (run.demuxer.packets.historyOf pathid)

theorem settled_initial : Settled origin epoch ({} : DemuxerRun Observer) where
  natural _ isLast := nomatch isLast
  filed pathid := by
    have empty : (({} : DemuxerRun Observer).demuxer.packets.historyOf pathid) = [] := ite_self _
    rw [empty]
    exact ⟨.nil, List.forall_mem_nil _, fun n record last => nomatch last.1⟩

theorem pathOfId_eq_iff {j k : Nat} : pathOfId j = pathOfId k ↔ (j = 2 ↔ k = 2) :=
  decide_eq_decide

theorem lastValue_setHistory (k : Nat) (map : SentMap) :
    (d.setHistory k map).lastValue = d.lastValue := by
  unfold FeedbackDemuxer.setHistory
  split <;> rfl

/-- What adding a packet does to the demuxer. -/
theorem addPacket_spec (info : PacketSendInfo) :
    (d.addPacket info).lastValue = (if info.ssrc ≠ 0 then
        some (unwrapWithoutUpdate d.lastValue info.mpTransportSequenceNumber)
      else d.lastValue) ∧
      ∀ k, (d.addPacket info).historyOf k =
        if info.pathid = 2 ↔ k = 2 then
          SentMap.trim (if info.ssrc ≠ 0 then
            (d.historyOf info.pathid).insert
              (unwrapWithoutUpdate d.lastValue info.mpTransportSequenceNumber) info.streamInfo
            else d.historyOf info.pathid)
        else d.historyOf k := by
  unfold FeedbackDemuxer.addPacket
  dsimp only
  constructor
  · rw [lastValue_setHistory]
    split
    · rw [lastValue_setHistory]
    · rfl
  · intro k
    rw [FeedbackDemuxer.historyOf_setHistory]
    by_cases stream : info.ssrc ≠ 0
    · simp only [if_pos stream, FeedbackDemuxer.historyOf_setHistory]
      split <;> rfl
    · simp only [if_neg stream]

namespace Settled

variable [DecidableEq Observer] (settled : Settled origin epoch run)
include settled

theorem addPacket {info : PacketSendInfo} (number : run.Numbered origin (.addPacket info))
    (inEpoch : run.InEpoch origin epoch (.addPacket info)) :
    Settled origin epoch (run.step origin (.addPacket info)).1 := by
  obtain ⟨last, histories⟩ := addPacket_spec run.demuxer.packets info
  have place (stream : info.ssrc ≠ 0) : unwrapWithoutUpdate run.demuxer.packets.lastValue
      info.mpTransportSequenceNumber = epochKey (origin (pathOfId info.pathid))
        (epoch (pathOfId info.pathid)) (run.ledger (pathOfId info.pathid)).added.length := by
    unfold Numbered at number
    rw [number]
    exact (inEpoch stream).unwrap settled.natural
  refine ⟨fun value isLast => ?_, fun k => ?_⟩
  · have isLast := last.symm.trans isLast
    split at isLast
    · rename_i stream
      rw [place stream, Option.some_inj] at isLast
      exact isLast ▸ epochKey_nonneg _
    · exact settled.natural value isLast
  · have history := histories k
    unfold step
    dsimp only
    rw [history]
    by_cases same : pathOfId info.pathid = pathOfId k
    · rw [if_pos (pathOfId_eq_iff.mp same), ← same, Function.update_self]
      have filed := (settled.filed info.pathid).addPacket info
      by_cases stream : info.ssrc ≠ 0
      · rw [if_pos stream] at filed ⊢
        rw [place stream]
        exact filed
      · rw [if_neg stream] at filed ⊢
        exact filed
    · rw [if_neg (mt pathOfId_eq_iff.mpr same), Function.update_of_ne (Ne.symm same)]
      exact settled.filed k

theorem onTransportFeedback {packets : List (UInt16 × Bool)} {pathid : Nat}
    (number : run.Numbered origin (.onTransportFeedback packets pathid))
    (inEpoch : run.InEpoch origin epoch (.onTransportFeedback packets pathid)) :
    Settled origin epoch (run.step origin (.onTransportFeedback packets pathid)).1 ∧
      run.Delivers origin (.onTransportFeedback packets pathid) := by
  obtain ⟨⟨answers, answered, emitted⟩, filed, last, others⟩ :=
    reportPackets_answers (settled.filed pathid) settled.natural number rfl
      (fun _ _ _ _ => id) (fun _ => id) inEpoch
  refine ⟨⟨fun value isLast => settled.natural value (last.symm.trans isLast), fun k => ?_⟩,
    answers, answered, ?_⟩
  · unfold step StreamDemuxer.onTransportFeedback
    dsimp only
    by_cases same : pathOfId pathid = pathOfId k
    · rw [← same, Function.update_self,
        ← FeedbackDemuxer.historyOf_congr _ (pathOfId_eq_iff.mp same)]
      exact filed
    · rw [Function.update_of_ne (Ne.symm same), others k (mt pathOfId_eq_iff.mpr same)]
      exact settled.filed k
  · exact congrArg (StreamDemuxer.notify run.demuxer.observers · pathid) emitted

theorem step {event : DemuxerEvent Observer}
    (legal : run.Numbered origin event ∧ run.InEpoch origin epoch event) :
    Settled origin epoch (run.step origin event).1 ∧ run.Delivers origin event := by
  cases event with
  | register ssrcs observer => exact ⟨⟨settled.natural, settled.filed⟩, trivial⟩
  | deRegister observer => exact ⟨⟨settled.natural, settled.filed⟩, trivial⟩
  | addPacket info => exact ⟨settled.addPacket legal.1 legal.2, trivial⟩
  | onTransportFeedback packets pathid => exact settled.onTransportFeedback legal.1 legal.2

end Settled

/-- In a run in which the shared unwrapper stays in the epoch of each path, every report
about one of the last 5000 packets of a path that is not yet received reaches the
observers of its stream, once and with the packet's data, and nothing is reported about
the other path. -/
theorem feedback_delivered [DecidableEq Observer] (origin epoch : Bool → Nat)
    (events : List (DemuxerEvent Observer))
    (numbered : Along (step origin) (Numbered origin) {} events)
    (inEpoch : Along (step origin) (InEpoch origin epoch) {} events) :
    Along (step origin) (Delivers origin) {} events :=
  (numbered.and inEpoch).of_invariant (Settled origin epoch)
    (fun _ _ settled legal => (settled.step legal).1)
    (fun _ _ settled legal => (settled.step legal).2) settled_initial

section Drift

/-- The first packet of the first path. -/
def firstRecord : PacketSendInfo := ⟨7, 100, 1, 1, 1⟩

/-- The `n`-th packet of the second path. -/
def secondRecord (n : Nat) : PacketSendInfo := ⟨7, 200, wrap (1 + n), 1, 2⟩

variable (count : Nat)

/-- One packet on the first path, and then many on the second. -/
def drift : List (DemuxerEvent Unit) :=
  [.register [7] (), .addPacket firstRecord] ++
    (List.range count).map fun n => .addPacket (secondRecord n)

/-- Feedback on the first path reports its packet. -/
def firstReported : DemuxerEvent Unit := .onTransportFeedback [(1, true)] 1

theorem drift_succ : drift (count + 1) = drift count ++ [.addPacket (secondRecord count)] := by
  unfold drift
  rw [List.range_succ, List.map_append, List.append_assoc]
  rfl

/-- The second path drags the unwrapper along. -/
structure Drifted (count : Nat) (run : DemuxerRun Unit) : Prop where
  settled : Settled (fun _ => 1) (fun _ => 0) run
  observers : run.demuxer.observers = [([7], ())]
  first : run.ledger false = ⟨[firstRecord], []⟩
  second : (run.ledger true).added.length = count
  last : run.demuxer.packets.lastValue = some (if count = 0 then 1 else (count : Int))

theorem drifted (short : count ≤ 40000) :
    Along (step fun _ => 1) (Numbered fun _ => 1) ({} : DemuxerRun Unit) (drift count) ∧
      Drifted count (finalState (step fun _ => 1) ({} : DemuxerRun Unit) (drift count)) := by
  induction count with
  | zero =>
      have registered : Settled (fun _ => 1) (fun _ => 0)
          (step (fun _ => 1) ({} : DemuxerRun Unit) (.register [7] ())).1 :=
        have start : Settled (fun _ => 1) (fun _ => 0) ({} : DemuxerRun Unit) := settled_initial
        ⟨start.natural, start.filed⟩
      refine ⟨⟨trivial, rfl, trivial⟩, registered.addPacket rfl fun _ => ?_, rfl, rfl, rfl, ?_⟩
      · show epochKey 1 0 0 < 65536
        decide
      · decide
  | succ count ih =>
      obtain ⟨numbered, reached⟩ := ih (by omega)
      rw [drift_succ, finalState_append, along_append]
      set run := finalState (step fun _ => 1) ({} : DemuxerRun Unit) (drift count)
      have number : run.Numbered (fun _ => 1) (.addPacket (secondRecord count)) :=
        congrArg (fun length : Nat => wrap (1 + length)) reached.second.symm
      have near : Nearest (if count = 0 then 1 else (count : Int)) (epochKey 1 0 count) := by
        unfold Nearest epochKey
        split <;> omega
      have inEpoch : run.InEpoch (fun _ => 1) (fun _ => 0) (.addPacket (secondRecord count)) := by
        intro _
        show Lands run.demuxer.packets.lastValue (epochKey 1 0 (run.ledger true).added.length)
        rw [reached.last, reached.second]
        exact near
      refine ⟨⟨numbered, number, trivial⟩, reached.settled.addPacket number inEpoch,
        reached.observers, reached.first, ?_, ?_⟩
      · refine List.length_append.trans ?_
        exact congrArg (· + 1) reached.second
      · refine (addPacket_spec run.demuxer.packets (secondRecord count)).1.trans ?_
        have place : unwrapWithoutUpdate run.demuxer.packets.lastValue (wrap (1 + count)) =
            epochKey 1 0 count := by
          have lands : Lands run.demuxer.packets.lastValue (epochKey 1 0 count) := by
            rw [reached.last]
            exact near
          exact lands.unwrap reached.settled.natural
        rw [if_pos (show (secondRecord count).ssrc ≠ 0 from Nat.succ_ne_zero 6), if_neg (Nat.succ_ne_zero count)]
        refine congrArg some (place.trans ?_)
        unfold epochKey
        push_cast
        omega

/-- The packet of the first path is no longer found. -/
theorem Drifted.not_delivers {run : DemuxerRun Unit} (reached : Drifted 40000 run) :
    ¬ run.Delivers (fun _ => 1) firstReported := by
  rintro ⟨answers, answered, calls⟩
  have first : run.ledger (pathOfId 1) = ⟨[firstRecord], []⟩ := reached.first
  have nothing : outputs (FeedbackDemuxer.reportPacket 1) run.demuxer.packets [(1, true)] = [] := by
    rw [outputs_cons, outputs_nil, List.append_nil, (reportPacket_spec _ _ _).2.2]
    cases found : (run.demuxer.packets.historyOf 1).find
        (unwrapWithoutUpdate run.demuxer.packets.lastValue 1) with
    | none => rfl
    | some info =>
        have filed := reached.settled.filed 1
        obtain ⟨n, record, isAdded, -, place⟩ := filed.own _ (filed.find_eq_some_iff.mp found)
        rw [first] at isAdded
        have bound : n < 1 := (List.getElem?_eq_some_iff.mp isAdded).1
        have key := (Prod.mk.inj place).1
        have far : unwrapWithoutUpdate run.demuxer.packets.lastValue 1 = 65537 := by
          rw [reached.last]
          decide
        rw [far] at key
        unfold epochKey at key
        omega
  have silent : StreamDemuxer.notify run.demuxer.observers answers.flatten 1 = [] := by
    refine calls.symm.trans ?_
    show StreamDemuxer.notify run.demuxer.observers
      (outputs (FeedbackDemuxer.reportPacket 1) run.demuxer.packets [(1, true)]) 1 = []
    rw [nothing, reached.observers]
    rfl
  cases answered with
  | cons answer rest =>
      cases rest
      have last : PathLedger.LastAdded (run.ledger (pathOfId 1)) 0 firstRecord := by
        rw [first]
        exact ⟨rfl, by decide, by decide⟩
      have unreported : 0 ∉ (run.ledger (pathOfId 1)).received := by
        rw [first]
        exact List.not_mem_nil
      rw [answer.complete 0 firstRecord last unreported (by decide), reached.observers] at silent
      exact absurd silent (by decide)

/-- After 40000 packets on the second path the packet of the first path is reported to
nobody. -/
theorem report_lost_after_drift :
    Along (step fun _ => 1) (Numbered fun _ => 1) ({} : DemuxerRun Unit)
        (drift 40000 ++ [firstReported]) ∧
      ¬ Along (step fun _ => 1) (Delivers fun _ => 1) ({} : DemuxerRun Unit)
        (drift 40000 ++ [firstReported]) := by
  obtain ⟨numbered, reached⟩ := drifted 40000 (by decide)
  rw [along_append, along_append]
  exact ⟨⟨numbered, List.nodup_singleton _, trivial⟩,
    fun delivered => reached.not_delivers delivered.2.1⟩

/-- With few packets in between the report arrives. -/
theorem feedback_delivered_near :
    Along (step fun _ => 1) (Delivers fun _ => 1) ({} : DemuxerRun Unit)
        (drift 2 ++ [firstReported]) ∧
      outputs (step fun _ => 1) ({} : DemuxerRun Unit) (drift 2 ++ [firstReported]) =
        [((), [⟨7, 100, 1, some 1, true⟩], 1)] := by
  refine ⟨feedback_delivered (fun _ => 1) (fun _ => 0) _ ?_ ?_, by decide +kernel⟩
  · rw [along_append]
    exact ⟨(drifted 2 (by decide)).1, List.nodup_singleton _, trivial⟩
  · refine ⟨trivial, fun _ => ?_, fun _ => ?_, fun _ => ?_, ?_, trivial⟩
    · show epochKey 1 0 0 < 65536
      decide
    · show Nearest 1 (epochKey 1 0 0)
      decide
    · show Nearest 1 (epochKey 1 0 1)
      decide
    · intro status member n record last _ _
      have bound : n < 1 := (List.getElem?_eq_some_iff.mp last.1).1
      obtain rfl : n = 0 := by omega
      show Nearest 2 (epochKey 1 0 0)
      decide

end Drift

end DemuxerRun

end MpWebRtc
