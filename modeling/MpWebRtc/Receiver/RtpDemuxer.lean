import Mathlib.Data.Prod.Lex
import Mathlib.Data.String.Basic
import MpWebRtc.Math.OrderedMap
import MpWebRtc.Math.Run

/-!
# Registering sinks

`RtpDemuxer` hands each packet to the sink that is registered for its MID, its MID and RSID, its
RSID, its SSRC, or its payload type. A sink is added with several of these at once: it is refused if
one of them is taken, and otherwise put into each map unless there is an entry already. What is
learned from packets counts as a registered SSRC. An RSID without a MID is not tested.
-/

namespace MpWebRtc

open Math Math.Run

/-- `RtpDemuxerCriteria`; the empty string stands for no MID and for no RSID. -/
structure RtpDemuxerCriteria where
  mid : String := ""
  rsid : String := ""
  ssrcs : List Nat := []
  payloadTypes : List Nat := []

/-- What the demuxer reads of a packet. -/
structure DemuxedPacket where
  mid : Option String := none
  repairedRtpStreamId : Option String := none
  rtpStreamId : Option String := none
  ssrc : Nat
  payloadType : Nat
  deriving DecidableEq

/-- What the observers are told. -/
inductive SsrcBinding
  | mid (mid : String) (ssrc : Nat)
  | midRsid (mid rsid : String) (ssrc : Nat)
  | rsid (rsid : String) (ssrc : Nat)
  | payloadType (payloadType : Nat) (ssrc : Nat)
  deriving DecidableEq

/-- The limit for the bindings of SSRCs. -/
def kMaxSsrcBindings : Nat := 1000

/-- The MIDs of two maps. -/
def midsOf {Sink : Type} (sinkByMid : OrderedMap String Sink)
    (sinkByMidAndRsid : OrderedMap (String ×ₗ String) Sink) : List String :=
  sinkByMid.entries.map (fun entry => entry.1) ++
    sinkByMidAndRsid.entries.map (fun entry => (ofLex entry.1).1)

/-- `RtpDemuxer`. The known MIDs are those of the sinks. -/
structure RtpDemuxer (Sink : Type) where
  sinkByMid : OrderedMap String Sink := {}
  sinkBySsrc : OrderedMap Nat Sink := {}
  sinksByPt : List (Nat × Sink) := []
  sinkByMidAndRsid : OrderedMap (String ×ₗ String) Sink := {}
  sinkByRsid : OrderedMap String Sink := {}
  knownMids : List String := []
  midBySsrc : OrderedMap Nat String := {}
  rsidBySsrc : OrderedMap Nat String := {}
  useMid : Bool := true
  refreshed : knownMids = midsOf sinkByMid sinkByMidAndRsid := by rfl

namespace RtpDemuxer

variable {Sink : Type} [DecidableEq Sink] (demuxer : RtpDemuxer Sink)

/-- `CriteriaWouldConflict`. -/
def criteriaWouldConflict (criteria : RtpDemuxerCriteria) : Bool :=
  (criteria.mid != "" &&
    if criteria.rsid == "" then demuxer.knownMids.contains criteria.mid
    else (demuxer.sinkByMidAndRsid.find (toLex (criteria.mid, criteria.rsid))).isSome ||
      (demuxer.sinkByMid.find criteria.mid).isSome) ||
    criteria.ssrcs.any fun ssrc => (demuxer.sinkBySsrc.find ssrc).isSome

/-- `AddSink`, with its result. -/
def addSink (criteria : RtpDemuxerCriteria) (sink : Sink) : RtpDemuxer Sink × Bool :=
  if demuxer.criteriaWouldConflict criteria then (demuxer, false)
  else
    let sinkByMid :=
      if criteria.mid != "" && criteria.rsid == "" then
        demuxer.sinkByMid.emplace criteria.mid sink
      else demuxer.sinkByMid
    let sinkByMidAndRsid :=
      if criteria.mid != "" && criteria.rsid != "" then
        demuxer.sinkByMidAndRsid.emplace (toLex (criteria.mid, criteria.rsid)) sink
      else demuxer.sinkByMidAndRsid
    let sinkByRsid :=
      if criteria.mid == "" && criteria.rsid != "" then
        demuxer.sinkByRsid.emplace criteria.rsid sink
      else demuxer.sinkByRsid
    ({ demuxer with
        sinkByMid := sinkByMid
        sinkByMidAndRsid := sinkByMidAndRsid
        sinkByRsid := sinkByRsid
        sinkBySsrc := criteria.ssrcs.foldl (fun sinks ssrc => sinks.emplace ssrc sink)
          demuxer.sinkBySsrc
        sinksByPt := demuxer.sinksByPt ++ criteria.payloadTypes.map fun payloadType =>
          (payloadType, sink)
        knownMids := midsOf sinkByMid sinkByMidAndRsid
        refreshed := rfl }, true)

/-- `RemoveSink`, with its result. -/
def removeSink (sink : Sink) : RtpDemuxer Sink × Bool :=
  let sinkByMid := demuxer.sinkByMid.filter fun entry => decide (entry.2 ≠ sink)
  let sinkBySsrc := demuxer.sinkBySsrc.filter fun entry => decide (entry.2 ≠ sink)
  let sinksByPt := demuxer.sinksByPt.filter fun entry => decide (entry.2 ≠ sink)
  let sinkByMidAndRsid := demuxer.sinkByMidAndRsid.filter fun entry => decide (entry.2 ≠ sink)
  let sinkByRsid := demuxer.sinkByRsid.filter fun entry => decide (entry.2 ≠ sink)
  let numRemoved :=
    demuxer.sinkByMid.entries.length - sinkByMid.entries.length +
      (demuxer.sinkBySsrc.entries.length - sinkBySsrc.entries.length) +
      (demuxer.sinksByPt.length - sinksByPt.length) +
      (demuxer.sinkByMidAndRsid.entries.length - sinkByMidAndRsid.entries.length) +
      (demuxer.sinkByRsid.entries.length - sinkByRsid.entries.length)
  ({ demuxer with
      sinkByMid := sinkByMid
      sinkBySsrc := sinkBySsrc
      sinksByPt := sinksByPt
      sinkByMidAndRsid := sinkByMidAndRsid
      sinkByRsid := sinkByRsid
      knownMids := midsOf sinkByMid sinkByMidAndRsid
      refreshed := rfl }, decide (numRemoved > 0))

/-- `AddSsrcSinkBinding`, with its result. -/
def addSsrcSinkBinding (ssrc : Nat) (sink : Sink) : RtpDemuxer Sink × Bool :=
  if kMaxSsrcBindings ≤ demuxer.sinkBySsrc.entries.length then (demuxer, false)
  else
    match demuxer.sinkBySsrc.find ssrc with
    | none => ({ demuxer with sinkBySsrc := demuxer.sinkBySsrc.insert ssrc sink }, true)
    | some bound =>
        if bound ≠ sink then
          ({ demuxer with sinkBySsrc := demuxer.sinkBySsrc.insert ssrc sink }, true)
        else (demuxer, false)

/-- The SSRC is bound to the sink that was found, and the observers are told if that is new. -/
def resolved (found : Option Sink) (ssrc : Nat) (binding : SsrcBinding) :
    Option Sink × RtpDemuxer Sink × List SsrcBinding :=
  match found with
  | none => (none, demuxer, [])
  | some sink =>
      let bound := demuxer.addSsrcSinkBinding ssrc sink
      (some sink, bound.1, if bound.2 then [binding] else [])

/-- `ResolveSinkByMid`. -/
def resolveSinkByMid (mid : String) (ssrc : Nat) :
    Option Sink × RtpDemuxer Sink × List SsrcBinding :=
  demuxer.resolved (demuxer.sinkByMid.find mid) ssrc (.mid mid ssrc)

/-- `ResolveSinkByMidRsid`. -/
def resolveSinkByMidRsid (mid rsid : String) (ssrc : Nat) :
    Option Sink × RtpDemuxer Sink × List SsrcBinding :=
  demuxer.resolved (demuxer.sinkByMidAndRsid.find (toLex (mid, rsid))) ssrc (.midRsid mid rsid ssrc)

/-- `ResolveSinkByRsid`. -/
def resolveSinkByRsid (rsid : String) (ssrc : Nat) :
    Option Sink × RtpDemuxer Sink × List SsrcBinding :=
  demuxer.resolved (demuxer.sinkByRsid.find rsid) ssrc (.rsid rsid ssrc)

/-- `ResolveSinkByPayloadType`: only if the payload type has one sink. -/
def resolveSinkByPayloadType (payloadType ssrc : Nat) :
    Option Sink × RtpDemuxer Sink × List SsrcBinding :=
  let found :=
    match demuxer.sinksByPt.filter fun entry => decide (entry.1 = payloadType) with
    | [entry] => some entry.2
    | _ => none
  demuxer.resolved found ssrc (.payloadType payloadType ssrc)

/-- What is remembered of the SSRC: the ids of the packet, if it has them. -/
def latched (ids : OrderedMap Nat String) (ssrc : Nat) (id : Option String) :
    OrderedMap Nat String :=
  match id with
  | none => ids
  | some id => ids.insert ssrc id

/-- `ResolveSink`. -/
def resolveSink (packet : DemuxedPacket) : Option Sink × RtpDemuxer Sink × List SsrcBinding :=
  let packetMid := if demuxer.useMid then packet.mid else none
  let packetRsid := packet.repairedRtpStreamId.or packet.rtpStreamId
  if packetMid.any fun mid => !demuxer.knownMids.contains mid then (none, demuxer, [])
  else
    let demuxer : RtpDemuxer Sink :=
      { demuxer with
        midBySsrc := latched demuxer.midBySsrc packet.ssrc packetMid
        rsidBySsrc := latched demuxer.rsidBySsrc packet.ssrc packetRsid }
    let rsid := demuxer.rsidBySsrc.find packet.ssrc
    match demuxer.midBySsrc.find packet.ssrc with
    | some mid =>
        let byMid := demuxer.resolveSinkByMid mid packet.ssrc
        match byMid.1, rsid with
        | some _, _ => byMid
        | none, some rsid => demuxer.resolveSinkByMidRsid mid rsid packet.ssrc
        | none, none => (none, demuxer, [])
    | none =>
        match (rsid.bind demuxer.sinkByRsid.find), rsid with
        | some _, some rsid => demuxer.resolveSinkByRsid rsid packet.ssrc
        | _, _ =>
            match demuxer.sinkBySsrc.find packet.ssrc with
            | some sink => (some sink, demuxer, [])
            | none => demuxer.resolveSinkByPayloadType packet.payloadType packet.ssrc

end RtpDemuxer

/-- The calls of the demuxer. -/
inductive SinkCall (Sink : Type) where
  | addSink (criteria : RtpDemuxerCriteria) (sink : Sink)
  | removeSink (sink : Sink)
  | onRtpPacket (packet : DemuxedPacket)

/-- What a call leads to. -/
inductive SinkOutput (Sink : Type) where
  | result (value : Bool)
  | packet (sink : Sink) (packet : DemuxedPacket)
  | binding (binding : SsrcBinding)
  deriving DecidableEq

namespace RtpDemuxer

variable {Sink : Type} [DecidableEq Sink]

/-- One call; `OnRtpPacket` returns whether there is a sink for the packet. -/
def step (demuxer : RtpDemuxer Sink) : SinkCall Sink → RtpDemuxer Sink × List (SinkOutput Sink)
  | .addSink criteria sink =>
      let added := demuxer.addSink criteria sink
      (added.1, [.result added.2])
  | .removeSink sink =>
      let removed := demuxer.removeSink sink
      (removed.1, [.result removed.2])
  | .onRtpPacket packet =>
      let resolved := demuxer.resolveSink packet
      (resolved.2.1, resolved.2.2.map .binding ++
        (resolved.1.map fun sink => SinkOutput.packet sink packet).toList ++
        [.result resolved.1.isSome])

end RtpDemuxer

namespace RtpDemuxer

variable {Sink : Type}

/-- Every rule of the criteria leads to the sink. -/
structure Leads (demuxer : RtpDemuxer Sink) (criteria : RtpDemuxerCriteria) (sink : Sink) :
    Prop where
  mid : criteria.mid ≠ "" → criteria.rsid = "" → demuxer.sinkByMid.find criteria.mid = some sink
  midRsid : criteria.mid ≠ "" → criteria.rsid ≠ "" →
    demuxer.sinkByMidAndRsid.find (toLex (criteria.mid, criteria.rsid)) = some sink
  rsid : criteria.mid = "" → criteria.rsid ≠ "" →
    demuxer.sinkByRsid.find criteria.rsid = some sink
  ssrcs : ∀ ssrc ∈ criteria.ssrcs, demuxer.sinkBySsrc.find ssrc = some sink
  payloadTypes : ∀ payloadType ∈ criteria.payloadTypes, (payloadType, sink) ∈ demuxer.sinksByPt

/-- Every rule of a demuxer is one of the other, with the same sink. -/
structure KeepsRules (before after : RtpDemuxer Sink) : Prop where
  mid : ∀ mid sink, before.sinkByMid.find mid = some sink → after.sinkByMid.find mid = some sink
  midRsid : ∀ ids sink, before.sinkByMidAndRsid.find ids = some sink →
    after.sinkByMidAndRsid.find ids = some sink
  rsid : ∀ rsid sink, before.sinkByRsid.find rsid = some sink →
    after.sinkByRsid.find rsid = some sink
  ssrc : ∀ ssrc sink, before.sinkBySsrc.find ssrc = some sink →
    after.sinkBySsrc.find ssrc = some sink
  payloadType : ∀ entry ∈ before.sinksByPt, entry ∈ after.sinksByPt

variable (demuxer : RtpDemuxer Sink)

/-- Adding a sink takes effect, without taking a rule from another one, or changes nothing. -/
def TakesEffect : SinkCall Sink → Prop
  | .addSink criteria sink =>
      let added := demuxer.addSink criteria sink
      if added.2 then added.1.Leads criteria sink ∧ demuxer.KeepsRules added.1
      else added.1 = demuxer
  | .removeSink _ => True
  | .onRtpPacket _ => True

/-- A sink that is added by an RSID alone finds it free, or its own already, or is refused because
of an SSRC. -/
def RsidFree : SinkCall Sink → Prop
  | .addSink criteria sink =>
      criteria.mid = "" → criteria.rsid ≠ "" →
        (∀ other, demuxer.sinkByRsid.find criteria.rsid = some other → other = sink) ∨
          ∃ ssrc ∈ criteria.ssrcs, (demuxer.sinkBySsrc.find ssrc).isSome
  | .removeSink _ => True
  | .onRtpPacket _ => True

section Adding

variable {Key : Type} [LinearOrder Key] {map : OrderedMap Key Sink} {key other : Key}
  {sink bound : Sink}

/-- What is there stays. -/
theorem find_emplace_of_some (found : map.find other = some bound) :
    (map.emplace key sink).find other = some bound := by
  rw [OrderedMap.find_emplace, if_neg, found]
  rintro ⟨rfl, free⟩
  rw [found] at free
  cases free

theorem find_emplace_self : (map.emplace key sink).find key = some ((map.find key).getD sink) := by
  rw [OrderedMap.find_emplace]
  cases found : map.find key with
  | none => rw [if_pos ⟨rfl, rfl⟩, Option.getD_none]
  | some bound => rw [if_neg (fun both => nomatch both.2), Option.getD_some]

/-- Many keys for one sink. -/
theorem find_foldl_emplace (keys : List Key) :
    (keys.foldl (fun map key => map.emplace key sink) map).find other =
      (map.find other).or (if other ∈ keys then some sink else none) := by
  induction keys generalizing map with
  | nil => simp
  | cons key keys rest =>
      rw [List.foldl_cons, rest, OrderedMap.find_emplace]
      by_cases same : other = key
      · subst same
        cases map.find other <;> simp
      · simp [same]

variable {demuxer : RtpDemuxer Sink} {criteria : RtpDemuxerCriteria}

/-- A MID with a sink is known. -/
theorem not_known_of_mid (unknown : criteria.mid ∉ demuxer.knownMids) :
    demuxer.sinkByMid.find criteria.mid = none := by
  rw [OrderedMap.find_eq_none_iff]
  rintro entry member same
  refine unknown ?_
  rw [demuxer.refreshed, midsOf, ← same]
  exact List.mem_append_left _ (List.mem_map_of_mem member)

/-- What the check for conflicts guarantees. The RSID alone is not among it. -/
theorem criteriaWouldConflict_eq_false_iff :
    demuxer.criteriaWouldConflict criteria = false ↔
      (criteria.mid ≠ "" → criteria.rsid = "" → criteria.mid ∉ demuxer.knownMids) ∧
      (criteria.mid ≠ "" → criteria.rsid ≠ "" →
        demuxer.sinkByMidAndRsid.find (toLex (criteria.mid, criteria.rsid)) = none ∧
          demuxer.sinkByMid.find criteria.mid = none) ∧
      ∀ ssrc ∈ criteria.ssrcs, demuxer.sinkBySsrc.find ssrc = none := by
  unfold criteriaWouldConflict
  rw [Bool.or_eq_false_iff, List.any_eq_false]
  by_cases noMid : criteria.mid = "" <;> by_cases noRsid : criteria.rsid = "" <;>
    simp [noMid, noRsid]

/-- Adding a sink keeps the rules of the others. -/
theorem keepsRules_addSink (criteria : RtpDemuxerCriteria) (sink : Sink) :
    demuxer.KeepsRules (demuxer.addSink criteria sink).1 := by
  unfold addSink
  by_cases conflict : demuxer.criteriaWouldConflict criteria
  · rw [if_pos conflict]
    exact ⟨fun _ _ => id, fun _ _ => id, fun _ _ => id, fun _ _ => id, fun _ => id⟩
  · rw [if_neg conflict]
    refine ⟨fun mid other found => ?_, fun ids other found => ?_, fun rsid other found => ?_,
      fun ssrc other found => ?_, fun entry member => List.mem_append_left _ member⟩
    · dsimp only
      split
      · exact find_emplace_of_some found
      · exact found
    · dsimp only
      split
      · exact find_emplace_of_some found
      · exact found
    · dsimp only
      split
      · exact find_emplace_of_some found
      · exact found
    · dsimp only
      rw [find_foldl_emplace, found, Option.some_or]

/-- A sink that is not refused has all its rules, but for an RSID that leads to another sink. -/
theorem leads_addSink_iff (fits : demuxer.criteriaWouldConflict criteria = false) :
    (demuxer.addSink criteria sink).1.Leads criteria sink ↔
      (criteria.mid = "" → criteria.rsid ≠ "" →
        ∀ other, demuxer.sinkByRsid.find criteria.rsid = some other → other = sink) := by
  obtain ⟨newMid, newPair, newSsrcs⟩ := criteriaWouldConflict_eq_false_iff.mp fits
  unfold addSink
  rw [fits, if_neg Bool.false_ne_true]
  constructor
  · intro leads noMid hasRsid other found
    have mapped := leads.rsid noMid hasRsid
    dsimp only at mapped
    rw [if_pos (by simp [noMid, hasRsid]), find_emplace_self, found] at mapped
    exact Option.some_inj.mp mapped
  · intro free
    refine ⟨fun hasMid noRsid => ?_, fun hasMid hasRsid => ?_, fun noMid hasRsid => ?_,
      fun ssrc member => ?_, fun payloadType member => ?_⟩
    · dsimp only
      rw [if_pos (by simp [hasMid, noRsid]), find_emplace_self,
        not_known_of_mid (newMid hasMid noRsid), Option.getD_none]
    · dsimp only
      rw [if_pos (by simp [hasMid, hasRsid]), find_emplace_self, (newPair hasMid hasRsid).1,
        Option.getD_none]
    · dsimp only
      rw [if_pos (by simp [noMid, hasRsid]), find_emplace_self]
      cases found : demuxer.sinkByRsid.find criteria.rsid with
      | none => rfl
      | some other => rw [free noMid hasRsid other found, Option.getD_some]
    · dsimp only
      rw [find_foldl_emplace, newSsrcs ssrc member, Option.none_or, if_pos member]
    · exact List.mem_append_right _ (List.mem_map_of_mem member)

/-- A call takes effect, or changes nothing, exactly when an RSID alone is free. -/
theorem takesEffect_iff (demuxer : RtpDemuxer Sink) (call : SinkCall Sink) :
    demuxer.TakesEffect call ↔ demuxer.RsidFree call := by
  cases call with
  | removeSink sink => exact Iff.rfl
  | onRtpPacket packet => exact Iff.rfl
  | addSink criteria sink =>
      cases conflict : demuxer.criteriaWouldConflict criteria with
      | true =>
          have refused : demuxer.addSink criteria sink = (demuxer, false) := by
            unfold addSink
            rw [if_pos conflict]
          refine iff_of_true ?_ fun noMid _ => .inr ?_
          · unfold TakesEffect
            dsimp only
            rw [refused]
            exact rfl
          · unfold criteriaWouldConflict at conflict
            simpa [noMid] using conflict
      | false =>
          have accepted : (demuxer.addSink criteria sink).2 = true := by
            unfold addSink
            rw [if_neg (by simp [conflict])]
          obtain ⟨-, -, newSsrcs⟩ := criteriaWouldConflict_eq_false_iff.mp conflict
          unfold TakesEffect RsidFree
          dsimp only
          rw [if_pos accepted, leads_addSink_iff conflict,
            and_iff_left (keepsRules_addSink criteria sink)]
          refine forall_congr' fun _ => forall_congr' fun _ => ⟨.inl, fun either => ?_⟩
          refine either.resolve_right ?_
          rintro ⟨ssrc, member, bound⟩
          rw [newSsrcs ssrc member] at bound
          cases bound

end Adding

/-- **Sinks are added with all their rules, or not at all**, in every run, exactly when no sink is
added by an RSID alone that leads to another one. -/
theorem sinks_take_effect_iff [DecidableEq Sink] (calls : List (SinkCall Sink)) :
    Along step (fun demuxer call => demuxer.TakesEffect call) demuxer calls ↔
      Along step (fun demuxer call => demuxer.RsidFree call) demuxer calls :=
  ⟨Along.mono fun state call => (state.takesEffect_iff call).mp,
    Along.mono fun state call => (state.takesEffect_iff call).mpr⟩

end RtpDemuxer

/-- The second sink for an RSID is told that it was added, but the packets go to the first. -/
theorem rsid_keeps_first_sink :
    let calls : List (SinkCall Nat) :=
      [.addSink { rsid := "a" } 1, .addSink { rsid := "a" } 2,
        .onRtpPacket { rtpStreamId := some "a", ssrc := 7, payloadType := 96 }]
    outputs RtpDemuxer.step {} calls =
        [.result true, .result true, .binding (.rsid "a" 7),
          .packet 1 { rtpStreamId := some "a", ssrc := 7, payloadType := 96 }, .result true] ∧
      ¬ Along RtpDemuxer.step (fun demuxer call => demuxer.TakesEffect call) {} calls := by
  have free : ((RtpDemuxer.step {} (.addSink { rsid := "a" } 1)).1.sinkByRsid.find "a") =
      some 1 := by decide +kernel
  refine ⟨by decide +kernel, fun along => ?_⟩
  have second := (RtpDemuxer.takesEffect_iff _ _).mp along.2.1 rfl (by decide)
  rcases second with other | ⟨ssrc, member, -⟩
  · exact absurd (other 1 free) (by decide)
  · cases member

end MpWebRtc
