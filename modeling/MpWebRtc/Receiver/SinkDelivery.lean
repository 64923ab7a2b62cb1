import Mathlib.Data.List.Induction
import MpWebRtc.Receiver.RtpDemuxer

/-!
# Delivering packets to sinks

The rules of a demuxer, and the MIDs it knows, are those of the sinks that have been added and not
removed since. What it learns of an SSRC is kept apart from them: the ids are remembered also when
they lead nowhere, and the sink that gets a packet becomes the sink of its SSRC. So the next packet
without ids finds the way that the last one has taken, unless there are too many SSRCs.
-/

namespace MpWebRtc

open Math Math.Run

namespace RtpDemuxer

variable {Sink : Type} (demuxer : RtpDemuxer Sink)

/-- What is remembered after a packet of its ids. -/
def latch (packet : DemuxedPacket) : RtpDemuxer Sink :=
  { demuxer with
    midBySsrc := latched demuxer.midBySsrc packet.ssrc (if demuxer.useMid then packet.mid else none)
    rsidBySsrc := latched demuxer.rsidBySsrc packet.ssrc
      (packet.repairedRtpStreamId.or packet.rtpStreamId) }

/-- The sink for what is remembered of an SSRC. -/
def latchedSink (ssrc : Nat) : Option Sink :=
  match demuxer.midBySsrc.find ssrc with
  | some mid =>
      (demuxer.sinkByMid.find mid).or
        ((demuxer.rsidBySsrc.find ssrc).bind fun rsid =>
          demuxer.sinkByMidAndRsid.find (toLex (mid, rsid)))
  | none =>
      ((demuxer.rsidBySsrc.find ssrc).bind demuxer.sinkByRsid.find).or
        (demuxer.sinkBySsrc.find ssrc)

/-- The only sink of a payload type. -/
def onlySink (payloadType : Nat) : Option Sink :=
  match demuxer.sinksByPt.filter fun entry => decide (entry.1 = payloadType) with
  | [entry] => some entry.2
  | _ => none

/-- The sink for a packet whose ids have been remembered. -/
def route (packet : DemuxedPacket) : Option Sink :=
  (demuxer.latchedSink packet.ssrc).or
    (match demuxer.midBySsrc.find packet.ssrc with
      | some _ => none
      | none => demuxer.onlySink packet.payloadType)

/-- A packet without ids leaves what is remembered as it is. -/
theorem latch_of_plain {demuxer : RtpDemuxer Sink} {packet : DemuxedPacket}
    (mid : packet.mid = none) (repaired : packet.repairedRtpStreamId = none)
    (rsid : packet.rtpStreamId = none) : demuxer.latch packet = demuxer := by
  unfold latch
  rw [mid, repaired, rsid, ite_self]
  rfl

variable [DecidableEq Sink]

/-- The sink of an SSRC is the one that got the packet. -/
def bind (ssrc : Nat) : Option Sink → RtpDemuxer Sink
  | none => demuxer
  | some sink => (demuxer.addSsrcSinkBinding ssrc sink).1

/-- `ResolveSink`, once the ids have been remembered. -/
def resolveLatched (packet : DemuxedPacket) : Option Sink × RtpDemuxer Sink × List SsrcBinding :=
  let rsid := demuxer.rsidBySsrc.find packet.ssrc
  match demuxer.midBySsrc.find packet.ssrc with
  | some mid =>
      let byMid := demuxer.resolveSinkByMid mid packet.ssrc
      match byMid.1, rsid with
      | some _, _ => byMid
      | none, some rsid => demuxer.resolveSinkByMidRsid mid rsid packet.ssrc
      | none, none => (none, demuxer, [])
  | none =>
      match (rsid.bind demuxer.sinkByRsid.find), rsid with
      | some _, some rsid => demuxer.resolveSinkByRsid rsid packet.ssrc
      | _, _ =>
          match demuxer.sinkBySsrc.find packet.ssrc with
          | some sink => (some sink, demuxer, [])
          | none => demuxer.resolveSinkByPayloadType packet.payloadType packet.ssrc

section Resolving

variable {demuxer : RtpDemuxer Sink} {packet : DemuxedPacket} {ssrc : Nat} {sink : Sink}

theorem resolveSink_eq (demuxer : RtpDemuxer Sink) (packet : DemuxedPacket) :
    demuxer.resolveSink packet =
      if (if demuxer.useMid then packet.mid else none).any
          fun mid => !demuxer.knownMids.contains mid then (none, demuxer, [])
      else (demuxer.latch packet).resolveLatched packet := rfl

theorem resolved_fst (found : Option Sink) (binding : SsrcBinding) :
    (demuxer.resolved found ssrc binding).1 = found := by
  cases found <;> rfl

theorem resolved_state (found : Option Sink) (binding : SsrcBinding) :
    (demuxer.resolved found ssrc binding).2.1 = demuxer.bind ssrc found := by
  cases found <;> rfl

/-- Nothing is new where the sink has been found by the SSRC. -/
theorem bind_of_found (found : demuxer.sinkBySsrc.find ssrc = some sink) :
    demuxer.bind ssrc (some sink) = demuxer := by
  show (demuxer.addSsrcSinkBinding ssrc sink).1 = demuxer
  unfold addSsrcSinkBinding
  split
  · rfl
  · simp [found]

/-- At most the binding of the SSRC is new. -/
theorem bind_cases (demuxer : RtpDemuxer Sink) (ssrc : Nat) (found : Option Sink) :
    demuxer.bind ssrc found = demuxer ∨
      ∃ sink, found = some sink ∧ demuxer.bind ssrc found =
        { demuxer with sinkBySsrc := demuxer.sinkBySsrc.insert ssrc sink } := by
  cases found with
  | none => exact .inl rfl
  | some sink =>
      show (demuxer.addSsrcSinkBinding ssrc sink).1 = _ ∨ ∃ other, some sink = some other ∧
        (demuxer.addSsrcSinkBinding ssrc sink).1 = _
      unfold addSsrcSinkBinding
      split
      · exact .inl rfl
      · split
        · exact .inr ⟨sink, rfl, rfl⟩
        · split
          · exact .inr ⟨sink, rfl, rfl⟩
          · exact .inl rfl

/-- As long as there are not too many SSRCs, the binding is made. -/
theorem find_bind_self (few : demuxer.sinkBySsrc.entries.length < kMaxSsrcBindings) :
    (demuxer.bind ssrc (some sink)).sinkBySsrc.find ssrc = some sink := by
  show (demuxer.addSsrcSinkBinding ssrc sink).1.sinkBySsrc.find ssrc = some sink
  unfold addSsrcSinkBinding
  rw [if_neg (Nat.not_le.mpr few)]
  split
  · exact (OrderedMap.find_insert ssrc).trans (if_pos rfl)
  · rename_i bound found
    split
    · exact (OrderedMap.find_insert ssrc).trans (if_pos rfl)
    · rename_i same
      rw [found]
      exact congrArg Option.some (not_ne_iff.mp same)

/-- The sink of a packet is bound to its SSRC, also where it has been found by the SSRC. -/
theorem resolveLatched_spec (demuxer : RtpDemuxer Sink) (packet : DemuxedPacket) :
    (demuxer.resolveLatched packet).1 = demuxer.route packet ∧
      (demuxer.resolveLatched packet).2.1 =
        demuxer.bind packet.ssrc (demuxer.route packet) := by
  unfold resolveLatched route latchedSink
  dsimp only
  cases demuxer.midBySsrc.find packet.ssrc with
  | some mid =>
      have one : (demuxer.resolveSinkByMid mid packet.ssrc).1 = demuxer.sinkByMid.find mid :=
        resolved_fst _ _
      have state : (demuxer.resolveSinkByMid mid packet.ssrc).2.1 =
          demuxer.bind packet.ssrc (demuxer.sinkByMid.find mid) := resolved_state _ _
      dsimp only
      rw [one]
      cases found : demuxer.sinkByMid.find mid with
      | some sink =>
          rw [found] at one state
          exact ⟨one, state⟩
      | none =>
          cases demuxer.rsidBySsrc.find packet.ssrc with
          | none => exact ⟨rfl, rfl⟩
          | some rsid =>
              rw [Option.none_or, Option.bind_some, Option.or_none]
              exact ⟨resolved_fst _ _, resolved_state _ _⟩
  | none =>
      dsimp only
      cases found : (demuxer.rsidBySsrc.find packet.ssrc).bind demuxer.sinkByRsid.find with
      | some sink =>
          obtain ⟨rsid, remembered, bySink⟩ := Option.bind_eq_some_iff.mp found
          rw [remembered, Option.some_or, Option.some_or]
          have one : (demuxer.resolveSinkByRsid rsid packet.ssrc).1 =
              demuxer.sinkByRsid.find rsid := resolved_fst _ _
          have state : (demuxer.resolveSinkByRsid rsid packet.ssrc).2.1 =
              demuxer.bind packet.ssrc (demuxer.sinkByRsid.find rsid) := resolved_state _ _
          rw [bySink] at one state
          exact ⟨one, state⟩
      | none =>
          rw [Option.none_or]
          dsimp only
          cases bound : demuxer.sinkBySsrc.find packet.ssrc with
          | some sink => exact ⟨rfl, (bind_of_found bound).symm⟩
          | none => exact ⟨resolved_fst _ _, resolved_state _ _⟩

/-- The sink for a packet, and the state afterwards, unless it has the MID of no sink. -/
theorem resolveSink_cases (demuxer : RtpDemuxer Sink) (packet : DemuxedPacket) :
    demuxer.resolveSink packet = (none, demuxer, []) ∨
      (demuxer.resolveSink packet).1 = (demuxer.latch packet).route packet ∧
        (demuxer.resolveSink packet).2.1 =
          (demuxer.latch packet).bind packet.ssrc ((demuxer.latch packet).route packet) := by
  by_cases unknown : (if demuxer.useMid then packet.mid else none).any
      fun mid => !demuxer.knownMids.contains mid
  · rw [resolveSink_eq, if_pos unknown]
    exact .inl rfl
  · rw [resolveSink_eq, if_neg unknown]
    exact .inr (resolveLatched_spec _ _)

/-- A packet with a MID of no sink. -/
theorem resolveSink_of_unknown {mid : String} (carried : packet.mid = some mid)
    (used : demuxer.useMid = true) (unknown : mid ∉ demuxer.knownMids) :
    demuxer.resolveSink packet = (none, demuxer, []) := by
  rw [resolveSink_eq, used, if_pos rfl, carried, if_pos (by simpa using unknown)]

theorem resolveSink_of_plain (mid : packet.mid = none)
    (repaired : packet.repairedRtpStreamId = none) (rsid : packet.rtpStreamId = none) :
    (demuxer.resolveSink packet).1 = demuxer.route packet := by
  rw [resolveSink_eq, latch_of_plain mid repaired rsid, mid, ite_self]
  exact (resolveLatched_spec _ _).1

end Resolving

/-- A rule for each sink is from criteria that it has been added with. -/
structure RulesOf (added : RtpDemuxerCriteria → Sink → Prop) (demuxer : RtpDemuxer Sink) :
    Prop where
  mid : ∀ mid sink, demuxer.sinkByMid.find mid = some sink →
    mid ≠ "" ∧ ∃ criteria, added criteria sink ∧ criteria.mid = mid
  midRsid : ∀ mid rsid sink, demuxer.sinkByMidAndRsid.find (toLex (mid, rsid)) = some sink →
    mid ≠ "" ∧ ∃ criteria, added criteria sink ∧ criteria.mid = mid
  rsid : ∀ rsid sink, demuxer.sinkByRsid.find rsid = some sink → ∃ criteria, added criteria sink
  ssrc : ∀ ssrc sink, demuxer.sinkBySsrc.find ssrc = some sink → ∃ criteria, added criteria sink
  payloadType : ∀ entry ∈ demuxer.sinksByPt, ∃ criteria, added criteria entry.2

section Rules

variable {added after : RtpDemuxerCriteria → Sink → Prop} {demuxer : RtpDemuxer Sink}
  {packet : DemuxedPacket} {criteria : RtpDemuxerCriteria} {sink bound : Sink}

omit [DecidableEq Sink] in
/-- An emplaced value is the new one, or one that was there. -/
theorem find_emplace_cases {Key : Type} [LinearOrder Key] {map : OrderedMap Key Sink}
    {key other : Key} (found : (map.emplace key sink).find other = some bound) :
    map.find other = some bound ∨ other = key ∧ bound = sink := by
  rw [OrderedMap.find_emplace] at found
  split at found
  · next both => exact .inr ⟨both.1, (Option.some_inj.mp found).symm⟩
  · exact .inl found

omit [DecidableEq Sink] in
theorem RulesOf.mono (rules : RulesOf added demuxer)
    (kept : ∀ criteria sink, added criteria sink → after criteria sink) :
    RulesOf after demuxer := by
  refine ⟨fun mid sink found => ?_, fun mid rsid sink found => ?_, fun rsid sink found => ?_,
    fun ssrc sink found => ?_, fun entry member => ?_⟩
  · obtain ⟨proper, criteria, before, same⟩ := rules.mid mid sink found
    exact ⟨proper, criteria, kept _ _ before, same⟩
  · obtain ⟨proper, criteria, before, same⟩ := rules.midRsid mid rsid sink found
    exact ⟨proper, criteria, kept _ _ before, same⟩
  · exact (rules.rsid rsid sink found).imp fun criteria => kept criteria sink
  · exact (rules.ssrc ssrc sink found).imp fun criteria => kept criteria sink
  · exact (rules.payloadType entry member).imp fun criteria => kept criteria entry.2

omit [DecidableEq Sink] in
/-- Adding a sink, with criteria that count if it is not refused. -/
theorem RulesOf.addSink (rules : RulesOf added demuxer)
    (new : (demuxer.addSink criteria sink).2 = true → added criteria sink) :
    RulesOf added (demuxer.addSink criteria sink).1 := by
  unfold RtpDemuxer.addSink at new ⊢
  by_cases conflict : demuxer.criteriaWouldConflict criteria
  · rw [if_pos conflict]
    exact rules
  · rw [if_neg conflict] at new ⊢
    have counts : added criteria sink := new rfl
    refine ⟨fun mid bound found => ?_, fun mid rsid bound found => ?_, fun rsid bound found => ?_,
      fun ssrc bound found => ?_, fun entry member => ?_⟩
    · dsimp only at found
      split at found
      · rename_i both
        rcases find_emplace_cases found with old | ⟨rfl, rfl⟩
        · exact rules.mid mid bound old
        · exact ⟨by simpa using And.left (by simpa using both), criteria, counts, rfl⟩
      · exact rules.mid mid bound found
    · dsimp only at found
      split at found
      · rename_i both
        rcases find_emplace_cases found with old | ⟨same, rfl⟩
        · exact rules.midRsid mid rsid bound old
        · obtain ⟨rfl, rfl⟩ := Prod.mk.inj (toLex.injective same)
          exact ⟨by simpa using And.left (by simpa using both), criteria, counts, rfl⟩
      · exact rules.midRsid mid rsid bound found
    · dsimp only at found
      split at found
      · rcases find_emplace_cases found with old | ⟨-, rfl⟩
        · exact rules.rsid rsid bound old
        · exact ⟨criteria, counts⟩
      · exact rules.rsid rsid bound found
    · dsimp only at found
      rw [find_foldl_emplace] at found
      rcases Option.or_eq_some_iff.mp found with old | ⟨-, fresh⟩
      · exact rules.ssrc ssrc bound old
      · split at fresh
        · rw [← Option.some_inj.mp fresh]
          exact ⟨criteria, counts⟩
        · cases fresh
    · rcases List.mem_append.mp member with old | fresh
      · exact rules.payloadType entry old
      · obtain ⟨payloadType, -, rfl⟩ := List.mem_map.mp fresh
        exact ⟨criteria, counts⟩

/-- Removing a sink takes all its rules. -/
theorem RulesOf.removeSink (rules : RulesOf added demuxer) :
    RulesOf (fun criteria other => other ≠ sink ∧ added criteria other)
      (demuxer.removeSink sink).1 := by
  have others {Key : Type} [LinearOrder Key] {map : OrderedMap Key Sink} {key : Key}
      {other : Sink}
      (found : (map.filter fun entry => decide (entry.2 ≠ sink)).find key = some other) :
      map.find key = some other ∧ other ≠ sink := by
    rw [OrderedMap.find_filter, Option.filter_eq_some_iff] at found
    exact ⟨found.1, of_decide_eq_true found.2⟩
  refine ⟨fun mid other found => ?_, fun mid rsid other found => ?_, fun rsid other found => ?_,
    fun ssrc other found => ?_, fun entry member => ?_⟩
  · obtain ⟨old, apart⟩ := others found
    obtain ⟨proper, criteria, before, same⟩ := rules.mid mid other old
    exact ⟨proper, criteria, ⟨apart, before⟩, same⟩
  · obtain ⟨old, apart⟩ := others found
    obtain ⟨proper, criteria, before, same⟩ := rules.midRsid mid rsid other old
    exact ⟨proper, criteria, ⟨apart, before⟩, same⟩
  · obtain ⟨old, apart⟩ := others found
    exact (rules.rsid rsid other old).imp fun criteria before => ⟨apart, before⟩
  · obtain ⟨old, apart⟩ := others found
    exact (rules.ssrc ssrc other old).imp fun criteria before => ⟨apart, before⟩
  · obtain ⟨old, apart⟩ := List.mem_filter.mp member
    exact (rules.payloadType entry old).imp fun criteria before =>
      ⟨of_decide_eq_true apart, before⟩

omit [DecidableEq Sink] in
/-- A packet is led to a sink by a rule. -/
theorem RulesOf.added_of_route (rules : RulesOf added demuxer)
    (routed : demuxer.route packet = some sink) : ∃ criteria, added criteria sink := by
  unfold route latchedSink at routed
  cases latchedMid : demuxer.midBySsrc.find packet.ssrc with
  | some mid =>
      rw [latchedMid] at routed
      dsimp only at routed
      rw [Option.or_none] at routed
      rcases Option.or_eq_some_iff.mp routed with byMid | ⟨-, byBoth⟩
      · obtain ⟨-, criteria, before, -⟩ := rules.mid mid sink byMid
        exact ⟨criteria, before⟩
      · obtain ⟨rsid, -, found⟩ := Option.bind_eq_some_iff.mp byBoth
        obtain ⟨-, criteria, before, -⟩ := rules.midRsid mid rsid sink found
        exact ⟨criteria, before⟩
  | none =>
      rw [latchedMid] at routed
      dsimp only at routed
      rcases Option.or_eq_some_iff.mp routed with byIds | ⟨-, only⟩
      · rcases Option.or_eq_some_iff.mp byIds with byRsid | ⟨-, bySsrc⟩
        · obtain ⟨rsid, -, found⟩ := Option.bind_eq_some_iff.mp byRsid
          exact rules.rsid rsid sink found
        · exact rules.ssrc packet.ssrc sink bySsrc
      · unfold onlySink at only
        split at only
        · rename_i entry alone
          have member : entry ∈ demuxer.sinksByPt :=
            List.mem_of_mem_filter (alone ▸ List.mem_singleton_self entry)
          rw [← Option.some_inj.mp only]
          exact rules.payloadType entry member
        · cases only

omit [DecidableEq Sink] in
theorem RulesOf.latch (rules : RulesOf added demuxer) : RulesOf added (demuxer.latch packet) :=
  ⟨rules.mid, rules.midRsid, rules.rsid, rules.ssrc, rules.payloadType⟩

/-- What is bound to an SSRC is a sink that has been added. -/
theorem RulesOf.bind (rules : RulesOf added demuxer) {found : Option Sink}
    (counts : ∀ sink, found = some sink → ∃ criteria, added criteria sink) (ssrc : Nat) :
    RulesOf added (demuxer.bind ssrc found) := by
  rcases bind_cases demuxer ssrc found with same | ⟨sink, isSink, changed⟩
  · rw [same]
    exact rules
  · rw [changed]
    refine ⟨rules.mid, rules.midRsid, rules.rsid, fun other bound routed => ?_, rules.payloadType⟩
    dsimp only at routed
    rw [OrderedMap.find_insert] at routed
    split at routed
    · rw [← Option.some_inj.mp routed]
      exact counts sink isSink
    · exact rules.ssrc other bound routed

/-- A packet leaves rules of the same sinks, and is led to one of them. -/
theorem RulesOf.resolveSink (rules : RulesOf added demuxer) (packet : DemuxedPacket) :
    RulesOf added (demuxer.resolveSink packet).2.1 ∧
      ∀ sink, (demuxer.resolveSink packet).1 = some sink → ∃ criteria, added criteria sink := by
  have latched : RulesOf added (demuxer.latch packet) := rules.latch
  rcases demuxer.resolveSink_cases packet with dropped | ⟨routed, state⟩
  · rw [dropped]
    exact ⟨rules, nofun⟩
  · rw [routed, state]
    exact ⟨latched.bind (fun sink found => latched.added_of_route found) packet.ssrc,
      fun sink found => latched.added_of_route found⟩

omit [DecidableEq Sink] in
/-- The MIDs that are known are those of the rules. -/
theorem RulesOf.mid_of_known (rules : RulesOf added demuxer) {mid : String}
    (known : mid ∈ demuxer.knownMids) :
    mid ≠ "" ∧ ∃ criteria sink, added criteria sink ∧ criteria.mid = mid := by
  rw [demuxer.refreshed] at known
  rcases List.mem_append.mp known with alone | paired
  · obtain ⟨entry, member, rfl⟩ := List.mem_map.mp alone
    obtain ⟨proper, criteria, before, same⟩ :=
      rules.mid entry.1 entry.2 (OrderedMap.find_eq_some_iff.mpr member)
    exact ⟨proper, criteria, entry.2, before, same⟩
  · obtain ⟨entry, member, rfl⟩ := List.mem_map.mp paired
    obtain ⟨proper, criteria, before, same⟩ :=
      rules.midRsid (ofLex entry.1).1 (ofLex entry.1).2 entry.2
        (OrderedMap.find_eq_some_iff.mpr member)
    exact ⟨proper, criteria, entry.2, before, same⟩

end Rules

/-- No sink is added or removed, and no packet has the SSRC. -/
def Quiet (ssrc : Nat) (demuxer : RtpDemuxer Sink) : SinkCall Sink → Prop
  | .addSink criteria sink => (demuxer.addSink criteria sink).2 = false
  | .removeSink sink => (demuxer.removeSink sink).2 = false
  | .onRtpPacket packet => packet.ssrc ≠ ssrc

section Latched

variable {demuxer : RtpDemuxer Sink} {packet : DemuxedPacket} {ssrc : Nat} {sink : Sink}

omit [DecidableEq Sink] in
/-- The way to a sink by what is remembered. -/
theorem route_of_latchedSink (routed : demuxer.latchedSink packet.ssrc = some sink) :
    demuxer.route packet = some sink := by
  unfold route
  rw [routed, Option.some_or]

/-- Only the binding of one SSRC can be another. -/
theorem bind_frame (demuxer : RtpDemuxer Sink) (ssrc : Nat) (found : Option Sink) :
    ∃ sinks : OrderedMap Nat Sink,
      demuxer.bind ssrc found = { demuxer with sinkBySsrc := sinks } ∧
        ∀ other, other ≠ ssrc → sinks.find other = demuxer.sinkBySsrc.find other := by
  rcases bind_cases demuxer ssrc found with same | ⟨sink, -, changed⟩
  · exact ⟨demuxer.sinkBySsrc, same, fun _ _ => rfl⟩
  · refine ⟨demuxer.sinkBySsrc.insert ssrc sink, changed, fun other apart => ?_⟩
    rw [OrderedMap.find_insert, if_neg apart]

/-- A sink that has got a packet is the one for what is remembered of the SSRC. -/
theorem latchedSink_bind_self (few : demuxer.sinkBySsrc.entries.length < kMaxSsrcBindings)
    (routed : demuxer.route packet = some sink) :
    (demuxer.bind packet.ssrc (some sink)).latchedSink packet.ssrc = some sink := by
  have bound : (demuxer.bind packet.ssrc (some sink)).sinkBySsrc.find packet.ssrc = some sink :=
    find_bind_self few
  obtain ⟨sinks, changed, -⟩ := bind_frame demuxer packet.ssrc (some sink)
  rw [changed] at bound ⊢
  unfold route latchedSink at routed
  unfold latchedSink
  cases latchedMid : demuxer.midBySsrc.find packet.ssrc with
  | some mid => simpa [latchedMid] using routed
  | none =>
      rw [latchedMid] at routed
      dsimp only at routed bound ⊢
      rw [bound]
      cases byRsid : (demuxer.rsidBySsrc.find packet.ssrc).bind demuxer.sinkByRsid.find with
      | none => rfl
      | some other =>
          rw [byRsid, Option.some_or, Option.some_or] at routed
          rw [Option.some_or, routed]

theorem find_latched {ids : OrderedMap Nat String} {id : Option String} {other : Nat}
    (apart : other ≠ ssrc) : (latched ids ssrc id).find other = ids.find other := by
  cases id with
  | none => rfl
  | some id => exact (OrderedMap.find_insert other).trans (if_neg apart)

/-- What is remembered of another SSRC stays, and leads to the same sink. -/
theorem latchedSink_resolveSink_of_ne (apart : ssrc ≠ packet.ssrc) :
    (demuxer.resolveSink packet).2.1.latchedSink ssrc = demuxer.latchedSink ssrc := by
  rcases demuxer.resolveSink_cases packet with dropped | ⟨-, state⟩
  · rw [dropped]
  · obtain ⟨sinks, changed, others⟩ := bind_frame (demuxer.latch packet) packet.ssrc
      ((demuxer.latch packet).route packet)
    rw [state, changed]
    unfold latchedSink latch
    dsimp only
    rw [find_latched apart, find_latched apart, others ssrc apart]
    rfl

omit [DecidableEq Sink] in
theorem filter_eq_self_of_length {Key : Type} [LinearOrder Key] {map : OrderedMap Key Sink}
    {keep : Key × Sink → Bool}
    (nothing : map.entries.length - (map.filter keep).entries.length = 0) :
    map.filter keep = map := by
  have kept : (map.entries.filter keep).length = map.entries.length :=
    Nat.le_antisymm (List.length_filter_le _ _) (Nat.sub_eq_zero_iff_le.mp nothing)
  have same : map.entries.filter keep = map.entries :=
    List.filter_eq_self.mpr (List.length_filter_eq_length_iff.mp kept)
  cases map
  unfold OrderedMap.filter
  congr

/-- A sink without rules can be removed without effect. -/
theorem latchedSink_removeSink (nothing : (demuxer.removeSink sink).2 = false) :
    (demuxer.removeSink sink).1.latchedSink ssrc = demuxer.latchedSink ssrc := by
  unfold removeSink at nothing ⊢
  dsimp only at nothing ⊢
  rw [decide_eq_false_iff_not, Nat.not_lt, Nat.le_zero] at nothing
  simp only [Nat.add_eq_zero_iff] at nothing
  obtain ⟨⟨⟨⟨byMid, bySsrc⟩, -⟩, byBoth⟩, byRsid⟩ := nothing
  unfold latchedSink
  dsimp only
  rw [filter_eq_self_of_length byMid, filter_eq_self_of_length bySsrc,
    filter_eq_self_of_length byBoth, filter_eq_self_of_length byRsid]

/-- As long as nothing happens to an SSRC, its packets have the same sink. -/
theorem latchedSink_of_quiet {calls : List (SinkCall Sink)}
    (quiet : Along step (Quiet ssrc) demuxer calls)
    (routed : demuxer.latchedSink ssrc = some sink) :
    (finalState step demuxer calls).latchedSink ssrc = some sink := by
  refine quiet.invariant (fun demuxer => demuxer.latchedSink ssrc = some sink) ?_ routed
  intro demuxer call routed quiet
  cases call with
  | addSink criteria other =>
      have refused : demuxer.criteriaWouldConflict criteria = true := by
        by_contra fits
        change (demuxer.addSink criteria other).2 = false at quiet
        unfold addSink at quiet
        rw [if_neg fits] at quiet
        cases quiet
      show (demuxer.addSink criteria other).1.latchedSink ssrc = some sink
      unfold addSink
      rw [if_pos refused]
      exact routed
  | removeSink other => exact (latchedSink_removeSink quiet).trans routed
  | onRtpPacket packet => exact (latchedSink_resolveSink_of_ne (Ne.symm quiet)).trans routed

/-- What a sink gets of a call. -/
theorem mem_step_packet_iff {other : DemuxedPacket} :
    SinkOutput.packet sink other ∈ (step demuxer (.onRtpPacket packet)).2 ↔
      other = packet ∧ (demuxer.resolveSink packet).1 = some sink := by
  unfold step
  dsimp only
  generalize demuxer.resolveSink packet = resolved
  cases resolved.1 with
  | none => simp
  | some found => simp [and_comm, eq_comm]

end Latched

section Runs

/-- The demuxer after the calls. -/
abbrev afterCalls (calls : List (SinkCall Sink)) : RtpDemuxer Sink := finalState step {} calls

/-- A sink that has been added with the criteria, and not removed since. -/
def Added (calls : List (SinkCall Sink)) (criteria : RtpDemuxerCriteria) (sink : Sink) : Prop :=
  ∃ earlier later, calls = earlier ++ .addSink criteria sink :: later ∧
    ((afterCalls earlier).addSink criteria sink).2 = true ∧ .removeSink sink ∉ later

/-- A MID of a sink that has been added. -/
def MidInUse (calls : List (SinkCall Sink)) (mid : String) : Prop :=
  mid ≠ "" ∧ ∃ criteria sink, Added calls criteria sink ∧ criteria.mid = mid

variable {calls : List (SinkCall Sink)} {call : SinkCall Sink} {criteria : RtpDemuxerCriteria}
  {sink : Sink}

theorem afterCalls_concat (calls : List (SinkCall Sink)) (call : SinkCall Sink) :
    afterCalls (calls ++ [call]) = (step (afterCalls calls) call).1 := by
  unfold afterCalls
  rw [finalState_append]
  rfl

theorem Added.concat (added : Added calls criteria sink) (stays : call ≠ .removeSink sink) :
    Added (calls ++ [call]) criteria sink := by
  obtain ⟨earlier, later, rfl, accepted, kept⟩ := added
  refine ⟨earlier, later ++ [call], by simp, accepted, fun member => ?_⟩
  rcases List.mem_append.mp member with before | now
  · exact kept before
  · exact stays (List.mem_singleton.mp now).symm

theorem added_concat_self (accepted : ((afterCalls calls).addSink criteria sink).2 = true) :
    Added (calls ++ [.addSink criteria sink]) criteria sink :=
  ⟨calls, [], rfl, accepted, List.not_mem_nil⟩

/-- In every run the rules are those of the sinks that are there. -/
theorem rulesOf_afterCalls (calls : List (SinkCall Sink)) :
    RulesOf (Added calls) (afterCalls calls) := by
  induction calls using List.reverseRecOn with
  | nil => exact ⟨nofun, nofun, nofun, nofun, nofun⟩
  | append_singleton calls call rules =>
      rw [afterCalls_concat]
      cases call with
      | addSink criteria sink =>
          have kept : RulesOf (Added (calls ++ [.addSink criteria sink])) (afterCalls calls) :=
            rules.mono fun criteria sink added => added.concat nofun
          exact kept.addSink added_concat_self
      | removeSink sink =>
          refine rules.removeSink.mono fun criteria other ⟨apart, added⟩ => added.concat ?_
          rintro same
          exact apart (SinkCall.removeSink.inj same).symm
      | onRtpPacket packet =>
          have kept : RulesOf (Added (calls ++ [.onRtpPacket packet])) (afterCalls calls) :=
            rules.mono fun criteria sink added => added.concat nofun
          exact (kept.resolveSink packet).1

theorem useMid_afterCalls (calls : List (SinkCall Sink)) : (afterCalls calls).useMid = true := by
  refine (along_true {} calls).invariant
    (fun demuxer : RtpDemuxer Sink => demuxer.useMid = true) ?_ rfl
  intro demuxer call used _
  cases call with
  | addSink criteria sink =>
      show (demuxer.addSink criteria sink).1.useMid = true
      unfold addSink
      split
      · exact used
      · exact used
  | removeSink sink => exact used
  | onRtpPacket packet =>
      show (demuxer.resolveSink packet).2.1.useMid = true
      rcases demuxer.resolveSink_cases packet with dropped | ⟨-, state⟩
      · rw [dropped]
        exact used
      · obtain ⟨sinks, changed, -⟩ := bind_frame (demuxer.latch packet) packet.ssrc
          ((demuxer.latch packet).route packet)
        rw [state, changed]
        exact used

/-- **Packets go to sinks that are there**, a MID that is not in use stops a packet without a trace,
and a packet without ids goes where the last one of its SSRC went, as long as no sink is added or
removed and the SSRC could be bound then. -/
theorem packets_to_added_sinks (calls : List (SinkCall Sink)) (packet : DemuxedPacket) :
    (∀ sink, .packet sink packet ∈ (step (afterCalls calls) (.onRtpPacket packet)).2 →
        ∃ criteria, Added calls criteria sink) ∧
      (∀ mid, packet.mid = some mid → ¬ MidInUse calls mid →
        step (afterCalls calls) (.onRtpPacket packet) = (afterCalls calls, [.result false])) ∧
      ∀ earlier previous between sink, calls = earlier ++ .onRtpPacket previous :: between →
        previous.ssrc = packet.ssrc →
        .packet sink previous ∈ (step (afterCalls earlier) (.onRtpPacket previous)).2 →
        (afterCalls earlier).sinkBySsrc.entries.length < kMaxSsrcBindings →
        Along step (Quiet packet.ssrc) (afterCalls (earlier ++ [.onRtpPacket previous])) between →
        packet.mid = none → packet.rtpStreamId = none → packet.repairedRtpStreamId = none →
        .packet sink packet ∈ (step (afterCalls calls) (.onRtpPacket packet)).2 := by
  have rules : RulesOf (Added calls) (afterCalls calls) := rulesOf_afterCalls calls
  refine ⟨fun sink delivered => ?_, fun mid carried unused => ?_, ?_⟩
  · exact (rules.resolveSink packet).2 sink (mem_step_packet_iff.mp delivered).2
  · have unknown : mid ∉ (afterCalls calls).knownMids :=
      fun known => unused (rules.mid_of_known known)
    have dropped := resolveSink_of_unknown carried (useMid_afterCalls calls) unknown
    unfold step
    dsimp only
    rw [dropped]
    rfl
  · intro earlier previous between sink split sameSsrc delivered few quiet noMid noRsid noRrid
    have found := (mem_step_packet_iff.mp delivered).2
    have latched : (afterCalls (earlier ++ [.onRtpPacket previous])).latchedSink packet.ssrc =
        some sink := by
      rw [afterCalls_concat]
      show ((afterCalls earlier).resolveSink previous).2.1.latchedSink packet.ssrc = some sink
      rcases (afterCalls earlier).resolveSink_cases previous with dropped | ⟨routed, state⟩
      · rw [dropped] at found
        cases found
      · rw [routed] at found
        rw [state, found, ← sameSsrc]
        exact latchedSink_bind_self few found
    have still : (afterCalls calls).latchedSink packet.ssrc = some sink := by
      have rejoined : calls = (earlier ++ [.onRtpPacket previous]) ++ between := by
        rw [split, List.append_assoc, List.singleton_append]
      rw [rejoined]
      unfold afterCalls
      rw [finalState_append]
      exact latchedSink_of_quiet quiet latched
    refine mem_step_packet_iff.mpr ⟨rfl, ?_⟩
    rw [resolveSink_of_plain noMid noRrid noRsid]
    exact route_of_latchedSink still

/-- The payload type of the first packet decides for the SSRC. -/
theorem packets_to_added_sinks_plain :
    let added : List (SinkCall Nat) :=
      [.addSink { payloadTypes := [96] } 1, .addSink { payloadTypes := [97] } 2]
    let calls := added ++ [.onRtpPacket { ssrc := 7, payloadType := 96 },
      .onRtpPacket { ssrc := 8, payloadType := 97 }]
    .packet 1 { ssrc := 7, payloadType := 97 } ∈
      (step (afterCalls calls) (.onRtpPacket { ssrc := 7, payloadType := 97 })).2 := by
  intro added calls
  exact (packets_to_added_sinks calls _).2.2 added _ _ 1 rfl rfl (by decide +kernel)
    (by decide +kernel) ⟨(by decide : (8 : Nat) ≠ 7), trivial⟩ rfl rfl rfl

end Runs

end RtpDemuxer

end MpWebRtc
