import MpWebRtc.Math.Run
import MpWebRtc.Receiver.StreamStatistics

/-!
# Restarts of a stream on a path

A packet far from the highest number of its path is put off, and if the next packet of the path
has the number behind it, the path is taken to have restarted there. On a path, numbers of the
path are compared with the RTP sequence number of the packet that was put off, so the rule holds
for a packet that has the same number in both.
-/

namespace MpWebRtc

open Math.Run

namespace SequenceStatistics

/-- The number is too far from the highest one. -/
def Far (stats : SequenceStatistics) (threshold number : Int) : Prop :=
  threshold < (number - stats.receivedSeqMax).natAbs

instance (stats : SequenceStatistics) (threshold number : Int) :
    Decidable (stats.Far threshold number) := inferInstanceAs (Decidable (_ < _))

/-- A packet put off before is counted as received. -/
def settled (stats : SequenceStatistics) : SequenceStatistics :=
  { stats with
    cumulativeLoss :=
      if stats.receivedSeqOutOfOrder.isSome then stats.cumulativeLoss - 1 else stats.cumulativeLoss
    receivedSeqOutOfOrder := none }

/-- The packet is counted without a restart: it is put off if it is far, and otherwise it is one
packet less lost and may raise the highest number. -/
structure Plainly (before after : SequenceStatistics) (loss threshold number : Int) : Prop where
  highest : after.receivedSeqMax =
    if before.Far threshold number then before.receivedSeqMax
    else max before.receivedSeqMax number
  loss : after.cumulativeLoss =
    if before.Far threshold number then loss
    else loss - 1 + (max before.receivedSeqMax number - before.receivedSeqMax)

/-- The path restarts at the packet, and nothing is lost by that. -/
structure Restarts (before after : SequenceStatistics) (number : Int) : Prop where
  highest : after.receivedSeqMax = number
  loss : after.cumulativeLoss = before.cumulativeLoss

/-- Only the highest number matters before. -/
theorem Plainly.of_same {before other after : SequenceStatistics} {loss threshold number : Int}
    (same : before.receivedSeqMax = other.receivedSeqMax)
    (plain : before.Plainly after loss threshold number) :
    other.Plainly after loss threshold number := by
  have far : before.Far threshold number ↔ other.Far threshold number := by
    unfold Far
    rw [same]
  have highest := plain.highest
  have loss := plain.loss
  simp only [far, same] at highest loss
  exact ⟨highest, loss⟩

variable {stats : SequenceStatistics} {threshold number : Int}
variable (packet : RtpPacketReceived) (nowMs : Int)

theorem receive_far (known : 0 ≤ stats.receivedSeqFirst)
    (settled : stats.receivedSeqOutOfOrder = none) (far : stats.Far threshold number) :
    (stats.receive threshold packet number nowMs).Counts stats.cumulativeLoss
      stats.receivedSeqFirst stats.receivedSeqMax (some packet.sequenceNumber) := by
  have arrived : stats.arrive threshold packet.subflowSeq packet.sequenceNumber number =
      (.postponed, { stats with
        cumulativeLoss := stats.cumulativeLoss - 1 + 1
        receivedSeqOutOfOrder := some packet.sequenceNumber }) := by
    unfold arrive updateOutOfOrder settleRestart
    dsimp only
    rw [if_neg (not_lt.mpr known), settled]
    dsimp only
    exact (if_neg Bool.false_ne_true).trans (if_pos far)
  unfold receive
  rw [arrived, if_neg nofun]
  exact ⟨sub_add_cancel _ _, rfl, rfl, rfl⟩

/-- Without a packet put off nothing restarts. -/
theorem receive_settled (known : 0 ≤ stats.receivedSeqFirst)
    (settled : stats.receivedSeqOutOfOrder = none) :
    stats.Plainly (stats.receive threshold packet number nowMs) stats.cumulativeLoss threshold
      number := by
  by_cases far : stats.Far threshold number
  · have counts := receive_far packet nowMs known settled far
    exact ⟨counts.highest.trans (if_pos far).symm, counts.loss.trans (if_pos far).symm⟩
  · have counts := receive_next packet nowMs known settled (not_lt.mp far)
    exact ⟨counts.highest.trans (if_neg far).symm, counts.loss.trans (if_neg far).symm⟩

/-- A packet with the number behind the one put off is a restart. -/
theorem receive_restart (known : 0 ≤ stats.receivedSeqFirst) {postponed : UInt16}
    (pending : stats.receivedSeqOutOfOrder = some postponed)
    (next : packet.subflowSeq = postponed + 1) :
    stats.Restarts (stats.receive threshold packet number nowMs) number := by
  let settled := { stats with
    cumulativeLoss := stats.cumulativeLoss - 1 - 1
    receivedSeqOutOfOrder := none
    lastReportSeqMax := number - 2
    receivedSeqMax := number - 2 }
  have settles : { stats with cumulativeLoss := stats.cumulativeLoss - 1 }.settleRestart
      packet.subflowSeq number = (true, settled) := by
    unfold settleRestart
    simp only [pending, if_pos next, settled]
  have arrived : stats.arrive threshold packet.subflowSeq packet.sequenceNumber number =
      (.inOrder, settled) := by
    unfold arrive updateOutOfOrder
    dsimp only
    rw [if_neg (not_lt.mpr known), settles]
    rfl
  have advanced : (settled.advance number).Counts stats.cumulativeLoss stats.receivedSeqFirst number
      none := by
    refine ⟨?_, rfl, rfl, rfl⟩
    change stats.cumulativeLoss - 1 - 1 + (number - (number - 2)) = _
    omega
  unfold receive
  rw [arrived]
  dsimp only
  rw [if_pos rfl]
  have counts := advanced.updatePathJitter packet nowMs packet.subflow.pathid
  exact ⟨counts.highest, counts.loss⟩

/-- With any other number, the packet put off is counted as received, and then there is none. -/
theorem receive_eq_settled (known : 0 ≤ stats.receivedSeqFirst)
    (alone : ∀ postponed ∈ stats.receivedSeqOutOfOrder, packet.subflowSeq ≠ postponed + 1) :
    stats.receive threshold packet number nowMs =
      stats.settled.receive threshold packet number nowMs := by
  cases pending : stats.receivedSeqOutOfOrder with
  | none =>
      have same : stats.settled = stats := by
        unfold settled
        rw [pending, if_neg (by simp), ← pending]
      rw [same]
  | some postponed =>
      unfold receive arrive updateOutOfOrder settleRestart settled
      simp only [if_neg (not_lt.mpr known), pending, if_neg (alone postponed pending),
        Option.isSome_some, if_true]

theorem receive_other {postponed : UInt16} (known : 0 ≤ stats.receivedSeqFirst)
    (pending : stats.receivedSeqOutOfOrder = some postponed)
    (other : packet.subflowSeq ≠ postponed + 1) :
    stats.Plainly (stats.receive threshold packet number nowMs) (stats.cumulativeLoss - 1) threshold
      number := by
  have alone : ∀ postponed ∈ stats.receivedSeqOutOfOrder, packet.subflowSeq ≠ postponed + 1 := by
    rintro _ known
    rw [pending] at known
    rwa [← Option.some.inj known]
  have plain : stats.settled.Plainly (stats.settled.receive threshold packet number nowMs)
      stats.settled.cumulativeLoss threshold number := receive_settled packet nowMs known rfl
  have loss : stats.settled.cumulativeLoss = stats.cumulativeLoss - 1 := by
    unfold settled
    rw [pending]
    rfl
  rw [receive_eq_settled packet nowMs known alone]
  have highest : stats.settled.receivedSeqMax = stats.receivedSeqMax := rfl
  rw [loss] at plain
  exact plain.of_same highest

end SequenceStatistics

namespace StreamStatistician

variable (maxDelayMs : UInt32 → UInt32 → Int) (ssrc : UInt32)

/-- An event that is not a packet of the path. -/
def Elsewhere (path : Subflow) : StatisticsEvent → Prop
  | .packet packet _ => packet.subflow ≠ path
  | _ => True

/-- Such an event leaves the account of the path. -/
theorem counts_elsewhere {path : Subflow} {s : StreamStatistician} {event : StatisticsEvent}
    (elsewhere : Elsewhere path event) {loss first highest : Int} {postponed : Option UInt16}
    (counts : (s.on path).Counts loss first highest postponed) :
    ((statisticsStep maxDelayMs ssrc s event).1.on path).Counts loss first highest postponed := by
  cases event with
  | packet packet nowMs =>
      obtain ⟨-, other, -, -⟩ := s.updateCounters_frame maxDelayMs packet nowMs
      change ((s.updateCounters maxDelayMs packet nowMs).on path).Counts ..
      rw [other path elsewhere]
      exact counts
  | report pathid nowMs collector =>
      obtain ⟨-, -, paths⟩ := s.getActiveStatisticsAndReset_frame nowMs pathid collector
      change ((s.getActiveStatisticsAndReset pathid nowMs collector).2.on path).Counts ..
      rw [paths path]
      split
      · exact counts.calculateRtcpStatistics
      · exact counts
  | setMaxReorderingThreshold threshold => cases path <;> exact counts
  | enableRetransmitDetection enable => cases path <;> exact counts

theorem counts_between {path : Subflow} {s : StreamStatistician} {between : List StatisticsEvent}
    (elsewhere : ∀ event ∈ between, Elsewhere path event) {loss first highest : Int}
    {postponed : Option UInt16} (counts : (s.on path).Counts loss first highest postponed) :
    ((finalState (statisticsStep maxDelayMs ssrc) s between).on path).Counts loss first highest
      postponed := by
  induction between generalizing s with
  | nil => exact counts
  | cons event between ih =>
      rw [List.forall_mem_cons] at elsewhere
      exact ih elsewhere.2 (counts_elsewhere maxDelayMs ssrc elsewhere.1 counts)

/-- The number a packet has on its path, put near the last RTP sequence number. -/
def pathNumber (s : StreamStatistician) (packet : RtpPacketReceived) : Int :=
  unwrapWithoutUpdate s.seqUnwrapper packet.subflowSeq

/-- The rule for restarts, at a packet of a path that is not itself the second one of a restart: it
is not a restart, and if it is too far from the highest number, the next packet of the path is
one exactly if it has the number behind it. Anything may happen in between that is not a packet
of the path. -/
structure RestartRule (s : StreamStatistician) (jump : RtpPacketReceived) (jumpMs : Int) :
    Prop where
  alone : (s.on jump.subflow).settled.Plainly
    ((s.updateCounters maxDelayMs jump jumpMs).on jump.subflow)
    (s.on jump.subflow).settled.cumulativeLoss s.maxReorderingThreshold (s.pathNumber jump)
  next : (s.on jump.subflow).Far s.maxReorderingThreshold (s.pathNumber jump) →
    ∀ (between : List StatisticsEvent) (packet : RtpPacketReceived) (nowMs : Int),
      (∀ event ∈ between, Elsewhere jump.subflow event) → packet.subflow = jump.subflow →
      let reached := finalState (statisticsStep maxDelayMs ssrc)
        (s.updateCounters maxDelayMs jump jumpMs) between
      let after := (reached.updateCounters maxDelayMs packet nowMs).on jump.subflow
      if packet.subflowSeq = jump.subflowSeq + 1 then
        (s.on jump.subflow).settled.Restarts after (reached.pathNumber packet)
      else
        (s.on jump.subflow).settled.Plainly after
          ((s.on jump.subflow).settled.cumulativeLoss - 1) reached.maxReorderingThreshold
          (reached.pathNumber packet)

variable {s : StreamStatistician} {jump : RtpPacketReceived} {jumpMs : Int}

/-- What is kept after a packet that is too far away and some events elsewhere. -/
theorem counts_after_jump (known : 0 ≤ (s.on jump.subflow).receivedSeqFirst)
    (alone : ∀ postponed ∈ (s.on jump.subflow).receivedSeqOutOfOrder,
      jump.subflowSeq ≠ postponed + 1)
    (far : (s.on jump.subflow).Far s.maxReorderingThreshold (s.pathNumber jump))
    {between : List StatisticsEvent} (elsewhere : ∀ event ∈ between, Elsewhere jump.subflow event) :
    ((finalState (statisticsStep maxDelayMs ssrc) (s.updateCounters maxDelayMs jump jumpMs)
      between).on jump.subflow).Counts (s.on jump.subflow).settled.cumulativeLoss
        (s.on jump.subflow).receivedSeqFirst (s.on jump.subflow).receivedSeqMax
        (some jump.sequenceNumber) := by
  obtain ⟨own, -, -, -⟩ := s.updateCounters_frame maxDelayMs jump jumpMs
  apply counts_between maxDelayMs ssrc elsewhere
  rw [own, SequenceStatistics.receive_eq_settled jump jumpMs known alone]
  have settledFar : (s.on jump.subflow).settled.Far s.maxReorderingThreshold (s.pathNumber jump) :=
    far
  exact SequenceStatistics.receive_far jump jumpMs known rfl settledFar

/-- The next packet of the path is a restart if it follows the RTP sequence number of the one put
off, and is counted plainly otherwise. -/
theorem next_after_jump (known : 0 ≤ (s.on jump.subflow).receivedSeqFirst)
    (alone : ∀ postponed ∈ (s.on jump.subflow).receivedSeqOutOfOrder,
      jump.subflowSeq ≠ postponed + 1)
    (far : (s.on jump.subflow).Far s.maxReorderingThreshold (s.pathNumber jump))
    {between : List StatisticsEvent} (elsewhere : ∀ event ∈ between, Elsewhere jump.subflow event)
    (packet : RtpPacketReceived) (nowMs : Int) (own : packet.subflow = jump.subflow) :
    let reached := finalState (statisticsStep maxDelayMs ssrc)
      (s.updateCounters maxDelayMs jump jumpMs) between
    let after := (reached.updateCounters maxDelayMs packet nowMs).on jump.subflow
    if packet.subflowSeq = jump.sequenceNumber + 1 then
      (s.on jump.subflow).settled.Restarts after (reached.pathNumber packet)
    else
      (s.on jump.subflow).settled.Plainly after
        ((s.on jump.subflow).settled.cumulativeLoss - 1) reached.maxReorderingThreshold
        (reached.pathNumber packet) := by
  intro reached after
  have counts : (reached.on jump.subflow).Counts .. :=
    @counts_after_jump maxDelayMs ssrc s jump jumpMs known alone far between elsewhere
  have moved : after = (reached.on jump.subflow).receive reached.maxReorderingThreshold packet
      (reached.pathNumber packet) nowMs := by
    obtain ⟨moved, -, -, -⟩ := reached.updateCounters_frame maxDelayMs packet nowMs
    rw [own] at moved
    exact moved
  have first : 0 ≤ (reached.on jump.subflow).receivedSeqFirst := by
    rw [counts.first]
    exact known
  rw [moved]
  split
  · rename_i follows
    have restart := @SequenceStatistics.receive_restart (reached.on jump.subflow)
      reached.maxReorderingThreshold (reached.pathNumber packet) packet nowMs first
      jump.sequenceNumber counts.postponed follows
    exact ⟨restart.highest, restart.loss.trans counts.loss⟩
  · rename_i other
    have plain := @SequenceStatistics.receive_other (reached.on jump.subflow)
      reached.maxReorderingThreshold (reached.pathNumber packet) packet nowMs
      jump.sequenceNumber first counts.postponed other
    rw [counts.loss] at plain
    exact plain.of_same counts.highest

/-- Both readings of a packet are possible only for the second number above the highest one. -/
theorem number_of_both {before after : SequenceStatistics} {threshold number : Int}
    (restarts : before.Restarts after number)
    (plain : before.Plainly after (before.cumulativeLoss - 1) threshold number) :
    number = before.receivedSeqMax + 2 := by
  have highest := plain.highest
  have loss := plain.loss
  rw [restarts.highest] at highest
  rw [restarts.loss] at loss
  split at loss
  · omega
  · rename_i near
    rw [if_neg near] at highest
    omega

/-- Numbers of a path that are put in one place are the same. -/
theorem subflowSeq_eq_of_pathNumber {s : StreamStatistician} {first second : RtpPacketReceived}
    (same : s.pathNumber first = s.pathNumber second) : first.subflowSeq = second.subflowSeq := by
  have one := unwrapWithoutUpdate_emod s.seqUnwrapper first.subflowSeq
  have two := unwrapWithoutUpdate_emod s.seqUnwrapper second.subflowSeq
  unfold pathNumber at same
  rw [same, two] at one
  exact UInt16.toNat_inj.mp (by omega)

end StreamStatistician

/-- **Restarts.** At any packet of a path that does not complete a restart, the rule for restarts holds
exactly if the packet is not too far from the highest number or has the same number on the path
and in the stream. -/
theorem restart_rule_iff (maxDelayMs : UInt32 → UInt32 → Int) (ssrc : UInt32)
    (s : StreamStatistician) (jump : RtpPacketReceived) (jumpMs : Int)
    (known : 0 ≤ (s.on jump.subflow).receivedSeqFirst)
    (alone : ∀ postponed ∈ (s.on jump.subflow).receivedSeqOutOfOrder,
      jump.subflowSeq ≠ postponed + 1) :
    s.RestartRule maxDelayMs ssrc jump jumpMs ↔
      ((s.on jump.subflow).Far s.maxReorderingThreshold (s.pathNumber jump) →
        jump.sequenceNumber = jump.subflowSeq) := by
  constructor
  · intro rule far
    by_contra differs
    -- one next packet follows the number on the path, the other one the number in the stream
    let reached := s.updateCounters maxDelayMs jump jumpMs
    let next : RtpPacketReceived := { jump with subflowSeq := jump.subflowSeq + 1 }
    let other : RtpPacketReceived := { jump with subflowSeq := jump.sequenceNumber + 1 }
    have apart : jump.sequenceNumber + 1 ≠ jump.subflowSeq + 1 := by grind
    have nothing := List.forall_mem_nil (StreamStatistician.Elsewhere jump.subflow)
    have claimed := rule.next far [] next jumpMs nothing rfl
    have done := @StreamStatistician.next_after_jump maxDelayMs ssrc s jump jumpMs known alone far
      [] nothing next jumpMs rfl
    have claimed' := rule.next far [] other jumpMs nothing rfl
    have done' := @StreamStatistician.next_after_jump maxDelayMs ssrc s jump jumpMs known alone far
      [] nothing other jumpMs rfl
    dsimp only [next] at claimed done
    dsimp only [other] at claimed' done'
    rw [if_pos rfl] at claimed done'
    rw [if_neg apart.symm] at done
    rw [if_neg apart] at claimed'
    have one := StreamStatistician.number_of_both claimed done
    have two := StreamStatistician.number_of_both done' claimed'
    have same : next.subflowSeq = other.subflowSeq :=
      StreamStatistician.subflowSeq_eq_of_pathNumber (one.trans two.symm)
    exact apart same.symm
  · intro numbered
    refine ⟨?_, fun far between packet nowMs elsewhere own => ?_⟩
    · obtain ⟨moved, -, -, -⟩ := s.updateCounters_frame maxDelayMs jump jumpMs
      rw [moved, SequenceStatistics.receive_eq_settled jump jumpMs known alone]
      exact SequenceStatistics.receive_settled jump jumpMs known rfl
    · rw [← numbered far]
      exact StreamStatistician.next_after_jump maxDelayMs ssrc known alone far elsewhere packet
        nowMs own

/-- A packet of the first path, with its numbers in the stream and on the path. -/
def restartPacket (sequenceNumber subflowSeq : UInt16) : RtpPacketReceived where
  sequenceNumber := sequenceNumber
  subflowId := 1
  subflowSeq := subflowSeq

/-- A stream with one packet, which has number 100 on the first path. -/
def oneReceived : StreamStatistician :=
  StreamStatistician.updateCounters (fun _ _ => 0) { maxReorderingThreshold := 50 }
    (restartPacket 1000 100) 0

/-- A jump to 5000 in both numberings. -/
theorem restart_rule_same_number :
    oneReceived.RestartRule (fun _ _ => 0) 1 (restartPacket 5000 5000) 0 := by
  have settled :
      (oneReceived.on (restartPacket 5000 5000).subflow).receivedSeqOutOfOrder = none := by
    decide
  refine (restart_rule_iff (fun _ _ => 0) 1 oneReceived (restartPacket 5000 5000) 0 (by decide)
    ?_).mpr fun _ => rfl
  intro postponed pending
  rw [settled] at pending
  cases pending

/-- A jump to 5000 on the path, to 2000 in the stream: with number 5001 the path should restart,
but its highest number stays 100. -/
theorem restart_missed : ¬oneReceived.RestartRule (fun _ _ => 0) 1 (restartPacket 2000 5000) 0 := by
  intro rule
  have claimed := rule.next (by decide) [] (restartPacket 2001 5001) 0
    (List.forall_mem_nil _) rfl
  dsimp only at claimed
  rw [if_pos (by decide)] at claimed
  exact absurd claimed.highest (by decide)

end MpWebRtc
