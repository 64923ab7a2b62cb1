import Mathlib.Data.Prod.Lex
import Mathlib.Order.WellFounded
import MpWebRtc.Sender.PacingSteps

/-!
# The rank of the send loop

A round sends a packet or adds padding. The first makes the queue shorter, but the second fills it
again. What bounds the paddings is an allowance: the bytes that a probe or the padding budget has
left, or the time up to the end of the call. While padding may be added to an empty queue, packets
of it that are sent use the allowance up, or else leave a debt that keeps padding away until the
time moves on.
-/

namespace MpWebRtc.Pacing

open Math.Checked Math.Rounds PacingController

/-- What `GeneratePadding` is relied on for: its packets have a type and a size. -/
def PacketSender.Lawful {Sender : Type} (io : PacketSender Sender) : Prop :=
  ∀ sender size, ∀ packet ∈ (io.generatePadding sender size).1,
    packet.packetType.isSome ∧ 0 < packet.payload.length + packet.paddingSize

/-- Padding is accounted, and if some is wanted then its debt is not capped at zero. -/
structure PacketSender.Tame {Sender : Type} (io : PacketSender Sender) (settings : PacerSettings) :
    Prop where
  accounted : ∀ sender size, ∀ packet ∈ (io.generatePadding sender size).1,
    packet.packetType ≠ some .kAudio ∨ settings.accountForAudio = true
  capped : settings.mode = .kDynamic →
    0 < dataAt settings.paddingRate settings.paddingTargetDuration →
      0 < dataAt settings.paddingRate kMaxDebtInTime

namespace SendLoop

variable {Sender : Type} {io : PacketSender Sender} {call : SendCall} {bound : Int}
  {loop : SendLoop Sender}

/-- What bounds the paddings that are still to come. -/
def allowance (call : SendCall) (bound : Int) (loop : SendLoop Sender) : Nat :=
  match call.recommendedProbeSize with
  | some size => (size - loop.dataSent).toNat
  | none =>
      match loop.pacer.mode with
      | .kPeriodic => loop.pacer.paddingBudget.bytesRemaining.toNat
      | .kDynamic => (bound - loop.previousProcessTime).toNat

/-- Padding may be added once the queue is empty. -/
def Open (call : SendCall) (loop : SendLoop Sender) : Prop :=
  match call.recommendedProbeSize with
  | some size => loop.dataSent < size
  | none =>
      match loop.pacer.mode with
      | .kPeriodic => 0 < loop.pacer.paddingBudget.bytesRemaining
      | .kDynamic => loop.pacer.paddingDebt = 0 ∧
          0 < dataAt loop.pacer.paddingRate loop.pacer.paddingTargetDuration

/-- There are packets in the queue, and all of them count. -/
def Fresh (call : SendCall) (loop : SendLoop Sender) : Prop :=
  loop.pacer.packetQueue.stamps ≠ [] ∧ ∀ stamp ∈ loop.pacer.packetQueue.stamps,
    PacingController.Accounted call.recommendedProbeSize.isSome loop.pacer.settings stamp.1

open Classical in
/-- Two if padding may come next, one if it may come behind what counts, and zero otherwise. -/
noncomputable def phase (call : SendCall) (loop : SendLoop Sender) : Nat :=
  if loop.Open call then if loop.Fresh call then 1 else 2 else 0

/-- Every round lowers the rank: the small packet before a probe is sent once, the allowance is
used, padding is added to an empty queue, or the queue gets shorter. -/
noncomputable def rank (call : SendCall) (bound : Int) (loop : SendLoop Sender) :
    ℕ ×ₗ ℕ ×ₗ ℕ ×ₗ ℕ :=
  toLex (loop.firstPacketInProbe.toNat, toLex (loop.allowance call bound,
    toLex (loop.phase call, loop.pacer.packetQueue.stamps.length)))

section Cases

theorem allowance_probe {size : Int} (probe : call.recommendedProbeSize = some size) :
    loop.allowance call bound = (size - loop.dataSent).toNat ∧
      (loop.Open call ↔ loop.dataSent < size) := by
  unfold allowance Open
  rw [probe]
  exact ⟨rfl, .rfl⟩

theorem allowance_periodic (none : call.recommendedProbeSize = none)
    (mode : loop.pacer.mode = .kPeriodic) :
    loop.allowance call bound = loop.pacer.paddingBudget.bytesRemaining.toNat ∧
      (loop.Open call ↔ 0 < loop.pacer.paddingBudget.bytesRemaining) := by
  unfold allowance Open
  rw [none, mode]
  exact ⟨rfl, .rfl⟩

theorem allowance_dynamic (none : call.recommendedProbeSize = none)
    (mode : loop.pacer.mode = .kDynamic) :
    loop.allowance call bound = (bound - loop.previousProcessTime).toNat ∧
      (loop.Open call ↔ loop.pacer.paddingDebt = 0 ∧
        0 < dataAt loop.pacer.paddingRate loop.pacer.paddingTargetDuration) := by
  unfold allowance Open
  rw [none, mode]
  exact ⟨rfl, .rfl⟩

theorem allowance_congr {next : SendLoop Sender} (dataSent : next.dataSent = loop.dataSent)
    (mode : next.pacer.mode = loop.pacer.mode)
    (budget : loop.pacer.mode = .kPeriodic → next.pacer.paddingBudget = loop.pacer.paddingBudget)
    (previous : next.previousProcessTime = loop.previousProcessTime) :
    next.allowance call bound = loop.allowance call bound := by
  unfold allowance
  rw [dataSent, mode, previous]
  cases shape : loop.pacer.mode with
  | kPeriodic => rw [budget shape]
  | kDynamic => rfl

end Cases

section Rank

variable {next : SendLoop Sender}

theorem rank_lt_of_flag (before : loop.firstPacketInProbe = true)
    (after : next.firstPacketInProbe = false) : next.rank call bound < loop.rank call bound := by
  refine Prod.Lex.toLex_lt_toLex.mpr (.inl ?_)
  rw [before, after]
  exact Nat.zero_lt_one

section

variable (flag : next.firstPacketInProbe = loop.firstPacketInProbe)
include flag

theorem rank_lt_of_allowance (used : next.allowance call bound < loop.allowance call bound) :
    next.rank call bound < loop.rank call bound := by
  refine Prod.Lex.toLex_lt_toLex.mpr (.inr ⟨congrArg Bool.toNat flag, ?_⟩)
  exact Prod.Lex.toLex_lt_toLex.mpr (.inl used)

theorem rank_lt_of_phase (same : next.allowance call bound = loop.allowance call bound)
    (lower : next.phase call < loop.phase call) : next.rank call bound < loop.rank call bound := by
  refine Prod.Lex.toLex_lt_toLex.mpr (.inr ⟨congrArg Bool.toNat flag, ?_⟩)
  refine Prod.Lex.toLex_lt_toLex.mpr (.inr ⟨same, ?_⟩)
  exact Prod.Lex.toLex_lt_toLex.mpr (.inl lower)

theorem rank_lt_of_length (same : next.allowance call bound = loop.allowance call bound)
    (phase : next.phase call = loop.phase call)
    (shorter : next.pacer.packetQueue.stamps.length < loop.pacer.packetQueue.stamps.length) :
    next.rank call bound < loop.rank call bound := by
  refine Prod.Lex.toLex_lt_toLex.mpr (.inr ⟨congrArg Bool.toNat flag, ?_⟩)
  refine Prod.Lex.toLex_lt_toLex.mpr (.inr ⟨same, ?_⟩)
  exact Prod.Lex.toLex_lt_toLex.mpr (.inr ⟨phase, shorter⟩)

end

theorem phase_le (next : SendLoop Sender) : next.phase call ≤ 2 := by
  unfold phase
  split_ifs <;> decide

/-- A packet of a queue that counts uses the allowance or ends what is open. -/
theorem rank_lt_of_sent (flag : next.firstPacketInProbe = loop.firstPacketInProbe)
    (used : next.allowance call bound ≤ loop.allowance call bound)
    (closed : next.allowance call bound = loop.allowance call bound → next.Open call →
      loop.Open call ∧ ¬ loop.Fresh call)
    (shorter : next.pacer.packetQueue.stamps.length < loop.pacer.packetQueue.stamps.length) :
    next.rank call bound < loop.rank call bound := by
  rcases used.lt_or_eq with less | same
  · exact rank_lt_of_allowance flag less
  · have phases : next.phase call ≤ loop.phase call := by
      by_cases isOpen : next.Open call
      · obtain ⟨wasOpen, notFresh⟩ := closed same isOpen
        refine (phase_le next).trans ?_
        unfold phase
        rw [if_pos wasOpen, if_neg notFresh]
      · unfold phase
        rw [if_neg isOpen]
        exact Nat.zero_le _
    rcases phases.lt_or_eq with lower | equal
    · exact rank_lt_of_phase flag same lower
    · exact rank_lt_of_length flag same equal shorter

/-- In a probe neither budgets nor debts matter. -/
theorem rank_congr_of_probe {size : Int} (probe : call.recommendedProbeSize = some size)
    (flag : next.firstPacketInProbe = loop.firstPacketInProbe)
    (dataSent : next.dataSent = loop.dataSent)
    (settings : next.pacer.settings = loop.pacer.settings)
    (queue : next.pacer.packetQueue = loop.pacer.packetQueue) :
    next.rank call bound = loop.rank call bound := by
  unfold rank phase allowance Open Fresh
  rw [probe, flag, dataSent, settings, queue]

/-- Padding in an empty queue counts. -/
theorem rank_lt_of_padded (flag : next.firstPacketInProbe = loop.firstPacketInProbe)
    (same : next.allowance call bound = loop.allowance call bound) (isOpen : loop.Open call)
    (empty : loop.pacer.packetQueue.stamps = []) (fresh : next.Fresh call) :
    next.rank call bound < loop.rank call bound := by
  have before : loop.phase call = 2 := (if_pos isOpen).trans (if_neg fun old => old.1 empty)
  have after : next.phase call ≤ 1 := by
    unfold phase
    rw [if_pos fresh]
    split_ifs <;> decide
  exact rank_lt_of_phase flag same (before ▸ Nat.lt_succ_of_le after)

end Rank

/-- The invariant of the loop. -/
structure Holds (call : SendCall) (bound : Int) (loop : SendLoop Sender) : Prop where
  ready : loop.pacer.Ready call.now
  target : loop.targetSendTime ≤ bound
  previous : loop.previousProcessTime ≤ bound
  last : loop.pacer.lastProcessTime ≤ bound
  probe : loop.firstPacketInProbe = true → RatesSet loop.pacer.settings

/-- Without a probe, padding is tame. -/
def Tamed (io : PacketSender Sender) (call : SendCall) (loop : SendLoop Sender) : Prop :=
  call.recommendedProbeSize = none → io.Tame loop.pacer.settings

/-- The invariant is kept with the settings, and the rank gets lower if padding is tame. -/
structure Lowers (io : PacketSender Sender) (call : SendCall) (bound : Int)
    (loop next : SendLoop Sender) : Prop where
  holds : next.Holds call bound
  settings : next.pacer.settings = loop.pacer.settings
  lower : loop.Tamed io call → next.rank call bound < loop.rank call bound

section Steps

theorem enqueueSmallProbe_spec (holds : loop.Holds call bound) (atNow : call.now ≤ bound) :
    ∃ next, loop.enqueueSmallProbe io call = .ok next ∧ next.Holds call bound ∧
      next.pacer.settings = loop.pacer.settings ∧
      next.rank call bound ≤ loop.rank call bound := by
  unfold enqueueSmallProbe
  split_ifs with first
  · rw [Bool.and_eq_true] at first
    dsimp only
    split
    · refine ⟨_, rfl, ⟨holds.ready, holds.target, holds.previous, holds.last, nofun⟩, rfl, ?_⟩
      exact (rank_lt_of_flag first.2 rfl).le
    · rename_i packet rest _
      obtain ⟨pacer, enqueued, spec⟩ := enqueuePacketInternal_spec holds.ready
        (holds.probe first.2) packet kFirstPriority
      refine ⟨_, bind_eq_ok_iff.mpr ⟨pacer, enqueued, rfl⟩,
        ⟨spec.ready, holds.target, holds.previous, ?_, nofun⟩, spec.settings, ?_⟩
      · rcases spec.lastProcess with same | new
        · exact same.le.trans holds.last
        · exact new.le.trans atNow
      · exact (rank_lt_of_flag first.2 rfl).le
  · exact ⟨loop, rfl, holds, rfl, le_rfl⟩

theorem reduceDebts_spec (holds : loop.Holds call bound) :
    loop.reduceDebts.Holds call bound ∧
      loop.reduceDebts.pacer.settings = loop.pacer.settings ∧
      loop.reduceDebts.rank call bound ≤ loop.rank call bound := by
  unfold reduceDebts
  split_ifs with moves
  · obtain ⟨dynamic, later⟩ := moves
    have same := updateBudgetWithElapsedTime_spec loop.pacer
      (loop.targetSendTime - loop.previousProcessTime)
    refine ⟨?_, same.settings, ?_⟩
    · refine ⟨same.ready holds.ready, holds.target, holds.target, ?_, ?_⟩
      · exact same.lastProcess.le.trans holds.last
      · exact fun first => same.settings ▸ holds.probe first
    · cases size : call.recommendedProbeSize with
      | none =>
          refine le_of_lt (rank_lt_of_allowance rfl ?_)
          have mode : (loop.pacer.updateBudgetWithElapsedTime
              (loop.targetSendTime - loop.previousProcessTime)).mode = .kDynamic :=
            (congrArg PacerSettings.mode same.settings).trans dynamic
          rw [(allowance_dynamic size mode).1, (allowance_dynamic size dynamic).1]
          have := holds.target
          dsimp only
          omega
      | some size =>
          exact le_of_eq (rank_congr_of_probe size rfl rfl same.settings same.queue)
  · exact ⟨holds, rfl, le_rfl⟩

/-- Padding is wanted only for an empty queue, and only while it may be added. -/
theorem open_of_paddingToAdd
    (wanted : 0 < loop.pacer.paddingToAdd call.recommendedProbeSize loop.dataSent) :
    loop.pacer.packetQueue.empty = true ∧ loop.pacer.packetCounter ≠ 0 ∧ loop.Open call := by
  unfold paddingToAdd at wanted
  split at wanted
  · exact absurd wanted (lt_irrefl _)
  · rename_i never
    rw [Bool.or_eq_true, Bool.or_eq_true, not_or, not_or, Bool.not_eq_true', Bool.not_eq_false,
      beq_iff_eq] at never
    refine ⟨never.1.1, never.2, ?_⟩
    unfold Open
    cases size : call.recommendedProbeSize with
    | some size =>
        rw [size] at wanted
        dsimp only at wanted ⊢
        split_ifs at wanted with less
        · exact less
        · exact absurd wanted (lt_irrefl _)
    | none =>
        rw [size] at wanted
        cases mode : loop.pacer.mode with
        | kPeriodic =>
            rw [mode] at wanted
            exact (lt_max_iff.mp wanted).resolve_left (lt_irrefl _)
        | kDynamic =>
            rw [mode] at wanted
            dsimp only at wanted ⊢
            split_ifs at wanted with may
            · exact ⟨may.2, wanted⟩
            · exact absurd wanted (lt_irrefl _)

theorem addPadding_spec (lawful : io.Lawful) (holds : loop.Holds call bound)
    (atNow : call.now ≤ bound) :
    ∃ how, loop.addPadding io call = .ok how ∧
      how.Meets (loop.Lowers io call bound) (Holds call bound) := by
  unfold addPadding
  dsimp only
  split_ifs with wanted none
  · exact ⟨_, rfl, holds.ready, holds.target, holds.previous, holds.last, holds.probe⟩
  · obtain ⟨empty, counted, isOpen⟩ := open_of_paddingToAdd wanted
    have generated := lawful loop.sender
      (loop.pacer.paddingToAdd call.recommendedProbeSize loop.dataSent)
    obtain ⟨pacer, enqueued, filled⟩ := enqueueAll_spec holds.ready counted
      fun packet member => (generated packet member).1
    refine ⟨_, bind_eq_ok_iff.mpr ⟨pacer, enqueued, rfl⟩, ⟨filled.ready, holds.target,
      holds.previous, ?_, fun first => filled.settings ▸ holds.probe first⟩, filled.settings,
      fun tamed => ?_⟩
    · rcases filled.lastProcess with same | new
      · exact same.le.trans holds.last
      · exact new.le.trans atNow
    · have noStamps := (empty_iff holds.ready.queue).mp empty
      refine rank_lt_of_padded rfl ?_ isOpen noStamps ⟨?_, ?_⟩
      · exact allowance_congr rfl (congrArg PacerSettings.mode filled.settings) filled.budget rfl
      · intro empty'
        have size := filled.size
        rw [empty', noStamps, List.length_nil, Nat.zero_add] at size
        exact none (List.eq_nil_of_length_eq_zero size.symm)
      · dsimp only
        rw [filled.settings]
        refine filled.accounted _ (fun packet member => ⟨(generated packet member).2, ?_⟩) ?_
        · cases size : call.recommendedProbeSize with
          | none => exact .inr ((tamed size).accounted _ _ packet member)
          | some size => exact .inl rfl
        · rw [noStamps]
          exact fun _ => nofun
  · exact ⟨_, rfl, holds⟩

theorem accounted_of_fresh (fresh : loop.Fresh call) {packet : Packet}
    {queue : RoundRobinPacketQueue}
    (left : RoundRobinPacketQueue.Left loop.pacer.packetQueue packet queue) :
    PacingController.Accounted call.recommendedProbeSize.isSome loop.pacer.settings packet := by
  obtain ⟨_, _, popped⟩ := left
  obtain ⟨entered, perm⟩ := popped.stamps
  exact fresh.2 _ (perm.symm.subset (.head _))

theorem sendPacket_spec (holds : loop.Holds call bound) {packet : Packet}
    {queue : RoundRobinPacketQueue}
    (left : RoundRobinPacketQueue.Left loop.pacer.packetQueue packet queue)
    (counted : loop.pacer.packetCounter ≠ 0) :
    loop.Lowers io call bound (loop.sendPacket io call packet queue) := by
  have ready := holds.ready.popped left counted
  obtain ⟨nonneg, positive⟩ := accountedSize_nonneg holds.ready packet
  obtain ⟨ready', settings, sameQueue, counter, time⟩ := onPacketSent_spec ready packet.packetType
    nonneg loop.targetSendTime
  have padding := onPacketSent_padding { loop.pacer with packetQueue := queue } packet.packetType
    (loop.pacer.accountedSize packet) loop.targetSendTime
  have mode := congrArg PacerSettings.mode settings
  refine ⟨?_, settings, fun tamed => ?_⟩
  · refine ⟨ready', holds.target, holds.previous, ?_, fun first => ?_⟩
    · exact time.le.trans holds.target
    · exact settings ▸ holds.probe first
  · have shorter : queue.stamps.length < loop.pacer.packetQueue.stamps.length := by
      obtain ⟨_, _, popped⟩ := left
      obtain ⟨entered, perm⟩ := popped.stamps
      have longer : loop.pacer.packetQueue.stamps.length = queue.stamps.length + 1 := perm.length_eq
      omega
    have shorter' : (loop.sendPacket io call packet queue).pacer.packetQueue.stamps.length <
        loop.pacer.packetQueue.stamps.length := sameQueue ▸ shorter
    have fresh : loop.Fresh call → 0 < loop.pacer.accountedSize packet ∧
        (call.recommendedProbeSize = none →
          packet.packetType ≠ some .kAudio ∨ loop.pacer.accountForAudio = true) := by
      intro fresh
      obtain ⟨sized, accounted⟩ := accounted_of_fresh fresh left
      refine ⟨positive sized, fun none => accounted.resolve_left ?_⟩
      rw [none]
      exact Bool.false_ne_true
    cases size : call.recommendedProbeSize with
    | some size =>
        obtain ⟨before, wasOpen⟩ := @allowance_probe _ call bound loop _ size
        obtain ⟨after, isOpen⟩ :=
          @allowance_probe _ call bound (loop.sendPacket io call packet queue) _ size
        change _ = (_ - (loop.dataSent + loop.pacer.accountedSize packet)).toNat at after
        change _ ↔ loop.dataSent + loop.pacer.accountedSize packet < _ at isOpen
        refine rank_lt_of_sent rfl ?_ ?_ shorter'
        · rw [before, after]
          omega
        · rw [before, after, isOpen, wasOpen]
          refine fun same less => ⟨by omega, fun isFresh => ?_⟩
          have := (fresh isFresh).1
          omega
    | none =>
        cases loopMode : loop.pacer.mode with
        | kPeriodic =>
            obtain ⟨before, wasOpen⟩ := @allowance_periodic _ call bound loop size loopMode
            obtain ⟨after, isOpen⟩ := @allowance_periodic _ call bound
              (loop.sendPacket io call packet queue) size (mode.trans loopMode)
            have spent : ((loop.sendPacket io call packet queue).pacer.paddingBudget.bytesRemaining ≤
                max (loop.pacer.paddingBudget.bytesRemaining - loop.pacer.accountedSize packet)
                  (-loop.pacer.paddingBudget.maxBytesInBudget)) ∨
                ¬ loop.Fresh call ∧
                  (loop.sendPacket io call packet queue).pacer.paddingBudget =
                    loop.pacer.paddingBudget := by
              split_ifs at padding with accounted
              · exact .inl (congrArg IntervalBudget.bytesRemaining (padding.1 loopMode)).le
              · exact .inr ⟨fun isFresh => accounted ((fresh isFresh).2 size), padding.1⟩
            have cap := holds.ready.budget
            have used : (loop.sendPacket io call packet queue).allowance call bound ≤
                loop.allowance call bound := by
              rw [before, after]
              rcases spent with less | ⟨-, same⟩
              · omega
              · rw [same]
            refine rank_lt_of_sent rfl used ?_ shorter'
            rw [before, after, isOpen, wasOpen]
            rcases spent with less | ⟨notFresh, same⟩
            · refine fun equal more => ⟨by omega, fun isFresh => ?_⟩
              have := (fresh isFresh).1
              omega
            · exact fun _ more => ⟨same ▸ more, notFresh⟩
        | kDynamic =>
            obtain ⟨before, wasOpen⟩ := @allowance_dynamic _ call bound loop size loopMode
            obtain ⟨after, isOpen⟩ := @allowance_dynamic _ call bound
              (loop.sendPacket io call packet queue) size (mode.trans loopMode)
            have tame := tamed size
            refine rank_lt_of_sent rfl (after.trans before.symm).le ?_ shorter'
            have rate : (loop.sendPacket io call packet queue).pacer.paddingRate =
                loop.pacer.paddingRate := congrArg PacerSettings.paddingRate settings
            have duration : (loop.sendPacket io call packet queue).pacer.paddingTargetDuration =
                loop.pacer.paddingTargetDuration :=
              congrArg PacerSettings.paddingTargetDuration settings
            rw [isOpen, wasOpen, rate, duration]
            rintro - ⟨noDebt, wanted⟩
            have cap := tame.capped loopMode wanted
            have debt := holds.ready.debt
            split_ifs at padding with accounted
            · have owed : (loop.sendPacket io call packet queue).pacer.paddingDebt = _ :=
                padding.2 loopMode
              rw [owed] at noDebt
              have cap' : 0 < dataAt loop.pacer.paddingRate kMaxDebtInTime := cap
              dsimp only at noDebt
              refine ⟨⟨by omega, wanted⟩, fun isFresh => ?_⟩
              have := (fresh isFresh).1
              omega
            · have same : (loop.sendPacket io call packet queue).pacer.paddingDebt = _ := padding.2
              exact ⟨⟨same ▸ noDebt, wanted⟩, fun isFresh => accounted ((fresh isFresh).2 size)⟩

theorem nextTarget_ok (holds : loop.Holds call bound) (atNow : call.now ≤ bound) :
    ∃ time, loop.nextTarget call = .ok time ∧ time ≤ bound := by
  unfold nextTarget
  split
  · exact ⟨_, rfl, holds.target⟩
  · obtain ⟨time, found⟩ := nextSendTime_ok holds.ready
    rw [found]
    cases time with
    | none => exact ⟨_, rfl, atNow⟩
    | some time => exact ⟨_, rfl, (min_le_left ..).trans atNow⟩

theorem afterPacket_spec (holds : loop.Holds call bound) (atNow : call.now ≤ bound) :
    ∃ how, loop.afterPacket call = .ok how ∧
      how.Meets (fun next => next.Holds call bound ∧ next.pacer.settings = loop.pacer.settings ∧
        next.rank call bound = loop.rank call bound) (Holds call bound) := by
  unfold afterPacket
  split_ifs
  · exact ⟨_, rfl, holds⟩
  · obtain ⟨time, found, early⟩ := nextTarget_ok holds atNow
    exact ⟨_, bind_eq_ok_iff.mpr ⟨time, found, rfl⟩,
      ⟨holds.ready, early, holds.previous, holds.last, holds.probe⟩, rfl, rfl⟩

theorem Lowers.of_before {before next : SendLoop Sender} (lowers : loop.Lowers io call bound next)
    (settings : loop.pacer.settings = before.pacer.settings)
    (lower : loop.rank call bound ≤ before.rank call bound) : before.Lowers io call bound next where
  holds := lowers.holds
  settings := lowers.settings.trans settings
  lower := fun tamed => (lowers.lower fun none => settings ▸ tamed none).trans_le lower

/-- Every round keeps the invariant, and leaves the loop or lowers the rank. -/
theorem round_spec (lawful : io.Lawful) (atNow : call.now ≤ bound) (holds : loop.Holds call bound) :
    ∃ how, loop.round io call = .ok how ∧
      how.Meets (loop.Lowers io call bound) (Holds call bound) := by
  unfold round
  split_ifs
  · exact ⟨_, rfl, holds⟩
  · obtain ⟨small, enqueued, holds', settings', lower'⟩ := @enqueueSmallProbe_spec _ io _ _ _ holds atNow
    obtain ⟨holds'', settings'', lower''⟩ := reduceDebts_spec holds'
    obtain ⟨pending, found, isNext⟩ := getPendingPacket_spec holds''.ready call.pacingInfo
      small.reduceDebts.targetSendTime
    have asBefore : ∀ how : RoundEnd (SendLoop Sender) (SendLoop Sender),
        how.Meets (small.reduceDebts.Lowers io call bound) (Holds call bound) →
          how.Meets (loop.Lowers io call bound) (Holds call bound) := by
      intro how meets
      cases how with
      | exit last => exact meets
      | next next => exact meets.of_before (settings''.trans settings') (lower''.trans lower')
    cases pending with
    | none =>
        obtain ⟨how, ended, meets⟩ := addPadding_spec lawful holds'' atNow
        exact ⟨how, bind_eq_ok_iff.mpr ⟨small, enqueued,
          bind_eq_ok_iff.mpr ⟨none, found, ended⟩⟩, asBefore how meets⟩
    | some pending =>
        obtain ⟨popped, counted⟩ := isNext pending rfl
        have sent := @sendPacket_spec _ io _ _ _ holds'' _ _ popped counted
        obtain ⟨how, ended, meets⟩ := afterPacket_spec sent.holds atNow
        refine ⟨how, bind_eq_ok_iff.mpr ⟨small, enqueued,
          bind_eq_ok_iff.mpr ⟨some pending, found, ended⟩⟩, asBefore how ?_⟩
        cases how with
        | exit last => exact meets
        | next next =>
            obtain ⟨nextHolds, settings, same⟩ := meets
            exact ⟨nextHolds, settings.trans sent.settings, fun tamed => same ▸ sent.lower tamed⟩

/-- If padding is tame then the loop ends. -/
theorem run_spec (lawful : io.Lawful) (atNow : call.now ≤ bound) (holds : loop.Holds call bound)
    (tamed : loop.Tamed io call) :
    ∃ rounds last, run (SendLoop.round io call) rounds loop = .ok (some last) ∧
      last.Holds call bound := by
  have step : ∀ loop : SendLoop Sender, loop.Holds call bound ∧ loop.Tamed io call →
      ∃ how, loop.round io call = .ok how ∧
        how.Meets (fun next => (next.Holds call bound ∧ next.Tamed io call) ∧
          next.rank call bound < loop.rank call bound) (Holds call bound) := by
    rintro loop ⟨holds, tamed⟩
    obtain ⟨how, ended, meets⟩ := round_spec lawful atNow holds
    refine ⟨how, ended, ?_⟩
    cases how with
    | exit last => exact meets
    | next next =>
        exact ⟨⟨meets.holds, fun none => meets.settings ▸ tamed none⟩, meets.lower tamed⟩
  exact exists_run (rank call bound) step ⟨holds, tamed⟩

/-- If the loop ends, it keeps the invariant, tame or not. -/
theorem run_keeps (lawful : io.Lawful) (atNow : call.now ≤ bound) (holds : loop.Holds call bound)
    {rounds : Nat} {last : SendLoop Sender}
    (ran : run (SendLoop.round io call) rounds loop = .ok (some last)) : last.Holds call bound := by
  refine holds_of_run (fun loop how holds ended => ?_) holds ran
  obtain ⟨how', ended', meets⟩ := @round_spec _ io _ _ _ lawful atNow holds
  obtain rfl := Except.ok.inj (ended.symm.trans ended')
  cases how with
  | exit last => exact meets
  | next next => exact meets.holds

end Steps

end SendLoop

end MpWebRtc.Pacing
