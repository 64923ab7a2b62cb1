import MpWebRtc.Math.Run
import MpWebRtc.Sender.MergedRates
import MpWebRtc.Sender.RatioSplit

/-!
# The ratio of the paths

With both paths in use and their target rates known, `PostUpdates` decides which path is best and
stores the ratio of the two rates, by which the window scheduler divides frames. The completion
time of a path is computed from the inverse of its rate, and the ratio is divided by the rate of
the path that is not the best one, so a rate of zero is a division by zero. Only when no delay is
known for either path are the inverses left out.
-/

namespace MpWebRtc

open Math.Run

/-- A quotient, unless it is by zero. -/
def divide (dividend divisor : ℚ) : Option ℚ :=
  if divisor = 0 then none else some (dividend / divisor)

theorem divide_eq (dividend : ℚ) {divisor : ℚ} (nonzero : divisor ≠ 0) :
    divide dividend divisor = some (dividend / divisor) := if_neg nonzero

theorem divide_zero (dividend : ℚ) : divide dividend 0 = none := if_pos rfl

/-- The completion times and the delays do not matter when one rate is far above the other. -/
def ratesFarApart (rtt1 rtt2 : Int) (loss1 loss2 rate1 rate2 : ℚ) : Bool :=
  decide (|rate1 - rate2| ≥ 3 / 4 * max rate1 rate2 ∧ |rtt1 - rtt2| < 25) ||
    decide (|rate1 - rate2| ≥ 3 / 4 * max rate1 rate2 ∧ loss1 < 1 / 10 ∧ loss2 < 1 / 10 ∧
      |rtt1 - rtt2| < 25) ||
    decide (|rate1 - rate2| ≥ 3 / 4 * max rate1 rate2 ∧ loss1 ≤ 0 ∧ loss2 ≤ 0 ∧ |rtt1 - rtt2| < 50)

namespace Collector

variable (c : Collector)

/-- What `MpFindBestPath` records. -/
def recordPaths (rtt1 rtt2 : Int) (loss1 loss2 rate1 rate2 : ℚ) : Collector :=
  { c with
    rtt1 := rtt1
    rtt2 := rtt2
    loss1 := loss1
    loss2 := loss2
    sendingrate1 := rate1
    sendingrate2 := rate2 }

/-- A half signal is cleared when the delay of its path has fallen to a quarter. -/
def clearRecovered (rtt1 rtt2 : Int) : Collector :=
  if rtt1 > 0 ∧ c.alpha < 1 ∧ c.halfsignaledPathid = 1 ∧ rtt1 ≤ c.halfsignaledRtt.tdiv 4 then
    c.mpClearHalfSignal
  else if rtt2 > 0 ∧ c.alpha < 1 ∧ c.halfsignaledPathid = 2 ∧
      rtt2 ≤ c.halfsignaledRtt.tdiv 4 then c.mpClearHalfSignal
  else c

/-- `MpFindBestPath`: the best path, unless it divides by zero. -/
def mpFindBestPath (rtt1 rtt2 : Int) (loss1 loss2 rate1 rate2 : ℚ) : Option (Int × Collector) :=
  let c := c.recordPaths rtt1 rtt2 loss1 loss2 rate1 rate2
  if rtt1 = 0 ∧ rtt2 = 0 then some (1, c)
  else do
    let rate1 := rate1 / 1000
    let rate2 := rate2 / 1000
    let inverse1 ← divide 1 rate1
    let inverse2 ← divide 1 rate2
    let p1time := inverse1 + rtt1.tdiv 2
    let p2time := inverse2 + rtt2.tdiv 2
    let bestpath := if p1time ≤ p2time then 1 else 2
    let bestpath :=
      if ratesFarApart rtt1 rtt2 loss1 loss2 rate1 rate2 then if rate1 > rate2 then 1 else 2
      else bestpath
    some (bestpath, c.clearRecovered rtt1 rtt2)

/-- `MpFindRatio`, unless it divides by zero. -/
def mpFindRatio (rtt1 rtt2 : Int) (rate1 rate2 : ℚ) (pathid : Int) : Option Collector :=
  (if pathid = 1 then divide rate1 rate2 else divide rate2 rate1).map fun mpratio =>
    { c with ratio := if rtt1 = 0 ∧ rtt2 = 0 then 0 else mpratio }

end Collector

/-- The target rates that `PostUpdates` compares: a missing one is the one kept of its path. -/
def MergedRates.comparedRates (state : MergedRates) (update update2 : NetworkControlUpdate) :
    Option (TargetTransferRate × TargetTransferRate) :=
  match update.targetRate, update2.targetRate with
  | some own, some other => some (own, other)
  | none, some other => state.pp.targetRate.map fun own => (own, other)
  | some own, none => state.sp.targetRate.map fun other => (own, other)
  | none, none => none

/-- The best path and the ratio, as two target rates give them. -/
def Collector.compare (c : Collector) (own other : TargetTransferRate) : Option Collector := do
  let found ← c.mpFindBestPath own.roundTripTime other.roundTripTime own.lossRateRatio
    other.lossRateRatio own.targetRate other.targetRate
  let c := { found.2 with bestPathid := found.1 }
  c.mpFindRatio own.roundTripTime other.roundTripTime own.targetRate other.targetRate c.bestPathid

/-- What is kept between calls: the values of the paths, and the ratio in the collector, which
nothing else writes. -/
structure RatioState where
  rates : MergedRates := {}
  ratio : ℚ := 0

namespace RatioState

/-- The collector at a call. -/
def seen (state : RatioState) (c : Collector) : Collector := { c with ratio := state.ratio }

/-- The target-rate branch of `PostUpdates`, unless it divides by zero. -/
def postUpdates (state : RatioState) (posted : PostedUpdates) : Option RatioState :=
  let c := state.seen posted.collector
  let after :=
    if posted.collector.rateMode = .bothPaths then
      match state.rates.comparedRates posted.update posted.update2 with
      | some (own, other) => c.compare own other
      | none => some c
    else some c
  after.map fun c => ⟨state.rates.postUpdates posted, c.ratio⟩

/-- The state after a sequence of calls, unless one of them divides by zero. -/
def afterRun (run : List PostedUpdates) : Option RatioState := run.foldlM postUpdates {}

end RatioState

/-- The divisions for two target rates are not by zero. -/
structure Divisible (own other : TargetTransferRate) : Prop where
  second : other.targetRate ≠ 0
  first : own.roundTripTime = 0 ∧ other.roundTripTime = 0 ∨ own.targetRate ≠ 0

/-- A frame of any length is divided into parts of it. -/
structure RatioUsable (state : RatioState) : Prop where
  nonneg : 0 ≤ state.ratio
  shares : ∀ (c : Collector) (n : Nat), 1 ≤ n →
    0 ≤ (ratioShares (state.seen c) n).p1 ∧ (ratioShares (state.seen c) n).p1 ≤ n ∧
      0 ≤ (ratioShares (state.seen c) n).p2 ∧ (ratioShares (state.seen c) n).p2 ≤ n

section Dividing

variable {c next : Collector} {own other : TargetTransferRate} {rtt1 rtt2 pathid : Int}
  {loss1 loss2 rate1 rate2 : ℚ}

/-- Without delays nothing is divided. -/
theorem mpFindBestPath_of_no_delay (none : rtt1 = 0 ∧ rtt2 = 0) :
    c.mpFindBestPath rtt1 rtt2 loss1 loss2 rate1 rate2 =
      some (1, c.recordPaths rtt1 rtt2 loss1 loss2 rate1 rate2) := if_pos none

theorem mpFindBestPath_isSome (delay : ¬(rtt1 = 0 ∧ rtt2 = 0)) :
    (c.mpFindBestPath rtt1 rtt2 loss1 loss2 rate1 rate2).isSome ↔ rate1 ≠ 0 ∧ rate2 ≠ 0 := by
  have scaled (rate : ℚ) : rate / 1000 = 0 ↔ rate = 0 := by simp
  unfold Collector.mpFindBestPath
  dsimp only
  rw [if_neg delay]
  by_cases first : rate1 = 0
  · rw [(scaled rate1).mpr first, divide_zero]
    simp [first]
  · rw [divide_eq 1 (mt (scaled rate1).mp first)]
    by_cases second : rate2 = 0
    · rw [(scaled rate2).mpr second, divide_zero]
      simp [second]
    · rw [divide_eq 1 (mt (scaled rate2).mp second)]
      simp [first, second]

/-- The ratio is that of the best path to the other one. -/
theorem mpFindRatio_isSome :
    (c.mpFindRatio rtt1 rtt2 rate1 rate2 pathid).isSome ↔
      (if pathid = 1 then rate2 else rate1) ≠ 0 := by
  unfold Collector.mpFindRatio
  by_cases first : pathid = 1
  · rw [if_pos first, if_pos first]
    by_cases zero : rate2 = 0
    · rw [zero, divide_zero]
      simp
    · rw [divide_eq rate1 zero]
      simp [zero]
  · rw [if_neg first, if_neg first]
    by_cases zero : rate1 = 0
    · rw [zero, divide_zero]
      simp
    · rw [divide_eq rate2 zero]
      simp [zero]

theorem mpFindRatio_nonneg (first : 0 ≤ rate1) (second : 0 ≤ rate2)
    (found : c.mpFindRatio rtt1 rtt2 rate1 rate2 pathid = some next) : 0 ≤ next.ratio := by
  have quotient {dividend divisor result : ℚ} (above : 0 ≤ dividend) (below : 0 ≤ divisor)
      (divided : divide dividend divisor = some result) : 0 ≤ result := by
    unfold divide at divided
    split at divided
    · cases divided
    · rw [← Option.some.inj divided]
      exact div_nonneg above below
  unfold Collector.mpFindRatio at found
  obtain ⟨mpratio, divided, rfl⟩ := Option.map_eq_some_iff.mp found
  have nonneg : 0 ≤ mpratio := by
    split at divided
    · exact quotient first second divided
    · exact quotient second first divided
  dsimp only
  split
  · exact le_refl 0
  · exact nonneg

/-- Two rates can be compared exactly if the divisions are not by zero. -/
theorem compare_isSome : (c.compare own other).isSome ↔ Divisible own other := by
  have present : (other.targetRate : ℚ) ≠ 0 ↔ other.targetRate ≠ 0 := by simp
  have present' : (own.targetRate : ℚ) ≠ 0 ↔ own.targetRate ≠ 0 := by simp
  unfold Collector.compare
  by_cases delay : own.roundTripTime = 0 ∧ other.roundTripTime = 0
  · rw [mpFindBestPath_of_no_delay delay]
    simp only [Option.bind_eq_bind, Option.bind_some]
    rw [mpFindRatio_isSome, if_pos rfl, present]
    exact ⟨fun second => ⟨second, .inl delay⟩, fun divisible => divisible.second⟩
  · have best := @mpFindBestPath_isSome c _ _ own.lossRateRatio other.lossRateRatio
      own.targetRate other.targetRate delay
    rw [present, present'] at best
    cases found : c.mpFindBestPath own.roundTripTime other.roundTripTime own.lossRateRatio
        other.lossRateRatio own.targetRate other.targetRate with
    | none =>
        rw [found] at best
        refine ⟨nofun, fun divisible => ?_⟩
        exact best.mpr ⟨divisible.first.resolve_left delay, divisible.second⟩
    | some result =>
        rw [found] at best
        obtain ⟨first, second⟩ := best.mp rfl
        simp only [Option.bind_eq_bind, Option.bind_some]
        rw [mpFindRatio_isSome]
        refine ⟨fun _ => ⟨second, .inr first⟩, fun _ => ?_⟩
        split
        · exact present.mpr second
        · exact present'.mpr first

theorem compare_nonneg (found : c.compare own other = some next) : 0 ≤ next.ratio := by
  obtain ⟨_, -, ratio⟩ := Option.bind_eq_some_iff.mp found
  exact mpFindRatio_nonneg (Nat.cast_nonneg _) (Nat.cast_nonneg _) ratio

end Dividing

/-- A frame is divided by any ratio that is not negative. -/
theorem RatioUsable.of_nonneg {state : RatioState} (nonneg : 0 ≤ state.ratio) :
    RatioUsable state := by
  refine ⟨nonneg, fun c n _ => ?_⟩
  have stored : 0 ≤ (state.seen c).ratio := nonneg
  obtain ⟨positive, ordered, total⟩ := ratioShares_divides (n := n) stored
  omega

namespace RatioState

variable {state next : RatioState} {posted : PostedUpdates} {run : List PostedUpdates}

/-- The divisions of a call, after earlier ones, are not by zero. -/
def DividesAfter (earlier : List PostedUpdates) (posted : PostedUpdates) : Prop :=
  posted.collector.rateMode = .bothPaths → ∀ own other,
    (MergedRates.afterRun earlier).comparedRates posted.update posted.update2 =
      some (own, other) → Divisible own other

theorem postUpdates_rates (after : state.postUpdates posted = some next) :
    next.rates = state.rates.postUpdates posted := by
  obtain ⟨_, -, rfl⟩ := Option.map_eq_some_iff.mp after
  rfl

theorem postUpdates_nonneg (nonneg : 0 ≤ state.ratio)
    (after : state.postUpdates posted = some next) : 0 ≤ next.ratio := by
  obtain ⟨c, written, rfl⟩ := Option.map_eq_some_iff.mp after
  dsimp only
  split at written
  · split at written
    · exact compare_nonneg written
    · rw [← Option.some.inj written]
      exact nonneg
  · rw [← Option.some.inj written]
    exact nonneg

theorem postUpdates_isSome (known : state.rates = MergedRates.afterRun run) :
    (state.postUpdates posted).isSome ↔ DividesAfter run posted := by
  unfold RatioState.postUpdates DividesAfter
  rw [Option.isSome_map, known]
  by_cases mode : posted.collector.rateMode = .bothPaths
  · rw [if_pos mode]
    cases (MergedRates.afterRun run).comparedRates posted.update posted.update2 with
    | none => exact ⟨fun _ _ _ _ => nofun, fun _ => rfl⟩
    | some pair =>
        dsimp only
        rw [compare_isSome]
        refine ⟨fun divisible _ own other compared => ?_, fun all => all mode _ _ rfl⟩
        obtain rfl := Option.some.inj compared
        exact divisible
  · rw [if_neg mode]
    exact ⟨fun _ both => absurd both mode, fun _ => rfl⟩

theorem afterRun_append (run : List PostedUpdates) (posted : PostedUpdates) :
    afterRun (run ++ [posted]) = (afterRun run).bind (postUpdates · posted) := by
  unfold afterRun
  rw [List.foldlM_append]
  exact congrArg _ (funext fun state => bind_pure _)

/-- What a run without a division by zero keeps. -/
theorem afterRun_eq_some (reached : afterRun run = some state) :
    state.rates = MergedRates.afterRun run ∧ 0 ≤ state.ratio := by
  induction run using List.reverseRecOn generalizing state with
  | nil =>
      obtain rfl := Option.some.inj reached
      exact ⟨rfl, le_refl 0⟩
  | append_singleton run posted ih =>
      rw [afterRun_append] at reached
      obtain ⟨before, known, last⟩ := Option.bind_eq_some_iff.mp reached
      obtain ⟨rates, nonneg⟩ := ih known
      refine ⟨?_, postUpdates_nonneg nonneg last⟩
      rw [postUpdates_rates last, rates, MergedRates.afterRun_append]

theorem afterRun_isSome (run : List PostedUpdates) : (afterRun run).isSome ↔
    ∀ earlier posted later, run = earlier ++ posted :: later → DividesAfter earlier posted := by
  induction run using List.reverseRecOn with
  | nil =>
      refine ⟨fun _ earlier posted later split => ?_, fun _ => rfl⟩
      exact absurd split.symm (List.append_ne_nil_of_right_ne_nil _ (List.cons_ne_nil posted later))
  | append_singleton run posted ih =>
      rw [forall_split_append_singleton_iff, ← ih, afterRun_append]
      cases known : afterRun run with
      | none => simp
      | some state =>
          rw [Option.bind_some, postUpdates_isSome (afterRun_eq_some known).1]
          simp

end RatioState

variable (run : List PostedUpdates)

/-- After every call of the run there is a ratio, and frames can be divided by it. -/
def RatioDefined : Prop :=
  ∀ earlier later, run = earlier ++ later →
    ∃ state, RatioState.afterRun earlier = some state ∧ RatioUsable state

/-- **Ratio.** The ratio is well defined along a run exactly if each comparison of two target rates
finds a rate other than zero on the second path, and also on the first one unless there is no
delay known. -/
theorem ratio_defined_iff :
    RatioDefined run ↔
      ∀ earlier posted later, run = earlier ++ posted :: later →
        posted.collector.rateMode = .bothPaths → ∀ own other,
          (MergedRates.afterRun earlier).comparedRates posted.update posted.update2 =
            some (own, other) → Divisible own other := by
  change _ ↔ ∀ earlier posted later, _ → RatioState.DividesAfter earlier posted
  constructor
  · intro defined
    obtain ⟨state, reached, -⟩ := defined run [] (List.append_nil run).symm
    rw [← RatioState.afterRun_isSome, reached]
    rfl
  · rintro divides earlier later rfl
    have reached : (RatioState.afterRun earlier).isSome := by
      rw [RatioState.afterRun_isSome]
      rintro before posted after rfl
      exact divides before posted (after ++ later) (by rw [List.append_assoc, List.cons_append])
    obtain ⟨state, known⟩ := Option.isSome_iff_exists.mp reached
    exact ⟨state, known, .of_nonneg (RatioState.afterRun_eq_some known).2⟩

/-- Both controllers report for the first time, the second one a rate of zero. -/
def silentSecondPath : PostedUpdates where
  collector := bothOpen
  update := { targetRate := some { targetRate := 300000, roundTripTime := 20 } }
  update2 := { targetRate := some { targetRate := 0, roundTripTime := 20 } }

/-- The inverse of zero is computed. -/
theorem zero_rate_divides : RatioState.afterRun [silentSecondPath] = none ∧
    ¬RatioDefined [silentSecondPath] := by
  have failed : (RatioState.afterRun [silentSecondPath]).isNone := by decide +kernel
  rw [Option.isNone_iff_eq_none] at failed
  refine ⟨failed, fun defined => ?_⟩
  obtain ⟨state, reached, -⟩ := defined _ [] (List.append_nil _).symm
  rw [failed] at reached
  cases reached

end MpWebRtc
