import Mathlib.Data.List.Induction
import Mathlib.Tactic.Linarith
import MpWebRtc.Collector

/-!
# Merging the rates of the two paths

Each path has a congestion controller of its own, but there is one pacer and one encoder.
`RtpTransportControllerSend::PostUpdates` gives them the sum of what the two controllers
asked for last, keeping the last values of each path. While only one path is in use, the
update of the other path is neither used nor kept, and the pacer and the encoder get the
rates of the one path.
-/

namespace MpWebRtc

/-- `PacerConfig`: windows in bytes, time in microseconds. -/
structure PacerConfig where
  dataWindow : Nat
  timeWindow : Nat
  padWindow : Nat := 0

/-- `data_rate`, in bits per second. -/
def PacerConfig.dataRate (config : PacerConfig) : Nat :=
  config.dataWindow * 8000000 / config.timeWindow

/-- `pad_rate`, in bits per second. -/
def PacerConfig.padRate (config : PacerConfig) : Nat :=
  config.padWindow * 8000000 / config.timeWindow

/-- `TargetTransferRate`, with the network estimate it is based on. -/
structure TargetTransferRate where
  targetRate : Nat
  stableTargetRate : Nat := 0
  bandwidth : Nat := 0
  cwndReduceRatio : ℚ := 0
  lossRateRatio : ℚ := 0
  roundTripTime : Int := 0
  bwePeriod : Int := 0

/-- `NetworkControlUpdate`, with the rate and id of each probe. -/
structure NetworkControlUpdate where
  congestionWindow : Option Nat := none
  pacerConfig : Option PacerConfig := none
  probeClusterConfigs : List (Nat × Int) := []
  targetRate : Option TargetTransferRate := none

/-- Which updates `PostUpdates` uses. -/
inductive RateMode
  | primaryOnly
  | secondaryOnly
  | bothPaths
  deriving DecidableEq

/-- The conditions of the three branches of `PostUpdates`. -/
def Collector.rateMode (collector : Collector) : RateMode :=
  if collector.schedulerMentions "red" || !collector.mpIsSecondPathOpen ||
      collector.fullSignaledOn 2 && collector.mpIsSecondPathOpen then .primaryOnly
  else if collector.fullSignaledOn 1 && collector.mpIsSecondPathOpen then .secondaryOnly
  else .bothPaths

/-- A call of `PostUpdates`: the updates of the two controllers, and the collector at that
time. -/
structure PostedUpdates where
  collector : Collector
  update : NetworkControlUpdate := {}
  update2 : NetworkControlUpdate := {}

/-- The values kept of one path: `pp_` or `sp_`. -/
structure PathRates where
  congestionWindow : Option Nat := none
  pacerConfig : Option PacerConfig := none
  targetRate : Option TargetTransferRate := none

/-- What `PostUpdates` keeps, and what it last gave to the pacer and the control handler:
`reportedRate` is the argument of `SetTargetRate`. An empty optional that is read leaves the window
without value. -/
structure MergedRates where
  pp : PathRates := {}
  sp : PathRates := {}
  congestionWindow : Option Nat := none
  pacingRates : Option (Nat × Nat) := none
  probes : List (Nat × Int) := []
  reportedRate : Option TargetTransferRate := none

/-- The rates of a single configuration. -/
def PacerConfig.rates (config : PacerConfig) : Nat × Nat := (config.dataRate, config.padRate)

/-- The rates of two configurations together. -/
def PacerConfig.sum (own other : PacerConfig) : Nat × Nat :=
  (own.dataRate + other.dataRate, own.padRate + other.padRate)

/-- Two target rates together: rates add up, of delay and loss the smaller counts. -/
def TargetTransferRate.sum (own other : TargetTransferRate) : TargetTransferRate where
  targetRate := own.targetRate + other.targetRate
  stableTargetRate := own.stableTargetRate + other.stableTargetRate
  bandwidth := own.bandwidth + other.bandwidth
  cwndReduceRatio := own.cwndReduceRatio + other.cwndReduceRatio
  lossRateRatio := min own.lossRateRatio other.lossRateRatio
  roundTripTime := min own.roundTripTime other.roundTripTime
  bwePeriod := min own.bwePeriod other.bwePeriod

/-- The branches over which of two updates is there: a missing one is replaced by the value
kept of its path and, if there is none, by the other update. -/
def merge {Value Given : Type} (sum : Value → Value → Given) (pp sp update update2 : Option Value)
    (given : Option Given) : Option Given :=
  match update, update2 with
  | some own, some other => some (sum own other)
  | none, some other => some (sum other (pp.getD other))
  | some own, none => some (sum own (sp.getD own))
  | none, none => given

namespace MergedRates

/-- Keep the values of an update. -/
def keep (kept : PathRates) (update : NetworkControlUpdate) : PathRates where
  congestionWindow := update.congestionWindow.or kept.congestionWindow
  pacerConfig := update.pacerConfig.or kept.pacerConfig
  targetRate := update.targetRate.or kept.targetRate

/-- Give the values of a single path to the pacer and the control handler. -/
def giveSingle (state : MergedRates) (update : NetworkControlUpdate) : MergedRates :=
  { state with
    congestionWindow := update.congestionWindow.or state.congestionWindow
    pacingRates := (update.pacerConfig.map PacerConfig.rates).or state.pacingRates
    probes := state.probes ++ update.probeClusterConfigs
    reportedRate := update.targetRate.or state.reportedRate }

/-- The window given in two-path mode; a missing one is read from what is kept. -/
def mergeWindow (state : MergedRates) (update update2 : NetworkControlUpdate) : Option Nat :=
  match update.congestionWindow, update2.congestionWindow with
  | some own, some other => some (own + other)
  | none, some other => state.pp.congestionWindow.map fun own => own + other
  | some own, none => state.sp.congestionWindow.map fun other => own + other
  | none, none => state.congestionWindow

/-- `PostUpdates`. Probes of the second path are not used in two-path mode, those of the first
are sent at twice the rate. -/
def postUpdates (state : MergedRates) (posted : PostedUpdates) : MergedRates :=
  match posted.collector.rateMode with
  | .primaryOnly => { state.giveSingle posted.update with pp := keep state.pp posted.update }
  | .secondaryOnly => { state.giveSingle posted.update2 with sp := keep state.sp posted.update2 }
  | .bothPaths =>
      { pp := keep state.pp posted.update
        sp := keep state.sp posted.update2
        congestionWindow := state.mergeWindow posted.update posted.update2
        pacingRates := merge PacerConfig.sum state.pp.pacerConfig state.sp.pacerConfig
          posted.update.pacerConfig posted.update2.pacerConfig state.pacingRates
        probes := state.probes ++ posted.update.probeClusterConfigs.map fun probe =>
          (probe.1 * 2, probe.2)
        reportedRate := merge TargetTransferRate.sum state.pp.targetRate state.sp.targetRate
          posted.update.targetRate posted.update2.targetRate state.reportedRate }

/-- The state after a sequence of calls. -/
def afterRun (run : List PostedUpdates) : MergedRates := run.foldl postUpdates {}

@[simp]
theorem afterRun_append (run : List PostedUpdates) (posted : PostedUpdates) :
    afterRun (run ++ [posted]) = (afterRun run).postUpdates posted := by
  rw [afterRun, List.foldl_append]
  rfl

end MergedRates

/-- The most recent value that was delivered. -/
def latest {Value : Type} (select : PostedUpdates → Option Value) (run : List PostedUpdates) :
    Option Value :=
  run.foldl (fun value posted => (select posted).or value) none

@[simp]
theorem latest_append {Value : Type} (select : PostedUpdates → Option Value)
    (run : List PostedUpdates) (posted : PostedUpdates) :
    latest select (run ++ [posted]) = (select posted).or (latest select run) := by
  rw [latest, List.foldl_append]
  rfl

/-- The mode of the last call. -/
def lastMode (run : List PostedUpdates) : Option RateMode :=
  run.getLast?.map fun posted => posted.collector.rateMode

/-- Both paths are in use: after the last call the pacer has the sum of the most recent
configurations, and the sum of the most recent target rates was reported. -/
structure Merged (run : List PostedUpdates) : Prop where
  pacingRates : ∀ primary secondary,
    latest (fun posted => posted.update.pacerConfig) run = some primary →
    latest (fun posted => posted.update2.pacerConfig) run = some secondary →
    (MergedRates.afterRun run).pacingRates =
      some (primary.dataRate + secondary.dataRate, primary.padRate + secondary.padRate)
  targetRate : ∀ primary secondary,
    latest (fun posted => posted.update.targetRate) run = some primary →
    latest (fun posted => posted.update2.targetRate) run = some secondary →
    (MergedRates.afterRun run).reportedRate.map TargetTransferRate.targetRate =
      some (primary.targetRate + secondary.targetRate)

/-- A value of either path is there. -/
def Brings {Value : Type} (select select2 : PostedUpdates → Option Value) (posted : PostedUpdates) :
    Prop :=
  (select posted).isSome ∨ (select2 posted).isSome

/-- Both paths have delivered a value. -/
def Delivered {Value : Type} (select select2 : PostedUpdates → Option Value)
    (run : List PostedUpdates) : Prop :=
  (latest select run).isSome ∧ (latest select2 run).isSome

/-- A call that loses nothing: a path that is not in use has nothing to tell, and the first
call with both paths after one with a single path brings what has to be merged again. -/
structure Lossless (earlier : List PostedUpdates) (posted : PostedUpdates) : Prop where
  primaryOnly : posted.collector.rateMode = .primaryOnly →
    posted.update2.pacerConfig = none ∧ posted.update2.targetRate = none
  secondaryOnly : posted.collector.rateMode = .secondaryOnly →
    posted.update.pacerConfig = none ∧ posted.update.targetRate = none
  resumed : posted.collector.rateMode = .bothPaths → lastMode earlier ≠ some .bothPaths →
    (Delivered (fun posted => posted.update.pacerConfig) (fun posted => posted.update2.pacerConfig)
        (earlier ++ [posted]) →
      Brings (fun posted => posted.update.pacerConfig) (fun posted => posted.update2.pacerConfig)
        posted) ∧
    (Delivered (fun posted => posted.update.targetRate) (fun posted => posted.update2.targetRate)
        (earlier ++ [posted]) →
      Brings (fun posted => posted.update.targetRate) (fun posted => posted.update2.targetRate)
        posted)

/-- Calls that lose nothing, after earlier ones. -/
def LosslessFrom : (earlier run : List PostedUpdates) → Prop
  | _, [] => True
  | earlier, posted :: run => Lossless earlier posted ∧ LosslessFrom (earlier ++ [posted]) run

section Merging

variable {Value Given Rate : Type} {sum : Value → Value → Given} {rate : Given → Rate}
  {pp sp update update2 : Option Value} {given : Option Given} {own other : Value}

/-- Merging gives the sum of the values kept after the call, if the call brings one or the sum
was given before. -/
theorem merge_eq (symmetric : ∀ own other, rate (sum own other) = rate (sum other own))
    (primary : update.or pp = some own) (secondary : update2.or sp = some other)
    (given_eq : update = none → update2 = none → given.map rate = some (rate (sum own other))) :
    (merge sum pp sp update update2 given).map rate = some (rate (sum own other)) := by
  cases update with
  | some first =>
      obtain rfl : first = own := Option.some.inj primary
      cases update2 with
      | some second =>
          obtain rfl : second = other := Option.some.inj secondary
          rfl
      | none =>
          rw [Option.none_or] at secondary
          rw [secondary]
          rfl
  | none =>
      cases update2 with
      | some second =>
          obtain rfl : second = other := Option.some.inj secondary
          rw [Option.none_or] at primary
          rw [primary]
          exact congrArg some (symmetric second own)
      | none => exact given_eq rfl rfl

end Merging

/-- The kept values are the most recent ones, and with both paths in use they are merged. -/
structure Tracks (run : List PostedUpdates) : Prop where
  ppPacer : (MergedRates.afterRun run).pp.pacerConfig =
    latest (fun posted => posted.update.pacerConfig) run
  spPacer : (MergedRates.afterRun run).sp.pacerConfig =
    latest (fun posted => posted.update2.pacerConfig) run
  ppTarget : (MergedRates.afterRun run).pp.targetRate =
    latest (fun posted => posted.update.targetRate) run
  spTarget : (MergedRates.afterRun run).sp.targetRate =
    latest (fun posted => posted.update2.targetRate) run
  merged : lastMode run = some .bothPaths → Merged run

/-- A call with both paths that brings nothing for either of them was preceded by one. -/
theorem lastMode_of_silent {Value : Type} {select select2 : PostedUpdates → Option Value}
    {run : List PostedUpdates} {posted : PostedUpdates} {own other : Value}
    (resumed : lastMode run ≠ some .bothPaths → Delivered select select2 (run ++ [posted]) →
      Brings select select2 posted)
    (primary : latest select (run ++ [posted]) = some own)
    (secondary : latest select2 (run ++ [posted]) = some other)
    (silent : select posted = none) (silent2 : select2 posted = none) :
    lastMode run = some .bothPaths := by
  by_contra single
  have delivered : Delivered select select2 (run ++ [posted]) := by
    rw [Delivered, primary, secondary]
    exact ⟨rfl, rfl⟩
  have brings := resumed single delivered
  rw [Brings, silent, silent2] at brings
  simp at brings

/-- One kind of value, at a call with both paths. -/
theorem merge_latest {Value Given Rate : Type} (sum : Value → Value → Given) (rate : Given → Rate)
    (symmetric : ∀ own other, rate (sum own other) = rate (sum other own))
    {select select2 : PostedUpdates → Option Value} {run : List PostedUpdates}
    {posted : PostedUpdates} (given : Option Given)
    (resumed : lastMode run ≠ some .bothPaths → Delivered select select2 (run ++ [posted]) →
      Brings select select2 posted)
    (before : lastMode run = some .bothPaths → ∀ own other, latest select run = some own →
      latest select2 run = some other → given.map rate = some (rate (sum own other)))
    {own other : Value} (primary : latest select (run ++ [posted]) = some own)
    (secondary : latest select2 (run ++ [posted]) = some other) :
    (merge sum (latest select run) (latest select2 run) (select posted) (select2 posted)
      given).map rate = some (rate (sum own other)) := by
  have quiet := lastMode_of_silent resumed primary secondary
  rw [latest_append] at primary secondary
  refine merge_eq symmetric primary secondary fun silent silent2 => ?_
  rw [silent, Option.none_or] at primary
  rw [silent2, Option.none_or] at secondary
  exact before (quiet silent silent2) own other primary secondary

theorem Tracks.both {run : List PostedUpdates} (tracks : Tracks run) {posted : PostedUpdates}
    (lossless : Lossless run posted) (mode : posted.collector.rateMode = .bothPaths) :
    Merged (run ++ [posted]) := by
  have resumed := lossless.resumed mode
  refine ⟨fun primary secondary own other => ?_, fun primary secondary own other => ?_⟩
  · have merged := merge_latest PacerConfig.sum id
      (fun own other => by simp only [id, PacerConfig.sum, Nat.add_comm])
      (MergedRates.afterRun run).pacingRates (fun single => (resumed single).1)
      (fun both own other latestOwn latestOther => by
        rw [Option.map_id, id, (tracks.merged both).pacingRates own other latestOwn latestOther]
        rfl)
      own other
    rw [MergedRates.afterRun_append, MergedRates.postUpdates, mode]
    dsimp only
    rw [tracks.ppPacer, tracks.spPacer]
    rw [Option.map_id] at merged
    exact merged
  · have merged := merge_latest TargetTransferRate.sum TargetTransferRate.targetRate
      (fun own other => Nat.add_comm _ _) (MergedRates.afterRun run).reportedRate
      (fun single => (resumed single).2) (fun both => (tracks.merged both).targetRate) own other
    rw [MergedRates.afterRun_append, MergedRates.postUpdates, mode]
    dsimp only
    rw [tracks.ppTarget, tracks.spTarget]
    exact merged

theorem Tracks.step {run : List PostedUpdates} (tracks : Tracks run) {posted : PostedUpdates}
    (lossless : Lossless run posted) : Tracks (run ++ [posted]) := by
  have last : lastMode (run ++ [posted]) = some posted.collector.rateMode := by
    simp [lastMode]
  cases mode : posted.collector.rateMode with
  | primaryOnly =>
      obtain ⟨noPacer, noTarget⟩ := lossless.primaryOnly mode
      have state : MergedRates.afterRun (run ++ [posted]) =
          { (MergedRates.afterRun run).giveSingle posted.update with
            pp := MergedRates.keep (MergedRates.afterRun run).pp posted.update } := by
        rw [MergedRates.afterRun_append, MergedRates.postUpdates, mode]
      refine ⟨?_, ?_, ?_, ?_, fun both => ?_⟩
      · rw [state, latest_append, ← tracks.ppPacer]
        rfl
      · rw [state, latest_append, ← tracks.spPacer, noPacer]
        rfl
      · rw [state, latest_append, ← tracks.ppTarget]
        rfl
      · rw [state, latest_append, ← tracks.spTarget, noTarget]
        rfl
      · rw [last, mode] at both
        cases both
  | secondaryOnly =>
      obtain ⟨noPacer, noTarget⟩ := lossless.secondaryOnly mode
      have state : MergedRates.afterRun (run ++ [posted]) =
          { (MergedRates.afterRun run).giveSingle posted.update2 with
            sp := MergedRates.keep (MergedRates.afterRun run).sp posted.update2 } := by
        rw [MergedRates.afterRun_append, MergedRates.postUpdates, mode]
      refine ⟨?_, ?_, ?_, ?_, fun both => ?_⟩
      · rw [state, latest_append, ← tracks.ppPacer, noPacer]
        rfl
      · rw [state, latest_append, ← tracks.spPacer]
        rfl
      · rw [state, latest_append, ← tracks.ppTarget, noTarget]
        rfl
      · rw [state, latest_append, ← tracks.spTarget]
        rfl
      · rw [last, mode] at both
        cases both
  | bothPaths =>
      refine ⟨?_, ?_, ?_, ?_, fun _ => tracks.both lossless mode⟩
      · rw [MergedRates.afterRun_append, MergedRates.postUpdates, mode, latest_append,
          ← tracks.ppPacer]
        rfl
      · rw [MergedRates.afterRun_append, MergedRates.postUpdates, mode, latest_append,
          ← tracks.spPacer]
        rfl
      · rw [MergedRates.afterRun_append, MergedRates.postUpdates, mode, latest_append,
          ← tracks.ppTarget]
        rfl
      · rw [MergedRates.afterRun_append, MergedRates.postUpdates, mode, latest_append,
          ← tracks.spTarget]
        rfl

/-- The invariant holds after every part of a run that loses nothing. -/
theorem Tracks.run {start : List PostedUpdates} (tracks : Tracks start)
    {run : List PostedUpdates} (lossless : LosslessFrom start run) {earlier later : List PostedUpdates}
    (split : run = earlier ++ later) : Tracks (start ++ earlier) := by
  induction earlier generalizing start run with
  | nil => rwa [List.append_nil]
  | cons posted earlier ih =>
      rw [split] at lossless
      have rest := ih (tracks.step lossless.1) lossless.2 rfl
      rwa [List.append_assoc] at rest

/-- **Merged rates.** In a run whose calls lose nothing, after every call with both paths in use
the pacer has the sum of the most recent configurations of the paths and the sum of their most
recent target rates was reported. -/
theorem rates_merged {run : List PostedUpdates} (lossless : LosslessFrom [] run) :
    ∀ earlier later, run = earlier ++ later → lastMode earlier = some .bothPaths →
      Merged earlier := by
  intro earlier later split both
  have start : Tracks [] := ⟨rfl, rfl, rfl, rfl, fun both => by cases both⟩
  exact (start.run lossless split).merged both

/-- Both paths are open and in use. -/
def bothOpen : Collector := { Collector.initial 0 0 with mpSecondPath := 1 }

/-- A configuration of some bits per second. -/
def pacerConfigOf (rate : Nat) : PacerConfig where
  dataWindow := rate
  timeWindow := 8000000

/-- A controller reports a rate. -/
def updateOf (rate : Nat) : NetworkControlUpdate where
  pacerConfig := some (pacerConfigOf rate)
  targetRate := some { targetRate := rate }

/-- The two controllers report one after the other, the first one once more while the second path is
not in use. -/
def alternatingRun : List PostedUpdates :=
  [{ collector := bothOpen, update := updateOf 300 },
    { collector := { bothOpen with beta := 1, fullsignaledPathid := 2 }, update := updateOf 310 },
    { collector := bothOpen, update2 := updateOf 200 }]

theorem lossless_of_brings {earlier : List PostedUpdates} {posted : PostedUpdates}
    (mode : posted.collector.rateMode = .bothPaths)
    (pacer : Brings (fun posted => posted.update.pacerConfig)
      (fun posted => posted.update2.pacerConfig) posted)
    (target : Brings (fun posted => posted.update.targetRate)
      (fun posted => posted.update2.targetRate) posted) : Lossless earlier posted := by
  refine ⟨fun single => ?_, fun single => ?_, fun _ _ => ⟨fun _ => pacer, fun _ => target⟩⟩
  · rw [mode] at single
    cases single
  · rw [mode] at single
    cases single

theorem rates_merged_alternating :
    LosslessFrom [] alternatingRun ∧ Merged alternatingRun ∧
      (MergedRates.afterRun alternatingRun).pacingRates = some (510, 0) ∧
      (MergedRates.afterRun alternatingRun).reportedRate.map TargetTransferRate.targetRate =
        some 510 := by
  have lossless : LosslessFrom [] alternatingRun := by
    refine ⟨lossless_of_brings (by decide +kernel) (.inl rfl) (.inl rfl), ?_,
      lossless_of_brings (by decide +kernel) (.inr rfl) (.inr rfl), trivial⟩
    exact ⟨fun _ => ⟨rfl, rfl⟩, fun second => absurd second (by decide +kernel),
      fun both => absurd both (by decide +kernel)⟩
  exact ⟨lossless, rates_merged lossless alternatingRun [] rfl (by decide +kernel),
    by decide +kernel, by decide +kernel⟩

/-- While the second path is taken out of use by a full signal, its controller reports a new
rate; later both paths are in use again and the first controller reports. -/
def staleRun : List PostedUpdates :=
  [{ collector := bothOpen
     update := { pacerConfig := some (pacerConfigOf 300) }
     update2 := { pacerConfig := some (pacerConfigOf 200) } },
    { collector := { bothOpen with beta := 1, fullsignaledPathid := 2 }
      update2 := { pacerConfig := some (pacerConfigOf 50) } },
    { collector := bothOpen, update := { pacerConfig := some (pacerConfigOf 310) } }]

/-- The pacer gets the old rate of the second path. -/
theorem stale_secondary_rate :
    lastMode staleRun = some .bothPaths ∧
      (MergedRates.afterRun staleRun).pacingRates = some (510, 0) ∧ ¬Merged staleRun := by
  have given : (MergedRates.afterRun staleRun).pacingRates = some (510, 0) := by decide +kernel
  refine ⟨by decide +kernel, given, fun merged => ?_⟩
  have claimed := merged.pacingRates (pacerConfigOf 310) (pacerConfigOf 50) rfl rfl
  rw [given] at claimed
  exact absurd claimed (by decide)

end MpWebRtc
