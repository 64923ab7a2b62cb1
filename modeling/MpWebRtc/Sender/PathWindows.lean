import MpWebRtc.Sender.MergedRates
import MpWebRtc.Sender.Splitter

/-!
# The windows of the paths

`PostUpdates` writes a window for each path into the collector, computed from the path's pacer
configuration, and the window scheduler holds the bytes of the worst path against it. With both
paths in use the window of the second path is that of its most recent configuration. The branch
for a configuration of the first path alone writes the window of the second path once more, so
the window of the first path is that of its last configuration that came together with one of the
second path.
-/

namespace MpWebRtc

/-- `data_window.bytes() / 2.5`, converted to a `long`. -/
def PacerConfig.window (config : PacerConfig) : Int := truncate ((config.dataWindow : ℚ) / (5 / 2))

/-- `MpSetPrimaryWindow`. -/
def Collector.mpSetPrimaryWindow (c : Collector) (pwnd : Int) : Collector :=
  { c with primaryCongestionWnd := pwnd }

/-- `MpSetSecondaryWindow`. -/
def Collector.mpSetSecondaryWindow (c : Collector) (swnd : Int) : Collector :=
  { c with secondaryCongestionWnd := swnd }

/-- The pacing branch of `PostUpdates`, as far as it concerns the collector. -/
def MergedRates.postWindows (state : MergedRates) (c : Collector)
    (update update2 : NetworkControlUpdate) : Collector :=
  match update.pacerConfig, update2.pacerConfig with
  | some own, some other => (c.mpSetPrimaryWindow own.window).mpSetSecondaryWindow other.window
  | none, some other =>
      if state.pp.pacerConfig.isSome then c.mpSetSecondaryWindow other.window else c
  | some _, none =>
      match state.sp.pacerConfig with
      | some other => c.mpSetSecondaryWindow other.window
      | none => c
  | none, none => c

/-- What is kept between calls: the values of the paths, and the windows in the collector, which
nothing else writes. -/
structure WindowState where
  rates : MergedRates := {}
  primary : Int := 0
  secondary : Int := 0

namespace MergedRates

variable {state : MergedRates} {c : Collector} {update update2 : NetworkControlUpdate}

theorem postWindows_primary :
    (state.postWindows c update update2).primaryCongestionWnd =
      ((update2.pacerConfig.bind fun _ => update.pacerConfig).map PacerConfig.window).getD
        c.primaryCongestionWnd := by
  unfold postWindows
  cases update.pacerConfig <;> cases update2.pacerConfig <;> dsimp only
  · rfl
  · split <;> rfl
  · cases state.sp.pacerConfig <;> rfl
  · rfl

/-- A call that brings a configuration writes the window of the second path, if by then there
are configurations of both. -/
theorem postWindows_secondary {config : PacerConfig}
    (brings : update.pacerConfig.isSome ∨ update2.pacerConfig.isSome)
    (primary : (update.pacerConfig.or state.pp.pacerConfig).isSome)
    (secondary : update2.pacerConfig.or state.sp.pacerConfig = some config) :
    (state.postWindows c update update2).secondaryCongestionWnd = config.window := by
  unfold postWindows
  cases own : update.pacerConfig <;> cases other : update2.pacerConfig <;>
    rw [own, other] at brings <;> rw [own] at primary <;> rw [other] at secondary <;> dsimp only
  · simp at brings
  · rw [Option.none_or] at primary
    rw [if_pos primary, ← Option.some.inj secondary]
    rfl
  · rw [Option.none_or] at secondary
    rw [secondary]
    rfl
  · rw [← Option.some.inj secondary]
    rfl

theorem postWindows_none (silent : update.pacerConfig = none)
    (silent2 : update2.pacerConfig = none) : state.postWindows c update update2 = c := by
  unfold postWindows
  rw [silent, silent2]

end MergedRates

namespace WindowState

/-- The collector at a call. -/
def seen (state : WindowState) (c : Collector) : Collector :=
  (c.mpSetPrimaryWindow state.primary).mpSetSecondaryWindow state.secondary

/-- `PostUpdates`, with its effect on the windows. -/
def postUpdates (state : WindowState) (posted : PostedUpdates) : WindowState :=
  let c := state.seen posted.collector
  let after :=
    if posted.collector.rateMode = .bothPaths then
      state.rates.postWindows c posted.update posted.update2
    else c
  { rates := state.rates.postUpdates posted
    primary := after.primaryCongestionWnd
    secondary := after.secondaryCongestionWnd }

/-- The state after a sequence of calls. -/
def afterRun (start : WindowState) (run : List PostedUpdates) : WindowState :=
  run.foldl postUpdates start

theorem afterRun_append (start : WindowState) (run : List PostedUpdates) (posted : PostedUpdates) :
    start.afterRun (run ++ [posted]) = (start.afterRun run).postUpdates posted := by
  rw [afterRun, List.foldl_append]
  rfl

end WindowState

/-- The most recent configuration of the first path. -/
def latestPrimary (run : List PostedUpdates) : Option PacerConfig :=
  latest (fun posted => posted.update.pacerConfig) run

/-- The most recent configuration of the second path. -/
def latestSecondary (run : List PostedUpdates) : Option PacerConfig :=
  latest (fun posted => posted.update2.pacerConfig) run

/-- The most recent configuration of the first path that came with one of the second path. -/
def latestJoint (run : List PostedUpdates) : Option PacerConfig :=
  latest (fun posted => posted.update2.pacerConfig.bind fun _ => posted.update.pacerConfig) run

/-- The windows are those of two configurations, and the worst path is held to its own. -/
structure WindowsOf (state : WindowState) (primary secondary : PacerConfig) : Prop where
  primaryWindow : state.primary = primary.window
  secondaryWindow : state.secondary = secondary.window
  budget : ∀ (c : Collector) (s : RtpSender), windowExhausted (state.seen c) s ↔
    s.worstPathBytes ≥ (115 * primary.window).tdiv 100 ∧ c.bestPathid = 2 ∨
      s.worstPathBytes ≥ (115 * secondary.window).tdiv 100 ∧ c.bestPathid = 1

/-- Once both paths have delivered a configuration, the windows are those of the latest ones. -/
def WindowsTrack (start : WindowState) (run : List PostedUpdates) : Prop :=
  ∀ primary secondary, latestPrimary run = some primary → latestSecondary run = some secondary →
    WindowsOf (start.afterRun run) primary secondary

/-- What the calls so far have kept and written. -/
structure WindowsWritten (start : WindowState) (run : List PostedUpdates) : Prop where
  pp : (start.afterRun run).rates.pp.pacerConfig =
    (latestPrimary run).or start.rates.pp.pacerConfig
  sp : (start.afterRun run).rates.sp.pacerConfig =
    (latestSecondary run).or start.rates.sp.pacerConfig
  primaryWindow : (start.afterRun run).primary =
    ((latestJoint run).map PacerConfig.window).getD start.primary
  secondaryWindow : ∀ config, latestSecondary run = some config →
    (start.afterRun run).rates.pp.pacerConfig.isSome →
      (start.afterRun run).secondary = config.window

variable {start : WindowState} {run : List PostedUpdates}

theorem WindowsWritten.initial (start : WindowState) : WindowsWritten start [] :=
  ⟨rfl, rfl, rfl, fun _ => nofun⟩

theorem WindowsWritten.step (written : WindowsWritten start run) {posted : PostedUpdates}
    (both : posted.collector.rateMode = .bothPaths) : WindowsWritten start (run ++ [posted]) := by
  have rates : (start.afterRun (run ++ [posted])).rates =
      (start.afterRun run).rates.postUpdates posted :=
    congrArg WindowState.rates (start.afterRun_append run posted)
  have pp : (start.afterRun (run ++ [posted])).rates.pp.pacerConfig =
      posted.update.pacerConfig.or (start.afterRun run).rates.pp.pacerConfig := by
    rw [rates, MergedRates.postUpdates, both]
    rfl
  have sp : (start.afterRun (run ++ [posted])).rates.sp.pacerConfig =
      posted.update2.pacerConfig.or (start.afterRun run).rates.sp.pacerConfig := by
    rw [rates, MergedRates.postUpdates, both]
    rfl
  have windows : (start.afterRun (run ++ [posted])).primary =
        ((start.afterRun run).rates.postWindows ((start.afterRun run).seen posted.collector)
          posted.update posted.update2).primaryCongestionWnd ∧
      (start.afterRun (run ++ [posted])).secondary =
        ((start.afterRun run).rates.postWindows ((start.afterRun run).seen posted.collector)
          posted.update posted.update2).secondaryCongestionWnd := by
    rw [start.afterRun_append, WindowState.postUpdates, if_pos both]
    exact ⟨rfl, rfl⟩
  have primary : latestPrimary (run ++ [posted]) =
      posted.update.pacerConfig.or (latestPrimary run) := latest_append ..
  have secondary : latestSecondary (run ++ [posted]) =
      posted.update2.pacerConfig.or (latestSecondary run) := latest_append ..
  refine ⟨?_, ?_, ?_, fun config known kept => ?_⟩
  · rw [pp, written.pp, ← Option.or_assoc, ← primary]
  · rw [sp, written.sp, ← Option.or_assoc, ← secondary]
  · rw [windows.1, MergedRates.postWindows_primary]
    have joint : latestJoint (run ++ [posted]) =
        (posted.update2.pacerConfig.bind fun _ => posted.update.pacerConfig).or
          (latestJoint run) := latest_append ..
    rw [joint]
    cases posted.update2.pacerConfig.bind fun _ => posted.update.pacerConfig with
    | none => exact written.primaryWindow
    | some own => rfl
  · rw [windows.2]
    rw [pp] at kept
    rw [secondary] at known
    by_cases brings : posted.update.pacerConfig.isSome ∨ posted.update2.pacerConfig.isSome
    · refine MergedRates.postWindows_secondary brings kept ?_
      rw [written.sp, ← Option.or_assoc, known]
      rfl
    · rw [not_or, Option.not_isSome_iff_eq_none, Option.not_isSome_iff_eq_none] at brings
      obtain ⟨silent, silent2⟩ := brings
      rw [silent, Option.none_or] at kept
      rw [silent2, Option.none_or] at known
      rw [MergedRates.postWindows_none silent silent2]
      exact written.secondaryWindow config known kept

theorem WindowsWritten.of_bothPaths (start : WindowState)
    (both : ∀ posted ∈ run, posted.collector.rateMode = .bothPaths) : WindowsWritten start run := by
  induction run using List.reverseRecOn with
  | nil => exact .initial start
  | append_singleton run posted ih =>
      rw [List.forall_mem_append] at both
      exact (ih both.1).step (both.2 posted (List.mem_singleton_self posted))

/-- The second window is always right; the first one is that of the last joint configuration. -/
theorem WindowsWritten.windowsOf_iff (written : WindowsWritten start run)
    {primary secondary : PacerConfig} (own : latestPrimary run = some primary)
    (other : latestSecondary run = some secondary) :
    WindowsOf (start.afterRun run) primary secondary ↔
      primary.window = ((latestJoint run).map PacerConfig.window).getD start.primary := by
  have kept : (start.afterRun run).rates.pp.pacerConfig.isSome := by
    rw [written.pp, own]
    rfl
  have second := written.secondaryWindow secondary other kept
  rw [← written.primaryWindow]
  constructor
  · exact fun windows => windows.primaryWindow.symm
  · intro first
    refine ⟨first.symm, second, fun c s => ?_⟩
    rw [first, ← second]
    exact Iff.rfl

/-- **Windows.** While both paths are in use, the windows follow the controllers exactly if the
latest configuration of the first path always has the window of its latest one that came
together with a configuration of the second path. -/
theorem windows_track_iff (start : WindowState) (run : List PostedUpdates)
    (both : ∀ posted ∈ run, posted.collector.rateMode = .bothPaths) :
    (∀ earlier later, run = earlier ++ later → WindowsTrack start earlier) ↔
      ∀ earlier later, run = earlier ++ later → (latestSecondary earlier).isSome →
        ∀ primary, latestPrimary earlier = some primary →
          primary.window =
            ((latestJoint earlier).map PacerConfig.window).getD start.primary := by
  have written {earlier later : List PostedUpdates} (split : run = earlier ++ later) :
      WindowsWritten start earlier := by
    apply WindowsWritten.of_bothPaths
    intro posted member
    rw [split] at both
    exact both posted (List.mem_append_left later member)
  constructor
  · intro track earlier later split delivered primary own
    obtain ⟨secondary, other⟩ := Option.isSome_iff_exists.mp delivered
    exact ((written split).windowsOf_iff own other).mp
      (track earlier later split primary secondary own other)
  · intro joint earlier later split primary secondary own other
    refine ((written split).windowsOf_iff own other).mpr ?_
    refine joint earlier later split ?_ primary own
    rw [other]
    rfl

/-- Both controllers report, and then the second one alone. -/
def jointRun : List PostedUpdates :=
  [{ collector := bothOpen
     update := { pacerConfig := some (pacerConfigOf 5000) }
     update2 := { pacerConfig := some (pacerConfigOf 2500) } },
    { collector := bothOpen, update2 := { pacerConfig := some (pacerConfigOf 3000) } }]

theorem windows_track_joint : WindowsTrack {} (jointRun.take 1) ∧ WindowsTrack {} jointRun := by
  have track := (windows_track_iff {} jointRun (by decide +kernel)).mpr ?_
  · exact ⟨track (jointRun.take 1) (jointRun.drop 1) (List.take_append_drop 1 jointRun).symm,
      track jointRun [] (List.append_nil jointRun).symm⟩
  intro earlier later split delivered primary own
  have reached : earlier ∈ jointRun.inits := (List.mem_inits earlier jointRun).mpr ⟨later, split.symm⟩
  simp only [jointRun, List.inits, List.map_cons, List.map_nil, List.mem_cons, List.not_mem_nil,
    or_false] at reached
  rcases reached with rfl | rfl | rfl
  · cases own
  · obtain rfl := Option.some.inj own
    rfl
  · obtain rfl := Option.some.inj own
    rfl

/-- Both controllers report, and then the first one alone. -/
def lonePrimaryRun : List PostedUpdates :=
  [{ collector := bothOpen
     update := { pacerConfig := some (pacerConfigOf 5000) }
     update2 := { pacerConfig := some (pacerConfigOf 2500) } },
    { collector := bothOpen, update := { pacerConfig := some (pacerConfigOf 10000) } }]

/-- The window of the first path is still the one of before. -/
theorem lone_primary_window_stale :
    (∀ posted ∈ lonePrimaryRun, posted.collector.rateMode = .bothPaths) ∧
      (WindowState.afterRun {} lonePrimaryRun).primary = 2000 ∧
      ¬WindowsTrack {} lonePrimaryRun := by
  have stale : (WindowState.afterRun {} lonePrimaryRun).primary = 2000 := by decide +kernel
  refine ⟨by decide +kernel, stale, fun track => ?_⟩
  have claimed := (track (pacerConfigOf 10000) (pacerConfigOf 2500) rfl rfl).primaryWindow
  rw [stale] at claimed
  revert claimed
  decide +kernel

end MpWebRtc
