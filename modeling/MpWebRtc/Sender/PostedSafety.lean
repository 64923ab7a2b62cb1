import MpWebRtc.Math.Run
import MpWebRtc.Sender.MergedRates

/-!
# What `PostUpdates` reads and forwards

With both paths in use, `PostUpdates` reads optionals that it kept of earlier calls: the window
of the path that has no new one, and in log statements the configurations of both paths. Which
ones are set depends on the whole run, since a call with a single path in use keeps the values of
that path only. The checked calls below have no result when an empty optional is read.

The probes of both updates are for one pacer.
-/

namespace MpWebRtc

open Math.Run

namespace MergedRates

variable (state : MergedRates)

/-- The window given to the pacer. The kept window of the other path is read without a test. -/
def checkedWindow (update update2 : NetworkControlUpdate) : Option (Option Nat) :=
  match update.congestionWindow, update2.congestionWindow with
  | some own, some other => some (some (own + other))
  | none, some other => state.pp.congestionWindow.map fun own => some (own + other)
  | some own, none => state.sp.congestionWindow.map fun other => some (own + other)
  | none, none => some state.congestionWindow

/-- The target rates of both paths are there, so they are logged. -/
def logsTargetRates (update update2 : NetworkControlUpdate) : Bool :=
  match update.targetRate, update2.targetRate with
  | some _, some _ => true
  | none, some _ => state.pp.targetRate.isSome
  | some _, none => state.sp.targetRate.isSome
  | none, none => false

/-- The log statements also print the rates of the pacer configurations, which are the new ones
by now if there are new ones. -/
def logPacerRates (update update2 : NetworkControlUpdate) : Option (List Nat) :=
  if state.logsTargetRates update update2 then do
    let primary ← (keep state.pp update).pacerConfig
    let secondary ← (keep state.sp update2).pacerConfig
    some [primary.dataRate, secondary.dataRate]
  else some []

/-- `PostUpdates`, unless it reads an optional that is empty. -/
def postUpdatesChecked (posted : PostedUpdates) : Option MergedRates :=
  match posted.collector.rateMode with
  | .primaryOnly => some (state.postUpdates posted)
  | .secondaryOnly => some (state.postUpdates posted)
  | .bothPaths => do
      let congestionWindow ← state.checkedWindow posted.update posted.update2
      let _ ← state.logPacerRates posted.update posted.update2
      some { state.postUpdates posted with congestionWindow }

/-- A sequence of calls, unless one of them reads an empty optional. -/
def runChecked (run : List PostedUpdates) : Option MergedRates := run.foldlM postUpdatesChecked {}

end MergedRates

section Reading

variable {Value : Type}

/-- A value of a path is kept: it came in a call that used the path. -/
def KeptOf (unused : RateMode) (select : PostedUpdates → Option Value)
    (run : List PostedUpdates) : Prop :=
  ∃ posted ∈ run, posted.collector.rateMode ≠ unused ∧ (select posted).isSome

/-- A value of the first path is kept. -/
def KeptPrimary (select : NetworkControlUpdate → Option Value) (run : List PostedUpdates) : Prop :=
  KeptOf .secondaryOnly (fun posted => select posted.update) run

/-- A value of the second path is kept. -/
def KeptSecondary (select : NetworkControlUpdate → Option Value) (run : List PostedUpdates) :
    Prop :=
  KeptOf .primaryOnly (fun posted => select posted.update2) run

/-- What a call with both paths needs of the calls before it. A window of one path alone needs
a window of the other path; and as soon as there are target rates of both paths, a further one
needs the configurations of both paths. -/
structure ReadsKept (earlier : List PostedUpdates) (posted : PostedUpdates) : Prop where
  primaryWindow : posted.update.congestionWindow = none →
    posted.update2.congestionWindow.isSome → KeptPrimary (·.congestionWindow) earlier
  secondaryWindow : posted.update.congestionWindow.isSome →
    posted.update2.congestionWindow = none → KeptSecondary (·.congestionWindow) earlier
  configurations : (posted.update.targetRate.isSome ∨ posted.update2.targetRate.isSome) →
    KeptPrimary (·.targetRate) (earlier ++ [posted]) →
    KeptSecondary (·.targetRate) (earlier ++ [posted]) →
    KeptPrimary (·.pacerConfig) (earlier ++ [posted]) ∧
      KeptSecondary (·.pacerConfig) (earlier ++ [posted])

namespace MergedRates

variable {state : MergedRates} {posted : PostedUpdates} {run : List PostedUpdates}

variable (update update2 : NetworkControlUpdate)

theorem checkedWindow_isSome :
    (state.checkedWindow update update2).isSome ↔
      (update.congestionWindow = none → update2.congestionWindow.isSome →
        state.pp.congestionWindow.isSome) ∧
      (update.congestionWindow.isSome → update2.congestionWindow = none →
        state.sp.congestionWindow.isSome) := by
  unfold checkedWindow
  cases update.congestionWindow <;> cases update2.congestionWindow
  · simp
  · cases state.pp.congestionWindow <;> simp
  · cases state.sp.congestionWindow <;> simp
  · simp

theorem checkedWindow_eq {update update2 : NetworkControlUpdate} {window : Option Nat}
    (read : state.checkedWindow update update2 = some window) :
    window = state.mergeWindow update update2 := by
  unfold checkedWindow at read
  unfold mergeWindow
  cases own : update.congestionWindow <;> cases other : update2.congestionWindow <;>
    simp only [own, other] at read ⊢
  · exact (Option.some.inj read).symm
  · obtain ⟨kept, known, sum⟩ := Option.map_eq_some_iff.mp read
    rw [known, ← sum]
    rfl
  · obtain ⟨kept, known, sum⟩ := Option.map_eq_some_iff.mp read
    rw [known, ← sum]
    rfl
  · exact (Option.some.inj read).symm

/-- The rates are logged as soon as both are known. -/
theorem logsTargetRates_iff :
    state.logsTargetRates update update2 = true ↔
      (update.targetRate.isSome ∨ update2.targetRate.isSome) ∧
        (keep state.pp update).targetRate.isSome ∧ (keep state.sp update2).targetRate.isSome := by
  unfold logsTargetRates keep
  cases update.targetRate <;> cases update2.targetRate <;> simp

theorem logPacerRates_isSome :
    (state.logPacerRates update update2).isSome ↔
      (state.logsTargetRates update update2 = true →
        (keep state.pp update).pacerConfig.isSome ∧
    (keep state.sp update2).pacerConfig.isSome) := by
  unfold logPacerRates
  by_cases logs : state.logsTargetRates update update2 = true
  · rw [if_pos logs]
    cases (keep state.pp update).pacerConfig <;> cases (keep state.sp update2).pacerConfig <;>
      simp [logs]
  · rw [if_neg logs]
    exact ⟨fun _ known => absurd known logs, fun _ => rfl⟩

/-- A call that reads no empty optional is the plain call. -/
theorem postUpdatesChecked_eq {next : MergedRates}
    (read : state.postUpdatesChecked posted = some next) : next = state.postUpdates posted := by
  unfold postUpdatesChecked at read
  cases mode : posted.collector.rateMode with
  | primaryOnly =>
      rw [mode] at read
      exact (Option.some.inj read).symm
  | secondaryOnly =>
      rw [mode] at read
      exact (Option.some.inj read).symm
  | bothPaths =>
      rw [mode] at read
      obtain ⟨window, given, rest⟩ := Option.bind_eq_some_iff.mp read
      obtain ⟨-, -, result⟩ := Option.bind_eq_some_iff.mp rest
      rw [← Option.some.inj result, checkedWindow_eq given, postUpdates, mode]

/-- Which calls read no empty optional, by what is kept. -/
theorem postUpdatesChecked_isSome :
    (state.postUpdatesChecked posted).isSome ↔ (posted.collector.rateMode = .bothPaths →
      (state.checkedWindow posted.update posted.update2).isSome ∧
        (state.logPacerRates posted.update posted.update2).isSome) := by
  unfold postUpdatesChecked
  cases posted.collector.rateMode with
  | primaryOnly => exact ⟨fun _ => nofun, fun _ => rfl⟩
  | secondaryOnly => exact ⟨fun _ => nofun, fun _ => rfl⟩
  | bothPaths =>
      cases state.checkedWindow posted.update posted.update2 <;>
        cases state.logPacerRates posted.update posted.update2 <;> simp

theorem runChecked_append :
    runChecked (run ++ [posted]) = (runChecked run).bind (postUpdatesChecked · posted) := by
  unfold runChecked
  rw [List.foldlM_append]
  exact congrArg _ (funext fun state => bind_pure _)

theorem runChecked_eq {state : MergedRates} (read : runChecked run = some state) :
    state = afterRun run := by
  induction run using List.reverseRecOn generalizing state with
  | nil => exact (Option.some.inj read).symm
  | append_singleton run posted ih =>
      rw [runChecked_append] at read
      obtain ⟨before, known, last⟩ := Option.bind_eq_some_iff.mp read
      rw [postUpdatesChecked_eq last, ih known, afterRun_append]

theorem keptOf_append {Value : Type} {unused : RateMode} {select : PostedUpdates → Option Value} :
    KeptOf unused select (run ++ [posted]) ↔
      KeptOf unused select run ∨ posted.collector.rateMode ≠ unused ∧ (select posted).isSome := by
  unfold KeptOf
  simp only [List.mem_append, List.mem_singleton, or_and_right, exists_or, exists_eq_left]

section Kept

variable {Value : Type} {get : PathRates → Option Value}
  {select : NetworkControlUpdate → Option Value}

/-- What is kept of the first path. -/
theorem pp_isSome_iff
    (kept : ∀ rates update, get (keep rates update) = (select update).or (get rates))
    (empty : get {} = none) (run : List PostedUpdates) :
    (get (afterRun run).pp).isSome ↔ KeptPrimary select run := by
  induction run using List.reverseRecOn with
  | nil =>
      change (get {}).isSome ↔ _
      rw [empty]
      exact ⟨nofun, fun ⟨_, member, _⟩ => absurd member List.not_mem_nil⟩
  | append_singleton run posted ih =>
      rw [KeptPrimary, keptOf_append, afterRun_append, postUpdates]
      rw [KeptPrimary] at ih
      rw [← ih]
      cases posted.collector.rateMode <;> dsimp only
      · rw [kept]
        cases select posted.update <;> simp
      · exact ⟨.inl, fun brought => brought.elim id fun new => absurd rfl new.1⟩
      · rw [kept]
        cases select posted.update <;> simp

/-- What is kept of the second path. -/
theorem sp_isSome_iff
    (kept : ∀ rates update, get (keep rates update) = (select update).or (get rates))
    (empty : get {} = none) (run : List PostedUpdates) :
    (get (afterRun run).sp).isSome ↔ KeptSecondary select run := by
  induction run using List.reverseRecOn with
  | nil =>
      change (get {}).isSome ↔ _
      rw [empty]
      exact ⟨nofun, fun ⟨_, member, _⟩ => absurd member List.not_mem_nil⟩
  | append_singleton run posted ih =>
      rw [KeptSecondary, keptOf_append, afterRun_append, postUpdates]
      rw [KeptSecondary] at ih
      rw [← ih]
      cases posted.collector.rateMode <;> dsimp only
      · exact ⟨.inl, fun brought => brought.elim id fun new => absurd rfl new.1⟩
      · rw [kept]
        cases select posted.update2 <;> simp
      · rw [kept]
        cases select posted.update2 <;> simp

end Kept

/-- After earlier calls, a call reads no empty optional exactly if what it reads was kept. -/
theorem postUpdatesChecked_iff (run : List PostedUpdates) (posted : PostedUpdates) :
    ((afterRun run).postUpdatesChecked posted).isSome ↔
      (posted.collector.rateMode = .bothPaths → ReadsKept run posted) := by
  rw [postUpdatesChecked_isSome]
  apply imp_congr_right
  intro mode
  have merged : (afterRun (run ++ [posted])).pp = keep (afterRun run).pp posted.update ∧
      (afterRun (run ++ [posted])).sp = keep (afterRun run).sp posted.update2 := by
    rw [afterRun_append, postUpdates, mode]
    exact ⟨rfl, rfl⟩
  rw [checkedWindow_isSome, logPacerRates_isSome, logsTargetRates_iff, ← merged.1, ← merged.2,
    pp_isSome_iff (fun _ _ => rfl) rfl, sp_isSome_iff (fun _ _ => rfl) rfl,
    pp_isSome_iff (fun _ _ => rfl) rfl, sp_isSome_iff (fun _ _ => rfl) rfl,
    pp_isSome_iff (fun _ _ => rfl) rfl, sp_isSome_iff (fun _ _ => rfl) rfl]
  constructor
  · rintro ⟨⟨primary, secondary⟩, configurations⟩
    exact ⟨primary, secondary, fun brought own other => configurations ⟨brought, own, other⟩⟩
  · intro kept
    exact ⟨⟨kept.primaryWindow, kept.secondaryWindow⟩,
      fun logged => kept.configurations logged.1 logged.2.1 logged.2.2⟩

/-- A call after a run that went well. -/
theorem runChecked_append_isSome (run : List PostedUpdates) (posted : PostedUpdates) :
    (runChecked (run ++ [posted])).isSome ↔ (runChecked run).isSome ∧
      (posted.collector.rateMode = .bothPaths → ReadsKept run posted) := by
  rw [runChecked_append, ← postUpdatesChecked_iff]
  cases known : runChecked run with
  | none => simp
  | some state =>
      rw [runChecked_eq known]
      simp

end MergedRates

end Reading

/-- **Empty optionals.** A sequence of calls reads no empty optional exactly if each call that finds
both paths in use reads what was kept of the calls before it. -/
theorem no_empty_optional_read_iff (run : List PostedUpdates) :
    (MergedRates.runChecked run).isSome ↔
      ∀ earlier posted later, run = earlier ++ posted :: later →
        posted.collector.rateMode = .bothPaths → ReadsKept earlier posted := by
  induction run using List.reverseRecOn with
  | nil =>
      refine ⟨fun _ earlier posted later split => ?_, fun _ => rfl⟩
      exact absurd split.symm (List.append_ne_nil_of_right_ne_nil _ (List.cons_ne_nil posted later))
  | append_singleton run posted ih =>
      rw [MergedRates.runChecked_append_isSome, ih, ← forall_split_append_singleton_iff]

/-- The first call of all brings a window of the first path only. -/
def loneWindow : PostedUpdates where
  collector := bothOpen
  update := { congestionWindow := some 10000 }

/-- The window of the second path is read, and there is none. -/
theorem lone_window_reads_empty : MergedRates.runChecked [loneWindow] = none := by
  decide +kernel

variable (state : MergedRates)

/-- The probes of a call all reach the pacer, each once with its id. -/
def ProbesForwarded (posted : PostedUpdates) : Prop :=
  ((state.postUpdates posted).probes.map Prod.snd).Perm
    (state.probes.map Prod.snd ++ (posted.update.probeClusterConfigs.map Prod.snd ++
      posted.update2.probeClusterConfigs.map Prod.snd))

/-- **Probes.** With both paths in use, the probes reach the pacer exactly if the second path has
none. -/
theorem probes_forwarded_iff (posted : PostedUpdates)
    (both : posted.collector.rateMode = .bothPaths) :
    ProbesForwarded state posted ↔ posted.update2.probeClusterConfigs = [] := by
  have created : (state.postUpdates posted).probes.map Prod.snd =
      state.probes.map Prod.snd ++ posted.update.probeClusterConfigs.map Prod.snd := by
    rw [MergedRates.postUpdates, both]
    dsimp only
    rw [List.map_append, List.map_map]
    rfl
  unfold ProbesForwarded
  rw [created, List.perm_append_left_iff]
  constructor
  · intro forwarded
    have counted := forwarded.length_eq
    rw [List.length_append] at counted
    have none : (posted.update2.probeClusterConfigs.map Prod.snd).length = 0 := by omega
    exact List.map_eq_nil_iff.mp (List.eq_nil_of_length_eq_zero none)
  · intro none
    rw [none, List.map_nil, List.append_nil]

/-- A probe of the first path and none of the second. -/
theorem probes_forwarded_primary :
    ProbesForwarded {} { collector := bothOpen, update := { probeClusterConfigs := [(500, 1)] } } :=
  (probes_forwarded_iff {}
    { collector := bothOpen, update := { probeClusterConfigs := [(500, 1)] } }
    (by decide +kernel)).mpr rfl

/-- A probe of the second path is not forwarded. -/
theorem secondary_probe_dropped :
    ¬ProbesForwarded {} { collector := bothOpen
                          update2 := { probeClusterConfigs := [(500, 1)] } } := by
  intro forwarded
  have counted := forwarded.length_eq
  revert counted
  decide +kernel

end MpWebRtc
