import Mathlib.Data.List.Basic
import Mathlib.Data.List.Pairwise
import Mathlib.Logic.Function.Basic
import Mathlib.Tactic.SplitIfs
import Mathlib.Tactic.Tauto

/-!
# The modules of the packet router

`PacketRouter` finds the module of a packet by its source, keeps a list of send modules in which
a module is as often as it has sources, and remembers the last module that sent. One of the
modules that may send a bitrate limit is active: the first of the send modules among them, or
else the first of the receive modules; a module that is active no longer is told so.
-/

namespace MpWebRtc

/-- What a send module answers when it is added or removed. -/
structure SendModule (Module : Type) where
  rtpModule : Module
  ssrc : UInt32
  rtxSsrc : Option UInt32 := none
  flexfecSsrc : Option UInt32 := none
  isAudioConfigured : Bool := false
  supportsRtxPayloadPadding : Bool := false

namespace SendModule

/-- The sources of a module, in the order in which the router asks for them. -/
def ssrcs {Module : Type} (m : SendModule Module) : List UInt32 :=
  m.ssrc :: (m.rtxSsrc.toList ++ m.flexfecSsrc.toList)

/-- Two modules, and no source of both. -/
def Apart {Module : Type} (m other : SendModule Module) : Prop :=
  m.rtpModule ≠ other.rtpModule ∧ m.ssrcs.Disjoint other.ssrcs

instance symmApart {Module : Type} : Std.Symm (@Apart Module) where
  symm _ _ apart := ⟨apart.1.symm, fun _ first second => apart.2 second first⟩

end SendModule

/-- `PacketRouter`, as far as it keeps modules. -/
structure RouterModules (Module : Type) where
  sendModulesMap : UInt32 → Option Module := fun _ => none
  sendModulesList : List Module := []
  lastSendModule : Option Module := none
  rtcpFeedbackSenders : List Module := []
  senderRembCandidates : List Module := []
  receiverRembCandidates : List Module := []
  activeRembModule : Option Module := none

/-- The calls of a router that concern its modules. A packet comes with what its module makes
of it, and a request for padding with what the modules answer. -/
inductive RouterCall (Module : Type)
  | addSendRtpModule (m : SendModule Module) (rembCandidate : Bool)
  | removeSendRtpModule (m : SendModule Module)
  | addReceiveRtpModule (rtcpSender : Module) (rembCandidate : Bool)
  | removeReceiveRtpModule (rtcpSender : Module)
  | sendPacket (ssrc : UInt32) (sent supportsRtxPayloadPadding : Bool)
  | generatePadding (supportsRtxPayloadPadding supportsPadding generates : Module → Bool)

namespace RouterModules

variable {Module : Type} [DecidableEq Module]

/-- `AddSendRtpModuleToMap`. Audio modules are kept at the back. -/
def addSendRtpModuleToMap (m : SendModule Module) (router : RouterModules Module) (ssrc : UInt32) :
    RouterModules Module :=
  { router with
    sendModulesList :=
      if m.isAudioConfigured then router.sendModulesList ++ [m.rtpModule]
      else m.rtpModule :: router.sendModulesList
    sendModulesMap := Function.update router.sendModulesMap ssrc (some m.rtpModule) }

variable (router : RouterModules Module)

/-- `RemoveSendRtpModuleFromMap`; nothing, if the source is not in the map. -/
def removeSendRtpModuleFromMap (ssrc : UInt32) : Option (RouterModules Module) :=
  (router.sendModulesMap ssrc).map fun rtpModule =>
    { router with
      sendModulesList := router.sendModulesList.filter (· ≠ rtpModule)
      sendModulesMap := Function.update router.sendModulesMap ssrc none }

/-- `DetermineActiveRembModule`, with the module on which `UnsetRemb` is called. -/
def determineActiveRembModule : RouterModules Module × List Module :=
  let newActiveRembModule := router.senderRembCandidates.head? <|> router.receiverRembCandidates.head?
  ({ router with activeRembModule := newActiveRembModule },
    if newActiveRembModule ≠ router.activeRembModule then router.activeRembModule.toList else [])

/-- `AddRembModuleCandidate`. -/
def addRembModuleCandidate (candidate : Module)
    (mediaSender : Bool) : RouterModules Module × List Module :=
  if mediaSender then
    { router with
      senderRembCandidates := router.senderRembCandidates ++ [candidate] }.determineActiveRembModule
  else
    { router with
      receiverRembCandidates :=
        router.receiverRembCandidates ++ [candidate] }.determineActiveRembModule

/-- `UnsetActiveRembModule`, if it is the active module. -/
def unsetIfActive (candidate : Module) : RouterModules Module × List Module :=
  if some candidate = router.activeRembModule then
    ({ router with activeRembModule := none }, [candidate])
  else (router, [])

/-- `MaybeRemoveRembModuleCandidate`. -/
def maybeRemoveRembModuleCandidate (candidate : Module)
    (mediaSender : Bool) : RouterModules Module × List Module :=
  if mediaSender then
    if candidate ∈ router.senderRembCandidates then
      let (unset, told) := router.unsetIfActive candidate
      let (router, alsoTold) := { unset with
        senderRembCandidates := unset.senderRembCandidates.erase candidate }.determineActiveRembModule
      (router, told ++ alsoTold)
    else (router, [])
  else if candidate ∈ router.receiverRembCandidates then
    let (unset, told) := router.unsetIfActive candidate
    let (router, alsoTold) := { unset with
      receiverRembCandidates :=
        unset.receiverRembCandidates.erase candidate }.determineActiveRembModule
    (router, told ++ alsoTold)
  else (router, [])

/-- `AddSendRtpModule`. -/
def addSendRtpModule (m : SendModule Module)
    (rembCandidate : Bool) : RouterModules Module × List Module :=
  let mapped := m.ssrcs.foldl (addSendRtpModuleToMap m) router
  let cached :=
    if m.supportsRtxPayloadPadding then { mapped with lastSendModule := some m.rtpModule }
    else mapped
  if rembCandidate then cached.addRembModuleCandidate m.rtpModule true else (cached, [])

/-- `RemoveSendRtpModule`. -/
def removeSendRtpModule (m : SendModule Module) : Option (RouterModules Module × List Module) :=
  let (router, told) := router.maybeRemoveRembModuleCandidate m.rtpModule true
  (m.ssrcs.foldlM removeSendRtpModuleFromMap router).map fun router =>
    (if router.lastSendModule = some m.rtpModule then { router with lastSendModule := none }
      else router, told)

/-- `AddReceiveRtpModule`. -/
def addReceiveRtpModule (rtcpSender : Module)
    (rembCandidate : Bool) : RouterModules Module × List Module :=
  let added := { router with rtcpFeedbackSenders := router.rtcpFeedbackSenders ++ [rtcpSender] }
  if rembCandidate then added.addRembModuleCandidate rtcpSender false else (added, [])

/-- `RemoveReceiveRtpModule`; nothing, if the module is not there. -/
def removeReceiveRtpModule (rtcpSender : Module) : Option (RouterModules Module × List Module) :=
  let (router, told) := router.maybeRemoveRembModuleCandidate rtcpSender false
  if rtcpSender ∈ router.rtcpFeedbackSenders then
    some ({ router with
      rtcpFeedbackSenders := router.rtcpFeedbackSenders.erase rtcpSender }, told)
  else none

/-- What `SendPacket` does about the last module. -/
def sendPacket (ssrc : UInt32) (sent supportsRtxPayloadPadding : Bool) : RouterModules Module :=
  match router.sendModulesMap ssrc with
  | none => router
  | some rtpModule =>
      if sent && supportsRtxPayloadPadding then { router with lastSendModule := some rtpModule }
      else router

/-- What `GeneratePadding` does about the last module. It is asked first, then the listed ones
until one has padding. -/
def generatePadding
    (supportsRtxPayloadPadding supportsPadding generates : Module → Bool) : RouterModules Module :=
  if router.lastSendModule.any fun last => supportsRtxPayloadPadding last && generates last then
    router
  else
    match router.sendModulesList.find? fun rtpModule =>
        supportsPadding rtpModule && generates rtpModule with
    | none => router
    | some rtpModule => { router with lastSendModule := some rtpModule }

/-- One call, with the modules on which it calls `UnsetRemb`. -/
def call : RouterCall Module → Option (RouterModules Module × List Module)
  | .addSendRtpModule m rembCandidate => some (router.addSendRtpModule m rembCandidate)
  | .removeSendRtpModule m => router.removeSendRtpModule m
  | .addReceiveRtpModule rtcpSender rembCandidate =>
      some (router.addReceiveRtpModule rtcpSender rembCandidate)
  | .removeReceiveRtpModule rtcpSender => router.removeReceiveRtpModule rtcpSender
  | .sendPacket ssrc sent supportsRtxPayloadPadding =>
      some (router.sendPacket ssrc sent supportsRtxPayloadPadding, [])
  | .generatePadding supportsRtxPayloadPadding supportsPadding generates =>
      some (router.generatePadding supportsRtxPayloadPadding supportsPadding generates, [])

/-- Calls in order. -/
def calls (router : RouterModules Module) :
    List (RouterCall Module) → Option (RouterModules Module × List Module)
  | [] => some (router, [])
  | first :: rest => do
      let (router, told) ← router.call first
      let (router, alsoTold) ← router.calls rest
      return (router, told ++ alsoTold)

end RouterModules

/-- The modules that were added and not yet removed, with what they answered. -/
structure Registered (Module : Type) where
  sendModules : List (SendModule Module) := []
  receivers : List Module := []

namespace Registered

variable {Module : Type} [DecidableEq Module] (registered : Registered Module)

/-- Sources are distinct, only what was added is removed, and a module has the same sources
then. -/
def Permits : RouterCall Module → Prop
  | .addSendRtpModule m _ =>
      m.ssrcs.Nodup ∧ ∀ other ∈ registered.sendModules, m.Apart other
  | .removeSendRtpModule m =>
      ∃ other ∈ registered.sendModules, other.rtpModule = m.rtpModule ∧ other.ssrcs = m.ssrcs
  | .addReceiveRtpModule rtcpSender _ => rtcpSender ∉ registered.receivers
  | .removeReceiveRtpModule rtcpSender => rtcpSender ∈ registered.receivers
  | _ => True

/-- The modules after a call. -/
def after : RouterCall Module → Registered Module
  | .addSendRtpModule m _ => { registered with sendModules := m :: registered.sendModules }
  | .removeSendRtpModule m =>
      { registered with
        sendModules := registered.sendModules.filter (·.rtpModule ≠ m.rtpModule) }
  | .addReceiveRtpModule rtcpSender _ =>
      { registered with receivers := registered.receivers ++ [rtcpSender] }
  | .removeReceiveRtpModule rtcpSender =>
      { registered with receivers := registered.receivers.erase rtcpSender }
  | _ => registered

/-- Calls that respect what the router relies on. -/
def Respects (registered : Registered Module) : List (RouterCall Module) → Prop
  | [] => True
  | first :: rest => registered.Permits first ∧ (registered.after first).Respects rest

end Registered

namespace RouterModules

variable {Module : Type} [DecidableEq Module] {router : RouterModules Module}
  {registered : Registered Module}

/-- The module that is to send the bitrate limit. -/
def selected (router : RouterModules Module) : Option Module :=
  router.senderRembCandidates.head? <|> router.receiverRembCandidates.head?

section Remb

/-- The candidates have changed, and the active module with them; who is active no longer was
told. -/
structure Reselected (router after : RouterModules Module) (told : List Module) : Prop where
  sendModulesMap : after.sendModulesMap = router.sendModulesMap
  sendModulesList : after.sendModulesList = router.sendModulesList
  lastSendModule : after.lastSendModule = router.lastSendModule
  rtcpFeedbackSenders : after.rtcpFeedbackSenders = router.rtcpFeedbackSenders
  active : after.activeRembModule = after.selected
  told : ∀ m, router.activeRembModule = some m → after.activeRembModule ≠ some m → m ∈ told

theorem determineActiveRembModule_spec (router : RouterModules Module) :
    Reselected router router.determineActiveRembModule.1 router.determineActiveRembModule.2 where
  sendModulesMap := rfl
  sendModulesList := rfl
  lastSendModule := rfl
  rtcpFeedbackSenders := rfl
  active := rfl
  told := by
    intro m active inactive
    change m ∈ if router.selected ≠ router.activeRembModule then _ else _
    rw [if_pos fun same => inactive (same.trans active), active]
    exact List.mem_singleton_self m

theorem addRembModuleCandidate_spec (router : RouterModules Module) (candidate : Module)
    (mediaSender : Bool) :
    Reselected router (router.addRembModuleCandidate candidate mediaSender).1
      (router.addRembModuleCandidate candidate mediaSender).2 := by
  cases mediaSender with
  | false =>
      have spec := determineActiveRembModule_spec { router with
        receiverRembCandidates := router.receiverRembCandidates ++ [candidate] }
      exact ⟨spec.1, spec.2, spec.3, spec.4, spec.5, spec.6⟩
  | true =>
      have spec := determineActiveRembModule_spec { router with
        senderRembCandidates := router.senderRembCandidates ++ [candidate] }
      exact ⟨spec.1, spec.2, spec.3, spec.4, spec.5, spec.6⟩

/-- A candidate that is the active module is told, and then the candidates are determined
again. -/
theorem Reselected.of_unset (change : RouterModules Module → RouterModules Module)
    (candidate : Module) (keeps : ∀ router, (change router).sendModulesMap = router.sendModulesMap ∧
      (change router).sendModulesList = router.sendModulesList ∧
      (change router).lastSendModule = router.lastSendModule ∧
      (change router).rtcpFeedbackSenders = router.rtcpFeedbackSenders ∧
      (change router).activeRembModule = router.activeRembModule) :
    Reselected router (change (router.unsetIfActive candidate).1).determineActiveRembModule.1
      ((router.unsetIfActive candidate).2 ++
        (change (router.unsetIfActive candidate).1).determineActiveRembModule.2) := by
  have spec := determineActiveRembModule_spec (change (router.unsetIfActive candidate).1)
  obtain ⟨map, list, last, feedback, active⟩ := keeps (router.unsetIfActive candidate).1
  unfold unsetIfActive at *
  split_ifs at * with isActive
  · refine ⟨spec.1.trans map, spec.2.trans list, spec.3.trans last, spec.4.trans feedback,
      spec.5, fun m before _ => ?_⟩
    obtain rfl := Option.some.inj (isActive.trans before)
    exact List.mem_append_left _ (List.mem_singleton_self _)
  · exact ⟨spec.1.trans map, spec.2.trans list, spec.3.trans last, spec.4.trans feedback, spec.5,
      fun m before inactive => List.mem_append_right _ (spec.6 m (active.trans before) inactive)⟩

theorem maybeRemoveRembModuleCandidate_spec (active : router.activeRembModule = router.selected)
    (candidate : Module) (mediaSender : Bool) :
    Reselected router (router.maybeRemoveRembModuleCandidate candidate mediaSender).1
      (router.maybeRemoveRembModuleCandidate candidate mediaSender).2 := by
  have same : Reselected router router [] :=
    ⟨rfl, rfl, rfl, rfl, active, fun m before after => absurd before after⟩
  unfold maybeRemoveRembModuleCandidate
  cases mediaSender with
  | false =>
      rw [if_neg Bool.false_ne_true]
      split_ifs
      · exact .of_unset (fun router => { router with
          receiverRembCandidates := router.receiverRembCandidates.erase candidate }) candidate
          fun _ => ⟨rfl, rfl, rfl, rfl, rfl⟩
      · exact same
  | true =>
      rw [if_pos rfl]
      split_ifs
      · exact .of_unset (fun router => { router with
          senderRembCandidates := router.senderRembCandidates.erase candidate }) candidate
          fun _ => ⟨rfl, rfl, rfl, rfl, rfl⟩
      · exact same

end Remb

section Mapping

/-- Nothing but the map and the list has changed. -/
structure Remapped (router after : RouterModules Module) : Prop where
  lastSendModule : after.lastSendModule = router.lastSendModule
  rtcpFeedbackSenders : after.rtcpFeedbackSenders = router.rtcpFeedbackSenders
  selected : after.selected = router.selected
  active : after.activeRembModule = router.activeRembModule

omit [DecidableEq Module] in
theorem Remapped.refl (router : RouterModules Module) : Remapped router router :=
  ⟨rfl, rfl, rfl, rfl⟩

omit [DecidableEq Module] in
theorem Remapped.trans {first second third : RouterModules Module} (earlier : Remapped first second)
    (later : Remapped second third) : Remapped first third :=
  ⟨later.1.trans earlier.1, later.2.trans earlier.2, later.3.trans earlier.3,
    later.4.trans earlier.4⟩

omit [DecidableEq Module] in
/-- One source more has got the value that the others get. -/
theorem ite_update_cons (map : UInt32 → Option Module) (value : Option Module) (ssrc other : UInt32)
    (ssrcs : List UInt32) :
    (if other ∈ ssrcs then value else Function.update map ssrc value other) =
      if other ∈ ssrc :: ssrcs then value else map other := by
  by_cases same : other = ssrc
  · subst same
    rw [Function.update_self, ite_self, if_pos (.head _)]
  · rw [Function.update_of_ne same]
    simp only [List.mem_cons, same, false_or]

omit [DecidableEq Module] in
theorem addSendRtpModuleToMap_spec (m : SendModule Module) (router : RouterModules Module)
    (ssrcs : List UInt32) :
    Remapped router (ssrcs.foldl (addSendRtpModuleToMap m) router) ∧
      (∀ ssrc, (ssrcs.foldl (addSendRtpModuleToMap m) router).sendModulesMap ssrc =
        if ssrc ∈ ssrcs then some m.rtpModule else router.sendModulesMap ssrc) ∧
      ∀ other, other ∈ (ssrcs.foldl (addSendRtpModuleToMap m) router).sendModulesList ↔
        other = m.rtpModule ∧ ssrcs ≠ [] ∨ other ∈ router.sendModulesList := by
  induction ssrcs generalizing router with
  | nil => exact ⟨.refl router, fun ssrc => rfl, fun other => by simp⟩
  | cons ssrc ssrcs ih =>
      obtain ⟨remapped, map, list⟩ := ih (router.addSendRtpModuleToMap m ssrc)
      have listed : ∀ other, other ∈ (addSendRtpModuleToMap m router ssrc).sendModulesList ↔
          other = m.rtpModule ∨ other ∈ router.sendModulesList := by
        intro other
        unfold addSendRtpModuleToMap
        dsimp only
        split_ifs
        · rw [List.mem_append, List.mem_singleton, or_comm]
        · exact List.mem_cons
      have step : Remapped router (addSendRtpModuleToMap m router ssrc) := ⟨rfl, rfl, rfl, rfl⟩
      refine ⟨step.trans remapped, fun other => ?_, fun other => ?_⟩
      · rw [List.foldl_cons, map]
        exact ite_update_cons ..
      · rw [List.foldl_cons, list, listed]
        have some : ssrc :: ssrcs ≠ [] := List.cons_ne_nil _ _
        tauto

theorem removeSendRtpModuleFromMap_spec {rtpModule : Module} {ssrcs : List UInt32}
    (distinct : ssrcs.Nodup)
    (mapped : ∀ ssrc ∈ ssrcs, router.sendModulesMap ssrc = some rtpModule) :
    ∃ after, ssrcs.foldlM removeSendRtpModuleFromMap router = some after ∧
      Remapped router after ∧
      (∀ ssrc, after.sendModulesMap ssrc =
        if ssrc ∈ ssrcs then none else router.sendModulesMap ssrc) ∧
      ∀ other, other ∈ after.sendModulesList ↔
        other ∈ router.sendModulesList ∧ (other ≠ rtpModule ∨ ssrcs = []) := by
  induction ssrcs generalizing router with
  | nil => exact ⟨router, rfl, .refl router, fun ssrc => rfl, fun other => by simp⟩
  | cons ssrc ssrcs ih =>
      obtain ⟨absent, distinct⟩ := List.nodup_cons.mp distinct
      have first := mapped ssrc (.head _)
      have removed : router.removeSendRtpModuleFromMap ssrc = some
          { router with
            sendModulesList := router.sendModulesList.filter (· ≠ rtpModule)
            sendModulesMap := Function.update router.sendModulesMap ssrc none } := by
        rw [removeSendRtpModuleFromMap, first, Option.map_some]
      obtain ⟨after, done, remapped, map, list⟩ := @ih
        { router with
          sendModulesList := router.sendModulesList.filter (· ≠ rtpModule)
          sendModulesMap := Function.update router.sendModulesMap ssrc none } distinct
        fun other member => by
          have apart : other ≠ ssrc := fun same => absent (same ▸ member)
          exact (Function.update_of_ne apart ..).trans (mapped other (.tail _ member))
      refine ⟨after, ?_, ⟨remapped.1, remapped.2, remapped.3, remapped.4⟩, fun other => ?_,
        fun other => ?_⟩
      · rw [List.foldlM_cons, removed]
        exact done
      · rw [map]
        exact ite_update_cons ..
      · rw [list, List.mem_filter, decide_eq_true_eq]
        have some : ssrc :: ssrcs ≠ [] := List.cons_ne_nil _ _
        tauto

end Mapping

/-- What the router keeps of the modules that are registered. -/
structure Keeps (router : RouterModules Module) (registered : Registered Module) : Prop where
  mapped : ∀ ssrc rtpModule, router.sendModulesMap ssrc = some rtpModule ↔
    ∃ m ∈ registered.sendModules, m.rtpModule = rtpModule ∧ ssrc ∈ m.ssrcs
  listed : ∀ rtpModule, rtpModule ∈ router.sendModulesList ↔
    ∃ m ∈ registered.sendModules, m.rtpModule = rtpModule
  last : ∀ rtpModule, router.lastSendModule = some rtpModule → rtpModule ∈ router.sendModulesList
  receivers : router.rtcpFeedbackSenders = registered.receivers
  distinct : ∀ m ∈ registered.sendModules, m.ssrcs.Nodup
  apart : registered.sendModules.Pairwise SendModule.Apart

/-- A router between two calls. -/
structure Agrees (router : RouterModules Module) (registered : Registered Module) : Prop
    extends router.Keeps registered where
  active : router.activeRembModule = router.selected

section Step

omit [DecidableEq Module] in
/-- Determining the active module changes nothing that is kept of registered modules. -/
theorem Reselected.agrees {after : RouterModules Module} {told : List Module}
    (reselected : Reselected router after told) (keeps : router.Keeps registered) :
    after.Agrees registered where
  mapped := by
    rw [reselected.sendModulesMap]
    exact keeps.mapped
  listed := by
    rw [reselected.sendModulesList]
    exact keeps.listed
  last := by
    rw [reselected.lastSendModule, reselected.sendModulesList]
    exact keeps.last
  receivers := reselected.rtcpFeedbackSenders.trans keeps.receivers
  active := reselected.active
  distinct := keeps.distinct
  apart := keeps.apart

omit [DecidableEq Module] in
/-- Two registered modules are the same one or have no source in common. -/
theorem Keeps.eq_of_rtpModule_eq (keeps : router.Keeps registered) {m other : SendModule Module}
    (member : m ∈ registered.sendModules) (member' : other ∈ registered.sendModules)
    (same : m.rtpModule = other.rtpModule) : m = other := by
  by_contra different
  exact (keeps.apart.forall member member' different).1 same

variable {m : SendModule Module}

theorem Keeps.mapped_add (keeps : router.Keeps registered)
    {rembCandidate : Bool} (permitted : registered.Permits (.addSendRtpModule m rembCandidate)) :
    (m.ssrcs.foldl (addSendRtpModuleToMap m) router).Keeps
      (registered.after (.addSendRtpModule m rembCandidate)) := by
  obtain ⟨remapped, map, list⟩ := addSendRtpModuleToMap_spec m router m.ssrcs
  have some : m.ssrcs ≠ [] := List.cons_ne_nil _ _
  refine ⟨fun ssrc rtpModule => ?_, fun rtpModule => ?_, fun rtpModule last => ?_,
    remapped.rtcpFeedbackSenders.trans keeps.receivers, ?_,
    List.pairwise_cons.mpr ⟨permitted.2, keeps.apart⟩⟩
  · rw [map, Registered.after, List.exists_mem_cons_iff]
    split_ifs with own
    · rw [Option.some_inj]
      refine ⟨fun same => .inl ⟨same, own⟩, ?_⟩
      rintro (⟨same, -⟩ | ⟨other, member, -, also⟩)
      · exact same
      · exact absurd also ((permitted.2 other member).2 own)
    · rw [keeps.mapped]
      exact (or_iff_right fun both => own both.2).symm
  · rw [list, Registered.after, List.exists_mem_cons_iff, keeps.listed, and_iff_left some, eq_comm]
  · rw [remapped.lastSendModule] at last
    exact (list _).mpr (.inr (keeps.last _ last))
  · intro other member
    rcases List.mem_cons.mp member with rfl | member
    · exact permitted.1
    · exact keeps.distinct other member

/-- The outcome of a call: the router agrees with the modules that are registered then, and who
is active no longer was told. -/
structure Outcome (router : RouterModules Module) (registered : Registered Module)
    (after : RouterModules Module) (told : List Module) : Prop where
  agrees : after.Agrees registered
  told : ∀ other, router.activeRembModule = some other → after.activeRembModule ≠ some other →
    other ∈ told

theorem Agrees.addSendRtpModule (agrees : router.Agrees registered) {m : SendModule Module}
    {rembCandidate : Bool} (permitted : registered.Permits (.addSendRtpModule m rembCandidate)) :
    router.Outcome (registered.after (.addSendRtpModule m rembCandidate))
      (router.addSendRtpModule m rembCandidate).1 (router.addSendRtpModule m rembCandidate).2 := by
  obtain ⟨remapped, -, list⟩ := addSendRtpModuleToMap_spec m router m.ssrcs
  have mapped := agrees.toKeeps.mapped_add permitted
  unfold RouterModules.addSendRtpModule
  obtain ⟨cached, isCached⟩ : ∃ cached, cached =
      if m.supportsRtxPayloadPadding then
        { m.ssrcs.foldl (addSendRtpModuleToMap m) router with lastSendModule := some m.rtpModule }
      else m.ssrcs.foldl (addSendRtpModuleToMap m) router := ⟨_, rfl⟩
  have active : cached.activeRembModule = router.activeRembModule ∧
      cached.selected = router.selected := by
    rw [isCached]
    split_ifs
    · exact ⟨remapped.active, remapped.selected⟩
    · exact ⟨remapped.active, remapped.selected⟩
  have keeps : cached.Keeps (registered.after (.addSendRtpModule m rembCandidate)) := by
    rw [isCached]
    split_ifs
    · refine { mapped with last := fun rtpModule last => ?_ }
      obtain rfl := Option.some.inj last
      exact (list _).mpr (.inl ⟨rfl, List.cons_ne_nil _ _⟩)
    · exact mapped
  dsimp only
  rw [← isCached]
  split_ifs
  · have reselected := cached.addRembModuleCandidate_spec m.rtpModule true
    exact ⟨reselected.agrees keeps, fun other before after =>
      reselected.told other (active.1.trans before) after⟩
  · exact ⟨⟨keeps, active.1.trans (agrees.active.trans active.2.symm)⟩,
      fun other before after => absurd (active.1.trans before) after⟩

/-- The sources of a registered module are taken from the map, and it from the list. -/
theorem Keeps.removed (keeps : router.Keeps registered)
    (permitted : registered.Permits (.removeSendRtpModule m)) :
    ∃ after, m.ssrcs.foldlM removeSendRtpModuleFromMap router = some after ∧
      Remapped router after ∧
      ((if after.lastSendModule = some m.rtpModule then { after with lastSendModule := none }
        else after) : RouterModules Module).Keeps
        (registered.after (.removeSendRtpModule m)) := by
  obtain ⟨own, member, same, sources⟩ := permitted
  have distinct := sources ▸ keeps.distinct own member
  obtain ⟨after, done, remapped, map, list⟩ := removeSendRtpModuleFromMap_spec distinct
    fun ssrc inSsrcs => (keeps.mapped ssrc m.rtpModule).mpr ⟨own, member, same, sources ▸ inSsrcs⟩
  have kept : ∀ other, other ∈ (registered.after (.removeSendRtpModule m)).sendModules ↔
      other ∈ registered.sendModules ∧ other.rtpModule ≠ m.rtpModule := by
    intro other
    rw [Registered.after, List.mem_filter, decide_eq_true_eq]
  have mapped : ∀ ssrc rtpModule, after.sendModulesMap ssrc = some rtpModule ↔
      ∃ other ∈ (registered.after (.removeSendRtpModule m)).sendModules,
        other.rtpModule = rtpModule ∧ ssrc ∈ other.ssrcs := by
    intro ssrc rtpModule
    rw [map]
    constructor
    · intro found
      split_ifs at found with own'
      obtain ⟨other, there, named, inSsrcs⟩ := (keeps.mapped _ _).mp found
      refine ⟨other, (kept other).mpr ⟨there, fun equal => own' ?_⟩, named, inSsrcs⟩
      rw [← sources, ← keeps.eq_of_rtpModule_eq there member (equal.trans same.symm)]
      exact inSsrcs
    · rintro ⟨other, there, named, inSsrcs⟩
      obtain ⟨there, different⟩ := (kept other).mp there
      have apart := keeps.apart.forall there member fun equal => different (equal ▸ same)
      rw [if_neg fun inOwn => apart.2 inSsrcs (sources ▸ inOwn)]
      exact (keeps.mapped _ _).mpr ⟨other, there, named, inSsrcs⟩
  have listed : ∀ rtpModule, rtpModule ∈ after.sendModulesList ↔
      ∃ other ∈ (registered.after (.removeSendRtpModule m)).sendModules,
        other.rtpModule = rtpModule := by
    intro rtpModule
    have some : m.ssrcs ≠ [] := List.cons_ne_nil _ _
    rw [list, keeps.listed, or_iff_left some]
    constructor
    · rintro ⟨⟨other, there, rfl⟩, different⟩
      exact ⟨other, (kept other).mpr ⟨there, different⟩, rfl⟩
    · rintro ⟨other, there, rfl⟩
      exact ⟨⟨other, ((kept other).mp there).1, rfl⟩, ((kept other).mp there).2⟩
  have lists : ∀ other, after.lastSendModule = some other → other ≠ m.rtpModule →
      other ∈ after.sendModulesList := by
    intro other last different
    rw [remapped.lastSendModule] at last
    exact (list other).mpr ⟨keeps.last other last, .inl different⟩
  refine ⟨after, done, remapped, ?_⟩
  split_ifs with last
  · exact ⟨mapped, listed, fun _ => nofun, remapped.rtcpFeedbackSenders.trans keeps.receivers,
      fun other there => keeps.distinct other ((kept other).mp there).1, keeps.apart.filter _⟩
  · refine ⟨mapped, listed, fun other isLast => lists other isLast fun equal => ?_,
      remapped.rtcpFeedbackSenders.trans keeps.receivers,
      fun other there => keeps.distinct other ((kept other).mp there).1, keeps.apart.filter _⟩
    exact last (equal ▸ isLast)

section

variable (agrees : router.Agrees registered)
include agrees

theorem Agrees.removeSendRtpModule {m : SendModule Module}
    (permitted : registered.Permits (.removeSendRtpModule m)) :
    ∃ after told, router.removeSendRtpModule m = some (after, told) ∧
      router.Outcome (registered.after (.removeSendRtpModule m)) after told := by
  have reselected := maybeRemoveRembModuleCandidate_spec agrees.active m.rtpModule true
  obtain ⟨after, done, remapped, keeps⟩ :=
    (reselected.agrees agrees.toKeeps).toKeeps.removed permitted
  refine ⟨_, (router.maybeRemoveRembModuleCandidate m.rtpModule true).2, ?_, ⟨keeps, ?_⟩, ?_⟩
  · unfold RouterModules.removeSendRtpModule
    dsimp only
    rw [done]
    rfl
  · have active := remapped.active.trans (reselected.active.trans remapped.selected.symm)
    split_ifs
    · exact active
    · exact active
  · intro other before inactive
    refine reselected.told other before fun active => inactive ?_
    have still := remapped.active.trans active
    split_ifs
    · exact still
    · exact still

theorem Agrees.addReceiveRtpModule (rtcpSender : Module) (rembCandidate : Bool) :
    router.Outcome (registered.after (.addReceiveRtpModule rtcpSender rembCandidate))
      (router.addReceiveRtpModule rtcpSender rembCandidate).1
      (router.addReceiveRtpModule rtcpSender rembCandidate).2 := by
  have keeps : { router with
      rtcpFeedbackSenders := router.rtcpFeedbackSenders ++ [rtcpSender] }.Keeps
      (registered.after (.addReceiveRtpModule rtcpSender rembCandidate)) :=
    ⟨agrees.mapped, agrees.listed, agrees.last, congrArg (· ++ [rtcpSender]) agrees.receivers,
      agrees.distinct, agrees.apart⟩
  unfold RouterModules.addReceiveRtpModule
  dsimp only
  split_ifs
  · have reselected := addRembModuleCandidate_spec { router with
      rtcpFeedbackSenders := router.rtcpFeedbackSenders ++ [rtcpSender] } rtcpSender false
    exact ⟨reselected.agrees keeps, reselected.told⟩
  · exact ⟨⟨keeps, agrees.active⟩, fun other before after => absurd before after⟩

theorem Agrees.removeReceiveRtpModule {rtcpSender : Module}
    (permitted : registered.Permits (.removeReceiveRtpModule rtcpSender)) :
    ∃ after told, router.removeReceiveRtpModule rtcpSender = some (after, told) ∧
      router.Outcome (registered.after (.removeReceiveRtpModule rtcpSender)) after told := by
  have reselected := maybeRemoveRembModuleCandidate_spec agrees.active rtcpSender false
  have between := reselected.agrees agrees.toKeeps
  refine ⟨{ (router.maybeRemoveRembModuleCandidate rtcpSender false).1 with
      rtcpFeedbackSenders := (router.maybeRemoveRembModuleCandidate rtcpSender
        false).1.rtcpFeedbackSenders.erase rtcpSender },
    (router.maybeRemoveRembModuleCandidate rtcpSender false).2, ?_, ⟨⟨?_, ?_⟩, ?_⟩⟩
  · unfold RouterModules.removeReceiveRtpModule
    dsimp only
    rw [if_pos]
    rw [between.receivers]
    exact permitted
  · exact ⟨between.mapped, between.listed, between.last,
      congrArg (·.erase rtcpSender) between.receivers, between.distinct, between.apart⟩
  · exact between.active
  · exact reselected.told

end

omit [DecidableEq Module] in
theorem Agrees.sendPacket (agrees : router.Agrees registered) (ssrc : UInt32)
    (sent supportsRtxPayloadPadding : Bool) :
    router.Outcome registered (router.sendPacket ssrc sent supportsRtxPayloadPadding) [] := by
  have same : router.Outcome registered router [] :=
    ⟨agrees, fun other before after => absurd before after⟩
  unfold RouterModules.sendPacket
  cases found : router.sendModulesMap ssrc with
  | none => exact same
  | some rtpModule =>
      dsimp only
      split_ifs
      · refine ⟨⟨{ agrees.toKeeps with last := fun other last => ?_ }, agrees.active⟩, same.told⟩
        obtain rfl := Option.some.inj last
        obtain ⟨m, member, named, -⟩ := (agrees.mapped _ _).mp found
        exact (agrees.listed _).mpr ⟨m, member, named⟩
      · exact same

omit [DecidableEq Module] in
theorem Agrees.generatePadding (agrees : router.Agrees registered)
    (supportsRtxPayloadPadding supportsPadding generates : Module → Bool) :
    router.Outcome registered
      (router.generatePadding supportsRtxPayloadPadding supportsPadding generates) [] := by
  have same : router.Outcome registered router [] :=
    ⟨agrees, fun other before after => absurd before after⟩
  unfold RouterModules.generatePadding
  split_ifs
  · exact same
  · cases found : router.sendModulesList.find? fun rtpModule =>
        supportsPadding rtpModule && generates rtpModule with
    | none => exact same
    | some rtpModule =>
        refine ⟨⟨{ agrees.toKeeps with last := fun other last => ?_ }, agrees.active⟩, same.told⟩
        obtain rfl := Option.some.inj last
        exact List.mem_of_find?_eq_some found

/-- No permitted call is without a result, and each leaves the router in agreement. -/
theorem Agrees.call (agrees : router.Agrees registered) {first : RouterCall Module}
    (permitted : registered.Permits first) :
    ∃ after told, router.call first = some (after, told) ∧
      router.Outcome (registered.after first) after told := by
  cases first with
  | addSendRtpModule m rembCandidate => exact ⟨_, _, rfl, agrees.addSendRtpModule permitted⟩
  | removeSendRtpModule m => exact agrees.removeSendRtpModule permitted
  | addReceiveRtpModule rtcpSender rembCandidate =>
      exact ⟨_, _, rfl, agrees.addReceiveRtpModule rtcpSender rembCandidate⟩
  | removeReceiveRtpModule rtcpSender => exact agrees.removeReceiveRtpModule permitted
  | sendPacket ssrc sent supportsRtxPayloadPadding =>
      exact ⟨_, _, rfl, agrees.sendPacket ssrc sent supportsRtxPayloadPadding⟩
  | generatePadding supportsRtxPayloadPadding supportsPadding generates =>
      exact ⟨_, _, rfl, agrees.generatePadding supportsRtxPayloadPadding supportsPadding generates⟩

end Step

section Runs

/-- After any calls the router agrees with the modules that are registered, and a module that
was active before them and is not after them was told during them. -/
theorem Agrees.calls (agrees : router.Agrees registered) {rest : List (RouterCall Module)}
    (respects : registered.Respects rest) :
    ∃ after told, router.calls rest = some (after, told) ∧
      router.Outcome (rest.foldl Registered.after registered) after told := by
  induction rest generalizing router registered with
  | nil => exact ⟨router, [], rfl, agrees, fun other before after => absurd before after⟩
  | cons first rest ih =>
      obtain ⟨between, told, called, outcome⟩ := agrees.call respects.1
      obtain ⟨after, alsoTold, done, later⟩ := ih outcome.agrees respects.2
      refine ⟨after, told ++ alsoTold, ?_, later.agrees, fun other before inactive => ?_⟩
      · rw [RouterModules.calls, called, Option.bind_eq_bind, Option.bind_some]
        dsimp only
        rw [done]
        rfl
      · by_cases still : between.activeRembModule = some other
        · exact List.mem_append_right _ (later.told other still inactive)
        · exact List.mem_append_left _ (outcome.told other before still)

end Runs

end RouterModules

end MpWebRtc
