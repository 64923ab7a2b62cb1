import MpWebRtc.Channel
import MpWebRtc.Math.Criteria

/-!
# Choosing the selected connection

`BasicIceController` compares connections and tells the channel when to switch the
selected one: after sorting, when the controlling side nominates a connection, and on the
controlled side when data arrives on another connection. The second connection is chosen
once, against the connection that is selected at that moment. The controller does not
know it: it takes part in the comparison like any other connection.
-/

namespace MpWebRtc

open Math.Criteria Math.Run

/-- `IceRole`. -/
inductive IceRole
  | controlling
  | controlled
  deriving DecidableEq

/-- `Connection::WriteState`; better states come first. -/
inductive WriteState
  | writable
  | unreliable
  | init
  | timeout
  deriving DecidableEq

/-- The value of a write state. -/
def WriteState.toNat : WriteState → Nat
  | .writable => 0
  | .unreliable => 1
  | .init => 2
  | .timeout => 3

/-- What the controller reads from a connection. -/
structure IceConnection where
  writeState : WriteState := .writable
  localType : String := "local"
  remoteType : String := "local"
  receiving : Bool := true
  receivingUnchangedSince : Int := 0
  connected : Bool := true
  remoteNomination : Nat := 0
  lastDataReceived : Int := 0
  lastPingReceived : Int := 0
  networkType : Nat := 0
  networkCost : Nat := 0
  priority : Nat := 0
  remoteGeneration : Nat := 0
  generation : Nat := 0
  pruned : Bool := false
  rtt : Int

/-- The connections and the configuration at some moment. -/
structure IceView where
  connections : ConnectionId → IceConnection
  role : IceRole
  now : Int
  networkPreference : Option Nat := none
  receivingSwitchingDelay : Option Int := none
  presumeWritableWhenFullyRelayed : Bool := false
  initialSelectDampening : Option Int := none
  initialSelectDampeningPingReceived : Option Int := none

def kRelayPortType : String := "relay"
def kPrflxPortType : String := "prflx"
def kMinImprovement : Int := 10
def kReceivingSwitchingDelay : Int := 1000

namespace IceConnection

/-- `writable`. -/
def writable (conn : IceConnection) : Bool := decide (conn.writeState = .writable)

end IceConnection

namespace IceView

variable (view : IceView)

/-- `PresumedWritable`. -/
def presumedWritable (conn : IceConnection) : Bool :=
  decide (conn.writeState = .init) && view.presumeWritableWhenFullyRelayed &&
    conn.localType == kRelayPortType &&
    (conn.remoteType == kRelayPortType || conn.remoteType == kPrflxPortType)

/-- `ReadyToSend`. -/
def readyToSend (conn : IceConnection) : Bool :=
  conn.writable || decide (conn.writeState = .unreliable) || view.presumedWritable conn

/-- `receiving_switching_delay_or_default`. -/
def receivingSwitchingDelayOrDefault : Int :=
  view.receivingSwitchingDelay.getD kReceivingSwitchingDelay

/-- The sign of a comparison: positive if the first is better. -/
def prefer (first second : Bool) : Int :=
  if first && !second then 1 else if !first && second then -1 else 0

/-- The sign of a comparison of numbers: positive if the first is larger. -/
def preferLarger (first second : Int) : Int :=
  if first > second then 1 else if first < second then -1 else 0

/-- The first comparison that decides. -/
def decideBy (first second : Int) : Int := if first ≠ 0 then first else second

/-- `CompareConnectionStates`, with the flag for a missed threshold. -/
def compareConnectionStates (a b : IceConnection)
    (receivingUnchangedThreshold : Option Int) : Int × Bool :=
  let writable := prefer (a.writable || view.presumedWritable a)
    (b.writable || view.presumedWritable b)
  let writeState := preferLarger b.writeState.toNat a.writeState.toNat
  let connected :=
    if a.writeState = .writable ∧ b.writeState = .writable then prefer a.connected b.connected
    else 0
  if writable ≠ 0 then (writable, false)
  else if writeState ≠ 0 then (writeState, false)
  else if a.receiving && !b.receiving then (1, false)
  else if !a.receiving && b.receiving then
    if receivingUnchangedThreshold.all fun threshold =>
        decide (a.receivingUnchangedSince ≤ threshold ∧ b.receivingUnchangedSince ≤ threshold)
    then (-1, false)
    else (connected, true)
  else (connected, false)

/-- `CompareCandidatePairNetworks`. -/
def compareCandidatePairNetworks (a b : IceConnection) : Int :=
  decideBy
    (prefer (view.networkPreference == some a.networkType)
      (view.networkPreference == some b.networkType))
    (preferLarger b.networkCost a.networkCost)

/-- `CompareConnectionCandidates`. The difference of the generations is a 32-bit number. -/
def compareConnectionCandidates (a b : IceConnection) : Int :=
  decideBy (view.compareCandidatePairNetworks a b) <|
    decideBy (preferLarger a.priority b.priority) <|
      decideBy
        (Int.bmod ((a.remoteGeneration + a.generation : Nat) -
          (b.remoteGeneration + b.generation : Nat)) 4294967296) <|
        prefer (!a.pruned) (!b.pruned)

/-- `CompareConnections`, with the flag for a missed threshold. -/
def compareConnections (a b : IceConnection)
    (receivingUnchangedThreshold : Option Int) : Int × Bool :=
  let states := view.compareConnectionStates a b receivingUnchangedThreshold
  let nominations :=
    if view.role = .controlled then
      decideBy (preferLarger a.remoteNomination b.remoteNomination)
        (preferLarger a.lastDataReceived b.lastDataReceived)
    else 0
  (decideBy states.1 (decideBy nominations (view.compareConnectionCandidates a b)), states.2)

/-- The order of `SortAndSwitchConnection`. -/
def sortsBefore (a b : ConnectionId) : Bool :=
  let cmp := (view.compareConnections (view.connections a) (view.connections b) none).1
  if cmp ≠ 0 then decide (cmp > 0)
  else decide ((view.connections a).rtt < (view.connections b).rtt)

/-- The second connection is preferred to the first: it is not both idle and on a worse
network, and it compares better, or as well with an RTT that is better by a margin. -/
def Prefers (a b : IceConnection) : Prop :=
  let cmp := (view.compareConnections a b
    (some (view.now - view.receivingSwitchingDelayOrDefault))).1
  ¬ (view.compareCandidatePairNetworks b a = -1 ∧ !b.receiving) ∧
    (cmp < 0 ∨ cmp = 0 ∧ b.rtt ≤ a.rtt - kMinImprovement)

end IceView

/-- The channel with its controller. -/
structure IceChannel where
  channel : Channel
  initialSelectTimestampMs : Int := 0

/-- What an event leads to: uses of connections, and packets handed on with a path. -/
inductive IceOutput
  | access (access : Access)
  | readPacket (connection : ConnectionId) (pathid : Nat)
  deriving DecidableEq

namespace IceChannel

/-- How long the selection of the first connection may wait. -/
def initialSelectDelay (view : IceView) (newConnection : ConnectionId) : Int :=
  match view.initialSelectDampeningPingReceived with
  | some delay =>
      if (view.connections newConnection).lastPingReceived > 0 then delay
      else view.initialSelectDampening.getD 0
  | none => view.initialSelectDampening.getD 0

/-- `HandleInitialSelectDampening`: the connection to select, if it is time, and the
start of the wait. The sort that is scheduled for later is an event of its own. -/
def handleInitialSelectDampening (view : IceView) (timestampMs : Int)
    (newConnection : ConnectionId) : Option ConnectionId × Int :=
  if view.initialSelectDampening.isNone ∧ view.initialSelectDampeningPingReceived.isNone then
    (some newConnection, timestampMs)
  else
    let startWait := if timestampMs = 0 then view.now else timestampMs
    if view.now ≥ startWait + initialSelectDelay view newConnection then (some newConnection, 0)
    else (none, startWait)

/-- `ShouldSwitchConnection`: the connection to switch to, if any. -/
def shouldSwitchConnection (ch : IceChannel) (view : IceView)
    (newConnection : Option ConnectionId) : Option ConnectionId × Int :=
  let stay := (none, ch.initialSelectTimestampMs)
  match newConnection with
  | none => stay
  | some new =>
      let b := view.connections new
      if !view.readyToSend b || decide (ch.channel.selectedConnection = some new) then stay
      else
        match ch.channel.selectedConnection with
        | none => handleInitialSelectDampening view ch.initialSelectTimestampMs new
        | some selected =>
            let a := view.connections selected
            let threshold := view.now - view.receivingSwitchingDelayOrDefault
            let cmp := (view.compareConnections a b (some threshold)).1
            -- a connection that does not receive and is not on a better network may only
            -- seem to be better
            if view.compareCandidatePairNetworks b a = -1 ∧ !b.receiving then stay
            else if cmp < 0 then (some new, ch.initialSelectTimestampMs)
            else if cmp > 0 then stay
            else if b.rtt ≤ a.rtt - kMinImprovement then (some new, ch.initialSelectTimestampMs)
            else stay

/-- The connections in the order of the controller; the sort is stable. -/
def sortedConnections (ch : IceChannel) (view : IceView) : List ConnectionId :=
  ch.channel.connections.insertionSort fun a b => !view.sortsBefore b a

/-- `SortAndSwitchConnection`: the best connection, if it should be selected. -/
def sortAndSwitchConnection (ch : IceChannel) (view : IceView) : Option ConnectionId × Int :=
  ch.shouldSwitchConnection view (ch.sortedConnections view).head?

/-- `MaybeSwitchSelectedConnection`. -/
def maybeSwitchSelectedConnection (ch : IceChannel) (result : Option ConnectionId × Int) :
    IceChannel :=
  { channel :=
      match result.1 with
      | none => ch.channel
      | some connection => ch.channel.switchSelectedConnection (some connection)
    initialSelectTimestampMs := result.2 }

/-- The channel with its connections in order. -/
def sorted (ch : IceChannel) (view : IceView) : IceChannel :=
  { ch with channel := { ch.channel with connections := ch.sortedConnections view } }

/-- `SortConnectionsAndUpdateState`. Pruning and the update of the state leave the
pointers alone. -/
def sortConnectionsAndUpdateState (ch : IceChannel)
    (view : IceView) : IceChannel × List IceOutput :=
  let switched := (ch.sorted view).maybeSwitchSelectedConnection (ch.sortAndSwitchConnection view)
  if switched.channel.connections.all fun id =>
      decide ((view.connections id).writeState = .timeout) then
    ({ switched with channel := switched.channel.handleAllTimedOut.1 },
      switched.channel.handleAllTimedOut.2.map .access)
  else (switched, [])

/-- The wait of `HandleInitialSelectDampening` for the first connection is over, or none
was asked for. -/
def DampeningOver (ch : IceChannel) (view : IceView) (connection : ConnectionId) : Prop :=
  (view.initialSelectDampening.isNone ∧ view.initialSelectDampeningPingReceived.isNone) ∨
    view.now ≥ (if ch.initialSelectTimestampMs = 0 then view.now else ch.initialSelectTimestampMs) +
      initialSelectDelay view connection

/-- The connection can send, and is preferred to the selected one or waited for no longer. -/
def Overtakes (ch : IceChannel) (view : IceView) (connection : ConnectionId) : Prop :=
  view.readyToSend (view.connections connection) ∧ ch.channel.selectedConnection ≠ some connection ∧
    match ch.channel.selectedConnection with
    | none => ch.DampeningOver view connection
    | some selected => view.Prefers (view.connections selected) (view.connections connection)

/-- The connection is the best one to sort: better than all before it, and none after it
is better. -/
def LeadsOrder (ch : IceChannel) (view : IceView) (connection : ConnectionId) : Prop :=
  ∃ before after, ch.channel.connections = before ++ connection :: after ∧
    (∀ other ∈ before, view.sortsBefore connection other) ∧
    ∀ other ∈ after, ¬ view.sortsBefore other connection

/-- `OnNominated`. -/
def onNominated (ch : IceChannel) (view : IceView) (connection : ConnectionId) : IceChannel :=
  if ch.channel.selectedConnection = some connection then ch
  else ch.maybeSwitchSelectedConnection (ch.shouldSwitchConnection view (some connection))

/-- The path of a packet that arrives on a connection; packets of other channels are
dropped. -/
def readLabel (ch : Channel) (connection : ConnectionId) : Option Nat :=
  if ch.selectedConnection = some connection then some 1
  else if ch.secondConnection = some connection then some 2
  else if connection ∈ ch.connections then some 1
  else none

/-- `OnReadPacket`. -/
def onReadPacket (ch : IceChannel) (view : IceView) (connection : ConnectionId) :
    IceChannel × List IceOutput :=
  let signals := (readLabel ch.channel connection).toList.map (IceOutput.readPacket connection)
  if ch.channel.selectedConnection = some connection ∨
      ch.channel.secondConnection = some connection ∨ connection ∉ ch.channel.connections ∨
      view.role ≠ .controlled then (ch, signals)
  else
    (ch.maybeSwitchSelectedConnection (ch.shouldSwitchConnection view (some connection)), signals)

end IceChannel

/-- The events of the channel, those that choose the selected connection included. -/
inductive IceEvent
  | channel (event : ChannelEvent)
  | sortConnectionsAndUpdateState (view : IceView)
  | onNominated (view : IceView) (connection : ConnectionId)
  | onReadPacket (view : IceView) (connection : ConnectionId)

variable (ch : IceChannel)

/-- One event. -/
def iceStep : IceEvent → IceChannel × List IceOutput
  | .channel event =>
      ({ ch with channel := (channelStep ch.channel event).1 },
        (channelStep ch.channel event).2.map .access)
  | .sortConnectionsAndUpdateState view => ch.sortConnectionsAndUpdateState view
  | .onNominated view connection => (ch.onNominated view connection, [])
  | .onReadPacket view connection => ch.onReadPacket view connection

namespace Channel

/-- While the second path is open, it is over another connection than the selected one.
Then packets for path 2 and for path 1 leave on different connections, and packets that
arrive on the two connections are attributed to paths 1 and 2. -/
structure TwoPaths (ch : Channel) : Prop where
  apart : ch.secondConnection ≠ ch.selectedConnection
  leave : ∀ pathid other flags now views, pathid = 2 ∨ pathid = 3 →
    other = 0 ∨ other = 1 ∨ other = 4 → ∀ first firstPath second secondPath,
      Access.send first firstPath ∈ (ch.sendPacket pathid flags now views).2 →
      Access.send second secondPath ∈ (ch.sendPacket other flags now views).2 → first ≠ second
  arrive : ∀ connection,
    (ch.selectedConnection = some connection → IceChannel.readLabel ch connection = some 1) ∧
      (ch.secondConnection = some connection → IceChannel.readLabel ch connection = some 2)

/-- The second connection is apart from the selected one. -/
def SecondApart (ch : Channel) : Prop :=
  ch.collector.mpIsSecondPathOpen → ch.secondConnection ≠ ch.selectedConnection

section Leaving

variable {ch : Channel} {views : ConnectionViews} {connection carrier : Option ConnectionId}

variable {pathid label : Nat}

theorem send_of_mem_sendOn (member : Access.send carrier label ∈ sendOn views connection pathid) :
    carrier = connection :=
  sendOn_connection views connection pathid _ member

/-- Statistics and pings send nothing. -/
theorem not_send_pingWhenDue {now sent : Int}
    {label : Nat} : Access.send carrier label ∉ (pingWhenDue now sent connection).2 := by
  unfold pingWhenDue
  split <;> simp

theorem send_mem_deliver {flags now : Int} {carrier : Option ConnectionId}
    (member : Access.send carrier label ∈ (ch.sendPacket pathid flags now views).2) :
    ∃ selected, ch.selectedConnection = some selected ∧
      Access.send carrier label ∈ ch.deliver views selected pathid := by
  unfold sendPacket at member
  split at member
  · exact absurd member List.not_mem_nil
  · split at member
    · exact absurd member List.not_mem_nil
    · rename_i selected isSelected
      refine ⟨selected, isSelected, ?_⟩
      dsimp only at member
      split at member
      · rcases List.mem_cons.mp member with read | sent
        · cases read
        · unfold sendReady at sent
          dsimp only at sent
          simp only [List.mem_append] at sent
          rcases sent with ((delivered | printed) | second) | primary
          · exact delivered
          · unfold printStatistics at printed
            split at printed
            · dsimp only at printed
              split at printed <;> simp at printed
            · simp at printed
          · unfold pingSecond at second
            split at second
            · simp at second
            · split at second
              · exact absurd second not_send_pingWhenDue
              · simp at second
          · unfold pingPrimary at primary
            split at primary
            · exact absurd primary not_send_pingWhenDue
            · simp at primary
      · simp at member

/-- Without redundant scheduling, the path id of a packet decides on its connection. -/
theorem carrier_of_send {flags now : Int}
    {carrier : Option ConnectionId} (plain : ¬ ch.collector.redScheduling)
    (member : Access.send carrier label ∈ (ch.sendPacket pathid flags now views).2) :
    carrier =
      if ch.collector.mpIsSecondPathOpen && (pathid == 2 || pathid == 3) then ch.secondConnection
      else ch.selectedConnection := by
  obtain ⟨selected, isSelected, delivered⟩ := send_mem_deliver member
  unfold deliver at delivered
  rw [if_neg plain] at delivered
  split at delivered
  · rename_i onSecond
    rw [if_pos onSecond]
    exact send_of_mem_sendOn delivered
  · rename_i onFirst
    rw [if_neg onFirst, isSelected]
    exact send_of_mem_sendOn delivered

end Leaving

/-- Distinct connections make two paths, unless every packet is sent over both. -/
theorem twoPaths_iff {ch : Channel} (isOpen : ch.collector.mpIsSecondPathOpen)
    (plain : ¬ ch.collector.redScheduling) :
    ch.TwoPaths ↔ ch.secondConnection ≠ ch.selectedConnection := by
  refine ⟨TwoPaths.apart, fun apart => ⟨apart, ?_, fun connection => ⟨fun isSelected => ?_,
    fun isSecond => ?_⟩⟩⟩
  · intro pathid other flags now views isSecond isFirst first firstPath second secondPath
      sentSecond sentFirst
    have onSecond := carrier_of_send plain sentSecond
    have onFirst := carrier_of_send plain sentFirst
    rw [if_pos (by rcases isSecond with rfl | rfl <;> simp [isOpen])] at onSecond
    rw [if_neg (by rcases isFirst with rfl | rfl | rfl <;> simp)] at onFirst
    rw [onSecond, onFirst]
    exact apart
  · exact if_pos isSelected
  · unfold IceChannel.readLabel
    rw [if_neg fun isSelected => apart (isSecond.trans isSelected.symm), if_pos isSecond]

end Channel

/-- The second connection does not become the selected one while the second path is open:
no sort puts it first, and no nomination is accepted, while it is preferred to the
selected one. Nor does the path open while the two are the same. -/
def IceEvent.KeepsApart : IceEvent → Prop
  | .channel (.switchSelectedConnection connection) =>
      ch.channel.collector.mpIsSecondPathOpen → connection ≠ ch.channel.secondConnection
  | .channel (.onConnectionDestroyed connection) =>
      ch.channel.collector.mpIsSecondPathOpen →
        ch.channel.selectedConnection = some connection → ch.channel.secondConnection ≠ none
  | .channel (.collectorChanged c) =>
      c.mpIsSecondPathOpen → ch.channel.secondConnection ≠ ch.channel.selectedConnection
  | .channel _ => True
  | .sortConnectionsAndUpdateState view =>
      ch.channel.collector.mpIsSecondPathOpen → ∀ second, ch.channel.secondConnection = some second →
        ¬ (ch.LeadsOrder view second ∧ ch.Overtakes view second)
  | .onNominated view connection =>
      ch.channel.collector.mpIsSecondPathOpen → ch.channel.secondConnection = some connection →
        ¬ ch.Overtakes view connection
  | .onReadPacket _ _ => True

/-- A sort is by a strict weak order, as `std::stable_sort` demands, and the collector is
not set to redundant scheduling, which sends every packet over both connections. -/
def IceEvent.Regular : IceEvent → Prop
  | .sortConnectionsAndUpdateState view =>
      StrictWeakOn (fun a b => view.sortsBefore a b = true) {id | id ∈ ch.channel.connections}
  | .channel (.collectorChanged c) => ¬ c.schedulerMentions "red"
  | _ => True

section Choice

variable {ch : IceChannel} {view : IceView}

/-- What the controller is asked about is switched to exactly if it overtakes. -/
theorem shouldSwitchConnection_eq_some_iff {asked : Option ConnectionId} {chosen : ConnectionId} :
    (ch.shouldSwitchConnection view asked).1 = some chosen ↔
      asked = some chosen ∧ ch.Overtakes view chosen := by
  cases asked with
  | none => simp [IceChannel.shouldSwitchConnection]
  | some new =>
      have only : (ch.shouldSwitchConnection view (some new)).1 = some new ↔
          ch.Overtakes view new := by
        unfold IceChannel.shouldSwitchConnection IceChannel.Overtakes IceChannel.DampeningOver
          IceView.Prefers IceChannel.handleInitialSelectDampening
        dsimp only
        cases ch.channel.selectedConnection with
        | none => grind
        | some selected => grind
      have same : (ch.shouldSwitchConnection view (some new)).1 = some chosen → new = chosen := by
        unfold IceChannel.shouldSwitchConnection IceChannel.handleInitialSelectDampening
        dsimp only
        cases ch.channel.selectedConnection with
        | none => grind
        | some selected => grind
      constructor
      · intro switches
        obtain rfl := same switches
        exact ⟨rfl, only.mp switches⟩
      · rintro ⟨⟨⟩, overtakes⟩
        exact only.mpr overtakes

/-- The first connection of the sorted list leads the order. -/
theorem head?_sortedConnections_iff {connection : ConnectionId}
    (order : StrictWeakOn (fun a b => view.sortsBefore a b = true)
      {id | id ∈ ch.channel.connections}) :
    (ch.sortedConnections view).head? = some connection ↔ ch.LeadsOrder view connection :=
  head?_insertionSort_iff order (by simp) fun _ => id

end Choice

section Steps

variable {ch : IceChannel}

theorem Channel.SameConnections.secondApart {before after : Channel}
    (same : before.SameConnections after) : after.SecondApart ↔ before.SecondApart := by
  unfold Channel.SecondApart Collector.mpIsSecondPathOpen
  rw [same.second, same.selected, same.isOpen]

/-- Opening takes a connection with other ports than the selected one. -/
theorem ne_selected_of_usableAsSecond {views : ConnectionViews} {selected connection : ConnectionId}
    (usable : Channel.usableAsSecond (views selected) (views connection)) :
    connection ≠ selected := by
  rintro rfl
  simp [Channel.usableAsSecond] at usable

/-- A change of state leaves the pointers alone, or opens the second path on another
connection than the selected one. -/
theorem onConnectionStateChange_apart (channel : Channel) (connection : ConnectionId)
    (views : ConnectionViews) :
    (channel.onConnectionStateChange connection views).1 = channel ∨
      channel.selectedConnection ≠ some connection ∧
        (channel.onConnectionStateChange connection views).1 =
          { channel with
            secondConnection := some connection
            collector := { channel.collector with mpSecondPath := 1 } } := by
  unfold Channel.onConnectionStateChange
  split
  · exact .inl rfl
  · rename_i selected isSelected
    dsimp only
    split_ifs with removed closed usable receiving
    · exact .inl rfl
    · refine .inr ⟨fun same => ?_, rfl⟩
      exact ne_selected_of_usableAsSecond usable (Option.some_inj.mp (same.symm.trans isSelected))
    · exact .inl rfl
    · exact .inl rfl
    · exact .inl rfl

/-- Switching keeps the paths apart exactly when it is not to the second connection. -/
theorem maybeSwitch_secondApart_iff (ch : IceChannel) (apart : ch.channel.SecondApart)
    (result : Option ConnectionId × Int) :
    (ch.maybeSwitchSelectedConnection result).channel.SecondApart ↔
      (ch.channel.collector.mpIsSecondPathOpen → ∀ second,
        ch.channel.secondConnection = some second → result.1 ≠ some second) := by
  unfold IceChannel.maybeSwitchSelectedConnection
  dsimp only
  split
  · next stays => exact iff_of_true apart fun _ second _ => by simp [stays]
  · rename_i connection switches
    rw [switches]
    refine forall_congr' fun isOpen => ⟨?_, ?_⟩
    · rintro next second isSecond ⟨⟩
      exact next isSecond
    · exact fun next same => next connection same rfl

/-- One event keeps the paths apart exactly when the second connection does not become the
selected one. -/
theorem iceStep_secondApart_iff (event : IceEvent) (regular : event.Regular ch)
    (apart : ch.channel.SecondApart) :
    (iceStep ch event).1.channel.SecondApart ↔ event.KeepsApart ch := by
  cases event with
  | channel event =>
      cases event with
      | addConnection connection => exact iff_of_true apart trivial
      | onConnectionStateChange connection views =>
          refine iff_of_true ?_ trivial
          show (ch.channel.onConnectionStateChange connection views).1.SecondApart
          rcases onConnectionStateChange_apart ch.channel connection views with same | ⟨other, opened⟩
          · rw [same]
            exact apart
          · rw [opened]
            exact fun _ same => other same.symm
      | switchSelectedConnection connection => exact forall_congr' fun _ => ne_comm
      | onConnectionDestroyed connection =>
          show (ch.channel.onConnectionDestroyed connection).SecondApart ↔ (_ → _)
          unfold Channel.onConnectionDestroyed
          dsimp only
          split
          · next isSelected => exact forall_congr' fun _ => ⟨fun apart _ => apart, fun apart => apart isSelected⟩
          · next other => exact iff_of_true apart fun _ isSelected => absurd isSelected other
      | handleAllTimedOut => exact iff_of_true apart trivial
      | collectorChanged collector => exact Iff.rfl
      | sendPacket pathid flags now views =>
          exact iff_of_true ((sendPacket_same pathid flags now views).secondApart.mpr apart) trivial
  | sortConnectionsAndUpdateState view =>
      have step : (ch.sortConnectionsAndUpdateState view).1.channel.SecondApart ↔
          ((ch.sorted view).maybeSwitchSelectedConnection
            (ch.sortAndSwitchConnection view)).channel.SecondApart := by
        unfold IceChannel.sortConnectionsAndUpdateState
        dsimp only
        split <;> rfl
      refine step.trans ((maybeSwitch_secondApart_iff (ch.sorted view) apart _).trans ?_)
      refine forall_congr' fun isOpen => forall_congr' fun second => forall_congr' fun _ => not_congr ?_
      rw [IceChannel.sortAndSwitchConnection, shouldSwitchConnection_eq_some_iff,
        head?_sortedConnections_iff regular]
  | onNominated view connection =>
      show (ch.onNominated view connection).channel.SecondApart ↔ (_ → _ → _)
      unfold IceChannel.onNominated
      split
      · rename_i isSelected
        exact iff_of_true apart fun isOpen isSecond =>
          absurd (isSecond.trans isSelected.symm) (apart isOpen)
      · refine (maybeSwitch_secondApart_iff ch apart _).trans (forall_congr' fun isOpen => ?_)
        constructor
        · exact fun other isSecond overtakes =>
            other connection isSecond (shouldSwitchConnection_eq_some_iff.mpr ⟨rfl, overtakes⟩)
        · intro keeps second isSecond chosen
          obtain ⟨⟨⟩, overtakes⟩ := shouldSwitchConnection_eq_some_iff.mp chosen
          exact keeps isSecond overtakes
  | onReadPacket view connection =>
      refine iff_of_true ?_ trivial
      show (ch.onReadPacket view connection).1.channel.SecondApart
      unfold IceChannel.onReadPacket
      dsimp only
      split
      · exact apart
      · rename_i other
        refine (maybeSwitch_secondApart_iff ch apart _).mpr fun isOpen second isSecond chosen => ?_
        obtain ⟨⟨⟩, -⟩ := shouldSwitchConnection_eq_some_iff.mp chosen
        exact other (.inr (.inl isSecond))

theorem maybeSwitch_collector (ch : IceChannel) (result : Option ConnectionId × Int) :
    (ch.maybeSwitchSelectedConnection result).channel.collector = ch.channel.collector := by
  unfold IceChannel.maybeSwitchSelectedConnection
  dsimp only
  split <;> rfl

/-- A regular event does not turn to redundant scheduling. -/
theorem iceStep_scheduler (event : IceEvent) (regular : event.Regular ch)
    (plain : ¬ ch.channel.collector.schedulerMentions "red") :
    ¬ (iceStep ch event).1.channel.collector.schedulerMentions "red" := by
  cases event with
  | channel event =>
      cases event with
      | onConnectionStateChange connection views =>
          show ¬ (ch.channel.onConnectionStateChange connection views).1.collector.schedulerMentions _
          rcases onConnectionStateChange_apart ch.channel connection views with same | ⟨-, opened⟩
          · rwa [same]
          · rwa [opened]
      | onConnectionDestroyed connection =>
          show ¬ (ch.channel.onConnectionDestroyed connection).collector.schedulerMentions _
          rwa [(onConnectionDestroyed_fields ch.channel connection).2.2]
      | sendPacket pathid flags now views =>
          show ¬ (ch.channel.sendPacket pathid flags now views).1.collector.schedulerMentions _
          rwa [Collector.schedulerMentions, (sendPacket_same pathid flags now views).scheduler]
      | collectorChanged collector => exact regular
      | _ => exact plain
  | sortConnectionsAndUpdateState view =>
      show ¬ (ch.sortConnectionsAndUpdateState view).1.channel.collector.schedulerMentions _
      have switched := maybeSwitch_collector (ch.sorted view) (ch.sortAndSwitchConnection view)
      unfold IceChannel.sortConnectionsAndUpdateState
      dsimp only
      split <;> (dsimp only [Channel.handleAllTimedOut]; rwa [switched])
  | onNominated view connection =>
      show ¬ (ch.onNominated view connection).channel.collector.schedulerMentions _
      unfold IceChannel.onNominated
      split
      · exact plain
      · rwa [maybeSwitch_collector]
  | onReadPacket view connection =>
      show ¬ (ch.onReadPacket view connection).1.channel.collector.schedulerMentions _
      unfold IceChannel.onReadPacket
      dsimp only
      split
      · exact plain
      · rwa [maybeSwitch_collector]

end Steps

/-- The channel before any connection exists. -/
def IceChannel.initial (rate1 rate2 : ℚ) : IceChannel where
  channel := Channel.initial rate1 rate2

/-- **The two paths stay two paths.** In every run without redundant scheduling, an open
second path is over another connection than the selected one in all states, and packets
leave and are labelled accordingly, exactly when the second connection never becomes the
selected one while the second path is open. -/
theorem two_paths_iff (rate1 rate2 : ℚ) (events : List IceEvent)
    (regular : Along iceStep (fun ch event => event.Regular ch) (IceChannel.initial rate1 rate2)
      events) :
    (∀ earlier later, events = earlier ++ later →
        (finalState iceStep (IceChannel.initial rate1 rate2)
          earlier).channel.collector.mpIsSecondPathOpen →
        (finalState iceStep (IceChannel.initial rate1 rate2) earlier).channel.TwoPaths) ↔
      Along iceStep (fun ch event => event.KeepsApart ch)
        (IceChannel.initial rate1 rate2) events := by
  have apart : (IceChannel.initial rate1 rate2).channel.SecondApart := fun isOpen =>
    absurd isOpen (by
      simp [IceChannel.initial, Channel.initial, Collector.initial, Collector.mpIsSecondPathOpen])
  have plain : ¬ (IceChannel.initial rate1 rate2).channel.collector.schedulerMentions "red" :=
    (by decide : ¬ decide ("red".toList <:+: "rr".toList) = true)
  have reached := regular.forall_reached_iff
    (fun ch => ¬ ch.channel.collector.schedulerMentions "red") (fun ch => ch.channel.SecondApart)
    (fun _ event plain regular => iceStep_scheduler event regular plain)
    (fun _ event _ regular apart => iceStep_secondApart_iff event regular apart) plain apart
  rw [← reached]
  refine forall_congr' fun earlier => forall_congr' fun later => forall_congr' fun whole => ?_
  refine forall_congr' fun isOpen => Channel.twoPaths_iff isOpen fun red => ?_
  rw [whole] at regular
  refine ((along_append _ _ _).mp regular).1.invariant
    (fun ch => ¬ ch.channel.collector.schedulerMentions "red")
    (fun _ event plain regular => iceStep_scheduler event regular plain) plain ?_
  rw [Collector.redScheduling, Bool.and_eq_true] at red
  exact red.1

/-- Connections that are equally fast. -/
def equallyFast : IceView where
  connections _ := { rtt := 50 }
  role := .controlling
  now := 5000

/-- A connection compares as equal to one that looks the same. -/
theorem compareConnections_self (view : IceView) (conn : IceConnection) (threshold : Option Int) :
    view.compareConnections conn conn threshold = (0, false) := by
  have prefers : ∀ first, IceView.prefer first first = 0 := by decide
  have larger : ∀ first, IceView.preferLarger first first = 0 := by
    simp [IceView.preferLarger]
  simp [IceView.compareConnections, IceView.compareConnectionStates,
    IceView.compareConnectionCandidates, IceView.compareCandidatePairNetworks, IceView.decideBy,
    prefers, larger]

theorem not_prefers_self (view : IceView) (conn : IceConnection) : ¬ view.Prefers conn conn := by
  unfold IceView.Prefers
  rw [compareConnections_self]
  rintro ⟨-, less | ⟨-, faster⟩⟩
  · exact absurd less (lt_irrefl 0)
  · exact absurd faster (by unfold kMinImprovement; omega)

/-- A second path that is not better keeps a connection of its own. -/
theorem two_paths_equally_fast :
    (finalState iceStep (IceChannel.initial 0 0) (openingEvents.map .channel ++
      [.sortConnectionsAndUpdateState equallyFast])).channel.TwoPaths := by
  have never : ∀ a b, equallyFast.sortsBefore a b = false := by
    intro a b
    rw [IceView.sortsBefore]
    erw [compareConnections_self]
    rfl
  have isSelected : (finalState iceStep (IceChannel.initial 0 0)
      (openingEvents.map .channel)).channel.selectedConnection = some 1 := by decide +kernel
  refine (two_paths_iff 0 0 _ ?_).mpr ?_ _ [] (List.append_nil _).symm (by decide +kernel)
  · exact ⟨trivial, trivial, trivial, trivial,
      .of_all_tied fun a _ b _ => by simp [never], trivial⟩
  · refine ⟨trivial, trivial, fun isOpen => absurd isOpen (by decide), trivial, ?_, trivial⟩
    rintro - second - ⟨-, -, -, overtakes⟩
    erw [isSelected] at overtakes
    exact not_prefers_self _ _ overtakes

/-- Connections 1 and 2, of which the second is faster. -/
def secondFaster : IceView where
  connections id := { rtt := if id = 2 then 30 else 50 }
  role := .controlling
  now := 5000

/-- Sorting selects the second connection because it has become faster. Packets for both
paths then leave on it, and packets that arrive on it count for path 1. -/
theorem second_connection_selected_by_sorting :
    let ch := (finalState iceStep (IceChannel.initial 0 0) (openingEvents.map .channel ++
      [.sortConnectionsAndUpdateState secondFaster])).channel
    ch.collector.mpIsSecondPathOpen ∧ ch.selectedConnection = some 2 ∧
      ch.secondConnection = some 2 ∧
      (ch.sendPacket 1 0 20 twoConnections).2.contains (.send (some 2) 1) ∧
      (ch.sendPacket 2 0 20 twoConnections).2.contains (.send (some 2) 2) ∧
      IceChannel.readLabel ch 2 = some 1 := by
  decide +kernel

end MpWebRtc
