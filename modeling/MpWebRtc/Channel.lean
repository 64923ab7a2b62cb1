import MpWebRtc.Collector
import MpWebRtc.Math.Run

/-!
# The second connection of the ICE channel

`P2PTransportChannel` sends path 1 over the selected connection and path 2 over
`second_connection_`. The flag that says whether path 2 may be used lives in the
collector, the pointer in the channel, and the connections that are still alive are
those registered with the ICE controller. Opening path 2 sets flag and pointer
together; destroying a connection removes it from the controller and, if it is the
selected one, from the channel, but touches neither the flag nor the pointer of
path 2.
-/

namespace MpWebRtc

open Math.Run

/-- A connection, by address. -/
abbrev ConnectionId := Nat

/-- What the channel reads from a connection. -/
structure ConnectionView where
  text : String := ""
  localPort : Nat
  remotePort : Nat
  localProtocol : String := "udp"
  remoteProtocol : String := "udp"
  receiving : Bool
  readyToSend : Bool
  rtt : Int
  sendResult : Int

/-- The views of all connections at some moment. -/
abbrev ConnectionViews := ConnectionId → ConnectionView

/-- A use of a connection pointer; `none` is a null pointer. -/
inductive Access
  | read (connection : Option ConnectionId)
  | ping (connection : Option ConnectionId)
  | send (connection : Option ConnectionId) (pathid : Nat)
  deriving DecidableEq

/-- The pointer that is used. -/
def Access.connection : Access → Option ConnectionId
  | .read connection => connection
  | .ping connection => connection
  | .send connection _ => connection

/-- The state of the channel and of its ICE controller. -/
structure Channel where
  connections : List ConnectionId := []
  selectedConnection : Option ConnectionId := none
  secondConnection : Option ConnectionId := none
  collector : Collector
  destroyPosted : List ConnectionId := []
  mpPrintTime : Int := 0
  secondPingSent : Int := 0
  primaryPingSent : Int := 0

namespace Channel

variable (ch : Channel)

/-- `AddConnection`. -/
def addConnection (connection : ConnectionId) : Channel :=
  { ch with connections := ch.connections ++ [connection] }

/-- A connection that differs from the selected one in both ports, over UDP. -/
def usableAsSecond (selected candidate : ConnectionView) : Bool :=
  selected.remotePort != candidate.remotePort && selected.localPort != candidate.localPort &&
    candidate.localProtocol == "udp" && candidate.remoteProtocol == "udp"

/-- `OnConnectionStateChange`. The branch for a second connection that stopped
receiving only logs. -/
def onConnectionStateChange (connection : ConnectionId)
    (views : ConnectionViews) : Channel × List Access :=
  match ch.selectedConnection with
  | none => (ch, [])
  | some selected =>
      if decide ("sandyreceive?= -WI".toList <:+: (views connection).text.toList) &&
          ch.secondConnection == some connection then
        (ch, [.read (some connection)])
      else if !ch.collector.mpIsSecondPathOpen then
        let reads : List Access := [.read (some connection), .read (some selected)]
        if usableAsSecond (views selected) (views connection) then
          if (views connection).receiving then
            ({ ch with
                secondConnection := some connection
                collector := { ch.collector with mpSecondPath := 1 } }, reads)
          else (ch, reads ++ List.replicate 3 (.ping (some connection)))
        else (ch, reads)
      else (ch, [.read (some connection)])

/-- `SwitchSelectedConnection`. -/
def switchSelectedConnection (connection : Option ConnectionId) : Channel :=
  { ch with selectedConnection := connection }

/-- `OnConnectionDestroyed`. -/
def onConnectionDestroyed (connection : ConnectionId) : Channel :=
  let ch := { ch with connections := ch.connections.erase connection }
  if ch.selectedConnection = some connection then ch.switchSelectedConnection none else ch

/-- `HandleAllTimedOut`: every connection is asked to destroy itself, which happens
when the posted message is handled. -/
def handleAllTimedOut : Channel × List Access :=
  ({ ch with destroyPosted := ch.destroyPosted ++ ch.connections },
    ch.connections.map fun connection => .read (some connection))

/-- Send on a connection, and fetch its error if that failed. -/
def sendOn (views : ConnectionViews) (connection : Option ConnectionId) (pathid : Nat) :
    List Access :=
  let failed := connection.any fun id => decide ((views id).sendResult ≤ 0)
  .send connection pathid :: if failed then [.read connection] else []

/-- Which connections carry a packet. -/
def deliver (views : ConnectionViews) (selected : ConnectionId) (pathid : Nat) : List Access :=
  if ch.collector.redScheduling then
    sendOn views (some selected) 1 ++ sendOn views ch.secondConnection 2
  else if ch.collector.mpIsSecondPathOpen && (pathid == 2 || pathid == 3) then
    sendOn views ch.secondConnection 2
  else sendOn views (some selected) 1

/-- The statistics printed once a second. -/
def printStatistics (now : Int) (selected : ConnectionId) : Channel × List Access :=
  if now - ch.mpPrintTime > 1000 then
    ({ ch with mpPrintTime := now },
      if ch.collector.mpIsSecondPathOpen then
        [.read (some selected), .read ch.secondConnection]
      else [.read (some selected)])
  else (ch, [])

/-- Ping a path under a full signal twice a second; the time of the last ping is kept. -/
def pingWhenDue (now sent : Int) (connection : Option ConnectionId) : Int × List Access :=
  if sent = 0 ∨ now - sent > 500 then (now, [.read connection, .ping connection])
  else (sent, [.read connection])

/-- Lift a full signal once the delay of its path has become small. -/
def liftWhenFast (c : Collector) (now sent rtt : Int) : Collector × Int :=
  let oldRtt := if c.fullsignaledRtt.tdiv 2 ≤ 0 then 1 else c.fullsignaledRtt.tdiv 2
  if sent ≠ 0 ∧ now - sent > 250 ∧ rtt ≠ 0 ∧ rtt < oldRtt then (c.mpClearFullSignal, 0)
  else (c, sent)

/-- The part of `SendPacket` for a blocked path 2. -/
def pingSecond (now : Int) (views : ConnectionViews) : Channel × List Access :=
  match ch.secondConnection with
  | none => (ch, [])
  | some second =>
      if ch.collector.fullSignaledOn 2 && ch.collector.mpIsSecondPathOpen then
        let pinged := pingWhenDue now ch.secondPingSent (some second)
        let lifted := liftWhenFast ch.collector now pinged.1 (views second).rtt
        ({ ch with collector := lifted.1, secondPingSent := lifted.2 }, pinged.2)
      else (ch, [])

/-- The part of `SendPacket` for a blocked path 1. -/
def pingPrimary (now : Int) (views : ConnectionViews) (selected : ConnectionId) :
    Channel × List Access :=
  if ch.collector.fullSignaledOn 1 && ch.collector.mpIsSecondPathOpen then
    let pinged := pingWhenDue now ch.primaryPingSent (some selected)
    let lifted := liftWhenFast ch.collector now pinged.1 (views selected).rtt
    ({ ch with collector := lifted.1, primaryPingSent := lifted.2 }, pinged.2)
  else (ch, [])

/-- The body of `SendPacket` once the selected connection is ready. -/
def sendReady (pathid : Nat) (now : Int) (views : ConnectionViews)
    (selected : ConnectionId) : Channel × List Access :=
  let printed := ch.printStatistics now selected
  let second := printed.1.pingSecond now views
  let primary := second.1.pingPrimary now views selected
  (primary.1, ch.deliver views selected pathid ++ printed.2 ++ second.2 ++ primary.2)

/-- The first packet starts the interval of the statistics. -/
def startPrinting (now : Int) : Channel :=
  { ch with mpPrintTime := if ch.mpPrintTime = 0 then now else ch.mpPrintTime }

/-- `SendPacket`. -/
def sendPacket (pathid : Nat) (flags now : Int) (views : ConnectionViews) : Channel × List Access :=
  if flags ≠ 0 then (ch.startPrinting now, [])
  else
    match ch.selectedConnection with
    | none => (ch.startPrinting now, [])
    | some selected =>
        let sent := (ch.startPrinting now).sendReady pathid now views selected
        if (views selected).readyToSend then (sent.1, .read (some selected) :: sent.2)
        else (ch.startPrinting now, [.read (some selected)])

end Channel

/-- The callbacks of the channel, and writes to the collector from elsewhere. -/
inductive ChannelEvent
  | addConnection (connection : ConnectionId)
  | onConnectionStateChange (connection : ConnectionId) (views : ConnectionViews)
  | switchSelectedConnection (connection : Option ConnectionId)
  | onConnectionDestroyed (connection : ConnectionId)
  | handleAllTimedOut
  | collectorChanged (c : Collector)
  | sendPacket (pathid : Nat) (flags now : Int) (views : ConnectionViews)

variable (ch : Channel)

/-- One event, with the pointers it uses. The collector is shared by all channels, so its
open flag can change without this channel. -/
def channelStep : ChannelEvent → Channel × List Access
  | .addConnection connection => (ch.addConnection connection, [])
  | .onConnectionStateChange connection views => ch.onConnectionStateChange connection views
  | .switchSelectedConnection connection => (ch.switchSelectedConnection connection, [])
  | .onConnectionDestroyed connection => (ch.onConnectionDestroyed connection, [])
  | .handleAllTimedOut => ch.handleAllTimedOut
  | .collectorChanged c => ({ ch with collector := c }, [])
  | .sendPacket pathid flags now views => ch.sendPacket pathid flags now views

/-- Connections are registered once, and only registered ones change state, get
selected by sorting, or are destroyed. -/
def ChannelEvent.Enabled : ChannelEvent → Prop
  | .addConnection connection => connection ∉ ch.connections
  | .onConnectionStateChange connection _ => connection ∈ ch.connections
  | .switchSelectedConnection connection => ∀ id ∈ connection, id ∈ ch.connections
  | .onConnectionDestroyed connection => connection ∈ ch.connections
  | _ => True

instance (ch : Channel) : (event : ChannelEvent) → Decidable (event.Enabled ch)
  | .addConnection connection => inferInstanceAs (Decidable (connection ∉ ch.connections))
  | .onConnectionStateChange connection _ =>
      inferInstanceAs (Decidable (connection ∈ ch.connections))
  | .switchSelectedConnection connection =>
      inferInstanceAs (Decidable (∀ id ∈ connection, id ∈ ch.connections))
  | .onConnectionDestroyed connection => inferInstanceAs (Decidable (connection ∈ ch.connections))
  | .handleAllTimedOut => .isTrue trivial
  | .collectorChanged _ => .isTrue trivial
  | .sendPacket _ _ _ _ => .isTrue trivial

/-- The pointer refers to a registered connection. -/
def Channel.Registered (connection : Option ConnectionId) : Prop :=
  ∃ id ∈ ch.connections, connection = some id

instance (ch : Channel) (connection : Option ConnectionId) :
    Decidable (ch.Registered connection) :=
  inferInstanceAs (Decidable (∃ id ∈ ch.connections, connection = some id))

/-- While the second path is open, its connection is registered. -/
def Channel.SecondLive : Prop :=
  ch.collector.mpIsSecondPathOpen → ch.Registered ch.secondConnection

/-- The event uses registered connections only. -/
def ChannelEvent.UsesRegistered (event : ChannelEvent) : Prop :=
  ∀ access ∈ (channelStep ch event).2, ch.Registered access.connection

instance (ch : Channel) : Decidable ch.SecondLive := inferInstanceAs (Decidable (_ → _))

instance (ch : Channel) (event : ChannelEvent) : Decidable (event.UsesRegistered ch) :=
  inferInstanceAs
    (Decidable (∀ access ∈ (channelStep ch event).2, ch.Registered access.connection))

/-- The event does not destroy the second connection while the second path is open, and
the path is not opened elsewhere while there is no such connection. -/
def ChannelEvent.SparesSecond : ChannelEvent → Prop
  | .onConnectionDestroyed connection =>
      ch.collector.mpIsSecondPathOpen → ch.secondConnection ≠ some connection
  | .collectorChanged c => c.mpIsSecondPathOpen → ch.Registered ch.secondConnection
  | _ => True

instance (ch : Channel) : (event : ChannelEvent) → Decidable (event.SparesSecond ch)
  | .onConnectionDestroyed connection => inferInstanceAs
      (Decidable (ch.collector.mpIsSecondPathOpen → ch.secondConnection ≠ some connection))
  | .collectorChanged c =>
      inferInstanceAs (Decidable (c.mpIsSecondPathOpen → ch.Registered ch.secondConnection))
  | .addConnection _ => .isTrue trivial
  | .onConnectionStateChange _ _ => .isTrue trivial
  | .switchSelectedConnection _ => .isTrue trivial
  | .handleAllTimedOut => .isTrue trivial
  | .sendPacket _ _ _ _ => .isTrue trivial

/-- What holds of the channel in any case. -/
structure Channel.WellFormed (ch : Channel) : Prop where
  nodup : ch.connections.Nodup
  selected : ∀ id ∈ ch.selectedConnection, id ∈ ch.connections

section Frame

variable {ch : Channel}

/-- The fields that `SendPacket` and its parts leave alone. -/
structure Channel.SameConnections (ch after : Channel) : Prop where
  connections : after.connections = ch.connections
  selected : after.selectedConnection = ch.selectedConnection
  second : after.secondConnection = ch.secondConnection
  isOpen : after.collector.mpSecondPath = ch.collector.mpSecondPath
  scheduler : after.collector.scheduler = ch.collector.scheduler

theorem Channel.SameConnections.refl (ch : Channel) : ch.SameConnections ch :=
  ⟨rfl, rfl, rfl, rfl, rfl⟩

theorem Channel.SameConnections.trans {first second third : Channel}
    (before : first.SameConnections second) (after : second.SameConnections third) :
    first.SameConnections third :=
  ⟨after.connections.trans before.connections, after.selected.trans before.selected,
    after.second.trans before.second, after.isOpen.trans before.isOpen,
    after.scheduler.trans before.scheduler⟩

theorem Channel.SameConnections.secondLive {ch after : Channel} (same : ch.SameConnections after) :
    after.SecondLive ↔ ch.SecondLive := by
  unfold Channel.SecondLive Channel.Registered Collector.mpIsSecondPathOpen
  rw [same.connections, same.second, same.isOpen]

theorem Channel.SameConnections.wellFormed {ch after : Channel} (same : ch.SameConnections after)
    (wellFormed : ch.WellFormed) : after.WellFormed :=
  ⟨same.connections ▸ wellFormed.nodup, by
    rw [same.connections, same.selected]
    exact wellFormed.selected⟩

theorem printStatistics_same (ch : Channel) (now : Int) (selected : ConnectionId) :
    ch.SameConnections (ch.printStatistics now selected).1 := by
  unfold Channel.printStatistics
  split <;> exact ⟨rfl, rfl, rfl, rfl, rfl⟩

theorem liftWhenFast_fields (c : Collector) (now sent rtt : Int) :
    (Channel.liftWhenFast c now sent rtt).1.mpSecondPath = c.mpSecondPath ∧
      (Channel.liftWhenFast c now sent rtt).1.scheduler = c.scheduler := by
  unfold Channel.liftWhenFast
  dsimp only
  rw [apply_ite Prod.fst, apply_ite Collector.mpSecondPath, apply_ite Collector.scheduler]
  exact ⟨ite_self _, ite_self _⟩

theorem pingSecond_same (now : Int) (views : ConnectionViews) :
    ch.SameConnections (ch.pingSecond now views).1 := by
  unfold Channel.pingSecond
  split
  · exact .refl ch
  · split
    · exact ⟨rfl, rfl, rfl, (liftWhenFast_fields ..).1, (liftWhenFast_fields ..).2⟩
    · exact .refl ch

theorem pingPrimary_same (now : Int) (views : ConnectionViews) (selected : ConnectionId) :
    ch.SameConnections (ch.pingPrimary now views selected).1 := by
  unfold Channel.pingPrimary
  split
  · exact ⟨rfl, rfl, rfl, (liftWhenFast_fields ..).1, (liftWhenFast_fields ..).2⟩
  · exact .refl ch

theorem sendReady_same (pathid : Nat) (now : Int) (views : ConnectionViews)
    (selected : ConnectionId) : ch.SameConnections (ch.sendReady pathid now views selected).1 :=
  ((printStatistics_same ch now selected).trans (pingSecond_same now views)).trans
    (pingPrimary_same now views selected)

theorem startPrinting_same (ch : Channel) (now : Int) : ch.SameConnections (ch.startPrinting now) :=
  ⟨rfl, rfl, rfl, rfl, rfl⟩

theorem sendPacket_same (pathid : Nat) (flags now : Int) (views : ConnectionViews) :
    ch.SameConnections (ch.sendPacket pathid flags now views).1 := by
  unfold Channel.sendPacket
  split
  · exact startPrinting_same ch now
  · split
    · exact startPrinting_same ch now
    · split
      · exact (startPrinting_same ch now).trans (sendReady_same pathid now views _)
      · exact startPrinting_same ch now

end Frame

section Uses

variable {ch : Channel}

/-- `SendPacket` uses the selected connection, and the second one only if the second
path is open. -/
def Channel.MayUse (ch : Channel) (selected : ConnectionId) (access : Access) : Prop :=
  access.connection = some selected ∨
    (ch.collector.mpIsSecondPathOpen ∧ access.connection = ch.secondConnection)

variable (views : ConnectionViews)

theorem sendOn_connection (connection : Option ConnectionId) (pathid : Nat) :
    ∀ access ∈ Channel.sendOn views connection pathid, access.connection = connection := by
  intro access member
  unfold Channel.sendOn at member
  dsimp only at member
  split at member
  · rcases List.mem_cons.mp member with rfl | member
    · rfl
    · rw [List.mem_singleton.mp member]
      rfl
  · rw [List.mem_singleton.mp member]
    rfl

theorem pingWhenDue_connection (now sent : Int) (connection : Option ConnectionId) :
    ∀ access ∈ (Channel.pingWhenDue now sent connection).2, access.connection = connection := by
  unfold Channel.pingWhenDue
  split <;> simp [Access.connection]

theorem deliver_mayUse (selected : ConnectionId) (pathid : Nat) :
    ∀ access ∈ ch.deliver views selected pathid, ch.MayUse selected access := by
  intro access member
  unfold Channel.deliver at member
  split at member
  · rename_i red
    have isOpen : ch.collector.mpIsSecondPathOpen := by
      simp only [Collector.redScheduling, Bool.and_eq_true] at red
      exact red.2
    rcases List.mem_append.mp member with first | second
    · exact .inl (sendOn_connection _ _ _ access first)
    · exact .inr ⟨isOpen, sendOn_connection _ _ _ access second⟩
  · split at member
    · rename_i secondary
      rw [Bool.and_eq_true] at secondary
      exact .inr ⟨secondary.1, sendOn_connection _ _ _ access member⟩
    · exact .inl (sendOn_connection _ _ _ access member)

variable (now : Int)

theorem printStatistics_mayUse (selected : ConnectionId) :
    ∀ access ∈ (ch.printStatistics now selected).2, ch.MayUse selected access := by
  unfold Channel.printStatistics
  split
  · dsimp only
    split
    · next isOpen => simp [Channel.MayUse, Access.connection, isOpen]
    · simp [Channel.MayUse, Access.connection]
  · simp

theorem pingSecond_mayUse (views : ConnectionViews) (selected : ConnectionId) :
    ∀ access ∈ (ch.pingSecond now views).2, ch.MayUse selected access := by
  unfold Channel.pingSecond
  split
  · simp
  · rename_i second equation
    split
    · rename_i blocked
      rw [Bool.and_eq_true] at blocked
      intro access member
      exact .inr ⟨blocked.2, (pingWhenDue_connection _ _ _ access member).trans equation.symm⟩
    · simp

theorem pingPrimary_mayUse (views : ConnectionViews) (selected : ConnectionId) :
    ∀ access ∈ (ch.pingPrimary now views selected).2, ch.MayUse selected access := by
  unfold Channel.pingPrimary
  split
  · exact fun access member => .inl (pingWhenDue_connection _ _ _ access member)
  · simp

theorem Channel.SameConnections.mayUse {ch after : Channel} (same : ch.SameConnections after)
    {selected : ConnectionId} {access : Access} :
    after.MayUse selected access ↔ ch.MayUse selected access := by
  unfold Channel.MayUse Collector.mpIsSecondPathOpen
  rw [same.second, same.isOpen]

theorem sendReady_mayUse (pathid : Nat) (now : Int) (views : ConnectionViews)
    (selected : ConnectionId) :
    ∀ access ∈ (ch.sendReady pathid now views selected).2, ch.MayUse selected access := by
  have printed := printStatistics_same ch now selected
  have second := printed.trans (pingSecond_same now views)
  simp only [Channel.sendReady, List.forall_mem_append]
  refine ⟨⟨⟨deliver_mayUse views selected pathid, printStatistics_mayUse now selected⟩, ?_⟩, ?_⟩
  · exact fun access member => printed.mayUse.mp (pingSecond_mayUse now views selected access member)
  · exact fun access member =>
      second.mayUse.mp (pingPrimary_mayUse now views selected access member)

theorem Channel.MayUse.registered {selected : ConnectionId} {access : Access}
    (uses : ch.MayUse selected access) (registered : selected ∈ ch.connections)
    (live : ch.SecondLive) : ch.Registered access.connection := by
  rcases uses with primary | ⟨isOpen, secondary⟩
  · exact ⟨selected, registered, primary⟩
  · rw [secondary]
    exact live isOpen

theorem sendPacket_registered (wellFormed : ch.WellFormed) (live : ch.SecondLive) (pathid : Nat)
    (flags now : Int) (views : ConnectionViews) :
    ∀ access ∈ (ch.sendPacket pathid flags now views).2, ch.Registered access.connection := by
  have started := startPrinting_same ch now
  unfold Channel.sendPacket
  split
  · simp
  · split
    · simp
    · rename_i selected equation
      have registered := wellFormed.selected selected equation
      have own : ch.Registered (some selected) := ⟨selected, registered, rfl⟩
      dsimp only
      split
      · rw [List.forall_mem_cons]
        refine ⟨own, fun access member => ?_⟩
        exact (started.mayUse.mp (sendReady_mayUse pathid now views selected access member))
          |>.registered registered live
      · rw [List.forall_mem_singleton]
        exact own

theorem onConnectionStateChange_registered (wellFormed : ch.WellFormed) {connection : ConnectionId}
    (views : ConnectionViews) (registered : connection ∈ ch.connections) :
    ∀ access ∈ (ch.onConnectionStateChange connection views).2,
      ch.Registered access.connection := by
  have own : ch.Registered (some connection) := ⟨connection, registered, rfl⟩
  unfold Channel.onConnectionStateChange
  split
  · simp
  · rename_i selected equation
    have other : ch.Registered (some selected) :=
      ⟨selected, wellFormed.selected selected equation, rfl⟩
    dsimp only
    split_ifs <;> simp [Access.connection, own, other]

/-- With the second connection live, an enabled event uses registered connections
only. -/
theorem usesRegistered_of_secondLive (event : ChannelEvent) (wellFormed : ch.WellFormed)
    (enabled : event.Enabled ch) (live : ch.SecondLive) : event.UsesRegistered ch := by
  cases event with
  | onConnectionStateChange connection views =>
      exact onConnectionStateChange_registered wellFormed views enabled
  | handleAllTimedOut =>
      intro access member
      obtain ⟨connection, registered, rfl⟩ := List.mem_map.mp member
      exact ⟨connection, registered, rfl⟩
  | sendPacket pathid flags now views =>
      exact sendPacket_registered wellFormed live pathid flags now views
  | _ => exact fun access member => absurd member (List.not_mem_nil)

end Uses

section Steps

variable {ch : Channel}

/-- Either nothing about the connections changes, or the second path is opened on a
registered connection. -/
theorem onConnectionStateChange_cases (ch : Channel) (connection : ConnectionId)
    (views : ConnectionViews) :
    (ch.onConnectionStateChange connection views).1 = ch ∨
      (ch.onConnectionStateChange connection views).1 =
        { ch with
          secondConnection := some connection
          collector := { ch.collector with mpSecondPath := 1 } } := by
  unfold Channel.onConnectionStateChange
  split
  · exact .inl rfl
  · dsimp only
    split_ifs <;> first | exact .inl rfl | exact .inr rfl

theorem channelStep_wellFormed (ch : Channel) (event : ChannelEvent) (wellFormed : ch.WellFormed)
    (enabled : event.Enabled ch) : (channelStep ch event).1.WellFormed := by
  obtain ⟨nodup, selected⟩ := wellFormed
  cases event with
  | addConnection connection =>
      refine ⟨List.nodup_append.mpr ⟨nodup, by simp, ?_⟩, fun id member => ?_⟩
      · intro id member other same
        rw [List.mem_singleton.mp same]
        exact fun equal => enabled (equal ▸ member)
      · exact List.mem_append_left _ (selected id member)
  | onConnectionStateChange connection views =>
      rcases onConnectionStateChange_cases ch connection views with same | opened
      · simpa [channelStep, same] using ⟨nodup, selected⟩
      · simpa [channelStep, opened] using ⟨nodup, selected⟩
  | switchSelectedConnection connection => exact ⟨nodup, enabled⟩
  | onConnectionDestroyed connection =>
      simp only [channelStep, Channel.onConnectionDestroyed]
      split
      · exact ⟨nodup.erase connection, by simp [Channel.switchSelectedConnection]⟩
      · rename_i kept
        refine ⟨nodup.erase connection, fun id member => ?_⟩
        have other : id ≠ connection := by
          rintro rfl
          exact kept member
        exact (List.mem_erase_of_ne other).mpr (selected id member)
  | handleAllTimedOut => exact ⟨nodup, selected⟩
  | collectorChanged c => exact ⟨nodup, selected⟩
  | sendPacket pathid flags now views =>
      exact (sendPacket_same pathid flags now views).wellFormed ⟨nodup, selected⟩

theorem onConnectionDestroyed_fields (ch : Channel) (connection : ConnectionId) :
    (ch.onConnectionDestroyed connection).connections = ch.connections.erase connection ∧
      (ch.onConnectionDestroyed connection).secondConnection = ch.secondConnection ∧
      (ch.onConnectionDestroyed connection).collector = ch.collector := by
  unfold Channel.onConnectionDestroyed
  dsimp only
  split <;> exact ⟨rfl, rfl, rfl⟩

/-- Destroying a connection keeps the second one live exactly when it spares it. -/
theorem onConnectionDestroyed_secondLive_iff (wellFormed : ch.WellFormed)
    (connection : ConnectionId) (live : ch.SecondLive) :
    (ch.onConnectionDestroyed connection).SecondLive ↔
      (ch.collector.mpIsSecondPathOpen → ch.secondConnection ≠ some connection) := by
  obtain ⟨connections, second, collector⟩ := onConnectionDestroyed_fields ch connection
  unfold Channel.SecondLive Channel.Registered
  rw [connections, second, collector]
  refine forall_congr' fun isOpen => ?_
  obtain ⟨id, registered, equation⟩ := live isOpen
  rw [equation]
  constructor
  · rintro ⟨other, remaining, second⟩ same
    rw [← Option.some.inj second, Option.some.inj same] at remaining
    exact absurd remaining wellFormed.nodup.not_mem_erase
  · intro spared
    refine ⟨id, (List.mem_erase_of_ne ?_).mpr registered, rfl⟩
    exact fun same => spared (congrArg some same)

/-- One enabled event keeps the second connection live exactly when it spares it. -/
theorem channelStep_secondLive_iff (ch : Channel) (event : ChannelEvent)
    (wellFormed : ch.WellFormed) (enabled : event.Enabled ch) (live : ch.SecondLive) :
    (channelStep ch event).1.SecondLive ↔ event.SparesSecond ch := by
  cases event with
  | addConnection connection =>
      refine iff_of_true (fun isOpen => ?_) trivial
      obtain ⟨id, registered, equation⟩ := live isOpen
      exact ⟨id, List.mem_append_left _ registered, equation⟩
  | onConnectionStateChange connection views =>
      refine iff_of_true ?_ trivial
      rcases onConnectionStateChange_cases ch connection views with same | opened
      · simpa only [channelStep, same] using live
      · simp only [channelStep, opened]
        exact fun _ => ⟨connection, enabled, rfl⟩
  | switchSelectedConnection connection => exact iff_of_true live trivial
  | onConnectionDestroyed connection =>
      exact onConnectionDestroyed_secondLive_iff wellFormed connection live
  | handleAllTimedOut => exact iff_of_true live trivial
  | collectorChanged c => exact Iff.rfl
  | sendPacket pathid flags now views =>
      exact iff_of_true ((sendPacket_same pathid flags now views).secondLive.mpr live) trivial

end Steps

/-- The channel before any connection exists. -/
def Channel.initial (rate1 rate2 : ℚ) : Channel where
  collector := Collector.initial rate1 rate2

/-- **Liveness of the second connection.** In every run of channel events, the second
connection is registered in all states in which the second path is open, and only
registered connections are ever used, exactly when no event destroys the second
connection while the second path is open, and the path is never opened elsewhere without
it. -/
theorem second_connection_live_iff (rate1 rate2 : ℚ) (events : List ChannelEvent)
    (enabled : Along channelStep (fun ch event => event.Enabled ch)
      (Channel.initial rate1 rate2) events) :
    ((∀ earlier later, events = earlier ++ later →
          (finalState channelStep (Channel.initial rate1 rate2) earlier).SecondLive) ∧
        Along channelStep (fun ch event => event.UsesRegistered ch)
          (Channel.initial rate1 rate2) events) ↔
      Along channelStep (fun ch event => event.SparesSecond ch)
        (Channel.initial rate1 rate2) events := by
  have wellFormed : (Channel.initial rate1 rate2).WellFormed := ⟨.nil, by simp [Channel.initial]⟩
  have live : (Channel.initial rate1 rate2).SecondLive := fun isOpen => absurd isOpen (by
    simp [Channel.initial, Collector.initial, Collector.mpIsSecondPathOpen])
  have reached := enabled.forall_reached_iff Channel.WellFormed Channel.SecondLive
    channelStep_wellFormed channelStep_secondLive_iff wellFormed live
  rw [← reached, and_iff_left_iff_imp]
  intro all
  have spares := reached.mp all
  refine (enabled.and spares).of_invariant (fun ch => ch.WellFormed ∧ ch.SecondLive) ?_ ?_
    ⟨wellFormed, live⟩
  · intro ch event ⟨formed, live⟩ ⟨enabled, spared⟩
    exact ⟨channelStep_wellFormed ch event formed enabled,
      (channelStep_secondLive_iff ch event formed enabled live).mpr spared⟩
  · intro ch event ⟨formed, live⟩ ⟨enabled, _⟩
    exact usesRegistered_of_secondLive event formed enabled live

/-- Two connections over different ports, both usable. -/
def twoConnections : ConnectionViews := fun id =>
  { localPort := id
    remotePort := id + 100
    receiving := true
    readyToSend := true
    rtt := 50
    sendResult := 1 }

/-- The second path opens on connection 2 while connection 1 is selected. -/
def openingEvents : List ChannelEvent :=
  [.addConnection 1, .addConnection 2, .switchSelectedConnection (some 1),
    .onConnectionStateChange 2 twoConnections]

/-- The connection of path 1 may go away. -/
theorem second_connection_live_when_selected_destroyed :
    (∀ earlier later, openingEvents ++ [.onConnectionDestroyed 1] = earlier ++ later →
        (finalState channelStep (Channel.initial 0 0) earlier).SecondLive) ∧
      Along channelStep (fun ch event => event.UsesRegistered ch) (Channel.initial 0 0)
        (openingEvents ++ [.onConnectionDestroyed 1]) :=
  (second_connection_live_iff 0 0 _ (by decide +kernel)).mpr (by decide +kernel)

/-- The connection of path 2 is destroyed; the next packet for path 2 is sent on it. -/
theorem packet_sent_on_destroyed_connection :
    Along channelStep (fun ch event => event.Enabled ch) (Channel.initial 0 0)
        (openingEvents ++ [.onConnectionDestroyed 2, .sendPacket 2 0 20 twoConnections]) ∧
      ¬ (finalState channelStep (Channel.initial 0 0)
          (openingEvents ++ [.onConnectionDestroyed 2])).SecondLive ∧
      ¬ Along channelStep (fun ch event => event.UsesRegistered ch) (Channel.initial 0 0)
        (openingEvents ++ [.onConnectionDestroyed 2, .sendPacket 2 0 20 twoConnections]) := by
  decide +kernel

end MpWebRtc
