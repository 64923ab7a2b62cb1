import MpWebRtc.IceController
import MpWebRtc.Math.Criteria

/-!
# Which connection to ping next

`BasicIceController` pings the selected connection first, then the best writable connection of each
network, then those that wait for a triggered check. Among the others the more pingable one goes
first: a connection over two relays, of these one that reaches its relay over UDP, then the one
that was pinged longest ago, then the first in the list. Of two relayed connections the test for
UDP looks at the first one only, so it prefers the second of two that both use UDP.
-/

namespace MpWebRtc

open Math.Criteria

/-- `IceCandidatePairState`. -/
inductive IceCandidatePairState
  | waiting
  | inProgress
  | succeeded
  | failed
  deriving DecidableEq

/-- What the controller reads from a connection to decide about pings. -/
structure PingConnection extends IceConnection where
  localRelayProtocol : String := ""
  remoteUsername : String := "user"
  remotePassword : String := "password"
  state : IceCandidatePairState := .waiting
  network : Nat := 0
  lastPingSent : Int := 0
  lastPingResponseReceived : Int := 0
  numPingsSent : Nat := 0
  rttSamples : Nat := 0
  pingsSinceLastResponse : List Int := []

/-- What the controller reads of its configuration to decide about pings. -/
structure PingConfig where
  prioritizeMostLikelyCandidatePairs : Bool := false
  stableWritableConnectionPingInterval : Option Int := none
  backupConnectionPingInterval : Option Int := none
  iceCheckIntervalWeakConnectivity : Option Int := none
  iceCheckMinInterval : Option Int := none
  maxOutstandingPings : Option Int := none

/-- The connections and the configuration at some moment. -/
structure PingView where
  connections : ConnectionId → PingConnection
  config : PingConfig
  completed : Bool := false
  now : Int

def kUdpProtocolName : String := "udp"
def kMinPingsAtWeakPingInterval : Nat := 3
def kWeakPingInterval : Int := 48
def kWeakOrStabilizingWritableConnectionPingInterval : Int := 900
def kStrongAndStableWritableConnectionPingInterval : Int := 2500
def kBackupConnectionPingInterval : Int := 25000
def kRttRatio : Nat := 3

namespace PingConnection

variable (conn : PingConnection)

/-- `weak`. -/
def weak : Bool := !(conn.writable && conn.receiving && conn.connected)

/-- `active`. -/
def active : Bool := decide (conn.writeState ≠ .timeout)

/-- `missing_responses`. -/
def missingResponses (now : Int) : Bool :=
  conn.pingsSinceLastResponse.head?.any fun sentTime => decide (now - sentTime > 2 * conn.rtt)

/-- `stable`. -/
def stable (now : Int) : Bool :=
  decide (conn.rttSamples > kRttRatio + 1) && !conn.missingResponses now

/-- `TooManyOutstandingPings`. -/
def tooManyOutstandingPings (maxOutstandingPings : Option Int) : Bool :=
  maxOutstandingPings.any fun most => decide (most ≤ (conn.pingsSinceLastResponse.length : Int))

/-- `IsRelayRelay`. -/
def isRelayRelay : Bool :=
  conn.localType == kRelayPortType && conn.remoteType == kRelayPortType

/-- `IsUdp`. -/
def isUdp : Bool := conn.localRelayProtocol == kUdpProtocolName

end PingConnection

/-- The controller. The pinged and the unpinged connections together are all connections; both
sets are kept in some order here and go through in the order of the pointers. -/
structure BasicIceController where
  selectedConnection : Option ConnectionId := none
  connections : List ConnectionId
  pingedConnections : List ConnectionId := []
  unpingedConnections : List ConnectionId
  nodup : connections.Nodup
  split : (pingedConnections ++ unpingedConnections).Perm connections

namespace BasicIceController

variable (ctl : BasicIceController) (view : PingView)

/-- `weak`. -/
def weak : Bool :=
  match ctl.selectedConnection with
  | none => true
  | some selected => (view.connections selected).weak

/-- `weak_ping_interval`. -/
def weakPingInterval : Int :=
  max (view.config.iceCheckIntervalWeakConnectivity.getD kWeakPingInterval)
    (view.config.iceCheckMinInterval.getD (-1))

/-- `CalculateActiveWritablePingInterval`. -/
def calculateActiveWritablePingInterval (conn : PingConnection) : Int :=
  if conn.numPingsSent < kMinPingsAtWeakPingInterval then weakPingInterval view
  else
    let stableInterval := view.config.stableWritableConnectionPingInterval.getD
      kStrongAndStableWritableConnectionPingInterval
    let weakOrStabilizingInterval :=
      min stableInterval kWeakOrStabilizingWritableConnectionPingInterval
    if !ctl.weak view && conn.stable view.now then stableInterval else weakOrStabilizingInterval

/-- `WritableConnectionPastPingInterval`. -/
def writableConnectionPastPingInterval (id : ConnectionId) : Bool :=
  decide ((view.connections id).lastPingSent +
    ctl.calculateActiveWritablePingInterval view (view.connections id) ≤ view.now)

/-- `IsBackupConnection`. -/
def isBackupConnection (id : ConnectionId) : Bool :=
  view.completed && decide (ctl.selectedConnection ≠ some id) && (view.connections id).active

/-- `IsPingable`. -/
def isPingable (id : ConnectionId) : Bool :=
  let conn := view.connections id
  if conn.remoteUsername == "" || conn.remotePassword == "" then false
  else if conn.state = .failed then false
  else if !conn.connected && !conn.writable then false
  else if conn.tooManyOutstandingPings view.config.maxOutstandingPings then false
  else if ctl.weak view then true
  else if ctl.isBackupConnection view id then
    decide (conn.rttSamples = 0) || decide (view.now ≥ conn.lastPingResponseReceived +
      view.config.backupConnectionPingInterval.getD kBackupConnectionPingInterval)
  else if !conn.active then false
  else if !conn.writable then true
  else ctl.writableConnectionPastPingInterval view id

/-- `GetBestConnectionByNetwork`: the selected connection on its network, else the first of the
network in the list. -/
def getBestConnectionByNetwork (network : Nat) : Option ConnectionId :=
  (ctl.selectedConnection.toList ++ ctl.connections).find? fun id =>
    decide ((view.connections id).network = network)

/-- The networks of the selected connection and of the registered ones, in the order of their
pointers. -/
def networks : List Nat :=
  (((ctl.selectedConnection.toList ++ ctl.connections).map fun id =>
    (view.connections id).network).dedup).insertionSort (· ≤ ·)

/-- `GetBestWritableConnectionPerNetwork`. -/
def getBestWritableConnectionPerNetwork : List ConnectionId :=
  ((ctl.networks view).filterMap (ctl.getBestConnectionByNetwork view)).filter fun id =>
    (view.connections id).writable && (view.connections id).connected

/-- `FindOldestConnectionNeedingTriggeredCheck`. -/
def findOldestConnectionNeedingTriggeredCheck : Option ConnectionId :=
  ctl.connections.foldl (fun oldest id =>
    let conn := view.connections id
    if ctl.isPingable view id && !conn.writable &&
        decide (conn.lastPingReceived > conn.lastPingSent) &&
        oldest.all fun other =>
          decide (conn.lastPingReceived < (view.connections other).lastPingReceived) then some id
    else oldest) none

/-- `MostLikelyToWork`. -/
def mostLikelyToWork (conn1 conn2 : ConnectionId) : Option ConnectionId :=
  let rr1 := (view.connections conn1).isRelayRelay
  let rr2 := (view.connections conn2).isRelayRelay
  if rr1 && !rr2 then some conn1
  else if rr2 && !rr1 then some conn2
  else if rr1 && rr2 then
    let udp1 := (view.connections conn1).isUdp
    let udp2 := (view.connections conn2).isUdp
    if udp1 && !udp2 then some conn1
    -- the first one is tested again where its negation would have to be
    else if udp2 && udp1 then some conn2
    else none
  else none

/-- `LeastRecentlyPinged`. -/
def leastRecentlyPinged (conn1 conn2 : ConnectionId) : Option ConnectionId :=
  if (view.connections conn1).lastPingSent < (view.connections conn2).lastPingSent then some conn1
  else if (view.connections conn1).lastPingSent > (view.connections conn2).lastPingSent then
    some conn2
  else none

/-- The first of two connections in the list; there is none if neither is registered. -/
def firstInList (conn1 conn2 : ConnectionId) : Option ConnectionId :=
  ctl.connections.find? fun conn => decide (conn = conn1 ∨ conn = conn2)

/-- `MorePingable`. -/
def morePingable (conn1 conn2 : ConnectionId) : Option ConnectionId :=
  let mostLikelyToWorkConn :=
    if view.config.prioritizeMostLikelyCandidatePairs then mostLikelyToWork view conn1 conn2
    else none
  mostLikelyToWorkConn.or ((leastRecentlyPinged view conn1 conn2).or (ctl.firstInList conn1 conn2))

/-- The comparison that `FindNextPingableConnection` hands to `max_element`. -/
def lessPingable (conn1 conn2 : ConnectionId) : Bool :=
  if conn1 = conn2 then false else ctl.morePingable view conn1 conn2 == some conn2

/-- The connections that are to be pinged before those that were pinged already, if any of them is
pingable; otherwise all of them start anew. -/
def refilled : BasicIceController :=
  if ctl.unpingedConnections.any (ctl.isPingable view) then ctl
  else
    { ctl with
      pingedConnections := []
      unpingedConnections := ctl.pingedConnections ++ ctl.unpingedConnections
      split := ctl.split }

/-- The pingable connections among the unpinged ones. -/
def pingableConnections : List ConnectionId :=
  (ctl.unpingedConnections.insertionSort (· ≤ ·)).filter (ctl.isPingable view)

/-- The rules that go before the choice among the unpinged connections. -/
def findPriorityConnection : Option ConnectionId :=
  let pastInterval := ctl.selectedConnection.filter fun selected =>
    (view.connections selected).connected && (view.connections selected).writable &&
      ctl.writableConnectionPastPingInterval view selected
  let bestOfNetworks :=
    if ctl.weak view then
      maxElement (fun largest next =>
          decide ((view.connections next).lastPingSent < (view.connections largest).lastPingSent))
        ((ctl.getBestWritableConnectionPerNetwork view).filter
          (ctl.writableConnectionPastPingInterval view))
    else none
  pastInterval.or (bestOfNetworks.or (ctl.findOldestConnectionNeedingTriggeredCheck view))

/-- `FindNextPingableConnection`. -/
def findNextPingableConnection : Option ConnectionId × BasicIceController :=
  match ctl.findPriorityConnection view with
  | some connection => (some connection, ctl)
  | none =>
      let ctl := ctl.refilled view
      (maxElement (ctl.lessPingable view) (ctl.pingableConnections view), ctl)

/-- Connections over two relays that reach their relay over UDP are at most one, and those that
reach it otherwise would come after it without the test for UDP. -/
def RelaysAgree : Prop :=
  ∀ conn1 ∈ ctl.connections, ∀ conn2 ∈ ctl.connections, conn1 ≠ conn2 →
    (view.connections conn1).isRelayRelay → (view.connections conn2).isRelayRelay →
    (view.connections conn1).isUdp →
      (view.connections conn2).isUdp = false ∧
        ((view.connections conn1).lastPingSent < (view.connections conn2).lastPingSent ∨
          (view.connections conn1).lastPingSent = (view.connections conn2).lastPingSent ∧
            ctl.connections.idxOf conn1 < ctl.connections.idxOf conn2)

/-- The preference for pings is an order: it does not depend on the order of its arguments, it
ranks, and whatever the order in which the pingable connections are gone through, none of them is
preferred to the one that is chosen. -/
structure PrefersInOrder : Prop where
  symmetric : ∀ conn1 ∈ ctl.connections, ∀ conn2 ∈ ctl.connections, conn1 ≠ conn2 →
    ctl.morePingable view conn1 conn2 = ctl.morePingable view conn2 conn1
  ordered : StrictWeakOn (fun conn1 conn2 => ctl.lessPingable view conn1 conn2 = true)
    {conn | conn ∈ ctl.connections}
  chosen : ∀ order, order.Perm ((ctl.refilled view).pingableConnections view) →
    ∀ best, maxElement (ctl.lessPingable view) order = some best →
      ∀ other ∈ (ctl.refilled view).pingableConnections view, other ≠ best →
        ctl.morePingable view best other = some best

/-- What decides among the registered connections when relays are left aside. -/
def recencyCriteria : List (ConnectionId → Int) :=
  [fun conn => -(view.connections conn).lastPingSent,
    fun conn => -(ctl.connections.idxOf conn : Int)]

/-- What decides, from the most to the least important. -/
def pingCriteria : List (ConnectionId → Int) :=
  let relayed conn := (view.connections conn).isRelayRelay
  let likely := [fun conn => ((relayed conn).toNat : Int),
    fun conn => ((relayed conn && (view.connections conn).isUdp).toNat : Int)]
  (if view.config.prioritizeMostLikelyCandidatePairs then likely else []) ++
    ctl.recencyCriteria view

section Preference

variable {ctl view} {conn1 conn2 : ConnectionId}

theorem refilled_connections : (ctl.refilled view).connections = ctl.connections := by
  unfold refilled
  split <;> rfl

theorem mem_of_pingable {conn : ConnectionId}
    (pingable : conn ∈ (ctl.refilled view).pingableConnections view) : conn ∈ ctl.connections := by
  have unpinged := (List.perm_insertionSort _ _).subset (List.mem_filter.mp pingable).1
  rw [← refilled_connections]
  exact (ctl.refilled view).split.subset (List.mem_append_right _ unpinged)

/-- Of two registered connections the first in the list is the one with the smaller index. -/
theorem firstInList_eq (member1 : conn1 ∈ ctl.connections) (member2 : conn2 ∈ ctl.connections) :
    ctl.firstInList conn1 conn2 =
      some
    (if ctl.connections.idxOf conn1 ≤ ctl.connections.idxOf conn2 then conn1 else conn2) := by
  unfold firstInList
  generalize ctl.connections = connections at member1 member2
  induction connections with
  | nil => cases member1
  | cons conn connections rest =>
      rw [List.find?_cons, List.idxOf_cons, List.idxOf_cons]
      by_cases first : conn = conn1
      · subst first
        simp
      · have first' : (conn == conn1) = false := beq_eq_false_iff_ne.mpr first
        by_cases second : conn = conn2
        · subst second
          simp [first, first']
        · have second' : (conn == conn2) = false := beq_eq_false_iff_ne.mpr second
          have later1 := (List.mem_cons.mp member1).resolve_left (Ne.symm first)
          have later2 := (List.mem_cons.mp member2).resolve_left (Ne.symm second)
          simpa [first, second, first', second'] using rest later1 later2

/-- Without the relays, recency and the list decide between any two registered connections. -/
theorem recency_eq (member1 : conn1 ∈ ctl.connections) (member2 : conn2 ∈ ctl.connections)
    (distinct : conn1 ≠ conn2) :
    (leastRecentlyPinged view conn1 conn2).or (ctl.firstInList conn1 conn2) =
      some (if 0 < compareBy (ctl.recencyCriteria view) conn1 conn2 then conn1 else conn2) := by
  have apart : ctl.connections.idxOf conn1 ≠ ctl.connections.idxOf conn2 := fun same =>
    distinct (List.idxOf_inj member1 |>.mp same)
  rw [firstInList_eq member1 member2]
  unfold leastRecentlyPinged recencyCriteria
  simp only [compareBy, gt_iff_lt, Int.neg_lt_neg_iff, Int.ofNat_lt]
  by_cases earlier : (view.connections conn1).lastPingSent < (view.connections conn2).lastPingSent
  · simp [earlier]
  · by_cases later : (view.connections conn2).lastPingSent < (view.connections conn1).lastPingSent
    · simp [earlier, later]
    · by_cases before : ctl.connections.idxOf conn1 < ctl.connections.idxOf conn2
      · simp [earlier, later, before, before.le]
      · simp [earlier, later, before, show ¬ ctl.connections.idxOf conn1 ≤
          ctl.connections.idxOf conn2 by omega, show ctl.connections.idxOf conn2 <
          ctl.connections.idxOf conn1 by omega]

/-- If the relays agree with the rest, the criteria decide one after the other. -/
theorem morePingable_eq
    (agree : view.config.prioritizeMostLikelyCandidatePairs → ctl.RelaysAgree view)
    (member1 : conn1 ∈ ctl.connections) (member2 : conn2 ∈ ctl.connections)
    (distinct : conn1 ≠ conn2) :
    ctl.morePingable view conn1 conn2 =
      some (if 0 < compareBy (ctl.pingCriteria view) conn1 conn2 then conn1 else conn2) := by
  unfold morePingable pingCriteria
  rw [recency_eq member1 member2 distinct]
  by_cases prioritized : view.config.prioritizeMostLikelyCandidatePairs
  · have relays := agree prioritized
    simp only [prioritized, if_true]
    unfold mostLikelyToWork
    by_cases relayed1 : (view.connections conn1).isRelayRelay
    · by_cases relayed2 : (view.connections conn2).isRelayRelay
      · by_cases udp1 : (view.connections conn1).isUdp
        · obtain ⟨udp2, -⟩ := relays conn1 member1 conn2 member2 distinct relayed1 relayed2 udp1
          simp [compareBy, relayed1, relayed2, udp1, udp2]
        · by_cases udp2 : (view.connections conn2).isUdp
          · obtain ⟨-, recent⟩ := relays conn2 member2 conn1 member1 distinct.symm relayed2
              relayed1 udp2
            have behind : ¬ 0 < compareBy (ctl.recencyCriteria view) conn1 conn2 := by
              simp only [recencyCriteria, compareBy, gt_iff_lt, Int.neg_lt_neg_iff, Int.ofNat_lt]
              split_ifs <;> omega
            simp [compareBy, relayed1, relayed2, udp1, udp2, behind]
          · simp [compareBy, relayed1, relayed2, udp1, udp2]
      · simp [compareBy, relayed1, relayed2]
    · by_cases relayed2 : (view.connections conn2).isRelayRelay
      · simp [compareBy, relayed1, relayed2]
      · simp [compareBy, relayed1, relayed2]
  · simp [prioritized]

/-- The criteria tell any two registered connections apart. -/
theorem pingCriteria_swap (member1 : conn1 ∈ ctl.connections) (distinct : conn1 ≠ conn2) :
    0 < compareBy (ctl.pingCriteria view) conn2 conn1 ↔
      ¬ 0 < compareBy (ctl.pingCriteria view) conn1 conn2 := by
  constructor
  · exact (strictWeakOn_compareBy (ctl.pingCriteria view) Set.univ).asymm conn2 (Set.mem_univ _)
      conn1 (Set.mem_univ _)
  · intro notBefore
    by_contra notBehind
    have same := compareBy_eq_zero_iff.mp (tied_compareBy_iff.mp ⟨notBefore, notBehind⟩)
    unfold pingCriteria recencyCriteria at same
    simp only [List.map_append, List.map_cons, List.map_nil] at same
    have last := (List.cons.inj (List.append_inj' same rfl).2).2
    have index : -(ctl.connections.idxOf conn1 : Int) = -(ctl.connections.idxOf conn2 : Int) :=
      (List.cons.inj last).1
    exact distinct ((List.idxOf_inj member1).mp (by omega))

theorem lessPingable_iff
    (agree : view.config.prioritizeMostLikelyCandidatePairs → ctl.RelaysAgree view)
    (member1 : conn1 ∈ ctl.connections) (member2 : conn2 ∈ ctl.connections) :
    ctl.lessPingable view conn1 conn2 ↔ 0 < compareBy (ctl.pingCriteria view) conn2 conn1 := by
  unfold lessPingable
  by_cases same : conn1 = conn2
  · subst same
    rw [if_pos rfl]
    refine iff_of_false Bool.false_ne_true ?_
    exact (strictWeakOn_compareBy (ctl.pingCriteria view) Set.univ).irrefl (Set.mem_univ _)
  · rw [if_neg same, morePingable_eq agree member1 member2 same, pingCriteria_swap member1 same,
      beq_iff_eq, Option.some_inj]
    split
    · next before => exact iff_of_false same (not_not.mpr before)
    · next behind => exact iff_of_true rfl behind

/-- If the relays agree with the rest, the preference is an order. -/
theorem prefersInOrder_of_agree
    (agree : view.config.prioritizeMostLikelyCandidatePairs → ctl.RelaysAgree view) :
    ctl.PrefersInOrder view := by
  have ordered : StrictWeakOn (fun conn1 conn2 => ctl.lessPingable view conn1 conn2 = true)
      {conn | conn ∈ ctl.connections} := by
    refine (StrictWeakOn.congr (s := {conn | conn ∈ ctl.connections})
      fun conn1 member1 conn2 member2 => lessPingable_iff agree member1 member2).mpr ?_
    exact StrictWeakOn.of_key (fun conn => (OrderDual.toDual
      ((ctl.pingCriteria view).map (· conn)))) fun _ _ _ _ => compareBy_pos_iff
  have symmetric : ∀ conn1 ∈ ctl.connections, ∀ conn2 ∈ ctl.connections, conn1 ≠ conn2 →
      ctl.morePingable view conn1 conn2 = ctl.morePingable view conn2 conn1 := by
    intro conn1 member1 conn2 member2 distinct
    rw [morePingable_eq agree member1 member2 distinct,
      morePingable_eq agree member2 member1 distinct.symm]
    simp only [pingCriteria_swap member1 distinct]
    split <;> simp_all
  refine ⟨symmetric, ordered, fun order perm best found other pingable distinct => ?_⟩
  have within : ∀ conn ∈ order, conn ∈ ctl.connections := fun conn member =>
    mem_of_pingable (perm.subset member)
  obtain ⟨member, notLess⟩ := maxElement_best ordered within found
  have inOrder := perm.symm.subset pingable
  have notLess := notLess other inOrder
  have preferred := morePingable_eq agree (within best member) (within other inOrder) distinct.symm
  unfold lessPingable at notLess
  rw [if_neg distinct.symm, preferred, beq_iff_eq, Option.some_inj] at notLess
  rw [preferred]
  split
  · rfl
  · rename_i behind
    rw [if_neg behind] at notLess
    exact absurd rfl notLess

/-- If the preference does not depend on the order of its arguments, the relays agree. -/
theorem relaysAgree_of_symmetric (prioritized : view.config.prioritizeMostLikelyCandidatePairs)
    (symmetric : ∀ conn1 ∈ ctl.connections, ∀ conn2 ∈ ctl.connections, conn1 ≠ conn2 →
      ctl.morePingable view conn1 conn2 = ctl.morePingable view conn2 conn1) :
    ctl.RelaysAgree view := by
  intro conn1 member1 conn2 member2 distinct relayed1 relayed2 udp1
  have same := symmetric conn1 member1 conn2 member2 distinct
  unfold morePingable mostLikelyToWork at same
  simp only [prioritized, relayed1, relayed2, udp1, if_true, Bool.not_true, Bool.and_false,
    Bool.false_eq_true, if_false, Bool.and_self, Bool.true_and, Bool.and_true] at same
  by_cases udp2 : (view.connections conn2).isUdp
  · simp only [udp2, Bool.not_true, Bool.false_eq_true, if_false, if_true, Option.some_or,
      Option.some_inj] at same
    exact absurd same.symm distinct
  · have udp2 : (view.connections conn2).isUdp = false := Bool.eq_false_iff.mpr udp2
    refine ⟨udp2, ?_⟩
    simp only [udp2, Bool.not_false, if_true, Bool.false_eq_true, if_false, Option.some_or,
      Option.none_or] at same
    rw [recency_eq member2 member1 distinct.symm, Option.some_inj] at same
    have behind : ¬ 0 < compareBy (ctl.recencyCriteria view) conn2 conn1 := by
      intro before
      rw [if_pos before] at same
      exact distinct same
    have apart : ctl.connections.idxOf conn1 ≠ ctl.connections.idxOf conn2 := fun same =>
      distinct (List.idxOf_inj member1 |>.mp same)
    simp only [recencyCriteria, compareBy, gt_iff_lt, Int.neg_lt_neg_iff, Int.ofNat_lt] at behind
    split_ifs at behind <;> omega

end Preference

/-- **The preference for pings is an order** exactly when connections over two relays are not told
apart by likelihood, or at most one of them reaches its relay over UDP and recency and the list
prefer it as well. -/
theorem prefersInOrder_iff (ctl : BasicIceController) (view : PingView) :
    ctl.PrefersInOrder view ↔
      (view.config.prioritizeMostLikelyCandidatePairs → ctl.RelaysAgree view) :=
  ⟨fun inOrder prioritized => relaysAgree_of_symmetric prioritized inOrder.symmetric,
    prefersInOrder_of_agree⟩

end BasicIceController

/-- Two connections over two relays each, both by way of UDP. -/
def twoUdpRelays : PingView where
  connections _ :=
    { localType := kRelayPortType
      remoteType := kRelayPortType
      localRelayProtocol := kUdpProtocolName
      writeState := .init
      rtt := 50 }
  config := { prioritizeMostLikelyCandidatePairs := true }
  now := 5000

/-- A controller of two connections that were not pinged yet. -/
def twoUnpinged : BasicIceController where
  connections := [1, 2]
  unpingedConnections := [1, 2]
  nodup := by decide
  split := .refl _

/-- Each of two connections over UDP relays is preferred to the other when it is the second
argument, so the scan ends at the last one whatever the order, and the one it passed over is
preferred to it. -/
theorem udp_relays_preferred_to_each_other :
    ¬ twoUnpinged.PrefersInOrder twoUdpRelays ∧
      twoUnpinged.morePingable twoUdpRelays 1 2 = some 2 ∧
      twoUnpinged.morePingable twoUdpRelays 2 1 = some 1 ∧
      maxElement (twoUnpinged.lessPingable twoUdpRelays) [1, 2] = some 2 ∧
      maxElement (twoUnpinged.lessPingable twoUdpRelays) [2, 1] = some 1 := by
  have first : twoUnpinged.morePingable twoUdpRelays 1 2 = some 2 := by decide
  have second : twoUnpinged.morePingable twoUdpRelays 2 1 = some 1 := by decide
  refine ⟨fun inOrder => ?_, first, second, by decide, by decide⟩
  have same := inOrder.symmetric 1 (by decide) 2 (by decide) (by decide)
  rw [first, second] at same
  cases same

end MpWebRtc
