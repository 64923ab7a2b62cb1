import MpWebRtc.Ice.PingOrder

/-!
# Pruning connections

`BasicIceController` returns connections that the channel may give up: each is compared with the
best connection of its network, or with the selected one if its network is not bound to an address.
The best connection of a network is the selected one, if it is there, and else the first in the
list. The controller does not know the second connection, and prunes it like any other.
-/

namespace MpWebRtc

open Math.Run

/-- `rtc::IPAddress`. -/
inductive IpAddress
  | unspecified
  | v4 (address : BitVec 32)
  | v6 (address : BitVec 128)
  deriving DecidableEq

/-- `kV4MappedPrefix`. -/
def kV4MappedPrefix : BitVec 128 := 0xFFFF00000000

/-- `IPIsAny`. -/
def ipIsAny : IpAddress → Bool
  | .v4 address => address == 0
  | .v6 address => address == 0 || address == kV4MappedPrefix
  | .unspecified => false

/-- What the controller reads to prune: also the addresses of the networks, and what candidates are
compared by; and `pruned_` of each connection, which is not what the controller takes as pruned. -/
structure PruneView extends PingView where
  ip : Nat → IpAddress
  role : IceRole
  isPruned : ConnectionId → Bool := fun _ => false
  networkPreference : Option Nat := none

namespace PruneView

variable (view : PruneView)

/-- What candidates are compared by. -/
def candidates : IceView where
  connections id := (view.connections id).toIceConnection
  role := view.role
  now := view.now
  networkPreference := view.networkPreference

/-- The network of a connection is not bound to an address. -/
def onAnyAddress (id : ConnectionId) : Bool :=
  ipIsAny (view.ip (view.connections id).network)

/-- A connection that another one may be pruned for: it is not weak, and ranks at least as high. -/
def outranks (best id : ConnectionId) : Bool :=
  !(view.connections best).weak &&
    decide (0 ≤ view.candidates.compareConnectionCandidates
      (view.connections best).toIceConnection (view.connections id).toIceConnection)

end PruneView

namespace PingConnection

/-- `Prune`, with `pruned_` beside the connection, which times out at once. -/
def prune (conn : PingConnection) (isPruned : Bool) : PingConnection × Bool :=
  if !isPruned || conn.active then ({ conn with writeState := .timeout }, true)
  else (conn, isPruned)

end PingConnection

namespace BasicIceController

variable (ctl : BasicIceController) (view : PruneView)

/-- What a connection is compared with. -/
def bestFor (id : ConnectionId) : Option ConnectionId :=
  if view.onAnyAddress id then ctl.selectedConnection
  else ctl.getBestConnectionByNetwork view.toPingView (view.connections id).network

/-- `PruneConnections`. -/
def pruneConnections : List ConnectionId :=
  ctl.connections.filter fun id =>
    (ctl.bestFor view id).any fun best => decide (id ≠ best) && view.outranks best id

/-- `P2PTransportChannel::PruneConnections`: what was returned is pruned. -/
def afterPruning (id : ConnectionId) : PingConnection × Bool :=
  if id ∈ ctl.pruneConnections view then (view.connections id).prune (view.isPruned id)
  else (view.connections id, view.isPruned id)

/-- The selected connection is registered, if there is one. -/
def SelectedRegistered : Prop :=
  ∀ selected, ctl.selectedConnection = some selected → selected ∈ ctl.connections

/-- The best connection of a network is the selected one; if that is elsewhere, the first one in
the list. -/
def BestOn (network : Nat) (best : ConnectionId) : Prop :=
  (view.connections best).network = network ∧
    (ctl.selectedConnection = some best ∨
      (∀ selected, ctl.selectedConnection = some selected →
        (view.connections selected).network ≠ network) ∧
      best ∈ ctl.connections ∧ ∀ other ∈ ctl.connections,
        (view.connections other).network = network →
          ctl.connections.idxOf best ≤ ctl.connections.idxOf other)

section Networks

variable {ctl view} {network : Nat} {best id : ConnectionId}

/-- The first item that passes a test is the one with the least index. -/
theorem find?_eq_some_iff_idxOf {list : List ConnectionId} {test : ConnectionId → Bool} :
    list.find? test = some best ↔
      test best ∧ best ∈ list ∧ ∀ other ∈ list, test other → list.idxOf best ≤ list.idxOf other := by
  induction list with
  | nil => simp
  | cons item list rest =>
      rw [List.find?_cons]
      cases passes : test item with
      | true =>
          simp only [Option.some_inj]
          constructor
          · rintro rfl
            refine ⟨passes, List.mem_cons_self, fun other _ _ => ?_⟩
            rw [List.idxOf_cons_self]
            exact Nat.zero_le _
          · rintro ⟨-, -, least⟩
            have zero := least item List.mem_cons_self passes
            rw [List.idxOf_cons_self, Nat.le_zero] at zero
            by_contra other
            rw [List.idxOf_cons_ne _ other] at zero
            cases zero
      | false =>
          rw [rest]
          have ne_item : ∀ other, test other → item ≠ other := by
            rintro other holds rfl
            rw [passes] at holds
            cases holds
          constructor
          · rintro ⟨holds, member, least⟩
            refine ⟨holds, List.mem_cons_of_mem _ member, fun other inList holdsOther => ?_⟩
            rw [List.idxOf_cons_ne _ (ne_item best holds),
              List.idxOf_cons_ne _ (ne_item other holdsOther)]
            exact Nat.succ_le_succ (least other
              ((List.mem_cons.mp inList).resolve_left (ne_item other holdsOther).symm) holdsOther)
          · rintro ⟨holds, member, least⟩
            refine ⟨holds, (List.mem_cons.mp member).resolve_left (ne_item best holds).symm,
              fun other inList holdsOther => ?_⟩
            have order := least other (List.mem_cons_of_mem _ inList) holdsOther
            rw [List.idxOf_cons_ne _ (ne_item best holds),
              List.idxOf_cons_ne _ (ne_item other holdsOther)] at order
            exact Nat.le_of_succ_le_succ order

/-- What is kept for a network. -/
theorem getBestConnectionByNetwork_eq_some_iff :
    ctl.getBestConnectionByNetwork view.toPingView network = some best ↔
      ctl.BestOn view network best := by
  unfold getBestConnectionByNetwork BestOn
  cases chosen : ctl.selectedConnection with
  | none =>
      simp only [Option.toList_none, List.nil_append, find?_eq_some_iff_idxOf, decide_eq_true_iff]
      simp
  | some selected =>
      simp only [Option.toList_some, List.cons_append, List.nil_append, List.find?_cons]
      by_cases here : (view.connections selected).network = network
      · simp only [here, decide_true, Option.some_inj]
        constructor
        · rintro rfl
          exact ⟨here, .inl rfl⟩
        · rintro ⟨-, same | ⟨elsewhere, -⟩⟩
          · exact same
          · exact absurd here (elsewhere selected rfl)
      · simp only [here, decide_false, find?_eq_some_iff_idxOf, decide_eq_true_iff, Option.some_inj]
        constructor
        · rintro ⟨onNetwork, least⟩
          refine ⟨onNetwork, .inr ⟨?_, least⟩⟩
          rintro other rfl
          exact here
        · rintro ⟨onNetwork, same | ⟨-, least⟩⟩
          · exact absurd (same ▸ onNetwork) here
          · exact ⟨onNetwork, least⟩

/-- A network with a connection has a best one, and it is registered. -/
theorem exists_bestOn (registered : ctl.SelectedRegistered) (member : id ∈ ctl.connections) :
    ∃ best ∈ ctl.connections, ctl.getBestConnectionByNetwork view.toPingView
      (view.connections id).network = some best := by
  have isSome : (ctl.getBestConnectionByNetwork view.toPingView
      (view.connections id).network).isSome := by
    unfold getBestConnectionByNetwork
    rw [List.find?_isSome]
    exact ⟨id, List.mem_append_right _ member, decide_eq_true rfl⟩
  obtain ⟨best, found⟩ := Option.isSome_iff_exists.mp isSome
  refine ⟨best, ?_, found⟩
  rcases (getBestConnectionByNetwork_eq_some_iff.mp found).2 with selected | ⟨-, inList, -⟩
  · exact registered best selected
  · exact inList

theorem mem_pruneConnections_iff : id ∈ ctl.pruneConnections view ↔
    id ∈ ctl.connections ∧ ∃ best, ctl.bestFor view id = some best ∧ id ≠ best ∧
      view.outranks best id := by
  unfold pruneConnections
  rw [List.mem_filter, Option.any_eq_true]
  simp only [Bool.and_eq_true, decide_eq_true_iff]

end Networks

/-- What pruning spares, and what it takes. The second connection is taken by the same rule as any
other: for the selected connection on a network without an address, and otherwise for the best one
of its network. -/
structure PrunesSparingly : Prop where
  selected : ∀ selected, ctl.selectedConnection = some selected →
    selected ∉ ctl.pruneConnections view
  networks : ∀ id ∈ ctl.connections, view.onAnyAddress id = false →
    ∃ kept ∈ ctl.connections, (view.connections kept).network = (view.connections id).network ∧
      kept ∉ ctl.pruneConnections view
  outranked : ∀ id ∈ ctl.pruneConnections view, ∃ best ∈ ctl.connections,
    view.outranks best id ∧
      if view.onAnyAddress id then ctl.selectedConnection = some best
      else (view.connections best).network = (view.connections id).network
  second : ∀ ch : Channel, ch.collector.mpIsSecondPathOpen →
    ∀ second ∈ ctl.connections, ch.secondConnection = some second →
      (second ∈ ctl.pruneConnections view ↔
        ∃ best, second ≠ best ∧ view.outranks best second ∧
          if view.onAnyAddress second then ctl.selectedConnection = some best
          else ctl.BestOn view (view.connections second).network best)

section Pruned

variable {ctl view} {id : ConnectionId}

theorem bestFor_eq_some_iff {best : ConnectionId} : ctl.bestFor view id = some best ↔
    if view.onAnyAddress id then ctl.selectedConnection = some best
    else ctl.BestOn view (view.connections id).network best := by
  unfold bestFor
  split
  · rfl
  · exact getBestConnectionByNetwork_eq_some_iff

/-- What is best on its network is not pruned. -/
theorem not_mem_of_bestFor (best : ctl.bestFor view id = some id) :
    id ∉ ctl.pruneConnections view := by
  intro pruned
  obtain ⟨-, other, isBest, distinct, -⟩ := mem_pruneConnections_iff.mp pruned
  exact distinct (Option.some_inj.mp (best.symm.trans isBest))

/-- The selected connection is compared with itself. -/
theorem bestFor_selected (isSelected : ctl.selectedConnection = some id) :
    ctl.bestFor view id = some id := by
  rw [bestFor_eq_some_iff]
  split
  · exact isSelected
  · exact ⟨rfl, .inl isSelected⟩

end Pruned

/-- **Pruning keeps a connection of every network and the selected one**, and takes none without a
better or equal one. -/
theorem pruneConnections_sparing (registered : ctl.SelectedRegistered) :
    ctl.PrunesSparingly view where
  selected selected isSelected := not_mem_of_bestFor (bestFor_selected isSelected)
  networks id member specific := by
    have onOwn : ∃ best ∈ ctl.connections, ctl.getBestConnectionByNetwork view.toPingView
        (view.connections id).network = some best := exists_bestOn registered member
    obtain ⟨best, inList, found⟩ := onOwn
    have onNetwork := (getBestConnectionByNetwork_eq_some_iff.mp found).1
    refine ⟨best, inList, onNetwork, not_mem_of_bestFor ?_⟩
    have specificBest : view.onAnyAddress best = false := by
      unfold PruneView.onAnyAddress at specific ⊢
      rw [onNetwork]
      exact specific
    unfold bestFor
    rw [specificBest, if_neg Bool.false_ne_true, onNetwork]
    exact found
  outranked id pruned := by
    obtain ⟨member, best, found, -, outranks⟩ := mem_pruneConnections_iff.mp pruned
    rw [bestFor_eq_some_iff] at found
    by_cases anyAddress : view.onAnyAddress id
    · rw [if_pos anyAddress] at found
      exact ⟨best, registered best found, outranks, by rwa [if_pos anyAddress]⟩
    · rw [if_neg anyAddress] at found
      refine ⟨best, ?_, outranks, by rw [if_neg anyAddress]; exact found.1⟩
      rcases found.2 with selected | ⟨-, inList, -⟩
      · exact registered best selected
      · exact inList
  second ch _ second member _ := by
    rw [mem_pruneConnections_iff]
    simp only [bestFor_eq_some_iff]
    constructor
    · rintro ⟨-, best, found, distinct, outranks⟩
      exact ⟨best, distinct, outranks, found⟩
    · rintro ⟨best, distinct, outranks, found⟩
      exact ⟨member, best, found, distinct, outranks⟩

end BasicIceController

theorem openingConnections_nodup : ([1, 2] : List ConnectionId).Nodup := by decide

theorem openingConnections_split : (([] : List ConnectionId) ++ [1, 2]).Perm [1, 2] := .refl _

/-- The controller after the second path has opened on connection 2. -/
def openingController : BasicIceController where
  selectedConnection := some 1
  connections := [1, 2]
  unpingedConnections := [1, 2]
  nodup := openingConnections_nodup
  split := openingConnections_split

/-- Two connections on one network. -/
def oneNetwork : PruneView where
  connections _ := { rtt := 50 }
  config := {}
  now := 5000
  ip _ := .v4 0xC0A80002
  role := .controlling

theorem openingController_registered : openingController.SelectedRegistered := by
  rintro selected ⟨⟩
  exact List.mem_cons_self

theorem one_network_pruned_sparingly : openingController.PrunesSparingly oneNetwork :=
  openingController.pruneConnections_sparing oneNetwork openingController_registered

/-- The second path is open on connection 2, which shares its network with the selected connection,
and is pruned for it. -/
theorem second_connection_pruned :
    let ch := finalState channelStep (Channel.initial 0 0) openingEvents
    ch.collector.mpIsSecondPathOpen ∧ openingController.SelectedRegistered ∧
      openingController.connections = ch.connections ∧
      openingController.selectedConnection = ch.selectedConnection ∧
      ch.secondConnection = some 2 ∧
      2 ∈ openingController.pruneConnections oneNetwork ∧
      (openingController.afterPruning oneNetwork 2).1.active = false := by
  have registered := openingController_registered
  refine ⟨by decide +kernel, registered, ?_⟩
  decide +kernel

end MpWebRtc
