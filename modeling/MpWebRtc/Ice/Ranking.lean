import MpWebRtc.IceController
import MpWebRtc.Math.SignedDifference

/-!
# Whether connections can be ranked

The sort of `SortAndSwitchConnection` compares states, on the controlled side nominations, networks
and priorities, then the sums of the generations, and last the pruned connections and the round
trips. Everything but the generations is a criterion with a number of its own. The sums of the
generations are compared by the sign of their difference, as a 32-bit number, which ranks them only
within half of their range.
-/

namespace MpWebRtc

open Math.Criteria Math.SignedDifference

namespace IceView

variable (view : IceView)

/-- What `CompareConnectionStates` compares. Connections in the same write state are both writable
or both not, so only writable ones are told apart by whether they are connected. -/
def stateCriteria : List (IceConnection → Int) :=
  [fun conn => ((conn.writable || view.presumedWritable conn).toNat : Int),
    fun conn => -(conn.writeState.toNat : Int),
    fun conn => (conn.receiving.toNat : Int),
    fun conn => ((conn.writable && conn.connected).toNat : Int)]

/-- What the controlled side compares. -/
def nominationCriteria : List (IceConnection → Int) :=
  if view.role = .controlled then
    [fun conn => (conn.remoteNomination : Int), fun conn => conn.lastDataReceived]
  else []

/-- What `CompareConnectionCandidates` compares before the generations. -/
def candidateCriteria : List (IceConnection → Int) :=
  [fun conn => ((view.networkPreference == some conn.networkType).toNat : Int),
    fun conn => -(conn.networkCost : Int), fun conn => (conn.priority : Int)]

/-- What is compared before the generations. -/
def settledCriteria : List (IceConnection → Int) :=
  view.stateCriteria ++ view.nominationCriteria ++ view.candidateCriteria

/-- What is compared after the generations. -/
def lastCriteria : List (IceConnection → Int) :=
  [fun conn => ((!conn.pruned).toNat : Int), fun conn => -conn.rtt]

/-- The sum of the generations. -/
def generations (conn : IceConnection) : Int := (conn.remoteGeneration + conn.generation : Nat)

section Cascade

variable {view} {a b : IceConnection}

theorem prefer_eq (first second : Bool) :
    prefer first second = preferLarger first.toNat second.toNat := by
  cases first <;> cases second <;> rfl

theorem preferLarger_eq_zero_iff {first second : Int} :
    preferLarger first second = 0 ↔ first = second := by
  unfold preferLarger
  split_ifs with larger smaller
  · exact iff_of_false Int.one_ne_zero larger.ne'
  · exact iff_of_false (by decide) smaller.ne
  · exact iff_of_true rfl (by omega)

theorem compareBy_cons (criterion : IceConnection → Int) (criteria : List (IceConnection → Int)) :
    compareBy (criterion :: criteria) a b =
      decideBy (preferLarger (criterion a) (criterion b)) (compareBy criteria a b) := by
  unfold decideBy preferLarger
  rw [compareBy]
  split_ifs <;> simp_all

theorem compareBy_append_eq (criteria others : List (IceConnection → Int)) :
    compareBy (criteria ++ others) a b =
      decideBy (compareBy criteria a b) (compareBy others a b) :=
  compareBy_append criteria others a b

theorem decideBy_assoc (first second third : Int) :
    decideBy (decideBy first second) third = decideBy first (decideBy second third) := by
  unfold decideBy
  split_ifs <;> simp_all

theorem decideBy_zero (first : Int) : decideBy first 0 = first := by
  unfold decideBy
  split_ifs with decides
  · rfl
  · exact (not_not.mp decides).symm

theorem decideBy_congr {first second third : Int} (same : first = 0 → second = third) :
    decideBy first second = decideBy first third := by
  unfold decideBy
  split_ifs with decides
  · rfl
  · exact same (not_not.mp decides)

theorem writeState_eq (same : preferLarger b.writeState.toNat a.writeState.toNat = 0) :
    a.writeState = b.writeState := by
  have same := preferLarger_eq_zero_iff.mp same
  generalize a.writeState = first at same ⊢
  generalize b.writeState = second at same ⊢
  cases first <;> cases second <;> first | rfl | cases same

/-- Without a threshold the states are compared one after the other. -/
theorem compareConnectionStates_eq :
    (view.compareConnectionStates a b none).1 = compareBy view.stateCriteria a b := by
  have cascade : (view.compareConnectionStates a b none).1 =
      decideBy (prefer (a.writable || view.presumedWritable a)
          (b.writable || view.presumedWritable b))
        (decideBy (preferLarger b.writeState.toNat a.writeState.toNat)
          (decideBy (prefer a.receiving b.receiving)
            (if a.writeState = .writable ∧ b.writeState = .writable then
              prefer a.connected b.connected else 0))) := by
    unfold compareConnectionStates decideBy
    cases a.receiving <;> cases b.receiving <;> simp [prefer] <;> split_ifs <;> rfl
  have reversed : preferLarger (-(a.writeState.toNat : Int)) (-(b.writeState.toNat : Int)) =
      preferLarger b.writeState.toNat a.writeState.toNat := by
    unfold preferLarger
    simp only [gt_iff_lt, Int.neg_lt_neg_iff]
  rw [cascade]
  unfold stateCriteria
  rw [compareBy_cons, compareBy_cons, compareBy_cons, compareBy_cons, prefer_eq, prefer_eq, reversed]
  refine decideBy_congr fun _ => decideBy_congr fun same => decideBy_congr fun _ => ?_
  have same := writeState_eq same
  rw [compareBy, decideBy_zero, ← prefer_eq]
  unfold IceConnection.writable
  rw [← same]
  by_cases isWritable : a.writeState = .writable
  · simp [isWritable]
  · simp [isWritable, prefer]

theorem preferLarger_neg (first second : Int) :
    preferLarger (-first) (-second) = preferLarger second first := by
  unfold preferLarger
  simp only [gt_iff_lt, Int.neg_lt_neg_iff]

theorem nominations_eq :
    (if view.role = .controlled then
      decideBy (preferLarger a.remoteNomination b.remoteNomination)
        (preferLarger a.lastDataReceived b.lastDataReceived)
    else 0) = compareBy view.nominationCriteria a b := by
  unfold nominationCriteria
  split
  · rw [compareBy_cons, compareBy_cons, compareBy, decideBy_zero]
  · rfl

/-- Candidates are compared by the criteria, then the generations, then by who is pruned. -/
theorem compareConnectionCandidates_eq :
    view.compareConnectionCandidates a b =
      decideBy (compareBy view.candidateCriteria a b)
        (decideBy (Int.bmod (generations a - generations b) 4294967296)
          (prefer (!a.pruned) (!b.pruned))) := by
  unfold compareConnectionCandidates compareCandidatePairNetworks candidateCriteria generations
  rw [compareBy_cons, compareBy_cons, compareBy_cons, compareBy, decideBy_zero, prefer_eq,
    preferLarger_neg, decideBy_assoc, decideBy_assoc, decideBy_assoc]

/-- Connections are compared by the criteria, then the generations, then by who is pruned. -/
theorem compareConnections_eq :
    (view.compareConnections a b none).1 =
      decideBy (compareBy view.settledCriteria a b)
        (decideBy (Int.bmod (generations a - generations b) 4294967296)
          (prefer (!a.pruned) (!b.pruned))) := by
  unfold compareConnections settledCriteria
  dsimp only
  rw [compareConnectionStates_eq, nominations_eq, compareConnectionCandidates_eq,
    compareBy_append_eq, compareBy_append_eq, decideBy_assoc, decideBy_assoc]

end Cascade

/-- What is compared after the generations puts one connection before the other. -/
def later (a b : ConnectionId) : Prop :=
  0 < compareBy lastCriteria (view.connections a) (view.connections b)

theorem pos_decideBy_iff {first second : Int} :
    0 < decideBy first second ↔ 0 < first ∨ first = 0 ∧ 0 < second := by
  unfold decideBy
  split_ifs <;> omega

/-- The comparison of the sort: the criteria, and among those they leave tied the generations. -/
theorem sortsBefore_iff (a b : ConnectionId) :
    view.sortsBefore a b ↔
      cascade (fun a b => 0 < compareBy view.settledCriteria (view.connections a)
          (view.connections b))
        (byDifference 2147483648 (fun id => generations (view.connections id)) view.later) a b := by
  have cmp : view.sortsBefore a b ↔
      0 < decideBy (view.compareConnections (view.connections a) (view.connections b) none).1
        (preferLarger (view.connections b).rtt (view.connections a).rtt) := by
    unfold sortsBefore decideBy
    dsimp only
    split_ifs
    · exact decide_eq_true_iff
    · unfold preferLarger
      rw [decide_eq_true_iff]
      split_ifs <;> omega
  have last : compareBy lastCriteria (view.connections a) (view.connections b) =
      decideBy (prefer (!(view.connections a).pruned) (!(view.connections b).pruned))
        (preferLarger (view.connections b).rtt (view.connections a).rtt) := by
    unfold lastCriteria
    rw [compareBy_cons, compareBy_cons, compareBy, decideBy_zero, prefer_eq, preferLarger_neg]
  have tied : Tied (fun a b => 0 < compareBy view.settledCriteria (view.connections a)
        (view.connections b)) a b ↔
      compareBy view.settledCriteria (view.connections a) (view.connections b) = 0 :=
    tied_compareBy_iff
  rw [cmp, compareConnections_eq, decideBy_assoc, decideBy_assoc, pos_decideBy_iff,
    pos_decideBy_iff, cascade, tied, byDifference, later, last]

/-- The values of everything that is compared before the generations. -/
def settled (conn : IceConnection) : List Int := view.settledCriteria.map (· conn)

/-- The connections that only the generations or what comes after them can tell apart from one of
them. -/
def settledLike (connections : List ConnectionId) (first : ConnectionId) : List ConnectionId :=
  connections.filter fun other =>
    decide (view.settled (view.connections other) = view.settled (view.connections first))

/-- Among connections that are alike before the generations, the sums of the generations lie within
half the range of 32-bit numbers, counted from one of them, or any two of them are half the range
apart, or equal in connections that are alike after the generations as well. -/
def GenerationsInStep (connections : List ConnectionId) : Prop :=
  ∀ first ∈ connections,
    WithinHalf 2147483648 (fun id => generations (view.connections id))
        {other | other ∈ view.settledLike connections first} ∨
      Opposite 2147483648 (fun id => generations (view.connections id)) view.later
        {other | other ∈ view.settledLike connections first}

/-- The comparison of the sort ranks the connections, and the sort finds a best one. -/
structure Ranks (connections : List ConnectionId) : Prop where
  irreflexive : ∀ a ∈ connections, view.sortsBefore a a = false
  asymmetric : ∀ a ∈ connections, ∀ b ∈ connections, view.sortsBefore a b →
    view.sortsBefore b a = false
  transitive : ∀ a ∈ connections, ∀ b ∈ connections, ∀ c ∈ connections,
    view.sortsBefore a b → view.sortsBefore b c → view.sortsBefore a c
  incomparability : ∀ a ∈ connections, ∀ b ∈ connections, ∀ c ∈ connections,
    view.sortsBefore a b = false ∧ view.sortsBefore b a = false →
    view.sortsBefore b c = false ∧ view.sortsBefore c b = false →
    view.sortsBefore a c = false ∧ view.sortsBefore c a = false
  sorted : ∀ ch : IceChannel, ch.channel.connections = connections →
    (ch.sortedConnections view).Pairwise fun a b => view.sortsBefore b a = false
  best : ∀ ch : IceChannel, ch.channel.connections = connections →
    ∀ top, (ch.sortedConnections view).head? = some top →
      ∀ a ∈ connections, view.sortsBefore a top = false

section Order

variable {view} {connections : List ConnectionId}

theorem settled_eq_iff {a b : IceConnection} :
    view.settled a = view.settled b ↔ compareBy view.settledCriteria a b = 0 :=
  compareBy_eq_zero_iff.symm

/-- The comparison is a strict weak order exactly when the generations are in step. -/
theorem strictWeakOn_sortsBefore_iff :
    StrictWeakOn (fun a b => view.sortsBefore a b = true) {id | id ∈ connections} ↔
      view.GenerationsInStep connections := by
  have settledFirst : StrictWeakOn (fun a b => 0 < compareBy view.settledCriteria
      (view.connections a) (view.connections b)) {id | id ∈ connections} :=
    .of_key (fun id => view.settled (view.connections id)) fun _ _ _ _ => compareBy_pos_iff
  have afterwards : ∀ s : Set ConnectionId, StrictWeakOn view.later s := by
    intro s
    refine .of_key (fun id : ConnectionId => lastCriteria.map (· (view.connections id)))
      fun a _ b _ => ?_
    exact compareBy_pos_iff
  refine (StrictWeakOn.congr fun a _ b _ => view.sortsBefore_iff a b).trans
    (settledFirst.cascade_iff.trans (forall₂_congr fun first member => ?_))
  have group : {other ∈ {id | id ∈ connections} | Tied (fun a b => 0 < compareBy
        view.settledCriteria (view.connections a) (view.connections b)) first other} =
      {other | other ∈ view.settledLike connections first} := by
    ext other
    have tied : Tied (fun a b => 0 < compareBy view.settledCriteria (view.connections a)
          (view.connections b)) first other ↔
        compareBy view.settledCriteria (view.connections first) (view.connections other) = 0 :=
      tied_compareBy_iff
    simp only [Set.mem_ofPred_eq, settledLike, List.mem_filter, decide_eq_true_iff, tied]
    rw [← settled_eq_iff, eq_comm (a := view.settled (view.connections first))]
  rw [group]
  have nonempty : view.settledLike connections first ≠ [] :=
    List.ne_nil_of_mem (List.mem_filter.mpr ⟨member, decide_eq_true rfl⟩)
  exact strictWeakOn_byDifference_iff (by decide) nonempty (afterwards _)

/-- **Connections are ranked** exactly when, among those that are alike in states, nominations,
networks and priorities, the generations are in step. -/
theorem ranks_iff (view : IceView) (connections : List ConnectionId) :
    view.Ranks connections ↔ view.GenerationsInStep connections := by
  rw [← strictWeakOn_sortsBefore_iff]
  have flag : ∀ a b, (!view.sortsBefore b a) = true ↔ ¬ view.sortsBefore b a = true := fun a b => by
    rw [Bool.not_eq_true', Bool.not_eq_true]
  constructor
  · intro ranks
    refine ⟨fun a inA b inB less => ?_, ranks.transitive, fun a inA b inB c inC left right => ?_⟩
    · rw [ranks.asymmetric a inA b inB less]
      exact Bool.false_ne_true
    · simp only [Bool.not_eq_true] at left right ⊢
      exact ranks.incomparability a inA b inB c inC left right
  · intro order
    refine ⟨fun a inA => ?_, fun a inA b inB less => ?_, order.trans,
      fun a inA b inB c inC left right => ?_, fun ch same => ?_, fun ch same top isTop a inA => ?_⟩
    · exact Bool.not_eq_true _ ▸ order.irrefl inA
    · exact Bool.not_eq_true _ ▸ order.asymm a inA b inB less
    · have tied := order.tied_trans a inA b inB c inC
      simp only [Bool.not_eq_true] at tied
      exact tied left right
    · have within : ∀ a ∈ ch.channel.connections, a ∈ {id | id ∈ connections} :=
        fun a member => same ▸ member
      refine (pairwise_insertionSort order flag within).imp fun notBefore => ?_
      exact Bool.not_eq_true _ ▸ notBefore
    · have within : ∀ a ∈ ch.channel.connections, a ∈ {id | id ∈ connections} :=
        fun a member => same ▸ member
      have notBefore := not_before_head order flag within isTop a (same ▸ inA)
      exact Bool.not_eq_true _ ▸ notBefore

end Order

end IceView

/-- Three connections that differ in the generation of the remote candidate only. -/
def threeGenerations : IceView where
  connections id := { remoteGeneration := id * 1500000000, rtt := 50 }
  role := .controlling
  now := 5000

/-- Of three generations each is preferred to the one before, and the first to the last. -/
theorem generations_go_around :
    ¬ threeGenerations.Ranks [0, 1, 2] ∧
      threeGenerations.sortsBefore 1 0 ∧ threeGenerations.sortsBefore 2 1 ∧
      threeGenerations.sortsBefore 0 2 := by
  refine ⟨fun ranks => ?_, by decide, by decide, by decide⟩
  have first := ranks.transitive 2 (by decide) 1 (by decide) 0 (by decide) (by decide) (by decide)
  exact absurd first (by decide)

end MpWebRtc
