import MpWebRtc.Rtcp.BoundingLoop

/-!
# The bounding set is the lower envelope

As long as no steeper candidate has a lower bitrate than the last selected item, the unsigned
difference of the bitrates is their difference, and the packet rates of the loop are those where the
lines cross. Then the bounding set is a stack of layers that covers the candidates which were
examined, and in the end it has the lines of the envelope.
-/

namespace MpWebRtc

open Math.Checked Math.LowerEnvelope

/-- The bitrate that is left for media, over the packet rate. -/
def TmmbItem.line (item : TmmbItem) : Line ℚ := ⟨item.bitrateBps.toNat, item.packetOverhead.toNat⟩

theorem TmmbItem.line_inj {item other : TmmbItem} (same : item.line = other.line) :
    item.bitrateBps = other.bitrateBps ∧ item.packetOverhead = other.packetOverhead := by
  have height : (item.bitrateBps.toNat : ℚ) = other.bitrateBps.toNat := congrArg Line.height same
  have slope : (item.packetOverhead.toNat : ℚ) = other.packetOverhead.toNat :=
    congrArg Line.slope same
  exact ⟨UInt64.toNat_inj.mp (Nat.cast_injective height),
    UInt16.toNat_inj.mp (Nat.cast_injective slope)⟩

namespace BoundingSet

variable (items : List TmmbItem)

/-- The lines of the candidates. -/
def lines : List (Line ℚ) := (remaining items).map TmmbItem.line

/-- Steeper than every candidate with the lowest bitrate. -/
def Steeper (item : TmmbItem) : Prop :=
  ∀ low ∈ remaining items, (∀ other ∈ remaining items, low.bitrateBps ≤ other.bitrateBps) →
    low.packetOverhead < item.packetOverhead

/-- The items with less overhead. -/
def flatter (item : TmmbItem) : List TmmbItem :=
  items.filter fun other => decide (other.packetOverhead < item.packetOverhead)

/-- A candidate that is steeper than those with the lowest bitrate has no lower bitrate than what is
on the envelope of the flatter ones. -/
def Rising : Prop :=
  ∀ item ∈ remaining items, Steeper items item → ∀ other ∈ remaining (flatter items item),
    OnEnvelope (lines (flatter items item)) other.line → other.bitrateBps ≤ item.bitrateBps

section Lines

variable {items : List TmmbItem} {item other : TmmbItem}

theorem mem_lines
    {line : Line ℚ} : line ∈ lines items ↔ ∃ item ∈ remaining items, item.line = line :=
  List.mem_map

theorem mem_flatter :
    other ∈ flatter items item ↔ other ∈ items ∧ other.packetOverhead < item.packetOverhead := by
  unfold flatter
  rw [List.mem_filter, decide_eq_true_iff]

theorem mem_remaining_flatter :
    other ∈ remaining (flatter items item) ↔
      other ∈ remaining items ∧ other.packetOverhead < item.packetOverhead := by
  rw [mem_remaining, mem_remaining, mem_flatter, and_right_comm]

theorem line_falls : 0 ≤ item.line.slope := Nat.cast_nonneg _

theorem line_steep (more : other.packetOverhead < item.packetOverhead) :
    other.line.slope < item.line.slope :=
  Nat.cast_lt.mpr (UInt16.lt_iff_toNat_lt.mp more)

theorem line_positive (candidate : item.isCandidate = true) : 0 < item.line.height := by
  have some : item.bitrateBps ≠ 0 := bne_iff_ne.mp candidate
  have : item.bitrateBps.toNat ≠ 0 := fun zero => some (UInt64.toNat_inj.mp zero)
  exact Nat.cast_pos.mpr (Nat.pos_of_ne_zero this)

/-- A line with a lower bitrate and more overhead is the lower one. -/
theorem value_le (lower : item.bitrateBps ≤ other.bitrateBps)
    (more : other.packetOverhead ≤ item.packetOverhead) {x : ℚ} (positive : 0 < x) :
    item.line.value x ≤ other.line.value x := by
  have height : item.line.height ≤ other.line.height :=
    Nat.cast_le.mpr (UInt64.le_iff_toNat_le.mp lower)
  have slope : other.line.slope ≤ item.line.slope :=
    Nat.cast_le.mpr (UInt16.le_iff_toNat_le.mp more)
  have := mul_le_mul_of_nonneg_right slope positive.le
  unfold Line.value
  linarith

end Lines

section Rates

variable {cur back : TmmbItem}

/-- Where the lines cross, if the difference of the bitrates does not wrap. -/
theorem rate_eq (flat : back.bitrateBps ≤ cur.bitrateBps) :
    ((cur.bitrateBps - back.bitrateBps).toNat /
      ((cur.packetOverhead.toNat : ℚ) - back.packetOverhead.toNat)) =
      back.line.crossing cur.line := by
  unfold Line.crossing TmmbItem.line
  rw [UInt64.toNat_sub_of_le _ _ flat, Nat.cast_sub (UInt64.le_iff_toNat_le.mp flat)]

/-- A rate is less than the largest float. -/
theorem rate_lt (more : back.packetOverhead < cur.packetOverhead) :
    ((cur.bitrateBps - back.bitrateBps).toNat /
      ((cur.packetOverhead.toNat : ℚ) - back.packetOverhead.toNat)) < floatMax := by
  have one : (1 : ℚ) ≤ cur.packetOverhead.toNat - back.packetOverhead.toNat := by
    have := UInt16.lt_iff_toNat_lt.mp more
    rw [le_sub_iff_add_le]
    exact_mod_cast (show 1 + back.packetOverhead.toNat ≤ cur.packetOverhead.toNat by omega)
  have bounded : ((cur.bitrateBps - back.bitrateBps).toNat : ℚ) < 2 ^ 64 :=
    mod_cast (cur.bitrateBps - back.bitrateBps).toNat_lt
  have fits : (2 ^ 64 : ℚ) < floatMax := by
    unfold floatMax
    norm_num
  refine lt_trans (lt_of_le_of_lt (div_le_self (Nat.cast_nonneg _) one) bounded) fits

/-- The line is above zero up to where it crosses the axis. -/
theorem lt_maxPacketRate_iff (candidate : back.isCandidate = true) {rate : ℚ}
    (bounded : rate < floatMax) : rate < maxPacketRate back ↔ 0 < back.line.value rate := by
  unfold maxPacketRate
  split_ifs with zero
  · have flat : back.line.value rate = back.line.height := by
      unfold Line.value TmmbItem.line
      rw [zero]
      simp
    rw [flat]
    exact iff_of_true bounded (line_positive candidate)
  · have positive : (0 : ℚ) < back.packetOverhead.toNat := by
      have : back.packetOverhead.toNat ≠ 0 := fun none => zero (UInt16.toNat_inj.mp none)
      exact Nat.cast_pos.mpr (Nat.pos_of_ne_zero this)
    rw [lt_div_iff₀ positive, ← sub_pos, mul_comm]
    rfl

end Rates

/-- The item as a layer of the stack. -/
def Selected.layer (selected : Selected) : Layer ℚ := ⟨selected.item.line, selected.intersection⟩

/-- What the loop has settled: the candidates with less overhead than those that are left. -/
def settled (items rest : List TmmbItem) : List TmmbItem :=
  items.filter fun item => rest.all fun next => decide (item.packetOverhead < next.packetOverhead)

section Settled

variable {items rest : List TmmbItem} {item : TmmbItem}

theorem mem_settled :
    item ∈ settled items rest ↔
      item ∈ items ∧ ∀ next ∈ rest, item.packetOverhead < next.packetOverhead := by
  unfold settled
  rw [List.mem_filter, List.all_eq_true]
  simp only [decide_eq_true_iff]

theorem mem_remaining_settled :
    item ∈ remaining (settled items rest) ↔
      item ∈ remaining items ∧ ∀ next ∈ rest, item.packetOverhead < next.packetOverhead := by
  rw [mem_remaining, mem_remaining, mem_settled, and_right_comm]

theorem settled_nil : settled items [] = items := List.filter_eq_self.mpr fun _ _ => rfl

theorem settled_cons (ascending : Ascending (item :: rest)) :
    settled items (item :: rest) = flatter items item := by
  refine List.filter_congr fun other _ => ?_
  rw [List.all_cons, Bool.and_eq_left_iff_imp]
  intro less
  rw [List.all_eq_true]
  intro next member
  exact decide_eq_true (UInt16.lt_trans (of_decide_eq_true less)
    ((List.pairwise_cons.mp ascending).1 next member))

end Settled

namespace Loop

/-- What holds of the loop as long as no difference of the bitrates wraps. `lowest` are the
candidates that were left by step 2. -/
structure Bounds (requests lowest : List TmmbItem) (loop : Loop) : Prop where
  members : ∀ selected ∈ loop.boundingSet, selected.item ∈ remaining requests
  rates : ∀ selected ∈ loop.boundingSet, selected.maxPacketRate = maxPacketRate selected.item
  suffix : loop.pending <:+ lowest
  steeper : ∀ item ∈ loop.pending, Steeper requests item
  layered : Layered (loop.boundingSet.map Selected.layer)
  covers : Covers ((loop.boundingSet.map Selected.layer).map Layer.line ++
    loop.examined.map TmmbItem.line) (lines (settled requests (remaining loop.candidates)))
  flat : ∀ item ∈ loop.examined, ∀ selected ∈ loop.boundingSet,
    selected.item.bitrateBps ≤ item.bitrateBps

variable {requests lowest : List TmmbItem} {front : TmmbItem} {capacity : Nat} {loop : Loop}

variable {rest : List TmmbItem}

theorem Orderly.steep (orderly : loop.Orderly front capacity) {cur : TmmbItem}
    (shape : loop.pending = cur :: rest) :
    Ascending (cur :: rest) ∧
      ∀ selected ∈ loop.boundingSet, selected.item.packetOverhead < cur.packetOverhead := by
  have ascending := orderly.ascending
  rw [shape] at ascending
  obtain ⟨-, behind, apart⟩ := List.pairwise_append.mp ascending
  refine ⟨behind, fun selected member => apart selected.item ?_ cur (.head _)⟩
  rw [List.mem_reverse]
  exact List.mem_map_of_mem member

/-- Before a candidate is taken, those with the same overhead are above it. -/
theorem Bounds.reached (bounds : loop.Bounds requests lowest)
    (isLowest : Lowest (remaining requests) lowest) {cur : TmmbItem} {rest : List TmmbItem}
    (shape : loop.pending = cur :: rest) {item : TmmbItem} (member : item ∈ remaining requests)
    (less : ∀ next ∈ rest, item.packetOverhead < next.packetOverhead)
    (more : ¬ item.packetOverhead < cur.packetOverhead) :
    cur.packetOverhead = item.packetOverhead ∧ cur.bitrateBps ≤ item.bitrateBps := by
  obtain ⟨done, whole⟩ := bounds.suffix
  rw [shape] at whole
  obtain ⟨low, isLow, overhead, bitrate⟩ := isLowest.reached item member
  rw [← whole, List.mem_append, List.mem_cons] at isLow
  rcases isLow with isDone | rfl | isLeft
  · have ascending := isLowest.ascending
    rw [← whole] at ascending
    have := (List.pairwise_append.mp ascending).2.2 low isDone cur (.head _)
    rw [overhead] at this
    exact absurd this more
  · exact ⟨overhead, bitrate⟩
  · have := less low isLeft
    rw [overhead] at this
    exact absurd this (UInt16.lt_irrefl _)

/-- The stack and the candidate that was taken cover what is settled without it. -/
theorem Bounds.take (bounds : loop.Bounds requests lowest) (orderly : loop.Orderly front capacity)
    (isLowest : Lowest (remaining requests) lowest) (rising : Rising requests) {cur : TmmbItem}
    (shape : loop.pending = cur :: rest) :
    Covers ((loop.boundingSet.map Selected.layer).map Layer.line ++ [cur.line])
        (lines (settled requests rest)) ∧
      ∀ selected ∈ loop.boundingSet, selected.item.bitrateBps ≤ cur.bitrateBps := by
  obtain ⟨ascending, steep⟩ := orderly.steep shape
  have whole := shape
  have covers := bounds.covers
  have flat := bounds.flat
  unfold pending at whole
  unfold examined at whole covers flat
  split_ifs at whole covers flat
  · rw [List.nil_append] at whole
    rw [List.map_nil, List.append_nil, whole] at covers
    constructor
    · intro line isLine x positive
      obtain ⟨item, isSettled, rfl⟩ := mem_lines.mp isLine
      obtain ⟨member, less⟩ := mem_remaining_settled.mp isSettled
      by_cases before : item.packetOverhead < cur.packetOverhead
      · have early : item ∈ remaining (settled requests (cur :: rest)) :=
          mem_remaining_settled.mpr ⟨member, List.forall_mem_cons.mpr ⟨before, less⟩⟩
        obtain ⟨other, inStack, reached⟩ :=
          covers item.line (mem_lines.mpr ⟨item, early, rfl⟩) x positive
        exact ⟨other, List.mem_append_left _ inStack, reached⟩
      · obtain ⟨overhead, bitrate⟩ := bounds.reached isLowest shape member less before
        exact ⟨cur.line, List.mem_append_cons_self,
          .inl (value_le bitrate (UInt16.le_of_eq overhead.symm) positive)⟩
    · intro selected member
      have isPending : cur ∈ loop.pending := shape ▸ .head _
      have isCandidate : cur ∈ remaining requests :=
        isLowest.subset cur (bounds.suffix.subset isPending)
      rw [settled_cons ascending] at covers
      exact rising cur isCandidate (bounds.steeper cur isPending) selected.item
        (mem_remaining_flatter.mpr ⟨bounds.members selected member, steep selected member⟩)
        (bounds.layered.onEnvelope covers _ (List.mem_map_of_mem member))
  · obtain ⟨same, left⟩ : loop.curCandidate = cur ∧ remaining loop.candidates = rest :=
      List.cons.inj whole
    rw [same] at covers flat
    rw [left] at covers
    exact ⟨covers, flat cur (.head _)⟩

/-- If the current candidate stays, the rest of the list is left with it. -/
theorem pending_of {after : Loop} {rest examined : List TmmbItem}
    (current : after.examined = examined) (left : remaining after.candidates = rest) :
    after.pending = examined ++ rest := by
  unfold pending
  rw [current, left]

/-- Every round keeps the bounds. -/
theorem Bounds.next (bounds : loop.Bounds requests lowest) (orderly : loop.Orderly front capacity)
    (isLowest : Lowest (remaining requests) lowest) (rising : Rising requests) {cur : TmmbItem}
    {rest : List TmmbItem} {back : Selected} {below : List Selected} {after : Loop}
    (shape : loop.pending = cur :: rest) (set : loop.boundingSet = back :: below)
    (steep : back.item.packetOverhead < cur.packetOverhead)
    (effect : Round cur rest back below ((cur.bitrateBps - back.item.bitrateBps).toNat /
      ((cur.packetOverhead.toNat : ℚ) - back.item.packetOverhead.toNat)) after) :
    after.Bounds requests lowest := by
  obtain ⟨covers, flat⟩ := bounds.take orderly isLowest rising shape
  have members := bounds.members
  have rates := bounds.rates
  have layered := bounds.layered
  have suffix := bounds.suffix
  have steeper := bounds.steeper
  have isPending : cur ∈ loop.pending := shape ▸ .head _
  have isCandidate : cur ∈ remaining requests := isLowest.subset cur (suffix.subset isPending)
  rw [shape] at suffix steeper
  have suffix' : rest <:+ lowest := (List.suffix_cons cur rest).trans suffix
  have steeper' : ∀ item ∈ rest, Steeper requests item := fun item member =>
    steeper item (.tail _ member)
  obtain ⟨later, bottom⟩ := orderly.first
  have higher := orderly.higher cur isPending
  rw [set] at members rates layered covers flat bottom
  obtain ⟨isBack, members'⟩ := List.forall_mem_cons.mp members
  obtain ⟨backRate, rates'⟩ := List.forall_mem_cons.mp rates
  obtain ⟨flatBack, flat'⟩ := List.forall_mem_cons.mp flat
  have used := lt_maxPacketRate_iff (mem_remaining.mp isBack).2 (rate_lt steep)
  have crosses := rate_eq flatBack
  rw [crosses] at effect used
  cases effect with
  | popped early set' current left count' =>
      obtain ⟨next, deeper, rfl⟩ : ∃ next deeper, below = next :: deeper := by
        cases later with
        | nil =>
            obtain ⟨rfl, -⟩ := List.cons.inj bottom
            exact absurd early (not_le.mpr (crosses ▸ rate_pos higher steep))
        | cons top later =>
            apply List.exists_cons_of_ne_nil
            rw [(List.cons.inj bottom).2]
            exact List.append_ne_nil_of_right_ne_nil _ (List.cons_ne_nil _ _)
      refine ⟨?_, ?_, ?_, ?_, ?_, ?_, ?_⟩
      · rw [set']
        exact members'
      · rw [set']
        exact rates'
      · rw [pending_of current left]
        exact suffix
      · rw [pending_of current left]
        exact steeper
      · rw [set']
        exact layered.tail
      · rw [set', current, left]
        exact covers_pop layered (line_steep steep) early covers
      · rw [set', current]
        exact fun item member => List.mem_singleton.mp member ▸ flat'
  | pushed later' used' set' current left count' =>
      have pending := pending_of current left
      refine ⟨?_, ?_, ?_, ?_, ?_, ?_, ?_⟩
      · rw [set']
        exact List.forall_mem_cons.mpr ⟨isCandidate, members⟩
      · rw [set']
        exact List.forall_mem_cons.mpr ⟨rfl, rates⟩
      · rw [pending]
        exact suffix'
      · rw [pending]
        exact steeper'
      · rw [set']
        exact .push layered (line_steep steep) later' (used.mp (backRate ▸ used'))
      · rw [set', current, left]
        refine Covers.trans (Covers.of_subset fun line member => ?_) covers
        rw [List.map_nil, List.append_nil]
        rcases List.mem_append.mp member with old | new
        · exact .tail _ old
        · rw [List.mem_singleton.mp new]
          exact .head _
      · rw [current]
        exact fun _ => nofun
  | dropped later' late set' current left count' =>
      have pending := pending_of current left
      refine ⟨?_, ?_, ?_, ?_, ?_, ?_, ?_⟩
      · rw [set']
        exact members
      · rw [set']
        exact rates
      · rw [pending]
        exact suffix'
      · rw [pending]
        exact steeper'
      · rw [set']
        exact layered
      · rw [set', current, left, List.map_nil, List.append_nil]
        rw [backRate] at late
        exact covers_drop layered.falls (line_steep steep) (not_lt.mp (mt used.mpr late.not_gt))
          covers
      · rw [current]
        exact fun _ => nofun

theorem Bounds.run (bounds : Rising requests → loop.Bounds requests lowest)
    (orderly : loop.Orderly front capacity) (isLowest : Lowest (remaining requests) lowest)
    {rounds : Nat} (enough : 2 * loop.numCandidates + loop.boundingSet.length ≤ rounds + 1) :
    ∃ last, Loop.run capacity rounds loop = .ok last ∧ last.Orderly front capacity ∧
      (Rising requests → last.Bounds requests lowest) ∧ last.numCandidates = 0 := by
  refine orderly.run (fun orderly holds shape set steep effect rising => ?_) bounds enough
  exact (holds rising).next orderly isLowest rising shape set steep effect

/-- Behind the last candidate the bounding set has the lines of the envelope. -/
theorem Bounds.envelope (bounds : loop.Bounds requests lowest) (done : loop.pending = []) :
    (∀ selected ∈ loop.boundingSet, OnEnvelope (lines requests) selected.item.line) ∧
      ∀ item ∈ remaining requests, OnEnvelope (lines requests) item.line →
        ∃ selected ∈ loop.boundingSet, selected.item.line = item.line := by
  obtain ⟨none, empty⟩ := List.append_eq_nil_iff.mp done
  have covers := bounds.covers
  rw [none, empty, settled_nil, List.map_nil, List.append_nil] at covers
  refine ⟨fun selected member =>
    bounds.layered.onEnvelope covers _ (List.mem_map_of_mem member), fun item member isOn => ?_⟩
  have subset : ∀ line ∈ (loop.boundingSet.map Selected.layer).map Layer.line,
      line ∈ lines requests := by
    intro line isLine
    obtain ⟨layer, isLayer, rfl⟩ := List.mem_map.mp isLine
    obtain ⟨selected, isSelected, rfl⟩ := List.mem_map.mp isLayer
    exact mem_lines.mpr ⟨selected.item, bounds.members selected isSelected, rfl⟩
  have found := mem_of_onEnvelope covers subset (mem_lines.mpr ⟨item, member, rfl⟩) isOn
  obtain ⟨layer, isLayer, same⟩ := List.mem_map.mp found
  obtain ⟨selected, isSelected, rfl⟩ := List.mem_map.mp isLayer
  exact ⟨selected, isSelected, same⟩

end Loop

theorem Lowest.of_perm {items other lowest : List TmmbItem} (isLowest : Lowest items lowest)
    (perm : items.Perm other) : Lowest other lowest where
  ascending := isLowest.ascending
  subset := fun item member => perm.subset (isLowest.subset item member)
  reached := fun item member => isLowest.reached item (perm.symm.subset member)

section Start

variable {before after : List TmmbItem} {front : TmmbItem}

theorem pending_start (items : List TmmbItem) (numCandidates index : Nat) :
    (start items numCandidates front index).pending =
      remaining (start items numCandidates front index).candidates := rfl

theorem remaining_split (candidate : front.isCandidate = true) :
    remaining (before ++ front :: after) = remaining before ++ front :: remaining after := by
  rw [remaining_append, remaining_cons candidate]

variable {numCandidates : Nat}

/-- The loop begins in order. -/
theorem start_orderly (candidate : front.isCandidate = true)
    (ascending : Ascending (remaining (before ++ front :: after)))
    (late : ∀ item ∈ remaining after, front.bitrateBps < item.bitrateBps)
    (count : numCandidates = (remaining (before ++ front :: after)).length) :
    (start (before ++ front :: after) numCandidates front before.length).Orderly front
      numCandidates := by
  obtain ⟨left, number⟩ := remaining_start candidate ascending count
  rw [remaining_split candidate] at ascending count
  refine ⟨?_, ⟨[], rfl⟩, ?_, ?_, ?_⟩
  · rw [pending_start, left]
    exact number
  · rw [pending_start, left]
    exact (List.pairwise_append.mp ascending).2.1
  · rw [pending_start, left]
    exact late
  · rw [number, count, List.length_append, List.length_cons]
    change 1 + _ ≤ _
    omega

/-- The loop begins with the lowest line, and whatever has no more overhead is above it. -/
theorem start_bounds {requests : List TmmbItem} (candidate : front.isCandidate = true)
    (isLowest : Lowest (remaining requests) (remaining (before ++ front :: after)))
    (early : ∀ item ∈ remaining before, front.bitrateBps ≤ item.bitrateBps)
    (late : ∀ item ∈ remaining after, front.bitrateBps < item.bitrateBps)
    (count : numCandidates = (remaining (before ++ front :: after)).length) :
    (start (before ++ front :: after) numCandidates front before.length).Bounds requests
      (remaining (before ++ front :: after)) := by
  have left := (remaining_start candidate isLowest.ascending count).1
  obtain ⟨ascending, subset, reached⟩ := isLowest
  rw [remaining_split candidate] at ascending subset reached ⊢
  obtain ⟨-, behind, apart⟩ := List.pairwise_append.mp ascending
  have isFront : front ∈ remaining requests := subset front List.mem_append_cons_self
  refine ⟨?_, ?_, ?_, ?_, ?_, ?_, ?_⟩
  · exact List.forall_mem_singleton.mpr isFront
  · exact List.forall_mem_singleton.mpr rfl
  · rw [pending_start, left]
    exact ⟨remaining before ++ [front], by rw [List.append_assoc]; rfl⟩
  · rw [pending_start, left]
    intro item member low isLow least
    obtain ⟨other, isOther, overhead, bitrate⟩ := reached low isLow
    have notMore : ¬ front.bitrateBps < other.bitrateBps :=
      UInt64.not_lt.mpr (UInt64.le_trans bitrate (least front isFront))
    rw [← overhead]
    rcases List.mem_append.mp isOther with inBefore | atLeast
    · exact apart other inBefore item (.tail _ member)
    · rcases List.mem_cons.mp atLeast with rfl | inAfter
      · exact (List.pairwise_cons.mp behind).1 item member
      · exact absurd (late other inAfter) notMore
  · exact .bottom (line_positive candidate) line_falls
  · intro line isLine x positive
    obtain ⟨item, isSettled, rfl⟩ := mem_lines.mp isLine
    obtain ⟨member, less⟩ := mem_remaining_settled.mp isSettled
    rw [left] at less
    obtain ⟨low, isLow, overhead, bitrate⟩ := reached item member
    refine ⟨front.line, .head _, .inl ?_⟩
    rcases List.mem_append.mp isLow with inBefore | atLeast
    · have more := apart low inBefore front (.head _)
      rw [overhead] at more
      exact value_le (UInt64.le_trans (early low inBefore) bitrate) (UInt16.le_of_lt more) positive
    · rcases List.mem_cons.mp atLeast with rfl | inAfter
      · exact value_le bitrate (UInt16.le_of_eq overhead.symm) positive
      · have := less low inAfter
        rw [overhead] at this
        exact absurd this (UInt16.lt_irrefl _)
  · exact fun _ => nofun

end Start

/-- The set consists of the candidates on the envelope, one for each line. -/
structure Limits (requests set : List TmmbItem) : Prop where
  sound : ∀ item ∈ set, item ∈ remaining requests ∧ OnEnvelope (lines requests) item.line
  complete : ∀ item ∈ remaining requests, OnEnvelope (lines requests) item.line →
    ∃ same ∈ set, same.bitrateBps = item.bitrateBps ∧ same.packetOverhead = item.packetOverhead

/-- A single candidate is its own envelope. -/
theorem limits_of_short {requests : List TmmbItem} (short : (remaining requests).length ≤ 1) :
    Ascending (remaining requests) ∧ Limits requests (remaining requests) := by
  have alone : ∀ item ∈ remaining requests, remaining requests = [item] := by
    intro item member
    cases shape : remaining requests with
    | nil =>
        rw [shape] at member
        cases member
    | cons first rest =>
        rw [shape, List.length_cons] at short
        obtain rfl : rest = [] := List.eq_nil_of_length_eq_zero (by omega)
        rw [shape] at member
        rw [List.mem_singleton.mp member]
  constructor
  · cases shape : remaining requests with
    | nil => exact .nil
    | cons first rest =>
        rw [← shape, alone first (shape ▸ .head _)]
        exact List.pairwise_singleton ..
  · refine ⟨fun item member => ⟨member, ?_⟩, fun item member _ => ⟨item, member, rfl, rfl⟩⟩
    have layered : Layered [⟨item.line, 0⟩] :=
      .bottom (line_positive (mem_remaining.mp member).2) line_falls
    refine layered.onEnvelope (Covers.of_subset fun line isLine => ?_) _ (.head _)
    unfold lines at isLine
    rw [alone item member] at isLine
    exact isLine

/-- Steps 3 to 9 select an item and come to an end. -/
theorem exists_run {requests items : List TmmbItem} {numCandidates : Nat}
    (isLowest : Lowest (remaining requests) (remaining items))
    (count : numCandidates = (remaining items).length) (nonempty : remaining requests ≠ []) :
    ∃ front index loop, selectLowest none 0 items = .some (front, index) ∧
      (start items numCandidates front index).run numCandidates (2 * numCandidates + 1) =
        .ok loop ∧
      loop.pending = [] ∧ Ascending (loop.boundingSet.map Selected.item).reverse ∧
      (Rising requests → loop.Bounds requests (remaining items)) := by
  have nothing : LowestOf [] none := remaining_nil
  have selected : LowestOf items (selectLowest none 0 items) := nothing.selectLowest items
  cases shape : selectLowest none 0 items with
  | none =>
      rw [shape] at selected
      obtain ⟨item, member⟩ := List.exists_mem_of_ne_nil _ nonempty
      obtain ⟨low, isLow, -⟩ := isLowest.reached item member
      rw [show remaining items = [] from selected] at isLow
      cases isLow
  | some best =>
      rw [shape] at selected
      obtain ⟨before, after, rfl, position, candidate, early, late⟩ := selected
      have orderly := start_orderly candidate isLowest.ascending late count
      have bounds := start_bounds candidate isLowest early late count
      have enough : 2 * (start (before ++ best.1 :: after) numCandidates best.1
          before.length).numCandidates + 1 ≤ 2 * numCandidates + 1 + 1 := by
        have := orderly.room
        omega
      obtain ⟨loop, ran, orderly', bounds', none⟩ :=
        Loop.Bounds.run (fun _ => bounds) orderly isLowest enough
      rw [position] at ran
      have done : loop.pending = [] :=
        List.eq_nil_of_length_eq_zero (orderly'.count.symm.trans none)
      have ascending := orderly'.ascending
      rw [done, List.append_nil] at ascending
      exact ⟨best.1, best.2, loop, rfl, ran, done, ascending, bounds'⟩

end BoundingSet

open BoundingSet

/-- `FindBoundingSet` ends without a fault and orders what it selects. If no candidate has a lower
bitrate than the envelope of the flatter ones, the selected items are the lower envelope. -/
theorem findBoundingSet_limits (sort : OverheadSort) (requests : List TmmbItem) :
    ∃ set, findBoundingSet sort requests = .ok set ∧ Ascending set ∧
      (Rising requests → Limits requests set) := by
  have perm := sort.perm (remaining requests)
  obtain ⟨isLowest, count⟩ := keepLowestAll_spec
    (fun item member => (mem_remaining.mp (perm.subset member)).2) (sort.sorted (remaining requests))
  rw [perm.length_eq] at count
  by_cases short : (remaining requests).length ≤ 1
  · obtain ⟨ascending, limits⟩ := limits_of_short short
    exact ⟨remaining requests, if_pos short, ascending, fun _ => limits⟩
  · have nonempty : remaining requests ≠ [] := by
      intro none
      rw [none] at short
      exact short (Nat.zero_le _)
    obtain ⟨front, index, loop, selected, ran, done, ascending, bounds⟩ :=
      exists_run (isLowest.of_perm perm) (Nat.sub_eq_of_eq_add count.symm) nonempty
    refine ⟨(loop.boundingSet.map Selected.item).reverse, (if_neg short).trans ?_, ascending, ?_⟩
    · have isSelected : selectLowest none 0
          (keepLowestAll (sort.sort (requests.filter TmmbItem.isCandidate))).1 =
            some (front, index) := selected
      simp only [isSelected]
      exact bind_eq_ok_iff.mpr ⟨loop, ran, rfl⟩
    · intro rising
      obtain ⟨sound, complete⟩ := (bounds rising).envelope done
      constructor
      · intro item member
        rw [List.mem_reverse] at member
        obtain ⟨found, inSet, rfl⟩ := List.mem_map.mp member
        exact ⟨(bounds rising).members found inSet, sound found inSet⟩
      · intro item member isOn
        obtain ⟨found, inSet, same⟩ := complete item member isOn
        refine ⟨found.item, ?_, TmmbItem.line_inj same⟩
        rw [List.mem_reverse]
        exact List.mem_map_of_mem inSet

/-- The sort that keeps the order of items with the same overhead. -/
def OverheadSort.stable : OverheadSort where
  sort := List.insertionSort fun lhs rhs => lhs.packetOverhead ≤ rhs.packetOverhead
  perm := fun items => List.perm_insertionSort _ items
  sorted := by
    intro items
    have total : Std.Total fun lhs rhs : TmmbItem => lhs.packetOverhead ≤ rhs.packetOverhead :=
      ⟨fun lhs rhs => UInt16.le_total lhs.packetOverhead rhs.packetOverhead⟩
    have trans : IsTrans TmmbItem fun lhs rhs => lhs.packetOverhead ≤ rhs.packetOverhead :=
      ⟨fun _ _ _ first second => UInt16.le_trans first second⟩
    exact List.pairwise_insertionSort _ items

/-- The set of two requests whose bitrates rise with their overhead. -/
theorem findBoundingSet_limits_two :
    ∃ set, findBoundingSet .stable [⟨1, 100, 10⟩, ⟨2, 200, 30⟩] = .ok set ∧ Ascending set ∧
      Limits [⟨1, 100, 10⟩, ⟨2, 200, 30⟩] set := by
  obtain ⟨set, found, ascending, limits⟩ :=
    findBoundingSet_limits .stable [⟨1, 100, 10⟩, ⟨2, 200, 30⟩]
  refine ⟨set, found, ascending, limits ?_⟩
  intro item member _ other isFlatter _
  obtain ⟨isOther, less⟩ := mem_remaining_flatter.mp isFlatter
  have items : remaining [⟨1, 100, 10⟩, ⟨2, 200, 30⟩] = [⟨1, 100, 10⟩, ⟨2, 200, 30⟩] := rfl
  rw [items] at member isOther
  simp only [List.mem_cons, List.not_mem_nil, or_false] at member isOther
  rcases member with rfl | rfl <;> rcases isOther with rfl | rfl <;> revert less <;> decide

/-- The difference to a higher bitrate wraps: the third request limits the media from two packets
on, but the second, which is above it everywhere, is selected in its place. -/
theorem lower_bitrate_is_left_out :
    ¬ ∀ (sort : OverheadSort) (requests : List TmmbItem), ∃ set,
      findBoundingSet sort requests = .ok set ∧ Ascending set ∧ Limits requests set := by
  intro holds
  obtain ⟨set, found, -, limits⟩ := holds .stable [⟨1, 100, 10⟩, ⟨2, 200, 30⟩, ⟨3, 150, 40⟩]
  have selected : findBoundingSet .stable [⟨1, 100, 10⟩, ⟨2, 200, 30⟩, ⟨3, 150, 40⟩] =
      .ok [⟨1, 100, 10⟩, ⟨2, 200, 30⟩] := by decide +kernel
  obtain rfl := Except.ok.inj (selected.symm.trans found)
  have onEnvelope : OnEnvelope (lines [⟨1, 100, 10⟩, ⟨2, 200, 30⟩, ⟨3, 150, 40⟩])
      (TmmbItem.line ⟨3, 150, 40⟩) := by
    refine ⟨2, 3, by norm_num, by norm_num, fun x after before => ?_⟩
    have items : lines [⟨1, 100, 10⟩, ⟨2, 200, 30⟩, ⟨3, 150, 40⟩] =
        [⟨100, 10⟩, ⟨200, 30⟩, ⟨150, 40⟩] := by decide +kernel
    have third : TmmbItem.line ⟨3, 150, 40⟩ = ⟨150, 40⟩ := by decide +kernel
    rw [items, third]
    simp only [Line.value, List.forall_mem_cons]
    refine ⟨by linarith, fun _ => by linarith, fun _ => by linarith, fun apart => ?_, fun _ => nofun⟩
    exact absurd rfl apart
  obtain ⟨same, member, bitrate, -⟩ := limits.complete ⟨3, 150, 40⟩ (by decide) onEnvelope
  simp only [List.mem_cons, List.not_mem_nil, or_false] at member
  rcases member with rfl | rfl <;> revert bitrate <;> decide

end MpWebRtc
