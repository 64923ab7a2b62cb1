import MpWebRtc.Rtcp.BoundingSet

/-!
# The loop over the candidates

What is known when the loop of `FindBoundingSet` begins: the candidates that are left are in the
order of their overhead, one for each, and all have more overhead and a higher bitrate than the
first selected item. From this the loop keeps the bounding set in order and never empties it,
whatever the differences of the bitrates are.
-/

namespace MpWebRtc

open Math.Checked Math.LowerEnvelope

namespace BoundingSet

variable (items : List TmmbItem)

/-- The items that were not removed. -/
def remaining : List TmmbItem := items.filter TmmbItem.isCandidate

/-- In the order of their overhead, one for each. -/
def Ascending : Prop :=
  items.Pairwise fun lhs rhs => lhs.packetOverhead < rhs.packetOverhead

section Remaining

variable {item : TmmbItem} {items : List TmmbItem}

theorem remaining_nil : remaining [] = [] := rfl

theorem remaining_append (items later : List TmmbItem) :
    remaining (items ++ later) = remaining items ++ remaining later := List.filter_append ..

theorem remaining_cons (candidate : item.isCandidate = true) :
    remaining (item :: items) = item :: remaining items := List.filter_cons_of_pos candidate

theorem remaining_cons_removed : remaining (item.removed :: items) = remaining items :=
  List.filter_cons_of_neg Bool.false_ne_true

theorem mem_remaining : item ∈ remaining items ↔ item ∈ items ∧ item.isCandidate = true :=
  List.mem_filter

end Remaining

/-- For each overhead that an item has, one with the lowest bitrate of those. -/
structure Lowest (items lowest : List TmmbItem) : Prop where
  ascending : Ascending lowest
  subset : ∀ item ∈ lowest, item ∈ items
  reached : ∀ item ∈ items, ∃ low ∈ lowest,
    low.packetOverhead = item.packetOverhead ∧ low.bitrateBps ≤ item.bitrateBps

section KeepLowest

theorem keepLowest_spec {before between rest : List TmmbItem} {current : TmmbItem}
    (noneBefore : remaining before = []) (noneBetween : remaining between = [])
    (candidate : current.isCandidate = true) (candidates : ∀ item ∈ rest, item.isCandidate = true)
    (sorted : (current :: rest).Pairwise fun lhs rhs => lhs.packetOverhead ≤ rhs.packetOverhead) :
    Lowest (current :: rest) (remaining (keepLowest before current between rest).1) ∧
      (remaining (keepLowest before current between rest).1).length +
        (keepLowest before current between rest).2 = rest.length + 1 := by
  induction rest generalizing before current between with
  | nil =>
      have only : remaining (keepLowest before current between []).1 = [current] := by
        unfold keepLowest
        rw [remaining_append, remaining_cons candidate, noneBefore, noneBetween]
        rfl
      rw [only]
      exact ⟨⟨List.pairwise_singleton .., fun _ => id, fun item member =>
        ⟨item, member, rfl, UInt64.le_refl _⟩⟩, rfl⟩
  | cons next rest ih =>
      obtain ⟨isNext, later⟩ := List.forall_mem_cons.mp candidates
      obtain ⟨above, sorted'⟩ := List.pairwise_cons.mp sorted
      unfold keepLowest
      split_ifs with same lower
      · dsimp only
        have noneBefore' : remaining (before ++ current.removed :: between) = [] := by
          rw [remaining_append, remaining_cons_removed, noneBefore, noneBetween]
          rfl
        obtain ⟨lowest, count⟩ := ih noneBefore' remaining_nil isNext later sorted'
        refine ⟨⟨lowest.ascending, fun item member => .tail _ (lowest.subset item member), ?_⟩, ?_⟩
        · rw [List.forall_mem_cons]
          refine ⟨?_, lowest.reached⟩
          obtain ⟨low, member, overhead, bitrate⟩ := lowest.reached next (.head _)
          exact ⟨low, member, overhead.trans same, UInt64.le_trans bitrate (UInt64.le_of_lt lower)⟩
        · rw [List.length_cons, ← count]
          exact (Nat.add_assoc ..).symm
      · dsimp only
        have noneBetween' : remaining (between ++ [next.removed]) = [] := by
          rw [remaining_append, remaining_cons_removed, noneBetween]
          rfl
        have skip : (current :: rest).Sublist (current :: next :: rest) :=
          (List.sublist_cons_self next rest).cons_cons current
        obtain ⟨lowest, count⟩ := ih noneBefore noneBetween' candidate later (sorted.sublist skip)
        refine ⟨⟨lowest.ascending, fun item member => skip.subset (lowest.subset item member), ?_⟩,
          ?_⟩
        · rw [List.forall_mem_cons, List.forall_mem_cons]
          obtain ⟨atCurrent, atRest⟩ := List.forall_mem_cons.mp lowest.reached
          refine ⟨atCurrent, ?_, atRest⟩
          obtain ⟨low, member, overhead, bitrate⟩ := atCurrent
          exact ⟨low, member, overhead.trans same.symm,
            UInt64.le_trans bitrate (UInt64.not_lt.mp lower)⟩
        · rw [List.length_cons, ← count]
          exact (Nat.add_assoc ..).symm
      · dsimp only
        obtain ⟨lowest, count⟩ := ih remaining_nil remaining_nil isNext later sorted'
        have split : remaining (before ++ current :: between ++ (keepLowest [] next [] rest).1) =
            current :: remaining (keepLowest [] next [] rest).1 := by
          rw [remaining_append, remaining_append, remaining_cons candidate, noneBefore, noneBetween]
          rfl
        rw [split]
        have larger : current.packetOverhead < next.packetOverhead :=
          UInt16.lt_of_le_of_ne (above next (.head _)) (Ne.symm same)
        have upward := List.pairwise_cons.mp sorted'
        refine ⟨⟨List.pairwise_cons.mpr ⟨fun item member => ?_, lowest.ascending⟩,
          fun item member => ?_, ?_⟩, ?_⟩
        · rcases List.mem_cons.mp (lowest.subset item member) with rfl | behind
          · exact larger
          · exact UInt16.lt_of_lt_of_le larger (upward.1 item behind)
        · rcases List.mem_cons.mp member with rfl | behind
          · exact .head _
          · exact .tail _ (lowest.subset item behind)
        · rw [List.forall_mem_cons]
          refine ⟨⟨current, .head _, rfl, UInt64.le_refl _⟩, fun item member => ?_⟩
          obtain ⟨low, isLow, both⟩ := lowest.reached item member
          exact ⟨low, .tail _ isLow, both⟩
        · rw [List.length_cons, List.length_cons]
          omega

/-- Step 2 keeps the lowest for each overhead, and counts what it removes. -/
theorem keepLowestAll_spec {items : List TmmbItem}
    (candidates : ∀ item ∈ items, item.isCandidate = true)
    (sorted : items.Pairwise fun lhs rhs => lhs.packetOverhead ≤ rhs.packetOverhead) :
    Lowest items (remaining (keepLowestAll items).1) ∧
      (remaining (keepLowestAll items).1).length + (keepLowestAll items).2 = items.length := by
  cases items with
  | nil => exact ⟨⟨.nil, fun _ => nofun, fun _ => nofun⟩, rfl⟩
  | cons first rest =>
      obtain ⟨isFirst, later⟩ := List.forall_mem_cons.mp candidates
      exact keepLowest_spec rfl rfl isFirst later sorted

end KeepLowest

section SelectLowest

/-- Nothing, if there is no candidate, and otherwise the last one with the lowest bitrate. -/
def LowestOf (items : List TmmbItem) : Option (TmmbItem × Nat) → Prop
  | none => remaining items = []
  | some best => ∃ before after, items = before ++ best.1 :: after ∧ before.length = best.2 ∧
      best.1.isCandidate = true ∧
      (∀ item ∈ remaining before, best.1.bitrateBps ≤ item.bitrateBps) ∧
      ∀ item ∈ remaining after, best.1.bitrateBps < item.bitrateBps

theorem LowestOf.lowerOf {items : List TmmbItem} {lowest : Option (TmmbItem × Nat)}
    (isLowest : LowestOf items lowest) (item : TmmbItem) :
    LowestOf (items ++ [item]) (BoundingSet.lowerOf lowest item items.length) := by
  unfold BoundingSet.lowerOf
  split_ifs with lower
  · rw [Bool.and_eq_true] at lower
    refine ⟨items, [], rfl, rfl, lower.1, fun other member => ?_, fun _ => nofun⟩
    cases lowest with
    | none =>
        rw [show remaining items = [] from isLowest] at member
        cases member
    | some best =>
        have least := of_decide_eq_true lower.2
        obtain ⟨before, after, rfl, -, candidate, early, late⟩ := isLowest
        rw [remaining_append, remaining_cons candidate, List.mem_append, List.mem_cons] at member
        rcases member with inBefore | rfl | inAfter
        · exact UInt64.le_trans least (early other inBefore)
        · exact least
        · exact UInt64.le_trans least (UInt64.le_of_lt (late other inAfter))
  · cases lowest with
    | none =>
        have not : item.isCandidate = false := by
          rw [Option.all_none, Bool.and_true, Bool.not_eq_true] at lower
          exact lower
        change remaining (items ++ [item]) = []
        rw [remaining_append, show remaining items = [] from isLowest]
        exact List.filter_cons_of_neg (ne_true_of_eq_false not)
    | some best =>
        obtain ⟨before, after, rfl, position, candidate, early, late⟩ := isLowest
        refine ⟨before, after ++ [item], by rw [List.append_assoc]; rfl, position, candidate, early,
          fun other member => ?_⟩
        rw [remaining_append, List.mem_append] at member
        rcases member with inAfter | new
        · exact late other inAfter
        · obtain ⟨same, isCandidate⟩ := mem_remaining.mp new
          obtain rfl := List.mem_singleton.mp same
          rw [isCandidate, Bool.true_and, Option.all_some, decide_eq_true_iff] at lower
          exact UInt64.not_le.mp lower

theorem LowestOf.selectLowest {items : List TmmbItem} {lowest : Option (TmmbItem × Nat)}
    (isLowest : LowestOf items lowest) (rest : List TmmbItem) :
    LowestOf (items ++ rest) (BoundingSet.selectLowest lowest items.length rest) := by
  induction rest generalizing items lowest with
  | nil =>
      rw [List.append_nil]
      exact isLowest
  | cons item rest ih =>
      have next := ih (isLowest.lowerOf item)
      rw [List.length_append, List.length_singleton, List.append_assoc] at next
      exact next

end SelectLowest

section Start

/-- Steps 3 and 4 leave the candidates behind the first selected item. -/
theorem remaining_start {before after : List TmmbItem} {front : TmmbItem} {numCandidates : Nat}
    (candidate : front.isCandidate = true)
    (ascending : Ascending (remaining (before ++ front :: after)))
    (count : numCandidates = (remaining (before ++ front :: after)).length) :
    remaining (start (before ++ front :: after) numCandidates front before.length).candidates =
        remaining after ∧
      (start (before ++ front :: after) numCandidates front before.length).numCandidates =
        (remaining after).length := by
  rw [remaining_append, remaining_cons candidate] at ascending count
  obtain ⟨-, behind, apart⟩ := List.pairwise_append.mp ascending
  have less : ∀ item ∈ before, item.isCandidate = true →
      item.packetOverhead < front.packetOverhead := fun item member isCandidate =>
    apart item (mem_remaining.mpr ⟨member, isCandidate⟩) front (.head _)
  have more : ∀ item ∈ after, item.isCandidate = true →
      front.packetOverhead < item.packetOverhead := fun item member isCandidate =>
    (List.pairwise_cons.mp behind).1 item (mem_remaining.mpr ⟨member, isCandidate⟩)
  have left : (before ++ front :: after).modify before.length TmmbItem.removed =
      before ++ front.removed :: after := by
    rw [List.modify_eq_take_cons_drop (by rw [List.length_append, List.length_cons]; omega)]
    simp
  have discarded : remaining (before.map (discard front)) = [] := by
    refine List.filter_eq_nil_iff.mpr fun item member => ?_
    obtain ⟨old, isOld, rfl⟩ := List.mem_map.mp member
    unfold discard
    split_ifs with drops
    · exact Bool.false_ne_true
    · intro isCandidate
      apply drops
      rw [isCandidate, decide_eq_true (less old isOld isCandidate)]
      rfl
  have kept : after.map (discard front) = after := by
    refine (List.map_congr_left fun item member => ?_).trans (List.map_id _)
    unfold discard
    rw [if_neg]
    · rfl
    · rw [Bool.and_eq_true, decide_eq_true_iff]
      rintro ⟨isCandidate, lower⟩
      exact UInt16.lt_asymm lower (more item member isCandidate)
  have removed : discard front front.removed = front.removed := if_neg Bool.false_ne_true
  unfold start
  dsimp only
  rw [left]
  constructor
  · rw [List.map_append, List.map_cons, kept, removed, remaining_append, remaining_cons_removed,
      discarded, List.nil_append]
  · have early : before.countP (fun item =>
        item.isCandidate && decide (item.packetOverhead < front.packetOverhead)) =
          (remaining before).length := by
      rw [remaining, ← List.countP_eq_length_filter]
      refine List.countP_congr fun item member => ?_
      constructor
      · exact fun both => (Bool.and_eq_true_iff.mp both).1
      · intro isCandidate
        rw [isCandidate, decide_eq_true (less item member isCandidate)]
        rfl
    have late : after.countP (fun item =>
        item.isCandidate && decide (item.packetOverhead < front.packetOverhead)) = 0 := by
      refine List.countP_eq_zero.mpr fun item member both => ?_
      rw [Bool.and_eq_true, decide_eq_true_iff] at both
      exact UInt16.lt_asymm both.2 (more item member both.1)
    rw [List.countP_append, List.countP_cons_of_neg Bool.false_ne_true, early, late, count,
      List.length_append, List.length_cons]
    omega

end Start

section TakeFirst

theorem takeFirst_spec {items rest : List TmmbItem} {first : TmmbItem}
    (shape : remaining items = first :: rest) :
    (takeFirst items).1 = some first ∧ remaining (takeFirst items).2 = rest := by
  induction items with
  | nil => cases shape
  | cons item items ih =>
      unfold takeFirst
      split_ifs with candidate
      · rw [remaining_cons candidate] at shape
        obtain ⟨rfl, rfl⟩ := List.cons.inj shape
        exact ⟨rfl, remaining_cons_removed⟩
      · have skip : ∀ later, remaining (item :: later) = remaining later := fun _ =>
          List.filter_cons_of_neg candidate
        rw [skip] at shape
        obtain ⟨found, left⟩ := ih shape
        exact ⟨found, (skip _).trans left⟩

end TakeFirst

namespace Loop

/-- The current candidate, if it is to be examined again. -/
def examined (loop : Loop) : List TmmbItem :=
  if loop.getNewCandidate then [] else [loop.curCandidate]

/-- The candidates that were not settled yet. -/
def pending (loop : Loop) : List TmmbItem := loop.examined ++ remaining loop.candidates

/-- What holds of the loop whatever the differences of the bitrates are. -/
structure Orderly (front : TmmbItem) (capacity : Nat) (loop : Loop) : Prop where
  count : loop.numCandidates = loop.pending.length
  first : ∃ later, loop.boundingSet = later ++ [⟨front, 0, maxPacketRate front⟩]
  ascending : Ascending ((loop.boundingSet.map Selected.item).reverse ++ loop.pending)
  higher : ∀ item ∈ loop.pending, front.bitrateBps < item.bitrateBps
  room : loop.boundingSet.length + loop.numCandidates ≤ capacity

variable {front : TmmbItem} {capacity : Nat} {loop : Loop} {rest : List TmmbItem}

/-- After step 5 the current candidate is the first of those that were left. -/
theorem select_spec {cur : TmmbItem} (shape : loop.pending = cur :: rest) :
    loop.select.curCandidate = cur ∧ remaining loop.select.candidates = rest ∧
      loop.select.boundingSet = loop.boundingSet ∧
      loop.select.numCandidates = loop.numCandidates := by
  unfold pending examined at shape
  unfold select
  split_ifs at shape ⊢
  · obtain ⟨found, left⟩ := takeFirst_spec shape
    refine ⟨?_, left, rfl, rfl⟩
    dsimp only
    rw [found]
    rfl
  · obtain ⟨rfl, rfl⟩ := List.cons.inj shape
    exact ⟨rfl, rfl, rfl, rfl⟩

/-- What a round does with the current candidate `cur` and the last selected item `back`: the item
is removed, the candidate is selected, or it is left out. -/
inductive Round (cur : TmmbItem) (rest : List TmmbItem) (back : Selected) (below : List Selected)
    (rate : ℚ) (after : Loop) : Prop
  | popped (early : rate ≤ back.intersection) (set : after.boundingSet = below)
      (current : after.examined = [cur]) (left : remaining after.candidates = rest)
      (count : after.numCandidates = rest.length + 1)
  | pushed (later : back.intersection < rate) (used : rate < back.maxPacketRate)
      (set : after.boundingSet = ⟨cur, rate, maxPacketRate cur⟩ :: back :: below)
      (current : after.examined = []) (left : remaining after.candidates = rest)
      (count : after.numCandidates = rest.length)
  | dropped (later : back.intersection < rate) (late : back.maxPacketRate ≤ rate)
      (set : after.boundingSet = back :: below)
      (current : after.examined = []) (left : remaining after.candidates = rest)
      (count : after.numCandidates = rest.length)

/-- Every round finds an item to examine and a candidate, and its divisors are not zero. -/
theorem Orderly.round (orderly : loop.Orderly front capacity) (some : loop.numCandidates ≠ 0) :
    ∃ cur rest back below after, loop.pending = cur :: rest ∧
      loop.boundingSet = back :: below ∧
      loop.round capacity = .ok after ∧
      back.item.packetOverhead < cur.packetOverhead ∧
      Round cur rest back below ((cur.bitrateBps - back.item.bitrateBps).toNat /
        ((cur.packetOverhead.toNat : ℚ) - back.item.packetOverhead.toNat)) after := by
  obtain ⟨cur, rest, shape⟩ : ∃ cur rest, loop.pending = cur :: rest := by
    apply List.exists_cons_of_ne_nil
    intro none
    exact some (orderly.count.trans (congrArg List.length none))
  obtain ⟨back, below, set⟩ : ∃ back below, loop.boundingSet = back :: below := by
    obtain ⟨later, whole⟩ := orderly.first
    exact List.exists_cons_of_ne_nil fun none =>
      List.append_ne_nil_of_right_ne_nil _ (List.cons_ne_nil _ _) (whole.symm.trans none)
  obtain ⟨isCur, left, same, number⟩ := select_spec shape
  have steep : back.item.packetOverhead < cur.packetOverhead := by
    have ascending := orderly.ascending
    rw [set, shape] at ascending
    exact (List.pairwise_append.mp ascending).2.2 back.item
      (List.mem_reverse.mpr (.head _)) cur (.head _)
  have divides : packetRate cur back.item = .ok ((cur.bitrateBps - back.item.bitrateBps).toNat /
      ((cur.packetOverhead.toNat : ℚ) - back.item.packetOverhead.toNat)) :=
    if_neg (UInt16.ne_of_lt steep).symm
  have positive : cur.packetOverhead ≠ 0 := by
    rintro zero
    rw [zero] at steep
    exact UInt16.not_lt_zero steep
  have count : loop.numCandidates = rest.length + 1 := by
    rw [orderly.count, shape]
    rfl
  have room : ¬ capacity ≤ loop.boundingSet.length := by
    have := orderly.room
    omega
  suffices result : ∃ after, loop.round capacity = .ok after ∧
      Round cur rest back below ((cur.bitrateBps - back.item.bitrateBps).toNat /
        ((cur.packetOverhead.toNat : ℚ) - back.item.packetOverhead.toNat)) after by
    obtain ⟨after, ran, effect⟩ := result
    exact ⟨cur, rest, back, below, after, shape, set, ran, steep, effect⟩
  generalize (cur.bitrateBps - back.item.bitrateBps).toNat /
    ((cur.packetOverhead.toNat : ℚ) - back.item.packetOverhead.toNat) = rate at divides ⊢
  have examined : loop.round capacity = loop.select.examine capacity back below rate := by
    unfold Loop.round
    rw [set]
    dsimp only
    rw [isCur, divides]
    rfl
  unfold examine at examined
  split_ifs at examined with early used full zero
  · exact ⟨_, examined, .popped early rfl (congrArg (fun item => [item]) isCur) left
      (number.trans count)⟩
  · rw [same] at full
    exact absurd full room
  · rw [isCur] at zero
    exact absurd zero positive
  · refine ⟨_, examined, .pushed (not_le.mp early) used ?_ rfl left ?_⟩
    · dsimp only
      rw [isCur, same, set]
    · dsimp only
      rw [number, count]
      rfl
  · refine ⟨_, examined, .dropped (not_le.mp early) (not_lt.mp used) (same.trans set) rfl left ?_⟩
    dsimp only
    rw [number, count]
    rfl

/-- A candidate with a higher bitrate gives a rate above zero. -/
theorem rate_pos {cur back : TmmbItem} (higher : back.bitrateBps < cur.bitrateBps)
    (steep : back.packetOverhead < cur.packetOverhead) :
    (0 : ℚ) < (cur.bitrateBps - back.bitrateBps).toNat /
      ((cur.packetOverhead.toNat : ℚ) - back.packetOverhead.toNat) := by
  apply div_pos
  · rw [UInt64.toNat_sub_of_le _ _ (UInt64.le_of_lt higher)]
    have := UInt64.lt_iff_toNat_lt.mp higher
    exact_mod_cast Nat.sub_pos_of_lt this
  · rw [sub_pos]
    exact_mod_cast UInt16.lt_iff_toNat_lt.mp steep

/-- A round keeps the order, and brings the loop closer to its end. -/
theorem Orderly.next (orderly : loop.Orderly front capacity) {cur : TmmbItem} {back : Selected}
    {below : List Selected} {after : Loop}
    (shape : loop.pending = cur :: rest) (set : loop.boundingSet = back :: below)
    (steep : back.item.packetOverhead < cur.packetOverhead)
    (effect : Round cur rest back below ((cur.bitrateBps - back.item.bitrateBps).toNat /
      ((cur.packetOverhead.toNat : ℚ) - back.item.packetOverhead.toNat)) after) :
    after.Orderly front capacity ∧
      2 * after.numCandidates + after.boundingSet.length <
        2 * loop.numCandidates + loop.boundingSet.length := by
  obtain ⟨count, ⟨later, whole⟩, ascending, higher, room⟩ := orderly
  rw [shape] at count ascending higher
  rw [set] at whole ascending room ⊢
  rw [List.length_cons] at count room ⊢
  rw [List.map_cons, List.reverse_cons] at ascending
  cases effect with
  | popped early set' current left count' =>
      have pending : after.pending = cur :: rest := by
        unfold Loop.pending
        rw [current, left]
        rfl
      refine ⟨⟨by rw [pending]; exact count', ?_, ?_, by rw [pending]; exact higher, ?_⟩, ?_⟩
      · rw [set']
        cases later with
        | nil =>
            -- The first item is not removed: every candidate has a higher bitrate.
            obtain ⟨rfl, -⟩ := List.cons.inj whole
            exact absurd early (not_le.mpr (rate_pos (higher cur (.head _)) steep))
        | cons top later => exact ⟨later, (List.cons.inj whole).2⟩
      · rw [set', pending]
        exact List.Pairwise.sublist ((List.sublist_append_left _ _).append (.refl _)) ascending
      · rw [set', count']
        omega
      · rw [set', count']
        omega
  | pushed later' used set' current left count' =>
      have pending : after.pending = rest := by
        unfold Loop.pending
        rw [current, left]
        rfl
      refine ⟨⟨by rw [pending]; exact count', ?_, ?_, ?_, ?_⟩, ?_⟩
      · rw [set', whole]
        exact ⟨_ :: later, rfl⟩
      · rw [set', pending, List.map_cons, List.reverse_cons, List.map_cons, List.reverse_cons,
          List.append_assoc _ [cur] rest]
        exact ascending
      · rw [pending]
        exact fun item member => higher item (.tail _ member)
      · rw [set', count', List.length_cons, List.length_cons]
        omega
      · rw [set', count', List.length_cons, List.length_cons]
        omega
  | dropped later' late set' current left count' =>
      have pending : after.pending = rest := by
        unfold Loop.pending
        rw [current, left]
        rfl
      refine ⟨⟨by rw [pending]; exact count', ?_, ?_, ?_, ?_⟩, ?_⟩
      · rw [set']
        exact ⟨later, whole⟩
      · rw [set', pending, List.map_cons, List.reverse_cons]
        exact List.Pairwise.sublist ((List.Sublist.refl _).append (List.sublist_cons_self ..))
          ascending
      · rw [pending]
        exact fun item member => higher item (.tail _ member)
      · rw [set', count', List.length_cons]
        omega
      · rw [set', count', List.length_cons]
        omega

/-- The loop ends, and keeps what every round keeps. -/
theorem Orderly.run {invariant : Loop → Prop}
    (kept : ∀ {loop : Loop} {cur rest back below after}, loop.Orderly front capacity →
      invariant loop → loop.pending = cur :: rest → loop.boundingSet = back :: below →
      back.item.packetOverhead < cur.packetOverhead →
      Round cur rest back below ((cur.bitrateBps - back.item.bitrateBps).toNat /
        ((cur.packetOverhead.toNat : ℚ) - back.item.packetOverhead.toNat)) after →
      invariant after)
    (orderly : loop.Orderly front capacity) (holds : invariant loop) {rounds : Nat}
    (enough : 2 * loop.numCandidates + loop.boundingSet.length ≤ rounds + 1) :
    ∃ last, Loop.run capacity rounds loop = .ok last ∧ last.Orderly front capacity ∧
      invariant last ∧ last.numCandidates = 0 := by
  induction rounds generalizing loop with
  | zero =>
      have some : 0 < loop.boundingSet.length := by
        obtain ⟨later, whole⟩ := orderly.first
        rw [whole, List.length_append, List.length_singleton]
        omega
      have none : loop.numCandidates = 0 := by omega
      exact ⟨loop, if_pos none, orderly, holds, none⟩
  | succ rounds ih =>
      unfold Loop.run
      by_cases none : loop.numCandidates = 0
      · rw [if_pos none]
        exact ⟨loop, rfl, orderly, holds, none⟩
      · rw [if_neg none]
        obtain ⟨cur, rest, back, below, after, shape, set, ran, steep, effect⟩ := orderly.round none
        obtain ⟨orderly', closer⟩ := orderly.next shape set steep effect
        obtain ⟨last, ended, result⟩ :=
          ih orderly' (kept orderly holds shape set steep effect) (by omega)
        exact ⟨last, bind_eq_ok_iff.mpr ⟨after, ran, ended⟩, result⟩

end Loop

end BoundingSet

end MpWebRtc
