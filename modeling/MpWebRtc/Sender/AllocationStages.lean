import Mathlib.Algebra.BigOperators.Ring.Finset
import MpWebRtc.Math.KeyedFolds
import MpWebRtc.Sender.BitrateAllocator

/-!
# The stages of the allocation

What the even distribution and the stages for a low rate do: the rates that are given and what is
left never add up to more than before, an observer that has something keeps something, and whoever
can be served with all others is served.
-/

namespace MpWebRtc

open Math

section Numbers

theorem readUnsigned_storeSigned (rate : UInt32) : readUnsigned (storeSigned rate) = rate := by
  have below := rate.toNat_lt
  have same : rate.toBitVec.toNat = rate.toNat := rfl
  have wraps : (rate.toNat : Int).bmod (2 ^ 32) % ((2 ^ 32 : Nat) : Int) =
      rate.toNat % ((2 ^ 32 : Nat) : Int) := Int.bmod_emod
  unfold readUnsigned storeSigned UInt32.ofInt
  apply UInt32.toNat_inj.mp
  rw [UInt32.toNat_ofNat', BitVec.toInt_eq_toNat_bmod, same]
  omega

theorem storeSigned_of_lt {rate : UInt32} (small : rate.toNat < 2 ^ 31) :
    storeSigned rate = rate.toNat := by
  have same : rate.toBitVec.toNat = rate.toNat := rfl
  unfold storeSigned
  rw [BitVec.toInt_eq_toNat_of_lt, same]
  rw [same]
  omega

theorem toNat_readUnsigned {rate : Int} (nonneg : 0 ≤ rate) (small : rate < 2 ^ 32) :
    (readUnsigned rate).toNat = rate.toNat := by
  unfold readUnsigned UInt32.ofInt
  rw [UInt32.toNat_ofNat']
  omega

theorem cutToInt_of_nonneg {rate : ℚ} (nonneg : 0 ≤ rate) : cutToInt rate = ⌊rate⌋ := by
  unfold cutToInt
  rw [Int.tdiv_eq_ediv_of_nonneg (Rat.num_nonneg.mpr nonneg), Rat.floor_def']

theorem toNat_sum {tracks : List AllocatableTrack} (rate : AllocatableTrack → UInt32)
    (start : UInt32)
    (small : start.toNat + (tracks.map fun track => (rate track).toNat).sum < 2 ^ 32) :
    (tracks.foldl (fun sum track => sum + rate track) start).toNat =
      start.toNat + (tracks.map fun track => (rate track).toNat).sum := by
  induction tracks generalizing start with
  | nil => rfl
  | cons track rest ih =>
      rw [List.map_cons, List.sum_cons] at small ⊢
      have first : (start + rate track).toNat = start.toNat + (rate track).toNat := by
        rw [UInt32.toNat_add]
        omega
      rw [List.foldl_cons, ih _ (by rw [first]; omega), first]
      omega

end Numbers

namespace BitrateAllocation

/-- The rate that an observer gets. -/
def rateOf (allocation : Allocation) (observer : Nat) : UInt32 :=
  readUnsigned ((allocation.find observer).getD 0)

/-- The rates of all observers together. -/
def totalRate (tracks : List AllocatableTrack) (allocation : Allocation) : Nat :=
  (tracks.map fun track => (rateOf allocation track.observer).toNat).sum

/-- There is one entry for each observer. -/
abbrev Allots (tracks : List AllocatableTrack) (allocation : Allocation) : Prop :=
  allocation.Covers AllocatableTrack.observer tracks

variable {tracks : List AllocatableTrack} {allocation : Allocation}

theorem rateOf_insert (allocation : Allocation) (observer other : Nat) (rate : UInt32) :
    rateOf (allocation.insert observer (storeSigned rate)) other =
      if other = observer then rate else rateOf allocation other := by
  unfold rateOf
  rw [OrderedMap.find_insert]
  split
  · exact readUnsigned_storeSigned rate
  · rfl

theorem rateOf_insert_of_not_mem {observer : Nat}
    (absent : observer ∉ tracks.map AllocatableTrack.observer) (rate : UInt32) :
    ∀ track ∈ tracks, rateOf (allocation.insert observer (storeSigned rate)) track.observer =
      rateOf allocation track.observer := by
  intro track member
  rw [rateOf_insert, if_neg]
  rintro rfl
  exact absent (List.mem_map_of_mem member)

theorem totalRate_insert_of_not_mem {observer : Nat}
    (absent : observer ∉ tracks.map AllocatableTrack.observer) {rate : UInt32} :
    totalRate tracks (allocation.insert observer (storeSigned rate)) =
      totalRate tracks allocation := by
  unfold totalRate
  rw [List.map_congr_left fun track member =>
    congrArg UInt32.toNat (rateOf_insert_of_not_mem absent rate track member)]

/-- What is changed in the total by a new rate. -/
theorem totalRate_insert (distinct : (tracks.map AllocatableTrack.observer).Nodup)
    {track : AllocatableTrack} (member : track ∈ tracks) (rate : UInt32) :
    totalRate tracks (allocation.insert track.observer (storeSigned rate)) +
        (rateOf allocation track.observer).toNat =
      totalRate tracks allocation + rate.toNat := by
  have change := OrderedMap.sum_map_change
    (fun other => (rateOf allocation other.observer).toNat)
    (fun other =>
      (rateOf (allocation.insert track.observer (storeSigned rate)) other.observer).toNat)
    distinct member fun other _ apart => by rw [rateOf_insert, if_neg apart]
  rw [rateOf_insert, if_pos rfl] at change
  exact change

section Even

variable {multiplier bitrate : UInt32} {track : AllocatableTrack} {rest : List AllocatableTrack}

/-- What the even distribution does to the rates of some tracks. -/
structure Spread (multiplier bitrate : UInt32) (tracks : List AllocatableTrack)
    (before after : Allocation) : Prop where
  others : ∀ observer, observer ∉ tracks.map AllocatableTrack.observer →
    after.find observer = before.find observer
  found : ∀ observer, (after.find observer).isSome = (before.find observer).isSome
  bounded : totalRate tracks after ≤ totalRate tracks before + bitrate.toNat
  kept : ∀ track ∈ tracks, multiplier * track.config.maxBitrateBps ≠ 0 →
    rateOf before track.observer ≠ 0 → rateOf after track.observer ≠ 0

/-- One track gets a new rate, and the others get what is left. -/
theorem Spread.cons {before after : Allocation} {rate left : UInt32}
    (absent : track.observer ∉ rest.map AllocatableTrack.observer)
    (present : (before.find track.observer).isSome) (spread : Spread multiplier left rest
      (before.insert track.observer (storeSigned rate)) after)
    (bounded : rate.toNat + left.toNat ≤ (rateOf before track.observer).toNat + bitrate.toNat)
    (kept : multiplier * track.config.maxBitrateBps ≠ 0 → rateOf before track.observer ≠ 0 →
      rate ≠ 0) : Spread multiplier bitrate (track :: rest) before after := by
  have own : rateOf after track.observer = rate := by
    unfold rateOf
    rw [spread.others _ absent, OrderedMap.find_insert, if_pos rfl]
    exact readUnsigned_storeSigned rate
  refine ⟨fun observer outside => ?_, fun observer => ?_, ?_, fun other member most given => ?_⟩
  · rw [List.map_cons, List.mem_cons, not_or] at outside
    rw [spread.others observer outside.2, OrderedMap.find_insert, if_neg outside.1]
  · rw [spread.found, OrderedMap.find_insert]
    split
    · next same => rw [same, present, Option.isSome_some]
    · rfl
  · have total := spread.bounded
    rw [totalRate_insert_of_not_mem absent] at total
    unfold totalRate at total ⊢
    rw [List.map_cons, List.map_cons, List.sum_cons, List.sum_cons, own]
    omega
  · rcases List.mem_cons.mp member with rfl | inRest
    · rw [own]
      exact kept most given
    · apply spread.kept other inRest most
      rwa [rateOf_insert_of_not_mem absent rate other inRest]

/-- **The even distribution** comes to an end with the bitrate positive at every turn. -/
theorem distributeEvenly_spec (distinct : (tracks.map AllocatableTrack.observer).Nodup)
    (present : ∀ track ∈ tracks, (allocation.find track.observer).isSome)
    (positive : tracks ≠ [] → bitrate ≠ 0)
    (small : totalRate tracks allocation + bitrate.toNat < 2 ^ 32) :
    ∃ after, distributeEvenly multiplier tracks bitrate allocation = some after ∧
      Spread multiplier bitrate tracks allocation after := by
  induction tracks generalizing bitrate allocation with
  | nil => exact ⟨allocation, rfl, fun _ _ => rfl, fun _ => rfl, Nat.le_add_right _ _, nofun⟩
  | cons track rest ih =>
      rw [List.map_cons, List.nodup_cons] at distinct
      obtain ⟨absent, distinct⟩ := distinct
      have isThere := present track List.mem_cons_self
      obtain ⟨allocated, found⟩ := Option.isSome_iff_exists.mp isThere
      have nonzero : bitrate.toNat ≠ 0 := fun none =>
        positive (List.cons_ne_nil _ _) (UInt32.toNat_inj.mp none)
      have own : rateOf allocation track.observer = readUnsigned allocated := by
        unfold rateOf
        rw [found, Option.getD_some]
      have total : totalRate (track :: rest) allocation =
          (readUnsigned allocated).toNat + totalRate rest allocation := by
        rw [← own]
        rfl
      -- the share is not more than the bitrate, and less unless it is the last one
      have share : bitrate.toNat / (rest.length + 1) ≤ bitrate.toNat := Nat.div_le_self _ _
      have notAll : rest ≠ [] → bitrate.toNat / (rest.length + 1) < bitrate.toNat := by
        intro others
        have more := List.length_pos_of_ne_nil others
        exact Nat.div_lt_self (Nat.pos_of_ne_zero nonzero) (by omega)
      have below := bitrate.toNat_lt
      have extra : (UInt32.ofNat (bitrate.toNat / (rest.length + 1))).toNat =
          bitrate.toNat / (rest.length + 1) := by
        rw [UInt32.toNat_ofNat']
        exact Nat.mod_eq_of_lt (by omega)
      unfold distributeEvenly
      rw [if_neg fun none => nonzero (by rw [none]; rfl), found]
      dsimp only
      generalize UInt32.ofNat (bitrate.toNat / (rest.length + 1)) = extraAllocation at extra ⊢
      rw [← extra] at share notAll
      have left : (bitrate - extraAllocation).toNat = bitrate.toNat - extraAllocation.toNat :=
        UInt32.toNat_sub_of_le _ _ (UInt32.le_iff_toNat_le.mpr share)
      have sum : (extraAllocation + readUnsigned allocated).toNat =
          extraAllocation.toNat + (readUnsigned allocated).toNat := by
        rw [UInt32.toNat_add]
        exact Nat.mod_eq_of_lt (by omega)
      have step : ∀ rate left : UInt32,
          rate.toNat + left.toNat = (readUnsigned allocated).toNat + bitrate.toNat →
          (rest ≠ [] → left ≠ 0) → (multiplier * track.config.maxBitrateBps ≠ 0 →
            readUnsigned allocated ≠ 0 → rate ≠ 0) →
          ∃ after, distributeEvenly multiplier rest left
              (allocation.insert track.observer (storeSigned rate)) = some after ∧
            Spread multiplier bitrate (track :: rest) allocation after := by
        intro rate left same more kept
        obtain ⟨after, done, spread⟩ := @ih (allocation.insert track.observer (storeSigned rate))
          left distinct (fun other isOther => by
            rw [OrderedMap.find_insert]
            split
            · rfl
            · exact present other (.tail _ isOther)) more (by
            rw [totalRate_insert_of_not_mem absent]
            omega)
        refine ⟨after, done, spread.cons absent isThere ?_ ?_⟩
        · rw [own]
          exact same.le
        · rw [own]
          exact kept
      split
      · rename_i most
        rw [UInt32.lt_iff_toNat_lt, sum] at most
        have surplus := UInt32.toNat_sub_of_le (extraAllocation + readUnsigned allocated)
          (multiplier * track.config.maxBitrateBps) (UInt32.le_iff_toNat_le.mpr (by omega))
        rw [sum] at surplus
        have carried : (bitrate - extraAllocation + (extraAllocation + readUnsigned allocated -
            multiplier * track.config.maxBitrateBps)).toNat =
              bitrate.toNat + (readUnsigned allocated).toNat -
                (multiplier * track.config.maxBitrateBps).toNat := by
          rw [UInt32.toNat_add, left, surplus]
          omega
        apply step
        · rw [carried]
          omega
        · intro others none
          have less := notAll others
          rw [none] at carried
          change 0 = _ at carried
          omega
        · exact fun most _ => most
      · apply step
        · rw [sum, left]
          omega
        · intro others none
          have less := notAll others
          rw [none] at left
          change 0 = _ at left
          omega
        · intro _ given none
          refine given (UInt32.toNat_inj.mp ?_)
          rw [none] at sum
          change 0 = _ at sum
          change _ = 0
          omega

theorem totalRate_perm {others : List AllocatableTrack} (perm : others.Perm tracks) :
    totalRate others allocation = totalRate tracks allocation :=
  (perm.map _).sum_eq

theorem totalRate_filter (included : AllocatableTrack → Bool) :
    totalRate tracks allocation = totalRate (tracks.filter included) allocation +
      totalRate (tracks.filter fun track => !included track) allocation := by
  rw [← totalRate_perm (List.filter_append_perm included tracks)]
  unfold totalRate
  rw [List.map_append, List.sum_append]

theorem rateOf_of_find {observer : Nat} (found : allocation.find observer = some 0) :
    rateOf allocation observer = 0 := by
  unfold rateOf
  rw [found]
  rfl

/-- `DistributeBitrateEvenly` keeps one entry for each observer, gives no more than there is, and
leaves no observer without a rate that had one. -/
theorem distributeBitrateEvenly_spec (distinct : (tracks.map AllocatableTrack.observer).Nodup)
    (allots : Allots tracks allocation) (positive : bitrate ≠ 0)
    (small : totalRate tracks allocation + bitrate.toNat < 2 ^ 32) (includeZero : Bool) :
    ∃ after,
      distributeBitrateEvenly tracks bitrate includeZero multiplier allocation = some after ∧
      Allots tracks after ∧
      totalRate tracks after ≤ totalRate tracks allocation + bitrate.toNat ∧
      (∀ track ∈ tracks, multiplier * track.config.maxBitrateBps ≠ 0 →
        rateOf allocation track.observer ≠ 0 → rateOf after track.observer ≠ 0) ∧
      ∀ track ∈ tracks, includeZero = false → allocation.find track.observer = some 0 →
        after.find track.observer = some 0 := by
  unfold distributeBitrateEvenly
  rw [if_neg (not_not.mpr (allots.length_entries distinct))]
  dsimp only
  generalize isIncluded : (fun track : AllocatableTrack => includeZero ||
    decide (allocation.find track.observer ≠ some 0)) = included
  have perm := List.perm_insertionSort (fun first second : AllocatableTrack =>
    first.config.maxBitrateBps ≤ second.config.maxBitrateBps) (tracks.filter included)
  generalize (tracks.filter included).insertionSort (fun first second : AllocatableTrack =>
    first.config.maxBitrateBps ≤ second.config.maxBitrateBps) = sorted at perm ⊢
  have inTracks : ∀ track ∈ sorted, track ∈ tracks := fun track member =>
    (List.mem_filter.mp (perm.subset member)).1
  have sortedDistinct : (sorted.map AllocatableTrack.observer).Nodup :=
    (perm.map _).nodup_iff.mpr ((List.filter_sublist.map _).nodup distinct)
  have parts := fun allocation => @totalRate_filter tracks allocation included
  obtain ⟨after, done, spread⟩ : ∃ after,
      distributeEvenly multiplier sorted bitrate allocation = some after ∧
        Spread multiplier bitrate sorted allocation after := by
    apply distributeEvenly_spec sortedDistinct _ fun _ => positive
    · rw [totalRate_perm perm]
      have whole := parts allocation
      omega
    · exact fun track member =>
        (allots _).mpr (List.mem_map_of_mem (inTracks track member))
  -- the tracks that are left out keep what they have
  have leftOut : ∀ track ∈ tracks, included track = false →
      after.find track.observer = allocation.find track.observer := by
    intro track member out
    apply spread.others
    intro inside
    obtain ⟨other, isOther, same⟩ := List.mem_map.mp inside
    obtain rfl := List.inj_on_of_nodup_map distinct (inTracks other isOther) member same
    have isIn := (List.mem_filter.mp (perm.subset isOther)).2
    rw [out] at isIn
    cases isIn
  have others : totalRate (tracks.filter fun track => !included track) after =
      totalRate (tracks.filter fun track => !included track) allocation := by
    unfold totalRate
    refine congrArg List.sum (List.map_congr_left fun track member => ?_)
    obtain ⟨isTrack, out⟩ := List.mem_filter.mp member
    unfold rateOf
    rw [leftOut track isTrack (by simpa using out)]
  refine ⟨after, done, fun observer => ?_, ?_, fun track member most given => ?_,
    fun track member noZero zero => ?_⟩
  · rw [spread.found]
    exact allots observer
  · have bounded := spread.bounded
    rw [totalRate_perm perm, totalRate_perm perm] at bounded
    rw [parts after, parts allocation, others]
    omega
  · cases isIn : included track with
    | true =>
        have inSorted := perm.mem_iff.mpr (List.mem_filter.mpr ⟨member, isIn⟩)
        exact spread.kept track inSorted most given
    | false =>
        rw [← isIncluded] at isIn
        have zero : allocation.find track.observer = some 0 := by
          simpa using (Bool.or_eq_false_iff.mp isIn).2
        exact absurd (rateOf_of_find zero) given
  · rw [leftOut track member, zero]
    rw [← isIncluded]
    simp [noZero, zero]

end Even

section Serve

variable {eligible : AllocatableTrack → Bool} {track : AllocatableTrack}
  {before middle after : Allocation × Int}

/-- What the observers that are served cost that have no minimum in any case. -/
def servedCost (tracks : List AllocatableTrack) (allocation : Allocation) : Nat :=
  (tracks.map fun track =>
    if track.config.enforceMinBitrate = false ∧ allocation.find track.observer ≠ some 0 then
      track.minBitrateWithHysteresis.toNat
    else 0).sum

/-- What a stage of the allocation for a low rate does to the rates and to what is left. -/
structure Stage (tracks : List AllocatableTrack) (before after : Allocation × Int) : Prop where
  allots : Allots tracks before.1 → Allots tracks after.1
  bounded : (totalRate tracks after.1 : Int) + after.2 ≤ totalRate tracks before.1 + before.2
  cost : (servedCost tracks after.1 : Int) + after.2 ≤ servedCost tracks before.1 + before.2
  nonneg : 0 ≤ before.2 → 0 ≤ after.2
  kept : ∀ track ∈ tracks, track.minBitrateWithHysteresis ≠ 0 →
    rateOf before.1 track.observer ≠ 0 → rateOf after.1 track.observer ≠ 0

theorem Stage.refl (served : Allocation × Int) : Stage tracks served served :=
  ⟨id, le_rfl, le_rfl, id, fun _ _ _ given => given⟩

theorem Stage.trans (first : Stage tracks before middle) (second : Stage tracks middle after) :
    Stage tracks before after where
  allots covers := second.allots (first.allots covers)
  bounded := second.bounded.trans first.bounded
  cost := second.cost.trans first.cost
  nonneg positive := second.nonneg (first.nonneg positive)
  kept track member required given :=
    second.kept track member required (first.kept track member required given)

/-- To serve one track is a stage. -/
theorem stage_serve (distinct : (tracks.map AllocatableTrack.observer).Nodup)
    (member : track ∈ tracks) (eligible : AllocatableTrack → Bool) (served : Allocation × Int) :
    Stage tracks served (serve eligible served track) := by
  unfold serve
  split
  · dsimp only
    split
    · rename_i enough
      have total := @totalRate_insert tracks served.1 distinct track member
        track.minBitrateWithHysteresis
      have cost := OrderedMap.sum_map_change
        (fun other : AllocatableTrack =>
          if other.config.enforceMinBitrate = false ∧
              served.1.find other.observer ≠ some 0 then
            other.minBitrateWithHysteresis.toNat
          else 0)
        (fun other =>
          if other.config.enforceMinBitrate = false ∧ (served.1.insert track.observer
              (storeSigned track.minBitrateWithHysteresis)).find other.observer ≠ some 0 then
            other.minBitrateWithHysteresis.toNat
          else 0)
        distinct member fun other _ apart => by rw [OrderedMap.find_insert, if_neg apart]
      refine ⟨fun covers => covers.insert member _, ?_, ?_, fun _ => ?_,
        fun other isOther required given => ?_⟩
      · dsimp only
        omega
      · unfold servedCost
        dsimp only at cost ⊢
        split at cost <;> split at cost <;> omega
      · exact Int.sub_nonneg_of_le enough
      · dsimp only
        rw [rateOf_insert]
        split
        · rename_i same
          obtain rfl := List.inj_on_of_nodup_map distinct isOther member same
          exact required
        · exact given
    · exact .refl served
  · exact .refl served

theorem stage_foldl (distinct : (tracks.map AllocatableTrack.observer).Nodup)
    (list : List AllocatableTrack) (inTracks : list ⊆ tracks) (served : Allocation × Int) :
    Stage tracks served (list.foldl (serve eligible) served) := by
  induction list generalizing served with
  | nil => exact .refl served
  | cons track rest ih =>
      have first := stage_serve distinct (inTracks List.mem_cons_self) eligible served
      exact first.trans (ih (fun other isOther => inTracks (.tail _ isOther)) _)

theorem serve_other {observer : Nat} (apart : observer ≠ track.observer)
    (served : Allocation × Int) :
    (serve eligible served track).1.find observer = served.1.find observer := by
  unfold serve
  split
  · dsimp only
    split
    · exact (OrderedMap.find_insert observer).trans (if_neg apart)
    · rfl
  · rfl

theorem foldl_serve_other {observer : Nat} {list : List AllocatableTrack}
    (absent : observer ∉ list.map AllocatableTrack.observer) (served : Allocation × Int) :
    (list.foldl (serve eligible) served).1.find observer = served.1.find observer := by
  induction list generalizing served with
  | nil => rfl
  | cons track rest ih =>
      rw [List.map_cons, List.mem_cons, not_or] at absent
      rw [List.foldl_cons, ih absent.2, serve_other absent.1]

/-- What all the eligible tracks require. -/
def requiredRate (eligible : AllocatableTrack → Bool) (tracks : List AllocatableTrack) : Nat :=
  ((tracks.filter eligible).map fun track => track.minBitrateWithHysteresis.toNat).sum

theorem requiredRate_eq (eligible : AllocatableTrack → Bool) (tracks : List AllocatableTrack) :
    requiredRate eligible tracks = (tracks.map fun track =>
      if eligible track then track.minBitrateWithHysteresis.toNat else 0).sum := by
  unfold requiredRate
  induction tracks with
  | nil => rfl
  | cons track rest ih =>
      rw [List.filter_cons, List.map_cons, List.sum_cons, ← ih]
      split
      · rw [List.map_cons, List.sum_cons]
      · rw [Nat.zero_add]

/-- When there is enough for all tracks that are eligible then all of them are served. -/
theorem foldl_serve_all {list : List AllocatableTrack}
    (distinct : (list.map AllocatableTrack.observer).Nodup) (served : Allocation × Int)
    (enough : (requiredRate eligible list : Int) ≤ served.2) (member : track ∈ list)
    (isEligible : eligible track) :
    rateOf (list.foldl (serve eligible) served).1 track.observer =
      track.minBitrateWithHysteresis := by
  induction list generalizing served with
  | nil => cases member
  | cons first rest ih =>
      rw [List.map_cons, List.nodup_cons] at distinct
      obtain ⟨absent, distinct⟩ := distinct
      cases takes : eligible first with
      | false =>
          have same : requiredRate eligible (first :: rest) = requiredRate eligible rest := by
            unfold requiredRate
            rw [List.filter_cons_of_neg (by rw [takes]; exact Bool.false_ne_true)]
          rw [same] at enough
          have skipped : serve eligible served first = served := by
            unfold serve
            rw [takes]
            rfl
          rw [List.foldl_cons, skipped]
          refine ih distinct served enough ?_
          refine (List.mem_cons.mp member).resolve_left ?_
          rintro rfl
          rw [isEligible] at takes
          cases takes
      | true =>
          have sum : requiredRate eligible (first :: rest) =
              first.minBitrateWithHysteresis.toNat + requiredRate eligible rest := by
            unfold requiredRate
            rw [List.filter_cons_of_pos takes, List.map_cons, List.sum_cons]
          rw [sum] at enough
          have isServed : serve eligible served first =
              (served.1.insert first.observer (storeSigned first.minBitrateWithHysteresis),
                served.2 - first.minBitrateWithHysteresis.toNat) := by
            unfold serve
            rw [if_pos takes]
            exact if_pos (show _ ≤ _ by omega)
          rw [List.foldl_cons, isServed]
          rcases List.mem_cons.mp member with rfl | inRest
          · unfold rateOf
            rw [foldl_serve_other absent, OrderedMap.find_insert, if_pos rfl]
            exact readUnsigned_storeSigned _
          · refine ih distinct _ ?_ inRest
            dsimp only
            omega

end Serve

section LowRate

variable {bitrate : UInt32} {track : AllocatableTrack}

/-- The minimum of a track, if it is enforced. -/
def enforcedMinimum (track : AllocatableTrack) : Nat :=
  if track.config.enforceMinBitrate then track.config.minBitrateBps.toNat else 0

theorem enforcedBitrate_eq (small : track.config.minBitrateBps.toNat < 2 ^ 31) :
    enforcedBitrate track = enforcedMinimum track := by
  unfold enforcedBitrate enforcedMinimum
  split
  · exact storeSigned_of_lt small
  · rfl

theorem enforceMinimums_eq (tracks : List AllocatableTrack) (served : Allocation × Int) :
    tracks.foldl (fun served track =>
        (served.1.insert track.observer (enforcedBitrate track),
          served.2 - enforcedBitrate track)) served =
      (tracks.foldl (fun allocation track =>
          allocation.insert track.observer (enforcedBitrate track)) served.1,
        served.2 - (tracks.map enforcedBitrate).sum) := by
  induction tracks generalizing served with
  | nil => exact Prod.ext rfl (sub_zero _).symm
  | cons track rest ih =>
      rw [List.foldl_cons, ih, List.foldl_cons, List.map_cons, List.sum_cons, ← sub_sub]

section

variable (distinct : (tracks.map AllocatableTrack.observer).Nodup)
include distinct

/-- What there is after the first stage. -/
theorem enforceMinimums_spec
    (small : ∀ track ∈ tracks, track.config.minBitrateBps.toNat < 2 ^ 31) (bitrate : UInt32) :
    let enforced := enforceMinimums tracks bitrate
    Allots tracks enforced.1 ∧
      (∀ track ∈ tracks, enforced.1.find track.observer = some (enforcedMinimum track : Int)) ∧
      totalRate tracks enforced.1 = (tracks.map enforcedMinimum).sum ∧
      servedCost tracks enforced.1 = 0 ∧
      enforced.2 = bitrate.toNat - ((tracks.map enforcedMinimum).sum : Nat) := by
  unfold enforceMinimums
  rw [enforceMinimums_eq]
  have found : ∀ track ∈ tracks, (tracks.foldl (fun allocation track =>
      allocation.insert track.observer (enforcedBitrate track)) ({} : Allocation)).find
        track.observer = some (enforcedMinimum track : Int) := by
    intro track member
    rw [OrderedMap.find_foldl_insert distinct enforcedBitrate _ member,
      enforcedBitrate_eq (small track member)]
  have rate : ∀ track ∈ tracks, (rateOf (tracks.foldl (fun allocation track =>
      allocation.insert track.observer (enforcedBitrate track)) ({} : Allocation))
        track.observer).toNat = enforcedMinimum track := by
    intro track member
    have below : enforcedMinimum track < 2 ^ 31 := by
      unfold enforcedMinimum
      split
      · exact small track member
      · exact Nat.two_pow_pos 31
    unfold rateOf
    rw [found track member, Option.getD_some, toNat_readUnsigned (Int.natCast_nonneg _) (by omega)]
    rfl
  refine ⟨OrderedMap.covers_foldl_insert distinct enforcedBitrate, found, ?_, ?_, ?_⟩
  · unfold totalRate
    rw [List.map_congr_left rate]
  · unfold servedCost
    refine List.sum_eq_zero fun cost member => ?_
    obtain ⟨track, isTrack, rfl⟩ := List.mem_map.mp member
    refine if_neg fun ⟨free, given⟩ => given ?_
    rw [found track isTrack]
    unfold enforcedMinimum
    rw [free]
    rfl
  · dsimp only
    congr 1
    rw [List.map_congr_left fun track member => enforcedBitrate_eq (small track member)]
    rw [Nat.cast_list_sum, List.map_map]
    rfl

theorem stage_serveActive
    (served : Allocation × Int) : Stage tracks served (serveActive tracks served) := by
  unfold serveActive
  split
  · exact stage_foldl distinct tracks (List.Subset.refl _) served
  · exact .refl served

theorem stage_servePaused
    (served : Allocation × Int) : Stage tracks served (servePaused tracks served) := by
  unfold servePaused
  split
  · exact stage_foldl distinct tracks (List.Subset.refl _) served
  · exact .refl served

end

/-- What is served before the remainder is split. -/
def servedInOrder (tracks : List AllocatableTrack) (bitrate : UInt32) : Allocation × Int :=
  servePaused tracks (serveActive tracks (enforceMinimums tracks bitrate))

theorem stage_servedInOrder (distinct : (tracks.map AllocatableTrack.observer).Nodup)
    (bitrate : UInt32) :
    Stage tracks (enforceMinimums tracks bitrate) (servedInOrder tracks bitrate) :=
  (stage_serveActive distinct _).trans (stage_servePaused distinct _)

/-- Nothing is served when the minima take everything. -/
theorem servedInOrder_of_nonpos (none : (enforceMinimums tracks bitrate).2 ≤ 0) :
    servedInOrder tracks bitrate = enforceMinimums tracks bitrate := by
  have active : serveActive tracks (enforceMinimums tracks bitrate) =
      enforceMinimums tracks bitrate := if_neg (not_lt.mpr none)
  unfold servedInOrder
  rw [active]
  exact if_neg (not_lt.mpr none)

/-- **The allocation for a low rate** gives one rate to each observer, no more than there is apart
from the minima, and a rate to those that are served. -/
theorem lowRateAllocation_spec (distinct : (tracks.map AllocatableTrack.observer).Nodup)
    (small : ∀ track ∈ tracks, track.config.minBitrateBps.toNat < 2 ^ 31) (bitrate : UInt32) :
    ∃ after, lowRateAllocation tracks bitrate = some after ∧ Allots tracks after ∧
      totalRate tracks after ≤ max bitrate.toNat (tracks.map enforcedMinimum).sum ∧
      (∀ track ∈ tracks, track.config.maxBitrateBps ≠ 0 →
        rateOf (servedInOrder tracks bitrate).1 track.observer ≠ 0 →
          rateOf after track.observer ≠ 0) ∧
      ∀ track ∈ tracks, (servedInOrder tracks bitrate).1.find track.observer = some 0 →
        after.find track.observer = some 0 := by
  obtain ⟨covers, -, total, -, left⟩ := enforceMinimums_spec distinct small bitrate
  have stage := stage_servedInOrder distinct bitrate
  have bounded := stage.bounded
  have below := bitrate.toNat_lt
  have isServed : lowRateAllocation tracks bitrate =
      (if (servedInOrder tracks bitrate).2 > 0 then
        distributeBitrateEvenly tracks (readUnsigned (servedInOrder tracks bitrate).2) false 1
          (servedInOrder tracks bitrate).1
      else some (servedInOrder tracks bitrate).1).filter fun allocation =>
        decide (allocation.entries.length = tracks.length) := rfl
  rw [isServed]
  generalize isRest : servedInOrder tracks bitrate = served at stage bounded ⊢
  have servedCovers := stage.allots covers
  by_cases more : served.2 > 0
  · rw [if_pos more]
    have rest : (readUnsigned served.2).toNat = served.2.toNat :=
      toNat_readUnsigned more.le (by omega)
    obtain ⟨after, done, afterCovers, atMost, kept, zero⟩ :=
      @distributeBitrateEvenly_spec tracks served.1 1 (readUnsigned served.2) distinct servedCovers
        (fun none => by
          rw [none] at rest
          change 0 = _ at rest
          omega) (by omega) false
    refine ⟨after, ?_, afterCovers, ?_, fun track member most => ?_,
      fun track member isZero => zero track member rfl isZero⟩
    · rw [done, Option.filter_some, if_pos]
      exact decide_eq_true (afterCovers.length_entries distinct)
    · omega
    · apply kept track member
      rwa [UInt32.one_mul]
  · rw [if_neg more]
    refine ⟨served.1, ?_, servedCovers, ?_, fun _ _ _ given => given, fun _ _ isZero => isZero⟩
    · rw [Option.filter_some, if_pos]
      exact decide_eq_true (servedCovers.length_entries distinct)
    · rcases le_or_gt (enforceMinimums tracks bitrate).2 0 with none | some
      · rw [← isRest, servedInOrder_of_nonpos none, total]
        exact le_max_right _ _
      · have nonneg := stage.nonneg some.le
        omega

end LowRate

end BitrateAllocation

end MpWebRtc
