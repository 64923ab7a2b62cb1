import MpWebRtc.Math.WaterFilling
import MpWebRtc.Sender.AllocationStages

/-!
# The sharing of the bitrate

With enough for all minima, the rates with priority are served one after the other as long as there
is something left, and what they leave is shared out by weights. A priority rate may be above the
maximum of its track; the sharing takes that back, but only when something is left to be shared.
-/

namespace MpWebRtc

open Math

namespace BitrateAllocation

variable {tracks : List AllocatableTrack} {track : AllocatableTrack}

/-- How far the priority rate of a track is above its minimum. -/
def margin (track : AllocatableTrack) : Nat :=
  (track.config.priorityBitrateBps - track.config.minBitrateBps.toNat).toNat

/-- What a track gets for its priority rate, after those before it. -/
def granted (before : List AllocatableTrack) (track : AllocatableTrack) (budget : Nat) : Nat :=
  min (margin track) (budget - (before.map margin).sum)

section Priorities

variable {rates : PriorityRates} {rest : List AllocatableTrack}

/-- One track of the stage. -/
theorem servePriorities_cons (small : rates.bitrate.toNat < 2 ^ 31)
    (found : rates.allocation.find track.observer =
      some (track.config.minBitrateBps.toNat : Int))
    (present : (rates.capacities.find track.observer).isSome) :
    ∃ next : PriorityRates, servePriorities (track :: rest) rates = servePriorities rest next ∧
      next.bitrate.toNat = rates.bitrate.toNat - margin track ∧
      (∀ observer, next.allocation.find observer =
        if observer = track.observer then
          some (track.config.minBitrateBps.toNat + granted [] track rates.bitrate.toNat : Int)
        else rates.allocation.find observer) ∧
      ∀ observer, next.capacities.find observer =
        if observer = track.observer then
          (rates.capacities.find observer).map fun capacity : Int =>
            capacity - (granted [] track rates.bitrate.toNat : Nat)
        else rates.capacities.find observer := by
  obtain ⟨capacity, hasCapacity⟩ := Option.isSome_iff_exists.mp present
  have grant : granted [] track rates.bitrate.toNat = min (margin track) rates.bitrate.toNat := rfl
  have below := rates.bitrate.toNat_lt
  conv => enter [1, next, 1, 1]; unfold servePriorities
  rw [found, Option.getD_some, hasCapacity, Option.getD_some]
  dsimp only
  split
  · rename_i serves
    obtain ⟨positive, left⟩ := serves
    have extra : min (track.config.priorityBitrateBps - track.config.minBitrateBps.toNat)
        (rates.bitrate.toNat : Int) = (granted [] track rates.bitrate.toNat : Nat) := by
      rw [grant]
      unfold margin
      omega
    have atMost : granted [] track rates.bitrate.toNat ≤ rates.bitrate.toNat :=
      grant.le.trans (min_le_right _ _)
    rw [extra, if_neg (by omega)]
    refine ⟨_, rfl, ?_, fun observer => ?_, fun observer => ?_⟩
    · have read : (readUnsigned (granted [] track rates.bitrate.toNat : Nat)).toNat =
          granted [] track rates.bitrate.toNat :=
        toNat_readUnsigned (Int.natCast_nonneg _) (by omega)
      dsimp only
      rw [UInt32.toNat_sub_of_le _ _ (UInt32.le_iff_toNat_le.mpr (by omega)), read, grant]
      omega
    · exact OrderedMap.find_insert observer
    · dsimp only
      rw [OrderedMap.find_insert]
      split
      · next same => rw [same, hasCapacity, Option.map_some]
      · rfl
  · rename_i skips
    have nothing : granted [] track rates.bitrate.toNat = 0 := by
      rw [grant]
      unfold margin
      by_contra some
      refine skips ⟨by omega, ?_⟩
      rw [gt_iff_lt, UInt32.lt_iff_toNat_lt]
      exact (show 0 < _ by omega)
    refine ⟨rates, rfl, ?_, fun observer => ?_, fun observer => ?_⟩
    · rw [grant] at nothing
      omega
    · split
      · next same => rw [same, found, nothing, Nat.cast_zero, add_zero]
      · rfl
    · split
      · next same => rw [same, hasCapacity, nothing, Option.map_some, Nat.cast_zero, sub_zero]
      · rfl

/-- After another track there is so much less left. -/
theorem granted_cons (first : AllocatableTrack) (before : List AllocatableTrack) (budget : Nat) :
    granted (first :: before) track budget = granted before track (budget - margin first) := by
  unfold granted
  rw [List.map_cons, List.sum_cons, Nat.sub_sub]

/-- **The stage of the priority rates:** each track gets its margin, or what the tracks before it
leave. -/
theorem servePriorities_spec (distinct : (tracks.map AllocatableTrack.observer).Nodup)
    (small : rates.bitrate.toNat < 2 ^ 31)
    (found : ∀ track ∈ tracks, rates.allocation.find track.observer =
      some (track.config.minBitrateBps.toNat : Int))
    (present : ∀ track ∈ tracks, (rates.capacities.find track.observer).isSome) :
    ∃ after : PriorityRates, servePriorities tracks rates = some after ∧
      after.bitrate.toNat = rates.bitrate.toNat - (tracks.map margin).sum ∧
      (∀ observer, observer ∉ tracks.map AllocatableTrack.observer →
        after.allocation.find observer = rates.allocation.find observer ∧
          after.capacities.find observer = rates.capacities.find observer) ∧
      (tracks.map fun track => (after.allocation.find track.observer).getD 0).sum +
          after.bitrate.toNat =
        (tracks.map fun track => (track.config.minBitrateBps.toNat : Int)).sum +
          rates.bitrate.toNat ∧
      ∀ before track rest, tracks = before ++ track :: rest →
        after.allocation.find track.observer =
          some (track.config.minBitrateBps.toNat + granted before track rates.bitrate.toNat : Int) ∧
        after.capacities.find track.observer =
          (rates.capacities.find track.observer).map fun capacity : Int =>
            capacity - (granted before track rates.bitrate.toNat : Nat) := by
  induction tracks generalizing rates with
  | nil =>
      refine ⟨rates, rfl, rfl, fun _ _ => ⟨rfl, rfl⟩, rfl, fun before track rest split => ?_⟩
      exact absurd split (List.append_ne_nil_of_right_ne_nil _ (List.cons_ne_nil _ _)).symm
  | cons first tracks ih =>
      rw [List.map_cons, List.nodup_cons] at distinct
      obtain ⟨absent, distinct⟩ := distinct
      obtain ⟨next, goesOn, left, allocated, capacities⟩ := @servePriorities_cons first rates tracks
        small (found first List.mem_cons_self) (present first List.mem_cons_self)
      have apart : ∀ track ∈ tracks, track.observer ≠ first.observer :=
        fun track member same => absent (same ▸ List.mem_map_of_mem member)
      obtain ⟨after, done, rest, others, total, each⟩ := @ih next distinct (by omega)
        (fun track member => by
          rw [allocated, if_neg (apart track member)]
          exact found track (.tail _ member))
        (fun track member => by
          rw [capacities, if_neg (apart track member)]
          exact present track (.tail _ member))
      refine ⟨after, goesOn.trans done, ?_, fun observer outside => ?_, ?_,
        fun before track later split => ?_⟩
      · rw [rest, left, List.map_cons, List.sum_cons, Nat.sub_sub]
      · rw [List.map_cons, List.mem_cons, not_or] at outside
        obtain ⟨sameRate, sameCapacity⟩ := others observer outside.2
        rw [sameRate, sameCapacity, allocated, capacities, if_neg outside.1, if_neg outside.1]
        exact ⟨rfl, rfl⟩
      · obtain ⟨sameRate, -⟩ := others first.observer absent
        have grant : granted [] first rates.bitrate.toNat =
            min (margin first) rates.bitrate.toNat := rfl
        rw [List.map_cons, List.map_cons, List.sum_cons, List.sum_cons, sameRate, allocated,
          if_pos rfl, Option.getD_some]
        omega
      · cases before with
        | nil =>
            obtain ⟨rfl, rfl⟩ := List.cons.inj split
            obtain ⟨sameRate, sameCapacity⟩ := others first.observer absent
            rw [sameRate, sameCapacity, allocated, capacities, if_pos rfl, if_pos rfl]
            exact ⟨rfl, rfl⟩
        | cons head before =>
            obtain ⟨rfl, rfl⟩ := List.cons.inj split
            obtain ⟨isRate, isCapacity⟩ := each before track later rfl
            have other := apart track List.mem_append_cons_self
            rw [isRate, isCapacity, granted_cons, left, capacities, if_neg other]
            exact ⟨rfl, rfl⟩

end Priorities

section Weights

variable {configs rest : List PriorityRateObserverConfig} {config : PriorityRateObserverConfig}
  {remaining : UInt32} {allocation : Allocation}

/-- An observer as a vessel for its part of the rate. -/
def PriorityRateObserverConfig.vessel (config : PriorityRateObserverConfig) : Vessel :=
  ⟨config.capacityBps, config.bitratePriority⟩

/-- What is taken back from observers whose rate is above their maximum. -/
def takenBack (configs : List PriorityRateObserverConfig) : Nat :=
  (configs.map fun config => (-config.capacityBps).toNat).sum

theorem toNat_sub_readUnsigned {capacity : Int} (fits : capacity ≤ remaining.toNat)
    (small : (remaining.toNat : Int) - capacity < 2 ^ 32) :
    ((remaining - readUnsigned capacity).toNat : Int) = remaining.toNat - capacity := by
  have below := remaining.toNat_lt
  rw [UInt32.toNat_sub]
  unfold readUnsigned UInt32.ofInt
  rw [UInt32.toNat_ofNat']
  omega

/-- **The loops of the relative distribution pour the rate into the capacities.** -/
theorem fillCapacities_spec (given : Vessel → Int)
    (distinct : (configs.map PriorityRateObserverConfig.allocationKey).Nodup)
    (positive : ∀ config ∈ configs, 0 < config.bitratePriority)
    (small : remaining.toNat + takenBack configs < 2 ^ 32)
    (rates : ∀ config ∈ configs, ∀ rate, allocation.find config.allocationKey = some rate →
      0 ≤ rate)
    (poured : Vessel.pour (configs.map PriorityRateObserverConfig.vessel) remaining.toNat
      (Vessel.totalWeight (configs.map PriorityRateObserverConfig.vessel)) =
        (configs.map PriorityRateObserverConfig.vessel).map given) :
    let after := fillCapacities configs remaining
      (Vessel.totalWeight (configs.map PriorityRateObserverConfig.vessel)) allocation
    (∀ observer, observer ∉ configs.map PriorityRateObserverConfig.allocationKey →
      after.find observer = allocation.find observer) ∧
    ∀ config ∈ configs, after.find config.allocationKey =
      (allocation.find config.allocationKey).map fun rate => rate + given config.vessel := by
  induction configs generalizing remaining allocation with
  | nil => exact ⟨fun _ _ => rfl, nofun⟩
  | cons config rest ih =>
      have restPositive := fun other member => positive other (.tail _ member)
      have vesselsPositive : ∀ vessel ∈ (config :: rest).map PriorityRateObserverConfig.vessel,
          0 < vessel.weight := by
        intro vessel member
        obtain ⟨other, isOther, rfl⟩ := List.mem_map.mp member
        exact positive other isOther
      have allDistinct := distinct
      rw [List.map_cons, List.nodup_cons] at distinct
      obtain ⟨absent, distinct⟩ := distinct
      have weights := Vessel.totalWeight_cons_pos vesselsPositive
      rw [List.map_cons] at poured ⊢
      unfold Vessel.pour at poured
      unfold fillCapacities
      generalize total : Vessel.totalWeight (config.vessel ::
        rest.map PriorityRateObserverConfig.vessel) = weight at poured weights
      have apart : ∀ other ∈ rest, other.allocationKey ≠ config.allocationKey :=
        fun other isOther same => absent (same ▸ List.mem_map_of_mem isOther)
      dsimp only
      by_cases enough : config.bitratePriority / weight * (remaining.toNat : ℚ) ≥ config.capacityBps
      · have isEnough : config.vessel.weight / weight * ((remaining.toNat : Int) : ℚ) ≥
            config.vessel.capacity := by exact_mod_cast enough
        rw [if_pos enough]
        rw [if_pos isEnough] at poured
        obtain ⟨isFull, poured⟩ := List.cons.inj poured
        rw [← total] at isEnough
        have fits : config.capacityBps ≤ remaining.toNat :=
          Vessel.capacity_le_of_enough vesselsPositive (Int.natCast_nonneg _) isEnough
        have taken : takenBack (config :: rest) = (-config.capacityBps).toNat + takenBack rest := rfl
        have left := toNat_sub_readUnsigned fits (by omega)
        have others : weight - config.bitratePriority =
            Vessel.totalWeight (rest.map PriorityRateObserverConfig.vessel) := by
          rw [← total]
          exact Vessel.totalWeight_sub
        have sameWeight : weight - config.vessel.weight = weight - config.bitratePriority := rfl
        have sameCapacity : (remaining.toNat : Int) - config.vessel.capacity =
            remaining.toNat - config.capacityBps := rfl
        rw [sameWeight, others, sameCapacity, ← left] at poured
        obtain ⟨outside, inside⟩ := @ih (remaining - readUnsigned config.capacityBps)
          (allocation.modify config.allocationKey fun rate => rate + config.capacityBps) distinct
          restPositive (by omega) (fun other isOther rate found => by
            rw [OrderedMap.find_modify, if_neg (apart other isOther)] at found
            exact rates other (.tail _ isOther) rate found) poured
        rw [others]
        refine ⟨fun observer away => ?_, fun other member => ?_⟩
        · rw [List.map_cons, List.mem_cons, not_or] at away
          rw [outside observer away.2, OrderedMap.find_modify, if_neg away.1]
        · rcases List.mem_cons.mp member with rfl | inRest
          · rw [outside _ absent, OrderedMap.find_modify, if_pos rfl, ← isFull]
            rfl
          · rw [inside other inRest, OrderedMap.find_modify, if_neg (apart other inRest)]
      · have isShort : ¬ config.vessel.weight / weight * ((remaining.toNat : Int) : ℚ) ≥
            config.vessel.capacity := fun isEnough => enough (by exact_mod_cast isEnough)
        rw [if_neg enough]
        rw [if_neg isShort, ← List.map_cons] at poured
        have part := List.map_inj_left.mp poured
        refine ⟨fun observer away => OrderedMap.find_foldl_modify_of_not_mem _ away _,
          fun other member => ?_⟩
        rw [OrderedMap.find_foldl_modify allDistinct (fun config rate => cutToInt
          (rate + config.bitratePriority / weight * remaining.toNat)) allocation member]
        refine Option.map_congr fun rate found => ?_
        have isPart := part other.vessel (List.mem_map_of_mem member)
        have share : (0 : ℚ) ≤ other.bitratePriority / weight * remaining.toNat :=
          mul_nonneg (div_nonneg (positive other member).le weights.le) (Nat.cast_nonneg _)
        have nonneg : (0 : ℚ) ≤ rate := by exact_mod_cast rates other member rate found
        rw [cutToInt_of_nonneg (add_nonneg nonneg share), Int.floor_intCast_add, ← isPart]
        push_cast
        rfl

variable {capacities : Allocation}

/-- The observers are in the order in which they get their full capacity. -/
theorem pairwise_sorted (configs : List PriorityRateObserverConfig) :
    ((configs.insertionSort fun first second => first.normalizedCapacity ≤
      second.normalizedCapacity).map PriorityRateObserverConfig.vessel).Pairwise
        fun first second => first.fullAt ≤ second.fullAt := by
  have total : Std.Total fun first second : PriorityRateObserverConfig =>
      first.normalizedCapacity ≤ second.normalizedCapacity := ⟨fun _ _ => le_total _ _⟩
  have trans : IsTrans PriorityRateObserverConfig fun first second =>
      first.normalizedCapacity ≤ second.normalizedCapacity := ⟨fun _ _ _ => le_trans⟩
  have sorted := List.pairwise_insertionSort (fun first second : PriorityRateObserverConfig =>
    first.normalizedCapacity ≤ second.normalizedCapacity) configs
  exact List.pairwise_map.mpr sorted

/-- `DistributeBitrateRelatively` shares out the rate at a level. -/
theorem distributeBitrateRelatively_spec (nonempty : tracks ≠ [])
    (distinct : (tracks.map AllocatableTrack.observer).Nodup)
    (positive : ∀ track ∈ tracks, 0 < track.config.bitratePriority)
    (allots : Allots tracks allocation) (covers : Allots tracks capacities)
    {value capacity : AllocatableTrack → Int}
    (values : ∀ track ∈ tracks, allocation.find track.observer = some (value track))
    (isCapacity : ∀ track ∈ tracks, capacities.find track.observer = some (capacity track))
    (nonneg : ∀ track ∈ tracks, 0 ≤ value track)
    (small : remaining.toNat + (tracks.map fun track => (-capacity track).toNat).sum < 2 ^ 32)
    (holds : remaining.toNat ≤ (tracks.map capacity).sum) :
    ∃ after level,
      distributeBitrateRelatively tracks remaining capacities allocation = some after ∧
      Allots tracks after ∧ 0 ≤ level ∧
      (∀ track ∈ tracks, after.find track.observer = some (value track +
        min (capacity track) ⌊track.config.bitratePriority * level⌋)) ∧
      (tracks.map fun track => min (capacity track)
        ⌊track.config.bitratePriority * level⌋).sum ≤ remaining.toNat ∧
      remaining.toNat < (tracks.map fun track => min (capacity track)
        ⌊track.config.bitratePriority * level⌋).sum + tracks.length := by
  unfold distributeBitrateRelatively
  rw [if_neg (by rw [allots.length_entries distinct, covers.length_entries distinct]; simp)]
  dsimp only
  let configOf : AllocatableTrack → PriorityRateObserverConfig := fun track =>
    ⟨track.observer, capacity track, track.config.bitratePriority⟩
  have configs : (tracks.map fun track => (⟨track.observer,
      (capacities.find track.observer).getD 0, track.config.bitratePriority⟩ :
        PriorityRateObserverConfig)) = tracks.map configOf := by
    refine List.map_congr_left fun track member => ?_
    rw [isCapacity track member]
    rfl
  rw [configs]
  have perm := List.perm_insertionSort (fun first second : PriorityRateObserverConfig =>
    first.normalizedCapacity ≤ second.normalizedCapacity) (tracks.map configOf)
  have sorted := pairwise_sorted (tracks.map configOf)
  generalize (tracks.map configOf).insertionSort (fun first second : PriorityRateObserverConfig =>
    first.normalizedCapacity ≤ second.normalizedCapacity) = order at perm sorted ⊢
  have fromTrack : ∀ config ∈ order, ∃ track ∈ tracks, configOf track = config :=
    fun config member => List.mem_map.mp (perm.subset member)
  have keys : (order.map PriorityRateObserverConfig.allocationKey).Perm
      (tracks.map AllocatableTrack.observer) := by
    have mapped := perm.map PriorityRateObserverConfig.allocationKey
    rwa [List.map_map] at mapped
  have vessels : (order.map PriorityRateObserverConfig.vessel).Perm
      (tracks.map fun track => (configOf track).vessel) := by
    have mapped := perm.map PriorityRateObserverConfig.vessel
    rwa [List.map_map] at mapped
  have weight : (tracks.map fun track => track.config.bitratePriority).sum =
      Vessel.totalWeight (order.map PriorityRateObserverConfig.vessel) := by
    have mapped := (vessels.map Vessel.weight).sum_eq
    rw [List.map_map (l := tracks)] at mapped
    exact mapped.symm
  have totalCapacity : Vessel.totalCapacity (order.map PriorityRateObserverConfig.vessel) =
      (tracks.map capacity).sum := by
    have mapped := (vessels.map Vessel.capacity).sum_eq
    rwa [List.map_map (l := tracks)] at mapped
  have taken : takenBack order = (tracks.map fun track => (-capacity track).toNat).sum := by
    have mapped := (perm.map fun config => (-config.capacityBps).toNat).sum_eq
    rwa [List.map_map] at mapped
  have length : order.length = tracks.length := by
    rw [perm.length_eq, List.length_map]
  have vesselsPositive : ∀ vessel ∈ order.map PriorityRateObserverConfig.vessel,
      0 < vessel.weight := by
    intro vessel member
    obtain ⟨config, inOrder, rfl⟩ := List.mem_map.mp member
    obtain ⟨track, isTrack, rfl⟩ := fromTrack config inOrder
    exact positive track isTrack
  have start : (0 : ℚ) * Vessel.totalWeight (order.map PriorityRateObserverConfig.vessel) ≤
      ((remaining.toNat : Int) : ℚ) := by
    rw [zero_mul]
    exact_mod_cast Nat.zero_le _
  obtain ⟨level, levelNonneg, poured⟩ := Vessel.exists_level vesselsPositive sorted start
  have atMost := Vessel.sum_pour_le vesselsPositive (Int.natCast_nonneg remaining.toNat)
  have atLeast := Vessel.le_sum_pour vesselsPositive (holds.trans totalCapacity.ge)
  have contents : ((order.map PriorityRateObserverConfig.vessel).map fun vessel =>
      vessel.contentAt level).sum = (tracks.map fun track => min (capacity track)
        ⌊track.config.bitratePriority * level⌋).sum := by
    have mapped := (vessels.map fun vessel => vessel.contentAt level).sum_eq
    rwa [List.map_map (l := tracks)] at mapped
  rw [poured, contents] at atMost atLeast
  rw [List.length_map, length] at atLeast
  obtain ⟨outside, inside⟩ := @fillCapacities_spec order remaining allocation
    (fun vessel => vessel.contentAt level) (keys.nodup_iff.mpr distinct)
    (fun config member => by
      obtain ⟨track, isTrack, rfl⟩ := fromTrack config member
      exact positive track isTrack)
    (by rw [taken]; exact small)
    (fun config member rate found => by
      obtain ⟨track, isTrack, rfl⟩ := fromTrack config member
      rw [values track isTrack] at found
      rw [← Option.some_inj.mp found]
      exact nonneg track isTrack) poured
  rw [weight]
  have each : ∀ track ∈ tracks, (fillCapacities order remaining
      (Vessel.totalWeight (order.map PriorityRateObserverConfig.vessel)) allocation).find
        track.observer = some (value track +
          min (capacity track) ⌊track.config.bitratePriority * level⌋) := by
    intro track member
    have found := inside (configOf track) (perm.mem_iff.mpr (List.mem_map_of_mem member))
    rw [show (configOf track).allocationKey = track.observer from rfl, values track member,
      Option.map_some] at found
    exact found
  refine ⟨_, level, rfl, fun observer => ?_, levelNonneg, each, atMost, ?_⟩
  · by_cases isTrack : observer ∈ tracks.map AllocatableTrack.observer
    · obtain ⟨track, member, rfl⟩ := List.mem_map.mp isTrack
      rw [each track member]
      exact iff_of_true rfl isTrack
    · rw [outside observer (mt keys.mem_iff.mp isTrack)]
      exact allots observer
  · have some := List.length_pos_of_ne_nil nonempty
    omega

end Weights

end BitrateAllocation

end MpWebRtc
