import MpWebRtc.Sender.AllocationSharing

/-!
# What the allocation guarantees

Every observer has one rate, and the rates add up to no more than the bitrate, or than the minima
that are enforced. With enough for all minima and less than all maxima, each rate is between its
minimum and its maximum, less than a unit is lost for each observer, and there is a level for what
the priority rates leave; but when the priority rates leave nothing and one of them is above its
maximum, that track keeps the rate.
-/

namespace MpWebRtc

open Math

namespace BitrateAllocation

variable {tracks : List AllocatableTrack} {bitrate : UInt32}

/-- Tracks as they are configured: the maxima together fit into a signed number. -/
structure WellFormed (tracks : List AllocatableTrack) : Prop where
  nonempty : tracks ≠ []
  distinct : (tracks.map AllocatableTrack.observer).Nodup
  ordered : ∀ track ∈ tracks, track.config.minBitrateBps ≤ track.config.maxBitrateBps
  priorities : ∀ track ∈ tracks, 0 < track.config.bitratePriority
  small : (tracks.map fun track => track.config.maxBitrateBps.toNat).sum < 2 ^ 31

/-- The minima together. -/
def minimums (tracks : List AllocatableTrack) : Nat :=
  (tracks.map fun track => track.config.minBitrateBps.toNat).sum

/-- The maxima together. -/
def maximums (tracks : List AllocatableTrack) : Nat :=
  (tracks.map fun track => track.config.maxBitrateBps.toNat).sum

/-- What is guaranteed with enough for all minima and less than all maxima. -/
structure Shared (tracks : List AllocatableTrack) (bitrate : UInt32) (allocation : Allocation) :
    Prop where
  within : ∀ track ∈ tracks, track.config.minBitrateBps ≤ rateOf allocation track.observer ∧
    rateOf allocation track.observer ≤ track.config.maxBitrateBps
  used : bitrate.toNat < totalRate tracks allocation + tracks.length
  level : ∃ level : ℚ, 0 ≤ level ∧ ∀ before track rest, tracks = before ++ track :: rest →
    let grant := granted before track (bitrate.toNat - minimums tracks)
    ((rateOf allocation track.observer).toNat : Int) = track.config.minBitrateBps.toNat + grant +
      min ((track.config.maxBitrateBps.toNat : Int) - track.config.minBitrateBps.toNat - grant)
        ⌊track.config.bitratePriority * level⌋

/-- The mode in which the rate is shared. -/
def IsShared (tracks : List AllocatableTrack) (bitrate : UInt32) : Prop :=
  enoughBitrateForAllObservers tracks bitrate (sumMinBitrates tracks) = true ∧
    bitrate ≤ sumMaxBitrates tracks

/-- What is guaranteed in all modes. -/
structure Divides (tracks : List AllocatableTrack) (bitrate : UInt32) (allocation : Allocation) :
    Prop where
  allots : Allots tracks allocation
  entries : allocation.entries.length = tracks.length
  bounded : totalRate tracks allocation ≤ max bitrate.toNat (tracks.map enforcedMinimum).sum
  shared : IsShared tracks bitrate → Shared tracks bitrate allocation

/-- The priority rates take all that is above the minima, and what is left for one of them is more
than its track may have. -/
def Overfilled (tracks : List AllocatableTrack) (bitrate : UInt32) : Prop :=
  bitrate.toNat - minimums tracks ≤ (tracks.map margin).sum ∧
    ∃ before track rest, tracks = before ++ track :: rest ∧
      (track.config.maxBitrateBps.toNat : Int) < track.config.priorityBitrateBps ∧
      minimums tracks + (before.map margin).sum + track.config.maxBitrateBps.toNat <
        bitrate.toNat + track.config.minBitrateBps.toNat

namespace WellFormed

variable (formed : WellFormed tracks)

include formed

variable {track : AllocatableTrack}

theorem max_lt (member : track ∈ tracks) : track.config.maxBitrateBps.toNat < 2 ^ 31 :=
  (List.le_sum_of_mem (List.mem_map_of_mem member)).trans_lt formed.small

theorem min_le_max (member : track ∈ tracks) :
    track.config.minBitrateBps.toNat ≤ track.config.maxBitrateBps.toNat :=
  UInt32.le_iff_toNat_le.mp (formed.ordered track member)

theorem min_lt (member : track ∈ tracks) : track.config.minBitrateBps.toNat < 2 ^ 31 :=
  (formed.min_le_max member).trans_lt (formed.max_lt member)

theorem minimums_le : minimums tracks ≤ maximums tracks :=
  List.sum_le_sum fun _ member => formed.min_le_max member

theorem toNat_sumMax : (sumMaxBitrates tracks).toNat = maximums tracks := by
  have sum := @toNat_sum tracks (fun track => track.config.maxBitrateBps) 0 (by
    have small := formed.small
    change 0 + _ < _
    omega)
  exact sum.trans (Nat.zero_add _)

theorem toNat_sumMin : (sumMinBitrates tracks).toNat = minimums tracks := by
  have sum := @toNat_sum tracks (fun track => track.config.minBitrateBps) 0 (by
    have small := formed.small
    have less := formed.minimums_le
    unfold minimums maximums at less
    change 0 + _ < _
    omega)
  exact sum.trans (Nat.zero_add _)

end WellFormed

section MaxRate

theorem toNat_foldl_sub {tracks : List AllocatableTrack} (rate : AllocatableTrack → UInt32)
    (start : UInt32) (fits : (tracks.map fun track => (rate track).toNat).sum ≤ start.toNat) :
    (tracks.foldl (fun left track => left - rate track) start).toNat =
      start.toNat - (tracks.map fun track => (rate track).toNat).sum := by
  induction tracks generalizing start with
  | nil => rfl
  | cons track rest ih =>
      rw [List.map_cons, List.sum_cons] at fits ⊢
      have first : (start - rate track).toNat = start.toNat - (rate track).toNat :=
        UInt32.toNat_sub_of_le _ _ (UInt32.le_iff_toNat_le.mpr (by omega))
      rw [List.foldl_cons, ih _ (by omega), first, Nat.sub_sub]

theorem allots_filled (distinct : (tracks.map AllocatableTrack.observer).Nodup)
    (value : AllocatableTrack → Int) : Allots tracks (filled tracks value) :=
  OrderedMap.covers_foldl_insert distinct value

variable {track : AllocatableTrack}

section

variable (distinct : (tracks.map AllocatableTrack.observer).Nodup)
include distinct

theorem find_filled (value : AllocatableTrack → Int) (member : track ∈ tracks) :
    (filled tracks value).find track.observer = some (value track) :=
  OrderedMap.find_foldl_insert distinct value _ member

theorem rateOf_filled (rate : AllocatableTrack → UInt32) (member : track ∈ tracks) :
    rateOf (filled tracks fun track => storeSigned (rate track)) track.observer = rate track := by
  unfold rateOf
  rw [find_filled distinct _ member]
  exact readUnsigned_storeSigned _

theorem totalRate_filled (rate : AllocatableTrack → UInt32) :
    totalRate tracks (filled tracks fun track => storeSigned (rate track)) =
      (tracks.map fun track => (rate track).toNat).sum := by
  unfold totalRate
  rw [List.map_congr_left fun track member =>
    congrArg UInt32.toNat (rateOf_filled distinct rate member)]

end

/-- **The allocation with more than all maxima.** -/
theorem maxRateAllocation_spec (formed : WellFormed tracks)
    (more : maximums tracks < bitrate.toNat) :
    ∃ after, maxRateAllocation tracks bitrate = some after ∧ Allots tracks after ∧
      totalRate tracks after ≤ bitrate.toNat ∧
      ∀ track ∈ tracks, track.config.maxBitrateBps ≠ 0 → rateOf after track.observer ≠ 0 := by
  have left := @toNat_foldl_sub tracks (fun track => track.config.maxBitrateBps) bitrate more.le
  have total := totalRate_filled formed.distinct fun track => track.config.maxBitrateBps
  have below := bitrate.toNat_lt
  unfold maximums at more
  unfold maxRateAllocation
  dsimp only
  generalize tracks.foldl (fun left track => left - track.config.maxBitrateBps) bitrate = rest
    at left ⊢
  obtain ⟨after, done, covers, bounded, kept, -⟩ := @distributeBitrateEvenly_spec tracks _
    kTransmissionMaxBitrateMultiplier rest formed.distinct (allots_filled formed.distinct fun track =>
      storeSigned track.config.maxBitrateBps)
    (fun none => by
      rw [none] at left
      change 0 = _ at left
      omega) (by omega) true
  refine ⟨after, done, covers, by omega, fun track member most => kept track member ?_ ?_⟩
  · intro none
    have value := congrArg UInt32.toNat none
    rw [UInt32.toNat_mul] at value
    change 2 * _ % _ = 0 at value
    have small := formed.max_lt member
    refine most (UInt32.toNat_inj.mp ?_)
    change _ = 0
    omega
  · rwa [rateOf_filled formed.distinct (fun track => track.config.maxBitrateBps) member]

end MaxRate

section NormalRate

/-- What the stages of the priority rates leave: a rate for each track, and what is left. -/
theorem normalRate_stages (formed : WellFormed tracks) (enough : minimums tracks ≤ bitrate.toNat)
    (atMost : bitrate.toNat ≤ maximums tracks) :
    ∃ rates : PriorityRates, servePriorities tracks
        { allocation := filled tracks fun track => storeSigned track.config.minBitrateBps
          capacities := filled tracks fun track =>
            storeSigned (track.config.maxBitrateBps - track.config.minBitrateBps)
          bitrate := bitrate - sumMinBitrates tracks } = some rates ∧
      Allots tracks rates.allocation ∧ Allots tracks rates.capacities ∧
      rates.bitrate.toNat = bitrate.toNat - minimums tracks - (tracks.map margin).sum ∧
      (tracks.map fun track => (rates.allocation.find track.observer).getD 0).sum +
          rates.bitrate.toNat = bitrate.toNat ∧
      ∀ before track rest, tracks = before ++ track :: rest →
        rates.allocation.find track.observer = some (track.config.minBitrateBps.toNat +
          granted before track (bitrate.toNat - minimums tracks) : Int) ∧
        rates.capacities.find track.observer = some (track.config.maxBitrateBps.toNat -
          track.config.minBitrateBps.toNat -
            granted before track (bitrate.toNat - minimums tracks) : Int) := by
  have small : maximums tracks < 2 ^ 31 := formed.small
  have budget : (bitrate - sumMinBitrates tracks).toNat = bitrate.toNat - minimums tracks := by
    rw [UInt32.toNat_sub_of_le, formed.toNat_sumMin]
    rw [UInt32.le_iff_toNat_le, formed.toNat_sumMin]
    exact enough
  have minimum : ∀ track ∈ tracks, (filled tracks fun track =>
      storeSigned track.config.minBitrateBps).find track.observer =
        some (track.config.minBitrateBps.toNat : Int) := by
    intro track member
    rw [find_filled formed.distinct _ member, storeSigned_of_lt (formed.min_lt member)]
  have capacity : ∀ track ∈ tracks, (filled tracks fun track =>
      storeSigned (track.config.maxBitrateBps - track.config.minBitrateBps)).find track.observer =
        some (track.config.maxBitrateBps.toNat - track.config.minBitrateBps.toNat : Int) := by
    intro track member
    have ordered := formed.min_le_max member
    have below := formed.max_lt member
    have room := UInt32.toNat_sub_of_le _ _ (formed.ordered track member)
    rw [find_filled formed.distinct _ member, storeSigned_of_lt (by omega), room,
      Nat.cast_sub ordered]
  obtain ⟨after, done, left, others, total, each⟩ := @servePriorities_spec tracks
    { allocation := filled tracks fun track => storeSigned track.config.minBitrateBps
      capacities := filled tracks fun track =>
        storeSigned (track.config.maxBitrateBps - track.config.minBitrateBps)
      bitrate := bitrate - sumMinBitrates tracks } formed.distinct
    (by rw [budget]; omega) minimum
    (fun track member => by
      dsimp only
      rw [capacity track member]
      rfl)
  dsimp only at left others total each
  rw [budget] at left total each
  have decomposed : ∀ track ∈ tracks, ∃ before rest, tracks = before ++ track :: rest :=
    fun track member => List.append_of_mem member
  refine ⟨after, done, fun observer => ?_, fun observer => ?_, left, ?_,
    fun before track rest split => ?_⟩
  · by_cases isTrack : observer ∈ tracks.map AllocatableTrack.observer
    · obtain ⟨track, member, rfl⟩ := List.mem_map.mp isTrack
      obtain ⟨before, rest, split⟩ := decomposed track member
      rw [(each before track rest split).1]
      exact iff_of_true rfl isTrack
    · rw [(others observer isTrack).1]
      exact allots_filled formed.distinct _ observer
  · by_cases isTrack : observer ∈ tracks.map AllocatableTrack.observer
    · obtain ⟨track, member, rfl⟩ := List.mem_map.mp isTrack
      obtain ⟨before, rest, split⟩ := decomposed track member
      rw [(each before track rest split).2, capacity track member]
      exact iff_of_true rfl isTrack
    · rw [(others observer isTrack).2]
      exact allots_filled formed.distinct _ observer
  · have sum : (tracks.map fun track => (track.config.minBitrateBps.toNat : Int)).sum =
        (minimums tracks : Nat) := by
      unfold minimums
      rw [Nat.cast_list_sum, List.map_map]
      rfl
    rw [sum] at total
    omega
  · obtain ⟨isRate, isCapacity⟩ := each before track rest split
    have member : track ∈ tracks := split ▸ List.mem_append_cons_self
    refine ⟨isRate, ?_⟩
    rw [isCapacity, capacity track member, Option.map_some]

variable {allocation : Allocation}

/-- Rates that fit are read as they are. -/
theorem toNat_rateOf {observer : Nat} {rate : Int}
    (found : allocation.find observer = some rate) (nonneg : 0 ≤ rate) (small : rate < 2 ^ 32) :
    ((rateOf allocation observer).toNat : Int) = rate := by
  unfold rateOf
  rw [found, Option.getD_some, toNat_readUnsigned nonneg small]
  omega

theorem totalRate_eq {rate : AllocatableTrack → Int}
    (found : ∀ track ∈ tracks, allocation.find track.observer = some (rate track))
    (fits : ∀ track ∈ tracks, 0 ≤ rate track ∧ rate track < 2 ^ 32) :
    (totalRate tracks allocation : Int) = (tracks.map rate).sum := by
  unfold totalRate
  rw [Nat.cast_list_sum, List.map_map]
  congr 1
  refine List.map_congr_left fun track member => ?_
  exact toNat_rateOf (found track member) (fits track member).1 (fits track member).2

/-- What a track has after the stage of the priority rates. -/
def served (tracks before : List AllocatableTrack) (bitrate : UInt32) (track : AllocatableTrack) :
    Nat :=
  track.config.minBitrateBps.toNat + granted before track (bitrate.toNat - minimums tracks)

/-- What the priority rates leave. -/
def leftOver (tracks : List AllocatableTrack) (bitrate : UInt32) : Nat :=
  bitrate.toNat - minimums tracks - (tracks.map margin).sum

/-- **The allocation with enough for all minima.** The priority rates are served, and what they
leave is shared out at a level. -/
theorem normalRateAllocation_spec (formed : WellFormed tracks)
    (enough : minimums tracks ≤ bitrate.toNat) (atMost : bitrate.toNat ≤ maximums tracks) :
    ∃ after, normalRateAllocation tracks bitrate (sumMinBitrates tracks) = some after ∧
      Allots tracks after ∧ totalRate tracks after ≤ bitrate.toNat ∧
      bitrate.toNat < totalRate tracks after + tracks.length ∧
      ∃ level : ℚ, 0 ≤ level ∧ ∀ before track rest, tracks = before ++ track :: rest →
        ((rateOf after track.observer).toNat : Int) = served tracks before bitrate track +
          if leftOver tracks bitrate = 0 then 0
          else min (track.config.maxBitrateBps.toNat - served tracks before bitrate track : Int)
            ⌊track.config.bitratePriority * level⌋ := by
  obtain ⟨rates, done, allots, covers, left, total, each⟩ := normalRate_stages formed enough atMost
  have small : maximums tracks < 2 ^ 31 := formed.small
  have positive := List.length_pos_of_ne_nil formed.nonempty
  let value : AllocatableTrack → Int := fun track =>
    (rates.allocation.find track.observer).getD 0
  have valueIs : ∀ before track rest, tracks = before ++ track :: rest →
      value track = served tracks before bitrate track := by
    intro before track rest split
    show (rates.allocation.find track.observer).getD 0 = _
    rw [(each before track rest split).1, Option.getD_some]
    rfl
  have known : ∀ track ∈ tracks, rates.allocation.find track.observer = some (value track) ∧
      rates.capacities.find track.observer =
        some (track.config.maxBitrateBps.toNat - value track) ∧
      0 ≤ value track ∧ value track ≤ bitrate.toNat := by
    intro track member
    obtain ⟨before, rest, split⟩ := List.append_of_mem member
    obtain ⟨isRate, isCapacity⟩ := each before track rest split
    have isValue := valueIs before track rest split
    have part : track.config.minBitrateBps.toNat ≤ minimums tracks :=
      List.le_sum_of_mem (List.mem_map_of_mem (f := fun track : AllocatableTrack =>
        track.config.minBitrateBps.toNat) member)
    unfold served granted at isValue
    refine ⟨?_, ?_, by omega, by omega⟩
    · rw [isRate, isValue]
      rfl
    · rw [isCapacity, isValue]
      unfold granted
      push_cast
      rw [sub_sub]
  have sumIs : (tracks.map value).sum + rates.bitrate.toNat = bitrate.toNat := total
  unfold normalRateAllocation
  dsimp only
  rw [done]
  dsimp only
  by_cases rest : rates.bitrate > 0
  · have isLeft : 0 < rates.bitrate.toNat := UInt32.lt_iff_toNat_lt.mp rest
    have notNone : leftOver tracks bitrate ≠ 0 := by
      unfold leftOver
      omega
    have capacities : (tracks.map fun track =>
        (track.config.maxBitrateBps.toNat - value track : Int)).sum =
          maximums tracks - (tracks.map value).sum := by
      have together : (tracks.map fun track => (track.config.maxBitrateBps.toNat - value track : Int) +
          value track).sum = maximums tracks := by
        unfold maximums
        rw [Nat.cast_list_sum, List.map_map]
        exact congrArg List.sum (List.map_congr_left fun track _ => sub_add_cancel _ _)
      rw [List.sum_map_add] at together
      have same : (tracks.map fun track => value track) = tracks.map value := rfl
      rw [same] at together
      omega
    have taken : ((tracks.map fun track =>
        (-(track.config.maxBitrateBps.toNat - value track : Int)).toNat).sum : Int) ≤
          (tracks.map value).sum := by
      rw [Nat.cast_list_sum, List.map_map]
      refine List.sum_le_sum fun track member => ?_
      have nonneg := (known track member).2.2.1
      show (((-(track.config.maxBitrateBps.toNat - value track : Int)).toNat : Nat) : Int) ≤ _
      omega
    obtain ⟨after, level, isAfter, afterAllots, nonneg, found, atMost', atLeast⟩ :=
      @distributeBitrateRelatively_spec tracks rates.bitrate rates.allocation rates.capacities
        formed.nonempty formed.distinct formed.priorities allots covers value _
        (fun track member => (known track member).1)
        (fun track member => (known track member).2.1)
        (fun track member => (known track member).2.2.1) (by omega) (by
          rw [capacities]
          omega)
    have fits : ∀ track ∈ tracks, 0 ≤ value track +
        min (track.config.maxBitrateBps.toNat - value track : Int)
          ⌊track.config.bitratePriority * level⌋ ∧
        value track + min (track.config.maxBitrateBps.toNat - value track : Int)
          ⌊track.config.bitratePriority * level⌋ < 2 ^ 32 := by
      intro track member
      have below := formed.max_lt member
      have valueNonneg := (known track member).2.2.1
      have share : 0 ≤ ⌊track.config.bitratePriority * level⌋ :=
        Int.floor_nonneg.mpr (mul_nonneg (formed.priorities track member).le nonneg)
      omega
    have sum := totalRate_eq found fits
    rw [List.sum_map_add] at sum
    have same : (tracks.map fun track => value track) = tracks.map value := rfl
    rw [same] at sum
    rw [if_pos rest]
    refine ⟨after, isAfter, afterAllots, by omega, by omega, level, nonneg,
      fun before track later split => ?_⟩
    have member : track ∈ tracks := split ▸ List.mem_append_cons_self
    rw [if_neg notNone, ← valueIs before track later split]
    exact toNat_rateOf (found track member) (fits track member).1 (fits track member).2
  · rw [if_neg rest]
    have isNone : rates.bitrate.toNat = 0 := by
      rw [gt_iff_lt, UInt32.lt_iff_toNat_lt] at rest
      exact Nat.eq_zero_of_not_pos rest
    have none : leftOver tracks bitrate = 0 := left.symm.trans isNone
    have sum := totalRate_eq (fun track member => (known track member).1) fun track member =>
      ⟨(known track member).2.2.1, by
        have below := bitrate.toNat_lt
        have most := (known track member).2.2.2
        omega⟩
    refine ⟨rates.allocation, rfl, allots, by omega, by omega, 0, le_rfl,
      fun before track rest split => ?_⟩
    have member : track ∈ tracks := split ▸ List.mem_append_cons_self
    obtain ⟨isRate, -, nonneg, most⟩ := known track member
    rw [if_pos none, add_zero, ← valueIs before track rest split]
    have below := bitrate.toNat_lt
    exact toNat_rateOf isRate nonneg (by omega)

end NormalRate

section Guarantees

/-- A track is overfilled when its priority rate is above its maximum and so much is left for it. -/
theorem overfilled_iff (formed : WellFormed tracks) (enough : minimums tracks ≤ bitrate.toNat) :
    Overfilled tracks bitrate ↔ leftOver tracks bitrate = 0 ∧
      ∃ before track rest, tracks = before ++ track :: rest ∧
        track.config.maxBitrateBps.toNat < served tracks before bitrate track := by
  refine and_congr (by unfold leftOver; omega) ?_
  refine exists_congr fun before => exists_congr fun track => exists_congr fun rest =>
    and_congr_right fun split => ?_
  have member : track ∈ tracks := split ▸ List.mem_append_cons_self
  have ordered := formed.min_le_max member
  unfold served granted margin
  omega

/-- The shared allocation keeps what it guarantees exactly when no track is overfilled. -/
theorem shared_iff (formed : WellFormed tracks) (enough : minimums tracks ≤ bitrate.toNat)
    {after : Allocation} {level : ℚ} (nonneg : 0 ≤ level)
    (used : bitrate.toNat < totalRate tracks after + tracks.length)
    (each : ∀ before track rest, tracks = before ++ track :: rest →
      ((rateOf after track.observer).toNat : Int) = served tracks before bitrate track +
        if leftOver tracks bitrate = 0 then 0
        else min (track.config.maxBitrateBps.toNat - served tracks before bitrate track : Int)
          ⌊track.config.bitratePriority * level⌋) :
    Shared tracks bitrate after ↔ ¬ Overfilled tracks bitrate := by
  rw [overfilled_iff formed enough]
  constructor
  · rintro shared ⟨none, before, track, rest, split, more⟩
    have member : track ∈ tracks := split ▸ List.mem_append_cons_self
    have rate := each before track rest split
    rw [if_pos none, add_zero] at rate
    have most := UInt32.le_iff_toNat_le.mp (shared.within track member).2
    omega
  · intro notOver
    have room : leftOver tracks bitrate = 0 → ∀ before track rest,
        tracks = before ++ track :: rest →
          served tracks before bitrate track ≤ track.config.maxBitrateBps.toNat :=
      fun none before track rest split => not_lt.mp fun more =>
        notOver ⟨none, before, track, rest, split, more⟩
    have share : ∀ track ∈ tracks, 0 ≤ ⌊track.config.bitratePriority * level⌋ := fun track member =>
      Int.floor_nonneg.mpr (mul_nonneg (formed.priorities track member).le nonneg)
    have atLeast : ∀ before (track : AllocatableTrack),
        track.config.minBitrateBps.toNat ≤ served tracks before bitrate track :=
      fun _ _ => Nat.le_add_right _ _
    refine ⟨fun track member => ?_, used, ?_⟩
    · obtain ⟨before, rest, split⟩ := List.append_of_mem member
      have rate := each before track rest split
      have ordered := formed.min_le_max member
      have some := share track member
      have least := atLeast before track
      rw [UInt32.le_iff_toNat_le, UInt32.le_iff_toNat_le]
      split at rate
      · rename_i none
        have most := room none before track rest split
        omega
      · omega
    · by_cases none : leftOver tracks bitrate = 0
      · refine ⟨0, le_rfl, fun before track rest split => ?_⟩
        have rate := each before track rest split
        have most := room none before track rest split
        rw [if_pos none] at rate
        rw [mul_zero, Int.floor_zero]
        unfold served at rate most
        push_cast at rate
        omega
      · refine ⟨level, nonneg, fun before track rest split => ?_⟩
        have rate := each before track rest split
        rw [if_neg none] at rate
        rw [rate]
        unfold served
        push_cast
        rw [sub_sub]

theorem minimums_le_of_enough (formed : WellFormed tracks)
    (enough : enoughBitrateForAllObservers tracks bitrate (sumMinBitrates tracks) = true) :
    minimums tracks ≤ bitrate.toNat := by
  unfold enoughBitrateForAllObservers at enough
  split at enough
  · cases enough
  · rename_i notLess
    rw [UInt32.lt_iff_toNat_lt, formed.toNat_sumMin] at notLess
    exact Nat.le_of_not_lt notLess

/-- **The allocation keeps what it guarantees** exactly when it is not in the shared mode with a
track that is overfilled. -/
theorem allocateBitrates_divides_iff (formed : WellFormed tracks) (positive : bitrate ≠ 0) :
    (∃ allocation, allocateBitrates tracks bitrate = some allocation ∧
      Divides tracks bitrate allocation) ↔
        ¬ (IsShared tracks bitrate ∧ Overfilled tracks bitrate) := by
  unfold allocateBitrates
  rw [if_neg formed.nonempty, if_neg positive]
  cases enough : enoughBitrateForAllObservers tracks bitrate (sumMinBitrates tracks) with
  | false =>
      rw [if_pos (by rfl)]
      have notShared : ¬ IsShared tracks bitrate := fun shared => by
        rw [IsShared, enough] at shared
        cases shared.1
      refine iff_of_true ?_ fun both => notShared both.1
      obtain ⟨after, done, allots, bounded, -⟩ := lowRateAllocation_spec formed.distinct
        (fun track member => formed.min_lt member) bitrate
      exact ⟨after, done, allots, allots.length_entries formed.distinct, bounded,
        fun shared => absurd shared notShared⟩
  | true =>
      rw [if_neg (by rw [Bool.not_true]; exact Bool.false_ne_true)]
      have fits := minimums_le_of_enough formed enough
      by_cases atMost : bitrate ≤ sumMaxBitrates tracks
      · rw [if_pos atMost]
        have isShared : IsShared tracks bitrate := ⟨enough, atMost⟩
        have most := UInt32.le_iff_toNat_le.mp atMost
        rw [formed.toNat_sumMax] at most
        obtain ⟨after, done, allots, bounded, used, level, nonneg, each⟩ :=
          normalRateAllocation_spec formed fits most
        have shared := shared_iff formed fits nonneg used each
        constructor
        · rintro ⟨allocation, isResult, divides⟩ ⟨-, tooMuch⟩
          obtain rfl := Option.some_inj.mp (done.symm.trans isResult)
          exact shared.mp (divides.shared isShared) tooMuch
        · intro notOver
          exact ⟨after, done, allots, allots.length_entries formed.distinct,
            bounded.trans (le_max_left _ _), fun _ =>
              shared.mpr fun tooMuch => notOver ⟨isShared, tooMuch⟩⟩
      · rw [if_neg atMost]
        refine iff_of_true ?_ fun both => atMost both.1.2
        rw [UInt32.le_iff_toNat_le, formed.toNat_sumMax, not_le] at atMost
        obtain ⟨after, done, allots, bounded, -⟩ := maxRateAllocation_spec formed atMost
        refine ⟨after, done, allots, allots.length_entries formed.distinct,
          bounded.trans (le_max_left _ _), fun shared => ?_⟩
        have most := UInt32.le_iff_toNat_le.mp shared.2
        rw [formed.toNat_sumMax] at most
        omega

end Guarantees

section Examples

variable (priorityBitrateBps : Int)

/-- Two tracks from 30 to 100 kbps, the first of them with a priority rate. -/
def priorityTracks : List AllocatableTrack :=
  [{ observer := 1
     config :=
      { minBitrateBps := 30000
        maxBitrateBps := 100000
        priorityBitrateBps := priorityBitrateBps } },
    { observer := 2
      config :=
      { minBitrateBps := 30000
        maxBitrateBps := 100000 } }]

theorem priorityTracks_formed : WellFormed (priorityTracks priorityBitrateBps) where
  nonempty := List.cons_ne_nil _ _
  distinct := show [1, 2].Nodup by decide
  ordered := by
    refine List.forall_mem_cons.mpr ⟨?_, List.forall_mem_singleton.mpr ?_⟩
    · exact (by decide : (30000 : UInt32) ≤ 100000)
    · exact (by decide : (30000 : UInt32) ≤ 100000)
  priorities := List.forall_mem_cons.mpr ⟨zero_lt_one, List.forall_mem_singleton.mpr zero_lt_one⟩
  small := by simp [priorityTracks]

/-- A priority rate within the maximum. -/
theorem allocateBitrates_divides_moderate :
    ∃ allocation, allocateBitrates (priorityTracks 80000) 150000 = some allocation ∧
      Divides (priorityTracks 80000) 150000 allocation := by
  refine (allocateBitrates_divides_iff (priorityTracks_formed 80000) (by decide)).mpr ?_
  rintro ⟨-, -, before, track, rest, split, tooMuch, -⟩
  have member : track ∈ priorityTracks 80000 := by
    rw [split]
    exact List.mem_append_cons_self
  rcases List.mem_cons.mp member with rfl | member
  · exact absurd tooMuch (by decide)
  · obtain rfl := List.mem_singleton.mp member
    exact absurd tooMuch (by decide)

/-- The first track gets 120 kbps, and nothing is left. -/
theorem priority_above_maximum :
    WellFormed (priorityTracks 200000) ∧
      (allocateBitrates (priorityTracks 200000) 150000).map (rateOf · 1) = some 120000 ∧
      ¬ ∃ allocation, allocateBitrates (priorityTracks 200000) 150000 = some allocation ∧
        Divides (priorityTracks 200000) 150000 allocation := by
  have rate : (allocateBitrates (priorityTracks 200000) 150000).map (rateOf · 1) =
      some 120000 := by decide +kernel
  refine ⟨priorityTracks_formed 200000, rate, ?_⟩
  rintro ⟨allocation, isResult, divides⟩
  have isShared : IsShared (priorityTracks 200000) 150000 := ⟨by decide +kernel, by decide +kernel⟩
  have within : rateOf allocation 1 ≤ 100000 :=
    ((divides.shared isShared).within _ List.mem_cons_self).2
  rw [isResult, Option.map_some, Option.some_inj] at rate
  rw [rate] at within
  exact absurd within (by decide)

end Examples

end BitrateAllocation

end MpWebRtc
