import Mathlib.Algebra.Order.Floor.Semifield
import MpWebRtc.Sender.AllocationBounds
import MpWebRtc.Sender.MergedRates

/-!
# Allocations under a steady estimate

`OnNetworkEstimateChanged` allocates anew with every estimate, and what a stream had last decides
how it is treated: an active stream has to be granted less than one that is resumed. As long as the
estimate and the share of the protection stay the same, a stream that has got a rate keeps one.
-/

namespace MpWebRtc

open BitrateAllocation

/-- The rates of a `BitrateAllocationUpdate`. -/
structure BitrateAllocationUpdate where
  targetBitrate : UInt32
  stableTargetBitrate : UInt32

/-- `BitrateAllocator`, without what it only passes on. -/
structure BitrateAllocator where
  allocatableTracks : List AllocatableTrack
  lastTargetBps : UInt32 := 0
  lastStableTargetBps : UInt32 := 0
  lastNonZeroBitrateBps : UInt32 := kDefaultBitrateBps
  numPauseEvents : Nat := 0

/-- What observers answer to an update: how much of the rate is used for protection. -/
abbrev ProtectionAnswers : Type := Nat → BitrateAllocationUpdate → UInt32

/-- `MediaRatio`. -/
def mediaRatio (allocatedBitrate protectionBitrate : UInt32) : ℚ :=
  if protectionBitrate = 0 then 1
  else (allocatedBitrate - protectionBitrate).toNat / allocatedBitrate.toNat

namespace AllocatableTrack

/-- A track after its observer has been updated. -/
def update (answers : ProtectionAnswers) (allocation stable : Allocation)
    (track : AllocatableTrack) : AllocatableTrack :=
  let allocatedBitrate := rateOf allocation track.observer
  let protectionBitrate := answers track.observer
    { targetBitrate := allocatedBitrate
      stableTargetBitrate := rateOf stable track.observer }
  { track with
    allocatedBitrateBps := some allocatedBitrate
    mediaRatio :=
      if allocatedBitrate > 0 then MpWebRtc.mediaRatio allocatedBitrate protectionBitrate
      else track.mediaRatio }

/-- Whether a track is paused or resumed by an allocation. -/
def toggles (allocation : Allocation) (track : AllocatableTrack) : Bool :=
  let allocatedBitrate := rateOf allocation track.observer
  match track.allocatedBitrateBps with
  | none => false
  | some before => (allocatedBitrate == 0 && before != 0) || (allocatedBitrate != 0 && before == 0)

end AllocatableTrack

namespace BitrateAllocator

variable (allocator : BitrateAllocator)

/-- `OnNetworkEstimateChanged`; none where an assertion fails. -/
def onNetworkEstimateChanged (answers : ProtectionAnswers) (msg : TargetTransferRate) :
    Option BitrateAllocator :=
  let lastTargetBps := UInt32.ofNat msg.targetRate
  let lastStableTargetBps := UInt32.ofNat msg.stableTargetRate
  match allocateBitrates allocator.allocatableTracks lastTargetBps with
  | none => none
  | some allocation =>
      match allocateBitrates allocator.allocatableTracks lastStableTargetBps with
      | none => none
      | some stable =>
          some
            { allocatableTracks :=
                allocator.allocatableTracks.map (AllocatableTrack.update answers allocation stable)
              lastTargetBps := lastTargetBps
              lastStableTargetBps := lastStableTargetBps
              lastNonZeroBitrateBps :=
                if lastTargetBps > 0 then lastTargetBps else allocator.lastNonZeroBitrateBps
              numPauseEvents := allocator.numPauseEvents +
                if lastTargetBps > 0 then
                  allocator.allocatableTracks.countP (AllocatableTrack.toggles allocation)
                else 0 }

end BitrateAllocator

/-- An estimate, and the answers of the observers to it. -/
structure EstimateCall where
  msg : TargetTransferRate
  answers : ProtectionAnswers

namespace BitrateAllocator

/-- Estimates one after the other. -/
def afterEstimates : BitrateAllocator → List EstimateCall → Option BitrateAllocator
  | allocator, [] => some allocator
  | allocator, call :: rest =>
      match allocator.onNetworkEstimateChanged call.answers call.msg with
      | none => none
      | some next => next.afterEstimates rest

/-- The share of the protection stays as it is. -/
def FixedRatios : BitrateAllocator → List EstimateCall → Prop
  | _, [] => True
  | allocator, call :: rest =>
      ∀ next, allocator.onNetworkEstimateChanged call.answers call.msg = some next →
        next.allocatableTracks.map AllocatableTrack.mediaRatio =
          allocator.allocatableTracks.map AllocatableTrack.mediaRatio ∧ next.FixedRatios rest

/-- An observer has been given a rate. -/
def Served (allocator : BitrateAllocator) (observer : Nat) : Prop :=
  ∃ track ∈ allocator.allocatableTracks, track.observer = observer ∧
    ∃ rate, track.allocatedBitrateBps = some rate ∧ rate ≠ 0

end BitrateAllocator

section Requirements

/-- The minimum of a track with the margin for resuming it. -/
def resumedMinimum (track : AllocatableTrack) : Nat :=
  track.config.minBitrateBps.toNat + max (track.config.minBitrateBps.toNat / 10) 20000

/-- The part of a requirement that is not for protection, inverted. -/
def protectionFactor (track : AllocatableTrack) : ℚ :=
  if 0 < track.mediaRatio ∧ track.mediaRatio < 1 then 2 - track.mediaRatio else 1

/-- Tracks with minima whose requirements fit into an unsigned number. -/
structure Representable (tracks : List AllocatableTrack) : Prop where
  formed : WellFormed tracks
  minima : ∀ track ∈ tracks, track.config.minBitrateBps ≠ 0
  requirements : ∀ track ∈ tracks, resumedMinimum track * protectionFactor track < 2 ^ 32

variable {track later : AllocatableTrack}

theorem one_le_protectionFactor (track : AllocatableTrack) : 1 ≤ protectionFactor track := by
  unfold protectionFactor
  split
  · next both => linarith [both.2]
  · exact le_rfl

theorem toNat_cutToUInt32 {rate : ℚ} (nonneg : 0 ≤ rate) (small : rate < 2 ^ 32) :
    (cutToUInt32 rate).toNat = ⌊rate⌋₊ := by
  unfold cutToUInt32
  rw [UInt32.toNat_ofNat']
  refine Nat.mod_eq_of_lt ((Nat.floor_lt nonneg).mpr ?_)
  exact_mod_cast small

/-- The minimum, with the margin if the track is paused. -/
def toggledMinimum (track : AllocatableTrack) : Nat :=
  if track.lastAllocatedBitrate = 0 then resumedMinimum track
  else track.config.minBitrateBps.toNat

theorem toggledMinimum_le (track : AllocatableTrack) :
    toggledMinimum track ≤ resumedMinimum track := by
  unfold toggledMinimum
  split
  · exact le_rfl
  · exact Nat.le_add_right _ _

theorem toNat_max (first second : UInt32) :
    (max first second).toNat = max first.toNat second.toNat := by
  show (if first ≤ second then second else first).toNat = _
  split
  · next less => exact (max_eq_right (UInt32.le_iff_toNat_le.mp less)).symm
  · rename_i more
    rw [UInt32.le_iff_toNat_le, not_le] at more
    exact (max_eq_left more.le).symm

/-- What is required for a track, when it fits. -/
theorem toNat_minBitrateWithHysteresis
    (fits : resumedMinimum track * protectionFactor track < 2 ^ 32) :
    track.minBitrateWithHysteresis.toNat =
      ⌊(toggledMinimum track : ℚ) * protectionFactor track⌋₊ := by
  have factor := one_le_protectionFactor track
  have toggled : (toggledMinimum track : ℚ) ≤ resumedMinimum track := by
    exact_mod_cast toggledMinimum_le track
  have below : (toggledMinimum track : ℚ) * protectionFactor track < 2 ^ 32 :=
    (mul_le_mul_of_nonneg_right toggled (by linarith)).trans_lt fits
  have resumedFits : resumedMinimum track < 2 ^ 32 := by
    have less : (resumedMinimum track : ℚ) < 2 ^ 32 :=
      (le_mul_of_one_le_right (Nat.cast_nonneg _) factor).trans_lt fits
    exact_mod_cast less
  have minimum : (if track.lastAllocatedBitrate = 0 then
      track.config.minBitrateBps + max (cutToUInt32
        (kToggleFactor * track.config.minBitrateBps.toNat)) kMinToggleBitrateBps
      else track.config.minBitrateBps).toNat = toggledMinimum track := by
    unfold toggledMinimum
    split
    · have tenth : kToggleFactor * track.config.minBitrateBps.toNat =
          (track.config.minBitrateBps.toNat : ℚ) / ((10 : Nat) : ℚ) := by
        unfold kToggleFactor
        push_cast
        ring
      have small : (track.config.minBitrateBps.toNat : ℚ) / ((10 : Nat) : ℚ) < 2 ^ 32 := by
        have bound : (track.config.minBitrateBps.toNat : ℚ) < 2 ^ 32 := by
          exact_mod_cast track.config.minBitrateBps.toNat_lt
        rw [div_lt_iff₀ (by norm_num)]
        push_cast
        linarith
      have margin : (cutToUInt32
          (kToggleFactor * track.config.minBitrateBps.toNat)).toNat =
            track.config.minBitrateBps.toNat / 10 := by
        rw [tenth, toNat_cutToUInt32 (by positivity) small, Nat.floor_div_eq_div]
      have least : kMinToggleBitrateBps.toNat = 20000 := rfl
      unfold resumedMinimum at resumedFits ⊢
      rw [UInt32.toNat_add, toNat_max, margin, least]
      exact Nat.mod_eq_of_lt resumedFits
    · rfl
  unfold AllocatableTrack.minBitrateWithHysteresis
  dsimp only
  generalize (if track.lastAllocatedBitrate = 0 then
      track.config.minBitrateBps + max (cutToUInt32
        (kToggleFactor * track.config.minBitrateBps.toNat)) kMinToggleBitrateBps
      else track.config.minBitrateBps) = rate at minimum ⊢
  unfold protectionFactor at below ⊢
  split
  · rename_i share
    rw [if_pos share] at below
    have product : (rate.toNat : ℚ) + rate.toNat * (1 - track.mediaRatio) =
        toggledMinimum track * (2 - track.mediaRatio) := by
      rw [minimum]
      ring
    rw [product]
    refine toNat_cutToUInt32 (mul_nonneg (Nat.cast_nonneg _) ?_) below
    linarith [share.2]
  · rw [mul_one, Nat.floor_natCast, minimum]

/-- The requirement of a track is not smaller before it is active than when it is. -/
theorem requirement_le (sameConfig : later.config = track.config)
    (sameRatio : later.mediaRatio = track.mediaRatio) (active : later.lastAllocatedBitrate ≠ 0)
    (fits : resumedMinimum track * protectionFactor track < 2 ^ 32) :
    later.minBitrateWithHysteresis.toNat ≤ track.minBitrateWithHysteresis.toNat := by
  have resumed : resumedMinimum later = resumedMinimum track := by
    unfold resumedMinimum
    rw [sameConfig]
  have factor : protectionFactor later = protectionFactor track := by
    unfold protectionFactor
    rw [sameRatio]
  rw [toNat_minBitrateWithHysteresis fits,
    toNat_minBitrateWithHysteresis (by rw [resumed, factor]; exact fits), factor]
  have less : toggledMinimum later ≤ toggledMinimum track := by
    unfold toggledMinimum
    rw [if_neg active, sameConfig]
    split
    · exact Nat.le_add_right _ _
    · exact le_rfl
  refine Nat.floor_le_floor (mul_le_mul_of_nonneg_right (by exact_mod_cast less) ?_)
  linarith [one_le_protectionFactor track]

/-- A track with a minimum requires something. -/
theorem requirement_ne_zero (minimum : track.config.minBitrateBps ≠ 0)
    (fits : resumedMinimum track * protectionFactor track < 2 ^ 32) :
    track.minBitrateWithHysteresis ≠ 0 := by
  intro none
  have value := toNat_minBitrateWithHysteresis fits
  rw [none] at value
  have positive : 1 ≤ toggledMinimum track := by
    have some : track.config.minBitrateBps.toNat ≠ 0 := fun zero =>
      minimum (UInt32.toNat_inj.mp zero)
    unfold toggledMinimum resumedMinimum
    split <;> omega
  have least : (1 : ℚ) ≤ toggledMinimum track * protectionFactor track := by
    have whole : (1 : ℚ) ≤ toggledMinimum track := by exact_mod_cast positive
    nlinarith [one_le_protectionFactor track]
  have floor := (Nat.one_le_floor_iff _).mpr least
  change 0 = _ at value
  omega

end Requirements

section Modes

variable {tracks : List AllocatableTrack} {bitrate : UInt32}

/-- Assertions never fail. -/
theorem allocateBitrates_total (formed : WellFormed tracks) (bitrate : UInt32) :
    ∃ allocation, allocateBitrates tracks bitrate = some allocation := by
  unfold allocateBitrates
  rw [if_neg formed.nonempty]
  split
  · exact ⟨_, rfl⟩
  · split
    · obtain ⟨after, done, -⟩ := lowRateAllocation_spec formed.distinct
        (fun track member => formed.min_lt member) bitrate
      exact ⟨after, done⟩
    · rename_i enough
      rw [Bool.not_eq_true, Bool.not_eq_false'] at enough
      split
      · rename_i most
        have most := UInt32.le_iff_toNat_le.mp most
        rw [formed.toNat_sumMax] at most
        obtain ⟨after, done, -⟩ := normalRateAllocation_spec formed
          (minimums_le_of_enough formed enough) most
        exact ⟨after, done⟩
      · rename_i more
        rw [UInt32.le_iff_toNat_le, formed.toNat_sumMax, not_le] at more
        obtain ⟨after, done, -⟩ := maxRateAllocation_spec formed more
        exact ⟨after, done⟩

/-- With enough for all minima every observer has a rate. -/
theorem rates_of_enough (fits : Representable tracks) (positive : bitrate ≠ 0)
    (enough : enoughBitrateForAllObservers tracks bitrate (sumMinBitrates tracks) = true)
    {allocation : Allocation} (isResult : allocateBitrates tracks bitrate = some allocation) :
    ∀ track ∈ tracks, rateOf allocation track.observer ≠ 0 := by
  have formed := fits.formed
  have minimum : ∀ track ∈ tracks, 0 < track.config.minBitrateBps.toNat := fun track member =>
    Nat.pos_of_ne_zero fun none => fits.minima track member (UInt32.toNat_inj.mp none)
  unfold allocateBitrates at isResult
  rw [if_neg formed.nonempty, if_neg positive, enough,
    if_neg (by rw [Bool.not_true]; exact Bool.false_ne_true)] at isResult
  split at isResult
  · rename_i most
    have most := UInt32.le_iff_toNat_le.mp most
    rw [formed.toNat_sumMax] at most
    obtain ⟨after, done, -, -, -, level, nonneg, each⟩ := normalRateAllocation_spec formed
      (minimums_le_of_enough formed enough) most
    obtain rfl := Option.some_inj.mp (done.symm.trans isResult)
    intro track member none
    obtain ⟨before, rest, split⟩ := List.append_of_mem member
    have rate := each before track rest split
    have ordered := formed.min_le_max member
    have some := minimum track member
    have share : 0 ≤ ⌊track.config.bitratePriority * level⌋ :=
      Int.floor_nonneg.mpr (mul_nonneg (formed.priorities track member).le nonneg)
    have least : track.config.minBitrateBps.toNat ≤ served tracks before bitrate track :=
      Nat.le_add_right _ _
    rw [none] at rate
    change 0 = _ at rate
    split at rate <;> omega
  · rename_i more
    rw [UInt32.le_iff_toNat_le, formed.toNat_sumMax, not_le] at more
    obtain ⟨after, done, -, -, kept⟩ := maxRateAllocation_spec formed more
    obtain rfl := Option.some_inj.mp (done.symm.trans isResult)
    intro track member
    refine kept track member fun none => ?_
    have ordered := formed.min_le_max member
    have some := minimum track member
    rw [none] at ordered
    change _ ≤ 0 at ordered
    omega

end Modes

section Steady

variable {tracks : List AllocatableTrack} {bitrate : UInt32} {first : Allocation}
  {next : AllocatableTrack → AllocatableTrack}

/-- What tracks are after they have been given the rates of an allocation, with the same share of
protection. -/
structure Follows (tracks : List AllocatableTrack) (allocation : Allocation)
    (next : AllocatableTrack → AllocatableTrack) : Prop where
  observer : ∀ track ∈ tracks, (next track).observer = track.observer
  config : ∀ track ∈ tracks, (next track).config = track.config
  mediaRatio : ∀ track ∈ tracks, (next track).mediaRatio = track.mediaRatio
  rate : ∀ track ∈ tracks,
    (next track).allocatedBitrateBps = some (rateOf allocation track.observer)

namespace Follows

variable (follows : Follows tracks first next)

include follows

theorem map_observer :
    (tracks.map next).map AllocatableTrack.observer = tracks.map AllocatableTrack.observer := by
  rw [List.map_map]
  exact List.map_congr_left follows.observer

/-- What is computed from the configuration is the same. -/
theorem map_config {Value : Type} (value : MediaStreamAllocationConfig → Value) :
    (tracks.map next).map (fun track => value track.config) =
      tracks.map fun track => value track.config := by
  rw [List.map_map]
  exact List.map_congr_left fun track member => congrArg value (follows.config track member)

theorem lastAllocatedBitrate {track : AllocatableTrack} (member : track ∈ tracks) :
    (next track).lastAllocatedBitrate = rateOf first track.observer := by
  unfold AllocatableTrack.lastAllocatedBitrate
  rw [follows.rate track member, Option.getD_some]

theorem resumedMinimum {track : AllocatableTrack} (member : track ∈ tracks) :
    MpWebRtc.resumedMinimum (next track) = MpWebRtc.resumedMinimum track := by
  unfold MpWebRtc.resumedMinimum
  rw [follows.config track member]

theorem protectionFactor {track : AllocatableTrack} (member : track ∈ tracks) :
    MpWebRtc.protectionFactor (next track) = MpWebRtc.protectionFactor track := by
  unfold MpWebRtc.protectionFactor
  rw [follows.mediaRatio track member]

theorem representable (fits : Representable tracks) : Representable (tracks.map next) := by
  have each : ∀ P : MediaStreamAllocationConfig → Prop, (∀ track ∈ tracks, P track.config) →
      ∀ track ∈ tracks.map next, P track.config := by
    intro P holds track member
    obtain ⟨before, isTrack, rfl⟩ := List.mem_map.mp member
    rw [follows.config before isTrack]
    exact holds before isTrack
  refine ⟨⟨mt List.map_eq_nil_iff.mp fits.formed.nonempty, ?_,
    each (fun config => config.minBitrateBps ≤ config.maxBitrateBps) fits.formed.ordered,
    each (fun config => 0 < config.bitratePriority) fits.formed.priorities, ?_⟩,
    each (fun config => config.minBitrateBps ≠ 0) fits.minima, ?_⟩
  · rw [follows.map_observer]
    exact fits.formed.distinct
  · rw [follows.map_config fun config => config.maxBitrateBps.toNat]
    exact fits.formed.small
  · intro track member
    obtain ⟨before, isTrack, rfl⟩ := List.mem_map.mp member
    rw [follows.resumedMinimum isTrack, follows.protectionFactor isTrack]
    exact fits.requirements before isTrack

/-- When all have got a rate, what was enough is enough again. -/
theorem enough (fits : Representable tracks)
    (given : ∀ track ∈ tracks, rateOf first track.observer ≠ 0)
    (enough : enoughBitrateForAllObservers tracks bitrate (sumMinBitrates tracks) = true) :
    enoughBitrateForAllObservers (tracks.map next) bitrate
      (sumMinBitrates (tracks.map next)) = true := by
  have sum : sumMinBitrates (tracks.map next) = sumMinBitrates tracks := by
    have formed := fits.formed
    apply UInt32.toNat_inj.mp
    rw [(follows.representable fits).formed.toNat_sumMin, formed.toNat_sumMin]
    exact congrArg List.sum (follows.map_config fun config => config.minBitrateBps.toNat)
  unfold enoughBitrateForAllObservers at enough ⊢
  rw [sum, List.length_map]
  split at enough
  · cases enough
  · rename_i notLess
    rw [if_neg notLess]
    rw [List.all_eq_true] at enough ⊢
    intro later member
    obtain ⟨track, isTrack, rfl⟩ := List.mem_map.mp member
    have before := of_decide_eq_true (enough track isTrack)
    refine decide_eq_true ?_
    rw [follows.config track isTrack]
    rw [UInt32.le_iff_toNat_le] at before ⊢
    refine le_trans ?_ before
    refine requirement_le (follows.config track isTrack) (follows.mediaRatio track isTrack) ?_
      (fits.requirements track isTrack)
    rw [follows.lastAllocatedBitrate isTrack]
    exact given track isTrack

end Follows

/-- The tracks that are served first in the second allocation do not require more than all the
tracks cost that were served in the first one. -/
theorem requiredRate_le (fits : Representable tracks) (follows : Follows tracks first next)
    {served : Allocation} (zero : ∀ track ∈ tracks, served.find track.observer = some 0 →
      first.find track.observer = some 0) :
    requiredRate (fun track => !track.config.enforceMinBitrate && track.lastAllocatedBitrate != 0)
      (tracks.map next) ≤ servedCost tracks served := by
  rw [requiredRate_eq, List.map_map]
  refine List.sum_le_sum fun track member => ?_
  rw [Function.comp_apply, follows.config track member, follows.lastAllocatedBitrate member]
  split
  · rename_i eligible
    rw [Bool.and_eq_true, Bool.not_eq_true', bne_iff_ne] at eligible
    obtain ⟨free, given⟩ := eligible
    rw [if_pos ⟨free, fun none => given (rateOf_of_find (zero track member none))⟩]
    refine requirement_le (follows.config track member) (follows.mediaRatio track member) ?_
      (fits.requirements track member)
    rw [follows.lastAllocatedBitrate member]
    exact given
  · exact Nat.zero_le _

variable {track : AllocatableTrack} {second : Allocation}

/-- Two allocations for a low rate: who is served in the first is served in the second. -/
theorem lowRate_keeps (fits : Representable tracks) (follows : Follows tracks first next)
    (isFirst : lowRateAllocation tracks bitrate = some first)
    (isSecond : lowRateAllocation (tracks.map next) bitrate = some second) (member : track ∈ tracks)
    (given : rateOf first track.observer ≠ 0) : rateOf second track.observer ≠ 0 := by
  have formed := fits.formed
  have later := follows.representable fits
  have inLater : next track ∈ tracks.map next := List.mem_map_of_mem member
  obtain ⟨_, done, -, -, -, zero⟩ := lowRateAllocation_spec formed.distinct
    (fun track member => formed.min_lt member) bitrate
  obtain rfl := Option.some_inj.mp (done.symm.trans isFirst)
  obtain ⟨_, doneAgain, -, -, kept, -⟩ := lowRateAllocation_spec later.formed.distinct
    (fun track member => later.formed.min_lt member) bitrate
  obtain rfl := Option.some_inj.mp (doneAgain.symm.trans isSecond)
  obtain ⟨-, found, -, noCost, left⟩ := enforceMinimums_spec formed.distinct
    (fun track member => formed.min_lt member) bitrate
  obtain ⟨-, foundAgain, -, -, leftAgain⟩ := enforceMinimums_spec later.formed.distinct
    (fun track member => later.formed.min_lt member) bitrate
  have sameLeft : (enforceMinimums (tracks.map next) bitrate).2 =
      (enforceMinimums tracks bitrate).2 := by
    have same : (tracks.map next).map enforcedMinimum = tracks.map enforcedMinimum :=
      follows.map_config fun config =>
        if config.enforceMinBitrate then config.minBitrateBps.toNat else 0
    rw [left, leftAgain, same]
  have required := requirement_ne_zero (later.minima _ inLater) (later.requirements _ inLater)
  have most : (next track).config.maxBitrateBps ≠ 0 := by
    intro none
    have ordered := later.formed.min_le_max inLater
    rw [none] at ordered
    exact later.minima _ inLater (UInt32.toNat_inj.mp (Nat.le_zero.mp ordered))
  have again := kept (next track) inLater most
  rw [follows.observer track member] at again
  apply again
  cases enforced : track.config.enforceMinBitrate with
  | true =>
      -- the minimum is given in any case, and kept
      have stage := stage_servedInOrder later.formed.distinct bitrate
      have still := stage.kept (next track) inLater required
      rw [follows.observer track member] at still
      apply still
      intro none
      have rate := foundAgain (next track) inLater
      have value : enforcedMinimum (next track) = track.config.minBitrateBps.toNat := by
        unfold enforcedMinimum
        rw [follows.config track member, if_pos enforced]
      rw [follows.observer track member, value] at rate
      have below := formed.min_lt member
      have read := toNat_rateOf rate (Int.natCast_nonneg _) (by omega)
      rw [none] at read
      refine fits.minima track member (UInt32.toNat_inj.mp ?_)
      change ((0 : Nat) : Int) = _ at read
      exact (Int.ofNat.inj read).symm
  | false =>
      have isServed : (servedInOrder tracks bitrate).1.find track.observer ≠ some 0 :=
        fun none => given (rateOf_of_find (zero track member none))
      have nothing : (enforceMinimums tracks bitrate).1.find track.observer = some 0 := by
        rw [found track member]
        unfold enforcedMinimum
        rw [enforced]
        rfl
      have more : 0 < (enforceMinimums tracks bitrate).2 := by
        by_contra none
        rw [servedInOrder_of_nonpos (not_lt.mp none)] at isServed
        exact isServed nothing
      have stage := stage_servedInOrder formed.distinct bitrate
      have cost := stage.cost
      have nonneg := stage.nonneg more.le
      have enough := requiredRate_le fits follows zero
      have served := @foldl_serve_all (fun track => !track.config.enforceMinBitrate &&
        track.lastAllocatedBitrate != 0) (next track) (tracks.map next) later.formed.distinct
        (enforceMinimums (tracks.map next) bitrate) (by omega) inLater (by
          rw [follows.config track member, enforced, follows.lastAllocatedBitrate member]
          exact bne_iff_ne.mpr given)
      have active : serveActive (tracks.map next) (enforceMinimums (tracks.map next) bitrate) =
          (tracks.map next).foldl (serve fun track => !track.config.enforceMinBitrate &&
            track.lastAllocatedBitrate != 0) (enforceMinimums (tracks.map next) bitrate) :=
        if_pos (by rw [sameLeft]; exact more)
      have paused := stage_servePaused later.formed.distinct
        (serveActive (tracks.map next) (enforceMinimums (tracks.map next) bitrate))
      have still := paused.kept (next track) inLater required
      rw [active, served, follows.observer track member] at still
      have unfolded : servedInOrder (tracks.map next) bitrate =
          servePaused (tracks.map next) ((tracks.map next).foldl (serve fun track =>
            !track.config.enforceMinBitrate && track.lastAllocatedBitrate != 0)
              (enforceMinimums (tracks.map next) bitrate)) := congrArg _ active
      rw [unfolded]
      exact still required

/-- **One allocation after another of the same rate:** who has a rate keeps one. -/
theorem allocateBitrates_keeps (fits : Representable tracks) (follows : Follows tracks first next)
    (isFirst : allocateBitrates tracks bitrate = some first)
    (isSecond : allocateBitrates (tracks.map next) bitrate = some second) (member : track ∈ tracks)
    (given : rateOf first track.observer ≠ 0) : rateOf second track.observer ≠ 0 := by
  have formed := fits.formed
  have later := follows.representable fits
  by_cases positive : bitrate = 0
  · unfold allocateBitrates at isFirst
    rw [if_neg formed.nonempty, if_pos positive] at isFirst
    obtain rfl := Option.some_inj.mp isFirst
    exact absurd (rateOf_of_find (find_filled formed.distinct (fun _ => 0) member)) given
  · cases enough : enoughBitrateForAllObservers (tracks.map next) bitrate
        (sumMinBitrates (tracks.map next)) with
    | true =>
        have all := rates_of_enough later positive enough isSecond (next track)
          (List.mem_map_of_mem member)
        rwa [follows.observer track member] at all
    | false =>
        have notBefore : enoughBitrateForAllObservers tracks bitrate (sumMinBitrates tracks) =
            false := by
          rw [Bool.eq_false_iff]
          intro before
          have again := follows.enough fits (rates_of_enough fits positive before isFirst) before
          rw [enough] at again
          cases again
        unfold allocateBitrates at isFirst isSecond
        rw [if_neg formed.nonempty, if_neg positive, notBefore, if_pos (by rfl)] at isFirst
        rw [if_neg later.formed.nonempty, if_neg positive, enough, if_pos (by rfl)] at isSecond
        exact lowRate_keeps fits follows isFirst isSecond member given

end Steady

namespace BitrateAllocator

variable {allocator middle last : BitrateAllocator} {target : Nat}

/-- The allocator after an estimate with a target. -/
structure Settled (target : Nat) (allocator : BitrateAllocator)
    (tracks : List AllocatableTrack) (allocation : Allocation)
    (next : AllocatableTrack → AllocatableTrack) : Prop where
  fits : Representable tracks
  follows : Follows tracks allocation next
  isResult : allocateBitrates tracks (UInt32.ofNat target) = some allocation
  tracks : allocator.allocatableTracks = tracks.map next

/-- An estimate leads to an allocator that is settled. -/
theorem settled_of_estimate (fits : Representable allocator.allocatableTracks)
    {call : EstimateCall} (steady : call.msg.targetRate = target) {calls : List EstimateCall}
    (fixed : allocator.FixedRatios (call :: calls)) :
    ∃ middle allocation next,
      allocator.onNetworkEstimateChanged call.answers call.msg = some middle ∧
      middle.FixedRatios calls ∧
      Settled target middle allocator.allocatableTracks allocation next := by
  obtain ⟨allocation, isResult⟩ := allocateBitrates_total fits.formed (UInt32.ofNat target)
  obtain ⟨stable, isStable⟩ := allocateBitrates_total fits.formed
    (UInt32.ofNat call.msg.stableTargetRate)
  unfold FixedRatios at fixed
  unfold onNetworkEstimateChanged at fixed ⊢
  dsimp only at fixed ⊢
  rw [steady, isResult, isStable] at fixed ⊢
  obtain ⟨ratios, fixed⟩ := fixed _ rfl
  refine ⟨_, allocation, AllocatableTrack.update call.answers allocation stable, rfl, fixed, fits,
    ⟨fun _ _ => rfl, fun _ _ => rfl, ?_,
    fun _ _ => rfl⟩, isResult, rfl⟩
  rw [List.map_map] at ratios
  exact List.map_inj_left.mp ratios

/-- The observers that an allocation serves. -/
theorem Settled.served_iff {tracks : List AllocatableTrack} {allocation : Allocation}
    {next : AllocatableTrack → AllocatableTrack}
    (settled : Settled target allocator tracks allocation next) (observer : Nat) :
    allocator.Served observer ↔
      ∃ track ∈ tracks, track.observer = observer ∧ rateOf allocation observer ≠ 0 := by
  have follows := settled.follows
  unfold Served
  rw [settled.tracks]
  constructor
  · rintro ⟨_, member, rfl, rate, isRate, given⟩
    obtain ⟨track, isTrack, rfl⟩ := List.mem_map.mp member
    rw [follows.rate track isTrack] at isRate
    refine ⟨track, isTrack, (follows.observer track isTrack).symm, ?_⟩
    rw [follows.observer track isTrack, Option.some_inj.mp isRate]
    exact given
  · rintro ⟨track, isTrack, rfl, given⟩
    exact ⟨next track, List.mem_map_of_mem isTrack, follows.observer track isTrack, _,
      follows.rate track isTrack, given⟩

/-- Further estimates with the same target go through, and leave all observers served that were. -/
theorem Settled.afterEstimates {tracks : List AllocatableTrack} {allocation : Allocation}
    {next : AllocatableTrack → AllocatableTrack}
    (settled : Settled target allocator tracks allocation next) (calls more : List EstimateCall)
    (steady : ∀ call ∈ calls, call.msg.targetRate = target)
    (fixed : allocator.FixedRatios (calls ++ more)) :
    ∃ last, allocator.afterEstimates calls = some last ∧ last.FixedRatios more ∧
      (∃ tracks allocation next, Settled target last tracks allocation next) ∧
      ∀ observer, allocator.Served observer → last.Served observer := by
  induction calls generalizing allocator tracks allocation next with
  | nil => exact ⟨allocator, rfl, fixed, ⟨_, _, _, settled⟩, fun _ served => served⟩
  | cons call calls ih =>
      have fits : Representable allocator.allocatableTracks := by
        rw [settled.tracks]
        exact settled.follows.representable settled.fits
      obtain ⟨middle, second, update, isMiddle, restFixed, again⟩ :=
        settled_of_estimate fits (steady call List.mem_cons_self) fixed
      obtain ⟨last, done, lastFixed, lastSettled, kept⟩ := ih again
        (fun other member => steady other (.tail _ member)) restFixed
      refine ⟨last, ?_, lastFixed, lastSettled, fun observer served => kept observer ?_⟩
      · unfold BitrateAllocator.afterEstimates
        rw [isMiddle]
        exact done
      · rw [settled.served_iff] at served
        rw [again.served_iff, settled.tracks]
        obtain ⟨track, isTrack, rfl, given⟩ := served
        have isSecond := again.isResult
        rw [settled.tracks] at isSecond
        exact ⟨next track, List.mem_map_of_mem isTrack,
          settled.follows.observer track isTrack,
          allocateBitrates_keeps settled.fits settled.follows settled.isResult isSecond isTrack
            given⟩

/-- **A constant estimate never pauses a stream:** an observer that is given a rate in one call is
given one in every later call. -/
theorem constant_estimate_keeps_served (fits : Representable allocator.allocatableTracks)
    {earlier later : List EstimateCall} (nonempty : earlier ≠ [])
    (steady : ∀ call ∈ earlier ++ later, call.msg.targetRate = target)
    (fixed : allocator.FixedRatios (earlier ++ later)) :
    ∃ middle last, allocator.afterEstimates earlier = some middle ∧
      middle.afterEstimates later = some last ∧
      ∀ observer, middle.Served observer → last.Served observer := by
  cases earlier with
  | nil => exact absurd rfl nonempty
  | cons call earlier =>
      obtain ⟨start, allocation, next, isStart, startFixed, settled⟩ :=
        settled_of_estimate fits (steady call List.mem_cons_self) fixed
      obtain ⟨middle, isMiddle, middleFixed, ⟨tracks, second, update, again⟩, -⟩ :=
        settled.afterEstimates earlier later
          (fun other member => steady other (.tail _ (List.mem_append_left _ member))) startFixed
      obtain ⟨last, isLast, -, -, kept⟩ := again.afterEstimates later []
        (fun other member => steady other (.tail _ (List.mem_append_right _ member)))
        (by rw [List.append_nil]; exact middleFixed)
      refine ⟨middle, last, ?_, isLast, kept⟩
      unfold BitrateAllocator.afterEstimates
      rw [isStart]
      exact isMiddle

end BitrateAllocator

section Examples

/-- Estimates of a rate, to which the observers answer that they use no protection. -/
def unprotectedEstimates (target count : Nat) : List EstimateCall :=
  List.replicate count { msg := { targetRate := target }, answers := fun _ _ => 0 }

/-- Without protection the ratios stay as they are. -/
theorem fixedRatios_unprotected {allocator : BitrateAllocator} (target count : Nat)
    (whole : ∀ track ∈ allocator.allocatableTracks, track.mediaRatio = 1) :
    allocator.FixedRatios (unprotectedEstimates target count) := by
  induction count generalizing allocator with
  | zero => trivial
  | succ count ih =>
      intro next isNext
      have same : next.allocatableTracks.map AllocatableTrack.mediaRatio =
          allocator.allocatableTracks.map AllocatableTrack.mediaRatio := by
        unfold BitrateAllocator.onNetworkEstimateChanged at isNext
        dsimp only at isNext
        split at isNext
        · cases isNext
        · split at isNext
          · cases isNext
          · rw [← Option.some_inj.mp isNext, List.map_map]
            refine List.map_congr_left fun track member => ?_
            show (if _ then mediaRatio _ 0 else track.mediaRatio) = track.mediaRatio
            rw [whole track member]
            unfold mediaRatio
            split <;> rfl
      refine ⟨same, ih fun track member => ?_⟩
      have isRatio : track.mediaRatio ∈ next.allocatableTracks.map AllocatableTrack.mediaRatio :=
        List.mem_map_of_mem member
      rw [same] at isRatio
      obtain ⟨before, isTrack, ratio⟩ := List.mem_map.mp isRatio
      rw [← ratio]
      exact whole before isTrack

variable (minBitrateBps maxBitrateBps : UInt32)

/-- A track with an enforced minimum, and one from 40 kbps that is paused. -/
def secondPaused : BitrateAllocator where
  allocatableTracks :=
    [{ observer := 1
       config :=
        { minBitrateBps := minBitrateBps
          maxBitrateBps := maxBitrateBps
          enforceMinBitrate := true } },
      { observer := 2
        config :=
        { minBitrateBps := 40000
          maxBitrateBps := 100000 }
        allocatedBitrateBps := some 0 }]

theorem secondPaused_unprotected (target count : Nat) :
    (secondPaused minBitrateBps maxBitrateBps).FixedRatios (unprotectedEstimates target count) :=
  fixedRatios_unprotected target count
    (List.forall_mem_cons.mpr ⟨rfl, List.forall_mem_singleton.mpr rfl⟩)

theorem secondPaused_representable :
    Representable (secondPaused 30000 100000).allocatableTracks where
  formed :=
    { nonempty := List.cons_ne_nil _ _
      distinct := show [1, 2].Nodup by decide
      ordered := by
        refine List.forall_mem_cons.mpr ⟨?_, List.forall_mem_singleton.mpr ?_⟩
        · exact (by decide : (30000 : UInt32) ≤ 100000)
        · exact (by decide : (40000 : UInt32) ≤ 100000)
      priorities := List.forall_mem_cons.mpr
        ⟨zero_lt_one, List.forall_mem_singleton.mpr zero_lt_one⟩
      small := by simp [secondPaused] }
  minima := by
    refine List.forall_mem_cons.mpr ⟨?_, List.forall_mem_singleton.mpr ?_⟩
    · exact (by decide : (30000 : UInt32) ≠ 0)
    · exact (by decide : (40000 : UInt32) ≠ 0)
  requirements := by
    refine List.forall_mem_cons.mpr ⟨?_, List.forall_mem_singleton.mpr ?_⟩
    · show ((50000 : Nat) : ℚ) * (if (0 : ℚ) < 1 ∧ (1 : ℚ) < 1 then 2 - 1 else 1) < 2 ^ 32
      norm_num
    · show ((60000 : Nat) : ℚ) * (if (0 : ℚ) < 1 ∧ (1 : ℚ) < 1 then 2 - 1 else 1) < 2 ^ 32
      norm_num

/-- The second track is resumed in the mode for a low rate, and then there is enough for both. -/
theorem constant_estimate_keeps_resumed :
    ∃ middle last : BitrateAllocator,
      (secondPaused 30000 100000).afterEstimates (unprotectedEstimates 100000 1) = some middle ∧
      middle.afterEstimates (unprotectedEstimates 100000 2) = some last ∧
      ∀ observer, middle.Served observer → last.Served observer :=
  BitrateAllocator.constant_estimate_keeps_served secondPaused_representable
    (List.cons_ne_nil _ _)
    (fun call member => by
      rw [List.eq_of_mem_replicate (show call ∈ List.replicate 3 _ from member)])
    (secondPaused_unprotected 30000 100000 100000 3)

/-- A minimum that is negative as a signed number: in the second call the priority stage brings
the track from -30000 to zero. -/
theorem wrapped_minimum_pauses :
    (secondPaused 4294937296 4294967295).FixedRatios (unprotectedEstimates 40000 2) ∧
      ∃ middle last : BitrateAllocator,
        (secondPaused 4294937296 4294967295).afterEstimates (unprotectedEstimates 40000 1) =
          some middle ∧
        middle.afterEstimates (unprotectedEstimates 40000 1) = some last ∧
        middle.Served 1 ∧ ¬ last.Served 1 := by
  refine ⟨secondPaused_unprotected _ _ _ _, ?_⟩
  have once : ((secondPaused 4294937296 4294967295).afterEstimates
      (unprotectedEstimates 40000 1)).map (fun allocator => allocator.allocatableTracks.map
        fun track => (track.observer, track.allocatedBitrateBps)) =
      some [(1, some 4294942296), (2, some 65000)] := by decide +kernel
  have twice : (((secondPaused 4294937296 4294967295).afterEstimates
      (unprotectedEstimates 40000 1)).bind fun middle =>
        middle.afterEstimates (unprotectedEstimates 40000 1)).map (fun allocator =>
          allocator.allocatableTracks.map fun track =>
            (track.observer, track.allocatedBitrateBps)) =
      some [(1, some 0), (2, some 40000)] := by decide +kernel
  obtain ⟨middle, isMiddle, middleRates⟩ := Option.map_eq_some_iff.mp once
  rw [isMiddle, Option.bind_some] at twice
  obtain ⟨last, isLast, lastRates⟩ := Option.map_eq_some_iff.mp twice
  refine ⟨middle, last, isMiddle, isLast, ?_, ?_⟩
  · have member : (1, some (4294942296 : UInt32)) ∈ middle.allocatableTracks.map
        fun track => (track.observer, track.allocatedBitrateBps) := by
      rw [middleRates]
      exact List.mem_cons_self
    obtain ⟨track, isTrack, same⟩ := List.mem_map.mp member
    exact ⟨track, isTrack, congrArg Prod.fst same, 4294942296, congrArg Prod.snd same, by decide⟩
  · rintro ⟨track, isTrack, observer, rate, allocated, nonzero⟩
    have member : (1, some rate) ∈ last.allocatableTracks.map
        fun track => (track.observer, track.allocatedBitrateBps) :=
      List.mem_map.mpr ⟨track, isTrack, Prod.ext observer allocated⟩
    rw [lastRates] at member
    simp at member
    exact nonzero member

end Examples

end MpWebRtc
