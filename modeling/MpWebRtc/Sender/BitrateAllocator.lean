import Mathlib.Algebra.Order.Field.Rat
import Mathlib.Data.List.Sort
import Mathlib.Data.Rat.Floor
import MpWebRtc.Math.OrderedMap

/-!
# The bitrate allocator

`BitrateAllocator` divides the estimated bitrate among the streams. Without enough for all of them,
streams that are enforced come first, then those that were active, then those that were paused and
only with a margin. With enough for all, each has its minimum, the rates with priority are served in
the order of the streams, and the rest is shared out by weights. Fractions are exact numbers.
-/

namespace MpWebRtc

open Math

/-- The fields of `MediaStreamAllocationConfig` that the allocation reads. -/
structure MediaStreamAllocationConfig where
  minBitrateBps : UInt32
  maxBitrateBps : UInt32
  priorityBitrateBps : Int := 0
  enforceMinBitrate : Bool := false
  bitratePriority : ℚ := 1

/-- A track; without an allocation at the beginning. -/
structure AllocatableTrack where
  observer : Nat
  config : MediaStreamAllocationConfig
  allocatedBitrateBps : Option UInt32 := none
  mediaRatio : ℚ := 1

/-- The rates of the observers. -/
abbrev Allocation : Type := OrderedMap Nat Int

def kTransmissionMaxBitrateMultiplier : UInt32 := 2
def kDefaultBitrateBps : UInt32 := 300000
def kToggleFactor : ℚ := 1 / 10
def kMinToggleBitrateBps : UInt32 := 20000

/-- A fraction that is stored in an unsigned number. -/
def cutToUInt32 (rate : ℚ) : UInt32 := UInt32.ofNat ⌊rate⌋₊

/-- An unsigned number that is stored in a signed one. -/
def storeSigned (rate : UInt32) : Int := rate.toBitVec.toInt

/-- A signed number that is read as an unsigned one. -/
def readUnsigned (rate : Int) : UInt32 := UInt32.ofInt rate

/-- A fraction that is stored in a signed number. -/
def cutToInt (rate : ℚ) : Int := rate.num.tdiv rate.den

namespace AllocatableTrack

variable (track : AllocatableTrack)

/-- `LastAllocatedBitrate`: the minimum for a new observer. -/
def lastAllocatedBitrate : UInt32 := track.allocatedBitrateBps.getD track.config.minBitrateBps

/-- `MinBitrateWithHysteresis`. -/
def minBitrateWithHysteresis : UInt32 :=
  let minBitrate := track.config.minBitrateBps
  let toggled :=
    if track.lastAllocatedBitrate = 0 then
      minBitrate + max (cutToUInt32 (kToggleFactor * minBitrate.toNat)) kMinToggleBitrateBps
    else minBitrate
  if 0 < track.mediaRatio ∧ track.mediaRatio < 1 then
    cutToUInt32 (toggled.toNat + toggled.toNat * (1 - track.mediaRatio))
  else toggled

end AllocatableTrack

namespace BitrateAllocation

variable (tracks : List AllocatableTrack)

/-- A map that is filled with a value for each observer. -/
def filled (value : AllocatableTrack → Int) : Allocation :=
  tracks.foldl (fun map track => map.insert track.observer (value track)) {}

/-- `EnoughBitrateForAllObservers`. -/
def enoughBitrateForAllObservers (bitrate sumMinBitrates : UInt32) : Bool :=
  if bitrate < sumMinBitrates then false
  else
    let extraBitratePerObserver := UInt32.ofNat ((bitrate - sumMinBitrates).toNat / tracks.length)
    tracks.all fun track =>
      decide (track.minBitrateWithHysteresis ≤ track.config.minBitrateBps + extraBitratePerObserver)

/-- The loop of `DistributeBitrateEvenly`; none where an assertion fails. -/
def distributeEvenly (maxMultiplier : UInt32) :
    List AllocatableTrack → UInt32 → Allocation → Option Allocation
  | [], _, allocation => some allocation
  | track :: rest, bitrate, allocation =>
      if bitrate = 0 then none
      else
        match allocation.find track.observer with
        | none => none
        | some allocated =>
            let extraAllocation := UInt32.ofNat (bitrate.toNat / (rest.length + 1))
            let totalAllocation := extraAllocation + readUnsigned allocated
            let most := maxMultiplier * track.config.maxBitrateBps
            if most < totalAllocation then
              distributeEvenly maxMultiplier rest
                (bitrate - extraAllocation + (totalAllocation - most))
                (allocation.insert track.observer (storeSigned most))
            else
              distributeEvenly maxMultiplier rest (bitrate - extraAllocation)
                (allocation.insert track.observer (storeSigned totalAllocation))

/-- `DistributeBitrateEvenly`. -/
def distributeBitrateEvenly (bitrate : UInt32) (includeZeroAllocations : Bool)
    (maxMultiplier : UInt32) (allocation : Allocation) : Option Allocation :=
  if allocation.entries.length ≠ tracks.length then none
  else
    let included := tracks.filter fun track =>
      includeZeroAllocations || decide (allocation.find track.observer ≠ some 0)
    distributeEvenly maxMultiplier (included.insertionSort fun first second =>
      first.config.maxBitrateBps ≤ second.config.maxBitrateBps) bitrate allocation

/-- `PriorityRateObserverConfig`. -/
structure PriorityRateObserverConfig where
  allocationKey : Nat
  capacityBps : Int
  bitratePriority : ℚ

/-- The capacity, normalized by the rate at which it is filled. -/
def PriorityRateObserverConfig.normalizedCapacity (config : PriorityRateObserverConfig) : ℚ :=
  config.capacityBps / config.bitratePriority

/-- The first loop of `DistributeBitrateRelatively`: as long as the share of an observer is enough,
it gets its capacity. What is left is shared out by `shareProportionally`. -/
def fillCapacities : List PriorityRateObserverConfig → UInt32 → ℚ → Allocation → Allocation
  | [], _, _, allocation => allocation
  | config :: rest, remainingBitrate, bitratePrioritySum, allocation =>
      let observerShare := config.bitratePriority / bitratePrioritySum
      if observerShare * remainingBitrate.toNat ≥ config.capacityBps then
        fillCapacities rest (remainingBitrate - readUnsigned config.capacityBps)
          (bitratePrioritySum - config.bitratePriority)
          (allocation.modify config.allocationKey fun rate => rate + config.capacityBps)
      else
        (config :: rest).foldl (fun allocation config =>
          allocation.modify config.allocationKey fun rate =>
            cutToInt (rate + config.bitratePriority / bitratePrioritySum * remainingBitrate.toNat))
          allocation

/-- `DistributeBitrateRelatively`. -/
def distributeBitrateRelatively (remainingBitrate : UInt32) (observersCapacities : Allocation)
    (allocation : Allocation) : Option Allocation :=
  if allocation.entries.length ≠ tracks.length ∨
      observersCapacities.entries.length ≠ tracks.length then none
  else
    let priorityRateObservers := tracks.map fun track =>
      { allocationKey := track.observer
        capacityBps := (observersCapacities.find track.observer).getD 0
        bitratePriority := track.config.bitratePriority : PriorityRateObserverConfig }
    some (fillCapacities
      (priorityRateObservers.insertionSort fun first second =>
        first.normalizedCapacity ≤ second.normalizedCapacity)
      remainingBitrate (tracks.map fun track => track.config.bitratePriority).sum allocation)

/-- A stage of `LowRateAllocation`: what is required, to each of some tracks for which it is there. -/
def serve (eligible : AllocatableTrack → Bool) (served : Allocation × Int)
    (track : AllocatableTrack) : Allocation × Int :=
  if eligible track then
    let requiredBitrate := track.minBitrateWithHysteresis
    if served.2 ≥ requiredBitrate.toNat then
      (served.1.insert track.observer (storeSigned requiredBitrate),
        served.2 - requiredBitrate.toNat)
    else served
  else served

/-- The minimum of an observer that has one in any case. -/
def enforcedBitrate (track : AllocatableTrack) : Int :=
  if track.config.enforceMinBitrate then storeSigned track.config.minBitrateBps else 0

/-- The first stage of `LowRateAllocation`: the minima that are enforced. -/
def enforceMinimums (bitrate : UInt32) : Allocation × Int :=
  tracks.foldl (fun served track =>
    (served.1.insert track.observer (enforcedBitrate track), served.2 - enforcedBitrate track))
    ({}, bitrate.toNat)

/-- The second stage: the tracks that were active. -/
def serveActive (served : Allocation × Int) : Allocation × Int :=
  if served.2 > 0 then
    tracks.foldl (serve fun track =>
      !track.config.enforceMinBitrate && track.lastAllocatedBitrate != 0) served
  else served

/-- The third stage: the tracks that were paused. -/
def servePaused (served : Allocation × Int) : Allocation × Int :=
  if served.2 > 0 then
    tracks.foldl (serve fun track => track.lastAllocatedBitrate == 0) served
  else served

/-- `LowRateAllocation`. -/
def lowRateAllocation (bitrate : UInt32) : Option Allocation :=
  let served := servePaused tracks (serveActive tracks (enforceMinimums tracks bitrate))
  let split :=
    if served.2 > 0 then
      distributeBitrateEvenly tracks (readUnsigned served.2) false 1 served.1
    else some served.1
  split.filter fun allocation => decide (allocation.entries.length = tracks.length)

/-- What the rates with priority leave. -/
structure PriorityRates where
  allocation : Allocation
  capacities : Allocation
  bitrate : UInt32

/-- The rates with priority, in the order of the tracks. -/
def servePriorities : List AllocatableTrack → PriorityRates → Option PriorityRates
  | [], rates => some rates
  | track :: rest, rates =>
      let allocated := (rates.allocation.find track.observer).getD 0
      let priorityMargin := track.config.priorityBitrateBps - allocated
      if priorityMargin > 0 ∧ rates.bitrate > 0 then
        let extraBitrate := min priorityMargin rates.bitrate.toNat
        if extraBitrate ≥ 2 ^ 31 then none
        else
          servePriorities rest
            { allocation := rates.allocation.insert track.observer (allocated + extraBitrate)
              capacities := rates.capacities.insert track.observer
                ((rates.capacities.find track.observer).getD 0 - extraBitrate)
              bitrate := rates.bitrate - readUnsigned extraBitrate }
      else servePriorities rest rates

/-- `NormalRateAllocation`. -/
def normalRateAllocation (bitrate sumMinBitrates : UInt32) : Option Allocation :=
  let allocation := filled tracks fun track => storeSigned track.config.minBitrateBps
  let capacities := filled tracks fun track =>
    storeSigned (track.config.maxBitrateBps - track.config.minBitrateBps)
  match servePriorities tracks
    { allocation := allocation, capacities := capacities, bitrate := bitrate - sumMinBitrates } with
  | none => none
  | some rates =>
      if rates.bitrate > 0 then
        distributeBitrateRelatively tracks rates.bitrate rates.capacities rates.allocation
      else some rates.allocation

/-- `MaxRateAllocation`. -/
def maxRateAllocation (bitrate : UInt32) : Option Allocation :=
  let allocation := filled tracks fun track => storeSigned track.config.maxBitrateBps
  let left := tracks.foldl (fun left track => left - track.config.maxBitrateBps) bitrate
  distributeBitrateEvenly tracks left true kTransmissionMaxBitrateMultiplier allocation

/-- `ZeroRateAllocation`. -/
def zeroRateAllocation : Allocation := filled tracks fun _ => 0

def sumMinBitrates : UInt32 := tracks.foldl (fun sum track => sum + track.config.minBitrateBps) 0

def sumMaxBitrates : UInt32 := tracks.foldl (fun sum track => sum + track.config.maxBitrateBps) 0

/-- `AllocateBitrates`; none where an assertion fails. -/
def allocateBitrates (bitrate : UInt32) : Option Allocation :=
  if tracks = [] then some {}
  else if bitrate = 0 then some (zeroRateAllocation tracks)
  else if !enoughBitrateForAllObservers tracks bitrate (sumMinBitrates tracks) then
    lowRateAllocation tracks bitrate
  else if bitrate ≤ sumMaxBitrates tracks then
    normalRateAllocation tracks bitrate (sumMinBitrates tracks)
  else maxRateAllocation tracks bitrate

end BitrateAllocation

end MpWebRtc
