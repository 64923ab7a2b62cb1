import Mathlib.Data.List.Sort
import MpWebRtc.Math.Serial

/-!
# The NACK module

`NackModule2` watches the numbers of one path and keeps a list of those that are
missing. A packet ahead of the newest one puts everything skipped on the list; a
packet behind it is taken off. The list is bounded in age and in size: too many
missing packets clear it and ask for a key frame instead.

Ordered sets and maps of sequence numbers are lists kept in the order of the comparator, and
`erase(begin, lower_bound(k))` removes a front of them. The comparator orders the numbers of one
half of the circle; where a set spans more, what a search finds depends on the shape of its tree.
-/

namespace MpWebRtc

open Math.Serial

def kMaxPacketAge : UInt16 := 10000
def kMaxNackPackets : Nat := 1000
def kMaxNackRetries : Nat := 10
def kDefaultRttMs : Int := 100

/-- A missing packet. -/
structure NackInfo where
  seqNum : UInt16
  sendAtSeqNum : UInt16
  createdAtTime : Int
  sentAtTime : Int := -1
  retries : Nat := 0

/-- The state of `NackModule2`. -/
structure NackModule where
  initialized : Bool := false
  newestSeqNum : UInt16 := 0
  nackList : List NackInfo := []
  keyframeList : List UInt16 := []
  recoveredList : List UInt16 := []
  rttMs : Int := kDefaultRttMs

/-- What a call asks of the feedback sender: a batch of NACKs, and a key frame. -/
structure NackRequest where
  nackBatch : List UInt16 := []
  keyFrame : Bool := false

/-- The order of the sets: older numbers come first. -/
def olderFirst (a b : UInt16) : Prop := aheadOf b a

instance : DecidableRel olderFirst := fun a b => inferInstanceAs (Decidable (aheadOf b a = true))

/-- Insert into a set of sequence numbers. -/
def insertSeqNum (seq : UInt16) (set : List UInt16) : List UInt16 :=
  if seq ∈ set then set else set.orderedInsert olderFirst seq

/-- How many numbers at the front of a set meet a condition. -/
def countFront (condition : UInt16 → Bool) (set : List UInt16) : Fin (set.length + 1) :=
  ⟨(set.takeWhile condition).length, Nat.lt_succ_of_le (List.takeWhile_sublist _).length_le⟩

/-- The members of `std::set` on the numbers, which count from the front up to a bound. They are
known for numbers of one half of the circle; for others they may be anything. -/
structure SeqNumSet where
  insert : UInt16 → List UInt16 → List UInt16 := insertSeqNum
  find : UInt16 → List UInt16 → Bool := fun seq set => set.contains seq
  lowerBound : UInt16 → (set : List UInt16) → Fin (set.length + 1) :=
    fun seq => countFront fun number => aheadOf seq number
  upperBound : UInt16 → (set : List UInt16) → Fin (set.length + 1) :=
    fun seq => countFront fun number => !aheadOf number seq
  ordered : ∀ first seq set, set.Pairwise olderFirst →
    (∀ number ∈ seq :: set, (forwardDiff first number).toNat < 32768) →
      insert seq set = insertSeqNum seq set ∧ find seq set = set.contains seq ∧
        lowerBound seq set = countFront (fun number => aheadOf seq number) set ∧
        upperBound seq set = countFront (fun number => !aheadOf number seq) set := by
    exact fun _ _ _ _ _ => ⟨rfl, rfl, rfl, rfl⟩

/-- `erase(begin, lower_bound(seq))`. -/
def SeqNumSet.eraseOlder (seqNums : SeqNumSet) (seq : UInt16) (set : List UInt16) : List UInt16 :=
  set.drop (seqNums.lowerBound seq set)

/-- The field trials the module reads: the delay before the first NACK, and the delay
before NACK number `retries` is repeated, given the round-trip time; and the sets it keeps. -/
structure NackSettings where
  sendNackDelayMs : Int := 0
  resendDelay : Int → Nat → Int := fun rttMs _ => rttMs
  seqNums : SeqNumSet := {}

namespace NackModule

/-- Remove the missing packets that are too old. The others are within 10000 numbers of the newest
packet, which the comparator orders, or `seq` is so far ahead that the list is cleared. -/
def eraseNacksOlder (seq : UInt16) (nacks : List NackInfo) : List NackInfo :=
  nacks.filter fun info => !aheadOf seq info.seqNum

/-- `nack_list_[info.seq_num] = info`. -/
def insertNack (info : NackInfo) (nacks : List NackInfo) : List NackInfo :=
  (nacks.filter fun other => other.seqNum ≠ info.seqNum).orderedInsert
    (fun a b => olderFirst a.seqNum b.seqNum) info

/-- `RemovePacketsUntilKeyFrame`: find the oldest key frame that is newer than a
missing packet, dropping older key frames on the way. -/
def removePacketsUntilKeyFrame (seqNums : SeqNumSet) (nacks : List NackInfo) :
    List UInt16 → Bool × List NackInfo × List UInt16
  | [] => (false, nacks, [])
  | key :: keys =>
      let behind := seqNums.lowerBound key (nacks.map (·.seqNum))
      if 0 < behind.val then (true, nacks.drop behind, key :: keys)
      else removePacketsUntilKeyFrame seqNums nacks keys

/-- Repeat `RemovePacketsUntilKeyFrame` while the list is too long. Every successful
round shortens the list, so its length bounds the number of rounds. -/
def shrink (seqNums : SeqNumSet)
    (added : Nat) : Nat → List NackInfo → List UInt16 → List NackInfo × List UInt16
  | 0, nacks, keys => (nacks, keys)
  | fuel + 1, nacks, keys =>
      let removed := removePacketsUntilKeyFrame seqNums nacks keys
      if removed.1 ∧ removed.2.1.length + added > kMaxNackPackets then
        shrink seqNums added fuel removed.2.1 removed.2.2
      else removed.2

variable (seqNums : SeqNumSet)

/-- Make room for new entries, if there are too many. -/
def makeRoom (added : Nat) (nacks : List NackInfo) (keys : List UInt16) :
    List NackInfo × List UInt16 :=
  if nacks.length + added > kMaxNackPackets then
    shrink seqNums added (nacks.length + 1) nacks keys
  else (nacks, keys)

/-- The numbers from `start` up to but excluding `stop`. -/
def seqNumsBetween (start stop : UInt16) : List UInt16 :=
  (List.range (forwardDiff start stop).toNat).map fun i => start + UInt16.ofNat i

/-- The new entries of `AddPacketsToNack`. The reordering histogram is never fed, so
`WaitNumberOfPackets` is zero. -/
def addMissing (now : Int) (recovered : List UInt16) (nacks : List NackInfo)
    (missing : List UInt16) : List NackInfo :=
  missing.foldl
    (fun nacks seq =>
      if seqNums.find seq recovered then nacks else insertNack ⟨seq, seq, now, -1, 0⟩ nacks)
    nacks

/-- `AddPacketsToNack`, with the key-frame request. -/
def addPacketsToNack (now : Int) (m : NackModule) (start stop : UInt16) : NackModule × Bool :=
  let nacks := eraseNacksOlder (stop - kMaxPacketAge) m.nackList
  let added := (forwardDiff start stop).toNat
  let kept := makeRoom seqNums added nacks m.keyframeList
  if kept.1.length + added > kMaxNackPackets then
    ({ m with nackList := [], keyframeList := kept.2 }, true)
  else
    ({ m with
        nackList := addMissing seqNums now m.recoveredList kept.1 (seqNumsBetween start stop)
        keyframeList := kept.2 }, false)

/-- Which conditions `GetNackBatch` considers. -/
inductive NackFilterOptions
  | kSeqNumOnly
  | kTimeOnly
  deriving DecidableEq

variable (settings : NackSettings)

/-- A missing packet is due to be NACKed. -/
def nackDue (m : NackModule) (now : Int) (options : NackFilterOptions) (info : NackInfo) : Bool :=
  decide (now - info.createdAtTime ≥ settings.sendNackDelayMs) &&
    match options with
    | .kSeqNumOnly =>
        decide (info.sentAtTime = -1) && aheadOrAt m.newestSeqNum info.sendAtSeqNum
    | .kTimeOnly => decide (now - info.sentAtTime ≥ settings.resendDelay m.rttMs info.retries)

/-- One entry of the list in `GetNackBatch`: unchanged, marked as sent, or given up. -/
def nackEntry (m : NackModule) (now : Int) (options : NackFilterOptions)
    (info : NackInfo) : Option NackInfo :=
  if nackDue settings m now options info then
    if info.retries + 1 ≥ kMaxNackRetries then none
    else some { info with retries := info.retries + 1, sentAtTime := now }
  else some info

/-- `GetNackBatch`. -/
def getNackBatch (m : NackModule) (now : Int)
    (options : NackFilterOptions) : NackModule × List UInt16 :=
  ({ m with nackList := m.nackList.filterMap (nackEntry settings m now options) },
    (m.nackList.filter (nackDue settings m now options)).map (·.seqNum))

/-- `OnReceivedPacket`. -/
def onReceivedPacket (now : Int) (m : NackModule) (seqNum : UInt16)
    (isKeyframe isRecovered : Bool) : NackModule × NackRequest :=
  if !m.initialized then
    ({ m with
        newestSeqNum := seqNum
        keyframeList :=
          if isKeyframe then settings.seqNums.insert seqNum m.keyframeList else m.keyframeList
        initialized := true }, {})
  else if seqNum = m.newestSeqNum then (m, {})
  else if aheadOf m.newestSeqNum seqNum then
    ({ m with nackList := m.nackList.filter fun info => info.seqNum ≠ seqNum }, {})
  else
    let keys :=
      if isKeyframe then settings.seqNums.insert seqNum m.keyframeList else m.keyframeList
    let m := { m with keyframeList := settings.seqNums.eraseOlder (seqNum - kMaxPacketAge) keys }
    if isRecovered then
      ({ m with
          recoveredList := settings.seqNums.eraseOlder (seqNum - kMaxPacketAge)
            (settings.seqNums.insert seqNum m.recoveredList) }, {})
    else
      let added := addPacketsToNack settings.seqNums now m (m.newestSeqNum + 1) seqNum
      let batch := getNackBatch settings { added.1 with newestSeqNum := seqNum } now .kSeqNumOnly
      (batch.1, { nackBatch := batch.2, keyFrame := added.2 })

/-- The repeating task. -/
def onTimer (now : Int) (m : NackModule) : NackModule × NackRequest :=
  let batch := getNackBatch settings m now .kTimeOnly
  (batch.1, { nackBatch := batch.2 })

/-- `UpdateRtt`. -/
def updateRtt (m : NackModule) (rttMs : Int) : NackModule := { m with rttMs := rttMs }

end NackModule

end MpWebRtc
