import Mathlib.Data.List.Sort
import Mathlib.Data.Rat.Lemmas
import MpWebRtc.Math.Checked
import MpWebRtc.Math.LowerEnvelope
import MpWebRtc.Rtcp.Packets

/-!
# The bounding set of bitrate requests

`FindBoundingSet` selects those of the bitrate requests that limit the media bitrate at some packet
rate. A request is the line of the bitrate that is left for media: what it allows in all, less its
overhead a packet. From the request with the lowest bitrate on, the steeper ones are examined in
order. A request is removed from the list of candidates by setting its bitrate to zero.

The divisions are exact, where the source rounds to floats.
-/

namespace MpWebRtc

open Math.LowerEnvelope

namespace TmmbItem

/-- `set_bitrate_bps(0)`. -/
def removed (item : TmmbItem) : TmmbItem := { item with bitrateBps := 0 }

/-- The candidate has not been removed. -/
def isCandidate (item : TmmbItem) : Bool := item.bitrateBps != 0

end TmmbItem

/-- `std::sort` by overhead; the order of items with the same overhead is left open. -/
structure OverheadSort where
  sort : List TmmbItem → List TmmbItem
  perm : ∀ items, (sort items).Perm items
  sorted : ∀ items, (sort items).Pairwise fun lhs rhs => lhs.packetOverhead ≤ rhs.packetOverhead

/-- What must not happen in `FindBoundingSet`: no candidate has the lowest bitrate, the set becomes
empty, a divisor is zero, a rate is put behind the end of its vector, or the loop goes on. -/
inductive BoundingFault
  | noCandidate
  | emptySet
  | divisionByZero
  | pastEnd
  | unfinished
  deriving DecidableEq

namespace BoundingSet

/-- The loops of step 2, with what the inner one has passed: the items of the group before the
current minimum, this, and those behind it. How many were removed comes second. -/
def keepLowest (before : List TmmbItem) (current : TmmbItem) (between : List TmmbItem) :
    List TmmbItem → List TmmbItem × Nat
  | [] => (before ++ current :: between, 0)
  | next :: rest =>
      if next.packetOverhead = current.packetOverhead then
        let kept :=
          if next.bitrateBps < current.bitrateBps then
            keepLowest (before ++ current.removed :: between) next [] rest
          else keepLowest before current (between ++ [next.removed]) rest
        (kept.1, kept.2 + 1)
      else
        let kept := keepLowest [] next [] rest
        (before ++ current :: between ++ kept.1, kept.2)

/-- Step 2, over all candidates. -/
def keepLowestAll : List TmmbItem → List TmmbItem × Nat
  | [] => ([], 0)
  | first :: rest => keepLowest [] first [] rest

/-- One item in the loops of step 3. -/
def lowerOf (lowest : Option (TmmbItem × Nat)) (item : TmmbItem) (index : Nat) :
    Option (TmmbItem × Nat) :=
  if item.isCandidate && lowest.all (fun best => decide (item.bitrateBps ≤ best.1.bitrateBps)) then
    some (item, index)
  else lowest

/-- Step 3: the last candidate with the lowest bitrate, from this index on. -/
def selectLowest (lowest : Option (TmmbItem × Nat)) (index : Nat) :
    List TmmbItem → Option (TmmbItem × Nat)
  | [] => lowest
  | item :: rest => selectLowest (lowerOf lowest item index) (index + 1) rest

/-- Step 4, for one item. -/
def discard (front item : TmmbItem) : TmmbItem :=
  if item.isCandidate && decide (item.packetOverhead < front.packetOverhead) then item.removed
  else item

/-- Step 5: take the first candidate. -/
def takeFirst : List TmmbItem → Option TmmbItem × List TmmbItem
  | [] => (none, [])
  | item :: rest =>
      if item.isCandidate then (some item, item.removed :: rest)
      else ((takeFirst rest).1, item :: (takeFirst rest).2)

/-- The largest float. -/
def floatMax : ℚ := (2 ^ 24 - 1) * 2 ^ 104

/-- Where the line of an item crosses the axis. -/
def maxPacketRate (item : TmmbItem) : ℚ :=
  if item.packetOverhead = 0 then floatMax
  else item.bitrateBps.toNat / item.packetOverhead.toNat

/-- An item of the bounding set, with its entries in `intersection` and `max_packet_rate`. -/
structure Selected where
  item : TmmbItem
  intersection : ℚ
  maxPacketRate : ℚ

/-- The variables of the loop. The last item of the bounding set comes first. -/
structure Loop where
  candidates : List TmmbItem
  numCandidates : Nat
  boundingSet : List Selected
  curCandidate : TmmbItem := ⟨0, 0, 0⟩
  getNewCandidate : Bool := true

/-- Step 6: the unsigned difference of the bitrates by the difference of the overheads. -/
def packetRate (cur back : TmmbItem) : Except BoundingFault ℚ :=
  if cur.packetOverhead = back.packetOverhead then .error .divisionByZero
  else
    .ok ((cur.bitrateBps - back.bitrateBps).toNat /
      ((cur.packetOverhead.toNat : ℚ) - back.packetOverhead.toNat))

namespace Loop

/-- Step 5, if a new candidate is to be taken. -/
def select (loop : Loop) : Loop :=
  if loop.getNewCandidate then
    { loop with
      candidates := (takeFirst loop.candidates).2
      curCandidate := (takeFirst loop.candidates).1.getD loop.curCandidate }
  else loop

/-- Steps 7 and 8. The vectors have room for `capacity` rates. -/
def examine (capacity : Nat) (loop : Loop) (back : Selected) (below : List Selected)
    (rate : ℚ) : Except BoundingFault Loop :=
  if rate ≤ back.intersection then
    .ok { loop with boundingSet := below, getNewCandidate := false }
  else if rate < back.maxPacketRate then
    if capacity ≤ loop.boundingSet.length then .error .pastEnd
    else if loop.curCandidate.packetOverhead = 0 then .error .divisionByZero
    else
      .ok { loop with
        boundingSet :=
          ⟨loop.curCandidate, rate, BoundingSet.maxPacketRate loop.curCandidate⟩ ::
            loop.boundingSet
        numCandidates := loop.numCandidates - 1
        getNewCandidate := true }
  else
    .ok { loop with
      numCandidates := loop.numCandidates - 1
      getNewCandidate := true }

/-- The body of the loop. -/
def round (capacity : Nat) (loop : Loop) : Except BoundingFault Loop :=
  match loop.boundingSet with
  | [] => .error .emptySet
  | back :: below => do
      let rate ← packetRate loop.select.curCandidate back.item
      loop.select.examine capacity back below rate

/-- The loop, for at most so many rounds. -/
def run (capacity : Nat) : Nat → Loop → Except BoundingFault Loop
  | 0, loop => if loop.numCandidates = 0 then .ok loop else .error .unfinished
  | rounds + 1, loop =>
      if loop.numCandidates = 0 then .ok loop
      else do run capacity rounds (← loop.round capacity)

end Loop

/-- Steps 3 and 4: the first selected item, and the candidates that are left. -/
def start (candidates : List TmmbItem) (numCandidates : Nat) (front : TmmbItem) (index : Nat) :
    Loop :=
  let left := candidates.modify index TmmbItem.removed
  { candidates := left.map (discard front)
    numCandidates := numCandidates - 1 - left.countP fun item =>
      item.isCandidate && decide (item.packetOverhead < front.packetOverhead)
    boundingSet := [⟨front, 0, maxPacketRate front⟩] }

end BoundingSet

open BoundingSet in
/-- `TMMBRHelp::FindBoundingSet`. In every round the bounding set or the number of candidates gets
smaller, and the former grows only with the latter, so twice the number of candidates and one bound
the rounds. -/
def findBoundingSet (sort : OverheadSort) (requests : List TmmbItem) :
    Except BoundingFault (List TmmbItem) :=
  let candidates := requests.filter TmmbItem.isCandidate
  if candidates.length ≤ 1 then .ok candidates
  else
    let kept := keepLowestAll (sort.sort candidates)
    let numCandidates := candidates.length - kept.2
    match selectLowest none 0 kept.1 with
    | none => .error .noCandidate
    | some lowest => do
        let loop ← (start kept.1 numCandidates lowest.1 lowest.2).run numCandidates
          (2 * numCandidates + 1)
        return (loop.boundingSet.map Selected.item).reverse

end MpWebRtc
