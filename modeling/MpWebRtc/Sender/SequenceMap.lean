import MpWebRtc.Math.LowerBound
import MpWebRtc.Math.SerialChain
import Mathlib.Data.List.Nodup
import Mathlib.Tactic.SplitIfs

/-!
# Sequence numbers of sent packets

`RtpSequenceNumberMap` remembers to which frame the packets belong that were sent last. Each number
it holds is ahead of those before. A number that is not ahead of the last one makes it forget
everything; one that is ahead makes it forget the numbers that are more than half a circle behind,
and a quarter of all if there is no room.
-/

namespace MpWebRtc

open Math Math.Serial

/-- `RtpSequenceNumberMap::Info`. -/
structure SentInfo where
  timestamp : UInt32
  isFirst : Bool
  isLast : Bool
  deriving DecidableEq

/-- `RtpSequenceNumberMap::Association`. -/
structure Association where
  sequenceNumber : UInt16
  info : SentInfo
  deriving DecidableEq

/-- `RtpSequenceNumberMap`. -/
structure SequenceNumberMap where
  maxEntries : Nat
  associations : List Association := []

namespace SequenceNumberMap

variable (map : SequenceNumberMap)

/-- The number of entries that are left to make room for others. -/
def newSize : Nat := 3 * map.maxEntries / 4

/-- Where the search for obsolete elements begins. -/
def eraseTo : Nat :=
  if map.associations.length = map.maxEntries then map.maxEntries - map.newSize else 0

/-- The elements that are left when there is no room. -/
def pared : List Association := map.associations.drop map.eraseTo

/-- `InsertPacket`. -/
def insertPacket (new : Association) : SequenceNumberMap :=
  match map.associations.head?, map.associations.getLast? with
  | some front, some back =>
      if aheadOrAt new.sequenceNumber front.sequenceNumber &&
          aheadOrAt back.sequenceNumber new.sequenceNumber then
        { map with associations := [new] }
      else
        { map with
          associations := map.pared.drop (LowerBound.index
            (fun a => aheadOf a.sequenceNumber new.sequenceNumber) map.pared) ++ [new] }
  | _, _ => { map with associations := [new] }

/-- `Get`. -/
def get (sequenceNumber : UInt16) : Option SentInfo :=
  match map.associations.head? with
  | none => none
  | some front =>
      let offset := 0 - front.sequenceNumber
      let elem := map.associations[LowerBound.index
        (fun a => decide (a.sequenceNumber + offset < sequenceNumber + offset)) map.associations]?
      (elem.filter (·.sequenceNumber = sequenceNumber)).map (·.info)

/-- Each number is ahead of those before. -/
def Ascending (associations : List Association) : Prop :=
  associations.Pairwise fun earlier later => aheadOf later.sequenceNumber earlier.sequenceNumber

section Chain

variable {associations : List Association} {front back older newer : Association}

variable (ascending : Ascending associations)
include ascending

/-- The last number is ahead of the others. -/
theorem Ascending.last_ahead
    (isLast : associations.getLast? = some back) (member : older ∈ associations) :
    back = older ∨ aheadOf back.sequenceNumber older.sequenceNumber := by
  obtain ⟨earlier, rfl⟩ := List.getLast?_eq_some_iff.mp isLast
  rcases List.mem_append.mp member with before | last
  · exact .inr ((List.pairwise_append.mp ascending).2.2 older before back (.head _))
  · exact .inl (List.mem_singleton.mp last).symm

/-- The others are ahead of the first number. -/
theorem Ascending.ahead_of_first
    (isFirst : associations.head? = some front) (member : older ∈ associations) :
    older = front ∨ aheadOf older.sequenceNumber front.sequenceNumber := by
  obtain ⟨later, rfl⟩ := List.head?_eq_some_iff.mp isFirst
  rcases List.mem_cons.mp member with same | after
  · exact .inl same
  · exact .inr ((List.pairwise_cons.mp ascending).1 older after)

/-- A number belongs to one element. -/
theorem Ascending.eq_of_number (member : older ∈ associations)
    (member' : newer ∈ associations) (same : older.sequenceNumber = newer.sequenceNumber) :
    older = newer := by
  have apart : (associations.map (·.sequenceNumber)).Nodup :=
    List.pairwise_map.mpr (List.Pairwise.imp (fun ahead => (ne_of_aheadOf ahead).symm) ascending)
  exact List.inj_on_of_nodup_map apart member member' same

theorem Ascending.number (member : older ∈ associations)
    (isLast : associations.getLast? = some back) :
    back.sequenceNumber = older.sequenceNumber ∨
      aheadOf back.sequenceNumber older.sequenceNumber :=
  (ascending.last_ahead isLast member).imp_left (congrArg Association.sequenceNumber)

/-- The elements can be divided: a number that is ahead of the last one is behind the first
elements only. -/
theorem Ascending.partitioned (isLast : associations.getLast? = some back) {number : UInt16}
    (next : aheadOf number back.sequenceNumber) :
    LowerBound.Partitioned (fun a => aheadOf a.sequenceNumber number) associations := by
  refine List.Pairwise.imp_of_mem (fun {older newer} isOlder isNewer ahead again => ?_) ascending
  rcases ascending.last_ahead isLast isOlder with rfl | whole
  · -- The last element comes before another one.
    rcases ascending.number isNewer isLast with same | back
    · rw [same, not_aheadOf_self] at ahead
      cases ahead
    · rw [aheadOf_asymm back] at ahead
      cases ahead
  · exact aheadOf_of_later ahead (ascending.number isNewer isLast) whole next again

/-- The distances from the first element grow. -/
theorem Ascending.distance (isFirst : associations.head? = some front) :
    associations.Pairwise fun earlier later =>
      (forwardDiff front.sequenceNumber earlier.sequenceNumber).toNat <
        (forwardDiff front.sequenceNumber later.sequenceNumber).toNat := by
  refine List.Pairwise.imp_of_mem (fun {earlier later} isEarlier isLater ahead => ?_) ascending
  have zero : (forwardDiff front.sequenceNumber front.sequenceNumber).toNat = 0 := by
    unfold forwardDiff
    rw [UInt16.sub_self]
    rfl
  have far := forwardDiff_of_aheadOf ahead
  rcases ascending.ahead_of_first isFirst isEarlier with rfl | start
  · omega
  · rcases ascending.ahead_of_first isFirst isLater with rfl | whole
    · rw [aheadOf_asymm start] at ahead
      cases ahead
    · have sum := forwardDiff_chain start ahead whole
      omega

end Chain

section Laws

variable {map : SequenceNumberMap} {new : Association}

/-- What is stored under a number is found. -/
theorem get_eq (ascending : Ascending map.associations) (number : UInt16) :
    map.get number = (map.associations.find? (·.sequenceNumber = number)).map (·.info) := by
  unfold get
  cases isFirst : map.associations.head? with
  | none => rw [List.head?_eq_none_iff.mp isFirst, List.find?_nil, Option.map_none]
  | some front =>
      dsimp only
      have shift : ∀ n : UInt16, n + (0 - front.sequenceNumber) =
          forwardDiff front.sequenceNumber n := fun n => by
        unfold forwardDiff
        rw [UInt16.zero_sub, UInt16.sub_eq_add_neg]
      simp only [shift]
      generalize test : (fun a : Association => decide (forwardDiff front.sequenceNumber
        a.sequenceNumber < forwardDiff front.sequenceNumber number)) = before
      have partitioned : LowerBound.Partitioned before map.associations := by
        refine List.Pairwise.imp (fun {earlier later} closer holds => ?_)
          (ascending.distance isFirst)
        subst test
        rw [decide_eq_true_iff, UInt16.lt_iff_toNat_lt] at holds ⊢
        omega
      have rest := LowerBound.drop_index partitioned
      rw [← List.head?_drop, rest]
      cases found : map.associations.find? (·.sequenceNumber = number) with
      | none =>
          have absent := List.find?_eq_none.mp found
          cases first : (map.associations.filter fun a => !before a).head? with
          | none => rfl
          | some a =>
              have member := (List.mem_filter.mp (List.mem_of_mem_head? first)).1
              rw [Option.filter_some, if_neg (absent a member)]
      | some a =>
          have isNumber : a.sequenceNumber = number := by
            simpa using List.find?_some found
          have member := List.mem_of_find?_eq_some found
          have stays : before a = false := by
            subst test
            rw [decide_eq_false_iff_not, isNumber]
            exact UInt16.lt_irrefl _
          have isLeft : a ∈ map.associations.filter fun a => !before a :=
            List.mem_filter.mpr ⟨member, by rw [stays]; rfl⟩
          have order : (map.associations.filter fun a => !before a).Pairwise _ :=
            (ascending.distance isFirst).filter _
          -- An element before this one would be closer to the first, and be gone.
          have first : (map.associations.filter fun a => !before a).head? = some a := by
            cases shape : map.associations.filter fun a => !before a with
            | nil =>
                rw [shape] at isLeft
                cases isLeft
            | cons head tail =>
                rw [shape] at isLeft order
                rcases List.mem_cons.mp isLeft with rfl | later
                · rfl
                · have closer := (List.pairwise_cons.mp order).1 a later
                  have isHead : head ∈ map.associations.filter fun a => !before a := shape ▸ .head _
                  have left := (List.mem_filter.mp isHead).2
                  subst test
                  rw [Bool.not_eq_true', decide_eq_false_iff_not, UInt16.lt_iff_toNat_lt,
                    ← isNumber] at left
                  omega
          rw [first, Option.filter_some, if_pos (decide_eq_true isNumber)]

theorem pared_sublist (map : SequenceNumberMap) : map.pared.Sublist map.associations :=
  List.drop_sublist _ _

section

variable (ascending : Ascending map.associations)
include ascending

/-- What insertion leaves: only the new element, if its number is not ahead of the last one, and
otherwise also the elements that are not ahead of it, of those for which there is room. -/
theorem insertPacket_eq (new : Association) :
    (map.insertPacket new).associations =
      if map.associations.getLast?.any fun back =>
          aheadOf new.sequenceNumber back.sequenceNumber then
        (map.pared.filter fun a => !aheadOf a.sequenceNumber new.sequenceNumber) ++ [new]
      else [new] := by
  unfold insertPacket
  cases isFirst : map.associations.head? with
  | none =>
      have empty := List.head?_eq_none_iff.mp isFirst
      rw [empty]
      rfl
  | some front =>
      have some : map.associations ≠ [] := fun empty => by
        rw [empty] at isFirst
        cases isFirst
      have isLast : map.associations.getLast? = Option.some (map.associations.getLast some) :=
        List.getLast?_eq_some_getLast some
      generalize map.associations.getLast some = back at isLast
      have frontMember := List.mem_of_mem_head? isFirst
      have pairwise : Ascending map.pared := ascending.sublist map.pared_sublist
      rw [isLast, Option.any_some]
      dsimp only
      by_cases next : aheadOf new.sequenceNumber back.sequenceNumber = true
      · -- The number is outside the range, since it is ahead of the last one.
        have outside : ¬ (aheadOrAt new.sequenceNumber front.sequenceNumber &&
            aheadOrAt back.sequenceNumber new.sequenceNumber) = true := by
          rw [Bool.and_eq_true, @aheadOrAt_iff new.sequenceNumber back.sequenceNumber]
          rintro ⟨-, same | behind⟩
          · exact ne_of_aheadOf next same.symm
          · rw [aheadOf_asymm next] at behind
            cases behind
        have partitioned : LowerBound.Partitioned
            (fun a => aheadOf a.sequenceNumber new.sequenceNumber) map.pared :=
          List.Pairwise.sublist map.pared_sublist (ascending.partitioned isLast next)
        rw [if_neg outside, if_pos next]
        dsimp only
        rw [LowerBound.drop_index partitioned]
      · rw [if_neg next]
        split_ifs with inside
        · rfl
        · -- All elements are ahead of the number.
          have behindLast : back.sequenceNumber = new.sequenceNumber ∨
              aheadOf back.sequenceNumber new.sequenceNumber := by
            by_cases same : back.sequenceNumber = new.sequenceNumber
            · exact .inl same
            · exact .inr (aheadOf_of_not same (Bool.eq_false_iff.mpr next))
          have notAhead : ¬ aheadOrAt new.sequenceNumber front.sequenceNumber = true :=
            fun ahead => inside (by
              rw [ahead, aheadOrAt_iff.mpr behindLast]
              rfl)
          rw [aheadOrAt_iff, not_or] at notAhead
          have behindFirst : aheadOf front.sequenceNumber new.sequenceNumber :=
            aheadOf_of_not (Ne.symm notAhead.1) (Bool.eq_false_iff.mpr notAhead.2)
          have whole := ascending.number frontMember isLast
          have behindLast : aheadOf back.sequenceNumber new.sequenceNumber := by
            refine behindLast.resolve_left fun same => ?_
            rcases whole with equal | ahead
            · rw [← equal, same, not_aheadOf_self] at behindFirst
              cases behindFirst
            · rw [same] at ahead
              exact notAhead.2 ahead
          have all : ∀ a ∈ map.pared, aheadOf a.sequenceNumber new.sequenceNumber = true := by
            intro a member
            have isMember := map.pared_sublist.subset member
            refine aheadOf_of_ends ?_ (ascending.number isMember isLast) whole behindFirst behindLast
            exact (ascending.ahead_of_first isFirst isMember).imp_left
              (congrArg Association.sequenceNumber)
          have partitioned : LowerBound.Partitioned
              (fun a => aheadOf a.sequenceNumber new.sequenceNumber) map.pared :=
            List.Pairwise.imp_of_mem (fun isOlder _ _ _ => all _ isOlder) pairwise
          have none : (map.pared.filter fun a => !aheadOf a.sequenceNumber new.sequenceNumber) =
              [] := by
            rw [List.filter_eq_nil_iff]
            intro a member
            rw [all a member]
            exact Bool.false_ne_true
          dsimp only
          rw [LowerBound.drop_index partitioned, none]
          rfl

/-- What is left is what the new number is ahead of. -/
theorem aheadOf_of_left {back older : Association}
    (isLast : map.associations.getLast? = some back) (member : older ∈ map.associations)
    (next : aheadOf new.sequenceNumber back.sequenceNumber)
    (left : aheadOf older.sequenceNumber new.sequenceNumber = false) :
    aheadOf new.sequenceNumber older.sequenceNumber := by
  refine aheadOf_of_not (fun same => ?_) left
  rcases ascending.number member isLast with equal | ahead
  · rw [← same] at equal
    exact ne_of_aheadOf next equal.symm
  · rw [← same, aheadOf_asymm next] at ahead
    cases ahead

/-- Insertion keeps the numbers ascending. -/
theorem insertPacket_ascending (new : Association) :
    Ascending (map.insertPacket new).associations := by
  rw [insertPacket_eq ascending]
  split_ifs with next
  · obtain ⟨back, isLast, next⟩ := (Option.any_eq_true ..).mp next
    refine List.pairwise_append.mpr ⟨(ascending.sublist map.pared_sublist).filter _,
      List.pairwise_singleton .., fun older isLeft added isNew => ?_⟩
    obtain rfl := List.mem_singleton.mp isNew
    obtain ⟨member, left⟩ := List.mem_filter.mp isLeft
    exact aheadOf_of_left ascending isLast (map.pared_sublist.subset member) next
      ((Bool.not_eq_true' _).mp left)
  · exact List.pairwise_singleton ..

end

@[simp] theorem insertPacket_maxEntries (map : SequenceNumberMap) (new : Association) :
    (map.insertPacket new).maxEntries = map.maxEntries := by
  unfold insertPacket
  split
  · split <;> rfl
  · rfl

/-- There is room for one more after the elements are pared down. -/
theorem length_pared_lt (enough : 4 < map.maxEntries)
    (few : map.associations.length ≤ map.maxEntries) : map.pared.length < map.maxEntries := by
  unfold pared eraseTo newSize
  rw [List.length_drop]
  split_ifs with full <;> omega

theorem length_insertPacket_le (enough : 4 < map.maxEntries)
    (few : map.associations.length ≤ map.maxEntries) (ascending : Ascending map.associations)
    (new : Association) : (map.insertPacket new).associations.length ≤ map.maxEntries := by
  have room := length_pared_lt enough few
  have fewer := List.length_filter_le
    (fun a => !aheadOf a.sequenceNumber new.sequenceNumber) map.pared
  rw [insertPacket_eq ascending]
  split_ifs
  · rw [List.length_append, List.length_singleton]
    omega
  · rw [List.length_singleton]
    omega

end Laws

end SequenceNumberMap

end MpWebRtc
