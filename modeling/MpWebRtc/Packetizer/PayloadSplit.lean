import Mathlib.Algebra.BigOperators.Group.List.Basic
import Mathlib.Algebra.Ring.Int.Defs
import Mathlib.Tactic.Linarith
import Mathlib.Tactic.Ring

/-!
# Splitting a payload

`RtpPacketizer::SplitAboutEqually` cuts a payload into packets of about the same size. The
first and the last packet have less room than the others: the sizes are computed as if they
had the same room and the payload were longer by what they lack, and the first packet is then
made smaller. What is left for the last packet is the rest.
-/

namespace MpWebRtc

/-- `RtpPacketizer::PayloadSizeLimits`. -/
structure PayloadSizeLimits where
  maxPayloadLen : Int := 1200
  firstPacketReductionLen : Int := 0
  lastPacketReductionLen : Int := 0
  singlePacketReductionLen : Int := 0

namespace PayloadSizeLimits

variable (limits : PayloadSizeLimits)

/-- The size of the next packet, of those that are left for the remaining data. -/
def currentPacketBytes (firstPacket : Bool) (bytesPerPacket numPacketsLeft remainingData : Int) :
    Int :=
  let sized :=
    if firstPacket then
      if bytesPerPacket > limits.firstPacketReductionLen + 1 then
        bytesPerPacket - limits.firstPacketReductionLen
      else 1
    else bytesPerPacket
  let available := if sized > remainingData then remainingData else sized
  -- At least one byte is left for the last packet.
  if numPacketsLeft = 2 ∧ available = remainingData then available - 1 else available

/-- The loop of `SplitAboutEqually`; nothing, if data remain after so many rounds. -/
def splitLoop (numLargerPackets : Int) : Nat → Bool → Int → Int → Int → Option (List Int)
  | 0, _, _, _, remainingData => if remainingData > 0 then none else some []
  | rounds + 1, firstPacket, bytesPerPacket, numPacketsLeft, remainingData =>
      if remainingData > 0 then
        let wider :=
          if numPacketsLeft = numLargerPackets then bytesPerPacket + 1 else bytesPerPacket
        let current := limits.currentPacketBytes firstPacket wider numPacketsLeft remainingData
        (splitLoop numLargerPackets rounds false wider (numPacketsLeft - 1)
          (remainingData - current)).map (current :: ·)
      else some []

/-- The length of the payload, if the first and the last packet had the room of the others. -/
def totalBytes (payloadLen : Int) : Int :=
  payloadLen + limits.firstPacketReductionLen + limits.lastPacketReductionLen

/-- How many packets a payload needs that does not fit in a single one. -/
def numPackets (payloadLen : Int) : Int :=
  let numPacketsLeft :=
    (limits.totalBytes payloadLen + limits.maxPayloadLen - 1) / limits.maxPayloadLen
  if numPacketsLeft = 1 then 2 else numPacketsLeft

/-- `RtpPacketizer::SplitAboutEqually`. No round leaves the remaining data as they are, so
the payload's length bounds the number of rounds. -/
def splitAboutEqually (payloadLen : Int) : Option (List Int) :=
  if limits.maxPayloadLen ≥ limits.singlePacketReductionLen + payloadLen then some [payloadLen]
  else if limits.maxPayloadLen - limits.firstPacketReductionLen < 1 ∨
      limits.maxPayloadLen - limits.lastPacketReductionLen < 1 then some []
  else if payloadLen < limits.numPackets payloadLen then some []
  else
    limits.splitLoop (limits.totalBytes payloadLen % limits.numPackets payloadLen)
      payloadLen.toNat true (limits.totalBytes payloadLen / limits.numPackets payloadLen)
      (limits.numPackets payloadLen) payloadLen

section Loop

variable {limits : PayloadSizeLimits} {bytesPerPacket numLargerPackets : Int}

/-- What `left` packets hold together, the larger ones last. -/
def capacity (bytesPerPacket numLargerPackets left : Int) : Int :=
  left * bytesPerPacket + min numLargerPackets left

/-- The size of the first of `left` packets. -/
def nextSize (bytesPerPacket numLargerPackets left : Int) : Int :=
  if left ≤ numLargerPackets then bytesPerPacket + 1 else bytesPerPacket

theorem capacity_eq (bytesPerPacket numLargerPackets left : Int) :
    capacity bytesPerPacket numLargerPackets left =
      nextSize bytesPerPacket numLargerPackets left +
        capacity bytesPerPacket numLargerPackets (left - 1) := by
  have less : (left - 1) * bytesPerPacket = left * bytesPerPacket - bytesPerPacket := by ring
  unfold capacity nextSize
  split_ifs <;> omega

theorem capacity_one (larger : 0 ≤ numLargerPackets) (bytesPerPacket : Int) :
    capacity bytesPerPacket numLargerPackets 1 = nextSize bytesPerPacket numLargerPackets 1 := by
  unfold capacity nextSize
  split_ifs <;> omega

theorem nextSize_pos (positive : 1 ≤ bytesPerPacket) (numLargerPackets left : Int) :
    1 ≤ nextSize bytesPerPacket numLargerPackets left := by
  unfold nextSize
  split_ifs <;> omega

/-- Before the check that makes the last packets larger, and after it. -/
theorem nextSize_of_next (bytesPerPacket numLargerPackets left : Int) :
    (if left = numLargerPackets then nextSize bytesPerPacket numLargerPackets (left + 1) + 1
      else nextSize bytesPerPacket numLargerPackets (left + 1)) =
      nextSize bytesPerPacket numLargerPackets left := by
  unfold nextSize
  split_ifs <;> omega

/-- The remaining data before a round that is not the first: they fit in the packets that are
left, and are enough for them. -/
structure Remaining (limits : PayloadSizeLimits) (bytesPerPacket numLargerPackets left
    remainingData : Int) : Prop where
  single : left = 1 → 1 ≤ remainingData ∧
    remainingData ≤ capacity bytesPerPacket numLargerPackets 1 ∧
    remainingData ≤ limits.maxPayloadLen - limits.lastPacketReductionLen
  several : 2 ≤ left → (left - 2) * limits.maxPayloadLen + 2 ≤ remainingData ∧
    remainingData + limits.lastPacketReductionLen ≤ capacity bytesPerPacket numLargerPackets left

/-- The sizes of the packets after the first one. -/
structure Fitting (limits : PayloadSizeLimits) (remainingData : Int) (sizes : List Int) :
    Prop where
  total : sizes.sum = remainingData
  bounds : ∀ size ∈ sizes, 1 ≤ size ∧ size ≤ limits.maxPayloadLen
  last : ∀ size ∈ sizes.getLast?, size ≤ limits.maxPayloadLen - limits.lastPacketReductionLen

theorem Fitting.single {size : Int} (positive : 1 ≤ size)
    (reduction : 0 ≤ limits.lastPacketReductionLen)
    (fits : size ≤ limits.maxPayloadLen - limits.lastPacketReductionLen) :
    Fitting limits size [size] where
  total := List.sum_singleton
  bounds := by
    intro other member
    rw [List.mem_singleton] at member
    omega
  last := by
    intro other isLast
    obtain rfl := Option.some.inj isLast
    exact fits

theorem Fitting.cons {size remainingData : Int} {sizes : List Int}
    (fitting : Fitting limits (remainingData - size) sizes) (nonempty : sizes ≠ [])
    (positive : 1 ≤ size) (fits : size ≤ limits.maxPayloadLen) :
    Fitting limits remainingData (size :: sizes) where
  total := by
    rw [List.sum_cons, fitting.total]
    omega
  bounds := by
    intro other member
    rcases List.mem_cons.mp member with rfl | member
    · exact ⟨positive, fits⟩
    · exact fitting.bounds other member
  last := by
    intro other isLast
    rw [List.getLast?_cons_of_ne_nil nonempty] at isLast
    exact fitting.last other isLast

theorem splitLoop_zero (rounds : Nat) (firstPacket : Bool)
    (bytesPerPacket numLargerPackets numPacketsLeft : Int) :
    limits.splitLoop numLargerPackets rounds firstPacket bytesPerPacket numPacketsLeft 0 =
      some [] := by
  cases rounds <;> rfl

section Rounds

variable (maxPositive : 1 ≤ limits.maxPayloadLen) (reduction : 0 ≤ limits.lastPacketReductionLen)
  (lastFits : 1 ≤ limits.maxPayloadLen - limits.lastPacketReductionLen)
  (larger : 0 ≤ numLargerPackets) (positive : 1 ≤ bytesPerPacket)
  (room : ∀ left, 1 ≤ left → nextSize bytesPerPacket numLargerPackets left ≤ limits.maxPayloadLen)

include maxPositive reduction lastFits larger positive room in
/-- A round that neither is the first nor makes the last packet leaves enough for the rest. -/
theorem Remaining.step {left remainingData : Int} (several : 2 ≤ left)
    (remaining : Remaining limits bytesPerPacket numLargerPackets left remainingData) :
    let size := limits.currentPacketBytes false (nextSize bytesPerPacket numLargerPackets left) left
      remainingData
    1 ≤ size ∧ size ≤ limits.maxPayloadLen ∧
      Remaining limits bytesPerPacket numLargerPackets (left - 1) (remainingData - size) := by
  intro size
  obtain ⟨enough, reserved⟩ := remaining.several several
  have fits := room left (by omega)
  have least := nextSize_pos positive numLargerPackets left
  rw [capacity_eq] at reserved
  by_cases two : left = 2
  · subst two
    have sized : size = min (nextSize bytesPerPacket numLargerPackets 2) (remainingData - 1) := by
      change limits.currentPacketBytes false _ 2 remainingData = _
      simp only [currentPacketBytes, Bool.false_eq_true, if_false, true_and]
      split_ifs <;> omega
    refine ⟨by omega, by omega, fun _ => ?_, fun two => by omega⟩
    have whole := capacity_one larger bytesPerPacket
    have lastRoom := room 1 (by omega)
    have lastLeast := nextSize_pos positive numLargerPackets 1
    rw [show (2 - 1 : Int) = 1 from rfl, whole] at reserved
    rw [whole]
    exact ⟨by omega, by omega, by omega⟩
  · have apart : (left - 2) * limits.maxPayloadLen =
        (left - 1 - 2) * limits.maxPayloadLen + limits.maxPayloadLen := by ring
    have nonneg : 0 ≤ (left - 1 - 2) * limits.maxPayloadLen :=
      Int.mul_nonneg (by omega) (by omega)
    have sized : size = nextSize bytesPerPacket numLargerPackets left := by
      change limits.currentPacketBytes false _ left remainingData = _
      simp only [currentPacketBytes, Bool.false_eq_true, if_false, two, false_and]
      exact if_neg (by omega)
    exact ⟨by omega, by omega, fun one => by omega, fun _ => ⟨by omega, by omega⟩⟩

include maxPositive reduction lastFits larger positive room in
/-- The packets after the first one are as many as planned, and hold what remains. -/
theorem splitLoop_spec {left remainingData : Int} {rounds : Nat} (some : 1 ≤ left)
    (enough : left ≤ rounds)
    (remaining : Remaining limits bytesPerPacket numLargerPackets left remainingData) :
    ∃ sizes, limits.splitLoop numLargerPackets rounds false
        (nextSize bytesPerPacket numLargerPackets (left + 1)) left remainingData = .some sizes ∧
      sizes ≠ [] ∧ Fitting limits remainingData sizes := by
  induction rounds generalizing left remainingData with
  | zero => omega
  | succ rounds ih =>
      unfold splitLoop
      dsimp only
      rw [nextSize_of_next]
      by_cases one : left = 1
      · subst one
        obtain ⟨least, whole, fits⟩ := remaining.single rfl
        rw [capacity_one larger] at whole
        have size : limits.currentPacketBytes false (nextSize bytesPerPacket numLargerPackets 1) 1
            remainingData = remainingData := by
          simp only [currentPacketBytes, Bool.false_eq_true, if_false]
          split_ifs <;> omega
        rw [if_pos (by omega), size, Int.sub_self remainingData, splitLoop_zero]
        exact ⟨[remainingData], rfl, List.cons_ne_nil _ _, .single least reduction fits⟩
      · have several : 2 ≤ left := by omega
        obtain ⟨least, fits, next⟩ := remaining.step maxPositive reduction lastFits larger
          positive room several
        obtain ⟨sizes, done, nonempty, fitting⟩ := ih (by omega) (by omega) next
        have nonneg : 0 ≤ (left - 2) * limits.maxPayloadLen :=
          Int.mul_nonneg (by omega) (by omega)
        have some := (remaining.several several).1
        rw [Int.sub_add_cancel] at done
        rw [if_pos (by omega), done]
        exact ⟨_ :: sizes, rfl, List.cons_ne_nil _ _, fitting.cons nonempty least fits⟩

end Rounds

end Loop

section First

variable {limits : PayloadSizeLimits} {payloadLen : Int}

/-- A payload for more than one packet, each of which has room for some of it. -/
structure Several (limits : PayloadSizeLimits) (payloadLen : Int) : Prop where
  firstReduction : 0 ≤ limits.firstPacketReductionLen
  lastReduction : 0 ≤ limits.lastPacketReductionLen
  firstFits : 1 ≤ limits.maxPayloadLen - limits.firstPacketReductionLen
  lastFits : 1 ≤ limits.maxPayloadLen - limits.lastPacketReductionLen
  positive : 1 ≤ payloadLen
  enough : limits.numPackets payloadLen ≤ payloadLen

variable (several : Several limits payloadLen)

include several

/-- The number of packets is the total divided by the room in a packet, rounded up, except for
two packets. -/
theorem Several.numPackets_spec :
    2 ≤ limits.numPackets payloadLen ∧
      limits.totalBytes payloadLen ≤ limits.numPackets payloadLen * limits.maxPayloadLen ∧
      (limits.numPackets payloadLen = 2 ∨
        (limits.numPackets payloadLen - 1) * limits.maxPayloadLen + 1 ≤
          limits.totalBytes payloadLen) := by
  have maxPositive : 0 < limits.maxPayloadLen := by
    have := several.firstReduction
    have := several.firstFits
    omega
  have total : 1 ≤ limits.totalBytes payloadLen := by
    have := several.firstReduction
    have := several.lastReduction
    have := several.positive
    unfold totalBytes
    omega
  obtain ⟨quotient, isQuotient⟩ :
      ∃ quotient, quotient = (limits.totalBytes payloadLen + limits.maxPayloadLen - 1) /
        limits.maxPayloadLen := ⟨_, rfl⟩
  have lower := Int.ediv_mul_le (limits.totalBytes payloadLen + limits.maxPayloadLen - 1)
    maxPositive.ne'
  have upper := Int.lt_ediv_add_one_mul_self
    (limits.totalBytes payloadLen + limits.maxPayloadLen - 1) maxPositive
  have atLeast : 1 ≤ (limits.totalBytes payloadLen + limits.maxPayloadLen - 1) /
      limits.maxPayloadLen := Int.le_ediv_of_mul_le maxPositive (by omega)
  have shifted : ∀ factor : Int, (factor - 1) * limits.maxPayloadLen =
      factor * limits.maxPayloadLen - limits.maxPayloadLen := fun factor => by ring
  unfold numPackets
  dsimp only
  rw [← isQuotient] at lower upper atLeast ⊢
  rw [Int.add_mul] at upper
  split_ifs with one
  · subst one
    exact ⟨by omega, by omega, .inl rfl⟩
  · rw [shifted]
    exact ⟨by omega, by omega, .inr (by omega)⟩

variable {bytesPerPacket numLargerPackets : Int}
  (size : bytesPerPacket = limits.totalBytes payloadLen / limits.numPackets payloadLen)
  (larger : numLargerPackets = limits.totalBytes payloadLen % limits.numPackets payloadLen)

include size larger

/-- The planned sizes have room in a packet, and are as much as the total. -/
theorem Several.plan :
    1 ≤ bytesPerPacket ∧ 0 ≤ numLargerPackets ∧
      numLargerPackets < limits.numPackets payloadLen ∧
      (∀ left, 1 ≤ left → nextSize bytesPerPacket numLargerPackets left ≤ limits.maxPayloadLen) ∧
      capacity bytesPerPacket numLargerPackets (limits.numPackets payloadLen) =
        limits.totalBytes payloadLen := by
  obtain ⟨two, fits, -⟩ := several.numPackets_spec
  have whole := Int.mul_ediv_add_emod (limits.totalBytes payloadLen) (limits.numPackets payloadLen)
  have nonneg := Int.emod_nonneg (limits.totalBytes payloadLen)
    (show limits.numPackets payloadLen ≠ 0 by omega)
  have below := Int.emod_lt_of_pos (limits.totalBytes payloadLen)
    (show 0 < limits.numPackets payloadLen by omega)
  rw [← larger] at whole nonneg below
  rw [← size] at whole
  refine ⟨?_, nonneg, below, ?_, ?_⟩
  · have := several.enough
    have := several.firstReduction
    have := several.lastReduction
    rw [size]
    refine Int.le_ediv_of_mul_le (by omega) ?_
    unfold totalBytes
    omega
  · intro left some
    have least : bytesPerPacket ≤ limits.maxPayloadLen := by
      refine Int.le_of_mul_le_mul_left ?_ (show 0 < limits.numPackets payloadLen by omega)
      omega
    unfold nextSize
    split_ifs with inLarger
    · refine Int.lt_of_mul_lt_mul_left ?_ (show 0 ≤ limits.numPackets payloadLen by omega)
      omega
    · exact least
  · unfold capacity
    rw [min_eq_left below.le]
    exact whole

/-- The first round leaves enough for the rest. -/
theorem Several.first :
    let firstSize := limits.currentPacketBytes true bytesPerPacket (limits.numPackets payloadLen)
      payloadLen
    1 ≤ firstSize ∧ firstSize ≤ limits.maxPayloadLen - limits.firstPacketReductionLen ∧
      Remaining limits bytesPerPacket numLargerPackets (limits.numPackets payloadLen - 1)
        (payloadLen - firstSize) := by
  intro firstSize
  obtain ⟨two, -, lower⟩ := several.numPackets_spec
  obtain ⟨least, nonneg, below, room, whole⟩ := several.plan size larger
  have ⟨firstReduction, lastReduction, firstFits, lastFits, positive, enough⟩ := several
  have total : limits.totalBytes payloadLen = payloadLen + limits.firstPacketReductionLen +
    limits.lastPacketReductionLen := rfl
  have roomFirst := room (limits.numPackets payloadLen) (by omega)
  rw [capacity_eq] at whole
  have regular : nextSize bytesPerPacket numLargerPackets (limits.numPackets payloadLen) =
    bytesPerPacket := if_neg (by omega)
  rw [regular] at whole roomFirst
  have sized : firstSize =
      if limits.numPackets payloadLen = 2 then
        min (max 1 (bytesPerPacket - limits.firstPacketReductionLen)) (payloadLen - 1)
      else min (max 1 (bytesPerPacket - limits.firstPacketReductionLen)) payloadLen := by
    change limits.currentPacketBytes true bytesPerPacket _ payloadLen = _
    unfold currentPacketBytes
    simp only [if_true]
    split_ifs <;> omega
  by_cases pair : limits.numPackets payloadLen = 2
  · rw [pair] at whole enough ⊢
    rw [if_pos pair] at sized
    have last := capacity_one nonneg bytesPerPacket
    have lastRoom := room 1 (by omega)
    have lastLeast := nextSize_pos least numLargerPackets 1
    rw [show (2 - 1 : Int) = 1 from rfl, last] at whole
    refine ⟨by omega, by omega, fun _ => ?_, fun many => by omega⟩
    rw [last]
    exact ⟨by omega, by omega, by omega⟩
  · rw [if_neg pair] at sized
    have apart : (limits.numPackets payloadLen - 1) * limits.maxPayloadLen =
      (limits.numPackets payloadLen - 1 - 2) * limits.maxPayloadLen +
        2 * limits.maxPayloadLen := by ring
    have nonneg : 0 ≤ (limits.numPackets payloadLen - 1 - 2) * limits.maxPayloadLen :=
      Int.mul_nonneg (by omega) (by omega)
    exact ⟨by omega, by omega, fun one => by omega, fun _ => ⟨by omega, by omega⟩⟩

end First

variable {limits} in
theorem Several.splitAboutEqually {payloadLen : Int} (several : Several limits payloadLen)
    (long : ¬ limits.maxPayloadLen ≥ limits.singlePacketReductionLen + payloadLen) :
    ∃ firstSize sizes, limits.splitAboutEqually payloadLen = some (firstSize :: sizes) ∧
      sizes ≠ [] ∧ 1 ≤ firstSize ∧
      firstSize ≤ limits.maxPayloadLen - limits.firstPacketReductionLen ∧
      Fitting limits (payloadLen - firstSize) sizes := by
  obtain ⟨two, -, -⟩ := several.numPackets_spec
  obtain ⟨positive, larger, below, room, -⟩ := several.plan rfl rfl
  obtain ⟨least, fits, remaining⟩ := several.first rfl rfl
  have ⟨firstReduction, lastReduction, firstFits, lastFits, nonempty, enough⟩ := several
  obtain ⟨rounds, isRounds⟩ : ∃ rounds : Nat, payloadLen.toNat = rounds + 1 :=
    ⟨payloadLen.toNat - 1, by omega⟩
  have left : limits.numPackets payloadLen - 1 ≤ rounds := by omega
  obtain ⟨sizes, done, some, fitting⟩ := splitLoop_spec (by omega) lastReduction lastFits larger
    positive room (by omega) left remaining
  have regular : nextSize (limits.totalBytes payloadLen / limits.numPackets payloadLen)
      (limits.totalBytes payloadLen % limits.numPackets payloadLen)
      (limits.numPackets payloadLen - 1 + 1) =
      limits.totalBytes payloadLen / limits.numPackets payloadLen := if_neg (by omega)
  rw [regular] at done
  refine ⟨_, sizes, ?_, some, least, fits, fitting⟩
  unfold PayloadSizeLimits.splitAboutEqually
  rw [if_neg long, if_neg (by omega), if_neg (by omega), isRounds, splitLoop,
    if_pos (by omega), if_neg (by omega)]
  dsimp only
  rw [done]
  rfl

/-- `SplitAboutEqually` ends for every payload. The sizes are positive and have the payload's
length as their sum; there is one if and only if the payload fits in a single packet, and
otherwise the first, the last and the other packets are within their limits. There are none only
if the first or the last packet has no room for a byte, or the payload has fewer bytes than it
needs packets. -/
theorem splitAboutEqually_sizes {payloadLen : Int} (positive : 1 ≤ payloadLen)
    (firstReduction : 0 ≤ limits.firstPacketReductionLen)
    (lastReduction : 0 ≤ limits.lastPacketReductionLen) :
    ∃ sizes, limits.splitAboutEqually payloadLen = some sizes ∧
      (sizes ≠ [] → (∀ size ∈ sizes, 0 < size) ∧ sizes.sum = payloadLen) ∧
      (sizes.length = 1 ↔
        payloadLen ≤ limits.maxPayloadLen - limits.singlePacketReductionLen) ∧
      (2 ≤ sizes.length →
        (∀ size ∈ sizes.head?, size ≤ limits.maxPayloadLen - limits.firstPacketReductionLen) ∧
        (∀ size ∈ sizes.getLast?, size ≤ limits.maxPayloadLen - limits.lastPacketReductionLen) ∧
        ∀ size ∈ sizes, size ≤ limits.maxPayloadLen) ∧
      (sizes = [] →
        limits.maxPayloadLen - limits.firstPacketReductionLen < 1 ∨
          limits.maxPayloadLen - limits.lastPacketReductionLen < 1 ∨
          payloadLen < limits.numPackets payloadLen) := by
  by_cases single : limits.maxPayloadLen ≥ limits.singlePacketReductionLen + payloadLen
  · refine ⟨[payloadLen], if_pos single, fun _ => ⟨?_, List.sum_singleton⟩,
      iff_of_true rfl (by omega), fun two => absurd two (Nat.not_succ_le_self 1),
      fun none => absurd none (List.cons_ne_nil _ _)⟩
    intro size member
    rw [List.mem_singleton] at member
    omega
  have empty : (limits.maxPayloadLen - limits.firstPacketReductionLen < 1 ∨
      limits.maxPayloadLen - limits.lastPacketReductionLen < 1) ∨
        payloadLen < limits.numPackets payloadLen →
      limits.splitAboutEqually payloadLen = some [] := by
    intro reason
    unfold splitAboutEqually
    rw [if_neg single]
    split_ifs with noRoom few
    · rfl
    · rfl
    · exact absurd reason (not_or.mpr ⟨noRoom, few⟩)
  by_cases reason : (limits.maxPayloadLen - limits.firstPacketReductionLen < 1 ∨
      limits.maxPayloadLen - limits.lastPacketReductionLen < 1) ∨
        payloadLen < limits.numPackets payloadLen
  · exact ⟨[], empty reason, fun some => absurd rfl some,
      iff_of_false (by decide) (by omega), fun two => absurd two (Nat.not_succ_le_zero 1),
      fun _ => or_assoc.mp reason⟩
  have several : Several limits payloadLen :=
    ⟨firstReduction, lastReduction, by omega, by omega, positive, by omega⟩
  obtain ⟨firstSize, sizes, done, some, least, fits, fitting⟩ := several.splitAboutEqually single
  refine ⟨firstSize :: sizes, done, fun _ => ⟨?_, ?_⟩, iff_of_false ?_ (by omega),
    fun _ => ⟨?_, ?_, ?_⟩, fun none => absurd none (List.cons_ne_nil _ _)⟩
  · intro size member
    rcases List.mem_cons.mp member with rfl | member
    · exact least
    · exact (fitting.bounds size member).1
  · rw [List.sum_cons, fitting.total]
    omega
  · have := List.length_pos_iff.mpr some
    rw [List.length_cons]
    omega
  · intro size isFirst
    obtain rfl := Option.some.inj isFirst
    exact fits
  · intro size isLast
    rw [List.getLast?_cons_of_ne_nil some] at isLast
    exact fitting.last size isLast
  · intro size member
    rcases List.mem_cons.mp member with rfl | member
    · omega
    · exact (fitting.bounds size member).2

/-- 28 bytes in packets of 7, the last of which lacks 2. -/
theorem splitAboutEqually_sizes_instance :
    ∃ sizes, ({ maxPayloadLen := 7, lastPacketReductionLen := 2 } :
        PayloadSizeLimits).splitAboutEqually 28 = some sizes ∧
      ((∀ size ∈ sizes, 0 < size) ∧ sizes.sum = 28) := by
  have positive : (1 : Int) ≤ 28 := by decide
  obtain ⟨sizes, done, total, -⟩ := splitAboutEqually_sizes
    { maxPayloadLen := 7, lastPacketReductionLen := 2 } positive (by decide) (by decide)
  refine ⟨sizes, done, total ?_⟩
  rintro rfl
  revert done
  decide

end PayloadSizeLimits

end MpWebRtc
