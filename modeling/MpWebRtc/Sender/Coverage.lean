import Mathlib.Tactic.Linarith
import MpWebRtc.Sender.Splitter

/-!
# Which frames leave the splitter with a path on every packet

Every packet and every copy is handed over, and six of the seven branches label them all.
Round robin labels a packet only while a budget of an admissible path is left, so the
question is whether the budgets of the admissible paths add up to the frame. They do not
when a half signal reserves part of the frame for a path that is closed or out of use.
-/

namespace MpWebRtc

open Math.Run

/-- A frame as the packetizer delivers it: not empty, and without path labels. -/
structure Frame where
  packets : List Packet
  nonempty : packets ≠ []
  unassigned : ∀ p ∈ packets, p.subflowId = 0

@[simp] theorem stampCaptureTime_subflowId (now : Int) (p : Packet) :
    (stampCaptureTime now p).subflowId = p.subflowId := by
  unfold stampCaptureTime
  split <;> rfl

@[simp] theorem stampCaptureTime_sequenceNumber (now : Int) (p : Packet) :
    (stampCaptureTime now p).sequenceNumber = p.sequenceNumber := by
  unfold stampCaptureTime
  split <;> rfl

/-- The frame as `EnqueuePackets` passes it on. -/
def Frame.stamped (frame : Frame) (now : Int) : Frame where
  packets := frame.packets.map (stampCaptureTime now)
  nonempty := by simpa using frame.nonempty
  unassigned := by simpa using frame.unassigned

variable (c : Collector)

/-- The packet is labelled with a path that is in use. -/
def Routed (p : Packet) : Prop :=
  (p.subflowId = 1 ∨ p.subflowId = 2) ∧ (p.subflowId = 2 → c.mpIsSecondPathOpen)

instance (c : Collector) (p : Packet) : Decidable (Routed c p) :=
  inferInstanceAs (Decidable (_ ∧ _))

/-- The packet is handed over as it is, or with a label. -/
def HandedAs (p q : Packet) : Prop := q = p ∨ ∃ id seq, q = p.label id seq

/-- The copies that a call makes of the packets of a frame. -/
def copiesOf (now : Int) (s : RtpSender) (packets : List Packet) (keyframe : Bool) : List Packet :=
  match splitBranch c now s keyframe with
  | .startUp => packets.map startUpCopy
  | .ratio =>
      (packets.take (plannedShares c now (s.started now) packets).2.dupPackets).map telemetryCopy
  | _ => []

/-- All packets of a frame and all copies of them are handed over. -/
structure Delivers (c : Collector) (now : Int) (s : RtpSender) (packets : List Packet)
    (keyframe : Bool) (split : Split) : Prop where
  frame : List.Forall₂ HandedAs packets split.packets
  copies : List.Forall₂ HandedAs (copiesOf c now s packets keyframe) split.copies

section Delivery

variable {c : Collector} (bestIsPrimary : Bool)

/-- The path of the next packet of the ratio loop. -/
theorem ratioStep_path (p2 : Int) (state : RtpSender × Int) (p : Packet) :
    ∃ seq, (ratioStep bestIsPrimary p2 state p).2 =
      [p.label (worstLabel (bestIsPrimary == decide (state.2 < p2))) seq] := by
  unfold ratioStep RtpSender.assignTo
  cases bestIsPrimary <;> by_cases below : state.2 < p2
  · exact ⟨state.1.sequenceNumberP, by simp [below, worstLabel, RtpSender.assignPrimary]⟩
  · exact ⟨state.1.sequenceNumberS, by simp [below, worstLabel, RtpSender.assignSecondary]⟩
  · exact ⟨state.1.sequenceNumberS, by simp [below, worstLabel, RtpSender.assignSecondary]⟩
  · exact ⟨state.1.sequenceNumberP, by simp [below, worstLabel, RtpSender.assignPrimary]⟩

theorem assignTo_emits (primary : Bool) (s : RtpSender) (p : Packet) :
    ∃ id seq, (RtpSender.assignTo primary s p).2 = [p.label id seq] := by
  cases primary
  · exact ⟨2, _, rfl⟩
  · exact ⟨1, _, rfl⟩

theorem assignTo_handedAs (primary : Bool) (s : RtpSender) (packets : List Packet) :
    List.Forall₂ HandedAs packets (outputs (RtpSender.assignTo primary) s packets) := by
  apply forall₂_outputs
  intro s p
  obtain ⟨id, seq, emitted⟩ := assignTo_emits primary s p
  exact ⟨_, emitted, .inr ⟨id, seq, rfl⟩⟩

theorem ratioStep_handedAs (p2 : Int) (state : RtpSender × Int) (packets : List Packet) :
    List.Forall₂ HandedAs packets (outputs (ratioStep bestIsPrimary p2) state packets) := by
  apply forall₂_outputs
  intro state p
  obtain ⟨seq, emitted⟩ := ratioStep_path bestIsPrimary p2 state p
  exact ⟨_, emitted, .inr ⟨_, seq, rfl⟩⟩

theorem roundRobinStep_handedAs (loop : RoundRobin) (packets : List Packet) :
    List.Forall₂ HandedAs packets (outputs (roundRobinStep c) loop packets) := by
  apply forall₂_outputs
  intro loop p
  by_cases primary : roundRobinPrimary c loop
  · exact ⟨p.label 1 (roundRobinNumber c loop.sender p).2, by simp [roundRobinStep, primary],
      .inr ⟨1, _, rfl⟩⟩
  · by_cases secondary : (c.mpIsSecondPathOpen && decide (loop.p2 > 0)) = true
    · exact ⟨p.label 2 loop.sender.sequenceNumberS, by
        simp only [roundRobinStep, primary, secondary, if_true]; rfl, .inr ⟨2, _, rfl⟩⟩
    · exact ⟨p, by simp only [roundRobinStep, primary, secondary]; rfl, .inl rfl⟩

/-- A copy is made of a packet that is labelled already, and labelled again. -/
theorem telemetry_handedAs {packets sent : List Packet}
    (labelled : List.Forall₂ HandedAs packets sent) (primary : Bool) (s : RtpSender) :
    List.Forall₂ HandedAs (packets.map telemetryCopy)
      (outputs (RtpSender.assignTo primary) s (sent.map telemetryCopy)) := by
  induction labelled generalizing s with
  | nil => exact .nil
  | cons first _ ih =>
      obtain ⟨id, seq, emitted⟩ := assignTo_emits primary s (telemetryCopy _)
      rw [List.map_cons, List.map_cons, outputs_cons, emitted]
      refine .cons (.inr ⟨id, seq, ?_⟩) (ih _)
      rcases first with rfl | ⟨id', seq', rfl⟩
      · rfl
      · simp [telemetryCopy, Packet.label, Packet.setSandy, Packet.setMpFlowSeqNum,
          Function.comp_def]

theorem split_delivers (c : Collector) (now : Int) (s : RtpSender) (packets : List Packet)
    (keyframe : Bool) :
    Delivers c now s packets keyframe
      (mpTrafficSplitImplementation c now s packets keyframe) := by
  unfold mpTrafficSplitImplementation
  cases branch : splitBranch c now s keyframe with
  | keyFrame => exact ⟨assignTo_handedAs _ _ _, by simp [copiesOf, branch, splitKeyFrame]⟩
  | startUp =>
      refine ⟨assignTo_handedAs true _ _, ?_⟩
      rw [copiesOf, branch]
      exact assignTo_handedAs false _ _
  | fullSignaled1 => exact ⟨assignTo_handedAs _ _ _, by simp [copiesOf, branch, splitAll]⟩
  | fullSignaled2 => exact ⟨assignTo_handedAs _ _ _, by simp [copiesOf, branch, splitAll]⟩
  | ratio =>
      have labelled := ratioStep_handedAs (c.bestPathid == 1)
        (plannedShares c now (s.started now) packets).2.shares.p2
        ((plannedShares c now (s.started now) packets).1, 0) packets
      refine ⟨labelled, ?_⟩
      rw [copiesOf, branch]
      exact telemetry_handedAs (List.forall₂_take _ labelled) _ _
  | redundant =>
      refine ⟨?_, by simp [copiesOf, branch, splitRedundant]⟩
      exact List.forall₂_map_right_iff.mpr
        (List.forall₂_same.mpr fun p _ => .inr ⟨1, p.sequenceNumber, rfl⟩)
  | roundRobin =>
      exact ⟨roundRobinStep_handedAs _ _, by simp [copiesOf, branch, splitRoundRobin]⟩

end Delivery

section Branches

variable {c : Collector}

theorem routed_of_open {p : Packet} (isOpen : c.mpIsSecondPathOpen)
    (labelled : p.subflowId = 1 ∨ p.subflowId = 2) : Routed c p :=
  ⟨labelled, fun _ => isOpen⟩

theorem assignTo_labels (primary : Bool) (s : RtpSender) (p : Packet) :
    ∀ q ∈ (RtpSender.assignTo primary s p).2, q.subflowId = if primary then 1 else 2 := by
  cases primary <;> simp [RtpSender.assignTo, RtpSender.assignPrimary, RtpSender.assignSecondary]

theorem assignTo_routed (isOpen : c.mpIsSecondPathOpen) (primary : Bool) (s : RtpSender)
    (packets : List Packet) : ∀ q ∈ outputs (RtpSender.assignTo primary) s packets, Routed c q := by
  apply forall_outputs
  intro s p q member
  refine routed_of_open isOpen ?_
  rw [assignTo_labels primary s p q member]
  cases primary <;> simp

theorem ratioStep_routed (isOpen : c.mpIsSecondPathOpen) (bestIsPrimary : Bool) (p2 : Int)
    (state : RtpSender × Int) (packets : List Packet) :
    ∀ q ∈ outputs (ratioStep bestIsPrimary p2) state packets, Routed c q := by
  apply forall_outputs
  intro ⟨s, count⟩ p q member
  refine routed_of_open isOpen ?_
  rw [assignTo_labels _ s p q member]
  split <;> simp

theorem windowScheduling_open (window : c.windowScheduling) : c.mpIsSecondPathOpen := by
  simp only [Collector.windowScheduling, Bool.and_eq_true] at window
  exact window.2

end Branches

section RoundRobin

variable (c : Collector)

/-- The budgets of round robin, as numbers of packets. -/
def roundRobinShares (n : Nat) : Nat × Nat :=
  if c.halfSignaledOn 2 then (n - 1, 1)
  else if c.halfSignaledOn 1 then (1, n - 1)
  else (n, n)

theorem roundRobinBudgets_eq {n : Nat} (positive : 0 < n) :
    roundRobinBudgets c n = (((roundRobinShares c n).1 : ℚ), ((roundRobinShares c n).2 : ℚ)) := by
  have half : ((1 / 2 : Int) : ℚ) * c.alpha = 0 := by
    rw [show (1 / 2 : Int) = 0 by decide]
    simp
  unfold roundRobinBudgets roundRobinShares
  simp only [half, mul_zero, zero_lt_one, ↓reduceIte]
  split
  · simp [Nat.cast_sub positive]
  · split
    · simp [Nat.cast_sub positive]
    · rfl

/-- How many packets round robin can label with budgets `a` and `b`. -/
def roundRobinCapacity (a b : Nat) : Nat :=
  if !c.mpIsSecondPathOpen then a else if c.fullSignaledOn 1 then b else a + b

variable {c} (loop : RoundRobin)

theorem roundRobinPrimary_iff :
    roundRobinPrimary c loop = true ↔
      0 < loop.p1 ∧ ¬ (c.fullSignaledOn 1 ∧ c.mpIsSecondPathOpen) ∧
        (loop.sender.totalPacketsSent % 2 = 0 ∨ ¬ c.mpIsSecondPathOpen ∨
          (c.fullSignaledOn 2 ∧ c.mpIsSecondPathOpen) ∨ loop.p2 = 0) := by
  simp only [roundRobinPrimary, Bool.and_eq_true, Bool.or_eq_true, Bool.not_eq_true',
    decide_eq_true_eq, beq_iff_eq, Bool.and_eq_false_iff, gt_iff_lt]
  cases c.fullSignaledOn 1 <;> cases c.mpIsSecondPathOpen <;> simp [or_assoc]

/-- Round robin takes the packet on path 1. -/
structure TakenPrimary (c : Collector) (loop : RoundRobin) (p : Packet) (a : Nat) : Prop where
  budget : 0 < a
  emitted : (roundRobinStep c loop p).2 = [p.label 1 (roundRobinNumber c loop.sender p).2]
  p1 : (roundRobinStep c loop p).1.p1 = loop.p1 - 1
  p2 : (roundRobinStep c loop p).1.p2 = loop.p2
  counterP : (roundRobinStep c loop p).1.sender.sequenceNumberP =
    (roundRobinNumber c loop.sender p).1.sequenceNumberP
  counterS : (roundRobinStep c loop p).1.sender.sequenceNumberS = loop.sender.sequenceNumberS
  admissible : ¬ (c.fullSignaledOn 1 ∧ c.mpIsSecondPathOpen)

/-- Round robin takes the packet on path 2. -/
structure TakenSecondary (c : Collector) (loop : RoundRobin) (p : Packet) (b : Nat) : Prop where
  budget : 0 < b
  isOpen : c.mpIsSecondPathOpen
  emitted : (roundRobinStep c loop p).2 = [p.label 2 loop.sender.sequenceNumberS]
  p1 : (roundRobinStep c loop p).1.p1 = loop.p1
  p2 : (roundRobinStep c loop p).1.p2 = loop.p2 - 1
  counterP : (roundRobinStep c loop p).1.sender.sequenceNumberP = loop.sender.sequenceNumberP
  counterS : (roundRobinStep c loop p).1.sender.sequenceNumberS = loop.sender.sequenceNumberS + 1

/-- Round robin leaves the packet without a path. -/
structure LeftOver (c : Collector) (loop : RoundRobin) (p : Packet) (a b : Nat) : Prop where
  exhausted : roundRobinCapacity c a b = 0
  emitted : (roundRobinStep c loop p).2 = [p]
  p1 : (roundRobinStep c loop p).1.p1 = loop.p1
  p2 : (roundRobinStep c loop p).1.p2 = loop.p2
  counterP : (roundRobinStep c loop p).1.sender.sequenceNumberP = loop.sender.sequenceNumberP
  counterS : (roundRobinStep c loop p).1.sender.sequenceNumberS = loop.sender.sequenceNumberS

theorem roundRobinNumber_sequenceNumberS (s : RtpSender) (p : Packet) :
    (roundRobinNumber c s p).1.sequenceNumberS = s.sequenceNumberS := by
  unfold roundRobinNumber
  split <;> rfl

/-- If neither path takes a packet, the capacity is used up. -/
private theorem capacity_eq_zero {loop : RoundRobin} {a b : Nat} (budget1 : loop.p1 = a)
    (budget2 : loop.p2 = b) (notPrimary : ¬ roundRobinPrimary c loop)
    (notSecondary : ¬ (c.mpIsSecondPathOpen ∧ 0 < b)) : roundRobinCapacity c a b = 0 := by
  rw [roundRobinPrimary_iff, budget1, budget2] at notPrimary
  unfold roundRobinCapacity
  by_cases isOpen : c.mpIsSecondPathOpen
  · have exhausted2 : b = 0 := by
      by_contra positive
      exact notSecondary ⟨isOpen, by omega⟩
    simp only [isOpen, Bool.not_true, Bool.false_eq_true, ↓reduceIte]
    split
    · exact exhausted2
    · rename_i unsignaled
      by_contra positive
      exact notPrimary ⟨by exact_mod_cast (by omega : 0 < a), by simp [unsignaled],
        by simp [exhausted2]⟩
  · simp only [isOpen, Bool.not_false, ↓reduceIte]
    by_contra positive
    exact notPrimary ⟨by exact_mod_cast (by omega : 0 < a), by simp [isOpen], by simp [isOpen]⟩

/-- What the round-robin body can do to a packet when the budgets are whole numbers. -/
theorem roundRobinStep_cases (p : Packet) (a b : Nat)
    (budget1 : loop.p1 = a) (budget2 : loop.p2 = b) :
    TakenPrimary c loop p a ∨ TakenSecondary c loop p b ∨ LeftOver c loop p a b := by
  by_cases primary : roundRobinPrimary c loop
  · left
    obtain ⟨positive, admissible, -⟩ := (roundRobinPrimary_iff loop).mp primary
    rw [budget1, Nat.cast_pos] at positive
    refine ⟨positive, ?_, ?_, ?_, ?_, ?_, admissible⟩
    all_goals simp [roundRobinStep, primary, roundRobinNumber_sequenceNumberS]
  · by_cases secondary : c.mpIsSecondPathOpen ∧ 0 < b
    · right; left
      have left2 : loop.p2 > 0 := by rw [budget2]; exact_mod_cast secondary.2
      refine ⟨secondary.2, secondary.1, ?_, ?_, ?_, ?_, ?_⟩
      all_goals simp [roundRobinStep, primary, secondary.1, left2]
    · right; right
      have noSecondary : ¬ (c.mpIsSecondPathOpen && decide (loop.p2 > 0)) = true := by
        simpa [budget2] using secondary
      refine ⟨capacity_eq_zero budget1 budget2 primary secondary, ?_, ?_, ?_, ?_, ?_⟩
      all_goals simp [roundRobinStep, primary, noSecondary]

/-- The budgets left over are whole numbers. -/
def WholeBudgets : Prop := ∃ a b : Nat, loop.p1 = a ∧ loop.p2 = b

theorem roundRobinStep_wholeBudgets (p : Packet) (whole : WholeBudgets loop) :
    WholeBudgets (roundRobinStep c loop p).1 := by
  obtain ⟨a, b, budget1, budget2⟩ := whole
  rcases roundRobinStep_cases (c := c) loop p a b budget1 budget2 with taken | taken | left
  · exact ⟨a - 1, b, by rw [taken.p1, budget1, Nat.cast_pred taken.budget], taken.p2.trans budget2⟩
  · exact ⟨a, b - 1, taken.p1.trans budget1, by rw [taken.p2, budget2, Nat.cast_pred taken.budget]⟩
  · exact ⟨a, b, left.p1.trans budget1, left.p2.trans budget2⟩

theorem TakenPrimary.capacity {loop : RoundRobin} {p : Packet} {a : Nat}
    (taken : TakenPrimary c loop p a) (b : Nat) :
    roundRobinCapacity c a b = roundRobinCapacity c (a - 1) b + 1 := by
  have positive := taken.budget
  have admissible := taken.admissible
  unfold roundRobinCapacity
  cases isOpen : c.mpIsSecondPathOpen
  · simp only [Bool.not_false, ↓reduceIte]
    omega
  · simp only [isOpen, and_true, Bool.not_eq_true] at admissible
    simp only [admissible, Bool.not_true, Bool.false_eq_true, ↓reduceIte]
    omega

theorem TakenSecondary.capacity {loop : RoundRobin} {p : Packet} {b : Nat}
    (taken : TakenSecondary c loop p b) (a : Nat) :
    roundRobinCapacity c a b = roundRobinCapacity c a (b - 1) + 1 := by
  have positive := taken.budget
  simp only [roundRobinCapacity, taken.isOpen, Bool.not_true, Bool.false_eq_true, ↓reduceIte]
  split <;> omega

/-- Round robin routes a whole frame exactly when the capacity suffices. -/
theorem roundRobin_routed_iff (packets : List Packet)
    (unassigned : ∀ p ∈ packets, p.subflowId = 0) (loop : RoundRobin) (a b : Nat)
    (budget1 : loop.p1 = a) (budget2 : loop.p2 = b) :
    (∀ q ∈ outputs (roundRobinStep c) loop packets, Routed c q) ↔
      packets.length ≤ roundRobinCapacity c a b := by
  induction packets generalizing loop a b with
  | nil => simp
  | cons p packets ih =>
      have later : ∀ q ∈ packets, q.subflowId = 0 := fun q member =>
        unassigned q (List.mem_cons_of_mem _ member)
      rw [outputs_cons, List.forall_mem_append, List.length_cons]
      rcases roundRobinStep_cases (c := c) loop p a b budget1 budget2 with taken | taken | left
      · have next : (roundRobinStep c loop p).1.p1 = (a - 1 : Nat) := by
          rw [taken.p1, budget1, Nat.cast_pred taken.budget]
        rw [taken.emitted, ih later _ (a - 1) b next (taken.p2.trans budget2), taken.capacity b,
          Nat.add_le_add_iff_right]
        simp [Routed]
      · have next : (roundRobinStep c loop p).1.p2 = (b - 1 : Nat) := by
          rw [taken.p2, budget2, Nat.cast_pred taken.budget]
        rw [taken.emitted, ih later _ a (b - 1) (taken.p1.trans budget1) next, taken.capacity a,
          Nat.add_le_add_iff_right]
        simp [Routed, taken.isOpen]
      · have unlabelled := unassigned p (List.mem_cons_self ..)
        rw [left.emitted, left.exhausted]
        simp [Routed, unlabelled]

end RoundRobin

/-- Round robin has a path for each of `n` packets: no half signal is recorded for a
path while the other one is not admissible, except for a single packet that the
signalled path itself may carry. -/
def RoundRobinCovers (n : Nat) : Prop :=
  (c.mpIsSecondPathOpen → c.fullSignaledOn 1 →
      c.halfSignaledOn 1 ∨ c.halfSignaledOn 2 → c.halfSignaledOn 2 ∧ n ≤ 1) ∧
    (¬ c.mpIsSecondPathOpen →
      c.halfSignaledOn 1 ∨ c.halfSignaledOn 2 → c.halfSignaledOn 1 ∧ n ≤ 1)

instance (c : Collector) (n : Nat) : Decidable (RoundRobinCovers c n) :=
  inferInstanceAs (Decidable (_ ∧ _))

theorem halfSignaledOn_exclusive : c.halfSignaledOn 1 → ¬ c.halfSignaledOn 2 := by
  simp only [Collector.halfSignaledOn, Bool.and_eq_true, beq_iff_eq]
  omega

theorem roundRobinCovers_iff {n : Nat} (positive : 0 < n) :
    RoundRobinCovers c n ↔
      n ≤ roundRobinCapacity c (roundRobinShares c n).1 (roundRobinShares c n).2 := by
  have exclusive := halfSignaledOn_exclusive c
  unfold RoundRobinCovers roundRobinCapacity roundRobinShares
  cases c.mpIsSecondPathOpen <;> cases c.fullSignaledOn 1 <;> cases h2 : c.halfSignaledOn 2 <;>
    cases h1 : c.halfSignaledOn 1 <;> simp_all <;> omega

/-- The condition under which a call labels everything it hands over. -/
def Covers (now : Int) (s : RtpSender) (keyframe : Bool) (n : Nat) : Prop :=
  splitBranch c now s keyframe = .roundRobin → RoundRobinCovers c n

instance (c : Collector) (now : Int) (s : RtpSender) (keyframe : Bool) (n : Nat) :
    Decidable (Covers c now s keyframe n) :=
  inferInstanceAs (Decidable (_ → _))

variable {keyframe : Bool} {s : RtpSender} {now : Int}

theorem splitBranch_open {c : Collector}
    (notRoundRobin : splitBranch c now s keyframe ≠ .roundRobin) : c.mpIsSecondPathOpen := by
  by_cases window : c.windowScheduling
  · exact windowScheduling_open window
  · by_cases red : c.redScheduling
    · simp only [Collector.redScheduling, Bool.and_eq_true] at red
      exact red.2
    · simp [splitBranch, window, red] at notRoundRobin

/-- Outside round robin everything is routed. -/
theorem split_routed_of_ne_roundRobin {c : Collector} {packets : List Packet}
    (notRoundRobin : splitBranch c now s keyframe ≠ .roundRobin) :
    ∀ q ∈ (mpTrafficSplitImplementation c now s packets keyframe).handed, Routed c q := by
  have isOpen := splitBranch_open notRoundRobin
  have primary := assignTo_routed isOpen true
  have secondary := assignTo_routed isOpen false
  unfold mpTrafficSplitImplementation Split.handed
  cases branch : splitBranch c now s keyframe with
  | keyFrame => simpa [splitKeyFrame] using assignTo_routed isOpen _ _ packets
  | startUp =>
      simp only [splitStartUp, List.forall_mem_append]
      exact ⟨primary _ packets, secondary _ _⟩
  | fullSignaled1 => simpa [splitAll] using secondary _ packets
  | fullSignaled2 => simpa [splitAll] using primary _ packets
  | ratio =>
      simp only [splitRatio, List.forall_mem_append]
      exact ⟨ratioStep_routed isOpen _ _ _ packets, assignTo_routed isOpen _ _ _⟩
  | redundant => simp [splitRedundant, Routed]
  | roundRobin => exact absurd branch notRoundRobin

theorem Frame.length_pos (frame : Frame) : 0 < frame.packets.length :=
  List.length_pos_of_ne_nil frame.nonempty

theorem split_routed_iff_of_roundRobin {c : Collector} {frame : Frame}
    (branch : splitBranch c now s keyframe = .roundRobin) :
    (∀ q ∈ (mpTrafficSplitImplementation c now s frame.packets keyframe).handed, Routed c q) ↔
      RoundRobinCovers c frame.packets.length := by
  have budgets := roundRobinBudgets_eq c frame.length_pos
  rw [roundRobinCovers_iff c frame.length_pos,
    ← roundRobin_routed_iff frame.packets frame.unassigned
      ⟨(s.started now), _, _⟩ _ _ rfl rfl]
  simp only [mpTrafficSplitImplementation, branch, splitRoundRobin, Split.handed, budgets,
    List.append_nil]

theorem split_routed_iff (now : Int) (s : RtpSender) (frame : Frame) (keyframe : Bool) :
    (∀ q ∈ (mpTrafficSplitImplementation c now s frame.packets keyframe).handed, Routed c q) ↔
      Covers c now s keyframe frame.packets.length := by
  by_cases branch : splitBranch c now s keyframe = .roundRobin
  · rw [split_routed_iff_of_roundRobin branch]
    simp [Covers, branch]
  · simp only [Covers, branch, false_implies, iff_true]
    exact split_routed_of_ne_roundRobin branch

/-- **Coverage.** All packets of a frame and all copies are handed over with a path in use
exactly when round robin is not asked to reserve packets for a path that is closed or out
of use. -/
theorem splitter_routes_frame_iff (now : Int) (s : RtpSender) (frame : Frame) (keyframe : Bool) :
    (Delivers c now s frame.packets keyframe
        (mpTrafficSplitImplementation c now s frame.packets keyframe) ∧
      ∀ q ∈ (mpTrafficSplitImplementation c now s frame.packets keyframe).handed, Routed c q) ↔
      Covers c now s keyframe frame.packets.length := by
  rw [and_iff_right (split_delivers c now s frame.packets keyframe)]
  exact split_routed_iff c now s frame keyframe

/-- A frame of video packets with these RTP sequence numbers. -/
def videoFrame (first : UInt16) (rest : List UInt16) : Frame where
  packets := (first :: rest).map videoPacket
  nonempty := by simp
  unassigned := by simp [videoPacket]

/-- A half signal was received before the second path opened. -/
def halfSignaledWhileClosed : Collector :=
  { Collector.initial 0 0 with rtt1 := 100 }.mpSetHalfSignal 5

/-- The second of two packets gets no path. -/
theorem halfSignaled_closed_leaves_packet_unrouted :
    ¬ ∀ q ∈ (mpTrafficSplitImplementation halfSignaledWhileClosed 20 {}
      (videoFrame 100 [101]).packets false).handed, Routed halfSignaledWhileClosed q := by
  decide +kernel

end MpWebRtc
