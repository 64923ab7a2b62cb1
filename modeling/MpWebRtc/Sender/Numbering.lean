import MpWebRtc.Math.Counting
import MpWebRtc.Sender.Coverage

/-!
# Numbering the packets of each path

The sender keeps one 16-bit counter per path. Path 2 is always numbered by its
counter. Path 1 is not: the redundant scheduler numbers by the RTP sequence number and
leaves the counter where it is, and round robin with the second path closed overwrites
the counter with the RTP sequence number *without* advancing past it. Numbers on path
1 are therefore consecutive as long as either the counter is never bypassed, or only
RTP sequence numbers are used from some call on.
-/

namespace MpWebRtc

open Math Math.Run

/-- A call of one of the two entry points, with the collector and clock it sees. -/
inductive SendCall
  | sendToNetwork (c : Collector) (now : Int) (p : Packet)
  | enqueuePackets (c : Collector) (now : Int) (frame : Frame)

/-- The packets a call labels, and the counters it leaves. -/
def sendStep (s : RtpSender) : SendCall → RtpSender × List Packet
  | .sendToNetwork c now p => ((sendToNetwork c now s p).sender, (sendToNetwork c now s p).handed)
  | .enqueuePackets c now frame =>
      ((enqueuePackets c now s frame.packets).sender,
        (enqueuePackets c now s frame.packets).handed)

/-- The counter of path `k`. -/
def RtpSender.counter (s : RtpSender) (k : Nat) : UInt16 :=
  if k = 2 then s.sequenceNumberS else s.sequenceNumberP

/-- Successive numbers on a path, modulo 2^16. -/
def Consecutive (numbers : List UInt16) : Prop :=
  numbers.IsChain fun earlier later => later = earlier + 1

instance (numbers : List UInt16) : Decidable (Consecutive numbers) :=
  inferInstanceAs (Decidable (List.IsChain _ _))

/-- `numbers` are readings of a path counter. -/
abbrev PathCounts (start : UInt16) (numbers : List UInt16) (stop : UInt16) : Prop :=
  Counts (· + 1) start numbers stop

section Loops

variable {k : Nat}

theorem assignTo_counts (path : k = 1 ∨ k = 2) (primary : Bool) (s : RtpSender) (p : Packet) :
    PathCounts (s.counter k) ((RtpSender.assignTo primary s p).2.filterMap (numberOn k))
      ((RtpSender.assignTo primary s p).1.counter k) := by
  rcases path with rfl | rfl <;> cases primary <;>
    simp [RtpSender.assignTo, RtpSender.assignPrimary, RtpSender.assignSecondary,
      RtpSender.counter, numberOn_label]

theorem assignTo_loop_counts (path : k = 1 ∨ k = 2) (primary : Bool) (s : RtpSender)
    (packets : List Packet) :
    PathCounts (s.counter k) (numbersOn k (outputs (RtpSender.assignTo primary) s packets))
      ((finalState (RtpSender.assignTo primary) s packets).counter k) :=
  Run.counts_outputs (RtpSender.counter · k) (numberOn k) (assignTo_counts path primary) s packets

theorem ratioStep_loop_counts (path : k = 1 ∨ k = 2) (bestIsPrimary : Bool) (p2 : Int)
    (state : RtpSender × Int) (packets : List Packet) :
    PathCounts (state.1.counter k)
    (numbersOn k (outputs (ratioStep bestIsPrimary p2) state packets))
      ((finalState (ratioStep bestIsPrimary p2) state packets).1.counter k) :=
  Run.counts_outputs (fun state : RtpSender × Int => state.1.counter k) (numberOn k)
    (fun state p => assignTo_counts path _ state.1 p) state packets

end Loops

section RoundRobinLoop

variable {c : Collector} {p : Packet}

theorem numbersOn_unassigned {k : Nat} (path : k = 1 ∨ k = 2)
    (unassigned : p.subflowId = 0) : numbersOn k [p] = [] := by
  rcases path with rfl | rfl <;> simp [numbersOn, numberOn, unassigned]

theorem roundRobinStep_counts_secondary (loop : RoundRobin) (p : Packet)
    (whole : WholeBudgets loop) (unassigned : p.subflowId = 0) :
    PathCounts loop.sender.sequenceNumberS ((roundRobinStep c loop p).2.filterMap (numberOn 2))
      (roundRobinStep c loop p).1.sender.sequenceNumberS := by
  obtain ⟨a, b, budget1, budget2⟩ := whole
  rcases roundRobinStep_cases (c := c) loop p a b budget1 budget2 with taken | taken | left
  · simp [taken.emitted, taken.counterS, numberOn_label]
  · simp [taken.emitted, taken.counterS, numberOn_label]
  · simp [left.emitted, left.counterS, numberOn, unassigned]

variable (packets : List Packet)

/-- Round robin numbers path 2 by its counter. -/
theorem roundRobin_counts_secondary
    (unassigned : ∀ p ∈ packets, p.subflowId = 0) (loop : RoundRobin) (whole : WholeBudgets loop) :
    PathCounts loop.sender.sequenceNumberS
      (numbersOn 2 (outputs (roundRobinStep c) loop packets))
      (finalState (roundRobinStep c) loop packets).sender.sequenceNumberS :=
  (along_of_forall_mem loop unassigned).counts WholeBudgets (·.sender.sequenceNumberS) (numberOn 2)
    (fun loop p whole _ => roundRobinStep_wholeBudgets loop p whole)
    (fun loop p whole fresh => roundRobinStep_counts_secondary loop p whole fresh) whole

/-- Each RTP sequence number is zero or agrees with the counter it meets. -/
def FollowsCounter : UInt16 → List Packet → Prop
  | _, [] => True
  | counter, p :: packets =>
      (p.sequenceNumber = 0 ∨ p.sequenceNumber = counter) ∧ FollowsCounter (counter + 1) packets

instance FollowsCounter.decidable :
    (counter : UInt16) → (packets : List Packet) → Decidable (FollowsCounter counter packets)
  | _, [] => .isTrue trivial
  | counter, _ :: packets =>
      have := FollowsCounter.decidable (counter + 1) packets
      inferInstanceAs (Decidable (_ ∧ _))

theorem roundRobinNumber_of_agrees {s : RtpSender} (agrees : ¬ c.mpIsSecondPathOpen →
      p.sequenceNumber = 0 ∨ p.sequenceNumber = s.sequenceNumberP) :
    roundRobinNumber c s p =
      ({ s with sequenceNumberP := s.sequenceNumberP + 1 }, s.sequenceNumberP) := by
  unfold roundRobinNumber
  rw [if_neg]
  by_cases isOpen : c.mpIsSecondPathOpen
  · simp [isOpen]
  · rcases agrees isOpen with zero | same
    · simp [zero]
    · simp [same]

theorem roundRobinNumber_of_ne_zero {s : RtpSender}
    (closed : ¬ c.mpIsSecondPathOpen) (nonzero : p.sequenceNumber ≠ 0) :
    (roundRobinNumber c s p).2 = p.sequenceNumber := by
  have positive : p.sequenceNumber > 0 := UInt16.pos_iff_ne_zero.mpr nonzero
  by_cases same : s.sequenceNumberP = p.sequenceNumber
  · simp [roundRobinNumber, same]
  · simp [roundRobinNumber, closed, same, positive]

/-- Round robin numbers path 1 by its counter as long as no RTP sequence number
overwrites it. -/
theorem roundRobin_counts_primary
    (unassigned : ∀ p ∈ packets, p.subflowId = 0) (loop : RoundRobin) (a b : Nat)
    (budget1 : loop.p1 = a) (budget2 : loop.p2 = b) (follows : ¬ c.mpIsSecondPathOpen →
      FollowsCounter loop.sender.sequenceNumberP (packets.take a)) :
    PathCounts loop.sender.sequenceNumberP
      (numbersOn 1 (outputs (roundRobinStep c) loop packets))
      (finalState (roundRobinStep c) loop packets).sender.sequenceNumberP := by
  induction packets generalizing loop a b with
  | nil => rfl
  | cons p packets ih =>
      have later : ∀ q ∈ packets, q.subflowId = 0 := fun q member =>
        unassigned q (List.mem_cons_of_mem _ member)
      rw [outputs_cons, numbersOn_append, finalState_cons]
      rcases roundRobinStep_cases (c := c) loop p a b budget1 budget2 with taken | taken | left
      · obtain ⟨a, rfl⟩ : ∃ a', a = a' + 1 := ⟨a - 1, by have := taken.budget; omega⟩
        have next : (roundRobinStep c loop p).1.p1 = a := by
          rw [taken.p1, budget1]
          push_cast
          ring
        have number := roundRobinNumber_of_agrees (s := loop.sender) fun closed =>
          (follows closed).1
        have counter := taken.counterP
        rw [number] at counter
        have rest := ih later _ a b next (taken.p2.trans budget2)
        rw [counter] at rest
        simpa [taken.emitted, numbersOn, numberOn_label, number] using
          rest fun closed => (follows closed).2
      · have next : (roundRobinStep c loop p).1.p2 = (b - 1 : Nat) := by
          rw [taken.p2, budget2, Nat.cast_pred taken.budget]
        have rest := ih later _ a (b - 1) (taken.p1.trans budget1) next
          fun closed => absurd taken.isOpen closed
        rw [taken.counterP] at rest
        simpa [taken.emitted, numbersOn, numberOn_label] using rest
      · have rest := ih later _ a b (left.p1.trans budget1) (left.p2.trans budget2)
        rw [left.counterP] at rest
        rw [left.emitted, numbersOn_unassigned (.inl rfl) (unassigned p (List.mem_cons_self ..))]
        refine rest fun closed => ?_
        have exhausted : a = 0 := by simpa [roundRobinCapacity, closed] using left.exhausted
        simp [exhausted, FollowsCounter]

/-- With the second path closed, round robin numbers path 1 by the RTP sequence
numbers, whatever the counter says. -/
theorem roundRobin_closed_numbers (closed : ¬ c.mpIsSecondPathOpen) (packets : List Packet)
    (unassigned : ∀ p ∈ packets, p.subflowId = 0) (loop : RoundRobin) (a b : Nat)
    (budget1 : loop.p1 = a) (budget2 : loop.p2 = b)
    (nonzero : ∀ p ∈ packets.take a, p.sequenceNumber ≠ 0) :
    numbersOn 1 (outputs (roundRobinStep c) loop packets) =
      (packets.take a).map (·.sequenceNumber) := by
  induction packets generalizing loop a b with
  | nil => simp
  | cons p packets ih =>
      have later : ∀ q ∈ packets, q.subflowId = 0 := fun q member =>
        unassigned q (List.mem_cons_of_mem _ member)
      rw [outputs_cons, numbersOn_append]
      rcases roundRobinStep_cases (c := c) loop p a b budget1 budget2 with taken | taken | left
      · obtain ⟨a, rfl⟩ : ∃ a', a = a' + 1 := ⟨a - 1, by have := taken.budget; omega⟩
        have next : (roundRobinStep c loop p).1.p1 = a := by
          rw [taken.p1, budget1]
          push_cast
          ring
        rw [List.take_succ_cons, List.forall_mem_cons] at nonzero
        rw [ih later _ a b next (taken.p2.trans budget2) nonzero.2, taken.emitted,
          roundRobinNumber_of_ne_zero closed nonzero.1]
        simp [numbersOn, numberOn_label]
      · exact absurd taken.isOpen closed
      · have exhausted : a = 0 := by simpa [roundRobinCapacity, closed] using left.exhausted
        rw [left.emitted, numbersOn_unassigned (.inl rfl) (unassigned p (List.mem_cons_self ..)),
          ih later _ a b (left.p1.trans budget1) (left.p2.trans budget2) (by simp [exhausted])]
        simp [exhausted]

end RoundRobinLoop

section Calls

variable {c : Collector} {now : Int} {s : RtpSender}

theorem startedAt_counter (now : Int) (s : RtpSender) (k : Nat) :
    (s.started now).counter k = s.counter k := rfl

theorem plannedShares_counter (packets : List Packet) (k : Nat) :
    (plannedShares c now s packets).1.counter k = s.counter k := by
  unfold plannedShares windowShares
  dsimp only
  split
  · rfl
  · split <;> rfl

variable {k : Nat}

section

variable (path : k = 1 ∨ k = 2)
include path

theorem startUp_counts (packets : List Packet) :
    PathCounts (s.counter k) (numbersOn k (splitStartUp c s packets).handed)
      ((splitStartUp c s packets).sender.counter k) := by
  have copies := assignTo_loop_counts path false s (packets.map startUpCopy)
  have originals := assignTo_loop_counts path true
    (finalState (RtpSender.assignTo false) s (packets.map startUpCopy)) packets
  -- The copies are numbered first and handed over last, but on the other path.
  have silent : ∀ (primary : Bool) (s : RtpSender) (packets : List Packet),
      (k = if primary then 2 else 1) →
        numbersOn k (outputs (RtpSender.assignTo primary) s packets) = [] := by
    intro primary s packets other
    rw [numbersOn, List.filterMap_eq_nil_iff]
    intro q member
    have labelled := forall_outputs (assignTo_labels primary) s packets q member
    rw [numberOn, labelled, if_neg]
    rw [other]
    cases primary <;> simp
  simp only [splitStartUp, Split.handed, numbersOn_append]
  rcases path with rfl | rfl
  · rw [silent false s _ rfl] at copies
    change PathCounts _ (_ ++ numbersOn 1 (outputs (RtpSender.assignTo false) s _)) _
    rw [silent false s _ rfl, List.append_nil]
    exact copies.append originals
  · rw [silent true _ _ rfl] at originals
    change PathCounts _ (numbersOn 2 (outputs (RtpSender.assignTo true) _ _) ++ _) _
    rw [silent true _ _ rfl, List.nil_append]
    have numbered := copies.append originals
    rw [List.append_nil] at numbered
    exact numbered

theorem ratio_counts (packets : List Packet) :
    PathCounts (s.counter k) (numbersOn k (splitRatio c now s packets).handed)
      ((splitRatio c now s packets).sender.counter k) := by
  have originals := ratioStep_loop_counts path (c.bestPathid == 1)
    (plannedShares c now s packets).2.shares.p2 ((plannedShares c now s packets).1, 0) packets
  rw [plannedShares_counter] at originals
  simp only [splitRatio, Split.handed, numbersOn_append]
  exact originals.append (assignTo_loop_counts path _ _ _)

theorem splitAll_counts (primary : Bool) (packets : List Packet) :
    PathCounts (s.counter k) (numbersOn k (splitAll primary c s packets).handed)
      ((splitAll primary c s packets).sender.counter k) := by
  simpa [splitAll, Split.handed] using assignTo_loop_counts path primary s packets

theorem keyFrame_counts (packets : List Packet) :
    PathCounts (s.counter k) (numbersOn k (splitKeyFrame c s packets).handed)
      ((splitKeyFrame c s packets).sender.counter k) := by
  simpa [splitKeyFrame, Split.handed] using assignTo_loop_counts path (c.bestPathid == 1) s packets

end

theorem roundRobin_split_eq (frame : Frame) :
    ∃ loop : RoundRobin, loop.sender = s ∧
      loop.p1 = ((roundRobinShares c frame.packets.length).1 : ℚ) ∧
      loop.p2 = ((roundRobinShares c frame.packets.length).2 : ℚ) ∧
      splitRoundRobin c s frame.packets =
        { collector := c
          sender := (finalState (roundRobinStep c) loop frame.packets).sender
          packets := outputs (roundRobinStep c) loop frame.packets } :=
  ⟨⟨s, _, _⟩, rfl, rfl, rfl, by simp only [splitRoundRobin, roundRobinBudgets_eq c frame.length_pos]⟩

/-- The call neither bypasses nor overwrites the counter of path 1. -/
def KeepsCounter (c : Collector) (now : Int) (s : RtpSender) (packets : List Packet)
    (keyframe : Bool) : Prop :=
  splitBranch c now s keyframe ≠ .redundant ∧
    (¬ c.mpIsSecondPathOpen →
      FollowsCounter s.sequenceNumberP (packets.take (roundRobinShares c packets.length).1))

instance (c : Collector) (now : Int) (s : RtpSender) (packets : List Packet) (keyframe : Bool) :
    Decidable (KeepsCounter c now s packets keyframe) :=
  inferInstanceAs (Decidable (_ ∧ _))

theorem roundRobin_counts (path : k = 1 ∨ k = 2) (frame : Frame)
    (follows : k = 1 → ¬ c.mpIsSecondPathOpen → FollowsCounter s.sequenceNumberP
      (frame.packets.take (roundRobinShares c frame.packets.length).1)) :
    PathCounts (s.counter k) (numbersOn k (splitRoundRobin c s frame.packets).handed)
      ((splitRoundRobin c s frame.packets).sender.counter k) := by
  obtain ⟨loop, rfl, budget1, budget2, equation⟩ := roundRobin_split_eq (c := c) (s := s) frame
  rw [equation]
  simp only [Split.handed, List.append_nil]
  rcases path with rfl | rfl
  · exact roundRobin_counts_primary frame.packets frame.unassigned loop _ _ budget1 budget2
      (follows rfl)
  · exact roundRobin_counts_secondary frame.packets frame.unassigned loop ⟨_, _, budget1, budget2⟩

/-- One split numbers a path by its counter; path 2 unconditionally. -/
theorem split_counts (path : k = 1 ∨ k = 2) (frame : Frame) (keyframe : Bool)
    (keeps : k = 1 → KeepsCounter c now s frame.packets keyframe) :
    PathCounts (s.counter k)
      (numbersOn k (mpTrafficSplitImplementation c now s frame.packets keyframe).handed)
      ((mpTrafficSplitImplementation c now s frame.packets keyframe).sender.counter k) := by
  have unchanged := startedAt_counter now s k
  unfold mpTrafficSplitImplementation
  rw [← unchanged]
  cases branch : splitBranch c now s keyframe with
  | keyFrame => exact keyFrame_counts path frame.packets
  | startUp => exact startUp_counts path frame.packets
  | fullSignaled1 => exact splitAll_counts path false frame.packets
  | fullSignaled2 => exact splitAll_counts path true frame.packets
  | ratio => exact ratio_counts path frame.packets
  | redundant =>
      rcases path with rfl | rfl
      · exact absurd branch (keeps rfl).1
      · simp [splitRedundant, Split.handed, numbersOn, Function.comp_def, numberOn_label]
  | roundRobin => exact roundRobin_counts path frame fun primary => (keeps primary).2

end Calls

section Runs

/-- The condition of `KeepsCounter` for a call; audio always takes the counter. -/
def SendCall.KeepsCounter (s : RtpSender) : SendCall → Prop
  | .sendToNetwork _ _ _ => True
  | .enqueuePackets c now frame =>
      MpWebRtc.KeepsCounter c now s frame.packets (frame.packets.any (·.isKeyFrame))

instance (s : RtpSender) : (call : SendCall) → Decidable (call.KeepsCounter s)
  | .sendToNetwork _ _ _ => .isTrue trivial
  | .enqueuePackets c now frame =>
      inferInstanceAs (Decidable (MpWebRtc.KeepsCounter c now s frame.packets _))

/-- The call numbers its packets by RTP sequence number: video only, with the
redundant scheduler or with the second path closed. -/
def SendCall.RtpNumbered : SendCall → Prop
  | .sendToNetwork _ _ _ => False
  | .enqueuePackets c _ frame =>
      (c.redScheduling ∧ ¬ c.windowScheduling) ∨
        (¬ c.mpIsSecondPathOpen ∧
          ∀ p ∈ frame.packets.take (roundRobinShares c frame.packets.length).1,
            p.sequenceNumber ≠ 0)

/-- The RTP sequence numbers of the packets such a call sends. -/
def SendCall.rtpNumbers : SendCall → List UInt16
  | .sendToNetwork _ _ _ => []
  | .enqueuePackets c _ frame =>
      if c.mpIsSecondPathOpen then frame.packets.map (·.sequenceNumber)
      else (frame.packets.take (roundRobinShares c frame.packets.length).1).map (·.sequenceNumber)

theorem followsCounter_stamped (now : Int) (counter : UInt16) (packets : List Packet) :
    FollowsCounter counter (packets.map (stampCaptureTime now)) ↔
      FollowsCounter counter packets := by
  induction packets generalizing counter with
  | nil => rfl
  | cons p packets ih => simp [FollowsCounter, ih]

theorem sendStep_counts {k : Nat} (path : k = 1 ∨ k = 2) (s : RtpSender) (call : SendCall)
    (keeps : k = 1 → call.KeepsCounter s) :
    PathCounts (s.counter k) ((sendStep s call).2.filterMap (numberOn k))
      ((sendStep s call).1.counter k) := by
  cases call with
  | sendToNetwork c now p =>
      have counts := assignTo_counts path true s (stampCaptureTime now p)
      simpa [sendStep, sendToNetwork, Split.handed, RtpSender.assignTo] using counts
  | enqueuePackets c now frame =>
      refine split_counts path (frame.stamped now) (frame.packets.any (·.isKeyFrame)) ?_
      intro primary
      obtain ⟨notRed, follows⟩ := keeps primary
      refine ⟨notRed, fun closed => ?_⟩
      simpa [Frame.stamped, ← List.map_take, followsCounter_stamped] using follows closed

variable (s : RtpSender) (calls : List SendCall)

/-- Path 2 is numbered by its counter in every run. -/
theorem run_counts_secondary :
    PathCounts s.sequenceNumberS (numbersOn 2 (outputs sendStep s calls))
      (finalState sendStep s calls).sequenceNumberS :=
  Run.counts_outputs (RtpSender.counter · 2) (numberOn 2)
    (fun s call => sendStep_counts (.inr rfl) s call (by simp)) s calls

/-- Path 1 is numbered by its counter in every run that keeps the counter. -/
theorem run_counts_primary (keeps : Along sendStep (fun s call => call.KeepsCounter s) s calls) :
    PathCounts s.sequenceNumberP (numbersOn 1 (outputs sendStep s calls))
      (finalState sendStep s calls).sequenceNumberP :=
  keeps.counts (fun _ => True) (RtpSender.counter · 1) (numberOn 1)
    (fun _ _ _ _ => trivial)
    (fun s call _ keeps => sendStep_counts (.inl rfl) s call fun _ => keeps) trivial

theorem closed_branch {c : Collector} (closed : ¬ c.mpIsSecondPathOpen) (now : Int)
    (s : RtpSender) (keyframe : Bool) : splitBranch c now s keyframe = .roundRobin := by
  simp [splitBranch, Collector.windowScheduling, Collector.redScheduling, closed]

theorem sendStep_rtpNumbers (call : SendCall) (numbered : call.RtpNumbered) :
    numbersOn 1 (sendStep s call).2 = call.rtpNumbers := by
  cases call with
  | sendToNetwork => exact numbered.elim
  | enqueuePackets c now frame =>
      simp only [sendStep, enqueuePackets, mpTrafficSplitImplementation]
      rcases numbered with ⟨red, notWindow⟩ | ⟨closed, nonzero⟩
      · have isOpen : c.mpIsSecondPathOpen := by
          simp only [Collector.redScheduling, Bool.and_eq_true] at red
          exact red.2
        simp [splitBranch, notWindow, red, splitRedundant, Split.handed, SendCall.rtpNumbers,
          isOpen, numbersOn, List.filterMap_map, Function.comp_def, numberOn_label]
      · rw [closed_branch closed]
        obtain ⟨loop, -, budget1, budget2, equation⟩ :=
          roundRobin_split_eq (c := c) (s := (s.started now))
            (frame.stamped now)
        change numbersOn 1 (splitRoundRobin c _ (frame.stamped now).packets).handed = _
        rw [equation]
        simp only [Split.handed, List.append_nil]
        rw [roundRobin_closed_numbers closed _ (frame.stamped now).unassigned loop _ _
          budget1 budget2]
        · simp [SendCall.rtpNumbers, closed, Frame.stamped, ← List.map_take, Function.comp_def]
        · simpa [Frame.stamped, ← List.map_take] using nonzero

/-- A run of RTP-numbered calls numbers path 1 by the RTP sequence numbers. -/
theorem run_rtpNumbers (numbered : ∀ call ∈ calls, call.RtpNumbered) :
    numbersOn 1 (outputs sendStep s calls) = calls.flatMap SendCall.rtpNumbers := by
  induction calls generalizing s with
  | nil => rfl
  | cons call calls ih =>
      rw [List.forall_mem_cons] at numbered
      rw [outputs_cons, numbersOn_append, sendStep_rtpNumbers s call numbered.1,
        ih _ numbered.2, List.flatMap_cons]

/-- **Per-path numbering.** Path 2 is numbered consecutively in every run. Path 1 is
numbered consecutively in a run that first keeps its counter and from some call on
uses consecutive RTP sequence numbers, continuing where the counter stands. -/
theorem run_numbers_consecutive (byCounter byRtp : List SendCall)
    (keeps : Along sendStep (fun s call => call.KeepsCounter s) s byCounter)
    (numbered : ∀ call ∈ byRtp, call.RtpNumbered)
    (consecutive : Consecutive (byRtp.flatMap SendCall.rtpNumbers))
    (continues : byCounter ≠ [] → ∀ number ∈ (byRtp.flatMap SendCall.rtpNumbers).head?,
      number = (finalState sendStep s byCounter).sequenceNumberP) :
    Consecutive (numbersOn 1 (outputs sendStep s (byCounter ++ byRtp))) ∧
      Consecutive (numbersOn 2 (outputs sendStep s (byCounter ++ byRtp))) := by
  refine ⟨?_, (run_counts_secondary s _).isChain⟩
  have counted := run_counts_primary s byCounter keeps
  rw [outputs_append, numbersOn_append, run_rtpNumbers _ byRtp numbered]
  refine counted.isChain.append consecutive ?_
  intro last isLast first isFirst
  have started : byCounter ≠ [] := by
    rintro rfl
    simp at isLast
  rw [continues started first isFirst]
  exact (counted.getLast?_next last isLast).symm

/-- The second path opens after a frame on path 1, and closes again. -/
theorem open_then_closed_numbers_consecutive :
    Consecutive (numbersOn 1 (outputs sendStep {}
        ([.enqueuePackets openRoundRobin 20 (videoFrame 500 [501])] ++
          [.enqueuePackets (Collector.initial 0 0) 40 (videoFrame 11 [12])]))) ∧
      Consecutive (numbersOn 2 (outputs sendStep {}
        ([.enqueuePackets openRoundRobin 20 (videoFrame 500 [501])] ++
          [.enqueuePackets (Collector.initial 0 0) 40 (videoFrame 11 [12])]))) := by
  refine run_numbers_consecutive {} _ _ (by decide +kernel)
    (by simpa [SendCall.RtpNumbered] using .inr (by decide +kernel)) (by decide +kernel) ?_
  intro _ number isFirst
  have first : ([SendCall.enqueuePackets (Collector.initial 0 0) 40
      (videoFrame 11 [12])].flatMap SendCall.rtpNumbers).head? = some 11 := by
    decide +kernel
  rw [first] at isFirst
  obtain rfl : 11 = number := Option.some.inj isFirst
  decide +kernel

/-- Closing the path leaves the counter at the number just used, so path 1 repeats it
once the path is open again. -/
theorem reopened_path_repeats_number :
    ¬ Consecutive (numbersOn 1 (outputs sendStep {}
      [.enqueuePackets (Collector.initial 0 0) 20 (videoFrame 100 []),
        .enqueuePackets openRoundRobin 40 (videoFrame 101 [102])])) := by
  decide +kernel

end Runs

end MpWebRtc
