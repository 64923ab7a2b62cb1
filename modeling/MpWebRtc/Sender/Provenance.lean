import MpWebRtc.Sender.Coverage

/-!
# Originals and copies

What the splitter hands over are the packets of the frame, labelled with a path, and
copies of them that carry the payload type for duplicates. A branch uses the paths
for originals and for copies in a way that is known before it runs: this file says
which, and that nothing else about an original changes.
-/

namespace MpWebRtc

open Math.Run

/-- `q` is `p`, possibly labelled with one of the two paths. -/
def LabelledFrom (p q : Packet) : Prop :=
  q = p ∨ ∃ id seq, (id = 1 ∨ id = 2) ∧ q = p.label id seq

/-- The number of packets labelled with path `k`. -/
def shareOn (k : Nat) (packets : List Packet) : Nat := packets.countP (·.subflowId = k)

/-- The packet is one of the copies made only to keep the telemetry of a path alive. -/
def Packet.IsCopy (p : Packet) : Prop := p.payloadType = kDupPayloadType

section Loops

theorem assignTo_labelledFrom (primary : Bool) (s : RtpSender) (p : Packet) :
    ∀ q ∈ (RtpSender.assignTo primary s p).2,
      ∃ seq, q = p.label (if primary then 1 else 2) seq := by
  cases primary <;> simp [RtpSender.assignTo, RtpSender.assignPrimary, RtpSender.assignSecondary]

variable {packets : List Packet}

theorem assignTo_loop_origin (primary : Bool) {s : RtpSender} {q : Packet}
    (member : q ∈ outputs (RtpSender.assignTo primary) s packets) :
    ∃ p ∈ packets, ∃ seq, q = p.label (if primary then 1 else 2) seq := by
  obtain ⟨s, p, inFrame, emitted⟩ := mem_outputs member
  exact ⟨p, inFrame, assignTo_labelledFrom primary s p q emitted⟩

theorem ratio_loop_origin {bestIsPrimary : Bool} {p2 : Int} {state : RtpSender × Int} {q : Packet}
    (member : q ∈ outputs (ratioStep bestIsPrimary p2) state packets) :
    ∃ p ∈ packets, ∃ id seq, (id = 1 ∨ id = 2) ∧ q = p.label id seq := by
  obtain ⟨state, p, inFrame, emitted⟩ := mem_outputs member
  obtain ⟨seq, rfl⟩ := assignTo_labelledFrom _ state.1 p q emitted
  refine ⟨p, inFrame, _, seq, ?_, rfl⟩
  split <;> simp

theorem roundRobinStep_labelledFrom (c : Collector) (loop : RoundRobin) (p : Packet) :
    ∀ q ∈ (roundRobinStep c loop p).2, LabelledFrom p q := by
  unfold roundRobinStep
  dsimp only
  split
  · exact List.forall_mem_singleton.mpr (.inr ⟨1, _, .inl rfl, rfl⟩)
  · split
    · exact List.forall_mem_singleton.mpr (.inr ⟨2, _, .inr rfl, rfl⟩)
    · exact List.forall_mem_singleton.mpr (.inl rfl)

variable (bestIsPrimary : Bool) (p2 : Int)

theorem ratio_loop_worst (s : RtpSender) (count : Int) (packets : List Packet) :
    shareOn (worstLabel bestIsPrimary) (outputs (ratioStep bestIsPrimary p2) (s, count) packets) =
      min packets.length (p2 - count).toNat := by
  induction packets generalizing s count with
  | nil => simp [shareOn]
  | cons p packets ih =>
      rw [outputs_cons]
      unfold shareOn at ih ⊢
      rw [List.countP_append]
      have rest := ih (ratioStep bestIsPrimary p2 (s, count) p).1.1 (count + 1)
      have first : (ratioStep bestIsPrimary p2 (s, count) p).2.countP
          (·.subflowId = worstLabel bestIsPrimary) = if count < p2 then 1 else 0 := by
        cases bestIsPrimary <;> by_cases below : count < p2 <;>
          simp [ratioStep, below, RtpSender.assignTo, RtpSender.assignPrimary,
            RtpSender.assignSecondary, worstLabel]
      rw [first]
      change _ + List.countP _ (outputs _ ((ratioStep bestIsPrimary p2 (s, count) p).1.1,
        count + 1) packets) = _
      rw [rest, List.length_cons]
      split <;> omega

theorem ratio_loop_length (state : RtpSender × Int) (packets : List Packet) :
    (outputs (ratioStep bestIsPrimary p2) state packets).length = packets.length := by
  induction packets generalizing state with
  | nil => rfl
  | cons p packets ih =>
      rw [outputs_cons, List.length_append, ih]
      have single : (ratioStep bestIsPrimary p2 state p).2.length = 1 := by
        simp only [ratioStep, RtpSender.assignTo]
        split <;> rfl
      rw [single, List.length_cons, Nat.add_comm]

/-- What the worst path does not get, the best path gets. -/
theorem ratio_loop_best (s : RtpSender) (packets : List Packet) :
    shareOn (worstLabel !bestIsPrimary) (outputs (ratioStep bestIsPrimary p2) (s, 0) packets) =
      packets.length - min packets.length p2.toNat := by
  have worst := ratio_loop_worst bestIsPrimary p2 s 0 packets
  have total := ratio_loop_length bestIsPrimary p2 (s, 0) packets
  have complement := List.length_eq_countP_add_countP
    (fun p : Packet => decide (p.subflowId = worstLabel bestIsPrimary))
    (l := outputs (ratioStep bestIsPrimary p2) (s, 0) packets)
  have labelled : ∀ q ∈ outputs (ratioStep bestIsPrimary p2) (s, 0) packets,
      q.subflowId = 1 ∨ q.subflowId = 2 := by
    apply forall_outputs
    intro state p q member
    rw [assignTo_labels _ state.1 p q member]
    split <;> simp
  have others : (outputs (ratioStep bestIsPrimary p2) (s, 0) packets).countP
      (fun p => ¬ decide (p.subflowId = worstLabel bestIsPrimary)) =
        shareOn (worstLabel !bestIsPrimary)
          (outputs (ratioStep bestIsPrimary p2) (s, 0) packets) := by
    refine List.countP_congr fun q member => ?_
    cases bestIsPrimary <;> rcases labelled q member with one | two <;> simp [worstLabel, *]
  rw [others, total] at complement
  unfold shareOn at worst complement ⊢
  simp only [sub_zero] at worst
  omega

end Loops

section Branches

variable {c : Collector} {now : Int} {s : RtpSender} {packets : List Packet} {keyframe : Bool}

/-- Every original handed over is a packet of the frame, labelled or not. -/
theorem split_original {q : Packet}
    (member : q ∈ (mpTrafficSplitImplementation c now s packets keyframe).packets) :
    ∃ p ∈ packets, LabelledFrom p q := by
  have assigned : ∀ primary s, q ∈ outputs (RtpSender.assignTo primary) s packets →
      ∃ p ∈ packets, LabelledFrom p q := by
    intro primary s member
    obtain ⟨p, inFrame, seq, rfl⟩ := assignTo_loop_origin primary member
    refine ⟨p, inFrame, .inr ⟨_, seq, ?_, rfl⟩⟩
    split <;> simp
  unfold mpTrafficSplitImplementation at member
  cases branch : splitBranch c now s keyframe <;> rw [branch] at member
  case keyFrame => exact assigned _ _ member
  case startUp => exact assigned true _ member
  case fullSignaled1 => exact assigned _ _ member
  case fullSignaled2 => exact assigned _ _ member
  case ratio =>
    obtain ⟨p, inFrame, id, seq, path, rfl⟩ := ratio_loop_origin member
    exact ⟨p, inFrame, .inr ⟨id, seq, path, rfl⟩⟩
  case redundant =>
    obtain ⟨p, inFrame, rfl⟩ := List.mem_map.mp member
    exact ⟨p, inFrame, .inr ⟨1, _, .inl rfl, rfl⟩⟩
  case roundRobin =>
    obtain ⟨loop, p, inFrame, emitted⟩ := mem_outputs member
    exact ⟨p, inFrame, roundRobinStep_labelledFrom c loop p q emitted⟩

/-- Every copy handed over carries the payload type for duplicates. -/
theorem split_copy {q : Packet}
    (member : q ∈ (mpTrafficSplitImplementation c now s packets keyframe).copies) : q.IsCopy := by
  unfold mpTrafficSplitImplementation at member
  cases branch : splitBranch c now s keyframe <;> rw [branch] at member
  case startUp =>
    obtain ⟨p, copied, seq, rfl⟩ := assignTo_loop_origin false member
    obtain ⟨p, -, rfl⟩ := List.mem_map.mp copied
    rfl
  case ratio =>
    obtain ⟨p, copied, seq, rfl⟩ := assignTo_loop_origin _ member
    obtain ⟨p, -, rfl⟩ := List.mem_map.mp copied
    rfl
  all_goals simp [splitKeyFrame, splitAll, splitRedundant, splitRoundRobin] at member

/-- The branch may send originals on path `k`. -/
def MediaOn (c : Collector) (now : Int) (s : RtpSender) (packets : List Packet) (keyframe : Bool)
    (k : Nat) : Prop :=
  match splitBranch c now s keyframe with
  | .keyFrame => k = keyFramePath c
  | .startUp => k = 1
  | .fullSignaled1 => k = 2
  | .fullSignaled2 => k = 1
  | .ratio =>
      let p2 := (plannedShares c now (s.started now) packets).2.shares.p2
      (k = worstLabel (c.bestPathid == 1) ∧ 0 < p2) ∨
        (k = worstLabel (c.bestPathid != 1) ∧ p2 < packets.length)
  | .redundant => k = 1
  | .roundRobin =>
      (k = 1 ∧ ¬ (c.fullSignaledOn 1 ∧ c.mpIsSecondPathOpen)) ∨
        (k = 2 ∧ ¬ (c.fullSignaledOn 2 ∧ ¬ c.halfSignaledOn 1 ∧ ¬ c.halfSignaledOn 2))

/-- The branch sends copies on path `k`. -/
def CopiesOn (c : Collector) (now : Int) (s : RtpSender) (packets : List Packet) (keyframe : Bool)
    (k : Nat) : Prop :=
  match splitBranch c now s keyframe with
  | .startUp => k = 2
  | .ratio =>
      let corrected := (plannedShares c now (s.started now) packets).2
      0 < corrected.dupPackets ∧ k = if corrected.dupPath = 1 then 1 else 2
  | _ => False

instance (c : Collector) (now : Int) (s : RtpSender) (packets : List Packet) (keyframe : Bool)
    (k : Nat) : Decidable (MediaOn c now s packets keyframe k) := by
  unfold MediaOn
  cases splitBranch c now s keyframe <;> exact inferInstance

instance (c : Collector) (now : Int) (s : RtpSender) (packets : List Packet) (keyframe : Bool)
    (k : Nat) : Decidable (CopiesOn c now s packets keyframe k) := by
  unfold CopiesOn
  cases splitBranch c now s keyframe <;> exact inferInstance

variable {k : Nat}

theorem not_mem_of_shareOn_eq_zero {list : List Packet} (none : shareOn k list = 0) :
    ∀ q ∈ list, q.subflowId ≠ k := by
  intro q member same
  have counted := List.countP_eq_zero.mp none q member
  simp [same] at counted

theorem splitRatio_avoids (avoided : ¬
    ((k = worstLabel (c.bestPathid == 1) ∧ 0 < (plannedShares c now s packets).2.shares.p2) ∨
      (k = worstLabel (c.bestPathid != 1) ∧
        (plannedShares c now s packets).2.shares.p2 < packets.length))) (path : k = 1 ∨ k = 2) :
    ∀ q ∈ (splitRatio c now s packets).packets, q.subflowId ≠ k := by
  have worst := ratio_loop_worst (c.bestPathid == 1)
    (plannedShares c now s packets).2.shares.p2 (plannedShares c now s packets).1 0 packets
  have best := ratio_loop_best (c.bestPathid == 1)
    (plannedShares c now s packets).2.shares.p2 (plannedShares c now s packets).1 packets
  have either : k = worstLabel (c.bestPathid == 1) ∨ k = worstLabel (c.bestPathid != 1) := by
    unfold worstLabel bne
    cases c.bestPathid == 1 <;> simp [path, or_comm]
  apply not_mem_of_shareOn_eq_zero
  rcases either with same | same
  · have empty : ¬ 0 < (plannedShares c now s packets).2.shares.p2 := fun positive =>
      avoided (.inl ⟨same, positive⟩)
    rw [same]
    exact worst.trans (by omega)
  · have full : ¬ (plannedShares c now s packets).2.shares.p2 < packets.length := fun less =>
      avoided (.inr ⟨same, less⟩)
    rw [same]
    exact best.trans (by omega)

/-- A full signal on path 1 keeps round robin off path 1. -/
theorem roundRobin_avoids_primary (unassigned : ∀ p ∈ packets, p.subflowId = 0)
    (signaled : c.fullSignaledOn 1 ∧ c.mpIsSecondPathOpen) (loop : RoundRobin) :
    ∀ q ∈ outputs (roundRobinStep c) loop packets, q.subflowId ≠ 1 := by
  intro q member
  obtain ⟨loop, p, inFrame, emitted⟩ := mem_outputs member
  have notPrimary : roundRobinPrimary c loop = false := by
    simp [roundRobinPrimary, signaled.1, signaled.2]
  unfold roundRobinStep at emitted
  simp only [notPrimary, Bool.false_eq_true, ↓reduceIte] at emitted
  split at emitted
  · rw [List.mem_singleton.mp emitted]
    simp
  · rw [List.mem_singleton.mp emitted, unassigned p inFrame]
    simp

/-- A full signal on path 2, without a half signal, keeps round robin off path 2. -/
theorem roundRobin_avoids_secondary (signaled : c.fullSignaledOn 2) (loop : RoundRobin) (a : Nat)
    (budget : loop.p1 = a) (enough : packets.length ≤ a) :
    ∀ q ∈ outputs (roundRobinStep c) loop packets, q.subflowId ≠ 2 := by
  induction packets generalizing loop a with
  | nil => simp
  | cons p packets ih =>
      have positive : 0 < a := Nat.lt_of_lt_of_le (Nat.succ_pos _) enough
      have notFirst : ¬ c.fullSignaledOn 1 := fun first =>
        absurd (Collector.fullSignaledOn_unique first signaled) (by decide)
      have primary : roundRobinPrimary c loop = true := by
        rw [roundRobinPrimary_iff, budget]
        refine ⟨by exact_mod_cast positive, by simp [notFirst], ?_⟩
        by_cases isOpen : c.mpIsSecondPathOpen <;> simp [isOpen, signaled]
      rw [outputs_cons, List.forall_mem_append]
      refine ⟨?_, ih _ (a - 1) ?_ ?_⟩
      · simp [roundRobinStep, primary]
      · simp [roundRobinStep, primary, budget, Nat.cast_pred positive]
      · rw [List.length_cons] at enough
        omega

/-- Where a branch sends no originals, none is labelled. -/
theorem split_packets_avoid (frame : Frame) (path : k = 1 ∨ k = 2)
    (avoided : ¬ MediaOn c now s frame.packets keyframe k) :
    ∀ q ∈ (mpTrafficSplitImplementation c now s frame.packets keyframe).packets,
      q.subflowId ≠ k := by
  have assigned : ∀ primary s, k ≠ (if primary then 1 else 2) →
      ∀ q ∈ outputs (RtpSender.assignTo primary) s frame.packets, q.subflowId ≠ k := by
    intro primary s other q member
    rw [forall_outputs (assignTo_labels primary) s frame.packets q member]
    exact other.symm
  unfold MediaOn at avoided
  unfold mpTrafficSplitImplementation
  cases branch : splitBranch c now s keyframe <;> rw [branch] at avoided <;> dsimp only at avoided ⊢
  case keyFrame =>
    refine assigned (c.bestPathid == 1) _ ?_
    simpa [keyFramePath] using avoided
  case startUp => exact assigned true _ avoided
  case fullSignaled1 => exact assigned false _ avoided
  case fullSignaled2 => exact assigned true _ avoided
  case ratio => exact splitRatio_avoids avoided path
  case redundant =>
    intro q member
    obtain ⟨p, -, rfl⟩ := List.mem_map.mp member
    exact Ne.symm avoided
  case roundRobin =>
    rw [not_or] at avoided
    rcases path with rfl | rfl
    · refine roundRobin_avoids_primary frame.unassigned ?_ _
      simpa using avoided.1
    · have quiet : c.fullSignaledOn 2 ∧ ¬ c.halfSignaledOn 1 ∧ ¬ c.halfSignaledOn 2 := by
        simpa using avoided.2
      refine roundRobin_avoids_secondary quiet.1 _ frame.packets.length ?_ (Nat.le_refl _)
      rw [roundRobinBudgets_eq c frame.length_pos]
      simp [roundRobinShares, quiet.2.1, quiet.2.2]

/-- Where a branch makes no copies, none is labelled. -/
theorem split_copies_avoid (avoided : ¬ CopiesOn c now s packets keyframe k) :
    ∀ q ∈ (mpTrafficSplitImplementation c now s packets keyframe).copies, q.subflowId ≠ k := by
  intro q member
  unfold CopiesOn at avoided
  unfold mpTrafficSplitImplementation at member
  cases branch : splitBranch c now s keyframe <;> rw [branch] at member avoided <;>
    dsimp only at member avoided
  case startUp =>
    obtain ⟨p, -, seq, rfl⟩ := assignTo_loop_origin false member
    exact Ne.symm avoided
  case ratio =>
    obtain ⟨p, copied, seq, rfl⟩ := assignTo_loop_origin _ member
    intro same
    refine avoided ⟨?_, ?_⟩
    · by_contra none
      have zero : (plannedShares c now (s.started now) packets).2.dupPackets = 0 :=
        Nat.eq_zero_of_not_pos none
      simp [zero] at copied
    · rw [← same]
      simp only [Packet.label_subflowId, beq_iff_eq]
  all_goals simp [splitKeyFrame, splitAll, splitRedundant, splitRoundRobin] at member

end Branches

end MpWebRtc
