import MpWebRtc.Sender.BackOff

/-!
# The ratio split

Past start-up and without a full signal the window scheduler divides a frame by the
ratio, lets a half signal, the byte window and the asymmetry correction take packets
from the worst path, and then labels the packets in order. No stage loses a packet or
gives the worst path more than the stage before.

The byte window counts the bytes of the worst path in `worst_path_bytes`, one second at
a time. It counts them before the asymmetry correction, so the counter agrees with what
was sent as long as that correction moves nothing.
-/

namespace MpWebRtc

open Math.Run

section Stages

/-- The shares divide a frame of `n` packets, the larger part on the best path. -/
structure Shares.Divides (n : Nat) (shares : Shares) : Prop where
  nonneg : 0 ≤ shares.p2
  ordered : shares.p2 ≤ shares.p1
  total : shares.p1 + shares.p2 = n

/-- Packets moved from the worst path to the best path, and nowhere else. -/
structure Shares.MovedToBest (n : Nat) (before after : Shares) : Prop where
  divides : after.Divides n
  le : after.p2 ≤ before.p2

variable {c : Collector} {n : Nat} {shares : Shares}

theorem Shares.Divides.refl (divides : shares.Divides n) : shares.MovedToBest n shares :=
  ⟨divides, le_refl _⟩

/-- A stage that only lowers the share of the worst path keeps the division. -/
theorem Shares.Divides.lower (divides : shares.Divides n) {p2 : Int} (nonneg : 0 ≤ p2)
    (le : p2 ≤ shares.p2) : shares.MovedToBest n ⟨n - p2, p2⟩ := by
  have ordered := divides.ordered
  have total := divides.total
  refine ⟨⟨nonneg, ?_, ?_⟩, le⟩
  · change p2 ≤ n - p2
    omega
  · change n - p2 + p2 = n
    omega

theorem truncate_nonneg {q : ℚ} (nonneg : 0 ≤ q) : 0 ≤ truncate q := by
  unfold truncate
  rw [if_pos nonneg]
  exact Int.floor_nonneg.mpr nonneg

/-- The ratio gives the first share between none and all packets. -/
theorem ratio_fraction_bounds (nonnegative : 0 ≤ c.ratio) :
    0 ≤ truncate (c.ratio / (1 + c.ratio) * n) ∧ truncate (c.ratio / (1 + c.ratio) * n) ≤ n := by
  have whole : (0 : ℚ) < 1 + c.ratio := by linarith
  have nonneg : 0 ≤ c.ratio / (1 + c.ratio) := div_nonneg nonnegative (le_of_lt whole)
  have le_one : c.ratio / (1 + c.ratio) ≤ 1 := (div_le_one whole).mpr (by linarith)
  have count : (0 : ℚ) ≤ n := Nat.cast_nonneg n
  refine ⟨truncate_nonneg (mul_nonneg nonneg count), truncate_le (Int.natCast_nonneg n) ?_⟩
  rw [Int.cast_natCast]
  exact mul_le_of_le_one_left count le_one

theorem ratioShares_divides (nonnegative : 0 ≤ c.ratio) : (ratioShares c n).Divides n := by
  have bounds := ratio_fraction_bounds (n := n) nonnegative
  have split : ∀ split : Int, 0 ≤ split → split ≤ n →
      (if split < n - split then (⟨n - split, split⟩ : Shares) else ⟨split, n - split⟩).Divides n := by
    intro split nonneg le
    by_cases less : split < n - split
    · rw [if_pos less]
      exact ⟨nonneg, le_of_lt less, sub_add_cancel _ _⟩
    · rw [if_neg less]
      exact ⟨sub_nonneg.mpr le, not_lt.mp less, add_sub_cancel _ _⟩
  unfold ratioShares
  by_cases single : n = 1
  · simp only [if_pos single]
    exact split 1 zero_le_one (by omega)
  · simp only [if_neg single]
    exact split _ bounds.1 bounds.2

theorem halfSignalShares_moved (bounded : AlphaBounded c) (divides : shares.Divides n) :
    shares.MovedToBest n (halfSignalShares c n shares) := by
  unfold halfSignalShares
  by_cases half : c.halfSignal
  · rw [if_pos half]
    have scaled := truncate_scaled_le bounded.nonneg bounded.le_one shares.p2
    have positive : (0 : ℚ) ≤ shares.p2 := by exact_mod_cast divides.nonneg
    rw [max_eq_left divides.nonneg] at scaled
    exact divides.lower (truncate_nonneg (mul_nonneg positive bounded.nonneg)) scaled
  · rw [if_neg half]
    exact divides.refl

theorem windowShares_moved (now : Int) (s : RtpSender) {packets : List Packet}
    (divides : shares.Divides packets.length) :
    shares.MovedToBest packets.length (windowShares c now s packets shares).2 := by
  rw [windowShares_snd]
  by_cases kept : KeptOut c now s
  · rw [if_pos kept]
    simpa using divides.lower (le_refl 0) divides.nonneg
  · rw [if_neg kept]
    exact divides.refl

theorem asymmetryShares_moved (divides : shares.Divides n) :
    shares.MovedToBest n (asymmetryShares c n shares).shares := by
  rw [asymmetryShares_eq]
  by_cases corrects : Corrects c shares
  · rw [if_pos corrects]
    have reported := corrects.1
    have some := corrects.2.1
    have clamped : asymmetricPackets c shares ≤ shares.p2 := min_le_right _ _
    have positive : 0 < asymmetricPackets c shares := lt_min reported some
    exact divides.lower (by omega) (by omega)
  · rw [if_neg corrects]
    exact divides.refl

end Stages

section Labels

variable (bestIsPrimary : Bool)

/-- The ratio loop keeps the packets of the frame and only labels them. -/
theorem ratio_loop_labelled (p2 : Int) (state : RtpSender × Int) (packets : List Packet) :
    List.Forall₂ (fun p q => ∃ id seq, q = p.label id seq) packets
      (outputs (ratioStep bestIsPrimary p2) state packets) := by
  apply forall₂_outputs
  intro state p
  obtain ⟨seq, first⟩ := ratioStep_path bestIsPrimary p2 state p
  exact ⟨_, first, _, seq, rfl⟩

/-- The labels the ratio loop gives: the worst path first. -/
theorem ratio_loop_paths (p2 : Int) (s : RtpSender) (count : Int) (packets : List Packet) :
    (outputs (ratioStep bestIsPrimary p2) (s, count) packets).map (·.subflowId) =
      List.replicate (min packets.length (p2 - count).toNat) (worstLabel bestIsPrimary) ++
        List.replicate (packets.length - (p2 - count).toNat) (worstLabel !bestIsPrimary) := by
  induction packets generalizing s count with
  | nil => simp
  | cons p packets ih =>
      obtain ⟨seq, first⟩ := ratioStep_path bestIsPrimary p2 (s, count) p
      have rest := ih (ratioStep bestIsPrimary p2 (s, count) p).1.1 (count + 1)
      rw [outputs_cons, List.map_append, first]
      change [worstLabel _] ++ (outputs _ ((ratioStep bestIsPrimary p2 (s, count) p).1.1,
        count + 1) packets).map _ = _
      rw [rest, List.length_cons]
      by_cases below : count < p2
      · have remaining : (p2 - count).toNat = (p2 - (count + 1)).toNat + 1 := by omega
        rw [remaining, Nat.add_min_add_right, List.replicate_succ, Nat.add_sub_add_right]
        simp [below]
      · have used : (p2 - count).toNat = 0 := by omega
        have usedNext : (p2 - (count + 1)).toNat = 0 := by omega
        rw [used, usedNext]
        simp [below, List.replicate_succ]

variable {c : Collector} {now : Int} {s : RtpSender}

/-- Past start-up and without a full signal a frame is divided by the ratio. -/
theorem AfterStartUp.split_eq (packets : List Packet) (started : AfterStartUp c now s)
    (unsignaled : c.fullSignal = false) :
    mpTrafficSplitImplementation c now s packets false =
      splitRatio c now (s.started now) packets := by
  have branch := started.splitBranch_eq
  simp only [Collector.fullSignaledOn, unsignaled, Bool.false_and, Bool.false_eq_true,
    ↓reduceIte] at branch
  unfold mpTrafficSplitImplementation
  rw [branch]

/-- **Ratio split.** However the ratio, the half signal, the byte window and the
asymmetry report stand, the stages divide the frame: each leaves `0 ≤ p2 ≤ p1` with
`p1 + p2` packets in all, and moves packets from the worst path to the best path only.
The first `p2` packets of the frame are labelled with the worst path and the other `p1`
with the best path, and nothing else about them changes. -/
theorem ratio_split_divides_frame (packets : List Packet) (started : AfterStartUp c now s)
    (positive : 0 < c.ratio) (unsignaled : c.fullSignal = false) (bounded : AlphaBounded c) :
    let n := packets.length
    let byRatio := ratioShares c n
    let halved := halfSignalShares c n byRatio
    let windowed := (windowShares c now (s.started now) packets halved).2
    let final := (asymmetryShares c n windowed).shares
    let sent := (mpTrafficSplitImplementation c now s packets false).packets
    byRatio.Divides n ∧ byRatio.MovedToBest n halved ∧ halved.MovedToBest n windowed ∧
      windowed.MovedToBest n final ∧
      sent.map (·.subflowId) =
        List.replicate final.p2.toNat (if c.bestPathid = 1 then 2 else 1) ++
          List.replicate final.p1.toNat (if c.bestPathid = 1 then 1 else 2) ∧
      List.Forall₂ (fun p q => ∃ id seq, q = p.label id seq) packets sent := by
  intro n byRatio halved windowed final sent
  have first : byRatio.Divides n := ratioShares_divides positive.le
  have second : byRatio.MovedToBest n halved := halfSignalShares_moved bounded first
  have third : halved.MovedToBest n windowed := windowShares_moved now _ second.divides
  have last : windowed.MovedToBest n final := asymmetryShares_moved third.divides
  have sentEq : sent = outputs (ratioStep (c.bestPathid == 1) final.p2)
      ((plannedShares c now (s.started now) packets).1, 0) packets :=
    congrArg Split.packets (started.split_eq packets unsignaled)
  refine ⟨first, second, third, last, ?_, ?_⟩
  · have nonneg := last.divides.nonneg
    have ordered := last.divides.ordered
    have total := last.divides.total
    have worst : min n (final.p2 - 0).toNat = final.p2.toNat := by omega
    have best : n - (final.p2 - 0).toNat = final.p1.toNat := by omega
    rw [sentEq, ratio_loop_paths, worst, best]
    by_cases one : c.bestPathid = 1
    · simp [one, worstLabel]
    · simp [one, worstLabel]
  · rw [sentEq]
    exact ratio_loop_labelled _ _ _ packets

/-- Window scheduling with best path 1 and an asymmetry report of one packet. -/
def asymmetricCollector : Collector where
  scheduler := "window"
  mpSecondPath := 1
  bestPathid := 1
  ratio := 1
  sendingrate1 := 1000000
  sendingrate2 := 0
  primaryCongestionWnd := 1000
  secondaryCongestionWnd := 1000
  remoteAssymetry := 1

/-- Of six packets the ratio gives the worst path three and a half signal leaves it two;
the asymmetry report then moves one more to the best path. -/
theorem ratio_split_of_six_packets :
    (mpTrafficSplitImplementation { asymmetricCollector with alpha := 3 / 4 } 20000
        { sandyMpStartTime := 1 } (videoFrame 1 [2, 3, 4, 5, 6]).packets false).packets.map
      (·.subflowId) = [2, 1, 1, 1, 1, 1] := by
  have started : AfterStartUp { asymmetricCollector with alpha := 3 / 4 } 20000
      { sandyMpStartTime := 1 } := ⟨by decide +kernel, by decide +kernel, by decide⟩
  obtain ⟨-, -, -, -, labels, -⟩ := ratio_split_divides_frame
    (videoFrame 1 [2, 3, 4, 5, 6]).packets started (by decide +kernel) rfl
    ⟨by decide +kernel, by decide +kernel⟩
  exact labels.trans (by decide +kernel)

end Labels

section Bytes

variable (k : Nat)

/-- The bytes of the packets labelled with path `k`. -/
def bytesOn (packets : List Packet) : Int :=
  ((packets.filter (·.subflowId = k)).map fun p => (p.size : Int)).sum

@[simp] theorem bytesOn_nil : bytesOn k [] = 0 := rfl

theorem bytesOn_cons (p : Packet) (packets : List Packet) :
    bytesOn k (p :: packets) = (if p.subflowId = k then (p.size : Int) else 0) +
      bytesOn k packets := by
  unfold bytesOn
  by_cases same : p.subflowId = k <;> simp [same]

@[simp] theorem bytesOn_append (earlier later : List Packet) :
    bytesOn k (earlier ++ later) = bytesOn k earlier + bytesOn k later := by
  simp [bytesOn]

theorem worstBytes_cons (p : Packet) (packets : List Packet) (p2 : Int) :
    worstBytes (p :: packets) p2 = if 0 < p2 then p.size + worstBytes packets (p2 - 1) else 0 := by
  unfold worstBytes
  by_cases some : 0 < p2
  · have count : p2.toNat = (p2 - 1).toNat + 1 := by omega
    rw [if_pos some, count]
    simp
  · have none : p2.toNat = 0 := by omega
    rw [if_neg some, none]
    simp

theorem worstBytes_of_nonpos (packets : List Packet) {p2 : Int} (none : p2 ≤ 0) :
    worstBytes packets p2 = 0 := by
  have count : p2.toNat = 0 := by omega
  simp [worstBytes, count]

theorem worstBytes_nonneg (packets : List Packet) (p2 : Int) : 0 ≤ worstBytes packets p2 := by
  induction packets generalizing p2 with
  | nil => simp [worstBytes]
  | cons p packets ih =>
      have rest := ih (p2 - 1)
      rw [worstBytes_cons]
      split_ifs <;> omega

theorem worstBytes_mono (packets : List Packet) {fewer more : Int} (le : fewer ≤ more) :
    worstBytes packets fewer ≤ worstBytes packets more := by
  induction packets generalizing fewer more with
  | nil => simp [worstBytes]
  | cons p packets ih =>
      have rest := ih (sub_le_sub_right le 1)
      have nonneg := worstBytes_nonneg packets (more - 1)
      rw [worstBytes_cons, worstBytes_cons]
      split_ifs <;> omega

variable (bestIsPrimary : Bool) (p2 : Int)

/-- The ratio loop gives the worst path the bytes of the first `p2` packets. -/
theorem ratio_loop_bytes (s : RtpSender) (count : Int) (packets : List Packet) :
    bytesOn (worstLabel bestIsPrimary)
        (outputs (ratioStep bestIsPrimary p2) (s, count) packets) =
      worstBytes packets (p2 - count) := by
  induction packets generalizing s count with
  | nil => simp [worstBytes]
  | cons p packets ih =>
      obtain ⟨seq, first⟩ := ratioStep_path bestIsPrimary p2 (s, count) p
      have rest := ih (ratioStep bestIsPrimary p2 (s, count) p).1.1 (count + 1)
      rw [outputs_cons, first, List.singleton_append, bytesOn_cons]
      change _ + bytesOn _ (outputs _ ((ratioStep bestIsPrimary p2 (s, count) p).1.1,
        count + 1) packets) = _
      have next : p2 - (count + 1) = p2 - count - 1 := by omega
      rw [rest, next, worstBytes_cons]
      by_cases below : count < p2
      · have some : 0 < p2 - count := by omega
        simp [below, Packet.size, Packet.label, Packet.setSandy, Packet.setMpFlowSeqNum]
      · have none : p2 - count ≤ 0 := by omega
        rw [if_neg (not_lt.mpr none), worstBytes_of_nonpos packets (by omega)]
        cases bestIsPrimary <;> simp [below, worstLabel]

/-- The bytes depend on the sizes of the packets only. -/
theorem worstBytes_congr {left right : List Packet} (sizes : left.map (·.size) = right.map (·.size))
    (p2 : Int) : worstBytes left p2 = worstBytes right p2 := by
  have sum : ∀ packets : List Packet,
      worstBytes packets p2 = (((packets.map (·.size)).take p2.toNat).map Nat.cast).sum := by
    intro packets
    rw [worstBytes, ← List.map_take, List.map_map]
    rfl
  rw [sum, sum, sizes]

variable (state : RtpSender × Int)

theorem ratio_loop_sizes (packets : List Packet) :
    (outputs (ratioStep bestIsPrimary p2) state packets).map (·.size) = packets.map (·.size) := by
  have labelled := ratio_loop_labelled bestIsPrimary p2 state packets
  generalize outputs (ratioStep bestIsPrimary p2) state packets = sent at labelled ⊢
  induction labelled with
  | nil => rfl
  | cons first rest ih =>
      obtain ⟨id, seq, rfl⟩ := first
      rw [List.map_cons, List.map_cons, ih]
      rfl

/-- A telemetry copy is as large as the first packet of the frame. -/
theorem copies_bytes (primary : Bool) (k : Nat) (s : RtpSender) (sent : List Packet) :
    bytesOn k (outputs (RtpSender.assignTo primary) s ((sent.take 1).map telemetryCopy)) =
      if (if primary then 1 else 2) = k then worstBytes sent 1 else 0 := by
  cases sent with
  | nil => simp [worstBytes]
  | cons p sent =>
      obtain ⟨q, emitted⟩ : ∃ seq, (RtpSender.assignTo primary s (telemetryCopy p)).2 =
          [(telemetryCopy p).label (if primary then 1 else 2) seq] := by
        cases primary
        · exact ⟨s.sequenceNumberS, rfl⟩
        · exact ⟨s.sequenceNumberP, rfl⟩
      rw [List.take_one, List.head?_cons, Option.toList_some, List.map_singleton, outputs_cons,
        emitted, outputs_nil, List.append_nil, bytesOn_cons, worstBytes_cons]
      simp [worstBytes, Packet.size, Packet.label, Packet.setSandy, Packet.setMpFlowSeqNum,
        telemetryCopy]

variable {c : Collector} {now : Int} {s : RtpSender} {packets : List Packet}

/-- The shares once the byte window has been applied. -/
def windowedShares (c : Collector) (now : Int) (s : RtpSender) (packets : List Packet) : Shares :=
  (windowShares c now s packets (reducedShares c packets.length)).2

/-- The bytes the ratio split of a frame hands to the worst path. -/
def worstPathShare (c : Collector) (now : Int) (s : RtpSender) (packets : List Packet) : Int :=
  bytesOn (worstLabel (c.bestPathid == 1)) (splitRatio c now s packets).handed

theorem worstPathShare_of_uncorrected (still : ¬ Corrects c (windowedShares c now s packets)) :
    worstPathShare c now s packets = worstBytes packets (windowedShares c now s packets).p2 := by
  have corrected : (plannedShares c now s packets).2 =
      ⟨windowedShares c now s packets, 0, 0⟩ := (asymmetryShares_eq _).trans (if_neg still)
  unfold worstPathShare Split.handed splitRatio
  simp only [corrected]
  rw [List.take_zero, List.map_nil, outputs_nil, List.append_nil, ratio_loop_bytes, sub_zero]

theorem worstPathShare_of_corrected (moves : Corrects c (windowedShares c now s packets)) :
    worstPathShare c now s packets =
      worstBytes packets ((windowedShares c now s packets).p2 -
          asymmetricPackets c (windowedShares c now s packets)) +
        if (windowedShares c now s packets).p2 =
              asymmetricPackets c (windowedShares c now s packets) ∧
            (c.bestPathid = 1 ∨ c.bestPathid = 2) then
          worstBytes packets 1
        else 0 := by
  have corrected := (asymmetryShares_eq (n := packets.length) _).trans (if_pos moves)
  unfold worstPathShare Split.handed splitRatio plannedShares
  change bytesOn _ (outputs (ratioStep _ (asymmetryShares c packets.length
    (windowedShares c now s packets)).shares.p2) _ _ ++ outputs (RtpSender.assignTo
      ((asymmetryShares c packets.length (windowedShares c now s packets)).dupPath == 1)) _
      ((List.take (asymmetryShares c packets.length
        (windowedShares c now s packets)).dupPackets _).map telemetryCopy)) = _
  simp only [corrected]
  rw [bytesOn_append, ratio_loop_bytes, sub_zero]
  congr 1
  by_cases emptied : (windowedShares c now s packets).p2 =
      asymmetricPackets c (windowedShares c now s packets)
  · rw [if_pos (sub_eq_zero.mpr emptied), copies_bytes,
      worstBytes_congr (ratio_loop_sizes _ _ _ packets)]
    -- with no best path chosen yet the copy goes to the other path
    by_cases one : c.bestPathid = 1
    · simp [one, emptied, worstLabel]
    · by_cases two : c.bestPathid = 2 <;> simp [one, two, emptied, worstLabel]
  · simp [emptied, sub_eq_zero]

/-- The asymmetry correction takes bytes from the worst path and never adds any: a copy
is sent only in place of a packet at least as large. -/
theorem worstPathShare_le (c : Collector) (now : Int) (s : RtpSender) (packets : List Packet) :
    worstPathShare c now s packets ≤ worstBytes packets (windowedShares c now s packets).p2 := by
  by_cases moves : Corrects c (windowedShares c now s packets)
  · rw [worstPathShare_of_corrected moves]
    have reported := moves.1
    have some := moves.2.1
    generalize windowedShares c now s packets = windowed at some
    have removed : 0 < asymmetricPackets c windowed := lt_min reported some
    by_cases emptied : windowed.p2 = asymmetricPackets c windowed
    · have rest : worstBytes packets (windowed.p2 - asymmetricPackets c windowed) = 0 :=
        worstBytes_of_nonpos packets (by omega)
      rw [rest, zero_add]
      by_cases chosen : c.bestPathid = 1 ∨ c.bestPathid = 2
      · rw [if_pos ⟨emptied, chosen⟩]
        exact worstBytes_mono packets some
      · rw [if_neg fun both => chosen both.2]
        exact worstBytes_nonneg packets _
    · rw [if_neg fun both => emptied both.1, add_zero]
      exact worstBytes_mono packets (by omega)
  · rw [worstPathShare_of_uncorrected moves]

/-- The asymmetry correction leaves the bytes of the worst path as counted: it moves
nothing, or the path has a single packet, whose copy then takes its place. -/
def CountKept (c : Collector) (now : Int) (s : RtpSender) (packets : List Packet) : Prop :=
  ¬ KeptOut c now s → Corrects c (reducedShares c packets.length) →
    (reducedShares c packets.length).p2 = 1 ∧ (c.bestPathid = 1 ∨ c.bestPathid = 2)

instance (c : Collector) (now : Int) (s : RtpSender) (packets : List Packet) :
    Decidable (CountKept c now s packets) := inferInstanceAs (Decidable (_ → _))

theorem worstPathShare_eq (kept : CountKept c now s packets) : worstPathShare c now s packets =
    worstBytes packets (windowedShares c now s packets).p2 := by
  by_cases moves : Corrects c (windowedShares c now s packets)
  · have windowed := windowShares_snd (c := c) now s packets (reducedShares c packets.length)
    have inUse : ¬ KeptOut c now s := by
      intro out
      have none := moves.2.1
      rw [windowedShares, windowed, if_pos out] at none
      exact absurd none (lt_irrefl 0)
    rw [if_neg inUse] at windowed
    change windowedShares c now s packets = _ at windowed
    obtain ⟨single, chosen⟩ := kept inUse (windowed ▸ moves)
    rw [worstPathShare_of_corrected moves]
    have reported := moves.1
    rw [windowed] at *
    have removed : asymmetricPackets c (reducedShares c packets.length) = 1 := by
      unfold asymmetricPackets
      omega
    rw [removed, single, if_pos ⟨rfl, chosen⟩, worstBytes_of_nonpos packets (by decide), zero_add]
  · exact worstPathShare_of_uncorrected moves

/-- The accounting interval of one second is over. -/
def RtpSender.Renews (s : RtpSender) (now : Int) : Prop :=
  now - (s.startInterval now).worstPathTime ≥ 1000

instance (s : RtpSender) (now : Int) : Decidable (s.Renews now) :=
  inferInstanceAs (Decidable (_ ≥ _))

theorem assignTo_worstPathBytes (primary : Bool) (s : RtpSender) (packets : List Packet) :
    (finalState (RtpSender.assignTo primary) s packets).worstPathBytes = s.worstPathBytes := by
  apply (along_true s packets).invariant (fun next => next.worstPathBytes = s.worstPathBytes)
  · intro next p same _
    cases primary <;> exact same
  · rfl

theorem ratio_loop_worstPathBytes (packets : List Packet) :
    (finalState (ratioStep bestIsPrimary p2) state packets).1.worstPathBytes =
      state.1.worstPathBytes := by
  apply (along_true state packets).invariant
    (fun next => next.1.worstPathBytes = state.1.worstPathBytes)
  · intro next p same _
    exact (assignTo_worstPathBytes _ next.1 [p]).trans same
  · rfl

theorem roundRobin_worstPathBytes (c : Collector) (loop : RoundRobin) (packets : List Packet) :
    (finalState (roundRobinStep c) loop packets).sender.worstPathBytes =
      loop.sender.worstPathBytes := by
  apply (along_true loop packets).invariant
    (fun next => next.sender.worstPathBytes = loop.sender.worstPathBytes)
  · intro next p same _
    unfold roundRobinStep roundRobinNumber
    dsimp only
    split_ifs <;> exact same
  · rfl

/-- The counter after a frame: a new interval starts from zero. -/
theorem splitRatio_worstPathBytes : (splitRatio c now s packets).sender.worstPathBytes =
    (if s.Renews now then 0 else s.worstPathBytes) +
      worstBytes packets (windowedShares c now s packets).p2 := by
  unfold splitRatio
  dsimp only
  rw [assignTo_worstPathBytes, ratio_loop_worstPathBytes]
  unfold plannedShares windowedShares
  change (windowShares c now s packets (reducedShares c packets.length)).1.worstPathBytes = _
  unfold windowShares
  by_cases renews : s.Renews now
  · have due : now - (s.startInterval now).worstPathTime ≥ 1000 := renews
    rw [if_pos renews, if_pos due]
    exact (zero_add _).symm
  · have notDue : ¬ now - (s.startInterval now).worstPathTime ≥ 1000 := renews
    rw [if_neg renews, if_neg notDue]
    by_cases exhausted : windowExhausted c s
    · rw [if_pos exhausted, worstBytes_of_nonpos packets (le_refl 0), add_zero]
      rfl
    · rw [if_neg exhausted]

theorem split_worstPathBytes {keyframe : Bool} (other : splitBranch c now s keyframe ≠ .ratio) :
    (mpTrafficSplitImplementation c now s packets keyframe).sender.worstPathBytes =
      s.worstPathBytes := by
  unfold mpTrafficSplitImplementation
  cases branch : splitBranch c now s keyframe with
  | keyFrame => exact assignTo_worstPathBytes _ _ packets
  | startUp =>
      exact (assignTo_worstPathBytes true _ packets).trans (assignTo_worstPathBytes false _ _)
  | fullSignaled1 => exact assignTo_worstPathBytes _ _ packets
  | fullSignaled2 => exact assignTo_worstPathBytes _ _ packets
  | ratio => exact absurd branch other
  | redundant => rfl
  | roundRobin => exact roundRobin_worstPathBytes c _ packets

end Bytes

section Ledger

/-- A frame, with the collector as it is when the frame is split. -/
structure WindowFrame where
  collector : Collector
  now : Int
  packets : List Packet
  keyframe : Bool := false

/-- What the ratio split of one frame gave the worst path. -/
structure WorstPathEntry where
  collector : Collector
  bytes : Int

/-- The sender, with a record of the ratio splits since `worst_path_time` was last
reset. -/
structure WorstPathLedger where
  sender : RtpSender := {}
  entries : List WorstPathEntry := []

variable (ledger : WorstPathLedger)

/-- The bytes assigned to the worst path in the current interval. -/
def WorstPathLedger.assigned : Int :=
  (ledger.entries.map (·.bytes)).sum

/-- Split a frame. A frame of the ratio branch is entered with the bytes it hands to the
worst path. -/
def shareStep (s : RtpSender) (frame : WindowFrame) : RtpSender × List WorstPathEntry :=
  let split := mpTrafficSplitImplementation frame.collector frame.now s frame.packets frame.keyframe
  (split.sender,
    if splitBranch frame.collector frame.now s frame.keyframe = .ratio then
      [⟨frame.collector, bytesOn (worstLabel (frame.collector.bestPathid == 1)) split.handed⟩]
    else [])

variable (frame : WindowFrame)

/-- The frame resets `worst_path_time`. -/
def WindowFrame.Resets (s : RtpSender) : Prop :=
  splitBranch frame.collector frame.now s frame.keyframe = .ratio ∧ s.Renews frame.now

instance (frame : WindowFrame) (s : RtpSender) : Decidable (frame.Resets s) :=
  inferInstanceAs (Decidable (_ ∧ _))

/-- Split a frame, and enter it into the record of its interval. -/
def ledgerStep (frame : WindowFrame) : WorstPathLedger × List WorstPathEntry :=
  (⟨(shareStep ledger.sender frame).1,
    (if frame.Resets ledger.sender then [] else ledger.entries) ++
      (shareStep ledger.sender frame).2⟩, [])

/-- The asymmetry correction does not change the bytes of the worst path. -/
def WindowFrame.CountKept (frame : WindowFrame) (ledger : WorstPathLedger) : Prop :=
  splitBranch frame.collector frame.now ledger.sender frame.keyframe = .ratio →
    MpWebRtc.CountKept frame.collector frame.now ledger.sender frame.packets

instance (frame : WindowFrame) (ledger : WorstPathLedger) : Decidable (frame.CountKept ledger) :=
  inferInstanceAs (Decidable (_ → _))

/-- The congestion window of the path that is worst. -/
def worstPathWindow (c : Collector) : Int :=
  if c.bestPathid = 1 then c.secondaryCongestionWnd else c.primaryCongestionWnd

/-- While the best path and the window of the other do not change, the worst path gets at
most 115 % of its window and the share of one frame. -/
def WithinBudget (entries : List WorstPathEntry) : Prop :=
  ∀ best window, best = 1 ∨ best = 2 → 0 ≤ window → entries ≠ [] →
    (∀ entry ∈ entries,
      entry.collector.bestPathid = best ∧ worstPathWindow entry.collector = window) →
    ∃ entry ∈ entries, (entries.map (·.bytes)).sum ≤ (115 * window).tdiv 100 + entry.bytes

/-- One step: a frame of another branch changes nothing; a frame of the ratio branch adds
its share to the record, and to the counter what the share was before the asymmetry
correction. -/
theorem ledgerStep_cases :
    (splitBranch frame.collector frame.now ledger.sender frame.keyframe ≠ .ratio ∧
        (ledgerStep ledger frame).1.entries = ledger.entries ∧
        (ledgerStep ledger frame).1.sender.worstPathBytes = ledger.sender.worstPathBytes) ∨
      (splitBranch frame.collector frame.now ledger.sender frame.keyframe = .ratio ∧
        (ledgerStep ledger frame).1.entries =
          (if ledger.sender.Renews frame.now then [] else ledger.entries) ++
            [⟨frame.collector, worstPathShare frame.collector frame.now
              (ledger.sender.started frame.now) frame.packets⟩] ∧
        (ledgerStep ledger frame).1.sender.worstPathBytes =
          (if ledger.sender.Renews frame.now then 0 else ledger.sender.worstPathBytes) +
            worstBytes frame.packets (windowedShares frame.collector frame.now
              (ledger.sender.started frame.now) frame.packets).p2) := by
  unfold ledgerStep shareStep
  dsimp only
  by_cases ratio : splitBranch frame.collector frame.now ledger.sender frame.keyframe = .ratio
  · have split : mpTrafficSplitImplementation frame.collector frame.now ledger.sender frame.packets
        frame.keyframe = splitRatio frame.collector frame.now (ledger.sender.started frame.now)
          frame.packets := by
      unfold mpTrafficSplitImplementation
      rw [ratio]
    rw [if_pos ratio, split, splitRatio_worstPathBytes]
    exact .inr ⟨ratio, by simp only [WindowFrame.Resets, ratio, true_and]; rfl, rfl⟩
  · have stays : ¬ frame.Resets ledger.sender := fun resets => ratio resets.1
    rw [if_neg ratio, if_neg stays, List.append_nil]
    exact .inl ⟨ratio, rfl, split_worstPathBytes ratio⟩

/-- What is assigned in the interval, after a frame of the ratio branch. -/
theorem assigned_after {ledger : WorstPathLedger} {next : WorstPathLedger} {renews : Prop}
    [Decidable renews] {entry : WorstPathEntry}
    (entries : next.entries = (if renews then [] else ledger.entries) ++ [entry]) :
    next.assigned = (if renews then 0 else ledger.assigned) + entry.bytes := by
  unfold WorstPathLedger.assigned
  rw [entries]
  by_cases due : renews
  · simp [due]
  · simp [due]

/-- The counter never falls behind what was assigned. -/
theorem ledgerStep_assigned_le (le : ledger.assigned ≤ ledger.sender.worstPathBytes) :
    (ledgerStep ledger frame).1.assigned ≤ (ledgerStep ledger frame).1.sender.worstPathBytes := by
  rcases ledgerStep_cases ledger frame with ⟨-, entries, counter⟩ | ⟨-, entries, counter⟩
  · rw [WorstPathLedger.assigned, entries, counter]
    exact le
  · have share := worstPathShare_le frame.collector frame.now (ledger.sender.started frame.now)
      frame.packets
    rw [assigned_after entries, counter]
    split_ifs <;> dsimp only <;> omega

/-- The counter keeps up with what was assigned while the correction changes no bytes. -/
theorem ledgerStep_assigned_eq
    (same : ledger.sender.worstPathBytes = ledger.assigned) (kept : frame.CountKept ledger) :
    (ledgerStep ledger frame).1.sender.worstPathBytes = (ledgerStep ledger frame).1.assigned := by
  rcases ledgerStep_cases ledger frame with ⟨-, entries, counter⟩ | ⟨ratio, entries, counter⟩
  · rw [WorstPathLedger.assigned, entries, counter]
    exact same
  · have share : worstPathShare frame.collector frame.now (ledger.sender.started frame.now)
        frame.packets = _ := worstPathShare_eq (kept ratio)
    rw [assigned_after entries, counter, same, share]

theorem windowExhausted_iff {c : Collector} (s : RtpSender)
    (chosen : c.bestPathid = 1 ∨ c.bestPathid = 2) :
    windowExhausted c s ↔ (115 * worstPathWindow c).tdiv 100 ≤ s.worstPathBytes := by
  unfold windowExhausted worstPathWindow
  rcases chosen with one | two
  · simp [one]
  · simp [two]

/-- A frame is admitted to the worst path only while the counter is below the budget. -/
theorem ledgerStep_withinBudget
    (le : ledger.assigned ≤ ledger.sender.worstPathBytes) (within : WithinBudget ledger.entries) :
    WithinBudget (ledgerStep ledger frame).1.entries := by
  intro best window chosen nonneg some settled
  have budget : 0 ≤ (115 * window).tdiv 100 := Int.tdiv_nonneg (by omega) (by decide)
  rcases ledgerStep_cases ledger frame with ⟨-, entries, -⟩ | ⟨-, entries, -⟩
  · rw [entries] at some settled ⊢
    exact within best window chosen nonneg some settled
  · have total := assigned_after entries
    unfold WorstPathLedger.assigned at le total
    rw [total]
    have last := settled _ (entries ▸ List.mem_append_right _ (List.mem_singleton_self _))
    have latest : _ ∈ (ledgerStep ledger frame).1.entries :=
      entries ▸ List.mem_append_right _ (List.mem_singleton_self _)
    by_cases renews : ledger.sender.Renews frame.now
    · rw [if_pos renews]
      exact ⟨_, latest, by omega⟩
    · rw [if_neg renews]
      rw [if_neg renews] at entries
      by_cases exhausted : windowExhausted frame.collector ledger.sender
      · -- the worst path gets nothing, so an earlier frame took the last share
        have out : KeptOut frame.collector frame.now (ledger.sender.started frame.now) :=
          ⟨not_le.mp renews, exhausted⟩
        have share := worstPathShare_le frame.collector frame.now (ledger.sender.started frame.now)
          frame.packets
        rw [windowedShares, windowShares_snd, if_pos out, worstBytes_of_nonpos _ (le_refl 0)]
          at share
        by_cases first : ledger.entries = []
        · rw [first]
          exact ⟨_, latest, by simp [budget]⟩
        · obtain ⟨entry, recorded, bound⟩ := within best window chosen nonneg first fun entry member =>
            settled entry (entries ▸ List.mem_append_left _ member)
          exact ⟨entry, entries ▸ List.mem_append_left _ recorded, by dsimp only; omega⟩
      · rw [windowExhausted_iff _ (by rw [last.1]; exact chosen), last.2] at exhausted
        exact ⟨_, latest, by omega⟩

theorem ledgerStep_worstPathBytes_nonneg (nonneg : 0 ≤ ledger.sender.worstPathBytes) :
    0 ≤ (ledgerStep ledger frame).1.sender.worstPathBytes := by
  rcases ledgerStep_cases ledger frame with ⟨-, -, counter⟩ | ⟨-, -, counter⟩
  · rwa [counter]
  · have share := worstBytes_nonneg frame.packets (windowedShares frame.collector frame.now
      (ledger.sender.started frame.now) frame.packets).p2
    rw [counter]
    split_ifs <;> omega

/-- Frames without a reset are all entered. -/
theorem entries_of_no_reset {ledger : WorstPathLedger} {frames : List WindowFrame}
    (together : Along shareStep (fun s frame => ¬ frame.Resets s) ledger.sender frames) :
    (finalState ledgerStep ledger frames).entries =
      ledger.entries ++ outputs shareStep ledger.sender frames := by
  induction frames generalizing ledger with
  | nil => exact (List.append_nil _).symm
  | cons frame frames ih =>
      rw [finalState_cons, outputs_cons, ← List.append_assoc]
      have entered : (ledgerStep ledger frame).1.entries =
          ledger.entries ++ (shareStep ledger.sender frame).2 := by
        unfold ledgerStep
        rw [if_neg together.1]
      rw [← entered]
      exact ih together.2

/-- Frames up to the next reset stay within the budget in every run. -/
theorem run_withinBudget (before : List WindowFrame) (first : WindowFrame) (rest : List WindowFrame)
    (together : Along shareStep (fun s frame => ¬ frame.Resets s)
      (shareStep (finalState ledgerStep {} before).sender first).1 rest) :
    WithinBudget (outputs shareStep (finalState ledgerStep {} before).sender (first :: rest)) := by
  have nonneg := (along_true ({} : WorstPathLedger) before).invariant
    (fun ledger => 0 ≤ ledger.sender.worstPathBytes)
    (fun ledger frame nonneg _ => ledgerStep_worstPathBytes_nonneg ledger frame nonneg) (le_refl 0)
  have held := (along_true (⟨(finalState ledgerStep {} before).sender, []⟩ : WorstPathLedger)
    (first :: rest)).invariant
    (fun ledger => ledger.assigned ≤ ledger.sender.worstPathBytes ∧ WithinBudget ledger.entries)
    (fun ledger frame held _ => ⟨ledgerStep_assigned_le ledger frame held.1,
      ledgerStep_withinBudget ledger frame held.1 held.2⟩)
    ⟨nonneg, fun _ _ _ _ some => absurd rfl some⟩
  have entered : (ledgerStep ⟨(finalState ledgerStep {} before).sender, []⟩ first).1.entries =
      (shareStep (finalState ledgerStep {} before).sender first).2 := by
    unfold ledgerStep
    dsimp only
    rw [ite_self, List.nil_append]
  rw [finalState_cons, entries_of_no_reset together, entered] at held
  rw [outputs_cons]
  exact held.2

/-- **Byte budget.** In every run in which the asymmetry correction changes no bytes of
the worst path, `worst_path_bytes` is the number of bytes assigned to that path since
`worst_path_time` was last reset. Those assigned by consecutive frames, of which at most
the first one resets it, stay within 115 % of its window and the share of one frame. -/
theorem worst_path_byte_budget (frames : List WindowFrame)
    (kept : Along ledgerStep (fun ledger frame => frame.CountKept ledger) {} frames) :
    (finalState ledgerStep {} frames).sender.worstPathBytes =
        (finalState ledgerStep {} frames).assigned ∧
      ∀ before first rest after, frames = before ++ first :: rest ++ after →
        Along shareStep (fun s frame => ¬ frame.Resets s)
          (shareStep (finalState ledgerStep {} before).sender first).1 rest →
        WithinBudget
          (outputs shareStep (finalState ledgerStep {} before).sender (first :: rest)) := by
  constructor
  · exact kept.invariant (fun ledger => ledger.sender.worstPathBytes = ledger.assigned)
      ledgerStep_assigned_eq rfl
  · exact fun before first rest _ _ => run_withinBudget before first rest

/-- A frame that starts the clock, and one past start-up. -/
def framesPastStartUp (first : UInt16) (rest : List UInt16) : List WindowFrame :=
  [⟨asymmetricCollector, 1, [videoPacket 1], false⟩,
    ⟨asymmetricCollector, 20000, (videoFrame first rest).packets, false⟩]

/-- Of two packets the worst path gets one, and after the correction its copy. -/
theorem worst_path_byte_budget_copy :
    (finalState ledgerStep {} (framesPastStartUp 2 [3])).sender.worstPathBytes =
        (finalState ledgerStep {} (framesPastStartUp 2 [3])).assigned ∧
      WithinBudget (outputs shareStep {} (framesPastStartUp 2 [3])) :=
  (worst_path_byte_budget _ (by decide +kernel)).imp_right fun budget =>
    budget [] _ _ [] rfl (by decide +kernel)

/-- Frames with a window of 100 bytes for the worst path, and no asymmetry. -/
def narrowFrame (now : Int) (first : UInt16) (rest : List UInt16) : WindowFrame where
  collector := { asymmetricCollector with secondaryCongestionWnd := 100, remoteAssymetry := 0 }
  now := now
  packets := (videoFrame first rest).packets

/-- Of four packets the worst path gets two, which are counted, and one is then moved to
the best path. In the 50 milliseconds around a reset, two frames give it more than 115 %
of its window and the share of either. -/
theorem moved_packet_is_counted_on_worst_path :
    (finalState ledgerStep {} (framesPastStartUp 2 [3, 4, 5])).sender.worstPathBytes = 86 ∧
      (finalState ledgerStep {} (framesPastStartUp 2 [3, 4, 5])).assigned = 43 ∧
      ¬ WithinBudget (outputs shareStep (finalState ledgerStep {}
          (framesPastStartUp 2 [] ++ [narrowFrame 20001 3 [4]])).sender
        [narrowFrame 20950 5 [6, 7, 8, 9, 10], narrowFrame 21000 11 [12, 13, 14, 15, 16]]) := by
  refine ⟨by decide +kernel, by decide +kernel, fun within => ?_⟩
  obtain ⟨entry, member, bound⟩ := within 1 100 (.inl rfl) (by decide) (by decide +kernel)
    (by decide +kernel)
  generalize assigned : outputs shareStep _ _ = entries at bound member
  have total : (entries.map (·.bytes)).sum = 258 := by
    rw [← assigned]
    decide +kernel
  have share : ∀ entry ∈ entries, entry.bytes ≤ 129 := by
    rw [← assigned]
    decide +kernel
  have small := share entry member
  rw [total, show (115 * 100 : Int).tdiv 100 = 115 from rfl] at bound
  omega

end Ledger

end MpWebRtc
