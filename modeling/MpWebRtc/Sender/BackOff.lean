import Mathlib.Tactic.Linarith
import MpWebRtc.Sender.Provenance

/-!
# Back-off signals and the window scheduler

The receiver asks for less traffic with two signals. A full signal takes a path out
of use; a half signal scales down the share of a path. The collector records for
which path a signal was meant, by the best path at the time of the signal. The window
scheduler looks at that record only for the full signal of an ordinary frame: key
frames follow the best path of the moment, and `alpha` scales the share of whatever
path is the worst one now. The results below say when this steers the signalled path.
-/

namespace MpWebRtc

open Math.Run

/-- What the transport controller reports to the collector between frames. -/
structure PathReport where
  scheduler : String
  mpSecondPath : Int
  ratio : ℚ
  rtt1 : Int
  rtt2 : Int
  loss1 : ℚ
  loss2 : ℚ
  sendingrate1 : ℚ
  sendingrate2 : ℚ
  primaryCongestionWnd : Int
  secondaryCongestionWnd : Int
  remoteAssymetry : Int

/-- Store a report. -/
def Collector.report (c : Collector) (r : PathReport) : Collector :=
  { c with
    scheduler := r.scheduler
    mpSecondPath := r.mpSecondPath
    ratio := r.ratio
    rtt1 := r.rtt1
    rtt2 := r.rtt2
    loss1 := r.loss1
    loss2 := r.loss2
    sendingrate1 := r.sendingrate1
    sendingrate2 := r.sendingrate2
    primaryCongestionWnd := r.primaryCongestionWnd
    secondaryCongestionWnd := r.secondaryCongestionWnd
    remoteAssymetry := r.remoteAssymetry }

/-- The operations on the collector, interleaved with frames. -/
inductive BackOffEvent
  | setHalfSignal (now : Int)
  | setFullSignal (now : Int)
  | clearHalfSignal
  | clearFullSignal
  | setBestPathId (k : Int)
  | report (r : PathReport)
  | frame (now : Int) (packets : List Packet) (keyframe : Bool)

/-- The collector and the sender that reads it. -/
structure BackOffState where
  collector : Collector
  sender : RtpSender := {}

/-- One event; a frame emits what it hands to the pacer. -/
def backOffStep (state : BackOffState) : BackOffEvent → BackOffState × List Packet
  | .setHalfSignal now => ({ state with collector := state.collector.mpSetHalfSignal now }, [])
  | .setFullSignal now => ({ state with collector := state.collector.mpSetFullSignal now }, [])
  | .clearHalfSignal => ({ state with collector := state.collector.mpClearHalfSignal }, [])
  | .clearFullSignal => ({ state with collector := state.collector.mpClearFullSignal }, [])
  | .setBestPathId k => ({ state with collector := { state.collector with bestPathid := k } }, [])
  | .report r => ({ state with collector := state.collector.report r }, [])
  | .frame now packets keyframe =>
      let split := mpTrafficSplitImplementation state.collector now state.sender packets keyframe
      (⟨split.collector, split.sender⟩, split.handed)

section Alpha

/-- A half signal only ever reduces a share. -/
structure AlphaBounded (c : Collector) : Prop where
  nonneg : 0 ≤ c.alpha
  le_one : c.alpha ≤ 1

theorem AlphaBounded.of_alpha {c d : Collector} (bounded : AlphaBounded c)
    (kept : d.alpha = c.alpha ∨ d.alpha = Collector.halved c.alpha ∨ d.alpha = 0 ∨ d.alpha = 1) :
    AlphaBounded d := by
  obtain ⟨nonneg, le_one⟩ := bounded
  rcases kept with same | half | zero | one
  · exact ⟨same ▸ nonneg, same ▸ le_one⟩
  · rw [Collector.halved] at half
    split_ifs at half
    · exact ⟨half.ge, half.le.trans zero_le_one⟩
    · exact ⟨by rw [half]; linarith, by rw [half]; linarith⟩
  · exact ⟨by rw [zero], by rw [zero]; exact zero_le_one⟩
  · exact ⟨by rw [one]; exact zero_le_one, by rw [one]⟩

variable (c : Collector) (now : Int)

/-- A half signal keeps `alpha`, halves it, or sets it to the integer quotient `1/2`. -/
theorem mpSetHalfSignal_alpha :
    (c.mpSetHalfSignal now).alpha = c.alpha ∨
      (c.mpSetHalfSignal now).alpha = Collector.halved c.alpha ∨
      (c.mpSetHalfSignal now).alpha = 0 := by
  simp only [Collector.mpSetHalfSignal, apply_ite Collector.alpha]
  split_ifs <;> simp

theorem mpSetFullSignal_alpha :
    (c.mpSetFullSignal now).alpha = c.alpha ∨ (c.mpSetFullSignal now).alpha = 1 := by
  simp only [Collector.mpSetFullSignal, apply_ite Collector.alpha]
  split_ifs <;> simp

theorem split_collector_alpha (s : RtpSender) (packets : List Packet) (keyframe : Bool) :
    (mpTrafficSplitImplementation c now s packets keyframe).collector.alpha = c.alpha := by
  have payloadOnly : ∀ (packets : List Packet) (c : Collector),
      (packets.foldl (fun c p => { c with payloadType := p.payloadType }) c).alpha = c.alpha := by
    intro packets
    induction packets with
    | nil => exact fun _ => rfl
    | cons p packets ih => exact fun c => ih _
  unfold mpTrafficSplitImplementation
  cases splitBranch c now s keyframe with
  | keyFrame => exact payloadOnly packets c
  | _ => rfl

/-- `alpha` stays between zero and one. -/
theorem backOffStep_alphaBounded (state : BackOffState) (event : BackOffEvent)
    (bounded : AlphaBounded state.collector) :
    AlphaBounded (backOffStep state event).1.collector := by
  cases event with
  | setHalfSignal now =>
      have kept := mpSetHalfSignal_alpha state.collector now
      exact bounded.of_alpha (by tauto)
  | setFullSignal now =>
      have kept := mpSetFullSignal_alpha state.collector now
      exact bounded.of_alpha (by tauto)
  | clearHalfSignal => exact bounded.of_alpha (by simp [backOffStep])
  | frame now packets keyframe =>
      exact bounded.of_alpha
        (.inl (split_collector_alpha state.collector now state.sender packets keyframe))
  | _ => exact bounded.of_alpha (.inl rfl)

end Alpha

section Truncation

theorem truncate_le {q : ℚ} {w : Int} (nonneg : 0 ≤ w) (le : q ≤ w) : truncate q ≤ w := by
  unfold truncate
  split
  · exact Int.floor_le_iff.mpr (by linarith)
  · rename_i negative
    refine Int.ceil_le.mpr ?_
    have : (0 : ℚ) ≤ w := by exact_mod_cast nonneg
    linarith

theorem truncate_scaled_le {alpha : ℚ} (nonneg : 0 ≤ alpha) (le : alpha ≤ 1) (w : Int) :
    truncate (w * alpha) ≤ max w 0 := by
  refine truncate_le (le_max_right _ _) ?_
  rcases le_total 0 w with positive | negative
  · rw [max_eq_left positive]
    have : (0 : ℚ) ≤ w := by exact_mod_cast positive
    nlinarith
  · rw [max_eq_right negative]
    have : (w : ℚ) ≤ 0 := by exact_mod_cast negative
    push_cast
    nlinarith

end Truncation

section Shares

variable (c : Collector) (n : Nat)

/-- The shares by the ratio and the half signal. -/
def reducedShares : Shares := halfSignalShares c n (ratioShares c n)

/-- A half signal never enlarges a positive share of the worst path. -/
theorem reducedShares_le (bounded : AlphaBounded c) :
    (reducedShares c n).p2 ≤ max (ratioShares c n).p2 0 := by
  unfold reducedShares halfSignalShares
  dsimp only
  split
  · exact truncate_scaled_le bounded.nonneg bounded.le_one _
  · exact le_max_left _ _

/-- The packets that the asymmetry correction would move. -/
def asymmetricPackets (shares : Shares) : Int := min c.remoteAssymetry shares.p2

variable {c n}

/-- The asymmetry correction moves packets to the best path. -/
def Corrects (c : Collector) (shares : Shares) : Prop :=
  0 < c.remoteAssymetry ∧ 0 < shares.p2 ∧ accommodates c shares (asymmetricPackets c shares)

instance (c : Collector) (shares : Shares) : Decidable (Corrects c shares) :=
  inferInstanceAs (Decidable (_ ∧ _ ∧ _))

theorem asymmetryShares_eq (shares : Shares) :
    asymmetryShares c n shares =
      if Corrects c shares then
        ⟨⟨n - (shares.p2 - asymmetricPackets c shares), shares.p2 - asymmetricPackets c shares⟩,
          if c.bestPathid ≠ 2 then 2 else 1,
          if shares.p2 - asymmetricPackets c shares = 0 then 1 else 0⟩
      else ⟨shares, 0, 0⟩ := by
  have clamp : (if c.remoteAssymetry > shares.p2 then shares.p2 else c.remoteAssymetry) =
      asymmetricPackets c shares := by
    unfold asymmetricPackets
    split <;> omega
  unfold asymmetryShares
  dsimp only
  rw [clamp]
  by_cases reported : c.remoteAssymetry > 0 ∧ shares.p2 > 0
  · rw [if_pos reported]
    by_cases room : accommodates c shares (asymmetricPackets c shares)
    · rw [if_pos (show Corrects c shares from ⟨reported.1, reported.2, room⟩)]
      simp only [room, if_true]
    · rw [if_neg (show ¬ Corrects c shares from fun moved => room moved.2.2)]
      simp [room, ne_of_gt reported.2]
  · rw [if_neg reported, if_neg (show ¬ Corrects c shares from fun moved =>
      reported ⟨moved.1, moved.2.1⟩)]

theorem asymmetryShares_p2 (shares : Shares) :
    (asymmetryShares c n shares).shares.p2 =
      if 0 < c.remoteAssymetry ∧ 0 < shares.p2 ∧
          accommodates c shares (asymmetricPackets c shares) then
        shares.p2 - asymmetricPackets c shares
      else shares.p2 := by
  rw [asymmetryShares_eq, apply_ite Corrected.shares, apply_ite Shares.p2]
  rfl

/-- With best path 2 the rate test gets easier as the worst share shrinks. -/
theorem accommodates_mono_of_best_two (best : c.bestPathid = 2) {reduced full : Shares}
    (le : reduced.p2 ≤ full.p2) (room : accommodates c full (asymmetricPackets c full)) :
    accommodates c reduced (asymmetricPackets c reduced) := by
  simp only [accommodates, best, ne_eq, not_true_eq_false, ↓reduceIte, decide_eq_true_eq] at room ⊢
  have smaller : reduced.p2 + asymmetricPackets c reduced ≤ full.p2 + asymmetricPackets c full := by
    unfold asymmetricPackets
    omega
  have scaled : ((reduced.p2 + asymmetricPackets c reduced : Int) : ℚ) ≤
      ((full.p2 + asymmetricPackets c full : Int) : ℚ) := by exact_mod_cast smaller
  push_cast at scaled
  linarith

/-- The rate test for best path 1 asks whether that path can take the enlarged share,
so a reduced worst share can fail it where the full one passes. This excludes the
frames where that would leave the best path with less than without the signal. -/
def RateTestStable (c : Collector) (n : Nat) : Prop :=
  c.bestPathid ≠ 2 → 0 < c.remoteAssymetry → 0 < (reducedShares c n).p2 →
    accommodates c (ratioShares c n) (asymmetricPackets c (ratioShares c n)) →
      accommodates c (reducedShares c n) (asymmetricPackets c (reducedShares c n)) ∨
        (reducedShares c n).p2 + c.remoteAssymetry ≤ (ratioShares c n).p2

theorem asymmetryShares_le (bounded : AlphaBounded c) (stable : RateTestStable c n) :
    (asymmetryShares c n (reducedShares c n)).shares.p2.toNat ≤
      (asymmetryShares c n (ratioShares c n)).shares.p2.toNat := by
  have le := reducedShares_le c n bounded
  unfold RateTestStable at stable
  generalize reducedShares c n = reduced at le stable ⊢
  generalize ratioShares c n = full at le stable ⊢
  rw [asymmetryShares_p2, asymmetryShares_p2]
  have removable : ∀ shares : Shares,
      asymmetricPackets c shares = min c.remoteAssymetry shares.p2 := fun _ => rfl
  by_cases moved : 0 < c.remoteAssymetry ∧ 0 < full.p2 ∧
      accommodates c full (asymmetricPackets c full)
  · obtain ⟨reported, -, room⟩ := moved
    by_cases empty : reduced.p2 ≤ 0
    · split <;> rename_i h
      · exact absurd h.2.1 (by omega)
      · omega
    · have roomOrLess : accommodates c reduced (asymmetricPackets c reduced) ∨
          reduced.p2 + c.remoteAssymetry ≤ full.p2 := by
        by_cases best : c.bestPathid = 2
        · exact .inl (accommodates_mono_of_best_two best (by omega) room)
        · exact stable best reported (by omega) room
      rcases roomOrLess with fits | less
      · rw [if_pos ⟨reported, by omega, fits⟩, if_pos ⟨reported, by omega, room⟩,
          removable, removable]
        omega
      · rw [if_pos (c := _ ∧ 0 < full.p2 ∧ _) ⟨reported, by omega, room⟩, removable, removable]
        split <;> omega
  · rw [if_neg moved, removable]
    split <;> omega

/-- The worst path is kept out of this frame because its window is used up. -/
def KeptOut (c : Collector) (now : Int) (s : RtpSender) : Prop :=
  now - (s.startInterval now).worstPathTime < 1000 ∧ windowExhausted c s

instance (c : Collector) (now : Int) (s : RtpSender) : Decidable (KeptOut c now s) :=
  inferInstanceAs (Decidable (_ ∧ _))

variable (now : Int) (s : RtpSender) (packets : List Packet)

theorem windowShares_snd (shares : Shares) :
    (windowShares c now s packets shares).2 =
      if KeptOut c now s then ⟨packets.length, 0⟩ else shares := by
  unfold windowShares
  by_cases renewed : now - (s.startInterval now).worstPathTime ≥ 1000
  · rw [if_pos renewed, if_neg fun kept => absurd kept.1 (by omega)]
  · rw [if_neg renewed]
    by_cases exhausted : windowExhausted c s
    · rw [if_pos exhausted, if_pos ⟨by omega, exhausted⟩]
    · rw [if_neg exhausted, if_neg fun kept => exhausted kept.2]

/-- The share of the worst path in the end. -/
def worstShare (c : Collector) (now : Int) (s : RtpSender) (packets : List Packet) : Nat :=
  min packets.length (plannedShares c now s packets).2.shares.p2.toNat

theorem worstShare_eq :
    worstShare c now s packets = if KeptOut c now s then 0 else
      min packets.length
        (asymmetryShares c packets.length (reducedShares c packets.length)).shares.p2.toNat := by
  unfold worstShare plannedShares
  dsimp only
  rw [windowShares_snd]
  split
  · rw [asymmetryShares_p2]
    simp
  · rfl

/-- The collector as it would be without a half signal. -/
def Collector.withoutHalfSignal (c : Collector) : Collector := { c with alpha := 1 }

theorem worstShare_withoutHalfSignal :
    worstShare c.withoutHalfSignal now s packets = if KeptOut c now s then 0 else
      min packets.length
        (asymmetryShares c packets.length (ratioShares c packets.length)).shares.p2.toNat := by
  have full : reducedShares c.withoutHalfSignal packets.length = ratioShares c packets.length := by
    rw [reducedShares, halfSignalShares, if_neg (by simp [Collector.halfSignal, Collector.withoutHalfSignal])]
    rfl
  rw [worstShare_eq, full]
  rfl

/-- A half signal does not enlarge the share of the worst path. -/
theorem worstShare_le_withoutHalfSignal
    (bounded : AlphaBounded c) (stable : ¬ KeptOut c now s → RateTestStable c packets.length) :
    worstShare c now s packets ≤ worstShare c.withoutHalfSignal now s packets := by
  rw [worstShare_eq, worstShare_withoutHalfSignal]
  split
  · exact le_refl 0
  · rename_i notKept
    have := asymmetryShares_le bounded (stable notKept)
    omega

/-- A worst path without a share has none to lose. -/
theorem worstShare_eq_of_nonpos
    (bounded : AlphaBounded c) (empty : (ratioShares c packets.length).p2 ≤ 0) :
    worstShare c now s packets = worstShare c.withoutHalfSignal now s packets := by
  have none : ∀ shares : Shares, shares.p2 ≤ 0 →
      (asymmetryShares c packets.length shares).shares.p2.toNat = 0 := by
    intro shares nonpos
    rw [asymmetryShares_p2, if_neg (by omega)]
    omega
  have le := reducedShares_le c packets.length bounded
  rw [worstShare_eq, worstShare_withoutHalfSignal, none _ empty, none _ (by omega)]

end Shares

section Frames

/-- The full signal is obeyed by the originals of a frame. -/
def FullSignalObeyed (c : Collector) (now : Int) (s : RtpSender) (packets : List Packet)
    (keyframe : Bool) : Prop :=
  ∀ k : Nat, k = 1 ∨ k = 2 → c.fullSignaledOn k →
    ∀ q ∈ (mpTrafficSplitImplementation c now s packets keyframe).packets, q.subflowId ≠ k

/-- The half signal costs the other path nothing. -/
def HalfSignalConfined (c : Collector) (now : Int) (s : RtpSender) (packets : List Packet)
    (keyframe : Bool) : Prop :=
  ∀ k : Nat, k = 1 ∨ k = 2 → c.halfSignaledOn k →
    shareOn (3 - k)
        (mpTrafficSplitImplementation c.withoutHalfSignal now s packets keyframe).packets ≤
      shareOn (3 - k) (mpTrafficSplitImplementation c now s packets keyframe).packets

variable {c : Collector} {now : Int} {s : RtpSender} {packets : List Packet} {keyframe : Bool}

/-- The frame is sent by the window scheduler, past its start-up phase. -/
structure AfterStartUp (c : Collector) (now : Int) (s : RtpSender) : Prop where
  window : c.windowScheduling
  ratio : c.ratio ≠ 0
  elapsed : now - s.startedAt now > 10000

theorem AfterStartUp.splitBranch_eq (started : AfterStartUp c now s) :
    splitBranch c now s false =
      if c.fullSignaledOn 1 then .fullSignaled1
      else if c.fullSignaledOn 2 then .fullSignaled2
      else .ratio := by
  have running : ¬ (c.ratio = 0 ∨ now - s.startedAt now ≤ 10000) := by
    have := started.elapsed
    rw [not_or]
    exact ⟨started.ratio, by omega⟩
  unfold splitBranch
  simp only [started.window, running, windowScheduling_open started.window, Bool.and_true,
    Bool.false_eq_true, ↓reduceIte]

theorem fullSignal_obeyed (started : AfterStartUp c now s)
    (keyPath : keyframe → ¬ c.fullSignaledOn (keyFramePath c)) :
    FullSignalObeyed c now s packets keyframe := by
  intro k path signaled q member
  have labels := fun primary s => forall_outputs (assignTo_labels primary) s packets q
  unfold mpTrafficSplitImplementation at member
  cases keyframe with
  | true =>
      rw [show splitBranch c now s true = .keyFrame by simp [splitBranch, started.window]] at member
      rw [labels _ _ member]
      rintro rfl
      refine keyPath rfl ?_
      by_cases best : c.bestPathid = 1 <;> simpa [keyFramePath, best] using signaled
  | false =>
      rcases path with rfl | rfl
      · have first : c.fullSignaledOn 1 := signaled
        rw [started.splitBranch_eq, if_pos first] at member
        simp [labels false _ member]
      · have second : c.fullSignaledOn 2 := signaled
        have notFirst : ¬ c.fullSignaledOn 1 := fun first =>
          absurd (Collector.fullSignaledOn_unique first second) (by decide)
        rw [started.splitBranch_eq, if_neg notFirst, if_pos second] at member
        simp [labels true _ member]

theorem splitBranch_withoutHalfSignal :
    splitBranch c.withoutHalfSignal now s keyframe = splitBranch c now s keyframe := rfl

/-- The shares of the two paths in a frame divided by the ratio. -/
theorem splitRatio_shares (k : Nat) (path : k = 1 ∨ k = 2) :
    shareOn k (splitRatio c now s packets).packets =
      if (k : Int) = c.worstPath then worstShare c now s packets
      else packets.length - worstShare c now s packets := by
  have worst := ratio_loop_worst (c.bestPathid == 1)
    (plannedShares c now s packets).2.shares.p2 (plannedShares c now s packets).1 0 packets
  have best := ratio_loop_best (c.bestPathid == 1)
    (plannedShares c now s packets).2.shares.p2 (plannedShares c now s packets).1 packets
  rw [sub_zero] at worst
  unfold Collector.worstPath worstShare
  simp only [splitRatio]
  by_cases first : c.bestPathid = 1
  · simp only [first, beq_self_eq_true, worstLabel, Bool.not_true, ↓reduceIte] at worst best ⊢
    rcases path with rfl | rfl
    · simpa using best
    · simpa using worst
  · have notFirst : (c.bestPathid == 1) = false := by simpa using first
    simp only [notFirst, first, worstLabel, Bool.not_false, Bool.false_eq_true, ↓reduceIte]
      at worst best ⊢
    rcases path with rfl | rfl
    · simpa using worst
    · simpa using best

theorem AfterStartUp.ne_roundRobin (started : AfterStartUp c now s) :
    splitBranch c now s keyframe ≠ .roundRobin := by
  cases keyframe with
  | true => simp [splitBranch, started.window]
  | false =>
      rw [started.splitBranch_eq]
      split_ifs <;> decide

theorem halfSignal_confined (bounded : AlphaBounded c) (started : AfterStartUp c now s)
    (worst : splitBranch c now s keyframe = .ratio → c.halfSignal →
      (ratioShares c packets.length).p2 ≤ 0 ∨ c.halfsignaledPathid = c.worstPath)
    (stable : splitBranch c now s keyframe = .ratio → c.halfSignal → ¬ KeptOut c now s →
      RateTestStable c packets.length) : HalfSignalConfined c now s packets keyframe := by
  intro k path signaled
  have half : c.halfSignal ∧ c.halfsignaledPathid = k := by
    simpa [Collector.halfSignaledOn] using signaled
  unfold mpTrafficSplitImplementation
  rw [splitBranch_withoutHalfSignal]
  cases branch : splitBranch c now s keyframe with
  | ratio =>
      have other : 3 - k = 1 ∨ 3 - k = 2 := by omega
      dsimp only
      rw [splitRatio_shares (3 - k) other, splitRatio_shares (3 - k) other]
      change (if _ = c.worstPath then _ else _) ≤ _
      have keptOut : KeptOut c now (s.started now) ↔ KeptOut c now s := Iff.rfl
      rcases worst branch half.1 with empty | matching
      · rw [worstShare_eq_of_nonpos now _ packets bounded empty]
      · have le := worstShare_le_withoutHalfSignal now
          (s.started now) packets bounded
          fun notKept => stable branch half.1 fun kept => notKept (keptOut.mpr kept)
        have notWorst : ((3 - k : Nat) : Int) ≠ c.worstPath := by
          rw [← matching, half.2]
          omega
        rw [if_neg notWorst, if_neg notWorst]
        omega
  | roundRobin => exact absurd branch started.ne_roundRobin
  | _ => exact Nat.le_refl _

end Frames

section Runs

/-- The signals and the best path agree for a frame: a key frame does not go to a path
out of use, and a half signal meets the path it was recorded for, in a way that the
asymmetry correction does not undo. -/
structure SignalsAgree (c : Collector) (now : Int) (s : RtpSender) (packets : List Packet)
    (keyframe : Bool) : Prop where
  keyPath : keyframe → ¬ c.fullSignaledOn (keyFramePath c)
  worst : splitBranch c now s keyframe = .ratio → c.halfSignal →
    (ratioShares c packets.length).p2 ≤ 0 ∨ c.halfsignaledPathid = c.worstPath
  stable : splitBranch c now s keyframe = .ratio → c.halfSignal → ¬ KeptOut c now s →
    RateTestStable c packets.length

variable (state : BackOffState)

/-- The condition on an event; only frames past start-up are restricted. -/
def BackOffEvent.Agrees : BackOffEvent → Prop
  | .frame now packets keyframe =>
      AfterStartUp state.collector now state.sender →
        SignalsAgree state.collector now state.sender packets keyframe
  | _ => True

/-- A frame past start-up obeys both signals. -/
def BackOffEvent.Steered : BackOffEvent → Prop
  | .frame now packets keyframe =>
      AfterStartUp state.collector now state.sender →
        FullSignalObeyed state.collector now state.sender packets keyframe ∧
          HalfSignalConfined state.collector now state.sender packets keyframe
  | _ => True

theorem steered_of_agrees (event : BackOffEvent)
    (bounded : AlphaBounded state.collector) (agrees : event.Agrees state) :
    event.Steered state := by
  cases event with
  | frame now packets keyframe =>
      intro started
      have agree := agrees started
      exact ⟨fullSignal_obeyed started agree.keyPath,
        halfSignal_confined bounded started agree.worst agree.stable⟩
  | _ => trivial

/-- **Back-off.** In every run of signals, clears, best-path changes, reports and
frames in which the signals agree with the best path at each frame past start-up, no
original of such a frame goes to a path under a full signal, and a half signal leaves
the other path at least the share it would have without it. -/
theorem signals_steer_signaled_path (rate1 rate2 : ℚ) (events : List BackOffEvent)
    (agree : Along backOffStep (fun state event => event.Agrees state)
      ⟨Collector.initial rate1 rate2, {}⟩ events) :
    Along backOffStep (fun state event => event.Steered state)
      ⟨Collector.initial rate1 rate2, {}⟩ events := by
  have initial : AlphaBounded (Collector.initial rate1 rate2) := ⟨zero_le_one, le_refl 1⟩
  refine agree.of_invariant (fun state => AlphaBounded state.collector) ?_ steered_of_agrees initial
  intro state event bounded _
  exact backOffStep_alphaBounded state event bounded

/-- Window scheduling with both paths measured. -/
def measuredPaths : PathReport where
  scheduler := "window"
  mpSecondPath := 1
  ratio := 1
  rtt1 := 100
  rtt2 := 100
  loss1 := 0
  loss2 := 0
  sendingrate1 := 0
  sendingrate2 := 0
  primaryCongestionWnd := 1000
  secondaryCongestionWnd := 1000
  remoteAssymetry := 0

/-- A run up to the time the start-up phase is over, with best path 1 when the signal
arrives. -/
def signaledRun (signal : BackOffEvent) : List BackOffEvent :=
  [.report measuredPaths, .frame 1 [videoPacket 1] false, .setBestPathId 1, signal]

/-- The run continues with a frame while the best path is still the same. -/
theorem halfSignal_steers_with_same_best_path :
    Along backOffStep (fun state event => event.Steered state) ⟨Collector.initial 0 0, {}⟩
      (signaledRun (.setHalfSignal 2) ++
        [.frame 20000 (videoFrame 2 [3, 4, 5]).packets false]) :=
  signals_steer_signaled_path 0 0 _ (by
    refine ⟨trivial, fun started => ?_, trivial, trivial, fun _ => ?_, trivial⟩
    · exact absurd started.elapsed (by decide +kernel)
    · refine ⟨by decide +kernel, by decide +kernel, fun _ _ _ _ reported => ?_⟩
      exact absurd reported (by decide +kernel))

/-- Once the best path has changed, a key frame goes to the path under a full signal,
and a half signal takes packets from the path it was not meant for. -/
theorem signals_miss_after_best_path_change :
    ¬ Along backOffStep (fun state event => event.Steered state) ⟨Collector.initial 0 0, {}⟩
        (signaledRun (.setFullSignal 2) ++
          [.setBestPathId 2, .frame 20000 [videoPacket 2] true]) ∧
      ¬ Along backOffStep (fun state event => event.Steered state) ⟨Collector.initial 0 0, {}⟩
        (signaledRun (.setHalfSignal 2) ++
          [.setBestPathId 2, .frame 20000 (videoFrame 2 [3, 4, 5]).packets false]) := by
  refine ⟨fun steered => ?_, fun steered => ?_⟩
  · have obeyed := (steered.2.2.2.2.2.1 ⟨by decide +kernel, by decide +kernel,
      by decide +kernel⟩).1 2 (.inr rfl) (by decide +kernel)
    revert obeyed
    decide +kernel
  · have confined := (steered.2.2.2.2.2.1 ⟨by decide +kernel, by decide +kernel,
      by decide +kernel⟩).2 2 (.inr rfl) (by decide +kernel)
    revert confined
    decide +kernel

end Runs

end MpWebRtc
