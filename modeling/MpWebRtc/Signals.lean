import Mathlib.Algebra.Order.Field.Rat
import Mathlib.Tactic.Positivity
import MpWebRtc.Collector
import MpWebRtc.Math.Run

/-!
# The half signal and the full signal

Every half signal halves `alpha`, and the full signal takes its place. What can be said of
the two over a whole run depends on two kinds of event: when a half signal comes after the
best path has become the path the signal was recorded for, the signal moves to the other
path, and `alpha_ = 1/2` is the integer quotient zero instead of one half; and when `alpha`
is the smallest `double`, half of it is zero.

A full signal that comes within 100 ms of the last one is not taken into account, but it has
cleared the half signal by then.
-/

namespace MpWebRtc

open Math.Run

/-- The calls that touch the signals, and what they read. -/
inductive SignalEvent
  | setHalfSignal (now : Int)
  | clearHalfSignal
  | setFullSignal (now : Int)
  | clearFullSignal
  | setBestPathId (pathid : Int)
  | setRtt1 (rtt : Int)
  | setRtt2 (rtt : Int)
  | setLoss1 (loss : ℚ)
  | setLoss2 (loss : ℚ)

variable (c : Collector)

/-- One call. -/
def signalStep : SignalEvent → Collector × List Unit
  | .setHalfSignal now => (c.mpSetHalfSignal now, [])
  | .clearHalfSignal => (c.mpClearHalfSignal, [])
  | .setFullSignal now => (c.mpSetFullSignal now, [])
  | .clearFullSignal => (c.mpClearFullSignal, [])
  | .setBestPathId pathid => ({ c with bestPathid := pathid }, [])
  | .setRtt1 rtt => ({ c with rtt1 := rtt }, [])
  | .setRtt2 rtt => ({ c with rtt2 := rtt }, [])
  | .setLoss1 loss => ({ c with loss1 := loss }, [])
  | .setLoss2 loss => ({ c with loss2 := loss }, [])

namespace Collector

variable {c : Collector} {now : Int}

/-- A half signal is taken into account. -/
def Accepts (c : Collector) (now : Int) : Prop :=
  ¬ (c.rtt2 ≤ 50 ∧ c.rtt1 ≤ 50) ∧ c.fullSignal = false ∧
    (c.halfsignaltime = 0 ∨ now ≠ c.halfsignaltime)

/-- A half signal moves to the other path: there has been one before, it is in force, and
its path is now the best one. -/
def MovesHalfSignal (c : Collector) (now : Int) : Prop :=
  c.Accepts now ∧ c.halfsignaltime ≠ 0 ∧ c.alpha < 1 ∧
    (c.halfsignaledPathid = 1 ∨ c.halfsignaledPathid = 2) ∧ c.bestPathid = c.halfsignaledPathid

/-- A half signal that is taken into account leaves nothing of `alpha`. -/
def VanishesAt (c : Collector) (now : Int) : Prop := c.Accepts now ∧ c.alpha ≤ minDouble

/-- `alpha` is a power of one half, a half signal in force has a path, and there is none
while a full signal is active. -/
structure Signalled (c : Collector) : Prop where
  halved : ∃ k : ℕ, c.alpha = 1 / 2 ^ k
  path : c.alpha < 1 → c.halfsignaledPathid = 1 ∨ c.halfsignaledPathid = 2
  exclusive : 0 < c.beta → c.alpha = 1

theorem Signalled.halve (signalled : c.Signalled) (remains : ¬ c.alpha ≤ minDouble) :
    ∃ k : ℕ, Collector.halved c.alpha = 1 / 2 ^ k := by
  obtain ⟨k, power⟩ := signalled.halved
  refine ⟨k + 1, ?_⟩
  rw [Collector.halved, if_neg remains, power, pow_succ, div_div]

theorem alpha_pos (signalled : c.Signalled) : 0 < c.alpha := by
  obtain ⟨k, halved⟩ := signalled.halved
  rw [halved]
  positivity

theorem worstPath_eq (c : Collector) : c.worstPath = 1 ∨ c.worstPath = 2 := by
  unfold worstPath
  split
  · exact .inr rfl
  · exact .inl rfl

/-- What a half signal does, if it is taken into account: it moves, or it halves `alpha`
for the path it is recorded for. -/
theorem mpSetHalfSignal_cases (signalled : c.Signalled) (now : Int) :
    (c.MovesHalfSignal now ∧ (c.mpSetHalfSignal now).alpha = 0) ∨
      ¬ c.MovesHalfSignal now ∧ (c.mpSetHalfSignal now).beta = c.beta ∧
        (¬ c.Accepts now ∧ (c.mpSetHalfSignal now).alpha = c.alpha ∧
            (c.mpSetHalfSignal now).halfsignaledPathid = c.halfsignaledPathid ∨
          c.Accepts now ∧ (c.mpSetHalfSignal now).alpha = halved c.alpha ∧
            ((c.mpSetHalfSignal now).halfsignaledPathid = 1 ∨
              (c.mpSetHalfSignal now).halfsignaledPathid = 2)) := by
  unfold mpSetHalfSignal
  split
  · rename_i slow
    exact .inr ⟨fun moves => moves.1.1 slow, rfl, .inl ⟨fun accepts => accepts.1 slow, rfl, rfl⟩⟩
  · rename_i fast
    split
    · rename_i full
      have ignored : ¬ c.Accepts now := fun accepts =>
        Bool.false_ne_true (accepts.2.1.symm.trans full)
      exact .inr ⟨fun moves => ignored moves.1, rfl, .inl ⟨ignored, rfl, rfl⟩⟩
    · rename_i notFull
      have open' : c.fullSignal = false := by simpa using notFull
      split
      · rename_i first
        refine .inr ⟨fun moves => moves.2.1 first, rfl, .inr ⟨?_, rfl, ?_⟩⟩
        · exact ⟨fast, open', .inl first⟩
        · exact worstPath_eq _
      · rename_i again
        split
        · rename_i later
          have accepts : c.Accepts now := ⟨fast, open', .inr later⟩
          by_cases active : c.alpha < 1
          · rw [if_pos active]
            rcases signalled.path active with one | two
            · rw [if_pos one]
              by_cases best : c.bestPathid = 1
              · rw [if_pos best]
                refine .inl ⟨⟨accepts, again, active, .inl one, ?_⟩, rfl⟩
                rw [best, one]
              · rw [if_neg best]
                refine .inr ⟨fun moves => best ?_, rfl, .inr ⟨accepts, rfl, .inl one⟩⟩
                rw [moves.2.2.2.2, one]
            · rw [if_neg (by rw [two]; decide), if_pos two]
              by_cases best : c.bestPathid = 2
              · rw [if_pos best]
                refine .inl ⟨⟨accepts, again, active, .inr two, ?_⟩, rfl⟩
                rw [best, two]
              · rw [if_neg best]
                refine .inr ⟨fun moves => best ?_, rfl, .inr ⟨accepts, rfl, .inr two⟩⟩
                rw [moves.2.2.2.2, two]
          · rw [if_neg active]
            refine .inr ⟨fun moves => active moves.2.2.1, rfl, .inr ⟨accepts, rfl, ?_⟩⟩
            exact worstPath_eq _
        · rename_i repeated
          have ignored : ¬ c.Accepts now := fun accepts =>
            repeated (accepts.2.2.resolve_left again)
          exact .inr ⟨fun moves => ignored moves.1, rfl, .inl ⟨ignored, rfl, rfl⟩⟩

theorem Signalled.setHalfSignal (signalled : c.Signalled) (now : Int) :
    (c.mpSetHalfSignal now).Signalled ↔ ¬ (c.MovesHalfSignal now ∨ c.VanishesAt now) := by
  have spoilt (zero : (c.mpSetHalfSignal now).alpha = 0) : ¬ (c.mpSetHalfSignal now).Signalled := by
    intro after
    have positive := alpha_pos after
    rw [zero] at positive
    exact absurd positive (lt_irrefl 0)
  rcases mpSetHalfSignal_cases signalled now with
    ⟨moves, zero⟩ | ⟨stays, beta, ⟨ignored, same, path⟩ | ⟨accepts, halves, path⟩⟩
  · exact iff_of_false (spoilt zero) (not_not.mpr (.inl moves))
  · refine iff_of_true ⟨?_, ?_, ?_⟩ (not_or.mpr ⟨stays, fun vanishes => ignored vanishes.1⟩)
    · rw [same]
      exact signalled.halved
    · rw [same, path]
      exact signalled.path
    · rw [beta, same]
      exact signalled.exclusive
  · by_cases small : c.alpha ≤ minDouble
    · refine iff_of_false (spoilt ?_) (not_not.mpr (.inr ⟨accepts, small⟩))
      rw [halves, Collector.halved, if_pos small]
    · refine iff_of_true ⟨?_, fun _ => path, ?_⟩
        (not_or.mpr ⟨stays, fun vanishes => small vanishes.2⟩)
      · rw [halves]
        exact signalled.halve small
      · rw [beta]
        intro active
        have inactive : c.beta = 0 := by simpa [fullSignal] using accepts.2.1
        rw [inactive] at active
        exact absurd active (lt_irrefl 0)

theorem signalled_of_alpha_eq_one (whole : c.alpha = 1) : c.Signalled := by
  refine ⟨⟨0, ?_⟩, ?_, fun _ => whole⟩
  · rw [whole, pow_zero, div_one]
  · rw [whole]
    exact fun below => absurd below (lt_irrefl 1)

theorem Signalled.setFullSignal (signalled : c.Signalled) (now : Int) :
    (c.mpSetFullSignal now).Signalled := by
  unfold mpSetFullSignal
  split
  · exact signalled
  · split
    · exact signalled
    · apply signalled_of_alpha_eq_one
      dsimp only
      split <;> rfl

end Collector

/-- A half signal moves to the other path. -/
def Collector.Moves : SignalEvent → Prop
  | .setHalfSignal now => c.MovesHalfSignal now
  | _ => False

/-- A half signal moves to the other path, or leaves nothing of `alpha`. -/
def Collector.Spoils : SignalEvent → Prop
  | .setHalfSignal now => c.MovesHalfSignal now ∨ c.VanishesAt now
  | _ => False

/-- A half signal that moves to the other path restarts at one half. -/
def Collector.Restarts (event : SignalEvent) : Prop :=
  c.Moves event → (signalStep c event).1.alpha = 1 / 2

theorem signalStep_signalled (event : SignalEvent) (signalled : c.Signalled) :
    (signalStep c event).1.Signalled ↔ ¬ c.Spoils event := by
  have kept {next : Collector} (alpha : next.alpha = c.alpha) (beta : next.beta = c.beta)
      (path : next.halfsignaledPathid = c.halfsignaledPathid) : next.Signalled ↔ ¬ False := by
    refine ⟨fun _ => id, fun _ => ⟨?_, ?_, ?_⟩⟩
    · rw [alpha]
      exact signalled.halved
    · rw [alpha, path]
      exact signalled.path
    · rw [alpha, beta]
      exact signalled.exclusive
  cases event with
  | setHalfSignal now => exact signalled.setHalfSignal now
  | clearHalfSignal => exact ⟨fun _ => id, fun _ => Collector.signalled_of_alpha_eq_one rfl⟩
  | setFullSignal now => exact ⟨fun _ => id, fun _ => signalled.setFullSignal now⟩
  | clearFullSignal =>
      exact ⟨fun _ => id, fun _ =>
        ⟨signalled.halved, signalled.path, fun active => absurd active (lt_irrefl 0)⟩⟩
  | setBestPathId pathid => exact kept rfl rfl rfl
  | setRtt1 rtt => exact kept rfl rfl rfl
  | setRtt2 rtt => exact kept rfl rfl rfl
  | setLoss1 loss => exact kept rfl rfl rfl
  | setLoss2 loss => exact kept rfl rfl rfl

/-- A run keeps the signals in order exactly if no half signal moves to the other path, or comes
when `alpha` is the smallest `double`. -/
theorem half_signal_invariant (rate1 rate2 : ℚ) (events : List SignalEvent) :
    ((∀ earlier later, events = earlier ++ later →
        (finalState signalStep (.initial rate1 rate2) earlier).Signalled) ∧
      Along signalStep Collector.Restarts (.initial rate1 rate2) events) ↔
      Along signalStep (fun c event => ¬ c.Spoils event) (.initial rate1 rate2) events := by
  have reached : (∀ earlier later, events = earlier ++ later →
        (finalState signalStep (.initial rate1 rate2) earlier).Signalled) ↔
      Along signalStep (fun c event => ¬ c.Spoils event) (.initial rate1 rate2) events :=
    (along_true (Collector.initial rate1 rate2) events).forall_reached_iff (fun _ => True)
      Collector.Signalled (fun _ _ _ _ => trivial)
      (fun c event _ _ signalled => signalStep_signalled c event signalled) trivial
      (Collector.signalled_of_alpha_eq_one rfl)
  constructor
  · exact fun holds => reached.mp holds.1
  · intro stays
    refine ⟨reached.mpr stays, stays.mono fun c event still moves => ?_⟩
    cases event with
    | setHalfSignal now => exact absurd (.inl moves) still
    | _ => exact moves.elim

/-- After the best path has changed to the signalled one, the next half signal sets `alpha`
to zero. -/
theorem moved_half_signal_is_zero :
    ¬ ∀ earlier later, [SignalEvent.setRtt1 100, .setBestPathId 1, .setHalfSignal 1,
        .setBestPathId 2, .setHalfSignal 2] = earlier ++ later →
      (finalState signalStep (.initial 0 0) earlier).Signalled := by
  intro holds
  have positive := Collector.alpha_pos (holds _ [] (List.append_nil _).symm)
  exact absurd positive (by decide +kernel)

namespace Collector

variable {c : Collector} {now : Int}

/-- The current delay of a path. -/
def rttOf (c : Collector) (pathid : Int) : Int := if pathid = 1 then c.rtt1 else c.rtt2

/-- There is no half signal. -/
structure HalfSignalClear (c : Collector) : Prop where
  alpha : c.alpha = 1
  rtt : c.halfsignaledRtt = 0
  loss : c.halfsignaledLoss = 0

/-- A full signal is active on a path with a delay to speak of. -/
structure FullSignalSet (before after : Collector) : Prop where
  active : after.fullSignal = true
  path : after.fullsignaledPathid = 1 ∨ after.fullsignaledPathid = 2
  rtt : after.fullsignaledRtt = before.rttOf after.fullsignaledPathid
  above : 10 < after.fullsignaledRtt
  cleared : after.HalfSignalClear

/-- Nothing is changed in either signal. -/
structure SignalsKept (before after : Collector) : Prop where
  alpha : after.alpha = before.alpha
  halfPath : after.halfsignaledPathid = before.halfsignaledPathid
  halfRtt : after.halfsignaledRtt = before.halfsignaledRtt
  halfLoss : after.halfsignaledLoss = before.halfsignaledLoss
  beta : after.beta = before.beta
  fullPath : after.fullsignaledPathid = before.fullsignaledPathid
  fullRtt : after.fullsignaledRtt = before.fullsignaledRtt

/-- A full signal that is turned down because the last one was less than 100 ms ago. -/
def TurnsDown (c : Collector) (now : Int) : Prop :=
  10 < c.rtt1 ∧ 10 < c.rtt2 ∧ c.fullSignal = false ∧ c.fullsignaltime ≠ 0 ∧
    now - c.fullsignaltime ≤ 100

theorem mpSetFullSignal_ignored (small : c.rtt2 ≤ 10 ∨ c.rtt1 ≤ 10 ∨ c.fullSignal = true) :
    c.mpSetFullSignal now = c := by
  unfold mpSetFullSignal
  split
  · rfl
  · rename_i large
    rw [not_or] at large
    rw [if_pos ((small.resolve_left large.1).resolve_left large.2)]

theorem mpSetFullSignal_turnedDown (turned : c.TurnsDown now) :
    c.mpSetFullSignal now = { c.mpClearHalfSignal with fullsignaltime := now } := by
  obtain ⟨first, second, inactive, earlier, soon⟩ := turned
  unfold mpSetFullSignal
  rw [if_neg (by omega), if_neg (by rw [inactive]; decide)]
  dsimp only
  exact congrArg (fun signaled : Collector => { signaled with fullsignaltime := now })
    (if_neg (not_or.mpr ⟨earlier, not_lt.mpr soon⟩))

theorem fullSignalPath_eq (c : Collector) : c.fullSignalPath = 1 ∨ c.fullSignalPath = 2 := by
  unfold fullSignalPath
  split_ifs
  · exact .inl rfl
  · exact .inr rfl
  · exact .inr rfl
  · exact .inl rfl

theorem mpSetFullSignal_accepted (first : 10 < c.rtt1) (second : 10 < c.rtt2)
    (inactive : c.fullSignal = false) (due : c.fullsignaltime = 0 ∨ now - c.fullsignaltime > 100) :
    c.FullSignalSet (c.mpSetFullSignal now) := by
  have result : c.mpSetFullSignal now = { c.mpClearHalfSignal with
      beta := 1
      fullsignaledRtt := c.rttOf c.fullSignalPath
      fullsignaledPathid := c.fullSignalPath
      fullsignaltime := now } := by
    unfold mpSetFullSignal
    rw [if_neg (by omega), if_neg (by rw [inactive]; decide)]
    dsimp only
    exact congrArg (fun signaled : Collector => { signaled with fullsignaltime := now })
      (if_pos due)
  rw [result]
  refine ⟨by simp [fullSignal], fullSignalPath_eq c, rfl, ?_, rfl, rfl, rfl⟩
  change 10 < c.rttOf c.fullSignalPath
  unfold rttOf
  split
  · exact first
  · exact second

/-- A full signal takes effect or changes nothing, unless it is turned down while there is a half
signal. -/
theorem mpSetFullSignal_iff (c : Collector) (now : Int) :
    c.FullSignalSet (c.mpSetFullSignal now) ∨ c.SignalsKept (c.mpSetFullSignal now) ↔
      (c.TurnsDown now → c.HalfSignalClear) := by
  by_cases turned : c.TurnsDown now
  · rw [mpSetFullSignal_turnedDown turned]
    constructor
    · rintro (taken | kept) -
      · exact absurd taken.active (by rw [← Bool.not_eq_false, not_not]; exact turned.2.2.1)
      · exact ⟨kept.alpha.symm, kept.halfRtt.symm, kept.halfLoss.symm⟩
    · intro clear
      obtain ⟨alpha, rtt, loss⟩ := clear turned
      exact .inr ⟨alpha.symm, rfl, rtt.symm, loss.symm, rfl, rfl, rfl⟩
  · refine ⟨fun _ turned' => absurd turned' turned, fun _ => ?_⟩
    by_cases small : c.rtt2 ≤ 10 ∨ c.rtt1 ≤ 10 ∨ c.fullSignal = true
    · rw [mpSetFullSignal_ignored small]
      exact .inr ⟨rfl, rfl, rfl, rfl, rfl, rfl, rfl⟩
    · rw [not_or, not_or, not_le, not_le, Bool.not_eq_true] at small
      obtain ⟨second, first, inactive⟩ := small
      refine .inl (mpSetFullSignal_accepted first second inactive ?_)
      by_contra early
      rw [not_or, gt_iff_lt, not_lt] at early
      exact turned ⟨first, second, inactive, early⟩

end Collector

/-- A full signal takes effect or changes nothing. -/
def Collector.AllOrNothing (event : SignalEvent) : Prop :=
  ∀ now, event = .setFullSignal now →
    c.FullSignalSet (signalStep c event).1 ∨ c.SignalsKept (signalStep c event).1

/-- **Full signal.** In a run every full signal takes effect or changes nothing exactly if none is
turned down while there is a half signal. -/
theorem full_signal_all_or_nothing_iff (rate1 rate2 : ℚ) (events : List SignalEvent) :
    Along signalStep Collector.AllOrNothing (.initial rate1 rate2) events ↔
      Along signalStep (fun c event => ∀ now, event = .setFullSignal now →
        c.TurnsDown now → c.HalfSignalClear) (.initial rate1 rate2) events := by
  constructor
  · refine Along.mono fun c event holds now same => ?_
    have result := holds now same
    subst same
    exact (c.mpSetFullSignal_iff now).mp result
  · refine Along.mono fun c event holds now same => ?_
    have clear := holds now same
    subst same
    exact (c.mpSetFullSignal_iff now).mpr clear

/-- After a full signal has been cleared, a half signal is set; a further full signal is too early
and only takes the half signal away. -/
theorem early_full_signal_clears_half :
    ¬Along signalStep Collector.AllOrNothing (.initial 0 0) [SignalEvent.setRtt1 100, .setRtt2 100,
      .setBestPathId 1, .setFullSignal 1000, .clearFullSignal, .setHalfSignal 1010,
      .setFullSignal 1020] := by
  intro along
  have last := along.2.2.2.2.2.2.1 1020 rfl
  rcases last with taken | kept
  · exact absurd taken.active (by decide +kernel)
  · exact absurd kept.alpha (by decide +kernel)

end MpWebRtc
