import Mathlib.Data.Rat.Defs
import Mathlib.Data.List.Infix

/-!
# The path collector

`MpCollector` is the record through which the transport controller, the ICE channel
and the RTP sender tell each other about the two paths: whether the second path is
open, which path is best, the scheduler in force, the measured delays, losses and
rates, and the two back-off signals. The `half` signal scales the share of a path by
`alpha`; the `full` signal (`beta`) takes a path out of use.

Doubles are modelled by rationals: the only operations on them are halving, products,
quotients and comparisons. Halving is exact until it comes to zero; products and quotients
are taken as exact. Integer division in a double context, as in `alpha_ = 1/2`, keeps its
integer meaning.
-/

namespace MpWebRtc

/-- The part of `MpCollector` that the sender, the router, the egress and the channel
read or write. -/
structure Collector where
  primaryCongestionWnd : Int := 0
  secondaryCongestionWnd : Int := 0
  mpSecondPath : Int := 0
  bestPathid : Int := 0
  halfsignaledPathid : Int := 0
  fullsignaledPathid : Int := 0
  ratio : ℚ := 0
  scheduler : String := "rr"
  rtt1 : Int := 0
  rtt2 : Int := 0
  sendingrate1 : ℚ
  sendingrate2 : ℚ
  loss1 : ℚ := 0
  loss2 : ℚ := 0
  alpha : ℚ := 1
  beta : ℚ := 0
  halfsignaltime : Int := 0
  fullsignaltime : Int := 0
  halfsignaledRtt : Int := 0
  halfsignaledLoss : ℚ := 0
  fullsignaledRtt : Int := 0
  remoteAssymetry : Int := 0
  payloadType : Int := -1

namespace Collector

/-- A collector as constructed; the two sending rates are not initialised by the
source, so they are arguments. -/
def initial (rate1 rate2 : ℚ) : Collector where
  sendingrate1 := rate1
  sendingrate2 := rate2

variable (c : Collector)

/-- `MpISsecondPathOpen`. -/
def mpIsSecondPathOpen : Bool := c.mpSecondPath != 0

/-- `MpGetScheduler().find(name) != npos`. -/
def schedulerMentions (name : String) : Bool :=
  decide (name.toList <:+: c.scheduler.toList)

/-- The window scheduler applies only while the second path is open. -/
def windowScheduling : Bool :=
  c.schedulerMentions "window" && c.mpIsSecondPathOpen

/-- The redundant scheduler applies only while the second path is open. -/
def redScheduling : Bool :=
  c.schedulerMentions "red" && c.mpIsSecondPathOpen

/-- `MpGetHalfSignal() < 1.0`. -/
def halfSignal : Bool := decide (c.alpha < 1)

/-- `MpGetFullSignal()`, as a condition. -/
def fullSignal : Bool := decide (c.beta ≠ 0)

/-- A half signal is recorded for path `k`. -/
def halfSignaledOn (k : Int) : Bool :=
  c.halfSignal && c.halfsignaledPathid == k

/-- A full signal is active on path `k`. -/
def fullSignaledOn (k : Int) : Bool :=
  c.fullSignal && c.fullsignaledPathid == k

/-- `MpClearHalfSignal`: the recorded path id and time stay. -/
def mpClearHalfSignal : Collector :=
  { c with alpha := 1, halfsignaledRtt := 0, halfsignaledLoss := 0 }

/-- `MpClearFullSignal`: the recorded path id and time stay. -/
def mpClearFullSignal : Collector :=
  { c with beta := 0, fullsignaledRtt := 0 }

/-- Record delay, loss and id of the path a half signal is for. -/
def recordHalfSignal (k : Int) : Collector :=
  let loss := if k = 2 then c.loss2 else c.loss1
  { c with
    halfsignaledLoss := if loss ≠ 0 then loss else c.halfsignaledLoss
    halfsignaledRtt := if k = 2 then c.rtt2 else c.rtt1
    halfsignaledPathid := k }

/-- The path that is not the best one, as the half signal sees it. -/
def worstPath : Int := if c.bestPathid = 1 then 2 else 1

/-- The smallest positive `double`. -/
def minDouble : ℚ := 1 / 2 ^ 1074

/-- `alpha_/=2`: half of the smallest `double` is rounded to zero. -/
def halved (alpha : ℚ) : ℚ := if alpha ≤ minDouble then 0 else alpha / 2

/-- `MpSetHalfSignal`, at time `now`. -/
def mpSetHalfSignal (now : Int) : Collector :=
  if c.rtt2 ≤ 50 ∧ c.rtt1 ≤ 50 then c
  else if c.fullSignal then c
  else if c.halfsignaltime = 0 then
    let c := { c with halfsignaltime := now }
    { c.recordHalfSignal c.worstPath with alpha := halved c.alpha }
  else if now ≠ c.halfsignaltime then
    let signaled :=
      if c.alpha < 1 then
        if c.halfsignaledPathid = 1 then
          if c.bestPathid = 1 then
            -- `alpha_=1/2` is an integer quotient
            { c.mpClearHalfSignal.recordHalfSignal 2 with alpha := 0 }
          else { c with alpha := halved c.alpha }
        else if c.halfsignaledPathid = 2 then
          if c.bestPathid = 2 then
            { c.mpClearHalfSignal.recordHalfSignal 1 with alpha := 0 }
          else { c with alpha := halved c.alpha }
        else c
      else { c.recordHalfSignal c.worstPath with alpha := halved c.alpha }
    { signaled with halfsignaltime := now }
  else c

/-- The path a full signal is recorded for: the worse one, unless the delay of the
better one is out of all proportion. -/
def fullSignalPath : Int :=
  if c.bestPathid = 1 then
    if c.rtt1.tdiv 2 > c.rtt2.tdiv 2 * 500 then 1 else 2
  else
    if c.rtt2.tdiv 2 > 500 * c.rtt1.tdiv 2 then 2 else 1

/-- `MpSetFullSignal`, at time `now`. -/
def mpSetFullSignal (now : Int) : Collector :=
  if c.rtt2 ≤ 10 ∨ c.rtt1 ≤ 10 then c
  else if c.fullSignal then c
  else
    let c := c.mpClearHalfSignal
    let signaled :=
      if c.fullsignaltime = 0 ∨ now - c.fullsignaltime > 100 then
        { c with
          beta := 1
          fullsignaledRtt := if c.fullSignalPath = 1 then c.rtt1 else c.rtt2
          fullsignaledPathid := c.fullSignalPath }
      else c
    { signaled with fullsignaltime := now }

@[simp] theorem mpClearHalfSignal_alpha : c.mpClearHalfSignal.alpha = 1 := rfl

theorem fullSignaledOn_unique {c : Collector} {i j : Int} (first : c.fullSignaledOn i)
    (second : c.fullSignaledOn j) : i = j := by
  simp only [Collector.fullSignaledOn, Bool.and_eq_true, beq_iff_eq] at first second
  exact first.2.symm.trans second.2

end Collector

/-- Round robin with the second path open and no signals. -/
def openRoundRobin : Collector := { Collector.initial 0 0 with mpSecondPath := 1 }

end MpWebRtc
