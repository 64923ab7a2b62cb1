import Mathlib.Algebra.Order.Ring.Int
import Mathlib.Tactic.SplitIfs
import MpWebRtc.Math.Checked

/-!
# The bitrate prober

`BitrateProber` holds the clusters of probes that are to be sent, and when the next probe is due.
Sizes are in bytes, rates in bits a second and times in microseconds; all of them are integers that
fit the types of the source.
-/

namespace MpWebRtc.Pacing

open Math.Checked

/-- What ends a call of the pacer early: an `RTC_CHECK` fails or a divisor is zero. -/
inductive PacerFault
  | checkFailed
  | divisionByZero
  deriving DecidableEq

/-- The result of an operation that may fail one of its `RTC_CHECK`s. -/
def checked {Value : Type} : Option Value → Except PacerFault Value
  | none => .error .checkFailed
  | some value => .ok value

section Units

/-- `DataRate * TimeDelta`. -/
def dataAt (rate duration : Int) : Int := (rate * duration + 4000000).tdiv 8000000

/-- `DataSize / DataRate`. -/
def timeFor (size rate : Int) : Except PacerFault Int :=
  if rate = 0 then .error .divisionByZero else .ok ((size * 8000000).tdiv rate)

/-- `ms()` and `kbps()`. -/
def toThousands (value : Int) : Int :=
  (value + if 0 ≤ value then 500 else -500).tdiv 1000

theorem timeFor_ok {rate : Int} (positive : 0 < rate) (size : Int) :
    timeFor size rate = .ok ((size * 8000000).tdiv rate) := if_neg positive.ne'

end Units

/-- `Timestamp`. -/
inductive Timestamp
  | minusInfinity
  | finite (us : Int)
  | plusInfinity
  deriving DecidableEq

/-- `PacedPacketInfo`. -/
structure PacedPacketInfo where
  sendBitrateBps : Int := -1
  probeClusterId : Int := -1
  probeClusterMinProbes : Int := -1
  probeClusterMinBytes : Int := -1
  probeClusterBytesSent : Int := 0

/-- `kNotAProbe`. -/
def kNotAProbe : Int := -1

/-- `ProbeCluster`. -/
structure ProbeCluster where
  paceInfo : PacedPacketInfo
  sentProbes : Int := 0
  sentBytes : Int := 0
  createdAt : Int
  startedAt : Option Int := none

/-- `ProbingState`. -/
inductive ProbingState
  | disabled
  | inactive
  | active
  | suspended
  deriving DecidableEq

/-- `BitrateProber`, with the parameters of its configuration that are read here. -/
structure BitrateProber where
  minProbePacketsSent : Int := 5
  minProbeDelta : Int := 1000
  minProbeDuration : Int := 15000
  maxProbeDelay : Int := 3000
  probingState : ProbingState := .inactive
  clusters : List ProbeCluster := []
  nextProbeTime : Timestamp := .plusInfinity

namespace BitrateProber

def kMinProbePacketSize : Int := 200

variable (prober : BitrateProber)

/-- `is_probing`. -/
def isProbing : Bool := prober.probingState = .active

/-- `RecommendedMinProbeSize`, for the front cluster. -/
def recommendedMinProbeSize (cluster : ProbeCluster) : Int :=
  (cluster.paceInfo.sendBitrateBps * 2 * toThousands prober.minProbeDelta).tdiv (8 * 1000)

/-- `OnIncomingPacket`. The comparison is of unsigned sizes. -/
def onIncomingPacket (packetSize : Nat) : BitrateProber :=
  match prober.clusters with
  | [] => prober
  | cluster :: _ =>
      if prober.probingState = .inactive ∧
          min (prober.recommendedMinProbeSize cluster % 2 ^ 64) kMinProbePacketSize ≤ packetSize then
        { prober with nextProbeTime := .minusInfinity, probingState := .active }
      else prober

/-- `NextProbeTime`. -/
def nextProbeTimeAt (now : Int) : Timestamp :=
  if prober.probingState ≠ .active ∨ prober.clusters = [] then .plusInfinity
  else
    match prober.nextProbeTime with
    | .finite time => if now - time > prober.maxProbeDelay then .plusInfinity else .finite time
    | infinite => infinite

variable (cluster : ProbeCluster)

/-- `CurrentCluster`, for the front cluster. -/
def currentCluster : PacedPacketInfo :=
  { cluster.paceInfo with probeClusterBytesSent := cluster.sentBytes }

/-- `CalculateNextProbeTime`. -/
def calculateNextProbeTime : Except PacerFault Int :=
  if cluster.paceInfo.sendBitrateBps ≤ 0 then .error .checkFailed
  else do
    let startedAt ← checked cluster.startedAt
    let delta ← timeFor cluster.sentBytes cluster.paceInfo.sendBitrateBps
    return startedAt + delta

/-- The front cluster once a probe of it was sent. -/
def sentFrom (now bytes : Int) (cluster : ProbeCluster) : ProbeCluster :=
  { cluster with
    startedAt := if cluster.sentProbes = 0 then some now else cluster.startedAt
    sentBytes := cluster.sentBytes + bytes
    sentProbes := cluster.sentProbes + 1 }

/-- `ProbeSent`. -/
def probeSent (now bytes : Int) : Except PacerFault BitrateProber :=
  match prober.clusters with
  | [] => .ok prober
  | front :: rest => do
      let cluster := sentFrom now bytes front
      let next ← calculateNextProbeTime cluster
      let clusters :=
        if cluster.paceInfo.probeClusterMinBytes ≤ cluster.sentBytes ∧
            cluster.paceInfo.probeClusterMinProbes ≤ cluster.sentProbes then rest
        else cluster :: rest
      return { prober with
        nextProbeTime := .finite next
        clusters := clusters
        probingState := if clusters = [] then .suspended else prober.probingState }

/-- `CreateProbeCluster`. -/
def createProbeCluster (bitrate now clusterId : Int) : BitrateProber :=
  let cluster : ProbeCluster :=
    { paceInfo :=
        { sendBitrateBps := bitrate
          probeClusterId := clusterId
          probeClusterMinProbes := prober.minProbePacketsSent
          probeClusterMinBytes := dataAt bitrate prober.minProbeDuration }
      createdAt := now }
  { prober with
    clusters := (prober.clusters.dropWhile fun old =>
      decide (now - old.createdAt > 5000000)) ++ [cluster]
    probingState := if prober.probingState = .active then .active else .inactive }

/-- `SetEnabled`. -/
def setEnabled (enable : Bool) : BitrateProber :=
  if enable then
    if prober.probingState = .disabled then { prober with probingState := .inactive } else prober
  else { prober with probingState := .disabled }

/-- Whoever probes has a cluster, the bitrates are above zero, and a cluster of which something was
sent has a start. -/
structure Ready : Prop where
  active : prober.probingState = .active → prober.clusters ≠ []
  bitrates : ∀ cluster ∈ prober.clusters, 0 < cluster.paceInfo.sendBitrateBps
  started : ∀ cluster ∈ prober.clusters, cluster.sentProbes ≠ 0 → cluster.startedAt.isSome

variable {prober}

theorem Ready.onIncomingPacket (ready : prober.Ready) (packetSize : Nat) :
    (prober.onIncomingPacket packetSize).Ready := by
  unfold BitrateProber.onIncomingPacket
  split
  · exact ready
  · rename_i cluster rest shape
    split_ifs
    · refine ⟨fun _ none => ?_, ready.bitrates, ready.started⟩
      rw [shape] at none
      cases none
    · exact ready

theorem onIncomingPacket_eq_of_active (active : prober.probingState = .active) (packetSize : Nat) :
    prober.onIncomingPacket packetSize = prober := by
  unfold BitrateProber.onIncomingPacket
  split
  · rfl
  · refine if_neg ?_
    rw [active]
    exact fun both => nomatch both.1

/-- Behind a probe the front cluster has a start, and the next probe a time. -/
theorem calculateNextProbeTime_ok {front : ProbeCluster}
    (positive : 0 < front.paceInfo.sendBitrateBps)
    (begun : front.sentProbes ≠ 0 → front.startedAt.isSome) (now bytes : Int) :
    (sentFrom now bytes front).startedAt.isSome ∧
      ∃ time, calculateNextProbeTime (sentFrom now bytes front) = .ok time := by
  have hasStart : (sentFrom now bytes front).startedAt.isSome := by
    unfold sentFrom
    dsimp only
    split_ifs with first
    · rfl
    · exact begun first
  obtain ⟨start, isStart⟩ := Option.isSome_iff_exists.mp hasStart
  obtain ⟨delta, divided⟩ :
      ∃ delta, timeFor (front.sentBytes + bytes) front.paceInfo.sendBitrateBps = .ok delta :=
    ⟨_, timeFor_ok positive _⟩
  refine ⟨hasStart, start + delta, (if_neg (not_le.mpr positive)).trans ?_⟩
  rw [isStart]
  exact bind_eq_ok_iff.mpr ⟨start, rfl, bind_eq_ok_iff.mpr ⟨delta, divided, rfl⟩⟩

theorem Ready.probeSent (ready : prober.Ready) (now bytes : Int) :
    ∃ next, prober.probeSent now bytes = .ok next ∧ next.Ready ∧
      (next.probingState = .active → prober.probingState = .active) := by
  unfold BitrateProber.probeSent
  split
  · exact ⟨prober, rfl, ready, id⟩
  · rename_i front rest shape
    have bitrates := ready.bitrates
    have started := ready.started
    rw [shape] at bitrates started
    obtain ⟨positive, bitrates'⟩ := List.forall_mem_cons.mp bitrates
    obtain ⟨begun, started'⟩ := List.forall_mem_cons.mp started
    obtain ⟨hasStart, time, due⟩ := calculateNextProbeTime_ok positive begun now bytes
    refine ⟨_, bind_eq_ok_iff.mpr ⟨time, due, rfl⟩, ⟨?_, ?_, ?_⟩, ?_⟩
    · intro active none
      dsimp only at active none
      rw [none] at active
      cases active
    · dsimp only
      split_ifs
      · exact bitrates'
      · exact List.forall_mem_cons.mpr ⟨positive, bitrates'⟩
    · dsimp only
      split_ifs
      · exact started'
      · exact List.forall_mem_cons.mpr ⟨fun _ => hasStart, started'⟩
    · dsimp only
      intro active
      split_ifs at active <;> exact active

theorem Ready.setEnabled (ready : prober.Ready) (enable : Bool) :
    (prober.setEnabled enable).Ready := by
  unfold BitrateProber.setEnabled
  split_ifs
  · exact ⟨nofun, ready.bitrates, ready.started⟩
  · exact ready
  · exact ⟨nofun, ready.bitrates, ready.started⟩

theorem Ready.createProbeCluster (ready : prober.Ready) {bitrate : Int} (positive : 0 < bitrate)
    (now clusterId : Int) : (prober.createProbeCluster bitrate now clusterId).Ready := by
  refine ⟨fun _ => List.append_ne_nil_of_right_ne_nil _ (List.cons_ne_nil _ _), ?_, ?_⟩
  · intro cluster member
    rcases List.mem_append.mp member with old | new
    · exact ready.bitrates cluster ((List.dropWhile_sublist _).subset old)
    · rw [List.mem_singleton.mp new]
      exact positive
  · intro cluster member
    rcases List.mem_append.mp member with old | new
    · exact ready.started cluster ((List.dropWhile_sublist _).subset old)
    · rw [List.mem_singleton.mp new]
      exact fun sent => absurd rfl sent

end BitrateProber

end MpWebRtc.Pacing
