import Mathlib.Data.List.Sort
import MpWebRtc.Unwrapper

/-!
# Transport feedback

`TransportFeedbackDemuxer` remembers for each path which packet was sent under which
transport number of the path. The receiver reports these numbers; the demuxer turns a
report back into the streams and the packet numbers, for `RtpVideoSender` to act upon.
The 16-bit numbers are extended by an unwrapper that both paths share.
-/

namespace MpWebRtc

open Math.Serial

def kMaxPacketsInHistory : Nat := 5000

/-- `RtpPacketSendInfo`, as far as the demuxer reads it. -/
structure PacketSendInfo where
  ssrc : Nat
  rtpSequenceNumber : UInt16
  mpTransportSequenceNumber : UInt16
  mpRtpSequenceNumber : UInt16
  pathid : Nat

/-- `StreamPacketInfo`. The path is known once the packet is reported. -/
structure StreamPacketInfo where
  ssrc : Nat
  rtpSequenceNumber : UInt16
  mpRtpSequenceNumber : UInt16
  pathid : Option Nat := none
  received : Bool := false
  deriving DecidableEq

/-- What is remembered of a packet. -/
def PacketSendInfo.streamInfo (info : PacketSendInfo) : StreamPacketInfo where
  ssrc := info.ssrc
  rtpSequenceNumber := info.rtpSequenceNumber
  mpRtpSequenceNumber := info.mpRtpSequenceNumber

/-- A `std::map` from unwrapped numbers, as a list in key order. -/
abbrev SentMap := List (Int × StreamPacketInfo)

namespace SentMap

variable (map : SentMap)

/-- `insert`, which keeps an existing entry. -/
def insert (key : Int) (info : StreamPacketInfo) : SentMap :=
  if map.any (·.1 == key) then map
  else List.orderedInsert (fun a b => a.1 ≤ b.1) (key, info) map

/-- `find`. -/
def find (map : SentMap) (key : Int) : Option StreamPacketInfo :=
  (List.find? (·.1 == key) map).map (·.2)

/-- `erase`. -/
def erase (key : Int) : SentMap := List.filter (·.1 != key) map

/-- Drop the smallest keys while there are too many entries. -/
def trim : SentMap := List.drop (map.length - kMaxPacketsInHistory) map

theorem mem_of_mem_insert {map : SentMap} {key : Int} {info : StreamPacketInfo}
    {entry : Int × StreamPacketInfo} (member : entry ∈ map.insert key info) :
    entry ∈ map ∨ entry = (key, info) := by
  unfold insert at member
  split at member
  · exact .inl member
  · rw [List.mem_orderedInsert] at member
    exact member.symm

theorem mem_of_find {map : SentMap} {key : Int} {info : StreamPacketInfo}
    (found : map.find key = some info) : (key, info) ∈ map := by
  unfold find at found
  obtain ⟨entry, isFound, rfl⟩ := Option.map_eq_some_iff.mp found
  have same : entry.1 = key := by simpa using List.find?_some isFound
  rw [← same]
  exact List.mem_of_find?_eq_some isFound

end SentMap

/-- `TransportFeedbackDemuxer`. -/
structure FeedbackDemuxer where
  lastValue : Option Int := none
  history : SentMap := []
  historyS : SentMap := []

namespace FeedbackDemuxer

/-- The map of a path. -/
def historyOf (d : FeedbackDemuxer) (pathid : Nat) : SentMap :=
  if pathid ≠ 2 then d.history else d.historyS

/-- Replace the map of a path. -/
def setHistory (d : FeedbackDemuxer) (pathid : Nat) (map : SentMap) : FeedbackDemuxer :=
  if pathid ≠ 2 then { d with history := map } else { d with historyS := map }

/-- `AddPacket`. -/
def addPacket (d : FeedbackDemuxer) (info : PacketSendInfo) : FeedbackDemuxer :=
  let added :=
    if info.ssrc ≠ 0 then
      let key := unwrapWithoutUpdate d.lastValue info.mpTransportSequenceNumber
      let d := { d with lastValue := some key }
      d.setHistory info.pathid ((d.historyOf info.pathid).insert key info.streamInfo)
    else d
  added.setHistory info.pathid (added.historyOf info.pathid).trim

/-- One packet of a feedback message: the report for the stream, if the packet is
known. Received packets are forgotten. -/
def reportPacket (pathid : Nat) (d : FeedbackDemuxer) (packet : UInt16 × Bool) :
    FeedbackDemuxer × List StreamPacketInfo :=
  let key := unwrapWithoutUpdate d.lastValue packet.1
  match (d.historyOf pathid).find key with
  | none => (d, [])
  | some info =>
      (if packet.2 then d.setHistory pathid ((d.historyOf pathid).erase key) else d,
        [{ info with received := packet.2, pathid := some pathid }])

variable {d : FeedbackDemuxer}

theorem historyOf_setHistory (d : FeedbackDemuxer) (j k : Nat) (map : SentMap) :
    (d.setHistory j map).historyOf k = if (j = 2 ↔ k = 2) then map else d.historyOf k := by
  unfold setHistory historyOf
  by_cases first : j = 2 <;> by_cases second : k = 2 <;> simp [first, second]

theorem historyOf_congr (d : FeedbackDemuxer) {j k : Nat} (same : j = 2 ↔ k = 2) :
    d.historyOf j = d.historyOf k := by
  simp [historyOf, same]

variable {entry : Int × StreamPacketInfo}

/-- A record enters the map of its path, under a number that unwraps its own. -/
theorem mem_of_mem_addPacket {info : PacketSendInfo} {k : Nat}
    (member : entry ∈ (d.addPacket info).historyOf k) :
    entry ∈ d.historyOf k ∨
      ((info.pathid = 2 ↔ k = 2) ∧
        entry.1 % 65536 = info.mpTransportSequenceNumber.toNat ∧
        entry.2 = info.streamInfo) := by
  unfold addPacket at member
  dsimp only at member
  rw [historyOf_setHistory] at member
  have reached : entry ∈ (if info.ssrc ≠ 0 then
      ({ d with lastValue := some (unwrapWithoutUpdate d.lastValue
          info.mpTransportSequenceNumber) } : FeedbackDemuxer).setHistory info.pathid
        ((d.historyOf info.pathid).insert
          (unwrapWithoutUpdate d.lastValue info.mpTransportSequenceNumber) info.streamInfo)
      else d).historyOf k := by
    split at member
    · rename_i same
      rw [← historyOf_congr _ same]
      exact List.mem_of_mem_drop member
    · exact member
  split at reached
  · rw [historyOf_setHistory] at reached
    split at reached
    · rename_i same
      rcases SentMap.mem_of_mem_insert reached with kept | rfl
      · exact .inl (historyOf_congr d same ▸ kept)
      · exact .inr ⟨same, unwrapWithoutUpdate_emod _ _, rfl⟩
    · exact .inl reached
  · exact .inl reached

variable {packet : UInt16 × Bool}

theorem mem_of_mem_reportPacket {pathid k : Nat}
    (member : entry ∈ (d.reportPacket pathid packet).1.historyOf k) : entry ∈ d.historyOf k := by
  unfold reportPacket at member
  dsimp only at member
  split at member
  · exact member
  · dsimp only at member
    split at member
    · rw [historyOf_setHistory] at member
      split at member
      · next same => exact historyOf_congr d same ▸ List.mem_of_mem_filter member
      · exact member
    · exact member

/-- A report is about a packet in the map of the path, under the reported number. -/
theorem mem_of_reported {pathid : Nat} {info : StreamPacketInfo}
    (reported : info ∈ (d.reportPacket pathid packet).2) :
    info.received = packet.2 ∧ ∃ entry ∈ d.historyOf pathid,
      entry.1 % 65536 = packet.1.toNat ∧ entry.2.ssrc = info.ssrc ∧
        entry.2.mpRtpSequenceNumber = info.mpRtpSequenceNumber := by
  unfold reportPacket at reported
  dsimp only at reported
  split at reported
  · simp at reported
  · rename_i known found
    rw [List.mem_singleton] at reported
    subst reported
    exact ⟨rfl, _, SentMap.mem_of_find found, unwrapWithoutUpdate_emod _ _, rfl, rfl⟩

end FeedbackDemuxer

/-- The numbers acknowledged for our stream. -/
def ackedPackets (ssrc : Nat) (infos : List StreamPacketInfo) : List UInt16 :=
  (infos.filter fun info => info.received && info.ssrc == ssrc).map (·.mpRtpSequenceNumber)

/-- The numbers reported as lost with nothing received behind them. -/
def earlyLosses (infos : List StreamPacketInfo) : List UInt16 :=
  infos.foldl
    (fun lost info => if info.received then [] else lost ++ [info.mpRtpSequenceNumber]) []

end MpWebRtc
