import Mathlib.Tactic.Common
import MpWebRtc.Collector
import MpWebRtc.Math.Counting
import MpWebRtc.Packet

/-!
# Transport sequence numbers

`PacketRouter` gives every packet a global transport sequence number and a number for
the path it travels on. Path 1 carries ids up to 1 and id 4, path 2 carries ids 2 and
3. While the second path is closed everything travels on path 1, and the counter of
path 1 is then set to the global one. That is a jump whenever path 2 has been used
before; and a packet still labelled 2 or 3 has by then advanced the counter of path 2.
-/

namespace MpWebRtc

open Math Math.Run

/-- The three counters of `PacketRouter`. -/
structure PacketRouter where
  transportSeq : UInt64
  transportSeqP : UInt64 := 0
  transportSeqS : UInt64 := 0

namespace PacketRouter

/-- `PacketRouter(start_transport_seq)`. -/
def initial (startTransportSeq : UInt16) : PacketRouter where
  transportSeq := startTransportSeq.toUInt64

variable (c : Collector)

/-- The counter that the path id of a packet selects. -/
def numberByPath (r : PacketRouter) (p : Packet) : PacketRouter × Packet :=
  if c.redScheduling then (r, p.setMpTransportSequenceNumber r.transportSeq.toUInt16)
  else if p.subflowId ≤ 1 ∨ p.subflowId = 4 then
    ({ r with transportSeqP := r.transportSeqP + 1 },
      p.setMpTransportSequenceNumber (r.transportSeqP + 1).toUInt16)
  else if p.subflowId = 2 ∨ p.subflowId = 3 then
    ({ r with transportSeqS := r.transportSeqS + 1 },
      p.setMpTransportSequenceNumber (r.transportSeqS + 1).toUInt16)
  else (r, p)

/-- With the second path closed the counter of path 1 follows the global one. -/
def followGlobal (r : PacketRouter) (p : Packet) : PacketRouter × Packet :=
  if !c.mpIsSecondPathOpen && r.transportSeq != r.transportSeqP then
    ({ r with transportSeqP := r.transportSeq },
      p.setMpTransportSequenceNumber r.transportSeq.toUInt16)
  else (r, p)

/-- The numbering part of `PacketRouter::SendPacket`. -/
def sendPacket (r : PacketRouter) (p : Packet) : PacketRouter × Packet :=
  if p.transportSequenceNumber.isSome ∧ p.mpTransportSequenceNumber.isSome then
    let r := { r with transportSeq := r.transportSeq + 1 }
    let numbered := numberByPath c r (p.setTransportSequenceNumber r.transportSeq.toUInt16)
    followGlobal c numbered.1 numbered.2
  else (r, p)

end PacketRouter

variable (c : Collector)

/-- The router writes the transport extensions that are there, and nothing else. -/
theorem PacketRouter.sendPacket_packet (r : PacketRouter) (p : Packet) :
    ∃ transport mpTransport, (r.sendPacket c p).2 =
        { p with
          transportSequenceNumber := transport
          mpTransportSequenceNumber := mpTransport } ∧
      transport.isSome = p.transportSequenceNumber.isSome := by
  unfold sendPacket
  split
  · dsimp only [followGlobal, numberByPath, Packet.setTransportSequenceNumber,
      Packet.setMpTransportSequenceNumber]
    split_ifs <;> exact ⟨_, _, rfl, by simp⟩
  · exact ⟨_, _, rfl, rfl⟩

/-- The path a packet travels on, outside redundant scheduling. -/
def travelPath (p : Packet) : Nat :=
  if c.mpIsSecondPathOpen ∧ (p.subflowId = 2 ∨ p.subflowId = 3) then 2 else 1

/-- A packet reaches the router while the collector is in some state. -/
structure RoutedPacket where
  collector : Collector
  packet : Packet

variable (r : PacketRouter)

/-- One call of `SendPacket`, with the path the packet travels on. -/
def routerStep (sent : RoutedPacket) : PacketRouter × List (Nat × Packet) :=
  ((r.sendPacket sent.collector sent.packet).1,
    [(travelPath sent.collector sent.packet, (r.sendPacket sent.collector sent.packet).2)])

/-- The path transport number of a packet that travels on path `k`. -/
def transportNumberOn (k : Nat) (sent : Nat × Packet) : Option UInt16 :=
  if sent.1 = k then sent.2.mpTransportSequenceNumber else none

/-- A packet with both transport extensions and a path id, outside redundant
scheduling. -/
structure Numbered (sent : RoutedPacket) : Prop where
  transport : sent.packet.transportSequenceNumber.isSome
  mpTransport : sent.packet.mpTransportSequenceNumber.isSome
  pathId : sent.packet.subflowId ≤ 4
  notRed : ¬ sent.collector.schedulerMentions "red"

/-- While the second path is closed, the counter of path 1 agrees with the global one
and no packet is still labelled for path 2. -/
def KeepsPathCounters (sent : RoutedPacket) : Prop :=
  ¬ sent.collector.mpIsSecondPathOpen →
    r.transportSeq.toUInt16 = r.transportSeqP.toUInt16 ∧
      sent.packet.subflowId ≠ 2 ∧ sent.packet.subflowId ≠ 3

instance (r : PacketRouter) (sent : RoutedPacket) : Decidable (KeepsPathCounters r sent) :=
  inferInstanceAs (Decidable (_ → _))

/-- The next number of path `k`. -/
def PacketRouter.nextOn (k : Nat) (r : PacketRouter) : UInt16 :=
  (if k = 2 then r.transportSeqS else r.transportSeqP).toUInt16 + 1

section Step

variable {c : Collector} {r : PacketRouter} {p : Packet}

/-- A packet of path 1 takes the next number of path 1, provided that with the second
path closed the counter agrees with the global one. -/
theorem sendPacket_primary (numbered : Numbered ⟨c, p⟩)
    (primary : p.subflowId ≤ 1 ∨ p.subflowId = 4)
    (agree : ¬ c.mpIsSecondPathOpen → r.transportSeq.toUInt16 = r.transportSeqP.toUInt16) :
    (r.sendPacket c p).2.mpTransportSequenceNumber = some (r.nextOn 1) ∧
      (r.sendPacket c p).1.nextOn 1 = r.nextOn 1 + 1 ∧
      (r.sendPacket c p).1.nextOn 2 = r.nextOn 2 := by
  obtain ⟨transport, mpTransport, -, notRed⟩ := numbered
  obtain ⟨old, present⟩ := Option.isSome_iff_exists.mp mpTransport
  dsimp only at transport mpTransport notRed present
  simp only [PacketRouter.sendPacket, transport, mpTransport, and_self, ↓reduceIte,
    PacketRouter.numberByPath, Packet.setTransportSequenceNumber, primary, notRed,
    Collector.redScheduling, Bool.false_and, Bool.false_eq_true, PacketRouter.followGlobal]
  split
  · rename_i behind
    simp only [Bool.and_eq_true, Bool.not_eq_true'] at behind
    have equal := agree (by simp [behind.1])
    simp [PacketRouter.nextOn, Packet.setMpTransportSequenceNumber, present, equal]
  · simp [PacketRouter.nextOn, Packet.setMpTransportSequenceNumber, present]

/-- A packet of path 2 takes the next number of path 2 while that path is open. -/
theorem sendPacket_secondary (numbered : Numbered ⟨c, p⟩)
    (secondary : p.subflowId = 2 ∨ p.subflowId = 3) (isOpen : c.mpIsSecondPathOpen) :
    (r.sendPacket c p).2.mpTransportSequenceNumber = some (r.nextOn 2) ∧
      (r.sendPacket c p).1.nextOn 2 = r.nextOn 2 + 1 ∧
      (r.sendPacket c p).1.nextOn 1 = r.nextOn 1 := by
  obtain ⟨transport, mpTransport, -, notRed⟩ := numbered
  obtain ⟨old, present⟩ := Option.isSome_iff_exists.mp mpTransport
  dsimp only at transport mpTransport notRed present
  have notPrimary : ¬ (p.subflowId ≤ 1 ∨ p.subflowId = 4) := by omega
  simp [PacketRouter.sendPacket, transport, PacketRouter.numberByPath,
    Packet.setTransportSequenceNumber, notPrimary, secondary, notRed, Collector.redScheduling,
    PacketRouter.followGlobal, isOpen, PacketRouter.nextOn, Packet.setMpTransportSequenceNumber,
    present]

/-- One step advances exactly the counter of the path the packet travels on. -/
theorem routerStep_counts {k : Nat} (path : k = 1 ∨ k = 2) {sent : RoutedPacket}
    (numbered : Numbered sent) (keeps : KeepsPathCounters r sent) :
    Counts (· + 1) (r.nextOn k) ((routerStep r sent).2.filterMap (transportNumberOn k))
      ((routerStep r sent).1.nextOn k) := by
  obtain ⟨c, p⟩ := sent
  have bound : p.subflowId ≤ 4 := numbered.pathId
  by_cases primary : p.subflowId ≤ 1 ∨ p.subflowId = 4
  · obtain ⟨written, advanced, kept⟩ := sendPacket_primary numbered primary
      (r := r) fun closed => (keeps closed).1
    have travels : travelPath c p = 1 := if_neg (by omega)
    rcases path with rfl | rfl
    · simp [routerStep, travels, transportNumberOn, written, advanced]
    · simp [routerStep, travels, transportNumberOn, kept]
  · have secondary : p.subflowId = 2 ∨ p.subflowId = 3 := by omega
    have isOpen : c.mpIsSecondPathOpen := by
      by_contra closed
      obtain ⟨-, notSecond, notThird⟩ := keeps closed
      exact secondary.elim notSecond notThird
    obtain ⟨written, advanced, kept⟩ := sendPacket_secondary (r := r) numbered secondary isOpen
    have travels : travelPath c p = 2 := if_pos ⟨isOpen, secondary⟩
    rcases path with rfl | rfl
    · simp [routerStep, travels, transportNumberOn, kept]
    · simp [routerStep, travels, transportNumberOn, written, advanced]

end Step

/-- **Transport numbering.** In every run of packets outside redundant scheduling in
which closing the second path finds the counters of path 1 and of all packets in
agreement and no packet still labelled for path 2, the numbers of the packets
travelling on each path are consecutive. -/
theorem transport_numbers_consecutive (sent : List RoutedPacket)
    (numbered : ∀ packet ∈ sent, Numbered packet)
    (keeps : Along routerStep KeepsPathCounters r sent) :
    ∀ k, k = 1 ∨ k = 2 →
      ((outputs routerStep r sent).filterMap (transportNumberOn k)).IsChain
        fun earlier later => later = earlier + 1 := by
  intro k path
  have both : Along routerStep (fun r packet => Numbered packet ∧ KeepsPathCounters r packet)
      r sent := (along_of_forall_mem r numbered).and keeps
  have counts := both.counts (fun _ => True) (PacketRouter.nextOn k) (transportNumberOn k)
    (fun _ _ _ _ => trivial)
    (fun r packet _ legal => routerStep_counts path legal.1 legal.2) trivial
  exact counts.isChain

/-- A packet with this path id reaches the router. -/
def routedPacket (id : Nat) : RoutedPacket :=
  ⟨c, (videoPacket 1).label id 10⟩

theorem routedPacket_numbered {c : Collector} {id : Nat} (notRed : ¬ c.schedulerMentions "red")
    (bound : id ≤ 4) : Numbered (routedPacket c id) :=
  ⟨rfl, rfl, bound, notRed⟩

/-- The second path opens and is used, by media and by retransmissions. -/
def packetsWhileOpening : List RoutedPacket :=
  [routedPacket (Collector.initial 0 0) 1, routedPacket openRoundRobin 1,
    routedPacket openRoundRobin 2, routedPacket openRoundRobin 4, routedPacket openRoundRobin 3]

/-- Opening the second path leaves no gap. -/
theorem transport_numbers_consecutive_when_opened :
    (((outputs routerStep (PacketRouter.initial 0) packetsWhileOpening).filterMap
        (transportNumberOn 1)).IsChain fun earlier later => later = earlier + 1) ∧
      ((outputs routerStep (PacketRouter.initial 0) packetsWhileOpening).filterMap
        (transportNumberOn 2)).IsChain fun earlier later => later = earlier + 1 := by
  have numbered : ∀ packet ∈ packetsWhileOpening, Numbered packet := by
    simp only [packetsWhileOpening, List.forall_mem_cons, List.not_mem_nil, false_implies,
      implies_true, and_true]
    refine ⟨?_, ?_, ?_, ?_, ?_⟩ <;> exact routedPacket_numbered (by decide) (by decide)
  have consecutive := transport_numbers_consecutive (PacketRouter.initial 0) packetsWhileOpening
    numbered (by decide +kernel)
  exact ⟨consecutive 1 (.inl rfl), consecutive 2 (.inr rfl)⟩

/-- The second path is used and closes. -/
def packetsWhileClosing : List RoutedPacket :=
  [routedPacket openRoundRobin 1, routedPacket openRoundRobin 2,
    routedPacket (Collector.initial 0 0) 1]

/-- After path 2 has been used, closing it makes the numbers of path 1 jump. -/
theorem closing_skips_transport_number :
    (∀ packet ∈ packetsWhileClosing, Numbered packet) ∧
      ¬ ((outputs routerStep (PacketRouter.initial 0) packetsWhileClosing).filterMap
        (transportNumberOn 1)).IsChain fun earlier later => later = earlier + 1 := by
  refine ⟨?_, by decide +kernel⟩
  simp only [packetsWhileClosing, List.forall_mem_cons, List.not_mem_nil, false_implies,
    implies_true, and_true]
  refine ⟨?_, ?_, ?_⟩ <;> exact routedPacket_numbered (by decide) (by decide)

end MpWebRtc
