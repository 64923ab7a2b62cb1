import MpWebRtc.Receiver.InOrder

/-!
# Receiving every packet on both connections

Under redundant scheduling a packet of path 1 arrives once over each connection, and
the second arrival is one the NACK module has heard of. It is recognised as old as long
as the slower connection is less than half the number space behind.
-/

namespace MpWebRtc

open Math.Run Math.Serial

/-- The packet as it arrives over connection `k`. -/
def ReceivedPacket.over (p : ReceivedPacket) (k : Nat) : ReceivedPacket := { p with pathid := k }

variable (events : List ReceiverEvent)

/-- At no point is one connection half the number space behind the other. -/
def SmallSkew : Prop :=
  ∀ earlier later, events = earlier ++ later →
    (arrivedOn 1 earlier).length < (arrivedOn 2 earlier).length + 32768 ∧
      (arrivedOn 2 earlier).length < (arrivedOn 1 earlier).length + 32768

/-- How far the faster connection has got. -/
def furthest : Nat :=
  max (arrivedOn 1 events).length (arrivedOn 2 events).length

/-- Consecutive numbers are as far apart as their positions. -/
theorem forwardDiff_of_isChain {numbers : List UInt16}
    (consecutive : numbers.IsChain fun earlier later => later = earlier + 1) {i d : Nat}
    (short : d < 65536) (inRange : i + d < numbers.length) :
    (forwardDiff numbers[i] numbers[i + d]).toNat = d := by
  induction d with
  | zero => simp [forwardDiff]
  | succ d ih =>
      have before := ih (by omega) (by omega)
      have last : (forwardDiff numbers[i + d] numbers[i + d + 1]).toNat = 1 := by
        rw [consecutive.getElem (i + d) inRange]
        exact forwardDiff_succ _
      change (forwardDiff numbers[i] numbers[i + d + 1]).toNat = d + 1
      rw [forwardDiff_add _ numbers[i + d] _ (by omega), before, last]

section Delivery

variable {cfg : StreamConfig} {stream : List ReceivedPacket}

/-- The packets of a redundant stream: numbered on path 1, consecutively. -/
structure RedundantStream (cfg : StreamConfig) (stream : List ReceivedPacket) : Prop where
  accepted : ∀ p ∈ stream, Accepted cfg p
  notCopy : ∀ p ∈ stream, p.payloadType ≠ kDupPayloadType
  pathid : ∀ p ∈ stream, p.pathid = 1
  sandy : ∀ p ∈ stream, p.sandy = some 1
  consecutive : (stream.map (·.headerSeqNum)).IsChain fun earlier later => later = earlier + 1

/-- The newest number heard of after `n` packets. -/
def newestOf (stream : List ReceivedPacket) (n : Nat) : Nat → Option UInt16 :=
  Function.update (fun _ => none) 1 ((stream.take n).map (·.headerSeqNum)).getLast?

theorem newestOf_succ {n : Nat} (inRange : n < stream.length) :
    newestOf stream (n + 1) = Function.update (newestOf stream n) 1
    (some stream[n].headerSeqNum) := by
  unfold newestOf
  rw [Function.update_idem, List.take_succ_eq_append_getElem inRange, List.map_append]
  simp

variable {p : ReceivedPacket}

theorem resolvePath_over (redundant : RedundantStream cfg stream)
    (member : p ∈ stream) {k : Nat} (path : k = 1 ∨ k = 2) : resolvePath (p.over k) = p := by
  have first := redundant.pathid p member
  have label := redundant.sandy p member
  obtain ⟨pathid, ssrc, sequenceNumber, payloadType, payload, sandy, mpFlowSeqNum, recovered⟩ := p
  dsimp only at first label
  subst first label
  rcases path with rfl | rfl <;> rfl

theorem deliverRtp_over (redundant : RedundantStream cfg stream)
    (member : p ∈ stream) {k : Nat} (path : k = 1 ∨ k = 2) (now : Int) (r : VideoReceiver)
    (answers : ParserAnswers) :
    deliverRtp cfg now r (p.over k) answers = r.onRtpPacket cfg now p answers := by
  rw [deliverRtp, resolvePath_over redundant member path,
    mediaOf_accepted (redundant.accepted p member)]

variable {answers : ParserAnswers} {now : Int}

/-- One arrival keeps the receiver quiet: the packet is the next one of the stream, or
one that is not ahead of the newest. -/
theorem VideoReceiver.Quiet.deliver_over (redundant : RedundantStream cfg stream) {n i : Nat}
    {r : VideoReceiver} (quiet : r.Quiet (newestOf stream n)) (inRange : i < stream.length)
    (reached : n ≤ stream.length) (behind : i ≤ n) (skew : n < i + 32768) {k : Nat}
    (path : k = 1 ∨ k = 2)
    (read : (ReceiverEvent.deliver now (stream[i].over k) answers).Read cfg) :
    (deliverRtp cfg now r (stream[i].over k) answers).1.Quiet
        (newestOf stream (max n (i + 1))) ∧
      (deliverRtp cfg now r (stream[i].over k) answers).2 = [] := by
  have member : stream[i] ∈ stream := List.getElem_mem inRange
  have accepted := redundant.accepted _ member
  have primary : stream[i].headerPath = 1 := by
    simp [ReceivedPacket.headerPath, redundant.sandy _ member]
  obtain ⟨noticed, alone⟩ := read (redundant.notCopy stream[i] member)
  rw [resolvePath_over redundant member path] at noticed alone
  rw [deliverRtp_over redundant member path]
  rcases Nat.lt_or_eq_of_le behind with older | rfl
  · obtain ⟨m, rfl⟩ : ∃ m, n = m + 1 := ⟨n - 1, by omega⟩
    have heard : newestOf stream (m + 1) stream[i].headerPath = some stream[m].headerSeqNum := by
      rw [newestOf_succ (by omega), primary, Function.update_self]
    have distance := forwardDiff_of_isChain redundant.consecutive (i := i) (d := m - i)
      (by omega) (by simp only [List.length_map]; omega)
    simp only [Nat.add_sub_cancel' (Nat.le_of_lt_succ older), List.getElem_map] at distance
    rw [Nat.max_eq_left older]
    refine (VideoReceiver.Quiet.telling_stale cfg now (.inl primary) heard ?_).onRtpPacket alone
      noticed quiet
    rcases Nat.lt_or_eq_of_le (Nat.le_of_lt_succ older) with strictly | rfl
    · exact .inr (aheadOf_of_forwardDiff (by omega) (by omega))
    · exact .inl rfl
  · rw [Nat.max_eq_right (Nat.le_succ i), newestOf_succ inRange, ← primary]
    refine (VideoReceiver.Quiet.telling_next cfg now accepted (.inl primary) ?_).onRtpPacket alone
      noticed quiet
    rw [primary]
    intro number newest
    cases i with
    | zero => simp [newestOf] at newest
    | succ i =>
        rw [newestOf_succ (by omega), Function.update_self, Option.mem_def,
          Option.some.injEq] at newest
        have successor := redundant.consecutive.getElem i (by simpa using inRange)
        rw [List.getElem_map, List.getElem_map] at successor
        rw [← newest, successor]

theorem arrivedOn_append (k : Nat) (earlier later : List ReceiverEvent) :
    arrivedOn k (earlier ++ later) = arrivedOn k earlier ++ arrivedOn k later :=
  List.filterMap_append

theorem arrivedOn_deliver (k : Nat) (now : Int) (p : ReceivedPacket) (answers : ParserAnswers) :
    arrivedOn k [.deliver now p answers] = if p.pathid = k then [p] else [] := by
  by_cases same : p.pathid = k <;> simp [arrivedOn, same]

variable {earlier later : List ReceiverEvent}

theorem InOrderDelivery.of_append {sent : Nat → List ReceivedPacket}
    (delivery : InOrderDelivery sent (earlier ++ later)) :
    InOrderDelivery sent earlier := by
  refine ⟨fun now p dec member => delivery.paths now p dec (List.mem_append_left _ member), ?_⟩
  intro k
  have arrived := delivery.inOrder k
  rw [arrivedOn_append] at arrived
  exact (List.prefix_append ..).trans arrived

theorem SmallSkew.of_append (skew : SmallSkew (earlier ++ later)) : SmallSkew earlier := by
  intro first second split
  exact skew first (second ++ later) (by rw [split, List.append_assoc])

/-- An arrival over connection `k` is the packet of the stream that is next there. -/
theorem InOrderDelivery.arrival {earlier : List ReceiverEvent}
    (delivery : InOrderDelivery (fun k => stream.map (·.over k))
      (earlier ++ [.deliver now p answers])) :
    ∃ inRange : (arrivedOn p.pathid earlier).length < stream.length,
      p = (stream[(arrivedOn p.pathid earlier).length]).over p.pathid := by
  obtain ⟨suffix, whole⟩ := delivery.inOrder p.pathid
  rw [arrivedOn_append, arrivedOn_deliver, if_pos rfl] at whole
  have size := congrArg List.length whole
  simp only [List.length_append, List.length_singleton, List.length_map] at size
  refine ⟨by omega, ?_⟩
  have at_position := congrArg (·[(arrivedOn p.pathid earlier).length]?) whole
  simp only [List.append_assoc, List.getElem?_append_right (Nat.le_refl _), Nat.sub_self,
    List.singleton_append, List.getElem?_cons_zero, List.getElem?_map,
    List.getElem?_eq_getElem (show (arrivedOn p.pathid earlier).length < stream.length by omega),
    Option.map_some, Option.some.injEq] at at_position
  exact at_position

theorem furthest_append_deliver (earlier : List ReceiverEvent)
    (path : p.pathid = 1 ∨ p.pathid = 2) :
    furthest (earlier ++ [.deliver now p answers]) =
      max (furthest earlier) ((arrivedOn p.pathid earlier).length + 1) := by
  unfold furthest
  rw [arrivedOn_append, arrivedOn_append, arrivedOn_deliver, arrivedOn_deliver,
    List.length_append, List.length_append]
  rcases path with first | second
  · rw [first, if_pos rfl, if_neg (by decide), List.length_singleton, List.length_nil]
    omega
  · rw [second, if_pos rfl, if_neg (by decide), List.length_singleton, List.length_nil]
    omega

/-- **Quiet redundant delivery.** If every packet of a consecutively numbered stream is
sent over both connections, an in-order delivery with little skew leaves nothing missing
and sends no feedback. -/
theorem quiet_of_redundantDelivery (redundant : RedundantStream cfg stream)
    (events : List ReceiverEvent)
    (delivery : InOrderDelivery (fun k => stream.map (·.over k)) events)
    (read : ∀ event ∈ events, event.Read cfg) (skew : SmallSkew events) :
    (finalState (receiverStep cfg) {} events).Quiet (newestOf stream (furthest events)) ∧
      outputs (receiverStep cfg) {} events = [] := by
  induction events using List.reverseRecOn with
  | nil => exact ⟨⟨⟨rfl, rfl, by simp [newestOf, furthest, arrivedOn]⟩,
      ⟨rfl, rfl, by simp [newestOf]⟩, rfl, rfl, rfl⟩, rfl⟩
  | append_singleton earlier event ih =>
      rw [List.forall_mem_append, List.forall_mem_singleton] at read
      obtain ⟨quiet, nothing⟩ := ih delivery.of_append read.1 skew.of_append
      rw [finalState_append, outputs_append, nothing, List.nil_append, outputs_cons, outputs_nil,
        List.append_nil, finalState_cons, finalState_nil]
      cases event with
      | timer now pathid =>
          rw [show furthest (earlier ++ [.timer now pathid]) = furthest earlier by
            simp [furthest, arrivedOn]]
          exact quiet.timer cfg now pathid
      | updateRtt rttMs =>
          rw [show furthest (earlier ++ [.updateRtt rttMs]) = furthest earlier by
            simp [furthest, arrivedOn]]
          exact ⟨quiet.updateRtt cfg rttMs, rfl⟩
      | deliver now p answers =>
          have path := delivery.paths now p answers (by simp)
          obtain ⟨inRange, isNext⟩ := delivery.arrival
          have first := (delivery.of_append.inOrder 1).length_le
          have second := (delivery.of_append.inOrder 2).length_le
          have close := skew earlier _ rfl
          rw [List.length_map] at first second
          have bounds : furthest earlier ≤ stream.length ∧
              (arrivedOn p.pathid earlier).length ≤ furthest earlier ∧
              furthest earlier < (arrivedOn p.pathid earlier).length + 32768 := by
            unfold furthest
            rcases path with one | two
            · rw [one]
              omega
            · rw [two]
              omega
          rw [furthest_append_deliver earlier path]
          have isRead := read.2
          rw [isNext] at isRead
          have arrived := quiet.deliver_over redundant inRange bounds.1 bounds.2.1 bounds.2.2 path
            isRead
          rw [← isNext] at arrived
          exact arrived

end Delivery

end MpWebRtc
