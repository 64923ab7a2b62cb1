import MpWebRtc.Receiver.ArrivalWindow

/-!
# Every arrival is reported

In periodic mode the proxy reports, at every call of `Process` but the first, what has
arrived on each path since. This is so as long as every packet arrives in the epoch of its
path: the unwrapper, which both paths share, places its number less than half a circle from
the newest one of its own path. A number that is unwrapped relative to one of the other
path may end up an epoch away; the window of its path then moves past packets that were
not reported, or a message cannot be built.
-/

namespace MpWebRtc

open Math Math.Serial Math.Run

section Runs

/-- A packet that has both extensions and asks for no feedback, with its number on its path before
that is cut to 16 bits. -/
structure Arrival where
  sandy : UInt8
  number : Int
  arrivalTimeMs : Int
  ssrc : UInt32 := 0

/-- The path of the packet. -/
def Arrival.pathid (arrival : Arrival) : Int32 := EstimatorProxy.pathOfSandy arrival.sandy

/-- An event of the proxy, with the number of its packet. -/
abbrev NumberedEvent := ProxyEvent × Int

/-- The packet as the proxy sees it. -/
def Arrival.event (arrival : Arrival) : NumberedEvent :=
  (.incomingPacket arrival.arrivalTimeMs
    ⟨arrival.ssrc, some arrival.sandy, some (wrap arrival.number), none⟩, arrival.number)

namespace EstimatorProxy

/-- One event. -/
def numberedStep (proxy : EstimatorProxy) (event : NumberedEvent) :
    EstimatorProxy × List SentFeedback :=
  proxy.step event.1

/-- The packet arrives in the epoch of its path: shifted by the multiple of 2^16 of its
path, its number is less than half a circle from the number that was unwrapped before it
on either path, and from the newest one of its own. -/
def InEpoch (epoch : Int32 → Int) (proxy : EstimatorProxy) (arrival : Arrival) : Prop :=
  (0 ≤ arrival.arrivalTimeMs ∧ arrival.arrivalTimeMs ≤ kMaxTimeMs) ∧
  (-2 ^ 31 ≤ arrival.number + epoch arrival.pathid ∧
    arrival.number + epoch arrival.pathid < 2 ^ 31) ∧
  (if proxy.unwrapper.lastValue = none then
    0 ≤ arrival.number + epoch arrival.pathid ∧ arrival.number + epoch arrival.pathid < 65536
  else
    proxy.unwrapper.lastUnwrapped - (arrival.number + epoch arrival.pathid) < 32768 ∧
      arrival.number + epoch arrival.pathid - proxy.unwrapper.lastUnwrapped < 32768) ∧
  (proxy.path arrival.pathid).follows (arrival.number + epoch arrival.pathid)

instance (epoch : Int32 → Int) (proxy : EstimatorProxy) (arrival : Arrival) :
    Decidable (InEpoch epoch proxy arrival) :=
  inferInstanceAs (Decidable (_ ∧ _ ∧ _ ∧ _))

/-- A packet has both extensions, asks for no feedback and arrives in the epoch of its path, and the
mode stays periodic. -/
def Placed (epoch : Int32 → Int) (proxy : EstimatorProxy) : (event : NumberedEvent) → Prop
  | (.incomingPacket arrivalTimeMs header, number) =>
      match header.sandy with
      | none => False
      | some sandy =>
          header.mpTransportSequenceNumber = some (wrap number) ∧ header.feedbackRequest = none ∧
            InEpoch epoch proxy ⟨sandy, number, arrivalTimeMs, header.ssrc⟩
  | (.process _, _) => True
  | (.setSendPeriodicFeedback sendPeriodicFeedback, _) => sendPeriodicFeedback = true

instance (epoch : Int32 → Int) (proxy : EstimatorProxy) (event : NumberedEvent) :
    Decidable (Placed epoch proxy event) :=
  match event with
  | (.incomingPacket _ ⟨_, none, _, _⟩, _) => inferInstanceAs (Decidable False)
  | (.incomingPacket _ ⟨_, some _, _, _⟩, _) => inferInstanceAs (Decidable (_ ∧ _ ∧ _))
  | (.process _, _) => inferInstanceAs (Decidable True)
  | (.setSendPeriodicFeedback _, _) => inferInstanceAs (Decidable (_ = _))

/-- The proxy is in periodic mode, in order on both paths, and alive. -/
structure InOrder (proxy : EstimatorProxy) : Prop where
  unwrapper : proxy.unwrapper.Valid
  primary : proxy.primary.Tidy
  secondary : proxy.secondary.Tidy
  periodic : proxy.sendPeriodicFeedback = true
  active : proxy.checkFailed = false

variable {epoch : Int32 → Int} {proxy : EstimatorProxy} {arrival : Arrival}
  {event : NumberedEvent}

/-- What an event is that meets the condition. -/
theorem Placed.cases (placed : Placed epoch proxy event) :
    (∃ arrival : Arrival, event = arrival.event ∧ InEpoch epoch proxy arrival) ∨
      (∃ nowMs number, event = (.process nowMs, number)) ∨
      ∃ number, event = (.setSendPeriodicFeedback true, number) := by
  obtain ⟨event, number⟩ := event
  cases event with
  | incomingPacket arrivalTimeMs header =>
      obtain ⟨ssrc, sandy, sequenceNumber, request⟩ := header
      cases sandy with
      | none => exact placed.elim
      | some sandy =>
          obtain ⟨rfl, rfl, inEpoch⟩ := placed
          exact .inl ⟨⟨sandy, number, arrivalTimeMs, ssrc⟩, rfl, inEpoch⟩
  | process nowMs => exact .inr (.inl ⟨nowMs, number, rfl⟩)
  | setSendPeriodicFeedback sendPeriodicFeedback =>
      obtain rfl : sendPeriodicFeedback = true := placed
      exact .inr (.inr ⟨number, rfl⟩)

theorem inOrder_initial : InOrder {} :=
  ⟨SeqNumUnwrapper.valid_initial, PathArrivals.tidy_initial, PathArrivals.tidy_initial, rfl, rfl⟩

section

variable (inOrder : proxy.InOrder)
include inOrder

theorem InOrder.path (pathid : Int32) : (proxy.path pathid).Tidy := by
  unfold EstimatorProxy.path
  split
  · exact inOrder.primary
  · exact inOrder.secondary

/-- A packet in the epoch of its path is unwrapped to its shifted number. -/
theorem InOrder.unwrapped (whole : ∀ pathid, epoch pathid % 65536 = 0)
    (placed : InEpoch epoch proxy arrival) :
    proxy.unwrapper.unwrapped (wrap arrival.number) = arrival.number + epoch arrival.pathid := by
  have same : wrap arrival.number = wrap (arrival.number + epoch arrival.pathid) := by
    have multiple := whole arrival.pathid
    rw [wrap_eq_iff]
    omega
  obtain ⟨-, -, near, -⟩ := placed
  rw [same]
  cases known : proxy.unwrapper.lastValue with
  | none =>
      rw [if_pos known] at near
      unfold SeqNumUnwrapper.unwrapped
      rw [known]
      dsimp only
      rw [toNat_wrap]
      omega
  | some last =>
      rw [if_neg (by rw [known]; simp)] at near
      exact inOrder.unwrapper.unwrapped_wrap known near.1 near.2

/-- An arrival in periodic mode. -/
theorem InOrder.step_arrival (whole : ∀ pathid, epoch pathid % 65536 = 0)
    (placed : InEpoch epoch proxy arrival) :
    proxy.numberedStep arrival.event =
      (({ proxy with
          mediaSsrc := arrival.ssrc
          unwrapper := (proxy.unwrapper.unwrap (wrap arrival.number)).2 } : EstimatorProxy).setPath
        arrival.pathid ((proxy.path arrival.pathid).arrive true
          (arrival.number + epoch arrival.pathid) arrival.arrivalTimeMs).1, []) := by
  have unwrapped := inOrder.unwrapped whole placed
  obtain ⟨⟨nonneg, inRange⟩, ⟨low, high⟩, -, -⟩ := placed
  have short : (arrival.number + epoch arrival.pathid).bmod (2 ^ 32) =
      arrival.number + epoch arrival.pathid := by
    rw [Int.bmod]
    split <;> omega
  have counted : countedPath arrival.pathid = arrival.pathid := by
    rcases pathOfSandy_cases arrival.sandy with first | second
    · rw [Arrival.pathid, first]
      rfl
    · rw [Arrival.pathid, second]
      rfl
  have found : ({ proxy with mediaSsrc := arrival.ssrc } : EstimatorProxy).place
      ⟨arrival.ssrc, some arrival.sandy, some (wrap arrival.number), none⟩ =
        ({ proxy with
            mediaSsrc := arrival.ssrc
            unwrapper := (proxy.unwrapper.unwrap (wrap arrival.number)).2 }, arrival.pathid,
          arrival.number + epoch arrival.pathid) := by
    unfold place
    dsimp only [SeqNumUnwrapper.unwrap]
    rw [unwrapped, short]
    rfl
  unfold numberedStep EstimatorProxy.step
  rw [if_neg (by rw [inOrder.active]; decide)]
  change proxy.incomingPacket arrival.arrivalTimeMs
    ⟨arrival.ssrc, some arrival.sandy, some (wrap arrival.number), none⟩ = _
  unfold EstimatorProxy.incomingPacket
  rw [if_neg (by omega)]
  dsimp only
  rw [found, counted]
  unfold remember
  dsimp only
  rw [inOrder.periodic]
  split
  next impossible => cases impossible
  next => rfl

/-- A call of `Process` in periodic mode. -/
theorem InOrder.step_process (nowMs : Nat) (number : Int) :
    proxy.numberedStep (.process nowMs, number) =
      if proxy.primary.periodicWindowStartSeq = none ∧
          proxy.secondary.periodicWindowStartSeq = none then (proxy, [])
      else
        ({ proxy with
            primary := (proxy.primary.sendPeriodic 1 proxy.mediaSsrc nowMs).1
            secondary := (proxy.secondary.sendPeriodic 2 proxy.mediaSsrc nowMs).1 },
          (proxy.primary.sendPeriodic 1 proxy.mediaSsrc nowMs).2.1 ++
            (proxy.secondary.sendPeriodic 2 proxy.mediaSsrc nowMs).2.1) := by
  have nonneg : (0 : Int) ≤ nowMs := Int.natCast_nonneg nowMs
  have first := (inOrder.primary.sendPeriodic 1 proxy.mediaSsrc nonneg).1
  have second := (inOrder.secondary.sendPeriodic 2 proxy.mediaSsrc nonneg).1
  unfold numberedStep EstimatorProxy.step
  rw [if_neg (by rw [inOrder.active]; decide)]
  change proxy.process nowMs = _
  unfold EstimatorProxy.process sendPeriodicFeedbacks
  rw [if_pos inOrder.periodic]
  dsimp only
  rw [if_pos first, second, Bool.not_true, ← inOrder.active]

/-- That the mode is set to periodic again changes nothing. -/
theorem InOrder.step_periodic (number : Int) :
    proxy.numberedStep (.setSendPeriodicFeedback true, number) = (proxy, []) := by
  unfold numberedStep EstimatorProxy.step
  rw [if_neg (by rw [inOrder.active]; decide), ← inOrder.periodic]

/-- A step in order keeps the order. -/
theorem InOrder.step (whole : ∀ pathid, epoch pathid % 65536 = 0)
    (placed : Placed epoch proxy event) : (proxy.numberedStep event).1.InOrder := by
  rcases placed.cases with ⟨arrival, rfl, inEpoch⟩ | ⟨nowMs, number, rfl⟩ | ⟨number, rfl⟩
  · rw [inOrder.step_arrival whole inEpoch]
    obtain ⟨newest, arrives⟩ := (inOrder.path arrival.pathid).arrive inEpoch.2.2.2 inEpoch.1.1
    unfold setPath
    split
    · exact ⟨inOrder.unwrapper.unwrap _, arrives.tidy, inOrder.secondary, inOrder.periodic,
        inOrder.active⟩
    · exact ⟨inOrder.unwrapper.unwrap _, inOrder.primary, arrives.tidy, inOrder.periodic,
        inOrder.active⟩
  · have nonneg : (0 : Int) ≤ nowMs := Int.natCast_nonneg nowMs
    rw [inOrder.step_process nowMs]
    split
    · exact inOrder
    · exact ⟨inOrder.unwrapper,
        (inOrder.primary.sendPeriodic 1 proxy.mediaSsrc nonneg).2.1,
        (inOrder.secondary.sendPeriodic 2 proxy.mediaSsrc nonneg).2.1, inOrder.periodic,
        inOrder.active⟩
  · rw [inOrder.step_periodic]
    exact inOrder

/-- What a call of `Process` does on one path, if a packet has arrived on it. -/
theorem InOrder.process_path (nowMs : Nat) (number : Int) {pathid : Int32}
    (known : pathid = 1 ∨ pathid = 2) (open_ : (proxy.path pathid).periodicWindowStartSeq ≠ none) :
    (proxy.numberedStep (.process nowMs, number)).1.path pathid =
        ((proxy.path pathid).sendPeriodic pathid proxy.mediaSsrc nowMs).1 ∧
      ∀ sent ∈ ((proxy.path pathid).sendPeriodic pathid proxy.mediaSsrc nowMs).2.1,
        sent ∈ (proxy.numberedStep (.process nowMs, number)).2 := by
  rw [inOrder.step_process nowMs]
  rcases known with rfl | rfl
  · rw [if_neg fun none => open_ none.1]
    exact ⟨rfl, fun sent member => List.mem_append_left _ member⟩
  · rw [if_neg fun none => open_ none.2]
    exact ⟨rfl, fun sent member => List.mem_append_right _ member⟩

/-- A call of `Process` keeps the maps. -/
theorem InOrder.process_arrivals (nowMs : Nat) (number : Int) (pathid : Int32) :
    ((proxy.numberedStep (.process nowMs, number)).1.path pathid).packetArrivalTimes =
      (proxy.path pathid).packetArrivalTimes := by
  rw [inOrder.step_process nowMs]
  split
  · rfl
  · unfold EstimatorProxy.path
    split
    · exact (sendPeriodic_labelled proxy.primary 1 proxy.mediaSsrc nowMs).1
    · exact (sendPeriodic_labelled proxy.secondary 2 proxy.mediaSsrc nowMs).1

end

/-- A number is to be reported, unless it has become too old for that. -/
def Waiting (proxy : EstimatorProxy) (pathid : Int32) (seq : Int) : Prop :=
  (proxy.path pathid).Pending seq ∨
    ∃ newest, (proxy.path pathid).packetArrivalTimes.maxKey = some newest ∧
      kMaxNumberOfPackets < newest - seq

variable {pathid : Int32} {seq : Int}

theorem Waiting.window_ne_none (waiting : proxy.Waiting pathid seq) (inOrder : proxy.InOrder) :
    (proxy.path pathid).periodicWindowStartSeq ≠ none := by
  intro none
  have empty := (inOrder.path pathid).fresh none
  rcases waiting with ⟨start, window, -⟩ | ⟨newest, largest, -⟩
  · rw [none] at window
    cases window
  · obtain ⟨time, member⟩ := OrderedMap.exists_of_maxKey largest
    rw [empty] at member
    exact absurd member List.not_mem_nil

/-- What waits is reported by a step, or still waits after it. -/
theorem Waiting.step (waiting : proxy.Waiting pathid seq) (known : pathid = 1 ∨ pathid = 2)
    (inOrder : proxy.InOrder) (whole : ∀ pathid, epoch pathid % 65536 = 0)
    (placed : Placed epoch proxy event) :
    (∃ sent ∈ (proxy.numberedStep event).2, sent.Reports pathid (wrap seq)) ∨
      (proxy.numberedStep event).1.Waiting pathid seq ∧
        (0 ≤ (proxy.path pathid).lastProcessTimeMs ∨
            (∃ nowMs number, event = (.process nowMs, number)) →
          0 ≤ ((proxy.numberedStep event).1.path pathid).lastProcessTimeMs) := by
  rcases placed.cases with ⟨arrival, rfl, inEpoch⟩ | ⟨nowMs, number, rfl⟩ | ⟨number, rfl⟩
  · right
    obtain ⟨newest, arrives⟩ := (inOrder.path arrival.pathid).arrive inEpoch.2.2.2 inEpoch.1.1
    rw [inOrder.step_arrival whole inEpoch]
    unfold Waiting
    dsimp only
    rw [path_setPath]
    split
    next same =>
      obtain rfl : arrival.pathid = pathid :=
        eq_of_iff_two (pathOfSandy_cases arrival.sandy) known same
      refine ⟨?_, ?_⟩
      · by_cases old : kMaxNumberOfPackets < newest - seq
        · exact .inr ⟨newest, arrives.largest, old⟩
        · rcases waiting with pending | ⟨before, largest, older⟩
          · exact .inl (arrives.pending seq (not_lt.mp old) pending)
          · obtain ⟨time, member⟩ := OrderedMap.exists_of_maxKey largest
            have grown := arrives.grows _ member
            exact absurd (show kMaxNumberOfPackets < newest - seq by dsimp only at grown; omega) old
      · rintro (processed | ⟨nowMs, number, impossible⟩)
        · rw [PathArrivals.arrive_lastProcessTimeMs]
          exact processed
        · cases congrArg Prod.fst impossible
    next =>
      refine ⟨waiting, ?_⟩
      rintro (processed | ⟨nowMs, number, impossible⟩)
      · exact processed
      · cases congrArg Prod.fst impossible
  · obtain ⟨after, sent⟩ := inOrder.process_path nowMs number known (waiting.window_ne_none inOrder)
    obtain ⟨-, -, kept, processed, reports⟩ := (inOrder.path pathid).sendPeriodic pathid
      proxy.mediaSsrc (Int.natCast_nonneg nowMs)
    rcases waiting with pending | ⟨newest, largest, older⟩
    · rcases reports seq pending with ⟨still, -⟩ | ⟨message, listed, reported⟩
      · refine .inr ⟨.inl (after ▸ still), fun _ => ?_⟩
        rw [after]
        exact processed (Waiting.window_ne_none (.inl pending) inOrder)
      · exact .inl ⟨message, sent message listed, reported⟩
    · refine .inr ⟨.inr ⟨newest, by rw [after, kept]; exact largest, older⟩, fun _ => ?_⟩
      rw [after]
      exact processed (Waiting.window_ne_none (.inr ⟨newest, largest, older⟩) inOrder)
  · rw [inOrder.step_periodic]
    refine .inr ⟨waiting, ?_⟩
    rintro (processed | ⟨nowMs, number, impossible⟩)
    · exact processed
    · cases congrArg Prod.fst impossible

/-- What waits is reported in a run, or still waits at its end. -/
theorem Waiting.run (known : pathid = 1 ∨ pathid = 2)
    (whole : ∀ pathid, epoch pathid % 65536 = 0) {events : List NumberedEvent}
    {proxy : EstimatorProxy} (waiting : proxy.Waiting pathid seq) (inOrder : proxy.InOrder)
    (along : Along numberedStep (Placed epoch) proxy events) :
    (∃ sent ∈ outputs numberedStep proxy events, sent.Reports pathid (wrap seq)) ∨
      (finalState numberedStep proxy events).Waiting pathid seq ∧
        (0 ≤ (proxy.path pathid).lastProcessTimeMs ∨
            (∃ nowMs number, (.process nowMs, number) ∈ events) →
          0 ≤ ((finalState numberedStep proxy events).path pathid).lastProcessTimeMs) := by
  induction events generalizing proxy with
  | nil => exact .inr ⟨waiting, by simp⟩
  | cons event events ih =>
      obtain ⟨placed, along⟩ := along
      rcases waiting.step known inOrder whole placed with ⟨sent, member, reported⟩ | ⟨still, later⟩
      · exact .inl ⟨sent, List.mem_append_left _ member, reported⟩
      · rcases ih still (inOrder.step whole placed) along with
          ⟨sent, member, reported⟩ | ⟨waits, processed⟩
        · exact .inl ⟨sent, List.mem_append_right _ member, reported⟩
        · refine .inr ⟨waits, fun called => processed ?_⟩
          rcases called with before | ⟨nowMs, number, member⟩
          · exact .inl (later (.inl before))
          · rcases List.mem_cons.mp member with first | rest
            · exact .inl (later (.inr ⟨nowMs, number, first.symm⟩))
            · exact .inr ⟨nowMs, number, rest⟩

/-- The numbers in the maps are those of packets that arrived on the path. -/
structure Numbered (epoch : Int32 → Int) (events : List NumberedEvent) (proxy : EstimatorProxy) :
    Prop where
  inOrder : proxy.InOrder
  arrived : ∀ pathid : Int32, pathid = 1 ∨ pathid = 2 →
    ∀ entry ∈ (proxy.path pathid).packetArrivalTimes.entries, ∃ arrival : Arrival,
      arrival.event ∈ events ∧ arrival.pathid = pathid ∧ entry.1 = arrival.number + epoch pathid

theorem Numbered.step {events : List NumberedEvent} (numbered : Numbered epoch events proxy)
    (whole : ∀ pathid, epoch pathid % 65536 = 0) (member : event ∈ events)
    (placed : Placed epoch proxy event) : Numbered epoch events (proxy.numberedStep event).1 := by
  refine ⟨numbered.inOrder.step whole placed, fun pathid known entry listed => ?_⟩
  rcases placed.cases with ⟨arrival, rfl, inEpoch⟩ | ⟨nowMs, number, rfl⟩ | ⟨number, rfl⟩
  · rw [numbered.inOrder.step_arrival whole inEpoch] at listed
    dsimp only at listed
    rw [path_setPath] at listed
    split at listed
    next same =>
      obtain rfl : arrival.pathid = pathid :=
        eq_of_iff_two (pathOfSandy_cases arrival.sandy) known same
      rcases PathArrivals.mem_of_mem_arrive listed with before | rfl
      · exact numbered.arrived _ known entry before
      · exact ⟨arrival, member, rfl, rfl⟩
    next => exact numbered.arrived pathid known entry listed
  · rw [numbered.inOrder.process_arrivals nowMs] at listed
    exact numbered.arrived pathid known entry listed
  · rw [numbered.inOrder.step_periodic] at listed
    exact numbered.arrived pathid known entry listed

theorem numbered_initial (epoch : Int32 → Int) (events : List NumberedEvent) :
    Numbered epoch events {} := by
  refine ⟨inOrder_initial, fun pathid _ entry member => ?_⟩
  unfold EstimatorProxy.path at member
  split at member <;> exact absurd member List.not_mem_nil

/-- At a call of `Process` that is not the first, what waits is reported if it is not too
old by then. -/
theorem Waiting.reported (waiting : proxy.Waiting pathid seq) (known : pathid = 1 ∨ pathid = 2)
    (inOrder : proxy.InOrder) (processed : 0 ≤ (proxy.path pathid).lastProcessTimeMs)
    (recent : ∀ newest, (proxy.path pathid).packetArrivalTimes.maxKey = some newest →
      newest - seq ≤ kMaxNumberOfPackets) (nowMs : Nat) (number : Int) :
    ∃ sent ∈ (proxy.numberedStep (.process nowMs, number)).2, sent.Reports pathid (wrap seq) := by
  obtain ⟨-, sent⟩ := inOrder.process_path nowMs number known (waiting.window_ne_none inOrder)
  obtain ⟨-, -, -, -, reports⟩ := (inOrder.path pathid).sendPeriodic pathid
    proxy.mediaSsrc (Int.natCast_nonneg nowMs)
  rcases waiting with pending | ⟨newest, largest, older⟩
  · rcases reports seq pending with ⟨-, first⟩ | ⟨message, listed, reported⟩
    · omega
    · exact ⟨message, sent message listed, reported⟩
  · have bound := recent newest largest
    omega

end EstimatorProxy

/-- The proxy reports the arrivals of a run: no check fails; a message reports only packets
of its path; and by the second call of `Process` after its arrival, a packet that is then
within 2^15 of the newest number of its path has been reported for that path. -/
def ReportsArrivals (events : List NumberedEvent) : Prop :=
  (finalState EstimatorProxy.numberedStep {} events).checkFailed = false ∧
  (∀ sent ∈ outputs EstimatorProxy.numberedStep {} events, sent.packet.pathid = sent.pathid ∧
    ∀ status ∈ sent.packet.receivedPackets, ∃ arrivalTimeMs header number,
      (ProxyEvent.incomingPacket arrivalTimeMs header, number) ∈ events ∧
        header.counted = (sent.pathid, status.sequenceNumber)) ∧
  ∀ before arrivalTimeMs header number between nowMs last after,
    events = before ++ (.incomingPacket arrivalTimeMs header, number) ::
      (between ++ (.process nowMs, last) :: after) →
    (∃ earlierMs number, (.process earlierMs, number) ∈ between) →
    (∀ otherTimeMs other otherNumber, (.incomingPacket otherTimeMs other, otherNumber) ∈
        before ++ (.incomingPacket arrivalTimeMs header, number) :: between →
      other.counted.1 = header.counted.1 → otherNumber - number ≤ 2 ^ 15) →
    ∃ sent ∈ outputs EstimatorProxy.numberedStep
        (finalState EstimatorProxy.numberedStep {}
          (before ++ [(.incomingPacket arrivalTimeMs header, number)]))
        (between ++ [(.process nowMs, last)]),
      sent.Reports header.counted.1 header.counted.2

/-- In a run in which every packet has both extensions, asks for no feedback and arrives in the
epoch of its path, all arrivals are reported. -/
theorem arrivals_reported (epoch : Int32 → Int) (whole : ∀ pathid, epoch pathid % 65536 = 0)
    (events : List NumberedEvent)
    (placed : Along EstimatorProxy.numberedStep (EstimatorProxy.Placed epoch) {} events) :
    ReportsArrivals events := by
  have ordered : ∀ earlier later, events = earlier ++ later →
      EstimatorProxy.Numbered epoch earlier
        (finalState EstimatorProxy.numberedStep {} earlier) := by
    rintro earlier later rfl
    have among : Along EstimatorProxy.numberedStep (fun _ event => event ∈ earlier) {} earlier :=
      along_of_forall_mem _ fun _ member => member
    exact (among.and ((along_append _ _ _).mp placed).1).invariant
      (EstimatorProxy.Numbered epoch earlier)
      (fun proxy event numbered legal => numbered.step whole legal.1 legal.2)
      (EstimatorProxy.numbered_initial epoch earlier)
  refine ⟨(ordered events [] (List.append_nil _).symm).inOrder.active, ?_, ?_⟩
  · have quiet : Along EstimatorProxy.step (fun proxy event => proxy.buildsOnRequest event = false)
        {} (events.map Prod.fst) := by
      rw [along_map]
      refine placed.mono fun proxy event placed => ?_
      rcases placed.cases with ⟨arrival, rfl, -⟩ | ⟨nowMs, number, rfl⟩ | ⟨number, rfl⟩
      · simp [Arrival.event, EstimatorProxy.buildsOnRequest]
      · rfl
      · rfl
    intro sent member
    obtain ⟨names, -, reports⟩ := sent_names_path _ quiet sent (by rw [outputs_map]; exact member)
    refine ⟨names, fun status listed => ?_⟩
    obtain ⟨arrivalTimeMs, header, happened, counted⟩ := reports status listed
    obtain ⟨⟨_, number⟩, known, rfl⟩ := List.mem_map.mp happened
    exact ⟨arrivalTimeMs, header, number, known, counted⟩
  · rintro before arrivalTimeMs header number between nowMs last after rfl
      ⟨earlierMs, _, called⟩ recent
    obtain ⟨-, arrives, rest⟩ := (along_append _ _ _).mp placed
    obtain ⟨along, -⟩ := (along_append _ _ _).mp rest
    have start := (ordered before _ rfl).inOrder
    obtain ⟨arrival, isArrival, inEpoch⟩ : ∃ arrival : Arrival,
        (ProxyEvent.incomingPacket arrivalTimeMs header, number) = arrival.event ∧
          EstimatorProxy.InEpoch epoch
            (finalState EstimatorProxy.numberedStep {} before) arrival := by
      rcases arrives.cases with found | ⟨_, _, impossible⟩ | ⟨_, impossible⟩
      · exact found
      · cases congrArg Prod.fst impossible
      · cases congrArg Prod.fst impossible
    obtain ⟨isEvent, rfl⟩ := Prod.mk.inj isArrival
    obtain ⟨rfl, rfl⟩ := ProxyEvent.incomingPacket.inj isEvent
    have known : arrival.pathid = 1 ∨ arrival.pathid = 2 :=
      EstimatorProxy.pathOfSandy_cases arrival.sandy
    have multiple := whole arrival.pathid
    have sameNumber : wrap (arrival.number + epoch arrival.pathid) = wrap arrival.number := by
      rw [wrap_eq_iff]
      omega
    have after_ := start.step whole arrives
    have waiting : (EstimatorProxy.numberedStep (finalState EstimatorProxy.numberedStep {} before)
        arrival.event).1.Waiting arrival.pathid (arrival.number + epoch arrival.pathid) := by
      obtain ⟨newest, done⟩ := (start.path arrival.pathid).arrive inEpoch.2.2.2 inEpoch.1.1
      left
      rw [start.step_arrival whole inEpoch]
      dsimp only
      rw [EstimatorProxy.path_setPath, if_pos Iff.rfl]
      exact done.reports
    rw [finalState_append, outputs_append]
    change ∃ sent ∈ outputs EstimatorProxy.numberedStep (EstimatorProxy.numberedStep
      (finalState EstimatorProxy.numberedStep {} before) arrival.event).1 between ++ _,
        sent.Reports arrival.pathid (wrap arrival.number)
    rcases waiting.run known whole after_ along with
      ⟨sent, member, reported⟩ | ⟨waits, processed⟩
    · exact ⟨sent, List.mem_append_left _ member, sameNumber ▸ reported⟩
    · have reached := ordered (before ++ arrival.event :: between) ((.process nowMs, last) :: after)
        (by simp [Arrival.event])
      rw [finalState_append] at reached
      obtain ⟨sent, member, reported⟩ := waits.reported known reached.inOrder
        (processed (.inr ⟨earlierMs, _, called⟩)) (by
          intro newest largest
          obtain ⟨time, listed⟩ := OrderedMap.exists_of_maxKey largest
          obtain ⟨other, happened, path, number⟩ := reached.arrived _ known _ listed
          have bound := recent _ _ _ happened path
          dsimp only at number
          unfold kMaxNumberOfPackets
          omega) nowMs last
      refine ⟨sent, List.mem_append_right _ ?_, sameNumber ▸ reported⟩
      rw [outputs_cons, outputs_nil, List.append_nil]
      exact member

/-- Packets of both paths with a late one among them. -/
theorem arrivals_reported_late :
    ReportsArrivals [Arrival.event ⟨1, 65537, 5, 0⟩, Arrival.event ⟨2, 9, 6, 0⟩, (.process 10, 0),
      Arrival.event ⟨1, 65535, 12, 0⟩, (.process 20, 0), (.process 30, 0)] :=
  arrivals_reported (fun pathid => if pathid = 1 then -65536 else 0)
    (by intro pathid; split <;> rfl) _ (by decide)

/-- The second path carries the unwrapper over into the next epoch, which moves the window
of the first path past a packet that was not reported. -/
theorem arrival_not_reported :
    ¬ ReportsArrivals [Arrival.event ⟨1, 0, 5, 0⟩, Arrival.event ⟨2, 20000, 5, 0⟩,
      Arrival.event ⟨2, 52767, 5, 0⟩, Arrival.event ⟨2, 52769, 5, 0⟩, Arrival.event ⟨1, 1, 5, 0⟩,
      (.process 10, 0), (.process 20, 0)] := by
  rintro ⟨-, -, reports⟩
  have silent : ∀ sent ∈ outputs EstimatorProxy.numberedStep
      (finalState EstimatorProxy.numberedStep {} ([] ++ [Arrival.event ⟨1, 0, 5, 0⟩]))
      ([Arrival.event ⟨2, 20000, 5, 0⟩, Arrival.event ⟨2, 52767, 5, 0⟩,
        Arrival.event ⟨2, 52769, 5, 0⟩, Arrival.event ⟨1, 1, 5, 0⟩, (.process 10, 0)] ++
          [(.process 20, 0)]), ¬ sent.Reports 1 0 := by
    decide
  obtain ⟨sent, member, reported⟩ := reports [] 5 ⟨0, some 1, some 0, none⟩ 0
    [Arrival.event ⟨2, 20000, 5, 0⟩, Arrival.event ⟨2, 52767, 5, 0⟩,
      Arrival.event ⟨2, 52769, 5, 0⟩, Arrival.event ⟨1, 1, 5, 0⟩, (.process 10, 0)] 20 0 [] rfl
    ⟨10, 0, by simp⟩ (by
      intro otherTimeMs other otherNumber member path
      simp only [Arrival.event, List.nil_append, List.mem_cons, Prod.mk.injEq,
        ProxyEvent.incomingPacket.injEq, reduceCtorEq, false_and, List.not_mem_nil,
        or_false] at member
      rcases member with ⟨⟨-, rfl⟩, rfl⟩ | ⟨⟨-, rfl⟩, rfl⟩ | ⟨⟨-, rfl⟩, rfl⟩ | ⟨⟨-, rfl⟩, rfl⟩ |
        ⟨⟨-, rfl⟩, rfl⟩
      · decide
      · exact absurd path (by decide)
      · exact absurd path (by decide)
      · exact absurd path (by decide)
      · decide)
  exact silent sent member reported

end Runs

end MpWebRtc
