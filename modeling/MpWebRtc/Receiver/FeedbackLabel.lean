import MpWebRtc.Receiver.EstimatorProxy
import MpWebRtc.Rtcp.RoundTrip

/-!
# Which path a feedback message names

A feedback message names its path in the header. The periodic messages are made for
their path; what the sender reads from them is the path whose arrivals they report. The
messages on request are made by another constructor, and name no path. So the label is
right as long as no packet asks for feedback.
-/

namespace MpWebRtc

open Math Math.Serial Math.Run

namespace PathArrivals

variable {path : PathArrivals} {seq arrivalTimeMs : Int} {entry : Int × Int}

theorem mem_of_mem_openWindow
    (member : entry ∈ (path.openWindow seq arrivalTimeMs).packetArrivalTimes.entries) :
    entry ∈ path.packetArrivalTimes.entries := by
  unfold openWindow at member
  dsimp only at member
  split at member
  · exact OrderedMap.mem_of_mem_dropWhile member
  · exact member

theorem mem_of_mem_limitRange {periodic : Bool}
    (member : entry ∈ (path.limitRange periodic).packetArrivalTimes.entries) :
    entry ∈ path.packetArrivalTimes.entries := by
  unfold limitRange at member
  split at member
  · exact member
  · split at member
    · exact (OrderedMap.mem_filter.mp member).1
    · exact member

/-- The only new entry is that of the packet. -/
theorem mem_of_mem_arrive {periodic : Bool}
    (member : entry ∈ (path.arrive periodic seq arrivalTimeMs).1.packetArrivalTimes.entries) :
    entry ∈ path.packetArrivalTimes.entries ∨ entry = (seq, arrivalTimeMs) := by
  unfold arrive at member
  extract_lets opened at member
  have before : ∀ entry ∈ opened.packetArrivalTimes.entries,
      entry ∈ path.packetArrivalTimes.entries := by
    intro entry known
    unfold opened at known
    split at known
    · exact mem_of_mem_openWindow known
    · exact known
  split at member
  · exact .inl (before entry member)
  · rcases OrderedMap.mem_insert.mp (mem_of_mem_limitRange member) with same | ⟨known, -⟩
    · exact .inr same
    · exact .inl (before entry known)

end PathArrivals

section Messages

/-- Packets added in the loop are recorded. -/
theorem addArrivals_records (entries : List (Int × Int)) {fb : TransportFeedback}
    {deltas : List (Option Int)} (records : fb.Records deltas) (next : Int) :
    ∃ more, (addArrivals entries fb next).1.Records (deltas ++ more) := by
  induction entries generalizing fb deltas next with
  | nil => exact ⟨[], by rw [List.append_nil]; exact records⟩
  | cons entry entries ih =>
      obtain ⟨first, recorded, -⟩ := records.addReceivedPacket (wrap entry.1) (entry.2 * 1000)
      unfold addArrivals
      cases result : fb.addReceivedPacket (wrap entry.1) (entry.2 * 1000) with
      | mk further success =>
          rw [result] at recorded
          cases success with
          | false => exact ⟨first, recorded⟩
          | true =>
              obtain ⟨more, final⟩ := ih recorded (entry.1 + 1)
              exact ⟨first ++ more, by rw [← List.append_assoc]; exact final⟩

/-- A message for a path: it names the path, records something, and reports only
packets whose number is in a list. -/
structure MessageFor (packet : TransportFeedback) (pathid : Int32) (numbers : List UInt16) :
    Prop where
  names : packet.pathid = pathid
  records : ∃ deltas, deltas ≠ [] ∧ packet.Records deltas
  reports : ∀ status ∈ packet.receivedPackets, status.sequenceNumber ∈ numbers

/-- A message that is built is for the path it was made for. -/
theorem messageFor_of_buildFeedbackPacket {count : UInt8} {ssrc : UInt32} {base beginTimeMs : Int}
    {first : Int × Int} {entries : List (Int × Int)} {pathid : Int32} {packet : TransportFeedback}
    {next : Int} (built : buildFeedbackPacket count ssrc base beginTimeMs (first :: entries)
      (.ofPathid pathid) = some (packet, next)) :
    MessageFor packet pathid ((first :: entries).map (wrap ·.1)) := by
  unfold buildFeedbackPacket at built
  extract_lets fb at built
  dsimp only at built
  have initial : fb.Records [] := TransportFeedback.records_nil _ rfl rfl rfl rfl rfl rfl rfl rfl
  obtain ⟨more, recorded, -⟩ := initial.addReceivedPacket (wrap first.1) (first.2 * 1000)
  obtain ⟨further, head, ⟨result, -⟩ | ⟨delta, result, received⟩⟩ :=
    fb.addReceivedPacket_cases (wrap first.1) (first.2 * 1000)
  · rw [result] at built
    cases built
  · rw [result] at built recorded
    have result' : addArrivals entries further (first.1 + 1) = (packet, next) :=
      Option.some.inj built
    obtain ⟨taken, rest, split, unchanged, numbers, -⟩ :=
      addArrivals_spec entries further (first.1 + 1)
    obtain ⟨others, records⟩ := addArrivals_records entries recorded (first.1 + 1)
    rw [result'] at unchanged numbers records
    have all : packet.receivedPackets.map (·.sequenceNumber) =
        wrap first.1 :: taken.map (wrap ·.1) := by
      rw [numbers, received]
      rfl
    refine ⟨congrArg (fun heading => heading.2.2.1) (unchanged.trans head), ⟨_, ?_, records⟩, ?_⟩
    · rintro none
      have empty := records.received
      rw [none] at empty
      rw [empty] at all
      cases all
    · intro status member
      have listed : status.sequenceNumber ∈ packet.receivedPackets.map (·.sequenceNumber) :=
        List.mem_map_of_mem member
      rw [all] at listed
      rw [List.map_cons, split, List.map_append]
      rcases List.mem_cons.mp listed with same | earlier
      · exact same ▸ List.mem_cons_self
      · exact List.mem_cons_of_mem _ (List.mem_append_left _ earlier)

/-- A round keeps the arrivals, and its message is for the path. -/
theorem sendRound_labelled (pathid : Int32) (ssrc : UInt32) (path : PathArrivals) (start : Int) :
    match sendRound pathid ssrc path start with
    | .done => True
    | .failed next => next.packetArrivalTimes = path.packetArrivalTimes
    | .sent message next _ => next.packetArrivalTimes = path.packetArrivalTimes ∧
        message.pathid = pathid ∧
          MessageFor message.packet pathid (path.packetArrivalTimes.entries.map (wrap ·.1)) := by
  unfold sendRound
  cases window : path.packetArrivalTimes.lowerBound start with
  | nil => trivial
  | cons first entries =>
      dsimp only
      cases built : buildFeedbackPacket path.feedbackPacketCount ssrc start first.2
          (first :: entries) (.ofPathid pathid) with
      | none => rfl
      | some result =>
          obtain ⟨names, records, reports⟩ := messageFor_of_buildFeedbackPacket built
          refine ⟨rfl, rfl, names, records, fun status reported => ?_⟩
          obtain ⟨entry, inWindow, number⟩ := List.mem_map.mp (reports status reported)
          rw [← window] at inWindow
          exact number ▸ List.mem_map_of_mem (OrderedMap.mem_lowerBound.mp inWindow).1

/-- The periodic messages of a path are for that path, and report its arrivals. -/
theorem sendWindow_labelled (pathid : Int32) (ssrc : UInt32) (fuel : Nat) (path : PathArrivals)
    (start : Int) :
    (sendWindow pathid ssrc fuel path start).1.packetArrivalTimes = path.packetArrivalTimes ∧
      ∀ sent ∈ (sendWindow pathid ssrc fuel path start).2.1, sent.pathid = pathid ∧
        MessageFor sent.packet pathid (path.packetArrivalTimes.entries.map (wrap ·.1)) := by
  induction fuel generalizing path start with
  | zero => exact ⟨rfl, List.forall_mem_nil _⟩
  | succ fuel ih =>
      have round := sendRound_labelled pathid ssrc path start
      unfold sendWindow
      cases result : sendRound pathid ssrc path start with
      | done => exact ⟨rfl, List.forall_mem_nil _⟩
      | failed next =>
          rw [result] at round
          exact ⟨round, List.forall_mem_nil _⟩
      | sent message next start =>
          rw [result] at round
          obtain ⟨kept, label⟩ := round
          obtain ⟨same, others⟩ := ih next start
          rw [kept] at same others
          exact ⟨same, List.forall_mem_cons.mpr ⟨label, others⟩⟩

theorem sendPeriodic_labelled (path : PathArrivals) (pathid : Int32) (ssrc : UInt32) (nowMs : Int) :
    (path.sendPeriodic pathid ssrc nowMs).1.packetArrivalTimes = path.packetArrivalTimes ∧
      ∀ sent ∈ (path.sendPeriodic pathid ssrc nowMs).2.1, sent.pathid = pathid ∧
        MessageFor sent.packet pathid (path.packetArrivalTimes.entries.map (wrap ·.1)) := by
  unfold PathArrivals.sendPeriodic
  split
  · exact ⟨rfl, List.forall_mem_nil _⟩
  · split
    · exact ⟨rfl, List.forall_mem_nil _⟩
    · exact sendWindow_labelled _ _ _ _ _

end Messages

section Runs

/-- The path and the number a packet is counted for. -/
def ArrivedHeader.counted (header : ArrivedHeader) : Int32 × UInt16 :=
  match header.sandy, header.mpTransportSequenceNumber with
  | some sandy, some number => (EstimatorProxy.pathOfSandy sandy, number)
  | _, _ => (1, 65535)

/-- A message that names the path of its proxy and reports packets that were counted for it. -/
structure SentFeedback.NamesPathOf (sent : SentFeedback) (events : List ProxyEvent) : Prop where
  names : sent.packet.pathid = sent.pathid
  records : ∃ deltas, deltas ≠ [] ∧ sent.packet.Records deltas
  reports : ∀ status ∈ sent.packet.receivedPackets, ∃ arrivalTimeMs header,
    ProxyEvent.incomingPacket arrivalTimeMs header ∈ events ∧
      header.counted = (sent.pathid, status.sequenceNumber)

namespace EstimatorProxy

/-- The event makes the proxy build a message on request: a new packet that asks for
feedback about some packets. -/
def buildsOnRequest (proxy : EstimatorProxy) : (event : ProxyEvent) → Bool
  | .incomingPacket arrivalTimeMs header =>
      let placed := ({ proxy with mediaSsrc := header.ssrc } : EstimatorProxy).place header
      !proxy.checkFailed && decide (0 ≤ arrivalTimeMs) && decide (arrivalTimeMs ≤ kMaxTimeMs) &&
        header.feedbackRequest.any (fun request => decide (request.sequenceCount ≠ 0)) &&
        (placed.1.remember (countedPath placed.2.1) placed.2.2 arrivalTimeMs).2
  | _ => false

/-- What the maps hold arrived on their path. -/
structure Sourced (events : List ProxyEvent) (proxy : EstimatorProxy) : Prop where
  unwrapper : proxy.unwrapper.Valid
  arrived : ∀ pathid : Int32, pathid = 1 ∨ pathid = 2 →
    ∀ entry ∈ (proxy.path pathid).packetArrivalTimes.entries,
      ∃ arrivalTimeMs header, ProxyEvent.incomingPacket arrivalTimeMs header ∈ events ∧
        header.counted = (pathid, wrap entry.1)

variable {proxy : EstimatorProxy} {events : List ProxyEvent}

theorem pathOfSandy_cases (sandy : UInt8) : pathOfSandy sandy = 1 ∨ pathOfSandy sandy = 2 := by
  unfold pathOfSandy
  split_ifs
  · exact .inr rfl
  · exact .inl rfl
  · exact .inl rfl
  · exact .inr rfl

theorem path_setPath (proxy : EstimatorProxy) (first second : Int32) (path : PathArrivals) :
    (proxy.setPath first path).path second =
      if (first = 2 ↔ second = 2) then path else proxy.path second := by
  unfold setPath EstimatorProxy.path
  by_cases one : first = 2 <;> by_cases two : second = 2 <;> simp [one, two]

theorem setPath_unwrapper (proxy : EstimatorProxy) (pathid : Int32) (path : PathArrivals) :
    (proxy.setPath pathid path).unwrapper = proxy.unwrapper := by
  unfold setPath
  split <;> rfl

/-- Placing a packet keeps the unwrapper valid and the maps, and finds its path and number. -/
theorem place_spec (valid : proxy.unwrapper.Valid) (header : ArrivedHeader) :
    (proxy.place header).1.unwrapper.Valid ∧
      (∀ pathid, (proxy.place header).1.path pathid = proxy.path pathid) ∧
      header.counted =
        (countedPath (proxy.place header).2.1, wrap (proxy.place header).2.2) := by
  obtain ⟨ssrc, sandy, number, request⟩ := header
  have absent : ((1, 65535) : Int32 × UInt16) = (countedPath (-1), wrap (-1)) := by decide
  cases sandy with
  | none => exact ⟨valid, fun _ => rfl, absent⟩
  | some sandy =>
      cases number with
      | none => exact ⟨valid, fun _ => rfl, absent⟩
      | some number =>
          refine ⟨valid.unwrap number, fun _ => rfl, Prod.ext ?_ ?_⟩
          · change pathOfSandy sandy = countedPath (pathOfSandy sandy)
            rcases pathOfSandy_cases sandy with first | second
            · rw [first]
              rfl
            · rw [second]
              rfl
          · change number = wrap ((proxy.unwrapper.unwrapped number).bmod (2 ^ 32))
            have unwrapped := valid.wrap_unwrapped number
            have whole : (proxy.unwrapper.unwrapped number).bmod (2 ^ 32) % 65536 =
                proxy.unwrapper.unwrapped number % 65536 := by
              rw [Int.bmod]
              split <;> omega
            exact unwrapped.symm.trans (wrap_eq_iff.mpr whole).symm

theorem countedPath_cases (pathid : Int32) : countedPath pathid = 1 ∨ countedPath pathid = 2 := by
  unfold countedPath
  split
  · exact .inl rfl
  · exact .inr rfl

theorem eq_of_iff_two {first second : Int32} (one : first = 1 ∨ first = 2)
    (two : second = 1 ∨ second = 2) (same : first = 2 ↔ second = 2) : first = second := by
  have apart : (1 : Int32) ≠ 2 := by decide
  rcases one with rfl | rfl <;> rcases two with rfl | rfl
  · rfl
  · exact same.mpr rfl
  · exact (same.mp rfl).symm
  · rfl

/-- A packet that is remembered on its path has arrived there. -/
theorem Sourced.remember {pathid : Int32} {seq arrivalTimeMs : Int} {header : ArrivedHeader}
    (sourced : Sourced events proxy) (listed : pathid = 1 ∨ pathid = 2)
    (happened : ProxyEvent.incomingPacket arrivalTimeMs header ∈ events)
    (counted : header.counted = (pathid, wrap seq)) :
    Sourced events (proxy.remember pathid seq arrivalTimeMs).1 := by
  refine ⟨?_, fun other known entry member => ?_⟩
  · unfold EstimatorProxy.remember
    rw [setPath_unwrapper]
    exact sourced.unwrapper
  · unfold EstimatorProxy.remember at member
    dsimp only at member
    rw [path_setPath] at member
    split at member
    next same =>
      obtain rfl := eq_of_iff_two listed known same
      rcases PathArrivals.mem_of_mem_arrive member with earlier | rfl
      · exact sourced.arrived pathid known entry earlier
      · exact ⟨arrivalTimeMs, header, happened, counted⟩
    next => exact sourced.arrived other known entry member

/-- Without a message on request, an arrival sends nothing. -/
theorem Sourced.incomingPacket {arrivalTimeMs : Int} {header : ArrivedHeader}
    (sourced : Sourced events proxy) (active : proxy.checkFailed = false)
    (happened : ProxyEvent.incomingPacket arrivalTimeMs header ∈ events)
    (quiet : proxy.buildsOnRequest (.incomingPacket arrivalTimeMs header) = false) :
    Sourced events (proxy.incomingPacket arrivalTimeMs header).1 ∧
      (proxy.incomingPacket arrivalTimeMs header).2 = [] := by
  unfold EstimatorProxy.incomingPacket
  split
  · exact ⟨sourced, rfl⟩
  next inRange =>
  have valid : ({ proxy with mediaSsrc := header.ssrc } : EstimatorProxy).unwrapper.Valid :=
    sourced.unwrapper
  obtain ⟨kept, maps, counted⟩ := place_spec valid header
  have placed : Sourced events
      (({ proxy with mediaSsrc := header.ssrc } : EstimatorProxy).place header).1 :=
    ⟨kept, fun pathid known entry member =>
      sourced.arrived pathid known entry (by rw [maps] at member; exact member)⟩
  have remembered := placed.remember (countedPath_cases _) happened counted
  dsimp only
  split
  next request isNew asked =>
    dsimp only [buildsOnRequest] at quiet
    rw [isNew, asked, active, decide_eq_true (by omega), decide_eq_true (by omega)] at quiet
    have none : request.sequenceCount = 0 := by simpa using quiet
    unfold sendFeedbackOnRequest
    rw [if_pos none]
    exact ⟨remembered, rfl⟩
  next => exact ⟨remembered, rfl⟩

/-- Periodic messages name the path whose arrivals they report. -/
theorem Sourced.process (sourced : Sourced events proxy) (nowMs : Int) :
    Sourced events (proxy.process nowMs).1 ∧
      ∀ sent ∈ (proxy.process nowMs).2, sent.NamesPathOf events := by
  have primary := sendPeriodic_labelled proxy.primary 1 proxy.mediaSsrc nowMs
  have secondary := sendPeriodic_labelled proxy.secondary 2 proxy.mediaSsrc nowMs
  have reports : ∀ (pathid : Int32) (sent : SentFeedback), pathid = 1 ∨ pathid = 2 →
      sent.pathid = pathid ∧ MessageFor sent.packet pathid
        ((proxy.path pathid).packetArrivalTimes.entries.map (wrap ·.1)) →
      sent.NamesPathOf events := by
    rintro pathid sent known ⟨path, names, records, numbers⟩
    refine ⟨names.trans path.symm, records, fun status member => ?_⟩
    obtain ⟨entry, listed, number⟩ := List.mem_map.mp (numbers status member)
    obtain ⟨arrivalTimeMs, header, happened, counted⟩ := sourced.arrived pathid known entry listed
    exact ⟨arrivalTimeMs, header, happened, by rw [counted, number, path]⟩
  have keeps : ∀ next : EstimatorProxy, next.unwrapper = proxy.unwrapper →
      next.primary.packetArrivalTimes = proxy.primary.packetArrivalTimes →
      next.secondary.packetArrivalTimes = proxy.secondary.packetArrivalTimes →
      Sourced events next := by
    intro next unwrapper first second
    refine ⟨unwrapper ▸ sourced.unwrapper, fun pathid known entry member => ?_⟩
    apply sourced.arrived pathid known entry
    unfold EstimatorProxy.path at member ⊢
    split at member
    next => rwa [if_pos ‹_›, ← first]
    next => rwa [if_neg ‹_›, ← second]
  unfold EstimatorProxy.process
  split
  · unfold sendPeriodicFeedbacks
    split
    · exact ⟨sourced, List.forall_mem_nil _⟩
    · dsimp only
      split
      · refine ⟨keeps _ rfl primary.1 secondary.1, fun sent member => ?_⟩
        rcases List.mem_append.mp member with first | second
        · exact reports 1 sent (.inl rfl) (primary.2 sent first)
        · exact reports 2 sent (.inr rfl) (secondary.2 sent second)
      · exact ⟨keeps _ rfl primary.1 rfl, fun sent member =>
          reports 1 sent (.inl rfl) (primary.2 sent member)⟩
  · exact ⟨sourced, List.forall_mem_nil _⟩

theorem sourced_initial : Sourced events {} := by
  refine ⟨SeqNumUnwrapper.valid_initial, fun pathid _ entry member => ?_⟩
  unfold EstimatorProxy.path at member
  split at member <;> exact absurd member List.not_mem_nil

/-- A step that builds nothing on request keeps the arrivals with their paths, and sends
messages that name the path whose arrivals they report. -/
theorem Sourced.step (sourced : Sourced events proxy) {event : ProxyEvent}
    (happened : event ∈ events) (quiet : proxy.buildsOnRequest event = false) :
    Sourced events (proxy.step event).1 ∧
      ∀ sent ∈ (proxy.step event).2, sent.NamesPathOf events := by
  unfold EstimatorProxy.step
  split
  · exact ⟨sourced, List.forall_mem_nil _⟩
  next active =>
  cases event with
  | incomingPacket arrivalTimeMs header =>
      obtain ⟨kept, none⟩ := sourced.incomingPacket (Bool.eq_false_iff.mpr active) happened quiet
      dsimp only
      rw [none]
      exact ⟨kept, List.forall_mem_nil _⟩
  | process nowMs => exact sourced.process nowMs
  | setSendPeriodicFeedback sendPeriodicFeedback =>
      exact ⟨⟨sourced.unwrapper, sourced.arrived⟩, List.forall_mem_nil _⟩

end EstimatorProxy

variable (events : List ProxyEvent)

/-- In a quiet run, every message names the path whose arrivals it reports. -/
theorem sent_names_path
    (quiet : Along EstimatorProxy.step (fun proxy event => proxy.buildsOnRequest event = false) {}
      events) :
    ∀ sent ∈ outputs EstimatorProxy.step {} events, sent.NamesPathOf events := by
  have among : Along EstimatorProxy.step (fun _ event => event ∈ events) {} events :=
    along_of_forall_mem _ fun _ member => member
  exact (among.and quiet).forall_outputs (EstimatorProxy.Sourced events)
    (fun proxy event sourced legal => (sourced.step legal.1 legal.2).1)
    (fun proxy event sourced legal => (sourced.step legal.1 legal.2).2)
    EstimatorProxy.sourced_initial

/-- The message, sent by a stream of its own, is read at the other end as one about its
path, and reports packets of a run that were counted for that path. -/
def SentFeedback.NamesPath (sent : SentFeedback) (events : List ProxyEvent) : Prop :=
  ∀ senderSsrc, ∃ bytes header parsed,
    (sent.packet.setSenderSsrc senderSsrc).create = some bytes ∧
    CommonHeader.parse bytes = some header ∧ header.pathid = sent.pathid ∧
    TransportFeedback.parseFrom bytes = some parsed ∧ parsed.pathid = sent.pathid ∧
    ∀ status ∈ parsed.receivedPackets, ∃ arrivalTimeMs arrived,
      ProxyEvent.incomingPacket arrivalTimeMs arrived ∈ events ∧
        arrived.counted = (sent.pathid, status.sequenceNumber)

/-- In a run in which no packet makes the proxy build a message on request, every message
names the path whose arrivals it reports. -/
theorem feedback_names_path
    (quiet : Along EstimatorProxy.step (fun proxy event => proxy.buildsOnRequest event = false) {}
      events) : ∀ sent ∈ outputs EstimatorProxy.step {} events, sent.NamesPath events := by
  intro sent member senderSsrc
  obtain ⟨names, ⟨deltas, some, records⟩, reports⟩ := sent_names_path events quiet sent member
  have resent : (sent.packet.setSenderSsrc senderSsrc).Records deltas :=
    ⟨records.includeTimestamps, records.includeLost, records.packets, records.received,
      records.count, records.few, records.encodes, records.size, records.room, records.ticks⟩
  obtain ⟨bytes, padding, created, header⟩ := resent.holds.parse_create some
  obtain ⟨bytes', parsed, created', read, path, -, -, -, received, -⟩ :=
    resent.parseFrom_create some
  obtain rfl : bytes = bytes' := Option.some.inj (created.symm.trans created')
  refine ⟨bytes, _, parsed, created, header, names, read, path.trans names, fun status listed => ?_⟩
  rw [received] at listed
  exact reports status listed

/-- Arrivals on both paths, reported periodically. -/
theorem feedback_names_path_both :
    (outputs EstimatorProxy.step {}
        [.incomingPacket 5 ⟨0, some 1, some 7, none⟩, .incomingPacket 6 ⟨0, some 2, some 9, none⟩,
          .process 10, .process 20]).map (·.pathid) = [1, 2] ∧
      ∀ sent ∈ outputs EstimatorProxy.step {}
          [.incomingPacket 5 ⟨0, some 1, some 7, none⟩, .incomingPacket 6 ⟨0, some 2, some 9, none⟩,
            .process 10, .process 20],
        sent.NamesPath
          [.incomingPacket 5 ⟨0, some 1, some 7, none⟩, .incomingPacket 6 ⟨0, some 2, some 9, none⟩,
            .process 10, .process 20] :=
  ⟨by decide, feedback_names_path _ (by decide)⟩

/-- A packet of the first path that asks for feedback gets a message that names no path. -/
theorem requested_feedback_names_no_path :
    ¬ ∀ sent ∈ outputs EstimatorProxy.step {}
        [.incomingPacket 5 ⟨0, some 1, some 7, some ⟨true, 1⟩⟩],
      sent.NamesPath [.incomingPacket 5 ⟨0, some 1, some 7, some ⟨true, 1⟩⟩] := by
  intro names
  have sends : ∃ sent ∈ outputs EstimatorProxy.step {}
      [.incomingPacket 5 ⟨0, some 1, some 7, some ⟨true, 1⟩⟩], sent.pathid = 1 ∧
        (((sent.packet.setSenderSsrc 0).create.bind CommonHeader.parse).map (·.pathid)) =
          some (-1) := by
    decide
  obtain ⟨sent, member, path, label⟩ := sends
  obtain ⟨bytes, header, -, created, parsed, same, -⟩ := names sent member 0
  rw [created, Option.bind_some, parsed, Option.map_some, same, path] at label
  exact absurd label (by decide)

end Runs

end MpWebRtc
