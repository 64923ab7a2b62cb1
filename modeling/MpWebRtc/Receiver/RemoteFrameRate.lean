import MpWebRtc.Receiver.FrameAccounting

/-!
# The frame rate of the other end

The frame rate by which `OnInsertedPacket` divides comes from application packets, and may be any
byte. It is 30 before the first of them. As long as it was not zero in the last of these packets,
nothing divides by zero: the averages are of windows into which something was put before.
-/

namespace MpWebRtc

open Math.Checked Math.CNumber VideoCoding

namespace FrameDelays

variable {Double : Type} {arithmetic : DelayArithmetic Double} {logging : Bool}
  {delays : FrameDelays Double} {c : ReceiverCollector}

theorem expectedIfd_ok {remoteFps : UInt32} (positive : remoteFps ≠ 0) :
    ∃ expected, expectedIfd remoteFps = .ok expected :=
  ⟨_, if_neg positive⟩

theorem average_ok {window : List Int} (some : window ≠ []) : ∃ value, average window = .ok value :=
  ⟨_, if_neg fun none => some (List.length_eq_zero_iff.mp none)⟩

theorem pushWindow_ne_nil (window : List Int) (value : Int) : pushWindow window value ≠ [] :=
  List.append_ne_nil_of_right_ne_nil _ (List.cons_ne_nil _ _)

theorem logExpected_ok (positive : c.remoteFps ≠ 0) : ∃ done, logExpected logging c = .ok done := by
  unfold logExpected
  cases logging with
  | false => exact ⟨(), rfl⟩
  | true =>
      obtain ⟨expected, known⟩ := expectedIfd_ok positive
      rw [if_pos rfl, known]
      exact ⟨(), rfl⟩

/-- The gathered windows are only averaged together, when both have values. -/
theorem gatheredRates_ok : ∃ rates, delays.gatheredRates = .ok rates := by
  unfold gatheredRates
  split_ifs with some
  · apply exists_bind_eq_ok (average_ok (List.ne_nil_of_length_pos some.1))
    intro increase
    apply exists_bind_eq_ok (average_ok (List.ne_nil_of_length_pos some.2))
    intro decrease
    exact ⟨_, rfl⟩
  · exact ⟨_, rfl⟩

section

variable (positive : c.remoteFps ≠ 0)
include positive

theorem startsFeedback_ok (assymetry : Int) :
    ∃ starts, delays.startsFeedback arithmetic c assymetry = .ok starts := by
  unfold startsFeedback
  split_ifs
  · apply exists_bind_eq_ok (expectedIfd_ok positive)
    intro expected
    exact ⟨_, rfl⟩
  · exact ⟨_, rfl⟩

theorem stopsFeedback_ok : ∃ stops, delays.stopsFeedback arithmetic c = .ok stops := by
  unfold stopsFeedback
  split_ifs
  · apply exists_bind_eq_ok (expectedIfd_ok positive)
    intro expected
    exact ⟨_, rfl⟩
  · exact ⟨_, rfl⟩

theorem control_ok (some : delays.assymetryPackets ≠ []) :
    ∃ result, delays.control arithmetic c = .ok result := by
  apply exists_bind_eq_ok (average_ok some)
  intro assymetry
  apply exists_bind_eq_ok (startsFeedback_ok positive assymetry)
  intro starts
  cases starts with
  | true =>
      apply exists_bind_eq_ok gatheredRates_ok
      intro rates
      exact ⟨_, rfl⟩
  | false =>
      apply exists_bind_eq_ok (stopsFeedback_ok positive)
      intro stops
      cases stops with
      | true => exact ⟨_, rfl⟩
      | false => exact ⟨_, rfl⟩

theorem closeDelta_ok (account : PathAccount) (endTime : Int) :
    ∃ result, delays.closeDelta arithmetic logging c account endTime = .ok result := by
  have controlled : ∃ result,
      (delays.measure arithmetic c account endTime).control arithmetic c = .ok result :=
    control_ok positive (pushWindow_ne_nil _ _)
  obtain ⟨⟨after, between⟩, control⟩ := controlled
  have same : between.remoteFps = c.remoteFps :=
    congrArg RemoteCollector.remoteFps (control_collector control)
  obtain ⟨logged, log⟩ := logExpected_ok (same ▸ positive)
  exact ⟨_, bind_eq_ok_iff.mpr ⟨_, control, bind_eq_ok_iff.mpr ⟨logged, log, rfl⟩⟩⟩

theorem bufferCleared_ok : ∃ result, delays.bufferCleared arithmetic logging c = .ok result := by
  unfold bufferCleared
  split_ifs
  · apply exists_bind_eq_ok (logExpected_ok positive)
    intro logged
    exact ⟨_, rfl⟩
  · exact ⟨_, rfl⟩

end

theorem bufferCleared_collector {after : FrameDelays Double} {c' : ReceiverCollector}
    (done : delays.bufferCleared arithmetic logging c = .ok (after, c')) :
    c'.toRemoteCollector = c.toRemoteCollector := by
  unfold bufferCleared at done
  split_ifs at done
  · obtain ⟨logged, -, done⟩ := bind_eq_ok_iff.mp done
    obtain rfl := congrArg Prod.snd (Except.ok.inj done)
    rfl
  · obtain rfl := congrArg Prod.snd (Except.ok.inj done)
    rfl

end FrameDelays

section Insertion

variable {Double : Type} {arithmetic : DelayArithmetic Double} {logging : Bool}
  {assembles : List InsertedPacket → Bool}

namespace InsertionLoop

variable {loop : InsertionLoop Double} (positive : loop.collector.remoteFps ≠ 0)
include positive

/-- With a frame rate the end of a frame divides by it, and keeps it. -/
theorem endFrame_ok (last : InsertedPacket) :
    ∃ after, loop.endFrame arithmetic logging last = .ok after ∧
      after.collector.remoteFps = loop.collector.remoteFps := by
  unfold endFrame
  by_cases key : last.frameType = .kVideoFrameKey
  · rw [if_pos key]
    obtain ⟨logged, log⟩ := FrameDelays.logExpected_ok positive
    exact ⟨_, bind_eq_ok_iff.mpr ⟨logged, log, rfl⟩, rfl⟩
  · rw [if_neg key]
    obtain ⟨⟨delays, c⟩, closed⟩ := FrameDelays.closeDelta_ok positive loop.account last.arrivalTime
    exact ⟨_, bind_eq_ok_iff.mpr ⟨_, closed, rfl⟩,
      congrArg RemoteCollector.remoteFps (FrameDelays.closeDelta_collector closed)⟩

theorem insert_ok (packet : InsertedPacket) :
    ∃ after, loop.insert arithmetic logging assembles packet = .ok after ∧
      after.collector.remoteFps = loop.collector.remoteFps := by
  unfold insert
  dsimp only
  generalize (if packet.isFirstPacketInFrame then [packet] else loop.frame ++ [packet]) = frame
  split_ifs
  · refine endFrame_ok ?_ packet
    exact positive
  · exact ⟨_, rfl, rfl⟩

theorem foldlM_insert_ok (packets : List InsertedPacket) :
    ∃ after, packets.foldlM (insert arithmetic logging assembles) loop = .ok after ∧
      after.collector.remoteFps = loop.collector.remoteFps := by
  induction packets generalizing loop with
  | nil => exact ⟨loop, rfl, rfl⟩
  | cons packet packets ih =>
      obtain ⟨between, inserted, same⟩ := insert_ok positive packet
      obtain ⟨after, done, kept⟩ := ih (same ▸ positive)
      exact ⟨after, bind_eq_ok_iff.mpr ⟨between, inserted, done⟩, kept.trans same⟩

end InsertionLoop

/-- With a frame rate `OnInsertedPacket` returns, and keeps it. -/
theorem onInsertedPacket_ok {c : ReceiverCollector} (positive : c.remoteFps ≠ 0)
    (delays : FrameDelays Double) (packets : List InsertedPacket) (bufferCleared : Bool) :
    ∃ after c' closed, onInsertedPacket arithmetic logging assembles delays c packets
      bufferCleared = .ok (after, c', closed) ∧ c'.remoteFps = c.remoteFps := by
  have looped : ∃ after, packets.foldlM (InsertionLoop.insert arithmetic logging assembles)
      { delays := delays, collector := c } = .ok after ∧ after.collector.remoteFps = c.remoteFps :=
    InsertionLoop.foldlM_insert_ok positive packets
  obtain ⟨loop, looped, same⟩ := looped
  cases bufferCleared with
  | false => exact ⟨_, _, _, bind_eq_ok_iff.mpr ⟨loop, looped, rfl⟩, same⟩
  | true =>
      have cleared : ∃ result,
          loop.delays.bufferCleared arithmetic logging loop.collector = .ok result :=
        FrameDelays.bufferCleared_ok (same ▸ positive)
      obtain ⟨⟨after, c'⟩, cleared⟩ := cleared
      exact ⟨after, c', loop.closed,
        bind_eq_ok_iff.mpr ⟨loop, looped, bind_eq_ok_iff.mpr ⟨_, cleared, rfl⟩⟩,
        (congrArg RemoteCollector.remoteFps
          (FrameDelays.bufferCleared_collector cleared)).trans same⟩

end Insertion

section Messages

/-- The frame rate that an application packet sets. -/
def frameRateOf (block : CommonHeader) : Option UInt32 :=
  (App.parse block).bind fun app =>
    if app.subType = 2 ∧ app.name = kMpAppName then app.data.head?.map UInt8.toUInt32 else none

/-- Only an application packet with a frame rate changes it. -/
theorem handleApp_remoteFps {receiver next : AppReceiver} {behind : List UInt8} {now : Int}
    {block : CommonHeader} (handled : receiver.handleApp behind now block = .ok next) :
    next.collector.remoteFps = (frameRateOf block).getD receiver.collector.remoteFps := by
  unfold AppReceiver.handleApp at handled
  unfold frameRateOf
  cases parsed : App.parse block with
  | none =>
      rw [parsed] at handled
      obtain rfl := Except.ok.inj handled
      rfl
  | some app =>
      rw [parsed] at handled
      dsimp only at handled
      rw [Option.bind_some]
      by_cases frames : app.subType = 2 ∧ app.name = kMpAppName
      · rw [if_neg (fun both => absurd (frames.1.symm.trans both.2) (by decide)),
          if_neg (fun both => absurd (frames.1.symm.trans both.1) (by decide)),
          if_pos frames] at handled
        obtain ⟨fps, first, handled⟩ := bind_eq_ok_iff.mp handled
        obtain rfl := Except.ok.inj handled
        unfold App.first at first
        cases shape : app.data with
        | nil =>
            rw [shape] at first
            cases first
        | cons byte rest =>
            rw [shape] at first
            obtain rfl := Except.ok.inj first
            rw [if_pos frames]
            rfl
      · rw [if_neg frames] at handled ⊢
        split_ifs at handled
        · obtain ⟨parsed, -, handled⟩ := bind_eq_ok_iff.mp handled
          cases parsed with
          | none =>
              obtain rfl := Except.ok.inj handled
              rfl
          | some estimate =>
              obtain rfl := Except.ok.inj handled
              rfl
        · obtain ⟨signal, -, handled⟩ := bind_eq_ok_iff.mp handled
          obtain rfl := Except.ok.inj handled
          unfold AppReceiver.handleSignal
          split_ifs <;> rfl
        · obtain ⟨packets, -, handled⟩ := bind_eq_ok_iff.mp handled
          obtain rfl := Except.ok.inj handled
          rfl
        · obtain ⟨rate, -, handled⟩ := bind_eq_ok_iff.mp handled
          obtain rfl := Except.ok.inj handled
          rfl
        · obtain ⟨rate, -, handled⟩ := bind_eq_ok_iff.mp handled
          obtain rfl := Except.ok.inj handled
          rfl
        · obtain rfl := Except.ok.inj handled
          rfl

end Messages

/-- What happens at the receiver. Everything else that writes into the collector leaves the frame
rate. -/
inductive RateEvent
  | appPacket (behind : List UInt8) (now : Int) (block : CommonHeader)
  | othersWrite (c : ReceiverCollector)
  | insertedPackets (packets : List InsertedPacket) (bufferCleared : Bool)

/-- A byte is read past the data of an application packet, or something is divided by zero. -/
inductive RateFault
  | string (fault : StringFault)
  | division (fault : DivisionFault)

/-- What the packets of both kinds share. -/
structure RateReceiver (Double : Type) where
  collector : ReceiverCollector
  delays : FrameDelays Double

namespace RateReceiver

variable {Double : Type} (arithmetic : DelayArithmetic Double) (logging : Bool)
  (assembles : List InsertedPacket → Bool)

def step (receiver : RateReceiver Double) : RateEvent → Except RateFault (RateReceiver Double)
  | .appPacket behind now block =>
      match AppReceiver.handleApp { collector := receiver.collector.toRemoteCollector }
        behind now block with
      | .error fault => .error (.string fault)
      | .ok next =>
          .ok { receiver with
            collector := { receiver.collector with toRemoteCollector := next.collector } }
  | .othersWrite c =>
      .ok { receiver with collector := { c with remoteFps := receiver.collector.remoteFps } }
  | .insertedPackets packets bufferCleared =>
      match onInsertedPacket arithmetic logging assembles receiver.delays receiver.collector packets
        bufferCleared with
      | .error fault => .error (.division fault)
      | .ok (delays, c, _) => .ok ⟨c, delays⟩

end RateReceiver

/-- The frame rate after an event. -/
def RateEvent.rateAfter (rate : UInt32) : RateEvent → UInt32
  | .appPacket _ _ block => (frameRateOf block).getD rate
  | .othersWrite _ => rate
  | .insertedPackets _ _ => rate

/-- Whenever packets are inserted, the last frame rate that came before was not zero. -/
def RatesGiven (rate : UInt32) : List RateEvent → Prop
  | [] => True
  | .insertedPackets _ _ :: events => rate ≠ 0 ∧ RatesGiven rate events
  | event :: events => RatesGiven (event.rateAfter rate) events

section Runs

variable {Double : Type} {arithmetic : DelayArithmetic Double} {logging : Bool}
  {assembles : List InsertedPacket → Bool} {event : RateEvent}

/-- The frame rate of the collector is the last one that came. -/
theorem step_remoteFps {receiver next : RateReceiver Double}
    (stepped : receiver.step arithmetic logging assembles event = .ok next)
    (given : receiver.collector.remoteFps ≠ 0 ∨ ∀ packets bufferCleared,
      event ≠ .insertedPackets packets bufferCleared) :
    next.collector.remoteFps = event.rateAfter receiver.collector.remoteFps := by
  cases event with
  | appPacket behind now block =>
      unfold RateReceiver.step at stepped
      dsimp only at stepped
      split at stepped
      · cases stepped
      · rename_i after handled
        obtain rfl := Except.ok.inj stepped
        exact handleApp_remoteFps handled
  | othersWrite c =>
      obtain rfl := Except.ok.inj stepped
      rfl
  | insertedPackets packets bufferCleared =>
      have positive := given.resolve_right fun other => other _ _ rfl
      obtain ⟨delays, c, closed, inserted, same⟩ :=
        @onInsertedPacket_ok _ arithmetic logging assembles _ positive receiver.delays packets
          bufferCleared
      unfold RateReceiver.step at stepped
      dsimp only at stepped
      rw [inserted] at stepped
      obtain rfl := Except.ok.inj stepped
      exact same

/-- If the frame rate is known when packets are inserted, a step divides by nothing that is
zero. -/
theorem step_division {receiver : RateReceiver Double} {fault : DivisionFault}
    (given : receiver.collector.remoteFps ≠ 0 ∨ ∀ packets bufferCleared,
      event ≠ .insertedPackets packets bufferCleared) :
    receiver.step arithmetic logging assembles event ≠ .error (.division fault) := by
  intro failed
  cases event with
  | appPacket behind now block =>
      unfold RateReceiver.step at failed
      dsimp only at failed
      split at failed <;> cases failed
  | othersWrite c => cases failed
  | insertedPackets packets bufferCleared =>
      have positive := given.resolve_right fun other => other _ _ rfl
      obtain ⟨delays, c, closed, inserted, -⟩ :=
        @onInsertedPacket_ok _ arithmetic logging assembles _ positive receiver.delays packets
          bufferCleared
      unfold RateReceiver.step at failed
      dsimp only at failed
      rw [inserted] at failed
      cases failed

theorem given_cons {rate : UInt32} {events : List RateEvent}
    (given : RatesGiven rate (event :: events)) :
    (rate ≠ 0 ∨ ∀ packets bufferCleared, event ≠ .insertedPackets packets bufferCleared) ∧
      RatesGiven (event.rateAfter rate) events := by
  cases event with
  | appPacket behind now block => exact ⟨.inr fun _ _ => nofun, given⟩
  | othersWrite c => exact ⟨.inr fun _ _ => nofun, given⟩
  | insertedPackets packets bufferCleared => exact ⟨.inl given.1, given.2⟩

/-- **Division by the frame rate.** In every run in which, whenever packets are inserted, the last
frame rate that came before was not zero, nothing is divided by zero: neither 1000 by a frame
rate, nor a sum by the length of a window. -/
theorem run_divides_by_no_zero (receiver : RateReceiver Double) (events : List RateEvent)
    (given : RatesGiven receiver.collector.remoteFps events) (fault : DivisionFault) :
    events.foldlM (RateReceiver.step arithmetic logging assembles) receiver ≠
      .error (.division fault) := by
  induction events generalizing receiver with
  | nil => nofun
  | cons event events ih =>
      obtain ⟨known, later⟩ := given_cons given
      rw [List.foldlM_cons]
      cases stepped : receiver.step arithmetic logging assembles event with
      | error failed =>
          intro same
          exact step_division known (stepped.trans same)
      | ok next =>
          apply ih next
          rw [step_remoteFps stepped known]
          exact later

end Runs

section Examples

/-- An application packet with the frame rate in its first byte. -/
def frameRatePacket (fps : UInt8) : CommonHeader where
  type := 204
  fmt := 2
  paddingSize := 0
  payload := [0, 0, 0, 1, 115, 97, 110, 100, fps, 0, 0, 0]
  pathid := 1
  nextPacket := []

def freshRateReceiver : RateReceiver Int := ⟨twoPathCollector, freshDelays⟩

/-- A frame rate, and then a frame. -/
def rateThenFrame (fps : UInt8) : List RateEvent :=
  [.appPacket [] 0 (frameRatePacket fps),
    .insertedPackets (twoPathFrame .kVideoFrameDelta 100).packets false]

/-- Frame rate zero, and then a frame. -/
theorem divides_by_zero_rate :
    ¬ ∀ events : List RateEvent,
      events.foldlM (RateReceiver.step wholeArithmetic true fun _ => true) freshRateReceiver ≠
        .error (.division .byZero) := by
  intro never
  exact never (rateThenFrame 0) rfl

/-- Frame rate 25. -/
theorem run_divides_by_no_zero_instance :
    (rateThenFrame 25).foldlM (RateReceiver.step wholeArithmetic true fun _ => true)
      freshRateReceiver ≠ .error (.division .byZero) := by
  apply run_divides_by_no_zero
  change (25 : UInt32) ≠ 0 ∧ True
  exact ⟨by decide, trivial⟩

end Examples

end MpWebRtc
