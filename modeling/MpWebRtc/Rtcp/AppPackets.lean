import MpWebRtc.Collector
import MpWebRtc.Math.CNumber
import MpWebRtc.Rtcp.CompoundSender

/-!
# Application packets

The signals and numbers of the other end come in application packets. `HandleApp` reads them
without a look at how much data there is: the first byte of a signal or a frame rate, and four
bytes of a number, which `atoi` reads from an array that has no end mark. The sender writes the
digits of a number into four bytes that are not initialised, and the frame rate into one.
-/

namespace MpWebRtc

open Math.Wire Math.CNumber

/-- `MpCollector`, with what the other end tells. -/
structure RemoteCollector extends Collector where
  remoteFps : UInt32 := 30
  remoteRr1 : Int := 0
  remoteRr2 : Int := 0
  quic : Int := 0

/-- `DataRate`, in kilobits. -/
inductive DataRate
  | minusInfinity
  | kilobitsPerSec (rate : Nat)
  | plusInfinity
  deriving DecidableEq

/-- `NetworkStateEstimate`, as far as a packet has it. -/
structure NetworkStateEstimate where
  linkCapacityLower : DataRate := .minusInfinity
  linkCapacityUpper : DataRate := .minusInfinity

namespace NetworkStateEstimate

/-- `DataRateSerializer::Read`. -/
def readRate (bytes : List UInt8) : DataRate :=
  if readBigEndian bytes = 0xffffff then .plusInfinity else .kilobitsPerSec (readBigEndian bytes)

/-- The loop of `RemoteEstimateSerializerImpl::Parse`. -/
def readFields : List UInt8 → NetworkStateEstimate → Except StringFault NetworkStateEstimate
  | [], estimate => .ok estimate
  | fieldId :: high :: middle :: low :: fields, estimate =>
      readFields fields
        (if fieldId = 1 then { estimate with linkCapacityLower := readRate [high, middle, low] }
        else if fieldId = 2 then
          { estimate with linkCapacityUpper := readRate [high, middle, low] }
        else estimate)
  | _, _ => .error .readPast

/-- `RemoteEstimate::ParseData`. -/
def parseData (data : List UInt8) : Except StringFault (Option NetworkStateEstimate) :=
  if data.length % 4 ≠ 0 then .ok none else (readFields data {}).map some

end NetworkStateEstimate

/-- `rtcp::App`. -/
structure App where
  subType : Nat
  senderSsrc : UInt32
  name : UInt32
  data : List UInt8

namespace App

/-- `App::Parse`. -/
def parse (block : CommonHeader) : Option App :=
  if block.payload.length < 8 then none
  else if block.payload.length % 4 ≠ 0 then none
  else
    some ⟨block.fmt, ReportBlock.readWord block.payload 0, ReportBlock.readWord block.payload 4,
      block.payload.drop 8⟩

/-- `app.data()[0]`. -/
def first (app : App) : Except StringFault UInt8 :=
  match app.data with
  | [] => .error .readPast
  | byte :: _ => .ok byte

/-- Copy the data to an array of four bytes, and read it as a number. What is behind the array
follows. -/
def number (app : App) (behind : List UInt8) : Except StringFault Int :=
  if app.data.length < 4 then .error .readPast else atoi (app.data.take 4 ++ behind)

end App

/-- "sand". -/
def kMpAppName : UInt32 := 0x73616e64

/-- `RemoteEstimate::kName` and `RemoteEstimate::kSubType`. -/
def kEstimateName : UInt32 := 0x676f6f67
def kEstimateSubType : Nat := 13

/-- What `HandleApp` writes. -/
structure AppReceiver where
  collector : RemoteCollector
  networkStateEstimate : Option NetworkStateEstimate := none
  numSkippedPackets : Nat := 0

namespace AppReceiver

variable (receiver : AppReceiver)

def skip : AppReceiver :=
  { receiver with numSkippedPackets := receiver.numSkippedPackets + 1 }

/-- The signals of subtype 1. -/
def handleSignal (now : Int) (signal : UInt8) : AppReceiver :=
  if signal = 97 then
    { receiver with
      collector := { receiver.collector with
        toCollector := receiver.collector.toCollector.mpSetFullSignal now } }
  else if signal = 98 then
    { receiver with
      collector := { receiver.collector with
        toCollector := receiver.collector.toCollector.mpSetHalfSignal now } }
  else if signal = 99 ∧ receiver.collector.quic = 0 then
    { receiver with collector := { receiver.collector with quic := 1 } }
  else receiver

/-- `HandleApp`. A number is read from an array with `behind` in the memory behind it. -/
def handleApp (behind : List UInt8) (now : Int) (block : CommonHeader) :
    Except StringFault AppReceiver :=
  match App.parse block with
  | none => .ok receiver.skip
  | some app =>
      if app.name = kEstimateName ∧ app.subType = kEstimateSubType then do
        match ← NetworkStateEstimate.parseData app.data with
        | some estimate => return { receiver with networkStateEstimate := some estimate }
        | none => return receiver.skip
      else if app.subType = 1 ∧ app.name = kMpAppName then do
        return receiver.handleSignal now (← app.first)
      else if app.subType = 2 ∧ app.name = kMpAppName then do
        let fps ← app.first
        return { receiver with collector := { receiver.collector with remoteFps := fps.toUInt32 } }
      else if app.subType = 3 then do
        let packets ← app.number behind
        return { receiver with
          collector := { receiver.collector with remoteAssymetry := packets } }
      else if app.subType = 4 then do
        let rate ← app.number behind
        return { receiver with collector := { receiver.collector with remoteRr1 := rate } }
      else if app.subType = 5 then do
        let rate ← app.number behind
        return { receiver with collector := { receiver.collector with remoteRr2 := rate } }
      else .ok receiver.skip

end AppReceiver

namespace RtcpSender

/-- The data of `BuildAPPMpAsymmetry`, `BuildAPPMpRR1` and `BuildAPPMpRR2`: the digits of the
number, written over four bytes of the heap. -/
def numberData (value : Nat) (heap : AppData) : Except StringFault AppData :=
  if long : 4 < (decimal value).length then .error .writePast
  else
    .ok ⟨decimal value ++ heap.val.drop (decimal value).length, by
      rw [List.length_append, List.length_drop, heap.property]
      omega⟩

/-- The data of `BuildAPPMPFrameRate`: the frame rate in the first byte. -/
def frameRateData (fps : UInt32) (heap : AppData) : AppData :=
  ⟨fps.toUInt8 :: heap.val.drop 1, by
    rw [List.length_cons, List.length_drop, heap.property]⟩

end RtcpSender

/-- What `HandleApp` needs of a packet: signal and frame rate have a first byte, a number has four
bytes and ends within them. -/
def AppEndsInside (block : CommonHeader) : Prop :=
  ∀ app, App.parse block = some app →
    (app.name = kMpAppName ∧ (app.subType = 1 ∨ app.subType = 2) → app.data ≠ []) ∧
      (3 ≤ app.subType ∧ app.subType ≤ 5 → 4 ≤ app.data.length ∧ Ends (app.data.take 4))

section Safety

variable {app : App}

theorem bind_return_ok_iff {Value Result : Type} {read : Except StringFault Value}
    {result : Value → Result} :
    (∃ next, (read >>= fun value => pure (result value)) = .ok next) ↔
      ∃ value, read = .ok value := by
  cases read with
  | error fault =>
      constructor
      · rintro ⟨next, done⟩
        cases done
      · rintro ⟨value, done⟩
        cases done
  | ok value => exact ⟨fun _ => ⟨value, rfl⟩, fun _ => ⟨result value, rfl⟩⟩

theorem first_ok_iff : (∃ byte, app.first = .ok byte) ↔ app.data ≠ [] := by
  unfold App.first
  split
  · rename_i empty
    refine ⟨?_, fun some => absurd empty some⟩
    rintro ⟨byte, done⟩
    cases done
  · rename_i byte rest shape
    refine ⟨fun _ => ?_, fun _ => ⟨byte, rfl⟩⟩
    rw [shape]
    exact List.cons_ne_nil _ _

theorem number_ok_iff :
    (∃ value, app.number [] = .ok value) ↔ 4 ≤ app.data.length ∧ Ends (app.data.take 4) := by
  unfold App.number
  by_cases enough : app.data.length < 4
  · rw [if_pos enough]
    refine ⟨?_, fun both => absurd enough (Nat.not_lt.mpr both.1)⟩
    rintro ⟨value, done⟩
    cases done
  · rw [if_neg enough, List.append_nil, atoi_ok_iff (by rw [List.length_take]; omega)]
    exact ⟨fun ends => ⟨Nat.not_lt.mp enough, ends⟩, And.right⟩

/-- The fields of an estimate take four bytes each. -/
theorem readFields_ok : (data : List UInt8) → (estimate : NetworkStateEstimate) →
    data.length % 4 = 0 → ∃ result, NetworkStateEstimate.readFields data estimate = .ok result
  | [], estimate, _ => ⟨estimate, rfl⟩
  | [_], _, whole => nomatch whole
  | [_, _], _, whole => nomatch whole
  | [_, _, _], _, whole => nomatch whole
  | _ :: _ :: _ :: _ :: fields, _, whole =>
      readFields_ok fields _ (by simpa only [List.length_cons, Nat.add_assoc, Nat.add_mod_right]
        using whole)

theorem parseData_ok (data : List UInt8) :
    ∃ result, NetworkStateEstimate.parseData data = .ok result := by
  unfold NetworkStateEstimate.parseData
  by_cases whole : data.length % 4 = 0
  · obtain ⟨estimate, read⟩ := readFields_ok data {} whole
    rw [if_neg (not_not_intro whole), read]
    exact ⟨some estimate, rfl⟩
  · rw [if_pos whole]
    exact ⟨none, rfl⟩

variable (receiver : AppReceiver) (now : Int) (block : CommonHeader)

theorem handleApp_ok_iff :
    (∃ next, receiver.handleApp [] now block = .ok next) ↔ AppEndsInside block := by
  unfold AppReceiver.handleApp AppEndsInside
  cases parsed : App.parse block with
  | none => exact ⟨fun _ app found => (nomatch found), fun _ => ⟨receiver.skip, rfl⟩⟩
  | some app =>
      have only : (∀ other, some app = some other →
          (other.name = kMpAppName ∧ (other.subType = 1 ∨ other.subType = 2) → other.data ≠ []) ∧
            (3 ≤ other.subType ∧ other.subType ≤ 5 →
              4 ≤ other.data.length ∧ Ends (other.data.take 4))) ↔
          (app.name = kMpAppName ∧ (app.subType = 1 ∨ app.subType = 2) → app.data ≠ []) ∧
            (3 ≤ app.subType ∧ app.subType ≤ 5 →
              4 ≤ app.data.length ∧ Ends (app.data.take 4)) := by
        refine ⟨fun all => all app rfl, fun own other same => ?_⟩
        obtain rfl := Option.some.inj same
        exact own
      rw [only]
      dsimp only
      by_cases estimate : app.name = kEstimateName ∧ app.subType = kEstimateSubType
      · rw [if_pos estimate]
        have other : app.subType = 13 := estimate.2
        obtain ⟨result, read⟩ := parseData_ok app.data
        rw [read]
        refine ⟨fun _ => ⟨fun both => ?_, fun both => ?_⟩, fun _ => ?_⟩
        · omega
        · omega
        · cases result with
          | none => exact ⟨_, rfl⟩
          | some estimate => exact ⟨_, rfl⟩
      rw [if_neg estimate]
      by_cases signal : app.subType = 1 ∧ app.name = kMpAppName
      · rw [if_pos signal, bind_return_ok_iff, first_ok_iff]
        exact ⟨fun some => ⟨fun _ => some, fun range => by omega⟩,
          fun both => both.1 ⟨signal.2, .inl signal.1⟩⟩
      rw [if_neg signal]
      by_cases frames : app.subType = 2 ∧ app.name = kMpAppName
      · rw [if_pos frames, bind_return_ok_iff, first_ok_iff]
        exact ⟨fun some => ⟨fun _ => some, fun range => by omega⟩,
          fun both => both.1 ⟨frames.2, .inr frames.1⟩⟩
      rw [if_neg frames]
      have named : ¬(app.name = kMpAppName ∧ (app.subType = 1 ∨ app.subType = 2)) := by
        rintro ⟨name, one | two⟩
        · exact signal ⟨one, name⟩
        · exact frames ⟨two, name⟩
      have rest (number : 3 ≤ app.subType ∧ app.subType ≤ 5) :
          (∃ value, app.number [] = .ok value) ↔
            (app.name = kMpAppName ∧ (app.subType = 1 ∨ app.subType = 2) → app.data ≠ []) ∧
              (3 ≤ app.subType ∧ app.subType ≤ 5 →
                4 ≤ app.data.length ∧ Ends (app.data.take 4)) := by
        rw [number_ok_iff]
        exact ⟨fun ends => ⟨fun own => absurd own named, fun _ => ends⟩, fun both => both.2 number⟩
      by_cases packets : app.subType = 3
      · rw [if_pos packets, bind_return_ok_iff]
        exact rest (by omega)
      rw [if_neg packets]
      by_cases rate1 : app.subType = 4
      · rw [if_pos rate1, bind_return_ok_iff]
        exact rest (by omega)
      rw [if_neg rate1]
      by_cases rate2 : app.subType = 5
      · rw [if_pos rate2, bind_return_ok_iff]
        exact rest (by omega)
      rw [if_neg rate2]
      exact ⟨fun _ => ⟨fun own => absurd own named, fun range => by omega⟩,
        fun _ => ⟨receiver.skip, rfl⟩⟩

variable {receiver now block} {behind : List UInt8}

/-- Of the subtypes only those from 1 to 5 change the collector. -/
theorem handleApp_collector {next : AppReceiver}
    (handled : receiver.handleApp behind now block = .ok next)
    (changed : next.collector ≠ receiver.collector) : 1 ≤ block.fmt ∧ block.fmt ≤ 5 := by
  unfold AppReceiver.handleApp at handled
  cases parsed : App.parse block with
  | none =>
      rw [parsed] at handled
      obtain rfl := Except.ok.inj handled
      exact absurd rfl changed
  | some app =>
      have subType : app.subType = block.fmt := by
        unfold App.parse at parsed
        split_ifs at parsed
        obtain rfl := Option.some.inj parsed
        rfl
      rw [parsed] at handled
      dsimp only at handled
      rw [← subType]
      by_contra outside
      by_cases estimate : app.name = kEstimateName ∧ app.subType = kEstimateSubType
      · rw [if_pos estimate] at handled
        obtain ⟨result, read⟩ := parseData_ok app.data
        rw [read] at handled
        cases result with
        | none =>
            obtain rfl := Except.ok.inj handled
            exact changed rfl
        | some estimate =>
            obtain rfl := Except.ok.inj handled
            exact changed rfl
      · rw [if_neg estimate, if_neg (fun both => outside (by omega)),
          if_neg (fun both => outside (by omega)), if_neg (fun same => outside (by omega)),
          if_neg (fun same => outside (by omega)), if_neg (fun same => outside (by omega))] at handled
        obtain rfl := Except.ok.inj handled
        exact changed rfl

end Safety

/-- **When application packets are read safely.** No byte is read past the data or the array of a
number exactly if signals and frame rates are not empty and numbers have four bytes and end
within them. Whatever is read, the collector is changed by the subtypes from 1 to 5 only. -/
theorem app_handled_safely_iff (receiver : AppReceiver) (now : Int) (block : CommonHeader) :
    ((∃ next, receiver.handleApp [] now block = .ok next) ↔ AppEndsInside block) ∧
      ∀ (behind : List UInt8) (next : AppReceiver),
        receiver.handleApp behind now block = .ok next → next.collector ≠ receiver.collector →
          1 ≤ block.fmt ∧ block.fmt ≤ 5 :=
  ⟨handleApp_ok_iff receiver now block, fun _ _ handled changed =>
    handleApp_collector handled changed⟩

def freshReceiver : AppReceiver where
  collector := { toCollector := Collector.initial 0 0 }

/-- A number without data. -/
theorem app_reads_past_data :
    freshReceiver.handleApp [] 0 ⟨204, 3, 0, [0, 0, 0, 1, 115, 97, 110, 100], 1, []⟩ =
      .error .readPast :=
  rfl

section RoundTrip

/-- A number of the sender is stored by the receiver as it was. -/
def StoresNumber (sender : RtcpSender) (receiver : AppReceiver) (pathid : Int32) (now : Int)
    (heap : AppData) (behind : List UInt8) (value : Nat) (subType : Fin 32)
    (stored : RemoteCollector → Int) : Prop :=
  ∃ data header next, RtcpSender.numberData value heap = .ok data ∧
    CommonHeader.parse (sender.buildAPP pathid subType data).bytes = some header ∧
    receiver.handleApp behind now header = .ok next ∧ stored next.collector = value

/-- The digits fit into four bytes, and what follows them, in the rest of these or in the memory
behind the receiver's array, is no digit. Zeros may follow 0. -/
structure NumberArrives (heap : AppData) (behind : List UInt8) (value : Nat) : Prop where
  short : (decimal value).length ≤ 4
  ended : ∃ byte ∈ heap.val.drop (decimal value).length ++ behind, isDigit byte = false
  alone : ∀ byte ∈ (heap.val.drop (decimal value).length ++ behind).takeWhile isDigit,
    value = 0 ∧ byte = 48

variable {sender : RtcpSender} {receiver : AppReceiver} {pathid : Int32} {now : Int}
variable {heap : AppData} {behind : List UInt8} {value : Nat}

/-- An application packet is read back. -/
theorem parse_buildAPP (subType : Fin 32) (data : AppData) :
    ∃ header, CommonHeader.parse (sender.buildAPP pathid subType data).bytes = some header ∧
      App.parse header = some ⟨subType, sender.ssrc, kMpAppName, data.val⟩ := by
  have size : (sender.buildAPP pathid subType data).payload.length = 12 := by
    change (wordBytes sender.ssrc ++ wordBytes kMpAppName ++ data.val).length = 12
    rw [List.length_append, List.length_append, length_wordBytes, length_wordBytes, data.property]
  have short : (sender.buildAPP pathid subType data).blockLength ≤ 65536 := by
    change kHeaderLength + (sender.buildAPP pathid subType data).payload.length ≤ 65536
    rw [size]
    decide
  have parsed := (sender.buildAPP pathid subType data).parse_bytes short []
  rw [List.append_nil] at parsed
  refine ⟨_, parsed, ?_⟩
  have shape : (sender.buildAPP pathid subType data).payload =
      wordBytes sender.ssrc ++ (wordBytes kMpAppName ++ data.val) := List.append_assoc _ _ _
  rw [App.parse]
  dsimp only
  rw [size, if_neg (by decide), if_neg (by decide), shape, ReportBlock.readWord_wordBytes,
    ReportBlock.readWord_second]
  rfl

/-- A number comes as the digits and what is left in the heap. -/
theorem number_eq_iff (subType : Nat) (senderSsrc name : UInt32)
    (short : (decimal value).length ≤ 4) :
    App.number ⟨subType, senderSsrc, name,
        decimal value ++ heap.val.drop (decimal value).length⟩ behind = .ok (value : Int) ↔
      NumberArrives heap behind value := by
  have size : (decimal value ++ heap.val.drop (decimal value).length).length = 4 := by
    rw [List.length_append, List.length_drop, heap.property]
    omega
  have small : value < 2147483648 := (lt_of_length_decimal short).trans (by decide)
  unfold App.number
  dsimp only
  rw [if_neg (by omega), List.take_of_length_le (by omega), List.append_assoc,
    atoi_decimal_eq_iff small]
  exact ⟨fun both => ⟨short, both.1, both.2⟩, fun arrives => ⟨arrives.ended, arrives.alone⟩⟩

theorem storesNumber_iff {subType : Fin 32} {stored : RemoteCollector → Int}
    (handles : ∀ (header : CommonHeader) (app : App), App.parse header = some app →
      app.subType = subType → app.name = kMpAppName → ∀ number : Int,
        (∃ next, receiver.handleApp behind now header = .ok next ∧
          stored next.collector = number) ↔ app.number behind = .ok number) :
    StoresNumber sender receiver pathid now heap behind value subType stored ↔
      NumberArrives heap behind value := by
  unfold StoresNumber RtcpSender.numberData
  by_cases short : (decimal value).length ≤ 4
  · rw [dif_neg (Nat.not_lt.mpr short)]
    obtain ⟨header, parsed, app⟩ := @parse_buildAPP sender pathid subType
      ⟨decimal value ++ heap.val.drop (decimal value).length, by
        rw [List.length_append, List.length_drop, heap.property]
        omega⟩
    have known := handles header _ app rfl rfl value
    rw [number_eq_iff _ _ _ short] at known
    rw [← known]
    constructor
    · rintro ⟨data, other, next, made, read, handled, same⟩
      obtain rfl := Except.ok.inj made
      rw [parsed] at read
      obtain rfl := Option.some.inj read
      exact ⟨next, handled, same⟩
    · rintro ⟨next, handled, same⟩
      exact ⟨_, header, next, rfl, parsed, handled, same⟩
  · rw [dif_pos (Nat.not_le.mp short)]
    refine ⟨?_, fun arrives => absurd arrives.short short⟩
    rintro ⟨data, header, next, made, -⟩
    cases made

theorem mpAppName_ne : kMpAppName ≠ kEstimateName := by decide

theorem bind_stored_iff {read : Except StringFault Int} {result : Int → AppReceiver}
    {stored : RemoteCollector → Int} (kept : ∀ number, stored (result number).collector = number)
    (number : Int) :
    (∃ next, (read >>= fun value => pure (result value)) = .ok next ∧
      stored next.collector = number) ↔ read = .ok number := by
  cases read with
  | error fault =>
      constructor
      · rintro ⟨next, done, -⟩
        cases done
      · intro done
        cases done
  | ok value =>
      constructor
      · rintro ⟨next, done, same⟩
        obtain rfl := Except.ok.inj done
        rw [← same, kept]
      · intro done
        obtain rfl := Except.ok.inj done
        exact ⟨result value, rfl, kept value⟩

/-- **When numbers arrive.** The receiver stores a number of the collector as the sender read it
exactly if its digits fit and no digit follows them, in any of the three kinds, and a frame rate
exactly if it fits into a byte. -/
theorem app_numbers_arrive_iff (sender : RtcpSender) (receiver : AppReceiver) (pathid : Int32)
    (now : Int) (heap : AppData) (behind : List UInt8) (value : Nat) (fps : UInt32) :
    (StoresNumber sender receiver pathid now heap behind value 3
        (fun collector => collector.remoteAssymetry) ↔ NumberArrives heap behind value) ∧
      (StoresNumber sender receiver pathid now heap behind value 4 RemoteCollector.remoteRr1 ↔
        NumberArrives heap behind value) ∧
      (StoresNumber sender receiver pathid now heap behind value 5 RemoteCollector.remoteRr2 ↔
        NumberArrives heap behind value) ∧
      ((∃ header next,
        CommonHeader.parse (sender.buildAPP pathid 2 (RtcpSender.frameRateData fps heap)).bytes =
          some header ∧
        receiver.handleApp behind now header = .ok next ∧ next.collector.remoteFps = fps) ↔
          fps < 256) := by
  refine ⟨storesNumber_iff ?_, storesNumber_iff ?_, storesNumber_iff ?_, ?_⟩
  · intro header app parsed subType name number
    rw [AppReceiver.handleApp, parsed]
    dsimp only
    rw [name, subType, if_neg (fun both => mpAppName_ne both.1),
      if_neg (fun both => absurd both.1 (by decide)),
      if_neg (fun both => absurd both.1 (by decide)), if_pos (by decide)]
    refine @bind_stored_iff _ _ (fun collector => collector.remoteAssymetry) ?_ number
    exact fun _ => rfl
  · intro header app parsed subType name number
    rw [AppReceiver.handleApp, parsed]
    dsimp only
    rw [name, subType, if_neg (fun both => mpAppName_ne both.1),
      if_neg (fun both => absurd both.1 (by decide)),
      if_neg (fun both => absurd both.1 (by decide)), if_neg (by decide), if_pos (by decide)]
    refine bind_stored_iff ?_ number
    exact fun _ => rfl
  · intro header app parsed subType name number
    rw [AppReceiver.handleApp, parsed]
    dsimp only
    rw [name, subType, if_neg (fun both => mpAppName_ne both.1),
      if_neg (fun both => absurd both.1 (by decide)),
      if_neg (fun both => absurd both.1 (by decide)), if_neg (by decide), if_neg (by decide),
      if_pos (by decide)]
    refine bind_stored_iff ?_ number
    exact fun _ => rfl
  · obtain ⟨header, parsed, app⟩ :=
      @parse_buildAPP sender pathid 2 (RtcpSender.frameRateData fps heap)
    have handled : receiver.handleApp behind now header = .ok { receiver with
        collector := { receiver.collector with remoteFps := fps.toUInt8.toUInt32 } } := by
      rw [AppReceiver.handleApp, app]
      rfl
    have fits : fps.toUInt8.toUInt32 = fps ↔ fps < 256 := by
      rw [← UInt32.toNat_inj, UInt32.lt_iff_toNat_lt]
      change fps.toNat % 256 = fps.toNat ↔ fps.toNat < 256
      omega
    rw [← fits]
    constructor
    · rintro ⟨other, next, read, stored, same⟩
      rw [parsed] at read
      obtain rfl := Option.some.inj read
      rw [handled] at stored
      obtain rfl := Except.ok.inj stored
      exact same
    · intro same
      exact ⟨header, _, parsed, handled, same⟩

/-- Behind 12 the heap has the digit 5. -/
theorem app_number_garbled :
    ((RtcpSender.numberData 12 ⟨[48, 48, 53, 0], rfl⟩).toOption.bind fun data =>
      (CommonHeader.parse
        (RtcpSender.buildAPP { ssrc := 1, remoteSsrc := 2 } 1 3 data).bytes).bind fun header =>
          (freshReceiver.handleApp [] 0 header).toOption.map fun next =>
            next.collector.remoteAssymetry) = some 125 := by
  decide

end RoundTrip

end MpWebRtc
