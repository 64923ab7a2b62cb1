import MpWebRtc.Receiver.Window

/-!
# The law of the NACK list

The 16-bit numbers of a path wrap around, so a number alone does not say which packet is
meant. A run of a NACK module is therefore followed together with the places of its
packets among the numbers counted without wrapping: where the newest packet is, where
packets have been received, and where packets have been recovered before the newest one
got there.

The list is always short, within the window and without what has been received. Whether a
skipped number is put on it depends on the recovered packets: their list is only cleaned
when another packet is recovered, and a number that is left over from an earlier lap
passes for recovered.
-/

namespace MpWebRtc

open Math.Run Math.Serial

/-- What happens to one NACK module. -/
inductive NackEvent
  | packet (now : Int) (seqNum : UInt16) (isKeyframe isRecovered : Bool)
  | timer (now : Int)
  | updateRtt (rttMs : Int)
  deriving DecidableEq

/-- A NACK module and the places of the packets it has heard of. -/
structure NackRun where
  m : NackModule := {}
  newest : Int := 0
  received : List Int := []
  recovered : List Int := []

/-- The place of a number, as seen from the newest packet. -/
def NackRun.place (run : NackRun) (seqNum : UInt16) : Int :=
  if run.m.initialized then run.newest + offset run.m.newestSeqNum seqNum else seqNum.toNat

variable (settings : NackSettings)

/-- One event. A packet that is recovered ahead of the newest one is not counted as
received: the newest packet does not move. -/
def nackStep (run : NackRun) : NackEvent → NackRun × List NackRequest
  | .packet now seqNum isKeyframe isRecovered =>
      let heard := run.m.onReceivedPacket settings now seqNum isKeyframe isRecovered
      let place := run.place seqNum
      if run.m.initialized ∧ run.newest < place ∧ isRecovered then
        ({ run with
            m := heard.1
            recovered := place :: run.recovered }, [heard.2])
      else
        ({ run with
            m := heard.1
            newest := if run.m.initialized then max run.newest place else place
            received := place :: run.received }, [heard.2])
  | .timer now =>
      let timed := run.m.onTimer settings now
      ({ run with m := timed.1 }, [timed.2])
  | .updateRtt rttMs => ({ run with m := run.m.updateRtt rttMs }, [])

/-- The list is short, holds only numbers of the window, and nothing that has been
received since the newest packet passed it. -/
structure NackRun.Law (run : NackRun) : Prop where
  few : run.m.nackList.length ≤ 1000
  window : ∀ info ∈ run.m.nackList, InWindow run.m.newestSeqNum info.seqNum
  unheard : ∀ info ∈ run.m.nackList, run.place info.seqNum ∉ run.received

/-- The places that an event makes the newest packet skip. -/
def NackRun.Skips (run : NackRun) (event : NackEvent) (place : Int) : Prop :=
  run.m.initialized = true ∧ run.newest < place ∧ place < (nackStep settings run event).1.newest

/-- The number of a place has been received or recovered within the last 10000 numbers
before `newest`. -/
def NackRun.Known (run : NackRun) (newest place : Int) : Prop :=
  ∃ other ∈ run.received ++ run.recovered, wrap other = wrap place ∧ newest - 10000 ≤ other

/-- Everything skipped that is not known is put on the list, unless the list is cleared
and a key frame is requested. -/
def NackRun.Lists (run : NackRun) (event : NackEvent) : Prop :=
  let next := nackStep settings run event
  (next.1.m.nackList = [] ∧ ∃ request ∈ next.2, request.keyFrame = true) ∨
    ∀ place, run.Skips settings event place → ¬ run.Known next.1.newest place →
      wrap place ∈ next.1.m.missing

/-- No number that an event skips is on the list of recovered packets from an earlier
lap: it was recovered less than 65536 numbers before the packet that arrives. -/
def NackRun.Current (run : NackRun) (event : NackEvent) : Prop :=
  ∀ place, run.Skips settings event place →
    settings.seqNums.find (wrap place) run.m.recoveredList = true →
    ∃ other ∈ run.recovered, wrap other = wrap place ∧
      (nackStep settings run event).1.newest - 65536 < other

namespace NackModule

section Lists

variable {m : NackModule} (settings : NackSettings) (seqNums : SeqNumSet) (now : Int)

theorem length_insertNack (info : NackInfo) (nacks : List NackInfo) :
    (insertNack info nacks).length ≤ nacks.length + 1 := by
  have fewer := List.length_filter_le (fun other : NackInfo => other.seqNum ≠ info.seqNum) nacks
  unfold insertNack
  rw [List.orderedInsert_length]
  omega

theorem length_addMissing (recovered missing : List UInt16) (nacks : List NackInfo) :
    (addMissing seqNums now recovered nacks missing).length ≤ nacks.length + missing.length := by
  induction missing generalizing nacks with
  | nil => exact Nat.le_refl _
  | cons seq missing ih =>
      have rest := ih (if seqNums.find seq recovered then nacks
        else insertNack ⟨seq, seq, now, -1, 0⟩ nacks)
      have inserted := length_insertNack ⟨seq, seq, now, -1, 0⟩ nacks
      rw [List.length_cons]
      refine Nat.le_trans rest ?_
      split <;> omega

variable (start stop : UInt16)

theorem length_addPacketsToNack :
    (addPacketsToNack seqNums now m start stop).1.nackList.length ≤ 1000 := by
  have limit : kMaxNackPackets = 1000 := rfl
  unfold addPacketsToNack
  dsimp only
  split
  · exact Nat.zero_le _
  · next few =>
      have added := length_addMissing seqNums now m.recoveredList (seqNumsBetween start stop)
        (makeRoom seqNums (forwardDiff start stop).toNat 
          (eraseNacksOlder (stop - kMaxPacketAge) m.nackList) m.keyframeList).1
      rw [seqNumsBetween, List.length_map, List.length_range] at added
      exact Nat.le_trans added (by omega)

variable (nacks : List NackInfo)

/-- A number is listed and has not been NACKed yet. -/
def Unsent (seq : UInt16) : Prop :=
  ∃ info ∈ nacks, info.seqNum = seq ∧ info.retries = 0

theorem unsent_insertNack {info : NackInfo} (fresh : info.retries = 0) :
    Unsent (insertNack info nacks) info.seqNum :=
  ⟨info, (List.mem_orderedInsert ..).mpr (.inl rfl), rfl, fresh⟩

theorem Unsent.insertNack {seq : UInt16} {new : NackInfo} {nacks : List NackInfo}
    (unsent : Unsent nacks seq) (fresh : new.retries = 0) : Unsent (insertNack new nacks) seq := by
  obtain ⟨info, member, rfl, zero⟩ := unsent
  by_cases replaced : info.seqNum = new.seqNum
  · rw [replaced]
    exact unsent_insertNack nacks fresh
  · refine ⟨info, (List.mem_orderedInsert ..).mpr (.inr ?_), rfl, zero⟩
    exact List.mem_filter.mpr ⟨member, by simpa using replaced⟩

theorem Unsent.addMissing {seq : UInt16} {recovered missing : List UInt16}
    {nacks : List NackInfo} (unsent : Unsent nacks seq) :
    Unsent (addMissing seqNums now recovered nacks missing) seq := by
  induction missing generalizing nacks with
  | nil => exact unsent
  | cons other missing ih =>
      apply ih
      dsimp only
      split
      · exact unsent
      · exact unsent.insertNack rfl

/-- Every missing number that has not been recovered is put on the list. -/
theorem unsent_addMissing {seq : UInt16} {recovered missing : List UInt16}
    {nacks : List NackInfo} (skipped : seq ∈ missing) (lost : seqNums.find seq recovered ≠ true) :
    Unsent (addMissing seqNums now recovered nacks missing) seq := by
  induction missing generalizing nacks with
  | nil => simp at skipped
  | cons other missing ih =>
      rcases List.mem_cons.mp skipped with rfl | later
      · have inserted : Unsent
            (if seqNums.find seq recovered then nacks
              else NackModule.insertNack ⟨seq, seq, now, -1, 0⟩ nacks) seq := by
          rw [if_neg lost]
          exact unsent_insertNack nacks rfl
        exact inserted.addMissing seqNums now
      · exact ih later

/-- `AddPacketsToNack` either clears the list and requests a key frame, or lists what has
been skipped and not recovered. -/
theorem addPacketsToNack_lists :
    ((addPacketsToNack seqNums now m start stop).1.nackList = [] ∧
        (addPacketsToNack seqNums now m start stop).2 = true) ∨
      (forwardDiff start stop).toNat ≤ 1000 ∧
        ∀ seq ∈ seqNumsBetween start stop, seqNums.find seq m.recoveredList ≠ true →
          Unsent (addPacketsToNack seqNums now m start stop).1.nackList seq := by
  have limit : kMaxNackPackets = 1000 := rfl
  unfold addPacketsToNack
  dsimp only
  split
  · exact .inl ⟨rfl, rfl⟩
  · refine .inr ⟨by omega, fun seq skipped lost => ?_⟩
    exact unsent_addMissing seqNums now skipped lost

/-- A first NACK does not give a number up. -/
theorem Unsent.getNackBatch {seq : UInt16} (unsent : Unsent m.nackList seq)
    (options : NackFilterOptions) : seq ∈ (getNackBatch settings m now options).1.missing := by
  obtain ⟨info, member, rfl, zero⟩ := unsent
  have kept : ∃ sent, nackEntry settings m now options info = some sent ∧
      sent.seqNum = info.seqNum := by
    unfold nackEntry
    rw [zero, if_neg (show ¬ 0 + 1 ≥ kMaxNackRetries by decide)]
    split
    · exact ⟨_, rfl, rfl⟩
    · exact ⟨info, rfl, rfl⟩
  obtain ⟨sent, entry, same⟩ := kept
  refine List.mem_map.mpr ⟨sent, ?_, same⟩
  exact List.mem_filterMap.mpr ⟨info, member, entry⟩

end Lists

section Cases

/-! What `OnReceivedPacket` does, by where the packet is. -/

variable {m : NackModule} (settings : NackSettings) (now : Int)
  {seqNum : UInt16} (isKeyframe : Bool)

theorem onReceivedPacket_of_not_ahead (watching : m.Watching) (started : m.initialized = true)
    (isRecovered : Bool) (notAhead : offset m.newestSeqNum seqNum ≤ 0) :
    m.onReceivedPacket settings now seqNum isKeyframe isRecovered =
      ({ m with nackList := m.nackList.filter fun info => info.seqNum ≠ seqNum }, {}) := by
  unfold onReceivedPacket
  rw [if_neg (by simp [started])]
  by_cases same : seqNum = m.newestSeqNum
  · rw [if_pos same, List.filter_eq_self.mpr]
    intro info listed
    have other : info.seqNum ≠ seqNum := by
      rintro rfl
      exact watching.not_missing_newest (List.mem_map.mpr ⟨info, listed, same⟩)
    simpa using other
  · have behind : offset m.newestSeqNum seqNum < 0 := by
      refine lt_of_le_of_ne notAhead fun zero => same ?_
      simpa using (add_ofNat_offset (i := 0) zero).symm
    rw [if_neg same, if_pos ((offset_neg_iff ..).mp behind)]

/-- The module after cleaning its key frames for a packet ahead. -/
def withKeyframes (m : NackModule) (seqNums : SeqNumSet) (seqNum : UInt16) (isKeyframe : Bool) :
    NackModule :=
  { m with
    keyframeList := seqNums.eraseOlder (seqNum - kMaxPacketAge)
      (if isKeyframe then seqNums.insert seqNum m.keyframeList else m.keyframeList) }

theorem onReceivedPacket_ahead (started : m.initialized = true) (isRecovered : Bool)
    (ahead : 0 < offset m.newestSeqNum seqNum) :
    m.onReceivedPacket settings now seqNum isKeyframe isRecovered =
      let m := m.withKeyframes settings.seqNums seqNum isKeyframe
      if isRecovered then
        ({ m with
            recoveredList := settings.seqNums.eraseOlder (seqNum - kMaxPacketAge)
              (settings.seqNums.insert seqNum m.recoveredList) }, {})
      else
        let added := addPacketsToNack settings.seqNums now m (m.newestSeqNum + 1) seqNum
        let batch := getNackBatch settings { added.1 with newestSeqNum := seqNum } now .kSeqNumOnly
        (batch.1, { nackBatch := batch.2, keyFrame := added.2 }) := by
  have other : seqNum ≠ m.newestSeqNum := by
    rintro rfl
    rw [offset_self] at ahead
    omega
  have notBehind : ¬ aheadOf m.newestSeqNum seqNum = true := by
    rw [← offset_neg_iff]
    omega
  unfold onReceivedPacket
  rw [if_neg (by simp [started]), if_neg other, if_neg notBehind]
  rfl

end Cases

end NackModule

section Run

variable {settings : NackSettings} {run : NackRun}

/-- The law, and what it rests on. -/
structure NackRun.Lawful (run : NackRun) : Prop extends Law run where
  synced : run.m.initialized = true → wrap run.newest = run.m.newestSeqNum
  fresh : run.m.initialized = false →
    run.m.nackList = [] ∧ run.received = [] ∧ run.recovered = []
  passed : ∀ place ∈ run.received, place ≤ run.newest
  near : ∀ place ∈ run.recovered, place ≤ run.newest + 32768

theorem NackRun.Lawful.watching (lawful : run.Lawful) : run.m.Watching :=
  ⟨lawful.window, fun notStarted => (lawful.fresh notStarted).1⟩

theorem NackRun.place_of_started (started : run.m.initialized = true) (seqNum : UInt16) :
    run.place seqNum = run.newest + offset run.m.newestSeqNum seqNum := by
  rw [NackRun.place, if_pos started]

variable {seqNum : UInt16}

/-- A number within the window is behind the newest packet by its distance. -/
theorem NackRun.place_of_window (started : run.m.initialized = true)
    (window : InWindow run.m.newestSeqNum seqNum) :
    run.place seqNum = run.newest - (forwardDiff seqNum run.m.newestSeqNum).toNat := by
  rw [place_of_started started, offset_of_behind window.1 (by have := window.2; omega)]
  omega

theorem NackRun.wrap_place (started : run.m.initialized = true)
    (synced : wrap run.newest = run.m.newestSeqNum) (seqNum : UInt16) :
    wrap (run.place seqNum) = seqNum := by
  have position := emod_add_offset run.m.newestSeqNum seqNum
  have newest := toNat_wrap run.newest
  have place := toNat_wrap (run.place seqNum)
  rw [synced] at newest
  rw [place_of_started started] at place ⊢
  apply UInt16.toNat_inj.mp
  omega

/-- A batch of NACKs changes nothing but how often they have been sent. -/
theorem NackRun.Lawful.getNackBatch (lawful : run.Lawful) (now : Int)
    (options : NackModule.NackFilterOptions) :
    ({ run with m := (run.m.getNackBatch settings now options).1 } : NackRun).Lawful where
  few := Nat.le_trans (List.length_filterMap_le ..) lawful.few
  window := (lawful.watching.getNackBatch settings now options).window
  unheard := by
    intro info member
    obtain ⟨old, before, same⟩ := NackModule.mem_of_mem_getNackBatch settings now member
    exact same ▸ lawful.unheard old before
  synced := lawful.synced
  fresh := by
    intro notStarted
    have empty := lawful.fresh notStarted
    refine ⟨?_, empty.2⟩
    simp [NackModule.getNackBatch, empty.1]
  passed := lawful.passed
  near := lawful.near

/-- Key frames have no part in the law. -/
theorem NackRun.Lawful.withKeyframes (lawful : run.Lawful) (seqNums : SeqNumSet)
    (seqNum : UInt16) (isKeyframe : Bool) :
    ({ run with m := run.m.withKeyframes seqNums seqNum isKeyframe } : NackRun).Lawful :=
  ⟨⟨lawful.few, lawful.window, lawful.unheard⟩, lawful.synced, lawful.fresh, lawful.passed,
    lawful.near⟩

/-- How far a packet ahead moves the newest one. -/
theorem NackRun.place_of_ahead (started : run.m.initialized = true)
    (ahead : 0 < offset run.m.newestSeqNum seqNum) :
    run.place seqNum = run.newest + (forwardDiff run.m.newestSeqNum seqNum).toNat := by
  rw [place_of_started started, offset, if_pos ((offset_pos_iff ..).mp ahead)]

/-- A skipped number is behind the packet that skipped it by less than that packet has
moved the newest one. -/
theorem forwardDiff_of_skipped {newest next seq : UInt16}
    (short : (forwardDiff (newest + 1) next).toNat ≤ 1000)
    (skipped : seq ∈ NackModule.seqNumsBetween (newest + 1) next) :
    (forwardDiff seq next).toNat < (forwardDiff newest next).toNat := by
  have first := forwardDiff_succ newest
  have distance := forwardDiff_add newest (newest + 1) next (by omega)
  obtain ⟨i, inRange, rfl⟩ := List.mem_map.mp skipped
  rw [List.mem_range] at inRange
  have bound := (newest + 1).toNat_lt
  have ahead := next.toNat_lt
  rw [toNat_forwardDiff (newest + 1)] at inRange short distance
  rw [distance, first, toNat_forwardDiff, UInt16.toNat_add, UInt16.toNat_ofNat']
  omega

/-- The run after the newest packet has moved. -/
def NackRun.movedTo (run : NackRun) (m : NackModule) (place : Int) : NackRun :=
  { run with
    m := m
    newest := place
    received := place :: run.received }

/-- What is listed when the newest packet moves has not been received. -/
theorem NackRun.Lawful.unheard_advance (lawful : run.Lawful)
    (started : run.m.initialized = true) (seqNums : SeqNumSet) (now : Int)
    (ahead : 0 < offset run.m.newestSeqNum seqNum) {info : NackInfo} (member : info ∈
      (run.m.addPacketsToNack seqNums now (run.m.newestSeqNum + 1) seqNum).1.nackList) :
    run.place seqNum - (forwardDiff info.seqNum seqNum).toNat ∉ run.received := by
  intro heard
  have notAfter := lawful.passed _ heard
  have moved := place_of_ahead started ahead
  obtain ⟨few, kept | skipped⟩ := NackModule.mem_of_mem_addPacketsToNack seqNums now member
  · -- an entry that stays on the list stays in its place
    have first := forwardDiff_succ run.m.newestSeqNum
    have distance := forwardDiff_add run.m.newestSeqNum (run.m.newestSeqNum + 1) seqNum (by omega)
    have age := (lawful.window info kept.1).2
    have whole := forwardDiff_add info.seqNum run.m.newestSeqNum seqNum (by omega)
    have same : run.place info.seqNum =
        run.place seqNum - (forwardDiff info.seqNum seqNum).toNat := by
      rw [place_of_window started (lawful.window info kept.1)]
      omega
    rw [← same] at heard
    exact lawful.unheard info kept.1 heard
  · have closer := forwardDiff_of_skipped few skipped
    omega

/-- Moving on to a newer packet keeps the law. -/
theorem NackRun.Lawful.advance (lawful : run.Lawful) (started : run.m.initialized = true)
    (seqNums : SeqNumSet) (now : Int) {seqNum : UInt16}
    (ahead : 0 < offset run.m.newestSeqNum seqNum) :
    (run.movedTo { (run.m.addPacketsToNack seqNums now (run.m.newestSeqNum + 1) seqNum).1 with
        newestSeqNum := seqNum } (run.place seqNum)).Lawful := by
  have still := NackModule.addPacketsToNack_initialized (m := run.m) seqNums now
    (run.m.newestSeqNum + 1) seqNum
  have moved := place_of_ahead started ahead
  have window := (lawful.watching.advance seqNums now started seqNum).window
  refine ⟨⟨NackModule.length_addPacketsToNack .., window, ?_⟩, ?_, ?_, ?_, ?_⟩
  · intro info member
    have inside : InWindow seqNum info.seqNum := window info member
    have behind : (run.movedTo { (run.m.addPacketsToNack seqNums now (run.m.newestSeqNum + 1) seqNum).1 with
        newestSeqNum := seqNum } (run.place seqNum)).place info.seqNum =
          run.place seqNum - (forwardDiff info.seqNum seqNum).toNat :=
      place_of_window (still.trans started) inside
    rw [behind]
    intro heard
    rcases List.mem_cons.mp heard with same | before
    · have positive := inside.1
      omega
    · exact lawful.unheard_advance started seqNums now ahead member before
  · intro _
    exact wrap_place started (lawful.synced started) seqNum
  · intro notStarted
    exact absurd (still.symm.trans notStarted) (by simp [started])
  · intro place member
    change place ≤ run.place seqNum
    rcases List.mem_cons.mp member with rfl | before
    · exact Int.le_refl _
    · have := lawful.passed place before
      omega
  · intro place member
    have := lawful.near place member
    change place ≤ run.place seqNum + 32768
    omega

theorem nackStep_not_ahead (lawful : run.Lawful) (started : run.m.initialized = true) (now : Int)
    (isKeyframe isRecovered : Bool) (notAhead : offset run.m.newestSeqNum seqNum ≤ 0) :
    nackStep settings run (.packet now seqNum isKeyframe isRecovered) =
      ({ run with
          m := { run.m with
            nackList := run.m.nackList.filter fun info => info.seqNum ≠ seqNum }
          received := run.place seqNum :: run.received }, [{}]) := by
  have place := NackRun.place_of_started started seqNum
  unfold nackStep
  dsimp only
  rw [if_neg (by omega), if_pos started, Int.max_eq_left (by omega),
    NackModule.onReceivedPacket_of_not_ahead settings now isKeyframe lawful.watching started
      isRecovered notAhead]

theorem nackStep_recovered (started : run.m.initialized = true) (now : Int)
    (isKeyframe : Bool) (ahead : 0 < offset run.m.newestSeqNum seqNum) :
    nackStep settings run (.packet now seqNum isKeyframe true) =
      ({ run with
          m := { run.m.withKeyframes settings.seqNums seqNum isKeyframe with
            recoveredList := settings.seqNums.eraseOlder (seqNum - kMaxPacketAge)
              (settings.seqNums.insert seqNum run.m.recoveredList) }
          recovered := run.place seqNum :: run.recovered }, [{}]) := by
  have place := NackRun.place_of_started started seqNum
  unfold nackStep
  dsimp only
  rw [if_pos ⟨started, by omega, rfl⟩,
    NackModule.onReceivedPacket_ahead settings now isKeyframe started true ahead]
  rfl

theorem nackStep_advance (started : run.m.initialized = true) (now : Int)
    (isKeyframe : Bool) (ahead : 0 < offset run.m.newestSeqNum seqNum) :
    nackStep settings run (.packet now seqNum isKeyframe false) =
      let added := (run.m.withKeyframes settings.seqNums seqNum isKeyframe).addPacketsToNack
        settings.seqNums now (run.m.newestSeqNum + 1) seqNum
      let batch := NackModule.getNackBatch settings { added.1 with newestSeqNum := seqNum } now
        .kSeqNumOnly
      (run.movedTo batch.1 (run.place seqNum),
        [{ nackBatch := batch.2, keyFrame := added.2 }]) := by
  have place := NackRun.place_of_started started seqNum
  unfold nackStep
  dsimp only
  rw [if_neg (by simp), if_pos started, Int.max_eq_right (by omega),
    NackModule.onReceivedPacket_ahead settings now isKeyframe started false ahead]
  rfl

theorem NackRun.Lawful.first (lawful : run.Lawful) (notStarted : run.m.initialized = false)
    (now : Int) (seqNum : UInt16) (isKeyframe isRecovered : Bool) :
    (nackStep settings run (.packet now seqNum isKeyframe isRecovered)).1.Lawful := by
  obtain ⟨empty, noneReceived, noneRecovered⟩ := lawful.fresh notStarted
  have first : run.place seqNum = seqNum.toNat := by simp [NackRun.place, notStarted]
  unfold nackStep
  dsimp only
  rw [if_neg (by simp [notStarted]), if_neg (by simp [notStarted]), first]
  unfold NackModule.onReceivedPacket
  rw [if_pos (by simp [notStarted])]
  refine ⟨⟨?_, ?_, ?_⟩, ?_, ?_, ?_, ?_⟩
  · simp [empty]
  · simp [empty]
  · simp [empty]
  · intro _
    apply UInt16.toNat_inj.mp
    have place := toNat_wrap seqNum.toNat
    have bound := seqNum.toNat_lt
    dsimp only
    omega
  · simp
  · simp [noneReceived]
  · simp [noneRecovered]

theorem NackRun.Lawful.not_ahead (lawful : run.Lawful) (started : run.m.initialized = true)
    (notAhead : offset run.m.newestSeqNum seqNum ≤ 0) :
    ({ run with
      m := { run.m with nackList := run.m.nackList.filter fun info => info.seqNum ≠ seqNum }
      received := run.place seqNum :: run.received } : NackRun).Lawful := by
  refine ⟨⟨?_, ?_, ?_⟩, lawful.synced, ?_, ?_, lawful.near⟩
  · exact Nat.le_trans (List.length_filter_le ..) lawful.few
  · exact fun info member => lawful.window info (List.mem_of_mem_filter member)
  · intro info member heard
    obtain ⟨listed, other⟩ := List.mem_filter.mp member
    rcases List.mem_cons.mp heard with same | before
    · -- two numbers in one place are one number
      have number := congrArg wrap same
      change wrap (run.place info.seqNum) = _ at number
      rw [wrap_place started (lawful.synced started), wrap_place started (lawful.synced started)]
        at number
      simp [number] at other
    · exact lawful.unheard info listed before
  · exact fun notStarted => absurd (started.symm.trans notStarted) (by decide)
  · intro place member
    rcases List.mem_cons.mp member with rfl | before
    · have := place_of_started started seqNum
      dsimp only
      omega
    · exact lawful.passed place before

theorem NackRun.Lawful.recover (lawful : run.Lawful) (started : run.m.initialized = true)
    (keyframes recovered : List UInt16) :
    ({ run with
      m := { run.m with
        keyframeList := keyframes
        recoveredList := recovered }
      recovered := run.place seqNum :: run.recovered } : NackRun).Lawful := by
  refine ⟨⟨lawful.few, lawful.window, lawful.unheard⟩, lawful.synced, ?_, lawful.passed, ?_⟩
  · exact fun notStarted => absurd (started.symm.trans notStarted) (by decide)
  · intro place member
    rcases List.mem_cons.mp member with rfl | before
    · have bound := offset_le run.m.newestSeqNum seqNum
      have := place_of_started started seqNum
      dsimp only
      omega
    · exact lawful.near place before

/-- Everything that happens keeps the law. -/
theorem nackStep_lawful (settings : NackSettings) (run : NackRun) (event : NackEvent)
    (lawful : run.Lawful) : (nackStep settings run event).1.Lawful := by
  cases event with
  | packet now seqNum isKeyframe isRecovered =>
      cases started : run.m.initialized with
      | false => exact lawful.first started now seqNum isKeyframe isRecovered
      | true =>
          rcases lt_or_ge 0 (offset run.m.newestSeqNum seqNum) with ahead | notAhead
          · cases isRecovered with
            | true =>
                rw [nackStep_recovered started now isKeyframe ahead]
                exact lawful.recover started _ _
            | false =>
                rw [nackStep_advance started now isKeyframe ahead]
                exact ((lawful.withKeyframes _ seqNum isKeyframe).advance started _ now
                  ahead).getNackBatch now .kSeqNumOnly
          · rw [nackStep_not_ahead lawful started now isKeyframe isRecovered notAhead]
            exact lawful.not_ahead started notAhead
  | timer now => exact lawful.getNackBatch now .kTimeOnly
  | updateRtt rttMs =>
      exact ⟨⟨lawful.few, lawful.window, lawful.unheard⟩, lawful.synced, lawful.fresh,
        lawful.passed, lawful.near⟩

/-- The numbers of the places between two packets are those the module goes through. -/
theorem wrap_mem_seqNumsBetween {newest next place : Int} (after : newest < place)
    (before : place < next) (near : next - newest < 65536) :
    wrap place ∈ NackModule.seqNumsBetween (wrap newest + 1) (wrap next) := by
  have start : wrap newest + 1 = wrap (newest + 1) := wrap_add_ofNat newest 1
  have distance : ((forwardDiff (wrap (newest + 1)) (wrap next)).toNat : Int) =
      next - (newest + 1) := toNat_forwardDiff_wrap (by omega) (by omega)
  rw [start]
  refine List.mem_map.mpr ⟨(place - (newest + 1)).toNat, List.mem_range.mpr (by omega), ?_⟩
  rw [wrap_add_ofNat]
  congr 1
  omega

/-- A number that is on the list of recovered packets from this lap was recovered where it
is skipped. -/
theorem NackRun.Lawful.known_of_recovered (lawful : run.Lawful) {next place other : Int}
    (after : run.newest < place) (before : place < next) (near : next - run.newest ≤ 1001)
    (member : other ∈ run.recovered) (same : wrap other = wrap place)
    (current : next - 65536 < other) : run.Known next place := by
  have ahead := lawful.near other member
  have numbers := wrap_eq_iff.mp same
  have here : other = place := by omega
  exact ⟨other, List.mem_append_right _ member, same, by omega⟩

/-- An advance lists what it skips. -/
theorem NackRun.Lawful.lists_advance (lawful : run.Lawful) (started : run.m.initialized = true)
    (now : Int) (isKeyframe : Bool) (ahead : 0 < offset run.m.newestSeqNum seqNum)
    (current : run.Current settings (.packet now seqNum isKeyframe false)) :
    run.Lists settings (.packet now seqNum isKeyframe false) := by
  have synced := lawful.synced started
  have number := wrap_place started synced seqNum
  have moved := place_of_ahead started ahead
  unfold NackRun.Current at current
  unfold NackRun.Lists
  dsimp only
  rw [nackStep_advance started now isKeyframe ahead] at current ⊢
  rcases NackModule.addPacketsToNack_lists
      (m := run.m.withKeyframes settings.seqNums seqNum isKeyframe) settings.seqNums now (run.m.newestSeqNum + 1) seqNum with ⟨empty, requested⟩ | ⟨few, listed⟩
  · refine .inl ⟨?_, _, List.mem_singleton_self _, requested⟩
    change List.filterMap _ _ = []
    rw [empty]
    rfl
  · refine .inr fun place skipped unknown => ?_
    have first := forwardDiff_succ run.m.newestSeqNum
    have distance := forwardDiff_add run.m.newestSeqNum (run.m.newestSeqNum + 1) seqNum (by omega)
    obtain ⟨-, after, before⟩ := id skipped
    rw [nackStep_advance started now isKeyframe ahead] at before
    change place < run.place seqNum at before
    apply NackModule.Unsent.getNackBatch
    apply listed
    · have between := wrap_mem_seqNumsBetween after before (by omega)
      rwa [synced, number] at between
    · intro recovered
      obtain ⟨other, member, same, lap⟩ := current place skipped recovered
      have known : run.Known (run.place seqNum) place :=
        lawful.known_of_recovered after before (by omega) member same lap
      exact unknown known

/-- Whatever happens, what is skipped is listed, unless it passes for recovered. -/
theorem NackRun.Lawful.lists (lawful : run.Lawful) {event : NackEvent}
    (current : run.Current settings event) : run.Lists settings event := by
  have standing (stays : (nackStep settings run event).1.newest = run.newest) :
      run.Lists settings event := by
    refine .inr fun place skipped _ => ?_
    obtain ⟨-, after, before⟩ := skipped
    omega
  cases event with
  | packet now seqNum isKeyframe isRecovered =>
      cases started : run.m.initialized with
      | false =>
          refine .inr fun place skipped _ => ?_
          exact absurd (started.symm.trans skipped.1) (by decide)
      | true =>
          rcases lt_or_ge 0 (offset run.m.newestSeqNum seqNum) with ahead | notAhead
          · cases isRecovered with
            | true =>
                apply standing
                rw [nackStep_recovered started now isKeyframe ahead]
            | false => exact lawful.lists_advance started now isKeyframe ahead current
          · apply standing
            rw [nackStep_not_ahead lawful started now isKeyframe isRecovered notAhead]
  | timer now => exact standing rfl
  | updateRtt rttMs => exact standing rfl

theorem NackRun.lawful_init : ({} : NackRun).Lawful where
  few := Nat.zero_le _
  window := by simp
  unheard := by simp
  synced := by simp
  fresh := by simp
  passed := by simp
  near := by simp

theorem lawful_of_run (settings : NackSettings) (events : List NackEvent) :
    (finalState (nackStep settings) {} events).Lawful :=
  (along_true ({} : NackRun) events).invariant _
    (fun run event lawful _ => nackStep_lawful settings run event lawful) NackRun.lawful_init

/-- In every run in which no skipped number is left over from an earlier lap on the list
of recovered packets, the NACK list keeps its law and everything skipped is listed. -/
theorem nack_list_law (settings : NackSettings) (events : List NackEvent)
    (current : Along (nackStep settings) (NackRun.Current settings) {} events) :
    (∀ earlier later, events = earlier ++ later →
      (finalState (nackStep settings) {} earlier).Law) ∧
      Along (nackStep settings) (NackRun.Lists settings) {} events := by
  refine ⟨fun earlier _ _ => (lawful_of_run settings earlier).toLaw, ?_⟩
  exact current.of_invariant _ (fun run event lawful _ => nackStep_lawful settings run event lawful)
    (fun run event lawful => lawful.lists) NackRun.lawful_init

/-- The packet behind the wrap is recovered, and the others that are skipped are listed. -/
theorem nack_list_law_loss :
    Along (nackStep {}) (NackRun.Lists {}) {}
        [.packet 0 65534 false false, .packet 0 1 false true, .packet 0 3 false false] ∧
      (finalState (nackStep {}) {}
        [.packet 0 65534 false false, .packet 0 1 false true,
          .packet 0 3 false false]).m.missing = [65535, 0, 2] := by
  have current : Along (nackStep {}) (NackRun.Current {}) {}
      [.packet 0 65534 false false, .packet 0 1 false true, .packet 0 3 false false] := by
    refine ⟨fun place skipped => absurd skipped.1 (by decide), fun place _ recovered => ?_,
      fun place _ recovered => ?_, trivial⟩
    · exact absurd recovered Bool.false_ne_true
    · have number : wrap place = 1 := List.mem_singleton.mp (List.elem_iff.mp recovered)
      refine ⟨65537, List.mem_singleton_self _, ?_, by decide⟩
      rw [number]
      decide
  exact ⟨(nack_list_law {} _ current).2, by decide⟩

/-- Number 5 is recovered, and the numbers go round once without another recovery. When 5
is then lost, the packet that skips it does not list it. -/
theorem stale_recovery_suppresses_nack :
    ¬ Along (nackStep {}) (NackRun.Lists {}) {}
      [.packet 0 0 false false, .packet 0 5 false true, .packet 0 30000 false false,
        .packet 0 60000 false false, .packet 0 4 false false, .packet 0 6 false false] := by
  rintro ⟨-, -, -, -, -, listed, -⟩
  rcases listed with ⟨-, request, member, requested⟩ | listed
  · rw [List.mem_singleton.mp member] at requested
    exact absurd requested (by decide)
  · have lost := listed 65541 ⟨by decide, by decide, by decide⟩ (by
      rintro ⟨other, member, same, recent⟩
      revert other
      decide)
    exact absurd lost (by decide)

end Run

end MpWebRtc
