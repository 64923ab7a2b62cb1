import MpWebRtc.Math.Run
import MpWebRtc.Receiver.Notice

/-!
# The window of missing packets

Whatever arrives, a NACK list holds only numbers that are behind the newest packet, and
not by more than the maximal age. Hence a number on the list is recognised as old when
it arrives after all, and hearing of a number always takes it off the list.
-/

namespace MpWebRtc

open Math.Run Math.Serial

/-- The numbers on the NACK list. -/
def NackModule.missing (m : NackModule) : List UInt16 := m.nackList.map (·.seqNum)

/-- A number that may be missing when `newest` is the newest packet. -/
def InWindow (newest seq : UInt16) : Prop :=
  0 < (forwardDiff seq newest).toNat ∧ (forwardDiff seq newest).toNat ≤ 10000

/-- The NACK list is within the window, and empty before the first packet. -/
structure NackModule.Watching (m : NackModule) : Prop where
  window : ∀ info ∈ m.nackList, InWindow m.newestSeqNum info.seqNum
  fresh : m.initialized = false → m.nackList = []

section Window

theorem InWindow.aheadOf {newest seq : UInt16} (inWindow : InWindow newest seq) :
    aheadOf newest seq := by
  obtain ⟨positive, short⟩ := inWindow
  exact aheadOf_of_forwardDiff positive (by omega)

theorem not_inWindow_self (seq : UInt16) : ¬ InWindow seq seq := by
  rintro ⟨positive, -⟩
  exact absurd rfl (ne_of_forwardDiff positive)

variable {newest next seq : UInt16}

/-- Moving the newest packet forward by `d` keeps what is not too old by then. -/
theorem InWindow.advance (inWindow : InWindow newest seq)
    (short : (forwardDiff newest next).toNat ≤ 1001)
    (young : Math.Serial.aheadOf (next - kMaxPacketAge) seq = false) : InWindow next seq := by
  obtain ⟨positive, age⟩ := inWindow
  have whole := forwardDiff_add seq newest next (by omega)
  refine ⟨by omega, ?_⟩
  by_contra old
  have rest : (forwardDiff seq (next - kMaxPacketAge)).toNat =
      (forwardDiff seq next).toNat - 10000 := by
    have bound := next.toNat_lt
    have whole := toNat_forwardDiff seq next
    rw [toNat_forwardDiff, UInt16.toNat_sub, show kMaxPacketAge.toNat = 10000 from rfl]
    omega
  have ahead := aheadOf_of_forwardDiff (a := next - kMaxPacketAge) (b := seq) (by omega) (by omega)
  rw [young] at ahead
  exact Bool.false_ne_true ahead

/-- The numbers skipped by a packet are within its window. -/
theorem inWindow_of_skipped (short : (forwardDiff (newest + 1) next).toNat ≤ 1000)
    (skipped : seq ∈ NackModule.seqNumsBetween (newest + 1) next) : InWindow next seq := by
  obtain ⟨i, inRange, rfl⟩ := List.mem_map.mp skipped
  rw [List.mem_range] at inRange
  have bound := (newest + 1).toNat_lt
  have ahead := next.toNat_lt
  unfold InWindow
  rw [toNat_forwardDiff] at *
  rw [UInt16.toNat_add, UInt16.toNat_ofNat']
  omega

end Window

namespace NackModule

section Module

variable {m : NackModule} (settings : NackSettings) (seqNums : SeqNumSet) (now : Int)

variable {nacks : List NackInfo}

theorem mem_of_mem_insertNack {info new : NackInfo}
    (member : info ∈ insertNack new nacks) : info ∈ nacks ∨ info = new := by
  rcases (List.mem_orderedInsert ..).mp member with same | kept
  · exact .inr same
  · exact .inl (List.mem_of_mem_filter kept)

variable {info : NackInfo}

theorem mem_of_mem_addMissing {recovered : List UInt16} {missing : List UInt16}
    (member : info ∈ addMissing seqNums now recovered nacks missing) :
    info ∈ nacks ∨ info.seqNum ∈ missing := by
  induction missing generalizing nacks with
  | nil => exact .inl member
  | cons seq missing ih =>
      rcases ih member with added | later
      · dsimp only at added
        split at added
        · exact .inl added
        · rcases mem_of_mem_insertNack added with kept | rfl
          · exact .inl kept
          · exact .inr (List.mem_cons_self ..)
      · exact .inr (List.mem_cons_of_mem _ later)

theorem removePacketsUntilKeyFrame_subset (nacks : List NackInfo) (keys : List UInt16) :
    (removePacketsUntilKeyFrame seqNums nacks keys).2.1 ⊆ nacks := by
  induction keys with
  | nil => exact List.Subset.refl _
  | cons key keys ih =>
      unfold removePacketsUntilKeyFrame
      dsimp only
      split
      · exact List.drop_subset ..
      · exact ih

theorem shrink_subset (added fuel : Nat) (nacks : List NackInfo) (keys : List UInt16) :
    (shrink seqNums added fuel nacks keys).1 ⊆ nacks := by
  induction fuel generalizing nacks keys with
  | zero => exact List.Subset.refl _
  | succ fuel ih =>
      have removed := removePacketsUntilKeyFrame_subset seqNums nacks keys
      unfold shrink
      dsimp only
      split
      · exact List.Subset.trans (ih _ _) removed
      · exact removed

theorem makeRoom_subset (added : Nat) (nacks : List NackInfo) (keys : List UInt16) :
    (makeRoom seqNums added nacks keys).1 ⊆ nacks := by
  unfold makeRoom
  split
  · exact shrink_subset ..
  · exact List.Subset.refl _

/-- What is on the list after `AddPacketsToNack`: young packets that were on it before,
and packets that have been skipped, unless there are too many of them. -/
theorem mem_of_mem_addPacketsToNack {start stop : UInt16}
    (member : info ∈ (addPacketsToNack seqNums now m start stop).1.nackList) :
    (forwardDiff start stop).toNat ≤ 1000 ∧
      ((info ∈ m.nackList ∧ aheadOf (stop - kMaxPacketAge) info.seqNum = false) ∨
        info.seqNum ∈ seqNumsBetween start stop) := by
  unfold addPacketsToNack at member
  dsimp only at member
  split at member
  · simp at member
  · rename_i few
    have limit : kMaxNackPackets = 1000 := rfl
    refine ⟨by omega, ?_⟩
    rcases mem_of_mem_addMissing seqNums now member with kept | skipped
    · obtain ⟨before, notOld⟩ := List.mem_filter.mp (makeRoom_subset _ _ _ _ kept)
      exact .inl ⟨before, by simpa using notOld⟩
    · exact .inr skipped

theorem addPacketsToNack_initialized (start stop : UInt16) :
    (addPacketsToNack seqNums now m start stop).1.initialized = m.initialized := by
  unfold addPacketsToNack
  dsimp only
  split <;> rfl

theorem mem_of_mem_getNackBatch {options : NackFilterOptions}
    (member : info ∈ (getNackBatch settings m now options).1.nackList) :
    ∃ old ∈ m.nackList, old.seqNum = info.seqNum := by
  obtain ⟨old, before, entry⟩ := List.mem_filterMap.mp member
  refine ⟨old, before, ?_⟩
  unfold nackEntry at entry
  split at entry
  · split at entry
    · simp at entry
    · obtain rfl := Option.some.inj entry
      rfl
  · exact congrArg _ (Option.some.inj entry)

variable (watching : m.Watching)
include watching

theorem Watching.getNackBatch (options : NackFilterOptions) :
    (getNackBatch settings m now options).1.Watching := by
  constructor
  · intro info member
    obtain ⟨old, before, same⟩ := mem_of_mem_getNackBatch settings now member
    exact same ▸ watching.window old before
  · intro notStarted
    simp [NackModule.getNackBatch, watching.fresh notStarted]

/-- Moving on to a newer packet keeps the list within the window. -/
theorem Watching.advance (started : m.initialized = true) (seqNum : UInt16) :
    ({ (addPacketsToNack seqNums now m (m.newestSeqNum + 1) seqNum).1 with
      newestSeqNum := seqNum } : NackModule).Watching := by
  constructor
  · intro info member
    change InWindow seqNum info.seqNum
    obtain ⟨few, kept | skipped⟩ := mem_of_mem_addPacketsToNack seqNums now member
    · have step := forwardDiff_succ m.newestSeqNum
      have distance := forwardDiff_add m.newestSeqNum (m.newestSeqNum + 1) seqNum (by omega)
      exact (watching.window info kept.1).advance (by omega) kept.2
    · exact inWindow_of_skipped few skipped
  · intro notStarted
    have still := addPacketsToNack_initialized (m := m) seqNums now (m.newestSeqNum + 1) seqNum
    rw [started] at still
    exact absurd (still.symm.trans notStarted) (by decide)

theorem Watching.not_missing_newest : m.newestSeqNum ∉ m.missing := by
  intro member
  obtain ⟨info, listed, same⟩ := List.mem_map.mp member
  have inWindow := watching.window info listed
  rw [same] at inWindow
  exact not_inWindow_self _ inWindow

/-- A packet ahead of the newest one is not missing. -/
theorem Watching.not_missing_of_ahead {seqNum : UInt16}
    (ahead : aheadOf m.newestSeqNum seqNum = false) : seqNum ∉ m.missing := by
  intro member
  obtain ⟨info, listed, rfl⟩ := List.mem_map.mp member
  have behind := (watching.window info listed).aheadOf
  rw [ahead] at behind
  exact Bool.false_ne_true behind

/-- Hearing of a packet keeps the list within the window and takes the packet off. -/
theorem Watching.onReceivedPacket (seqNum : UInt16) (isKeyframe isRecovered : Bool) :
    (m.onReceivedPacket settings now seqNum isKeyframe isRecovered).1.Watching ∧
      seqNum ∉ (m.onReceivedPacket settings now seqNum isKeyframe isRecovered).1.missing := by
  unfold NackModule.onReceivedPacket
  split
  · rename_i notStarted
    have empty := watching.fresh (by simpa using notStarted)
    exact ⟨⟨by simp [empty], by simp⟩, by simp [missing, empty]⟩
  · rename_i started
    have isStarted : m.initialized = true := by simpa using started
    split
    · rename_i same
      rw [same]
      exact ⟨watching, watching.not_missing_newest⟩
    · split
      · refine ⟨⟨fun info member => watching.window info (List.mem_of_mem_filter member), ?_⟩, ?_⟩
        · exact fun notStarted => absurd (isStarted.symm.trans notStarted) (by decide)
        · simp [missing]
      · rename_i ahead
        have notBehind : aheadOf m.newestSeqNum seqNum = false := by simpa using ahead
        have cleaned : ({ m with
            keyframeList := settings.seqNums.eraseOlder (seqNum - kMaxPacketAge)
              (if isKeyframe then settings.seqNums.insert seqNum m.keyframeList
                else m.keyframeList) } : NackModule).Watching :=
          ⟨watching.window, watching.fresh⟩
        dsimp only
        split
        · exact ⟨⟨watching.window, watching.fresh⟩, watching.not_missing_of_ahead notBehind⟩
        · have moved := (cleaned.advance settings.seqNums now isStarted seqNum).getNackBatch settings now
            .kSeqNumOnly
          exact ⟨moved, moved.not_missing_newest⟩

end Module

end NackModule

section Stream

/-- Both NACK lists are within their windows. -/
def VideoReceiver.Watchful (r : VideoReceiver) : Prop := ∀ k, (r.nackModuleOf k).Watching

variable {cfg : StreamConfig} {now : Int} {r : VideoReceiver}

theorem nackModuleOf_updateModule (r : VideoReceiver) (j k : Nat)
    (result : NackModule × NackRequest) :
    (r.updateModule j result).nackModuleOf k =
      if j = 2 ↔ k = 2 then result.1 else r.nackModuleOf k := by
  unfold VideoReceiver.updateModule VideoReceiver.nackModuleOf
  by_cases first : j = 2 <;> by_cases second : k = 2 <;> simp [first, second]

theorem VideoReceiver.Watchful.updateModule (watchful : r.Watchful) (k : Nat)
    (result : NackModule × NackRequest) (watching : result.1.Watching) :
    (r.updateModule k result).Watchful := by
  intro j
  rw [nackModuleOf_updateModule]
  split
  · exact watching
  · exact watchful j

theorem VideoReceiver.Watchful.notifyNack (watchful : r.Watchful) (p : ReceivedPacket)
    (isKeyframe isRecovered : Bool) : (r.notifyNack cfg now p isKeyframe isRecovered).Watchful :=
  watchful.updateModule _ _ ((watchful _).onReceivedPacket ..).1

theorem VideoReceiver.Watchful.telling (cfg : StreamConfig) (now : Int) (p : ReceivedPacket) :
    Telling cfg now p Watchful Watchful fun _ => True where
  tell := fun _ isKeyframe isRecovered _ start =>
    (or_self_iff.mp start).notifyNack p isKeyframe isRecovered
  send := fun _ watchful => ⟨watchful, trivial⟩
  nothing := trivial
  append := fun _ _ _ _ => trivial

theorem VideoReceiver.Watchful.receivePlain (watchful : r.Watchful) (p : ReceivedPacket)
    (answers : ParserAnswers) : (r.receivePlain cfg now p answers).1.Watchful := by
  by_cases readable : Readable cfg answers p
  · exact ((telling cfg now p).receivePlain ⟨rfl, rfl, id⟩ readable (.inl watchful)).1
  · rwa [receivePlain_of_not_readable readable]

theorem VideoReceiver.Watchful.foldl {packets : List ReceivedPacket} {answers : ParserAnswers}
    {state : VideoReceiver × List Feedback} (watchful : state.1.Watchful) :
    (packets.foldl (VideoReceiver.onRecoveredPacket cfg now answers) state).1.Watchful := by
  induction packets generalizing state with
  | nil => exact watchful
  | cons d packets ih =>
      refine ih ?_
      unfold VideoReceiver.onRecoveredPacket
      split
      · exact watchful
      · exact watchful.receivePlain d answers

theorem VideoReceiver.Watchful.onRtpPacket (watchful : r.Watchful) (p : ReceivedPacket)
    (answers : ParserAnswers) : (r.onRtpPacket cfg now p answers).1.Watchful := by
  unfold VideoReceiver.onRtpPacket VideoReceiver.receivePacket
  split
  · split
    · refine VideoReceiver.Watchful.foldl ?_
      dsimp only
      split
      · exact watchful.notifyNack p false false
      · exact watchful
    · exact watchful.receivePlain p answers
  · exact watchful

/-- Whatever happens at the receiver, the NACK lists stay within their windows. -/
theorem receiverStep_watchful (cfg : StreamConfig) (r : VideoReceiver) (event : ReceiverEvent)
    (watchful : r.Watchful) : (receiverStep cfg r event).1.Watchful := by
  cases event with
  | deliver now p answers =>
      change (deliverRtp cfg now r p answers).1.Watchful
      unfold deliverRtp
      split
      · exact watchful
      · exact watchful.onRtpPacket _ answers
  | timer now pathid =>
      have updated := watchful.updateModule pathid
        ((r.nackModuleOf pathid).onTimer cfg.nack now)
        ((watchful pathid).getNackBatch cfg.nack now .kTimeOnly)
      unfold receiverStep
      dsimp only
      split
      · exact updated
      · exact updated
  | updateRtt rttMs =>
      have primary := watchful 1
      have secondary := watchful 2
      intro k
      unfold VideoReceiver.nackModuleOf
      split
      · exact ⟨primary.window, primary.fresh⟩
      · exact ⟨secondary.window, secondary.fresh⟩

theorem watchful_of_run (cfg : StreamConfig) (events : List ReceiverEvent) :
    (finalState (receiverStep cfg) {} events).Watchful := by
  refine (along_true ({} : VideoReceiver) events).invariant _
    (fun r event watchful _ => receiverStep_watchful cfg r event watchful) ?_
  intro k
  unfold VideoReceiver.nackModuleOf
  split <;> exact ⟨by simp, fun _ => rfl⟩

end Stream

end MpWebRtc
