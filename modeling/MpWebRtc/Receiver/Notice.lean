import MpWebRtc.Receiver.Stream

/-!
# Which packets the NACK modules hear of

A packet takes one of several ways through the stream, and may be told to its NACK
module more than once on the way. What matters is whether it is told at all. This file
says when that is so, and gives the rule for what holds afterwards.
-/

namespace MpWebRtc

/-- A packet that is not encapsulated gets as far as the NACK module: it is empty, or it
parses and is not dropped. -/
def Readable (cfg : StreamConfig) (answers : ParserAnswers) (p : ReceivedPacket) : Prop :=
  p.payload = [] ∨
    (cfg.depacketize p.payloadType p.payload).isSome ∧ answers.dropsDescriptor p = false

/-- A packet is told to a NACK module: it is no copy, and it is readable or contains a
readable packet. -/
def Noticed (cfg : StreamConfig) (answers : ParserAnswers) (p : ReceivedPacket) : Prop :=
  p.payloadType ≠ kDupPayloadType ∧
    if p.payload ≠ [] ∧ p.payloadType = cfg.redPayloadType then
      p.payload.head?.map (·.toNat) = some cfg.ulpfecPayloadType ∨
        ∃ d ∈ VideoReceiver.ulpfecReceive cfg answers p,
          d.payloadType ≠ cfg.redPayloadType ∧ Readable cfg answers d
    else Readable cfg answers p

instance (cfg : StreamConfig) (answers : ParserAnswers) (p : ReceivedPacket) :
    Decidable (Readable cfg answers p) :=
  inferInstanceAs (Decidable (_ ∨ _))

instance (cfg : StreamConfig) (answers : ParserAnswers) (p : ReceivedPacket) :
    Decidable (Noticed cfg answers p) :=
  inferInstanceAs (Decidable (_ ∧ _))

/-- The arrival of the packet does not let `DecodeFec` recover another one. A packet that
was recovered by RTX is not passed to it. -/
def NothingRecovered (answers : ParserAnswers) (p : ReceivedPacket) : Prop :=
  p.recovered = true ∨ answers.recoveredFec = []

/-- Then the ULPFEC receiver hands back at most the packet itself. -/
theorem NothingRecovered.handsBack {cfg : StreamConfig} {answers : ParserAnswers}
    {p : ReceivedPacket} (nothing : NothingRecovered answers p) :
    ∀ d ∈ VideoReceiver.ulpfecReceive cfg answers p, d.headerPath = p.headerPath ∧
      d.headerSeqNum = p.headerSeqNum ∧ (d.recovered = true → p.recovered = true) := by
  intro d member
  have alone : (if p.recovered then [] else answers.recoveredFec) = [] := by
    rcases nothing with byRtx | none
    · exact if_pos byRtx
    · rw [none, ite_self]
  unfold VideoReceiver.ulpfecReceive at member
  rw [alone] at member
  split at member
  · simp at member
  · split_ifs at member
    · simp at member
    · simp at member
    · obtain rfl : d = _ := by simpa using member
      exact ⟨rfl, rfl, by simp⟩

/-- What a packet does to the receiver: telling a NACK module of it leads from `before`
to `after`, and what is sent then is as expected. -/
structure Telling (cfg : StreamConfig) (now : Int) (p : ReceivedPacket)
    (before after : VideoReceiver → Prop) (expected : List Feedback → Prop) : Prop where
  tell : ∀ r isKeyframe isRecovered, (isRecovered = true → p.recovered = true) →
    before r ∨ after r → after (r.notifyNack cfg now p isKeyframe isRecovered)
  send : ∀ r, after r →
    after r.sendBufferedRtcpFeedback.1 ∧ expected r.sendBufferedRtcpFeedback.2
  nothing : expected []
  append : ∀ first second, expected first → expected second → expected (first ++ second)

section Rule

variable {cfg : StreamConfig} {now : Int} {p d : ReceivedPacket} {answers : ParserAnswers}
variable {before after : VideoReceiver → Prop} {expected : List Feedback → Prop}
variable {r : VideoReceiver}

theorem notifyNack_congr (path : d.headerPath = p.headerPath)
    (number : d.headerSeqNum = p.headerSeqNum) (isKeyframe isRecovered : Bool) :
    r.notifyNack cfg now d isKeyframe isRecovered =
      r.notifyNack cfg now p isKeyframe isRecovered := by
  unfold VideoReceiver.notifyNack
  rw [path, number]

theorem receivePlain_of_not_readable (unread : ¬ Readable cfg answers d) :
    r.receivePlain cfg now d answers = (r, []) := by
  unfold Readable at unread
  rw [not_or, not_and] at unread
  unfold VideoReceiver.receivePlain
  rw [if_neg unread.1]
  cases parses : cfg.depacketize d.payloadType d.payload with
  | none => rfl
  | some parsed =>
      have dropped : answers.dropsDescriptor d = true := by
        simpa using unread.2 (by simp [parses])
      simp [VideoReceiver.onReceivedPayloadData, dropped]

variable {sent : List Feedback}

theorem onRecoveredPacket_of_not_readable
    (unread : d.payloadType ≠ cfg.redPayloadType → ¬ Readable cfg answers d) :
    VideoReceiver.onRecoveredPacket cfg now answers (r, sent) d = (r, sent) := by
  unfold VideoReceiver.onRecoveredPacket
  split
  · rfl
  · next notRed => simp [receivePlain_of_not_readable (unread notRed)]

theorem foldl_of_not_readable {packets : List ReceivedPacket}
    (unread : ∀ d ∈ packets, d.payloadType ≠ cfg.redPayloadType → ¬ Readable cfg answers d) :
    packets.foldl (VideoReceiver.onRecoveredPacket cfg now answers) (r, sent) = (r, sent) := by
  induction packets with
  | nil => rfl
  | cons d packets ih =>
      rw [List.forall_mem_cons] at unread
      rw [List.foldl_cons, onRecoveredPacket_of_not_readable unread.1]
      exact ih unread.2

/-- A packet that is not told to a NACK module changes nothing. -/
theorem onRtpPacket_of_not_noticed (unnoticed : ¬ Noticed cfg answers p) :
    r.onRtpPacket cfg now p answers = (r, []) := by
  unfold VideoReceiver.onRtpPacket
  split
  · rename_i notCopy
    have missed := not_and.mp unnoticed notCopy
    unfold VideoReceiver.receivePacket
    split at missed
    · rename_i isRed
      rw [not_or] at missed
      rw [if_pos isRed, if_neg missed.1]
      exact foldl_of_not_readable fun d member notRed readable =>
        missed.2 ⟨d, member, notRed, readable⟩
    · rename_i notRed
      rw [if_neg notRed]
      exact receivePlain_of_not_readable missed
  · rfl

namespace Telling

variable (telling : Telling cfg now p before after expected)
include telling

theorem receivePlain (same : d.headerPath = p.headerPath ∧ d.headerSeqNum = p.headerSeqNum ∧
      (d.recovered = true → p.recovered = true))
    (readable : Readable cfg answers d) (start : before r ∨ after r) :
    after (r.receivePlain cfg now d answers).1 ∧
      expected (r.receivePlain cfg now d answers).2 := by
  obtain ⟨path, number, recovered⟩ := same
  unfold VideoReceiver.receivePlain
  split
  · refine ⟨?_, telling.nothing⟩
    rw [VideoReceiver.notifyReceiverOfEmptyPacket, notifyNack_congr path number]
    exact telling.tell r false false (by simp) start
  · rename_i nonempty
    obtain ⟨parses, kept⟩ := readable.resolve_left nonempty
    obtain ⟨parsed, isParsed⟩ := Option.isSome_iff_exists.mp parses
    rw [isParsed]
    have told := telling.tell r (parsed.isFirstPacketInFrame && parsed.isKeyFrame) d.recovered
      recovered start
    simp only [VideoReceiver.onReceivedPayloadData, kept, Bool.false_eq_true, ↓reduceIte,
      VideoReceiver.notifyReceiverOfEmptyPacket, notifyNack_congr path number]
    split
    · exact telling.send _ (telling.tell _ false false (by simp) (.inr told))
    · exact telling.send _ told

theorem foldl {packets : List ReceivedPacket}
    (same : ∀ d ∈ packets, d.headerPath = p.headerPath ∧ d.headerSeqNum = p.headerSeqNum ∧
      (d.recovered = true → p.recovered = true)) {sent : List Feedback} (asExpected : expected sent)
    (start : after r ∨ before r ∧ ∃ d ∈ packets, d.payloadType ≠ cfg.redPayloadType ∧
      Readable cfg answers d) :
    after (packets.foldl (VideoReceiver.onRecoveredPacket cfg now answers) (r, sent)).1 ∧
      expected (packets.foldl (VideoReceiver.onRecoveredPacket cfg now answers) (r, sent)).2 := by
  induction packets generalizing r sent with
  | nil => exact ⟨start.resolve_right (by simp), asExpected⟩
  | cons d packets ih =>
      rw [List.forall_mem_cons] at same
      rw [List.foldl_cons]
      by_cases read : d.payloadType ≠ cfg.redPayloadType ∧ Readable cfg answers d
      · obtain ⟨told, sends⟩ := telling.receivePlain same.1 read.2 (start.symm.imp_left And.left)
        rw [show VideoReceiver.onRecoveredPacket cfg now answers (r, sent) d =
          ((r.receivePlain cfg now d answers).1, sent ++ (r.receivePlain cfg now d answers).2) from
          if_neg read.1]
        exact ih same.2 (telling.append _ _ asExpected sends) (.inl told)
      · rw [onRecoveredPacket_of_not_readable fun notRed readable => read ⟨notRed, readable⟩]
        refine ih same.2 asExpected (start.imp_right (And.imp_right ?_))
        rintro ⟨e, member, isRead⟩
        rcases List.mem_cons.mp member with rfl | later
        · exact absurd isRead read
        · exact ⟨e, later, isRead⟩

/-- **Notice rule.** A packet that is told to a NACK module, and recovers no other one,
leads from `before` to `after`. -/
theorem onRtpPacket (nothing : NothingRecovered answers p) (noticed : Noticed cfg answers p)
    (start : before r) :
    after (r.onRtpPacket cfg now p answers).1 ∧
      expected (r.onRtpPacket cfg now p answers).2 := by
  obtain ⟨notCopy, reached⟩ := noticed
  unfold VideoReceiver.onRtpPacket VideoReceiver.receivePacket
  rw [if_pos notCopy]
  split at reached
  · rename_i isRed
    rw [if_pos isRed]
    refine telling.foldl nothing.handsBack telling.nothing ?_
    split
    · exact .inl (telling.tell r false false (by simp) (.inl start))
    · next notFec => exact .inr ⟨start, reached.resolve_left notFec⟩
  · rename_i notRed
    rw [if_neg notRed]
    exact telling.receivePlain ⟨rfl, rfl, id⟩ reached (.inl start)

end Telling

end Rule

end MpWebRtc
