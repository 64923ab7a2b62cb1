import MpWebRtc.Rtcp.CompoundSender

/-!
# Flags that are left behind

A call of `ComputeCompoundRTCPPacket` adds the types it is asked for as volatile flags, to be
consumed by its end. Two ways out leave some of them: before media was sent a sender in compound
mode gives up, and a request for a bitrate that is refused ends the loop over the flags before the
later ones are reached. What is left is built by the next call, for whichever path that is.
-/

namespace MpWebRtc

open Math

namespace RtcpSender

/-- The flag of a type. -/
def flagOf (type : Nat) : Nat :=
  if type &&& kRtcpAnyExtendedReports ≠ 0 then kRtcpAnyExtendedReports else type

variable (sender : RtcpSender) (context : RtcpContext) (packetTypes : List Nat)

/-- A flag that is there once the types asked for are added. -/
def Present (type : Nat) : Prop :=
  sender.reportFlags.find type ≠ none ∨ type ∈ packetTypes.map flagOf

/-- A volatile flag that is there then. -/
def Passing (type : Nat) : Prop :=
  sender.reportFlags.find type = some true ∨
    sender.reportFlags.find type = none ∧ type ∈ packetTypes.map flagOf

/-- The reports that a sender gives up before media was sent. -/
def Dropped (type : Nat) : Prop :=
  sender.lastFrameCaptureTimeMs < 0 ∧
    (type = kRtcpSr ∨ sender.sending = true ∧ type = kRtcpReport)

/-- A volatile flag that is still there then. -/
def Left (type : Nat) : Prop := sender.Passing packetTypes type ∧ ¬sender.Dropped type

/-- A flag that is still there then. -/
def Kept (type : Nat) : Prop :=
  sender.Present packetTypes type ∧ ¬(sender.Passing packetTypes type ∧ sender.Dropped type)

instance (type : Nat) : Decidable (sender.Present packetTypes type) :=
  inferInstanceAs (Decidable (_ ∨ _))

instance (type : Nat) : Decidable (sender.Passing packetTypes type) :=
  inferInstanceAs (Decidable (_ ∨ _ ∧ _))

instance (type : Nat) : Decidable (sender.Dropped type) :=
  inferInstanceAs (Decidable (_ ∧ (_ ∨ _ ∧ _)))

/-- Before media was sent, the call ends without packets if a sender has to send a report, and if
nothing but a report was asked for. -/
def Stops : Prop :=
  sender.lastFrameCaptureTimeMs < 0 ∧
    (sender.sending = true ∧ sender.method = .compound ∨
      (sender.Present packetTypes kRtcpSr ∨
        sender.sending = true ∧ sender.Present packetTypes kRtcpReport) ∧
      ∀ type, ¬sender.Left packetTypes type)

/-- A report is due. -/
def Reports : Prop :=
  sender.Kept packetTypes kRtcpSr ∨ sender.Kept packetTypes kRtcpRr ∨
    sender.Kept packetTypes kRtcpReport ∧ sender.method = .reducedSize ∨ sender.method = .compound

/-- Extended reports go with it. -/
def Extends : Prop :=
  sender.reportFlags.find kRtcpAnyExtendedReports ≠ some false ∧ sender.Reports packetTypes ∧
    (sender.sending = false ∧ sender.xrSendReceiverReferenceTimeEnabled = true ∨
      context.feedbackState.lastXrRtis ≠ [] ∨ sender.sendVideoBitrateAllocation = true)

/-- The calls that leave no volatile flag. If the call stops, nothing but a report was asked for.
Else no request for a bitrate is refused, or no volatile flag comes after it. -/
structure LeavesNothing : Prop where
  stopped : sender.Stops packetTypes → ∀ type, ¬sender.Left packetTypes type
  refused : ¬sender.Stops packetTypes → sender.Present packetTypes kRtcpTmmbr →
    sender.buildTMMBR context = none →
      (∀ type, kRtcpTmmbr < type → ¬sender.Left packetTypes type) ∧
        ¬sender.Extends context packetTypes

/-- Only the flags differ. -/
def OnlyFlags (next : RtcpSender) : Prop := next = { sender with reportFlags := next.reportFlags }

section Flags

variable {sender} {next : RtcpSender}

theorem OnlyFlags.trans {last : RtcpSender} (first : sender.OnlyFlags next)
    (second : next.OnlyFlags last) : sender.OnlyFlags last := by
  unfold OnlyFlags at first second ⊢
  rw [second, first]

variable (type : Nat)

theorem find_setFlag (isVolatile : Bool) (other : Nat) :
    (sender.setFlag type isVolatile).reportFlags.find other =
      if other = flagOf type ∧ sender.reportFlags.find other = none then some isVolatile
      else sender.reportFlags.find other := by
  change (sender.reportFlags.emplace (flagOf type) isVolatile).find other = _
  rw [OrderedMap.find_emplace]
  by_cases same : other = flagOf type
  · rw [← same]
  · rw [if_neg (fun both => same both.1), if_neg (fun both => same both.1)]

theorem setFlags_onlyFlags (types : List Nat) (isVolatile : Bool) :
    sender.OnlyFlags (sender.setFlags types isVolatile) := by
  induction types generalizing sender with
  | nil => rfl
  | cons type types ih =>
      have first : sender.OnlyFlags (sender.setFlag type isVolatile) := rfl
      exact first.trans ih

theorem find_setFlags (types : List Nat) (type : Nat) :
    (sender.setFlags types true).reportFlags.find type =
      if sender.reportFlags.find type = none ∧ type ∈ types.map flagOf then some true
      else sender.reportFlags.find type := by
  induction types generalizing sender with
  | nil =>
      rw [if_neg (fun both => nomatch both.2)]
      rfl
  | cons asked types ih =>
      change ((sender.setFlag asked true).setFlags types true).reportFlags.find type = _
      rw [ih, find_setFlag, List.map_cons]
      by_cases absent : sender.reportFlags.find type = none
      · by_cases same : type = flagOf asked
        · rw [if_pos (c := type = flagOf asked ∧ _) ⟨same, absent⟩, if_neg (by simp),
            if_pos ⟨absent, by rw [same]; exact List.mem_cons_self⟩]
        · rw [if_neg (c := type = flagOf asked ∧ _) (fun both => same both.1)]
          by_cases listed : type ∈ types.map flagOf
          · rw [if_pos ⟨absent, listed⟩, if_pos ⟨absent, List.mem_cons_of_mem _ listed⟩]
          · rw [if_neg (fun both => listed both.2), if_neg (fun both =>
              (List.mem_cons.mp both.2).elim same listed)]
      · rw [if_neg (c := type = flagOf asked ∧ _) (fun both => absent both.2),
          if_neg (fun both => absent both.1), if_neg (fun both => absent both.1)]

theorem consumeFlag_onlyFlags : sender.OnlyFlags (sender.consumeFlag type).1 := by
  unfold consumeFlag
  split <;> rfl

theorem find_consumeFlag (type other : Nat) :
    (sender.consumeFlag type).1.reportFlags.find other =
      if other = type ∧ sender.reportFlags.find other = some true then none
      else sender.reportFlags.find other := by
  unfold consumeFlag
  by_cases same : other = type
  · rw [same]
    split
    · next absent => rw [absent, if_neg (fun both => nomatch both.2)]
    · next passing => rw [if_pos ⟨rfl, passing⟩, OrderedMap.find_erase, if_pos rfl]
    · next permanent => rw [permanent, if_neg (fun both => nomatch both.2)]
  · rw [if_neg (fun both => same both.1)]
    split
    · rfl
    · rw [OrderedMap.find_erase, if_neg same]
    · rfl

theorem consumeFlag_found :
    (sender.consumeFlag type).2 = true ↔ sender.reportFlags.find type ≠ none := by
  unfold consumeFlag
  split
  · next absent => simp [absent]
  · next passing => simp [passing]
  · next permanent => simp [permanent]

theorem allVolatileFlagsConsumed_iff :
    sender.allVolatileFlagsConsumed = true ↔
      ∀ type, sender.reportFlags.find type ≠ some true := by
  unfold allVolatileFlagsConsumed
  rw [List.all_eq_true]
  constructor
  · intro permanent type passing
    have entry := permanent (type, true) (OrderedMap.find_eq_some_iff.mp passing)
    cases entry
  · intro permanent entry member
    cases volatile : entry.2 with
    | false => rfl
    | true =>
        refine absurd (OrderedMap.find_eq_some_iff.mpr ?_) (permanent entry.1)
        rw [← volatile]
        exact member

end Flags

section Ready

variable {sender packetTypes}

/-- The sender when reports are decided on. -/
def ready (sender : RtcpSender) (packetTypes : List Nat) : RtcpSender :=
  if 0 ≤ sender.lastFrameCaptureTimeMs then sender.setFlags packetTypes true
  else (sender.setFlags packetTypes true).withoutTimestamp.1

variable (type : Nat)

theorem find_asked_ne_none :
    (sender.setFlags packetTypes true).reportFlags.find type ≠ none ↔
      sender.Present packetTypes type := by
  rw [find_setFlags]
  unfold Present
  by_cases added : sender.reportFlags.find type = none ∧ type ∈ packetTypes.map flagOf
  · rw [if_pos added]
    exact ⟨fun _ => .inr added.2, fun _ => nofun⟩
  · rw [if_neg added]
    refine ⟨.inl, fun present => present.elim id fun listed absent => added ⟨absent, listed⟩⟩

theorem find_asked_volatile :
    (sender.setFlags packetTypes true).reportFlags.find type = some true ↔
      sender.Passing packetTypes type := by
  rw [find_setFlags]
  unfold Passing
  by_cases added : sender.reportFlags.find type = none ∧ type ∈ packetTypes.map flagOf
  · rw [if_pos added]
    exact ⟨fun _ => .inr added, fun _ => rfl⟩
  · rw [if_neg added]
    exact ⟨.inl, fun passing => passing.elim id fun both => absurd both added⟩

theorem withoutTimestamp_sender (asked : RtcpSender) :
    asked.withoutTimestamp.1 =
      if asked.sending = true then ((asked.consumeFlag kRtcpSr).1.consumeFlag kRtcpReport).1
      else (asked.consumeFlag kRtcpSr).1 := by
  have same : (asked.consumeFlag kRtcpSr).1.sending = asked.sending := by
    rw [consumeFlag_onlyFlags]
  unfold withoutTimestamp
  rw [← same]
  dsimp only
  split_ifs <;> rfl

/-- Before media was sent the call goes on unless a report is all there is, or has to be sent. -/
theorem withoutTimestamp_goes_on (asked : RtcpSender) :
    asked.withoutTimestamp.2 = none ↔
      ¬(asked.sending = true ∧ asked.method = .compound ∨
        (asked.reportFlags.find kRtcpSr ≠ none ∨
          asked.sending = true ∧ asked.reportFlags.find kRtcpReport ≠ none) ∧
        asked.withoutTimestamp.1.allVolatileFlagsConsumed = true) := by
  have found := @consumeFlag_found asked kRtcpSr
  have reported : (asked.consumeFlag kRtcpSr).1.reportFlags.find kRtcpReport =
      asked.reportFlags.find kRtcpReport := by
    rw [find_consumeFlag, if_neg (fun both => absurd both.1 (by decide))]
  have also := @consumeFlag_found (asked.consumeFlag kRtcpSr).1 kRtcpReport
  rw [reported] at also
  rw [withoutTimestamp_sender, ← found, ← also]
  unfold withoutTimestamp
  dsimp only
  cases sends : asked.sending with
  | true => grind
  | false => grind

/-- Asking for types, and giving up reports before media was sent, changes the flags only. -/
theorem ready_onlyFlags : sender.OnlyFlags (sender.ready packetTypes) := by
  have asked := @setFlags_onlyFlags sender packetTypes true
  unfold ready
  split
  · exact asked
  · refine asked.trans ?_
    rw [withoutTimestamp_sender]
    split
    · exact (consumeFlag_onlyFlags _).trans (consumeFlag_onlyFlags _)
    · exact consumeFlag_onlyFlags _

theorem find_ready :
    (sender.ready packetTypes).reportFlags.find type =
      if sender.Passing packetTypes type ∧ sender.Dropped type then none
      else (sender.setFlags packetTypes true).reportFlags.find type := by
  have asked := @setFlags_onlyFlags sender packetTypes true
  have sending : (sender.setFlags packetTypes true).sending = sender.sending := by rw [asked]
  have volatile := @find_asked_volatile sender packetTypes type
  have dropped : sender.Dropped type ↔ sender.lastFrameCaptureTimeMs < 0 ∧
      (type = kRtcpSr ∨ sender.sending = true ∧ type = kRtcpReport) := Iff.rfl
  unfold ready
  by_cases media : 0 ≤ sender.lastFrameCaptureTimeMs
  · rw [if_pos media, if_neg (fun both => absurd both.2.1 (Int.not_lt.mpr media))]
  · rw [if_neg media, withoutTimestamp_sender, sending]
    have before : sender.lastFrameCaptureTimeMs < 0 := Int.not_le.mp media
    by_cases sends : sender.sending = true
    · rw [if_pos sends, find_consumeFlag, find_consumeFlag]
      grind
    · rw [if_neg sends, find_consumeFlag]
      grind

theorem find_ready_volatile :
    (sender.ready packetTypes).reportFlags.find type = some true ↔
      sender.Left packetTypes type := by
  rw [find_ready]
  unfold Left
  by_cases gone : sender.Passing packetTypes type ∧ sender.Dropped type
  · rw [if_pos gone]
    exact ⟨nofun, fun kept => absurd gone.2 kept.2⟩
  · rw [if_neg gone, find_asked_volatile]
    exact ⟨fun passing => ⟨passing, fun dropped => gone ⟨passing, dropped⟩⟩, And.left⟩

theorem find_ready_ne_none :
    (sender.ready packetTypes).reportFlags.find type ≠ none ↔ sender.Kept packetTypes type := by
  rw [find_ready]
  unfold Kept
  by_cases gone : sender.Passing packetTypes type ∧ sender.Dropped type
  · rw [if_pos gone]
    exact ⟨fun present => absurd rfl present, fun kept => absurd gone kept.2⟩
  · rw [if_neg gone, find_asked_ne_none]
    exact ⟨fun present => ⟨present, gone⟩, And.left⟩

theorem find_ready_permanent :
    (sender.ready packetTypes).reportFlags.find type = some false ↔
      sender.reportFlags.find type = some false := by
  have asked : (sender.setFlags packetTypes true).reportFlags.find type = some false ↔
      sender.reportFlags.find type = some false := by
    rw [find_setFlags]
    by_cases added : sender.reportFlags.find type = none ∧ type ∈ packetTypes.map flagOf
    · rw [if_pos added, added.1]
      exact ⟨nofun, nofun⟩
    · rw [if_neg added]
  rw [find_ready]
  by_cases gone : sender.Passing packetTypes type ∧ sender.Dropped type
  · have volatile := (find_asked_volatile type).mpr gone.1
    rw [if_pos gone, ← asked, volatile]
    exact ⟨nofun, nofun⟩
  · rw [if_neg gone, asked]

/-- The call stops, with what is left of the flags, or goes on to decide on reports. -/
theorem prepare_eq (on : sender.method ≠ .off) :
    (sender.Stops packetTypes →
      ∃ result, sender.prepare context packetTypes = (sender.ready packetTypes, some result)) ∧
    (¬sender.Stops packetTypes → sender.prepare context packetTypes =
      ((sender.ready packetTypes).prepareReport context, none)) := by
  have asked := @setFlags_onlyFlags sender packetTypes true
  have time : (sender.setFlags packetTypes true).lastFrameCaptureTimeMs =
      sender.lastFrameCaptureTimeMs := by rw [asked]
  unfold prepare Stops
  rw [if_neg on]
  dsimp only
  rw [time]
  by_cases media : 0 ≤ sender.lastFrameCaptureTimeMs
  · rw [if_pos media]
    refine ⟨fun stops => absurd stops.1 (Int.not_lt.mpr media), fun _ => ?_⟩
    rw [ready, if_pos media]
  · have before : sender.lastFrameCaptureTimeMs < 0 := Int.not_le.mp media
    have here : (sender.setFlags packetTypes true).withoutTimestamp.1 =
        sender.ready packetTypes := by rw [ready, if_neg media]
    have goesOn := withoutTimestamp_goes_on (sender.setFlags packetTypes true)
    have sending : (sender.setFlags packetTypes true).sending = sender.sending := by rw [asked]
    have method : (sender.setFlags packetTypes true).method = sender.method := by rw [asked]
    rw [here, sending, method, find_asked_ne_none, find_asked_ne_none,
      allVolatileFlagsConsumed_iff] at goesOn
    simp only [ne_eq, find_ready_volatile] at goesOn
    rw [if_neg media]
    cases split : (sender.setFlags packetTypes true).withoutTimestamp with
    | mk next result =>
        rw [split] at here goesOn
        obtain rfl : next = sender.ready packetTypes := here
        cases result with
        | none =>
            refine ⟨fun stops => absurd stops.2 (goesOn.mp rfl), fun _ => rfl⟩
        | some result =>
            refine ⟨fun _ => ⟨result, rfl⟩, fun goes => ?_⟩
            have stuck := mt goesOn.mpr nofun
            exact absurd ⟨before, not_not.mp stuck⟩ goes

end Ready

section Reporting

variable {context} (asked : RtcpSender)

/-- Whether `PrepareReport` generates a report. -/
def generatesReport : Bool :=
  (asked.isFlagPresent kRtcpSr || asked.isFlagPresent kRtcpRr) ||
      (asked.consumeFlag kRtcpReport).2 && decide (asked.method = .reducedSize) ||
    decide (asked.method = .compound)

/-- The sender once `PrepareReport` has set the flag of the report. -/
def withReport : RtcpSender :=
  if asked.isFlagPresent kRtcpSr || asked.isFlagPresent kRtcpRr then asked
  else if asked.generatesReport then
    (asked.consumeFlag kRtcpReport).1.setFlag (if asked.sending then kRtcpSr else kRtcpRr) true
  else (asked.consumeFlag kRtcpReport).1

/-- The sender once `PrepareReport` has set the flag of the names. -/
def withNames : RtcpSender :=
  if asked.withReport.isFlagPresent kRtcpSr ||
      asked.withReport.isFlagPresent kRtcpRr && !asked.withReport.cname.isEmpty then
    asked.withReport.setFlag kRtcpSdes true
  else asked.withReport

theorem setFlag_onlyFlags (next : RtcpSender) (type : Nat) (isVolatile : Bool) :
    next.OnlyFlags (next.setFlag type isVolatile) :=
  rfl

theorem withReport_onlyFlags : asked.OnlyFlags asked.withReport := by
  have consumed := @consumeFlag_onlyFlags asked kRtcpReport
  unfold withReport
  split
  · rfl
  · split
    · exact consumed.trans (setFlag_onlyFlags _ _ _)
    · exact consumed

theorem withNames_onlyFlags : asked.OnlyFlags asked.withNames := by
  have reported := withReport_onlyFlags asked
  unfold withNames
  split
  · exact reported.trans (setFlag_onlyFlags _ _ _)
  · exact reported

theorem prepareReport_eq :
    asked.prepareReport context =
      if asked.generatesReport && (!asked.sending && asked.xrSendReceiverReferenceTimeEnabled ||
          !context.feedbackState.lastXrRtis.isEmpty || asked.sendVideoBitrateAllocation) then
        asked.withNames.setFlag kRtcpAnyExtendedReports true
      else asked.withNames := by
  have same := withNames_onlyFlags asked
  have sending : asked.withNames.sending = asked.sending := by rw [same]
  have time : asked.withNames.xrSendReceiverReferenceTimeEnabled =
      asked.xrSendReceiverReferenceTimeEnabled := by rw [same]
  have allocation : asked.withNames.sendVideoBitrateAllocation =
      asked.sendVideoBitrateAllocation := by rw [same]
  rw [← sending, ← time, ← allocation]
  rfl

theorem prepareReport_onlyFlags : asked.OnlyFlags (asked.prepareReport context) := by
  have named := withNames_onlyFlags asked
  rw [prepareReport_eq]
  split
  · exact named.trans (setFlag_onlyFlags _ _ _)
  · exact named

/-- Other flags than those of reports and names stay. -/
theorem find_withNames {type : Nat} (other : type ∉ [kRtcpReport, kRtcpSr, kRtcpRr, kRtcpSdes]) :
    asked.withNames.reportFlags.find type = asked.reportFlags.find type := by
  have apart {flag : Nat} (known : flag ∈ [kRtcpReport, kRtcpSr, kRtcpRr, kRtcpSdes]) :
      ¬type = flag := fun same => other (same ▸ known)
  have reported : asked.withReport.reportFlags.find type = asked.reportFlags.find type := by
    have consumed : (asked.consumeFlag kRtcpReport).1.reportFlags.find type =
        asked.reportFlags.find type := by
      rw [find_consumeFlag, if_neg (fun both => apart (by decide) both.1)]
    unfold withReport
    split
    · rfl
    · split
      · rw [find_setFlag, if_neg, consumed]
        refine fun both => apart ?_ both.1
        split <;> decide
      · exact consumed
  unfold withNames
  split
  · rw [find_setFlag, if_neg (fun both => apart (by decide) both.1), reported]
  · exact reported

/-- Of the other flags only the one of extended reports is set. -/
theorem find_prepareReport {type : Nat}
    (other : type ∉ [kRtcpReport, kRtcpSr, kRtcpRr, kRtcpSdes]) :
    (asked.prepareReport context).reportFlags.find type =
      if (type = kRtcpAnyExtendedReports ∧ asked.reportFlags.find type = none) ∧
          asked.generatesReport = true ∧
          (asked.sending = false ∧ asked.xrSendReceiverReferenceTimeEnabled = true ∨
            context.feedbackState.lastXrRtis ≠ [] ∨ asked.sendVideoBitrateAllocation = true) then
        some true
      else asked.reportFlags.find type := by
  have named := find_withNames asked other
  have extended : flagOf kRtcpAnyExtendedReports = kRtcpAnyExtendedReports := by decide
  have condition : (asked.generatesReport && (!asked.sending &&
      asked.xrSendReceiverReferenceTimeEnabled ||
        !context.feedbackState.lastXrRtis.isEmpty || asked.sendVideoBitrateAllocation)) = true ↔
      asked.generatesReport = true ∧
        (asked.sending = false ∧ asked.xrSendReceiverReferenceTimeEnabled = true ∨
          context.feedbackState.lastXrRtis ≠ [] ∨ asked.sendVideoBitrateAllocation = true) := by
    simp [or_assoc]
  rw [prepareReport_eq]
  by_cases widened : asked.generatesReport = true ∧
      (asked.sending = false ∧ asked.xrSendReceiverReferenceTimeEnabled = true ∨
        context.feedbackState.lastXrRtis ≠ [] ∨ asked.sendVideoBitrateAllocation = true)
  · rw [if_pos (condition.mpr widened), find_setFlag, extended, named]
    by_cases added : type = kRtcpAnyExtendedReports ∧ asked.reportFlags.find type = none
    · rw [if_pos added, if_pos ⟨added, widened⟩]
    · rw [if_neg added, if_neg (fun both => added both.1)]
  · rw [if_neg (mt condition.mp widened), named, if_neg (fun both => widened both.2)]

theorem generatesReport_iff :
    asked.generatesReport = true ↔
      asked.reportFlags.find kRtcpSr ≠ none ∨ asked.reportFlags.find kRtcpRr ≠ none ∨
        asked.reportFlags.find kRtcpReport ≠ none ∧ asked.method = .reducedSize ∨
        asked.method = .compound := by
  have found := @consumeFlag_found asked kRtcpReport
  unfold generatesReport isFlagPresent
  rw [← found]
  simp [Option.isSome_iff_ne_none, or_assoc]

/-- The other volatile flags once reports are decided on. -/
theorem find_prepared_volatile {sender : RtcpSender} {packetTypes : List Nat} {type : Nat}
    (other : type ∉ [kRtcpReport, kRtcpSr, kRtcpRr, kRtcpSdes]) :
    ((sender.ready packetTypes).prepareReport context).reportFlags.find type = some true ↔
      sender.Left packetTypes type ∨
        type = kRtcpAnyExtendedReports ∧ sender.Extends context packetTypes := by
  have same := @ready_onlyFlags sender packetTypes
  have sending : (sender.ready packetTypes).sending = sender.sending := by rw [same]
  have method : (sender.ready packetTypes).method = sender.method := by rw [same]
  have time : (sender.ready packetTypes).xrSendReceiverReferenceTimeEnabled =
      sender.xrSendReceiverReferenceTimeEnabled := by rw [same]
  have allocation : (sender.ready packetTypes).sendVideoBitrateAllocation =
      sender.sendVideoBitrateAllocation := by rw [same]
  have reports : (sender.ready packetTypes).generatesReport = true ↔
      sender.Reports packetTypes := by
    rw [generatesReport_iff, find_ready_ne_none, find_ready_ne_none, find_ready_ne_none, method]
    rfl
  have left := @find_ready_volatile sender packetTypes type
  have permanent := @find_ready_permanent sender packetTypes type
  rw [find_prepareReport _ other, sending, time, allocation]
  unfold Extends
  rw [← reports, ← left]
  cases there : (sender.ready packetTypes).reportFlags.find type with
  | none =>
      have changing : sender.reportFlags.find type ≠ some false := by
        rw [ne_eq, ← permanent, there]
        exact nofun
      constructor
      · intro added
        split_ifs at added with both
        exact .inr ⟨both.1.1, both.1.1 ▸ changing, both.2⟩
      · rintro (nothing | ⟨same, -, both⟩)
        · cases nothing
        · rw [if_pos ⟨⟨same, rfl⟩, both⟩]
  | some volatile =>
      rw [if_neg (fun both => nomatch both.1.2)]
      cases volatile with
      | true => exact ⟨fun _ => .inl rfl, fun _ => rfl⟩
      | false =>
          refine ⟨nofun, fun either => either.elim nofun fun both => ?_⟩
          exact absurd (permanent.mp there) (both.1 ▸ both.2.1)

end Reporting

section Loop

variable {context} {pathid : Int32}

/-- Building a packet leaves the flags, and what a request for a bitrate is made of. -/
theorem build_frame : ∀ entry ∈ builders, ∀ sender : RtcpSender,
    (entry.2 sender context pathid).1.reportFlags = sender.reportFlags ∧
      (entry.2 sender context pathid).1.buildTMMBR context = sender.buildTMMBR context ∧
      ((entry.2 sender context pathid).2 = none ↔
        entry.1 = kRtcpTmmbr ∧ sender.buildTMMBR context = none) := by
  unfold builders
  repeat' refine List.forall_mem_cons.mpr ⟨?_, ?_⟩
  -- All but a request for a bitrate build a packet in any case.
  all_goals try exact fun _ => ⟨rfl, rfl, nofun, fun both => absurd both.1 (by decide)⟩
  · exact fun _ => ⟨rfl, rfl, fun refused => ⟨rfl, refused⟩, And.right⟩
  · exact fun _ none => absurd none List.not_mem_nil

/-- One round takes the flag if it is volatile. It fails if a request for a bitrate is refused. -/
theorem buildFlag_spec (sender : RtcpSender) (out : CompoundPacket) (flag : Nat × Bool) :
    (∀ type, (sender.buildFlag context pathid out flag).1.reportFlags.find type =
      if flag = (type, true) then none else sender.reportFlags.find type) ∧
    (sender.buildFlag context pathid out flag).1.buildTMMBR context = sender.buildTMMBR context ∧
    ((sender.buildFlag context pathid out flag).2 = none ↔
      flag.1 = kRtcpTmmbr ∧ sender.buildTMMBR context = none) := by
  have taken : ∀ type, (if flag.2 then
      { sender with reportFlags := sender.reportFlags.erase flag.1 } else sender).reportFlags.find
        type = if flag = (type, true) then none else sender.reportFlags.find type := by
    intro type
    obtain ⟨own, volatile⟩ := flag
    cases volatile with
    | false =>
        rw [if_neg (c := (own, false) = (type, true)) (fun same => nomatch (Prod.mk.inj same).2)]
        rfl
    | true =>
        change (sender.reportFlags.erase own).find type = _
        rw [OrderedMap.find_erase]
        by_cases same : type = own
        · rw [if_pos same, if_pos (by rw [same])]
        · rw [if_neg same, if_neg (fun both => same (Prod.mk.inj both).1.symm)]
  have request : (if flag.2 then
      { sender with reportFlags := sender.reportFlags.erase flag.1 } else sender).buildTMMBR
        context = sender.buildTMMBR context := by
    split <;> rfl
  unfold buildFlag
  dsimp only
  generalize (if flag.2 then
    { sender with reportFlags := sender.reportFlags.erase flag.1 } else sender) = next
      at taken request ⊢
  cases found : builders.lookup flag.1 with
  | none =>
      refine ⟨taken, request, nofun, fun both => ?_⟩
      rw [both.1] at found
      cases found
  | some build =>
      obtain ⟨flags, same, refused⟩ := @build_frame context pathid _ (mem_of_lookup found) next
      dsimp only at flags same refused
      rw [request] at same refused
      dsimp only
      rw [← refused]
      cases made : build next context pathid with
      | mk last result =>
          rw [made] at flags same
          dsimp only at flags same
          rw [← flags] at taken
          cases result with
          | none => exact ⟨taken, same, fun _ => rfl, fun _ => rfl⟩
          | some packet =>
              dsimp only
              split <;> exact ⟨taken, same, nofun, nofun⟩

/-- The loop takes the volatile flags of a front in which no request for a bitrate is refused. -/
theorem buildFlags_front (front back : List (Nat × Bool)) (sender : RtcpSender)
    (out : CompoundPacket)
    (granted : ∀ flag ∈ front, flag.1 = kRtcpTmmbr → sender.buildTMMBR context ≠ none) :
    ∃ next built, buildFlags context pathid (front ++ back) sender out =
        buildFlags context pathid back next built ∧
      next.buildTMMBR context = sender.buildTMMBR context ∧
      ∀ type, next.reportFlags.find type =
        if (type, true) ∈ front then none else sender.reportFlags.find type := by
  induction front generalizing sender out with
  | nil => exact ⟨sender, out, rfl, rfl, fun _ => (if_neg List.not_mem_nil).symm⟩
  | cons flag front ih =>
      obtain ⟨taken, request, refused⟩ := @buildFlag_spec context pathid sender out flag
      obtain ⟨own, others⟩ := List.forall_mem_cons.mp granted
      rw [List.cons_append, buildFlags]
      cases made : buildFlag context pathid sender out flag with
      | mk next result =>
          rw [made] at taken request refused
          dsimp only at taken request refused
          cases result with
          | none =>
              obtain ⟨asked, none⟩ := refused.mp rfl
              exact absurd none (own asked)
          | some out =>
              rw [← request] at others
              obtain ⟨last, built, goesOn, again, left⟩ := ih next out others
              refine ⟨last, built, goesOn, again.trans request, fun type => ?_⟩
              rw [left, taken]
              by_cases here : flag = (type, true)
              · rw [if_pos here, if_pos (c := (type, true) ∈ flag :: front)
                  (here ▸ List.mem_cons_self), ite_self]
              · rw [if_neg here]
                exact if_congr (by simp [Ne.symm here]) rfl rfl

/-- A refused request for a bitrate ends the loop, with its own flag taken. -/
theorem buildFlags_refused {back : List (Nat × Bool)} {volatile : Bool} {sender : RtcpSender}
    {out : CompoundPacket} (refusal : sender.buildTMMBR context = none) (type : Nat) :
    (buildFlags context pathid ((kRtcpTmmbr, volatile) :: back) sender
        out).1.reportFlags.find type =
      if (kRtcpTmmbr, volatile) = (type, true) then none else sender.reportFlags.find type := by
  obtain ⟨taken, -, refused⟩ := @buildFlag_spec context pathid sender out (kRtcpTmmbr, volatile)
  rw [buildFlags]
  cases made : buildFlag context pathid sender out (kRtcpTmmbr, volatile) with
  | mk next result =>
      rw [made] at taken refused
      dsimp only at taken refused
      rw [refused.mpr ⟨rfl, refusal⟩]
      exact taken type

/-- The loop leaves the volatile flags that come after a refused request for a bitrate. -/
theorem buildFlags_consumed_iff (sender : RtcpSender) :
    (buildFlags context pathid sender.reportFlags.entries sender
        {}).1.allVolatileFlagsConsumed = true ↔
      (sender.reportFlags.find kRtcpTmmbr ≠ none → sender.buildTMMBR context = none →
        ∀ type, kRtcpTmmbr < type → sender.reportFlags.find type ≠ some true) := by
  rw [allVolatileFlagsConsumed_iff]
  by_cases refusal : sender.reportFlags.find kRtcpTmmbr ≠ none ∧ sender.buildTMMBR context = none
  · obtain ⟨volatile, found⟩ := Option.ne_none_iff_exists'.mp refusal.1
    obtain ⟨front, back, shape⟩ := List.append_of_mem (OrderedMap.find_eq_some_iff.mp found)
    have sorted := sender.reportFlags.sorted
    rw [shape] at sorted
    obtain ⟨-, behind, before⟩ := List.pairwise_append.mp sorted
    obtain ⟨next, built, goesOn, request, taken⟩ := @buildFlags_front context pathid front
      ((kRtcpTmmbr, volatile) :: back) sender {}
      (fun flag member own => absurd own (before flag member _ List.mem_cons_self).ne)
    rw [shape, goesOn]
    have ended := @buildFlags_refused context pathid back volatile next built
      (request.trans refusal.2)
    constructor
    · intro consumed _ _ type later
      have none := consumed type
      rw [ended, if_neg (fun same => later.ne (Prod.mk.inj same).1), taken,
        if_neg (fun early => later.asymm (before _ early _ List.mem_cons_self))] at none
      exact none
    · intro behindIt type left
      rw [ended, taken] at left
      split_ifs at left with own early
      have listed := OrderedMap.find_eq_some_iff.mp left
      rw [shape] at listed
      rcases List.mem_append.mp listed with seen | late
      · exact early seen
      · rcases List.mem_cons.mp late with same | late
        · exact own same.symm
        · exact behindIt refusal.1 refusal.2 type (List.rel_of_pairwise_cons behind late) left
  · obtain ⟨next, built, goesOn, -, taken⟩ := @buildFlags_front context pathid
      sender.reportFlags.entries [] sender {}
      (fun flag member own request => refusal ⟨by
        rw [← own, OrderedMap.find_eq_some_iff.mpr member]
        exact nofun, request⟩)
    rw [List.append_nil] at goesOn
    refine ⟨fun _ found request => absurd ⟨found, request⟩ refusal, fun _ type left => ?_⟩
    rw [goesOn] at left
    change next.reportFlags.find type = _ at left
    rw [taken] at left
    split_ifs at left with seen
    exact seen (OrderedMap.find_eq_some_iff.mp left)

end Loop

section Calls

variable {sender context packetTypes}

/-- A flag that a call acts on was there, or it was asked for, or it is about reports. -/
theorem mem_prepare_flags {flag : Nat × Bool}
    (member : flag ∈ (sender.prepare context packetTypes).1.reportFlags.entries) :
    sender.reportFlags.find flag.1 ≠ none ∨ flag.1 ∈ packetTypes.map flagOf ∨
      flag.1 ∈ [kRtcpReport, kRtcpSr, kRtcpRr, kRtcpSdes, kRtcpAnyExtendedReports] := by
  have found := OrderedMap.find_eq_some_iff.mpr member
  by_cases on : sender.method = .off
  · rw [prepare, if_pos on] at found
    exact .inl (by rw [found]; exact nofun)
  have present (there : (sender.ready packetTypes).reportFlags.find flag.1 ≠ none) :
      sender.reportFlags.find flag.1 ≠ none ∨ flag.1 ∈ packetTypes.map flagOf :=
    ((find_ready_ne_none _).mp there).1
  obtain ⟨stopped, goesOn⟩ := @prepare_eq sender context packetTypes on
  by_cases stops : sender.Stops packetTypes
  · obtain ⟨result, prepared⟩ := stopped stops
    rw [prepared] at found
    exact (present (by rw [found]; exact nofun)).imp_right .inl
  · rw [goesOn stops] at found
    by_cases report : flag.1 ∈ [kRtcpReport, kRtcpSr, kRtcpRr, kRtcpSdes]
    · exact .inr (.inr (List.mem_append_left [kRtcpAnyExtendedReports] report))
    · rw [find_prepareReport _ report] at found
      split_ifs at found with added
      · rw [added.1.1]
        exact .inr (.inr (by decide))
      · exact (present (by rw [found]; exact nofun)).imp_right .inl

/-- **When volatile flags are left behind.** A call leaves no volatile flag exactly if it does
not stop with something else than a report asked for, and does not leave the loop at a request
for a bitrate with a volatile flag behind it. If it leaves none, a later call acts only on flags
it is asked for, on permanent ones and on those of reports. -/
theorem volatile_flags_consumed_iff (sender : RtcpSender) (context : RtcpContext)
    (packetTypes : List Nat) (pathid : Int32) (on : sender.method ≠ .off) :
    ((sender.computeCompoundRTCPPacket context packetTypes pathid).1.allVolatileFlagsConsumed =
        true ↔ sender.LeavesNothing context packetTypes) ∧
      ((sender.computeCompoundRTCPPacket context packetTypes pathid).1.allVolatileFlagsConsumed =
        true → ∀ (later : RtcpSender) (context' : RtcpContext) (packetTypes' : List Nat),
          later.reportFlags =
            (sender.computeCompoundRTCPPacket context packetTypes pathid).1.reportFlags →
          ∀ flag ∈ (later.prepare context' packetTypes').1.reportFlags.entries,
            flag.1 ∈ packetTypes'.map flagOf ∨ later.reportFlags.find flag.1 = some false ∨
              flag.1 ∈ [kRtcpReport, kRtcpSr, kRtcpRr, kRtcpSdes, kRtcpAnyExtendedReports]) := by
  constructor
  · obtain ⟨stopped, goesOn⟩ := @prepare_eq sender context packetTypes on
    by_cases stops : sender.Stops packetTypes
    · obtain ⟨result, prepared⟩ := stopped stops
      have ended : (sender.computeCompoundRTCPPacket context packetTypes pathid).1 =
          sender.ready packetTypes := by
        rw [computeCompoundRTCPPacket, prepared]
      rw [ended, allVolatileFlagsConsumed_iff]
      simp only [ne_eq, find_ready_volatile]
      exact ⟨fun none => ⟨fun _ => none, fun goes => absurd stops goes⟩,
        fun leaves => leaves.stopped stops⟩
    · have same := ready_onlyFlags.trans
        (@prepareReport_onlyFlags context (sender.ready packetTypes))
      have request : ((sender.ready packetTypes).prepareReport context).buildTMMBR context =
          sender.buildTMMBR context := by
        rw [same]
        rfl
      have asked : ((sender.ready packetTypes).prepareReport context).reportFlags.find
          kRtcpTmmbr ≠ none ↔ sender.Present packetTypes kRtcpTmmbr := by
        rw [find_prepareReport _ (by decide),
          if_neg (fun both => absurd both.1.1 (by decide)), find_ready_ne_none]
        refine ⟨And.left, fun present => ⟨present, fun both => ?_⟩⟩
        rcases both.2.2 with own | own
        · exact absurd own (by decide)
        · exact absurd own.2 (by decide)
      have ended : (sender.computeCompoundRTCPPacket context packetTypes pathid).1 =
          (buildFlags context pathid
            ((sender.ready packetTypes).prepareReport context).reportFlags.entries
            ((sender.ready packetTypes).prepareReport context) {}).1 := by
        rw [computeCompoundRTCPPacket, goesOn stops]
        dsimp only
        split <;> next done => rw [done]
      have early : ∀ type ∈ [kRtcpReport, kRtcpSr, kRtcpRr, kRtcpSdes], type ≤ kRtcpTmmbr := by
        decide
      have volatile (type : Nat) (behind : kRtcpTmmbr < type) :=
        @find_prepared_volatile context sender packetTypes type
          (fun listed => absurd (early type listed) (Nat.not_le.mpr behind))
      rw [ended, buildFlags_consumed_iff, asked, request]
      constructor
      · intro consumed
        refine ⟨fun stop => absurd stop stops, fun _ present refusal => ⟨?_, ?_⟩⟩
        · exact fun type behind left =>
            consumed present refusal type behind ((volatile type behind).mpr (.inl left))
        · exact fun widened => consumed present refusal kRtcpAnyExtendedReports (by decide)
            ((volatile _ (by decide)).mpr (.inr ⟨rfl, widened⟩))
      · intro leaves present refusal type behind left
        obtain ⟨none, narrow⟩ := leaves.refused stops present refusal
        rcases (volatile type behind).mp left with own | widened
        · exact none type behind own
        · exact narrow widened.2
  · intro consumed later context' packetTypes' same flag member
    rw [allVolatileFlagsConsumed_iff, ← same] at consumed
    rcases mem_prepare_flags member with there | asked | report
    · refine .inr (.inl ?_)
      cases found : later.reportFlags.find flag.1 with
      | none => exact absurd found there
      | some volatile =>
          cases volatile with
          | true => exact absurd found (consumed flag.1)
          | false => rfl
    · exact .inl asked
    · exact .inr (.inr report)

/-- A sender before media was sent, in compound mode. -/
def beforeMedia : RtcpSender where
  ssrc := 1
  sending := true
  remoteSsrc := 2
  cname := [97]

def mediaSent (sender : RtcpSender) : RtcpSender := { sender with lastFrameCaptureTimeMs := 5 }

theorem volatile_flags_consumed_nack :
    (beforeMedia.mediaSent.computeCompoundRTCPPacket { nackList := [7] } [kRtcpNack]
      1).1.allVolatileFlagsConsumed = true :=
  (volatile_flags_consumed_iff beforeMedia.mediaSent { nackList := [7] } [kRtcpNack] 1
      (by decide)).1.mpr
    ⟨fun stops => absurd stops.1 (by decide), fun _ present => absurd present (by decide)⟩

/-- A request for path 1 is left behind, and builds an empty list for path 2 once media was
sent. -/
theorem nack_left_behind :
    (beforeMedia.computeCompoundRTCPPacket { nackList := [7] } [kRtcpNack]
        1).1.allVolatileFlagsConsumed = false ∧
      ∃ packets, ((beforeMedia.computeCompoundRTCPPacket { nackList := [7] } [kRtcpNack]
          1).1.mediaSent.computeCompoundRTCPPacket {} [kRtcpReport] 2).2 = .ok packets ∧
        RtcpPacket.nack 2 1 2 [] ∈ packets := by
  have empty : PackedNack.pack [] = [] := by rw [PackedNack.pack]
  rw [← empty]
  exact ⟨by decide, _, rfl, .tail _ (.tail _ (.head _))⟩

end Calls

end RtcpSender
end MpWebRtc
