import MpWebRtc.Receiver.FeedbackLabel

/-!
# The window of a path

What the proxy remembers of a path is in order if the numbers lie within half a circle,
without a hole as large as that, and if the window starts where the last message ended or
before. `PathArrivals.Tidy` says so. An arrival keeps this order as long as its number is
less than half a circle from the newest one, and then the packet is pending; sending the
window keeps it too, reports everything that is pending, and never meets a packet that
cannot be added to an empty message.
-/

namespace MpWebRtc

open Math Math.Serial Math.Run

/-- The message is for a path and reports the number as received. -/
def SentFeedback.Reports (sent : SentFeedback) (pathid : Int32) (number : UInt16) : Prop :=
  sent.pathid = pathid ∧ number ∈ sent.packet.receivedPackets.map (·.sequenceNumber)

instance (sent : SentFeedback) (pathid : Int32) (number : UInt16) :
    Decidable (sent.Reports pathid number) :=
  inferInstanceAs (Decidable (_ ∧ _))

namespace PathArrivals

variable {path : PathArrivals} {seq arrivalTimeMs : Int}

/-- The numbers that arrived, without large holes. -/
def Dense (entries : List (Int × Int)) : Prop :=
  ∀ first ∈ entries, ∀ second ∈ entries, first.1 < second.1 →
    ∃ between ∈ entries, first.1 ≤ between.1 ∧ between.1 < second.1 ∧
      second.1 - between.1 < 32768

/-- Behind the start of the window, the first number is not far. -/
def Near (entries : List (Int × Int)) (start : Int) : Prop :=
  ∀ entry ∈ entries, start ≤ entry.1 →
    ∃ next ∈ entries, start ≤ next.1 ∧ next.1 ≤ entry.1 ∧ next.1 - start < 32767

/-- The arrivals of a path are in order. -/
structure Tidy (path : PathArrivals) : Prop where
  fresh : path.periodicWindowStartSeq = none → path.packetArrivalTimes.entries = []
  times : ∀ entry ∈ path.packetArrivalTimes.entries, 0 ≤ entry.2
  span : ∀ first ∈ path.packetArrivalTimes.entries, ∀ second ∈ path.packetArrivalTimes.entries,
    second.1 - first.1 ≤ kMaxNumberOfPackets
  dense : Dense path.packetArrivalTimes.entries
  near : ∀ start, path.periodicWindowStartSeq = some start →
    Near path.packetArrivalTimes.entries start
  caughtUp : ∀ start, path.periodicWindowStartSeq = some start →
    path.packetArrivalTimes.lowerBound start = [] →
      path.packetArrivalTimes.maxKey = some (start - 1)

/-- The number is less than half a circle from the newest one. -/
def follows (path : PathArrivals) (seq : Int) : Bool :=
  path.packetArrivalTimes.maxKey.all fun newest =>
    decide (newest - seq < 32768) && decide (seq - newest < 32768)

theorem near_newest (follows : path.follows seq) {newest : Int}
    (largest : path.packetArrivalTimes.maxKey = some newest) :
    newest - seq < 32768 ∧ seq - newest < 32768 := by
  simpa [PathArrivals.follows, largest] using follows

/-- A number is in the map and will be reported. -/
def Pending (path : PathArrivals) (seq : Int) : Prop :=
  ∃ start, path.periodicWindowStartSeq = some start ∧ start ≤ seq ∧
    ∃ time, (seq, time) ∈ path.packetArrivalTimes.entries

theorem tidy_initial : Tidy {} where
  fresh := fun _ => rfl
  times := by simp
  span := by simp
  dense := by simp [Dense]
  near := by simp
  caughtUp := by simp

section Arrival

/-- Limiting the range establishes the bound on it, and loses only what is out of it. -/
theorem tidy_limitRange (path : PathArrivals) {start newest : Int}
    (window : path.periodicWindowStartSeq = some start)
    (times : ∀ entry ∈ path.packetArrivalTimes.entries, 0 ≤ entry.2)
    (dense : Dense path.packetArrivalTimes.entries)
    (near : Near path.packetArrivalTimes.entries start)
    (largest : path.packetArrivalTimes.maxKey = some newest) (behind : start ≤ newest) :
    Tidy (path.limitRange true) ∧
      (path.limitRange true).packetArrivalTimes.maxKey = some newest ∧
      ∀ seq, newest - seq ≤ kMaxNumberOfPackets → path.Pending seq →
        (path.limitRange true).Pending seq := by
  obtain ⟨newestTime, newestMember⟩ := OrderedMap.exists_of_maxKey largest
  have nonneg : 0 ≤ kMaxNumberOfPackets := by decide
  unfold limitRange
  rw [largest]
  dsimp only
  split
  next exceeds =>
    have keptIff : ∀ entry, entry ∈ (path.packetArrivalTimes.filter fun entry =>
        decide (newest - kMaxNumberOfPackets ≤ entry.1)).entries ↔
          entry ∈ path.packetArrivalTimes.entries ∧ newest - kMaxNumberOfPackets ≤ entry.1 := by
      intro entry
      rw [OrderedMap.mem_filter, decide_eq_true_iff]
    generalize path.packetArrivalTimes.filter (fun entry =>
      decide (newest - kMaxNumberOfPackets ≤ entry.1)) = kept at keptIff ⊢
    have newestKept : (newest, newestTime) ∈ kept.entries :=
      (keptIff _).mpr ⟨newestMember, by dsimp only; omega⟩
    obtain ⟨first, least⟩ := Option.isSome_iff_exists.mp
      (List.isSome_head?.mpr (List.ne_nil_of_mem newestKept))
    have firstMember : first ∈ kept.entries := List.mem_of_head? least
    rw [least]
    refine ⟨⟨?_, ?_, ?_, ?_, ?_, ?_⟩, ?_, ?_⟩
    · simp
    · exact fun entry member => times entry ((keptIff entry).mp member).1
    · intro one oneKept two twoKept
      have low := ((keptIff one).mp oneKept).2
      have high := OrderedMap.le_maxKey ((keptIff two).mp twoKept).1 largest
      omega
    · intro one oneKept two twoKept before
      obtain ⟨oneMember, oneHigh⟩ := (keptIff one).mp oneKept
      obtain ⟨between, member, after, below, close⟩ :=
        dense one oneMember two ((keptIff two).mp twoKept).1 before
      exact ⟨between, (keptIff between).mpr ⟨member, oneHigh.trans after⟩, after, below, close⟩
    · rintro other ⟨⟩ entry member -
      exact ⟨first, firstMember, le_rfl, OrderedMap.head_le least member, by omega⟩
    · rintro other ⟨⟩ none
      have inWindow := OrderedMap.mem_lowerBound.mpr ⟨firstMember, le_refl first.1⟩
      exact absurd (none ▸ inWindow) List.not_mem_nil
    · exact OrderedMap.maxKey_eq_some_iff.mpr ⟨⟨newestTime, newestKept⟩, fun entry member =>
        OrderedMap.le_maxKey ((keptIff entry).mp member).1 largest⟩
    · rintro seq recent ⟨other, -, -, time, member⟩
      have seqKept : (seq, time) ∈ kept.entries := (keptIff _).mpr ⟨member, by dsimp only; omega⟩
      exact ⟨first.1, rfl, OrderedMap.head_le least seqKept, time, seqKept⟩
  next within =>
    have recent : ∀ entry ∈ path.packetArrivalTimes.entries,
        newest - kMaxNumberOfPackets ≤ entry.1 := by
      intro entry member
      by_contra old
      exact within (List.any_eq_true.mpr ⟨entry, member, decide_eq_true (by omega)⟩)
    refine ⟨⟨?_, times, ?_, dense, ?_, ?_⟩, largest, fun seq _ pending => pending⟩
    · rw [window]
      simp
    · intro one oneMember two twoMember
      have low := recent one oneMember
      have high := OrderedMap.le_maxKey twoMember largest
      omega
    · intro other same
      rw [window] at same
      exact Option.some.inj same ▸ near
    · intro other same none
      rw [window] at same
      have inWindow := OrderedMap.mem_lowerBound.mpr ⟨newestMember, Option.some.inj same ▸ behind⟩
      exact absurd (none ▸ inWindow) List.not_mem_nil

/-- The path after a window was opened for a number: as before, except that old entries
may be gone, and that the window starts no later than the number. -/
structure Opened (path opened : PathArrivals) (seq start : Int) : Prop where
  window : opened.periodicWindowStartSeq = some start
  starts : start ≤ seq
  subset : ∀ entry ∈ opened.packetArrivalTimes.entries, entry ∈ path.packetArrivalTimes.entries
  later : ∀ first ∈ opened.packetArrivalTimes.entries, ∀ second ∈ path.packetArrivalTimes.entries,
    first.1 < second.1 → second ∈ opened.packetArrivalTimes.entries
  culled : ∀ entry ∈ path.packetArrivalTimes.entries,
    entry ∈ opened.packetArrivalTimes.entries ∨ entry.1 < seq
  near : start = seq ∨ Near opened.packetArrivalTimes.entries start
  turn : start = seq ∨ (∃ entry ∈ opened.packetArrivalTimes.entries, start ≤ entry.1) ∨
    seq - start < 32767
  pending : ∀ other, path.Pending other → opened.Pending other

theorem Tidy.openWindow (tidy : path.Tidy) (follows : path.follows seq) (arrivalTimeMs : Int) :
    ∃ start, Opened path (path.openWindow seq arrivalTimeMs) seq start := by
  cases window : path.periodicWindowStartSeq with
  | none =>
      have none := tidy.fresh window
      have same : path.openWindow seq arrivalTimeMs =
          { path with periodicWindowStartSeq := some seq } := by
        simp [PathArrivals.openWindow, reported, window]
      rw [same]
      refine ⟨seq, rfl, le_rfl, fun entry member => member, fun _ _ second member _ => member,
        fun entry member => .inl member, .inl rfl, .inl rfl, ?_⟩
      rintro other ⟨start, impossible, -⟩
      rw [window] at impossible
      cases impossible
  | some start =>
      have windowAfter : (path.openWindow seq arrivalTimeMs).periodicWindowStartSeq =
          some (if seq < start then seq else start) := by
        simp only [PathArrivals.openWindow, window]
        split <;> rfl
      refine ⟨if seq < start then seq else start, ?_⟩
      cases behind : path.packetArrivalTimes.lowerBound start with
      | nil =>
          -- Everything was reported, so that nothing that goes is still to be reported.
          have below : ∀ entry ∈ path.packetArrivalTimes.entries, ¬ start ≤ entry.1 := by
            intro entry member after
            have inWindow := OrderedMap.mem_lowerBound.mpr ⟨member, after⟩
            exact absurd (behind ▸ inWindow) List.not_mem_nil
          have entries : (path.openWindow seq arrivalTimeMs).packetArrivalTimes =
              path.packetArrivalTimes.dropWhile fun entry =>
                decide (entry.1 < seq) && decide (arrivalTimeMs - entry.2 ≥ kBackWindowMs) := by
            simp [PathArrivals.openWindow, reported, window, behind]
          have close := near_newest follows (tidy.caughtUp start window behind)
          refine ⟨windowAfter, by split <;> omega, ?_, ?_, ?_, ?_, ?_, ?_⟩
          · rw [entries]
            exact fun entry member => OrderedMap.mem_of_mem_dropWhile member
          · rw [entries]
            exact fun first remains second member before =>
              OrderedMap.mem_dropWhile_of_lt remains member before
          · rw [entries]
            intro entry member
            by_cases remains : entry ∈ (path.packetArrivalTimes.dropWhile fun entry =>
                decide (entry.1 < seq) && decide (arrivalTimeMs - entry.2 ≥ kBackWindowMs)).entries
            · exact .inl remains
            · have dropped := OrderedMap.of_not_mem_dropWhile member remains
              simp only [Bool.and_eq_true, decide_eq_true_eq] at dropped
              exact .inr dropped.1
          · split
            · exact .inl rfl
            · right
              rw [entries]
              intro entry member after
              exact absurd after (below entry (OrderedMap.mem_of_mem_dropWhile member))
          · split
            · exact .inl rfl
            · exact .inr (.inr (by omega))
          · rintro other ⟨_, same, after, time, member⟩
            rw [window] at same
            exact absurd (Option.some.inj same ▸ after) (below _ member)
      | cons first rest =>
          have firstIn : first ∈ path.packetArrivalTimes.lowerBound start := by
            rw [behind]
            exact List.mem_cons_self
          obtain ⟨firstMember, firstAfter⟩ := OrderedMap.mem_lowerBound.mp firstIn
          have entries : (path.openWindow seq arrivalTimeMs).packetArrivalTimes =
              path.packetArrivalTimes := by
            simp [PathArrivals.openWindow, reported, window, behind]
          refine ⟨windowAfter, by split <;> omega, ?_, ?_, ?_, ?_, ?_, ?_⟩
          · rw [entries]
            exact fun entry member => member
          · rw [entries]
            exact fun _ _ second member _ => member
          · rw [entries]
            exact fun entry member => .inl member
          · split
            · exact .inl rfl
            · right
              rw [entries]
              exact tidy.near start window
          · split
            · exact .inl rfl
            · right
              left
              rw [entries]
              exact ⟨first, firstMember, firstAfter⟩
          · rintro other ⟨_, same, after, time, member⟩
            rw [window] at same
            obtain rfl := Option.some.inj same
            refine ⟨_, windowAfter, by split <;> omega, time, ?_⟩
            rw [entries]
            exact member

section Opening

variable {opened : PathArrivals} {start : Int} (opens : Opened path opened seq start)
include opens

/-- The newest number of the path is still the newest, unless it is older than the packet. -/
theorem Opened.maxKey {newest : Int} (largest : opened.packetArrivalTimes.maxKey = some newest) :
    path.packetArrivalTimes.maxKey = some newest := by
  obtain ⟨time, member⟩ := OrderedMap.exists_of_maxKey largest
  refine OrderedMap.maxKey_eq_some_iff.mpr ⟨⟨time, opens.subset _ member⟩, fun entry known => ?_⟩
  by_contra larger
  have kept := opens.later _ member entry known (not_le.mp larger)
  exact larger (OrderedMap.le_maxKey kept largest)

/-- The order of the entries survives opening the window. -/
theorem Opened.dense (tidy : path.Tidy) : Dense opened.packetArrivalTimes.entries := by
  intro first firstMember second secondMember before
  obtain ⟨between, member, after, below, close⟩ := tidy.dense first (opens.subset _ firstMember)
    second (opens.subset _ secondMember) before
  refine ⟨between, ?_, after, below, close⟩
  rcases after.lt_or_eq with strictly | same
  · exact opens.later first firstMember between member strictly
  · exact OrderedMap.eq_of_key_eq (opens.subset _ firstMember) member same ▸ firstMember

/-- A known number changes nothing but the window. -/
theorem Opened.tidy_of_known (tidy : path.Tidy)
    {time : Int} (known : (seq, time) ∈ opened.packetArrivalTimes.entries) : opened.Tidy where
  fresh := by
    rw [opens.window]
    simp
  times := fun entry member => tidy.times entry (opens.subset entry member)
  span := fun first firstMember second secondMember =>
    tidy.span first (opens.subset _ firstMember) second (opens.subset _ secondMember)
  dense := opens.dense tidy
  near := by
    intro other same
    rw [opens.window] at same
    obtain rfl := Option.some.inj same
    rcases opens.near with rfl | near
    · exact fun entry member after => ⟨_, known, le_rfl, after, by dsimp only; omega⟩
    · exact near
  caughtUp := by
    intro other same none
    rw [opens.window] at same
    obtain rfl := Option.some.inj same
    have inWindow := OrderedMap.mem_lowerBound.mpr ⟨known, opens.starts⟩
    exact absurd (none ▸ inWindow) List.not_mem_nil

/-- With a new number, the entries have no large holes. -/
theorem Opened.dense_insert (tidy : path.Tidy) (follows : path.follows seq)
    (isNew : ∀ entry ∈ opened.packetArrivalTimes.entries, entry.1 ≠ seq) (time : Int) :
    Dense (opened.packetArrivalTimes.insert seq time).entries := by
  intro first firstMember second secondMember before
  rcases OrderedMap.mem_insert.mp firstMember with rfl | ⟨firstKnown, firstOther⟩
  · rcases OrderedMap.mem_insert.mp secondMember with rfl | ⟨secondKnown, -⟩
    · exact absurd before (lt_irrefl _)
    · -- The number is less than half a circle behind the newest one.
      obtain ⟨newest, largest⟩ := Option.isSome_iff_exists.mp (OrderedMap.maxKey_isSome secondKnown)
      have bound := OrderedMap.le_maxKey secondKnown largest
      have close := near_newest follows (opens.maxKey largest)
      exact ⟨_, firstMember, le_rfl, before, by dsimp only; omega⟩
  · obtain ⟨newest, largest⟩ := Option.isSome_iff_exists.mp (OrderedMap.maxKey_isSome firstKnown)
    obtain ⟨newestTime, newestMember⟩ := OrderedMap.exists_of_maxKey largest
    have close := near_newest follows (opens.maxKey largest)
    rcases OrderedMap.mem_insert.mp secondMember with rfl | ⟨secondKnown, -⟩
    · rcases lt_or_gt_of_ne (isNew _ newestMember) with older | newer
      · exact ⟨(newest, newestTime), OrderedMap.mem_insert.mpr (.inr ⟨newestMember, older.ne⟩),
          OrderedMap.le_maxKey firstKnown largest, older, close.2⟩
      · have spanned := tidy.span first (opens.subset _ firstKnown) _ (opens.subset _ newestMember)
        refine ⟨first, firstMember, le_rfl, before, ?_⟩
        unfold kMaxNumberOfPackets at spanned
        dsimp only at spanned newer ⊢
        omega
    · obtain ⟨between, member, after, below, gap⟩ :=
        opens.dense tidy first firstKnown second secondKnown before
      exact ⟨between, OrderedMap.mem_insert.mpr (.inr ⟨member, isNew between member⟩), after, below,
        gap⟩

/-- With a new number, the window starts near its first entry. -/
theorem Opened.near_insert
    (isNew : ∀ entry ∈ opened.packetArrivalTimes.entries, entry.1 ≠ seq) (time : Int) :
    Near (opened.packetArrivalTimes.insert seq time).entries start := by
  have here : (seq, time) ∈ (opened.packetArrivalTimes.insert seq time).entries :=
    OrderedMap.mem_insert.mpr (.inl rfl)
  have kept : ∀ entry ∈ opened.packetArrivalTimes.entries,
      entry ∈ (opened.packetArrivalTimes.insert seq time).entries := fun entry member =>
    OrderedMap.mem_insert.mpr (.inr ⟨member, isNew entry member⟩)
  intro entry member after
  rcases opens.near with rfl | near
  · exact ⟨_, here, le_rfl, after, by dsimp only; omega⟩
  · rcases OrderedMap.mem_insert.mp member with rfl | ⟨known, -⟩
    · rcases opens.turn with rfl | ⟨other, otherMember, otherAfter⟩ | soon
      · exact ⟨_, here, le_rfl, le_rfl, by dsimp only; omega⟩
      · obtain ⟨next, nextMember, nextAfter, nextBelow, close⟩ := near other otherMember otherAfter
        by_cases first : next.1 ≤ seq
        · exact ⟨next, kept next nextMember, nextAfter, first, close⟩
        · exact ⟨_, here, opens.starts, le_rfl, by dsimp only; omega⟩
      · exact ⟨_, here, opens.starts, le_rfl, soon⟩
    · obtain ⟨next, nextMember, nextAfter, nextBelow, close⟩ := near entry known after
      exact ⟨next, kept next nextMember, nextAfter, nextBelow, close⟩

end Opening

/-- What an arrival near the newest number of its path does: the arrivals stay in order,
the packet will be reported, and so will those that are not yet too old. -/
structure Arrives (path after : PathArrivals) (seq newest : Int) : Prop where
  tidy : after.Tidy
  largest : after.packetArrivalTimes.maxKey = some newest
  newer : seq ≤ newest
  grows : ∀ entry ∈ path.packetArrivalTimes.entries, entry.1 ≤ newest
  origin : newest = seq ∨ path.packetArrivalTimes.maxKey = some newest
  reports : after.Pending seq
  pending : ∀ other, newest - other ≤ kMaxNumberOfPackets → path.Pending other →
    after.Pending other

theorem Tidy.arrive (tidy : path.Tidy) (follows : path.follows seq) (nonneg : 0 ≤ arrivalTimeMs) :
    ∃ newest, Arrives path (path.arrive true seq arrivalTimeMs).1 seq newest := by
  obtain ⟨start, opens⟩ := tidy.openWindow follows arrivalTimeMs
  unfold PathArrivals.arrive
  rw [if_pos rfl]
  generalize path.openWindow seq arrivalTimeMs = opened at opens
  cases found : opened.packetArrivalTimes.find seq with
  | some time =>
      have known := OrderedMap.find_eq_some_iff.mp found
      obtain ⟨newest, largest⟩ := Option.isSome_iff_exists.mp (OrderedMap.maxKey_isSome known)
      have newer := OrderedMap.le_maxKey known largest
      dsimp only
      rw [if_pos (by rw [found]; rfl)]
      refine ⟨newest, opens.tidy_of_known tidy known, largest, newer, fun entry member => ?_,
        .inr (opens.maxKey largest), ⟨start, opens.window, opens.starts, time, known⟩,
        fun other _ pending => opens.pending other pending⟩
      exact OrderedMap.le_maxKey member (opens.maxKey largest)
  | none =>
      have isNew := OrderedMap.find_eq_none_iff.mp found
      have here : (seq, arrivalTimeMs) ∈
          (opened.packetArrivalTimes.insert seq arrivalTimeMs).entries :=
        OrderedMap.mem_insert.mpr (.inl rfl)
      obtain ⟨newest, largest⟩ := Option.isSome_iff_exists.mp (OrderedMap.maxKey_isSome here)
      have newer := OrderedMap.le_maxKey here largest
      have times : ∀ entry ∈ (opened.packetArrivalTimes.insert seq arrivalTimeMs).entries,
          0 ≤ entry.2 := by
        intro entry member
        rcases OrderedMap.mem_insert.mp member with rfl | ⟨known, -⟩
        · exact nonneg
        · exact tidy.times entry (opens.subset entry known)
      have grows : ∀ entry ∈ path.packetArrivalTimes.entries, entry.1 ≤ newest := by
        intro entry member
        rcases opens.culled entry member with remains | older
        · exact OrderedMap.le_maxKey
            (OrderedMap.mem_insert.mpr (.inr ⟨remains, isNew entry remains⟩)) largest
        · exact older.le.trans newer
      have origin : newest = seq ∨ path.packetArrivalTimes.maxKey = some newest := by
        obtain ⟨time, member⟩ := OrderedMap.exists_of_maxKey largest
        rcases OrderedMap.mem_insert.mp member with same | ⟨known, -⟩
        · exact .inl (congrArg Prod.fst same)
        · exact .inr (OrderedMap.maxKey_eq_some_iff.mpr ⟨⟨time, opens.subset _ known⟩, grows⟩)
      have recent : newest - seq ≤ kMaxNumberOfPackets := by
        unfold kMaxNumberOfPackets
        rcases origin with same | known
        · omega
        · have close := (near_newest follows known).1
          omega
      dsimp only
      rw [if_neg (by rw [found]; simp)]
      obtain ⟨ordered, kept, pending⟩ := tidy_limitRange
        { opened with packetArrivalTimes := opened.packetArrivalTimes.insert seq arrivalTimeMs }
        opens.window times (opens.dense_insert tidy follows isNew arrivalTimeMs)
        (opens.near_insert isNew arrivalTimeMs) largest (opens.starts.trans newer)
      refine ⟨newest, ordered, kept, newer, grows, origin, ?_, ?_⟩
      · exact pending seq recent ⟨start, opens.window, opens.starts, arrivalTimeMs, here⟩
      · rintro other recent waiting
        obtain ⟨_, window, after, time, member⟩ := opens.pending other waiting
        exact pending other recent ⟨_, window, after, time,
          OrderedMap.mem_insert.mpr (.inr ⟨member, isNew _ member⟩)⟩

theorem arrive_lastProcessTimeMs (path : PathArrivals) (periodic : Bool) (seq arrivalTimeMs : Int) :
    (path.arrive periodic seq arrivalTimeMs).1.lastProcessTimeMs = path.lastProcessTimeMs := by
  have limited : ∀ path : PathArrivals,
      (path.limitRange periodic).lastProcessTimeMs = path.lastProcessTimeMs := by
    intro path
    unfold limitRange
    split
    · rfl
    · split <;> rfl
  unfold PathArrivals.arrive
  extract_lets opened
  have same : opened.lastProcessTimeMs = path.lastProcessTimeMs := by
    unfold opened
    split <;> rfl
  split
  · exact same
  · exact (limited _).trans same

end Arrival

section Sending

variable {start : Int} {taken rest : List (Int × Int)} {map : OrderedMap Int Int}

/-- The entries behind a later start. -/
theorem lowerBound_of_split {last : Int × Int}
    (split : map.lowerBound start = taken ++ last :: rest) :
    map.lowerBound (last.1 + 1) = rest := by
  have sorted : (map.lowerBound start).Pairwise fun first second => first.1 < second.1 :=
    map.sorted.filter _
  have lastAfter : start ≤ last.1 := by
    have member : last ∈ map.lowerBound start := by simp [split]
    exact (OrderedMap.mem_lowerBound.mp member).2
  have further : map.lowerBound (last.1 + 1) =
      (map.lowerBound start).filter fun entry => decide (last.1 + 1 ≤ entry.1) := by
    unfold OrderedMap.lowerBound
    rw [List.filter_filter]
    apply List.filter_congr
    intro entry _
    rw [← Bool.decide_and, decide_eq_decide]
    omega
  rw [split] at sorted further
  obtain ⟨-, ordered, before⟩ := List.pairwise_append.mp sorted
  have noneTaken : taken.filter (fun entry => decide (last.1 + 1 ≤ entry.1)) = [] := by
    refine List.filter_eq_nil_iff.mpr fun entry member => ?_
    have below := before entry member last List.mem_cons_self
    simp only [decide_eq_true_eq]
    omega
  have allRest : rest.filter (fun entry => decide (last.1 + 1 ≤ entry.1)) = rest := by
    refine List.filter_eq_self.mpr fun entry member => ?_
    have above := List.rel_of_pairwise_cons ordered member
    exact decide_eq_true (by omega)
  rw [further, List.filter_append, noneTaken, List.nil_append, List.filter_cons_of_neg (by simp),
    allRest]

/-- After the last entry of a message, the next one is near. -/
theorem near_of_split (dense : Dense map.entries) {last : Int × Int}
    (split : map.lowerBound start = taken ++ last :: rest) : Near map.entries (last.1 + 1) := by
  have remaining := lowerBound_of_split split
  have lastMember : last ∈ map.entries := by
    have member : last ∈ map.lowerBound start := by simp [split]
    exact (OrderedMap.mem_lowerBound.mp member).1
  intro entry member after
  have inRest : entry ∈ rest := by
    rw [← remaining]
    exact OrderedMap.mem_lowerBound.mpr ⟨member, after⟩
  obtain ⟨first, others, rfl⟩ := List.exists_cons_of_ne_nil (List.ne_nil_of_mem inRest)
  have firstIn : first ∈ map.lowerBound (last.1 + 1) := by
    rw [remaining]
    exact List.mem_cons_self
  obtain ⟨firstMember, firstAfter⟩ := OrderedMap.mem_lowerBound.mp firstIn
  have least : ∀ other ∈ map.lowerBound (last.1 + 1), first.1 ≤ other.1 := by
    have sorted : (map.lowerBound (last.1 + 1)).Pairwise fun first second => first.1 < second.1 :=
      map.sorted.filter _
    rw [remaining] at sorted ⊢
    intro other listed
    rcases List.mem_cons.mp listed with rfl | later
    · exact le_rfl
    · exact (List.rel_of_pairwise_cons sorted later).le
  obtain ⟨between, betweenMember, low, high, close⟩ :=
    dense last lastMember first firstMember (by omega)
  have nothing : ¬ last.1 + 1 ≤ between.1 := fun beyond =>
    absurd (least between (OrderedMap.mem_lowerBound.mpr ⟨betweenMember, beyond⟩)) (by omega)
  exact ⟨first, firstMember, firstAfter,
    least entry (OrderedMap.mem_lowerBound.mpr ⟨member, after⟩), by omega⟩

/-- A round with something to report sends a message about the first entries. -/
theorem sendRound_spec (pathid : Int32) (ssrc : UInt32)
    (times : ∀ entry ∈ path.packetArrivalTimes.entries, 0 ≤ entry.2)
    (near : Near path.packetArrivalTimes.entries start) {first : Int × Int}
    {entries : List (Int × Int)}
    (window : path.packetArrivalTimes.lowerBound start = first :: entries) :
    ∃ message taken rest last,
      sendRound pathid ssrc path start =
        .sent message
          { path with
            feedbackPacketCount := path.feedbackPacketCount + 1
            periodicWindowStartSeq := some (last.1 + 1) } (last.1 + 1) ∧
      path.packetArrivalTimes.lowerBound start = taken ++ last :: rest ∧
      ∀ entry ∈ taken ++ [last], message.Reports pathid (wrap entry.1) := by
  have firstIn : first ∈ path.packetArrivalTimes.lowerBound start := by
    rw [window]
    exact List.mem_cons_self
  obtain ⟨firstMember, firstAfter⟩ := OrderedMap.mem_lowerBound.mp firstIn
  have close : first.1 - start < 32767 := by
    obtain ⟨next, nextMember, nextAfter, nextBelow, close⟩ := near first firstMember firstAfter
    have sorted : (path.packetArrivalTimes.lowerBound start).Pairwise
        fun first second => first.1 < second.1 := path.packetArrivalTimes.sorted.filter _
    have nextIn := OrderedMap.mem_lowerBound.mpr ⟨nextMember, nextAfter⟩
    rw [window] at sorted nextIn
    rcases List.mem_cons.mp nextIn with rfl | later
    · exact close
    · have above := List.rel_of_pairwise_cons sorted later
      omega
  obtain ⟨packet, taken, rest, last, built, split, -, numbers⟩ := buildFeedbackPacket_spec pathid
    path.feedbackPacketCount ssrc entries (times first firstMember) firstAfter close
  refine ⟨⟨pathid, packet⟩, taken, rest, last, ?_, window.trans split, fun entry member => ?_⟩
  · unfold sendRound
    rw [window]
    dsimp only
    rw [built]
  · refine ⟨rfl, ?_⟩
    rw [numbers]
    exact List.mem_map_of_mem (f := (wrap ·.1)) member

/-- All of the window is reported, and no check fails. -/
theorem sendWindow_spec (pathid : Int32) (ssrc : UInt32) {fuel : Nat} {path : PathArrivals}
    (times : ∀ entry ∈ path.packetArrivalTimes.entries, 0 ≤ entry.2)
    (dense : Dense path.packetArrivalTimes.entries)
    (near : Near path.packetArrivalTimes.entries start)
    (window : path.periodicWindowStartSeq = some start)
    (enough : (path.packetArrivalTimes.lowerBound start).length ≤ fuel) :
    (sendWindow pathid ssrc fuel path start).2.2 = true ∧
      (∃ next, (sendWindow pathid ssrc fuel path start).1.periodicWindowStartSeq = some next ∧
        path.packetArrivalTimes.lowerBound next = [] ∧
        (next = start ∨ ∃ time, (next - 1, time) ∈ path.packetArrivalTimes.entries)) ∧
      ∀ entry ∈ path.packetArrivalTimes.lowerBound start,
        ∃ sent ∈ (sendWindow pathid ssrc fuel path start).2.1,
          sent.Reports pathid (wrap entry.1) := by
  induction fuel generalizing path start with
  | zero =>
      have none := List.length_eq_zero_iff.mp (Nat.le_zero.mp enough)
      rw [none]
      exact ⟨rfl, ⟨start, window, none, .inl rfl⟩, List.forall_mem_nil _⟩
  | succ fuel ih =>
      unfold sendWindow
      cases behind : path.packetArrivalTimes.lowerBound start with
      | nil =>
          have done : sendRound pathid ssrc path start = .done := by
            unfold sendRound
            rw [behind]
          rw [done]
          exact ⟨rfl, ⟨start, window, behind, .inl rfl⟩, List.forall_mem_nil _⟩
      | cons first entries =>
          obtain ⟨message, taken, rest, last, round, split, reports⟩ :=
            sendRound_spec pathid ssrc times near behind
          have remaining := lowerBound_of_split split
          have lastMember : last ∈ path.packetArrivalTimes.entries := by
            have member : last ∈ path.packetArrivalTimes.lowerBound start := by simp [split]
            exact (OrderedMap.mem_lowerBound.mp member).1
          rw [round]
          dsimp only
          obtain ⟨passed, ⟨next, windowAfter, empty, origin⟩, others⟩ := @ih (last.1 + 1)
            { path with
              feedbackPacketCount := path.feedbackPacketCount + 1
              periodicWindowStartSeq := some (last.1 + 1) } times dense (near_of_split dense split) rfl (by
              dsimp only
              rw [remaining]
              rw [split] at enough
              simp only [List.length_append, List.length_cons] at enough
              omega)
          refine ⟨passed, ⟨next, windowAfter, empty, .inr ?_⟩, ?_⟩
          · rcases origin with rfl | known
            · exact ⟨last.2, by simpa using lastMember⟩
            · exact known
          · rw [← behind, split]
            intro entry member
            have place : entry ∈ taken ++ [last] ∨ entry ∈ rest := by
              simpa [or_assoc] using member
            rcases place with now | later
            · exact ⟨message, List.mem_cons_self, reports entry now⟩
            · obtain ⟨sent, listed, reported⟩ := others entry (by
                dsimp only
                rw [remaining]
                exact later)
              exact ⟨sent, List.mem_cons_of_mem _ listed, reported⟩

/-- A call of `Process` keeps the arrivals in order, and reports what is pending unless
it is the first one. -/
theorem Tidy.sendPeriodic (tidy : path.Tidy) (pathid : Int32) (ssrc : UInt32) {nowMs : Int}
    (nonneg : 0 ≤ nowMs) :
    (path.sendPeriodic pathid ssrc nowMs).2.2 = true ∧
      (path.sendPeriodic pathid ssrc nowMs).1.Tidy ∧
      (path.sendPeriodic pathid ssrc nowMs).1.packetArrivalTimes = path.packetArrivalTimes ∧
      (path.periodicWindowStartSeq ≠ none →
        0 ≤ (path.sendPeriodic pathid ssrc nowMs).1.lastProcessTimeMs) ∧
      ∀ seq, path.Pending seq →
        (path.sendPeriodic pathid ssrc nowMs).1.Pending seq ∧ path.lastProcessTimeMs < 0 ∨
          ∃ sent ∈ (path.sendPeriodic pathid ssrc nowMs).2.1, sent.Reports pathid (wrap seq) := by
  unfold PathArrivals.sendPeriodic
  split
  next first =>
    exact ⟨rfl, ⟨tidy.fresh, tidy.times, tidy.span, tidy.dense, tidy.near, tidy.caughtUp⟩, rfl,
      fun _ => nonneg, fun seq pending => .inl ⟨pending, first⟩⟩
  next later =>
    cases window : path.periodicWindowStartSeq with
    | none =>
        refine ⟨rfl, tidy, rfl, fun known => absurd rfl known, ?_⟩
        rintro seq ⟨start, impossible, -⟩
        rw [window] at impossible
        cases impossible
    | some start =>
        obtain ⟨passed, ⟨next, windowAfter, empty, origin⟩, reports⟩ := sendWindow_spec pathid ssrc
          tidy.times tidy.dense (tidy.near start window) window
          (List.length_filter_le _ path.packetArrivalTimes.entries)
        have kept := (sendWindow_labelled pathid ssrc path.packetArrivalTimes.entries.length path
          start).1
        dsimp only
        refine ⟨passed, ⟨?_, ?_, ?_, ?_, ?_, ?_⟩, kept, ?_, ?_⟩
        · dsimp only
          rw [windowAfter]
          simp
        · dsimp only
          rw [kept]
          exact tidy.times
        · dsimp only
          rw [kept]
          exact tidy.span
        · dsimp only
          rw [kept]
          exact tidy.dense
        · dsimp only
          rw [windowAfter, kept]
          rintro other ⟨⟩ entry member after
          have inWindow := OrderedMap.mem_lowerBound.mpr ⟨member, after⟩
          exact absurd (empty ▸ inWindow) List.not_mem_nil
        · dsimp only
          rw [windowAfter, kept]
          rintro other ⟨⟩ -
          rcases origin with rfl | known
          · exact tidy.caughtUp next window empty
          · refine OrderedMap.maxKey_eq_some_iff.mpr ⟨known, fun entry member => ?_⟩
            by_contra beyond
            have inWindow := OrderedMap.mem_lowerBound.mpr ⟨member, show next ≤ entry.1 by omega⟩
            exact absurd (empty ▸ inWindow) List.not_mem_nil
        · intro _
          rw [if_pos passed]
          exact nonneg
        · rintro seq ⟨_, same, after, time, member⟩
          rw [window] at same
          right
          exact reports (seq, time)
            (OrderedMap.mem_lowerBound.mpr ⟨member, Option.some.inj same ▸ after⟩)

end Sending

end PathArrivals

end MpWebRtc
