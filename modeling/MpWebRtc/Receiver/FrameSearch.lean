import MpWebRtc.Receiver.PacketMap

/-!
# Searching and handing out a frame

A packet is complete when the buffer holds everything before it in its frame: it is the
first packet, or the packet before it is there, has its timestamp and is complete as well.
From a complete packet the search backwards ends at the first packet, without coming to an
empty slot.

A stretch of numbers of which all packets are in the buffer with one timestamp is handed
out as a frame.
-/

namespace MpWebRtc.VideoCoding

open Math.Serial Math

/-- The packet at `s` is complete, and the first packet of its frame is `k` numbers before. -/
inductive Complete (size : Nat) (stored : UInt16 → Option PacketBuffer.Packet) :
    Nat → UInt16 → Prop
  | first {s : UInt16} {p : PacketBuffer.Packet} (held : stored s = some p)
      (flagged : p.isFirstPacketInFrame = true) : Complete size stored 0 s
  | next {k : Nat} {s : UInt16} {p q : PacketBuffer.Packet} (held : stored s = some p)
      (unflagged : p.isFirstPacketInFrame = false) (adjacent : Adjacent size s)
      (before : stored (s - 1) = some q) (same : q.timestamp = p.timestamp)
      (continuous : q.continuous = true) (rest : Complete size stored k (s - 1)) :
      Complete size stored (k + 1) s

/-- The packets of the `k + 1` numbers up to `last` are all there, with one timestamp. -/
def Stretch (stored : UInt16 → Option PacketBuffer.Packet) (timestamp : UInt32) (k : Nat)
    (last : UInt16) : Prop :=
  ∀ i ≤ k, ∃ p, stored (last - UInt16.ofNat i) = some p ∧ p.timestamp = timestamp

section Stretches

variable {size k : Nat} {stored : UInt16 → Option PacketBuffer.Packet} {s last : UInt16}
  {timestamp : UInt32}

theorem sub_ofNat_succ (s : UInt16) (i : Nat) :
    s - UInt16.ofNat (i + 1) = s - 1 - UInt16.ofNat i := by
  apply UInt16.toNat_inj.mp
  rw [UInt16.toNat_sub, UInt16.toNat_sub, UInt16.toNat_sub, UInt16.toNat_ofNat',
    UInt16.toNat_ofNat', show (1 : UInt16).toNat = 1 from rfl]
  omega

theorem Complete.stretch (complete : Complete size stored k s) {p : PacketBuffer.Packet}
    (held : stored s = some p) : Stretch stored p.timestamp k s := by
  induction complete generalizing p with
  | first _ _ =>
      intro i bound
      obtain rfl : i = 0 := by omega
      exact ⟨p, by simpa using held, rfl⟩
  | next here _ _ before same _ _ ih =>
      obtain rfl := Option.some.inj (here.symm.trans held)
      intro i bound
      cases i with
      | zero => exact ⟨_, by simpa using held, rfl⟩
      | succ i =>
          obtain ⟨q, there, timestamp⟩ := ih before i (by omega)
          exact ⟨q, by rw [sub_ofNat_succ, there], timestamp.trans same⟩

theorem toNat_forwardDiff_sub (s : UInt16) {i : Nat} :
    (forwardDiff (s - UInt16.ofNat i) s).toNat = i % 65536 := by
  have bound := s.toNat_lt
  rw [toNat_forwardDiff, UInt16.toNat_sub, UInt16.toNat_ofNat']
  omega

/-- If some number is missing, a stretch ends before it. -/
theorem Stretch.lt_of_missing (stretch : Stretch stored timestamp k last) {free : UInt16}
    (missing : stored free = none) : k < (forwardDiff free last).toNat := by
  by_contra long
  obtain ⟨p, held, -⟩ := stretch (forwardDiff free last).toNat (by omega)
  have here : last - UInt16.ofNat (forwardDiff free last).toNat = free := by
    have bound := last.toNat_lt
    have freeBound := free.toNat_lt
    apply UInt16.toNat_inj.mp
    rw [UInt16.toNat_sub, UInt16.toNat_ofNat', toNat_forwardDiff]
    omega
  rw [here, missing] at held
  simp at held

/-- The numbers handed out are those of the stretch. -/
theorem Stretch.held_of_mem (stretch : Stretch stored timestamp k last) {n : UInt16}
    (member : n ∈ NackModule.seqNumsBetween (last - UInt16.ofNat k) (last + 1)) :
    ∃ p, stored n = some p ∧ p.timestamp = timestamp := by
  obtain ⟨i, inRange, rfl⟩ := List.mem_map.mp member
  rw [List.mem_range] at inRange
  have bound := last.toNat_lt
  have short : i ≤ k := by
    rw [toNat_forwardDiff, UInt16.toNat_sub, UInt16.toNat_ofNat', UInt16.toNat_add,
      show (1 : UInt16).toNat = 1 from rfl] at inRange
    omega
  have number : last - UInt16.ofNat k + UInt16.ofNat i = last - UInt16.ofNat (k - i) := by
    apply UInt16.toNat_inj.mp
    rw [UInt16.toNat_add, UInt16.toNat_sub, UInt16.toNat_sub, UInt16.toNat_ofNat',
      UInt16.toNat_ofNat', UInt16.toNat_ofNat']
    omega
  rw [number]
  exact stretch (k - i) (by omega)

theorem Stretch.extend {i : Nat}
    (stretch : Stretch stored timestamp i last) {q : PacketBuffer.Packet}
    (held : stored (last - UInt16.ofNat (i + 1)) = some q) (same : q.timestamp = timestamp) :
    Stretch stored timestamp (i + 1) last := by
  intro j bound
  rcases Nat.lt_or_eq_of_le bound with before | rfl
  · exact stretch j (by omega)
  · exact ⟨q, held, same⟩

theorem sub_one_sub_ofNat (s : UInt16) (i : Nat) :
    s - UInt16.ofNat i - 1 = s - UInt16.ofNat (i + 1) := by
  apply UInt16.toNat_inj.mp
  rw [UInt16.toNat_sub, UInt16.toNat_sub, UInt16.toNat_sub, UInt16.toNat_ofNat',
    UInt16.toNat_ofNat', show (1 : UInt16).toNat = 1 from rfl]
  omega

end Stretches

namespace PacketBuffer

section Search

variable {b : PacketBuffer} {k : Nat} {s : UInt16} {timestamp : UInt32}

/-- From a complete packet the search finds the first packet of the frame. -/
theorem searchFrameStart_of_complete (complete : Complete b.size b.stored k s)
    (search : FrameSearch) (index : search.startIndex = b.indexOf s)
    (number : search.startSeqNum = s) (remaining : Nat) (enough : k < remaining + 1) :
    ∃ found, b.searchFrameStart false timestamp (remaining + 1) search = some (some found) ∧
      found.startSeqNum = s - UInt16.ofNat k := by
  induction complete generalizing remaining search with
  | first held flagged =>
      obtain ⟨inSlot, -⟩ := stored_eq_some_iff.mp held
      refine ⟨search, ?_, by simpa using number⟩
      unfold searchFrameStart
      rw [index, inSlot]
      simp [flagged]
  | next held unflagged adjacent before _ _ rest ih =>
      obtain ⟨inSlot, -⟩ := stored_eq_some_iff.mp held
      obtain ⟨remaining, rfl⟩ : ∃ more, remaining = more + 1 := ⟨remaining - 1, by omega⟩
      obtain ⟨found, result, start⟩ := ih (search.back b)
        ((congrArg b.prevIndex index).trans adjacent) (congrArg (· - 1) number) remaining
        (by omega)
      refine ⟨found, ?_, ?_⟩
      · rw [← result]
        conv_lhs => unfold searchFrameStart
        rw [index, inSlot]
        simp [unflagged, FrameSearch.note]
      · rw [start, sub_ofNat_succ]

/-- An H.264 search that goes on has the next packet before it. -/
theorem Shaped.stored_of_not_frameEnds (shaped : b.Shaped) {last : UInt16}
    (near : ∀ q, b.stored q.seqNum = some q → q.timestamp = timestamp →
      (forwardDiff q.seqNum last).toNat < b.size)
    (short : (forwardDiff (s - 1) last).toNat < b.size)
    (goesOn : b.frameEnds timestamp (b.prevIndex (b.indexOf s)) = false) :
    Adjacent b.size s ∧ ∃ q, b.stored (s - 1) = some q ∧ q.timestamp = timestamp := by
  unfold frameEnds at goesOn
  split at goesOn
  · simp at goesOn
  · rename_i q held
    have same : q.timestamp = timestamp := by simpa using goesOn
    have adjacent := shaped.adjacent held
    have found := shaped.inPlace.lookup_key held
    have slot := shaped.inPlace _ q held
    rw [prevIndex_of_adjacent adjacent] at slot
    have number := eq_of_same_slot_of_near shaped.dvd_or_le slot (near q found same) short
    exact ⟨adjacent, q, number ▸ found, same⟩

theorem FrameSearch.note_start {search read : FrameSearch} {isH264 : Bool} {entry : Packet}
    (noted : search.note b isH264 entry = some read) :
    read.startSeqNum = search.startSeqNum ∧ read.startIndex = search.startIndex := by
  unfold FrameSearch.note at noted
  split at noted
  · unfold FrameSearch.readNalus at noted
    split at noted
    · simp at noted
    · split at noted
      · simp at noted
      · obtain rfl := Option.some.inj noted
        exact ⟨rfl, rfl⟩
  · obtain rfl := Option.some.inj noted
    exact ⟨rfl, rfl⟩

/-- An H.264 search goes back over a stretch of packets with its timestamp. -/
theorem Shaped.searchFrameStart_h264 (shaped : b.Shaped) {last : UInt16}
    (near : ∀ q, b.stored q.seqNum = some q → q.timestamp = timestamp →
      (forwardDiff q.seqNum last).toNat < b.size)
    (remaining i : Nat) (total : i + remaining + 1 = b.size) (search : FrameSearch)
    (index : search.startIndex = b.indexOf (last - UInt16.ofNat i))
    (number : search.startSeqNum = last - UInt16.ofNat i)
    (stretch : Stretch b.stored timestamp i last) :
    b.searchFrameStart true timestamp (remaining + 1) search = some none ∨
      ∃ found j, b.searchFrameStart true timestamp (remaining + 1) search = some (some found) ∧
        found.startSeqNum = last - UInt16.ofNat j ∧ Stretch b.stored timestamp j last := by
  induction remaining generalizing i search with
  | zero =>
      obtain ⟨p, here, -⟩ := stretch i (Nat.le_refl i)
      obtain ⟨inSlot, -⟩ := stored_eq_some_iff.mp here
      unfold searchFrameStart
      rw [index, inSlot]
      cases noted : search.note b true p with
      | none => exact .inl (by simp [noted])
      | some read =>
          refine .inr ⟨read, i, by simp [noted], ?_, stretch⟩
          rw [(FrameSearch.note_start noted).1, number]
  | succ remaining ih =>
      obtain ⟨p, here, -⟩ := stretch i (Nat.le_refl i)
      obtain ⟨inSlot, -⟩ := stored_eq_some_iff.mp here
      unfold searchFrameStart
      rw [index, inSlot]
      cases noted : search.note b true p with
      | none => exact .inl (by simp [noted])
      | some read =>
          obtain ⟨sameNumber, sameIndex⟩ := FrameSearch.note_start noted
          have readIndex := sameIndex.trans index
          have readNumber := sameNumber.trans number
          cases ends : b.frameEnds timestamp (b.prevIndex read.startIndex) with
          | true =>
              exact .inr ⟨read, i, by simp [noted, ends], readNumber, stretch⟩
          | false =>
              rw [readIndex] at ends
              have short : (forwardDiff (last - UInt16.ofNat i - 1) last).toNat < b.size := by
                rw [sub_one_sub_ofNat, toNat_forwardDiff_sub]
                omega
              obtain ⟨adjacent, q, before, same⟩ := shaped.stored_of_not_frameEnds near short ends
              rw [sub_one_sub_ofNat] at before
              have next := ih (i + 1) (by omega) (read.back b)
                (by
                  rw [← sub_one_sub_ofNat]
                  exact (congrArg b.prevIndex readIndex).trans adjacent)
                (by
                  rw [← sub_one_sub_ofNat]
                  exact congrArg (· - 1) readNumber)
                (stretch.extend before same)
              simpa [noted, readIndex, ends] using next

end Search

section Taking

/-- The parts of a packet that the buffer never changes. -/
structure SamePacket (inserted p : Packet) : Prop where
  seqNum : p.seqNum = inserted.seqNum
  timestamp : p.timestamp = inserted.timestamp
  codec : p.codec = inserted.codec
  nalus : p.nalus = inserted.nalus
  videoPayload : p.videoPayload = inserted.videoPayload

/-- A run of packets is a frame: its numbers are consecutive, it has one timestamp, and
the flags mark its first and its last packet. -/
structure IsFrame (frame : List Packet) : Prop where
  nonempty : frame ≠ []
  numbers : ∃ start : UInt16,
    frame.map (·.seqNum) = (List.range frame.length).map fun i => start + UInt16.ofNat i
  timestamp : ∃ timestamp, ∀ p ∈ frame, p.timestamp = timestamp
  first : frame.map (·.isFirstPacketInFrame) =
    (List.range frame.length).map fun i => decide (i = 0)
  last : frame.map (·.isLastPacketInFrame) =
    (List.range frame.length).map fun i => decide (i + 1 = frame.length)

variable {b : PacketBuffer} {timestamp : UInt32} {start last : UInt16}

/-- What `takePackets` hands out and leaves. -/
structure Taken (b : PacketBuffer) (timestamp : UInt32) (start last : UInt16)
    (numbers : List UInt16) (next : PacketBuffer) (packets : List Packet) : Prop where
  shaped : next.Shaped
  size : next.size = b.size
  stored : ∀ n, next.stored n = if n ∈ numbers then none else b.stored n
  ordered : packets.map (·.seqNum) = numbers
  firstFlags : packets.map (·.isFirstPacketInFrame) = numbers.map fun n => decide (n = start)
  lastFlags : packets.map (·.isLastPacketInFrame) = numbers.map fun n => decide (n = last)
  held : ∀ p ∈ packets, p.timestamp = timestamp ∧
    ∃ q, b.stored p.seqNum = some q ∧ SamePacket q p

theorem Shaped.takePackets (shaped : b.Shaped) {numbers : List UInt16} (distinct : numbers.Nodup)
    (held : ∀ n ∈ numbers, ∃ p, b.stored n = some p ∧ p.timestamp = timestamp) :
    ∃ next packets, takePackets start last b numbers = some (next, packets) ∧
      Taken b timestamp start last numbers next packets := by
  induction numbers generalizing b with
  | nil =>
      exact ⟨b, [], rfl, shaped, rfl, fun n => by simp, rfl, rfl, rfl, by simp⟩
  | cons n numbers ih =>
      obtain ⟨fresh, distinct⟩ := List.nodup_cons.mp distinct
      obtain ⟨p, found, same⟩ := held n (List.mem_cons_self ..)
      obtain ⟨inSlot, number⟩ := stored_eq_some_iff.mp found
      have owned := owned_of_stored found
      have erased : (b.setSlot (b.indexOf n) none).stored = Function.update b.stored n none :=
        stored_setSlot owned (by simp)
      have others (m : UInt16) (member : m ∈ numbers) :
          (b.setSlot (b.indexOf n) none).stored m = b.stored m := by
        rw [erased, Function.update_of_ne]
        rintro rfl
        exact fresh member
      have emptied : (b.setSlot (b.indexOf n) none).Shaped := shaped.setSlot (by simp)
      obtain ⟨next, packets, result, taken⟩ := ih emptied distinct (by
        intro m member
        rw [others m member]
        exact held m (List.mem_cons_of_mem _ member))
      refine ⟨next, _, by rw [PacketBuffer.takePackets, inSlot, result]; rfl, taken.shaped, taken.size,
        ?_, ?_, ?_, ?_, ?_⟩
      · intro m
        rw [taken.stored, erased, Function.update_apply]
        by_cases here : m = n
        · simp [here]
        · simp [here]
      · exact congrArg₂ List.cons number taken.ordered
      · exact congrArg₂ List.cons rfl taken.firstFlags
      · exact congrArg₂ List.cons rfl taken.lastFlags
      · intro q member
        rcases List.mem_cons.mp member with rfl | later
        · exact ⟨same, p, by rw [← found, ← number], ⟨rfl, rfl, rfl, rfl, rfl⟩⟩
        · obtain ⟨stamp, r, there, copy⟩ := taken.held q later
          refine ⟨stamp, r, ?_, copy⟩
          rw [← others q.seqNum, there]
          rw [← taken.ordered]
          exact List.mem_map_of_mem later

theorem nodup_seqNumsBetween (start stop : UInt16) :
    (NackModule.seqNumsBetween start stop).Nodup := by
  refine List.Nodup.map_on ?_ List.nodup_range
  intro i first j second same
  rw [List.mem_range] at first second
  have bound := (forwardDiff start stop).toNat_lt
  have numbers := congrArg UInt16.toNat same
  rw [UInt16.toNat_add, UInt16.toNat_add, UInt16.toNat_ofNat', UInt16.toNat_ofNat'] at numbers
  omega

theorem length_seqNumsBetween (start stop : UInt16) :
    (NackModule.seqNumsBetween start stop).length = (forwardDiff start stop).toNat := by
  rw [NackModule.seqNumsBetween, List.length_map, List.length_range]

/-- A stretch that is handed out is a frame. -/
theorem Taken.isFrame {next : PacketBuffer} {packets : List Packet}
    (taken : Taken b timestamp start last (NackModule.seqNumsBetween start (last + 1)) next packets)
    (some : packets ≠ []) : IsFrame packets := by
  have length : packets.length = (forwardDiff start (last + 1)).toNat := by
    rw [← length_seqNumsBetween, ← taken.ordered, List.length_map]
  have bound := (forwardDiff start (last + 1)).toNat_lt
  have distance := toNat_forwardDiff start (last + 1)
  have startBound := start.toNat_lt
  have lastBound := last.toNat_lt
  rw [UInt16.toNat_add, show (1 : UInt16).toNat = 1 from rfl] at distance
  have flag (n : UInt16) : (NackModule.seqNumsBetween start (last + 1)).map
      (fun m => decide (m = n)) =
        (List.range packets.length).map fun i => decide (start + UInt16.ofNat i = n) := by
    rw [NackModule.seqNumsBetween, List.map_map, length]
    rfl
  refine ⟨some, ⟨start, ?_⟩, ⟨timestamp, fun p member => (taken.held p member).1⟩, ?_, ?_⟩
  · rw [taken.ordered, length]
    rfl
  · rw [taken.firstFlags, flag]
    refine List.map_congr_left fun i member => ?_
    rw [List.mem_range] at member
    rw [decide_eq_decide, ← UInt16.toNat_inj, UInt16.toNat_add, UInt16.toNat_ofNat']
    omega
  · rw [taken.lastFlags, flag]
    refine List.map_congr_left fun i member => ?_
    rw [List.mem_range] at member
    rw [decide_eq_decide, ← UInt16.toNat_inj, UInt16.toNat_add, UInt16.toNat_ofNat']
    omega

end Taking

end PacketBuffer

end MpWebRtc.VideoCoding
