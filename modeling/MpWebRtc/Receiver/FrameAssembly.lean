import MpWebRtc.Math.Run
import MpWebRtc.Receiver.FrameSearch

/-!
# Assembly of frames

What the packet buffer hands out are frames, as long as

* a call to `ClearTo` does not remove the packet before one that is marked continuous and
  stays, unless that one is the first of its frame, and
* the H.264 packets of one timestamp that are in the buffer at once are not newer than the
  one with the last flag, and not older than it by the size of the buffer, and no packet
  of another codec has their timestamp.

Otherwise the search backwards comes to slots that are empty or hold other packets.
-/

namespace MpWebRtc.VideoCoding

open Math.Serial Math.Run Math

namespace PacketBuffer

/-- The codec of the packet is H.264. -/
def Packet.IsH264 (p : Packet) : Prop := p.codec = .kVideoCodecH264

instance (p : Packet) : Decidable p.IsH264 := inferInstanceAs (Decidable (_ = _))

/-- What holds of the packets in a buffer: a number is free, the packets of a timestamp
are all H.264 or none is, those of an H.264 frame are close to its last one, continuous
packets of other codecs are complete and their frames have not ended, and every packet is
one that was inserted. -/
structure Sound (size : Nat) (stored : UInt16 → Option Packet) (inserted : List Packet) :
    Prop where
  room : ∃ n, stored n = none
  codecs : ∀ {m n p q}, stored m = some p → stored n = some q → p.timestamp = q.timestamp →
    (p.IsH264 ↔ q.IsH264)
  near : ∀ {m n p q}, stored m = some p → stored n = some q → p.timestamp = q.timestamp →
    p.IsH264 → p.isLastPacketInFrame = true → (forwardDiff n m).toNat < size
  complete : ∀ {n p}, stored n = some p → p.continuous = true → ¬ p.IsH264 →
    ∃ k, Complete size stored k n
  unfinished : ∀ {n p}, stored n = some p → p.continuous = true → ¬ p.IsH264 →
    p.isLastPacketInFrame = false
  origin : ∀ {n p}, stored n = some p → ∃ q ∈ inserted, SamePacket q p

end PacketBuffer

section Maps

open PacketBuffer

variable {size : Nat} {stored stored' : UInt16 → Option PacketBuffer.Packet}
  {inserted : List PacketBuffer.Packet} {s : UInt16} {p p' : PacketBuffer.Packet} {k : Nat}

/-- More packets do not make a packet incomplete. -/
theorem Complete.mono (complete : Complete size stored k s)
    (more : ∀ n p, stored n = some p → ∃ q, stored' n = some q ∧
      q.isFirstPacketInFrame = p.isFirstPacketInFrame ∧ q.timestamp = p.timestamp ∧
      (p.continuous = true → q.continuous = true)) : Complete size stored' k s := by
  induction complete with
  | first held flagged =>
      obtain ⟨q, there, first, -⟩ := more _ _ held
      exact .first there (first.trans flagged)
  | next held unflagged adjacent before same continuous _ ih =>
      obtain ⟨q, there, first, stamp, -⟩ := more _ _ held
      obtain ⟨r, prev, -, prevStamp, marked⟩ := more _ _ before
      exact .next there (first.trans unflagged) adjacent prev
        (prevStamp.trans (same.trans stamp.symm)) (marked continuous) ih

/-- The packet before a complete packet that is not the first. -/
theorem Complete.previous (complete : Complete size stored k s) (held : stored s = some p)
    (unflagged : p.isFirstPacketInFrame = false) :
    ∃ q, stored (s - 1) = some q ∧ q.timestamp = p.timestamp ∧ q.continuous = true := by
  cases complete with
  | first here flagged =>
      obtain rfl := Option.some.inj (here.symm.trans held)
      exact absurd (flagged.symm.trans unflagged) (by decide)
  | next here _ _ before same continuous _ =>
      obtain rfl := Option.some.inj (here.symm.trans held)
      exact ⟨_, before, same, continuous⟩

/-- Removing packets keeps those complete that stay, if a packet that is neither removed
nor the first of its frame keeps the one before it. -/
theorem Complete.erase {removed : UInt16 → Prop} (complete : Complete size stored k s)
    (kept : ∀ n, ¬ removed n → stored' n = stored n)
    (whole : ∀ n p, stored n = some p → p.continuous = true → ¬ p.IsH264 →
      p.isFirstPacketInFrame = false → ¬ removed n → ¬ removed (n - 1))
    (codecs : ∀ {m n p q}, stored m = some p → stored n = some q → p.timestamp = q.timestamp →
      (p.IsH264 ↔ q.IsH264))
    (held : stored s = some p) (continuous : p.continuous = true) (plain : ¬ p.IsH264)
    (stays : ¬ removed s) : Complete size stored' k s := by
  induction complete generalizing p with
  | first here flagged => exact .first ((kept _ stays).trans here) flagged
  | next here unflagged adjacent before same marked _ ih =>
      obtain rfl := Option.some.inj (here.symm.trans held)
      have prevStays := whole _ _ here continuous plain unflagged stays
      have prevPlain := fun h264 => plain ((codecs before here same).mp h264)
      exact .next ((kept _ stays).trans here) unflagged adjacent ((kept _ prevStays).trans before)
        same marked (ih before marked prevPlain prevStays)

/-- Removing packets keeps a buffer sound, if no frame that is being assembled is cut. -/
theorem PacketBuffer.Sound.erase (sound : Sound size stored inserted) {removed : UInt16 → Prop}
    [DecidablePred removed] (erased : ∀ n, stored' n = if removed n then none else stored n)
    (whole : ∀ n p, stored n = some p → p.continuous = true → ¬ p.IsH264 →
      p.isFirstPacketInFrame = false → ¬ removed n → ¬ removed (n - 1)) :
    Sound size stored' inserted := by
  have stays {n : UInt16} {p : PacketBuffer.Packet} (held : stored' n = some p) :
      ¬ removed n ∧ stored n = some p := by
    rw [erased] at held
    split at held
    · simp at held
    · next stays => exact ⟨stays, held⟩
  refine ⟨?_, ?_, ?_, ?_, ?_, ?_⟩
  · obtain ⟨n, free⟩ := sound.room
    refine ⟨n, ?_⟩
    rw [erased, free, ite_self]
  · exact fun first second => sound.codecs (stays first).2 (stays second).2
  · exact fun first second => sound.near (stays first).2 (stays second).2
  · intro n p held continuous plain
    obtain ⟨keeps, before⟩ := stays held
    obtain ⟨k, complete⟩ := sound.complete before continuous plain
    refine ⟨k, complete.erase (fun m left => ?_) whole sound.codecs before continuous plain keeps⟩
    rw [erased, if_neg left]
  · exact fun held => sound.unfinished (stays held).2
  · exact fun held => sound.origin (stays held).2

/-- Changing nothing about a packet but what the codec of its frame does not depend on. -/
theorem PacketBuffer.Sound.replace (sound : Sound size stored inserted) (held : stored s = some p)
    (same : SamePacket p p') (first : p'.isFirstPacketInFrame = p.isFirstPacketInFrame)
    (last : p'.isLastPacketInFrame = p.isLastPacketInFrame)
    (still : p.continuous = true → p'.continuous = true)
    (marked : p'.continuous = true → ¬ p'.IsH264 →
      (∃ k, Complete size (Function.update stored s (some p')) k s) ∧
        p'.isLastPacketInFrame = false) :
    Sound size (Function.update stored s (some p')) inserted := by
  -- what was there instead of a packet of the new map
  have old {n : UInt16} {q : PacketBuffer.Packet}
      (there : Function.update stored s (some p') n = some q) :
      ∃ r, stored n = some r ∧ SamePacket r q ∧
        q.isLastPacketInFrame = r.isLastPacketInFrame ∧ (n ≠ s → q = r) := by
    by_cases here : n = s
    · subst here
      rw [Function.update_self] at there
      obtain rfl := Option.some.inj there
      exact ⟨p, held, same, last, fun other => absurd rfl other⟩
    · rw [Function.update_of_ne here] at there
      exact ⟨q, there, ⟨rfl, rfl, rfl, rfl, rfl⟩, rfl, fun _ => rfl⟩
  have codec {q r : PacketBuffer.Packet} (copy : SamePacket r q) : q.IsH264 ↔ r.IsH264 := by
    rw [PacketBuffer.Packet.IsH264, PacketBuffer.Packet.IsH264, copy.codec]
  refine ⟨?_, ?_, ?_, ?_, ?_, ?_⟩
  · obtain ⟨n, free⟩ := sound.room
    refine ⟨n, ?_⟩
    rw [Function.update_of_ne, free]
    rintro rfl
    rw [held] at free
    simp at free
  · intro m n q r firstHeld secondHeld stamp
    obtain ⟨q', before, copy, -⟩ := old firstHeld
    obtain ⟨r', after, copy', -⟩ := old secondHeld
    rw [copy.timestamp, copy'.timestamp] at stamp
    rw [codec copy, codec copy', sound.codecs before after stamp]
  · intro m n q r firstHeld secondHeld stamp h264 ends
    obtain ⟨q', before, copy, sameLast, -⟩ := old firstHeld
    obtain ⟨r', after, copy', -⟩ := old secondHeld
    rw [copy.timestamp, copy'.timestamp] at stamp
    exact sound.near before after stamp ((codec copy).mp h264) (sameLast.symm.trans ends)
  · intro n q there continuous plain
    by_cases here : n = s
    · subst here
      rw [Function.update_self] at there
      obtain rfl := Option.some.inj there
      exact (marked continuous plain).1
    · rw [Function.update_of_ne here] at there
      obtain ⟨k, complete⟩ := sound.complete there continuous plain
      refine ⟨k, complete.mono fun m r found => ?_⟩
      by_cases replaced : m = s
      · subst replaced
        obtain rfl := Option.some.inj (held.symm.trans found)
        exact ⟨p', Function.update_self .., first, same.timestamp, still⟩
      · exact ⟨r, by rw [Function.update_of_ne replaced, found], rfl, rfl, id⟩
  · intro n q there continuous plain
    by_cases here : n = s
    · subst here
      rw [Function.update_self] at there
      obtain rfl := Option.some.inj there
      exact (marked continuous plain).2
    · rw [Function.update_of_ne here] at there
      exact sound.unfinished there continuous plain
  · intro n q there
    obtain ⟨r, before, copy, -⟩ := old there
    obtain ⟨source, member, original⟩ := sound.origin before
    exact ⟨source, member, ⟨copy.seqNum.trans original.seqNum, copy.timestamp.trans original.timestamp,
      copy.codec.trans original.codec, copy.nalus.trans original.nalus,
      copy.videoPayload.trans original.videoPayload⟩⟩

/-- A packet fits into a buffer: the packets of its timestamp are H.264 packets if it is one,
and then the one with the last flag is the newest, by less than the size of the buffer. -/
def PacketBuffer.Fits (size : Nat) (p q : PacketBuffer.Packet) : Prop :=
  q.timestamp = p.timestamp →
    (q.IsH264 ↔ p.IsH264) ∧
      (p.IsH264 →
        (p.isLastPacketInFrame = true → (forwardDiff q.seqNum p.seqNum).toNat < size) ∧
          (q.isLastPacketInFrame = true → (forwardDiff p.seqNum q.seqNum).toNat < size))

instance (size : Nat) (p q : PacketBuffer.Packet) : Decidable (Fits size p q) :=
  inferInstanceAs (Decidable (_ → _ ∧ (_ → (_ → _) ∧ (_ → _))))

/-- Inserting a packet that fits keeps a buffer sound. -/
theorem PacketBuffer.Sound.insert (sound : Sound size stored inserted) (positive : 0 < size)
    (named : ∀ {n q}, stored n = some q → q.seqNum = n) (free : stored p.seqNum = none)
    (more : ∃ n, n ≠ p.seqNum ∧ stored n = none) (unmarked : p.continuous = false)
    (fits : ∀ n q, stored n = some q → Fits size p q) (same : SamePacket p' p) :
    Sound size (Function.update stored p.seqNum (some p)) (p' :: inserted) := by
  have old {n : UInt16} {q : PacketBuffer.Packet}
      (there : Function.update stored p.seqNum (some p) n = some q) :
      n = p.seqNum ∧ q = p ∨ n ≠ p.seqNum ∧ stored n = some q := by
    by_cases here : n = p.seqNum
    · rw [here, Function.update_self] at there
      exact .inl ⟨here, (Option.some.inj there).symm⟩
    · rw [Function.update_of_ne here] at there
      exact .inr ⟨here, there⟩
  refine ⟨?_, ?_, ?_, ?_, ?_, ?_⟩
  · obtain ⟨n, other, empty⟩ := more
    exact ⟨n, by rw [Function.update_of_ne other, empty]⟩
  · intro m n q r firstHeld secondHeld stamp
    rcases old firstHeld with ⟨-, rfl⟩ | ⟨-, before⟩ <;>
      rcases old secondHeld with ⟨-, rfl⟩ | ⟨-, after⟩
    · exact Iff.rfl
    · exact (fits n r after stamp.symm).1.symm
    · exact (fits m q before stamp).1
    · exact sound.codecs before after stamp
  · intro m n q r firstHeld secondHeld stamp h264 ends
    rcases old firstHeld with ⟨rfl, rfl⟩ | ⟨-, before⟩ <;>
      rcases old secondHeld with ⟨rfl, rfl⟩ | ⟨-, after⟩
    · simpa [forwardDiff] using positive
    · have close := ((fits n r after stamp.symm).2 h264).1 ends
      rwa [named after] at close
    · obtain ⟨codec, close⟩ := fits m q before stamp
      have behind := (close (codec.mp h264)).2 ends
      rwa [named before] at behind
    · exact sound.near before after stamp h264 ends
  · intro n q there continuous plain
    rcases old there with ⟨-, rfl⟩ | ⟨-, before⟩
    · exact absurd (unmarked.symm.trans continuous) (by decide)
    · obtain ⟨k, complete⟩ := sound.complete before continuous plain
      refine ⟨k, complete.mono fun m r found => ⟨r, ?_, rfl, rfl, id⟩⟩
      rw [Function.update_of_ne, found]
      rintro rfl
      rw [free] at found
      simp at found
  · intro n q there continuous plain
    rcases old there with ⟨-, rfl⟩ | ⟨-, before⟩
    · exact absurd (unmarked.symm.trans continuous) (by decide)
    · exact sound.unfinished before continuous plain
  · intro n q there
    rcases old there with ⟨-, rfl⟩ | ⟨-, before⟩
    · exact ⟨p', List.mem_cons_self .., same⟩
    · obtain ⟨source, member, original⟩ := sound.origin before
      exact ⟨source, List.mem_cons_of_mem _ member, original⟩

theorem Complete.resize {size' : Nat} (complete : Complete size stored k s)
    (adjacent : ∀ n, Adjacent size n → Adjacent size' n) : Complete size' stored k s := by
  induction complete with
  | first held flagged => exact .first held flagged
  | next held unflagged linked before same continuous _ ih =>
      exact .next held unflagged (adjacent _ linked) before same continuous ih

theorem PacketBuffer.Sound.resize {size' : Nat} (sound : Sound size stored inserted)
    (le : size ≤ size') (adjacent : ∀ n, Adjacent size n → Adjacent size' n) :
    Sound size' stored inserted := by
  refine ⟨sound.room, sound.codecs, ?_, ?_, sound.unfinished, sound.origin⟩
  · exact fun first second stamp h264 ends =>
      Nat.lt_of_lt_of_le (sound.near first second stamp h264 ends) le
  · intro n p held continuous plain
    obtain ⟨k, complete⟩ := sound.complete held continuous plain
    exact ⟨k, complete.resize adjacent⟩

end Maps

namespace PacketBuffer

section Frames

variable {b : PacketBuffer} {inserted : List Packet} {s last : UInt16} {p : Packet} {k : Nat}
  {timestamp : UInt32}

/-- Packets that are handed out together: frames of packets that were inserted. -/
def Assembled (inserted packets : List Packet) : Prop :=
  ∃ frames : List (List Packet), packets = frames.flatten ∧
    ∀ frame ∈ frames, IsFrame frame ∧ ∀ p ∈ frame, ∃ q ∈ inserted, SamePacket q p

theorem assembled_nil (inserted : List Packet) : Assembled inserted [] := ⟨[], rfl, by simp⟩

theorem Assembled.cons {frame packets : List Packet} (isFrame : IsFrame frame)
    (known : ∀ p ∈ frame, ∃ q ∈ inserted, SamePacket q p) (rest : Assembled inserted packets) :
    Assembled inserted (frame ++ packets) := by
  obtain ⟨frames, rfl, good⟩ := rest
  exact ⟨frame :: frames, rfl, List.forall_mem_cons.mpr ⟨⟨isFrame, known⟩, good⟩⟩

/-- A stretch is shorter than the buffer, and than the numbers if one of them is free. -/
theorem Shaped.stretch_short (shaped : b.Shaped) (stretch : Stretch b.stored timestamp k s)
    {free : UInt16} (missing : b.stored free = none) : k < b.size ∧ k + 1 < 65536 := by
  have short := stretch.lt_of_missing missing
  have bound := (forwardDiff free s).toNat_lt
  refine ⟨?_, by omega⟩
  by_contra long
  rcases shaped.dvd_or_le with divides | large
  · -- the number as many before as there are slots would be in the same slot
    obtain ⟨p, held, -⟩ := stretch 0 (Nat.zero_le k)
    obtain ⟨q, before, -⟩ := stretch b.size (by omega)
    have positive := shaped.positive
    have sBound := s.toNat_lt
    obtain ⟨count, total⟩ := divides
    have slot : (s - UInt16.ofNat 0).toNat % b.size = (s - UInt16.ofNat b.size).toNat % b.size := by
      rw [UInt16.toNat_sub, UInt16.toNat_sub, UInt16.toNat_ofNat', UInt16.toNat_ofNat',
        Nat.mod_mod_of_dvd _ ⟨count, total⟩, Nat.mod_mod_of_dvd _ ⟨count, total⟩,
        Nat.mod_eq_of_lt (show b.size < 2 ^ 16 by omega)]
      have shape : 2 ^ 16 - 0 % 2 ^ 16 + s.toNat = 2 ^ 16 - b.size + s.toNat + b.size := by omega
      rw [shape, Nat.add_mod_right]
    have same := SlotTable.eq_of_same_slot held before slot
    have numbers := congrArg UInt16.toNat same
    rw [UInt16.toNat_sub, UInt16.toNat_sub, UInt16.toNat_ofNat', UInt16.toNat_ofNat'] at numbers
    omega
  · omega

/-- When `PotentialNewFrame` says yes. -/
theorem Shaped.potentialNewFrame (shaped : b.Shaped) (potential : b.potentialNewFrame s = true) :
    ∃ p, b.stored s = some p ∧
      (p.isFirstPacketInFrame = true ∨ p.isFirstPacketInFrame = false ∧ Adjacent b.size s ∧
        ∃ q, b.stored (s - 1) = some q ∧ q.timestamp = p.timestamp ∧ q.continuous = true) := by
  unfold PacketBuffer.potentialNewFrame at potential
  split at potential
  · simp at potential
  · rename_i p held
    split at potential
    · simp at potential
    · rename_i named
      rw [ne_eq, not_not] at named
      refine ⟨p, stored_eq_some_iff.mpr ⟨held, named⟩, ?_⟩
      split at potential
      · next flagged => exact .inl flagged
      · rename_i unflagged
        split at potential
        · simp at potential
        · rename_i q before
          split at potential
          · simp at potential
          · rename_i number
            split at potential
            · simp at potential
            · rename_i stamp
              rw [ne_eq, not_not] at number stamp
              have adjacent := shaped.adjacent before
              refine .inr ⟨by simpa using unflagged, adjacent, q, ?_, stamp, potential⟩
              refine stored_eq_some_iff.mpr ⟨?_, number.trans (by rw [named])⟩
              rw [← prevIndex_of_adjacent adjacent, before]

theorem Shaped.takeFrame (shaped : b.Shaped) (stretch : Stretch b.stored timestamp k last) :
    ∃ next packets, b.takeFrame (last - UInt16.ofNat k) last = some (next, packets) ∧
      Taken b timestamp (last - UInt16.ofNat k) last
        (NackModule.seqNumsBetween (last - UInt16.ofNat k) (last + 1)) next packets := by
  obtain ⟨next, packets, result, taken⟩ : ∃ next packets,
      PacketBuffer.takePackets (last - UInt16.ofNat k) last b
          (NackModule.seqNumsBetween (last - UInt16.ofNat k) (last + 1)) = some (next, packets) ∧
        Taken b timestamp (last - UInt16.ofNat k) last
          (NackModule.seqNumsBetween (last - UInt16.ofNat k) (last + 1)) next packets :=
    shaped.takePackets (nodup_seqNumsBetween ..) fun n member => stretch.held_of_mem member
  refine ⟨next.eraseMissingUpTo last, packets, by rw [PacketBuffer.takeFrame, result]; rfl, ?_⟩
  exact ⟨⟨taken.shaped.sizes, taken.shaped.inPlace⟩, taken.size, taken.stored, taken.ordered,
    taken.firstFlags, taken.lastFlags, taken.held⟩

theorem forwardDiff_stretch (last : UInt16) (short : k + 1 < 65536) :
    (forwardDiff (last - UInt16.ofNat k) (last + 1)).toNat = k + 1 := by
  have bound := last.toNat_lt
  rw [toNat_forwardDiff, UInt16.toNat_sub, UInt16.toNat_ofNat', UInt16.toNat_add,
    show (1 : UInt16).toNat = 1 from rfl]
  omega

theorem last_mem_stretch (last : UInt16) (short : k + 1 < 65536) :
    last ∈ NackModule.seqNumsBetween (last - UInt16.ofNat k) (last + 1) := by
  refine List.mem_map.mpr ⟨k, ?_, ?_⟩
  · rw [List.mem_range, forwardDiff_stretch last short]
    omega
  · exact UInt16.sub_add_cancel ..

/-- The number after one of a stretch is in the stretch as well, or the one after it. -/
theorem succ_mem_seqNumsBetween {start stop n : UInt16}
    (member : n ∈ NackModule.seqNumsBetween start stop) :
    n + 1 ∈ NackModule.seqNumsBetween start stop ∨ n + 1 = stop := by
  obtain ⟨i, inRange, rfl⟩ := List.mem_map.mp member
  rw [List.mem_range] at inRange
  rcases Nat.lt_or_eq_of_le (Nat.succ_le_of_lt inRange) with more | final
  · refine .inl (List.mem_map.mpr ⟨i + 1, List.mem_range.mpr more, ?_⟩)
    rw [UInt16.ofNat_add, ← UInt16.add_assoc]
    rfl
  · refine .inr ?_
    have startBound := start.toNat_lt
    have stopBound := stop.toNat_lt
    rw [toNat_forwardDiff] at final
    apply UInt16.toNat_inj.mp
    rw [UInt16.toNat_add, UInt16.toNat_add, UInt16.toNat_ofNat', show (1 : UInt16).toNat = 1 from rfl]
    omega

/-- A step of `FindFrames` on a buffer goes well. -/
def GoesWell (inserted : List Packet) : Option (PacketBuffer × Option (List Packet)) → Prop
  | none => False
  | some (next, frame) =>
      next.Shaped ∧ Sound next.size next.stored inserted ∧
        ∀ packets ∈ frame, IsFrame packets ∧ ∀ p ∈ packets, ∃ q ∈ inserted, SamePacket q p

theorem SamePacket.trans {first second third : Packet} (one : SamePacket first second)
    (two : SamePacket second third) : SamePacket first third :=
  ⟨two.seqNum.trans one.seqNum, two.timestamp.trans one.timestamp, two.codec.trans one.codec,
    two.nalus.trans one.nalus, two.videoPayload.trans one.videoPayload⟩

/-- Handing out a stretch goes well, if what remains is sound. -/
theorem Shaped.handOut (shaped : b.Shaped) (stretch : Stretch b.stored timestamp k last)
    (short : k + 1 < 65536) (origin : ∀ {n p}, b.stored n = some p → ∃ q ∈ inserted, SamePacket q p)
    (remains : ∀ stored', (∀ n, stored' n =
        if n ∈ NackModule.seqNumsBetween (last - UInt16.ofNat k) (last + 1) then none
        else b.stored n) → Sound b.size stored' inserted) :
    GoesWell inserted ((b.takeFrame (last - UInt16.ofNat k) last).map fun taken =>
      (taken.1, some taken.2)) := by
  obtain ⟨next, packets, result, taken⟩ := shaped.takeFrame stretch
  rw [result]
  refine ⟨taken.shaped, ?_, ?_⟩
  · rw [taken.size]
    exact remains next.stored taken.stored
  · intro frame member
    obtain rfl := Option.mem_some_iff.mp member
    refine ⟨taken.isFrame ?_, ?_⟩
    · intro empty
      have length := congrArg List.length taken.ordered
      rw [length_seqNumsBetween, forwardDiff_stretch last short, List.length_map, empty] at length
      simp at length
    · intro p inFrame
      obtain ⟨-, q, held, copy⟩ := taken.held p inFrame
      obtain ⟨source, known, original⟩ := origin held
      exact ⟨source, known, original.trans copy⟩

/-- Labelling the first packet of an H.264 frame changes nothing that matters here. -/
theorem Sound.labelFirst (shaped : b.Shaped) (sound : Sound b.size b.stored inserted)
    {search : FrameSearch} (held : b.stored search.startSeqNum = some p) (h264 : p.IsH264) :
    ∃ next, b.labelFirst search = some next ∧ next.Shaped ∧
      Sound next.size next.stored inserted ∧
        ∀ n q, b.stored n = some q → ∃ r, next.stored n = some r ∧ SamePacket q r := by
  obtain ⟨inSlot, named⟩ := stored_eq_some_iff.mp held
  obtain ⟨labelled, result, copy, first, last, mark⟩ : ∃ labelled,
      b.labelFirst search = some (b.setSlot (b.indexOf search.startSeqNum) (some labelled)) ∧
        SamePacket p labelled ∧ labelled.isFirstPacketInFrame = p.isFirstPacketInFrame ∧
        labelled.isLastPacketInFrame = p.isLastPacketInFrame ∧
        labelled.continuous = p.continuous := by
    unfold PacketBuffer.labelFirst
    rw [inSlot]
    refine ⟨_, rfl, ?_⟩
    split <;> exact ⟨⟨rfl, rfl, rfl, rfl, rfl⟩, rfl, rfl, rfl⟩
  have number (new : Packet) (here : new ∈ some labelled) : new.seqNum = search.startSeqNum := by
    obtain rfl := Option.mem_some_iff.mp here
    exact copy.seqNum.trans named
  have map := stored_setSlot (owned_of_stored held) number
  refine ⟨_, result, shaped.setSlot number, ?_, ?_⟩
  · rw [map]
    refine sound.replace held copy first last (fun marked => mark.trans marked) ?_
    intro _ plain
    exact absurd (copy.codec.trans h264) plain
  · intro n q found
    rw [map]
    by_cases here : n = search.startSeqNum
    · subst here
      obtain rfl := Option.some.inj (held.symm.trans found)
      exact ⟨labelled, Function.update_self .., copy⟩
    · exact ⟨q, by rw [Function.update_of_ne here, found], ⟨rfl, rfl, rfl, rfl, rfl⟩⟩

/-- No frame of another codec is cut by handing out an H.264 frame. -/
theorem Sound.handOut_h264 (shaped : b.Shaped) (sound : Sound b.size b.stored inserted)
    (stretch : Stretch b.stored timestamp k last) (held : b.stored last = some p)
    (same : p.timestamp = timestamp) (h264 : p.IsH264) :
    GoesWell inserted ((b.takeFrame (last - UInt16.ofNat k) last).map fun taken =>
      (taken.1, some taken.2)) := by
  obtain ⟨free, missing⟩ := sound.room
  refine shaped.handOut stretch (shaped.stretch_short stretch missing).2 sound.origin ?_
  intro stored' erased
  refine sound.erase erased ?_
  intro n q found continuous plain unflagged _ removed
  obtain ⟨k, complete⟩ := sound.complete found continuous plain
  obtain ⟨r, before, stamp, -⟩ := complete.previous found unflagged
  obtain ⟨r', before', stamp'⟩ := stretch.held_of_mem removed
  obtain rfl := Option.some.inj (before.symm.trans before')
  have prevH264 := (sound.codecs held before (same.trans stamp'.symm)).mp h264
  exact plain ((sound.codecs before found stamp).mp prevH264)

/-- The frame that ends with an H.264 packet goes well. -/
theorem Sound.closeFrame_h264 (shaped : b.Shaped) (sound : Sound b.size b.stored inserted)
    (held : b.stored s = some p) (h264 : p.IsH264) (ends : p.isLastPacketInFrame = true) :
    GoesWell inserted (b.closeFrame s p) := by
  have near (q : Packet) (found : b.stored q.seqNum = some q) (same : q.timestamp = p.timestamp) :
      (forwardDiff q.seqNum s).toNat < b.size :=
    sound.near held found same.symm h264 ends
  have stretch : Stretch b.stored p.timestamp 0 s := by
    intro i bound
    obtain rfl : i = 0 := by omega
    exact ⟨p, by simpa using held, rfl⟩
  obtain ⟨remaining, total⟩ : ∃ remaining, remaining + 1 = b.size :=
    ⟨b.size - 1, Nat.sub_add_cancel shaped.positive⟩
  have codec : decide (p.codec = .kVideoCodecH264) = true := decide_eq_true h264
  unfold PacketBuffer.closeFrame
  dsimp only
  rw [codec, ← total]
  rcases shaped.searchFrameStart_h264 near remaining 0 (by omega)
      { startSeqNum := s, startIndex := b.indexOf s } (by simp) (by simp) stretch with
    gaveUp | ⟨found, j, result, start, longer⟩
  · rw [gaveUp]
    exact ⟨shaped, sound, by simp⟩
  · obtain ⟨first, firstHeld, firstStamp⟩ := longer j (Nat.le_refl j)
    rw [← start] at firstHeld
    have firstH264 := (sound.codecs held firstHeld firstStamp.symm).mp h264
    obtain ⟨next, label, nextShaped, nextSound, copies⟩ :=
      Sound.labelFirst shaped sound firstHeld firstH264
    rw [result]
    dsimp only
    unfold finishFrame
    dsimp only
    rw [if_pos rfl, label]
    dsimp only
    split
    · exact ⟨nextShaped, nextSound, by simp⟩
    · obtain ⟨p', held', copy⟩ := copies s p held
      rw [start]
      refine Sound.handOut_h264 nextShaped nextSound ?_ held' copy.timestamp ?_
      · intro i bound
        obtain ⟨q, there, stamp⟩ := longer i bound
        obtain ⟨r, now, same⟩ := copies _ q there
        exact ⟨r, now, same.timestamp.trans stamp⟩
      · exact copy.codec.trans h264

/-- The packet of a potential new frame is complete once it is marked. -/
theorem Sound.complete_marked (sound : Sound b.size b.stored inserted)
    (held : b.stored s = some p) (plain : ¬ p.IsH264)
    (start : p.isFirstPacketInFrame = true ∨ p.isFirstPacketInFrame = false ∧ Adjacent b.size s ∧
      ∃ q, b.stored (s - 1) = some q ∧ q.timestamp = p.timestamp ∧ q.continuous = true) :
    ∃ k, Complete b.size (Function.update b.stored s (some { p with continuous := true })) k s := by
  have here : Function.update b.stored s (some { p with continuous := true }) s =
      some { p with continuous := true } := Function.update_self ..
  rcases start with flagged | ⟨unflagged, adjacent, q, before, same, continuous⟩
  · exact ⟨0, .first here flagged⟩
  · have prevPlain := fun h264 => plain ((sound.codecs before held same).mp h264)
    obtain ⟨k, complete⟩ := sound.complete before continuous prevPlain
    have other : s - 1 ≠ s := by
      intro equal
      have numbers := congrArg UInt16.toNat equal
      have bound := s.toNat_lt
      rw [toNat_pred] at numbers
      omega
    have prev : Function.update b.stored s (some { p with continuous := true }) (s - 1) = some q := by
      rw [Function.update_of_ne other, before]
    refine ⟨k + 1, .next here unflagged adjacent prev same continuous (complete.mono ?_)⟩
    intro n r found
    by_cases changed : n = s
    · subst changed
      obtain rfl := Option.some.inj (held.symm.trans found)
      exact ⟨_, here, rfl, rfl, fun _ => rfl⟩
    · exact ⟨r, by rw [Function.update_of_ne changed, found], rfl, rfl, id⟩

/-- The frame that ends with a packet of another codec goes well. Its last packet was not
marked before, so nothing was continuous because of it. -/
theorem Sound.closeFrame_plain (sound : Sound b.size b.stored inserted)
    (held : b.stored s = some p) (plain : ¬ p.IsH264) (ends : p.isLastPacketInFrame = true)
    {marked : PacketBuffer} (markedShaped : marked.Shaped) (size : marked.size = b.size)
    (map : marked.stored = Function.update b.stored s (some { p with continuous := true }))
    (complete : ∃ k, Complete b.size marked.stored k s) :
    GoesWell inserted (marked.closeFrame s { p with continuous := true }) := by
  obtain ⟨k, complete⟩ := complete
  have here : marked.stored s = some { p with continuous := true } := by
    rw [map, Function.update_self]
  have stretch := complete.stretch here
  obtain ⟨free, missing⟩ := sound.room
  have stillMissing : marked.stored free = none := by
    rw [map, Function.update_of_ne, missing]
    rintro rfl
    rw [held] at missing
    simp at missing
  obtain ⟨inside, short⟩ := markedShaped.stretch_short stretch stillMissing
  obtain ⟨remaining, total⟩ : ∃ remaining, remaining + 1 = marked.size :=
    ⟨marked.size - 1, Nat.sub_add_cancel markedShaped.positive⟩
  have codec : decide (p.codec = .kVideoCodecH264) = false := decide_eq_false plain
  rw [← size] at complete
  obtain ⟨found, result, start⟩ : ∃ found,
      marked.searchFrameStart false p.timestamp (remaining + 1)
          { startSeqNum := s, startIndex := marked.indexOf s } = some (some found) ∧
        found.startSeqNum = s - UInt16.ofNat k :=
    searchFrameStart_of_complete complete _ rfl rfl remaining (by omega)
  unfold PacketBuffer.closeFrame
  dsimp only
  rw [codec, ← total, result]
  dsimp only
  unfold finishFrame
  dsimp only
  rw [if_neg Bool.false_ne_true, start]
  refine markedShaped.handOut stretch short ?_ ?_
  · intro n q found
    rw [map] at found
    by_cases same : n = s
    · subst same
      rw [Function.update_self] at found
      obtain rfl := Option.some.inj found
      obtain ⟨source, member, original⟩ := sound.origin held
      exact ⟨source, member, original.trans ⟨rfl, rfl, rfl, rfl, rfl⟩⟩
    · rw [Function.update_of_ne same] at found
      exact sound.origin found
  · intro stored' erased
    have unmarked (n : UInt16) : stored' n =
        if n ∈ NackModule.seqNumsBetween (s - UInt16.ofNat k) (s + 1) then none
        else b.stored n := by
      rw [erased, map]
      by_cases same : n = s
      · subst same
        rw [if_pos (last_mem_stretch n short), if_pos (last_mem_stretch n short)]
      · rw [Function.update_of_ne same]
    rw [size]
    refine sound.erase unmarked ?_
    intro n q found continuous qPlain unflagged stays removed
    rcases succ_mem_seqNumsBetween removed with member | after
    · rw [UInt16.sub_add_cancel] at member
      exact stays member
    · have number : n - 1 = s := by
        rw [UInt16.sub_add_cancel] at after
        rw [after, UInt16.add_sub_cancel]
      obtain ⟨j, before⟩ := sound.complete found continuous qPlain
      obtain ⟨r, prev, -, mark⟩ := before.previous found unflagged
      rw [number, held] at prev
      obtain rfl := Option.some.inj prev
      exact absurd ((sound.unfinished held mark plain).symm.trans ends) (by decide)

/-- One round of `FindFrames` on a sound buffer. -/
theorem Sound.round (shaped : b.Shaped) (sound : Sound b.size b.stored inserted)
    (held : b.stored s = some p)
    (start : p.isFirstPacketInFrame = true ∨ p.isFirstPacketInFrame = false ∧ Adjacent b.size s ∧
      ∃ q, b.stored (s - 1) = some q ∧ q.timestamp = p.timestamp ∧ q.continuous = true) :
    let marked := b.setSlot (b.indexOf s) (some { p with continuous := true })
    if p.isLastPacketInFrame then
      GoesWell inserted (marked.closeFrame s { p with continuous := true })
    else marked.Shaped ∧ Sound marked.size marked.stored inserted := by
  dsimp only
  obtain ⟨-, named⟩ := stored_eq_some_iff.mp held
  have number (new : Packet) (here : new ∈ some { p with continuous := true }) :
      new.seqNum = s := by
    obtain rfl := Option.mem_some_iff.mp here
    exact named
  have map := stored_setSlot (owned_of_stored held) number
  have markedShaped := shaped.setSlot number
  have same : SamePacket p { p with continuous := true } := ⟨rfl, rfl, rfl, rfl, rfl⟩
  by_cases h264 : p.IsH264
  · have markedSound : Sound b.size
        (b.setSlot (b.indexOf s) (some { p with continuous := true })).stored inserted := by
      rw [map]
      exact sound.replace held same rfl rfl (fun _ => rfl) fun _ plain => absurd h264 plain
    split
    · rename_i ends
      refine Sound.closeFrame_h264 markedShaped markedSound ?_ h264 ends
      rw [map, Function.update_self]
    · exact ⟨markedShaped, markedSound⟩
  · have complete := sound.complete_marked held h264 start
    split
    · rename_i ends
      refine sound.closeFrame_plain held h264 ends markedShaped rfl map ?_
      rw [map]
      exact complete
    · rename_i goesOn
      refine ⟨markedShaped, ?_⟩
      rw [map]
      exact sound.replace held same rfl rfl (fun _ => rfl) fun _ _ =>
        ⟨complete, by simpa using goesOn⟩

/-- `FindFrames` on a sound buffer dereferences no empty slot, hands out frames, and leaves
the buffer sound. -/
theorem Sound.findFramesLoop (rounds : Nat) (shaped : b.Shaped)
    (sound : Sound b.size b.stored inserted) (s : UInt16) :
    ∃ next packets, findFramesLoop rounds b s = some (next, packets) ∧ next.Shaped ∧
      Sound next.size next.stored inserted ∧ Assembled inserted packets := by
  induction rounds generalizing b s with
  | zero => exact ⟨b, [], rfl, shaped, sound, assembled_nil inserted⟩
  | succ rounds ih =>
      unfold PacketBuffer.findFramesLoop
      split
      · rename_i potential
        obtain ⟨p, held, start⟩ := shaped.potentialNewFrame potential
        obtain ⟨inSlot, -⟩ := stored_eq_some_iff.mp held
        have step := Sound.round shaped sound held start
        rw [inSlot]
        dsimp only at step ⊢
        split at step
        · rename_i ends
          rw [if_pos ends]
          cases outcome : (b.setSlot (b.indexOf s)
              (some { p with continuous := true })).closeFrame s
              { p with continuous := true } with
          | none =>
              rw [outcome] at step
              exact step.elim
          | some result =>
              obtain ⟨next, frame⟩ := result
              rw [outcome] at step
              obtain ⟨nextShaped, nextSound, good⟩ := step
              cases frame with
              | none => exact ⟨next, [], rfl, nextShaped, nextSound, assembled_nil inserted⟩
              | some frame =>
                  obtain ⟨isFrame, known⟩ := good frame rfl
                  obtain ⟨final, packets, found, finalShaped, finalSound, rest⟩ :=
                    ih nextShaped nextSound (s + 1)
                  refine ⟨final, frame ++ packets, ?_, finalShaped, finalSound,
                    rest.cons isFrame known⟩
                  dsimp only
                  rw [found]
                  rfl
        · rename_i goesOn
          rw [if_neg goesOn]
          exact ih step.1 step.2 (s + 1)
      · exact ⟨b, [], rfl, shaped, sound, assembled_nil inserted⟩

end Frames

section Calls

variable {b : PacketBuffer} {inserted : List Packet} {s : UInt16} {p : Packet}

/-- There is room for a packet, and it fits to the packets in the buffer. One number stays
free. -/
structure Takes (b : PacketBuffer) (p : Packet) : Prop where
  fits : ∀ slot < b.size, ∀ q ∈ b.buffer slot, Fits b.size p q
  room : ∃ n, n ≠ p.seqNum ∧ b.stored n = none

/-- `ClearTo` leaves no packet that has been marked continuous without the one before it. -/
def Spares (b : PacketBuffer) (seqNum : UInt16) : Prop :=
  ∀ slot < b.size, ∀ p ∈ b.buffer slot, p.continuous = true → ¬ p.IsH264 →
    p.isFirstPacketInFrame = false → ¬ b.Clears seqNum p.seqNum → ¬ b.Clears seqNum (p.seqNum - 1)

/-- What an admission leaves of the packets. -/
def Admission.Keeps (b : PacketBuffer) (s : UInt16) : Admission → Prop
  | .ignored => True
  | .full other => b.Expanded other
  | .room other => b.Expanded other ∧ other.buffer (other.indexOf s) = none

theorem Shaped.findRoom (shaped : b.Shaped) (s : UInt16) : (b.findRoom s).Keeps b s := by
  unfold PacketBuffer.findRoom
  split
  · next empty => exact ⟨.refl shaped, empty⟩
  · rename_i entry taken
    split
    · trivial
    · rename_i other
      have missing : b.stored s = none := by
        rw [Option.eq_none_iff_forall_ne_some]
        intro p held
        obtain ⟨inSlot, named⟩ := stored_eq_some_iff.mp held
        rw [taken, Option.some.injEq] at inSlot
        exact other (inSlot ▸ named)
      have expanded := shaped.expandFor missing taken b.maxSize
      dsimp only
      split
      · exact expanded
      · rename_i free
        refine ⟨expanded, ?_⟩
        simpa using free

/-- The first number has no part in where packets are. -/
theorem Admission.Keeps.of_slots {other : PacketBuffer} {admission : Admission}
    (keeps : admission.Keeps other s) (size : other.size = b.size)
    (buffer : other.buffer = b.buffer) : admission.Keeps b s := by
  have stored : other.stored = b.stored := by
    unfold PacketBuffer.stored
    rw [size, buffer]
  have expanded {final : PacketBuffer} (more : other.Expanded final) : b.Expanded final :=
    ⟨more.shaped, more.stored.trans stored, size ▸ more.le, size ▸ more.adjacent⟩
  cases admission with
  | ignored => trivial
  | full final => exact expanded keeps
  | room final => exact ⟨expanded keeps.1, keeps.2⟩

theorem Shaped.makeRoom (shaped : b.Shaped) (s : UInt16) :
    (b.makeRoom s).1.size = b.size ∧ (b.makeRoom s).1.maxSize = b.maxSize ∧
      (b.makeRoom s).1.buffer = b.buffer ∧ (b.makeRoom s).2.Keeps b s := by
  have moved (first : UInt16) (received : Bool) :
      (PacketBuffer.findRoom { b with
        firstSeqNum := first
        firstPacketReceived := received } s).Keeps b s := by
    have movedShaped : PacketBuffer.Shaped { b with
        firstSeqNum := first
        firstPacketReceived := received } := ⟨shaped.sizes, shaped.inPlace⟩
    exact (movedShaped.findRoom s).of_slots rfl rfl
  unfold PacketBuffer.makeRoom
  split
  · exact ⟨rfl, rfl, rfl, moved s true⟩
  · split
    · split
      · exact ⟨rfl, rfl, rfl, trivial⟩
      · exact ⟨rfl, rfl, rfl, moved s b.firstPacketReceived⟩
    · exact ⟨rfl, rfl, rfl, shaped.findRoom s⟩

theorem stored_clearInternal (b : PacketBuffer) (n : UInt16) : b.clearInternal.stored n = none :=
  SlotTable.lookup_eq_none_of_empty rfl

theorem Shaped.clearInternal (shaped : b.Shaped) : b.clearInternal.Shaped :=
  ⟨shaped.sizes, fun _ _ held => by simp [PacketBuffer.clearInternal] at held⟩

theorem sound_of_empty {size : Nat} {stored : UInt16 → Option Packet}
    (empty : ∀ n, stored n = none) (inserted : List Packet) : Sound size stored inserted := by
  constructor
  · exact ⟨0, empty 0⟩
  all_goals simp [empty]

theorem Sound.known_more {size : Nat} {stored : UInt16 → Option Packet}
    (sound : Sound size stored inserted) (p : Packet) : Sound size stored (p :: inserted) := by
  refine ⟨sound.room, sound.codecs, sound.near, sound.complete, sound.unfinished, ?_⟩
  intro n q held
  obtain ⟨source, member, original⟩ := sound.origin held
  exact ⟨source, List.mem_cons_of_mem _ member, original⟩

/-- Two buffers with the same slots. -/
structure SameSlots (b other : PacketBuffer) : Prop where
  size : other.size = b.size
  maxSize : other.maxSize = b.maxSize
  buffer : other.buffer = b.buffer

theorem SameSlots.stored {other : PacketBuffer} (same : SameSlots b other) :
    other.stored = b.stored := by
  unfold PacketBuffer.stored
  rw [same.size, same.buffer]

theorem SameSlots.shaped {other : PacketBuffer} (same : SameSlots b other) (shaped : b.Shaped) :
    other.Shaped :=
  ⟨by rw [same.size, same.maxSize]; exact shaped.sizes,
    by rw [same.size, same.buffer]; exact shaped.inPlace⟩

theorem SameSlots.sound {other : PacketBuffer} (same : SameSlots b other)
    (sound : Sound b.size b.stored inserted) : Sound other.size other.stored inserted := by
  rw [same.size, same.stored]
  exact sound

theorem sameSlots_updateMissingPackets (b : PacketBuffer) (seqNum : UInt16) :
    SameSlots b (b.updateMissingPackets seqNum) := by
  unfold updateMissingPackets
  dsimp only
  split <;> exact ⟨rfl, rfl, rfl⟩

theorem sameSlots_storePacket (b : PacketBuffer) (now : Int) (p : Packet) :
    SameSlots (b.storePacket p) ((b.notePacket now p).storePacket p) := by
  unfold notePacket
  split <;> exact ⟨rfl, rfl, rfl⟩

/-- Storing a packet that fits keeps a buffer sound. -/
theorem Sound.storePacket (shaped : b.Shaped) (sound : Sound b.size b.stored inserted)
    (free : b.buffer (b.indexOf p.seqNum) = none) (takes : b.Takes p) :
    (b.storePacket p).Shaped ∧
      Sound (b.storePacket p).size (b.storePacket p).stored (p :: inserted) := by
  have number (new : Packet) (here : new ∈ some { p with continuous := false }) :
      new.seqNum = p.seqNum := by
    obtain rfl := Option.mem_some_iff.mp here
    rfl
  have map : (b.storePacket p).stored =
      Function.update b.stored p.seqNum (some { p with continuous := false }) :=
    stored_setSlot (SlotTable.owned_of_empty free) number
  refine ⟨shaped.setSlot number, ?_⟩
  rw [map]
  refine Sound.insert (p := { p with continuous := false }) sound shaped.positive ?_ ?_
    takes.room rfl ?_ ⟨rfl, rfl, rfl, rfl, rfl⟩
  · exact fun held => (stored_eq_some_iff.mp held).2
  · exact SlotTable.lookup_eq_none_of_empty free
  · intro n q held
    obtain ⟨inSlot, -⟩ := stored_eq_some_iff.mp held
    exact takes.fits _ (Nat.mod_lt _ shaped.positive) q inSlot

theorem Sound.insertPacket (shaped : b.Shaped) (sound : Sound b.size b.stored inserted)
    (now : Int) (legal : ∀ other, (b.makeRoom p.seqNum).2 = .room other → other.Takes p) :
    ∃ next result, b.insertPacket now p = some (next, result) ∧ next.Shaped ∧
      Sound next.size next.stored (p :: inserted) ∧ Assembled (p :: inserted) result.packets := by
  obtain ⟨size, maxSize, buffer, keeps⟩ := shaped.makeRoom p.seqNum
  unfold PacketBuffer.insertPacket
  cases outcome : b.makeRoom p.seqNum with
  | mk first admission =>
      rw [outcome] at size maxSize buffer keeps legal
      have same : SameSlots b first := ⟨size, maxSize, buffer⟩
      cases admission with
      | ignored =>
          exact ⟨first, {}, rfl, same.shaped shaped, same.sound (sound.known_more p),
            assembled_nil _⟩
      | full other =>
          refine ⟨other.clearInternal, _, rfl, keeps.shaped.clearInternal, ?_, assembled_nil _⟩
          exact sound_of_empty (stored_clearInternal other) _
      | room other =>
          obtain ⟨expanded, free⟩ := keeps
          have grown := sound.resize expanded.le expanded.adjacent
          rw [← expanded.stored] at grown
          obtain ⟨storedShaped, storedSound⟩ :=
            Sound.storePacket expanded.shaped grown free (legal other rfl)
          have noted := sameSlots_storePacket other now p
          have missing := sameSlots_updateMissingPackets
            ((other.notePacket now p).storePacket p) p.seqNum
          obtain ⟨next, packets, found, nextShaped, nextSound, assembled⟩ :=
            Sound.findFramesLoop (((other.notePacket now p).storePacket p).updateMissingPackets
              p.seqNum).size (missing.shaped (noted.shaped storedShaped))
              (missing.sound (noted.sound storedSound)) p.seqNum
          refine ⟨next, { packets := packets }, ?_, nextShaped, nextSound, assembled⟩
          dsimp only
          rw [findFrames, found]
          rfl

theorem Sound.insertPadding (shaped : b.Shaped) (sound : Sound b.size b.stored inserted)
    (seqNum : UInt16) :
    ∃ next result, b.insertPadding seqNum = some (next, result) ∧ next.Shaped ∧
      Sound next.size next.stored inserted ∧ Assembled inserted result.packets := by
  have missing := sameSlots_updateMissingPackets b seqNum
  obtain ⟨next, packets, found, nextShaped, nextSound, assembled⟩ :=
    Sound.findFramesLoop (b.updateMissingPackets seqNum).size (missing.shaped shaped)
      (missing.sound sound) (seqNum + 1)
  refine ⟨next, { packets := packets }, ?_, nextShaped, nextSound, assembled⟩
  rw [PacketBuffer.insertPadding, findFrames, found]
  rfl

theorem Sound.clearTo (shaped : b.Shaped) (sound : Sound b.size b.stored inserted)
    {seqNum : UInt16} (spares : b.Spares seqNum) :
    (b.clearTo seqNum).Shaped ∧
      Sound (b.clearTo seqNum).size (b.clearTo seqNum).stored inserted := by
  obtain ⟨cleared, size, map⟩ := shaped.clearTo seqNum
  refine ⟨cleared, ?_⟩
  rw [size]
  refine sound.erase map ?_
  intro n p held continuous plain unflagged stays
  obtain ⟨inSlot, rfl⟩ := stored_eq_some_iff.mp held
  exact spares _ (Nat.mod_lt _ shaped.positive) p inSlot continuous plain unflagged stays

end Calls

end PacketBuffer

section Run

open PacketBuffer

/-- What happens to a packet buffer. -/
inductive BufferEvent
  | insertPacket (now : Int) (packet : PacketBuffer.Packet)
  | insertPadding (seqNum : UInt16)
  | clearTo (seqNum : UInt16)
  | clear

/-- A packet buffer, none once an empty slot has been dereferenced, and the packets that
were inserted. -/
structure BufferRun where
  buffer : Option PacketBuffer
  inserted : List PacketBuffer.Packet := []

/-- A run after a call with a result. -/
def BufferRun.after (inserted : List PacketBuffer.Packet) :
    Option (PacketBuffer × InsertResult) → BufferRun × List (List PacketBuffer.Packet)
  | none => ({ buffer := none, inserted := inserted }, [])
  | some (next, result) => ({ buffer := some next, inserted := inserted }, [result.packets])

variable (run : BufferRun)

/-- One call. Its output are the packets it returns. -/
def bufferStep (event : BufferEvent) : BufferRun × List (List PacketBuffer.Packet) :=
  match run.buffer with
  | none => (run, [])
  | some b =>
      match event with
      | .insertPacket now packet =>
          BufferRun.after (packet :: run.inserted) (b.insertPacket now packet)
      | .insertPadding seqNum => BufferRun.after run.inserted (b.insertPadding seqNum)
      | .clearTo seqNum => ({ run with buffer := some (b.clearTo seqNum) }, [])
      | .clear => ({ run with buffer := some b.clearInternal }, [])

/-- A new buffer with `2 ^ k` slots, which can be expanded to `2 ^ m`. -/
def BufferRun.start (k m : Nat) (spsPpsIdrIsH264Keyframe : Bool) (seqNums : SeqNumSet := {}) :
    BufferRun :=
  { buffer := some {
      size := 2 ^ k
      maxSize := 2 ^ m
      spsPpsIdrIsH264Keyframe := spsPpsIdrIsH264Keyframe
      seqNums := seqNums } }

/-- A packet that is stored fits to those in the buffer, and `ClearTo` cuts no frame. -/
def BufferRun.Tame (event : BufferEvent) : Prop :=
  ∀ b ∈ run.buffer,
    match event with
    | .insertPacket _ packet =>
        ∀ other, (b.makeRoom packet.seqNum).2 = .room other → other.Takes packet
    | .insertPadding _ => True
    | .clearTo seqNum => b.Spares seqNum
    | .clear => True

/-- A call dereferences no empty slot and returns frames of inserted packets. -/
def BufferRun.Assembles (event : BufferEvent) : Prop :=
  (bufferStep run event).1.buffer.isSome ∧
    ∀ packets ∈ (bufferStep run event).2, Assembled (bufferStep run event).1.inserted packets

/-- The buffer of a run is there and sound. -/
def BufferRun.Good : Prop :=
  ∃ b, run.buffer = some b ∧ b.Shaped ∧ Sound b.size b.stored run.inserted

theorem BufferRun.Good.step {run : BufferRun} (good : run.Good) {event : BufferEvent}
    (tame : run.Tame event) : (bufferStep run event).1.Good ∧ run.Assembles event := by
  obtain ⟨b, present, shaped, sound⟩ := good
  have legal := tame b present
  unfold BufferRun.Assembles bufferStep
  rw [present]
  cases event with
  | insertPacket now packet =>
      obtain ⟨next, result, inserted, nextShaped, nextSound, assembled⟩ :=
        Sound.insertPacket shaped sound now legal
      dsimp only
      rw [inserted]
      refine ⟨⟨next, rfl, nextShaped, nextSound⟩, rfl, ?_⟩
      intro packets member
      obtain rfl := List.mem_singleton.mp member
      exact assembled
  | insertPadding seqNum =>
      obtain ⟨next, result, inserted, nextShaped, nextSound, assembled⟩ :=
        Sound.insertPadding shaped sound seqNum
      dsimp only
      rw [inserted]
      refine ⟨⟨next, rfl, nextShaped, nextSound⟩, rfl, ?_⟩
      intro packets member
      obtain rfl := List.mem_singleton.mp member
      exact assembled
  | clearTo seqNum =>
      obtain ⟨clearedShaped, clearedSound⟩ := Sound.clearTo shaped sound legal
      exact ⟨⟨b.clearTo seqNum, rfl, clearedShaped, clearedSound⟩, rfl, by simp⟩
  | clear =>
      refine ⟨⟨b.clearInternal, rfl, shaped.clearInternal, ?_⟩, rfl, by simp⟩
      exact sound_of_empty (stored_clearInternal b) _

theorem BufferRun.good_start {k m : Nat} (le : k ≤ m) (spsPpsIdrIsH264Keyframe : Bool)
    (seqNums : SeqNumSet) : (BufferRun.start k m spsPpsIdrIsH264Keyframe seqNums).Good := by
  refine ⟨_, rfl, ⟨⟨k, m, rfl, rfl, le⟩, by simp [SlotTable.InPlace]⟩, ?_⟩
  exact sound_of_empty (fun n => SlotTable.lookup_eq_none_of_empty rfl) _

/-- In every run of a packet buffer in which the packets that are stored fit and no frame is
cut by `ClearTo`, no empty slot is dereferenced and what is returned are frames. -/
theorem packet_buffer_assembly {k m : Nat} (le : k ≤ m) (spsPpsIdrIsH264Keyframe : Bool)
    (seqNums : SeqNumSet) (events : List BufferEvent)
    (tame : Along bufferStep BufferRun.Tame (.start k m spsPpsIdrIsH264Keyframe seqNums) events) :
    Along bufferStep BufferRun.Assembles (.start k m spsPpsIdrIsH264Keyframe seqNums) events :=
  tame.of_invariant BufferRun.Good (fun _ _ good legal => (good.step legal).1)
    (fun _ _ good legal => (good.step legal).2)
    (BufferRun.good_start le spsPpsIdrIsH264Keyframe seqNums)

/-- The arrival of a packet of a frame. -/
def packetEvent (codec : VideoCodecType) (seqNum : UInt16) (first last : Bool) : BufferEvent :=
  .insertPacket 0 {
    seqNum := seqNum
    timestamp := 7
    codec := codec
    isFirstPacketInFrame := first
    isLastPacketInFrame := last
    nalus := some [kIdr] }

/-- A frame of two packets that arrive in the wrong order is assembled. -/
theorem packet_buffer_assembly_reordered :
    Along bufferStep BufferRun.Assembles (.start 9 11 false)
        [packetEvent .kVideoCodecVP8 0 false true, packetEvent .kVideoCodecVP8 65535 true false] ∧
      (outputs bufferStep (.start 9 11 false)
        [packetEvent .kVideoCodecVP8 0 false true,
          packetEvent .kVideoCodecVP8 65535 true false]).map (·.map (·.seqNum)) =
        [[], [65535, 0]] := by
  refine ⟨packet_buffer_assembly (by decide) false {} _ ⟨?_, ?_, trivial⟩, by decide +kernel⟩
  · intro b present other admitted
    obtain rfl := Option.mem_some_iff.mp present
    injection admitted with same
    subst same
    exact ⟨by decide +kernel, 9, by decide, by decide +kernel⟩
  · intro b present other admitted
    injection present with same
    subst same
    injection admitted with room
    subst room
    exact ⟨by decide +kernel, 9, by decide, by decide +kernel⟩

/-- Two packets without consecutive numbers are no frame, and the first of them is none
without the last flag. -/
theorem not_assembled_of_gap {inserted packets : List PacketBuffer.Packet} (first second : UInt16)
    (numbers : packets.map (·.seqNum) = [first, second]) (gap : first + 1 ≠ second)
    (flags : packets.map (·.isLastPacketInFrame) = [false, true]) :
    ¬ Assembled inserted packets := by
  rintro ⟨frames, rfl, good⟩
  cases frames with
  | nil => simp at numbers
  | cons frame frames =>
      obtain ⟨isFrame, -⟩ := good frame (List.mem_cons_self ..)
      have order := isFrame.numbers
      have last := isFrame.last
      rw [List.flatten_cons, List.map_append] at numbers flags
      match frame, isFrame.nonempty with
      | [p], _ =>
          have ends : p.isLastPacketInFrame = true := by simpa using last
          simp [ends] at flags
      | [p, q], _ =>
          obtain ⟨start, places⟩ := order
          simp only [List.map_cons, List.map_nil, List.cons_append, List.nil_append,
            List.cons.injEq] at numbers
          simp [List.range_succ] at places
          exact gap (by rw [← numbers.1, ← numbers.2.1, places.1, places.2])
      | p :: q :: r :: rest, _ => simp at numbers

/-- `ClearTo` cuts a frame, and the search for its first packet dereferences an empty slot.
An H.264 frame is returned with a packet from another place in the ring. -/
theorem packet_buffer_misassembly :
    ¬ Along bufferStep BufferRun.Assembles (.start 9 11 false)
        [packetEvent .kVideoCodecVP8 0 true false, packetEvent .kVideoCodecVP8 1 false false,
          .clearTo 0, packetEvent .kVideoCodecVP8 2 false true] ∧
      ¬ Along bufferStep BufferRun.Assembles (.start 9 11 false)
        [packetEvent .kVideoCodecH264 516 true false,
          packetEvent .kVideoCodecH264 5 true true] := by
  constructor
  · rintro ⟨-, -, -, ⟨present, -⟩, -⟩
    exact absurd present (by decide +kernel)
  · rintro ⟨-, ⟨-, assembled⟩, -⟩
    refine not_assembled_of_gap 516 5 ?_ (by decide) ?_
      (assembled _ (List.mem_singleton_self _))
    · decide +kernel
    · decide +kernel

end Run

end MpWebRtc.VideoCoding
