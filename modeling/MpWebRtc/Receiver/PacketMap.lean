import Mathlib.Data.Nat.ModEq
import MpWebRtc.Receiver.PacketBuffer

/-!
# The packet buffer as a map

The slots of a packet buffer stand for a map from sequence numbers to packets. The
operations of the buffer are operations on this map: storing a packet adds it, handing out
a frame and clearing remove packets, and expanding the buffer changes nothing.

The number of slots is a power of two. If it is at most the number of sequence numbers,
neighbouring numbers have neighbouring slots, also across the wrap-around.
-/

namespace MpWebRtc.VideoCoding

open Math.Serial Math

section Slots

variable {size : Nat}

theorem toNat_pred (s : UInt16) : (s - 1).toNat = (s.toNat + 65535) % 65536 := by
  rw [UInt16.toNat_sub, show (1 : UInt16).toNat = 1 from rfl]
  omega

/-- The slot before that of `s` is the slot of the number before. -/
def Adjacent (size : Nat) (s : UInt16) : Prop :=
  (if s.toNat % size > 0 then s.toNat % size - 1 else size - 1) = (s - 1).toNat % size

theorem adjacent_of_dvd (divides : size ∣ 65536) (s : UInt16) : Adjacent size s := by
  obtain ⟨count, total⟩ := divides
  have positive : 0 < size := Nat.pos_of_ne_zero (by rintro rfl; omega)
  have some : 0 < count := Nat.pos_of_ne_zero (by rintro rfl; omega)
  have parts := Nat.mod_add_div s.toNat size
  have below := Nat.mod_lt s.toNat positive
  unfold Adjacent
  rw [toNat_pred, Nat.mod_mod_of_dvd _ ⟨count, total⟩]
  generalize s.toNat % size = rest at parts below ⊢
  generalize s.toNat / size = rounds at parts
  rw [← parts]
  split
  · rename_i inside
    have shape : rest + size * rounds + 65535 = (rest - 1) + size * (rounds + count) := by
      rw [Nat.mul_add]
      omega
    rw [shape, Nat.add_mul_mod_self_left, Nat.mod_eq_of_lt (by omega)]
  · rename_i edge
    have shape : rest + size * rounds + 65535 = (size - 1) + size * (rounds + (count - 1)) := by
      have last : size * count = size * (count - 1) + size := by
        rw [← Nat.mul_succ]
        congr 1
        omega
      rw [Nat.mul_add]
      omega
    rw [shape, Nat.add_mul_mod_self_left, Nat.mod_eq_of_lt (by omega)]

/-- A number of slots is a power of two, so it divides the number of sequence numbers, or
there is a slot for each of them. -/
theorem dvd_or_le_of_pow {k : Nat} (power : size = 2 ^ k) : size ∣ 65536 ∨ 65536 ≤ size := by
  subst power
  rcases Nat.le_total k 16 with small | large
  · exact .inl (Nat.pow_dvd_pow 2 small)
  · exact .inr (Nat.pow_le_pow_right (Nat.zero_lt_two) large)

/-- Two numbers that are both behind `c` by less than the number of slots do not share a
slot. -/
theorem eq_of_same_slot_of_near {a b c : UInt16} (shape : size ∣ 65536 ∨ 65536 ≤ size)
    (same : a.toNat % size = b.toNat % size) (first : (forwardDiff a c).toNat < size)
    (second : (forwardDiff b c).toNat < size) : a = b := by
  have boundA := a.toNat_lt
  have boundB := b.toNat_lt
  have boundC := c.toNat_lt
  rcases shape with divides | large
  · have congruent : (forwardDiff a c).toNat % size = (forwardDiff b c).toNat % size := by
      rw [toNat_forwardDiff, toNat_forwardDiff, Nat.mod_mod_of_dvd _ divides,
        Nat.mod_mod_of_dvd _ divides]
      have shiftA : (65536 - a.toNat + c.toNat) + a.toNat = 65536 + c.toNat := by omega
      have shiftB : (65536 - b.toNat + c.toNat) + b.toNat = 65536 + c.toNat := by omega
      have equal : (65536 - a.toNat + c.toNat) + a.toNat ≡
          (65536 - b.toNat + c.toNat) + a.toNat [MOD size] := by
        rw [shiftA, ← shiftB]
        exact Nat.ModEq.add_left _ same.symm
      exact Nat.ModEq.add_right_cancel' _ equal
    rw [Nat.mod_eq_of_lt first, Nat.mod_eq_of_lt second, toNat_forwardDiff,
      toNat_forwardDiff] at congruent
    apply UInt16.toNat_inj.mp
    omega
  · rw [Nat.mod_eq_of_lt (by omega), Nat.mod_eq_of_lt (by omega)] at same
    exact UInt16.toNat_inj.mp same

end Slots

namespace PacketBuffer

/-- The packet with a sequence number. -/
def stored (b : PacketBuffer) : UInt16 → Option Packet :=
  SlotTable.lookup Packet.seqNum UInt16.toNat b.size b.buffer

/-- The shape of a buffer: the sizes are powers of two and the packets are in their slots. -/
structure Shaped (b : PacketBuffer) : Prop where
  sizes : ∃ k m, b.size = 2 ^ k ∧ b.maxSize = 2 ^ m ∧ k ≤ m
  inPlace : SlotTable.InPlace Packet.seqNum UInt16.toNat b.size b.buffer

variable {b : PacketBuffer} {s : UInt16} {p : Packet}

theorem stored_eq_some_iff : b.stored s = some p ↔
    b.buffer (b.indexOf s) = some p ∧ p.seqNum = s :=
  SlotTable.lookup_eq_some_iff

theorem Shaped.positive (shaped : b.Shaped) : 0 < b.size := by
  obtain ⟨k, -, power, -⟩ := shaped.sizes
  rw [power]
  exact Nat.pow_pos Nat.zero_lt_two

theorem Shaped.dvd_or_le (shaped : b.Shaped) : b.size ∣ 65536 ∨ 65536 ≤ b.size := by
  obtain ⟨k, -, power, -⟩ := shaped.sizes
  exact dvd_or_le_of_pow power

/-- If the slot before that of `s` is taken, it is the slot of the number before. -/
theorem Shaped.adjacent (shaped : b.Shaped)
    (taken : b.buffer (b.prevIndex (b.indexOf s)) = some p) : Adjacent b.size s := by
  rcases shaped.dvd_or_le with divides | large
  · exact adjacent_of_dvd divides s
  · have there := shaped.inPlace _ p taken
    have bound := s.toNat_lt
    have boundP := p.seqNum.toNat_lt
    have boundPred := (s - 1).toNat_lt
    unfold prevIndex indexOf at there
    unfold Adjacent
    rw [Nat.mod_eq_of_lt (by omega)] at there
    rw [Nat.mod_eq_of_lt (by omega)] at there ⊢
    rw [Nat.mod_eq_of_lt (by omega), toNat_pred]
    split
    · omega
    · rename_i zero
      rw [if_neg zero] at there
      omega

theorem prevIndex_of_adjacent (adjacent : Adjacent b.size s) :
    b.prevIndex (b.indexOf s) = b.indexOf (s - 1) := adjacent

section Update

theorem stored_setSlot {entry : Option Packet}
    (owned : SlotTable.Owned Packet.seqNum UInt16.toNat b.size b.buffer s)
    (named : ∀ new ∈ entry, new.seqNum = s) :
    (b.setSlot (b.indexOf s) entry).stored = Function.update b.stored s entry :=
  SlotTable.lookup_update owned named

theorem Shaped.setSlot (shaped : b.Shaped) {entry : Option Packet}
    (named : ∀ new ∈ entry, new.seqNum = s) : (b.setSlot (b.indexOf s) entry).Shaped :=
  ⟨shaped.sizes, shaped.inPlace.update named⟩

theorem owned_of_stored (found : b.stored s = some p) :
    SlotTable.Owned Packet.seqNum UInt16.toNat b.size b.buffer s :=
  SlotTable.owned_of_lookup found

end Update

section Expand

/-- Expanding a buffer with a number of slots that can be doubled keeps the map. -/
theorem Shaped.expandBufferSize (shaped : b.Shaped) {next : PacketBuffer}
    (expanded : b.expandBufferSize = some next) :
    next.Shaped ∧ next.stored = b.stored ∧ next.maxSize = b.maxSize ∧ next.size = 2 * b.size := by
  obtain ⟨k, m, size, maxSize, le⟩ := shaped.sizes
  have positive := shaped.positive
  unfold PacketBuffer.expandBufferSize at expanded
  split at expanded
  · simp at expanded
  · rename_i larger
    obtain rfl := Option.some.inj expanded
    have less : k < m := by
      refine Nat.lt_of_le_of_ne le ?_
      rintro rfl
      exact larger (size.trans maxSize.symm)
    have doubled : min b.maxSize (2 * b.size) = 2 * b.size := by
      rw [size, maxSize, ← Nat.pow_succ']
      exact Nat.min_eq_right (Nat.pow_le_pow_right Nat.zero_lt_two less)
    have multiple : b.size ∣ min b.maxSize (2 * b.size) := by
      rw [doubled]
      exact Nat.dvd_mul_left b.size 2
    refine ⟨⟨⟨k + 1, m, ?_, maxSize, less⟩, ?_⟩, ?_, rfl, doubled⟩
    · change min b.maxSize (2 * b.size) = 2 ^ (k + 1)
      rw [doubled, size, Nat.pow_succ']
    · exact SlotTable.inPlace_rehash shaped.inPlace multiple
    · exact SlotTable.lookup_rehash shaped.inPlace multiple positive

/-- If another packet is in the slot of a number, there are more numbers than slots. -/
theorem Shaped.double_dvd (shaped : b.Shaped) (missing : b.stored s = none)
    (taken : b.buffer (b.indexOf s) = some p) : 2 * b.size ∣ 65536 := by
  have other : p.seqNum ≠ s := by
    intro same
    rw [stored_eq_some_iff.mpr ⟨taken, same⟩] at missing
    simp at missing
  have slot := shaped.inPlace _ p taken
  have fewer : b.size < 65536 := by
    by_contra large
    have bound := s.toNat_lt
    have boundP := p.seqNum.toNat_lt
    unfold indexOf at slot
    rw [Nat.mod_eq_of_lt (by omega), Nat.mod_eq_of_lt (by omega)] at slot
    exact other (UInt16.toNat_inj.mp slot)
  obtain ⟨k, -, power, -⟩ := shaped.sizes
  rw [power, show 65536 = 2 ^ 16 from rfl] at fewer
  rw [power, ← Nat.pow_succ', show 65536 = 2 ^ 16 from rfl]
  exact Nat.pow_dvd_pow 2 ((Nat.pow_lt_pow_iff_right Nat.one_lt_two).mp fewer)

/-- What `other` has in common with `b` when it is `b` expanded. -/
structure Expanded (b other : PacketBuffer) : Prop where
  shaped : other.Shaped
  stored : other.stored = b.stored
  le : b.size ≤ other.size
  adjacent : ∀ n, Adjacent b.size n → Adjacent other.size n

theorem Expanded.refl (shaped : b.Shaped) : b.Expanded b :=
  ⟨shaped, rfl, Nat.le_refl _, fun _ => id⟩

theorem Shaped.expandFor (shaped : b.Shaped) (missing : b.stored s = none)
    (taken : b.buffer (b.indexOf s) = some p) (rounds : Nat) :
    b.Expanded (expandFor s rounds b) := by
  induction rounds generalizing b p with
  | zero => exact .refl shaped
  | succ rounds ih =>
      unfold PacketBuffer.expandFor
      split
      · exact .refl shaped
      · rename_i next expanded
        obtain ⟨nextShaped, same, -, doubled⟩ := shaped.expandBufferSize expanded
        have once : b.Expanded next := by
          refine ⟨nextShaped, same, by omega, fun n _ => adjacent_of_dvd ?_ n⟩
          rw [doubled]
          exact shaped.double_dvd missing taken
        split
        · rename_i still
          obtain ⟨q, there⟩ := Option.isSome_iff_exists.mp still
          have rest := ih nextShaped (by rw [same, missing]) there
          exact ⟨rest.shaped, rest.stored.trans same, Nat.le_trans once.le rest.le,
            fun n linked => rest.adjacent n (once.adjacent n linked)⟩
        · exact once

end Expand

section Clear

variable (size : Nat)

/-- The slots that the loop of `ClearTo` goes through. -/
def Visited (count : Nat) (firstSeqNum : UInt16) (slot : Nat) : Prop :=
  ∃ j < count, (firstSeqNum + UInt16.ofNat j).toNat % size = slot

instance (size count : Nat) (firstSeqNum : UInt16) : DecidablePred (Visited size count firstSeqNum) :=
  fun _ => inferInstanceAs (Decidable (∃ j < count, _))

theorem visited_succ {size count slot : Nat} {firstSeqNum : UInt16} :
    Visited size (count + 1) firstSeqNum slot ↔
      firstSeqNum.toNat % size = slot ∨ Visited size count (firstSeqNum + 1) slot := by
  have shift (j : Nat) : firstSeqNum + 1 + UInt16.ofNat j = firstSeqNum + UInt16.ofNat (j + 1) := by
    rw [UInt16.add_assoc, UInt16.ofNat_add, UInt16.add_comm (UInt16.ofNat j)]
    rfl
  constructor
  · rintro ⟨j, inRange, there⟩
    cases j with
    | zero => exact .inl (by simpa using there)
    | succ j => exact .inr ⟨j, by omega, by rw [shift, there]⟩
  · rintro (here | ⟨j, inRange, there⟩)
    · exact ⟨0, by omega, by simpa using here⟩
    · exact ⟨j + 1, by omega, by rw [← shift, there]⟩

variable (seqNum : UInt16)

theorem clearSlot_eq (index : Nat) (buffer : Nat → Option Packet) :
    clearSlot seqNum index buffer =
      Function.update buffer index
        ((buffer index).filter fun stored => !aheadOf seqNum stored.seqNum) := by
  unfold clearSlot
  split
  · rename_i empty
    rw [empty, Option.filter_none, ← empty, Function.update_eq_self]
  · rename_i stored held
    rw [held, Option.filter_some]
    cases aheadOf seqNum stored.seqNum with
    | true => rfl
    | false =>
        rw [Bool.not_false, if_pos rfl, if_neg Bool.false_ne_true, ← held, Function.update_eq_self]

/-- The loop of `ClearTo` empties the visited slots that hold a packet behind the number. -/
theorem clearSlots_apply (count : Nat) (firstSeqNum : UInt16)
    (buffer : Nat → Option Packet) (slot : Nat) :
    clearSlots size seqNum count firstSeqNum buffer slot =
      if Visited size count firstSeqNum slot then
        (buffer slot).filter fun stored => !aheadOf seqNum stored.seqNum
      else buffer slot := by
  induction count generalizing firstSeqNum buffer with
  | zero => exact (if_neg (by rintro ⟨j, inRange, -⟩; omega)).symm
  | succ count ih =>
      unfold clearSlots
      rw [ih, clearSlot_eq]
      by_cases here : firstSeqNum.toNat % size = slot
      · subst here
        rw [Function.update_self, Option.filter_filter, if_pos (visited_succ.mpr (.inl rfl))]
        simp
      · rw [Function.update_of_ne (Ne.symm here)]
        congr 1
        rw [visited_succ, eq_false here, false_or]

/-- The numbers of which `ClearTo` removes the packet. -/
def Clears (b : PacketBuffer) (seqNum s : UInt16) : Prop :=
  (b.isClearedToFirstSeqNum && aheadOf b.firstSeqNum seqNum) = false ∧
    b.firstPacketReceived = true ∧
    Visited b.size (min (forwardDiff b.firstSeqNum (seqNum + 1)).toNat b.size) b.firstSeqNum
      (b.indexOf s) ∧
    aheadOf (seqNum + 1) s = true

instance (b : PacketBuffer) (seqNum : UInt16) : DecidablePred (b.Clears seqNum) :=
  fun _ => inferInstanceAs (Decidable (_ ∧ _ ∧ _ ∧ _))

theorem lookup_clearSlots (count : Nat) (firstSeqNum : UInt16)
    (buffer : Nat → Option Packet) (s : UInt16) :
    SlotTable.lookup Packet.seqNum UInt16.toNat size
        (clearSlots size seqNum count firstSeqNum buffer) s =
      if Visited size count firstSeqNum (s.toNat % size) ∧ aheadOf seqNum s = true then none
      else SlotTable.lookup Packet.seqNum UInt16.toNat size buffer s := by
  rw [SlotTable.lookup, SlotTable.lookup, clearSlots_apply]
  by_cases visited : Visited size count firstSeqNum (s.toNat % size)
  · rw [if_pos visited]
    cases held : buffer (s.toNat % size) with
    | none => simp
    | some p =>
        by_cases named : p.seqNum = s
        · cases behind : aheadOf seqNum s <;>
            simp [Option.filter_some, named, behind, visited]
        · simp [Option.filter_some, named]
  · rw [if_neg visited, if_neg (fun both => visited both.1)]

/-- `ClearTo` removes packets from the map. -/
theorem Shaped.clearTo (shaped : b.Shaped) (seqNum : UInt16) :
    (b.clearTo seqNum).Shaped ∧ (b.clearTo seqNum).size = b.size ∧
      ∀ s, (b.clearTo seqNum).stored s = if b.Clears seqNum s then none else b.stored s := by
  unfold PacketBuffer.clearTo
  split
  · rename_i already
    refine ⟨shaped, rfl, fun s => (if_neg fun clears => ?_).symm⟩
    exact Bool.false_ne_true (clears.1.symm.trans already)
  · rename_i further
    split
    · rename_i nothing
      refine ⟨shaped, rfl, fun s => (if_neg fun clears => ?_).symm⟩
      rw [clears.2.1] at nothing
      exact Bool.false_ne_true nothing
    · rename_i received
      refine ⟨⟨shaped.sizes, ?_⟩, rfl, ?_⟩
      · intro slot p held
        change clearSlots .. = some p at held
        rw [clearSlots_apply] at held
        split at held
        · exact shaped.inPlace slot p (Option.filter_eq_some_iff.mp held).1
        · exact shaped.inPlace slot p held
      · intro s
        refine (lookup_clearSlots ..).trans ?_
        congr 1
        rw [Clears, eq_true (Bool.eq_false_iff.mpr further), true_and,
          eq_true (show b.firstPacketReceived = true by simpa using received), true_and]
        rfl

end Clear

end PacketBuffer

end MpWebRtc.VideoCoding
