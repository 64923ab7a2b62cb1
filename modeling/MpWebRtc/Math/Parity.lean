import Mathlib.Data.List.GetD

/-!
# Parity of strings of bytes

A parity code xors strings of several lengths into one buffer, each from an offset on. A string
counts there as if zeros followed it, so that every place of the buffer holds the parity of that
place of all strings, and taking all but one of them out again leaves that one.
-/

namespace Math.Parity

/-- A byte of a string that goes on with zeros. -/
def padded (bytes : List UInt8) (i : Nat) : UInt8 := bytes.getD i 0

section Padded

variable {bytes first second : List UInt8} {i count : Nat}

theorem padded_of_le (bytes : List UInt8) (beyond : bytes.length ≤ i) : padded bytes i = 0 := by
  rw [padded, List.getD_eq_default _ _ beyond]

theorem padded_of_lt (bytes : List UInt8)
    (inside : i < bytes.length) : padded bytes i = bytes[i] := by
  rw [padded, List.getD_eq_getElem _ _ inside]

theorem padded_append_left (inside : i < first.length) :
    padded (first ++ second) i = padded first i := by
  unfold padded
  exact List.getD_append _ _ _ _ inside

theorem padded_append_right (behind : first.length ≤ i) :
    padded (first ++ second) i = padded second (i - first.length) := by
  unfold padded
  exact List.getD_append_right _ _ _ _ behind

theorem padded_take (inside : i < count) : padded (bytes.take count) i = padded bytes i := by
  unfold padded
  rw [List.getD_eq_getElem?_getD, List.getD_eq_getElem?_getD, List.getElem?_take_of_lt inside]

theorem padded_drop (bytes : List UInt8) : padded (bytes.drop count) i = padded bytes
    (count + i) := by
  unfold padded
  rw [List.getD_eq_getElem?_getD, List.getD_eq_getElem?_getD, List.getElem?_drop]

theorem padded_replicate : padded (List.replicate count 0) i = 0 := by
  rcases Nat.lt_or_ge i count with inside | beyond
  · rw [padded_of_lt _ (by rwa [List.length_replicate]), List.getElem_replicate]
  · exact padded_of_le _ (by rwa [List.length_replicate])

/-- Zeros behind a string do not show. -/
theorem padded_append_replicate : padded (bytes ++ List.replicate count 0) i = padded bytes i := by
  rcases Nat.lt_or_ge i bytes.length with inside | behind
  · exact padded_append_left inside
  · rw [padded_append_right behind, padded_replicate, padded_of_le _ behind]

/-- Strings of one length with the same bytes are equal. -/
theorem ext_padded (length : first.length = second.length)
    (same : ∀ i < first.length, padded first i = padded second i) : first = second := by
  apply List.ext_getElem length
  intro i inFirst inSecond
  rw [← padded_of_lt first inFirst, ← padded_of_lt second inSecond]
  exact same i inFirst

end Padded

section XorAt

variable {offset : Nat} {source target : List UInt8}

/-- Xor the source into the target from an offset on. -/
def xorAt (offset : Nat) (source target : List UInt8) : List UInt8 :=
  target.take offset ++ (List.zipWith (· ^^^ ·) (target.drop offset) source ++
    target.drop (offset + source.length))

variable (fits : offset + source.length ≤ target.length)
include fits

theorem length_zipWith_drop :
    (List.zipWith (· ^^^ ·) (target.drop offset) source).length = source.length := by
  rw [List.length_zipWith, List.length_drop]
  omega

theorem length_xorAt : (xorAt offset source target).length = target.length := by
  rw [xorAt, List.length_append, List.length_append, length_zipWith_drop fits, List.length_take,
    List.length_drop]
  omega

/-- Only the places from the offset on change. -/
theorem padded_xorAt (i : Nat) :
    padded (xorAt offset source target) i =
      padded target i ^^^ (if offset ≤ i then padded source (i - offset) else 0) := by
  have taken : (target.take offset).length = offset := by
    rw [List.length_take]
    omega
  have middle := length_zipWith_drop fits
  unfold xorAt
  by_cases behind : offset ≤ i
  · rw [if_pos behind, padded_append_right (by rwa [taken]), taken]
    rcases Nat.lt_or_ge (i - offset) source.length with inside | beyond
    · rw [padded_append_left (by rwa [middle]), padded_of_lt _ (by rwa [middle]),
        List.getElem_zipWith, List.getElem_drop, padded_of_lt _ inside]
      rw [padded_of_lt target (by omega)]
      simp only [Nat.add_sub_cancel' behind]
    · rw [padded_append_right (by rwa [middle]), middle, padded_drop, padded_of_le _ beyond,
        UInt8.xor_zero]
      congr 1
      omega
  · rw [if_neg behind, padded_append_left (by omega), padded_take (by omega), UInt8.xor_zero]

end XorAt

/-- A byte of the parity of some strings. -/
def parity (strings : List (List UInt8)) (i : Nat) : UInt8 :=
  strings.foldr (fun string rest => padded string i ^^^ rest) 0

section Parity

variable {strings more : List (List UInt8)} {string : List UInt8} {i : Nat}

@[simp]
theorem parity_nil : parity [] i = 0 := rfl

@[simp]
theorem parity_cons : parity (string :: strings) i = padded string i ^^^ parity strings i := rfl

theorem parity_append : parity (strings ++ more) i = parity strings i ^^^ parity more i := by
  induction strings with
  | nil => rw [List.nil_append, parity_nil, UInt8.zero_xor]
  | cons string strings ih =>
      rw [List.cons_append, parity_cons, parity_cons, ih, UInt8.xor_assoc]

theorem parity_eq_zero (beyond : ∀ string ∈ strings, string.length ≤ i) : parity strings i = 0 := by
  induction strings with
  | nil => rfl
  | cons string strings ih =>
      obtain ⟨first, rest⟩ := List.forall_mem_cons.mp beyond
      rw [parity_cons, padded_of_le _ first, ih rest, UInt8.xor_zero]

/-- All strings but one taken out of the parity of all leave that one. -/
theorem parity_without (earlier later : List (List UInt8)) :
    parity (earlier ++ string :: later) i ^^^ parity (earlier ++ later) i = padded string i := by
  rw [parity_append, parity_append, parity_cons]
  have cancel (a b c : UInt8) : (a ^^^ (b ^^^ c)) ^^^ (a ^^^ c) = b := by
    calc
      (a ^^^ (b ^^^ c)) ^^^ (a ^^^ c) = (b ^^^ c ^^^ a) ^^^ (a ^^^ c) := by rw [UInt8.xor_comm a]
      _ = b ^^^ c ^^^ (a ^^^ a ^^^ c) := by rw [UInt8.xor_assoc (b ^^^ c), UInt8.xor_assoc a]
      _ = b ^^^ (c ^^^ c) := by rw [UInt8.xor_self, UInt8.zero_xor, UInt8.xor_assoc]
      _ = b := by rw [UInt8.xor_self, UInt8.xor_zero]
  exact cancel _ _ _

end Parity

end Math.Parity
