import Mathlib.Data.List.Basic
import Mathlib.Tactic.IntervalCases
import Mathlib.Tactic.Ring

/-!
# Numbers in C strings

`std::to_string` writes the decimal digits of a number, and `atoi` reads a number from memory:
white space, a sign, and digits up to the first byte that is none. It is not told where the memory
ends. Here that is a fault, and so is a number that is no `int`.
-/

namespace Math.CNumber

/-- What must not happen to a string. -/
inductive StringFault
  | readPast
  | writePast
  | overflow
  deriving DecidableEq

/-- `isspace`. -/
def isSpace (byte : UInt8) : Bool := byte == 32 || 9 ≤ byte && byte ≤ 13

/-- `isdigit`. -/
def isDigit (byte : UInt8) : Bool := 48 ≤ byte && byte ≤ 57

/-- Read digits behind a number. -/
def readDigits : (memory : List UInt8) → (value : Nat) → Except StringFault Nat
  | [], _ => .error .readPast
  | byte :: memory, value =>
      if isDigit byte then readDigits memory (value * 10 + (byte.toNat - 48)) else .ok value

/-- The number has to be an `int`. -/
def toInt (value : Int) : Except StringFault Int :=
  if -2147483648 ≤ value ∧ value < 2147483648 then .ok value else .error .overflow

theorem ok_bind {Value Result : Type} (value : Value)
    (next : Value → Except StringFault Result) : (.ok value >>= next) = next value :=
  rfl

theorem eq_of_toInt {value result : Int} (done : toInt value = .ok result) : value = result := by
  unfold toInt at done
  split at done
  · exact Except.ok.inj done
  · cases done

theorem toInt_of_lt {value : Nat} (small : value < 2147483648) :
    toInt value = .ok (value : Int) := by
  have range : -2147483648 ≤ (value : Int) ∧ (value : Int) < 2147483648 := by omega
  exact if_pos range

/-- The memory behind a sign. -/
def afterSign : List UInt8 → List UInt8
  | [] => []
  | byte :: memory => if byte = 43 ∨ byte = 45 then memory else byte :: memory

/-- `atoi`. -/
def atoi (memory : List UInt8) : Except StringFault Int := do
  let memory := memory.dropWhile isSpace
  let value ← readDigits (afterSign memory) 0
  toInt (if memory.head? = some 45 then -value else value)

/-- `std::to_string`, of a number that is not negative. -/
def decimal (value : Nat) : List UInt8 :=
  (Nat.toDigits 10 value).map fun digit => UInt8.ofNat digit.toNat

theorem readDigits_ok_iff {memory : List UInt8} {value : Nat} :
    (∃ result, readDigits memory value = .ok result) ↔ ∃ byte ∈ memory, isDigit byte = false := by
  induction memory generalizing value with
  | nil =>
      constructor
      · rintro ⟨result, read⟩
        cases read
      · rintro ⟨byte, member, -⟩
        cases member
  | cons byte memory ih =>
      rw [readDigits]
      cases digit : isDigit byte with
      | true =>
          rw [if_pos rfl, ih, List.exists_mem_cons_iff]
          refine ⟨.inr, fun either => either.elim (fun other => ?_) id⟩
          rw [digit] at other
          cases other
      | false =>
          rw [if_neg (by decide)]
          exact ⟨fun _ => ⟨byte, List.mem_cons_self, digit⟩, fun _ => ⟨value, rfl⟩⟩

variable {memory : List UInt8}

/-- Digits do not make a number smaller. -/
theorem le_of_readDigits {value result : Nat}
    (read : readDigits memory value = .ok result) : value ≤ result := by
  induction memory generalizing value with
  | nil => cases read
  | cons byte memory ih =>
      rw [readDigits] at read
      split at read
      · have further := ih read
        omega
      · cases read
        exact Nat.le_refl _

/-- A number stays if no digit follows it; 0 stays also before zeros. -/
theorem readDigits_eq_iff {value : Nat} :
    readDigits memory value = .ok value ↔
      (∃ byte ∈ memory, isDigit byte = false) ∧
        ∀ byte ∈ memory.takeWhile isDigit, value = 0 ∧ byte = 48 := by
  induction memory generalizing value with
  | nil =>
      constructor
      · intro read
        cases read
      · rintro ⟨⟨byte, member, -⟩, -⟩
        cases member
  | cons byte memory ih =>
      rw [readDigits]
      cases digit : isDigit byte with
      | false =>
          rw [if_neg (by decide), List.takeWhile_cons_of_neg (by rw [digit]; decide)]
          exact ⟨fun _ => ⟨⟨byte, List.mem_cons_self, digit⟩, nofun⟩, fun _ => rfl⟩
      | true =>
          have range : 48 ≤ byte.toNat := by
            unfold isDigit at digit
            have above := of_decide_eq_true (Bool.and_elim_left digit)
            exact UInt8.le_iff_toNat_le.mp above
          rw [if_pos rfl, List.takeWhile_cons_of_pos digit, List.forall_mem_cons,
            List.exists_mem_cons_iff]
          constructor
          · intro read
            have bound := le_of_readDigits read
            have zero : value = 0 := by omega
            have nul : byte = 48 := UInt8.toNat_inj.mp (by change byte.toNat = 48; omega)
            have same : value * 10 + (byte.toNat - 48) = value := by omega
            rw [same] at read
            obtain ⟨ended, zeros⟩ := ih.mp read
            exact ⟨.inr ended, ⟨zero, nul⟩, zeros⟩
          · rintro ⟨either, ⟨zero, nul⟩, zeros⟩
            have same : value * 10 + (byte.toNat - 48) = value := by
              rw [zero, nul]
              rfl
            rw [same]
            refine ih.mpr ⟨either.elim (fun other => ?_) id, zeros⟩
            rw [digit] at other
            cases other

/-- A number has no more digits than there is memory. -/
theorem readDigits_lt {value result : Nat} (read : readDigits memory value = .ok result) :
    result < (value + 1) * 10 ^ memory.length := by
  induction memory generalizing value with
  | nil => cases read
  | cons byte memory ih =>
      have positive : 0 < 10 ^ memory.length := Nat.pow_pos (by decide)
      rw [readDigits] at read
      rw [List.length_cons, Nat.pow_succ]
      split at read
      · rename_i digit
        have range : byte.toNat ≤ 57 := by
          unfold isDigit at digit
          exact UInt8.le_iff_toNat_le.mp (of_decide_eq_true (Bool.and_elim_right digit))
        have bound := ih read
        calc
          result < (value * 10 + (byte.toNat - 48) + 1) * 10 ^ memory.length := bound
          _ ≤ (value + 1) * 10 * 10 ^ memory.length := Nat.mul_le_mul_right _ (by omega)
          _ = (value + 1) * (10 ^ memory.length * 10) := by ring
      · cases read
        calc
          result < result + 1 := Nat.lt_succ_self _
          _ = (result + 1) * 1 := (Nat.mul_one _).symm
          _ ≤ (result + 1) * (10 ^ memory.length * 10) := Nat.mul_le_mul_left _ (by omega)

/-- Something else than a digit comes behind the white space and the sign. -/
def Ends (memory : List UInt8) : Prop :=
  ∃ byte ∈ afterSign (memory.dropWhile isSpace), isDigit byte = false

instance (memory : List UInt8) : Decidable (Ends memory) :=
  inferInstanceAs (Decidable (∃ byte ∈ afterSign (memory.dropWhile isSpace), isDigit byte = false))

theorem length_afterSign_le (memory : List UInt8) : (afterSign memory).length ≤ memory.length := by
  unfold afterSign
  split
  · exact Nat.le_refl _
  · split
    · exact Nat.le_succ _
    · exact Nat.le_refl _

/-- In a short array a number is read without fault if it ends there. -/
theorem atoi_ok_iff (short : memory.length ≤ 9) :
    (∃ value, atoi memory = .ok value) ↔ Ends memory := by
  unfold atoi Ends
  rw [← @readDigits_ok_iff _ 0]
  dsimp only
  cases read : readDigits (afterSign (memory.dropWhile isSpace)) 0 with
  | error fault =>
      constructor
      · rintro ⟨value, done⟩
        cases done
      · rintro ⟨value, done⟩
        cases done
  | ok value =>
      refine ⟨fun _ => ⟨value, rfl⟩, fun _ => ?_⟩
      have bound := readDigits_lt read
      have fewer := (length_afterSign_le (memory.dropWhile isSpace)).trans
        (List.dropWhile_sublist isSpace).length_le
      have power := Nat.pow_le_pow_right (show 0 < 10 by decide) (fewer.trans short)
      have small : value < 10 ^ 9 := by omega
      refine ⟨if (memory.dropWhile isSpace).head? = some 45 then -value else value, ?_⟩
      change toInt _ = _
      rw [toInt, if_pos]
      split <;> omega

theorem isDigit_digit {digit : Nat} (small : digit < 10) :
    isDigit (UInt8.ofNat digit.digitChar.toNat) = true ∧
      (UInt8.ofNat digit.digitChar.toNat).toNat - 48 = digit := by
  interval_cases digit <;> decide

/-- The digits of a number are read back, up to what follows them. -/
theorem readDigits_decimal (value : Nat) (rest : List UInt8) :
    readDigits (decimal value ++ rest) 0 = readDigits rest value := by
  unfold decimal
  induction value using Nat.strongRecOn generalizing rest with
  | ind value ih =>
      by_cases small : value < 10
      · obtain ⟨digit, number⟩ := isDigit_digit small
        rw [Nat.toDigits_of_lt_base small]
        change readDigits (UInt8.ofNat value.digitChar.toNat :: rest) 0 = _
        rw [readDigits, if_pos digit, number, Nat.zero_mul, Nat.zero_add]
      · have last := Nat.mod_lt value (show 0 < 10 by decide)
        obtain ⟨digit, number⟩ := isDigit_digit last
        rw [Nat.toDigits_of_base_le (by decide) (Nat.not_lt.mp small), List.map_append,
          List.append_assoc, ih (value / 10) (by omega)]
        change readDigits (UInt8.ofNat (value % 10).digitChar.toNat :: rest) (value / 10) = _
        rw [readDigits, if_pos digit, number, Nat.div_add_mod']

theorem isDigit_of_mem_decimal {value : Nat} {byte : UInt8} (member : byte ∈ decimal value) :
    isDigit byte = true := by
  unfold decimal at member
  induction value using Nat.strongRecOn with
  | ind value ih =>
      by_cases small : value < 10
      · rw [Nat.toDigits_of_lt_base small] at member
        rw [List.mem_singleton.mp member]
        exact (isDigit_digit small).1
      · rw [Nat.toDigits_of_base_le (by decide) (Nat.not_lt.mp small), List.map_append] at member
        rcases List.mem_append.mp member with front | last
        · exact ih (value / 10) (by omega) front
        · rw [List.mem_singleton.mp last]
          exact (isDigit_digit (Nat.mod_lt value (by decide))).1

theorem decimal_ne_nil (value : Nat) : decimal value ≠ [] :=
  fun empty => Nat.toDigits_ne_nil (List.map_eq_nil_iff.mp empty)

theorem not_space_of_digit {byte : UInt8} (digit : isDigit byte = true) :
    isSpace byte = false ∧ byte ≠ 43 ∧ byte ≠ 45 := by
  unfold isDigit at digit
  have above := UInt8.le_iff_toNat_le.mp (of_decide_eq_true (Bool.and_elim_left digit))
  change 48 ≤ byte.toNat at above
  have apart (other : UInt8) (small : other.toNat < 48) : byte ≠ other := by
    rintro rfl
    omega
  refine ⟨?_, apart 43 (by decide), apart 45 (by decide)⟩
  unfold isSpace
  rw [Bool.or_eq_false_iff, Bool.and_eq_false_iff]
  refine ⟨beq_false_of_ne (apart 32 (by decide)), .inr (decide_eq_false fun below => ?_)⟩
  have low := UInt8.le_iff_toNat_le.mp below
  change byte.toNat ≤ 13 at low
  omega

/-- A number that was written is read up to what follows it. -/
theorem atoi_decimal (value : Nat) (rest : List UInt8) :
    atoi (decimal value ++ rest) = readDigits rest value >>= fun result => toInt result := by
  obtain ⟨byte, digits, shape⟩ := List.exists_cons_of_ne_nil (decimal_ne_nil value)
  obtain ⟨space, plus, minus⟩ := not_space_of_digit
    (isDigit_of_mem_decimal (shape ▸ List.mem_cons_self : byte ∈ decimal value))
  have started : (decimal value ++ rest).dropWhile isSpace = decimal value ++ rest := by
    rw [shape, List.cons_append, List.dropWhile_cons_of_neg (by rw [space]; decide)]
  have unsigned : afterSign (decimal value ++ rest) = decimal value ++ rest := by
    rw [shape, List.cons_append, afterSign, if_neg (fun either => either.elim plus minus)]
  have positive : (decimal value ++ rest).head? ≠ some 45 := by
    rw [shape]
    exact fun same => minus (Option.some.inj same)
  unfold atoi
  dsimp only
  rw [started, unsigned, readDigits_decimal]
  simp only [if_neg positive]

theorem lt_of_length_decimal {value count : Nat} (short : (decimal value).length ≤ count) :
    value < 10 ^ (count + 1) := by
  have read : readDigits (decimal value ++ [0]) 0 = .ok value := by
    rw [readDigits_decimal]
    rfl
  have bound := readDigits_lt read
  rw [List.length_append, List.length_singleton, Nat.zero_add, Nat.one_mul] at bound
  exact bound.trans_le (Nat.pow_le_pow_right (by decide) (Nat.succ_le_succ short))

/-- It is read as it was if no digit follows; 0 also before zeros. -/
theorem atoi_decimal_eq_iff {value : Nat} (small : value < 2147483648) (rest : List UInt8) :
    atoi (decimal value ++ rest) = .ok (value : Int) ↔
      (∃ byte ∈ rest, isDigit byte = false) ∧
        ∀ byte ∈ rest.takeWhile isDigit, value = 0 ∧ byte = 48 := by
  rw [atoi_decimal, ← readDigits_eq_iff]
  constructor
  · intro done
    cases read : readDigits rest value with
    | error fault =>
        rw [read] at done
        cases done
    | ok result =>
        rw [read] at done
        rw [ok_bind] at done
        rw [Int.ofNat_inj.mp (eq_of_toInt done)]
  · intro read
    rw [read]
    rw [ok_bind, toInt_of_lt small]

end Math.CNumber
