import Mathlib.Data.Nat.Digits.Lemmas

/-!
# Decimal numerals as byte strings

The printer writes a natural number in base ten with ASCII digits; the reader
consumes the longest prefix of digits.  The two facts every user of a printed
numeral needs are that reading inverts printing, whatever follows the
numeral, and how many bytes the numeral takes.
-/

namespace PokerBackend.Lib.Numeral

/-- The ASCII digits `'0'` to `'9'`. -/
def isDigit (byte : UInt8) : Bool :=
  48 ≤ byte.toNat && byte.toNat ≤ 57

/-- The value of an ASCII digit. -/
def digitValue (byte : UInt8) : Nat :=
  byte.toNat - 48

/-- The ASCII digit of a value below ten. -/
def digitByte (value : Nat) : UInt8 :=
  UInt8.ofNat (48 + value)

theorem digitByte_toNat
    {value : Nat} (small : value < 10) :
    (digitByte value).toNat = 48 + value := by
  rw [digitByte, UInt8.toNat_ofNat']
  omega

theorem isDigit_digitByte
    {value : Nat} (small : value < 10) :
    isDigit (digitByte value) = true := by
  simp only [isDigit, digitByte_toNat small, Bool.and_eq_true,
    decide_eq_true_eq]
  omega

theorem digitValue_digitByte
    {value : Nat} (small : value < 10) :
    digitValue (digitByte value) = value := by
  rw [digitValue, digitByte_toNat small]
  omega

/-- The decimal numeral of a natural number, most significant digit first. -/
def numeral (value : Nat) : List UInt8 :=
  if value = 0 then [48]
  else (Nat.digits 10 value).reverse.map digitByte

/-- Read the longest prefix of digits, continuing from `accumulated`. -/
def readDigits (accumulated : Nat) : List UInt8 → Nat
  | [] => accumulated
  | byte :: rest =>
      if isDigit byte then
        readDigits (accumulated * 10 + digitValue byte) rest
      else accumulated

/-- Reading stops at the first byte which is not a digit. -/
theorem readDigits_of_stop
    (accumulated : Nat) (rest : List UInt8)
    (stop : ∀ byte ∈ rest.head?, isDigit byte = false) :
    readDigits accumulated rest = accumulated := by
  cases rest with
  | nil => rfl
  | cons byte rest =>
      have notDigit : isDigit byte = false := stop byte rfl
      simp [readDigits, notDigit]

/-- Digits are read one after the other. -/
theorem readDigits_append
    {digits : List UInt8} (allDigits : ∀ byte ∈ digits, isDigit byte = true)
    (accumulated : Nat) (rest : List UInt8) :
    readDigits accumulated (digits ++ rest) =
      readDigits (readDigits accumulated digits) rest := by
  induction digits generalizing accumulated with
  | nil => rfl
  | cons byte digits induction =>
      have head : isDigit byte = true := allDigits byte List.mem_cons_self
      have tail : ∀ later ∈ digits, isDigit later = true := by
        intro later member
        exact allDigits later (List.mem_cons_of_mem byte member)
      rw [List.cons_append, readDigits, if_pos head, readDigits,
        if_pos head]
      exact induction tail _

theorem digitValue_lt {byte : UInt8} (digit : isDigit byte = true) :
    digitValue byte < 10 := by
  simp only [isDigit, Bool.and_eq_true, decide_eq_true_eq] at digit
  rw [digitValue]
  omega

/-- A text of `count` bytes reads as less than `10 ^ count`. -/
theorem readDigits_lt (accumulated : Nat) (text : List UInt8) :
    readDigits accumulated text < (accumulated + 1) * 10 ^ text.length := by
  induction text generalizing accumulated with
  | nil => simp [readDigits]
  | cons byte text induction =>
      have power : 0 < 10 ^ text.length := Nat.pow_pos (by decide)
      rw [readDigits, List.length_cons, Nat.pow_succ]
      split
      · next digit =>
          have value := digitValue_lt digit
          calc readDigits (accumulated * 10 + digitValue byte) text
              < (accumulated * 10 + digitValue byte + 1) *
                  10 ^ text.length := induction _
            _ ≤ ((accumulated + 1) * 10) * 10 ^ text.length :=
                Nat.mul_le_mul_right _ (by omega)
            _ = (accumulated + 1) * (10 ^ text.length * 10) := by
                rw [Nat.mul_assoc, Nat.mul_comm 10]
      · calc accumulated < (accumulated + 1) * 1 := by omega
          _ ≤ (accumulated + 1) * (10 ^ text.length * 10) :=
              Nat.mul_le_mul_left _ (by omega)

/-- Reading the digits of a list of values is the positional evaluation. -/
theorem readDigits_map_digitByte
    (values : List Nat) (small : ∀ value ∈ values, value < 10)
    (accumulated : Nat) (rest : List UInt8) :
    readDigits accumulated (values.map digitByte ++ rest) =
      readDigits
        (values.foldl (fun total value => total * 10 + value) accumulated)
        rest := by
  induction values generalizing accumulated with
  | nil => rfl
  | cons value values induction =>
      have head : value < 10 := small value List.mem_cons_self
      have tail : ∀ later ∈ values, later < 10 := by
        intro later member
        exact small later (List.mem_cons_of_mem value member)
      rw [List.map_cons, List.cons_append, readDigits,
        isDigit_digitByte head, digitValue_digitByte head]
      exact induction tail (accumulated * 10 + value)

theorem foldl_digits (value : Nat) :
    (Nat.digits 10 value).reverse.foldl
        (fun total digit => total * 10 + digit) 0 =
      value := by
  rw [List.foldl_reverse]
  have evaluated := Nat.ofDigits_digits 10 value
  rw [Nat.ofDigits_eq_foldr] at evaluated
  simpa [Nat.mul_comm, Nat.add_comm] using evaluated

/-- Reading a printed numeral returns the number that was printed. -/
theorem readDigits_numeral
    (value : Nat) (rest : List UInt8)
    (stop : ∀ byte ∈ rest.head?, isDigit byte = false) :
    readDigits 0 (numeral value ++ rest) = value := by
  by_cases zero : value = 0
  · subst value
    change readDigits 0 ([0].map digitByte ++ rest) = 0
    rw [readDigits_map_digitByte [0] (by simp)]
    exact readDigits_of_stop 0 rest stop
  · have small :
        ∀ digit ∈ (Nat.digits 10 value).reverse, digit < 10 := by
      intro digit member
      exact
        Nat.digits_lt_base (by decide)
          (List.mem_reverse.mp member)
    rw [numeral, if_neg zero, readDigits_map_digitByte _ small,
      foldl_digits]
    exact readDigits_of_stop value rest stop

/-- Every byte of a numeral is a digit. -/
theorem isDigit_of_mem_numeral
    {value : Nat} {byte : UInt8} (member : byte ∈ numeral value) :
    isDigit byte = true := by
  by_cases zero : value = 0
  · subst value
    have equal : byte = 48 := by simpa [numeral] using member
    subst byte
    rfl
  · rw [numeral, if_neg zero, List.mem_map] at member
    rcases member with ⟨digit, digitMember, rfl⟩
    exact
      isDigit_digitByte
        (Nat.digits_lt_base (by decide)
          (List.mem_reverse.mp digitMember))

theorem numeral_ne_nil (value : Nat) : numeral value ≠ [] := by
  by_cases zero : value = 0
  · simp [numeral, zero]
  · simp [numeral, zero, Nat.digits_ne_nil_iff_ne_zero]

/-- Only the numeral of zero begins with the digit zero. -/
theorem numeral_head_zero
    {value : Nat} (zero : (numeral value).head? = some 48) : value = 0 := by
  by_contra positive
  have some : Nat.digits 10 value ≠ [] :=
    Nat.digits_ne_nil_iff_ne_zero.mpr positive
  rw [numeral, if_neg positive, List.head?_map, List.head?_reverse,
    List.getLast?_eq_some_getLast some, Option.map_some,
    Option.some.injEq] at zero
  have small : (Nat.digits 10 value).getLast some < 10 :=
    Nat.digits_lt_base (by decide) (List.getLast_mem some)
  have same := congrArg UInt8.toNat zero
  rw [digitByte_toNat small] at same
  have leading := Nat.getLast_digit_ne_zero 10 positive
  have fortyEight : (48 : UInt8).toNat = 48 := rfl
  omega

/-- A number below `10 ^ width` is printed in at most `width` bytes. -/
theorem numeral_length_le
    {value width : Nat} (positive : 0 < width)
    (bound : value < 10 ^ width) :
    (numeral value).length ≤ width := by
  by_cases zero : value = 0
  · simp only [numeral, zero, if_true, List.length_singleton]
    omega
  · rw [numeral, if_neg zero, List.length_map, List.length_reverse]
    exact (Nat.digits_length_le_iff (by decide) value).mpr bound

end PokerBackend.Lib.Numeral
