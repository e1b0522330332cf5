import Mathlib.Data.List.TakeWhile
import PokerBackend.Lib.Numeral

/-!
# Byte strings, faults and the C library functions the program calls

A `std::string` is a list of bytes of any content.  What C code sees of it
through `c_str()` ends at its first NUL.  `strncat`, `atoi`,
`sprintf("%4d")` and `memcpy` are the functions of the C library which
`message` uses on its buffer.
-/

namespace PokerBackend

/-- The content of a `std::string`. -/
abbrev Bytes := List UInt8

/-- The bytes of an ASCII literal of the source. -/
def str (literal : String) : Bytes :=
  literal.toList.map fun character => character.val.toUInt8

/--
How a call can end other than by returning: an exception of the JSON wrapper
or of a SQL statement, with its text, or an operation the language leaves
undefined.
-/
inductive Fault where
  | runtimeError (what : Bytes)
  | sqlError (what : Bytes)
  /-- `RAPIDJSON_ASSERT` of `operator[]`: not an object, or no such member. -/
  | rapidjsonAssert
  /-- A `memcpy` past the end of `message::data_`. -/
  | bufferOverflow
deriving DecidableEq

namespace CString

open PokerBackend.Lib.Numeral

/-- What a reader of a NUL-terminated text sees of a byte string. -/
def cStr (text : Bytes) : Bytes :=
  text.takeWhile (· ≠ 0)

theorem nul_not_mem_cStr (text : Bytes) : 0 ∉ cStr text := by
  intro nul
  simpa using List.mem_takeWhile_imp nul

theorem cStr_of_no_nul {text : Bytes} (noNul : 0 ∉ text) :
    cStr text = text := by
  rw [cStr, List.takeWhile_eq_self_iff]
  intro byte member
  simpa using ne_of_mem_of_not_mem member noNul

/--
`strncat(dest, src, count)`: append up to `count` bytes of `src`, stopping at
a NUL.
-/
def strncat (dest src : Bytes) (count : Nat) : Bytes :=
  dest ++ cStr (src.take count)

/-- `isspace` in the C locale. -/
def isSpace (byte : UInt8) : Bool :=
  byte = 32 || (9 ≤ byte.toNat && byte.toNat ≤ 13)

/--
`atoi`: skip white space, read an optional sign and the longest prefix of
digits; a text without digits reads as zero.
-/
def atoi (text : Bytes) : Int :=
  match text.dropWhile isSpace with
  | [] => 0
  | sign :: rest =>
      if sign = 45 then -(readDigits 0 rest : Int)
      else if sign = 43 then (readDigits 0 rest : Int)
      else (readDigits 0 (sign :: rest) : Int)

/-- The decimal text of an `int`. -/
def decimal (value : Int) : Bytes :=
  if value < 0 then 45 :: numeral value.natAbs
  else numeral value.natAbs

/--
`sprintf("%4d", value)`: the decimal text, padded on the left with spaces to
four bytes.
-/
def sprintf4d (value : Int) : Bytes :=
  (decimal value).leftpad 4 32

/-- A signed value stored in a `std::size_t`. -/
def toSizeT (value : Int) : Nat :=
  (value % 2 ^ 64).toNat

theorem toSizeT_of_range
    {value : Int} (nonneg : 0 ≤ value) (bound : value < 2 ^ 64) :
    (toSizeT value : Int) = value := by
  rw [toSizeT, Int.emod_eq_of_lt nonneg bound, Int.toNat_of_nonneg nonneg]

@[simp]
theorem toSizeT_natCast
    {value : Nat} (bound : value < 2 ^ 64) :
    toSizeT (value : Int) = value := by
  have cast : (toSizeT (value : Int) : Int) = value :=
    toSizeT_of_range (by omega) (by omega)
  omega

theorem sprintf4d_length
    {value : Nat} (bound : value < 10 ^ 4) :
    (sprintf4d value).length = 4 := by
  have short : (numeral value).length ≤ 4 :=
    numeral_length_le (by decide) bound
  rw [sprintf4d, decimal, if_neg (by omega), List.length_leftpad,
    Int.natAbs_natCast]
  omega

/-- A padded numeral consists of spaces followed by digits. -/
theorem sprintf4d_eq (value : Nat) :
    ∃ padding,
      sprintf4d value = List.replicate padding 32 ++ numeral value := by
  refine ⟨4 - (numeral value).length, ?_⟩
  rw [sprintf4d, decimal, if_neg (by omega), Int.natAbs_natCast,
    List.leftpad]

theorem isSpace_digit
    {byte : UInt8} (digit : isDigit byte = true) :
    isSpace byte = false := by
  simp only [isDigit, Bool.and_eq_true, decide_eq_true_eq] at digit
  simp only [isSpace, Bool.or_eq_false_iff, decide_eq_false_iff_not,
    Bool.and_eq_false_iff]
  refine ⟨?_, Or.inr (by omega)⟩
  rintro rfl
  exact absurd digit.1 (by decide)

/-- `atoi` inverts the padded numeral, whatever non-digit follows it. -/
theorem atoi_sprintf4d (value : Nat) :
    atoi (sprintf4d value) = value := by
  rcases sprintf4d_eq value with ⟨padding, padded⟩
  rcases List.exists_cons_of_ne_nil (numeral_ne_nil value) with
    ⟨first, rest, shape⟩
  have firstMember : first ∈ numeral value := by
    rw [shape]
    exact List.mem_cons_self
  have firstDigit : isDigit first = true :=
    isDigit_of_mem_numeral firstMember
  have skipped :
      (sprintf4d value).dropWhile isSpace = first :: rest := by
    rw [padded, shape, List.dropWhile_append_of_pos]
    · exact List.dropWhile_cons_of_neg (by simp [isSpace_digit firstDigit])
    · intro byte member
      rw [List.eq_of_mem_replicate member]
      rfl
  have digits : readDigits 0 (first :: rest) = value := by
    rw [← shape]
    simpa using readDigits_numeral value [] (by simp)
  have notMinus : first ≠ 45 := by
    rintro rfl
    exact absurd firstDigit (by decide)
  have notPlus : first ≠ 43 := by
    rintro rfl
    exact absurd firstDigit (by decide)
  rw [atoi, skipped]
  simp only [notMinus, notPlus, if_false, digits]

/-- Padded digits contain no NUL, so `strncat` copies all of them. -/
theorem cStr_padded
    (padding : Nat) {digits : Bytes}
    (allDigits : ∀ byte ∈ digits, isDigit byte = true) :
    cStr (List.replicate padding 32 ++ digits) =
      List.replicate padding 32 ++ digits := by
  apply cStr_of_no_nul
  intro nul
  rcases List.mem_append.mp nul with space | digit
  · exact absurd (List.eq_of_mem_replicate space) (by decide)
  · exact absurd (allDigits 0 digit) (by decide)

theorem cStr_sprintf4d (value : Nat) :
    cStr (sprintf4d value) = sprintf4d value := by
  rcases sprintf4d_eq value with ⟨padding, padded⟩
  rw [padded]
  exact cStr_padded padding fun _ => isDigit_of_mem_numeral

/-- `memcpy` of `src` to `dest + offset`. -/
def memcpy (dest : Bytes) (offset : Nat) (src : Bytes) : Bytes :=
  dest.take offset ++ src ++ dest.drop (offset + src.length)

theorem memcpy_length
    {dest src : Bytes} {offset : Nat}
    (fits : offset + src.length ≤ dest.length) :
    (memcpy dest offset src).length = dest.length := by
  simp only [memcpy, List.length_append, List.length_take,
    List.length_drop]
  omega

/-- What lies before the written range is kept. -/
theorem memcpy_take
    {dest src : Bytes} {offset count : Nat}
    (before : count ≤ offset) (fits : offset ≤ dest.length) :
    (memcpy dest offset src).take count = dest.take count := by
  rw [memcpy, List.append_assoc, List.take_append_of_le_length,
    List.take_take, Nat.min_eq_left before]
  rw [List.length_take]
  omega

/-- The written range holds what was written. -/
theorem memcpy_drop_take
    {dest src : Bytes} {offset : Nat} (fits : offset ≤ dest.length) :
    ((memcpy dest offset src).drop offset).take src.length = src := by
  have start : (dest.take offset).length = offset := by
    rw [List.length_take]
    omega
  rw [memcpy, List.append_assoc]
  nth_rewrite 1 [← start]
  rw [List.drop_left, List.take_left]

end CString

end PokerBackend
