import PokerBackend.Json

/-!
# A concrete writer, and a parser that knows some documents

`prettyWriter` formats objects byte for byte as rapidjson's `PrettyWriter`
does with its default indentation.  The parser knows the documents of a given
list and takes every other text for invalid.
-/

namespace PokerBackend.Reference

open PokerBackend.CString
open PokerBackend.Lib.Numeral

/-- The digits of `Writer::WriteString`, in upper case. -/
def hexDigit (value : Nat) : UInt8 :=
  if value < 10 then (48 + value).toUInt8 else (55 + value).toUInt8

/-- One byte of a string, escaped as `Writer::WriteString` does. -/
def escape (byte : UInt8) : Bytes :=
  if byte = 34 then [92, 34]
  else if byte = 92 then [92, 92]
  else if byte = 8 then str "\\b"
  else if byte = 9 then str "\\t"
  else if byte = 10 then str "\\n"
  else if byte = 12 then str "\\f"
  else if byte = 13 then str "\\r"
  else if byte.toNat < 32 then
    str "\\u00" ++ [hexDigit (byte.toNat / 16), hexDigit (byte.toNat % 16)]
  else [byte]

def quoted (text : Bytes) : Bytes :=
  [34] ++ text.flatMap escape ++ [34]

def writeValue : WriterValue → Bytes
  | .string text => quoted text
  | .int64 value => decimal (Int.bmod value (2 ^ 64))

def writeMember (member : Bytes × WriterValue) : Bytes :=
  str "\n    " ++ quoted member.1 ++ str ": " ++ writeValue member.2

/-- `PrettyWriter` on an object of strings and integers. -/
def prettyWriter : List (Bytes × WriterValue) → Bytes
  | [] => [123, 125]
  | member :: members =>
      [123] ++ writeMember member ++
        (members.flatMap fun next => str "," ++ writeMember next) ++
          [10, 125]

theorem escape_length_le (byte : UInt8) :
    (escape byte).length ≤ 6 := by
  unfold escape
  repeat' split
  all_goals simp [str]

theorem quoted_length_le (text : Bytes) :
    (quoted text).length ≤ 6 * text.length + 2 := by
  have escaped : (text.flatMap escape).length ≤ 6 * text.length := by
    induction text with
    | nil => simp
    | cons byte text induction =>
        have first := escape_length_le byte
        rw [List.flatMap_cons, List.length_append, List.length_cons]
        omega
  rw [quoted, List.length_append, List.length_append, List.length_singleton]
  omega

theorem writeValue_length_le (value : WriterValue) :
    (writeValue value).length ≤ value.maxSize := by
  cases value with
  | string text => exact quoted_length_le text
  | int64 value =>
      have low : -2 ^ 63 ≤ Int.bmod value (2 ^ 64) := by
        have bound := Int.le_bmod (x := value) (m := 2 ^ 64) (by decide)
        omega
      have high : Int.bmod value (2 ^ 64) < 2 ^ 63 := by
        have bound := Int.bmod_lt (x := value) (m := 2 ^ 64) (by decide)
        omega
      have digits :
          (numeral (Int.bmod value (2 ^ 64)).natAbs).length ≤ 19 :=
        numeral_length_le (by decide) (by omega)
      change (decimal (Int.bmod value (2 ^ 64))).length ≤ 20
      unfold decimal
      split
      · rw [List.length_cons]
        omega
      · omega

theorem writeMember_length_le (member : Bytes × WriterValue) :
    (writeMember member).length + 1 ≤
      6 * member.1.length + 10 + member.2.maxSize := by
  have name := quoted_length_le member.1
  have value := writeValue_length_le member.2
  have indent : (str "\n    ").length = 5 := by decide
  have colon : (str ": ").length = 2 := by decide
  rw [writeMember, List.length_append, List.length_append,
    List.length_append]
  omega

theorem prettyWriter_length (members : List (Bytes × WriterValue)) :
    (prettyWriter members).length ≤ maxObjectSize members := by
  have rest :
      ∀ later : List (Bytes × WriterValue),
        (later.flatMap fun next => str "," ++ writeMember next).length ≤
          (later.map fun member =>
            6 * member.1.length + 10 + member.2.maxSize).sum := by
    intro later
    induction later with
    | nil => simp
    | cons member later induction =>
        have first := writeMember_length_le member
        have comma : (str ",").length = 1 := by decide
        rw [List.flatMap_cons, List.length_append, List.length_append,
          List.map_cons, List.sum_cons]
        omega
  cases members with
  | nil => decide
  | cons member members =>
      have first := writeMember_length_le member
      have others := rest members
      simp only [prettyWriter, maxObjectSize, List.length_append,
        List.length_cons, List.length_nil, List.map_cons, List.sum_cons]
      omega

/-- A rapidjson which reads the listed documents. -/
def rapidjson (documents : List (Bytes × Json)) : Rapidjson where
  parse text :=
    match documents.find? fun document => document.1 = text with
    | some document => .ok document.2
    | none =>
        if text = [] then .error (.documentEmpty, 0)
        else .error (.valueInvalid, 0)
  prettyWriter := prettyWriter
  prettyWriter_length := prettyWriter_length

end PokerBackend.Reference
