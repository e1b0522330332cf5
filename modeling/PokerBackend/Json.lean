import PokerBackend.Basic

/-!
# The `json` wrapper over rapidjson

`rapidjson::Document::Parse` and `rapidjson::PrettyWriter` are library code;
they enter as the fields of `Rapidjson`.  Everything the wrapper itself does
with them is modelled: the error code object, the two `parse` overloads, the
member lookup with its precondition, and the two `value_as` overloads with
the texts of the exceptions they throw.
-/

namespace PokerBackend

open PokerBackend.CString

/--
A rapidjson value.  Numbers are 64-bit integers of either sign, or doubles.
-/
inductive Json where
  | null
  | bool (value : Bool)
  | int (value : Int)
  | double
  | string (text : Bytes)
  | array (elements : List Json)
  | object (members : List (Bytes × Json))

/-- `rapidjson::ParseErrorCode` other than `kParseErrorNone`. -/
inductive ParseErrorCode where
  | documentEmpty
  | documentRootNotSingular
  | valueInvalid
  | objectMissName
  | objectMissColon
  | objectMissCommaOrCurlyBracket
  | arrayMissCommaOrSquareBracket
  | stringUnicodeEscapeInvalidHex
  | stringUnicodeSurrogateInvalid
  | stringEscapeInvalid
  | stringMissQuotationMark
  | stringInvalidEncoding
  | numberTooBig
  | numberMissFraction
  | numberMissExponent
  | termination
  | unspecificSyntaxError
deriving DecidableEq

/-- A value handed to `PrettyWriter`. -/
inductive WriterValue where
  | string (text : Bytes)
  | int64 (value : Int)

/--
The most bytes a value takes: six for an escaped byte, twenty for an integer.
-/
def WriterValue.maxSize : WriterValue → Nat
  | .string text => 6 * text.length + 2
  | .int64 _ => 20

/--
The most bytes an object takes: per member, four spaces of indentation, the
quoted name, a colon, a space, the value, a comma and a line break.
-/
def maxObjectSize (members : List (Bytes × WriterValue)) : Nat :=
  4 +
    (members.map fun member =>
      6 * member.1.length + 10 + member.2.maxSize).sum

/--
The two library functions: `Parse` of a NUL-terminated text, and the text
`PrettyWriter` produces for an object.
-/
structure Rapidjson where
  parse : Bytes → Except (ParseErrorCode × Nat) Json
  prettyWriter : List (Bytes × WriterValue) → Bytes
  prettyWriter_length :
    ∀ members, (prettyWriter members).length ≤ maxObjectSize members

/-! ## `json::error_code` -/

/-- `json::error_code::code_t` -/
inductive ErrorCode.Code where
  | errorNone
  | parse (code : ParseErrorCode)
  | valueType
  | valueEmpty
deriving DecidableEq

/-- `json::error_code` -/
structure ErrorCode where
  mes : Bytes
  offset : Nat
  code : ErrorCode.Code

namespace ErrorCode

/-- A default-constructed error code. -/
def fresh : ErrorCode where
  mes := str "Success"
  offset := 0
  code := .errorNone

/-- `reset()`; it leaves `offset_` alone. -/
def reset (ec : ErrorCode) : ErrorCode :=
  { ec with code := .errorNone, mes := str "success" }

/-- `operator bool` -/
def failed (ec : ErrorCode) : Bool :=
  ec.code ≠ .errorNone

/-- The texts of the `switch` of `set_`. -/
def text : Code → Bytes
  | .errorNone => str "Success"
  | .parse .documentEmpty => str "The document is empty"
  | .parse .documentRootNotSingular =>
      str "The document root must not follow by other values"
  | .parse .valueInvalid => str "Invalid value"
  | .parse .objectMissName => str "Missing a name for object member"
  | .parse .objectMissColon =>
      str "Missing a colon after a name of object member"
  | .parse .objectMissCommaOrCurlyBracket =>
      str "Missing a comma or '\x7d' after an object member"
  | .parse .arrayMissCommaOrSquareBracket =>
      str "Missing a comma or ']' after an array element"
  | .parse .stringUnicodeEscapeInvalidHex =>
      str "Incorrect hex digit after \\u escape in string"
  | .parse .stringUnicodeSurrogateInvalid =>
      str "The surrogate pair in string is invalid"
  | .parse .stringEscapeInvalid => str "Invalid escape character in string"
  | .parse .stringMissQuotationMark =>
      str "Missing a closing quotation mark in string"
  | .parse .stringInvalidEncoding => str "Invalid encoding in string"
  | .parse .numberTooBig => str "Number too big to be stored in double"
  | .parse .numberMissFraction => str "Miss fraction part in number"
  | .parse .numberMissExponent => str "Miss exponent in number"
  | .parse .termination => str "Parsing was terminated"
  | .parse .unspecificSyntaxError => str "Unspecific syntax error"
  | .valueType => str "Attempt to get value with wrong type"
  | .valueEmpty => str "Value is empty"

/-- `set_(code, offset)` -/
def set (_ : ErrorCode) (code : Code) (offset : Nat) : ErrorCode :=
  { mes := text code, offset, code }

@[simp]
theorem fresh_failed : fresh.failed = false := rfl

@[simp]
theorem set_failed (ec : ErrorCode) (code : Code) (offset : Nat) :
    (ec.set code offset).failed = decide (code ≠ .errorNone) := rfl

end ErrorCode

/-! ## `json::parse` and `json::value_as` -/

namespace Json

/-- `parse(json_str, ec)`: a text that does not parse leaves a null root. -/
def parseInto
    (rapidjson : Rapidjson) (text : Bytes) (ec : ErrorCode) :
    Json × ErrorCode :=
  match rapidjson.parse (cStr text) with
  | .ok root => (root, ec)
  | .error (code, offset) => (.null, ec.set (.parse code) offset)

/-- `parse(json_str)`, which throws. -/
def parse (rapidjson : Rapidjson) (text : Bytes) : Except Fault Json :=
  let parsed := parseInto rapidjson text .fresh
  if parsed.2.failed then
    .error (.runtimeError (parsed.2.mes ++ str "\njson:" ++ text))
  else .ok parsed.1

/-- `d_[name.c_str()]`: the first member of that name. -/
def member (root : Json) (name : Bytes) : Except Fault Json :=
  match root with
  | .object members =>
      match members.find? fun member => member.1 = cStr name with
      | some found => .ok found.2
      | none => .error .rapidjsonAssert
  | _ => .error .rapidjsonAssert

/--
`value_as<T>(name, ec)`.  `get` is the typed read of the value, with
`T()` as `default`.
-/
def valueAsInto {T : Type}
    (get : Json → Option T) (default : T)
    (root : Json) (name : Bytes) (ec : ErrorCode) :
    Except Fault (T × ErrorCode) := do
  let value ← root.member name
  match value with
  | .null => return (default, ec.set .valueEmpty 0)
  | value =>
      match get value with
      | none => return (default, ec.set .valueType 0)
      | some read => return (read, ec)

/-- `value_as<T>(name)`, which throws. -/
def valueAs {T : Type}
    (get : Json → Option T) (default : T)
    (root : Json) (name : Bytes) : Except Fault T := do
  let read ← valueAsInto get default root name .fresh
  if read.2.failed then
    throw
      (.runtimeError (read.2.mes ++ str "\njson value name:" ++ name))
  return read.1

/-- `IsString` and `std::string(GetString(), GetStringLength())` -/
def getString : Json → Option Bytes
  | .string text => some text
  | _ => none

/-- `Is<size_t>` and `Get<size_t>` -/
def getSizeT : Json → Option Nat
  | .int value =>
      if 0 ≤ value ∧ value < 2 ^ 64 then some value.toNat else none
  | _ => none

/-- `value_as<std::string>(name)` -/
def valueAsString (root : Json) (name : Bytes) : Except Fault Bytes :=
  root.valueAs getString [] name

/-- `value_as<std::size_t>(name)` -/
def valueAsSizeT (root : Json) (name : Bytes) : Except Fault Nat :=
  root.valueAs getSizeT 0 name

/-- The text of a string member, if the root is an object which has it. -/
def stringMember (root : Json) (name : Bytes) : Option Bytes :=
  match root with
  | .object members =>
      (members.find? fun member => member.1 = cStr name).bind
        fun member => getString member.2
  | _ => none

theorem parse_eq_ok_iff
    {rapidjson : Rapidjson} {text : Bytes} {root : Json} :
    parse rapidjson text = .ok root ↔
      rapidjson.parse (cStr text) = .ok root := by
  rw [parse, parseInto]
  cases rapidjson.parse (cStr text) with
  | ok parsed => simp
  | error failure => simp

/-- The throwing typed read returns a string exactly when the member is one. -/
theorem valueAsString_eq_ok_iff
    {root : Json} {name text : Bytes} :
    root.valueAsString name = .ok text ↔
      root.stringMember name = some text := by
  cases root with
  | object members =>
      rw [valueAsString, valueAs, valueAsInto, member, stringMember]
      cases members.find? fun member => member.1 = cStr name with
      | none => simp [bind, Except.bind]
      | some found =>
          rcases found with ⟨label, value⟩
          cases value <;>
            simp [getString, bind, Except.bind, pure, Except.pure,
              throw, throwThe, MonadExceptOf.throw]
  | _ =>
      simp [valueAsString, valueAs, valueAsInto, member, stringMember,
        bind, Except.bind]

end Json

end PokerBackend
