import PokerBackend.Json
import PokerBackend.Lib.JsonGrammar

/-!
# What the program relies on rapidjson for

`Inverts` is what an object that is written and read back needs; `AcceptsJson`
is what it takes to trust a text because it parsed.  Every result that uses
them has them as a hypothesis.
-/

namespace PokerBackend

open PokerBackend.CString
open PokerBackend.Lib.JsonGrammar

/-- The value that is read back for a written one. -/
def WriterValue.toJson : WriterValue → Json
  | .string text => .string text
  | .int64 value => .int value

/-- What fits into the arguments of `String` and `Int64`. -/
def WriterValue.Writable : WriterValue → Prop
  | .string text => text.length < 2 ^ 32
  | .int64 value => -2 ^ 63 ≤ value ∧ value < 2 ^ 63

/-- A member whose name and value can be written. -/
def WritableMember (member : Bytes × WriterValue) : Prop :=
  member.1.length < 2 ^ 32 ∧ member.2.Writable

/-- The object that is read back for the written members. -/
def readBack (members : List (Bytes × WriterValue)) : Json :=
  .object (members.map fun member => (member.1, member.2.toJson))

namespace Rapidjson

/--
`Parse` inverts `PrettyWriter` on objects of strings and 64-bit integers; as
control characters are written as escapes, no NUL is written.
-/
structure Inverts (rapidjson : Rapidjson) : Prop where
  parse_prettyWriter :
    ∀ members, (∀ member ∈ members, WritableMember member) →
      rapidjson.parse (rapidjson.prettyWriter members) =
        .ok (readBack members)
  noNul :
    ∀ members, (∀ member ∈ members, WritableMember member) →
      0 ∉ rapidjson.prettyWriter members

/-- `Parse` accepts exactly the JSON documents. -/
def AcceptsJson (rapidjson : Rapidjson) : Prop :=
  ∀ text, 0 ∉ text →
    ((∃ root, rapidjson.parse text = .ok root) ↔ Document text)

end Rapidjson

end PokerBackend
