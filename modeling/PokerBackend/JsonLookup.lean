import PokerBackend.ReferenceJson

/-!
# What a typed lookup finds

`value_as` looks a member up with `operator[]`, which demands an object and a
member of that name, and only then tells an empty value and a value of
another type apart.  The name is passed as a C string.  `expected` is the
answer a caller may hope for instead: it is total, and it takes the name as it
is.
-/

namespace PokerBackend.Json

open PokerBackend.CString

/-- The first member of exactly that name, if the value is an object. -/
def find (root : Json) (name : Bytes) : Option Json :=
  match root with
  | .object members =>
      (members.find? fun member => member.1 = name).map Prod.snd
  | _ => none

/-- A lookup succeeds, or the error code it sets. -/
inductive Lookup (T : Type) where
  | value (read : T)
  | empty
  | wrongType

/-- What a typed read makes of a member, present or not. -/
def classify {T : Type} (get : Json → Option T) : Option Json → Lookup T
  | none | some .null => .empty
  | some value =>
      match get value with
      | none => .wrongType
      | some read => .value read

/-- What `value_as<T>(name)` should come to. -/
def expected {T : Type}
    (get : Json → Option T) (root : Json) (name : Bytes) : Lookup T :=
  classify get (root.find name)

/-- What `value_as<T>(name, ec)` returns for each answer. -/
def Lookup.report {T : Type}
    (default : T) (ec : ErrorCode) : Lookup T → T × ErrorCode
  | .value read => (read, ec)
  | .empty => (default, ec.set .valueEmpty 0)
  | .wrongType => (default, ec.set .valueType 0)

/-- `operator[]` needs the member up to the first NUL of the name. -/
theorem member_eq (root : Json) (name : Bytes) :
    root.member name =
      match root.find (cStr name) with
      | some value => .ok value
      | none => .error .rapidjsonAssert := by
  cases root with
  | object members =>
      rw [member, find]
      cases members.find? fun member => member.1 = cStr name <;> rfl
  | _ => rfl

/-- A typed lookup violates the precondition, or reports what it found. -/
theorem valueAsInto_eq {T : Type}
    (get : Json → Option T) (default : T) (root : Json) (name : Bytes)
    (ec : ErrorCode) :
    root.valueAsInto get default name ec =
      match root.find (cStr name) with
      | some value => .ok ((classify get (some value)).report default ec)
      | none => .error .rapidjsonAssert := by
  rw [valueAsInto, member_eq]
  cases root.find (cStr name) with
  | none => rfl
  | some value =>
      cases value with
      | null => rfl
      | _ =>
          simp only [classify, bind, Except.bind]
          cases get _ <;> rfl

/-- The throwing lookup, in the same terms. -/
theorem valueAs_eq {T : Type}
    (get : Json → Option T) (default : T) (root : Json) (name : Bytes) :
    root.valueAs get default name =
      match root.find (cStr name) with
      | none => .error .rapidjsonAssert
      | some value =>
          match classify get (some value) with
          | .value read => .ok read
          | .empty =>
              .error (.runtimeError
                (ErrorCode.text .valueEmpty ++ str "\njson value name:" ++
                  name))
          | .wrongType =>
              .error (.runtimeError
                (ErrorCode.text .valueType ++ str "\njson value name:" ++
                  name)) := by
  rw [valueAs, valueAsInto_eq]
  cases root.find (cStr name) with
  | none => rfl
  | some value =>
      simp only
      cases classify get (some value) <;> rfl

theorem valueAs_eq_ok_iff {T : Type}
    {get : Json → Option T} {default : T} {root : Json} {name : Bytes}
    {read : T} :
    root.valueAs get default name = .ok read ↔
      classify get (root.find (cStr name)) = .value read := by
  rw [valueAs_eq]
  cases root.find (cStr name) with
  | none => simp [classify]
  | some value =>
      simp only
      cases classify get (some value) <;> simp

/-! ## Totality -/

/-- A call has thrown `std::runtime_error`. -/
def Throws {T : Type} (result : Except Fault T) : Prop :=
  ∃ what, result = .error (.runtimeError what)

/-- Both overloads of `value_as<T>` do what is expected, with a fresh `ec`. -/
structure Total {T : Type}
    (get : Json → Option T) (default : T) (root : Json) (name : Bytes) :
    Prop where
  /-- No precondition of rapidjson is violated, and `ec` is as expected. -/
  reports :
    root.valueAsInto get default name .fresh =
      .ok ((expected get root name).report default .fresh)
  returns :
    ∀ read, expected get root name = .value read →
      root.valueAs get default name = .ok read
  throws :
    Throws (root.valueAs get default name) ↔
      expected get root name = .empty ∨ expected get root name = .wrongType

/--
The root is an object with a member whose name is the part of `name` before
its first NUL; and if there is a NUL, the member of the whole name, or the
lack of one, reads the same.
-/
def Found {T : Type}
    (get : Json → Option T) (root : Json) (name : Bytes) : Prop :=
  (root.find (cStr name)).isSome ∧
    (0 ∈ name →
      classify get (root.find (cStr name)) =
        classify get (root.find name))

/-- What is reported into a fresh error code tells the answers apart. -/
theorem Lookup.report_injective {T : Type}
    {default : T} {answer other : Lookup T}
    (same : answer.report default .fresh = other.report default .fresh) :
    answer = other := by
  have codes := congrArg (fun result => result.2.code) same
  cases answer <;> cases other <;>
    simp_all [Lookup.report, ErrorCode.fresh, ErrorCode.set]

theorem Found.classify_eq {T : Type}
    {get : Json → Option T} {root : Json} {name : Bytes}
    (found : Found get root name) :
    classify get (root.find (cStr name)) = expected get root name := by
  by_cases nul : 0 ∈ name
  · exact found.2 nul
  · rw [cStr_of_no_nul nul]
    rfl

theorem total_iff_found {T : Type}
    (get : Json → Option T) (default : T) (root : Json) (name : Bytes) :
    Total get default root name ↔ Found get root name := by
  constructor
  · intro total
    have reports := total.reports
    rw [valueAsInto_eq] at reports
    cases found : root.find (cStr name) with
    | none => simp [found] at reports
    | some value =>
        simp only [found] at reports
        have same := Lookup.report_injective (Except.ok.inj reports)
        constructor
        · simp [found]
        · intro _
          rw [found]
          exact same
  · intro found
    have same := found.classify_eq
    rcases Option.isSome_iff_exists.mp found.1 with ⟨value, isValue⟩
    rw [isValue] at same
    refine ⟨?_, ?_, ?_⟩
    · rw [valueAsInto_eq, isValue]
      simp only [same]
    · intro read expects
      rw [valueAs_eq, isValue]
      simp only [same, expects]
    · rw [valueAs_eq, isValue]
      simp only [same]
      cases expected get root name <;> simp [Throws]

/--
Typed lookup of a string and of a `size_t`: it is total and exact for the
documents and names for which `operator[]` finds the right member.
-/
theorem typed_lookup_total_iff (root : Json) (name : Bytes) :
    (Total getString [] root name ↔ Found getString root name) ∧
      (Total getSizeT 0 root name ↔ Found getSizeT root name) :=
  ⟨total_iff_found getString [] root name,
    total_iff_found getSizeT 0 root name⟩

/-- The document `[]` has no members to look up. -/
theorem lookup_in_array_asserts :
    ¬ ∀ (rapidjson : Rapidjson) (text : Bytes) (root : Json) (name : Bytes),
      parse rapidjson text = .ok root → Total getString [] root name := by
  intro claimed
  have total :=
    claimed (Reference.rapidjson [(str "[]", .array [])]) (str "[]")
      (.array []) (str "type") (parse_eq_ok_iff.mpr rfl)
  have reports := total.reports
  rw [valueAsInto_eq] at reports
  simp [find] at reports

end PokerBackend.Json
