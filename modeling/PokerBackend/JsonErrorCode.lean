import PokerBackend.JsonLookup
import PokerBackend.Lib.Execution

/-!
# One `error_code` for many calls

`parse` and `value_as` write to the error code they are given only when they
fail, and `reset` keeps the offset.  The object is a system whose steps are
the calls that share it; what a caller expects after each call is
`Describes`, and `Clean` is when the expectation is met.
-/

namespace PokerBackend.Json

open PokerBackend.CString
open PokerBackend.Lib.Execution

/-- A call that is given the shared error code. -/
inductive Call where
  | parse (text : Bytes)
  | valueAsString (root : Json) (name : Bytes)
  | valueAsSizeT (root : Json) (name : Bytes)
  | reset

/-- What the call makes of the error code. -/
def Call.run (rapidjson : Rapidjson) (ec : ErrorCode) :
    Call → Except Fault ErrorCode
  | .parse text => .ok (parseInto rapidjson text ec).2
  | .valueAsString root name =>
      (root.valueAsInto getString [] name ec).map Prod.snd
  | .valueAsSizeT root name =>
      (root.valueAsInto getSizeT 0 name ec).map Prod.snd
  | .reset => .ok ec.reset

/-- The error code object, from its construction. -/
def errorCodes (rapidjson : Rapidjson) : System ErrorCode Call where
  start := .fresh
  step source call target := call.run rapidjson source = .ok target

/-- The failure that a lookup reports. -/
def Lookup.failure {T : Type} :
    Lookup T → Option (ErrorCode.Code × Nat)
  | .value _ => none
  | .empty => some (.valueEmpty, 0)
  | .wrongType => some (.valueType, 0)

/-- The failure of the very call, if it fails. -/
def Call.failure (rapidjson : Rapidjson) :
    Call → Option (ErrorCode.Code × Nat)
  | .parse text =>
      match rapidjson.parse (cStr text) with
      | .ok _ => none
      | .error (code, offset) => some (.parse code, offset)
  | .valueAsString root name =>
      (classify getString (root.find (cStr name))).failure
  | .valueAsSizeT root name =>
      (classify getSizeT (root.find (cStr name))).failure
  | .reset => none

/--
The error code is that of the failure, or, if there was none, converts to
false and has the code and the offset of a fresh one.
-/
def Describes
    (failure : Option (ErrorCode.Code × Nat)) (ec : ErrorCode) : Prop :=
  ec.failed = failure.isSome ∧
    match failure with
    | some (code, offset) =>
        ec.code = code ∧ ec.offset = offset ∧ ec.mes = ErrorCode.text code
    | none =>
        ec.code = ErrorCode.fresh.code ∧ ec.offset = ErrorCode.fresh.offset

/--
The state before a call that does not fail: `ec` has no error of an earlier
call (which a reset clears itself), and its offset is zero.
-/
def Clean
    (rapidjson : Rapidjson) (source : ErrorCode) (call : Call) : Prop :=
  call.failure rapidjson = none →
    (call = .reset ∨ source.failed = false) ∧ source.offset = 0

/-- Everything a call can do to the error code. -/
inductive CallChange (rapidjson : Rapidjson) (source : ErrorCode) :
    Call → ErrorCode → Prop where
  | failed {call : Call} {code : ErrorCode.Code} {offset : Nat}
      (failure : call.failure rapidjson = some (code, offset)) :
      CallChange rapidjson source call (source.set code offset)
  | succeeded {call : Call}
      (failure : call.failure rapidjson = none) (notReset : call ≠ .reset) :
      CallChange rapidjson source call source
  | reset : CallChange rapidjson source .reset source.reset

theorem lookup_cases {T : Type}
    {get : Json → Option T} {default : T} {root : Json} {name : Bytes}
    {source target : ErrorCode}
    (returned :
      (root.valueAsInto get default name source).map Prod.snd =
        .ok target) :
    match (classify get (root.find (cStr name))).failure with
    | some (code, offset) => target = source.set code offset
    | none => target = source := by
  rw [valueAsInto_eq] at returned
  cases found : root.find (cStr name) with
  | none =>
      rw [found] at returned
      cases returned
  | some value =>
      simp only [found, Except.map, Except.ok.injEq] at returned
      cases answer : classify get (some value) <;>
        simp only [answer, Lookup.report] at returned <;>
        exact returned.symm

/-- A call is one of the listed changes. -/
theorem call_cases
    {rapidjson : Rapidjson} {source target : ErrorCode} {call : Call}
    (step : (errorCodes rapidjson).step source call target) :
    CallChange rapidjson source call target := by
  have looked :
      ∀ {T : Type} {get : Json → Option T} {default : T} {root : Json}
        {name : Bytes},
        call ≠ .reset →
          call.failure rapidjson =
              (classify get (root.find (cStr name))).failure →
            (root.valueAsInto get default name source).map Prod.snd =
                .ok target →
              CallChange rapidjson source call target := by
    intro T get default root name notReset failure returned
    have cases := lookup_cases returned
    cases reported : (classify get (root.find (cStr name))).failure with
    | none =>
        simp only [reported] at cases
        subst cases
        exact .succeeded (failure.trans reported) notReset
    | some pair =>
        rcases pair with ⟨code, offset⟩
        simp only [reported] at cases
        subst cases
        exact .failed (failure.trans reported)
  cases call with
  | parse text =>
      have returned := Except.ok.inj step
      rw [parseInto] at returned
      cases parsed : rapidjson.parse (cStr text) with
      | ok root =>
          simp only [parsed] at returned
          subst returned
          exact .succeeded (by simp [Call.failure, parsed]) (by simp)
      | error pair =>
          rcases pair with ⟨code, offset⟩
          simp only [parsed] at returned
          subst returned
          exact .failed (by simp [Call.failure, parsed])
  | valueAsString root name => exact looked (by simp) rfl step
  | valueAsSizeT root name => exact looked (by simp) rfl step
  | reset =>
      cases Except.ok.inj step
      exact .reset

theorem Lookup.failure_ne_none {T : Type} {answer : Lookup T}
    {code : ErrorCode.Code} {offset : Nat}
    (failure : answer.failure = some (code, offset)) :
    code ≠ .errorNone := by
  cases answer <;> cases failure <;> decide

/-- The code of a failure is an error. -/
theorem Call.failure_ne_none
    {rapidjson : Rapidjson} {call : Call} {code : ErrorCode.Code}
    {offset : Nat}
    (failure : call.failure rapidjson = some (code, offset)) :
    code ≠ .errorNone := by
  cases call with
  | parse text =>
      rw [Call.failure] at failure
      split at failure
      · cases failure
      · cases failure
        simp
  | valueAsString root name => exact Lookup.failure_ne_none failure
  | valueAsSizeT root name => exact Lookup.failure_ne_none failure
  | reset => cases failure

/-- A call leaves the error code as described exactly from a clean state. -/
theorem describes_iff_clean
    {rapidjson : Rapidjson} {source target : ErrorCode} {call : Call}
    (step : (errorCodes rapidjson).step source call target) :
    Describes (call.failure rapidjson) target ↔
      Clean rapidjson source call := by
  rw [Clean]
  cases call_cases step with
  | @failed call code offset failure =>
      have isError : code ≠ .errorNone := Call.failure_ne_none failure
      simp [Describes, failure, ErrorCode.set, ErrorCode.failed, isError]
  | succeeded failure notReset =>
      simp [Describes, failure, notReset, ErrorCode.failed, ErrorCode.fresh]
  | reset =>
      simp [Describes, Call.failure, ErrorCode.failed, ErrorCode.reset,
        ErrorCode.fresh]

/--
In a run all of whose calls are made in a clean state the error code describes
the last call; and a further call leaves it as described exactly if that call
is made in a clean state too.
-/
theorem error_code_describes_last_call
    {rapidjson : Rapidjson} {calls : List Call} {ec : ErrorCode}
    (run :
      Run
        ((errorCodes rapidjson).restrict fun source call _ =>
          Clean rapidjson source call)
        calls ec) :
    (∀ last ∈ calls.getLast?, Describes (last.failure rapidjson) ec) ∧
      ∀ call target,
        (errorCodes rapidjson).step ec call target →
          (Describes (call.failure rapidjson) target ↔
            Clean rapidjson ec call) := by
  constructor
  · cases run with
    | nil => simp
    | snoc init last =>
        intro call isLast
        rw [List.getLast?_concat] at isLast
        cases isLast
        exact (describes_iff_clean last.1).mpr last.2
  · intro call target step
    exact describes_iff_clean step

/-- A parser that knows one document. -/
def arrayParser : Rapidjson :=
  Reference.rapidjson [(str "[]", .array [])]

/-- A parse that succeeds, and one that fails. -/
theorem error_code_describes_last_call_parses :
    Describes (Call.failure arrayParser (.parse (str "x")))
      ⟨str "Invalid value", 0, .parse .valueInvalid⟩ := by
  have first :
      ((errorCodes arrayParser).restrict fun source call _ =>
          Clean arrayParser source call).step
        .fresh (.parse (str "[]")) .fresh :=
    ⟨rfl, fun _ => ⟨Or.inr rfl, rfl⟩⟩
  have second :
      ((errorCodes arrayParser).restrict fun source call _ =>
          Clean arrayParser source call).step
        .fresh (.parse (str "x"))
        ⟨str "Invalid value", 0, .parse .valueInvalid⟩ := by
    refine ⟨rfl, ?_⟩
    intro noFailure
    cases noFailure
  have run := (Path.single first).snoc second
  exact (error_code_describes_last_call run).1 (.parse (str "x")) rfl

/-- A parse that succeeds leaves the error of the parse before it. -/
theorem stale_error_after_parse :
    ¬ ∀ (rapidjson : Rapidjson) (calls : List Call) (last : Call)
        (ec : ErrorCode),
      Run (errorCodes rapidjson) (calls ++ [last]) ec →
        Describes (last.failure rapidjson) ec := by
  intro claimed
  have run :
      Run (errorCodes arrayParser)
        (([] ++ [Call.parse (str "x")]) ++ [.parse (str "[]")])
        ⟨str "Invalid value", 0, .parse .valueInvalid⟩ :=
    .snoc (.snoc .nil rfl) rfl
  have described := claimed _ _ _ _ run
  exact absurd described.1 (by decide)

end PokerBackend.Json
