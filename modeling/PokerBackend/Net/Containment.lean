import PokerBackend.Net.ReadLoop
import PokerBackend.Reference

/-!
# Which bodies the server survives

No handler catches what `json` and the SQL library throw, so a body read
returns exactly when nothing is thrown: the body is one JSON object with a
string as its type and strings as the members which a request of that type
needs, and every SQL statement of the request succeeds.
-/

namespace PokerBackend.Net.Containment

open PokerBackend.Api
open PokerBackend.CString
open PokerBackend.Lib.Execution
open PokerBackend.Net.MesHandler
open PokerBackend.Net.ReadLoop
open PokerBackend.Net.Serving
open PokerBackend.Net.TcpServer

/-- The members which a message of the type must have, as strings. -/
def neededMembers (type : Bytes) : List Bytes :=
  if type = RegisterRequest.type then
    [str "nickname", str "email", str "pass_hash"]
  else if type = LoginRequest.type then [str "email", str "pass_hash"]
  else if type = UnregisterRequest.type then
    [str "email", str "pass_hash"]
  else []

/-- A body that `handle` can read. -/
def Acceptable (rapidjson : Rapidjson) (body : Bytes) : Prop :=
  ∃ root type,
    rapidjson.parse (cStr body) = .ok root ∧
      root.stringMember (str "type") = some type ∧
        ∀ name ∈ neededMembers type,
          (root.stringMember name).isSome

section Returns

variable {root : Json}

theorem registerRequest_returns_iff :
    (∃ req, RegisterRequest.fromJson root = .ok req) ↔
      ∀ name ∈ [str "nickname", str "email", str "pass_hash"],
        (root.stringMember name).isSome := by
  simp only [RegisterRequest.fromJson_eq_ok_iff, List.forall_mem_cons,
    List.not_mem_nil, false_implies, implies_true, and_true,
    Option.isSome_iff_exists]
  constructor
  · rintro ⟨req, nickname, email, passHash⟩
    exact ⟨⟨_, nickname⟩, ⟨_, email⟩, ⟨_, passHash⟩⟩
  · rintro ⟨⟨nickname, isNickname⟩, ⟨email, isEmail⟩, ⟨hash, isHash⟩⟩
    exact ⟨⟨nickname, email, hash⟩, isNickname, isEmail, isHash⟩

theorem readCredentials_returns_iff :
    (∃ credentials, readCredentials root = .ok credentials) ↔
      ∀ name ∈ [str "email", str "pass_hash"],
        (root.stringMember name).isSome := by
  simp only [readCredentials_eq_ok_iff, List.forall_mem_cons,
    List.not_mem_nil, false_implies, implies_true, and_true,
    Option.isSome_iff_exists]
  constructor
  · rintro ⟨credentials, email, passHash⟩
    exact ⟨⟨_, email⟩, ⟨_, passHash⟩⟩
  · rintro ⟨⟨email, isEmail⟩, ⟨hash, isHash⟩⟩
    exact ⟨(email, hash), isEmail, isHash⟩

end Returns

/-- What is read of a root object once its type is known. -/
theorem decode_of_type
    {rapidjson : Rapidjson} {body type : Bytes} {root : Json}
    (parsed : rapidjson.parse (cStr body) = .ok root)
    (typed : root.stringMember (str "type") = some type) :
    (∃ read, decode rapidjson body = .ok read) ↔
      ∀ name ∈ neededMembers type, (root.stringMember name).isSome := by
  have rootRead : Json.parse rapidjson body = .ok root :=
    Json.parse_eq_ok_iff.mpr parsed
  have typeRead : root.valueAsString (str "type") = .ok type :=
    Json.valueAsString_eq_ok_iff.mpr typed
  rw [decode, rootRead, ok_bind, typeRead, ok_bind, neededMembers]
  split
  · exact exists_bind_pure_eq_ok_iff.trans registerRequest_returns_iff
  split
  · refine exists_bind_pure_eq_ok_iff.trans ?_
    refine Iff.trans ?_ readCredentials_returns_iff
    exact exists_bind_pure_eq_ok_iff
  split
  · refine exists_bind_pure_eq_ok_iff.trans ?_
    refine Iff.trans ?_ readCredentials_returns_iff
    exact exists_bind_pure_eq_ok_iff
  · simp only [pure_eq_ok_iff, exists_eq', List.not_mem_nil,
      false_implies, implies_true]

/-- The bodies that decode without an exception or a violated precondition. -/
theorem decode_isOk_iff
    {rapidjson : Rapidjson} {body : Bytes} :
    (∃ read, decode rapidjson body = .ok read) ↔
      Acceptable rapidjson body := by
  constructor
  · rintro ⟨read, decoded⟩
    have steps := decoded
    rw [decode, bind_eq_ok_iff] at steps
    rcases steps with ⟨root, rootRead, steps⟩
    rw [bind_eq_ok_iff] at steps
    rcases steps with ⟨type, typeRead, _⟩
    have parsed := Json.parse_eq_ok_iff.mp rootRead
    have typed := Json.valueAsString_eq_ok_iff.mp typeRead
    exact
      ⟨root, type, parsed, typed,
        (decode_of_type parsed typed).mp ⟨read, decoded⟩⟩
  · rintro ⟨root, type, parsed, typed, members⟩
    exact (decode_of_type parsed typed).mpr members

/-- The statements that a body makes the server execute. -/
def executed
    (env : Env) (state : Server) (conn : ConnId) (body : Bytes) :
    List Db.Statement :=
  match decode env.rapidjson body with
  | .ok (some req) => (outcome env state.table conn req).statements
  | _ => []

/--
The handler of a body read returns, the next header read is started, and no
other connection is touched.
-/
def Contained
    (env : Env) (state : Server) (conn : ConnId) (bytes : BodyBytes)
    (db : DbFaults) : Prop :=
  ∃ out final,
    (callback env (.bodyRead conn bytes db)).run state = .ok out final ∧
      .header ∈ (final.connections conn).reads ∧
        ∀ other, other ≠ conn →
          final.connections other = state.connections other ∧
            (other ∈ final.participants ↔ other ∈ state.participants)

/-- A step that is a body read starts the next header read. -/
theorem header_mem_of_change
    {env : Env} {state final : Server} {conn : ConnId}
    {bytes : BodyBytes} {db : DbFaults} {out : Option Exchange}
    (change : Change env state (.bodyRead conn bytes db) out final) :
    .header ∈ (final.connections conn).reads := by
  cases change <;> simp

theorem contained_iff_returns
    {env : Env} {state : Server} {conn : ConnId} {bytes : BodyBytes}
    {db : DbFaults}
    (pending :
      .body bytes.1.length ∈ (state.connections conn).reads) :
    Contained env state conn bytes db ↔
      ∃ out final,
        (callback env (.bodyRead conn bytes db)).run state =
          .ok out final := by
  constructor
  · rintro ⟨out, final, returned, _⟩
    exact ⟨out, final, returned⟩
  · rintro ⟨out, final, returned⟩
    have step :
        (TcpServer.server env).step state (.bodyRead conn bytes db, out)
          final :=
      ⟨pending, returned⟩
    have change : Change env state (.bodyRead conn bytes db) out final :=
      step_cases step
    exact
      ⟨out, final, returned, header_mem_of_change change,
        fun other different =>
          ⟨change.connections_of_ne different,
            change.participants_of_ne different⟩⟩

/-- The server survives a body exactly when nothing it does with it throws. -/
theorem body_contained_iff
    {env : Env} {labels : List Label} {state : Server} {conn : ConnId}
    {bytes : BodyBytes} {db : DbFaults}
    (run : Run (TcpServer.server env) labels state)
    (pending :
      .body bytes.1.length ∈ (state.connections conn).reads) :
    Contained env state conn bytes db ↔
      Acceptable env.rapidjson bytes.1 ∧
        ∀ statement ∈ executed env state conn bytes.1,
          db statement = none := by
  have arrived := (tidy_of_run run).bodyMessage_body pending
  have table : (afterBody state conn bytes).table = state.table := rfl
  rw [contained_iff_returns pending, bodyRead_run, handle_run, arrived,
    ← decode_isOk_iff, executed]
  cases decode env.rapidjson bytes.1 with
  | error fault => simp
  | ok read =>
      cases read with
      | none => simp
      | some req =>
          simp only [table, ← List.findSome?_eq_none_iff]
          cases
            (outcome env state.table conn req).statements.findSome? db <;>
            simp

/-- A login text of a player is served. -/
theorem login_contained :
    Contained Reference.playersEnv
      (firstBody Reference.playersEnv
        (Reference.Player.alice.body .logsIn).1.length
        (Reference.Player.alice.body .logsIn).2)
      0 (Reference.Player.alice.body .logsIn) noFaults := by
  refine
    (body_contained_iff (firstBody_run _ _ _)
      (firstBody_pending _ _ _)).mpr ⟨?_, fun _ _ => rfl⟩
  exact decode_isOk_iff.mp ⟨_, Reference.decode_body .alice .logsIn⟩

/-- The body `x` is no JSON: the exception of `json::parse` escapes. -/
theorem body_x_not_contained :
    ¬ ∀ labels state conn (bytes : BodyBytes),
        Run (TcpServer.server (Reference.env [])) labels state →
          .body bytes.1.length ∈ (state.connections conn).reads →
            Contained (Reference.env []) state conn bytes noFaults := by
  intro claimed
  let body : BodyBytes := ⟨str "x", by decide⟩
  have run := firstBody_run (Reference.env []) 1 (by decide)
  have pending : ReadOp.body body.1.length ∈ _ :=
    firstBody_pending (Reference.env []) 1 (by decide)
  have contained := claimed _ _ 0 body run pending
  rw [contained_iff_returns pending, bodyRead_run, handle_run,
    (tidy_of_run run).bodyMessage_body pending] at contained
  have thrown :
      decode (Reference.env []).rapidjson body.1 =
        .error
          (.runtimeError (str "Invalid value" ++ str "\njson:" ++ str "x")) :=
    rfl
  rw [thrown] at contained
  rcases contained with ⟨out, final, returned⟩
  cases returned

end PokerBackend.Net.Containment
