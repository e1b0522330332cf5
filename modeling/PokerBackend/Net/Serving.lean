import PokerBackend.Net.HandlerSpec

/-!
# Serving a request

`handle` reads a request in a body and performs it.  `outcome` says, as a
function of the rows of the table, which statements are executed, what is
answered, and what becomes of the table and of the registry; `handle_run`
says that this is what `handle` does unless a statement throws.  Later
modules use `handle_ok_cases` and the effects of an exchange, and do not
unfold a handler.
-/

namespace PokerBackend.Net.Serving

open PokerBackend.Api
open PokerBackend.Db
open PokerBackend.Net.HandlerSpec
open PokerBackend.Net.MesHandler
open PokerBackend.ServerM

/-! ## Requests -/

/-- A request of one of the three known types. -/
inductive Request where
  | register (request : RegisterRequest)
  | login (request : LoginRequest)
  | unregister (request : UnregisterRequest)
deriving DecidableEq

/-- What `handle` reads in a body; `none` is a message of another type. -/
def decode
    (rapidjson : Rapidjson) (body : Bytes) :
    Except Fault (Option Request) := do
  let j ← Json.parse rapidjson body
  let val ← j.valueAsString (str "type")
  if val = RegisterRequest.type then
    return some (.register (← RegisterRequest.fromJson j))
  else if val = LoginRequest.type then
    return some (.login (← LoginRequest.fromJson j))
  else if val = UnregisterRequest.type then
    return some (.unregister (← UnregisterRequest.fromJson j))
  else return none

/-- The part of `handle` after the request has been read. -/
def perform
    (env : Env) (db : DbFaults) (sender : ConnId) :
    Request → ServerM Exchange
  | .register req => register env db req sender
  | .login req => login env db req sender
  | .unregister req => unregister env db req sender

/-- The request of an exchange. -/
def request : Exchange → Request
  | .register req _ => .register req
  | .login req _ => .login req
  | .unregister req _ => .unregister req

/-- The text that is delivered in an exchange. -/
def responseText (rapidjson : Rapidjson) : Exchange → Bytes
  | .register _ rsp => rsp.toJson rapidjson
  | .login _ rsp => rsp.toJson rapidjson
  | .unregister _ rsp => rsp.toJson rapidjson

theorem handle_eq
    (env : Env) (db : DbFaults) (msg : Message) (sender : ConnId)
    (server : Server) :
    (handle env db msg sender).run server =
      match decode env.rapidjson msg.body with
      | .error fault => .error fault server
      | .ok none => .ok none server
      | .ok (some req) =>
          EStateM.run
            (do
              let exchange ← perform env db sender req
              return some exchange)
            server := by
  rw [handle, Database.handle, decode]
  change (raise (Json.parse env.rapidjson msg.body) >>= _).run server = _
  rw [raise_bind_run]
  cases Json.parse env.rapidjson msg.body with
  | error fault => rfl
  | ok j =>
      change (raise (j.valueAsString (str "type")) >>= _).run server = _
      rw [raise_bind_run]
      simp only [bind, Except.bind]
      cases j.valueAsString (str "type") with
      | error fault => rfl
      | ok val =>
          by_cases isRegister : val = RegisterRequest.type
          · simp only [if_pos isRegister, Database.handleRegRequest]
            cases RegisterRequest.fromJson j <;> rfl
          by_cases isLogin : val = LoginRequest.type
          · simp only [if_neg isRegister, if_pos isLogin,
              Database.handleLoginRequest]
            cases LoginRequest.fromJson j <;> rfl
          by_cases isUnregister : val = UnregisterRequest.type
          · simp only [if_neg isRegister, if_neg isLogin,
              if_pos isUnregister, Database.handleUnregRequest]
            cases UnregisterRequest.fromJson j <;> rfl
          · simp only [if_neg isRegister, if_neg isLogin,
              if_neg isUnregister]
            rfl

/-! ## Outcomes -/

/-- What serving a request comes to when no statement throws. -/
structure Outcome where
  statements : List Statement
  exchange : Exchange
  table : UsersTable
  login : Option User := none

/-- The outcome of a request, given the rows of the table. -/
def outcome
    (env : Env) (table : UsersTable) (sender : ConnId) :
    Request → Outcome
  | .register req =>
      if ∃ row ∈ table, row.email = req.email then
        { statements := [.selectByEmail req.email]
          exchange := .register req nameTaken
          table }
      else
        { statements :=
            [.selectByEmail req.email, .selectMaxUserId,
              .insertInto (newRow env table req)]
          exchange := .register req registered
          table := table.insertInto (newRow env table req) }
  | .login req =>
      if table.selectByEmail req.email = [] then
        { statements := [.selectByEmail req.email]
          exchange := .login req nameUnknown
          table }
      else
        match loginRow env table req with
        | none =>
            { statements := [.selectByEmail req.email]
              exchange := .login req passIncorrect
              table }
        | some row =>
            { statements := [.selectByEmail req.email]
              exchange := .login req loggedIn
              table
              login := some (session row sender) }
  | .unregister req =>
      match table.selectByEmail req.email with
      | [] =>
          { statements := [.selectByEmail req.email]
            exchange := .unregister req noName
            table }
      | row :: _ =>
          if row.passHash = env.saltedHash req.passHash then
            { statements :=
                [.selectByEmail req.email, .removeFrom req.email]
              exchange := .unregister req unregistered
              table := table.removeFrom req.email }
          else
            { statements := [.selectByEmail req.email]
              exchange := .unregister req noPass
              table }

/-- The registry after a request that may have logged in. -/
def usersAfter (users : UserCont) : Option User → UserCont
  | none => users
  | some user => users.addUser user

/-- The server after a request has been served completely. -/
def served
    (env : Env) (server : Server) (sender : ConnId) (req : Request) :
    Server :=
  let result := outcome env server.table sender req
  Server.answered
    { server with
      table := result.table
      users := usersAfter server.users result.login }
    sender (responseText env.rapidjson result.exchange)

/-- A request is served completely, or a statement of it throws. -/
theorem perform_run
    (env : Env) (db : DbFaults) (sender : ConnId) (req : Request)
    (server : Server) :
    (perform env db sender req).run server =
      let result := outcome env server.table sender req
      match result.statements.findSome? db with
      | some what => .error (.sqlError what) server
      | none => .ok result.exchange (served env server sender req) := by
  cases req with
  | register req =>
      rw [perform, register_run]
      by_cases taken : ∃ row ∈ server.table, row.email = req.email
      · simp only [served, outcome, if_pos taken, List.findSome?]
        cases db (.selectByEmail req.email) <;> rfl
      · simp only [served, outcome, if_neg taken, List.findSome?]
        cases db (.selectByEmail req.email) with
        | some what => rfl
        | none =>
            cases db .selectMaxUserId with
            | some what => rfl
            | none => cases db (.insertInto _) <;> rfl
  | login req =>
      rw [perform, login_run]
      by_cases empty : server.table.selectByEmail req.email = []
      · simp only [served, outcome, if_pos empty, List.findSome?]
        cases db (.selectByEmail req.email) <;> rfl
      · simp only [served, outcome, if_neg empty]
        cases loginRow env server.table req <;>
          simp only [List.findSome?] <;>
          cases db (.selectByEmail req.email) <;> rfl
  | unregister req =>
      rw [perform, unregister_run]
      simp only [served, outcome]
      cases server.table.selectByEmail req.email with
      | nil =>
          simp only [List.findSome?]
          cases db (.selectByEmail req.email) <;> rfl
      | cons row rest =>
          by_cases matched : row.passHash = env.saltedHash req.passHash
          · simp only [if_pos matched, List.findSome?]
            cases db (.selectByEmail req.email) with
            | some what => rfl
            | none => cases db (.removeFrom req.email) <;> rfl
          · simp only [if_neg matched, List.findSome?]
            cases db (.selectByEmail req.email) <;> rfl

/-- The whole of `handle`: a fault leaves the server as it was. -/
theorem handle_run
    (env : Env) (db : DbFaults) (msg : Message) (sender : ConnId)
    (server : Server) :
    (handle env db msg sender).run server =
      match decode env.rapidjson msg.body with
      | .error fault => .error fault server
      | .ok none => .ok none server
      | .ok (some req) =>
          let result := outcome env server.table sender req
          match result.statements.findSome? db with
          | some what => .error (.sqlError what) server
          | none =>
              .ok (some result.exchange) (served env server sender req) := by
  rw [handle_eq]
  cases decode env.rapidjson msg.body with
  | error fault => rfl
  | ok read =>
      cases read with
      | none => rfl
      | some req =>
          simp only [EStateM.run_bind, perform_run]
          cases
            (outcome env server.table sender req).statements.findSome? db <;>
            rfl

/--
Every way in which `handle` returns: the message was of another type and
nothing changed, or a request was served completely.
-/
theorem handle_ok_cases
    {env : Env} {db : DbFaults} {msg : Message} {sender : ConnId}
    {server final : Server} {out : Option Exchange}
    (returned : (handle env db msg sender).run server = .ok out final) :
    (decode env.rapidjson msg.body = .ok none ∧ out = none ∧
        final = server) ∨
      ∃ req,
        decode env.rapidjson msg.body = .ok (some req) ∧
          (outcome env server.table sender req).statements.findSome? db =
            none ∧
          out = some (outcome env server.table sender req).exchange ∧
          final = served env server sender req := by
  rw [handle_run] at returned
  cases read : decode env.rapidjson msg.body with
  | error fault => simp [read] at returned
  | ok value =>
      cases value with
      | none =>
          simp only [read] at returned
          cases returned
          exact Or.inl ⟨rfl, rfl, rfl⟩
      | some req =>
          simp only [read] at returned
          split at returned
          · cases returned
          · next quiet =>
              cases returned
              exact Or.inr ⟨req, rfl, quiet, rfl, rfl⟩

/-! ## Effects of an exchange -/

/-- The registration that was answered `OK` in an exchange. -/
def registration : Exchange → Option RegisterRequest
  | .register req rsp =>
      if rsp.code = RegisterResponse.OK then some req else none
  | _ => none

/-- The login that was answered `OK` in an exchange. -/
def authentication : Exchange → Option LoginRequest
  | .login req rsp => if rsp.code = LoginResponse.OK then some req else none
  | _ => none

/-- The unregistration that was answered `OK` in an exchange. -/
def removal : Exchange → Option UnregisterRequest
  | .unregister req rsp =>
      if rsp.code = UnregisterResponse.OK then some req else none
  | _ => none

/-- What an exchange does to the rows of the table. -/
inductive TableChange
    (env : Env) (table : UsersTable) : Exchange → UsersTable → Prop where
  | kept {exchange : Exchange}
      (noRegistration : registration exchange = none)
      (noRemoval : removal exchange = none) :
      TableChange env table exchange table
  | added {req : RegisterRequest} {rsp : RegisterResponse}
      (ok : rsp.code = RegisterResponse.OK)
      (free : ∀ row ∈ table, row.email ≠ req.email) :
      TableChange env table (.register req rsp)
        (table.insertInto (newRow env table req))
  | removed {req : UnregisterRequest} {rsp : UnregisterResponse}
      (ok : rsp.code = UnregisterResponse.OK)
      (known :
        ∃ row ∈ table,
          row.email = req.email ∧
            row.passHash = env.saltedHash req.passHash) :
      TableChange env table (.unregister req rsp)
        (table.removeFrom req.email)

/-- What an exchange stores in the registry. -/
inductive SessionChange
    (env : Env) (table : UsersTable) (sender : ConnId) :
    Exchange → Option User → Prop where
  | kept {exchange : Exchange}
      (noLogin : authentication exchange = none) :
      SessionChange env table sender exchange none
  | stored {req : LoginRequest} {rsp : LoginResponse} {row : Row}
      (ok : rsp.code = LoginResponse.OK)
      (found : loginRow env table req = some row) :
      SessionChange env table sender (.login req rsp)
        (some (session row sender))

section Effects

variable
    (env : Env) (table : UsersTable) (sender : ConnId) (req : Request)

theorem request_outcome :
    request (outcome env table sender req).exchange = req := by
  cases req with
  | register req =>
      simp only [outcome]
      split <;> rfl
  | login req =>
      simp only [outcome]
      split
      · rfl
      · split <;> rfl
  | unregister req =>
      simp only [outcome]
      split
      · rfl
      · split <;> rfl

theorem outcome_table :
    TableChange env table (outcome env table sender req).exchange
      (outcome env table sender req).table := by
  cases req with
  | register req =>
      simp only [outcome]
      split
      · exact .kept rfl rfl
      · next absent =>
          refine .added rfl ?_
          intro row member same
          exact absent ⟨row, member, same⟩
  | login req =>
      simp only [outcome]
      split
      · exact .kept rfl rfl
      · split <;> exact .kept rfl rfl
  | unregister req =>
      simp only [outcome]
      split
      · exact .kept rfl rfl
      · next row rest rows =>
          have selected : row ∈ table.selectByEmail req.email := by
            rw [rows]
            exact List.mem_cons_self
          have found := UsersTable.mem_selectByEmail.mp selected
          split
          · next matched =>
              exact .removed rfl ⟨row, found.1, found.2, matched⟩
          · exact .kept rfl rfl

theorem outcome_login :
    SessionChange env table sender
      (outcome env table sender req).exchange
      (outcome env table sender req).login := by
  cases req with
  | register req =>
      simp only [outcome]
      split <;> exact .kept rfl
  | login req =>
      simp only [outcome]
      split
      · exact .kept rfl
      · split
        · exact .kept rfl
        · next row found => exact .stored rfl found
  | unregister req =>
      simp only [outcome]
      split
      · exact .kept rfl
      · split <;> exact .kept rfl

/-- Every response fits into a message whatever the JSON writer is. -/
theorem responseText_fits (rapidjson : Rapidjson) :
    (responseText rapidjson
      (outcome env table sender req).exchange).length ≤ maxBodyLength := by
  cases req with
  | register req =>
      simp only [outcome]
      split <;> exact registerResponse_fits rapidjson (by decide)
  | login req =>
      simp only [outcome]
      split
      · exact loginResponse_fits rapidjson (by decide)
      · split <;> exact loginResponse_fits rapidjson (by decide)
  | unregister req =>
      simp only [outcome]
      split
      · exact unregisterResponse_fits rapidjson (by decide)
      · split <;> exact unregisterResponse_fits rapidjson (by decide)

end Effects

/-! ## What a served request leaves alone -/

section Frame

variable
    (env : Env) (server : Server) (sender : ConnId) (req : Request)

@[simp]
theorem served_participants :
    (served env server sender req).participants = server.participants := rfl

@[simp]
theorem served_connections_same :
    (served env server sender req).connections sender =
      (server.connections sender).deliver
        (Message.carrying
          (responseText env.rapidjson
            (outcome env server.table sender req).exchange)) := by
  rw [served, Server.answered, Server.updateConnection_same]

theorem served_connections_of_ne
    {other : ConnId} (different : other ≠ sender) :
    (served env server sender req).connections other =
      server.connections other := by
  rw [served, Server.answered, Server.updateConnection_of_ne _ different]

end Frame

end PokerBackend.Net.Serving
