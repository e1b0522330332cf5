import PokerBackend.Server

/-!
# `mes_handler`: the participants, dispatch and the three request handlers

Each handler decodes its request, asks the database, and delivers one
response to the sender.  The C++ functions return nothing; here they return
the request they decoded with the response they delivered, which is the label
of the step in a run of the server.

The handlers are computations in any monad that contains those of the server;
what it means to execute a statement there is a parameter, `Database`.  The
server itself executes them on its table.  `DbFaults` tells for every
statement whether executing it throws, and with what text; a statement that
throws leaves the table unchanged.
-/

namespace PokerBackend.Net.MesHandler

open PokerBackend.Api
open PokerBackend.Db
open PokerBackend.ServerM

/-- The exceptions of the SQL statements during one call. -/
abbrev DbFaults := Statement → Option Bytes

/-- A call during which every statement succeeds. -/
def noFaults : DbFaults := fun _ => none

/--
What a call of `handle` did: the request decoded and the response delivered.
-/
inductive Exchange where
  | register (request : RegisterRequest) (response : RegisterResponse)
  | login (request : LoginRequest) (response : LoginResponse)
  | unregister
      (request : UnregisterRequest) (response : UnregisterResponse)
deriving DecidableEq

/-- How the statements of a handler are executed. -/
structure Database (m : Type → Type) where
  /-- Execute a statement that reads the table. -/
  query {α : Type} (statement : Statement) (read : UsersTable → α) : m α
  /-- Execute a statement that changes the table. -/
  execute (statement : Statement) (change : UsersTable → UsersTable) : m Unit

/-- Execute a statement that reads the table. -/
def query {α : Type}
    (db : DbFaults) (statement : Statement) (read : UsersTable → α) :
    ServerM α :=
  fun server =>
    match db statement with
    | some what => .error (.sqlError what) server
    | none => .ok (read server.table) server

/-- Execute a statement that changes the table. -/
def execute
    (db : DbFaults) (statement : Statement)
    (change : UsersTable → UsersTable) : ServerM Unit :=
  fun server =>
    match db statement with
    | some what => .error (.sqlError what) server
    | none => .ok () { server with table := change server.table }

/-- The table of the server. -/
def onTable (db : DbFaults) : Database ServerM where
  query := query db
  execute := execute db

/-- `message msg = text; sender->deliver(std::move(msg));` -/
def deliver (text : Bytes) (sender : ConnId) : ServerM Unit := do
  let msg ← raise (Message.ofString text)
  onConnection sender fun connection => connection.deliver msg

/-- `srv_->add_user(user)` -/
def addUser (user : User) : ServerM Unit :=
  modify fun server => { server with users := server.users.addUser user }

/-! ## Participants -/

/-- `add_connection(conn)` -/
def addConnection (conn : ConnId) : ServerM Unit := do
  modify fun server =>
    { server with participants := insert conn server.participants }
  onConnection conn .start

/-- `del_connection(conn)` -/
def delConnection (conn : ConnId) : ServerM Unit :=
  modify fun server =>
    { server with participants := server.participants.erase conn }

/-! ## The handlers, over any database -/

/-- The row loop of `handle_reg_request_`: `ok` and `rsp`, with `break`. -/
def regRows (email : Bytes) :
    List Row → RegisterResponse → Bool × RegisterResponse
  | [], rsp => (true, rsp)
  | row :: rows, rsp =>
      if row.email = email then
        (false,
          { rsp with
            code := RegisterResponse.NAME_TAKEN
            message := str "email is already in use" })
      else regRows email rows rsp

/--
The row loop of `handle_login_request_`: `status` and `rsp`, with `break`.
-/
def loginRows (reqPass : Bytes) (sender : ConnId) :
    List Row → LoginResponse → ServerM (Bool × LoginResponse)
  | [], rsp => pure (false, rsp)
  | row :: rows, rsp =>
      if row.passHash = reqPass then do
        let rsp :=
          { rsp with
            code := LoginResponse.OK
            message := str "login success" }
        addUser
          { id := CString.toSizeT row.userId
            connection := sender
            email := row.email
            nickname := row.nickname }
        pure (true, rsp)
      else loginRows reqPass sender rows rsp

namespace Database

variable
    {m : Type → Type} [Monad m] [MonadLiftT ServerM m]
    (database : Database m)

/-- `handle_reg_request_` after `req.from_json(j)`. -/
def register (env : Env) (req : RegisterRequest) (sender : ConnId) :
    m Exchange := do
  let results ←
    database.query (.selectByEmail req.email) fun table =>
      table.selectByEmail req.email
  let (ok, rsp) := regRows req.email results {}
  let rsp ←
    if ok then do
      let maxId ← database.query .selectMaxUserId UsersTable.maxUserId
      let idVal := maxId + 1
      let row :=
        { email := req.email
          passHash := env.saltedHash req.passHash
          nickname := req.nickname
          userId := idVal }
      database.execute (.insertInto row) fun table => table.insertInto row
      pure
        { rsp with
          code := RegisterResponse.OK
          message := str "registration success" }
    else pure rsp
  deliver (rsp.toJson env.rapidjson) sender
  return .register req rsp

/-- `handle_reg_request_(j, sender)` -/
def handleRegRequest (env : Env) (j : Json) (sender : ConnId) :
    m Exchange := do
  let req ← raise (RegisterRequest.fromJson j)
  database.register env req sender

/-- `handle_login_request_` after `req.from_json(j)`. -/
def login (env : Env) (req : LoginRequest) (sender : ConnId) :
    m Exchange := do
  let reqPass := env.saltedHash req.passHash
  let results ←
    database.query (.selectByEmail req.email) fun table =>
      table.selectByEmail req.email
  let rsp : LoginResponse := {}
  let rsp ←
    if results.isEmpty then
      pure
        { rsp with
          code := LoginResponse.NAME_UNKNOWN
          message := str "email is unkown" }
    else do
      let (status, rsp) ← loginRows reqPass sender results rsp
      if !status then
        pure
          { rsp with
            code := LoginResponse.PASS_INCORRECT
            message := str "password is incorrect" }
      else pure rsp
  deliver (rsp.toJson env.rapidjson) sender
  return .login req rsp

/-- `handle_login_request_(j, sender)` -/
def handleLoginRequest (env : Env) (j : Json) (sender : ConnId) :
    m Exchange := do
  let req ← raise (LoginRequest.fromJson j)
  database.login env req sender

/--
The row loop of `handle_unreg_request_`: `email_ok` and `rsp`, with `break`.
-/
def unregRows (email reqPass : Bytes) :
    List Row → UnregisterResponse → m (Bool × UnregisterResponse)
  | [], rsp => pure (false, rsp)
  | row :: rows, rsp =>
      if row.email = email then
        if row.passHash = reqPass then do
          database.execute (.removeFrom email) fun table =>
            table.removeFrom email
          pure
            (true,
              { rsp with
                code := UnregisterResponse.OK
                message := str "unregister processed, status:ok" })
        else
          pure
            (true,
              { rsp with
                code := UnregisterResponse.NO_PASS
                message := str "invalid pass" })
      else unregRows email reqPass rows rsp

/-- `handle_unreg_request_` after `req.from_json(j)`. -/
def unregister (env : Env) (req : UnregisterRequest) (sender : ConnId) :
    m Exchange := do
  let reqPass := env.saltedHash req.passHash
  let results ←
    database.query (.selectByEmail req.email) fun table =>
      table.selectByEmail req.email
  let (emailOk, rsp) ← database.unregRows req.email reqPass results {}
  let rsp :=
    if !emailOk then
      { rsp with
        code := UnregisterResponse.NO_NAME
        message := str "invalid email" }
    else rsp
  deliver (rsp.toJson env.rapidjson) sender
  return .unregister req rsp

/-- `handle_unreg_request_(j, sender)` -/
def handleUnregRequest (env : Env) (j : Json) (sender : ConnId) :
    m Exchange := do
  let req ← raise (UnregisterRequest.fromJson j)
  database.unregister env req sender

/-- `handle(msg, sender)`; a message of another type is only logged. -/
def handle (env : Env) (msg : Message) (sender : ConnId) :
    m (Option Exchange) := do
  let j ← raise (Json.parse env.rapidjson msg.body)
  let val ← raise (j.valueAsString (str "type"))
  if val = RegisterRequest.type then
    return some (← database.handleRegRequest env j sender)
  else if val = LoginRequest.type then
    return some (← database.handleLoginRequest env j sender)
  else if val = UnregisterRequest.type then
    return some (← database.handleUnregRequest env j sender)
  else return none

end Database

/-! ## The handlers of the server -/

section Server

variable (env : Env) (db : DbFaults)

def register (req : RegisterRequest) (sender : ConnId) : ServerM Exchange :=
  (onTable db).register env req sender

def login (req : LoginRequest) (sender : ConnId) : ServerM Exchange :=
  (onTable db).login env req sender

def unregister (req : UnregisterRequest) (sender : ConnId) :
    ServerM Exchange :=
  (onTable db).unregister env req sender

def handle (msg : Message) (sender : ConnId) : ServerM (Option Exchange) :=
  (onTable db).handle env msg sender

end Server

end PokerBackend.Net.MesHandler
