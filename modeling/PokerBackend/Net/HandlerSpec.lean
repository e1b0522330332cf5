import PokerBackend.Net.MesHandler

/-!
# What each handler does

One equation per handler gives its whole result: the answer, the change of
the table or of the registry, and every statement at which it can stop.  The
row loops, the flags and the message building do not occur in them.
-/

namespace PokerBackend

open PokerBackend.Api
open PokerBackend.Db
open PokerBackend.Lib.Execution
open PokerBackend.Net
open PokerBackend.Net.MesHandler
open PokerBackend.ServerM

/-- The server after a response text has been delivered to a connection. -/
def Server.answered
    (server : Server) (sender : ConnId) (text : Bytes) : Server :=
  server.updateConnection sender fun connection =>
    connection.deliver (Message.carrying text)

namespace Net.HandlerSpec

/-! ## The answers -/

def nameTaken : RegisterResponse :=
  ⟨RegisterResponse.NAME_TAKEN, str "email is already in use"⟩

def registered : RegisterResponse :=
  ⟨RegisterResponse.OK, str "registration success"⟩

def nameUnknown : LoginResponse :=
  ⟨LoginResponse.NAME_UNKNOWN, str "email is unkown"⟩

def passIncorrect : LoginResponse :=
  ⟨LoginResponse.PASS_INCORRECT, str "password is incorrect"⟩

def loggedIn : LoginResponse :=
  ⟨LoginResponse.OK, str "login success"⟩

def noName : UnregisterResponse :=
  ⟨UnregisterResponse.NO_NAME, str "invalid email"⟩

def noPass : UnregisterResponse :=
  ⟨UnregisterResponse.NO_PASS, str "invalid pass"⟩

def unregistered : UnregisterResponse :=
  ⟨UnregisterResponse.OK, str "unregister processed, status:ok"⟩

/-- The response texts fit into a message whatever the JSON writer is. -/
theorem registerResponse_fits
    (rapidjson : Rapidjson) {rsp : RegisterResponse}
    (short : rsp.message.length ≤ 100) :
    (rsp.toJson rapidjson).length ≤ maxBodyLength :=
  codedResponseJson_length_le rapidjson rsp.code (by decide) short

theorem loginResponse_fits
    (rapidjson : Rapidjson) {rsp : LoginResponse}
    (short : rsp.message.length ≤ 100) :
    (rsp.toJson rapidjson).length ≤ maxBodyLength :=
  codedResponseJson_length_le rapidjson rsp.code (by decide) short

theorem unregisterResponse_fits
    (rapidjson : Rapidjson) {rsp : UnregisterResponse}
    (short : rsp.message.length ≤ 100) :
    (rsp.toJson rapidjson).length ≤ maxBodyLength :=
  codedResponseJson_length_le rapidjson rsp.code (by decide) short

theorem deliver_run
    {text : Bytes} (fits : text.length ≤ maxBodyLength)
    (sender : ConnId) (server : Server) :
    (deliver text sender).run server =
      .ok () (server.answered sender text) := by
  rw [deliver, Message.ofString_eq fits]
  rfl

/-- The last two lines of every handler. -/
theorem reply_run
    {text : Bytes} (fits : text.length ≤ maxBodyLength)
    (exchange : Exchange) (sender : ConnId) (server : Server) :
    EStateM.run
        (do
          deliver text sender
          return exchange)
        server =
      .ok exchange (server.answered sender text) := by
  rw [EStateM.run_bind, deliver_run fits]
  rfl

/-! ## Statements -/

theorem query_run {α : Type}
    (db : DbFaults) (statement : Statement) (read : UsersTable → α)
    (server : Server) :
    ((onTable db).query statement read).run server =
      match db statement with
      | some what => .error (.sqlError what) server
      | none => .ok (read server.table) server := rfl

theorem execute_run
    (db : DbFaults) (statement : Statement)
    (change : UsersTable → UsersTable) (server : Server) :
    ((onTable db).execute statement change).run server =
      match db statement with
      | some what => .error (.sqlError what) server
      | none => .ok () { server with table := change server.table } := rfl

/-! ## Registration -/

/-- The row a registration inserts. -/
def newRow
    (env : Env) (table : UsersTable) (req : RegisterRequest) : Row where
  nickname := req.nickname
  userId := table.maxUserId + 1
  email := req.email
  passHash := env.saltedHash req.passHash

/-- On rows of the wanted email the loop stops at the first one. -/
theorem regRows_selectByEmail
    (table : UsersTable) (email : Bytes) :
    regRows email (table.selectByEmail email) {} =
      if ∃ row ∈ table, row.email = email then (false, nameTaken)
      else (true, {}) := by
  cases rows : table.selectByEmail email with
  | nil =>
      have absent : ¬ ∃ row ∈ table, row.email = email := by
        rintro ⟨row, member, same⟩
        have selected : row ∈ table.selectByEmail email :=
          UsersTable.mem_selectByEmail.mpr ⟨member, same⟩
        rw [rows] at selected
        cases selected
      rw [if_neg absent]
      rfl
  | cons row rest =>
      have selected : row ∈ table.selectByEmail email := by
        rw [rows]
        exact List.mem_cons_self
      have found := UsersTable.mem_selectByEmail.mp selected
      rw [if_pos ⟨row, found⟩, regRows, if_pos found.2]
      rfl

theorem register_run
    (env : Env) (db : DbFaults) (req : RegisterRequest) (sender : ConnId)
    (server : Server) :
    (register env db req sender).run server =
      match db (.selectByEmail req.email) with
      | some what => .error (.sqlError what) server
      | none =>
          if ∃ row ∈ server.table, row.email = req.email then
            .ok (.register req nameTaken)
              (server.answered sender (nameTaken.toJson env.rapidjson))
          else
            match db .selectMaxUserId with
            | some what => .error (.sqlError what) server
            | none =>
                match db (.insertInto (newRow env server.table req)) with
                | some what => .error (.sqlError what) server
                | none =>
                    .ok (.register req registered)
                      (Server.answered
                        { server with
                          table :=
                            server.table.insertInto
                              (newRow env server.table req) }
                        sender (registered.toJson env.rapidjson)) := by
  have takenFits : (nameTaken.toJson env.rapidjson).length ≤ maxBodyLength :=
    registerResponse_fits env.rapidjson (by decide)
  have okFits : (registered.toJson env.rapidjson).length ≤ maxBodyLength :=
    registerResponse_fits env.rapidjson (by decide)
  rw [register, Database.register, EStateM.run_bind, query_run]
  cases db (.selectByEmail req.email) with
  | some what => rfl
  | none =>
      simp only [regRows_selectByEmail]
      by_cases taken : ∃ row ∈ server.table, row.email = req.email
      · simp only [taken, if_true, Bool.false_eq_true, if_false, pure_bind]
        exact reply_run takenFits (.register req nameTaken) sender server
      · simp only [taken, if_false, if_true, EStateM.run_bind, query_run]
        cases db .selectMaxUserId with
        | some what => rfl
        | none =>
            simp only [execute_run, newRow]
            cases db (.insertInto _) with
            | some what => rfl
            | none => exact reply_run okFits (.register req registered) _ _

/-! ## Login -/

/-- The session a successful login stores. -/
def session (row : Row) (sender : ConnId) : User where
  id := CString.toSizeT row.userId
  nickname := row.nickname
  email := row.email
  connection := sender

/-- The row a login request authenticates against. -/
def loginRow
    (env : Env) (table : UsersTable) (req : LoginRequest) : Option Row :=
  (table.selectByEmail req.email).find? fun row =>
    row.passHash = env.saltedHash req.passHash

theorem loginRow_eq_some
    {env : Env} {table : UsersTable} {req : LoginRequest} {row : Row}
    (found : loginRow env table req = some row) :
    row ∈ table ∧ row.email = req.email ∧
      row.passHash = env.saltedHash req.passHash := by
  have selected :=
    UsersTable.mem_selectByEmail.mp (List.mem_of_find?_eq_some found)
  have matched := List.find?_some found
  exact ⟨selected.1, selected.2, by simpa using matched⟩

/-- The loop authenticates against the first row with the right hash. -/
theorem loginRows_run
    (reqPass : Bytes) (sender : ConnId) (rows : List Row)
    (rsp : LoginResponse) (server : Server) :
    (loginRows reqPass sender rows rsp).run server =
      match rows.find? fun row => row.passHash = reqPass with
      | none => .ok (false, rsp) server
      | some row =>
          .ok (true, loggedIn)
            { server with
              users := server.users.addUser (session row sender) } := by
  induction rows with
  | nil => rfl
  | cons row rows induction =>
      by_cases matched : row.passHash = reqPass
      · rw [loginRows, if_pos matched,
          List.find?_cons_of_pos (by simpa using matched)]
        rfl
      · rw [loginRows, if_neg matched,
          List.find?_cons_of_neg (by simpa using matched)]
        exact induction

theorem login_run
    (env : Env) (db : DbFaults) (req : LoginRequest) (sender : ConnId)
    (server : Server) :
    (login env db req sender).run server =
      match db (.selectByEmail req.email) with
      | some what => .error (.sqlError what) server
      | none =>
          if server.table.selectByEmail req.email = [] then
            .ok (.login req nameUnknown)
              (server.answered sender (nameUnknown.toJson env.rapidjson))
          else
            match loginRow env server.table req with
            | none =>
                .ok (.login req passIncorrect)
                  (server.answered sender
                    (passIncorrect.toJson env.rapidjson))
            | some row =>
                .ok (.login req loggedIn)
                  (Server.answered
                    { server with
                      users := server.users.addUser (session row sender) }
                    sender (loggedIn.toJson env.rapidjson)) := by
  have unknownFits :
      (nameUnknown.toJson env.rapidjson).length ≤ maxBodyLength :=
    loginResponse_fits env.rapidjson (by decide)
  have incorrectFits :
      (passIncorrect.toJson env.rapidjson).length ≤ maxBodyLength :=
    loginResponse_fits env.rapidjson (by decide)
  have okFits : (loggedIn.toJson env.rapidjson).length ≤ maxBodyLength :=
    loginResponse_fits env.rapidjson (by decide)
  rw [login, Database.login, EStateM.run_bind, query_run, loginRow]
  cases db (.selectByEmail req.email) with
  | some what => rfl
  | none =>
      simp only [List.isEmpty_iff]
      by_cases empty : server.table.selectByEmail req.email = []
      · simp only [empty, if_true, pure_bind]
        exact reply_run unknownFits (.login req nameUnknown) sender server
      · simp only [empty, if_false, EStateM.run_bind, liftM, monadLift_self,
          loginRows_run]
        cases (server.table.selectByEmail req.email).find? _ with
        | none => exact reply_run incorrectFits (.login req passIncorrect) _ _
        | some row => exact reply_run okFits (.login req loggedIn) _ _

/-! ## Unregistration -/

theorem unregister_run
    (env : Env) (db : DbFaults) (req : UnregisterRequest)
    (sender : ConnId) (server : Server) :
    (unregister env db req sender).run server =
      match db (.selectByEmail req.email) with
      | some what => .error (.sqlError what) server
      | none =>
          match server.table.selectByEmail req.email with
          | [] =>
              .ok (.unregister req noName)
                (server.answered sender (noName.toJson env.rapidjson))
          | row :: _ =>
              if row.passHash = env.saltedHash req.passHash then
                match db (.removeFrom req.email) with
                | some what => .error (.sqlError what) server
                | none =>
                    .ok (.unregister req unregistered)
                      (Server.answered
                        { server with
                          table := server.table.removeFrom req.email }
                        sender (unregistered.toJson env.rapidjson))
              else
                .ok (.unregister req noPass)
                  (server.answered sender
                    (noPass.toJson env.rapidjson)) := by
  have noNameFits : (noName.toJson env.rapidjson).length ≤ maxBodyLength :=
    unregisterResponse_fits env.rapidjson (by decide)
  have noPassFits : (noPass.toJson env.rapidjson).length ≤ maxBodyLength :=
    unregisterResponse_fits env.rapidjson (by decide)
  have okFits :
      (unregistered.toJson env.rapidjson).length ≤ maxBodyLength :=
    unregisterResponse_fits env.rapidjson (by decide)
  rw [unregister, Database.unregister, EStateM.run_bind, query_run]
  cases db (.selectByEmail req.email) with
  | some what => rfl
  | none =>
      cases rows : server.table.selectByEmail req.email with
      | nil =>
          exact reply_run noNameFits (.unregister req noName) sender server
      | cons row rest =>
          have sameEmail : row.email = req.email := by
            have selected : row ∈ server.table.selectByEmail req.email := by
              rw [rows]
              exact List.mem_cons_self
            exact (UsersTable.mem_selectByEmail.mp selected).2
          simp only [Database.unregRows, sameEmail, if_true]
          by_cases matched : row.passHash = env.saltedHash req.passHash
          · simp only [matched, if_true, EStateM.run_bind, execute_run]
            cases db (.removeFrom req.email) with
            | some what => rfl
            | none =>
                exact reply_run okFits (.unregister req unregistered) _ _
          · simp only [matched, if_false, pure_bind]
            exact reply_run noPassFits (.unregister req noPass) sender server

end Net.HandlerSpec

end PokerBackend
