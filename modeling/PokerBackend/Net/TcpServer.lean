import PokerBackend.Net.Serving

/-!
# The server process as a system of completion handlers

The process runs one `io_context` on one thread.  An event is the completion
of an asynchronous operation that is outstanding: the accept, a header read, a
body read or a write, each with success or with an error; or a part of an
outstanding write leaving the socket.  `callback` is the completion handler
which then runs.  An exception that escapes from it leaves `io_context::run`
and ends the process, so a step of the system is an event whose handler
returns.

`step_cases` says once what each step can do; invariants are derived from it.
-/

namespace PokerBackend.Net.TcpServer

open PokerBackend.Api
open PokerBackend.Lib.Execution
open PokerBackend.Net.MesHandler
open PokerBackend.Net.Serving
open PokerBackend.ServerM

/-- `start_accept()`: create the object the next connection is accepted into. -/
def startAccept : ServerM Unit :=
  modify fun server => { server with accepting := server.accepting + 1 }

/-- `handle_accept(new_connection, error)` -/
def handleAccept
    (env : Env) (newConnection : ConnId) (error : Bool) :
    ServerM Unit := do
  let resp : ConnectResponse := {}
  let resp := { resp with code := 0 }
  let msg ← raise (Message.ofString (resp.toJson env.rapidjson))
  if !error then
    onConnection newConnection fun connection => connection.deliver msg
    addConnection newConnection
  startAccept

/-! ## Events -/

/-- The completion of an operation, or some bytes of a write leaving. -/
inductive Event where
  | accepted (conn : ConnId)
  | acceptFailed (conn : ConnId)
  | headerRead (conn : ConnId) (bytes : HeaderBytes)
  | headerFailed (conn : ConnId)
  /-- `db` are the exceptions of the SQL statements while it is handled. -/
  | bodyRead (conn : ConnId) (bytes : BodyBytes) (db : DbFaults)
  | bodyFailed (conn : ConnId) (size : Nat)
  | writeSome (conn : ConnId) (index count : Nat)
  | written (conn : ConnId) (index : Nat)
  | writeFailed (conn : ConnId) (index : Nat)

/-- The connection whose operation the event is about. -/
def Event.conn : Event → ConnId
  | .accepted conn | .acceptFailed conn
  | .headerRead conn _ | .headerFailed conn
  | .bodyRead conn _ _ | .bodyFailed conn _
  | .writeSome conn _ _ | .written conn _ | .writeFailed conn _ => conn

/-- The operation which the event completes is outstanding. -/
def Event.Enabled (server : Server) : Event → Prop
  | .accepted conn => conn = server.accepting
  | .acceptFailed conn => conn = server.accepting
  | .headerRead conn _ => .header ∈ (server.connections conn).reads
  | .headerFailed conn => .header ∈ (server.connections conn).reads
  | .bodyRead conn bytes _ =>
      .body bytes.1.length ∈ (server.connections conn).reads
  | .bodyFailed conn size => .body size ∈ (server.connections conn).reads
  | .writeSome conn index _ =>
      index < (server.connections conn).socket.writes.length
  | .written conn index => (server.connections conn).socket.Written index
  | .writeFailed conn index =>
      index < (server.connections conn).socket.writes.length

instance (server : Server) (event : Event) :
    Decidable (event.Enabled server) := by
  cases event <;> unfold Event.Enabled <;> infer_instance

/-- The completion handler that an event runs. -/
def callback (env : Env) : Event → ServerM (Option Exchange)
  | .accepted conn => do
      handleAccept env conn false
      return none
  | .acceptFailed conn => do
      handleAccept env conn true
      return none
  | .headerRead conn bytes => do
      onConnection conn fun connection => connection.fillHeader bytes
      onConnection conn .headerRead
      return none
  | .headerFailed conn => do
      onConnection conn fun connection => connection.readFailed .header
      delConnection conn
      return none
  | .bodyRead conn bytes db => do
      onConnection conn fun connection => connection.fillBody bytes
      let readMsg := ((← get).connections conn).readMsg
      let out ← handle env db readMsg conn
      onConnection conn .doReadHeader
      return out
  | .bodyFailed conn size => do
      onConnection conn fun connection => connection.readFailed (.body size)
      delConnection conn
      return none
  | .writeSome conn index count => do
      onConnection conn fun connection => connection.writeSome index count
      return none
  | .written conn index => do
      onConnection conn fun connection => connection.finishWrite index
      onConnection conn .messageWritten
      return none
  | .writeFailed conn index => do
      onConnection conn fun connection => connection.finishWrite index
      delConnection conn
      return none

/-- The label of a step: the event, and the exchange it led to. -/
abbrev Label := Event × Option Exchange

/-- The server process, from an empty table. -/
def server (env : Env) : System Server Label where
  start := .start
  step source label target :=
    label.1.Enabled source ∧
      (callback env label.1).run source = .ok label.2 target

/-! ## What a step does -/

/-- The message which greets an accepted connection. -/
def greeting (env : Env) : Bytes :=
  ConnectResponse.toJson env.rapidjson { code := 0 }

theorem greeting_fits (env : Env) :
    (greeting env).length ≤ maxBodyLength :=
  connectResponse_length_le env.rapidjson _

/-- A connection object that has been accepted. -/
def welcome
    (env : Env) (connection : TcpConnection) : TcpConnection :=
  (connection.deliver (Message.carrying (greeting env))).start

/-- A connection has been accepted. -/
def afterAccept (env : Env) (server : Server) : Server :=
  { server.updateConnection server.accepting (welcome env) with
    participants := insert server.accepting server.participants
    accepting := server.accepting + 1 }

/-- A header has been read and decoded. -/
def afterHeader
    (server : Server) (conn : ConnId) (bytes : HeaderBytes) : Server :=
  server.updateConnection conn fun connection =>
    TcpConnection.headerRead (connection.fillHeader bytes)

/-- A body has been read into `read_msg_`. -/
def afterBody
    (server : Server) (conn : ConnId) (bytes : BodyBytes) : Server :=
  server.updateConnection conn fun connection => connection.fillBody bytes

@[simp]
theorem afterHeader_connections_same
    (server : Server) (conn : ConnId) (bytes : HeaderBytes) :
    (afterHeader server conn bytes).connections conn =
      TcpConnection.headerRead
        ((server.connections conn).fillHeader bytes) :=
  server.updateConnection_same conn _

@[simp]
theorem afterBody_connections_same
    (server : Server) (conn : ConnId) (bytes : BodyBytes) :
    (afterBody server conn bytes).connections conn =
      (server.connections conn).fillBody bytes :=
  server.updateConnection_same conn _

theorem afterBody_connections_of_ne
    (server : Server) {conn other : ConnId} (bytes : BodyBytes)
    (different : other ≠ conn) :
    (afterBody server conn bytes).connections other =
      server.connections other :=
  server.updateConnection_of_ne different _

/-- The message a body read leaves in `read_msg_`. -/
def bodyMessage
    (server : Server) (conn : ConnId) (bytes : BodyBytes) : Message :=
  (server.connections conn).readMsg.storeBody bytes

/-- An operation of the connection has failed and it is removed. -/
def afterFailure
    (server : Server) (conn : ConnId)
    (change : TcpConnection → TcpConnection) : Server :=
  { server.updateConnection conn change with
    participants := server.participants.erase conn }

@[simp]
theorem afterFailure_connections_same
    (server : Server) (conn : ConnId)
    (change : TcpConnection → TcpConnection) :
    (afterFailure server conn change).connections conn =
      change (server.connections conn) :=
  server.updateConnection_same conn change

theorem afterFailure_connections_of_ne
    (server : Server) {conn other : ConnId} (different : other ≠ conn)
    (change : TcpConnection → TcpConnection) :
    (afterFailure server conn change).connections other =
      server.connections other :=
  server.updateConnection_of_ne different change

@[simp]
theorem afterAccept_connections_same (env : Env) (server : Server) :
    (afterAccept env server).connections server.accepting =
      welcome env (server.connections server.accepting) :=
  server.updateConnection_same server.accepting _

/-- Everything a step of the server process can do. -/
inductive Change (env : Env) (server : Server) :
    Event → Option Exchange → Server → Prop where
  | accepted :
      Change env server (.accepted server.accepting) none
        (afterAccept env server)
  | acceptFailed :
      Change env server (.acceptFailed server.accepting) none
        { server with accepting := server.accepting + 1 }
  | headerRead (conn : ConnId) (bytes : HeaderBytes)
      (pending : .header ∈ (server.connections conn).reads) :
      Change env server (.headerRead conn bytes) none
        (afterHeader server conn bytes)
  | headerFailed (conn : ConnId)
      (pending : .header ∈ (server.connections conn).reads) :
      Change env server (.headerFailed conn) none
        (afterFailure server conn fun connection =>
          connection.readFailed .header)
  | ignored (conn : ConnId) (bytes : BodyBytes) (db : DbFaults)
      (pending : .body bytes.1.length ∈ (server.connections conn).reads)
      (otherType :
        decode env.rapidjson (bodyMessage server conn bytes).body =
          .ok none) :
      Change env server (.bodyRead conn bytes db) none
        ((afterBody server conn bytes).updateConnection conn .doReadHeader)
  | served (conn : ConnId) (bytes : BodyBytes) (db : DbFaults)
      (req : Request)
      (pending : .body bytes.1.length ∈ (server.connections conn).reads)
      (known :
        decode env.rapidjson (bodyMessage server conn bytes).body =
          .ok (some req))
      (quiet :
        (outcome env server.table conn req).statements.findSome? db =
          none) :
      Change env server (.bodyRead conn bytes db)
        (some (outcome env server.table conn req).exchange)
        ((served env (afterBody server conn bytes) conn req).updateConnection
          conn .doReadHeader)
  | bodyFailed (conn : ConnId) (size : Nat)
      (pending : .body size ∈ (server.connections conn).reads) :
      Change env server (.bodyFailed conn size) none
        (afterFailure server conn fun connection =>
          connection.readFailed (.body size))
  | writeSome (conn : ConnId) (index count : Nat)
      (pending : index < (server.connections conn).socket.writes.length) :
      Change env server (.writeSome conn index count) none
        (server.updateConnection conn fun connection =>
          connection.writeSome index count)
  | written (conn : ConnId) (index : Nat)
      (finished : (server.connections conn).socket.Written index) :
      Change env server (.written conn index) none
        (server.updateConnection conn fun connection =>
          TcpConnection.messageWritten (connection.finishWrite index))
  | writeFailed (conn : ConnId) (index : Nat)
      (pending : index < (server.connections conn).socket.writes.length) :
      Change env server (.writeFailed conn index) none
        (afterFailure server conn fun connection =>
          connection.finishWrite index)

theorem handleAccept_run
    (env : Env) (conn : ConnId) (error : Bool) (state : Server) :
    (handleAccept env conn error).run state =
      .ok ()
        (if error then { state with accepting := state.accepting + 1 }
        else
          { state.updateConnection conn (welcome env) with
            participants := insert conn state.participants
            accepting := state.accepting + 1 }) := by
  have built :
      Message.ofString (ConnectResponse.toJson env.rapidjson {}) =
        .ok (Message.carrying (greeting env)) :=
    Message.ofString_eq (greeting_fits env)
  simp only [handleAccept, built, raise_bind_run]
  cases error with
  | true => rfl
  | false =>
      have twice :=
        state.updateConnection_twice conn
          (fun connection =>
            connection.deliver (Message.carrying (greeting env)))
          TcpConnection.start
      exact congrArg (fun merged : Server =>
        EStateM.Result.ok ()
          { merged with
            participants := insert conn state.participants
            accepting := state.accepting + 1 }) twice

/-- The handler of a body read, after the buffer has been filled. -/
theorem bodyRead_run
    (env : Env) (conn : ConnId) (bytes : BodyBytes) (db : DbFaults)
    (state : Server) :
    (callback env (.bodyRead conn bytes db)).run state =
      match
        (handle env db (bodyMessage state conn bytes) conn).run
          (afterBody state conn bytes)
      with
      | .error fault reached => .error fault reached
      | .ok out final =>
          .ok out (final.updateConnection conn .doReadHeader) := by
  have filled :
      ((afterBody state conn bytes).connections conn).readMsg =
        bodyMessage state conn bytes := by
    rw [afterBody, Server.updateConnection_same]
    rfl
  rw [← filled]
  simp only [callback, EStateM.run_bind, onConnection_run,
    EStateM.run_get]
  rw [← afterBody]
  cases
    (handle env db ((afterBody state conn bytes).connections conn).readMsg
      conn).run (afterBody state conn bytes) <;> rfl

theorem headerRead_run
    (env : Env) (conn : ConnId) (bytes : HeaderBytes) (state : Server) :
    (callback env (.headerRead conn bytes)).run state =
      .ok none (afterHeader state conn bytes) := by
  rw [afterHeader, ← Server.updateConnection_twice]
  rfl

theorem written_run
    (env : Env) (conn : ConnId) (index : Nat) (state : Server) :
    (callback env (.written conn index)).run state =
      .ok none
        (state.updateConnection conn fun connection =>
          TcpConnection.messageWritten (connection.finishWrite index)) := by
  rw [← Server.updateConnection_twice]
  rfl

/-- A step of the server process is one of the listed changes. -/
theorem step_cases
    {env : Env} {source target : Server} {label : Label}
    (step : (server env).step source label target) :
    Change env source label.1 label.2 target := by
  rcases label with ⟨event, out⟩
  rcases step with ⟨enabled, returned⟩
  simp only at enabled returned
  cases event with
  | accepted conn =>
      subst enabled
      rw [callback, EStateM.run_bind, handleAccept_run] at returned
      cases returned
      exact .accepted
  | acceptFailed conn =>
      subst enabled
      rw [callback, EStateM.run_bind, handleAccept_run] at returned
      cases returned
      exact .acceptFailed
  | headerRead conn bytes =>
      rw [headerRead_run] at returned
      cases returned
      exact .headerRead conn bytes enabled
  | headerFailed conn =>
      cases returned
      exact .headerFailed conn enabled
  | bodyRead conn bytes db =>
      rw [bodyRead_run] at returned
      split at returned
      · cases returned
      · next reached final handled =>
          cases returned
          rcases handle_ok_cases handled with
            ⟨otherType, rfl, rfl⟩ | ⟨req, known, quiet, rfl, rfl⟩
          · exact .ignored conn bytes db enabled otherType
          · exact .served conn bytes db req enabled known quiet
  | bodyFailed conn size =>
      cases returned
      exact .bodyFailed conn size enabled
  | writeSome conn index count =>
      cases returned
      exact .writeSome conn index count enabled
  | written conn index =>
      rw [written_run] at returned
      cases returned
      exact .written conn index enabled
  | writeFailed conn index =>
      cases returned
      exact .writeFailed conn index enabled

/-- Each of the listed changes is a step. -/
theorem step_of_change
    {env : Env} {source target : Server} {event : Event}
    {out : Option Exchange} (change : Change env source event out target) :
    (server env).step source (event, out) target := by
  cases change with
  | accepted =>
      constructor
      · rfl
      · rw [callback, EStateM.run_bind, handleAccept_run]
        rfl
  | acceptFailed =>
      constructor
      · rfl
      · rw [callback, EStateM.run_bind, handleAccept_run]
        rfl
  | headerRead conn bytes pending =>
      exact ⟨pending, headerRead_run env conn bytes source⟩
  | headerFailed conn pending => exact ⟨pending, rfl⟩
  | ignored conn bytes db pending otherType =>
      constructor
      · exact pending
      · rw [bodyRead_run, handle_run, otherType]
  | served conn bytes db req pending known quiet =>
      constructor
      · exact pending
      · have table : (afterBody source conn bytes).table = source.table := rfl
        rw [bodyRead_run, handle_run, known]
        simp only [table, quiet]
  | bodyFailed conn size pending => exact ⟨pending, rfl⟩
  | writeSome conn index count pending => exact ⟨pending, rfl⟩
  | written conn index finished =>
      exact ⟨finished, written_run env conn index source⟩
  | writeFailed conn index pending => exact ⟨pending, rfl⟩

/-- Only `handle` throws, and it leaves the server as the read left it. -/
theorem fault_cases
    {env : Env} {source reached : Server} {event : Event} {fault : Fault}
    (thrown : (callback env event).run source = .error fault reached) :
    ∃ conn bytes db,
      event = .bodyRead conn bytes db ∧
        reached = afterBody source conn bytes := by
  cases event with
  | bodyRead conn bytes db =>
      refine ⟨conn, bytes, db, rfl, ?_⟩
      rw [bodyRead_run, handle_run] at thrown
      split at thrown
      · next failed =>
          cases thrown
          split at failed
          · cases failed
            rfl
          · cases failed
          · simp only at failed
            split at failed <;> cases failed
            rfl
      · cases thrown
  | accepted conn =>
      rw [callback, EStateM.run_bind, handleAccept_run] at thrown
      cases thrown
  | acceptFailed conn =>
      rw [callback, EStateM.run_bind, handleAccept_run] at thrown
      cases thrown
  | headerRead conn bytes =>
      rw [headerRead_run] at thrown
      cases thrown
  | written conn index =>
      rw [written_run] at thrown
      cases thrown
  | _ => cases thrown

/-! ## What a step leaves alone -/

section Frame

variable
    {env : Env} {source target : Server} {event : Event}
    {out : Option Exchange}

/-- A step concerns one connection. -/
theorem Change.connections_of_ne
    (change : Change env source event out target)
    {other : ConnId} (different : other ≠ event.conn) :
    target.connections other = source.connections other := by
  cases change with
  | acceptFailed => rfl
  | ignored conn bytes =>
      exact (Server.updateConnection_of_ne _ different _).trans
        (afterBody_connections_of_ne source bytes different)
  | served conn bytes db req =>
      exact (Server.updateConnection_of_ne _ different _).trans
        ((served_connections_of_ne env _ conn req different).trans
          (afterBody_connections_of_ne source bytes different))
  | headerFailed conn =>
      exact afterFailure_connections_of_ne source different _
  | bodyFailed conn =>
      exact afterFailure_connections_of_ne source different _
  | writeFailed conn =>
      exact afterFailure_connections_of_ne source different _
  | _ => exact source.updateConnection_of_ne different _

/--
A step which is not about the object being accepted needs an outstanding
operation, so its connection is no longer as it was created.
-/
theorem Change.accept_or_touched
    (change : Change env source event out target) :
    (event = .accepted source.accepting ∨
        event = .acceptFailed source.accepting) ∨
      source.connections event.conn ≠ .create := by
  have reading :
      ∀ {conn : ConnId} {read : ReadOp},
        read ∈ (source.connections conn).reads →
          source.connections conn ≠ .create := by
    intro conn read pending untouched
    rw [untouched] at pending
    cases pending
  have writing :
      ∀ {conn : ConnId} {index : Nat},
        index < (source.connections conn).socket.writes.length →
          source.connections conn ≠ .create := by
    intro conn index pending untouched
    rw [untouched] at pending
    cases pending
  cases change with
  | accepted => exact Or.inl (Or.inl rfl)
  | acceptFailed => exact Or.inl (Or.inr rfl)
  | headerRead conn bytes pending => exact Or.inr (reading pending)
  | headerFailed conn pending => exact Or.inr (reading pending)
  | ignored conn bytes db pending => exact Or.inr (reading pending)
  | served conn bytes db req pending => exact Or.inr (reading pending)
  | bodyFailed conn size pending => exact Or.inr (reading pending)
  | writeSome conn index count pending => exact Or.inr (writing pending)
  | written conn index finished =>
      rcases finished with ⟨transfer, outstanding, _⟩
      exact
        Or.inr (writing (List.getElem?_eq_some_iff.mp outstanding).1)
  | writeFailed conn index pending => exact Or.inr (writing pending)

theorem Change.accepting_le
    (change : Change env source event out target) :
    source.accepting ≤ target.accepting := by
  cases change with
  | accepted => exact Nat.le_succ _
  | acceptFailed => exact Nat.le_succ _
  | _ => exact Nat.le_refl _

/-- The membership of another connection does not change either. -/
theorem Change.participants_of_ne
    (change : Change env source event out target)
    {other : ConnId} (different : other ≠ event.conn) :
    other ∈ target.participants ↔ other ∈ source.participants := by
  cases change with
  | accepted =>
      exact Finset.mem_insert.trans (or_iff_right different)
  | headerFailed conn =>
      exact Finset.mem_erase.trans (and_iff_right different)
  | bodyFailed conn =>
      exact Finset.mem_erase.trans (and_iff_right different)
  | writeFailed conn =>
      exact Finset.mem_erase.trans (and_iff_right different)
  | _ => exact Iff.rfl

/-- Only an exchange changes the table or the registry. -/
theorem Change.accounts
    (change : Change env source event out target) :
    (out = none ∧ target.table = source.table ∧
        target.users = source.users) ∨
      ∃ req,
        out = some (outcome env source.table event.conn req).exchange ∧
          target.table =
            (outcome env source.table event.conn req).table ∧
          target.users =
            usersAfter source.users
              (outcome env source.table event.conn req).login := by
  cases change with
  | served conn bytes db req => exact Or.inr ⟨req, rfl, rfl, rfl⟩
  | _ => exact Or.inl ⟨rfl, rfl, rfl⟩

end Frame

end PokerBackend.Net.TcpServer
