import PokerBackend.Net.TcpServer

/-!
# The read loop of every connection

Between two completion handlers a connection waits for a header, or for a
body of the length that `read_msg_` announces, or reads no more.  A body
that arrives is therefore exactly what `handle` sees, and a connection which
has not been accepted yet is untouched.
-/

namespace PokerBackend.Net

open PokerBackend.Lib.Execution
open PokerBackend.Net.MesHandler
open PokerBackend.Net.Serving
open PokerBackend.Net.TcpServer

/-- The states of the read loop between two completion handlers. -/
inductive ReadPhase (connection : TcpConnection) : Prop where
  | stopped (pending : connection.reads = [])
  | header (pending : connection.reads = [.header])
  | body
      (pending : connection.reads = [.body connection.readMsg.bodyLength])

namespace ReadPhase

variable {connection : TcpConnection}

theorem create : ReadPhase .create :=
  .stopped rfl

/-- Nothing but the outstanding reads and the announced length matters. -/
theorem congr
    {other : TcpConnection} (phase : ReadPhase connection)
    (reads : other.reads = connection.reads)
    (readMsg : other.readMsg = connection.readMsg) :
    ReadPhase other := by
  cases phase with
  | stopped pending => exact .stopped (reads.trans pending)
  | header pending => exact .header (reads.trans pending)
  | body pending => exact .body (by rw [reads, readMsg, pending])

/-- One read at a time. -/
theorem reads_of_mem
    (phase : ReadPhase connection) {read : ReadOp}
    (pending : read ∈ connection.reads) :
    connection.reads = [read] := by
  cases phase with
  | stopped none =>
      rw [none] at pending
      cases pending
  | header one =>
      rw [one, List.mem_singleton] at pending
      rw [one, pending]
  | body one =>
      rw [one, List.mem_singleton] at pending
      rw [one, pending]

/-- A body that arrives has the length that `read_msg_` announces. -/
theorem bodyLength_of_mem
    (phase : ReadPhase connection) {size : Nat}
    (pending : .body size ∈ connection.reads) :
    connection.readMsg.bodyLength = size := by
  cases phase with
  | stopped none =>
      rw [none] at pending
      cases pending
  | header one =>
      rw [one, List.mem_singleton] at pending
      cases pending
  | body one =>
      rw [one, List.mem_singleton] at pending
      exact (ReadOp.body.inj pending).symm

theorem erase_of_mem
    (phase : ReadPhase connection) {read : ReadOp}
    (pending : read ∈ connection.reads) :
    connection.reads.erase read = [] := by
  rw [phase.reads_of_mem pending]
  exact List.erase_cons_head read []

theorem headerRead
    (phase : ReadPhase connection)
    (pending : .header ∈ connection.reads) (bytes : HeaderBytes) :
    ReadPhase (TcpConnection.headerRead (connection.fillHeader bytes)) := by
  have reads : (connection.fillHeader bytes).reads = [] :=
    phase.erase_of_mem pending
  by_cases accepted :
      Message.headerValue (connection.fillHeader bytes).readMsg.header ≤
        maxBodyLength
  · have decoded := TcpConnection.headerRead_of_accepted rfl accepted
    refine .body ?_
    rw [Endpoint.reads, decoded.2, decoded.1, Socket.asyncRead_reads]
    exact congrArg (· ++ _) reads
  · have decoded :=
      TcpConnection.headerRead_of_refused (Nat.lt_of_not_le accepted)
    refine .stopped ?_
    rw [Endpoint.reads, decoded]
    exact reads

theorem readFailed
    (phase : ReadPhase connection) {read : ReadOp}
    (pending : read ∈ connection.reads) :
    ReadPhase (connection.readFailed read) :=
  .stopped (phase.erase_of_mem pending)

end ReadPhase

namespace ReadLoop

/-- What holds of all connections between two completion handlers. -/
structure Tidy (server : Server) : Prop where
  unaccepted :
    ∀ conn, server.accepting ≤ conn → server.connections conn = .create
  participants_lt :
    ∀ conn ∈ server.participants, conn < server.accepting
  loop : ∀ conn, ReadPhase (server.connections conn)

theorem tidy_start : Tidy .start where
  unaccepted _ _ := rfl
  participants_lt := by
    intro conn member
    cases member
  loop _ := .create

section Step

variable
    {env : Env} {source target : Server} {event : Event}
    {out : Option Exchange}

/-- The connection which a step is about has been created before. -/
theorem Tidy.conn_lt
    (tidy : Tidy source) (change : Change env source event out target) :
    event.conn < target.accepting := by
  rcases change.accept_or_touched with (rfl | rfl) | touched
  · cases change
    exact Nat.lt_succ_self _
  · cases change
    exact Nat.lt_succ_self _
  · refine Nat.lt_of_lt_of_le ?_ change.accepting_le
    by_contra late
    exact touched (tidy.unaccepted _ (Nat.le_of_not_lt late))

/-- The read loop of the connection which a step is about. -/
theorem Tidy.loop_conn
    (tidy : Tidy source) (change : Change env source event out target) :
    ReadPhase (target.connections event.conn) := by
  cases change with
  | accepted =>
      have untouched := tidy.unaccepted source.accepting (Nat.le_refl _)
      refine .header ?_
      simp only [Event.conn, afterAccept_connections_same, untouched]
      simp [welcome, Endpoint.create]
  | acceptFailed => exact tidy.loop source.accepting
  | headerRead conn bytes pending =>
      simp only [Event.conn, afterHeader_connections_same]
      exact (tidy.loop conn).headerRead pending bytes
  | headerFailed conn pending =>
      simp only [Event.conn, afterFailure_connections_same]
      exact (tidy.loop conn).readFailed pending
  | ignored conn bytes db pending =>
      refine .header ?_
      simp [Event.conn, (tidy.loop conn).reads_of_mem pending]
  | served conn bytes db req pending =>
      refine .header ?_
      simp [Event.conn, (tidy.loop conn).reads_of_mem pending]
  | bodyFailed conn size pending =>
      simp only [Event.conn, afterFailure_connections_same]
      exact (tidy.loop conn).readFailed pending
  | writeSome conn index count =>
      exact (tidy.loop conn).congr (by simp [Event.conn]) (by simp [Event.conn])
  | written conn index =>
      exact (tidy.loop conn).congr (by simp [Event.conn]) (by simp [Event.conn])
  | writeFailed conn index =>
      exact (tidy.loop conn).congr (by simp [Event.conn]) (by simp [Event.conn])

/-- The step lemma: every callback leaves every read loop in order. -/
theorem Tidy.step
    (tidy : Tidy source) (change : Change env source event out target) :
    Tidy target where
  unaccepted := by
    intro conn late
    have earlier := tidy.conn_lt change
    rw [change.connections_of_ne (earlier.trans_le late).ne']
    exact tidy.unaccepted conn (change.accepting_le.trans late)
  participants_lt := by
    intro conn member
    by_cases same : conn = event.conn
    · rw [same]
      exact tidy.conn_lt change
    · rw [change.participants_of_ne same] at member
      exact (tidy.participants_lt conn member).trans_le
        change.accepting_le
  loop := by
    intro conn
    by_cases same : conn = event.conn
    · rw [same]
      exact tidy.loop_conn change
    · rw [change.connections_of_ne same]
      exact tidy.loop conn

end Step

/-- The run lemma. -/
theorem tidy_of_run
    {env : Env} {labels : List Label} {state : Server}
    (run : Run (TcpServer.server env) labels state) :
    Tidy state :=
  Path.preserve
    (fun _ _ _ step tidy => tidy.step (step_cases step)) run tidy_start

/-- `handle` sees exactly the body that has arrived. -/
theorem Tidy.bodyMessage_body
    {server : Server} (tidy : Tidy server) {conn : ConnId}
    {bytes : BodyBytes}
    (pending : .body bytes.1.length ∈ (server.connections conn).reads) :
    (bodyMessage server conn bytes).body = bytes.1 :=
  Message.storeBody_body ((tidy.loop conn).bodyLength_of_mem pending)

/-! ## Frames that arrive -/

/-- The header bytes of a body of the given length. -/
def headerOf (size : Nat) (fits : size ≤ maxBodyLength) : HeaderBytes :=
  ⟨CString.sprintf4d size, by
    rw [maxBodyLength_eq] at fits
    exact CString.sprintf4d_length (by omega)⟩

section Arrival

variable
    {env : Env} {source : Server} {conn : ConnId}

/-- Accepting puts the new connection before its first header. -/
theorem accept_step (env : Env) (source : Server) (tidy : Tidy source) :
    (TcpServer.server env).step source (.accepted source.accepting, none)
        (afterAccept env source) ∧
      ((afterAccept env source).connections source.accepting).reads =
        [.header] := by
  constructor
  · exact step_of_change .accepted
  · rw [afterAccept_connections_same,
      tidy.unaccepted source.accepting (Nat.le_refl _)]
    simp [welcome, Endpoint.create]

/-- A header that announces a length starts the read of that many bytes. -/
theorem header_step
    (env : Env)
    (waiting : (source.connections conn).reads = [.header])
    (size : Nat) (fits : size ≤ maxBodyLength) :
    (TcpServer.server env).step source
        (.headerRead conn (headerOf size fits), none)
        (afterHeader source conn (headerOf size fits)) ∧
      ((afterHeader source conn (headerOf size fits)).connections
        conn).reads = [.body size] := by
  have pending : .header ∈ (source.connections conn).reads := by
    rw [waiting]
    exact List.mem_singleton_self _
  constructor
  · exact step_of_change (.headerRead conn _ pending)
  · have announced :
        Message.headerValue
            ((source.connections conn).fillHeader
              (headerOf size fits)).readMsg.header = size := by
      change
        Message.headerValue
          (Message.storeHeader _ (headerOf size fits)).header = size
      rw [Message.storeHeader_header]
      exact Message.headerValue_sprintf4d fits
    rw [afterHeader_connections_same, Endpoint.reads,
      (TcpConnection.headerRead_of_accepted announced fits).2,
      Socket.asyncRead_reads]
    change (source.connections conn).reads.erase .header ++ _ = _
    rw [waiting]
    rfl

/-- The server after a frame with a request has arrived and been served. -/
def afterRequest
    (env : Env) (source : Server) (conn : ConnId) (body : BodyBytes)
    (req : Request) : Server :=
  (served env
      (afterBody (afterHeader source conn (headerOf body.1.length body.2))
        conn body)
      conn req).updateConnection conn .doReadHeader

/-- The labels of a frame with a request that arrives without SQL faults. -/
def requestLabels
    (env : Env) (source : Server) (conn : ConnId) (body : BodyBytes)
    (req : Request) : List Label :=
  [(.headerRead conn (headerOf body.1.length body.2), none),
    (.bodyRead conn body noFaults,
      some (outcome env source.table conn req).exchange)]

/-- A well-formed frame is served, and the next header is awaited. -/
theorem request_path
    (tidy : Tidy source)
    (waiting : (source.connections conn).reads = [.header])
    {body : BodyBytes} {req : Request}
    (known : decode env.rapidjson body.1 = .ok (some req)) :
    Path (TcpServer.server env) source
        (requestLabels env source conn body req)
        (afterRequest env source conn body req) ∧
      ((afterRequest env source conn body req).connections conn).reads =
        [.header] := by
  rcases header_step env waiting body.1.length body.2 with
    ⟨headerStep, reading⟩
  have tidyHeader :
      Tidy (afterHeader source conn (headerOf body.1.length body.2)) :=
    tidy.step (step_cases headerStep)
  have pending :
      .body body.1.length ∈
        ((afterHeader source conn
          (headerOf body.1.length body.2)).connections conn).reads := by
    rw [reading]
    exact List.mem_singleton_self _
  constructor
  · refine (Path.single headerStep).append (Path.single ?_)
    refine
      step_of_change (.served conn body noFaults req pending ?_ ?_)
    · rw [tidyHeader.bodyMessage_body pending]
      exact known
    · exact List.findSome?_eq_none_iff.mpr fun _ _ => rfl
  · have drained := (tidyHeader.loop conn).erase_of_mem pending
    simp only [afterRequest, Server.updateConnection_same,
      served_connections_same, TcpConnection.doReadHeader,
      TcpConnection.deliver, Endpoint.doReadHeader_reads,
      Endpoint.enqueue_reads, afterBody_connections_same,
      Endpoint.fillBody_reads, drained, List.nil_append]

end Arrival

/-! ## The first connection -/

/-- The server once its first connection has been accepted. -/
def firstConnection (env : Env) : Server :=
  afterAccept env .start

/-- The server once its first connection has announced its first body. -/
def firstBody (env : Env) (size : Nat) (fits : size ≤ maxBodyLength) :
    Server :=
  afterHeader (firstConnection env) 0 (headerOf size fits)

theorem firstConnection_run (env : Env) :
    Run (TcpServer.server env) [(.accepted 0, none)]
      (firstConnection env) :=
  Path.single (accept_step env .start tidy_start).1

theorem firstConnection_reads (env : Env) :
    ((firstConnection env).connections 0).reads = [.header] :=
  (accept_step env .start tidy_start).2

theorem firstBody_run
    (env : Env) (size : Nat) (fits : size ≤ maxBodyLength) :
    Run (TcpServer.server env)
      [(.accepted 0, none), (.headerRead 0 (headerOf size fits), none)]
      (firstBody env size fits) :=
  (firstConnection_run env).snoc
    (header_step env (firstConnection_reads env) size fits).1

theorem firstBody_pending
    (env : Env) (size : Nat) (fits : size ≤ maxBodyLength) :
    .body size ∈ ((firstBody env size fits).connections 0).reads := by
  have reading :=
    (header_step env (firstConnection_reads env) size fits).2
  rw [firstBody, reading]
  exact List.mem_singleton_self _

end ReadLoop

end PokerBackend.Net
