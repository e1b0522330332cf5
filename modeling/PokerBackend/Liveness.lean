import PokerBackend.Matching
import PokerBackend.Net.Backlog

/-!
# A connection on which nothing breaks

As long as no operation on a connection fails and its client does not close
it, both of its read loops and both of its write queues stay alive: there is
always a read outstanding, and a write wherever something is queued.  Whatever
happens on other connections does not matter, unless it ends the process.
-/

namespace PokerBackend.Liveness

open PokerBackend.Lib.Execution
open PokerBackend.Lib.OutputQueue
open PokerBackend.Matching
open PokerBackend.Net
open PokerBackend.Net.Backlog
open PokerBackend.Net.MesHandler
open PokerBackend.Net.Serving
open PokerBackend.Net.TcpServer
open PokerBackend.Network

/-- The event of the server is not a failure. -/
def Succeeds : TcpServer.Event → Prop
  | .acceptFailed _ | .headerFailed _ | .bodyFailed _ _
  | .writeFailed _ _ => False
  | _ => True

/-- The event of the client is not a failure, and not a call of `close`. -/
def ClientSucceeds : Client.Event → Prop
  | .close | .connectFailed | .headerFailed | .bodyFailed _
  | .writeFailed _ => False
  | _ => True

/-- The action does not break the connection. -/
def Unbroken (conn : ConnId) : Action → Prop
  | .server event _ => event.conn = conn → Succeeds event
  | .fault _ => False
  | .client other event => other = conn → ClientSucceeds event

/-! ## The two ends -/

/-- The server's end: its queue flows and, once accepted, it reads. -/
structure ServerEnd (conn : ConnId) (server : Server) : Prop where
  flows : Flowing (server.connections conn)
  reads :
    conn < server.accepting → (server.connections conn).reads ≠ []

/-- The client's end: its queue flows and, once connected, it reads. -/
structure ClientEnd (client : Client) : Prop where
  flows : Flowing client.toEndpoint
  posted : ∀ job ∈ client.posted, ∃ msg, job = .write msg
  opened : client.closed = false
  established : client.established = !client.connecting
  reads : client.connecting = false → client.reads ≠ []

theorem asyncRead_reads_ne_nil (socket : Socket) (read : ReadOp) :
    (socket.asyncRead read).reads ≠ [] := by
  simp [Socket.asyncRead]

/-- A header that is accepted starts a read. -/
theorem tcpHeaderRead_reads
    {connection : TcpConnection} {bytes : HeaderBytes}
    (accepted :
      Message.headerValue (connection.fillHeader bytes).readMsg.header ≤
        maxBodyLength) :
    (TcpConnection.headerRead (connection.fillHeader bytes)).reads ≠
      [] := by
  have decoded := TcpConnection.headerRead_of_accepted rfl accepted
  rw [Endpoint.reads, decoded.2]
  exact asyncRead_reads_ne_nil _ _

section Server

variable
    {env : Env} {source target : Server} {event : Event}
    {out : Option Exchange} {conn : ConnId}

/-- Only the accept of a connection makes it an accepted one. -/
theorem lt_accepting_of_ne
    (change : Change env source event out target)
    (different : event.conn ≠ conn) (early : conn < target.accepting) :
    conn < source.accepting := by
  cases change with
  | accepted =>
      exact Nat.lt_of_le_of_ne (Nat.le_of_lt_succ early)
        (Ne.symm different)
  | acceptFailed =>
      exact Nat.lt_of_le_of_ne (Nat.le_of_lt_succ early)
        (Ne.symm different)
  | _ => exact early

/-- A step of the server keeps the end of every connection alive. -/
theorem ServerEnd.step
    (alive : ServerEnd conn source)
    (change : Change env source event out target)
    (succeeds : event.conn = conn → Succeeds event)
    (accepted :
      ∀ bytes, event = .headerRead conn bytes →
        Message.headerValue
            ((source.connections conn).fillHeader bytes).readMsg.header ≤
          maxBodyLength) :
    ServerEnd conn target := by
  by_cases same : event.conn = conn
  · subst conn
    have fine := succeeds rfl
    cases change with
    | accepted =>
        simp only [Event.conn] at alive ⊢
        constructor
        · rw [afterAccept_connections_same]
          exact (alive.flows.enqueue _).congr rfl
        · intro _
          rw [afterAccept_connections_same]
          exact asyncRead_reads_ne_nil _ _
    | headerRead conn bytes pending =>
        simp only [Event.conn] at alive accepted ⊢
        constructor
        · rw [afterHeader_connections_same]
          exact alive.flows.congr (TcpConnection.outbox_headerRead _)
        · intro _
          rw [afterHeader_connections_same]
          exact tcpHeaderRead_reads (accepted bytes rfl)
    | ignored conn bytes db pending =>
        simp only [Event.conn] at alive ⊢
        constructor
        · rw [Server.updateConnection_same, afterBody_connections_same]
          exact alive.flows.congr rfl
        · intro _
          rw [Server.updateConnection_same]
          exact asyncRead_reads_ne_nil _ _
    | served conn bytes db req pending =>
        simp only [Event.conn] at alive ⊢
        constructor
        · rw [Server.updateConnection_same, served_connections_same,
            afterBody_connections_same]
          have filled : Flowing ((source.connections conn).fillBody bytes) :=
            alive.flows.congr rfl
          exact (filled.enqueue _).congr rfl
        · intro _
          rw [Server.updateConnection_same]
          exact asyncRead_reads_ne_nil _ _
    | writeSome conn index count pending =>
        simp only [Event.conn] at alive ⊢
        constructor
        · rw [Server.updateConnection_same]
          exact alive.flows.writeSome index count
        · intro early
          rw [Server.updateConnection_same, Endpoint.writeSome_reads]
          exact alive.reads early
    | written conn index finished =>
        simp only [Event.conn] at alive ⊢
        constructor
        · rw [Server.updateConnection_same]
          exact alive.flows.written finished
        · intro early
          rw [Server.updateConnection_same, Endpoint.writeNext_reads,
            Endpoint.finishWrite_reads]
          exact alive.reads early
    | acceptFailed => exact absurd fine id
    | headerFailed => exact absurd fine id
    | bodyFailed => exact absurd fine id
    | writeFailed => exact absurd fine id
  · have untouched := change.connections_of_ne (Ne.symm same)
    constructor
    · rw [untouched]
      exact alive.flows
    · intro early
      rw [untouched]
      exact alive.reads (lt_accepting_of_ne change same early)

end Server

section Client

variable {client : Client} {event : Client.Event}

/-- A header that is accepted does not close the socket of the client. -/
theorem headerRead_opened
    (accepted :
      Message.headerValue client.readMsg.header ≤ maxBodyLength) :
    client.headerRead.closed = client.closed ∧
      client.headerRead.established = client.established := by
  rcases Endpoint.decodeHeader_of_accepted rfl accepted with ⟨verdict, _⟩
  rw [Client.headerRead, if_pos verdict]
  exact ⟨rfl, rfl⟩

/-- An event which is no failure keeps the end of the client alive. -/
theorem ClientEnd.step
    (alive : ClientEnd client)
    (enabled : event.Enabled client) (succeeds : ClientSucceeds event)
    (accepted :
      ∀ bytes, event = .headerRead bytes →
        Message.headerValue (client.fillHeader bytes).readMsg.header ≤
          maxBodyLength) :
    ClientEnd (client.apply event) := by
  cases event with
  | write msg =>
      refine
        ⟨alive.flows, ?_, alive.opened, alive.established, alive.reads⟩
      intro job member
      rcases List.mem_append.mp member with earlier | last
      · exact alive.posted job earlier
      · exact ⟨msg, List.mem_singleton.mp last⟩
  | readMessage msg =>
      exact
        ⟨alive.flows, alive.posted, alive.opened, alive.established,
          alive.reads⟩
  | posted job =>
      obtain ⟨rest, waiting⟩ : ∃ rest, client.posted = job :: rest :=
        List.head?_eq_some_iff.mp enabled
      rcases alive.posted job (by simp [waiting]) with ⟨msg, rfl⟩
      refine
        ⟨alive.flows.enqueue msg, ?_, alive.opened, alive.established, ?_⟩
      · intro job member
        apply alive.posted job
        exact List.mem_of_mem_tail member
      · intro connected
        change (client.enqueue msg).reads ≠ []
        rw [Endpoint.enqueue_reads]
        exact alive.reads connected
  | connected =>
      refine ⟨alive.flows.congr rfl, alive.posted, alive.opened, rfl, ?_⟩
      intro _
      exact asyncRead_reads_ne_nil _ _
  | headerRead bytes =>
      let arrived := client.onEndpoint fun endpoint =>
        endpoint.fillHeader bytes
      have value :
          Message.headerValue arrived.readMsg.header ≤ maxBodyLength :=
        accepted bytes rfl
      rcases headerRead_opened value with ⟨closed, established⟩
      have endpoint := arrived.headerRead_toEndpoint
      refine ⟨?_, ?_, closed.trans alive.opened, ?_, ?_⟩
      · change Flowing arrived.headerRead.toEndpoint
        rw [endpoint]
        exact alive.flows.congr (TcpConnection.outbox_headerRead _)
      · change ∀ job ∈ arrived.headerRead.posted, _
        rw [Client.headerRead_posted]
        exact alive.posted
      · change arrived.headerRead.established =
          !arrived.headerRead.connecting
        rw [established, Client.headerRead_connecting]
        exact alive.established
      · intro _
        change arrived.headerRead.toEndpoint.reads ≠ []
        rw [endpoint]
        exact tcpHeaderRead_reads value
  | bodyRead bytes =>
      refine
        ⟨alive.flows.congr rfl, alive.posted, alive.opened,
          alive.established, ?_⟩
      intro _
      exact asyncRead_reads_ne_nil _ _
  | writeSome index count =>
      refine
        ⟨alive.flows.writeSome index count, alive.posted, alive.opened,
          alive.established, ?_⟩
      intro connected
      change (client.writeSome index count).reads ≠ []
      rw [Endpoint.writeSome_reads]
      exact alive.reads connected
  | written index =>
      refine
        ⟨alive.flows.written enabled, alive.posted, alive.opened,
          alive.established, ?_⟩
      intro connected
      change (client.finishWrite index).writeNext.reads ≠ []
      rw [Endpoint.writeNext_reads, Endpoint.finishWrite_reads]
      exact alive.reads connected
  | close => exact absurd succeeds id
  | connectFailed => exact absurd succeeds id
  | headerFailed => exact absurd succeeds id
  | bodyFailed => exact absurd succeeds id
  | writeFailed => exact absurd succeeds id

end Client

/-! ## Both ends in the network -/

/-- What keeps the messages of a connection moving. -/
structure Live (conn : ConnId) (network : Network) : Prop where
  running : network.running = true
  carried :
    Carried (network.server.connections conn) (network.clients conn)
  server : ServerEnd conn network.server
  client : ClientEnd (network.clients conn)

theorem live_start (conn : ConnId) : Live conn .start where
  running := rfl
  carried := ⟨List.prefix_refl _, List.prefix_refl _⟩
  server := ⟨.create, fun early => absurd early (Nat.not_lt_zero _)⟩
  client :=
    ⟨.create, by simp [start, Client.create], rfl, rfl,
      by simp [start, Client.create]⟩

section Run

variable {env : Env} {actions : List Action} {network : Network}

/-- The server accepts every header that a client sends. -/
theorem server_header_accepted
    (run : Run (system env) actions network)
    (running : network.running = true) {conn : ConnId}
    {bytes : HeaderBytes} {out : Option Exchange} {reached : Server}
    (change :
      Change env network.server (.headerRead conn bytes) out reached)
    (carried :
      Carried (reached.connections conn) (network.clients conn)) :
    Message.headerValue
        ((network.server.connections conn).fillHeader bytes).readMsg.header ≤
      maxBodyLength := by
  rcases (heard_of_run run conn).running running with ⟨_, _, _, reading⟩
  cases change with
  | headerRead conn bytes pending =>
      have seen := carried.1
      rw [afterHeader_connections_same, TcpConnection.headerRead_received]
        at seen
      exact
        reading.header_accepted (written_encoded run conn) pending
          (seen.trans (wire_of_client run conn))

/-- A client accepts every header that the server sends. -/
theorem client_header_accepted
    (run : Run (system env) actions network) {conn : ConnId}
    {bytes : HeaderBytes}
    (enabled :
      Client.Event.Enabled (network.clients conn) (.headerRead bytes))
    (carried :
      Carried (network.server.connections conn)
        ((network.clients conn).apply (.headerRead bytes))) :
    Message.headerValue
        ((network.clients conn).fillHeader bytes).readMsg.header ≤
      maxBodyLength := by
  rcases (aligned_of_run run conn).reading with ⟨_, _, reading⟩
  have seen := carried.2
  rw [Client.apply, Client.headerRead_received] at seen
  exact
    reading.header_accepted
      (Delivery.delivered_spec (server_run run) conn).1 enabled
      (seen.trans (wire_of_connection run conn))

/-- The run lemma. -/
theorem live_of_run
    (run : Run (system env) actions network) {conn : ConnId}
    (unbroken : ∀ action ∈ actions, Unbroken conn action) :
    Live conn network := by
  revert unbroken
  refine Run.invariant
    (motive := fun actions network =>
      (∀ action ∈ actions, Unbroken conn action) → Live conn network)
    (fun _ => live_start conn) ?_ run
  intro actions source action target path move earlier unbroken
  have live := earlier fun action member =>
    unbroken action (List.mem_append_left _ member)
  have fine := unbroken action (by simp)
  cases move with
  | @server event out reached running step carried =>
      have change := step_cases step
      refine ⟨live.running, ?_, ?_, live.client⟩
      · by_cases same : event.conn = conn
        · rw [← same]
          exact carried
        · rw [onServer_server, change.connections_of_ne (Ne.symm same)]
          exact live.carried
      · apply live.server.step change fine
        rintro bytes rfl
        exact server_header_accepted path live.running change carried
  | fault => exact absurd fine id
  | @client other event enabled sendable carried =>
      by_cases same : other = conn
      · subst other
        refine ⟨live.running, ?_, live.server, ?_⟩
        · rw [onClient_same]
          exact carried
        · rw [onClient_same]
          apply live.client.step enabled (fine rfl)
          rintro bytes rfl
          exact client_header_accepted path enabled carried
      · have untouched := source.onClient_of_ne event (Ne.symm same)
        refine ⟨live.running, ?_, live.server, ?_⟩
        · rw [untouched]
          exact live.carried
        · rw [untouched]
          exact live.client

end Run

end PokerBackend.Liveness
