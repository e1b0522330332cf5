import PokerBackend.Lib.Progress
import PokerBackend.Linearizable
import PokerBackend.Liveness

/-!
# Every request is answered in the end

A connection on which nothing breaks has a potential which its own steps use
up and the steps of other connections leave alone.  So between two calls of
its client it takes only so many steps, in whatever order the two
`io_context`s and the application take theirs; and when none is left to take,
the server has handled everything the client has written and the client has
returned every response.  An exception that escapes a handler ends the server
for all connections; the results are about the time before that.
-/

namespace PokerBackend.Completion

open PokerBackend.Lib.Execution
open PokerBackend.Lib.FrameStream
open PokerBackend.Lib.OutputQueue
open PokerBackend.Linearizable
open PokerBackend.Liveness
open PokerBackend.Matching
open PokerBackend.Net
open PokerBackend.Net.Backlog
open PokerBackend.Net.MesHandler
open PokerBackend.Net.ReadLoop
open PokerBackend.Net.Serving
open PokerBackend.Net.TcpServer
open PokerBackend.Network

/-! ## The steps a connection takes by itself -/

/-- The action is about the connection. -/
def concerns (conn : ConnId) : Action → Bool
  | .server event _ => event.conn = conn
  | .fault event => event.conn = conn
  | .client other _ => other = conn

/--
The action is the completion of an operation, a posted handler or the return
of a message.
-/
def Spontaneous : Action → Prop
  | .server event _ => Succeeds event
  | .fault _ => False
  | .client _ (.write _) => False
  | .client _ event => ClientSucceeds event

/-- Some bytes of a write leave. -/
def isTransfer : Action → Bool
  | .server (.writeSome _ _ _) _ => true
  | .client _ (.writeSome _ _) => true
  | _ => false

/-- What both ends of a connection have put on the wire. -/
def wires (conn : ConnId) (network : Network) : Bytes × Bytes :=
  ((network.server.connections conn).socket.wire,
    (network.clients conn).socket.wire)

/-- A step of the connection; a transfer moves at least one byte. -/
structure Own
    (conn : ConnId) (source : Network) (action : Action)
    (target : Network) : Prop where
  concerns : concerns conn action = true
  spontaneous : Spontaneous action
  moves : isTransfer action = true → wires conn target ≠ wires conn source

/--
A step of the connection, or a step of another one which does not end the
server.
-/
def Undisturbed
    (conn : ConnId) (source : Network) (action : Action)
    (target : Network) : Prop :=
  Own conn source action target ∨
    concerns conn action = false ∧ ∀ event, action ≠ .fault event

/-! ## The potential -/

/-- The prices of bytes on the way to the client. -/
def answerPrices : Prices := ⟨1, 2⟩

/-- An awaited request is worth a response, and four bytes are worth it. -/
def requestPrices : Prices := ⟨1025, 4098⟩

/-- The cost of a handler that is still posted. -/
def postedCost : Posted → Nat
  | .write msg => 1026 * msg.frame.length + 2
  | .close => 1

/--
What is left to do between two ends: what the one sends and the other reads,
and the reverse.
-/
def between (out back : Prices) (near far : Endpoint) : Nat :=
  cost out near far + cost back far near

theorem between_comm (out back : Prices) (near far : Endpoint) :
    between out back near far = between back out far near :=
  Nat.add_comm _ _

/-- What is left to do at one client, and between it and the server. -/
def remaining (client : Client) (connection : Endpoint) : Nat :=
  client.connecting.toNat + (client.posted.map postedCost).sum +
    client.readMessages.length +
    between requestPrices answerPrices client.toEndpoint connection

/-- A connection which is still to be accepted costs its greeting. -/
def unaccepted (conn accepting : ConnId) : Nat :=
  if conn < accepting then 0 else 4098

/-- What is left to do on a connection. -/
def potential (conn : ConnId) (network : Network) : Nat :=
  remaining (network.clients conn) (network.server.connections conn) +
    unaccepted conn network.server.accepting

/-! ## What a step of one end uses up -/

section Near

variable {out back : Prices} {near far : Endpoint}

theorem between_doReadHeader :
    between out back near.doReadHeader far = between out back near far := by
  have sends := @cost_congr out near far near.doReadHeader rfl
  have reads :=
    @cost_reader_congr back far near near.doReadHeader
      (bodies_doReadHeader near) rfl
  rw [between, between, sends, reads]

theorem between_enqueue (flows : Flowing near) (msg : Message) :
    between out back (near.enqueue msg) far =
      between out back near far +
        (out.byte + 1) * msg.frame.length + 1 := by
  have sends := cost_enqueue out far flows msg
  have reads :=
    @cost_reader_congr back far near (near.enqueue msg)
      (congrArg _ (near.enqueue_reads msg)) (near.enqueue_received msg)
  rw [between, between, sends, reads]
  omega

theorem between_headerRead
    {bytes : HeaderBytes} (cheap : back.body < back.byte * 4)
    (seen :
      (TcpConnection.headerRead
          (near.fillHeader bytes)).socket.received.length ≤
        far.socket.wire.length) :
    between out back (TcpConnection.headerRead (near.fillHeader bytes))
        far <
      between out back near far := by
  let next := TcpConnection.headerRead (near.fillHeader bytes)
  have sends :=
    @cost_congr out near far next (TcpConnection.outbox_headerRead _)
  have reads :=
    @cost_received back far near next bytes.1
      (TcpConnection.headerRead_received _) seen
  have bodies :
      next.reads.countP isBody ≤ near.reads.countP isBody + 1 :=
    bodies_headerRead near bytes
  have awaited := Nat.mul_le_mul_left back.body bodies
  have four : bytes.1.length = 4 := bytes.2
  change cost _ next _ + cost _ _ next < _
  rw [between, sends]
  rw [four] at reads
  rw [Nat.mul_add] at awaited
  omega

/-- A body that has been read is paid for. -/
theorem between_fillBody
    {bytes : BodyBytes} (pending : .body bytes.1.length ∈ near.reads)
    (seen :
      (near.fillBody bytes).socket.received.length ≤
        far.socket.wire.length) :
    between out back (near.fillBody bytes) far + back.body ≤
      between out back near far := by
  have sends := @cost_congr out near far (near.fillBody bytes) rfl
  have reads :=
    @cost_received back far near (near.fillBody bytes) bytes.1 rfl seen
  rw [Endpoint.fillBody_reads, ← bodies_erase pending, Nat.mul_add]
    at reads
  rw [between, between, sends]
  omega

theorem between_writeSome
    (flows : Flowing near) (index count : Nat)
    (received :
      far.socket.received.length ≤ near.socket.wire.length)
    (moves :
      (near.writeSome index count).socket.wire ≠ near.socket.wire) :
    between out back (near.writeSome index count) far <
      between out back near far := by
  have sends := cost_writeSome out far flows index count received moves
  have reads :=
    @cost_reader_congr back far near (near.writeSome index count)
      (congrArg _ (near.writeSome_reads index count))
      (near.writeSome_received index count)
  rw [between, between, reads]
  omega

theorem between_written
    (flows : Flowing near) {index : Nat}
    (finished : near.socket.Written index) :
    between out back (near.finishWrite index).writeNext far <
      between out back near far := by
  have sends := cost_written out far flows finished
  have reads :=
    @cost_reader_congr back far near (near.finishWrite index).writeNext
      (congrArg _ (near.finishWrite index).writeNext_reads)
      (near.finishWrite index).writeNext_received
  rw [between, between, reads]
  omega

end Near

/-- A response costs less than the request that has been awaited. -/
theorem between_deliver
    {connection client : Endpoint} (flows : Flowing connection)
    (msg : Message) :
    between answerPrices requestPrices (connection.enqueue msg) client <
      between answerPrices requestPrices connection client + 4098 := by
  have frame := frame_length_le msg
  rw [between_enqueue flows msg]
  simp only [answerPrices]
  omega

/--
A step of the server's end uses some of the potential up; what greets an
accepted connection is paid for by the accept.
-/
theorem server_spends
    {env : Env} {source target : Server} {event : Event}
    {out : Option Exchange} {client : Endpoint}
    (change : Change env source event out target)
    (succeeds : Succeeds event)
    (flows : Flowing (source.connections event.conn))
    (received :
      client.socket.received.length ≤
        (source.connections event.conn).socket.wire.length)
    (seen :
      (target.connections event.conn).socket.received.length ≤
        client.socket.wire.length)
    (moves :
      ∀ conn index count, event = .writeSome conn index count →
        (target.connections event.conn).socket.wire ≠
          (source.connections event.conn).socket.wire) :
    between answerPrices requestPrices (target.connections event.conn)
          client +
        unaccepted event.conn target.accepting <
      between answerPrices requestPrices (source.connections event.conn)
          client +
        unaccepted event.conn source.accepting := by
  cases change with
  | accepted =>
      have paid :
          unaccepted source.accepting (source.accepting + 1) = 0 :=
        if_pos (Nat.lt_succ_self _)
      have due : unaccepted source.accepting source.accepting = 4098 :=
        if_neg (Nat.lt_irrefl _)
      simp only [Event.conn, afterAccept_connections_same] at flows ⊢
      rw [welcome, TcpConnection.start, between_doReadHeader, due]
      exact Nat.lt_of_le_of_lt (Nat.le_of_eq (congrArg _ paid))
        (between_deliver flows _)
  | headerRead conn bytes pending =>
      simp only [Event.conn, afterHeader_connections_same] at seen ⊢
      exact Nat.add_lt_add_right (between_headerRead (by decide) seen) _
  | ignored conn bytes db pending =>
      simp only [Event.conn, Server.updateConnection_same,
        afterBody_connections_same] at seen ⊢
      rw [TcpConnection.doReadHeader, between_doReadHeader]
      apply Nat.add_lt_add_right
      exact
        Nat.lt_of_lt_of_le (Nat.lt_add_of_pos_right (by decide))
          (between_fillBody pending seen)
  | served conn bytes db req pending =>
      simp only [Event.conn, Server.updateConnection_same,
        served_connections_same, afterBody_connections_same]
        at flows seen ⊢
      have filled :
          Flowing ((source.connections conn).fillBody bytes) :=
        flows.congr rfl
      have arrived :
          ((source.connections conn).fillBody bytes).socket.received.length ≤
            client.socket.wire.length := by
        simpa [Endpoint.doReadHeader, Socket.asyncRead] using seen
      have paid :=
        @between_fillBody answerPrices requestPrices _ _ _ pending arrived
      rw [TcpConnection.doReadHeader, between_doReadHeader]
      apply Nat.add_lt_add_right
      exact Nat.lt_of_lt_of_le (between_deliver filled _) paid
  | writeSome conn index count pending =>
      have moved := moves conn index count rfl
      simp only [Event.conn, Server.updateConnection_same]
        at flows received moved ⊢
      apply Nat.add_lt_add_right
      exact between_writeSome flows index count received moved
  | written conn index finished =>
      simp only [Event.conn, Server.updateConnection_same] at flows ⊢
      apply Nat.add_lt_add_right
      exact between_written flows finished
  | acceptFailed => exact absurd succeeds id
  | headerFailed => exact absurd succeeds id
  | bodyFailed => exact absurd succeeds id
  | writeFailed => exact absurd succeeds id

/-- A step of the client's end uses some of the potential up. -/
theorem client_spends
    {client : Client} {connection : Endpoint} {event : Client.Event}
    (alive : ClientEnd client) (enabled : event.Enabled client)
    (succeeds : ClientSucceeds event)
    (uncalled : ∀ msg, event ≠ .write msg)
    (received :
      connection.socket.received.length ≤ client.socket.wire.length)
    (seen :
      (client.apply event).socket.received.length ≤
        connection.socket.wire.length)
    (moves :
      ∀ index count, event = .writeSome index count →
        (client.apply event).socket.wire ≠ client.socket.wire) :
    remaining (client.apply event) connection <
      remaining client connection := by
  have flows := alive.flows
  cases event with
  | write msg => exact absurd rfl (uncalled msg)
  | readMessage msg =>
      obtain ⟨rest, waiting⟩ :
          ∃ rest, client.readMessages = msg :: rest :=
        List.head?_eq_some_iff.mp enabled
      simp only [remaining, Client.apply, waiting, List.tail_cons,
        List.length_cons]
      omega
  | posted job =>
      obtain ⟨rest, waiting⟩ : ∃ rest, client.posted = job :: rest :=
        List.head?_eq_some_iff.mp enabled
      rcases alive.posted job (by simp [waiting]) with ⟨msg, rfl⟩
      have queued :
          between requestPrices answerPrices
              (client.toEndpoint.enqueue msg) connection =
            between requestPrices answerPrices client.toEndpoint connection +
              1026 * msg.frame.length + 1 :=
        between_enqueue flows msg
      simp only [remaining, Client.apply, waiting, List.tail_cons,
        Client.runPosted, Client.onEndpoint, queued, List.map_cons,
        List.sum_cons, postedCost]
      omega
  | connected =>
      have connecting : client.connecting = true := enabled
      simp only [remaining, Client.apply, Client.connected,
        Client.onEndpoint, between_doReadHeader, connecting]
      simp
  | headerRead bytes =>
      let arrived := client.onEndpoint fun endpoint =>
        endpoint.fillHeader bytes
      have endpoint := arrived.headerRead_toEndpoint
      change arrived.headerRead.socket.received.length ≤ _ at seen
      rw [endpoint] at seen
      have spent :=
        @between_headerRead requestPrices answerPrices _ connection bytes
          (by decide) seen
      change remaining arrived.headerRead connection < _
      simp only [remaining, endpoint, Client.headerRead_connecting,
        Client.headerRead_posted, Client.headerRead_readMessages]
      exact Nat.add_lt_add_left spent _
  | bodyRead bytes =>
      have paid :
          between requestPrices answerPrices
              (client.toEndpoint.fillBody bytes) connection + 2 ≤
            between requestPrices answerPrices client.toEndpoint connection :=
        between_fillBody enabled seen
      simp only [remaining, Client.apply, Client.bodyRead,
        Client.onEndpoint, between_doReadHeader, List.length_append,
        List.length_singleton]
      omega
  | writeSome index count =>
      have moved := moves index count rfl
      have spent :=
        @between_writeSome requestPrices answerPrices _ connection flows
          index count received moved
      simp only [remaining, Client.apply, Client.onEndpoint]
      omega
  | written index =>
      have spent :=
        @between_written requestPrices answerPrices _ connection flows
          index enabled
      simp only [remaining, Client.apply, Client.onEndpoint,
        Client.messageWritten]
      omega
  | close => exact absurd succeeds id
  | connectFailed => exact absurd succeeds id
  | headerFailed => exact absurd succeeds id
  | bodyFailed => exact absurd succeeds id
  | writeFailed => exact absurd succeeds id

/-! ## The potential of a connection -/

section Network

variable
    {env : Env} {conn : ConnId} {source target : Network} {action : Action}

/-- The steps of the connection use the potential up. -/
theorem own_spends
    (live : Live conn source) (move : Move env source action target)
    (own : Own conn source action target) :
    potential conn target < potential conn source := by
  rcases own with ⟨concerned, spontaneous, moves⟩
  cases move with
  | @server event out reached running step carried =>
      obtain rfl : event.conn = conn := of_decide_eq_true concerned
      have change : Change env source.server event out reached :=
        step_cases step
      have spent :=
        server_spends change spontaneous live.server.flows
          live.carried.2.length_le carried.1.length_le
          (by
            rintro other index count rfl same
            apply moves rfl
            exact congrArg (fun wire => (wire, _)) same)
      rw [between_comm answerPrices, between_comm answerPrices] at spent
      simp only [potential, remaining, onServer]
      omega
  | fault => exact absurd spontaneous id
  | @client other event enabled sendable carried =>
      obtain rfl : other = conn := of_decide_eq_true concerned
      have succeeds : ClientSucceeds event := by
        cases event with
        | write => exact trivial
        | _ => exact spontaneous
      have spent :=
        client_spends live.client enabled succeeds
          (by
            rintro msg rfl
            exact spontaneous)
          live.carried.1.length_le carried.2.length_le
          (by
            rintro index count rfl same
            apply moves rfl
            rw [wires, wires, onClient_same]
            exact congrArg (fun wire => (_, wire)) same)
      rw [potential, potential, onClient_same]
      exact Nat.add_lt_add_right spent _

/-- The steps of other connections leave it alone. -/
theorem potential_of_other
    (move : Move env source action target)
    (elsewhere : concerns conn action = false) :
    potential conn target = potential conn source := by
  cases move with
  | @server event out reached running step carried =>
      have different : event.conn ≠ conn := of_decide_eq_false elsewhere
      have change : Change env source.server event out reached :=
        step_cases step
      have accepting :
          conn < reached.accepting ↔ conn < source.server.accepting := by
        constructor
        · exact lt_accepting_of_ne change different
        · intro early
          exact Nat.lt_of_lt_of_le early change.accepting_le
      simp only [potential, onServer, unaccepted, accepting,
        change.connections_of_ne (Ne.symm different)]
  | fault => rfl
  | @client other event enabled sendable carried =>
      have different : other ≠ conn := of_decide_eq_false elsewhere
      rw [potential, potential,
        source.onClient_of_ne event (Ne.symm different)]
      rfl

/-- A step of the connection does not break it. -/
theorem Own.unbroken (own : Own conn source action target) :
    Unbroken conn action := by
  rcases own with ⟨_, spontaneous, _⟩
  cases action with
  | server event out => exact fun _ => spontaneous
  | fault event => exact spontaneous
  | client other event =>
      intro _
      cases event with
      | write => exact trivial
      | _ => exact spontaneous

theorem Undisturbed.unbroken
    (undisturbed : Undisturbed conn source action target) :
    Unbroken conn action := by
  rcases undisturbed with own | ⟨elsewhere, running⟩
  · exact own.unbroken
  · cases action with
    | server event out =>
        intro same
        exact absurd same (of_decide_eq_false elsewhere)
    | fault event => exact absurd rfl (running event)
    | client other event =>
        intro same
        exact absurd same (of_decide_eq_false elsewhere)

/-- The client writes nothing more meanwhile. -/
theorem Undisturbed.written
    (undisturbed : Undisturbed conn source action target)
    (actions : List Action) :
    written conn (actions ++ [action]) = written conn actions := by
  cases action with
  | server event out => exact written_server conn actions event out
  | fault event => exact written_fault conn actions event
  | client other event =>
      by_cases same : other = conn
      · subst other
        rcases undisturbed with own | ⟨elsewhere, _⟩
        · rw [Network.written, Network.written, clientEvents_client_same,
            ClientRun.written, ClientRun.written, List.filterMap_append]
          have spontaneous := own.spontaneous
          cases event with
          | write msg => exact absurd spontaneous id
          | _ => exact List.append_nil _
        · exact absurd rfl (of_decide_eq_false elsewhere)
      · rw [Network.written, Network.written,
          clientEvents_client_of_ne actions event same]

end Network

/-! ## Where a connection can go on -/

/-- A body in which `handle` finds no error. -/
def Readable (env : Env) (body : Bytes) : Prop :=
  ∃ read, decode env.rapidjson body = .ok read

/-- The connection has a step to take. -/
def CanStep (env : Env) (conn : ConnId) (network : Network) : Prop :=
  ∃ action target,
    Move env network action target ∧ Own conn network action target

section CanStep

variable
    {env : Env} {conn : ConnId} {actions : List Action} {network : Network}

/-- A step of the server's end that moves no bytes of a write. -/
theorem canStep_server
    (live : Live conn network) {event : Event} {out : Option Exchange}
    {reached : Server}
    (change : Change env network.server event out reached)
    (here : event.conn = conn) (succeeds : Succeeds event)
    (quiet : isTransfer (.server event out) = false)
    (seen :
      (reached.connections conn).socket.received <+:
        (network.clients conn).socket.wire)
    (wire :
      (network.server.connections conn).socket.wire =
        (reached.connections conn).socket.wire) :
    CanStep env conn network := by
  subst conn
  refine
    ⟨.server event out, network.onServer reached,
      server_step network live.running change ⟨seen, ?_⟩, ?_⟩
  · rw [← wire]
    exact live.carried.2
  · refine ⟨decide_eq_true rfl, succeeds, ?_⟩
    intro transfer
    rw [quiet] at transfer
    cases transfer

/-- A step of the client's end that moves no bytes of a write. -/
theorem canStep_client
    (live : Live conn network) {event : Client.Event}
    (enabled : event.Enabled (network.clients conn))
    (spontaneous : Spontaneous (.client conn event))
    (sendable : Sendable event)
    (quiet : isTransfer (.client conn event) = false)
    (seen :
      ((network.clients conn).apply event).socket.received <+:
        (network.server.connections conn).socket.wire)
    (wire :
      (network.clients conn).socket.wire =
        ((network.clients conn).apply event).socket.wire) :
    CanStep env conn network := by
  refine
    ⟨.client conn event, network.onClient conn event,
      client_step env network conn event enabled sendable ⟨?_, seen⟩, ?_⟩
  · rw [← wire]
    exact live.carried.1
  · refine ⟨decide_eq_true rfl, spontaneous, ?_⟩
    intro transfer
    rw [quiet] at transfer
    cases transfer

/-- What is posted can run, what is connecting can connect. -/
theorem canStep_of_posted
    (live : Live conn network)
    (waiting : (network.clients conn).posted ≠ []) :
    CanStep env conn network := by
  obtain ⟨job, rest, posted⟩ := List.exists_cons_of_ne_nil waiting
  rcases live.client.posted job (by simp [posted]) with ⟨msg, rfl⟩
  have received :=
    (network.clients conn).toEndpoint.enqueue_received msg
  refine
    @canStep_client _ _ _ live (.posted (.write msg)) ?_ trivial trivial rfl
      ?_ (wire_enqueue _ msg).symm
  · exact List.head?_eq_some_iff.mpr ⟨rest, posted⟩
  · change (Endpoint.enqueue _ msg).socket.received <+: _
    rw [received]
    exact live.carried.2

theorem canStep_of_connecting
    (live : Live conn network)
    (connecting : (network.clients conn).connecting = true) :
    CanStep env conn network :=
  @canStep_client _ _ _ live .connected connecting trivial trivial rfl
    live.carried.2 rfl

theorem canStep_of_returnable
    (live : Live conn network)
    (waiting : (network.clients conn).readMessages ≠ []) :
    CanStep env conn network := by
  obtain ⟨msg, rest, queued⟩ := List.exists_cons_of_ne_nil waiting
  refine
    @canStep_client _ _ _ live (.readMessage msg) ?_ trivial trivial rfl
      live.carried.2 rfl
  exact List.head?_eq_some_iff.mpr ⟨rest, queued⟩

/-- A client that has something queued can send. -/
theorem canStep_of_request
    (live : Live conn network)
    (connected : (network.clients conn).connecting = false)
    (waiting : (network.clients conn).writeMsgs ≠ []) :
    CanStep env conn network := by
  have established : (network.clients conn).established = true := by
    rw [live.client.established, connected]
    rfl
  rcases live.client.flows.next waiting with
    finished | ⟨busy, count, moves⟩
  · refine
      @canStep_client _ _ _ live (.written 0) finished trivial trivial rfl
        ?_ (wire_writeNext _ 0).symm
    change (Endpoint.writeNext _).socket.received <+: _
    rw [Endpoint.writeNext_received]
    exact live.carried.2
  · have longer := wire_writeSome (network.clients conn).toEndpoint 0 count
    refine
      ⟨.client conn (.writeSome 0 count), _,
        client_step env network conn (.writeSome 0 count)
          ⟨established, live.client.opened, busy⟩ trivial
          ⟨live.carried.1.trans longer, ?_⟩, ?_⟩
    · change (Endpoint.writeSome _ 0 count).socket.received <+: _
      rw [Endpoint.writeSome_received]
      exact live.carried.2
    · refine ⟨decide_eq_true rfl, trivial, ?_⟩
      intro _ same
      rw [wires, wires, onClient_same] at same
      exact moves (congrArg Prod.snd same)

/-- The server can send what it has queued. -/
theorem canStep_of_answer
    (live : Live conn network)
    (waiting : (network.server.connections conn).writeMsgs ≠ []) :
    CanStep env conn network := by
  rcases live.server.flows.next waiting with
    finished | ⟨busy, count, moves⟩
  · refine
      canStep_server live (.written conn 0 finished) rfl trivial rfl ?_ ?_
    · rw [Server.updateConnection_same, TcpConnection.messageWritten,
        Endpoint.writeNext_received]
      exact live.carried.1
    · rw [Server.updateConnection_same]
      exact (wire_writeNext _ 0).symm
  · have longer := wire_writeSome (network.server.connections conn) 0 count
    refine
      ⟨.server (.writeSome conn 0 count) none, _,
        server_step network live.running (.writeSome conn 0 count busy)
          ⟨?_, ?_⟩, ?_⟩
    · simp only [Event.conn, Server.updateConnection_same]
      rw [Endpoint.writeSome_received]
      exact live.carried.1
    · simp only [Event.conn, Server.updateConnection_same]
      exact live.carried.2.trans longer
    · refine ⟨decide_eq_true rfl, trivial, ?_⟩
      intro _ same
      rw [wires, wires, onServer_server, Server.updateConnection_same]
        at same
      exact moves (congrArg Prod.fst same)

/-- The server can go on reading where it has not read everything. -/
theorem canStep_of_unhandled
    (run : Run (system env) actions network)
    (live : Live conn network)
    (accepted : conn < network.server.accepting)
    (readable : ∀ msg ∈ written conn actions, Readable env msg.body)
    (sent :
      (network.clients conn).socket.wire =
        Message.framing.stream (written conn actions))
    (behind :
      handled conn actions ≠ (written conn actions).map Message.body) :
    CanStep env conn network := by
  rcases (heard_of_run run conn).running live.running with
    ⟨_, done, bodies, reading⟩
  have unread : done ≠ written conn actions := by
    rintro rfl
    exact behind bodies.symm
  rcases reading.next (live.server.reads accepted) unread with
    ⟨pending, bytes, seen⟩ | ⟨value, among, pending, seen⟩
  · rw [← sent] at seen
    refine
      canStep_server live (.headerRead conn bytes pending) rfl trivial rfl
        ?_ ?_
    · rw [afterHeader_connections_same,
        TcpConnection.headerRead_received]
      exact seen
    · rw [afterHeader_connections_same]
      exact (congrArg Outbox.wire
        (TcpConnection.outbox_headerRead
          ((network.server.connections conn).fillHeader bytes))).symm
  · rw [← sent] at seen
    have tidy := tidy_of_run (server_run run)
    have body := tidy.bodyMessage_body pending
    rcases readable value among with ⟨read, decoded⟩
    cases read with
    | none =>
        have change :=
          Change.ignored conn (FrameLoop.bodyBytes value) noFaults pending
            ((congrArg (decode env.rapidjson) body).trans decoded)
        refine canStep_server live change rfl trivial rfl ?_ ?_
        · rw [Server.updateConnection_same, afterBody_connections_same]
          exact seen
        · rw [Server.updateConnection_same, afterBody_connections_same]
          rfl
    | some req =>
        have change :=
          Change.served conn (FrameLoop.bodyBytes value) noFaults req pending
            ((congrArg (decode env.rapidjson) body).trans decoded)
            (List.findSome?_eq_none_iff.mpr fun _ _ => rfl)
        refine canStep_server live change rfl trivial rfl ?_ ?_
        · simp only [Server.updateConnection_same,
            served_connections_same, afterBody_connections_same]
          change (Endpoint.enqueue _ _).socket.received <+: _
          rw [Endpoint.enqueue_received]
          exact seen
        · simp only [Server.updateConnection_same,
            served_connections_same, afterBody_connections_same]
          exact
            (wire_enqueue
              ((network.server.connections conn).fillBody
                (FrameLoop.bodyBytes value)) _).symm

/-- The client can go on reading where it has not read every response. -/
theorem canStep_of_unread
    (run : Run (system env) actions network)
    (live : Live conn network)
    (connected : (network.clients conn).connecting = false)
    (sent :
      (network.server.connections conn).socket.wire =
        Message.framing.stream
          (Delivery.delivered env conn (serverLabels actions)))
    (behind :
      (ClientRun.collected (clientEvents conn actions)
          (network.clients conn)).map Message.body ≠
        (Delivery.delivered env conn (serverLabels actions)).map
          Message.body) :
    CanStep env conn network := by
  rcases (aligned_of_run run conn).reading with ⟨done, bodies, reading⟩
  have unread :
      done ≠ Delivery.delivered env conn (serverLabels actions) := by
    intro all
    rw [all] at bodies
    exact behind bodies.symm
  rcases reading.next (live.client.reads connected) unread with
    ⟨pending, bytes, seen⟩ | ⟨value, _, pending, seen⟩
  · rw [← sent] at seen
    refine
      @canStep_client _ _ _ live (.headerRead bytes) pending trivial trivial
        rfl ?_ ?_
    · rw [Client.apply, Client.headerRead_received]
      exact seen
    · exact (congrArg Outbox.wire
        (Client.headerRead_outbox
          ((network.clients conn).onEndpoint fun endpoint =>
            endpoint.fillHeader bytes))).symm
  · rw [← sent] at seen
    exact
      @canStep_client _ _ _ live (.bodyRead (FrameLoop.bodyBytes value))
        pending trivial trivial rfl seen rfl

/-! ## Where it cannot go on -/

/--
Everything the client has written has been handled, every request of a known
type has been answered, and every answer has been returned.
-/
structure Complete
    (env : Env) (conn : ConnId) (actions : List Action) : Prop where
  handled :
    handled conn actions = (written conn actions).map Message.body
  requests :
    (Delivery.exchanges conn (serverLabels actions)).map request =
      submitted env conn actions
  returned :
    (returned conn actions).map Message.body =
      Delivery.replies env conn (serverLabels actions)

/-- Nothing is left on the way to the server. -/
theorem requests_sent
    (run : Run (system env) actions network)
    (posted : (network.clients conn).posted = [])
    (queue : (network.clients conn).writeMsgs = []) :
    (network.clients conn).socket.wire =
      Message.framing.stream (written conn actions) := by
  have clientRun := client_run run conn
  have wrote := ClientRun.written_eq clientRun
  rw [posted, List.flatMap_nil, List.append_nil] at wrote
  rw [Network.written, wrote]
  exact wire_of_empty (WriteQueue.client_phase clientRun) queue

/-- Nothing is left on the way to the client. -/
theorem answers_sent
    (run : Run (system env) actions network)
    (queue : (network.server.connections conn).writeMsgs = []) :
    (network.server.connections conn).socket.wire =
      Message.framing.stream
        (Delivery.delivered env conn (serverLabels actions)) := by
  rcases Delivery.connection_phase (server_run run) conn with ⟨_, phase⟩
  exact wire_of_empty phase queue

/-- An accepted connection has been sent its greeting and its responses. -/
theorem delivered_replies
    (run : Run (system env) actions network)
    (reads : (network.server.connections conn).reads ≠ []) :
    (Delivery.delivered env conn (serverLabels actions)).map Message.body =
      Delivery.replies env conn (serverLabels actions) := by
  have recorded := Participants.recorded_of_run (server_run run)
  have accepted : Participants.Accepted (serverLabels actions) conn := by
    apply recorded.touched conn
    intro untouched
    rw [untouched] at reads
    exact reads rfl
  rcases Delivery.answered_of_run (server_run run) conn with
    ⟨never, _⟩ | sent
  · exact absurd accepted never
  · apply (Delivery.delivered_spec (server_run run) conn).2.eq_of_length
    rw [sent, List.length_map, List.length_map]

/-- A connection that cannot go on is complete. -/
theorem complete_of_stuck
    (run : Run (system env) actions network)
    (live : Live conn network)
    (accepted : conn < network.server.accepting)
    (readable : ∀ msg ∈ written conn actions, Readable env msg.body)
    (stuck : ¬ CanStep env conn network) :
    Complete env conn actions := by
  have posted : (network.clients conn).posted = [] := by
    by_contra waiting
    exact stuck (canStep_of_posted live waiting)
  have connected : (network.clients conn).connecting = false := by
    by_contra connecting
    exact stuck (canStep_of_connecting live (by simpa using connecting))
  have requestsQueue : (network.clients conn).writeMsgs = [] := by
    by_contra waiting
    exact stuck (canStep_of_request live connected waiting)
  have allHandled :
      Network.handled conn actions =
        (written conn actions).map Message.body := by
    by_contra behind
    have sent := requests_sent run posted requestsQueue
    exact
      stuck (canStep_of_unhandled run live accepted readable sent behind)
  have answersQueue :
      (network.server.connections conn).writeMsgs = [] := by
    by_contra waiting
    exact stuck (canStep_of_answer live waiting)
  have allRead :
      (ClientRun.collected (clientEvents conn actions)
          (network.clients conn)).map Message.body =
        (Delivery.delivered env conn (serverLabels actions)).map
          Message.body := by
    by_contra behind
    have sent := answers_sent run answersQueue
    exact stuck (canStep_of_unread run live connected sent behind)
  have allReturned : (network.clients conn).readMessages = [] := by
    by_contra waiting
    exact stuck (canStep_of_returnable live waiting)
  constructor
  · exact allHandled
  · rw [Delivery.exchanges_requests (server_run run), submitted,
      ← allHandled, ((heard_of_run run conn).running live.running).1]
  · rw [ClientRun.collected, allReturned, List.append_nil,
      delivered_replies run (live.server.reads accepted)] at allRead
    exact allRead

end CanStep

/-! ## The main theorem -/

/-- An accepted connection, so far unbroken, whose requests can be read. -/
structure Underway
    (env : Env) (conn : ConnId) (actions : List Action)
    (network : Network) : Prop where
  run : Run (system env) actions network
  unbroken : ∀ action ∈ actions, Unbroken conn action
  accepted : conn < network.server.accepting
  readable : ∀ msg ∈ written conn actions, Readable env msg.body

section Underway

variable
    {env : Env} {conn : ConnId} {actions : List Action}
    {source target : Network} {action : Action}

theorem accepting_le (move : Move env source action target) :
    source.server.accepting ≤ target.server.accepting := by
  cases move with
  | server _ step => exact (step_cases step).accepting_le
  | fault => exact Nat.le_refl _
  | client => exact Nat.le_refl _

theorem Underway.step
    (underway : Underway env conn actions source)
    (move : Move env source action target)
    (undisturbed : Undisturbed conn source action target) :
    Underway env conn (actions ++ [action]) target where
  run := underway.run.snoc move
  unbroken := by
    intro other member
    rcases List.mem_append.mp member with earlier | last
    · exact underway.unbroken other earlier
    · rw [List.mem_singleton.mp last]
      exact undisturbed.unbroken
  accepted := Nat.lt_of_lt_of_le underway.accepted (accepting_le move)
  readable := by
    rw [undisturbed.written actions]
    exact underway.readable

theorem Underway.spends
    (underway : Underway env conn actions source)
    (move : Move env source action target)
    (undisturbed : Undisturbed conn source action target) :
    potential conn target + (concerns conn action).toNat ≤
      potential conn source := by
  rcases undisturbed with own | ⟨elsewhere, _⟩
  · have live := live_of_run underway.run underway.unbroken
    rw [own.concerns]
    exact own_spends live move own
  · rw [elsewhere, potential_of_other move elsewhere]
    exact Nat.le_refl _

theorem Underway.stuck_or_complete
    (underway : Underway env conn actions source) :
    CanStep env conn source ∨ Complete env conn actions := by
  by_cases possible : CanStep env conn source
  · exact Or.inl possible
  · right
    exact
      complete_of_stuck underway.run
        (live_of_run underway.run underway.unbroken) underway.accepted
        underway.readable possible

end Underway

/--
An accepted connection on which nothing has broken, and whose client has
written messages that `handle` can read, can by its own steps be brought to
where every message is handled and every response returned.  Whatever other
connections do meanwhile, as long as no exception ends the server and unless
its client writes again, it takes at most as many steps as its potential
tells; and it can take one until all that has happened.
-/
theorem connection_completes
    {env : Env} {actions : List Action} {network : Network} {conn : ConnId}
    (run : Run (system env) actions network)
    (unbroken : ∀ action ∈ actions, Unbroken conn action)
    (accepted : conn < network.server.accepting)
    (readable : ∀ msg ∈ written conn actions, Readable env msg.body) :
    (∃ more final,
        Path ((system env).restrict (Own conn)) network more final ∧
          Complete env conn (actions ++ more)) ∧
      ∀ more final,
        Path ((system env).restrict (Undisturbed conn)) network more
            final →
          more.countP (concerns conn) ≤ potential conn network ∧
            (CanStep env conn final ∨
              Complete env conn (actions ++ more)) := by
  have underway : Underway env conn actions network :=
    ⟨run, unbroken, accepted, readable⟩
  constructor
  · obtain ⟨more, final, path, complete⟩ :=
      @Path.exists_goal _ _ (system env) (Own conn) (potential conn)
        (Underway env conn) (fun actions _ => Complete env conn actions)
        (fun _ _ _ _ move own here => here.step move (Or.inl own))
        (fun _ _ _ _ move own here =>
          own_spends (live_of_run here.run here.unbroken) move own)
        (fun _ _ here => here.stuck_or_complete.symm)
        _ _ underway
    exact ⟨more, final, path, complete⟩
  · intro more final path
    have counted :=
      @Path.countP_le _ _ (system env) (Undisturbed conn)
        (potential conn) (Underway env conn) (concerns conn)
        (fun _ _ _ _ move undisturbed here => here.step move undisturbed)
        (fun _ _ _ _ move undisturbed here =>
          here.spends move undisturbed)
        _ _ _ _ path underway
    constructor
    · exact Nat.le_trans (Nat.le_add_right _ _) counted.1
    · exact counted.2.stuck_or_complete

/-- The player of the sample run can still be answered. -/
theorem connection_completes_sample :
    ∃ more final,
      Path ((system Reference.playersEnv).restrict (Own 0)) greeted more
          final ∧
        Complete Reference.playersEnv 0 (sampleActions ++ more) := by
  have unbroken : ∀ action ∈ sampleActions, Unbroken 0 action := by
    simp [sampleActions, Unbroken, Succeeds, ClientSucceeds]
  have readable :
      ∀ msg ∈ written 0 sampleActions,
        Readable Reference.playersEnv msg.body := by
    intro msg member
    have wrote : written 0 sampleActions = [sampleMessage] := rfl
    rw [wrote, List.mem_singleton] at member
    rw [member, sampleMessage, (Message.carrying_spec sampleBody.2).2]
    exact ⟨_, Reference.decode_body .alice .registers⟩
  exact
    (connection_completes sample_run unbroken (Nat.zero_lt_one)
      readable).1

end PokerBackend.Completion
