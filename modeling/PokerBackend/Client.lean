import PokerBackend.Lib.Execution
import PokerBackend.Net.TcpConnection

/-!
# `client`: the other end of a connection

`write` and `close` only post a handler to the client's `io_context`; the
handlers run one at a time, in the order they were posted.  A message that
has been read is put into `read_messages_`, from which `read_wait` and
`read_if_avail` take.

A read whose completion was already queued may still succeed after `close`;
a write puts bytes on the wire only after the connect has succeeded and until
the socket is closed.
-/

namespace PokerBackend

open PokerBackend.Lib.Execution
open PokerBackend.Net

/-- A handler that `write` or `close` has posted. -/
inductive Posted where
  | write (msg : Message)
  | close
deriving DecidableEq

/-- `class client` -/
structure Client extends Endpoint where
  /-- The `async_connect` of the constructor is outstanding. -/
  connecting : Bool
  /-- The connect has succeeded. -/
  established : Bool
  closed : Bool
  posted : List Posted
  readMessages : List Message

namespace Client

/-- The constructor, which calls `do_connect_`. -/
def create : Client where
  toEndpoint := .create
  connecting := true
  established := false
  closed := false
  posted := []
  readMessages := []

def onEndpoint (client : Client) (change : Endpoint → Endpoint) : Client :=
  { client with toEndpoint := change client.toEndpoint }

/-- `socket_.close()` -/
def socketClose (client : Client) : Client :=
  { client with closed := true }

/-- `write(msg)` -/
def write (client : Client) (msg : Message) : Client :=
  { client with posted := client.posted ++ [.write msg] }

/-- `close()` -/
def close (client : Client) : Client :=
  { client with posted := client.posted ++ [.close] }

/-- A handler that was posted. -/
def runPosted (client : Client) : Posted → Client
  | .write msg => client.onEndpoint fun endpoint => endpoint.enqueue msg
  | .close => client.socketClose

/-- The successful branch of the handler of `do_connect_`. -/
def connected (client : Client) : Client :=
  client.onEndpoint .doReadHeader

/-- The handler of `do_read_header_` without an error. -/
def headerRead (client : Client) : Client :=
  let decoded := client.decodeHeader
  let client := { client with toEndpoint := decoded.2 }
  if decoded.1 then client.onEndpoint .doReadBody else client.socketClose

/-- The successful branch of the handler of `do_read_body_`. -/
def bodyRead (client : Client) : Client :=
  Client.onEndpoint
    { client with readMessages := client.readMessages ++ [client.readMsg] }
    .doReadHeader

/-- The successful branch of the handler of `do_write_`. -/
def messageWritten (client : Client) : Client :=
  client.onEndpoint .writeNext

/-! ## Events -/

/--
A call of a member function, a posted handler, the completion of an
operation, or some bytes of a write leaving.
-/
inductive Event where
  | write (msg : Message)
  | close
  /-- `read_wait()` or `read_if_avail()` has returned the message. -/
  | readMessage (msg : Message)
  | posted (job : Posted)
  | connected
  | connectFailed
  | headerRead (bytes : HeaderBytes)
  | headerFailed
  | bodyRead (bytes : BodyBytes)
  | bodyFailed (size : Nat)
  | writeSome (index count : Nat)
  | written (index : Nat)
  | writeFailed (index : Nat)

/-- The event can occur. -/
def Event.Enabled (client : Client) : Event → Prop
  | .write _ => True
  | .close => True
  | .readMessage msg => client.readMessages.head? = some msg
  | .posted job => client.posted.head? = some job
  | .connected => client.connecting = true
  | .connectFailed => client.connecting = true
  | .headerRead _ => .header ∈ client.reads
  | .headerFailed => .header ∈ client.reads
  | .bodyRead bytes => .body bytes.1.length ∈ client.reads
  | .bodyFailed size => .body size ∈ client.reads
  | .writeSome index _ =>
      client.established = true ∧ client.closed = false ∧
        index < client.socket.writes.length
  | .written index => client.socket.Written index
  | .writeFailed index => index < client.socket.writes.length

instance (client : Client) (event : Event) :
    Decidable (event.Enabled client) := by
  cases event <;> unfold Event.Enabled <;> infer_instance

/-- What the event does. -/
def apply (client : Client) : Event → Client
  | .write msg => client.write msg
  | .close => client.close
  | .readMessage _ =>
      { client with readMessages := client.readMessages.tail }
  | .posted job =>
      runPosted { client with posted := client.posted.tail } job
  | .connected =>
      connected { client with connecting := false, established := true }
  | .connectFailed => { client with connecting := false }
  | .headerRead bytes =>
      (client.onEndpoint fun endpoint => endpoint.fillHeader bytes).headerRead
  | .headerFailed =>
      (client.onEndpoint fun endpoint =>
        endpoint.readFailed .header).socketClose
  | .bodyRead bytes =>
      (client.onEndpoint fun endpoint => endpoint.fillBody bytes).bodyRead
  | .bodyFailed size =>
      (client.onEndpoint fun endpoint =>
        endpoint.readFailed (.body size)).socketClose
  | .writeSome index count =>
      client.onEndpoint fun endpoint => endpoint.writeSome index count
  | .written index =>
      (client.onEndpoint fun endpoint =>
        endpoint.finishWrite index).messageWritten
  | .writeFailed index =>
      (client.onEndpoint fun endpoint =>
        endpoint.finishWrite index).socketClose

/-- A client, from its constructor. -/
def system : System Client Event where
  start := .create
  step source event target :=
    event.Enabled source ∧ target = source.apply event

/-! ## What an event does to the endpoint -/

section Endpoint

variable (client : Client)

/-- A header that is accepted starts the read of the announced body. -/
theorem headerRead_of_accepted
    {size : Nat}
    (announced : Message.headerValue client.readMsg.header = size)
    (accepted : size ≤ maxBodyLength) :
    client.headerRead.readMsg.bodyLength = size ∧
      client.headerRead.socket = client.socket.asyncRead (.body size) := by
  rcases Endpoint.decodeHeader_of_accepted announced accepted with
    ⟨verdict, length, socket⟩
  rw [headerRead, if_pos verdict]
  constructor
  · exact length
  · change Socket.asyncRead _ (.body _) = _
    rw [length, socket]

/-- The handler does to the endpoint what that of `tcp_connection` does. -/
theorem headerRead_toEndpoint :
    client.headerRead.toEndpoint =
      TcpConnection.headerRead client.toEndpoint := by
  simp only [headerRead, TcpConnection.headerRead]
  split <;> rfl

@[simp]
theorem headerRead_outbox :
    client.headerRead.toEndpoint.outbox = client.toEndpoint.outbox := by
  simp only [headerRead]
  split <;> rfl

@[simp]
theorem headerRead_readMessages :
    client.headerRead.readMessages = client.readMessages := by
  simp only [headerRead]
  split <;> rfl

@[simp]
theorem headerRead_posted :
    client.headerRead.posted = client.posted := by
  simp only [headerRead]
  split <;> rfl

@[simp]
theorem headerRead_received :
    client.headerRead.socket.received = client.socket.received := by
  simp only [headerRead]
  split <;> rfl

@[simp]
theorem headerRead_connecting :
    client.headerRead.connecting = client.connecting := by
  simp only [headerRead]
  split <;> rfl

end Endpoint

end Client

end PokerBackend
