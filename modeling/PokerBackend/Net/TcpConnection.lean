import PokerBackend.Net.Endpoint

/-!
# `tcp_connection`: the server's end of a connection

The member functions start operations on the socket; a completion handler is
the function named after the operation which completes.  What a handler does
with the rest of the server is in `TcpServer`.
-/

namespace PokerBackend.Net

/-- `class tcp_connection`.  Its `handler_` is the one handler of the server. -/
abbrev TcpConnection := Endpoint

namespace TcpConnection

/-- `tcp_connection::create` -/
abbrev create : TcpConnection :=
  Endpoint.create

/-- `do_read_header_()` -/
abbrev doReadHeader (connection : TcpConnection) : TcpConnection :=
  Endpoint.doReadHeader connection

/-- `do_read_body_()` -/
abbrev doReadBody (connection : TcpConnection) : TcpConnection :=
  Endpoint.doReadBody connection

/-- `start()` -/
abbrev start (connection : TcpConnection) : TcpConnection :=
  connection.doReadHeader

/-- `deliver(msg)` -/
abbrev deliver
    (connection : TcpConnection) (msg : Message) : TcpConnection :=
  connection.enqueue msg

/-- The successful branch of the handler of `do_read_header_`. -/
def headerRead (connection : TcpConnection) : TcpConnection :=
  let decoded := connection.decodeHeader
  if decoded.1 then doReadBody decoded.2 else decoded.2

/-- The successful branch of the handler of `do_write_`. -/
abbrev messageWritten (connection : TcpConnection) : TcpConnection :=
  connection.writeNext

/-- A header that is accepted starts the read of the announced body. -/
theorem headerRead_of_accepted
    {connection : TcpConnection} {size : Nat}
    (announced : Message.headerValue connection.readMsg.header = size)
    (accepted : size ≤ maxBodyLength) :
    connection.headerRead.readMsg.bodyLength = size ∧
      connection.headerRead.socket =
        connection.socket.asyncRead (.body size) := by
  rcases Endpoint.decodeHeader_of_accepted announced accepted with
    ⟨verdict, length, socket⟩
  rw [headerRead, if_pos verdict]
  constructor
  · exact length
  · change Socket.asyncRead _ (.body _) = _
    rw [length, socket]

/-- A header that is refused starts nothing. -/
theorem headerRead_of_refused
    {connection : TcpConnection}
    (refused :
      maxBodyLength < Message.headerValue connection.readMsg.header) :
    connection.headerRead.socket = connection.socket := by
  rcases Endpoint.decodeHeader_of_refused refused with ⟨verdict, socket⟩
  rw [headerRead, if_neg (by simp [verdict])]
  exact socket

@[simp]
theorem outbox_headerRead (connection : TcpConnection) :
    connection.headerRead.outbox = connection.outbox := by
  simp only [headerRead]
  split <;> rfl

@[simp]
theorem headerRead_received (connection : TcpConnection) :
    connection.headerRead.socket.received =
      connection.socket.received := by
  simp only [headerRead]
  split <;> rfl

end TcpConnection

end PokerBackend.Net
