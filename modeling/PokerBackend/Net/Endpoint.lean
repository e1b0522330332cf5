import PokerBackend.Lib.OutputQueue
import PokerBackend.Net.Message

/-!
# What `tcp_connection` and `client` do with their sockets

A socket is what asio keeps of it: the asynchronous reads and writes that are
outstanding, in the order they were started, the bytes that have been put on
the wire and the bytes that completed reads have taken off it.

Both classes have a `read_msg_` and a deque `write_msgs_`, and private
functions `do_read_header_`, `do_read_body_` and `do_write_` with the same
bodies.  An endpoint is what they have in common; where their completion
handlers differ, the two modules after this one say so.
-/

namespace PokerBackend.Net

open PokerBackend.Lib.OutputQueue

/-- An outstanding `async_read`: of a header, or of a body of a given size. -/
inductive ReadOp where
  | header
  | body (size : Nat)
deriving DecidableEq

/--
The outstanding operations of a socket, and the bytes it has sent and
received.
-/
structure Socket where
  reads : List ReadOp := []
  writes : List (Transfer UInt8) := []
  wire : Bytes := []
  received : Bytes := []

namespace Socket

/-- `async_read` into a buffer of the given extent. -/
def asyncRead (socket : Socket) (read : ReadOp) : Socket :=
  { socket with reads := socket.reads ++ [read] }

/-- `async_write` of a buffer. -/
def asyncWrite (socket : Socket) (payload : Bytes) : Socket :=
  { socket with writes := socket.writes ++ [⟨payload, 0⟩] }

/-- An outstanding read has completed, successfully with its bytes. -/
def finishRead (socket : Socket) (read : ReadOp) (bytes : Bytes) : Socket :=
  { socket with
    reads := socket.reads.erase read
    received := socket.received ++ bytes }

/-- An outstanding write has completed. -/
def finishWrite (socket : Socket) (index : Nat) : Socket :=
  { socket with writes := socket.writes.eraseIdx index }

/-- An outstanding write puts up to `count` more of its bytes on the wire. -/
def writeSome (socket : Socket) (index count : Nat) : Socket :=
  match socket.writes[index]? with
  | none => socket
  | some transfer =>
      { socket with
        writes := socket.writes.set index (transfer.advance count)
        wire := socket.wire ++ transfer.chunk count }

/-- All bytes of an outstanding write have left. -/
def Written (socket : Socket) (index : Nat) : Prop :=
  ∃ transfer,
    socket.writes[index]? = some transfer ∧
      transfer.payload.length ≤ transfer.sent

instance (socket : Socket) (index : Nat) :
    Decidable (socket.Written index) :=
  match found : socket.writes[index]? with
  | none => .isFalse (by simp [Written, found])
  | some transfer =>
      decidable_of_iff (transfer.payload.length ≤ transfer.sent)
        (by simp [Written, found])

@[simp]
theorem asyncRead_reads (socket : Socket) (read : ReadOp) :
    (socket.asyncRead read).reads = socket.reads ++ [read] := rfl

@[simp]
theorem writeSome_reads (socket : Socket) (index count : Nat) :
    (socket.writeSome index count).reads = socket.reads := by
  unfold writeSome
  split <;> rfl

@[simp]
theorem writeSome_received (socket : Socket) (index count : Nat) :
    (socket.writeSome index count).received = socket.received := by
  unfold writeSome
  split <;> rfl

end Socket

/-- The part of `tcp_connection` and of `client` which drives the socket. -/
structure Endpoint where
  readMsg : Message
  writeMsgs : List Message
  socket : Socket

namespace Endpoint

/-- An endpoint which has done nothing yet. -/
def create : Endpoint where
  readMsg := .init
  writeMsgs := []
  socket := {}

/-- `do_read_header_()`: start reading into `data()[0, header_length)`. -/
def doReadHeader (endpoint : Endpoint) : Endpoint :=
  { endpoint with socket := endpoint.socket.asyncRead .header }

/-- `do_read_body_()`: start reading into `body()[0, body_length())`. -/
def doReadBody (endpoint : Endpoint) : Endpoint :=
  { endpoint with
    socket := endpoint.socket.asyncRead (.body endpoint.readMsg.bodyLength) }

/-- `do_write_()`: start writing `write_msgs_.front()`. -/
def doWrite (endpoint : Endpoint) : Endpoint :=
  match endpoint.writeMsgs with
  | [] => endpoint
  | front :: _ =>
      { endpoint with socket := endpoint.socket.asyncWrite front.frame }

/-- Append to `write_msgs_`, and write unless a write is in progress. -/
def enqueue (endpoint : Endpoint) (msg : Message) : Endpoint :=
  let writeInProgress := !endpoint.writeMsgs.isEmpty
  let queued := { endpoint with writeMsgs := endpoint.writeMsgs ++ [msg] }
  if !writeInProgress then queued.doWrite else queued

/-- A read has failed; it is outstanding no more. -/
def readFailed (endpoint : Endpoint) (read : ReadOp) : Endpoint :=
  { endpoint with socket := endpoint.socket.finishRead read [] }

/-- A header read has filled `data()[0, header_length)`. -/
def fillHeader (endpoint : Endpoint) (bytes : HeaderBytes) : Endpoint :=
  { endpoint with
    readMsg := endpoint.readMsg.storeHeader bytes
    socket := endpoint.socket.finishRead .header bytes.1 }

/-- `read_msg_.decode_header()` -/
def decodeHeader (endpoint : Endpoint) : Bool × Endpoint :=
  let decoded := endpoint.readMsg.decodeHeader
  (decoded.1, { endpoint with readMsg := decoded.2 })

/-- A body read has filled the front of `body()`. -/
def fillBody (endpoint : Endpoint) (bytes : BodyBytes) : Endpoint :=
  { endpoint with
    readMsg := endpoint.readMsg.storeBody bytes
    socket := endpoint.socket.finishRead (.body bytes.1.length) bytes.1 }

/-- An outstanding write puts more bytes on the wire. -/
def writeSome (endpoint : Endpoint) (index count : Nat) : Endpoint :=
  { endpoint with socket := endpoint.socket.writeSome index count }

/-- A write has completed or failed; it is outstanding no more. -/
def finishWrite (endpoint : Endpoint) (index : Nat) : Endpoint :=
  { endpoint with socket := endpoint.socket.finishWrite index }

/-- Pop the message that was written, and go on with the next one. -/
def writeNext (endpoint : Endpoint) : Endpoint :=
  let popped := { endpoint with writeMsgs := endpoint.writeMsgs.tail }
  if !popped.writeMsgs.isEmpty then popped.doWrite else popped

/-- The reads of the endpoint that are outstanding. -/
abbrev reads (endpoint : Endpoint) : List ReadOp :=
  endpoint.socket.reads

/-! ## The reading side -/

section Reading

variable (endpoint : Endpoint)

@[simp]
theorem doReadHeader_reads :
    endpoint.doReadHeader.reads = endpoint.reads ++ [.header] := rfl

@[simp]
theorem doReadHeader_readMsg :
    endpoint.doReadHeader.readMsg = endpoint.readMsg := rfl

@[simp]
theorem doWrite_readMsg : endpoint.doWrite.readMsg = endpoint.readMsg := by
  unfold doWrite
  split <;> rfl

@[simp]
theorem doWrite_reads : endpoint.doWrite.reads = endpoint.reads := by
  unfold doWrite
  split <;> rfl

@[simp]
theorem doWrite_received :
    endpoint.doWrite.socket.received = endpoint.socket.received := by
  unfold doWrite
  split <;> rfl

@[simp]
theorem enqueue_readMsg (msg : Message) :
    (endpoint.enqueue msg).readMsg = endpoint.readMsg := by
  simp only [enqueue]
  split <;> simp

@[simp]
theorem enqueue_reads (msg : Message) :
    (endpoint.enqueue msg).reads = endpoint.reads := by
  simp only [enqueue]
  split <;> simp

@[simp]
theorem enqueue_received (msg : Message) :
    (endpoint.enqueue msg).socket.received = endpoint.socket.received := by
  simp only [enqueue]
  split <;> simp

@[simp]
theorem writeNext_readMsg :
    endpoint.writeNext.readMsg = endpoint.readMsg := by
  simp only [writeNext]
  split <;> simp

@[simp]
theorem writeNext_reads : endpoint.writeNext.reads = endpoint.reads := by
  simp only [writeNext]
  split <;> simp

@[simp]
theorem writeNext_received :
    endpoint.writeNext.socket.received = endpoint.socket.received := by
  simp only [writeNext]
  split <;> simp

@[simp]
theorem writeSome_readMsg (index count : Nat) :
    (endpoint.writeSome index count).readMsg = endpoint.readMsg := rfl

@[simp]
theorem writeSome_reads (index count : Nat) :
    (endpoint.writeSome index count).reads = endpoint.reads :=
  endpoint.socket.writeSome_reads index count

@[simp]
theorem writeSome_received (index count : Nat) :
    (endpoint.writeSome index count).socket.received =
      endpoint.socket.received :=
  endpoint.socket.writeSome_received index count

@[simp]
theorem finishWrite_readMsg (index : Nat) :
    (endpoint.finishWrite index).readMsg = endpoint.readMsg := rfl

@[simp]
theorem finishWrite_reads (index : Nat) :
    (endpoint.finishWrite index).reads = endpoint.reads := rfl

@[simp]
theorem finishWrite_received (index : Nat) :
    (endpoint.finishWrite index).socket.received =
      endpoint.socket.received := rfl

@[simp]
theorem readFailed_reads (read : ReadOp) :
    (endpoint.readFailed read).reads = endpoint.reads.erase read := rfl

@[simp]
theorem fillHeader_reads (bytes : HeaderBytes) :
    (endpoint.fillHeader bytes).reads = endpoint.reads.erase .header := rfl

theorem fillHeader_header (bytes : HeaderBytes) :
    (endpoint.fillHeader bytes).readMsg.header = bytes.1 :=
  Message.storeHeader_header _ bytes

@[simp]
theorem fillBody_reads (bytes : BodyBytes) :
    (endpoint.fillBody bytes).reads =
      endpoint.reads.erase (.body bytes.1.length) := rfl

variable {endpoint}

/-- A header that announces an admissible length is accepted. -/
theorem decodeHeader_of_accepted
    {size : Nat}
    (announced : Message.headerValue endpoint.readMsg.header = size)
    (accepted : size ≤ maxBodyLength) :
    endpoint.decodeHeader.1 = true ∧
      endpoint.decodeHeader.2.readMsg.bodyLength = size ∧
        endpoint.decodeHeader.2.socket = endpoint.socket := by
  rcases endpoint.readMsg.decodeHeader_eq with ⟨verdict, _, length⟩
  rw [announced] at verdict length
  rw [if_pos accepted] at length
  exact ⟨verdict.trans (decide_eq_true accepted), length, rfl⟩

/-- Any other header is refused. -/
theorem decodeHeader_of_refused
    (refused :
      maxBodyLength < Message.headerValue endpoint.readMsg.header) :
    endpoint.decodeHeader.1 = false ∧
      endpoint.decodeHeader.2.socket = endpoint.socket := by
  rcases endpoint.readMsg.decodeHeader_eq with ⟨verdict, _, _⟩
  exact ⟨verdict.trans (decide_eq_false (Nat.not_le_of_lt refused)), rfl⟩

end Reading

/-! ## The writing side -/

/-- The queue, the outstanding writes and the bytes sent. -/
def outbox (endpoint : Endpoint) : Outbox Message UInt8 where
  queue := endpoint.writeMsgs
  transfers := endpoint.socket.writes
  wire := endpoint.socket.wire

section Writing

variable (endpoint : Endpoint)

@[simp]
theorem outbox_doWrite :
    endpoint.doWrite.outbox = endpoint.outbox.start Message.frame := by
  unfold doWrite Outbox.start
  cases queue : endpoint.writeMsgs with
  | nil => simp [outbox, queue]
  | cons front rest => simp [outbox, queue, Socket.asyncWrite]

@[simp]
theorem outbox_enqueue (msg : Message) :
    (endpoint.enqueue msg).outbox =
      endpoint.outbox.push Message.frame msg := by
  simp only [enqueue, Outbox.push, Bool.not_not]
  by_cases empty : endpoint.writeMsgs.isEmpty = true
  · have queue : endpoint.outbox.queue.isEmpty = true := empty
    rw [if_pos empty, if_pos queue, outbox_doWrite]
    rfl
  · have queue : ¬ endpoint.outbox.queue.isEmpty = true := empty
    rw [if_neg empty, if_neg queue]
    rfl

@[simp]
theorem outbox_writeSome (index count : Nat) :
    (endpoint.writeSome index count).outbox =
      endpoint.outbox.progress index count := by
  unfold writeSome Socket.writeSome Outbox.progress
  cases found : endpoint.socket.writes[index]? with
  | none => simp [outbox, found]
  | some transfer => simp [outbox, found]

@[simp]
theorem outbox_finishWrite (index : Nat) :
    (endpoint.finishWrite index).outbox = endpoint.outbox.fail index :=
  rfl

theorem outbox_writeNext (index : Nat) :
    (endpoint.finishWrite index).writeNext.outbox =
      endpoint.outbox.complete Message.frame index := by
  simp only [writeNext]
  by_cases empty :
      (endpoint.finishWrite index).writeMsgs.tail.isEmpty = true
  · have queue : endpoint.writeMsgs.tail = [] := List.isEmpty_iff.mp empty
    rw [if_neg (by simp [empty])]
    simp [Outbox.complete, Outbox.start, outbox, queue, finishWrite,
      Socket.finishWrite]
  · rw [if_pos (by simpa using empty), outbox_doWrite]
    rfl

end Writing

end Endpoint

end PokerBackend.Net
