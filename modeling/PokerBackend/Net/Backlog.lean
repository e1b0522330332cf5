import PokerBackend.Net.WriteQueue

/-!
# How much is left to do in one direction

On the way from one end of a connection to the other a message is queued, its
bytes leave, they are under way, and the read loop of the other end takes
them as a header and a body.  Every one of these steps uses some of a cost
up: bytes cost more before they leave than under way, and a body that is
awaited costs less than its header did.
-/

namespace PokerBackend.Net.Backlog

open PokerBackend.Lib.OutputQueue

/-- No write of the endpoint has failed. -/
def Flowing (endpoint : Endpoint) : Prop :=
  ∃ pushed, Phase Message.frame pushed false endpoint.outbox

/-- The read is of a body. -/
def isBody : ReadOp → Bool
  | .header => false
  | .body _ => true

/-- The prices of a byte under way and of an awaited body. -/
structure Prices where
  byte : Nat
  body : Nat

/-- The cost of what one end still sends and the other end still reads. -/
def cost (prices : Prices) (sender reader : Endpoint) : Nat :=
  (prices.byte + 1) * sender.outbox.unsent Message.frame +
    sender.writeMsgs.length +
    prices.byte *
      (sender.socket.wire.length - reader.socket.received.length) +
    prices.body * reader.reads.countP isBody

section Sender

variable
    (prices : Prices) {sender : Endpoint} (reader : Endpoint)

theorem Flowing.create : Flowing .create :=
  ⟨[], .idle []⟩

/-- The outbox is all that matters of a sender. -/
theorem cost_congr
    {other : Endpoint} (same : other.outbox = sender.outbox) :
    cost prices other reader = cost prices sender reader := by
  have queue : other.writeMsgs = sender.writeMsgs :=
    congrArg Outbox.queue same
  have wire : other.socket.wire = sender.socket.wire :=
    congrArg Outbox.wire same
  rw [cost, cost, same, queue, wire]

theorem Flowing.congr
    {other : Endpoint} (flowing : Flowing sender)
    (same : other.outbox = sender.outbox) : Flowing other := by
  rw [Flowing, same]
  exact flowing

theorem Flowing.enqueue (flowing : Flowing sender) (msg : Message) :
    Flowing (sender.enqueue msg) := by
  rcases flowing with ⟨pushed, phase⟩
  refine ⟨pushed ++ [msg], ?_⟩
  rw [Endpoint.outbox_enqueue]
  exact phase.push msg

theorem wire_enqueue (sender : Endpoint) (msg : Message) :
    (sender.enqueue msg).socket.wire = sender.socket.wire := by
  have same := congrArg Outbox.wire (sender.outbox_enqueue msg)
  rw [Outbox.push_wire] at same
  exact same

theorem wire_writeNext (sender : Endpoint) (index : Nat) :
    (sender.finishWrite index).writeNext.socket.wire =
      sender.socket.wire := by
  have same := congrArg Outbox.wire (sender.outbox_writeNext index)
  rw [Outbox.complete_wire] at same
  exact same

/-- A message that is queued costs its bytes, and one for the queue. -/
theorem cost_enqueue (flowing : Flowing sender) (msg : Message) :
    cost prices (sender.enqueue msg) reader =
      cost prices sender reader +
        (prices.byte + 1) * msg.frame.length + 1 := by
  rcases flowing with ⟨pushed, phase⟩
  have outbox := sender.outbox_enqueue msg
  have unsent := phase.unsent_push msg
  have queue :
      (sender.enqueue msg).writeMsgs.length =
        sender.writeMsgs.length + 1 := by
    have appended := congrArg Outbox.queue outbox
    rw [Outbox.push_queue] at appended
    exact (congrArg List.length appended).trans List.length_append
  rw [cost, cost, outbox, unsent, queue, wire_enqueue, Nat.mul_add]
  omega

theorem wire_writeSome (sender : Endpoint) (index count : Nat) :
    sender.socket.wire <+:
      (sender.writeSome index count).socket.wire := by
  change _ <+: (sender.socket.writeSome index count).wire
  unfold Socket.writeSome
  split
  · exact List.prefix_refl _
  · exact List.prefix_append _ _

theorem Flowing.writeSome (flowing : Flowing sender) (index count : Nat) :
    Flowing (sender.writeSome index count) := by
  rcases flowing with ⟨pushed, phase⟩
  refine ⟨pushed, ?_⟩
  rw [Endpoint.outbox_writeSome]
  exact phase.progress index count

/-- Bytes that leave are cheaper afterwards. -/
theorem cost_writeSome
    (flowing : Flowing sender) (index count : Nat)
    (received :
      reader.socket.received.length ≤ sender.socket.wire.length)
    (moves :
      (sender.writeSome index count).socket.wire ≠ sender.socket.wire) :
    cost prices (sender.writeSome index count) reader <
      cost prices sender reader := by
  rcases flowing with ⟨pushed, phase⟩
  have outbox := sender.outbox_writeSome index count
  have queue :
      (sender.writeSome index count).writeMsgs = sender.writeMsgs := rfl
  have kept := phase.unsent_progress index count
  have longer :
      sender.socket.wire.length <
        (sender.writeSome index count).socket.wire.length := by
    apply Nat.lt_of_le_of_ne (wire_writeSome sender index count).length_le
    intro same
    apply moves
    exact ((wire_writeSome sender index count).eq_of_length same).symm
  rw [← outbox] at kept
  change
    (sender.writeSome index count).socket.wire.length + _ =
      sender.socket.wire.length + _ at kept
  obtain ⟨moved, more⟩ := Nat.exists_eq_add_of_lt longer
  have left :
      sender.outbox.unsent Message.frame =
        (sender.writeSome index count).outbox.unsent Message.frame +
          (moved + 1) := by
    omega
  have flight :
      (sender.writeSome index count).socket.wire.length -
          reader.socket.received.length =
        sender.socket.wire.length - reader.socket.received.length +
          (moved + 1) := by
    omega
  rw [cost, cost, queue, left, flight, Nat.mul_add prices.byte,
    Nat.mul_add (prices.byte + 1), Nat.add_mul prices.byte 1 (moved + 1)]
  omega

theorem Flowing.written
    (flowing : Flowing sender) {index : Nat}
    (finished : sender.socket.Written index) :
    Flowing (sender.finishWrite index).writeNext := by
  rcases flowing with ⟨pushed, phase⟩
  rcases finished with ⟨transfer, outstanding, whole⟩
  refine ⟨pushed, ?_⟩
  rw [Endpoint.outbox_writeNext]
  exact phase.complete outstanding whole

/-- A write that has completed takes its message off the queue. -/
theorem cost_written
    (flowing : Flowing sender) {index : Nat}
    (finished : sender.socket.Written index) :
    cost prices (sender.finishWrite index).writeNext reader <
      cost prices sender reader := by
  rcases flowing with ⟨pushed, phase⟩
  rcases finished with ⟨transfer, outstanding, whole⟩
  have outbox := sender.outbox_writeNext index
  have unsent := phase.unsent_complete outstanding whole
  have waiting : sender.writeMsgs ≠ [] := by
    rcases phase.front_of_transfer (List.mem_of_getElem? outstanding) with
      ⟨front, rest, queue, _⟩
    change sender.outbox.queue ≠ []
    rw [queue]
    exact List.cons_ne_nil front rest
  have queue :
      (sender.finishWrite index).writeNext.writeMsgs.length =
        sender.writeMsgs.length - 1 := by
    have popped := congrArg Outbox.queue outbox
    rw [Outbox.complete_queue] at popped
    exact (congrArg List.length popped).trans List.length_tail
  have positive := List.length_pos_iff.mpr waiting
  rw [cost, cost, outbox, unsent, queue, wire_writeNext]
  omega

/-- Where something is queued, a write can go on or complete. -/
theorem Flowing.next
    (flowing : Flowing sender) (waiting : sender.writeMsgs ≠ []) :
    sender.socket.Written 0 ∨
      0 < sender.socket.writes.length ∧
        ∃ count,
          (sender.writeSome 0 count).socket.wire ≠ sender.socket.wire := by
  rcases flowing with ⟨pushed, phase⟩
  rcases phase.busy waiting with ⟨transfer, outstanding, finished | more⟩
  · exact Or.inl ⟨transfer, outstanding, finished⟩
  · right
    constructor
    · exact (List.getElem?_eq_some_iff.mp outstanding).1
    · refine ⟨transfer.payload.length, ?_⟩
      have found : sender.socket.writes[0]? = some transfer := outstanding
      simp only [Endpoint.writeSome, Socket.writeSome, found]
      intro same
      exact more (List.append_right_eq_self.mp same)

/-- Where nothing is queued, everything has left. -/
theorem wire_of_empty
    {pushed : List Message} {failed : Bool}
    (phase : Phase Message.frame pushed failed sender.outbox)
    (empty : sender.writeMsgs = []) :
    sender.socket.wire = Message.framing.stream pushed := by
  rw [Message.framing_stream]
  exact phase.wire_of_empty empty

end Sender

section Reader

variable (prices : Prices) (sender : Endpoint) {reader : Endpoint}

/-- The awaited bodies and the bytes received matter of a reader. -/
theorem cost_reader_congr
    {other : Endpoint}
    (bodies : other.reads.countP isBody = reader.reads.countP isBody)
    (received : other.socket.received = reader.socket.received) :
    cost prices sender other = cost prices sender reader := by
  rw [cost, cost, bodies, received]

/-- The cost of a reader which has taken more bytes. -/
theorem cost_received
    {next : Endpoint} {bytes : Bytes}
    (received :
      next.socket.received = reader.socket.received ++ bytes)
    (seen : next.socket.received.length ≤ sender.socket.wire.length) :
    cost prices sender next + prices.byte * bytes.length +
        prices.body * reader.reads.countP isBody =
      cost prices sender reader +
        prices.body * next.reads.countP isBody := by
  rw [received, List.length_append] at seen
  have flight :
      sender.socket.wire.length - reader.socket.received.length =
        sender.socket.wire.length -
            (reader.socket.received ++ bytes).length +
          bytes.length := by
    rw [List.length_append]
    omega
  rw [cost, cost, received, flight, Nat.mul_add]
  omega

/-- A header that has been read may be followed by one body. -/
theorem bodies_headerRead (connection : TcpConnection) (bytes : HeaderBytes) :
    (TcpConnection.headerRead (connection.fillHeader bytes)).reads.countP
        isBody ≤
      connection.reads.countP isBody + 1 := by
  have fewer :
      (connection.reads.erase .header).countP isBody ≤
        connection.reads.countP isBody :=
    List.erase_sublist.countP_le
  by_cases accepted :
      Message.headerValue (connection.fillHeader bytes).readMsg.header ≤
        maxBodyLength
  · have decoded := TcpConnection.headerRead_of_accepted rfl accepted
    rw [Endpoint.reads, decoded.2, Socket.asyncRead_reads,
      List.countP_append]
    exact Nat.add_le_add fewer (Nat.le_refl 1)
  · have decoded :=
      TcpConnection.headerRead_of_refused (Nat.lt_of_not_le accepted)
    rw [Endpoint.reads, decoded]
    exact Nat.le_succ_of_le fewer

/-- A body that has been read is awaited no more. -/
theorem bodies_erase
    {reads : List ReadOp} {size : Nat} (pending : .body size ∈ reads) :
    (reads.erase (.body size)).countP isBody + 1 =
      reads.countP isBody := by
  have some : 0 < reads.countP isBody :=
    List.countP_pos_iff.mpr ⟨_, pending, rfl⟩
  rw [List.countP_erase, if_pos ⟨pending, rfl⟩]
  omega

/-- A header is not a body. -/
theorem bodies_doReadHeader (endpoint : Endpoint) :
    endpoint.doReadHeader.reads.countP isBody =
      endpoint.reads.countP isBody := by
  rw [Endpoint.doReadHeader_reads, List.countP_append]
  rfl

end Reader

/-- A frame has no more bytes than `data_`. -/
theorem frame_length_le (msg : Message) : msg.frame.length ≤ 2048 := by
  have bound := msg.bodyLength_le
  rw [Message.frame_eq, List.length_append, msg.header_length,
    msg.body_length]
  rw [maxBodyLength_eq] at bound
  rw [headerLength_eq]
  omega

end PokerBackend.Net.Backlog
