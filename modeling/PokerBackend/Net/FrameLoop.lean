import PokerBackend.Client
import PokerBackend.Net.Header
import PokerBackend.Net.TcpConnection

/-!
# Reading back a stream of frames

The read loops of `tcp_connection` and `client` are readers of frames: they
want four bytes, then as many as the header announces, and hand the body on.
One `read_msg_` serves for all frames.  Each loop understands the framing
that `message::operator=` writes, whatever the buffers held before.
-/

namespace PokerBackend.Net.FrameLoop

open PokerBackend.Lib.FrameStream

/-- How many bytes the outstanding read waits for. -/
def want (endpoint : Endpoint) : Option Nat :=
  match endpoint.reads with
  | [] => none
  | .header :: _ => some headerLength
  | .body size :: _ => some size

/--
The read loop of `tcp_connection`; `handle` gets the body that is handed on.
-/
def tcpReader : Reader TcpConnection UInt8 Bytes where
  want := want
  got connection bytes :=
    match connection.reads with
    | [] => (connection, none)
    | .header :: _ =>
        if full : bytes.length = headerLength then
          (TcpConnection.headerRead (connection.fillHeader ⟨bytes, full⟩),
            none)
        else (connection, none)
    | .body _ :: _ =>
        if fits : bytes.length ≤ maxBodyLength then
          let filled := connection.fillBody ⟨bytes, fits⟩
          (filled.doReadHeader, some filled.readMsg.body)
        else (connection, none)

/--
The read loop of `client`; the message handed on is put into
`read_messages_`.
-/
def clientReader : Reader Client UInt8 Bytes where
  want client := want client.toEndpoint
  got client bytes :=
    match client.reads with
    | [] => (client, none)
    | .header :: _ =>
        if full : bytes.length = headerLength then
          ((client.onEndpoint fun endpoint =>
            endpoint.fillHeader ⟨bytes, full⟩).headerRead, none)
        else (client, none)
    | .body _ :: _ =>
        if fits : bytes.length ≤ maxBodyLength then
          let filled := client.onEndpoint fun endpoint =>
            endpoint.fillBody ⟨bytes, fits⟩
          (filled.bodyRead, some filled.readMsg.body)
        else (client, none)

/-- The loop waits for a header. -/
def Ready (endpoint : Endpoint) : Prop :=
  endpoint.reads = [.header]

theorem want_of_ready {endpoint : Endpoint} (ready : Ready endpoint) :
    want endpoint = some headerLength := by
  rw [want, ready]

/-! ## One iteration -/

section Frame

variable {endpoint : Endpoint} {value : Message}

/-- The header bytes of a message. -/
def headerBytes (value : Message) : HeaderBytes :=
  ⟨value.header, value.header_length⟩

/-- The body bytes of a message. -/
def bodyBytes (value : Message) : BodyBytes :=
  ⟨value.body, by
    rw [value.body_length]
    exact value.bodyLength_le⟩

/-- The header of an encoded message announces the length of its body. -/
theorem announced
    (endpoint : Endpoint) (encoded : value.Encoded) :
    Message.headerValue
        (endpoint.fillHeader (headerBytes value)).readMsg.header =
      value.bodyLength := by
  rw [Endpoint.fillHeader_header]
  exact Message.headerValue_of_encoded encoded

theorem reads_fillHeader (ready : Ready endpoint) (bytes : HeaderBytes) :
    (endpoint.fillHeader bytes).reads = [] := by
  rw [Endpoint.fillHeader_reads, ready]
  rfl

/-- After a header the announced body is awaited. -/
theorem reads_of_header
    {next : Endpoint} {bytes : HeaderBytes} {size : Nat}
    (ready : Ready endpoint)
    (socket :
      next.socket =
        (endpoint.fillHeader bytes).socket.asyncRead (.body size)) :
    next.reads = [.body size] := by
  rw [Endpoint.reads, socket, Socket.asyncRead_reads]
  exact congrArg (· ++ _) (reads_fillHeader ready bytes)

/-- The body is what then fills the buffer, and a header is awaited. -/
theorem body_of_body
    {bytes : BodyBytes}
    (announces : endpoint.readMsg.bodyLength = bytes.1.length)
    (reading : endpoint.reads = [.body bytes.1.length]) :
    (endpoint.fillBody bytes).readMsg.body = bytes.1 ∧
      Ready (endpoint.fillBody bytes).doReadHeader := by
  constructor
  · exact Message.storeBody_body announces
  · rw [Ready, Endpoint.doReadHeader_reads, Endpoint.fillBody_reads,
      reading]
    simp

end Frame

/-! ## The format that both loops follow -/

/-- The lengths `decode_header` accepts, in terms of the `int` of `atoi`. -/
def headerFormat : HeaderFormat UInt8 where
  width := headerLength
  size header :=
    let value := Message.announcedLength header
    if 0 ≤ value ∧ value ≤ 2044 then some value.toNat else none

theorem headerFormat_size_of_accepted
    {header : Bytes} (full : header.length = headerLength)
    (accepted : Message.headerValue header ≤ maxBodyLength) :
    headerFormat.size header = some (Message.headerValue header) := by
  have range := (Message.headerValue_le_iff full).mp accepted
  have value := Message.headerValue_of_nonneg full range.1
  refine (if_pos range).trans ?_
  rw [← value, Int.toNat_natCast]

theorem headerFormat_size_of_refused
    {header : Bytes} (full : header.length = headerLength)
    (refused : maxBodyLength < Message.headerValue header) :
    headerFormat.size header = none := by
  have outside := mt (Message.headerValue_le_iff full).mpr (by omega)
  exact if_neg outside

section Loop

variable {connection : TcpConnection} {header : Bytes}

theorem got_header
    (ready : Ready connection) (full : header.length = headerLength) :
    tcpReader.got connection header =
      (TcpConnection.headerRead (connection.fillHeader ⟨header, full⟩),
        none) := by
  simp only [tcpReader, show connection.reads = _ from ready, full, dif_pos]

/-- An accepted header makes the loop wait for the announced body. -/
theorem reads_of_accepted
    (ready : Ready connection) (full : header.length = headerLength)
    (accepted : Message.headerValue header ≤ maxBodyLength) :
    (tcpReader.got connection header).1.readMsg.bodyLength =
        Message.headerValue header ∧
      (tcpReader.got connection header).1.reads =
        [.body (Message.headerValue header)] := by
  have announces :
      Message.headerValue
          (connection.fillHeader ⟨header, full⟩).readMsg.header =
        Message.headerValue header := by
    rw [Endpoint.fillHeader_header]
  have decoded :=
    TcpConnection.headerRead_of_accepted announces accepted
  rw [got_header ready full]
  exact ⟨decoded.1, reads_of_header ready decoded.2⟩

/-- After a header that is refused nothing is awaited. -/
theorem reads_of_refused
    (ready : Ready connection) (full : header.length = headerLength)
    (refused : maxBodyLength < Message.headerValue header) :
    (tcpReader.got connection header).1.reads = [] := by
  have announces :
      maxBodyLength <
        Message.headerValue
          (connection.fillHeader ⟨header, full⟩).readMsg.header := by
    rw [Endpoint.fillHeader_header]
    exact refused
  rw [got_header ready full, Endpoint.reads,
    TcpConnection.headerRead_of_refused announces]
  exact reads_fillHeader ready ⟨header, full⟩

theorem got_body
    {body : Bytes} (fits : body.length ≤ maxBodyLength)
    (reading : connection.reads = [.body body.length])
    (announces : connection.readMsg.bodyLength = body.length) :
    (tcpReader.got connection body).2 = some body ∧
      Ready (tcpReader.got connection body).1 := by
  have filled :=
    @body_of_body connection ⟨body, fits⟩ announces reading
  simp only [tcpReader, reading, fits, dif_pos]
  exact ⟨congrArg some filled.1, filled.2⟩

end Loop

/-- The loop of `tcp_connection` follows the format. -/
theorem tcpReader_follows : tcpReader.Follows headerFormat Ready where
  wantsHeader _ ready := want_of_ready ready
  silent _ _ ready full := by rw [got_header ready full]
  wantsPayload := by
    intro connection header ready full
    by_cases accepted : Message.headerValue header ≤ maxBodyLength
    · have reading := (reads_of_accepted ready full accepted).2
      rw [headerFormat_size_of_accepted full accepted]
      change want _ = _
      rw [want, reading]
    · have refused := Nat.lt_of_not_le accepted
      have reading := reads_of_refused ready full refused
      rw [headerFormat_size_of_refused full refused]
      change want _ = _
      rw [want, reading]
  takesPayload := by
    intro connection header body ready full announced
    by_cases accepted : Message.headerValue header ≤ maxBodyLength
    · rw [headerFormat_size_of_accepted full accepted] at announced
      have size := Option.some.inj announced
      rw [size] at accepted
      have reading :=
        reads_of_accepted ready full (size.trans_le accepted)
      rw [size] at reading
      exact got_body accepted reading.2 reading.1
    · rw [headerFormat_size_of_refused full
        (Nat.lt_of_not_le accepted)] at announced
      cases announced

/-- The loop of `client` is that of `tcp_connection`. -/
theorem clientReader_simulates :
    clientReader.Simulates tcpReader Client.toEndpoint where
  want _ := rfl
  got := by
    intro client piece
    simp only [clientReader, tcpReader]
    cases client.reads with
    | nil => exact ⟨rfl, rfl⟩
    | cons read reads =>
        cases read with
        | header =>
            simp only
            split
            · exact ⟨Client.headerRead_toEndpoint _, rfl⟩
            · exact ⟨rfl, rfl⟩
        | body size =>
            simp only
            split <;> exact ⟨rfl, rfl⟩

theorem clientReader_follows :
    clientReader.Follows headerFormat fun client =>
      Ready client.toEndpoint :=
  clientReader_simulates.follows tcpReader_follows

/-- Encoded messages announce their bodies in that format. -/
theorem headerFormat_size_of_encoded
    {value : Message} (encoded : value.Encoded) :
    headerFormat.size (Message.framing.header value) =
      some (Message.framing.payload value).length := by
  have announces := Message.headerValue_of_encoded encoded
  change headerFormat.size value.header = some value.body.length
  rw [headerFormat_size_of_accepted value.header_length
    (announces.trans_le value.bodyLength_le), announces, value.body_length]

/-- The loop of `tcp_connection` understands the framing. -/
theorem tcpReader_understands :
    tcpReader.Understands Message.framing Ready Message.Encoded
      Message.body :=
  tcpReader_follows.understands rfl fun _ => headerFormat_size_of_encoded

/-- The loop of `client` understands it too. -/
theorem clientReader_understands :
    clientReader.Understands Message.framing
      (fun client => Ready client.toEndpoint) Message.Encoded
      Message.body :=
  clientReader_follows.understands rfl fun _ => headerFormat_size_of_encoded

/-! ## Streams of assigned messages -/

/-- Assign each text to its buffer. -/
def assignAll : List (Message × Bytes) → Except Fault (List Message)
  | [] => .ok []
  | (buffer, text) :: rest => do
      let message ← buffer.assign text
      let messages ← assignAll rest
      return message :: messages

theorem assignAll_spec
    (pairs : List (Message × Bytes))
    (short : ∀ pair ∈ pairs, pair.2.length ≤ maxBodyLength) :
    ∃ messages,
      assignAll pairs = .ok messages ∧
        (∀ message ∈ messages, message.Encoded) ∧
          messages.map Message.body = pairs.map Prod.snd := by
  induction pairs with
  | nil => exact ⟨[], rfl, by simp, rfl⟩
  | cons pair pairs induction =>
      rcases pair with ⟨buffer, text⟩
      obtain ⟨message, assigned, encoded, carries⟩ :=
        buffer.assign_of_fits (short (buffer, text) List.mem_cons_self)
      obtain ⟨messages, assignedRest, encodedRest, carriesRest⟩ :=
        induction fun pair member =>
          short pair (List.mem_cons_of_mem _ member)
      refine ⟨message :: messages, ?_, ?_, ?_⟩
      · rw [assignAll, assigned, assignedRest]
        rfl
      · exact List.forall_mem_cons.mpr ⟨encoded, encodedRest⟩
      · rw [List.map_cons, List.map_cons, carries, carriesRest]

/-- A reader that understands the framing reads the assigned texts back. -/
theorem Understands.round_trip
    {σ : Type} {reader : Reader σ UInt8 Bytes} {ready : σ → Prop}
    (understands :
      reader.Understands Message.framing ready Message.Encoded Message.body)
    {messages : List Message} {texts : List Bytes}
    (encoded : ∀ message ∈ messages, message.Encoded)
    (carry : messages.map Message.body = texts)
    {state : σ} (isReady : ready state) :
    (∀ fuel, 2 * messages.length ≤ fuel →
        (reader.feed fuel state (messages.flatMap Message.frame)).handed =
            texts ∧
          (reader.feed fuel state (messages.flatMap Message.frame)).rest =
              [] ∧
            ready
              (reader.feed fuel state
                (messages.flatMap Message.frame)).state) ∧
      ∀ fuel part,
        part <+: messages.flatMap Message.frame →
          (reader.feed fuel state part).handed <+: texts := by
  have whole := fun fuel (enough : 2 * messages.length ≤ fuel) =>
    Reader.feed_stream understands messages encoded enough (by decide)
      isReady
  rw [Message.framing_stream, carry] at whole
  constructor
  · exact whole
  · intro fuel part shorter
    have longer := (whole (fuel + 2 * messages.length) (by omega)).1
    rw [← longer]
    exact Reader.feed_part shorter (by omega)

/--
Texts of at most 2044 bytes, assigned to any buffers and sent one after the
other, are read back by the loops of both ends, with nothing left over; and
on a prefix of the stream, a prefix of the texts is read.
-/
theorem frame_stream_round_trip
    (pairs : List (Message × Bytes))
    (short : ∀ pair ∈ pairs, pair.2.length ≤ maxBodyLength) :
    ∃ messages,
      assignAll pairs = .ok messages ∧
        (∀ connection, Ready connection →
          (∀ fuel, 2 * messages.length ≤ fuel →
            let progress :=
              tcpReader.feed fuel connection
                (messages.flatMap Message.frame)
            progress.handed = pairs.map Prod.snd ∧
              progress.rest = [] ∧ Ready progress.state) ∧
            ∀ fuel part,
              part <+: messages.flatMap Message.frame →
                (tcpReader.feed fuel connection part).handed <+:
                  pairs.map Prod.snd) ∧
          ∀ client : Client, Ready client.toEndpoint →
            (∀ fuel, 2 * messages.length ≤ fuel →
              let progress :=
                clientReader.feed fuel client
                  (messages.flatMap Message.frame)
              progress.handed = pairs.map Prod.snd ∧
                progress.rest = [] ∧ Ready progress.state.toEndpoint) ∧
              ∀ fuel part,
                part <+: messages.flatMap Message.frame →
                  (clientReader.feed fuel client part).handed <+:
                    pairs.map Prod.snd := by
  rcases assignAll_spec pairs short with ⟨messages, assigned, encoded, carry⟩
  refine ⟨messages, assigned, ?_, ?_⟩
  · intro connection ready
    exact Understands.round_trip tcpReader_understands encoded carry ready
  · intro client ready
    exact Understands.round_trip clientReader_understands encoded carry ready

/--
Three texts, one of them empty and one of them a header, and dirty buffers.
-/
theorem frame_stream_round_trip_three :
    ∃ messages,
      assignAll
          [(.init, str "   7"),
            (Message.carrying (str "left over"), []),
            (Message.carrying (str "left over"), [0, 32, 49])] =
        .ok messages ∧
        (tcpReader.feed 6 (TcpConnection.start .create)
            (messages.flatMap Message.frame)).handed =
          [str "   7", [], [0, 32, 49]] := by
  obtain ⟨messages, assigned, server, _⟩ :=
    frame_stream_round_trip
      [(.init, str "   7"), (Message.carrying (str "left over"), []),
        (Message.carrying (str "left over"), [0, 32, 49])]
      (by decide)
  have three : messages.length = 3 := by
    obtain ⟨again, same, _, carry⟩ := assignAll_spec
      [(.init, str "   7"), (Message.carrying (str "left over"), []),
        (Message.carrying (str "left over"), [0, 32, 49])]
      (by decide)
    rw [assigned] at same
    cases same
    simpa using congrArg List.length carry
  have ready : Ready (TcpConnection.start .create) := rfl
  exact ⟨messages, assigned, ((server _ ready).1 6 (by omega)).1⟩

end PokerBackend.Net.FrameLoop
