import PokerBackend.Net.Reading
import PokerBackend.Net.WriteQueue

/-!
# What a client writes and what it reads

The messages a client has written are, in the order of the calls, those whose
posted handlers have run and those whose handlers are still posted.  The
messages it has returned and those waiting in `read_messages_` are together
the ones its read loop has completed.
-/

namespace PokerBackend.ClientRun

open PokerBackend.Lib.Execution
open PokerBackend.Lib.FrameStream
open PokerBackend.Net

/-! ## Writing -/

/-- The message of a call of `write`. -/
def writtenBy : Client.Event → Option Message
  | .write msg => some msg
  | _ => none

/-- The messages of the calls of `write`, in order. -/
def written (events : List Client.Event) : List Message :=
  events.filterMap writtenBy

/-- The message which a posted handler will enqueue. -/
def postedBy : Posted → List Message
  | .write msg => [msg]
  | .close => []

/-- What was written has been enqueued, or its handler is still posted. -/
theorem written_eq
    {events : List Client.Event} {client : Client}
    (run : Run Client.system events client) :
    written events =
      events.flatMap WriteQueue.enqueued ++
        client.posted.flatMap postedBy := by
  refine Run.invariant
    (motive := fun events client =>
      written events =
        events.flatMap WriteQueue.enqueued ++
          client.posted.flatMap postedBy)
    rfl ?_ run
  rintro events source event target - ⟨enabled, rfl⟩ earlier
  rw [written, List.filterMap_append, ← written, earlier,
    List.flatMap_append, List.flatMap_singleton]
  cases event with
  | write msg =>
      simp [writtenBy, WriteQueue.enqueued, Client.apply, Client.write,
        postedBy]
  | close =>
      simp [writtenBy, WriteQueue.enqueued, Client.apply, Client.close,
        postedBy]
  | posted job =>
      obtain ⟨rest, posted⟩ : ∃ rest, source.posted = job :: rest :=
        List.head?_eq_some_iff.mp enabled
      cases job with
      | write msg =>
          simp [writtenBy, WriteQueue.enqueued, Client.apply,
            Client.runPosted, Client.onEndpoint, posted, postedBy]
      | close =>
          simp [writtenBy, WriteQueue.enqueued, Client.apply,
            Client.runPosted, Client.socketClose, posted, postedBy]
  | headerRead bytes =>
      simp [writtenBy, WriteQueue.enqueued, Client.apply,
        Client.headerRead_posted, Client.onEndpoint]
  | _ =>
      simp [writtenBy, WriteQueue.enqueued, Client.apply,
        Client.onEndpoint, Client.connected, Client.bodyRead,
        Client.messageWritten, Client.socketClose]

/-- The bytes of a client on the wire are a prefix of what it has written. -/
theorem wire_written
    {events : List Client.Event} {client : Client}
    (run : Run Client.system events client) :
    client.socket.wire <+: Message.framing.stream (written events) := by
  have enqueued : events.flatMap WriteQueue.enqueued <+: written events := by
    rw [written_eq run]
    exact List.prefix_append _ _
  rcases enqueued with ⟨rest, split⟩
  have sent := (WriteQueue.client_phase run).wire_pushed
  rw [← split, Framing.stream_append, Message.framing_stream]
  exact sent.trans (List.prefix_append _ _)

/-! ## Reading -/

/-- The message that `read_wait` or `read_if_avail` returns. -/
def returnedBy : Client.Event → Option Message
  | .readMessage msg => some msg
  | _ => none

/--
The messages that `read_wait` and `read_if_avail` have returned, in order.
-/
def returned (events : List Client.Event) : List Message :=
  events.filterMap returnedBy

/-- The messages returned so far, then those which wait to be. -/
def collected (events : List Client.Event) (client : Client) :
    List Message :=
  returned events ++ client.readMessages

/-- The message that an event puts into `read_messages_`. -/
def completedBy (client : Client) : Client.Event → List Message
  | .bodyRead bytes => [client.readMsg.storeBody bytes]
  | _ => []

theorem collected_step
    (events : List Client.Event) {client : Client} {event : Client.Event}
    (enabled : event.Enabled client) :
    collected (events ++ [event]) (client.apply event) =
      collected events client ++ completedBy client event := by
  rw [collected, collected, returned, List.filterMap_append, ← returned]
  cases event with
  | readMessage msg =>
      obtain ⟨rest, waiting⟩ :
          ∃ rest, client.readMessages = msg :: rest :=
        List.head?_eq_some_iff.mp enabled
      simp [returnedBy, completedBy, Client.apply, waiting]
  | bodyRead bytes =>
      simp [returnedBy, completedBy, Client.apply, Client.bodyRead,
        Client.onEndpoint, Endpoint.fillBody]
  | posted job =>
      cases job <;>
        simp [returnedBy, completedBy, Client.apply, Client.runPosted,
          Client.onEndpoint, Client.socketClose]
  | headerRead bytes =>
      simp [returnedBy, completedBy, Client.apply, Client.onEndpoint]
  | _ =>
      simp [returnedBy, completedBy, Client.apply, Client.write,
        Client.close, Client.onEndpoint, Client.connected,
        Client.messageWritten, Client.socketClose]

/--
The read loop of a client is aligned with the messages sent to it, and before
the connect completes it has not started.
-/
structure Aligned
    (sent : List Message) (events : List Client.Event) (client : Client) :
    Prop where
  reading :
    ∃ done,
      done.map Message.body = (collected events client).map Message.body ∧
        Reading sent done client.toEndpoint
  fresh :
    client.connecting = true →
      client.reads = [] ∧ client.socket.received = [] ∧
        collected events client = []

namespace Aligned

variable
    {sent : List Message} {events : List Client.Event} {client : Client}

theorem create : Aligned [] [] .create where
  reading := ⟨[], rfl, .stopped List.nil_prefix rfl⟩
  fresh _ := ⟨rfl, rfl, rfl⟩

theorem more
    (aligned : Aligned sent events client) {longer : List Message}
    (grown : sent <+: longer) :
    Aligned longer events client where
  reading := by
    rcases aligned.reading with ⟨done, bodies, reading⟩
    exact ⟨done, bodies, reading.more grown⟩
  fresh := aligned.fresh

/-- An event which reads nothing. -/
theorem quiet
    (aligned : Aligned sent events client) {event : Client.Event}
    (enabled : event.Enabled client)
    (silent : completedBy client event = [])
    (reads : (client.apply event).reads = client.reads)
    (readMsg : (client.apply event).readMsg = client.readMsg)
    (received :
      (client.apply event).socket.received = client.socket.received)
    (connecting : (client.apply event).connecting = client.connecting) :
    Aligned sent (events ++ [event]) (client.apply event) := by
  have same :
      collected (events ++ [event]) (client.apply event) =
        collected events client := by
    rw [collected_step events enabled, silent, List.append_nil]
  constructor
  · rcases aligned.reading with ⟨done, bodies, reading⟩
    rw [same]
    exact ⟨done, bodies, reading.congr reads readMsg received⟩
  · intro stillConnecting
    rw [same, received]
    rw [connecting] at stillConnecting
    rcases aligned.fresh stillConnecting with ⟨none, rest⟩
    exact ⟨reads.trans none, rest⟩

/-- While a read is outstanding the client is connecting no more. -/
theorem connecting_of_mem
    (aligned : Aligned sent events client) {read : ReadOp}
    (pending : read ∈ client.reads) :
    client.connecting = false := by
  by_contra connecting
  have none := (aligned.fresh (by simpa using connecting)).1
  rw [none] at pending
  cases pending

theorem ofReading
    (done : List Message)
    (connected : client.connecting = false)
    (bodies :
      done.map Message.body = (collected events client).map Message.body)
    (reading : Reading sent done client.toEndpoint) :
    Aligned sent events client where
  reading := ⟨done, bodies, reading⟩
  fresh := by
    intro connecting
    rw [connected] at connecting
    cases connecting

/-- A read of the client fails. -/
theorem readFailed
    (aligned : Aligned sent events client) {event : Client.Event}
    (enabled : event.Enabled client)
    (silent : completedBy client event = [])
    {read : ReadOp} (pending : read ∈ client.reads)
    (endpoint :
      (client.apply event).toEndpoint = client.readFailed read)
    (connecting : (client.apply event).connecting = client.connecting) :
    Aligned sent (events ++ [event]) (client.apply event) := by
  rcases aligned.reading with ⟨done, bodies, reading⟩
  refine ofReading done ?_ ?_ ?_
  · rw [connecting, aligned.connecting_of_mem pending]
  · rw [collected_step events enabled, silent, List.append_nil, bodies]
  · rw [endpoint]
    exact reading.readFailed pending

/-- The step lemma: an event of the client keeps its loop aligned. -/
theorem step
    (aligned : Aligned sent events client) {event : Client.Event}
    (enabled : event.Enabled client)
    (encoded : ∀ message ∈ sent, message.Encoded)
    (seen :
      (client.apply event).socket.received <+:
        Message.framing.stream sent) :
    Aligned sent (events ++ [event]) (client.apply event) := by
  have collects := collected_step events enabled
  rcases aligned.reading with ⟨done, bodies, reading⟩
  cases event with
  | connected =>
      rcases aligned.fresh enabled with ⟨reads, received, nothing⟩
      refine ofReading [] rfl ?_ ?_
      · rw [collects, nothing]
        rfl
      · exact Reading.started reads received
  | connectFailed =>
      refine ofReading done rfl ?_ ?_
      · rw [collects, bodies]
        simp [completedBy]
      · exact reading.congr rfl rfl rfl
  | headerRead bytes =>
      let arrived := client.onEndpoint fun endpoint =>
        endpoint.fillHeader bytes
      have received :
          arrived.headerRead.socket.received =
            arrived.socket.received :=
        arrived.headerRead_received
      refine ofReading done ?_ ?_ ?_
      · exact
          (Client.headerRead_connecting _).trans
            (aligned.connecting_of_mem enabled)
      · rw [collects, bodies]
        simp [completedBy]
      · apply reading.header_step encoded enabled (received ▸ seen)
        intro size announced accepted
        exact arrived.headerRead_of_accepted announced accepted
  | bodyRead bytes =>
      rcases reading.body_step enabled seen with ⟨value, _, filled, reads⟩
      refine
        ofReading (done ++ [value])
          (aligned.connecting_of_mem enabled) ?_ reads
      rw [collects, List.map_append, List.map_append, bodies]
      exact congrArg (_ ++ [·]) filled.symm
  | headerFailed =>
      exact aligned.readFailed enabled rfl enabled rfl rfl
  | bodyFailed size =>
      exact aligned.readFailed enabled rfl enabled rfl rfl
  | posted job =>
      cases job with
      | write msg =>
          refine aligned.quiet enabled rfl ?_ ?_ ?_ rfl
          · exact client.enqueue_reads msg
          · exact client.enqueue_readMsg msg
          · exact client.enqueue_received msg
      | close => exact aligned.quiet enabled rfl rfl rfl rfl rfl
  | writeSome index count =>
      refine aligned.quiet enabled rfl ?_ rfl ?_ rfl
      · exact client.writeSome_reads index count
      · exact client.writeSome_received index count
  | written index =>
      refine aligned.quiet enabled rfl ?_ ?_ ?_ rfl
      · exact (client.finishWrite index).writeNext_reads
      · exact (client.finishWrite index).writeNext_readMsg
      · exact (client.finishWrite index).writeNext_received
  | _ => exact aligned.quiet enabled rfl rfl rfl rfl rfl

end Aligned

end PokerBackend.ClientRun
