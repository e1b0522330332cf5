import PokerBackend.Client
import PokerBackend.Net.TcpConnection

/-!
# The write queues of both ends

`tcp_connection` and `client` move their queues, writes and wires as an
output queue does: `deliver` and the handler that `client::write` posts are
pushes, and the completion handlers of `do_write_` are completions and
failures.  What is known of output queues holds of both.
-/

namespace PokerBackend.Net.WriteQueue

open PokerBackend.Lib.Execution
open PokerBackend.Lib.OutputQueue

/-! ## Endpoints as output queues -/

/-- The output queue of messages. -/
abbrev queue : System (Outbox Message UInt8) (Label Message) :=
  Lib.OutputQueue.system Message.frame

section Endpoint

variable (endpoint : Endpoint)

theorem enqueue_step (msg : Message) :
    queue.step endpoint.outbox (.push msg)
      (endpoint.enqueue msg).outbox := by
  rw [Endpoint.outbox_enqueue]
  exact .push _ msg

theorem writeSome_step (index count : Nat) :
    queue.step endpoint.outbox (.progress index count)
      (endpoint.writeSome index count).outbox := by
  rw [Endpoint.outbox_writeSome]
  exact .progress _ index count

theorem writeNext_step
    {index : Nat} (finished : endpoint.socket.Written index) :
    queue.step endpoint.outbox (.complete index)
      (endpoint.finishWrite index).writeNext.outbox := by
  rcases finished with ⟨transfer, outstanding, whole⟩
  rw [Endpoint.outbox_writeNext]
  exact .complete _ index transfer outstanding whole

theorem finishWrite_step
    {index : Nat} (pending : index < endpoint.socket.writes.length) :
    queue.step endpoint.outbox (.fail index)
      (endpoint.finishWrite index).outbox := by
  rw [Endpoint.outbox_finishWrite]
  exact .fail _ index pending

end Endpoint

/-- The discipline of a write queue, given the messages enqueued so far. -/
structure Disciplined
    (enqueued : List Message) (failed : Bool) (endpoint : Endpoint) :
    Prop where
  one_write : endpoint.socket.writes.length ≤ 1
  front :
    ∀ transfer ∈ endpoint.socket.writes,
      ∃ front rest,
        endpoint.writeMsgs = front :: rest ∧
          transfer.payload = front.frame
  busy :
    failed = false →
      (endpoint.socket.writes ≠ [] ↔ endpoint.writeMsgs ≠ [])
  wire : endpoint.socket.wire <+: enqueued.flatMap Message.frame

theorem disciplined_of_phase
    {enqueued : List Message} {failed : Bool} {endpoint : Endpoint}
    (phase : Phase Message.frame enqueued failed endpoint.outbox) :
    Disciplined enqueued failed endpoint where
  one_write := phase.one_transfer
  front _ outstanding := phase.front_of_transfer outstanding
  busy healthy := phase.transfers_ne_nil_iff healthy
  wire := phase.wire_pushed

/-! ## The writing side of `tcp_connection` -/

/-- A call of `deliver`, some bytes of a write leaving, or a completion. -/
inductive SendEvent where
  | deliver (msg : Message)
  | writeSome (index count : Nat)
  | written (index : Nat)
  | writeFailed (index : Nat)

namespace SendEvent

def Enabled (connection : TcpConnection) : SendEvent → Prop
  | .deliver _ => True
  | .writeSome index _ => index < connection.socket.writes.length
  | .written index => connection.socket.Written index
  | .writeFailed index => index < connection.socket.writes.length

instance (connection : TcpConnection) (event : SendEvent) :
    Decidable (Enabled connection event) := by
  cases event <;> unfold Enabled <;> infer_instance

/--
What the event does; after an error the handler only calls `del_connection`.
-/
def apply (connection : TcpConnection) : SendEvent → TcpConnection
  | .deliver msg => connection.deliver msg
  | .writeSome index count => connection.writeSome index count
  | .written index =>
      TcpConnection.messageWritten (connection.finishWrite index)
  | .writeFailed index => connection.finishWrite index

/-- The step of the output queue which the event is. -/
def observe : SendEvent → Option (Label Message)
  | .deliver msg => some (.push msg)
  | .writeSome index count => some (.progress index count)
  | .written index => some (.complete index)
  | .writeFailed index => some (.fail index)

/-- The message which the event enqueues. -/
def enqueued : SendEvent → List Message
  | .deliver msg => [msg]
  | _ => []

/-- The event is a write that fails. -/
def failed : SendEvent → Bool
  | .writeFailed _ => true
  | _ => false

end SendEvent

/-- Any calls of `deliver` among the completions of writes. -/
def sending : System TcpConnection SendEvent where
  start := .create
  step source event target :=
    event.Enabled source ∧ target = event.apply source

theorem step_of_enabled
    (connection : TcpConnection) (event : SendEvent)
    (enabled : event.Enabled connection) :
    sending.step connection event (event.apply connection) :=
  ⟨enabled, rfl⟩

theorem sending_step
    {source target : TcpConnection} {event : SendEvent}
    (step : sending.step source event target) :
    queue.stepOrStay source.outbox event.observe target.outbox := by
  rcases step with ⟨enabled, rfl⟩
  cases event with
  | deliver msg => exact enqueue_step source msg
  | writeSome index count => exact writeSome_step source index count
  | written index => exact writeNext_step source enabled
  | writeFailed index => exact finishWrite_step source enabled

theorem sending_phase
    {events : List SendEvent} {connection : TcpConnection}
    (run : Run sending events connection) :
    Phase Message.frame (events.flatMap SendEvent.enqueued)
      (events.any SendEvent.failed) connection.outbox := by
  have phase :=
    phase_of_simulation Endpoint.outbox SendEvent.observe rfl
      (fun _ _ _ step => sending_step step) run
  have pushed :
      ∀ event : SendEvent,
        event.observe.elim [] Label.pushed = event.enqueued := by
    rintro ⟨⟩ <;> rfl
  have fails :
      ∀ event : SendEvent,
        event.observe.elim false Label.failed = event.failed := by
    rintro ⟨⟩ <;> rfl
  rw [pushedBy_filterMap pushed, anyFailed_filterMap fails] at phase
  exact phase

/-! ## The writing side of `client` -/

/-- The step of the output queue which an event of a client is, if any. -/
def observe : Client.Event → Option (Label Message)
  | .posted (.write msg) => some (.push msg)
  | .writeSome index count => some (.progress index count)
  | .written index => some (.complete index)
  | .writeFailed index => some (.fail index)
  | _ => none

/-- The message which an event of a client enqueues. -/
def enqueued : Client.Event → List Message
  | .posted (.write msg) => [msg]
  | _ => []

/-- The event of a client is a write that fails. -/
def failed : Client.Event → Bool
  | .writeFailed _ => true
  | _ => false

theorem client_step
    {source target : Client} {event : Client.Event}
    (step : Client.system.step source event target) :
    queue.stepOrStay source.toEndpoint.outbox (observe event)
      target.toEndpoint.outbox := by
  rcases step with ⟨enabled, rfl⟩
  cases event with
  | posted job =>
      cases job with
      | write msg => exact enqueue_step source.toEndpoint msg
      | close => rfl
  | writeSome index count =>
      exact writeSome_step source.toEndpoint index count
  | written index => exact writeNext_step source.toEndpoint enabled
  | writeFailed index => exact finishWrite_step source.toEndpoint enabled
  | headerRead bytes => exact Client.headerRead_outbox _
  | _ => rfl

theorem client_phase
    {events : List Client.Event} {client : Client}
    (run : Run Client.system events client) :
    Phase Message.frame (events.flatMap enqueued) (events.any failed)
      client.toEndpoint.outbox := by
  have phase :=
    phase_of_simulation (fun client => client.toEndpoint.outbox) observe rfl
      (fun _ _ _ step => client_step step) run
  have pushed :
      ∀ event, (observe event).elim [] Label.pushed = enqueued event := by
    rintro (_ | _ | _ | ⟨_ | _⟩ | _) <;> rfl
  have fails :
      ∀ event, (observe event).elim false Label.failed = failed event := by
    rintro (_ | _ | _ | ⟨_ | _⟩ | _) <;> rfl
  rw [pushedBy_filterMap pushed, anyFailed_filterMap fails] at phase
  exact phase

/-! ## Both ends -/

/--
Both write queues: one write at a time, of the front message, which stays in
front until the write completes; outstanding exactly while the queue is
nonempty, unless a write has failed; and the bytes on the wire are a prefix
of the frames in the order they were enqueued.
-/
theorem write_queues_disciplined :
    (∀ events connection,
      Run sending events connection →
        Disciplined (events.flatMap SendEvent.enqueued)
            (events.any SendEvent.failed) connection ∧
          ∀ event target,
            sending.step connection event target →
              connection.socket.writes ≠ [] →
                (∀ index, event ≠ .written index) →
                  target.writeMsgs.head? = connection.writeMsgs.head?) ∧
      ∀ events client,
        Run Client.system events client →
          Disciplined (events.flatMap enqueued) (events.any failed)
              client.toEndpoint ∧
            ∀ event target,
              Client.system.step client event target →
                client.socket.writes ≠ [] →
                  (∀ index, event ≠ .written index) →
                    target.writeMsgs.head? = client.writeMsgs.head? := by
  constructor
  · intro events connection run
    have phase := sending_phase run
    constructor
    · exact disciplined_of_phase phase
    · intro event target step pending unfinished
      apply front_stays phase (sending_step step) pending
      intro index completes
      cases event with
      | written other => exact unfinished other rfl
      | _ => cases completes
  · intro events client run
    have phase := client_phase run
    constructor
    · exact disciplined_of_phase phase
    · intro event target step pending unfinished
      apply front_stays phase (client_step step) pending
      intro index completes
      cases event with
      | written other => exact unfinished other rfl
      | posted job => cases job <;> cases completes
      | _ => cases completes

/-- Two deliveries, some bytes of the first one, and then its write fails. -/
def brokenOff : List SendEvent :=
  [.deliver (.carrying (str "one")), .deliver (.carrying (str "two")),
    .writeSome 0 5, .writeFailed 0]

/-- What that leaves of the connection. -/
def brokenConnection : TcpConnection :=
  brokenOff.foldl (fun connection event => event.apply connection) .create

/-- Both messages stay queued, and the wire ends within the first one. -/
theorem write_queues_disciplined_brokenOff :
    brokenConnection.writeMsgs.length = 2 ∧
      brokenConnection.socket.wire = str "   3o" ∧
        Disciplined
          [.carrying (str "one"), .carrying (str "two")] true
          brokenConnection := by
  have delivered :=
    Path.single
      (step_of_enabled .create (.deliver (.carrying (str "one"))) trivial)
  have queued :=
    delivered.snoc
      (step_of_enabled _ (.deliver (.carrying (str "two"))) trivial)
  have started :=
    queued.snoc (step_of_enabled _ (.writeSome 0 5) (by decide +kernel))
  have run :=
    started.snoc (step_of_enabled _ (.writeFailed 0) (by decide +kernel))
  have disciplined := (write_queues_disciplined.1 _ _ run).1
  exact ⟨by decide +kernel, by decide +kernel, disciplined⟩

end PokerBackend.Net.WriteQueue
