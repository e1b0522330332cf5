import PokerBackend.ClientRun

/-!
# The ways to read from a client

A program that uses a client can wait for a message, wait for some time, take
one only if there is one, or ask how many there are.  All four look at
`read_messages_`, which the read loop fills from the other thread; only one
thread reads.

The queue is a `moodycamel::BlockingReaderWriterQueue`, whose code is not part
of the repository.  What is taken from its documentation, for one thread that
enqueues and one that dequeues: the messages leave it in the order in which
they came; a dequeue that does not wait, or no longer waits, fails only when
the queue is empty; and `size_approx` is not above what the queue holds.

However the calls are mixed, they return the messages in the order in which
the read loop has completed them.  A call that returns nothing has been told
that there is nothing more yet, and what `read_avail` counts is there to be
read.
-/

namespace PokerBackend.ClientReads

open PokerBackend.ClientRun
open PokerBackend.Lib.Execution
open PokerBackend.Net

/-- A call that has returned, with what it has returned. -/
inductive Call where
  /-- `read_wait()` -/
  | readWait (msg : Message)
  /-- `read_wait(ms)` -/
  | readWaitFor (result : Option Message)
  /-- `read_if_avail()` -/
  | readIfAvail (result : Option Message)
  /-- `read_avail()` -/
  | readAvail (size : Nat)

namespace Call

/-- The message it has returned. -/
def result : Call → Option Message
  | .readWait msg => some msg
  | .readWaitFor result => result
  | .readIfAvail result => result
  | .readAvail _ => none

/-- It reads a message, if there is one. -/
def takes : Call → Bool
  | .readAvail _ => false
  | _ => true

/--
The call can return this now.  `wait_dequeue` returns when there is a message;
the timed wait and `try_dequeue` fail only if there is none.  `size_approx` may
miss what is being enqueued.
-/
def Returns (client : Client) : Call → Prop
  | .readWait msg => client.readMessages.head? = some msg
  | .readWaitFor result => client.readMessages.head? = result
  | .readIfAvail result => client.readMessages.head? = result
  | .readAvail size => size ≤ client.readMessages.length

/-- The message that is returned is taken from the queue. -/
def apply (client : Client) (call : Call) : Client :=
  match call.result with
  | some _ => { client with readMessages := client.readMessages.tail }
  | none => client

end Call

/-- An event of the client which is no read, or a call that reads. -/
inductive Action where
  | event (event : Client.Event)
  | call (call : Call)

/-- The client, with each call that reads told apart. -/
def system : System Client Action where
  start := .create
  step source action target :=
    match action with
    | .event event =>
        event.Enabled source ∧ returnedBy event = none ∧
          target = source.apply event
    | .call call => call.Returns source ∧ target = call.apply source

/-- The event of the client that an action is. -/
def toEvent : Action → Option Client.Event
  | .event event => some event
  | .call call => call.result.map .readMessage

/-- The messages that the calls have returned, in order. -/
def results (actions : List Action) : List Message :=
  actions.filterMap fun
    | .event _ => none
    | .call call => call.result

/-- The action is a call that takes a message, if there is one. -/
def taking : Action → Bool
  | .event _ => false
  | .call call => call.takes

/-- The messages which the read loop completes in a step. -/
def completed (source : Client) (action : Action) (_ : Client) :
    List Message :=
  match action with
  | .event event => completedBy source event
  | .call _ => []

section Run

variable {client source target : Client} {actions : List Action}

/-- A call that takes returns the message in front, or nothing. -/
theorem Call.head?_of_takes {call : Call} (takes : call.takes = true)
    (returns : call.Returns client) :
    client.readMessages.head? = call.result := by
  cases call with
  | readAvail size => cases takes
  | _ => exact returns

theorem Call.head?_of_result {call : Call} {msg : Message}
    (result : call.result = some msg) (returns : call.Returns client) :
    client.readMessages.head? = some msg := by
  have takes : call.takes = true := by
    cases call with
    | readAvail size => cases result
    | _ => rfl
  rw [Call.head?_of_takes takes returns, result]

/-- A call returns what is in front of the queue, and leaves the rest. -/
theorem Call.queue_eq {call : Call} (returns : call.Returns client) :
    client.readMessages =
      call.result.toList ++ (call.apply client).readMessages := by
  cases result : call.result with
  | none => simp [Call.apply, result]
  | some msg =>
      obtain ⟨rest, queue⟩ :=
        List.head?_eq_some_iff.mp (Call.head?_of_result result returns)
      simp [Call.apply, result, queue]

/-- What is no read only adds to the queue. -/
theorem readMessages_apply {event : Client.Event}
    (enabled : event.Enabled client) (noRead : returnedBy event = none) :
    (client.apply event).readMessages =
      client.readMessages ++ completedBy client event := by
  have step := collected_step [] enabled
  simpa [collected, returned, noRead] using step

/-- The calls that return a message are reads of the client. -/
theorem client_run (run : Run system actions client) :
    Run Client.system (actions.filterMap toEvent) client := by
  apply run.simulate id toEvent
  intro source action target step
  cases action with
  | event event => exact ⟨step.1, step.2.2⟩
  | call call =>
      rcases step with ⟨returns, rfl⟩
      cases result : call.result with
      | none =>
          rw [toEvent, result, Call.apply, result]
          rfl
      | some msg =>
          rw [toEvent, result, Call.apply, result]
          exact ⟨Call.head?_of_result result returns, rfl⟩

theorem results_snoc (actions : List Action) (action : Action) :
    results (actions ++ [action]) =
      results actions ++
        match action with
        | .event _ => []
        | .call call => call.result.toList := by
  rw [results, List.filterMap_append, ← results]
  cases action with
  | event event => rfl
  | call call => cases result : call.result <;> simp [result]

/-- The run lemma: what was completed was returned, or waits to be. -/
theorem completed_of_run {history : List Message}
    (run : Run (system.record completed) actions (client, history)) :
    results actions ++ client.readMessages = history := by
  refine Run.invariant
    (motive := fun actions state =>
      results actions ++ state.1.readMessages = state.2)
    rfl ?_ run
  rintro actions ⟨source, history⟩ action ⟨target, longer⟩ -
    ⟨step, grown⟩ earlier
  simp only at step grown earlier ⊢
  rw [grown, ← earlier, results_snoc, List.append_assoc, List.append_assoc]
  cases action with
  | event event =>
      rcases step with ⟨enabled, noRead, rfl⟩
      rw [readMessages_apply enabled noRead]
      rfl
  | call call =>
      rcases step with ⟨returns, rfl⟩
      rw [← Call.queue_eq returns, completed, List.append_nil]

/-- Only calls that read make the queue shorter, each by one message. -/
theorem length_le_of_path
    (path : Path system source actions target) :
    source.readMessages.length ≤
      target.readMessages.length + actions.countP taking := by
  induction path with
  | nil => exact Nat.le_add_right _ _
  | @snoc middle target actions action init last induction =>
      rw [List.countP_append]
      cases action with
      | event event =>
          rcases last with ⟨enabled, noRead, rfl⟩
          rw [readMessages_apply enabled noRead, List.length_append]
          omega
      | call call =>
          rcases last with ⟨returns, rfl⟩
          have queue := congrArg List.length (Call.queue_eq returns)
          rw [List.length_append] at queue
          have one :
              call.result.toList.length ≤ [Action.call call].countP taking := by
            cases call with
            | readWait msg => exact Nat.le_refl 1
            | readWaitFor result => exact Option.length_toList_le
            | readIfAvail result => exact Option.length_toList_le
            | readAvail size => exact Nat.le_refl 0
          omega

/--
However the calls are mixed: they have returned the messages that the read
loop has completed, in order, up to those that are still in the queue; a call
that reads comes back empty exactly when they have returned all of them; and
the calls that read after `read_avail` has returned a number all return a
message, up to that number, whatever happens in between.
-/
theorem client_reads {history : List Message}
    (run : Run (system.record completed) actions (client, history)) :
    results actions ++ client.readMessages = history ∧
      (∀ call : Call, call.takes = true → call.Returns client →
        (call.result = none ↔ results actions = history)) ∧
      ∀ size middle target, ∀ call : Call,
        call.takes = true →
          Path system client
              (.call (.readAvail size) :: middle ++ [.call call]) target →
            middle.countP taking < size → call.result.isSome = true := by
  have returned := completed_of_run run
  refine ⟨returned, ?_, ?_⟩
  · intro call takes returns
    rw [← Call.head?_of_takes takes returns, List.head?_eq_none_iff,
      ← returned]
    constructor
    · intro empty
      rw [empty, List.append_nil]
    · intro all
      simpa using all
  · intro size middle target call takes path few
    rcases Path.of_append path with ⟨before, counted, last⟩
    rcases @Path.of_append _ _ _ _ _ [_] _ counted with
      ⟨asked, count, rest⟩
    rcases Path.of_single count with ⟨counts, unchanged⟩
    rcases Path.of_single last with ⟨returns, _⟩
    have kept := length_le_of_path rest
    have length : size ≤ client.readMessages.length := counts
    have same : asked = client := unchanged
    rw [same] at kept
    have nonempty : before.readMessages ≠ [] := by
      intro empty
      rw [empty, List.length_nil] at kept
      omega
    rw [← Call.head?_of_takes takes returns, List.isSome_head?]
    simpa using nonempty

end Run

theorem event_step (client : Client) (event : Client.Event)
    (enabled : event.Enabled client) (noRead : returnedBy event = none) :
    system.step client (.event event) (client.apply event) :=
  ⟨enabled, noRead, rfl⟩

theorem call_step (client : Client) (call : Call)
    (returns : call.Returns client) :
    system.step client (.call call) (call.apply client) :=
  ⟨returns, rfl⟩

/-- A message that arrives, is counted and is read. -/
def sampleMessage : Message :=
  .carrying (str "text")

def sampleActions : List Action :=
  [.event .connected,
    .event (.headerRead (FrameLoop.headerBytes sampleMessage)),
    .event (.bodyRead (FrameLoop.bodyBytes sampleMessage)),
    .call (.readAvail 1),
    .call (.readIfAvail (some sampleMessage)),
    .call (.readWaitFor none)]

theorem sample_run : ∃ client, Run system sampleActions client := by
  have connected :=
    Path.single (event_step .create .connected rfl rfl)
  have header :=
    connected.snoc
      (event_step _ (.headerRead (FrameLoop.headerBytes sampleMessage))
        (by decide +kernel) rfl)
  have body :=
    header.snoc
      (event_step _ (.bodyRead (FrameLoop.bodyBytes sampleMessage))
        (by decide +kernel) rfl)
  have counted :=
    body.snoc
      (call_step _ (.readAvail 1) (by unfold Call.Returns; decide +kernel))
  have read :=
    counted.snoc
      (call_step _ (.readIfAvail (some sampleMessage))
        (by unfold Call.Returns; decide +kernel))
  exact ⟨_, read.snoc (call_step _ (.readWaitFor none) rfl)⟩

/-- The only message has been read. -/
theorem client_reads_sample :
    ∃ history client,
      Run (system.record completed) sampleActions (client, history) ∧
        [sampleMessage] ++ client.readMessages = history := by
  obtain ⟨client, run⟩ := sample_run
  obtain ⟨history, recorded⟩ := Run.record run completed
  exact ⟨history, client, recorded, (client_reads recorded).1⟩

end PokerBackend.ClientReads
