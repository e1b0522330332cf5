import PokerBackend.Net.Participants
import PokerBackend.Net.WriteQueue

/-!
# What the server sends on a connection

The messages delivered to a connection are one greeting, when it is accepted,
and then one response for each request of its own that is served.  They go
through its write queue, so the bytes it puts on the wire are a prefix of
their frames.
-/

namespace PokerBackend.Net.Delivery

open PokerBackend.Lib.Execution
open PokerBackend.Lib.OutputQueue
open PokerBackend.Net.MesHandler
open PokerBackend.Net.Participants
open PokerBackend.Net.ReadLoop
open PokerBackend.Net.Serving
open PokerBackend.Net.TcpServer

/-! ## Histories of one connection -/

/-- The steps of a run that are about one connection. -/
def about (conn : ConnId) (labels : List TcpServer.Label) :
    List TcpServer.Label :=
  labels.filter fun label => label.1.conn = conn

/-- The exchanges with one connection, in order. -/
def exchanges (conn : ConnId) (labels : List TcpServer.Label) :
    List Exchange :=
  (about conn labels).filterMap Prod.snd

/-- The body that an event hands to `handle`. -/
def handed : Event → Option Bytes
  | .bodyRead _ bytes _ => some bytes.1
  | _ => none

/-- The bodies from one connection that `handle` has returned from, in order. -/
def handled (conn : ConnId) (labels : List TcpServer.Label) :
    List Bytes :=
  (about conn labels).filterMap fun label => handed label.1

/-- The message which a step delivers to its connection. -/
def deliveredBy (env : Env) : TcpServer.Label → List Message
  | (.accepted _, _) => [.carrying (greeting env)]
  | (.bodyRead _ _ _, some exchange) =>
      [.carrying (responseText env.rapidjson exchange)]
  | _ => []

/-- The messages delivered to one connection, in order. -/
def delivered
    (env : Env) (conn : ConnId) (labels : List TcpServer.Label) :
    List Message :=
  (about conn labels).flatMap (deliveredBy env)

/-- The texts one connection may expect: the greeting, then the responses. -/
def replies
    (env : Env) (conn : ConnId) (labels : List TcpServer.Label) :
    List Bytes :=
  greeting env ::
    (exchanges conn labels).map (responseText env.rapidjson)

/-- The request in a body, if it is of a known type. -/
def known (env : Env) (body : Bytes) : Option Request :=
  match decode env.rapidjson body with
  | .ok read => read
  | .error _ => none

section Histories

variable
    (env : Env) (conn : ConnId) (labels : List TcpServer.Label)
    (label : TcpServer.Label)

theorem about_snoc :
    about conn (labels ++ [label]) =
      about conn labels ++
        if label.1.conn = conn then [label] else [] := by
  rw [about, List.filter_append, List.filter_singleton]
  simp [about]

theorem exchanges_snoc :
    exchanges conn (labels ++ [label]) =
      exchanges conn labels ++
        if label.1.conn = conn then label.2.toList else [] := by
  rw [exchanges, about_snoc, List.filterMap_append]
  split
  · cases seen : label.2 <;> simp [exchanges, seen]
  · rfl

theorem handled_snoc :
    handled conn (labels ++ [label]) =
      handled conn labels ++
        if label.1.conn = conn then (handed label.1).toList else [] := by
  rw [handled, about_snoc, List.filterMap_append]
  split
  · cases seen : handed label.1 <;> simp [handled, seen]
  · rfl

theorem delivered_snoc :
    delivered env conn (labels ++ [label]) =
      delivered env conn labels ++
        if label.1.conn = conn then deliveredBy env label else [] := by
  rw [delivered, about_snoc, List.flatMap_append]
  split <;> simp [delivered]

/-- No step so far is about the connection that is being accepted. -/
theorem about_accepting
    {labels : List TcpServer.Label} {state : Server}
    (recorded : Recorded labels state) :
    about state.accepting labels = [] := by
  apply List.filter_eq_nil_iff.mpr
  intro label member
  simpa using (recorded.conn_lt label member).ne

end Histories

/-! ## The write queue of a connection -/

/-- The step of the output queue which a step is for its connection. -/
def observe (env : Env) :
    TcpServer.Label → Option (Lib.OutputQueue.Label Message)
  | (.accepted _, _) => some (.push (.carrying (greeting env)))
  | (.bodyRead _ _ _, some exchange) =>
      some (.push (.carrying (responseText env.rapidjson exchange)))
  | (.writeSome _ index count, _) => some (.progress index count)
  | (.written _ index, _) => some (.complete index)
  | (.writeFailed _ index, _) => some (.fail index)
  | _ => none

/-- What a step is for the output queue of its connection. -/
theorem outbox_step
    {env : Env} {source target : Server} {event : Event}
    {out : Option Exchange}
    (change : Change env source event out target) :
    WriteQueue.queue.stepOrStay (source.connections event.conn).outbox
      (observe env (event, out))
      (target.connections event.conn).outbox := by
  cases change with
  | accepted =>
      simp only [Event.conn, afterAccept_connections_same]
      exact WriteQueue.enqueue_step _ _
  | acceptFailed => rfl
  | headerRead conn bytes =>
      simp only [Event.conn, afterHeader_connections_same]
      exact TcpConnection.outbox_headerRead _
  | headerFailed conn =>
      simp only [Event.conn, afterFailure_connections_same]
      rfl
  | ignored conn bytes =>
      simp only [Event.conn, Server.updateConnection_same,
        afterBody_connections_same]
      rfl
  | served conn bytes db req =>
      simp only [Event.conn, Server.updateConnection_same,
        served_connections_same, afterBody_connections_same]
      exact WriteQueue.enqueue_step
        (Endpoint.fillBody (source.connections conn) bytes) _
  | bodyFailed conn size =>
      simp only [Event.conn, afterFailure_connections_same]
      rfl
  | writeSome conn index count =>
      simp only [Event.conn, Server.updateConnection_same]
      exact WriteQueue.writeSome_step _ index count
  | written conn index finished =>
      simp only [Event.conn, Server.updateConnection_same]
      exact WriteQueue.writeNext_step _ finished
  | writeFailed conn index pending =>
      simp only [Event.conn, afterFailure_connections_same]
      exact WriteQueue.finishWrite_step _ pending

/-- The write queue of a connection holds what was delivered to it. -/
theorem connection_phase
    {env : Env} {labels : List TcpServer.Label} {state : Server}
    (run : Run (server env) labels state) (conn : ConnId) :
    ∃ failed,
      Phase Message.frame (delivered env conn labels) failed
        (state.connections conn).outbox := by
  have phase :=
    @phase_of_simulation _ _ Message.frame _ _ (server env)
      (fun state => (state.connections conn).outbox)
      (fun label =>
        if decide (label.1.conn = conn) = true then observe env label
        else none)
      rfl ?_ _ _ run
  · rw [← List.filterMap_filter] at phase
    have pushed :
        ∀ label,
          (observe env label).elim [] Label.pushed =
            deliveredBy env label := by
      rintro ⟨event, out⟩
      cases event <;> cases out <;> rfl
    rw [pushedBy_filterMap pushed] at phase
    exact ⟨_, phase⟩
  · intro source label target step
    have change := step_cases step
    by_cases same : label.1.conn = conn
    · rw [if_pos (decide_eq_true same)]
      subst conn
      exact outbox_step change
    · rw [if_neg (by simpa using same)]
      exact congrArg Endpoint.outbox
        (change.connections_of_ne (Ne.symm same))

/-! ## Greetings and responses -/

/-- A connection is sent nothing, or the greeting and then the responses. -/
def Answered
    (env : Env) (conn : ConnId) (labels : List TcpServer.Label) : Prop :=
  ¬ Accepted labels conn ∧ delivered env conn labels = [] ∧
      exchanges conn labels = [] ∨
    delivered env conn labels =
      (replies env conn labels).map Message.carrying

section Step

variable
    {env : Env} {source target : Server} {event : Event}
    {out : Option Exchange} {labels : List TcpServer.Label}
    {conn : ConnId}

/-- A step which delivers nothing leaves everything as it was. -/
theorem Answered.silent
    (answered : Answered env conn labels)
    (notAccept : event ≠ .accepted conn)
    (quiet : event.conn = conn → deliveredBy env (event, out) = [])
    (noExchange : event.conn = conn → out = none) :
    Answered env conn (labels ++ [(event, out)]) := by
  have sameDelivered :
      delivered env conn (labels ++ [(event, out)]) =
        delivered env conn labels := by
    rw [delivered_snoc]
    split
    · next here => rw [quiet here, List.append_nil]
    · exact List.append_nil _
  have sameExchanges :
      exchanges conn (labels ++ [(event, out)]) =
        exchanges conn labels := by
    rw [exchanges_snoc]
    split
    · next here =>
        rw [noExchange here, Option.toList_none, List.append_nil]
    · exact List.append_nil _
  rw [Answered, replies, sameDelivered, sameExchanges, accepted_snoc,
    or_iff_left notAccept]
  exact answered

theorem Answered.step
    (answered : Answered env conn labels)
    (recorded : Recorded labels source)
    (change : Change env source event out target) :
    Answered env conn (labels ++ [(event, out)]) := by
  by_cases same : event.conn = conn
  · subst conn
    cases change with
    | accepted =>
        right
        rw [replies, delivered_snoc, exchanges_snoc, delivered, exchanges,
          Event.conn, about_accepting recorded]
        simp [deliveredBy]
    | served conn bytes db req pending =>
        -- a pending read means that the connection has been accepted
        have accepted : Accepted labels conn := by
          apply recorded.touched conn
          intro untouched
          rw [untouched] at pending
          cases pending
        rcases answered with ⟨never, _⟩ | sent
        · exact absurd accepted never
        · right
          rw [delivered_snoc, sent, replies, replies, exchanges_snoc]
          simp [Event.conn, deliveredBy]
    | _ => exact answered.silent (by simp) (fun _ => rfl) fun _ => rfl
  · refine answered.silent ?_ (absurd · same) (absurd · same)
    rintro rfl
    exact same rfl

end Step

section Run

variable
    {env : Env} {labels : List TcpServer.Label} {state : Server}

theorem answered_of_run
    (run : Run (server env) labels state) (conn : ConnId) :
    Answered env conn labels := by
  refine Run.invariant
    (motive := fun labels _ => Answered env conn labels) ?_ ?_ run
  · exact Or.inl ⟨by simp [Accepted], rfl, rfl⟩
  · intro labels source label target path step answered
    exact answered.step (recorded_of_run path) (step_cases step)

/-- Every text that is sent fits into a message. -/
theorem replies_fit
    (run : Run (server env) labels state) (conn : ConnId) :
    ∀ text ∈ replies env conn labels, text.length ≤ maxBodyLength := by
  have fits :=
    run.forall_labels
      (motive := fun label =>
        ∀ exchange, label.2 = some exchange →
          (responseText env.rapidjson exchange).length ≤ maxBodyLength)
      (by
        intro labels source label target _ step exchange exchanged
        rcases (step_cases step).accounts with
          ⟨none, _⟩ | ⟨req, some, _⟩
        · rw [none] at exchanged
          cases exchanged
        · rw [some] at exchanged
          cases exchanged
          exact responseText_fits env source.table _ req env.rapidjson)
  refine List.forall_mem_cons.mpr ⟨greeting_fits env, ?_⟩
  intro text member
  rcases List.mem_map.mp member with ⟨exchange, exchanged, rfl⟩
  rcases List.mem_filterMap.mp exchanged with ⟨label, among, isExchange⟩
  exact fits label (List.mem_of_mem_filter among) exchange isExchange

/-- What is delivered is, in order, the greeting and the responses. -/
theorem delivered_spec
    (run : Run (server env) labels state) (conn : ConnId) :
    (∀ message ∈ delivered env conn labels, message.Encoded) ∧
      (delivered env conn labels).map Message.body <+:
        replies env conn labels := by
  have fits := replies_fit run conn
  rcases answered_of_run run conn with ⟨_, nothing, _⟩ | sent
  · rw [nothing]
    exact ⟨by simp, List.nil_prefix⟩
  · rw [sent]
    constructor
    · intro message member
      rcases List.mem_map.mp member with ⟨text, among, rfl⟩
      exact (Message.carrying_spec (fits text among)).1
    · have bodies :
          ((replies env conn labels).map Message.carrying).map
              Message.body =
            replies env conn labels := by
        rw [List.map_map]
        refine (List.map_congr_left ?_).trans (List.map_id _)
        intro text among
        exact (Message.carrying_spec (fits text among)).2
      rw [bodies]

/-- One exchange for each body of a known type that was handled. -/
theorem exchanges_requests
    (run : Run (server env) labels state) (conn : ConnId) :
    (exchanges conn labels).map request =
      (handled conn labels).filterMap (known env) := by
  have matched :=
    run.forall_labels
      (motive := fun label =>
        label.2.map request = (handed label.1).bind (known env))
      (by
        rintro labels source ⟨event, out⟩ target path step
        have tidy := tidy_of_run path
        have change := step_cases step
        simp only at change
        cases change with
        | ignored conn bytes db pending otherType =>
            rw [tidy.bodyMessage_body pending] at otherType
            simp [handed, known, otherType]
        | served conn bytes db req pending isKnown =>
            rw [tidy.bodyMessage_body pending] at isKnown
            simp [handed, known, isKnown, request_outcome]
        | _ => rfl)
  rw [exchanges, handled, List.map_filterMap, List.filterMap_filterMap]
  apply List.filterMap_congr
  intro label member
  exact matched label (List.mem_of_mem_filter member)

end Run

end PokerBackend.Net.Delivery
