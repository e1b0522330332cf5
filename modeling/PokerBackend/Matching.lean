import PokerBackend.Network
import PokerBackend.Reference

/-!
# Requests and responses match, end to end

On every connection, the requests the server handles are a prefix of those
its client has written, and the messages the client returns are a prefix of
the greeting followed by one response for each request handled for it, in the
order of the requests.

The two invariants say that the read loop of either end is aligned with what
the other end has been told to send; the write queues of the two ends connect
them.
-/

namespace PokerBackend.Matching

open PokerBackend.Lib.Execution
open PokerBackend.Lib.FrameStream
open PokerBackend.Net
open PokerBackend.Net.MesHandler
open PokerBackend.Net.Participants
open PokerBackend.Net.ReadLoop
open PokerBackend.Net.Serving
open PokerBackend.Net.TcpServer
open PokerBackend.Network
open PokerBackend.Reference

/-! ## The read loop of the server's end -/

section Connection

variable
    {env : Env} {source target : Server} {event : Event}
    {out : Option Exchange} {sent done : List Message}

/--
A step of the server keeps the read loop of its connection aligned, and what
it hands to `handle` is the body of the next message.
-/
theorem connection_step
    (reading : Reading sent done (source.connections event.conn))
    (tidy : Tidy source)
    (change : Change env source event out target)
    (first : event = .accepted source.accepting → done = [])
    (encoded : ∀ message ∈ sent, message.Encoded)
    (seen :
      (target.connections event.conn).socket.received <+:
        Message.framing.stream sent) :
    ∃ values : List Message,
      values.map Message.body = (Delivery.handed event).toList ∧
        Reading sent (done ++ values)
          (target.connections event.conn) := by
  cases change with
  | accepted =>
      have untouched := tidy.unaccepted source.accepting (Nat.le_refl _)
      refine ⟨[], rfl, ?_⟩
      rw [first rfl]
      simp only [Event.conn, afterAccept_connections_same, untouched]
      exact Reading.started (Endpoint.enqueue_reads _ _)
        (Endpoint.enqueue_received _ _)
  | acceptFailed =>
      refine ⟨[], rfl, ?_⟩
      rw [List.append_nil]
      exact reading
  | headerRead conn bytes pending =>
      refine ⟨[], rfl, ?_⟩
      simp only [Event.conn, afterHeader_connections_same,
        List.append_nil] at reading seen ⊢
      rw [TcpConnection.headerRead_received] at seen
      apply reading.header_step encoded pending seen
      intro size announced accepted
      exact TcpConnection.headerRead_of_accepted announced accepted
  | headerFailed conn pending =>
      refine ⟨[], rfl, ?_⟩
      simp only [Event.conn, afterFailure_connections_same,
        List.append_nil] at reading ⊢
      exact reading.readFailed pending
  | ignored conn bytes db pending =>
      simp only [Event.conn, Server.updateConnection_same,
        afterBody_connections_same] at reading seen ⊢
      rcases reading.body_step pending seen with ⟨value, isBody, _, next⟩
      exact ⟨[value], congrArg (fun body => [body]) isBody.symm, next⟩
  | served conn bytes db req pending =>
      simp only [Event.conn, Server.updateConnection_same,
        served_connections_same, afterBody_connections_same]
        at reading seen ⊢
      obtain ⟨value, isBody, _, next⟩ :=
        reading.body_step pending
          (by simpa [Endpoint.doReadHeader, Socket.asyncRead] using seen)
      refine ⟨[value], congrArg (fun body => [body]) isBody.symm, ?_⟩
      exact next.congr (by simp) (by simp)
        (by simp [Endpoint.doReadHeader, Socket.asyncRead])
  | bodyFailed conn size pending =>
      refine ⟨[], rfl, ?_⟩
      simp only [Event.conn, afterFailure_connections_same,
        List.append_nil] at reading ⊢
      exact reading.readFailed pending
  | writeSome conn index count =>
      refine ⟨[], rfl, ?_⟩
      simp only [Event.conn, Server.updateConnection_same,
        List.append_nil] at reading ⊢
      exact reading.congr (by simp) (by simp) (by simp)
  | written conn index =>
      refine ⟨[], rfl, ?_⟩
      simp only [Event.conn, Server.updateConnection_same,
        List.append_nil] at reading ⊢
      exact reading.congr (by simp) (by simp) (by simp)
  | writeFailed conn index =>
      refine ⟨[], rfl, ?_⟩
      simp only [Event.conn, afterFailure_connections_same,
        List.append_nil] at reading ⊢
      exact reading.congr (by simp) (by simp) (by simp)

end Connection

/-! ## What each end has been told to send -/

section Sent

variable
    {env : Env} {actions : List Action} {network : Network}

theorem written_encoded
    (run : Run (system env) actions network) (conn : ConnId) :
    ∀ message ∈ written conn actions, message.Encoded := by
  have told :=
    run.forall_labels
      (motive := fun action =>
        ∀ message, action = .client conn (.write message) →
          message.Encoded)
      (by
        rintro _ source action target _ move message rfl
        cases move with
        | client _ sendable => exact sendable)
  intro message member
  rcases List.mem_filterMap.mp member with ⟨event, happened, isWrite⟩
  rcases List.mem_filterMap.mp happened with ⟨action, among, isEvent⟩
  apply told action among message
  cases event with
  | write msg =>
      cases isWrite
      cases action with
      | client other event =>
          rw [clientEvent] at isEvent
          split at isEvent
          · next same =>
              cases isEvent
              rw [same]
          · cases isEvent
      | _ => cases isEvent
  | _ => cases isWrite

theorem wire_of_connection
    (run : Run (system env) actions network) (conn : ConnId) :
    (network.server.connections conn).socket.wire <+:
      Message.framing.stream
        (Delivery.delivered env conn (serverLabels actions)) := by
  rcases Delivery.connection_phase (server_run run) conn with ⟨_, phase⟩
  rw [Message.framing_stream]
  exact phase.wire_pushed

theorem wire_of_client
    (run : Run (system env) actions network) (conn : ConnId) :
    (network.clients conn).socket.wire <+:
      Message.framing.stream (written conn actions) :=
  ClientRun.wire_written (client_run run conn)

end Sent

/-! ## The invariant of the server's end -/

/--
What has been handled for a connection was written by its client.  While the
process runs, every handled body has been returned from, and the read loop is
aligned.
-/
structure Heard
    (conn : ConnId) (actions : List Action) (network : Network) :
    Prop where
  completed :
    Delivery.handled conn (serverLabels actions) <+: handled conn actions
  aligned :
    handled conn actions <+: (written conn actions).map Message.body
  running :
    network.running = true →
      handled conn actions =
          Delivery.handled conn (serverLabels actions) ∧
        ∃ done : List Message,
          done.map Message.body = handled conn actions ∧
            Reading (written conn actions) done
              (network.server.connections conn)

section Heard

variable
    {env : Env} {actions : List Action} {source : Network}
    {conn : ConnId}

theorem heard_start (conn : ConnId) : Heard conn [] .start where
  completed := List.nil_prefix
  aligned := List.nil_prefix
  running _ := ⟨rfl, [], rfl, .stopped List.nil_prefix rfl⟩

/-- What is accepted now has not been heard of before. -/
theorem done_of_accepting
    (run : Run (system env) actions source) {done : List Message}
    (bodies :
      done.map Message.body =
        Delivery.handled source.server.accepting
          (serverLabels actions)) :
    done = [] := by
  rw [Delivery.handled,
    Delivery.about_accepting (recorded_of_run (server_run run))] at bodies
  exact List.map_eq_nil_iff.mp bodies

/-- A completion handler of the connection returns. -/
theorem Heard.server_here
    {event : Event} {out : Option Exchange} {reached : Server}
    (heard : Heard event.conn actions source)
    (run : Run (system env) actions source)
    (running : source.running = true)
    (change : Change env source.server event out reached)
    (carried :
      Carried (reached.connections event.conn)
        (source.clients event.conn)) :
    Heard event.conn (actions ++ [.server event out])
      (source.onServer reached) := by
  rcases heard.running running with ⟨sameHandled, done, bodies, reading⟩
  have first : event = .accepted source.server.accepting → done = [] := by
    rintro rfl
    exact done_of_accepting run (bodies.trans sameHandled)
  obtain ⟨values, handed, next⟩ :=
    connection_step reading (tidy_of_run (server_run run)) change first
      (written_encoded run event.conn)
      (carried.1.trans (wire_of_client run event.conn))
  have grown :
      handled event.conn (actions ++ [.server event out]) =
        Delivery.handled event.conn
          (serverLabels (actions ++ [.server event out])) := by
    simp [handled_snoc, Network.handed, Delivery.handled_snoc,
      sameHandled]
  have bodiesNext :
      (done ++ values).map Message.body =
        handled event.conn (actions ++ [.server event out]) := by
    rw [List.map_append, bodies, handed, handled_snoc]
    simp [Network.handed]
  refine ⟨?_, ?_, ?_⟩
  · rw [grown]
  · rw [← bodiesNext, written_server]
    exact next.done_sent.map _
  · intro _
    rw [written_server]
    exact ⟨grown, done ++ values, bodiesNext, next⟩

/-- A completion handler of another connection returns. -/
theorem Heard.server_elsewhere
    {event : Event} {out : Option Exchange} {reached : Server}
    (heard : Heard conn actions source)
    (running : source.running = true)
    (change : Change env source.server event out reached)
    (different : event.conn ≠ conn) :
    Heard conn (actions ++ [.server event out])
      (source.onServer reached) := by
  have sameHandled :
      handled conn (actions ++ [.server event out]) =
        handled conn actions := by
    simp [handled_snoc, Network.handed, different]
  have sameBelow :
      Delivery.handled conn
          (serverLabels (actions ++ [.server event out])) =
        Delivery.handled conn (serverLabels actions) := by
    simp [Delivery.handled_snoc, different]
  refine ⟨?_, ?_, ?_⟩
  · rw [sameHandled, sameBelow]
    exact heard.completed
  · rw [sameHandled, written_server]
    exact heard.aligned
  · intro _
    rw [sameHandled, sameBelow, written_server, onServer_server,
      change.connections_of_ne (Ne.symm different)]
    exact heard.running running

/-- A completion handler of the server throws, which ends the process. -/
theorem Heard.fault
    (heard : Heard conn actions source)
    (run : Run (system env) actions source)
    {event : Event} {fault : Fault} {reached : Server}
    (running : source.running = true)
    (enabled : event.Enabled source.server)
    (thrown :
      (callback env event).run source.server = .error fault reached)
    (carried :
      Carried (reached.connections event.conn)
        (source.clients event.conn)) :
    Heard conn (actions ++ [.fault event]) source.ended := by
  rcases heard.running running with ⟨sameHandled, done, bodies, reading⟩
  refine ⟨?_, ?_, by simp [ended]⟩
  · rw [serverLabels_fault, handled_snoc]
    exact heard.completed.trans (List.prefix_append _ _)
  · rw [written_fault, handled_snoc]
    rcases fault_cases thrown with ⟨other, bytes, db, rfl, rfl⟩
    by_cases same : other = conn
    · subst other
      simp only [Event.conn, afterBody_connections_same] at carried
      obtain ⟨value, isBody, _, next⟩ :=
        reading.body_step enabled
          (carried.1.trans (wire_of_client run conn))
      have bodiesNext := next.done_sent.map Message.body
      rw [List.map_append, bodies] at bodiesNext
      simpa [Network.handed, Event.conn, Delivery.handed, isBody]
        using bodiesNext
    · simpa [Network.handed, Event.conn, same] using heard.aligned

/-- Something happens at a client. -/
theorem Heard.client
    (heard : Heard conn actions source)
    (other : ConnId) (event : Client.Event) :
    Heard conn (actions ++ [.client other event])
      (source.onClient other event) := by
  have grown := written_client conn actions other event
  refine ⟨?_, ?_, ?_⟩
  · rw [handled_client, serverLabels_client]
    exact heard.completed
  · rw [handled_client]
    exact heard.aligned.trans (grown.map _)
  · intro running
    rcases heard.running running with ⟨same, done, bodies, reading⟩
    rw [handled_client, serverLabels_client]
    exact ⟨same, done, bodies, reading.more grown⟩

/-- The run lemma. -/
theorem heard_of_run
    {network : Network} (run : Run (system env) actions network)
    (conn : ConnId) :
    Heard conn actions network := by
  refine Run.invariant
    (motive := fun actions network => Heard conn actions network)
    (heard_start conn) ?_ run
  intro actions source action target path move heard
  cases move with
  | @server event out reached running step carried =>
      have change := step_cases step
      by_cases same : event.conn = conn
      · subst conn
        exact heard.server_here path running change carried
      · exact heard.server_elsewhere running change same
  | fault running enabled thrown carried =>
      exact heard.fault path running enabled thrown carried
  | @client other event => exact heard.client other event

end Heard

/-! ## The invariant of the client's end -/

/-- The read loop of every client is aligned with what it has been sent. -/
theorem aligned_of_run
    {env : Env} {actions : List Action} {network : Network}
    (run : Run (system env) actions network) (conn : ConnId) :
    ClientRun.Aligned
      (Delivery.delivered env conn (serverLabels actions))
      (clientEvents conn actions) (network.clients conn) := by
  refine Run.invariant
    (motive := fun actions network =>
      ClientRun.Aligned
        (Delivery.delivered env conn (serverLabels actions))
        (clientEvents conn actions) (network.clients conn))
    ?_ ?_ run
  · exact ClientRun.Aligned.create
  intro actions source action target path move aligned
  cases move with
  | @server event out reached running step carried =>
      rw [clientEvents_server, serverLabels_server,
        Delivery.delivered_snoc]
      exact aligned.more (List.prefix_append _ _)
  | @fault event =>
      rw [clientEvents_fault, serverLabels_fault]
      exact aligned
  | @client other event enabled sendable carried =>
      rw [serverLabels_client]
      by_cases same : other = conn
      · subst other
        rw [clientEvents_client_same, onClient_same]
        exact aligned.step enabled
          (Delivery.delivered_spec (server_run path) conn).1
          (carried.2.trans (wire_of_connection path conn))
      · rw [clientEvents_client_of_ne actions event same,
          source.onClient_of_ne event (Ne.symm same)]
        exact aligned

/-! ## The main theorem -/

/--
In every run of the network, on every connection: the bodies that are handled
are a prefix of those the client has written; the bodies the client returns
are a prefix of the greeting followed by the responses; and the responses
answer, one by one and in order, the handled bodies of a known type, except
for a body whose handling ended the process.
-/
theorem requests_matched
    {env : Env} {actions : List Action} {network : Network}
    (run : Run (system env) actions network) (conn : ConnId) :
    handled conn actions <+: (written conn actions).map Message.body ∧
      (returned conn actions).map Message.body <+:
        Delivery.replies env conn (serverLabels actions) ∧
      (Delivery.exchanges conn (serverLabels actions)).map request <+:
        (handled conn actions).filterMap (Delivery.known env) ∧
      (network.running = true →
        (Delivery.exchanges conn (serverLabels actions)).map request =
          (handled conn actions).filterMap (Delivery.known env)) := by
  have heard := heard_of_run run conn
  have requests := Delivery.exchanges_requests (server_run run) conn
  refine ⟨heard.aligned, ?_, ?_, ?_⟩
  · rcases (aligned_of_run run conn).reading with ⟨done, bodies, reading⟩
    have collected :
        (ClientRun.collected (clientEvents conn actions)
            (network.clients conn)).map Message.body <+:
          Delivery.replies env conn (serverLabels actions) := by
      rw [← bodies]
      exact (reading.done_sent.map _).trans
        (Delivery.delivered_spec (server_run run) conn).2
    refine List.IsPrefix.trans (List.IsPrefix.map _ ?_) collected
    exact List.prefix_append _ _
  · rw [requests]
    exact heard.completed.filterMap _
  · intro running
    rw [requests, (heard.running running).1]

/-! ## A complete exchange -/

/-- The body of the request of a sample run: a player registers. -/
def sampleBody : BodyBytes :=
  Player.alice.body .registers

/-- The request, as the client writes it. -/
def sampleMessage : Message :=
  .carrying sampleBody.1

/-- The greeting, as the server sends it. -/
def sampleGreeting : Message :=
  .carrying (greeting playersEnv)

/-- The exchange of the sample run. -/
def sampleExchange : Exchange :=
  (outcome playersEnv [] 0 (Player.alice.request .registers)).exchange

/-- The first client writes the request. -/
def requested : Network :=
  Network.start
    |>.onClient 0 (.write sampleMessage)
    |>.onClient 0 (.posted (.write sampleMessage))
    |>.onClient 0 .connected
    |>.onClient 0 (.writeSome 0 2048)

/--
The server accepts the connection, serves the request and sends the greeting.
-/
def answered : Network :=
  requested.onServer
    (Server.updateConnection
      (afterRequest playersEnv (firstConnection playersEnv) 0 sampleBody
        (Player.alice.request .registers))
      0 fun connection => connection.writeSome 0 2048)

/-- The first client reads the greeting. -/
def greeted : Network :=
  answered
    |>.onClient 0 (.headerRead (FrameLoop.headerBytes sampleGreeting))
    |>.onClient 0 (.bodyRead (FrameLoop.bodyBytes sampleGreeting))
    |>.onClient 0 (.readMessage sampleGreeting)

def sampleActions : List Action :=
  [.client 0 (.write sampleMessage),
    .client 0 (.posted (.write sampleMessage)),
    .client 0 .connected,
    .client 0 (.writeSome 0 2048),
    .server (.accepted 0) none,
    .server (.headerRead 0 (headerOf sampleBody.1.length sampleBody.2))
      none,
    .server (.bodyRead 0 sampleBody noFaults) (some sampleExchange),
    .server (.writeSome 0 0 2048) none,
    .client 0 (.headerRead (FrameLoop.headerBytes sampleGreeting)),
    .client 0 (.bodyRead (FrameLoop.bodyBytes sampleGreeting)),
    .client 0 (.readMessage sampleGreeting)]

theorem sample_run :
    Run (system playersEnv) sampleActions greeted := by
  have encoded : sampleMessage.Encoded :=
    (Message.carrying_spec sampleBody.2).1
  have written :=
    Path.single
      (client_step playersEnv .start 0 (.write sampleMessage) trivial
        encoded (by decide +kernel))
  have posted :=
    written.snoc
      (client_step playersEnv _ 0 (.posted (.write sampleMessage)) rfl
        trivial (by decide +kernel))
  have connected :=
    posted.snoc
      (client_step playersEnv _ 0 .connected rfl trivial
        (by decide +kernel))
  have sent :=
    connected.snoc
      (client_step playersEnv _ 0 (.writeSome 0 2048)
        ⟨rfl, rfl, by decide +kernel⟩ trivial (by decide +kernel))
  have accepted :=
    sent.snoc (server_step _ rfl .accepted (by decide +kernel))
  have announced :=
    accepted.snoc
      (server_step _ rfl
        (.headerRead 0 (headerOf sampleBody.1.length sampleBody.2)
          (by decide +kernel))
        (by decide +kernel))
  have tidy :
      Tidy (firstBody playersEnv sampleBody.1.length sampleBody.2) :=
    tidy_of_run (firstBody_run playersEnv _ _)
  have pending :=
    firstBody_pending playersEnv sampleBody.1.length sampleBody.2
  have known :
      decode playersEnv.rapidjson
          (bodyMessage
            (firstBody playersEnv sampleBody.1.length sampleBody.2) 0
            sampleBody).body =
        .ok (some (Player.alice.request .registers)) := by
    rw [tidy.bodyMessage_body pending]
    exact decode_body .alice .registers
  have serves :
      Change playersEnv
        (firstBody playersEnv sampleBody.1.length sampleBody.2)
        (.bodyRead 0 sampleBody noFaults) (some sampleExchange)
        (afterRequest playersEnv (firstConnection playersEnv) 0 sampleBody
          (Player.alice.request .registers)) :=
    .served 0 sampleBody noFaults (Player.alice.request .registers)
      pending known rfl
  have served :=
    announced.snoc (server_step _ rfl serves (by decide +kernel))
  have greeting :=
    served.snoc
      (server_step _ rfl (.writeSome 0 0 2048 (by decide +kernel))
        (by decide +kernel))
  have header :=
    greeting.snoc
      (client_step playersEnv _ 0
        (.headerRead (FrameLoop.headerBytes sampleGreeting))
        (by decide +kernel) trivial (by decide +kernel))
  have body :=
    header.snoc
      (client_step playersEnv _ 0
        (.bodyRead (FrameLoop.bodyBytes sampleGreeting))
        (by decide +kernel) trivial (by decide +kernel))
  exact
    body.snoc
      (client_step playersEnv _ 0 (.readMessage sampleGreeting)
        (by decide +kernel) trivial (by decide +kernel))

/--
The request is handled, and the greeting is what the client returns first.
-/
theorem requests_matched_sample :
    handled 0 sampleActions = [sampleBody.1] ∧
      (returned 0 sampleActions).map Message.body =
        [greeting playersEnv] ∧
      [greeting playersEnv] <+:
        Delivery.replies playersEnv 0 (serverLabels sampleActions) := by
  have carries :
      (returned 0 sampleActions).map Message.body =
        [greeting playersEnv] :=
    congrArg (fun body => [body])
      (Message.carrying_spec (greeting_fits playersEnv)).2
  refine ⟨rfl, carries, ?_⟩
  rw [← carries]
  exact (requests_matched sample_run 0).2.1

end PokerBackend.Matching
