import PokerBackend.Account
import PokerBackend.Matching
import PokerBackend.TableInvariant

/-!
# The network is a linearizable account store

Any number of clients write requests, and pipeline them, while the server
reads, serves and answers on all connections.  What the clients see of it is
what they would see of the abstract account store, if every request took
effect at once at some moment after it was written and before its response
was returned.

The moment is the step which hands the body to `handle`.
-/

namespace PokerBackend.Linearizable

open PokerBackend.Account
open PokerBackend.Accounts
open PokerBackend.Lib.Execution
open PokerBackend.Lib.SequentialObject
open PokerBackend.Matching
open PokerBackend.Net
open PokerBackend.Net.MesHandler
open PokerBackend.Net.Serving
open PokerBackend.Net.TcpServer
open PokerBackend.Network
open PokerBackend.TableInvariant

/-! ## What the clients see -/

/-- The requests of a known type that a client has written, in order. -/
def submitted
    (env : Env) (conn : ConnId) (actions : List Action) : List Request :=
  ((written conn actions).map Message.body).filterMap (Delivery.known env)

/-- The texts that a client has returned after the greeting, in order. -/
def answered (conn : ConnId) (actions : List Action) : List Bytes :=
  ((returned conn actions).map Message.body).tail

/-- The clients submit requests and are answered with texts. -/
def observed (env : Env) : Observation Action ConnId Request Bytes where
  submitted := submitted env
  answered := answered

/-! ## What the server performs -/

/-- An exchange, as an operation of the client it was with. -/
def ofExchange
    (env : Env) (conn : ConnId) (exchange : Exchange) :
    Operation ConnId Request Bytes where
  process := conn
  input := request exchange
  result := responseText env.rapidjson exchange

/-- The operation which an action performs on the accounts. -/
def performed (env : Env) : Action → Option (Operation ConnId Request Bytes)
  | .server event out => out.map (ofExchange env event.conn)
  | _ => none

/-- The operations of a run, in the order in which they were performed. -/
def operations
    (env : Env) (actions : List Action) :
    List (Operation ConnId Request Bytes) :=
  actions.filterMap (performed env)

theorem operations_server
    (env : Env) (actions : List Action) (event : Event)
    (out : Option Exchange) :
    operations env (actions ++ [.server event out]) =
      operations env actions ++
        (out.map (ofExchange env event.conn)).toList := by
  rw [operations, List.filterMap_append, ← operations]
  cases out <;> rfl

@[simp]
theorem operations_fault
    (env : Env) (actions : List Action) (event : Event) :
    operations env (actions ++ [.fault event]) = operations env actions :=
  List.filterMap_append.trans (List.append_nil _)

@[simp]
theorem operations_client
    (env : Env) (actions : List Action) (conn : ConnId)
    (event : Client.Event) :
    operations env (actions ++ [.client conn event]) =
      operations env actions :=
  List.filterMap_append.trans (List.append_nil _)

/-- The operations of one client are the exchanges with it. -/
theorem ofProcess_operations
    (env : Env) (conn : ConnId) (actions : List Action) :
    ofProcess conn (operations env actions) =
      (Delivery.exchanges conn (serverLabels actions)).map
        (ofExchange env conn) := by
  induction actions using List.reverseRecOn with
  | nil => rfl
  | append_singleton actions action induction =>
      cases action with
      | server event out =>
          rw [operations_server, ofProcess_append, induction,
            serverLabels_server, Delivery.exchanges_snoc, List.map_append]
          congr 1
          cases out with
          | none => simp [ofProcess]
          | some exchange =>
              by_cases same : event.conn = conn
              · subst conn
                simp [ofProcess, ofExchange]
              · simp [ofProcess, ofExchange, same]
      | fault event =>
          rw [serverLabels_fault, ← induction, operations_fault]
      | client other event =>
          rw [serverLabels_client, ← induction, operations_client]

section Run

variable
    {env : Env} {actions : List Action} {network : Network}

/-- What was performed for a client, it had written. -/
theorem performed_submitted
    (run : Run (system env) actions network) (conn : ConnId) :
    (ofProcess conn (operations env actions)).map Operation.input <+:
      submitted env conn actions := by
  have heard := heard_of_run run conn
  have requests := Delivery.exchanges_requests (server_run run) conn
  rw [ofProcess_operations, List.map_map]
  change (Delivery.exchanges conn _).map request <+: _
  rw [requests]
  exact (heard.completed.trans heard.aligned).filterMap _

/-- What a client returns is the greeting and then the responses. -/
theorem returned_replies
    (run : Run (system env) actions network) (conn : ConnId) :
    (returned conn actions).map Message.body <+:
      Delivery.replies env conn (serverLabels actions) := by
  rcases (aligned_of_run run conn).reading with ⟨done, bodies, reading⟩
  have collected :
      (ClientRun.collected (clientEvents conn actions)
          (network.clients conn)).map Message.body <+:
        Delivery.replies env conn (serverLabels actions) := by
    rw [← bodies]
    exact (reading.done_sent.map _).trans
      (Delivery.delivered_spec (server_run run) conn).2
  apply List.IsPrefix.trans (List.IsPrefix.map _ _) collected
  exact List.prefix_append _ _

/-- What a client was answered, had been performed. -/
theorem answered_performed
    (run : Run (system env) actions network) (conn : ConnId) :
    answered conn actions <+:
      (ofProcess conn (operations env actions)).map Operation.result := by
  have texts := (returned_replies run conn).drop 1
  rw [List.drop_one, List.drop_one] at texts
  rw [ofProcess_operations, List.map_map]
  exact texts

/-- The run lemma: the table holds the accounts after the operations. -/
theorem performs_of_run (run : Run (system env) actions network) :
    (accounts env).Legal (operations env actions) ∧
      store network.server.table =
        (accounts env).after
          ((operations env actions).map Operation.input) := by
  refine Run.invariant
    (motive := fun actions network =>
      (accounts env).Legal (operations env actions) ∧
        store network.server.table =
          (accounts env).after
            ((operations env actions).map Operation.input))
    ?_ ?_ run
  · exact ⟨Object.legal_nil, rfl⟩
  intro actions source action target path move performs
  cases move with
  | @server event out reached _ step carried =>
      rw [operations_server, onServer_server]
      rcases (step_cases step).accounts with
        ⟨none, table, _⟩ | ⟨req, some, table, _⟩
      · simp only at none
        rw [none, table, Option.map_none, Option.toList_none,
          List.append_nil]
        exact performs
      · rcases performs with ⟨legal, stored⟩
        have unique := (wellKeyed_of_run (server_run path)).emails
        have serves := outcome_accounts env event.conn req unique
        have answer := congrArg Prod.fst serves
        have next := congrArg Prod.snd serves
        simp only at some
        rw [some, Option.map_some, Option.toList_some, List.map_append,
          List.map_singleton, Object.after_snoc, Object.legal_snoc,
          ← stored]
        simp only [ofExchange, request_outcome]
        exact ⟨⟨legal, answer.symm⟩, by rw [table]; exact next⟩
  | fault =>
      rw [operations_fault]
      exact performs
  | client =>
      rw [operations_client]
      exact performs

/--
Every run of the network is linearizable: the operations in the order in
which the server performed them are legal for the account store, each client
has written its operations and is answered with their results in that order,
and an operation answered before another one was written comes before it.
The table is the store after these operations.
-/
theorem network_linearizable
    (run : Run (system env) actions network) :
    Linearization (accounts env) (observed env) actions
        (operations env actions) ∧
      store network.server.table =
        (accounts env).after
          ((operations env actions).map Operation.input) := by
  have performs := performs_of_run run
  constructor
  · apply Linearization.of_effects (operations env) performs.1
    · rintro before after rfl
      rw [operations, operations, List.filterMap_append]
      exact List.prefix_append _ _
    · rintro before after rfl conn
      rcases Path.of_append run with ⟨middle, past, _⟩
      exact performed_submitted past conn
    · rintro before after rfl conn
      rcases Path.of_append run with ⟨middle, past, _⟩
      exact answered_performed past conn
  · exact performs.2

end Run

/-! ## A run of two clients -/

section Both

open PokerBackend.Net.ReadLoop
open PokerBackend.Reference

/-- Another player registers as well. -/
def bobBody : BodyBytes :=
  Player.bob.body .registers

def bobMessage : Message :=
  .carrying bobBody.1

/-- Bob writes while Alice waits for her response. -/
def bobRequested : Network :=
  greeted
    |>.onClient 1 (.write bobMessage)
    |>.onClient 1 (.posted (.write bobMessage))
    |>.onClient 1 .connected
    |>.onClient 1 (.writeSome 0 2048)

def bobAccepted : Server :=
  afterAccept playersEnv bobRequested.server

def bobAnnounced : Server :=
  afterHeader bobAccepted 1 (headerOf bobBody.1.length bobBody.2)

def bobExchange : Exchange :=
  (outcome playersEnv bobAnnounced.table 1
    (Player.bob.request .registers)).exchange

def bobServed : Server :=
  (served playersEnv (afterBody bobAnnounced 1 bobBody) 1
    (Player.bob.request .registers)).updateConnection 1 .doReadHeader

/-- Both have been served, and Alice's response has been sent. -/
def bothServed : Network :=
  let written :=
    bobServed.updateConnection 0 fun connection =>
      TcpConnection.messageWritten (connection.finishWrite 0)
  bobRequested.onServer
    (written.updateConnection 0 fun connection =>
      connection.writeSome 0 2048)

def aliceResponse : Message :=
  .carrying (responseText playersEnv.rapidjson sampleExchange)

def aliceTold : Network :=
  bothServed
    |>.onClient 0 (.headerRead (FrameLoop.headerBytes aliceResponse))
    |>.onClient 0 (.bodyRead (FrameLoop.bodyBytes aliceResponse))
    |>.onClient 0 (.readMessage aliceResponse)

/-- What happens after the sample run. -/
def bobActions : List Action :=
  [.client 1 (.write bobMessage),
    .client 1 (.posted (.write bobMessage)),
    .client 1 .connected,
    .client 1 (.writeSome 0 2048),
    .server (.accepted 1) none,
    .server (.headerRead 1 (headerOf bobBody.1.length bobBody.2)) none,
    .server (.bodyRead 1 bobBody noFaults) (some bobExchange),
    .server (.written 0 0) none,
    .server (.writeSome 0 0 2048) none,
    .client 0 (.headerRead (FrameLoop.headerBytes aliceResponse)),
    .client 0 (.bodyRead (FrameLoop.bodyBytes aliceResponse)),
    .client 0 (.readMessage aliceResponse)]

/-- Bob is served before Alice returns her response. -/
def bothActions : List Action :=
  sampleActions ++ bobActions

theorem both_run :
    Run (system playersEnv) bothActions aliceTold := by
  have encoded : bobMessage.Encoded :=
    (Message.carrying_spec bobBody.2).1
  have written :=
    sample_run.snoc
      (client_step playersEnv _ 1 (.write bobMessage) trivial encoded
        (by decide +kernel))
  have posted :=
    written.snoc
      (client_step playersEnv _ 1 (.posted (.write bobMessage)) rfl
        trivial (by decide +kernel))
  have connected :=
    posted.snoc
      (client_step playersEnv _ 1 .connected rfl trivial
        (by decide +kernel))
  have sent : Run (system playersEnv) _ bobRequested :=
    connected.snoc
      (client_step playersEnv _ 1 (.writeSome 0 2048)
        ⟨rfl, rfl, by decide +kernel⟩ trivial (by decide +kernel))
  have accepted :=
    sent.snoc
      (@server_step playersEnv bobRequested _ _ bobAccepted rfl .accepted
        (by decide +kernel))
  have announced :=
    accepted.snoc
      (@server_step playersEnv _ _ _ bobAnnounced rfl
        (.headerRead 1 (headerOf bobBody.1.length bobBody.2)
          (by decide +kernel))
        (by decide +kernel))
  have tidy : Tidy bobAnnounced := tidy_of_run (server_run announced)
  have pending :
      .body bobBody.1.length ∈ (bobAnnounced.connections 1).reads := by
    decide +kernel
  have known :
      decode playersEnv.rapidjson
          (bodyMessage bobAnnounced 1 bobBody).body =
        .ok (some (Player.bob.request .registers)) := by
    rw [tidy.bodyMessage_body pending]
    exact decode_body .bob .registers
  have serves :
      Change playersEnv bobAnnounced (.bodyRead 1 bobBody noFaults)
        (some bobExchange) bobServed :=
    .served 1 bobBody noFaults (Player.bob.request .registers) pending
      known (List.findSome?_eq_none_iff.mpr fun _ _ => rfl)
  have served :=
    announced.snoc
      (@server_step playersEnv _ _ _ bobServed rfl serves
        (by decide +kernel))
  have next :=
    served.snoc
      (server_step _ rfl (.written 0 0 (by decide +kernel))
        (by decide +kernel))
  have response :=
    next.snoc
      (server_step _ rfl (.writeSome 0 0 2048 (by decide +kernel))
        (by decide +kernel))
  have header :=
    response.snoc
      (client_step playersEnv _ 0
        (.headerRead (FrameLoop.headerBytes aliceResponse))
        (by decide +kernel) trivial (by decide +kernel))
  have body :=
    header.snoc
      (client_step playersEnv _ 0
        (.bodyRead (FrameLoop.bodyBytes aliceResponse))
        (by decide +kernel) trivial (by decide +kernel))
  exact
    body.snoc
      (client_step playersEnv _ 0 (.readMessage aliceResponse)
        (by decide +kernel) trivial (by decide +kernel))

theorem known_request (player : Player) (deed : Deed) :
    Delivery.known playersEnv
        (Message.carrying (player.body deed).1).body =
      some (player.request deed) := by
  rw [(Message.carrying_spec (player.body deed).2).2, Delivery.known,
    decode_body]

theorem submitted_alice :
    submitted playersEnv 0 bothActions =
      [Player.alice.request .registers] := by
  have wrote : written 0 bothActions = [sampleMessage] := rfl
  have known :
      Delivery.known playersEnv sampleMessage.body =
        some (Player.alice.request .registers) :=
    known_request .alice .registers
  rw [submitted, wrote, List.map_singleton, List.filterMap_cons_some known,
    List.filterMap_nil]

theorem submitted_bob :
    submitted playersEnv 1 bothActions =
      [Player.bob.request .registers] := by
  have wrote : written 1 bothActions = [bobMessage] := rfl
  have known :
      Delivery.known playersEnv bobMessage.body =
        some (Player.bob.request .registers) :=
    known_request .bob .registers
  rw [submitted, wrote, List.map_singleton, List.filterMap_cons_some known,
    List.filterMap_nil]

theorem answered_alice :
    Linearizable.answered 0 bothActions =
      [responseText playersEnv.rapidjson sampleExchange] := by
  have returns :
      returned 0 bothActions = [sampleGreeting, aliceResponse] := rfl
  rw [Linearizable.answered, returns]
  have fits :=
    responseText_fits playersEnv [] 0 (Player.alice.request .registers)
      playersEnv.rapidjson
  exact congrArg (fun body => [body]) (Message.carrying_spec fits).2

/-- Both registrations are performed, and one of them has been answered. -/
theorem network_linearizable_sample :
    (operations playersEnv bothActions).map
          (fun op => (op.process, op.input)) =
        [(0, Player.alice.request .registers),
          (1, Player.bob.request .registers)] ∧
      Linearizable.answered 0 bothActions =
        [responseText playersEnv.rapidjson sampleExchange] ∧
      Linearization (accounts playersEnv) (observed playersEnv)
        bothActions (operations playersEnv bothActions) :=
  ⟨rfl, answered_alice, (network_linearizable both_run).1⟩

end Both

end PokerBackend.Linearizable
