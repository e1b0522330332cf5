import PokerBackend.ClientRun
import PokerBackend.Net.Delivery

/-!
# One server and any number of clients

The network runs the server process and a client for every connection; a
client is named after the connection object that accepts it.  The two ends of
a connection meet only in their bytes: what one end has received is at all
times a prefix of what the other end has put on the wire.

The process of the server ends when an exception escapes from a completion
handler.  Clients go on after that with the bytes which are under way.
-/

namespace PokerBackend

open PokerBackend.Lib.Execution
open PokerBackend.Net
open PokerBackend.Net.MesHandler
open PokerBackend.Net.TcpServer

/-- The server process and its clients. -/
structure Network where
  /-- The server, as the last completion handler that returned has left it. -/
  server : Server
  running : Bool
  clients : ConnId → Client

namespace Network

def start : Network where
  server := .start
  running := true
  clients := fun _ => .create

/-- A completion handler of the server returns. -/
def onServer (network : Network) (reached : Server) : Network :=
  { network with server := reached }

/-- An exception ends the process of the server. -/
def ended (network : Network) : Network :=
  { network with running := false }

@[simp]
theorem onServer_server (network : Network) (reached : Server) :
    (network.onServer reached).server = reached := rfl

/-- An event happens at one of the clients. -/
def onClient
    (network : Network) (conn : ConnId) (event : Client.Event) : Network :=
  { network with
    clients :=
      Function.update network.clients conn
        ((network.clients conn).apply event) }

@[simp]
theorem onClient_same
    (network : Network) (conn : ConnId) (event : Client.Event) :
    (network.onClient conn event).clients conn =
      (network.clients conn).apply event :=
  Function.update_self ..

theorem onClient_of_ne
    (network : Network) {conn other : ConnId} (event : Client.Event)
    (different : other ≠ conn) :
    (network.onClient conn event).clients other = network.clients other :=
  Function.update_of_ne different ..

/-- Each end has received a prefix of what the other end has sent. -/
def Carried (connection : TcpConnection) (client : Client) : Prop :=
  connection.socket.received <+: client.socket.wire ∧
    client.socket.received <+: connection.socket.wire

instance (connection : TcpConnection) (client : Client) :
    Decidable (Carried connection client) :=
  inferInstanceAs (Decidable (_ ∧ _))

/-- What the event writes, if anything, is a message with its header encoded. -/
def Sendable : Client.Event → Prop
  | .write msg => msg.Encoded
  | _ => True

/-- A step of the server, its end in an exception, or a step of a client. -/
inductive Action where
  | server (event : TcpServer.Event) (out : Option Exchange)
  | fault (event : TcpServer.Event)
  | client (conn : ConnId) (event : Client.Event)

/-- The moves of the network. -/
inductive Move (env : Env) (network : Network) : Action → Network → Prop where
  | server {event : TcpServer.Event} {out : Option Exchange}
      {reached : Server}
      (running : network.running = true)
      (step :
        (TcpServer.server env).step network.server (event, out) reached)
      (carried :
        Carried (reached.connections event.conn)
          (network.clients event.conn)) :
      Move env network (.server event out) (network.onServer reached)
  | fault {event : TcpServer.Event} {fault : Fault} {reached : Server}
      (running : network.running = true)
      (enabled : event.Enabled network.server)
      (thrown :
        (callback env event).run network.server = .error fault reached)
      (carried :
        Carried (reached.connections event.conn)
          (network.clients event.conn)) :
      Move env network (.fault event) network.ended
  | client {conn : ConnId} {event : Client.Event}
      (enabled : event.Enabled (network.clients conn))
      (sendable : Sendable event)
      (carried :
        Carried (network.server.connections conn)
          ((network.clients conn).apply event)) :
      Move env network (.client conn event) (network.onClient conn event)

/-- The network, from an empty table and with every client just created. -/
def system (env : Env) : System Network Action where
  start := .start
  step := Move env

theorem client_step
    (env : Env) (network : Network) (conn : ConnId) (event : Client.Event)
    (enabled : event.Enabled (network.clients conn))
    (sendable : Sendable event)
    (carried :
      Carried (network.server.connections conn)
        ((network.clients conn).apply event)) :
    (system env).step network (.client conn event)
      (network.onClient conn event) :=
  .client enabled sendable carried

theorem server_step
    {env : Env} (network : Network) {event : TcpServer.Event}
    {out : Option Exchange} {reached : Server}
    (running : network.running = true)
    (change : Change env network.server event out reached)
    (carried :
      Carried (reached.connections event.conn)
        (network.clients event.conn)) :
    (system env).step network (.server event out)
      (network.onServer reached) :=
  .server running (step_of_change change) carried

/-! ## Histories -/

/-- The step of the server process which an action is. -/
def serverLabel : Action → Option TcpServer.Label
  | .server event out => some (event, out)
  | _ => none

/-- The event of one client which an action is. -/
def clientEvent (conn : ConnId) : Action → Option Client.Event
  | .client other event => if other = conn then some event else none
  | _ => none

/-- The steps of the server process. -/
def serverLabels (actions : List Action) : List TcpServer.Label :=
  actions.filterMap serverLabel

/-- The events of one client. -/
def clientEvents (conn : ConnId) (actions : List Action) :
    List Client.Event :=
  actions.filterMap (clientEvent conn)

/-- The body that an action hands to `handle` for one connection. -/
def handed (conn : ConnId) : Action → Option Bytes
  | .server event _ | .fault event =>
      if event.conn = conn then Delivery.handed event else none
  | .client _ _ => none

/-- The bodies that `handle` is called with for one connection, in order. -/
def handled (conn : ConnId) (actions : List Action) : List Bytes :=
  actions.filterMap (handed conn)

/-- The messages that one client has written, in order. -/
def written (conn : ConnId) (actions : List Action) : List Message :=
  ClientRun.written (clientEvents conn actions)

/-- The messages that one client has returned from its queue, in order. -/
def returned (conn : ConnId) (actions : List Action) : List Message :=
  ClientRun.returned (clientEvents conn actions)

/-! What one more action adds to the histories. -/

section Snoc

variable
    (conn : ConnId) (actions : List Action)
    (event : TcpServer.Event) (out : Option Exchange)

@[simp]
theorem serverLabels_server :
    serverLabels (actions ++ [.server event out]) =
      serverLabels actions ++ [(event, out)] :=
  List.filterMap_append

@[simp]
theorem serverLabels_fault :
    serverLabels (actions ++ [.fault event]) = serverLabels actions := by
  simp [serverLabels, serverLabel]

@[simp]
theorem serverLabels_client (other : ConnId) (event : Client.Event) :
    serverLabels (actions ++ [.client other event]) =
      serverLabels actions := by
  simp [serverLabels, serverLabel]

@[simp]
theorem clientEvents_server :
    clientEvents conn (actions ++ [.server event out]) =
      clientEvents conn actions := by
  simp [clientEvents, clientEvent]

@[simp]
theorem clientEvents_fault :
    clientEvents conn (actions ++ [.fault event]) =
      clientEvents conn actions := by
  simp [clientEvents, clientEvent]

@[simp]
theorem clientEvents_client_same (event : Client.Event) :
    clientEvents conn (actions ++ [.client conn event]) =
      clientEvents conn actions ++ [event] := by
  simp [clientEvents, clientEvent]

theorem clientEvents_client_of_ne
    {conn other : ConnId} (event : Client.Event)
    (different : other ≠ conn) :
    clientEvents conn (actions ++ [.client other event]) =
      clientEvents conn actions := by
  simp [clientEvents, clientEvent, different]

theorem handled_snoc (action : Action) :
    handled conn (actions ++ [action]) =
      handled conn actions ++ (handed conn action).toList := by
  rw [handled, List.filterMap_append, ← handled]
  cases seen : handed conn action <;> simp [seen]

@[simp]
theorem handled_client (other : ConnId) (event : Client.Event) :
    handled conn (actions ++ [.client other event]) =
      handled conn actions := by
  simp [handled, handed]

@[simp]
theorem written_server :
    written conn (actions ++ [.server event out]) =
      written conn actions := by
  simp [written]

@[simp]
theorem written_fault :
    written conn (actions ++ [.fault event]) = written conn actions := by
  simp [written]

/-- A client writes at the end of what it has written. -/
theorem written_client (other : ConnId) (event : Client.Event) :
    written conn actions <+:
      written conn (actions ++ [.client other event]) := by
  by_cases same : other = conn
  · subst other
    rw [written, written, clientEvents_client_same, ClientRun.written,
      ClientRun.written, List.filterMap_append]
    exact List.prefix_append _ _
  · rw [written, written, clientEvents_client_of_ne actions event same]

end Snoc

section Views

variable
    {env : Env} {actions : List Action} {network : Network}

/-- The server process of the network runs as a server process does. -/
theorem server_run (run : Run (system env) actions network) :
    Run (TcpServer.server env) (serverLabels actions) network.server := by
  apply run.simulate Network.server serverLabel
  intro source action target move
  cases move with
  | server _ step => exact step
  | fault => rfl
  | client => rfl

/-- Each client of the network runs as a client does. -/
theorem client_run
    (run : Run (system env) actions network) (conn : ConnId) :
    Run Client.system (clientEvents conn actions)
      (network.clients conn) := by
  refine
    run.simulate (fun network => network.clients conn)
      (clientEvent conn) ?_
  intro source action target move
  cases move with
  | server => rfl
  | fault => rfl
  | @client other event enabled =>
      by_cases same : other = conn
      · subst other
        simp only [clientEvent, if_true]
        exact ⟨enabled, source.onClient_same conn event⟩
      · simp only [clientEvent, if_neg same]
        exact source.onClient_of_ne event (Ne.symm same)

end Views

end Network

end PokerBackend
