import PokerBackend.Completion
import PokerBackend.Console
import PokerBackend.Isolation

/-!
# The console program on the network

The `main` of a console calls its client, and prints what `read_wait`
returns: the greeting first, and then one text after each command.  The
client's `io_context` runs in a thread of its own beside it.  The other
clients of the network are arbitrary.

However these are scheduled, the console and the server stay in step: at the
prompt every command has been answered, and the answers are those of the
account store.  While a console waits for an answer on a connection where
nothing breaks, the answer is on its way.  All this is claimed up to the first
line whose text is too long for a message, and not from there on.
-/

namespace PokerBackend.ConsoleRun

open PokerBackend.Account
open PokerBackend.Completion
open PokerBackend.Console
open PokerBackend.Lib.Execution
open PokerBackend.Lib.SequentialObject
open PokerBackend.Linearizable
open PokerBackend.Liveness
open PokerBackend.Net
open PokerBackend.Net.Dispatch
open PokerBackend.Net.MesHandler
open PokerBackend.Net.Serving
open PokerBackend.Net.WholeBody
open PokerBackend.Network

/-! ## `main` -/

/-- Where `main` is. -/
inductive Phase where
  /-- In the `read_wait` before the loop. -/
  | greeting
  /-- At `std::getline`. -/
  | prompt
  /-- In the `read_wait` after a command. -/
  | waiting
  /-- In `t.join()`, after `c.close()`. -/
  | joining
  /-- Terminated by the exception of `words.at`. -/
  | terminated
  /-- Past an assignment that has overrun its message. -/
  | overrun
deriving DecidableEq

/-- Where the model leaves `main`. -/
def Phase.of : Stop → Phase
  | .outOfRange => .terminated
  | .overrun => .overrun

/-- The state of `main` between two calls of the client. -/
structure Main where
  /-- The lines which `std::getline` has not returned yet. -/
  input : List Bytes
  phase : Phase
  /-- What has been written to `std::cout`, line by line. -/
  printed : List Bytes

namespace Main

def start (input : List Bytes) : Main where
  input := input
  phase := .greeting
  printed := []

/-- It is in a call of `read_wait()`. -/
def Reading (console : Main) : Prop :=
  console.phase = .greeting ∨ console.phase = .waiting

/-- `read_wait()` has returned; the body is printed. -/
def print (console : Main) (msg : Message) : Main :=
  { console with
    phase := .prompt
    printed := console.printed ++ [msg.body] }

/--
One pass of the loop from `std::getline` to the call of `write` or, at the
end of the input, of `close`; where the message cannot be built, the model
follows the pass no further.
-/
def getline (rapidjson : Rapidjson) (sha512 : Sha512) (console : Main) :
    Option Client.Event × Main :=
  match console.input with
  | [] => (some .close, { console with phase := .joining })
  | line :: input =>
      match interpret rapidjson sha512 line with
      | .ok (msg, rq) =>
          (some (.write msg),
            { console with
              input
              phase := if rq.isSome then .waiting else .prompt })
      | .error why => (none, { console with input, phase := .of why })

end Main

/-! ## The program beside its `io_context` and the network -/

/-- The network, with the program that uses one of its clients. -/
structure Session where
  network : Network
  console : Main

/-- The event is no call of a member function of the client. -/
def Background : Client.Event → Prop
  | .write _ | .close | .readMessage _ => False
  | _ => True

/--
What may happen beside `main`: anything elsewhere, and at its own client
what the `io_context` does while the process lives.
-/
def Beside (conn : ConnId) (console : Main) : Action → Prop
  | .client other event =>
      other = conn →
        Background event ∧ console.phase ≠ .terminated
  | _ => True

section System

variable (env : Env) (sha512 : Sha512) (conn : ConnId)

/--
The moves, with the action on the network that they are, if any.  Once a
message has been overrun, anything may happen.
-/
inductive Move (session : Session) : Option Action → Session → Prop where
  | beside {action : Action} {reached : Network}
      (move : Network.Move env session.network action reached)
      (beside : Beside conn session.console action) :
      Move session (some action) { session with network := reached }
  | prints {msg : Message} {reached : Network}
      (reading : session.console.Reading)
      (move :
        Network.Move env session.network (.client conn (.readMessage msg))
          reached) :
      Move session (some (.client conn (.readMessage msg)))
        ⟨reached, session.console.print msg⟩
  | calls {event : Client.Event} {console : Main} {reached : Network}
      (prompt : session.console.phase = .prompt)
      (pass :
        session.console.getline env.rapidjson sha512 =
          (some event, console))
      (move :
        Network.Move env session.network (.client conn event) reached) :
      Move session (some (.client conn event)) ⟨reached, console⟩
  | halts {console : Main}
      (prompt : session.console.phase = .prompt)
      (pass :
        session.console.getline env.rapidjson sha512 = (none, console)) :
      Move session none ⟨session.network, console⟩
  | undefined {label : Option Action} {target : Session}
      (overrun : session.console.phase = .overrun)
      (beyond : target.console.phase = .overrun) :
      Move session label target

/-- The program from its start, with the lines it will be given. -/
def system (inputs : List Bytes) : System Session (Option Action) where
  start := ⟨.start, .start inputs⟩
  step := Move env sha512 conn

end System

/-- No message has been overrun. -/
def Followed (session : Session) : Prop :=
  session.console.phase ≠ .overrun

/-- What happens on the network. -/
def actions (labels : List (Option Action)) : List Action :=
  labels.filterMap id

section Views

variable
    {env : Env} {sha512 : Sha512} {conn : ConnId} {inputs : List Bytes}
    {labels : List (Option Action)} {session target : Session}
    {label : Option Action}

theorem Followed.of_reading (reading : session.console.Reading) :
    Followed session := by
  intro overrun
  rcases reading with greeting | waiting
  · rw [overrun] at greeting
    cases greeting
  · rw [overrun] at waiting
    cases waiting

theorem Followed.of_printed {before : Main} {msg : Message}
    (printed : session.console = before.print msg) :
    Followed session := by
  intro overrun
  rw [printed] at overrun
  cases overrun

/-- A program that has overrun a message does not come back. -/
theorem Followed.of_move
    (move : Move env sha512 conn session label target)
    (followed : Followed target) :
    Followed session := by
  intro overrun
  cases move with
  | beside => exact followed overrun
  | prints reading => exact Followed.of_reading reading overrun
  | calls prompt =>
      rw [overrun] at prompt
      cases prompt
  | halts prompt =>
      rw [overrun] at prompt
      cases prompt
  | undefined _ beyond => exact followed beyond

/-- So all steps which lead elsewhere are those which the model describes. -/
theorem followed_run
    (run : Run (system env sha512 conn inputs) labels session)
    (followed : Followed session) :
    Run
      ((system env sha512 conn inputs).restrict fun _ _ target =>
        Followed target)
      labels session := by
  induction run with
  | nil => exact .nil
  | snoc init last induction =>
      exact (induction (followed.of_move last)).snoc ⟨last, followed⟩

/-- The network runs as it does with any clients. -/
theorem network_run
    (run : Run (system env sha512 conn inputs) labels session)
    (followed : Followed session) :
    Run (Network.system env) (actions labels) session.network := by
  apply (followed_run run followed).simulate Session.network id
  rintro source label target ⟨move, next⟩
  cases move with
  | beside move => exact move
  | prints _ move => exact move
  | calls _ _ move => exact move
  | halts => rfl
  | undefined _ beyond => exact absurd beyond next

/-- What an action writes at one client. -/
theorem written_snoc (conn : ConnId) (actions : List Action)
    (action : Action) :
    written conn (actions ++ [action]) =
      written conn actions ++
        ((clientEvent conn action).bind ClientRun.writtenBy).toList := by
  rw [written, clientEvents, List.filterMap_append, ClientRun.written,
    List.filterMap_append]
  cases seen : clientEvent conn action with
  | none => simp [seen, written, clientEvents, ClientRun.written]
  | some event =>
      cases wrote : ClientRun.writtenBy event <;>
        simp [seen, wrote, written, clientEvents, ClientRun.written]

theorem returned_snoc (conn : ConnId) (actions : List Action)
    (action : Action) :
    returned conn (actions ++ [action]) =
      returned conn actions ++
        ((clientEvent conn action).bind ClientRun.returnedBy).toList := by
  rw [returned, clientEvents, List.filterMap_append, ClientRun.returned,
    List.filterMap_append]
  cases seen : clientEvent conn action with
  | none => simp [seen, returned, clientEvents, ClientRun.returned]
  | some event =>
      cases told : ClientRun.returnedBy event <;>
        simp [seen, told, returned, clientEvents, ClientRun.returned]

/-- What happens beside `main` calls nothing of its client. -/
theorem calls_of_beside
    {console : Main} {action : Action}
    (beside : Beside conn console action) :
    (clientEvent conn action).bind ClientRun.writtenBy = none ∧
      (clientEvent conn action).bind ClientRun.returnedBy = none := by
  cases action with
  | server event out => exact ⟨rfl, rfl⟩
  | fault event => exact ⟨rfl, rfl⟩
  | client other event =>
      by_cases here : other = conn
      · rcases beside here with ⟨background, _⟩
        rw [clientEvent, if_pos here]
        cases event with
        | write msg => exact absurd background id
        | close => exact absurd background id
        | readMessage msg => exact absurd background id
        | _ => exact ⟨rfl, rfl⟩
      · rw [clientEvent, if_neg here]
        exact ⟨rfl, rfl⟩

end Views

/-! ## A console that registers -/

/-- The registration of a sample run. -/
def sampleLine : Bytes :=
  typed (str "/r")
    [(59, str "nick"), (59, str "some_test_email@mail.domain"),
      (59, str "some_test_hash")]

def sampleRequest : Request :=
  .register
    ⟨str "nick", str "some_test_email@mail.domain",
      hash sampleSha512 (str "some_test_hash")⟩

/-- What the console has typed is a command. -/
theorem sampleLine_command :
    command sampleSha512 sampleLine = .ok (some sampleRequest) :=
  command_typed_register (by decide) (by decide) (by decide) rfl rfl rfl
    sampleSha512

noncomputable def sampleGreeting : Message :=
  .carrying (TcpServer.greeting documentEnv)

/-- The server has greeted the console, which has read the greeting. -/
noncomputable def greeted : Network :=
  (Network.start.onClient 0 .connected).onServer
      (Server.updateConnection (TcpServer.afterAccept documentEnv .start) 0
        fun connection => connection.writeSome 0 2048)
    |>.onClient 0 (.headerRead (FrameLoop.headerBytes sampleGreeting))
    |>.onClient 0 (.bodyRead (FrameLoop.bodyBytes sampleGreeting))
    |>.onClient 0 (.readMessage sampleGreeting)

/-- The console waits for the response to its registration. -/
noncomputable def registering : Session where
  network :=
    greeted.onClient 0
      (.write (.carrying (toJson documentEnv.rapidjson sampleRequest)))
  console := ⟨[], .waiting, [sampleGreeting.body]⟩

noncomputable def sampleLabels : List (Option Action) :=
  [some (.client 0 .connected),
    some (.server (.accepted 0) none),
    some (.server (.writeSome 0 0 2048) none),
    some (.client 0 (.headerRead (FrameLoop.headerBytes sampleGreeting))),
    some (.client 0 (.bodyRead (FrameLoop.bodyBytes sampleGreeting))),
    some (.client 0 (.readMessage sampleGreeting)),
    some
      (.client 0
        (.write
          (.carrying (toJson documentEnv.rapidjson sampleRequest))))]

theorem sampleRequest_fits :
    (toJson documentEnv.rapidjson sampleRequest).length ≤ maxBodyLength :=
  (Api.writeObject_length_le _ _).trans (by decide +kernel)

theorem sampleLine_interpreted :
    interpret documentEnv.rapidjson sampleSha512 sampleLine =
      .ok
        (.carrying (toJson documentEnv.rapidjson sampleRequest),
          some sampleRequest) := by
  apply interpret_eq_ok_iff.mpr
  exact ⟨sampleLine_command, Message.ofString_eq sampleRequest_fits⟩

theorem sample_run :
    Run (system documentEnv sampleSha512 0 [sampleLine]) sampleLabels
      registering := by
  let system := system documentEnv sampleSha512 0 [sampleLine]
  have beside {action : Action} {network reached : Network}
      (move : Network.Move documentEnv network action reached)
      (free : Beside 0 (.start [sampleLine]) action) :
      system.step ⟨network, .start [sampleLine]⟩ (some action)
        ⟨reached, .start [sampleLine]⟩ :=
    .beside move free
  have alive : Phase.greeting ≠ .terminated := by decide
  have connected : Path system system.start _ _ :=
    Path.single
      (beside
        (client_step documentEnv .start 0 .connected rfl trivial
          (by decide +kernel))
        fun _ => ⟨trivial, alive⟩)
  have accepted :=
    connected.snoc
      (beside (server_step _ rfl .accepted (by decide +kernel)) trivial)
  have sent :=
    accepted.snoc
      (beside
        (server_step _ rfl (.writeSome 0 0 2048 (by decide +kernel))
          (by decide +kernel))
        trivial)
  have header :=
    sent.snoc
      (beside
        (client_step documentEnv _ 0
          (.headerRead (FrameLoop.headerBytes sampleGreeting))
          (by decide +kernel) trivial (by decide +kernel))
        fun _ => ⟨trivial, alive⟩)
  have body :=
    header.snoc
      (beside
        (client_step documentEnv _ 0
          (.bodyRead (FrameLoop.bodyBytes sampleGreeting))
          (by decide +kernel) trivial (by decide +kernel))
        fun _ => ⟨trivial, alive⟩)
  have prompt :=
    body.snoc
      (Move.prints (Or.inl rfl)
        (client_step documentEnv _ 0 (.readMessage sampleGreeting)
          (by decide +kernel) trivial (by decide +kernel)))
  have pass :
      (Main.print (.start [sampleLine]) sampleGreeting).getline
          documentEnv.rapidjson sampleSha512 =
        (some
            (.write
              (.carrying (toJson documentEnv.rapidjson sampleRequest))),
          ⟨[], .waiting, [sampleGreeting.body]⟩) := by
    rw [Main.getline]
    simp only [Main.print, Main.start, sampleLine_interpreted]
    rfl
  exact
    prompt.snoc
      (Move.calls rfl pass
        (client_step documentEnv _ 0 (.write _) trivial
          (Message.carrying_spec sampleRequest_fits).1
          (by decide +kernel)))

theorem sample_followed : Followed registering :=
  .of_reading (Or.inr rfl)

theorem sampleLine_short :
    ∀ line ∈ [sampleLine], line.length < 2 ^ 32 := by
  intro line member
  rw [List.mem_singleton.mp member]
  decide

/-! ## The pace of `main` -/

/-- The message that a line is sent as. -/
def sentMessage (rapidjson : Rapidjson) (sha512 : Sha512) (line : Bytes) :
    Option Message :=
  (interpret rapidjson sha512 line).toOption.map Prod.fst

/-- The request whose response is waited for after a line. -/
def awaited (rapidjson : Rapidjson) (sha512 : Sha512) (line : Bytes) :
    Option Request :=
  (interpret rapidjson sha512 line).toOption.bind Prod.snd

/-- The commands among the lines. -/
def commands (rapidjson : Rapidjson) (sha512 : Sha512)
    (lines : List Bytes) : List Request :=
  lines.filterMap (awaited rapidjson sha512)

/-- The texts which `main` is still to print before it reads a line. -/
def Phase.owed : Phase → Nat
  | .greeting | .waiting => 1
  | _ => 0

/--
The lines that follow those which have been sent: the program is terminated or
overruns a message at the first of them, or leaves the loop when there is none.
-/
def Unsent (rapidjson : Rapidjson) (sha512 : Sha512) (console : Main)
    (rest : List Bytes) : Prop :=
  match console.phase with
  | .terminated =>
      ∃ line,
        rest = line :: console.input ∧
          interpret rapidjson sha512 line = .error .outOfRange
  | .overrun =>
      ∃ line,
        rest = line :: console.input ∧
          interpret rapidjson sha512 line = .error .overrun
  | .joining => rest = [] ∧ console.input = []
  | _ => rest = console.input

/-- What `main` has done with the lines it has sent. -/
structure Paced
    (rapidjson : Rapidjson) (sha512 : Sha512) (conn : ConnId)
    (lines : List Bytes) (actions : List Action) (console : Main) :
    Prop where
  sent :
    ∀ line ∈ lines, ∃ sent, interpret rapidjson sha512 line = .ok sent
  written :
    written conn actions =
      lines.filterMap (sentMessage rapidjson sha512)
  printed :
    console.printed = (returned conn actions).map Message.body
  answered :
    console.printed.length + console.phase.owed =
      (commands rapidjson sha512 lines).length + 1

section Pace

variable
    {env : Env} {sha512 : Sha512} {conn : ConnId} {inputs : List Bytes}
    {labels : List (Option Action)} {session target : Session}
    {label : Option Action} {lines rest : List Bytes}

theorem actions_snoc (labels : List (Option Action)) (action : Action) :
    actions (labels ++ [some action]) = actions labels ++ [action] :=
  List.filterMap_append

theorem actions_snoc_none (labels : List (Option Action)) :
    actions (labels ++ [none]) = actions labels := by
  simp [actions]

/-- Where `main` is at a call of `read_wait`, it has sent what it has read. -/
theorem unsent_of_reading
    {console : Main} (reading : console.Reading)
    (unsent : Unsent env.rapidjson sha512 console rest) :
    rest = console.input := by
  rcases reading with greeting | waiting
  · rwa [Unsent, greeting] at unsent
  · rwa [Unsent, waiting] at unsent

theorem owed_of_reading {console : Main} (reading : console.Reading) :
    console.phase.owed = 1 := by
  rcases reading with greeting | waiting
  · rw [greeting, Phase.owed]
  · rw [waiting, Phase.owed]

/-- Something happens beside `main`. -/
theorem Paced.beside
    {console : Main} {action : Action}
    (paced :
      Paced env.rapidjson sha512 conn lines (actions labels) console)
    (beside : Beside conn console action) :
    Paced env.rapidjson sha512 conn lines
      (actions (labels ++ [some action])) console := by
  rcases calls_of_beside beside with ⟨wrote, told⟩
  constructor
  · exact paced.sent
  · rw [actions_snoc, written_snoc, wrote, paced.written]
    exact List.append_nil _
  · rw [actions_snoc, returned_snoc, told, paced.printed,
      Option.toList_none, List.append_nil]
  · exact paced.answered

/-- `read_wait` returns. -/
theorem Paced.prints
    {console : Main}
    (paced :
      Paced env.rapidjson sha512 conn lines (actions labels) console)
    (reading : console.Reading) (msg : Message) :
    Paced env.rapidjson sha512 conn lines
      (actions (labels ++ [some (.client conn (.readMessage msg))]))
      (console.print msg) := by
  have here :
      clientEvent conn (.client conn (.readMessage msg)) =
        some (.readMessage msg) :=
    if_pos rfl
  constructor
  · exact paced.sent
  · rw [actions_snoc, written_snoc, here, paced.written]
    exact List.append_nil _
  · rw [actions_snoc, returned_snoc, here, List.map_append,
      ← paced.printed]
    rfl
  · have owed := owed_of_reading reading
    have answered := paced.answered
    simp only [Main.print, Phase.owed, List.length_append,
      List.length_singleton]
    omega

/-- `main` sends a line. -/
theorem Paced.sends
    {console : Main} {line : Bytes} {input : List Bytes} {msg : Message}
    {rq : Option Request}
    (paced :
      Paced env.rapidjson sha512 conn lines (actions labels) console)
    (prompt : console.phase = .prompt)
    (sent : interpret env.rapidjson sha512 line = .ok (msg, rq)) :
    Paced env.rapidjson sha512 conn (lines ++ [line])
      (actions (labels ++ [some (.client conn (.write msg))]))
      { console with
        input
        phase := if rq.isSome then .waiting else .prompt } := by
  have here :
      clientEvent conn (.client conn (.write msg)) = some (.write msg) :=
    if_pos rfl
  have message : sentMessage env.rapidjson sha512 line = some msg := by
    rw [sentMessage, sent]
    rfl
  have request : awaited env.rapidjson sha512 line = rq := by
    rw [awaited, sent]
    rfl
  constructor
  · intro other member
    rcases List.mem_append.mp member with earlier | last
    · exact paced.sent other earlier
    · rw [List.mem_singleton.mp last]
      exact ⟨_, sent⟩
  · rw [actions_snoc, written_snoc, here, paced.written,
      List.filterMap_append, List.filterMap_cons_some message]
    rfl
  · rw [actions_snoc, returned_snoc, here, paced.printed]
    exact congrArg _ (List.append_nil _).symm
  · have answered := paced.answered
    rw [prompt] at answered
    rw [commands, List.filterMap_append, ← commands, List.length_append]
    cases rq with
    | none =>
        rw [List.filterMap_cons_none request]
        simpa [Phase.owed] using answered
    | some rq =>
        rw [List.filterMap_cons_some request]
        simpa [Phase.owed] using answered

/-- `main` leaves its loop. -/
theorem Paced.leaves
    {console : Main} {phase : Phase} {input : List Bytes}
    {label : Option Action}
    (paced :
      Paced env.rapidjson sha512 conn lines (actions labels) console)
    (prompt : console.phase = .prompt) (owed : phase.owed = 0)
    (quiet : label = none ∨ label = some (.client conn .close)) :
    Paced env.rapidjson sha512 conn lines
      (actions (labels ++ [label])) { console with input, phase } := by
  have answered := paced.answered
  rw [prompt] at answered
  have count :
      console.printed.length + phase.owed =
        (commands env.rapidjson sha512 lines).length + 1 := by
    rw [owed]
    exact answered
  rcases quiet with rfl | rfl
  · rw [actions_snoc_none]
    exact ⟨paced.sent, paced.written, paced.printed, count⟩
  · have here :
        clientEvent conn (.client conn .close) = some .close :=
      if_pos rfl
    refine ⟨paced.sent, ?_, ?_, count⟩
    · rw [actions_snoc, written_snoc, here, paced.written]
      exact List.append_nil _
    · rw [actions_snoc, returned_snoc, here, paced.printed]
      exact congrArg _ (List.append_nil _).symm

/-- The step lemma. -/
theorem paced_step
    (paced :
      Paced env.rapidjson sha512 conn lines (actions labels)
        session.console)
    (unsent : Unsent env.rapidjson sha512 session.console rest)
    (move : Move env sha512 conn session label target)
    (followed : Followed target) :
    ∃ more left,
      rest = more ++ left ∧
        Unsent env.rapidjson sha512 target.console left ∧
        Paced env.rapidjson sha512 conn (lines ++ more)
          (actions (labels ++ [label])) target.console := by
  cases move with
  | beside _ beside =>
      refine ⟨[], rest, rfl, unsent, ?_⟩
      rw [List.append_nil]
      exact paced.beside beside
  | @prints msg _ reading _ =>
      have left : rest = session.console.input :=
        unsent_of_reading reading unsent
      refine ⟨[], rest, rfl, left, ?_⟩
      rw [List.append_nil]
      exact paced.prints reading msg
  | @calls event console _ prompt pass _ =>
      have left : rest = session.console.input := by
        rwa [Unsent, prompt] at unsent
      rw [Main.getline] at pass
      cases given : session.console.input with
      | nil =>
          rw [given] at pass left
          cases pass
          refine ⟨[], [], left, ⟨rfl, rfl⟩, ?_⟩
          rw [List.append_nil]
          exact paced.leaves prompt rfl (Or.inr rfl)
      | cons line input =>
          rw [given] at pass left
          cases sent : interpret env.rapidjson sha512 line with
          | error why =>
              simp only [sent] at pass
              cases pass
          | ok result =>
              rcases result with ⟨msg, rq⟩
              simp only [sent] at pass
              cases pass
              refine ⟨[line], input, left, ?_, paced.sends prompt sent⟩
              cases rq <;> rfl
  | @halts console prompt pass =>
      have left : rest = session.console.input := by
        rwa [Unsent, prompt] at unsent
      rw [Main.getline] at pass
      cases given : session.console.input with
      | nil =>
          rw [given] at pass
          cases pass
      | cons line input =>
          rw [given] at pass left
          cases sent : interpret env.rapidjson sha512 line with
          | ok result =>
              simp only [sent] at pass
              cases pass
          | error why =>
              simp only [sent] at pass
              cases pass
              refine ⟨[], rest, rfl, ?_, ?_⟩
              · cases why <;> exact ⟨line, left, sent⟩
              · rw [List.append_nil]
                apply paced.leaves prompt _ (Or.inl rfl)
                cases why <;> rfl
  | undefined _ beyond => exact absurd beyond followed

/-- The run lemma. -/
theorem paced_of_run
    (run : Run (system env sha512 conn inputs) labels session)
    (followed : Followed session) :
    ∃ lines rest,
      inputs = lines ++ rest ∧
        Unsent env.rapidjson sha512 session.console rest ∧
        Paced env.rapidjson sha512 conn lines (actions labels)
          session.console := by
  refine Run.invariant
    (motive := fun labels session =>
      ∃ lines rest,
        inputs = lines ++ rest ∧
          Unsent env.rapidjson sha512 session.console rest ∧
          Paced env.rapidjson sha512 conn lines (actions labels)
            session.console)
    ?_ ?_ (followed_run run followed)
  · exact ⟨[], inputs, rfl, rfl, by simp, rfl, rfl, rfl⟩
  · rintro labels source label target path ⟨move, next⟩
      ⟨lines, rest, split, unsent, paced⟩
    obtain ⟨more, left, isRest, unsentNext, pacedNext⟩ :=
      paced_step paced unsent move next
    refine ⟨lines ++ more, left, ?_, unsentNext, pacedNext⟩
    rw [split, isRest, List.append_assoc]

end Pace

/-! ## Commands and answers -/

/-- What one function keeps and another one keeps alike. -/
theorem filterMap_sublist {α β : Type} {first second : α → Option β}
    {entries : List α}
    (agree :
      ∀ entry ∈ entries, ∀ value,
        first entry = some value → second entry = some value) :
    (entries.filterMap first).Sublist (entries.filterMap second) := by
  induction entries with
  | nil => exact List.Sublist.refl _
  | cons entry entries induction =>
      have rest :=
        induction fun other member =>
          agree other (List.mem_cons_of_mem _ member)
      cases kept : first entry with
      | none =>
          rw [List.filterMap_cons_none kept]
          exact rest.trans
            (List.Sublist.filterMap second (List.sublist_cons_self _ _))
      | some value =>
          have alike := agree entry List.mem_cons_self value kept
          rw [List.filterMap_cons_some kept,
            List.filterMap_cons_some alike]
          exact rest.cons_cons value

/-- What holds of all the lines holds of those which have been sent. -/
theorem forall_sent {motive : Bytes → Prop} {inputs lines rest : List Bytes}
    (all : ∀ line ∈ inputs, motive line)
    (split : inputs = lines ++ rest) :
    ∀ line ∈ lines, motive line := by
  intro line member
  apply all
  rw [split]
  exact List.mem_append_left _ member

section Answers

variable
    {env : Env} {sha512 : Sha512} {conn : ConnId} {lines : List Bytes}
    {history : List Action} {console : Main}

/-- The request which the server reads in what a line is sent as. -/
def received (env : Env) (sha512 : Sha512) (line : Bytes) :
    Option Request :=
  (sentMessage env.rapidjson sha512 line).bind fun msg =>
    Delivery.known env msg.body

theorem submitted_of_paced
    (paced : Paced env.rapidjson sha512 conn lines history console) :
    submitted env conn history = lines.filterMap (received env sha512) := by
  rw [submitted, paced.written, List.filterMap_map, List.filterMap_filterMap]
  rfl

/-- The server receives every command as it was meant. -/
theorem received_of_awaited
    (inverts : env.rapidjson.Inverts) {line : Bytes}
    (short : line.length < 2 ^ 32) {rq : Request}
    (waits : awaited env.rapidjson sha512 line = some rq) :
    received env sha512 line = some rq := by
  rw [awaited] at waits
  cases sent : interpret env.rapidjson sha512 line with
  | error why =>
      rw [sent] at waits
      cases waits
  | ok result =>
      rcases result with ⟨msg, asked⟩
      rw [sent] at waits
      obtain rfl : asked = some rq := waits
      rw [received, sentMessage, sent]
      change Delivery.known env msg.body = some rq
      rw [Delivery.known, decode_of_interpret inverts short sent]

/-- The line is no command, and the server does not read one in it. -/
def Plain (env : Env) (sha512 : Sha512) (line : Bytes) : Prop :=
  command sha512 line = .ok none → Delivery.known env line = none

/-- Of plain lines the server receives the commands only. -/
theorem received_eq_awaited
    (inverts : env.rapidjson.Inverts) {line : Bytes}
    (short : line.length < 2 ^ 32) (plain : Plain env sha512 line) :
    received env sha512 line = awaited env.rapidjson sha512 line := by
  cases waits : awaited env.rapidjson sha512 line with
  | some rq => exact received_of_awaited inverts short waits
  | none =>
      rw [received, sentMessage]
      rw [awaited] at waits
      cases sent : interpret env.rapidjson sha512 line with
      | error why => rfl
      | ok result =>
          rcases result with ⟨msg, asked⟩
          rw [sent] at waits
          obtain rfl : asked = none := waits
          have body : msg.body = line := (interpret_spec sent).2
          change Delivery.known env msg.body = none
          rw [body]
          exact plain (interpret_eq_ok_iff.mp sent).1

/--
What the program has sent and what it has printed, against the operations
the server has performed.
-/
structure InStep
    (env : Env) (sha512 : Sha512) (conn : ConnId) (lines : List Bytes)
    (history : List Action) (console : Main) : Prop where
  sent :
    ∀ line ∈ lines,
      ∃ sent, interpret env.rapidjson sha512 line = .ok sent
  /-- All commands have been answered, except one that is waited for. -/
  answered :
    console.printed.length + console.phase.owed =
      (commands env.rapidjson sha512 lines).length + 1
  /-- The greeting is printed first, and then the answers of the store. -/
  printed :
    console.printed <+:
      TcpServer.greeting env ::
        (ofProcess conn (operations env history)).map Operation.result
  legal : (accounts env).Legal (operations env history)
  performed :
    (ofProcess conn (operations env history)).map Operation.input <+:
      lines.filterMap (received env sha512)
  /-- Where all lines are plain, every command has its own answer. -/
  own :
    (∀ line ∈ lines, Plain env sha512 line) → console.phase.owed = 0 →
      (ofProcess conn (operations env history)).map Operation.input =
          commands env.rapidjson sha512 lines ∧
        console.printed =
          TcpServer.greeting env ::
            (ofProcess conn (operations env history)).map Operation.result

/-- What the pace of `main` and the run of the network come to. -/
theorem Paced.inStep
    {network : Network} (inverts : env.rapidjson.Inverts)
    (short : ∀ line ∈ lines, line.length < 2 ^ 32)
    (run : Run (Network.system env) history network)
    (paced : Paced env.rapidjson sha512 conn lines history console) :
    InStep env sha512 conn lines history console := by
  have results :
      (ofProcess conn (operations env history)).map Operation.result =
        (Delivery.exchanges conn (serverLabels history)).map
          (responseText env.rapidjson) := by
    rw [ofProcess_operations, List.map_map]
    rfl
  have printed := returned_replies run conn
  rw [← paced.printed, Delivery.replies, ← results] at printed
  have performed := performed_submitted run conn
  rw [submitted_of_paced paced] at performed
  refine
    ⟨paced.sent, paced.answered, printed, (performs_of_run run).1,
      performed, ?_⟩
  intro plain prompt
  have received :
      lines.filterMap (received env sha512) =
        commands env.rapidjson sha512 lines := by
    apply List.filterMap_congr
    intro line member
    exact
      received_eq_awaited inverts (short line member) (plain line member)
  rw [received] at performed
  have answered := paced.answered
  have enough := printed.length_le
  have few := performed.length_le
  simp only [List.length_cons, List.length_map] at enough few
  constructor
  · apply performed.eq_of_length
    rw [List.length_map]
    omega
  · apply printed.eq_of_length
    rw [List.length_cons, List.length_map]
    omega

section Inputs

variable
    {inputs : List Bytes} {labels : List (Option Action)}
    {session : Session}

/--
In every run in which no line has overrun its message, whatever the other
clients do: the program has sent a prefix of its input and goes on, or was
terminated, at the line after it; it has printed one text for each command,
after the greeting, except for the command it waits on; these texts are the
answers of the account store to the first requests that the server has
received from it.  If the server reads no request in a line which is not a
command, they are the answers to the commands.
-/
theorem console_in_step
    {inputs : List Bytes} {labels : List (Option Action)}
    {session : Session} (inverts : env.rapidjson.Inverts)
    (short : ∀ line ∈ inputs, line.length < 2 ^ 32)
    (run : Run (system env sha512 conn inputs) labels session)
    (followed : Followed session) :
    ∃ lines rest,
      inputs = lines ++ rest ∧
        Unsent env.rapidjson sha512 session.console rest ∧
        InStep env sha512 conn lines (actions labels)
          session.console := by
  obtain ⟨lines, rest, split, unsent, paced⟩ := paced_of_run run followed
  refine ⟨lines, rest, split, unsent, ?_⟩
  exact
    paced.inStep inverts (forall_sent short split)
      (network_run run followed)

end Inputs

end Answers

/-- The console has sent all its lines, and the server is behind. -/
theorem console_in_step_sample :
    ∃ lines,
      [sampleLine] = lines ++ [] ∧
        InStep documentEnv sampleSha512 0 lines (actions sampleLabels)
          registering.console := by
  obtain ⟨lines, rest, split, unsent, inStep⟩ :=
    @console_in_step documentEnv sampleSha512 0 [sampleLine] sampleLabels
      registering Reference.documentParser_inverts sampleLine_short
      sample_run sample_followed
  obtain rfl : rest = [] := unsent
  exact ⟨lines, split, inStep⟩

/-! ## Waiting for an answer -/

/-- While `main` is in `read_wait`, a step that its connection takes. -/
def OwnStep
    (conn : ConnId) (source : Session) (label : Option Action)
    (target : Session) : Prop :=
  source.console.Reading ∧
    ∃ action,
      label = some action ∧
        Own conn source.network action target.network

/--
While `main` is in `read_wait`, a step of any connection by which the server
is not ended and this connection not broken.
-/
def AnyStep
    (conn : ConnId) (source : Session) (label : Option Action)
    (target : Session) : Prop :=
  source.console.Reading ∧
    ∃ action,
      label = some action ∧
        Undisturbed conn source.network action target.network

/-- The step is one of the connection. -/
def concernsLabel (conn : ConnId) (label : Option Action) : Bool :=
  label.any (concerns conn)

section Waiting

variable
    {env : Env} {sha512 : Sha512} {conn : ConnId} {inputs : List Bytes}
    {labels : List (Option Action)} {session target : Session}
    {label : Option Action}

/-- What the program writes can be read by `handle`. -/
theorem readable_of_run
    (inverts : env.rapidjson.Inverts)
    (short : ∀ line ∈ inputs, line.length < 2 ^ 32)
    (readable :
      ∀ line ∈ inputs, command sha512 line = .ok none →
        Readable env line)
    (run : Run (system env sha512 conn inputs) labels session)
    (followed : Followed session) :
    ∀ msg ∈ written conn (actions labels), Readable env msg.body := by
  obtain ⟨lines, rest, split, _, paced⟩ := paced_of_run run followed
  intro msg member
  rw [paced.written] at member
  rcases List.mem_filterMap.mp member with ⟨line, among, isSent⟩
  rcases paced.sent line among with ⟨⟨other, rq⟩, sent⟩
  rw [sentMessage, sent] at isSent
  obtain rfl : other = msg := Option.some.inj isSent
  cases rq with
  | some rq =>
      have shortLine := forall_sent short split line among
      exact ⟨_, decode_of_interpret inverts shortLine sent⟩
  | none =>
      have body : other.body = line := (interpret_spec sent).2
      rw [body]
      exact
        forall_sent readable split line among
          (interpret_eq_ok_iff.mp sent).1

/-- A connection whose console waits has a step to take. -/
theorem canStep_of_reading
    (inverts : env.rapidjson.Inverts)
    (short : ∀ line ∈ inputs, line.length < 2 ^ 32)
    (run : Run (system env sha512 conn inputs) labels session)
    (underway : Underway env conn (actions labels) session.network)
    (reading : session.console.Reading) :
    CanStep env conn session.network := by
  rcases underway.stuck_or_complete with possible | complete
  · exact possible
  exfalso
  obtain ⟨lines, rest, split, _, paced⟩ :=
    paced_of_run run (.of_reading reading)
  have received :
      (commands env.rapidjson sha512 lines).Sublist
        (submitted env conn (actions labels)) := by
    rw [submitted_of_paced paced]
    apply filterMap_sublist
    intro line member rq waits
    exact
      received_of_awaited inverts (forall_sent short split line member)
        waits
  have answered := paced.answered
  rw [owed_of_reading reading, paced.printed, complete.returned,
    Delivery.replies, List.length_cons, List.length_map] at answered
  have requests := congrArg List.length complete.requests
  rw [List.length_map] at requests
  have enough := received.length_le
  omega

/-- What the connection can do, it can do beside `main` or as its read. -/
theorem ownStep_of_canStep
    (reading : session.console.Reading)
    (possible : CanStep env conn session.network) :
    ∃ label target,
      Move env sha512 conn session label target ∧
        OwnStep conn session label target := by
  obtain ⟨action, reached, move, own⟩ := possible
  have alive : session.console.phase ≠ .terminated := by
    intro terminated
    have owed := owed_of_reading reading
    rw [terminated] at owed
    cases owed
  by_cases read : ∃ msg, action = .client conn (.readMessage msg)
  · obtain ⟨msg, rfl⟩ := read
    exact ⟨_, _, .prints reading move, reading, _, rfl, own⟩
  · refine ⟨_, _, .beside move ?_, reading, _, rfl, own⟩
    cases action with
    | server event out => exact trivial
    | fault event => exact trivial
    | client other event =>
        rintro rfl
        refine ⟨?_, alive⟩
        have spontaneous := own.spontaneous
        cases event with
        | write msg => exact absurd spontaneous id
        | close => exact absurd spontaneous id
        | readMessage msg => exact absurd ⟨msg, rfl⟩ read
        | _ => exact trivial

/-- While it waits, `main` does nothing but print what arrives. -/
theorem console_of_reading
    (reading : session.console.Reading)
    (move : Move env sha512 conn session label target) :
    target.console = session.console ∨
      ∃ msg, target.console = session.console.print msg := by
  have busy : session.console.phase ≠ .prompt := by
    intro prompt
    have owed := owed_of_reading reading
    rw [prompt] at owed
    cases owed
  cases move with
  | beside => exact Or.inl rfl
  | @prints msg => exact Or.inr ⟨msg, rfl⟩
  | calls prompt => exact absurd prompt busy
  | halts prompt => exact absurd prompt busy
  | undefined overrun => exact absurd overrun (Followed.of_reading reading)

theorem not_reading_print (console : Main) (msg : Message) :
    ¬ (console.print msg).Reading := by
  intro reading
  cases owed_of_reading reading

/-- An answer is on its way to `main`, or has just been printed. -/
structure Expecting
    (env : Env) (sha512 : Sha512) (conn : ConnId) (inputs : List Bytes)
    (before : Main) (labels : List (Option Action)) (session : Session) :
    Prop where
  run : Run (system env sha512 conn inputs) labels session
  underway : Underway env conn (actions labels) session.network
  console :
    session.console = before ∨
      ∃ msg, session.console = before.print msg

theorem OwnStep.anyStep
    (own : OwnStep conn session label target) :
    AnyStep conn session label target := by
  rcases own with ⟨reading, action, rfl, own⟩
  exact ⟨reading, action, rfl, Or.inl own⟩

/-- The move of the network which a step of any connection is. -/
theorem move_of_anyStep {action : Action}
    (move : Move env sha512 conn session (some action) target)
    (reading : session.console.Reading) :
    Network.Move env session.network action target.network := by
  cases move with
  | beside move => exact move
  | prints _ move => exact move
  | calls _ _ move => exact move
  | undefined overrun => exact absurd overrun (Followed.of_reading reading)

section Expecting

variable {before : Main}

theorem Expecting.step
    (expecting :
      Expecting env sha512 conn inputs before labels session)
    (move : Move env sha512 conn session label target)
    (any : AnyStep conn session label target) :
    Expecting env sha512 conn inputs before (labels ++ [label])
      target := by
  rcases any with ⟨reading, action, rfl, undisturbed⟩
  constructor
  · exact expecting.run.snoc move
  · rw [actions_snoc]
    exact expecting.underway.step (move_of_anyStep move reading) undisturbed
  · rcases expecting.console with same | ⟨msg, printed⟩
    · rw [← same]
      exact console_of_reading reading move
    · rw [printed] at reading
      exact absurd reading (not_reading_print before msg)

theorem Expecting.spends
    (expecting :
      Expecting env sha512 conn inputs before labels session)
    (move : Move env sha512 conn session label target)
    (any : AnyStep conn session label target) :
    potential conn target.network + (concernsLabel conn label).toNat ≤
      potential conn session.network := by
  rcases any with ⟨reading, action, rfl, undisturbed⟩
  exact expecting.underway.spends (move_of_anyStep move reading) undisturbed

/-- The answer has been printed, or the connection can go on. -/
theorem Expecting.advances
    (inverts : env.rapidjson.Inverts)
    (short : ∀ line ∈ inputs, line.length < 2 ^ 32)
    (reading : before.Reading)
    (expecting :
      Expecting env sha512 conn inputs before labels session) :
    (∃ msg, session.console = before.print msg) ∨
      ∃ label target,
        Move env sha512 conn session label target ∧
          OwnStep conn session label target := by
  rcases expecting.console with same | printed
  · right
    rw [← same] at reading
    apply ownStep_of_canStep reading
    exact
      canStep_of_reading inverts short expecting.run expecting.underway
        reading
  · exact Or.inl printed

/-- Steps of the connection lead to where the next text is printed. -/
theorem Expecting.exists_printed
    (inverts : env.rapidjson.Inverts)
    (short : ∀ line ∈ inputs, line.length < 2 ^ 32)
    (reading : before.Reading)
    (expecting :
      Expecting env sha512 conn inputs before labels session) :
    ∃ more final msg,
      Path ((system env sha512 conn inputs).restrict (OwnStep conn))
          session more final ∧
        final.console = before.print msg := by
  obtain ⟨more, final, path, msg, printed⟩ :=
    @Path.exists_goal _ _ (system env sha512 conn inputs)
      (OwnStep conn) (fun session => potential conn session.network)
      (Expecting env sha512 conn inputs before)
      (fun _ final => ∃ msg, final.console = before.print msg)
      (fun _ _ _ _ move own here => here.step move own.anyStep)
      (fun _ _ _ _ move own here => by
        rcases own with ⟨reading, action, rfl, own⟩
        have live := live_of_run here.underway.run here.underway.unbroken
        exact own_spends live (move_of_anyStep move reading) own)
      (fun _ _ here => here.advances inverts short reading)
      _ _ expecting
  exact ⟨more, final, msg, path, printed⟩

/--
A program that is in `read_wait` and has overrun no message, on an accepted
connection where nothing has broken, will be answered: steps of the connection
lead to where it has printed the next text.  Whatever the other connections do
meanwhile, as long as no exception ends the server, the connection takes no
more steps than its potential tells until then, and it always has one to take.
-/
theorem console_answered
    (inverts : env.rapidjson.Inverts)
    (short : ∀ line ∈ inputs, line.length < 2 ^ 32)
    (readable :
      ∀ line ∈ inputs, command sha512 line = .ok none →
        Readable env line)
    (run : Run (system env sha512 conn inputs) labels session)
    (unbroken : ∀ action ∈ actions labels, Unbroken conn action)
    (accepted : conn < session.network.server.accepting)
    (reading : session.console.Reading) :
    (∃ more final msg,
        Path ((system env sha512 conn inputs).restrict (OwnStep conn))
            session more final ∧
          final.console = session.console.print msg) ∧
      ∀ more final,
        Path ((system env sha512 conn inputs).restrict (AnyStep conn))
            session more final →
          more.countP (concernsLabel conn) ≤
              potential conn session.network ∧
            ((∃ msg, final.console = session.console.print msg) ∨
              ∃ label target,
                Move env sha512 conn final label target ∧
                  OwnStep conn final label target) := by
  have underway :
      Underway env conn (actions labels) session.network :=
    ⟨network_run run (.of_reading reading), unbroken, accepted,
      readable_of_run inverts short readable run (.of_reading reading)⟩
  have expecting :
      Expecting env sha512 conn inputs session.console labels session :=
    ⟨run, underway, Or.inl rfl⟩
  constructor
  · exact expecting.exists_printed inverts short reading
  · intro more final path
    have counted :=
      @Path.countP_le _ _ (system env sha512 conn inputs) (AnyStep conn)
        (fun session => potential conn session.network)
        (Expecting env sha512 conn inputs session.console)
        (concernsLabel conn)
        (fun _ _ _ _ move any here => here.step move any)
        (fun _ _ _ _ move any here => here.spends move any)
        _ _ _ _ path expecting
    constructor
    · exact Nat.le_trans (Nat.le_add_right _ _) counted.1
    · exact counted.2.advances inverts short reading

end Expecting

end Waiting

theorem sampleLine_not_raw :
    ∀ line ∈ [sampleLine], command sampleSha512 line ≠ .ok none := by
  intro line member raw
  rw [List.mem_singleton.mp member, sampleLine_command] at raw
  cases raw

theorem sample_readable :
    ∀ line ∈ [sampleLine], command sampleSha512 line = .ok none →
      Readable documentEnv line := by
  intro line member raw
  exact absurd raw (sampleLine_not_raw line member)

theorem sample_unbroken :
    ∀ action ∈ actions sampleLabels, Unbroken 0 action := by
  simp [actions, sampleLabels, Unbroken, Succeeds, ClientSucceeds]

/-- The response to the registration is on its way. -/
theorem console_answered_sample :
    ∃ more final msg,
      Path
          ((system documentEnv sampleSha512 0 [sampleLine]).restrict
            (OwnStep 0))
          registering more final ∧
        final.console = registering.console.print msg :=
  (console_answered Reference.documentParser_inverts sampleLine_short
    sample_readable sample_run sample_unbroken Nat.zero_lt_one
    (Or.inr rfl)).1

/-! ## A person who uses the console alone -/

/-- Where all steps are those of one connection, nobody else writes. -/
theorem private_of_concerns
    {env : Env} {conn : ConnId} {labels : List (Option Action)}
    (own : ∀ label ∈ labels, concernsLabel conn label = true) :
    Isolation.Private env conn (actions labels) := by
  intro other elsewhere req isSubmitted
  have quiet : clientEvents other (actions labels) = [] := by
    apply List.filterMap_eq_nil_iff.mpr
    intro action member
    rcases List.mem_filterMap.mp member with ⟨label, among, rfl⟩
    have concerned : concerns conn action = true := own _ among
    cases action with
    | server event out => rfl
    | fault event => rfl
    | client there event =>
        obtain rfl : there = conn := of_decide_eq_true concerned
        exact if_neg (Ne.symm elsewhere)
  rw [submitted, written, quiet] at isSubmitted
  cases isSubmitted

/-- The response to the sample line is waited for. -/
theorem sampleLine_awaited :
    awaited documentEnv.rapidjson sampleSha512 sampleLine =
      some sampleRequest := by
  rw [awaited, sampleLine_interpreted]
  rfl

/-- The response has been printed, and nobody else has done anything. -/
theorem sample_answered :
    ∃ labels session msg,
      Run (system documentEnv sampleSha512 0 [sampleLine]) labels session ∧
        session.console = registering.console.print msg ∧
        ∀ label ∈ labels, concernsLabel 0 label = true := by
  have underway :
      Underway documentEnv 0 (actions sampleLabels) registering.network :=
    ⟨network_run sample_run sample_followed, sample_unbroken,
      Nat.zero_lt_one,
      readable_of_run Reference.documentParser_inverts sampleLine_short
        sample_readable sample_run sample_followed⟩
  have expecting :
      Expecting documentEnv sampleSha512 0 [sampleLine] registering.console
        sampleLabels registering :=
    ⟨sample_run, underway, Or.inl rfl⟩
  obtain ⟨more, final, msg, path, printed⟩ :=
    expecting.exists_printed Reference.documentParser_inverts
      sampleLine_short (Or.inr rfl)
  have run := sample_run.append path.of_restrict
  refine ⟨sampleLabels ++ more, final, msg, run, printed, ?_⟩
  have sampleOwn :
      ∀ label ∈ sampleLabels, concernsLabel 0 label = true := by
    simp [sampleLabels, concernsLabel, concerns, TcpServer.Event.conn]
  intro label member
  rcases List.mem_append.mp member with earlier | later
  · exact sampleOwn label earlier
  · apply path.forall_labels _ label later
    rintro source label target ⟨_, _, action, rfl, own⟩
    exact own.concerns

/-- Then the program has sent its only line. -/
theorem sample_paced
    {labels : List (Option Action)} {session : Session} {msg : Message}
    (run : Run (system documentEnv sampleSha512 0 [sampleLine]) labels
      session)
    (printed : session.console = registering.console.print msg) :
    Paced documentEnv.rapidjson sampleSha512 0 [sampleLine]
      (actions labels) session.console := by
  have followed : Followed session := .of_printed printed
  obtain ⟨lines, rest, split, unsent, paced⟩ := paced_of_run run followed
  rw [printed] at unsent
  obtain rfl : rest = [] := unsent
  rw [List.append_nil] at split
  rw [split]
  exact paced

/--
A person whose emails nobody else uses, and who types no line in which the
server reads a request unless it is a command, reads at the prompt what the
account store answers to the commands: the greeting, and the results of the
commands so far, one after the other, on a store that was empty at first.
This holds as long as no line has overrun its message.
-/
theorem private_console_printed
    {env : Env} {sha512 : Sha512} {conn : ConnId} {inputs : List Bytes}
    {labels : List (Option Action)} {session : Session}
    (inverts : env.rapidjson.Inverts)
    (short : ∀ line ∈ inputs, line.length < 2 ^ 32)
    (plain : ∀ line ∈ inputs, Plain env sha512 line)
    (run : Run (system env sha512 conn inputs) labels session)
    (followed : Followed session)
    (alone : Isolation.Private env conn (actions labels))
    (prompt : session.console.phase.owed = 0) :
    ∃ lines rest,
      inputs = lines ++ rest ∧
        Unsent env.rapidjson sha512 session.console rest ∧
        session.console.printed =
          TcpServer.greeting env ::
            ((accounts env).run (accounts env).init
              (commands env.rapidjson sha512 lines)).1 := by
  obtain ⟨lines, rest, split, unsent, paced⟩ := paced_of_run run followed
  have networkRun := network_run run followed
  refine ⟨lines, rest, split, unsent, ?_⟩
  have inStep :=
    paced.inStep inverts (forall_sent short split) networkRun
  rcases inStep.own (forall_sent plain split) prompt with
    ⟨performed, printed⟩
  have legal := Isolation.legal_of_private networkRun alone
  rw [printed, ← legal, performed]

/-- Nobody else writes, and the console has printed what the store answers. -/
theorem private_console_printed_sample :
    ∃ labels session,
      Run (system documentEnv sampleSha512 0 [sampleLine]) labels session ∧
        session.console.printed =
          TcpServer.greeting documentEnv ::
            ((accounts documentEnv).run (accounts documentEnv).init
              [sampleRequest]).1 := by
  obtain ⟨labels, session, msg, run, printed, own⟩ := sample_answered
  have followed : Followed session := .of_printed printed
  have prompt : session.console.phase.owed = 0 := by
    rw [printed]
    rfl
  obtain ⟨lines, rest, split, unsent, same⟩ :=
    private_console_printed Reference.documentParser_inverts
      sampleLine_short
      (fun line member raw => absurd raw (sampleLine_not_raw line member))
      run followed (private_of_concerns own) prompt
  rw [printed] at unsent
  obtain rfl : rest = [] := unsent
  rw [List.append_nil] at split
  refine ⟨labels, session, run, ?_⟩
  rw [same, ← split, commands, List.filterMap_cons_some sampleLine_awaited,
    List.filterMap_nil]

end PokerBackend.ConsoleRun
