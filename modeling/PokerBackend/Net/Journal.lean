import PokerBackend.Lib.Journal
import PokerBackend.Net.Serving

/-!
# The statements a call executes

The handlers over a database which keeps a journal: each SQL statement is
noted when it has been executed.  With the journal they do what they do
without it, and the statements in it account for what becomes of the table.

With what `Serving` says about faults this makes a call atomic: no handler
uses a transaction, but each of them changes the table at most once, and after
that nothing can throw any more.
-/

namespace PokerBackend.Net.Journal

open PokerBackend.Api
open PokerBackend.Db
open PokerBackend.Lib.Execution
open PokerBackend.Lib.Journal
open PokerBackend.Net.MesHandler
open PokerBackend.Net.Serving
open PokerBackend.ServerM

/-- A computation of the server process which notes its statements. -/
abbrev JournaledM (α : Type) := JournalM Statement Fault Server α

/-- Run a statement, and note it when it has been executed. -/
def noting {α : Type} (statement : Statement) (plain : ServerM α) :
    JournaledM α := do
  let result ← plain
  note statement
  return result

/-- The table of the server, where every executed statement is noted. -/
def noted (db : DbFaults) : Database JournaledM where
  query statement read := noting statement (query db statement read)
  execute statement change := noting statement (execute db statement change)

/-- `handle(msg, sender)`, noting its statements. -/
def handle
    (env : Env) (db : DbFaults) (msg : Message) (sender : ConnId) :
    JournaledM (Option Exchange) :=
  (noted db).handle env msg sender

/-! ## The journal makes no difference -/

section Erases

variable (env : Env) (db : DbFaults) (sender : ConnId)

theorem noting_erases {α : Type}
    (statement : Statement) (plain : ServerM α) :
    Erases (noting statement plain) plain := by
  have erases : Erases (noting statement plain) (plain >>= pure) :=
    .bind (.lift _) fun result => .note_bind _ (.pure result)
  rwa [bind_pure] at erases

/-- The last two lines of every handler execute no statement. -/
theorem reply_erases (text : Bytes) (exchange : Exchange) :
    Erases
      (do
        deliver text sender
        return exchange : JournaledM Exchange)
      (do
        deliver text sender
        return exchange) :=
  .bind (.lift _) fun _ => .pure _

theorem register_erases (req : RegisterRequest) :
    Erases ((noted db).register env req sender)
      ((onTable db).register env req sender) := by
  refine .bind (noting_erases _ _) fun results => ?_
  rcases regRows req.email results {} with ⟨ok, rsp⟩
  -- Each branch of the `if` goes on with the reply.
  refine .ite ?_ (.bind (.pure _) fun rsp => reply_erases _ _ _)
  refine .bind (noting_erases _ _) fun maxId => ?_
  refine .bind (noting_erases _ _) fun _ => ?_
  exact .bind (.pure _) fun rsp => reply_erases _ _ _

theorem login_erases (req : LoginRequest) :
    Erases ((noted db).login env req sender)
      ((onTable db).login env req sender) := by
  refine .bind (noting_erases _ _) fun results => ?_
  refine .ite (.bind (.pure _) fun rsp => reply_erases _ _ _) ?_
  refine .bind (.lift _) fun found => ?_
  rcases found with ⟨status, rsp⟩
  exact
    .ite (.bind (.pure _) fun rsp => reply_erases _ _ _)
      (.bind (.pure _) fun rsp => reply_erases _ _ _)

theorem unregRows_erases
    (email reqPass : Bytes) (rows : List Row)
    (rsp : UnregisterResponse) :
    Erases ((noted db).unregRows email reqPass rows rsp)
      ((onTable db).unregRows email reqPass rows rsp) := by
  induction rows with
  | nil => exact .pure _
  | cons row rows induction =>
      rw [Database.unregRows, Database.unregRows]
      refine .ite (.ite ?_ (.pure _)) induction
      exact .bind (noting_erases _ _) fun _ => .pure _

theorem unregister_erases (req : UnregisterRequest) :
    Erases ((noted db).unregister env req sender)
      ((onTable db).unregister env req sender) := by
  refine .bind (noting_erases _ _) fun results => ?_
  refine .bind (unregRows_erases db _ _ _ _) fun found => ?_
  rcases found with ⟨emailOk, rsp⟩
  exact reply_erases _ _ _

theorem handle_erases (msg : Message) :
    Erases (handle env db msg sender)
      (MesHandler.handle env db msg sender) := by
  refine .bind (.lift _) fun j => .bind (.lift _) fun val => ?_
  refine .ite ?_ (.ite ?_ (.ite ?_ (.pure _)))
  · refine .bind ?_ fun exchange => .pure _
    exact .bind (.lift _) fun req => register_erases env db sender req
  · refine .bind ?_ fun exchange => .pure _
    exact .bind (.lift _) fun req => login_erases env db sender req
  · refine .bind ?_ fun exchange => .pure _
    exact .bind (.lift _) fun req => unregister_erases env db sender req

end Erases

/-! ## Statements that change the table -/

/-- An `insert` or a `delete`. -/
def mutates : Statement → Bool
  | .insertInto _ | .removeFrom _ => true
  | .selectByEmail _ | .selectMaxUserId => false

/-- What a statement does to the rows. -/
def effect : Statement → UsersTable → UsersTable
  | .insertInto row, table => table.insertInto row
  | .removeFrom email, table => table.removeFrom email
  | .selectByEmail _, table | .selectMaxUserId, table => table

/-- The account of the table which the noted statements give. -/
def ledger : Ledger Statement Server UsersTable where
  view := Server.table
  effect := effect
  changes := mutates
  effect_eq statement table quiet := by
    cases statement with
    | selectByEmail email => rfl
    | selectMaxUserId => rfl
    | insertInto row => cases quiet
    | removeFrom email => cases quiet

/--
The statements which are noted make the table what it becomes, and at most so
many of them change it.
-/
abbrev MutatesAtMost {α : Type}
    (count : Nat) (program : JournaledM α) : Prop :=
  Records ledger count program

section Mutates

variable (env : Env) (db : DbFaults) (sender : ConnId)

theorem raise_keeps {α : Type} (result : Except Fault α) :
    Keeps Server.table (raise result) := by
  intro source value target returned
  cases result with
  | error fault => cases returned
  | ok read =>
      cases returned
      rfl

theorem deliver_keeps (text : Bytes) :
    Keeps Server.table (deliver text sender) := by
  refine .bind (raise_keeps _) fun msg => ?_
  intro source value target returned
  cases returned
  rfl

/-- The row loop of a login writes the registry only. -/
theorem loginRows_keeps
    (reqPass : Bytes) (rows : List Row) (rsp : LoginResponse) :
    Keeps Server.table (loginRows reqPass sender rows rsp) := by
  induction rows with
  | nil => exact .pure _
  | cons row rows induction =>
      rw [loginRows]
      split
      · refine .bind ?_ fun _ => .pure _
        intro source value target returned
        cases returned
        rfl
      · exact induction

theorem query_mutates {α : Type}
    {statement : Statement} (read : UsersTable → α)
    (reads : mutates statement = false) :
    MutatesAtMost 0 ((noted db).query statement read) := by
  have few : [statement].countP ledger.changes ≤ 0 := by
    simp [ledger, reads]
  refine .then_note few ?_
  intro source value target returned
  rw [ledger.effect_eq _ _ reads]
  rw [EStateM.run, query] at returned
  split at returned
  · cases returned
  · cases returned
    rfl

theorem execute_mutates
    {statement : Statement} {change : UsersTable → UsersTable}
    (means : effect statement = change) :
    MutatesAtMost 1 ((noted db).execute statement change) := by
  refine .then_note List.countP_le_length ?_
  intro source value target returned
  rw [EStateM.run, execute] at returned
  split at returned
  · cases returned
  · cases returned
    rw [← means]
    rfl

theorem reply_mutates (text : Bytes) (exchange : Exchange) :
    MutatesAtMost 0
      (do
        deliver text sender
        return exchange : JournaledM Exchange) :=
  .quiet_bind (.lift (deliver_keeps sender text)) fun _ => .pure _

/-- Inserting is the one mutation, on the branch of a free email. -/
theorem register_mutates (req : RegisterRequest) :
    MutatesAtMost 1 ((noted db).register env req sender) := by
  refine .quiet_bind (query_mutates db _ (by rfl)) fun results => ?_
  rcases regRows req.email results {} with ⟨ok, rsp⟩
  refine .ite ?_ ?_
  · refine .quiet_bind (query_mutates db _ (by rfl)) fun maxId => ?_
    refine .bind_quiet (execute_mutates db rfl) fun _ => ?_
    exact .quiet_bind (.pure _) fun rsp => reply_mutates _ _ _
  · refine Records.mono ?_ (Nat.zero_le 1)
    exact .quiet_bind (.pure rsp) fun rsp => reply_mutates _ _ _

theorem login_mutates (req : LoginRequest) :
    MutatesAtMost 0 ((noted db).login env req sender) := by
  refine .quiet_bind (query_mutates db _ (by rfl)) fun results => ?_
  refine .ite (.quiet_bind (.pure _) fun rsp => reply_mutates _ _ _) ?_
  refine .quiet_bind (.lift (loginRows_keeps sender _ _ _)) fun found => ?_
  rcases found with ⟨status, rsp⟩
  exact
    .ite (.quiet_bind (.pure _) fun rsp => reply_mutates _ _ _)
      (.quiet_bind (.pure _) fun rsp => reply_mutates _ _ _)

/-- The loop stops at the row for which it removes. -/
theorem unregRows_mutates
    (email reqPass : Bytes) (rows : List Row)
    (rsp : UnregisterResponse) :
    MutatesAtMost 1 ((noted db).unregRows email reqPass rows rsp) := by
  have returns (found : Bool × UnregisterResponse) :
      MutatesAtMost 1 (pure found) :=
    (Records.pure found).mono (Nat.zero_le 1)
  induction rows with
  | nil => exact returns _
  | cons row rows induction =>
      rw [Database.unregRows]
      -- A row of the email ends the loop, so there is no second removal.
      refine .ite (.ite ?_ (returns _)) induction
      exact .bind_quiet (execute_mutates db rfl) fun _ => .pure _

theorem unregister_mutates (req : UnregisterRequest) :
    MutatesAtMost 1 ((noted db).unregister env req sender) := by
  refine .quiet_bind (query_mutates db _ (by rfl)) fun results => ?_
  refine .bind_quiet (unregRows_mutates db _ _ _ _) fun found => ?_
  rcases found with ⟨emailOk, rsp⟩
  exact reply_mutates _ _ _

theorem handle_mutates (msg : Message) :
    MutatesAtMost 1 (handle env db msg sender) := by
  refine
    .quiet_bind (.lift (raise_keeps _)) fun j =>
      .quiet_bind (.lift (raise_keeps _)) fun val => ?_
  refine .ite ?_ (.ite ?_ (.ite ?_ ?_))
  · refine .bind_quiet ?_ fun exchange => .pure _
    refine .quiet_bind (.lift (raise_keeps _)) fun req => ?_
    exact register_mutates env db sender req
  · refine .bind_quiet ?_ fun exchange => .pure _
    refine .quiet_bind (.lift (raise_keeps _)) fun req => ?_
    exact (login_mutates env db sender req).mono (Nat.zero_le 1)
  · refine .bind_quiet ?_ fun exchange => .pure _
    refine .quiet_bind (.lift (raise_keeps _)) fun req => ?_
    exact unregister_mutates env db sender req
  · exact (Records.pure _).mono (Nat.zero_le 1)

end Mutates

/-! ## Atomicity -/

/-- What can stop a call on a message. -/
inductive Raised
    (env : Env) (db : DbFaults) (msg : Message) : Fault → Prop where
  | parse {fault : Fault}
      (failed : Json.parse env.rapidjson msg.body = .error fault) :
      Raised env db msg fault
  /-- The error of `value_as` for the type or for a field of the request. -/
  | valueAs {fault : Fault} {j : Json} {name : Bytes}
      (parsed : Json.parse env.rapidjson msg.body = .ok j)
      (failed : j.valueAsString name = .error fault) :
      Raised env db msg fault
  | statement {statement : Statement} {what : Bytes}
      (failed : db statement = some what) :
      Raised env db msg (.sqlError what)

/-- The database and what the server keeps in memory are the same. -/
structure Unchanged (before after : Server) : Prop where
  table : after.table = before.table
  users : after.users = before.users
  participants : after.participants = before.participants
  writeMsgs :
    ∀ conn,
      (after.connections conn).writeMsgs =
        (before.connections conn).writeMsgs

theorem readCredentials_error {root : Json} {fault : Fault}
    (failed : readCredentials root = .error fault) :
    ∃ name, root.valueAsString name = .error fault := by
  rw [readCredentials, bind_eq_error_iff] at failed
  rcases failed with email | ⟨_, _, passHash⟩
  · exact ⟨_, email⟩
  · exact ⟨_, bind_pure_eq_error_iff.mp passHash⟩

/-- A request that cannot be read fails at one of its fields. -/
theorem registerRequest_error {root : Json} {fault : Fault}
    (failed : RegisterRequest.fromJson root = .error fault) :
    ∃ name, root.valueAsString name = .error fault := by
  rw [RegisterRequest.fromJson, bind_eq_error_iff] at failed
  rcases failed with nickname | ⟨_, _, failed⟩
  · exact ⟨_, nickname⟩
  rw [bind_eq_error_iff] at failed
  rcases failed with email | ⟨_, _, passHash⟩
  · exact ⟨_, email⟩
  · exact ⟨_, bind_pure_eq_error_iff.mp passHash⟩

theorem loginRequest_error {root : Json} {fault : Fault}
    (failed : LoginRequest.fromJson root = .error fault) :
    ∃ name, root.valueAsString name = .error fault := by
  rw [LoginRequest.fromJson, bind_pure_eq_error_iff] at failed
  exact readCredentials_error failed

theorem unregisterRequest_error {root : Json} {fault : Fault}
    (failed : UnregisterRequest.fromJson root = .error fault) :
    ∃ name, root.valueAsString name = .error fault := by
  rw [UnregisterRequest.fromJson, bind_pure_eq_error_iff] at failed
  exact readCredentials_error failed

theorem decode_error
    {env : Env} {db : DbFaults} {msg : Message} {fault : Fault}
    (failed : decode env.rapidjson msg.body = .error fault) :
    Raised env db msg fault := by
  rw [decode, bind_eq_error_iff] at failed
  rcases failed with parse | ⟨j, parsed, failed⟩
  · exact .parse parse
  have field (read : ∃ name, j.valueAsString name = .error fault) :
      Raised env db msg fault := by
    rcases read with ⟨name, failed⟩
    exact .valueAs parsed failed
  rw [bind_eq_error_iff] at failed
  rcases failed with type | ⟨val, _, failed⟩
  · exact field ⟨_, type⟩
  split at failed
  · exact field (registerRequest_error (bind_pure_eq_error_iff.mp failed))
  split at failed
  · exact field (loginRequest_error (bind_pure_eq_error_iff.mp failed))
  split at failed
  · exact field (unregisterRequest_error (bind_pure_eq_error_iff.mp failed))
  · cases failed

/-- A fault is raised before anything has been changed. -/
theorem handle_error
    {env : Env} {db : DbFaults} {msg : Message} {sender : ConnId}
    {server reached : Server} {fault : Fault}
    (failed :
      (MesHandler.handle env db msg sender).run server =
        .error fault reached) :
    Raised env db msg fault ∧ reached = server := by
  rw [handle_run] at failed
  cases read : decode env.rapidjson msg.body with
  | error raised =>
      simp only [read] at failed
      cases failed
      exact ⟨decode_error read, rfl⟩
  | ok value =>
      cases value with
      | none =>
          simp only [read] at failed
          cases failed
      | some req =>
          simp only [read] at failed
          split at failed
          · next what thrown =>
              cases failed
              rcases List.exists_of_findSome?_eq_some thrown with
                ⟨statement, _, fails⟩
              exact ⟨.statement fails, rfl⟩
          · cases failed

/--
A call that exits by an exception leaves everything as it was, and a call that
returns has executed at most one statement which changes the table.
-/
theorem failed_request_atomic
    (env : Env) (db : DbFaults) (msg : Message) (sender : ConnId)
    (server : Server) :
    (∀ fault reached,
      (MesHandler.handle env db msg sender).run server =
          .error fault reached →
        Raised env db msg fault ∧ Unchanged server reached) ∧
      ∀ out final,
        (MesHandler.handle env db msg sender).run server = .ok out final →
          ∃ executed,
            ((handle env db msg sender).run []).run server =
                .ok (out, executed) final ∧
              executed.countP mutates ≤ 1 := by
  constructor
  · intro fault reached failed
    rcases handle_error failed with ⟨raised, rfl⟩
    exact ⟨raised, rfl, rfl, rfl, fun _ => rfl⟩
  · intro out final returned
    rcases (handle_erases env db sender msg).returns returned [] with
      ⟨executed, journaled⟩
    rcases handle_mutates env db sender msg _ _ _ _ _ journaled with
      ⟨noted, rfl, few, _⟩
    exact ⟨_, journaled, few⟩

end PokerBackend.Net.Journal
