import PokerBackend.AccountHistory
import PokerBackend.Net.Journal
import PokerBackend.Sessions

/-!
# The lifetimes of the server process

An exception that escapes a handler ends the process, and so may anything
outside it.  The next process has neither connections nor sessions; it finds
the rows which the earlier ones have left in the database.

A process that is killed within `handle` leaves the rows which the statements
executed so far have made.  At most one of them changes the table, so these
are the rows before the request or those after it, and the accounts of all
lifetimes together are the accounts of one history.  The sessions are those of
the lifetime they were made in.
-/

namespace PokerBackend.Lifetimes

open PokerBackend.Account
open PokerBackend.AccountHistory
open PokerBackend.Accounts
open PokerBackend.Api
open PokerBackend.Db
open PokerBackend.Lib.Execution
open PokerBackend.Net
open PokerBackend.Net.MesHandler
open PokerBackend.Net.Serving
open PokerBackend.Net.TcpServer
open PokerBackend.Sessions
open PokerBackend.TableInvariant

/-- A step of the process, or one of its ends. -/
inductive Happening where
  /-- A completion handler returns. -/
  | step (label : Label)
  /-- An exception escapes from a completion handler. -/
  | thrown (event : Event)
  /-- The process is killed outside `handle`. -/
  | terminated
  /--
  It is killed within `handle`, or before the handler that has called it
  returns, when the given statements have been executed.
  -/
  | killed (label : Label) (executed : List Statement)

namespace Happening

/--
What was served.  Nobody is told of a request at which the process was killed;
it counts if one of its statements has changed the table.
-/
def served : Happening → Option Label
  | .step label => some label
  | .killed label executed =>
      if executed.any Journal.mutates then some label else none
  | .thrown _ | .terminated => none

def Ends : Happening → Prop
  | .step _ => False
  | _ => True

end Happening

open Happening (served Ends)

/-- What was served in all lifetimes. -/
def labels (happenings : List Happening) : List Label :=
  happenings.filterMap served

/-- A process that has just been started, and has connected to the database. -/
def restarted (table : UsersTable) : Server :=
  { Server.start with table }

section System

variable (env : Env)

/-- The process takes a step, or ends and is started again. -/
inductive Move (source : Server) : Happening → Server → Prop where
  | step {label : Label} {target : Server}
      (step : (server env).step source label target) :
      Move source (.step label) target
  | thrown {event : Event} {fault : Fault} {reached : Server}
      (enabled : event.Enabled source)
      (thrown : (callback env event).run source = .error fault reached) :
      Move source (.thrown event) (restarted reached.table)
  | terminated :
      Move source .terminated (restarted source.table)
  | killed {conn : ConnId} {bytes : BodyBytes} {db : DbFaults}
      {out : Option Exchange} {statements : List Statement}
      {reached : Server} (count : Nat)
      (enabled : (Event.bodyRead conn bytes db).Enabled source)
      (journaled :
        ((Journal.handle env db (bodyMessage source conn bytes) conn).run
            []).run (afterBody source conn bytes) =
          .ok (out, statements) reached) :
      Move source
        (.killed (.bodyRead conn bytes db, out) (statements.take count))
        (restarted
          (Journal.ledger.replay (statements.take count) source.table))

/-- The lifetimes of the process, from an empty table. -/
def system : System Server Happening where
  start := .start
  step := Move env

end System

section Run

variable
    {env : Env} {happenings : List Happening} {happening : Happening}
    {source target state : Server}

theorem labels_snoc (happenings : List Happening) (happening : Happening) :
    labels (happenings ++ [happening]) =
      labels happenings ++ happening.served.toList := by
  rw [labels, List.filterMap_append, ← labels]
  cases seen : happening.served <;> simp [seen]

/-- A call which was killed would have been a step of the process. -/
theorem step_of_journaled
    {conn : ConnId} {bytes : BodyBytes} {db : DbFaults}
    {out : Option Exchange} {statements : List Statement} {reached : Server}
    (enabled : (Event.bodyRead conn bytes db).Enabled source)
    (journaled :
      ((Journal.handle env db (bodyMessage source conn bytes) conn).run
          []).run (afterBody source conn bytes) =
        .ok (out, statements) reached) :
    (server env).step source (.bodyRead conn bytes db, out)
      (reached.updateConnection conn .doReadHeader) := by
  have erases :=
    Journal.handle_erases env db conn (bodyMessage source conn bytes) []
  have returned :
      (handle env db (bodyMessage source conn bytes) conn).run
          (afterBody source conn bytes) =
        .ok out reached := by
    rw [← erases, map_eq_pure_bind, EStateM.run_bind, journaled]
    rfl
  constructor
  · exact enabled
  · rw [bodyRead_run, returned]

/-- The step lemma: a move leaves the rows, or those of a served request. -/
theorem table_cases (move : Move env source happening target) :
    (happening.served = none ∧ target.table = source.table) ∨
      ∃ event out reached,
        happening.served = some (event, out) ∧
          Change env source event out reached ∧
          target.table = reached.table := by
  cases move with
  | step step => exact Or.inr ⟨_, _, _, rfl, step_cases step, rfl⟩
  | thrown enabled thrown =>
      rcases fault_cases thrown with ⟨conn, bytes, db, rfl, rfl⟩
      exact Or.inl ⟨rfl, rfl⟩
  | terminated => exact Or.inl ⟨rfl, rfl⟩
  | @killed conn bytes db out statements reached count enabled journaled =>
      rcases Journal.handle_mutates env db conn _ _ _ _ _ _ journaled with
        ⟨_, rfl, few, account⟩
      have cut := Journal.ledger.replay_take few count source.table
      by_cases changed : (statements.take count).any Journal.mutates
      · right
        refine
          ⟨_, out, _, if_pos changed,
            step_cases (step_of_journaled enabled journaled), ?_⟩
        exact (cut.trans (if_pos changed)).trans account.symm
      · left
        exact ⟨if_neg changed, cut.trans (if_neg changed)⟩

/-- The keys of the rows, over all lifetimes. -/
theorem wellKeyed_of_lifetimes
    (run : Run (system env) happenings state) :
    WellKeyed (registrations (labels happenings)).length state.table := by
  refine Run.invariant
    (motive := fun happenings state =>
      WellKeyed (registrations (labels happenings)).length state.table)
    ?_ ?_ run
  · exact .empty
  · intro happenings source happening target _ move keyed
    rw [labels_snoc]
    rcases table_cases move with
      ⟨none, table⟩ | ⟨event, out, reached, some, change, table⟩
    · rw [none, table, Option.toList_none, List.append_nil]
      exact keyed
    · rw [some, table, Option.toList_some, registrations_snoc]
      rcases change.accounts with ⟨rfl, kept, _⟩ | ⟨req, rfl, next, _⟩
      · rw [kept]
        exact keyed
      · rw [next]
        exact keyed.change (outcome_table env source.table event.conn req)

/-- The accounts, over all lifetimes. -/
theorem told_of_lifetimes
    (run : Run (system env) happenings state) (address : Bytes) :
    Told env address (labels happenings) state := by
  refine Run.invariant
    (motive := fun happenings state =>
      Told env address (labels happenings) state)
    ⟨rfl, throughout_nil⟩ ?_ run
  intro happenings source happening target path move told
  rw [labels_snoc]
  rcases table_cases move with
    ⟨none, table⟩ | ⟨event, out, reached, some, change, table⟩
  · rw [none, Option.toList_none, List.append_nil]
    exact told.of_table table
  · have unique := (wellKeyed_of_lifetimes path).emails
    rw [some, Option.toList_some]
    exact (told.step unique change).of_table table

/-- A row stays until its email is unregistered, in whichever lifetime. -/
theorem row_mem_move
    {row : Row} (move : Move env source happening target)
    (kept :
      ∀ label, happening.served = some label →
        ¬ Unregisters row.email label)
    (member : row ∈ source.table) :
    row ∈ target.table := by
  rcases table_cases move with
    ⟨_, table⟩ | ⟨event, out, reached, some, change, table⟩
  · rw [table]
    exact member
  · rw [table]
    exact row_mem_step (step_of_change change) (kept _ some) member

theorem row_mem_path
    {row : Row} (path : Path (system env) source happenings state)
    (kept : ∀ label ∈ labels happenings, ¬ Unregisters row.email label)
    (member : row ∈ source.table) :
    row ∈ state.table := by
  have quiet :
      ∀ happening ∈ happenings, ∀ label,
        happening.served = some label →
          ¬ Unregisters row.email label := by
    intro happening among label some
    exact kept label (List.mem_filterMap.mpr ⟨happening, among, some⟩)
  apply Path.preserve (motive := fun state => row ∈ state.table) _
    (path.restrict_labels quiet) member
  intro earlier happening later step
  exact row_mem_move step.1 step.2

/-! ## Runs in one lifetime -/

/-- A process goes through its steps in one lifetime. -/
theorem path_of_steps
    {steps : List Label} (path : Path (server env) source steps state) :
    Path (system env) source (steps.map .step) state := by
  have lifted :=
    @Path.simulate _ _ _ _ (server env) (system env) id
      (fun label => some (.step label))
      (fun _ _ _ step => Move.step step) _ _ _ path
  rwa [List.filterMap_eq_map'] at lifted

/-- A process may be killed when its last call has executed all statements. -/
theorem killed_of_run
    {steps : List Label} {conn : ConnId} {bytes : BodyBytes} {db : DbFaults}
    {out : Option Exchange}
    (run :
      Run (server env) (steps ++ [(.bodyRead conn bytes db, out)]) state) :
    ∃ statements,
      Run (system env)
        (steps.map .step ++
          [.killed (.bodyRead conn bytes db, out) statements])
        (restarted state.table) := by
  rcases run.of_append with ⟨middle, earlier, last⟩
  rcases last.of_single with ⟨enabled, returned⟩
  simp only [bodyRead_run] at returned
  split at returned
  · cases returned
  · next answer final handled =>
      cases returned
      rcases (Journal.handle_erases env db conn _).returns handled [] with
        ⟨statements, journaled⟩
      rcases Journal.handle_mutates env db conn _ _ _ _ _ _ journaled with
        ⟨_, rfl, _, account⟩
      have killed := Move.killed statements.length enabled journaled
      rw [List.take_length] at killed
      refine ⟨statements, ?_⟩
      have path := (path_of_steps earlier).snoc killed
      rwa [show Journal.ledger.replay statements middle.table = _ from
        account.symm] at path

/-! ## Accounts -/

/--
Over any number of lifetimes, however each of them ends, every request that
is served succeeds or fails as the requests served before it say, in this
lifetime or an earlier one; the table holds the accounts they have left, and
emails and ids are keys of it.
-/
theorem accounts_outlive_the_process
    (run : Run (system env) happenings state) :
    (∀ address,
      Throughout
          (fun before exchange => Judged env (holder before) exchange)
          (exchangesOn address (labels happenings)) ∧
        store state.table address =
          holding env (holder (exchangesOn address (labels happenings)))) ∧
      (state.table.map Row.email).Nodup ∧
      (state.table.map Row.userId).Nodup := by
  have keyed := wellKeyed_of_lifetimes run
  refine ⟨?_, keyed.emails, keyed.ids⟩
  intro address
  have told := told_of_lifetimes run address
  exact ⟨told.judged, told.stored⟩

/-- The process is killed when Bob's row has been inserted. -/
theorem accounts_outlive_the_process_killed :
    ∃ happenings last statements state,
      Run (system Reference.playersEnv)
          (happenings ++ [.killed last statements]) state ∧
        state.table.map Row.email =
          [Reference.Player.alice.email, Reference.Player.bob.email] ∧
        store state.table Reference.Player.bob.email =
          holding Reference.playersEnv
            (holder
              (exchangesOn Reference.Player.bob.email
                (labels (happenings ++ [.killed last statements])))) := by
  have served :=
    Reference.game_run [(.alice, .registers), (.bob, .registers)]
  have split :=
    List.dropLast_concat_getLast
      (show Reference.gameLabels [(.alice, .registers), (.bob, .registers)] ≠
          [] from List.cons_ne_nil _ _)
  have last :
      (Reference.gameLabels
            [(.alice, .registers), (.bob, .registers)]).getLast
          (List.cons_ne_nil _ _) =
        (.bodyRead 0 (Reference.Player.bob.body .registers) noFaults, _) :=
    rfl
  rw [last] at split
  rw [← split] at served
  rcases killed_of_run served with ⟨statements, run⟩
  refine ⟨_, _, statements, _, run, rfl, ?_⟩
  exact
    ((accounts_outlive_the_process run).1 Reference.Player.bob.email).2

/-! ## Sessions -/

/-- The login that stores a session under the id, or the end of a process. -/
def Writes
    (env : Env) (id : Nat) (source : Server) (happening : Happening)
    (target : Server) : Prop :=
  Ends happening ∨
    ∃ label,
      happening = .step label ∧ LoginFor env id source label target

theorem getUser_of_not_writes
    {id : Nat} (move : Move env source happening target)
    (other : ¬ Writes env id source happening target) :
    target.users.getUser id = source.users.getUser id := by
  cases move with
  | step step =>
      apply getUser_of_not_login step
      intro login
      exact other (Or.inr ⟨_, rfl, login⟩)
  | _ => exact absurd (Or.inl trivial) other

/--
Every session was stored by the last login answered `OK` for its id, in the
current lifetime.  The row of that login is still there, as the only one with
its id, unless its email has been unregistered since that login.
-/
theorem sessions_are_of_the_lifetime
    (run : Run (system env) happenings state) {id : Nat} {u : User}
    (held : state.users.getUser id = some u) :
    ∃ before label after source target row,
      happenings = before ++ .step label :: after ∧
        Run (system env) before source ∧
        (server env).step source label target ∧
        StoredBy env source label id u row ∧
        Path
          ((system env).restrict fun earlier later next =>
            ¬ Writes env id earlier later next)
          target after state ∧
        (∀ later ∈ after, ¬ Ends later) ∧
        ((∀ later ∈ labels after, ¬ Unregisters u.email later) →
          row ∈ state.table ∧
            ∀ other ∈ state.table,
              other.userId = row.userId → other = row) := by
  obtain ⟨before, happening, after, source, target, split, past, move,
      writes, stored, quiet⟩ :=
    Run.lastWrite (fun state => state.users.getUser id) (Writes env id)
      rfl (fun _ _ _ move other => getUser_of_not_writes move other) run held
  cases move with
  | @step label _ step =>
      rcases writes with ends | ⟨_, same, login⟩
      · exact ends.elim
      cases same
      rcases storedBy_of_login step login stored with ⟨row, storedBy⟩
      refine
        ⟨before, label, after, source, target, row, split, past, step,
          storedBy, quiet, ?_, ?_⟩
      · apply Path.forall_labels (motive := fun later => ¬ Ends later) _ quiet
        intro earlier later next moved ends
        exact moved.2 (Or.inl ends)
      · intro kept
        rw [storedBy.email_eq] at kept
        have loginKeeps : row ∈ target.table := by
          apply row_mem_step step _ storedBy.row_mem
          rintro ⟨req, removed, _⟩
          rcases storedBy.login with ⟨_, _, exchange, _⟩
          rw [exchange] at removed
          cases removed
        have member := row_mem_path quiet.of_restrict kept loginKeeps
        constructor
        · exact member
        · intro other otherMember same
          exact
            (wellKeyed_of_lifetimes run).ids.row_unique otherMember member
              same
  | _ => cases stored

end Run

/-- Alice has logged in after the process was started again. -/
theorem sessions_are_of_the_lifetime_alice :
    ∃ before label after,
      .terminated ::
            (Reference.gameLabels
              [(.alice, .registers), (.alice, .logsIn)]).map .step =
          before ++ Happening.step label :: after ∧
        (∀ later ∈ after, ¬ Ends later) ∧
        ∃ req rsp, label.2 = some (.login req rsp) := by
  have again :
      Path (system Reference.playersEnv) .start [.terminated] .start :=
    .single .terminated
  have run :=
    again.append
      (path_of_steps
        (Reference.game_run [(.alice, .registers), (.alice, .logsIn)]))
  obtain ⟨before, label, after, _, _, _, split, _, _, storedBy, _, same, _⟩ :=
    @sessions_are_of_the_lifetime _ _ _ run 1 _ rfl
  rcases storedBy.login with ⟨req, rsp, login, _⟩
  exact ⟨before, label, after, split, same, req, rsp, login⟩

end PokerBackend.Lifetimes
