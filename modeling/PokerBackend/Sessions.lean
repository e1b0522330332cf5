import PokerBackend.Net.Participants
import PokerBackend.TableInvariant

/-!
# The session registry over a run

Only a login which is answered `OK` writes the registry, and nothing ever
removes an entry.  So every entry can be traced to the last such login for
its id.  What the entry says about the account is true as long as the account
is not unregistered, and what it says about the connection is true as long as
the connection is not removed; the registry notices neither.
-/

namespace PokerBackend.Sessions

open PokerBackend.Api
open PokerBackend.CString
open PokerBackend.Db
open PokerBackend.Lib.Execution
open PokerBackend.Net
open PokerBackend.Net.HandlerSpec
open PokerBackend.Net.MesHandler
open PokerBackend.Net.Participants
open PokerBackend.Net.ReadLoop
open PokerBackend.Net.Serving
open PokerBackend.Net.TcpServer
open PokerBackend.TableInvariant

/-! ## Logins -/

/-- The step answers a login with `OK`, against the given row. -/
def LoginAgainst
    (env : Env) (source : Server) (label : Label) (row : Row) : Prop :=
  ∃ req rsp,
    label.2 = some (.login req rsp) ∧
      rsp.code = LoginResponse.OK ∧
        loginRow env source.table req = some row

/-- The step answers a login with `OK`, for the given user id. -/
def LoginFor
    (env : Env) (id : Nat) (source : Server) (label : Label)
    (_ : Server) : Prop :=
  ∃ row, LoginAgainst env source label row ∧ toSizeT row.userId = id

/-- What a step does to the registry. -/
theorem users_cases
    {env : Env} {source target : Server} {event : Event}
    {out : Option Exchange}
    (change : Change env source event out target) :
    (out.bind authentication = none ∧ target.users = source.users) ∨
      ∃ row,
        LoginAgainst env source (event, out) row ∧
          target.users =
            source.users.addUser (session row event.conn) := by
  rcases change.accounts with ⟨rfl, _, users⟩ | ⟨req, rfl, _, users⟩
  · exact Or.inl ⟨rfl, users⟩
  · have login := outcome_login env source.table event.conn req
    rw [users]
    generalize outcome env source.table event.conn req = result at login ⊢
    rcases result with ⟨statements, exchange, table, stored⟩
    cases login with
    | kept noLogin => exact Or.inl ⟨noLogin, rfl⟩
    | stored ok found => exact Or.inr ⟨_, ⟨_, _, rfl, ok, found⟩, rfl⟩

/-- A step which is no login for the id leaves the entry of the id alone. -/
theorem getUser_of_not_login
    {env : Env} {id : Nat} {source target : Server} {label : Label}
    (step : (TcpServer.server env).step source label target)
    (other : ¬ LoginFor env id source label target) :
    target.users.getUser id = source.users.getUser id := by
  rcases users_cases (step_cases step) with ⟨_, users⟩ | ⟨row, login, users⟩
  · rw [users]
  · rw [users]
    apply UserCont.getUser_addUser_of_ne _
    intro same
    exact other ⟨row, login, same.symm⟩

/-! ## Provenance -/

/-- The step is the login which stored the session under the id. -/
structure StoredBy
    (env : Env) (source : Server) (label : Label) (id : Nat) (u : User)
    (row : Row) : Prop where
  row_mem : row ∈ source.table
  row_id : toSizeT row.userId = id
  login :
    ∃ req rsp,
      label.2 = some (.login req rsp) ∧
        rsp.code = LoginResponse.OK ∧
          row.email = req.email ∧
            row.passHash = env.hash (req.passHash ++ env.dbPassSalt)
  id_eq : u.id = id
  email_eq : u.email = row.email
  nickname_eq : u.nickname = row.nickname
  connection_eq : u.connection = label.1.conn

theorem storedBy_of_login
    {env : Env} {id : Nat} {u : User} {source target : Server}
    {label : Label}
    (step : (TcpServer.server env).step source label target)
    (login : LoginFor env id source label target)
    (held : target.users.getUser id = some u) :
    ∃ row, StoredBy env source label id u row := by
  rcases label with ⟨event, out⟩
  have change : Change env source event out target := step_cases step
  rcases login with ⟨row, ⟨req, rsp, exchange, ok, found⟩, rfl⟩
  rcases users_cases change with
    ⟨noLogin, _⟩ | ⟨stored, ⟨other, answer, same, ok', found'⟩, users⟩
  · simp only at exchange
    rw [exchange, Option.bind_some, authentication, if_pos ok] at noLogin
    cases noLogin
  · simp only at exchange same
    rw [exchange, Option.some.injEq, Exchange.login.injEq] at same
    rcases same with ⟨rfl, rfl⟩
    rw [found] at found'
    cases found'
    have entry := UserCont.getUser_addUser source.users
      (session row event.conn)
    rw [users] at held
    rw [show toSizeT row.userId = (session row event.conn).id from rfl,
      entry] at held
    cases held
    rcases loginRow_eq_some found with ⟨member, email, passHash⟩
    exact
      ⟨row,
        { row_mem := member
          row_id := rfl
          login := ⟨req, rsp, exchange, ok, email, passHash⟩
          id_eq := rfl
          email_eq := rfl
          nickname_eq := rfl
          connection_eq := rfl }⟩

/-- Every entry goes back to the last login for its id. -/
theorem stored_of_held
    {env : Env} {labels : List Label} {state : Server} {id : Nat}
    {u : User}
    (run : Run (TcpServer.server env) labels state)
    (held : state.users.getUser id = some u) :
    ∃ before label after source target row,
      labels = before ++ label :: after ∧
        Run (TcpServer.server env) before source ∧
          (TcpServer.server env).step source label target ∧
            StoredBy env source label id u row ∧
              Path
                ((TcpServer.server env).restrict
                  fun earlier later next =>
                    ¬ LoginFor env id earlier later next)
                target after state := by
  obtain ⟨before, label, after, source, target, split, past, step, login,
      stored, quiet⟩ :=
    Run.lastWrite (fun state => state.users.getUser id) (LoginFor env id)
      rfl (fun _ _ _ step other => getUser_of_not_login step other) run held
  rcases storedBy_of_login step login stored with ⟨row, storedBy⟩
  exact
    ⟨before, label, after, source, target, row, split, past, step,
      storedBy, quiet⟩

/--
Every session was stored by the last login answered `OK` for its id, out of
the row and over the connection of that login; and a step which is no such
login leaves the registry as it is.
-/
theorem session_provenance
    {env : Env} {labels : List Label} {state : Server}
    (run : Run (TcpServer.server env) labels state) :
    (∀ id u,
      state.users.getUser id = some u →
        ∃ before label after source target row,
          labels = before ++ label :: after ∧
            Run (TcpServer.server env) before source ∧
              (TcpServer.server env).step source label target ∧
                StoredBy env source label id u row ∧
                  Path
                    ((TcpServer.server env).restrict
                      fun earlier later next =>
                        ¬ LoginFor env id earlier later next)
                    target after state) ∧
      ∀ label target,
        (TcpServer.server env).step state label target →
          (∀ req rsp,
            label.2 = some (.login req rsp) →
              rsp.code ≠ LoginResponse.OK) →
            target.users = state.users := by
  constructor
  · intro id u held
    exact stored_of_held run held
  · intro label target step noLogin
    rcases users_cases (step_cases step) with
      ⟨_, users⟩ | ⟨row, ⟨req, rsp, exchange, ok, _⟩, _⟩
    · exact users
    · exact absurd ok (noLogin req rsp exchange)

/-- A player who has registered and logged in is stored by that login. -/
theorem session_provenance_of_game :
    ∃ before label after source target row,
      Reference.gameLabels [(.alice, .registers), (.alice, .logsIn)] =
          before ++ label :: after ∧
        Run (TcpServer.server Reference.playersEnv) before source ∧
          (TcpServer.server Reference.playersEnv).step source label
              target ∧
            StoredBy Reference.playersEnv source label 1
                { id := 1
                  nickname := str "alice"
                  email := str "alice@mail.domain"
                  connection := 0 }
                row ∧
              Path
                ((TcpServer.server Reference.playersEnv).restrict
                  fun earlier later next =>
                    ¬ LoginFor Reference.playersEnv 1 earlier later next)
                target after
                (Reference.game [(.alice, .registers), (.alice, .logsIn)]) :=
  (session_provenance
    (Reference.game_run [(.alice, .registers), (.alice, .logsIn)])).1 1 _
      rfl

/-! ## Sessions and accounts -/

/-- The step answers an unregistration of the email with `OK`. -/
def Unregisters (email : Bytes) (label : Label) : Prop :=
  ∃ req, label.2.bind removal = some req ∧ req.email = email

/-- A row stays until its email is unregistered. -/
theorem row_mem_step
    {env : Env} {source target : Server} {label : Label} {row : Row}
    (step : (TcpServer.server env).step source label target)
    (kept : ¬ Unregisters row.email label)
    (member : row ∈ source.table) :
    row ∈ target.table := by
  rcases label with ⟨event, out⟩
  have change : Change env source event out target := step_cases step
  rcases change.accounts with ⟨_, table, _⟩ | ⟨req, rfl, table, _⟩
  · rw [table]
    exact member
  · have effect := outcome_table env source.table event.conn req
    rw [table]
    generalize outcome env source.table event.conn req = result
      at effect kept ⊢
    rcases result with ⟨statements, exchange, next, stored⟩
    cases effect with
    | kept => exact member
    | added => exact UsersTable.mem_insertInto.mpr (Or.inl member)
    | removed ok known =>
        refine UsersTable.mem_removeFrom.mpr ⟨member, ?_⟩
        intro same
        exact kept ⟨_, if_pos ok, same.symm⟩

/-- An unregistration answered `OK` takes the rows and leaves the registry. -/
theorem unregisters_effect
    {env : Env} {source target : Server} {label : Label} {email : Bytes}
    (step : (TcpServer.server env).step source label target)
    (unregisters : Unregisters email label) :
    target.users = source.users ∧
      ∀ row ∈ target.table, row.email ≠ email := by
  rcases label with ⟨event, out⟩
  have change : Change env source event out target := step_cases step
  rcases unregisters with ⟨req, removed, rfl⟩
  rcases change.accounts with ⟨rfl, _, _⟩ | ⟨asked, rfl, table, users⟩
  · cases removed
  · have effect := outcome_table env source.table event.conn asked
    have login := outcome_login env source.table event.conn asked
    rw [table, users]
    generalize outcome env source.table event.conn asked = result
      at effect login removed ⊢
    rcases result with ⟨statements, exchange, next, stored⟩
    cases effect with
    | kept noRegistration noRemoval =>
        rw [Option.bind_some, noRemoval] at removed
        cases removed
    | added => cases removed
    | removed ok known =>
        rw [Option.bind_some, removal, if_pos ok] at removed
        cases removed
        cases login
        exact ⟨rfl, fun row member => (UsersTable.mem_removeFrom.mp member).2⟩

/--
Every session was stored by the last login answered `OK` for its id, out of a
row of the table.  That row is still there, as the only one with its id,
unless its email has been unregistered since that login.  An unregistration
removes the rows of the email and leaves the registry as it is.
-/
theorem session_account
    {env : Env} {labels : List Label} {state : Server}
    (run : Run (TcpServer.server env) labels state) :
    (∀ id u,
      state.users.getUser id = some u →
        ∃ before label after source target row,
          labels = before ++ label :: after ∧
            Run (TcpServer.server env) before source ∧
              (TcpServer.server env).step source label target ∧
                StoredBy env source label id u row ∧
                  Path
                    ((TcpServer.server env).restrict
                      fun earlier later next =>
                        ¬ LoginFor env id earlier later next)
                    target after state ∧
                  ((∀ later ∈ after, ¬ Unregisters u.email later) →
                    row ∈ state.table ∧
                      ∀ other ∈ state.table,
                        other.userId = row.userId → other = row)) ∧
      ∀ label target email,
        (TcpServer.server env).step state label target →
          Unregisters email label →
            target.users = state.users ∧
              ∀ row ∈ target.table, row.email ≠ email := by
  constructor
  · intro id u held
    obtain ⟨before, label, after, source, target, row, split, past, step,
      storedBy, quiet⟩ := stored_of_held run held
    refine
      ⟨before, label, after, source, target, row, split, past, step,
        storedBy, quiet, ?_⟩
    intro kept
    rw [storedBy.email_eq] at kept
    have loginKeeps : row ∈ target.table := by
      refine row_mem_step step ?_ storedBy.row_mem
      rintro ⟨req, removed, _⟩
      rcases storedBy.login with ⟨_, _, exchange, _⟩
      rw [exchange] at removed
      cases removed
    have member : row ∈ state.table := by
      refine
        Path.preserve (motive := fun state => row ∈ state.table) ?_
          (quiet.of_restrict.restrict_labels kept) loginKeeps
      intro earlier later next step
      exact row_mem_step step.1 step.2
    constructor
    · exact member
    · intro other otherMember same
      exact (wellKeyed_of_run run).ids.row_unique otherMember member same
  · intro label target email step unregisters
    exact unregisters_effect step unregisters

/-- A player who has logged in has an account. -/
theorem session_account_of_game :
    ∃ row ∈
        (Reference.game [(.alice, .registers), (.alice, .logsIn)]).table,
      toSizeT row.userId = 1 := by
  obtain ⟨before, label, after, source, target, row, split, _, _, storedBy,
      _, kept⟩ :=
    (session_account
      (Reference.game_run [(.alice, .registers), (.alice, .logsIn)])).1 1 _
        rfl
  refine ⟨row, (kept ?_).1, storedBy.row_id⟩
  rintro later member ⟨req, removed, _⟩
  have occurs :
      later ∈
        Reference.gameLabels [(.alice, .registers), (.alice, .logsIn)] := by
    rw [split]
    exact List.mem_append_right _ (List.mem_cons_of_mem _ member)
  have none :
      (Reference.gameLabels [(.alice, .registers), (.alice, .logsIn)]).all
        (fun label => (label.2.bind removal).isNone) = true := by
    rfl
  have noRemoval := List.all_eq_true.mp none later occurs
  rw [removed] at noRemoval
  cases noRemoval

/-- A session outlives its account: register, log in, unregister. -/
theorem session_without_account :
    ¬ ∀ labels state,
        Run (TcpServer.server Reference.playersEnv) labels state →
          ∀ id u,
            state.users.getUser id = some u →
              ∃ row ∈ state.table,
                toSizeT row.userId = id ∧ row.email = u.email ∧
                  row.nickname = u.nickname := by
  intro claimed
  obtain ⟨row, member, _⟩ :=
    claimed _ _
      (Reference.game_run
        [(.alice, .registers), (.alice, .logsIn), (.alice, .leaves)])
      1 ⟨1, str "alice", str "alice@mail.domain", 0⟩ rfl
  have empty :
      (Reference.game
        [(.alice, .registers), (.alice, .logsIn),
          (.alice, .leaves)]).table = [] := by
    rfl
  rw [empty] at member
  cases member

/-! ## Sessions and connections -/

/-- A login arrives on a connection that has been accepted. -/
theorem accepted_of_storedBy
    {env : Env} {before : List Label} {source target : Server}
    {label : Label} {id : Nat} {u : User} {row : Row}
    (past : Run (TcpServer.server env) before source)
    (step : (TcpServer.server env).step source label target)
    (storedBy : StoredBy env source label id u row) :
    Accepted before u.connection := by
  rcases label with ⟨event, out⟩
  have change : Change env source event out target := step_cases step
  rw [storedBy.connection_eq]
  refine (recorded_of_run past).touched _ ?_
  rcases change.accept_or_touched with (rfl | rfl) | touched
  · rcases storedBy.login with ⟨_, _, exchange, _⟩
    cases change
    cases exchange
  · rcases storedBy.login with ⟨_, _, exchange, _⟩
    cases change
    cases exchange
  · exact touched

/-- `del_connection` leaves the registry alone. -/
theorem users_of_removes
    {env : Env} {source target : Server} {event : Event}
    {out : Option Exchange}
    (change : Change env source event out target)
    (removes : Removes event) :
    target.users = source.users := by
  cases change with
  | headerFailed => rfl
  | bodyFailed => rfl
  | writeFailed => rfl
  | _ => cases removes

/--
The connection of a session has been accepted, and it is among the
participants exactly if no read or write of it has failed.  Removing a
connection leaves the registry as it is.
-/
theorem session_participant
    {env : Env} {labels : List Label} {state : Server}
    (run : Run (TcpServer.server env) labels state) :
    (∀ id u,
      state.users.getUser id = some u →
        Accepted labels u.connection ∧
          (u.connection ∈ state.participants ↔
            ¬ Removed labels u.connection)) ∧
      ∀ label target,
        (TcpServer.server env).step state label target →
          Removes label.1 →
            label.1.conn ∉ target.participants ∧
              target.users = state.users := by
  constructor
  · intro id u held
    obtain ⟨before, label, after, source, target, row, split, past, step,
      storedBy, _⟩ := stored_of_held run held
    rcases accepted_of_storedBy past step storedBy with
      ⟨first, member, accepts⟩
    have accepted : Accepted labels u.connection := by
      refine ⟨first, ?_, accepts⟩
      rw [split]
      exact List.mem_append_left _ member
    constructor
    · exact accepted
    · rw [(recorded_of_run run).member u.connection]
      exact and_iff_right accepted
  · rintro ⟨event, out⟩ target step removes
    have change : Change env state event out target := step_cases step
    refine ⟨?_, users_of_removes change removes⟩
    intro member
    have recorded := recorded_of_run (run.snoc step)
    have notRemoved := ((recorded.member event.conn).mp member).2
    exact
      notRemoved
        (removed_snoc.mpr (Or.inr ⟨removes, rfl⟩))

/-- The connection of a player who has logged in is a participant. -/
theorem session_participant_of_game :
    0 ∈ (Reference.game
          [(.alice, .registers), (.alice, .logsIn)]).participants ↔
      ¬ Removed
        (Reference.gameLabels [(.alice, .registers), (.alice, .logsIn)])
        0 :=
  ((session_participant
    (Reference.game_run [(.alice, .registers), (.alice, .logsIn)])).1 1
      ⟨1, str "alice", str "alice@mail.domain", 0⟩ rfl).2

/-- A session outlives its connection: log in, then a header read fails. -/
theorem session_without_connection :
    ¬ ∀ labels state,
        Run (TcpServer.server Reference.playersEnv) labels state →
          ∀ id u,
            state.users.getUser id = some u →
              u.connection ∈ state.participants := by
  intro claimed
  have run :=
    Reference.game_run [(.alice, .registers), (.alice, .logsIn)]
  have pending :
      .header ∈
        ((Reference.game
          [(.alice, .registers), (.alice, .logsIn)]).connections 0).reads := by
    rw [Reference.game_reads]
    exact List.mem_singleton_self _
  have failed :
      (TcpServer.server Reference.playersEnv).step
        (Reference.game [(.alice, .registers), (.alice, .logsIn)])
        (.headerFailed 0, none)
        (afterFailure
          (Reference.game [(.alice, .registers), (.alice, .logsIn)]) 0
          fun connection => connection.readFailed .header) :=
    step_of_change (.headerFailed 0 pending)
  have member :=
    claimed _ _ (run.snoc failed) 1
      ⟨1, str "alice", str "alice@mail.domain", 0⟩ rfl
  exact Finset.notMem_erase 0 _ member

end PokerBackend.Sessions
