import Mathlib.Data.List.Perm.Basic
import PokerBackend.Sessions

/-!
# Searching the session registry

The `const` overload of `server::get_user(pred)` goes through an
`unordered_map`, in an order which nothing fixes, and returns the first user
that satisfies the predicate.  So what it returns is determined only where at
most one user does.  The other overload calls itself and never returns; it is
not modelled.

An email determines the user as long as it is not unregistered: the user is
then the one stored by the last login with this email, whatever the order.
-/

namespace PokerBackend.UserLookup

open PokerBackend.Api
open PokerBackend.CString
open PokerBackend.Db
open PokerBackend.Lib.Execution
open PokerBackend.Lib.KeyedTable
open PokerBackend.Net
open PokerBackend.Net.HandlerSpec
open PokerBackend.Net.MesHandler
open PokerBackend.Net.Serving
open PokerBackend.Net.TcpServer
open PokerBackend.Sessions
open PokerBackend.TableInvariant

/-- An order in which a loop over the map can visit its users. -/
def Visits (users : UserCont) (order : List User) : Prop :=
  order.Perm (users.entries.map Sigma.snd)

/-- `server::get_user(pred) const`, in the order in which its loop visits. -/
def getUser (order : List User) (pred : User → Bool) : Option User :=
  order.find? pred

/-! ## What the search returns -/

section Search

variable {users : UserCont} {order : List User} {pred : User → Bool}

theorem mem_visits {u : User} (visits : Visits users order) :
    u ∈ order ↔ ∃ id, users.getUser id = some u := by
  rw [visits.mem_iff, List.mem_map]
  constructor
  · rintro ⟨⟨id, user⟩, member, rfl⟩
    exact ⟨id, AList.mem_lookup_iff.mpr member⟩
  · rintro ⟨id, held⟩
    exact ⟨⟨id, u⟩, AList.mem_lookup_iff.mp held, rfl⟩

/-- A user is found, in whatever order, where one satisfies the predicate. -/
theorem getUser_eq_none_iff (visits : Visits users order) :
    getUser order pred = none ↔
      ∀ id u, users.getUser id = some u → pred u = false := by
  rw [getUser, List.find?_eq_none]
  constructor
  · intro none id u held
    simpa using none u ((mem_visits visits).mpr ⟨id, held⟩)
  · intro none u member
    obtain ⟨id, held⟩ := (mem_visits visits).mp member
    simp [none id u held]

theorem held_of_getUser {u : User} (visits : Visits users order)
    (found : getUser order pred = some u) :
    (∃ id, users.getUser id = some u) ∧ pred u = true := by
  constructor
  · exact (mem_visits visits).mp (List.mem_of_find?_eq_some found)
  · exact List.find?_some found

end Search

/-! ## The last login with an email -/

/-- The step answers a login with the email with `OK`. -/
def LogsIn (email : Bytes) (label : Label) : Prop :=
  ∃ req rsp,
    label.2 = some (.login req rsp) ∧
      rsp.code = LoginResponse.OK ∧ req.email = email

/--
Nobody has logged in with the email, and no user has it; or the user which
has it, and no other one, was stored by the last login with it.
-/
def Tracked (email : Bytes) (labels : List Label) (state : Server) :
    Prop :=
  ((∀ label ∈ labels, ¬ LogsIn email label) ∧
      ∀ id u, state.users.getUser id = some u → u.email ≠ email) ∨
    ∃ row ∈ state.table,
      row.email = email ∧
        ∃ before label after,
          labels = before ++ label :: after ∧
            LogsIn email label ∧
            (∀ later ∈ after, ¬ LogsIn email later) ∧
            state.users.getUser (toSizeT row.userId) =
              some (session row label.1.conn) ∧
            ∀ id u,
              state.users.getUser id = some u → u.email = email →
                id = toSizeT row.userId

section Run

variable
    {env : Env} {email : Bytes} {labels : List Label} {label : Label}
    {source target : Server}

theorem not_logsIn_of_silent {event : Event} {out : Option Exchange}
    (silent : out.bind authentication = none) :
    ¬ LogsIn email (event, out) := by
  rintro ⟨req, rsp, rfl, ok, _⟩
  rw [Option.bind_some, authentication, if_pos ok] at silent
  cases silent

/-- A login is one with the email of its row. -/
theorem logsIn_iff_of_against {row : Row}
    (against : LoginAgainst env source label row) :
    LogsIn email label ↔ row.email = email := by
  rcases against with ⟨req, rsp, exchange, ok, found⟩
  rcases loginRow_eq_some found with ⟨_, same, _⟩
  rw [same]
  constructor
  · rintro ⟨other, answer, again, _, rfl⟩
    rw [exchange, Option.some.injEq, Exchange.login.injEq] at again
    rw [again.1]
  · intro asked
    exact ⟨req, rsp, exchange, ok, asked⟩

/-- Up to the bound, different rows have different keys in the registry. -/
theorem toSizeT_ne {bound : Nat} {first second : Row}
    (keyed : WellKeyed bound source.table) (few : bound < 2 ^ 63)
    (firstMember : first ∈ source.table)
    (secondMember : second ∈ source.table) (different : first ≠ second) :
    toSizeT first.userId ≠ toSizeT second.userId := by
  intro same
  apply different
  apply keyed.ids.row_unique firstMember secondMember
  have firstRange := keyed.range first firstMember
  have secondRange := keyed.range second secondMember
  have firstKey : (toSizeT first.userId : Int) = first.userId :=
    toSizeT_of_range (by omega) (by omega)
  have secondKey : (toSizeT second.userId : Int) = second.userId :=
    toSizeT_of_range (by omega) (by omega)
  rw [← firstKey, ← secondKey, same]

/-- A login with the email stores its user as the only one with the email. -/
theorem Tracked.login {row : Row}
    (tracked : Tracked email labels source)
    (unique : UniqueKeys Row.email source.table)
    (against : LoginAgainst env source label row)
    (member : row ∈ source.table) (kept : row ∈ target.table)
    (same : row.email = email)
    (users :
      target.users = source.users.addUser (session row label.1.conn)) :
    Tracked email (labels ++ [label]) target := by
  right
  refine
    ⟨row, kept, same, labels, label, [], rfl,
      (logsIn_iff_of_against against).mpr same, by simp, ?_, ?_⟩
  · rw [users]
    exact UserCont.getUser_addUser _ (session row label.1.conn)
  · intro id u held hasEmail
    by_contra other
    rw [users, UserCont.getUser_addUser_of_ne _ other] at held
    rcases tracked with
      ⟨_, none⟩ | ⟨earlier, isRow, hadEmail, _, _, _, _, _, _, _, only⟩
    · exact none id u held hasEmail
    · have sameRow : earlier = row :=
        unique.row_unique isRow member (hadEmail.trans same.symm)
      apply other
      rw [only id u held hasEmail, sameRow]

/-- What stores no user with the email keeps track of the last login. -/
theorem Tracked.quiet
    (tracked : Tracked email labels source)
    (noLogin : ¬ LogsIn email label)
    (rows :
      ∀ row ∈ source.table, row.email = email → row ∈ target.table)
    (untouched :
      ∀ row ∈ source.table, row.email = email →
        target.users.getUser (toSizeT row.userId) =
          source.users.getUser (toSizeT row.userId))
    (none :
      ∀ id u, target.users.getUser id = some u → u.email = email →
        source.users.getUser id = some u) :
    Tracked email (labels ++ [label]) target := by
  rcases tracked with
    ⟨never, absent⟩ |
      ⟨row, member, same, before, login, after, split, logsIn, last,
        stored, only⟩
  · left
    constructor
    · intro other among
      rcases List.mem_append.mp among with earlier | now
      · exact never other earlier
      · rw [List.mem_singleton.mp now]
        exact noLogin
    · intro id u held hasEmail
      exact absent id u (none id u held hasEmail) hasEmail
  · right
    refine
      ⟨row, rows row member same, same, before, login, after ++ [label],
        ?_, logsIn, ?_, ?_, ?_⟩
    · rw [split, List.append_assoc, List.cons_append]
    · intro other among
      rcases List.mem_append.mp among with earlier | now
      · exact last other earlier
      · rw [List.mem_singleton.mp now]
        exact noLogin
    · rw [untouched row member same, stored]
    · intro id u held hasEmail
      exact only id u (none id u held hasEmail) hasEmail

/-- The step lemma. -/
theorem Tracked.step {bound : Nat}
    (tracked : Tracked email labels source)
    (keyed : WellKeyed bound source.table) (few : bound < 2 ^ 63)
    (kept : ¬ Unregisters email label)
    (step : (TcpServer.server env).step source label target) :
    Tracked email (labels ++ [label]) target := by
  have rows :
      ∀ row ∈ source.table, row.email = email → row ∈ target.table := by
    rintro row member rfl
    exact row_mem_step step kept member
  rcases label with ⟨event, out⟩
  rcases users_cases (step_cases step) with
    ⟨silent, users⟩ | ⟨row, against, users⟩
  · apply tracked.quiet (not_logsIn_of_silent silent) rows
    · intro row _ _
      rw [users]
    · intro id u held _
      rwa [users] at held
  · have member : row ∈ source.table := by
      rcases against with ⟨_, _, _, _, found⟩
      exact (loginRow_eq_some found).1
    by_cases same : row.email = email
    · exact
        tracked.login keyed.emails against member (rows row member same)
          same users
    · apply tracked.quiet _ rows
      · intro other isRow hasEmail
        rw [users]
        apply UserCont.getUser_addUser_of_ne
        apply toSizeT_ne keyed few isRow member
        rintro rfl
        exact same hasEmail
      · intro id u held hasEmail
        by_cases here : id = toSizeT row.userId
        · subst here
          have entry :=
            UserCont.getUser_addUser source.users (session row event.conn)
          rw [users] at held
          rw [show toSizeT row.userId = (session row event.conn).id from rfl,
            entry] at held
          cases held
          exact absurd hasEmail same
        · rwa [users, UserCont.getUser_addUser_of_ne _ here] at held
      · intro logsIn
        exact same ((logsIn_iff_of_against against).mp logsIn)

/-- The run lemma. -/
theorem tracked_of_run
    (run : Run (TcpServer.server env) labels source)
    (few : (registrations labels).length < 2 ^ 63)
    (kept : ∀ label ∈ labels, ¬ Unregisters email label) :
    Tracked email labels source := by
  revert few kept
  refine Run.invariant
    (motive := fun labels source =>
      (registrations labels).length < 2 ^ 63 →
        (∀ label ∈ labels, ¬ Unregisters email label) →
          Tracked email labels source)
    ?_ ?_ run
  · intro _ _
    left
    constructor
    · simp
    · intro id u held
      cases held
  · intro labels source label target path step earlier few kept
    rw [registrations_snoc] at few
    have fewer : (registrations labels).length < 2 ^ 63 := by omega
    have tracked := earlier fewer fun other member =>
      kept other (List.mem_append_left _ member)
    exact
      tracked.step (wellKeyed_of_run path) fewer (kept label (by simp)) step

/--
Whatever order the loop of the `const` overload of `get_user` visits the users
in: it finds a user where one satisfies the predicate, and a user it finds is
stored under its own id.  For an email which has not been unregistered the
order makes no difference: it finds the user of the last login with the email,
with the connection of that login, and none if there was no such login.
-/
theorem get_user_found {order : List User}
    (run : Run (TcpServer.server env) labels source)
    (few : (registrations labels).length < 2 ^ 63)
    (visits : Visits source.users order) :
    (∀ pred,
      match getUser order pred with
      | none =>
          ∀ id u, source.users.getUser id = some u → pred u = false
      | some u =>
          pred u = true ∧ source.users.getUser u.id = some u) ∧
      ∀ email,
        (∀ label ∈ labels, ¬ Unregisters email label) →
          match getUser order (fun u => u.email = email) with
          | none => ∀ label ∈ labels, ¬ LogsIn email label
          | some u =>
              ∃ before label after,
                labels = before ++ label :: after ∧
                  LogsIn email label ∧
                  (∀ later ∈ after, ¬ LogsIn email later) ∧
                  u.email = email ∧ u.connection = label.1.conn := by
  constructor
  · intro pred
    cases found : getUser order pred with
    | none => exact (getUser_eq_none_iff visits).mp found
    | some u =>
        rcases held_of_getUser visits found with ⟨⟨id, held⟩, satisfied⟩
        obtain ⟨_, _, _, _, _, row, _, _, _, storedBy, _⟩ :=
          stored_of_held run held
        have own : u.id = id := storedBy.id_eq
        refine ⟨satisfied, ?_⟩
        rw [own]
        exact held
  · intro email kept
    have tracked := tracked_of_run run few kept
    cases found : getUser order fun u => u.email = email with
    | none =>
        have absent := (getUser_eq_none_iff visits).mp found
        rcases tracked with
          ⟨never, _⟩ | ⟨row, _, same, _, label, _, _, _, _, stored, _⟩
        · exact never
        · have satisfied := absent _ _ stored
          simp [session, same] at satisfied
    | some u =>
        rcases held_of_getUser visits found with ⟨⟨id, held⟩, satisfied⟩
        have hasEmail : u.email = email := by simpa using satisfied
        rcases tracked with
          ⟨_, none⟩ |
            ⟨row, _, same, before, label, after, split, logsIn, last,
              stored, only⟩
        · exact absurd hasEmail (none id u held)
        · rw [only id u held hasEmail, stored] at held
          cases held
          exact ⟨before, label, after, split, logsIn, last, same, rfl⟩

end Run

/-- A player registers and logs in twice. -/
def logsInTwice : List (Reference.Player × Reference.Deed) :=
  [(.alice, .registers), (.alice, .logsIn), (.bob, .registers),
    (.bob, .logsIn), (.alice, .logsIn)]

/-- The player is found by the email, as stored by the second login. -/
theorem get_user_found_of_game :
    ∃ before label after,
      Reference.gameLabels logsInTwice = before ++ label :: after ∧
        LogsIn Reference.Player.alice.email label ∧
        (∀ later ∈ after,
          ¬ LogsIn Reference.Player.alice.email later) := by
  have few :
      (registrations (Reference.gameLabels logsInTwice)).length <
        2 ^ 63 := by
    decide +kernel
  have kept :
      ∀ label ∈ Reference.gameLabels logsInTwice,
        ¬ Unregisters Reference.Player.alice.email label := by
    have none :
        ∀ label ∈ Reference.gameLabels logsInTwice,
          label.2.bind removal = none := by
      decide +kernel
    rintro label member ⟨req, removed, _⟩
    rw [none label member] at removed
    cases removed
  have found :=
    (get_user_found (Reference.game_run logsInTwice) few
      (List.Perm.refl _)).2 Reference.Player.alice.email kept
  have isAlice :
      getUser
          ((Reference.game logsInTwice).users.entries.map Sigma.snd)
          (fun u => u.email = Reference.Player.alice.email) =
        some
          ⟨1, str "alice", Reference.Player.alice.email, 0⟩ := by
    decide +kernel
  rw [isAlice] at found
  obtain ⟨before, label, after, split, logsIn, last, _⟩ := found
  exact ⟨before, label, after, split, logsIn, last⟩

end PokerBackend.UserLookup
