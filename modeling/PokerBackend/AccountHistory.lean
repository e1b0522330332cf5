import PokerBackend.Account
import PokerBackend.TableInvariant

/-!
# Accounts as a history tells them

The server answers from its table.  What it answers about an email can be
read off the exchanges about that email instead: the last registration or
unregistration that succeeded says whether the email is taken and which
password opens it.  Failed requests and logins leave no trace.
-/

namespace PokerBackend.AccountHistory

open PokerBackend.Account
open PokerBackend.Accounts
open PokerBackend.Api
open PokerBackend.Db
open PokerBackend.Lib.Execution
open PokerBackend.Lib.KeyedTable
open PokerBackend.Net
open PokerBackend.Net.HandlerSpec
open PokerBackend.Net.MesHandler
open PokerBackend.Net.Serving
open PokerBackend.Net.TcpServer
open PokerBackend.TableInvariant

/-- What an exchange that succeeded makes of the account of its email. -/
def change (exchange : Exchange) : Option (Option RegisterRequest) :=
  match registration exchange with
  | some req => some (some req)
  | none => if (removal exchange).isSome then some none else none

/-- The registration that is in force after a history of one email. -/
def holder (history : List Exchange) : Option RegisterRequest :=
  (history.filterMap change).getLast?.join

/-- The account which a registration in force stands for. -/
def holding (env : Env) (reg : Option RegisterRequest) : Held :=
  reg.map fun reg => (reg.nickname, env.saltedHash reg.passHash)

/-- The exchanges about one email, on all connections. -/
def exchangesOn (address : Bytes) (labels : List Label) : List Exchange :=
  (labels.filterMap Prod.snd).filter fun exchange =>
    email (request exchange) = address

theorem exchangesOn_snoc
    (address : Bytes) (labels : List Label) (label : Label) :
    exchangesOn address (labels ++ [label]) =
      exchangesOn address labels ++
        label.2.toList.filter fun exchange =>
          email (request exchange) = address := by
  rw [exchangesOn, List.filterMap_append, List.filter_append, ← exchangesOn]
  cases seen : label.2 <;> simp [seen]

/-- The last exchange decides, if it changes the account. -/
theorem holder_snoc (history : List Exchange) (exchange : Exchange) :
    holder (history ++ [exchange]) =
      (change exchange).getD (holder history) := by
  rw [holder, List.filterMap_append]
  cases changed : change exchange with
  | none =>
      rw [List.filterMap_cons_none changed, List.filterMap_nil,
        List.append_nil]
      rfl
  | some reg =>
      rw [List.filterMap_cons_some changed, List.filterMap_nil,
        List.getLast?_concat]
      rfl

section Effect

variable
    {env : Env} {table next : UsersTable} {exchange : Exchange}

/-- The step lemma: what an exchange does to the account of its email. -/
theorem store_of_effect (effect : TableChange env table exchange next) :
    store next (email (request exchange)) =
      ((change exchange).map (holding env)).getD
        (store table (email (request exchange))) := by
  cases effect with
  | kept noRegistration noRemoval =>
      simp [change, noRegistration, noRemoval]
  | @added req rsp ok free =>
      have bound := @store_insertInto table (newRow env table req) free
      rw [bound]
      simp [change, registration, ok, request, email, newRow, holding]
  | @removed req rsp ok known =>
      rw [store_removeFrom]
      simp [change, registration, removal, ok, request, email, holding]

/-- It does nothing to the accounts of other emails. -/
theorem store_of_other
    (effect : TableChange env table exchange next) {address : Bytes}
    (different : email (request exchange) ≠ address) :
    store next address = store table address := by
  cases effect with
  | kept => rfl
  | @added req rsp ok free =>
      have bound := @store_insertInto table (newRow env table req) free
      rw [bound]
      exact Function.update_of_ne (Ne.symm different) _ _
  | removed =>
      rw [store_removeFrom]
      exact Function.update_of_ne (Ne.symm different) _ _

end Effect

/-- The answer to a request is that of its account. -/
theorem answer_eq
    (env : Env) {table : UsersTable} (sender : ConnId)
    (unique : UniqueKeys Row.email table) (req : Request) :
    verdict (outcome env table sender req).exchange =
      (serve env.saltedHash
        (store table
          (email (request (outcome env table sender req).exchange)))
        (request (outcome env table sender req).exchange)).1 := by
  have refined := outcome_refines env sender unique req
  rw [ServesAlike, store_serve_eq] at refined
  rw [request_outcome]
  exact congrArg Prod.fst refined

section Run

variable {env : Env} {labels : List Label} {state : Server}

/-- What the run so far tells of one email. -/
structure Told
    (env : Env) (address : Bytes) (labels : List Label) (state : Server) :
    Prop where
  stored :
    store state.table address =
      holding env (holder (exchangesOn address labels))
  verdicts :
    Throughout
      (fun before exchange =>
        verdict exchange =
          (serve env.saltedHash (holding env (holder before))
            (request exchange)).1)
      (exchangesOn address labels)

/-- Of the server it tells something about the table only. -/
theorem Told.of_table
    {address : Bytes} {other : Server} (told : Told env address labels state)
    (same : other.table = state.table) :
    Told env address labels other where
  stored := by
    rw [same]
    exact told.stored
  verdicts := told.verdicts

/-- The step lemma. -/
theorem Told.step
    {address : Bytes} {source target : Server} {event : Event}
    {out : Option Exchange}
    (told : Told env address labels source)
    (unique : UniqueKeys Row.email source.table)
    (change : Change env source event out target) :
    Told env address (labels ++ [(event, out)]) target := by
  rcases change.accounts with ⟨rfl, table, _⟩ | ⟨req, rfl, table, _⟩
  · have same :
        exchangesOn address (labels ++ [(event, none)]) =
          exchangesOn address labels := by
      simp [exchangesOn_snoc]
    constructor
    · rw [same, table]
      exact told.stored
    · rw [same]
      exact told.verdicts
  · have effect := outcome_table env source.table event.conn req
    have answer := answer_eq env event.conn unique req
    rw [← table] at effect
    generalize (outcome env source.table event.conn req).exchange =
      exchange at effect answer
    by_cases here : email (request exchange) = address
    · have more :
          exchangesOn address (labels ++ [(event, some exchange)]) =
            exchangesOn address labels ++ [exchange] := by
        simp [exchangesOn_snoc, here]
      rw [here, told.stored] at answer
      constructor
      · rw [more, holder_snoc, ← here, store_of_effect effect, here,
          told.stored]
        cases AccountHistory.change exchange <;> rfl
      · rw [more, throughout_snoc]
        exact ⟨told.verdicts, answer⟩
    · have same :
          exchangesOn address (labels ++ [(event, some exchange)]) =
            exchangesOn address labels := by
        simp [exchangesOn_snoc, here]
      constructor
      · rw [same, store_of_other effect here]
        exact told.stored
      · rw [same]
        exact told.verdicts

/-- The run lemma. -/
theorem told_of_run
    (run : Run (server env) labels state) (address : Bytes) :
    Told env address labels state := by
  refine Run.invariant
    (motive := fun labels state => Told env address labels state)
    ⟨rfl, throughout_nil⟩ ?_ run
  rintro labels source ⟨event, out⟩ target path step told
  exact told.step (wellKeyed_of_run path).emails (step_cases step)

end Run

/-! ## Which requests succeed -/

/-- The registration in force was made with the same password. -/
def Opens
    (env : Env) (reg : Option RegisterRequest) (passHash : Bytes) : Prop :=
  ∃ made,
    reg = some made ∧
      env.saltedHash made.passHash = env.saltedHash passHash

/-- Whether an exchange succeeded is what the registration in force says. -/
structure Judged
    (env : Env) (reg : Option RegisterRequest) (exchange : Exchange) :
    Prop where
  registered :
    ∀ req rsp, exchange = .register req rsp →
      (registration exchange = some req ↔ reg = none)
  loggedIn :
    ∀ req rsp, exchange = .login req rsp →
      (authentication exchange = some req ↔ Opens env reg req.passHash)
  unregistered :
    ∀ req rsp, exchange = .unregister req rsp →
      (removal exchange = some req ↔ Opens env reg req.passHash)

theorem judged_of_verdict
    {env : Env} {reg : Option RegisterRequest} {exchange : Exchange}
    (answered :
      verdict exchange =
        (serve env.saltedHash (holding env reg) (request exchange)).1) :
    Judged env reg exchange where
  registered := by
    rintro req rsp rfl
    cases reg with
    | none =>
        have code : rsp.code = RegisterResponse.OK :=
          Verdict.register.inj answered
        simp [registration, code]
    | some made =>
        have code : rsp.code = RegisterResponse.NAME_TAKEN :=
          Verdict.register.inj answered
        have refused : rsp.code ≠ RegisterResponse.OK := by
          rw [code]
          decide
        simp [registration, refused]
  loggedIn := by
    rintro req rsp rfl
    cases reg with
    | none =>
        have code : rsp.code = LoginResponse.NAME_UNKNOWN :=
          Verdict.login.inj answered
        have refused : rsp.code ≠ LoginResponse.OK := by
          rw [code]
          decide
        simp [authentication, refused, Opens]
    | some made =>
        by_cases matched :
            env.saltedHash made.passHash = env.saltedHash req.passHash
        · have code : rsp.code = LoginResponse.OK := by
            simpa [verdict, request, serve, holding, matched] using answered
          simp [authentication, code, Opens, matched]
        · have code : rsp.code = LoginResponse.PASS_INCORRECT := by
            simpa [verdict, request, serve, holding, matched] using answered
          have refused : rsp.code ≠ LoginResponse.OK := by
            rw [code]
            decide
          simp [authentication, refused, Opens, matched]
  unregistered := by
    rintro req rsp rfl
    cases reg with
    | none =>
        have code : rsp.code = UnregisterResponse.NO_NAME :=
          Verdict.unregister.inj answered
        have refused : rsp.code ≠ UnregisterResponse.OK := by
          rw [code]
          decide
        simp [removal, refused, Opens]
    | some made =>
        by_cases matched :
            env.saltedHash made.passHash = env.saltedHash req.passHash
        · have code : rsp.code = UnregisterResponse.OK := by
            simpa [verdict, request, serve, holding, matched] using answered
          simp [removal, code, Opens, matched]
        · have code : rsp.code = UnregisterResponse.NO_PASS := by
            simpa [verdict, request, serve, holding, matched] using answered
          have refused : rsp.code ≠ UnregisterResponse.OK := by
            rw [code]
            decide
          simp [removal, refused, Opens, matched]

theorem Told.judged
    {env : Env} {address : Bytes} {labels : List Label} {state : Server}
    (told : Told env address labels state) :
    Throughout
      (fun before exchange => Judged env (holder before) exchange)
      (exchangesOn address labels) := by
  intro before exchange after split
  exact judged_of_verdict (told.verdicts before exchange after split)

/--
In every run of the server and for every email, a registration succeeds
exactly when no registration of the email is in force, and a login or an
unregistration exactly when one is and was made with a password of the same
salted hash.  What is in force is the last registration that succeeded, unless
an unregistration has succeeded since.  The table holds this registration.
-/
theorem account_history
    {env : Env} {labels : List Label} {state : Server}
    (run : Run (server env) labels state) (address : Bytes) :
    Throughout
        (fun before exchange => Judged env (holder before) exchange)
        (exchangesOn address labels) ∧
      store state.table address =
        holding env (holder (exchangesOn address labels)) := by
  have told := told_of_run run address
  exact ⟨told.judged, told.stored⟩

/-- Alice registers, leaves, and registers again. -/
def comeBack : List (Reference.Player × Reference.Deed) :=
  [(.alice, .registers), (.alice, .leaves), (.alice, .registers)]

/-- She is registered at the end, as her history says. -/
theorem account_history_comeBack :
    (exchangesOn Reference.Player.alice.email
          (Reference.gameLabels comeBack)).map
        (fun exchange => (change exchange).map Option.isSome) =
          [some true, some false, some true] ∧
      store (Reference.game comeBack).table Reference.Player.alice.email =
        holding Reference.playersEnv
          (holder
            (exchangesOn Reference.Player.alice.email
              (Reference.gameLabels comeBack))) := by
  constructor
  · decide +kernel
  · exact
      (account_history (Reference.game_run comeBack)
        Reference.Player.alice.email).2

end PokerBackend.AccountHistory
