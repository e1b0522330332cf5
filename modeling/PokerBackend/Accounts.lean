import PokerBackend.Lib.KeyedTable
import PokerBackend.Net.Serving
import PokerBackend.Reference

/-!
# The account store

What the three requests are for: a partial map from emails to a nickname and
a salted hash.  Registering binds an email which is not bound, logging in
compares, unregistering compares and unbinds.  The table refines this map.
The handlers select, loop and break in three different ways, and agree with
the map because no two rows have the same email.
-/

namespace PokerBackend.Accounts

open PokerBackend.Api
open PokerBackend.Db
open PokerBackend.Lib.Execution
open PokerBackend.Lib.KeyedTable
open PokerBackend.Net
open PokerBackend.Net.HandlerSpec
open PokerBackend.Net.MesHandler
open PokerBackend.Net.Serving

/-! ## The abstract store -/

/-- The nickname and the salted hash of every registered email. -/
abbrev Store := Bytes → Option (Bytes × Bytes)

/-- A kind of response with its code. -/
inductive Verdict where
  | register (code : CodeEnum)
  | login (code : CodeEnum)
  | unregister (code : CodeEnum)
deriving DecidableEq

/--
One request on the abstract store; `salted` is the hash of a salted password.
-/
def Store.serve (salted : Bytes → Bytes) (store : Store) :
    Request → Verdict × Store
  | .register req =>
      match store req.email with
      | some _ => (.register RegisterResponse.NAME_TAKEN, store)
      | none =>
          (.register RegisterResponse.OK,
            Function.update store req.email
              (some (req.nickname, salted req.passHash)))
  | .login req =>
      match store req.email with
      | none => (.login LoginResponse.NAME_UNKNOWN, store)
      | some (_, passHash) =>
          if passHash = salted req.passHash then
            (.login LoginResponse.OK, store)
          else (.login LoginResponse.PASS_INCORRECT, store)
  | .unregister req =>
      match store req.email with
      | none => (.unregister UnregisterResponse.NO_NAME, store)
      | some (_, passHash) =>
          if passHash = salted req.passHash then
            (.unregister UnregisterResponse.OK,
              Function.update store req.email none)
          else (.unregister UnregisterResponse.NO_PASS, store)

/--
A sequence of requests on the abstract store: the verdicts, and the store
after it.
-/
def Store.serveAll (salted : Bytes → Bytes) :
    Store → List Request → List Verdict × Store
  | store, [] => ([], store)
  | store, req :: reqs =>
      let first := store.serve salted req
      let rest := Store.serveAll salted first.2 reqs
      (first.1 :: rest.1, rest.2)

theorem Store.serveAll_snoc
    (salted : Bytes → Bytes) (store : Store) (reqs : List Request)
    (req : Request) :
    store.serveAll salted (reqs ++ [req]) =
      let before := store.serveAll salted reqs
      let last := before.2.serve salted req
      (before.1 ++ [last.1], last.2) := by
  induction reqs generalizing store with
  | nil => rfl
  | cons first reqs induction =>
      simp only [List.cons_append, Store.serveAll, induction]

/-! ## The table as a store -/

/-- The verdict of an exchange: the kind and the code of its response. -/
def verdict : Exchange → Verdict
  | .register _ rsp => .register rsp.code
  | .login _ rsp => .login rsp.code
  | .unregister _ rsp => .unregister rsp.code

/-- The store that a table represents. -/
def store (table : UsersTable) : Store := fun email =>
  (lookup Row.email table email).map fun row => (row.nickname, row.passHash)

theorem store_insertInto
    {table : UsersTable} {row : Row}
    (free : ∀ other ∈ table, other.email ≠ row.email) :
    store (table.insertInto row) =
      Function.update (store table) row.email
        (some (row.nickname, row.passHash)) := by
  funext email
  simp only [store, UsersTable.insertInto, lookup_append free]
  by_cases same : email = row.email
  · simp [same]
  · simp [same, store]

theorem store_removeFrom (table : UsersTable) (email : Bytes) :
    store (table.removeFrom email) =
      Function.update (store table) email none := by
  funext other
  have removed : table.removeFrom email = remove Row.email table email := rfl
  simp only [store, removed, lookup_remove]
  by_cases same : other = email
  · simp [same]
  · simp [same, store]

/-- Selecting by email finds the row that the store tells of, and no other. -/
theorem selectByEmail_eq
    {table : UsersTable} (unique : UniqueKeys Row.email table)
    (email : Bytes) :
    table.selectByEmail email =
      (lookup Row.email table email).toList :=
  unique.select_eq

section Refinement

/-- A served request acts on the table as on the store. -/
abbrev ServesAlike
    (env : Env) (table : UsersTable) (sender : ConnId) (req : Request) :
    Prop :=
  (verdict (outcome env table sender req).exchange,
      store (outcome env table sender req).table) =
    (store table).serve env.saltedHash req

variable (env : Env) {table : UsersTable} (sender : ConnId)

theorem register_refines (req : RegisterRequest) :
    ServesAlike env table sender (.register req) := by
  unfold ServesAlike
  cases found : lookup Row.email table req.email with
  | none =>
      have free := lookup_eq_none_iff.mp found
      have absent : ¬ ∃ row ∈ table, row.email = req.email := by
        rintro ⟨row, member, same⟩
        exact free row member same
      have bound := @store_insertInto table (newRow env table req) free
      simp only [outcome, if_neg absent, Store.serve, store, found,
        Option.map_none]
      exact Prod.ext rfl bound
  | some row =>
      have taken : ∃ row ∈ table, row.email = req.email :=
        ⟨row, mem_of_lookup found⟩
      simp only [outcome, if_pos taken, Store.serve, store, found]
      rfl

theorem login_refines
    (unique : UniqueKeys Row.email table) (req : LoginRequest) :
    ServesAlike env table sender (.login req) := by
  unfold ServesAlike
  have rows := selectByEmail_eq unique req.email
  cases found : lookup Row.email table req.email with
  | none =>
      rw [found] at rows
      simp only [outcome, rows, Store.serve, store, found]
      rfl
  | some row =>
      rw [found] at rows
      by_cases matched : row.passHash = env.saltedHash req.passHash
      · have against : loginRow env table req = some row := by
          rw [loginRow, rows]
          simp [matched]
        simp [outcome, rows, against, Store.serve, store, found,
          matched, verdict, loggedIn]
      · have against : loginRow env table req = none := by
          rw [loginRow, rows]
          simp [matched]
        simp [outcome, rows, against, Store.serve, store, found,
          matched, verdict, passIncorrect]

theorem unregister_refines
    (unique : UniqueKeys Row.email table) (req : UnregisterRequest) :
    ServesAlike env table sender (.unregister req) := by
  unfold ServesAlike
  have rows := selectByEmail_eq unique req.email
  cases found : lookup Row.email table req.email with
  | none =>
      rw [found] at rows
      simp only [outcome, rows, Store.serve, store, found]
      rfl
  | some row =>
      rw [found] at rows
      by_cases matched : row.passHash = env.saltedHash req.passHash
      · have unbound := store_removeFrom table req.email
        simp only [outcome, rows, Option.toList_some, if_pos matched,
          Store.serve, store, found, Option.map_some]
        exact Prod.ext rfl unbound
      · simp only [outcome, rows, Option.toList_some, if_neg matched,
          Store.serve, store, found, Option.map_some]
        rfl

/-- The step lemma. -/
theorem outcome_refines
    (unique : UniqueKeys Row.email table) (req : Request) :
    ServesAlike env table sender req := by
  cases req with
  | register req => exact register_refines env sender req
  | login req => exact login_refines env sender unique req
  | unregister req => exact unregister_refines env sender unique req

end Refinement

/-! ## Sequences of requests -/

/-- A call of `handle` for a request, with the exchange it led to. -/
structure Call where
  sender : ConnId
  msg : Message
  exchange : Exchange

/-- Calls of `handle` for requests, one after the other, without SQL faults. -/
def handling (env : Env) (initial : Server) : System Server Call where
  start := initial
  step source call target :=
    (handle env noFaults call.msg call.sender).run source =
      .ok (some call.exchange) target

/-- The message is a request of one of the three types. -/
def WellFormed (env : Env) (msg : Message) : Prop :=
  ∃ req, decode env.rapidjson msg.body = .ok (some req)

/-- The account which a request is about. -/
def email : Request → Bytes
  | .register req => req.email
  | .login req => req.email
  | .unregister req => req.email

section Calls

variable
    {env : Env} {initial source target : Server} {sender : ConnId}
    {msg : Message} {exchange : Exchange}

theorem call_cases
    (step :
      (handling env initial).step source ⟨sender, msg, exchange⟩ target) :
    ∃ req,
      decode env.rapidjson msg.body = .ok (some req) ∧
        exchange = (outcome env source.table sender req).exchange ∧
          target = served env source sender req := by
  rcases handle_ok_cases step with
    ⟨_, none, _⟩ | ⟨req, known, _, exchange, final⟩
  · cases none
  · exact ⟨req, known, Option.some.inj exchange, final⟩

/-- A well-formed request is always answered. -/
theorem call_of_wellFormed
    (initial source : Server) (sender : ConnId)
    (wellFormed : WellFormed env msg) :
    ∃ exchange target,
      (handling env initial).step source ⟨sender, msg, exchange⟩
        target := by
  rcases wellFormed with ⟨req, known⟩
  have quiet :
      (outcome env source.table sender req).statements.findSome? noFaults =
        none :=
    List.findSome?_eq_none_iff.mpr fun _ _ => rfl
  refine
    ⟨(outcome env source.table sender req).exchange,
      served env source sender req, ?_⟩
  change (handle env noFaults msg sender).run source = _
  rw [handle_run, known]
  simp only [quiet]

/-- Every finite sequence of well-formed requests is served. -/
theorem run_of_wellFormed
    (arrivals : List (ConnId × Message))
    (wellFormed : ∀ arrival ∈ arrivals, WellFormed env arrival.2) :
    ∃ calls final,
      calls.map (fun call => (call.sender, call.msg)) = arrivals ∧
        Run (handling env initial) calls final := by
  induction arrivals using List.reverseRecOn with
  | nil => exact ⟨[], initial, rfl, .nil⟩
  | append_singleton arrivals last induction =>
      obtain ⟨calls, reached, same, run⟩ :=
        induction fun arrival member =>
          wellFormed arrival (List.mem_append_left _ member)
      have lastWellFormed : WellFormed env last.2 :=
        wellFormed last (by simp)
      rcases call_of_wellFormed initial reached last.1 lastWellFormed with
        ⟨exchange, final, step⟩
      refine ⟨_, final, ?_, run.snoc step⟩
      rw [List.map_append, same]
      rfl

/-- The rows of other accounts are not touched. -/
theorem other_rows
    {table next : UsersTable}
    (effect : TableChange env table exchange next) {row : Row}
    (other : row.email ≠ email (request exchange)) :
    row ∈ next ↔ row ∈ table := by
  cases effect with
  | kept => exact Iff.rfl
  | @added req =>
      rw [UsersTable.mem_insertInto]
      apply or_iff_left
      rintro rfl
      exact other rfl
  | removed =>
      rw [UsersTable.mem_removeFrom]
      exact and_iff_left other

/-- What the table and the responses are after a run of calls. -/
structure Refines
    (env : Env) (calls : List Call) (state : Server) : Prop where
  unique : UniqueKeys Row.email state.table
  refines :
    (calls.map fun call => verdict call.exchange, store state.table) =
      Store.serveAll env.saltedHash (fun _ => none)
        (calls.map fun call => request call.exchange)

/-- The run lemma. -/
theorem refines_of_run
    (empty : initial.table = []) {calls : List Call} {state : Server}
    (run : Run (handling env initial) calls state) :
    Refines env calls state := by
  refine Run.invariant
    (motive := fun calls state => Refines env calls state) ?_ ?_ run
  · have start : (handling env initial).start.table = [] := empty
    constructor
    · rw [start]
      exact List.nodup_nil
    · rw [start]
      rfl
  · rintro calls source ⟨sender, msg, exchange⟩ target - step refined
    rcases call_cases step with ⟨req, known, rfl, rfl⟩
    have keyed := outcome_refines env sender refined.unique req
    constructor
    · have effect := outcome_table env source.table sender req
      change UniqueKeys Row.email (outcome env source.table sender req).table
      generalize outcome env source.table sender req = result at effect ⊢
      rcases result with ⟨statements, exchange, next, stored⟩
      cases effect with
      | kept => exact refined.unique
      | added ok free => exact refined.unique.append free
      | removed => exact refined.unique.remove _
    · have earlier := refined.refines
      simp only [List.map_append, List.map_cons, List.map_nil,
        Store.serveAll_snoc, ← earlier, request_outcome, ← keyed]
      rfl

end Calls

/--
Every sequence of well-formed requests is answered; the codes and the table
are those of the abstract store; and every call changes the rows as its code
says, touches no row of another account, and delivers its response to the
sender.
-/
theorem account_store_refines
    (env : Env) (initial : Server) (empty : initial.table = []) :
    (∀ arrivals : List (ConnId × Message),
      (∀ arrival ∈ arrivals, WellFormed env arrival.2) →
        ∃ calls final,
          calls.map (fun call => (call.sender, call.msg)) = arrivals ∧
            Run (handling env initial) calls final) ∧
      ∀ calls state,
        Run (handling env initial) calls state →
          (calls.map fun call => verdict call.exchange,
              store state.table) =
            Store.serveAll
              (fun passHash => env.hash (passHash ++ env.dbPassSalt))
              (fun _ => none)
              (calls.map fun call => request call.exchange) ∧
            UniqueKeys Row.email state.table ∧
            ∀ call target,
              (handling env initial).step state call target →
                decode env.rapidjson call.msg.body =
                    .ok (some (request call.exchange)) ∧
                  TableChange env state.table call.exchange target.table ∧
                  (∀ row : Row,
                    row.email ≠ email (request call.exchange) →
                      (row ∈ target.table ↔ row ∈ state.table)) ∧
                  target.connections call.sender =
                    (state.connections call.sender).deliver
                      (Message.carrying
                        (responseText env.rapidjson call.exchange)) := by
  constructor
  · intro arrivals
    exact run_of_wellFormed arrivals
  · intro calls state run
    have refined := refines_of_run empty run
    refine ⟨refined.refines, refined.unique, ?_⟩
    rintro ⟨sender, msg, exchange⟩ target step
    rcases call_cases step with ⟨req, known, rfl, rfl⟩
    have effect := outcome_table env state.table sender req
    refine ⟨?_, effect, ?_, served_connections_same env state sender req⟩
    · rw [request_outcome]
      exact known
    · intro row other
      exact other_rows effect other

/-- A player registers on one connection and logs in on another one. -/
theorem account_store_refines_player :
    ∃ (calls : List Call) (final : Server),
      calls.map (fun call => (call.sender, call.msg)) =
          [(0, Message.carrying (Reference.Player.alice.body .registers).1),
            (1, Message.carrying (Reference.Player.alice.body .logsIn).1)] ∧
        (calls.map fun call => verdict call.exchange, store final.table) =
          Store.serveAll
            (fun passHash => passHash ++ str "salt") (fun _ => none)
            (calls.map fun call => request call.exchange) := by
  have refined := account_store_refines Reference.playersEnv .start rfl
  have readable :
      ∀ deed,
        WellFormed Reference.playersEnv
          (Message.carrying (Reference.Player.alice.body deed).1) := by
    intro deed
    refine ⟨Reference.Player.alice.request deed, ?_⟩
    rw [(Message.carrying_spec (Reference.Player.alice.body deed).2).2]
    exact Reference.decode_body .alice deed
  obtain ⟨calls, final, same, run⟩ :=
    refined.1
      [(0, Message.carrying (Reference.Player.alice.body .registers).1),
        (1, Message.carrying (Reference.Player.alice.body .logsIn).1)]
      (by simp [readable])
  exact ⟨calls, final, same, (refined.2 calls final run).1⟩

end PokerBackend.Accounts
