import PokerBackend.ConsoleRun

/-!
# The integration tests

The programs `register_test` and `login_test` run beside the server, skip the
greeting, and make three tries each.  A try writes a request, waits for the
response, reads it back as the api type it should be of, and fails unless the
code is the expected one.

A try judges the server and not the network: whatever else goes on, it passes
exactly when the account store gives its request the expected verdict.  So on
a server that has started with an empty table the two programs never fail by
chance, as long as no other client uses their email address; and they leave
the address free for the next test.
-/

namespace PokerBackend.IntegrationTests

open PokerBackend.Account
open PokerBackend.Accounts
open PokerBackend.Api
open PokerBackend.Isolation
open PokerBackend.Lib.Execution
open PokerBackend.Lib.SequentialObject
open PokerBackend.Linearizable
open PokerBackend.Net
open PokerBackend.Net.Dispatch
open PokerBackend.Net.HandlerSpec
open PokerBackend.Net.Serving
open PokerBackend.Net.WholeBody
open PokerBackend.Network

/-! ## The tries -/

/-- How a try fails. -/
inductive Failure where
  /-- The response cannot be read. -/
  | fault (fault : Fault)
  /-- The `std::runtime_error` about the code. -/
  | wrongCode (code : CodeEnum)
  /-- The `abort()` where the response is of another type. -/
  | otherType
deriving DecidableEq

/-- What is done with a response, from `json j(msg_str)` to the end. -/
def expectCode {T : Type}
    (rapidjson : Rapidjson) (type : Bytes) (fromJson : Json → UpdateM T Unit)
    (resp : T) (code : T → CodeEnum) (expected : CodeEnum)
    (msgStr : Bytes) : Except Failure Unit := do
  let j ← (Json.parse rapidjson msgStr).mapError .fault
  let read ← (j.valueAsString (str "type")).mapError .fault
  if read = type then
    match (fromJson j).run resp with
    | .ok () resp =>
        if code resp = expected then return ()
        else throw (.wrongCode (code resp))
    | .error fault _ => throw (.fault fault)
  else throw .otherType

/-- A request, and the verdict on it that lets the try pass. -/
structure Try where
  request : Request
  expected : Verdict

/-- The check of the response. -/
def check (rapidjson : Rapidjson) :
    Verdict → Bytes → Except Failure Unit
  | .register code =>
      expectCode rapidjson RegisterResponse.type
        RegisterResponse.fromJsonInto {} RegisterResponse.code code
  | .login code =>
      expectCode rapidjson LoginResponse.type
        LoginResponse.fromJsonInto {} LoginResponse.code code
  | .unregister code =>
      expectCode rapidjson UnregisterResponse.type
        UnregisterResponse.fromJsonInto {} UnregisterResponse.code code

/-- The account of a test. -/
structure Tester where
  nickname : Bytes
  email : Bytes
  passHash : Bytes

section Tries

variable (tester : Tester)

/-- `try_register(c)` -/
def tryRegister : Try where
  request :=
    .register ⟨tester.nickname, tester.email, tester.passHash⟩
  expected := .register RegisterResponse.OK

/-- `try_re_register(c)` -/
def tryReRegister : Try where
  request :=
    .register ⟨tester.nickname, tester.email, tester.passHash⟩
  expected := .register RegisterResponse.NAME_TAKEN

/-- `try_login(c)` -/
def tryLogin : Try where
  request := .login ⟨tester.email, tester.passHash⟩
  expected := .login LoginResponse.OK

/-- `try_un_register(c)` -/
def tryUnRegister : Try where
  request := .unregister ⟨tester.email, tester.passHash⟩
  expected := .unregister UnregisterResponse.OK

/-- `tests/register_test/main_cli.cpp` -/
def registerTest : List Try :=
  [tryRegister tester, tryReRegister tester, tryUnRegister tester]

/-- `tests/login_test/main_cli.cpp` -/
def loginTest : List Try :=
  [tryRegister tester, tryLogin tester, tryUnRegister tester]

end Tries

/-- The strings of the requests are shorter than 2^32. -/
def Tester.Short (tester : Tester) : Prop :=
  tester.nickname.length < 2 ^ 32 ∧ tester.email.length < 2 ^ 32 ∧
    tester.passHash.length < 2 ^ 32

/-- The account of both test programs. -/
def testAccount (sha512 : Console.Sha512) : Tester where
  nickname := str "nick"
  email := str "some_test_email@mail.domain"
  passHash := Console.hash sha512 (str "some_test_hash")

theorem testAccount_short (sha512 : Console.Sha512) :
    (testAccount sha512).Short := by
  have hashed := Console.hash_length sha512 (str "some_test_hash")
  rw [Tester.Short, testAccount]
  simp only [hashed]
  decide

/-! ## What a check tells -/

section Check

variable {rapidjson : Rapidjson}

/-- A response with a code passes if it has the type and the code. -/
theorem expectCode_coded
    {T : Type} {fromJson : Json → UpdateM T Unit} {message : T → Bytes}
    {code : T → CodeEnum}
    (returns :
      ∀ root previous response,
        (fromJson root).run previous = .ok () response ↔
          root.stringMember (str "message") = some (message response) ∧
            CodeMember root (code response))
    (inverts : rapidjson.Inverts) {written : Bytes}
    (typeShort : written.length < 2 ^ 32) (response resp : T)
    (short : (message response).length < 2 ^ 32)
    (nonneg : 0 ≤ (code response).toInt) (type : Bytes)
    (expected : CodeEnum) :
    expectCode rapidjson type fromJson resp code expected
          (codedResponseJson rapidjson written (message response)
            (code response)) =
        .ok () ↔
      written = type ∧ code response = expected := by
  let members := codedMembers written (message response) (code response)
  have parsed :
      Json.parse rapidjson
          (codedResponseJson rapidjson written (message response)
            (code response)) =
        .ok (readBack members) :=
    Json.parse_eq_ok_iff.mpr
      (parse_writeObject inverts (writable_codedMembers _ _ _))
  have typed :
      (readBack members).valueAsString (str "type") = .ok written :=
    Json.valueAsString_eq_ok_iff.mpr
      (congrArg some (writeStr_of_short typeShort))
  have read : (fromJson (readBack members)).run resp = .ok () response := by
    apply (returns _ _ _).mpr
    constructor
    · rw [message_codedMembers, writeStr_of_short short]
    · exact codeMember_codedMembers _ _ _ _ |>.mpr ⟨nonneg, rfl⟩
  rw [expectCode, parsed]
  simp only [Except.mapError, bind, Except.bind, typed]
  by_cases same : written = type
  · rw [if_pos same, read]
    by_cases right : code response = expected
    · simp [same, right, pure, Except.pure]
    · simp [right, throw, throwThe, MonadExceptOf.throw]
  · rw [if_neg same]
    simp [same, throw, throwThe, MonadExceptOf.throw]

/-- The type member of the responses with a verdict. -/
def responseType : Verdict → Bytes
  | .register _ => RegisterResponse.type
  | .login _ => LoginResponse.type
  | .unregister _ => UnregisterResponse.type

/-- Their code member. -/
def responseCode : Verdict → CodeEnum
  | .register code | .login code | .unregister code => code

/-- The type and the code tell the verdict. -/
theorem verdict_eq_iff {first second : Verdict} :
    first = second ↔
      responseType first = responseType second ∧
        responseCode first = responseCode second := by
  constructor
  · rintro rfl
    exact ⟨rfl, rfl⟩
  · cases first <;> cases second <;>
      simp +decide [responseType, responseCode]

/-- A check of a response with a code. -/
theorem check_coded
    (inverts : rapidjson.Inverts) {verdict expected : Verdict}
    {message : Bytes} (short : message.length < 2 ^ 32)
    (nonneg : 0 ≤ (responseCode verdict).toInt) :
    check rapidjson expected
          (codedResponseJson rapidjson (responseType verdict) message
            (responseCode verdict)) =
        .ok () ↔
      verdict = expected := by
  have typeShort : (responseType verdict).length < 2 ^ 32 := by
    cases verdict <;> simp only [responseType] <;> decide
  rw [verdict_eq_iff]
  cases expected with
  | register code =>
      exact
        expectCode_coded (fun _ _ _ => RegisterResponse.fromJsonInto_eq_ok_iff)
          inverts typeShort ⟨responseCode verdict, message⟩ {} short nonneg
          RegisterResponse.type code
  | login code =>
      exact
        expectCode_coded (fun _ _ _ => LoginResponse.fromJsonInto_eq_ok_iff)
          inverts typeShort ⟨responseCode verdict, message⟩ {} short nonneg
          LoginResponse.type code
  | unregister code =>
      exact
        expectCode_coded
          (fun _ _ _ => UnregisterResponse.fromJsonInto_eq_ok_iff)
          inverts typeShort ⟨responseCode verdict, message⟩ {} short nonneg
          UnregisterResponse.type code

/-- The text with which a request is answered has the code of its verdict. -/
theorem text_coded
    (rapidjson : Rapidjson) (salted : Bytes → Bytes) (account : Held)
    (req : Request) :
    ∃ message,
      message.length < 2 ^ 32 ∧
        0 ≤ (responseCode (serve salted account req).1).toInt ∧
        text rapidjson (serve salted account req).1 =
          codedResponseJson rapidjson
            (responseType (serve salted account req).1) message
            (responseCode (serve salted account req).1) := by
  cases req with
  | register req =>
      cases account with
      | none =>
          simp only [serve]
          exact ⟨registered.message, by decide, by decide, rfl⟩
      | some held =>
          simp only [serve]
          exact ⟨nameTaken.message, by decide, by decide, rfl⟩
  | login req =>
      cases account with
      | none =>
          simp only [serve]
          exact ⟨nameUnknown.message, by decide, by decide, rfl⟩
      | some held =>
          by_cases matched : held.2 = salted req.passHash
          · simp only [serve, if_pos matched]
            exact ⟨loggedIn.message, by decide, by decide, rfl⟩
          · simp only [serve, if_neg matched]
            exact ⟨passIncorrect.message, by decide, by decide, rfl⟩
  | unregister req =>
      cases account with
      | none =>
          simp only [serve]
          exact ⟨noName.message, by decide, by decide, rfl⟩
      | some held =>
          by_cases matched : held.2 = salted req.passHash
          · simp only [serve, if_pos matched]
            exact ⟨unregistered.message, by decide, by decide, rfl⟩
          · simp only [serve, if_neg matched]
            exact ⟨noPass.message, by decide, by decide, rfl⟩

/-- An answer passes the check of the verdict it stands for, and no other. -/
theorem check_text_iff
    (inverts : rapidjson.Inverts) (salted : Bytes → Bytes)
    (account : Held) (req : Request) (expected : Verdict) :
    check rapidjson expected (text rapidjson (serve salted account req).1) =
        .ok () ↔
      (serve salted account req).1 = expected := by
  obtain ⟨message, short, nonneg, coded⟩ :=
    text_coded rapidjson salted account req
  rw [coded]
  exact check_coded inverts short nonneg

end Check

/-! ## The verdicts of the store -/

/-- The verdicts of the account store on a list of requests. -/
def verdicts (env : Env) (reqs : List Request) : List Verdict :=
  (Store.serveAll env.saltedHash (fun _ => none) reqs).1

/-- The object answers with the texts of the verdicts. -/
theorem run_accounts
    (env : Env) (store : Store) (reqs : List Request) :
    ((accounts env).run store reqs).1 =
      (Store.serveAll env.saltedHash store reqs).1.map
        (text env.rapidjson) := by
  induction reqs generalizing store with
  | nil => rfl
  | cons req reqs induction =>
      rw [Object.run, Store.serveAll, store_serve_eq, List.map_cons,
        ← induction]
      rfl

/-- A verdict is the one on some account. -/
theorem serve_of_mem_serveAll
    {salted : Bytes → Bytes} {store : Store} {reqs : List Request}
    {verdict : Verdict}
    (member : verdict ∈ (Store.serveAll salted store reqs).1) :
    ∃ account req, verdict = (serve salted account req).1 := by
  induction reqs generalizing store with
  | nil => cases member
  | cons req reqs induction =>
      rw [Store.serveAll, store_serve_eq] at member
      rcases List.mem_cons.mp member with rfl | later
      · exact ⟨_, _, rfl⟩
      · exact induction later

/-- A check of one of the first answers tells the verdict there. -/
theorem check_prefix_iff
    {env : Env} (inverts : env.rapidjson.Inverts) {reqs : List Request}
    {responses : List Bytes}
    (answers :
      responses <+: (verdicts env reqs).map (text env.rapidjson))
    {index : Nat} {response : Bytes}
    (isResponse : responses[index]? = some response)
    (expected : Verdict) :
    check env.rapidjson expected response = .ok () ↔
      (verdicts env reqs)[index]? = some expected := by
  have among :
      ((verdicts env reqs).map (text env.rapidjson))[index]? =
        some response := by
    rcases answers with ⟨rest, whole⟩
    have early := (List.getElem?_eq_some_iff.mp isResponse).1
    rw [← whole, List.getElem?_append_left early]
    exact isResponse
  rw [List.getElem?_map, Option.map_eq_some_iff] at among
  rcases among with ⟨verdict, found, rfl⟩
  rcases serve_of_mem_serveAll (List.mem_of_getElem? found) with
    ⟨account, req, same⟩
  rw [found, Option.some.injEq, same]
  exact check_text_iff inverts env.saltedHash account req expected

/-! ## A sample registration -/

/-- The account of the tests, which a sample run of the console registers. -/
def sampleTester : Tester :=
  testAccount Console.sampleSha512

/-- The console sends this registration. -/
theorem sampleLine_sent :
    ConsoleRun.sentMessage documentEnv.rapidjson Console.sampleSha512
        ConsoleRun.sampleLine =
      some
        (.carrying
          (toJson documentEnv.rapidjson ConsoleRun.sampleRequest)) := by
  simp only [ConsoleRun.sentMessage, ConsoleRun.sampleLine_interpreted,
    Except.toOption, Option.map_some]

/-- Its registration is answered while nobody else writes. -/
theorem sample_answer :
    ∃ actions network response,
      Run (system documentEnv) actions network ∧
        (written 0 actions).map Message.body =
          [toJson documentEnv.rapidjson (tryRegister sampleTester).request] ∧
        Private documentEnv 0 actions ∧
        answered 0 actions = [response] := by
  obtain ⟨labels, session, msg, run, printed, own⟩ :=
    ConsoleRun.sample_answered
  have paced := ConsoleRun.sample_paced run printed
  refine
    ⟨_, _, msg.body, ConsoleRun.network_run run (.of_printed printed), ?_,
      ConsoleRun.private_of_concerns own, ?_⟩
  · rw [paced.written, List.filterMap_cons_some sampleLine_sent,
      List.filterMap_nil, List.map_singleton,
      (Message.carrying_spec ConsoleRun.sampleRequest_fits).2]
    rfl
  · rw [answered, ← paced.printed, printed]
    rfl

/-! ## Tries over the network -/

section Run

variable
    {env : Env} {actions : List Action} {network : Network} {conn : ConnId}
    {tries : List Try}

/-- The client has written the requests of the first tries. -/
def Wrote
    (env : Env) (conn : ConnId) (actions : List Action)
    (tries : List Try) : Prop :=
  (written conn actions).map Message.body <+:
    tries.map fun made => toJson env.rapidjson made.request

/-- The server receives them as they were meant. -/
theorem Wrote.submitted
    (inverts : env.rapidjson.Inverts)
    (short : ∀ made ∈ tries, Short made.request)
    (wrote : Wrote env conn actions tries) :
    submitted env conn actions <+: tries.map Try.request := by
  have read :
      (tries.map fun made => toJson env.rapidjson made.request).filterMap
          (Delivery.known env) =
        tries.map Try.request := by
    rw [List.filterMap_map]
    apply List.filterMap_eq_map_iff_forall_eq_some.mpr
    intro made member
    change Delivery.known env (toJson env.rapidjson made.request) = _
    rw [Delivery.known, decode_toJson inverts (short made member)]
  rw [← read]
  exact wrote.filterMap _

/-- Its answers stand for the verdicts of the store on its own requests. -/
theorem answered_verdicts
    (run : Run (system env) actions network)
    (alone : Private env conn actions)
    (sent : submitted env conn actions <+: tries.map Try.request) :
    answered conn actions <+:
      (verdicts env (tries.map Try.request)).map (text env.rapidjson) := by
  have results :=
    (legal_of_private run alone).results_initial
      ((performed_submitted run conn).trans sent)
  rw [show ((accounts env).run (accounts env).init
      (tries.map Try.request)).1 = _ from run_accounts env _ _] at results
  exact (answered_performed run conn).trans results

/--
Whatever the other clients do, and however the network runs: on a client
whose emails nobody else uses, a try passes exactly when the account store
gives its request the verdict which the try expects.
-/
theorem try_passes_iff
    (inverts : env.rapidjson.Inverts)
    (short : ∀ made ∈ tries, Short made.request)
    (run : Run (system env) actions network)
    (wrote : Wrote env conn actions tries)
    (alone : Private env conn actions) :
    ∀ (index : Nat) (made : Try) (response : Bytes),
      tries[index]? = some made →
        (answered conn actions)[index]? = some response →
          (check env.rapidjson made.expected response = .ok () ↔
            (verdicts env (tries.map Try.request))[index]? =
              some made.expected) := by
  intro index made response _ isResponse
  have sent := wrote.submitted inverts short
  exact
    check_prefix_iff inverts (answered_verdicts run alone sent) isResponse
      made.expected

/-- It would fail if the email were expected to be taken. -/
theorem try_passes_iff_sample :
    ∃ actions network response,
      Run (system documentEnv) actions network ∧
        answered 0 actions = [response] ∧
        check documentEnv.rapidjson (.register RegisterResponse.NAME_TAKEN)
            response ≠
          .ok () := by
  obtain ⟨actions, network, response, run, wrote, alone, one⟩ :=
    sample_answer
  refine ⟨actions, network, response, run, one, ?_⟩
  have short :
      ∀ made ∈ [tryReRegister sampleTester], Short made.request := by
    intro made member
    rw [List.mem_singleton.mp member]
    exact testAccount_short _
  have sent :
      Wrote documentEnv 0 actions [tryReRegister sampleTester] := by
    rw [Wrote, wrote]
    exact ⟨[], rfl⟩
  have passes :=
    try_passes_iff Reference.documentParser_inverts short run sent alone 0
      (tryReRegister sampleTester) response rfl (by rw [one]; rfl)
  intro passed
  have taken := passes.mp passed
  cases taken

/-! ## The two programs -/

/-- The tries of one of the test programs. -/
def IsTest (tester : Tester) (tries : List Try) : Prop :=
  tries = registerTest tester ∨ tries = loginTest tester

section IsTest

variable {tester : Tester}

/-- The store gives the verdicts that the programs expect. -/
theorem verdicts_of_isTest (env : Env) (test : IsTest tester tries) :
    verdicts env (tries.map Try.request) = tries.map Try.expected := by
  rcases test with rfl | rfl
  · simp [registerTest, verdicts, tryRegister, tryReRegister, tryUnRegister,
      Store.serveAll, Store.serve]
  · simp [loginTest, verdicts, tryRegister, tryLogin, tryUnRegister,
      Store.serveAll, Store.serve]

theorem short_of_isTest (short : tester.Short) (test : IsTest tester tries) :
    ∀ made ∈ tries, Dispatch.Short made.request := by
  rcases short with ⟨nickname, email, passHash⟩
  have registration :
      Dispatch.Short (tryRegister tester).request :=
    ⟨nickname, email, passHash⟩
  have credentials : Dispatch.Short (tryLogin tester).request :=
    ⟨email, passHash⟩
  rcases test with rfl | rfl
  · rintro made (_ | ⟨_, _ | ⟨_, _ | ⟨_, ⟨⟩⟩⟩⟩)
    · exact registration
    · exact registration
    · exact credentials
  · rintro made (_ | ⟨_, _ | ⟨_, _ | ⟨_, ⟨⟩⟩⟩⟩)
    · exact registration
    · exact credentials
    · exact credentials

/-- In the end the account does not exist. -/
theorem after_isTest (env : Env) (test : IsTest tester tries) :
    (account env).after (tries.map Try.request) = none := by
  rcases test with rfl | rfl
  · simp [registerTest, tryRegister, tryReRegister, tryUnRegister,
      Object.after, Object.run, account, serve]
  · simp [loginTest, tryRegister, tryLogin, tryUnRegister,
      Object.after, Object.run, account, serve]

theorem email_of_isTest (test : IsTest tester tries) :
    ∀ made ∈ tries, email made.request = tester.email := by
  rcases test with rfl | rfl
  · simp [registerTest, tryRegister, tryReRegister, tryUnRegister, email]
  · simp [loginTest, tryRegister, tryLogin, tryUnRegister, email]

end IsTest

/-- The requests about an email which one client has to itself are its own. -/
theorem requestsOn_of_private
    (run : Run (system env) actions network)
    (alone : Private env conn actions) {address : Bytes}
    (own : ∀ req ∈ submitted env conn actions, email req = address)
    (some : submitted env conn actions ≠ []) :
    requestsOn env address actions =
      (ofProcess conn (operations env actions)).map Operation.input := by
  rw [requestsOn, operationsOn, onCell, ofProcess]
  congr 1
  apply List.filter_congr
  intro op member
  have isSubmitted := input_submitted run member
  rw [decide_eq_decide]
  constructor
  · intro here
    by_contra elsewhere
    rcases List.exists_mem_of_ne_nil _ some with ⟨req, among⟩
    apply alone op.process elsewhere op.input isSubmitted req among
    rw [here, own req among]
  · intro here
    rw [here] at isSubmitted
    exact own op.input isSubmitted

/--
On a server that has started with an empty table, neither of the two programs
ever fails a try, whatever the other clients do, as long as they do not use
its email address.  Once its three tries are answered nobody is registered
under the address.
-/
theorem tests_pass
    {tester : Tester} (inverts : env.rapidjson.Inverts)
    (short : tester.Short) (test : IsTest tester tries)
    (run : Run (system env) actions network)
    (wrote : Wrote env conn actions tries)
    (alone : Private env conn actions) :
    (∀ (index : Nat) (made : Try) (response : Bytes),
      tries[index]? = some made →
        (answered conn actions)[index]? = some response →
          check env.rapidjson made.expected response = .ok ()) ∧
      ((answered conn actions).length = tries.length →
        store network.server.table tester.email = none) := by
  have sent := wrote.submitted inverts (short_of_isTest short test)
  constructor
  · intro index made response isTry isResponse
    apply
      (check_prefix_iff inverts (answered_verdicts run alone sent)
        isResponse made.expected).mpr
    rw [verdicts_of_isTest env test, List.getElem?_map, isTry]
    rfl
  · intro all
    have performed := performed_submitted run conn
    have enough := (answered_performed run conn).length_le
    have few := (performed.trans sent).length_le
    simp only [List.length_map] at enough few
    have inputs :
        (ofProcess conn (operations env actions)).map Operation.input =
          tries.map Try.request := by
      apply (performed.trans sent).eq_of_length
      simp only [List.length_map]
      omega
    have received : submitted env conn actions = tries.map Try.request := by
      apply sent.eq_of_length
      have long := performed.length_le
      have bound := sent.length_le
      rw [inputs] at long
      omega
    have own :
        ∀ req ∈ submitted env conn actions, email req = tester.email := by
      rw [received]
      intro req member
      rcases List.mem_map.mp member with ⟨made, among, rfl⟩
      exact email_of_isTest test made among
    have some : submitted env conn actions ≠ [] := by
      rw [received]
      rcases test with rfl | rfl <;> exact List.cons_ne_nil _ _
    rw [(account_of_run run tester.email).2,
      requestsOn_of_private run alone own some, inputs]
    exact after_isTest env test

end Run

/-- The sample registration passes. -/
theorem tests_pass_sample :
    ∃ actions network response,
      Run (system documentEnv) actions network ∧
        answered 0 actions = [response] ∧
        check documentEnv.rapidjson (.register RegisterResponse.OK)
            response =
          .ok () := by
  obtain ⟨actions, network, response, run, wrote, alone, one⟩ :=
    sample_answer
  refine ⟨actions, network, response, run, one, ?_⟩
  have sent : Wrote documentEnv 0 actions (registerTest sampleTester) := by
    rw [Wrote, wrote]
    exact ⟨_, rfl⟩
  have passes :=
    tests_pass Reference.documentParser_inverts (testAccount_short _)
      (Or.inl rfl) run sent alone
  exact passes.1 0 (tryRegister sampleTester) response rfl (by rw [one]; rfl)

end PokerBackend.IntegrationTests
