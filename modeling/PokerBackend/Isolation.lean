import PokerBackend.Linearizable

/-!
# Clients do not interfere

The accounts are the only thing the clients of a server share, and they share
them email by email.  Whatever the other connections do, and however the
server interleaves them, the answers about one email depend on the requests
about that email alone; and a client whose emails nobody else uses is
answered as if it were the only client.
-/

namespace PokerBackend.Isolation

open PokerBackend.Account
open PokerBackend.Accounts
open PokerBackend.Lib.Execution
open PokerBackend.Lib.SequentialObject
open PokerBackend.Linearizable
open PokerBackend.Matching
open PokerBackend.Net
open PokerBackend.Net.Serving
open PokerBackend.Network
open PokerBackend.Reference

/-- The operations of a run on the account of one email. -/
def operationsOn
    (env : Env) (address : Bytes) (actions : List Action) :
    List (Operation ConnId Request Bytes) :=
  onCell email address (operations env actions)

/-- The requests about one email, in the order in which they were served. -/
def requestsOn
    (env : Env) (address : Bytes) (actions : List Action) :
    List Request :=
  (operationsOn env address actions).map Operation.input

section Run

variable
    {env : Env} {actions : List Action} {network : Network}

/-- One account has its own run of operations. -/
theorem account_of_run
    (run : Run (system env) actions network) (address : Bytes) :
    (account env).Legal (operationsOn env address actions) ∧
      store network.server.table address =
        (account env).after (requestsOn env address actions) := by
  rcases performs_of_run run with ⟨legal, stored⟩
  constructor
  · exact Object.keyed_legal_iff _ |>.mp legal address
  · rw [stored, accounts, Object.keyed_after, requestsOn, operationsOn,
      map_input_onCell]

/--
Two networks which serve the same requests about an email, in the same order,
answer them with the same texts and hold the same account, whatever else
happens in them.
-/
theorem account_isolated
    {otherActions : List Action} {other : Network}
    (run : Run (system env) actions network)
    (otherRun : Run (system env) otherActions other) (address : Bytes)
    (same :
      requestsOn env address actions =
        requestsOn env address otherActions) :
    (operationsOn env address actions).map Operation.result =
        (operationsOn env address otherActions).map Operation.result ∧
      store network.server.table address =
        store other.server.table address := by
  have here := account_of_run run address
  have there := account_of_run otherRun address
  constructor
  · exact here.1.results_eq there.1 same
  · rw [here.2, there.2, same]

/-- Alice is served in the same way where Bob registers as well. -/
theorem account_isolated_alice :
    requestsOn playersEnv Player.alice.email bothActions =
        [Player.alice.request .registers] ∧
      (operationsOn playersEnv Player.alice.email sampleActions).map
          Operation.result =
        (operationsOn playersEnv Player.alice.email bothActions).map
          Operation.result ∧
      store greeted.server.table Player.alice.email =
        store aliceTold.server.table Player.alice.email := by
  constructor
  · rfl
  · exact account_isolated sample_run both_run Player.alice.email rfl

/-- No other client has written a request about an email of this client. -/
def Private (env : Env) (conn : ConnId) (actions : List Action) : Prop :=
  ∀ other, other ≠ conn →
    ∀ req ∈ submitted env other actions,
      ∀ own ∈ submitted env conn actions, email req ≠ email own

/-- An operation of a client is one of the requests it has written. -/
theorem input_submitted
    (run : Run (system env) actions network)
    {op : Operation ConnId Request Bytes}
    (member : op ∈ operations env actions) :
    op.input ∈ submitted env op.process actions := by
  apply (performed_submitted run op.process).subset
  apply List.mem_map_of_mem
  exact List.mem_filter.mpr ⟨member, decide_eq_true rfl⟩

/-- Its operations are then those of an account store of its own. -/
theorem legal_of_private
    (run : Run (system env) actions network) {conn : ConnId}
    (alone : Private env conn actions) :
    (accounts env).Legal (ofProcess conn (operations env actions)) := by
  have separate : Alone email conn (operations env actions) := by
    intro own among ofConn op member sameEmail
    by_contra elsewhere
    apply alone op.process elsewhere op.input _ own.input _ sameEmail
    · exact input_submitted run member
    · rw [← ofConn]
      exact input_submitted run among
  exact (performs_of_run run).1.ofProcess separate

/--
A client whose emails no other client uses is answered with the results of
its own requests on an account store of its own.
-/
theorem private_client_answered
    (run : Run (system env) actions network) (conn : ConnId)
    (alone : Private env conn actions) :
    answered conn actions <+:
      ((accounts env).run (accounts env).init
        (submitted env conn actions)).1 := by
  have legal := legal_of_private run alone
  exact
    (answered_performed run conn).trans
      (legal.results_initial (performed_submitted run conn))

end Run

/-- Bob writes nothing about Alice's email. -/
theorem private_alice : Private playersEnv 0 bothActions := by
  intro other elsewhere req isSubmitted own isOwn
  rw [submitted_alice, List.mem_singleton] at isOwn
  by_cases bob : other = 1
  · subst other
    rw [submitted_bob, List.mem_singleton] at isSubmitted
    rw [isSubmitted, isOwn]
    decide
  · have quiet : clientEvents other bothActions = [] := by
      simp [clientEvents, clientEvent, bothActions, sampleActions,
        bobActions, Ne.symm elsewhere, Ne.symm bob]
    rw [submitted, written, quiet] at isSubmitted
    cases isSubmitted

/-- Alice is answered as if she were alone. -/
theorem private_client_answered_sample :
    [responseText playersEnv.rapidjson sampleExchange] <+:
      ((accounts playersEnv).run (accounts playersEnv).init
        [Player.alice.request .registers]).1 := by
  have answers := private_client_answered both_run 0 private_alice
  rwa [answered_alice, submitted_alice] at answers

end PokerBackend.Isolation
