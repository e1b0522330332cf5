import PokerBackend.Accounts
import PokerBackend.Lib.SequentialObject

/-!
# One account

The account store is a product.  Every email has an account of its own, a
request acts on the account of its email, and the text it is answered with
depends on that account alone.  Serving a request on the table is serving it
on this product.
-/

namespace PokerBackend.Account

open PokerBackend.Accounts
open PokerBackend.Api
open PokerBackend.Db
open PokerBackend.Lib.KeyedTable
open PokerBackend.Lib.SequentialObject
open PokerBackend.Net
open PokerBackend.Net.HandlerSpec
open PokerBackend.Net.MesHandler
open PokerBackend.Net.Serving

/-- The nickname and the salted hash, once the email is registered. -/
abbrev Held := Option (Bytes × Bytes)

/-- One request on the account of its email. -/
def serve (salted : Bytes → Bytes) (account : Held) :
    Request → Verdict × Held
  | .register req =>
      match account with
      | some _ => (.register RegisterResponse.NAME_TAKEN, account)
      | none =>
          (.register RegisterResponse.OK,
            some (req.nickname, salted req.passHash))
  | .login req =>
      match account with
      | none => (.login LoginResponse.NAME_UNKNOWN, account)
      | some (_, passHash) =>
          if passHash = salted req.passHash then
            (.login LoginResponse.OK, account)
          else (.login LoginResponse.PASS_INCORRECT, account)
  | .unregister req =>
      match account with
      | none => (.unregister UnregisterResponse.NO_NAME, account)
      | some (_, passHash) =>
          if passHash = salted req.passHash then
            (.unregister UnregisterResponse.OK, none)
          else (.unregister UnregisterResponse.NO_PASS, account)

/-- The text of the response with a verdict. -/
def text (rapidjson : Rapidjson) : Verdict → Bytes
  | .register code =>
      if code = RegisterResponse.OK then registered.toJson rapidjson
      else nameTaken.toJson rapidjson
  | .login code =>
      if code = LoginResponse.OK then loggedIn.toJson rapidjson
      else if code = LoginResponse.NAME_UNKNOWN then
        nameUnknown.toJson rapidjson
      else passIncorrect.toJson rapidjson
  | .unregister code =>
      if code = UnregisterResponse.OK then unregistered.toJson rapidjson
      else if code = UnregisterResponse.NO_NAME then
        noName.toJson rapidjson
      else noPass.toJson rapidjson

/-- The account as an object, which answers with texts. -/
def account (env : Env) : Object Held Request Bytes where
  init := none
  act account req :=
    let moved := serve env.saltedHash account req
    (text env.rapidjson moved.1, moved.2)

/-- The account store: an account for every email. -/
def accounts (env : Env) : Object (Bytes → Held) Request Bytes :=
  (account env).keyed email

/-- The abstract store serves a request on the account of its email. -/
theorem store_serve_eq
    (salted : Bytes → Bytes) (store : Store) (req : Request) :
    store.serve salted req =
      let moved := serve salted (store (email req)) req
      (moved.1, Function.update store (email req) moved.2) := by
  cases req with
  | register req =>
      simp only [Store.serve, serve, email]
      cases found : store req.email with
      | none => rfl
      | some held => simp [← found]
  | login req =>
      simp only [Store.serve, serve, email]
      cases found : store req.email with
      | none => simp [← found]
      | some held =>
          by_cases matched : held.2 = salted req.passHash
          · simp [matched, ← found]
          · simp [matched, ← found]
  | unregister req =>
      simp only [Store.serve, serve, email]
      cases found : store req.email with
      | none => simp [← found]
      | some held =>
          by_cases matched : held.2 = salted req.passHash
          · simp [matched]
          · simp [matched, ← found]

section Table

variable
    (env : Env) {table : UsersTable} (sender : ConnId) (req : Request)

/-- The text that is sent is that of the verdict. -/
theorem responseText_eq :
    responseText env.rapidjson (outcome env table sender req).exchange =
      text env.rapidjson
        (verdict (outcome env table sender req).exchange) := by
  cases req with
  | register req =>
      simp only [outcome]
      split <;> rfl
  | login req =>
      simp only [outcome]
      split
      · rfl
      · split <;> rfl
  | unregister req =>
      simp only [outcome]
      split
      · rfl
      · split <;> rfl

/-- The step lemma: a served request acts on the table as on the accounts. -/
theorem outcome_accounts (unique : UniqueKeys Row.email table) :
    (responseText env.rapidjson (outcome env table sender req).exchange,
        store (outcome env table sender req).table) =
      (accounts env).act (store table) req := by
  have refined := outcome_refines env sender unique req
  rw [ServesAlike, store_serve_eq, Prod.mk.injEq] at refined
  rcases refined with ⟨answer, next⟩
  rw [responseText_eq, answer, next]
  rfl

end Table

end PokerBackend.Account
