import Mathlib.Data.Finset.Insert
import Mathlib.Data.List.AList
import Mathlib.Logic.Function.Basic
import PokerBackend.Api
import PokerBackend.Db.Users
import PokerBackend.Lib.Execution
import PokerBackend.Net.TcpConnection

/-!
# The state of the server process

One process holds the database connection, the session registry
`server::users_`, the set `mes_handler::participants_` and the connections it
has accepted.  Its functions are computations over that state which may stop
with a fault; the state is kept as it was when the fault was raised.

Connections are named by numbers in the order in which their objects are
created, so that a name stands for one `shared_ptr` and is never used twice.
-/

namespace PokerBackend

open PokerBackend.CString
open PokerBackend.Db
open PokerBackend.Lib.Execution
open PokerBackend.Net

/-- The identity of a `tcp_connection` object. -/
abbrev ConnId := Nat

/-- `class user` -/
structure User where
  id : Nat
  nickname : Bytes
  email : Bytes
  connection : ConnId
deriving DecidableEq

/-- `server::user_cont` -/
abbrev UserCont := AList fun _ : Nat => User

namespace UserCont

/-- `server::add_user(user)` -/
def addUser (users : UserCont) (user : User) : UserCont :=
  users.insert user.id user

/-- `server::get_user(id) const`; the other overload never returns. -/
def getUser (users : UserCont) (id : Nat) : Option User :=
  users.lookup id

@[simp]
theorem getUser_addUser (users : UserCont) (user : User) :
    (users.addUser user).getUser user.id = some user :=
  AList.lookup_insert users

theorem getUser_addUser_of_ne
    (users : UserCont) {user : User} {id : Nat} (other : id ≠ user.id) :
    (users.addUser user).getUser id = users.getUser id :=
  AList.lookup_insert_ne other

end UserCont

/--
What the program is linked with and configured by: rapidjson, the hash
`mes_handler::hash_` and `db_pass_salt`.
-/
structure Env where
  rapidjson : Rapidjson
  hash : Bytes → Bytes
  dbPassSalt : Bytes

/-- The value stored and compared for a password. -/
def Env.saltedHash (env : Env) (passHash : Bytes) : Bytes :=
  env.hash (passHash ++ env.dbPassSalt)

/-- The state of the server process between two completion handlers. -/
structure Server where
  /-- The rows of the `users` table. -/
  table : UsersTable
  /-- `server::users_` -/
  users : UserCont
  /-- `mes_handler::participants_` -/
  participants : Finset ConnId
  connections : ConnId → TcpConnection
  /-- The connection object of the outstanding `async_accept`. -/
  accepting : ConnId

namespace Server

/-- The server after `tcp_server`'s constructor, on an empty table. -/
def start : Server where
  table := []
  users := ∅
  participants := ∅
  connections := fun _ => .create
  accepting := 0

def updateConnection
    (server : Server) (conn : ConnId)
    (change : TcpConnection → TcpConnection) : Server :=
  { server with
    connections :=
      Function.update server.connections conn
        (change (server.connections conn)) }

@[simp]
theorem updateConnection_same
    (server : Server) (conn : ConnId)
    (change : TcpConnection → TcpConnection) :
    (server.updateConnection conn change).connections conn =
      change (server.connections conn) :=
  Function.update_self ..

theorem updateConnection_of_ne
    (server : Server) {conn other : ConnId} (different : other ≠ conn)
    (change : TcpConnection → TcpConnection) :
    (server.updateConnection conn change).connections other =
      server.connections other :=
  Function.update_of_ne different ..

/-- Two changes of one connection are one change. -/
theorem updateConnection_twice
    (server : Server) (conn : ConnId)
    (first second : TcpConnection → TcpConnection) :
    (server.updateConnection conn first).updateConnection conn second =
      server.updateConnection conn fun connection =>
        second (first connection) := by
  simp only [updateConnection, Function.update_self, Function.update_idem]

@[simp]
theorem updateConnection_participants
    (server : Server) (conn : ConnId)
    (change : TcpConnection → TcpConnection) :
    (server.updateConnection conn change).participants =
      server.participants := rfl

end Server

/-- A computation of the server process. -/
abbrev ServerM (α : Type) := EStateM Fault Server α

namespace ServerM

/-- Let the fault of a stateless call escape. -/
def raise {α : Type} (result : Except Fault α) : ServerM α :=
  fun server =>
    match result with
    | .ok value => .ok value server
    | .error fault => .error fault server

/-- Run a member function of one connection. -/
def onConnection
    (conn : ConnId) (change : TcpConnection → TcpConnection) :
    ServerM Unit :=
  modify fun server => server.updateConnection conn change

theorem raise_bind_run {α β : Type}
    (result : Except Fault α) (next : α → ServerM β) (server : Server) :
    (raise result >>= next).run server =
      match result with
      | .ok value => (next value).run server
      | .error fault => .error fault server := by
  cases result <;> rfl

@[simp]
theorem onConnection_run
    (conn : ConnId) (change : TcpConnection → TcpConnection)
    (server : Server) :
    (onConnection conn change).run server =
      .ok () (server.updateConnection conn change) := rfl

end ServerM

end PokerBackend
