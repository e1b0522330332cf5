import PokerBackend.Net.ReadLoop
import PokerBackend.ReferenceJson

/-!
# A concrete environment

The parser of the environment knows the texts of a given list of requests, as
the client library writes them, and takes every other text for invalid.  The
environment is what the model is run on; no general result depends on it.
-/

namespace PokerBackend.Reference

open PokerBackend.Api
open PokerBackend.CString
open PokerBackend.Lib.Execution
open PokerBackend.Lib.Numeral
open PokerBackend.Net
open PokerBackend.Net.ReadLoop
open PokerBackend.Net.Serving
open PokerBackend.Net.TcpServer

/-! ## The environment -/

/-- The text of a request, as the client library writes it. -/
def requestText : Request → Bytes
  | .register req => req.toJson (rapidjson [])
  | .login req => req.toJson (rapidjson [])
  | .unregister req => req.toJson (rapidjson [])

/-- The document in the text of a request. -/
def requestJson : Request → Json
  | .register req =>
      .object
        [(str "type", .string RegisterRequest.type),
          (str "email", .string req.email),
          (str "nickname", .string req.nickname),
          (str "pass_hash", .string req.passHash)]
  | .login req =>
      .object
        [(str "type", .string LoginRequest.type),
          (str "email", .string req.email),
          (str "pass_hash", .string req.passHash)]
  | .unregister req =>
      .object
        [(str "type", .string UnregisterRequest.type),
          (str "email", .string req.email),
          (str "pass_hash", .string req.passHash)]

/--
An environment which reads the listed requests; it hashes by doing nothing.
-/
def env (requests : List Request) : Env where
  rapidjson :=
    rapidjson (requests.map fun req => (requestText req, requestJson req))
  hash := id
  dbPassSalt := str "salt"

/-! ## Sample requests -/

/-- The people who play. -/
inductive Player where
  | alice
  | bob

def Player.email : Player → Bytes
  | .alice => str "alice@mail.domain"
  | .bob => str "bob@mail.domain"

def Player.nickname : Player → Bytes
  | .alice => str "alice"
  | .bob => str "bob"

def Player.passHash : Player → Bytes
  | .alice => str "00AA"
  | .bob => str "00BB"

/-- What a player asks for. -/
inductive Deed where
  | registers
  | logsIn
  | leaves

def Player.request (player : Player) : Deed → Request
  | .registers =>
      .register ⟨player.nickname, player.email, player.passHash⟩
  | .logsIn => .login ⟨player.email, player.passHash⟩
  | .leaves => .unregister ⟨player.email, player.passHash⟩

/-- The environment which reads what the players write. -/
def playersEnv : Env :=
  env
    [Player.alice.request .registers, Player.alice.request .logsIn,
      Player.alice.request .leaves, Player.bob.request .registers,
      Player.bob.request .logsIn, Player.bob.request .leaves]

def Player.body (player : Player) (deed : Deed) : BodyBytes :=
  ⟨requestText (player.request deed), by
    cases player <;> cases deed <;> decide +kernel⟩

theorem decode_body (player : Player) (deed : Deed) :
    decode playersEnv.rapidjson (player.body deed).1 =
      .ok (some (player.request deed)) := by
  cases player <;> cases deed <;> rfl

/-! ## Sample runs -/

/--
The server after requests of players have arrived on its first connection.
-/
def played : Server → List (Player × Deed) → Server
  | state, [] => state
  | state, (player, deed) :: deeds =>
      played
        (afterRequest playersEnv state 0 (player.body deed)
          (player.request deed))
        deeds

def playedLabels : Server → List (Player × Deed) → List Label
  | _, [] => []
  | state, (player, deed) :: deeds =>
      requestLabels playersEnv state 0 (player.body deed)
          (player.request deed) ++
        playedLabels
          (afterRequest playersEnv state 0 (player.body deed)
            (player.request deed))
          deeds

/-- Players are served one request after the other. -/
theorem played_path
    {state : Server} (tidy : Tidy state)
    (waiting : (state.connections 0).reads = [.header])
    (deeds : List (Player × Deed)) :
    Path (server playersEnv) state (playedLabels state deeds)
        (played state deeds) ∧
      ((played state deeds).connections 0).reads = [.header] := by
  induction deeds generalizing state with
  | nil => exact ⟨.nil, waiting⟩
  | cons first deeds induction =>
      rcases first with ⟨player, deed⟩
      rcases request_path tidy waiting (decode_body player deed) with
        ⟨path, reads⟩
      have tidyNext := path.preserve (fun _ _ _ step tidy =>
        Tidy.step tidy (step_cases step)) tidy
      rcases induction tidyNext reads with ⟨rest, waitingAgain⟩
      exact ⟨path.append rest, waitingAgain⟩

/-- The deeds of players on the first connection, from the start. -/
def game (deeds : List (Player × Deed)) : Server :=
  played (firstConnection playersEnv) deeds

def gameLabels (deeds : List (Player × Deed)) : List Label :=
  (.accepted 0, none) :: playedLabels (firstConnection playersEnv) deeds

theorem game_run (deeds : List (Player × Deed)) :
    Run (server playersEnv) (gameLabels deeds) (game deeds) := by
  have accepted := firstConnection_run playersEnv
  exact
    accepted.append
      (played_path (tidy_of_run accepted)
        (firstConnection_reads playersEnv) deeds).1

theorem game_reads (deeds : List (Player × Deed)) :
    ((game deeds).connections 0).reads = [.header] :=
  (played_path (tidy_of_run (firstConnection_run playersEnv))
    (firstConnection_reads playersEnv) deeds).2

/-- After both players have registered the table has two rows. -/
example :
    (game [(.alice, .registers), (.bob, .registers)]).table.map
      (fun row => (row.nickname, row.userId)) =
        [(str "alice", 1), (str "bob", 2)] := by
  rfl

end PokerBackend.Reference
