import Mathlib.Data.List.Nodup
import PokerBackend.ReferenceJson
import PokerBackend.Server

/-!
# `database_worker`: the configuration of the server

`read_cfg_from` reads the whole file, parses it and takes five string members
out of it, one after the other.  Where the end of the file cannot be sought,
since the path does not open or is that of a pipe, `tellg` returns -1, which
`reserve` is then asked for; everything else that goes wrong is reported by
the JSON wrapper.
-/

namespace PokerBackend.Db.Config

open PokerBackend.CString
open PokerBackend.Lib.Execution

/-- `database_worker::db_connect_config` -/
@[ext]
structure DbConnectConfig where
  dbHost : Bytes
  dbName : Bytes
  dbUser : Bytes
  dbPass : Bytes
  dbPassSalt : Bytes
deriving DecidableEq

/-- How reading the configuration can fail. -/
inductive CfgFault where
  /-- The `std::length_error` of `content.reserve(ifs.tellg())`. -/
  | lengthError
  | fault (fault : Fault)
deriving DecidableEq

/-- What `read_cfg_from` takes out of the document. -/
def fromJson (j : Json) : Except Fault DbConnectConfig := do
  let dbHost ← j.valueAsString (str "db_host")
  let dbName ← j.valueAsString (str "db_name")
  let dbUser ← j.valueAsString (str "db_user")
  let dbPass ← j.valueAsString (str "db_pass")
  let dbPassSalt ← j.valueAsString (str "db_pass_salt")
  return { dbHost, dbName, dbUser, dbPass, dbPassSalt }

/--
`read_cfg_from(json_path)`, given the content of the file, or nothing where
`ifs.tellg()` is -1.
-/
def readCfgFrom (rapidjson : Rapidjson) :
    Option Bytes → Except CfgFault DbConnectConfig
  | none => .error .lengthError
  | some content =>
      (do
        let j ← Json.parse rapidjson content
        fromJson j : Except Fault DbConnectConfig).mapError .fault

/-- `sqlpp::postgresql::connection_config`, as far as it is set. -/
structure ConnectionConfig where
  host : Bytes
  user : Bytes
  password : Bytes
  dbname : Bytes
deriving DecidableEq

/-- `class database_worker` -/
structure DatabaseWorker where
  config : DbConnectConfig
  sqlppConfig : ConnectionConfig
deriving DecidableEq

/-- The constructor. -/
def DatabaseWorker.create (config : DbConnectConfig) : DatabaseWorker where
  config := config
  sqlppConfig :=
    { host := config.dbHost
      user := config.dbUser
      password := config.dbPass
      dbname := config.dbName }

/--
The part of the server's `main` that reads the configuration: the worker, and
what the message handler hashes passwords with.
-/
def startUp (rapidjson : Rapidjson) (hash : Bytes → Bytes)
    (file : Option Bytes) : Except CfgFault (DatabaseWorker × Env) := do
  let config ← readCfgFrom rapidjson file
  let worker := DatabaseWorker.create config
  return (worker, ⟨rapidjson, hash, worker.config.dbPassSalt⟩)

/-! ## Which files are read, and what the others are refused for -/

/-- The members of the document, in the order in which they are read. -/
def members (config : DbConnectConfig) : List (Bytes × Bytes) :=
  [(str "db_host", config.dbHost), (str "db_name", config.dbName),
    (str "db_user", config.dbUser), (str "db_pass", config.dbPass),
    (str "db_pass_salt", config.dbPassSalt)]

/-- Their names. -/
def names : List Bytes :=
  [str "db_host", str "db_name", str "db_user", str "db_pass",
    str "db_pass_salt"]

/-- One of the names is no string member; the error is that of the first. -/
def Refused (j : Json) (fault : Fault) (among : List Bytes) : Prop :=
  ∃ before name after,
    among = before ++ name :: after ∧
      (∀ earlier ∈ before, (j.stringMember earlier).isSome = true) ∧
      j.valueAsString name = .error fault

section Read

variable {j : Json} {name : Bytes} {fault : Fault} {among : List Bytes}

theorem refused_here (failed : j.valueAsString name = .error fault) :
    Refused j fault (name :: among) :=
  ⟨[], name, among, rfl, by simp, failed⟩

theorem Refused.later {text : Bytes}
    (read : j.valueAsString name = .ok text)
    (refused : Refused j fault among) :
    Refused j fault (name :: among) := by
  rcases refused with ⟨before, missing, after, rfl, earlier, failed⟩
  refine ⟨name :: before, missing, after, rfl, ?_, failed⟩
  rw [List.forall_mem_cons, Json.valueAsString_eq_ok_iff.mp read]
  exact ⟨rfl, earlier⟩

theorem fromJson_eq_ok_iff {config : DbConnectConfig} :
    fromJson j = .ok config ↔
      ∀ member ∈ members config,
        j.stringMember member.1 = some member.2 := by
  simp only [fromJson, bind_eq_ok_iff, pure_eq_ok_iff,
    Json.valueAsString_eq_ok_iff, members, List.forall_mem_cons]
  constructor
  · rintro ⟨_, host, _, name, _, user, _, pass, _, salt, rfl⟩
    exact ⟨host, name, user, pass, salt, by simp⟩
  · rintro ⟨host, name, user, pass, salt, _⟩
    exact ⟨_, host, _, name, _, user, _, pass, _, salt, rfl⟩

/-- The members are read in their order, up to the first that fails. -/
theorem refused_of_fromJson (failed : fromJson j = .error fault) :
    Refused j fault names := by
  rw [fromJson] at failed
  rcases bind_eq_error_iff.mp failed with host | ⟨_, host, failed⟩
  · exact refused_here host
  apply Refused.later host
  rcases bind_eq_error_iff.mp failed with name | ⟨_, name, failed⟩
  · exact refused_here name
  apply Refused.later name
  rcases bind_eq_error_iff.mp failed with user | ⟨_, user, failed⟩
  · exact refused_here user
  apply Refused.later user
  rcases bind_eq_error_iff.mp failed with pass | ⟨_, pass, failed⟩
  · exact refused_here pass
  apply Refused.later pass
  exact refused_here (bind_pure_eq_error_iff.mp failed)

end Read

section File

variable
    {rapidjson : Rapidjson} {file : Option Bytes}
    {config : DbConnectConfig} {why : CfgFault}

/-- A file is read for the five string members of the document in it. -/
theorem readCfgFrom_eq_ok_iff :
    readCfgFrom rapidjson file = .ok config ↔
      ∃ content j,
        file = some content ∧ Json.parse rapidjson content = .ok j ∧
          ∀ member ∈ members config,
            j.stringMember member.1 = some member.2 := by
  cases file with
  | none => simp [readCfgFrom]
  | some content =>
      rw [readCfgFrom, mapError_eq_ok_iff, bind_eq_ok_iff]
      simp only [fromJson_eq_ok_iff, Option.some.injEq]
      constructor
      · rintro ⟨j, parsed, read⟩
        exact ⟨content, j, rfl, parsed, read⟩
      · rintro ⟨_, j, rfl, parsed, read⟩
        exact ⟨j, parsed, read⟩

/--
A file is refused because its end cannot be sought, because its content does
not parse, or because one of the members is not a string; the error is then
that of the first such member.
-/
theorem readCfgFrom_error (failed : readCfgFrom rapidjson file = .error why) :
    (file = none ∧ why = .lengthError) ∨
      ∃ content fault,
        file = some content ∧ why = .fault fault ∧
          (Json.parse rapidjson content = .error fault ∨
            ∃ j,
              Json.parse rapidjson content = .ok j ∧
                Refused j fault names) := by
  cases file with
  | none =>
      cases failed
      exact Or.inl ⟨rfl, rfl⟩
  | some content =>
      rw [readCfgFrom, mapError_eq_error_iff] at failed
      rcases failed with ⟨fault, failed, rfl⟩
      refine Or.inr ⟨content, fault, rfl, rfl, ?_⟩
      rcases bind_eq_error_iff.mp failed with parse | ⟨j, parsed, failed⟩
      · exact Or.inl parse
      · exact Or.inr ⟨j, parsed, refused_of_fromJson failed⟩

end File

/-! ## Any file with the five members -/

/-- A string member of a document. -/
def asString (member : Bytes × Bytes) : Bytes × Json :=
  (member.1, .string member.2)

/-- The server starts with the members of the configuration. -/
def started
    (rapidjson : Rapidjson) (hash : Bytes → Bytes)
    (config : DbConnectConfig) : DatabaseWorker × Env :=
  (⟨config,
      ⟨config.dbHost, config.dbUser, config.dbPass, config.dbName⟩⟩,
    ⟨rapidjson, hash, config.dbPassSalt⟩)

section Members

variable
    {rapidjson : Rapidjson} {config : DbConnectConfig} {content : Bytes}
    {entries others : List (Bytes × Json)}

/-- What is the only entry of its kind is found, whatever the order. -/
theorem find?_of_unique {α : Type} {entries : List α}
    {satisfied : α → Bool} {entry : α} (member : entry ∈ entries)
    (holds : satisfied entry = true)
    (unique :
      ∀ other ∈ entries, satisfied other = true → other = entry) :
    entries.find? satisfied = some entry := by
  cases found : entries.find? satisfied with
  | none =>
      have fails := List.find?_eq_none.mp found entry member
      exact absurd holds fails
  | some other =>
      have same :=
        unique other (List.mem_of_find?_eq_some found)
          (List.find?_some found)
      rw [same]

/-- The five members are found among any others, in any order. -/
theorem stringMember_of_perm
    (perm : entries.Perm ((members config).map asString ++ others))
    (foreign : ∀ other ∈ others, other.1 ∉ names)
    {member : Bytes × Bytes} (among : member ∈ members config) :
    (Json.object entries).stringMember member.1 = some member.2 := by
  have noNul : ∀ name ∈ names, cStr name = name := by decide
  have isName : member.1 ∈ names := List.mem_map_of_mem among
  have distinct : ((members config).map Prod.fst).Nodup := by
    change names.Nodup
    decide
  have found :
      entries.find? (fun entry => entry.1 = cStr member.1) =
        some (asString member) := by
    rw [noNul _ isName]
    apply find?_of_unique
    · rw [perm.mem_iff]
      exact List.mem_append_left _ (List.mem_map_of_mem among)
    · exact decide_eq_true rfl
    · intro entry inside same
      have named : entry.1 = member.1 := of_decide_eq_true same
      rw [perm.mem_iff] at inside
      rcases List.mem_append.mp inside with own | foreigner
      · rcases List.mem_map.mp own with ⟨other, isOther, rfl⟩
        have isMember : other = member :=
          List.inj_on_of_nodup_map distinct isOther among named
        rw [isMember]
      · rw [← named] at isName
        exact absurd isName (foreign entry foreigner)
  rw [Json.stringMember, found]
  rfl

/--
Whatever text is in the file: if it parses to an object with the five members
as strings, in any order and among any others, the server starts with them.
The database is asked for with the host, the user, the password and the name,
and passwords are hashed with the salt.
-/
theorem start_up_read
    (hash : Bytes → Bytes)
    (parsed : rapidjson.parse (cStr content) = .ok (.object entries))
    (perm : entries.Perm ((members config).map asString ++ others))
    (foreign : ∀ other ∈ others, other.1 ∉ names) :
    startUp rapidjson hash (some content) =
      .ok (started rapidjson hash config) := by
  have whole : readCfgFrom rapidjson (some content) = .ok config := by
    apply readCfgFrom_eq_ok_iff.mpr
    refine ⟨content, _, rfl, Json.parse_eq_ok_iff.mpr parsed, ?_⟩
    intro member among
    exact stringMember_of_perm perm foreign among
  rw [startUp, whole]
  rfl

end Members

/-- The configuration in `test_db.json`. -/
def testDb : DbConnectConfig where
  dbHost := str "localhost"
  dbName := str "test_poker_db"
  dbUser := str "db_user"
  dbPass := str "password"
  dbPassSalt := str "some salt"

/-- The text of `test_db.json`, with two more members. -/
def testDbText : Bytes :=
  str "\x7b\n\t\"db_host\": \"localhost\",\n\t\"db_port\": null,\n\t" ++
    str "\"db_name\": \"test_poker_db\",\n\t\"db_user\": \"db_user\"," ++
    str "\n\t\"db_pass\": \"password\",\n\t\"hosts\": [\x7b \"db_host\": 1 " ++
    str "\x7d],\n\t\"db_pass_salt\": \"some salt\"\n\x7d"

/-- The members of its document. -/
def testDbEntries : List (Bytes × Json) :=
  [(str "db_host", .string (str "localhost")),
    (str "db_port", .null),
    (str "db_name", .string (str "test_poker_db")),
    (str "db_user", .string (str "db_user")),
    (str "db_pass", .string (str "password")),
    (str "hosts", .array [.object [(str "db_host", .int 1)]]),
    (str "db_pass_salt", .string (str "some salt"))]

/-- The server starts with the configuration in this file. -/
theorem start_up_read_testDb :
    startUp (Reference.rapidjson [(testDbText, .object testDbEntries)]) id
        (some testDbText) =
      .ok
        (⟨testDb,
            ⟨str "localhost", str "db_user", str "password",
              str "test_poker_db"⟩⟩,
          ⟨Reference.rapidjson [(testDbText, .object testDbEntries)], id,
            str "some salt"⟩) := by
  have parsed :
      (Reference.rapidjson [(testDbText, .object testDbEntries)]).parse
          (cStr testDbText) =
        .ok (.object testDbEntries) := by
    rw [cStr_of_no_nul (by decide +kernel)]
    simp [Reference.rapidjson]
  have perm :
      testDbEntries.Perm
        ((members testDb).map asString ++
          [(str "db_port", .null),
            (str "hosts", .array [.object [(str "db_host", .int 1)]])]) := by
    refine .cons _ (.trans (.swap _ _ _) (.cons _ ?_))
    refine .trans (.swap _ _ _) (.cons _ (.trans (.swap _ _ _) (.cons _ ?_)))
    exact .trans (.cons _ (.swap _ _ _)) (.swap _ _ _)
  exact start_up_read id parsed perm (by decide)

end PokerBackend.Db.Config
