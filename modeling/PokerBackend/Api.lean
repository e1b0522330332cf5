import PokerBackend.Json
import PokerBackend.Lib.Execution

/-!
# The api messages

The requests a client sends and the responses the server gives, with the
JSON they are read from and written to.  `to_json` goes through
`sb.GetString()`, so a NUL in the written text would cut it.
-/

namespace PokerBackend.Api

open PokerBackend.CString
open PokerBackend.Lib.Execution

/-! ## Writing members -/

/-- `write_str`: the length passes through the 32-bit `SizeType`. -/
def writeStr (text : Bytes) : Bytes :=
  text.take (text.length % 2 ^ 32)

/-- A `size_t` passed to `PrettyWriter::Int64`. -/
def toInt64 (value : Nat) : Int :=
  Int.bmod value (2 ^ 64)

/-- `write_prop_val` of a string property. -/
def writePropString (name value : Bytes) : Bytes × WriterValue :=
  (writeStr name, .string (writeStr value))

/-- `write_prop_val` of a `size_t` property. -/
def writePropSizeT (name : Bytes) (value : Nat) : Bytes × WriterValue :=
  (writeStr name, .int64 (toInt64 value))

/-- The text of an object: `sb.GetString()` after `EndObject()`. -/
def writeObject
    (rapidjson : Rapidjson) (members : List (Bytes × WriterValue)) : Bytes :=
  cStr (rapidjson.prettyWriter members)

theorem writeStr_length_le (text : Bytes) :
    (writeStr text).length ≤ text.length :=
  List.length_take_le' _ _

theorem writeObject_length_le
    (rapidjson : Rapidjson) (members : List (Bytes × WriterValue)) :
    (writeObject rapidjson members).length ≤ maxObjectSize members :=
  (List.takeWhile_prefix _).length_le.trans
    (rapidjson.prettyWriter_length members)

/-! ## Requests -/

/-- `api::register_request` -/
structure RegisterRequest where
  nickname : Bytes
  email : Bytes
  passHash : Bytes
deriving DecidableEq

/-- `api::login_request` -/
structure LoginRequest where
  email : Bytes
  passHash : Bytes
deriving DecidableEq

/-- `api::unregister_request` -/
structure UnregisterRequest where
  email : Bytes
  passHash : Bytes
deriving DecidableEq

def RegisterRequest.type : Bytes := str "register_request"

def LoginRequest.type : Bytes := str "login_request"

def UnregisterRequest.type : Bytes := str "unregister_request"

def RegisterRequest.fromJson (root : Json) :
    Except Fault RegisterRequest := do
  let nickname ← root.valueAsString (str "nickname")
  let email ← root.valueAsString (str "email")
  let passHash ← root.valueAsString (str "pass_hash")
  return { nickname, email, passHash }

/-- What the requests about an existing account read: email and hash. -/
def readCredentials (root : Json) : Except Fault (Bytes × Bytes) := do
  let email ← root.valueAsString (str "email")
  let passHash ← root.valueAsString (str "pass_hash")
  return (email, passHash)

def LoginRequest.fromJson (root : Json) : Except Fault LoginRequest := do
  let (email, passHash) ← readCredentials root
  return { email, passHash }

def UnregisterRequest.fromJson (root : Json) :
    Except Fault UnregisterRequest := do
  let (email, passHash) ← readCredentials root
  return { email, passHash }

theorem RegisterRequest.fromJson_eq_ok_iff
    {root : Json} {request : RegisterRequest} :
    RegisterRequest.fromJson root = .ok request ↔
      root.stringMember (str "nickname") = some request.nickname ∧
        root.stringMember (str "email") = some request.email ∧
        root.stringMember (str "pass_hash") = some request.passHash := by
  simp only [RegisterRequest.fromJson, bind_eq_ok_iff,
    Json.valueAsString_eq_ok_iff, pure_eq_ok_iff]
  constructor
  · rintro ⟨nickname, isNickname, email, isEmail, passHash, isHash, rfl⟩
    exact ⟨isNickname, isEmail, isHash⟩
  · rintro ⟨isNickname, isEmail, isHash⟩
    exact ⟨_, isNickname, _, isEmail, _, isHash, rfl⟩

theorem readCredentials_eq_ok_iff
    {root : Json} {credentials : Bytes × Bytes} :
    readCredentials root = .ok credentials ↔
      root.stringMember (str "email") = some credentials.1 ∧
        root.stringMember (str "pass_hash") = some credentials.2 := by
  simp only [readCredentials, bind_eq_ok_iff,
    Json.valueAsString_eq_ok_iff, pure_eq_ok_iff]
  constructor
  · rintro ⟨email, isEmail, passHash, isHash, rfl⟩
    exact ⟨isEmail, isHash⟩
  · rintro ⟨isEmail, isHash⟩
    exact ⟨_, isEmail, _, isHash, rfl⟩

theorem LoginRequest.fromJson_eq_ok_iff
    {root : Json} {request : LoginRequest} :
    LoginRequest.fromJson root = .ok request ↔
      root.stringMember (str "email") = some request.email ∧
        root.stringMember (str "pass_hash") = some request.passHash := by
  simp only [LoginRequest.fromJson, bind_eq_ok_iff,
    readCredentials_eq_ok_iff, pure_eq_ok_iff]
  constructor
  · rintro ⟨credentials, read, rfl⟩
    exact read
  · intro read
    exact ⟨(request.email, request.passHash), read, rfl⟩

theorem UnregisterRequest.fromJson_eq_ok_iff
    {root : Json} {request : UnregisterRequest} :
    UnregisterRequest.fromJson root = .ok request ↔
      root.stringMember (str "email") = some request.email ∧
        root.stringMember (str "pass_hash") = some request.passHash := by
  simp only [UnregisterRequest.fromJson, bind_eq_ok_iff,
    readCredentials_eq_ok_iff, pure_eq_ok_iff]
  constructor
  · rintro ⟨credentials, read, rfl⟩
    exact read
  · intro read
    exact ⟨(request.email, request.passHash), read, rfl⟩

def RegisterRequest.toJson
    (rapidjson : Rapidjson) (request : RegisterRequest) : Bytes :=
  writeObject rapidjson
    [writePropString (str "type") RegisterRequest.type,
      writePropString (str "email") request.email,
      writePropString (str "nickname") request.nickname,
      writePropString (str "pass_hash") request.passHash]

/-- The text shared by the requests about an existing account. -/
def credentialsJson
    (rapidjson : Rapidjson) (type email passHash : Bytes) : Bytes :=
  writeObject rapidjson
    [writePropString (str "type") type,
      writePropString (str "email") email,
      writePropString (str "pass_hash") passHash]

def LoginRequest.toJson
    (rapidjson : Rapidjson) (request : LoginRequest) : Bytes :=
  credentialsJson rapidjson LoginRequest.type request.email
    request.passHash

def UnregisterRequest.toJson
    (rapidjson : Rapidjson) (request : UnregisterRequest) : Bytes :=
  credentialsJson rapidjson UnregisterRequest.type request.email
    request.passHash

/-! ## Responses -/

/-- A scoped enumeration: any value of its underlying type, `int`. -/
abbrev CodeEnum := Int32

/-- `api::connect_response` -/
structure ConnectResponse where
  code : Nat := 0

/-- `api::register_response` -/
structure RegisterResponse where
  code : CodeEnum := 0
  message : Bytes := []
deriving DecidableEq

/-- `api::login_response` -/
structure LoginResponse where
  code : CodeEnum := 0
  message : Bytes := []
deriving DecidableEq

/-- `api::unregister_response` -/
structure UnregisterResponse where
  code : CodeEnum := 0
  message : Bytes := []
deriving DecidableEq

namespace RegisterResponse

def OK : CodeEnum := 0
def NAME_TAKEN : CodeEnum := 1
def ETC : CodeEnum := 2
def type : Bytes := str "register_response"

end RegisterResponse

namespace LoginResponse

def OK : CodeEnum := 0
def NAME_UNKNOWN : CodeEnum := 1
def PASS_INCORRECT : CodeEnum := 2
def ETC : CodeEnum := 3
def type : Bytes := str "login_response"

end LoginResponse

namespace UnregisterResponse

def OK : CodeEnum := 0
def NO_NAME : CodeEnum := 1
def NO_PASS : CodeEnum := 2
def ETC : CodeEnum := 3
def type : Bytes := str "unregister_response"

end UnregisterResponse

def ConnectResponse.type : Bytes := str "connect_response"

def ConnectResponse.toJson
    (rapidjson : Rapidjson) (response : ConnectResponse) : Bytes :=
  writeObject rapidjson
    [writePropString (str "type") ConnectResponse.type,
      writePropSizeT (str "code") response.code]

/-- The text shared by the responses with a code and a message. -/
def codedResponseJson
    (rapidjson : Rapidjson) (type message : Bytes) (code : CodeEnum) :
    Bytes :=
  writeObject rapidjson
    [writePropString (str "type") type,
      writePropString (str "message") message,
      writePropSizeT (str "code") (toSizeT code.toInt)]

def RegisterResponse.toJson
    (rapidjson : Rapidjson) (response : RegisterResponse) : Bytes :=
  codedResponseJson rapidjson RegisterResponse.type
    response.message response.code

def LoginResponse.toJson
    (rapidjson : Rapidjson) (response : LoginResponse) : Bytes :=
  codedResponseJson rapidjson LoginResponse.type
    response.message response.code

def UnregisterResponse.toJson
    (rapidjson : Rapidjson) (response : UnregisterResponse) : Bytes :=
  codedResponseJson rapidjson UnregisterResponse.type
    response.message response.code

theorem connectResponse_length_le
    (rapidjson : Rapidjson) (response : ConnectResponse) :
    (response.toJson rapidjson).length ≤ 2044 := by
  refine (writeObject_length_le _ _).trans ?_
  simp [maxObjectSize, writePropString, writePropSizeT,
    WriterValue.maxSize, writeStr, str, ConnectResponse.type]

/-- A response whose type and message are short fits into a message body. -/
theorem codedResponseJson_length_le
    (rapidjson : Rapidjson) {type message : Bytes} (code : CodeEnum)
    (shortType : type.length ≤ 100) (shortMessage : message.length ≤ 100) :
    (codedResponseJson rapidjson type message code).length ≤ 2044 := by
  have typeBound := writeStr_length_le type
  have messageBound := writeStr_length_le message
  refine (writeObject_length_le _ _).trans ?_
  simp only [maxObjectSize, writePropString, writePropSizeT,
    WriterValue.maxSize, List.map_cons, List.map_nil, List.sum_cons,
    List.sum_nil]
  have typeName : (writeStr (str "type")).length = 4 := by decide
  have messageName : (writeStr (str "message")).length = 7 := by decide
  have codeName : (writeStr (str "code")).length = 4 := by decide
  omega

end PokerBackend.Api
