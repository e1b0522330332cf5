import PokerBackend.Api
import PokerBackend.JsonLookup
import PokerBackend.RapidjsonSpec

/-!
# Reading the api messages back

`from_json` is called on an object that exists already: it assigns one member
after the other, and a fault leaves the members that were assigned before it.
For each of the seven messages, what `to_json` writes is read back into any
object, given that the library reads what it writes.
-/

namespace PokerBackend.Api

open PokerBackend.CString
open PokerBackend.Lib.Execution

/-! ## `from_json` on an existing object -/

/-- A member function that changes an object of type `T`. -/
abbrev UpdateM (T α : Type) := EStateM Fault T α

/-- Let the fault of a call escape. -/
def attempt {T α : Type} (result : Except Fault α) : UpdateM T α :=
  fun object =>
    match result with
    | .ok value => .ok value object
    | .error fault => .error fault object

/-- `from_json(const std::string&)` of all messages but `connect_response`. -/
def fromText {T : Type}
    (rapidjson : Rapidjson) (fromJson : Json → UpdateM T Unit) (text : Bytes) :
    UpdateM T Unit := do
  let j ← attempt (Json.parse rapidjson text)
  fromJson j

/-- `this->name() = j.value_as<std::string>(this->name().name());` -/
def assignString {T : Type}
    (root : Json) (name : Bytes) (set : Bytes → T → T) : UpdateM T Unit := do
  let text ← attempt (root.valueAsString name)
  modify (set text)

/-- The cast of a `size_t` to one of the `code_enum`s. -/
def toCodeEnum (value : Nat) : CodeEnum :=
  Int32.ofNat value

/-- `this->code() = (code_enum) j.value_as<std::size_t>(...);` -/
def assignCode {T : Type}
    (root : Json) (set : CodeEnum → T → T) : UpdateM T Unit := do
  let value ← attempt (root.valueAsSizeT (str "code"))
  modify (set (toCodeEnum value))

/-- `register_request::from_json(const json&)` -/
def RegisterRequest.fromJsonInto (root : Json) :
    UpdateM RegisterRequest Unit := do
  assignString root (str "nickname") fun nickname req =>
    { req with nickname }
  assignString root (str "email") fun email req => { req with email }
  assignString root (str "pass_hash") fun passHash req =>
    { req with passHash }

/-- `login_request::from_json(const json&)` -/
def LoginRequest.fromJsonInto (root : Json) :
    UpdateM LoginRequest Unit := do
  assignString root (str "email") fun email req => { req with email }
  assignString root (str "pass_hash") fun passHash req =>
    { req with passHash }

/-- `unregister_request::from_json(const json&)` -/
def UnregisterRequest.fromJsonInto (root : Json) :
    UpdateM UnregisterRequest Unit := do
  assignString root (str "email") fun email req => { req with email }
  assignString root (str "pass_hash") fun passHash req =>
    { req with passHash }

/-- `register_response::from_json(const json&)` -/
def RegisterResponse.fromJsonInto (root : Json) :
    UpdateM RegisterResponse Unit := do
  assignString root (str "message") fun message rsp =>
    { rsp with message }
  assignCode root fun code rsp => { rsp with code }

/-- `login_response::from_json(const json&)`, which reads the code first. -/
def LoginResponse.fromJsonInto (root : Json) :
    UpdateM LoginResponse Unit := do
  assignCode root fun code rsp => { rsp with code }
  assignString root (str "message") fun message rsp =>
    { rsp with message }

/-- `unregister_response::from_json(const json&)` -/
def UnregisterResponse.fromJsonInto (root : Json) :
    UpdateM UnregisterResponse Unit := do
  assignString root (str "message") fun message rsp =>
    { rsp with message }
  assignCode root fun code rsp => { rsp with code }

/-- `GetInt64`, which asserts that the value is one. -/
def getInt64 : Json → Except Fault Int
  | .int value =>
      if -2 ^ 63 ≤ value ∧ value < 2 ^ 63 then .ok value
      else .error .rapidjsonAssert
  | _ => .error .rapidjsonAssert

/--
`connect_response::from_json(const std::string&)`, which does not ask whether
the text has parsed.
-/
def ConnectResponse.fromJsonText
    (rapidjson : Rapidjson) (text : Bytes) : UpdateM ConnectResponse Unit := do
  let d :=
    match rapidjson.parse (cStr text) with
    | .ok root => root
    | .error _ => .null
  let val ← attempt (d.member (str "code"))
  let code ← attempt (getInt64 val)
  modify fun rsp => { rsp with code := toSizeT code }

def RegisterRequest.fromJsonText
    (rapidjson : Rapidjson) (text : Bytes) : UpdateM RegisterRequest Unit :=
  fromText rapidjson RegisterRequest.fromJsonInto text

def RegisterResponse.fromJsonText
    (rapidjson : Rapidjson) (text : Bytes) : UpdateM RegisterResponse Unit :=
  fromText rapidjson RegisterResponse.fromJsonInto text

def LoginRequest.fromJsonText
    (rapidjson : Rapidjson) (text : Bytes) : UpdateM LoginRequest Unit :=
  fromText rapidjson LoginRequest.fromJsonInto text

def LoginResponse.fromJsonText
    (rapidjson : Rapidjson) (text : Bytes) : UpdateM LoginResponse Unit :=
  fromText rapidjson LoginResponse.fromJsonInto text

def UnregisterRequest.fromJsonText
    (rapidjson : Rapidjson) (text : Bytes) : UpdateM UnregisterRequest Unit :=
  fromText rapidjson UnregisterRequest.fromJsonInto text

def UnregisterResponse.fromJsonText
    (rapidjson : Rapidjson) (text : Bytes) : UpdateM UnregisterResponse Unit :=
  fromText rapidjson UnregisterResponse.fromJsonInto text

/-! ## When it returns -/

/-- The code that a response is read with. -/
def CodeMember (root : Json) (code : CodeEnum) : Prop :=
  ∃ value,
    Json.classify Json.getSizeT (root.find (cStr (str "code"))) =
        .value value ∧
      toCodeEnum value = code

section UpdateM

variable {T α : Type} {object final : T} {root : Json} {name : Bytes}

theorem attempt_bind_eq_ok_iff
    {result : Except Fault α} {next : α → UpdateM T Unit} :
    (attempt result >>= next).run object = .ok () final ↔
      ∃ value,
        result = .ok value ∧ (next value).run object = .ok () final := by
  cases result with
  | ok value =>
      have step :
          (attempt (.ok value) >>= next).run object =
            (next value).run object := rfl
      simp [step]
  | error fault =>
      have step :
          (attempt (.error fault) >>= next).run object =
            .error fault object := rfl
      simp [step]

theorem assignString_bind_eq_ok_iff
    {set : Bytes → T → T} {next : UpdateM T Unit} :
    (assignString root name set >>= fun _ => next).run object =
        .ok () final ↔
      ∃ text,
        root.stringMember name = some text ∧
          next.run (set text object) = .ok () final := by
  simp only [assignString, bind_assoc, attempt_bind_eq_ok_iff,
    Json.valueAsString_eq_ok_iff]
  rfl

theorem assignString_eq_ok_iff {set : Bytes → T → T} :
    (assignString root name set).run object = .ok () final ↔
      ∃ text,
        root.stringMember name = some text ∧ set text object = final := by
  rw [assignString, attempt_bind_eq_ok_iff]
  simp only [Json.valueAsString_eq_ok_iff]
  constructor
  · rintro ⟨text, read, returned⟩
    exact ⟨text, read, (EStateM.Result.ok.inj returned).2⟩
  · rintro ⟨text, read, rfl⟩
    exact ⟨text, read, rfl⟩

theorem assignCode_bind_eq_ok_iff
    {set : CodeEnum → T → T} {next : UpdateM T Unit} :
    (assignCode root set >>= fun _ => next).run object = .ok () final ↔
      ∃ code,
        CodeMember root code ∧
          next.run (set code object) = .ok () final := by
  simp only [assignCode, bind_assoc, attempt_bind_eq_ok_iff]
  constructor
  · rintro ⟨value, read, rest⟩
    exact
      ⟨toCodeEnum value, ⟨value, Json.valueAs_eq_ok_iff.mp read, rfl⟩, rest⟩
  · rintro ⟨_, ⟨value, isCode, rfl⟩, rest⟩
    exact ⟨value, Json.valueAs_eq_ok_iff.mpr isCode, rest⟩

theorem assignCode_eq_ok_iff {set : CodeEnum → T → T} :
    (assignCode root set).run object = .ok () final ↔
      ∃ code, CodeMember root code ∧ set code object = final := by
  rw [assignCode, attempt_bind_eq_ok_iff]
  constructor
  · rintro ⟨value, read, returned⟩
    exact
      ⟨toCodeEnum value, ⟨value, Json.valueAs_eq_ok_iff.mp read, rfl⟩,
        (EStateM.Result.ok.inj returned).2⟩
  · rintro ⟨_, ⟨value, isCode, rfl⟩, rfl⟩
    exact ⟨value, Json.valueAs_eq_ok_iff.mpr isCode, rfl⟩

end UpdateM

/-- Every member is assigned, so what was there before does not matter. -/
theorem RegisterRequest.fromJsonInto_eq_ok_iff
    {root : Json} {previous request : RegisterRequest} :
    (RegisterRequest.fromJsonInto root).run previous = .ok () request ↔
      RegisterRequest.fromJson root = .ok request := by
  simp only [RegisterRequest.fromJsonInto, assignString_bind_eq_ok_iff,
    assignString_eq_ok_iff, RegisterRequest.fromJson_eq_ok_iff]
  constructor
  · rintro ⟨nickname, isNickname, email, isEmail, hash, isHash, rfl⟩
    exact ⟨isNickname, isEmail, isHash⟩
  · rintro ⟨isNickname, isEmail, isHash⟩
    exact ⟨_, isNickname, _, isEmail, _, isHash, rfl⟩

theorem LoginRequest.fromJsonInto_eq_ok_iff
    {root : Json} {previous request : LoginRequest} :
    (LoginRequest.fromJsonInto root).run previous = .ok () request ↔
      LoginRequest.fromJson root = .ok request := by
  simp only [LoginRequest.fromJsonInto, assignString_bind_eq_ok_iff,
    assignString_eq_ok_iff, LoginRequest.fromJson_eq_ok_iff]
  constructor
  · rintro ⟨email, isEmail, hash, isHash, rfl⟩
    exact ⟨isEmail, isHash⟩
  · rintro ⟨isEmail, isHash⟩
    exact ⟨_, isEmail, _, isHash, rfl⟩

theorem UnregisterRequest.fromJsonInto_eq_ok_iff
    {root : Json} {previous request : UnregisterRequest} :
    (UnregisterRequest.fromJsonInto root).run previous = .ok () request ↔
      UnregisterRequest.fromJson root = .ok request := by
  simp only [UnregisterRequest.fromJsonInto, assignString_bind_eq_ok_iff,
    assignString_eq_ok_iff, UnregisterRequest.fromJson_eq_ok_iff]
  constructor
  · rintro ⟨email, isEmail, hash, isHash, rfl⟩
    exact ⟨isEmail, isHash⟩
  · rintro ⟨isEmail, isHash⟩
    exact ⟨_, isEmail, _, isHash, rfl⟩

theorem RegisterResponse.fromJsonInto_eq_ok_iff
    {root : Json} {previous response : RegisterResponse} :
    (RegisterResponse.fromJsonInto root).run previous = .ok () response ↔
      root.stringMember (str "message") = some response.message ∧
        CodeMember root response.code := by
  simp only [RegisterResponse.fromJsonInto, assignString_bind_eq_ok_iff,
    assignCode_eq_ok_iff]
  constructor
  · rintro ⟨message, isMessage, code, isCode, rfl⟩
    exact ⟨isMessage, isCode⟩
  · rintro ⟨isMessage, isCode⟩
    exact ⟨_, isMessage, _, isCode, rfl⟩

theorem LoginResponse.fromJsonInto_eq_ok_iff
    {root : Json} {previous response : LoginResponse} :
    (LoginResponse.fromJsonInto root).run previous = .ok () response ↔
      root.stringMember (str "message") = some response.message ∧
        CodeMember root response.code := by
  simp only [LoginResponse.fromJsonInto, assignCode_bind_eq_ok_iff,
    assignString_eq_ok_iff]
  constructor
  · rintro ⟨code, isCode, message, isMessage, rfl⟩
    exact ⟨isMessage, isCode⟩
  · rintro ⟨isMessage, isCode⟩
    exact ⟨_, isCode, _, isMessage, rfl⟩

theorem UnregisterResponse.fromJsonInto_eq_ok_iff
    {root : Json} {previous response : UnregisterResponse} :
    (UnregisterResponse.fromJsonInto root).run previous = .ok () response ↔
      root.stringMember (str "message") = some response.message ∧
        CodeMember root response.code := by
  simp only [UnregisterResponse.fromJsonInto, assignString_bind_eq_ok_iff,
    assignCode_eq_ok_iff]
  constructor
  · rintro ⟨message, isMessage, code, isCode, rfl⟩
    exact ⟨isMessage, isCode⟩
  · rintro ⟨isMessage, isCode⟩
    exact ⟨_, isMessage, _, isCode, rfl⟩

/-! ## Written members -/

theorem writeStr_of_short {text : Bytes} (short : text.length < 2 ^ 32) :
    writeStr text = text := by
  rw [writeStr, Nat.mod_eq_of_lt short, List.take_length]

theorem toInt64_range (value : Nat) :
    -2 ^ 63 ≤ toInt64 value ∧ toInt64 value < 2 ^ 63 := by
  have low := Int.le_bmod (x := value) (m := 2 ^ 64) (by decide)
  have high := Int.bmod_lt (x := value) (m := 2 ^ 64) (by decide)
  unfold toInt64
  constructor <;> omega

/-- From 2^63 on the detour is through negative numbers. -/
theorem toSizeT_toInt64 {value : Nat} (bound : value < 2 ^ 64) :
    toSizeT (toInt64 value) = value := by
  have same : Int.bmod value (2 ^ 64) % 2 ^ 64 = (value : Int) % 2 ^ 64 :=
    Int.bmod_emod
  unfold toSizeT toInt64
  rw [same]
  omega

theorem toInt64_toSizeT
    {value : Int} (low : -2 ^ 63 ≤ value) (high : value < 2 ^ 63) :
    toInt64 (toSizeT value) = value := by
  have size : (toSizeT value : Int) = value % 2 ^ 64 := by
    unfold toSizeT
    omega
  have same :
      Int.bmod (value % ((2 ^ 64 : Nat) : Int)) (2 ^ 64) =
        Int.bmod value (2 ^ 64) :=
    Int.emod_bmod value (2 ^ 64)
  unfold toInt64
  rw [size]
  exact same.trans (Int.bmod_eq_of_le_mul_two (by omega) (by omega))

theorem writable_string (name value : Bytes) :
    WritableMember (writePropString name value) := by
  have short : ∀ text : Bytes, (writeStr text).length < 2 ^ 32 := by
    intro text
    have taken : (writeStr text).length ≤ text.length % 2 ^ 32 :=
      List.length_take_le _ _
    have remainder : text.length % 2 ^ 32 < 2 ^ 32 :=
      Nat.mod_lt _ (by decide)
    omega
  exact ⟨short name, short value⟩

theorem writable_sizeT
    {name : Bytes} (short : name.length < 2 ^ 32) (value : Nat) :
    WritableMember (writePropSizeT name value) := by
  refine ⟨?_, toInt64_range value⟩
  change (writeStr name).length < 2 ^ 32
  rwa [writeStr_of_short short]

/-- A text that was written parses as the object with the written members. -/
theorem parse_writeObject
    {rapidjson : Rapidjson} (inverts : rapidjson.Inverts)
    {members : List (Bytes × WriterValue)}
    (writable : ∀ member ∈ members, WritableMember member) :
    rapidjson.parse (cStr (writeObject rapidjson members)) =
      .ok (readBack members) := by
  have whole : cStr (rapidjson.prettyWriter members) =
      rapidjson.prettyWriter members :=
    cStr_of_no_nul (inverts.noNul members writable)
  rw [writeObject, whole, whole]
  exact inverts.parse_prettyWriter members writable

theorem fromText_writeObject {T : Type}
    {rapidjson : Rapidjson} (inverts : rapidjson.Inverts)
    {members : List (Bytes × WriterValue)}
    (writable : ∀ member ∈ members, WritableMember member)
    (fromJson : Json → UpdateM T Unit) (previous : T) :
    (fromText rapidjson fromJson (writeObject rapidjson members)).run
        previous =
      (fromJson (readBack members)).run previous := by
  have parsed :
      Json.parse rapidjson (writeObject rapidjson members) =
        .ok (readBack members) :=
    Json.parse_eq_ok_iff.mpr (parse_writeObject inverts writable)
  rw [fromText, parsed]
  rfl

/-! ## Round trips -/

/-- What was written is read back into any object. -/
def RoundTrips {T : Type}
    (valid : T → Prop) (toJson : T → Bytes)
    (fromJson : Bytes → UpdateM T Unit) : Prop :=
  ∀ value previous, valid value →
    (fromJson (toJson value)).run previous = .ok () value

/-- The strings of the request are shorter than 2^32. -/
def RegisterRequest.Short (request : RegisterRequest) : Prop :=
  request.nickname.length < 2 ^ 32 ∧ request.email.length < 2 ^ 32 ∧
    request.passHash.length < 2 ^ 32

def LoginRequest.Short (request : LoginRequest) : Prop :=
  request.email.length < 2 ^ 32 ∧ request.passHash.length < 2 ^ 32

def UnregisterRequest.Short (request : UnregisterRequest) : Prop :=
  request.email.length < 2 ^ 32 ∧ request.passHash.length < 2 ^ 32

def RegisterResponse.enumerators : List CodeEnum :=
  [RegisterResponse.OK, RegisterResponse.NAME_TAKEN, RegisterResponse.ETC]

def LoginResponse.enumerators : List CodeEnum :=
  [LoginResponse.OK, LoginResponse.NAME_UNKNOWN,
    LoginResponse.PASS_INCORRECT, LoginResponse.ETC]

def UnregisterResponse.enumerators : List CodeEnum :=
  [UnregisterResponse.OK, UnregisterResponse.NO_NAME,
    UnregisterResponse.NO_PASS, UnregisterResponse.ETC]

section RoundTrip

variable {rapidjson : Rapidjson}

/-- The members of a registration request. -/
def RegisterRequest.members (request : RegisterRequest) :
    List (Bytes × WriterValue) :=
  [writePropString (str "type") RegisterRequest.type,
    writePropString (str "email") request.email,
    writePropString (str "nickname") request.nickname,
    writePropString (str "pass_hash") request.passHash]

/-- The members of a request about an existing account. -/
def credentialsMembers (type email passHash : Bytes) :
    List (Bytes × WriterValue) :=
  [writePropString (str "type") type,
    writePropString (str "email") email,
    writePropString (str "pass_hash") passHash]

/-- The members of a response with a code and a message. -/
def codedMembers (type message : Bytes) (code : CodeEnum) :
    List (Bytes × WriterValue) :=
  [writePropString (str "type") type,
    writePropString (str "message") message,
    writePropSizeT (str "code") (toSizeT code.toInt)]

theorem RegisterRequest.writable_members (request : RegisterRequest) :
    ∀ member ∈ request.members, WritableMember member := by
  simp [RegisterRequest.members, writable_string]

theorem writable_credentialsMembers (type email passHash : Bytes) :
    ∀ member ∈ credentialsMembers type email passHash,
      WritableMember member := by
  simp [credentialsMembers, writable_string]

theorem writable_codedMembers
    (type message : Bytes) (code : CodeEnum) :
    ∀ member ∈ codedMembers type message code, WritableMember member := by
  have name : (str "code").length < 2 ^ 32 := by decide
  simp [codedMembers, writable_string, writable_sizeT name]

theorem RegisterRequest.fromJson_members
    {request : RegisterRequest} (short : request.Short) :
    RegisterRequest.fromJson (readBack request.members) = .ok request := by
  rcases short with ⟨nickname, email, passHash⟩
  rw [RegisterRequest.fromJson_eq_ok_iff]
  refine ⟨?_, ?_, ?_⟩
  · exact congrArg some (writeStr_of_short nickname)
  · exact congrArg some (writeStr_of_short email)
  · exact congrArg some (writeStr_of_short passHash)

theorem readCredentials_members
    {type email passHash : Bytes} (emailShort : email.length < 2 ^ 32)
    (hashShort : passHash.length < 2 ^ 32) :
    readCredentials (readBack (credentialsMembers type email passHash)) =
      .ok (email, passHash) := by
  rw [readCredentials_eq_ok_iff]
  constructor
  · exact congrArg some (writeStr_of_short emailShort)
  · exact congrArg some (writeStr_of_short hashShort)

theorem message_codedMembers (type message : Bytes) (code : CodeEnum) :
    (readBack (codedMembers type message code)).stringMember
        (str "message") =
      some (writeStr message) := rfl

theorem toCodeEnum_toNat {code : CodeEnum} (nonneg : 0 ≤ code.toInt) :
    toCodeEnum code.toInt.toNat = code := by
  have same : (code.toInt.toNat : Int) = code.toInt :=
    Int.toNat_of_nonneg nonneg
  rw [toCodeEnum, ← Int32.ofInt_eq_ofNat, same, Int32.ofInt_toInt]

theorem classify_int (value : Int) :
    Json.classify Json.getSizeT (some (.int value)) =
      if 0 ≤ value ∧ value < 2 ^ 64 then .value value.toNat
      else .wrongType := by
  simp only [Json.classify, Json.getSizeT]
  by_cases range : 0 ≤ value ∧ value < 2 ^ 64
  · simp only [if_pos range]
  · simp only [if_neg range]

/-- A code that is not negative is read back; a negative one cannot be. -/
theorem codeMember_codedMembers
    (type message : Bytes) (code other : CodeEnum) :
    CodeMember (readBack (codedMembers type message code)) other ↔
      0 ≤ code.toInt ∧ code = other := by
  have low := code.le_toInt
  have high := code.toInt_lt
  have written :
      (readBack (codedMembers type message code)).find
          (cStr (str "code")) =
        some (.int (toInt64 (toSizeT code.toInt))) := rfl
  rw [CodeMember, written, toInt64_toSizeT (by omega) (by omega),
    classify_int]
  by_cases nonneg : 0 ≤ code.toInt
  · have range : 0 ≤ code.toInt ∧ code.toInt < 2 ^ 64 := by omega
    rw [if_pos range]
    simp only [Json.Lookup.value.injEq, exists_eq_left',
      toCodeEnum_toNat nonneg, nonneg, true_and]
  · have outside : ¬ (0 ≤ code.toInt ∧ code.toInt < 2 ^ 64) := by omega
    rw [if_neg outside]
    simp [nonneg]

theorem getInt64_toInt64 (value : Nat) :
    getInt64 (.int (toInt64 value)) = .ok (toInt64 value) := by
  rw [getInt64, if_pos (toInt64_range value)]

theorem ConnectResponse.round_trip (inverts : rapidjson.Inverts) :
    RoundTrips (fun response : ConnectResponse => response.code < 2 ^ 64)
      (ConnectResponse.toJson rapidjson)
      (ConnectResponse.fromJsonText rapidjson) := by
  intro response previous bound
  have writable :
      ∀ member ∈
        [writePropString (str "type") ConnectResponse.type,
          writePropSizeT (str "code") response.code],
        WritableMember member := by
    have name : (str "code").length < 2 ^ 32 := by decide
    simp [writable_string, writable_sizeT name]
  have parsed := parse_writeObject inverts writable
  have found :
      (readBack
          [writePropString (str "type") ConnectResponse.type,
            writePropSizeT (str "code") response.code]).member
          (str "code") =
        .ok (.int (toInt64 response.code)) := rfl
  have assigned :
      (modify fun rsp : ConnectResponse =>
          { rsp with code := toSizeT (toInt64 response.code) } :
        UpdateM ConnectResponse Unit).run previous =
        .ok () response := by
    rw [toSizeT_toInt64 bound]
    rfl
  rw [ConnectResponse.fromJsonText, ConnectResponse.toJson, parsed]
  exact
    attempt_bind_eq_ok_iff.mpr
      ⟨_, found,
        attempt_bind_eq_ok_iff.mpr ⟨_, getInt64_toInt64 _, assigned⟩⟩

theorem RegisterRequest.round_trip (inverts : rapidjson.Inverts) :
    RoundTrips RegisterRequest.Short (RegisterRequest.toJson rapidjson)
      (RegisterRequest.fromJsonText rapidjson) := by
  intro request previous short
  refine
    (fromText_writeObject inverts request.writable_members _ previous).trans
      ?_
  exact
    RegisterRequest.fromJsonInto_eq_ok_iff.mpr
      (RegisterRequest.fromJson_members short)

theorem LoginRequest.round_trip (inverts : rapidjson.Inverts) :
    RoundTrips LoginRequest.Short (LoginRequest.toJson rapidjson)
      (LoginRequest.fromJsonText rapidjson) := by
  intro request previous short
  have writable :=
    writable_credentialsMembers LoginRequest.type request.email
      request.passHash
  refine (fromText_writeObject inverts writable _ previous).trans ?_
  rw [LoginRequest.fromJsonInto_eq_ok_iff, LoginRequest.fromJson,
    readCredentials_members short.1 short.2]
  rfl

theorem UnregisterRequest.round_trip (inverts : rapidjson.Inverts) :
    RoundTrips UnregisterRequest.Short
      (UnregisterRequest.toJson rapidjson)
      (UnregisterRequest.fromJsonText rapidjson) := by
  intro request previous short
  have writable :=
    writable_credentialsMembers UnregisterRequest.type request.email
      request.passHash
  refine (fromText_writeObject inverts writable _ previous).trans ?_
  rw [UnregisterRequest.fromJsonInto_eq_ok_iff, UnregisterRequest.fromJson,
    readCredentials_members short.1 short.2]
  rfl

/-- The round trip of the responses, whatever reads them. -/
theorem coded_round_trip
    {T : Type} {fromJson : Json → UpdateM T Unit} {message : T → Bytes}
    {code : T → CodeEnum}
    (returns :
      ∀ root previous response,
        (fromJson root).run previous = .ok () response ↔
          root.stringMember (str "message") = some (message response) ∧
            CodeMember root (code response))
    (inverts : rapidjson.Inverts) (type : Bytes) (response previous : T) :
    (fromText rapidjson fromJson
        (codedResponseJson rapidjson type (message response)
          (code response))).run previous =
        .ok () response ↔
      (message response).length < 2 ^ 32 ∧ 0 ≤ (code response).toInt := by
  have read :=
    fromText_writeObject inverts
      (writable_codedMembers type (message response) (code response))
      fromJson previous
  rw [show codedResponseJson rapidjson type (message response)
      (code response) = writeObject rapidjson (codedMembers ..) from rfl,
    read, returns, message_codedMembers, codeMember_codedMembers]
  simp only [Option.some.injEq, and_true]
  refine and_congr_left fun _ => ⟨?_, writeStr_of_short⟩
  intro same
  have taken : (writeStr (message response)).length ≤
      (message response).length % 2 ^ 32 :=
    List.length_take_le _ _
  have remainder : (message response).length % 2 ^ 32 < 2 ^ 32 :=
    Nat.mod_lt _ (by decide)
  rw [same] at taken
  omega

theorem RegisterResponse.round_trip_iff
    (inverts : rapidjson.Inverts) (response previous : RegisterResponse) :
    (RegisterResponse.fromJsonText rapidjson
        (response.toJson rapidjson)).run previous =
        .ok () response ↔
      response.message.length < 2 ^ 32 ∧ 0 ≤ response.code.toInt :=
  coded_round_trip
    (fun _ _ _ => RegisterResponse.fromJsonInto_eq_ok_iff) inverts _
    response previous

theorem LoginResponse.round_trip_iff
    (inverts : rapidjson.Inverts) (response previous : LoginResponse) :
    (LoginResponse.fromJsonText rapidjson
        (response.toJson rapidjson)).run previous =
        .ok () response ↔
      response.message.length < 2 ^ 32 ∧ 0 ≤ response.code.toInt :=
  coded_round_trip
    (fun _ _ _ => LoginResponse.fromJsonInto_eq_ok_iff) inverts _
    response previous

theorem UnregisterResponse.round_trip_iff
    (inverts : rapidjson.Inverts)
    (response previous : UnregisterResponse) :
    (UnregisterResponse.fromJsonText rapidjson
        (response.toJson rapidjson)).run previous =
        .ok () response ↔
      response.message.length < 2 ^ 32 ∧ 0 ≤ response.code.toInt :=
  coded_round_trip
    (fun _ _ _ => UnregisterResponse.fromJsonInto_eq_ok_iff) inverts _
    response previous

end RoundTrip

end PokerBackend.Api
