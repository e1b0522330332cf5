import PokerBackend.Codec
import PokerBackend.Net.WholeBody

/-!
# From a request value to its handler

What a type of the api writes it also reads, and a request that is sent as a
message is decoded as what it was and reaches the handler of its type.  Both
rest on rapidjson reading back what it has written.
-/

namespace PokerBackend.Net.Dispatch

open PokerBackend.Api
open PokerBackend.CString
open PokerBackend.Lib.Execution
open PokerBackend.Net.MesHandler
open PokerBackend.Net.Serving
open PokerBackend.Net.WholeBody

/-! ## The seven types -/

/-- The message is a string, and the code is one of the enumerators. -/
def Proper
    (enumerators : List CodeEnum) (message : Bytes) (code : CodeEnum) :
    Prop :=
  message.length < 2 ^ 32 ∧ code ∈ enumerators

/-- Every type of the api reads what it writes, into any object. -/
structure CodecRoundTrips (rapidjson : Rapidjson) : Prop where
  connectResponse :
    RoundTrips (fun response : ConnectResponse => response.code < 2 ^ 64)
      (ConnectResponse.toJson rapidjson)
      (ConnectResponse.fromJsonText rapidjson)
  registerRequest :
    RoundTrips RegisterRequest.Short (RegisterRequest.toJson rapidjson)
      (RegisterRequest.fromJsonText rapidjson)
  registerResponse :
    RoundTrips
      (fun response : RegisterResponse =>
        Proper RegisterResponse.enumerators response.message response.code)
      (RegisterResponse.toJson rapidjson)
      (RegisterResponse.fromJsonText rapidjson)
  loginRequest :
    RoundTrips LoginRequest.Short (LoginRequest.toJson rapidjson)
      (LoginRequest.fromJsonText rapidjson)
  loginResponse :
    RoundTrips
      (fun response : LoginResponse =>
        Proper LoginResponse.enumerators response.message response.code)
      (LoginResponse.toJson rapidjson)
      (LoginResponse.fromJsonText rapidjson)
  unregisterRequest :
    RoundTrips UnregisterRequest.Short
      (UnregisterRequest.toJson rapidjson)
      (UnregisterRequest.fromJsonText rapidjson)
  unregisterResponse :
    RoundTrips
      (fun response : UnregisterResponse =>
        Proper UnregisterResponse.enumerators response.message
          response.code)
      (UnregisterResponse.toJson rapidjson)
      (UnregisterResponse.fromJsonText rapidjson)

/-- No enumerator is negative. -/
theorem enumerators_nonneg :
    (∀ code ∈ RegisterResponse.enumerators, 0 ≤ code.toInt) ∧
      (∀ code ∈ LoginResponse.enumerators, 0 ≤ code.toInt) ∧
      ∀ code ∈ UnregisterResponse.enumerators, 0 ≤ code.toInt := by
  simp only [RegisterResponse.enumerators, LoginResponse.enumerators,
    UnregisterResponse.enumerators, List.forall_mem_cons,
    List.not_mem_nil, false_implies, implies_true, and_true]
  decide

theorem codec_round_trips
    {rapidjson : Rapidjson} (inverts : rapidjson.Inverts) :
    CodecRoundTrips rapidjson where
  connectResponse := ConnectResponse.round_trip inverts
  registerRequest := RegisterRequest.round_trip inverts
  registerResponse := by
    rintro response previous ⟨short, enumerator⟩
    exact
      (RegisterResponse.round_trip_iff inverts response previous).mpr
        ⟨short, enumerators_nonneg.1 _ enumerator⟩
  loginRequest := LoginRequest.round_trip inverts
  loginResponse := by
    rintro response previous ⟨short, enumerator⟩
    exact
      (LoginResponse.round_trip_iff inverts response previous).mpr
        ⟨short, enumerators_nonneg.2.1 _ enumerator⟩
  unregisterRequest := UnregisterRequest.round_trip inverts
  unregisterResponse := by
    rintro response previous ⟨short, enumerator⟩
    exact
      (UnregisterResponse.round_trip_iff inverts response previous).mpr
        ⟨short, enumerators_nonneg.2.2 _ enumerator⟩

/-! ## Dispatch -/

/-- The text of a request. -/
def toJson (rapidjson : Rapidjson) : Request → Bytes
  | .register req => req.toJson rapidjson
  | .login req => req.toJson rapidjson
  | .unregister req => req.toJson rapidjson

/-- The strings of a request are shorter than 2^32. -/
def Short : Request → Prop
  | .register req => req.Short
  | .login req => req.Short
  | .unregister req => req.Short

section Decoding

variable {rapidjson : Rapidjson}

/-- A written text is decoded by its type member. -/
theorem decode_writeObject
    (inverts : rapidjson.Inverts) {members : List (Bytes × WriterValue)}
    (writable : ∀ member ∈ members, WritableMember member) {type : Bytes}
    (typed :
      (readBack members).stringMember (str "type") = some type) :
    decode rapidjson (writeObject rapidjson members) =
      if type = RegisterRequest.type then
        (RegisterRequest.fromJson (readBack members)).map
          fun req => some (.register req)
      else if type = LoginRequest.type then
        (LoginRequest.fromJson (readBack members)).map
          fun req => some (.login req)
      else if type = UnregisterRequest.type then
        (UnregisterRequest.fromJson (readBack members)).map
          fun req => some (.unregister req)
      else .ok none := by
  have parsed :
      Json.parse rapidjson (writeObject rapidjson members) =
        .ok (readBack members) :=
    Json.parse_eq_ok_iff.mpr (parse_writeObject inverts writable)
  have read : (readBack members).valueAsString (str "type") = .ok type :=
    Json.valueAsString_eq_ok_iff.mpr typed
  rw [decode, parsed]
  simp only [bind, Except.bind, read]
  split
  · cases RegisterRequest.fromJson (readBack members) <;> rfl
  split
  · cases LoginRequest.fromJson (readBack members) <;> rfl
  split
  · cases UnregisterRequest.fromJson (readBack members) <;> rfl
  · rfl

theorem type_credentialsMembers
    {type : Bytes} (short : type.length < 2 ^ 32)
    (email passHash : Bytes) :
    (readBack (credentialsMembers type email passHash)).stringMember
        (str "type") =
      some type :=
  congrArg some (writeStr_of_short short)

/-- The text of a request is decoded as the request. -/
theorem decode_toJson
    (inverts : rapidjson.Inverts) {req : Request} (short : Short req) :
    decode rapidjson (toJson rapidjson req) = .ok (some req) := by
  cases req with
  | register req =>
      have typed :
          (readBack req.members).stringMember (str "type") =
            some RegisterRequest.type := rfl
      refine
        (decode_writeObject inverts req.writable_members typed).trans ?_
      rw [if_pos rfl, RegisterRequest.fromJson_members short]
      rfl
  | login req =>
      refine
        (decode_writeObject inverts (writable_credentialsMembers _ _ _)
          (type_credentialsMembers (by decide) req.email
            req.passHash)).trans ?_
      rw [if_neg (by decide), if_pos rfl, LoginRequest.fromJson,
        readCredentials_members short.1 short.2]
      rfl
  | unregister req =>
      refine
        (decode_writeObject inverts (writable_credentialsMembers _ _ _)
          (type_credentialsMembers (by decide) req.email
            req.passHash)).trans ?_
      rw [if_neg (by decide), if_neg (by decide), if_pos rfl,
        UnregisterRequest.fromJson,
        readCredentials_members short.1 short.2]
      rfl

end Decoding

/-- What `handle` is to do on a message with a request in it. -/
def Dispatches (env : Env) (req : Request) (msg : Message) : Prop :=
  ∀ db sender server,
    (handle env db msg sender).run server =
      EStateM.run
        (do
          let exchange ← perform env db sender req
          return some exchange)
        server

/--
The api types read back what they write, whatever they held before; and a
request whose text fits into a message is handled by the handler of its own
type, which decodes exactly this request.
-/
theorem codec_and_dispatch
    {env : Env} (inverts : env.rapidjson.Inverts) :
    CodecRoundTrips env.rapidjson ∧
      ∀ req : Request,
        Short req →
          (toJson env.rapidjson req).length ≤ maxBodyLength →
            ∃ msg,
              Message.ofString (toJson env.rapidjson req) = .ok msg ∧
                Dispatches env req msg := by
  constructor
  · exact codec_round_trips inverts
  · intro req short fits
    have carries := (Message.carrying_spec fits).2
    refine ⟨_, Message.ofString_eq fits, ?_⟩
    intro db sender server
    rw [handle_eq, carries, decode_toJson inverts short]

/-- The email has a NUL, a quote, a backslash and a byte above 127. -/
theorem codec_and_dispatch_escaped :
    CodecRoundTrips documentEnv.rapidjson ∧
      ∃ msg,
        Message.ofString
            (toJson documentEnv.rapidjson
              (.login ⟨[0, 34, 92, 200], str "hash"⟩)) =
            .ok msg ∧
          Dispatches documentEnv (.login ⟨[0, 34, 92, 200], str "hash"⟩)
            msg := by
  have both := @codec_and_dispatch documentEnv Reference.documentParser_inverts
  have short : Short (.login ⟨[0, 34, 92, 200], str "hash"⟩) :=
    ⟨by decide, by decide⟩
  have fits :
      (toJson documentEnv.rapidjson
        (.login ⟨[0, 34, 92, 200], str "hash"⟩)).length ≤
        maxBodyLength :=
    (writeObject_length_le _ _).trans (by decide)
  exact ⟨both.1, both.2 _ short fits⟩

end PokerBackend.Net.Dispatch
