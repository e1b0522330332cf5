import PokerBackend.Codec
import PokerBackend.JsonReader

/-!
# Codes that responses are decoded with

A code is read as a `size_t` and cast to an enumeration over `int`, so it is
taken modulo 2^32; and it is written through `Int64`, so a code that has
become negative is not read again.  Up to 2^31 neither happens.
-/

namespace PokerBackend.Api

/--
Decoding an object with the code `value`: the decoded response has that very
code, and it is decoded again from its own `to_json`.
-/
def DecodesFaithfully {T : Type}
    (code : T → CodeEnum) (fromJson : Json → UpdateM T Unit)
    (toJson : T → Bytes) (fromJsonText : Bytes → UpdateM T Unit)
    (root : Json) (value : Nat) : Prop :=
  ∀ previous response,
    (fromJson root).run previous = .ok () response →
      (code response).toInt = value ∧
        ∀ again,
          (fromJsonText (toJson response)).run again = .ok () response

theorem toCodeEnum_toInt_iff (value : Nat) :
    (toCodeEnum value).toInt = value ↔ value < 2 ^ 31 := by
  constructor
  · intro same
    have bound := (toCodeEnum value).toInt_lt
    omega
  · exact Int32.toInt_ofNat_of_lt

/-- A code of the root is what it is cast to. -/
theorem codeMember_iff
    {root : Json} {value : Nat} (bound : value < 2 ^ 64)
    (found : root.find (str "code") = some (.int value))
    (code : CodeEnum) :
    CodeMember root code ↔ toCodeEnum value = code := by
  have range : 0 ≤ (value : Int) ∧ (value : Int) < 2 ^ 64 := by omega
  have name : CString.cStr (str "code") = str "code" := by decide
  rw [CodeMember, name, found, classify_int, if_pos range,
    Int.toNat_natCast]
  simp

/-- What decides about the three responses is the same for all of them. -/
theorem decodesFaithfully_iff {T : Type}
    {code : T → CodeEnum} {message : T → Bytes}
    {fromJson : Json → UpdateM T Unit} {toJson : T → Bytes}
    {fromJsonText : Bytes → UpdateM T Unit}
    (returns :
      ∀ root previous response,
        (fromJson root).run previous = .ok () response ↔
          root.stringMember (str "message") = some (message response) ∧
            CodeMember root (code response))
    (again :
      ∀ response previous,
        (fromJsonText (toJson response)).run previous = .ok () response ↔
          (message response).length < 2 ^ 32 ∧ 0 ≤ (code response).toInt)
    (build : CodeEnum → Bytes → T)
    (built : ∀ number text,
      code (build number text) = number ∧ message (build number text) = text)
    {root : Json} {text : Bytes} {value : Nat} (bound : value < 2 ^ 64)
    (hasMessage : root.stringMember (str "message") = some text)
    (hasCode : root.find (str "code") = some (.int value)) :
    DecodesFaithfully code fromJson toJson fromJsonText root value ↔
      value < 2 ^ 31 ∧ text.length < 2 ^ 32 := by
  constructor
  · intro faithful
    have parts := built (toCodeEnum value) text
    have decoded :
        ∀ previous,
          (fromJson root).run previous =
            .ok () (build (toCodeEnum value) text) := by
      intro previous
      rw [returns, parts.1, parts.2]
      exact ⟨hasMessage, (codeMember_iff bound hasCode _).mpr rfl⟩
    have start := build 0 []
    rcases faithful start _ (decoded start) with ⟨same, reads⟩
    rw [parts.1] at same
    have short := ((again _ start).mp (reads start)).1
    rw [parts.2] at short
    exact ⟨(toCodeEnum_toInt_iff value).mp same, short⟩
  · rintro ⟨small, short⟩ previous response decoded
    rw [returns, hasMessage, codeMember_iff bound hasCode] at decoded
    have code : (toCodeEnum value).toInt = value :=
      (toCodeEnum_toInt_iff value).mpr small
    rw [decoded.2] at code
    have message := Option.some.inj decoded.1
    refine ⟨code, fun other => (again response other).mpr ⟨?_, ?_⟩⟩
    · rw [← message]
      exact short
    · rw [code]
      omega

/--
An object with a string message and a code below 2^64 is decoded faithfully,
by each of the three responses, exactly if the code is below 2^31.  (The
message is written with a 32-bit length; no string of rapidjson is longer.)
-/
theorem response_codes_faithful_iff
    {rapidjson : Rapidjson} (inverts : rapidjson.Inverts)
    {root : Json} {message : Bytes} {value : Nat} (bound : value < 2 ^ 64)
    (hasMessage : root.stringMember (str "message") = some message)
    (hasCode : root.find (str "code") = some (.int value)) :
    (DecodesFaithfully RegisterResponse.code
        RegisterResponse.fromJsonInto (RegisterResponse.toJson rapidjson)
        (RegisterResponse.fromJsonText rapidjson) root value ↔
      value < 2 ^ 31 ∧ message.length < 2 ^ 32) ∧
      (DecodesFaithfully LoginResponse.code
          LoginResponse.fromJsonInto (LoginResponse.toJson rapidjson)
          (LoginResponse.fromJsonText rapidjson) root value ↔
        value < 2 ^ 31 ∧ message.length < 2 ^ 32) ∧
        (DecodesFaithfully UnregisterResponse.code
            UnregisterResponse.fromJsonInto
            (UnregisterResponse.toJson rapidjson)
            (UnregisterResponse.fromJsonText rapidjson) root value ↔
          value < 2 ^ 31 ∧ message.length < 2 ^ 32) := by
  refine ⟨?_, ?_, ?_⟩
  · exact
      decodesFaithfully_iff
        (fun _ _ _ => RegisterResponse.fromJsonInto_eq_ok_iff)
        (RegisterResponse.round_trip_iff inverts) RegisterResponse.mk
        (fun _ _ => ⟨rfl, rfl⟩) bound hasMessage hasCode
  · exact
      decodesFaithfully_iff
        (fun _ _ _ => LoginResponse.fromJsonInto_eq_ok_iff)
        (LoginResponse.round_trip_iff inverts) LoginResponse.mk
        (fun _ _ => ⟨rfl, rfl⟩) bound hasMessage hasCode
  · exact
      decodesFaithfully_iff
        (fun _ _ _ => UnregisterResponse.fromJsonInto_eq_ok_iff)
        (UnregisterResponse.round_trip_iff inverts) UnregisterResponse.mk
        (fun _ _ => ⟨rfl, rfl⟩) bound hasMessage hasCode

/-- A response object with the given code. -/
def codeObject (value : Nat) : Json :=
  .object [(str "message", .string (str "done")), (str "code", .int value)]

/-- The code of `NAME_TAKEN`. -/
theorem response_codes_faithful_one :
    DecodesFaithfully RegisterResponse.code RegisterResponse.fromJsonInto
      (RegisterResponse.toJson Reference.documentParser)
      (RegisterResponse.fromJsonText Reference.documentParser)
      (codeObject 1) 1 :=
  (response_codes_faithful_iff Reference.documentParser_inverts
    (by decide) rfl rfl).1.mpr (by decide)

/-- The code 2^32 is decoded as `OK`. -/
theorem large_code_read_as_OK :
    ¬ ∀ (root : Json) (message : Bytes) (value : Nat),
      root.stringMember (str "message") = some message →
        root.find (str "code") = some (.int value) →
          value < 2 ^ 64 →
            DecodesFaithfully RegisterResponse.code
              RegisterResponse.fromJsonInto
              (RegisterResponse.toJson Reference.documentParser)
              (RegisterResponse.fromJsonText Reference.documentParser)
              root value := by
  intro claimed
  have faithful :=
    claimed (codeObject (2 ^ 32)) (str "done") (2 ^ 32) rfl rfl (by decide)
  have decoded :
      (RegisterResponse.fromJsonInto (codeObject (2 ^ 32))).run {} =
        .ok () ⟨RegisterResponse.OK, str "done"⟩ := by
    rw [RegisterResponse.fromJsonInto_eq_ok_iff]
    refine ⟨rfl, ?_⟩
    rw [codeMember_iff (by decide) rfl]
    decide
  exact absurd (faithful _ _ decoded).1 (by decide)

end PokerBackend.Api
