import PokerBackend.JsonReader
import PokerBackend.Net.Serving

/-!
# How much of a body is validated

A body is carried with its length up to `json::parse`, which hands it to the
parser as a C string.  So a body is trusted for what stands before its first
NUL, and no JSON document contains a NUL.
-/

namespace PokerBackend.Net.WholeBody

open PokerBackend.CString
open PokerBackend.Lib.Execution
open PokerBackend.Lib.JsonGrammar
open PokerBackend.Net.MesHandler
open PokerBackend.Net.Serving

/-- A text parses when it is a document up to its first NUL. -/
theorem parses_iff
    {rapidjson : Rapidjson} (accepts : rapidjson.AcceptsJson)
    (text : Bytes) :
    (∃ root, Json.parse rapidjson text = .ok root) ↔
      Document (cStr text) := by
  rw [← accepts _ (nul_not_mem_cStr text)]
  exact exists_congr fun root => Json.parse_eq_ok_iff

/-- `handle` acts on a message: it serves a request that it has read there. -/
def ActsOn (env : Env) (msg : Message) : Prop :=
  ∃ db sender server exchange final,
    (handle env db msg sender).run server = .ok (some exchange) final

/-- A text is read as a request of one of the three types. -/
def IsRequest (rapidjson : Rapidjson) (text : Bytes) : Prop :=
  ∃ req, decode rapidjson text = .ok (some req)

theorem actsOn_iff (env : Env) (msg : Message) :
    ActsOn env msg ↔ IsRequest env.rapidjson msg.body := by
  constructor
  · rintro ⟨db, sender, server, exchange, final, returned⟩
    rcases handle_ok_cases returned with ⟨_, none, _⟩ | ⟨req, read, _⟩
    · cases none
    · exact ⟨req, read⟩
  · rintro ⟨req, read⟩
    have quiet :
        (outcome env Server.start.table 0 req).statements.findSome?
            noFaults =
          none :=
      List.findSome?_eq_none_iff.mpr fun _ _ => rfl
    refine
      ⟨noFaults, 0, .start, (outcome env Server.start.table 0 req).exchange,
        served env .start 0 req, ?_⟩
    rw [handle_run, read]
    simp only [quiet]

/-- What follows the first NUL has no influence. -/
theorem isRequest_cStr (rapidjson : Rapidjson) (text : Bytes) :
    IsRequest rapidjson text ↔ IsRequest rapidjson (cStr text) := by
  have same : cStr (cStr text) = cStr text :=
    cStr_of_no_nul (nul_not_mem_cStr text)
  unfold IsRequest
  refine exists_congr fun req => ?_
  simp only [decode, bind_eq_ok_iff, Json.parse_eq_ok_iff, same]

theorem parses_of_isRequest
    {rapidjson : Rapidjson} {text : Bytes}
    (request : IsRequest rapidjson text) :
    ∃ root, Json.parse rapidjson text = .ok root := by
  rcases request with ⟨req, read⟩
  rw [decode, bind_eq_ok_iff] at read
  rcases read with ⟨root, parsed, _⟩
  exact ⟨root, parsed⟩

/--
A text that parses is one JSON document as a whole exactly if it has no NUL
or is no document up to there; and a body that `handle` acts on is one
exactly if it has no NUL or is no request up to there.
-/
theorem whole_body_validated_iff
    {env : Env} (accepts : env.rapidjson.AcceptsJson) :
    (∀ text : Bytes,
      ((∃ root, Json.parse env.rapidjson text = .ok root) →
          Document text) ↔
        (0 ∉ text ∨ ¬ Document (cStr text))) ∧
      ∀ msg : Message,
        (ActsOn env msg → Document msg.body) ↔
          (0 ∉ msg.body ∨ ¬ IsRequest env.rapidjson (cStr msg.body)) := by
  have noNul : ∀ text : Bytes, Document text → 0 ∉ text := by
    intro text document nul
    exact document.noZero 0 nul rfl
  constructor
  · intro text
    rw [parses_iff accepts]
    constructor
    · intro validated
      by_cases nul : 0 ∈ text
      · exact Or.inr fun document => noNul text (validated document) nul
      · exact Or.inl nul
    · rintro (clean | refused) document
      · rwa [cStr_of_no_nul clean] at document
      · exact absurd document refused
  · intro msg
    rw [actsOn_iff]
    constructor
    · intro validated
      by_cases nul : 0 ∈ msg.body
      · refine Or.inr fun request => ?_
        have whole := (isRequest_cStr env.rapidjson msg.body).mpr request
        exact noNul msg.body (validated whole) nul
      · exact Or.inl nul
    · rintro (clean | refused) request
      · have document :=
          (parses_iff accepts msg.body).mp (parses_of_isRequest request)
        rwa [cStr_of_no_nul clean] at document
      · exact
          absurd ((isRequest_cStr env.rapidjson msg.body).mp request)
            refused

/-- An environment whose parser accepts the JSON documents. -/
noncomputable def documentEnv : Env where
  rapidjson := Reference.documentParser
  hash := id
  dbPassSalt := str "salt"

/-- A text without a NUL parses, so it is a document as a whole. -/
theorem whole_body_validated_braces :
    (∃ root, Json.parse documentEnv.rapidjson (str "\x7b\x7d") = .ok root) ∧
      Document (str "\x7b\x7d") := by
  have accepts : documentEnv.rapidjson.AcceptsJson :=
    Reference.documentParser_acceptsJson
  have parses :
      ∃ root,
        Json.parse documentEnv.rapidjson (str "\x7b\x7d") = .ok root :=
    (parses_iff accepts _).mpr (Reference.document_prettyWriter [])
  have validated := (whole_body_validated_iff accepts).1 (str "\x7b\x7d")
  exact ⟨parses, validated.mpr (Or.inl (by decide)) parses⟩

/-- What follows the NUL is no part of any document, and it is accepted. -/
theorem accepted_past_nul :
    ¬ ∀ (rapidjson : Rapidjson) (text : Bytes),
      rapidjson.AcceptsJson →
        (∃ root, Json.parse rapidjson text = .ok root) →
          Document text := by
  intro claimed
  have accepts := Reference.documentParser_acceptsJson
  have braces : Document (cStr [123, 125, 0, 120]) :=
    Reference.document_prettyWriter []
  have whole :=
    claimed Reference.documentParser [123, 125, 0, 120] accepts
      ((parses_iff accepts _).mpr braces)
  exact whole.noZero 0 (by decide) rfl

end PokerBackend.Net.WholeBody
