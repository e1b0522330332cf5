import PokerBackend.Net.Dispatch

/-!
# The console program: from a line to a message

`client/main.cpp` reads lines.  A line with `/r` in it is a registration, one
with `/l` in it a login; its fields are separated by tabs and semicolons, and
the password is hashed before it is sent.  Any other line is sent as it
stands.  `words.at` throws where a field is missing, and nothing catches that.
A text of more than 2044 bytes is copied past the end of the message; the
source leaves undefined what the program does then, and the model follows it
no further.
-/

namespace PokerBackend.Console

open PokerBackend.Api
open PokerBackend.Lib.Execution
open PokerBackend.Net
open PokerBackend.Net.Dispatch
open PokerBackend.Net.Serving
open PokerBackend.Net.WholeBody

/-! ## `hash` -/

/-- `SHA512` of OpenSSL. -/
structure Sha512 where
  digest : Bytes → Bytes
  digest_length : ∀ text, (digest text).length = 64

/-- The upper case digit of a nibble. -/
def hexDigit (nibble : Nat) : UInt8 :=
  if nibble < 10 then (48 + nibble).toUInt8 else (55 + nibble).toUInt8

/-- `boost::algorithm::hex`: the high nibble of each byte comes first. -/
def hex (bytes : Bytes) : Bytes :=
  bytes.flatMap fun byte =>
    [hexDigit (byte.toNat / 16), hexDigit (byte.toNat % 16)]

/-- `hash(orig)` -/
def hash (sha512 : Sha512) (orig : Bytes) : Bytes :=
  hex (sha512.digest orig)

theorem hash_length (sha512 : Sha512) (orig : Bytes) :
    (hash sha512 orig).length = 128 := by
  simp [hash, hex, List.length_flatMap, sha512.digest_length]

example : hex [0, 175, 255] = str "00AFFF" := by decide

/-! ## The fields of a line -/

/-- Why the model follows the program no further. -/
inductive Stop where
  /-- The `std::out_of_range` of `words.at`, which ends the program. -/
  | outOfRange
  /--
  `operator=` has written past `data_`.  This does not end the program, but
  nothing is said about what it does from there.
  -/
  | overrun
deriving DecidableEq

/-- `boost::is_any_of("\t;")` -/
def separator (byte : UInt8) : Bool :=
  byte = 9 || byte = 59

/-- `boost::split(words, line, ...)`; neighbouring separators are kept. -/
def split (line : Bytes) : List Bytes :=
  line.splitOnP separator

/-- `words.at(index)` -/
def wordAt (words : List Bytes) (index : Nat) : Except Stop Bytes :=
  match words[index]? with
  | some word => .ok word
  | none => .error .outOfRange

/-- `line.find(text) != std::string::npos` -/
def contains (line text : Bytes) : Bool :=
  text <:+: line

/-! ## What is sent -/

/-- `message msg = text;` -/
def message (text : Bytes) : Except Stop Message :=
  (Message.ofString text).mapError fun _ => .overrun

/-- The request of `send_reg_request(c, line)`. -/
def regRequest (sha512 : Sha512) (line : Bytes) :
    Except Stop RegisterRequest := do
  let words := split line
  let nickname ← wordAt words 1
  let email ← wordAt words 2
  let password ← wordAt words 3
  return { nickname, email, passHash := hash sha512 password }

/-- The request of `send_login_request(c, line)`. -/
def loginRequest (sha512 : Sha512) (line : Bytes) :
    Except Stop LoginRequest := do
  let words := split line
  let email ← wordAt words 1
  let password ← wordAt words 2
  return { email, passHash := hash sha512 password }

/-- The request that the loop of `main` builds from a line, if it builds one. -/
def command (sha512 : Sha512) (line : Bytes) :
    Except Stop (Option Request) :=
  if contains line (str "/r") then do
    let rq ← regRequest sha512 line
    return some (.register rq)
  else if contains line (str "/l") then do
    let rq ← loginRequest sha512 line
    return some (.login rq)
  else return none

/-- The text which the line is sent as. -/
def sentText (rapidjson : Rapidjson) (line : Bytes) :
    Option Request → Bytes
  | some rq => toJson rapidjson rq
  | none => line

/--
The body of the loop up to `c.write(msg)`: the message, and the request whose
response is then waited for.
-/
def interpret (rapidjson : Rapidjson) (sha512 : Sha512) (line : Bytes) :
    Except Stop (Message × Option Request) := do
  let rq ← command sha512 line
  let msg ← message (sentText rapidjson line rq)
  return (msg, rq)

/-! ## The fields that a line has -/

/-- There is one field more than there are separators. -/
theorem split_length (line : Bytes) :
    (split line).length = line.countP separator + 1 := by
  induction line with
  | nil => rfl
  | cons byte line induction =>
      rw [split, List.splitOnP_cons_eq_if_modifyHead, ← split,
        List.countP_cons]
      split
      · rw [List.length_cons, induction]
      · rw [List.length_modifyHead, induction]

/-- No field is longer than its line. -/
theorem length_le_of_mem_split
    {line word : Bytes} (member : word ∈ split line) :
    word.length ≤ line.length := by
  induction line generalizing word with
  | nil =>
      obtain rfl : word = [] := List.mem_singleton.mp member
      exact Nat.le_refl _
  | cons byte line induction =>
      rw [split, List.splitOnP_cons_eq_if_modifyHead, ← split] at member
      split at member
      · rcases List.mem_cons.mp member with rfl | later
        · exact Nat.zero_le _
        · exact Nat.le_succ_of_le (induction later)
      · rcases List.exists_cons_of_ne_nil
          (List.splitOnP_ne_nil separator line) with ⟨first, rest, fields⟩
        rw [split, fields, List.modifyHead_cons] at member
        rw [split, fields] at induction
        rcases List.mem_cons.mp member with rfl | later
        · exact Nat.succ_le_succ (induction List.mem_cons_self)
        · exact Nat.le_succ_of_le (induction (List.mem_cons_of_mem _ later))

section Fields

variable (sha512 : Sha512) {line : Bytes}

/-- A registration takes the second, third and fourth field. -/
theorem regRequest_eq (line : Bytes) :
    regRequest sha512 line =
      match split line with
      | _ :: nickname :: email :: password :: _ =>
          .ok ⟨nickname, email, hash sha512 password⟩
      | _ => .error .outOfRange := by
  rw [regRequest]
  rcases split line with
    _ | ⟨_, _ | ⟨_, _ | ⟨_, _ | ⟨_, _⟩⟩⟩⟩ <;> rfl

/-- A login takes the second and third field. -/
theorem loginRequest_eq (line : Bytes) :
    loginRequest sha512 line =
      match split line with
      | _ :: email :: password :: _ =>
          .ok ⟨email, hash sha512 password⟩
      | _ => .error .outOfRange := by
  rw [loginRequest]
  rcases split line with _ | ⟨_, _ | ⟨_, _ | ⟨_, _⟩⟩⟩ <;> rfl

variable {sha512}

theorem regRequest_eq_error_iff {why : Stop} :
    regRequest sha512 line = .error why ↔
      line.countP separator < 3 ∧ why = .outOfRange := by
  have fields := split_length line
  rw [regRequest_eq]
  generalize split line = words at fields ⊢
  rcases words with _ | ⟨_, _ | ⟨_, _ | ⟨_, _ | ⟨_, words⟩⟩⟩⟩
  case cons.cons.cons.cons =>
    simp only [List.length_cons] at fields
    simp only [reduceCtorEq, false_iff]
    omega
  all_goals
    simp only [List.length_cons, List.length_nil] at fields
    simp only [Except.error.injEq, eq_comm, iff_and_self]
    omega

theorem loginRequest_eq_error_iff {why : Stop} :
    loginRequest sha512 line = .error why ↔
      line.countP separator < 2 ∧ why = .outOfRange := by
  have fields := split_length line
  rw [loginRequest_eq]
  generalize split line = words at fields ⊢
  rcases words with _ | ⟨_, _ | ⟨_, _ | ⟨_, words⟩⟩⟩
  case cons.cons.cons =>
    simp only [List.length_cons] at fields
    simp only [reduceCtorEq, false_iff]
    omega
  all_goals
    simp only [List.length_cons, List.length_nil] at fields
    simp only [Except.error.injEq, eq_comm, iff_and_self]
    omega

/-- The line asks for a request and lacks one of its fields. -/
def Malformed (line : Bytes) : Prop :=
  contains line (str "/r") = true ∧ line.countP separator < 3 ∨
    contains line (str "/r") = false ∧ contains line (str "/l") = true ∧
      line.countP separator < 2

/-- A field is missing exactly where `words.at` throws. -/
theorem command_eq_error_iff {why : Stop} :
    command sha512 line = .error why ↔
      Malformed line ∧ why = .outOfRange := by
  rw [command, Malformed]
  cases contains line (str "/r") with
  | true =>
      simp only [if_true, bind_pure_eq_error_iff, regRequest_eq_error_iff,
        true_and, Bool.true_eq_false, false_and, or_false]
  | false =>
      cases contains line (str "/l") with
      | true =>
          simp only [if_true, Bool.false_eq_true, if_false,
            bind_pure_eq_error_iff, loginRequest_eq_error_iff, true_and,
            false_and, false_or]
      | false =>
          simp [pure, Except.pure]

/-- The fields of a request which was built are no longer than the line. -/
theorem command_short
    {rq : Request} (short : line.length < 2 ^ 32)
    (built : command sha512 line = .ok (some rq)) :
    Short rq := by
  have hashed : ∀ password, (hash sha512 password).length < 2 ^ 32 := by
    intro password
    rw [hash_length]
    decide
  have bound : ∀ word ∈ split line, word.length < 2 ^ 32 := by
    intro word member
    exact Nat.lt_of_le_of_lt (length_le_of_mem_split member) short
  rw [command, regRequest_eq, loginRequest_eq] at built
  generalize split line = words at bound built
  split at built
  · rcases words with _ | ⟨_, _ | ⟨nickname, _ | ⟨email, _ | ⟨_, words⟩⟩⟩⟩
    case cons.cons.cons.cons =>
      cases built
      exact ⟨bound _ (by simp), bound _ (by simp), hashed _⟩
    all_goals cases built
  split at built
  · rcases words with _ | ⟨_, _ | ⟨email, _ | ⟨_, words⟩⟩⟩
    case cons.cons.cons =>
      cases built
      exact ⟨bound _ (by simp), hashed _⟩
    all_goals cases built
  · cases built

end Fields

/-! ## What is made of a line -/

section Interpret

variable {rapidjson : Rapidjson} {sha512 : Sha512} {line : Bytes}

theorem message_eq_ok_iff {text : Bytes} {msg : Message} :
    message text = .ok msg ↔ Message.ofString text = .ok msg :=
  mapError_eq_ok_iff

theorem message_eq_error_iff {text : Bytes} {why : Stop} :
    message text = .error why ↔
      maxBodyLength < text.length ∧ why = .overrun := by
  rw [message, mapError_eq_error_iff]
  by_cases fits : text.length ≤ maxBodyLength
  · simp [Message.ofString_eq fits, fits]
  · have overflow : Message.ofString text = .error .bufferOverflow :=
      dif_neg (by omega)
    simp [overflow, Nat.lt_of_not_le fits, eq_comm]

theorem interpret_eq_ok_iff {msg : Message} {rq : Option Request} :
    interpret rapidjson sha512 line = .ok (msg, rq) ↔
      command sha512 line = .ok rq ∧
        Message.ofString (sentText rapidjson line rq) = .ok msg := by
  simp only [interpret, bind_eq_ok_iff, pure_eq_ok_iff,
    message_eq_ok_iff, Prod.mk.injEq]
  constructor
  · rintro ⟨rq, built, msg, assigned, rfl, rfl⟩
    exact ⟨built, assigned⟩
  · rintro ⟨built, assigned⟩
    exact ⟨rq, built, msg, assigned, rfl, rfl⟩

/-- A malformed line ends the program; too long a text overruns its message. -/
theorem interpret_eq_error_iff {why : Stop} :
    interpret rapidjson sha512 line = .error why ↔
      Malformed line ∧ why = .outOfRange ∨
        why = .overrun ∧
          ∃ rq,
            command sha512 line = .ok rq ∧
              maxBodyLength < (sentText rapidjson line rq).length := by
  rw [interpret, bind_eq_error_iff]
  simp only [bind_pure_eq_error_iff, command_eq_error_iff,
    message_eq_error_iff]
  apply or_congr Iff.rfl
  constructor
  · rintro ⟨rq, built, long, isOverflow⟩
    exact ⟨isOverflow, rq, built, long⟩
  · rintro ⟨isOverflow, rq, built, long⟩
    exact ⟨rq, built, long, isOverflow⟩

/-- What a line is sent as is an encoded message with that text. -/
theorem interpret_spec
    {msg : Message} {rq : Option Request}
    (sent : interpret rapidjson sha512 line = .ok (msg, rq)) :
    msg.Encoded ∧ msg.body = sentText rapidjson line rq := by
  have spec := Message.assign_spec (interpret_eq_ok_iff.mp sent).2
  exact ⟨spec.1, spec.2.1⟩

/-- The server decodes a request as the one the console has built. -/
theorem decode_of_interpret
    (inverts : rapidjson.Inverts) (short : line.length < 2 ^ 32)
    {msg : Message} {rq : Request}
    (sent : interpret rapidjson sha512 line = .ok (msg, some rq)) :
    decode rapidjson msg.body = .ok (some rq) := by
  rw [(interpret_spec sent).2]
  exact
    decode_toJson inverts
      (command_short short (interpret_eq_ok_iff.mp sent).1)

end Interpret

/-! ## Typed commands -/

/-- A line of fields, each but the first after its separator. -/
def typed (first : Bytes) (fields : List (UInt8 × Bytes)) : Bytes :=
  first ++ fields.flatMap fun field => field.1 :: field.2

/-- There is no separator in the field. -/
def Free (field : Bytes) : Prop :=
  ∀ byte ∈ field, separator byte = false

instance (field : Bytes) : Decidable (Free field) :=
  List.decidableBAll (fun byte => separator byte = false) field

theorem typed_length (first : Bytes) (fields : List (UInt8 × Bytes)) :
    (typed first fields).length =
      first.length +
        (fields.map fun field => field.2.length + 1).sum := by
  rw [typed, List.length_append, List.length_flatMap]
  rfl

theorem split_typed
    {first : Bytes} {fields : List (UInt8 × Bytes)} (free : Free first)
    (separated :
      ∀ field ∈ fields, separator field.1 = true ∧ Free field.2) :
    split (typed first fields) = first :: fields.map Prod.snd := by
  induction fields generalizing first with
  | nil =>
      rw [typed, List.flatMap_nil, List.append_nil]
      exact List.splitOnP_eq_singleton free
  | cons field fields induction =>
      rcases separated field List.mem_cons_self with ⟨isSeparator, next⟩
      have rest :=
        induction next fun other member =>
          separated other (List.mem_cons_of_mem _ member)
      rw [typed, List.flatMap_cons, List.cons_append]
      rw [split, List.splitOnP_append_cons_of_forall_mem free _
        isSeparator]
      exact congrArg (first :: ·) rest

section Typed

variable {rapidjson : Rapidjson} {sha512 : Sha512}

/--
A line is sent as a request whose text fits into a message; a longer text is
written past the end of the message, and nothing is said about what is sent.
-/
structure Sends
    (rapidjson : Rapidjson) (sha512 : Sha512) (line : Bytes)
    (rq : Request) : Prop where
  received :
    (toJson rapidjson rq).length ≤ maxBodyLength →
      ∃ msg,
        interpret rapidjson sha512 line = .ok (msg, some rq) ∧
          decode rapidjson msg.body = .ok (some rq)
  overrun :
    maxBodyLength < (toJson rapidjson rq).length →
      interpret rapidjson sha512 line = .error .overrun

theorem sends_of_command
    (inverts : rapidjson.Inverts) {line : Bytes}
    (short : line.length < 2 ^ 32) {rq : Request}
    (built : command sha512 line = .ok (some rq)) :
    Sends rapidjson sha512 line rq where
  received := by
    intro fits
    have sent :=
      interpret_eq_ok_iff.mpr ⟨built, Message.ofString_eq fits⟩
    exact ⟨_, sent, decode_of_interpret inverts short sent⟩
  overrun := by
    intro long
    apply interpret_eq_error_iff.mpr
    exact Or.inr ⟨rfl, some rq, built, long⟩

section Commands

variable
    {nickname email password : Bytes} {first second third : UInt8}
    (named : Free nickname) (addressed : Free email)
    (guarded : Free password)
    (firstSeparates : separator first = true)
    (secondSeparates : separator second = true)
    (thirdSeparates : separator third = true)

theorem contains_typed (text : Bytes) (fields : List (UInt8 × Bytes)) :
    contains (typed text fields) text = true :=
  decide_eq_true ⟨[], _, rfl⟩

include named addressed guarded firstSeparates secondSeparates
  thirdSeparates in
theorem command_typed_register (sha512 : Sha512) :
    command sha512
        (typed (str "/r")
          [(first, nickname), (second, email), (third, password)]) =
      .ok (some (.register ⟨nickname, email, hash sha512 password⟩)) := by
  have fields :
      split
          (typed (str "/r")
            [(first, nickname), (second, email), (third, password)]) =
        [str "/r", nickname, email, password] := by
    apply split_typed (by decide)
    simp [firstSeparates, secondSeparates, thirdSeparates, named,
      addressed, guarded]
  rw [command, if_pos (contains_typed _ _), regRequest_eq, fields]
  rfl

include addressed guarded firstSeparates secondSeparates in
theorem command_typed_login (sha512 : Sha512) :
    command sha512
        (typed (str "/l") [(first, email), (second, password)]) =
      if contains
          (typed (str "/l") [(first, email), (second, password)])
          (str "/r") = true then
        .error .outOfRange
      else .ok (some (.login ⟨email, hash sha512 password⟩)) := by
  have fields :
      split (typed (str "/l") [(first, email), (second, password)]) =
        [str "/l", email, password] := by
    apply split_typed (by decide)
    simp [firstSeparates, secondSeparates, addressed, guarded]
  rw [command, regRequest_eq, loginRequest_eq, fields]
  split
  · rfl
  · rw [if_pos (contains_typed _ _)]
    rfl

end Commands

/--
What a player types arrives: the fields of a registration and of a login
reach the server as they were typed, with the password hashed, if the text of
the request fits into a message.  But `/r` may occur nowhere in a login; where
it does, the program is terminated.
-/
theorem typed_received
    (inverts : rapidjson.Inverts) {nickname email password : Bytes}
    {first second third : UInt8}
    (named : Free nickname) (addressed : Free email)
    (guarded : Free password)
    (firstSeparates : separator first = true)
    (secondSeparates : separator second = true)
    (thirdSeparates : separator third = true)
    (short :
      nickname.length + email.length + password.length < 2 ^ 31) :
    Sends rapidjson sha512
        (typed (str "/r")
          [(first, nickname), (second, email), (third, password)])
        (.register ⟨nickname, email, hash sha512 password⟩) ∧
      ∀ line, line = typed (str "/l") [(first, email), (second, password)] →
        (contains line (str "/r") = true →
            interpret rapidjson sha512 line = .error .outOfRange) ∧
          (contains line (str "/r") = false →
            Sends rapidjson sha512 line
              (.login ⟨email, hash sha512 password⟩)) := by
  constructor
  · apply sends_of_command inverts
    · have verbLength : (str "/r").length = 2 := by decide
      rw [typed_length, verbLength]
      simp only [List.map_cons, List.map_nil, List.sum_cons, List.sum_nil]
      omega
    · exact
        command_typed_register named addressed guarded firstSeparates
          secondSeparates thirdSeparates sha512
  · rintro line rfl
    have built :=
      command_typed_login addressed guarded firstSeparates secondSeparates
        sha512
    constructor
    · intro hidden
      rw [if_pos hidden] at built
      exact
        interpret_eq_error_iff.mpr
          (Or.inl (command_eq_error_iff.mp built))
    · intro plain
      rw [plain, if_neg Bool.false_ne_true] at built
      apply sends_of_command inverts _ built
      have verbLength : (str "/l").length = 2 := by decide
      rw [typed_length, verbLength]
      simp only [List.map_cons, List.map_nil, List.sum_cons, List.sum_nil]
      omega

end Typed

/-- The digest of `some_test_hash`, as if every text had it. -/
def sampleSha512 : Sha512 where
  digest _ :=
    [234, 215, 47, 250, 45, 180, 26, 156, 90, 78, 38, 48, 70, 102, 41, 223,
        208, 112, 8, 17, 62, 15, 212, 101, 226, 153, 206, 26, 20, 58, 189,
        136, 134, 119, 60, 253, 218, 3, 248, 146, 127, 235, 142, 75, 69, 178,
        3, 226, 149, 62, 98, 219, 245, 160, 242, 82, 227, 176, 100, 105, 153,
        46, 46, 141]
  digest_length _ := rfl

/-- With this email address a player can register, but not log in. -/
theorem typed_received_hidden :
    Sends documentEnv.rapidjson sampleSha512
        (typed (str "/r")
          [(59, str "alice"), (9, str "a/r@mail"), (59, str "some_test_hash")])
        (.register
          ⟨str "alice", str "a/r@mail",
            hash sampleSha512 (str "some_test_hash")⟩) ∧
      interpret documentEnv.rapidjson sampleSha512
          (typed (str "/l") [(59, str "a/r@mail"), (9, str "some_test_hash")]) =
        .error .outOfRange := by
  have both :=
    @typed_received documentEnv.rapidjson sampleSha512
      Reference.documentParser_inverts (str "alice") (str "a/r@mail")
      (str "some_test_hash") 59 9 59 (by decide) (by decide) (by decide) rfl rfl
      rfl (by decide)
  have hidden :
      contains
          (typed (str "/l") [(59, str "a/r@mail"), (9, str "some_test_hash")])
          (str "/r") =
        true := by
    decide
  exact ⟨both.1, (both.2 _ rfl).1 hidden⟩

end PokerBackend.Console
