import PokerBackend.ReferenceJson
import PokerBackend.RapidjsonSpec

/-!
# Reading back what the writer writes

A reader of objects of strings and integers, as `PrettyWriter` formats them,
and the two facts that make the concrete library an instance of what the
program relies on: the reader inverts the writer, and what the writer writes
is a JSON document.
-/

namespace PokerBackend.Reference

open PokerBackend.CString
open PokerBackend.Lib.JsonGrammar
open PokerBackend.Lib.Numeral

/-! ## The reader -/

def hexValue (digit : UInt8) : Nat :=
  if isDigit digit then digit.toNat - 48 else digit.toNat - 55

/-- The byte that an escape letter stands for. -/
def unescapeLetter (letter : UInt8) : UInt8 :=
  if letter = 98 then 8
  else if letter = 116 then 9
  else if letter = 110 then 10
  else if letter = 102 then 12
  else if letter = 114 then 13
  else letter

/-- Read one byte of a string. -/
def readByte : Bytes → Option (UInt8 × Bytes)
  | [] => none
  | byte :: rest =>
      if byte = 92 then
        match rest with
        | 117 :: _ :: _ :: high :: low :: later =>
            some ((hexValue high * 16 + hexValue low).toUInt8, later)
        | letter :: later => some (unescapeLetter letter, later)
        | [] => none
      else some (byte, rest)

/-- Read a string after its opening quotation mark. -/
def readChars : Nat → Bytes → Option (Bytes × Bytes)
  | 0, _ => none
  | fuel + 1, text =>
      if text.head? = some 34 then some ([], text.tail)
      else do
        let (byte, rest) ← readByte text
        let (bytes, rest) ← readChars fuel rest
        return (byte :: bytes, rest)

def skipBlank (text : Bytes) : Bytes :=
  text.dropWhile isBlank

/-- Read one byte that has to be there, after white space. -/
def readToken (token : UInt8) (text : Bytes) : Option Bytes :=
  match skipBlank text with
  | byte :: rest => if byte = token then some rest else none
  | [] => none

def readString (text : Bytes) : Option (Bytes × Bytes) := do
  let rest ← readToken 34 text
  readChars rest.length rest

def readInt (text : Bytes) : Option (Int × Bytes) :=
  match skipBlank text with
  | [] => none
  | byte :: rest =>
      if byte = 45 then
        some (-(readDigits 0 rest : Int), rest.dropWhile isDigit)
      else
        some (readDigits 0 (byte :: rest), (byte :: rest).dropWhile isDigit)

def readValue (text : Bytes) : Option (Json × Bytes) :=
  if (skipBlank text).head? = some 34 then do
    let (bytes, rest) ← readString text
    return (.string bytes, rest)
  else do
    let (value, rest) ← readInt text
    return (.int value, rest)

def readMember (text : Bytes) : Option ((Bytes × Json) × Bytes) := do
  let (name, rest) ← readString text
  let rest ← readToken 58 rest
  let (value, rest) ← readValue rest
  return ((name, value), rest)

/-- Read members up to the closing brace. -/
def readMembers : Nat → Bytes → Option (List (Bytes × Json) × Bytes)
  | 0, _ => none
  | fuel + 1, text => do
      let (member, rest) ← readMember text
      match readToken 44 rest with
      | some rest => do
          let (members, rest) ← readMembers fuel rest
          return (member :: members, rest)
      | none => do
          let rest ← readToken 125 rest
          return ([member], rest)

/-- Read a whole text as an object. -/
def readObject (text : Bytes) : Option Json := do
  let rest ← readToken 123 text
  match readToken 125 rest with
  | some _ => return .object []
  | none => do
      let (members, _) ← readMembers rest.length rest
      return .object members

/-! ## Reading back strings -/

theorem hexValue_hexDigit :
    ∀ value < 16, hexValue (hexDigit value) = value := by
  decide

theorem isHex_hexDigit :
    ∀ value < 16, isHex (hexDigit value) = true := by
  decide

/-- The three ways in which a byte is written. -/
inductive Escaped (byte : UInt8) : Bytes → Prop where
  | plain
      (printable : 32 ≤ byte.toNat) (notQuote : byte ≠ 34)
      (notBackslash : byte ≠ 92) :
      Escaped byte [byte]
  | letter {letter : UInt8}
      (known : letter ∈ escapeLetters)
      (stands : unescapeLetter letter = byte) :
      Escaped byte [92, letter]
  | unicode {high low : UInt8}
      (highHex : isHex high = true) (lowHex : isHex low = true)
      (stands : (hexValue high * 16 + hexValue low).toUInt8 = byte) :
      Escaped byte [92, 117, 48, 48, high, low]

theorem escape_cases (byte : UInt8) : Escaped byte (escape byte) := by
  rw [escape]
  split
  · next quote =>
      subst quote
      exact .letter (by decide) rfl
  split
  · next backslash =>
      subst backslash
      exact .letter (by decide) rfl
  split
  · next backspace =>
      subst backspace
      exact @Escaped.letter _ 98 (by decide) rfl
  split
  · next tab =>
      subst tab
      exact @Escaped.letter _ 116 (by decide) rfl
  split
  · next lineFeed =>
      subst lineFeed
      exact @Escaped.letter _ 110 (by decide) rfl
  split
  · next formFeed =>
      subst formFeed
      exact @Escaped.letter _ 102 (by decide) rfl
  split
  · next carriageReturn =>
      subst carriageReturn
      exact @Escaped.letter _ 114 (by decide) rfl
  split
  · next control =>
      refine .unicode (isHex_hexDigit _ (by omega))
        (isHex_hexDigit _ (by omega)) ?_
      rw [hexValue_hexDigit _ (by omega), hexValue_hexDigit _ (by omega)]
      have value : byte.toNat / 16 * 16 + byte.toNat % 16 = byte.toNat := by
        omega
      rw [value]
      simp
  · next notQuote notBackslash _ _ _ _ _ visible =>
      exact .plain (Nat.le_of_not_lt visible) notQuote notBackslash

theorem readByte_escape (byte : UInt8) (rest : Bytes) :
    readByte (escape byte ++ rest) = some (byte, rest) := by
  have written := escape_cases byte
  generalize escape byte = text at written
  cases written with
  | plain printable notQuote notBackslash => exact if_neg notBackslash
  | letter known stands =>
      rw [← stands]
      simp only [escapeLetters, List.mem_cons, List.not_mem_nil,
        or_false] at known
      rcases known with rfl | rfl | rfl | rfl | rfl | rfl | rfl | rfl <;>
        rfl
  | unicode highHex lowHex stands =>
      rw [← stands]
      rfl

theorem escape_head (byte : UInt8) (rest : Bytes) :
    (escape byte ++ rest).head? ≠ some 34 := by
  have written := escape_cases byte
  generalize escape byte = text at written
  cases written with
  | plain printable notQuote notBackslash => simpa using notQuote
  | letter known stands => simp
  | unicode highHex lowHex stands => simp

theorem escape_ne_nil (byte : UInt8) : 1 ≤ (escape byte).length := by
  have written := escape_cases byte
  generalize escape byte = text at written
  cases written <;> simp

theorem readChars_escaped
    {fuel : Nat} (text rest : Bytes) (enough : text.length < fuel) :
    readChars fuel (text.flatMap escape ++ 34 :: rest) =
      some (text, rest) := by
  induction text generalizing fuel with
  | nil =>
      cases fuel with
      | zero => cases enough
      | succ fuel => rfl
  | cons byte text induction =>
      cases fuel with
      | zero => cases enough
      | succ fuel =>
          rw [List.length_cons] at enough
          rw [List.flatMap_cons, List.append_assoc, readChars,
            if_neg (escape_head byte _), readByte_escape]
          have later := @induction fuel (by omega)
          simp only [bind, Option.bind, later]
          rfl

theorem length_le_escaped (text : Bytes) :
    text.length ≤ (text.flatMap escape).length := by
  induction text with
  | nil => simp
  | cons byte text induction =>
      have one := escape_ne_nil byte
      rw [List.flatMap_cons, List.length_append, List.length_cons]
      omega

theorem skipBlank_append
    {blank text : Bytes} (isBlank : Blank blank)
    (first : ∀ byte ∈ text.head?, Lib.JsonGrammar.isBlank byte = false) :
    skipBlank (blank ++ text) = text := by
  rw [skipBlank, List.dropWhile_append_of_pos isBlank]
  cases text with
  | nil => rfl
  | cons byte text =>
      exact List.dropWhile_cons_of_neg (by simp [first byte rfl])

theorem readToken_append
    {blank : Bytes} (isBlank : Blank blank) {token : UInt8}
    (visible : Lib.JsonGrammar.isBlank token = false) (rest : Bytes) :
    readToken token (blank ++ token :: rest) = some rest := by
  rw [readToken, skipBlank_append isBlank (by simpa using visible)]
  simp

theorem readToken_other
    {blank : Bytes} (isBlank : Blank blank) {token other : UInt8}
    (visible : Lib.JsonGrammar.isBlank other = false)
    (different : other ≠ token) (rest : Bytes) :
    readToken token (blank ++ other :: rest) = none := by
  rw [readToken, skipBlank_append isBlank (by simpa using visible)]
  simp [different]

theorem quoted_append (text rest : Bytes) :
    quoted text ++ rest = 34 :: (text.flatMap escape ++ 34 :: rest) := by
  simp [quoted]

theorem readString_quoted
    {blank : Bytes} (isBlank : Blank blank) (text rest : Bytes) :
    readString (blank ++ (quoted text ++ rest)) = some (text, rest) := by
  have enough :
      text.length < (text.flatMap escape ++ 34 :: rest).length := by
    have bound := length_le_escaped text
    rw [List.length_append, List.length_cons]
    omega
  rw [readString, quoted_append, readToken_append isBlank rfl]
  exact readChars_escaped text rest enough

/-! ## Reading back values -/

theorem decimal_append (value : Int) (rest : Bytes) :
    decimal value ++ rest =
      if value < 0 then 45 :: (numeral value.natAbs ++ rest)
      else numeral value.natAbs ++ rest := by
  rw [decimal]
  split <;> rfl

theorem dropWhile_numeral
    (value : Nat) {rest : Bytes}
    (stop : ∀ byte ∈ rest.head?, isDigit byte = false) :
    (numeral value ++ rest).dropWhile isDigit = rest := by
  rw [List.dropWhile_append_of_pos fun _ => isDigit_of_mem_numeral]
  cases rest with
  | nil => rfl
  | cons byte rest =>
      exact List.dropWhile_cons_of_neg (by simp [stop byte rfl])

theorem numeral_head (value : Nat) :
    ∃ first later, numeral value = first :: later ∧ isDigit first = true := by
  rcases List.exists_cons_of_ne_nil (numeral_ne_nil value) with
    ⟨first, later, shape⟩
  have member : first ∈ numeral value := by
    rw [shape]
    exact List.mem_cons_self
  exact ⟨first, later, shape, isDigit_of_mem_numeral member⟩

theorem isDigit_visible {byte : UInt8} (digit : isDigit byte = true) :
    isBlank byte = false ∧ byte ≠ 45 ∧ byte ≠ 34 := by
  simp only [isDigit, Bool.and_eq_true, decide_eq_true_eq] at digit
  refine ⟨?_, ?_, ?_⟩
  · rw [isBlank]
    simp only [Bool.or_eq_false_iff, decide_eq_false_iff_not]
    refine ⟨⟨⟨?_, ?_⟩, ?_⟩, ?_⟩ <;> rintro rfl <;>
      exact absurd digit (by decide)
  · rintro rfl
    exact absurd digit (by decide)
  · rintro rfl
    exact absurd digit (by decide)

/-- A written integer begins with a digit or a minus sign. -/
theorem decimal_head (value : Int) (rest : Bytes) :
    ∃ first later,
      decimal value ++ rest = first :: later ∧
        isBlank first = false ∧ first ≠ 34 := by
  rw [decimal_append]
  rcases numeral_head value.natAbs with ⟨first, later, shape, digit⟩
  have visible := isDigit_visible digit
  split
  · exact ⟨45, _, rfl, rfl, by decide⟩
  · exact ⟨first, later ++ rest, by rw [shape]; rfl, visible.1, visible.2.2⟩

theorem readInt_decimal
    {blank : Bytes} (isBlank : Blank blank) (value : Int) {rest : Bytes}
    (stop : ∀ byte ∈ rest.head?, isDigit byte = false) :
    readInt (blank ++ (decimal value ++ rest)) = some (value, rest) := by
  rcases decimal_head value rest with ⟨first, later, shape, visible, _⟩
  have skipped :
      skipBlank (blank ++ (decimal value ++ rest)) =
        decimal value ++ rest :=
    skipBlank_append isBlank (by rw [shape]; simpa using visible)
  have digits := readDigits_numeral value.natAbs rest stop
  have left := dropWhile_numeral value.natAbs stop
  rw [readInt, skipped, decimal_append]
  by_cases negative : value < 0
  · simp only [if_pos negative, if_true, digits, left]
    congr 2
    omega
  · rcases numeral_head value.natAbs with ⟨digit, others, start, isDigit⟩
    rw [if_neg negative, start, List.cons_append]
    rw [start, List.cons_append] at digits left
    simp only [if_neg (isDigit_visible isDigit).2.1, digits, left]
    congr 2
    omega

/-- A value that can be written is read back. -/
theorem readValue_writeValue
    {blank : Bytes} (isBlank : Blank blank) {value : WriterValue}
    (writable : value.Writable) {rest : Bytes}
    (stop : ∀ byte ∈ rest.head?, isDigit byte = false) :
    readValue (blank ++ (writeValue value ++ rest)) =
      some (value.toJson, rest) := by
  cases value with
  | string text =>
      have quote :
          (skipBlank (blank ++ (quoted text ++ rest))).head? = some 34 := by
        rw [quoted_append, skipBlank_append isBlank (by simp; rfl)]
        rfl
      rw [writeValue, readValue, if_pos quote, readString_quoted isBlank]
      rfl
  | int64 value =>
      have range : Int.bmod value (2 ^ 64) = value := by
        have bounds : -2 ^ 63 ≤ value ∧ value < 2 ^ 63 := writable
        exact Int.bmod_eq_of_le_mul_two (by omega) (by omega)
      rcases decimal_head value rest with
        ⟨first, later, shape, visible, notQuote⟩
      have noQuote :
          (skipBlank (blank ++ (decimal value ++ rest))).head? ≠
            some 34 := by
        rw [shape, skipBlank_append isBlank (by simpa using visible)]
        simpa using notQuote
      rw [writeValue, range, readValue, if_neg noQuote,
        readInt_decimal isBlank value stop]
      rfl

/-! ## Reading back objects -/

theorem blank_indent : Blank (str "\n    ") :=
  List.all_eq_true.mp (by decide)

theorem blank_space : Blank (str " ") :=
  List.all_eq_true.mp (by decide)

theorem blank_nil : Blank [] := by
  simp [Blank]

theorem writeMember_append (member : Bytes × WriterValue) (rest : Bytes) :
    writeMember member ++ rest =
      str "\n    " ++
        (quoted member.1 ++
          (58 :: (str " " ++ (writeValue member.2 ++ rest)))) := by
  have colon : str ": " = 58 :: str " " := rfl
  simp [writeMember, colon]

theorem readMember_writeMember
    {member : Bytes × WriterValue} (writable : WritableMember member)
    {rest : Bytes} (stop : ∀ byte ∈ rest.head?, isDigit byte = false) :
    readMember (writeMember member ++ rest) =
      some ((member.1, member.2.toJson), rest) := by
  have value :=
    readValue_writeValue blank_space writable.2 stop
  have colon :=
    @readToken_append _ blank_nil 58 rfl
      (str " " ++ (writeValue member.2 ++ rest))
  rw [List.nil_append] at colon
  rw [writeMember_append, readMember, readString_quoted blank_indent]
  simp only [bind, Option.bind, colon, value]
  rfl

/-- The members after the first one, and the closing brace. -/
def writeRest (members : List (Bytes × WriterValue)) : Bytes :=
  (members.flatMap fun next => str "," ++ writeMember next) ++ [10, 125]

theorem writeRest_cons
    (member : Bytes × WriterValue) (members : List (Bytes × WriterValue)) :
    writeRest (member :: members) =
      44 :: (writeMember member ++ writeRest members) := by
  have comma : str "," = [44] := rfl
  simp [writeRest, comma]

theorem writeRest_stop (members : List (Bytes × WriterValue)) :
    ∀ byte ∈ (writeRest members).head?, isDigit byte = false := by
  cases members with
  | nil => simp [writeRest, isDigit]
  | cons member members =>
      rw [writeRest_cons]
      simp [isDigit]

theorem readMembers_writeMembers
    {member : Bytes × WriterValue} {members : List (Bytes × WriterValue)}
    (writable : ∀ each ∈ member :: members, WritableMember each)
    {fuel : Nat} (enough : members.length < fuel) :
    readMembers fuel (writeMember member ++ writeRest members) =
      some
        ((member :: members).map fun each => (each.1, each.2.toJson),
          []) := by
  induction members generalizing member fuel with
  | nil =>
      cases fuel with
      | zero => cases enough
      | succ fuel =>
          have first :=
            readMember_writeMember (writable member List.mem_cons_self)
              (writeRest_stop [])
          rw [readMembers, first]
          rfl
  | cons next members induction =>
      cases fuel with
      | zero => cases enough
      | succ fuel =>
          have first :=
            readMember_writeMember (writable member List.mem_cons_self)
              (writeRest_stop (next :: members))
          have others : ∀ each ∈ next :: members, WritableMember each := by
            intro each inside
            exact writable each (List.mem_cons_of_mem _ inside)
          rw [List.length_cons] at enough
          have rest := @induction next others fuel (by omega)
          have comma :=
            @readToken_append _ blank_nil 44 rfl
              (writeMember next ++ writeRest members)
          rw [List.nil_append] at comma
          rw [readMembers, first]
          simp only [bind, Option.bind, writeRest_cons, comma, rest]
          rfl

theorem prettyWriter_cons
    (member : Bytes × WriterValue) (members : List (Bytes × WriterValue)) :
    prettyWriter (member :: members) =
      123 :: (writeMember member ++ writeRest members) := by
  simp [prettyWriter, writeRest]

theorem length_le_writeRest (members : List (Bytes × WriterValue)) :
    members.length ≤ (writeRest members).length := by
  induction members with
  | nil => simp
  | cons member members induction =>
      rw [writeRest_cons, List.length_cons, List.length_cons,
        List.length_append]
      omega

/-- The reader inverts the writer. -/
theorem readObject_prettyWriter
    {members : List (Bytes × WriterValue)}
    (writable : ∀ member ∈ members, WritableMember member) :
    readObject (prettyWriter members) = some (readBack members) := by
  cases members with
  | nil => rfl
  | cons member members =>
      have opened :=
        @readToken_append _ blank_nil 123 rfl
          (writeMember member ++ writeRest members)
      rw [List.nil_append] at opened
      have notClosed :
          readToken 125 (writeMember member ++ writeRest members) = none := by
        rw [writeMember_append, quoted_append]
        exact readToken_other blank_indent rfl (by decide) _
      have enough :
          members.length <
            (writeMember member ++ writeRest members).length := by
        have bound := length_le_writeRest members
        have indent : 1 ≤ (writeMember member).length := by
          simp [writeMember, str]
        rw [List.length_append]
        omega
      rw [prettyWriter_cons, readObject, opened]
      simp only [bind, Option.bind, notClosed,
        readMembers_writeMembers writable enough]
      rfl

/-! ## What is written is a document -/

theorem chars_escaped (text : Bytes) : Chars (text.flatMap escape) := by
  induction text with
  | nil => exact .nil
  | cons byte text induction =>
      have written := escape_cases byte
      rw [List.flatMap_cons]
      generalize escape byte = first at written
      cases written with
      | plain printable notQuote notBackslash =>
          exact .plain printable notQuote notBackslash induction
      | letter known stands => exact .escape known induction
      | @unicode high low highHex lowHex stands =>
          refine @Chars.unicode [48, 48, high, low] _ rfl ?_ induction
          intro digit member
          simp only [List.mem_cons, List.not_mem_nil, or_false] at member
          rcases member with rfl | rfl | rfl | rfl
          · rfl
          · rfl
          · exact highHex
          · exact lowHex

theorem stringText_quoted (text : Bytes) : StringText (quoted text) := by
  refine ⟨text.flatMap escape, chars_escaped text, ?_⟩
  simp [quoted]

theorem numeral_whole (value : Nat) : Whole (numeral value) := by
  refine ⟨⟨numeral_ne_nil value, fun _ => isDigit_of_mem_numeral⟩, ?_⟩
  intro zero
  rw [numeral_head_zero zero]
  rfl

theorem number_decimal (value : Int) : Number (decimal value) := by
  rw [decimal]
  split
  · exact
      ⟨[45], numeral value.natAbs, [], [], Or.inr rfl, numeral_whole _,
        Or.inl rfl, Or.inl rfl, by simp⟩
  · exact
      ⟨[], numeral value.natAbs, [], [], Or.inl rfl, numeral_whole _,
        Or.inl rfl, Or.inl rfl, by simp⟩

theorem derives_writeValue (value : WriterValue) :
    Derives .value (writeValue value) := by
  cases value with
  | string text => exact .string (stringText_quoted text)
  | int64 value => exact .number (number_decimal _)

theorem derives_writeMember
    (member : Bytes × WriterValue) {after : Bytes} (blank : Blank after) :
    Derives .member (writeMember member ++ after) := by
  rw [writeMember_append]
  exact
    .member blank_indent (stringText_quoted member.1) blank_nil
      (.element blank_space (derives_writeValue member.2) blank)

theorem derives_writeMembers
    (member : Bytes × WriterValue)
    (members : List (Bytes × WriterValue)) :
    ∃ inner,
      writeMember member ++ writeRest members = inner ++ [125] ∧
        Derives .members inner := by
  induction members generalizing member with
  | nil =>
      have lineFeed : Blank [10] := List.all_eq_true.mp (by decide)
      refine
        ⟨writeMember member ++ [10], ?_,
          .lastMember (derives_writeMember member lineFeed)⟩
      simp [writeRest]
  | cons next members induction =>
      rcases induction next with ⟨inner, whole, derives⟩
      have first := derives_writeMember member blank_nil
      rw [List.append_nil] at first
      refine ⟨writeMember member ++ 44 :: inner, ?_,
        .moreMembers first derives⟩
      rw [writeRest_cons, whole]
      simp

/-- Every text that the writer produces is a JSON document. -/
theorem document_prettyWriter (members : List (Bytes × WriterValue)) :
    Document (prettyWriter members) := by
  have value : Derives .value (prettyWriter members) := by
    cases members with
    | nil => exact .emptyObject blank_nil
    | cons member members =>
        rcases derives_writeMembers member members with
          ⟨inner, whole, derives⟩
        rw [prettyWriter_cons, whole]
        exact .object derives
  have document := Derives.element blank_nil value blank_nil
  rw [List.append_nil] at document
  exact document

/-! ## An instance of what the program relies on -/

open Classical in
/--
A library which accepts exactly the JSON documents and reads the objects that
the writer writes.
-/
noncomputable def documentParser : Rapidjson where
  parse text :=
    if Document text then .ok ((readObject text).getD .null)
    else .error (.valueInvalid, 0)
  prettyWriter := prettyWriter
  prettyWriter_length := prettyWriter_length

theorem documentParser_parse_of_document
    {text : Bytes} (document : Document text) :
    documentParser.parse text = .ok ((readObject text).getD .null) :=
  if_pos document

theorem documentParser_inverts : documentParser.Inverts where
  parse_prettyWriter := by
    intro members writable
    change documentParser.parse (prettyWriter members) = _
    rw [documentParser_parse_of_document (document_prettyWriter members),
      readObject_prettyWriter writable]
    rfl
  noNul := by
    intro members _ nul
    exact (document_prettyWriter members).noZero 0 nul rfl

theorem documentParser_acceptsJson : documentParser.AcceptsJson := by
  intro text _
  constructor
  · rintro ⟨root, parsed⟩
    by_contra notDocument
    have refused : documentParser.parse text = .error (.valueInvalid, 0) :=
      if_neg notDocument
    rw [refused] at parsed
    cases parsed
  · intro document
    exact ⟨_, documentParser_parse_of_document document⟩

end PokerBackend.Reference
