import PokerBackend.Net.Message

/-!
# Which headers `decode_header` accepts

`encode_header` writes spaces and digits; `decode_header` accepts whatever
`atoi` makes a number between 0 and 2044 of.  The first part says how `atoi`
divides a text; the second part what that means for the four bytes of a
header, of any content.
-/

namespace PokerBackend

namespace CString

open PokerBackend.Lib.Numeral

/-! ## How `atoi` divides a text -/

/-- White space, a sign, digits, and what comes after them. -/
structure AtoiParts where
  blanks : Bytes
  sign : Bytes
  digits : Bytes
  rest : Bytes

/-- The number that the parts denote; no digits denote zero. -/
def AtoiParts.value (parts : AtoiParts) : Int :=
  if parts.sign = [45] then -(readDigits 0 parts.digits : Int)
  else readDigits 0 parts.digits

/--
The division of a text: as much white space as there is, at most one sign,
and as many digits as there are.
-/
structure AtoiParts.Divide (parts : AtoiParts) (text : Bytes) : Prop where
  whole :
    text = parts.blanks ++ (parts.sign ++ (parts.digits ++ parts.rest))
  blank : ∀ byte ∈ parts.blanks, isSpace byte = true
  signed : parts.sign = [] ∨ parts.sign = [43] ∨ parts.sign = [45]
  digit : ∀ byte ∈ parts.digits, isDigit byte = true
  ends : ∀ byte ∈ parts.rest.head?, isDigit byte = false
  bare :
    parts.sign = [] → parts.digits = [] →
      ∀ byte ∈ parts.rest.head?,
        isSpace byte = false ∧ byte ≠ 43 ∧ byte ≠ 45

/-- The parts of a text. -/
def atoiParts (text : Bytes) : AtoiParts :=
  let blanks := text.takeWhile isSpace
  match text.dropWhile isSpace with
  | [] => ⟨blanks, [], [], []⟩
  | byte :: rest =>
      if byte = 43 ∨ byte = 45 then
        ⟨blanks, [byte], rest.takeWhile isDigit, rest.dropWhile isDigit⟩
      else
        ⟨blanks, [], (byte :: rest).takeWhile isDigit,
          (byte :: rest).dropWhile isDigit⟩

/-- What is left after dropping does not begin with what was dropped. -/
theorem head?_dropWhile {p : UInt8 → Bool} {text : Bytes} {byte : UInt8}
    (first : byte ∈ (text.dropWhile p).head?) : p byte = false := by
  have stops := List.head?_dropWhile_not p text
  rw [Option.mem_def] at first
  rw [first] at stops
  simpa using stops

theorem atoiParts_divide (text : Bytes) :
    (atoiParts text).Divide text := by
  have whole : text.takeWhile isSpace ++ text.dropWhile isSpace = text :=
    List.takeWhile_append_dropWhile
  have blank : ∀ byte ∈ text.takeWhile isSpace, isSpace byte = true :=
    fun _ member => List.mem_takeWhile_imp member
  have notSpace :
      ∀ byte ∈ (text.dropWhile isSpace).head?, isSpace byte = false :=
    fun _ first => head?_dropWhile first
  rw [atoiParts]
  cases left : text.dropWhile isSpace with
  | nil =>
      rw [left] at whole
      exact ⟨whole.symm, blank, Or.inl rfl, by simp, by simp, by simp⟩
  | cons byte rest =>
      rw [left] at whole notSpace
      by_cases signed : byte = 43 ∨ byte = 45
      · simp only [if_pos signed]
        refine ⟨?_, blank, ?_, ?_, ?_, by simp⟩
        · rw [List.takeWhile_append_dropWhile]
          exact whole.symm
        · rcases signed with rfl | rfl
          · exact Or.inr (Or.inl rfl)
          · exact Or.inr (Or.inr rfl)
        · exact fun _ member => List.mem_takeWhile_imp member
        · exact fun _ first => head?_dropWhile first
      · simp only [if_neg signed]
        refine ⟨?_, blank, Or.inl rfl, ?_, ?_, ?_⟩
        · rw [List.takeWhile_append_dropWhile]
          exact whole.symm
        · exact fun _ member => List.mem_takeWhile_imp member
        · exact fun _ first => head?_dropWhile first
        · intro _ none other first
          have notDigit : isDigit byte = false := by
            by_contra digit
            rw [List.takeWhile_cons_of_pos (by simpa using digit)] at none
            cases none
          rw [List.dropWhile_cons_of_neg (by simp [notDigit])] at first
          cases first
          exact
            ⟨notSpace byte rfl, fun plus => signed (Or.inl plus),
              fun minus => signed (Or.inr minus)⟩

theorem isDigit_ne_sign
    {byte : UInt8} (digit : isDigit byte = true) :
    byte ≠ 43 ∧ byte ≠ 45 := by
  constructor
  · rintro rfl
    exact absurd digit (by decide)
  · rintro rfl
    exact absurd digit (by decide)

/-- White space goes first. -/
theorem AtoiParts.Divide.dropWhile
    {parts : AtoiParts} {text : Bytes} (divide : parts.Divide text) :
    text.dropWhile isSpace = parts.sign ++ (parts.digits ++ parts.rest) := by
  rw [divide.whole, List.dropWhile_append_of_pos divide.blank]
  rcases divide.signed with none | plus | minus
  · rw [none, List.nil_append]
    cases digits : parts.digits with
    | cons digit digits' =>
        have isDigit : isDigit digit = true :=
          divide.digit digit (by rw [digits]; exact List.mem_cons_self)
        exact List.dropWhile_cons_of_neg (by simp [isSpace_digit isDigit])
    | nil =>
        cases rest : parts.rest with
        | nil => rfl
        | cons byte rest' =>
            have bare := divide.bare none digits byte (by rw [rest]; rfl)
            exact List.dropWhile_cons_of_neg (by simp [bare.1])
  · rw [plus]
    rfl
  · rw [minus]
    rfl

/-- `atoi` returns the number that the parts of the text denote. -/
theorem AtoiParts.Divide.atoi_eq
    {parts : AtoiParts} {text : Bytes} (divide : parts.Divide text) :
    atoi text = parts.value := by
  have digits :
      readDigits 0 (parts.digits ++ parts.rest) =
        readDigits 0 parts.digits := by
    rw [readDigits_append divide.digit]
    exact readDigits_of_stop _ _ divide.ends
  rw [atoi, divide.dropWhile, AtoiParts.value]
  rcases divide.signed with none | plus | minus
  · have unsigned : ¬ parts.sign = [45] := by simp [none]
    rw [if_neg unsigned, none, List.nil_append, ← digits]
    cases left : parts.digits ++ parts.rest with
    | nil => rfl
    | cons byte rest =>
        have notSign : byte ≠ 43 ∧ byte ≠ 45 := by
          cases shape : parts.digits with
          | cons digit digits' =>
              rw [shape, List.cons_append] at left
              cases left
              refine isDigit_ne_sign (divide.digit byte ?_)
              rw [shape]
              exact List.mem_cons_self
          | nil =>
              rw [shape, List.nil_append] at left
              exact (divide.bare none shape byte (by rw [left]; rfl)).2
        simp only [if_neg notSign.1, if_neg notSign.2]
  · rw [plus, if_neg (by decide), ← digits]
    rfl
  · rw [minus, if_pos rfl, ← digits]
    rfl

/-- A text of `count` bytes denotes a number of at most `count` digits. -/
theorem atoi_natAbs_lt (text : Bytes) :
    (atoi text).natAbs < 10 ^ text.length := by
  have divide := atoiParts_divide text
  generalize atoiParts text = parts at divide
  have bound := readDigits_lt 0 parts.digits
  have shorter : parts.digits.length ≤ text.length := by
    rw [divide.whole]
    simp only [List.length_append]
    omega
  have power : 10 ^ parts.digits.length ≤ 10 ^ text.length :=
    Nat.pow_le_pow_right (by decide) shorter
  rw [divide.atoi_eq, AtoiParts.value]
  split <;> omega

end CString

namespace Net.Message

open PokerBackend.CString
open PokerBackend.Lib.Numeral

/-! ## The headers that are accepted -/

/--
The `int` that `atoi` reads in a header; the copy in `decode_header` ends at
the first NUL.
-/
def announcedLength (header : Bytes) : Int :=
  atoi (cStr header)

theorem cStr_length_le (text : Bytes) :
    (cStr text).length ≤ text.length :=
  (List.takeWhile_prefix _).length_le

/-- Storing the `int` in a `size_t` makes a negative one huge. -/
theorem headerValue_le_iff
    {header : Bytes} (full : header.length = headerLength) :
    headerValue header ≤ maxBodyLength ↔
      0 ≤ announcedLength header ∧ announcedLength header ≤ 2044 := by
  have bound : (announcedLength header).natAbs < 10 ^ 4 :=
    (atoi_natAbs_lt (cStr header)).trans_le
      (Nat.pow_le_pow_right (by decide)
        ((cStr_length_le header).trans (Nat.le_of_eq full)))
  rw [headerValue, ← announcedLength, toSizeT, maxBodyLength_eq]
  omega

/-- For an accepted header the length is the `int`. -/
theorem headerValue_of_nonneg
    {header : Bytes} (full : header.length = headerLength)
    (nonneg : 0 ≤ announcedLength header) :
    (headerValue header : Int) = announcedLength header := by
  have bound : (announcedLength header).natAbs < 10 ^ 4 :=
    (atoi_natAbs_lt (cStr header)).trans_le
      (Nat.pow_le_pow_right (by decide)
        ((cStr_length_le header).trans (Nat.le_of_eq full)))
  have small : announcedLength header < 2 ^ 64 := by omega
  exact toSizeT_of_range nonneg small

/--
`decode_header` in terms of the `int`: it is accepted exactly between 0 and
2044, and a header that is refused leaves an empty body.
-/
theorem decodeHeader_cases (message : Message) :
    (message.decodeHeader.1 = true ∧
        0 ≤ announcedLength message.header ∧
        announcedLength message.header ≤ 2044 ∧
        (message.decodeHeader.2.bodyLength : Int) =
          announcedLength message.header) ∨
      (message.decodeHeader.1 = false ∧
        (announcedLength message.header < 0 ∨
          2044 < announcedLength message.header) ∧
        message.decodeHeader.2.bodyLength = 0) := by
  rcases message.decodeHeader_eq with ⟨verdict, _, length⟩
  by_cases accepted : headerValue message.header ≤ maxBodyLength
  · have range := (headerValue_le_iff message.header_length).mp accepted
    rw [if_pos accepted] at length
    refine Or.inl ⟨verdict.trans (decide_eq_true accepted), range.1,
      range.2, ?_⟩
    rw [length]
    exact headerValue_of_nonneg message.header_length range.1
  · rw [if_neg accepted] at length
    refine Or.inr ⟨verdict.trans (decide_eq_false accepted), ?_, length⟩
    rw [headerValue_le_iff message.header_length] at accepted
    omega

/-- Zero or more spaces, at least one digit, and nothing else. -/
def PaddedNumeral (header : Bytes) (value : Nat) : Prop :=
  ∃ spaces digits,
    header = List.replicate spaces 32 ++ digits ∧ digits ≠ [] ∧
      (∀ byte ∈ digits, isDigit byte = true) ∧
        value = readDigits 0 digits

/-- A padded numeral has no NUL, and denotes what its digits denote. -/
theorem PaddedNumeral.divide
    {header : Bytes} {value : Nat} (numeral : PaddedNumeral header value) :
    ∃ parts : AtoiParts,
      parts.Divide (cStr header) ∧ parts.value = value := by
  rcases numeral with ⟨spaces, digits, rfl, some, allDigits, rfl⟩
  rw [cStr_padded spaces allDigits]
  refine ⟨⟨List.replicate spaces 32, [], digits, []⟩,
    ⟨?_, ?_, Or.inl rfl, allDigits, by simp, ?_⟩, rfl⟩
  · simp
  · intro byte member
    rw [List.eq_of_mem_replicate member]
    rfl
  · intro _ none
    exact absurd none some

/--
The language of `decode_header`.  Up to the first NUL a header divides into
white space, at most one sign, digits and any rest; it is accepted exactly if
sign and digits denote a number between 0 and 2044 (no digits denote zero),
and that number is the body length.  A padded numeral denotes itself.
-/
theorem decode_header_language (message : Message) :
    (∃ parts : AtoiParts, parts.Divide (cStr message.header)) ∧
      (∀ parts : AtoiParts,
        parts.Divide (cStr message.header) →
          (message.decodeHeader.1 = true ↔
              0 ≤ parts.value ∧ parts.value ≤ 2044) ∧
            (message.decodeHeader.1 = true →
              (message.decodeHeader.2.bodyLength : Int) = parts.value)) ∧
        ∀ value,
          PaddedNumeral message.header value →
            (message.decodeHeader.1 = true ↔ value ≤ 2044) ∧
              (message.decodeHeader.1 = true →
                message.decodeHeader.2.bodyLength = value) := by
  have divided :
      ∀ parts : AtoiParts,
        parts.Divide (cStr message.header) →
          (message.decodeHeader.1 = true ↔
              0 ≤ parts.value ∧ parts.value ≤ 2044) ∧
            (message.decodeHeader.1 = true →
              (message.decodeHeader.2.bodyLength : Int) =
                parts.value) := by
    intro parts divide
    have announced : announcedLength message.header = parts.value :=
      divide.atoi_eq
    rcases message.decodeHeader_cases with
      ⟨accepted, low, high, length⟩ | ⟨refused, outside, _⟩
    · rw [announced] at low high length
      exact ⟨⟨fun _ => ⟨low, high⟩, fun _ => accepted⟩, fun _ => length⟩
    · rw [announced] at outside
      rw [refused]
      refine ⟨⟨fun no => absurd no (by decide), ?_⟩,
        fun no => absurd no (by decide)⟩
      intro inside
      omega
  refine ⟨⟨_, atoiParts_divide _⟩, divided, ?_⟩
  intro value numeral
  rcases numeral.divide with ⟨parts, divide, denotes⟩
  have spec := divided parts divide
  rw [denotes] at spec
  constructor
  · rw [spec.1]
    omega
  · intro accepted
    exact Int.ofNat_inj.mp (spec.2 accepted)

/-- Four letters are accepted as the header of an empty frame. -/
theorem letters_accepted :
    ¬ ∀ message : Message,
      message.decodeHeader.1 = true →
        ∃ value ≤ 2044,
          PaddedNumeral message.header value ∧
            message.decodeHeader.2.bodyLength = value := by
  intro claimed
  have header :
      (init.storeHeader ⟨str "abcd", rfl⟩).header = str "abcd" :=
    storeHeader_header init ⟨str "abcd", rfl⟩
  have accepted :
      (init.storeHeader ⟨str "abcd", rfl⟩).decodeHeader.1 = true := by
    rw [(decodeHeader_eq _).1, header]
    decide
  rcases claimed _ accepted with
    ⟨value, _, ⟨spaces, digits, whole, some, allDigits, _⟩, _⟩
  have last : (100 : UInt8) ∈ digits := by
    have member : (100 : UInt8) ∈ List.replicate spaces 32 ++ digits := by
      rw [← whole, header]
      decide
    rcases List.mem_append.mp member with space | digit
    · exact absurd (List.eq_of_mem_replicate space) (by decide)
    · exact digit
  exact absurd (allDigits 100 last) (by decide)

end Net.Message

end PokerBackend
