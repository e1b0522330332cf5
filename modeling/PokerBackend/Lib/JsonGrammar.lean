import PokerBackend.Lib.Numeral

/-!
# The language of JSON documents

A document is one value with white space around it.  The grammar is given
over bytes; a byte above 127 inside a string stands for itself, whatever
characters it is part of.  No byte of a document is zero, so a reader which
stops at the first zero byte sees all of a document.
-/

namespace PokerBackend.Lib.JsonGrammar

open PokerBackend.Lib.Numeral

/-- White space between tokens: space, tab, line feed, carriage return. -/
def isBlank (byte : UInt8) : Bool :=
  byte = 32 || byte = 9 || byte = 10 || byte = 13

def Blank (text : List UInt8) : Prop :=
  ∀ byte ∈ text, isBlank byte = true

/-! ## Numbers -/

def Digits (text : List UInt8) : Prop :=
  text ≠ [] ∧ ∀ byte ∈ text, isDigit byte = true

/-- Digits without a leading zero. -/
def Whole (text : List UInt8) : Prop :=
  Digits text ∧ (text.head? = some 48 → text = [48])

def Fraction (text : List UInt8) : Prop :=
  text = [] ∨ ∃ digits, Digits digits ∧ text = 46 :: digits

def Exponent (text : List UInt8) : Prop :=
  text = [] ∨
    ∃ mark sign digits,
      (mark = 101 ∨ mark = 69) ∧
        (sign = [] ∨ sign = [43] ∨ sign = [45]) ∧ Digits digits ∧
          text = mark :: (sign ++ digits)

def Number (text : List UInt8) : Prop :=
  ∃ sign whole fraction exponent,
    (sign = [] ∨ sign = [45]) ∧ Whole whole ∧ Fraction fraction ∧
      Exponent exponent ∧
        text = sign ++ (whole ++ (fraction ++ exponent))

/-! ## Strings -/

def isHex (byte : UInt8) : Bool :=
  isDigit byte || (65 ≤ byte.toNat && byte.toNat ≤ 70) ||
    (97 ≤ byte.toNat && byte.toNat ≤ 102)

/-- The letters after a backslash, other than that of a code point. -/
def escapeLetters : List UInt8 :=
  [34, 92, 47, 98, 102, 110, 114, 116]

/-- What stands between the quotation marks of a string. -/
inductive Chars : List UInt8 → Prop where
  | nil : Chars []
  | plain {byte : UInt8} {rest : List UInt8}
      (printable : 32 ≤ byte.toNat) (notQuote : byte ≠ 34)
      (notBackslash : byte ≠ 92) (later : Chars rest) :
      Chars (byte :: rest)
  | escape {letter : UInt8} {rest : List UInt8}
      (known : letter ∈ escapeLetters) (later : Chars rest) :
      Chars (92 :: letter :: rest)
  | unicode {digits rest : List UInt8}
      (four : digits.length = 4)
      (hex : ∀ digit ∈ digits, isHex digit = true) (later : Chars rest) :
      Chars (92 :: 117 :: (digits ++ rest))

def StringText (text : List UInt8) : Prop :=
  ∃ chars, Chars chars ∧ text = 34 :: (chars ++ [34])

/-! ## Values and documents -/

/-- The nonterminals: an element is a value with white space around it. -/
inductive Symbol where
  | value
  | element
  | elements
  | member
  | members

def nullWord : List UInt8 := [110, 117, 108, 108]

def trueWord : List UInt8 := [116, 114, 117, 101]

def falseWord : List UInt8 := [102, 97, 108, 115, 101]

/-- The texts that a nonterminal derives. -/
inductive Derives : Symbol → List UInt8 → Prop where
  | literal {word : List UInt8}
      (known : word ∈ [nullWord, trueWord, falseWord]) :
      Derives .value word
  | number {text : List UInt8} (number : Number text) :
      Derives .value text
  | string {text : List UInt8} (quoted : StringText text) :
      Derives .value text
  | emptyArray {blank : List UInt8} (isBlank : Blank blank) :
      Derives .value (91 :: (blank ++ [93]))
  | array {inner : List UInt8} (elements : Derives .elements inner) :
      Derives .value (91 :: (inner ++ [93]))
  | emptyObject {blank : List UInt8} (isBlank : Blank blank) :
      Derives .value (123 :: (blank ++ [125]))
  | object {inner : List UInt8} (members : Derives .members inner) :
      Derives .value (123 :: (inner ++ [125]))
  | element {before text after : List UInt8}
      (blankBefore : Blank before) (value : Derives .value text)
      (blankAfter : Blank after) :
      Derives .element (before ++ (text ++ after))
  | lastElement {text : List UInt8} (element : Derives .element text) :
      Derives .elements text
  | moreElements {text rest : List UInt8}
      (element : Derives .element text)
      (elements : Derives .elements rest) :
      Derives .elements (text ++ 44 :: rest)
  | member {before name after text : List UInt8}
      (blankBefore : Blank before) (quoted : StringText name)
      (blankAfter : Blank after) (element : Derives .element text) :
      Derives .member (before ++ (name ++ (after ++ 58 :: text)))
  | lastMember {text : List UInt8} (member : Derives .member text) :
      Derives .members text
  | moreMembers {text rest : List UInt8}
      (member : Derives .member text) (members : Derives .members rest) :
      Derives .members (text ++ 44 :: rest)

/-- One JSON value with surrounding white space. -/
def Document (text : List UInt8) : Prop :=
  Derives .element text

/-! ## No byte of a document is zero -/

def NoZero (text : List UInt8) : Prop :=
  ∀ byte ∈ text, byte ≠ 0

@[simp]
theorem noZero_nil : NoZero [] := by
  simp [NoZero]

@[simp]
theorem noZero_cons {byte : UInt8} {text : List UInt8} :
    NoZero (byte :: text) ↔ byte ≠ 0 ∧ NoZero text :=
  List.forall_mem_cons

@[simp]
theorem noZero_append {first second : List UInt8} :
    NoZero (first ++ second) ↔ NoZero first ∧ NoZero second :=
  List.forall_mem_append

/-- Texts all of whose bytes pass a test that zero does not pass. -/
theorem noZero_of_forall
    {test : UInt8 → Bool} (rejects : test 0 = false)
    {text : List UInt8} (all : ∀ byte ∈ text, test byte = true) :
    NoZero text := by
  intro byte member
  rintro rfl
  rw [all 0 member] at rejects
  cases rejects

theorem Blank.noZero {text : List UInt8} (blank : Blank text) :
    NoZero text :=
  noZero_of_forall rfl blank

theorem Digits.noZero {text : List UInt8} (digits : Digits text) :
    NoZero text :=
  noZero_of_forall rfl digits.2

theorem Number.noZero {text : List UInt8} (number : Number text) :
    NoZero text := by
  rcases number with
    ⟨sign, whole, fraction, exponent, signed, isWhole, isFraction,
      isExponent, rfl⟩
  simp only [noZero_append]
  refine ⟨?_, isWhole.1.noZero, ?_, ?_⟩
  · rcases signed with rfl | rfl <;> simp
  · rcases isFraction with rfl | ⟨digits, isDigits, rfl⟩
    · simp
    · simpa using isDigits.noZero
  · rcases isExponent with
      rfl | ⟨mark, sign, digits, marked, signs, isDigits, rfl⟩
    · simp
    · simp only [noZero_cons, noZero_append]
      refine ⟨?_, ?_, isDigits.noZero⟩
      · rcases marked with rfl | rfl <;> decide
      · rcases signs with rfl | rfl | rfl <;> simp

theorem Chars.noZero {text : List UInt8} (chars : Chars text) :
    NoZero text := by
  induction chars with
  | nil => exact noZero_nil
  | plain printable notQuote notBackslash later induction =>
      refine noZero_cons.mpr ⟨?_, induction⟩
      rintro rfl
      exact absurd printable (by decide)
  | @escape letter rest known later induction =>
      have letters : NoZero escapeLetters := by simp [escapeLetters]
      refine noZero_cons.mpr ⟨by decide, ?_⟩
      exact noZero_cons.mpr ⟨letters letter known, induction⟩
  | unicode four hex later induction =>
      simp only [noZero_cons, noZero_append]
      exact ⟨by decide, by decide, noZero_of_forall rfl hex, induction⟩

theorem StringText.noZero {text : List UInt8} (quoted : StringText text) :
    NoZero text := by
  rcases quoted with ⟨chars, isChars, rfl⟩
  simpa using isChars.noZero

/-- What a nonterminal derives has no zero byte. -/
theorem Derives.noZero
    {symbol : Symbol} {text : List UInt8} (derives : Derives symbol text) :
    NoZero text := by
  induction derives with
  | literal known =>
      simp only [List.mem_cons, List.not_mem_nil, or_false] at known
      rcases known with rfl | rfl | rfl <;> simp [nullWord, trueWord, falseWord]
  | number number => exact number.noZero
  | string quoted => exact quoted.noZero
  | emptyArray isBlank => simpa using isBlank.noZero
  | array elements induction => simpa using induction
  | emptyObject isBlank => simpa using isBlank.noZero
  | object members induction => simpa using induction
  | element blankBefore value blankAfter induction =>
      simp only [noZero_append]
      exact ⟨blankBefore.noZero, induction, blankAfter.noZero⟩
  | lastElement element induction => exact induction
  | moreElements element elements first rest =>
      simpa using ⟨first, rest⟩
  | member blankBefore quoted blankAfter element induction =>
      simp only [noZero_append, noZero_cons]
      exact
        ⟨blankBefore.noZero, quoted.noZero, blankAfter.noZero, by decide,
          induction⟩
  | lastMember member induction => exact induction
  | moreMembers member members first rest =>
      simpa using ⟨first, rest⟩

theorem Document.noZero {text : List UInt8} (document : Document text) :
    NoZero text :=
  Derives.noZero document

end PokerBackend.Lib.JsonGrammar
