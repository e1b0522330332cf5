import PokerBackend.Net.Message

/-!
# Assigning narrow and wide strings to a `message`

Both assignment operators clamp the length in `body_length` and then copy the
whole text, each with its own idea of how many bytes that is.  What a caller
expects of them is that the message carries as much of the text as fits; it
does so exactly when all of the text fits.
-/

namespace PokerBackend.Net.Message

/-! ## Wide strings -/

/-- The content of a `std::wstring`. -/
abbrev WideText := List UInt32

/-- `sizeof(wchar_t)` -/
def sizeofWchar : Nat := 4

/-- The object representation of a `wchar_t`, least significant byte first. -/
def wcharBytes (character : UInt32) : Bytes :=
  [character.toUInt8, (character >>> 8).toUInt8,
    (character >>> 16).toUInt8, (character >>> 24).toUInt8]

/-- The memory at `str.data()`. -/
def wideBytes (text : WideText) : Bytes :=
  text.flatMap wcharBytes

theorem wideBytes_length (text : WideText) :
    (wideBytes text).length = text.length * sizeofWchar := by
  induction text with
  | nil => rfl
  | cons character text induction =>
      have four : (wcharBytes character).length = sizeofWchar := rfl
      rw [wideBytes, List.flatMap_cons, List.length_append, four,
        List.length_cons, Nat.add_one_mul, Nat.add_comm]
      exact congrArg (· + _) induction

/--
`operator=(const std::wstring&)`: as for narrow strings, with the length in
bytes.
-/
def assignWide (message : Message) (text : WideText) :
    Except Fault Message :=
  let len := text.length * sizeofWchar
  let encoded := (message.setBodyLength len).encodeHeader
  if fits : headerLength + len ≤ headerLength + maxBodyLength then
    .ok
      (encoded.write headerLength (wideBytes text)
        (by rw [wideBytes_length]; exact fits))
  else .error .bufferOverflow

/-- `message(const std::wstring&)` -/
def ofWideString (text : WideText) : Except Fault Message :=
  init.assignWide text

/-- A wide string is assigned as the bytes it consists of. -/
theorem assignWide_eq (message : Message) (text : WideText) :
    message.assignWide text = message.assign (wideBytes text) := by
  simp only [assignWide, assign, wideBytes_length]

/-! ## What an assignment should do -/

/--
An assignment has stayed inside the buffer, and the message carries the first
`min(n, 2044)` bytes of the text, under a header which says so.
-/
def Carries (result : Except Fault Message) (bytes : Bytes) : Prop :=
  ∃ assigned,
    result = .ok assigned ∧
      assigned.bodyLength = min bytes.length maxBodyLength ∧
        assigned.decodeHeader.1 = true ∧
          assigned.decodeHeader.2.bodyLength =
              min bytes.length maxBodyLength ∧
            assigned.body = bytes.take (min bytes.length maxBodyLength)

/-- An encoded message decodes its own body length. -/
theorem decodeHeader_of_encoded
    {message : Message} (encoded : message.Encoded) :
    message.decodeHeader.1 = true ∧
      message.decodeHeader.2.bodyLength = message.bodyLength := by
  rcases message.decodeHeader_eq with ⟨verdict, _, length⟩
  rw [headerValue_of_encoded encoded] at verdict length
  rw [if_pos message.bodyLength_le] at length
  exact ⟨verdict.trans (decide_eq_true message.bodyLength_le), length⟩

theorem assign_carries_iff (message : Message) (text : Bytes) :
    Carries (message.assign text) text ↔ text.length ≤ maxBodyLength := by
  constructor
  · rintro ⟨assigned, returned, _⟩
    exact (message.assign_eq_ok_iff text).mp ⟨assigned, returned⟩
  · intro fits
    rcases message.assign_of_fits fits with
      ⟨assigned, returned, encoded, carries⟩
    have announced : assigned.bodyLength = text.length := by
      rw [← assigned.body_length, carries]
    have whole : min text.length maxBodyLength = text.length :=
      Nat.min_eq_left fits
    have decoded := decodeHeader_of_encoded encoded
    refine ⟨assigned, returned, ?_, decoded.1, ?_, ?_⟩
    · rw [whole, announced]
    · rw [whole, decoded.2, announced]
    · rw [whole, List.take_length, carries]

/--
Both operators and both constructors do what is expected of them exactly for
the texts of at most 2044 bytes.
-/
theorem assignments_carry_iff
    (message : Message) (text : Bytes) (wideText : WideText) :
    (Carries (message.assign text) text ↔ text.length ≤ 2044) ∧
      (Carries (ofString text) text ↔ text.length ≤ 2044) ∧
        (Carries (message.assignWide wideText) (wideBytes wideText) ↔
          wideText.length * sizeofWchar ≤ 2044) ∧
          (Carries (ofWideString wideText) (wideBytes wideText) ↔
            wideText.length * sizeofWchar ≤ 2044) := by
  have wide (target : Message) :
      Carries (target.assignWide wideText) (wideBytes wideText) ↔
        wideText.length * sizeofWchar ≤ 2044 := by
    rw [assignWide_eq, assign_carries_iff, wideBytes_length]
    rfl
  refine ⟨?_, ?_, ?_, ?_⟩
  · exact assign_carries_iff message text
  · exact assign_carries_iff init text
  · exact wide message
  · exact wide init

/-- The copy of 2045 bytes leaves the buffer. -/
theorem assign_2045_overflows :
    ¬ ∀ (message : Message) (text : Bytes),
      Carries (message.assign text) text := by
  intro claimed
  rcases claimed init (List.replicate 2045 97) with ⟨assigned, returned, _⟩
  rw [assign, dif_neg (by rw [List.length_replicate]; decide)] at returned
  cases returned

end PokerBackend.Net.Message
