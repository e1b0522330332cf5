import PokerBackend.Basic
import PokerBackend.Lib.FrameStream

/-!
# The `message` buffer

`message` is a fixed buffer of four header bytes and at most 2044 body bytes
with the length of the body beside it.  The header is the body length as a
decimal numeral padded with spaces.  The length of the buffer and the bound
on the body length are fields of the structure, so that no operation can
build a message which breaks them.
-/

namespace PokerBackend.Net

open PokerBackend.CString
open PokerBackend.Lib.FrameStream

def headerLength : Nat := 4

def maxBodyLength : Nat := 2048 - headerLength

theorem headerLength_eq : headerLength = 4 := rfl

theorem maxBodyLength_eq : maxBodyLength = 2044 := rfl

/-- `class message`: `data_` and `body_length_`. -/
@[ext]
structure Message where
  data : Bytes
  bodyLength : Nat
  data_length : data.length = headerLength + maxBodyLength
  bodyLength_le : bodyLength ≤ maxBodyLength
deriving DecidableEq

/-- Exactly the bytes a header read asks for. -/
abbrev HeaderBytes := { bytes : Bytes // bytes.length = headerLength }

/-- Bytes which a body read can bring. -/
abbrev BodyBytes := { bytes : Bytes // bytes.length ≤ maxBodyLength }

namespace Message

/-- The default constructor; it leaves `data_` indeterminate. -/
def init : Message where
  data := List.replicate (headerLength + maxBodyLength) 0
  bodyLength := 0
  data_length := List.length_replicate
  bodyLength_le := Nat.zero_le _

/-- `length()` -/
def length (message : Message) : Nat :=
  headerLength + message.bodyLength

/-- `data()[0, length())`: what is sent of a message. -/
def frame (message : Message) : Bytes :=
  message.data.take message.length

/-- The first `header_length` bytes of `data_`. -/
def header (message : Message) : Bytes :=
  message.data.take headerLength

/-- `std::string(body(), body_length())` -/
def body (message : Message) : Bytes :=
  (message.data.drop headerLength).take message.bodyLength

/-- `body_length(new_length)`, which clamps. -/
def setBodyLength (message : Message) (newLength : Nat) : Message :=
  { message with
    bodyLength :=
      if newLength > maxBodyLength then maxBodyLength else newLength
    bodyLength_le := by split <;> omega }

/-- Write bytes into `data_` at an offset where they fit. -/
def write
    (message : Message) (offset : Nat) (bytes : Bytes)
    (fits : offset + bytes.length ≤ headerLength + maxBodyLength) :
    Message :=
  { message with
    data := memcpy message.data offset bytes
    data_length := by
      rw [memcpy_length (by rw [message.data_length]; exact fits)]
      exact message.data_length }

/--
`decode_header()`.  The `int` which `atoi` returns is stored in a `size_t`
before it is compared, so a negative numeral becomes a huge length.
-/
def decodeHeader (message : Message) : Bool × Message :=
  let header := strncat [] message.data headerLength
  let bodyLength := toSizeT (atoi header)
  if accepted : bodyLength ≤ maxBodyLength then
    (true, { message with bodyLength, bodyLength_le := accepted })
  else
    (false,
      { message with bodyLength := 0, bodyLength_le := Nat.zero_le _ })

/-- `encode_header()` -/
def encodeHeader (message : Message) : Message :=
  message.write 0
    ((sprintf4d message.bodyLength).take headerLength)
    (by rw [List.length_take, headerLength_eq, maxBodyLength_eq]; omega)

/--
`operator=(const std::string&)`: the length is clamped, but the copy takes
all of the string.
-/
def assign (message : Message) (text : Bytes) : Except Fault Message :=
  let encoded := (message.setBodyLength text.length).encodeHeader
  if fits :
      headerLength + text.length ≤ headerLength + maxBodyLength then
    .ok (encoded.write headerLength text fits)
  else .error .bufferOverflow

/-- `message(const std::string&)` -/
def ofString (text : Bytes) : Except Fault Message :=
  init.assign text

/-- A completed header read has filled `data()[0, header_length)`. -/
def storeHeader (message : Message) (bytes : HeaderBytes) : Message :=
  message.write 0 bytes.1 (by rw [bytes.2]; omega)

/-- A completed body read has filled the front of `body()`. -/
def storeBody (message : Message) (bytes : BodyBytes) : Message :=
  message.write headerLength bytes.1 (by have := bytes.2; omega)

theorem header_length (message : Message) :
    message.header.length = headerLength := by
  rw [header, List.length_take, message.data_length]
  omega

theorem body_length (message : Message) :
    message.body.length = message.bodyLength := by
  have bound := message.bodyLength_le
  rw [body, List.length_take, List.length_drop, message.data_length]
  omega

theorem frame_eq (message : Message) :
    message.frame = message.header ++ message.body := by
  rw [frame, length, List.take_add, header, body]

theorem write_header
    {message : Message} {offset : Nat} {bytes : Bytes}
    (fits : offset + bytes.length ≤ headerLength + maxBodyLength)
    (after : headerLength ≤ offset) :
    (message.write offset bytes fits).header = message.header := by
  exact memcpy_take after (by rw [message.data_length]; omega)

theorem write_body
    {message : Message} {bytes : Bytes}
    (fits : headerLength + bytes.length ≤ headerLength + maxBodyLength)
    (announced : message.bodyLength = bytes.length) :
    (message.write headerLength bytes fits).body = bytes := by
  change
    ((memcpy message.data headerLength bytes).drop headerLength).take
        message.bodyLength =
      bytes
  rw [announced]
  exact memcpy_drop_take (by rw [message.data_length]; omega)

theorem encodeHeader_header (message : Message) :
    message.encodeHeader.header = sprintf4d message.bodyLength := by
  have bound := message.bodyLength_le
  rw [maxBodyLength_eq] at bound
  have width : (sprintf4d message.bodyLength).length = headerLength :=
    sprintf4d_length (by omega)
  have whole :
      (sprintf4d message.bodyLength).take headerLength =
        sprintf4d message.bodyLength :=
    List.take_of_length_le (by omega)
  have written :=
    @memcpy_drop_take message.data
      ((sprintf4d message.bodyLength).take headerLength) 0 (Nat.zero_le _)
  rw [whole, width, List.drop_zero] at written
  change
    (memcpy message.data 0
        ((sprintf4d message.bodyLength).take headerLength)).take
          headerLength =
      _
  rw [whole]
  exact written

/-! ## Messages built by assignment -/

/-- The header of the message is the numeral of its body length. -/
def Encoded (message : Message) : Prop :=
  message.header = sprintf4d message.bodyLength

/--
Assigning a string which fits: the result carries exactly the string, under
its own numeral, whatever the buffer held before.
-/
theorem assign_of_fits
    (message : Message) {text : Bytes}
    (fits : text.length ≤ maxBodyLength) :
    ∃ assigned,
      message.assign text = .ok assigned ∧
        assigned.Encoded ∧ assigned.body = text := by
  have room :
      headerLength + text.length ≤ headerLength + maxBodyLength := by
    omega
  have announced :
      (message.setBodyLength text.length).bodyLength = text.length :=
    if_neg (by omega)
  refine
    ⟨(message.setBodyLength text.length).encodeHeader.write
      headerLength text room, dif_pos room, ?_, ?_⟩
  · rw [Encoded, write_header room (Nat.le_refl _), encodeHeader_header]
    rfl
  · exact write_body room announced

/-- Assignment returns exactly when the string fits. -/
theorem assign_eq_ok_iff
    (message : Message) (text : Bytes) :
    (∃ assigned, message.assign text = .ok assigned) ↔
      text.length ≤ maxBodyLength := by
  constructor
  · rintro ⟨assigned, returned⟩
    by_contra long
    rw [assign, dif_neg (by omega)] at returned
    cases returned
  · intro fits
    rcases message.assign_of_fits fits with ⟨assigned, returned, _⟩
    exact ⟨assigned, returned⟩

/-- Every message that an assignment returns carries the assigned string. -/
theorem assign_spec
    {message assigned : Message} {text : Bytes}
    (returned : message.assign text = .ok assigned) :
    assigned.Encoded ∧ assigned.body = text ∧
      text.length ≤ maxBodyLength := by
  have fits : text.length ≤ maxBodyLength :=
    (message.assign_eq_ok_iff text).mp ⟨assigned, returned⟩
  rcases message.assign_of_fits fits with ⟨built, again, encoded, carries⟩
  rw [returned] at again
  cases again
  exact ⟨encoded, carries, fits⟩

/-- The message `message(text)` builds of a text which fits. -/
def carrying (text : Bytes) : Message :=
  match ofString text with
  | .ok message => message
  | .error _ => init

theorem ofString_eq
    {text : Bytes} (fits : text.length ≤ maxBodyLength) :
    ofString text = .ok (carrying text) := by
  rcases init.assign_of_fits fits with ⟨assigned, returned, _⟩
  rw [carrying, ofString, returned]

theorem carrying_spec
    {text : Bytes} (fits : text.length ≤ maxBodyLength) :
    (carrying text).Encoded ∧ (carrying text).body = text := by
  have spec := assign_spec (ofString_eq fits)
  exact ⟨spec.1, spec.2.1⟩

/-! ## Decoding a header that has just been read -/

/-- The number `decode_header` reads from four header bytes. -/
def headerValue (bytes : Bytes) : Nat :=
  toSizeT (atoi (cStr bytes))

/--
`decode_header` looks at the four header bytes only, and keeps the buffer.
-/
theorem decodeHeader_eq (message : Message) :
    message.decodeHeader.1 =
        decide (headerValue message.header ≤ maxBodyLength) ∧
      message.decodeHeader.2.data = message.data ∧
      message.decodeHeader.2.bodyLength =
        if headerValue message.header ≤ maxBodyLength then
          headerValue message.header
        else 0 := by
  rw [decodeHeader]
  change
    _ ∧ _ ∧ _ = if toSizeT (atoi (strncat [] message.data headerLength)) ≤
      maxBodyLength then _ else _
  split
  · next accepted =>
      exact ⟨(decide_eq_true accepted).symm, rfl, rfl⟩
  · next refused =>
      exact ⟨(decide_eq_false refused).symm, rfl, rfl⟩

theorem storeHeader_header (message : Message) (bytes : HeaderBytes) :
    (message.storeHeader bytes).header = bytes.1 := by
  have written :=
    @memcpy_drop_take message.data bytes.1 0 (Nat.zero_le _)
  rw [bytes.2, List.drop_zero] at written
  exact written

theorem storeBody_body
    {message : Message} {bytes : BodyBytes}
    (announced : message.bodyLength = bytes.1.length) :
    (message.storeBody bytes).body = bytes.1 :=
  write_body _ announced

/-- The numeral of a length is read back as that length. -/
theorem headerValue_sprintf4d
    {count : Nat} (bound : count ≤ maxBodyLength) :
    headerValue (sprintf4d count) = count := by
  rw [maxBodyLength_eq] at bound
  rw [headerValue, cStr_sprintf4d, atoi_sprintf4d]
  exact toSizeT_natCast (by omega)

/-- The header of an encoded message is accepted and announces its body. -/
theorem headerValue_of_encoded
    {message : Message} (encoded : message.Encoded) :
    headerValue message.header = message.bodyLength := by
  rw [encoded]
  exact headerValue_sprintf4d message.bodyLength_le

/-- The framing of messages on a byte stream. -/
def framing : Framing UInt8 Message where
  width := headerLength
  header := header
  payload := body
  header_length := header_length

@[simp]
theorem framing_frame (message : Message) :
    framing.frame message = message.frame :=
  message.frame_eq.symm

theorem framing_stream (messages : List Message) :
    framing.stream messages = messages.flatMap frame :=
  congrArg (messages.flatMap ·) (funext framing_frame)

end Message

end PokerBackend.Net
