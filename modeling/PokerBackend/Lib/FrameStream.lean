import Mathlib.Data.List.Basic

/-!
# Length-prefixed framing and the reader that undoes it

A frame is a header of fixed width followed by a payload, and the header
tells how long the payload is.  A stream is the concatenation of the frames
of a list of values.  The alignment lemmas say that a reader which has
consumed exactly the frames of some of the values finds the header, and then
the payload, of the next value in front of it, also when it sees only a
prefix of the stream.

A `Reader` is the state machine such a reader is in practice: at any time it
either wants a definite number of symbols or wants nothing any more, and once
it gets exactly those symbols it moves on and may hand a value on.
-/

namespace PokerBackend.Lib.FrameStream

variable {α β σ σ' ω : Type}

/-! ## Aligned prefixes of a stream -/

/-- A framing: a header of fixed width, then a payload. -/
structure Framing (α β : Type) where
  width : Nat
  header : β → List α
  payload : β → List α
  header_length : ∀ value, (header value).length = width

namespace Framing

variable (framing : Framing α β)

/-- The symbols which carry one value. -/
def frame (value : β) : List α :=
  framing.header value ++ framing.payload value

/-- The symbols which carry a list of values. -/
def stream (values : List β) : List α :=
  values.flatMap framing.frame

@[simp]
theorem stream_nil : framing.stream [] = [] := rfl

@[simp]
theorem stream_cons (value : β) (values : List β) :
    framing.stream (value :: values) =
      framing.header value ++
        (framing.payload value ++ framing.stream values) := by
  simp [stream, frame]

theorem stream_append (first second : List β) :
    framing.stream (first ++ second) =
      framing.stream first ++ framing.stream second :=
  List.flatMap_append

theorem stream_snoc (values : List β) (value : β) :
    framing.stream (values ++ [value]) =
      framing.stream values ++
        framing.header value ++ framing.payload value := by
  simp [stream_append]

variable {framing}

/-- An aligned reader which gets `width` symbols has got the next header. -/
theorem next_header
    {values done : List β} {symbols : List α}
    (aligned : done <+: values)
    (full : symbols.length = framing.width)
    (positive : 0 < framing.width)
    (seen : framing.stream done ++ symbols <+: framing.stream values) :
    ∃ value,
      done ++ [value] <+: values ∧ symbols = framing.header value := by
  rcases aligned with ⟨rest, rfl⟩
  rw [stream_append, List.prefix_append_right_inj] at seen
  cases rest with
  | nil =>
      have empty : symbols = [] := List.prefix_nil.mp seen
      rw [empty] at full
      simp at full
      omega
  | cons value rest =>
      rw [stream_cons] at seen
      refine ⟨value, ⟨rest, by simp⟩, ?_⟩
      have widths :
          symbols.length = (framing.header value).length := by
        rw [full, framing.header_length]
      have headerPrefix :
          framing.header value <+:
            framing.header value ++
              (framing.payload value ++ framing.stream rest) :=
        List.prefix_append _ _
      exact
        (List.prefix_of_prefix_length_le seen headerPrefix
          (Nat.le_of_eq widths)).eq_of_length widths

/-- After the header, the announced number of symbols is the payload. -/
theorem next_payload
    {values done : List β} {value : β} {symbols : List α}
    (aligned : done ++ [value] <+: values)
    (full : symbols.length = (framing.payload value).length)
    (seen :
      framing.stream done ++ framing.header value ++ symbols <+:
        framing.stream values) :
    symbols = framing.payload value := by
  rcases aligned with ⟨rest, rfl⟩
  rw [stream_append, stream_snoc, List.append_assoc (_ ++ _),
    List.prefix_append_right_inj] at seen
  have payloadPrefix :
      framing.payload value <+:
        framing.payload value ++ framing.stream rest :=
    List.prefix_append _ _
  exact
    (List.prefix_of_prefix_length_le seen payloadPrefix
      (Nat.le_of_eq full)).eq_of_length full

end Framing

/-! ## Readers -/

/--
A machine which reads a stream in pieces: `want` is the length of the piece
it is waiting for (`none` once it has stopped), and `got` is what it does
with that piece, possibly handing a value on.
-/
structure Reader (σ α ω : Type) where
  want : σ → Option Nat
  got : σ → List α → σ × Option ω

/--
What a reader has made of a stream: its state, the values handed on and what
is left.
-/
structure Progress (σ α ω : Type) where
  state : σ
  handed : List ω
  rest : List α

namespace Reader

variable (reader : Reader σ α ω)

/-- Run a reader on a stream for at most `fuel` pieces. -/
def feed : Nat → σ → List α → Progress σ α ω
  | 0, state, symbols => ⟨state, [], symbols⟩
  | fuel + 1, state, symbols =>
      match reader.want state with
      | none => ⟨state, [], symbols⟩
      | some count =>
          if symbols.length < count then ⟨state, [], symbols⟩
          else
            let next := reader.got state (symbols.take count)
            let progress := feed fuel next.1 (symbols.drop count)
            { progress with handed := next.2.toList ++ progress.handed }

variable {reader}

theorem feed_of_piece
    {fuel count : Nat} {state : σ} {piece symbols : List α}
    (wanted : reader.want state = some count)
    (full : piece.length = count) :
    reader.feed (fuel + 1) state (piece ++ symbols) =
      let next := reader.got state piece
      let progress := reader.feed fuel next.1 symbols
      { progress with handed := next.2.toList ++ progress.handed } := by
  have long : ¬ (piece ++ symbols).length < count := by
    simp [full]
  simp only [feed, wanted, long, if_false]
  rw [← full, List.take_left, List.drop_left]

/-- On a prefix of a stream, a prefix of the values is handed on. -/
theorem feed_part
    {fuel more : Nat} {state : σ} {part symbols : List α}
    (shorter : part <+: symbols) (enough : fuel ≤ more) :
    (reader.feed fuel state part).handed <+:
      (reader.feed more state symbols).handed := by
  induction fuel generalizing more state part symbols with
  | zero => exact List.nil_prefix
  | succ fuel induction =>
      obtain ⟨more, rfl⟩ : ∃ fewer, more = fewer + 1 :=
        ⟨more - 1, by omega⟩
      cases wanted : reader.want state with
      | none => simp [feed, wanted]
      | some count =>
          by_cases short : part.length < count
          · simp [feed, wanted, short]
          · rcases shorter with ⟨suffix, rfl⟩
            have long : ¬ (part ++ suffix).length < count := by
              rw [List.length_append]
              omega
            have taken :
                (part ++ suffix).take count = part.take count :=
              List.take_append_of_le_length (by omega)
            have dropped :
                (part ++ suffix).drop count = part.drop count ++ suffix :=
              List.drop_append_of_le_length (by omega)
            simp only [feed, wanted, short, long, if_false, taken, dropped]
            rw [List.prefix_append_right_inj]
            exact induction (List.prefix_append _ _) (by omega)

/--
A reader understands a framing at the states in `ready` when from such a
state it takes any header, then the payload the header announces, hands
exactly one value on and is ready again.
-/
structure Understands
    (reader : Reader σ α ω) (framing : Framing α β)
    (ready : σ → Prop) (valid : β → Prop) (out : β → ω) : Prop where
  wantsHeader :
    ∀ state, ready state → reader.want state = some framing.width
  takesFrame :
    ∀ state value, ready state → valid value →
      (reader.got state (framing.header value)).2 = none ∧
        reader.want (reader.got state (framing.header value)).1 =
          some (framing.payload value).length ∧
        (reader.got (reader.got state (framing.header value)).1
          (framing.payload value)).2 = some (out value) ∧
        ready (reader.got (reader.got state (framing.header value)).1
          (framing.payload value)).1

/-- A reader that understands the framing undoes it and stays ready. -/
theorem feed_stream
    {framing : Framing α β} {ready : σ → Prop} {valid : β → Prop}
    {out : β → ω}
    (understands : reader.Understands framing ready valid out)
    (values : List β) (allValid : ∀ value ∈ values, valid value)
    {fuel : Nat} (enough : 2 * values.length ≤ fuel)
    (positive : 0 < framing.width)
    {state : σ} (isReady : ready state) :
    (reader.feed fuel state (framing.stream values)).handed =
        values.map out ∧
      (reader.feed fuel state (framing.stream values)).rest = [] ∧
      ready (reader.feed fuel state (framing.stream values)).state := by
  induction values generalizing fuel state with
  | nil =>
      cases fuel with
      | zero => exact ⟨rfl, rfl, isReady⟩
      | succ fuel =>
          simp [feed, understands.wantsHeader state isReady, positive,
            isReady]
  | cons value values induction =>
      obtain ⟨fewer, rfl⟩ : ∃ fewer, fuel = fewer + 1 + 1 := by
        rw [List.length_cons] at enough
        exact ⟨fuel - 2, by omega⟩
      have valueValid : valid value := allValid value List.mem_cons_self
      rcases understands.takesFrame state value isReady valueValid with
        ⟨silent, wantsPayload, handsOn, readyAgain⟩
      have restValid : ∀ later ∈ values, valid later := by
        intro later member
        exact allValid later (List.mem_cons_of_mem value member)
      have restEnough : 2 * values.length ≤ fewer := by
        rw [List.length_cons] at enough
        omega
      have tail := induction restValid restEnough readyAgain
      rw [Framing.stream_cons,
        feed_of_piece (understands.wantsHeader state isReady)
          (framing.header_length value)]
      simp only [feed_of_piece wantsPayload rfl, silent, handsOn,
        Option.toList_none, Option.toList_some, List.nil_append,
        List.singleton_append, List.map_cons]
      exact ⟨congrArg _ tail.1, tail.2⟩

/-- What every piece preserves holds of every state the reader reaches. -/
theorem feed_preserve
    {motive : σ → Prop}
    (preserved :
      ∀ state piece,
        reader.want state = some piece.length →
          motive state → motive (reader.got state piece).1)
    {fuel : Nat} {state : σ} {symbols : List α}
    (initially : motive state) :
    motive (reader.feed fuel state symbols).state := by
  induction fuel generalizing state symbols with
  | zero => exact initially
  | succ fuel induction =>
      cases wanted : reader.want state with
      | none => simpa [feed, wanted] using initially
      | some count =>
          by_cases short : symbols.length < count
          · simpa [feed, wanted, short] using initially
          · have full : (symbols.take count).length = count :=
              List.length_take_of_le (Nat.le_of_not_lt short)
            have next :=
              preserved state (symbols.take count)
                (wanted.trans (congrArg some full.symm)) initially
            simpa only [feed, wanted, short, if_false] using induction next

end Reader

/-! ## Streams of any content -/

/--
What a reader makes of the symbols of a header: it is refused, or it tells
the length of the payload.
-/
structure HeaderFormat (α : Type) where
  width : Nat
  size : List α → Option Nat

/--
How a stream of any content divides into payloads.  Nothing is read after a
header that is refused, and a piece that is not there completely is left.
-/
inductive HeaderFormat.Scan (format : HeaderFormat α) :
    List α → List (List α) → List α → Prop where
  | short {rest : List α} (short : rest.length < format.width) :
      Scan format rest [] rest
  | refused {header rest : List α}
      (full : header.length = format.width)
      (refused : format.size header = none) :
      Scan format (header ++ rest) [] rest
  | waiting {header rest : List α} {size : Nat}
      (full : header.length = format.width)
      (announced : format.size header = some size)
      (short : rest.length < size) :
      Scan format (header ++ rest) [] rest
  | frame {header payload symbols rest : List α} {payloads : List (List α)}
      (full : header.length = format.width)
      (announced : format.size header = some payload.length)
      (later : Scan format symbols payloads rest) :
      Scan format (header ++ (payload ++ symbols)) (payload :: payloads) rest

/-- Every payload that is read costs the width of its header, and itself. -/
theorem HeaderFormat.Scan.length_le
    {format : HeaderFormat α} {symbols rest : List α}
    {payloads : List (List α)}
    (scan : format.Scan symbols payloads rest) :
    payloads.length * format.width + payloads.flatten.length +
        rest.length ≤
      symbols.length := by
  induction scan with
  | short => simp
  | refused => simp
  | waiting => simp
  | frame full announced later induction =>
      simp only [List.length_cons, List.flatten_cons, List.length_append,
        Nat.add_one_mul, full]
      omega

namespace Reader

/--
A reader follows a header format when from a ready state it takes any header,
stops if the header is refused, and otherwise takes exactly the payload that
was announced, hands it on and is ready again.
-/
structure Follows
    (reader : Reader σ α (List α)) (format : HeaderFormat α)
    (ready : σ → Prop) : Prop where
  wantsHeader :
    ∀ state, ready state → reader.want state = some format.width
  silent :
    ∀ state header, ready state → header.length = format.width →
      (reader.got state header).2 = none
  wantsPayload :
    ∀ state header, ready state → header.length = format.width →
      reader.want (reader.got state header).1 = format.size header
  takesPayload :
    ∀ state header payload, ready state →
      header.length = format.width →
        format.size header = some payload.length →
          (reader.got (reader.got state header).1 payload).2 =
              some payload ∧
            ready (reader.got (reader.got state header).1 payload).1

/--
A reader that follows a format understands every framing whose headers
announce their payloads in that format.
-/
theorem Follows.understands
    {reader : Reader σ α (List α)} {format : HeaderFormat α}
    {ready : σ → Prop} {framing : Framing α β} {valid : β → Prop}
    (follows : reader.Follows format ready)
    (width : framing.width = format.width)
    (announces :
      ∀ value, valid value →
        format.size (framing.header value) =
          some (framing.payload value).length) :
    reader.Understands framing ready valid framing.payload where
  wantsHeader state isReady := by
    rw [width]
    exact follows.wantsHeader state isReady
  takesFrame := by
    intro state value isReady isValid
    have full : (framing.header value).length = format.width :=
      (framing.header_length value).trans width
    have announced := announces value isValid
    refine
      ⟨follows.silent state _ isReady full, ?_,
        follows.takesPayload state _ _ isReady full announced⟩
    rw [follows.wantsPayload state _ isReady full]
    exact announced

/-- A reader whose states, seen through `view`, are those of another one. -/
structure Simulates
    (reader : Reader σ α ω) (other : Reader σ' α ω) (view : σ → σ') :
    Prop where
  want : ∀ state, reader.want state = other.want (view state)
  got :
    ∀ state piece,
      view (reader.got state piece).1 = (other.got (view state) piece).1 ∧
        (reader.got state piece).2 = (other.got (view state) piece).2

namespace Simulates

variable
    {reader : Reader σ α ω} {other : Reader σ' α ω} {view : σ → σ'}

/-- Fed with the same stream, both hand the same values on. -/
theorem feed
    (simulates : reader.Simulates other view)
    (fuel : Nat) (state : σ) (symbols : List α) :
    view (reader.feed fuel state symbols).state =
        (other.feed fuel (view state) symbols).state ∧
      (reader.feed fuel state symbols).handed =
        (other.feed fuel (view state) symbols).handed ∧
      (reader.feed fuel state symbols).rest =
        (other.feed fuel (view state) symbols).rest := by
  induction fuel generalizing state symbols with
  | zero => exact ⟨rfl, rfl, rfl⟩
  | succ fuel induction =>
      have want := simulates.want state
      cases wanted : reader.want state with
      | none =>
          rw [wanted] at want
          simp [Reader.feed, wanted, ← want]
      | some count =>
          rw [wanted] at want
          by_cases short : symbols.length < count
          · simp [Reader.feed, wanted, ← want, short]
          · have got := simulates.got state (symbols.take count)
            have rest :=
              induction (reader.got state (symbols.take count)).1
                (symbols.drop count)
            rw [got.1] at rest
            simp only [Reader.feed, wanted, ← want, short, if_false, got.2]
            exact ⟨rest.1, congrArg _ rest.2.1, rest.2.2⟩

/-- With the other reader it follows a format. -/
theorem follows
    {reader : Reader σ α (List α)} {other : Reader σ' α (List α)}
    {format : HeaderFormat α} {ready : σ' → Prop}
    (simulates : reader.Simulates other view)
    (otherFollows : other.Follows format ready) :
    reader.Follows format fun state => ready (view state) where
  wantsHeader state isReady :=
    (simulates.want state).trans
      (otherFollows.wantsHeader (view state) isReady)
  silent state header isReady full :=
    (simulates.got state header).2.trans
      (otherFollows.silent (view state) header isReady full)
  wantsPayload state header isReady full := by
    rw [simulates.want, (simulates.got state header).1]
    exact otherFollows.wantsPayload (view state) header isReady full
  takesPayload state header payload isReady full announced := by
    have taken :=
      otherFollows.takesPayload (view state) header payload isReady full
        announced
    rw [(simulates.got _ payload).2, (simulates.got _ payload).1,
      (simulates.got state header).1]
    exact taken

end Simulates

/-- A stream of at least `count` symbols splits after the first `count`. -/
theorem exists_append_of_le {symbols : List α} {count : Nat}
    (long : count ≤ symbols.length) :
    ∃ first rest, symbols = first ++ rest ∧ first.length = count :=
  ⟨symbols.take count, symbols.drop count,
    (List.take_append_drop count symbols).symm,
    List.length_take_of_le long⟩

/-- A reader that has stopped, or has too little to go on, stays put. -/
theorem feed_of_waiting
    {reader : Reader σ α ω} {fuel : Nat} {state : σ} {symbols : List α}
    (waiting :
      ∀ count, reader.want state = some count → symbols.length < count) :
    reader.feed fuel state symbols = ⟨state, [], symbols⟩ := by
  cases fuel with
  | zero => rfl
  | succ fuel =>
      cases wanted : reader.want state with
      | none => simp [feed, wanted]
      | some count => simp [feed, wanted, waiting count wanted]

section Follows

variable
    {reader : Reader σ α (List α)} {format : HeaderFormat α}
    {ready : σ → Prop} {state : σ} {header : List α} {fuel : Nat}

theorem Follows.feed_header
    (follows : reader.Follows format ready) (isReady : ready state)
    (full : header.length = format.width) (tail : List α) :
    reader.feed (fuel + 1) state (header ++ tail) =
      reader.feed fuel (reader.got state header).1 tail := by
  rw [feed_of_piece (follows.wantsHeader state isReady) full]
  simp only [follows.silent state header isReady full,
    Option.toList_none, List.nil_append]

theorem Follows.feed_frame
    (follows : reader.Follows format ready) (isReady : ready state)
    (full : header.length = format.width) {payload : List α}
    (announced : format.size header = some payload.length)
    (tail : List α) :
    ∃ next,
      ready next ∧
        reader.feed (fuel + 1 + 1) state (header ++ (payload ++ tail)) =
          { reader.feed fuel next tail with
            handed := payload :: (reader.feed fuel next tail).handed } := by
  have wanted := follows.wantsPayload state header isReady full
  rw [announced] at wanted
  have taken :=
    follows.takesPayload state header payload isReady full announced
  refine ⟨_, taken.2, ?_⟩
  rw [follows.feed_header isReady full, feed_of_piece wanted rfl]
  simp only [taken.1, Option.toList_some, List.singleton_append]

/--
A reader that follows a format divides every stream as the format says; as
every frame takes its header off the stream, it comes to an end.
-/
theorem Follows.feed_scan
    (follows : reader.Follows format ready) (positive : 0 < format.width)
    {symbols : List α} (enough : 2 * symbols.length ≤ fuel)
    (isReady : ready state) :
    format.Scan symbols (reader.feed fuel state symbols).handed
      (reader.feed fuel state symbols).rest := by
  induction fuel using Nat.strongRecOn generalizing state symbols with
  | ind fuel induction =>
    by_cases short : symbols.length < format.width
    · have waiting :
          ∀ count, reader.want state = some count →
            symbols.length < count := by
        intro count wanted
        rw [follows.wantsHeader state isReady] at wanted
        cases wanted
        exact short
      rw [feed_of_waiting waiting]
      exact .short short
    · obtain ⟨fewer, rfl⟩ : ∃ fewer, fuel = fewer + 1 + 1 :=
        ⟨fuel - 2, by omega⟩
      rcases exists_append_of_le (Nat.le_of_not_lt short) with
        ⟨header, tail, rfl, full⟩
      rw [List.length_append] at enough
      have wanted := follows.wantsPayload state header isReady full
      cases announced : format.size header with
      | none =>
          rw [announced] at wanted
          rw [follows.feed_header isReady full,
            feed_of_waiting (by simp [wanted])]
          exact .refused full announced
      | some size =>
          rw [announced] at wanted
          by_cases waits : tail.length < size
          · have waiting :
                ∀ count,
                  reader.want (reader.got state header).1 = some count →
                    tail.length < count := by
              intro count others
              rw [wanted] at others
              cases others
              exact waits
            rw [follows.feed_header isReady full, feed_of_waiting waiting]
            exact .waiting full announced waits
          · rcases exists_append_of_le (Nat.le_of_not_lt waits)
              with ⟨payload, later, rfl, taken⟩
            subst taken
            rcases follows.feed_frame isReady full announced later with
              ⟨next, nextReady, fed⟩
            rw [List.length_append] at enough
            rw [fed]
            exact
              .frame full announced
                (induction fewer (by omega) (by omega) nextReady)

end Follows

end Reader

end PokerBackend.Lib.FrameStream
