import PokerBackend.Net.FrameLoop
import PokerBackend.Net.ReadLoop

/-!
# Reading a stream of any content

Nothing is assumed of the bytes that the read loops get.  A header is taken
for the `int` that `atoi` reads in it; the body is read into the buffer and
handed on if that `int` is between 0 and 2044, and otherwise the loop reads
no more.
-/

namespace PokerBackend.Net.FrameLoop

open PokerBackend.Lib.FrameStream

/-- A piece the loop waited for takes it from one phase to another. -/
theorem readPhase_got
    {connection : TcpConnection} {piece : Bytes}
    (wanted : tcpReader.want connection = some piece.length)
    (phase : ReadPhase connection) :
    ReadPhase (tcpReader.got connection piece).1 := by
  change want connection = _ at wanted
  cases phase with
  | stopped none =>
      rw [want, none] at wanted
      cases wanted
  | header one =>
      rw [want, one] at wanted
      have full : piece.length = headerLength :=
        (Option.some.inj wanted).symm
      have pending : ReadOp.header ∈ connection.reads := by
        rw [one]
        exact List.mem_singleton_self _
      rw [got_header one full]
      exact (ReadPhase.header one).headerRead pending ⟨piece, full⟩
  | body one =>
      rw [want, one] at wanted
      have full := Option.some.inj wanted
      rw [full] at one
      exact
        .header (got_body (full ▸ connection.readMsg.bodyLength_le) one
          full).2

section Safety

variable {σ : Type}

/--
What a loop makes of a stream.  The outstanding body read is always of the
announced length and inside `data_[4, 2048)`; the bodies handed on are those
into which the headers divide the stream, up to the first header that is
refused; and every one of them has cost its four header bytes.
-/
structure ReadsSafely
    (reader : Reader σ UInt8 Bytes) (view : σ → Endpoint) (state : σ)
    (stream : Bytes) : Prop where
  inside :
    ∀ fuel size,
      .body size ∈ (view (reader.feed fuel state stream).state).reads →
        (view (reader.feed fuel state stream).state).readMsg.bodyLength =
            size ∧
          headerLength + size ≤ 2048
  divides :
    ∀ fuel, 2 * stream.length ≤ fuel →
      headerFormat.Scan stream (reader.feed fuel state stream).handed
        (reader.feed fuel state stream).rest
  consumes :
    ∀ fuel, 2 * stream.length ≤ fuel →
      4 * (reader.feed fuel state stream).handed.length +
            (reader.feed fuel state stream).handed.flatten.length +
          (reader.feed fuel state stream).rest.length ≤
        stream.length
  earlier :
    ∀ fuel more, fuel ≤ more →
      (reader.feed fuel state stream).handed <+:
        (reader.feed more state stream).handed

theorem readsSafely_of_follows
    {reader : Reader σ UInt8 Bytes} {view : σ → Endpoint} {state : σ}
    {stream : Bytes}
    (follows : reader.Follows headerFormat fun state => Ready (view state))
    (phase : ∀ fuel, ReadPhase (view (reader.feed fuel state stream).state))
    (ready : Ready (view state)) :
    ReadsSafely reader view state stream where
  inside := by
    intro fuel size pending
    have announced := (phase fuel).bodyLength_of_mem pending
    have bound :=
      (view (reader.feed fuel state stream).state).readMsg.bodyLength_le
    rw [announced, maxBodyLength_eq] at bound
    refine ⟨announced, ?_⟩
    rw [headerLength_eq]
    omega
  divides fuel enough := follows.feed_scan (by decide) enough ready
  consumes := by
    intro fuel enough
    have scan := follows.feed_scan (by decide) enough ready
    have bound := scan.length_le
    rw [Nat.mul_comm] at bound
    exact bound
  earlier fuel more less :=
    Reader.feed_part (List.prefix_refl stream) less

end Safety

/--
On streams of any content: `decode_header` accepts a header exactly if the
`int` of `atoi` is between 0 and 2044, which is then the body length, and
otherwise leaves an empty body; and both loops read safely.
-/
theorem read_loops_safe :
    (∀ message : Message,
      (message.decodeHeader.1 = true ↔
          0 ≤ CString.atoi (CString.cStr message.header) ∧
            CString.atoi (CString.cStr message.header) ≤ 2044) ∧
        (message.decodeHeader.1 = true →
          (message.decodeHeader.2.bodyLength : Int) =
            CString.atoi (CString.cStr message.header)) ∧
        (message.decodeHeader.1 = false →
          message.decodeHeader.2.bodyLength = 0)) ∧
      (∀ (connection : TcpConnection) (stream : Bytes),
        Ready connection →
          ReadsSafely tcpReader (fun connection => connection) connection
            stream) ∧
        ∀ (client : Client) (stream : Bytes),
          Ready client.toEndpoint →
            ReadsSafely clientReader Client.toEndpoint client stream := by
  have phases :
      ∀ (connection : TcpConnection) (stream : Bytes) (fuel : Nat),
        Ready connection →
          ReadPhase (tcpReader.feed fuel connection stream).state := by
    intro connection stream fuel ready
    exact
      Reader.feed_preserve (fun _ _ wanted => readPhase_got wanted)
        (.header ready)
  refine ⟨?_, ?_, ?_⟩
  · intro message
    rcases message.decodeHeader_cases with
      ⟨accepted, low, high, length⟩ | ⟨refused, outside, empty⟩
    · exact
        ⟨⟨fun _ => ⟨low, high⟩, fun _ => accepted⟩, fun _ => length,
          fun refused => absurd (accepted.symm.trans refused) (by decide)⟩
    · refine
        ⟨⟨fun accepted => ?_, fun inside => ?_⟩, fun accepted => ?_,
          fun _ => empty⟩
      · exact absurd (accepted.symm.trans refused) (by decide)
      · have low : 0 ≤ Message.announcedLength message.header := inside.1
        have high : Message.announcedLength message.header ≤ 2044 :=
          inside.2
        omega
      · exact absurd (accepted.symm.trans refused) (by decide)
  · intro connection stream ready
    exact
      readsSafely_of_follows tcpReader_follows
        (fun fuel => phases connection stream fuel ready) ready
  · intro client stream ready
    refine readsSafely_of_follows clientReader_follows (fun fuel => ?_) ready
    rw [(clientReader_simulates.feed fuel client stream).1]
    exact phases client.toEndpoint stream fuel ready

/-- A frame, a header that is refused, and bytes that are never read. -/
theorem read_loops_safe_refused :
    ReadsSafely tcpReader (fun connection => connection)
        (TcpConnection.start .create) (str "   2ok  -1    1x") ∧
      (tcpReader.feed 40 (TcpConnection.start .create)
          (str "   2ok  -1    1x")).handed =
        [str "ok"] := by
  refine ⟨read_loops_safe.2.1 _ _ rfl, ?_⟩
  decide +kernel

end PokerBackend.Net.FrameLoop
