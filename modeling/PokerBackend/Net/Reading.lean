import PokerBackend.Net.FrameLoop

/-!
# An endpoint that reads what the other end writes

The bytes an endpoint has taken off its socket are always a prefix of the
bytes the other end has put on the wire.  When these are the frames of
encoded messages, the read loop is aligned with them: it waits for the header
of the next message, or it has just read that header and waits for exactly
the body which follows, or it reads no more.  Every body it completes is then
the body of the next message.
-/

namespace PokerBackend.Net

open PokerBackend.Lib.FrameStream

/--
The read loop of an endpoint, given the messages sent to it and those it has
read.  Once it has stopped, nothing more is known of the bytes it received.
-/
inductive Reading
    (sent done : List Message) (endpoint : Endpoint) : Prop where
  | stopped
      (aligned : done <+: sent)
      (pending : endpoint.reads = [])
  | header
      (aligned : done <+: sent)
      (pending : endpoint.reads = [.header])
      (consumed :
        endpoint.socket.received = Message.framing.stream done)
  | body (value : Message)
      (aligned : done ++ [value] <+: sent)
      (pending : endpoint.reads = [.body value.bodyLength])
      (announced : endpoint.readMsg.bodyLength = value.bodyLength)
      (consumed :
        endpoint.socket.received =
          Message.framing.stream done ++ value.header)

namespace Reading

variable {sent done : List Message} {endpoint : Endpoint}

/-- What has been read is a prefix of what was sent. -/
theorem done_sent (reading : Reading sent done endpoint) :
    done <+: sent := by
  cases reading with
  | stopped aligned => exact aligned
  | header aligned => exact aligned
  | body value aligned => exact (List.prefix_append _ _).trans aligned

/-- More may be sent at any time. -/
theorem more
    (reading : Reading sent done endpoint) {longer : List Message}
    (grown : sent <+: longer) :
    Reading longer done endpoint := by
  cases reading with
  | stopped aligned pending =>
      exact .stopped (aligned.trans grown) pending
  | header aligned pending consumed =>
      exact .header (aligned.trans grown) pending consumed
  | body value aligned pending announced consumed =>
      exact .body value (aligned.trans grown) pending announced consumed

/-- Nothing but the reading side matters. -/
theorem congr
    (reading : Reading sent done endpoint) {other : Endpoint}
    (reads : other.reads = endpoint.reads)
    (readMsg : other.readMsg = endpoint.readMsg)
    (received : other.socket.received = endpoint.socket.received) :
    Reading sent done other := by
  cases reading with
  | stopped aligned pending =>
      exact .stopped aligned (reads.trans pending)
  | header aligned pending consumed =>
      exact .header aligned (reads.trans pending) (received.trans consumed)
  | body value aligned pending announced consumed =>
      exact
        .body value aligned (reads.trans pending)
          (by rw [readMsg, announced]) (received.trans consumed)

/-- A read loop starts on a socket that nothing has been read from. -/
theorem started
    (reads : endpoint.reads = [])
    (received : endpoint.socket.received = []) :
    Reading sent [] endpoint.doReadHeader := by
  refine .header List.nil_prefix ?_ ?_
  · rw [Endpoint.doReadHeader_reads, reads]
    rfl
  · exact received

/-- A read that fails ends the loop. -/
theorem readFailed
    (reading : Reading sent done endpoint) {read : ReadOp}
    (pending : read ∈ endpoint.reads) :
    Reading sent done (endpoint.readFailed read) := by
  refine .stopped reading.done_sent ?_
  rw [Endpoint.readFailed_reads]
  cases reading with
  | stopped _ none =>
      rw [none] at pending
      cases pending
  | header _ one =>
      rw [one, List.mem_singleton] at pending
      rw [one, pending, List.erase_cons_head]
  | body value _ one =>
      rw [one, List.mem_singleton] at pending
      rw [one, pending, List.erase_cons_head]

/--
A header read that completes has got the header of the next message, which is
accepted; the body of that message is awaited next.
-/
theorem header_step
    (reading : Reading sent done endpoint)
    (encoded : ∀ message ∈ sent, message.Encoded)
    (pending : .header ∈ endpoint.reads) {bytes : HeaderBytes}
    (seen :
      (endpoint.fillHeader bytes).socket.received <+:
        Message.framing.stream sent)
    {next : Endpoint}
    (decoded :
      ∀ size,
        Message.headerValue
            (endpoint.fillHeader bytes).readMsg.header = size →
          size ≤ maxBodyLength →
            next.readMsg.bodyLength = size ∧
              next.socket =
                (endpoint.fillHeader bytes).socket.asyncRead
                  (.body size)) :
    Reading sent done next := by
  cases reading with
  | stopped _ none =>
      rw [none] at pending
      cases pending
  | body value _ one =>
      rw [one, List.mem_singleton] at pending
      cases pending
  | header aligned one consumed =>
      have arrived :
          (endpoint.fillHeader bytes).socket.received =
            Message.framing.stream done ++ bytes.1 :=
        congrArg (· ++ bytes.1) consumed
      rw [arrived] at seen
      obtain ⟨value, alignedNext, isHeader⟩ :=
        Framing.next_header aligned bytes.2 (by decide) seen
      obtain rfl : bytes = FrameLoop.headerBytes value :=
        Subtype.ext isHeader
      have valueSent : value ∈ sent :=
        alignedNext.subset (List.mem_append_right _ List.mem_cons_self)
      obtain ⟨length, socket⟩ :=
        decoded value.bodyLength
          (FrameLoop.announced endpoint (encoded value valueSent))
          value.bodyLength_le
      refine
        .body value alignedNext (FrameLoop.reads_of_header one socket)
          length ?_
      rw [socket]
      exact arrived

/-- A header that an aligned loop reads is never refused. -/
theorem header_accepted
    (reading : Reading sent done endpoint)
    (encoded : ∀ message ∈ sent, message.Encoded)
    (pending : .header ∈ endpoint.reads) {bytes : HeaderBytes}
    (seen :
      (endpoint.fillHeader bytes).socket.received <+:
        Message.framing.stream sent) :
    Message.headerValue (endpoint.fillHeader bytes).readMsg.header ≤
      maxBodyLength := by
  cases reading with
  | stopped _ none =>
      rw [none] at pending
      cases pending
  | body value _ one =>
      rw [one, List.mem_singleton] at pending
      cases pending
  | header aligned one consumed =>
      have arrived :
          (endpoint.fillHeader bytes).socket.received =
            Message.framing.stream done ++ bytes.1 :=
        congrArg (· ++ bytes.1) consumed
      rw [arrived] at seen
      obtain ⟨value, alignedNext, isHeader⟩ :=
        Framing.next_header aligned bytes.2 (by decide) seen
      obtain rfl : bytes = FrameLoop.headerBytes value :=
        Subtype.ext isHeader
      have valueSent : value ∈ sent :=
        alignedNext.subset (List.mem_append_right _ List.mem_cons_self)
      rw [FrameLoop.announced endpoint (encoded value valueSent)]
      exact value.bodyLength_le

/--
A body read that completes has got the body of the next message, and the
loop goes on with a header.
-/
theorem body_step
    (reading : Reading sent done endpoint) {bytes : BodyBytes}
    (pending : .body bytes.1.length ∈ endpoint.reads)
    (seen :
      (endpoint.fillBody bytes).socket.received <+:
        Message.framing.stream sent) :
    ∃ value : Message,
      bytes.1 = value.body ∧
        (endpoint.fillBody bytes).readMsg.body = value.body ∧
          Reading sent (done ++ [value])
            (endpoint.fillBody bytes).doReadHeader := by
  cases reading with
  | stopped _ none =>
      rw [none] at pending
      cases pending
  | header _ one =>
      rw [one, List.mem_singleton] at pending
      cases pending
  | body value aligned one announced consumed =>
      have full : bytes.1.length = value.bodyLength := by
        rw [one, List.mem_singleton] at pending
        exact ReadOp.body.inj pending
      have arrived :
          (endpoint.fillBody bytes).socket.received =
            Message.framing.stream done ++ value.header ++ bytes.1 :=
        congrArg (· ++ bytes.1) consumed
      rw [arrived] at seen
      have isBody : bytes.1 = value.body :=
        Framing.next_payload aligned
          (full.trans value.body_length.symm) seen
      rw [← full] at announced one
      have filled := FrameLoop.body_of_body announced one
      refine
        ⟨value, isBody, filled.1.trans isBody,
          .header aligned filled.2 ?_⟩
      rw [Framing.stream_snoc]
      rw [isBody] at arrived
      exact arrived

/--
A loop that has not stopped can read on, if the frame of a message it has not
read yet has been sent completely.
-/
theorem next
    (reading : Reading sent done endpoint) (alive : endpoint.reads ≠ [])
    (behind : done ≠ sent) :
    (.header ∈ endpoint.reads ∧
        ∃ bytes : HeaderBytes,
          (endpoint.fillHeader bytes).socket.received <+:
            Message.framing.stream sent) ∨
      ∃ value ∈ sent,
        .body (FrameLoop.bodyBytes value).1.length ∈ endpoint.reads ∧
          (endpoint.fillBody
              (FrameLoop.bodyBytes value)).socket.received <+:
            Message.framing.stream sent := by
  cases reading with
  | stopped _ none => exact absurd none alive
  | header aligned one consumed =>
      left
      constructor
      · rw [one]
        exact List.mem_singleton_self _
      · rcases aligned with ⟨rest, rfl⟩
        cases rest with
        | nil => exact absurd (List.append_nil done).symm behind
        | cons value rest =>
            refine ⟨FrameLoop.headerBytes value, ?_⟩
            have arrived :
                (endpoint.fillHeader
                    (FrameLoop.headerBytes value)).socket.received =
                  Message.framing.stream done ++ value.header :=
              congrArg (· ++ value.header) consumed
            rw [arrived, Framing.stream_append, Framing.stream_cons,
              List.prefix_append_right_inj]
            exact List.prefix_append _ _
  | body value aligned one announced consumed =>
      right
      refine ⟨value, ?_, ?_, ?_⟩
      · exact aligned.subset (by simp)
      · have size :
            (FrameLoop.bodyBytes value).1.length = value.bodyLength :=
          value.body_length
        rw [one, size]
        exact List.mem_singleton_self _
      · have arrived :
            (endpoint.fillBody
                (FrameLoop.bodyBytes value)).socket.received =
              Message.framing.stream done ++ value.header ++ value.body :=
          congrArg (· ++ value.body) consumed
        rcases aligned with ⟨rest, rfl⟩
        rw [arrived, Framing.stream_append, Framing.stream_snoc]
        exact List.prefix_append _ _

end Reading

end PokerBackend.Net
