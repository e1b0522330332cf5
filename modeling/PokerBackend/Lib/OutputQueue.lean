import Mathlib.Algebra.GroupWithZero.Nat
import PokerBackend.Lib.Execution

/-!
# An output queue drained by one write at a time

A sender keeps its messages in a queue and starts a write of the front
message; the message leaves the queue when the write completes, and a write
that fails is never resumed.  Nothing but the shape of the queue records that
a write is outstanding: a push starts a write exactly when the queue was
empty.

The system of this module allows any number of outstanding writes and any
order of pushes, partial transfers, completions and failures.  `Phase` lists
the shapes which are reachable, and from it follow the four properties users
want: one write at a time, of the front message, outstanding exactly while
the queue is nonempty and no write has failed, with the bytes on the wire
always a prefix of the framed messages in push order.
-/

namespace PokerBackend.Lib.OutputQueue

open PokerBackend.Lib.Execution

variable {μ α : Type}

/-- An outstanding write: the bytes it was given and how many have left. -/
structure Transfer (α : Type) where
  payload : List α
  sent : Nat
deriving DecidableEq

/-- The bytes a transfer puts on the wire when it moves up to `count` more. -/
def Transfer.chunk (transfer : Transfer α) (count : Nat) : List α :=
  (transfer.payload.drop transfer.sent).take count

/-- A transfer after moving up to `count` more bytes. -/
def Transfer.advance (transfer : Transfer α) (count : Nat) : Transfer α :=
  { transfer with sent := transfer.sent + (transfer.chunk count).length }

/--
A queue of messages, the outstanding writes and everything written so far.
-/
structure Outbox (μ α : Type) where
  queue : List μ
  transfers : List (Transfer α)
  wire : List α

/-- What can happen to an outbox. -/
inductive Label (μ : Type) where
  | push (message : μ)
  | progress (index count : Nat)
  | complete (index : Nat)
  | fail (index : Nat)

def Label.pushed : Label μ → List μ
  | .push message => [message]
  | _ => []

def Label.failed : Label μ → Bool
  | .fail _ => true
  | _ => false

/-- The messages pushed along a run, oldest first. -/
def pushedBy (labels : List (Label μ)) : List μ :=
  labels.flatMap Label.pushed

/-- Some write of the run has failed. -/
def anyFailed (labels : List (Label μ)) : Bool :=
  labels.any Label.failed

/-- The pushes of a run whose events stand for labels or for nothing. -/
theorem pushedBy_filterMap
    {ε : Type} {observe : ε → Option (Label μ)} {pushed : ε → List μ}
    (observed : ∀ event, (observe event).elim [] Label.pushed = pushed event)
    (events : List ε) :
    pushedBy (events.filterMap observe) = events.flatMap pushed := by
  induction events with
  | nil => rfl
  | cons event events induction =>
      rw [List.flatMap_cons, ← observed, ← induction]
      cases seen : observe event with
      | none => rw [List.filterMap_cons_none seen]; rfl
      | some label => rw [List.filterMap_cons_some seen]; rfl

theorem anyFailed_filterMap
    {ε : Type} {observe : ε → Option (Label μ)} {failed : ε → Bool}
    (observed : ∀ event, (observe event).elim false Label.failed = failed event)
    (events : List ε) :
    anyFailed (events.filterMap observe) = events.any failed := by
  induction events with
  | nil => rfl
  | cons event events induction =>
      rw [List.any_cons, ← observed, ← induction]
      cases seen : observe event with
      | none => rw [List.filterMap_cons_none seen]; rfl
      | some label => rw [List.filterMap_cons_some seen]; rfl

section Frame

variable (frame : μ → List α)

/-- Start a write of the front message, if there is one. -/
def Outbox.start (outbox : Outbox μ α) : Outbox μ α :=
  match outbox.queue with
  | [] => outbox
  | front :: _ =>
      { outbox with
        transfers := outbox.transfers ++ [⟨frame front, 0⟩] }

/-- Append a message; start a write exactly when the queue was empty. -/
def Outbox.push (outbox : Outbox μ α) (message : μ) : Outbox μ α :=
  let appended := { outbox with queue := outbox.queue ++ [message] }
  if outbox.queue.isEmpty then appended.start frame else appended

/-- One outstanding write moves some bytes. -/
def Outbox.progress
    (outbox : Outbox μ α) (index count : Nat) : Outbox μ α :=
  match outbox.transfers[index]? with
  | none => outbox
  | some transfer =>
      { outbox with
        transfers :=
          outbox.transfers.set index (transfer.advance count)
        wire := outbox.wire ++ transfer.chunk count }

/--
A write has completed: drop the front message and go on with the next one.
-/
def Outbox.complete (outbox : Outbox μ α) (index : Nat) : Outbox μ α :=
  Outbox.start frame
    { outbox with
      transfers := outbox.transfers.eraseIdx index
      queue := outbox.queue.tail }

/-- A write has failed: it is gone, and nothing else changes. -/
def Outbox.fail (outbox : Outbox μ α) (index : Nat) : Outbox μ α :=
  { outbox with transfers := outbox.transfers.eraseIdx index }

/--
The steps of an outbox.  A write completes successfully only when all of its
bytes have left; it may fail at any time.
-/
inductive Step : Outbox μ α → Label μ → Outbox μ α → Prop where
  | push (outbox : Outbox μ α) (message : μ) :
      Step outbox (.push message) (outbox.push frame message)
  | progress (outbox : Outbox μ α) (index count : Nat) :
      Step outbox (.progress index count) (outbox.progress index count)
  | complete (outbox : Outbox μ α) (index : Nat) (transfer : Transfer α)
      (outstanding : outbox.transfers[index]? = some transfer)
      (finished : transfer.payload.length ≤ transfer.sent) :
      Step outbox (.complete index) (outbox.complete frame index)
  | fail (outbox : Outbox μ α) (index : Nat)
      (outstanding : index < outbox.transfers.length) :
      Step outbox (.fail index) (outbox.fail index)

/-- The outbox system, started empty. -/
def system : System (Outbox μ α) (Label μ) where
  start := ⟨[], [], []⟩
  step := Step frame

/--
The reachable shapes, given the messages pushed and whether a write has
failed: nothing queued; the front message being written; or, after a failed
write, a stuck queue whose front message may have left in part.
-/
inductive Phase : List μ → Bool → Outbox μ α → Prop where
  | idle (done : List μ) :
      Phase done false ⟨[], [], done.flatMap frame⟩
  | writing
      (done : List μ) (front : μ) (rest : List μ) (sent : Nat)
      (within : sent ≤ (frame front).length) :
      Phase (done ++ front :: rest) false
        ⟨front :: rest, [⟨frame front, sent⟩],
          done.flatMap frame ++ (frame front).take sent⟩
  | stuck
      (done : List μ) (front : μ) (rest : List μ) (sent : Nat) :
      Phase (done ++ front :: rest) true
        ⟨front :: rest, [],
          done.flatMap frame ++ (frame front).take sent⟩

variable {frame}

/-- Starting on a nonempty queue with no outstanding write. -/
theorem Phase.started (done : List μ) (front : μ) (rest : List μ) :
    Phase frame (done ++ front :: rest) false
      (Outbox.start frame
        ⟨front :: rest, [], done.flatMap frame⟩) := by
  have shape : Phase frame _ _ _ :=
    .writing done front rest 0 (Nat.zero_le _)
  simpa [Outbox.start] using shape

theorem Phase.push
    {pushed : List μ} {failed : Bool} {outbox : Outbox μ α}
    (phase : Phase frame pushed failed outbox) (message : μ) :
    Phase frame (pushed ++ [message]) failed
      (outbox.push frame message) := by
  cases phase with
  | idle =>
      exact Phase.started _ message []
  | writing done front rest sent within =>
      have shape :=
        Phase.writing done front (rest ++ [message]) sent within
      simpa [Outbox.push] using shape
  | stuck done front rest sent =>
      have shape : Phase frame _ _ _ :=
        .stuck done front (rest ++ [message]) sent
      simpa [Outbox.push] using shape

theorem Phase.progress
    {pushed : List μ} {failed : Bool} {outbox : Outbox μ α}
    (phase : Phase frame pushed failed outbox) (index count : Nat) :
    Phase frame pushed failed (outbox.progress index count) := by
  cases phase with
  | idle => exact Phase.idle pushed
  | stuck done front rest sent => exact Phase.stuck done front rest sent
  | writing done front rest sent within =>
      cases index with
      | succ index => exact Phase.writing done front rest sent within
      | zero =>
          let moved := (((frame front).drop sent).take count).length
          have bound : sent + moved ≤ (frame front).length := by
            simp only [moved, List.length_take, List.length_drop]
            omega
          have joined :
              (frame front).take (sent + moved) =
                (frame front).take sent ++
                  ((frame front).drop sent).take count := by
            rw [List.take_add]
            congr 1
            simp only [moved, List.length_take]
            rw [List.take_eq_take_iff]
            omega
          have shape :=
            Phase.writing done front rest (sent + moved) bound
          rw [joined, ← List.append_assoc] at shape
          exact shape

/-- A successful completion finds the front message fully written. -/
theorem Phase.complete
    {pushed : List μ} {failed : Bool} {outbox : Outbox μ α}
    (phase : Phase frame pushed failed outbox)
    {index : Nat} {transfer : Transfer α}
    (outstanding : outbox.transfers[index]? = some transfer)
    (finished : transfer.payload.length ≤ transfer.sent) :
    Phase frame pushed failed (outbox.complete frame index) := by
  cases phase with
  | idle => simp at outstanding
  | stuck => simp at outstanding
  | writing done front rest sent within =>
      cases index with
      | succ index => simp at outstanding
      | zero =>
          simp only [List.getElem?_cons_zero, Option.some.injEq]
            at outstanding
          subst transfer
          have whole : (frame front).take sent = frame front :=
            List.take_of_length_le finished
          have wire :
              done.flatMap frame ++ (frame front).take sent =
                (done ++ [front]).flatMap frame := by
            rw [whole, List.flatMap_append, List.flatMap_singleton]
          cases rest with
          | nil =>
              have shape : Phase frame _ _ _ := .idle (done ++ [front])
              simpa [Outbox.complete, Outbox.start, wire] using shape
          | cons next rest =>
              have shape : Phase frame _ _ _ :=
                .started (done ++ [front]) next rest
              simpa [Outbox.complete, wire] using shape

theorem Phase.fail
    {pushed : List μ} {failed : Bool} {outbox : Outbox μ α}
    (phase : Phase frame pushed failed outbox)
    {index : Nat} (outstanding : index < outbox.transfers.length) :
    Phase frame pushed true (outbox.fail index) := by
  cases phase with
  | idle => simp at outstanding
  | stuck => simp at outstanding
  | writing done front rest sent within =>
      have first : index = 0 := by simpa using outstanding
      subst index
      exact Phase.stuck done front rest sent

/-- Every reachable outbox is in the phase its history determines. -/
theorem phase_of_run
    {labels : List (Label μ)} {outbox : Outbox μ α}
    (run : Run (system frame) labels outbox) :
    Phase frame (pushedBy labels) (anyFailed labels) outbox := by
  refine Run.invariant
    (motive := fun labels outbox =>
      Phase frame (pushedBy labels) (anyFailed labels) outbox)
    (Phase.idle []) ?_ run
  intro labels source label target _ step phase
  simp only [pushedBy, anyFailed, List.flatMap_append,
    List.flatMap_singleton, List.any_append, List.any_cons,
    List.any_nil, Bool.or_false] at phase ⊢
  cases step with
  | push message =>
      simpa [Label.pushed, Label.failed] using phase.push message
  | progress index count =>
      simpa [Label.pushed, Label.failed] using phase.progress index count
  | complete index transfer outstanding finished =>
      simpa [Label.pushed, Label.failed] using
        phase.complete outstanding finished
  | fail index outstanding =>
      simpa [Label.pushed, Label.failed] using phase.fail outstanding

/--
A system which moves an outbox as the outbox system does is in the phase that
its own history determines.
-/
theorem phase_of_simulation
    {σ ε : Type} {concrete : System σ ε}
    (view : σ → Outbox μ α) (observe : ε → Option (Label μ))
    (initially : view concrete.start = ⟨[], [], []⟩)
    (matched :
      ∀ source label target,
        concrete.step source label target →
          (system frame).stepOrStay (view source) (observe label)
            (view target))
    {labels : List ε} {state : σ}
    (run : Run concrete labels state) :
    Phase frame (pushedBy (labels.filterMap observe))
      (anyFailed (labels.filterMap observe)) (view state) := by
  have simulated := run.simulate view observe matched
  rw [initially] at simulated
  exact phase_of_run simulated

/-! ## What a phase tells -/

section Consequences

variable
    {pushed : List μ} {failed : Bool} {outbox : Outbox μ α}
    (phase : Phase frame pushed failed outbox)

include phase

theorem Phase.one_transfer : outbox.transfers.length ≤ 1 := by
  cases phase <;> simp

/-- An outstanding write is of the front message of the queue. -/
theorem Phase.front_of_transfer
    {transfer : Transfer α} (outstanding : transfer ∈ outbox.transfers) :
    ∃ front rest,
      outbox.queue = front :: rest ∧ transfer.payload = frame front := by
  cases phase with
  | idle => simp at outstanding
  | stuck => simp at outstanding
  | writing done front rest sent within =>
      rw [List.mem_singleton] at outstanding
      subst transfer
      exact ⟨front, rest, rfl, rfl⟩

theorem Phase.transfers_ne_nil_iff (healthy : failed = false) :
    outbox.transfers ≠ [] ↔ outbox.queue ≠ [] := by
  cases phase with
  | idle => simp
  | writing => simp
  | stuck => cases healthy

theorem Phase.wire_pushed : outbox.wire <+: pushed.flatMap frame := by
  have partialFront :
      ∀ (done : List μ) (front : μ) (rest : List μ) (sent : Nat),
        done.flatMap frame ++ (frame front).take sent <+:
          (done ++ front :: rest).flatMap frame := by
    intro done front rest sent
    rw [List.flatMap_append, List.flatMap_cons]
    rw [List.prefix_append_right_inj]
    exact (List.take_prefix sent (frame front)).trans
      (List.prefix_append _ _)
  cases phase with
  | idle => exact List.prefix_refl _
  | writing done front rest sent within =>
      exact partialFront done front rest sent
  | stuck done front rest sent =>
      exact partialFront done front rest sent

end Consequences

/-- Until its write completes, the front message stays in front. -/
theorem front_stays
    {pushed : List μ} {failed : Bool} {source target : Outbox μ α}
    {label : Option (Label μ)}
    (phase : Phase frame pushed failed source)
    (step : (system frame).stepOrStay source label target)
    (pending : source.transfers ≠ [])
    (unfinished : ∀ index, label ≠ some (.complete index)) :
    target.queue.head? = source.queue.head? := by
  cases label with
  | none => rw [show target = source from step]
  | some label =>
      cases step with
      | push message =>
          cases phase with
          | idle => exact absurd rfl pending
          | stuck => exact absurd rfl pending
          | writing => simp [Outbox.push]
      | progress index count =>
          unfold Outbox.progress
          split <;> rfl
      | complete index transfer outstanding finished =>
          exact absurd rfl (unfinished index)
      | fail => rfl

/-! ## What is left to send -/

/-- How many symbols of the queued messages have not left. -/
def Outbox.unsent (frame : μ → List α) (outbox : Outbox μ α) : Nat :=
  (outbox.queue.flatMap frame).length -
    (outbox.transfers.map Transfer.sent).sum

section Parts

variable (frame) (outbox : Outbox μ α)

@[simp]
theorem Outbox.start_wire : (outbox.start frame).wire = outbox.wire := by
  unfold Outbox.start
  split <;> rfl

@[simp]
theorem Outbox.start_queue :
    (outbox.start frame).queue = outbox.queue := by
  unfold Outbox.start
  split <;> rfl

@[simp]
theorem Outbox.push_wire (message : μ) :
    (outbox.push frame message).wire = outbox.wire := by
  simp only [Outbox.push]
  split <;> simp

@[simp]
theorem Outbox.push_queue (message : μ) :
    (outbox.push frame message).queue = outbox.queue ++ [message] := by
  simp only [Outbox.push]
  split <;> simp

@[simp]
theorem Outbox.progress_queue (index count : Nat) :
    (outbox.progress index count).queue = outbox.queue := by
  unfold Outbox.progress
  split <;> rfl

@[simp]
theorem Outbox.complete_wire (index : Nat) :
    (outbox.complete frame index).wire = outbox.wire :=
  Outbox.start_wire frame _

@[simp]
theorem Outbox.complete_queue (index : Nat) :
    (outbox.complete frame index).queue = outbox.queue.tail :=
  Outbox.start_queue frame _

end Parts

section Unsent

variable {pushed : List μ} {outbox : Outbox μ α}

/-- Until a write fails, what has not left is still to be sent. -/
theorem Phase.wire_add_unsent
    (phase : Phase frame pushed false outbox) :
    outbox.wire.length + outbox.unsent frame =
      (pushed.flatMap frame).length := by
  cases phase with
  | idle => simp [Outbox.unsent]
  | writing done front rest sent within =>
      simp only [Outbox.unsent, List.flatMap_append, List.flatMap_cons,
        List.length_append, List.length_take, List.map_singleton,
        List.sum_singleton]
      omega

theorem Phase.unsent_push
    (phase : Phase frame pushed false outbox) (message : μ) :
    Outbox.unsent frame (outbox.push frame message) =
      outbox.unsent frame + (frame message).length := by
  have before := phase.wire_add_unsent
  have after := (phase.push message).wire_add_unsent
  rw [Outbox.push_wire, List.flatMap_append, List.flatMap_singleton,
    List.length_append] at after
  omega

theorem Phase.unsent_progress
    (phase : Phase frame pushed false outbox) (index count : Nat) :
    (outbox.progress index count).wire.length +
        Outbox.unsent frame (outbox.progress index count) =
      outbox.wire.length + outbox.unsent frame := by
  rw [(phase.progress index count).wire_add_unsent, phase.wire_add_unsent]

theorem Phase.unsent_complete
    (phase : Phase frame pushed false outbox)
    {index : Nat} {transfer : Transfer α}
    (outstanding : outbox.transfers[index]? = some transfer)
    (finished : transfer.payload.length ≤ transfer.sent) :
    Outbox.unsent frame (outbox.complete frame index) =
      outbox.unsent frame := by
  have before := phase.wire_add_unsent
  have after := (phase.complete outstanding finished).wire_add_unsent
  rw [Outbox.complete_wire] at after
  omega

/-- A queue that is not empty has a write to go on with, or to complete. -/
theorem Phase.busy
    (phase : Phase frame pushed false outbox) (waiting : outbox.queue ≠ []) :
    ∃ transfer,
      outbox.transfers[0]? = some transfer ∧
        (transfer.payload.length ≤ transfer.sent ∨
          transfer.chunk transfer.payload.length ≠ []) := by
  cases phase with
  | idle => exact absurd rfl waiting
  | writing done front rest sent within =>
      refine ⟨⟨frame front, sent⟩, rfl, ?_⟩
      by_cases finished : (frame front).length ≤ sent
      · exact Or.inl finished
      · right
        apply List.ne_nil_of_length_pos
        simp only [Transfer.chunk, List.length_take, List.length_drop]
        omega

/-- An empty queue has sent everything. -/
theorem Phase.wire_of_empty
    {failed : Bool} (phase : Phase frame pushed failed outbox)
    (empty : outbox.queue = []) :
    outbox.wire = pushed.flatMap frame := by
  cases phase with
  | idle => rfl
  | writing => cases empty
  | stuck => cases empty

end Unsent

end Frame

end PokerBackend.Lib.OutputQueue
