import PokerBackend.Net.ReadLoop

/-!
# Who is among the participants

Whether a connection is among the participants can be read off the history of
the run: it has been accepted, and no read or write of it has failed.
-/

namespace PokerBackend.Net.Participants

open PokerBackend.Lib.Execution
open PokerBackend.Net.MesHandler
open PokerBackend.Net.ReadLoop
open PokerBackend.Net.TcpServer

/-- The connection has been accepted in the run. -/
def Accepted (labels : List Label) (conn : ConnId) : Prop :=
  ∃ label ∈ labels, label.1 = .accepted conn

/-- The event makes the handler call `del_connection` on its connection. -/
def Removes : Event → Prop
  | .headerFailed _ | .bodyFailed _ _ | .writeFailed _ _ => True
  | _ => False

/-- A read or a write of the connection has failed in the run. -/
def Removed (labels : List Label) (conn : ConnId) : Prop :=
  ∃ label ∈ labels, Removes label.1 ∧ label.1.conn = conn

theorem accepted_snoc
    {labels : List Label} {label : Label} {conn : ConnId} :
    Accepted (labels ++ [label]) conn ↔
      Accepted labels conn ∨ label.1 = .accepted conn := by
  simp [Accepted, or_and_right, exists_or]

theorem removed_snoc
    {labels : List Label} {label : Label} {conn : ConnId} :
    Removed (labels ++ [label]) conn ↔
      Removed labels conn ∨ Removes label.1 ∧ label.1.conn = conn := by
  simp [Removed, or_and_right, exists_or]

/-- What the history of a run tells about its connections. -/
structure Recorded (labels : List Label) (state : Server) : Prop where
  conn_lt : ∀ label ∈ labels, label.1.conn < state.accepting
  touched :
    ∀ conn, state.connections conn ≠ .create → Accepted labels conn
  member :
    ∀ conn,
      conn ∈ state.participants ↔
        Accepted labels conn ∧ ¬ Removed labels conn

theorem recorded_start : Recorded [] .start where
  conn_lt := by simp
  touched := by
    intro conn touched
    exact absurd rfl touched
  member := by simp [Server.start, Accepted]

section Step

variable
    {env : Env} {source target : Server} {event : Event}
    {out : Option Exchange} {labels : List Label}

/-- The object being accepted occurs in no earlier event. -/
theorem Recorded.fresh
    (recorded : Recorded labels source) :
    ¬ Accepted labels source.accepting ∧
      ¬ Removed labels source.accepting := by
  constructor
  · rintro ⟨label, member, accepted⟩
    have earlier := recorded.conn_lt label member
    rw [accepted] at earlier
    exact Nat.lt_irrefl _ earlier
  · rintro ⟨label, member, _, same⟩
    have earlier := recorded.conn_lt label member
    rw [same] at earlier
    exact Nat.lt_irrefl _ earlier

theorem Recorded.touched_step
    (recorded : Recorded labels source)
    (change : Change env source event out target) (conn : ConnId)
    (touched : target.connections conn ≠ .create) :
    Accepted (labels ++ [(event, out)]) conn := by
  rw [accepted_snoc]
  by_cases same : conn = event.conn
  · subst conn
    rcases change.accept_or_touched with (rfl | rfl) | earlier
    · exact Or.inr rfl
    · cases change
      exact Or.inl (recorded.touched _ touched)
    · exact Or.inl (recorded.touched _ earlier)
  · rw [change.connections_of_ne same] at touched
    exact Or.inl (recorded.touched conn touched)

theorem Recorded.member_step
    (recorded : Recorded labels source)
    (change : Change env source event out target) (conn : ConnId) :
    conn ∈ target.participants ↔
      Accepted (labels ++ [(event, out)]) conn ∧
        ¬ Removed (labels ++ [(event, out)]) conn := by
  rw [accepted_snoc, removed_snoc]
  by_cases same : conn = event.conn
  · subst conn
    cases change with
    | accepted =>
        simp [Event.conn, afterAccept, Removes, recorded.fresh.2]
    | acceptFailed =>
        have member := recorded.member source.accepting
        simp [Event.conn, Removes, member, recorded.fresh.1]
    | headerFailed conn => simp [Event.conn, afterFailure, Removes]
    | bodyFailed conn => simp [Event.conn, afterFailure, Removes]
    | writeFailed conn => simp [Event.conn, afterFailure, Removes]
    | headerRead conn bytes =>
        simpa [Event.conn, afterHeader, Removes] using recorded.member conn
    | ignored conn bytes =>
        simpa [Event.conn, afterBody, Removes] using recorded.member conn
    | served conn bytes =>
        simpa [Event.conn, afterBody, Removes] using recorded.member conn
    | writeSome conn =>
        simpa [Event.conn, Removes] using recorded.member conn
    | written conn =>
        simpa [Event.conn, Removes] using recorded.member conn
  · rw [change.participants_of_ne same, recorded.member conn]
    have notAccepted : event ≠ .accepted conn := by
      rintro rfl
      exact same rfl
    have notHere : ¬ (Removes event ∧ event.conn = conn) := by
      rintro ⟨_, here⟩
      exact same here.symm
    simp only [notAccepted, notHere, or_false]

/-- The step lemma. -/
theorem Recorded.step
    (recorded : Recorded labels source) (tidy : Tidy source)
    (change : Change env source event out target) :
    Recorded (labels ++ [(event, out)]) target where
  conn_lt := by
    intro label member
    rcases List.mem_append.mp member with earlier | last
    · exact (recorded.conn_lt label earlier).trans_le change.accepting_le
    · rw [List.mem_singleton.mp last]
      exact tidy.conn_lt change
  touched := recorded.touched_step change
  member := recorded.member_step change

end Step

/-- The run lemma. -/
theorem recorded_of_run
    {env : Env} {labels : List Label} {state : Server}
    (run : Run (TcpServer.server env) labels state) :
    Recorded labels state := by
  refine Run.invariant
    (motive := fun labels state => Recorded labels state) ?_ ?_ run
  · exact recorded_start
  · intro labels source label target path step recorded
    exact recorded.step (tidy_of_run path) (step_cases step)

end PokerBackend.Net.Participants
