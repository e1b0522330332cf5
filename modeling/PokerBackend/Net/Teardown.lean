import PokerBackend.Net.ReadLoop
import PokerBackend.Reference

/-!
# Teardown of connections

A connection should be among the participants exactly while its read loop is
alive.  Two branches break this.  A header that `decode_header` refuses ends
the read loop, and the connection stays among the participants; every other
branch that ends the loop calls `del_connection`.  A write that fails removes
the connection, and a read which is outstanding goes on.  Runs which avoid
both keep the equivalence, and a step which takes either breaks it at once.
-/

namespace PokerBackend.Net.Teardown

open PokerBackend.Lib.Execution
open PokerBackend.Net.MesHandler
open PokerBackend.Net.ReadLoop
open PokerBackend.Net.TcpServer

/-- A connection is registered exactly while a read of it is outstanding. -/
def Complete (server : Server) : Prop :=
  ∀ conn,
    conn ∈ server.participants ↔ (server.connections conn).reads ≠ []

/--
The step takes neither of the two branches: a header that has been read is
accepted, and a write that fails finds no read outstanding.
-/
def Orderly (source : Server) (label : Label) (_ : Server) : Prop :=
  match label.1 with
  | .headerRead _ bytes => Message.headerValue bytes.1 ≤ maxBodyLength
  | .writeFailed conn _ => (source.connections conn).reads = []
  | _ => True

section Step

variable
    {env : Env} {source target : Server} {event : Event}
    {out : Option Exchange}

/-- Only the connection which the step is about can break the equivalence. -/
theorem complete_iff_conn
    (complete : Complete source)
    (change : Change env source event out target) :
    Complete target ↔
      (event.conn ∈ target.participants ↔
        (target.connections event.conn).reads ≠ []) := by
  constructor
  · intro kept
    exact kept event.conn
  · intro here conn
    by_cases same : conn = event.conn
    · rw [same]
      exact here
    · rw [change.participants_of_ne same, change.connections_of_ne same]
      exact complete conn

/-- A header read ends the loop exactly when the header is refused. -/
theorem headerRead_reads_ne_nil
    (tidy : Tidy source) {conn : ConnId} (bytes : HeaderBytes)
    (pending : .header ∈ (source.connections conn).reads) :
    ((afterHeader source conn bytes).connections conn).reads ≠ [] ↔
      Message.headerValue bytes.1 ≤ maxBodyLength := by
  have drained :
      ((source.connections conn).fillHeader bytes).reads = [] :=
    (tidy.loop conn).erase_of_mem pending
  have header :
      ((source.connections conn).fillHeader bytes).readMsg.header =
        bytes.1 :=
    Message.storeHeader_header _ bytes
  rw [afterHeader_connections_same]
  by_cases accepted : Message.headerValue bytes.1 ≤ maxBodyLength
  · have decoded :=
      TcpConnection.headerRead_of_accepted (congrArg _ header) accepted
    simp [Endpoint.reads, decoded.2, accepted]
  · rw [← header] at accepted
    have decoded :=
      TcpConnection.headerRead_of_refused (Nat.lt_of_not_le accepted)
    rw [header] at accepted
    simp only [Endpoint.reads, decoded, accepted, iff_false]
    exact not_not_intro drained

/-- The step lemma: the equivalence survives exactly the orderly steps. -/
theorem complete_iff_orderly
    (tidy : Tidy source) (complete : Complete source)
    (change : Change env source event out target) :
    Complete target ↔ Orderly source (event, out) target := by
  rw [complete_iff_conn complete change]
  have member :
      ∀ {conn : ConnId} {read : ReadOp},
        read ∈ (source.connections conn).reads →
          conn ∈ source.participants := by
    intro conn read pending
    exact (complete conn).mpr (List.ne_nil_of_mem pending)
  cases change with
  | accepted =>
      have waiting := (accept_step env source tidy).2
      refine iff_of_true (iff_of_true (Finset.mem_insert_self _ _) ?_) trivial
      simp only [Event.conn, waiting]
      exact List.cons_ne_nil _ _
  | acceptFailed =>
      exact iff_of_true (complete source.accepting) trivial
  | headerRead conn bytes pending =>
      have here : conn ∈ (afterHeader source conn bytes).participants :=
        member pending
      simp only [Event.conn, Orderly, here, true_iff]
      exact headerRead_reads_ne_nil tidy bytes pending
  | headerFailed conn pending =>
      have drained := (tidy.loop conn).erase_of_mem pending
      simp [Event.conn, Orderly, afterFailure, drained]
  | ignored conn bytes db pending =>
      have here : conn ∈ source.participants := member pending
      simp [Event.conn, Orderly, here, afterBody]
  | served conn bytes db req pending =>
      have here : conn ∈ source.participants := member pending
      simp [Event.conn, Orderly, here, afterBody]
  | bodyFailed conn size pending =>
      have drained := (tidy.loop conn).erase_of_mem pending
      simp [Event.conn, Orderly, afterFailure, drained]
  | writeSome conn index count =>
      simpa [Event.conn, Orderly] using complete conn
  | written conn index =>
      simpa [Event.conn, Orderly] using complete conn
  | writeFailed conn index =>
      simp [Event.conn, Orderly, afterFailure]

end Step

theorem complete_start : Complete .start := by
  intro conn
  simp [Server.start, Endpoint.create]

/-- The run lemma. -/
theorem complete_of_orderly_run
    {env : Env} {labels : List Label} {state : Server}
    (run :
      Run ((TcpServer.server env).restrict Orderly) labels state) :
    Complete state := by
  have invariant : Tidy state ∧ Complete state := by
    refine
      Path.preserve (motive := fun state => Tidy state ∧ Complete state)
        ?_ run ⟨tidy_start, complete_start⟩
    rintro source ⟨event, out⟩ target ⟨step, orderly⟩ ⟨tidy, complete⟩
    have change := step_cases step
    exact
      ⟨tidy.step change,
        (complete_iff_orderly tidy complete change).mpr orderly⟩
  exact invariant.2

/--
In every orderly run the registered connections are those which are being
read, and any step from there which is not orderly breaks the equivalence.
-/
theorem registered_iff_reading
    {env : Env} {labels : List Label} {state : Server}
    (run :
      Run ((TcpServer.server env).restrict Orderly) labels state) :
    (∀ conn,
        conn ∈ state.participants ↔
          (state.connections conn).reads ≠ []) ∧
      ∀ label target,
        (TcpServer.server env).step state label target →
          ((∀ conn,
              conn ∈ target.participants ↔
                (target.connections conn).reads ≠ []) ↔
            Orderly state label target) := by
  have complete := complete_of_orderly_run run
  constructor
  · exact complete
  · intro label target step
    exact
      complete_iff_orderly (tidy_of_run run.of_restrict) complete
        (step_cases step)

/-- A connection that waits for the body its first header announced. -/
theorem registered_iff_reading_firstBody :
    (0 ∈ (firstBody (Reference.env []) 77 (by decide)).participants ↔
      ((firstBody (Reference.env []) 77 (by decide)).connections 0).reads ≠
        []) := by
  have accepted :
      Run ((TcpServer.server (Reference.env [])).restrict Orderly)
        [(.accepted 0, none)] (firstConnection (Reference.env [])) :=
    Path.single ⟨(accept_step _ .start tidy_start).1, trivial⟩
  have header :=
    (header_step (Reference.env [])
      (firstConnection_reads (Reference.env [])) 77 (by decide)).1
  have orderly :
      Message.headerValue (headerOf 77 (by decide)).1 ≤ maxBodyLength := by
    decide
  exact (registered_iff_reading (accepted.snoc ⟨header, orderly⟩)).1 0

/--
The header `9999` is refused; its connection stays registered and is not
read.
-/
theorem refused_header_stays_registered :
    ¬ ∀ labels state,
        Run (TcpServer.server (Reference.env [])) labels state →
          ∀ conn,
            conn ∈ state.participants ↔
              (state.connections conn).reads ≠ [] := by
  intro claimed
  let header : HeaderBytes := ⟨str "9999", by decide⟩
  have accepted := firstConnection_run (Reference.env [])
  have pending :
      .header ∈ ((firstConnection (Reference.env [])).connections 0).reads := by
    rw [firstConnection_reads]
    exact List.mem_singleton_self _
  have refused :
      (TcpServer.server (Reference.env [])).step
        (firstConnection (Reference.env [])) (.headerRead 0 header, none)
        (afterHeader (firstConnection (Reference.env [])) 0 header) :=
    step_of_change (.headerRead 0 header pending)
  have reading :=
    (claimed _ _ (accepted.snoc refused) 0).mp (Finset.mem_insert_self 0 _)
  rw [headerRead_reads_ne_nil (tidy_of_run accepted) header pending] at reading
  exact absurd reading (by decide)

end PokerBackend.Net.Teardown
