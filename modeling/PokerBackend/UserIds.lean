import PokerBackend.Reference
import PokerBackend.TableInvariant

/-!
# Which user ids are given again

A registration takes one more than the greatest id in the table, and rows
leave the table.  So an id can be given twice, but only in one way: the
holder of the greatest id which was ever given has unregistered.

A history variable beside the server collects the ids that were given.
-/

namespace PokerBackend.UserIds

open PokerBackend.Api
open PokerBackend.Db
open PokerBackend.Lib.Execution
open PokerBackend.Net
open PokerBackend.Net.HandlerSpec
open PokerBackend.Net.MesHandler
open PokerBackend.Net.Serving
open PokerBackend.Net.TcpServer
open PokerBackend.TableInvariant

/-- The ids of the rows which a step has inserted. -/
def given (source : Server) (_ : Label) (target : Server) : List Int :=
  (target.table.filter fun row => row ∉ source.table).map Row.userId

/-- The server, with the ids it has given to accounts, oldest first. -/
def system (env : Env) : System (Server × List Int) Label :=
  (TcpServer.server env).record given

/-- No id that was ever given is greater. -/
def Greatest (ids : List Int) (id : Int) : Prop :=
  id ∈ ids ∧ ∀ other ∈ ids, other ≤ id

/-! ## The ids given so far -/

/-- The ids run from 1 to a highest one, and the rows have some of them. -/
structure Numbered (table : UsersTable) (ids : List Int) : Prop where
  upTo :
    ∃ highest : Int,
      0 ≤ highest ∧ ∀ id, id ∈ ids ↔ 1 ≤ id ∧ id ≤ highest
  held : ∀ row ∈ table, row.userId ∈ ids

namespace Numbered

variable {table : UsersTable} {ids : List Int}

theorem empty : Numbered [] [] where
  upTo := by
    refine ⟨0, Int.le_refl 0, ?_⟩
    intro id
    simp only [List.not_mem_nil, false_iff]
    omega
  held := by
    intro row member
    cases member

/-- The greatest id in the table is none or one that was given. -/
theorem maxUserId_le
    (numbered : Numbered table ids) {highest : Int}
    (nonneg : 0 ≤ highest)
    (upTo : ∀ id, id ∈ ids ↔ 1 ≤ id ∧ id ≤ highest) :
    0 ≤ table.maxUserId ∧ table.maxUserId ≤ highest := by
  rcases table.maxUserId_cases with ⟨_, none⟩ | ⟨row, member, greatest⟩
  · omega
  · have range := (upTo _).mp (numbered.held row member)
    omega

/-- The next id was given before when the greatest one is not held now. -/
theorem again_iff (numbered : Numbered table ids) :
    table.maxUserId + 1 ∈ ids ↔
      ∃ id, Greatest ids id ∧ ∀ row ∈ table, row.userId ≠ id := by
  obtain ⟨highest, nonneg, upTo⟩ := numbered.upTo
  have bounds := numbered.maxUserId_le nonneg upTo
  rw [upTo]
  constructor
  · intro again
    refine ⟨highest, ⟨?_, ?_⟩, ?_⟩
    · rw [upTo]
      omega
    · intro other member
      exact ((upTo other).mp member).2
    · intro row member same
      have below := UsersTable.le_maxUserId member
      omega
  · rintro ⟨id, ⟨wasGiven, greatest⟩, gone⟩
    have range := (upTo id).mp wasGiven
    have above : highest ≤ id := by
      apply greatest
      rw [upTo]
      omega
    rcases table.maxUserId_cases with ⟨_, none⟩ | ⟨row, member, same⟩
    · omega
    · have different := gone row member
      omega

theorem sublist
    (numbered : Numbered table ids) {fewer : UsersTable}
    (kept : ∀ row ∈ fewer, row ∈ table) :
    Numbered fewer ids where
  upTo := numbered.upTo
  held row member := numbered.held row (kept row member)

theorem insert
    (numbered : Numbered table ids) {row : Row}
    (next : row.userId = table.maxUserId + 1) :
    Numbered (table.insertInto row) (ids ++ [row.userId]) where
  upTo := by
    obtain ⟨highest, nonneg, upTo⟩ := numbered.upTo
    have bounds := numbered.maxUserId_le nonneg upTo
    refine ⟨max highest row.userId, by omega, ?_⟩
    intro id
    rw [List.mem_append, List.mem_singleton, upTo]
    omega
  held other member := by
    rcases UsersTable.mem_insertInto.mp member with old | rfl
    · exact List.mem_append_left _ (numbered.held other old)
    · exact List.mem_append_right _ List.mem_cons_self

end Numbered

/-! ## Over a run -/

section Run

variable
    {env : Env} {labels : List Label} {label : Label}
    {source target : Server} {ids : List Int}

theorem given_of_subset
    (kept : ∀ row ∈ target.table, row ∈ source.table) :
    given source label target = [] := by
  rw [given, List.map_eq_nil_iff, List.filter_eq_nil_iff]
  intro row member
  simpa using kept row member

theorem given_of_insert {row : Row} (new : row ∉ source.table)
    (inserted : target.table = source.table.insertInto row) :
    given source label target = [row.userId] := by
  have none :
      source.table.filter (fun row => row ∉ source.table) = [] := by
    rw [List.filter_eq_nil_iff]
    intro other member
    simpa using member
  rw [given, inserted, UsersTable.insertInto, List.filter_append, none]
  simp [new]

/-- Only a registration gives an id: the one after the greatest in use. -/
theorem given_cases
    (step : (TcpServer.server env).step source label target) :
    (label.2.bind registration = none ∧
        given source label target = [] ∧
        ∀ row ∈ target.table, row ∈ source.table) ∨
      ∃ req row,
        label.2.bind registration = some req ∧
          given source label target = [row.userId] ∧
          row.userId = source.table.maxUserId + 1 ∧
          target.table = source.table.insertInto row := by
  rcases label with ⟨event, out⟩
  have change : Change env source event out target := step_cases step
  rcases change.accounts with ⟨rfl, table, _⟩ | ⟨req, rfl, table, _⟩
  · have kept : ∀ row ∈ target.table, row ∈ source.table := by
      rw [table]
      exact fun row member => member
    exact Or.inl ⟨rfl, given_of_subset kept, kept⟩
  · have effect := outcome_table env source.table event.conn req
    generalize outcome env source.table event.conn req = result
      at effect table ⊢
    rcases result with ⟨statements, exchange, next, stored⟩
    simp only at effect table ⊢
    cases effect with
    | kept noRegistration =>
        have kept : ∀ row ∈ target.table, row ∈ source.table := by
          rw [table]
          exact fun row member => member
        exact Or.inl ⟨noRegistration, given_of_subset kept, kept⟩
    | added ok free =>
        have new : newRow env source.table _ ∉ source.table :=
          fun member => free _ member rfl
        exact
          Or.inr
            ⟨_, _, if_pos ok, given_of_insert new table, rfl, table⟩
    | removed =>
        have kept : ∀ row ∈ target.table, row ∈ source.table := by
          rw [table]
          exact fun row member => (UsersTable.mem_removeFrom.mp member).1
        exact Or.inl ⟨rfl, given_of_subset kept, kept⟩

/-- The run lemma. -/
theorem numbered_of_run
    (run : Run (system env) labels (source, ids)) :
    Numbered source.table ids ∧
      ids.length = (registrations labels).length := by
  refine Run.invariant
    (motive := fun labels state =>
      Numbered state.1.table state.2 ∧
        state.2.length = (registrations labels).length)
    ⟨.empty, rfl⟩ ?_ run
  rintro labels ⟨source, ids⟩ label ⟨target, longer⟩ - ⟨step, grown⟩
    ⟨numbered, count⟩
  simp only at step grown numbered count ⊢
  rw [grown, List.length_append, count, registrations_snoc]
  rcases given_cases step with
    ⟨none, nothing, kept⟩ | ⟨req, row, some, gives, next, inserted⟩
  · rw [none, nothing, List.append_nil]
    exact ⟨numbered.sublist kept, rfl⟩
  · rw [some, gives, inserted]
    exact ⟨numbered.insert next, rfl⟩

/--
The ids which were given so far are all the numbers from 1 to the greatest of
them, and every row has one of them.  The id that a registration gives was
given before exactly when no row has the greatest one any more.
-/
theorem id_given_again_iff
    (run : Run (system env) labels (source, ids)) :
    ids.length = (registrations labels).length ∧
      (∀ row ∈ source.table, row.userId ∈ ids) ∧
      (∀ id ∈ ids,
        1 ≤ id ∧ ∀ lower, 1 ≤ lower → lower ≤ id → lower ∈ ids) ∧
      ∀ label target id,
        (TcpServer.server env).step source label target →
          id ∈ given source label target →
            (id ∈ ids ↔
              ∃ greatest,
                Greatest ids greatest ∧
                  ∀ row ∈ source.table, row.userId ≠ greatest) := by
  rcases numbered_of_run run with ⟨numbered, count⟩
  refine ⟨count, numbered.held, ?_, ?_⟩
  · obtain ⟨highest, _, upTo⟩ := numbered.upTo
    intro id member
    have range := (upTo id).mp member
    refine ⟨range.1, ?_⟩
    intro lower positive below
    rw [upTo]
    omega
  · intro label target id step gives
    rcases given_cases step with
      ⟨_, nothing, _⟩ | ⟨req, row, _, one, next, _⟩
    · rw [nothing] at gives
      cases gives
    · rw [one, List.mem_singleton] at gives
      rw [gives, next]
      exact numbered.again_iff

end Run

/-- Two players have registered, and the second one has left again. -/
def secondLeaves : List (Reference.Player × Reference.Deed) :=
  [(.alice, .registers), (.bob, .registers), (.bob, .leaves)]

section Again

open PokerBackend.Net.ReadLoop
open PokerBackend.Reference

/-- The second player registers once more. -/
def againBody : BodyBytes :=
  Player.bob.body .registers

/-- The header of this registration has arrived. -/
def announced : Server :=
  afterHeader (game secondLeaves) 0
    (headerOf againBody.1.length againBody.2)

/-- The registration has been served. -/
def registeredAgain : Server :=
  (served playersEnv (afterBody announced 0 againBody) 0
    (Player.bob.request .registers)).updateConnection 0 .doReadHeader

/-- It is given an id that was given before if the greatest is not in use. -/
theorem id_given_again_iff_of_game :
    ∃ labels ids,
      Run (system playersEnv) labels (announced, ids) ∧
        ids.length = 2 ∧
        (∀ row ∈ announced.table, row.userId ∈ ids) ∧
        (∀ id ∈ ids,
          1 ≤ id ∧ ∀ lower, 1 ≤ lower → lower ≤ id → lower ∈ ids) ∧
        (2 ∈ ids ↔
          ∃ greatest,
            Greatest ids greatest ∧
              ∀ row ∈ announced.table, row.userId ≠ greatest) := by
  have header :=
    header_step playersEnv (game_reads secondLeaves)
      againBody.1.length againBody.2
  have run := (game_run secondLeaves).snoc header.1
  rcases Run.record run given with ⟨ids, recorded⟩
  have told := id_given_again_iff recorded
  have two :
      (registrations
          (gameLabels secondLeaves ++
            [(.headerRead 0 (headerOf againBody.1.length againBody.2),
              none)])).length =
        2 := by
    decide +kernel
  have pending :
      .body againBody.1.length ∈ (announced.connections 0).reads := by
    rw [announced, header.2]
    exact List.mem_singleton_self _
  have tidy : Tidy announced := tidy_of_run run
  have known :
      decode playersEnv.rapidjson (bodyMessage announced 0 againBody).body =
        .ok (some (Player.bob.request .registers)) := by
    rw [tidy.bodyMessage_body pending]
    exact decode_body .bob .registers
  have serves :
      Change playersEnv announced (.bodyRead 0 againBody noFaults)
        (some
          (outcome playersEnv announced.table 0
            (Player.bob.request .registers)).exchange)
        registeredAgain :=
    .served 0 againBody noFaults (Player.bob.request .registers) pending
      known (List.findSome?_eq_none_iff.mpr fun _ _ => rfl)
  refine ⟨_, ids, recorded, told.1.trans two, told.2.1, told.2.2.1, ?_⟩
  exact
    told.2.2.2 _ registeredAgain 2 (step_of_change serves)
      (by decide +kernel)

end Again

end PokerBackend.UserIds
