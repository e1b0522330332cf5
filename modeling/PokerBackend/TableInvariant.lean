import PokerBackend.Lib.KeyedTable
import PokerBackend.Net.ReadLoop
import PokerBackend.Reference

/-!
# The representation invariant of the `users` table

No constraint of the database keeps emails or ids apart.  The select before
an insert keeps the emails apart; one more than the maximum is an id which no
row has, and it is at most the number of rows ever inserted, since the
maximum is the id of a row.  Removing rows can lower the maximum, but the
bound counts insertions and does not go down with it.
-/

namespace PokerBackend.TableInvariant

open PokerBackend.Api
open PokerBackend.CString
open PokerBackend.Db
open PokerBackend.Lib.Execution
open PokerBackend.Lib.KeyedTable
open PokerBackend.Net
open PokerBackend.Net.HandlerSpec
open PokerBackend.Net.MesHandler
open PokerBackend.Net.Serving
open PokerBackend.Net.TcpServer

/-- Emails and ids are keys, and ids lie between 1 and the bound. -/
structure WellKeyed (bound : Nat) (table : UsersTable) : Prop where
  emails : UniqueKeys Row.email table
  ids : UniqueKeys Row.userId table
  range : ∀ row ∈ table, 1 ≤ row.userId ∧ row.userId ≤ bound

namespace WellKeyed

variable {bound : Nat} {table : UsersTable}

theorem empty : WellKeyed 0 [] where
  emails := List.nodup_nil
  ids := List.nodup_nil
  range := by
    intro row member
    cases member

/-- The maximum which a registration reads. -/
theorem maxUserId_range (keyed : WellKeyed bound table) :
    0 ≤ table.maxUserId ∧ table.maxUserId ≤ bound := by
  rcases table.maxUserId_cases with ⟨_, none⟩ | ⟨row, member, greatest⟩
  · omega
  · have range := keyed.range row member
    omega

theorem insertNew
    (keyed : WellKeyed bound table) (env : Env) (req : RegisterRequest)
    (free : ∀ row ∈ table, row.email ≠ req.email) :
    WellKeyed (bound + 1) (table.insertInto (newRow env table req)) where
  emails := keyed.emails.append free
  ids := by
    apply keyed.ids.append
    intro row member
    have below := UsersTable.le_maxUserId member
    change row.userId ≠ table.maxUserId + 1
    omega
  range := by
    intro row member
    rcases UsersTable.mem_insertInto.mp member with old | rfl
    · have range := keyed.range row old
      omega
    · have range := keyed.maxUserId_range
      change 1 ≤ table.maxUserId + 1 ∧ table.maxUserId + 1 ≤ _
      omega

theorem removeFrom (keyed : WellKeyed bound table) (email : Bytes) :
    WellKeyed bound (table.removeFrom email) where
  emails := keyed.emails.remove email
  ids := keyed.ids.sublist (List.filter_sublist.map _)
  range := by
    intro row member
    exact keyed.range row (UsersTable.mem_removeFrom.mp member).1

/-- The step lemma: what an exchange does to the table keeps the keys. -/
theorem change
    (keyed : WellKeyed bound table) {env : Env} {exchange : Exchange}
    {next : UsersTable} (effect : TableChange env table exchange next) :
    WellKeyed (bound + (registration exchange).toList.length) next := by
  cases effect with
  | kept noRegistration =>
      rw [noRegistration]
      exact keyed
  | @added req rsp ok free =>
      rw [registration, if_pos ok]
      exact keyed.insertNew env req free
  | removed => exact keyed.removeFrom _

end WellKeyed

/-- The registrations of a run that were answered `OK`, oldest first. -/
def registrations (labels : List Label) : List RegisterRequest :=
  labels.flatMap fun label => (label.2.bind registration).toList

theorem registrations_snoc (labels : List Label) (label : Label) :
    (registrations (labels ++ [label])).length =
      (registrations labels).length +
        (label.2.bind registration).toList.length := by
  simp [registrations]

/-- The run lemma. -/
theorem wellKeyed_of_run
    {env : Env} {labels : List Label} {state : Server}
    (run : Run (TcpServer.server env) labels state) :
    WellKeyed (registrations labels).length state.table := by
  refine Run.invariant
    (motive := fun labels state =>
      WellKeyed (registrations labels).length state.table)
    ?_ ?_ run
  · exact .empty
  · rintro labels source ⟨event, out⟩ target - step keyed
    have change : Change env source event out target := step_cases step
    rw [registrations_snoc]
    rcases change.accounts with ⟨rfl, table, _⟩ | ⟨req, rfl, table, _⟩
    · rw [table]
      exact keyed
    · rw [table]
      exact keyed.change (outcome_table env source.table event.conn req)

/--
Emails and ids are unique, and ids are bounded by the number of successful
registrations; so up to `2 ^ 63 - 2` registrations the next id is a signed
64-bit number which no row has, and ids survive the conversion to `size_t`.
-/
theorem users_table_keys
    {env : Env} {labels : List Label} {state : Server}
    (run : Run (TcpServer.server env) labels state) :
    (state.table.map Row.email).Nodup ∧
      (state.table.map Row.userId).Nodup ∧
      (∀ row ∈ state.table,
        1 ≤ row.userId ∧ row.userId ≤ (registrations labels).length) ∧
      ((registrations labels).length < 2 ^ 63 - 1 →
        -2 ^ 63 ≤ state.table.maxUserId + 1 ∧
          state.table.maxUserId + 1 < 2 ^ 63 ∧
          (∀ row ∈ state.table,
            row.userId ≠ state.table.maxUserId + 1) ∧
          (toSizeT (state.table.maxUserId + 1) : Int) =
            state.table.maxUserId + 1 ∧
          ∀ row ∈ state.table, (toSizeT row.userId : Int) = row.userId) := by
  have keyed := wellKeyed_of_run run
  refine ⟨keyed.emails, keyed.ids, keyed.range, ?_⟩
  intro few
  have greatest := keyed.maxUserId_range
  refine ⟨by omega, by omega, ?_, ?_, ?_⟩
  · intro row member
    have below := UsersTable.le_maxUserId member
    omega
  · exact toSizeT_of_range (by omega) (by omega)
  · intro row member
    have range := keyed.range row member
    exact toSizeT_of_range (by omega) (by omega)

/-- Two players register and the first one leaves again. -/
def comeAndGo : List (Reference.Player × Reference.Deed) :=
  [(.alice, .registers), (.bob, .registers), (.alice, .leaves)]

/-- After that, the next row will get the id 3. -/
theorem users_table_keys_of_game :
    ((Reference.game comeAndGo).table.map Row.userId).Nodup ∧
      (Reference.game comeAndGo).table.maxUserId + 1 < 2 ^ 63 ∧
        (toSizeT ((Reference.game comeAndGo).table.maxUserId + 1) : Int) =
          3 := by
  have few :
      (registrations (Reference.gameLabels comeAndGo)).length <
        2 ^ 63 - 1 := by
    decide +kernel
  have keys := users_table_keys (Reference.game_run comeAndGo)
  have bounds := keys.2.2.2 few
  exact ⟨keys.2.1, bounds.2.1, bounds.2.2.2.1.trans rfl⟩

end PokerBackend.TableInvariant
