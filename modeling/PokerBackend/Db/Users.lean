import PokerBackend.Basic

/-!
# The `users` table

The rows of `tab_user` and the relational meaning of the four kinds of
statement the handlers execute.  A `bigint` is the integer it denotes.  The
column `coins` is neither written nor read by the server and is left out.
-/

namespace PokerBackend.Db

/-- A row of `tab_user`. -/
structure Row where
  nickname : Bytes
  userId : Int
  email : Bytes
  passHash : Bytes
deriving DecidableEq

/-- The rows of the table, oldest first. -/
abbrev UsersTable := List Row

/-- A SQL statement of the server. -/
inductive Statement where
  | selectByEmail (email : Bytes)
  | selectMaxUserId
  | insertInto (row : Row)
  | removeFrom (email : Bytes)
deriving DecidableEq

namespace UsersTable

/-- `select(...).from(table).where(table.email == email)` -/
def selectByEmail (table : UsersTable) (email : Bytes) : List Row :=
  table.filter fun row => row.email = email

/-- `select(max(table.user_id))`; the null of an empty table reads as 0. -/
def maxUserId (table : UsersTable) : Int :=
  ((table.map Row.userId).max?).getD 0

/-- `insert_into(table).set(...)` -/
def insertInto (table : UsersTable) (row : Row) : UsersTable :=
  table ++ [row]

/-- `remove_from(table).where(table.email == email)` -/
def removeFrom (table : UsersTable) (email : Bytes) : UsersTable :=
  table.filter fun row => row.email ≠ email

theorem mem_selectByEmail
    {table : UsersTable} {email : Bytes} {row : Row} :
    row ∈ table.selectByEmail email ↔ row ∈ table ∧ row.email = email := by
  simp [selectByEmail]

theorem mem_removeFrom
    {table : UsersTable} {email : Bytes} {row : Row} :
    row ∈ table.removeFrom email ↔ row ∈ table ∧ row.email ≠ email := by
  simp [removeFrom]

theorem mem_insertInto
    {table : UsersTable} {row other : Row} :
    other ∈ table.insertInto row ↔ other ∈ table ∨ other = row := by
  simp [insertInto]

/-- The maximum is an upper bound of the ids in the table. -/
theorem le_maxUserId
    {table : UsersTable} {row : Row} (member : row ∈ table) :
    row.userId ≤ table.maxUserId := by
  have idMember : row.userId ∈ table.map Row.userId :=
    List.mem_map_of_mem member
  rw [maxUserId]
  cases found : (table.map Row.userId).max? with
  | none =>
      rw [List.max?_eq_none_iff] at found
      rw [found] at idMember
      cases idMember
  | some greatest =>
      exact (List.max?_eq_some_iff.mp found).2 _ idMember

/-- The maximum is the id of a row, or 0 when there is none. -/
theorem maxUserId_cases (table : UsersTable) :
    (table = [] ∧ table.maxUserId = 0) ∨
      ∃ row ∈ table, row.userId = table.maxUserId := by
  rw [maxUserId]
  cases found : (table.map Row.userId).max? with
  | none =>
      rw [List.max?_eq_none_iff, List.map_eq_nil_iff] at found
      exact Or.inl ⟨found, rfl⟩
  | some greatest =>
      have member := (List.max?_eq_some_iff.mp found).1
      exact Or.inr (List.mem_map.mp member)

end UsersTable

end PokerBackend.Db
