import Mathlib.Data.List.Nodup
import Mathlib.Logic.Function.Basic

/-!
# Lists of rows in which a column is a key

A table is a list of rows.  When a column has no two equal entries, selecting
the rows with a given entry yields at most one row, and the table is a
partial map from entries to rows: appending a row with a new entry and
removing the rows with an entry are the updates of that map.
-/

namespace PokerBackend.Lib.KeyedTable

variable {ρ κ : Type}

/-- No two rows agree in the column. -/
abbrev UniqueKeys (key : ρ → κ) (table : List ρ) : Prop :=
  (table.map key).Nodup

namespace UniqueKeys

variable {key : ρ → κ} {table : List ρ} {new : ρ}

/-- Two rows with the same entry are the same row. -/
theorem row_unique
    (unique : UniqueKeys key table) {first second : ρ}
    (firstMember : first ∈ table) (secondMember : second ∈ table)
    (same : key first = key second) :
    first = second :=
  List.inj_on_of_nodup_map unique firstMember secondMember same

theorem append
    (unique : UniqueKeys key table)
    (free : ∀ row ∈ table, key row ≠ key new) :
    UniqueKeys key (table ++ [new]) := by
  rw [UniqueKeys, List.map_append]
  refine List.nodup_append.mpr ⟨unique, List.nodup_singleton _, ?_⟩
  intro entry taken other isNew
  rcases List.mem_map.mp taken with ⟨row, member, rfl⟩
  rw [List.mem_singleton.mp isNew]
  exact free row member

end UniqueKeys

variable [DecidableEq κ] (key : ρ → κ)

/-- The first row with the given entry. -/
def lookup (table : List ρ) (entry : κ) : Option ρ :=
  table.find? fun row => key row = entry

/-- The rows with the given entry. -/
def select (table : List ρ) (entry : κ) : List ρ :=
  table.filter fun row => key row = entry

/-- The rows without the given entry. -/
def remove (table : List ρ) (entry : κ) : List ρ :=
  table.filter fun row => key row ≠ entry

variable {key} {table : List ρ} {row new : ρ} {entry : κ}

theorem mem_of_lookup (found : lookup key table entry = some row) :
    row ∈ table ∧ key row = entry := by
  have matched := List.find?_some found
  exact ⟨List.mem_of_find?_eq_some found, by simpa using matched⟩

theorem lookup_eq_none_iff :
    lookup key table entry = none ↔ ∀ row ∈ table, key row ≠ entry := by
  simp [lookup]

theorem mem_remove :
    row ∈ remove key table entry ↔ row ∈ table ∧ key row ≠ entry := by
  simp [remove]

namespace UniqueKeys

/-- A selection by key has at most one row. -/
theorem select_eq (unique : UniqueKeys key table) :
    select key table entry = (lookup key table entry).toList := by
  induction table with
  | nil => rfl
  | cons first rest induction =>
      have parts := List.nodup_cons.mp unique
      by_cases matched : key first = entry
      · have absent : select key rest entry = [] := by
          rw [select, List.filter_eq_nil_iff]
          intro row member same
          apply parts.1
          rw [matched, ← of_decide_eq_true same]
          exact List.mem_map_of_mem member
        have found : lookup key (first :: rest) entry = some first :=
          List.find?_cons_of_pos (by simpa using matched)
        rw [found]
        rw [select] at absent ⊢
        rw [List.filter_cons_of_pos (by simpa using matched), absent]
        rfl
      · have skipped :
            lookup key (first :: rest) entry = lookup key rest entry :=
          List.find?_cons_of_neg (by simpa using matched)
        rw [skipped, ← induction parts.2, select,
          List.filter_cons_of_neg (by simpa using matched), select]

theorem remove (unique : UniqueKeys key table) (entry : κ) :
    UniqueKeys key (remove key table entry) :=
  unique.sublist (List.filter_sublist.map _)

end UniqueKeys

/-! ## Updates of the partial map -/

theorem lookup_append (free : ∀ row ∈ table, key row ≠ key new) :
    lookup key (table ++ [new]) =
      Function.update (lookup key table) (key new) (some new) := by
  funext entry
  rw [lookup, List.find?_append]
  by_cases same : entry = key new
  · subst entry
    have absent : table.find? (fun row => key row = key new) = none :=
      lookup_eq_none_iff.mpr free
    rw [absent, Function.update_self]
    simp
  · have other : ¬ key new = entry := fun equal => same equal.symm
    rw [Function.update_of_ne same, lookup]
    simp [other]

theorem lookup_remove :
    lookup key (remove key table entry) =
      Function.update (lookup key table) entry none := by
  funext other
  by_cases same : other = entry
  · subst other
    rw [Function.update_self, lookup_eq_none_iff]
    intro row member
    exact (mem_remove.mp member).2
  · rw [Function.update_of_ne same, lookup, remove, List.find?_filter,
      lookup]
    congr 1
    funext row
    by_cases matched : key row = other
    · simp [matched, same]
    · simp [matched]

end PokerBackend.Lib.KeyedTable
