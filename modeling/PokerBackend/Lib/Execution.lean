import Mathlib.Data.List.Induction

/-!
# Computations that may fail, and runs of a labelled system

The first part inverts a computation in `Except`.

The second part is about runs.  A system has one initial state and a labelled
step relation; a path records its labels, oldest first.  Beside the induction
rule for invariants it contains the rule used for provenance: whatever a cell
holds was put there by the last step which writes the cell, and every later
step of the run leaves it alone.
-/

namespace PokerBackend.Lib.Execution

/-! ## Inverting a computation -/

section Computation

variable {ε α β : Type}

theorem ok_bind (value : α) (next : α → Except ε β) :
    (.ok value >>= next) = next value := rfl

theorem bind_eq_ok_iff
    {first : Except ε α} {next : α → Except ε β} {result : β} :
    (first >>= next) = .ok result ↔
      ∃ value, first = .ok value ∧ next value = .ok result := by
  cases first with
  | ok value => simp [bind, Except.bind]
  | error fault => simp [bind, Except.bind]

theorem bind_eq_error_iff
    {first : Except ε α} {next : α → Except ε β} {fault : ε} :
    (first >>= next) = .error fault ↔
      first = .error fault ∨
        ∃ value, first = .ok value ∧ next value = .error fault := by
  cases first with
  | ok value => simp [bind, Except.bind]
  | error raised => simp [bind, Except.bind]

/-- Building a value from the result cannot fail. -/
theorem bind_pure_eq_error_iff
    {first : Except ε α} {build : α → β} {fault : ε} :
    (first >>= fun value => pure (build value)) = .error fault ↔
      first = .error fault := by
  cases first with
  | ok value => simp [bind, Except.bind, pure, Except.pure]
  | error raised => simp [bind, Except.bind]

/-- It returns exactly when the computation does. -/
theorem exists_bind_pure_eq_ok_iff
    {first : Except ε α} {build : α → β} :
    (∃ result,
        (first >>= fun value => pure (build value)) = .ok result) ↔
      ∃ value, first = .ok value := by
  cases first with
  | ok value => simp [bind, Except.bind, pure, Except.pure]
  | error raised => simp [bind, Except.bind]

theorem pure_eq_ok_iff {value result : α} :
    (pure value : Except ε α) = .ok result ↔ value = result := by
  simp [pure, Except.pure]

theorem mapError_eq_ok_iff
    {ζ : Type} {computed : Except ε α} {rename : ε → ζ} {result : α} :
    computed.mapError rename = .ok result ↔ computed = .ok result := by
  cases computed with
  | ok value => simp [Except.mapError]
  | error fault => simp [Except.mapError]

theorem mapError_eq_error_iff
    {ζ : Type} {computed : Except ε α} {rename : ε → ζ} {renamed : ζ} :
    computed.mapError rename = .error renamed ↔
      ∃ fault, computed = .error fault ∧ rename fault = renamed := by
  cases computed with
  | ok value => simp [Except.mapError]
  | error fault => simp [Except.mapError]

end Computation

/-! ## Histories -/

section History

variable {α : Type}

/-- Every entry of a history is as the entries before it say. -/
def Throughout (motive : List α → α → Prop) (history : List α) : Prop :=
  ∀ before entry after,
    history = before ++ entry :: after → motive before entry

variable {motive : List α → α → Prop}

theorem throughout_nil : Throughout motive [] := by
  intro before entry after split
  simp at split

theorem throughout_snoc {history : List α} {last : α} :
    Throughout motive (history ++ [last]) ↔
      Throughout motive history ∧ motive history last := by
  constructor
  · intro all
    constructor
    · rintro before entry after rfl
      exact all before entry (after ++ [last]) (by simp)
    · exact all history last [] rfl
  · rintro ⟨earlier, atLast⟩ before entry after split
    rcases List.eq_nil_or_concat after with rfl | ⟨rest, final, rfl⟩
    · rcases List.append_inj' split rfl with ⟨rfl, same⟩
      cases same
      exact atLast
    · rw [List.concat_eq_append, ← List.cons_append,
        ← List.append_assoc] at split
      rcases List.append_inj' split rfl with ⟨same, _⟩
      exact earlier before entry rest same

end History

/-! ## Labelled systems and their paths -/

/-- A labelled transition system with one initial state. -/
structure System (σ ε : Type) where
  start : σ
  step : σ → ε → σ → Prop

variable {σ ε σ' ε' ν : Type}

/-- Keep only the steps which satisfy a condition. -/
def System.restrict
    (system : System σ ε) (allowed : σ → ε → σ → Prop) :
    System σ ε where
  start := system.start
  step source label target :=
    system.step source label target ∧ allowed source label target

/-- A path of the system, with the labels of its steps in order. -/
inductive Path (system : System σ ε) : σ → List ε → σ → Prop where
  | nil {source : σ} : Path system source [] source
  | snoc {source middle target : σ} {labels : List ε} {label : ε}
      (init : Path system source labels middle)
      (last : system.step middle label target) :
      Path system source (labels ++ [label]) target

/-- A run is a path from the initial state. -/
abbrev Run (system : System σ ε) (labels : List ε) (state : σ) : Prop :=
  Path system system.start labels state

variable {system : System σ ε}

theorem Path.single
    {source target : σ} {label : ε}
    (step : system.step source label target) :
    Path system source [label] target := by
  rw [← List.nil_append [label]]
  exact .snoc .nil step

theorem Path.append
    {source middle target : σ} {first second : List ε}
    (left : Path system source first middle)
    (right : Path system middle second target) :
    Path system source (first ++ second) target := by
  induction right with
  | nil => simpa using left
  | snoc init last induction =>
      rw [← List.append_assoc]
      exact .snoc induction last

/-- A path with its labels split passes through a state in between. -/
theorem Path.of_append
    {source target : σ} {first second : List ε}
    (path : Path system source (first ++ second) target) :
    ∃ middle,
      Path system source first middle ∧
        Path system middle second target := by
  induction second using List.reverseRecOn generalizing target with
  | nil =>
      rw [List.append_nil] at path
      exact ⟨target, path, .nil⟩
  | append_singleton second label induction =>
      rw [← List.append_assoc] at path
      generalize joined : first ++ second ++ [label] = labels at path
      cases path with
      | nil => simp at joined
      | @snoc middle _ labels other init last =>
          rcases List.append_inj' joined rfl with ⟨same, rest⟩
          subst labels
          cases rest
          obtain ⟨between, before, after⟩ := induction init
          exact ⟨between, before, after.snoc last⟩

theorem Path.of_nil {source target : σ} (path : Path system source [] target) :
    target = source := by
  generalize none : ([] : List ε) = labels at path
  cases path with
  | nil => rfl
  | snoc init last => simp at none

/-- A path with one label is a step. -/
theorem Path.of_single
    {source target : σ} {label : ε}
    (path : Path system source [label] target) :
    system.step source label target := by
  generalize one : [label] = labels at path
  cases path with
  | nil => cases one
  | @snoc middle _ labels other init last =>
      have split : [] ++ [label] = labels ++ [other] := one
      rcases List.append_inj' split rfl with ⟨rfl, same⟩
      cases same
      rw [Path.of_nil init] at last
      exact last

/-- What every step preserves is preserved by every path. -/
theorem Path.preserve
    {motive : σ → Prop}
    (preserved :
      ∀ source label target,
        system.step source label target →
          motive source → motive target)
    {source target : σ} {labels : List ε}
    (path : Path system source labels target)
    (initially : motive source) :
    motive target := by
  induction path with
  | nil => exact initially
  | snoc init last induction => exact preserved _ _ _ last induction

/-- Induction over runs, with the labels so far in view. -/
theorem Run.invariant
    {motive : List ε → σ → Prop}
    (initially : motive [] system.start)
    (preserved :
      ∀ labels source label target,
        Run system labels source →
          system.step source label target →
            motive labels source →
              motive (labels ++ [label]) target)
    {labels : List ε} {state : σ}
    (run : Run system labels state) :
    motive labels state := by
  induction run with
  | nil => exact initially
  | snoc init last induction =>
      exact preserved _ _ _ _ init last induction

/-- What every step of a run tells of its label holds of all its labels. -/
theorem Run.forall_labels
    {motive : ε → Prop}
    (told :
      ∀ labels source label target,
        Run system labels source →
          system.step source label target →
            motive label)
    {labels : List ε} {state : σ}
    (run : Run system labels state) :
    ∀ label ∈ labels, motive label := by
  refine Run.invariant
    (motive := fun labels _ => ∀ label ∈ labels, motive label) ?_ ?_ run
  · simp
  · intro labels source last target path step earlier label member
    rcases List.mem_append.mp member with before | atLast
    · exact earlier label before
    · rw [List.mem_singleton.mp atLast]
      exact told labels source last target path step

/-- What every step tells of its label holds of all labels of a path. -/
theorem Path.forall_labels
    {motive : ε → Prop}
    (told :
      ∀ source label target,
        system.step source label target → motive label)
    {source target : σ} {labels : List ε}
    (path : Path system source labels target) :
    ∀ label ∈ labels, motive label := by
  induction path with
  | nil => simp
  | snoc init last induction =>
      intro label member
      rcases List.mem_append.mp member with before | atLast
      · exact induction label before
      · rw [List.mem_singleton.mp atLast]
        exact told _ _ _ last

theorem Path.of_restrict
    {allowed : σ → ε → σ → Prop}
    {source target : σ} {labels : List ε}
    (path : Path (system.restrict allowed) source labels target) :
    Path system source labels target := by
  induction path with
  | nil => exact .nil
  | snoc init last induction => exact .snoc induction last.1

/-- A path whose labels all satisfy a condition. -/
theorem Path.restrict_labels
    {allowed : ε → Prop} {source target : σ} {labels : List ε}
    (path : Path system source labels target)
    (all : ∀ label ∈ labels, allowed label) :
    Path (system.restrict fun _ label _ => allowed label)
      source labels target := by
  induction path with
  | nil => exact .nil
  | snoc init last induction =>
      refine .snoc (induction ?_) ⟨last, all _ (by simp)⟩
      intro label member
      exact all label (List.mem_append_left _ member)

/-- A step of the system, or, where there is no label, no step at all. -/
def System.stepOrStay
    (system : System σ ε) (source : σ) : Option ε → σ → Prop
  | none, target => target = source
  | some label, target => system.step source label target

/--
Stepwise simulation: when every step of one system is a step of another one
or leaves its view unchanged, every path is a path of the other system.
-/
theorem Path.simulate
    {abstract : System σ' ε'}
    (view : σ → σ') (observe : ε → Option ε')
    (matched :
      ∀ source label target,
        system.step source label target →
          abstract.stepOrStay (view source) (observe label) (view target))
    {source target : σ} {labels : List ε}
    (path : Path system source labels target) :
    Path abstract (view source) (labels.filterMap observe)
      (view target) := by
  induction path with
  | nil => exact .nil
  | @snoc middle target labels label init last induction =>
      have moved := matched _ _ _ last
      rw [List.filterMap_append]
      cases seen : observe label with
      | none =>
          rw [seen] at moved
          rw [List.filterMap_cons_none seen, List.filterMap_nil,
            List.append_nil, show view target = view middle from moved]
          exact induction
      | some other =>
          rw [seen] at moved
          rw [List.filterMap_cons_some seen, List.filterMap_nil]
          exact .snoc induction moved

/-- The system with a history variable, to which each step adds its notes. -/
def System.record
    (system : System σ ε) (notes : σ → ε → σ → List ν) :
    System (σ × List ν) ε where
  start := (system.start, [])
  step source label target :=
    system.step source.1 label target.1 ∧
      target.2 = source.2 ++ notes source.1 label target.1

/-- Every run can be recorded. -/
theorem Run.record
    {labels : List ε} {state : σ} (run : Run system labels state)
    (notes : σ → ε → σ → List ν) :
    ∃ history, Run (system.record notes) labels (state, history) := by
  induction run with
  | nil => exact ⟨[], .nil⟩
  | @snoc middle target labels label init last induction =>
      rcases induction with ⟨history, recorded⟩
      exact
        ⟨history ++ notes middle label target,
          recorded.snoc ⟨last, rfl⟩⟩

/--
Provenance of a cell.  If only the steps in `writes` change the cell, then
its content at the end of a run was put there by the last such step.
-/
theorem Run.lastWrite
    (cell : σ → Option ν) (writes : σ → ε → σ → Prop)
    (initially : cell system.start = none)
    (framed :
      ∀ source label target,
        system.step source label target →
          ¬ writes source label target →
            cell target = cell source)
    {labels : List ε} {state : σ} {value : ν}
    (run : Run system labels state)
    (held : cell state = some value) :
    ∃ before label after source target,
      labels = before ++ label :: after ∧
        Run system before source ∧
          system.step source label target ∧
            writes source label target ∧
              cell target = some value ∧
                Path
                  (system.restrict fun earlier later next =>
                    ¬ writes earlier later next)
                  target after state := by
  revert held
  refine Run.invariant
    (motive := fun labels state =>
      cell state = some value →
        ∃ before label after source target,
          labels = before ++ label :: after ∧
            Run system before source ∧
              system.step source label target ∧
                writes source label target ∧
                  cell target = some value ∧
                    Path
                      (system.restrict fun earlier later next =>
                        ¬ writes earlier later next)
                      target after state)
    ?_ ?_ run
  · intro held
    rw [initially] at held
    cases held
  · intro labels source label target run step induction held
    by_cases written : writes source label target
    · exact
        ⟨labels, label, [], source, target, by simp, run, step,
          written, held, .nil⟩
    · rw [framed source label target step written] at held
      obtain ⟨before, writer, after, first, second, split, past, wrote,
        writes, stored, quiet⟩ := induction held
      refine
        ⟨before, writer, after ++ [label], first, second, ?_, past, wrote,
          writes, stored, .snoc quiet ⟨step, written⟩⟩
      simp [split]

end PokerBackend.Lib.Execution
