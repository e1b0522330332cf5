import Mathlib.Data.List.Induction
import Mathlib.Logic.Function.Basic

/-!
# Sequential objects, their products and linearizations

A sequential object answers one input after the other.  A list of operations,
each with the process it belongs to, its input and its result, is legal when
these are the results the object gives.

Processes use an object concurrently: at every moment of a trace each of them
has submitted some inputs and has been given some results.  A linearization
is a legal list of operations which explains the results and orders any two
operations as real time does, whenever the first one was answered before the
second one was submitted.  It suffices that every operation takes effect at
one moment between the two.

An object which consists of one cell for each key is used legally exactly
when each of its cells is.
-/

namespace PokerBackend.Lib.SequentialObject

variable {σ I R P ε κ : Type}

/-! ## Objects -/

/-- An initial state, and the result and the next state for each input. -/
structure Object (σ I R : Type) where
  init : σ
  act : σ → I → R × σ

namespace Object

variable (object : Object σ I R)

/-- The results of a sequence of inputs, and the state after it. -/
def run : σ → List I → List R × σ
  | state, [] => ([], state)
  | state, input :: inputs =>
      let first := object.act state input
      let rest := run first.2 inputs
      (first.1 :: rest.1, rest.2)

/-- The state after a sequence of inputs. -/
def after (inputs : List I) : σ :=
  (object.run object.init inputs).2

theorem run_append (state : σ) (first second : List I) :
    object.run state (first ++ second) =
      let before := object.run state first
      let rest := object.run before.2 second
      (before.1 ++ rest.1, rest.2) := by
  induction first generalizing state with
  | nil => rfl
  | cons input first induction =>
      simp only [List.cons_append, run, induction]

@[simp]
theorem after_nil : object.after [] = object.init := rfl

@[simp]
theorem after_snoc (inputs : List I) (input : I) :
    object.after (inputs ++ [input]) =
      (object.act (object.after inputs) input).2 := by
  rw [after, run_append]
  rfl

end Object

/-! ## Operations -/

/-- An input of a process, with the result it was given. -/
structure Operation (P I R : Type) where
  process : P
  input : I
  result : R

/-- The results are those of the object. -/
def Object.Legal
    (object : Object σ I R) (ops : List (Operation P I R)) : Prop :=
  (object.run object.init (ops.map Operation.input)).1 =
    ops.map Operation.result

section Legal

variable {object : Object σ I R}

theorem Object.legal_nil :
    object.Legal ([] : List (Operation P I R)) := rfl

theorem Object.legal_snoc
    (ops : List (Operation P I R)) (op : Operation P I R) :
    object.Legal (ops ++ [op]) ↔
      object.Legal ops ∧
        (object.act (object.after (ops.map Operation.input)) op.input).1 =
          op.result := by
  rw [Object.Legal, List.map_append, List.map_append, List.map_singleton,
    List.map_singleton, Object.run_append]
  constructor
  · intro same
    rcases List.append_inj' same rfl with ⟨earlier, last⟩
    exact ⟨earlier, List.singleton_inj.mp last⟩
  · rintro ⟨earlier, last⟩
    exact congrArg₂ (· ++ ·) earlier (congrArg (fun result => [result]) last)

/-- Legal results are the first results of any longer list of inputs. -/
theorem Object.Legal.results_initial
    {ops : List (Operation P I R)} (legal : object.Legal ops)
    {inputs : List I} (first : ops.map Operation.input <+: inputs) :
    ops.map Operation.result <+: (object.run object.init inputs).1 := by
  rcases first with ⟨rest, rfl⟩
  rw [Object.run_append, ← legal]
  exact List.prefix_append _ _

/-- The same inputs have the same legal results. -/
theorem Object.Legal.results_eq
    {ops : List (Operation P I R)} (legal : object.Legal ops)
    {P' : Type} {others : List (Operation P' I R)}
    (otherLegal : object.Legal others)
    (same : ops.map Operation.input = others.map Operation.input) :
    ops.map Operation.result = others.map Operation.result := by
  rw [← legal, ← otherLegal, same]

end Legal

/-! ## One cell for each key -/

section Keyed

variable [DecidableEq κ]

/-- The object that has a cell for each key; an input acts on its own cell. -/
def Object.keyed (cell : Object σ I R) (key : I → κ) :
    Object (κ → σ) I R where
  init _ := cell.init
  act state input :=
    let moved := cell.act (state (key input)) input
    (moved.1, Function.update state (key input) moved.2)

variable {cell : Object σ I R} {key : I → κ}

/-- A cell has seen the inputs of its own key, and no others. -/
theorem Object.keyed_after (inputs : List I) (k : κ) :
    (cell.keyed key).after inputs k =
      cell.after (inputs.filter fun input => key input = k) := by
  induction inputs using List.reverseRecOn with
  | nil => rfl
  | append_singleton inputs input induction =>
      rw [Object.after_snoc, List.filter_append]
      by_cases same : key input = k
      · subst same
        simp [Object.keyed, ← induction]
      · have other : k ≠ key input := Ne.symm same
        simp [Object.keyed, same, Function.update_of_ne other]
        exact induction

/-- The result of an input is that of its own cell. -/
theorem Object.keyed_result (inputs : List I) (input : I) :
    ((cell.keyed key).act ((cell.keyed key).after inputs) input).1 =
      (cell.act
        (cell.after
          (inputs.filter fun earlier => key earlier = key input))
        input).1 := by
  rw [← Object.keyed_after]
  rfl

/-- The operations on one cell. -/
def onCell
    (key : I → κ) (k : κ) (ops : List (Operation P I R)) :
    List (Operation P I R) :=
  ops.filter fun op => key op.input = k

theorem onCell_snoc_same (ops : List (Operation P I R)) (op : Operation P I R) :
    onCell key (key op.input) (ops ++ [op]) =
      onCell key (key op.input) ops ++ [op] := by
  simp [onCell]

theorem onCell_snoc_of_ne
    (ops : List (Operation P I R)) {op : Operation P I R} {k : κ}
    (different : key op.input ≠ k) :
    onCell key k (ops ++ [op]) = onCell key k ops := by
  simp [onCell, different]

theorem map_input_onCell (k : κ) (ops : List (Operation P I R)) :
    (onCell key k ops).map Operation.input =
      (ops.map Operation.input).filter fun input => key input = k := by
  rw [List.filter_map]
  rfl

/-- Locality: a list of operations is legal when it is so for every cell. -/
theorem Object.keyed_legal_iff (ops : List (Operation P I R)) :
    (cell.keyed key).Legal ops ↔
      ∀ k, cell.Legal (onCell key k ops) := by
  induction ops using List.reverseRecOn with
  | nil => exact ⟨fun _ _ => Object.legal_nil, fun _ => Object.legal_nil⟩
  | append_singleton ops op induction =>
      rw [Object.legal_snoc, induction, Object.keyed_result,
        ← map_input_onCell]
      constructor
      · rintro ⟨earlier, last⟩ k
        by_cases same : key op.input = k
        · subst k
          rw [onCell_snoc_same, Object.legal_snoc]
          exact ⟨earlier _, last⟩
        · rw [onCell_snoc_of_ne ops same]
          exact earlier k
      · intro every
        have own := every (key op.input)
        rw [onCell_snoc_same, Object.legal_snoc] at own
        constructor
        · intro k
          by_cases same : key op.input = k
          · subst k
            exact own.1
          · rw [← onCell_snoc_of_ne ops same]
            exact every k
        · exact own.2

end Keyed

/-! ## Linearizations -/

section Linearization

variable [DecidableEq P]

/--
What a trace tells of the processes: the inputs each of them has submitted,
and the results each of them has been given.
-/
structure Observation (ε P I R : Type) where
  submitted : P → List ε → List I
  answered : P → List ε → List R

/-- The operations of one process. -/
def ofProcess (p : P) (ops : List (Operation P I R)) :
    List (Operation P I R) :=
  ops.filter fun op => op.process = p

/-- At the position is the operation of the process after `count` others. -/
def IsOperation
    (ops : List (Operation P I R)) (p : P) (count position : Nat) : Prop :=
  ∃ op,
    ops[position]? = some op ∧ op.process = p ∧
      (ofProcess p (ops.take position)).length = count

/-- A legal order of operations which explains what a trace tells. -/
structure Linearization
    (object : Object σ I R) (observed : Observation ε P I R)
    (trace : List ε) (ops : List (Operation P I R)) : Prop where
  legal : object.Legal ops
  /-- Every process submitted its operations, in this order. -/
  submitted :
    ∀ p,
      (ofProcess p ops).map Operation.input <+: observed.submitted p trace
  /-- The results that were given are those of the operations. -/
  answered :
    ∀ p,
      observed.answered p trace <+: (ofProcess p ops).map Operation.result
  /-- What was answered before another one was submitted comes before it. -/
  realTime :
    ∀ before after, trace = before ++ after →
      ∀ p q first second position other,
        IsOperation ops p first position →
          IsOperation ops q second other →
            first < (observed.answered p before).length →
              (observed.submitted q before).length ≤ second →
                position < other

theorem ofProcess_append
    (p : P) (first second : List (Operation P I R)) :
    ofProcess p (first ++ second) =
      ofProcess p first ++ ofProcess p second :=
  List.filter_append first second

/-- The operations so far, at the position of one of them. -/
theorem IsOperation.lt_of_position_lt
    {first second : List (Operation P I R)} {p : P} {count position : Nat}
    (operation : IsOperation (first ++ second) p count position)
    (early : position < first.length) :
    count < (ofProcess p first).length := by
  rcases operation with ⟨op, found, process, rfl⟩
  rw [List.getElem?_append_left early] at found
  rw [List.take_append_of_le_length (Nat.le_of_lt early)]
  have split : first = first.take position ++ first.drop position :=
    (List.take_append_drop position first).symm
  have rest : first.drop position = op :: first.drop (position + 1) := by
    rw [List.drop_eq_getElem?_toList_append, found]
    rfl
  conv_rhs => rw [split, rest, ofProcess_append]
  simp [ofProcess, process]

theorem IsOperation.le_of_le_position
    {first second : List (Operation P I R)} {p : P} {count position : Nat}
    (operation : IsOperation (first ++ second) p count position)
    (late : first.length ≤ position) :
    (ofProcess p first).length ≤ count := by
  rcases operation with ⟨op, found, process, rfl⟩
  rw [List.take_append, List.take_of_length_le late, ofProcess_append,
    List.length_append]
  exact Nat.le_add_right _ _

/--
An order in which every operation takes effect at one moment of the trace,
after it was submitted and before it was answered, is a linearization.
-/
theorem Linearization.of_effects
    {object : Object σ I R} {observed : Observation ε P I R}
    {trace : List ε}
    (effects : List ε → List (Operation P I R))
    (legal : object.Legal (effects trace))
    (grows :
      ∀ before after, trace = before ++ after →
        effects before <+: effects trace)
    (submitted :
      ∀ before after, trace = before ++ after → ∀ p,
        (ofProcess p (effects before)).map Operation.input <+:
          observed.submitted p before)
    (answered :
      ∀ before after, trace = before ++ after → ∀ p,
        observed.answered p before <+:
          (ofProcess p (effects before)).map Operation.result) :
    Linearization object observed trace (effects trace) where
  legal := legal
  submitted := submitted trace [] (by simp)
  answered := answered trace [] (by simp)
  realTime := by
    intro before after split p q first second position other isFirst
      isSecond done notYet
    rcases grows before after split with ⟨rest, whole⟩
    rw [← whole] at isFirst isSecond
    have given := (answered before after split p).length_le
    have asked := (submitted before after split q).length_le
    rw [List.length_map] at given asked
    have early : position < (effects before).length := by
      by_contra late
      have counted := isFirst.le_of_le_position (Nat.le_of_not_lt late)
      omega
    have late : (effects before).length ≤ other := by
      by_contra early
      have counted := isSecond.lt_of_position_lt (Nat.lt_of_not_le early)
      omega
    exact Nat.lt_of_lt_of_le early late

end Linearization

/-! ## A process which shares no cell -/

section Alone

variable
    [DecidableEq κ] [DecidableEq P]
    {cell : Object σ I R} {key : I → κ} {ops : List (Operation P I R)}

/-- No other process has an operation on a cell that the process uses. -/
def Alone (key : I → κ) (p : P) (ops : List (Operation P I R)) : Prop :=
  ∀ own ∈ ops, own.process = p →
    ∀ op ∈ ops, key op.input = key own.input → op.process = p

/-- What such a process has done is legal on its own. -/
theorem Object.Legal.ofProcess
    (legal : (cell.keyed key).Legal ops) {p : P} (alone : Alone key p ops) :
    (cell.keyed key).Legal (ofProcess p ops) := by
  rw [Object.keyed_legal_iff] at legal ⊢
  intro k
  by_cases used : ∃ own ∈ ops, own.process = p ∧ key own.input = k
  · rcases used with ⟨own, member, process, rfl⟩
    have same :
        onCell key (key own.input) (SequentialObject.ofProcess p ops) =
          onCell key (key own.input) ops := by
      rw [onCell, onCell, SequentialObject.ofProcess, List.filter_filter]
      apply List.filter_congr
      intro op among
      have here := alone own member process op among
      by_cases onIt : key op.input = key own.input
      · simp [onIt, here onIt]
      · simp [onIt]
    rw [same]
    exact legal (key own.input)
  · have none :
        onCell key k (SequentialObject.ofProcess p ops) = [] := by
      rw [onCell, SequentialObject.ofProcess, List.filter_filter,
        List.filter_eq_nil_iff]
      intro op among both
      simp only [Bool.and_eq_true, decide_eq_true_eq] at both
      exact used ⟨op, among, both.2, both.1⟩
    rw [none]
    exact Object.legal_nil

end Alone

end PokerBackend.Lib.SequentialObject
