import Mathlib.Data.List.Basic

/-!
# Programs that keep a journal

A journaled program notes entries while it runs and is otherwise a program
over the same state, with the same faults.  `Erases` says that it does what
a plain program does once the journal is forgotten.  `Records` says that the
entries it notes are all that happens to a part of the state, and bounds how
many of them change that part.  Both are proved along the structure of a
program.
-/

namespace PokerBackend.Lib.Journal

variable {ω ε σ α β : Type}

/-- A program with a journal beside its state and its faults. -/
abbrev JournalM (ω ε σ : Type) :=
  StateT (List ω) (EStateM ε σ)

/-- Note an entry at the end of the journal. -/
def note (entry : ω) : JournalM ω ε σ Unit :=
  modify fun journal => journal ++ [entry]

theorem run_lift (plain : EStateM ε σ α) (journal : List ω) :
    (liftM plain : JournalM ω ε σ α).run journal =
      plain >>= fun value => pure (value, journal) := rfl

/-! ## Forgetting the journal -/

/-- Whatever has been noted, the program does what the plain one does. -/
def Erases
    (journaled : JournalM ω ε σ α) (plain : EStateM ε σ α) : Prop :=
  ∀ journal, Prod.fst <$> journaled.run journal = plain

namespace Erases

theorem pure (value : α) :
    Erases (Pure.pure value : JournalM ω ε σ α) (Pure.pure value) := by
  intro journal
  rfl

/-- A plain program can be used where a journal is kept. -/
theorem lift (plain : EStateM ε σ α) :
    Erases (liftM plain : JournalM ω ε σ α) plain := by
  intro journal
  rw [run_lift, map_bind]
  simp only [map_pure, bind_pure]

theorem note (entry : ω) :
    Erases (Journal.note entry : JournalM ω ε σ Unit) (Pure.pure ()) := by
  intro journal
  rfl

theorem bind
    {first : JournalM ω ε σ α} {plainFirst : EStateM ε σ α}
    {next : α → JournalM ω ε σ β} {plainNext : α → EStateM ε σ β}
    (erasesFirst : Erases first plainFirst)
    (erasesNext : ∀ value, Erases (next value) (plainNext value)) :
    Erases (first >>= next) (plainFirst >>= plainNext) := by
  intro journal
  calc
    Prod.fst <$> (first >>= next).run journal
        = first.run journal >>= fun noted =>
            Prod.fst <$> (next noted.1).run noted.2 := by
          rw [StateT.run_bind, map_bind]
    _ = first.run journal >>= fun noted => plainNext noted.1 := by
          simp only [erasesNext _ _]
    _ = (Prod.fst <$> first.run journal) >>= plainNext := by
          rw [bind_map_left]
    _ = plainFirst >>= plainNext := by
          rw [erasesFirst]

/-- Noting an entry first makes no difference. -/
theorem note_bind
    {next : JournalM ω ε σ α} {plain : EStateM ε σ α}
    (entry : ω) (erases : Erases next plain) :
    Erases (Journal.note entry >>= fun _ => next) plain := by
  have both := bind (Erases.note entry) fun _ => erases
  rwa [pure_bind] at both

theorem ite
    {condition : Prop} [Decidable condition]
    {left right : JournalM ω ε σ α} {plainLeft plainRight : EStateM ε σ α}
    (erasesLeft : Erases left plainLeft)
    (erasesRight : Erases right plainRight) :
    Erases (if condition then left else right)
      (if condition then plainLeft else plainRight) := by
  split
  · exact erasesLeft
  · exact erasesRight

/-- A call that returns does so with a journal, in the same state. -/
theorem returns
    {journaled : JournalM ω ε σ α} {plain : EStateM ε σ α}
    (erases : Erases journaled plain) {source target : σ} {value : α}
    (returned : plain.run source = .ok value target) (journal : List ω) :
    ∃ later,
      (journaled.run journal).run source = .ok (value, later) target := by
  rw [← erases journal, map_eq_pure_bind, EStateM.run_bind] at returned
  cases ran : (journaled.run journal).run source with
  | error fault reached =>
      rw [ran] at returned
      cases returned
  | ok result reached =>
      rw [ran] at returned
      cases returned
      exact ⟨result.2, rfl⟩

end Erases

/-! ## What the entries account for -/

/-- A part of the state, and what each entry does to it. -/
structure Ledger (ω σ τ : Type) where
  view : σ → τ
  effect : ω → τ → τ
  changes : ω → Bool
  effect_eq : ∀ entry part, changes entry = false → effect entry part = part

namespace Ledger

variable {τ : Type} (ledger : Ledger ω σ τ)

/-- What becomes of the part by the entries, oldest first. -/
def replay (entries : List ω) (part : τ) : τ :=
  entries.foldl (fun part entry => ledger.effect entry part) part

theorem replay_append (entries more : List ω) (part : τ) :
    ledger.replay (entries ++ more) part =
      ledger.replay more (ledger.replay entries part) :=
  List.foldl_append

/-- Entries which change nothing make no difference. -/
theorem replay_quiet
    {entries : List ω} (quiet : entries.any ledger.changes = false)
    (part : τ) :
    ledger.replay entries part = part := by
  induction entries generalizing part with
  | nil => rfl
  | cons entry entries induction =>
      rw [List.any_cons, Bool.or_eq_false_iff] at quiet
      change ledger.replay entries (ledger.effect entry part) = part
      rw [ledger.effect_eq entry part quiet.1, induction quiet.2]

/--
If at most one entry changes the part, then after any number of the entries
the part is as it was before the first or as it is after the last of them.
-/
theorem replay_take
    {entries : List ω} (few : entries.countP ledger.changes ≤ 1)
    (count : Nat) (part : τ) :
    ledger.replay (entries.take count) part =
      if (entries.take count).any ledger.changes then
        ledger.replay entries part
      else part := by
  split
  · next changed =>
      have done : 0 < (entries.take count).countP ledger.changes := by
        rw [List.countP_pos_iff]
        exact List.any_eq_true.mp changed
      have all := few
      rw [← List.take_append_drop count entries, List.countP_append] at all
      have quiet : (entries.drop count).any ledger.changes = false := by
        rw [← Bool.not_eq_true, List.any_eq_true, ← List.countP_pos_iff]
        omega
      calc
        ledger.replay (entries.take count) part
            = ledger.replay (entries.drop count)
                (ledger.replay (entries.take count) part) :=
              (ledger.replay_quiet quiet _).symm
        _ = ledger.replay entries part := by
              rw [← replay_append, List.take_append_drop]
  · next unchanged =>
      exact ledger.replay_quiet (Bool.eq_false_iff.mpr unchanged) part

end Ledger

/-- A normal return leaves the part as it was. -/
def Keeps {τ : Type} (view : σ → τ) (plain : EStateM ε σ α) : Prop :=
  ∀ source value target,
    plain.run source = .ok value target → view target = view source

namespace Keeps

variable {τ : Type} {view : σ → τ}

theorem pure (value : α) :
    Keeps view (Pure.pure value : EStateM ε σ α) := by
  intro source result target returned
  cases returned
  rfl

theorem bind {first : EStateM ε σ α} {next : α → EStateM ε σ β}
    (keepsFirst : Keeps view first)
    (keepsNext : ∀ value, Keeps view (next value)) :
    Keeps view (first >>= next) := by
  intro source value target returned
  rw [EStateM.run_bind] at returned
  cases ran : first.run source with
  | error fault reached =>
      rw [ran] at returned
      cases returned
  | ok result reached =>
      rw [ran] at returned
      rw [keepsNext _ _ _ _ returned, keepsFirst _ _ _ ran]

end Keeps

/--
On a normal return at most so many of the entries that have been added change
the part, and the part has become what they make of it.
-/
def Records {τ : Type}
    (ledger : Ledger ω σ τ) (count : Nat) (program : JournalM ω ε σ α) :
    Prop :=
  ∀ journal source value later target,
    (program.run journal).run source = .ok (value, later) target →
      ∃ noted,
        later = journal ++ noted ∧
          noted.countP ledger.changes ≤ count ∧
            ledger.view target = ledger.replay noted (ledger.view source)

namespace Records

variable {τ : Type} {ledger : Ledger ω σ τ}

theorem mono {count bound : Nat} {program : JournalM ω ε σ α}
    (bounded : Records ledger count program) (le : count ≤ bound) :
    Records ledger bound program := by
  intro journal source value later target returned
  rcases bounded journal source value later target returned with
    ⟨noted, added, few, account⟩
  exact ⟨noted, added, Nat.le_trans few le, account⟩

theorem lift {plain : EStateM ε σ α} (keeps : Keeps ledger.view plain) :
    Records ledger 0 (liftM plain : JournalM ω ε σ α) := by
  intro journal source value later target returned
  rw [run_lift, EStateM.run_bind] at returned
  cases ran : plain.run source with
  | error fault reached =>
      rw [ran] at returned
      cases returned
  | ok result reached =>
      rw [ran] at returned
      cases returned
      exact ⟨[], by simp, Nat.le_refl 0, keeps _ _ _ ran⟩

theorem pure (value : α) :
    Records ledger 0 (Pure.pure value : JournalM ω ε σ α) :=
  lift (Keeps.pure value)

/-- A program that does what its entry says, and then notes the entry. -/
theorem then_note {plain : EStateM ε σ α} {entry : ω} {count : Nat}
    (few : [entry].countP ledger.changes ≤ count)
    (does :
      ∀ source value target,
        plain.run source = .ok value target →
          ledger.view target = ledger.effect entry (ledger.view source)) :
    Records ledger count
      (do
        let value ← plain
        note entry
        return value : JournalM ω ε σ α) := by
  intro journal source value later target returned
  rw [StateT.run_bind, run_lift, EStateM.run_bind, EStateM.run_bind]
    at returned
  cases ran : plain.run source with
  | error fault reached =>
      rw [ran] at returned
      cases returned
  | ok result reached =>
      rw [ran] at returned
      cases returned
      exact ⟨[entry], rfl, few, does _ _ _ ran⟩

theorem bind {first : JournalM ω ε σ α} {next : α → JournalM ω ε σ β}
    {before after : Nat}
    (boundedFirst : Records ledger before first)
    (boundedNext : ∀ value, Records ledger after (next value)) :
    Records ledger (before + after) (first >>= next) := by
  intro journal source value later target returned
  rw [StateT.run_bind, EStateM.run_bind] at returned
  cases ran : (first.run journal).run source with
  | error fault reached =>
      rw [ran] at returned
      cases returned
  | ok result reached =>
      rw [ran] at returned
      rcases result with ⟨read, middle⟩
      rcases boundedFirst journal source read middle reached ran with
        ⟨noted, rfl, few, account⟩
      rcases boundedNext read _ _ _ _ _ returned with
        ⟨more, rfl, fewMore, accountMore⟩
      refine ⟨noted ++ more, by rw [List.append_assoc], ?_, ?_⟩
      · rw [List.countP_append]
        exact Nat.add_le_add few fewMore
      · rw [accountMore, account, ledger.replay_append]

theorem quiet_bind {first : JournalM ω ε σ α} {next : α → JournalM ω ε σ β}
    {count : Nat} (quiet : Records ledger 0 first)
    (boundedNext : ∀ value, Records ledger count (next value)) :
    Records ledger count (first >>= next) := by
  have both := quiet.bind boundedNext
  rwa [Nat.zero_add] at both

theorem bind_quiet {first : JournalM ω ε σ α} {next : α → JournalM ω ε σ β}
    {count : Nat} (boundedFirst : Records ledger count first)
    (quiet : ∀ value, Records ledger 0 (next value)) :
    Records ledger count (first >>= next) :=
  boundedFirst.bind quiet

theorem ite {condition : Prop} [Decidable condition] {count : Nat}
    {left right : JournalM ω ε σ α}
    (boundedLeft : Records ledger count left)
    (boundedRight : Records ledger count right) :
    Records ledger count (if condition then left else right) := by
  split
  · exact boundedLeft
  · exact boundedRight

end Records

end PokerBackend.Lib.Journal
