import PokerBackend.Lib.Execution

/-!
# Progress of a system

A measure bounds how much work is left: steps of one kind use some of it up,
and the steps which may come in between do not add to it.  So there are no
more of the former along a path than the measure of its first state, however
it is scheduled.  When a step is possible wherever the work is not complete,
every path can be continued until it is.
-/

namespace PokerBackend.Lib.Execution

variable {σ ε : Type} {system : System σ ε}
  {allowed : σ → ε → σ → Prop} {measure : σ → Nat}

/-- Counted steps use up the measure, so a path has only so many of them. -/
theorem Path.countP_le
    {motive : List ε → σ → Prop} {counted : ε → Bool}
    (preserved :
      ∀ labels source label target,
        system.step source label target → allowed source label target →
          motive labels source → motive (labels ++ [label]) target)
    (spends :
      ∀ labels source label target,
        system.step source label target → allowed source label target →
          motive labels source →
            measure target + (counted label).toNat ≤ measure source)
    {labels more : List ε} {source target : σ}
    (path : Path (system.restrict allowed) source more target)
    (initially : motive labels source) :
    more.countP counted + measure target ≤ measure source ∧
      motive (labels ++ more) target := by
  induction path with
  | nil =>
      rw [List.append_nil]
      exact ⟨by simp, initially⟩
  | @snoc middle target more label init last induction =>
      rcases induction with ⟨earlier, here⟩
      have spent := spends _ _ _ _ last.1 last.2 here
      have one :
          [label].countP counted = (counted label).toNat := by
        rw [List.countP_singleton]
        cases counted label <;> rfl
      constructor
      · rw [List.countP_append, one]
        omega
      · rw [← List.append_assoc]
        exact preserved _ _ _ _ last.1 last.2 here

/--
When every allowed step uses up some of the measure and one is possible
wherever the goal has not been reached, a path of allowed steps reaches it.
-/
theorem Path.exists_goal
    {motive goal : List ε → σ → Prop}
    (preserved :
      ∀ labels source label target,
        system.step source label target → allowed source label target →
          motive labels source → motive (labels ++ [label]) target)
    (spends :
      ∀ labels source label target,
        system.step source label target → allowed source label target →
          motive labels source → measure target < measure source)
    (advances :
      ∀ labels source,
        motive labels source →
          goal labels source ∨
            ∃ label target,
              system.step source label target ∧
                allowed source label target)
    {labels : List ε} {source : σ} (initially : motive labels source) :
    ∃ more target,
      Path (system.restrict allowed) source more target ∧
        goal (labels ++ more) target := by
  induction left : measure source using Nat.strongRecOn
    generalizing labels source with
  | ind left' induction =>
      subst left
      rcases advances labels source initially with
        reached | ⟨label, middle, step, isAllowed⟩
      · exact ⟨[], source, .nil, by simpa using reached⟩
      · have less := spends labels source label middle step isAllowed initially
        have next :=
          preserved labels source label middle step isAllowed initially
        obtain ⟨more, target, rest, reached⟩ :=
          induction _ less next rfl
        refine ⟨label :: more, target, ?_, ?_⟩
        · have first :
              Path (system.restrict allowed) source [label] middle :=
            Path.single ⟨step, isAllowed⟩
          exact first.append rest
        · simpa using reached

end PokerBackend.Lib.Execution
