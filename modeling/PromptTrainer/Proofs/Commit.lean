import PromptTrainer.Proofs.Pool
import PromptTrainer.Proofs.Store
/-!
# Committing a pass on a stored variable

A pass on a stored variable takes the key's lock, reads the variable, runs the pass on a copy
and then commits the copy, or not:

* a failure that is not partial (a refusal) commits nothing, and neither does a no-op pass
  that left the variable equal to what was read;
* a success, a partial failure (generation failed after the rewards were given) and a no-op
  that changed the variable (a finalized variable back to idle) commit the copy, which then
  continues the stored version;
* a pass that aborts, ranking its pool having panicked, commits nothing.

Main statement: `optimizeStored_commits_exactly`, which also says that no other key changes and
that a pass never leaves a variable marked optimizing.
-/

namespace PromptTrainer

namespace Optimizer

/-- Whether the end of a pass is committed: a success, a no-op that changed the variable, or
a failure after the rewards were given. -/
def commits (outcome : Except OptimizationError OptimizeReport) (after before : Variable) :
    Bool :=
  match outcome with
  | .ok report => !report.isNoop || !after.beq before
  | .error e => e.isPartial

theorem stored_of_get?
    {key : String}
    {s : Workbench}
    {v : Variable}
    (found : s.store.get? key = some v) :
    stored key s = .ok v s := by
  simp [stored, found]

/-- With the key's lock free, a pass on the stored variable ends as the pass on its copy, and
the workbench it leaves is the pass's, with the copy committed when the pass commits. -/
theorem optimizeStored_of_free
    {key : String}
    {r : Float}
    {s s₁ : Workbench}
    {before after : Variable}
    {outcome : Except OptimizationError OptimizeReport}
    (free : s.store.lockState key = .free)
    (found : s.store.get? key = some before)
    (passed : pass before r s = .ok (outcome, after) s₁) :
    optimizeStored key r s =
      Work.ended outcome
        (if commits outcome after before then { s₁ with store := s₁.store.replace after }
         else s₁) := by
  cases outcome with
  | ok report =>
    by_cases committed : report.isNoop = false ∨ after.beq before = false
    · simp [optimizeStored, passStored, commitPass, free, stored_of_get? found, passed, commits, committed]
    · simp [optimizeStored, passStored, commitPass, free, stored_of_get? found, passed, commits, committed]
  | error e =>
    cases partialFailure : e.isPartial
    · simp [optimizeStored, passStored, commitPass, free, stored_of_get? found, passed, commits, partialFailure]
    · simp [optimizeStored, passStored, commitPass, free, stored_of_get? found, passed, commits, partialFailure]

/-- With the key's lock free, a pass on the stored variable that aborts on its copy aborts
before its commit. -/
theorem optimizeStored_of_aborted
    {key : String}
    {r : Float}
    {s s₁ : Workbench}
    {before : Variable}
    {m : String}
    (free : s.store.lockState key = .free)
    (found : s.store.get? key = some before)
    (aborted : pass before r s = .error (.aborted m) s₁) :
    optimizeStored key r s = .error (.aborted m) s₁ := by
  simp [optimizeStored, passStored, free, stored_of_get? found, aborted]

/-- With the key's lock held from outside, a pass on the stored variable waits: it stops and
changes nothing. -/
theorem optimizeStored_of_held
    {key : String}
    {r : Float}
    {s : Workbench}
    (held : s.store.lockState key = .held) :
    optimizeStored key r s = .error .blocked s := by
  simp [optimizeStored, held]

/-! ### When a pass commits -/

theorem not_commits_of_not_partial
    {e : OptimizationError}
    {after before : Variable}
    (notPartial : e.isPartial = false) :
    commits (.error e) after before = false := notPartial

theorem not_commits_of_unchanged_noop
    {report : OptimizeReport}
    {after before : Variable}
    (noop : report.isNoop = true)
    (unchanged : after.beq before = true) :
    commits (.ok report) after before = false := by
  simp [commits, noop, unchanged]

theorem commits_of_partial_or_changed
    {outcome : Except OptimizationError OptimizeReport}
    {after before : Variable}
    (committing : (∃ e, outcome = .error e ∧ e.isPartial = true) ∨
      (∃ report, outcome = .ok report ∧ (report.isNoop = false ∨ after.beq before = false))) :
    commits outcome after before = true := by
  rcases committing with ⟨e, rfl, partialFailure⟩ | ⟨report, rfl, notNoop | changed⟩
  · exact partialFailure
  · simp [commits, notNoop]
  · simp [commits, changed]

/-- A committed pass ends idle: only a refusal leaves the variable as it was, and a refusal
is not committed. -/
theorem phase_of_commits
    {v after : Variable}
    {r : Float}
    {s s' : Workbench}
    {outcome : Except OptimizationError OptimizeReport}
    (step : ReferenceStep v r s outcome after s')
    (committed : commits outcome after v = true) :
    after.phase = .idle := by
  rcases step.idle_or_refused with idle | ⟨-, -, e, failed, notPartial⟩
  · exact idle
  · subst failed
    rw [not_commits_of_not_partial notPartial] at committed
    cases committed

/-! ### The commit rule -/

/-- The commit rule of a pass with reward `r` on the variable `before` stored under `key`,
from the workbench `s`: with the key's lock held from outside the pass waits and changes
nothing; with the lock free the pass on the copy runs, and the stored state after it is the
one read when the pass aborted, was refused or was a no-op that changed nothing, and otherwise
the copy at the stored version plus one; no other key changes, the keys keep their order, and
a variable not marked optimizing is not left so. -/
def CommitRule (key : String) (r : Float) (s : Workbench) (before : Variable) : Prop :=
  (s.store.lockState key = .held → optimizeStored key r s = .error .blocked s) ∧
  (s.store.lockState key = .free →
    (∃ s₁, pass before r s = .error (.aborted Ranking.orderViolation) s₁ ∧
      optimizeStored key r s = .error (.aborted Ranking.orderViolation) s₁ ∧
      s₁.store = s.store) ∨
    ∃ outcome after s₁ s', pass before r s = .ok (outcome, after) s₁ ∧
      optimizeStored key r s = Work.ended outcome s' ∧
      s' = { s₁ with store := s'.store } ∧
      (∀ e, outcome = .error e → e.isPartial = false → s'.store = s.store) ∧
      (∀ report, outcome = .ok report → report.isNoop = true → after.beq before = true →
        s'.store = s.store) ∧
      ((∃ e, outcome = .error e ∧ e.isPartial = true) ∨
          (∃ report, outcome = .ok report ∧ (report.isNoop = false ∨ after.beq before = false)) →
        s'.store.get? key =
          some { after with version := before.version + 1, updatedAt := s.store.clock }) ∧
      (∀ other, other ≠ key → s'.store.get? other = s.store.get? other) ∧
      s'.store.keys = s.store.keys ∧
      (before.phase ≠ .optimizing →
        ∀ v, s'.store.get? key = some v → v.phase ≠ .optimizing))

/-- A pass on a stored key follows the commit rule, for every state of the store and every
ending of generation: it commits exactly the successes, the partial failures and the no-ops
that changed the variable. -/
theorem optimizeStored_commits_exactly
    (key : String)
    (r : Float)
    (s : Workbench)
    {before : Variable}
    (found : s.store.get? key = some before) :
    CommitRule key r s before := by
  refine ⟨optimizeStored_of_held, fun free => ?_⟩
  rcases pass_reference_step_or_panics before r s with
    ⟨outcome, after, s₁, passed, step⟩ | ⟨s₁, aborted, panics⟩
  swap
  · exact .inl ⟨s₁, aborted, optimizeStored_of_aborted free found aborted, panics.store_eq⟩
  refine .inr ?_
  have untouched : s₁.store = s.store := step.store_eq
  have sameKey : after.key = key := step.key_eq.trans (VariableStore.key_of_get? found)
  have foundAfter : s.store.get? after.key = some before := sameKey ▸ found
  refine ⟨outcome, after, s₁,
    if commits outcome after before then { s₁ with store := s₁.store.replace after } else s₁,
    passed, optimizeStored_of_free free found passed, ?_, ?_, ?_, ?_, ?_, ?_, ?_⟩
  · split <;> rfl
  · intro e failed notPartial
    subst failed
    simp [not_commits_of_not_partial notPartial, untouched]
  · intro report succeeded noop unchanged
    subst succeeded
    simp [not_commits_of_unchanged_noop noop unchanged, untouched]
  · intro committing
    rw [if_pos (commits_of_partial_or_changed committing), untouched, ← sameKey]
    exact VariableStore.get?_replace_self foundAfter
  · intro other differs
    split
    · rw [untouched]
      exact VariableStore.get?_replace_of_ne foundAfter (sameKey ▸ differs)
    · rw [untouched]
  · split
    · rw [untouched]
      exact VariableStore.keys_replace foundAfter
    · rw [untouched]
  · intro notOptimizing v committedVariable
    split at committedVariable
    · rename_i committed
      rw [untouched, ← sameKey, VariableStore.get?_replace_self foundAfter] at committedVariable
      cases committedVariable
      simp [phase_of_commits step committed]
    · rw [untouched, found] at committedVariable
      cases committedVariable
      exact notOptimizing

/-- The commit rule on a store holding one new variable under `k`. -/
theorem optimizeStored_commits_exactly_single :
    (⟨4, [Variable.ofKey "k" .epoch], [], .epoch⟩ : VariableStore).get? "k" =
        some (Variable.ofKey "k" .epoch) ∧
      CommitRule "k" 0.5 { store := ⟨4, [Variable.ofKey "k" .epoch], [], .epoch⟩ }
        (Variable.ofKey "k" .epoch) :=
  ⟨rfl, optimizeStored_commits_exactly "k" 0.5 _ rfl⟩

end Optimizer

end PromptTrainer
