import Mathlib.Data.List.Forall2
import PromptTrainer.Optimizer.Pass
import PromptTrainer.Proofs.Work
/-!
# What one optimization pass does

A pass with a batch reward `r` on a variable `v` is the reference step of the optimizer
protocol:

* it refuses an invalid reward, an unbuilt variable and a generation program that cannot be
  built, and then leaves the variable and the workbench exactly as they were;
* otherwise it broadcasts `r` to the predictions without a reward (`Broadcast`), keeping
  every other prediction and the order;
* when no prediction was unscored, the variable only goes back to idle and no program is
  asked;
* otherwise the instructions in force are stamped with `r` and added to the candidates, and
  generation runs once on the pool of the variable (`Optimizer.Regenerates`): the pass ends
  idle whatever the outcome, with new instructions when generation answered some;
* unless ranking the pool panics on rewards that are not totally ordered
  (`Optimizer.Panics`): the pass then aborts before generation.

That the pass ends in exactly one of these ways is proved with the pool's facts, in
`Proofs.Pool`.
-/

namespace PromptTrainer

/-- Each prediction without a reward gets `r` and every other one stays as it was, position
by position. -/
def Broadcast (r : Float) (before after : List Prediction) : Prop :=
  List.Forall₂
    (fun p q => (p.reward = none → q = { p with reward := some r }) ∧ (p.reward ≠ none → q = p))
    before after

/-- A broadcast is determined by the predictions it starts from. -/
theorem Broadcast.unique
    {r : Float}
    {before after after' : List Prediction}
    (first : Broadcast r before after)
    (second : Broadcast r before after') :
    after = after' := by
  unfold Broadcast at first second
  induction first generalizing after' with
  | nil =>
    cases second
    rfl
  | @cons p q rest restAfter heads _ restUnique =>
    cases second with
    | @cons _ q' _ restAfter' heads' tails' =>
      have sameHead : q = q' := by
        by_cases unscored : p.reward = none
        · rw [heads.1 unscored, heads'.1 unscored]
        · rw [heads.2 unscored, heads'.2 unscored]
      rw [sameHead, restUnique tails']

/-- The candidates after a pass that regenerates: the old ones, then the instructions in force
stamped with the reward, if there are any. -/
def stampedCandidates (v : Variable) (r : Float) : List Instructions :=
  v.candidates ++ (v.instructions.map (·.withReward r)).toList

namespace Optimizer

/-- How the generation step of a pass may end, on the variable `w` whose predictions are
scored and whose instructions are stamped, with `scored` predictions newly scored, from the
workbench `s`.  The generation program is asked once, on the pool of `w`, and the variable
ends idle in every case. -/
inductive Regenerates (o : Optimizer) (program : Node) (w : Variable) (scored : Nat)
    (s : Workbench) : Except OptimizationError OptimizeReport → Variable → Workbench → Prop
  /-- The program was asked once and failed. -/
  | callFailed {input : Record} {e : NodeError} {s' : Workbench}
      (pooled : o.pool w = some (.ok input))
      (failed : Node.call false program input s = .error (.failed e) s') :
      Regenerates o program w scored s (.error (.ofNode e)) { w with phase := .idle } s'
  /-- The program was asked once and its answer holds no list of instructions. -/
  | malformed {input output : Record} {e : OptimizationError} {s' : Workbench}
      (pooled : o.pool w = some (.ok input))
      (answered : Node.call false program input s = .ok output s')
      (unreadable : generated output = .error e) :
      Regenerates o program w scored s (.error e) { w with phase := .idle } s'
  /-- The program was asked once and its instructions are put in force. -/
  | regenerated {input output : Record} {lines : List String} {s' : Workbench}
      (pooled : o.pool w = some (.ok input))
      (answered : Node.call false program input s = .ok output s')
      (read : generated output = .ok lines) :
      Regenerates o program w scored s (.ok ⟨scored, true⟩)
        { w with phase := .idle, instructions := some (Instructions.ofLines lines) } s'

/-- The reference step of the optimizer protocol: how a pass with reward `r` on `v`, from the
workbench `s`, may end, given as its outcome, the variable after it and the workbench after
it. -/
inductive ReferenceStep (v : Variable) (r : Float) (s : Workbench) :
    Except OptimizationError OptimizeReport → Variable → Workbench → Prop
  /-- An invalid reward is refused before anything else. -/
  | invalidReward
      (invalid : Reward.isValid r = false) :
      ReferenceStep v r s (.error (.invalidReward r)) v s
  /-- An unbuilt variable is refused. -/
  | notBuilt
      (valid : Reward.isValid r = true)
      (unbuilt : v.phase = .unbuilt) :
      ReferenceStep v r s (.error (.notBuilt v.key)) v s
  /-- A generation program that cannot be built refuses the pass. -/
  | unbuildable {e : BuildError}
      (valid : Reward.isValid r = true)
      (built : v.phase ≠ .unbuilt)
      (unbuildable : s.optimizer.ensureProgram = .error e) :
      ReferenceStep v r s (.error (.build e)) v s
  /-- With no prediction to score the variable only goes back to idle; the program is built
  and kept, and not asked. -/
  | noop {program : Node} {o : Optimizer}
      (valid : Reward.isValid r = true)
      (built : v.phase ≠ .unbuilt)
      (buildable : s.optimizer.ensureProgram = .ok (program, o))
      (scored : v.unscoredCount = 0) :
      ReferenceStep v r s (.ok {}) { v with phase := .idle } { s with optimizer := o }
  /-- Otherwise the reward is broadcast, the instructions in force are stamped into the
  candidates, and generation runs once on the variable so changed. -/
  | generation {program : Node} {o : Optimizer} {predictions : List Prediction}
      {outcome : Except OptimizationError OptimizeReport} {after : Variable} {s' : Workbench}
      (valid : Reward.isValid r = true)
      (built : v.phase ≠ .unbuilt)
      (buildable : s.optimizer.ensureProgram = .ok (program, o))
      (unscored : 0 < v.unscoredCount)
      (broadcast : Broadcast r v.predictions predictions)
      (regenerates : o.Regenerates program
        { v with phase := .optimizing, predictions := predictions,
                 candidates := stampedCandidates v r }
        v.unscoredCount { s with optimizer := o } outcome after s') :
      ReferenceStep v r s outcome after s'

/-- How a pass with reward `r` on `v` from the workbench `s` aborts, leaving the workbench
`s'`: the checks pass, some prediction is unscored, and ranking the pool of the scored and
stamped variable panics.  The built program is kept; nothing else changes. -/
inductive Panics (v : Variable) (r : Float) (s : Workbench) : Workbench → Prop
  | unranked {program : Node} {o : Optimizer}
      (valid : Reward.isValid r = true)
      (built : v.phase ≠ .unbuilt)
      (buildable : s.optimizer.ensureProgram = .ok (program, o))
      (unscored : 0 < v.unscoredCount)
      (unranked : o.pool
        { v with phase := .optimizing, predictions := (backpropagate v r).1.predictions,
                 candidates := stampedCandidates v r } = none) :
      Panics v r s { s with optimizer := o }

/-! ### Backpropagation -/

/-- The predictions after backpropagation are the broadcast of the reward. -/
theorem broadcast_backpropagate (v : Variable) (r : Float) :
    Broadcast r v.predictions (backpropagate v r).1.predictions := by
  unfold Broadcast backpropagate
  induction v.predictions with
  | nil => exact .nil
  | cons p rest restBroadcast =>
    refine .cons ⟨fun unscored => ?_, fun scored => ?_⟩ restBroadcast
    · simp [unscored]
    · simp [Option.isNone_iff_eq_none, scored]

/-- With every prediction scored, backpropagation keeps the predictions. -/
theorem backpropagate_predictions_of_scored
    {v : Variable}
    (r : Float)
    (scored : v.unscoredCount = 0) :
    (backpropagate v r).1.predictions = v.predictions := by
  unfold backpropagate
  unfold Variable.unscoredCount at scored
  simp only [List.length_eq_zero_iff, List.filter_eq_nil_iff] at scored
  conv => rhs; rw [← List.map_id v.predictions]
  refine List.map_congr_left (fun p member => ?_)
  simp [scored p member]

theorem stampCandidate_eq (v : Variable) (r : Float) :
    stampCandidate v r = { v with candidates := stampedCandidates v r } := by
  rcases v with ⟨key, predictions, instructions, candidates, phase, version, updatedAt⟩
  cases instructions <;> simp [stampCandidate, stampedCandidates]

/-! ### The checks before a pass -/

theorem precheck_of_invalid
    {v : Variable}
    {r : Float}
    (invalid : Reward.isValid r = false) :
    precheck v r = .error (.invalidReward r) := by
  simp [precheck, invalid]

theorem precheck_of_unbuilt
    {v : Variable}
    {r : Float}
    (valid : Reward.isValid r = true)
    (unbuilt : v.phase = .unbuilt) :
    precheck v r = .error (.notBuilt v.key) := by
  simp [precheck, valid, unbuilt, Phase.isBuilt]

theorem precheck_of_built
    {v : Variable}
    {r : Float}
    (valid : Reward.isValid r = true)
    (built : v.phase ≠ .unbuilt) :
    precheck v r = .ok () := by
  have isBuilt : v.phase.isBuilt = true := by
    cases phase : v.phase <;> simp_all [Phase.isBuilt]
  simp [precheck, valid, isBuilt]

/-! ### The pass, case by case -/

/-- A refused pass changes nothing. -/
theorem pass_of_refused
    {v : Variable}
    {r : Float}
    {e : OptimizationError}
    (refused : precheck v r = .error e)
    (s : Workbench) :
    pass v r s = .ok (.error e, v) s := by
  simp [pass, refused]

/-- A pass whose generation program cannot be built changes nothing. -/
theorem pass_of_unbuildable
    {v : Variable}
    {r : Float}
    {e : BuildError}
    {s : Workbench}
    (checked : precheck v r = .ok ())
    (unbuildable : s.optimizer.ensureProgram = .error e) :
    pass v r s = .ok (.error (.build e), v) s := by
  simp [pass, checked, unbuildable]

/-- A pass on a variable without unscored predictions only sets it idle. -/
theorem pass_of_scored
    {v : Variable}
    {r : Float}
    {s : Workbench}
    {program : Node}
    {o : Optimizer}
    (checked : precheck v r = .ok ())
    (buildable : s.optimizer.ensureProgram = .ok (program, o))
    (scored : v.unscoredCount = 0) :
    pass v r s = .ok (.ok {}, { v with phase := .idle }) { s with optimizer := o } := by
  have kept := backpropagate_predictions_of_scored r scored
  simp only [backpropagate, Option.isNone_iff_eq_none] at kept
  simp [pass, checked, buildable, backpropagate, scored, kept]

/-- A pass on a variable with unscored predictions regenerates on the scored and stamped
variable. -/
theorem pass_of_unscored
    {v : Variable}
    {r : Float}
    {s : Workbench}
    {program : Node}
    {o : Optimizer}
    (checked : precheck v r = .ok ())
    (buildable : s.optimizer.ensureProgram = .ok (program, o))
    (unscored : 0 < v.unscoredCount) :
    pass v r s =
      regenerate o program (stampCandidate (backpropagate v r).1 r) v.unscoredCount
        { s with optimizer := o } := by
  have nonzero : (v.unscoredCount == 0) = false := by simp; omega
  simp [pass, checked, buildable, backpropagate, nonzero]

/-! ### Generation -/

/-- Each ending `Regenerates` allows is what the generation step does. -/
theorem regenerate_of_regenerates
    {o : Optimizer}
    {program : Node}
    {w after : Variable}
    {scored : Nat}
    {s s' : Workbench}
    {outcome : Except OptimizationError OptimizeReport}
    (regenerates : o.Regenerates program w scored s outcome after s') :
    regenerate o program w scored s = .ok (outcome, after) s' := by
  cases regenerates with
  | callFailed pooled failed => simp [regenerate, pooled, failed, Except.mapError]
  | malformed pooled answered unreadable =>
    simp [regenerate, pooled, answered, unreadable, Except.mapError]
  | regenerated pooled answered read => simp [regenerate, pooled, answered, read, Except.mapError]

/-- On an accepted pool the generation step ends as `Regenerates` describes. -/
theorem regenerate_regenerates
    {o : Optimizer}
    (program : Node)
    {w : Variable}
    (scored : Nat)
    {input : Record}
    (pooled : o.pool w = some (.ok input))
    (s : Workbench) :
    ∃ outcome after s', regenerate o program w scored s = .ok (outcome, after) s' ∧
      o.Regenerates program w scored s outcome after s' := by
  have ended : ∀ {outcome after s'}, o.Regenerates program w scored s outcome after s' →
      ∃ outcome after s', regenerate o program w scored s = .ok (outcome, after) s' ∧
        o.Regenerates program w scored s outcome after s' :=
    fun regenerates => ⟨_, _, _, regenerate_of_regenerates regenerates, regenerates⟩
  obtain ⟨result, s', called, -⟩ := Node.consults_call program input s
  cases result with
  | error e =>
    simp only [Work.ended_error] at called
    exact ended (.callFailed pooled called)
  | ok output =>
    simp only [Work.ended_ok] at called
    cases read : generated output with
    | error e => exact ended (.malformed pooled called read)
    | ok lines => exact ended (.regenerated pooled called read)

/-- When ranking the pool panics, so does the generation step, before the program is asked. -/
theorem regenerate_of_unranked
    {o : Optimizer}
    (program : Node)
    {w : Variable}
    (scored : Nat)
    (unranked : o.pool w = none)
    (s : Workbench) :
    regenerate o program w scored s = .error (.aborted Ranking.orderViolation) s := by
  simp [regenerate, unranked]

/-- An answer without a list of instructions is malformed output. -/
theorem generated_refusal_isPartial
    {output : Record}
    {e : OptimizationError}
    (unreadable : generated output = .error e) :
    e.isPartial = true := by
  unfold generated at unreadable
  split at unreadable
  · cases unreadable; rfl
  · split at unreadable
    · cases unreadable
    · cases unreadable; rfl

/-- A failed generation program gives a partial error. -/
theorem ofNode_isPartial (e : NodeError) : (OptimizationError.ofNode e).isPartial = true := by
  unfold OptimizationError.ofNode
  split <;> rfl

/-- Every failure of the generation step is partial: it comes after the rewards were given. -/
theorem Regenerates.isPartial
    {o : Optimizer}
    {program : Node}
    {w after : Variable}
    {scored : Nat}
    {s s' : Workbench}
    {e : OptimizationError}
    (regenerates : o.Regenerates program w scored s (.error e) after s') :
    e.isPartial = true := by
  cases regenerates with
  | callFailed => exact ofNode_isPartial _
  | malformed _ _ unreadable => exact generated_refusal_isPartial unreadable

/-- The generation step changes no more than the language models and the chat server. -/
theorem Regenerates.consulted
    {o : Optimizer}
    {program : Node}
    {w after : Variable}
    {scored : Nat}
    {s s' : Workbench}
    {outcome : Except OptimizationError OptimizeReport}
    (regenerates : o.Regenerates program w scored s outcome after s') :
    s.Consulted s' := by
  cases regenerates with
  | callFailed _ failed => exact (Node.consults_call program _).consulted_of_failed failed
  | malformed _ answered => exact (Node.consults_call program _).consulted_of_ok answered
  | regenerated _ answered => exact (Node.consults_call program _).consulted_of_ok answered

/-! ### The reference step -/

/-- The variable a regenerating pass asks generation about: the backpropagated variable with
the instructions in force stamped into its candidates. -/
theorem stamped_backpropagate (v : Variable) (r : Float) :
    stampCandidate (backpropagate v r).1 r =
      { v with phase := .optimizing, predictions := (backpropagate v r).1.predictions,
               candidates := stampedCandidates v r } := by
  rw [stampCandidate_eq]
  rfl

/-- Each ending the reference step allows is what the pass does. -/
theorem pass_of_reference_step
    {v after : Variable}
    {r : Float}
    {s s' : Workbench}
    {outcome : Except OptimizationError OptimizeReport}
    (step : ReferenceStep v r s outcome after s') :
    pass v r s = .ok (outcome, after) s' := by
  cases step with
  | invalidReward invalid => exact pass_of_refused (precheck_of_invalid invalid) s
  | notBuilt valid unbuilt => exact pass_of_refused (precheck_of_unbuilt valid unbuilt) s
  | unbuildable valid built unbuildable =>
    exact pass_of_unbuildable (precheck_of_built valid built) unbuildable
  | noop valid built buildable scored =>
    exact pass_of_scored (precheck_of_built valid built) buildable scored
  | generation valid built buildable unscored broadcast regenerates =>
    have backpropagated := (broadcast_backpropagate v r).unique broadcast
    rw [pass_of_unscored (precheck_of_built valid built) buildable unscored,
      stamped_backpropagate, backpropagated]
    exact regenerate_of_regenerates regenerates

/-- A pass whose pool cannot be ranked aborts. -/
theorem pass_of_panics
    {v : Variable}
    {r : Float}
    {s s' : Workbench}
    (panics : Panics v r s s') :
    pass v r s = .error (.aborted Ranking.orderViolation) s' := by
  cases panics with
  | unranked valid built buildable unscored unranked =>
    rw [pass_of_unscored (precheck_of_built valid built) buildable unscored,
      stamped_backpropagate]
    exact regenerate_of_unranked _ _ unranked _

namespace Panics

variable {v : Variable} {r : Float} {s s' : Workbench}

/-- An aborted pass leaves the store as it was. -/
theorem store_eq (panics : Panics v r s s') : s'.store = s.store := by
  cases panics
  rfl

/-- A pass aborts only on a variable with an unscored prediction. -/
theorem unscored (panics : Panics v r s s') : 0 < v.unscoredCount := by
  cases panics with
  | unranked _ _ _ unscored => exact unscored

end Panics

/-! ### What every reference step keeps -/

namespace ReferenceStep

variable {v after : Variable} {r : Float} {s s' : Workbench}
  {outcome : Except OptimizationError OptimizeReport}

/-- A pass touches no stored variable. -/
theorem store_eq (step : ReferenceStep v r s outcome after s') : s'.store = s.store := by
  cases step with
  | invalidReward | notBuilt | unbuildable | noop => rfl
  | generation _ _ _ _ _ regenerates => exact regenerates.consulted.store_eq

/-- A pass keeps the key of the variable. -/
theorem key_eq (step : ReferenceStep v r s outcome after s') : after.key = v.key := by
  cases step with
  | invalidReward | notBuilt | unbuildable | noop => rfl
  | generation _ _ _ _ _ regenerates => cases regenerates <;> rfl

/-- A pass ends idle, or it was refused: then its error is not partial and nothing changed. -/
theorem idle_or_refused (step : ReferenceStep v r s outcome after s') :
    after.phase = .idle ∨
      (after = v ∧ s' = s ∧ ∃ e, outcome = .error e ∧ e.isPartial = false) := by
  cases step with
  | invalidReward => exact .inr ⟨rfl, rfl, _, rfl, rfl⟩
  | notBuilt => exact .inr ⟨rfl, rfl, _, rfl, rfl⟩
  | unbuildable => exact .inr ⟨rfl, rfl, _, rfl, rfl⟩
  | noop => exact .inl rfl
  | generation _ _ _ _ _ regenerates => cases regenerates <;> exact .inl rfl

end ReferenceStep

end Optimizer

end PromptTrainer
