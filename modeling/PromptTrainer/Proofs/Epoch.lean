import PromptTrainer.Training.Trainer
import PromptTrainer.Proofs.Commit
import PromptTrainer.Proofs.Pool
/-!
# A training epoch, key by key

During training every stored variable is built, the generation program is the one built from
the optimizer's language model, no key is locked, and each epoch's reward is valid.  A pass on
a stored variable then never stops and never refuses (`Optimizer.optimizeStored_retrains`):

* a variable without unscored predictions gets a no-op and asks nothing;
* any other variable gets the reward on each unscored prediction, and the model is asked once,
  on the pool of the scored variable; the epoch reports the variable optimized, with the number
  scored, when the model answered instructions, and failed otherwise (`Trainer.TrainingPass`);

and either way the variable ends idle with the reward broadcast to its predictions
(`Trainer.Passed`).  An epoch runs these passes over the keys in order, then, if so configured,
ends every variable's epoch (`Trainer.runEpoch_trains`).
-/

namespace PromptTrainer

/-! ### Broadcasts -/

namespace Broadcast

/-- Broadcasting to predictions that all have a reward keeps them. -/
theorem self_of_scored
    (r : Float)
    {predictions : List Prediction}
    (scored : ∀ p ∈ predictions, p.reward ≠ none) :
    Broadcast r predictions predictions := by
  unfold Broadcast
  induction predictions with
  | nil => exact .nil
  | cons p rest restBroadcast =>
    have headScored := scored p List.mem_cons_self
    refine .cons ⟨fun unscored => absurd unscored headScored, fun _ => rfl⟩
      (restBroadcast (fun q member => scored q (List.mem_cons_of_mem p member)))

/-- After a broadcast every prediction has a reward. -/
theorem scored
    {r : Float}
    {before after : List Prediction}
    (broadcast : Broadcast r before after) :
    ∀ q ∈ after, q.reward ≠ none := by
  unfold Broadcast at broadcast
  induction broadcast with
  | nil => simp
  | @cons p q _ _ heads _ restScored =>
    intro q' member
    rcases List.mem_cons.mp member with rfl | member
    · by_cases unscored : p.reward = none
      · simp [heads.1 unscored]
      · rw [heads.2 unscored]
        exact unscored
    · exact restScored q' member

/-- Two broadcasts of rewards, the second to predictions that all have one, are the first. -/
theorem trans_scored
    {r r' : Float}
    {before middle after : List Prediction}
    (first : Broadcast r before middle)
    (second : Broadcast r' middle after) :
    Broadcast r before after := by
  have kept : after = middle :=
    Broadcast.unique second (self_of_scored r' first.scored)
  rw [kept]
  exact first

end Broadcast

/-- A variable whose predictions all have a reward has no unscored prediction. -/
theorem Variable.unscoredCount_eq_zero
    {v : Variable}
    (scored : ∀ p ∈ v.predictions, p.reward ≠ none) :
    v.unscoredCount = 0 := by
  unfold Variable.unscoredCount
  simp only [List.length_eq_zero_iff, List.filter_eq_nil_iff, Option.isNone_iff_eq_none]
  exact scored

/-- A variable without unscored predictions has a reward on each of them. -/
theorem Variable.scored_of_unscoredCount
    {v : Variable}
    (noneUnscored : v.unscoredCount = 0) :
    ∀ p ∈ v.predictions, p.reward ≠ none := by
  unfold Variable.unscoredCount at noneUnscored
  simpa only [List.length_eq_zero_iff, List.filter_eq_nil_iff, Option.isNone_iff_eq_none]
    using noneUnscored

/-! ### Outcomes -/

namespace Trainer

theorem outcomeOf_regenerated {scored : Nat} (positive : 0 < scored) :
    outcomeOf (.ok ⟨scored, true⟩) = .optimized scored := by
  have notNoop : (OptimizeReport.isNoop ⟨scored, true⟩) = false := by
    simp [OptimizeReport.isNoop]
    omega
  simp [outcomeOf, notNoop]

/-- A failure of generation is reported as a failure, with its message. -/
theorem outcomeOf_partial {e : OptimizationError} (partialFailure : e.isPartial = true) :
    outcomeOf (.error e) = .failed e.message := by
  cases e <;> first | rfl | cases partialFailure

end Trainer

/-! ### The generation step -/

/-- The instructions the optimizer's model answered in an exchange, if it answered a list of
them. -/
def Exchange.generatedLines (x : Exchange) : Option (List String) :=
  x.answer.toOption.bind fun output => (Optimizer.generated output).toOption

/-- The instructions in force after a pass that asked the optimizer's model `exchange`, if it
asked: those the model answered, if it answered a list of them, and otherwise those in force
before. -/
def Trainer.instructionsAfter (exchange : Option Exchange) (before : Option Instructions) :
    Option Instructions :=
  ((exchange.bind Exchange.generatedLines).map Instructions.ofLines).or before

@[simp] theorem Trainer.instructionsAfter_none (before : Option Instructions) :
    Trainer.instructionsAfter none before = before := rfl

namespace Optimizer.Regenerates

variable {o : Optimizer} {program : Node} {w after : Variable} {scored : Nat}
  {s s' : Workbench} {outcome : Except OptimizationError OptimizeReport}

/-- Generation keeps the predictions it was given and ends idle. -/
theorem after_eq (regenerates : o.Regenerates program w scored s outcome after s') :
    after.predictions = w.predictions ∧ after.phase = .idle := by
  cases regenerates <;> exact ⟨rfl, rfl⟩

/-- Generation on the pool of `w`, by the program built from a language model, asks the model
once, from the workbench generation starts from: it regenerates exactly when the model answered
a list of instructions, and otherwise fails after the rewards were given. -/
theorem answered_of_programFor
    {model : Nat}
    {data : List (String × Json)}
    (pooled : o.pool w = some (.ok ⟨Shapes.optimizationInput, data⟩))
    (regenerates : o.Regenerates (o.programFor model) w scored s outcome after s') :
    ∃ answer, Work.generate model ((o.generatorFor model).request
        ⟨Shapes.optimizationInput, data⟩ o.metaInstructions) s = Work.ended answer s' ∧
      ((outcome = .ok ⟨scored, true⟩ ∧ ∃ output lines, answer = .ok output ∧
          generated output = .ok lines) ∨
        (∃ e, outcome = .error e ∧ e.isPartial = true) ∧
          ∀ output, answer = .ok output → ∃ e, generated output = .error e) := by
  obtain ⟨answer, s₁, answered, called⟩ := call_programFor_ended o model data s
  refine ⟨answer, ?_⟩
  cases regenerates with
  | callFailed pooled' failed =>
    rw [pooled] at pooled'
    cases pooled'
    obtain ⟨failure, rfl⟩ :=
      Work.ended_inj (called.symm.trans (failed.trans (Work.ended_error _ _).symm))
    cases answer with
    | ok output => cases failure
    | error e =>
      refine ⟨answered, .inr ⟨⟨_, rfl, ofNode_isPartial _⟩, fun output answeredOk => ?_⟩⟩
      cases answeredOk
  | malformed pooled' answeredOk unreadable =>
    rw [pooled] at pooled'
    cases pooled'
    obtain ⟨success, rfl⟩ :=
      Work.ended_inj (called.symm.trans (answeredOk.trans (Work.ended_ok _ _).symm))
    cases answer with
    | error e => cases success
    | ok output =>
      cases success
      refine ⟨answered, .inr ⟨⟨_, rfl, generated_refusal_isPartial unreadable⟩, ?_⟩⟩
      rintro output' ⟨⟩
      exact ⟨_, unreadable⟩
  | regenerated pooled' answeredOk read =>
    rw [pooled] at pooled'
    cases pooled'
    obtain ⟨success, rfl⟩ :=
      Work.ended_inj (called.symm.trans (answeredOk.trans (Work.ended_ok _ _).symm))
    cases answer with
    | error e => cases success
    | ok output =>
      cases success
      exact ⟨answered, .inl ⟨rfl, _, _, rfl, read⟩⟩

/-- Generation keeps the candidates it was given. -/
theorem candidates_eq (regenerates : o.Regenerates program w scored s outcome after s') :
    after.candidates = w.candidates := by
  cases regenerates <;> rfl

/-- Generation by the program built from a language model puts in force the instructions the
model answered, when it answered a list of them, and keeps the instructions otherwise. -/
theorem instructions_of_programFor
    {model : Nat}
    {data : List (String × Json)}
    {answer : Except ModelError Record}
    {s₁ : Workbench}
    (pooled : o.pool w = some (.ok ⟨Shapes.optimizationInput, data⟩))
    (regenerates : o.Regenerates (o.programFor model) w scored s outcome after s')
    (answered : Work.generate model ((o.generatorFor model).request
        ⟨Shapes.optimizationInput, data⟩ o.metaInstructions) s = Work.ended answer s₁) :
    after.instructions = Trainer.instructionsAfter (some ⟨(o.generatorFor model).request
        ⟨Shapes.optimizationInput, data⟩ o.metaInstructions, answer⟩) w.instructions := by
  obtain ⟨answer', s₂, answered', called⟩ := call_programFor_ended o model data s
  obtain ⟨rfl, rfl⟩ := Work.ended_inj (answered'.symm.trans answered)
  cases regenerates with
  | callFailed pooled' failed =>
    rw [pooled] at pooled'
    cases pooled'
    rw [called] at failed
    cases answer' with
    | ok output => simp [Except.mapError] at failed
    | error e => simp [Trainer.instructionsAfter, Exchange.generatedLines, Except.toOption]
  | malformed pooled' answeredOk unreadable =>
    rw [pooled] at pooled'
    cases pooled'
    rw [called] at answeredOk
    cases answer' with
    | error e => simp [Except.mapError] at answeredOk
    | ok output =>
      obtain ⟨rfl, -⟩ : output = _ ∧ s₂ = _ := by simpa [Except.mapError] using answeredOk
      simp [Trainer.instructionsAfter, Exchange.generatedLines, Except.toOption, unreadable]
  | regenerated pooled' answeredOk read =>
    rw [pooled] at pooled'
    cases pooled'
    rw [called] at answeredOk
    cases answer' with
    | error e => simp [Except.mapError] at answeredOk
    | ok output =>
      obtain ⟨rfl, -⟩ : output = _ ∧ s₂ = _ := by simpa [Except.mapError] using answeredOk
      simp [Trainer.instructionsAfter, Exchange.generatedLines, Except.toOption, read]

end Optimizer.Regenerates

/-! ### What a training pass does to one variable -/

namespace Trainer

/-- How a pass of a training epoch ends on the variable `v`, with the reward `r` and the
optimizer `o`, whose generation program is built from the language model `model`: its exchange
with the model, if any, and the outcome the epoch reports.  The model is asked once, on the pool
of the scored and stamped variable, exactly when a prediction was unscored. -/
inductive TrainingPass (o : Optimizer) (model : Nat) (r : Float) (v : Variable) :
    Option Exchange → VariableOutcome → Prop
  /-- With every prediction scored the pass is a no-op and asks nothing. -/
  | noop (scored : v.unscoredCount = 0) : TrainingPass o model r v none .noop
  /-- The model answers instructions: the variable is optimized, its unscored predictions
  counted. -/
  | optimized {input output : Record} {lines : List String}
      (unscored : 0 < v.unscoredCount)
      (pooled : o.pool (Optimizer.stampCandidate (Optimizer.backpropagate v r).1 r) = some (.ok input))
      (read : Optimizer.generated output = .ok lines) :
      TrainingPass o model r v
        (some ⟨(o.generatorFor model).request input o.metaInstructions, .ok output⟩)
        (.optimized v.unscoredCount)
  /-- The model fails, or answers no list of instructions: the pass failed. -/
  | failed {input : Record} {answer : Except ModelError Record} {message : String}
      (unscored : 0 < v.unscoredCount)
      (pooled : o.pool (Optimizer.stampCandidate (Optimizer.backpropagate v r).1 r) = some (.ok input))
      (unread : ∀ output, answer = .ok output → ∃ e, Optimizer.generated output = .error e) :
      TrainingPass o model r v
        (some ⟨(o.generatorFor model).request input o.metaInstructions, answer⟩)
        (.failed message)

/-- The variable `v'` is `v` after a training pass with reward `r`: the reward is broadcast to
its predictions, and it is idle. -/
def Passed (r : Float) (v v' : Variable) : Prop :=
  Broadcast r v.predictions v'.predictions ∧ v'.phase = .idle

/-- The variable `v'` is `v` after a training pass with reward `r` that asked the optimizer's
model `exchange`, if it asked: passed (`Passed`), with the instructions the model answered put
in force, and with every reward comparable when every one was. -/
structure Retrained (r : Float) (exchange : Option Exchange) (v v' : Variable) : Prop where
  passed : Passed r v v'
  instructions : v'.instructions = instructionsAfter exchange v.instructions
  comparable : v.RewardsComparable → v'.RewardsComparable

end Trainer

/-- What training did to a workbench over the keys `keys`: each variable under them changed by
`R`, the optimizer kept, and the language model `model` asked the requests of `exchanges` in
order. -/
structure Workbench.Changed (model : Nat) (keys : List String) (R : Variable → Variable → Prop)
    (exchanges : List Exchange) (b b' : Workbench) : Prop where
  store : b.store.Changed keys R b'.store
  optimizer : b'.optimizer = b.optimizer
  asked : Work.Asked model exchanges b b'

namespace Workbench.Changed

variable {model : Nat} {keys : List String} {R R' : Variable → Variable → Prop}
  {first second : List Exchange} {b b₁ b' : Workbench}

theorem nil (R : Variable → Variable → Prop) (b : Workbench) : b.Changed model [] R [] b :=
  ⟨.nil R b.store, rfl, .refl b⟩

/-- What training did stays done when only the hooks' records change afterwards. -/
theorem withEvents (changed : b.Changed model keys R first b₁) (events : List HookEvent) :
    b.Changed model keys R first { b₁ with events := events } :=
  ⟨changed.store, changed.optimizer, changed.asked.congr_right ⟨rfl, rfl⟩⟩

/-- A pass on one key, then passes on other keys, are passes on them all. -/
theorem cons {key : String} (head : b.Changed model [key] R first b₁)
    (rest : b₁.Changed model keys R second b') (fresh : key ∉ keys) :
    b.Changed model (key :: keys) R (first ++ second) b' :=
  ⟨head.store.cons rest.store fresh, rest.optimizer.trans head.optimizer,
    head.asked.append rest.asked⟩

/-- Two changes of the same keys, one after the other, change each key by both in turn. -/
theorem trans (earlier : b.Changed model keys R first b₁) (later : b₁.Changed model keys R' second b') :
    b.Changed model keys (fun v v'' => ∃ v', R v v' ∧ R' v' v'') (first ++ second) b' :=
  ⟨earlier.store.trans later.store, later.optimizer.trans earlier.optimizer,
    earlier.asked.append later.asked⟩

/-- What training did from a workbench is done from it before the hooks' records changed. -/
theorem fromEvents {events : List HookEvent}
    (changed : ({ b with events := events } : Workbench).Changed model keys R first b') :
    b.Changed model keys R first b' :=
  ⟨changed.store, changed.optimizer,
    Work.Asked.congr_left (show b.SameModels { b with events := events } from ⟨rfl, rfl⟩)
      changed.asked⟩

theorem mono (weaker : ∀ v v', R v v' → R' v v') (changed : b.Changed model keys R first b') :
    b.Changed model keys R' first b' :=
  ⟨changed.store.mono weaker, changed.optimizer, changed.asked⟩

theorem mono_keyed (weaker : ∀ v v', v.key ∈ keys → R v v' → R' v v')
    (changed : b.Changed model keys R first b') : b.Changed model keys R' first b' :=
  ⟨changed.store.mono_keyed weaker, changed.optimizer, changed.asked⟩

end Workbench.Changed

theorem Variable.phase_eq_of_beq {a b : Variable} (same : a.beq b = true) : a.phase = b.phase := by
  simp only [Variable.beq, Bool.and_eq_true] at same
  have samePhase : (a.phase == b.phase) = true := same.1.1.2
  revert samePhase
  cases a.phase <;> cases b.phase <;> decide

theorem Optimizer.ensureProgram_of_program {o : Optimizer} {p : Node} (program : o.program = some p) :
    o.ensureProgram = .ok (p, o) := by
  simp [Optimizer.ensureProgram, program]

theorem Optimizer.predictions_stampCandidate (v : Variable) (r : Float) :
    (stampCandidate v r).predictions = v.predictions := by
  rw [stampCandidate_eq]

namespace Workbench

/-- Committing the variable a pass left, or keeping the stored one, changes its key by `R`
when `R` relates the stored variable to the committed state, or to itself when nothing is
committed. -/
theorem changed_of_commit
    {model : Nat}
    {key : String}
    {R : Variable → Variable → Prop}
    {exchanges : List Exchange}
    {b b₁ : Workbench}
    {v after : Variable}
    {committed : Bool}
    (found : b.store.get? key = some v)
    (sameKey : after.key = key)
    (consulted : b.Consulted b₁)
    (asked : Work.Asked model exchanges b b₁)
    (onCommit : committed = true →
      R v { after with version := v.version + 1, updatedAt := b.store.clock })
    (onKeep : committed = false → R v v) :
    b.Changed model [key] R exchanges
      (if committed then { b₁ with store := b₁.store.replace after } else b₁) := by
  have sameStore := consulted.store_eq
  cases committed with
  | true =>
    refine ⟨?_, consulted.optimizer_eq, asked.congr_right ⟨rfl, rfl⟩⟩
    show b.store.Changed [key] R (b₁.store.replace after)
    rw [sameStore]
    exact VariableStore.Changed.replace found sameKey (onCommit rfl)
  | false =>
    refine ⟨?_, consulted.optimizer_eq, asked⟩
    show b.store.Changed [key] R b₁.store
    rw [sameStore]
    exact VariableStore.Changed.kept found (onKeep rfl)

end Workbench

namespace Optimizer

/-- Generation by the program built from `model`, on the variable `v` scored with a valid
reward and stamped, with a prediction unscored and every reward comparable, always commits: it
regenerated, or failed after the rewards were given.  It asks the model once, the pass ends as
`TrainingPass` says, and the variable is retrained with the model's answer. -/
theorem Regenerates.retrains
    {o : Optimizer}
    {model : Nat}
    {v after : Variable}
    {r : Float}
    {s s' : Workbench}
    {outcome : Except OptimizationError OptimizeReport}
    (valid : Reward.isValid r = true)
    (unscored : 0 < v.unscoredCount)
    (comparable : v.RewardsComparable)
    (regenerates : o.Regenerates (o.programFor model) (stampCandidate (backpropagate v r).1 r)
      v.unscoredCount s outcome after s') :
    commits outcome after v = true ∧
      ∃ exchange, Work.Asked model [exchange] s s' ∧
        Trainer.TrainingPass o model r v (some exchange) (Trainer.outcomeOf outcome) ∧
        Trainer.Retrained r (some exchange) v after := by
  obtain ⟨data, pooled⟩ := pool_of_backpropagated o valid comparable
  obtain ⟨answer, answered, ended⟩ := regenerates.answered_of_programFor pooled
  obtain ⟨afterPredictions, afterIdle⟩ := regenerates.after_eq
  have stamped := rewardsComparable_stamped valid comparable
  have retrained : Trainer.Retrained r (some ⟨(o.generatorFor model).request
      ⟨Shapes.optimizationInput, data⟩ o.metaInstructions, answer⟩) v after := by
    refine ⟨⟨?_, afterIdle⟩, ?_, fun _ => ⟨?_, ?_⟩⟩
    · rw [afterPredictions, predictions_stampCandidate]
      exact broadcast_backpropagate v r
    · rw [regenerates.instructions_of_programFor pooled answered, stamped_backpropagate]
    · rw [regenerates.candidates_eq]
      exact stamped.1
    · rw [afterPredictions]
      exact stamped.2
  rcases ended with ⟨rfl, output, lines, rfl, read⟩ | ⟨⟨e, rfl, failure⟩, unread⟩
  · have changed : commits (.ok ⟨v.unscoredCount, true⟩) after v = true :=
      commits_of_partial_or_changed (.inr ⟨_, rfl, .inl (by simp [OptimizeReport.isNoop]; omega)⟩)
    refine ⟨changed, _, Work.Asked.single answered, ?_, retrained⟩
    rw [Trainer.outcomeOf_regenerated unscored]
    exact .optimized unscored pooled read
  · refine ⟨commits_of_partial_or_changed (.inl ⟨e, rfl, failure⟩), _, Work.Asked.single answered,
      ?_, retrained⟩
    rw [Trainer.outcomeOf_partial failure]
    exact .failed unscored pooled unread

/-- In training (a valid reward, no key locked, a built variable, the generation program built
from the language model `model`), a pass on a stored variable ends, never stopped on a lock: it
ends as `TrainingPass` says, asks the model what it says, and leaves the variable retrained
with the model's answer; no other key changes.  The variable's rewards need to be comparable
only when a prediction is unscored, for generation to rank them. -/
theorem optimizeStored_retrains
    {model : Nat}
    {key : String}
    {r : Float}
    {b : Workbench}
    {v : Variable}
    (valid : Reward.isValid r = true)
    (program : b.optimizer.program = some (b.optimizer.programFor model))
    (unlocked : b.store.locked = [])
    (found : b.store.get? key = some v)
    (built : v.phase ≠ .unbuilt)
    (comparable : 0 < v.unscoredCount → v.RewardsComparable) :
    ∃ ending exchange b', optimizeStored key r b = Work.ended ending b' ∧
      Trainer.TrainingPass b.optimizer model r v exchange (Trainer.outcomeOf ending) ∧
      b.Changed model [key] (Trainer.Retrained r exchange) exchange.toList b' := by
  have free := VariableStore.lockState_free_of_unlocked found unlocked
  have buildable := ensureProgram_of_program program
  obtain ⟨outcome, after, b₁, passed, step⟩ := pass_reference_step v r b comparable
  have ran := optimizeStored_of_free free found passed
  have sameKey : after.key = key := step.key_eq.trans (VariableStore.key_of_get? found)
  cases step with
  | invalidReward invalid =>
    rw [valid] at invalid
    cases invalid
  | notBuilt _ unbuilt => exact absurd unbuilt built
  | unbuildable _ _ unbuildable =>
    rw [buildable] at unbuildable
    cases unbuildable
  | noop _ _ buildable' scored =>
    rw [buildable] at buildable'
    cases buildable'
    have idle : ∀ v' : Variable, v'.predictions = v.predictions → v'.candidates = v.candidates →
        v'.instructions = v.instructions → v'.phase = .idle → Trainer.Retrained r none v v' := by
      intro v' predictions candidates instructions idle
      refine ⟨⟨?_, idle⟩, instructions, fun comparable => ?_⟩
      · rw [predictions]
        exact Broadcast.self_of_scored r (Variable.scored_of_unscoredCount scored)
      unfold Variable.RewardsComparable at comparable ⊢
      rw [predictions, candidates]
      exact comparable
    refine ⟨_, none, _, ran, .noop scored, Workbench.changed_of_commit found sameKey rfl
      (.refl b) (fun _ => idle _ rfl rfl rfl rfl) (fun kept => ?_)⟩
    have unchanged : ({ v with phase := .idle } : Variable).beq v = true := by
      simpa [commits, OptimizeReport.isNoop] using kept
    exact idle v rfl rfl rfl (Variable.phase_eq_of_beq unchanged).symm
  | @generation _ _ predictions _ _ _ _ _ buildable' unscored broadcast regenerates =>
    rw [buildable] at buildable'
    cases buildable'
    have scoredVariable :
        ({ v with phase := .optimizing, predictions := predictions,
                  candidates := stampedCandidates v r } : Variable) =
          stampCandidate (backpropagate v r).1 r := by
      rw [stamped_backpropagate, (broadcast_backpropagate v r).unique broadcast]
    rw [scoredVariable] at regenerates
    obtain ⟨committed, exchange, asked, trained, retrained⟩ :=
      regenerates.retrains valid unscored (comparable unscored)
    have neverKept : commits outcome after v = false → Trainer.Retrained r (some exchange) v v := by
      intro kept
      rw [committed] at kept
      cases kept
    exact ⟨_, some exchange, _, ran, trained, Workbench.changed_of_commit found sameKey
      regenerates.consulted asked
      (fun _ => ⟨retrained.passed, retrained.instructions, retrained.comparable⟩) neverKept⟩

end Optimizer

/-! ### The passes of an epoch -/

namespace Trainer

/-- Telling the hooks how a pass ended changes nothing but the hooks' records. -/
theorem announce_run (run : String) (epoch : Nat) (key : String) (outcome : VariableOutcome)
    (b : Workbench) :
    ∃ events, announce run epoch key outcome b = .ok () { b with events := events } := by
  cases outcome with
  | noop => exact ⟨b.events, rfl⟩
  | optimized | skipped | failed => exact ⟨_, rfl⟩

/-- In training, the pass of an epoch on one key ends as `TrainingPass` says, is reported with
its outcome, and leaves the variable retrained; see `Optimizer.optimizeStored_retrains`. -/
theorem passKey_retrains
    (run : String)
    (epoch : Nat)
    {model : Nat}
    {key : String}
    {r : Float}
    {b : Workbench}
    {v : Variable}
    (valid : Reward.isValid r = true)
    (program : b.optimizer.program = some (b.optimizer.programFor model))
    (unlocked : b.store.locked = [])
    (found : b.store.get? key = some v)
    (built : v.phase ≠ .unbuilt)
    (comparable : 0 < v.unscoredCount → v.RewardsComparable) :
    ∃ outcome exchange b', passKey run epoch r key b = .ok (key, some outcome) b' ∧
      TrainingPass b.optimizer model r v exchange outcome ∧
      b.Changed model [key] (Retrained r exchange) exchange.toList b' := by
  obtain ⟨ending, exchange, b₁, ran, trained, changed⟩ :=
    Optimizer.optimizeStored_retrains valid program unlocked found built comparable
  obtain ⟨events, announced⟩ := announce_run run epoch key (outcomeOf ending) b₁
  have settled : ((Optimizer.optimizeStored key r).settle :
      Work TrainerError (Option (Except OptimizationError OptimizeReport))) b =
        .ok (some ending) b₁ := by
    cases ending <;> simp [ran]
  refine ⟨outcomeOf ending, exchange, { b₁ with events := events }, ?_, trained,
    changed.withEvents events⟩
  rw [passKey, Work.bind_run, settled]
  simp [announced]

/-- What every variable under `keys` brings to a training epoch: it is stored, built, and its
rewards are comparable when one of its predictions is unscored. -/
def ReadyKeys (keys : List String) (st : VariableStore) : Prop :=
  ∀ k ∈ keys, ∃ v, st.get? k = some v ∧ v.phase ≠ .unbuilt ∧
    (0 < v.unscoredCount → v.RewardsComparable)

/-- In training, the passes of an epoch over distinct keys, in order: each ends as
`TrainingPass` says and is reported with its outcome, every variable is retrained with the
answer its pass got, and the model is asked, in key order, what the passes asked it; a
key outside them is asked about by no pass. -/
theorem passKeys_retrain
    (run : String)
    (epoch : Nat)
    {model : Nat}
    {r : Float}
    (valid : Reward.isValid r = true) :
    ∀ (keys : List String) (b : Workbench), keys.Nodup →
      b.optimizer.program = some (b.optimizer.programFor model) → b.store.locked = [] →
      ReadyKeys keys b.store →
      ∃ (exchange : String → Option Exchange) (outcome : String → VariableOutcome) (b' : Workbench),
        keys.mapM (passKey run epoch r) b = .ok (keys.map fun k => (k, some (outcome k))) b' ∧
        (∀ k ∈ keys, ∀ v, b.store.get? k = some v →
          TrainingPass b.optimizer model r v (exchange k) (outcome k)) ∧
        b.Changed model keys (fun v v' => Retrained r (exchange v.key) v v')
          (keys.filterMap exchange) b' ∧
        ∀ k, k ∉ keys → exchange k = none
  | [], b, _, _, _, _ => ⟨fun _ => none, fun _ => .noop, b, rfl, by simp, .nil _ b, fun _ _ => rfl⟩
  | key :: rest, b, nodup, program, unlocked, ready => by
    obtain ⟨fresh, restNodup⟩ := List.nodup_cons.mp nodup
    obtain ⟨v, found, built, comparable⟩ := ready key List.mem_cons_self
    obtain ⟨outcome, exchange, b₁, ran, trained, changed⟩ :=
      passKey_retrains run epoch valid program unlocked found built comparable
    -- the first pass changed no other key, kept the optimizer and left the locks alone
    have others : ∀ k ∈ rest, b₁.store.get? k = b.store.get? k := fun k later =>
      changed.store.others k (fun same => fresh (List.mem_singleton.mp same ▸ later))
    have restReady : ReadyKeys rest b₁.store := fun k later => by
      rw [others k later]
      exact ready k (List.mem_cons_of_mem key later)
    rw [← changed.optimizer] at program
    obtain ⟨exchanges, outcomes, b', ranRest, trainedRest, changedRest, unaskedRest⟩ :=
      passKeys_retrain run epoch valid rest b₁ restNodup program
        (changed.store.locked_eq.trans unlocked) restReady
    have elsewhere : ∀ k ∈ rest, k ≠ key := fun k later same => fresh (same ▸ later)
    refine ⟨Function.update exchanges key exchange, Function.update outcomes key outcome, b',
      ?_, ?_, ?_, fun k absent => ?_⟩
    · have reported : rest.map (fun k => (k, some (Function.update outcomes key outcome k))) =
          rest.map (fun k => (k, some (outcomes k))) :=
        List.map_congr_left (fun k later => by rw [Function.update_of_ne (elsewhere k later)])
      simp [ran, ranRest, reported]
    · intro k member v' stored
      rcases List.mem_cons.mp member with rfl | later
      · rw [found] at stored
        cases stored
        simpa using trained
      · rw [Function.update_of_ne (elsewhere k later), Function.update_of_ne (elsewhere k later)]
        rw [← others k later] at stored
        rw [← changed.optimizer]
        exact trainedRest k later v' stored
    · have asked : (key :: rest).filterMap (Function.update exchanges key exchange) =
          exchange.toList ++ rest.filterMap exchanges := by
        have sameRest : rest.filterMap (Function.update exchanges key exchange) =
            rest.filterMap exchanges :=
          List.filterMap_congr (fun k later => Function.update_of_ne (elsewhere k later) _ _)
        cases exchange <;> simp [sameRest]
      rw [asked]
      refine (changed.mono_keyed fun w w' keyed retrained => ?_).cons
        (changedRest.mono_keyed fun w w' keyed retrained => ?_) fresh
      · rw [List.mem_singleton.mp keyed, Function.update_self]
        exact retrained
      · rw [Function.update_of_ne (elsewhere w.key keyed)]
        exact retrained
    · rw [Function.update_of_ne fun same : k = key => absent (same ▸ List.mem_cons_self)]
      exact unaskedRest k fun later => absent (List.mem_cons_of_mem key later)

/-- Passes that all ended are reported as they ended, and nothing is told of them again. -/
theorem reportKeys_ended (config : TrainerConfig) (run : String) (epoch : Nat)
    (outcome : String → VariableOutcome) :
    ∀ (keys : List String) (b : Workbench),
      (keys.map fun k => (k, some (outcome k))).mapM (reportKey config run epoch) b =
        .ok (keys.map fun k => ⟨k, outcome k⟩) b
  | [], _ => rfl
  | key :: rest, b => by
    rw [List.map_cons, List.mapM_cons, Work.bind_run]
    simp only [reportKey, Work.pure_run, Work.bind_run, reportKeys_ended config run epoch outcome rest b]
    rfl

/-- The variable `v'` is `v` at the end of its epoch: its predictions kept, its candidates
dropped, and finalized when it was built. -/
def Ended (v v' : Variable) : Prop :=
  v'.predictions = v.predictions ∧ v'.candidates = [] ∧
    v'.phase = if v.phase.isBuilt then .finalized else v.phase

/-- The variable `v'` is `v` with its epoch ended, committed one version on. -/
def Finalized (v v' : Variable) : Prop :=
  ∃ stamp, v' = { Optimizer.finalize v with version := v.version + 1, updatedAt := stamp }

theorem Finalized.ended {v v' : Variable} (finalized : Finalized v v') : Ended v v' := by
  obtain ⟨stamp, rfl⟩ := finalized
  exact ⟨rfl, rfl, rfl⟩

/-- With no key locked, ending the epoch of a stored variable commits it finalized. -/
theorem finalizeKey_finalizes
    (model : Nat)
    {report : VariableReport}
    {b : Workbench}
    {v : Variable}
    (unlocked : b.store.locked = [])
    (found : b.store.get? report.key = some v) :
    ∃ b', finalizeKey report b = .ok () b' ∧ b.Changed model [report.key] Finalized [] b' := by
  have free := VariableStore.lockState_free_of_unlocked found unlocked
  have keyed := VariableStore.key_of_get? found
  refine ⟨{ b with store := b.store.replace (Optimizer.finalize v) }, ?_,
    ⟨.replace found (keyed : (Optimizer.finalize v).key = report.key) ⟨_, rfl⟩, rfl, .refl _⟩⟩
  simp [finalizeKey, Optimizer.finalizeStored, Optimizer.finalizeHeld,
    Optimizer.stored_of_get? found, free]

/-- With no key locked, ending the epoch of every reported variable, the keys distinct and
stored, commits each finalized. -/
theorem finalizeKeys_finalize
    (model : Nat) :
    ∀ (reports : List VariableReport) (b : Workbench), (reports.map VariableReport.key).Nodup →
      b.store.locked = [] → (∀ k ∈ reports.map VariableReport.key, ∃ v, b.store.get? k = some v) →
      ∃ b', reports.forM finalizeKey b = .ok () b' ∧
        b.Changed model (reports.map VariableReport.key) Finalized [] b'
  | [], b, _, _, _ => ⟨b, rfl, .nil _ b⟩
  | report :: rest, b, nodup, unlocked, stored => by
    obtain ⟨fresh, restNodup⟩ := List.nodup_cons.mp nodup
    obtain ⟨v, found⟩ := stored report.key List.mem_cons_self
    obtain ⟨b₁, ran, changed⟩ := finalizeKey_finalizes model unlocked found
    have restStored : ∀ k ∈ rest.map VariableReport.key, ∃ v, b₁.store.get? k = some v :=
      fun k later => by
        rw [changed.store.others k (fun same => fresh (List.mem_singleton.mp same ▸ later))]
        exact stored k (List.mem_cons_of_mem _ later)
    obtain ⟨b', ranRest, changedRest⟩ := finalizeKeys_finalize model rest b₁ restNodup
      (changed.store.locked_eq.trans unlocked) restStored
    refine ⟨b', ?_, changed.cons changedRest fresh⟩
    show (finalizeKey report >>= fun _ => rest.forM finalizeKey) b = .ok () b'
    rw [Work.bind_run, ran]
    exact ranRest

/-- With no key locked, ending the epoch of a stored variable commits it ended. -/
theorem finalizeKey_ends
    (model : Nat)
    {report : VariableReport}
    {b : Workbench}
    {v : Variable}
    (unlocked : b.store.locked = [])
    (found : b.store.get? report.key = some v) :
    ∃ b', finalizeKey report b = .ok () b' ∧ b.Changed model [report.key] Ended [] b' := by
  obtain ⟨b', ran, changed⟩ := finalizeKey_finalizes model unlocked found
  exact ⟨b', ran, changed.mono fun _ _ finalized => finalized.ended⟩

/-- With no key locked, ending the epoch of every reported variable, the keys distinct and
stored, commits each ended. -/
theorem finalizeKeys_end
    (model : Nat) (reports : List VariableReport) (b : Workbench)
    (nodup : (reports.map VariableReport.key).Nodup) (unlocked : b.store.locked = [])
    (stored : ∀ k ∈ reports.map VariableReport.key, ∃ v, b.store.get? k = some v) :
    ∃ b', reports.forM finalizeKey b = .ok () b' ∧
      b.Changed model (reports.map VariableReport.key) Ended [] b' := by
  obtain ⟨b', ran, changed⟩ := finalizeKeys_finalize model reports b nodup unlocked stored
  exact ⟨b', ran, changed.mono fun _ _ finalized => finalized.ended⟩

/-- The variable `v'` is `v` after an epoch with reward `r`: the reward broadcast to its
predictions, and the variable idle or, when the epoch ends every variable's epoch, finalized
without candidates. -/
def EpochPassed (config : TrainerConfig) (r : Float) (v v' : Variable) : Prop :=
  Broadcast r v.predictions v'.predictions ∧
    if config.finalizeOnEpochEnd then v'.candidates = [] ∧ v'.phase = .finalized
    else v'.phase = .idle

/-- The variable `v'` is `v` after an epoch with reward `r` whose pass asked the optimizer's
model `exchange`, if it asked: passed as `EpochPassed` says, with the instructions the model
answered put in force, and with every reward comparable when every one was. -/
structure EpochRetrained (config : TrainerConfig) (r : Float) (exchange : Option Exchange)
    (v v' : Variable) : Prop where
  passed : EpochPassed config r v v'
  instructions : v'.instructions = instructionsAfter exchange v.instructions
  comparable : v.RewardsComparable → v'.RewardsComparable

/-- In training, an epoch over distinct stored keys, each ready, runs every pass as
`TrainingPass` says, reports each key once, in key order, with its outcome, and leaves each
variable retrained for the epoch with the answer its pass got; a key that is not stored is
asked about by no pass. -/
theorem runEpoch_retrains
    (config : TrainerConfig)
    (run : String)
    (epoch : Nat)
    {model : Nat}
    {r : Float}
    {b : Workbench}
    (valid : Reward.isValid r = true)
    (program : b.optimizer.program = some (b.optimizer.programFor model))
    (unlocked : b.store.locked = [])
    (nodup : b.store.keys.Nodup)
    (ready : ReadyKeys b.store.keys b.store) :
    ∃ (exchange : String → Option Exchange) (outcome : String → VariableOutcome) (b' : Workbench),
      runEpoch config run epoch r b = .ok ⟨epoch, r, b.store.keys.map fun k => ⟨k, outcome k⟩⟩ b' ∧
      (∀ k ∈ b.store.keys, ∀ v, b.store.get? k = some v →
        TrainingPass b.optimizer model r v (exchange k) (outcome k)) ∧
      b.Changed model b.store.keys (fun v v' => EpochRetrained config r (exchange v.key) v v')
        (b.store.keys.filterMap exchange) b' ∧
      ∀ k, k ∉ b.store.keys → exchange k = none := by
  simp only [runEpoch, valid, Bool.not_true, Bool.false_eq_true, if_false, Work.bind_run]
  generalize ({ run := run, epoch := epoch, phase := "epoch_begin",
                metadata := Json.object [("reward", Json.float r)] } : HookContext) = opening
  simp only [Work.notify_run, Work.store_run]
  generalize b.events ++ Hook.notify b.hooks .epochBegin opening = events
  obtain ⟨exchange, outcome, b₁, passes, trained, passed, unasked⟩ :=
    passKeys_retrain run epoch valid b.store.keys { b with events := events } nodup program
      unlocked ready
  refine ⟨exchange, outcome, ?_⟩
  rw [passes]
  simp only [reportKeys_ended]
  have fromStart := passed.fromEvents
  have stored : ∀ k ∈ b.store.keys, ∃ v, b₁.store.get? k = some v := fun k member => by
    rw [← fromStart.store.keys_eq] at member
    exact VariableStore.get?_of_mem_keys member
  have stillUnlocked : b₁.store.locked = [] := fromStart.store.locked_eq.trans unlocked
  have reportedKeys : (b.store.keys.map fun k => (⟨k, outcome k⟩ : VariableReport)).map
      VariableReport.key = b.store.keys := by
    rw [List.map_map]
    exact List.map_id _
  cases finalizing : config.finalizeOnEpochEnd with
  | true =>
    obtain ⟨b₂, finalized, ended⟩ := finalizeKeys_finalize model
      (b.store.keys.map fun k => ⟨k, outcome k⟩) b₁ (by rw [reportedKeys]; exact nodup)
      stillUnlocked (by rw [reportedKeys]; exact stored)
    rw [reportedKeys] at ended
    have epochEnded := fromStart.trans ended
    rw [List.append_nil] at epochEnded
    simp only [if_true, Work.bind_run, finalized, Work.notify_run, Work.pure_run]
    refine ⟨_, rfl, trained, (epochEnded.mono fun v v'' => ?_).withEvents _, unasked⟩
    rintro ⟨v', ⟨⟨broadcast, idle⟩, instructions, comparable⟩, stamp, rfl⟩
    refine ⟨⟨broadcast, ?_⟩, instructions, fun before => ?_⟩
    · simp only [finalizing, if_true]
      exact ⟨rfl, by simp [Optimizer.finalize, idle, Phase.isBuilt]⟩
    · refine ⟨fun c dropped => absurd dropped List.not_mem_nil, (comparable before).2⟩
  | false =>
    simp only [Bool.false_eq_true, if_false, Work.bind_run, Work.notify_run, Work.pure_run]
    refine ⟨_, rfl, trained, (fromStart.mono fun v v' retrained => ?_).withEvents _, unasked⟩
    refine ⟨?_, retrained.instructions, retrained.comparable⟩
    simp only [EpochPassed, finalizing, Bool.false_eq_true, if_false]
    exact retrained.passed

theorem runEpoch_trains
    (config : TrainerConfig)
    (run : String)
    (epoch : Nat)
    {model : Nat}
    {r : Float}
    {b : Workbench}
    (valid : Reward.isValid r = true)
    (program : b.optimizer.program = some (b.optimizer.programFor model))
    (unlocked : b.store.locked = [])
    (nodup : b.store.keys.Nodup)
    (ready : ReadyKeys b.store.keys b.store) :
    ∃ (exchange : String → Option Exchange) (outcome : String → VariableOutcome) (b' : Workbench),
      runEpoch config run epoch r b = .ok ⟨epoch, r, b.store.keys.map fun k => ⟨k, outcome k⟩⟩ b' ∧
      (∀ k ∈ b.store.keys, ∀ v, b.store.get? k = some v →
        TrainingPass b.optimizer model r v (exchange k) (outcome k)) ∧
      b.Changed model b.store.keys (EpochPassed config r) (b.store.keys.filterMap exchange) b' := by
  obtain ⟨exchange, outcome, b', ran, trained, changed, -⟩ :=
    runEpoch_retrains config run epoch valid program unlocked nodup ready
  exact ⟨exchange, outcome, b', ran, trained, changed.mono fun _ _ retrained => retrained.passed⟩

end Trainer

end PromptTrainer
