import PromptTrainer.Proofs.Pass
import PromptTrainer.Proofs.Ranking
/-!
# The generation input and the generation program

A pass shows generation the best candidates and the best predictions of a variable, as a record
of the optimization input shape.  The JSON form of every prediction and of every instruction set
passes its shape, so the record is accepted whatever it holds, once both rankings exist; they
exist when every reward is comparable (`Optimizer.pool_of_comparable`).  With a valid reward,
the variable a pass scores and stamps keeps its rewards comparable
(`Optimizer.pool_of_backpropagated`).

So a pass ends as the reference step of the optimizer protocol, or it aborts because ranking
its pool panicked, which takes a reward of the variable that cannot be ranked, a NaN
(`Optimizer.pass_ends_as_reference_step`).

The program built from a language model accepts every record of that shape and asks the model
once, with the meta-instructions; it answers what the model answers
(`Optimizer.call_programFor`).
-/

namespace PromptTrainer

/-! ### The JSON forms pass their shapes -/

/-- A reward written as JSON passes as an optional number, unchanged. -/
theorem validateType_rewardToJson (r : Option Float) (path : String) :
    validateType (.optional .number) (Reward.toJson r) path = (Reward.toJson r, []) := by
  unfold Reward.toJson
  split
  · split <;> simp [validateType, Json.float, Json.isNull, FieldType.acceptsLiteral]
  · simp [validateType, Json.isNull]

/-- A list passes when each of its items passes, wherever it stands. -/
theorem validateType_list_of_items
    {items : FieldType}
    {xs : List Json}
    (each : ∀ x ∈ xs, ∀ path, (validateType items x path).2 = [])
    (path : String) :
    (validateType (.list items) (.array xs) path).2 = [] := by
  simp only [validateType, List.flatten_eq_nil_iff, List.mem_map, List.mem_mapIdx, Prod.exists,
    exists_eq_right, forall_exists_index]
  intro violations _ i within checked
  have passes := each xs[i] (List.getElem_mem within) (itemPath path i)
  rw [checked] at passes
  exact passes

/-- The JSON form of every prediction passes the prediction shape. -/
theorem validateType_prediction (p : Prediction) (path : String) :
    (validateType (.object Shapes.prediction) p.toJson path).2 = [] := by
  simp [Prediction.toJson, validateType, validateObject, validateFields, Shapes.prediction,
    Shapes.titled, Shapes.anyMap, Shapes.rewardField, Field.ofOptional, Field.ofRequired,
    Field.withDefault, Field.withDescription, Json.lookup, Schema.hasField,
    FieldType.acceptsLiteral, ↓validateType_rewardToJson]

/-- The JSON form of every instruction set passes the instructions shape. -/
theorem validateType_instructions (i : Instructions) (path : String) :
    (validateType (.object Shapes.instructions) i.toJson path).2 = [] := by
  simp [Instructions.toJson, validateType, validateObject, validateFields, Shapes.instructions,
    Shapes.titled, Shapes.rewardField, Field.ofOptional, Field.ofRequired, Field.withDefault,
    Field.withDescription, Json.lookup, Schema.hasField, FieldType.acceptsLiteral,
    ↓validateType_rewardToJson, Json.ofStrings]

/-! ### Comparable rewards -/

/-- A valid reward can be ranked: it is finite, so it is no NaN. -/
theorem Reward.isComparable_of_isValid {r : Float} (valid : Reward.isValid r = true) :
    Reward.isComparable (some r) = true := by
  have finite : r.isFinite = true := by
    simp only [Reward.isValid, Bool.and_eq_true] at valid
    exact valid.1.1
  simp only [Float.isFinite, Float.Model.isFinite] at finite
  simp only [Reward.isComparable, Float.isNaN, Float.Model.isNaN, Bool.not_eq_true']
  -- a finite double unpacks to a zero or a finite number, and neither is NaN
  cases unpacked : r.toModel.unpack <;>
    simp_all [Float.Model.UnpackedFloat.isFinite, Float.Model.UnpackedFloat.isNaN]

/-- Every reward a variable holds, on its candidates and on its predictions, can be ranked. -/
def Variable.RewardsComparable (v : Variable) : Prop :=
  (∀ c ∈ v.candidates, Reward.isComparable c.reward = true) ∧
    ∀ p ∈ v.predictions, Reward.isComparable p.reward = true

namespace Optimizer

/-! ### The pool -/

/-- The record of any candidates and predictions in their JSON forms is accepted by the
optimization input shape. -/
theorem construct_optimizationInput
    (candidates : List Instructions)
    (predictions : List Prediction) :
    ∃ data, Record.construct Shapes.optimizationInput
        (.object [("instructions_candidates", .array (candidates.map Instructions.toJson)),
          ("predictions", .array (predictions.map Prediction.toJson))]) =
      .ok ⟨Shapes.optimizationInput, data⟩ := by
  have candidatesPass : ∀ path, (validateType (.list (.object Shapes.instructions))
      (.array (candidates.map Instructions.toJson)) path).2 = [] := by
    refine validateType_list_of_items (fun x member path => ?_)
    obtain ⟨i, -, rfl⟩ := List.mem_map.mp member
    exact validateType_instructions i path
  have predictionsPass : ∀ path, (validateType (.list (.object Shapes.prediction))
      (.array (predictions.map Prediction.toJson)) path).2 = [] := by
    refine validateType_list_of_items (fun x member path => ?_)
    obtain ⟨p, -, rfl⟩ := List.mem_map.mp member
    exact validateType_prediction p path
  have accepted : (validateObject Shapes.optimizationInput
      [("instructions_candidates", .array (candidates.map Instructions.toJson)),
        ("predictions", .array (predictions.map Prediction.toJson))] "").2 = [] := by
    simp [validateObject, validateFields, Shapes.optimizationInput, Shapes.titled,
      Field.ofRequired, Field.withDescription, Json.lookup, Schema.hasField, candidatesPass,
      predictionsPass]
  unfold Record.construct
  rcases checked : validateObject Shapes.optimizationInput _ "" with ⟨data, violations⟩
  rw [checked] at accepted
  subst accepted
  exact ⟨data, by simp only [checked]⟩

/-- The record of any candidates and predictions is accepted. -/
theorem poolValue_ok (candidates : List Instructions) (predictions : List Prediction) :
    ∃ data, poolValue candidates predictions = .ok ⟨Shapes.optimizationInput, data⟩ := by
  obtain ⟨data, accepted⟩ := construct_optimizationInput candidates predictions
  exact ⟨data, by simp [poolValue, accepted]⟩

/-- A pool that was ranked is accepted. -/
theorem pool_eq_some
    {o : Optimizer}
    {w : Variable}
    {pooled : Except OptimizationError Record}
    (ranked : o.pool w = some pooled) :
    ∃ data, pooled = .ok ⟨Shapes.optimizationInput, data⟩ := by
  unfold pool at ranked
  split at ranked
  · cases ranked
    exact poolValue_ok _ _
  · cases ranked

/-- With both rankings found, the pool is a record of the optimization input shape. -/
theorem pool_of_ranked
    {o : Optimizer}
    {w : Variable}
    {candidates : List Instructions}
    {predictions : List Prediction}
    (rankedCandidates : Ranking.top Ranking.instructionsWidth Instructions.reward o.kBest
      w.candidates = some candidates)
    (rankedPredictions : Ranking.top Ranking.predictionWidth Prediction.reward o.kBest
      w.predictions = some predictions) :
    ∃ data, o.pool w = some (.ok ⟨Shapes.optimizationInput, data⟩) := by
  obtain ⟨data, accepted⟩ := poolValue_ok candidates predictions
  exact ⟨data, by simp [pool, rankedCandidates, rankedPredictions, accepted]⟩

/-- A variable whose rewards are all comparable has a pool, a record of the optimization input
shape. -/
theorem pool_of_comparable
    (o : Optimizer)
    {w : Variable}
    (comparable : w.RewardsComparable) :
    ∃ data, o.pool w = some (.ok ⟨Shapes.optimizationInput, data⟩) := by
  obtain ⟨candidates, rankedCandidates⟩ := Option.isSome_iff_exists.mp
    (Ranking.top_isSome Ranking.instructionsWidth Instructions.reward o.kBest w.candidates
      comparable.1)
  obtain ⟨predictions, rankedPredictions⟩ := Option.isSome_iff_exists.mp
    (Ranking.top_isSome Ranking.predictionWidth Prediction.reward o.kBest w.predictions
      comparable.2)
  exact pool_of_ranked rankedCandidates rankedPredictions

/-- Scoring with a valid reward and stamping the instructions in force keeps every reward
comparable. -/
theorem rewardsComparable_stamped
    {v : Variable}
    {r : Float}
    (valid : Reward.isValid r = true)
    (comparable : v.RewardsComparable) :
    (stampCandidate (backpropagate v r).1 r).RewardsComparable := by
  have stamped := Reward.isComparable_of_isValid valid
  rw [stamped_backpropagate]
  constructor
  · intro c member
    rcases List.mem_append.mp member with old | new
    · exact comparable.1 c old
    · cases active : v.instructions with
      | none => simp [active] at new
      | some i =>
        simp only [active, Option.map_some, Option.toList_some, List.mem_singleton] at new
        rw [new]
        exact stamped
  · intro p member
    obtain ⟨q, old, rfl⟩ := List.mem_map.mp member
    by_cases unscored : q.reward.isNone
    · simp only [unscored, if_true]
      exact stamped
    · simp only [unscored, Bool.false_eq_true, if_false]
      exact comparable.2 q old

/-- The pool of the variable a pass scores and stamps with a valid reward is a record of the
optimization input shape, when the variable's rewards were comparable. -/
theorem pool_of_backpropagated
    (o : Optimizer)
    {v : Variable}
    {r : Float}
    (valid : Reward.isValid r = true)
    (comparable : v.RewardsComparable) :
    ∃ data, o.pool (stampCandidate (backpropagate v r).1 r) =
      some (.ok ⟨Shapes.optimizationInput, data⟩) :=
  pool_of_comparable o (rewardsComparable_stamped valid comparable)

/-! ### How a pass ends -/

/-- A pass aborts only on a variable holding a reward that cannot be ranked. -/
theorem Panics.not_comparable
    {v : Variable}
    {r : Float}
    {s s' : Workbench}
    (panics : Panics v r s s') :
    ¬ v.RewardsComparable := by
  intro comparable
  cases panics with
  | @unranked _ o valid _ _ _ unranked =>
    obtain ⟨_, pooled⟩ := pool_of_backpropagated o valid comparable
    rw [stamped_backpropagate, unranked] at pooled
    cases pooled

/-- A pass ends with an outcome and a variable, never stopped on a lock, as the reference step
of the protocol says; or ranking its pool panics and it aborts. -/
theorem pass_reference_step_or_panics
    (v : Variable)
    (r : Float)
    (s : Workbench) :
    (∃ outcome after s', pass v r s = .ok (outcome, after) s' ∧
      ReferenceStep v r s outcome after s') ∨
    ∃ s', pass v r s = .error (.aborted Ranking.orderViolation) s' ∧ Panics v r s s' := by
  cases valid : Reward.isValid r with
  | false =>
    exact .inl ⟨_, _, _, pass_of_refused (precheck_of_invalid valid) s, .invalidReward valid⟩
  | true =>
    by_cases unbuilt : v.phase = .unbuilt
    · exact .inl ⟨_, _, _, pass_of_refused (precheck_of_unbuilt valid unbuilt) s,
        .notBuilt valid unbuilt⟩
    have checked := precheck_of_built valid unbuilt
    cases buildable : s.optimizer.ensureProgram with
    | error e =>
      exact .inl ⟨_, _, _, pass_of_unbuildable checked buildable,
        .unbuildable valid unbuilt buildable⟩
    | ok built =>
      obtain ⟨program, o⟩ := built
      by_cases scored : v.unscoredCount = 0
      · exact .inl ⟨_, _, _, pass_of_scored checked buildable scored,
          .noop valid unbuilt buildable scored⟩
      have unscored : 0 < v.unscoredCount := Nat.pos_of_ne_zero scored
      cases ranked : o.pool (stampCandidate (backpropagate v r).1 r) with
      | none =>
        rw [stamped_backpropagate] at ranked
        have panics : Panics v r s { s with optimizer := o } :=
          .unranked valid unbuilt buildable unscored ranked
        exact .inr ⟨_, pass_of_panics panics, panics⟩
      | some pooled =>
        obtain ⟨data, rfl⟩ := pool_eq_some ranked
        obtain ⟨outcome, after, s', regenerated, regenerates⟩ :=
          regenerate_regenerates program v.unscoredCount ranked { s with optimizer := o }
        rw [stamped_backpropagate] at regenerates
        exact .inl ⟨outcome, after, s',
          (pass_of_unscored checked buildable unscored).trans regenerated,
          .generation valid unbuilt buildable unscored (broadcast_backpropagate v r) regenerates⟩

/-- A pass on a variable whose rewards are comparable, when it has a prediction to score, ends
as the reference step says. -/
theorem pass_reference_step
    (v : Variable)
    (r : Float)
    (s : Workbench)
    (comparable : 0 < v.unscoredCount → v.RewardsComparable) :
    ∃ outcome after s', pass v r s = .ok (outcome, after) s' ∧
      ReferenceStep v r s outcome after s' := by
  rcases pass_reference_step_or_panics v r s with ended | ⟨_, _, panics⟩
  · exact ended
  · exact absurd (comparable panics.unscored) panics.not_comparable

/-- A pass ends, never stopped on a lock, and its ending is the one ending the reference step
of the protocol allows; or ranking its pool panics, which takes a reward of the variable
that cannot be ranked, and the pass aborts with the store as it was. -/
theorem pass_ends_as_reference_step
    (v : Variable)
    (r : Float)
    (s : Workbench) :
    (∃ outcome after s', pass v r s = .ok (outcome, after) s' ∧
      ∀ outcome' after' s'', ReferenceStep v r s outcome' after' s'' ↔
        (outcome', after', s'') = (outcome, after, s')) ∨
    ∃ s', pass v r s = .error (.aborted Ranking.orderViolation) s' ∧ Panics v r s s' ∧
      s'.store = s.store ∧ ¬ v.RewardsComparable := by
  rcases pass_reference_step_or_panics v r s with ⟨outcome, after, s', ran, step⟩ | ⟨s', ran, panics⟩
  · refine .inl ⟨outcome, after, s', ran, fun outcome' after' s'' => ⟨fun step' => ?_, ?_⟩⟩
    · have ran' := pass_of_reference_step step'
      rw [ran] at ran'
      simp only [EStateM.Result.ok.injEq, Prod.mk.injEq] at ran'
      obtain ⟨⟨rfl, rfl⟩, rfl⟩ := ran'
      rfl
    · intro same
      simp only [Prod.mk.injEq] at same
      obtain ⟨rfl, rfl, rfl⟩ := same
      exact step
  · exact .inr ⟨s', ran, panics, panics.store_eq, panics.not_comparable⟩

/-- A built variable whose predictions are scored `0`, NaN and `2` to `19`, then one unscored:
a pass with the reward `0.5` scores the last, and ranking the predictions then panics, so the
pass aborts. -/
theorem pass_aborts_on_nan_reward :
    ∃ s', pass
        { key := "k", phase := .idle, updatedAt := .epoch,
          predictions := (some 0.0 :: some (0.0 / 0.0) ::
            (List.range 18).map (fun i => some (Float.ofNat (i + 2))) ++ [none]).map
              (fun reward => ⟨"Prediction", [], [], reward⟩) } 0.5
        { store := ⟨4, [], [], .epoch⟩, optimizer := { model := some 0 } } =
      .error (.aborted Ranking.orderViolation) s' := by
  refine ⟨_, pass_of_panics (.unranked (by decide) (by decide) rfl (by decide) ?_)⟩
  exact Option.isNone_iff_eq_none.mp (by decide +kernel)

/-! ### The generation program -/

/-- The generation program built from a language model accepts every record of the
optimization input shape and asks the model once, with the meta-instructions; it answers
what the model answers. -/
theorem call_programFor (o : Optimizer) (m : Nat) (data : List (String × Json)) :
    Node.call false (o.programFor m) ⟨Shapes.optimizationInput, data⟩ =
      (Work.generate m ((o.generatorFor m).request ⟨Shapes.optimizationInput, data⟩
        o.metaInstructions)).mapError .model := by
  have accepted : Shapes.optimizationInput.contains Shapes.optimizationInput = true := by decide
  funext s
  simp [programFor, Node.call, Node.call.go, accepted, Generator.call,
    Generator.activeInstructions, generatorFor]
  rcases Work.generate m _ s with _ | ⟨_ | _, _⟩ <;> rfl

/-- The generation program built from a model ends as its one call of the model does, from
any workbench. -/
theorem call_programFor_ended (o : Optimizer) (m : Nat) (data : List (String × Json))
    (s : Workbench) :
    ∃ answer s', Work.generate m ((o.generatorFor m).request ⟨Shapes.optimizationInput, data⟩
        o.metaInstructions) s = Work.ended answer s' ∧
      Node.call false (o.programFor m) ⟨Shapes.optimizationInput, data⟩ s =
        Work.ended (answer.mapError .model) s' := by
  obtain ⟨answer, s', answered, -⟩ := Work.consults_generate m
    ((o.generatorFor m).request ⟨Shapes.optimizationInput, data⟩ o.metaInstructions) s
  refine ⟨answer, s', answered, ?_⟩
  rw [call_programFor, Work.mapError_run, answered, Work.mapError_ended]

end Optimizer

end PromptTrainer
