import PromptTrainer.Proofs.Epoch
/-!
# A whole training run

`fit` builds, then runs one epoch per reward of its source.  Take a store whose keys are
distinct and unlocked and whose rewards are all comparable, an optimizer with a language model
whose generation program, if already built, is the one built from that model, and a source
with a valid reward for every epoch.  Then a run of `E ≥ 1` epochs ends with one report per
epoch, each listing every key once, in key order (`Trainer.fit_trains`):

* the first epoch reports a key with unscored predictions optimized, with their number, when the
  model answered instructions, and failed otherwise, and a key without any a no-op;
* every later epoch reports every key a no-op;
* the model was asked once for each key with unscored predictions, in key order, and never
  otherwise;
* every prediction unscored at the start ends with the first epoch's reward and every other
  prediction is unchanged; when every epoch ends every variable's epoch, every variable ends
  finalized, without candidates.
-/

namespace PromptTrainer

namespace Optimizer

/-! ### The build -/

/-- The variable `v'` is `v` built: its predictions, candidates and instructions kept, and no
longer unbuilt. -/
def Built (v v' : Variable) : Prop :=
  v'.predictions = v.predictions ∧ v'.candidates = v.candidates ∧
    v'.instructions = v.instructions ∧ v'.phase ≠ .unbuilt

/-- An optimizer with a language model, whose program is unbuilt or the one built from the
model, has that program once it is ensured. -/
theorem ensureProgram_of_model
    {o : Optimizer}
    {model : Nat}
    (modelSet : o.model = some model)
    (program : ∀ p, o.program = some p → p = o.programFor model) :
    o.ensureProgram = .ok (o.programFor model, { o with program := some (o.programFor model) }) := by
  cases built : o.program with
  | none => simp [ensureProgram, built, modelSet]
  | some p =>
    have same := program p built
    have unchanged : { o with program := some (o.programFor model) } = o := by
      rw [← same, ← built]
    rw [unchanged]
    simp [ensureProgram, built, same]

/-- Marking a variable built keeps its key, predictions, candidates and instructions, and it is
no longer unbuilt, whatever version and instant it is committed with. -/
theorem built_markBuilt (v : Variable) (version : UInt64) (stamp : Timestamp) :
    Built v { markBuilt v with version := version, updatedAt := stamp } ∧
      (markBuilt v).key = v.key := by
  rcases v with ⟨key, predictions, instructions, candidates, phase, version, updatedAt⟩
  cases phase <;> exact ⟨⟨rfl, rfl, rfl, fun unbuilt => by cases unbuilt⟩, rfl⟩

/-- With no key locked, reading stored keys for a build reads their variables in key order. -/
theorem collectForBuild_stored :
    ∀ (keys : List String) (acc : List Variable) (b : Workbench), b.store.locked = [] →
      (∀ k ∈ keys, ∃ v, b.store.get? k = some v) →
      keys.foldlM collectForBuild acc b = .ok (acc ++ keys.filterMap b.store.get?) b
  | [], acc, b, _, _ => by simp
  | key :: rest, acc, b, unlocked, stored => by
    obtain ⟨v, found⟩ := stored key List.mem_cons_self
    have free := VariableStore.lockState_free_of_unlocked found unlocked
    have collected : collectForBuild acc key b = .ok (acc ++ [v]) b := by
      simp [collectForBuild, free, found]
    simp only [List.foldlM_cons, Work.bind_run, collected]
    rw [collectForBuild_stored rest (acc ++ [v]) b unlocked
      (fun k later => stored k (List.mem_cons_of_mem key later))]
    simp [found]

/-- Committing read variables built, their keys distinct and each still stored as read, builds
each of them and changes nothing else. -/
theorem markBuilt_all :
    ∀ (vs : List Variable) (b : Workbench), (vs.map Variable.key).Nodup →
      (∀ v ∈ vs, b.store.get? v.key = some v) →
      ∃ b', (vs.forM fun v => (Work.replace (markBuilt v) : Work OptimizationError Unit)) b =
          .ok () b' ∧
        b.store.Changed (vs.map Variable.key) Built b'.store ∧ b'.optimizer = b.optimizer ∧
        b.SameModels b'
  | [], b, _, _ => ⟨b, rfl, .nil Built b.store, rfl, .refl b⟩
  | v :: rest, b, nodup, stored => by
    obtain ⟨fresh, restNodup⟩ := List.nodup_cons.mp nodup
    have found := stored v List.mem_cons_self
    obtain ⟨built, sameKey⟩ := built_markBuilt v (v.version + 1) b.store.clock
    have first : b.store.Changed [v.key] Built (b.store.replace (markBuilt v)) :=
      .replace found sameKey built
    have restStored : ∀ w ∈ rest, (b.store.replace (markBuilt v)).get? w.key = some w :=
      fun w later => by
        have other : w.key ∉ [v.key] := fun same =>
          fresh (List.mem_singleton.mp same ▸ List.mem_map_of_mem later)
        rw [first.others w.key other]
        exact stored w (List.mem_cons_of_mem v later)
    obtain ⟨b', ran, changed, sameOptimizer, sameModels⟩ :=
      markBuilt_all rest { b with store := b.store.replace (markBuilt v) } restNodup restStored
    refine ⟨b', ?_, first.cons changed fresh, sameOptimizer, sameModels⟩
    show (Work.replace (markBuilt v) >>= fun _ => rest.forM fun v => Work.replace (markBuilt v)) b =
      .ok () b'
    rw [Work.bind_run, Work.replace_run]
    exact ran

/-- Each key's variable, read from a store with every key stored, carries the key. -/
theorem keys_filterMap_get?
    {st : VariableStore} :
    ∀ {keys : List String}, (∀ k ∈ keys, ∃ v, st.get? k = some v) →
      (keys.filterMap st.get?).map Variable.key = keys
  | [], _ => rfl
  | key :: rest, stored => by
    obtain ⟨v, found⟩ := stored key List.mem_cons_self
    rw [List.filterMap_cons_some found, List.map_cons, VariableStore.key_of_get? found,
      keys_filterMap_get? (fun k later => stored k (List.mem_cons_of_mem key later))]

/-- With the keys distinct and unlocked, and the optimizer's language model set, building
ensures the program built from the model and builds every stored variable; the language models
are not asked. -/
theorem buildStored_builds
    {model : Nat}
    {s : Workbench}
    (nodup : s.store.keys.Nodup)
    (unlocked : s.store.locked = [])
    (modelSet : s.optimizer.model = some model)
    (program : ∀ p, s.optimizer.program = some p → p = s.optimizer.programFor model) :
    ∃ b, buildStored s = .ok () b ∧ s.store.Changed s.store.keys Built b.store ∧
      b.optimizer = { s.optimizer with program := some (s.optimizer.programFor model) } ∧
      s.SameModels b := by
  have stored : ∀ k ∈ s.store.keys, ∃ v, s.store.get? k = some v :=
    fun k member => VariableStore.get?_of_mem_keys member
  have collected := collectForBuild_stored s.store.keys [] s unlocked stored
  have readKeys := keys_filterMap_get? stored
  have readStored : ∀ v ∈ s.store.keys.filterMap s.store.get?, s.store.get? v.key = some v := by
    intro v member
    obtain ⟨k, -, found⟩ := List.mem_filterMap.mp member
    rw [VariableStore.key_of_get? found]
    exact found
  obtain ⟨b, ran, changed, sameOptimizer, sameModels⟩ :=
    markBuilt_all (s.store.keys.filterMap s.store.get?)
      { s with optimizer := { s.optimizer with program := some (s.optimizer.programFor model) } }
      (by rw [readKeys]; exact nodup) readStored
  rw [readKeys] at changed
  refine ⟨b, ?_, changed, sameOptimizer, sameModels⟩
  simp only [buildStored, Work.bind_run, Work.store_run, collected, List.nil_append,
    Work.optimizer_run, ensureProgram_of_model modelSet program, Work.setOptimizer_run]
  exact ran

end Optimizer

namespace Trainer

/-! ### Epochs after the first -/

/-- A pass on a variable whose predictions all have a reward is a no-op that asks nothing. -/
theorem TrainingPass.noop_of_scored
    {o : Optimizer}
    {model : Nat}
    {r : Float}
    {v : Variable}
    {exchange : Option Exchange}
    {outcome : VariableOutcome}
    (pass : TrainingPass o model r v exchange outcome)
    (scored : v.unscoredCount = 0) :
    exchange = none ∧ outcome = .noop := by
  cases pass with
  | noop => exact ⟨rfl, rfl⟩
  | optimized unscored => omega
  | failed unscored => omega

namespace EpochPassed

variable {config : TrainerConfig} {r r' : Float} {v v₁ v' : Variable}

/-- After an epoch a variable is built. -/
theorem built (passed : EpochPassed config r v v') : v'.phase ≠ .unbuilt := by
  obtain ⟨-, ended⟩ := passed
  split at ended
  · rw [ended.2]
    decide
  · rw [ended]
    decide

/-- After an epoch every prediction has a reward. -/
theorem scored (passed : EpochPassed config r v v') : v'.unscoredCount = 0 :=
  Variable.unscoredCount_eq_zero passed.1.scored

/-- A later epoch keeps what an earlier one gave: its rewards stay, and it ends the variable as
the later epoch does. -/
theorem trans (first : EpochPassed config r v v₁) (second : EpochPassed config r' v₁ v') :
    EpochPassed config r v v' :=
  ⟨first.1.trans_scored second.1, second.2⟩

end EpochPassed

/-- An epoch of `fit` is the epoch with the reward its source gives. -/
theorem fitEpoch_of_reward
    {config : TrainerConfig}
    {run : String}
    {source : RewardSource}
    {epoch : Nat}
    {r : Float}
    (rewarded : source.reward epoch = .ok r) :
    fitEpoch config run source epoch = runEpoch config run epoch r := by
  funext b
  simp [fitEpoch, rewarded]

/-- After the first epoch, from a workbench `b₀` whose keys are distinct, unlocked and stored,
every epoch with a valid reward reports every key a no-op, asks nothing, and keeps what the
first epoch gave every variable. -/
theorem laterEpochs_keep
    (config : TrainerConfig)
    (run : String)
    (source : RewardSource)
    {model : Nat}
    {rewards : Nat → Float}
    {r : Float}
    {b₀ : Workbench}
    {asked : List Exchange}
    (nodup : b₀.store.keys.Nodup)
    (unlocked : b₀.store.locked = []) :
    ∀ (epochs : List Nat) (b : Workbench),
      (∀ e ∈ epochs, source.reward e = .ok (rewards e) ∧ Reward.isValid (rewards e) = true) →
      b.optimizer.program = some (b.optimizer.programFor model) →
      b₀.Changed model b₀.store.keys (EpochPassed config r) asked b →
      ∃ b', epochs.mapM (fitEpoch config run source) b =
          .ok (epochs.map fun e => ⟨e, rewards e, b₀.store.keys.map fun k => ⟨k, .noop⟩⟩) b' ∧
        b₀.Changed model b₀.store.keys (EpochPassed config r) asked b'
  | [], b, _, _, passed => ⟨b, rfl, passed⟩
  | epoch :: rest, b, rewarded, program, passed => by
    obtain ⟨reward, valid⟩ := rewarded epoch List.mem_cons_self
    have sameKeys : b.store.keys = b₀.store.keys := passed.store.keys_eq
    -- every variable has passed the first epoch, so it is built and has nothing to score
    have ready : ReadyKeys b.store.keys b.store := by
      rw [sameKeys]
      intro k member
      obtain ⟨_, v, -, found, epochPassed⟩ := passed.store.stored member
      exact ⟨v, found, epochPassed.built, fun unscored => by
        rw [epochPassed.scored] at unscored
        cases unscored⟩
    obtain ⟨exchange, outcome, b₁, ran, trained, epochPassed⟩ :=
      runEpoch_trains config run epoch valid program (passed.store.locked_eq.trans unlocked)
        (sameKeys ▸ nodup) ready
    rw [sameKeys] at ran trained epochPassed
    have noops : ∀ k ∈ b₀.store.keys, exchange k = none ∧ outcome k = .noop := by
      intro k member
      obtain ⟨v, found, -, -⟩ := ready k (sameKeys ▸ member)
      obtain ⟨_, -, epochPassed'⟩ := passed.store.before_of_get? found
      exact (trained k member v found).noop_of_scored epochPassed'.scored
    have reported : b₀.store.keys.map (fun k => (⟨k, outcome k⟩ : VariableReport)) =
        b₀.store.keys.map fun k => ⟨k, .noop⟩ :=
      List.map_congr_left (fun k member => by rw [(noops k member).2])
    have askedNothing : b₀.store.keys.filterMap exchange = [] :=
      List.filterMap_eq_nil_iff.mpr (fun k member => (noops k member).1)
    rw [askedNothing] at epochPassed
    have kept := passed.trans epochPassed
    rw [List.append_nil] at kept
    obtain ⟨b', ranRest, passedRest⟩ := laterEpochs_keep config run source nodup unlocked
      rest b₁ (fun e later => rewarded e (List.mem_cons_of_mem epoch later))
      (epochPassed.optimizer ▸ program) (kept.mono fun _ _ ⟨_, earlier, later⟩ => earlier.trans later)
    refine ⟨b', ?_, passedRest⟩
    rw [List.mapM_cons, Work.bind_run, fitEpoch_of_reward reward, ran, reported]
    simp [ranRest]

/-! ### The first epoch, as seen from the start -/

/-- The pool of a variable's scored and stamped copy reads only its predictions, candidates
and instructions. -/
theorem pool_stamped_congr
    {o : Optimizer}
    {v v' : Variable}
    {r : Float}
    (predictions : v'.predictions = v.predictions)
    (candidates : v'.candidates = v.candidates)
    (instructions : v'.instructions = v.instructions) :
    o.pool (Optimizer.stampCandidate (Optimizer.backpropagate v' r).1 r) =
      o.pool (Optimizer.stampCandidate (Optimizer.backpropagate v r).1 r) := by
  rw [Optimizer.stamped_backpropagate, Optimizer.stamped_backpropagate]
  unfold Optimizer.pool
  simp only [stampedCandidates, Optimizer.backpropagate, predictions, candidates, instructions]

/-- A pass on a built variable, by the optimizer with its program built, is the pass on the
variable as it was before the build, by the optimizer as it was. -/
theorem TrainingPass.of_built
    {o : Optimizer}
    {program : Option Node}
    {model : Nat}
    {r : Float}
    {v v' : Variable}
    {exchange : Option Exchange}
    {outcome : VariableOutcome}
    (built : Optimizer.Built v v')
    (pass : TrainingPass { o with program := program } model r v' exchange outcome) :
    TrainingPass o model r v exchange outcome := by
  obtain ⟨predictions, candidates, instructions, -⟩ := built
  have sameCount : v'.unscoredCount = v.unscoredCount := by
    simp only [Variable.unscoredCount, predictions]
  have samePool : o.pool (Optimizer.stampCandidate (Optimizer.backpropagate v' r).1 r) =
      o.pool (Optimizer.stampCandidate (Optimizer.backpropagate v r).1 r) :=
    pool_stamped_congr predictions candidates instructions
  cases pass with
  | noop scored => exact .noop (sameCount ▸ scored)
  | optimized unscored pooled read =>
    rw [sameCount]
    exact .optimized (sameCount ▸ unscored) (samePool ▸ pooled) read
  | failed unscored pooled unread =>
    exact .failed (sameCount ▸ unscored) (samePool ▸ pooled) unread

/-! ### The whole run -/

/-- What a training run of `epochs` epochs with the rewards `rewards` did, from the workbench
`s` to the workbench `s'` with the history `h`: `exchange` and `outcome` are each key's exchange
with the language model `model` in the first epoch, if any, and how that epoch reported it. -/
structure Trained (config : TrainerConfig) (model : Nat) (rewards : Nat → Float) (epochs : Nat)
    (exchange : String → Option Exchange) (outcome : String → VariableOutcome)
    (s : Workbench) (h : History) (s' : Workbench) : Prop where
  /-- One report per epoch, in order: epoch `e` with its reward and every key once, in key
  order; the first epoch reports each key's outcome, every later one every key a no-op. -/
  history : h.epochs = (List.range epochs).map fun e =>
    ⟨e, rewards e, s.store.keys.map fun k => ⟨k, if e = 0 then outcome k else .noop⟩⟩
  /-- The first epoch's pass on each key went as `TrainingPass` says, on the variable stored
  at the start. -/
  firstPasses : ∀ k v, s.store.get? k = some v →
    TrainingPass s.optimizer model (rewards 0) v (exchange k) (outcome k)
  /-- The language model was asked exactly the first epoch's requests, in key order. -/
  asked : Work.Asked model (s.store.keys.filterMap exchange) s s'
  /-- The keys stay, in their order. -/
  keys : s'.store.keys = s.store.keys
  /-- Each prediction unscored at the start carries the first reward; every other is as it
  was. -/
  predictions : ∀ k v, s.store.get? k = some v →
    ∃ v', s'.store.get? k = some v' ∧ Broadcast (rewards 0) v.predictions v'.predictions
  /-- When every epoch ends every variable's epoch, every variable ends finalized, without
  candidates. -/
  finalized : config.finalizeOnEpochEnd = true →
    ∀ k v', s'.store.get? k = some v' → v'.candidates = [] ∧ v'.phase = .finalized

/-- A training run of at least one epoch, on a store whose keys are distinct and unlocked and
whose rewards are comparable, with an optimizer whose program is unbuilt or built from its
language model, and a valid reward for every epoch, goes as `Trained` says. -/
theorem fit_trains
    (config : TrainerConfig)
    (run : String)
    (source : RewardSource)
    (rewards : Nat → Float)
    {epochs model : Nat}
    {s : Workbench}
    (positive : 0 < epochs)
    (rewarded : ∀ e < epochs, source.reward e = .ok (rewards e) ∧ Reward.isValid (rewards e) = true)
    (nodup : s.store.keys.Nodup)
    (unlocked : s.store.locked = [])
    (modelSet : s.optimizer.model = some model)
    (program : ∀ p, s.optimizer.program = some p → p = s.optimizer.programFor model)
    (comparable : ∀ k v, s.store.get? k = some v → v.RewardsComparable) :
    ∃ exchange outcome h s', fit config run epochs source s = .ok h s' ∧
      Trained config model rewards epochs exchange outcome s h s' := by
  obtain ⟨n, rfl⟩ : ∃ n, epochs = n + 1 := ⟨epochs - 1, by omega⟩
  obtain ⟨b₀, built, builtStore, builtOptimizer, builtModels⟩ :=
    Optimizer.buildStored_builds nodup unlocked modelSet program
  have keys₀ : b₀.store.keys = s.store.keys := builtStore.keys_eq
  have unlocked₀ : b₀.store.locked = [] := builtStore.locked_eq.trans unlocked
  have program₀ : b₀.optimizer.program = some (b₀.optimizer.programFor model) := by
    rw [builtOptimizer]
    rfl
  have ready : ReadyKeys b₀.store.keys b₀.store := fun k member => by
    rw [keys₀] at member
    obtain ⟨v, v₀, found, found₀, predictions, candidates, -, notUnbuilt⟩ :=
      builtStore.stored member
    have keptComparable := comparable k v found
    refine ⟨v₀, found₀, notUnbuilt, fun _ => ?_⟩
    unfold Variable.RewardsComparable at keptComparable ⊢
    rw [predictions, candidates]
    exact keptComparable
  obtain ⟨firstReward, firstValid⟩ := rewarded 0 (by omega)
  obtain ⟨exchange, outcome, b₁, firstRan, firstTrained, firstPassed⟩ :=
    runEpoch_trains config run 0 firstValid program₀ unlocked₀ (keys₀ ▸ nodup) ready
  obtain ⟨b', laterRan, passed⟩ := laterEpochs_keep config run source (keys₀ ▸ nodup) unlocked₀
    ((List.range n).map Nat.succ) b₁
    (fun e later => by
      obtain ⟨i, within, rfl⟩ := List.mem_map.mp later
      exact rewarded (i + 1) (by simp at within; omega))
    (firstPassed.optimizer ▸ program₀) firstPassed
  have whole : s.store.Changed s.store.keys
      (fun v v' => ∃ v₀, Optimizer.Built v v₀ ∧ EpochPassed config (rewards 0) v₀ v') b'.store := by
    have epochs := passed.store
    rw [keys₀] at epochs
    exact builtStore.trans epochs
  refine ⟨exchange, outcome,
    ⟨⟨0, rewards 0, b₀.store.keys.map fun k => ⟨k, outcome k⟩⟩ ::
      ((List.range n).map Nat.succ).map fun e =>
        ⟨e, rewards e, b₀.store.keys.map fun k => ⟨k, .noop⟩⟩⟩,
    b', ?_, ⟨?_, ?_, ?_, ?_, ?_, ?_⟩⟩
  · have builds : build s = .ok () b₀ := by
      simp [build, built]
    simp only [fit, Nat.add_one_ne_zero, beq_iff_eq, if_false, Work.bind_run, builds,
      List.range_succ_eq_map, List.mapM_cons, fitEpoch_of_reward firstReward, firstRan,
      laterRan, Work.pure_run]
  · simp [keys₀, List.range_succ_eq_map]
  · intro k v found
    obtain ⟨v₀, found₀, builtVariable⟩ :=
      builtStore.changed k (VariableStore.mem_keys_of_get? found) v found
    have pass := firstTrained k (keys₀ ▸ VariableStore.mem_keys_of_get? found) v₀ found₀
    rw [builtOptimizer] at pass
    exact pass.of_built builtVariable
  · rw [← keys₀]
    exact Work.Asked.congr_left builtModels passed.asked
  · exact whole.keys_eq
  · intro k v found
    obtain ⟨v', found', v₀, ⟨builtPredictions, -⟩, broadcast, -⟩ :=
      whole.changed k (VariableStore.mem_keys_of_get? found) v found
    exact ⟨v', found', builtPredictions ▸ broadcast⟩
  · intro finalizing k v' found'
    obtain ⟨_, -, _, -, -, ended⟩ := whole.before_of_get? found'
    simpa [finalizing] using ended

/-- Two epochs with the reward `0.5` on a store holding one variable with one unscored
prediction, the optimizer's language model the first of the table. -/
theorem fit_trains_one_key :
    (0 < 2 ∧ (∀ e < 2, (RewardSource.fixed 0.5).reward e = .ok 0.5 ∧ Reward.isValid 0.5 = true) ∧
      (VariableStore.keys
        ⟨4, [{ key := "k", predictions := [⟨"Prediction", [], [], none⟩], updatedAt := .epoch }],
          [], .epoch⟩).Nodup ∧
      ∀ k v, VariableStore.get?
        ⟨4, [{ key := "k", predictions := [⟨"Prediction", [], [], none⟩], updatedAt := .epoch }],
          [], .epoch⟩ k = some v → v.RewardsComparable) ∧
    ∃ exchange outcome h s', fit {} "run" 2 (.fixed 0.5)
        { store :=
            ⟨4, [{ key := "k", predictions := [⟨"Prediction", [], [], none⟩], updatedAt := .epoch }],
              [], .epoch⟩,
          optimizer := { model := some 0 } } = .ok h s' ∧
      Trained {} 0 (fun _ => 0.5) 2 exchange outcome
        { store :=
            ⟨4, [{ key := "k", predictions := [⟨"Prediction", [], [], none⟩], updatedAt := .epoch }],
              [], .epoch⟩,
          optimizer := { model := some 0 } } h s' := by
  have comparable : ∀ k v, VariableStore.get?
      ⟨4, [{ key := "k", predictions := [⟨"Prediction", [], [], none⟩], updatedAt := .epoch }],
        [], .epoch⟩ k = some v → v.RewardsComparable := by
    intro k v found
    simp only [VariableStore.get?, List.find?_cons, List.find?_nil] at found
    split at found <;> cases found
    exact ⟨by simp, by simp [Reward.isComparable]⟩
  have rewarded : ∀ e < 2, (RewardSource.fixed 0.5).reward e = .ok 0.5 ∧
      Reward.isValid 0.5 = true :=
    fun _ _ => ⟨rfl, by decide⟩
  exact ⟨⟨by decide, rewarded, by decide, comparable⟩,
    fit_trains {} "run" (.fixed 0.5) (fun _ => 0.5) (by decide) rewarded (by decide) rfl rfl
      (fun _ unbuilt => by cases unbuilt) comparable⟩

/-- Training fails its promise on a stored NaN reward: a store holding one variable whose
predictions are scored `0`, NaN and `2` to `19`, then one unscored.  The first epoch scores the
last with `0.5`, and ranking the predictions for generation then panics, so the run aborts. -/
theorem fit_aborts_on_nan_reward :
    ∃ s', fit {} "run" 1 (.fixed 0.5)
        { store :=
            ⟨4, [{ key := "k", phase := .idle, updatedAt := .epoch,
                   predictions := (some 0.0 :: some (0.0 / 0.0) ::
                     (List.range 18).map (fun i => some (Float.ofNat (i + 2))) ++ [none]).map
                       (fun reward => ⟨"Prediction", [], [], reward⟩) }],
              [], .epoch⟩,
          optimizer := { model := some 0 } } =
      .error (.aborted Ranking.orderViolation) s' :=
  Work.aborted_of_abortedWith (by decide +kernel)

end Trainer

end PromptTrainer
