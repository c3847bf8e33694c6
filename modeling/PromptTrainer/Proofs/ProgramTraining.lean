import PromptTrainer.Proofs.Evaluation
import PromptTrainer.Proofs.Training
/-!
# Training a program, epoch by epoch

`fitProgram` builds, then runs its epochs.  Each scores the program on the dataset in training,
which records a prediction for each answer a bound generator got, and then runs the epoch with
the mean clamped score as its reward, which gives the reward to every prediction without one and
asks the optimizer's model for new instructions for every variable with such predictions.

Take a store whose keys are distinct and unlocked, whose rewards are comparable and which holds
the variable of every generator bound in the program, and an optimizer whose generation program
is unbuilt or built from its language model.  Then a run of `E ≥ 1` epochs on a non-empty
dataset ends (`Trainer.fitProgram_attributes`), and:

* epoch `e` scores the program from where the epoch before left off, and runs with that score
  as its reward, a finite number in `[0, 1]` that the epoch never refuses
  (`Trainer.ProgramEpoch`);
* every prediction the program recorded in epoch `e` ends with the reward of epoch `e`, and the
  predictions held before the run end with the first reward if they had none
  (`Trainer.Attributed`);
* the generator calls of epoch `e` follow the instructions of the latest earlier epoch whose
  pass on their variable got a list of instructions from the optimizer's model, or else those
  held before the run (`Trainer.instructionsAt`).
-/

namespace PromptTrainer

/-! ### Broadcasts to recorded predictions -/

namespace Broadcast

/-- A broadcast to two lists of predictions, one after the other, is a broadcast to each. -/
theorem split {r : Float} {a b c : List Prediction} (broadcast : Broadcast r (a ++ b) c) :
    Broadcast r a (c.take a.length) ∧ Broadcast r b (c.drop a.length) := by
  unfold Broadcast at *
  have first := List.forall₂_take a.length broadcast
  have second := List.forall₂_drop a.length broadcast
  rw [List.take_left] at first
  rw [List.drop_left] at second
  exact ⟨first, second⟩

/-- A broadcast to predictions without a reward gives each of them the reward. -/
theorem eq_map_of_unscored {r : Float} {ps qs : List Prediction} (broadcast : Broadcast r ps qs)
    (unscored : ∀ p ∈ ps, p.reward = none) : qs = ps.map fun p => { p with reward := some r } := by
  unfold Broadcast at broadcast
  induction broadcast with
  | nil => rfl
  | @cons p q _ _ heads _ rest =>
    rw [heads.1 (unscored p List.mem_cons_self),
      rest fun p' later => unscored p' (List.mem_cons_of_mem p later), List.map_cons]

end Broadcast

/-- A recorded prediction has no reward yet. -/
theorem GeneratorCall.reward_recorded {key : String} {c : GeneratorCall} {p : Prediction}
    (recorded : c.recorded key = some p) : p.reward = none := by
  unfold GeneratorCall.recorded at recorded
  split at recorded
  · obtain ⟨output, -, rfl⟩ := Option.map_eq_some_iff.mp recorded
    rfl
  · cases recorded

namespace Trainer

/-! ### The instructions in force, epoch by epoch -/

/-- The instructions a key holds at the start of epoch `e` of program training, the store holding
`initial` before the first epoch and the key's pass in epoch `e` asking the optimizer's model
`exchange e key`: those held before the run, replaced after each epoch by those the model
answered the key's pass, if it answered a list of them. -/
def instructionsAt (initial : VariableStore) (exchange : Nat → String → Option Exchange)
    (key : String) : Nat → Option Instructions
  | 0 => initial.held key
  | e + 1 => instructionsAfter (exchange e key) (instructionsAt initial exchange key e)

section InstructionsAt

variable {initial : VariableStore} {exchange : Nat → String → Option Exchange} {key : String}

/-- When no earlier epoch got instructions for the key, it holds those held before the run. -/
theorem instructionsAt_of_unanswered {e : Nat}
    (unanswered : ∀ e' < e, (exchange e' key).bind Exchange.generatedLines = none) :
    instructionsAt initial exchange key e = initial.held key := by
  induction e with
  | zero => rfl
  | succ e ih =>
    rw [instructionsAt, instructionsAfter, unanswered e (Nat.lt_succ_self e),
      ih fun e' earlier => unanswered e' (Nat.lt_succ_of_lt earlier)]
    rfl

/-- The key holds the instructions the latest earlier epoch got for it. -/
theorem instructionsAt_of_latest {e latest : Nat} {lines : List String} (earlier : latest < e)
    (answered : (exchange latest key).bind Exchange.generatedLines = some lines)
    (since : ∀ e', latest < e' → e' < e → (exchange e' key).bind Exchange.generatedLines = none) :
    instructionsAt initial exchange key e = some (Instructions.ofLines lines) := by
  induction e with
  | zero => omega
  | succ e ih =>
    rw [instructionsAt, instructionsAfter]
    rcases Nat.lt_succ_iff_lt_or_eq.mp earlier with before | rfl
    · rw [since e before (Nat.lt_succ_self e),
        ih before fun e' after below => since e' after (Nat.lt_succ_of_lt below)]
      rfl
    · rw [answered]
      rfl

/-- The instructions held at an epoch depend only on those held before the run and on the
exchanges of the earlier epochs. -/
theorem instructionsAt_congr {initial' : VariableStore} {exchange' : Nat → String → Option Exchange}
    (same : ∀ k, initial'.held k = initial.held k) :
    ∀ {e : Nat}, (∀ e' < e, exchange' e' key = exchange e' key) →
      instructionsAt initial' exchange' key e = instructionsAt initial exchange key e
  | 0, _ => same key
  | e + 1, earlier => by
    rw [instructionsAt, instructionsAt, earlier e (Nat.lt_succ_self e),
      instructionsAt_congr same fun e' below => earlier e' (Nat.lt_succ_of_lt below)]

end InstructionsAt

/-! ### The predictions, epoch by epoch -/

/-- The predictions `ps` a key holds after `n` epochs of program training, the key holding
`initial` before the first epoch, and epoch `e` having the reward `rewards e` and recording
`recorded e` under the key: the initial ones, given the first reward if they had none once an
epoch ran, then those each epoch recorded, with its reward. -/
def Attributed (rewards : Nat → Float) (recorded : Nat → List Prediction)
    (initial : List Prediction) (n : Nat) (ps : List Prediction) : Prop :=
  ∃ held, (if n = 0 then held = initial else Broadcast (rewards 0) initial held) ∧
    ps = held ++ (List.range n).flatMap fun e =>
      (recorded e).map fun p => { p with reward := some (rewards e) }

section Attributed

variable {rewards : Nat → Float} {recorded : Nat → List Prediction} {initial : List Prediction}
  {n : Nat} {ps : List Prediction}

/-- Before the first epoch a key holds the predictions it held. -/
theorem attributed_zero (rewards : Nat → Float) (recorded : Nat → List Prediction)
    (initial : List Prediction) : Attributed rewards recorded initial 0 initial :=
  ⟨initial, by simp⟩

/-- After an epoch every prediction has a reward. -/
theorem Attributed.scored (attributed : Attributed rewards recorded initial n ps) (ran : 0 < n) :
    ∀ p ∈ ps, p.reward ≠ none := by
  obtain ⟨held, start, rfl⟩ := attributed
  rw [if_neg (Nat.pos_iff_ne_zero.mp ran)] at start
  intro p member
  rcases List.mem_append.mp member with early | late
  · exact start.scored p early
  · obtain ⟨e, -, stamped⟩ := List.mem_flatMap.mp late
    obtain ⟨q, -, rfl⟩ := List.mem_map.mp stamped
    simp

/-- An epoch that gives its reward `rewards n` to the predictions a key holds and then appends
those it recorded, with that reward, keeps them attributed. -/
theorem Attributed.succ (attributed : Attributed rewards recorded initial n ps)
    {held' : List Prediction} (broadcast : Broadcast (rewards n) ps held') :
    Attributed rewards recorded initial (n + 1)
      (held' ++ (recorded n).map fun p => { p with reward := some (rewards n) }) := by
  by_cases first : n = 0
  · subst first
    obtain ⟨held, start, rfl⟩ := attributed
    rw [if_pos rfl] at start
    subst start
    exact ⟨held', by simpa using broadcast, by simp⟩
  · have kept := Broadcast.unique broadcast
      (Broadcast.self_of_scored _ (attributed.scored (Nat.pos_of_ne_zero first)))
    subst kept
    obtain ⟨held, start, rfl⟩ := attributed
    rw [if_neg first] at start
    refine ⟨held, by rw [if_neg (Nat.succ_ne_zero n)]; exact start, ?_⟩
    rw [List.range_succ, List.flatMap_append, List.flatMap_singleton, List.append_assoc]

/-- Predictions attributed after `n` epochs depend only on the rewards and the records of the
epochs before `n`. -/
theorem Attributed.congr (rewards' : Nat → Float) (recorded' : Nat → List Prediction)
    (same : ∀ e < n, rewards' e = rewards e ∧ recorded' e = recorded e)
    (attributed : Attributed rewards recorded initial n ps) :
    Attributed rewards' recorded' initial n ps := by
  obtain ⟨held, start, rfl⟩ := attributed
  refine ⟨held, ?_, ?_⟩
  · by_cases first : n = 0
    · rwa [if_pos first] at start ⊢
    · rw [if_neg first] at start ⊢
      rwa [(same 0 (Nat.pos_of_ne_zero first)).1]
  · refine congrArg (held ++ ·) (List.flatMap_congr fun e member => ?_)
    obtain ⟨sameReward, sameRecord⟩ := same e (List.mem_range.mp member)
    rw [sameReward, sameRecord]

/-- An epoch `n` that gives its reward to the predictions a key holds and then appends those it
recorded, with the reward, extends their attribution by that epoch. -/
theorem Attributed.extend {rewards' : Nat → Float} {recorded' : Nat → List Prediction}
    {ps' : List Prediction} (earlier : ∀ e < n, rewards' e = rewards e ∧ recorded' e = recorded e)
    (attributed : Attributed rewards recorded initial n ps)
    (stamped : ∃ held, Broadcast (rewards' n) ps held ∧
      ps' = held ++ (recorded' n).map fun p => { p with reward := some (rewards' n) }) :
    Attributed rewards' recorded' initial (n + 1) ps' := by
  obtain ⟨held, broadcast, rfl⟩ := stamped
  exact (attributed.congr rewards' recorded' earlier).succ broadcast

end Attributed

/-! ### One epoch of program training -/

/-- A workbench ready for an epoch of program training with the optimizer's model `model`: no
key is locked, the variable of every generator bound in the program is stored, the keys are
distinct, every stored variable is built with comparable rewards, and the generation program is
the one built from `model`. -/
structure ProgramReady (program : Node) (model : Nat) (b : Workbench) : Prop where
  prepared : Prepared program b
  nodup : b.store.keys.Nodup
  built : ∀ k v, b.store.get? k = some v → v.phase ≠ .unbuilt
  comparable : ∀ k v, b.store.get? k = some v → v.RewardsComparable
  program : b.optimizer.program = some (b.optimizer.programFor model)

/-- Epoch `epoch` of program training, from the workbench `b` to `b'`: the program, scored on
the dataset from `b`, made the generator calls `calls` and scored the valid reward `r`, ending at
`b₁`; the epoch with reward `r` then reported each key with `outcome`, its pass on the key `k`
ending as `TrainingPass` says with the exchange `exchange k`, and the optimizer's model was asked
those exchanges in key order. -/
structure ProgramEpoch (config : TrainerConfig) (run : String) (model : Nat) (program : Node)
    (dataset : List Example) (metric : Metric) (epoch : Nat) (b : Workbench) (r : Float)
    (calls : List GeneratorCall) (exchange : String → Option Exchange)
    (outcome : String → VariableOutcome) (b₁ b' : Workbench) : Prop where
  scored : evaluate program dataset metric b = .ok r b₁
  valid : Reward.isValid r = true
  called : Called calls b b₁
  ran : runEpoch config run epoch r b₁ = .ok ⟨epoch, r, b.store.keys.map fun k => ⟨k, outcome k⟩⟩ b'
  passes : ∀ k v, b₁.store.get? k = some v → TrainingPass b.optimizer model r v (exchange k) (outcome k)
  asked : Work.Asked model (b.store.keys.filterMap exchange) b₁ b'

/-- The variable `v'` is `v` after an epoch of program training with reward `r`, in which the
program recorded `recorded` under its key and the pass asked the optimizer's model `exchange`:
its predictions given the reward if they had none, then the recorded ones with the reward; its
instructions those the model answered, if it answered a list of them. -/
structure Rescored (r : Float) (recorded : List Prediction) (exchange : Option Exchange)
    (v v' : Variable) : Prop where
  predictions : ∃ held, Broadcast r v.predictions held ∧
    v'.predictions = held ++ recorded.map fun p => { p with reward := some r }
  instructions : v'.instructions = instructionsAfter exchange v.instructions

/-- After the program's calls every stored variable is still built, with comparable rewards:
the predictions the calls appended have none. -/
theorem ProgramReady.called_ready {program : Node} {model : Nat} {calls : List GeneratorCall}
    {b b₁ : Workbench} (ready : ProgramReady program model b) (called : Called calls b b₁) :
    ∀ k v₁, b₁.store.get? k = some v₁ → v₁.phase ≠ .unbuilt ∧ v₁.RewardsComparable := by
  intro k v₁ found₁
  obtain ⟨v, found, appended⟩ := called.recorded.before_of_get? found₁
  have comparable := ready.comparable k v found
  refine ⟨appended.phase ▸ ready.built k v found, fun c member => ?_, fun p member => ?_⟩
  · rw [appended.candidates] at member
    exact comparable.1 c member
  · rw [appended.predictions] at member
    rcases List.mem_append.mp member with held | new
    · exact comparable.2 p held
    · obtain ⟨c, -, recorded⟩ := List.mem_filterMap.mp new
      simp [Reward.isComparable, GeneratorCall.reward_recorded recorded]

/-- Seen from before the program's calls, the calls appending their records and then the epoch
retraining every variable rescored it. -/
theorem rescored_of_retrained {config : TrainerConfig} {model : Nat} {r : Float}
    {calls : List GeneratorCall} {exchange : String → Option Exchange} {exchanges : List Exchange}
    {b b₁ b' : Workbench} (called : Called calls b b₁)
    (passed : b₁.Changed model b₁.store.keys
      (fun v v' => EpochRetrained config r (exchange v.key) v v') exchanges b') :
    b.store.Changed b.store.keys
      (fun v v' => Rescored r (calls.filterMap (GeneratorCall.recorded v.key)) (exchange v.key) v v')
      b'.store := by
  have later := passed.store
  rw [called.keys_eq] at later
  refine (called.recorded.trans later).mono fun v v' related => ?_
  obtain ⟨v₁, appended, retrained⟩ := related
  rw [appended.key] at retrained
  obtain ⟨broadcast, -⟩ := retrained.passed
  rw [appended.predictions] at broadcast
  obtain ⟨held, recordedPart⟩ := broadcast.split
  refine ⟨⟨_, held, ?_⟩, by rw [retrained.instructions, appended.instructions]⟩
  rw [← recordedPart.eq_map_of_unscored fun p member => ?_, List.take_append_drop]
  obtain ⟨c, -, recorded⟩ := List.mem_filterMap.mp member
  exact GeneratorCall.reward_recorded recorded

/-- One epoch of program training from a ready workbench: the program's score is a valid reward,
the epoch runs as `ProgramEpoch` says, every variable is rescored with the reward, the
predictions the program recorded under its key and the answer its pass got, and the workbench is
ready for the next epoch.  A key that is not stored is asked about by no pass. -/
theorem programEpoch_rescores (config : TrainerConfig) (run : String) (epoch : Nat)
    {program : Node} {dataset : List Example} (metric : Metric) {model : Nat} {b : Workbench}
    (nonempty : dataset ≠ []) (ready : ProgramReady program model b) :
    ∃ r calls exchange outcome b₁ b',
      ProgramEpoch config run model program dataset metric epoch b r calls exchange outcome b₁ b' ∧
      (∀ k, k ∉ b.store.keys → exchange k = none) ∧
      b.store.Changed b.store.keys
        (fun v v' => Rescored r (calls.filterMap (GeneratorCall.recorded v.key)) (exchange v.key) v v')
        b'.store ∧
      ProgramReady program model b' := by
  obtain ⟨r, b₁, calls, scored, valid, called⟩ :=
    evaluate_called program metric nonempty ready.prepared
  have program₁ : b₁.optimizer.program = some (b₁.optimizer.programFor model) := by
    rw [called.optimizer]
    exact ready.program
  have keys₁ := called.keys_eq
  have calledReady := ready.called_ready called
  obtain ⟨exchange, outcome, b', ran, trained, passed, unasked⟩ :=
    runEpoch_retrains config run epoch valid program₁ (called.locked_eq.trans ready.prepared.unlocked)
      (keys₁ ▸ ready.nodup) fun k member => by
        obtain ⟨v₁, found₁⟩ := VariableStore.get?_of_mem_keys member
        exact ⟨v₁, found₁, (calledReady k v₁ found₁).1, fun _ => (calledReady k v₁ found₁).2⟩
  have whole := rescored_of_retrained called passed
  rw [keys₁] at ran trained unasked
  refine ⟨r, calls, exchange, outcome, b₁, b',
    ⟨scored, valid, called, ran, fun k v found => ?_, keys₁ ▸ passed.asked⟩, unasked, whole,
    ⟨⟨?_, fun k member => ?_⟩, whole.keys_eq ▸ ready.nodup, fun k v' found' => ?_,
      fun k v' found' => ?_, ?_⟩⟩
  · rw [← called.optimizer]
    exact trained k (keys₁ ▸ VariableStore.mem_keys_of_get? found) v found
  · rw [whole.locked_eq]
    exact ready.prepared.unlocked
  · rw [whole.keys_eq]
    exact ready.prepared.bound k member
  · obtain ⟨v₁, -, retrained⟩ := passed.store.before_of_get? found'
    exact retrained.passed.built
  · obtain ⟨v₁, found₁, retrained⟩ := passed.store.before_of_get? found'
    exact retrained.comparable (calledReady k v₁ found₁).2
  · rw [passed.optimizer]
    exact program₁

/-! ### Epoch after epoch -/

/-- After a change of every stored key that puts in force the instructions each key's pass got,
and asks nothing about other keys, each key holds the instructions its pass got, if any. -/
theorem held_after {st st' : VariableStore} {R : Variable → Variable → Prop}
    {exchange : String → Option Exchange} (changed : st.Changed st.keys R st')
    (after : ∀ v v', R v v' → v'.instructions = instructionsAfter (exchange v.key) v.instructions)
    (unasked : ∀ k, k ∉ st.keys → exchange k = none) (k : String) :
    st'.held k = instructionsAfter (exchange k) (st.held k) := by
  by_cases member : k ∈ st.keys
  · obtain ⟨v, v', found, found', related⟩ := changed.stored member
    rw [VariableStore.held, VariableStore.held, found, found', Option.bind_some, Option.bind_some,
      after v v' related, VariableStore.key_of_get? found]
  · rw [VariableStore.held, VariableStore.held, changed.others k member, unasked k member,
      instructionsAfter_none]

/-- The first `n` epochs of program training from the built workbench `b₀`, in the model's own
loop: epoch `e` went from `station e` to `station (e + 1)` as `ProgramEpoch` says, with the reward
`rewards e`, the calls `calls e`, the exchanges `exchange e` and the outcomes `outcome e`; its
calls followed the instructions in force at epoch `e`; and the workbench is ready for the next
epoch, each key holding the instructions in force then and the predictions attributed so far. -/
structure ProgramRun (config : TrainerConfig) (run : String) (model : Nat) (program : Node)
    (dataset : List Example) (metric : Metric) (b₀ : Workbench) (n : Nat) (rewards : Nat → Float)
    (calls : Nat → List GeneratorCall) (exchange : Nat → String → Option Exchange)
    (outcome : Nat → String → VariableOutcome) (station : Nat → Workbench) : Prop where
  start : station 0 = b₀
  ran : ((List.range n).mapM (fun epoch => do
      let r ← evaluate program dataset metric
      runEpoch config run epoch r) : Work TrainerError (List EpochReport)) b₀ =
    .ok ((List.range n).map fun e => ⟨e, rewards e, b₀.store.keys.map fun k => ⟨k, outcome e k⟩⟩)
      (station n)
  epochs : ∀ e < n, ∃ b₁, ProgramEpoch config run model program dataset metric e (station e)
    (rewards e) (calls e) (exchange e) (outcome e) b₁ (station (e + 1))
  following : ∀ e < n, ∀ c ∈ calls e,
    c.instructions = c.generator.following (instructionsAt b₀.store exchange c.generator.name e)
  ready : ProgramReady program model (station n)
  held : ∀ k, (station n).store.held k = instructionsAt b₀.store exchange k n
  predictions : b₀.store.Changed b₀.store.keys
    (fun v v' => Attributed rewards (fun e => (calls e).filterMap (GeneratorCall.recorded v.key))
      v.predictions n v'.predictions)
    (station n).store

section ProgramRun

variable {config : TrainerConfig} {run : String} {model : Nat} {program : Node}
  {dataset : List Example} {metric : Metric} {b₀ : Workbench}

/-- No epoch has run yet. -/
theorem programRun_zero (ready : ProgramReady program model b₀) :
    ProgramRun config run model program dataset metric b₀ 0 (fun _ => 0.0) (fun _ => [])
      (fun _ _ => none) (fun _ _ => .noop) (fun _ => b₀) where
  start := rfl
  ran := rfl
  epochs _ none := absurd none (Nat.not_lt_zero _)
  following _ none := absurd none (Nat.not_lt_zero _)
  ready := ready
  held _ := rfl
  predictions := VariableStore.Changed.refl (fun _ => attributed_zero _ _ _) b₀.store

/-- One more epoch extends a run: the families are those of the run with the new epoch's data
put at `n`, and its end at `n + 1`. -/
theorem ProgramRun.succ {n : Nat} {rewards : Nat → Float} {calls : Nat → List GeneratorCall}
    {exchange : Nat → String → Option Exchange} {outcome : Nat → String → VariableOutcome}
    {station : Nat → Workbench} {r : Float} {cs : List GeneratorCall}
    {x : String → Option Exchange} {o : String → VariableOutcome} {b₁ b' : Workbench}
    (prior : ProgramRun config run model program dataset metric b₀ n rewards calls exchange outcome
      station)
    (epoch : ProgramEpoch config run model program dataset metric n (station n) r cs x o b₁ b')
    (unasked : ∀ k, k ∉ (station n).store.keys → x k = none)
    (rescored : (station n).store.Changed (station n).store.keys
      (fun v v' => Rescored r (cs.filterMap (GeneratorCall.recorded v.key)) (x v.key) v v')
      b'.store)
    (ready : ProgramReady program model b') :
    ProgramRun config run model program dataset metric b₀ (n + 1) (Function.update rewards n r)
      (Function.update calls n cs) (Function.update exchange n x) (Function.update outcome n o)
      (Function.update station (n + 1) b') := by
  have keys : (station n).store.keys = b₀.store.keys := prior.predictions.keys_eq
  -- the exchanges before epoch `n` are the run's, so are the instructions in force up to it
  have inForce : ∀ k, ∀ e ≤ n, instructionsAt b₀.store (Function.update exchange n x) k e =
      instructionsAt b₀.store exchange k e := fun k e below =>
    instructionsAt_congr (fun _ => rfl) fun e' earlier => by
      rw [Function.update_of_ne (by omega)]
  refine ⟨?_, ?_, fun e earlier => ?_, fun e earlier c member => ?_, ?_, fun k => ?_, ?_⟩
  · rw [Function.update_of_ne (Nat.succ_ne_zero n).symm]
    exact prior.start
  · have reports : ((List.range n).map fun e => (⟨e, Function.update rewards n r e,
        b₀.store.keys.map fun k => ⟨k, Function.update outcome n o e k⟩⟩ : EpochReport)) =
        (List.range n).map fun e => ⟨e, rewards e, b₀.store.keys.map fun k => ⟨k, outcome e k⟩⟩ :=
      List.map_congr_left fun e member => by
        have other := Nat.ne_of_lt (List.mem_range.mp member)
        rw [Function.update_of_ne other, Function.update_of_ne other]
    rw [List.range_succ, List.mapM_append, List.map_append, reports, Work.bind_run, prior.ran]
    simp only [List.mapM_cons, List.mapM_nil, Work.bind_run, epoch.scored, epoch.ran, keys,
      Work.pure_run, Function.update_self, List.map_cons, List.map_nil]
  · rcases Nat.lt_succ_iff_lt_or_eq.mp earlier with before | rfl
    · obtain ⟨b₂, earlierEpoch⟩ := prior.epochs e before
      have other := Nat.ne_of_lt before
      rw [Function.update_of_ne other, Function.update_of_ne other, Function.update_of_ne other,
        Function.update_of_ne other, Function.update_of_ne (by omega),
        Function.update_of_ne (by omega)]
      exact ⟨b₂, earlierEpoch⟩
    · rw [Function.update_self, Function.update_self, Function.update_self, Function.update_self,
        Function.update_self, Function.update_of_ne (Nat.succ_ne_self e).symm]
      exact ⟨b₁, epoch⟩
  · rw [inForce _ e (Nat.le_of_lt_succ earlier)]
    rcases Nat.lt_succ_iff_lt_or_eq.mp earlier with before | rfl
    · rw [Function.update_of_ne (Nat.ne_of_lt before)] at member
      exact prior.following e before c member
    · rw [Function.update_self] at member
      rw [← prior.held]
      exact epoch.called.following c member
  · rw [Function.update_self]
    exact ready
  · rw [Function.update_self, instructionsAt, Function.update_self, inForce k n le_rfl,
      ← prior.held]
    exact held_after rescored (fun _ _ rescored => rescored.instructions) unasked k
  · rw [keys] at rescored
    rw [Function.update_self]
    refine (prior.predictions.keyed.trans rescored).mono fun v v' related => ?_
    obtain ⟨v₁, ⟨attributed, key₁⟩, stamped⟩ := related
    rw [key₁] at stamped
    refine attributed.extend (fun e before => ?_)
      (by simpa only [Function.update_self] using stamped.predictions)
    rw [Function.update_of_ne (Nat.ne_of_lt before), Function.update_of_ne (Nat.ne_of_lt before)]
    exact ⟨rfl, rfl⟩

/-- From a ready workbench, every number of epochs of program training runs, as `ProgramRun`
says. -/
theorem programRun_exists (config : TrainerConfig) (run : String) (metric : Metric)
    (nonempty : dataset ≠ []) (ready : ProgramReady program model b₀) :
    ∀ n, ∃ rewards calls exchange outcome station,
      ProgramRun config run model program dataset metric b₀ n rewards calls exchange outcome station
  | 0 => ⟨_, _, _, _, _, programRun_zero ready⟩
  | n + 1 => by
    obtain ⟨rewards, calls, exchange, outcome, station, prior⟩ :=
      programRun_exists config run metric nonempty ready n
    obtain ⟨r, cs, x, o, b₁, b', epoch, unasked, rescored, next⟩ :=
      programEpoch_rescores config run n metric nonempty prior.ready
    exact ⟨_, _, _, _, _, prior.succ epoch unasked rescored next⟩

end ProgramRun

/-! ### A whole run of program training -/

/-- What a run of `epochs` epochs of program training did, from the workbench `s` to `s'` with
the history `h`: it built, reaching `station 0`, then ran epoch `e` from `station e` to
`station (e + 1)` as `ProgramEpoch` says, with the reward `rewards e`, the calls `calls e`, the
exchanges `exchange e` and the outcomes `outcome e`, each reported in order in the history; each
epoch's calls followed the instructions in force at its start, and the run ended with each key
holding the instructions in force after the last epoch and with its predictions attributed. -/
structure ProgramTrained (config : TrainerConfig) (run : String) (model : Nat) (program : Node)
    (dataset : List Example) (metric : Metric) (epochs : Nat) (rewards : Nat → Float)
    (calls : Nat → List GeneratorCall) (exchange : Nat → String → Option Exchange)
    (outcome : Nat → String → VariableOutcome) (station : Nat → Workbench) (s : Workbench)
    (h : History) (s' : Workbench) : Prop where
  built : build s = .ok () (station 0)
  history : h.epochs =
    (List.range epochs).map fun e => ⟨e, rewards e, s.store.keys.map fun k => ⟨k, outcome e k⟩⟩
  last : station epochs = s'
  epoch : ∀ e < epochs, ∃ b₁, ProgramEpoch config run model program dataset metric e (station e)
    (rewards e) (calls e) (exchange e) (outcome e) b₁ (station (e + 1))
  following : ∀ e < epochs, ∀ c ∈ calls e,
    c.instructions = c.generator.following (instructionsAt s.store exchange c.generator.name e)
  held : ∀ k, s'.store.held k = instructionsAt s.store exchange k epochs
  predictions : s.store.Changed s.store.keys
    (fun v v' => Attributed rewards (fun e => (calls e).filterMap (GeneratorCall.recorded v.key))
      v.predictions epochs v'.predictions)
    s'.store

/-- The build leaves a store ready for program training: it keeps every variable's predictions,
candidates and instructions, builds each, and builds the generation program from the optimizer's
language model. -/
theorem ProgramReady.of_built {program : Node} {model : Nat} {s b₀ : Workbench}
    (nodup : s.store.keys.Nodup) (unlocked : s.store.locked = [])
    (bound : ∀ k ∈ program.trainable, k ∈ s.store.keys)
    (comparable : ∀ k v, s.store.get? k = some v → v.RewardsComparable)
    (builtStore : s.store.Changed s.store.keys Optimizer.Built b₀.store)
    (builtOptimizer : b₀.optimizer = { s.optimizer with program := some (s.optimizer.programFor model) }) :
    ProgramReady program model b₀ where
  prepared := ⟨builtStore.locked_eq.trans unlocked, fun k member => builtStore.keys_eq ▸ bound k member⟩
  nodup := builtStore.keys_eq ▸ nodup
  built k v₀ found₀ := by
    obtain ⟨v, -, built⟩ := builtStore.before_of_get? found₀
    exact built.2.2.2
  comparable k v₀ found₀ := by
    obtain ⟨v, found, predictions, candidates, -⟩ := builtStore.before_of_get? found₀
    unfold Variable.RewardsComparable
    rw [predictions, candidates]
    exact comparable k v found
  program := by
    rw [builtOptimizer]
    rfl

/-- A run of program training of at least one epoch on a non-empty dataset, on a store whose
keys are distinct and unlocked, whose rewards are comparable and which holds the variable of
every generator bound in the program, with an optimizer whose program is unbuilt or built from
its language model, ends, and goes as `ProgramTrained` says. -/
theorem fitProgram_attributes (config : TrainerConfig) (run : String) (program : Node)
    (metric : Metric) {dataset : List Example} {epochs model : Nat} {s : Workbench}
    (positive : 0 < epochs) (nonempty : dataset ≠ [])
    (nodup : s.store.keys.Nodup) (unlocked : s.store.locked = [])
    (bound : ∀ k ∈ program.trainable, k ∈ s.store.keys)
    (modelSet : s.optimizer.model = some model)
    (programBuilt : ∀ p, s.optimizer.program = some p → p = s.optimizer.programFor model)
    (comparable : ∀ k v, s.store.get? k = some v → v.RewardsComparable) :
    ∃ rewards calls exchange outcome station h s',
      fitProgram config run program dataset epochs metric s = .ok h s' ∧
      ProgramTrained config run model program dataset metric epochs rewards calls exchange outcome
        station s h s' := by
  obtain ⟨b₀, built, builtStore, builtOptimizer, -⟩ :=
    Optimizer.buildStored_builds nodup unlocked modelSet programBuilt
  obtain ⟨rewards, calls, exchange, outcome, station, trained⟩ := programRun_exists config run
    metric nonempty (ProgramReady.of_built nodup unlocked bound comparable builtStore builtOptimizer)
    epochs
  have keys₀ : b₀.store.keys = s.store.keys := builtStore.keys_eq
  have heldBuilt : ∀ k, b₀.store.held k = s.store.held k :=
    builtStore.held_eq fun _ _ built => built.2.2.1
  have inForce : ∀ k e, instructionsAt b₀.store exchange k e = instructionsAt s.store exchange k e :=
    fun k _ => instructionsAt_congr heldBuilt fun _ _ => rfl
  have builds : build s = .ok () b₀ := by
    simp [build, built]
  have filled : dataset.isEmpty = false := List.isEmpty_eq_false_iff.mpr nonempty
  refine ⟨rewards, calls, exchange, outcome, station, _, station epochs, ?_,
    ⟨trained.start ▸ builds, rfl, rfl, trained.epochs, fun e earlier c member => ?_, fun k => ?_, ?_⟩⟩
  · have checked : (epochs == 0) = false := beq_false_of_ne (Nat.pos_iff_ne_zero.mp positive)
    simp only [fitProgram, checked, filled, Bool.false_eq_true, if_false, Work.bind_run, builds,
      trained.ran, keys₀, Work.pure_run]
  · rw [← inForce]
    exact trained.following e earlier c member
  · rw [← inForce]
    exact trained.held k
  · have attributed := trained.predictions
    rw [keys₀] at attributed
    refine (builtStore.keyed.trans attributed).mono fun v v' related => ?_
    obtain ⟨v₀, ⟨built, key₀⟩, stamped⟩ := related
    rw [key₀, built.1] at stamped
    exact stamped

/-- One epoch of training one bound generator on one example, the store holding the generator's
variable with one unscored prediction and the optimizer's language model the first of the
table. -/
theorem fitProgram_attributes_one_key :
    ((∀ k ∈ (Node.generator { name := "k", outputSchema := ⟨none, []⟩, model := 0, bound := true }).trainable,
        k ∈ VariableStore.keys
          ⟨4, [{ key := "k", predictions := [⟨"Prediction", [], [], none⟩], updatedAt := .epoch }],
            [], .epoch⟩) ∧
      ∀ k v, VariableStore.get?
        ⟨4, [{ key := "k", predictions := [⟨"Prediction", [], [], none⟩], updatedAt := .epoch }],
          [], .epoch⟩ k = some v → v.RewardsComparable) ∧
    ∃ rewards calls exchange outcome station h s',
      fitProgram {} "run" (.generator { name := "k", outputSchema := ⟨none, []⟩, model := 0, bound := true })
        [⟨⟨⟨none, []⟩, []⟩, .null⟩] 1 (.constant 1.0)
        { store :=
            ⟨4, [{ key := "k", predictions := [⟨"Prediction", [], [], none⟩], updatedAt := .epoch }],
              [], .epoch⟩,
          optimizer := { model := some 0 } } = .ok h s' ∧
      ProgramTrained {} "run" 0
        (.generator { name := "k", outputSchema := ⟨none, []⟩, model := 0, bound := true })
        [⟨⟨⟨none, []⟩, []⟩, .null⟩] (.constant 1.0) 1 rewards calls exchange outcome station
        { store :=
            ⟨4, [{ key := "k", predictions := [⟨"Prediction", [], [], none⟩], updatedAt := .epoch }],
              [], .epoch⟩,
          optimizer := { model := some 0 } } h s' := by
  have bound : ∀ k ∈ (Node.generator
      { name := "k", outputSchema := ⟨none, []⟩, model := 0, bound := true }).trainable,
      k ∈ VariableStore.keys
        ⟨4, [{ key := "k", predictions := [⟨"Prediction", [], [], none⟩], updatedAt := .epoch }],
          [], .epoch⟩ := by
    decide
  have comparable : ∀ k v, VariableStore.get?
      ⟨4, [{ key := "k", predictions := [⟨"Prediction", [], [], none⟩], updatedAt := .epoch }],
        [], .epoch⟩ k = some v → v.RewardsComparable := by
    intro k v found
    simp only [VariableStore.get?, List.find?_cons, List.find?_nil] at found
    split at found <;> cases found
    exact ⟨by simp, by simp [Reward.isComparable]⟩
  exact ⟨⟨bound, comparable⟩, fitProgram_attributes {} "run" _ (.constant 1.0) (by decide)
    (List.cons_ne_nil _ _) (by decide) rfl bound rfl (fun _ unbuilt => by cases unbuilt) comparable⟩

/-- Program training fails its promise on a stored NaN reward: the bound generator's variable
holds predictions scored `0`, NaN and `2` to `19`, then one unscored.  The model table is empty,
so the one call fails and the epoch's reward is `0`; scoring the last prediction with it, the
ranking of the predictions for generation panics, and the run aborts. -/
theorem fitProgram_aborts_on_nan_reward :
    ∃ s', fitProgram {} "run"
        (.generator { name := "k", outputSchema := ⟨none, []⟩, model := 0, bound := true })
        [⟨⟨⟨none, []⟩, []⟩, .null⟩] 1 (.constant 1.0)
        { store :=
            ⟨4, [{ key := "k", phase := .idle, updatedAt := .epoch,
                   predictions := (some 0.0 :: some (0.0 / 0.0) ::
                     (List.range 18).map (fun i => some (Float.ofNat (i + 2))) ++ [none]).map
                       (fun reward => ⟨"Prediction", [], [], reward⟩) }],
              [], .epoch⟩,
          optimizer := { model := some 0 } } =
      .error (.aborted Ranking.orderViolation) s' :=
  Work.aborted_of_abortedWith (by decide +kernel)

end Trainer

end PromptTrainer
