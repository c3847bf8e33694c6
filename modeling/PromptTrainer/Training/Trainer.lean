import PromptTrainer.Optimizer.Pass
import PromptTrainer.Training.Report
/-!
# Training

An epoch with a batch reward runs a pass on every stored variable, all at once: each waits
for its variable's lock no longer than the generation timeout, so a variable locked from
outside is skipped as timed out, after every other pass has ended.  Then, if so configured,
every variable's epoch is ended (waiting for its lock without limit), and the hooks are told
the counts.

* `fit` checks the number of epochs, builds, and runs each epoch with the reward a reward
  source gives for it.
* `fitProgram` also needs a non-empty dataset; each epoch's reward is the mean score of the
  program on the dataset in training mode, where a failed call scores 0 and each score is
  clamped into `[0, 1]` (a score that is not finite counts 0).
-/

namespace PromptTrainer

/-- Why training stopped. -/
inductive TrainerError where
  /-- Training needs at least one epoch. -/
  | invalidEpochs
  /-- Program training needs at least one example. -/
  | emptyDataset
  /-- The batch reward is not a finite number in `[0, 1]`. -/
  | invalidReward (reward : Float)
  /-- The reward source gave no reward. -/
  | rewardSource (message : String)
  | optimization (error : OptimizationError)
  | store (error : StoreError)

/-- The wording of a trainer error. -/
def TrainerError.message : TrainerError → String
  | .invalidEpochs => "epochs must be > 0"
  | .emptyDataset => "dataset is empty"
  | .invalidReward r => "batch reward must be a finite value in [0, 1], got " ++ Decimal.plainText r
  | .rewardSource m => "reward source error: " ++ m
  | .optimization e => e.message
  | .store e => "store error: " ++ e.message

/-- How the trainer runs epochs. -/
structure TrainerConfig where
  /-- How long a pass may wait, in seconds. -/
  timeoutSecs : Nat := 60
  /-- Whether every variable's epoch is ended after the passes. -/
  finalizeOnEpochEnd : Bool := true

/-- The text of a duration of whole seconds: `60s`, or `0ns` for none. -/
def durationText (secs : Nat) : String := if secs = 0 then "0ns" else toString secs ++ "s"

/-- Where the batch reward of each epoch comes from. -/
inductive RewardSource where
  /-- The same reward every epoch. -/
  | fixed (reward : Float)
  /-- One reward per epoch; the last one repeats. -/
  | schedule (rewards : List Float)

/-- The reward of an epoch. -/
def RewardSource.reward : RewardSource → Nat → Except String Float
  | .fixed r, _ => .ok r
  | .schedule rs, epoch =>
    match rs[epoch]?, rs.getLast? with
    | some r, _ => .ok r
    | none, some r => .ok r
    | none, none => .error "reward schedule is empty"

/-- How a program output is scored against the expected data. -/
inductive Metric where
  /-- 1 when a field of the output equals that field of the expected data, else 0. -/
  | exactMatch (field : String)
  /-- The same score for every output. -/
  | constant (score : Float)

/-- The score of an output. -/
def Metric.score : Metric → Record → Json → Float
  | .exactMatch field, output, expected =>
    match output.get? field, expected.get? field with
    | some actual, some wanted => if actual.beq wanted then 1.0 else 0.0
    | _, _ => 0.0
  | .constant x, _, _ => x

/-- A training example: an input and the data expected of the output. -/
structure Example where
  input : Record
  expected : Json

/-- A score clamped into `[0, 1]`. -/
def clampScore (x : Float) : Float := if x < 0.0 then 0.0 else if x > 1.0 then 1.0 else x

namespace Trainer

/-- Tells the hooks how a variable's pass ended. -/
def announce (run : String) (epoch : Nat) (key : String) : VariableOutcome → Work TrainerError Unit
  | .optimized _ =>
    Work.notify .variableOptimized
      { run := run, epoch := epoch, key := some key, phase := "variable" }
  | .noop => pure ()
  | .skipped reason =>
    Work.notify .variableSkipped
      { run := run, epoch := epoch, key := some key, phase := "skipped", message := some reason }
  | .failed error =>
    Work.notify .variableSkipped
      { run := run, epoch := epoch, key := some key, phase := "failed", message := some error }

/-- The outcome of an ended pass. -/
def outcomeOf : Except OptimizationError OptimizeReport → VariableOutcome
  | .ok report => if report.isNoop then .noop else .optimized report.backpropagated
  | .error (.notBuilt key) => .skipped (OptimizationError.notBuilt key).message
  | .error e => .failed e.message

/-- The skip of a pass that waited longer than the timeout for its key's lock. -/
def timedOut (config : TrainerConfig) : VariableOutcome :=
  .skipped ("timed out after " ++ durationText config.timeoutSecs)

/-- The pass of an epoch on one key, told to the hooks once it ended; `none` when it still
waits for the key's lock. -/
def passKey (run : String) (epoch : Nat) (r : Float) (key : String) :
    Work TrainerError (String × Option VariableOutcome) := do
  match ← (Optimizer.optimizeStored key r).settle with
  | none => return (key, none)
  | some ending =>
    let outcome := outcomeOf ending
    announce run epoch key outcome
    return (key, some outcome)

/-- The report of a key's pass; a pass still waiting is told to the hooks as timed out. -/
def reportKey (config : TrainerConfig) (run : String) (epoch : Nat) :
    String × Option VariableOutcome → Work TrainerError VariableReport
  | (key, some o) => return ⟨key, o⟩
  | (key, none) => do
    announce run epoch key (timedOut config)
    return ⟨key, timedOut config⟩

/-- Ends the epoch of a reported key's variable; a failure is ignored. -/
def finalizeKey (report : VariableReport) : Work TrainerError Unit := do
  let _ ← (Optimizer.finalizeStored report.key).attempt
  pure ()

/-- One epoch with a batch reward. -/
def runEpoch (config : TrainerConfig) (run : String) (epoch : Nat) (r : Float) :
    Work TrainerError EpochReport := do
  if !Reward.isValid r then Work.fail (.invalidReward r)
  let opening : HookContext :=
    { run := run, epoch := epoch, phase := "epoch_begin",
      metadata := .object [("reward", Json.float r)] }
  Work.notify .epochBegin opening
  let keys := (← Work.store).keys
  let ended ← keys.mapM (passKey run epoch r)
  let reports ← ended.mapM (reportKey config run epoch)
  if config.finalizeOnEpochEnd then reports.forM finalizeKey
  let report : EpochReport := ⟨epoch, r, reports⟩
  let closing : HookContext :=
    { run := run, epoch := epoch, phase := "epoch_end",
      metadata := .object [("reward", Json.float r),
        ("optimized", Json.nat report.optimizedCount), ("noop", Json.nat report.noopCount),
        ("skipped", Json.nat report.skippedCount), ("failed", Json.nat report.failedCount)] }
  Work.notify .epochEnd closing
  return report

/-- Builds the generation program and marks every stored variable built. -/
def build : Work TrainerError Unit := Optimizer.buildStored.mapError .optimization

/-- One epoch with the reward a source gives for it. -/
def fitEpoch (config : TrainerConfig) (run : String) (source : RewardSource) (epoch : Nat) :
    Work TrainerError EpochReport := do
  let r ← match source.reward epoch with
    | .ok r => pure r
    | .error m => Work.fail (.rewardSource m)
  runEpoch config run epoch r

/-- Runs epochs with the rewards of a source. -/
def fit (config : TrainerConfig) (run : String) (epochs : Nat) (source : RewardSource) :
    Work TrainerError History := do
  if epochs == 0 then Work.fail .invalidEpochs
  build
  let reports ← (List.range epochs).mapM (fitEpoch config run source)
  return ⟨reports⟩

/-- The mean clamped score of a program on a dataset, in training mode. -/
def evaluate (program : Node) (dataset : List Example) (metric : Metric) :
    Work TrainerError Float := do
  let total ← dataset.foldlM (fun (total : Float) ex => do
    match ← (Node.call true program ex.input).attempt with
    | .ok output =>
      let score := metric.score output ex.expected
      return if score.isFinite then total + clampScore score else total
    | .error _ => return total) 0.0
  return total / dataset.length.toFloat

/-- Runs epochs whose rewards are the program's mean scores on a dataset. -/
def fitProgram (config : TrainerConfig) (run : String) (program : Node) (dataset : List Example)
    (epochs : Nat) (metric : Metric) : Work TrainerError History := do
  if epochs == 0 then Work.fail .invalidEpochs
  if dataset.isEmpty then Work.fail .emptyDataset
  build
  let reports ← (List.range epochs).mapM (fun epoch => do
    let r ← evaluate program dataset metric
    runEpoch config run epoch r)
  return ⟨reports⟩

end Trainer

end PromptTrainer
