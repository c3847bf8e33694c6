import PromptTrainer.Training.Trainer
import PromptTrainer.Config.Read
import PromptTrainer.Generation.Http
/-!
# Training applications

A training application is assembled from a configuration and the optimizer's language
model: a variable store of the configured capacity (restored from the snapshot file when
one exists at the configured path), the optimizer with the configured `k_best`, name and
meta-instructions, and the trainer with the configured timeout and finalization.

Without a given model, the optimizer's model is built from the configuration's providers:
the profile the optimizer names, else the default profile.

The application runs the configured number of epochs, and persists the store: the
snapshot, indented, is written to the configured path after its parent directories are
made.
-/

namespace PromptTrainer

/-- Why a training application failed. -/
inductive BootstrapError where
  | config (error : ConfigError)
  | lmBuild (error : LmBuildError)
  /-- No model profile is configured for the optimizer. -/
  | missingModelProfile
  | store (error : StoreError)
  | training (error : TrainerError)
  /-- A snapshot file could not be read or written. -/
  | io (path : String) (error : IoError)
  /-- A snapshot file is not JSON. -/
  | snapshot (message : String)

namespace BootstrapError

/-- The wording of a bootstrap error. -/
def message : BootstrapError → String
  | .config e => "config error: " ++ e.message
  | .lmBuild e => "language model build error: " ++ e.message
  | .missingModelProfile => "no model profile configured for the optimizer"
  | .store e => "store error: " ++ e.message
  | .training e => "training error: " ++ e.message
  | .io path e => "snapshot io error at '" ++ path ++ "': " ++ e.message
  | .snapshot m => "snapshot parse error: " ++ m

end BootstrapError

/-- A training application: the workbench it trains on, its trainer settings, its epoch
count and where its snapshot lives. -/
structure TrainingApp where
  bench : Workbench
  trainer : TrainerConfig
  epochs : Nat
  snapshotPath : Option String

namespace TrainingApp

/-- The store restored from the snapshot file at a path. -/
def restoreFrom (files : FileTree) (path : String) (store : VariableStore) :
    Except BootstrapError VariableStore := do
  let body ← (files.read path).mapError (BootstrapError.io path)
  let document ← (Json.parse body).mapError (fun e => BootstrapError.snapshot e.message)
  let (_, store) ← (store.restore document).mapError BootstrapError.store
  pure store

/-- Assembles an application from a configuration, the optimizer's model, the hooks and
the files. -/
def assemble (c : Configuration) (model : LanguageModel) (hooks : List Hook) (files : FileTree) :
    Except BootstrapError TrainingApp := do
  let empty := VariableStore.empty c.variableStore.maxVariables Timestamp.epoch
  let store ← match c.variableStore.snapshotPath with
    | some path => if files.exists? path then restoreFrom files path empty else pure empty
    | none => pure empty
  let o : Optimizer := ({ model := some 0 } : Optimizer).withKBest c.optimizer.kBest
  let o := match c.optimizer.name with
    | some name => { o with name := name }
    | none => o
  let o := match c.optimizer.metaInstructions with
    | some lines => { o with metaInstructions := lines }
    | none => o
  pure { bench := { store := store, models := [model], optimizer := o, hooks := hooks,
                    files := files },
         trainer := { timeoutSecs := c.training.generationTimeoutSecs,
                      finalizeOnEpochEnd := c.training.finalizeOnEpochEnd },
         epochs := c.training.epochs,
         snapshotPath := c.variableStore.snapshotPath }

/-- The application set in its world: a chat server and an environment. -/
def within (app : TrainingApp) (server : Option ChatServer) (env : Environment) : TrainingApp :=
  { app with bench := { app.bench with server := server, environment := env } }

/-- The optimizer's model built from the configuration's providers. -/
def providerModel (env : Environment) (c : Configuration) : Except BootstrapError LanguageModel :=
  match c.optimizerModel with
  | none => .error .missingModelProfile
  | some profile =>
    ((Resolver.mk c.providers env).buildProfile profile.name).map .http
      |>.mapError BootstrapError.lmBuild

/-- Writes the store's snapshot to the application's path, making its parent directories;
answers whether there was a path. -/
def persistWork (snapshotPath : Option String) : Work BootstrapError Bool := do
  match snapshotPath with
  | none => pure false
  | some path =>
    let bench ← Work.bench
    let body := Json.render bench.store.snapshot
    let files ← match parentPath path with
      | some parent =>
        if parent.isEmpty then pure bench.files
        else Work.ofExcept ((bench.files.makeAll parent).mapError (BootstrapError.io parent))
      | none => pure bench.files
    let files ← Work.ofExcept ((files.write path body).mapError (BootstrapError.io path))
    fun s => .ok true { s with files := files }

/-- Runs the application's epochs with the rewards of a source. -/
def fitWork (trainer : TrainerConfig) (epochs : Nat) (run : String) (source : RewardSource) :
    Work BootstrapError History :=
  (Trainer.fit trainer run epochs source).mapError BootstrapError.training

end TrainingApp

end PromptTrainer
