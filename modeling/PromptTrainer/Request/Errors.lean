import PromptTrainer.Request.Failure
import PromptTrainer.Training.Trainer
/-!
# Failures of the library's errors

Each error family of the library answers with its kind `Family::Case`; an error wrapped in
another is named by both, joined with `/`, and keeps the outer wording.
-/

namespace PromptTrainer
namespace Request

/-- A store error as a failure. -/
def StoreError.failure (e : StoreError) : Failure :=
  let case := match e with
    | .notFound _ => "NotFound"
    | .invalidArgument _ => "InvalidArgument"
    | .serialization _ => "Serialization"
  ⟨"StoreError::" ++ case, some e.message, [], false⟩

/-- A language model error as a failure. -/
def ModelError.failure (e : ModelError) : Failure :=
  ⟨"LmError::" ++ e.caseName, if e.caseName == "Template" then none else some e.message, [], false⟩

/-- A node error as a failure. -/
def NodeError.failure (e : NodeError) : Failure :=
  let outer (case : String) (inner : Failure) : Failure :=
    inner.within ("ModuleError::" ++ case) (some e.message)
  match e with
  | .inputMismatch _ => ⟨"ModuleError::InputMismatch", some e.message, [], false⟩
  | .model m => outer "Lm" (ModelError.failure m)
  | .store s => outer "Store" (StoreError.failure s)
  | .record r => outer "Value" (RecordError.failure r)
  | .schema s => outer "Schema" (SchemaError.failure s)
  | .config _ => ⟨"ModuleError::Config", some e.message, [], false⟩

/-- A build error as a failure. -/
def BuildError.failure (e : BuildError) : Failure :=
  match e with
  | .missingModel => ⟨"BuildError::MissingLanguageModel", some e.message, [], false⟩
  | .schema s => (SchemaError.failure s).within "BuildError::Schema" (some e.message)
  | .model m => (ModelError.failure m).within "BuildError::Lm" (some e.message)
  | .config _ => ⟨"BuildError::Config", some e.message, [], false⟩

/-- An optimization error as a failure. -/
def OptimizationError.failure (e : OptimizationError) : Failure :=
  let plain (case : String) : Failure := ⟨"OptimizationError::" ++ case, some e.message, [], false⟩
  match e with
  | .invalidReward _ => plain "InvalidReward"
  | .notBuilt _ => plain "NotBuilt"
  | .generation _ => plain "Generation"
  | .malformedOutput _ => plain "MalformedOutput"
  | .record r => (RecordError.failure r).within "OptimizationError::Value" (some e.message)
  | .build b => (BuildError.failure b).within "OptimizationError::Build" (some e.message)
  | .store s => (StoreError.failure s).within "OptimizationError::Store" (some e.message)

/-- A trainer error as a failure. -/
def TrainerError.failure (e : TrainerError) : Failure :=
  let plain (case : String) : Failure := ⟨"TrainerError::" ++ case, some e.message, [], false⟩
  match e with
  | .invalidEpochs => plain "InvalidEpochs"
  | .emptyDataset => plain "EmptyDataset"
  | .invalidReward _ => plain "InvalidReward"
  | .rewardSource _ => plain "RewardSource"
  | .optimization o =>
    (OptimizationError.failure o).within "TrainerError::Optimization" (some e.message)
  | .store s => (StoreError.failure s).within "TrainerError::Store" (some e.message)

end Request
end PromptTrainer
