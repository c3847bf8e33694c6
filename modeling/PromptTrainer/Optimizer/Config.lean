import PromptTrainer.Optimizer.Basic
import PromptTrainer.Generation.Model
/-!
# The optimizer from its configuration

The optimizer can be rebuilt from the configuration it reports: a language model from its
portable configuration (`language_model`; none when absent or null), then `k_best` (a
non-negative integer, raised to one), `name`, `description` and `meta_instructions`, each
applied when given.
-/

namespace PromptTrainer
namespace Optimizer

/-- Rebuilds an optimizer from its configuration, its model placed at `slot`: the optimizer
and its model, if any. -/
def ofConfig (resolve : Json → Except ModelError LanguageModel) (slot : Nat) (config : Json) :
    Except BuildError (Optimizer × Option LanguageModel) := do
  let (o, model) : Optimizer × Option LanguageModel ← match config.get? "language_model" with
    | none | some .null => pure ({}, none)
    | some c => do
      let m ← (resolve c).mapError BuildError.model
      pure ({ model := some slot }, some m)
  let o ← match config.get? "k_best" with
    | none => pure o
    | some (.number n) =>
      match n.toUnsigned? with
      | some k => pure (o.withKBest k)
      | none => throw (.config "k_best must be an integer")
    | some _ => throw (.config "k_best must be an integer")
  let o := match config.get? "name" with
    | some (.string s) => { o with name := s }
    | _ => o
  let o := match config.get? "description" with
    | some (.string s) => { o with description := s }
    | _ => o
  let o ← match config.get? "meta_instructions" with
    | none => pure o
    | some v =>
      match Decode.list Decode.string v with
      | .ok lines => pure { o with metaInstructions := lines }
      | .error m => throw (.config ("meta_instructions: " ++ m))
  pure (o, model)

end Optimizer
end PromptTrainer
