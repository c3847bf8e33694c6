import PromptTrainer.Pipeline.Node
import PromptTrainer.Generation.Model
import PromptTrainer.Schema.JsonSchema
/-!
# Nodes from their configurations

A generator and a chain of thought can be rebuilt from the configuration they report.  The
language model is rebuilt first from its portable configuration (`language_model`), by a
resolver given by the caller; then come the name, the output schema (a JSON Schema), and
the optional instructions, examples, prompt template, system prompt and `return_inputs`
flag.  A chain of thought is its generator's configuration (`generator`), a thinking-field
count `k` and a target schema; its count is taken as given.

The model is placed at a given position of the model table, which the caller then fills.
-/

namespace PromptTrainer

namespace NodeConfig

/-- A string member of a configuration. -/
def text (config : Json) (key : String) : Except NodeError String :=
  match config.get? key with
  | some (.string s) => .ok s
  | _ => .error (.config ("missing string field '" ++ key ++ "'"))

/-- A schema member of a configuration, as a JSON Schema. -/
def schema (config : Json) (key : String) : Except NodeError Schema :=
  match config.get? key with
  | none => .error (.config ("missing schema field '" ++ key ++ "'"))
  | some document => (Schema.ofJsonSchema document).mapError NodeError.schema

/-- An optional member decoded when present; a refusal names the member. -/
def decoded {α : Type} (config : Json) (key : String) (decode : Json → Decode.Result α) :
    Except NodeError (Option α) :=
  match config.get? key with
  | none => .ok none
  | some v =>
    match decode v with
    | .ok a => .ok (some a)
    | .error m => .error (.config (key ++ ": " ++ m))

/-- A string member, if it is one. -/
def optionalText (config : Json) (key : String) : Option String :=
  match config.get? key with
  | some (.string s) => some s
  | _ => none

end NodeConfig

/-- Rebuilds a generator from its configuration, its model placed at `slot`: the generator
and its model. -/
def Generator.ofConfig (resolve : Json → Except ModelError LanguageModel) (slot : Nat)
    (config : Json) : Except NodeError (Generator × LanguageModel) := do
  let modelConfig ← match config.get? "language_model" with
    | some c => pure c
    | none => throw (.config "missing 'language_model'")
  let model ← (resolve modelConfig).mapError NodeError.model
  let name ← NodeConfig.text config "name"
  let output ← NodeConfig.schema config "output_schema"
  let instructions ← NodeConfig.decoded config "instructions" (Decode.list Decode.string)
  let examples ← NodeConfig.decoded config "examples" (Decode.list Decode.prediction)
  let returnInputs := match config.get? "return_inputs" with
    | some (.bool b) => b
    | _ => false
  pure ({ name := name, outputSchema := output, model := slot,
          instructions := instructions.getD [], examples := examples.getD [],
          promptTemplate := NodeConfig.optionalText config "prompt_template",
          systemPrompt := NodeConfig.optionalText config "static_system_prompt",
          returnInputs := returnInputs }, model)

/-- Rebuilds a chain of thought from its configuration, its generator's model placed at
`slot`: the chain and the model. -/
def ChainOfThought.ofConfig (resolve : Json → Except ModelError LanguageModel) (slot : Nat)
    (config : Json) : Except NodeError (ChainOfThought × LanguageModel) := do
  let generatorConfig ← match config.get? "generator" with
    | some c => pure c
    | none => throw (.config "missing 'generator'")
  let (generator, model) ← Generator.ofConfig resolve slot generatorConfig
  let k ← match config.get? "k" with
    | some (.number n) =>
      match n.toUnsigned? with
      | some k => pure k
      | none => throw (.config "missing integer field 'k'")
    | _ => throw (.config "missing integer field 'k'")
  let name ← NodeConfig.text config "name"
  let target ← NodeConfig.schema config "target_schema"
  pure (⟨name, k, target, generator⟩, model)

end PromptTrainer
