import PromptTrainer.Variable.Codec
/-!
# Generation requests

A generation request is what a language model is asked: an input record, the schema its
answer must satisfy, the instructions to follow, example predictions, and optionally a
prompt template and a fixed system prompt.  A model answers with a record of the output
schema or fails with a `ModelError`.
-/

namespace PromptTrainer

/-- What a language model is asked. -/
structure GenerationRequest where
  input : Record
  outputSchema : Schema
  instructions : List String := []
  examples : List Prediction := []
  promptTemplate : Option String := none
  systemPrompt : Option String := none

/-- Why a language model gave no answer. -/
inductive ModelError where
  /-- The transport failed. -/
  | http (message : String)
  /-- The response could not be used. -/
  | response (message : String)
  /-- A body could not be written or read. -/
  | serialization (message : String)
  /-- A prompt template could not be rendered. -/
  | template (message : String)
  /-- The answer does not satisfy the output schema. -/
  | malformed (message : String)
  /-- The model's configuration is not supported. -/
  | config (message : String)
deriving BEq, Repr

namespace ModelError

/-- The wording of a model error. -/
def message : ModelError → String
  | .http m => "http error: " ++ m
  | .response m => "response error: " ++ m
  | .serialization m => "serialization error: " ++ m
  | .template m => "template error: " ++ m
  | .malformed m => "output does not conform to schema: " ++ m
  | .config m => "unsupported language model config: " ++ m

/-- The case name of a model error. -/
def caseName : ModelError → String
  | .http _ => "Http"
  | .response _ => "Response"
  | .serialization _ => "Serialization"
  | .template _ => "Template"
  | .malformed _ => "Malformed"
  | .config _ => "Config"

end ModelError

end PromptTrainer
