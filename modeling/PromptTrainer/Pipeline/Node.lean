import PromptTrainer.Generation.Scripted
import PromptTrainer.Store.Basic
/-!
# Pipeline nodes

A pipeline node turns an input record into an output record:

* a generator asks a language model once, with trainable instructions; bound to a store it
  owns the variable under its name, reads its instructions from there, and records a
  prediction on each training call;
* a chain of thought is a generator whose output schema puts `k` free-text thinking fields
  (`thinking`, `thinking_1`, ...) before a target schema;
* a program checks that its input carries its declared input schema and runs its nodes in
  order.

Nodes name their language model by its position in a table of models, so that a model's
queue and request log live in one place however many nodes share it.  This module holds the
nodes' shapes, output schemas, variables and configurations; running them needs the store
and the models (`Pipeline.Run`).
-/

namespace PromptTrainer

/-- A node that asks a language model once. -/
structure Generator where
  name : String
  outputSchema : Schema
  /-- The position of the language model in the model table. -/
  model : Nat
  /-- Instructions used until the bound variable holds some. -/
  instructions : List String := []
  examples : List Prediction := []
  promptTemplate : Option String := none
  systemPrompt : Option String := none
  /-- Whether the output is joined to the input. -/
  returnInputs : Bool := false
  /-- Whether the generator owns a variable in the store. -/
  bound : Bool := false

/-- A generator whose answer is preceded by thinking fields. -/
structure ChainOfThought where
  name : String
  /-- The number of thinking fields, at least one. -/
  k : Nat
  targetSchema : Schema
  generator : Generator

/-- A pipeline node. -/
inductive Node where
  | generator (g : Generator)
  | chain (c : ChainOfThought)
  /-- A named sequence of nodes with a declared input schema. -/
  | program (name description : String) (inputSchema : Schema) (modules : List Node)

/-- Why a node failed. -/
inductive NodeError where
  /-- The input does not carry the program's input schema. -/
  | inputMismatch (program : String)
  | model (error : ModelError)
  | store (error : StoreError)
  | record (error : RecordError)
  | schema (error : SchemaError)
  /-- A configuration could not be read. -/
  | config (message : String)

/-- The wording of a node error. -/
def NodeError.message : NodeError → String
  | .inputMismatch name => "input does not satisfy the input schema of '" ++ name ++ "'"
  | .model e => "language model error: " ++ e.message
  | .store e => "store error: " ++ e.message
  | .record e => e.message
  | .schema e => e.message
  | .config m => "invalid module config: " ++ m

/-- The description of every thinking field. -/
def thinkingDescription : String := "Your step by step thinking"

/-- The name of the thinking field at a position: `thinking`, then `thinking_1`, ... -/
def thinkingName (i : Nat) : String := if i = 0 then "thinking" else "thinking_" ++ toString i

/-- The `k` thinking fields, required strings. -/
def thinkingSchema (k : Nat) : Schema :=
  ⟨none, (List.range k).map (fun i =>
    (Field.ofRequired (thinkingName i) .string).withDescription thinkingDescription)⟩

namespace ChainOfThought

/-- A chain of thought over a target schema: at least one thinking field, and a generator
named after the chain whose output schema is the thinking fields composed with the
target. -/
def make (name : String) (target : Schema) (model : Nat) (k : Nat) :
    Except SchemaError ChainOfThought := do
  let k := max k 1
  let schema ← (thinkingSchema k).compose target
  .ok ⟨name, k, target, { name := name ++ "_generator", outputSchema := schema, model := model }⟩

end ChainOfThought

namespace Generator

/-- The variables the generator owns. -/
def trainable (g : Generator) : List String := if g.bound then [g.name] else []

/-- The configuration of a generator, given its model's. -/
def config (g : Generator) (modelConfig : Json) : Json :=
  .object [("name", .string g.name), ("output_schema", g.outputSchema.toJsonSchema),
    ("instructions", Json.ofStrings g.instructions),
    ("examples", .array (g.examples.map Prediction.toJson)),
    ("prompt_template", Json.ofStringOption g.promptTemplate),
    ("static_system_prompt", Json.ofStringOption g.systemPrompt),
    ("return_inputs", .bool g.returnInputs), ("language_model", modelConfig)]

end Generator

namespace Node

/-- The name of a node. -/
def name : Node → String
  | .generator g => g.name
  | .chain c => c.name
  | .program name .. => name

/-- The schema of a node's output: a program's is its last node's, or its input schema. -/
def outputSchema : Node → Schema
  | .generator g => g.outputSchema
  | .chain c => c.generator.outputSchema
  | .program _ _ input modules => go input modules
where
  /-- The output schema of the last node, or the given schema. -/
  go (current : Schema) : List Node → Schema
    | [] => current
    | m :: rest => go m.outputSchema rest

/-- The keys of the variables the node and its children own, in order. -/
def trainable : Node → List String
  | .generator g => g.trainable
  | .chain c => c.generator.trainable
  | .program _ _ _ modules => go modules
where
  /-- The variables of a list of nodes. -/
  go : List Node → List String
    | [] => []
    | m :: rest => m.trainable ++ go rest

/-- The configuration of a node, given how to configure a model. -/
def config (modelConfig : Nat → Json) : Node → Json
  | .generator g => g.config (modelConfig g.model)
  | .chain c =>
    .object [("name", .string c.name), ("k", Json.nat c.k),
      ("target_schema", c.targetSchema.toJsonSchema),
      ("generator", c.generator.config (modelConfig c.generator.model))]
  | .program name description input modules =>
    .object [("name", .string name), ("description", .string description),
      ("input_schema", input.toJsonSchema), ("modules", .array (go modules))]
where
  /-- The configurations of a list of nodes. -/
  go : List Node → List Json
    | [] => []
    | m :: rest => config modelConfig m :: go rest

end Node

end PromptTrainer
