import PromptTrainer.Workbench.Basic
/-!
# Running pipeline nodes

A generator reads its instructions (those of its variable when bound and set, its own
otherwise), asks its language model, records a prediction of input and output on a training
call when bound (waiting for the variable's lock), and answers the output, joined to the
input when it returns inputs.  A chain of thought runs its generator.  A program refuses an
input whose schema does not contain its declared input schema, then passes the record
through its nodes in order.
-/

namespace PromptTrainer

namespace Generator

/-- The instructions in force: the bound variable's, if it holds some, else the
generator's own. -/
def activeInstructions (g : Generator) : Work NodeError (List String) := do
  if !g.bound then return g.instructions
  match ← Work.get? g.name with
  | some v =>
    match v.instructions with
    | some i => return i.lines
    | none => return g.instructions
  | none => return g.instructions

/-- The request a generator asks for an input. -/
def request (g : Generator) (input : Record) (instructions : List String) : GenerationRequest :=
  { input := input, outputSchema := g.outputSchema, instructions := instructions,
    examples := g.examples, promptTemplate := g.promptTemplate, systemPrompt := g.systemPrompt }

/-- Runs a generator on an input. -/
def call (g : Generator) (input : Record) (training : Bool) : Work NodeError Record := do
  let instructions ← g.activeInstructions
  let output ← (Work.generate g.model (g.request input instructions)).mapError .model
  if training && g.bound then
    let recorded := Prediction.ofParts input.data output.data
    let _ ← (Work.locked g.name (fun s => s.appendPrediction g.name recorded)).mapError .store
  if g.returnInputs then
    match input.concat output with
    | .ok joined => return joined
    | .error e => Work.fail (.record e)
  else return output

end Generator

/-- Runs a node on an input; `training` makes bound generators record predictions. -/
def Node.call (training : Bool) : Node → Record → Work NodeError Record
  | .generator g, input => g.call input training
  | .chain c, input => c.generator.call input training
  | .program name _ declared modules, input =>
    if !input.schema.contains declared then Work.fail (.inputMismatch name)
    else go modules input
where
  /-- Passes a record through nodes in order. -/
  go : List Node → Record → Work NodeError Record
    | [], current => pure current
    | m :: rest, current => do go rest (← Node.call training m current)

end PromptTrainer
