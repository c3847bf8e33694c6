import PromptTrainer.Request.Errors
import PromptTrainer.Request.Variables
import PromptTrainer.Pipeline.Run
import PromptTrainer.Config.Codec
/-!
# Scripted models and pipeline nodes from requests

A scripted model is given as `{"model"?, "responses"?, "fallback"?}`: each response is
`{"ok": answer}` or `{"error": {"kind", "message"?}}`.  A node is given by its `kind`:

* `generator`: `name`, `output_schema`, and the generator options;
* `cot`: `name`, `target_schema`, `k`, and the generator options for its generator;
* `program`: `name`, `input_schema`, `description`?, `modules`? (none by default).

The generator options are `lm`?, `http_lm`?, `instructions`?, `examples`?,
`prompt_template`?, `system_prompt`?, `return_inputs`? and `bind`? (true by default).  A
node's model is added to the workbench's model table when the node is made: an HTTP model
when `http_lm` gives a providers table and a portable model configuration, else a scripted
one named after the node unless the spec names it.  A bound generator registers its
variable, with its instructions if it has some.
-/

namespace PromptTrainer
namespace Request

/-- A model error kind and text as an error. -/
def readModelError (spec : Json) : Outcome ModelError := do
  let kind ← stringField spec "kind"
  let message := ((spec.get? "message").bind Json.getString?).getD ""
  match kind with
  | "http" => .ok (.http message)
  | "response" => .ok (.response message)
  | "serialization" => .ok (.serialization message)
  | "template" => .ok (.template message)
  | "malformed" => .ok (.malformed message)
  | "config" => .ok (.config message)
  | other => .error (.malformed ("unknown lm error kind '" ++ other ++ "'"))

/-- One queued answer of a scripted model. -/
def readResponse (spec : Json) : Outcome (Except ModelError Json) :=
  match spec.get? "ok", spec.get? "error" with
  | some v, _ => .ok (.ok v)
  | none, some e => (readModelError e).map .error
  | none, none => .error (.malformed "response needs 'ok' or 'error'")

/-- A scripted model, named `fallbackName` unless the spec names it. -/
def readModel (spec : Json) (fallbackName : String) : Outcome ScriptedModel := do
  let name := ((spec.get? "model").bind Json.getString?).getD fallbackName
  let responses ← match spec.get? "responses" with
    | none | some .null => .ok []
    | some (.array items) => items.mapM readResponse
    | some _ => .error (.malformed "field 'responses' must be a list")
  .ok { name := name, queue := responses, fallback := spec.get? "fallback" }

/-- Adds a model to the table; answers its position. -/
def addModel {ε : Type} (m : LanguageModel) : Work ε Nat := fun s =>
  .ok s.models.length { s with models := s.models ++ [m] }

/-- A request outcome as an action. -/
def outcome {α : Type} (o : Outcome α) : Work Failure α := Work.ofExcept o

/-- The HTTP model of a spec `{"providers", "lm"}`: the portable configuration `lm` resolved
against the providers table in the workbench's environment. -/
def httpModel (spec : Json) : Work Failure LanguageModel := do
  let providers ← outcome (liftDecode (Decode.providers ((spec.get? "providers").getD .null)))
  let resolver : Resolver := ⟨providers, (← Work.bench).environment⟩
  match resolver.resolve ((spec.get? "lm").getD .null) with
  | .ok m => pure (.http m)
  | .error e => Work.fail (ModelError.failure e)

/-- Adds the model a node spec gives: its HTTP model, else its scripted one or an empty one,
named after the node by default. -/
def nodeModel (spec : Json) (name : String) : Work Failure Nat := do
  match spec.get? "http_lm" with
  | some (.object members) => addModel (← httpModel (.object members))
  | _ =>
    let lmSpec := match spec.get? "lm" with
      | none | some .null => Json.object []
      | some v => v
    addModel (.scripted (← outcome (readModel lmSpec name)))

/-- Applies the generator options of a spec, and binds the generator if asked and
`binding` allows it. -/
def configureGenerator (binding : Bool) (spec : Json) (g : Generator) :
    Work Failure Generator := do
  let instructions ← match spec.get? "instructions" with
    | none | some .null => pure g.instructions
    | some v => outcome (liftDecode (Decode.list Decode.string v))
  let examples ← match spec.get? "examples" with
    | none | some .null => pure g.examples
    | some v => outcome (liftDecode (Decode.list Decode.prediction v))
  let promptTemplate ← outcome (optString spec "prompt_template")
  let systemPrompt ← outcome (optString spec "system_prompt")
  let returnInputs ← outcome (boolField spec "return_inputs" false)
  let bind := binding && (← outcome (boolField spec "bind" true))
  let g := { g with instructions := instructions, examples := examples,
                    promptTemplate := promptTemplate, systemPrompt := systemPrompt,
                    returnInputs := returnInputs, bound := bind }
  if bind then
    let initial := if instructions.isEmpty then none else some (Instructions.ofLines instructions)
    let store ← Work.store
    Work.setStore (store.register g.name initial).1
  return g

/-- Makes a node from its spec; `fuel` bounds the nesting of programs, and generators are
bound only if `binding` allows it. -/
def buildNode (binding : Bool) : Nat → Json → Work Failure Node
  | 0, _ => Work.fail (.malformed "module nested too deeply")
  | fuel + 1, spec => do
    let kind ← outcome (stringField spec "kind")
    let name ← outcome (stringField spec "name")
    if kind == "generator" then
      let schema ← outcome (schemaSpec (← outcome (field spec "output_schema")))
      let model ← nodeModel spec name
      let g ← configureGenerator binding spec
        { name := name, outputSchema := schema, model := model }
      return .generator g
    else if kind == "cot" then
      let target ← outcome (schemaSpec (← outcome (field spec "target_schema")))
      let k ← outcome (natField spec "k")
      let model ← nodeModel spec name
      match ChainOfThought.make name target model k with
      | .error e => Work.fail (NodeError.failure (.schema e))
      | .ok c =>
        let g ← configureGenerator binding spec c.generator
        return .chain { c with generator := g }
    else if kind == "program" then
      let input ← outcome (schemaSpec (← outcome (field spec "input_schema")))
      let description := ((spec.get? "description").bind Json.getString?).getD ""
      let specs ← match spec.get? "modules" with
        | none | some .null => pure []
        | some _ => outcome (listField spec "modules")
      let modules ← specs.mapM (buildNode binding fuel)
      return .program name description input modules
    else Work.fail (.malformed ("unknown module kind '" ++ kind ++ "'"))

/-- Makes a node from its spec; `binding` allows generators to bind. -/
def node (binding : Bool) (spec : Json) : Work Failure Node :=
  buildNode binding (spec.depth + 1) spec

/-- The configuration of the model at a position of the table. -/
def modelConfigOf (bench : Workbench) (i : Nat) : Json :=
  match bench.models[i]? with
  | some m => m.config
  | none => .null

end Request
end PromptTrainer
