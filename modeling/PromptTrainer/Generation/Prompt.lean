import PromptTrainer.Generation.Request
import PromptTrainer.Schema.JsonSchema
import PromptTrainer.Template.Render
import PromptTrainer.Text.Basic
/-!
# Prompts

A generation request becomes two chat messages.

The system message is the request's system prompt (or a default one), trimmed, followed by
the output rules and one line per output field: its name, the short text of its type,
whether it is required, and its description and default when it has them.

The user message is a template (the request's or the default one) rendered against the data
`instructions` (the instruction lines), `examples` (each with `inputs` and `outputs` as
compact JSON texts), `input` (the input data as compact JSON text) and `output_schema` (the
JSON Schema of the output, indented).  The default template lists the instructions and the
examples only when there are some.

A reply of a model is read from its first `{` to its last `}`.
-/

namespace PromptTrainer
namespace Prompt

/-- The system prompt used when a request has none. -/
def defaultSystemPrompt : String :=
  "You are a precise assistant. You answer with structured JSON only."

/-- The user prompt template used when a request has none. -/
def defaultTemplate : String :=
  "\x7b\x7b#if instructions\x7d\x7d\nInstructions:\n\x7b\x7b#each instructions\x7d\x7d\n- \x7b\x7bthis\x7d\x7d\n" ++
  "\x7b\x7b/each\x7d\x7d\n\n\x7b\x7b/if\x7d\x7d\n\x7b\x7b#if examples\x7d\x7d\nExamples:\n" ++
  "\x7b\x7b#each examples\x7d\x7d\nInput: \x7b\x7binputs\x7d\x7d\nOutput: \x7b\x7boutputs\x7d\x7d\n" ++
  "\x7b\x7b/each\x7d\x7d\n\n\x7b\x7b/if\x7d\x7d\nInput:\n\x7b\x7binput\x7d\x7d\n\n" ++
  "Return a JSON object matching this JSON Schema:\n\x7b\x7boutput_schema\x7d\x7d\n"

/-- The rules every answer must follow. -/
def outputRules : String :=
  "\n\nOutput Rules:\n" ++
  "1) Return ONLY one valid JSON object matching the output schema.\n" ++
  "2) Include every required field.\n" ++
  "3) Do not add fields that are not listed below.\n"

/-- The line of an output field. -/
def fieldLine (f : Field) : String :=
  let head := "  - " ++ f.name ++ " (" ++ f.type.describe ++ ", " ++
    (if f.required then "required" else "optional") ++ ")"
  let extras := (f.description.map (fun d => "desc=" ++ d)).toList ++
    (f.default.map (fun d => "default=" ++ Json.compact d)).toList
  if extras.isEmpty then head ++ "\n" else head ++ ": " ++ "; ".intercalate extras ++ "\n"

/-- The system message for an output schema. -/
def systemMessage (base : Option String) (output : Schema) : String :=
  Text.trim (base.getD defaultSystemPrompt) ++ outputRules ++
    (if output.isEmpty then "\nOutput fields: []\n"
     else "\nOutput fields:\n" ++ String.join (output.fields.map fieldLine))

/-- The data a user template is rendered against. -/
def templateData (r : GenerationRequest) : Json :=
  .object [("instructions", Json.ofStrings r.instructions),
    ("examples", .array (r.examples.map (fun p =>
      .object [("inputs", .string (Json.compact (.object p.inputs))),
        ("outputs", .string (Json.compact (.object p.outputs)))]))),
    ("input", .string (Json.compact (.object r.input.data))),
    ("output_schema", .string (Json.render r.outputSchema.toJsonSchema))]

/-- The two messages of a request. -/
structure Messages where
  system : String
  user : String

/-- The messages of a request, or a template error. -/
def messages (r : GenerationRequest) : Except ModelError Messages :=
  match Template.render (r.promptTemplate.getD defaultTemplate) (templateData r) with
  | .ok user => .ok ⟨systemMessage r.systemPrompt r.outputSchema, user⟩
  | .error e => .error (.template e.message)

/-- The text of a reply from its first `{` to its last `}`, if the last comes after the first. -/
def extractJson (text : String) : Option String :=
  let fromOpen := text.toList.dropWhile (· != '{')
  match (fromOpen.reverse.dropWhile (· != '}')).reverse with
  | [] => none
  | cs => some (String.ofList cs)

end Prompt
end PromptTrainer
