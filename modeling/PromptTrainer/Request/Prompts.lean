import PromptTrainer.Request.Variables
import PromptTrainer.Request.Errors
import PromptTrainer.Generation.Prompt
/-!
# Requests on prompts

Answers to the requests that lay out the messages of a generation request and that read
the JSON object out of a reply.
-/

namespace PromptTrainer
namespace Request

/-- An optional member decoded when present and not null. -/
def optionalMember {α : Type} (req : Json) (key : String) (decode : Json → Decode.Result α) :
    Outcome (Option α) :=
  match req.get? key with
  | none | some .null => .ok none
  | some v => (liftDecode (decode v)).map some

/-- A generation request: `input` (a record spec), `output_schema`, and optionally
`instructions`, `examples`, `prompt_template` and `system_prompt`. -/
def readGenerationRequest (req : Json) : Outcome GenerationRequest := do
  let input ← recordSpec (← field req "input")
  let output ← schemaSpec (← field req "output_schema")
  let instructions ← optionalMember req "instructions" (Decode.list Decode.string)
  let examples ← optionalMember req "examples" (Decode.list Decode.prediction)
  .ok { input := input, outputSchema := output, instructions := instructions.getD [],
        examples := examples.getD [], promptTemplate := ← optString req "prompt_template",
        systemPrompt := ← optString req "system_prompt" }

/-- The system and user messages of a generation request. -/
def promptMessages (req : Json) : Outcome Json := do
  let request ← readGenerationRequest req
  match Prompt.messages request with
  | .ok m => .ok (.object [("system", .string m.system), ("user", .string m.user)])
  | .error e => .error (ModelError.failure e)

/-- The JSON object text of a reply, if any. -/
def replyJson (req : Json) : Outcome Json := do
  let text ← stringField req "text"
  .ok (.object [("json", Json.ofStringOption (Prompt.extractJson text))])

end Request
end PromptTrainer
