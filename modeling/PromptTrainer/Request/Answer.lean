import PromptTrainer.Request.Schemas
import PromptTrainer.Request.Variables
import PromptTrainer.Request.Session
import PromptTrainer.Request.Prompts
import PromptTrainer.Request.Config
import PromptTrainer.Request.App
import PromptTrainer.Json.Parse
/-!
# Answering requests

A request is a JSON object whose `op` names the operation; the answer is the operation's
result, or a failure (`{"error", "message"}`).  Each request stands alone.
-/

namespace PromptTrainer
namespace Request

/-- The operation a request names. -/
def dispatch (env : Environment) (op : String) (req : Json) : Outcome Json :=
  if op == "schema" then describeSchema req
  else if op == "compose" then composeSchemas req
  else if op == "contains" then containment req
  else if op == "equal" then schemaEquality req
  else if op == "narrower" then narrowing req
  else if op == "accepts_literal" then literalAcceptance req
  else if op == "mask" then maskSchema false req
  else if op == "keep" then maskSchema true req
  else if op == "from_json_schema" then readJsonSchema req
  else if op == "construct" then constructRecord req
  else if op == "from_map" then readPortable req
  else if op == "value" then editRecord req
  else if op == "rank" then rankRewards req
  else if op == "reward_valid" then rewardValidity req
  else if op == "prediction" then predictionRecord req
  else if op == "instructions" then instructionsRecord req
  else if op == "session" then runSession env req
  else if op == "render" then promptMessages req
  else if op == "extract_json" then replyJson req
  else if op == "config" then loadConfiguration env req
  else if op == "module_config" then moduleFromConfig env req
  else if op == "validate" then validateRecord req
  else if op == "variable" then editVariable req
  else if op == "http" then chatGeneration env req
  else if op == "app" then runApp env req
  else if op == "train_from_config" then trainFromConfig env req
  else .error (.malformed ("unknown op '" ++ op ++ "'"))

/-- The answer to a request. -/
def answer (env : Environment) (req : Json) : Json :=
  match stringField req "op" >>= fun op => dispatch env op req with
  | .ok result => result
  | .error f => f.toJson

/-- The answer to a request given as text, in an environment: the answer's compact text. -/
def answerText (env : Environment) (line : String) : String :=
  match Json.parse line with
  | .ok req => Json.compact (answer env req)
  | .error e => Json.compact (Failure.malformed ("invalid JSON input: " ++ e.message)).toJson

end Request
end PromptTrainer
