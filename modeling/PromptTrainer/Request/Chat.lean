import PromptTrainer.Request.Modules
import PromptTrainer.Request.Prompts
/-!
# Requests with a chat server

A request may script a local chat server with `http_responses`: each reply is
`{"status"?, "content"}` (the content wrapped in a chat response) or `{"status"?, "body"}`
(text sent as it is, other JSON serialized); the status is 200 by default.  HTTP models whose
endpoint is `@SERVER@` talk to it.

The generation request resolves a portable model configuration against a providers table
and asks the model each of a list of generation requests in turn, reporting each answer and
every request the server received.
-/

namespace PromptTrainer
namespace Request

/-- The endpoint of the local chat server. -/
def serverEndpoint : String := "@SERVER@"

/-- The chat response whose first choice holds a content. -/
def wrappedContent (content : String) : Json :=
  .object [("id", .string "cmpl"), ("object", .string "chat.completion"),
    ("choices", .array [.object [("index", Json.nat 0),
      ("message", .object [("role", .string "assistant"), ("content", .string content)]),
      ("finish_reason", .string "stop")]])]

/-- A scripted reply. -/
def readReply (spec : Json) : Outcome ChatReply := do
  let status ← match spec.get? "status" with
    | none | some .null => .ok 200
    | some _ => natField spec "status"
  match spec.get? "content", spec.get? "body" with
  | some (.string content), _ => .ok { status := status, body := Json.compact (wrappedContent content) }
  | some _, _ => .error (.malformed "field 'content' must be a string")
  | none, some (.string body) => .ok { status := status, body := body }
  | none, some body => .ok { status := status, body := Json.compact body }
  | none, none => .error (.malformed "a scripted reply needs 'content' or 'body'")

/-- The chat server a request scripts, if it has `http_responses`. -/
def readServer (req : Json) : Outcome (Option ChatServer) :=
  match req.get? "http_responses" with
  | none | some .null => .ok none
  | some _ => do
    let replies ← (← listField req "http_responses").mapM readReply
    .ok (some { endpoint := serverEndpoint, replies := replies })

/-- The requests a server received between two workbenches. -/
def newHttpRequests (before after : Workbench) : List Json :=
  match after.server with
  | some s =>
    let seen := match before.server with
      | some earlier => earlier.received.length
      | none => 0
    s.received.drop seen
  | none => []

/-- Asks the HTTP model resolved from `providers` and `lm` each generation request of
`requests` in turn. -/
def chatGeneration (env : Environment) (req : Json) : Outcome Json := do
  let providers ← liftDecode (Decode.providers ((req.get? "providers").getD .null))
  let server ← readServer req
  let requests ← (← listField req "requests").mapM readGenerationRequest
  match (Resolver.mk providers env).resolve ((req.get? "lm").getD .null) with
  | .error e => .error (ModelError.failure e)
  | .ok m =>
    let (results, server) := requests.foldl (fun (acc : List Json × Option ChatServer) r =>
        let (answer, server) := m.generate acc.2 r
        (acc.1 ++ [match answer with
          | .ok record => dumpRecord record
          | .error e => (ModelError.failure e).toJson], server)) ([], server)
    .ok (.object [("model_name", .string m.model), ("config", m.config),
      ("results", .array results),
      ("http_requests", .array ((server.map ChatServer.received).getD []))])

end Request
end PromptTrainer
