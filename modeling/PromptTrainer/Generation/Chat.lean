import PromptTrainer.Generation.Http
import PromptTrainer.Generation.Prompt
import PromptTrainer.Json.Typed
import PromptTrainer.Decimal.Text
/-!
# Chat completions over HTTP

An HTTP model asks for a generation by posting a chat request to its endpoint: the model
name, a system and a user message (the rendered prompt), the temperature (a single, written
as its shortest decimal), the token limit when there is one, and a request for a JSON
object.  The request carries a JSON content type and, when the model has an API key, a
bearer authorization.

The only server reachable here is a local one that replays scripted replies in order
(status 500 with `no scripted response` once they run out) and records every request it
receives.  Any other endpoint cannot be reached.

A reply with a success status is read as a chat response (its `choices`, each with a
`message` holding a `content` string); the content of the first choice is the model's
output, from which the outermost `{...}` span is read as JSON and checked against the
output schema.  Any other status is an error naming the status and the body.
-/

namespace PromptTrainer

/-- A reply of the chat server: a status and a body. -/
structure ChatReply where
  status : Nat := 200
  body : String

/-- The local chat server: the endpoint and path it answers at, the replies it has left to
give, and the requests it received, oldest first. -/
structure ChatServer where
  endpoint : String
  path : String := "/v1/chat/completions"
  replies : List ChatReply
  received : List Json := []

namespace ChatServer

/-- The reply once the scripted ones have run out. -/
def exhausted : ChatReply := { status := 500, body := "no scripted response" }

/-- Records a request and gives the next reply. -/
def answer (s : ChatServer) (request : Json) : ChatReply × ChatServer :=
  let s := { s with received := s.received ++ [request] }
  match s.replies with
  | [] => (exhausted, s)
  | r :: rest => (r, { s with replies := rest })

end ChatServer

/-- The reason phrase of an HTTP status code, if it has one. -/
def reasonPhrase : Nat → Option String
  | 100 => some "Continue" | 101 => some "Switching Protocols" | 102 => some "Processing"
  | 200 => some "OK" | 201 => some "Created" | 202 => some "Accepted"
  | 203 => some "Non Authoritative Information" | 204 => some "No Content"
  | 205 => some "Reset Content" | 206 => some "Partial Content" | 207 => some "Multi-Status"
  | 208 => some "Already Reported" | 226 => some "IM Used"
  | 300 => some "Multiple Choices" | 301 => some "Moved Permanently" | 302 => some "Found"
  | 303 => some "See Other" | 304 => some "Not Modified" | 305 => some "Use Proxy"
  | 307 => some "Temporary Redirect" | 308 => some "Permanent Redirect"
  | 400 => some "Bad Request" | 401 => some "Unauthorized" | 402 => some "Payment Required"
  | 403 => some "Forbidden" | 404 => some "Not Found" | 405 => some "Method Not Allowed"
  | 406 => some "Not Acceptable" | 407 => some "Proxy Authentication Required"
  | 408 => some "Request Timeout" | 409 => some "Conflict" | 410 => some "Gone"
  | 411 => some "Length Required" | 412 => some "Precondition Failed"
  | 413 => some "Payload Too Large" | 414 => some "URI Too Long"
  | 415 => some "Unsupported Media Type" | 416 => some "Range Not Satisfiable"
  | 417 => some "Expectation Failed" | 418 => some "I'm a teapot"
  | 421 => some "Misdirected Request" | 422 => some "Unprocessable Entity"
  | 423 => some "Locked" | 424 => some "Failed Dependency" | 426 => some "Upgrade Required"
  | 428 => some "Precondition Required" | 429 => some "Too Many Requests"
  | 431 => some "Request Header Fields Too Large"
  | 451 => some "Unavailable For Legal Reasons"
  | 500 => some "Internal Server Error" | 501 => some "Not Implemented"
  | 502 => some "Bad Gateway" | 503 => some "Service Unavailable"
  | 504 => some "Gateway Timeout" | 505 => some "HTTP Version Not Supported"
  | 506 => some "Variant Also Negotiates" | 507 => some "Insufficient Storage"
  | 508 => some "Loop Detected" | 510 => some "Not Extended"
  | 511 => some "Network Authentication Required"
  | _ => none

/-- A status as text: its code and reason phrase. -/
def statusText (code : Nat) : String :=
  toString code ++ " " ++ (reasonPhrase code).getD "<unknown status code>"

/-- Whether a text may be a header value: no control character but tab. -/
def validHeaderValue (value : String) : Bool :=
  value.all (fun c => (c.toNat ≥ 32 && c.toNat != 127) || c == '\t')

/-- The shape of a chat response. -/
def chatResponseShape : Json.Shape :=
  .record "ChatResponse" [("choices", .sequence (.record "ChatChoice"
    [("message", .record "ChatMessageResponse" [("content", .text)])]))]

/-- The content of the first choice of a chat response. -/
def chatContent (text : String) : Except ModelError String :=
  match Json.readTyped chatResponseShape text with
  | .error r => .error (.serialization r.text)
  | .ok response =>
    match response.get? "choices" with
    | some (.array (choice :: _)) =>
      match (choice.get? "message").bind (fun m => m.get? "content") with
      | some (.string content) => .ok content
      | _ => .error (.response "Missing choices")
    | _ => .error (.response "Missing choices")

/-- The record a model's output stands for: its outermost `{...}` span read as JSON and
checked against the schema. -/
def structuredOutput (schema : Schema) (output : String) : Except ModelError Record :=
  match Prompt.extractJson output with
  | none => .error (.malformed "output did not contain a JSON object")
  | some text =>
    match Json.parse text with
    | .error e => .error (.malformed ("invalid JSON: " ++ e.message))
    | .ok data =>
      match Record.construct schema data with
      | .ok r => .ok r
      | .error violations => .error (.malformed (validationMessage violations))

/-- The record a reply stands for.  A success status's body is a chat response (empty for
`204 No Content`); any other status is refused with its body. -/
def readReply (schema : Schema) (reply : ChatReply) : Except ModelError Record :=
  if 200 ≤ reply.status ∧ reply.status < 300 then do
    let content ← chatContent (if reply.status == 204 then "" else reply.body)
    structuredOutput schema content
  else
    .error (.response ("HTTP " ++ statusText reply.status ++ ": " ++
      (if reply.status == 304 then "" else reply.body)))

namespace HttpModel

/-- The chat request of a model for rendered messages. -/
def chatBody (m : HttpModel) (messages : Prompt.Messages) : Json :=
  .object ([("model", .string m.model),
    ("messages", .array [
      .object [("role", .string "system"), ("content", .string messages.system)],
      .object [("role", .string "user"), ("content", .string messages.user)]]),
    ("temperature", .number (.float (Decimal.singleAsShortestDouble m.temperature)))] ++
    (match m.maxTokens with
     | some n => [("max_tokens", Json.nat n)]
     | none => []) ++
    [("response_format", .object [("type", .string "json_object")])])

/-- The headers a model sends: a JSON content type, and its bearer key if it has one. -/
def headers (m : HttpModel) : List (String × Json) :=
  [("content-type", .string "application/json")] ++
    (match m.apiKey with
     | some key => [("authorization", .string ("Bearer " ++ key))]
     | none => [])

/-- The failure of posting to an endpoint no server answers at. -/
def unreachable (endpoint : String) : ModelError :=
  .http ("error sending request for url (" ++ endpoint ++ ")")

/-- Asks the model for a generation: renders the prompt, posts the chat request, and reads
the reply.  Answers the record or the error, and the server after the exchange. -/
def generate (m : HttpModel) (server : Option ChatServer) (request : GenerationRequest) :
    Except ModelError Record × Option ChatServer :=
  match Prompt.messages request with
  | .error e => (.error e, server)
  | .ok messages =>
    if m.apiKey.any (fun key => !validHeaderValue ("Bearer " ++ key)) then
      (.error (.http "failed to parse header value"), server)
    else
      match server with
      | some s =>
        if s.endpoint == m.endpoint then
          let posted := Json.object [("method", .string "POST"), ("path", .string s.path),
            ("headers", .object m.headers), ("body", m.chatBody messages)]
          let (reply, s) := s.answer posted
          (readReply request.outputSchema reply, some s)
        else (.error (unreachable m.endpoint), server)
      | none => (.error (unreachable m.endpoint), server)

end HttpModel

end PromptTrainer
