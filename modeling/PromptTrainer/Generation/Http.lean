import PromptTrainer.Config.Basic
import PromptTrainer.Generation.Request
/-!
# Language models served over HTTP

A model served by a chat-completions service is described by the endpoint it is posted
to, the API key sent with it, the model name, the sampling temperature (a single), an
optional token limit, a timeout, and the backend it came from.

Such a model is built from a backend and invocation settings.  The backend's kind must be
known (compared without regard to case); a hosted kind needs an API key, while a local or
compatible server may go without; the endpoint is the backend's own or the kind's default,
and a compatible server has no default.  The timeout is the backend's `timeout_secs`
setting, sixty seconds by default.

A resolver rebuilds models against a providers table: from a profile's name (the
profile's model, temperature clamped by its guardrails, and token limit, on the profile's
backend), from the default profile, or from a portable configuration
`{"kind": "http", "profile": name}` or `{"model", "backend", "temperature", "max_tokens"}`.
-/

namespace PromptTrainer

/-- A model served over HTTP. -/
structure HttpModel where
  endpoint : String
  apiKey : Option String := none
  model : String
  temperature : Float32
  maxTokens : Option Nat := none
  timeoutSecs : Nat := 60
  backend : Option String := none

/-- The portable configuration of an HTTP model; the temperature is written widened to a
double, or as null when it is infinite or NaN. -/
def HttpModel.config (m : HttpModel) : Json :=
  .object [("kind", .string "http"), ("backend", Json.ofStringOption m.backend),
    ("model", .string m.model), ("temperature", Json.single m.temperature),
    ("max_tokens", match m.maxTokens with
      | some n => Json.nat n
      | none => .null)]

/-- The temperature used when none is given. -/
def defaultTemperature : Float32 := 0.7

/-- The model, temperature and token limit to invoke a model with. -/
structure Invocation where
  model : String := "gpt-4o-mini"
  temperature : Float32 := defaultTemperature
  maxTokens : Option Nat := none

/-- The invocation of a profile: its model and token limit, and its temperature (or the
default one) clamped by its guardrails. -/
def Invocation.ofProfile (p : ModelProfile) : Invocation :=
  { model := p.model, temperature := p.clampTemperature (p.temperature.getD defaultTemperature),
    maxTokens := p.maxTokens }

/-- Why a model could not be built. -/
inductive LmBuildError where
  | unknownKind (kind : String)
  | missingApiKey (backend : String)
  | envNotFound (name : String)
  | unknownModel (profile : String)
  | noBackend (model : String)
  /-- The model itself refused its configuration. -/
  | client (error : ModelError)

namespace LmBuildError

/-- The wording of a build error. -/
def message : LmBuildError → String
  | .unknownKind k => "unknown backend kind: " ++ k
  | .missingApiKey b => "missing API key for backend '" ++ b ++ "'"
  | .envNotFound v => "environment variable '" ++ v ++ "' not found"
  | .unknownModel p => "unknown model profile: " ++ p
  | .noBackend m => "no backend available for model '" ++ m ++ "'"
  | .client e => e.message

/-- The case name of a build error. -/
def caseName : LmBuildError → String
  | .unknownKind _ => "UnknownKind"
  | .missingApiKey _ => "MissingApiKey"
  | .envNotFound _ => "EnvNotFound"
  | .unknownModel _ => "UnknownModel"
  | .noBackend _ => "NoBackend"
  | .client _ => "Client"

/-- The model error a build error becomes: a model's own error as it is, anything else a
configuration error. -/
def toModelError : LmBuildError → ModelError
  | .client e => e
  | other => .config other.message

end LmBuildError

/-- The kinds of service a backend may be. -/
inductive BackendKind where
  | openai
  | deepseek
  | groq
  | openrouter
  | mistral
  | ollama
  /-- Any server speaking the chat-completions protocol; it needs an endpoint. -/
  | compatible
deriving BEq, Repr

namespace BackendKind

/-- A character in lower case as far as comparing with ASCII words goes: the ASCII capitals
and the Kelvin sign (whose lower case is `k`) are the only characters whose lower case is an
ASCII letter. -/
def lowerForWords (c : Char) : Char := if c.toNat == 0x212A then 'k' else c.toLower

/-- The kind of a backend's kind text, compared without regard to case. -/
def parse (kind : String) : Except LmBuildError BackendKind :=
  match String.ofList (kind.toList.map lowerForWords) with
  | "openai" => .ok .openai
  | "deepseek" => .ok .deepseek
  | "groq" => .ok .groq
  | "openrouter" => .ok .openrouter
  | "mistral" => .ok .mistral
  | "ollama" => .ok .ollama
  | "openai_compatible" | "compatible" => .ok .compatible
  | _ => .error (.unknownKind kind)

/-- The endpoint of a kind's public service, if it has one. -/
def defaultEndpoint : BackendKind → Option String
  | .openai => some "https://api.openai.com/v1/chat/completions"
  | .deepseek => some "https://api.deepseek.com/chat/completions"
  | .groq => some "https://api.groq.com/openai/v1/chat/completions"
  | .openrouter => some "https://openrouter.ai/api/v1/chat/completions"
  | .mistral => some "https://api.mistral.ai/v1/chat/completions"
  | .ollama => some "http://localhost:11434/v1/chat/completions"
  | .compatible => none

/-- Whether a kind needs an API key: all but local and compatible servers. -/
def requiresApiKey : BackendKind → Bool
  | .ollama | .compatible => false
  | _ => true

end BackendKind

/-- An unsigned 64-bit integer setting. -/
def unsignedSetting? (settings : Json) (key : String) : Option Nat :=
  match settings.get? key with
  | some (.number n) => n.toUnsigned?
  | _ => none

/-- Builds an HTTP model for a backend and an invocation. -/
def buildHttpModel (env : Environment) (b : Backend) (inv : Invocation) :
    Except LmBuildError HttpModel := do
  let kind ← BackendKind.parse b.kind
  let apiKey ← match b.apiKey env with
    | .ok key => pure (some key)
    | .error .notConfigured =>
      if kind.requiresApiKey then throw (.missingApiKey b.name) else pure none
    | .error (.envNotFound name) => throw (.envNotFound name)
  let endpoint ← match b.endpoint <|> kind.defaultEndpoint with
    | some e => pure e
    | none => throw (.unknownKind (b.kind ++ " (endpoint required)"))
  pure { endpoint := endpoint, apiKey := apiKey, model := inv.model,
         temperature := inv.temperature, maxTokens := inv.maxTokens,
         timeoutSecs := (unsignedSetting? b.settings "timeout_secs").getD 60,
         backend := some b.name }

/-- Rebuilds HTTP models against a providers table and an environment. -/
structure Resolver where
  providers : Providers
  env : Environment

namespace Resolver

/-- The model of a profile, on the profile's backend. -/
def buildFrom (r : Resolver) (p : ModelProfile) : Except LmBuildError HttpModel :=
  match r.providers.backendFor p with
  | none => .error (.noBackend p.name)
  | some b => buildHttpModel r.env b (Invocation.ofProfile p)

/-- The model of a named profile. -/
def buildProfile (r : Resolver) (name : String) : Except LmBuildError HttpModel :=
  match r.providers.model? name with
  | none => .error (.unknownModel name)
  | some p => r.buildFrom p

/-- The model of the default profile. -/
def buildDefault (r : Resolver) : Except LmBuildError HttpModel :=
  match r.providers.defaultModel? with
  | none => .error (.unknownModel "<default>")
  | some p => r.buildFrom p

/-- A number setting of a portable configuration, as a double. -/
def numberOf? (config : Json) (key : String) : Option Float :=
  match config.get? key with
  | some (.number n) => some n.toFloat
  | _ => none

/-- The model of an inline portable configuration: a model name, an optional backend (else
the default one), temperature and token limit (kept modulo 2^32). -/
def resolveInline (r : Resolver) (config : Json) : Except LmBuildError HttpModel :=
  match config.get? "model" with
  | some (.string model) =>
    let backend := match config.get? "backend" with
      | some (.string name) => r.providers.backend? name
      | _ => r.providers.defaultBackend?
    match backend with
    | none => .error (.noBackend model)
    | some b =>
      buildHttpModel r.env b
        { model := model,
          temperature := ((numberOf? config "temperature").map Float.toSingle).getD
            defaultTemperature,
          maxTokens := (unsignedSetting? config "max_tokens").map (· % 4294967296) }
  | _ => .error (.unknownModel "<missing 'model'>")

/-- The model of a portable configuration. -/
def resolve (r : Resolver) (config : Json) : Except ModelError HttpModel :=
  let kindRefused := match config.get? "kind" with
    | some (.string kind) => kind != "http"
    | _ => false
  if kindRefused then
    .error (.config ("cannot resolve language model kind '" ++
      (match config.get? "kind" with
       | some (.string kind) => kind
       | _ => "") ++ "'"))
  else
    let built := match config.get? "profile" with
      | some (.string profile) => r.buildProfile profile
      | _ => r.resolveInline config
    built.mapError LmBuildError.toModelError

end Resolver

end PromptTrainer
