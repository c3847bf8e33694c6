import PromptTrainer.Json.Basic
import PromptTrainer.Text.Basic
/-!
# The configuration file

One configuration describes a whole training application: its name, the language-model
providers (backends that serve models, and model profiles naming a model on a backend),
the optimizer, the training loop, the variable store and observability.  Every part has
defaults, so the empty configuration is a valid one.

The providers table answers lookups by name, with defaults: the default backend is the
named one or else the first declared, the default model profile likewise, and the backend
of a profile is its own when it names one that exists, else the default backend.

A profile's temperature guardrails clamp a requested temperature into
`[temperature_min, temperature_max]`, each bound applied only when set.

A backend names the environment variable holding its API key; the key is looked up in an
environment given as a list of variables.

A loaded configuration is checked: positive version, non-empty names, known references,
supported optimizer and store kinds, positive counts.
-/

namespace PromptTrainer

/-- Environment variables, by name. -/
abbrev Environment := List (String × String)

/-- A backend: where and how models are served. -/
structure Backend where
  name : String
  /-- The kind of service, e.g. `openai` or `ollama`. -/
  kind : String
  endpoint : Option String := none
  /-- The environment variable holding the API key. -/
  apiKeyEnv : Option String := none
  /-- Backend-specific settings, any JSON. -/
  settings : Json := .null

/-- Guardrails on a model's temperature. -/
structure ModelPolicy where
  temperatureMin : Option Float32 := none
  temperatureMax : Option Float32 := none

/-- A model profile: a model on a backend with its invocation settings. -/
structure ModelProfile where
  name : String
  backend : Option String := none
  /-- The name of the model at the backend. -/
  model : String
  temperature : Option Float32 := none
  maxTokens : Option Nat := none
  policy : ModelPolicy := {}
  /-- Profile-specific settings, any JSON. -/
  settings : Json := .null

/-- The backends and model profiles. -/
structure Providers where
  defaultBackend : Option String := none
  defaultModel : Option String := none
  backends : List Backend := []
  models : List ModelProfile := []

/-- The application's name and environment. -/
structure AppSection where
  name : String := "tessera"
  environment : String := "development"

/-- The optimizer's settings. -/
structure OptimizerSection where
  kind : String := "opro"
  kBest : Nat := 10
  /-- The model profile generating instructions. -/
  model : Option String := none
  name : Option String := none
  metaInstructions : Option (List String) := none

/-- The training loop's settings. -/
structure TrainingSection where
  epochs : Nat := 1
  /-- The bound on one variable's optimization, in seconds. -/
  generationTimeoutSecs : Nat := 60
  finalizeOnEpochEnd : Bool := true

/-- The variable store's settings. -/
structure StoreSection where
  backend : String := "in_memory"
  maxVariables : Nat := 1024
  /-- The snapshot loaded at start and written after training. -/
  snapshotPath : Option String := none

/-- Logging and tracing settings. -/
structure ObservabilitySection where
  logLevel : String := "info"
  tracesEnabled : Bool := false
  logFile : Option String := none

/-- A whole configuration. -/
structure Configuration where
  version : Nat := 1
  app : AppSection := {}
  providers : Providers := {}
  optimizer : OptimizerSection := {}
  training : TrainingSection := {}
  /-- The variable store (the `stores.variables` section). -/
  variableStore : StoreSection := {}
  observability : ObservabilitySection := {}

namespace Providers

/-- The backend of a name. -/
def backend? (p : Providers) (name : String) : Option Backend := p.backends.find? (·.name == name)

/-- The model profile of a name. -/
def model? (p : Providers) (name : String) : Option ModelProfile := p.models.find? (·.name == name)

/-- The default backend: the named one, else the first declared. -/
def defaultBackend? (p : Providers) : Option Backend :=
  match p.defaultBackend with
  | some name => p.backend? name
  | none => p.backends.head?

/-- The default model profile: the named one, else the first declared. -/
def defaultModel? (p : Providers) : Option ModelProfile :=
  match p.defaultModel with
  | some name => p.model? name
  | none => p.models.head?

/-- The backend serving a profile: its own, else the default backend. -/
def backendFor (p : Providers) (m : ModelProfile) : Option Backend :=
  match m.backend.bind p.backend? with
  | some b => some b
  | none => p.defaultBackend?

/-- The names of the backends, in order. -/
def backendNames (p : Providers) : List String := p.backends.map Backend.name

/-- The names of the model profiles, in order. -/
def modelNames (p : Providers) : List String := p.models.map ModelProfile.name

end Providers

/-- A finite value rounded to the nearest value of a format, ties to even; zeros, infinities
and NaN are left as they are. -/
def roundToFormat (spec : Float.Model.Format) :
    Float.Model.UnpackedFloat → Float.Model.UnpackedFloat
  | .finite s m e _ => Float.Model.UnpackedFloat.round spec s m e
  | other => other

/-- A single widened to a double; every single is a double, so the value is kept. -/
def Float32.toDouble (x : Float32) : Float :=
  Float.ofModel (Float.Model.pack (roundToFormat .binary64 x.toModel.unpack))

/-- A double narrowed to the nearest single, ties to even; beyond the greatest single it
becomes an infinity. -/
def Float.toSingle (x : Float) : Float32 :=
  Float32.ofModel (Float32.Model.pack (roundToFormat .binary32 x.toModel.unpack))

/-- A single as JSON: the double it widens to, and null for an infinity or a NaN, which JSON
cannot hold. -/
def Json.single (f : Float32) : Json :=
  if f.isFinite then .number (.float (Float32.toDouble f)) else .null

/-- The larger of two singles; a NaN gives way to the other, and of two equal values (such
as `0.0` and `-0.0`) the second is taken. -/
def Float32.larger (a b : Float32) : Float32 :=
  if b.isNaN then a else if b < a then a else b

/-- The smaller of two singles; a NaN gives way to the other, and of two equal values (such
as `0.0` and `-0.0`) the second is taken. -/
def Float32.smaller (a b : Float32) : Float32 :=
  if b.isNaN then a else if a < b then a else b

/-- A temperature clamped by a profile's guardrails: raised to the minimum, then lowered to
the maximum, each when set. -/
def ModelProfile.clampTemperature (m : ModelProfile) (candidate : Float32) : Float32 :=
  let raised := match m.policy.temperatureMin with
    | some least => Float32.larger candidate least
    | none => candidate
  match m.policy.temperatureMax with
  | some most => Float32.smaller raised most
  | none => raised

/-- Why a backend's API key could not be found. -/
inductive ApiKeyError where
  /-- The backend names no environment variable. -/
  | notConfigured
  /-- The named environment variable is not set. -/
  | envNotFound (name : String)

/-- The wording of an API key error. -/
def ApiKeyError.message : ApiKeyError → String
  | .notConfigured => "API key environment variable not configured"
  | .envNotFound name => "Environment variable '" ++ name ++ "' not found"

/-- The case name of an API key error. -/
def ApiKeyError.caseName : ApiKeyError → String
  | .notConfigured => "NotConfigured"
  | .envNotFound _ => "EnvNotFound"

/-- A backend's API key from the environment. -/
def Backend.apiKey (env : Environment) (b : Backend) : Except ApiKeyError String :=
  match b.apiKeyEnv with
  | none => .error .notConfigured
  | some name =>
    match env.lookup name with
    | some key => .ok key
    | none => .error (.envNotFound name)

/-- Why a configuration could not be loaded. -/
inductive ConfigError where
  /-- The file could not be read. -/
  | io (message : String)
  /-- The text is not a configuration. -/
  | parse
  /-- The configuration breaks a rule. -/
  | invalid (message : String)

/-- The wording of a configuration error. -/
def ConfigError.message : ConfigError → String
  | .io m => "IO error: " ++ m
  | .parse => "YAML parse error"
  | .invalid m => "Invalid config: " ++ m

/-- The case name of a configuration error. -/
def ConfigError.caseName : ConfigError → String
  | .io _ => "Io"
  | .parse => "Parse"
  | .invalid _ => "Invalid"

/-- Whether a text is empty once trimmed. -/
def isBlankText (s : String) : Bool := (Text.trim s).isEmpty

/-- The first rule a providers table breaks, if any. -/
def Providers.check (p : Providers) : Option String :=
  let badBackend := p.backends.findSome? (fun b =>
    if isBlankText b.name then some "providers.backends[].name must not be empty"
    else if isBlankText b.kind then some "providers.backends[].kind must not be empty"
    else none)
  let badModel := p.models.findSome? (fun m =>
    if isBlankText m.name then some "providers.models[].name must not be empty"
    else if isBlankText m.model then
      some ("providers.models[" ++ m.name ++ "].model must not be empty")
    else match m.backend with
      | some b =>
        if (p.backend? b).isNone then
          some ("providers.models[" ++ m.name ++ "].backend '" ++ b ++ "' not found")
        else none
      | none => none)
  let badDefaultBackend := p.defaultBackend.bind (fun b =>
    if (p.backend? b).isNone then some ("providers.default_backend '" ++ b ++ "' not found")
    else none)
  let badDefaultModel := p.defaultModel.bind (fun m =>
    if (p.model? m).isNone then some ("providers.default_model '" ++ m ++ "' not found")
    else none)
  badBackend <|> badModel <|> badDefaultBackend <|> badDefaultModel

/-- The first rule a configuration breaks, if any. -/
def Configuration.check (c : Configuration) : Option String :=
  if c.version == 0 then some "version must be greater than 0"
  else if isBlankText c.app.name then some "app.name must not be empty"
  else match c.providers.check with
  | some m => some m
  | none =>
    if c.optimizer.kind != "opro" then
      some ("optimizer.kind '" ++ c.optimizer.kind ++ "' is not supported")
    else if c.optimizer.kBest == 0 then some "optimizer.k_best must be > 0"
    else match c.optimizer.model.bind (fun m =>
        if (c.providers.model? m).isNone then some ("optimizer.model '" ++ m ++ "' not found")
        else none) with
    | some m => some m
    | none =>
      if c.training.epochs == 0 then some "training.epochs must be > 0"
      else if c.training.generationTimeoutSecs == 0 then
        some "training.generation_timeout_secs must be > 0"
      else if c.variableStore.backend != "in_memory" then
        some ("stores.variables.backend '" ++ c.variableStore.backend ++ "' is not supported")
      else if c.variableStore.maxVariables == 0 then
        some "stores.variables.max_variables must be > 0"
      else none

/-- The profile of the optimizer's model: the named one, else the default profile. -/
def Configuration.optimizerModel (c : Configuration) : Option ModelProfile :=
  match c.optimizer.model with
  | some name => c.providers.model? name
  | none => c.providers.defaultModel?

end PromptTrainer
