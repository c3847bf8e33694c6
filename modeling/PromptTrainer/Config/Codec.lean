import PromptTrainer.Config.Basic
import PromptTrainer.Json.Decode
/-!
# Configurations as JSON

A configuration is written as JSON with every field, defaults included, and with the
providers table's lookups alongside its raw lists: the names of its backends and profiles,
the default backend and profile as resolved, and the backend serving each profile.
Singles (temperatures) are written widened to doubles.

A providers table is also read from JSON, with the wording of refusals used for every
record read from JSON.
-/

namespace PromptTrainer

/-- An optional single as JSON. -/
def Json.singleOption : Option Float32 → Json
  | some f => Json.single f
  | none => .null

/-- An optional natural number as JSON. -/
def Json.natOption : Option Nat → Json
  | some n => Json.nat n
  | none => .null

/-- A backend as JSON. -/
def Backend.toJson (b : Backend) : Json :=
  .object [("name", .string b.name), ("kind", .string b.kind),
    ("endpoint", Json.ofStringOption b.endpoint), ("api_key_env", Json.ofStringOption b.apiKeyEnv),
    ("config", b.settings)]

/-- A model policy as JSON. -/
def ModelPolicy.toJson (p : ModelPolicy) : Json :=
  .object [("temperature_min", Json.singleOption p.temperatureMin),
    ("temperature_max", Json.singleOption p.temperatureMax)]

/-- A model profile as JSON. -/
def ModelProfile.toJson (m : ModelProfile) : Json :=
  .object [("name", .string m.name), ("backend", Json.ofStringOption m.backend),
    ("model", .string m.model), ("temperature", Json.singleOption m.temperature),
    ("max_tokens", Json.natOption m.maxTokens), ("policy", m.policy.toJson),
    ("config", m.settings)]

/-- A providers table as JSON, with its lookups. -/
def Providers.toJson (p : Providers) : Json :=
  .object [("default_backend", Json.ofStringOption p.defaultBackend),
    ("default_model", Json.ofStringOption p.defaultModel),
    ("backends", .array (p.backends.map Backend.toJson)),
    ("models", .array (p.models.map ModelProfile.toJson)),
    ("backend_names", Json.ofStrings p.backendNames),
    ("model_names", Json.ofStrings p.modelNames),
    ("default_backend_resolved", Json.ofStringOption (p.defaultBackend?.map Backend.name)),
    ("default_model_resolved", Json.ofStringOption (p.defaultModel?.map ModelProfile.name)),
    ("backend_for", .array (p.models.map (fun m =>
      .array [.string m.name, Json.ofStringOption ((p.backendFor m).map Backend.name)])))]

/-- A configuration as JSON, with the optimizer's profile. -/
def Configuration.toJson (c : Configuration) : Json :=
  .object [("version", Json.nat c.version),
    ("app", .object [("name", .string c.app.name), ("environment", .string c.app.environment)]),
    ("providers", c.providers.toJson),
    ("optimizer", .object [("kind", .string c.optimizer.kind),
      ("k_best", Json.nat c.optimizer.kBest), ("model", Json.ofStringOption c.optimizer.model),
      ("name", Json.ofStringOption c.optimizer.name),
      ("meta_instructions", match c.optimizer.metaInstructions with
        | some lines => Json.ofStrings lines
        | none => .null)]),
    ("training", .object [("epochs", Json.nat c.training.epochs),
      ("generation_timeout_secs", Json.nat c.training.generationTimeoutSecs),
      ("finalize_on_epoch_end", .bool c.training.finalizeOnEpochEnd)]),
    ("stores", .object [("variables", .object [("backend", .string c.variableStore.backend),
      ("max_variables", Json.nat c.variableStore.maxVariables),
      ("snapshot_path", Json.ofStringOption c.variableStore.snapshotPath)])]),
    ("observability", .object [("log_level", .string c.observability.logLevel),
      ("traces_enabled", .bool c.observability.tracesEnabled),
      ("log_file", Json.ofStringOption c.observability.logFile)]),
    ("optimizer_model", Json.ofStringOption (c.optimizerModel.map ModelProfile.name))]

namespace Decode

/-- A single: any number, rounded to single precision. -/
def single : Json → Result Float32
  | .number (.int i) => .ok (Float32.ofInt i)
  | .number (.float f) => .ok (Float.toSingle f)
  | v => .error (invalidType v "f32")

/-- An unsigned 32-bit integer. -/
def unsigned32 : Json → Result Nat
  | .number (.int i) =>
    if i < 0 || i > 4294967295 then .error (invalidValue (.number (.int i)) "u32")
    else .ok i.toNat
  | v => .error (invalidType v "u32")

/-- A backend read so far. -/
structure BackendDraft where
  name : Option String := none
  kind : Option String := none
  endpoint : Option String := none
  apiKeyEnv : Option String := none
  settings : Json := .null

/-- Reads a backend. -/
def backend : Json → Result Backend :=
  record "BackendSpec" [("name", true), ("kind", true), ("endpoint", false),
      ("api_key_env", false), ("config", false)]
    ({} : BackendDraft)
    (fun d name v => match name with
      | "name" => return { d with name := some (← string v) }
      | "kind" => return { d with kind := some (← string v) }
      | "endpoint" => return { d with endpoint := ← option string v }
      | "api_key_env" => return { d with apiKeyEnv := ← option string v }
      | _ => return { d with settings := v })
    (fun d => do
      let name ← required "name" d.name
      let kind ← required "kind" d.kind
      .ok { name := name, kind := kind, endpoint := d.endpoint, apiKeyEnv := d.apiKeyEnv,
            settings := d.settings })

/-- Reads a model policy. -/
def policy : Json → Result ModelPolicy :=
  record "ModelPolicy" [("temperature_min", false), ("temperature_max", false)]
    ({} : ModelPolicy)
    (fun d name v => match name with
      | "temperature_min" => return { d with temperatureMin := ← option single v }
      | _ => return { d with temperatureMax := ← option single v })
    .ok

/-- A model profile read so far. -/
structure ProfileDraft where
  name : Option String := none
  backend : Option String := none
  model : Option String := none
  temperature : Option Float32 := none
  maxTokens : Option Nat := none
  policy : ModelPolicy := {}
  settings : Json := .null

/-- Reads a model profile. -/
def profile : Json → Result ModelProfile :=
  record "ModelProfile" [("name", true), ("backend", false), ("model", true),
      ("temperature", false), ("max_tokens", false), ("policy", false), ("config", false)]
    ({} : ProfileDraft)
    (fun d name v => match name with
      | "name" => return { d with name := some (← string v) }
      | "backend" => return { d with backend := ← option string v }
      | "model" => return { d with model := some (← string v) }
      | "temperature" => return { d with temperature := ← option single v }
      | "max_tokens" => return { d with maxTokens := ← option unsigned32 v }
      | "policy" => return { d with policy := ← policy v }
      | _ => return { d with settings := v })
    (fun d => do
      let name ← required "name" d.name
      let model ← required "model" d.model
      .ok { name := name, backend := d.backend, model := model, temperature := d.temperature,
            maxTokens := d.maxTokens, policy := d.policy, settings := d.settings })

/-- Reads a providers table. -/
def providers : Json → Result Providers :=
  record "ProvidersConfig" [("default_backend", false), ("default_model", false),
      ("backends", false), ("models", false)]
    ({} : Providers)
    (fun d name v => match name with
      | "default_backend" => return { d with defaultBackend := ← option string v }
      | "default_model" => return { d with defaultModel := ← option string v }
      | "backends" => return { d with backends := ← list backend v }
      | _ => return { d with models := ← list profile v })
    .ok

end Decode

end PromptTrainer
