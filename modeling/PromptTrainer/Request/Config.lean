import PromptTrainer.Request.Errors
import PromptTrainer.Request.Variables
import PromptTrainer.Config.Read
import PromptTrainer.Config.Codec
import PromptTrainer.Generation.Http
import PromptTrainer.Pipeline.Config
import PromptTrainer.Optimizer.Config
/-!
# Requests on configurations

Answers to the request that loads a configuration from YAML and reports it with every
default resolved, and optionally what can be derived from it: clamped temperatures, API
keys, backend timeouts, the providers table alone, models resolved from portable
configurations or built from profiles, and profile settings.
-/

namespace PromptTrainer
namespace Request

/-- A configuration error as a failure; a parse error carries no text. -/
def ConfigError.failure (e : ConfigError) : Failure :=
  ⟨"ConfigError::" ++ e.caseName, (match e with
    | .parse => none
    | _ => some e.message), [], false⟩

/-- A model build error as a failure. -/
def LmBuildError.failure (e : LmBuildError) : Failure :=
  match e with
  | .client inner =>
    (ModelError.failure inner).within "LmBuildError::Client" (some e.message)
  | _ => ⟨"LmBuildError::" ++ e.caseName, some e.message, [], false⟩

/-- An API key error as a failure. -/
def ApiKeyError.failure (e : ApiKeyError) : Failure :=
  ⟨"ApiKeyError::" ++ e.caseName, some e.message, [], false⟩

/-- A built model's answer: its name and portable configuration. -/
def builtModel (m : HttpModel) : Json :=
  .object [("model_name", .string m.model), ("config", m.config)]

/-- The answer of a build: the model, or the failure. -/
def buildAnswer (result : Except LmBuildError HttpModel) : Json :=
  match result with
  | .ok m => builtModel m
  | .error e => (LmBuildError.failure e).toJson

/-- The optional parts of a configuration answer, each present when its request member is. -/
def configExtras (env : Environment) (req : Json) (c : Configuration) : Outcome (List (String × Json)) := do
  let p := c.providers
  let resolver : Resolver := ⟨p, env⟩
  let clamp ← match req.get? "clamp" with
    | none | some .null => pure []
    | some (.array items) => do
      let candidates ← items.mapM readFloat
      pure [("clamp", .array (p.models.map (fun m =>
        .array [.string m.name, .array (candidates.map (fun x =>
          Json.single (m.clampTemperature (Float.toSingle x))))])))]
    | some _ => .error (.malformed "field 'clamp' must be a list")
  let apiKeys := if (← boolField req "api_keys" false) then
      [("api_keys", .array (p.backends.map (fun b =>
        .array [.string b.name, match b.apiKey env with
          | .ok key => .object [("ok", .string key)]
          | .error e => (ApiKeyError.failure e).toJson])))]
    else []
  let timeouts := if (← boolField req "backend_timeouts" false) then
      [("backend_timeouts", .array (p.backends.map (fun b =>
        .array [.string b.name, Json.natOption (unsignedSetting? b.settings "timeout_secs")])))]
    else []
  let providersOnly := if (← boolField req "providers_only" false) then
      [("providers_only", p.toJson)]
    else []
  let resolved ← match req.get? "resolve" with
    | none | some .null => pure []
    | some (.array items) => pure [("resolve", .array (items.map (fun item =>
        match resolver.resolve item with
        | .ok m => builtModel m
        | .error e => (ModelError.failure e).toJson)))]
    | some _ => .error (.malformed "field 'resolve' must be a list")
  let profiles ← match req.get? "build_profiles" with
    | none | some .null => pure []
    | some _ => do
      let names ← stringsField req "build_profiles"
      pure [("build_profiles", .array (names.map (fun n => buildAnswer (resolver.buildProfile n))))]
  let fallback := if (← boolField req "build_default" false) then
      [("build_default", buildAnswer resolver.buildDefault)]
    else []
  let settings ← match req.get? "profile_config" with
    | none | some .null => pure []
    | some _ => do
      let key ← stringField req "profile_config"
      pure [("profile_config", .array (p.models.map (fun m =>
        .array [.string m.name, (m.settings.get? key).getD .null])))]
  pure (clamp ++ apiKeys ++ timeouts ++ providersOnly ++ resolved ++ profiles ++ fallback ++
    settings)

/-- Loads a configuration from the request's YAML and reports it. -/
def loadConfiguration (env : Environment) (req : Json) : Outcome Json := do
  if (← boolField req "missing_file" false) then
    .error (ConfigError.failure (.io "No such file or directory (os error 2)"))
  else
    let text ← stringField req "yaml"
    match Configuration.ofYaml text with
    | .error e => .error (ConfigError.failure e)
    | .ok c => .ok (.object ([("config", c.toJson)] ++ (← configExtras env req c)))

/-- The configuration of the single model of a table. -/
def soleModelConfig (model : LanguageModel) (i : Nat) : Json :=
  if i == 0 then model.config else .null

/-- Rebuilds a generator, a chain of thought or the optimizer from its configuration, with
models resolved against the request's providers table, and reports it. -/
def moduleFromConfig (env : Environment) (req : Json) : Outcome Json := do
  let kind ← stringField req "kind"
  let config := (req.get? "config").getD .null
  let providers ← liftDecode (Decode.providers ((req.get? "providers").getD .null))
  let resolver : Resolver := ⟨providers, env⟩
  let resolve (c : Json) : Except ModelError LanguageModel := (resolver.resolve c).map .http
  if kind == "generator" then
    match Generator.ofConfig resolve 0 config with
    | .error e => .error (NodeError.failure e)
    | .ok (g, m) =>
      .ok (.object [("name", .string g.name), ("output_schema", dumpSchema g.outputSchema),
        ("default_instructions", Json.ofStrings g.instructions),
        ("config", (Node.generator g).config (soleModelConfig m))])
  else if kind == "cot" then
    match ChainOfThought.ofConfig resolve 0 config with
    | .error e => .error (NodeError.failure e)
    | .ok (c, m) =>
      .ok (.object [("name", .string c.name), ("k", Json.nat c.k),
        ("generator", .string c.generator.name),
        ("output_schema", dumpSchema (Node.chain c).outputSchema),
        ("config", (Node.chain c).config (soleModelConfig m))])
  else if kind == "opro" then
    match Optimizer.ofConfig resolve 0 config with
    | .error e => .error (BuildError.failure e)
    | .ok (o, m) =>
      .ok (.object [("name", .string o.name), ("k_best", Json.nat o.kBest),
        ("config", o.config (fun i => match m with
          | some model => soleModelConfig model i
          | none => .null))])
  else .error (.malformed ("unknown kind '" ++ kind ++ "'"))

end Request
end PromptTrainer
