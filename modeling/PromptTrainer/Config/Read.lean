import PromptTrainer.Config.Basic
import PromptTrainer.Yaml.Read
/-!
# Reading a configuration from YAML

A configuration is read from a YAML text holding at most one document, section by section,
with the readers of `Yaml.Read`: each section is a mapping (or the empty scalar, which
leaves every field at its default), unknown keys are skipped and a key given twice is
refused.  Texts take any scalar, counts and flags their plain spellings, optional fields
are absent when null, and the `config` settings of backends and model profiles take any
value as JSON.  No document at all is the default configuration.

A text that is not YAML, or a value of the wrong kind, is a parse error; a configuration
that reads but breaks a rule is invalid.
-/

namespace PromptTrainer
namespace Configuration

open Yaml

/-- The bound on nested alias and value reads; collections nest at most 128 deep, so it is
never reached first. -/
def readingFuel : Nat := 1024

/-- The largest unsigned 32-bit integer. -/
def u32Max : Nat := 4294967295

/-- The largest unsigned 64-bit integer. -/
def u64Max : Nat := 18446744073709551615

section
variable (d : Document)

/-- A text field's reader. -/
def readText (n : Yaml.Node) : Reading String := d.text readingFuel n

/-- An optional text field's reader. -/
def readOptionalText (n : Yaml.Node) : Reading (Option String) :=
  d.optional (d.text readingFuel) readingFuel n

/-- A count field's reader, for counts up to a bound. -/
def readCount (bound : Nat) (n : Yaml.Node) : Reading Nat := d.natural bound readingFuel n

/-- An optional single-precision number field's reader. -/
def readOptionalSingle (n : Yaml.Node) : Reading (Option Float32) :=
  d.optional (fun n => Float.toSingle <$> d.double readingFuel n) readingFuel n

/-- The fields of a section. -/
def sectionFields (names : List String) (depth : Nat) (n : Yaml.Node) :
    Reading (List (String × Yaml.Node) × Nat) :=
  d.fields names readingFuel depth n

/-- Reads a backend. -/
def readBackend (depth : Nat) (n : Yaml.Node) : Reading Backend := do
  let (fs, depth) ← sectionFields d ["name", "kind", "endpoint", "api_key_env", "config"] depth n
  pure {
    name := ← requiredField fs "name" (readText d)
    kind := ← requiredField fs "kind" (readText d)
    endpoint := ← field fs "endpoint" (readOptionalText d) none
    apiKeyEnv := ← field fs "api_key_env" (readOptionalText d) none
    settings := ← field fs "config" (d.json readingFuel depth) .null }

/-- Reads a model policy. -/
def readPolicy (depth : Nat) (n : Yaml.Node) : Reading ModelPolicy := do
  let (fs, _) ← sectionFields d ["temperature_min", "temperature_max"] depth n
  pure {
    temperatureMin := ← field fs "temperature_min" (readOptionalSingle d) none
    temperatureMax := ← field fs "temperature_max" (readOptionalSingle d) none }

/-- Reads a model profile. -/
def readProfile (depth : Nat) (n : Yaml.Node) : Reading ModelProfile := do
  let (fs, depth) ← sectionFields d
    ["name", "backend", "model", "temperature", "max_tokens", "policy", "config"] depth n
  pure {
    name := ← requiredField fs "name" (readText d)
    backend := ← field fs "backend" (readOptionalText d) none
    model := ← requiredField fs "model" (readText d)
    temperature := ← field fs "temperature" (readOptionalSingle d) none
    maxTokens := ← field fs "max_tokens" (d.optional (readCount d u32Max) readingFuel) none
    policy := ← field fs "policy" (readPolicy d depth) {}
    settings := ← field fs "config" (d.json readingFuel depth) .null }

/-- Reads a providers table. -/
def readProviders (depth : Nat) (n : Yaml.Node) : Reading Providers := do
  let (fs, depth) ← sectionFields d ["default_backend", "default_model", "backends", "models"] depth n
  pure {
    defaultBackend := ← field fs "default_backend" (readOptionalText d) none
    defaultModel := ← field fs "default_model" (readOptionalText d) none
    backends := ← field fs "backends" (d.list (readBackend d) readingFuel depth) []
    models := ← field fs "models" (d.list (readProfile d) readingFuel depth) [] }

/-- Reads the application section. -/
def readApp (depth : Nat) (n : Yaml.Node) : Reading AppSection := do
  let (fs, _) ← sectionFields d ["name", "environment"] depth n
  pure {
    name := ← field fs "name" (readText d) "tessera"
    environment := ← field fs "environment" (readText d) "development" }

/-- Reads the optimizer section. -/
def readOptimizer (depth : Nat) (n : Yaml.Node) : Reading OptimizerSection := do
  let (fs, depth) ← sectionFields d ["kind", "k_best", "model", "name", "meta_instructions"] depth n
  let instructions := d.list (fun _ n => readText d n) readingFuel depth
  pure {
    kind := ← field fs "kind" (readText d) "opro"
    kBest := ← field fs "k_best" (readCount d u64Max) 10
    model := ← field fs "model" (readOptionalText d) none
    name := ← field fs "name" (readOptionalText d) none
    metaInstructions := ← field fs "meta_instructions" (d.optional instructions readingFuel) none }

/-- Reads the training section. -/
def readTraining (depth : Nat) (n : Yaml.Node) : Reading TrainingSection := do
  let (fs, _) ← sectionFields d ["epochs", "generation_timeout_secs", "finalize_on_epoch_end"] depth n
  pure {
    epochs := ← field fs "epochs" (readCount d u64Max) 1
    generationTimeoutSecs := ← field fs "generation_timeout_secs" (readCount d u64Max) 60
    finalizeOnEpochEnd := ← field fs "finalize_on_epoch_end" (d.flag readingFuel) true }

/-- Reads the variable store section. -/
def readStore (depth : Nat) (n : Yaml.Node) : Reading StoreSection := do
  let (fs, _) ← sectionFields d ["backend", "max_variables", "snapshot_path"] depth n
  pure {
    backend := ← field fs "backend" (readText d) "in_memory"
    maxVariables := ← field fs "max_variables" (readCount d u64Max) 1024
    snapshotPath := ← field fs "snapshot_path" (readOptionalText d) none }

/-- Reads the stores section: its variable store. -/
def readStores (depth : Nat) (n : Yaml.Node) : Reading StoreSection := do
  let (fs, depth) ← sectionFields d ["variables"] depth n
  field fs "variables" (readStore d depth) {}

/-- Reads the observability section. -/
def readObservability (depth : Nat) (n : Yaml.Node) : Reading ObservabilitySection := do
  let (fs, _) ← sectionFields d ["log_level", "traces_enabled", "log_file"] depth n
  pure {
    logLevel := ← field fs "log_level" (readText d) "info"
    tracesEnabled := ← field fs "traces_enabled" (d.flag readingFuel) false
    logFile := ← field fs "log_file" (readOptionalText d) none }

/-- Reads a whole configuration from its root node. -/
def readRoot (n : Yaml.Node) : Reading Configuration := do
  let (fs, depth) ← sectionFields d
    ["version", "app", "providers", "optimizer", "training", "stores", "observability"] 128 n
  pure {
    version := ← field fs "version" (readCount d u32Max) 1
    app := ← field fs "app" (readApp d depth) {}
    providers := ← field fs "providers" (readProviders d depth) {}
    optimizer := ← field fs "optimizer" (readOptimizer d depth) {}
    training := ← field fs "training" (readTraining d depth) {}
    variableStore := ← field fs "stores" (readStores d depth) {}
    observability := ← field fs "observability" (readObservability d depth) {} }

end

/-- Reads a configuration from a document: no document is the default one. -/
def readDocument (d : Document) : Except YamlError Configuration :=
  match d.root with
  | none => .ok {}
  | some n => (readRoot d n).run' 0

/-- Reads and checks a configuration from YAML text. -/
def ofYaml (text : String) : Except ConfigError Configuration :=
  match Yaml.load text >>= readDocument with
  | .error _ => .error .parse
  | .ok c =>
    match c.check with
    | some m => .error (.invalid m)
    | none => .ok c

end Configuration
end PromptTrainer
