import PromptTrainer.Request.Session
import PromptTrainer.Request.Config
import PromptTrainer.Training.App
/-!
# Requests on training applications

A training application is assembled from a YAML configuration over a scratch directory
`@TMP@` holding the request's files, with the request's scripted model as the optimizer's
model or, without one, the model the configuration's providers build.  The answer reports
the assembled application, the result of persisting its store once right after startup,
and optionally its store, the answers of session steps run on it (with the steps
`persist` and `app_fit` of the application's own), and the files asked for, read last.

Steps need a scripted model, or a chat server for the providers' model to talk to.

Training from a configuration assembles the application with the providers' model, runs
the configured epochs and persists the store; its errors are reported as wrapped errors.
With a chat server, the requests it received are reported too.
-/

namespace PromptTrainer
namespace Request

/-- A bootstrap error as a failure. -/
def BootstrapError.failure (e : BootstrapError) : Failure :=
  let wrapped (case : String) (inner : Failure) : Failure :=
    inner.within ("BootstrapError::" ++ case) (some e.message)
  let plain (case : String) : Failure := ⟨"BootstrapError::" ++ case, some e.message, [], false⟩
  match e with
  | .config c => wrapped "Config" (ConfigError.failure c)
  | .lmBuild b => wrapped "LmBuild" (LmBuildError.failure b)
  | .missingModelProfile => plain "MissingModelProfile"
  | .store s => wrapped "Store" (StoreError.failure s)
  | .training t => wrapped "Training" (TrainerError.failure t)
  | .io _ _ => plain "Io"
  | .snapshot _ => plain "Snapshot"

/-- A bootstrap error as the failure of a function reporting errors of any kind. -/
def BootstrapError.wrappedFailure (e : BootstrapError) : Failure :=
  let f := BootstrapError.failure e
  { f with kind := "anyhow/" ++ f.kind }

/-- The path in the scratch directory of a request's relative path. -/
def scratchPath (relative : String) : String := "@TMP@/" ++ relative

/-- Writes a request's files into the scratch directory: text as it is, other JSON
serialized, parent directories made. -/
def writeFiles (req : Json) (tree : FileTree) : Outcome FileTree :=
  match req.get? "files" with
  | none | some .null => .ok tree
  | some (.object members) =>
    members.foldlM (fun t (relative, v) => do
      let path := scratchPath relative
      let body := match v with
        | .string text => text
        | other => Json.compact other
      let t ← match parentPath path with
        | some parent =>
          if parent.isEmpty then .ok t
          else (t.makeAll parent).mapError (fun e => Failure.malformed e.message)
        | none => .ok t
      (t.write path body).mapError (fun e => Failure.malformed e.message)) tree
  | some _ => .error (.malformed "field 'files' must be an object")

/-- A file's content as answered: JSON parsed, with the instants of a variable list
dropped; other text as it is; `null` for a file that cannot be read. -/
def fileAnswer (tree : FileTree) (path : String) : Json :=
  match tree.read path with
  | .error _ => .null
  | .ok body =>
    match Json.parse body with
    | .error _ => .string body
    | .ok (.object members) =>
      .object (members.map (fun (k, v) =>
        if k == "variables" then
          (k, match v with
            | .array items => .array (items.map (fun item => match item with
                | .object fields => .object (fields.filter (fun m => m.1 != "updated_at"))
                | other => other))
            | other => other)
        else (k, v)))
    | .ok other => other

/-- The files a request asks to read, answered in `files`. -/
def readFiles (req : Json) (tree : FileTree) : Outcome (List (String × Json)) :=
  match req.get? "read_files" with
  | none | some .null => .ok []
  | some _ => do
    let paths ← stringsField req "read_files"
    .ok [("files", .object (paths.map (fun p => (p, fileAnswer tree (scratchPath p)))))]

/-- A bootstrap action as a request action. -/
def bootstrapWork {α : Type} (w : Work BootstrapError α) : Work Failure α :=
  w.mapError BootstrapError.failure

/-- The answer of a persist: `"written"`, or `null` without a snapshot path. -/
def persistAnswer (written : Bool) : Json := if written then .string "written" else .null

/-- The steps of an application: `persist`, and `app_fit` with a reward source. -/
def appSteps (app : TrainingApp) (op : String) (spec : Json) : Work Failure (Option Json) := do
  if op == "persist" then
    return some (persistAnswer (← bootstrapWork (TrainingApp.persistWork app.snapshotPath)))
  else if op == "app_fit" then
    let source ← outcome (readRewardSource (← outcome (field spec "rewards")))
    let history ← bootstrapWork (TrainingApp.fitWork app.trainer app.epochs sessionRun source)
    return some history.toJson
  else return none

/-- The optimizer's model a request gives, or the one the configuration builds. -/
def appModel (env : Environment) (req : Json) (c : Configuration) : Outcome LanguageModel :=
  match req.get? "lm" with
  | none | some .null =>
    (TrainingApp.providerModel env c).mapError BootstrapError.failure
  | some spec => LanguageModel.scripted <$> readModel spec "meta"

/-- Assembles an application from a request and reports it. -/
def runApp (env : Environment) (req : Json) : Outcome Json := do
  let files ← writeFiles req {}
  let server ← readServer req
  let yaml ← stringField req "yaml"
  let hooks ← match req.get? "hooks" with
    | none | some .null => .ok []
    | some (.array specs) => readHooks specs
    | some _ => .error (.malformed "field 'hooks' must be a list")
  let c ← (Configuration.ofYaml yaml).mapError (fun e => BootstrapError.failure (.config e))
  let model ← appModel env req c
  let app ← (TrainingApp.assemble c model hooks files).mapError BootstrapError.failure
  let app := app.within server env
  let (persisted, bench) ← match TrainingApp.persistWork app.snapshotPath app.bench with
    | .ok written bench => .ok (persistAnswer written, bench)
    | .error (.failed e) bench => .ok ((BootstrapError.failure e).toJson, bench)
    | .error .blocked bench => .ok (.null, bench)
    | .error (.aborted m) _ => .error (.aborted m)
  let o := bench.optimizer
  let summary : List (String × Json) :=
    [("epochs", Json.nat app.epochs), ("optimizer_name", .string o.name),
     ("k_best", Json.nat o.kBest), ("optimizer_config", o.config (modelConfigOf bench)),
     ("keys", Json.ofStrings bench.store.keys), ("persist", persisted)]
  let shown := if (← boolField req "snapshot_path_shown" false) then
      [("snapshot_path", Json.ofStringOption app.snapshotPath),
       ("state", storeState bench.store)]
    else []
  let (steps, bench) ← match req.get? "steps" with
    | none | some .null => .ok ([], bench)
    | some _ => do
      let specs ← listField req "steps"
      let scripted := match req.get? "lm" with
        | none | some .null => false
        | some _ => true
      if !scripted && server.isNone then
        .error (.malformed "steps need a scripted language model or http_responses")
      else
        let (answers, last) ← runSessionSteps app.trainer (appSteps app) specs bench none
        .ok ([("steps", .array answers)], last)
  let read ← readFiles req bench.files
  .ok (.object (summary ++ shown ++ steps ++ read))

/-- Trains from a configuration: assembles the application with the providers' model, runs
the configured epochs and persists the store. -/
def trainFromConfig (env : Environment) (req : Json) : Outcome Json := do
  let files ← writeFiles req {}
  let server ← readServer req
  let yaml ← stringField req "yaml"
  let source ← readRewardSource (← field req "rewards")
  let c ← (Configuration.ofYaml yaml).mapError
    (fun e => BootstrapError.wrappedFailure (.config e))
  let model ← (TrainingApp.providerModel env c).mapError BootstrapError.wrappedFailure
  let app ← (TrainingApp.assemble c model [] files).mapError BootstrapError.wrappedFailure
  let app := app.within server env
  let training : Work BootstrapError History := do
    let history ← TrainingApp.fitWork app.trainer app.epochs sessionRun source
    let _ ← TrainingApp.persistWork app.snapshotPath
    pure history
  match training app.bench with
  | .ok history bench =>
    let posted := match bench.server with
      | some s => [("http_requests", .array s.received)]
      | none => []
    .ok (.object ([("history", history.toJson)] ++ posted ++ (← readFiles req bench.files)))
  | .error (.failed e) _ => .error (BootstrapError.wrappedFailure e)
  | .error .blocked _ => .error (.malformed "training blocked")
  | .error (.aborted m) _ => .error (.aborted m)

end Request
end PromptTrainer
