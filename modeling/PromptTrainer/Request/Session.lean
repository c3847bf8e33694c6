import PromptTrainer.Request.Chat
/-!
# Sessions

A session sets up a workbench (a store, an optimizer with its model, trainer settings and
hooks) and runs scripted steps on it, one after another.  Each step answers its result, its
failure, or `{"blocked": true}` when it waits for a lock the session holds; in every case
the answer also shows the store after the step (`state`, variables without their instant),
the requests each scripted model was asked during the step (`lm_requests`, by model in
creation order, when there are some), the hook calls recorded during the step (`hooks`, when
there are some) and the requests the chat server received during the step (`http_requests`,
when there are some).  A step's work done before its end stays done.
-/

namespace PromptTrainer
namespace Request

/-- A variable's JSON form without its instant. -/
def shownVariable (v : Variable) : Json :=
  match v.toJson with
  | .object members => .object (members.filter (fun m => m.1 != "updated_at"))
  | other => other

/-- The store's variables in key order, without their instants. -/
def storeState (s : VariableStore) : Json := .array (s.entries.map shownVariable)

/-- A generation request as shown in answers. -/
def requestJson (model : String) (r : GenerationRequest) : Json :=
  .object [("lm", .string model), ("input_fields", Json.ofStrings r.input.schema.names),
    ("input", .object r.input.data), ("output_schema", dumpSchema r.outputSchema),
    ("instructions", Json.ofStrings r.instructions),
    ("examples", .array (r.examples.map Prediction.toJson)),
    ("prompt_template", Json.ofStringOption r.promptTemplate),
    ("system_prompt", Json.ofStringOption r.systemPrompt)]

/-- The requests models were asked between two workbenches, by model in creation order. -/
def newRequests (before after : Workbench) : List Json :=
  (List.range after.models.length).flatMap (fun i =>
    match after.models[i]?.bind LanguageModel.scripted? with
    | none => []
    | some m =>
      let seen := match before.models[i]?.bind LanguageModel.scripted? with
        | some earlier => earlier.requests.length
        | none => 0
      (m.requests.drop seen).map (requestJson m.name))

/-- The hook calls recorded between two workbenches. -/
def newEvents (before after : Workbench) : List Json :=
  (after.events.drop before.events.length).map HookEvent.toJson

/-- The answer of a step: its ending, the store after it, and what models and hooks were
told during it. -/
def sessionAnswer (ending : Except (Stop Failure) Json) (before after : Workbench) : Json :=
  let head : List (String × Json) := match ending with
    | .ok result => [("result", result)]
    | .error .blocked => [("blocked", .bool true)]
    | .error (.failed f) => f.members
    | .error (.aborted m) => (Failure.aborted m).members
  let requests := newRequests before after
  let events := newEvents before after
  let posted := newHttpRequests before after
  .object (head ++ [("state", storeState after.store)] ++
    (if requests.isEmpty then [] else [("lm_requests", .array requests)]) ++
    (if events.isEmpty then [] else [("hooks", .array events)]) ++
    (if posted.isEmpty then [] else [("http_requests", .array posted)]))

/-- A store action as a request action. -/
def storeWork {α : Type} (w : Work StoreError α) : Work Failure α := w.mapError StoreError.failure

/-- An optimization action as a request action. -/
def optimizationWork {α : Type} (w : Work OptimizationError α) : Work Failure α :=
  w.mapError OptimizationError.failure

/-- A training action as a request action. -/
def trainerWork {α : Type} (w : Work TrainerError α) : Work Failure α :=
  w.mapError TrainerError.failure

/-- A node action as a request action. -/
def nodeWork {α : Type} (w : Work NodeError α) : Work Failure α := w.mapError NodeError.failure

/-- Reads a partial update: each member present replaces that field. -/
def readUpdate (spec : Json) : Outcome VariableUpdate := do
  let predictions ← match spec.get? "predictions" with
    | none => .ok none
    | some v => (liftDecode (Decode.list Decode.prediction v)).map some
  let instructions ← match spec.get? "instructions" with
    | none => .ok none
    | some v => (liftDecode (Decode.option Decode.instructions v)).map some
  let candidates ← match spec.get? "instructions_candidates" with
    | none => .ok none
    | some v => (liftDecode (Decode.list Decode.instructions v)).map some
  let phase ← match spec.get? "phase" with
    | none => .ok none
    | some v => (liftDecode (Decode.phase v)).map some
  .ok { predictions := predictions, instructions := instructions, candidates := candidates,
        phase := phase }

/-- A prediction given by its parts, each optional: inputs, outputs and reward. -/
def readPredictionParts (spec : Json) : Outcome Prediction := do
  let part (name : String) : Outcome (List (String × Json)) :=
    match spec.get? name with
    | none | some .null => .ok []
    | some (.object members) => .ok members
    | some _ => .error (.malformed ("field '" ++ name ++ "' must be an object"))
  let reward ← match spec.get? "reward" with
    | none | some .null => .ok none
    | some v => some <$> readFloat v
  .ok { inputs := ← part "inputs", outputs := ← part "outputs", reward := reward }

/-- A lone variable's state after an edit: the variable, its unscored predictions, and
whether it is built. -/
def variableAnswer (v : Variable) : Json :=
  .object [("variable", shownVariable v), ("unscored", Json.nat v.unscoredCount),
    ("built", .bool v.phase.isBuilt)]

/-- Edits a lone variable: partial updates and touches, in order, each answered. -/
def editVariable (req : Json) : Outcome Json := do
  let key ← stringField req "key"
  let instructions ← match req.get? "instructions" with
    | none | some .null => .ok none
    | some v => (fun lines => some (Instructions.ofLines lines)) <$>
      liftDecode (Decode.list Decode.string v)
  let predictions ← match req.get? "predictions" with
    | none | some .null => .ok []
    | some _ => (← listField req "predictions").mapM readPredictionParts
  let edits ← listField req "updates"
  let start : Variable :=
    { key := key, predictions := predictions, instructions := instructions,
      updatedAt := Timestamp.epoch }
  let (answers, last) ← edits.foldlM (fun (acc, v) edit => do
      let v ← match edit with
        | .string "touch" => .ok (v.touch Timestamp.epoch)
        | spec => v.apply <$> readUpdate spec
      .ok (acc ++ [variableAnswer v], v)) (([] : List Json), start)
  .ok (.object [("final_unscored", Json.nat last.unscoredCount), ("steps", .array answers)])

/-- A variable given whole; a missing instant is the start of 1970. -/
def readVariable (spec : Json) : Outcome Variable :=
  let filled := match spec with
    | .object members =>
      if members.any (fun m => m.1 == "updated_at") then spec
      else .object (members ++ [("updated_at", .string "1970-01-01T00:00:00Z")])
    | other => other
  liftDecode (Decode.trainable filled)

/-- A reward source: `{"fixed": x}` or `{"schedule": [x...]}`. -/
def readRewardSource (spec : Json) : Outcome RewardSource :=
  match spec.get? "fixed", spec.get? "schedule" with
  | some x, _ => (readFloat x).map .fixed
  | none, some (.array xs) => (xs.mapM readFloat).map .schedule
  | _, _ => .error (.malformed "rewards needs 'fixed' or 'schedule'")

/-- A metric: `{"exact_match": field}` or `{"constant": x}`. -/
def readMetric (spec : Json) : Outcome Metric :=
  match spec.get? "exact_match", spec.get? "constant" with
  | some (.string f), _ => .ok (.exactMatch f)
  | _, some x => (readFloat x).map .constant
  | _, _ => .error (.malformed "metric needs 'exact_match' or 'constant'")

/-- A training example `{"input": record spec, "expected": data}`. -/
def readExample (spec : Json) : Outcome Example := do
  .ok ⟨← recordSpec (← field spec "input"), (spec.get? "expected").getD .null⟩

/-- The answer of a pass report. -/
def reportJson (r : OptimizeReport) : Json :=
  .object [("backpropagated", Json.nat r.backpropagated), ("regenerated", .bool r.regenerated),
    ("noop", .bool r.isNoop)]

/-- The run every session epoch belongs to. -/
def sessionRun : String := "run"

/-- A training history with, if asked, the last epoch and one key's outcome in it. -/
def historyAnswer (h : History) (key : Option String) : Json :=
  match key, h.toJson with
  | some k, .object members =>
    let last := h.last?
    .object (members ++ [("last_epoch", match last with
        | some e => e.toJson
        | none => .null),
      ("outcome", match last.bind (fun e => e.outcome? k) with
        | some o => o.toJson
        | none => .null)])
  | _, j => j

/-- The optimizer's name, `kBest` and configuration. -/
def optimizerAnswer : Work Failure Json := do
  let bench ← Work.bench
  let o := bench.optimizer
  return .object [("name", .string o.name), ("k_best", Json.nat o.kBest),
    ("config", o.config (modelConfigOf bench))]

/-- The session program, or the refusal of a step that needs one. -/
def needProgram (program : Option Node) : Work Failure Node :=
  match program with
  | some p => pure p
  | none => Work.fail (.malformed "no program")

/-- Steps on the store. -/
def storeStep (op : String) (spec : Json) : Work Failure (Option Json) := do
  if op == "register" then
    let key ← outcome (stringField spec "key")
    let initial ← match spec.get? "instructions" with
      | none | some .null => pure none
      | some v => do
        let lines ← outcome (liftDecode (Decode.list Decode.string v))
        pure (some (Instructions.ofLines lines))
    let (store, created) := (← Work.store).register key initial
    Work.setStore store
    return some (.object [("created", .bool created)])
  else if op == "append" then
    let key ← outcome (stringField spec "key")
    let p ← outcome (liftDecode (Decode.prediction (← outcome (field spec "prediction"))))
    let index ← storeWork (Work.locked key (fun s => s.appendPrediction key p))
    return some (.object [("index", Json.nat index)])
  else if op == "attach_reward" then
    let key ← outcome (stringField spec "key")
    let index ← outcome (natField spec "index")
    let r ← outcome (readFloat (← outcome (field spec "reward")))
    match VariableStore.rewardRefusal r with
    | some e => Work.fail (StoreError.failure e)
    | none =>
      storeWork (Work.locked key (fun s => s.attachReward key index r))
      return some .null
  else if op == "get" then
    let key ← outcome (stringField spec "key")
    return some (match ← Work.get? key with
      | some v => shownVariable v
      | none => .null)
  else if op == "set" then
    let key ← outcome (stringField spec "key")
    let update ← outcome (readUpdate (← outcome (field spec "update")))
    let v ← storeWork (Work.locked key (fun s => s.set key update))
    return some (shownVariable v)
  else if op == "replace" then
    let v ← outcome (readVariable (← outcome (field spec "variable")))
    Work.replace v
    return some .null
  else if op == "keys" then
    return some (Json.ofStrings (← Work.store).keys)
  else if op == "lock" then
    let key ← outcome (stringField spec "key")
    storeWork (Work.awaitLock key)
    Work.setStore ((← Work.store).lock key)
    return some (.object [("locked", .bool true)])
  else if op == "unlock" then
    let key ← outcome (stringField spec "key")
    let (store, released) := (← Work.store).unlock key
    Work.setStore store
    return some (.object [("released", Json.nat released)])
  else if op == "snapshot" then
    return some (.object [("variables", storeState (← Work.store))])
  else if op == "restore" then
    let document ← outcome (field spec "snapshot")
    let count ← storeWork (Work.change (fun s => s.decided (s.restore document)))
    return some (.object [("restored", Json.nat count)])
  else return none

/-- Steps on the optimizer and the trainer. -/
def trainingStep (trainer : TrainerConfig) (program : Option Node) (op : String) (spec : Json) :
    Work Failure (Option Json) := do
  if op == "build" then
    optimizationWork Optimizer.buildStored
    return some .null
  else if op == "optimize" then
    let key ← outcome (stringField spec "key")
    let r ← outcome (readFloat (← outcome (field spec "reward")))
    return some (reportJson (← optimizationWork (Optimizer.optimizeStored key r)))
  else if op == "finalize" then
    let key ← outcome (stringField spec "key")
    optimizationWork (Optimizer.finalizeStored key)
    return some .null
  else if op == "optimizer_config" then
    return some (← optimizerAnswer)
  else if op == "trainer_build" then
    trainerWork Trainer.build
    return some .null
  else if op == "fit" then
    let epochs ← outcome (natField spec "epochs")
    let source ← outcome (readRewardSource (← outcome (field spec "rewards")))
    let key ← outcome (optString spec "outcome")
    let history ← trainerWork (Trainer.fit trainer sessionRun epochs source)
    return some (historyAnswer history key)
  else if op == "run_epoch" then
    let epoch ← outcome (natField spec "epoch")
    let r ← outcome (readFloat (← outcome (field spec "reward")))
    return some (← trainerWork (Trainer.runEpoch trainer sessionRun epoch r)).toJson
  else if op == "trainer_info" then
    return some (.object [("store_keys", Json.ofStrings (← Work.store).keys),
      ("optimizer", .string (← Work.optimizer).name)])
  else if op == "fire_hook" then
    let event ← outcome (stringField spec "event")
    let kind ← match HookKind.ofName? event with
      | some k => pure k
      | none => Work.fail (.malformed ("unknown hook event '" ++ event ++ "'"))
    let epoch ← outcome (natField spec "epoch")
    let phase := ((spec.get? "phase").bind Json.getString?).getD "manual"
    let key ← outcome (optString spec "variable")
    let message ← outcome (optString spec "message")
    let context : HookContext :=
      { run := sessionRun, epoch := epoch, key := key, phase := phase,
        message := message, metadata := (spec.get? "metadata").getD .null }
    Work.notify kind context
    return some .null
  else if op == "fit_program" then
    let p ← needProgram program
    let dataset ← outcome ((← outcome (listField spec "dataset")).mapM readExample)
    let epochs ← outcome (natField spec "epochs")
    let metric ← outcome (readMetric (← outcome (field spec "metric")))
    let history ← trainerWork (Trainer.fitProgram trainer sessionRun p dataset epochs metric)
    return some history.toJson
  else return none

/-- Steps a session adds to the common ones: none. -/
def noSteps (_op : String) (_spec : Json) : Work Failure (Option Json) := pure none

/-- One step; answers its result and the session program after it.  `extra` answers the
steps of the session's own, `none` for an op it does not know. -/
def sessionStep (trainer : TrainerConfig) (extra : String → Json → Work Failure (Option Json))
    (program : Option Node) (spec : Json) : Work Failure (Json × Option Node) := do
  let op ← outcome (stringField spec "op")
  if let some result ← storeStep op spec then return (result, program)
  if let some result ← trainingStep trainer program op spec then return (result, program)
  if let some result ← extra op spec then return (result, program)
  if op == "lm_calls" then
    let models := (← Work.bench).models
    let scripted := models.filterMap LanguageModel.scripted?
    return (.array (scripted.map (fun m => .array [.string m.name, Json.nat m.callCount])), program)
  else if op == "program" then
    let p ← node true (← outcome (field spec "program"))
    let bench ← Work.bench
    let answer := Json.object [("name", .string p.name),
      ("output_schema", dumpSchema p.outputSchema),
      ("trainable_variables", Json.ofStrings p.trainable),
      ("config", p.config (modelConfigOf bench))]
    return (answer, some p)
  else if op == "program_info" then
    match ← node false (← outcome (field spec "program")) with
    | .program name description input modules =>
      return (.object [("name", .string name), ("description", .string description),
        ("input_schema", dumpSchema input), ("modules", Json.ofStrings (modules.map Node.name))],
        program)
    | _ => Work.fail (.malformed "program_info needs a program")
  else if op == "call" then
    let p ← needProgram program
    let input ← outcome (recordSpec (← outcome (field spec "input")))
    let training ← outcome (boolField spec "training" false)
    let output ← nodeWork (Node.call training p input)
    return (dumpRecord output, program)
  else Work.fail (.malformed ("unknown step op '" ++ op ++ "'"))

/-- Runs steps in order, answering each; answers the workbench after the last. -/
def runSessionSteps (trainer : TrainerConfig) (extra : String → Json → Work Failure (Option Json)) :
    List Json → Workbench → Option Node → Outcome (List Json × Workbench)
  | [], bench, _ => .ok ([], bench)
  | spec :: rest, bench, program =>
    match sessionStep trainer extra program spec bench with
    | .error (.aborted m) _ => .error (.aborted m)
    | .ok (result, program') after => do
      let (answers, last) ← runSessionSteps trainer extra rest after program'
      .ok (sessionAnswer (.ok result) bench after :: answers, last)
    | .error stop after => do
      let (answers, last) ← runSessionSteps trainer extra rest after program
      .ok (sessionAnswer (.error stop) bench after :: answers, last)

/-- The optimizer a session asks for. -/
def setupOptimizer (spec : Json) : Work Failure Unit := do
  let base : Optimizer ← match spec.get? "program", spec.get? "http_lm", spec.get? "lm" with
    | some p, _, _ => do
      let n ← node true p
      pure { program := some n }
    | none, some (.object members), _ => do
      let m ← addModel (← httpModel (.object members))
      pure { model := some m }
    | none, _, none | none, _, some .null => pure {}
    | none, _, some lm => do
      let m ← addModel (.scripted (← outcome (readModel lm "meta")))
      pure { model := some m }
  let o := base
  let o ← match spec.get? "k_best" with
    | none | some .null => pure o
    | some _ => (fun k => o.withKBest k) <$> outcome (natField spec "k_best")
  let o ← (fun n => match n with
      | some name => { o with name := name }
      | none => o) <$> outcome (optString spec "name")
  let o ← (fun d => match d with
      | some text => { o with description := text }
      | none => o) <$> outcome (optString spec "description")
  let o ← match spec.get? "meta_instructions" with
    | none | some .null => pure o
    | some v => do
      let lines ← outcome (liftDecode (Decode.list Decode.string v))
      pure { o with metaInstructions := lines }
  Work.setOptimizer o

/-- The optimizer spec of a session that gives none. -/
def defaultOptimizerSpec : Json :=
  .object [("lm", .object [("fallback", .object [("instructions",
    Json.ofStrings ["new instructions"])])])]

/-- The trainer settings a session asks for. -/
def readTrainerConfig (spec : Json) : Outcome TrainerConfig := do
  let finalize ← boolField spec "finalize_on_epoch_end" true
  let timeout ← match spec.get? "timeout_secs" with
    | none | some .null => .ok 60
    | some _ => natField spec "timeout_secs"
  .ok { timeoutSecs := timeout, finalizeOnEpochEnd := finalize }

/-- The hooks a session registers: recording ones, or ones implementing nothing. -/
def readHooks (specs : List Json) : Outcome (List Hook) :=
  ((List.range specs.length).zip specs).mapM (fun (i, spec) => do
    let defaults ← boolField spec "defaults" false
    let fails ← boolField spec "fail" false
    .ok { id := i, records := !defaults, fails := fails })

/-- Runs a session in an environment. -/
def runSession (env : Environment) (req : Json) : Outcome Json := do
  let capacity ← match req.get? "max_variables" with
    | none | some .null => .ok VariableStore.defaultCapacity
    | some _ => natField req "max_variables"
  let trainer ← match req.get? "trainer" with
    | none | some .null => .ok {}
    | some spec => readTrainerConfig spec
  let hooks ← match req.get? "hooks" with
    | none | some .null => .ok []
    | some (.array specs) => readHooks specs
    | some _ => .error (.malformed "field 'hooks' must be a list")
  let steps ← listField req "steps"
  let server ← readServer req
  let start : Workbench :=
    { store := VariableStore.empty capacity Timestamp.epoch, hooks := hooks, server := server,
      environment := env }
  let optimizerSpec := (req.get? "optimizer").getD defaultOptimizerSpec
  match setupOptimizer optimizerSpec start with
  | .error (.failed f) _ => .error f
  | .error .blocked _ => .error (.malformed "session setup blocked")
  | .error (.aborted m) _ => .error (.aborted m)
  | .ok () bench => do
    let (answers, _) ← runSessionSteps trainer noSteps steps bench none
    .ok (.object [("steps", .array answers)])

end Request
end PromptTrainer
