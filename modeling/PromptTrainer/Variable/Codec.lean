import PromptTrainer.Variable.Basic
import PromptTrainer.Json.Decode
import PromptTrainer.Record.Basic
import PromptTrainer.Shapes
/-!
# Variables as JSON

The JSON form of predictions, instructions and variables, both ways.

* A prediction is `{"label", "inputs", "outputs", "reward"}`; an instruction set is
  `{"label", "instructions", "reward"}`; a reward that is absent or not finite is written
  `null`.
* A variable is `{"key", "predictions", "instructions", "instructions_candidates", "phase",
  "version", "updated_at"}`, the phase by its name and the instant as RFC 3339 text.

As records, a prediction is its JSON form checked against the prediction shape and an
instruction set against the instructions shape; reading a record back decodes its data.

Reading takes the same forms.  Labels default to `Prediction` and `Instructions`, rewards
to none; of a variable only `key` and `updated_at` must be present, the lists default to
empty, the instructions to none, the phase to `unbuilt` and the version to 0.  Refusals
follow `Decode`.
-/

namespace PromptTrainer

/-- A reward as JSON: a double, or null when absent or not finite. -/
def Reward.toJson : Option Float → Json
  | some r => if r.isFinite then Json.float r else .null
  | none => .null

/-- The JSON form of a prediction. -/
def Prediction.toJson (p : Prediction) : Json :=
  .object [("label", .string p.label), ("inputs", .object p.inputs),
    ("outputs", .object p.outputs), ("reward", Reward.toJson p.reward)]

/-- The JSON form of an instruction set. -/
def Instructions.toJson (i : Instructions) : Json :=
  .object [("label", .string i.label), ("instructions", Json.ofStrings i.lines),
    ("reward", Reward.toJson i.reward)]

/-- The JSON form of a variable. -/
def Variable.toJson (v : Variable) : Json :=
  .object [("key", .string v.key), ("predictions", .array (v.predictions.map Prediction.toJson)),
    ("instructions", match v.instructions with
      | some i => i.toJson
      | none => .null),
    ("instructions_candidates", .array (v.candidates.map Instructions.toJson)),
    ("phase", .string v.phase.name), ("version", Json.nat v.version.toNat),
    ("updated_at", .string v.updatedAt.text)]

namespace Decode

/-- An optional reward: null is none, any number is a reward. -/
def reward : Json → Result (Option Float) := option float

/-- A prediction read so far: the fields seen. -/
structure PredictionDraft where
  label : Option String := none
  inputs : Option (List (String × Json)) := none
  outputs : Option (List (String × Json)) := none
  reward : Option (Option Float) := none

/-- Reads a prediction. -/
def prediction : Json → Result Prediction :=
  record "Prediction" [("label", false), ("inputs", true), ("outputs", true), ("reward", false)]
    ({} : PredictionDraft)
    (fun d name v => match name with
      | "label" => return { d with label := some (← string v) }
      | "inputs" => return { d with inputs := some (← members v) }
      | "outputs" => return { d with outputs := some (← members v) }
      | _ => return { d with reward := some (← reward v) })
    (fun d => do
      let inputs ← required "inputs" d.inputs
      let outputs ← required "outputs" d.outputs
      .ok { label := d.label.getD "Prediction", inputs := inputs, outputs := outputs,
            reward := d.reward.getD none })

/-- An instruction set read so far: the fields seen. -/
structure InstructionsDraft where
  label : Option String := none
  lines : Option (List String) := none
  reward : Option (Option Float) := none

/-- Reads an instruction set. -/
def instructions : Json → Result Instructions :=
  record "Instructions" [("label", false), ("instructions", true), ("reward", false)]
    ({} : InstructionsDraft)
    (fun d name v => match name with
      | "label" => return { d with label := some (← string v) }
      | "instructions" => return { d with lines := some (← list string v) }
      | _ => return { d with reward := some (← reward v) })
    (fun d => do
      let lines ← required "instructions" d.lines
      .ok { label := d.label.getD "Instructions", lines := lines, reward := d.reward.getD none })

/-- Reads a phase by its name. -/
def phase (v : Json) : Result Phase := do
  let name ← variant Phase.names v
  match Phase.ofName? name with
  | some p => .ok p
  | none => .error (unknownVariant name Phase.names)

/-- Reads an instant from RFC 3339 text. -/
def timestamp : Json → Result Timestamp
  | .string s =>
    match Timestamp.ofText s with
    | .ok t => .ok t
    | .error e => .error e.message
  | v => .error (invalidType v "an RFC 3339 formatted date and time string")

/-- A variable read so far: the fields seen. -/
structure VariableDraft where
  key : Option String := none
  predictions : Option (List Prediction) := none
  instructions : Option (Option Instructions) := none
  candidates : Option (List Instructions) := none
  phase : Option Phase := none
  version : Option Nat := none
  updatedAt : Option Timestamp := none

/-- Reads a variable. -/
def trainable : Json → Result Variable :=
  record "TrainableVariable"
    [("key", true), ("predictions", false), ("instructions", false),
     ("instructions_candidates", false), ("phase", false), ("version", false),
     ("updated_at", true)]
    ({} : VariableDraft)
    (fun d name v => match name with
      | "key" => return { d with key := some (← string v) }
      | "predictions" => return { d with predictions := some (← list prediction v) }
      | "instructions" => return { d with instructions := some (← option instructions v) }
      | "instructions_candidates" => return { d with candidates := some (← list instructions v) }
      | "phase" => return { d with phase := some (← phase v) }
      | "version" => return { d with version := some (← unsigned v) }
      | _ => return { d with updatedAt := some (← timestamp v) })
    (fun d => do
      let key ← required "key" d.key
      let updatedAt ← required "updated_at" d.updatedAt
      .ok { key := key, predictions := d.predictions.getD [],
            instructions := d.instructions.getD none, candidates := d.candidates.getD [],
            phase := d.phase.getD .unbuilt, version := (d.version.getD 0).toUInt64,
            updatedAt := updatedAt })

end Decode

/-- Reads a record's data with a decoder; a refusal is a malformed record. -/
def Record.decodeWith {α : Type} (decode : Json → Decode.Result α) (r : Record) :
    Except RecordError α :=
  match decode (.object r.data) with
  | .ok a => .ok a
  | .error message => .error (.format message)

/-- A JSON form checked against a shape. -/
def Record.encodeWith (shape : Schema) (form : Json) : Except RecordError Record :=
  match Record.construct shape form with
  | .ok r => .ok r
  | .error violations => .error (.validation violations)

/-- The prediction as a record of the prediction shape. -/
def Prediction.toRecord (p : Prediction) : Except RecordError Record :=
  Record.encodeWith Shapes.prediction p.toJson

/-- The prediction a record holds. -/
def Prediction.ofRecord (r : Record) : Except RecordError Prediction :=
  r.decodeWith Decode.prediction

/-- The instruction set as a record of the instructions shape. -/
def Instructions.toRecord (i : Instructions) : Except RecordError Record :=
  Record.encodeWith Shapes.instructions i.toJson

/-- The instruction set a record holds. -/
def Instructions.ofRecord (r : Record) : Except RecordError Instructions :=
  r.decodeWith Decode.instructions

end PromptTrainer
