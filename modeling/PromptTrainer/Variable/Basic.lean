import PromptTrainer.Json.Basic
import PromptTrainer.Timestamp
/-!
# Trainable variables

A trainable variable is the optimization state kept under one key: the predictions a
generator recorded (inputs, outputs and, once scored, a reward), the instructions in force,
the candidate instructions tried so far with their rewards, a phase, a version that counts
committed writes, and the instant of the last write.

* A reward is valid when it is a finite number in `[0, 1]`.
* `Variable.apply` merges a partial update field by field; `Variable.touch` records a
  committed write (version plus one, wrapping at 2^64, and the time of the write).
* `Variable.beq` compares every field, rewards by their values as doubles (so a NaN never
  equals itself).
-/

namespace PromptTrainer

/-- Whether a reward is a finite number in `[0, 1]`. -/
def Reward.isValid (r : Float) : Bool := r.isFinite && 0.0 ≤ r && r ≤ 1.0

/-- Equality of optional rewards: both absent, or both present and equal as doubles. -/
def Reward.beq : Option Float → Option Float → Bool
  | some a, some b => a == b
  | none, none => true
  | _, _ => false

/-- A recorded generator execution: what went in, what came out, and the reward it earned,
once scored. -/
structure Prediction where
  label : String := "Prediction"
  inputs : List (String × Json)
  outputs : List (String × Json)
  reward : Option Float := none

/-- A set of instructions and the reward it earned, once scored. -/
structure Instructions where
  label : String := "Instructions"
  lines : List String
  reward : Option Float := none

/-- Where a variable is in its optimization. -/
inductive Phase where
  /-- Not yet prepared by an optimizer. -/
  | unbuilt
  /-- Prepared and waiting for a pass. -/
  | idle
  /-- A pass is running. -/
  | optimizing
  /-- Training is over; the candidates are dropped. -/
  | finalized
deriving BEq, DecidableEq, Repr

/-- The phase names, in declaration order. -/
def Phase.names : List String := ["unbuilt", "idle", "optimizing", "finalized"]

/-- The name of a phase. -/
def Phase.name : Phase → String
  | .unbuilt => "unbuilt"
  | .idle => "idle"
  | .optimizing => "optimizing"
  | .finalized => "finalized"

/-- The phase of a name. -/
def Phase.ofName? : String → Option Phase
  | "unbuilt" => some .unbuilt
  | "idle" => some .idle
  | "optimizing" => some .optimizing
  | "finalized" => some .finalized
  | _ => none

/-- Whether an optimizer has prepared the variable. -/
def Phase.isBuilt : Phase → Bool
  | .unbuilt => false
  | _ => true

/-- The optimization state under one key. -/
structure Variable where
  key : String
  predictions : List Prediction := []
  instructions : Option Instructions := none
  candidates : List Instructions := []
  phase : Phase := .unbuilt
  version : UInt64 := 0
  updatedAt : Timestamp

/-- A partial update of a variable: each present part replaces that field. -/
structure VariableUpdate where
  predictions : Option (List Prediction) := none
  instructions : Option (Option Instructions) := none
  candidates : Option (List Instructions) := none
  phase : Option Phase := none

namespace Prediction

/-- A prediction of inputs and outputs, not yet scored. -/
def ofParts (inputs outputs : List (String × Json)) : Prediction :=
  { inputs := inputs, outputs := outputs }

/-- Equality of every field; rewards as doubles. -/
def beq (a b : Prediction) : Bool :=
  a.label == b.label && (Json.object a.inputs).beq (.object b.inputs) &&
    (Json.object a.outputs).beq (.object b.outputs) && Reward.beq a.reward b.reward

end Prediction

namespace Instructions

/-- Unscored instructions. -/
def ofLines (lines : List String) : Instructions := { lines := lines }

/-- The instructions with a reward. -/
def withReward (i : Instructions) (r : Float) : Instructions := { i with reward := some r }

/-- Equality of every field; rewards as doubles. -/
def beq (a b : Instructions) : Bool :=
  a.label == b.label && a.lines == b.lines && Reward.beq a.reward b.reward

end Instructions

/-- Equality of two lists element by element. -/
def listBeq {α : Type} (eq : α → α → Bool) : List α → List α → Bool
  | [], [] => true
  | a :: as, b :: bs => eq a b && listBeq eq as bs
  | _, _ => false

namespace Variable

/-- A new variable under a key, unbuilt, at version 0. -/
def ofKey (key : String) (now : Timestamp) : Variable := { key := key, updatedAt := now }

/-- The number of predictions without a reward. -/
def unscoredCount (v : Variable) : Nat := (v.predictions.filter (fun p => p.reward.isNone)).length

/-- Merges a partial update field by field. -/
def apply (v : Variable) (u : VariableUpdate) : Variable :=
  { v with
    predictions := u.predictions.getD v.predictions
    instructions := u.instructions.getD v.instructions
    candidates := u.candidates.getD v.candidates
    phase := u.phase.getD v.phase }

/-- Records a committed write: the version goes up by one and the write is stamped. -/
def touch (v : Variable) (now : Timestamp) : Variable :=
  { v with version := v.version + 1, updatedAt := now }

/-- Equality of every field. -/
def beq (a b : Variable) : Bool :=
  a.key == b.key && listBeq Prediction.beq a.predictions b.predictions &&
    (match a.instructions, b.instructions with
     | some x, some y => x.beq y
     | none, none => true
     | _, _ => false) &&
    listBeq Instructions.beq a.candidates b.candidates && a.phase == b.phase &&
    a.version == b.version && a.updatedAt == b.updatedAt

end Variable

end PromptTrainer
