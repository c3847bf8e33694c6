import PromptTrainer.Pipeline.Node
import PromptTrainer.Ranking
/-!
# Instruction optimization by prompting

The optimizer improves a variable's instructions from the rewards its predictions earned.
A pass with a batch reward `r` on a built variable:

1. gives `r` to every prediction without a reward (backpropagation); if there was none, the
   variable goes back to idle and the pass is a no-op;
2. stamps the instructions in force with `r` and adds them to the candidates;
3. asks a generation program for new instructions, showing it the best candidates and the
   best predictions (at most `kBest` of each, by reward);
4. puts the generated instructions in force.

The generation program is built once, on first need, from the optimizer's language model: a
program `{name}_program` over the optimization input with one generator `{name}_generator`
whose instructions are the meta-instructions and whose output is an instruction list.  A
program may also be supplied instead.

This module holds the optimizer's settings, its errors, and the steps of a pass that need no
language model; the pass itself is in `Optimizer.Pass`.
-/

namespace PromptTrainer

/-- Why the generation program could not be built. -/
inductive BuildError where
  /-- Neither a language model nor a program was given. -/
  | missingModel
  | schema (error : SchemaError)
  | model (error : ModelError)
  /-- The optimizer's configuration could not be read. -/
  | config (message : String)

/-- The wording of a build error. -/
def BuildError.message : BuildError → String
  | .missingModel => "no language model configured and no program supplied"
  | .schema e => e.message
  | .model e => "language model error: " ++ e.message
  | .config m => "invalid optimizer config: " ++ m

/-- Why an optimization pass failed. -/
inductive OptimizationError where
  /-- The batch reward is not a finite number in `[0, 1]`. -/
  | invalidReward (reward : Float)
  /-- The variable was never built. -/
  | notBuilt (key : String)
  /-- Generation failed. -/
  | generation (message : String)
  /-- Generation answered something other than an instruction list. -/
  | malformedOutput (message : String)
  | record (error : RecordError)
  | build (error : BuildError)
  | store (error : StoreError)

namespace OptimizationError

/-- The wording of an optimization error. -/
def message : OptimizationError → String
  | .invalidReward r => "reward must be a finite value in [0, 1], got " ++ Decimal.plainText r
  | .notBuilt key => "variable '" ++ key ++ "' has not been built"
  | .generation m => "generation failed: " ++ m
  | .malformedOutput m => "generation returned malformed output: " ++ m
  | .record e => e.message
  | .build e => "build error: " ++ e.message
  | .store e => "store error: " ++ e.message

/-- Whether the error came after the pass changed the variable (rewards given, candidates
stamped), so that the change is kept. -/
def isPartial : OptimizationError → Bool
  | .generation _ | .malformedOutput _ => true
  | _ => false

/-- The optimization error of a failed generation program: a malformed answer or record
is malformed output, anything else a failed generation. -/
def ofNode : NodeError → OptimizationError
  | .model (.malformed m) => .malformedOutput m
  | .record e => .malformedOutput e.message
  | other => .generation other.message

end OptimizationError

/-- What a pass did: the predictions it scored and whether it generated instructions. -/
structure OptimizeReport where
  backpropagated : Nat := 0
  regenerated : Bool := false
deriving BEq, Repr

/-- A pass that scored nothing is a no-op. -/
def OptimizeReport.isNoop (r : OptimizeReport) : Bool := r.backpropagated == 0

/-- The meta-instructions given to the generator of new instructions by default. -/
def defaultMetaInstructions : List String :=
  ["Your task is to generate instructions that maximize rewards.",
   "The reward ranges from 0.0 to 1.0",
   "Below are some previous instructions candidates with their rewards.",
   "Generate instructions that are different from all the candidates instructions.",
   "The instructions should be concise, effective and generally applicable to all predictions below."]

/-- The settings of the optimizer and its generation program, once built or supplied. -/
structure Optimizer where
  name : String := "opro"
  description : String := "Optimization by PROmpting"
  /-- How many of the best candidates and predictions generation is shown; at least one. -/
  kBest : Nat := 10
  /-- The position of the language model in the model table, if any. -/
  model : Option Nat := none
  metaInstructions : List String := defaultMetaInstructions
  /-- The generation program, once built or supplied. -/
  program : Option Node := none

namespace Optimizer

/-- The optimizer with `max k 1` as `kBest`. -/
def withKBest (o : Optimizer) (k : Nat) : Optimizer := { o with kBest := max k 1 }

/-- The generator of the generation program: it asks a language model for an instruction
list, with the meta-instructions as its instructions. -/
def generatorFor (o : Optimizer) (model : Nat) : Generator :=
  { name := o.name ++ "_generator", outputSchema := Shapes.optimizationOutput,
    model := model, instructions := o.metaInstructions }

/-- The generation program built from a language model. -/
def programFor (o : Optimizer) (model : Nat) : Node :=
  .program (o.name ++ "_program") "Generate new instructions from rewarded history"
    Shapes.optimizationInput [.generator (o.generatorFor model)]

/-- The optimizer with its generation program, built if it was not yet. -/
def ensureProgram (o : Optimizer) : Except BuildError (Node × Optimizer) :=
  match o.program, o.model with
  | some p, _ => .ok (p, o)
  | none, some m => let p := o.programFor m; .ok (p, { o with program := some p })
  | none, none => .error .missingModel

/-- Marks a built variable: an unbuilt one becomes idle. -/
def markBuilt (v : Variable) : Variable :=
  if v.phase == .unbuilt then { v with phase := .idle } else v

/-- The checks before a pass: the reward is valid and the variable built. -/
def precheck (v : Variable) (r : Float) : Except OptimizationError Unit :=
  if !Reward.isValid r then .error (.invalidReward r)
  else if !v.phase.isBuilt then .error (.notBuilt v.key)
  else .ok ()

/-- Gives a reward to every prediction without one and marks the variable optimizing;
answers how many predictions were scored. -/
def backpropagate (v : Variable) (r : Float) : Variable × Nat :=
  let scored := v.predictions.map (fun p => if p.reward.isNone then { p with reward := some r } else p)
  ({ v with phase := .optimizing, predictions := scored }, v.unscoredCount)

/-- Adds the instructions in force, stamped with a reward, to the candidates. -/
def stampCandidate (v : Variable) (r : Float) : Variable :=
  match v.instructions with
  | some active => { v with candidates := v.candidates ++ [active.withReward r] }
  | none => v

/-- The record shown to generation: candidates and predictions in their JSON forms, checked
against the optimization input shape. -/
def poolValue (candidates : List Instructions) (predictions : List Prediction) :
    Except OptimizationError Record :=
  let data := Json.object [("instructions_candidates", .array (candidates.map Instructions.toJson)),
    ("predictions", .array (predictions.map Prediction.toJson))]
  match Record.construct Shapes.optimizationInput data with
  | .ok r => .ok r
  | .error violations =>
    .error (.generation ("generation input rejected: " ++ validationMessage violations))

/-- The input shown to generation: the record of the best `kBest` predictions and candidates
by reward; `none` when the ranking of either list panics, its rewards not being totally
ordered. -/
def pool (o : Optimizer) (v : Variable) : Option (Except OptimizationError Record) :=
  match Ranking.top Ranking.predictionWidth Prediction.reward o.kBest v.predictions,
      Ranking.top Ranking.instructionsWidth Instructions.reward o.kBest v.candidates with
  | some predictions, some candidates => some (poolValue candidates predictions)
  | _, _ => none

/-- The instructions in a generation answer. -/
def generated (output : Record) : Except OptimizationError (List String) :=
  match output.get? "instructions" with
  | none => .error (.malformedOutput "missing 'instructions'")
  | some v =>
    match Decode.list Decode.string v with
    | .ok lines => .ok lines
    | .error m => .error (.malformedOutput m)

/-- The end of a pass: the variable drops its candidates and, if built, is finalized. -/
def finalize (v : Variable) : Variable :=
  { v with candidates := [], phase := if v.phase.isBuilt then .finalized else v.phase }

/-- The configuration of the optimizer, given how to configure a model. -/
def config (o : Optimizer) (modelConfig : Nat → Json) : Json :=
  .object [("name", .string o.name), ("description", .string o.description),
    ("k_best", Json.nat o.kBest), ("meta_instructions", Json.ofStrings o.metaInstructions),
    ("language_model", match o.model with
      | some m => modelConfig m
      | none => .null),
    ("program", match o.program with
      | some p => p.config modelConfig
      | none => .null)]

end Optimizer

end PromptTrainer
