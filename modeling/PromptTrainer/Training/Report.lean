import PromptTrainer.Json.Basic
/-!
# Training reports

An epoch report lists, for each stored key in key order, what the epoch's pass did to the
variable: optimized (with the number of predictions scored), no-op, skipped (with the
reason) or failed (with the error).  A training history is the list of epoch reports.
-/

namespace PromptTrainer

/-- What an epoch did to one variable. -/
inductive VariableOutcome where
  | optimized (backpropagated : Nat)
  | noop
  | skipped (reason : String)
  | failed (error : String)

/-- One variable's line of an epoch report. -/
structure VariableReport where
  key : String
  outcome : VariableOutcome

/-- The report of one epoch. -/
structure EpochReport where
  epoch : Nat
  reward : Float
  reports : List VariableReport

/-- The reports of a training run, one per epoch. -/
structure History where
  epochs : List EpochReport

namespace VariableOutcome

/-- Whether the variable was optimized. -/
def isOptimized : VariableOutcome → Bool
  | .optimized _ => true
  | _ => false

/-- Whether the pass was a no-op. -/
def isNoop : VariableOutcome → Bool
  | .noop => true
  | _ => false

/-- Whether the variable was skipped. -/
def isSkipped : VariableOutcome → Bool
  | .skipped _ => true
  | _ => false

/-- Whether the pass failed. -/
def isFailed : VariableOutcome → Bool
  | .failed _ => true
  | _ => false

/-- The members of the JSON form: the status, then the detail of the case. -/
def members : VariableOutcome → List (String × Json)
  | .optimized n => [("status", .string "optimized"), ("backpropagated", Json.nat n)]
  | .noop => [("status", .string "no_op")]
  | .skipped reason => [("status", .string "skipped"), ("reason", .string reason)]
  | .failed error => [("status", .string "failed"), ("error", .string error)]

/-- The JSON form of an outcome. -/
def toJson (o : VariableOutcome) : Json := .object o.members

end VariableOutcome

namespace EpochReport

/-- The number of variables with an outcome of a kind. -/
def count (r : EpochReport) (kind : VariableOutcome → Bool) : Nat :=
  (r.reports.filter (fun v => kind v.outcome)).length

/-- The number of variables optimized. -/
def optimizedCount (r : EpochReport) : Nat := r.count VariableOutcome.isOptimized

/-- The number of no-op passes. -/
def noopCount (r : EpochReport) : Nat := r.count VariableOutcome.isNoop

/-- The number of variables skipped. -/
def skippedCount (r : EpochReport) : Nat := r.count VariableOutcome.isSkipped

/-- The number of failed passes. -/
def failedCount (r : EpochReport) : Nat := r.count VariableOutcome.isFailed

/-- The outcome of a key, if it is listed. -/
def outcome? (r : EpochReport) (key : String) : Option VariableOutcome :=
  (r.reports.find? (fun v => v.key == key)).map VariableReport.outcome

/-- The JSON form of a report, with the counts of each outcome. -/
def toJson (r : EpochReport) : Json :=
  .object [("epoch", Json.nat r.epoch), ("reward", Json.float r.reward),
    ("variables", .array (r.reports.map (fun v =>
      .object (("variable", .string v.key) :: v.outcome.members)))),
    ("counts", .object [("optimized", Json.nat r.optimizedCount),
      ("noop", Json.nat r.noopCount), ("skipped", Json.nat r.skippedCount),
      ("failed", Json.nat r.failedCount)])]

end EpochReport

namespace History

/-- The batch reward of each epoch. -/
def rewards (h : History) : List Float := h.epochs.map EpochReport.reward

/-- The number of variables optimized over all epochs. -/
def totalOptimized (h : History) : Nat := h.epochs.foldl (fun n e => n + e.optimizedCount) 0

/-- The last epoch's report. -/
def last? (h : History) : Option EpochReport := h.epochs.getLast?

/-- The JSON form of a history. -/
def toJson (h : History) : Json :=
  .object [("epochs", .array (h.epochs.map EpochReport.toJson)),
    ("rewards", .array (h.rewards.map Json.float)),
    ("total_optimized", Json.nat h.totalOptimized)]

end History

end PromptTrainer
