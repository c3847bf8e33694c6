import PromptTrainer.Pipeline.Run
/-!
# Optimization passes

`Optimizer.pass` runs one pass on a variable and answers its outcome with the variable as
the pass left it, also when it failed: checks first (reward, phase, generation program),
which leave the variable as it was; then backpropagation, the candidate stamp, and the call
of the generation program.  Ranking the pool panics when its rewards are not totally ordered
(a NaN among numbers): the pass then aborts before the call, and nothing is committed.

On a stored variable the pass runs under the key's lock:

* `optimizeStored` commits the variable after a pass that generated, after a no-op that
  changed it (a finalized variable going back to idle), and after a failure of generation
  (the rewards given and the candidate stamped are kept); other failures commit nothing;
* `buildStored` builds the generation program and marks every stored variable built,
  committing each;
* `finalizeStored` ends the epoch of one variable: its candidates are dropped and, if built,
  it is finalized.
-/

namespace PromptTrainer
namespace Optimizer

/-- The outcome of a pass and the variable after it. -/
abbrev PassResult := Except OptimizationError OptimizeReport × Variable

/-- The generation step of a pass on a backpropagated, stamped variable: it panics when the
ranking of the pool does. -/
def regenerate (o : Optimizer) (program : Node) (v : Variable) (scored : Nat) :
    Work OptimizationError PassResult := do
  match o.pool v with
  | none => Work.abort Ranking.orderViolation
  | some pooled =>
    let outcome ← match pooled with
      | .error e => pure (.error e)
      | .ok input => do
        let result ← (Node.call false program input).attempt
        pure (result.mapError OptimizationError.ofNode)
    let v := { v with phase := .idle }
    match outcome with
    | .error e => return (.error e, v)
    | .ok output =>
      match generated output with
      | .error e => return (.error e, v)
      | .ok lines =>
        return (.ok ⟨scored, true⟩, { v with instructions := some (Instructions.ofLines lines) })

/-- One pass with a batch reward on a variable. -/
def pass (v : Variable) (r : Float) : Work OptimizationError PassResult := do
  match precheck v r with
  | .error e => return (.error e, v)
  | .ok () =>
    match (← Work.optimizer).ensureProgram with
    | .error e => return (.error (.build e), v)
    | .ok (program, o) =>
      Work.setOptimizer o
      let (scoredVariable, scored) := backpropagate v r
      if scored == 0 then return (.ok {}, { scoredVariable with phase := .idle })
      regenerate o program (stampCandidate scoredVariable r) scored

/-- The stored variable under a key, or the store's refusal. -/
def stored (key : String) : Work OptimizationError Variable := do
  match ← Work.get? key with
  | some v => return v
  | none => Work.fail (.store (.notFound key))

/-- The part of a pass on a stored variable made before its commit, the key's lock held:
the variable is read and the pass runs on a copy. -/
def passStored (key : String) (r : Float) : Work OptimizationError (Variable × PassResult) := do
  let before ← stored key
  return (before, ← pass before r)

/-- The commit of a pass on the copy of `before`: a pass that generated, a no-op that changed
the variable and a failure of generation are committed; the pass's outcome is answered. -/
def commitPass (before : Variable) : PassResult → Work OptimizationError OptimizeReport
  | (.ok report, after) => do
    if !report.isNoop || !after.beq before then Work.replace after
    return report
  | (.error e, after) => do
    if e.isPartial then Work.replace after
    Work.fail e

/-- A pass on the stored variable under a key, under its lock. -/
def optimizeStored (key : String) (r : Float) : Work OptimizationError OptimizeReport := do
  (Work.awaitLock key).mapError .store
  let (before, result) ← passStored key r
  commitPass before result

/-- Reads the variable under a key for a build, after those read so far; waits while the
key's lock is held, and skips a missing key. -/
def collectForBuild (acc : List Variable) (key : String) :
    Work OptimizationError (List Variable) := do
  match (← Work.store).lockState key with
  | .missing => pure acc
  | .held => Work.block
  | .free =>
    match ← Work.get? key with
    | some v => pure (acc ++ [v])
    | none => pure acc

/-- Builds the generation program and marks every stored variable built. -/
def buildStored : Work OptimizationError Unit := do
  let keys := (← Work.store).keys
  let collected ← keys.foldlM collectForBuild []
  match (← Work.optimizer).ensureProgram with
  | .error e => Work.fail (.build e)
  | .ok (_, o) =>
    Work.setOptimizer o
    collected.forM (fun v => Work.replace (markBuilt v))

/-- Ends the epoch of the stored variable under a key, the key's lock held. -/
def finalizeHeld (key : String) : Work OptimizationError Unit := do
  Work.replace (finalize (← stored key))

/-- Ends the epoch of the stored variable under a key, under its lock. -/
def finalizeStored (key : String) : Work OptimizationError Unit := do
  (Work.awaitLock key).mapError .store
  finalizeHeld key

end Optimizer
end PromptTrainer
