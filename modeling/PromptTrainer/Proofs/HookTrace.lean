import PromptTrainer.Training.Trainer
import PromptTrainer.Proofs.Work
/-!
# What the hooks are told during training

The hooks hear of training only through `Work.notify`.  Every other action training runs is
*quiet*: however it ends, it leaves the registered hooks and their records as they are
(`Work.Quiet`).  Passes, builds, the ends of epochs and the calls of a program are quiet, each
because its parts are.

An epoch that ends tells each recording hook, in registration order, that the epoch begins;
then how each variable's pass ended, one block of calls per line of the epoch's report (none for
a no-op), the passes that ended in key order and after them those that timed out, so the blocks
come in some order of the report; then that the epoch ends, with the report's counts
(`Trainer.EpochTrace`).  Main statement: a run of `fit` or `fitProgram` that ends leaves the
same hooks registered and adds to their records the trace of each epoch in turn, the epochs
numbered from 0 (`Trainer.hooks_follow_epochs`).
-/

namespace PromptTrainer

/-- The second workbench is the first with the hook calls `told` recorded after those it held,
and the same hooks registered. -/
def Workbench.Told (s s' : Workbench) (told : List HookEvent) : Prop :=
  s'.hooks = s.hooks ∧ s'.events = s.events ++ told

namespace Workbench

variable {s s₁ s₂ : Workbench} {calls calls' : List HookEvent}

@[simp] theorem told_nil_iff : s.Told s₁ [] ↔ s₁.hooks = s.hooks ∧ s₁.events = s.events := by
  simp [Told]

theorem Told.refl (s : Workbench) : s.Told s [] := told_nil_iff.mpr ⟨rfl, rfl⟩

theorem Told.trans (first : s.Told s₁ calls) (second : s₁.Told s₂ calls') :
    s.Told s₂ (calls ++ calls') :=
  ⟨second.1.trans first.1, by rw [second.2, first.2, List.append_assoc]⟩

/-- Telling every hook of an event records its calls. -/
theorem told_notify (kind : HookKind) (context : HookContext) {hooks : List Hook}
    (registered : s.hooks = hooks) :
    s.Told { s with events := s.events ++ Hook.notify s.hooks kind context }
      (Hook.notify hooks kind context) := by
  subst registered
  exact ⟨rfl, rfl⟩

/-- Consulting the language models tells the hooks nothing. -/
theorem Consulted.told (consulted : s.Consulted s₁) : s.Told s₁ [] :=
  told_nil_iff.mpr ⟨by rw [consulted], by rw [consulted]⟩

end Workbench

namespace Work

variable {ε δ α β : Type}

/-- An action is quiet when, however it ends, it leaves the hooks and their records as they
are. -/
def Quiet (w : Work ε α) : Prop := ∀ s : Workbench, s.Told (w.after s) []

theorem Quiet.told_of_ok {w : Work ε α} {s s' : Workbench} {a : α} (quiet : w.Quiet)
    (ran : w s = .ok a s') : s.Told s' [] :=
  after_of_ok ran ▸ quiet s

theorem after_bind (x : Work ε α) (f : α → Work ε β) (s : Workbench) :
    (x >>= f).after s = match x s with
      | .ok a s' => (f a).after s'
      | .error _ s' => s' := by
  cases ran : x s <;> simp [after, ran]

/-- An action that only consults the language models is quiet. -/
theorem Consults.quiet {w : Work ε α} (consults : w.Consults) : w.Quiet := by
  intro s
  obtain ⟨result, s', ran, consulted⟩ := consults s
  rw [after_of_ended ran]
  exact consulted.told

theorem quiet_pure (a : α) : (pure a : Work ε α).Quiet := (consults_pure a).quiet

theorem quiet_fail (e : ε) : (fail e : Work ε α).Quiet := (consults_fail e).quiet

theorem quiet_block : (block : Work ε α).Quiet := fun s => Workbench.Told.refl s

theorem quiet_abort (m : String) : (abort m : Work ε α).Quiet := fun s => Workbench.Told.refl s

theorem quiet_store : (store : Work ε VariableStore).Quiet := fun s => Workbench.Told.refl s

theorem quiet_optimizer : (optimizer : Work ε Optimizer).Quiet := fun s => Workbench.Told.refl s

theorem quiet_setOptimizer (o : Optimizer) : (setOptimizer o : Work ε Unit).Quiet :=
  fun _ => Workbench.told_nil_iff.mpr ⟨rfl, rfl⟩

theorem quiet_get? (key : String) : (get? key : Work ε (Option Variable)).Quiet :=
  (consults_get? key).quiet

theorem quiet_replace (v : Variable) : (replace v : Work ε Unit).Quiet :=
  fun _ => Workbench.told_nil_iff.mpr ⟨rfl, rfl⟩

theorem quiet_change (f : VariableStore → StoreResult α) : (change f).Quiet := fun s => by
  rw [after_change]
  exact Workbench.told_nil_iff.mpr ⟨rfl, rfl⟩

theorem quiet_generate (model : Nat) (request : GenerationRequest) :
    (generate model request).Quiet :=
  (consults_generate model request).quiet

theorem quiet_bind {x : Work ε α} {f : α → Work ε β} (first : x.Quiet)
    (rest : ∀ a, (f a).Quiet) : (x >>= f).Quiet := by
  intro s
  rw [after_bind]
  cases ran : x s with
  | ok a s₁ => exact (first.told_of_ok ran).trans (rest a s₁)
  | error e s₁ =>
    have told := first s
    rwa [after, ran] at told

/-! ### What is made of an ending leaves the workbench as the action left it -/

@[simp] theorem after_mapError (f : ε → δ) (w : Work ε α) (s : Workbench) :
    (w.mapError f).after s = w.after s := by
  unfold after
  rw [mapError_run]
  rcases w s with ⟨a, s'⟩ | ⟨_ | _, s'⟩ <;> rfl

@[simp] theorem after_attempt (w : Work ε α) (s : Workbench) :
    (w.attempt : Work δ (Except ε α)).after s = w.after s := by
  unfold after
  rw [attempt_run]
  rcases w s with ⟨a, s'⟩ | ⟨_ | _, s'⟩ <;> rfl

@[simp] theorem after_settle (w : Work ε α) (s : Workbench) :
    (w.settle : Work δ (Option (Except ε α))).after s = w.after s := by
  unfold after
  rw [settle_run]
  rcases w s with ⟨a, s'⟩ | ⟨_ | _, s'⟩ <;> rfl

theorem quiet_mapError (f : ε → δ) {w : Work ε α} (quiet : w.Quiet) : (w.mapError f).Quiet :=
  fun s => (after_mapError f w s).symm ▸ quiet s

theorem quiet_attempt {w : Work ε α} (quiet : w.Quiet) :
    (w.attempt : Work δ (Except ε α)).Quiet :=
  fun s => (after_attempt w s).symm ▸ quiet s

theorem quiet_settle {w : Work ε α} (quiet : w.Quiet) :
    (w.settle : Work δ (Option (Except ε α))).Quiet :=
  fun s => (after_settle w s).symm ▸ quiet s

theorem quiet_awaitLock (key : String) : (awaitLock key).Quiet :=
  quiet_bind quiet_store fun st => by
    split
    · exact quiet_fail _
    · exact quiet_block
    · exact quiet_pure _

theorem quiet_locked (key : String) (f : VariableStore → StoreResult α) :
    (locked key f).Quiet :=
  quiet_bind (quiet_awaitLock key) fun _ => quiet_change f

/-- A bound action that ended with a value ran its first part to a value. -/
theorem bind_eq_ok {x : Work ε α} {f : α → Work ε β} {s s' : Workbench} {b : β}
    (ran : (x >>= f) s = .ok b s') : ∃ a s₁, x s = .ok a s₁ ∧ f a s₁ = .ok b s' := by
  rw [bind_run] at ran
  cases first : x s with
  | ok a s₁ =>
    rw [first] at ran
    exact ⟨a, s₁, rfl, ran⟩
  | error e s₁ =>
    rw [first] at ran
    cases ran

/-! ### Loops of quiet actions -/

theorem quiet_forM {f : α → Work ε Unit} (each : ∀ a, (f a).Quiet) :
    ∀ l : List α, (l.forM f).Quiet
  | [] => quiet_pure ()
  | a :: rest => quiet_bind (each a) fun _ => quiet_forM each rest

theorem quiet_foldlM {f : β → α → Work ε β} (each : ∀ b a, (f b a).Quiet) :
    ∀ (l : List α) (init : β), (l.foldlM f init).Quiet
  | [], init => quiet_pure init
  | a :: rest, init => by
    rw [List.foldlM_cons]
    exact quiet_bind (each init a) fun b => quiet_foldlM each rest b

end Work

/-! ### Generation, passes and builds are quiet -/

open Work

/-- A generator call is quiet, also in training, where it records a prediction. -/
theorem Generator.quiet_call (g : Generator) (input : Record) (training : Bool) :
    (g.call input training).Quiet := by
  unfold Generator.call
  refine quiet_bind g.consults_activeInstructions.quiet fun instructions => ?_
  refine quiet_bind (quiet_mapError _ (quiet_generate _ _)) fun output => ?_
  dsimp only
  split
  all_goals try refine quiet_bind (quiet_mapError _ (quiet_locked _ _)) fun _ => ?_
  all_goals
    split
    · split
      · exact quiet_pure _
      · exact quiet_fail _
    · exact quiet_pure _

mutual

/-- Running a node is quiet, in or out of training. -/
theorem Node.quiet_call (training : Bool) : ∀ (n : Node) (input : Record),
    (Node.call training n input).Quiet
  | .generator g, input => by
    simpa only [Node.call] using g.quiet_call input training
  | .chain c, input => by
    simpa only [Node.call] using c.generator.quiet_call input training
  | .program name _ declared modules, input => by
    unfold Node.call
    split
    · exact quiet_fail _
    · exact Node.quiet_go training modules input

/-- Passing a record through nodes is quiet. -/
theorem Node.quiet_go (training : Bool) : ∀ (modules : List Node) (input : Record),
    (Node.call.go training modules input).Quiet
  | [], input => by
    simpa only [Node.call.go] using quiet_pure input
  | m :: rest, input => by
    unfold Node.call.go
    exact quiet_bind (Node.quiet_call training m input) fun output =>
      Node.quiet_go training rest output

end

namespace Optimizer

theorem quiet_regenerate (o : Optimizer) (program : Node) (v : Variable) (scored : Nat) :
    (regenerate o program v scored).Quiet := by
  unfold regenerate
  dsimp only
  split
  · exact quiet_abort _
  · split
    all_goals try refine quiet_bind (quiet_attempt (Node.quiet_call false program _)) fun _ => ?_
    all_goals
      refine quiet_bind (quiet_pure _) fun outcome => ?_
      split
      · exact quiet_pure _
      · split <;> exact quiet_pure _

theorem quiet_pass (v : Variable) (r : Float) : (pass v r).Quiet := by
  unfold pass
  split
  · exact quiet_pure _
  · refine quiet_bind quiet_optimizer fun o => ?_
    split
    · exact quiet_pure _
    · refine quiet_bind (quiet_setOptimizer _) fun _ => ?_
      dsimp only
      split
      · exact quiet_pure _
      · exact quiet_regenerate _ _ _ _

theorem quiet_stored (key : String) : (stored key).Quiet :=
  quiet_bind (quiet_get? key) fun found => by
    split
    · exact quiet_pure _
    · exact quiet_fail _

theorem quiet_commitPass (before : Variable) (result : PassResult) :
    (commitPass before result).Quiet := by
  rcases result with ⟨_ | report, after⟩ <;> simp only [commitPass] <;> split
  · exact quiet_bind (quiet_replace _) fun _ => quiet_fail _
  · exact quiet_fail _
  · exact quiet_bind (quiet_replace _) fun _ => quiet_pure _
  · exact quiet_pure _

/-- A pass on a stored variable tells the hooks nothing, however it ends. -/
theorem quiet_optimizeStored (key : String) (r : Float) : (optimizeStored key r).Quiet :=
  quiet_bind (quiet_mapError _ (quiet_awaitLock key)) fun _ =>
    quiet_bind (quiet_bind (quiet_stored key) fun before =>
      quiet_bind (quiet_pass before r) fun _ => quiet_pure _) fun _ =>
        quiet_commitPass _ _

theorem quiet_collectForBuild (acc : List Variable) (key : String) :
    (collectForBuild acc key).Quiet :=
  quiet_bind quiet_store fun st => by
    split
    · exact quiet_pure _
    · exact quiet_block
    · refine quiet_bind (quiet_get? key) fun found => ?_
      split
      · exact quiet_pure _
      · exact quiet_pure _

theorem quiet_buildStored : buildStored.Quiet :=
  quiet_bind quiet_store fun st =>
    quiet_bind (quiet_foldlM quiet_collectForBuild _ _) fun collected =>
      quiet_bind quiet_optimizer fun o => by
        split
        · exact quiet_fail _
        · exact quiet_bind (quiet_setOptimizer _) fun _ =>
            quiet_forM (fun v => quiet_replace _) collected

theorem quiet_finalizeStored (key : String) : (finalizeStored key).Quiet :=
  quiet_bind (quiet_mapError _ (quiet_awaitLock key)) fun _ =>
    quiet_bind (quiet_stored key) fun _ => quiet_replace _

end Optimizer

namespace Trainer

theorem quiet_build : build.Quiet := quiet_mapError _ Optimizer.quiet_buildStored

theorem quiet_finalizeKey (report : VariableReport) : (finalizeKey report).Quiet :=
  quiet_bind (quiet_attempt (Optimizer.quiet_finalizeStored _)) fun _ => quiet_pure _

/-- Scoring a program on a dataset is quiet: the program's calls record predictions, never hook
calls. -/
theorem quiet_evaluate (program : Node) (dataset : List Example) (metric : Metric) :
    (evaluate program dataset metric).Quiet := by
  unfold evaluate
  refine quiet_bind (quiet_foldlM (fun total ex => ?_) _ _) fun total => quiet_pure _
  refine quiet_bind (quiet_attempt (Node.quiet_call true program _)) fun ending => ?_
  split
  · exact quiet_pure _
  · exact quiet_pure _

/-! ### The calls of an epoch -/

/-- The calls that tell the hooks how a variable's pass ended, as its line of an epoch report
says: an optimized variable as optimized, a skipped or failed one as skipped with the reason or
the error, and a no-op not at all. -/
def reportCalls (hooks : List Hook) (run : String) (epoch : Nat) (v : VariableReport) :
    List HookEvent :=
  match v.outcome with
  | .optimized _ => Hook.notify hooks .variableOptimized
      { run := run, epoch := epoch, key := some v.key, phase := "variable" }
  | .noop => []
  | .skipped reason => Hook.notify hooks .variableSkipped
      { run := run, epoch := epoch, key := some v.key, phase := "skipped", message := some reason }
  | .failed error => Hook.notify hooks .variableSkipped
      { run := run, epoch := epoch, key := some v.key, phase := "failed", message := some error }

/-- The context the hooks are told an epoch begins with: its number and reward. -/
def openingContext (run : String) (report : EpochReport) : HookContext :=
  { run := run, epoch := report.epoch, phase := "epoch_begin",
    metadata := .object [("reward", Json.float report.reward)] }

/-- The context the hooks are told an epoch ends with: its number, reward and counts. -/
def closingContext (run : String) (report : EpochReport) : HookContext :=
  { run := run, epoch := report.epoch, phase := "epoch_end",
    metadata := .object [("reward", Json.float report.reward),
      ("optimized", Json.nat report.optimizedCount), ("noop", Json.nat report.noopCount),
      ("skipped", Json.nat report.skippedCount), ("failed", Json.nat report.failedCount)] }

/-- What the hooks are told during an epoch with this report: that it begins, then one block of
calls per line of the report, the blocks in some order, then that it ends. -/
def EpochTrace (hooks : List Hook) (run : String) (report : EpochReport)
    (calls : List HookEvent) : Prop :=
  ∃ blocks : List (List HookEvent),
    blocks.Perm (report.reports.map (reportCalls hooks run report.epoch)) ∧
    calls = Hook.notify hooks .epochBegin (openingContext run report) ++ blocks.flatten ++
      Hook.notify hooks .epochEnd (closingContext run report)

/-- What the hooks are told during epochs with these reports: each epoch's trace in turn. -/
inductive Trace (hooks : List Hook) (run : String) : List EpochReport → List HookEvent → Prop
  | nil : Trace hooks run [] []
  | cons {report : EpochReport} {reports : List EpochReport} {calls rest : List HookEvent} :
      EpochTrace hooks run report calls → Trace hooks run reports rest →
      Trace hooks run (report :: reports) (calls ++ rest)

/-- The line of an epoch report for a key's pass: as it ended, or timed out while it waits. -/
def reportOf (config : TrainerConfig) (pass : String × Option VariableOutcome) : VariableReport :=
  ⟨pass.1, pass.2.getD (timedOut config)⟩

theorem announce_told {run : String} {epoch : Nat} {key : String} {outcome : VariableOutcome}
    {s s' : Workbench} {u : Unit} (ran : announce run epoch key outcome s = .ok u s') :
    s.Told s' (reportCalls s.hooks run epoch ⟨key, outcome⟩) := by
  cases outcome <;> obtain ⟨-, rfl⟩ := EStateM.Result.ok.inj ran
  case noop => exact Workbench.Told.refl s
  all_goals exact Workbench.told_notify _ _ rfl

variable {config : TrainerConfig} {run : String} {epoch : Nat} {r : Float}

/-- A key's pass tells the hooks how it ended, if it did. -/
theorem passKey_told (config : TrainerConfig) {key : String} {s s' : Workbench}
    {pass : String × Option VariableOutcome} (ran : passKey run epoch r key s = .ok pass s') :
    pass.1 = key ∧ s.Told s' (if pass.2.isSome then
      reportCalls s.hooks run epoch (reportOf config pass) else []) := by
  obtain ⟨ending, s₁, settled, ran⟩ := bind_eq_ok ran
  have quiet := (quiet_settle (Optimizer.quiet_optimizeStored key r)).told_of_ok settled
  cases ending with
  | none =>
    obtain ⟨rfl, rfl⟩ := EStateM.Result.ok.inj ran
    exact ⟨rfl, by simpa using quiet⟩
  | some ending =>
    obtain ⟨_, s₂, announced, ran⟩ := bind_eq_ok ran
    obtain ⟨rfl, rfl⟩ := EStateM.Result.ok.inj ran
    have told := announce_told announced
    rw [(Workbench.told_nil_iff.mp quiet).1] at told
    exact ⟨rfl, by simpa [reportOf] using quiet.trans told⟩

/-- A key's line of the report: a pass that still waits is told to the hooks as timed out. -/
theorem reportKey_told {pass : String × Option VariableOutcome} {s s' : Workbench}
    {v : VariableReport} (ran : reportKey config run epoch pass s = .ok v s') :
    v = reportOf config pass ∧ s.Told s' (if pass.2.isSome then [] else
      reportCalls s.hooks run epoch (reportOf config pass)) := by
  rcases pass with ⟨key, _ | outcome⟩
  · obtain ⟨_, s₁, announced, ran⟩ := bind_eq_ok ran
    obtain ⟨rfl, rfl⟩ := EStateM.Result.ok.inj ran
    exact ⟨rfl, by simpa [reportOf] using announce_told announced⟩
  · obtain ⟨rfl, rfl⟩ := EStateM.Result.ok.inj ran
    exact ⟨rfl, by simp⟩

/-- The passes of an epoch, key by key: the hooks are told of those that ended, in key order. -/
theorem passKeys_told (config : TrainerConfig) :
    ∀ (keys : List String) {s s' : Workbench} {passes : List (String × Option VariableOutcome)},
      keys.mapM (passKey run epoch r) s = .ok passes s' →
      passes.map Prod.fst = keys ∧
        s.Told s' (((passes.filter fun pass => pass.2.isSome).map
          (reportCalls s.hooks run epoch ∘ reportOf config)).flatten)
  | [], s, s', passes, ran => by
    obtain ⟨rfl, rfl⟩ := EStateM.Result.ok.inj ran
    exact ⟨rfl, Workbench.Told.refl s⟩
  | key :: rest, s, s', passes, ran => by
    rw [List.mapM_cons] at ran
    obtain ⟨pass, s₁, first, ran⟩ := bind_eq_ok ran
    obtain ⟨passesRest, s₂, later, ran⟩ := bind_eq_ok ran
    obtain ⟨rfl, rfl⟩ := EStateM.Result.ok.inj ran
    obtain ⟨named, told⟩ := passKey_told config first
    obtain ⟨namedRest, toldRest⟩ := passKeys_told config rest later
    rw [told.1] at toldRest
    refine ⟨by simp [named, namedRest], ?_⟩
    have both := told.trans toldRest
    rcases pass with ⟨key, _ | outcome⟩ <;> simpa [List.filter_cons] using both

/-- The lines of an epoch's report, pass by pass: the hooks are told of those that still wait,
in key order, as timed out. -/
theorem reportKeys_told :
    ∀ (passes : List (String × Option VariableOutcome)) {s s' : Workbench}
      {reports : List VariableReport},
      passes.mapM (reportKey config run epoch) s = .ok reports s' →
      reports = passes.map (reportOf config) ∧
        s.Told s' (((passes.filter fun pass => !pass.2.isSome).map
          (reportCalls s.hooks run epoch ∘ reportOf config)).flatten)
  | [], s, s', reports, ran => by
    obtain ⟨rfl, rfl⟩ := EStateM.Result.ok.inj ran
    exact ⟨rfl, Workbench.Told.refl s⟩
  | pass :: rest, s, s', reports, ran => by
    rw [List.mapM_cons] at ran
    obtain ⟨v, s₁, first, ran⟩ := bind_eq_ok ran
    obtain ⟨reportsRest, s₂, later, ran⟩ := bind_eq_ok ran
    obtain ⟨rfl, rfl⟩ := EStateM.Result.ok.inj ran
    obtain ⟨rfl, told⟩ := reportKey_told first
    obtain ⟨rfl, toldRest⟩ := reportKeys_told rest later
    rw [told.1] at toldRest
    refine ⟨rfl, ?_⟩
    have both := told.trans toldRest
    rcases pass with ⟨key, _ | outcome⟩ <;> simpa [List.filter_cons] using both

/-- The calls of an epoch whose passes ended or waited as `passes` say: its beginning, the
passes that ended, those that timed out, and its end, form the epoch's trace. -/
theorem epochTrace_of_passes (hooks : List Hook) (passes : List (String × Option VariableOutcome)) :
    EpochTrace hooks run ⟨epoch, r, passes.map (reportOf config)⟩
      (Hook.notify hooks .epochBegin (openingContext run ⟨epoch, r, passes.map (reportOf config)⟩) ++
        (((passes.filter fun pass => pass.2.isSome).map
            (reportCalls hooks run epoch ∘ reportOf config)).flatten ++
          (((passes.filter fun pass => !pass.2.isSome).map
              (reportCalls hooks run epoch ∘ reportOf config)).flatten ++
            Hook.notify hooks .epochEnd
              (closingContext run ⟨epoch, r, passes.map (reportOf config)⟩)))) := by
  refine ⟨(passes.filter fun pass => pass.2.isSome).map (reportCalls hooks run epoch ∘ reportOf config) ++
    (passes.filter fun pass => !pass.2.isSome).map (reportCalls hooks run epoch ∘ reportOf config),
    ?_, by simp⟩
  -- the passes that ended, then those that wait, are all the passes in another order
  rw [← List.map_append, List.map_map]
  exact (List.filter_append_perm _ passes).map _

/-- An epoch that ends tells the hooks its trace, and reports its own number. -/
theorem runEpoch_told {s s' : Workbench} {report : EpochReport}
    (ran : runEpoch config run epoch r s = .ok report s') :
    report.epoch = epoch ∧ ∃ calls, s.Told s' calls ∧ EpochTrace s.hooks run report calls := by
  unfold runEpoch at ran
  by_cases valid : Reward.isValid r = true
  · simp only [valid, Bool.not_true, Bool.false_eq_true, if_false] at ran
    obtain ⟨_, s₁, opened, ran⟩ := bind_eq_ok ran
    obtain ⟨st, s₂, read, ran⟩ := bind_eq_ok ran
    obtain ⟨passes, s₃, passed, ran⟩ := bind_eq_ok ran
    obtain ⟨reports, s₄, reported, ran⟩ := bind_eq_ok ran
    rw [notify_run] at opened
    obtain ⟨-, rfl⟩ := EStateM.Result.ok.inj opened
    rw [store_run] at read
    obtain ⟨rfl, rfl⟩ := EStateM.Result.ok.inj read
    have opening := Workbench.told_notify (s := s) .epochBegin
      (openingContext run ⟨epoch, r, passes.map (reportOf config)⟩) rfl
    obtain ⟨-, ended⟩ := passKeys_told config _ passed
    obtain ⟨rfl, waiting⟩ := reportKeys_told _ reported
    rw [opening.1] at ended
    rw [ended.1, opening.1] at waiting
    have finish : ∀ s₅, s₄.Told s₅ [] →
        (Work.notify .epochEnd (closingContext run ⟨epoch, r, passes.map (reportOf config)⟩) >>=
          fun _ => pure ⟨epoch, r, passes.map (reportOf config)⟩ : Work TrainerError EpochReport) s₅ =
          .ok report s' →
        report.epoch = epoch ∧ ∃ calls, s.Told s' calls ∧ EpochTrace s.hooks run report calls := by
      intro s₅ quiet closed
      simp only [bind_run, notify_run, pure_run] at closed
      obtain ⟨rfl, rfl⟩ := EStateM.Result.ok.inj closed
      have closing := Workbench.told_notify .epochEnd
        (closingContext run ⟨epoch, r, passes.map (reportOf config)⟩)
        (quiet.1.trans (waiting.1.trans (ended.1.trans opening.1)))
      refine ⟨rfl, _, opening.trans (ended.trans (waiting.trans (quiet.trans closing))),
        ?_⟩
      simpa using epochTrace_of_passes s.hooks passes
    split at ran
    · obtain ⟨_, s₅, finalized, ran⟩ := bind_eq_ok ran
      exact finish s₅ ((quiet_forM quiet_finalizeKey _).told_of_ok finalized) ran
    · exact finish s₄ (.refl s₄) ran
  · simp [valid] at ran

/-- An epoch after a quiet action that gives its reward tells the hooks the epoch's trace. -/
theorem epoch_told_after {reward : Work TrainerError Float} (quiet : reward.Quiet)
    {s s' : Workbench} {report : EpochReport}
    (ran : (reward >>= runEpoch config run epoch) s = .ok report s') :
    report.epoch = epoch ∧ ∃ calls, s.Told s' calls ∧ EpochTrace s.hooks run report calls := by
  obtain ⟨r, s₁, rewarded, ran⟩ := bind_eq_ok ran
  have before := quiet.told_of_ok rewarded
  obtain ⟨numbered, calls, told, traced⟩ := runEpoch_told ran
  rw [before.1] at traced
  exact ⟨numbered, calls, before.trans told, traced⟩

/-- Epochs run one after another, each telling the hooks its trace, tell them the traces in
turn. -/
theorem epochs_told {step : Nat → Work TrainerError EpochReport}
    (each : ∀ e {s s' : Workbench} {report : EpochReport}, step e s = .ok report s' →
      report.epoch = e ∧ ∃ calls, s.Told s' calls ∧ EpochTrace s.hooks run report calls) :
    ∀ (epochs : List Nat) {s s' : Workbench} {reports : List EpochReport},
      epochs.mapM step s = .ok reports s' →
      reports.map EpochReport.epoch = epochs ∧
        ∃ calls, s.Told s' calls ∧ Trace s.hooks run reports calls
  | [], s, s', reports, ran => by
    obtain ⟨rfl, rfl⟩ := EStateM.Result.ok.inj ran
    exact ⟨rfl, [], .refl s, .nil⟩
  | e :: rest, s, s', reports, ran => by
    rw [List.mapM_cons] at ran
    obtain ⟨report, s₁, first, ran⟩ := bind_eq_ok ran
    obtain ⟨reportsRest, s₂, later, ran⟩ := bind_eq_ok ran
    obtain ⟨rfl, rfl⟩ := EStateM.Result.ok.inj ran
    obtain ⟨numbered, calls, told, traced⟩ := each e first
    obtain ⟨numberedRest, callsRest, toldRest, tracedRest⟩ := epochs_told each rest later
    rw [told.1] at tracedRest
    exact ⟨by simp [numbered, numberedRest], _, told.trans toldRest, .cons traced tracedRest⟩

/-- A training run that builds and then runs its epochs, each telling the hooks its trace,
tells them the traces in turn, the epochs numbered from 0. -/
theorem training_told {step : Nat → Work TrainerError EpochReport}
    (each : ∀ e {s s' : Workbench} {report : EpochReport}, step e s = .ok report s' →
      report.epoch = e ∧ ∃ calls, s.Told s' calls ∧ EpochTrace s.hooks run report calls)
    {epochs : Nat} {s s' : Workbench} {history : History}
    (ran : (build >>= fun _ => (List.range epochs).mapM step >>= fun reports =>
      pure ⟨reports⟩ : Work TrainerError History) s = .ok history s') :
    history.epochs.map EpochReport.epoch = List.range epochs ∧
      ∃ calls, s.Told s' calls ∧ Trace s.hooks run history.epochs calls := by
  obtain ⟨_, s₁, built, ran⟩ := bind_eq_ok ran
  obtain ⟨reports, s₂, trained, ran⟩ := bind_eq_ok ran
  obtain ⟨rfl, rfl⟩ := EStateM.Result.ok.inj ran
  have before := quiet_build.told_of_ok built
  obtain ⟨numbered, calls, told, traced⟩ := epochs_told each _ trained
  rw [before.1] at traced
  exact ⟨numbered, calls, before.trans told, traced⟩

theorem fitEpoch_told (source : RewardSource) (e : Nat) {s s' : Workbench}
    {report : EpochReport} (ran : fitEpoch config run source e s = .ok report s') :
    report.epoch = e ∧ ∃ calls, s.Told s' calls ∧ EpochTrace s.hooks run report calls := by
  unfold fitEpoch at ran
  cases rewarded : source.reward e with
  | ok r =>
    simp only [rewarded] at ran
    exact epoch_told_after (quiet_pure r) ran
  | error m =>
    simp only [rewarded] at ran
    exact epoch_told_after (quiet_fail _) ran

/-- A training run is traced to the hooks when every run of it that ends with a history numbers
its epochs 0, 1, … in order, keeps the same hooks registered, and adds to their records each
epoch's trace in turn. -/
def Traced (run : String) (epochs : Nat) (training : Work TrainerError History) : Prop :=
  ∀ s history s', training s = .ok history s' →
    history.epochs.map EpochReport.epoch = List.range epochs ∧
      ∃ calls, s.Told s' calls ∧ Trace s.hooks run history.epochs calls

theorem fit_traced (source : RewardSource) (epochs : Nat) :
    Traced run epochs (fit config run epochs source) := by
  intro s history s' ran
  unfold fit at ran
  split at ran
  · obtain ⟨_, _, refused, _⟩ := bind_eq_ok ran
    simp at refused
  · exact training_told (fun e _ _ _ => fitEpoch_told source e) ran

theorem fitProgram_traced (program : Node) (dataset : List Example) (epochs : Nat)
    (metric : Metric) : Traced run epochs (fitProgram config run program dataset epochs metric) := by
  intro s history s' ran
  unfold fitProgram at ran
  split at ran
  · obtain ⟨_, _, refused, _⟩ := bind_eq_ok ran
    simp at refused
  · dsimp only at ran
    split at ran
    · obtain ⟨_, _, refused, _⟩ := bind_eq_ok ran
      simp at refused
    · exact training_told
        (fun e _ _ _ => epoch_told_after (quiet_evaluate program dataset metric)) ran

end Trainer

/-- Whether a hook fails after recording changes nothing of what the hooks record: every
recording hook is told of every event, in registration order. -/
theorem Hook.notify_failing (hooks : List Hook) (failing : Hook → Bool) (kind : HookKind)
    (context : HookContext) :
    Hook.notify (hooks.map fun h => { h with fails := failing h }) kind context =
      Hook.notify hooks kind context := by
  simp [Hook.notify, List.filter_map, Function.comp_def]

namespace Trainer

/-- The hooks follow training epoch by epoch.  Every run of `fit` or `fitProgram` that ends
keeps the hooks registered and adds to their records, for each epoch in increasing order from
0: that it begins; then, in some order, one call per variable optimized and one per variable
skipped or failed, with the phase and the reason or error, and none for a no-op; then that it
ends, with the counts of its report.  Every recording hook is told of every event, in
registration order, whether or not some fail. -/
theorem hooks_follow_epochs (config : TrainerConfig) (run : String) (epochs : Nat) :
    (∀ source, Traced run epochs (fit config run epochs source)) ∧
    (∀ program dataset metric,
      Traced run epochs (fitProgram config run program dataset epochs metric)) ∧
    ∀ (hooks : List Hook) (failing : Hook → Bool) kind context,
      Hook.notify (hooks.map fun h => { h with fails := failing h }) kind context =
        Hook.notify hooks kind context :=
  ⟨fun source => fit_traced source epochs,
    fun program dataset metric => fitProgram_traced program dataset epochs metric,
    Hook.notify_failing⟩

/-- One epoch of training with one recording hook, on a store holding one variable with an
unscored prediction, ends and is traced to the hook. -/
theorem hooks_follow_epochs_one_hook :
    ∃ history s', fit {} "run" 1 (.fixed 0.5)
        { store :=
            ⟨4, [{ key := "k", predictions := [⟨"Prediction", [], [], none⟩], updatedAt := .epoch }],
              [], .epoch⟩,
          optimizer := { model := some 0 }, hooks := [{ id := 0 }] } = .ok history s' ∧
      history.epochs.map EpochReport.epoch = List.range 1 ∧
      ∃ calls, Workbench.Told
          { store :=
              ⟨4, [{ key := "k", predictions := [⟨"Prediction", [], [], none⟩], updatedAt := .epoch }],
                [], .epoch⟩,
            optimizer := { model := some 0 }, hooks := [{ id := 0 }] } s' calls ∧
        Trace [{ id := 0 }] "run" history.epochs calls := by
  obtain ⟨history, s', ran⟩ := Work.ok_of_endedWithValue (by decide +kernel :
    Work.endedWithValue (fit {} "run" 1 (.fixed 0.5)
      { store :=
          ⟨4, [{ key := "k", predictions := [⟨"Prediction", [], [], none⟩], updatedAt := .epoch }],
            [], .epoch⟩,
        optimizer := { model := some 0 }, hooks := [{ id := 0 }] }) = true)
  exact ⟨history, s', ran, (hooks_follow_epochs {} "run" 1).1 (.fixed 0.5) _ history s' ran⟩

end Trainer

end PromptTrainer
