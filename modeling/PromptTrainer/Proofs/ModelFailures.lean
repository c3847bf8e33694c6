import PromptTrainer.Proofs.Pool
import PromptTrainer.Proofs.Training
import PromptTrainer.Proofs.Normalization
/-!
# After backpropagation only the language model can fail

A pass with a valid reward on a built variable with unscored predictions scores them, stamps the
instructions in force, and asks the generation program the optimizer builds from its language
model.  From there on nothing but the model can make the pass fail
(`Optimizer.only_model_fails_after_backpropagation`):

* the pool is a record of the optimization input shape, because the JSON form of every
  prediction and of every instruction set passes its shape (`Optimizer.pool_schema`); only the
  ranking before it can panic, and only on a NaN reward, which a valid reward never brings;
* the program declares that same shape as its input, so its input check passes, and it asks
  the model once (`Optimizer.call_programFor_ended`);
* every model, scripted or served over HTTP, answers a record constructed against the
  request's output schema or an error (`Work.generate_constructs`), and a record of the
  instruction-list shape always holds a list of strings (`Optimizer.generated_of_constructed`).

The failures that remain are the model's: a malformed answer is malformed output, anything else
a failed generation.  The panic of the ranking, on an order that is not a strict weak order,
is no error the pass returns: the pass aborts.
-/

namespace PromptTrainer

/-! ### Every model answers a record of the requested shape -/

namespace ScriptedModel

/-- A scripted model's answer, when it is one, is the head of its queue, or else its fallback,
constructed against the request's output schema. -/
theorem generate_constructs {m m' : ScriptedModel} {request : GenerationRequest} {r : Record}
    (answered : m.generate request = (.ok r, m')) :
    ∃ d, Record.construct request.outputSchema d = .ok r := by
  unfold generate at answered
  cases queue : m.queue with
  | cons head rest =>
    cases head with
    | error e => simp [queue] at answered
    | ok v =>
      cases constructed : Record.construct request.outputSchema v with
      | error violations => simp [queue, constructed] at answered
      | ok r' =>
        simp only [queue, constructed, Prod.mk.injEq, Except.ok.injEq] at answered
        exact ⟨v, answered.1 ▸ constructed⟩
  | nil =>
    cases fallback : m.fallback with
    | none => simp [queue, fallback] at answered
    | some v =>
      cases constructed : Record.construct request.outputSchema v with
      | error violations => simp [queue, fallback, constructed] at answered
      | ok r' =>
        simp only [queue, fallback, constructed, Prod.mk.injEq, Except.ok.injEq] at answered
        exact ⟨v, answered.1 ▸ constructed⟩

end ScriptedModel

/-- A structured output, when it is one, is the JSON in the text constructed against the
schema. -/
theorem structuredOutput_constructs {schema : Schema} {output : String} {r : Record}
    (read : structuredOutput schema output = .ok r) :
    ∃ d, Record.construct schema d = .ok r := by
  unfold structuredOutput at read
  cases extracted : Prompt.extractJson output with
  | none => simp [extracted] at read
  | some text =>
    cases parsed : Json.parse text with
    | error e => simp [extracted, parsed] at read
    | ok d =>
      cases constructed : Record.construct schema d with
      | error violations => simp [extracted, parsed, constructed] at read
      | ok r' =>
        simp only [extracted, parsed, constructed, Except.ok.injEq] at read
        exact ⟨d, read ▸ constructed⟩

/-- A reply, when it stands for a record, holds a content constructed against the schema. -/
theorem readReply_constructs {schema : Schema} {reply : ChatReply} {r : Record}
    (read : readReply schema reply = .ok r) :
    ∃ d, Record.construct schema d = .ok r := by
  unfold readReply at read
  split at read
  · simp only [bind, Except.bind] at read
    split at read
    · cases read
    · exact structuredOutput_constructs read
  · cases read

namespace HttpModel

/-- An HTTP model's answer, when it is one, is the reply's content read as JSON and constructed
against the request's output schema. -/
theorem generate_constructs {m : HttpModel} {server server' : Option ChatServer}
    {request : GenerationRequest} {r : Record}
    (answered : m.generate server request = (.ok r, server')) :
    ∃ d, Record.construct request.outputSchema d = .ok r := by
  unfold generate at answered
  split at answered
  · cases answered
  · split at answered
    · cases answered
    · split at answered
      · split at answered
        · exact readReply_constructs (Prod.mk.inj answered).1
        · cases answered
      · cases answered

end HttpModel

/-- Every language model's answer, when it is one, is a record constructed against the
request's output schema. -/
theorem LanguageModel.generate_constructs {model model' : LanguageModel}
    {server server' : Option ChatServer} {request : GenerationRequest} {r : Record}
    (answered : model.generate request server = (.ok r, model', server')) :
    ∃ d, Record.construct request.outputSchema d = .ok r := by
  cases model with
  | scripted m =>
    simp only [generate] at answered
    exact ScriptedModel.generate_constructs (Prod.ext (Prod.mk.inj answered).1 rfl)
  | http m =>
    simp only [generate] at answered
    exact HttpModel.generate_constructs (Prod.ext (Prod.mk.inj answered).1 rfl)

/-- Asking a model of the table answers, when it answers, a record constructed against the
request's output schema. -/
theorem Work.generate_constructs {model : Nat} {request : GenerationRequest} {s s' : Workbench}
    {r : Record} (answered : Work.generate model request s = .ok r s') :
    ∃ d, Record.construct request.outputSchema d = .ok r := by
  unfold Work.generate at answered
  split at answered
  · cases answered
  · next lm _ =>
    rcases asked : lm.generate request s.server with ⟨answer, lm', server⟩
    rw [asked] at answered
    cases answer with
    | error e => cases answered
    | ok r' =>
      cases answered
      exact LanguageModel.generate_constructs asked

namespace Optimizer

/-! ### Reading the generated instructions -/

/-- The output shape of generation is the instruction shape masked of its label and reward. -/
theorem optimizationOutput_eq_mask :
    Shapes.instructions.mask ["label", "reward"] = .ok Shapes.optimizationOutput :=
  rfl

/-- The output shape of generation holds one field, the required list of instructions. -/
theorem optimizationOutput_fields :
    Shapes.optimizationOutput.fields =
      [(Field.ofRequired "instructions" (.list .string)).withDescription
        "The list of instructions"] :=
  rfl

/-- An array of strings decodes as a list of strings. -/
theorem decode_strings {xs : List Json} (strings : ∀ x ∈ xs, ∃ t, x = .string t) :
    ∃ lines, Decode.list Decode.string (.array xs) = .ok lines := by
  induction xs with
  | nil => exact ⟨[], rfl⟩
  | cons x rest ih =>
    obtain ⟨t, rfl⟩ := strings x List.mem_cons_self
    obtain ⟨lines, decoded⟩ := ih fun y member => strings y (List.mem_cons_of_mem _ member)
    refine ⟨t :: lines, ?_⟩
    simp only [Decode.list] at decoded
    simp [Decode.list, List.mapM_cons, Decode.string, decoded, bind, Except.bind, pure,
      Except.pure]

/-- The normal form of a value that passes a list of strings is an array of strings. -/
theorem strings_of_passes {v : Json} {path : String}
    (passes : (validateType (.list .string) v path).2 = []) :
    ∃ xs, (validateType (.list .string) v path).1 = .array xs ∧ ∀ x ∈ xs, ∃ t, x = .string t := by
  obtain ⟨items, rfl⟩ := FieldType.exists_array_of_passes passes
  have each := FieldType.passes_list_iff.mp passes
  refine ⟨_, FieldType.validateType_list_fst _ _ _, fun x member => ?_⟩
  obtain ⟨i, within, rfl⟩ := List.mem_mapIdx.mp member
  have accepted := (FieldType.passes_primitive_iff rfl (by simp)).mp (each i within)
  rw [FieldType.validateType_of_acceptsLiteral rfl (by simp) accepted]
  cases item : items[i] with
  | string t => exact ⟨t, rfl⟩
  | _ => simp [item, FieldType.acceptsLiteral] at accepted

/-- A record constructed against the instruction-list shape holds its required list of strings,
so the generated instructions are always read. -/
theorem generated_of_constructed {d : Json} {output : Record}
    (constructed : Record.construct Shapes.optimizationOutput d = .ok output) :
    ∃ lines, generated output = .ok lines := by
  obtain ⟨members, rfl, passes, rfl⟩ := Record.construct_eq_ok_iff.mp constructed
  have field : (Field.ofRequired "instructions" (.list .string)).withDescription
      "The list of instructions" ∈ Shapes.optimizationOutput.fields := by
    rw [optimizationOutput_fields]
    exact List.mem_singleton_self _
  have fieldPasses := ((validateObject_snd_eq_nil _ _ _).mp passes).1 _ field
  cases given : Json.lookup members "instructions" with
  | none =>
    have optional := (Field.passes_of_lookup_none given).mp fieldPasses rfl
    simp [Field.withDescription, Field.ofRequired] at optional
  | some v =>
    obtain ⟨xs, normal, strings⟩ := strings_of_passes ((Field.passes_of_lookup given).mp fieldPasses)
    obtain ⟨lines, decoded⟩ := decode_strings strings
    have entry : Json.lookup (validateObject Shapes.optimizationOutput members "").1
        "instructions" = some (.array xs) := by
      simp only [validateObject_fst, optimizationOutput_fields, List.filterMap_cons,
        List.filterMap_nil, Field.entry, Field.withDescription, Field.ofRequired, given]
      simpa [Json.lookup, Field.withDescription, Field.ofRequired] using normal
    exact ⟨lines, by simp [generated, Record.get?, entry, decoded]⟩

/-! ### The pool -/

/-- A pool is a record of the optimization input shape. -/
theorem pool_schema {o : Optimizer} {w : Variable} {input : Record}
    (pooled : o.pool w = some (.ok input)) :
    input.schema = Shapes.optimizationInput := by
  obtain ⟨data, accepted⟩ := pool_eq_some pooled
  cases accepted
  rfl

/-! ### The pass -/

/-- A failure of the model `m` as a pass reports it: the model was asked a request of the
optimization input and output shapes and failed, leaving the workbench `s'`; a malformed answer
is reported as malformed output, any other error of the model as a failed generation. -/
def ModelFailure (m : Nat) (s' : Workbench) (e : OptimizationError) : Prop :=
  ∃ request s₁ me, request.input.schema = Shapes.optimizationInput ∧
    request.outputSchema = Shapes.optimizationOutput ∧
    Work.generate m request s₁ = .error (.failed me) s' ∧
    ((∃ msg, me = .malformed msg ∧ e = .malformedOutput msg) ∨
      ((∀ msg, me ≠ .malformed msg) ∧ e = .generation (NodeError.model me).message))

/-- How a failure of the generation program built from a model is reported: a malformed answer
as malformed output, any other error of the model as a failed generation. -/
theorem ofNode_model (me : ModelError) :
    (∃ msg, me = .malformed msg ∧ OptimizationError.ofNode (.model me) = .malformedOutput msg) ∨
      ((∀ msg, me ≠ .malformed msg) ∧
        OptimizationError.ofNode (.model me) = .generation (NodeError.model me).message) := by
  cases me with
  | malformed msg => exact .inl ⟨msg, rfl, rfl⟩
  | _ => exact .inr ⟨by simp, rfl⟩

/-- The generation step after backpropagation with a valid reward, asking the program built
from the model `m`: it puts new instructions in force, or the model failed; or the ranking
panicked on a reward the variable held before the pass. -/
theorem regenerate_after_backpropagation {v : Variable} {r : Float} (o base : Optimizer)
    (m scored : Nat) (valid : Reward.isValid r = true) (s : Workbench) :
    (∃ outcome after s', regenerate o (base.programFor m)
        (stampCandidate (backpropagate v r).1 r) scored s = .ok (outcome, after) s' ∧
      (∀ report, outcome = .ok report → report = ⟨scored, true⟩) ∧
      ∀ e, outcome = .error e → ModelFailure m s' e) ∨
    (¬ v.RewardsComparable ∧ regenerate o (base.programFor m)
        (stampCandidate (backpropagate v r).1 r) scored s =
      .error (.aborted Ranking.orderViolation) s) := by
  cases pooled : o.pool (stampCandidate (backpropagate v r).1 r) with
  | none =>
    -- only the ranking panics, on a reward the variable held before
    refine .inr ⟨fun comparable => ?_, regenerate_of_unranked _ _ pooled s⟩
    obtain ⟨_, ranked⟩ := pool_of_backpropagated o valid comparable
    rw [pooled] at ranked
    cases ranked
  | some input =>
    obtain ⟨data, rfl⟩ := pool_eq_some pooled
    refine .inl ?_
    obtain ⟨answer, s', answered, called⟩ := call_programFor_ended base m data s
    cases answer with
    | ok output =>
      simp only [Work.ended_ok, Except.mapError] at answered called
      obtain ⟨d, constructed⟩ := Work.generate_constructs answered
      obtain ⟨lines, read⟩ := generated_of_constructed constructed
      exact ⟨_, _, _, regenerate_of_regenerates (.regenerated pooled called read),
        fun report same => by cases same; rfl, fun e same => by cases same⟩
    | error me =>
      simp only [Work.ended_error, Except.mapError] at answered called
      refine ⟨_, _, _, regenerate_of_regenerates (.callFailed pooled called), by simp,
        fun e same => ⟨_, _, me, rfl, rfl, answered, ?_⟩⟩
      cases same
      exact ofNode_model me

/-- After backpropagation only the language model can make a pass fail.  On a built variable,
with a valid reward and an optimizer whose generation program is the one built from its model
(or not yet built), the pass ends; it scores every unscored prediction and, if there was one,
either puts new instructions in force or fails because the model failed (`ModelFailure`).  The
pool, the program's input check and the reading of the instructions never fail.  The one
exception is the abort of the ranking, which needs a reward that cannot be compared, and so one
the variable held before the pass. -/
theorem only_model_fails_after_backpropagation {v : Variable} {r : Float} {s : Workbench}
    {m : Nat} (modelSet : s.optimizer.model = some m)
    (program : ∀ p, s.optimizer.program = some p → p = s.optimizer.programFor m)
    (built : v.phase ≠ .unbuilt) (valid : Reward.isValid r = true) :
    (∃ outcome after s', pass v r s = .ok (outcome, after) s' ∧
      (∀ report, outcome = .ok report →
        report = ⟨v.unscoredCount, decide (0 < v.unscoredCount)⟩) ∧
      ∀ e, outcome = .error e → ModelFailure m s' e) ∨
    (¬ v.RewardsComparable ∧ ∃ s', pass v r s = .error (.aborted Ranking.orderViolation) s') := by
  have checked := precheck_of_built valid built
  have buildable := ensureProgram_of_model modelSet program
  rcases Nat.eq_zero_or_pos v.unscoredCount with nothing | unscored
  · refine .inl ⟨_, _, _, pass_of_scored checked buildable nothing, fun report same => ?_,
      fun e same => by cases same⟩
    cases same
    simp [nothing]
  · rw [pass_of_unscored checked buildable unscored]
    rcases regenerate_after_backpropagation (v := v) _ s.optimizer m v.unscoredCount valid _ with
      ⟨outcome, after, s', ran, succeeded, failed⟩ | ⟨incomparable, aborted⟩
    · refine .inl ⟨outcome, after, s', ran, fun report same => ?_, failed⟩
      simp [succeeded report same, unscored]
    · exact .inr ⟨incomparable, _, aborted⟩

/-- A pass with the reward `0.5` on an idle variable holding one unscored prediction, the
optimizer using the first model of the table and no program yet: it ends, and a success scores
the one prediction and generates. -/
theorem only_model_fails_after_backpropagation_one_prediction :
    ∃ outcome after s', pass
        { key := "k", updatedAt := .epoch, phase := .idle,
          predictions := [Prediction.ofParts [] []] } 0.5
        { store := ⟨4, [], [], .epoch⟩, optimizer := { model := some 0 } } =
        .ok (outcome, after) s' ∧
      ∀ report, outcome = .ok report → report = ⟨1, true⟩ := by
  have comparable : Variable.RewardsComparable
      { key := "k", updatedAt := .epoch, phase := .idle, predictions := [Prediction.ofParts [] []] } :=
    ⟨by simp, by simp [Prediction.ofParts, Reward.isComparable]⟩
  rcases only_model_fails_after_backpropagation
    (v := { key := "k", updatedAt := .epoch, phase := .idle,
            predictions := [Prediction.ofParts [] []] }) (r := 0.5)
    (s := { store := ⟨4, [], [], .epoch⟩, optimizer := { model := some 0 } })
    rfl (fun p built => by cases built) (by decide) (by decide) with
    ⟨outcome, after, s', ran, succeeded, -⟩ | ⟨incomparable, -⟩
  · exact ⟨outcome, after, s', ran, fun report same => (succeeded report same).trans rfl⟩
  · exact absurd comparable incomparable

end Optimizer

end PromptTrainer
