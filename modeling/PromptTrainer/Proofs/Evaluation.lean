import PromptTrainer.Proofs.Rounding
import PromptTrainer.Proofs.Epoch
/-!
# Scoring a program in training

In training, a program run calls its generators in order.  Each call reads the instructions its
generator follows from the store (those of its variable, when the generator is bound and they
are set, and its own otherwise), asks its language model once, and, when the model answered a
bound generator, appends a prediction of input and answer to the generator's variable.

`Trainer.Called calls b b'` says what such a run did from the workbench `b` to `b'`: the calls
followed the instructions held at `b`, the language models were asked their requests in order
and gave their answers (`Work.Answered`), and each variable got the predictions its calls
recorded appended, with nothing else changed (`Variable.Appended`).  On a workbench with no key
locked and the variable of every bound generator stored, a program run never stops on a lock
and is so described (`Node.call_called`).

Scoring a program on a dataset runs it once per example and divides the total of the clamped
scores by the number of examples.  Main statement: `Trainer.evaluate_called`: on a non-empty
dataset the score is a valid reward, and the run is described as above.
-/

namespace PromptTrainer

/-! ### The instructions a generator follows -/

/-- The instructions a variable holds under a key, if the key is stored and they are set. -/
def VariableStore.held (st : VariableStore) (key : String) : Option Instructions :=
  (st.get? key).bind Variable.instructions

namespace Generator

/-- The instructions a generator follows when its variable holds `held`: those, when the
generator is bound and they are set, and its own otherwise. -/
def following (g : Generator) (held : Option Instructions) : List String :=
  match g.bound, held with
  | true, some i => i.lines
  | _, _ => g.instructions

/-- A generator reads the instructions it follows from the store, and changes nothing. -/
theorem activeInstructions_run (g : Generator) (b : Workbench) :
    g.activeInstructions b = .ok (g.following (b.store.held g.name)) b := by
  unfold activeInstructions following VariableStore.held
  cases bound : g.bound with
  | false => rfl
  | true =>
    cases found : b.store.get? g.name with
    | none => simp [found]
    | some v => cases held : v.instructions <;> simp [found, held]

end Generator

/-! ### Calls of generators -/

/-- A call of a generator in a program run: the generator, its input, the instructions it
followed and its language model's answer. -/
structure GeneratorCall where
  generator : Generator
  input : Record
  instructions : List String
  answer : Except ModelError Record

namespace GeneratorCall

/-- The language model a call asked, with the request and the answer. -/
def ask (c : GeneratorCall) : Nat × Exchange :=
  (c.generator.model, ⟨c.generator.request c.input c.instructions, c.answer⟩)

/-- The prediction a call records under a key in training: its input and the answer, when the
model answered a generator bound to the key's variable. -/
def recorded (key : String) (c : GeneratorCall) : Option Prediction :=
  if c.generator.bound = true ∧ c.generator.name = key then
    c.answer.toOption.map fun output => Prediction.ofParts c.input.data output.data
  else none

end GeneratorCall

/-! ### Asking several language models in order -/

namespace Work

/-- The language models, asked the requests of `asks` one after another, each of the model it
names, from the workbench `s`, give their answers and leave the models as `s'` holds them. -/
def Answered : List (Nat × Exchange) → Workbench → Workbench → Prop
  | [], s, s' => s.SameModels s'
  | ask :: rest, s, s' =>
    ∃ s₁, generate ask.1 ask.2.request s = ended ask.2.answer s₁ ∧ Answered rest s₁ s'

/-- What was asked does not depend on what else changes afterwards. -/
theorem Answered.congr_right :
    ∀ {asks : List (Nat × Exchange)} {s s' s'' : Workbench},
      Answered asks s s' → s'.SameModels s'' → Answered asks s s''
  | [], _, _, _, answered, same => Workbench.SameModels.trans answered same
  | _ :: _, _, _, _, ⟨s₁, first, rest⟩, same => ⟨s₁, first, rest.congr_right same⟩

/-- Nor on what else there was before. -/
theorem Answered.congr_left :
    ∀ {asks : List (Nat × Exchange)} {s t s' : Workbench},
      s.SameModels t → Answered asks t s' → Answered asks s s'
  | [], _, _, _, same, answered => Workbench.SameModels.trans same answered
  | ask :: _, _, _, _, same, ⟨_, first, rest⟩ => by
    obtain ⟨answer, s₁, t₁, fromS, fromT, sameAfter⟩ := generate_sameModels ask.1 ask.2.request same
    obtain ⟨recorded, rfl⟩ := ended_inj (fromT.symm.trans first)
    exact ⟨s₁, recorded ▸ fromS, Answered.congr_left sameAfter rest⟩

/-- Asking some requests and then others is asking them all in order. -/
theorem Answered.append :
    ∀ {first second : List (Nat × Exchange)} {s b s' : Workbench},
      Answered first s b → Answered second b s' → Answered (first ++ second) s s'
  | [], _, _, _, _, same, answered => Answered.congr_left same answered
  | _ :: _, _, _, _, _, ⟨s₁, asked, rest⟩, answered => ⟨s₁, asked, rest.append answered⟩

end Work

/-! ### Appended predictions -/

/-- The variable `v'` is `v` with the predictions `recorded` appended after its own; its key,
instructions, candidates and phase are kept. -/
structure Variable.Appended (recorded : List Prediction) (v v' : Variable) : Prop where
  key : v'.key = v.key
  predictions : v'.predictions = v.predictions ++ recorded
  instructions : v'.instructions = v.instructions
  candidates : v'.candidates = v.candidates
  phase : v'.phase = v.phase

namespace Variable.Appended

variable {a c : List Prediction} {v v₁ v' : Variable}

theorem refl (v : Variable) : v.Appended [] v := ⟨rfl, (List.append_nil _).symm, rfl, rfl, rfl⟩

theorem trans (first : v.Appended a v₁) (second : v₁.Appended c v') : v.Appended (a ++ c) v' :=
  ⟨second.key.trans first.key, by rw [second.predictions, first.predictions, List.append_assoc],
    second.instructions.trans first.instructions, second.candidates.trans first.candidates,
    second.phase.trans first.phase⟩

end Variable.Appended

namespace VariableStore

/-- A store changed to itself by a relation that holds of every variable and itself. -/
theorem Changed.refl {R : Variable → Variable → Prop} (holds : ∀ v, R v v) (st : VariableStore) :
    st.Changed st.keys R st :=
  ⟨rfl, rfl, fun _ _ => rfl, fun _ _ v found => ⟨v, found, holds v⟩⟩

/-- Calls that record nothing leave every variable as it was. -/
theorem Changed.unrecorded {calls : List GeneratorCall}
    (unrecorded : ∀ c ∈ calls, ∀ key, c.recorded key = none) (st : VariableStore) :
    st.Changed st.keys
      (fun v v' => v.Appended (calls.filterMap (GeneratorCall.recorded v.key)) v') st :=
  Changed.refl (fun v => by
    rw [List.filterMap_eq_nil_iff.mpr fun c member => unrecorded c member v.key]
    exact Variable.Appended.refl v) st

/-- Appending a prediction to a stored key appends it to that key's variable and leaves every
other key as it was. -/
theorem appendPrediction_changed {st : VariableStore} {key : String} {v : Variable}
    (found : st.get? key = some v) (p : Prediction) :
    ∃ st', st.appendPrediction key p = .ok v.predictions.length st' ∧
      st.Changed st.keys (fun w w' => w.Appended (if w.key = key then [p] else []) w') st' := by
  have keyed := key_of_get? found
  let appended : Variable := Variable.touch { v with predictions := v.predictions ++ [p] } st.clock
  have appendedKey : appended.key = key := keyed
  refine ⟨_, appendPrediction_of_stored found p, ?_, rfl, fun k absent => ?_, fun k _ w stored => ?_⟩
  · exact keys_overwrite st.entries appended
  · have other : k ≠ appended.key := fun same => absent (same ▸ appendedKey ▸ mem_keys_of_get? found)
    exact get?_overwrite_of_ne st appended other
  · by_cases same : k = key
    · subst same
      rw [found] at stored
      cases stored
      refine ⟨appended, get?_touch_self found keyed, ?_⟩
      simpa [keyed] using (⟨rfl, rfl, rfl, rfl, rfl⟩ : v.Appended [p] appended)
    · have other : k ≠ appended.key := appendedKey ▸ same
      refine ⟨w, (get?_overwrite_of_ne st appended other).trans stored, ?_⟩
      rw [key_of_get? stored, if_neg same]
      exact Variable.Appended.refl w

/-- A change of every key that keeps each variable's instructions keeps the instructions each
key holds. -/
theorem Changed.held_eq {st st' : VariableStore} {R : Variable → Variable → Prop}
    (changed : st.Changed st.keys R st') (keeps : ∀ v v', R v v' → v'.instructions = v.instructions)
    (key : String) : st'.held key = st.held key := by
  by_cases member : key ∈ st.keys
  · obtain ⟨v, v', found, found', related⟩ := changed.stored member
    simp [held, found, found', keeps v v' related]
  · simp only [held, changed.others key member]

end VariableStore

/-! ### What a program run did -/

namespace Trainer

/-- What a run of generator calls did from the workbench `b` to `b'`: the calls `calls`, in
order, followed the instructions held at `b`; the language models were asked their requests in
that order and gave their answers; each variable got appended the predictions its calls
recorded, and nothing else of the store changed; the optimizer was kept. -/
structure Called (calls : List GeneratorCall) (b b' : Workbench) : Prop where
  following : ∀ c ∈ calls, c.instructions = c.generator.following (b.store.held c.generator.name)
  answered : Work.Answered (calls.map GeneratorCall.ask) b b'
  recorded : b.store.Changed b.store.keys
    (fun v v' => v.Appended (calls.filterMap (GeneratorCall.recorded v.key)) v') b'.store
  optimizer : b'.optimizer = b.optimizer

namespace Called

variable {calls calls' : List GeneratorCall} {b b₁ b' : Workbench}

theorem nil (b : Workbench) : Called [] b b :=
  ⟨fun _ absent => absurd absent List.not_mem_nil, Workbench.SameModels.refl b,
    VariableStore.Changed.refl (fun v => Variable.Appended.refl v) b.store, rfl⟩

/-- A run of calls and then another is a run of them all. -/
theorem append (first : Called calls b b₁) (second : Called calls' b₁ b') :
    Called (calls ++ calls') b b' where
  following c member := by
    rcases List.mem_append.mp member with early | late
    · exact first.following c early
    · rw [second.following c late, first.recorded.held_eq fun _ _ appended => appended.instructions]
  answered := by
    rw [List.map_append]
    exact first.answered.append second.answered
  recorded := by
    have later := second.recorded
    rw [first.recorded.keys_eq] at later
    refine (first.recorded.trans later).mono fun v v' related => ?_
    obtain ⟨v₁, early, late⟩ := related
    rw [List.filterMap_append]
    exact early.trans (early.key ▸ late)
  optimizer := second.optimizer.trans first.optimizer

/-- A run of calls keeps the keys and the locks. -/
theorem keys_eq (called : Called calls b b') : b'.store.keys = b.store.keys :=
  called.recorded.keys_eq

theorem locked_eq (called : Called calls b b') : b'.store.locked = b.store.locked :=
  called.recorded.locked_eq

end Called

end Trainer

/-! ### Runs of generators and programs in training -/

open Trainer

/-- In training, with no key locked and the generator's variable stored if it is bound, a
generator call reads its instructions, asks its model once, records a prediction when the
model answered a bound generator, and ends. -/
theorem Generator.call_called (g : Generator) (input : Record) {b : Workbench}
    (unlocked : b.store.locked = []) (stored : g.bound = true → g.name ∈ b.store.keys) :
    ∃ result b' calls, g.call input true b = Work.ended result b' ∧ Called calls b b' := by
  obtain ⟨answer, b₁, answered, consulted⟩ :=
    Work.consults_generate g.model (g.request input (g.following (b.store.held g.name))) b
  let c : GeneratorCall := ⟨g, input, g.following (b.store.held g.name), answer⟩
  have following : ∀ c' ∈ [c], c'.instructions = c'.generator.following (b.store.held c'.generator.name) := by
    simp [c]
  have asked : Work.Answered [c.ask] b b₁ := ⟨b₁, answered, Workbench.SameModels.refl b₁⟩
  cases answer with
  | error e =>
    have unrecorded : ∀ key, c.recorded key = none := by
      intro key
      simp [c, GeneratorCall.recorded, Except.toOption]
    refine ⟨.error (.model e), b₁, [c], ?_, following, asked, ?_, consulted.optimizer_eq⟩
    · simp [Generator.call, g.activeInstructions_run, answered]
    · rw [consulted.store_eq]
      exact VariableStore.Changed.unrecorded
        (fun _ member => List.mem_singleton.mp member ▸ unrecorded) b.store
  | ok output =>
    by_cases bound : g.bound = true
    · obtain ⟨v, found⟩ := VariableStore.get?_of_mem_keys (stored bound)
      rw [← consulted.store_eq] at found
      have free := VariableStore.lockState_free_of_unlocked found (consulted.store_eq ▸ unlocked)
      obtain ⟨st', appended, changed⟩ := VariableStore.appendPrediction_changed found
        (Prediction.ofParts input.data output.data)
      have recordedUnder : ∀ key, c.recorded key =
          if key = g.name then some (Prediction.ofParts input.data output.data) else none := by
        intro key
        by_cases same : key = g.name
        · simp [c, GeneratorCall.recorded, bound, same, Except.toOption]
        · simp [c, GeneratorCall.recorded, same, Ne.symm same]
      obtain ⟨result, ran⟩ : ∃ result, g.call input true b =
          Work.ended result { b₁ with store := st' } := by
        simp only [Generator.call, Work.bind_run, g.activeInstructions_run, Work.mapError_run,
          answered, Work.ended_ok, bound, Bool.true_and, if_true, Work.locked_run, free,
          Work.change_run, appended]
        split
        · cases input.concat output with
          | ok joined => exact ⟨.ok joined, rfl⟩
          | error e => exact ⟨.error (.record e), rfl⟩
        · exact ⟨.ok output, rfl⟩
      refine ⟨result, { b₁ with store := st' }, [c], ran, following,
        asked.congr_right ⟨rfl, rfl⟩, ?_, consulted.optimizer_eq⟩
      rw [← consulted.store_eq]
      refine changed.mono fun w w' appendedTo => ?_
      by_cases same : w.key = g.name
      · simpa [recordedUnder, same] using appendedTo
      · simpa [recordedUnder, same] using appendedTo
    · have unrecorded : ∀ key, c.recorded key = none := by
        intro key
        simp [c, GeneratorCall.recorded, bound]
      obtain ⟨result, ran⟩ : ∃ result, g.call input true b = Work.ended result b₁ := by
        simp only [Generator.call, Work.bind_run, g.activeInstructions_run, Work.mapError_run,
          answered, Work.ended_ok, bound, Bool.and_false, Bool.false_eq_true, if_false]
        split
        · cases input.concat output with
          | ok joined => exact ⟨.ok joined, rfl⟩
          | error e => exact ⟨.error (.record e), rfl⟩
        · exact ⟨.ok output, rfl⟩
      refine ⟨result, b₁, [c], ran, following, asked, ?_, consulted.optimizer_eq⟩
      rw [consulted.store_eq]
      exact VariableStore.Changed.unrecorded
        (fun _ member => List.mem_singleton.mp member ▸ unrecorded) b.store

mutual

/-- In training, with no key locked and the variables of the node's bound generators stored, a
node run ends and is described by the calls it made. -/
theorem Node.call_called : ∀ (n : Node) (input : Record) (b : Workbench),
    b.store.locked = [] → (∀ k ∈ n.trainable, k ∈ b.store.keys) →
    ∃ result b' calls, Node.call true n input b = Work.ended result b' ∧ Called calls b b'
  | .generator g, input, b, unlocked, stored =>
    g.call_called input unlocked fun bound => stored g.name (by simp [Node.trainable, Generator.trainable, bound])
  | .chain c, input, b, unlocked, stored =>
    c.generator.call_called input unlocked fun bound =>
      stored c.generator.name (by simp [Node.trainable, Generator.trainable, bound])
  | .program name _ declared modules, input, b, unlocked, stored => by
    unfold Node.call
    split
    · exact ⟨.error (.inputMismatch name), b, [], rfl, .nil b⟩
    · exact Node.go_called modules input b unlocked stored

/-- In training, passing a record through nodes ends and is described by the calls made. -/
theorem Node.go_called : ∀ (modules : List Node) (input : Record) (b : Workbench),
    b.store.locked = [] → (∀ k ∈ Node.trainable.go modules, k ∈ b.store.keys) →
    ∃ result b' calls, Node.call.go true modules input b = Work.ended result b' ∧ Called calls b b'
  | [], input, b, _, _ => ⟨.ok input, b, [], rfl, .nil b⟩
  | m :: rest, input, b, unlocked, stored => by
    unfold Node.call.go
    obtain ⟨result, b₁, calls, ran, called⟩ := Node.call_called m input b unlocked
      fun k member => stored k (List.mem_append_left _ member)
    cases result with
    | error e => exact ⟨.error e, b₁, calls, by simp [ran], called⟩
    | ok output =>
      -- the first node kept the keys and the locks, so the rest runs as the first did
      obtain ⟨result, b', calls', ran', called'⟩ := Node.go_called rest output b₁
        (called.locked_eq.trans unlocked)
        fun k member => called.keys_eq ▸ stored k (List.mem_append_right _ member)
      exact ⟨result, b', calls ++ calls', by simp [ran, ran'], called.append called'⟩

end

/-! ### Scoring a dataset -/

namespace Trainer

/-- A workbench ready for the program's run in training: no key is locked, and the variable of
every generator bound in the program is stored. -/
structure Prepared (program : Node) (b : Workbench) : Prop where
  unlocked : b.store.locked = []
  bound : ∀ k ∈ program.trainable, k ∈ b.store.keys

theorem Prepared.called {program : Node} {calls : List GeneratorCall} {b b' : Workbench}
    (prepared : Prepared program b) (called : Called calls b b') : Prepared program b' :=
  ⟨called.locked_eq.trans prepared.unlocked, fun k member => called.keys_eq ▸ prepared.bound k member⟩

open Ieee in
/-- A fold over examples whose every step, from a prepared workbench, adds at most one to the
running total, is, once divided by the number of examples, a valid reward: the total stays at
most the number of examples scored (`atMost_add_float`), so the mean is at most one
(`isValid_mean`). -/
theorem mean_of_scores {program : Node} {n : Nat} {f : Float → Example → Work TrainerError Float}
    (counted : n ≠ 0)
    (step : ∀ total ex b k, Prepared program b → AtMost total.toModel.unpack (min k (2 ^ 53) : Nat) →
      ∃ total' b' calls, f total ex b = .ok total' b' ∧
        AtMost total'.toModel.unpack (min (k + 1) (2 ^ 53) : Nat) ∧ Called calls b b') :
    ∀ (examples : List Example) (total : Float) (k : Nat) (b : Workbench),
      k + examples.length = n → Prepared program b →
      AtMost total.toModel.unpack (min k (2 ^ 53) : Nat) →
      ∃ r b' calls, (examples.foldlM f total >>= fun total => pure (total / n.toFloat) :
          Work TrainerError Float) b = .ok r b' ∧ Reward.isValid r = true ∧ Called calls b b'
  | [], total, k, b, all, _, bounded => by
    simp only [List.length_nil, Nat.add_zero] at all
    subst all
    exact ⟨total / k.toFloat, b, [], rfl, isValid_mean counted bounded, .nil b⟩
  | ex :: rest, total, k, b, all, prepared, bounded => by
    obtain ⟨total₁, b₁, calls, ran, bounded₁, called⟩ := step total ex b k prepared bounded
    obtain ⟨r, b', calls', ran', valid, called'⟩ := mean_of_scores counted step rest total₁ (k + 1)
      b₁ (by simp at all; omega) (prepared.called called) bounded₁
    refine ⟨r, b', calls ++ calls', ?_, valid, called.append called'⟩
    rw [List.foldlM_cons, bind_assoc, Work.bind_run, ran]
    exact ran'

open Ieee in
/-- Scoring a program on a non-empty dataset, from a prepared workbench, gives a valid reward:
a finite number in `[0, 1]`, whatever the models answer and the metric scores.  The run calls the
program's generators as `Called` describes. -/
theorem evaluate_called (program : Node) {dataset : List Example} (metric : Metric) {b : Workbench}
    (nonempty : dataset ≠ []) (prepared : Prepared program b) :
    ∃ r b' calls, evaluate program dataset metric b = .ok r b' ∧ Reward.isValid r = true ∧
      Called calls b b' := by
  have counted : dataset.length ≠ 0 := by simpa using nonempty
  have start : AtMost (0.0 : Float).toModel.unpack (min 0 (2 ^ 53) : Nat) := by
    rw [unpack_zero]
    exact le_refl _
  unfold evaluate
  refine mean_of_scores counted (fun total ex b k prepared bounded => ?_) dataset 0.0 0 b
    (Nat.zero_add _) prepared start
  obtain ⟨result, b₁, calls, ran, called⟩ :=
    Node.call_called program ex.input b prepared.unlocked prepared.bound
  have kept : AtMost total.toModel.unpack (min (k + 1) (2 ^ 53) : Nat) :=
    bounded.mono (by exact_mod_cast min_le_min_right _ (Nat.le_succ k))
  cases result with
  | error e =>
    refine ⟨total, b₁, calls, ?_, kept, called⟩
    simp [ran]
  | ok output =>
    by_cases finite : (metric.score output ex.expected).isFinite = true
    · refine ⟨total + clampScore (metric.score output ex.expected), b₁, calls, ?_,
        atMost_add_float bounded (atMost_clampScore finite), called⟩
      simp [ran, finite]
    · refine ⟨total, b₁, calls, ?_, kept, called⟩
      simp [ran, finite]

end Trainer

end PromptTrainer
