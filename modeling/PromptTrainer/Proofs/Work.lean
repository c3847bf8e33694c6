import PromptTrainer.Pipeline.Run
/-!
# Running actions on a workbench

An action on a workbench is a function from the workbench to an ending and the workbench
after it.  This module gives each primitive action its equation on a workbench, so that later
proofs run actions step by step without unfolding the monad, and states the frame fact the
optimization proofs rest on.

An action *consults* the language models when, from every workbench, it ends with a value
or a failure (it never waits for a lock) and changes nothing but the language models and the
chat server.  Main statement: running a pipeline node outside training consults the models
(`Node.consults_call`), so a generation call never touches the store, the optimizer or the
hooks, and never stops on a lock.

What a language model is asked along a run is a list of exchanges, each a request and its
answer: `Work.Asked model exchanges s s'` says that asking the model these requests in order,
from the workbench `s`, gives these answers and leaves the models as `s'` holds them.  A
generation call reads and writes nothing but the models and the chat server
(`Work.generate_sameModels`), so what else a run does between its calls does not matter.
-/

namespace PromptTrainer

/-- The ending of an action that gave a value or failed, with the workbench it left. -/
def Work.ended {ε α : Type} : Except ε α → Workbench → EStateM.Result (Stop ε) Workbench α
  | .ok a, s => .ok a s
  | .error e, s => .error (.failed e) s

@[simp] theorem Work.ended_ok {ε α : Type} (a : α) (s : Workbench) :
    (Work.ended (.ok a : Except ε α) s) = .ok a s := rfl

@[simp] theorem Work.ended_error {ε α : Type} (e : ε) (s : Workbench) :
    (Work.ended (.error e : Except ε α) s) = .error (.failed e) s := rfl

theorem Work.ended_inj {ε α : Type} {a b : Except ε α} {s t : Workbench}
    (same : Work.ended a s = Work.ended b t) :
    a = b ∧ s = t := by
  cases a <;> cases b <;> simp_all [Work.ended]

/-- The second workbench is the first with other language models and chat server. -/
def Workbench.Consulted (s s' : Workbench) : Prop :=
  s' = { s with models := s'.models, server := s'.server }

namespace Workbench

theorem Consulted.refl (s : Workbench) : s.Consulted s := rfl

theorem Consulted.trans
    {first second third : Workbench}
    (before : first.Consulted second)
    (after : second.Consulted third) :
    first.Consulted third := by
  unfold Consulted at *
  rw [after, before]

theorem Consulted.store_eq
    {s s' : Workbench}
    (consulted : s.Consulted s') :
    s'.store = s.store := by
  rw [consulted]

theorem Consulted.optimizer_eq
    {s s' : Workbench}
    (consulted : s.Consulted s') :
    s'.optimizer = s.optimizer := by
  rw [consulted]

end Workbench

namespace Work

variable {ε δ α β : Type}

/-! ### Equations of the primitive actions -/

@[simp] theorem pure_run (a : α) (s : Workbench) : (pure a : Work ε α) s = .ok a s := rfl

@[simp] theorem bind_run (x : Work ε α) (f : α → Work ε β) (s : Workbench) :
    (x >>= f) s = match x s with
      | .ok a s' => f a s'
      | .error e s' => .error e s' := by
  cases ran : x s <;> simp [bind, EStateM.bind, ran]

@[simp] theorem map_run (f : α → β) (x : Work ε α) (s : Workbench) :
    (f <$> x) s = match x s with
      | .ok a s' => .ok (f a) s'
      | .error e s' => .error e s' := by
  cases ran : x s <;> simp [Functor.map, EStateM.map, ran]

@[simp] theorem fail_run (e : ε) (s : Workbench) :
    (fail e : Work ε α) s = .error (.failed e) s := rfl

@[simp] theorem block_run (s : Workbench) : (block : Work ε α) s = .error .blocked s := rfl

@[simp] theorem abort_run (m : String) (s : Workbench) :
    (abort m : Work ε α) s = .error (.aborted m) s := rfl

@[simp] theorem store_run (s : Workbench) : (store : Work ε VariableStore) s = .ok s.store s :=
  rfl

@[simp] theorem setStore_run (st : VariableStore) (s : Workbench) :
    (setStore st : Work ε Unit) s = .ok () { s with store := st } := rfl

@[simp] theorem optimizer_run (s : Workbench) :
    (optimizer : Work ε Optimizer) s = .ok s.optimizer s := rfl

@[simp] theorem setOptimizer_run (o : Optimizer) (s : Workbench) :
    (setOptimizer o : Work ε Unit) s = .ok () { s with optimizer := o } := rfl

@[simp] theorem notify_run (kind : HookKind) (context : HookContext) (s : Workbench) :
    (notify kind context : Work ε Unit) s =
      .ok () { s with events := s.events ++ Hook.notify s.hooks kind context } := rfl

@[simp] theorem get?_run (key : String) (s : Workbench) :
    (get? key : Work ε (Option Variable)) s = .ok (s.store.get? key) s := rfl

@[simp] theorem replace_run (v : Variable) (s : Workbench) :
    (replace v : Work ε Unit) s = .ok () { s with store := s.store.replace v } := rfl

@[simp] theorem ofExcept_run (result : Except ε α) (s : Workbench) :
    (ofExcept result : Work ε α) s = ended result s := by
  cases result <;> rfl

@[simp] theorem change_run (f : VariableStore → StoreResult α) (s : Workbench) :
    change f s = match f s.store with
      | .ok a st => .ok a { s with store := st }
      | .error e st => .error (.failed e) { s with store := st } := rfl

@[simp] theorem mapError_run (f : ε → δ) (w : Work ε α) (s : Workbench) :
    (w.mapError f) s = match w s with
      | .ok a s' => .ok a s'
      | .error (.failed e) s' => .error (.failed (f e)) s'
      | .error .blocked s' => .error .blocked s'
      | .error (.aborted m) s' => .error (.aborted m) s' := rfl

@[simp] theorem attempt_run (w : Work ε α) (s : Workbench) :
    (w.attempt : Work δ (Except ε α)) s = match w s with
      | .ok a s' => .ok (.ok a) s'
      | .error (.failed e) s' => .ok (.error e) s'
      | .error .blocked s' => .error .blocked s'
      | .error (.aborted m) s' => .error (.aborted m) s' := rfl

@[simp] theorem settle_run (w : Work ε α) (s : Workbench) :
    (w.settle : Work δ (Option (Except ε α))) s = match w s with
      | .ok a s' => .ok (some (.ok a)) s'
      | .error (.failed e) s' => .ok (some (.error e)) s'
      | .error .blocked s' => .ok none s'
      | .error (.aborted m) s' => .error (.aborted m) s' := rfl

@[simp] theorem awaitLock_run (key : String) (s : Workbench) :
    awaitLock key s = match s.store.lockState key with
      | .missing => .error (.failed (.notFound key)) s
      | .held => .error .blocked s
      | .free => .ok () s := by
  simp only [awaitLock, bind_run, store_run]
  cases s.store.lockState key <;> rfl

@[simp] theorem locked_run (key : String) (f : VariableStore → StoreResult α) (s : Workbench) :
    locked key f s = match s.store.lockState key with
      | .missing => .error (.failed (.notFound key)) s
      | .held => .error .blocked s
      | .free => change f s := by
  simp only [locked, bind_run, awaitLock_run]
  cases s.store.lockState key <;> rfl

/-- An ended action is mapped by mapping its failure. -/
@[simp] theorem mapError_ended (f : ε → δ) (result : Except ε α) (s : Workbench) :
    (match ended result s with
      | .ok a s' => (.ok a s' : EStateM.Result (Stop δ) Workbench α)
      | .error (.failed e) s' => .error (.failed (f e)) s'
      | .error .blocked s' => .error .blocked s'
      | .error (.aborted m) s' => .error (.aborted m) s') = ended (result.mapError f) s := by
  cases result <;> rfl

/-- An ended action gives its ending to `attempt`. -/
@[simp] theorem attempt_ended (result : Except ε α) (s : Workbench) :
    (match ended result s with
      | .ok a s' => (.ok (.ok a) s' : EStateM.Result (Stop δ) Workbench (Except ε α))
      | .error (.failed e) s' => .ok (.error e) s'
      | .error .blocked s' => .error .blocked s'
      | .error (.aborted m) s' => .error (.aborted m) s') = .ok result s := by
  cases result <;> rfl

/-! ### The workbench an action leaves -/

theorem after_of_ended
    {w : Work ε α}
    {s s' : Workbench}
    {result : Except ε α}
    (ran : w s = ended result s') :
    w.after s = s' := by
  cases result <;> simp [after, ran]

theorem after_of_ok
    {w : Work ε α}
    {s s' : Workbench}
    {a : α}
    (ran : w s = .ok a s') :
    w.after s = s' := by
  simp [after, ran]

theorem after_eq_of_run
    {w w' : Work ε α}
    {s s' : Workbench}
    (same : w s = w' s') :
    w.after s = w'.after s' := by
  simp [after, same]

/-- A store operation leaves the workbench with the store it left, whatever it ended with. -/
@[simp] theorem after_change (f : VariableStore → StoreResult α) (s : Workbench) :
    (change f).after s = { s with store := (f s.store).store } := by
  simp only [after, change_run]
  cases f s.store <;> rfl

/-! ### Endings checked by running -/

/-- Whether an action ended with a value, as a check that runs. -/
def endedWithValue : EStateM.Result (Stop ε) Workbench α → Bool
  | .ok _ _ => true
  | .error _ _ => false

/-- An ending the check finds a value is one. -/
theorem ok_of_endedWithValue
    {result : EStateM.Result (Stop ε) Workbench α}
    (ended : endedWithValue result = true) :
    ∃ a s', result = .ok a s' := by
  cases result with
  | ok a s' => exact ⟨a, s', rfl⟩
  | error e s' => cases ended

/-- Whether an action ended in a panic with the message `m`, as a check that runs. -/
def abortedWith (m : String) : EStateM.Result (Stop ε) Workbench α → Bool
  | .error (.aborted m') _ => m' == m
  | _ => false

/-- An ending the check finds aborted is that panic. -/
theorem aborted_of_abortedWith
    {m : String}
    {result : EStateM.Result (Stop ε) Workbench α}
    (aborted : abortedWith m result = true) :
    ∃ s', result = .error (.aborted m) s' := by
  rcases result with _ | ⟨_ | _ | m', s'⟩ <;> simp [abortedWith] at aborted
  exact ⟨s', by rw [aborted]⟩

/-! ### Actions that consult the language models -/

/-- From every workbench the action ends with a value or a failure, and the workbench after
it differs at most in the language models and the chat server. -/
def Consults (w : Work ε α) : Prop :=
  ∀ s, ∃ (result : Except ε α) (s' : Workbench), w s = ended result s' ∧ s.Consulted s'

theorem Consults.consulted_of_ok
    {w : Work ε α}
    {s s' : Workbench}
    {a : α}
    (consults : w.Consults)
    (ran : w s = .ok a s') :
    s.Consulted s' := by
  obtain ⟨result, s₁, ran₁, consulted⟩ := consults s
  rw [ran] at ran₁
  cases result with
  | ok b =>
    simp only [ended_ok, EStateM.Result.ok.injEq] at ran₁
    rw [ran₁.2]
    exact consulted
  | error e => simp at ran₁

theorem Consults.consulted_of_failed
    {w : Work ε α}
    {s s' : Workbench}
    {e : ε}
    (consults : w.Consults)
    (ran : w s = .error (.failed e) s') :
    s.Consulted s' := by
  obtain ⟨result, s₁, ran₁, consulted⟩ := consults s
  rw [ran] at ran₁
  cases result with
  | ok b => simp at ran₁
  | error e₁ =>
    simp only [ended_error, EStateM.Result.error.injEq] at ran₁
    rw [ran₁.2]
    exact consulted

theorem consults_pure (a : α) : (pure a : Work ε α).Consults :=
  fun s => ⟨.ok a, s, rfl, .refl s⟩

theorem consults_fail (e : ε) : (fail e : Work ε α).Consults :=
  fun s => ⟨.error e, s, rfl, .refl s⟩

theorem consults_bind
    {x : Work ε α}
    {f : α → Work ε β}
    (first : x.Consults)
    (rest : ∀ a, (f a).Consults) :
    (x >>= f).Consults := by
  intro s
  obtain ⟨result, s₁, ran, consulted⟩ := first s
  cases result with
  | error e => exact ⟨.error e, s₁, by simp [ran], consulted⟩
  | ok a =>
    obtain ⟨result₂, s₂, ran₂, consulted₂⟩ := rest a s₁
    exact ⟨result₂, s₂, by simp [ran, ran₂], consulted.trans consulted₂⟩

theorem consults_mapError
    {w : Work ε α}
    (f : ε → δ)
    (consults : w.Consults) :
    (w.mapError f).Consults := by
  intro s
  obtain ⟨result, s', ran, consulted⟩ := consults s
  exact ⟨result.mapError f, s', by simp [ran], consulted⟩

theorem consults_get? (key : String) : (get? key : Work ε (Option Variable)).Consults :=
  fun s => ⟨.ok (s.store.get? key), s, rfl, .refl s⟩

theorem consults_generate (model : Nat) (request : GenerationRequest) :
    (generate model request).Consults := by
  intro s
  unfold generate
  split
  · exact ⟨.error (.config "no such language model"), s, rfl, .refl s⟩
  · rename_i m _
    rcases answered : m.generate request s.server with ⟨answer, m', server⟩
    have consulted : s.Consulted
        { s with models := s.models.set model m', server := server } := rfl
    cases answer with
    | ok r => exact ⟨.ok r, _, by simp, consulted⟩
    | error e => exact ⟨.error e, _, by simp, consulted⟩

end Work

/-! ### Generation outside training -/

theorem Generator.consults_activeInstructions (g : Generator) :
    g.activeInstructions.Consults := by
  unfold Generator.activeInstructions
  by_cases bound : g.bound
  · simp only [bound, Bool.not_true, Bool.false_eq_true, if_false]
    refine Work.consults_bind (Work.consults_get? _) (fun stored => ?_)
    split
    · split <;> exact Work.consults_pure _
    · exact Work.consults_pure _
  · simp only [bound, Bool.not_false, if_true]
    exact Work.consults_pure _

/-- A generator called outside training asks its model once and records nothing. -/
theorem Generator.consults_call (g : Generator) (input : Record) :
    (g.call input false).Consults := by
  unfold Generator.call
  refine Work.consults_bind g.consults_activeInstructions (fun instructions => ?_)
  refine Work.consults_bind (Work.consults_mapError _ (Work.consults_generate _ _))
    (fun output => ?_)
  simp only [Bool.false_and, Bool.false_eq_true, if_false]
  split
  · split
    · exact Work.consults_pure _
    · exact Work.consults_fail _
  · exact Work.consults_pure _

mutual

/-- A node run outside training only consults the language models. -/
theorem Node.consults_call : ∀ (n : Node) (input : Record), (Node.call false n input).Consults
  | .generator g, input => by
    simpa only [Node.call] using g.consults_call input
  | .chain c, input => by
    simpa only [Node.call] using c.generator.consults_call input
  | .program name _ declared modules, input => by
    unfold Node.call
    split
    · exact Work.consults_fail _
    · exact Node.consults_go modules input

/-- Passing a record through nodes outside training only consults the language models. -/
theorem Node.consults_go : ∀ (modules : List Node) (input : Record),
    (Node.call.go false modules input).Consults
  | [], input => by
    simpa only [Node.call.go] using Work.consults_pure input
  | m :: rest, input => by
    unfold Node.call.go
    exact Work.consults_bind (Node.consults_call m input)
      (fun output => Node.consults_go rest output)

end

/-! ### Asking a language model in order -/

/-- A request asked of a language model, and its answer. -/
structure Exchange where
  request : GenerationRequest
  answer : Except ModelError Record

/-- Two workbenches hold the same language models and the same chat server. -/
def Workbench.SameModels (s t : Workbench) : Prop := s.models = t.models ∧ s.server = t.server

namespace Workbench

theorem SameModels.refl (s : Workbench) : s.SameModels s := ⟨rfl, rfl⟩

theorem SameModels.trans
    {s t u : Workbench}
    (first : s.SameModels t)
    (second : t.SameModels u) :
    s.SameModels u :=
  ⟨first.1.trans second.1, first.2.trans second.2⟩

end Workbench

namespace Work

/-- A generation call reads and writes no more than the language models and the chat server:
from two workbenches with the same ones it gives the same answer and leaves the same ones. -/
theorem generate_sameModels
    (model : Nat)
    (request : GenerationRequest)
    {s t : Workbench}
    (same : s.SameModels t) :
    ∃ answer s' t', generate model request s = ended answer s' ∧
      generate model request t = ended answer t' ∧ s'.SameModels t' := by
  obtain ⟨models, server⟩ := same
  unfold generate
  rw [models, server]
  split
  · exact ⟨.error (.config "no such language model"), s, t, rfl, rfl, models, server⟩
  · rename_i m _
    rcases m.generate request t.server with ⟨answer, m', server'⟩
    have after : ({ s with models := t.models.set model m', server := server' } :
        Workbench).SameModels { t with models := t.models.set model m', server := server' } :=
      ⟨rfl, rfl⟩
    cases answer with
    | ok r => exact ⟨.ok r, _, _, rfl, rfl, after⟩
    | error e => exact ⟨.error e, _, _, rfl, rfl, after⟩

/-- The language model `model`, asked the requests of `exchanges` one after another from the
workbench `s`, gives their answers, and leaves the language models and the chat server as `s'`
holds them. -/
def Asked (model : Nat) : List Exchange → Workbench → Workbench → Prop
  | [], s, s' => s.SameModels s'
  | x :: rest, s, s' => ∃ s₁, generate model x.request s = ended x.answer s₁ ∧ Asked model rest s₁ s'

variable {model : Nat}

theorem Asked.single
    {request : GenerationRequest}
    {answer : Except ModelError Record}
    {s s' : Workbench}
    (answered : generate model request s = ended answer s') :
    Asked model [⟨request, answer⟩] s s' :=
  ⟨s', answered, .refl s'⟩

/-- What was asked does not depend on what else changes afterwards. -/
theorem Asked.congr_right :
    ∀ {exchanges : List Exchange} {s s' s'' : Workbench},
      Asked model exchanges s s' → s'.SameModels s'' → Asked model exchanges s s''
  | [], _, _, _, asked, same => asked.trans same
  | _ :: _, _, _, _, ⟨s₁, answered, rest⟩, same => ⟨s₁, answered, rest.congr_right same⟩

/-- Nor on what else there was before. -/
theorem Asked.congr_left :
    ∀ {exchanges : List Exchange} {s t s' : Workbench},
      s.SameModels t → Asked model exchanges t s' → Asked model exchanges s s'
  | [], _, _, _, same, asked => same.trans asked
  | x :: _, _, _, _, same, ⟨_, answered, rest⟩ => by
    obtain ⟨answer, s₁, t₁, fromS, fromT, sameAfter⟩ := generate_sameModels model x.request same
    obtain ⟨recorded, rfl⟩ := ended_inj (fromT.symm.trans answered)
    exact ⟨s₁, recorded ▸ fromS, Asked.congr_left sameAfter rest⟩

/-- Asking one list of requests and then another is asking them all in order. -/
theorem Asked.append :
    ∀ {first second : List Exchange} {s b s' : Workbench},
      Asked model first s b → Asked model second b s' → Asked model (first ++ second) s s'
  | [], _, _, _, _, same, asked => Asked.congr_left same asked
  | _ :: _, _, _, _, _, ⟨s₁, answered, rest⟩, asked => ⟨s₁, answered, rest.append asked⟩

end Work

end PromptTrainer
