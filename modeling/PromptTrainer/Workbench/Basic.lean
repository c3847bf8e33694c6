import PromptTrainer.Optimizer.Basic
import PromptTrainer.Generation.Model
import PromptTrainer.Storage.Files
import PromptTrainer.Store.Snapshot
import PromptTrainer.Training.Hook
/-!
# The workbench and its actions

A workbench is what training acts on: the variable store, the table of language models,
the optimizer, the registered hooks with the calls they recorded, and the files the store
is saved to.

An action on a workbench (`Work ε α`) ends in one of four ways: with a value, with an error
of type `ε`, stopped because it waits for a lock that is never released (a lock held from
outside the action), or aborted by a panic, which no caller catches.  In every case the
workbench it leaves holds everything done before the end: committed writes, requests recorded
by models, hook calls.
-/

namespace PromptTrainer

/-- Why an action stopped before its end. -/
inductive Stop (ε : Type) where
  /-- The action failed. -/
  | failed (error : ε)
  /-- The action waits for a lock held from outside. -/
  | blocked
  /-- The action panicked with a message; the whole request ends there. -/
  | aborted (message : String)

/-- The store, the language models, the optimizer and the hooks training acts on. -/
structure Workbench where
  store : VariableStore
  /-- The language models, in creation order. -/
  models : List LanguageModel := []
  optimizer : Optimizer := {}
  hooks : List Hook := []
  /-- The hook calls recorded so far, oldest first. -/
  events : List HookEvent := []
  /-- The files the store is saved to and restored from. -/
  files : FileTree := {}
  /-- The local chat server HTTP models talk to, if there is one. -/
  server : Option ChatServer := none
  /-- The environment variables models read their keys from. -/
  environment : Environment := []

/-- An action on a workbench. -/
abbrev Work (ε α : Type) := EStateM (Stop ε) Workbench α

namespace Work

/-- Fails with an error. -/
def fail {ε α : Type} (e : ε) : Work ε α := throw (.failed e)

/-- Stops: a lock is held from outside. -/
def block {ε α : Type} : Work ε α := throw .blocked

/-- Panics with a message. -/
def abort {ε α : Type} (message : String) : Work ε α := throw (.aborted message)

/-- Fails with the error of a result. -/
def ofExcept {ε α : Type} : Except ε α → Work ε α
  | .ok a => pure a
  | .error e => fail e

/-- The action with each of its errors mapped by a function. -/
def mapError {ε δ α : Type} (f : ε → δ) (w : Work ε α) : Work δ α := fun s =>
  match w s with
  | .ok a s => .ok a s
  | .error (.failed e) s => .error (.failed (f e)) s
  | .error .blocked s => .error .blocked s
  | .error (.aborted m) s => .error (.aborted m) s

/-- The action with its failure as a result; stopping still stops, and a panic still
aborts. -/
def attempt {ε δ α : Type} (w : Work ε α) : Work δ (Except ε α) := fun s =>
  match w s with
  | .ok a s => .ok (.ok a) s
  | .error (.failed e) s => .ok (.error e) s
  | .error .blocked s => .error .blocked s
  | .error (.aborted m) s => .error (.aborted m) s

/-- The action with its ending as a result: a value, an error, or `none` when it stopped;
a panic still aborts. -/
def settle {ε δ α : Type} (w : Work ε α) : Work δ (Option (Except ε α)) := fun s =>
  match w s with
  | .ok a s => .ok (some (.ok a)) s
  | .error (.failed e) s => .ok (some (.error e)) s
  | .error .blocked s => .ok none s
  | .error (.aborted m) s => .error (.aborted m) s

/-- The workbench as it is. -/
def bench {ε : Type} : Work ε Workbench := fun s => .ok s s

/-- The store. -/
def store {ε : Type} : Work ε VariableStore := fun s => .ok s.store s

/-- Replaces the store. -/
def setStore {ε : Type} (store : VariableStore) : Work ε Unit :=
  fun s => .ok () { s with store := store }

/-- The optimizer. -/
def optimizer {ε : Type} : Work ε Optimizer := fun s => .ok s.optimizer s

/-- Replaces the optimizer. -/
def setOptimizer {ε : Type} (o : Optimizer) : Work ε Unit :=
  fun s => .ok () { s with optimizer := o }

/-- A store operation that needs no lock; the store it leaves is kept, also when it fails. -/
def change {α : Type} (f : VariableStore → StoreResult α) : Work StoreError α := fun s =>
  match f s.store with
  | .ok a st => .ok a { s with store := st }
  | .error e st => .error (.failed e) { s with store := st }

/-- Waits for a key's lock: fails if the key is not stored, stops if the lock is held. -/
def awaitLock (key : String) : Work StoreError Unit := do
  match (← store).lockState key with
  | .missing => fail (.notFound key)
  | .held => block
  | .free => pure ()

/-- A store operation made while holding a key's lock. -/
def locked {α : Type} (key : String) (f : VariableStore → StoreResult α) :
    Work StoreError α := do
  awaitLock key
  change f

/-- The variable under a key. -/
def get? {ε : Type} (key : String) : Work ε (Option Variable) := do
  pure ((← store).get? key)

/-- Commits a variable. -/
def replace {ε : Type} (v : Variable) : Work ε Unit := do
  setStore ((← store).replace v)

/-- Asks a language model of the table. -/
def generate (model : Nat) (request : GenerationRequest) : Work ModelError Record := fun s =>
  match s.models[model]? with
  | none => .error (.failed (.config "no such language model")) s
  | some m =>
    let (answer, m, server) := m.generate request s.server
    let s := { s with models := s.models.set model m, server := server }
    match answer with
    | .ok r => .ok r s
    | .error e => .error (.failed e) s

/-- The workbench an action leaves, whatever it ended with. -/
def after {ε α : Type} (w : Work ε α) (s : Workbench) : Workbench :=
  match w s with
  | .ok _ s' => s'
  | .error _ s' => s'

/-- Tells every hook of an event. -/
def notify {ε : Type} (kind : HookKind) (context : HookContext) : Work ε Unit := fun s =>
  .ok () { s with events := s.events ++ Hook.notify s.hooks kind context }

end Work

end PromptTrainer
