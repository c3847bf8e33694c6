import PromptTrainer.Store.Snapshot
/-!
# Calls on a store

The calls that can change a store, each with the arguments it is given: registering a key,
appending a prediction, attaching a reward, merging an update, committing a whole variable,
taking and releasing a key's lock, and restoring a snapshot.

`VariableStore.call` answers how a call ends and the store it leaves, also when it fails.  A
write that waits for its key's lock runs once it holds it; what it does to the variables does
not depend on when, so a call here is the call as it ends.  Taking a lock needs a stored key;
an attached reward is checked before the lock is asked for.  `VariableStore.perform` is the
store a call leaves, whatever its ending, and a run is the calls performed one after another
(`VariableStore.performAll`).
-/

namespace PromptTrainer

/-- A call that can change a store. -/
inductive StoreCall where
  /-- Registers a key with initial instructions, unless it is stored. -/
  | register (key : String) (initial : Option Instructions)
  /-- Records a prediction under a key. -/
  | appendPrediction (key : String) (p : Prediction)
  /-- Scores a recorded prediction of a key. -/
  | attachReward (key : String) (index : Nat) (r : Float)
  /-- Merges a partial update into a key's variable. -/
  | set (key : String) (update : VariableUpdate)
  /-- Commits a whole variable under its key. -/
  | replace (v : Variable)
  /-- Takes a key's lock. -/
  | lock (key : String)
  /-- Releases every hold on a key's lock. -/
  | unlock (key : String)
  /-- Loads the variables of a snapshot. -/
  | restore (document : Json)

namespace VariableStore

/-- The ending of an operation, its value dropped. -/
def ended {α : Type} : StoreResult α → StoreResult Unit
  | .ok _ s => .ok () s
  | .error e s => .error e s

@[simp] theorem ended_ok {α : Type} (a : α) (s : VariableStore) :
    ended (.ok a s : StoreResult α) = .ok () s := rfl

@[simp] theorem ended_error {α : Type} (e : StoreError) (s : VariableStore) :
    ended (.error e s : StoreResult α) = .error e s := rfl

@[simp] theorem store_ended {α : Type} (r : StoreResult α) : (ended r).store = r.store := by
  cases r <;> rfl

/-- How a call ends, and the store it leaves. -/
def call (s : VariableStore) : StoreCall → StoreResult Unit
  | .register key initial => .ok () (s.register key initial).1
  | .appendPrediction key p => ended (s.appendPrediction key p)
  | .attachReward key index r =>
    match rewardRefusal r with
    | some e => .error e s
    | none => s.attachReward key index r
  | .set key u => ended (s.set key u)
  | .replace v => .ok () (s.replace v)
  | .lock key => if s.contains key then .ok () (s.lock key) else .error (.notFound key) s
  | .unlock key => .ok () (s.unlock key).1
  | .restore document => ended (s.decided (s.restore document))

/-- The store a call leaves, whether it ended with a value or failed. -/
def perform (s : VariableStore) (c : StoreCall) : VariableStore := (s.call c).store

/-- The store after calls made one after another. -/
def performAll (s : VariableStore) (calls : List StoreCall) : VariableStore :=
  calls.foldl perform s

@[simp] theorem call_register (s : VariableStore) (key : String) (initial : Option Instructions) :
    s.call (.register key initial) = .ok () (s.register key initial).1 := rfl

@[simp] theorem call_appendPrediction (s : VariableStore) (key : String) (p : Prediction) :
    s.call (.appendPrediction key p) = ended (s.appendPrediction key p) := rfl

@[simp] theorem call_attachReward (s : VariableStore) (key : String) (index : Nat) (r : Float) :
    s.call (.attachReward key index r) =
      match rewardRefusal r with
      | some e => .error e s
      | none => s.attachReward key index r := rfl

@[simp] theorem call_set (s : VariableStore) (key : String) (u : VariableUpdate) :
    s.call (.set key u) = ended (s.set key u) := rfl

@[simp] theorem call_replace (s : VariableStore) (v : Variable) :
    s.call (.replace v) = .ok () (s.replace v) := rfl

@[simp] theorem call_lock (s : VariableStore) (key : String) :
    s.call (.lock key) =
      if s.contains key then .ok () (s.lock key) else .error (.notFound key) s := rfl

@[simp] theorem call_unlock (s : VariableStore) (key : String) :
    s.call (.unlock key) = .ok () (s.unlock key).1 := rfl

@[simp] theorem call_restore (s : VariableStore) (document : Json) :
    s.call (.restore document) = ended (s.decided (s.restore document)) := rfl

end VariableStore

end PromptTrainer
