import PromptTrainer.Variable.Codec
/-!
# The variable store

A store keeps trainable variables under their keys, in the order the keys were first
inserted, up to a capacity of at least one.  Inserting a new key into a full store evicts the
oldest key; writes to a key already present keep its place.

Each key has a lock.  The store records which keys are locked; a key stays locked, even if it
is evicted, until its holder releases it.  Writes that wait for the lock
(`appendPrediction`, `attachReward`, `set`) are stated here for a free lock: a caller first
asks `lockState`, and a locked key makes it wait.

These writes change the stored variable in place (`modify`): the change runs on the variable
itself, and when it fails, what it changed before failing stays.  So an operation ends with a
value or an error, and in either case leaves a store (`StoreResult`).

Writes come in three modes:

* registration (`register`) leaves an existing key alone and stores a new variable at
  version 1;
* a committed write (`replace`) continues the stored version: the new state gets the stored
  version plus one, or its own version plus one for a new key;
* a restore keeps the variable as given, version and instant included.

Every committed change stamps the store's clock on the variable.
-/

namespace PromptTrainer

/-- Why a store operation failed. -/
inductive StoreError where
  /-- No variable under the key. -/
  | notFound (key : String)
  /-- An argument is out of its range. -/
  | invalidArgument (message : String)
  /-- A snapshot could not be read. -/
  | serialization (message : String)
deriving BEq, Repr

/-- The wording of a store error. -/
def StoreError.message : StoreError → String
  | .notFound key => "Item not found: " ++ key
  | .invalidArgument m => "Invalid argument: " ++ m
  | .serialization m => "Serialization error: " ++ m

/-- How an insertion treats the key's current variable and the version. -/
inductive InsertMode where
  /-- Keep an existing variable; a new one starts its version sequence. -/
  | ifAbsent
  /-- Continue the stored version sequence. -/
  | commit
  /-- Keep version and instant as given. -/
  | restore
deriving BEq, DecidableEq, Repr

/-- The state of a key's lock. -/
inductive LockState where
  /-- No variable under the key. -/
  | missing
  /-- The lock is taken. -/
  | held
  /-- The lock can be taken. -/
  | free
deriving BEq, DecidableEq, Repr

/-- Variables under their keys, in insertion order, with a capacity and the locked keys. -/
structure VariableStore where
  /-- The most variables kept; at least one. -/
  capacity : Nat
  /-- The variables, oldest key first. -/
  entries : List Variable
  /-- The keys whose lock is taken. -/
  locked : List String
  /-- The instant stamped on committed writes. -/
  clock : Timestamp

/-- The capacity of a store when none is given. -/
def VariableStore.defaultCapacity : Nat := 1024

/-- How a store operation ended, and the store it left, also when it failed. -/
abbrev StoreResult (α : Type) := EStateM.Result StoreError VariableStore α

/-- The store an operation left, whether it ended with a value or failed. -/
def StoreResult.store {α : Type} : StoreResult α → VariableStore
  | .ok _ s => s
  | .error _ s => s

@[simp] theorem StoreResult.store_ok {α : Type} (a : α) (s : VariableStore) :
    StoreResult.store (.ok a s) = s := rfl

@[simp] theorem StoreResult.store_error {α : Type} (e : StoreError) (s : VariableStore) :
    StoreResult.store (.error e s : StoreResult α) = s := rfl

/-- Whether an operation ended with a value. -/
def StoreResult.isOk {α : Type} : StoreResult α → Bool
  | .ok _ _ => true
  | .error _ _ => false

@[simp] theorem StoreResult.isOk_ok {α : Type} (a : α) (s : VariableStore) :
    StoreResult.isOk (.ok a s) = true := rfl

@[simp] theorem StoreResult.isOk_error {α : Type} (e : StoreError) (s : VariableStore) :
    StoreResult.isOk (.error e s : StoreResult α) = false := rfl

/-- A change made in place to a variable: it ends with a value or an error, and the variable
it leaves keeps what it changed before ending. -/
abbrev VariableChange (α : Type) := Variable → EStateM.Result StoreError Variable α

namespace VariableStore

/-- An empty store keeping at most `max n 1` variables. -/
def empty (n : Nat) (clock : Timestamp) : VariableStore := ⟨max n 1, [], [], clock⟩

/-- The keys, oldest first. -/
def keys (s : VariableStore) : List String := s.entries.map Variable.key

/-- The variable under a key. -/
def get? (s : VariableStore) (key : String) : Option Variable :=
  s.entries.find? (fun v => v.key == key)

/-- Whether a key is stored. -/
def contains (s : VariableStore) (key : String) : Bool := s.entries.any (fun v => v.key == key)

/-- The state of a key's lock. -/
def lockState (s : VariableStore) (key : String) : LockState :=
  if !s.contains key then .missing
  else if s.locked.contains key then .held
  else .free

/-- Takes a key's lock. -/
def lock (s : VariableStore) (key : String) : VariableStore := { s with locked := key :: s.locked }

/-- Releases every hold on a key's lock, with the number of holds released. -/
def unlock (s : VariableStore) (key : String) : VariableStore × Nat :=
  ({ s with locked := s.locked.filter (· != key) }, s.locked.count key)

/-- Puts a variable in the place of the stored variable with its key. -/
def overwrite (entries : List Variable) (v : Variable) : List Variable :=
  entries.map (fun e => if e.key == v.key then v else e)

/-- Inserts a variable in a mode; answers whether it was written. -/
def insert (s : VariableStore) (mode : InsertMode) (v : Variable) : VariableStore × Bool :=
  match s.get? v.key with
  | some existing =>
    match mode with
    | .ifAbsent => (s, false)
    | .commit =>
      let continued := { v with version := existing.version }.touch s.clock
      ({ s with entries := overwrite s.entries continued }, true)
    | .restore => ({ s with entries := overwrite s.entries v }, true)
  | none =>
    let stored := if mode == .restore then v else v.touch s.clock
    let kept := if s.entries.length ≥ s.capacity then s.entries.drop 1 else s.entries
    ({ s with entries := kept ++ [stored] }, true)

/-- Creates a variable with initial instructions unless the key is stored; answers whether
it was created. -/
def register (s : VariableStore) (key : String) (initial : Option Instructions) :
    VariableStore × Bool :=
  s.insert .ifAbsent { Variable.ofKey key s.clock with instructions := initial }

/-- Commits a full variable state under its key. -/
def replace (s : VariableStore) (v : Variable) : VariableStore := (s.insert .commit v).1

/-- An operation decided before it changes anything: when it fails, the store is as it was. -/
def decided {α : Type} (s : VariableStore) : Except StoreError (α × VariableStore) → StoreResult α
  | .ok (a, s') => .ok a s'
  | .error e => .error e s

/-- Runs a change in place on the variable stored under a key.  A change that ends with a value
is a write, stamped with the clock; one that fails leaves the variable as it changed it,
unstamped. -/
def modify {α : Type} (s : VariableStore) (key : String) (change : VariableChange α) :
    StoreResult α :=
  match s.get? key with
  | none => .error (.notFound key) s
  | some v =>
    match change v with
    | .ok a changed => .ok a { s with entries := overwrite s.entries (changed.touch s.clock) }
    | .error e changed => .error e { s with entries := overwrite s.entries changed }

/-- Appends a prediction; answers its index. -/
def appendPrediction (s : VariableStore) (key : String) (p : Prediction) : StoreResult Nat :=
  s.modify key (fun v =>
    .ok v.predictions.length { v with predictions := v.predictions ++ [p] })

/-- The refusal of an invalid reward, if it is one. -/
def rewardRefusal (r : Float) : Option StoreError :=
  if Reward.isValid r then none
  else some (.invalidArgument ("reward must be in [0, 1], got " ++ Decimal.plainText r))

/-- Sets the reward of a recorded prediction; the index is checked before the change. -/
def attachReward (s : VariableStore) (key : String) (index : Nat) (r : Float) :
    StoreResult Unit :=
  s.modify key (fun v =>
    if index < v.predictions.length then
      let scored := v.predictions.modify index (fun p => { p with reward := some r })
      .ok () { v with predictions := scored }
    else
      .error (.invalidArgument ("prediction index " ++ toString index ++ " out of range (" ++
        toString v.predictions.length ++ " recorded)")) v)

/-- Merges a partial update; answers the committed variable, read back. -/
def set (s : VariableStore) (key : String) (u : VariableUpdate) : StoreResult Variable :=
  match s.modify key (fun v => .ok () (v.apply u)) with
  | .ok () s' =>
    match s'.get? key with
    | some v => .ok v s'
    | none => .error (.notFound key) s'
  | .error e s' => .error e s'

end VariableStore

end PromptTrainer
