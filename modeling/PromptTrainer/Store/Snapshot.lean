import PromptTrainer.Store.Basic
/-!
# Snapshots of a store

A snapshot is the JSON document `{"variables": [...]}` listing every variable in key order.
Restoring reads a snapshot's variables, all of them before any is stored, and inserts them
in order as they are (version and instant kept): a stored key is overwritten in place, a new
key is appended and may evict the oldest.  A snapshot without `variables`, or with a
variable that does not decode, changes nothing.
-/

namespace PromptTrainer
namespace VariableStore

/-- The snapshot of a store. -/
def snapshot (s : VariableStore) : Json :=
  .object [("variables", .array (s.entries.map Variable.toJson))]

/-- Restores the variables of a snapshot; answers how many it held. -/
def restore (s : VariableStore) (document : Json) : Except StoreError (Nat × VariableStore) :=
  match document.get? "variables" with
  | none => .error (.serialization "missing 'variables'")
  | some listed =>
    match Decode.list Decode.trainable listed with
    | .error message => .error (.serialization message)
    | .ok restored =>
      .ok (restored.length, restored.foldl (fun acc v => (acc.insert .restore v).1) s)

end VariableStore
end PromptTrainer
