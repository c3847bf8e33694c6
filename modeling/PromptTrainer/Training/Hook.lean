import PromptTrainer.Json.Basic
/-!
# Training hooks

Hooks are told about the course of training: the beginning and end of each epoch, each
variable optimized, and each variable skipped or failed.  Each call carries a context: the
run, the epoch, the variable's key if any, a phase, a message if any, and metadata.

A registered hook either records each call it gets or implements none of them.  A hook may
fail after recording; its failure is only reported and never stops the others.
-/

namespace PromptTrainer

/-- What a hook is told about. -/
inductive HookKind where
  | epochBegin
  | epochEnd
  | variableOptimized
  | variableSkipped
deriving BEq, DecidableEq, Repr

/-- The name of a hook call. -/
def HookKind.name : HookKind → String
  | .epochBegin => "epoch_begin"
  | .epochEnd => "epoch_end"
  | .variableOptimized => "variable_optimized"
  | .variableSkipped => "variable_skipped"

/-- The hook call of a name. -/
def HookKind.ofName? : String → Option HookKind
  | "epoch_begin" => some .epochBegin
  | "epoch_end" => some .epochEnd
  | "variable_optimized" => some .variableOptimized
  | "variable_skipped" => some .variableSkipped
  | _ => none

/-- What a hook call carries. -/
structure HookContext where
  run : String
  epoch : Nat
  key : Option String := none
  phase : String
  message : Option String := none
  metadata : Json := .null

/-- A registered hook. -/
structure Hook where
  /-- The hook's number, its place in registration order. -/
  id : Nat
  /-- Whether the hook records the calls it gets. -/
  records : Bool := true
  /-- Whether the hook reports a failure after recording. -/
  fails : Bool := false

/-- A call recorded by a hook. -/
structure HookEvent where
  hook : Nat
  kind : HookKind
  context : HookContext

/-- The JSON form of a recorded call. -/
def HookEvent.toJson (e : HookEvent) : Json :=
  .object [("hook", Json.nat e.hook), ("event", .string e.kind.name),
    ("epoch", Json.nat e.context.epoch), ("variable", Json.ofStringOption e.context.key),
    ("phase", .string e.context.phase), ("message", Json.ofStringOption e.context.message),
    ("metadata", e.context.metadata)]

/-- The calls recorded when every hook is told of one event, in registration order. -/
def Hook.notify (hooks : List Hook) (kind : HookKind) (context : HookContext) : List HookEvent :=
  (hooks.filter Hook.records).map (fun h => ⟨h.id, kind, context⟩)

end PromptTrainer
