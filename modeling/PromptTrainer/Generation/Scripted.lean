import PromptTrainer.Generation.Request
/-!
# Scripted language models

A scripted model answers from a queue: each request is recorded, then the next queued
answer is taken (a queued failure is returned as it is); when the queue is empty the
fallback answer is used, and without one the model fails with `no scripted response left`.
An answer is checked against the request's output schema, and one that does not pass is a
malformed answer.
-/

namespace PromptTrainer

/-- A language model replaying queued answers, with the requests it was asked. -/
structure ScriptedModel where
  name : String
  queue : List (Except ModelError Json) := []
  fallback : Option Json := none
  /-- The requests asked so far, oldest first. -/
  requests : List GenerationRequest := []

namespace ScriptedModel

/-- The answer to a request, and the model after it. -/
def generate (m : ScriptedModel) (request : GenerationRequest) :
    Except ModelError Record × ScriptedModel :=
  let asked := { m with requests := m.requests ++ [request] }
  let (next, rest) : Option (Except ModelError Json) × List (Except ModelError Json) :=
    match m.queue with
    | [] => (none, [])
    | a :: rest => (some a, rest)
  let after := { asked with queue := rest }
  let output : Except ModelError Json :=
    match next with
    | some answer => answer
    | none =>
      match m.fallback with
      | some v => .ok v
      | none => .error (.response "no scripted response left")
  match output with
  | .error e => (.error e, after)
  | .ok v =>
    match Record.construct request.outputSchema v with
    | .ok r => (.ok r, after)
    | .error violations => (.error (.malformed (validationMessage violations)), after)

/-- The number of requests asked. -/
def callCount (m : ScriptedModel) : Nat := m.requests.length

/-- The portable configuration of the model. -/
def config (m : ScriptedModel) : Json :=
  .object [("kind", .string "scripted"), ("model", .string m.name)]

end ScriptedModel

end PromptTrainer
