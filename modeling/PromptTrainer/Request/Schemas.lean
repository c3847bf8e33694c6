import PromptTrainer.Request.Spec
/-!
# Requests on schemas and records

Answers to the requests that inspect and combine schemas and records: building and dumping
a schema, composition, containment, equality, narrowing, literal acceptance, masking, the
JSON-Schema dialect, record construction, portable forms, and scripted record edits.
-/

namespace PromptTrainer
namespace Request

/-- A schema error as the outcome of a request. -/
def liftSchema {α : Type} : Except SchemaError α → Outcome α
  | .ok a => .ok a
  | .error e => .error (SchemaError.failure e)

/-- A record error as the outcome of a request. -/
def liftRecord {α : Type} : Except RecordError α → Outcome α
  | .ok a => .ok a
  | .error e => .error (RecordError.failure e)

/-- A schema with its dump, document, names, size and recognized shapes. -/
def describeSchema (req : Json) : Outcome Json := do
  let s ← schemaSpec (← field req "schema")
  .ok (.object [("schema", dumpSchema s), ("json_schema", s.toJsonSchema),
    ("names", Json.ofStrings s.names), ("len", Json.nat s.size), ("is_empty", .bool s.isEmpty),
    ("recognize", dumpRecognized s)])

/-- The composition of two schemas. -/
def composeSchemas (req : Json) : Outcome Json := do
  let a ← schemaSpec (← field req "a")
  let b ← schemaSpec (← field req "b")
  .ok (dumpSchemaPair (← liftSchema (a.compose b)))

/-- Containment both ways, and equality. -/
def containment (req : Json) : Outcome Json := do
  let h ← schemaSpec (← field req "haystack")
  let n ← schemaSpec (← field req "needle")
  .ok (.object [("contains", .bool (h.contains n)), ("reverse", .bool (n.contains h)),
    ("equal", .bool (h.beq n))])

/-- Schema equality. -/
def schemaEquality (req : Json) : Outcome Json := do
  let a ← schemaSpec (← field req "a")
  let b ← schemaSpec (← field req "b")
  .ok (.object [("equal", .bool (a.beq b))])

/-- Narrowing both ways, equality and descriptions of two types. -/
def narrowing (req : Json) : Outcome Json := do
  let a ← typeSpec (← field req "a")
  let b ← typeSpec (← field req "b")
  .ok (.object [("narrower", .bool (a.narrower b)), ("reverse", .bool (b.narrower a)),
    ("equal", .bool (a.beq b)), ("describe_a", .string a.describe),
    ("describe_b", .string b.describe), ("primitive_a", .bool a.isPrimitive)])

/-- Whether a type takes a literal as it is. -/
def literalAcceptance (req : Json) : Outcome Json := do
  let t ← typeSpec (← field req "type")
  .ok (.object [("accepts", .bool (t.acceptsLiteral (← field req "value")))])

/-- A schema without, or with only, named fields. -/
def maskSchema (keepNamed : Bool) (req : Json) : Outcome Json := do
  let s ← schemaSpec (← field req "schema")
  let names ← stringsField req "names"
  let masked ← liftSchema (if keepNamed then s.keep names else s.mask names)
  .ok (dumpSchemaPair masked)

/-- A schema read from a JSON-Schema document. -/
def readJsonSchema (req : Json) : Outcome Json := do
  .ok (dumpSchemaPair (← liftSchema (Schema.ofJsonSchema (← field req "json"))))

/-- A record constructed from a schema and data. -/
def constructRecord (req : Json) : Outcome Json := do
  let s ← schemaSpec (← field req "schema")
  match Record.construct s ((req.get? "data").getD .null) with
  | .ok r => .ok (dumpRecord r)
  | .error violations => .error (validationFailure violations)

/-- Validates data against a schema: the record's field names and normalized data, or the
paths of the violations. -/
def validateRecord (req : Json) : Outcome Json := do
  let s ← schemaSpec (← field req "schema")
  match Record.construct s ((req.get? "data").getD .null) with
  | .ok r =>
    .ok (.object [("valid", .bool true), ("names", Json.ofStrings r.schema.names),
      ("data", .object r.data), ("into_data", .object r.data)])
  | .error violations =>
    .ok (.object [("valid", .bool false), ("paths", Json.ofStrings (violations.map Violation.path))])

/-- A record read from its portable form. -/
def readPortable (req : Json) : Outcome Json := do
  .ok (dumpRecord (← liftRecord (Record.ofPortable (← field req "map"))))

/-- One scripted edit of a record: the result and the record after it. -/
def recordStep (current : Record) (step : Json) : Outcome (Json × Record) := do
  let op ← stringField step "op"
  if op == "get" then
    let name ← stringField step "name"
    match current.get? name with
    | some v => .ok (.object [("present", .bool true), ("value", v)], current)
    | none => .ok (.object [("present", .bool false), ("value", .null)], current)
  else if op == "update" then
    let name ← stringField step "name"
    let r ← liftRecord (current.update name (← field step "value"))
    .ok (.null, r)
  else if op == "concat" then
    let other ← recordSpec (← field step "other")
    .ok (.null, ← liftRecord (current.concat other))
  else if op == "project" then
    .ok (.null, ← liftRecord (current.project (← stringsField step "names")))
  else if op == "keep" then
    .ok (.null, ← liftRecord (current.keep (← stringsField step "names")))
  else if op == "to_map" then
    .ok (current.toPortable, current)
  else if op == "roundtrip" then
    let back ← liftRecord (Record.ofPortable current.toPortable)
    .ok (.object [("equal", .bool (back.beq current))], back)
  else if op == "recognize" then
    .ok (dumpRecognized current.schema, current)
  else if op == "equals" then
    let other ← recordSpec (← field step "other")
    .ok (.object [("equal", .bool (current.beq other))], current)
  else if op == "into_parts" then
    .ok (.object [("names", Json.ofStrings current.schema.names), ("data", .object current.data)],
      current)
  else .error (.malformed ("unknown value op '" ++ op ++ "'"))

/-- The answer of one step: its result or error, then the record after it. -/
def stepAnswer (outcome : Outcome Json) (after : Record) : Json :=
  let head := match outcome with
    | .ok result => [("result", result)]
    | .error f => f.members
  .object (head ++ [("current", dumpRecord after)])

/-- Runs scripted edits; a failed edit leaves the record as it was. -/
def runRecordSteps (current : Record) : List Json → List Json
  | [] => []
  | step :: rest =>
    match recordStep current step with
    | .ok (result, next) => stepAnswer (.ok result) next :: runRecordSteps next rest
    | .error f => stepAnswer (.error f) current :: runRecordSteps current rest

/-- A record followed through scripted edits. -/
def editRecord (req : Json) : Outcome Json := do
  let r ← recordSpec (← field req "value")
  let steps ← listField req "steps"
  .ok (.object [("steps", .array (runRecordSteps r steps))])

end Request
end PromptTrainer
