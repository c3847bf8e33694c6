import PromptTrainer.Schema.JsonSchema
/-!
# Records: data checked against a schema

A record is a schema together with object data that passed it.  Every operation that makes
a record goes through validation, so the data has every required field, no undeclared key,
and values in normal form (see `validateType`).

* `Record.construct` validates data and reports every violation; data that is not an object
  is one violation at `$`.
* `Record.update` replaces one declared field with a validated value.
* `Record.concat` composes the schemas, lets the right side's data win on shared keys, and
  validates the union against the composition.
* `Record.project` and `Record.keep` mask the schema and drop the matching data.
* `Record.toPortable` and `Record.ofPortable` go to and from `{"schema", "data"}`, the
  schema in its JSON-Schema form.
-/

namespace PromptTrainer

/-- A schema with data that passed it. -/
structure Record where
  schema : Schema
  data : List (String × Json)

/-- The text of a failed validation: `validation failed: ` and the violations. -/
def validationMessage (violations : List Violation) : String :=
  "validation failed: " ++ Violation.joinTexts violations

/-- Why a record operation failed. -/
inductive RecordError where
  /-- A schema operation failed. -/
  | schema (error : SchemaError)
  /-- The data did not pass the schema. -/
  | validation (violations : List Violation)
  /-- A portable form lacks a part. -/
  | format (message : String)
deriving BEq, Repr

/-- The wording of a record error. -/
def RecordError.message : RecordError → String
  | .schema e => e.message
  | .validation violations => validationMessage violations
  | .format m => "malformed portable value: " ++ m

namespace Record

/-- Validates data against a schema. -/
def construct (schema : Schema) (data : Json) : Except (List Violation) Record :=
  match data with
  | .object members =>
    match validateObject schema members "" with
    | (normalized, []) => .ok ⟨schema, normalized⟩
    | (_, violations) => .error violations
  | _ => .error [⟨"$", "expected an object"⟩]

/-- The value of a field, if present. -/
def get? (r : Record) (name : String) : Option Json := Json.lookup r.data name

/-- The record with one declared field set to a validated value. -/
def update (r : Record) (name : String) (value : Json) : Except RecordError Record :=
  match r.schema.field? name with
  | none => .error (.schema (.unknownField name))
  | some f =>
    match validateType f.type value name with
    | (normalized, []) => .ok ⟨r.schema, Json.setMember r.data name normalized⟩
    | (_, violations) => .error (.validation violations)

/-- The composition of two records: composed schemas, the union of the data with the right
side winning, validated again. -/
def concat (a b : Record) : Except RecordError Record :=
  match a.schema.compose b.schema with
  | .error e => .error (.schema e)
  | .ok schema =>
    match construct schema (.object (Json.setMembers a.data b.data)) with
    | .error violations => .error (.validation violations)
    | .ok r => .ok r

/-- The record under a smaller schema, with the data of its fields only. -/
def restrict (r : Record) (schema : Schema) : Record :=
  ⟨schema, r.data.filter (fun m => schema.hasField m.1)⟩

/-- The record without the named fields. -/
def project (r : Record) (names : List String) : Except RecordError Record :=
  match r.schema.mask names with
  | .error e => .error (.schema e)
  | .ok schema => .ok (r.restrict schema)

/-- The record with only the named fields. -/
def keep (r : Record) (names : List String) : Except RecordError Record :=
  match r.schema.keep names with
  | .error e => .error (.schema e)
  | .ok schema => .ok (r.restrict schema)

/-- The portable form `{"schema": JSON Schema, "data": object}`. -/
def toPortable (r : Record) : Json :=
  .object [("schema", r.schema.toJsonSchema), ("data", .object r.data)]

/-- Reads a portable form: its schema document, then its data validated. -/
def ofPortable (portable : Json) : Except RecordError Record :=
  match portable.get? "schema" with
  | none => .error (.format "missing 'schema'")
  | some schemaDoc =>
    match portable.get? "data" with
    | none => .error (.format "missing 'data'")
    | some data =>
      match Schema.ofJsonSchema schemaDoc with
      | .error e => .error (.schema e)
      | .ok schema =>
        match construct schema data with
        | .error violations => .error (.validation violations)
        | .ok r => .ok r

/-- Equality of records: equal schemas and equal data, member order aside. -/
def beq (a b : Record) : Bool :=
  a.schema.beq b.schema && (Json.object a.data).beq (.object b.data)

instance : BEq Record := ⟨beq⟩

end Record

end PromptTrainer
