import PromptTrainer.Schema.Validation
/-!
# Building and combining schemas

* `Schema.build` checks a list of fields: names must be distinct and every default must
  pass its field's type (checked at the path of the field's name).  The first bad field, in
  order, is reported.
* `Schema.compose a b` keeps `a`'s fields in order and appends `b`'s other fields; a name
  declared by both must have equal types, its `required` flag is the disjunction, and a
  missing default or description is taken from `b`.  The title is `a`'s, else `b`'s.
* `Schema.mask` drops named fields and `Schema.keep` keeps only named fields; both refuse
  the first name that is not declared, and keep the schema's order and title.
-/

namespace PromptTrainer

/-- Why a schema cannot be built or combined. -/
inductive SchemaError where
  /-- A field declared by both sides of a composition with different types. -/
  | conflict (field left right : String)
  /-- A name that the schema does not declare. -/
  | unknownField (name : String)
  /-- A name declared twice. -/
  | duplicateField (name : String)
  /-- A JSON-Schema document outside the supported dialect. -/
  | invalidJsonSchema (path message : String)
  /-- A default value that does not pass its field's type. -/
  | invalidDefault (field message : String)
deriving BEq, Repr

/-- The wording of a schema error. -/
def SchemaError.message : SchemaError → String
  | .conflict field left right =>
    "conflicting definitions for field '" ++ field ++ "': " ++ left ++ " vs " ++ right
  | .unknownField name => "unknown field: " ++ name
  | .duplicateField name => "duplicate field: " ++ name
  | .invalidJsonSchema path message => "invalid json schema at '" ++ path ++ "': " ++ message
  | .invalidDefault field message => "invalid default for field '" ++ field ++ "': " ++ message

namespace Field

/-- Checks the field's default against its type, at the path of the field's name. -/
def checkDefault (f : Field) : Except SchemaError Unit :=
  match f.default with
  | none => .ok ()
  | some value =>
    match (validateType f.type value f.name).2 with
    | [] => .ok ()
    | violations => .error (.invalidDefault f.name (Violation.joinTexts violations))

end Field

namespace Schema

/-- Checks fields in order, given those already accepted. -/
def buildFrom (accepted : List Field) : List Field → Except SchemaError (List Field)
  | [] => .ok accepted
  | f :: rest =>
    if accepted.any (fun g => g.name == f.name) then .error (.duplicateField f.name)
    else
      match f.checkDefault with
      | .error e => .error e
      | .ok () => buildFrom (accepted ++ [f]) rest

/-- A schema without title from fields with distinct names and valid defaults. -/
def build (fields : List Field) : Except SchemaError Schema :=
  (buildFrom [] fields).map (fun checked => ⟨none, checked⟩)

/-- Merges a field of the right-hand side into the left-hand fields. -/
def mergeField (fields : List Field) (right : Field) : Except SchemaError (List Field) :=
  match fields.find? (fun f => f.name == right.name) with
  | none => .ok (fields ++ [right])
  | some left =>
    if left.type.beq right.type then
      .ok (fields.map (fun f =>
        if f.name == right.name then
          { f with
            required := f.required || right.required
            default := f.default.or right.default
            description := f.description.or right.description }
        else f))
    else .error (.conflict right.name left.type.describe right.type.describe)

/-- Merges right-hand fields one after another. -/
def mergeFields (fields : List Field) : List Field → Except SchemaError (List Field)
  | [] => .ok fields
  | right :: rest =>
    match mergeField fields right with
    | .error e => .error e
    | .ok merged => mergeFields merged rest

/-- The composition of two schemas. -/
def compose (a b : Schema) : Except SchemaError Schema :=
  (mergeFields a.fields b.fields).map (fun fields => ⟨a.title.or b.title, fields⟩)

/-- Checks that every name is declared; the first undeclared one is refused. -/
def resolveNames (s : Schema) (names : List String) : Except SchemaError (List String) :=
  match names.find? (fun n => !s.hasField n) with
  | some missing => .error (.unknownField missing)
  | none => .ok names

/-- The schema without the named fields. -/
def mask (s : Schema) (names : List String) : Except SchemaError Schema :=
  (s.resolveNames names).map (fun names =>
    ⟨s.title, s.fields.filter (fun f => !names.contains f.name)⟩)

/-- The schema with only the named fields. -/
def keep (s : Schema) (names : List String) : Except SchemaError Schema :=
  (s.resolveNames names).map (fun names =>
    ⟨s.title, s.fields.filter (fun f => names.contains f.name)⟩)

end Schema

end PromptTrainer
