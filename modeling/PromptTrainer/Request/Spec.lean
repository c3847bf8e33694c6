import PromptTrainer.Request.Failure
import PromptTrainer.Shapes
/-!
# Request fields, type and schema specifications, and dumps

Requests name types and schemas in a compact form:

* a type is `"string"`, `"integer"`, `"number"`, `"boolean"`, `"any"`, or an object with
  one of the keys `object` (a schema), `list`, `map`, `optional` (a type), `enum` (a list of
  literals) or `string_enum` (a list of strings);
* a schema is `{"fields": [...], "title"?}`, `{"model": name}` for a reference shape, or
  `{"json_schema": document}`; a field is `{"name", "type", "required"? (true),
  "default"?, "description"?}`;
* a record is `{"schema", "data"}`.

Answers dump schemas as `{"title", "fields"}` with the same type form, and records as
`{"schema", "data"}`.
-/

namespace PromptTrainer
namespace Request

/-- A required member of a request. -/
def field (req : Json) (key : String) : Outcome Json :=
  match req.get? key with
  | some v => .ok v
  | none => .error (.malformed ("missing field '" ++ key ++ "'"))

/-- A required string member. -/
def stringField (req : Json) (key : String) : Outcome String := do
  match ← field req key with
  | .string s => .ok s
  | _ => .error (.malformed ("field '" ++ key ++ "' must be a string"))

/-- An optional string member; null counts as absent. -/
def optString (req : Json) (key : String) : Outcome (Option String) :=
  match req.get? key with
  | none | some .null => .ok none
  | some (.string s) => .ok (some s)
  | some _ => .error (.malformed ("field '" ++ key ++ "' must be a string"))

/-- An optional boolean member with a default. -/
def boolField (req : Json) (key : String) (fallback : Bool) : Outcome Bool :=
  match req.get? key with
  | none | some .null => .ok fallback
  | some (.bool b) => .ok b
  | some _ => .error (.malformed ("field '" ++ key ++ "' must be a boolean"))

/-- A required list member. -/
def listField (req : Json) (key : String) : Outcome (List Json) := do
  match ← field req key with
  | .array items => .ok items
  | _ => .error (.malformed ("field '" ++ key ++ "' must be a list"))

/-- A required list of strings. -/
def stringsField (req : Json) (key : String) : Outcome (List String) := do
  let items ← listField req key
  match items.mapM Json.getString? with
  | some names => .ok names
  | none => .error (.malformed ("field '" ++ key ++ "' must be a list of strings"))

/-- A required natural number member. -/
def natField (req : Json) (key : String) : Outcome Nat := do
  match (← field req key).getUnsigned? with
  | some n => .ok n
  | none => .error (.malformed ("field '" ++ key ++ "' must be a non-negative integer"))

/-- A number read as a double; the strings `NaN`, `inf` and `-inf` stand for the values that
are not finite. -/
def readFloat (value : Json) : Outcome Float :=
  match value with
  | .number n => .ok n.toFloat
  | .string "NaN" => .ok (0.0 / 0.0)
  | .string "inf" => .ok (1.0 / 0.0)
  | .string "-inf" => .ok (-(1.0 / 0.0))
  | .string s => .error (.malformed ("not a number: " ++ s))
  | other => .error (.malformed ("not a number: " ++ Json.compact other))

/-- The reference schemas by name. -/
def referenceSchema? (name : String) : Option Schema :=
  [("generic_inputs", Shapes.genericInputs), ("generic_outputs", Shapes.genericOutputs),
   ("generic_io", Shapes.genericIO), ("generic_result", Shapes.genericResult),
   ("chat_message", Shapes.chatMessage), ("chat_messages", Shapes.chatMessages),
   ("embedding", Shapes.embedding), ("embeddings", Shapes.embeddings),
   ("entity", Shapes.entity), ("embedded_entity", Shapes.embeddedEntity),
   ("relation", Shapes.relation), ("entities", Shapes.entities),
   ("relations", Shapes.relations), ("knowledge_graph", Shapes.knowledgeGraph),
   ("prediction", Shapes.prediction), ("instructions", Shapes.instructions),
   ("similarity_search", Shapes.similaritySearch), ("triplet_search", Shapes.tripletSearch),
   ("opro_input", Shapes.optimizationInput), ("opro_output", Shapes.optimizationOutput),
   ("empty", Schema.empty)].lookup name

mutual
/-- Reads a type specification; `fuel` bounds the nesting. -/
def readTypeSpec (fuel : Nat) (spec : Json) : Outcome FieldType :=
  match fuel with
  | 0 => .error (.malformed "type nested too deeply")
  | fuel + 1 =>
    match spec with
    | .string "string" => .ok .string
    | .string "integer" => .ok .integer
    | .string "number" => .ok .number
    | .string "boolean" => .ok .boolean
    | .string "any" => .ok .any
    | .string other => .error (.malformed ("unknown type '" ++ other ++ "'"))
    | .object members =>
      match Json.lookup members "object", Json.lookup members "list", Json.lookup members "map",
        Json.lookup members "optional", Json.lookup members "enum",
        Json.lookup members "string_enum" with
      | some s, _, _, _, _, _ => (readSchemaSpec fuel s).map .object
      | _, some t, _, _, _, _ => (readTypeSpec fuel t).map .list
      | _, _, some t, _, _, _ => (readTypeSpec fuel t).map .map
      | _, _, _, some t, _, _ => (readTypeSpec fuel t).map .optional
      | _, _, _, _, some (.array values), _ => .ok (.enum values)
      | _, _, _, _, _, some (.array values) =>
        match values.mapM Json.getString? with
        | some names => .ok (FieldType.ofStrings names)
        | none => .error (.malformed "string_enum needs strings")
      | _, _, _, _, _, _ => .error (.malformed ("unknown type '" ++ Json.compact spec ++ "'"))
    | other => .error (.malformed ("unknown type '" ++ Json.compact other ++ "'"))

/-- Reads a field specification. -/
def readFieldSpec (fuel : Nat) (spec : Json) : Outcome Field :=
  match fuel with
  | 0 => .error (.malformed "type nested too deeply")
  | fuel + 1 => do
    let name ← stringField spec "name"
    let type ← readTypeSpec fuel (← field spec "type")
    let required ← boolField spec "required" true
    let description ← optString spec "description"
    .ok ⟨name, type, required, spec.get? "default", description⟩

/-- Reads a schema specification. -/
def readSchemaSpec (fuel : Nat) (spec : Json) : Outcome Schema :=
  match fuel with
  | 0 => .error (.malformed "type nested too deeply")
  | fuel + 1 =>
  match spec.get? "fields", spec.get? "model", spec.get? "json_schema" with
  | some (.array fieldSpecs), _, _ => do
    let fields ← fieldSpecs.mapM (readFieldSpec fuel)
    match Schema.build fields with
    | .error e => .error (SchemaError.failure e)
    | .ok schema =>
      match spec.get? "title" with
      | some (.string t) => .ok (schema.withTitle t)
      | _ => .ok schema
  | some _, _, _ => .error (.malformed "field 'fields' must be a list")
  | none, some (.string name), _ =>
    match referenceSchema? name with
    | some schema => .ok schema
    | none => .error (.malformed ("unknown model '" ++ name ++ "'"))
  | none, some _, _ => .error (.malformed "field 'model' must be a string")
  | none, none, some document =>
    match Schema.ofJsonSchema document with
    | .ok schema => .ok schema
    | .error e => .error (SchemaError.failure e)
  | none, none, none => .error (.malformed "schema needs 'fields', 'model' or 'json_schema'")
end

/-- Reads a type specification. -/
def typeSpec (spec : Json) : Outcome FieldType := readTypeSpec (3 * spec.depth + 3) spec

/-- Reads a schema specification. -/
def schemaSpec (spec : Json) : Outcome Schema := readSchemaSpec (3 * spec.depth + 3) spec

/-- Reads a record specification `{"schema", "data"}`; missing data is null. -/
def recordSpec (spec : Json) : Outcome Record := do
  let schema ← schemaSpec (← field spec "schema")
  match Record.construct schema ((spec.get? "data").getD .null) with
  | .ok r => .ok r
  | .error violations => .error (validationFailure violations)

mutual
/-- The dump of a type. -/
def dumpType : FieldType → Json
  | .string => .string "string"
  | .integer => .string "integer"
  | .number => .string "number"
  | .boolean => .string "boolean"
  | .any => .string "any"
  | .object schema => .object [("object", dumpSchema schema)]
  | .list t => .object [("list", dumpType t)]
  | .map t => .object [("map", dumpType t)]
  | .optional t => .object [("optional", dumpType t)]
  | .enum values => .object [("enum", .array values)]

/-- The dump of a schema. -/
def dumpSchema : Schema → Json
  | ⟨title, fields⟩ =>
    .object [("title", Json.ofStringOption title), ("fields", .array (dumpFields fields))]

/-- The dumps of fields. -/
def dumpFields : List Field → List Json
  | [] => []
  | ⟨name, type, required, default, description⟩ :: rest =>
    let base := [("name", Json.string name), ("type", dumpType type), ("required", .bool required)]
    let withDefault := match default with
      | some d => base ++ [("default", d)]
      | none => base
    let withDescription := match description with
      | some d => withDefault ++ [("description", Json.string d)]
      | none => withDefault
    .object withDescription :: dumpFields rest
end

/-- The dump of a record. -/
def dumpRecord (r : Record) : Json :=
  .object [("schema", dumpSchema r.schema), ("data", .object r.data)]

/-- Every recognizer's verdict, keyed by shape name in listing order. -/
def dumpRecognized (s : Schema) : Json :=
  .object ((Shapes.recognize s).map (fun rv => (rv.1.name, .bool rv.2)))

/-- A schema's dump together with its JSON-Schema document. -/
def dumpSchemaPair (s : Schema) : Json :=
  .object [("schema", dumpSchema s), ("json_schema", s.toJsonSchema)]

end Request
end PromptTrainer
