import PromptTrainer.Schema.Build
/-!
# The JSON-Schema dialect of schemas

Writing: a schema is `{"title"?, "type": "object", "properties", "required",
"additionalProperties": false}`, each property being its type's document followed by
`description` and `default` when set.  Types: primitives `{"type": name}`, `any` `{}`,
lists `{"type": "array", "items"}`, maps `{"type": "object", "additionalProperties"}`,
optional types `{"anyOf": [T, {"type": "null"}]}`, enumerations `{"enum": [...]}`, nested
schemas as schemas.

Reading accepts more than writing produces: a missing `type` means `any`; a `type` list
with one non-null name is that type, optional when the list has exactly two names; an
`anyOf` with one non-null variant is that variant, optional when a null variant was
dropped; an `object` without `properties` is a map (of `any` unless `additionalProperties`
is a non-empty type document).  Fields are read in property order, required when listed
in `required`, and checked as `Schema.build` checks them.  Errors name the path of the
offending part: `$`, `$.name`, `$.name[]` for list items.
-/

namespace PromptTrainer

namespace FieldType

/-- The type's JSON-Schema document. -/
def toJsonSchema : FieldType → Json
  | .string => .object [("type", .string "string")]
  | .integer => .object [("type", .string "integer")]
  | .number => .object [("type", .string "number")]
  | .boolean => .object [("type", .string "boolean")]
  | .any => .object []
  | .object schema => schemaDocument schema
  | .list items => .object [("type", .string "array"), ("items", toJsonSchema items)]
  | .map values =>
    .object [("type", .string "object"), ("additionalProperties", toJsonSchema values)]
  | .optional inner =>
    .object [("anyOf", .array [toJsonSchema inner, .object [("type", .string "null")]])]
  | .enum values => .object [("enum", .array values)]
where
  /-- The document of a nested schema. -/
  schemaDocument : Schema → Json
    | ⟨title, fields⟩ =>
      let head := match title with
        | some t => [("title", Json.string t)]
        | none => []
      .object (head ++
        [("type", .string "object"),
         ("properties", .object (properties fields)),
         ("required", .array ((fields.filter Field.required).map (fun f => .string f.name))),
         ("additionalProperties", .bool false)])
  /-- The property documents of fields. -/
  properties : List Field → List (String × Json)
    | [] => []
    | ⟨name, type, _, default, description⟩ :: rest =>
      let base := toJsonSchema type
      let withDescription := match base, description with
        | .object members, some d => Json.object (Json.setMember members "description" (.string d))
        | other, _ => other
      let withDefault := match withDescription, default with
        | .object members, some d => Json.object (Json.setMember members "default" d)
        | other, _ => other
      (name, withDefault) :: properties rest

end FieldType

namespace Schema

/-- The schema's JSON-Schema document. -/
def toJsonSchema (s : Schema) : Json := FieldType.toJsonSchema.schemaDocument s

end Schema

namespace JsonSchema

/-- An error at a path of the document. -/
def invalid (path message : String) : SchemaError := .invalidJsonSchema path message

/-- Whether a document is `{"type": "null", ...}`. -/
def isNullType (value : Json) : Bool :=
  value.get? "type" == some (.string "null")

mutual
/-- Reads a schema document at a path; `fuel` bounds the nesting. -/
def readSchema (fuel : Nat) (value : Json) (path : String) : Except SchemaError Schema :=
  match fuel with
  | 0 => .error (invalid path "expected a schema object")
  | fuel + 1 =>
    match value with
    | .object members =>
      let properties : Except SchemaError (List (String × Json)) :=
        match Json.lookup members "properties" with
        | some (.object props) => .ok props
        | some _ => .error (invalid path "properties must be an object")
        | none => .ok []
      match properties with
      | .error e => .error e
      | .ok props =>
        let required : List String :=
          match Json.lookup members "required" with
          | some (.array items) => items.filterMap Json.getString?
          | _ => []
        match readFields fuel props required path with
        | .error e => .error e
        | .ok fields =>
          match Schema.build fields with
          | .error e => .error e
          | .ok schema =>
            match Json.lookup members "title" with
            | some (.string t) => .ok (schema.withTitle t)
            | _ => .ok schema
    | _ => .error (invalid path "expected a schema object")

/-- Reads the fields of a `properties` object. -/
def readFields (fuel : Nat) (props : List (String × Json)) (required : List String)
    (path : String) : Except SchemaError (List Field) :=
  match props with
  | [] => .ok []
  | (name, property) :: rest =>
    match readType fuel property (path ++ "." ++ name) with
    | .error e => .error e
    | .ok type =>
      let base : Field := ⟨name, type, required.contains name, none, none⟩
      let described := match property.get? "description" with
        | some (.string d) => base.withDescription d
        | _ => base
      let defaulted := match property.get? "default" with
        | some d => described.withDefault d
        | none => described
      (readFields fuel rest required path).map (fun others => defaulted :: others)

/-- Reads a type document at a path. -/
def readType (fuel : Nat) (value : Json) (path : String) : Except SchemaError FieldType :=
  match fuel with
  | 0 => .error (invalid path "expected a type object")
  | fuel + 1 =>
    match value with
    | .object members =>
      match Json.lookup members "enum" with
      | some (.array values) => .ok (.enum values)
      | some _ => .error (invalid path "enum must be an array")
      | none =>
        match Json.lookup members "anyOf" with
        | some (.array variants) =>
          let nonNull := variants.filter (fun v => !isNullType v)
          match nonNull with
          | [inner] =>
            if nonNull.length < variants.length then
              (readType fuel inner path).map FieldType.optional
            else readType fuel inner path
          | _ => .error (invalid path "only anyOf[T, null] is supported")
        | _ =>
          match Json.lookup members "type" with
          | none => .ok .any
          | some (.string name) => readNamed fuel name members value path
          | some (.array items) =>
            let names := items.filterMap Json.getString?
            match names.filter (fun n => n != "null") with
            | [name] =>
              if names.length == 2 then (readNamed fuel name members value path).map .optional
              else readNamed fuel name members value path
            | _ => .error (invalid path "union types are not supported")
          | some _ => .error (invalid path "type must be a string or an array")
    | _ => .error (invalid path "expected a type object")

/-- Reads a type given by its name. -/
def readNamed (fuel : Nat) (name : String) (members : List (String × Json)) (value : Json)
    (path : String) : Except SchemaError FieldType :=
  if name == "string" then .ok .string
  else if name == "integer" then .ok .integer
  else if name == "number" then .ok .number
  else if name == "boolean" then .ok .boolean
  else if name == "array" then
    match Json.lookup members "items" with
    | some items => (readType fuel items (path ++ "[]")).map .list
    | none => .ok (.list .any)
  else if name == "object" then
    if (Json.lookup members "properties").isSome then
      (readSchema fuel value path).map .object
    else
      match Json.lookup members "additionalProperties" with
      | some (.object (m :: ms)) => (readType fuel (.object (m :: ms)) path).map .map
      | _ => .ok (.map .any)
  else .error (invalid path ("unsupported type '" ++ name ++ "'"))
end

end JsonSchema

namespace Schema

/-- Reads a schema from a JSON-Schema document. -/
def ofJsonSchema (value : Json) : Except SchemaError Schema :=
  JsonSchema.readSchema (2 * value.depth + 2) value "$"

end Schema

end PromptTrainer
