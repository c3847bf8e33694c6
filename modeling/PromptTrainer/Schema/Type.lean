import PromptTrainer.Json.Basic
import PromptTrainer.Json.Print
/-!
# Field types and schemas

A schema is an ordered list of named fields, each with a type, a `required` flag, and an
optional default value and description; it may carry a title.  A field type is a primitive
(`string`, `integer`, `number`, `boolean`), `any`, a nested schema, a list, a map with
string keys, an optional type, or an enumeration of JSON literals.

The main operations here are structural:

* `FieldType.narrower a b`: every value of `a` is a value of `b`.  Everything is narrower
  than `any`; `integer` is narrower than `number`; an enumeration is narrower than an
  enumeration holding each of its members and than a primitive accepting each of them;
  optional types, lists and maps are covariant; nested schemas use containment.
* `Schema.contains h n`: each field of `n` is declared in `h`, required there if required in
  `n`, with a narrower type.
* `FieldType.beq`, `Schema.beq`: equality that ignores field order, titles and
  descriptions, and compares enumerations as multisets of literals.

Enumeration members are compared as literals: two numbers are equal when their values as
doubles are equal (so `1` and `1.0` are), other values structurally.
-/

namespace PromptTrainer

mutual
/-- The type of a field. -/
inductive FieldType where
  | string
  | integer
  | number
  | boolean
  | any
  /-- A nested record. -/
  | object (schema : Schema)
  /-- A list of values of one type. -/
  | list (items : FieldType)
  /-- A map from string keys to values of one type. -/
  | map (values : FieldType)
  /-- A value of the inner type, or null. -/
  | optional (inner : FieldType)
  /-- One of a list of JSON literals. -/
  | enum (values : List Json)

/-- A named field of a schema. -/
structure Field where
  name : String
  type : FieldType
  required : Bool
  default : Option Json
  description : Option String

/-- An ordered list of fields with an optional title. -/
structure Schema where
  title : Option String
  fields : List Field
end

/-- Two literals are equal: numbers by their values as doubles, other values
structurally. -/
def literalEq : Json → Json → Bool
  | .number x, .number y => x.toFloat == y.toFloat
  | a, b => a.beq b

namespace Field

/-- A required field without default or description. -/
def ofRequired (name : String) (type : FieldType) : Field := ⟨name, type, true, none, none⟩

/-- An optional field without default or description. -/
def ofOptional (name : String) (type : FieldType) : Field := ⟨name, type, false, none, none⟩

/-- The field with a default value. -/
def withDefault (f : Field) (value : Json) : Field := { f with default := some value }

/-- The field with a description. -/
def withDescription (f : Field) (text : String) : Field := { f with description := some text }

end Field

namespace Schema

/-- The schema with no field and no title. -/
def empty : Schema := ⟨none, []⟩

/-- The field of a name, if declared. -/
def field? (s : Schema) (name : String) : Option Field :=
  s.fields.find? (fun f => f.name == name)

/-- Whether a name is declared. -/
def hasField (s : Schema) (name : String) : Bool :=
  s.fields.any (fun f => f.name == name)

/-- The field names, in order. -/
def names (s : Schema) : List String := s.fields.map Field.name

/-- The number of fields. -/
def size (s : Schema) : Nat := s.fields.length

/-- Whether the schema has no field. -/
def isEmpty (s : Schema) : Bool := s.fields.isEmpty

/-- The schema with a title. -/
def withTitle (s : Schema) (title : String) : Schema := { s with title := some title }

end Schema

namespace FieldType

/-- An enumeration of strings. -/
def ofStrings (values : List String) : FieldType := .enum (values.map Json.string)

/-- Whether the type is `string`, `integer`, `number` or `boolean`. -/
def isPrimitive : FieldType → Bool
  | .string | .integer | .number | .boolean => true
  | _ => false

/-- Whether a primitive or `any` type takes a literal as it is: strings for `string`,
64-bit integers for `integer`, all numbers for `number`, booleans for `boolean`, everything
for `any`.  Other types take no literal this way. -/
def acceptsLiteral : FieldType → Json → Bool
  | .string, .string _ => true
  | .integer, .number n => n.toSigned?.isSome || n.toUnsigned?.isSome
  | .number, .number _ => true
  | .boolean, .bool _ => true
  | .any, _ => true
  | _, _ => false

/-- The short text of a type: `string`, `object{a,b}`, `list<T>`, `map<T>`, `optional<T>`,
`enum[v1,v2]` with members in compact JSON. -/
def describe : FieldType → String
  | .string => "string"
  | .integer => "integer"
  | .number => "number"
  | .boolean => "boolean"
  | .any => "any"
  | .object schema => "object\x7b" ++ ",".intercalate schema.names ++ "\x7d"
  | .list items => "list<" ++ describe items ++ ">"
  | .map values => "map<" ++ describe values ++ ">"
  | .optional inner => "optional<" ++ describe inner ++ ">"
  | .enum values => "enum[" ++ ",".intercalate (values.map Json.compact) ++ "]"

/-- The number of members of a list equal to a literal. -/
def literalCount (values : List Json) (v : Json) : Nat :=
  (values.filter (literalEq v)).length

/-- Two member lists are equal as multisets of literals. -/
def sameLiterals (a b : List Json) : Bool :=
  a.length == b.length && a.all (fun v => literalCount a v == literalCount b v)

end FieldType

mutual
/-- Narrowing: every value of the first type is a value of the second. -/
def FieldType.narrower : FieldType → FieldType → Bool
  | _, .any => true
  | .optional a, .optional b => FieldType.narrower a b
  | .optional _, _ => false
  | a, .optional b => FieldType.narrower a b
  | .string, .string => true
  | .integer, .integer => true
  | .number, .number => true
  | .boolean, .boolean => true
  | .integer, .number => true
  | .enum a, .enum b => a.all (fun v => b.any (literalEq v))
  | .enum a, .string => a.all (FieldType.string.acceptsLiteral)
  | .enum a, .integer => a.all (FieldType.integer.acceptsLiteral)
  | .enum a, .number => a.all (FieldType.number.acceptsLiteral)
  | .enum a, .boolean => a.all (FieldType.boolean.acceptsLiteral)
  | .list a, .list b => FieldType.narrower a b
  | .map a, .map b => FieldType.narrower a b
  | .object a, .object b => Schema.contains a b
  | _, _ => false

/-- Containment: each field of the needle is declared in the haystack, required there if
required in the needle, with a narrower type. -/
def Schema.contains (haystack : Schema) : Schema → Bool
  | ⟨_, wanted⟩ => Schema.containsFields haystack wanted

/-- Each of the wanted fields is matched in the haystack. -/
def Schema.containsFields (haystack : Schema) : List Field → Bool
  | [] => true
  | ⟨name, type, required, _, _⟩ :: rest =>
    (match haystack.field? name with
     | some found => (!required || found.required) && FieldType.narrower found.type type
     | none => false) && Schema.containsFields haystack rest
end

namespace FieldType

@[simp] theorem narrower_any (a : FieldType) : a.narrower .any = true := by
  cases a <;> rfl

/-- A type that is not optional is narrower than an optional type when it is narrower than the
type inside. -/
theorem narrower_optional {a : FieldType} (plain : ∀ a', a ≠ .optional a') (b : FieldType) :
    a.narrower (.optional b) = a.narrower b :=
  narrower.eq_4 a b (fun a' same => plain a' same)

end FieldType

mutual
/-- Equality of types: enumerations as multisets of literals, nested schemas by
`Schema.beq`, the rest by shape. -/
def FieldType.beq : FieldType → FieldType → Bool
  | .string, .string => true
  | .integer, .integer => true
  | .number, .number => true
  | .boolean, .boolean => true
  | .any, .any => true
  | .object a, .object b => Schema.beq a b
  | .list a, .list b => FieldType.beq a b
  | .map a, .map b => FieldType.beq a b
  | .optional a, .optional b => FieldType.beq a b
  | .enum a, .enum b => FieldType.sameLiterals a b
  | _, _ => false

/-- Equality of schemas: the same number of fields, and each field equal to the field of its
name in the other schema (name, type, required flag and default; not the description).
Titles and order do not count. -/
def Schema.beq : Schema → Schema → Bool
  | ⟨_, fields⟩, other => fields.length == other.fields.length && Schema.beqFields fields other

/-- Each of the fields equals the field of its name in the other schema. -/
def Schema.beqFields : List Field → Schema → Bool
  | [], _ => true
  | ⟨name, type, required, default, _⟩ :: rest, other =>
    (match other.field? name with
     | some found =>
       FieldType.beq type found.type && required == found.required &&
         (match default, found.default with
          | some a, some b => a.beq b
          | none, none => true
          | _, _ => false)
     | none => false) && Schema.beqFields rest other
end

instance : BEq FieldType := ⟨FieldType.beq⟩

instance : BEq Schema := ⟨Schema.beq⟩

end PromptTrainer
