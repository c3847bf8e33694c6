import PromptTrainer.Json.Print
import PromptTrainer.Text.Unicode
/-!
# Reading typed data out of JSON values

Decoders turn a JSON value into a typed value or refuse it with a sentence that names what
was found and what was expected: `invalid type: integer `5`, expected a string`,
`missing field `outputs``, `unknown variant `x`, expected one of `a`, `b``.

What was found is named by kind and, for scalars, by value: `null`, ``boolean `true` ``,
``integer `5` ``, ``floating point `1.5` `` (in the data layout of doubles), `string "text"` (quoted
with the escapes of debug text), `sequence`, `map`.

Records are read member by member in the order the members come: the first member of a
known name that does not decode is reported; members of unknown names are skipped; after
that, the first missing member without a default, in declaration order, is reported.
-/

namespace PromptTrainer
namespace Decode

/-- A refusal to decode, as its sentence. -/
abbrev Error := String

/-- A decoder's outcome. -/
abbrev Result (α : Type) := Except Error α

/-- What a value is, as named in refusals. -/
def found : Json → String
  | .null => "null"
  | .bool b => "boolean `" ++ (if b then "true" else "false") ++ "`"
  | .number (.int i) => "integer `" ++ toString i ++ "`"
  | .number (.float f) => "floating point `" ++ Decimal.refusalText f ++ "`"
  | .string s => "string " ++ Unicode.debugQuote s
  | .array _ => "sequence"
  | .object _ => "map"

/-- The refusal of a value of the wrong kind. -/
def invalidType (value : Json) (expected : String) : Error :=
  "invalid type: " ++ found value ++ ", expected " ++ expected

/-- The refusal of a value of the right kind but a wrong value. -/
def invalidValue (value : Json) (expected : String) : Error :=
  "invalid value: " ++ found value ++ ", expected " ++ expected

/-- The refusal of a record without a required member. -/
def missingField (name : String) : Error := "missing field `" ++ name ++ "`"

/-- The refusal of an unknown case name. -/
def unknownVariant (name : String) (cases : List String) : Error :=
  "unknown variant `" ++ name ++ "`, expected one of " ++
    ", ".intercalate (cases.map (fun c => "`" ++ c ++ "`"))

/-- A string. -/
def string : Json → Result String
  | .string s => .ok s
  | v => .error (invalidType v "a string")

/-- A boolean. -/
def bool : Json → Result Bool
  | .bool b => .ok b
  | v => .error (invalidType v "a boolean")

/-- A double: any number. -/
def float : Json → Result Float
  | .number n => .ok n.toFloat
  | v => .error (invalidType v "f64")

/-- An unsigned 64-bit integer; a negative integer is a wrong value. -/
def unsigned : Json → Result Nat
  | .number (.int i) =>
    if i < 0 then .error (invalidValue (.number (.int i)) "u64") else .ok i.toNat
  | v => .error (invalidType v "u64")

/-- An object's members. -/
def members : Json → Result (List (String × Json))
  | .object ms => .ok ms
  | v => .error (invalidType v "a map")

/-- A list, each item decoded. -/
def list {α : Type} (item : Json → Result α) : Json → Result (List α)
  | .array items => items.mapM item
  | v => .error (invalidType v "a sequence")

/-- An optional value: null is absent. -/
def option {α : Type} (inner : Json → Result α) : Json → Result (Option α)
  | .null => .ok none
  | v => (inner v).map some

/-- A case of a list of names, given as its name. -/
def variant (cases : List String) : Json → Result String
  | .string s => if cases.contains s then .ok s else .error (unknownVariant s cases)
  | .object [(name, value)] =>
    if cases.contains name then
      match value with
      | .null => .ok name
      | other => .error (invalidType other "unit")
    else .error (unknownVariant name cases)
  | .object _ => .error "invalid value: map, expected map with a single key"
  | v => .error (invalidType v "string or map")

/-- The refusal of a sequence of the wrong length. -/
def invalidLength (length : Nat) (expected : String) : Error :=
  "invalid length " ++ toString length ++ ", expected " ++ expected

/-- Reads the items of a positional record: item `i` is field `i`.  A missing item is
refused unless its field may be absent; items past the last field are refused after all
fields are read. -/
def positional {σ : Type} (title : String) (fields : List (String × Bool))
    (step : σ → String → Json → Result σ) (count : Nat) (items : List Json) :
    List (String × Bool) → List Json → Nat → σ → Result σ
  | (name, _) :: rest, item :: more, i, acc => do
    positional title fields step count items rest more (i + 1) (← step acc name item)
  | (_, needed) :: rest, [], i, acc =>
    if needed then
      .error (invalidLength i ("struct " ++ title ++ " with " ++ toString fields.length ++
        " elements"))
    else positional title fields step count items rest [] (i + 1) acc
  | [], [], _, acc => .ok acc
  | [], _ :: _, _, _ => .error (invalidLength count "fewer elements in array")

/-- Decodes a record titled `title` whose fields are listed with whether each must be
present.  From an object, each member of a known name is folded in by `step` in the order
the members come, other members are skipped; from an array, items are fields by position.
`finish` then checks the fields that must be present, in declaration order. -/
def record {σ α : Type} (title : String) (fields : List (String × Bool)) (start : σ)
    (step : σ → String → Json → Result σ) (finish : σ → Result α) : Json → Result α
  | .object ms => do
    let acc ← ms.foldlM
      (fun acc m => if fields.any (fun f => f.1 == m.1) then step acc m.1 m.2 else .ok acc)
      start
    finish acc
  | .array items => do
    finish (← positional title fields step items.length items fields items 0 start)
  | v => .error (invalidType v ("struct " ++ title))

/-- The value of a required member, or the refusal naming it. -/
def required {α : Type} (name : String) : Option α → Result α
  | some a => .ok a
  | none => .error (missingField name)

end Decode
end PromptTrainer
