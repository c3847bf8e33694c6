import PromptTrainer.Schema.Type
/-!
# Validating data against a schema

`validateType t v path` checks a JSON value against a field type and returns the value in
normal form together with every violation found, each with the path of the offending part
(`messages[1].role`, `meta.key`).  Checking never stops at the first violation.

Normal form: an integral double of magnitude below `2^63` given for an `integer` becomes
that integer; the fields of a record come in schema order, a missing field with a default
takes the default as it is; everything else is kept.

The order of violations: the fields of a record in schema order, each checked depth first,
then the keys that the schema does not declare, in data order.
-/

namespace PromptTrainer

/-- A violation: where in the data, and what is wrong there. -/
structure Violation where
  path : String
  message : String
deriving BEq, Repr

/-- The text `path: message`. -/
def Violation.text (v : Violation) : String := v.path ++ ": " ++ v.message

/-- The texts of violations, joined by `"; "`. -/
def Violation.joinTexts (vs : List Violation) : String := "; ".intercalate (vs.map Violation.text)

/-- The path of a member: the name alone at the top, else `prefix.name`. -/
def joinPath (pathPrefix name : String) : String :=
  if pathPrefix.isEmpty then name else pathPrefix ++ "." ++ name

/-- The path of a list item: `path[i]`. -/
def itemPath (path : String) (index : Nat) : String :=
  path ++ "[" ++ toString index ++ "]"

/-- The kind of a JSON value as named in messages; a double is a `number`, an exact integer
an `integer`. -/
def kindOf : Json → String
  | .null => "null"
  | .bool _ => "boolean"
  | .number (.float _) => "number"
  | .number (.int _) => "integer"
  | .string _ => "string"
  | .array _ => "array"
  | .object _ => "object"

/-- The integer a double stands for, when it is finite with no fractional part, read off its
sign, mantissa and exponent: a mantissa `m` with exponent `e` is the number `m * 2^e`. -/
def integralValue? (f : Float) : Option Int :=
  match f.toModel.unpack with
  | .zero _ => some 0
  | .finite sign mantissa exponent _ =>
    let magnitude : Option Nat :=
      if 0 ≤ exponent then some (mantissa * Nat.pow 2 exponent.toNat)
      else if mantissa % Nat.pow 2 (-exponent).toNat = 0 then
        some (mantissa / Nat.pow 2 (-exponent).toNat)
      else none
    magnitude.map (fun m => match sign with
      | .positive => (m : Int)
      | .negative => -(m : Int))
  | _ => none

/-- `2^63`: integral doubles below it in magnitude become integers. -/
def integralBound : Nat := 9223372036854775808

/-- A value as an integer: a 64-bit integer as it is, or a finite integral double of
magnitude below `2^63` converted. -/
def coerceInteger : Json → Option Json
  | .number n =>
    if FieldType.integer.acceptsLiteral (.number n) then some (.number n)
    else
      match integralValue? n.toFloat with
      | some i => if i.natAbs < integralBound then some (.number (.int i)) else none
      | none => none
  | _ => none

/-- The violation of a value of the wrong kind. -/
def mismatch (t : FieldType) (v : Json) (path : String) : Json × List Violation :=
  (v, [⟨path, "expected " ++ t.describe ++ ", got " ++ kindOf v⟩])

mutual
/-- Checks a value against a type: the value in normal form and the violations. -/
def validateType : FieldType → Json → String → Json × List Violation
  | .any, v, _ => (v, [])
  | .optional inner, v, path =>
    if v.isNull then (.null, []) else validateType inner v path
  | .integer, v, path =>
    match coerceInteger v with
    | some c => (c, [])
    | none => mismatch .integer v path
  | .string, v, path => if FieldType.string.acceptsLiteral v then (v, []) else mismatch .string v path
  | .number, v, path => if FieldType.number.acceptsLiteral v then (v, []) else mismatch .number v path
  | .boolean, v, path =>
    if FieldType.boolean.acceptsLiteral v then (v, []) else mismatch .boolean v path
  | .enum values, v, path =>
    if values.any (fun w => literalEq w v) then (v, [])
    else (v, [⟨path, Json.compact v ++ " is not one of " ++ (FieldType.enum values).describe⟩])
  | .object schema, v, path =>
    match v with
    | .object members =>
      let checked := validateObject schema members path
      (.object checked.1, checked.2)
    | _ => mismatch (.object schema) v path
  | .list items, v, path =>
    match v with
    | .array xs =>
      let checked := xs.mapIdx (fun i x => validateType items x (itemPath path i))
      (.array (checked.map Prod.fst), (checked.map Prod.snd).flatten)
    | _ => mismatch (.list items) v path
  | .map values, v, path =>
    match v with
    | .object members =>
      let checked := members.map (fun m => (m.1, validateType values m.2 (joinPath path m.1)))
      (.object (checked.map (fun c => (c.1, c.2.1))), (checked.map (fun c => c.2.2)).flatten)
    | _ => mismatch (.map values) v path

/-- Checks the members of a record: the declared fields in schema order, then every key the
schema does not declare. -/
def validateObject : Schema → List (String × Json) → String →
    List (String × Json) × List Violation
  | ⟨title, fields⟩, data, pathPrefix =>
    let checked := validateFields fields data pathPrefix
    let unexpected := data.filter (fun m => !(Schema.hasField ⟨title, fields⟩ m.1))
    (checked.1,
      checked.2 ++ unexpected.map (fun m => ⟨joinPath pathPrefix m.1, "unexpected field"⟩))

/-- Checks each declared field: present, defaulted, or missing. -/
def validateFields : List Field → List (String × Json) → String →
    List (String × Json) × List Violation
  | [], _, _ => ([], [])
  | ⟨name, type, required, default, _⟩ :: rest, data, pathPrefix =>
    let path := joinPath pathPrefix name
    let here : List (String × Json) × List Violation :=
      match Json.lookup data name with
      | some value =>
        let checked := validateType type value path
        ([(name, checked.1)], checked.2)
      | none =>
        match default with
        | some d => ([(name, d)], [])
        | none => if required then ([], [⟨path, "missing required field"⟩]) else ([], [])
    let others := validateFields rest data pathPrefix
    (here.1 ++ others.1, here.2 ++ others.2)
end

end PromptTrainer
