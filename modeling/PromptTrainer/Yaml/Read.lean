import PromptTrainer.Yaml.Document
import PromptTrainer.Yaml.Scalar
import PromptTrainer.Json.Basic
/-!
# Reading typed values from a YAML document

A value of a known type is read from a node as follows.

* A text is any scalar's text, whatever its style and tag.
* A flag, an unsigned number or a double is read from a plain scalar (whatever its tag), or
  from a literal block scalar tagged with the matching core tag, by the spelling rules of
  `Yaml.Scalar`; anything else is refused.  An unsigned number must also fit its width.
* An optional value is absent for a plain scalar that is empty or spells null (with no tag,
  or the null tag, which then requires the null spelling); any other node is a present
  value.
* A list is read from a sequence, and is empty for the empty plain scalar.
* The fields of a record are read from a mapping whose keys are scalars: keys that name no
  field are skipped, a field given twice is refused, and the empty plain scalar gives no
  fields.
* Any value (JSON) is read by the node's shape: a plain scalar by its spelling (null, a
  boolean, a 64-bit integer, a finite or infinite double, else a string; integers beyond 64
  but within 128 bits are refused, and digits with a leading zero are a string), a quoted or block scalar as a string, a scalar with a
  core tag by that tag, collections item by item.  A node tagged `!...` is refused.

An alias is read as the node its anchor named.  At most 100 aliases per event of the
document may be followed in all, and collections may nest at most 128 deep; both limits
refuse documents that would otherwise take too long to read.
-/

namespace PromptTrainer
namespace Yaml

/-- Reading values from a document: the state counts the aliases followed. -/
abbrev Reading (α : Type) := StateT Nat (Except YamlError) α

/-- A refusal while reading. -/
def Reading.refuse {α : Type} (message : String) : Reading α := throw ⟨message⟩

/-- The bytes of a tag of the core schema. -/
def coreTag (name : String) : TagBytes := TagBytes.ofString ("tag:yaml.org,2002:" ++ name)

/-- Whether a tag is local (`!` and a text), which asks for a variant of an enumeration. -/
def isLocalTag : Option TagBytes → Bool
  | some (33 :: rest) =>
    (String.fromUTF8? (ByteArray.mk (if rest.isEmpty then #[33] else rest.toArray))).isSome
  | _ => false

/-- Whether a scalar may be read as a number or flag of a core type: plain, or a literal
block scalar tagged with that type. -/
def numericStyle (expected : String) (style : ScalarStyle) (tag : Option TagBytes) : Bool :=
  style == .plain || (style == .literal && tag == some (coreTag expected))

/-- A double as JSON: null when not finite. -/
def doubleJson (f : Float) : Json := if f.isFinite then Json.float f else .null

/-- An integer text as JSON: a number in the 64-bit ranges, a refusal in the 128-bit ranges
beyond them, `none` when the text is no such integer. -/
def integerJson? (v : String) : Option (Except YamlError Json) :=
  match unsignedText? (Nat.pow 2 64) v with
  | some n => some (.ok (Json.nat n))
  | none =>
    match signedText? (Nat.pow 2 63) v with
    | some i => some (.ok (Json.int i))
    | none =>
      if (unsignedText? (Nat.pow 2 128) v).isSome || (signedText? (Nat.pow 2 127) v).isSome then
        some (.error ⟨"integer out of the 64-bit range"⟩)
      else none

/-- A plain scalar's text as JSON, by its spelling. -/
def plainJson (v : String) : Except YamlError Json :=
  if v.isEmpty || isNullText v then .ok .null
  else match boolText? v with
    | some b => .ok (.bool b)
    | none =>
      match integerJson? v with
      | some r => r
      | none =>
        match (if digitsButNotNumber v then none else floatText? v) with
        | some f => .ok (doubleJson f)
        | none => .ok (.string v)

/-- A scalar as JSON, by its tag and style. -/
def scalarJson (v : String) (style : ScalarStyle) (tag : Option TagBytes) : Except YamlError Json :=
  match tag with
  | some t =>
    if t == coreTag "bool" then
      match boolText? v with
      | some b => .ok (.bool b)
      | none => .error ⟨"invalid value for a boolean"⟩
    else if t == coreTag "int" then
      match integerJson? v with
      | some r => r
      | none => .error ⟨"invalid value for an integer"⟩
    else if t == coreTag "float" then
      match floatText? v with
      | some f => .ok (doubleJson f)
      | none => .error ⟨"invalid value for a float"⟩
    else if t == coreTag "null" then
      if isNullText v then .ok .null else .error ⟨"invalid value for null"⟩
    else if t.head? == some 33 && style == .plain then plainJson v
    else .ok (.string v)
  | none => if style == .plain then plainJson v else .ok (.string v)

namespace Document

/-- The node an alias refers to, counting the alias followed. -/
def follow (d : Document) (target : Nat) : Reading Node := do
  let count ← get
  if count + 1 > 100 * d.eventCount then Reading.refuse "repetition limit exceeded"
  else
    set (count + 1)
    match d.anchors[target]? with
    | some n => pure n
    | none => Reading.refuse "unresolved alias"

/-- A text: any scalar. -/
def text (d : Document) : Nat → Node → Reading String
  | 0, _ => Reading.refuse "aliases nested too deeply"
  | fuel + 1, node =>
    match node with
    | .alias t => do text d fuel (← d.follow t)
    | .scalar v _ _ => pure v
    | _ => Reading.refuse "invalid type: expected a string"

/-- A flag. -/
def flag (d : Document) : Nat → Node → Reading Bool
  | 0, _ => Reading.refuse "aliases nested too deeply"
  | fuel + 1, node =>
    match node with
    | .alias t => do flag d fuel (← d.follow t)
    | .scalar v style tag =>
      match numericStyle "bool" style tag, boolText? v with
      | true, some b => pure b
      | _, _ => Reading.refuse "invalid type: expected a boolean"
    | _ => Reading.refuse "invalid type: expected a boolean"

/-- An unsigned number of at most 64 bits, at most `bound`. -/
def natural (d : Document) (bound : Nat) : Nat → Node → Reading Nat
  | 0, _ => Reading.refuse "aliases nested too deeply"
  | fuel + 1, node =>
    match node with
    | .alias t => do natural d bound fuel (← d.follow t)
    | .scalar v style tag =>
      match numericStyle "int" style tag, unsignedText? (Nat.pow 2 64) v with
      | true, some n => if n ≤ bound then pure n else Reading.refuse "invalid value: integer out of range"
      | _, _ => Reading.refuse "invalid type: expected an unsigned integer"
    | _ => Reading.refuse "invalid type: expected an unsigned integer"

/-- A double. -/
def double (d : Document) : Nat → Node → Reading Float
  | 0, _ => Reading.refuse "aliases nested too deeply"
  | fuel + 1, node =>
    match node with
    | .alias t => do double d fuel (← d.follow t)
    | .scalar v style tag =>
      match numericStyle "float" style tag, floatText? v with
      | true, some f => pure f
      | _, _ => Reading.refuse "invalid type: expected a float"
    | _ => Reading.refuse "invalid type: expected a float"

/-- An optional value: absent for a plain scalar that is empty or spells null, present
otherwise (read from the node an alias refers to). -/
def optional {α : Type} (d : Document) (read : Node → Reading α) : Nat → Node → Reading (Option α)
  | 0, _ => Reading.refuse "aliases nested too deeply"
  | fuel + 1, node =>
    match node with
    | .alias t => do optional d read fuel (← d.follow t)
    | .scalar v .plain (some t) =>
      if t == coreTag "null" then
        if isNullText v then pure none else Reading.refuse "invalid value: expected null"
      else some <$> read node
    | .scalar v .plain none => if v.isEmpty || isNullText v then pure none else some <$> read node
    | _ => some <$> read node

/-- A list: the items of a sequence, read one level deeper, or nothing for the empty plain
scalar. -/
def list {α : Type} (d : Document) (read : Nat → Node → Reading α) :
    Nat → Nat → Node → Reading (List α)
  | 0, _, _ => Reading.refuse "aliases nested too deeply"
  | fuel + 1, depth, node =>
    match node with
    | .alias t => do list d read fuel depth (← d.follow t)
    | .sequence _ items =>
      if depth == 0 then Reading.refuse "recursion limit exceeded"
      else items.mapM (read (depth - 1))
    | .scalar "" .plain _ => pure []
    | _ => Reading.refuse "invalid type: expected a sequence"

/-- The fields of a record: the value of each key that names a field, and the depth left for
reading them.  Nothing for the empty plain scalar. -/
def fields (d : Document) (names : List String) :
    Nat → Nat → Node → Reading (List (String × Node) × Nat)
  | 0, _, _ => Reading.refuse "aliases nested too deeply"
  | fuel + 1, depth, node =>
    match node with
    | .alias t => do fields d names fuel depth (← d.follow t)
    | .mapping _ entries =>
      if depth == 0 then Reading.refuse "recursion limit exceeded"
      else do
        let known ← entries.filterMapM (fun (k, v) => do
          let key ← d.text fuel k
          pure (if names.contains key then some (key, v) else none))
        if (known.map Prod.fst).Nodup then pure (known, depth - 1)
        else Reading.refuse "duplicate field"
    | .scalar "" .plain _ => pure ([], depth)
    | _ => Reading.refuse "invalid type: expected a map"

/-- Any value, as JSON. -/
def json (d : Document) : Nat → Nat → Node → Reading Json
  | 0, _, _ => Reading.refuse "aliases nested too deeply"
  | fuel + 1, depth, node =>
    match node with
    | .alias t => do json d fuel depth (← d.follow t)
    | .scalar v style tag =>
      if isLocalTag tag then Reading.refuse "invalid type: enum"
      else match scalarJson v style tag with
        | .ok j => pure j
        | .error e => throw e
    | .sequence tag items =>
      if isLocalTag tag then Reading.refuse "invalid type: enum"
      else if depth == 0 then Reading.refuse "recursion limit exceeded"
      else Json.array <$> items.mapM (json d fuel (depth - 1))
    | .mapping tag entries =>
      if isLocalTag tag then Reading.refuse "invalid type: enum"
      else if depth == 0 then Reading.refuse "recursion limit exceeded"
      else do
        let members ← entries.foldlM (fun acc (k, v) => do
          let key ← d.text fuel k
          let value ← json d fuel (depth - 1) v
          pure (Json.setMember acc key value)) []
        pure (.object members)

end Document

/-- A field's value when given, else a default. -/
def field {α : Type} (fs : List (String × Node)) (name : String) (read : Node → Reading α)
    (fallback : α) : Reading α :=
  match fs.lookup name with
  | some v => read v
  | none => pure fallback

/-- A field that must be given. -/
def requiredField {α : Type} (fs : List (String × Node)) (name : String)
    (read : Node → Reading α) : Reading α :=
  match fs.lookup name with
  | some v => read v
  | none => Reading.refuse ("missing field " ++ name)

end Yaml
end PromptTrainer
