import PromptTrainer.Template.Parse
import PromptTrainer.Json.Print
/-!
# Prompt templates: rendering

A template renders against JSON data through a stack of blocks, innermost first, the data's
own block at the bottom.  A block has a base, which is a place in the data (a list of keys)
or a value of its own, data names (`@index`, `@first`, `@last`, `@key`) and block
parameters.

A path is looked up as follows.  A data name `@name` (with `../` steps) is looked up in the
block that many steps out.  Otherwise, skipping leading `..` steps, a first name that is a
block parameter of some block (the innermost that has it) stands for that parameter: a value,
or a place relative to that block's base.  Otherwise the path starts at the base of the
block as many steps out as it has leading `..` (the innermost block if there are not that
many), or at the data for `@root.`; then each name descends and each `..` takes one key off
the place so far.  Arrays take decimal indices.  A path that leads nowhere is missing, and
a missing value writes nothing.

A value is written as text: a string as it is, null as nothing, booleans and numbers as in
JSON, an array as `[a, b]` of its items' texts, an object as `[object]`.

A tag that is a lone path writes the value there, unless its text is the name of a helper,
which is then called without parameters.  Helpers:

* `if` and `unless` render their body when their parameter is truthy (not truthy), their
  `else` part otherwise; with `includeZero=true` zero counts as truthy.  A value is truthy
  unless it is null, false, a number that is zero or not normal, or an empty string, array or
  object.
* `with` renders its body in a new block based on its parameter when that is truthy,
  its `else` part otherwise.
* `each` renders its body once per item of an array or member of an object, in a new block
  whose base is the item, with `@first`, `@last` and `@index` (arrays) or `@key` (objects);
  block parameters name the item and the index or key.  An empty array or object with an
  `else` part, or anything else, renders the `else` part.
* `lookup a k` is the item of array `a` at natural number `k` or the member of object `a`
  named by string `k`; `len x` is the number of items, members or UTF-8 bytes of `x` (0 for
  anything else); `eq`, `ne` compare two values; `gt`, `gte`, `lt`, `lte` compare two
  integers; `and`, `or` combine the truthiness of two values and `not` negates one; `log`
  writes nothing and checks its `level`; `raw` renders its body.

Rendering fails on an unknown helper, a missing parameter, an integer comparison on
something else, an unknown log level, a block helper used in a subexpression, an unknown
partial or decorator.  An inline partial (`{{#*inline "name"}}...{{/inline}}`) is available
to partial tags after it; a partial block renders its body when no partial of its name
exists.
-/

namespace PromptTrainer
namespace Template
namespace Render

/-- A value found for a parameter: the value, none when missing, and its place in the data
when it was found there. -/
structure Found where
  value : Option Json
  place : Option (List String)

/-- The value, null when missing. -/
def Found.json (f : Found) : Json := f.value.getD .null

/-- A block parameter: a place relative to its block's base, or a value. -/
inductive BlockParam where
  | place (keys : List String)
  | value (v : Json)

/-- A block: its base (a place, or a value of its own), data names and block parameters. -/
structure Block where
  basePath : List String
  baseValue : Option Json
  locals : List (String × Json)
  params : List (String × BlockParam)

/-- The bottom block, based at the data. -/
def Block.top : Block := ⟨[], none, [], []⟩

/-- Where lookups happen: the data and the blocks, innermost first. -/
structure Scope where
  root : Json
  blocks : List Block

/-- The inline partials defined so far, by name. -/
abbrev Partials := List (String × List Element)

/-- A decimal index as a natural number: an optional `+` and digits, below 2^64. -/
def parseIndex (s : String) : Option Nat :=
  let digits := match s.toList with
    | '+' :: rest => rest
    | cs => cs
  if digits.isEmpty || !digits.all Char.isDigit then none
  else
    let n := digits.foldl (fun acc c => 10 * acc + (c.toNat - 48)) 0
    if n < Nat.pow 2 64 then some n else none

/-- The child of a value under a key. -/
def child (v : Json) (key : String) : Option Json :=
  match v with
  | .array items => (parseIndex key).bind (fun i => items[i]?)
  | .object members => Json.lookup members key
  | _ => none

/-- The value under a list of keys. -/
def walk (v : Json) : List String → Option Json
  | [] => some v
  | k :: rest => (child v k).bind (fun c => walk c rest)

/-- A place extended by path steps: a name descends, `..` takes the last key off. -/
def extendPlace (place : List String) : List Step → List String
  | [] => place
  | .name n :: rest => extendPlace (place ++ [n]) rest
  | .up :: rest => extendPlace place.dropLast rest
  | _ :: rest => extendPlace place rest

/-- The leading `..` steps of a path, and what follows them: a first name, or `@root`. -/
def leading : List Step → Nat × Option String × Bool
  | .up :: rest => let (d, n, r) := leading rest; (d + 1, n, r)
  | .name n :: _ => (0, some n, false)
  | .root :: _ => (0, none, true)
  | _ => (0, none, false)

/-- A place or value looked up from a block. -/
def fromBlock (root : Json) (b : Block) (steps : List Step) : Found :=
  match b.baseValue with
  | some v => ⟨walk v (extendPlace [] steps), none⟩
  | none =>
    let place := extendPlace b.basePath steps
    match walk root place with
    | some v => ⟨some v, some place⟩
    | none => ⟨none, none⟩

/-- The value of a path in a scope. -/
def Scope.resolve (s : Scope) (p : Path) : Found :=
  match p.dataName? with
  | some (level, name) =>
    ⟨(s.blocks[level]?).bind (fun b => Json.lookup b.locals name), none⟩
  | none =>
    let (depth, first, fromRoot) := leading p.steps
    let param : Option (BlockParam × List String) := first.bind (fun n =>
      s.blocks.findSome? (fun b => (b.params.find? (·.1 == n)).map (fun bp => (bp.2, b.basePath))))
    match param with
    | some (BlockParam.value v, _) => ⟨walk v (extendPlace [] (p.steps.drop (depth + 1))), none⟩
    | some (BlockParam.place keys, base) =>
      let place := extendPlace (base ++ keys) (p.steps.drop (depth + 1))
      match walk s.root place with
      | some v => ⟨some v, some place⟩
      | none => ⟨none, none⟩
    | none =>
      if 0 < depth then
        match (s.blocks[depth]?).orElse (fun _ => s.blocks.head?) with
        | some b => fromBlock s.root b p.steps
        | none => fromBlock s.root Block.top p.steps
      else if fromRoot then
        let place := extendPlace [] p.steps
        match walk s.root place with
        | some v => ⟨some v, some place⟩
        | none => ⟨none, none⟩
      else fromBlock s.root (s.blocks.headD Block.top) p.steps

/-- Whether a value counts as true; with `includeZero` every number does. -/
def truthy (includeZero : Bool) : Json → Bool
  | .null => false
  | .bool b => b
  | .number n =>
    if includeZero then true
    else
      let f := n.toFloat
      f.isFinite && !(f == 0.0) && (f.abs ≥ 2.2250738585072014e-308)
  | .string s => !s.isEmpty
  | .array items => !items.isEmpty
  | .object members => !members.isEmpty

mutual
/-- The text of a value. -/
def valueText : Json → String
  | .string s => s
  | .null => ""
  | .bool b => if b then "true" else "false"
  | .number n => Json.numberText n
  | .array items => "[" ++ itemsText items ++ "]"
  | .object _ => "[object]"

/-- The texts of array items, separated by a comma and a blank. -/
def itemsText : List Json → String
  | [] => ""
  | [item] => valueText item
  | item :: rest => valueText item ++ ", " ++ itemsText rest
end

/-- The names of the helpers. -/
def helperNames : List String :=
  ["if", "unless", "each", "with", "lookup", "raw", "log",
   "eq", "ne", "lt", "gt", "lte", "gte", "and", "or", "not", "len"]

/-- The parameter at a position, or the failure for a missing one. -/
def nth (helper : String) (params : List Found) (i : Nat) : Except TemplateError Json :=
  match params[i]? with
  | some f => .ok f.json
  | none => .error (.render ("parameter " ++ toString i ++ " not found for helper " ++ helper))

/-- A parameter as a 64-bit signed integer. -/
def signed (helper : String) (v : Json) : Except TemplateError Int :=
  match v with
  | .number n =>
    match n.toSigned? with
    | some i => .ok i
    | none => .error (.render ("invalid parameter type for helper " ++ helper))
  | _ => .error (.render ("invalid parameter type for helper " ++ helper))

/-- The number of items, members or UTF-8 bytes of a value. -/
def size : Json → Nat
  | .array items => items.length
  | .object members => members.length
  | .string s => s.utf8ByteSize
  | _ => 0

/-- What a helper that answers a value answers for its parameters; `none` for a name that
is not such a helper. -/
def valueHelper (name : String) (params : List Found) : Option (Except TemplateError Json) :=
  let compare (test : Int → Int → Bool) : Except TemplateError Json := do
    let x ← signed name (← nth name params 0)
    let y ← signed name (← nth name params 1)
    .ok (.bool (test x y))
  if name = "lookup" then some do
    let base ← nth name params 0
    let key ← nth name params 1
    let found := match base, key with
      | .array items, .number n => n.toUnsigned?.bind (fun i => items[i]?)
      | .object members, .string k => Json.lookup members k
      | _, _ => none
    .ok (found.getD .null)
  else if name = "eq" then some do
    let x ← nth name params 0
    let y ← nth name params 1
    .ok (.bool (x.beq y))
  else if name = "ne" then some do
    let x ← nth name params 0
    let y ← nth name params 1
    .ok (.bool (!x.beq y))
  else if name = "gt" then some (compare (fun x y => y < x))
  else if name = "gte" then some (compare (fun x y => y ≤ x))
  else if name = "lt" then some (compare (fun x y => x < y))
  else if name = "lte" then some (compare (fun x y => x ≤ y))
  else if name = "and" then some do
    let x ← nth name params 0
    let y ← nth name params 1
    .ok (.bool (truthy false x && truthy false y))
  else if name = "or" then some do
    let x ← nth name params 0
    let y ← nth name params 1
    .ok (.bool (truthy false x || truthy false y))
  else if name = "not" then some do
    let x ← nth name params 0
    .ok (.bool (!truthy false x))
  else if name = "len" then some do
    let x ← nth name params 0
    .ok (Json.nat (size x))
  else none

/-- Whether a log level is known: `error`, `warn`, `info`, `debug` or `trace` in any case. -/
def knownLevel (level : String) : Bool :=
  ["error", "warn", "info", "debug", "trace"].contains
    (String.ofList (level.toList.map Char.toLower))

/-- The block of a parameter: based at its place, or on its value. -/
def blockOf (f : Found) : Block :=
  match f.place with
  | some p => ⟨p, none, [], []⟩
  | none => ⟨[], some f.json, [], []⟩

mutual
/-- The value of a parameter. -/
def evalParam (s : Scope) : Nat → Param → Except TemplateError Found
  | 0, _ => .error (.render "template nested too deeply")
  | _ + 1, .name _ => .ok ⟨none, none⟩
  | _ + 1, .path p => .ok (s.resolve p)
  | _ + 1, .literal v => .ok ⟨some v, none⟩
  | fuel + 1, .sub head params hash => do
    let name ← nameOf s fuel head
    let found ← params.mapM (evalParam s fuel)
    let _ ← hash.mapM (fun h => evalParam s fuel h.2)
    match valueHelper name found with
    | some r => r.map (fun v => ⟨some v, none⟩)
    | none => .error (.render ("helper not usable in a subexpression: " ++ name))

/-- The name a tag's head calls: a helper name, the text of a path, or the text of a
subexpression's value. -/
def nameOf (s : Scope) : Nat → Param → Except TemplateError String
  | 0, _ => .error (.render "template nested too deeply")
  | _ + 1, .name n => .ok n
  | _ + 1, .path p => .ok p.raw
  | _ + 1, .literal v => .ok (valueText v)
  | fuel + 1, p@(.sub ..) => do .ok (valueText (← evalParam s fuel p).json)
end

/-- The hash item of a name, if given. -/
def hashValue (hash : List (String × Found)) (key : String) : Option Json :=
  (hash.reverse.find? (·.1 == key)).map (·.2.json)

/-- Registers an inline partial. -/
def define (partials : Partials) (name : String) (body : List Element) : Partials :=
  (name, body) :: partials.filter (·.1 != name)

mutual
/-- Renders elements in order. -/
def renderAll (s : Scope) : Nat → List Element → Partials → Except TemplateError (String × Partials)
  | 0, _, _ => .error (.render "template nested too deeply")
  | _ + 1, [], ps => .ok ("", ps)
  | fuel + 1, e :: rest, ps => do
    let (a, ps) ← renderOne s fuel e ps
    let (b, ps) ← renderAll s fuel rest ps
    .ok (a ++ b, ps)

/-- Renders an optional list of elements; nothing when absent. -/
def renderSome (s : Scope) : Nat → Option (List Element) → Partials →
    Except TemplateError (String × Partials)
  | 0, _, _ => .error (.render "template nested too deeply")
  | _ + 1, none, ps => .ok ("", ps)
  | fuel + 1, some es, ps => renderAll s fuel es ps

/-- Renders one element. -/
def renderOne (s : Scope) : Nat → Element → Partials → Except TemplateError (String × Partials)
  | 0, _, _ => .error (.render "template nested too deeply")
  | _ + 1, .text t, ps => .ok (t, ps)
  | _ + 1, .comment, ps => .ok ("", ps)
  | fuel + 1, .expression t, ps => do
    let name ← nameOf s fuel t.head
    if t.nameOnly && !helperNames.contains name then
      let f ← evalParam s fuel t.head
      .ok ((f.value.map valueText).getD "", ps)
    else callHelper s fuel t name none none ps
  | fuel + 1, .block t body inverse, ps => do
    callHelper s fuel t (← nameOf s fuel t.head) body inverse ps
  | fuel + 1, .partialCall head t body, ps => do
    let name ← nameOf s fuel head
    let params ← t.params.mapM (evalParam s fuel)
    let hash ← t.hash.mapM (fun h => do .ok (h.1, ← evalParam s fuel h.2))
    let chosen := (ps.find? (·.1 == name)).map (·.2) |>.orElse (fun _ => body)
    match chosen with
    | none => .error (.render ("partial not found: " ++ name))
    | some tpl =>
      let blocks := match params.head? with
        | some f => match f.place with
          | some p => [⟨p, none, [], []⟩]
          | none => s.blocks
        | none => s.blocks
      let blocks :=
        if hash.isEmpty then blocks
        else
          let current := (({ s with blocks := blocks } : Scope).resolve ⟨"this", []⟩).json
          let base := match current with
            | .object members => members
            | _ => []
          let merged := hash.foldl (fun acc h =>
            if acc.any (·.1 == h.1) then acc.map (fun m => if m.1 == h.1 then (h.1, h.2.json) else m)
            else acc ++ [(h.1, h.2.json)]) base
          let top := blocks.headD Block.top
          [{ top with baseValue := some (.object merged) }]
      renderAll { s with blocks := blocks } fuel tpl ps
  | fuel + 1, .inlinePartial t body, ps => do
    let params ← t.params.mapM (evalParam s fuel)
    match params.head? with
    | some f =>
      match f.json with
      | .string name => .ok ("", define ps name body)
      | _ => .error (.render "inline partial name must be a string")
    | none => .error (.render "inline partial needs a name")
  | _ + 1, .decorator _, _ => .error (.render "decorator not found")

/-- Calls a helper from a tag, with its body and `else` part when it is a block. -/
def callHelper (s : Scope) : Nat → Tag → String → Option (List Element) → Option (List Element) →
    Partials → Except TemplateError (String × Partials)
  | 0, _, _, _, _, _ => .error (.render "template nested too deeply")
  | fuel + 1, t, name, body, inverse, ps => do
    let params ← t.params.mapM (evalParam s fuel)
    let hash ← t.hash.mapM (fun h => do .ok (h.1, ← evalParam s fuel h.2))
    if name = "if" ∨ name = "unless" then
      let v ← nth name params 0
      let includeZero := match hashValue hash "includeZero" with
        | some (.bool b) => b
        | _ => false
      let holds := truthy includeZero v != (name = "unless")
      renderSome s fuel (if holds then body else inverse) ps
    else if name = "with" then
      let v ← nth name params 0
      let f := (params.head?).getD ⟨none, none⟩
      if truthy false v then
        let block := blockOf f
        let block := match t.blockParams with
          | [p] => { block with params := [(p, match f.place with
              | some _ => .place []
              | none => .value v)] }
          | _ => block
        renderSome { s with blocks := block :: s.blocks } fuel body ps
      else renderSome s fuel inverse ps
    else if name = "each" then
      let v ← nth name params 0
      let f := (params.head?).getD ⟨none, none⟩
      match body with
      | none => .ok ("", ps)
      | some tpl =>
        let entries : Option (List (Json × Json × String × List (String × Json))) :=
          match v with
          | .array items =>
            if items.isEmpty ∧ inverse.isSome then none
            else some (items.zipIdx.map (fun (item, i) =>
              (item, Json.nat i, toString i,
                [("first", .bool (i == 0)), ("last", .bool (i + 1 == items.length)),
                 ("index", Json.nat i)])))
          | .object members =>
            if members.isEmpty ∧ inverse.isSome then none
            else some (members.zipIdx.map (fun ((k, item), i) =>
              (item, .string k, k,
                [("first", .bool (i == 0)), ("last", .bool (i + 1 == members.length)),
                 ("key", .string k)])))
          | _ => none
        match entries with
        | none => renderSome s fuel inverse ps
        | some es =>
          es.foldlM (fun (acc, ps) (item, key, step, locals) => do
            let base := match f.place with
              | some p => ⟨p ++ [step], none, locals, []⟩
              | none => ⟨[], some item, locals, []⟩
            let itemParam : BlockParam := match f.place with
              | some _ => .place []
              | none => .value item
            let block : Block := match t.blockParams with
              | [a] => { base with params := [(a, itemParam)] }
              | [a, b] => { base with params := [(a, itemParam), (b, .value key)] }
              | _ => base
            let (text, ps) ← renderAll { s with blocks := block :: s.blocks } fuel tpl ps
            .ok (acc ++ text, ps)) ("", ps)
    else if name = "raw" then renderSome s fuel body ps
    else if name = "log" then
      let level := match hashValue hash "level" with
        | some (.string l) => l
        | _ => "info"
      if knownLevel level then .ok ("", ps) else .error (.render ("invalid logging level " ++ level))
    else
      match valueHelper name params with
      | some r => do .ok (valueText (← r), ps)
      | none => .error (.render ("helper not defined: " ++ name))
end

end Render

/-- Reads and renders a template against data. -/
def render (source : String) (data : Json) : Except TemplateError String := do
  let elements ← parse source
  let (text, _) ← Render.renderAll ⟨data, [Render.Block.top]⟩ (4 * source.length + 64) elements []
  .ok text

end Template
end PromptTrainer
