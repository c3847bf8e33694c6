import PromptTrainer.Template.Syntax
import PromptTrainer.Json.Parse
/-!
# Prompt templates: tags and text

A template is cut into text and tags.  Text runs up to the next `{{`; a backslash escapes
it: `\{{` is written `{{` (and `\{{{{` is written `{{{{`), and a run of two or more
backslashes just before `{{` loses one backslash while the tag after it still counts.

A tag is read by the first of these forms that matches, in this order:

* `{{x}}` writes a value: `x` is a helper name followed by parameters, or a lone path or
  subexpression; `{{{x}}}`, `{{{{x}}}` inside `{{ }}` and `{{&x}}` write it too;
* `{{#name params as |a b|}}` opens a block and `{{{{name}}}}text{{{{/name}}}}` is a block
  whose body is kept as written;
* `{{!-- text --}}` and `{{! text }}` are comments;
* `{{*name params}}` is a decorator, `{{#*name params}}` opens a decorator block;
* `{{> name params}}` inserts a partial, `{{#> name params}}` opens a partial block;
* `{{else}}` or `{{^}}` starts the part of a block after `else`, `{{else name params}}` or
  `{{^name params}}` starts it with a chained block, and `{{/name}}` closes a block.

Blanks (space, tab, newline, carriage return) may stand between the parts of a tag but not
inside a path.  A `~` just after the opening braces or just before the closing ones asks
for the blanks next to the tag to be removed.

Parameters are JSON literals (double-quoted strings with JSON escapes, single-quoted strings
where only `\'` is an escape, numbers with an optional `-`, fraction and upper-case `E`
exponent, `null`, `true`, `false`, arrays and objects), paths, or subexpressions
`(name params)`.  The words `as` and `else` are never parameters.  A literal that has the
form of one but is not valid JSON (`01`, `1.`, a string with a raw control character) makes
the template malformed.

A path is an optional `this.` or `./`, an optional `@root.`, an optional `@`, any number of
`../`, then steps separated by `.` or `/`: a name of letters, digits, `-`, `_`, `$` and
non-ASCII characters, or a key in brackets.  So `..` only leads a path: `{{..}}` and
`{{a/../b}}` are malformed.
-/

namespace PromptTrainer
namespace Template
namespace Lex

/-- What a tag does. -/
inductive Kind where
  | expression
  | blockStart
  | invert
  | chain
  | blockEnd (name : String)
  | comment
  | decorator
  | decoratorBlockStart
  | partialCall
  | partialBlockStart

/-- A piece of a template: text with its escapes applied, or a tag, each with where it
starts and where it stops in the source. -/
inductive Token where
  | text (s : String) (start stop : Nat)
  | tag (kind : Kind) (t : Tag) (trimBefore trimAfter : Bool) (start stop : Nat)

/-- The outcome of reading one form at a position: no match, a match with what follows, or a
match whose text is not a valid value. -/
inductive Scan (α : Type) where
  | fail
  | found (value : α) (next : Nat)
  | invalid (message : String)

/-- Continues after a match. -/
def Scan.andThen {α β : Type} : Scan α → (α → Nat → Scan β) → Scan β
  | .fail, _ => .fail
  | .invalid m, _ => .invalid m
  | .found a j, k => k a j

/-- Tries another form when the first does not match. -/
def Scan.orElse {α : Type} : Scan α → (Unit → Scan α) → Scan α
  | .fail, k => k ()
  | other, _ => other

/-- Whether a character is a blank that may stand between the parts of a tag. -/
def isBlank (c : Char) : Bool := c = ' ' || c = '\t' || c = '\n' || c = '\r'

/-- Whether a character may be part of a name. -/
def isSymbol (c : Char) : Bool :=
  c.isAlphanum || c = '-' || c = '_' || c = '$' || 128 ≤ c.toNat

/-- Whether a character may be part of a partial's name. -/
def isPartialSymbol (c : Char) : Bool :=
  c.isAlphanum || c = '-' || c = '_' || c = '/' || c = '.' || 128 ≤ c.toNat

/-- The first position at or after `i` where `p` does not hold. -/
def scan (p : Char → Bool) (src : Array Char) (i : Nat) : Nat :=
  if h : i < src.size then (if p src[i] then scan p src (i + 1) else i) else i
termination_by src.size - i

/-- The first position at or after `i` that is not a blank. -/
def skip (src : Array Char) (i : Nat) : Nat := scan isBlank src i

/-- The source between two positions. -/
def slice (src : Array Char) (i j : Nat) : String := String.ofList (src.extract i j).toList

/-- Whether a literal word stands at `i`. -/
def matchesAt (src : Array Char) (i : Nat) (w : String) : Bool :=
  w.toList.zipIdx.all (fun (c, k) => src[i + k]? == some c)

/-- The position after a literal word, if it stands at `i`. -/
def word (src : Array Char) (i : Nat) (w : String) : Option Nat :=
  if matchesAt src i w then some (i + w.length) else none

/-- Whether no name character stands at `i`. -/
def endsName (src : Array Char) (i : Nat) : Bool :=
  match src[i]? with
  | some c => !isSymbol c
  | none => true

/-- A name at `i`. -/
def identifier (src : Array Char) (i : Nat) : Option (String × Nat) :=
  let j := scan isSymbol src i
  if i < j then some (slice src i j, j) else none

/-- The position after an optional `~` (blanks around it skipped) and whether it was there. -/
def tilde (src : Array Char) (i : Nat) : Bool × Nat :=
  let j := skip src i
  match word src j "~" with
  | some k => (true, skip src k)
  | none => (false, j)

/-- Whether a keyword (`as`, `else`) stands at `i` as a whole word. -/
def keywordAt (src : Array Char) (i : Nat) : Bool :=
  match word src i "as" with
  | some j => endsName src j
  | none =>
    match word src i "else" with
    | some j => endsName src j
    | none => false

/-- Whether four hex digits stand at `i`. -/
def hex4 (src : Array Char) (i : Nat) : Bool :=
  [0, 1, 2, 3].all (fun k => match src[i + k]? with
    | some c => c.isDigit || ('a' ≤ c && c ≤ 'f') || ('A' ≤ c && c ≤ 'F')
    | none => false)

/-- The position of the closing double quote of a string whose contents start at `i`. -/
def doubleQuoted (src : Array Char) (i : Nat) : Option Nat :=
  if h : i < src.size then
    let c := src[i]
    if c = '"' then some i
    else if c = '\\' then
      match src[i + 1]? with
      | some e =>
        if e = '"' || e = '\\' || e = '/' || e = 'b' || e = 'f' || e = 'n' || e = 'r' || e = 't'
        then doubleQuoted src (i + 2)
        else if e = 'u' && hex4 src (i + 2) then doubleQuoted src (i + 6)
        else none
      | none => none
    else doubleQuoted src (i + 1)
  else none
termination_by src.size - i

/-- The position of the closing quote of a single-quoted string whose contents start at `i`. -/
def singleQuoted (src : Array Char) (i : Nat) : Option Nat :=
  if h : i < src.size then
    let c := src[i]
    if c = '\'' then some i
    else if c = '\\' && src[i + 1]? == some '\'' then singleQuoted src (i + 2)
    else singleQuoted src (i + 1)
  else none
termination_by src.size - i

/-- The end of a string literal at `i`, and whether it is single-quoted. -/
def stringEnd (src : Array Char) (i : Nat) : Option (Nat × Bool) :=
  match src[i]? with
  | some '"' => (doubleQuoted src (i + 1)).map (fun j => (j + 1, false))
  | some '\'' => (singleQuoted src (i + 1)).map (fun j => (j + 1, true))
  | _ => none

/-- The end of a number literal at `i`. -/
def numberEnd (src : Array Char) (i : Nat) : Option Nat :=
  let j := (word src i "-").getD i
  let k := scan Char.isDigit src j
  if k = j then none
  else
    let k := scan Char.isDigit src ((word src k ".").getD k)
    let k := match word src k "E" with
      | some e =>
        let d := (word src e "-").getD e
        let f := scan Char.isDigit src d
        if f = d then k else f
      | none => k
    if endsName src k then some k else none

/-- The end of a keyword literal (`null`, `true`, `false`) at `i`. -/
def keywordLiteralEnd (src : Array Char) (i : Nat) : Option Nat :=
  ["null", "true", "false"].foldl (fun found w =>
    match found with
    | some j => some j
    | none => (word src i w).bind (fun j => if endsName src j then some j else none)) none

mutual
/-- The end of a literal at `i`, by its form alone. -/
def literalEnd (src : Array Char) : Nat → Nat → Option Nat
  | 0, _ => none
  | fuel + 1, i =>
    match stringEnd src i with
    | some (j, _) => some j
    | none =>
      match arrayEnd src fuel i with
      | some j => some j
      | none =>
        match objectEnd src fuel i with
        | some j => some j
        | none =>
          match numberEnd src i with
          | some j => some j
          | none => keywordLiteralEnd src i

/-- The end of an array literal at `i`. -/
def arrayEnd (src : Array Char) : Nat → Nat → Option Nat
  | 0, _ => none
  | fuel + 1, i =>
    match word src i "[" with
    | none => none
    | some j =>
      let j := skip src j
      let j := (literalEnd src fuel j).getD j
      let j := moreLiterals src fuel j
      (word src (skip src j) "]")

/-- The position after `, literal` repeated. -/
def moreLiterals (src : Array Char) : Nat → Nat → Nat
  | 0, i => i
  | fuel + 1, i =>
    match word src (skip src i) "," with
    | none => i
    | some j =>
      match literalEnd src fuel (skip src j) with
      | some k => moreLiterals src fuel k
      | none => i

/-- The end of an object literal at `i`. -/
def objectEnd (src : Array Char) : Nat → Nat → Option Nat
  | 0, _ => none
  | fuel + 1, i =>
    match word src i "\x7b" with
    | none => none
    | some j =>
      let j := skip src j
      let j := (memberEnd src fuel j).getD j
      let j := moreMembers src fuel j
      word src (skip src j) "\x7d"

/-- The end of one `"key": literal` member at `i`. -/
def memberEnd (src : Array Char) : Nat → Nat → Option Nat
  | 0, _ => none
  | fuel + 1, i =>
    match stringEnd src i with
    | none => none
    | some (j, _) =>
      match word src (skip src j) ":" with
      | none => none
      | some k => literalEnd src fuel (skip src k)

/-- The position after `, member` repeated. -/
def moreMembers (src : Array Char) : Nat → Nat → Nat
  | 0, i => i
  | fuel + 1, i =>
    match word src (skip src i) "," with
    | none => i
    | some j =>
      match memberEnd src fuel (skip src j) with
      | some k => moreMembers src fuel k
      | none => i
end

/-- The value of a single-quoted string's contents: `\'` stands for a quote. -/
def unquoteSingle : List Char → List Char
  | '\\' :: '\'' :: rest => '\'' :: unquoteSingle rest
  | c :: rest => c :: unquoteSingle rest
  | [] => []

/-- A literal at `i` with its value. -/
def literal (src : Array Char) (fuel i : Nat) : Scan Json :=
  match literalEnd src fuel i with
  | none => .fail
  | some j =>
    match stringEnd src i with
    | some (k, true) =>
      if k = j then .found (.string (String.ofList (unquoteSingle ((src.extract (i + 1) (k - 1)).toList)))) j
      else .invalid "invalid literal"
    | _ =>
      match Json.parse (slice src i j) with
      | .ok v => .found v j
      | .error e => .invalid ("invalid literal: " ++ e.message)

/-- A path separator at `i`. -/
def pathSep (src : Array Char) (i : Nat) : Option Nat :=
  match word src i "/" with
  | some j => some j
  | none => word src i "."

/-- `this.`, `this/` or `./` at `i`. -/
def pathCurrent (src : Array Char) (i : Nat) : Option Nat :=
  match (word src i "this").bind (pathSep src) with
  | some j => some j
  | none => word src i "./"

/-- One step of a path at `i`: a name or a key in brackets; `this` gives no step. -/
def pathItem (src : Array Char) (i : Nat) : Option (Option Step × Nat) :=
  match identifier src i with
  | some (n, j) => some (if n = "this" then none else some (.name n), j)
  | none =>
    match word src i "[" with
    | none => none
    | some j =>
      let k := scan (· != ']') src j
      match word src k "]" with
      | some e =>
        let key := slice src j k
        some (if key = "this" then none else some (.name key), e)
      | none => none

/-- Steps after the first: a separator and a step, repeated while both are there. -/
def pathRest (src : Array Char) : Nat → Nat → List Step × Nat
  | 0, i => ([], i)
  | fuel + 1, i =>
    match pathSep src i with
    | none => ([], i)
    | some j =>
      match pathItem src j with
      | none => ([], i)
      | some (s, k) =>
        let (more, e) := pathRest src fuel k
        (s.toList ++ more, e)

/-- Leading `../` steps at `i`: how many, and the position after them. -/
def pathUps (src : Array Char) : Nat → Nat → Nat × Nat
  | 0, i => (0, i)
  | fuel + 1, i =>
    match (word src i "..").bind (pathSep src) with
    | some j => let (n, k) := pathUps src fuel j; (n + 1, k)
    | none => (0, i)

/-- A path at `i`. -/
def path (src : Array Char) (i : Nat) : Option (Path × Nat) :=
  let j := (pathCurrent src i).getD i
  let (rootSteps, j) :=
    match (word src j "@root").bind (pathSep src) with
    | some k => ([Step.root], k)
    | none => ([], j)
  let (dataSteps, j) :=
    match word src j "@" with
    | some k => ([Step.data], k)
    | none => ([], j)
  let (ups, j) := pathUps src src.size j
  match pathItem src j with
  | none => none
  | some (s, k) =>
    let (more, e) := pathRest src src.size k
    some (⟨slice src i e, rootSteps ++ dataSteps ++ List.replicate ups Step.up ++ s.toList ++ more⟩, e)

mutual
/-- A parameter at `i`: a literal, a path or a subexpression. -/
def param (src : Array Char) : Nat → Nat → Scan Param
  | 0, _ => .fail
  | fuel + 1, i =>
    if keywordAt src i then .fail
    else
      match literal src fuel i with
      | .found v j => .found (.literal v) j
      | .invalid m => .invalid m
      | .fail =>
        match path src i with
        | some (p, j) => .found (.path p) j
        | none => subexpression src fuel i

/-- A hash item `key=param` or a parameter at `i`. -/
def hashOrParam (src : Array Char) : Nat → Nat → Scan (Sum (String × Param) Param)
  | 0, _ => .fail
  | fuel + 1, i =>
    let asHash : Scan (Sum (String × Param) Param) :=
      match identifier src i with
      | some (key, j) =>
        match word src (skip src j) "=" with
        | some k => (param src fuel (skip src k)).andThen (fun v e => .found (.inl (key, v)) e)
        | none => .fail
      | none => .fail
    asHash.orElse (fun _ => (param src fuel i).andThen (fun v e => .found (.inr v) e))

/-- Parameters and hash items, each after blanks, as many as follow `i`. -/
def arguments (src : Array Char) : Nat → Nat → Scan (List Param × List (String × Param))
  | 0, i => .found ([], []) i
  | fuel + 1, i =>
    match hashOrParam src fuel (skip src i) with
    | .fail => .found ([], []) i
    | .invalid m => .invalid m
    | .found item j =>
      (arguments src fuel j).andThen (fun (ps, hs) e =>
        match item with
        | .inl h => .found (ps, h :: hs) e
        | .inr p => .found (p :: ps, hs) e)

/-- A subexpression at `i`: a helper name with at least one parameter or hash item, or a lone
path, in parentheses. -/
def subexpression (src : Array Char) : Nat → Nat → Scan Param
  | 0, _ => .fail
  | fuel + 1, i =>
    match word src i "(" with
    | none => .fail
    | some j =>
      let j := skip src j
      let close (head : Param) (ps : List Param) (hs : List (String × Param)) (k : Nat) :
          Scan Param :=
        match word src (skip src k) ")" with
        | some e => .found (.sub head ps hs) e
        | none => .fail
      let called : Scan Param :=
        match identifier src j with
        | some (name, k) =>
          match arguments src fuel k with
          | .found ([], []) _ => .fail
          | .found (ps, hs) e => close (.name name) ps hs e
          | .invalid m => .invalid m
          | .fail => .fail
        | none => .fail
      called.orElse (fun _ =>
        match path src j with
        | some (p, k) => close (.path p) [] [] k
        | none => .fail)
end

/-- Block parameters `as |a b|` at `i`. -/
def blockParams (src : Array Char) (i : Nat) : Option (List String × Nat) :=
  match word src i "as" with
  | none => none
  | some j =>
    match word src (skip src j) "|" with
    | none => none
    | some k =>
      match identifier src (skip src k) with
      | none => none
      | some (a, l) =>
        let (names, l) :=
          match identifier src (skip src l) with
          | some (b, m) => ([a, b], m)
          | none => ([a], l)
        (word src (skip src l) "|").map (fun e => (names, e))

/-- A helper name with its parameters, hash and optional block parameters at `i`. -/
def expLine (src : Array Char) (fuel i : Nat) : Scan Tag :=
  match identifier src i with
  | none => .fail
  | some (name, j) =>
    (arguments src fuel j).andThen (fun (ps, hs) k =>
      match blockParams src (skip src k) with
      | some (bps, e) => .found ⟨.name name, ps, hs, bps⟩ e
      | none => .found ⟨.name name, ps, hs, []⟩ k)

/-- The inside of a value tag at `i`: a helper name with at least one parameter or hash
item, or a lone subexpression or path. -/
def valueBody (src : Array Char) (fuel i : Nat) : Scan Tag :=
  let called : Scan Tag :=
    match identifier src i with
    | some (name, j) =>
      match arguments src fuel j with
      | .found ([], []) _ => .fail
      | .found (ps, hs) e => .found ⟨.name name, ps, hs, []⟩ e
      | .invalid m => .invalid m
      | .fail => .fail
    | none => .fail
  called.orElse (fun _ =>
    match subexpression src fuel i with
    | .found p e => .found ⟨p, [], [], []⟩ e
    | .invalid m => .invalid m
    | .fail =>
      match path src i with
      | some (p, e) => .found ⟨.path p, [], [], []⟩ e
      | none => .fail)

/-- The name of a partial at `i`: partial name characters, a single-quoted name, or a path
or subexpression. -/
def partialName (src : Array Char) (fuel i : Nat) : Scan Param :=
  let j := scan isPartialSymbol src i
  if i < j then .found (.name (slice src i j)) j
  else
    match src[i]? with
    | some '\'' =>
      match singleQuoted src (i + 1) with
      | some k => if i + 1 < k then .found (.name (slice src i (k + 1))) (k + 1) else .fail
      | none => .fail
    | _ =>
      match subexpression src fuel i with
      | .fail =>
        match path src i with
        | some (p, e) => .found (.path p) e
        | none => .fail
      | other => other

/-- A tag made of `{{`, an optional `~`, a marker, a body read by `body`, an optional `~` and
`}}`; answers the tag, both trim flags and the end. -/
def framed (src : Array Char) (i : Nat) (marker : String) (body : Nat → Scan Tag)
    (close : String) : Scan (Tag × Bool × Bool) :=
  match word src i "\x7b\x7b" with
  | none => .fail
  | some j =>
    let (before, j) := tilde src j
    match word src j marker with
    | none => .fail
    | some k =>
      (body (skip src k)).andThen (fun t l =>
        let (after, l) := tilde src l
        match word src l close with
        | some e => .found (t, before, after) e
        | none => .fail)

/-- `{{else}}` or `{{^}}` at `i`, with its trim flags. -/
def invertTag (src : Array Char) (i : Nat) : Option (Bool × Bool × Nat) :=
  match word src i "\x7b\x7b" with
  | none => none
  | some j =>
    let (before, j) := tilde src j
    match (word src j "else").orElse (fun _ => word src j "^") with
    | none => none
    | some k =>
      let (after, k) := tilde src k
      (word src k "\x7d\x7d").map (fun e => (before, after, e))

/-- `{{else name params}}` or `{{^name params}}` at `i`. -/
def chainTag (src : Array Char) (fuel i : Nat) : Scan (Tag × Bool × Bool) :=
  match framed src i "else" (expLine src fuel) "\x7d\x7d" with
  | .fail => framed src i "^" (expLine src fuel) "\x7d\x7d"
  | other => other

/-- The end of a comment at `i`: `{{!-- ... --}}` up to the first `--}}`, or `{{! ... }}` up
to the first `}}`. -/
def commentEnd (src : Array Char) (i : Nat) : Option Nat :=
  match word src i "\x7b\x7b" with
  | none => none
  | some j =>
    let (_, j) := tilde src j
    let find (from_ : Nat) (closing : String) : Option Nat :=
      let n := src.size
      ((List.range (n + 1 - from_)).find? (fun k => (word src (from_ + k) closing).isSome)).map
        (fun k => from_ + k + closing.length)
    match word src j "!--" with
    | some k =>
      match find k "--\x7d\x7d", find k "--~\x7d\x7d" with
      | some a, some b => some (min a b)
      | some a, none => some a
      | none, some b => some b
      | none, none =>
        match word src j "!" with
        | some k => find k "\x7d\x7d"
        | none => none
    | none =>
      match word src j "!" with
      | some k => find k "\x7d\x7d"
      | none => none

/-- Text from `i` with its escapes applied, up to an unescaped `stop` or the end; answers
the text (reversed) and where it stops. -/
def textUntil (src : Array Char) (stop : String) (i : Nat) (acc : List Char) : List Char × Nat :=
  if h : i < src.size then
    let c := src[i]
    if c = '\\' then
      if matchesAt src (i + 1) "\x7b\x7b" then
        if matchesAt src (i + 3) "\x7b\x7b" then
          textUntil src stop (i + 5) ('\x7b' :: '\x7b' :: '\x7b' :: '\x7b' :: acc)
        else textUntil src stop (i + 3) ('\x7b' :: '\x7b' :: acc)
      else
        let run := scan (· = '\\') src i
        if h2 : i + 2 ≤ run ∧ matchesAt src run "\x7b\x7b" then
          textUntil src stop run (List.replicate (run - i - 1) '\\' ++ acc)
        else textUntil src stop (i + 1) (c :: acc)
    else if matchesAt src i stop then (acc, i)
    else textUntil src stop (i + 1) (c :: acc)
  else (acc, i)
termination_by src.size - i
decreasing_by all_goals omega

/-- A raw block at `i`: `{{{{name params}}}}`, the text up to `{{{{/`, then
`{{{{/name}}}}`. -/
def rawBlock (src : Array Char) (fuel i : Nat) : Scan (Tag × Bool × Bool × String × Nat × Nat) :=
  match word src i "\x7b\x7b\x7b\x7b" with
  | none => .fail
  | some j =>
    let (before, j) := tilde src j
    (expLine src fuel j).andThen (fun t k =>
      let (after, k) := tilde src k
      match word src k "\x7d\x7d\x7d\x7d" with
      | none => .fail
      | some bodyStart =>
        let (body, bodyEnd) := textUntil src "\x7b\x7b\x7b\x7b" bodyStart []
        match word src bodyEnd "\x7b\x7b\x7b\x7b" with
        | none => .fail
        | some m =>
          let (_, m) := tilde src m
          match word src m "/" with
          | none => .fail
          | some n =>
            match identifier src (skip src n) with
            | none => .fail
            | some (name, o) =>
              let (_, o) := tilde src o
              match word src o "\x7d\x7d\x7d\x7d" with
              | none => .fail
              | some e =>
                if name = (match t.head with | .name s => s | _ => "") then
                  .found (t, before, after, String.ofList body.reverse, bodyStart, bodyEnd) e
                else .invalid "mismatched raw block")

/-- The tag at `i`, which starts with `{{`: the first form that matches. -/
def tagAt (src : Array Char) (fuel i : Nat) : Except TemplateError (List Token × Nat) :=
  let emit (kind : Kind) : Scan (Tag × Bool × Bool) → Option (Except TemplateError (List Token × Nat))
    | .found (t, b, a) e => some (.ok ([.tag kind t b a i e], e))
    | .invalid m => some (.error (.malformed m))
    | .fail => none
  let guarded : Option (Except TemplateError (List Token × Nat)) :=
    if (invertTag src i).isSome then none
    else match chainTag src fuel i with
      | .fail => emit .expression (framed src i "" (valueBody src fuel) "\x7d\x7d")
      | _ => none
  let attempts : List (Unit → Option (Except TemplateError (List Token × Nat))) := [
    fun _ => guarded,
    fun _ =>
      match word src i "\x7b\x7b\x7b" with
      | none => none
      | some j =>
        let (b, j) := tilde src j
        match valueBody src fuel j with
        | .found t k =>
          let (a, k) := tilde src k
          (word src k "\x7d\x7d\x7d").map (fun e => .ok ([.tag .expression t b a i e], e))
        | .invalid m => some (.error (.malformed m))
        | .fail => none,
    fun _ => emit .expression (framed src i "\x7b" (fun k =>
      (valueBody src fuel k).andThen (fun t l =>
        match word src (skip src l) "\x7d" with
        | some e => .found t e
        | none => .fail)) "\x7d\x7d"),
    fun _ => emit .expression (framed src i "&" (fun k =>
      match subexpression src fuel k with
      | .found p e => .found ⟨p, [], [], []⟩ e
      | .invalid m => .invalid m
      | .fail =>
        match path src k with
        | some (p, e) => .found ⟨.path p, [], [], []⟩ e
        | none => .fail) "\x7d\x7d"),
    fun _ => emit .blockStart (framed src i "#" (expLine src fuel) "\x7d\x7d"),
    fun _ =>
      match rawBlock src fuel i with
      | .found (t, b, a, body, bodyStart, bodyEnd) e =>
        some (.ok ([.tag .blockStart t b a i bodyStart, .text body bodyStart bodyEnd,
          .tag (.blockEnd (match t.head with | .name s => s | _ => "")) t false false bodyEnd e], e))
      | .invalid m => some (.error (.malformed m))
      | .fail => none,
    fun _ => (commentEnd src i).map (fun e => .ok ([.tag .comment ⟨.name "", [], [], []⟩ false false i e], e)),
    fun _ => emit .decorator (framed src i "*" (expLine src fuel) "\x7d\x7d"),
    fun _ => emit .decoratorBlockStart (framed src i "#*" (expLine src fuel) "\x7d\x7d"),
    fun _ => emit .partialCall (framed src i ">" (fun k =>
      (partialName src fuel k).andThen (fun p l =>
        (arguments src fuel l).andThen (fun (ps, hs) e => .found ⟨p, ps, hs, []⟩ e))) "\x7d\x7d"),
    fun _ => emit .partialBlockStart (framed src i "#>" (fun k =>
      (partialName src fuel k).andThen (fun p l =>
        (arguments src fuel l).andThen (fun (ps, hs) e => .found ⟨p, ps, hs, []⟩ e))) "\x7d\x7d"),
    fun _ => emit .chain (chainTag src fuel i),
    fun _ => (invertTag src i).map (fun (b, a, e) => .ok ([.tag .invert ⟨.name "", [], [], []⟩ b a i e], e)),
    fun _ =>
      let ending (chars : Char → Bool) : Scan (Tag × Bool × Bool) :=
        framed src i "/" (fun k =>
          let j := scan chars src k
          if k < j then .found ⟨.name (slice src k j), [], [], []⟩ j else .fail) "\x7d\x7d"
      match (ending isSymbol).orElse (fun _ => ending isPartialSymbol) with
      | .found (t, b, a) e =>
        some (.ok ([.tag (.blockEnd (match t.head with | .name s => s | _ => "")) t b a i e], e))
      | _ => none]
  match attempts.findSome? (fun f => f ()) with
  | some r => r
  | none => .error (.malformed "invalid tag")

/-- Cuts a template into tokens, from `i` on; `fuel` bounds the number of tokens. -/
def tokensFrom (src : Array Char) : Nat → Nat → List Token → Except TemplateError (List Token)
  | 0, _, _ => .error (.malformed "template too long")
  | fuel + 1, i, acc =>
    if i < src.size then
      if (word src i "\x7b\x7b").isSome then
        match tagAt src src.size i with
        | .ok (ts, e) => if i < e then tokensFrom src fuel e (ts.reverse ++ acc)
                         else .error (.malformed "empty tag")
        | .error err => .error err
      else
        let (text, e) := textUntil src "\x7b\x7b" i []
        if i < e then tokensFrom src fuel e (.text (String.ofList text.reverse) i e :: acc)
        else .error (.malformed "empty text")
    else .ok acc.reverse

/-- Cuts a template into tokens. -/
def tokens (source : String) : Except TemplateError (List Token) :=
  let src := source.toList.toArray
  tokensFrom src (src.size + 1) 0 []

end Lex
end Template
end PromptTrainer
