import PromptTrainer.Json.Basic
/-!
# Prompt templates: syntax

A prompt template is text with tags in double braces.  This module holds what a template is
made of once read.

* A `Path` names a place in the data: steps that are names (`a.b`, `a/[b c]`), `..` for the
  enclosing context, `@root` for the data itself and `@` for a data name of the innermost
  block (`@index`, `@../key`).  The path keeps its text, which is also what a lone path is
  called when it is looked up as a helper.
* A `Param` is a path, a JSON literal, a name (a helper's name as written) or a
  subexpression, which is a helper call in parentheses.
* A `Tag` is the inside of a tag: what it names, its parameters, its `key=value` hash and its
  block parameters (`as |item index|`).
* An `Element` is a piece of text, a tag that writes a value or a helper's answer, a block
  with its body and the part after `{{else}}`, a comment, or a partial.
-/

namespace PromptTrainer
namespace Template

/-- Why a template could not be read or rendered. -/
inductive TemplateError where
  /-- The template text is not well formed. -/
  | malformed (message : String)
  /-- Rendering failed. -/
  | render (message : String)
deriving BEq

/-- The wording of a template error. -/
def TemplateError.message : TemplateError → String
  | .malformed m => m
  | .render m => m

/-- One step of a path. -/
inductive Step where
  /-- A name, or a key written in brackets. -/
  | name (s : String)
  /-- `..`: one context up. -/
  | up
  /-- `@root`: the data itself. -/
  | root
  /-- `@`: a data name of a block follows. -/
  | data
deriving BEq

/-- A path as written and as steps; `this` steps are left out. -/
structure Path where
  raw : String
  steps : List Step
deriving BEq

/-- The data name a path refers to, with how many blocks up: `@index` is `(0, "index")`,
`@../index` is `(1, "index")`. -/
def Path.dataName? (p : Path) : Option (Nat × String) :=
  match p.steps with
  | .data :: rest =>
    let ups := (rest.takeWhile (· == .up)).length
    match rest.drop ups with
    | .name n :: _ => some (ups, n)
    | _ => none
  | _ => none

/-- A parameter of a tag. -/
inductive Param where
  /-- A helper's name as written after the opening braces. -/
  | name (s : String)
  | path (p : Path)
  | literal (value : Json)
  /-- A helper call in parentheses: the helper, its parameters and its hash. -/
  | sub (head : Param) (params : List Param) (hash : List (String × Param))

/-- The inside of a tag: what it names, its parameters, hash and block parameters. -/
structure Tag where
  head : Param
  params : List Param := []
  hash : List (String × Param) := []
  blockParams : List String := []

/-- Whether a tag is a lone name or path, without parameters or hash. -/
def Tag.nameOnly (t : Tag) : Bool := t.params.isEmpty && t.hash.isEmpty

/-- A piece of a read template. -/
inductive Element where
  | text (s : String)
  /-- A tag that writes a value or what a helper answers. -/
  | expression (t : Tag)
  /-- A block: its tag, its body and the part after `{{else}}`, each present or not. -/
  | block (t : Tag) (body : Option (List Element)) (inverse : Option (List Element))
  | comment
  /-- A partial to insert, by name; a partial block also has a body to insert when no
  partial of that name exists. -/
  | partialCall (name : Param) (t : Tag) (body : Option (List Element))
  /-- An inline partial definition: the body is registered under the name. -/
  | inlinePartial (t : Tag) (body : List Element)
  /-- A decorator other than an inline partial. -/
  | decorator (t : Tag)

end Template
end PromptTrainer
