import PromptTrainer.Template.Lex
import PromptTrainer.Text.Basic
/-!
# Prompt templates: reading

The tokens of a template are assembled into elements, blocks nesting as their tags say.
Reading fails on an `{{else}}` or closing tag outside a block, a second `{{else}}` in one
block, a closing tag whose name is not the block's, and a block left open.

Blanks around tags are removed in two ways.

* A `~` just inside a tag's opening braces removes the white space (in the Unicode sense) at
  the end of the text before the tag; a `~` before its closing braces removes the white
  space at the start of every text after it, up to the next tag that is not a comment.
  Comments do not take part in this.
* A block tag, `{{else}}`, comment, partial or decorator is *standalone* when only spaces
  and tabs stand between it and a line break after it, and between the previous line break
  (or the start of the template) and it.  The spaces and tabs before it are removed (except
  before a partial), and the next text loses its leading spaces and tabs and one line
  break.  Only the source around the tag is looked at, not what other tags do to it.

Blanks (space, tab, line feed, carriage return) that stand alone between two tags are
dropped when the tag before them asked for white space after it to be removed; the request
to remove a line break then carries over to the next text.
-/

namespace PromptTrainer
namespace Template
namespace Parse

/-- What opened a block. -/
inductive BlockKind where
  | helper
  | partialBlock
  | decoratorBlock

/-- A block being read: its tag and kind, the name its closing tag must have, its body once
an `{{else}}` was met, and whether an `{{else name}}` chain opened it. -/
structure OpenBlock where
  tag : Tag
  kind : BlockKind
  name : String
  body : Option (List Element)
  chained : Bool

/-- The state of reading: the element lists being filled, innermost first and each last
element first; the open blocks, innermost first; whether white space after the last tag is
to be removed; whether the next text loses its first line break. -/
structure Reader where
  frames : List (List Element)
  opens : List OpenBlock
  trimAfter : Bool
  trimLine : Bool

/-- Whether a character is a space or a tab. -/
def isInlineBlank (c : Char) : Bool := c = ' ' || c = '\t'

/-- Whether a character is a line break. -/
def isBreak (c : Char) : Bool := c = '\n' || c = '\r'

/-- The text without its leading spaces and tabs and then one line break (`\r\n` or
`\n`). -/
def stripLine (s : String) : String :=
  match s.toList.dropWhile isInlineBlank with
  | '\r' :: '\n' :: rest => String.ofList rest
  | '\n' :: rest => String.ofList rest
  | rest => String.ofList rest

/-- The text without its trailing spaces and tabs. -/
def dropInlineEnd (s : String) : String :=
  String.ofList (s.toList.reverse.dropWhile isInlineBlank).reverse

/-- Changes the last element of the innermost list if it is text. -/
def Reader.editLastText (r : Reader) (f : String → String) : Reader :=
  match r.frames with
  | (.text s :: rest) :: outer => { r with frames := (.text (f s) :: rest) :: outer }
  | _ => r

/-- Adds an element to the innermost list. -/
def Reader.push (r : Reader) (e : Element) : Reader :=
  match r.frames with
  | frame :: outer => { r with frames := (e :: frame) :: outer }
  | [] => { r with frames := [[e]] }

/-- The standalone rule for a tag from `start` to `stop`: whether the tag is standalone, and
the reader with the spaces before it removed when `dropIndent`. -/
def standalone (src : Array Char) (start stop : Nat) (dropIndent : Bool) (r : Reader) :
    Reader × Bool :=
  let after := (src.extract stop src.size).toList.dropWhile isInlineBlank
  match after with
  | c :: _ =>
    if isBreak c then
      let before := ((src.extract 0 start).toList.reverse).dropWhile isInlineBlank
      let leading := match before with
        | [] => true
        | c :: _ => isBreak c
      let r := if dropIndent && leading then r.editLastText dropInlineEnd else r
      (r, start = 0 || leading)
    else (r, false)
  | [] => (r, false)

/-- The steps every tag with trim marks takes: the text before loses its trailing white
space when asked, the request for the text after is recorded, and the standalone rule is
applied when `lineRule` holds. -/
def Reader.atTag (r : Reader) (src : Array Char) (start stop : Nat) (before after : Bool)
    (lineRule dropIndent : Bool) : Reader :=
  let r := if before then r.editLastText Text.trimEnd else r
  let r := { r with trimAfter := after }
  if lineRule then
    let (r, alone) := standalone src start stop dropIndent r
    { r with trimLine := alone }
  else r

/-- The name of a tag as written: the helper's name, or the text of its path. -/
def headName : Param → String
  | .name s => s
  | .path p => p.raw
  | _ => ""

/-- Opens a block. -/
def Reader.openBlock (r : Reader) (t : Tag) (kind : BlockKind) (chained : Bool) : Reader :=
  { r with opens := ⟨t, kind, headName t.head, none, chained⟩ :: r.opens, frames := [] :: r.frames }

/-- Finishes the body of the innermost block at an `{{else}}`. -/
def Reader.startInverse (r : Reader) : Except TemplateError Reader :=
  match r.opens, r.frames with
  | o :: os, frame :: outer =>
    match o.kind, o.body with
    | .helper, none =>
      .ok { r with opens := { o with body := some frame.reverse } :: os, frames := [] :: outer }
    | _, _ => .error (.malformed "unexpected else")
  | _, _ => .error (.malformed "else outside a block")

/-- The element of a finished block. -/
def OpenBlock.finish (o : OpenBlock) (frame : List Element) : Element :=
  let (body, inverse) := match o.body with
    | some b => (b, some frame.reverse)
    | none => (frame.reverse, none)
  match o.kind with
  | .helper => .block o.tag (some body) inverse
  | .partialBlock => .partialCall o.tag.head o.tag (some body)
  | .decoratorBlock => if headName o.tag.head = "inline" then .inlinePartial o.tag body else .decorator o.tag

/-- Closes blocks at a closing tag: chained blocks close with the block they continue,
whose name must be the closing tag's. -/
def Reader.closeBlock (r : Reader) (name : String) : Nat → Except TemplateError Reader
  | 0 => .error (.malformed "blocks nested too deeply")
  | fuel + 1 =>
    match r.opens, r.frames with
    | o :: os, frame :: outer =>
      let r := ({ r with opens := os, frames := outer } : Reader).push (o.finish frame)
      if o.chained then r.closeBlock name fuel
      else if o.name = name then .ok r
      else .error (.malformed ("mismatched closing tag " ++ name))
    | _, _ => .error (.malformed "closing tag outside a block")

/-- Reads one token. -/
def Reader.step (src : Array Char) (r : Reader) : Lex.Token → Except TemplateError Reader
  | .text s start _ =>
    if 0 < start && s.all Lex.isBlank && r.trimAfter then .ok r
    else
      let s := if r.trimAfter then Text.trimStart s else if r.trimLine then stripLine s else s
      .ok (({ r with trimLine := false } : Reader).push (.text s))
  | .tag kind t before after start stop =>
    match kind with
    | .expression => .ok ((r.atTag src start stop before after false false).push (.expression t))
    | .blockStart => .ok ((r.atTag src start stop before after true true).openBlock t .helper false)
    | .partialBlockStart =>
      .ok ((r.atTag src start stop before after true true).openBlock t .partialBlock false)
    | .decoratorBlockStart =>
      .ok ((r.atTag src start stop before after true true).openBlock t .decoratorBlock false)
    | .invert => (r.atTag src start stop before after true true).startInverse
    | .chain => do
      let r ← (r.atTag src start stop before after true true).startInverse
      .ok (r.openBlock t .helper true)
    | .blockEnd name =>
      (r.atTag src start stop before after true true).closeBlock name (r.opens.length + 1)
    | .comment =>
      let (r, alone) := standalone src start stop true r
      .ok (({ r with trimLine := alone } : Reader).push .comment)
    | .decorator => .ok ((r.atTag src start stop before after true true).push (.decorator t))
    | .partialCall =>
      .ok ((r.atTag src start stop before after true false).push (.partialCall t.head t none))

/-- Reads a template. -/
def parse (source : String) : Except TemplateError (List Element) := do
  let src := source.toList.toArray
  let tokens ← Lex.tokens source
  let r ← tokens.foldlM (Reader.step src) ⟨[[]], [], false, false⟩
  match r.opens, r.frames with
  | [], [frame] => .ok frame.reverse
  | _, _ => .error (.malformed "unclosed block")

end Parse

/-- Reads a template. -/
def parse (source : String) : Except TemplateError (List Element) := Parse.parse source

end Template
end PromptTrainer
