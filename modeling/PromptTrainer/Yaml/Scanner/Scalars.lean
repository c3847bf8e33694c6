import PromptTrainer.Yaml.Scanner.State
/-!
# YAML scanner: scalars

Three kinds of scalars are read here.

* A *plain* scalar runs until `: ` (a colon before a blank), a comment (`#` after a
  blank), a document marker, or, in a flow collection, a flow indicator (`,[]{}`) or a
  colon before one of `,?[]{}`.  In a block it may go on over lines indented more than its
  block; in a flow collection over any lines.
* A *quoted* scalar runs to its closing quote.  In single quotes `''` is a quote; in double
  quotes a backslash starts an escape, and a backslash before a line break joins the lines.
* A *block* scalar (`|` literal, `>` folded) is made of the lines indented at least its
  indentation, which is given by an indicator or taken from its first non-empty line.  Its
  final line breaks are stripped (`-`), kept (`+`), or reduced to one.

In plain and quoted scalars, lines are *folded*: a single line break between two lines
becomes a space, and a line break followed by empty lines becomes one line feed per empty
line.  Blanks at the ends of lines are dropped.
-/

namespace PromptTrainer
namespace Yaml

/-- The text of a scalar being read, with the white space after it not yet added: the
blanks met on the current line, the first line break and the breaks of the empty lines
after it, and whether a line break was met. -/
structure Folding where
  text : String := ""
  whitespaces : String := ""
  leadingBreak : String := ""
  trailingBreaks : String := ""
  broken : Bool := false

/-- Adds the pending white space: after a line break, a space when the break is a line feed
with no empty lines after it, the breaks of the empty lines when there are some, and the
breaks themselves when the first is a line or paragraph separator; without a line break,
the blanks. -/
def Folding.join (f : Folding) : Folding :=
  if f.broken then
    let text :=
      if f.leadingBreak.startsWith "\n" then
        if f.trailingBreaks.isEmpty then f.text.push ' ' else f.text ++ f.trailingBreaks
      else f.text ++ f.leadingBreak ++ f.trailingBreaks
    { f with text := text, leadingBreak := "", trailingBreaks := "", broken := false }
  else { f with text := f.text ++ f.whitespaces, whitespaces := "" }

/-- Records a blank or a line break after the text: blanks before the first line break are
kept for joining, blanks after it are indentation; the first line break and the later ones
are kept apart. -/
def Folding.blank (f : Folding) (c : Char) : Folding :=
  if f.broken then f else { f with whitespaces := f.whitespaces.push c }

/-- Records a line break read after the text. -/
def Folding.lineBreak (f : Folding) (br : String) : Folding :=
  if f.broken then { f with trailingBreaks := f.trailingBreaks ++ br }
  else { f with whitespaces := "", leadingBreak := br, broken := true }

namespace Scanner

/-- Whether a plain scalar ends before the next character. -/
def plainStops (s : Scanner) : Bool :=
  let c := s.peek
  let next := s.peek 1
  (s.flowLevel > 0 && c == ':' &&
      (next == ',' || next == '?' || next == '[' || next == ']' || next == '{' || next == '}')) ||
    (c == ':' && isBlankOrEnd next) ||
    (s.flowLevel > 0 && (c == ',' || c == '[' || c == ']' || c == '{' || c == '}'))

/-- Reads the characters of a plain scalar up to a blank, a line break or an indicator that
ends it, adding the pending white space before the first. -/
def plainRun : Nat → Scanner → Folding → Scanner × Folding
  | 0, s, f => (s, f)
  | n + 1, s, f =>
    let c := s.peek
    if isBlankOrEnd c || s.plainStops then (s, f)
    else
      let f := if f.broken || !f.whitespaces.isEmpty then f.join else f
      plainRun n s.skip { f with text := f.text.push c }

/-- Reads the blanks and line breaks after a run of a plain scalar; a tab in the
indentation of a continuation line (left of `indent`) is refused. -/
def plainBlanks (indent : Int) : Nat → Scanner → Folding → Scanning (Scanner × Folding)
  | 0, s, f => .ok (s, f)
  | n + 1, s, f =>
    let c := s.peek
    if isBlank c then
      if f.broken && (s.mark.column : Int) < indent && c == '\t' then
        refuse "found a tab character that violates indentation"
      else plainBlanks indent n s.skip (f.blank c)
    else if isBreak c then
      let (s, br) := s.readBreak
      plainBlanks indent n s (f.lineBreak br)
    else .ok (s, f)

/-- Reads the lines of a plain scalar; in a block, a line indented less than `indent` ends
it. -/
def plainLines (indent : Int) : Nat → Scanner → Folding → Scanning (Scanner × Folding)
  | 0, s, f => .ok (s, f)
  | n + 1, s, f =>
    if s.atDocumentMarker || s.peek == '#' then .ok (s, f)
    else
      let (s, f) := plainRun (s.text.size + 1) s f
      if !(isBlank s.peek || isBreak s.peek) then .ok (s, f)
      else do
        let (s, f) ← plainBlanks indent (s.text.size + 1) s f
        if s.flowLevel == 0 && (s.mark.column : Int) < indent then .ok (s, f)
        else plainLines indent n s f

/-- Reads a plain scalar.  When it ended after a line break, a simple key may follow. -/
def plainScalar (s : Scanner) : Scanning Scanner := do
  let (s, f) ← plainLines (s.indent + 1) (s.text.size + 1) s {}
  let s := s.push (.scalar f.text .plain)
  pure (if f.broken then { s with keyAllowed := true } else s)

/-- The character of a hexadecimal escape of a number of digits after the escape letter. -/
def hexEscape (s : Scanner) (digits : Nat) : Scanning (Scanner × String) := do
  let values := (List.range digits).map (fun k => hexValue (s.peek k))
  let value ← match values.mapM id with
    | some vs => pure (vs.foldl (fun acc v => 16 * acc + v) 0)
    | none => refuse "did not find expected hexadecimal number"
  if (0xD800 ≤ value && value ≤ 0xDFFF) || value > 0x10FFFF then
    refuse "found invalid Unicode character escape code"
  else pure ((List.range digits).foldl (fun s _ => s.skip) s, (Char.ofNat value).toString)

/-- Reads an escape sequence of a double-quoted scalar, the scanner at its backslash. -/
def escape (s : Scanner) : Scanning (Scanner × String) :=
  let simple (n : Nat) : Scanning (Scanner × String) := .ok (s.skip.skip, (Char.ofNat n).toString)
  match s.peek 1 with
  | '0' => simple 0
  | 'a' => simple 7
  | 'b' => simple 8
  | 't' => simple 9
  | '\t' => simple 9
  | 'n' => simple 10
  | 'v' => simple 11
  | 'f' => simple 12
  | 'r' => simple 13
  | 'e' => simple 27
  | ' ' => simple 32
  | '"' => simple 34
  | '/' => simple 47
  | '\'' => simple 39
  | '\\' => simple 92
  | 'N' => simple 0x85
  | '_' => simple 0xA0
  | 'L' => simple 0x2028
  | 'P' => simple 0x2029
  | 'x' => s.skip.skip.hexEscape 2
  | 'u' => s.skip.skip.hexEscape 4
  | 'U' => s.skip.skip.hexEscape 8
  | _ => refuse "found unknown escape character"

/-- The closing quote of a quoted scalar. -/
def closingQuote (single : Bool) : Char := if single then '\'' else '"'

/-- Reads the characters of a quoted scalar up to a blank, a line break, the closing quote
or a backslash before a line break, which joins the lines and is read as a line break. -/
def quotedRun (single : Bool) : Nat → Scanner → Folding → Scanning (Scanner × Folding)
  | 0, s, f => .ok (s, f)
  | n + 1, s, f =>
    let c := s.peek
    if isBlankOrEnd c then .ok (s, f)
    else if single && c == '\'' && s.peek 1 == '\'' then
      quotedRun single n s.skip.skip { f with text := f.text.push '\'' }
    else if c == closingQuote single then .ok (s, f)
    else if !single && c == '\\' && isBreak (s.peek 1) then
      .ok (s.skip.skipLine, { f with broken := true })
    else if !single && c == '\\' then do
      let (s, x) ← s.escape
      quotedRun single n s { f with text := f.text ++ x }
    else quotedRun single n s.skip { f with text := f.text.push c }

/-- Reads the blanks and line breaks inside a quoted scalar. -/
def quotedBlanks : Nat → Scanner → Folding → Scanner × Folding
  | 0, s, f => (s, f)
  | n + 1, s, f =>
    let c := s.peek
    if isBlank c then quotedBlanks n s.skip (f.blank c)
    else if isBreak c then
      let (s, br) := s.readBreak
      quotedBlanks n s (f.lineBreak br)
    else (s, f)

/-- Reads the lines of a quoted scalar up to its closing quote; a document marker or the end
of the text inside it is refused. -/
def quotedLines (single : Bool) : Nat → Scanner → Folding → Scanning (Scanner × Folding)
  | 0, _, _ => refuse "found unexpected end of stream"
  | n + 1, s, f =>
    if s.atDocumentMarker then refuse "found unexpected document indicator"
    else if isEnd s.peek then refuse "found unexpected end of stream"
    else do
      let (s, f) ← quotedRun single (s.text.size + 1) s f
      if s.peek == closingQuote single then .ok (s, f)
      else
        let (s, f) := quotedBlanks (s.text.size + 1) s f
        quotedLines single n s f.join

/-- Reads a quoted scalar, the scanner at its opening quote. -/
def quotedScalar (single : Bool) (s : Scanner) : Scanning Scanner := do
  let (s, f) ← quotedLines single (s.text.size + 1) s.skip {}
  pure (s.skip.push (.scalar f.text (if single then .singleQuoted else .doubleQuoted)))

/-- How a block scalar treats its final line breaks. -/
inductive Chomping where
  | strip
  | clip
  | keep
deriving BEq

/-- Reads the indicators of a block scalar header: the chomping and the indentation
increment (0 when not given), in either order. -/
def blockHeader (s : Scanner) : Scanning (Scanner × Chomping × Nat) :=
  let chomping (c : Char) : Option Chomping :=
    if c == '+' then some .keep else if c == '-' then some .strip else none
  match chomping s.peek with
  | some ch =>
    let s := s.skip
    if isDecimal s.peek then
      if s.peek == '0' then refuse "found an indentation indicator equal to 0"
      else .ok (s.skip, ch, s.peek.toNat - '0'.toNat)
    else .ok (s, ch, 0)
  | none =>
    if isDecimal s.peek then
      if s.peek == '0' then refuse "found an indentation indicator equal to 0"
      else
        let increment := s.peek.toNat - '0'.toNat
        let s := s.skip
        match chomping s.peek with
        | some ch => .ok (s.skip, ch, increment)
        | none => .ok (s, .clip, increment)
    else .ok (s, .clip, 0)

/-- Moves past the indentation spaces of a block scalar line: all of them while the
indentation is not known (0), else those left of it. -/
def skipIndentation (indent : Nat) : Nat → Scanner → Scanner
  | 0, s => s
  | n + 1, s =>
    if (indent == 0 || s.mark.column < indent) && s.peek == ' ' then
      skipIndentation indent n s.skip
    else s

/-- Reads the indentation and the empty lines before a line of a block scalar, adding their
line breaks.  When the indentation is not known yet (0) it becomes the largest indentation
of those empty lines and of the first line, and at least one more than the enclosing
block's and at least 1.  A tab in the indentation is refused. -/
def blockBreaks (outer : Int) :
    Nat → Scanner → Nat → Nat → String → Scanning (Scanner × Nat × String)
  | 0, s, indent, _, breaks => .ok (s, indent, breaks)
  | n + 1, s, indent, widest, breaks =>
    let s := skipIndentation indent (s.text.size + 1) s
    let widest := max widest s.mark.column
    if (indent == 0 || s.mark.column < indent) && s.peek == '\t' then
      refuse "found a tab character where an indentation space is expected"
    else if !isBreak s.peek then
      let indent := if indent == 0 then max (max widest (outer + 1).toNat) 1 else indent
      .ok (s, indent, breaks)
    else
      let (s, br) := s.readBreak
      blockBreaks outer n s indent widest (breaks ++ br)

/-- The text of a block scalar being read: the text, the line break after the last line,
the breaks of the empty lines after it, and whether the last line started with a blank. -/
structure BlockText where
  text : String := ""
  leadingBreak : String := ""
  trailingBreaks : String := ""
  leadingBlank : Bool := false

/-- Reads the lines of a block scalar at its indentation.  In a folded scalar a line break
between two lines that do not start with a blank becomes a space, or is dropped when empty
lines follow it. -/
def blockLines (literal : Bool) (outer : Int) (indent : Nat) :
    Nat → Scanner → BlockText → Scanning (Scanner × BlockText)
  | 0, s, b => .ok (s, b)
  | n + 1, s, b =>
    if s.mark.column != indent || isEnd s.peek then .ok (s, b)
    else do
      let trailingBlank := isBlank s.peek
      let text :=
        if !literal && b.leadingBreak.startsWith "\n" && !b.leadingBlank && !trailingBlank then
          if b.trailingBreaks.isEmpty then b.text.push ' ' else b.text
        else b.text ++ b.leadingBreak
      let text := text ++ b.trailingBreaks
      let leadingBlank := isBlank s.peek
      let (s, line) := s.readWhile (fun c => !isBreakOrEnd c)
      let (s, br) := s.readBreak
      let (s, _, trailing) ← blockBreaks outer (s.text.size + 1) s indent 0 ""
      blockLines literal outer indent n s ⟨text ++ line, br, trailing, leadingBlank⟩

/-- Reads a block scalar, the scanner at its indicator (`literal` for `|`). -/
def blockScalar (literal : Bool) (s : Scanner) : Scanning Scanner := do
  let (s, chomping, increment) ← s.skip.blockHeader
  let s := s.skipBlanks.skipComment
  if !isBreakOrEnd s.peek then refuse "did not find expected comment or line break"
  else
    let s := s.skipLine
    let indent :=
      if increment == 0 then 0
      else if s.indent ≥ 0 then s.indent.toNat + increment else increment
    let (s, indent, trailing) ← blockBreaks s.indent (s.text.size + 1) s indent 0 ""
    let (s, b) ← blockLines literal s.indent indent (s.text.size + 1) s { trailingBreaks := trailing }
    let text := if chomping == .strip then b.text else b.text ++ b.leadingBreak
    let text := if chomping == .keep then text ++ b.trailingBreaks else text
    pure (s.push (.scalar text (if literal then .literal else .folded)))

end Scanner
end Yaml
end PromptTrainer
