import PromptTrainer.Yaml.Token
/-!
# YAML scanner: state, simple keys and indentation

The scanner walks the characters of a text once, keeping its position (index, line and
column), the tokens found so far, and two stacks.

* The indentation stack holds the columns of the open block collections.  A key or an
  entry further right than the innermost one opens a new collection (a mapping-start or
  sequence-start token); a line starting further left closes collections (block-end
  tokens).  In flow collections indentation plays no part.
* The simple-key stack holds, for each flow level, where a key written without `?` may
  have started.  Such a key is only known to be one when its `:` is met; its key token
  (and, in a block, the mapping-start token before it) is then inserted at the token number
  recorded where the key started.  A simple key must fit on one line and within 1024 bytes;
  a block key at the indentation of its mapping must be one.

Every token is kept in one array, so inserting a token at a recorded number puts it before
the tokens found after that place.
-/

namespace PromptTrainer
namespace Yaml

/-- A place where a simple key may start: whether it still may, whether it must, the number
of the token it would stand before, and its position. -/
structure SimpleKey where
  possible : Bool := false
  required : Bool := false
  tokenNumber : Nat := 0
  mark : Mark := ⟨0, 0, 0⟩

/-- The state of the scanner. -/
structure Scanner where
  /-- The characters of the text. -/
  text : Array Char
  /-- The index of the next character. -/
  pos : Nat := 0
  mark : Mark := ⟨0, 0, 0⟩
  /-- The tokens found so far, in order. -/
  tokens : Array Token := #[]
  started : Bool := false
  finished : Bool := false
  /-- The column of the innermost block collection, `-1` outside any. -/
  indent : Int := -1
  /-- The columns of the enclosing block collections, innermost first. -/
  indents : List Int := []
  /-- Whether a simple key may start at the position. -/
  keyAllowed : Bool := false
  /-- The possible simple key of each flow level, innermost first. -/
  keys : List SimpleKey := []
  flowLevel : Nat := 0

/-- A result of scanning. -/
abbrev Scanning (α : Type) := Except YamlError α

/-- A refusal with its reason. -/
def refuse {α : Type} (message : String) : Scanning α := .error ⟨message⟩

namespace Scanner

/-- The character `k` places ahead, or the end marker. -/
def peek (s : Scanner) (k : Nat := 0) : Char := s.text.getD (s.pos + k) (Char.ofNat 0)

/-- Moves past one character that does not break a line. -/
def skip (s : Scanner) : Scanner :=
  { s with
    pos := s.pos + 1
    mark := { s.mark with index := s.mark.index + utf8Width s.peek, column := s.mark.column + 1 } }

/-- Moves past a line break, `\r\n` counting as one. -/
def skipLine (s : Scanner) : Scanner :=
  if s.peek == '\r' && s.peek 1 == '\n' then
    { s with pos := s.pos + 2, mark := ⟨s.mark.index + 2, s.mark.line + 1, 0⟩ }
  else if isBreak s.peek then
    { s with pos := s.pos + 1, mark := ⟨s.mark.index + utf8Width s.peek, s.mark.line + 1, 0⟩ }
  else s

/-- Reads a line break and what it stands for inside a scalar: a line feed for `\r\n`,
`\r`, `\n` and next line; line and paragraph separators stand for themselves.  Nothing
when no line break is next. -/
def readBreak (s : Scanner) : Scanner × String :=
  let c := s.peek
  if c == '\r' || c == '\n' || c.toNat == 0x85 then (s.skipLine, "\n")
  else if isBreak c then (s.skipLine, c.toString)
  else (s, "")

/-- Moves past the characters that satisfy a test (none of which breaks a line). -/
def skipWhile (p : Char → Bool) (s : Scanner) : Scanner :=
  go (s.text.size + 1) s
where
  /-- The loop, bounded by the length of the text. -/
  go : Nat → Scanner → Scanner
    | 0, s => s
    | n + 1, s => if p s.peek then go n s.skip else s

/-- Reads the characters that satisfy a test (none of which breaks a line). -/
def readWhile (p : Char → Bool) (s : Scanner) : Scanner × String :=
  go (s.text.size + 1) s ""
where
  /-- The loop, bounded by the length of the text. -/
  go : Nat → Scanner → String → Scanner × String
    | 0, s, acc => (s, acc)
    | n + 1, s, acc => if p s.peek then go n s.skip (acc.push s.peek) else (s, acc)

/-- Moves past blanks. -/
def skipBlanks (s : Scanner) : Scanner := s.skipWhile isBlank

/-- Moves past a comment, if one starts here, up to the end of its line. -/
def skipComment (s : Scanner) : Scanner :=
  if s.peek == '#' then s.skipWhile (fun c => !isBreakOrEnd c) else s

/-- Whether a document marker (`---` or `...` at the start of a line, then a blank, a line
break or the end) starts here. -/
def atDocumentMarker (s : Scanner) : Bool :=
  s.mark.column == 0 &&
    ((s.peek 0 == '-' && s.peek 1 == '-' && s.peek 2 == '-') ||
      (s.peek 0 == '.' && s.peek 1 == '.' && s.peek 2 == '.')) &&
    isBlankOrEnd (s.peek 3)

/-- Adds a token after those found. -/
def push (s : Scanner) (t : Token) : Scanner := { s with tokens := s.tokens.push t }

/-- Inserts a token so that it gets a number, moving the later tokens one place on. -/
def insert (s : Scanner) (number : Nat) (t : Token) : Scanner :=
  { s with tokens := (s.tokens.extract 0 number).push t ++ s.tokens.extract number s.tokens.size }

/-- The simple key of the innermost flow level. -/
def topKey (s : Scanner) : SimpleKey := s.keys.headD {}

/-- Replaces the simple key of the innermost flow level. -/
def setTopKey (s : Scanner) (k : SimpleKey) : Scanner :=
  { s with keys := match s.keys with
    | _ :: rest => k :: rest
    | [] => [k] }

/-- Forgets the possible simple key of the innermost flow level; a refusal when that key
was required. -/
def removeKey (s : Scanner) : Scanning Scanner :=
  let k := s.topKey
  if k.possible && k.required then refuse "could not find expected ':' after a simple key"
  else .ok (s.setTopKey { k with possible := false })

/-- Records that a simple key may start here, when one may. -/
def saveKey (s : Scanner) : Scanning Scanner := do
  if s.keyAllowed then
    let required := s.flowLevel == 0 && s.indent == (s.mark.column : Int)
    let k : SimpleKey := ⟨true, required, s.tokens.size, s.mark⟩
    let s ← s.removeKey
    pure (s.setTopKey k)
  else pure s

/-- Forgets the simple keys that can no longer be keys: those started on an earlier line or
more than 1024 bytes back; a refusal for such a key that was required. -/
def dropStaleKeys (s : Scanner) : Scanning Scanner := do
  let keys ← s.keys.mapM (fun k =>
    if k.possible && (k.mark.line < s.mark.line || k.mark.index + 1024 < s.mark.index) then
      if k.required then refuse "could not find expected ':' after a simple key"
      else pure { k with possible := false }
    else pure k)
  pure { s with keys := keys }

/-- Enters a flow collection: a new flow level with no simple key yet. -/
def enterFlow (s : Scanner) : Scanner :=
  { s with keys := {} :: s.keys, flowLevel := s.flowLevel + 1 }

/-- Leaves a flow collection. -/
def leaveFlow (s : Scanner) : Scanner :=
  if s.flowLevel > 0 then { s with flowLevel := s.flowLevel - 1, keys := s.keys.tail } else s

/-- Opens a block collection at a column when it is further right than the innermost one:
the column is pushed and the start token added, or inserted at a token number. -/
def rollIndent (s : Scanner) (column : Nat) (number : Option Nat) (t : Token) : Scanner :=
  if s.flowLevel > 0 then s
  else if s.indent < (column : Int) then
    let s := { s with indents := s.indent :: s.indents, indent := column }
    match number with
    | some n => s.insert n t
    | none => s.push t
  else s

/-- Closes the block collections further right than a column, with a block-end token
each. -/
def unrollIndent (s : Scanner) (column : Int) : Scanner :=
  if s.flowLevel > 0 then s else go s.indents s
where
  /-- The loop over the stack of columns. -/
  go : List Int → Scanner → Scanner
    | stack, s =>
      if s.indent > column then
        match stack with
        | top :: rest => go rest { s.push .blockEnd with indent := top, indents := rest }
        | [] => s
      else s

end Scanner
end Yaml
end PromptTrainer
