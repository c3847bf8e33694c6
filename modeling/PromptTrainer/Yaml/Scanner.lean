import PromptTrainer.Yaml.Scanner.Scalars
import PromptTrainer.Yaml.Scanner.Tags
/-!
# YAML scanner

`Yaml.tokens` cuts a text into its tokens.  A text holding a character YAML does not allow
(a control character other than tab, line feed and carriage return, a C1 control other
than next line, or U+FFFE and U+FFFF) is refused; a byte order mark at its start is
dropped.

Between tokens the scanner skips spaces, comments and line breaks, and also tabs except at
the start of a block line where a key or an entry may start.  The next character then
decides the token: the end of the text, a directive or a document marker at the start of a
line, a flow indicator, `-`, `?` or `:` before a blank (in a flow collection `?` and `:`
always), an anchor, alias or tag, a block scalar indicator outside flow collections, a
quote, or the start of a plain scalar.  Anything else is refused.

Each step consumes at least one character, so the number of steps is bounded by the length
of the text.
-/

namespace PromptTrainer
namespace Yaml
namespace Scanner

/-- Skips the white space, comments and line breaks before the next token.  A byte order
mark may start a line.  In a block, a line break allows a simple key again. -/
def toNextToken : Nat → Scanner → Scanner
  | 0, s => s
  | n + 1, s =>
    let s := if s.mark.column == 0 && s.peek.toNat == 0xFEFF then s.skip else s
    let tabs := s.flowLevel > 0 || !s.keyAllowed
    let s := (s.skipWhile (fun c => c == ' ' || (tabs && c == '\t'))).skipComment
    if isBreak s.peek then
      let s := s.skipLine
      toNextToken n (if s.flowLevel == 0 then { s with keyAllowed := true } else s)
    else s

/-- Starts the stream. -/
def streamStart (s : Scanner) : Scanner :=
  { s with indent := -1, keys := [{}], keyAllowed := true, started := true }.push .streamStart

/-- Ends the stream: every block collection is closed. -/
def streamEnd (s : Scanner) : Scanning Scanner := do
  let s := if s.mark.column != 0 then { s with mark := ⟨s.mark.index, s.mark.line + 1, 0⟩ } else s
  let s ← (s.unrollIndent (-1)).removeKey
  pure ({ s with keyAllowed := false, finished := true }.push .streamEnd)

/-- Reads a directive: every block collection is closed first. -/
def fetchDirective (s : Scanner) : Scanning Scanner := do
  let s ← (s.unrollIndent (-1)).removeKey
  directive { s with keyAllowed := false }

/-- Reads a document marker (`---` or `...`). -/
def documentMarker (s : Scanner) (t : Token) : Scanning Scanner := do
  let s ← (s.unrollIndent (-1)).removeKey
  pure ({ s with keyAllowed := false }.skip.skip.skip.push t)

/-- Reads `[` or `{`, which may start a simple key. -/
def flowStart (s : Scanner) (t : Token) : Scanning Scanner := do
  let s ← s.saveKey
  pure ({ s.enterFlow with keyAllowed := true }.skip.push t)

/-- Reads `]` or `}`. -/
def flowEnd (s : Scanner) (t : Token) : Scanning Scanner := do
  let s ← s.removeKey
  pure ({ s.leaveFlow with keyAllowed := false }.skip.push t)

/-- Reads `,` in a flow collection. -/
def flowEntry (s : Scanner) : Scanning Scanner := do
  let s ← s.removeKey
  pure ({ s with keyAllowed := true }.skip.push .flowEntry)

/-- Reads `-` before a blank: in a block it may open a sequence. -/
def blockEntry (s : Scanner) : Scanning Scanner := do
  let s ←
    if s.flowLevel == 0 then
      if !s.keyAllowed then refuse "block sequence entries are not allowed in this context"
      else pure (s.rollIndent s.mark.column none .blockSequenceStart)
    else pure s
  let s ← s.removeKey
  pure ({ s with keyAllowed := true }.skip.push .blockEntry)

/-- Reads `?`, which starts a key: in a block it may open a mapping. -/
def explicitKey (s : Scanner) : Scanning Scanner := do
  let s ←
    if s.flowLevel == 0 then
      if !s.keyAllowed then refuse "mapping keys are not allowed in this context"
      else pure (s.rollIndent s.mark.column none .blockMappingStart)
    else pure s
  let s ← s.removeKey
  pure ({ s with keyAllowed := s.flowLevel == 0 }.skip.push .key)

/-- Reads `:`.  When a simple key may have started on this flow level, it is one: its key
token is inserted where it started, and in a block a mapping may open there.  Otherwise
the value follows a `?` key, or an empty key. -/
def value (s : Scanner) : Scanning Scanner := do
  let k := s.topKey
  let s ←
    if k.possible then
      let s := s.insert k.tokenNumber .key
      let s := s.rollIndent k.mark.column (some k.tokenNumber) .blockMappingStart
      pure { s.setTopKey { k with possible := false } with keyAllowed := false }
    else if s.flowLevel == 0 then
      if !s.keyAllowed then refuse "mapping values are not allowed in this context"
      else pure { s.rollIndent s.mark.column none .blockMappingStart with keyAllowed := true }
    else pure { s with keyAllowed := false }
  pure (s.skip.push .value)

/-- Whether a plain scalar may start at the next character: any character but a blank,
a line break and the indicators, and also `-` before a non-blank and, in a block, `?` and
`:` before a non-blank. -/
def plainStarts (s : Scanner) : Bool :=
  let c := s.peek
  let indicator := c == '-' || c == '?' || c == ':' || c == ',' || c == '[' || c == ']' ||
    c == '{' || c == '}' || c == '#' || c == '&' || c == '*' || c == '!' || c == '|' ||
    c == '>' || c == '\'' || c == '"' || c == '%' || c == '@' || c == '`'
  !(isBlankOrEnd c || indicator) ||
    (c == '-' && !isBlank (s.peek 1)) ||
    (s.flowLevel == 0 && (c == '?' || c == ':') && !isBlankOrEnd (s.peek 1))

/-- Finds the next token (or tokens: a value indicator may also insert a key and a mapping
start before it). -/
def fetchNext (s : Scanner) : Scanning Scanner := do
  if !s.started then return s.streamStart
  let s := toNextToken (s.text.size + 1) s
  let s ← s.dropStaleKeys
  let s := s.unrollIndent s.mark.column
  let c := s.peek
  let next := s.peek 1
  let atLineStart := s.mark.column == 0
  if isEnd c then s.streamEnd
  else if atLineStart && c == '%' then s.fetchDirective
  else if atLineStart && c == '-' && next == '-' && s.peek 2 == '-' && isBlankOrEnd (s.peek 3) then
    s.documentMarker .documentStart
  else if atLineStart && c == '.' && next == '.' && s.peek 2 == '.' && isBlankOrEnd (s.peek 3) then
    s.documentMarker .documentEnd
  else if c == '[' then s.flowStart .flowSequenceStart
  else if c == '{' then s.flowStart .flowMappingStart
  else if c == ']' then s.flowEnd .flowSequenceEnd
  else if c == '}' then s.flowEnd .flowMappingEnd
  else if c == ',' then s.flowEntry
  else if c == '-' && isBlankOrEnd next then s.blockEntry
  else if c == '?' && (s.flowLevel > 0 || isBlankOrEnd next) then s.explicitKey
  else if c == ':' && (s.flowLevel > 0 || isBlankOrEnd next) then s.value
  else if c == '*' || c == '&' then do
    let s ← s.saveKey
    anchorOrAlias (c == '*') { s with keyAllowed := false }
  else if c == '!' then do
    let s ← s.saveKey
    tag { s with keyAllowed := false }
  else if (c == '|' || c == '>') && s.flowLevel == 0 then do
    let s ← s.removeKey
    blockScalar (c == '|') { s with keyAllowed := true }
  else if c == '\'' || c == '"' then do
    let s ← s.saveKey
    quotedScalar (c == '\'') { s with keyAllowed := false }
  else if s.plainStarts then do
    let s ← s.saveKey
    plainScalar { s with keyAllowed := false }
  else refuse "found character that cannot start any token"

/-- Finds tokens until the stream ends. -/
def run : Nat → Scanner → Scanning Scanner
  | 0, s => if s.finished then .ok s else refuse "the text did not end"
  | n + 1, s => if s.finished then .ok s else do run n (← s.fetchNext)

end Scanner

/-- The characters of a text as the scanner reads them: without a byte order mark at the
start; `none` when the text holds a character YAML does not allow. -/
def readableChars (source : String) : Option (List Char) :=
  let chars := match source.toList with
    | c :: rest => if c.toNat == 0xFEFF then rest else c :: rest
    | [] => []
  if chars.all isAllowed then some chars else none

/-- The tokens of a YAML text, from the stream start to the stream end. -/
def tokens (source : String) : Scanning (Array Token) :=
  match readableChars source with
  | none => refuse "control characters are not allowed"
  | some chars => do
    let s ← Scanner.run (chars.length + 3) { text := chars.toArray }
    pure s.tokens

end Yaml
end PromptTrainer
