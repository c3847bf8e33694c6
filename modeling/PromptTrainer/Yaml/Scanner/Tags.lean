import PromptTrainer.Yaml.Scanner.State
/-!
# YAML scanner: directives, anchors and tags

* A directive line starts with `%` at the start of a line: `%YAML major.minor` or
  `%TAG handle prefix`; any other directive name is refused.  A comment may end the line.
* An anchor `&name` or an alias `*name` has a name of ASCII letters, digits, `_` and `-`,
  followed by a blank, a line break, the end or one of `?:,]}%@` and the backquote.
* A tag is `!<uri>` (verbatim), `!handle!suffix`, `!suffix` or `!` alone.  A handle is `!`,
  `!!` or `!word!`.  The characters of a tag are those of a URI; `%` followed by two
  hexadecimal digits stands for a byte, and the bytes of one character must form a
  well-shaped UTF-8 sequence.  A tag ends at a blank, a line break, the end, or a comma in a
  flow collection.
-/

namespace PromptTrainer
namespace Yaml
namespace Scanner

/-- Whether a character may stand in a tag: a word character or one of `;/?:@&=+$.%!~*'()`;
inside a verbatim tag or a tag prefix also `,`, `[` and `]`. -/
def isTagChar (wide : Bool) (c : Char) : Bool :=
  isWordChar c || c == ';' || c == '/' || c == '?' || c == ':' || c == '@' || c == '&' ||
    c == '=' || c == '+' || c == '$' || c == '.' || c == '%' || c == '!' || c == '~' ||
    c == '*' || c == '\'' || c == '(' || c == ')' ||
    (wide && (c == ',' || c == '[' || c == ']'))

/-- The number of bytes of a UTF-8 sequence announced by its first byte, if it is a first
byte. -/
def sequenceWidth (octet : Nat) : Option Nat :=
  if octet % 128 == octet then some 1
  else if octet / 32 == 6 then some 2
  else if octet / 16 == 14 then some 3
  else if octet / 8 == 30 then some 4
  else none

/-- Reads the percent escapes of one character in a tag: `remaining` bytes still expected
(0 before the first byte). -/
def uriEscapes : Nat → Scanner → Nat → TagBytes → Scanning (Scanner × TagBytes)
  | 0, _, _, _ => refuse "did not find URI escaped octet"
  | n + 1, s, remaining, acc =>
    match s.peek == '%', hexValue (s.peek 1), hexValue (s.peek 2) with
    | true, some hi, some lo =>
      let octet := 16 * hi + lo
      let next : Scanning Nat :=
        if remaining == 0 then
          match sequenceWidth octet with
          | some w => .ok (w - 1)
          | none => refuse "found an incorrect leading UTF-8 octet"
        else if octet / 64 == 2 then .ok (remaining - 1)
        else refuse "found an incorrect trailing UTF-8 octet"
      match next with
      | .error e => .error e
      | .ok left =>
        let s := s.skip.skip.skip
        let acc := acc ++ [octet.toUInt8]
        if left == 0 then .ok (s, acc) else uriEscapes n s left acc
    | _, _, _ => refuse "did not find URI escaped octet"

/-- Reads the characters of a tag after a head (the handle it continues, whose first `!` is
left out), as bytes; at least one character, the head counted, is required. -/
def tagUri (wide : Bool) (head : String) (s : Scanner) : Scanning (Scanner × TagBytes) :=
  go (s.text.size + 1) s head.length (TagBytes.ofString (String.ofList (head.toList.drop 1)))
where
  /-- The loop, bounded by the length of the text. -/
  go : Nat → Scanner → Nat → TagBytes → Scanning (Scanner × TagBytes)
    | 0, s, length, acc =>
      if length == 0 then refuse "did not find expected tag URI" else .ok (s, acc)
    | n + 1, s, length, acc =>
      if isTagChar wide s.peek then
        if s.peek == '%' then do
          let (s, octets) ← uriEscapes 5 s 0 []
          go n s (length + 1) (acc ++ octets)
        else go n s.skip (length + 1) (acc ++ TagBytes.ofString s.peek.toString)
      else if length == 0 then refuse "did not find expected tag URI"
      else .ok (s, acc)

/-- Reads a tag handle: `!`, then word characters, then `!` if one follows.  In a `%TAG`
directive the handle must end with `!` unless it is `!` alone. -/
def tagHandle (directive : Bool) (s : Scanner) : Scanning (Scanner × String) :=
  if s.peek != '!' then refuse "did not find expected '!'"
  else
    let (s, word) := s.skip.readWhile isWordChar
    if s.peek == '!' then .ok (s.skip, "!" ++ word ++ "!")
    else if directive && !word.isEmpty then refuse "did not find expected '!'"
    else .ok (s, "!" ++ word)

/-- Reads a version number of at most nine digits. -/
def versionNumber (s : Scanner) : Scanning (Scanner × Nat) :=
  let (s, digits) := s.readWhile isDecimal
  if digits.length > 9 then refuse "found extremely long version number"
  else if digits.isEmpty then refuse "did not find expected version number"
  else .ok (s, digits.foldl (fun acc c => 10 * acc + (c.toNat - '0'.toNat)) 0)

/-- Reads the value of a `%YAML` directive. -/
def versionValue (s : Scanner) : Scanning (Scanner × Token) := do
  let (s, major) ← s.skipBlanks.versionNumber
  if s.peek != '.' then refuse "did not find expected digit or '.' character"
  else
    let (s, minor) ← s.skip.versionNumber
    pure (s, .versionDirective major minor)

/-- Reads the value of a `%TAG` directive: a handle, blanks and a prefix. -/
def tagDirectiveValue (s : Scanner) : Scanning (Scanner × Token) := do
  let (s, handle) ← s.skipBlanks.tagHandle true
  if !isBlank s.peek then refuse "did not find expected whitespace"
  else
    let (s, pfx) ← s.skipBlanks.tagUri true ""
    if !isBlankOrEnd s.peek then refuse "did not find expected whitespace or line break"
    else pure (s, .tagDirective handle pfx)

/-- Reads a directive line, the scanner at its `%`. -/
def directive (s : Scanner) : Scanning Scanner := do
  let (s, name) := s.skip.readWhile isWordChar
  if name.isEmpty then refuse "could not find expected directive name"
  else if !isBlankOrEnd s.peek then refuse "found unexpected non-alphabetical character"
  else
    let (s, token) ←
      if name == "YAML" then s.versionValue
      else if name == "TAG" then s.tagDirectiveValue
      else refuse "found unknown directive name"
    let s := s.skipBlanks.skipComment
    if !isBreakOrEnd s.peek then refuse "did not find expected comment or line break"
    else pure (s.skipLine.push token)

/-- Reads an anchor (`&`) or an alias (`*`), the scanner at its indicator. -/
def anchorOrAlias (isAlias : Bool) (s : Scanner) : Scanning Scanner :=
  let (s, name) := s.skip.readWhile isWordChar
  let c := s.peek
  if name.isEmpty || !(isBlankOrEnd c || c == '?' || c == ':' || c == ',' || c == ']' ||
      c == '}' || c == '%' || c == '@' || c == '`') then
    refuse "did not find expected alphabetic or numeric character"
  else .ok (s.push (if isAlias then .alias name else .anchor name))

/-- Reads a tag, the scanner at its `!`. -/
def tag (s : Scanner) : Scanning Scanner := do
  let (s, handle, suffix) ←
    if s.peek 1 == '<' then do
      let (s, suffix) ← s.skip.skip.tagUri true ""
      if s.peek != '>' then refuse "did not find the expected '>'"
      else pure (s.skip, "", suffix)
    else do
      let (s, handle) ← s.tagHandle false
      if handle.length > 1 && handle.endsWith "!" then
        let (s, suffix) ← s.tagUri false ""
        pure (s, handle, suffix)
      else
        let (s, suffix) ← s.tagUri false handle
        if suffix.isEmpty then pure (s, "", TagBytes.ofString "!")
        else pure (s, "!", suffix)
  if !isBlankOrEnd s.peek && !(s.flowLevel > 0 && s.peek == ',') then
    refuse "did not find expected whitespace or line break"
  else pure (s.push (.tag handle suffix))

end Scanner
end Yaml
end PromptTrainer
