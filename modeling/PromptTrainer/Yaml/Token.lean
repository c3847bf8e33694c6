/-!
# YAML tokens

A YAML character stream is first cut into tokens: the stream's start and end, directives,
document markers, the starts and ends of block and flow collections, entry, key and value
indicators, anchors, aliases, tags and scalars.  A block collection has no bracket in the
text; its start and end tokens are made up from the indentation.

This module holds the tokens, the positions the scanner keeps, and the classes of
characters YAML distinguishes: blanks (space and tab), line breaks (line feed, carriage
return, next line, line separator and paragraph separator) and the characters of anchor
names and tag handles.  The end of the text is seen as the character `'\x00'`, which
cannot occur inside an accepted text.
-/

namespace PromptTrainer
namespace Yaml

/-- Why a YAML text could not be read. -/
structure YamlError where
  message : String
deriving Inhabited

/-- A position in the text: the offset in bytes, the line and the column (in
characters). -/
structure Mark where
  index : Nat
  line : Nat
  column : Nat
deriving Inhabited

/-- How a scalar is written. -/
inductive ScalarStyle where
  | plain
  | singleQuoted
  | doubleQuoted
  | literal
  | folded
deriving BEq, DecidableEq, Inhabited

/-- A tag as bytes: percent escapes in a tag stand for bytes, which need not form a
character. -/
abbrev TagBytes := List UInt8

/-- The bytes of a text. -/
def TagBytes.ofString (s : String) : TagBytes := s.toUTF8.toList

/-- A token of a YAML stream. -/
inductive Token where
  | streamStart
  | streamEnd
  /-- `%YAML major.minor`. -/
  | versionDirective (major minor : Nat)
  /-- `%TAG handle prefix`. -/
  | tagDirective (handle : String) (pfx : TagBytes)
  | documentStart
  | documentEnd
  | blockSequenceStart
  | blockMappingStart
  | blockEnd
  | flowSequenceStart
  | flowSequenceEnd
  | flowMappingStart
  | flowMappingEnd
  | blockEntry
  | flowEntry
  | key
  | value
  | alias (name : String)
  | anchor (name : String)
  /-- A tag: its handle (empty for a verbatim tag) and its suffix. -/
  | tag (handle : String) (suffix : TagBytes)
  | scalar (value : String) (style : ScalarStyle)
deriving Inhabited

/-- Whether a token is a scalar. -/
def Token.isScalar : Token → Bool
  | .scalar _ _ => true
  | _ => false

/-- Whether a character is a space or a tab. -/
def isBlank (c : Char) : Bool := c == ' ' || c == '\t'

/-- Whether a character breaks a line: line feed, carriage return, next line, line
separator or paragraph separator. -/
def isBreak (c : Char) : Bool :=
  c == '\n' || c == '\r' || c.toNat == 0x85 || c.toNat == 0x2028 || c.toNat == 0x2029

/-- Whether a character stands for the end of the text. -/
def isEnd (c : Char) : Bool := c.toNat == 0

/-- Whether a character breaks a line or ends the text. -/
def isBreakOrEnd (c : Char) : Bool := isBreak c || isEnd c

/-- Whether a character is a blank, breaks a line or ends the text. -/
def isBlankOrEnd (c : Char) : Bool := isBlank c || isBreakOrEnd c

/-- Whether a character may stand in an anchor name or a tag handle: an ASCII letter or
digit, `_` or `-`. -/
def isWordChar (c : Char) : Bool :=
  ('0' ≤ c && c ≤ '9') || ('A' ≤ c && c ≤ 'Z') || ('a' ≤ c && c ≤ 'z') || c == '_' || c == '-'

/-- Whether a character is an ASCII decimal digit. -/
def isDecimal (c : Char) : Bool := '0' ≤ c && c ≤ '9'

/-- The value of a hexadecimal digit, if the character is one. -/
def hexValue (c : Char) : Option Nat :=
  if '0' ≤ c && c ≤ '9' then some (c.toNat - '0'.toNat)
  else if 'a' ≤ c && c ≤ 'f' then some (c.toNat - 'a'.toNat + 10)
  else if 'A' ≤ c && c ≤ 'F' then some (c.toNat - 'A'.toNat + 10)
  else none

/-- Whether a character may occur in a YAML text: tab, line feed, carriage return, the
printable ASCII characters, next line, and the rest of Unicode except the C1 controls,
surrogates and the two non-characters U+FFFE and U+FFFF. -/
def isAllowed (c : Char) : Bool :=
  let n := c.toNat
  n == 0x09 || n == 0x0A || n == 0x0D || (0x20 ≤ n && n ≤ 0x7E) || n == 0x85 ||
    (0xA0 ≤ n && n ≤ 0xD7FF) || (0xE000 ≤ n && n ≤ 0xFFFD) || (0x10000 ≤ n && n ≤ 0x10FFFF)

/-- The number of bytes of a character in UTF-8. -/
def utf8Width (c : Char) : Nat :=
  let n := c.toNat
  if n < 0x80 then 1 else if n < 0x800 then 2 else if n < 0x10000 then 3 else 4

end Yaml
end PromptTrainer
