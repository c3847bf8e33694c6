import PromptTrainer.Json.Basic
import PromptTrainer.Decimal.Text
/-!
# Writing JSON

Two layouts of a value: the compact one, with no blank anywhere, and the indented one, with
each member and item on a line of its own, two blanks per level, and `": "` after a key.
Empty arrays and objects are `[]` and `{}` in both.  Members are written in their order.

Strings escape the quote, the backslash and the control characters below U+0020 (`\b`,
`\f`, `\n`, `\r`, `\t` by name, the others as `\u00xx` in lower-case hex); everything else,
non-ASCII characters included, is written as it is.  Integers are written in full; doubles
in the data layout of `Decimal.dataText`.
-/

namespace PromptTrainer
namespace Json

/-- A lower-case hex digit. -/
def hexDigit (n : Nat) : Char :=
  if n < 10 then Char.ofNat (48 + n) else Char.ofNat (87 + n)

/-- The escaped form of one character inside a string. -/
def escapeChar (c : Char) : String :=
  if c = '"' then "\\\""
  else if c = '\\' then "\\\\"
  else if c = '\n' then "\\n"
  else if c = '\r' then "\\r"
  else if c = '\t' then "\\t"
  else if c.toNat = 8 then "\\b"
  else if c.toNat = 12 then "\\f"
  else if c.toNat < 32 then
    "\\u00" ++ String.singleton (hexDigit (c.toNat / 16)) ++
      String.singleton (hexDigit (c.toNat % 16))
  else String.singleton c

/-- A string as a quoted JSON string. -/
def quote (s : String) : String :=
  "\"" ++ String.join (s.toList.map escapeChar) ++ "\""

/-- The text of a number. -/
def numberText : JsonNumber → String
  | .int i => toString i
  | .float f => Decimal.dataText f

mutual
/-- The compact text of a value. -/
def compact : Json → String
  | .null => "null"
  | .bool b => if b then "true" else "false"
  | .number n => numberText n
  | .string s => quote s
  | .array items => "[" ++ compactItems items ++ "]"
  | .object members => "\x7b" ++ compactMembers members ++ "\x7d"

/-- The compact text of array items, separated by commas. -/
def compactItems : List Json → String
  | [] => ""
  | [item] => compact item
  | item :: rest => compact item ++ "," ++ compactItems rest

/-- The compact text of object members, separated by commas. -/
def compactMembers : List (String × Json) → String
  | [] => ""
  | [(key, value)] => quote key ++ ":" ++ compact value
  | (key, value) :: rest => quote key ++ ":" ++ compact value ++ "," ++ compactMembers rest
end

/-- The blanks that indent a line at a nesting level. -/
def indentation (level : Nat) : String := String.ofList (List.replicate (2 * level) ' ')

mutual
/-- The indented text of a value whose first line is already indented to `level`. -/
def pretty (level : Nat) : Json → String
  | .array [] => "[]"
  | .object [] => "\x7b\x7d"
  | .array items => "[\n" ++ prettyItems (level + 1) items ++ "\n" ++ indentation level ++ "]"
  | .object members =>
    "\x7b\n" ++ prettyMembers (level + 1) members ++ "\n" ++ indentation level ++ "\x7d"
  | .null => "null"
  | .bool b => if b then "true" else "false"
  | .number n => numberText n
  | .string s => quote s

/-- Indented array items, one per line. -/
def prettyItems (level : Nat) : List Json → String
  | [] => ""
  | [item] => indentation level ++ pretty level item
  | item :: rest => indentation level ++ pretty level item ++ ",\n" ++ prettyItems level rest

/-- Indented object members, one per line. -/
def prettyMembers (level : Nat) : List (String × Json) → String
  | [] => ""
  | [(key, value)] => indentation level ++ quote key ++ ": " ++ pretty level value
  | (key, value) :: rest =>
    indentation level ++ quote key ++ ": " ++ pretty level value ++ ",\n" ++
      prettyMembers level rest
end

/-- The indented text of a value. -/
def render (value : Json) : String := pretty 0 value

end Json
end PromptTrainer
