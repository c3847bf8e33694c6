import PromptTrainer.Decimal.Nearest
/-!
# What YAML scalar texts stand for

A plain scalar's text is given a type by its spelling:

* `~`, `null`, `Null` and `NULL` are null (and so is the empty text, which readers check
  themselves);
* `true`, `True`, `TRUE`, `false`, `False` and `FALSE` are booleans;
* an integer is decimal digits, or `0x`, `0o` or `0b` followed by digits of that radix, with
  an optional `+` (or `-` for a negative integer) in front.  A leading zero followed by
  more digits makes a text that is not a number.  An integer is only taken when it fits the
  width asked for;
* a float is a decimal number with an optional sign, fraction and exponent (at least one
  digit in all, none of `_`), or `.inf`, `-.inf` and `.nan` in three spellings each.  A
  decimal number whose nearest double is infinite is not a float.

This module reads each of these forms on its own; which are tried, and in what order, is
up to the reader of a value.
-/

namespace PromptTrainer
namespace Yaml

/-- Whether a text spells null. -/
def isNullText (s : String) : Bool := s == "~" || s == "null" || s == "Null" || s == "NULL"

/-- The boolean a text spells, if any. -/
def boolText? (s : String) : Option Bool :=
  if s == "true" || s == "True" || s == "TRUE" then some true
  else if s == "false" || s == "False" || s == "FALSE" then some false
  else none

/-- Whether characters start with a sign. -/
def startsWithSign (cs : List Char) : Bool := cs.head? == some '+' || cs.head? == some '-'

/-- The value of a digit in a radix up to 16. -/
def digitIn (radix : Nat) (c : Char) : Option Nat :=
  let v :=
    if '0' ≤ c && c ≤ '9' then c.toNat - '0'.toNat
    else if 'a' ≤ c && c ≤ 'f' then c.toNat - 'a'.toNat + 10
    else if 'A' ≤ c && c ≤ 'F' then c.toNat - 'A'.toNat + 10
    else radix
  if v < radix then some v else none

/-- The value of a non-empty run of digits in a radix. -/
def digitsIn (radix : Nat) (cs : List Char) : Option Nat :=
  if cs.isEmpty then none
  else cs.foldl (fun acc c => do pure ((← acc) * radix + (← digitIn radix c))) (some 0)

/-- Whether a text is a leading zero followed by digits only, after an optional sign: such a
text is a string, not a number. -/
def digitsButNotNumber (s : String) : Bool :=
  let cs := match s.toList with
    | '-' :: rest | '+' :: rest => rest
    | cs => cs
  match cs with
  | '0' :: rest@(_ :: _) => rest.all isDigitChar
  | _ => false
where
  /-- An ASCII digit. -/
  isDigitChar (c : Char) : Bool := '0' ≤ c && c ≤ '9'

/-- The radix and digits of a text written `0x`, `0o` or `0b` and digits. -/
def radixForm : List Char → Option (Nat × List Char)
  | '0' :: 'x' :: rest => some (16, rest)
  | '0' :: 'o' :: rest => some (8, rest)
  | '0' :: 'b' :: rest => some (2, rest)
  | _ => none

/-- The non-negative integer below `bound` a text spells: decimal, or with a radix prefix,
after an optional `+`. -/
def unsignedText? (bound : Nat) (s : String) : Option Nat :=
  let below (v : Nat) : Option Nat := if v < bound then some v else none
  let decimal (u : List Char) : Option Nat :=
    if startsWithSign u || digitsButNotNumber s then none
    else (digitsIn 10 u).bind below
  let unsigned (u : List Char) : Option Nat :=
    match radixForm u with
    | some (radix, rest) =>
      if startsWithSign rest then none
      else match (digitsIn radix rest).bind below with
        | some v => some v
        | none => decimal u
    | none => decimal u
  match s.toList with
  | '+' :: rest => if startsWithSign rest then none else unsigned rest
  | cs => unsigned cs

/-- The integer a text spells as a signed number of a width (`half` is the size of the
negative range): a negative number with a radix prefix after `-`, or a decimal number with
an optional sign. -/
def signedText? (half : Nat) (s : String) : Option Int :=
  let negative (radix : Nat) (rest : List Char) : Option Int :=
    (digitsIn radix rest).bind (fun v => if v ≤ half then some (-(v : Int)) else none)
  let prefixed : Option Int := match s.toList with
    | '-' :: rest =>
      match radixForm rest with
      | some (radix, digits) => negative radix digits
      | none => none
    | _ => none
  match prefixed with
  | some v => some v
  | none =>
    if digitsButNotNumber s then none
    else match s.toList with
      | '-' :: ds => negative 10 ds
      | '+' :: ds => (digitsIn 10 ds).bind (fun v => if v < half then some (v : Int) else none)
      | ds => (digitsIn 10 ds).bind (fun v => if v < half then some (v : Int) else none)

/-- The double a decimal number text stands for: digits with an optional point (at least
one digit in all), then an optional exponent, after an optional sign.  Infinities and
not-a-number are not read here. -/
def decimalText? (cs : List Char) : Option Float :=
  let (negative, cs) := match cs with
    | '-' :: rest => (true, rest)
    | '+' :: rest => (false, rest)
    | _ => (false, cs)
  let whole := cs.takeWhile (fun c => '0' ≤ c && c ≤ '9')
  let rest := cs.drop whole.length
  let (fraction, rest) := match rest with
    | '.' :: more =>
      let f := more.takeWhile (fun c => '0' ≤ c && c ≤ '9')
      (f, more.drop f.length)
    | _ => ([], rest)
  if whole.isEmpty && fraction.isEmpty then none
  else
    let exponent : Option Int := match rest with
      | [] => some 0
      | 'e' :: more | 'E' :: more =>
        match more with
        | '-' :: ds => (digitsIn 10 ds).map (fun n => -(n : Int))
        | '+' :: ds => (digitsIn 10 ds).map (fun n => (n : Int))
        | ds => (digitsIn 10 ds).map (fun n => (n : Int))
      | _ => none
    exponent.map (fun e =>
      let magnitude := Decimal.nearest ((digitsIn 10 (whole ++ fraction)).getD 0)
        (e - fraction.length)
      if negative then -magnitude else magnitude)

/-- The double a text stands for: `.inf`, `-.inf` and `.nan` in three spellings, or a
decimal number whose nearest double is finite, after an optional `+`. -/
def floatText? (s : String) : Option Float :=
  let unpositive : Option (List Char) := match s.toList with
    | '+' :: rest => if startsWithSign rest then none else some rest
    | cs => some cs
  match unpositive with
  | none => none
  | some u =>
    let us := String.ofList u
    if us == ".inf" || us == ".Inf" || us == ".INF" then some (1.0 / 0.0)
    else if s == "-.inf" || s == "-.Inf" || s == "-.INF" then some (-(1.0 / 0.0))
    else if s == ".nan" || s == ".NaN" || s == ".NAN" then some (0.0 / 0.0)
    else match decimalText? u with
      | some f => if f.isFinite then some f else none
      | none => none

end Yaml
end PromptTrainer
