import PromptTrainer.Text.Basic
/-!
# Instants and their RFC 3339 text

A timestamp is an instant in UTC, kept as whole seconds since 1970-01-01T00:00:00Z and the
nanoseconds past them (a leap second is the 59th second with a billion nanoseconds more).

`Timestamp.ofText` reads the relaxed RFC 3339 form `YYYY-MM-DDTHH:MM:SS[.frac](Z|±HH:MM)`:
blanks may stand before each number, before `-` and `:` and before the offset; the date and
time may be parted by `T`, `t` or a blank; the offset may be `Z`, `z`, `UTC` in any case, or
signed hours and minutes with an optional colon.  Blanks are white space in the Unicode
sense.  A year without sign has at most four digits; a signed year may have any number of
digits but must fit in 32 bits.  Dates run from -262143-01-01 to 262142-12-31, both in the
text and once the offset is applied.  Refusals name their cause: a character out of place, an
early end, text left over, a field out of range, or a valid local time whose offset moves the
instant out of range.

`Timestamp.text` writes the instant in UTC with `Z`, and the fraction in groups of three
digits only when it is not zero.
-/

namespace PromptTrainer

/-- An instant in UTC. -/
structure Timestamp where
  /-- Whole seconds since 1970-01-01T00:00:00Z. -/
  seconds : Int
  /-- Nanoseconds past the second, below two billion (a leap second adds one billion). -/
  nanos : Nat
deriving BEq, DecidableEq, Repr

/-- Why a text is not a timestamp. -/
inductive TimestampError where
  /-- A field is out of its range, or the date does not exist. -/
  | outOfRange
  /-- A character stands where it cannot. -/
  | invalid
  /-- The text ends early. -/
  | tooShort
  /-- Text follows the timestamp. -/
  | tooLong
  /-- The local date and time are valid, but the offset moves the instant out of range. -/
  | impossible
deriving BEq, DecidableEq, Repr

/-- The wording of a timestamp refusal. -/
def TimestampError.message : TimestampError → String
  | .outOfRange => "input is out of range"
  | .invalid => "input contains invalid characters"
  | .tooShort => "premature end of input"
  | .tooLong => "trailing input"
  | .impossible => "no possible date and time matching input"

namespace Timestamp

/-- The instant 1970-01-01T00:00:00Z. -/
def epoch : Timestamp := ⟨0, 0⟩

/-- Whether a year of the proleptic Gregorian calendar has 366 days. -/
def isLeapYear (year : Int) : Bool :=
  (year % 4 == 0 && year % 100 != 0) || year % 400 == 0

/-- The number of days of a month (1 to 12) in a year. -/
def monthLength (year : Int) (month : Nat) : Nat :=
  match month with
  | 2 => if isLeapYear year then 29 else 28
  | 4 | 6 | 9 | 11 => 30
  | _ => 31

/-- Days from 1970-01-01 to a date of the proleptic Gregorian calendar, counted in eras of
400 years (146097 days) from March 1 of year 0. -/
def daysFromCivil (year : Int) (month day : Nat) : Int :=
  let y := if month ≤ 2 then year - 1 else year
  let era := y / 400
  let yearOfEra := y - era * 400
  let shifted : Int := if month > 2 then month - 3 else month + 9
  let dayOfYear := (153 * shifted + 2) / 5 + day - 1
  let dayOfEra := yearOfEra * 365 + yearOfEra / 4 - yearOfEra / 100 + dayOfYear
  era * 146097 + dayOfEra - 719468

/-- The date of a day counted from 1970-01-01: year, month and day of month. -/
def civilFromDays (days : Int) : Int × Nat × Nat :=
  let z := days + 719468
  let era := z / 146097
  let dayOfEra := z - era * 146097
  let yearOfEra := (dayOfEra - dayOfEra / 1460 + dayOfEra / 36524 - dayOfEra / 146096) / 365
  let dayOfYear := dayOfEra - (365 * yearOfEra + yearOfEra / 4 - yearOfEra / 100)
  let mp := (5 * dayOfYear + 2) / 153
  let day := dayOfYear - (153 * mp + 2) / 5 + 1
  let month := if mp < 10 then mp + 3 else mp - 9
  let year := yearOfEra + era * 400 + (if month ≤ 2 then 1 else 0)
  (year, month.toNat, day.toNat)

/-- The decimal digits of a number, padded with zeros to a width. -/
def padded (width : Nat) (n : Nat) : String :=
  let digits := toString n
  String.ofList (List.replicate (width - digits.length) '0') ++ digits

/-- The RFC 3339 text of the instant in UTC. -/
def text (t : Timestamp) : String :=
  let leap := t.nanos ≥ 1000000000
  let nanos := if leap then t.nanos - 1000000000 else t.nanos
  let days := t.seconds / 86400
  let secondOfDay := (t.seconds % 86400).toNat
  let (year, month, day) := civilFromDays days
  let yearText :=
    if 0 ≤ year ∧ year ≤ 9999 then padded 4 year.toNat
    else (if year < 0 then "-" else "+") ++ padded 4 year.natAbs
  let second := secondOfDay % 60 + (if leap then 1 else 0)
  let fraction :=
    if nanos = 0 then ""
    else if nanos % 1000000 = 0 then "." ++ padded 3 (nanos / 1000000)
    else if nanos % 1000 = 0 then "." ++ padded 6 (nanos / 1000)
    else "." ++ padded 9 nanos
  yearText ++ "-" ++ padded 2 month ++ "-" ++ padded 2 day ++ "T" ++
    padded 2 (secondOfDay / 3600) ++ ":" ++ padded 2 (secondOfDay / 60 % 60) ++ ":" ++
    padded 2 second ++ fraction ++ "Z"

/-- The text without leading blanks. -/
def skipBlanks (cs : List Char) : List Char := cs.dropWhile Text.isSpace

/-- The value of decimal digits. -/
def digitsValue (ds : List Char) : Nat :=
  ds.foldl (fun n d => 10 * n + (d.toNat - '0'.toNat)) 0

/-- Reads between `least` and `most` decimal digits. -/
def number (least most : Nat) (cs : List Char) : Except TimestampError (Nat × List Char) :=
  if cs.length < least then .error .tooShort
  else
    let ds := (cs.take most).takeWhile Char.isDigit
    if ds.length < least then .error .invalid
    else .ok (digitsValue ds, cs.drop ds.length)

/-- Reads a literal character after blanks. -/
def literal (c : Char) (cs : List Char) : Except TimestampError (List Char) :=
  match skipBlanks cs with
  | [] => .error .tooShort
  | d :: rest => if d = c then .ok rest else .error .invalid

/-- Reads a number after blanks and checks it is at most `top` and at least `bottom`. -/
def field (bottom top : Nat) (cs : List Char) : Except TimestampError (Nat × List Char) := do
  let (v, rest) ← number 1 2 (skipBlanks cs)
  if v < bottom ∨ v > top then .error .outOfRange else .ok (v, rest)

/-- The largest signed 64-bit number. -/
def int64Max : Nat := 9223372036854775807

/-- The least year of a date. -/
def minYear : Int := -262143

/-- The greatest year of a date. -/
def maxYear : Int := 262142

/-- Reads at least one digit and as many more as follow; a value past the signed 64-bit
range is out of range. -/
def longNumber (cs : List Char) : Except TimestampError (Nat × List Char) := do
  let (v, rest) ← number 1 cs.length cs
  if v > int64Max then .error .outOfRange else .ok (v, rest)

/-- Checks that a year fits in a signed 32-bit number. -/
def yearInRange (y : Int) : Except TimestampError Int :=
  if y < -2147483648 ∨ y > 2147483647 then .error .outOfRange else .ok y

/-- Reads a year after blanks: with a sign, any number of digits; without, up to four. -/
def year (cs : List Char) : Except TimestampError (Int × List Char) :=
  match skipBlanks cs with
  | '-' :: rest => do
    let (v, rest) ← longNumber rest
    .ok (← yearInRange (-(v : Int)), rest)
  | '+' :: rest => do
    let (v, rest) ← longNumber rest
    .ok (← yearInRange (v : Int), rest)
  | other => do
    let (v, rest) ← number 1 4 other
    .ok ((v : Int), rest)

/-- Reads an optional fraction of a second as nanoseconds: a point, then at least one digit;
digits past the ninth are skipped. -/
def fraction (cs : List Char) : Except TimestampError (Nat × List Char) :=
  match cs with
  | '.' :: rest => do
    let (v, after) ← number 1 9 rest
    let used := rest.length - after.length
    .ok (v * Nat.pow 10 (9 - used), after.dropWhile Char.isDigit)
  | _ => .ok (0, cs)

/-- Whether the text is shorter than two bytes in UTF-8. -/
def shorterThanTwoBytes : List Char → Bool
  | [] => true
  | [c] => c.toNat < 128
  | _ => false

/-- Two decimal digits, if the text starts with them. -/
def twoDigits : List Char → Option (Nat × Nat × List Char)
  | a :: b :: rest =>
    if a.isDigit ∧ b.isDigit then some (a.toNat - '0'.toNat, b.toNat - '0'.toNat, rest)
    else none
  | _ => none

/-- Reads the offset from UTC in seconds: `Z`, `z`, `UTC` in any case, or a sign (`+`, `-`
or the minus sign) with two digits of hours, an optional colon or blanks, and two digits
of minutes below 60. -/
def offset (cs : List Char) : Except TimestampError (Int × List Char) :=
  match cs with
  | 'Z' :: rest | 'z' :: rest => .ok (0, rest)
  | a :: b :: c :: rest =>
    if a.toUpper = 'U' ∧ b.toUpper = 'T' ∧ c.toUpper = 'C' then .ok (0, rest)
    else signed cs
  | _ => signed cs
where
  /-- The signed form of an offset. -/
  signed (cs : List Char) : Except TimestampError (Int × List Char) := do
    let (negative, rest) ← match cs with
      | '+' :: rest => .ok (false, rest)
      | '-' :: rest => .ok (true, rest)
      | '−' :: rest => .ok (true, rest)
      | [] => .error .tooShort
      | _ => .error .invalid
    if shorterThanTwoBytes rest then .error .tooShort
    let (h1, h2, rest) ← match twoDigits rest with
      | some r => .ok r
      | none => .error .invalid
    let rest := rest.dropWhile (fun c => c = ':' ∨ Text.isSpace c)
    if shorterThanTwoBytes rest then .error .tooShort
    let (m1, m2, rest) ← match twoDigits rest with
      | some r => .ok r
      | none => .error .invalid
    if m1 ≥ 6 then .error .outOfRange
    let total : Int := (10 * h1 + h2) * 3600 + (10 * m1 + m2) * 60
    .ok (if negative then -total else total, rest)

/-- Reads a timestamp in the relaxed RFC 3339 form and converts it to UTC. -/
def ofText (s : String) : Except TimestampError Timestamp := do
  let cs := s.toList
  let (y, cs) ← year cs
  let cs ← literal '-' cs
  let (month, cs) ← field 1 12 cs
  let cs ← literal '-' cs
  let (day, cs) ← field 1 31 cs
  let cs ← match cs with
    | 'T' :: rest | 't' :: rest | ' ' :: rest => .ok rest
    | [] => .error .tooShort
    | _ => .error .invalid
  let (hour, cs) ← field 0 23 cs
  let cs ← literal ':' cs
  let (minute, cs) ← field 0 59 cs
  let cs ← literal ':' cs
  let (second, cs) ← field 0 60 cs
  let (nanos, cs) ← fraction cs
  let (shift, cs) ← offset (skipBlanks cs)
  if !(skipBlanks cs).isEmpty then .error .tooLong
  if y < minYear ∨ y > maxYear ∨ day > monthLength y month then .error .outOfRange
  if shift ≤ -86400 ∨ shift ≥ 86400 then .error .outOfRange
  let leap := second = 60
  let secondOfDay : Int := hour * 3600 + minute * 60 + (if leap then 59 else second)
  let seconds := daysFromCivil y month day * 86400 + secondOfDay - shift
  if seconds < daysFromCivil minYear 1 1 * 86400 ∨
      seconds ≥ (daysFromCivil maxYear 12 31 + 1) * 86400 then .error .impossible
  .ok ⟨seconds, if leap then nanos + 1000000000 else nanos⟩

end Timestamp

end PromptTrainer
