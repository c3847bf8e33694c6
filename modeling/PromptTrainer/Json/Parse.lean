import PromptTrainer.Json.Basic
import PromptTrainer.Decimal.Nearest
/-!
# Reading JSON

Reads JSON text into a `Json` value, byte by byte over the UTF-8 encoding.

Numbers: an integer literal is an integer when it fits the unsigned 64-bit range or, when
negative, the signed 64-bit range; `-0`, a literal with a fraction or an exponent, and an
integer out of range are doubles.  A double is read from a significand of at most 64 bits
scaled by one power of ten (see `readNumber`), which is not always the nearest double to
the literal.  A double literal too large for a double is refused.  A key given twice keeps its first position and takes its last value.

A refused text reports what was expected and where: the line (from 1) and the column, the
number of bytes since the last line break up to the point of failure.  When the failure is
found by looking at a byte without taking it, the point is just past that byte.  Nesting
deeper than 127 levels is refused.
-/

namespace PromptTrainer
namespace Json

/-- Why a text is not a JSON value. -/
inductive ReadErrorCode where
  | eofWhileParsingList
  | eofWhileParsingObject
  | eofWhileParsingString
  | eofWhileParsingValue
  | expectedColon
  | expectedListCommaOrEnd
  | expectedObjectCommaOrEnd
  | expectedSomeIdent
  | expectedSomeValue
  | invalidEscape
  | invalidNumber
  | numberOutOfRange
  | invalidUnicodeCodePoint
  | controlCharacterWhileParsingString
  | keyMustBeAString
  | loneLeadingSurrogateInHexEscape
  | trailingComma
  | trailingCharacters
  | unexpectedEndOfHexEscape
  | recursionLimitExceeded
deriving BEq, Repr

/-- The wording of a reason. -/
def ReadErrorCode.message : ReadErrorCode → String
  | .eofWhileParsingList => "EOF while parsing a list"
  | .eofWhileParsingObject => "EOF while parsing an object"
  | .eofWhileParsingString => "EOF while parsing a string"
  | .eofWhileParsingValue => "EOF while parsing a value"
  | .expectedColon => "expected `:`"
  | .expectedListCommaOrEnd => "expected `,` or `]`"
  | .expectedObjectCommaOrEnd => "expected `,` or `\x7d`"
  | .expectedSomeIdent => "expected ident"
  | .expectedSomeValue => "expected value"
  | .invalidEscape => "invalid escape"
  | .invalidNumber => "invalid number"
  | .numberOutOfRange => "number out of range"
  | .invalidUnicodeCodePoint => "invalid unicode code point"
  | .controlCharacterWhileParsingString =>
    "control character (\\u0000-\\u001F) found while parsing a string"
  | .keyMustBeAString => "key must be a string"
  | .loneLeadingSurrogateInHexEscape => "lone leading surrogate in hex escape"
  | .trailingComma => "trailing comma"
  | .trailingCharacters => "trailing characters"
  | .unexpectedEndOfHexEscape => "unexpected end of hex escape"
  | .recursionLimitExceeded => "recursion limit exceeded"

/-- A refused text: the reason and the line and column where it was found. -/
structure ReadError where
  code : ReadErrorCode
  line : Nat
  column : Nat
deriving BEq, Repr

/-- The wording of a refusal, with its place. -/
def ReadError.message (e : ReadError) : String :=
  e.code.message ++ " at line " ++ toString e.line ++ " column " ++ toString e.column

namespace Reader

/-- The line and column of a byte offset: lines counted from one, the column counting the
bytes since the last line break. -/
def placeOf (bytes : ByteArray) (offset : Nat) : Nat × Nat :=
  (bytes.extract 0 offset).toList.foldl
    (fun (place : Nat × Nat) b => if b == 10 then (place.1 + 1, 0) else (place.1, place.2 + 1))
    (1, 0)

/-- A refusal found at a byte offset. -/
def failAt (bytes : ByteArray) (offset : Nat) (code : ReadErrorCode) : ReadError :=
  let place := placeOf bytes (min offset bytes.size)
  ⟨code, place.1, place.2⟩

/-- A refusal found while looking at the byte at `offset`: its place is just past it. -/
def failPeek (bytes : ByteArray) (offset : Nat) (code : ReadErrorCode) : ReadError :=
  failAt bytes (offset + 1) code

/-- The result of reading a part of the text: the part and the offset after it. -/
abbrev Step (α : Type) := Except ReadError (α × Nat)

/-- Whether a byte is JSON whitespace. -/
def isBlank (b : UInt8) : Bool := b == 32 || b == 10 || b == 13 || b == 9

/-- The offset of the first byte at or after `offset` that is not whitespace. -/
def skipBlanks (bytes : ByteArray) (offset : Nat) : Nat :=
  if h : offset < bytes.size then
    if isBlank bytes[offset] then skipBlanks bytes (offset + 1) else offset
  else offset
termination_by bytes.size - offset

/-- Whether a byte is an ASCII digit. -/
def isDigitByte (b : UInt8) : Bool := 48 ≤ b && b ≤ 57

/-- The byte at an offset, if there is one. -/
def byteAt? (bytes : ByteArray) (offset : Nat) : Option UInt8 :=
  if h : offset < bytes.size then some bytes[offset] else none

/-- A decimal `significand · 10^exponent` as the nearest double, or `none` if that is
infinite. -/
def decimalToFloat (significand : Nat) (exponent : Int) : Option Float :=
  let f := Decimal.nearest significand exponent
  if f.isInf then none else some f

/-- The largest 64-bit unsigned integer. -/
def u64Max : Nat := 18446744073709551615

/-- The least and greatest 32-bit signed integers. -/
def i32Min : Int := -2147483648

/-- The greatest 32-bit signed integer. -/
def i32Max : Int := 2147483647

/-- An integer clamped to the 32-bit signed range. -/
def saturate (x : Int) : Int := max i32Min (min i32Max x)

/-- The digit values from `offset` on, and the offset after them. -/
def digitList (bytes : ByteArray) (offset : Nat) : List Nat × Nat :=
  if h : offset < bytes.size then
    if isDigitByte bytes[offset] then
      let (rest, after) := digitList bytes (offset + 1)
      ((bytes[offset].toNat - 48) :: rest, after)
    else ([], offset)
  else ([], offset)
termination_by bytes.size - offset

/-- Takes digits into a significand while it stays a 64-bit unsigned integer: the
significand and how many digits were taken. -/
def takeDigits (significand : Nat) : List Nat → Nat × Nat
  | [] => (significand, 0)
  | d :: rest =>
    if u64Max < significand * 10 + d then (significand, 0)
    else
      let (s, n) := takeDigits (significand * 10 + d) rest
      (s, n + 1)

/-- The value of exponent digits, or (on the right) how many digits were taken when the
next one would take the value past the 32-bit signed range. -/
def exponentValue (acc taken : Nat) : List Nat → Sum Nat Nat
  | [] => .inl acc
  | d :: rest =>
    if i32Max < ((acc * 10 + d : Nat) : Int) then .inr taken
    else exponentValue (acc * 10 + d) (taken + 1) rest

/-- The powers of ten from `10^0` to `10^308`, each the nearest double. -/
def powersOfTen : Array Float :=
  ((List.range 309).map (fun k => Decimal.natToDouble (Nat.pow 10 k))).toArray

/-- A double scaled by `10^e` the way numbers are read: one multiplication or division by
the double nearest to `10^|e|` when `|e| ≤ 308`; for smaller `e`, divisions by `10^308`
first.  `none` when the result is infinite or a nonzero value needs a power past `10^308`. -/
def scaleByTen (f : Float) (e : Int) : Nat → Option Float
  | 0 => some f
  | fuel + 1 =>
    if e.natAbs ≤ 308 then
      let pow := powersOfTen.getD e.natAbs 1.0
      if 0 ≤ e then
        let g := f * pow
        if g.isInf then none else some g
      else some (f / pow)
    else if f == 0.0 then some f
    else if 0 ≤ e then none
    else scaleByTen (f / powersOfTen.getD 308 1.0) (e + 308) fuel

/-- Reads a number whose sign (if any) has been taken; `offset` is at its first digit.

The digits are taken into a 64-bit significand as long as it fits; digits of the integer
part past that raise the decimal exponent by one each, digits of the fraction past that are
dropped.  A number without fraction and exponent whose integer part fits is an integer
(`-0` and negative values below the signed range are doubles).  Otherwise the double is the
significand converted to the nearest double, then scaled by `scaleByTen`; an exponent past
the 32-bit range gives zero, or is refused as out of range for a nonzero significand and a
positive exponent. -/
def readNumber (bytes : ByteArray) (offset : Nat) (negative : Bool) : Step JsonNumber :=
  match byteAt? bytes offset with
  | none => .error (failAt bytes offset .eofWhileParsingValue)
  | some first =>
    if !isDigitByte first then .error (failAt bytes (offset + 1) .invalidNumber)
    else
      let (wholeDigits, afterWhole) :=
        if first == 48 then ([0], offset + 1) else digitList bytes offset
      if first == 48 && (byteAt? bytes afterWhole).any isDigitByte then
        .error (failPeek bytes afterWhole .invalidNumber)
      else
        let (significand, takenWhole) := takeDigits 0 wholeDigits
        let dropped := wholeDigits.length - takenWhole
        let hasPoint := byteAt? bytes afterWhole == some 46
        let fraction : Except ReadError (List Nat × Nat) :=
          if hasPoint then
            let (digits, after) := digitList bytes (afterWhole + 1)
            if digits.isEmpty then
              match byteAt? bytes after with
              | some _ => .error (failPeek bytes after .invalidNumber)
              | none => .error (failPeek bytes after .eofWhileParsingValue)
            else .ok (digits, after)
          else .ok ([], afterWhole)
        match fraction with
        | .error e => .error e
        | .ok (fractionDigits, afterFraction) =>
          let (significand, takenFraction) := takeDigits significand fractionDigits
          let startExponent : Int := (dropped : Int) - takenFraction
          let hasExponent :=
            byteAt? bytes afterFraction == some 101 || byteAt? bytes afterFraction == some 69
          let finish (exponent : Int) (after : Nat) : Step JsonNumber :=
            match scaleByTen (UInt64.ofNat significand).toFloat exponent 16 with
            | none => .error (failAt bytes after .numberOutOfRange)
            | some f => .ok (.float (if negative then -f else f), after)
          if !hasPoint && !hasExponent && dropped == 0 then
            if negative then
              if significand == 0 || significand > 9223372036854775808 then
                .ok (.float (-(UInt64.ofNat significand).toFloat), afterWhole)
              else .ok (.int (-(significand : Int)), afterWhole)
            else .ok (.int significand, afterWhole)
          else if hasExponent then
            let signOffset := afterFraction + 1
            let (exponentNegative, digitsOffset) :=
              match byteAt? bytes signOffset with
              | some 43 => (false, signOffset + 1)
              | some 45 => (true, signOffset + 1)
              | _ => (false, signOffset)
            match byteAt? bytes digitsOffset with
            | none => .error (failAt bytes digitsOffset .eofWhileParsingValue)
            | some b =>
              if !isDigitByte b then .error (failAt bytes (digitsOffset + 1) .invalidNumber)
              else
                let (digits, after) := digitList bytes digitsOffset
                match exponentValue 0 0 digits with
                | .inr taken =>
                  if significand != 0 && !exponentNegative then
                    .error (failAt bytes (digitsOffset + taken + 1) .numberOutOfRange)
                  else .ok (.float (if negative then -0.0 else 0.0), after)
                | .inl value =>
                  finish (saturate (if exponentNegative then startExponent - value
                    else startExponent + value)) after
          else finish startExponent afterFraction

/-- The value of a hex digit byte. -/
def hexValue? (b : UInt8) : Option Nat :=
  if 48 ≤ b && b ≤ 57 then some (b.toNat - 48)
  else if 97 ≤ b && b ≤ 102 then some (b.toNat - 87)
  else if 65 ≤ b && b ≤ 70 then some (b.toNat - 55)
  else none

/-- Four hex digits from `offset` on, as a code unit, and the offset after them. -/
def readHex4 (bytes : ByteArray) (offset : Nat) : Step Nat :=
  if offset + 4 > bytes.size then .error (failAt bytes bytes.size .eofWhileParsingString)
  else
    let digits := [0, 1, 2, 3].map (fun i => byteAt? bytes (offset + i) |>.bind hexValue?)
    match digits with
    | [some a, some b, some c, some d] => .ok (((a * 16 + b) * 16 + c) * 16 + d, offset + 4)
    | _ => .error (failAt bytes (offset + 4) .invalidEscape)

/-- Reads the rest of a `\u` escape, after the `u`: one code unit, or a surrogate pair. -/
def readUnicodeEscape (bytes : ByteArray) (offset : Nat) : Step Char :=
  match readHex4 bytes offset with
  | .error e => .error e
  | .ok (unit, after) =>
    if 0xDC00 ≤ unit ∧ unit ≤ 0xDFFF then
      .error (failAt bytes after .loneLeadingSurrogateInHexEscape)
    else if 0xD800 ≤ unit ∧ unit ≤ 0xDBFF then
      if byteAt? bytes after == some 92 && byteAt? bytes (after + 1) == some 117 then
        match readHex4 bytes (after + 2) with
        | .error e => .error e
        | .ok (low, afterLow) =>
          if 0xDC00 ≤ low ∧ low ≤ 0xDFFF then
            .ok (Char.ofNat (0x10000 + (unit - 0xD800) * 0x400 + (low - 0xDC00)), afterLow)
          else .error (failAt bytes afterLow .loneLeadingSurrogateInHexEscape)
      else
        match byteAt? bytes after, byteAt? bytes (after + 1) with
        | none, _ | some 92, none => .error (failAt bytes bytes.size .eofWhileParsingString)
        | some 92, some _ => .error (failAt bytes (after + 2) .unexpectedEndOfHexEscape)
        | some _, _ => .error (failAt bytes (after + 1) .unexpectedEndOfHexEscape)
    else .ok (Char.ofNat unit, after)

/-- The text of a run of bytes holding no quote, backslash or control character. -/
def plainRun (bytes : ByteArray) (start stop : Nat) : String :=
  (String.fromUTF8? (bytes.extract start stop)).getD ""

/-- Whether a byte ends a run of plain string bytes: a quote, a backslash or a control
character. -/
def isStringSpecial (b : UInt8) : Bool := b == 34 || b == 92 || b < 32

/-- The end of the run of plain string bytes from `offset`. -/
def plainRunEnd (bytes : ByteArray) (offset : Nat) : Nat :=
  if h : offset < bytes.size then
    if isStringSpecial bytes[offset] then offset else plainRunEnd bytes (offset + 1)
  else offset
termination_by bytes.size - offset

/-- The run of plain bytes never ends before it starts. -/
theorem plainRunEnd_ge (bytes : ByteArray) (offset : Nat) : offset ≤ plainRunEnd bytes offset := by
  unfold plainRunEnd
  split
  · split
    · omega
    · have := plainRunEnd_ge bytes (offset + 1); omega
  · omega
termination_by bytes.size - offset

/-- Reads the rest of a string after its opening quote, appending to `acc`. -/
def readString (bytes : ByteArray) (offset : Nat) (acc : String) : Step String :=
  let stop := plainRunEnd bytes offset
  let acc := acc ++ plainRun bytes offset stop
  if h : stop < bytes.size then
    let b := bytes[stop]
    if b == 34 then .ok (acc, stop + 1)
    else if b == 92 then
      match byteAt? bytes (stop + 1) with
      | none => .error (failAt bytes (stop + 1) .eofWhileParsingString)
      | some e =>
        let simple : Option Char :=
          if e == 34 then some '"' else if e == 92 then some '\\'
          else if e == 47 then some '/' else if e == 98 then some (Char.ofNat 8)
          else if e == 102 then some (Char.ofNat 12) else if e == 110 then some '\n'
          else if e == 114 then some '\r' else if e == 116 then some '\t' else none
        match simple with
        | some c => readString bytes (stop + 2) (acc.push c)
        | none =>
          if e == 117 then
            match readUnicodeEscape bytes (stop + 2) with
            | .error err => .error err
            | .ok (c, after) =>
              if after ≤ stop then .error (failAt bytes after .invalidEscape)
              else readString bytes after (acc.push c)
          else .error (failAt bytes (stop + 2) .invalidEscape)
    else .error (failAt bytes (stop + 1) .controlCharacterWhileParsingString)
  else .error (failAt bytes bytes.size .eofWhileParsingString)
termination_by bytes.size - offset
decreasing_by
  all_goals
    have hge := plainRunEnd_ge bytes offset
    omega

/-- Checks that the bytes from `offset` spell `word`; the offset after it. -/
def expectWord (bytes : ByteArray) (offset : Nat) (word : List UInt8) : Except ReadError Nat :=
  match word with
  | [] => .ok offset
  | w :: rest =>
    match byteAt? bytes offset with
    | none => .error (failAt bytes offset .eofWhileParsingValue)
    | some b =>
      if b == w then expectWord bytes (offset + 1) rest
      else .error (failAt bytes (offset + 1) .expectedSomeIdent)

mutual
/-- Reads one value starting at `offset` (blanks first), with `depth` levels of nesting left.
`fuel` bounds the work: every step takes at least one byte. -/
def readValue (bytes : ByteArray) (fuel depth offset : Nat) : Step Json :=
  match fuel with
  | 0 => .error (failAt bytes offset .eofWhileParsingValue)
  | fuel + 1 =>
    let start := skipBlanks bytes offset
    match byteAt? bytes start with
    | none => .error (failPeek bytes start .eofWhileParsingValue)
    | some b =>
      if b == 110 then
        (expectWord bytes (start + 1) [117, 108, 108]).map (fun after => (.null, after))
      else if b == 116 then
        (expectWord bytes (start + 1) [114, 117, 101]).map (fun after => (.bool true, after))
      else if b == 102 then
        (expectWord bytes (start + 1) [97, 108, 115, 101]).map
          (fun after => (.bool false, after))
      else if b == 45 then
        (readNumber bytes (start + 1) true).map (fun (n, after) => (.number n, after))
      else if isDigitByte b then
        (readNumber bytes start false).map (fun (n, after) => (.number n, after))
      else if b == 34 then
        (readString bytes (start + 1) "").map (fun (s, after) => (.string s, after))
      else if b == 91 then
        if depth ≤ 1 then .error (failPeek bytes start .recursionLimitExceeded)
        else
          match readItems bytes fuel (depth - 1) (start + 1) true [] with
          | .error e => .error e
          | .ok (items, after) => .ok (.array items, after)
      else if b == 123 then
        if depth ≤ 1 then .error (failPeek bytes start .recursionLimitExceeded)
        else
          match readMembers bytes fuel (depth - 1) (start + 1) true [] with
          | .error e => .error e
          | .ok (members, after) => .ok (ofMembers members, after)
      else .error (failPeek bytes start .expectedSomeValue)

/-- Reads array items up to the closing bracket; `acc` holds the items read, last first. -/
def readItems (bytes : ByteArray) (fuel depth offset : Nat) (first : Bool) (acc : List Json) :
    Step (List Json) :=
  match fuel with
  | 0 => .error (failAt bytes offset .eofWhileParsingList)
  | fuel + 1 =>
    let start := skipBlanks bytes offset
    match byteAt? bytes start with
    | none => .error (failPeek bytes start .eofWhileParsingList)
    | some b =>
      if b == 93 then .ok (acc.reverse, start + 1)
      else if !first && b != 44 then .error (failPeek bytes start .expectedListCommaOrEnd)
      else
        let itemStart := if first then start else skipBlanks bytes (start + 1)
        match byteAt? bytes itemStart with
        | none => .error (failPeek bytes itemStart .eofWhileParsingValue)
        | some c =>
          if c == 93 then .error (failPeek bytes itemStart .trailingComma)
          else
            match readValue bytes fuel depth itemStart with
            | .error e => .error e
            | .ok (item, after) => readItems bytes fuel depth after false (item :: acc)

/-- Reads object members up to the closing brace; `acc` holds the members read, last
first. -/
def readMembers (bytes : ByteArray) (fuel depth offset : Nat) (first : Bool)
    (acc : List (String × Json)) : Step (List (String × Json)) :=
  match fuel with
  | 0 => .error (failAt bytes offset .eofWhileParsingObject)
  | fuel + 1 =>
    let start := skipBlanks bytes offset
    match byteAt? bytes start with
    | none => .error (failPeek bytes start .eofWhileParsingObject)
    | some b =>
      if b == 125 then .ok (acc.reverse, start + 1)
      else if !first && b != 44 then .error (failPeek bytes start .expectedObjectCommaOrEnd)
      else
        let keyStart := if first then start else skipBlanks bytes (start + 1)
        match byteAt? bytes keyStart with
        | none => .error (failPeek bytes keyStart .eofWhileParsingValue)
        | some c =>
          if c == 125 then .error (failPeek bytes keyStart .trailingComma)
          else if c != 34 then .error (failPeek bytes keyStart .keyMustBeAString)
          else
            match readString bytes (keyStart + 1) "" with
            | .error e => .error e
            | .ok (key, afterKey) =>
              let colon := skipBlanks bytes afterKey
              match byteAt? bytes colon with
              | none => .error (failPeek bytes colon .eofWhileParsingObject)
              | some d =>
                if d != 58 then .error (failPeek bytes colon .expectedColon)
                else
                  match readValue bytes fuel depth (colon + 1) with
                  | .error e => .error e
                  | .ok (value, after) =>
                    readMembers bytes fuel depth after false ((key, value) :: acc)
end

end Reader

/-- Reads a whole text as one JSON value, with nothing but blanks after it. -/
def parse (text : String) : Except ReadError Json :=
  let bytes := text.toUTF8
  match Reader.readValue bytes (2 * bytes.size + 2) 128 0 with
  | .error e => .error e
  | .ok (value, after) =>
    let rest := Reader.skipBlanks bytes after
    if rest < bytes.size then .error (Reader.failPeek bytes rest .trailingCharacters)
    else .ok value

end Json
end PromptTrainer
