import PromptTrainer.Json.Parse
import PromptTrainer.Json.Decode
/-!
# Reading typed data out of JSON text

Typed data is read straight from JSON text, directed by its shape: text, a sequence of
one shape, or a record of named fields (all required; other members are skipped).  A
record may also be given as an array holding its fields in order.

A refusal names its place in the text, as syntax errors do.  A refusal of the data itself
(a value of the wrong kind, a missing or repeated field, too few items for a record) is
placed where reading stood when it was found: a value of the wrong kind just after that
value when it is a scalar, at its opening bracket otherwise; a missing field just after the
closing brace; a repeated field after its key and the blanks following it.
-/

namespace PromptTrainer
namespace Json

/-- The shape of typed data. -/
inductive Shape where
  /-- A string. -/
  | text
  /-- A sequence of items of one shape. -/
  | sequence (item : Shape)
  /-- A record: its title and its fields, in declaration order. -/
  | record (title : String) (fields : List (String × Shape))

/-- What a shape expects, as named in refusals. -/
def Shape.expecting : Shape → String
  | .text => "a string"
  | .sequence _ => "a sequence"
  | .record title _ => "struct " ++ title

/-- A refusal of a text: its sentence and its place. -/
structure Refusal where
  message : String
  line : Nat
  column : Nat

/-- The wording of a refusal, with its place. -/
def Refusal.text (r : Refusal) : String :=
  r.message ++ " at line " ++ toString r.line ++ " column " ++ toString r.column

/-- A syntax error as a refusal. -/
def ReadError.refusal (e : ReadError) : Refusal := ⟨e.code.message, e.line, e.column⟩

namespace Typed

open Reader

/-- The result of reading a part of the text: the part and the offset after it. -/
abbrev Step (α : Type) := Except Refusal (α × Nat)

/-- A syntax refusal at a place. -/
def syntaxAt (bytes : ByteArray) (offset : Nat) (code : ReadErrorCode) : Refusal :=
  (failAt bytes offset code).refusal

/-- A syntax refusal found while looking at the byte at `offset`. -/
def syntaxPeek (bytes : ByteArray) (offset : Nat) (code : ReadErrorCode) : Refusal :=
  (failPeek bytes offset code).refusal

/-- A refusal of the data, placed at an offset. -/
def dataAt (bytes : ByteArray) (offset : Nat) (message : String) : Refusal :=
  let place := placeOf bytes (min offset bytes.size)
  ⟨message, place.1, place.2⟩

/-- Lifts a syntax step. -/
def lift {α : Type} (s : Reader.Step α) : Step α := s.mapError ReadError.refusal

/-- The refusal of the value starting at `start` (after blanks) as not what `expected`
names.  A scalar is read first, and the refusal placed after it. -/
def wrongKind (bytes : ByteArray) (start : Nat) (expected : String) : Refusal :=
  let refuse (value : Json) (after : Nat) : Refusal :=
    dataAt bytes after (Decode.invalidType value expected)
  match byteAt? bytes start with
  | none => syntaxPeek bytes start .eofWhileParsingValue
  | some b =>
    let scalar : Except ReadError (Json × Nat) :=
      if b == 110 then (expectWord bytes (start + 1) [117, 108, 108]).map (fun a => (.null, a))
      else if b == 116 then
        (expectWord bytes (start + 1) [114, 117, 101]).map (fun a => (.bool true, a))
      else if b == 102 then
        (expectWord bytes (start + 1) [97, 108, 115, 101]).map (fun a => (.bool false, a))
      else if b == 45 then (readNumber bytes (start + 1) true).map (fun (n, a) => (.number n, a))
      else if isDigitByte b then (readNumber bytes start false).map (fun (n, a) => (.number n, a))
      else if b == 34 then (readString bytes (start + 1) "").map (fun (s, a) => (.string s, a))
      else if b == 91 then .ok (.array [], start)
      else if b == 123 then .ok (.object [], start)
      else .error (failPeek bytes start .expectedSomeValue)
    match scalar with
    | .error e => e.refusal
    | .ok (value, after) => refuse value after

/-- Where a sequence goes on after an item or at its start: `true` when another item
follows (the offset is at it), `false` at the closing bracket (the offset is at it). -/
def nextItem (bytes : ByteArray) (offset : Nat) (first : Bool) : Except Refusal (Bool × Nat) :=
  let at_ := skipBlanks bytes offset
  match byteAt? bytes at_ with
  | none => .error (syntaxPeek bytes at_ .eofWhileParsingList)
  | some b =>
    if b == 93 then .ok (false, at_)
    else if first then .ok (true, at_)
    else if b == 44 then
      let next := skipBlanks bytes (at_ + 1)
      match byteAt? bytes next with
      | some 93 => .error (syntaxPeek bytes next .trailingComma)
      | some _ => .ok (true, next)
      | none => .error (syntaxPeek bytes next .eofWhileParsingValue)
    else .error (syntaxPeek bytes at_ .expectedListCommaOrEnd)

/-- Where an object goes on after a member or at its start: the key of the next member and
the offset after it, or `none` at the closing brace (the offset is at it). -/
def nextKey (bytes : ByteArray) (offset : Nat) (first : Bool) :
    Except Refusal (Option String × Nat) :=
  let at_ := skipBlanks bytes offset
  let keyAt (k : Nat) : Except Refusal (Option String × Nat) :=
    match byteAt? bytes k with
    | some 34 => (lift (readString bytes (k + 1) "")).map (fun (key, after) => (some key, after))
    | some 125 => .error (syntaxPeek bytes k .trailingComma)
    | some _ => .error (syntaxPeek bytes k .keyMustBeAString)
    | none => .error (syntaxPeek bytes k .eofWhileParsingValue)
  match byteAt? bytes at_ with
  | none => .error (syntaxPeek bytes at_ .eofWhileParsingObject)
  | some b =>
    if b == 125 then .ok (none, at_)
    else if b == 44 && !first then keyAt (skipBlanks bytes (at_ + 1))
    else if first then keyAt at_
    else .error (syntaxPeek bytes at_ .expectedObjectCommaOrEnd)

/-- The offset after the colon following a key. -/
def colon (bytes : ByteArray) (offset : Nat) : Except Refusal Nat :=
  let at_ := skipBlanks bytes offset
  match byteAt? bytes at_ with
  | some 58 => .ok (at_ + 1)
  | some _ => .error (syntaxPeek bytes at_ .expectedColon)
  | none => .error (syntaxPeek bytes at_ .eofWhileParsingObject)

/-- Closes a sequence read as a record: the offset after its closing bracket. -/
def closeSequence (bytes : ByteArray) (offset : Nat) : Except Refusal Nat :=
  let at_ := skipBlanks bytes offset
  match byteAt? bytes at_ with
  | some 93 => .ok (at_ + 1)
  | some 44 =>
    let next := skipBlanks bytes (at_ + 1)
    match byteAt? bytes next with
    | some 93 => .error (syntaxPeek bytes next .trailingComma)
    | _ => .error (syntaxPeek bytes next .trailingCharacters)
  | some _ => .error (syntaxPeek bytes at_ .trailingCharacters)
  | none => .error (syntaxPeek bytes at_ .eofWhileParsingList)

/-- The refusal of a record given as a sequence of too few items. -/
def tooFew (title : String) (read count : Nat) : String :=
  Decode.invalidLength read ("struct " ++ title ++ " with " ++ toString count ++
    (if count == 1 then " element" else " elements"))

mutual
/-- Reads a value of a shape from `offset` (blanks first), with `depth` levels of nesting
left; `fuel` bounds the work. -/
def readShape (bytes : ByteArray) (fuel depth offset : Nat) (shape : Shape) : Step Json :=
  match fuel with
  | 0 => .error (syntaxAt bytes offset .eofWhileParsingValue)
  | fuel + 1 =>
    let start := skipBlanks bytes offset
    match byteAt? bytes start, shape with
    | none, _ => .error (syntaxPeek bytes start .eofWhileParsingValue)
    | some 34, .text => (lift (readString bytes (start + 1) "")).map (fun (s, a) => (.string s, a))
    | some 91, .sequence item =>
      if depth ≤ 1 then .error (syntaxPeek bytes start .recursionLimitExceeded)
      else readItems bytes fuel (depth - 1) (start + 1) item true []
    | some 123, .record title fields =>
      if depth ≤ 1 then .error (syntaxPeek bytes start .recursionLimitExceeded)
      else readFields bytes fuel (depth - 1) (start + 1) title fields true []
    | some 91, .record title fields =>
      if depth ≤ 1 then .error (syntaxPeek bytes start .recursionLimitExceeded)
      else readPositional bytes fuel (depth - 1) (start + 1) title fields.length fields true []
    | some _, _ => .error (wrongKind bytes start shape.expecting)

/-- Reads the items of a sequence up to its closing bracket; `acc` holds the items read,
last first. -/
def readItems (bytes : ByteArray) (fuel depth offset : Nat) (item : Shape) (first : Bool)
    (acc : List Json) : Step Json :=
  match fuel with
  | 0 => .error (syntaxAt bytes offset .eofWhileParsingList)
  | fuel + 1 =>
    match nextItem bytes offset first with
    | .error e => .error e
    | .ok (false, at_) => .ok (.array acc.reverse, at_ + 1)
    | .ok (true, at_) =>
      match readShape bytes fuel depth at_ item with
      | .error e => .error e
      | .ok (value, after) => readItems bytes fuel depth after item false (value :: acc)

/-- Reads the members of a record up to its closing brace; `acc` holds the fields read, last
first.  Members of other names are read and dropped. -/
def readFields (bytes : ByteArray) (fuel depth offset : Nat) (title : String)
    (fields : List (String × Shape)) (first : Bool) (acc : List (String × Json)) : Step Json :=
  match fuel with
  | 0 => .error (syntaxAt bytes offset .eofWhileParsingObject)
  | fuel + 1 =>
    match nextKey bytes offset first with
    | .error e => .error e
    | .ok (none, at_) =>
      match fields.find? (fun f => !acc.any (fun m => m.1 == f.1)) with
      | some (name, _) => .error (dataAt bytes (at_ + 1) (Decode.missingField name))
      | none =>
        .ok (.object (fields.filterMap (fun f => (acc.lookup f.1).map (fun v => (f.1, v)))),
          at_ + 1)
    | .ok (some key, afterKey) =>
      match fields.lookup key with
      | some shape =>
        if acc.any (fun m => m.1 == key) then
          .error (dataAt bytes (skipBlanks bytes afterKey) ("duplicate field `" ++ key ++ "`"))
        else
          match colon bytes afterKey with
          | .error e => .error e
          | .ok valueAt =>
            match readShape bytes fuel depth valueAt shape with
            | .error e => .error e
            | .ok (value, after) =>
              readFields bytes fuel depth after title fields false ((key, value) :: acc)
      | none =>
        match colon bytes afterKey with
        | .error e => .error e
        | .ok valueAt =>
          match lift (readValue bytes (fuel + 1) depth valueAt) with
          | .error e => .error e
          | .ok (_, after) => readFields bytes fuel depth after title fields false acc

/-- Reads a record given as a sequence, its fields in order; `count` is the number of
fields, `acc` holds the fields read, last first. -/
def readPositional (bytes : ByteArray) (fuel depth offset : Nat) (title : String) (count : Nat)
    (fields : List (String × Shape)) (first : Bool) (acc : List (String × Json)) : Step Json :=
  match fuel, fields with
  | 0, _ => .error (syntaxAt bytes offset .eofWhileParsingList)
  | _ + 1, [] =>
    (closeSequence bytes offset).map (fun after => (.object acc.reverse, after))
  | fuel + 1, (name, shape) :: rest =>
    match nextItem bytes offset first with
    | .error e => .error e
    | .ok (false, at_) => .error (dataAt bytes (at_ + 1) (tooFew title acc.length count))
    | .ok (true, at_) =>
      match readShape bytes fuel depth at_ shape with
      | .error e => .error e
      | .ok (value, after) =>
        readPositional bytes fuel depth after title count rest false ((name, value) :: acc)
end

end Typed

/-- Reads a whole text as data of a shape, with nothing but blanks after it. -/
def readTyped (shape : Shape) (text : String) : Except Refusal Json :=
  let bytes := text.toUTF8
  match Typed.readShape bytes (2 * bytes.size + 2) 128 0 shape with
  | .error e => .error e
  | .ok (value, after) =>
    let rest := Reader.skipBlanks bytes after
    if rest < bytes.size then .error (Typed.syntaxPeek bytes rest .trailingCharacters)
    else .ok value

end Json
end PromptTrainer
