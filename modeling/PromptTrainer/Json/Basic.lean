/-!
# JSON values

A JSON value whose objects keep their members in insertion order and whose numbers keep
integers and doubles apart: `1` is an integer, `1.0` a double, and the two are different
values.  Integers are exact and, as read from text, lie in the signed or unsigned 64-bit
range; everything else is a double.

Equality follows the data model: objects are equal when they have the same keys with equal
values, whatever the order; arrays compare element by element; an integer never equals a
double; doubles compare as IEEE numbers (so `0.0` equals `-0.0` and NaN equals nothing).
-/

namespace PromptTrainer

/-- A JSON number: an exact integer or an IEEE double. -/
inductive JsonNumber where
  /-- An integer, kept exact. -/
  | int (value : Int)
  /-- A binary64 floating-point number. -/
  | float (value : Float)

/-- A JSON value.  Object members are kept in insertion order, with distinct keys. -/
inductive Json where
  | null
  | bool (value : Bool)
  | number (value : JsonNumber)
  | string (value : String)
  | array (items : List Json)
  | object (members : List (String × Json))

namespace JsonNumber

/-- Two numbers are equal when both are integers of one value or both are doubles that
compare equal. -/
def beq : JsonNumber → JsonNumber → Bool
  | .int a, .int b => a == b
  | .float a, .float b => a == b
  | _, _ => false

instance : BEq JsonNumber := ⟨beq⟩

/-- The number as a double; integers are rounded to the nearest double. -/
def toFloat : JsonNumber → Float
  | .int i => Float.ofInt i
  | .float f => f

/-- The smallest signed 64-bit integer, `-2^63`. -/
def signedMin : Int := -9223372036854775808

/-- The largest signed 64-bit integer, `2^63 - 1`. -/
def signedMax : Int := 9223372036854775807

/-- The largest unsigned 64-bit integer, `2^64 - 1`. -/
def unsignedMax : Int := 18446744073709551615

/-- The integer, when the number is an integer in the signed 64-bit range. -/
def toSigned? : JsonNumber → Option Int
  | .int i => if signedMin ≤ i ∧ i ≤ signedMax then some i else none
  | .float _ => none

/-- The integer, when the number is a non-negative integer in the unsigned 64-bit range. -/
def toUnsigned? : JsonNumber → Option Nat
  | .int i => if 0 ≤ i ∧ i ≤ unsignedMax then some i.toNat else none
  | .float _ => none

/-- Whether the number is an integer. -/
def isInt : JsonNumber → Bool
  | .int _ => true
  | .float _ => false

end JsonNumber

namespace Json

mutual
/-- Structural equality: objects ignore member order, integers never equal doubles. -/
def beq : Json → Json → Bool
  | .null, .null => true
  | .bool a, .bool b => a == b
  | .number a, .number b => a.beq b
  | .string a, .string b => a == b
  | .array xs, .array ys => beqItems xs ys
  | .object xs, .object ys => xs.length == ys.length && beqMembers xs ys
  | _, _ => false

/-- Element-wise equality of two arrays. -/
def beqItems : List Json → List Json → Bool
  | [], [] => true
  | x :: xs, y :: ys => beq x y && beqItems xs ys
  | _, _ => false

/-- Every member of the first object has an equal member of the same key in the second. -/
def beqMembers : List (String × Json) → List (String × Json) → Bool
  | [], _ => true
  | (key, value) :: rest, others =>
    (match others.find? (fun member => member.1 == key) with
     | some (_, other) => beq value other
     | none => false) && beqMembers rest others
end

instance : BEq Json := ⟨beq⟩

mutual
/-- The nesting depth of a value: zero for a scalar, one more than its deepest part for an
array or object. -/
def depth : Json → Nat
  | .array items => 1 + depthItems items
  | .object members => 1 + depthMembers members
  | _ => 0

/-- The largest depth of items. -/
def depthItems : List Json → Nat
  | [] => 0
  | item :: rest => max (depth item) (depthItems rest)

/-- The largest depth of member values. -/
def depthMembers : List (String × Json) → Nat
  | [] => 0
  | (_, value) :: rest => max (depth value) (depthMembers rest)
end

/-- An integer value. -/
def int (i : Int) : Json := .number (.int i)

/-- A natural-number value. -/
def nat (n : Nat) : Json := .number (.int n)

/-- A double value. -/
def float (f : Float) : Json := .number (.float f)

/-- The member of an object under a key. -/
def lookup (members : List (String × Json)) (key : String) : Option Json :=
  (members.find? (fun member => member.1 == key)).map Prod.snd

/-- The value under a key, when this is an object that has it. -/
def get? (value : Json) (key : String) : Option Json :=
  match value with
  | .object members => lookup members key
  | _ => none

/-- Sets a key in an object's members: an existing key keeps its position and takes the new
value, a new key goes last. -/
def setMember (members : List (String × Json)) (key : String) (value : Json) :
    List (String × Json) :=
  if members.any (fun member => member.1 == key) then
    members.map (fun member => if member.1 == key then (key, value) else member)
  else
    members ++ [(key, value)]

/-- The members with every key set in turn, so that later values win. -/
def setMembers (members : List (String × Json)) (updates : List (String × Json)) :
    List (String × Json) :=
  updates.foldl (fun acc member => setMember acc member.1 member.2) members

/-- Builds an object from members that may repeat a key: a repeated key keeps its first
position and its last value. -/
def ofMembers (members : List (String × Json)) : Json :=
  .object (setMembers [] members)

/-- Whether the value is null. -/
def isNull : Json → Bool
  | .null => true
  | _ => false

/-- The string, when this is a string. -/
def getString? : Json → Option String
  | .string s => some s
  | _ => none

/-- The members, when this is an object. -/
def getObject? : Json → Option (List (String × Json))
  | .object members => some members
  | _ => none

/-- The items, when this is an array. -/
def getArray? : Json → Option (List Json)
  | .array items => some items
  | _ => none

/-- The flag, when this is a boolean. -/
def getBool? : Json → Option Bool
  | .bool b => some b
  | _ => none

/-- The number as a double, when this is a number. -/
def getFloat? : Json → Option Float
  | .number n => some n.toFloat
  | _ => none

/-- The integer, when this is an integer in the unsigned 64-bit range. -/
def getUnsigned? : Json → Option Nat
  | .number n => n.toUnsigned?
  | _ => none

/-- The integer, when this is an integer in the signed 64-bit range. -/
def getSigned? : Json → Option Int
  | .number n => n.toSigned?
  | _ => none

/-- An optional string as a value: the string, or null. -/
def ofStringOption : Option String → Json
  | some s => .string s
  | none => .null

/-- A list of strings as an array value. -/
def ofStrings (items : List String) : Json :=
  .array (items.map Json.string)

/-- A list of strings, when this is an array of strings only. -/
def getStrings? : Json → Option (List String)
  | .array items => items.mapM getString?
  | _ => none

end Json

end PromptTrainer
