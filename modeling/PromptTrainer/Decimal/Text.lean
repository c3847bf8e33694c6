import PromptTrainer.Decimal.Shortest
import PromptTrainer.Decimal.Nearest
/-!
# Text of shortest decimals

Two layouts of the shortest decimal of a double.

* The data layout, used wherever a double is written as JSON: positional notation, always
  with a fractional digit, when `1e-5 ≤ |x| < 1e16`; otherwise one leading digit and an
  exponent written `e+16` or `e-7`.  Zero is `0.0` or `-0.0`.  Refusals name a double in the
  same layout.
* The plain layout, used in messages: positional notation whatever the size, with no
  fractional part for integral values; `-0`, `NaN`, `inf` and `-inf` for the special values.

In both, the point position `p` is the number of digits before the decimal point: the value
is `0.d₁d₂… · 10^p`.
-/

namespace PromptTrainer
namespace Decimal

/-- A string of `n` zero digits. -/
def zeros (n : Nat) : String := String.ofList (List.replicate n '0')

/-- The digit string of a natural number. -/
def digitString (n : Nat) : String := String.ofList (Nat.toDigits 10 n)

/-- The data layout of a positive shortest decimal; a positive exponent is written with a
plus sign. -/
def dataLayout (d : DecimalNumber) : String :=
  let digits := digitString d.digits
  let length : Int := digits.length
  let point := length + d.exponent
  if 0 ≤ d.exponent ∧ point ≤ 16 then
    digits ++ zeros d.exponent.toNat ++ ".0"
  else if 0 < point ∧ point ≤ 16 then
    String.ofList (digits.toList.take point.toNat) ++ "." ++
      String.ofList (digits.toList.drop point.toNat)
  else if -5 < point ∧ point ≤ 0 then
    "0." ++ zeros (-point).toNat ++ digits
  else
    let mantissa :=
      match digits.toList with
      | [d] => String.singleton d
      | d :: rest => String.singleton d ++ "." ++ String.ofList rest
      | [] => ""
    mantissa ++ "e" ++ (if 1 < point then "+" else "") ++ toString (point - 1)

/-- The plain layout of a positive shortest decimal. -/
def plainLayout (d : DecimalNumber) : String :=
  let digits := digitString d.digits
  let length : Int := digits.length
  let point := length + d.exponent
  if 0 ≤ d.exponent then
    digits ++ zeros d.exponent.toNat
  else if 0 < point then
    String.ofList (digits.toList.take point.toNat) ++ "." ++
      String.ofList (digits.toList.drop point.toNat)
  else
    "0." ++ zeros (-point).toNat ++ digits

/-- The sign prefix. -/
def signText (negative : Bool) : String := if negative then "-" else ""

/-- A double as JSON number text; a value that is not finite has no JSON number and is
written as `null`. -/
def dataText (f : Float) : String :=
  match classifyDouble f with
  | .zero negative => signText negative ++ "0.0"
  | .finite negative d => signText negative ++ dataLayout d
  | .infinite _ => "null"
  | .nan => "null"

/-- A double as named in a refusal: the data layout, and `NaN`, `inf` or `-inf` for the
special values. -/
def refusalText (f : Float) : String :=
  match classifyDouble f with
  | .zero negative => signText negative ++ "0.0"
  | .finite negative d => signText negative ++ dataLayout d
  | .infinite negative => signText negative ++ "inf"
  | .nan => "NaN"

/-- A double as message text. -/
def plainText (f : Float) : String :=
  match classifyDouble f with
  | .zero negative => signText negative ++ "0"
  | .finite negative d => signText negative ++ plainLayout d
  | .infinite negative => signText negative ++ "inf"
  | .nan => "NaN"

/-- The double nearest to the shortest decimal of a single: the value a single is read back
as when its shortest text is read as a double. -/
def singleAsShortestDouble (f : Float32) : Float :=
  match classifySingle f with
  | .zero negative => if negative then -0.0 else 0.0
  | .finite negative d =>
    let magnitude := nearest d.digits d.exponent
    if negative then -magnitude else magnitude
  | .infinite negative => if negative then -(1.0 / 0.0) else 1.0 / 0.0
  | .nan => 0.0 / 0.0

end Decimal
end PromptTrainer
