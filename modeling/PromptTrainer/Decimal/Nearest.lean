/-!
# The nearest double to a decimal

`Decimal.nearest digits exponent` is the double nearest to `digits · 10^exponent`, ties to
the even significand, and infinity when that is at least `2^1024`.  It is computed exactly:
the value is the fraction `num / den` of two natural numbers, and the binary exponent `e` is
chosen so that `num / (den · 2^e)` has 53 bits (or `e` is the least exponent of
subnormals); the quotient is then rounded once.

Values with more than 309 decimal digits before the point are infinite and values below
`10^-325` are zero, without computing the large powers of ten.
-/

namespace PromptTrainer
namespace Decimal

/-- The quotient and remainder of `num / (den · 2^e)`. -/
def scaledDivision (num den : Nat) (e : Int) : Nat × Nat × Nat :=
  let num := if e < 0 then num * Nat.pow 2 (-e).toNat else num
  let den := if e < 0 then den else den * Nat.pow 2 e.toNat
  (num / den, num % den, den)

/-- The binary exponent for `num / den`: from the estimate `e`, raised while the quotient
has more than 53 bits and lowered while it has fewer, never below `-1074`. -/
def binaryExponent (num den : Nat) : Nat → Int → Int
  | 0, e => e
  | fuel + 1, e =>
    let (q, _, _) := scaledDivision num den e
    if Nat.pow 2 53 ≤ q then binaryExponent num den fuel (e + 1)
    else if q < Nat.pow 2 52 ∧ -1074 < e then binaryExponent num den fuel (e - 1)
    else e

/-- The double nearest to `num / den` for `den > 0`, ties to even. -/
def nearestRatio (num den : Nat) : Float :=
  if num = 0 then 0.0
  else
    let estimate : Int := (Nat.log2 num : Int) - Nat.log2 den - 52
    let e := binaryExponent num den 8 (max estimate (-1074))
    let (q, r, d) := scaledDivision num den e
    let q := if d < 2 * r ∨ (2 * r = d ∧ q % 2 = 1) then q + 1 else q
    let (q, e) := if q = Nat.pow 2 53 then (Nat.pow 2 52, e + 1) else (q, e)
    if 971 < e then 1.0 / 0.0
    else Float.scaleB (UInt64.ofNat q).toFloat e

/-- The double nearest to a natural number. -/
def natToDouble (n : Nat) : Float := nearestRatio n 1

/-- The number of decimal digits of a positive number. -/
def digitCount (n : Nat) : Nat := (Nat.toDigits 10 n).length

/-- The double nearest to `digits · 10^exponent`, ties to even. -/
def nearest (digits : Nat) (exponent : Int) : Float :=
  if digits = 0 then 0.0
  else
    let magnitude : Int := (digitCount digits : Int) + exponent
    if 310 < magnitude then 1.0 / 0.0
    else if magnitude < -324 then 0.0
    else if 0 ≤ exponent then natToDouble (digits * Nat.pow 10 exponent.toNat)
    else nearestRatio digits (Nat.pow 10 (-exponent).toNat)

end Decimal
end PromptTrainer
