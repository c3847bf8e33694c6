/-!
# Shortest decimals of binary floating-point numbers

A finite binary floating-point number `m · 2^e` stands for every real that rounds to it.
Its shortest decimal is the decimal with the fewest significant digits inside that rounding
interval (the interval's ends belong to it exactly when `m` is even); of two such decimals
with that many digits the nearer one is chosen, and an exact tie goes to the even digit
string.

All arithmetic here is exact, on natural numbers: a rational is a pair of a numerator and a
denominator, and the decimal grid with `n` digits is searched for `n = 1, 2, …` by testing
the two grid points next to the value.  If some point of a grid lies in the interval, one
of the value's two neighbours on that grid does too, so the first grid with a hit gives the
fewest digits.
-/

namespace PromptTrainer
namespace Decimal

/-- The field widths of a binary interchange format. -/
structure BinaryFormat where
  /-- Bits of the stored fraction. -/
  fractionBits : Nat
  /-- Bits of the biased exponent. -/
  exponentBits : Nat

/-- IEEE binary64 (double precision). -/
def BinaryFormat.binary64 : BinaryFormat := ⟨52, 11⟩

/-- IEEE binary32 (single precision). -/
def BinaryFormat.binary32 : BinaryFormat := ⟨23, 8⟩

/-- What a bit pattern of a binary format stands for, apart from its sign. -/
inductive BinaryValue where
  /-- Zero. -/
  | zero
  /-- The value `mantissa · 2^exponent`, with `mantissa > 0`.  When `narrowBelow` holds the
  next smaller number is half as far away as the next larger one (a power of two that is not
  the smallest normal number). -/
  | finite (mantissa : Nat) (exponent : Int) (narrowBelow : Bool)
  /-- An infinity. -/
  | infinite
  /-- Not a number. -/
  | nan

/-- Splits a bit pattern into its sign (true for negative) and its value. -/
def BinaryFormat.decode (format : BinaryFormat) (bits : Nat) : Bool × BinaryValue :=
  let fraction := bits % Nat.pow 2 format.fractionBits
  let biased := bits / Nat.pow 2 format.fractionBits % Nat.pow 2 format.exponentBits
  let negative := bits / Nat.pow 2 (format.fractionBits + format.exponentBits) % 2 == 1
  let bias : Int := (Nat.pow 2 (format.exponentBits - 1) - 1 : Nat) + (format.fractionBits : Int)
  let value :=
    if biased == Nat.pow 2 format.exponentBits - 1 then
      if fraction == 0 then BinaryValue.infinite else BinaryValue.nan
    else if biased == 0 then
      if fraction == 0 then BinaryValue.zero
      else BinaryValue.finite fraction (1 - bias) false
    else
      BinaryValue.finite (fraction + Nat.pow 2 format.fractionBits) ((biased : Int) - bias)
        (fraction == 0 && biased > 1)
  (negative, value)

/-- A non-negative rational as a numerator and a positive denominator. -/
abbrev Ratio := Nat × Nat

/-- The exact value `x · 2^twos · 10^tens`. -/
def scaled (x : Nat) (twos tens : Int) : Ratio :=
  (x * Nat.pow 2 twos.toNat * Nat.pow 10 tens.toNat,
    Nat.pow 2 (-twos).toNat * Nat.pow 10 (-tens).toNat)

/-- Strict order of ratios. -/
def Ratio.lt (p q : Ratio) : Bool := p.1 * q.2 < q.1 * p.2

/-- Order of ratios. -/
def Ratio.le (p q : Ratio) : Bool := p.1 * q.2 ≤ q.1 * p.2

/-- The number of decimal digits of a natural number (one for zero). -/
def decimalLength (n : Nat) : Nat :=
  if n < 10 then 1 else decimalLength (n / 10) + 1
termination_by n
decreasing_by omega

/-- The exponent `t` with `10^t ≤ r < 10^(t+1)`, for a positive ratio `r`. -/
def floorLog10 (r : Ratio) : Int :=
  let guess : Int := (decimalLength r.1 : Int) - (decimalLength r.2 : Int)
  if Ratio.le (scaled 1 0 guess) r then guess else guess - 1

/-- The decimal `digits · 10^exponent`. -/
structure DecimalNumber where
  digits : Nat
  exponent : Int
deriving BEq, Repr

/-- Removes trailing zero digits, raising the exponent to keep the value. -/
def DecimalNumber.normalize (d : DecimalNumber) : DecimalNumber :=
  if h : d.digits ≠ 0 ∧ d.digits % 10 = 0 then
    DecimalNumber.normalize ⟨d.digits / 10, d.exponent + 1⟩
  else d
termination_by d.digits
decreasing_by omega

/-- The rounding interval of `mantissa · 2^exponent` and the value itself, all in units of
`2^(exponent - 2)`: the value is `4 · mantissa`, its upper end `4 · mantissa + 2`, its lower
end `4 · mantissa - 2`, or `- 1` when the gap below is narrow. -/
structure RoundingInterval where
  value : Ratio
  lower : Ratio
  upper : Ratio
  closed : Bool

/-- The reals that round to `mantissa · 2^exponent`. -/
def roundingInterval (mantissa : Nat) (exponent : Int) (narrowBelow : Bool) :
    RoundingInterval :=
  let unit := exponent - 2
  { value := scaled (4 * mantissa) unit 0
    lower := scaled (4 * mantissa - (if narrowBelow then 1 else 2)) unit 0
    upper := scaled (4 * mantissa + 2) unit 0
    closed := mantissa % 2 == 0 }

/-- Whether a ratio lies in the rounding interval. -/
def RoundingInterval.contains (i : RoundingInterval) (r : Ratio) : Bool :=
  (Ratio.lt i.lower r || (i.closed && Ratio.le i.lower r)) &&
    (Ratio.lt r i.upper || (i.closed && Ratio.le r i.upper))

/-- Of the decimals with `count` significant digits, the one in the interval nearest to the
value (an exact tie goes to the even digit string), if any is in it. -/
def nearestWithDigits (i : RoundingInterval) (leading : Int) (count : Nat) :
    Option DecimalNumber :=
  let exponent := leading - count + 1
  -- the grid point at or below the value, and the one above it
  let step := scaled 1 0 exponent
  let below := i.value.1 * step.2 / (i.value.2 * step.1)
  let above := below + 1
  let belowIn := i.contains (scaled below 0 exponent)
  let aboveIn := i.contains (scaled above 0 exponent)
  if belowIn && aboveIn then
    -- compare twice the value with the midpoint `below + above` on the grid
    let twice : Ratio := (2 * i.value.1, i.value.2)
    let middle := scaled (below + above) 0 exponent
    if Ratio.lt twice middle then some ⟨below, exponent⟩
    else if Ratio.lt middle twice then some ⟨above, exponent⟩
    else if below % 2 == 0 then some ⟨below, exponent⟩
    else some ⟨above, exponent⟩
  else if belowIn then some ⟨below, exponent⟩
  else if aboveIn then some ⟨above, exponent⟩
  else none

/-- The shortest decimal of `mantissa · 2^exponent`, with trailing zeros removed. -/
def shortest (mantissa : Nat) (exponent : Int) (narrowBelow : Bool) : DecimalNumber :=
  let i := roundingInterval mantissa exponent narrowBelow
  let leading := floorLog10 i.value
  match (List.range 17).findSome? (fun n => nearestWithDigits i leading (n + 1)) with
  | some d => d.normalize
  | none => (nearestWithDigits i leading 17).getD ⟨mantissa, 0⟩ |>.normalize

/-- A finite double split into sign and shortest decimal, or what it is when not finite. -/
inductive Classified where
  | finite (negative : Bool) (decimal : DecimalNumber)
  | zero (negative : Bool)
  | infinite (negative : Bool)
  | nan

/-- Classifies a bit pattern of a format, with the shortest decimal of a finite value. -/
def classify (format : BinaryFormat) (bits : Nat) : Classified :=
  match format.decode bits with
  | (negative, .zero) => .zero negative
  | (negative, .finite m e narrow) => .finite negative (shortest m e narrow)
  | (negative, .infinite) => .infinite negative
  | (_, .nan) => .nan

/-- Classifies a double. -/
def classifyDouble (f : Float) : Classified :=
  classify .binary64 f.toBits.toNat

/-- Classifies a single. -/
def classifySingle (f : Float32) : Classified :=
  classify .binary32 f.toBits.toNat

end Decimal
end PromptTrainer
