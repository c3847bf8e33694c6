import Mathlib
import PromptTrainer.Training.Trainer
/-!
# Rounding of doubles as arithmetic on rationals

The core model of doubles computes by bits: an operation works out an exact mantissa and
exponent, shifts the mantissa right to the target exponent one bit at a time while keeping a
round and a sticky bit, rounds to nearest with ties to even, and packs the result.  This module
reads that pipeline as arithmetic.  A shifted mantissa with its two bits describes a fraction
`a / d` (`Describes`), the rounded mantissa is the integer nearest to it (`nearestEven`), and so a
result is bounded by the rational its operands stand for (`magnitude`).

Bounds are carried by two predicates on unpacked doubles, `AtMost` and `AtLeast`, which also
hold the canonical form that unpacking a packed double gives.  A sum of `k` scores in `[0, 1]`
is at most `min k 2^53` (at `2^53 + 1` the tie goes to the even `2^53`), a count `n` converts
to at least `min n 2^53`, and so their quotient is at most one.

Main statements: `atMost_clampScore`, `atMost_add_float` and `isValid_mean`: the mean of
clamped scores, each added to a running total, is a valid reward.
-/

namespace PromptTrainer.Ieee

open Float.Model UnpackedFloat

/-! ## Nearest-even rounding of a fraction -/

/-- The integer nearest to `a / d`, a tie going to the even one. -/
def nearestEven (a d : Nat) : Nat :=
  a / d + if d < 2 * (a % d) then 1 else if 2 * (a % d) = d then a / d % 2 else 0

theorem nearestEven_le_succ (a d : Nat) : nearestEven a d ≤ a / d + 1 := by
  unfold nearestEven
  split_ifs <;> omega

theorem le_nearestEven {a d i : Nat} (hd : 0 < d) (above : i * d ≤ a) : i ≤ nearestEven a d := by
  have floor : i ≤ a / d := (Nat.le_div_iff_mul_le hd).mpr above
  unfold nearestEven
  omega

/-- A fraction at most an integer rounds to at most that integer. -/
theorem nearestEven_le {a d i : Nat} (hd : 0 < d) (below : a ≤ i * d) : nearestEven a d ≤ i := by
  have floor : a / d ≤ i := Nat.div_le_of_le_mul (by rw [Nat.mul_comm]; exact below)
  by_cases whole : a % d = 0
  · simp [nearestEven, whole, Nat.ne_of_lt hd, floor]
  · have strict : a / d < i := by
      rw [Nat.div_lt_iff_lt_mul hd]
      refine Nat.lt_of_le_of_ne below fun same => whole ?_
      rw [same, Nat.mul_mod_left]
    have := nearestEven_le_succ a d
    omega

/-- A fraction at most half past an even integer rounds to at most that integer. -/
theorem nearestEven_le_even {a d i : Nat} (hd : 0 < d) (even : i % 2 = 0)
    (below : 2 * a ≤ (2 * i + 1) * d) : nearestEven a d ≤ i := by
  have split := Nat.div_add_mod a d
  have rest := Nat.mod_lt a hd
  have floor : a / d ≤ i := by
    by_contra above
    have : (i + 1) * d ≤ d * (a / d) := by
      rw [Nat.mul_comm d]; exact Nat.mul_le_mul_right d (by omega)
    rw [Nat.add_mul] at this
    rw [Nat.add_mul, Nat.mul_assoc] at below
    omega
  rcases Nat.lt_or_eq_of_le floor with lower | same
  · have := nearestEven_le_succ a d
    omega
  · have half : 2 * (a % d) ≤ d := by
      rw [← same] at below
      rw [Nat.add_mul, Nat.mul_assoc, Nat.mul_comm (a / d) d] at below
      omega
    unfold nearestEven
    split_ifs <;> omega

/-! ## Shifted mantissas as fractions -/

/-- An extended mantissa describes the fraction `a / d`: its mantissa is the integer part, its
round bit says that the rest is at least a half, and its sticky bit that the rest is neither
zero nor a half. -/
structure Describes (em : ExtendedMantissa) (a d : Nat) : Prop where
  mantissa : em.mantissa = a / d
  roundBit : em.roundBit = decide (d ≤ 2 * (a % d))
  stickyBit : em.stickyBit = decide (a % d ≠ 0 ∧ 2 * (a % d) ≠ d)

theorem describes_exact (m : Nat) : Describes (.ofMantissaAndAccuracy m .exact) m 1 :=
  ⟨by simp [ExtendedMantissa.ofMantissaAndAccuracy], by simp [ExtendedMantissa.ofMantissaAndAccuracy, Nat.mod_one],
    by simp [ExtendedMantissa.ofMantissaAndAccuracy, Nat.mod_one]⟩

@[simp] theorem mantissa_ofMantissaAndAccuracy (m : Nat) (accuracy : Accuracy) :
    (ExtendedMantissa.ofMantissaAndAccuracy m accuracy).mantissa = m := by
  unfold ExtendedMantissa.ofMantissaAndAccuracy
  split <;> rfl

theorem roundBit_fraction (q : Nat) {r d : Nat} (rest : r < d) :
    (ExtendedMantissa.ofMantissaAndAccuracy q (accuracyOfFraction r d)).roundBit =
      decide (d ≤ 2 * r) ∧
    (ExtendedMantissa.ofMantissaAndAccuracy q (accuracyOfFraction r d)).stickyBit =
      decide (r ≠ 0 ∧ 2 * r ≠ d) := by
  unfold accuracyOfFraction
  by_cases zero : r = 0
  · simp [zero, ExtendedMantissa.ofMantissaAndAccuracy]; omega
  · rcases Nat.lt_trichotomy (2 * r) d with below | half | above
    · simp [zero, Nat.compare_eq_lt.mpr below, ExtendedMantissa.ofMantissaAndAccuracy]; omega
    · simp [zero, Nat.compare_eq_eq.mpr half, ExtendedMantissa.ofMantissaAndAccuracy]; omega
    · simp [zero, Nat.compare_eq_gt.mpr above, ExtendedMantissa.ofMantissaAndAccuracy]; omega

/-- The quotient and remainder of a division describe the fraction they come from. -/
theorem describes_fraction {q r d : Nat} (rest : r < d) :
    Describes (.ofMantissaAndAccuracy q (accuracyOfFraction r d)) (q * d + r) d := by
  have quotient : (q * d + r) / d = q := by
    rw [Nat.add_comm, Nat.add_mul_div_right _ _ (by omega), Nat.div_eq_of_lt rest, Nat.zero_add]
  have remainder : (q * d + r) % d = r := by
    rw [Nat.add_comm, Nat.add_mul_mod_self_right, Nat.mod_eq_of_lt rest]
  obtain ⟨round, sticky⟩ := roundBit_fraction q rest
  exact ⟨by rw [quotient, mantissa_ofMantissaAndAccuracy], by rw [remainder, round],
    by rw [remainder, sticky]⟩

/-- Halving the fraction is shifting its description right by one bit. -/
theorem Describes.shiftRightOne {em : ExtendedMantissa} {a d : Nat} (hd : 0 < d)
    (described : Describes em a d) : Describes em.shiftRightOne a (d * 2) := by
  -- the rest below `2 * d` is the rest below `d`, plus `d` when the integer part is odd
  have rest : a % (d * 2) = a % d + d * (a / d % 2) := Nat.mod_mul
  have below := Nat.mod_lt a hd
  have parity := Nat.mod_two_eq_zero_or_one (a / d)
  refine ⟨?_, ?_, ?_⟩
  · simp [ExtendedMantissa.shiftRightOne, described.mantissa, Nat.div_div_eq_div_mul]
  · simp only [ExtendedMantissa.shiftRightOne, described.mantissa, rest]
    rcases parity with parity | parity <;> simp [parity] <;> omega
  · simp only [ExtendedMantissa.shiftRightOne, described.roundBit, described.stickyBit, rest]
    rcases parity with parity | parity <;> simp only [parity] <;> apply Bool.eq_iff_iff.mpr <;>
      simp <;> omega

/-- Shifting a description right by `k` bits divides its fraction by `2 ^ k`. -/
theorem Describes.shiftRight {em : ExtendedMantissa} {a d : Nat} (hd : 0 < d)
    (described : Describes em a d) (k : Nat) : Describes (em >>> k) a (d * 2 ^ k) := by
  induction k with
  | zero => simpa [HShiftRight.hShiftRight, Nat.repeat] using described
  | succ k ih =>
    have once := ih.shiftRightOne (Nat.mul_pos hd (Nat.two_pow_pos k))
    rwa [Nat.pow_succ, ← Nat.mul_assoc]

/-- The rounded mantissa of a description is the nearest integer to its fraction. -/
theorem Describes.roundedMantissa {em : ExtendedMantissa} {a d : Nat} (hd : 0 < d)
    (described : Describes em a d) : em.roundedMantissa = nearestEven a d := by
  obtain ⟨m, r, s⟩ := em
  obtain ⟨hm, hr, hs⟩ := described
  simp only at hm hr hs
  subst hm
  have below := Nat.mod_lt a hd
  cases r <;> cases s <;>
    simp [ExtendedMantissa.roundedMantissa, ExtendedMantissa.accuracy,
      Accuracy.roundToNearestEven, nearestEven] at hr hs ⊢ <;> split_ifs <;> omega

/-! ## The rounding pipeline -/

theorem targetExponent_binary64 (total : Int) :
    Format.binary64.targetExponent total = max (total - 53) (-1074) := by
  simp only [Format.targetExponent, Format.mantissaBits, Format.minExponent]
  norm_num

/-- The number of bits the first step of rounding drops from a mantissa `m` at exponent `e`:
those below the target exponent of its magnitude. -/
def dropped (m : Nat) (e : Int) : Nat :=
  (Format.binary64.targetExponent (totalExponent m e) - e).toNat

theorem shiftToTargetExponent_eq (m : Nat) (e : Int) (accuracy : Accuracy) :
    shiftToTargetExponent .binary64 m e accuracy =
      (ExtendedMantissa.ofMantissaAndAccuracy m accuracy >>> dropped m e, e + dropped m e) := rfl

theorem log2_le_dropped (m : Nat) (e : Int) : m.log2 ≤ 52 + dropped m e := by
  simp only [dropped, targetExponent_binary64, totalExponent]
  omega

theorem least_le_shifted (m : Nat) (e : Int) : -1074 ≤ e + dropped m e := by
  simp only [dropped, targetExponent_binary64, totalExponent]
  omega

/-- After the first shift at most 53 bits are left. -/
theorem div_dropped_lt (m : Nat) (e : Int) : m / 2 ^ dropped m e < 2 ^ 53 := by
  rw [Nat.div_lt_iff_lt_mul (Nat.two_pow_pos _), ← Nat.pow_add]
  calc m < 2 ^ (m.log2 + 1) := Nat.lt_log2_self
    _ ≤ 2 ^ (53 + dropped m e) := Nat.pow_le_pow_right (by decide) (by have := log2_le_dropped m e; omega)

/-- The double of mantissa `n` at exponent `e` as rounding leaves it: zero for a zero mantissa,
and a carry out of 53 bits moved into the exponent. -/
def place (s : Sign) (n : Nat) (e : Int) : UnpackedFloat :=
  if h : n = 0 then .zero s
  else if n < 2 ^ 53 then .finite s n e (Nat.pos_of_ne_zero h)
  else .finite s (2 ^ 52) (e + 1) (Nat.two_pow_pos 52)

/-- The second shift of rounding leaves a mantissa of at most 53 bits where it is. -/
theorem shiftToTargetExponent_of_lt {n : Nat} {f : Int} (within : n < 2 ^ 53) (least : -1074 ≤ f) :
    shiftToTargetExponent .binary64 n f .exact = (⟨n, false, false⟩, f) := by
  have bits : n.log2 < 53 := by
    rcases Nat.eq_zero_or_pos n with zero | pos
    · simp [zero]
    · exact (Nat.log2_lt (Nat.pos_iff_ne_zero.mp pos)).mpr within
  have none : dropped n f = 0 := by
    simp only [dropped, targetExponent_binary64, totalExponent]
    omega
  rw [shiftToTargetExponent_eq, none]
  simp [HShiftRight.hShiftRight, Nat.repeat, ExtendedMantissa.ofMantissaAndAccuracy]

/-- The second shift of rounding moves a carry out of 53 bits into the exponent. -/
theorem shiftToTargetExponent_carry {f : Int} (least : -1074 ≤ f) :
    shiftToTargetExponent .binary64 (2 ^ 53) f .exact = (⟨2 ^ 52, false, false⟩, f + 1) := by
  have one : dropped (2 ^ 53) f = 1 := by
    simp only [dropped, targetExponent_binary64, totalExponent, Nat.log2_two_pow]
    omega
  rw [shiftToTargetExponent_eq, one]
  rfl

/-- Rounding is the first shift and its rounding to nearest, placed with its carry. -/
theorem roundWithAccuracy_eq_place (s : Sign) {m a d : Nat} (e : Int) {accuracy : Accuracy}
    (hd : 0 < d) (described : Describes (.ofMantissaAndAccuracy m accuracy) a d) :
    roundWithAccuracy .binary64 s m e accuracy =
      place s (nearestEven a (d * 2 ^ dropped m e)) (e + dropped m e) := by
  have shifted := described.shiftRight hd (dropped m e)
  have rounded := shifted.roundedMantissa (Nat.mul_pos hd (Nat.two_pow_pos _))
  have floor : a / (d * 2 ^ dropped m e) = m / 2 ^ dropped m e := by
    rw [← Nat.div_div_eq_div_mul, ← described.mantissa, mantissa_ofMantissaAndAccuracy]
  have bound : nearestEven a (d * 2 ^ dropped m e) ≤ 2 ^ 53 := by
    have := nearestEven_le_succ a (d * 2 ^ dropped m e)
    have := div_dropped_lt m e
    omega
  unfold roundWithAccuracy
  rw [shiftToTargetExponent_eq]
  dsimp only
  rw [rounded]
  by_cases within : nearestEven a (d * 2 ^ dropped m e) < 2 ^ 53
  · rw [shiftToTargetExponent_of_lt within (least_le_shifted m e)]
    unfold place
    dsimp only
    split <;> rfl
  · have carry : nearestEven a (d * 2 ^ dropped m e) = 2 ^ 53 := by omega
    rw [carry, shiftToTargetExponent_carry (least_le_shifted m e)]
    rfl

/-! ## Canonical forms and packing -/

structure Canonical (m : Nat) (e : Int) : Prop where
  lt : m < 2 ^ 53
  least : -1074 ≤ e
  greatest : e ≤ 971
  normal : 2 ^ 52 ≤ m ∨ e = -1074

theorem unpack_pack (u : UnpackedFloat) :
    (Float.Model.pack u).unpack = UnpackedFloat.unpack .binary64 (UnpackedFloat.pack .binary64 u) := rfl

theorem unpack_pack_zero (s : Sign) : (Float.Model.pack (.zero s)).unpack = .zero s := by
  rw [unpack_pack]
  exact unpack_packedZero

theorem unpack_pack_subnormal (s : Sign) {m : Nat} (hm : 0 < m) (small : m < 2 ^ 52) :
    (Float.Model.pack (.finite s m (-1074) hm)).unpack = .finite s m (-1074) hm := by
  have bits : m.log2 < 52 := (Nat.log2_lt (Nat.pos_iff_ne_zero.mp hm)).mpr small
  have nonzero : BitVec.ofNat 52 m ≠ 0#52 := by
    intro zero
    have := congrArg BitVec.toNat zero
    simp at this
    omega
  rw [unpack_pack]
  simp only [UnpackedFloat.pack, Format.exponentBias, Format.mantissaBits]
  norm_num
  simp only [show m.log2 + 1 ≠ 53 by omega, ↓reduceIte]
  simpa [UnpackedFloat.unpack, nonzero, Format.exponentBias] using small

theorem unpack_pack_normal (s : Sign) {m : Nat} {e : Int} (hm : 0 < m) (large : 2 ^ 52 ≤ m)
    (small : m < 2 ^ 53) (least : -1074 ≤ e) (greatest : e ≤ 971) :
    (Float.Model.pack (.finite s m e hm)).unpack = .finite s m e hm := by
  have bits : m.log2 = 52 := (Nat.log2_eq_iff (Nat.pos_iff_ne_zero.mp hm)).mpr ⟨large, small⟩
  rw [unpack_pack]
  simp only [UnpackedFloat.pack, Format.exponentBias, Format.mantissaBits, bits]
  norm_num
  rw [if_neg (by omega)]
  have biased : (BitVec.ofNat 11 (e + 1023 + 52).toNat).toNat = (e + 1075).toNat := by
    simp only [BitVec.toNat_ofNat]
    omega
  have notTop : BitVec.ofNat 11 (e + 1023 + 52).toNat ≠ -1#11 := by
    intro top
    have := congrArg BitVec.toNat top
    rw [biased] at this
    simp at this
    omega
  have notBottom : BitVec.ofNat 11 (e + 1023 + 52).toNat ≠ 0#11 := by
    intro bottom
    have := congrArg BitVec.toNat bottom
    rw [biased] at this
    simp at this
    omega
  have mantissa : (1#1 ++ BitVec.ofNat 52 m).toNat = m := by
    simp only [BitVec.toNat_append, BitVec.toNat_ofNat]
    rw [← Nat.shiftLeft_add_eq_or_of_lt (Nat.mod_lt _ (Nat.two_pow_pos 52)), Nat.shiftLeft_eq]
    omega
  simp only [UnpackedFloat.unpack, unpackExponent_packComponents, unpackMantissa_packComponents,
    unpackSign_packComponents, Sign.ofBitVec_toBitVec, notTop, notBottom, ↓reduceIte, mantissa, biased]
  congr 1
  simp only [Format.exponentBias]
  omega

/-- A double in canonical form survives packing and unpacking. -/
theorem unpack_pack_canonical (s : Sign) {m : Nat} {e : Int} (hm : 0 < m)
    (canonical : Canonical m e) :
    (Float.Model.pack (.finite s m e hm)).unpack = .finite s m e hm := by
  by_cases large : 2 ^ 52 ≤ m
  · exact unpack_pack_normal s hm large canonical.lt canonical.least canonical.greatest
  · have least := canonical.normal.resolve_left large
    subst least
    exact unpack_pack_subnormal s hm (by omega)

/-- A number whose exponent is above the greatest overflows to infinity when packed. -/
theorem unpack_pack_overflow (s : Sign) {m : Nat} {e : Int} (hm : 0 < m) (above : 971 < e) :
    (Float.Model.pack (.finite s m e hm)).unpack = .infinity s := by
  rw [unpack_pack]
  simp only [UnpackedFloat.pack, Format.exponentBias, packedInfinity]
  norm_num
  rw [if_pos (by omega : 2048 ≤ (e + 1023 + 52).toNat + 1)]
  simp [UnpackedFloat.unpack]

/-- Unpacking gives a finite value of one of two shapes: a subnormal, whose mantissa lies below
the implicit bit at the least exponent, or a normal, whose mantissa carries the implicit bit and
whose biased exponent is neither zero nor all ones. -/
theorem unpack_finite_cases {spec : Format} {bits : BitVec spec.numBits} {s : Sign} {m : Nat}
    {e : Int} {hm : 0 < m} (unpacked : UnpackedFloat.unpack spec bits = .finite s m e hm) :
    (m < 2 ^ spec.mantissaBitsWithoutImplicit ∧
        e = 1 - (spec.exponentBias + spec.mantissaBitsWithoutImplicit)) ∨
      (2 ^ spec.mantissaBitsWithoutImplicit ≤ m ∧ m < 2 ^ (spec.mantissaBitsWithoutImplicit + 1) ∧
        ∃ biased : Nat, 0 < biased ∧ biased < 2 ^ spec.exponentBits - 1 ∧
          e = biased - (spec.exponentBias + spec.mantissaBitsWithoutImplicit)) := by
  unfold UnpackedFloat.unpack at unpacked
  dsimp only at unpacked
  have fraction := (@unpackMantissa spec bits).isLt
  have biased := (@unpackExponent spec bits).isLt
  split at unpacked
  · split at unpacked <;> cases unpacked
  · rename_i notTop
    split at unpacked
    · -- a zero biased exponent: a subnormal, one above the normals' exponent formula
      rename_i bottom
      split at unpacked
      · cases unpacked
      · cases unpacked
        left
        refine ⟨fraction, ?_⟩
        rw [bottom, BitVec.toNat_zero]
        omega
    · -- a normal: the implicit bit sits above the stored fraction
      rename_i notBottom
      cases unpacked
      have top : (@unpackExponent spec bits).toNat ≠ 2 ^ spec.exponentBits - 1 := by
        intro same
        apply notTop
        apply BitVec.eq_of_toNat_eq
        rw [same, BitVec.neg_one_eq_allOnes, BitVec.toNat_allOnes]
      have bottom : (@unpackExponent spec bits).toNat ≠ 0 :=
        fun same => notBottom (BitVec.eq_of_toNat_eq same)
      have mantissa : (1#1 ++ @unpackMantissa spec bits).toNat =
          2 ^ spec.mantissaBitsWithoutImplicit + (@unpackMantissa spec bits).toNat := by
        simp only [BitVec.toNat_append]
        rw [← Nat.shiftLeft_add_eq_or_of_lt fraction]
        simp [Nat.shiftLeft_eq]
      right
      rw [mantissa]
      refine ⟨by omega, by rw [Nat.pow_succ]; omega, _, Nat.pos_of_ne_zero bottom, by omega, rfl⟩

/-- Unpacking gives a finite double in canonical form. -/
theorem canonical_of_unpack {v : Float.Model} {s : Sign} {m : Nat} {e : Int} {hm : 0 < m}
    (unpacked : v.unpack = .finite s m e hm) : Canonical m e := by
  have shapes := unpack_finite_cases unpacked
  simp only [Format.exponentBias] at shapes
  rcases shapes with ⟨below, least⟩ | ⟨above, below, biased, bottom, top, exponent⟩
  · exact ⟨by omega, by omega, by omega, .inr (by omega)⟩
  · exact ⟨below, by omega, by omega, .inl above⟩

/-! ## Magnitudes -/

/-- The magnitude of a finite double; zero for the others. -/
def magnitude : UnpackedFloat → ℚ
  | .finite _ m e _ => m * 2 ^ e
  | _ => 0

@[simp] theorem magnitude_zero (s : Sign) : magnitude (.zero s) = 0 := rfl

@[simp] theorem magnitude_finite (s : Sign) (m : Nat) (e : Int) (hm : 0 < m) :
    magnitude (.finite s m e hm) = m * 2 ^ e := rfl

theorem magnitude_place (s : Sign) {n : Nat} (f : Int) (bound : n ≤ 2 ^ 53) :
    magnitude (place s n f) = n * 2 ^ f := by
  unfold place
  split_ifs with zero within
  · simp [magnitude, zero]
  · rfl
  · have carry : n = 2 ^ 53 := by omega
    simp only [magnitude, carry, zpow_add₀ (by norm_num : (2 : ℚ) ≠ 0)]
    push_cast
    ring

theorem nearestEven_dropped_le {m a d : Nat} {e : Int} {accuracy : Accuracy}
    (described : Describes (.ofMantissaAndAccuracy m accuracy) a d) :
    nearestEven a (d * 2 ^ dropped m e) ≤ 2 ^ 53 := by
  have floor : a / (d * 2 ^ dropped m e) = m / 2 ^ dropped m e := by
    rw [← Nat.div_div_eq_div_mul, ← described.mantissa, mantissa_ofMantissaAndAccuracy]
  have := nearestEven_le_succ a (d * 2 ^ dropped m e)
  have := div_dropped_lt m e
  omega

/-- A rational bound on the exact value `a / d * 2 ^ e`, against a fraction `p / q` of the unit
`2 ^ (e + k)`, is a bound between naturals. -/
theorem value_le_iff {a d p q k : Nat} {e : Int} (hd : 0 < d) (hq : 0 < q) :
    (a : ℚ) / d * 2 ^ e ≤ p / q * 2 ^ (e + k) ↔ q * a ≤ p * (d * 2 ^ k) := by
  have scale : (0 : ℚ) < 2 ^ e := zpow_pos (by norm_num) e
  have unit : (p : ℚ) / q * 2 ^ (e + k) = p * 2 ^ k / q * 2 ^ e := by
    rw [zpow_add₀ (by norm_num), zpow_natCast]
    ring
  rw [unit, mul_le_mul_iff_of_pos_right scale,
    div_le_div_iff₀ (by exact_mod_cast hd) (by exact_mod_cast hq)]
  norm_cast
  constructor <;> intro h <;> linarith

theorem le_value_iff {a d p q k : Nat} {e : Int} (hd : 0 < d) (hq : 0 < q) :
    (p : ℚ) / q * 2 ^ (e + k) ≤ a / d * 2 ^ e ↔ p * (d * 2 ^ k) ≤ q * a := by
  have scale : (0 : ℚ) < 2 ^ e := zpow_pos (by norm_num) e
  have unit : (p : ℚ) / q * 2 ^ (e + k) = p * 2 ^ k / q * 2 ^ e := by
    rw [zpow_add₀ (by norm_num), zpow_natCast]
    ring
  rw [unit, mul_le_mul_iff_of_pos_right scale,
    div_le_div_iff₀ (by exact_mod_cast hq) (by exact_mod_cast hd)]
  norm_cast
  constructor <;> intro h <;> linarith

section Bounds

variable (s : Sign) {m a d : Nat} {e : Int} {accuracy : Accuracy} (hd : 0 < d)
  (described : Describes (.ofMantissaAndAccuracy m accuracy) a d)
include hd described

/-- The rounded magnitude is the nearest multiple of the unit `2 ^ (e + dropped m e)`. -/
theorem magnitude_roundWithAccuracy :
    magnitude (roundWithAccuracy .binary64 s m e accuracy) =
      nearestEven a (d * 2 ^ dropped m e) * 2 ^ (e + dropped m e) := by
  rw [roundWithAccuracy_eq_place s e hd described,
    magnitude_place s _ (nearestEven_dropped_le described)]

/-- Rounding does not rise above a multiple of its unit that bounds the exact value. -/
theorem magnitude_roundWithAccuracy_le {i : Nat}
    (below : (a : ℚ) / d * 2 ^ e ≤ i * 2 ^ (e + dropped m e)) :
    magnitude (roundWithAccuracy .binary64 s m e accuracy) ≤ i * 2 ^ (e + dropped m e) := by
  have bound : 1 * a ≤ i * (d * 2 ^ dropped m e) :=
    (value_le_iff hd Nat.one_pos).mp (by simpa using below)
  have rounded := nearestEven_le (Nat.mul_pos hd (Nat.two_pow_pos _)) (by simpa using bound)
  rw [magnitude_roundWithAccuracy s hd described]
  exact mul_le_mul_of_nonneg_right (by exact_mod_cast rounded) (by positivity)

/-- Rounding does not fall below a multiple of its unit that the exact value bounds. -/
theorem le_magnitude_roundWithAccuracy {i : Nat}
    (above : (i : ℚ) * 2 ^ (e + dropped m e) ≤ a / d * 2 ^ e) :
    (i : ℚ) * 2 ^ (e + dropped m e) ≤ magnitude (roundWithAccuracy .binary64 s m e accuracy) := by
  have bound : i * (d * 2 ^ dropped m e) ≤ 1 * a :=
    (le_value_iff hd Nat.one_pos).mp (by simpa using above)
  have rounded := le_nearestEven (Nat.mul_pos hd (Nat.two_pow_pos _)) (by simpa using bound)
  rw [magnitude_roundWithAccuracy s hd described]
  exact mul_le_mul_of_nonneg_right (by exact_mod_cast rounded) (by positivity)

/-- An exact value at most half a unit past an even multiple of the unit rounds down to it. -/
theorem magnitude_roundWithAccuracy_le_even {i : Nat} (even : i % 2 = 0)
    (below : (a : ℚ) / d * 2 ^ e ≤ (2 * i + 1 : Nat) / (2 : Nat) * 2 ^ (e + dropped m e)) :
    magnitude (roundWithAccuracy .binary64 s m e accuracy) ≤ i * 2 ^ (e + dropped m e) := by
  have bound := (value_le_iff hd (by norm_num)).mp below
  have rounded := nearestEven_le_even (Nat.mul_pos hd (Nat.two_pow_pos _)) even
    (by rw [← Nat.mul_assoc] at bound; simpa [Nat.mul_assoc] using bound)
  rw [magnitude_roundWithAccuracy s hd described]
  exact mul_le_mul_of_nonneg_right (by exact_mod_cast rounded) (by positivity)

/-- Rounding that starts at or below the target exponent of its magnitude fills 53 bits, unless
it lands on the least exponent. -/
theorem normal_roundWithAccuracy
    (low : e ≤ Format.binary64.targetExponent (totalExponent m e)) :
    2 ^ 52 ≤ nearestEven a (d * 2 ^ dropped m e) ∨ e + dropped m e = -1074 := by
  rw [targetExponent_binary64, totalExponent] at low
  by_cases least : e + dropped m e = -1074
  · exact .inr least
  · left
    have floor : a / (d * 2 ^ dropped m e) = m / 2 ^ dropped m e := by
      rw [← Nat.div_div_eq_div_mul, ← described.mantissa, mantissa_ofMantissaAndAccuracy]
    have bits : m.log2 = 52 + dropped m e := by
      simp only [dropped, targetExponent_binary64, totalExponent] at least ⊢
      omega
    have positive : m ≠ 0 := by
      intro zero
      simp only [zero, Nat.log2_zero] at bits
      simp only [dropped, targetExponent_binary64, totalExponent, zero] at least
      omega
    have large : 2 ^ 52 ≤ m / 2 ^ dropped m e := by
      rw [Nat.le_div_iff_mul_le (Nat.two_pow_pos _), ← Nat.pow_add, ← bits]
      exact Nat.log2_self_le positive
    have := le_nearestEven (Nat.mul_pos hd (Nat.two_pow_pos (dropped m e)))
      (Nat.div_mul_le_self a (d * 2 ^ dropped m e))
    omega

end Bounds

/-! ## Bounded doubles -/

/-- A canonical double below another in exponent is below it in value: the larger exponent
holds a full 53-bit mantissa. -/
theorem value_lt_of_exponent_lt {m₁ m₂ : Nat} {e₁ e₂ : Int} (c₁ : Canonical m₁ e₁)
    (c₂ : Canonical m₂ e₂) (lower : e₁ < e₂) : (m₁ : ℚ) * 2 ^ e₁ < m₂ * 2 ^ e₂ := by
  have full : 2 ^ 52 ≤ m₂ := c₂.normal.resolve_right (by have := c₁.least; omega)
  have step : (2 : ℚ) ^ (e₁ + 1) ≤ 2 ^ e₂ := zpow_le_zpow_right₀ (by norm_num) lower
  calc (m₁ : ℚ) * 2 ^ e₁ < 2 ^ 53 * 2 ^ e₁ := by
        gcongr
        exact_mod_cast c₁.lt
    _ = 2 ^ 52 * 2 ^ (e₁ + 1) := by rw [zpow_add₀ (by norm_num)]; ring
    _ ≤ m₂ * 2 ^ e₂ := by
        gcongr
        exact_mod_cast full

/-- Between canonical positive doubles, the order of values is the order of exponents, then of
mantissas. -/
theorem value_le_value_iff {m₁ m₂ : Nat} {e₁ e₂ : Int} (c₁ : Canonical m₁ e₁)
    (c₂ : Canonical m₂ e₂) :
    (m₁ : ℚ) * 2 ^ e₁ ≤ m₂ * 2 ^ e₂ ↔ e₁ < e₂ ∨ e₁ = e₂ ∧ m₁ ≤ m₂ := by
  constructor
  · intro le
    rcases lt_trichotomy e₁ e₂ with lower | same | higher
    · exact .inl lower
    · subst same
      refine .inr ⟨rfl, ?_⟩
      exact_mod_cast le_of_mul_le_mul_right le (zpow_pos (by norm_num) e₁)
    · exact absurd le (not_le.mpr (value_lt_of_exponent_lt c₂ c₁ higher))
  · rintro (lower | ⟨rfl, le⟩)
    · exact (value_lt_of_exponent_lt c₁ c₂ lower).le
    · exact mul_le_mul_of_nonneg_right (by exact_mod_cast le) (by positivity)

/-- A double that is not negative and at most `b`, in the form unpacking gives it: a zero, or a
positive number in canonical form. -/
def AtMost : UnpackedFloat → ℚ → Prop
  | .zero _, b => 0 ≤ b
  | .finite .positive m e _, b => Canonical m e ∧ (m : ℚ) * 2 ^ e ≤ b
  | _, _ => False

/-- A double at least `b`: positive infinity, or a positive number in canonical form. -/
def AtLeast : UnpackedFloat → ℚ → Prop
  | .infinity .positive, _ => True
  | .finite .positive m e _, b => Canonical m e ∧ b ≤ (m : ℚ) * 2 ^ e
  | _, _ => False

theorem AtMost.mono {u : UnpackedFloat} {b b' : ℚ} (bounded : AtMost u b) (le : b ≤ b') :
    AtMost u b' := by
  match u, bounded with
  | .zero _, bounded => exact le_trans bounded le
  | .finite .positive _ _ _, ⟨canonical, bounded⟩ => exact ⟨canonical, le_trans bounded le⟩

/-- A bounded double survives packing and unpacking. -/
theorem AtMost.unpack_pack {u : UnpackedFloat} {b : ℚ} (bounded : AtMost u b) :
    (Float.Model.pack u).unpack = u := by
  match u, bounded with
  | .zero s, _ => exact unpack_pack_zero s
  | .finite .positive _ _ hm, ⟨canonical, _⟩ => exact unpack_pack_canonical .positive hm canonical

/-- Rounding's placement of a mantissa of at most 53 bits, full unless at the least exponent, is
a bounded double of its value. -/
theorem atMost_place {n : Nat} {f : Int} (bound : n ≤ 2 ^ 53) (least : -1074 ≤ f)
    (normal : 2 ^ 52 ≤ n ∨ f = -1074) (greatest : f ≤ 970) :
    AtMost (place .positive n f) (n * 2 ^ f) := by
  unfold place
  split_ifs with zero within
  · simp [AtMost, zero]
  · exact ⟨⟨within, least, by omega, normal⟩, le_rfl⟩
  · refine ⟨⟨by norm_num, by omega, by omega, .inl le_rfl⟩, ?_⟩
    have carry : n = 2 ^ 53 := by omega
    rw [carry, zpow_add₀ (by norm_num)]
    push_cast
    ring_nf
    rfl

/-! ## Comparisons -/

theorem isLE_then_iff {e₁ e₂ : Int} {m₁ m₂ : Nat} :
    ((compare e₁ e₂).then (compare m₁ m₂)).isLE = true ↔ e₁ < e₂ ∨ e₁ = e₂ ∧ m₁ ≤ m₂ := by
  rcases lt_trichotomy e₁ e₂ with lower | rfl | higher
  · simp [Int.compare_eq_lt.mpr lower, lower]
  · rcases lt_trichotomy m₁ m₂ with less | rfl | more
    · simp [Nat.compare_eq_lt.mpr less, less.le]
    · simp
    · simp [Nat.compare_eq_gt.mpr more, more]
  · simp [Int.compare_eq_gt.mpr higher, higher.ne', not_lt.mpr higher.le]

theorem then_eq_lt_iff {e₁ e₂ : Int} {m₁ m₂ : Nat} :
    (compare e₁ e₂).then (compare m₁ m₂) = .lt ↔ e₁ < e₂ ∨ e₁ = e₂ ∧ m₁ < m₂ := by
  rcases lt_trichotomy e₁ e₂ with lower | rfl | higher
  · simp [Int.compare_eq_lt.mpr lower, lower]
  · rcases lt_trichotomy m₁ m₂ with less | rfl | more
    · simp [Nat.compare_eq_lt.mpr less, less]
    · simp
    · simp [Nat.compare_eq_gt.mpr more, not_lt.mpr more.le]
  · simp [Int.compare_eq_gt.mpr higher, not_lt.mpr higher.le, higher.ne']

theorem le_iff_unpack {x y : Float} : x ≤ y ↔ x.toModel.unpack.le y.toModel.unpack = true := by
  show Float.le x y = true ↔ _
  simp only [Float.le, LE.le, Float.Model.le]
  exact decide_eq_true_iff

theorem lt_iff_unpack {x y : Float} : x < y ↔ x.toModel.unpack.lt y.toModel.unpack = true := by
  show Float.lt x y = true ↔ _
  simp only [Float.lt, LT.lt, Float.Model.lt]
  exact decide_eq_true_iff

theorem unpack_zero : (0.0 : Float).toModel.unpack = .zero .positive := rfl

theorem unpack_one : (1.0 : Float).toModel.unpack = .finite .positive (2 ^ 52) (-52) (by decide) :=
  rfl

theorem canonical_one : Canonical (2 ^ 52) (-52) := ⟨by norm_num, by norm_num, by norm_num, .inl le_rfl⟩

theorem value_one : ((2 ^ 52 : Nat) : ℚ) * 2 ^ (-52 : Int) = 1 := by norm_num

/-- A double that is not negative and at most one is a valid reward. -/
theorem isValid_of_atMost {r : Float} (bounded : AtMost r.toModel.unpack 1) :
    Reward.isValid r = true := by
  simp only [Reward.isValid, Bool.and_eq_true, decide_eq_true_eq, le_iff_unpack, unpack_zero,
    unpack_one]
  have finite : r.isFinite = true ↔ r.toModel.unpack.isFinite = true := Iff.rfl
  rw [finite]
  match r.toModel.unpack, bounded with
  | .zero s, _ => cases s <;> exact ⟨⟨rfl, rfl⟩, rfl⟩
  | .finite .positive m e _, ⟨canonical, bounded⟩ =>
    refine ⟨⟨rfl, rfl⟩, ?_⟩
    rw [← value_one, value_le_value_iff canonical canonical_one, ← isLE_then_iff] at bounded
    simpa [UnpackedFloat.le, UnpackedFloat.compare] using bounded

/-! ## Rounding an exact value -/

/-- Rounding that starts at or below the target exponent of its magnitude gives a bounded double
of its own magnitude. -/
theorem atMost_roundWithAccuracy {m a d : Nat} {e : Int} {accuracy : Accuracy} (hd : 0 < d)
    (described : Describes (.ofMantissaAndAccuracy m accuracy) a d)
    (low : e ≤ Format.binary64.targetExponent (totalExponent m e))
    (greatest : e + dropped m e ≤ 970) :
    AtMost (roundWithAccuracy .binary64 .positive m e accuracy)
      (magnitude (roundWithAccuracy .binary64 .positive m e accuracy)) := by
  rw [roundWithAccuracy_eq_place .positive e hd described,
    magnitude_place .positive _ (nearestEven_dropped_le described)]
  exact atMost_place (nearestEven_dropped_le described) (least_le_shifted m e)
    (normal_roundWithAccuracy hd described low) greatest

theorem log2_shiftLeft {m : Nat} (hm : m ≠ 0) (k : Nat) : (m <<< k).log2 = m.log2 + k := by
  induction k with
  | zero => simp
  | succ k ih =>
    have shifted : m <<< k ≠ 0 := by rw [Nat.shiftLeft_eq]; positivity
    rw [Nat.shiftLeft_succ, Nat.log2_two_mul shifted, ih, Nat.add_assoc]

theorem decreaseExponent_value (m : Nat) (e t : Int) :
    ((decreaseExponent m e t).1 : ℚ) * 2 ^ (decreaseExponent m e t).2 = m * 2 ^ e := by
  simp only [decreaseExponent, Nat.shiftLeft_eq, Nat.cast_mul, Nat.cast_pow, Nat.cast_ofNat]
  rw [← zpow_natCast, mul_assoc, ← zpow_add₀ (by norm_num)]
  congr 2
  omega

/-- Moving a mantissa down to the target exponent keeps its total exponent, so rounding starts
at or below its target. -/
theorem decreaseExponent_low {m : Nat} (hm : m ≠ 0) (e : Int) :
    let lowered := decreaseExponent m e (Format.binary64.targetExponent (totalExponent m e))
    lowered.2 ≤ Format.binary64.targetExponent (totalExponent lowered.1 lowered.2) ∧
      lowered.2 + dropped lowered.1 lowered.2 =
        Format.binary64.targetExponent (totalExponent m e) := by
  simp only [decreaseExponent, dropped, totalExponent, log2_shiftLeft hm, targetExponent_binary64]
  omega

/-- Rounding an exact value is rounding, from at or below its target exponent, the same value
moved down to that exponent. -/
theorem round_spec {m : Nat} (hm : m ≠ 0) (e : Int) :
    ∃ m' e', round .binary64 .positive m e = roundWithAccuracy .binary64 .positive m' e' .exact ∧
      (m' : ℚ) * 2 ^ e' = m * 2 ^ e ∧
      e' ≤ Format.binary64.targetExponent (totalExponent m' e') ∧
      e' + dropped m' e' = Format.binary64.targetExponent (totalExponent m e) :=
  ⟨_, _, rfl, decreaseExponent_value m e _, decreaseExponent_low hm e⟩

section Round

variable {m : Nat} (hm : m ≠ 0) {e : Int}
include hm

/-- Rounding an exact value does not rise above a multiple of its unit that bounds it. -/
theorem magnitude_round_le {i : Nat}
    (below : (m : ℚ) * 2 ^ e ≤ i * 2 ^ Format.binary64.targetExponent (totalExponent m e)) :
    magnitude (round .binary64 .positive m e) ≤
      i * 2 ^ Format.binary64.targetExponent (totalExponent m e) := by
  obtain ⟨m', e', rounded, value, -, unit⟩ := round_spec hm e
  rw [rounded, ← unit]
  refine magnitude_roundWithAccuracy_le .positive Nat.one_pos (describes_exact m') ?_
  rwa [Nat.cast_one, div_one, value, unit]

/-- Rounding an exact value does not fall below a multiple of its unit that it bounds. -/
theorem le_magnitude_round {i : Nat}
    (above : (i : ℚ) * 2 ^ Format.binary64.targetExponent (totalExponent m e) ≤ m * 2 ^ e) :
    (i : ℚ) * 2 ^ Format.binary64.targetExponent (totalExponent m e) ≤
      magnitude (round .binary64 .positive m e) := by
  obtain ⟨m', e', rounded, value, -, unit⟩ := round_spec hm e
  rw [rounded, ← unit]
  refine le_magnitude_roundWithAccuracy .positive Nat.one_pos (describes_exact m') ?_
  rwa [Nat.cast_one, div_one, value, unit]

/-- An exact value at most half a unit past an even multiple of the unit rounds down to it. -/
theorem magnitude_round_le_even {i : Nat} (even : i % 2 = 0)
    (below : (m : ℚ) * 2 ^ e ≤
      (2 * i + 1 : Nat) / (2 : Nat) * 2 ^ Format.binary64.targetExponent (totalExponent m e)) :
    magnitude (round .binary64 .positive m e) ≤
      i * 2 ^ Format.binary64.targetExponent (totalExponent m e) := by
  obtain ⟨m', e', rounded, value, -, unit⟩ := round_spec hm e
  rw [rounded, ← unit]
  refine magnitude_roundWithAccuracy_le_even .positive Nat.one_pos (describes_exact m') even ?_
  rwa [Nat.cast_one, div_one, value, unit]

/-- Rounding an exact value gives a bounded double of its own magnitude, when the target exponent
leaves room for a carry. -/
theorem atMost_round_self (greatest : Format.binary64.targetExponent (totalExponent m e) ≤ 970) :
    AtMost (round .binary64 .positive m e) (magnitude (round .binary64 .positive m e)) := by
  obtain ⟨m', e', rounded, -, low, unit⟩ := round_spec hm e
  rw [rounded]
  exact atMost_roundWithAccuracy Nat.one_pos (describes_exact m') low (unit ▸ greatest)

end Round

/-! ## Sums of scores -/

/-- A positive mantissa is at least the power of two of its leading bit. -/
theorem two_zpow_le_value {m : Nat} (hm : m ≠ 0) (e : Int) : (2 : ℚ) ^ (m.log2 + e) ≤ m * 2 ^ e := by
  rw [zpow_add₀ (by norm_num), zpow_natCast]
  exact mul_le_mul_of_nonneg_right (by exact_mod_cast Nat.log2_self_le hm) (by positivity)

/-- An exact value at most `2 ^ 53` rounds at an exponent at most one. -/
theorem target_le_one {m : Nat} (hm : m ≠ 0) {e : Int} (below : (m : ℚ) * 2 ^ e ≤ 2 ^ 53) :
    Format.binary64.targetExponent (totalExponent m e) ≤ 1 := by
  have bits : (m.log2 : Int) + e ≤ 53 := by
    have := le_trans (two_zpow_le_value hm e) below
    rw [show (2 : ℚ) ^ 53 = 2 ^ (53 : Int) by norm_num] at this
    exact (zpow_le_zpow_iff_right₀ (by norm_num)).mp this
  rw [targetExponent_binary64, totalExponent]
  omega

/-- An integer `n ≤ 2 ^ 53` at least an exact value is a whole number of the units that value
rounds to. -/
theorem exists_units {m n : Nat} (hm : m ≠ 0) {e : Int} (below : (m : ℚ) * 2 ^ e ≤ n)
    (fits : n ≤ 2 ^ 53) :
    ∃ i : Nat, (i : ℚ) * 2 ^ Format.binary64.targetExponent (totalExponent m e) = n := by
  have small := target_le_one hm (le_trans below (by exact_mod_cast fits))
  generalize target : Format.binary64.targetExponent (totalExponent m e) = t at small
  by_cases whole : t ≤ 0
  · refine ⟨n * 2 ^ (-t).toNat, ?_⟩
    rw [Nat.cast_mul, Nat.cast_pow, Nat.cast_two, mul_assoc, ← zpow_natCast, ← zpow_add₀ (by norm_num),
      show (((-t).toNat : Nat) : Int) + t = 0 by omega, zpow_zero, mul_one]
  · -- a unit of two: the leading bit is the 54th, so the value and `n` are both `2 ^ 53`
    have bits : (m.log2 : Int) + e = 53 := by
      rw [targetExponent_binary64, totalExponent] at target
      omega
    have top : (2 : ℚ) ^ 53 ≤ n := by
      have := le_trans (two_zpow_le_value hm e) below
      rwa [bits] at this
    have exact : n = 2 ^ 53 := le_antisymm fits (by exact_mod_cast top)
    refine ⟨2 ^ 52, ?_⟩
    rw [show t = 1 by omega, exact]
    norm_num

/-- Rounding an exact positive value at most an integer `n ≤ 2 ^ 53` gives a double at most `n`. -/
theorem atMost_round {m n : Nat} {e : Int} (hm : m ≠ 0) (below : (m : ℚ) * 2 ^ e ≤ n)
    (fits : n ≤ 2 ^ 53) : AtMost (round .binary64 .positive m e) n := by
  obtain ⟨i, units⟩ := exists_units hm below fits
  have small := target_le_one hm (le_trans below (by exact_mod_cast fits))
  refine (atMost_round_self hm (by omega)).mono ?_
  rw [← units] at below ⊢
  exact magnitude_round_le hm below

/-- A positive mantissa is below the power of two past its leading bit. -/
theorem value_lt_two_zpow (m : Nat) (e : Int) : (m : ℚ) * 2 ^ e < 2 ^ (m.log2 + 1 + e) := by
  rw [zpow_add₀ (by norm_num), ← Nat.cast_one, ← Nat.cast_add, zpow_natCast]
  exact mul_lt_mul_of_pos_right (by exact_mod_cast Nat.lt_log2_self) (zpow_pos (by norm_num) e)

/-- An exact positive value at most `2 ^ 53 + 1` rounds to at most `2 ^ 53`: past `2 ^ 53` the
unit is two, and `2 ^ 53 + 1` is a tie that goes to the even `2 ^ 53`. -/
theorem atMost_round_tie {m : Nat} {e : Int} (hm : m ≠ 0) (below : (m : ℚ) * 2 ^ e ≤ 2 ^ 53 + 1) :
    AtMost (round .binary64 .positive m e) (2 ^ 53) := by
  by_cases within : (m : ℚ) * 2 ^ e ≤ 2 ^ 53
  · exact_mod_cast atMost_round (n := 2 ^ 53) hm (by exact_mod_cast within) le_rfl
  have bits : (m.log2 : Int) + e = 53 := by
    have above := lt_of_lt_of_le (not_le.mp within) (le_of_lt (value_lt_two_zpow m e))
    have under := lt_of_le_of_lt (two_zpow_le_value hm e)
      (lt_of_le_of_lt below (by norm_num : (2 : ℚ) ^ 53 + 1 < 2 ^ (54 : Int)))
    rw [show (2 : ℚ) ^ 53 = 2 ^ (53 : Int) by norm_num] at above
    have := (zpow_lt_zpow_iff_right₀ (by norm_num)).mp above
    have := (zpow_lt_zpow_iff_right₀ (by norm_num)).mp under
    omega
  have target : Format.binary64.targetExponent (totalExponent m e) = 1 := by
    rw [targetExponent_binary64, totalExponent]
    omega
  refine (atMost_round_self hm (by omega)).mono ?_
  have rounded := magnitude_round_le_even hm (i := 2 ^ 52) (by norm_num)
    (by rw [target]; exact le_trans below (le_of_eq (by norm_num)))
  rw [target] at rounded
  norm_num at rounded ⊢
  exact rounded

/-- Adding two positive doubles rounds the sum of their mantissas, aligned at the smaller
exponent. -/
theorem add_positive (m₁ m₂ : Nat) (e₁ e₂ : Int) (h₁ : 0 < m₁) (h₂ : 0 < m₂) :
    UnpackedFloat.add .binary64 (.finite .positive m₁ e₁ h₁) (.finite .positive m₂ e₂ h₂) =
      round .binary64 .positive
        ((decreaseExponent m₁ e₁ (min e₁ e₂)).1 + (decreaseExponent m₂ e₂ (min e₁ e₂)).1)
        (min e₁ e₂) := by
  have positive : 0 < (decreaseExponent m₁ e₁ (min e₁ e₂)).1 := by
    simp only [decreaseExponent, Nat.shiftLeft_eq]
    positivity
  simp only [UnpackedFloat.add, UnpackedFloat.normalize, Sign.apply]
  rw [Int.compare_eq_gt.mpr (by omega)]
  simp only
  congr 1

/-- The aligned mantissas of a sum add up to its exact value. -/
theorem aligned_value (m₁ m₂ : Nat) (e₁ e₂ : Int) :
    (((decreaseExponent m₁ e₁ (min e₁ e₂)).1 + (decreaseExponent m₂ e₂ (min e₁ e₂)).1 : Nat) : ℚ) *
        2 ^ min e₁ e₂ = m₁ * 2 ^ e₁ + m₂ * 2 ^ e₂ := by
  have left := decreaseExponent_value m₁ e₁ (min e₁ e₂)
  have right := decreaseExponent_value m₂ e₂ (min e₁ e₂)
  have same₁ : (decreaseExponent m₁ e₁ (min e₁ e₂)).2 = min e₁ e₂ := by
    simp only [decreaseExponent]; omega
  have same₂ : (decreaseExponent m₂ e₂ (min e₁ e₂)).2 = min e₁ e₂ := by
    simp only [decreaseExponent]; omega
  rw [same₁] at left
  rw [same₂] at right
  push_cast
  rw [add_mul, left, right]

/-- A running sum of `k` doubles that are at most one each stays at most `min k (2 ^ 53)`: one more
such double keeps the bound for `k + 1`. -/
theorem atMost_add {u c : UnpackedFloat} {k : Nat} (sum : AtMost u (min k (2 ^ 53) : Nat))
    (score : AtMost c 1) : AtMost (UnpackedFloat.add .binary64 u c) (min (k + 1) (2 ^ 53) : Nat) := by
  have grows : ((min k (2 ^ 53) : Nat) : ℚ) ≤ (min (k + 1) (2 ^ 53) : Nat) := by
    exact_mod_cast min_le_min_right _ (Nat.le_succ k)
  have one : (1 : ℚ) ≤ (min (k + 1) (2 ^ 53) : Nat) := by
    exact_mod_cast Nat.le_min.mpr ⟨by omega, Nat.one_le_two_pow⟩
  match u, c, sum, score with
  | .zero _, .zero _, _, _ =>
    simp only [UnpackedFloat.add]
    split <;> exact Nat.cast_nonneg _
  | .zero _, .finite .positive _ _ _, _, score => exact score.mono one
  | .finite .positive _ _ _, .zero _, sum, _ => exact sum.mono grows
  | .finite .positive m₁ e₁ h₁, .finite .positive m₂ e₂ h₂, ⟨_, sum⟩, ⟨_, score⟩ =>
    rw [add_positive]
    have value := aligned_value m₁ m₂ e₁ e₂
    have positive : 0 < (decreaseExponent m₁ e₁ (min e₁ e₂)).1 +
        (decreaseExponent m₂ e₂ (min e₁ e₂)).1 := by
      simp only [decreaseExponent, Nat.shiftLeft_eq]
      positivity
    by_cases room : k + 1 ≤ 2 ^ 53
    · have bound : min (k + 1) (2 ^ 53) = k + 1 := min_eq_left room
      have earlier : ((min k (2 ^ 53) : Nat) : ℚ) = k := by
        rw [min_eq_left (by omega)]
      rw [bound]
      refine atMost_round (Nat.pos_iff_ne_zero.mp positive) ?_ room
      rw [value]
      push_cast
      linarith
    · have bound : min (k + 1) (2 ^ 53) = 2 ^ 53 := min_eq_right (by omega)
      have earlier : ((min k (2 ^ 53) : Nat) : ℚ) = 2 ^ 53 := by
        rw [min_eq_right (by omega)]
        norm_num
      rw [bound]
      have tie := atMost_round_tie (Nat.pos_iff_ne_zero.mp positive) (by rw [value]; linarith)
      exact_mod_cast tie

/-- A finite score clamped into `[0, 1]` is a double that is not negative and at most one. -/
theorem atMost_clampScore {x : Float} (finite : x.isFinite = true) :
    AtMost (clampScore x).toModel.unpack 1 := by
  unfold clampScore
  split_ifs with negative above
  · rw [unpack_zero]
    exact zero_le_one
  · rw [unpack_one]
    exact ⟨canonical_one, le_of_eq value_one⟩
  · rw [lt_iff_unpack, unpack_zero] at negative
    rw [gt_iff_lt, lt_iff_unpack, unpack_one] at above
    have finite : x.toModel.unpack.isFinite = true := finite
    match unpacked : x.toModel.unpack with
    | .zero _ => exact zero_le_one
    | .finite .negative _ _ _ =>
      rw [unpacked] at negative
      exact absurd rfl negative
    | .finite .positive m e _ =>
      have canonical := canonical_of_unpack unpacked
      rw [unpacked] at above
      refine ⟨canonical, ?_⟩
      have notAbove : ¬((-52 : Int) < e ∨ -52 = e ∧ 2 ^ 52 < m) := by
        rw [← then_eq_lt_iff]
        simpa [UnpackedFloat.lt, UnpackedFloat.compare] using above
      rw [← value_one, value_le_value_iff canonical canonical_one]
      omega
    | .infinity _ => simp [unpacked, UnpackedFloat.isFinite] at finite
    | .notANumber => simp [unpacked, UnpackedFloat.isFinite] at finite

/-! ## Counts -/

theorem nearestEven_mul (i : Nat) {d : Nat} (hd : 0 < d) : nearestEven (i * d) d = i :=
  le_antisymm (nearestEven_le hd le_rfl) (le_nearestEven hd le_rfl)

/-- A canonical double sits at the target exponent of its own magnitude. -/
theorem target_canonical {m : Nat} {e : Int} (hm : m ≠ 0) (canonical : Canonical m e) :
    Format.binary64.targetExponent (totalExponent m e) = e := by
  have bits : m.log2 < 53 := (Nat.log2_lt hm).mpr canonical.lt
  have least := canonical.least
  rw [targetExponent_binary64, totalExponent]
  rcases canonical.normal with full | subnormal
  · have : 52 ≤ m.log2 := (Nat.le_log2 hm).mpr full
    omega
  · omega

/-- Multiplying a canonical positive double by one gives it back. -/
theorem mul_one_canonical {m : Nat} {e : Int} (hm : 0 < m) (canonical : Canonical m e) :
    UnpackedFloat.mul .binary64 (.finite .positive m e hm) (.finite .positive (2 ^ 52) (-52) (by decide)) =
      .finite .positive m e hm := by
  have nonzero := Nat.pos_iff_ne_zero.mp hm
  have target := target_canonical nonzero canonical
  have shift : dropped (m * 2 ^ 52) (e + -52) = 52 := by
    have bits := log2_shiftLeft nonzero 52
    rw [Nat.shiftLeft_eq] at bits
    rw [targetExponent_binary64, totalExponent] at target
    simp only [dropped, targetExponent_binary64, totalExponent, bits]
    omega
  simp only [UnpackedFloat.mul]
  rw [show Sign.positive * Sign.positive = Sign.positive from rfl,
    roundWithAccuracy_eq_place .positive _ Nat.one_pos (describes_exact _), shift, Nat.one_mul,
    nearestEven_mul m (Nat.two_pow_pos 52)]
  unfold place
  rw [dif_neg nonzero, if_pos canonical.lt]
  congr 1
  omega

/-- A count below `2 ^ 53` rounds to itself. -/
theorem round_count {n : Nat} (hn : n ≠ 0) (small : n ≤ 2 ^ 53) :
    AtMost (round .binary64 .positive n 0) n ∧ AtLeast (round .binary64 .positive n 0) n := by
  have value : (n : ℚ) * 2 ^ (0 : Int) = n := by simp
  have bounded := atMost_round hn value.le small
  obtain ⟨i, units⟩ := exists_units hn value.le small
  have above := le_magnitude_round hn (i := i) (by rw [units, value])
  rw [units] at above
  refine ⟨bounded, ?_⟩
  generalize round .binary64 .positive n 0 = r at bounded above
  match r, bounded with
  | .zero _, _ =>
    rw [magnitude_zero] at above
    exact absurd above (not_le.mpr (by exact_mod_cast Nat.pos_of_ne_zero hn))
  | .finite .positive m e _, ⟨canonical, _⟩ =>
    rw [magnitude_finite] at above
    exact ⟨canonical, above⟩

/-- A positive count below `2 ^ 53` converts to the double that rounding the count gives. -/
theorem unpack_toFloat_small {n : Nat} (hn : n ≠ 0) (small : n < 2 ^ 53) :
    n.toFloat.toModel.unpack = round .binary64 .positive n 0 := by
  have converted : n.toFloat = n.toUInt64.toFloat * Float.exactlyRepresentablePowersOfTen[0] := by
    simp only [Nat.toFloat, Float.ofNat, OfScientific.ofScientific, Float.ofScientific]
    rw [dif_pos ⟨small, by decide⟩]
    rfl
  have counted : n.toUInt64.toFloat.toModel.unpack =
      (Float.Model.pack (round .binary64 .positive n 0)).unpack := by
    have fits : n.toUInt64.toNat = n := by simp; omega
    simp only [UInt64.toFloat, Float.Model.ofUInt64, UnpackedFloat.ofUInt64, UnpackedFloat.ofNat,
      UnpackedFloat.ofInt, UnpackedFloat.normalize, fits]
    rw [Int.compare_eq_gt.mpr (by omega)]
    rfl
  obtain ⟨bounded, atLeast⟩ := round_count hn small.le
  rw [bounded.unpack_pack] at counted
  match rounded : round .binary64 .positive n 0, atLeast, bounded with
  | .finite .positive m e positive, ⟨canonical, _⟩, bounded =>
    rw [rounded] at counted
    have product : (n.toFloat).toModel.unpack = (Float.Model.pack (UnpackedFloat.mul .binary64
        (.finite .positive m e positive) (.finite .positive (2 ^ 52) (-52) (by decide)))).unpack := by
      rw [converted]
      show (Float.Model.pack (UnpackedFloat.mul .binary64 n.toUInt64.toFloat.toModel.unpack
        Float.exactlyRepresentablePowersOfTen[0].toModel.unpack)).unpack = _
      rw [counted]
      rfl
    rw [product, mul_one_canonical positive canonical, bounded.unpack_pack]

/-- A positive count below `2 ^ 53` converts to a double of exactly that value. -/
theorem atLeast_toFloat_small {n : Nat} (hn : n ≠ 0) (small : n < 2 ^ 53) :
    AtLeast n.toFloat.toModel.unpack n := by
  rw [unpack_toFloat_small hn small]
  exact (round_count hn small.le).2

theorem AtLeast.mono {u : UnpackedFloat} {b b' : ℚ} (bounded : AtLeast u b) (le : b' ≤ b) :
    AtLeast u b' := by
  match u, bounded with
  | .infinity .positive, _ => trivial
  | .finite .positive _ _ _, ⟨canonical, bounded⟩ => exact ⟨canonical, le_trans le bounded⟩

/-- A full positive mantissa at an exponent of at least one is at least `2 ^ 53`, and packing it
keeps it so: in canonical form, or as infinity once the exponent overflows. -/
theorem atLeast_pack_finite {n : Nat} {f : Int} (hn : 0 < n) (full : 2 ^ 52 ≤ n) (within : n < 2 ^ 53)
    (high : 1 ≤ f) : AtLeast (Float.Model.pack (.finite .positive n f hn)).unpack (2 ^ 53) := by
  by_cases fits : f ≤ 971
  · rw [unpack_pack_canonical .positive hn ⟨within, by omega, fits, .inl full⟩]
    refine ⟨⟨within, by omega, fits, .inl full⟩, ?_⟩
    calc ((2 : ℚ) ^ 53) = 2 ^ 52 * 2 ^ (1 : Int) := by norm_num
      _ ≤ (n : ℚ) * 2 ^ f :=
        mul_le_mul (by exact_mod_cast full) (zpow_le_zpow_right₀ (by norm_num) high) (by positivity)
          (by positivity)
  · rw [unpack_pack_overflow .positive hn (by omega)]
    trivial

theorem atLeast_pack_place {n : Nat} {f : Int} (full : 2 ^ 52 ≤ n) (bound : n ≤ 2 ^ 53) (high : 1 ≤ f) :
    AtLeast (Float.Model.pack (place .positive n f)).unpack (2 ^ 53) := by
  unfold place
  rw [dif_neg (by omega)]
  split_ifs with within
  · exact atLeast_pack_finite _ full within high
  · exact atLeast_pack_finite _ le_rfl (by norm_num) (by omega)

/-- A count of at least `2 ^ 53` converts to a double at least `2 ^ 53`. -/
theorem atLeast_toFloat_large {n : Nat} (large : 2 ^ 53 ≤ n) :
    AtLeast n.toFloat.toModel.unpack (2 ^ 53) := by
  have nonzero : n ≠ 0 := by omega
  have converted : n.toFloat.toModel = Float.Model.pack (UnpackedFloat.ofScientific .binary64 n 0) := by
    simp only [Nat.toFloat, Float.ofNat, OfScientific.ofScientific, Float.ofScientific]
    rw [dif_neg (by omega)]
    rfl
  have scaled : UnpackedFloat.ofScientific .binary64 n 0 =
      roundWithAccuracy .binary64 .positive (n * 2 ^ 53) (-53) .exact := by
    simp only [UnpackedFloat.ofScientific, UnpackedFloat.mul, nonzero, Nat.shiftLeft_eq]
    rw [dif_neg not_false, if_neg (by norm_num), if_neg (by omega), if_pos le_rfl]
    congr 1
    simp [Format.mantissaBits]
  have bits : 106 ≤ (n * 2 ^ 53).log2 := by
    rw [← Nat.shiftLeft_eq, log2_shiftLeft nonzero]
    have := (Nat.le_log2 nonzero).mpr large
    omega
  have target : Format.binary64.targetExponent (totalExponent (n * 2 ^ 53) (-53)) =
      ((n * 2 ^ 53).log2 : Int) - 105 := by
    rw [targetExponent_binary64, totalExponent]
    omega
  have low : (-53 : Int) ≤ Format.binary64.targetExponent (totalExponent (n * 2 ^ 53) (-53)) := by
    rw [target]
    omega
  have high : 1 ≤ -53 + (dropped (n * 2 ^ 53) (-53) : Int) := by
    rw [dropped, target]
    omega
  have described := describes_exact (n * 2 ^ 53)
  have full := (normal_roundWithAccuracy Nat.one_pos described low).resolve_right (by omega)
  rw [converted, scaled, roundWithAccuracy_eq_place .positive _ Nat.one_pos described]
  exact atLeast_pack_place (by simpa using full)
    (by simpa using nearestEven_dropped_le described) high

/-- A positive count converts to a double at least the count, or at least `2 ^ 53`. -/
theorem atLeast_toFloat {n : Nat} (hn : n ≠ 0) :
    AtLeast n.toFloat.toModel.unpack (min n (2 ^ 53) : Nat) := by
  by_cases small : n < 2 ^ 53
  · rw [min_eq_left small.le]
    exact atLeast_toFloat_small hn small
  · rw [min_eq_right (by omega)]
    exact_mod_cast atLeast_toFloat_large (by omega)

/-! ## Quotients -/

section Quotient

variable {m₁ m₂ : Nat} {e₁ e₂ : Int}

/-- The exponent the quotient of two doubles is first computed at. -/
def quotientExponent (m₁ : Nat) (e₁ : Int) (m₂ : Nat) (e₂ : Int) : Int :=
  min (e₁ - e₂) (Format.binary64.targetExponent (totalExponent m₁ e₁ - totalExponent m₂ e₂))

/-- The dividend shifted to give the quotient its bits. -/
def dividend (m₁ : Nat) (e₁ : Int) (m₂ : Nat) (e₂ : Int) : Nat :=
  m₁ <<< (e₁ - e₂ - quotientExponent m₁ e₁ m₂ e₂).toNat

theorem divCore_eq : divCore .binary64 m₁ e₁ m₂ e₂ =
    (dividend m₁ e₁ m₂ e₂ / m₂, quotientExponent m₁ e₁ m₂ e₂,
      accuracyOfFraction (dividend m₁ e₁ m₂ e₂ % m₂) m₂) := rfl

/-- The quotient and remainder describe the shifted dividend over the divisor. -/
theorem describes_quotient (h₂ : 0 < m₂) :
    Describes (.ofMantissaAndAccuracy (divCore .binary64 m₁ e₁ m₂ e₂).1 (divCore .binary64 m₁ e₁ m₂ e₂).2.2)
      (dividend m₁ e₁ m₂ e₂) m₂ := by
  rw [divCore_eq]
  have described := describes_fraction (q := dividend m₁ e₁ m₂ e₂ / m₂)
    (Nat.mod_lt (dividend m₁ e₁ m₂ e₂) h₂)
  rwa [Nat.div_add_mod'] at described

/-- The shifted dividend over the divisor, at the quotient exponent, is the exact quotient. -/
theorem dividend_value (h₂ : 0 < m₂) :
    (dividend m₁ e₁ m₂ e₂ : ℚ) / m₂ * 2 ^ quotientExponent m₁ e₁ m₂ e₂ =
      m₁ * 2 ^ e₁ / (m₂ * 2 ^ e₂) := by
  have exponent : ((e₁ - e₂ - quotientExponent m₁ e₁ m₂ e₂).toNat : Int) +
      quotientExponent m₁ e₁ m₂ e₂ = e₁ - e₂ := by
    simp only [quotientExponent]
    omega
  have hm₂ : (m₂ : ℚ) ≠ 0 := by exact_mod_cast h₂.ne'
  rw [dividend, Nat.shiftLeft_eq, Nat.cast_mul, Nat.cast_pow, Nat.cast_two, ← zpow_natCast,
    div_mul_eq_mul_div, mul_assoc, ← zpow_add₀ (by norm_num), exponent, zpow_sub₀ (by norm_num)]
  field_simp

/-- The quotient of a positive double by one at least as large is first computed at an exponent
at most `-53`: the estimate from the leading bits is at most zero, less 53. -/
theorem quotientExponent_le (h₁ : 0 < m₁)
    (ratio : (m₁ : ℚ) * 2 ^ e₁ ≤ m₂ * 2 ^ e₂) : quotientExponent m₁ e₁ m₂ e₂ ≤ -53 := by
  have leading := lt_of_le_of_lt (le_trans (two_zpow_le_value h₁.ne' e₁) ratio)
    (value_lt_two_zpow m₂ e₂)
  have bits := (zpow_lt_zpow_iff_right₀ (by norm_num : (1 : ℚ) < 2)).mp leading
  simp only [quotientExponent, targetExponent_binary64, totalExponent]
  omega

/-- When the dividend's mantissa has at most 53 bits, the quotient is first computed at or below
the target exponent of its own magnitude. -/
theorem quotientExponent_low (h₁ : 0 < m₁) (h₂ : 0 < m₂) (small : m₁ < 2 ^ 53) :
    quotientExponent m₁ e₁ m₂ e₂ ≤ Format.binary64.targetExponent
      (totalExponent (dividend m₁ e₁ m₂ e₂ / m₂) (quotientExponent m₁ e₁ m₂ e₂)) := by
  have bits₁ : m₁.log2 < 53 := (Nat.log2_lt h₁.ne').mpr small
  rw [targetExponent_binary64, totalExponent]
  by_cases least : quotientExponent m₁ e₁ m₂ e₂ ≤ -1074
  · omega
  -- above the least exponent the estimate from the leading bits is used, and the shifted
  -- dividend gives the quotient a full 53 bits
  have estimate : quotientExponent m₁ e₁ m₂ e₂ = m₁.log2 + e₁ - (m₂.log2 + e₂) - 53 := by
    simp only [quotientExponent, targetExponent_binary64, totalExponent] at least ⊢
    omega
  have shift : (e₁ - e₂ - quotientExponent m₁ e₁ m₂ e₂).toNat = m₂.log2 + 53 - m₁.log2 := by
    omega
  have full : 2 ^ 52 ≤ dividend m₁ e₁ m₂ e₂ / m₂ := by
    rw [Nat.le_div_iff_mul_le h₂, dividend, shift, Nat.shiftLeft_eq]
    calc 2 ^ 52 * m₂ ≤ 2 ^ 52 * 2 ^ (m₂.log2 + 1) := Nat.mul_le_mul_left _ Nat.lt_log2_self.le
      _ = 2 ^ m₁.log2 * 2 ^ (m₂.log2 + 53 - m₁.log2) := by
        rw [← Nat.pow_add, ← Nat.pow_add]
        congr 1
        omega
      _ ≤ m₁ * 2 ^ (m₂.log2 + 53 - m₁.log2) :=
        Nat.mul_le_mul_right _ (Nat.log2_self_le h₁.ne')
  have := (Nat.le_log2 (by omega)).mpr full
  omega

end Quotient

/-! ## Means -/

/-- A positive double divided by one at least as large, the dividend in canonical form, is a
double that is not negative and at most one. -/
theorem atMost_div_finite {m₁ m₂ : Nat} {e₁ e₂ : Int} (h₁ : 0 < m₁) (h₂ : 0 < m₂)
    (canonical : Canonical m₁ e₁) (ratio : (m₁ : ℚ) * 2 ^ e₁ ≤ m₂ * 2 ^ e₂) :
    AtMost (UnpackedFloat.div .binary64 (.finite .positive m₁ e₁ h₁) (.finite .positive m₂ e₂ h₂))
      1 := by
  have described := @describes_quotient m₁ m₂ e₁ e₂ h₂
  have value := @dividend_value m₁ m₂ e₁ e₂ h₂
  have low := @quotientExponent_low m₁ m₂ e₁ e₂ h₁ h₂ canonical.lt
  have first := quotientExponent_le h₁ ratio
  rw [divCore_eq] at described
  simp only at described
  have exact : (dividend m₁ e₁ m₂ e₂ : ℚ) / m₂ * 2 ^ quotientExponent m₁ e₁ m₂ e₂ ≤ 1 := by
    rw [value, div_le_one (by positivity)]
    exact ratio
  have unit : quotientExponent m₁ e₁ m₂ e₂ +
      dropped (dividend m₁ e₁ m₂ e₂ / m₂) (quotientExponent m₁ e₁ m₂ e₂) ≤ 0 := by
    have bits : ((dividend m₁ e₁ m₂ e₂ / m₂).log2 : Int) + quotientExponent m₁ e₁ m₂ e₂ ≤ 52 := by
      by_cases zero : dividend m₁ e₁ m₂ e₂ / m₂ = 0
      · rw [zero, Nat.log2_zero]
        omega
      · have floor : ((dividend m₁ e₁ m₂ e₂ / m₂ : Nat) : ℚ) * 2 ^ quotientExponent m₁ e₁ m₂ e₂ ≤ 1 :=
          le_trans (mul_le_mul_of_nonneg_right Nat.cast_div_le (by positivity)) exact
        have := le_trans (two_zpow_le_value zero _) floor
        have := (zpow_le_zpow_iff_right₀ (by norm_num : (1 : ℚ) < 2)).mp (by simpa using this)
        omega
    simp only [dropped, targetExponent_binary64, totalExponent] at low ⊢
    omega
  show AtMost (roundWithAccuracy .binary64 .positive (dividend m₁ e₁ m₂ e₂ / m₂)
    (quotientExponent m₁ e₁ m₂ e₂) (accuracyOfFraction (dividend m₁ e₁ m₂ e₂ % m₂) m₂)) 1
  refine (atMost_roundWithAccuracy h₂ described low (by omega)).mono ?_
  obtain ⟨i, units⟩ : ∃ i : Nat, (i : ℚ) * 2 ^ (quotientExponent m₁ e₁ m₂ e₂ +
      dropped (dividend m₁ e₁ m₂ e₂ / m₂) (quotientExponent m₁ e₁ m₂ e₂) : Int) = 1 := by
    refine ⟨2 ^ (-(quotientExponent m₁ e₁ m₂ e₂ +
      dropped (dividend m₁ e₁ m₂ e₂ / m₂) (quotientExponent m₁ e₁ m₂ e₂))).toNat, ?_⟩
    rw [Nat.cast_pow, Nat.cast_two, ← zpow_natCast, ← zpow_add₀ (by norm_num)]
    rw [show ((-(quotientExponent m₁ e₁ m₂ e₂ + dropped (dividend m₁ e₁ m₂ e₂ / m₂)
      (quotientExponent m₁ e₁ m₂ e₂) : Int)).toNat : Int) + (quotientExponent m₁ e₁ m₂ e₂ +
      dropped (dividend m₁ e₁ m₂ e₂ / m₂) (quotientExponent m₁ e₁ m₂ e₂)) = 0 by omega, zpow_zero]
  rw [← units]
  exact magnitude_roundWithAccuracy_le .positive h₂ described (by rw [units]; exact exact)

/-- A double at most `b` divided by a double at least `b` is not negative and at most one. -/
theorem atMost_div {u v : UnpackedFloat} {b : ℚ} (sum : AtMost u b) (count : AtLeast v b) :
    AtMost (UnpackedFloat.div .binary64 u v) 1 := by
  match u, v, sum, count with
  | .zero _, .infinity .positive, _, _ => exact zero_le_one
  | .zero _, .finite .positive _ _ _, _, _ => exact zero_le_one
  | .finite .positive _ _ _, .infinity .positive, _, _ => exact zero_le_one
  | .finite .positive _ _ h₁, .finite .positive _ _ h₂, ⟨canonical, below⟩, ⟨_, above⟩ =>
    exact atMost_div_finite h₁ h₂ canonical (le_trans below above)

/-- Adding a double at most one to a running sum of `k` such doubles. -/
theorem atMost_add_float {total score : Float} {k : Nat}
    (sum : AtMost total.toModel.unpack (min k (2 ^ 53) : Nat)) (bounded : AtMost score.toModel.unpack 1) :
    AtMost (total + score).toModel.unpack (min (k + 1) (2 ^ 53) : Nat) := by
  have added := atMost_add sum bounded
  show AtMost (Float.Model.pack (UnpackedFloat.add .binary64 total.toModel.unpack
    score.toModel.unpack)).unpack _
  rwa [added.unpack_pack]

/-- A running sum of `n ≠ 0` doubles at most one each, divided by the count as a double, is a valid
reward. -/
theorem isValid_mean {total : Float} {n : Nat} (hn : n ≠ 0)
    (sum : AtMost total.toModel.unpack (min n (2 ^ 53) : Nat)) :
    Reward.isValid (total / n.toFloat) = true := by
  have mean := atMost_div sum (atLeast_toFloat hn)
  apply isValid_of_atMost
  show AtMost (Float.Model.pack (UnpackedFloat.div .binary64 total.toModel.unpack
    n.toFloat.toModel.unpack)).unpack 1
  rwa [mean.unpack_pack]

end PromptTrainer.Ieee
