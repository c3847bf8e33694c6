import PromptTrainer.Proofs.Rounding
import PromptTrainer.Config.Basic
/-!
# Singles widened to doubles and narrowed back

A single is widened by rounding its unpacked value to the double format, and a double is
narrowed by rounding to the single format.  Every single's value is a double's: rounding it to
doubles only moves its mantissa up by zero bits to the doubles' target exponent, where it is a
double in canonical form.  Narrowing meets that mantissa at its own exponent less the bits it was
moved up by, drops exactly those zero bits, and so rounds nothing away.

Main statement: `toSingle_toDouble`, a single widened and narrowed back is itself, infinities
and NaN included.
-/

namespace PromptTrainer.Ieee

open Float.Model UnpackedFloat

/-! ## Rounding a value that needs none -/

/-- Moving an exact mantissa down by the bits it was moved up by drops only zeros. -/
theorem shiftRight_exact (m k : Nat) :
    ExtendedMantissa.ofMantissaAndAccuracy (m * 2 ^ k) .exact >>> k = ⟨m, false, false⟩ := by
  have described := (describes_exact (m * 2 ^ k)).shiftRight Nat.one_pos k
  generalize ExtendedMantissa.ofMantissaAndAccuracy (m * 2 ^ k) .exact >>> k = shifted
    at described
  obtain ⟨mantissa, roundBit, stickyBit⟩ := described
  simp only [Nat.one_mul, Nat.mul_mod_left, Nat.mul_div_cancel _ (Nat.two_pow_pos k)]
    at mantissa roundBit stickyBit
  cases shifted
  simp_all

theorem totalExponent_shiftLeft {m : Nat} (hm : m ≠ 0) (k : Nat) (e : Int) :
    totalExponent (m <<< k) (e - k) = totalExponent m e := by
  simp only [totalExponent, log2_shiftLeft hm]
  push_cast
  ring

section Settled

variable (spec : Format) {m : Nat} (hm : 0 < m) {e : Int}
  (settled : spec.targetExponent (totalExponent m e) = e)
include hm settled

/-- A mantissa at its own target exponent, moved up by `k` bits, is moved back down by the
first shift of rounding, with nothing dropped. -/
theorem shiftToTargetExponent_shiftLeft (k : Nat) :
    shiftToTargetExponent spec (m <<< k) (e - k) .exact = (⟨m, false, false⟩, e) := by
  have target : spec.targetExponent (totalExponent (m <<< k) (e - k)) = e := by
    rw [totalExponent_shiftLeft hm.ne' k e, settled]
  simp only [shiftToTargetExponent, target, shiftToExponent]
  rw [show (e - (e - k)).toNat = k by omega, Nat.shiftLeft_eq, shiftRight_exact]
  congr 1
  omega

/-- A mantissa at its own target exponent rounds to itself, however far it was moved up. -/
theorem roundWithAccuracy_shiftLeft (s : Sign) (k : Nat) :
    roundWithAccuracy spec s (m <<< k) (e - k) .exact = .finite s m e hm := by
  have unmoved : shiftToTargetExponent spec m e .exact = (⟨m, false, false⟩, e) := by
    simpa using shiftToTargetExponent_shiftLeft spec hm settled 0
  unfold roundWithAccuracy
  rw [shiftToTargetExponent_shiftLeft spec hm settled k]
  simp only [ExtendedMantissa.roundedMantissa, ExtendedMantissa.accuracy,
    Accuracy.roundToNearestEven, unmoved]
  simp [hm.ne']

/-- A value already in a format rounds back to itself from any lower exponent. -/
theorem round_shiftLeft (s : Sign) (k : Nat) :
    round spec s (m <<< k) (e - k) = .finite s m e hm := by
  have unlowered : decreaseExponent (m <<< k) (e - k) e = (m <<< k, e - k) := by
    simp only [decreaseExponent, show (e - k - e).toNat = 0 by omega, Nat.shiftLeft_zero,
      Nat.cast_zero, sub_zero]
  unfold UnpackedFloat.round
  rw [totalExponent_shiftLeft hm.ne' k e, settled]
  simp only [unlowered]
  exact roundWithAccuracy_shiftLeft spec hm settled s k

end Settled

/-- Rounding a value whose exponent is at or above its target only moves its mantissa up by
some `k` bits, to an exponent that is its own target. -/
theorem round_of_target_le (spec : Format) (s : Sign) {m : Nat} (hm : 0 < m) {e : Int}
    (low : spec.targetExponent (totalExponent m e) ≤ e) :
    ∃ k : Nat, ∃ shifted : 0 < m <<< k,
      round spec s m e = .finite s (m <<< k) (e - k) shifted ∧
      spec.targetExponent (totalExponent (m <<< k) (e - k)) = e - k := by
  have shifted : 0 < m <<< (e - spec.targetExponent (totalExponent m e)).toNat := by
    rw [Nat.shiftLeft_eq]
    positivity
  have settled : spec.targetExponent
      (totalExponent (m <<< (e - spec.targetExponent (totalExponent m e)).toNat)
        (e - (e - spec.targetExponent (totalExponent m e)).toNat)) =
      e - (e - spec.targetExponent (totalExponent m e)).toNat := by
    rw [totalExponent_shiftLeft hm.ne']
    omega
  refine ⟨_, shifted, ?_, settled⟩
  have moved := roundWithAccuracy_shiftLeft spec shifted settled s 0
  simp only [Nat.shiftLeft_zero, Nat.cast_zero, sub_zero] at moved
  exact moved

/-! ## Singles among doubles -/

theorem targetExponent_binary32 (total : Int) :
    Format.binary32.targetExponent total = max (total - 24) (-149) := by
  simp only [Format.targetExponent, Format.mantissaBits, Format.minExponent]
  norm_num

/-- Unpacking a single gives a mantissa at its own target exponent, no higher than the
greatest exponent of singles. -/
theorem settled_of_unpack {v : Float32.Model} {s : Sign} {m : Nat} {e : Int} {hm : 0 < m}
    (unpacked : v.unpack = .finite s m e hm) :
    Format.binary32.targetExponent (totalExponent m e) = e ∧ e ≤ 104 := by
  have shapes := unpack_finite_cases unpacked
  simp only [Format.exponentBias] at shapes
  rw [targetExponent_binary32, totalExponent]
  rcases shapes with ⟨below, least⟩ | ⟨above, below, biased, bottom, top, exponent⟩
  · have bits : m.log2 < 23 := (Nat.log2_lt hm.ne').mpr below
    omega
  · have bits : m.log2 = 23 := (Nat.log2_eq_iff hm.ne').mpr ⟨above, below⟩
    omega

/-- A mantissa at its own target exponent, below the greatest exponent, is a double in
canonical form. -/
theorem canonical_of_settled {m : Nat} (hm : 0 < m) {e : Int}
    (settled : Format.binary64.targetExponent (totalExponent m e) = e) (greatest : e ≤ 971) :
    Canonical m e := by
  rw [targetExponent_binary64, totalExponent] at settled
  have below : m < 2 ^ (m.log2 + 1) := Nat.lt_log2_self
  have above : 2 ^ m.log2 ≤ m := Nat.log2_self_le hm.ne'
  refine ⟨?_, by omega, greatest, ?_⟩
  · calc m < 2 ^ (m.log2 + 1) := below
      _ ≤ 2 ^ 53 := Nat.pow_le_pow_right (by decide) (by omega)
  · by_cases least : e = -1074
    · exact .inr least
    · have bits : m.log2 = 52 := by omega
      rw [bits] at above
      exact .inl above

/-- Widening moves a finite single's mantissa up to the doubles' target exponent, where it is a
double in canonical form. -/
theorem widen_finite {v : Float32.Model} {s : Sign} {m : Nat} {e : Int} {hm : 0 < m}
    (unpacked : v.unpack = .finite s m e hm) :
    ∃ k : Nat, ∃ shifted : 0 < m <<< k,
      round .binary64 s m e = .finite s (m <<< k) (e - k) shifted ∧
      Canonical (m <<< k) (e - k) := by
  obtain ⟨settled, greatest⟩ := settled_of_unpack unpacked
  have low : Format.binary64.targetExponent (totalExponent m e) ≤ e := by
    rw [targetExponent_binary32, totalExponent] at settled
    rw [targetExponent_binary64, totalExponent]
    omega
  obtain ⟨k, shifted, rounded, settled64⟩ := round_of_target_le .binary64 s hm low
  exact ⟨k, shifted, rounded, canonical_of_settled shifted settled64 (by omega)⟩

theorem unpack_pack_notANumber : (Float.Model.pack .notANumber).unpack = .notANumber := by
  rw [unpack_pack]
  exact unpack_packedNaN

theorem unpack_pack_infinity (s : Sign) : (Float.Model.pack (.infinity s)).unpack = .infinity s := by
  rw [unpack_pack]
  simp [UnpackedFloat.pack, packedInfinity, UnpackedFloat.unpack]

/-- Packing a widened single as a double loses nothing. -/
theorem unpack_pack_widened (v : Float32.Model) :
    (Float.Model.pack (roundToFormat .binary64 v.unpack)).unpack =
      roundToFormat .binary64 v.unpack := by
  cases unpacked : v.unpack with
  | notANumber => exact unpack_pack_notANumber
  | infinity s => exact unpack_pack_infinity s
  | zero s => exact unpack_pack_zero s
  | finite s m e hm =>
    obtain ⟨k, shifted, rounded, canonical⟩ := widen_finite unpacked
    simp only [roundToFormat, rounded]
    exact unpack_pack_canonical s shifted canonical

/-- Rounding a widened single back to singles gives it back. -/
theorem narrow_widened (v : Float32.Model) :
    roundToFormat .binary32 (roundToFormat .binary64 v.unpack) = v.unpack := by
  cases unpacked : v.unpack with
  | notANumber => rfl
  | infinity s => rfl
  | zero s => rfl
  | finite s m e hm =>
    obtain ⟨k, shifted, rounded, -⟩ := widen_finite unpacked
    simp only [roundToFormat, rounded]
    exact round_shiftLeft .binary32 hm (settled_of_unpack unpacked).1 s k

/-- The double a single widens to unpacks to the single's value. -/
theorem unpack_toDouble (x : Float32) :
    (Float32.toDouble x).toModel.unpack = roundToFormat .binary64 x.toModel.unpack :=
  unpack_pack_widened x.toModel

/-- A single widened to a double and narrowed back is itself. -/
@[simp] theorem toSingle_toDouble (x : Float32) : Float.toSingle (Float32.toDouble x) = x := by
  unfold Float.toSingle
  rw [unpack_toDouble, narrow_widened]
  exact Float32.ofBits_toBits x

end PromptTrainer.Ieee
