import PromptTrainer.Proofs.Singles
import PromptTrainer.Proofs.Literals
/-!
# The exact values of doubles and of JSON numbers

A finite double stands for a rational number: its mantissa times a power of two, with its sign.
Unpacking gives a canonical form, and canonical forms of one value coincide, so two finite doubles
compare equal exactly when their values do (zeros of either sign included).  An integer below
`2 ^ 53` in magnitude converts to a double of exactly its value.

A JSON number is exact when its value is that of the double it converts to: a finite double, or
an integer below `2 ^ 53` in magnitude.  Literal equality compares numbers as doubles, so on exact
numbers it is equality of values.

Main statement: `literalEq_number_iff_value_eq`.
-/

namespace PromptTrainer

namespace Ieee

open Float.Model UnpackedFloat

/-- The value of a double as a rational: its mantissa times a power of two, with its sign; zero
for zeros, infinities and NaN. -/
def value : UnpackedFloat → ℚ
  | .finite .positive m e _ => m * 2 ^ e
  | .finite .negative m e _ => -(m * 2 ^ e)
  | _ => 0

@[simp] theorem value_zero (s : Sign) : value (.zero s) = 0 := rfl

/-- A canonical form is fixed by its magnitude. -/
theorem eq_of_value_eq {m₁ m₂ : Nat} {e₁ e₂ : Int} (c₁ : Canonical m₁ e₁) (c₂ : Canonical m₂ e₂)
    (same : (m₁ : ℚ) * 2 ^ e₁ = m₂ * 2 ^ e₂) : m₁ = m₂ ∧ e₁ = e₂ := by
  have below := (value_le_value_iff c₁ c₂).mp same.le
  have above := (value_le_value_iff c₂ c₁).mp same.ge
  omega

/-- Two finite doubles in canonical form have one value exactly when they are the same double, up
to the sign of a zero. -/
theorem value_eq_iff {u v : UnpackedFloat} (cu : ∀ s m e hm, u = .finite s m e hm → Canonical m e)
    (cv : ∀ s m e hm, v = .finite s m e hm → Canonical m e)
    (fu : u.isFinite = true) (fv : v.isFinite = true) :
    value u = value v ↔ u = v ∨ ∃ s s', u = .zero s ∧ v = .zero s' := by
  constructor
  · intro same
    rcases u with _ | _ | s | ⟨su, m, e, hm⟩ <;> simp [UnpackedFloat.isFinite] at fu
    · rcases v with _ | _ | s' | ⟨sv, m', e', hm'⟩ <;> simp [UnpackedFloat.isFinite] at fv
      · exact .inr ⟨s, s', rfl, rfl⟩
      · have : (0 : ℚ) < m' * 2 ^ e' := by positivity
        cases sv <;> simp only [value] at same <;> linarith
    · have magnitude : (0 : ℚ) < m * 2 ^ e := by positivity
      rcases v with _ | _ | s' | ⟨sv, m', e', hm'⟩ <;> simp [UnpackedFloat.isFinite] at fv
      · cases su <;> simp only [value] at same <;> linarith
      · have magnitude' : (0 : ℚ) < m' * 2 ^ e' := by positivity
        have c := cu su m e hm rfl
        have c' := cv sv m' e' hm' rfl
        left
        cases su <;> cases sv <;> simp only [value, neg_inj] at same
        · obtain ⟨rfl, rfl⟩ := eq_of_value_eq c c' same
          rfl
        · linarith
        · linarith
        · obtain ⟨rfl, rfl⟩ := eq_of_value_eq c c' same
          rfl
  · rintro (rfl | ⟨s, s', rfl, rfl⟩) <;> rfl

/-- Two finite doubles compare equal exactly when their values are equal. -/
theorem beq_iff_value_eq {x y : Float} (fx : x.isFinite = true) (fy : y.isFinite = true) :
    (x == y) = true ↔ value x.toModel.unpack = value y.toModel.unpack := by
  have := order_transCmp
  rw [beq_iff (isNaN_eq_false_of_isFinite fx) (isNaN_eq_false_of_isFinite fy),
    value_eq_iff (fun _ _ _ _ => canonical_of_unpack) (fun _ _ _ _ => canonical_of_unpack) fx fy]
  constructor
  · exact unpack_eq_of_order_eq
  · rintro (same | ⟨s, s', zx, zy⟩)
    · rw [same]
      exact Std.ReflCmp.compare_self
    · rw [zx, zy]
      cases s <;> cases s' <;> rfl

/-! ## Integers that convert exactly -/

/-- A positive count below `2 ^ 53` converts to a finite double of exactly its value. -/
theorem value_toFloat {n : Nat} (hn : n ≠ 0) (small : n < 2 ^ 53) :
    ∃ k, ∃ shifted : 0 < n <<< k,
      n.toFloat.toModel.unpack = .finite .positive (n <<< k) (0 - k) shifted ∧
      Canonical (n <<< k) (0 - k) ∧ value n.toFloat.toModel.unpack = n := by
  have low : Format.binary64.targetExponent (totalExponent n 0) ≤ 0 := by
    have bits : n.log2 < 53 := (Nat.log2_lt hn).mpr small
    rw [targetExponent_binary64, totalExponent]
    omega
  obtain ⟨k, shifted, rounded, settled⟩ := round_of_target_le .binary64 .positive
    (Nat.pos_of_ne_zero hn) low
  have canonical := canonical_of_settled shifted settled (by omega)
  refine ⟨k, shifted, by rw [unpack_toFloat_small hn small, rounded], canonical, ?_⟩
  rw [unpack_toFloat_small hn small, rounded]
  simp only [value, Nat.shiftLeft_eq, Nat.cast_mul, Nat.cast_pow, Nat.cast_ofNat]
  rw [mul_assoc, ← zpow_natCast, ← zpow_add₀ (by norm_num)]
  simp

theorem unpack_toFloat_zero : (0 : Nat).toFloat.toModel.unpack = .zero .positive := rfl

/-- An integer below `2 ^ 53` in magnitude converts to a finite double of exactly its value. -/
theorem value_ofInt {i : Int} (small : i.natAbs < 2 ^ 53) :
    (Float.ofInt i).isFinite = true ∧ value (Float.ofInt i).toModel.unpack = i := by
  rcases i with n | n
  · by_cases zero : n = 0
    · subst zero
      refine ⟨by decide, ?_⟩
      show value (Nat.toFloat 0).toModel.unpack = _
      rw [unpack_toFloat_zero]
      simp
    · obtain ⟨k, shifted, unpacked, -, exact⟩ := value_toFloat zero (by simpa using small)
      refine ⟨?_, by simpa [Float.ofInt] using exact⟩
      show n.toFloat.toModel.unpack.isFinite = true
      rw [unpacked]
      rfl
  · have positive : n + 1 ≠ 0 := by omega
    obtain ⟨k, shifted, unpacked, canonical, exact⟩ :=
      value_toFloat positive (by simp [Int.natAbs_negSucc] at small; omega)
    have negated : (Float.ofInt (.negSucc n)).toModel.unpack =
        .finite .negative ((n + 1) <<< k) (0 - k) shifted := by
      show (Float.Model.pack (n + 1).toFloat.toModel.unpack.neg).unpack = _
      rw [unpacked]
      exact unpack_pack_canonical .negative shifted canonical
    refine ⟨?_, ?_⟩
    · show (Float.ofInt (.negSucc n)).toModel.unpack.isFinite = true
      rw [negated]
      rfl
    · have flipped : value (.finite .negative ((n + 1) <<< k) (0 - k) shifted) =
          -value (.finite .positive ((n + 1) <<< k) (0 - k) shifted) := rfl
      rw [negated, flipped, ← unpacked, exact, Int.negSucc_eq]
      push_cast
      ring

end Ieee

namespace JsonNumber

/-- The exact value of a number: an integer as itself, a double as its value. -/
def value : JsonNumber → ℚ
  | .int i => i
  | .float f => Ieee.value f.toModel.unpack

/-- A number whose value is that of the double it converts to: a finite double, or an integer
below `2 ^ 53` in magnitude. -/
def isExact : JsonNumber → Bool
  | .int i => decide (i.natAbs < 2 ^ 53)
  | .float f => f.isFinite

/-- An exact number converts to a finite double of its value. -/
theorem toFloat_of_isExact {x : JsonNumber} (exact : x.isExact = true) :
    x.toFloat.isFinite = true ∧ Ieee.value x.toFloat.toModel.unpack = x.value := by
  cases x with
  | int i => exact Ieee.value_ofInt (by simpa [isExact] using exact)
  | float f => exact ⟨exact, rfl⟩

end JsonNumber

/-- Literal equality of exact numbers is equality of their values. -/
theorem literalEq_number_iff_value_eq {x y : JsonNumber} (ex : x.isExact = true)
    (ey : y.isExact = true) : literalEq (.number x) (.number y) = true ↔ x.value = y.value := by
  obtain ⟨fx, vx⟩ := JsonNumber.toFloat_of_isExact ex
  obtain ⟨fy, vy⟩ := JsonNumber.toFloat_of_isExact ey
  rw [literalEq_number, Ieee.beq_iff_value_eq fx fy, vx, vy]

end PromptTrainer
