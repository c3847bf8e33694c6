import Mathlib
import PromptTrainer.Ranking
import PromptTrainer.Proofs.StableSort
/-!
# Rankings of comparable rewards

Two rewards compare by their values as doubles.  Leaving NaN aside, the IEEE order on doubles
is the lexicographic order of a key: the tier (negative infinity, negative numbers, zeros,
positive numbers, positive infinity), then the exponent and the mantissa, both negated for
negative numbers (`Ieee.order`, `Ieee.compare_eq_order`).  So "strictly precedes" on rewards
that are none or not NaN is a strict weak order, and the sort behind a ranking never rejects
it.

Main statements: `Ranking.rank_isSome` and `Ranking.top_isSome`: a ranking of items whose
rewards are comparable always exists.
-/

namespace PromptTrainer

namespace Ieee

open Float.Model UnpackedFloat

/-- The tier of a double in the IEEE order: negative infinity, negative numbers, zeros,
positive numbers, positive infinity; NaN, which has no place, last. -/
def tier : UnpackedFloat → Nat
  | .infinity .negative => 0
  | .finite .negative .. => 1
  | .zero _ => 2
  | .finite .positive .. => 3
  | .infinity .positive => 4
  | .notANumber => 5

/-- The exponent of a number, negated for a negative one, which orders the other way. -/
def scale : UnpackedFloat → Int
  | .finite .negative _ e _ => -e
  | .finite .positive _ e _ => e
  | _ => 0

/-- The mantissa of a number, negated for a negative one. -/
def digits : UnpackedFloat → Int
  | .finite .negative m _ _ => -(m : Int)
  | .finite .positive m _ _ => m
  | _ => 0

/-- The IEEE order on doubles other than NaN, as the comparison of their keys. -/
def order (a b : UnpackedFloat) : Ordering :=
  compareLex (compareOn tier) (compareLex (compareOn scale) (compareOn digits)) a b

theorem compare_neg (a b : Int) : compare (-a) (-b) = compare b a := by
  simp only [Int.compare_eq_ite_lt]
  by_cases ab : a < b <;> by_cases ba : b < a <;> simp [ab, ba]

theorem compare_natCast (m m' : Nat) : compare (m : Int) (m' : Int) = compare m m' := by
  simp only [Int.compare_eq_ite_lt, Nat.compare_eq_ite_lt, Int.ofNat_lt]

/-- Away from NaN, the IEEE comparison of doubles is the comparison of their keys. -/
theorem compare_eq_order : ∀ {a b : UnpackedFloat}, a ≠ .notANumber → b ≠ .notANumber →
    a.compare b = some (order a b) := by
  intro a b ha hb
  -- every pair of forms a double can take, up to the sign of a zero
  rcases a with ⟨_ | _⟩ | _ | ⟨_ | _⟩ | ⟨_ | _, m, e, hm⟩ <;>
    rcases b with ⟨_ | _⟩ | _ | ⟨_ | _⟩ | ⟨_ | _, m', e', hm'⟩ <;>
    simp_all [UnpackedFloat.compare, order, compareLex, compareOn, tier, scale, digits,
      compare_neg, compare_natCast, Ordering.swap_then, Int.compare_swap, Nat.compare_swap] <;> rfl

theorem order_transCmp : Std.TransCmp order :=
  inferInstanceAs
    (Std.TransCmp (compareLex (compareOn tier) (compareLex (compareOn scale) (compareOn digits))))

theorem unpack_ne_notANumber {x : Float} (notNaN : x.isNaN = false) :
    x.toModel.unpack ≠ .notANumber := by
  intro nan
  simp [Float.isNaN, Float.Model.isNaN, nan, UnpackedFloat.isNaN] at notNaN

/-- Away from NaN, one double is below another exactly when its key is. -/
theorem lt_iff {x y : Float} (hx : x.isNaN = false) (hy : y.isNaN = false) :
    x < y ↔ order x.toModel.unpack y.toModel.unpack = .lt := by
  have compared := compare_eq_order (unpack_ne_notANumber hx) (unpack_ne_notANumber hy)
  show Float.lt x y = true ↔ _
  simp [Float.lt, LT.lt, Float.Model.lt, UnpackedFloat.lt, compared]

/-- Away from NaN, a double not below another is at least it. -/
theorem le_of_not_lt {x y : Float} (hx : x.isNaN = false) (hy : y.isNaN = false)
    (notBelow : ¬ x < y) : y ≤ x := by
  have := order_transCmp
  have swapped : order y.toModel.unpack x.toModel.unpack =
      (order x.toModel.unpack y.toModel.unpack).swap := Std.OrientedCmp.eq_swap
  rw [lt_iff hx hy] at notBelow
  show Float.le y x = true
  simp only [Float.le, LE.le, Float.Model.le, UnpackedFloat.le, decide_eq_true_eq,
    compare_eq_order (unpack_ne_notANumber hy) (unpack_ne_notANumber hx), swapped]
  revert notBelow
  cases order x.toModel.unpack y.toModel.unpack <;> decide

/-- Doubles equal as doubles, such as `0.0` and `-0.0`, are neither below the other. -/
theorem not_lt_of_beq {x y : Float} (equal : (x == y) = true) : ¬ x < y ∧ ¬ y < x := by
  -- NaN compares equal to nothing
  have hx : x.toModel.unpack ≠ .notANumber := by
    intro nan
    simp only [BEq.beq, Float.beq, Float.Model.beq, UnpackedFloat.beq, UnpackedFloat.compare,
      nan] at equal
    exact absurd equal (by decide)
  have hy : y.toModel.unpack ≠ .notANumber := by
    intro nan
    simp only [BEq.beq, Float.beq, Float.Model.beq, UnpackedFloat.beq, UnpackedFloat.compare,
      nan] at equal
    exact absurd equal (by decide)
  have := order_transCmp
  have swapped : order y.toModel.unpack x.toModel.unpack =
      (order x.toModel.unpack y.toModel.unpack).swap := Std.OrientedCmp.eq_swap
  have same : order x.toModel.unpack y.toModel.unpack = .eq := by
    simp only [BEq.beq, Float.beq, Float.Model.beq, UnpackedFloat.beq, compare_eq_order hx hy]
      at equal
    revert equal
    cases order x.toModel.unpack y.toModel.unpack <;> decide
  constructor
  · show ¬ Float.lt x y = true
    simp [Float.lt, LT.lt, Float.Model.lt, UnpackedFloat.lt, compare_eq_order hx hy, same]
  · show ¬ Float.lt y x = true
    simp [Float.lt, LT.lt, Float.Model.lt, UnpackedFloat.lt, compare_eq_order hy hx, swapped, same]

end Ieee

/-- Whether an optional reward can be ranked: absent, or a number that is not NaN. -/
def Reward.isComparable : Option Float → Bool
  | some x => !x.isNaN
  | none => true

namespace Ranking

/-- A comparable reward does not precede another exactly when its key is not above the
other's. -/
theorem precedes_some_eq_false {x y : Float} (hx : x.isNaN = false) (hy : y.isNaN = false) :
    precedes (some x) (some y) = false ↔ (Ieee.order x.toModel.unpack y.toModel.unpack).isLE := by
  have := Ieee.order_transCmp
  have swapped : Ieee.order y.toModel.unpack x.toModel.unpack =
      (Ieee.order x.toModel.unpack y.toModel.unpack).swap := Std.OrientedCmp.eq_swap
  simp only [precedes, decide_eq_false_iff_not, Ieee.lt_iff hy hx, swapped]
  cases Ieee.order x.toModel.unpack y.toModel.unpack <;> decide

/-- Among comparable rewards, a reward that precedes another is not preceded by it. -/
theorem precedes_asymm : ∀ {a b : Option Float}, Reward.isComparable a = true →
    Reward.isComparable b = true → precedes a b = true → precedes b a = false
  | some x, some y, hx, hy, before => by
    have hx : x.isNaN = false := by simpa [Reward.isComparable] using hx
    have hy : y.isNaN = false := by simpa [Reward.isComparable] using hy
    have := Ieee.order_transCmp
    have notLE : ¬ (Ieee.order x.toModel.unpack y.toModel.unpack).isLE := fun le => by
      rw [(precedes_some_eq_false hx hy).mpr le] at before
      cases before
    have swapped : Ieee.order y.toModel.unpack x.toModel.unpack =
        (Ieee.order x.toModel.unpack y.toModel.unpack).swap := Std.OrientedCmp.eq_swap
    rw [precedes_some_eq_false hy hx, swapped]
    revert notLE
    cases Ieee.order x.toModel.unpack y.toModel.unpack <;> decide
  | some _, none, _, _, _ => rfl
  | none, _, _, _, before => by simp [precedes] at before

/-- Among comparable rewards, not preceding is transitive. -/
theorem precedes_negTrans : ∀ {a b c : Option Float}, Reward.isComparable a = true →
    Reward.isComparable b = true → Reward.isComparable c = true →
    precedes a b = false → precedes b c = false → precedes a c = false
  | some x, some y, some z, hx, hy, hz, ab, bc => by
    have hx : x.isNaN = false := by simpa [Reward.isComparable] using hx
    have hy : y.isNaN = false := by simpa [Reward.isComparable] using hy
    have hz : z.isNaN = false := by simpa [Reward.isComparable] using hz
    have := Ieee.order_transCmp
    rw [precedes_some_eq_false hx hy] at ab
    rw [precedes_some_eq_false hy hz] at bc
    rw [precedes_some_eq_false hx hz]
    exact Std.TransCmp.isLE_trans ab bc
  | some _, some _, none, _, _, _, _, bc => by simp [precedes] at bc
  | some _, none, _, _, _, _, ab, _ => by simp [precedes] at ab
  | none, _, _, _, _, _, _, _ => rfl

/-- Positions compared by the rewards at them, a missing position counting as unscored, are
in a strict weak order when every reward is comparable. -/
theorem weakOrder_of_comparable {rewards : Array (Option Float)}
    (comparable : ∀ r ∈ rewards.toList, Reward.isComparable r = true) :
    StableSort.WeakOrder (fun i j => precedes (rewards.getD i none) (rewards.getD j none)) := by
  have atEvery : ∀ i, Reward.isComparable (rewards.getD i none) = true := by
    intro i
    by_cases within : i < rewards.size
    · simp only [Array.getD, within, dite_true]
      exact comparable _ (Array.getElem_mem_toList within)
    · simp [Array.getD, within, Reward.isComparable]
  exact ⟨fun before => precedes_asymm (atEvery _) (atEvery _) before,
    fun ab bc => precedes_negTrans (atEvery _) (atEvery _) (atEvery _) ab bc⟩

/-- Items whose rewards are comparable always have a ranking. -/
theorem rank_isSome {α : Type} (width : Nat) (reward : α → Option Float) (items : List α)
    (comparable : ∀ x ∈ items, Reward.isComparable (reward x) = true) :
    (rank width reward items).isSome := by
  unfold rank
  rw [Option.isSome_map]
  refine StableSort.sort_isSome (weakOrder_of_comparable (fun r member => ?_)) width _
  obtain ⟨x, present, rfl⟩ := List.mem_map.mp (by simpa using member)
  exact comparable x present

/-- Items whose rewards are comparable always have their best `k` items. -/
theorem top_isSome {α : Type} (width : Nat) (reward : α → Option Float) (k : Nat) (items : List α)
    (comparable : ∀ x ∈ items, Reward.isComparable (reward x) = true) :
    (top width reward k items).isSome := by
  unfold top
  rw [Option.isSome_map]
  exact rank_isSome width reward items comparable

end Ranking

end PromptTrainer
