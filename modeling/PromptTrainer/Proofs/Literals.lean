import PromptTrainer.Proofs.Ranking
import PromptTrainer.Schema.Validation
/-!
# Literal equality

Enumerations compare their members as literals (`literalEq`): two numbers by their values as
doubles, anything else by structural equality (`Json.beq`).  This module shows that on the
values the data model can hold (`Json.WellFormed`: finite doubles, 64-bit integers, objects
with distinct keys) literal equality is an equivalence.

Two facts about doubles carry the number case.  IEEE equality of doubles is symmetric and
transitive, and reflexive away from NaN (`Ieee.beq_symm`, `Ieee.beq_trans`, `Ieee.beq_self`);
and the double nearest an integer is never NaN (`Ieee.ofInt_isNaN`), since rounding gives a
zero or a finite number and packing keeps it.  Equal doubles stand for the same integer, if
any (`Ieee.integralValue?_congr`).

Main statements: `literalEq_self`, `literalEq_symm` and `literalEq_trans`.
-/

namespace PromptTrainer

namespace Ieee

open Float.Model UnpackedFloat

/-! ### IEEE equality -/

theorem beq_unfold (x y : Float) :
    (x == y) = (x.toModel.unpack.compare y.toModel.unpack == some .eq) := rfl

theorem compare_notANumber_left (b : UnpackedFloat) :
    UnpackedFloat.compare .notANumber b = none := by
  cases b <;> rfl

theorem compare_notANumber_right (a : UnpackedFloat) :
    UnpackedFloat.compare a .notANumber = none := by
  rcases a with ⟨_ | _⟩ | _ | ⟨_ | _⟩ | ⟨_ | _, m, e, hm⟩ <;> rfl

/-- NaN equals nothing. -/
theorem isNaN_eq_false_of_beq {x y : Float} (equal : (x == y) = true) :
    x.isNaN = false ∧ y.isNaN = false := by
  rw [beq_unfold] at equal
  constructor
  · cases hx : x.toModel.unpack <;>
      simp_all [Float.isNaN, Float.Model.isNaN, UnpackedFloat.isNaN, compare_notANumber_left]
  · cases hy : y.toModel.unpack <;>
      simp_all [Float.isNaN, Float.Model.isNaN, UnpackedFloat.isNaN, compare_notANumber_right]

theorem isNaN_eq_false_of_isFinite {x : Float} (finite : x.isFinite = true) : x.isNaN = false := by
  simp only [Float.isFinite, Float.Model.isFinite] at finite
  cases h : x.toModel.unpack <;>
    simp_all [Float.isNaN, Float.Model.isNaN, UnpackedFloat.isNaN, UnpackedFloat.isFinite]

/-- Away from NaN, two doubles are equal exactly when their keys are. -/
theorem beq_iff {x y : Float} (hx : x.isNaN = false) (hy : y.isNaN = false) :
    (x == y) = true ↔ order x.toModel.unpack y.toModel.unpack = .eq := by
  rw [beq_unfold, compare_eq_order (unpack_ne_notANumber hx) (unpack_ne_notANumber hy)]
  simp

theorem beq_symm {x y : Float} (equal : (x == y) = true) : (y == x) = true := by
  obtain ⟨hx, hy⟩ := isNaN_eq_false_of_beq equal
  have := order_transCmp
  rw [beq_iff hx hy] at equal
  have swapped : order y.toModel.unpack x.toModel.unpack =
      (order x.toModel.unpack y.toModel.unpack).swap := Std.OrientedCmp.eq_swap
  rw [beq_iff hy hx, swapped, equal]
  rfl

theorem beq_trans {x y z : Float} (xy : (x == y) = true) (yz : (y == z) = true) :
    (x == z) = true := by
  obtain ⟨hx, hy⟩ := isNaN_eq_false_of_beq xy
  obtain ⟨-, hz⟩ := isNaN_eq_false_of_beq yz
  have := order_transCmp
  rw [beq_iff hx hy] at xy
  rw [beq_iff hy hz] at yz
  rw [beq_iff hx hz]
  exact Std.TransCmp.eq_trans xy yz

theorem beq_self {x : Float} (hx : x.isNaN = false) : (x == x) = true := by
  have := order_transCmp
  rw [beq_iff hx hx]
  exact Std.ReflCmp.compare_self

/-- Doubles with equal keys have the same unpacked form, up to the sign of a zero. -/
theorem unpack_eq_of_order_eq {a b : UnpackedFloat} (same : order a b = .eq) :
    a = b ∨ ∃ s s', a = .zero s ∧ b = .zero s' := by
  rcases a with ⟨_ | _⟩ | _ | ⟨_ | _⟩ | ⟨_ | _, m, e, hm⟩ <;>
    rcases b with ⟨_ | _⟩ | _ | ⟨_ | _⟩ | ⟨_ | _, m', e', hm'⟩ <;>
    simp_all [order, compareLex, compareOn, tier, scale, digits, Ordering.then_eq_eq]

/-- Equal doubles stand for the same integer, or both for none. -/
theorem integralValue?_congr {x y : Float} (equal : (x == y) = true) :
    integralValue? x = integralValue? y := by
  obtain ⟨hx, hy⟩ := isNaN_eq_false_of_beq equal
  rw [beq_iff hx hy] at equal
  unfold integralValue?
  rcases unpack_eq_of_order_eq equal with same | ⟨s, s', zx, zy⟩
  · rw [same]
  · rw [zx, zy]

/-! ### The double nearest an integer is a number -/

theorem roundWithAccuracy_ne_notANumber (spec : Format) (s : Sign) (m : Nat) (e : Int)
    (accuracy : Accuracy) : roundWithAccuracy spec s m e accuracy ≠ .notANumber := by
  unfold roundWithAccuracy
  split
  dsimp only
  split <;> simp

theorem normalize_ne_notANumber (spec : Format) (m e : Int) (s : Sign) :
    UnpackedFloat.normalize spec m e s ≠ .notANumber := by
  unfold UnpackedFloat.normalize UnpackedFloat.round
  split <;> simp [roundWithAccuracy_ne_notANumber]

theorem mul_finite_ne_notANumber (spec : Format) {a : UnpackedFloat} (ha : a ≠ .notANumber)
    (s : Sign) (m : Nat) (e : Int) (hm : 0 < m) :
    UnpackedFloat.mul spec a (.finite s m e hm) ≠ .notANumber := by
  cases a with
  | notANumber => exact absurd rfl ha
  | infinity => simp [UnpackedFloat.mul]
  | zero => simp [UnpackedFloat.mul]
  | finite => simp [UnpackedFloat.mul, roundWithAccuracy_ne_notANumber]

theorem ofScientific_ne_notANumber (spec : Format) (m : Nat) (e : Int) :
    UnpackedFloat.ofScientific spec m e ≠ .notANumber := by
  unfold UnpackedFloat.ofScientific
  split
  · simp
  split
  · simp
  split
  · simp
  split
  · exact mul_finite_ne_notANumber spec (by simp) _ _ _ _
  · simp [UnpackedFloat.div, roundWithAccuracy_ne_notANumber]

/-- Packing a number into 64 bits gives a number: its exponent field is all ones only for an
infinity, whose mantissa field is zero. -/
theorem unpack_pack_ne_notANumber {u : UnpackedFloat} (hu : u ≠ .notANumber) :
    (Float.Model.pack u).unpack ≠ .notANumber := by
  simp only [Float.Model.unpack, Float.Model.pack, UInt64.toBitVec_ofBitVec]
  cases u with
  | notANumber => exact absurd rfl hu
  | infinity s => simp [UnpackedFloat.pack, UnpackedFloat.unpack, packedInfinity]
  | zero s => simp [UnpackedFloat.pack, UnpackedFloat.unpack, packedZero]
  | finite s m e hm =>
    simp only [UnpackedFloat.pack]
    split
    · simp [UnpackedFloat.unpack, packedInfinity]
    split
    · -- a normal number: its biased exponent stays below all ones
      simp only [UnpackedFloat.unpack, unpackExponent_packComponents,
        unpackMantissa_packComponents]
      rename_i inRange _
      split
      · rename_i allOnes
        have := congrArg BitVec.toNat allOnes
        simp at this
        omega
      split
      · split <;> simp
      · simp
    · -- a subnormal number: its exponent field is zero
      simp only [UnpackedFloat.unpack, unpackExponent_packComponents,
        unpackMantissa_packComponents]
      have zeroExponent : (0#11 = -1#11) = False := by decide
      simp only [zeroExponent, if_false, ite_true]
      split <;> simp

theorem isNaN_ofModel_pack {u : UnpackedFloat} (hu : u ≠ .notANumber) :
    (Float.ofModel (Float.Model.pack u)).isNaN = false := by
  have := unpack_pack_ne_notANumber hu
  simp only [Float.isNaN, Float.Model.isNaN]
  cases h : (Float.Model.pack u).unpack <;> simp_all [UnpackedFloat.isNaN]

theorem ofNat_isNaN (n : Nat) : (Float.ofNat n).isNaN = false := by
  show (Float.ofScientific n false 0).isNaN = false
  unfold Float.ofScientific
  split
  · have one : ∃ s m e hm,
        Float.exactlyRepresentablePowersOfTen[0].toModel.unpack =
          .finite s m e hm :=
      ⟨.positive, 4503599627370496, -52, by decide, by rfl⟩
    obtain ⟨s, m, e, hm, one⟩ := one
    show (Float.ofModel (Float.Model.pack (UnpackedFloat.mul _ _ _))).isNaN = false
    rw [one]
    refine isNaN_ofModel_pack (mul_finite_ne_notANumber _ ?_ _ _ _ _)
    exact unpack_pack_ne_notANumber (normalize_ne_notANumber _ _ _ _)
  · exact isNaN_ofModel_pack (ofScientific_ne_notANumber _ _ _)

/-- The double nearest an integer is never NaN. -/
theorem ofInt_isNaN (i : Int) : (Float.ofInt i).isNaN = false := by
  cases i with
  | ofNat n => exact ofNat_isNaN n
  | negSucc n =>
    have positive := unpack_ne_notANumber (ofNat_isNaN (n + 1))
    show (Float.ofModel (Float.Model.pack (Float.ofNat (n + 1)).toModel.unpack.neg)).isNaN = false
    refine isNaN_ofModel_pack ?_
    cases h : (Float.ofNat (n + 1)).toModel.unpack <;> simp_all [UnpackedFloat.neg]

end Ieee

/-! ### Well-formed values -/

/-- A number the data model can hold: a finite double, or an integer in the signed or unsigned
64-bit range. -/
def JsonNumber.WellFormed : JsonNumber → Prop
  | .int i => JsonNumber.signedMin ≤ i ∧ i ≤ JsonNumber.unsignedMax
  | .float f => f.isFinite = true

namespace Json

mutual
/-- A value the data model can hold: its numbers are well formed and its objects have distinct
keys, at every depth. -/
def WellFormed : Json → Prop
  | .number n => n.WellFormed
  | .array items => itemsWellFormed items
  | .object members => (members.map Prod.fst).Nodup ∧ membersWellFormed members
  | _ => True

/-- Every item is well formed. -/
def itemsWellFormed : List Json → Prop
  | [] => True
  | item :: rest => item.WellFormed ∧ itemsWellFormed rest

/-- Every member's value is well formed. -/
def membersWellFormed : List (String × Json) → Prop
  | [] => True
  | (_, value) :: rest => value.WellFormed ∧ membersWellFormed rest
end

theorem itemsWellFormed_iff {items : List Json} :
    itemsWellFormed items ↔ ∀ item ∈ items, item.WellFormed := by
  induction items with
  | nil => simp [itemsWellFormed]
  | cons item rest ih => simp [itemsWellFormed, ih]

theorem membersWellFormed_iff {members : List (String × Json)} :
    membersWellFormed members ↔ ∀ m ∈ members, m.2.WellFormed := by
  induction members with
  | nil => simp [membersWellFormed]
  | cons m rest ih =>
    obtain ⟨k, v⟩ := m
    simp [membersWellFormed, ih]

/-! ### Looking up a key -/

theorem lookup_cons (key k : String) (v : Json) (rest : List (String × Json)) :
    lookup ((k, v) :: rest) key = if k = key then some v else lookup rest key := by
  by_cases h : k = key <;> simp [lookup, h]

theorem mem_of_lookup {members : List (String × Json)} {key : String} {v : Json}
    (found : lookup members key = some v) : (key, v) ∈ members := by
  induction members with
  | nil => simp [lookup] at found
  | cons m rest ih =>
    obtain ⟨k, w⟩ := m
    rw [lookup_cons] at found
    split at found
    · cases found
      subst_vars
      exact List.mem_cons_self
    · exact List.mem_cons_of_mem _ (ih found)

/-- With distinct keys, a key finds its own member. -/
theorem lookup_of_mem {members : List (String × Json)} (distinct : (members.map Prod.fst).Nodup)
    {key : String} {v : Json} (member : (key, v) ∈ members) : lookup members key = some v := by
  induction members with
  | nil => simp at member
  | cons m rest ih =>
    obtain ⟨k, w⟩ := m
    simp only [List.map_cons, List.nodup_cons] at distinct
    rw [lookup_cons]
    rcases List.mem_cons.mp member with same | later
    · cases same
      simp
    · have : k ≠ key := fun same => distinct.1 (same ▸ List.mem_map_of_mem (f := Prod.fst) later)
      simp [this, ih distinct.2 later]

/-- Object equality, member by member: every member of the first object meets an equal value
under its key in the second. -/
theorem beqMembers_iff {xs ys : List (String × Json)} :
    beqMembers xs ys = true ↔ ∀ m ∈ xs, ∃ w, lookup ys m.1 = some w ∧ beq m.2 w = true := by
  induction xs with
  | nil => simp [beqMembers]
  | cons m rest ih =>
    obtain ⟨k, v⟩ := m
    simp only [beqMembers, Bool.and_eq_true, ih, List.mem_cons, forall_eq_or_imp]
    cases found : ys.find? (fun member => member.1 == k) with
    | none => simp [lookup, found]
    | some entry => simp [lookup, found]

/-- Every key of the first object is a key of the second when each finds a value there. -/
theorem keys_subset_of_lookup {xs ys : List (String × Json)}
    (found : ∀ m ∈ xs, ∃ w, lookup ys m.1 = some w) : xs.map Prod.fst ⊆ ys.map Prod.fst := by
  intro key member
  obtain ⟨m, present, rfl⟩ := List.mem_map.mp member
  obtain ⟨w, hw⟩ := found m present
  exact List.mem_map.mpr ⟨(m.1, w), mem_of_lookup hw, rfl⟩

/-- Two objects of one length whose keys are distinct, the first's keys all found in the
second, have the same keys. -/
theorem keys_subset_of_length {xs ys : List (String × Json)}
    (distinct : (xs.map Prod.fst).Nodup) (sameLength : xs.length = ys.length)
    (covered : xs.map Prod.fst ⊆ ys.map Prod.fst) : ys.map Prod.fst ⊆ xs.map Prod.fst := by
  have perm := (List.subperm_of_subset distinct covered).perm_of_length_le (by simp [sameLength])
  exact fun key member => perm.symm.subset member

end Json

/-! ### Structural equality is an equivalence -/

namespace JsonNumber

theorem beq_symm : ∀ {a b : JsonNumber}, a.beq b = true → b.beq a = true
  | .int _, .int _, same => by
    simp only [JsonNumber.beq, beq_iff_eq] at same ⊢
    exact same.symm
  | .float _, .float _, same => Ieee.beq_symm same
  | .int _, .float _, same | .float _, .int _, same => by simp [JsonNumber.beq] at same

theorem beq_trans : ∀ {a b c : JsonNumber}, a.beq b = true → b.beq c = true → a.beq c = true
  | .int _, .int _, .int _, ab, bc => by simp_all [JsonNumber.beq]
  | .float _, .float _, .float _, ab, bc => Ieee.beq_trans ab bc
  | .int _, .float _, _, ab, _ | .float _, .int _, _, ab, _ => by simp [JsonNumber.beq] at ab
  | .int _, .int _, .float _, _, bc | .float _, .float _, .int _, _, bc => by
    simp [JsonNumber.beq] at bc

theorem beq_self : ∀ {a : JsonNumber}, a.WellFormed → a.beq a = true
  | .int _, _ => by simp [JsonNumber.beq]
  | .float _, finite => Ieee.beq_self (Ieee.isNaN_eq_false_of_isFinite finite)

end JsonNumber

namespace Json

mutual
/-- Structural equality is reflexive on well-formed values. -/
theorem beq_self : ∀ {x : Json}, x.WellFormed → x.beq x = true
  | .null, _ => rfl
  | .bool _, _ => by simp [beq]
  | .number _, wf => JsonNumber.beq_self wf
  | .string _, _ => by simp [beq]
  | .array _, wf => beqItems_self wf
  | .object members, wf => by
    simp only [beq, beq_self_eq_true, Bool.true_and, beqMembers_iff]
    intro m member
    exact ⟨m.2, lookup_of_mem wf.1 member, beq_self_members wf.2 m member⟩

theorem beqItems_self : ∀ {items : List Json}, itemsWellFormed items → beqItems items items = true
  | [], _ => rfl
  | _ :: _, wf => by
    simp only [beqItems, Bool.and_eq_true]
    exact ⟨beq_self wf.1, beqItems_self wf.2⟩

theorem beq_self_members : ∀ {members : List (String × Json)}, membersWellFormed members →
    ∀ m ∈ members, m.2.beq m.2 = true
  | [], _ => by simp
  | (_, _) :: _, wf => by
    intro m member
    rcases List.mem_cons.mp member with rfl | later
    · exact beq_self wf.1
    · exact beq_self_members wf.2 m later
end

mutual
/-- Structural equality is symmetric on well-formed values: objects of one length with distinct
keys that match one way have the same keys, so they match the other way. -/
theorem beq_symm : ∀ {x y : Json}, x.WellFormed → y.WellFormed → x.beq y = true → y.beq x = true
  | .null, y, _, _, same => by cases y <;> simp_all [beq]
  | .bool _, y, _, _, same | .string _, y, _, _, same => by
    cases y <;> simp only [beq, beq_iff_eq, Bool.false_eq_true] at same ⊢
    all_goals exact same.symm
  | .number _, y, _, _, same => by
    cases y with
    | number _ => exact JsonNumber.beq_symm same
    | _ => simp [beq] at same
  | .array _, y, wx, wy, same => by
    cases y with
    | array _ => exact beqItems_symm wx wy same
    | _ => simp [beq] at same
  | .object xs, y, wx, wy, same => by
    cases y with
    | object ys =>
      simp only [beq, Bool.and_eq_true, beq_iff_eq, beqMembers_iff] at same ⊢
      obtain ⟨sameLength, matched⟩ := same
      have covered := keys_subset_of_length wx.1 sameLength
        (keys_subset_of_lookup (fun m member => (matched m member).imp fun _ h => h.1))
      refine ⟨sameLength.symm, fun m member => ?_⟩
      obtain ⟨v, present, key⟩ :=
        List.mem_map.mp (covered (List.mem_map_of_mem (f := Prod.fst) member))
      obtain ⟨w, found, equal⟩ := matched v present
      have : w = m.2 := by
        rw [key, lookup_of_mem wy.1 member] at found
        exact (Option.some.inj found).symm
      subst this
      refine ⟨v.2, key ▸ lookup_of_mem wx.1 present, ?_⟩
      exact beq_symm_members wx.2 v present _ ((membersWellFormed_iff.mp wy.2) m member) equal
    | _ => simp [beq] at same

theorem beqItems_symm : ∀ {xs ys : List Json}, itemsWellFormed xs → itemsWellFormed ys →
    beqItems xs ys = true → beqItems ys xs = true
  | [], [], _, _, _ => rfl
  | _ :: _, _ :: _, wx, wy, same => by
    simp only [beqItems, Bool.and_eq_true] at same ⊢
    exact ⟨beq_symm wx.1 wy.1 same.1, beqItems_symm wx.2 wy.2 same.2⟩
  | [], _ :: _, _, _, same | _ :: _, [], _, _, same => by simp [beqItems] at same

theorem beq_symm_members : ∀ {members : List (String × Json)}, membersWellFormed members →
    ∀ m ∈ members, ∀ w : Json, w.WellFormed → m.2.beq w = true → w.beq m.2 = true
  | [], _ => by simp
  | (_, _) :: _, wf => by
    intro m member w ww equal
    rcases List.mem_cons.mp member with rfl | later
    · exact beq_symm wf.1 ww equal
    · exact beq_symm_members wf.2 m later w ww equal
end

mutual
/-- Structural equality is transitive, on any values. -/
theorem beq_trans : ∀ {x y z : Json}, x.beq y = true → y.beq z = true → x.beq z = true
  | .null, y, z, xy, yz => by cases y <;> cases z <;> simp_all [beq]
  | .bool _, y, z, xy, yz => by cases y <;> cases z <;> simp_all [beq]
  | .string _, y, z, xy, yz => by cases y <;> cases z <;> simp_all [beq]
  | .number _, y, z, xy, yz => by
    cases y with
    | number _ =>
      cases z with
      | number _ => exact JsonNumber.beq_trans xy yz
      | _ => simp [beq] at yz
    | _ => simp [beq] at xy
  | .array _, y, z, xy, yz => by
    cases y with
    | array _ =>
      cases z with
      | array _ => exact beqItems_trans xy yz
      | _ => simp [beq] at yz
    | _ => simp [beq] at xy
  | .object xs, y, z, xy, yz => by
    cases y with
    | object ys =>
      cases z with
      | object zs =>
        simp only [beq, Bool.and_eq_true, beq_iff_eq, beqMembers_iff] at xy yz ⊢
        refine ⟨xy.1.trans yz.1, fun m member => ?_⟩
        obtain ⟨w, found, mw⟩ := xy.2 m member
        obtain ⟨u, further, wu⟩ := yz.2 (m.1, w) (mem_of_lookup found)
        exact ⟨u, further, beq_trans_members m member mw wu⟩
      | _ => simp [beq] at yz
    | _ => simp [beq] at xy

theorem beqItems_trans : ∀ {xs ys zs : List Json}, beqItems xs ys = true →
    beqItems ys zs = true → beqItems xs zs = true
  | [], [], [], _, _ => rfl
  | _ :: _, _ :: _, _ :: _, xy, yz => by
    simp only [beqItems, Bool.and_eq_true] at xy yz ⊢
    exact ⟨beq_trans xy.1 yz.1, beqItems_trans xy.2 yz.2⟩
  | [], _ :: _, _, xy, _ | _ :: _, [], _, xy, _ => by simp [beqItems] at xy
  | [], [], _ :: _, _, yz | _ :: _, _ :: _, [], _, yz => by simp [beqItems] at yz

theorem beq_trans_members : ∀ {members : List (String × Json)}, ∀ m ∈ members,
    ∀ {w u : Json}, m.2.beq w = true → w.beq u = true → m.2.beq u = true
  | [] => by simp
  | (_, _) :: _ => by
    intro m member w u mw wu
    rcases List.mem_cons.mp member with rfl | later
    · exact beq_trans mw wu
    · exact beq_trans_members m later mw wu
end

/-- Only a number equals a number. -/
theorem exists_number_of_beq_number {x : JsonNumber} {c : Json}
    (equal : (Json.number x).beq c = true) : ∃ z, c = .number z := by
  cases c <;> simp_all [beq]

theorem exists_number_of_beq_number_right {a : Json} {y : JsonNumber}
    (equal : a.beq (.number y) = true) : ∃ x, a = .number x := by
  cases a <;> simp_all [beq]

end Json

/-! ### Literal equality is an equivalence -/

theorem literalEq_number (x y : JsonNumber) :
    literalEq (.number x) (.number y) = (x.toFloat == y.toFloat) := rfl

/-- Literals that are not both numbers compare structurally. -/
theorem literalEq_eq_beq {a b : Json} (notNumbers : ¬ ∃ x y, a = .number x ∧ b = .number y) :
    literalEq a b = a.beq b := by
  unfold literalEq
  split
  · exact absurd ⟨_, _, rfl, rfl⟩ notNumbers
  · rfl

/-- Every well-formed literal equals itself: the double nearest an integer is never NaN, and a
well-formed double is finite. -/
theorem literalEq_self {v : Json} (wf : v.WellFormed) : literalEq v v = true := by
  cases v with
  | number n =>
    rw [literalEq_number]
    cases n with
    | int i => exact Ieee.beq_self (Ieee.ofInt_isNaN i)
    | float f => exact Ieee.beq_self (Ieee.isNaN_eq_false_of_isFinite wf)
  | _ => exact Json.beq_self wf

theorem literalEq_symm {a b : Json} (wa : a.WellFormed) (wb : b.WellFormed)
    (equal : literalEq a b = true) : literalEq b a = true := by
  by_cases numbers : ∃ x y, a = .number x ∧ b = .number y
  · obtain ⟨x, y, rfl, rfl⟩ := numbers
    exact Ieee.beq_symm equal
  · have swapped : ¬ ∃ y x, b = .number y ∧ a = .number x :=
      fun ⟨y, x, hb, ha⟩ => numbers ⟨x, y, ha, hb⟩
    rw [literalEq_eq_beq numbers] at equal
    rw [literalEq_eq_beq swapped]
    exact Json.beq_symm wa wb equal

theorem literalEq_trans {a b c : Json} (ab : literalEq a b = true) (bc : literalEq b c = true) :
    literalEq a c = true := by
  by_cases middle : ∃ y, b = .number y
  · -- a number in the middle: only numbers around it, compared as doubles
    obtain ⟨y, rfl⟩ := middle
    have left : ∃ x, a = .number x := by
      by_contra notNumber
      rw [literalEq_eq_beq (fun ⟨x, _, ha, _⟩ => notNumber ⟨x, ha⟩)] at ab
      exact notNumber (Json.exists_number_of_beq_number_right ab)
    have right : ∃ z, c = .number z := by
      by_contra notNumber
      rw [literalEq_eq_beq (fun ⟨_, z, _, hc⟩ => notNumber ⟨z, hc⟩)] at bc
      exact notNumber (Json.exists_number_of_beq_number bc)
    obtain ⟨x, rfl⟩ := left
    obtain ⟨z, rfl⟩ := right
    exact Ieee.beq_trans ab bc
  · -- anything else in the middle: structural equality throughout
    rw [literalEq_eq_beq (fun ⟨_, y, _, hb⟩ => middle ⟨y, hb⟩)] at ab
    rw [literalEq_eq_beq (fun ⟨y, _, hb, _⟩ => middle ⟨y, hb⟩)] at bc
    have notNumbers : ¬ ∃ x z, a = .number x ∧ c = .number z := by
      rintro ⟨x, z, rfl, rfl⟩
      obtain ⟨y, rfl⟩ := Json.exists_number_of_beq_number ab
      exact middle ⟨y, rfl⟩
    rw [literalEq_eq_beq notNumbers]
    exact Json.beq_trans ab bc

end PromptTrainer
