import PromptTrainer.Proofs.DoubleValues
import PromptTrainer.Proofs.TypeEquality
import PromptTrainer.Proofs.Normalization
/-!
# Enumerations compare their members by value

Literal equality is read by three parts of the program: validation against an enumeration, the
narrowing of one enumeration to another, and the equality of enumerations, which compares their
members as multisets.  Literal equality compares numbers as doubles, so it is equality of exact
values only where every number converts to a double of its own value: finite doubles, and
integers below `2 ^ 53` in magnitude.  There the three parts compare members exactly: `1` and
`1.0` match, other values compare structurally.  Above `2 ^ 53` distinct integers round to one
double and all three parts take them for one member.

Main statements: `enum_literals_compare_exactly`, and `enum_literals_collapse_above_two_pow_53`
for the integers `2 ^ 53 + 1` and `2 ^ 53`.
-/

namespace PromptTrainer

namespace Json

/-- Two literals have the same value: numbers by their exact values, other values
structurally. -/
def sameValue : Json → Json → Bool
  | .number x, .number y => decide (x.value = y.value)
  | a, b => a.beq b

/-- A literal that is no number, or a number that converts to a double of its own value. -/
def exactNumber : Json → Bool
  | .number x => x.isExact
  | _ => true

end Json

/-- On literals whose numbers are exact, literal equality is equality of values. -/
theorem literalEq_eq_sameValue {v w : Json} (ev : v.exactNumber = true) (ew : w.exactNumber = true) :
    literalEq v w = Json.sameValue v w := by
  by_cases numbers : ∃ x y, v = .number x ∧ w = .number y
  · obtain ⟨x, y, rfl, rfl⟩ := numbers
    rw [Bool.eq_iff_iff, literalEq_number_iff_value_eq ev ew]
    simp [Json.sameValue]
  · rw [literalEq_eq_beq numbers]
    unfold Json.sameValue
    split
    · exact absurd ⟨_, _, rfl, rfl⟩ numbers
    · rfl

namespace FieldType

/-- Literals equal to each other are equal to the same literals. -/
theorem literalEq_congr_right {u v w : Json} (wv : v.WellFormed) (ww : w.WellFormed)
    (equal : literalEq v w = true) : literalEq u v = literalEq u w := by
  rw [Bool.eq_iff_iff]
  exact ⟨fun uv => literalEq_trans uv equal,
    fun uw => literalEq_trans uw (literalEq_symm wv ww equal)⟩

theorem literalCount_cons (v : Json) (rest : List Json) (u : Json) :
    literalCount (v :: rest) u = (if literalEq u v then 1 else 0) + literalCount rest u := by
  unfold literalCount
  by_cases same : literalEq u v <;> simp [same, Nat.add_comm]

/-- Members matched one to one by literal equality are counted alike. -/
theorem literalCount_of_forall₂ {a c : List Json} (wa : ∀ x ∈ a, x.WellFormed)
    (wc : ∀ x ∈ c, x.WellFormed) (matched : List.Forall₂ (fun v w => literalEq v w = true) a c)
    (u : Json) : literalCount a u = literalCount c u := by
  induction matched with
  | nil => rfl
  | @cons v w rest rest' vw _ ih =>
    rw [literalCount_cons, literalCount_cons,
      literalEq_congr_right (wa v (by simp)) (wc w (by simp)) vw,
      ih (fun x member => wa x (by simp [member])) (fun x member => wc x (by simp [member]))]

/-- A member counted in a list has a literal equal to it there. -/
theorem exists_literalEq_of_count {b : List Json} {v : Json} (counted : 0 < literalCount b v) :
    ∃ w ∈ b, literalEq v w = true := by
  unfold literalCount at counted
  obtain ⟨w, member⟩ := List.exists_mem_of_length_pos counted
  exact ⟨w, (List.mem_filter.mp member).1, (List.mem_filter.mp member).2⟩

theorem literalCount_perm {b b' : List Json} (perm : b.Perm b') (u : Json) :
    literalCount b u = literalCount b' u := by
  unfold literalCount
  exact (perm.filter _).length_eq

/-- Two lists of well-formed literals are equal as multisets of literals exactly when one is a
permutation of the other up to literal equality. -/
theorem sameLiterals_iff_perm {a b : List Json} (wa : ∀ x ∈ a, x.WellFormed)
    (wb : ∀ x ∈ b, x.WellFormed) :
    sameLiterals a b = true ↔ ∃ c, c.Perm b ∧ List.Forall₂ (fun v w => literalEq v w = true) a c := by
  rw [sameLiterals_iff wa wb]
  constructor
  · rintro ⟨sameLength, counts⟩
    induction a generalizing b with
    | nil =>
      obtain rfl := List.eq_nil_of_length_eq_zero sameLength.symm
      exact ⟨[], .refl _, .nil⟩
    | cons v rest ih =>
      have wv := wa v (by simp)
      have counted : 0 < literalCount b v := by
        rw [← counts v wv, literalCount_cons, if_pos (literalEq_self wv)]
        omega
      obtain ⟨w, member, vw⟩ := exists_literalEq_of_count counted
      have ww := wb w member
      obtain ⟨front, back, rfl⟩ := List.append_of_mem member
      have split : (front ++ w :: back).Perm (w :: (front ++ back)) := List.perm_middle
      have rest_counts : ∀ u, u.WellFormed →
          literalCount rest u = literalCount (front ++ back) u := by
        intro u wu
        have total := counts u wu
        rw [literalCount_cons, literalCount_perm split, literalCount_cons,
          literalEq_congr_right wv ww vw] at total
        omega
      obtain ⟨c, perm, matched⟩ := ih (fun x inRest => wa x (by simp [inRest]))
        (fun x inRest => wb x (split.symm.subset (List.mem_cons_of_mem w inRest)))
        (by simp at sameLength ⊢; omega) rest_counts
      exact ⟨w :: c, (perm.cons w).trans split.symm, .cons vw matched⟩
  · rintro ⟨c, perm, matched⟩
    have wc : ∀ x ∈ c, x.WellFormed := fun x member => wb x (perm.subset member)
    refine ⟨matched.length_eq.trans perm.length_eq, fun u _ => ?_⟩
    rw [literalCount_of_forall₂ wa wc matched u, literalCount_perm perm u]

/-- Validation accepts a value against an enumeration of exact literals exactly when some
member has the value's value. -/
theorem passes_enum_iff_sameValue {vals : List Json} {x : Json} (path : String)
    (exactVals : ∀ v ∈ vals, v.exactNumber = true) (exactX : x.exactNumber = true) :
    (validateType (.enum vals) x path).2 = [] ↔ ∃ v ∈ vals, Json.sameValue v x = true := by
  rw [passes_enum_iff]
  refine exists_congr fun v => and_congr_right fun member => ?_
  rw [literalEq_eq_sameValue (exactVals v member) exactX]

/-- One enumeration of exact literals is narrower than another exactly when each of its members
has the value of one of the other's. -/
theorem narrower_enum_iff_sameValue {a b : List Json} (exactA : ∀ v ∈ a, v.exactNumber = true)
    (exactB : ∀ w ∈ b, w.exactNumber = true) :
    (enum a).narrower (.enum b) = true ↔ ∀ v ∈ a, ∃ w ∈ b, Json.sameValue v w = true := by
  simp only [narrower, List.all_eq_true, List.any_eq_true]
  refine forall₂_congr fun v inA => exists_congr fun w => and_congr_right fun inB => ?_
  rw [literalEq_eq_sameValue (exactA v inA) (exactB w inB)]

/-- Two enumerations of well-formed exact literals are equal exactly when their members have
the same values as multisets. -/
theorem beq_enum_iff_sameValue {a b : List Json} (exactA : ∀ v ∈ a, v.exactNumber = true)
    (exactB : ∀ w ∈ b, w.exactNumber = true) (wa : ∀ v ∈ a, v.WellFormed)
    (wb : ∀ w ∈ b, w.WellFormed) :
    (enum a).beq (.enum b) = true ↔
      ∃ c, c.Perm b ∧ List.Forall₂ (fun v w => Json.sameValue v w = true) a c := by
  -- the members of a permutation of `b` are those of `b`, so both equalities agree on them
  have sameOn : ∀ c, c.Perm b → (List.Forall₂ (fun v w => literalEq v w = true) a c ↔
      List.Forall₂ (fun v w => Json.sameValue v w = true) a c) := by
    intro c perm
    have agree : ∀ {v w}, (v, w) ∈ a.zip c → literalEq v w = Json.sameValue v w := by
      intro v w paired
      obtain ⟨inA, inC⟩ := List.of_mem_zip paired
      exact literalEq_eq_sameValue (exactA v inA) (exactB w (perm.subset inC))
    rw [List.forall₂_iff_zip, List.forall₂_iff_zip]
    exact and_congr_right fun _ =>
      forall₂_congr fun _ _ => imp_congr_right fun paired => by rw [agree paired]
  simp only [beq]
  rw [sameLiterals_iff_perm wa wb]
  exact exists_congr fun c => and_congr_right (sameOn c)

end FieldType

/-- Wherever every number among them converts to a double of its own value, enumerations compare
their members exactly: numbers by value, so that `1` and `1.0` match, and other values
structurally.  Validation accepts a value that some member equals, an enumeration is narrower than
another holding a member equal to each of its own, and two enumerations of well-formed members are
equal when their members are equal as multisets. -/
theorem enum_literals_compare_exactly (vals : List Json) (x : Json) (path : String)
    (a b : List Json) (exactVals : ∀ v ∈ vals, v.exactNumber = true)
    (exactX : x.exactNumber = true) (exactA : ∀ v ∈ a, v.exactNumber = true)
    (exactB : ∀ w ∈ b, w.exactNumber = true) :
    ((validateType (.enum vals) x path).2 = [] ↔ ∃ v ∈ vals, Json.sameValue v x = true) ∧
      ((FieldType.enum a).narrower (.enum b) = true ↔
        ∀ v ∈ a, ∃ w ∈ b, Json.sameValue v w = true) ∧
      ((∀ v ∈ a, v.WellFormed) → (∀ w ∈ b, w.WellFormed) →
        ((FieldType.enum a).beq (.enum b) = true ↔
          ∃ c, c.Perm b ∧ List.Forall₂ (fun v w => Json.sameValue v w = true) a c)) :=
  ⟨FieldType.passes_enum_iff_sameValue path exactVals exactX,
    FieldType.narrower_enum_iff_sameValue exactA exactB,
    FieldType.beq_enum_iff_sameValue exactA exactB⟩

/-- The integer `1` and the double `1.0` match in all three comparisons, beside a string. -/
theorem enum_literals_compare_exactly_one_and_one_point_zero :
    (∀ v ∈ [Json.number (.int 1), .string "a"], v.exactNumber = true) ∧
      Json.exactNumber (.number (.float 1.0)) = true ∧
      (∀ w ∈ [Json.string "a", .number (.float 1.0)], w.exactNumber = true) ∧
      ((validateType (.enum [.number (.int 1), .string "a"]) (.number (.float 1.0)) "$").2 = [] ↔
        ∃ v ∈ [Json.number (.int 1), .string "a"],
          Json.sameValue v (.number (.float 1.0)) = true) ∧
      ((FieldType.enum [.number (.int 1), .string "a"]).narrower
          (.enum [.string "a", .number (.float 1.0)]) = true ↔
        ∀ v ∈ [Json.number (.int 1), .string "a"],
          ∃ w ∈ [Json.string "a", .number (.float 1.0)], Json.sameValue v w = true) ∧
      ((FieldType.enum [.number (.int 1), .string "a"]).beq
          (.enum [.string "a", .number (.float 1.0)]) = true ↔
        ∃ c, c.Perm [Json.string "a", .number (.float 1.0)] ∧
          List.Forall₂ (fun v w => Json.sameValue v w = true)
            [.number (.int 1), .string "a"] c) := by
  have exactA : ∀ v ∈ [Json.number (.int 1), .string "a"], v.exactNumber = true := by decide
  have exactX : Json.exactNumber (.number (.float 1.0)) = true := by decide
  have exactB : ∀ w ∈ [Json.string "a", .number (.float 1.0)], w.exactNumber = true := by decide
  have wa : ∀ v ∈ [Json.number (.int 1), .string "a"], v.WellFormed := by
    simp [Json.WellFormed, JsonNumber.WellFormed, JsonNumber.signedMin, JsonNumber.unsignedMax]
  have finite : Float.isFinite 1.0 = true := by decide
  have wb : ∀ w ∈ [Json.string "a", .number (.float 1.0)], w.WellFormed := by
    simp [Json.WellFormed, JsonNumber.WellFormed, finite]
  obtain ⟨passes, narrower, equal⟩ := enum_literals_compare_exactly
    [.number (.int 1), .string "a"] (.number (.float 1.0)) "$"
    [.number (.int 1), .string "a"] [.string "a", .number (.float 1.0)] exactA exactX exactA exactB
  exact ⟨exactA, exactX, exactB, passes, narrower, equal wa wb⟩

/-- Above `2 ^ 53` the three comparisons take distinct integers for one member: `2 ^ 53 + 1` and
`2 ^ 53` differ in value, yet validation accepts the one against the other, each enumeration is
narrower than the other, and the two are equal. -/
theorem enum_literals_collapse_above_two_pow_53 :
    Json.sameValue (.number (.int 9007199254740993)) (.number (.int 9007199254740992)) = false ∧
      (validateType (.enum [.number (.int 9007199254740992)])
        (.number (.int 9007199254740993)) "$").2 = [] ∧
      (FieldType.enum [.number (.int 9007199254740993)]).narrower
        (.enum [.number (.int 9007199254740992)]) = true ∧
      (FieldType.enum [.number (.int 9007199254740992)]).narrower
        (.enum [.number (.int 9007199254740993)]) = true ∧
      (FieldType.enum [.number (.int 9007199254740993)]).beq
        (.enum [.number (.int 9007199254740992)]) = true := by
  have collide : literalEq (.number (.int 9007199254740992))
      (.number (.int 9007199254740993)) = true := by decide
  exact ⟨by decide, FieldType.passes_enum_iff.mpr ⟨_, List.mem_singleton_self _, collide⟩,
    by decide, by decide, by decide⟩

end PromptTrainer
