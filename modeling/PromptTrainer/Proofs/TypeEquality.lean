import PromptTrainer.Proofs.Composition
/-!
# Equality of types is an equivalence

`FieldType.beq` compares enumerations as multisets of literals and records by the field of each
name, ignoring order, titles and descriptions.  On the types the program builds, with distinct
names in every record and well-formed literals, it is an equivalence: reflexive
(`FieldType.beq_self`), symmetric (`FieldType.beq_symm`) and transitive (`FieldType.beq_trans`).

The fact that carries the enumeration case is `FieldType.literalCount_eq_of_counts`.
`sameLiterals a b` only compares the counts of the members of `a`, but with equal lengths it
forces every literal to be counted alike in both lists.  Drop the literals equal to the first
member from both lists: the counts dropped are equal, so what is left is again of equal length,
counted alike, and shorter.  Records need distinct names for symmetry: two equal records then
declare the same names (`Schema.names_perm_of_beq`), so each field of the second finds its
partner in the first.
-/

namespace PromptTrainer

/-! ### Enumerations as multisets of literals -/

namespace FieldType

/-- Literals equal to each other are counted alike in every list. -/
theorem literalCount_congr {v w : Json} (wv : v.WellFormed) (ww : w.WellFormed)
    (equal : literalEq v w = true) (values : List Json) :
    literalCount values v = literalCount values w := by
  unfold literalCount
  congr 1
  apply List.filter_congr
  intro x _
  rw [Bool.eq_iff_iff]
  exact ⟨fun vx => literalEq_trans (literalEq_symm wv ww equal) vx,
    fun wx => literalEq_trans equal wx⟩

/-- Dropping the literals equal to `v` keeps the count of a literal not equal to `v`. -/
theorem literalCount_drop {v w : Json} {values : List Json} (ww : w.WellFormed)
    (wellFormed : ∀ x ∈ values, x.WellFormed) (apart : literalEq v w = false) :
    literalCount (values.filter (fun x => !literalEq v x)) w = literalCount values w := by
  unfold literalCount
  rw [List.filter_filter]
  congr 1
  apply List.filter_congr
  intro x member
  cases wx : literalEq w x with
  | false => simp
  | true =>
    have vx : literalEq v x = false := by
      cases equal : literalEq v x with
      | false => rfl
      | true =>
        have vw := literalEq_trans equal (literalEq_symm ww (wellFormed x member) wx)
        rw [apart] at vw
        cases vw
    simp [vx]

/-- Lists of equal length that count each member of the first alike count every literal alike.
The induction is on a bound of the first list's length: the literals equal to its first member
are dropped from both lists. -/
theorem literalCount_eq_of_counts : ∀ (n : Nat) (a b : List Json), a.length ≤ n →
    (∀ x ∈ a, x.WellFormed) → (∀ x ∈ b, x.WellFormed) → a.length = b.length →
    (∀ v ∈ a, literalCount a v = literalCount b v) →
    ∀ w, w.WellFormed → literalCount a w = literalCount b w
  | 0, [], b, _, _, _, sameLength, _, w, _ => by
    rw [List.eq_nil_of_length_eq_zero sameLength.symm]
  | _ + 1, [], b, _, _, _, sameLength, _, w, _ => by
    rw [List.eq_nil_of_length_eq_zero sameLength.symm]
  | n + 1, v :: rest, b, bound, wa, wb, sameLength, counts, w, ww => by
    have wv : v.WellFormed := wa v List.mem_cons_self
    have countV := counts v List.mem_cons_self
    have self : 0 < literalCount (v :: rest) v :=
      List.length_pos_of_mem (List.mem_filter.mpr ⟨List.mem_cons_self, literalEq_self wv⟩)
    have splitA := List.length_eq_length_filter_add (l := v :: rest) (literalEq v)
    have splitB := List.length_eq_length_filter_add (l := b) (literalEq v)
    unfold literalCount at self countV
    -- what is left of both lists is counted alike, and shorter
    have countsRest : ∀ u ∈ (v :: rest).filter (fun x => !literalEq v x),
        literalCount ((v :: rest).filter (fun x => !literalEq v x)) u =
          literalCount (b.filter (fun x => !literalEq v x)) u := by
      intro u member
      obtain ⟨inA, apart⟩ := List.mem_filter.mp member
      have apart : literalEq v u = false := by simpa using apart
      rw [literalCount_drop (wa u inA) wa apart, literalCount_drop (wa u inA) wb apart]
      exact counts u inA
    have restEq := literalCount_eq_of_counts n _ _ (by omega)
      (fun x member => wa x (List.mem_of_mem_filter member))
      (fun x member => wb x (List.mem_of_mem_filter member)) (by omega) countsRest
    cases vw : literalEq v w with
    | true =>
      rw [← literalCount_congr wv ww vw, ← literalCount_congr wv ww vw]
      exact countV
    | false =>
      rw [← literalCount_drop ww wa vw, ← literalCount_drop ww wb vw]
      exact restEq w ww

/-- On well-formed members, two enumerations are equal exactly when they have the same length
and count every literal alike. -/
theorem sameLiterals_iff {a b : List Json} (wa : ∀ x ∈ a, x.WellFormed)
    (wb : ∀ x ∈ b, x.WellFormed) :
    sameLiterals a b = true ↔
      a.length = b.length ∧ ∀ w, w.WellFormed → literalCount a w = literalCount b w := by
  simp only [sameLiterals, Bool.and_eq_true, beq_iff_eq, List.all_eq_true]
  constructor
  · rintro ⟨sameLength, counts⟩
    exact ⟨sameLength, literalCount_eq_of_counts a.length a b le_rfl wa wb sameLength counts⟩
  · rintro ⟨sameLength, counts⟩
    exact ⟨sameLength, fun v member => counts v (wa v member)⟩

theorem sameLiterals_self (a : List Json) : sameLiterals a a = true := by
  simp [sameLiterals]

theorem sameLiterals_symm {a b : List Json} (wa : ∀ x ∈ a, x.WellFormed)
    (wb : ∀ x ∈ b, x.WellFormed) (same : sameLiterals a b = true) : sameLiterals b a = true := by
  obtain ⟨sameLength, counts⟩ := (sameLiterals_iff wa wb).mp same
  exact (sameLiterals_iff wb wa).mpr ⟨sameLength.symm, fun w ww => (counts w ww).symm⟩

theorem sameLiterals_trans {a b c : List Json} (wa : ∀ x ∈ a, x.WellFormed)
    (wb : ∀ x ∈ b, x.WellFormed) (wc : ∀ x ∈ c, x.WellFormed) (ab : sameLiterals a b = true)
    (bc : sameLiterals b c = true) : sameLiterals a c = true := by
  obtain ⟨lengthAB, countsAB⟩ := (sameLiterals_iff wa wb).mp ab
  obtain ⟨lengthBC, countsBC⟩ := (sameLiterals_iff wb wc).mp bc
  exact (sameLiterals_iff wa wc).mpr
    ⟨lengthAB.trans lengthBC, fun w ww => (countsAB w ww).trans (countsBC w ww)⟩

end FieldType

/-! ### Records field by field -/

namespace Field

/-- Equality of optional defaults: both absent, or both present and equal. -/
def defaultsBeq : Option Json → Option Json → Bool
  | some a, some b => a.beq b
  | none, none => true
  | _, _ => false

/-- Two fields are alike for record equality: equal types, the same `required` flag and equal
defaults. -/
def alike (f g : Field) : Bool :=
  f.type.beq g.type && f.required == g.required && defaultsBeq f.default g.default

theorem alike_self {f : Field} (selfType : f.type.beq f.type = true)
    (defaults : ∀ d ∈ f.default, d.WellFormed) : f.alike f = true := by
  obtain ⟨name, type, required, default, description⟩ := f
  cases default with
  | none => simp [alike, defaultsBeq, selfType]
  | some d => simp [alike, defaultsBeq, selfType, Json.beq_self (defaults d rfl)]

theorem alike_symm {f g : Field} (symmType : f.type.beq g.type = true → g.type.beq f.type = true)
    (defaultsF : ∀ d ∈ f.default, d.WellFormed) (defaultsG : ∀ d ∈ g.default, d.WellFormed)
    (alike : f.alike g = true) : g.alike f = true := by
  simp only [Field.alike, Bool.and_eq_true, beq_iff_eq] at alike ⊢
  obtain ⟨⟨types, flags⟩, defaults⟩ := alike
  refine ⟨⟨symmType types, flags.symm⟩, ?_⟩
  cases df : f.default with
  | none => cases dg : g.default <;> simp_all [defaultsBeq]
  | some x =>
    cases dg : g.default with
    | none => simp_all [defaultsBeq]
    | some y =>
      rw [df, dg] at defaults
      exact Json.beq_symm (defaultsF x df) (defaultsG y dg) defaults

theorem alike_trans {f g h : Field}
    (transType : f.type.beq g.type = true → g.type.beq h.type = true → f.type.beq h.type = true)
    (fg : f.alike g = true) (gh : g.alike h = true) : f.alike h = true := by
  simp only [Field.alike, Bool.and_eq_true, beq_iff_eq] at fg gh ⊢
  refine ⟨⟨transType fg.1.1 gh.1.1, fg.1.2.trans gh.1.2⟩, ?_⟩
  have defaultsFG := fg.2
  have defaultsGH := gh.2
  cases df : f.default <;> cases dg : g.default <;> cases dh : h.default <;>
    simp only [df, dg, dh, defaultsBeq, Bool.false_eq_true] at defaultsFG defaultsGH ⊢
  exact Json.beq_trans defaultsFG defaultsGH

end Field

namespace Schema

theorem beqFields_cons (f : Field) (rest : List Field) (other : Schema) :
    beqFields (f :: rest) other = ((other.field? f.name).any f.alike && beqFields rest other) := by
  obtain ⟨name, type, required, default, description⟩ := f
  rw [beqFields]
  cases other.field? name with
  | none => rfl
  | some g => cases default <;> cases g.default <;> rfl

/-- Record equality field by field: equal lengths, and each field finds a field of its name in
the other schema that it is alike to. -/
theorem beq_iff {s t : Schema} :
    s.beq t = true ↔ s.fields.length = t.fields.length ∧
      ∀ f ∈ s.fields, ∃ g, t.field? f.name = some g ∧ f.alike g = true := by
  obtain ⟨title, fields⟩ := s
  rw [beq_eq, Bool.and_eq_true, beq_iff_eq]
  have partners : beqFields fields t = true ↔
      ∀ f ∈ fields, ∃ g, t.field? f.name = some g ∧ f.alike g = true := by
    induction fields with
    | nil => simp [beqFields]
    | cons f rest ih => simp [beqFields_cons, ih, Option.any_eq_true]
  rw [partners]

/-- Two equal schemas, the first with distinct names, declare the same names. -/
theorem names_perm_of_beq {s t : Schema} (distinct : s.names.Nodup) (same : s.beq t = true) :
    s.names.Perm t.names := by
  obtain ⟨sameLength, partners⟩ := beq_iff.mp same
  have covered : s.names ⊆ t.names := by
    intro name member
    obtain ⟨f, present, rfl⟩ := List.mem_map.mp member
    obtain ⟨g, found, -⟩ := partners f present
    obtain ⟨inT, named⟩ := mem_of_field? found
    exact List.mem_map.mpr ⟨g, inT, named⟩
  exact (List.subperm_of_subset distinct covered).perm_of_length_le (by simp [names, sameLength])

/-- In equal schemas with distinct names, each field of the second has a partner of its name in
the first, alike to it. -/
theorem partner_of_beq_symm {s t : Schema} (distinctS : s.names.Nodup) (distinctT : t.names.Nodup)
    (same : s.beq t = true) :
    ∀ g ∈ t.fields, ∃ f, s.field? g.name = some f ∧ f ∈ s.fields ∧ f.alike g = true := by
  intro g member
  obtain ⟨-, partners⟩ := beq_iff.mp same
  have named : g.name ∈ s.names :=
    (names_perm_of_beq distinctS same).symm.subset (List.mem_map_of_mem member)
  obtain ⟨f, present, sameName⟩ := List.mem_map.mp named
  obtain ⟨g', found, alike⟩ := partners f present
  have : g' = g := by
    rw [sameName, field?_of_mem distinctT member] at found
    exact (Option.some.inj found).symm
  subst this
  exact ⟨f, sameName ▸ field?_of_mem distinctS present, present, alike⟩

theorem beq_self_of_fields {s : Schema} (distinct : s.names.Nodup)
    (defaults : ∀ f ∈ s.fields, ∀ d ∈ f.default, d.WellFormed)
    (types : ∀ f ∈ s.fields, f.type.beq f.type = true) : s.beq s = true :=
  beq_iff.mpr ⟨rfl, fun f member =>
    ⟨f, field?_of_mem distinct member, Field.alike_self (types f member) (defaults f member)⟩⟩

theorem beq_symm_of_fields {s t : Schema} (distinctS : s.names.Nodup) (distinctT : t.names.Nodup)
    (defaultsS : ∀ f ∈ s.fields, ∀ d ∈ f.default, d.WellFormed)
    (defaultsT : ∀ g ∈ t.fields, ∀ d ∈ g.default, d.WellFormed)
    (types : ∀ f ∈ s.fields, ∀ g ∈ t.fields, f.type.beq g.type = true → g.type.beq f.type = true)
    (same : s.beq t = true) : t.beq s = true := by
  obtain ⟨sameLength, -⟩ := beq_iff.mp same
  refine beq_iff.mpr ⟨sameLength.symm, fun g member => ?_⟩
  obtain ⟨f, found, present, alike⟩ := partner_of_beq_symm distinctS distinctT same g member
  exact ⟨f, found, Field.alike_symm (types f present g member) (defaultsS f present)
    (defaultsT g member) alike⟩

theorem beq_trans_of_fields {s t u : Schema}
    (types : ∀ f ∈ s.fields, ∀ g ∈ t.fields, ∀ h ∈ u.fields,
      f.type.beq g.type = true → g.type.beq h.type = true → f.type.beq h.type = true)
    (st : s.beq t = true) (tu : t.beq u = true) : s.beq u = true := by
  obtain ⟨lengthST, partnersST⟩ := beq_iff.mp st
  obtain ⟨lengthTU, partnersTU⟩ := beq_iff.mp tu
  refine beq_iff.mpr ⟨lengthST.trans lengthTU, fun f member => ?_⟩
  obtain ⟨g, foundG, fg⟩ := partnersST f member
  obtain ⟨inT, namedG⟩ := mem_of_field? foundG
  obtain ⟨h, foundH, gh⟩ := partnersTU g inT
  exact ⟨h, namedG ▸ foundH,
    Field.alike_trans (types f member g inT h (mem_of_field? foundH).1) fg gh⟩

end Schema

/-! ### The laws, by recursion on the type -/

namespace FieldType

mutual
/-- Every type with distinct names and well-formed literals equals itself. -/
theorem beq_self : ∀ (a : FieldType), a.DistinctNames → a.LiteralsWellFormed → a.beq a = true
  | .string, _, _ | .integer, _, _ | .number, _, _ | .boolean, _, _ | .any, _, _ => rfl
  | .list a, names, literals => beq_self a names.of_list literals.of_list
  | .map a, names, literals => beq_self a names.of_map literals.of_map
  | .optional a, names, literals => beq_self a names.of_optional literals.of_optional
  | .enum values, _, _ => sameLiterals_self values
  | .object ⟨_, _⟩, names, literals =>
    Schema.beq_self_of_fields names.schema (fun _ member _ given => literals.default member given)
      (fieldsBeq_self (fun _ member => names.field member) (fun _ member => literals.field member))

theorem fieldsBeq_self : ∀ {fields : List Field}, (∀ f ∈ fields, f.type.DistinctNames) →
    (∀ f ∈ fields, f.type.LiteralsWellFormed) → ∀ f ∈ fields, f.type.beq f.type = true
  | [], _, _ => by simp
  | ⟨_, _, _, _, _⟩ :: _, names, literals => by
    intro f member
    rcases List.mem_cons.mp member with rfl | later
    · exact beq_self _ (names _ List.mem_cons_self) (literals _ List.mem_cons_self)
    · exact fieldsBeq_self (fun g inRest => names g (List.mem_cons_of_mem _ inRest))
        (fun g inRest => literals g (List.mem_cons_of_mem _ inRest)) f later
end

mutual
/-- Equality of types with distinct names and well-formed literals is symmetric. -/
theorem beq_symm : ∀ (a b : FieldType), a.DistinctNames → b.DistinctNames →
    a.LiteralsWellFormed → b.LiteralsWellFormed → a.beq b = true → b.beq a = true
  | .string, b, _, _, _, _, same | .integer, b, _, _, _, _, same | .number, b, _, _, _, _, same
  | .boolean, b, _, _, _, _, same | .any, b, _, _, _, _, same => by
    cases b <;> simp_all [beq]
  | .list a, b, namesA, namesB, literalsA, literalsB, same => by
    cases b with
    | list b => exact beq_symm a b namesA.of_list namesB.of_list literalsA.of_list literalsB.of_list same
    | _ => simp [beq] at same
  | .map a, b, namesA, namesB, literalsA, literalsB, same => by
    cases b with
    | map b => exact beq_symm a b namesA.of_map namesB.of_map literalsA.of_map literalsB.of_map same
    | _ => simp [beq] at same
  | .optional a, b, namesA, namesB, literalsA, literalsB, same => by
    cases b with
    | optional b =>
      exact beq_symm a b namesA.of_optional namesB.of_optional literalsA.of_optional
        literalsB.of_optional same
    | _ => simp [beq] at same
  | .enum values, b, _, _, literalsA, literalsB, same => by
    cases b with
    | enum others => exact sameLiterals_symm literalsA.members literalsB.members same
    | _ => simp [beq] at same
  | .object ⟨title, fields⟩, b, namesA, namesB, literalsA, literalsB, same => by
    cases b with
    | object t =>
      exact Schema.beq_symm_of_fields namesA.schema namesB.schema
        (fun _ member _ given => literalsA.default member given)
        (fun _ member _ given => literalsB.default member given)
        (fun f present g member => fieldsBeq_symm (fun _ inA => namesA.field inA)
          (fun _ inA => literalsA.field inA) f present g.type (namesB.field member)
          (literalsB.field member))
        same
    | _ => simp [beq] at same

theorem fieldsBeq_symm : ∀ {fields : List Field}, (∀ f ∈ fields, f.type.DistinctNames) →
    (∀ f ∈ fields, f.type.LiteralsWellFormed) →
    ∀ f ∈ fields, ∀ b, b.DistinctNames → b.LiteralsWellFormed → f.type.beq b = true →
      b.beq f.type = true
  | [], _, _ => by simp
  | ⟨_, _, _, _, _⟩ :: _, names, literals => by
    intro f member
    rcases List.mem_cons.mp member with rfl | later
    · exact fun b namesB literalsB =>
        beq_symm _ b (names _ List.mem_cons_self) namesB (literals _ List.mem_cons_self) literalsB
    · exact fieldsBeq_symm (fun g inRest => names g (List.mem_cons_of_mem _ inRest))
        (fun g inRest => literals g (List.mem_cons_of_mem _ inRest)) f later
end

mutual
/-- Equality of types with well-formed literals is transitive; names play no part. -/
theorem beq_trans : ∀ (a b c : FieldType), a.LiteralsWellFormed → b.LiteralsWellFormed →
    c.LiteralsWellFormed → a.beq b = true → b.beq c = true → a.beq c = true
  | .string, b, c, _, _, _, ab, bc | .integer, b, c, _, _, _, ab, bc
  | .number, b, c, _, _, _, ab, bc | .boolean, b, c, _, _, _, ab, bc
  | .any, b, c, _, _, _, ab, bc => by
    cases b <;> simp_all [beq]
  | .list a, b, c, literalsA, literalsB, literalsC, ab, bc => by
    cases b with
    | list b =>
      cases c with
      | list c => exact beq_trans a b c literalsA.of_list literalsB.of_list literalsC.of_list ab bc
      | _ => simp [beq] at bc
    | _ => simp [beq] at ab
  | .map a, b, c, literalsA, literalsB, literalsC, ab, bc => by
    cases b with
    | map b =>
      cases c with
      | map c => exact beq_trans a b c literalsA.of_map literalsB.of_map literalsC.of_map ab bc
      | _ => simp [beq] at bc
    | _ => simp [beq] at ab
  | .optional a, b, c, literalsA, literalsB, literalsC, ab, bc => by
    cases b with
    | optional b =>
      cases c with
      | optional c =>
        exact beq_trans a b c literalsA.of_optional literalsB.of_optional literalsC.of_optional
          ab bc
      | _ => simp [beq] at bc
    | _ => simp [beq] at ab
  | .enum values, b, c, literalsA, literalsB, literalsC, ab, bc => by
    cases b with
    | enum middle =>
      cases c with
      | enum others =>
        exact sameLiterals_trans literalsA.members literalsB.members literalsC.members ab bc
      | _ => simp [beq] at bc
    | _ => simp [beq] at ab
  | .object ⟨title, fields⟩, b, c, literalsA, literalsB, literalsC, ab, bc => by
    cases b with
    | object t =>
      cases c with
      | object u =>
        exact Schema.beq_trans_of_fields
          (fun f present g inT h inU => fieldsBeq_trans (fun _ inA => literalsA.field inA) f present
            g.type h.type (literalsB.field inT) (literalsC.field inU))
          ab bc
      | _ => simp [beq] at bc
    | _ => simp [beq] at ab

theorem fieldsBeq_trans : ∀ {fields : List Field}, (∀ f ∈ fields, f.type.LiteralsWellFormed) →
    ∀ f ∈ fields, ∀ b c, b.LiteralsWellFormed → c.LiteralsWellFormed → f.type.beq b = true →
      b.beq c = true → f.type.beq c = true
  | [], _ => by simp
  | ⟨_, _, _, _, _⟩ :: _, literals => by
    intro f member
    rcases List.mem_cons.mp member with rfl | later
    · exact fun b c => beq_trans _ b c (literals _ List.mem_cons_self)
    · exact fieldsBeq_trans (fun g inRest => literals g (List.mem_cons_of_mem _ inRest)) f later
end

end FieldType

end PromptTrainer
