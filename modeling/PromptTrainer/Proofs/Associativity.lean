import PromptTrainer.Proofs.TypeEquality
/-!
# Composition is an idempotent semigroup

On schemas with distinct names a composition has a closed form (`Schema.compose_eq`): it fails
with a conflict when a right-hand field clashes with the left, and otherwise holds `Schema.meet`,
the left's fields each absorbing its partner, then the right's fields of new names.  This module
shows that both groupings of three compositions end alike, and that a schema composed with itself
is itself.

* The fields of the two groupings agree by a computation on the closed form
  (`Schema.meetFields_assoc`): absorbing is associative, and the new names are taken in the same
  order either way.
* The two groupings fail on the same inputs.  Name by name, a composition only compares the type
  a name first receives with the types that come later (`Schema.typeOf?_meet`).  For a name that
  all three declare, the left grouping compares the first type with the other two, the right
  grouping the second with the third and the first with the second.  These agree because
  equality of types is an equivalence on the schemas the program builds (`FieldType.beq_symm`,
  `FieldType.beq_trans`).

Main statement: `Schema.compose_semigroup`.
-/

namespace PromptTrainer

namespace Field

theorem absorb_assoc (f g h : Field) : (f.absorb g).absorb h = f.absorb (g.absorb h) := by
  simp [absorb, Option.or_assoc, Bool.or_assoc]

theorem absorb_self (f : Field) : f.absorb f = f := by
  cases f
  simp [absorb, Option.or_self]

end Field

namespace Schema

/-- The closed form of a composition: the left's fields meeting the right's, under the left's
title, else the right's. -/
def meet (a b : Schema) : Schema := ⟨a.title.or b.title, meetFields a b.fields⟩

/-- The type a schema declares under a name, if it declares it. -/
def typeOf? (s : Schema) (name : String) : Option FieldType := (s.field? name).map Field.type

@[simp] theorem meet_title (a b : Schema) : (a.meet b).title = a.title.or b.title := rfl

@[simp] theorem meet_fields (a b : Schema) : (a.meet b).fields = meetFields a b.fields := rfl

/-! ### The fields of a composition, name by name -/

/-- Looking a name up among met fields finds the left-hand field of that name, met. -/
theorem find?_map_meetField (a : Schema) (rights : List Field) (name : String) :
    (a.fields.map (meetField rights)).find? (fun x => x.name == name) =
      (a.field? name).map (meetField rights) := by
  have sameTest : ((fun x : Field => x.name == name) ∘ meetField rights) =
      fun x => x.name == name := by
    funext x
    simp
  rw [List.find?_map, sameTest]
  rfl

/-- Right-hand fields of a name the left does not declare are all kept. -/
theorem find?_filter_undeclared {a : Schema} {name : String} (undeclared : a.hasField name = false)
    (rights : List Field) :
    (rights.filter (fun g => !a.hasField g.name)).find? (fun x => x.name == name) =
      rights.find? (fun x => x.name == name) := by
  rw [List.find?_filter]
  congr 1
  funext x
  by_cases named : x.name = name
  · simp [named, undeclared]
  · simp [named]

/-- A composition declares under a name the left's type, else the right's. -/
theorem typeOf?_meet (a b : Schema) (name : String) :
    (a.meet b).typeOf? name = (a.typeOf? name).or (b.typeOf? name) := by
  have split : (a.meet b).field? name = ((a.field? name).map (meetField b.fields)).or
      ((b.fields.filter (fun g => !a.hasField g.name)).find? (fun x => x.name == name)) := by
    rw [field?, meet_fields, meetFields, List.find?_append, find?_map_meetField]
  unfold typeOf?
  rw [split]
  cases declared : a.field? name with
  | some f => simp
  | none =>
    rw [find?_filter_undeclared (hasField_eq_false_of_field? declared)]
    simp [field?]

theorem hasField_iff_typeOf? (s : Schema) (name : String) :
    s.hasField name = true ↔ (s.typeOf? name).isSome := by
  cases found : s.field? name with
  | none => simp [typeOf?, found, hasField_eq_false_of_field? found]
  | some f =>
    obtain ⟨member, named⟩ := mem_of_field? found
    simp only [typeOf?, found, Option.map_some, Option.isSome_some, iff_true]
    exact List.any_eq_true.mpr ⟨f, member, by simp [named]⟩

theorem hasField_meet (a b : Schema) (name : String) :
    (a.meet b).hasField name = (a.hasField name || b.hasField name) := by
  rw [Bool.eq_iff_iff, hasField_iff_typeOf?, typeOf?_meet, Bool.or_eq_true, hasField_iff_typeOf?,
    hasField_iff_typeOf?]
  cases a.typeOf? name <;> simp

/-! ### The fields of both groupings agree -/

/-- A left-hand field meets the right-hand fields of a composition as it meets the two sides one
after the other. -/
theorem meetField_meetFields (b : Schema) (rights : List Field) (f : Field) :
    meetField (meetFields b rights) f = meetField rights (meetField b.fields f) := by
  have inMet : (meetFields b rights).find? (fun x => x.name == f.name) =
      ((b.field? f.name).map (meetField rights)).or
        ((rights.filter (fun g => !b.hasField g.name)).find? (fun x => x.name == f.name)) := by
    rw [meetFields, List.find?_append, find?_map_meetField]
  cases partner : b.field? f.name with
  | some g =>
    have named : g.name = f.name := (mem_of_field? partner).2
    have sameName : (fun x : Field => x.name == g.name) = fun x => x.name == f.name := by
      rw [named]
    rw [partner, Option.map_some, Option.some_or] at inMet
    rw [meetField_of_partner inMet, meetField_of_partner partner]
    unfold meetField
    rw [Field.absorb_name, sameName]
    cases rights.find? (fun x => x.name == f.name) with
    | some h => exact (Field.absorb_assoc f g h).symm
    | none => rfl
  | none =>
    rw [partner, Option.map_none, Option.none_or,
      find?_filter_undeclared (hasField_eq_false_of_field? partner)] at inMet
    rw [meetField_of_alone partner]
    unfold meetField
    rw [inMet]

/-- The fields of both groupings of three compositions are the same, in the same order. -/
theorem meetFields_assoc (a b : Schema) (rights : List Field) :
    meetFields (a.meet b) rights = meetFields a (meetFields b rights) := by
  have leftFields : (a.meet b).fields.map (meetField rights) =
      a.fields.map (meetField (meetFields b rights)) ++
        (b.fields.filter (fun g => !a.hasField g.name)).map (meetField rights) := by
    rw [meet_fields, meetFields, List.map_append, List.map_map]
    congr 1
    exact List.map_congr_left (fun f _ => (meetField_meetFields b rights f).symm)
  -- met right-hand fields keep their names, so filtering commutes with meeting
  have middle : (b.fields.filter (fun g => !a.hasField g.name)).map (meetField rights) =
      (b.fields.map (meetField rights)).filter (fun g => !a.hasField g.name) := by
    rw [List.filter_map]
    congr 2
    funext g
    simp
  have newNames : rights.filter (fun g => !(a.meet b).hasField g.name) =
      (rights.filter (fun g => !b.hasField g.name)).filter (fun g => !a.hasField g.name) := by
    rw [List.filter_filter]
    congr 1
    funext g
    rw [hasField_meet]
    cases a.hasField g.name <;> cases b.hasField g.name <;> rfl
  have rightNew : (meetFields b rights).filter (fun g => !a.hasField g.name) =
      (b.fields.map (meetField rights)).filter (fun g => !a.hasField g.name) ++
        (rights.filter (fun g => !b.hasField g.name)).filter (fun g => !a.hasField g.name) := by
    rw [meetFields, List.filter_append]
  show (a.meet b).fields.map (meetField rights) ++
      rights.filter (fun g => !(a.meet b).hasField g.name) =
    a.fields.map (meetField (meetFields b rights)) ++
      (meetFields b rights).filter (fun g => !a.hasField g.name)
  rw [leftFields, newNames, rightNew, middle, List.append_assoc]

theorem meet_assoc (a b c : Schema) : (a.meet b).meet c = a.meet (b.meet c) := by
  have fields := meetFields_assoc a b c.fields
  simp only [meet] at fields ⊢
  rw [fields, Option.or_assoc]

/-- A schema with distinct names met with itself is itself: each field absorbs itself, and no
name is new. -/
theorem meet_self {a : Schema} (distinct : a.names.Nodup) : a.meet a = a := by
  have absorbed : a.fields.map (meetField a.fields) = a.fields := by
    refine (List.map_congr_left (fun f member => ?_)).trans (List.map_id a.fields)
    rw [meetField_of_partner (field?_of_mem distinct member), Field.absorb_self]
    rfl
  have nothingNew : a.fields.filter (fun g => !a.hasField g.name) = [] := by
    rw [List.filter_eq_nil_iff]
    intro g member
    simp [(hasField_iff_typeOf? a g.name).mpr (by simp [typeOf?, field?_of_mem distinct member])]
  obtain ⟨title, fields⟩ := a
  simp only [meet, meetFields] at absorbed nothingNew ⊢
  rw [absorbed, nothingNew, List.append_nil, Option.or_self]

/-! ### How a composition ends -/

/-- A result that is the closed form when a condition holds, and a conflict otherwise. -/
def Settles (r : Except SchemaError Schema) (holds : Prop) (s : Schema) : Prop :=
  (holds ∧ r = .ok s) ∨ (¬ holds ∧ ∃ name left right, r = .error (.conflict name left right))

/-- A composition onto a schema with distinct names ends with its closed form when no right-hand
field clashes, and with a conflict otherwise. -/
theorem compose_settles (a : Schema) {b : Schema} (distinct : b.names.Nodup) :
    Settles (a.compose b) (∀ g ∈ b.fields, a.clash? g = none) (a.meet b) := by
  rw [compose_eq distinct]
  cases first : b.fields.findSome? a.clash? with
  | none => exact .inl ⟨List.findSome?_eq_none_iff.mp first, rfl⟩
  | some e =>
    obtain ⟨g, member, clashes⟩ := List.exists_of_findSome?_eq_some first
    obtain ⟨f, -, -, rfl⟩ := exists_of_clash? clashes
    refine .inr ⟨fun agrees => ?_, _, _, _, rfl⟩
    rw [agrees g member] at clashes
    cases clashes

/-- Two compositions in a row end with the second's closed form when both conditions hold. -/
theorem Settles.bind {r : Except SchemaError Schema} {holds : Prop} {s : Schema}
    (first : Settles r holds s) (next : Schema → Except SchemaError Schema) {holdsNext : Prop}
    {t : Schema} (second : Settles (next s) holdsNext t) :
    Settles (r >>= next) (holds ∧ holdsNext) t := by
  rcases first with ⟨holding, rfl⟩ | ⟨failing, name, left, right, rfl⟩
  · rcases second with ⟨holdingNext, done⟩ | ⟨failingNext, conflict⟩
    · exact .inl ⟨⟨holding, holdingNext⟩, done⟩
    · exact .inr ⟨fun both => failingNext both.2, conflict⟩
  · exact .inr ⟨fun both => failing both.1, name, left, right, rfl⟩

/-- Two results that settle on the same condition and form both succeed alike or both fail
with a conflict. -/
theorem Settles.agree {r r' : Except SchemaError Schema} {holds : Prop} {s : Schema}
    (left : Settles r holds s) (right : Settles r' holds s) :
    (∃ t, r = .ok t ∧ r' = .ok t) ∨
      ((∃ name left right, r = .error (.conflict name left right)) ∧
        ∃ name left right, r' = .error (.conflict name left right)) := by
  rcases left with ⟨holding, rfl⟩ | ⟨failing, conflict⟩
  · rcases right with ⟨-, rfl⟩ | ⟨failing, -⟩
    · exact .inl ⟨s, rfl, rfl⟩
    · exact absurd holding failing
  · rcases right with ⟨holding, -⟩ | ⟨-, conflict'⟩
    · exact absurd holding failing
    · exact .inr ⟨conflict, conflict'⟩

/-! ### Both groupings clash on the same inputs -/

/-- Every type that an optional declaration carries is equal to a type. -/
def Agrees (declared : Option FieldType) (t : FieldType) : Prop :=
  ∀ u, declared = some u → u.beq t = true

theorem clash?_eq_none_iff (a : Schema) (g : Field) :
    a.clash? g = none ↔ Agrees (a.typeOf? g.name) g.type := by
  cases declared : a.field? g.name with
  | none => simp [Agrees, typeOf?, declared, clash?_of_undeclared declared]
  | some f =>
    cases equal : f.type.beq g.type
    · simp [Agrees, typeOf?, declared, clash?_of_unequal declared equal, equal]
    · simp [Agrees, typeOf?, declared, clash?_of_equal declared equal, equal]

/-- A condition on every field of a schema with distinct names is a condition on every name it
declares, with the type it declares there. -/
theorem forall_fields_iff {s : Schema} (distinct : s.names.Nodup) (P : String → FieldType → Prop) :
    (∀ g ∈ s.fields, P g.name g.type) ↔ ∀ name t, s.typeOf? name = some t → P name t := by
  constructor
  · intro each name t declared
    obtain ⟨g, found, rfl⟩ := Option.map_eq_some_iff.mp declared
    obtain ⟨member, rfl⟩ := mem_of_field? found
    exact each g member
  · intro each g member
    exact each g.name g.type (by simp [typeOf?, field?_of_mem distinct member])

/-- One name's part in both groupings: with types equal as an equivalence, comparing the first
type with the other two is comparing the second with the third and the first with the second. -/
theorem agrees_assoc {first second third : Option FieldType}
    (equivalent : ∀ x y z, first = some x → second = some y → third = some z → x.beq y = true →
      (x.beq z = true ↔ y.beq z = true)) :
    ((∀ t, second = some t → Agrees first t) ∧ ∀ t, third = some t → Agrees (first.or second) t) ↔
      ((∀ t, third = some t → Agrees second t) ∧ ∀ t, second.or third = some t → Agrees first t) := by
  cases first with
  | none => cases second <;> cases third <;> simp [Agrees]
  | some x =>
    cases second with
    | none => cases third <;> simp [Agrees]
    | some y =>
      cases third with
      | none => simp [Agrees]
      | some z =>
        have swap := equivalent x y z rfl rfl rfl
        simp only [Agrees, Option.some_or, Option.some.injEq, forall_eq']
        exact ⟨fun ⟨xy, xz⟩ => ⟨(swap xy).mp xz, xy⟩, fun ⟨yz, xy⟩ => ⟨xy, (swap xy).mpr yz⟩⟩

section Groupings

variable {a b c : Schema}

/-- The conditions under which `(a ∘ b) ∘ c` and `a ∘ (b ∘ c)` succeed agree, given equality of
types as an equivalence on the types the three declare under a shared name. -/
theorem groupings_agree (distinctB : b.names.Nodup) (distinctC : c.names.Nodup)
    (equivalent : ∀ name x y z, a.typeOf? name = some x → b.typeOf? name = some y →
      c.typeOf? name = some z → x.beq y = true → (x.beq z = true ↔ y.beq z = true)) :
    ((∀ g ∈ b.fields, a.clash? g = none) ∧ ∀ h ∈ c.fields, (a.meet b).clash? h = none) ↔
      ((∀ h ∈ c.fields, b.clash? h = none) ∧ ∀ g ∈ (b.meet c).fields, a.clash? g = none) := by
  have distinctBC : (b.meet c).names.Nodup := meetFields_nodup distinctB distinctC
  simp only [clash?_eq_none_iff]
  rw [forall_fields_iff distinctB (fun name t => Agrees (a.typeOf? name) t),
    forall_fields_iff distinctC (fun name t => Agrees ((a.meet b).typeOf? name) t),
    forall_fields_iff distinctC (fun name t => Agrees (b.typeOf? name) t),
    forall_fields_iff distinctBC (fun name t => Agrees (a.typeOf? name) t)]
  simp only [typeOf?_meet]
  constructor
  · rintro ⟨leftB, leftC⟩
    have each := fun name =>
      (agrees_assoc (equivalent name)).mp ⟨leftB name, leftC name⟩
    exact ⟨fun name => (each name).1, fun name => (each name).2⟩
  · rintro ⟨rightC, rightBC⟩
    have each := fun name =>
      (agrees_assoc (equivalent name)).mpr ⟨rightC name, rightBC name⟩
    exact ⟨fun name => (each name).1, fun name => (each name).2⟩

end Groupings

/-- A type a schema declares is the type of one of its fields. -/
theorem exists_field_of_typeOf? {s : Schema} {name : String} {t : FieldType}
    (declared : s.typeOf? name = some t) : ∃ f ∈ s.fields, f.type = t := by
  obtain ⟨f, found, rfl⟩ := Option.map_eq_some_iff.mp declared
  exact ⟨f, (mem_of_field? found).1, rfl⟩

/-- On the schemas the program builds, composition is an idempotent semigroup.  The two
groupings of three compositions both succeed with the same schema, fields, order, flags,
defaults, descriptions and title alike, or both fail with a conflict; and a schema composed with
itself is itself. -/
theorem compose_semigroup
    {a b c : Schema}
    (namesA : (FieldType.object a).DistinctNames)
    (namesB : (FieldType.object b).DistinctNames)
    (namesC : (FieldType.object c).DistinctNames)
    (literalsA : (FieldType.object a).LiteralsWellFormed)
    (literalsB : (FieldType.object b).LiteralsWellFormed)
    (literalsC : (FieldType.object c).LiteralsWellFormed) :
    ((∃ s, (a.compose b >>= (·.compose c)) = .ok s ∧ (b.compose c >>= a.compose) = .ok s) ∨
      ((∃ name left right, (a.compose b >>= (·.compose c)) = .error (.conflict name left right)) ∧
        ∃ name left right, (b.compose c >>= a.compose) = .error (.conflict name left right))) ∧
    a.compose a = .ok a := by
  have distinctA := namesA.schema
  have distinctB := namesB.schema
  have distinctC := namesC.schema
  -- a name the three declare carries types that equality treats as an equivalence
  have equivalent : ∀ name x y z, a.typeOf? name = some x → b.typeOf? name = some y →
      c.typeOf? name = some z → x.beq y = true → (x.beq z = true ↔ y.beq z = true) := by
    intro name x y z inA inB inC xy
    obtain ⟨f, memberA, rfl⟩ := exists_field_of_typeOf? inA
    obtain ⟨g, memberB, rfl⟩ := exists_field_of_typeOf? inB
    obtain ⟨h, memberC, rfl⟩ := exists_field_of_typeOf? inC
    have yx := FieldType.beq_symm _ _ (namesA.field memberA) (namesB.field memberB)
      (literalsA.field memberA) (literalsB.field memberB) xy
    exact ⟨fun xz => FieldType.beq_trans _ _ _ (literalsB.field memberB) (literalsA.field memberA)
        (literalsC.field memberC) yx xz,
      fun yz => FieldType.beq_trans _ _ _ (literalsA.field memberA) (literalsB.field memberB)
        (literalsC.field memberC) xy yz⟩
  have left := (compose_settles a distinctB).bind (·.compose c)
    (compose_settles (a.meet b) distinctC)
  have right := (compose_settles b distinctC).bind a.compose
    (compose_settles a (b := b.meet c) (meetFields_nodup distinctB distinctC))
  rw [← groupings_agree distinctB distinctC equivalent, ← meet_assoc] at right
  refine ⟨left.agree right, ?_⟩
  have agrees : ∀ g ∈ a.fields, a.clash? g = none := fun g member =>
    clash?_of_equal (field?_of_mem distinctA member)
      (FieldType.beq_self _ (namesA.field member) (literalsA.field member))
  rcases compose_settles a distinctA with ⟨-, done⟩ | ⟨failing, -⟩
  · rw [done, meet_self distinctA]
  · exact absurd agrees failing

/-- Composing `{x: enum[1, 2]}`, `{x?: enum[2.0, 1], y?: string}` and `{y: string, z?: integer}`:
both groupings succeed with the same schema, the shared enumerations being equal as multisets of
literals. -/
theorem compose_semigroup_shared_enumeration :
    (FieldType.object ⟨none, [Field.ofRequired "x"
      (.enum [.number (.int 1), .number (.int 2)])]⟩).DistinctNames ∧
    (FieldType.object ⟨some "B", [Field.ofOptional "x"
      (.enum [.number (.float 2.0), .number (.int 1)]), Field.ofOptional "y" .string]⟩).DistinctNames ∧
    (FieldType.object ⟨none, [Field.ofRequired "y" .string,
      Field.ofOptional "z" .integer]⟩).DistinctNames ∧
    (FieldType.object ⟨none, [Field.ofRequired "x"
      (.enum [.number (.int 1), .number (.int 2)])]⟩).LiteralsWellFormed ∧
    (FieldType.object ⟨some "B", [Field.ofOptional "x"
      (.enum [.number (.float 2.0), .number (.int 1)]),
      Field.ofOptional "y" .string]⟩).LiteralsWellFormed ∧
    (FieldType.object ⟨none, [Field.ofRequired "y" .string,
      Field.ofOptional "z" .integer]⟩).LiteralsWellFormed ∧
    ((∃ s, (Schema.compose ⟨none, [Field.ofRequired "x"
          (.enum [.number (.int 1), .number (.int 2)])]⟩
        ⟨some "B", [Field.ofOptional "x" (.enum [.number (.float 2.0), .number (.int 1)]),
          Field.ofOptional "y" .string]⟩ >>=
        (·.compose ⟨none, [Field.ofRequired "y" .string, Field.ofOptional "z" .integer]⟩)) = .ok s ∧
      (Schema.compose ⟨some "B", [Field.ofOptional "x"
          (.enum [.number (.float 2.0), .number (.int 1)]), Field.ofOptional "y" .string]⟩
        ⟨none, [Field.ofRequired "y" .string, Field.ofOptional "z" .integer]⟩ >>=
        Schema.compose ⟨none, [Field.ofRequired "x"
          (.enum [.number (.int 1), .number (.int 2)])]⟩) = .ok s) ∨
      ((∃ name left right, (Schema.compose ⟨none, [Field.ofRequired "x"
          (.enum [.number (.int 1), .number (.int 2)])]⟩
        ⟨some "B", [Field.ofOptional "x" (.enum [.number (.float 2.0), .number (.int 1)]),
          Field.ofOptional "y" .string]⟩ >>=
        (·.compose ⟨none, [Field.ofRequired "y" .string, Field.ofOptional "z" .integer]⟩)) =
          .error (.conflict name left right)) ∧
        ∃ name left right, (Schema.compose ⟨some "B", [Field.ofOptional "x"
            (.enum [.number (.float 2.0), .number (.int 1)]), Field.ofOptional "y" .string]⟩
          ⟨none, [Field.ofRequired "y" .string, Field.ofOptional "z" .integer]⟩ >>=
          Schema.compose ⟨none, [Field.ofRequired "x"
            (.enum [.number (.int 1), .number (.int 2)])]⟩) = .error (.conflict name left right))) ∧
    Schema.compose ⟨none, [Field.ofRequired "x" (.enum [.number (.int 1), .number (.int 2)])]⟩
        ⟨none, [Field.ofRequired "x" (.enum [.number (.int 1), .number (.int 2)])]⟩ =
      .ok ⟨none, [Field.ofRequired "x" (.enum [.number (.int 1), .number (.int 2)])]⟩ := by
  have finite : (2.0 : Float).isFinite = true := by decide
  have namesA : (FieldType.object ⟨none, [Field.ofRequired "x"
      (.enum [.number (.int 1), .number (.int 2)])]⟩).DistinctNames := by
    simp [FieldType.DistinctNames, FieldType.schemas, Schema.schemas, Schema.fieldSchemas,
      Field.ofRequired, names]
  have namesB : (FieldType.object ⟨some "B", [Field.ofOptional "x"
      (.enum [.number (.float 2.0), .number (.int 1)]),
      Field.ofOptional "y" .string]⟩).DistinctNames := by
    simp [FieldType.DistinctNames, FieldType.schemas, Schema.schemas, Schema.fieldSchemas,
      Field.ofOptional, names]
  have namesC : (FieldType.object ⟨none, [Field.ofRequired "y" .string,
      Field.ofOptional "z" .integer]⟩).DistinctNames := by
    simp [FieldType.DistinctNames, FieldType.schemas, Schema.schemas, Schema.fieldSchemas,
      Field.ofRequired, Field.ofOptional, names]
  have literalsA : (FieldType.object ⟨none, [Field.ofRequired "x"
      (.enum [.number (.int 1), .number (.int 2)])]⟩).LiteralsWellFormed :=
    ⟨by simp [FieldType.enums, Schema.enums, Schema.fieldEnums, Field.ofRequired,
        Json.WellFormed, JsonNumber.WellFormed, JsonNumber.signedMin, JsonNumber.unsignedMax],
      by simp [FieldType.schemas, Schema.schemas, Schema.fieldSchemas, Field.ofRequired]⟩
  have literalsB : (FieldType.object ⟨some "B", [Field.ofOptional "x"
      (.enum [.number (.float 2.0), .number (.int 1)]),
      Field.ofOptional "y" .string]⟩).LiteralsWellFormed :=
    ⟨by simp [FieldType.enums, Schema.enums, Schema.fieldEnums, Field.ofOptional, finite,
        Json.WellFormed, JsonNumber.WellFormed, JsonNumber.signedMin, JsonNumber.unsignedMax],
      by simp [FieldType.schemas, Schema.schemas, Schema.fieldSchemas, Field.ofOptional]⟩
  have literalsC : (FieldType.object ⟨none, [Field.ofRequired "y" .string,
      Field.ofOptional "z" .integer]⟩).LiteralsWellFormed :=
    ⟨by simp [FieldType.enums, Schema.enums, Schema.fieldEnums, Field.ofRequired,
        Field.ofOptional],
      by simp [FieldType.schemas, Schema.schemas, Schema.fieldSchemas, Field.ofRequired,
        Field.ofOptional]⟩
  exact ⟨namesA, namesB, namesC, literalsA, literalsB, literalsC,
    compose_semigroup namesA namesB namesC literalsA literalsB literalsC⟩

end Schema

end PromptTrainer
