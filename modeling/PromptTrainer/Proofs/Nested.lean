import PromptTrainer.Proofs.Literals
import PromptTrainer.Schema.Build
/-!
# What a type is made of

A field type holds schemas (its record types, at any depth) and enumerations.  `schemas` and
`enums` list them, outermost first, and the properties every type the program builds has are
stated over these lists:

* `FieldType.DistinctNames`: every schema it holds declares each name once;
* `FieldType.LiteralsWellFormed`: every enumeration member and every default it holds is a
  well-formed JSON value;
* `FieldType.Built`: every schema it holds is one `Schema.build` returns, so has distinct names
  and defaults that pass their fields' types (`Schema.build_eq_ok_iff`).

The lemmas here carry these properties from a type to the types it is made of, and look a field
up by its name in a schema with distinct names (`Schema.field?_of_mem`).
-/

namespace PromptTrainer

mutual
/-- The schemas a type holds, at any depth: a record type's own schema, then those of its
fields' types in order. -/
def FieldType.schemas : FieldType → List Schema
  | .object s => Schema.schemas s
  | .list t | .map t | .optional t => FieldType.schemas t
  | _ => []

/-- A schema and the schemas its fields' types hold. -/
def Schema.schemas : Schema → List Schema
  | ⟨title, fields⟩ => ⟨title, fields⟩ :: Schema.fieldSchemas fields

/-- The schemas the types of fields hold. -/
def Schema.fieldSchemas : List Field → List Schema
  | [] => []
  | ⟨_, t, _, _, _⟩ :: rest => FieldType.schemas t ++ Schema.fieldSchemas rest
end

mutual
/-- The enumerations a type holds, at any depth, as lists of members. -/
def FieldType.enums : FieldType → List (List Json)
  | .enum values => [values]
  | .object s => Schema.enums s
  | .list t | .map t | .optional t => FieldType.enums t
  | _ => []

/-- The enumerations the types of a schema's fields hold. -/
def Schema.enums : Schema → List (List Json)
  | ⟨_, fields⟩ => Schema.fieldEnums fields

/-- The enumerations the types of fields hold. -/
def Schema.fieldEnums : List Field → List (List Json)
  | [] => []
  | ⟨_, t, _, _, _⟩ :: rest => FieldType.enums t ++ Schema.fieldEnums rest
end

namespace Schema

theorem fieldSchemas_eq (fields : List Field) :
    fieldSchemas fields = fields.flatMap (fun f => f.type.schemas) := by
  induction fields with
  | nil => rfl
  | cons f rest ih => cases f; simp [fieldSchemas, ih]

theorem fieldEnums_eq (fields : List Field) :
    fieldEnums fields = fields.flatMap (fun f => f.type.enums) := by
  induction fields with
  | nil => rfl
  | cons f rest ih => cases f; simp [fieldEnums, ih]

theorem schemas_eq (s : Schema) : s.schemas = s :: s.fields.flatMap (fun f => f.type.schemas) := by
  cases s
  simp [schemas, fieldSchemas_eq]

theorem enums_eq (s : Schema) : s.enums = s.fields.flatMap (fun f => f.type.enums) := by
  cases s
  simp [enums, fieldEnums_eq]

theorem self_mem_schemas (s : Schema) : s ∈ s.schemas := by
  simp [schemas_eq]

/-- A schema held by a field's type is held by the schema. -/
theorem mem_schemas_of_field {s : Schema} {f : Field} (member : f ∈ s.fields) {held : Schema}
    (inField : held ∈ f.type.schemas) : held ∈ s.schemas := by
  rw [schemas_eq]
  exact List.mem_cons_of_mem _ (List.mem_flatMap.mpr ⟨f, member, inField⟩)

/-- An enumeration held by a field's type is held by the schema. -/
theorem mem_enums_of_field {s : Schema} {f : Field} (member : f ∈ s.fields) {values : List Json}
    (inField : values ∈ f.type.enums) : values ∈ s.enums := by
  rw [enums_eq]
  exact List.mem_flatMap.mpr ⟨f, member, inField⟩

theorem field?_cons (f : Field) (rest : List Field) (title : Option String) (name : String) :
    Schema.field? ⟨title, f :: rest⟩ name =
      if f.name = name then some f else Schema.field? ⟨title, rest⟩ name := by
  by_cases h : f.name = name <;> simp [field?, h]

/-- A field found by a name is a field of the schema with that name. -/
theorem mem_of_field? {s : Schema} {name : String} {f : Field} (found : s.field? name = some f) :
    f ∈ s.fields ∧ f.name = name := by
  have := List.find?_some found
  exact ⟨List.mem_of_find?_eq_some found, by simpa using this⟩

/-- In a schema with distinct names, a field's name finds the field. -/
theorem field?_of_mem {s : Schema} (distinct : s.names.Nodup) {f : Field} (member : f ∈ s.fields) :
    s.field? f.name = some f := by
  obtain ⟨title, fields⟩ := s
  induction fields with
  | nil => simp at member
  | cons g rest ih =>
    simp only [names, List.map_cons, List.nodup_cons] at distinct
    rw [field?_cons]
    rcases List.mem_cons.mp member with rfl | later
    · simp
    · have : g.name ≠ f.name := fun same => distinct.1 (same ▸ List.mem_map_of_mem later)
      simp [this, ih distinct.2 later]

end Schema

namespace FieldType

/-- Every schema the type holds declares each name once. -/
def DistinctNames (t : FieldType) : Prop := ∀ s ∈ t.schemas, s.names.Nodup

/-- Every enumeration member and every default the type holds is a well-formed value. -/
def LiteralsWellFormed (t : FieldType) : Prop :=
  (∀ values ∈ t.enums, ∀ v ∈ values, v.WellFormed) ∧
    ∀ s ∈ t.schemas, ∀ f ∈ s.fields, ∀ d ∈ f.default, d.WellFormed

/-! ### Both properties hold of the parts of a type -/

theorem DistinctNames.of_list {t : FieldType} (names : (FieldType.list t).DistinctNames) :
    t.DistinctNames := names

theorem DistinctNames.of_map {t : FieldType} (names : (FieldType.map t).DistinctNames) :
    t.DistinctNames := names

theorem DistinctNames.of_optional {t : FieldType} (names : (FieldType.optional t).DistinctNames) :
    t.DistinctNames := names

theorem DistinctNames.schema {s : Schema} (names : (FieldType.object s).DistinctNames) :
    s.names.Nodup :=
  names s (Schema.self_mem_schemas s)

theorem DistinctNames.field {s : Schema} (names : (FieldType.object s).DistinctNames) {f : Field}
    (member : f ∈ s.fields) : f.type.DistinctNames :=
  fun held inField => names held (Schema.mem_schemas_of_field member inField)

theorem LiteralsWellFormed.of_list {t : FieldType}
    (literals : (FieldType.list t).LiteralsWellFormed) : t.LiteralsWellFormed := literals

theorem LiteralsWellFormed.of_map {t : FieldType}
    (literals : (FieldType.map t).LiteralsWellFormed) : t.LiteralsWellFormed := literals

theorem LiteralsWellFormed.of_optional {t : FieldType}
    (literals : (FieldType.optional t).LiteralsWellFormed) : t.LiteralsWellFormed := literals

theorem LiteralsWellFormed.members {values : List Json}
    (literals : (FieldType.enum values).LiteralsWellFormed) : ∀ v ∈ values, v.WellFormed :=
  literals.1 values (by simp [enums])

theorem LiteralsWellFormed.field {s : Schema} (literals : (FieldType.object s).LiteralsWellFormed)
    {f : Field} (member : f ∈ s.fields) : f.type.LiteralsWellFormed :=
  ⟨fun values inField => literals.1 values (Schema.mem_enums_of_field member inField),
    fun held inField => literals.2 held (Schema.mem_schemas_of_field member inField)⟩

theorem LiteralsWellFormed.default {s : Schema}
    (literals : (FieldType.object s).LiteralsWellFormed) {f : Field} (member : f ∈ s.fields)
    {d : Json} (given : f.default = some d) : d.WellFormed :=
  literals.2 s (Schema.self_mem_schemas s) f member d given

end FieldType

/-! ### The schemas `Schema.build` returns -/

/-- A default that passes the build's check passes its field's type at the field's name. -/
theorem Field.checkDefault_eq_ok {f : Field} {d : Json} (given : f.default = some d)
    (checked : f.checkDefault = .ok ()) : (validateType f.type d f.name).2 = [] := by
  simp only [Field.checkDefault, given] at checked
  cases violations : (validateType f.type d f.name).2 with
  | nil => rfl
  | cons v rest => simp [violations] at checked

namespace Schema

/-- Building after accepted fields succeeds exactly on fields with names new and distinct and
defaults that pass, and appends them. -/
theorem buildFrom_eq_ok_iff {accepted : List Field} (distinct : (accepted.map Field.name).Nodup)
    (fields : List Field) {checked : List Field} :
    buildFrom accepted fields = .ok checked ↔
      checked = accepted ++ fields ∧ ((accepted ++ fields).map Field.name).Nodup ∧
        ∀ f ∈ fields, f.checkDefault = .ok () := by
  induction fields generalizing accepted with
  | nil => simp [buildFrom, distinct, eq_comm]
  | cons f rest ih =>
    simp only [buildFrom]
    by_cases duplicate : accepted.any (fun g => g.name == f.name) = true
    · -- the name is taken: no list with both copies has distinct names
      have taken : f.name ∈ accepted.map Field.name := by
        simpa [List.any_eq_true] using duplicate
      simp only [duplicate, if_true, reduceCtorEq, false_iff, not_and]
      intro _ nodup
      rw [List.map_append, List.nodup_append] at nodup
      exact (nodup.2.2 f.name taken f.name (by simp) rfl).elim
    · have fresh : f.name ∉ accepted.map Field.name := by
        simpa [List.any_eq_true] using duplicate
      simp only [duplicate, Bool.false_eq_true, if_false]
      cases check : f.checkDefault with
      | error e => simp [check]
      | ok u =>
        have grown : ((accepted ++ [f]).map Field.name).Nodup := by
          rw [List.map_append, List.nodup_append]
          refine ⟨distinct, by simp, fun a taken b new same => fresh ?_⟩
          simp only [List.map_cons, List.map_nil, List.mem_singleton] at new
          exact new ▸ same ▸ taken
        simp [ih grown, check]

/-- `Schema.build` succeeds exactly on fields with distinct names and defaults that pass their
types, and keeps them in order, without a title. -/
theorem build_eq_ok_iff (fields : List Field) {s : Schema} :
    build fields = .ok s ↔
      s = ⟨none, fields⟩ ∧ (fields.map Field.name).Nodup ∧ ∀ f ∈ fields, f.checkDefault = .ok () := by
  have none : (([] : List Field).map Field.name).Nodup := List.nodup_nil
  unfold build
  cases result : buildFrom [] fields with
  | error e =>
    simp only [Except.map, reduceCtorEq, false_iff, not_and]
    intro _ nodup checks
    have built := (buildFrom_eq_ok_iff none fields).mpr ⟨rfl, by simpa using nodup, checks⟩
    rw [result] at built
    cases built
  | ok checked =>
    have := (buildFrom_eq_ok_iff none fields).mp result
    simp only [List.nil_append] at this
    obtain ⟨rfl, nodup, checks⟩ := this
    simp only [Except.map, Except.ok.injEq]
    exact ⟨fun built => ⟨built.symm, nodup, checks⟩, fun ⟨named, _⟩ => named.symm⟩

/-- The schema is one `Schema.build` returns from its fields. -/
def Accepted (s : Schema) : Prop := build s.fields = .ok ⟨none, s.fields⟩

theorem accepted_iff (s : Schema) :
    s.Accepted ↔ s.names.Nodup ∧ ∀ f ∈ s.fields, f.checkDefault = .ok () := by
  simp [Accepted, build_eq_ok_iff, names]

end Schema

namespace FieldType

/-- Every schema the type holds is one `Schema.build` returns: the types the program builds. -/
def Built (t : FieldType) : Prop := ∀ s ∈ t.schemas, s.Accepted

theorem Built.of_list {t : FieldType} (built : (FieldType.list t).Built) : t.Built := built

theorem Built.of_map {t : FieldType} (built : (FieldType.map t).Built) : t.Built := built

theorem Built.of_optional {t : FieldType} (built : (FieldType.optional t).Built) : t.Built := built

theorem Built.schema {s : Schema} (built : (FieldType.object s).Built) : s.Accepted :=
  built s (Schema.self_mem_schemas s)

theorem Built.field {s : Schema} (built : (FieldType.object s).Built) {f : Field}
    (member : f ∈ s.fields) : f.type.Built :=
  fun held inField => built held (Schema.mem_schemas_of_field member inField)

theorem Built.distinctNames {t : FieldType} (built : t.Built) : t.DistinctNames :=
  fun s held => ((Schema.accepted_iff s).mp (built s held)).1

end FieldType

end PromptTrainer
