import PromptTrainer.Proofs.Containment
import PromptTrainer.Proofs.TypeEquality
/-!
# What validation accepts, again and elsewhere

Three facts about which values pass a type, each by recursion on the type.

* Passing does not depend on the path (`FieldType.passesAnywhere`): paths only label the
  violations, never decide them.
* The normal form of a value that passes a type the program builds passes it again
  (`FieldType.revalidates`).  Unlike `FieldType.stable` this asks nothing of the defaults but
  that they passed when the schema was built: a default is inserted as it is, and passes again
  because it passed then, at whatever path it now sits.
* Equal types accept the same values (`FieldType.passesLike_of_beq`), on types with distinct
  names and well-formed literals.  An enumeration takes a value equal to one of its members, and
  the members of an equal enumeration are equal to them; a record takes data field by field, and
  an equal record has a partner for each of its fields, required alike and defaulted alike.
-/

namespace PromptTrainer

namespace FieldType

/-- A value that passes the type at one path passes it at every path. -/
def PassesAnywhere (t : FieldType) : Prop :=
  ∀ (v : Json) (path path' : String), (validateType t v path).2 = [] → (validateType t v path').2 = []

/-- The normal form of a value that passes the type passes it again. -/
def Revalidates (t : FieldType) : Prop :=
  ∀ (v : Json) (path : String), (validateType t v path).2 = [] →
    (validateType t (validateType t v path).1 path).2 = []

/-- Every value that passes the first type passes the second. -/
def PassesLike (a b : FieldType) : Prop :=
  ∀ (v : Json) (path : String), (validateType a v path).2 = [] → (validateType b v path).2 = []

/-! ### Passing does not depend on the path -/

theorem passesAnywhere_of_isPrimitive {p : FieldType} (primitive : p.isPrimitive = true) :
    p.PassesAnywhere := by
  intro v path path' passes
  by_cases isInteger : p = .integer
  · subst isInteger
    exact passes_integer_iff.mpr (passes_integer_iff.mp passes)
  · exact (passes_primitive_iff primitive isInteger).mpr
      ((passes_primitive_iff primitive isInteger).mp passes)

theorem passesAnywhere_enum (values : List Json) : (enum values).PassesAnywhere :=
  fun _ _ _ passes => passes_enum_iff.mpr (passes_enum_iff.mp passes)

theorem passesAnywhere_optional {t : FieldType} (anywhere : t.PassesAnywhere) :
    (optional t).PassesAnywhere := by
  intro v path path' passes
  rw [passes_optional_iff] at passes ⊢
  exact passes.imp_right (anywhere v path path')

theorem passesAnywhere_list {t : FieldType} (anywhere : t.PassesAnywhere) :
    (list t).PassesAnywhere := by
  intro v path path' passes
  obtain ⟨items, rfl⟩ := exists_array_of_passes passes
  exact passes_list_iff.mpr fun i h => anywhere _ _ _ (passes_list_iff.mp passes i h)

theorem passesAnywhere_map {t : FieldType} (anywhere : t.PassesAnywhere) :
    (map t).PassesAnywhere := by
  intro v path path' passes
  obtain ⟨members, rfl⟩ := exists_object_of_passes_map passes
  exact passes_map_iff.mpr fun m member => anywhere _ _ _ (passes_map_iff.mp passes m member)

/-- A field passes in data under one prefix when it passes under another. -/
theorem Field.passes_anywhere {f : Field} (anywhere : f.type.PassesAnywhere)
    {data : List (String × Json)} {pathPrefix : String} (passes : f.Passes data pathPrefix)
    (pathPrefix' : String) : f.Passes data pathPrefix' := by
  cases given : Json.lookup data f.name with
  | some v =>
    exact (Field.passes_of_lookup given).mpr
      (anywhere _ _ _ ((Field.passes_of_lookup given).mp passes))
  | none => exact (Field.passes_of_lookup_none given).mpr ((Field.passes_of_lookup_none given).mp passes)

theorem passesAnywhere_object {s : Schema} (anywhere : ∀ f ∈ s.fields, f.type.PassesAnywhere) :
    (object s).PassesAnywhere := by
  intro v path path' passes
  obtain ⟨members, rfl⟩ := exists_object_of_passes_object passes
  rw [validateType_object_object] at passes ⊢
  obtain ⟨fieldsPass, declared⟩ := (validateObject_snd_eq_nil s members path).mp passes
  exact (validateObject_snd_eq_nil s members path').mpr
    ⟨fun f member => Field.passes_anywhere (anywhere f member) (fieldsPass f member) path', declared⟩

mutual
/-- Passing a type does not depend on the path.  The recursion is on the type. -/
theorem passesAnywhere : ∀ (t : FieldType), t.PassesAnywhere
  | .string | .integer | .number | .boolean => passesAnywhere_of_isPrimitive rfl
  | .any => fun _ _ _ _ => rfl
  | .enum values => passesAnywhere_enum values
  | .list t => passesAnywhere_list (passesAnywhere t)
  | .map t => passesAnywhere_map (passesAnywhere t)
  | .optional t => passesAnywhere_optional (passesAnywhere t)
  | .object ⟨_, fields⟩ => passesAnywhere_object (fieldsPassAnywhere fields)

theorem fieldsPassAnywhere : ∀ (fields : List Field), ∀ f ∈ fields, f.type.PassesAnywhere
  | [] => by simp
  | ⟨_, t, _, _, _⟩ :: rest => by
    intro f member
    rcases List.mem_cons.mp member with rfl | later
    · exact passesAnywhere t
    · exact fieldsPassAnywhere rest f later
end

/-- A default of a schema the program builds passes its field's type wherever it sits. -/
theorem passes_default {s : Schema} (accepted : s.Accepted) {f : Field} (member : f ∈ s.fields)
    {d : Json} (given : f.default = some d) (path : String) : (validateType f.type d path).2 = [] :=
  passesAnywhere f.type d f.name path
    (Field.checkDefault_eq_ok given (((Schema.accepted_iff s).mp accepted).2 f member))

/-! ### The normal form passes again -/

theorem revalidates_of_stable {t : FieldType} (stable : t.Stable) : t.Revalidates := by
  intro v path passes
  rw [stable v path passes path]

theorem revalidates_optional {t : FieldType} (again : t.Revalidates) : (optional t).Revalidates := by
  intro v path passes
  by_cases null : v = .null
  · simp [validateType_optional, null]
  · rw [validateType_optional_of_ne_null t null] at passes ⊢
    rw [validateType_optional]
    split
    · rfl
    · exact again v path passes

theorem revalidates_list {t : FieldType} (again : t.Revalidates) : (list t).Revalidates := by
  intro v path passes
  obtain ⟨items, rfl⟩ := exists_array_of_passes passes
  rw [validateType_list_fst, passes_list_iff]
  intro i h
  simp only [List.getElem_mapIdx]
  exact again _ _ (passes_list_iff.mp passes i (by simpa using h))

theorem revalidates_map {t : FieldType} (again : t.Revalidates) : (map t).Revalidates := by
  intro v path passes
  obtain ⟨members, rfl⟩ := exists_object_of_passes_map passes
  rw [validateType_map_fst, passes_map_iff]
  intro m normal
  obtain ⟨m, member, rfl⟩ := List.mem_map.mp normal
  exact again _ _ (passes_map_iff.mp passes m member)

end FieldType

/-- The normal form of data that passes a record type of the program passes it again: a value
given is normalized to one that passes, a default passed when the schema was built, and a field
left out had no default and was not required. -/
theorem validateObject_revalidates {s : Schema} (accepted : s.Accepted)
    (again : ∀ f ∈ s.fields, f.type.Revalidates) {data : List (String × Json)} {path : String}
    (passes : (validateObject s data path).2 = []) :
    (validateObject s (validateObject s data path).1 path).2 = [] := by
  have distinct := ((Schema.accepted_iff s).mp accepted).1
  obtain ⟨fieldsPass, _⟩ := (validateObject_snd_eq_nil s data path).mp passes
  rw [validateObject_fst s data path]
  set written := s.fields.filterMap fun g => (g.entry data path).map (g.name, ·)
  have found : ∀ f ∈ s.fields, Json.lookup written f.name = f.entry data path :=
    fun f member => lookup_entries distinct _ member
  refine (validateObject_snd_eq_nil s written path).mpr ⟨fun f member => ?_, fun m inWritten => ?_⟩
  · cases made : f.entry data path with
    | some w =>
      rw [Field.passes_of_lookup ((found f member).trans made)]
      rcases Field.entry_eq_some made with ⟨v, given, rfl⟩ | ⟨_, given⟩
      · exact again f member v _ ((Field.passes_of_lookup given).mp (fieldsPass f member))
      · exact FieldType.passes_default accepted member given _
    | none =>
      rw [Field.passes_of_lookup_none ((found f member).trans made)]
      obtain ⟨given, noDefault⟩ := Field.entry_eq_none made
      exact fun _ => (Field.passes_of_lookup_none given).mp (fieldsPass f member) noDefault
  · obtain ⟨f, member, named⟩ := List.mem_filterMap.mp inWritten
    cases made : f.entry data path <;> simp [made] at named
    subst named
    simpa [Schema.hasField] using ⟨f, member, rfl⟩

/-- The normal form of data that passes a record type holds every required field. -/
theorem validateObject_required {s : Schema} (distinct : s.names.Nodup)
    {data : List (String × Json)} {path : String} (passes : (validateObject s data path).2 = [])
    {f : Field} (member : f ∈ s.fields) (required : f.required = true) :
    (Json.lookup (validateObject s data path).1 f.name).isSome = true := by
  obtain ⟨fieldsPass, _⟩ := (validateObject_snd_eq_nil s data path).mp passes
  rw [validateObject_fst, lookup_entries distinct _ member]
  cases made : f.entry data path with
  | some w => rfl
  | none =>
    obtain ⟨given, noDefault⟩ := Field.entry_eq_none made
    have optional := (Field.passes_of_lookup_none given).mp (fieldsPass f member) noDefault
    rw [required] at optional
    cases optional

namespace FieldType

theorem revalidates_object {s : Schema} (accepted : s.Accepted)
    (again : ∀ f ∈ s.fields, f.type.Revalidates) : (object s).Revalidates := by
  intro v path passes
  obtain ⟨members, rfl⟩ := exists_object_of_passes_object passes
  rw [validateType_object_object] at passes ⊢
  rw [validateType_object_object]
  exact validateObject_revalidates accepted again passes

mutual
/-- On every type the program builds, the normal form of a value that passes passes again.  The
recursion is on the type. -/
theorem revalidates : ∀ (t : FieldType), t.Built → t.Revalidates
  | .string, _ | .integer, _ | .number, _ | .boolean, _ =>
    revalidates_of_stable (stable_of_isPrimitive rfl)
  | .any, _ => revalidates_of_stable stable_any
  | .enum values, _ => revalidates_of_stable (stable_enum values)
  | .list t, built => revalidates_list (revalidates t built.of_list)
  | .map t, built => revalidates_map (revalidates t built.of_map)
  | .optional t, built => revalidates_optional (revalidates t built.of_optional)
  | .object ⟨_, fields⟩, built =>
    revalidates_object built.schema (fieldsRevalidate fields fun _ member => built.field member)

theorem fieldsRevalidate : ∀ (fields : List Field), (∀ f ∈ fields, f.type.Built) →
    ∀ f ∈ fields, f.type.Revalidates
  | [], _ => by simp
  | ⟨_, t, _, _, _⟩ :: rest, built => by
    intro f member
    rcases List.mem_cons.mp member with rfl | later
    · exact revalidates t (built _ List.mem_cons_self)
    · exact fieldsRevalidate rest (fun g inRest => built g (List.mem_cons_of_mem _ inRest)) f later
end

/-! ### Equal types accept the same values -/

/-- An enumeration equal to another as a multiset of literals takes what the other takes: a
value equal to one of its members is equal to a member of the other. -/
theorem passesLike_enum {values others : List Json} (wellFormed : ∀ v ∈ values, v.WellFormed)
    (wellFormedOthers : ∀ v ∈ others, v.WellFormed) (same : sameLiterals values others = true) :
    PassesLike (enum values) (enum others) := by
  intro v path passes
  obtain ⟨w, member, wv⟩ := passes_enum_iff.mp passes
  obtain ⟨u, inOthers, wu⟩ := exists_literalEq_of_sameLiterals wellFormed same w member
  have uw := literalEq_symm (wellFormed w member) (wellFormedOthers u inOthers) wu
  exact passes_enum_iff.mpr ⟨u, inOthers, literalEq_trans uw wv⟩

theorem passesLike_list {a b : FieldType} (like : PassesLike a b) : PassesLike (list a) (list b) := by
  intro v path passes
  obtain ⟨items, rfl⟩ := exists_array_of_passes passes
  exact passes_list_iff.mpr fun i h => like _ _ (passes_list_iff.mp passes i h)

theorem passesLike_map {a b : FieldType} (like : PassesLike a b) : PassesLike (map a) (map b) := by
  intro v path passes
  obtain ⟨members, rfl⟩ := exists_object_of_passes_map passes
  exact passes_map_iff.mpr fun m member => like _ _ (passes_map_iff.mp passes m member)

theorem passesLike_optional {a b : FieldType} (like : PassesLike a b) :
    PassesLike (optional a) (optional b) := by
  intro v path passes
  rw [passes_optional_iff] at passes ⊢
  exact passes.imp_right (like v path)

/-- A field passes in data where an alike field of the same name passes. -/
theorem Field.passes_of_alike {f g : Field} (named : f.name = g.name) (alike : f.alike g = true)
    (like : PassesLike f.type g.type) {data : List (String × Json)} {pathPrefix : String}
    (passes : f.Passes data pathPrefix) : g.Passes data pathPrefix := by
  simp only [Field.alike, Bool.and_eq_true, beq_iff_eq] at alike
  obtain ⟨⟨-, flags⟩, defaults⟩ := alike
  cases given : Json.lookup data g.name with
  | some v =>
    rw [← named] at given
    have passed := (Field.passes_of_lookup given).mp passes
    rw [named] at passed given
    exact (Field.passes_of_lookup given).mpr (like _ _ passed)
  | none =>
    rw [Field.passes_of_lookup_none given]
    rw [← named] at given
    have optional := (Field.passes_of_lookup_none given).mp passes
    intro noDefault
    have noDefaultF : f.default = none := by
      cases df : f.default with
      | none => rfl
      | some d => simp [df, noDefault, Field.defaultsBeq] at defaults
    rw [← flags]
    exact optional noDefaultF

/-- A record equal to another, both with distinct names, takes what the other takes: each of its
fields has a partner of the same name in the other, alike, and they declare the same names. -/
theorem passesLike_object {s t : Schema} (distinctS : s.names.Nodup) (distinctT : t.names.Nodup)
    (same : s.beq t = true)
    (fields : ∀ f ∈ s.fields, ∀ g ∈ t.fields, f.type.beq g.type = true → PassesLike f.type g.type) :
    PassesLike (object s) (object t) := by
  intro v path passes
  obtain ⟨members, rfl⟩ := exists_object_of_passes_object passes
  rw [validateType_object_object] at passes ⊢
  obtain ⟨fieldsPass, declared⟩ := (validateObject_snd_eq_nil s members path).mp passes
  have sameNames := Schema.names_perm_of_beq distinctS same
  refine (validateObject_snd_eq_nil t members path).mpr ⟨fun g member => ?_, fun m inData => ?_⟩
  · obtain ⟨f, found, present, alike⟩ := Schema.partner_of_beq_symm distinctS distinctT same g member
    have typesEq : f.type.beq g.type = true := by
      simp only [Field.alike, Bool.and_eq_true] at alike
      exact alike.1.1
    exact Field.passes_of_alike (Schema.mem_of_field? found).2 alike
      (fields f present g member typesEq) (fieldsPass f present)
  · have inS : m.1 ∈ s.names := by
      obtain ⟨f, present, named⟩ := List.any_eq_true.mp (declared m inData)
      exact List.mem_map.mpr ⟨f, present, by simpa using named⟩
    obtain ⟨g, member, named⟩ := List.mem_map.mp (sameNames.subset inS)
    exact List.any_eq_true.mpr ⟨g, member, by simp [named]⟩

mutual
/-- Equal types with distinct names and well-formed literals accept the same values.  The
recursion is on the first type. -/
theorem passesLike_of_beq : ∀ (a b : FieldType), a.DistinctNames → b.DistinctNames →
    a.LiteralsWellFormed → b.LiteralsWellFormed → a.beq b = true → PassesLike a b
  | .string, b, _, _, _, _, same | .integer, b, _, _, _, _, same | .number, b, _, _, _, _, same
  | .boolean, b, _, _, _, _, same | .any, b, _, _, _, _, same => by
    cases b <;> simp [beq] at same
    exact fun _ _ passes => passes
  | .list a, b, namesA, namesB, literalsA, literalsB, same => by
    cases b with
    | list b =>
      exact passesLike_list (passesLike_of_beq a b namesA.of_list namesB.of_list literalsA.of_list
        literalsB.of_list same)
    | _ => simp [beq] at same
  | .map a, b, namesA, namesB, literalsA, literalsB, same => by
    cases b with
    | map b =>
      exact passesLike_map (passesLike_of_beq a b namesA.of_map namesB.of_map literalsA.of_map
        literalsB.of_map same)
    | _ => simp [beq] at same
  | .optional a, b, namesA, namesB, literalsA, literalsB, same => by
    cases b with
    | optional b =>
      exact passesLike_optional (passesLike_of_beq a b namesA.of_optional namesB.of_optional
        literalsA.of_optional literalsB.of_optional same)
    | _ => simp [beq] at same
  | .enum values, b, _, _, literalsA, literalsB, same => by
    cases b with
    | enum others => exact passesLike_enum literalsA.members literalsB.members same
    | _ => simp [beq] at same
  | .object ⟨title, fields⟩, b, namesA, namesB, literalsA, literalsB, same => by
    cases b with
    | object t =>
      refine passesLike_object namesA.schema namesB.schema same fun f present g member => ?_
      exact fieldsPassLike_of_beq (fun _ inA => namesA.field inA) (fun _ inA => literalsA.field inA)
        f present g.type (namesB.field member) (literalsB.field member)
    | _ => simp [beq] at same

theorem fieldsPassLike_of_beq : ∀ {fields : List Field}, (∀ f ∈ fields, f.type.DistinctNames) →
    (∀ f ∈ fields, f.type.LiteralsWellFormed) →
    ∀ f ∈ fields, ∀ b, b.DistinctNames → b.LiteralsWellFormed → f.type.beq b = true →
      PassesLike f.type b
  | [], _, _ => by simp
  | ⟨_, _, _, _, _⟩ :: _, names, literals => by
    intro f member
    rcases List.mem_cons.mp member with rfl | later
    · exact fun b namesB literalsB => passesLike_of_beq _ b (names _ List.mem_cons_self) namesB
        (literals _ List.mem_cons_self) literalsB
    · exact fieldsPassLike_of_beq (fun g inRest => names g (List.mem_cons_of_mem _ inRest))
        (fun g inRest => literals g (List.mem_cons_of_mem _ inRest)) f later
end

end FieldType

end PromptTrainer
