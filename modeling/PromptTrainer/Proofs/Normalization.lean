import PromptTrainer.Proofs.SchemaDocument
import PromptTrainer.Record.Basic
/-!
# Validation is idempotent when defaults are in normal form

Validation returns a value in normal form: integral doubles become integers and records list
their fields in schema order, missing fields filled from their defaults.  A value in normal
form passes again unchanged, at any path (`FieldType.Stable`), as long as every default is in
normal form itself: a default is inserted as it is, never validated, so a default `3.0` of an
`integer` field is kept by the first validation and turned into `3` by the second.

Main statement: `Record.construct_round_trips_of_normal_defaults`.  For a schema the program
builds whose defaults are in normal form, constructing a record again from its own data gives
the record back, and so does reading its portable form.
`Record.construct_float_default_not_idempotent` is the integer field with default `3.0`.
-/

namespace PromptTrainer

namespace FieldType

/-- Validation is idempotent on the type: a value that passes is normalized to one that passes
unchanged, wherever it sits. -/
def Stable (t : FieldType) : Prop :=
  ∀ (v : Json) (path : String), (validateType t v path).2 = [] →
    ∀ (path' : String), validateType t (validateType t v path).1 path' =
      ((validateType t v path).1, [])

/-- Every default the type holds is in normal form: it passes its field's type unchanged,
wherever it sits. -/
def NormalDefaults (t : FieldType) : Prop :=
  ∀ s ∈ t.schemas, ∀ f ∈ s.fields, ∀ d ∈ f.default, ∀ (path : String),
    validateType f.type d path = (d, [])

theorem NormalDefaults.of_list {t : FieldType} (normal : (FieldType.list t).NormalDefaults) :
    t.NormalDefaults := normal

theorem NormalDefaults.of_map {t : FieldType} (normal : (FieldType.map t).NormalDefaults) :
    t.NormalDefaults := normal

theorem NormalDefaults.of_optional {t : FieldType}
    (normal : (FieldType.optional t).NormalDefaults) : t.NormalDefaults := normal

theorem NormalDefaults.field {s : Schema} (normal : (FieldType.object s).NormalDefaults)
    {f : Field} (member : f ∈ s.fields) : f.type.NormalDefaults :=
  fun held inField => normal held (Schema.mem_schemas_of_field member inField)

theorem NormalDefaults.default {s : Schema} (normal : (FieldType.object s).NormalDefaults)
    {f : Field} (member : f ∈ s.fields) {d : Json} (given : d ∈ f.default) (path : String) :
    validateType f.type d path = (d, []) :=
  normal s (Schema.self_mem_schemas s) f member d given path

end FieldType

/-! ### Values that validation keeps -/

/-- What coercion to an integer can return: a number that is a 64-bit integer, as it is, or the
integer an integral double below `2^63` in magnitude stands for. -/
theorem coerceInteger_eq_some {v c : Json} (coerced : coerceInteger v = some c) :
    ∃ n, v = .number n ∧
      ((c = v ∧ FieldType.integer.acceptsLiteral v = true) ∨
        ∃ i, c = .number (.int i) ∧ integralValue? n.toFloat = some i ∧ i.natAbs < integralBound) := by
  cases v with
  | number n =>
    refine ⟨n, rfl, ?_⟩
    by_cases accepts : FieldType.integer.acceptsLiteral (.number n) = true
    · simp only [coerceInteger, accepts, if_true, Option.some.injEq] at coerced
      exact .inl ⟨coerced.symm, accepts⟩
    · simp only [coerceInteger, accepts, Bool.false_eq_true, if_false] at coerced
      cases integral : integralValue? n.toFloat with
      | none => simp [integral] at coerced
      | some i =>
        by_cases small : i.natAbs < integralBound
        · simp only [integral, small, if_true, Option.some.injEq] at coerced
          exact .inr ⟨i, coerced.symm, rfl, small⟩
        · simp [integral, small] at coerced
  | _ => simp [coerceInteger] at coerced

/-- An integer, or an integral double converted, is an integer as it is. -/
theorem coerceInteger_idem {v c : Json} (coerced : coerceInteger v = some c) :
    coerceInteger c = some c := by
  obtain ⟨n, rfl, ⟨rfl, accepts⟩ | ⟨i, rfl, _, small⟩⟩ := coerceInteger_eq_some coerced
  · simp [coerceInteger, accepts]
  · -- an integral double below `2^63` in magnitude is a signed 64-bit integer
    have signed : JsonNumber.signedMin ≤ i ∧ i ≤ JsonNumber.signedMax := by
      simp only [integralBound] at small
      simp only [JsonNumber.signedMin, JsonNumber.signedMax]
      omega
    simp [coerceInteger, FieldType.acceptsLiteral, JsonNumber.toSigned?, signed]

/-- Null is the only value that reads as null. -/
@[simp] theorem Json.isNull_iff {x : Json} : x.isNull = true ↔ x = .null := by
  cases x <;> simp [Json.isNull]

namespace FieldType

/-! ### The equations of validation

One equation per kind of type, each true by definition.  Proofs rewrite with these and never
unfold the mutual definition of `validateType`. -/

theorem validateType_primitive {p : FieldType} (primitive : p.isPrimitive = true)
    (notInteger : p ≠ .integer) (x : Json) (path : String) :
    validateType p x path = if p.acceptsLiteral x then (x, []) else mismatch p x path := by
  cases p <;> simp [isPrimitive] at primitive notInteger <;> rfl

theorem validateType_integer (x : Json) (path : String) :
    validateType integer x path =
      match coerceInteger x with
      | some c => (c, [])
      | none => mismatch integer x path := rfl

theorem validateType_enum (values : List Json) (x : Json) (path : String) :
    validateType (enum values) x path =
      if values.any (fun w => literalEq w x) then (x, [])
      else (x, [⟨path, Json.compact x ++ " is not one of " ++ (enum values).describe⟩]) := rfl

theorem validateType_optional (t : FieldType) (x : Json) (path : String) :
    validateType (optional t) x path = if x.isNull then (.null, []) else validateType t x path :=
  rfl

/-- A value other than null is checked by the type inside. -/
theorem validateType_optional_of_ne_null (t : FieldType) {x : Json} (notNull : x ≠ .null)
    (path : String) : validateType (optional t) x path = validateType t x path := by
  rw [validateType_optional, if_neg (mt Json.isNull_iff.mp notNull)]

theorem validateType_list_array (t : FieldType) (xs : List Json) (path : String) :
    validateType (list t) (.array xs) path =
      (.array ((xs.mapIdx fun i x => validateType t x (itemPath path i)).map Prod.fst),
        ((xs.mapIdx fun i x => validateType t x (itemPath path i)).map Prod.snd).flatten) := rfl

theorem validateType_map_object (t : FieldType) (members : List (String × Json)) (path : String) :
    validateType (map t) (.object members) path =
      (.object ((members.map fun m => (m.1, validateType t m.2 (joinPath path m.1))).map
          fun c => (c.1, c.2.1)),
        ((members.map fun m => (m.1, validateType t m.2 (joinPath path m.1))).map
          fun c => c.2.2).flatten) := rfl

theorem validateType_object_object (s : Schema) (members : List (String × Json)) (path : String) :
    validateType (object s) (.object members) path =
      (.object (validateObject s members path).1, (validateObject s members path).2) := rfl

@[simp] theorem mismatch_snd_ne_nil (t : FieldType) (x : Json) (path : String) :
    (mismatch t x path).2 ≠ [] := List.cons_ne_nil _ _

/-- Only an array passes a list type. -/
theorem exists_array_of_passes {t : FieldType} {x : Json} {path : String}
    (passes : (validateType (list t) x path).2 = []) : ∃ xs, x = .array xs := by
  cases x with
  | array xs => exact ⟨xs, rfl⟩
  | _ => exact absurd passes (mismatch_snd_ne_nil _ _ _)

/-- Only an object passes a map type. -/
theorem exists_object_of_passes_map {t : FieldType} {x : Json} {path : String}
    (passes : (validateType (map t) x path).2 = []) : ∃ members, x = .object members := by
  cases x with
  | object members => exact ⟨members, rfl⟩
  | _ => exact absurd passes (mismatch_snd_ne_nil _ _ _)

/-- Only an object passes a record type. -/
theorem exists_object_of_passes_object {s : Schema} {x : Json} {path : String}
    (passes : (validateType (object s) x path).2 = []) : ∃ members, x = .object members := by
  cases x with
  | object members => exact ⟨members, rfl⟩
  | _ => exact absurd passes (mismatch_snd_ne_nil _ _ _)

/-! ### What each check asks -/

theorem passes_primitive_iff {p : FieldType} (primitive : p.isPrimitive = true)
    (notInteger : p ≠ .integer) {x : Json} {path : String} :
    (validateType p x path).2 = [] ↔ p.acceptsLiteral x = true := by
  rw [validateType_primitive primitive notInteger]
  by_cases accepts : p.acceptsLiteral x = true <;> simp [accepts]

/-- A primitive check other than `integer` keeps what it accepts. -/
theorem validateType_of_acceptsLiteral {p : FieldType} (primitive : p.isPrimitive = true)
    (notInteger : p ≠ .integer) {x : Json} (accepts : p.acceptsLiteral x = true) (path : String) :
    validateType p x path = (x, []) := by
  rw [validateType_primitive primitive notInteger, if_pos accepts]

/-- An integer check gives the coerced value. -/
theorem validateType_integer_of_coerce {x c : Json} (coerced : coerceInteger x = some c)
    (path : String) : validateType integer x path = (c, []) := by
  rw [validateType_integer, coerced]

theorem passes_integer_iff {x : Json} {path : String} :
    (validateType integer x path).2 = [] ↔ (coerceInteger x).isSome = true := by
  rw [validateType_integer]
  cases coerceInteger x <;> simp

theorem passes_enum_iff {values : List Json} {x : Json} {path : String} :
    (validateType (enum values) x path).2 = [] ↔ ∃ w ∈ values, literalEq w x = true := by
  rw [validateType_enum]
  by_cases member : ∃ w ∈ values, literalEq w x = true <;> simp [List.any_eq_true, member]

theorem passes_optional_iff {t : FieldType} {x : Json} {path : String} :
    (validateType (optional t) x path).2 = [] ↔ x = .null ∨ (validateType t x path).2 = [] := by
  by_cases null : x = .null
  · simp [validateType_optional, null]
  · simp [validateType_optional_of_ne_null t null, null]

@[simp] theorem validateType_enum_fst (values : List Json) (x : Json) (path : String) :
    (validateType (enum values) x path).1 = x := by
  rw [validateType_enum]
  split <;> rfl

theorem passes_list_iff {t : FieldType} {xs : List Json} {path : String} :
    (validateType (list t) (.array xs) path).2 = [] ↔
      ∀ (i : Nat) (h : i < xs.length), (validateType t xs[i] (itemPath path i)).2 = [] := by
  simp only [validateType_list_array, List.flatten_eq_nil_iff, List.mem_map, List.mem_mapIdx]
  constructor
  · intro each i h
    exact each _ ⟨_, ⟨i, h, rfl⟩, rfl⟩
  · rintro each _ ⟨_, ⟨i, h, rfl⟩, rfl⟩
    exact each i h

theorem validateType_list_fst (t : FieldType) (xs : List Json) (path : String) :
    (validateType (list t) (.array xs) path).1 =
      .array (xs.mapIdx fun i x => (validateType t x (itemPath path i)).1) := by
  simp only [validateType_list_array, Json.array.injEq]
  apply List.ext_getElem (by simp)
  intro i inFirst inSecond
  simp

theorem passes_map_iff {t : FieldType} {members : List (String × Json)} {path : String} :
    (validateType (map t) (.object members) path).2 = [] ↔
      ∀ m ∈ members, (validateType t m.2 (joinPath path m.1)).2 = [] := by
  simp only [validateType_map_object, List.map_map, List.flatten_eq_nil_iff, List.mem_map,
    Function.comp_def]
  constructor
  · intro each m member
    exact each _ ⟨m, member, rfl⟩
  · rintro each _ ⟨m, member, rfl⟩
    exact each m member

theorem validateType_map_fst (t : FieldType) (members : List (String × Json)) (path : String) :
    (validateType (map t) (.object members) path).1 =
      .object (members.map fun m => (m.1, (validateType t m.2 (joinPath path m.1)).1)) := by
  simp [validateType_map_object, Function.comp_def]

/-! ### Types on which validation is idempotent -/

theorem stable_integer : integer.Stable := by
  intro v path passes path'
  obtain ⟨c, coerced⟩ := Option.isSome_iff_exists.mp (passes_integer_iff.mp passes)
  rw [validateType_integer_of_coerce coerced path]
  exact validateType_integer_of_coerce (coerceInteger_idem coerced) path'

/-- Every primitive check is idempotent: `integer` through coercion, the others keep what they
accept. -/
theorem stable_of_isPrimitive {p : FieldType} (primitive : p.isPrimitive = true) : p.Stable := by
  by_cases isInteger : p = .integer
  · subst isInteger
    exact stable_integer
  · intro v path passes path'
    have accepts := (passes_primitive_iff primitive isInteger).mp passes
    rw [validateType_of_acceptsLiteral primitive isInteger accepts path]
    exact validateType_of_acceptsLiteral primitive isInteger accepts path'

theorem stable_any : any.Stable := by
  intro v path _ path'
  rfl

theorem stable_enum (values : List Json) : (enum values).Stable := by
  intro v path passes path'
  rw [validateType_enum_fst]
  exact Prod.ext (validateType_enum_fst values v path')
    (passes_enum_iff.mpr (passes_enum_iff.mp passes))

theorem stable_optional {t : FieldType} (stable : t.Stable) : (optional t).Stable := by
  intro v path passes path'
  by_cases null : v = .null
  · simp [validateType_optional, null]
  · rw [validateType_optional_of_ne_null t null] at passes ⊢
    rw [validateType_optional]
    split
    · next nowNull => rw [Json.isNull_iff.mp nowNull]
    · exact stable v path passes path'

theorem stable_list {t : FieldType} (stable : t.Stable) : (list t).Stable := by
  intro v path passes path'
  obtain ⟨items, rfl⟩ := exists_array_of_passes passes
  have again : ∀ (i : Nat) (h : i < items.length),
      validateType t (validateType t items[i] (itemPath path i)).1 (itemPath path' i) =
        ((validateType t items[i] (itemPath path i)).1, []) := fun i h =>
    stable _ _ (passes_list_iff.mp passes i h) _
  rw [validateType_list_fst]
  refine Prod.ext ?_ (passes_list_iff.mpr fun i h => by simp [again i (by simpa using h)])
  rw [validateType_list_fst, Json.array.injEq]
  apply List.ext_getElem (by simp)
  intro i inFirst inSecond
  simp [again i (by simpa using inFirst)]

theorem stable_map {t : FieldType} (stable : t.Stable) : (map t).Stable := by
  intro v path passes path'
  obtain ⟨members, rfl⟩ := exists_object_of_passes_map passes
  have again : ∀ m ∈ members,
      validateType t (validateType t m.2 (joinPath path m.1)).1 (joinPath path' m.1) =
        ((validateType t m.2 (joinPath path m.1)).1, []) := fun m member =>
    stable _ _ (passes_map_iff.mp passes m member) _
  rw [validateType_map_fst]
  refine Prod.ext ?_ (passes_map_iff.mpr fun _ normal => ?_)
  · rw [validateType_map_fst, List.map_map]
    exact congrArg Json.object (List.map_congr_left fun m member => by simp [again m member])
  · obtain ⟨m, member, rfl⟩ := List.mem_map.mp normal
    simp [again m member]

end FieldType

/-! ### Records -/

namespace Field

/-- What validating data puts under a field's name: the value validated, when the data has the
field, else the default. -/
def entry (f : Field) (data : List (String × Json)) (pathPrefix : String) : Option Json :=
  match Json.lookup data f.name with
  | some v => some (validateType f.type v (joinPath pathPrefix f.name)).1
  | none => f.default

/-- The field passes in the data: its value passes its type, or it is missing with no default
and not required. -/
def Passes (f : Field) (data : List (String × Json)) (pathPrefix : String) : Prop :=
  match Json.lookup data f.name with
  | some v => (validateType f.type v (joinPath pathPrefix f.name)).2 = []
  | none => f.default = none → f.required = false

/-- An entry is a present value validated, or the default of a missing field. -/
theorem entry_eq_some {f : Field} {data : List (String × Json)} {pathPrefix : String} {w : Json}
    (made : f.entry data pathPrefix = some w) :
    (∃ v, Json.lookup data f.name = some v ∧
      w = (validateType f.type v (joinPath pathPrefix f.name)).1) ∨
    (Json.lookup data f.name = none ∧ f.default = some w) := by
  unfold entry at made
  cases given : Json.lookup data f.name with
  | some v =>
    simp only [given, Option.some.injEq] at made
    exact .inl ⟨v, rfl, made.symm⟩
  | none =>
    simp only [given] at made
    exact .inr ⟨rfl, made⟩

/-- No entry: the field is missing and has no default. -/
theorem entry_eq_none {f : Field} {data : List (String × Json)} {pathPrefix : String}
    (made : f.entry data pathPrefix = none) :
    Json.lookup data f.name = none ∧ f.default = none := by
  unfold entry at made
  cases given : Json.lookup data f.name <;> simp_all

theorem passes_of_lookup {f : Field} {data : List (String × Json)} {pathPrefix : String} {v : Json}
    (given : Json.lookup data f.name = some v) :
    f.Passes data pathPrefix ↔ (validateType f.type v (joinPath pathPrefix f.name)).2 = [] := by
  simp [Passes, given]

theorem passes_of_lookup_none {f : Field} {data : List (String × Json)} {pathPrefix : String}
    (given : Json.lookup data f.name = none) :
    f.Passes data pathPrefix ↔ (f.default = none → f.required = false) := by
  simp [Passes, given]

end Field

/-- The fields' entries in schema order, each under its name. -/
theorem validateFields_fst (fields : List Field) (data : List (String × Json))
    (pathPrefix : String) :
    (validateFields fields data pathPrefix).1 =
      fields.filterMap fun f => (f.entry data pathPrefix).map (f.name, ·) := by
  induction fields with
  | nil => simp [validateFields]
  | cons f rest ih =>
    obtain ⟨name, type, required, default, description⟩ := f
    simp only [validateFields, List.filterMap_cons, ih, Field.entry]
    cases Json.lookup data name <;> cases default <;> cases required <;> simp

/-- Fields pass together exactly when each passes. -/
theorem validateFields_snd_eq_nil (fields : List Field) (data : List (String × Json))
    (pathPrefix : String) :
    (validateFields fields data pathPrefix).2 = [] ↔ ∀ f ∈ fields, f.Passes data pathPrefix := by
  induction fields with
  | nil => simp [validateFields]
  | cons f rest ih =>
    obtain ⟨name, type, required, default, description⟩ := f
    simp only [validateFields, List.append_eq_nil_iff, ih, List.mem_cons, forall_eq_or_imp,
      Field.Passes]
    cases Json.lookup data name <;> cases default <;> cases required <;> simp

/-- With distinct names, each field finds its own entry. -/
theorem lookup_entries {fields : List Field} (distinct : (fields.map Field.name).Nodup)
    (entry : Field → Option Json) {f : Field} (member : f ∈ fields) :
    Json.lookup (fields.filterMap fun g => (entry g).map (g.name, ·)) f.name = entry f := by
  induction fields with
  | nil => simp at member
  | cons g rest ih =>
    simp only [List.map_cons, List.nodup_cons] at distinct
    have laterKeys : ∀ m ∈ rest.filterMap (fun h => (entry h).map (h.name, ·)),
        m.1 ∈ rest.map Field.name := by
      intro m inRest
      obtain ⟨h, inFields, made⟩ := List.mem_filterMap.mp inRest
      cases e : entry h <;> simp [e] at made
      subst made
      exact List.mem_map_of_mem inFields
    rcases List.mem_cons.mp member with rfl | later
    · cases e : entry f with
      | none =>
        simp only [List.filterMap_cons, e, Option.map_none]
        exact Json.lookup_eq_none fun m inRest same => distinct.1 (same ▸ laterKeys m inRest)
      | some w => simp [e, Json.lookup_cons]
    · have other : g.name ≠ f.name := fun same => distinct.1 (same ▸ List.mem_map_of_mem later)
      cases e : entry g <;> simp [e, Json.lookup_cons, other, ih distinct.2 later]

theorem validateObject_eq (title : Option String) (fields : List Field)
    (data : List (String × Json)) (pathPrefix : String) :
    validateObject ⟨title, fields⟩ data pathPrefix =
      ((validateFields fields data pathPrefix).1,
        (validateFields fields data pathPrefix).2 ++
          (data.filter fun m => !(Schema.hasField ⟨title, fields⟩ m.1)).map
            fun m => ⟨joinPath pathPrefix m.1, "unexpected field"⟩) := rfl

/-- A record's normal form: each declared field's entry, in schema order. -/
theorem validateObject_fst (s : Schema) (data : List (String × Json)) (pathPrefix : String) :
    (validateObject s data pathPrefix).1 =
      s.fields.filterMap fun f => (f.entry data pathPrefix).map (f.name, ·) := by
  obtain ⟨title, fields⟩ := s
  rw [validateObject_eq, validateFields_fst]

/-- A record passes exactly when each field passes and every key is declared. -/
theorem validateObject_snd_eq_nil (s : Schema) (data : List (String × Json)) (pathPrefix : String) :
    (validateObject s data pathPrefix).2 = [] ↔
      (∀ f ∈ s.fields, f.Passes data pathPrefix) ∧ ∀ m ∈ data, s.hasField m.1 = true := by
  obtain ⟨title, fields⟩ := s
  rw [validateObject_eq, List.append_eq_nil_iff, validateFields_snd_eq_nil]
  simp [List.filter_eq_nil_iff]

/-- A record's fields, once they pass, pass again unchanged, wherever the record sits. -/
theorem validateObject_stable {s : Schema} (distinct : s.names.Nodup)
    (stable : ∀ f ∈ s.fields, f.type.Stable)
    (normal : ∀ f ∈ s.fields, ∀ d ∈ f.default, ∀ path, validateType f.type d path = (d, []))
    {data : List (String × Json)} {path : String} (passes : (validateObject s data path).2 = [])
    (path' : String) :
    validateObject s (validateObject s data path).1 path' = ((validateObject s data path).1, []) := by
  obtain ⟨fieldsPass, _⟩ := (validateObject_snd_eq_nil s data path).mp passes
  rw [validateObject_fst s data path]
  set written := s.fields.filterMap fun g => (g.entry data path).map (g.name, ·) with writtenEq
  have found : ∀ f ∈ s.fields, Json.lookup written f.name = f.entry data path :=
    fun f member => lookup_entries distinct _ member
  have keeps : ∀ f ∈ s.fields, ∀ w, f.entry data path = some w →
      validateType f.type w (joinPath path' f.name) = (w, []) := by
    intro f member w made
    rcases Field.entry_eq_some made with ⟨v, given, rfl⟩ | ⟨_, given⟩
    · exact stable f member v _ ((Field.passes_of_lookup given).mp (fieldsPass f member)) _
    · exact normal f member w given _
  have leftOut : ∀ f ∈ s.fields, f.entry data path = none →
      f.default = none ∧ f.required = false := by
    intro f member made
    obtain ⟨given, noDefault⟩ := Field.entry_eq_none made
    exact ⟨noDefault, (Field.passes_of_lookup_none given).mp (fieldsPass f member) noDefault⟩
  have sameEntry : ∀ f ∈ s.fields, f.entry written path' = f.entry data path := by
    intro f member
    rw [Field.entry, found f member]
    cases made : f.entry data path with
    | some w => simp [keeps f member w made]
    | none => exact (leftOut f member made).1
  have fieldsAgain : (validateObject s written path').1 = written := by
    rw [validateObject_fst]
    calc _ = s.fields.filterMap (fun f => (f.entry data path).map (f.name, ·)) :=
          List.filterMap_congr fun f member => by rw [sameEntry f member]
      _ = written := writtenEq.symm
  have passAgain : (validateObject s written path').2 = [] := by
    refine (validateObject_snd_eq_nil s written path').mpr ⟨fun f member => ?_, fun m inWritten => ?_⟩
    · simp only [Field.Passes, found f member]
      cases made : f.entry data path with
      | some w => simp [keeps f member w made]
      | none => simp [(leftOut f member made).2]
    · obtain ⟨f, member, named⟩ := List.mem_filterMap.mp inWritten
      cases made : f.entry data path <;> simp [made] at named
      subst named
      simpa [Schema.hasField] using ⟨f, member, rfl⟩
  exact Prod.ext fieldsAgain passAgain

namespace FieldType

theorem stable_object {s : Schema} (distinct : s.names.Nodup)
    (stable : ∀ f ∈ s.fields, f.type.Stable)
    (normal : ∀ f ∈ s.fields, ∀ d ∈ f.default, ∀ path, validateType f.type d path = (d, [])) :
    (object s).Stable := by
  intro v path passes path'
  obtain ⟨members, rfl⟩ := exists_object_of_passes_object passes
  rw [validateType_object_object] at passes ⊢
  rw [validateType_object_object, validateObject_stable distinct stable normal passes path']

mutual
/-- Validation is idempotent on every type the program builds whose defaults are in normal
form.  The recursion is on the type. -/
theorem stable : ∀ (t : FieldType), t.Built → t.NormalDefaults → t.Stable
  | .string, _, _ | .integer, _, _ | .number, _, _ | .boolean, _, _ => stable_of_isPrimitive rfl
  | .any, _, _ => stable_any
  | .enum values, _, _ => stable_enum values
  | .list t, built, normal => stable_list (stable t built.of_list normal.of_list)
  | .map t, built, normal => stable_map (stable t built.of_map normal.of_map)
  | .optional t, built, normal => stable_optional (stable t built.of_optional normal.of_optional)
  | .object ⟨_, fields⟩, built, normal =>
    stable_object ((Schema.accepted_iff _).mp built.schema).1
      (fieldsStable fields (fun _ member => built.field member)
        (fun _ member => normal.field member))
      (fun _ member _ given path => normal.default member given path)

/-- The types of fields the program builds with defaults in normal form are stable. -/
theorem fieldsStable : ∀ (fields : List Field), (∀ f ∈ fields, f.type.Built) →
    (∀ f ∈ fields, f.type.NormalDefaults) → ∀ f ∈ fields, f.type.Stable
  | [], _, _ => by simp
  | ⟨_, t, _, _, _⟩ :: rest, built, normal => by
    intro f member
    rcases List.mem_cons.mp member with rfl | later
    · exact stable t (built _ List.mem_cons_self) (normal _ List.mem_cons_self)
    · exact fieldsStable rest (fun g inRest => built g (List.mem_cons_of_mem _ inRest))
        (fun g inRest => normal g (List.mem_cons_of_mem _ inRest)) f later
end

end FieldType

namespace Record

/-- Construction succeeds exactly on an object whose members pass the schema, and keeps their
normal form. -/
theorem construct_eq_ok_iff {s : Schema} {d : Json} {r : Record} :
    construct s d = .ok r ↔ ∃ members, d = .object members ∧
      (validateObject s members "").2 = [] ∧ r = ⟨s, (validateObject s members "").1⟩ := by
  constructor
  · intro constructed
    cases d with
    | object members =>
      refine ⟨members, rfl, ?_⟩
      cases checked : validateObject s members "" with
      | mk normalized violations =>
        cases violations with
        | cons _ _ => simp [construct, checked] at constructed
        | nil =>
          simp only [construct, checked, Except.ok.injEq] at constructed
          exact ⟨rfl, constructed.symm⟩
    | _ => simp [construct] at constructed
  · rintro ⟨members, rfl, passes, rfl⟩
    cases checked : validateObject s members "" with
    | mk normalized violations =>
      rw [checked] at passes
      subst passes
      simp [construct, checked]

/-- For a schema the program builds whose defaults are in normal form, a record constructed from
any data is constructed again from its own data, and read back from its portable form, as
itself. -/
theorem construct_round_trips_of_normal_defaults (s : Schema)
    (built : (FieldType.object s).Built) (normal : (FieldType.object s).NormalDefaults)
    (d : Json) (r : Record) (constructed : construct s d = .ok r) :
    construct s (.object r.data) = .ok r ∧ ofPortable r.toPortable = .ok r := by
  have distinct := ((Schema.accepted_iff s).mp built.schema).1
  have stable := FieldType.fieldsStable s.fields (fun _ member => built.field member)
    (fun _ member => normal.field member)
  obtain ⟨members, rfl, passes, rfl⟩ := construct_eq_ok_iff.mp constructed
  have again := validateObject_stable distinct stable
    (fun _ member _ given path => normal.default member given path) passes ""
  have reconstructed : construct s (.object (validateObject s members "").1) =
      .ok ⟨s, (validateObject s members "").1⟩ :=
    construct_eq_ok_iff.mpr ⟨_, rfl, by rw [again], by rw [again]⟩
  have read : Schema.ofJsonSchema s.toJsonSchema = .ok s := by
    rw [Schema.ofJsonSchema]
    exact Schema.readSchema_toJsonSchema s built (by omega) "$"
  refine ⟨reconstructed, ?_⟩
  simp [ofPortable, toPortable, Json.get?, Json.lookup, read, reconstructed]

/-- An optional integer field with the default `3`: data without it is filled with `3`, and the
record is constructed again, and read back, as itself. -/
theorem construct_round_trips_of_normal_defaults_integer :
    (FieldType.object ⟨none, [(Field.ofOptional "x" .integer).withDefault (.number (.int 3))]⟩).Built ∧
      (FieldType.object
        ⟨none, [(Field.ofOptional "x" .integer).withDefault (.number (.int 3))]⟩).NormalDefaults ∧
      construct ⟨none, [(Field.ofOptional "x" .integer).withDefault (.number (.int 3))]⟩
        (.object []) = .ok ⟨⟨none, [(Field.ofOptional "x" .integer).withDefault (.number (.int 3))]⟩,
          [("x", .number (.int 3))]⟩ ∧
      construct ⟨none, [(Field.ofOptional "x" .integer).withDefault (.number (.int 3))]⟩
        (.object [("x", .number (.int 3))]) =
          .ok ⟨⟨none, [(Field.ofOptional "x" .integer).withDefault (.number (.int 3))]⟩,
            [("x", .number (.int 3))]⟩ ∧
      ofPortable (toPortable ⟨⟨none, [(Field.ofOptional "x" .integer).withDefault
        (.number (.int 3))]⟩, [("x", .number (.int 3))]⟩) =
          .ok ⟨⟨none, [(Field.ofOptional "x" .integer).withDefault (.number (.int 3))]⟩,
            [("x", .number (.int 3))]⟩ := by
  have built : (FieldType.object
      ⟨none, [(Field.ofOptional "x" .integer).withDefault (.number (.int 3))]⟩).Built := by
    intro held member
    simp only [FieldType.schemas, Schema.schemas, Schema.fieldSchemas, Field.ofOptional,
      Field.withDefault, FieldType.schemas, List.append_nil, List.mem_singleton] at member
    subst member
    rfl
  have normal : (FieldType.object
      ⟨none, [(Field.ofOptional "x" .integer).withDefault (.number (.int 3))]⟩).NormalDefaults := by
    intro held member f inFields d given path
    simp only [FieldType.schemas, Schema.schemas, Schema.fieldSchemas, Field.ofOptional,
      Field.withDefault, FieldType.schemas, List.append_nil, List.mem_singleton] at member
    subst member
    simp only [List.mem_singleton] at inFields
    subst inFields
    simp only [Option.mem_def, Option.some.injEq] at given
    subst given
    rfl
  have constructed : construct ⟨none, [(Field.ofOptional "x" .integer).withDefault
      (.number (.int 3))]⟩ (.object []) = .ok ⟨⟨none, [(Field.ofOptional "x" .integer).withDefault
        (.number (.int 3))]⟩, [("x", .number (.int 3))]⟩ := rfl
  exact ⟨built, normal, constructed,
    construct_round_trips_of_normal_defaults _ built normal _ _ constructed⟩

/-- An optional integer field with the default `3.0`, which `Schema.build` accepts: data
without the field is filled with the double `3.0`, and constructing again from that data turns it
into the integer `3`. -/
theorem construct_float_default_not_idempotent :
    Schema.build [(Field.ofOptional "x" .integer).withDefault (.number (.float 3.0))] =
        .ok ⟨none, [(Field.ofOptional "x" .integer).withDefault (.number (.float 3.0))]⟩ ∧
      construct ⟨none, [(Field.ofOptional "x" .integer).withDefault (.number (.float 3.0))]⟩
        (.object []) = .ok ⟨⟨none, [(Field.ofOptional "x" .integer).withDefault
          (.number (.float 3.0))]⟩, [("x", .number (.float 3.0))]⟩ ∧
      construct ⟨none, [(Field.ofOptional "x" .integer).withDefault (.number (.float 3.0))]⟩
        (.object [("x", .number (.float 3.0))]) = .ok ⟨⟨none, [(Field.ofOptional "x" .integer).withDefault
          (.number (.float 3.0))]⟩, [("x", .number (.int 3))]⟩ :=
  ⟨rfl, rfl, rfl⟩

end Record

end PromptTrainer
