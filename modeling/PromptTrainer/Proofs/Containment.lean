import PromptTrainer.Proofs.Narrowing
import PromptTrainer.Proofs.Normalization
/-!
# Narrowing is sound for validation, away from nested records

When `a` is narrower than `b`, a value that passes `a` passes `b`, and so does the normal form `a`
gives it (`FieldType.validateType_sound`), provided that

* `b` holds no record type: records are closed, so a value with a field that a wider record
  leaves out is refused by it, and defaults that the narrower record fills are not the wider
  record's;
* each 64-bit integer of an enumeration in `a` still coerces to an integer once read as a double
  (`FieldType.IntegerEnumsCoerce`): the enumeration `[9223372036854775807]` is narrower than
  `integer`, and takes the double `2^63`, which `integer` refuses;
* values and enumeration members are well-formed JSON.

At the level of records: a record of a schema that contains another, restricted to the other's
fields, is a record of the other when those fields hold no record type
(`Record.construct_restrict_of_contains`).

Main statement: `containment_sound_for_validation`.
-/

namespace PromptTrainer

namespace FieldType

/-- Every 64-bit integer of an enumeration the type holds still coerces to an integer once read
as a double. -/
def IntegerEnumsCoerce (t : FieldType) : Prop :=
  ∀ values ∈ t.enums, ∀ n : JsonNumber, Json.number n ∈ values →
    integer.acceptsLiteral (.number n) = true →
      (coerceInteger (.number (.float n.toFloat))).isSome = true

theorem IntegerEnumsCoerce.of_list {t : FieldType} (coerce : (FieldType.list t).IntegerEnumsCoerce) :
    t.IntegerEnumsCoerce := coerce

theorem IntegerEnumsCoerce.of_map {t : FieldType} (coerce : (FieldType.map t).IntegerEnumsCoerce) :
    t.IntegerEnumsCoerce := coerce

theorem IntegerEnumsCoerce.of_optional {t : FieldType}
    (coerce : (FieldType.optional t).IntegerEnumsCoerce) : t.IntegerEnumsCoerce := coerce

theorem IntegerEnumsCoerce.field {s : Schema} (coerce : (FieldType.object s).IntegerEnumsCoerce)
    {f : Field} (member : f ∈ s.fields) : f.type.IntegerEnumsCoerce :=
  fun values inField => coerce values (Schema.mem_enums_of_field member inField)

end FieldType

/-! ### Integers -/

/-- A well-formed integer is a 64-bit integer. -/
theorem coerceInteger_int {i : Int} (wf : (JsonNumber.int i).WellFormed) :
    coerceInteger (.number (.int i)) = some (.number (.int i)) := by
  have accepted : FieldType.integer.acceptsLiteral (.number (.int i)) = true := by
    simp only [JsonNumber.WellFormed, JsonNumber.signedMin, JsonNumber.unsignedMax] at wf
    by_cases signed : i ≤ JsonNumber.signedMax
    · simp [FieldType.acceptsLiteral, JsonNumber.toSigned?, JsonNumber.signedMin, signed, wf.1]
    · simp only [JsonNumber.signedMax] at signed
      have : 0 ≤ i := by omega
      simp [FieldType.acceptsLiteral, JsonNumber.toUnsigned?, JsonNumber.unsignedMax, this, wf.2]
  simp [coerceInteger, accepted]

/-- A double coerces as any double equal to it does. -/
theorem coerceInteger_float_congr {x y : Float} (equal : (x == y) = true) :
    coerceInteger (.number (.float x)) = coerceInteger (.number (.float y)) := by
  simp [coerceInteger, FieldType.acceptsLiteral, JsonNumber.toSigned?, JsonNumber.toUnsigned?,
    JsonNumber.toFloat, Ieee.integralValue?_congr equal]

/-- A well-formed value equal, as a literal, to a number whose double coerces, coerces too. -/
theorem coerceInteger_isSome_of_literalEq {n : JsonNumber} {x : Json}
    (coercible : (coerceInteger (.number (.float n.toFloat))).isSome = true)
    (wf : x.WellFormed) (equal : literalEq (.number n) x = true) :
    (coerceInteger x).isSome = true := by
  cases x with
  | number m =>
    cases m with
    | int j => simp [coerceInteger_int wf]
    | float f =>
      rw [literalEq_number] at equal
      have same := coerceInteger_float_congr equal
      simp only [JsonNumber.toFloat] at same
      rwa [← same]
  | _ => simp [literalEq, Json.beq] at equal

namespace FieldType

/-! ### Soundness, one type at a time -/

/-- Every well-formed value that passes `a` passes `b`, and so does the normal form `a` gives
it. -/
def ValidationSound (a b : FieldType) : Prop :=
  ∀ (x : Json) (path : String), x.WellFormed → (validateType a x path).2 = [] →
    (validateType b x path).2 = [] ∧ (validateType b (validateType a x path).1 path).2 = []

theorem ValidationSound.any (a : FieldType) : ValidationSound a .any :=
  fun _ _ _ _ => ⟨rfl, rfl⟩

/-- Below a primitive type: the type itself, `integer` below `number`, or an enumeration of
literals it takes. -/
theorem ValidationSound.primitive {a p : FieldType} (primitive : p.isPrimitive = true)
    (ab : a.narrower p = true) (coerce : a.IntegerEnumsCoerce) (literals : a.LiteralsWellFormed) :
    ValidationSound a p := by
  intro x path wf passes
  rcases (narrower_primitive_iff primitive).mp ab with rfl | ⟨rfl, rfl⟩ | ⟨values, rfl, accepted⟩
  · exact ⟨passes, by rw [stable_of_isPrimitive primitive x path passes path]⟩
  · -- `integer` below `number`: the value and its coercion are numbers
    obtain ⟨c, coerced⟩ := Option.isSome_iff_exists.mp (passes_integer_iff.mp passes)
    obtain ⟨n, rfl, _⟩ := coerceInteger_eq_some coerced
    have output : (validateType integer (.number n) path).1 = c := by
      rw [validateType_integer_of_coerce coerced]
    have isNumber : ∃ m, c = .number m := by
      rcases coerceInteger_eq_some coerced with ⟨_, _, ⟨rfl, _⟩ | ⟨i, rfl, _⟩⟩
      exacts [⟨n, rfl⟩, ⟨_, rfl⟩]
    obtain ⟨m, rfl⟩ := isNumber
    rw [output]
    exact ⟨(passes_primitive_iff rfl (by simp)).mpr rfl, (passes_primitive_iff rfl (by simp)).mpr rfl⟩
  · -- an enumeration: the value equals a member the primitive takes
    obtain ⟨w, member, equal⟩ := passes_enum_iff.mp passes
    have accepts : p.acceptsLiteral w = true := List.all_eq_true.mp accepted w member
    have valuePasses : (validateType p x path).2 = [] := by
      by_cases isInteger : p = .integer
      · subst isInteger
        obtain ⟨n, rfl⟩ : ∃ n, w = .number n := by
          cases w <;> simp [acceptsLiteral] at accepts ⊢
        exact passes_integer_iff.mpr (coerceInteger_isSome_of_literalEq
          (coerce values (by simp [enums]) n member accepts) wf equal)
      · have symm := literalEq_symm (literals.members w member) wf equal
        exact (passes_primitive_iff primitive isInteger).mpr
          (acceptsLiteral_of_literalEq isInteger symm accepts)
    exact ⟨valuePasses, by simpa using valuePasses⟩

/-- Below an enumeration, an enumeration whose members each equal one of its members: literal
equality is symmetric on well-formed members, and transitive. -/
theorem ValidationSound.enum {a : FieldType} {members : List Json}
    (ab : a.narrower (.enum members) = true) (literals : a.LiteralsWellFormed)
    (wider : (FieldType.enum members).LiteralsWellFormed) : ValidationSound a (.enum members) := by
  obtain ⟨values, rfl⟩ := exists_enum_of_narrower ab
  intro x path _ passes
  obtain ⟨w, member, equal⟩ := passes_enum_iff.mp passes
  have each : values.all (fun v => members.any (literalEq v)) = true := ab
  simp only [List.all_eq_true, List.any_eq_true] at each
  obtain ⟨u, inMembers, wu⟩ := each w member
  have uw := literalEq_symm (literals.members w member) (wider.members u inMembers) wu
  have valuePasses : (validateType (.enum members) x path).2 = [] :=
    passes_enum_iff.mpr ⟨u, inMembers, literalEq_trans uw equal⟩
  exact ⟨valuePasses, by simpa using valuePasses⟩

/-- Lists are sound item by item. -/
theorem ValidationSound.list {a b : FieldType} (sound : ValidationSound a b) :
    ValidationSound (.list a) (.list b) := by
  intro x path wf passes
  obtain ⟨xs, rfl⟩ := exists_array_of_passes passes
  have items := Json.itemsWellFormed_iff.mp wf
  have each := passes_list_iff.mp passes
  refine ⟨passes_list_iff.mpr fun i h =>
    (sound _ _ (items _ (List.getElem_mem h)) (each i h)).1, ?_⟩
  rw [validateType_list_fst, passes_list_iff]
  intro i h
  simp only [List.getElem_mapIdx]
  exact (sound _ _ (items _ (List.getElem_mem (by simpa using h))) (each i (by simpa using h))).2

/-- Maps are sound value by value. -/
theorem ValidationSound.map {a b : FieldType} (sound : ValidationSound a b) :
    ValidationSound (.map a) (.map b) := by
  intro x path wf passes
  obtain ⟨members, rfl⟩ := exists_object_of_passes_map passes
  have values := Json.membersWellFormed_iff.mp wf.2
  have each := passes_map_iff.mp passes
  refine ⟨passes_map_iff.mpr fun m member => (sound _ _ (values m member) (each m member)).1, ?_⟩
  rw [validateType_map_fst, passes_map_iff]
  intro m inNormal
  obtain ⟨m, member, rfl⟩ := List.mem_map.mp inNormal
  exact (sound _ _ (values m member) (each m member)).2

/-- Below an optional type, every type sound below the type inside: null passes, and so does
every other value the type inside takes. -/
theorem ValidationSound.optional_right {a b : FieldType} (sound : ValidationSound a b) :
    ValidationSound a (.optional b) := by
  intro x path wf passes
  obtain ⟨valuePasses, normalPasses⟩ := sound x path wf passes
  exact ⟨passes_optional_iff.mpr (.inr valuePasses), passes_optional_iff.mpr (.inr normalPasses)⟩

/-- Optional types are sound when the types inside are. -/
theorem ValidationSound.optional {a b : FieldType} (sound : ValidationSound a b) :
    ValidationSound (.optional a) (.optional b) := by
  intro x path wf passes
  by_cases null : x = .null
  · subst null
    simp [validateType_optional]
  · rw [validateType_optional_of_ne_null a null] at passes ⊢
    exact ValidationSound.optional_right sound x path wf passes

/-- Narrowing is sound for validation when the wider type holds no record type, the narrower
type's integer enumeration members coerce as doubles, and every enumeration member is
well-formed.  The recursion is on the wider type. -/
theorem validateType_sound : ∀ (b : FieldType), b.schemas = [] → b.LiteralsWellFormed →
    ∀ {a : FieldType}, a.narrower b = true → a.IntegerEnumsCoerce → a.LiteralsWellFormed →
      ValidationSound a b
  | .any, _, _, a, _, _, _ => ValidationSound.any a
  | .string, _, _, _, ab, coerce, literals | .integer, _, _, _, ab, coerce, literals
  | .number, _, _, _, ab, coerce, literals | .boolean, _, _, _, ab, coerce, literals =>
    ValidationSound.primitive rfl ab coerce literals
  | .enum _, _, wider, _, ab, _, literals => ValidationSound.enum ab literals wider
  | .list b, flat, wider, _, ab, coerce, literals => by
    obtain ⟨a, rfl⟩ := exists_list_of_narrower ab
    exact (validateType_sound b flat wider.of_list ab coerce.of_list literals.of_list).list
  | .map b, flat, wider, _, ab, coerce, literals => by
    obtain ⟨a, rfl⟩ := exists_map_of_narrower ab
    exact (validateType_sound b flat wider.of_map ab coerce.of_map literals.of_map).map
  | .optional b, flat, wider, a, ab, coerce, literals => by
    cases a with
    | optional a =>
      exact (validateType_sound b flat wider.of_optional ab coerce.of_optional
        literals.of_optional).optional
    | _ =>
      rw [narrower_optional (by simp)] at ab
      exact (validateType_sound b flat wider.of_optional ab coerce literals).optional_right
  | .object ⟨title, fields⟩, flat, _, _, _, _, _ => by simp [schemas, Schema.schemas] at flat

end FieldType

/-! ### Records -/

/-- Filtering members by their keys keeps the lookup of a kept key. -/
theorem Json.lookup_filter {members : List (String × Json)} {keep : String → Bool} {key : String}
    (kept : keep key = true) :
    Json.lookup (members.filter fun m => keep m.1) key = Json.lookup members key := by
  induction members with
  | nil => rfl
  | cons m rest ih =>
    obtain ⟨k, v⟩ := m
    by_cases keepsHead : keep k = true
    · simp only [List.filter_cons, keepsHead, if_true]
      rw [Json.lookup_cons, Json.lookup_cons, ih]
    · have other : k ≠ key := fun same => keepsHead (same ▸ kept)
      simp only [List.filter_cons, keepsHead, Bool.false_eq_true, if_false]
      rw [Json.lookup_cons, if_neg other, ih]

theorem joinPath_top (name : String) : joinPath "" name = name := by
  simp [joinPath]

/-- The normal form of data that passes a schema, restricted to the keys of a schema it
contains, passes the contained schema, when that schema's fields hold no record type. -/
theorem validateObject_restrict_of_contains {h n : Schema} (built : (FieldType.object h).Built)
    (literals : (FieldType.object h).LiteralsWellFormed)
    (coerce : (FieldType.object h).IntegerEnumsCoerce)
    (wider : (FieldType.object n).LiteralsWellFormed) (flat : ∀ g ∈ n.fields, g.type.schemas = [])
    (contains : h.contains n = true) {members : List (String × Json)}
    (values : ∀ m ∈ members, m.2.WellFormed) (passes : (validateObject h members "").2 = []) :
    (validateObject n ((validateObject h members "").1.filter fun m => n.hasField m.1) "").2 =
      [] := by
  have distinct := (Schema.accepted_iff h).mp built.schema
  obtain ⟨fieldsPass, _⟩ := (validateObject_snd_eq_nil h members "").mp passes
  refine (validateObject_snd_eq_nil n _ "").mpr ⟨fun g member => ?_, fun m kept => ?_⟩
  · -- a field of the narrower schema matches a field of the wider one, whose entry it reads
    obtain ⟨f, found, requiredBelow, narrow⟩ :=
      (Schema.containsFields_iff _ n.fields).mp ((Schema.contains_eq _ n) ▸ contains) g member
    obtain ⟨inFields, named⟩ := Schema.mem_of_field? found
    have sound := FieldType.validateType_sound g.type (flat g member) (wider.field member)
      narrow (coerce.field inFields) (literals.field inFields)
    have declared : n.hasField g.name = true := by
      simpa [Schema.hasField] using ⟨g, member, rfl⟩
    have entry : Json.lookup ((validateObject h members "").1.filter fun m => n.hasField m.1)
        g.name = f.entry members "" := by
      rw [Json.lookup_filter declared, validateObject_fst, ← named]
      exact lookup_entries distinct.1 _ inFields
    cases made : f.entry members "" with
    | some w =>
      rw [Field.passes_of_lookup (entry.trans made), joinPath_top, ← named]
      rcases Field.entry_eq_some made with ⟨v, given, rfl⟩ | ⟨_, given⟩
      · -- a value given in the data: its normal form passes the narrower type
        have passed := (Field.passes_of_lookup given).mp (fieldsPass f inFields)
        rw [joinPath_top] at passed ⊢
        exact (sound v _ (values _ (Json.mem_of_lookup given)) passed).2
      · -- a default: it passed the wider field's type when the schema was built
        have checkedDefault := Field.checkDefault_eq_ok given (distinct.2 f inFields)
        exact (sound w _ (literals.default inFields given) checkedDefault).1
    | none =>
      rw [Field.passes_of_lookup_none (entry.trans made)]
      obtain ⟨given, noDefault⟩ := Field.entry_eq_none made
      have optional := (Field.passes_of_lookup_none given).mp (fieldsPass f inFields) noDefault
      intro _
      simpa [optional] using requiredBelow
  · simpa using (List.mem_filter.mp kept).2

/-- The data of a record of a schema that contains another, restricted to the other's fields, is
data of the other, when the other's fields hold no record type. -/
theorem Record.construct_restrict_of_contains {h n : Schema} (built : (FieldType.object h).Built)
    (literals : (FieldType.object h).LiteralsWellFormed)
    (coerce : (FieldType.object h).IntegerEnumsCoerce)
    (wider : (FieldType.object n).LiteralsWellFormed) (flat : ∀ g ∈ n.fields, g.type.schemas = [])
    (contains : h.contains n = true) {d : Json} (wf : d.WellFormed) {r : Record}
    (constructed : Record.construct h d = .ok r) :
    ∃ r', Record.construct n (.object (r.data.filter fun m => n.hasField m.1)) = .ok r' := by
  obtain ⟨members, rfl, passes, rfl⟩ := Record.construct_eq_ok_iff.mp constructed
  have restricted := validateObject_restrict_of_contains built literals coerce wider flat contains
    (Json.membersWellFormed_iff.mp wf.2) passes
  exact ⟨_, Record.construct_eq_ok_iff.mpr ⟨_, rfl, restricted, rfl⟩⟩

/-! ### Containment is sound for validation away from nested records -/

/-- When `a` is narrower than `b` and `b` holds no record type, every well-formed value that
passes `a` passes `b`, and so does the normal form `a` gives it; and the data of a record of a
schema that contains another, restricted to the other's fields, is data of the other when those
fields hold no record type.  Both ask that the integer members of the narrower side's
enumerations still coerce once read as doubles, and that literals are well-formed. -/
theorem containment_sound_for_validation :
    (∀ (a b : FieldType), a.narrower b = true → b.schemas = [] → a.IntegerEnumsCoerce →
      a.LiteralsWellFormed → b.LiteralsWellFormed → ∀ (x : Json) (path : String), x.WellFormed →
        (validateType a x path).2 = [] →
          (validateType b x path).2 = [] ∧ (validateType b (validateType a x path).1 path).2 = []) ∧
    (∀ (h n : Schema), (FieldType.object h).Built → (FieldType.object h).LiteralsWellFormed →
      (FieldType.object h).IntegerEnumsCoerce → (FieldType.object n).LiteralsWellFormed →
        (∀ g ∈ n.fields, g.type.schemas = []) → h.contains n = true →
          ∀ (d : Json) (r : Record), d.WellFormed → Record.construct h d = .ok r →
            ∃ r', Record.construct n (.object (r.data.filter fun m => n.hasField m.1)) = .ok r') :=
  ⟨fun _ b ab flat coerce literals wider x path wf passes =>
    FieldType.validateType_sound b flat wider ab coerce literals x path wf passes,
   fun _ _ built literals coerce wider flat contains _ _ wf constructed =>
    Record.construct_restrict_of_contains built literals coerce wider flat contains wf constructed⟩

/-- A list of integers is narrower than a list of optional numbers, and the list `[2.0, 3]`
passes both, normalized or not; a record with an integer and a string contains one with just a
number, and a record of the first, restricted, is one of the second. -/
theorem containment_sound_for_validation_lists_and_records :
    (FieldType.list .integer).narrower (.list (.optional .number)) = true ∧
      (validateType (.list (.optional .number))
        (.array [.number (.float 2.0), .number (.int 3)]) "items").2 = [] ∧
      (validateType (.list (.optional .number)) (validateType (.list .integer)
        (.array [.number (.float 2.0), .number (.int 3)]) "items").1 "items").2 = [] ∧
    ∃ r', Record.construct ⟨none, [Field.ofRequired "x" .number]⟩
      (.object ([("x", .number (.int 2)), ("y", .string "a")].filter
        fun m => Schema.hasField ⟨none, [Field.ofRequired "x" .number]⟩ m.1)) = .ok r' := by
  have finite : (Json.number (.float 2.0)).WellFormed := by
    simpa [Json.WellFormed, JsonNumber.WellFormed] using (by decide : (2.0 : Float).isFinite = true)
  have three : (Json.number (.int 3)).WellFormed := by
    simp [Json.WellFormed, JsonNumber.WellFormed, JsonNumber.signedMin, JsonNumber.unsignedMax]
  have items : (Json.array [.number (.float 2.0), .number (.int 3)]).WellFormed := by
    simpa [Json.WellFormed, Json.itemsWellFormed] using ⟨finite, three⟩
  have types := (containment_sound_for_validation).1 (.list .integer) (.list (.optional .number))
    rfl rfl (by simp [FieldType.IntegerEnumsCoerce, FieldType.enums])
    ⟨by simp [FieldType.enums], by simp [FieldType.schemas]⟩
    ⟨by simp [FieldType.enums], by simp [FieldType.schemas]⟩ _ "items" items rfl
  have twoThree : (Json.object [("x", .number (.int 2)), ("y", .string "a")]).WellFormed := by
    simp [Json.WellFormed, Json.membersWellFormed, JsonNumber.WellFormed, JsonNumber.signedMin,
      JsonNumber.unsignedMax]
  have wide : (FieldType.object ⟨none, [Field.ofRequired "x" .integer,
      Field.ofRequired "y" .string]⟩).Built := by
    intro held member
    simp only [FieldType.schemas, Schema.schemas, Schema.fieldSchemas, Field.ofRequired,
      List.append_nil, List.mem_singleton] at member
    subst member
    rfl
  have records := (containment_sound_for_validation).2
    ⟨none, [Field.ofRequired "x" .integer, Field.ofRequired "y" .string]⟩
    ⟨none, [Field.ofRequired "x" .number]⟩ wide
    ⟨by simp [FieldType.enums, Schema.enums, Schema.fieldEnums, Field.ofRequired],
      by simp [FieldType.schemas, Schema.schemas, Schema.fieldSchemas, Field.ofRequired]⟩
    (by simp [FieldType.IntegerEnumsCoerce, FieldType.enums, Schema.enums, Schema.fieldEnums,
      Field.ofRequired])
    ⟨by simp [FieldType.enums, Schema.enums, Schema.fieldEnums, Field.ofRequired],
      by simp [FieldType.schemas, Schema.schemas, Schema.fieldSchemas, Field.ofRequired]⟩
    (by simp [Field.ofRequired, FieldType.schemas]) rfl _ _ twoThree rfl
  exact ⟨rfl, types.1, types.2, records⟩

/-- Both ways containment fails validation.  A record holding a record with fields `x` and `y`
contains one holding a record with `x` alone, but the inner record refuses `y`.  The enumeration
of `2^63 - 1` is narrower than `integer` and takes the double `2^63`, which `integer` refuses.
And the data restricted must be the constructed data: a record whose field `x` is required with
a default contains one whose `x` is required without, and the empty object makes the first, with
`x` filled, but not the second. -/
theorem containment_unsound_for_nested_records_and_rounded_integers :
    Schema.contains
        ⟨none, [Field.ofRequired "o"
          (.object ⟨none, [Field.ofRequired "x" .string, Field.ofRequired "y" .string]⟩)]⟩
        ⟨none, [Field.ofRequired "o" (.object ⟨none, [Field.ofRequired "x" .string]⟩)]⟩ = true ∧
      Record.construct
        ⟨none, [Field.ofRequired "o"
          (.object ⟨none, [Field.ofRequired "x" .string, Field.ofRequired "y" .string]⟩)]⟩
        (.object [("o", .object [("x", .string "1"), ("y", .string "2")])]) =
          .ok ⟨⟨none, [Field.ofRequired "o"
            (.object ⟨none, [Field.ofRequired "x" .string, Field.ofRequired "y" .string]⟩)]⟩,
            [("o", .object [("x", .string "1"), ("y", .string "2")])]⟩ ∧
      Record.construct
        ⟨none, [Field.ofRequired "o" (.object ⟨none, [Field.ofRequired "x" .string]⟩)]⟩
        (.object [("o", .object [("x", .string "1"), ("y", .string "2")])]) =
          .error [⟨"o.y", "unexpected field"⟩] ∧
    (FieldType.enum [.number (.int 9223372036854775807)]).narrower .integer = true ∧
      (validateType (.enum [.number (.int 9223372036854775807)])
        (.number (.float 9223372036854775808.0)) "v").2 = [] ∧
      (validateType .integer (.number (.float 9223372036854775808.0)) "v").2 ≠ [] ∧
    Schema.contains ⟨none, [(Field.ofRequired "x" .string).withDefault (.string "a")]⟩
        ⟨none, [Field.ofRequired "x" .string]⟩ = true ∧
      Record.construct ⟨none, [(Field.ofRequired "x" .string).withDefault (.string "a")]⟩
          (.object []) =
        .ok ⟨⟨none, [(Field.ofRequired "x" .string).withDefault (.string "a")]⟩,
          [("x", .string "a")]⟩ ∧
      Record.construct ⟨none, [Field.ofRequired "x" .string]⟩ (.object []) =
        .error [⟨"x", "missing required field"⟩] ∧
      Record.construct ⟨none, [Field.ofRequired "x" .string]⟩ (.object [("x", .string "a")]) =
        .ok ⟨⟨none, [Field.ofRequired "x" .string]⟩, [("x", .string "a")]⟩ :=
  ⟨rfl, rfl, rfl, rfl, rfl, by decide, rfl, rfl, rfl, rfl⟩

end PromptTrainer
