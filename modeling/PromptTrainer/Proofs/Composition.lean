import PromptTrainer.Proofs.Narrowing
/-!
# Composition is the meet for containment

`Schema.compose a b` walks `b`'s fields in order over `a`'s.  A name `a` declares must come with
an equal type; the field then takes the disjunction of both `required` flags and the default
and description it lacks.  A name `a` does not declare is appended.  On schemas with distinct
names the walk has a closed form (`Schema.compose_eq`): the composition fails with the first
field of `b` that clashes with `a` (`Schema.clash?`), and otherwise holds `Schema.meetFields`,
`a`'s fields each absorbing its partner in `b`, then `b`'s fields of new names.

From the closed form, on the schemas the program builds, the composition contains both sides
and is contained in every schema that contains both: it is their meet for containment.  A field
the two sides share keeps `a`'s type, and the composition still contains `b` because equal
types are narrower than each other (`FieldType.narrower_of_beq`).  Equality of enumerations is
equality as multisets of literals, so this needs literal equality to be reflexive, which it is
on well-formed members; equality of records ignores order, so it needs distinct names, and
then two equal records declare the same names.

Main statement: `Schema.compose_is_meet`.
-/

namespace PromptTrainer

/-! ### Equal types are narrower -/

namespace FieldType

/-- Each member of an enumeration equal, as a multiset of literals, to another meets an equal
literal there: it counts itself, so it counts something in the other. -/
theorem exists_literalEq_of_sameLiterals {a b : List Json} (wellFormed : ∀ v ∈ a, v.WellFormed)
    (same : sameLiterals a b = true) : ∀ v ∈ a, ∃ w ∈ b, literalEq v w = true := by
  intro v member
  simp only [sameLiterals, Bool.and_eq_true, beq_iff_eq, List.all_eq_true] at same
  have own : 0 < literalCount a v :=
    List.length_pos_of_mem (List.mem_filter.mpr ⟨member, literalEq_self (wellFormed v member)⟩)
  have other : 0 < literalCount b v := same.2 v member ▸ own
  obtain ⟨w, counted⟩ := List.exists_mem_of_length_pos other
  exact ⟨w, (List.mem_filter.mp counted).1, (List.mem_filter.mp counted).2⟩

end FieldType

namespace Schema

theorem beq_eq (fields : List Field) (title : Option String) (other : Schema) :
    Schema.beq ⟨title, fields⟩ other =
      (fields.length == other.fields.length && beqFields fields other) := rfl

/-- Field-list equality: each field finds a field of its name in the other schema, with an
equal type and the same `required` flag. -/
theorem partner_of_beqFields {fields : List Field} {other : Schema}
    (same : beqFields fields other = true) :
    ∀ f ∈ fields, ∃ g, other.field? f.name = some g ∧ f.type.beq g.type = true ∧
      f.required = g.required := by
  induction fields with
  | nil => simp
  | cons f rest ih =>
    obtain ⟨name, type, required, default, description⟩ := f
    simp only [beqFields, Bool.and_eq_true] at same
    intro g member
    rcases List.mem_cons.mp member with rfl | later
    · cases found : other.field? name with
      | none => simp [found] at same
      | some g' =>
        simp only [found, Bool.and_eq_true, beq_iff_eq] at same
        exact ⟨g', rfl, same.1.1.1, same.1.1.2⟩
    · exact ih same.2 g later

/-- Equal schemas with distinct names contain each other's fields: the second declares the
same names, so each of its fields finds a partner of equal type and flag in the first. -/
theorem contains_of_beq {s t : Schema} (distinct : s.names.Nodup) (same : s.beq t = true)
    (narrows : ∀ f ∈ s.fields, ∀ b, f.type.beq b = true → f.type.narrower b = true) :
    s.contains t = true := by
  obtain ⟨title, fields⟩ := s
  rw [beq_eq, Bool.and_eq_true, beq_iff_eq] at same
  obtain ⟨sameLength, partners⟩ := same
  have partner := partner_of_beqFields partners
  have covered : fields.map Field.name ⊆ t.names := by
    intro name member
    obtain ⟨f, present, rfl⟩ := List.mem_map.mp member
    obtain ⟨g, found, -, -⟩ := partner f present
    obtain ⟨inT, named⟩ := mem_of_field? found
    exact List.mem_map.mpr ⟨g, inT, named⟩
  have perm := (List.subperm_of_subset distinct covered).perm_of_length_le
    (by simp [names, sameLength])
  have tDistinct : t.names.Nodup := perm.nodup_iff.mp distinct
  rw [contains_eq, containsFields_iff]
  intro g member
  obtain ⟨f, present, named⟩ := List.mem_map.mp (perm.symm.subset (List.mem_map_of_mem member))
  obtain ⟨g', found, equal, flag⟩ := partner f present
  have : g' = g := by
    rw [named, field?_of_mem tDistinct member] at found
    exact (Option.some.inj found).symm
  subst this
  refine ⟨f, named ▸ field?_of_mem distinct present, by simp [flag], narrows f present g'.type equal⟩

end Schema

namespace FieldType

mutual
/-- A type equal to another is narrower than it, on types with distinct names and
well-formed enumeration members. -/
theorem narrower_of_beq : ∀ (a b : FieldType), a.DistinctNames → a.LiteralsWellFormed →
    a.beq b = true → a.narrower b = true
  | .string, b, _, _, same | .integer, b, _, _, same | .number, b, _, _, same
  | .boolean, b, _, _, same | .any, b, _, _, same => by
    cases b <;> simp_all [beq, narrower]
  | .list a, b, names, literals, same => by
    cases b with
    | list b => exact narrower_of_beq a b names.of_list literals.of_list same
    | _ => simp [beq] at same
  | .map a, b, names, literals, same => by
    cases b with
    | map b => exact narrower_of_beq a b names.of_map literals.of_map same
    | _ => simp [beq] at same
  | .optional a, b, names, literals, same => by
    cases b with
    | optional b => exact narrower_of_beq a b names.of_optional literals.of_optional same
    | _ => simp [beq] at same
  | .enum values, b, _, literals, same => by
    cases b with
    | enum others =>
      simp only [narrower, List.all_eq_true, List.any_eq_true]
      exact exists_literalEq_of_sameLiterals literals.members same
    | _ => simp [beq] at same
  | .object ⟨title, fields⟩, b, names, literals, same => by
    cases b with
    | object t =>
      exact Schema.contains_of_beq names.schema same
        (fieldsNarrower_of_beq (fun _ member => names.field member)
          (fun _ member => literals.field member))
    | _ => simp [beq] at same

/-- Every field type with distinct names and well-formed literals is narrower than the types
equal to it. -/
theorem fieldsNarrower_of_beq : ∀ {fields : List Field}, (∀ f ∈ fields, f.type.DistinctNames) →
    (∀ f ∈ fields, f.type.LiteralsWellFormed) →
    ∀ f ∈ fields, ∀ b, f.type.beq b = true → f.type.narrower b = true
  | [], _, _ => by simp
  | ⟨_, _, _, _, _⟩ :: _, names, literals => by
    intro f member
    rcases List.mem_cons.mp member with rfl | later
    · exact fun b => narrower_of_beq _ b (names _ List.mem_cons_self) (literals _ List.mem_cons_self)
    · exact fieldsNarrower_of_beq (fun g inRest => names g (List.mem_cons_of_mem _ inRest))
        (fun g inRest => literals g (List.mem_cons_of_mem _ inRest)) f later
end

end FieldType

/-! ### The closed form of a composition -/

namespace Field

/-- A left-hand field of a composition after meeting the right-hand field of its name: required
when either is, with the right-hand default and description where it has none. -/
def absorb (f g : Field) : Field :=
  { f with
    required := f.required || g.required
    default := f.default.or g.default
    description := f.description.or g.description }

@[simp] theorem absorb_name (f g : Field) : (f.absorb g).name = f.name := rfl

@[simp] theorem absorb_type (f g : Field) : (f.absorb g).type = f.type := rfl

@[simp] theorem absorb_required (f g : Field) :
    (f.absorb g).required = (f.required || g.required) := rfl

end Field

namespace Schema

/-- A left-hand field after a composition with right-hand fields: it absorbs the first
right-hand field of its name, if there is one. -/
def meetField (rights : List Field) (f : Field) : Field :=
  match rights.find? (fun g => g.name == f.name) with
  | some g => f.absorb g
  | none => f

/-- The fields of a composition with right-hand fields: the left-hand fields, each meeting its
partner, then the right-hand fields whose names the left does not declare. -/
def meetFields (a : Schema) (rights : List Field) : List Field :=
  a.fields.map (meetField rights) ++ rights.filter (fun g => !a.hasField g.name)

/-- The refusal of a right-hand field: a conflict when the left declares its name with a type
that is not equal. -/
def clash? (a : Schema) (g : Field) : Option SchemaError :=
  match a.field? g.name with
  | some f =>
    if f.type.beq g.type then none else some (.conflict g.name f.type.describe g.type.describe)
  | none => none

@[simp] theorem meetField_name (rights : List Field) (f : Field) :
    (meetField rights f).name = f.name := by
  unfold meetField
  split <;> rfl

@[simp] theorem meetField_type (rights : List Field) (f : Field) :
    (meetField rights f).type = f.type := by
  unfold meetField
  split <;> rfl

theorem meetField_of_partner {rights : List Field} {f g : Field}
    (found : rights.find? (fun g => g.name == f.name) = some g) :
    meetField rights f = f.absorb g := by
  simp [meetField, found]

theorem meetField_of_alone {rights : List Field} {f : Field}
    (alone : rights.find? (fun g => g.name == f.name) = none) : meetField rights f = f := by
  simp [meetField, alone]

/-- Fields none of which carries a name are not found by it. -/
theorem find?_name_eq_none {done : List Field} {name : String} (fresh : name ∉ done.map Field.name) :
    done.find? (fun x => x.name == name) = none := by
  rw [List.find?_eq_none]
  intro x member
  have : x.name ≠ name := fun named => fresh (named ▸ List.mem_map_of_mem member)
  simpa using this

/-- A right-hand field of another name leaves the meeting as it was. -/
theorem meetField_append_of_ne (done : List Field) {f g : Field} (other : g.name ≠ f.name) :
    meetField (done ++ [g]) f = meetField done f := by
  simp [meetField, List.find?_append, other]

/-- The first right-hand field of a name is the one the left-hand field absorbs. -/
theorem meetField_append_self {done : List Field} {f g : Field}
    (fresh : g.name ∉ done.map Field.name) (same : g.name = f.name) :
    meetField (done ++ [g]) f = f.absorb g := by
  have alone := find?_name_eq_none fresh
  rw [same] at alone
  simp [meetField, List.find?_append, alone, same]

theorem hasField_eq_false_of_field? {a : Schema} {name : String} (absent : a.field? name = none) :
    a.hasField name = false := by
  simpa [hasField, field?, List.find?_eq_none] using absent

theorem field?_eq_none_of_hasField {a : Schema} {name : String} (absent : a.hasField name = false) :
    a.field? name = none := by
  simpa [hasField, field?, List.find?_eq_none] using absent

theorem meetFields_nil (a : Schema) : meetFields a [] = a.fields := by
  have alone : meetField [] = id := funext fun _ => rfl
  simp [meetFields, alone]

/-- Looking a declared name up among the fields met so far finds the left-hand field, untouched
while no right-hand field of its name has come. -/
theorem find?_meetFields_of_declared {a : Schema} {done : List Field} {g f : Field}
    (declared : a.field? g.name = some f) (fresh : g.name ∉ done.map Field.name) :
    (meetFields a done).find? (fun x => x.name == g.name) = some f := by
  have named := (mem_of_field? declared).2
  have sameTest : ((fun x : Field => x.name == g.name) ∘ meetField done) =
      fun x => x.name == g.name := by
    funext x
    simp
  have untouched : meetField done f = f := by
    apply meetField_of_alone
    rw [named]
    exact find?_name_eq_none fresh
  have found : a.fields.find? (fun x => x.name == g.name) = some f := declared
  unfold meetFields
  rw [List.find?_append, List.find?_map, sameTest, found, Option.map_some, untouched]
  rfl


/-- Looking an undeclared name up among the fields met so far finds nothing while no
right-hand field of its name has come. -/
theorem find?_meetFields_of_undeclared {a : Schema} {done : List Field} {g : Field}
    (undeclared : a.field? g.name = none) (fresh : g.name ∉ done.map Field.name) :
    (meetFields a done).find? (fun x => x.name == g.name) = none := by
  have sameTest : ((fun x : Field => x.name == g.name) ∘ meetField done) =
      fun x => x.name == g.name := by
    funext x
    simp
  have absent : a.fields.find? (fun x => x.name == g.name) = none := undeclared
  have kept : g.name ∉ (done.filter (fun x => !a.hasField x.name)).map Field.name :=
    fun member => fresh ((List.filter_sublist.map Field.name).subset member)
  unfold meetFields
  rw [List.find?_append, List.find?_map, sameTest, absent, find?_name_eq_none kept]
  rfl

/-- Meeting the right-hand field of a declared name: the left-hand field of that name absorbs
it, and every other field stays. -/
theorem map_absorb_meetFields {a : Schema} {done : List Field} {g f : Field}
    (declared : a.field? g.name = some f) (fresh : g.name ∉ done.map Field.name) :
    (meetFields a done).map (fun x => if x.name == g.name then x.absorb g else x) =
      meetFields a (done ++ [g]) := by
  have named := (mem_of_field? declared).2
  have hasName : a.hasField g.name = true := by
    cases h : a.hasField g.name
    · rw [field?_eq_none_of_hasField h] at declared
      cases declared
    · rfl
  unfold meetFields
  rw [List.map_append, List.filter_append, List.map_map]
  congr 1
  · refine List.map_congr_left (fun x _ => ?_)
    by_cases same : x.name = g.name
    · have alone : meetField done x = x := meetField_of_alone (same ▸ find?_name_eq_none fresh)
      simp [alone, same, meetField_append_self fresh same.symm]
    · simp [same, meetField_append_of_ne done (Ne.symm same)]
  · -- the right-hand fields met so far carry other names, and the new one is declared
    have others : ∀ y ∈ done.filter (fun x => !a.hasField x.name), y.name ≠ g.name :=
      fun y member named => fresh (named ▸ List.mem_map_of_mem (List.mem_of_mem_filter member))
    rw [List.map_congr_left (fun y member => if_neg (by simpa using others y member)), List.map_id']
    simp [hasName]

/-- Meeting the right-hand field of an undeclared name appends it. -/
theorem append_meetFields {a : Schema} {done : List Field} {g : Field}
    (undeclared : a.field? g.name = none) :
    meetFields a done ++ [g] = meetFields a (done ++ [g]) := by
  have absent := hasField_eq_false_of_field? undeclared
  have others : ∀ x ∈ a.fields, g.name ≠ x.name := fun x member named => by
    have unnamed := List.find?_eq_none.mp
      (show a.fields.find? (fun f => f.name == g.name) = none from undeclared) x member
    simp [named] at unnamed
  unfold meetFields
  rw [List.filter_append, List.map_congr_left (fun x member => meetField_append_of_ne done
    (others x member))]
  simp [absent]

/-! ### The walk over the right-hand fields -/

theorem clash?_of_undeclared {a : Schema} {g : Field} (undeclared : a.field? g.name = none) :
    a.clash? g = none := by
  simp [clash?, undeclared]

theorem clash?_of_equal {a : Schema} {g f : Field} (declared : a.field? g.name = some f)
    (equal : f.type.beq g.type = true) : a.clash? g = none := by
  simp [clash?, declared, equal]

theorem clash?_of_unequal {a : Schema} {g f : Field} (declared : a.field? g.name = some f)
    (unequal : f.type.beq g.type = false) :
    a.clash? g = some (.conflict g.name f.type.describe g.type.describe) := by
  simp [clash?, declared, unequal]

/-- One step of the walk: a right-hand field of a name the left declares with an equal type is
absorbed. -/
theorem mergeField_of_equal {a : Schema} {done : List Field} {g f : Field}
    (declared : a.field? g.name = some f) (fresh : g.name ∉ done.map Field.name)
    (equal : f.type.beq g.type = true) :
    mergeField (meetFields a done) g = .ok (meetFields a (done ++ [g])) := by
  unfold mergeField
  rw [find?_meetFields_of_declared declared fresh]
  simp only [equal, ↓reduceIte]
  rw [← map_absorb_meetFields declared fresh]
  rfl

/-- One step of the walk: a right-hand field of a name the left declares with a type not equal
is refused. -/
theorem mergeField_of_unequal {a : Schema} {done : List Field} {g f : Field}
    (declared : a.field? g.name = some f) (fresh : g.name ∉ done.map Field.name)
    (unequal : f.type.beq g.type = false) :
    mergeField (meetFields a done) g = .error (.conflict g.name f.type.describe g.type.describe) := by
  unfold mergeField
  rw [find?_meetFields_of_declared declared fresh]
  simp [unequal]

/-- One step of the walk: a right-hand field of a new name is appended. -/
theorem mergeField_of_undeclared {a : Schema} {done : List Field} {g : Field}
    (undeclared : a.field? g.name = none) (fresh : g.name ∉ done.map Field.name) :
    mergeField (meetFields a done) g = .ok (meetFields a (done ++ [g])) := by
  unfold mergeField
  rw [find?_meetFields_of_undeclared undeclared fresh, append_meetFields undeclared]

/-- The walk over the right-hand fields still to come, from the fields met so far: it stops at
the first clash, and otherwise meets them all. -/
theorem mergeFields_meetFields {a : Schema} (rest : List Field) :
    ∀ (done : List Field), ((done ++ rest).map Field.name).Nodup →
      mergeFields (meetFields a done) rest =
        match rest.findSome? a.clash? with
        | some e => .error e
        | none => .ok (meetFields a (done ++ rest)) := by
  induction rest with
  | nil => intro done _; simp [mergeFields]
  | cons g rest ih =>
    intro done distinct
    have fresh : g.name ∉ done.map Field.name := by
      simp only [List.map_append, List.map_cons, List.nodup_append, List.nodup_cons] at distinct
      exact fun member => distinct.2.2 g.name member g.name List.mem_cons_self rfl
    have grown : (((done ++ [g]) ++ rest).map Field.name).Nodup := by simpa using distinct
    have continued := ih (done ++ [g]) grown
    rw [List.append_assoc, List.singleton_append] at continued
    rw [List.findSome?_cons]
    cases declared : a.field? g.name with
    | none =>
      simp only [mergeFields, mergeField_of_undeclared declared fresh, continued,
        clash?_of_undeclared declared]
    | some f =>
      cases equal : f.type.beq g.type with
      | true =>
        simp only [mergeFields, mergeField_of_equal declared fresh equal, continued,
          clash?_of_equal declared equal]
      | false =>
        simp only [mergeFields, mergeField_of_unequal declared fresh equal,
          clash?_of_unequal declared equal]

/-- On schemas with distinct names, a composition fails with the first right-hand field that
clashes with the left, and otherwise holds the met fields under the left title, else the
right. -/
theorem compose_eq {a b : Schema} (distinct : b.names.Nodup) :
    a.compose b =
      match b.fields.findSome? a.clash? with
      | some e => .error e
      | none => .ok ⟨a.title.or b.title, meetFields a b.fields⟩ := by
  have walked := mergeFields_meetFields (a := a) b.fields [] (by simpa [names] using distinct)
  rw [meetFields_nil, List.nil_append] at walked
  unfold compose
  rw [walked]
  cases b.fields.findSome? a.clash? <;> rfl


/-! ### Reading the met fields -/

theorem required_meetField {rights : List Field} {f : Field} (required : f.required = true) :
    (meetField rights f).required = true := by
  unfold meetField
  split <;> simp [required]

/-- The met fields carry the left-hand names, then the new right-hand ones, each once. -/
theorem meetFields_nodup {a : Schema} {rights : List Field} (distinct : a.names.Nodup)
    (rightDistinct : (rights.map Field.name).Nodup) : ((meetFields a rights).map Field.name).Nodup := by
  have leftNames : (a.fields.map (meetField rights)).map Field.name = a.names := by
    simp [names, Function.comp_def]
  unfold meetFields
  rw [List.map_append, leftNames, List.nodup_append]
  refine ⟨distinct, (List.filter_sublist.map Field.name).nodup rightDistinct, ?_⟩
  intro name declared other added same
  obtain ⟨y, kept, rfl⟩ := List.mem_map.mp added
  have undeclared := (List.mem_filter.mp kept).2
  obtain ⟨x, member, rfl⟩ := List.mem_map.mp declared
  have found : a.hasField y.name = true := List.any_eq_true.mpr ⟨x, member, by simp [same]⟩
  simp [found] at undeclared

theorem mem_meetFields {a : Schema} {rights : List Field} {h : Field}
    (member : h ∈ meetFields a rights) :
    (∃ f ∈ a.fields, meetField rights f = h) ∨ (h ∈ rights ∧ a.hasField h.name = false) := by
  rcases List.mem_append.mp member with left | right
  · exact .inl (List.mem_map.mp left)
  · obtain ⟨kept, undeclared⟩ := List.mem_filter.mp right
    exact .inr ⟨kept, by simpa using undeclared⟩

/-- The met schema contains the left side: each left-hand field keeps its type, and its flag
can only be raised. -/
theorem meet_contains_left {a : Schema} {rights : List Field} (title : Option String)
    (distinct : a.names.Nodup) (rightDistinct : (rights.map Field.name).Nodup)
    (reflexive : ∀ f ∈ a.fields, f.type.narrower f.type = true) :
    Schema.contains ⟨title, meetFields a rights⟩ a = true := by
  rw [contains_eq, containsFields_iff]
  intro f member
  have met : meetField rights f ∈ meetFields a rights :=
    List.mem_append_left _ (List.mem_map_of_mem member)
  refine ⟨meetField rights f, ?_, ?_, by simpa using reflexive f member⟩
  · simpa using field?_of_mem (s := ⟨title, meetFields a rights⟩)
      (meetFields_nodup distinct rightDistinct) met
  · cases hf : f.required with
    | false => rfl
    | true => simp [required_meetField hf]

theorem beq_of_clash? {a : Schema} {g f : Field} (declared : a.field? g.name = some f)
    (agrees : a.clash? g = none) : f.type.beq g.type = true := by
  cases equal : f.type.beq g.type
  · rw [clash?_of_unequal declared equal] at agrees
    cases agrees
  · rfl

/-- The met schema contains the right side when nothing clashes: a shared field keeps the left
type, which is equal to the right one and so narrower, and takes both flags. -/
theorem meet_contains_right {a b : Schema} (title : Option String)
    (distinct : a.names.Nodup) (rightDistinct : b.names.Nodup)
    (agrees : ∀ g ∈ b.fields, a.clash? g = none)
    (narrowsLeft : ∀ f ∈ a.fields, ∀ t, f.type.beq t = true → f.type.narrower t = true)
    (reflexiveRight : ∀ g ∈ b.fields, g.type.narrower g.type = true) :
    Schema.contains ⟨title, meetFields a b.fields⟩ b = true := by
  obtain ⟨title', rights⟩ := b
  have metDistinct : (Schema.names ⟨title, meetFields a rights⟩).Nodup :=
    meetFields_nodup distinct rightDistinct
  rw [contains_eq, containsFields_iff]
  intro g member
  cases declared : a.field? g.name with
  | none =>
    have kept : g ∈ meetFields a rights :=
      List.mem_append_right _ (List.mem_filter.mpr ⟨member, by simp [hasField_eq_false_of_field? declared]⟩)
    exact ⟨g, field?_of_mem metDistinct kept, by simp, reflexiveRight g member⟩
  | some f =>
    obtain ⟨inLeft, named⟩ := mem_of_field? declared
    have partner : rights.find? (fun x => x.name == f.name) = some g := by
      rw [named]
      exact field?_of_mem (s := ⟨title', rights⟩) rightDistinct member
    have met : meetField rights f ∈ meetFields a rights :=
      List.mem_append_left _ (List.mem_map_of_mem inLeft)
    have found := field?_of_mem metDistinct met
    rw [meetField_name, named, meetField_of_partner partner] at found
    refine ⟨f.absorb g, found, by cases hg : g.required <;> simp [hg], ?_⟩
    exact narrowsLeft f inLeft g.type (beq_of_clash? declared (agrees g member))

/-- A schema containing both sides contains the met fields: a shared field is looked up under
one name, so the container's field there satisfies both flags. -/
theorem containsFields_meet {s a : Schema} {rights : List Field} (left : s.contains a = true)
    (right : s.containsFields rights = true) : s.containsFields (meetFields a rights) = true := by
  rw [contains_eq, containsFields_iff] at left
  rw [containsFields_iff] at right ⊢
  intro h member
  rcases mem_meetFields member with ⟨f, inLeft, rfl⟩ | ⟨inRight, -⟩
  · obtain ⟨x, found, flag, narrow⟩ := left f inLeft
    cases partner : rights.find? (fun g => g.name == f.name) with
    | none => exact ⟨x, by simpa using found, by simpa [meetField_of_alone partner] using flag,
        by simpa using narrow⟩
    | some g =>
      have named : g.name = f.name := by simpa using List.find?_some partner
      obtain ⟨x', found', flag', -⟩ := right g (List.mem_of_find?_eq_some partner)
      rw [named, found] at found'
      cases found'
      refine ⟨x, by simpa using found, ?_, by simpa using narrow⟩
      rw [meetField_of_partner partner, Field.absorb_required]
      cases hf : f.required <;> cases hg : g.required <;> simp_all
  · exact right h inRight

/-! ### The meet -/

/-- A clash names the right-hand field and the two types. -/
theorem exists_of_clash? {a : Schema} {g : Field} {e : SchemaError} (clashes : a.clash? g = some e) :
    ∃ f, a.field? g.name = some f ∧ f.type.beq g.type = false ∧
      e = .conflict g.name f.type.describe g.type.describe := by
  cases declared : a.field? g.name with
  | none => rw [clash?_of_undeclared declared] at clashes; cases clashes
  | some f =>
    cases equal : f.type.beq g.type
    · rw [clash?_of_unequal declared equal] at clashes
      exact ⟨f, rfl, equal, (Option.some.inj clashes).symm⟩
    · rw [clash?_of_equal declared equal] at clashes
      cases clashes

/-- On the schemas the program builds, composition is the meet for containment: the composed
schema contains both sides and lies in every schema containing both.  It fails exactly when a
name is declared on both sides with types that are not equal, and then with a conflict naming
such a field and its two types. -/
theorem compose_is_meet
    {a b : Schema}
    (namesA : (FieldType.object a).DistinctNames)
    (namesB : (FieldType.object b).DistinctNames)
    (literalsA : (FieldType.object a).LiteralsWellFormed)
    (literalsB : (FieldType.object b).LiteralsWellFormed) :
    (∀ c, a.compose b = .ok c →
      c.contains a = true ∧ c.contains b = true ∧
        ∀ s : Schema, s.contains a = true → s.contains b = true → s.contains c = true) ∧
    ((∃ name left right, a.compose b = .error (.conflict name left right)) ↔
      ∃ f ∈ a.fields, ∃ g ∈ b.fields, f.name = g.name ∧ (f.type == g.type) = false) ∧
    ∀ e, a.compose b = .error e →
      ∃ f ∈ a.fields, ∃ g ∈ b.fields, f.name = g.name ∧ (f.type == g.type) = false ∧
        e = .conflict g.name f.type.describe g.type.describe := by
  have distinctA := namesA.schema
  have distinctB := namesB.schema
  have composed := compose_eq (a := a) distinctB
  have failure : ∀ e, a.compose b = .error e →
      ∃ f ∈ a.fields, ∃ g ∈ b.fields, f.name = g.name ∧ (f.type == g.type) = false ∧
        e = .conflict g.name f.type.describe g.type.describe := by
    intro e failed
    rw [composed] at failed
    cases first : b.fields.findSome? a.clash? with
    | none => rw [first] at failed; cases failed
    | some e' =>
      rw [first] at failed
      cases failed
      obtain ⟨g, member, clashes⟩ := List.exists_of_findSome?_eq_some first
      obtain ⟨f, declared, unequal, rfl⟩ := exists_of_clash? clashes
      obtain ⟨inLeft, named⟩ := mem_of_field? declared
      exact ⟨f, inLeft, g, member, named, unequal, rfl⟩
  refine ⟨?_, ⟨?_, ?_⟩, failure⟩
  · intro c done
    rw [composed] at done
    cases first : b.fields.findSome? a.clash? with
    | some e => rw [first] at done; cases done
    | none =>
      rw [first] at done
      cases done
      have agrees : ∀ g ∈ b.fields, a.clash? g = none := List.findSome?_eq_none_iff.mp first
      have reflexiveA : ∀ f ∈ a.fields, f.type.narrower f.type = true := fun f member =>
        FieldType.narrower_self _ (namesA.field member) (literalsA.field member)
      have reflexiveB : ∀ g ∈ b.fields, g.type.narrower g.type = true := fun g member =>
        FieldType.narrower_self _ (namesB.field member) (literalsB.field member)
      refine ⟨meet_contains_left _ distinctA distinctB reflexiveA, ?_, fun s left right => ?_⟩
      · exact meet_contains_right _ distinctA distinctB agrees
          (fun f member => FieldType.fieldsNarrower_of_beq
            (fun f member => namesA.field member) (fun f member => literalsA.field member) f member)
          reflexiveB
      · rw [contains_eq] at right ⊢
        exact containsFields_meet left right
  · rintro ⟨name, left, right, failed⟩
    obtain ⟨f, inLeft, g, member, named, unequal, -⟩ := failure _ failed
    exact ⟨f, inLeft, g, member, named, unequal⟩
  · rintro ⟨f, inLeft, g, member, named, unequal⟩
    have declared : a.field? g.name = some f := named ▸ field?_of_mem distinctA inLeft
    have clashes := clash?_of_unequal declared unequal
    cases first : b.fields.findSome? a.clash? with
    | none =>
      rw [List.findSome?_eq_none_iff] at first
      rw [first g member] at clashes
      cases clashes
    | some e =>
      have failed : a.compose b = .error e := by rw [composed, first]
      obtain ⟨f', -, g', -, -, -, conflict⟩ := failure e failed
      exact ⟨g'.name, f'.type.describe, g'.type.describe, conflict ▸ failed⟩


/-- Composing `{x: integer, y?: enum[1, 2]}` with `{y: enum[2.0, 1], z?: string}`: the two
enumerations are equal as multisets of literals, so the composition succeeds and is the meet. -/
theorem compose_is_meet_shared_enumeration :
    (FieldType.object ⟨none, [Field.ofRequired "x" .integer,
      Field.ofOptional "y" (.enum [.number (.int 1), .number (.int 2)])]⟩).DistinctNames ∧
    (FieldType.object ⟨none, [Field.ofRequired "y" (.enum [.number (.float 2.0), .number (.int 1)]),
      Field.ofOptional "z" .string]⟩).DistinctNames ∧
    (FieldType.object ⟨none, [Field.ofRequired "x" .integer,
      Field.ofOptional "y" (.enum [.number (.int 1), .number (.int 2)])]⟩).LiteralsWellFormed ∧
    (FieldType.object ⟨none, [Field.ofRequired "y" (.enum [.number (.float 2.0), .number (.int 1)]),
      Field.ofOptional "z" .string]⟩).LiteralsWellFormed ∧
    (∀ c, Schema.compose ⟨none, [Field.ofRequired "x" .integer,
        Field.ofOptional "y" (.enum [.number (.int 1), .number (.int 2)])]⟩
        ⟨none, [Field.ofRequired "y" (.enum [.number (.float 2.0), .number (.int 1)]),
          Field.ofOptional "z" .string]⟩ = .ok c →
      c.contains ⟨none, [Field.ofRequired "x" .integer,
        Field.ofOptional "y" (.enum [.number (.int 1), .number (.int 2)])]⟩ = true ∧
      c.contains ⟨none, [Field.ofRequired "y" (.enum [.number (.float 2.0), .number (.int 1)]),
        Field.ofOptional "z" .string]⟩ = true ∧
      ∀ s : Schema,
        s.contains ⟨none, [Field.ofRequired "x" .integer,
          Field.ofOptional "y" (.enum [.number (.int 1), .number (.int 2)])]⟩ = true →
        s.contains ⟨none, [Field.ofRequired "y" (.enum [.number (.float 2.0), .number (.int 1)]),
          Field.ofOptional "z" .string]⟩ = true →
        s.contains c = true) ∧
    ((∃ name left right, Schema.compose ⟨none, [Field.ofRequired "x" .integer,
        Field.ofOptional "y" (.enum [.number (.int 1), .number (.int 2)])]⟩
        ⟨none, [Field.ofRequired "y" (.enum [.number (.float 2.0), .number (.int 1)]),
          Field.ofOptional "z" .string]⟩ = .error (.conflict name left right)) ↔
      ∃ f ∈ [Field.ofRequired "x" .integer,
          Field.ofOptional "y" (.enum [.number (.int 1), .number (.int 2)])],
        ∃ g ∈ [Field.ofRequired "y" (.enum [.number (.float 2.0), .number (.int 1)]),
          Field.ofOptional "z" .string],
        f.name = g.name ∧ (f.type == g.type) = false) ∧
    ∀ e, Schema.compose ⟨none, [Field.ofRequired "x" .integer,
        Field.ofOptional "y" (.enum [.number (.int 1), .number (.int 2)])]⟩
        ⟨none, [Field.ofRequired "y" (.enum [.number (.float 2.0), .number (.int 1)]),
          Field.ofOptional "z" .string]⟩ = .error e →
      ∃ f ∈ [Field.ofRequired "x" .integer,
          Field.ofOptional "y" (.enum [.number (.int 1), .number (.int 2)])],
        ∃ g ∈ [Field.ofRequired "y" (.enum [.number (.float 2.0), .number (.int 1)]),
          Field.ofOptional "z" .string],
        f.name = g.name ∧ (f.type == g.type) = false ∧
          e = .conflict g.name f.type.describe g.type.describe := by
  have finite : (2.0 : Float).isFinite = true := by decide
  have namesA : (FieldType.object ⟨none, [Field.ofRequired "x" .integer,
      Field.ofOptional "y" (.enum [.number (.int 1), .number (.int 2)])]⟩).DistinctNames := by
    simp [FieldType.DistinctNames, FieldType.schemas, Schema.schemas, Schema.fieldSchemas,
      Field.ofRequired, Field.ofOptional, names]
  have namesB : (FieldType.object ⟨none, [Field.ofRequired "y"
      (.enum [.number (.float 2.0), .number (.int 1)]), Field.ofOptional "z" .string]⟩).DistinctNames := by
    simp [FieldType.DistinctNames, FieldType.schemas, Schema.schemas, Schema.fieldSchemas,
      Field.ofRequired, Field.ofOptional, names]
  have literalsA : (FieldType.object ⟨none, [Field.ofRequired "x" .integer,
      Field.ofOptional "y" (.enum [.number (.int 1), .number (.int 2)])]⟩).LiteralsWellFormed :=
    ⟨by simp [FieldType.enums, Schema.enums, Schema.fieldEnums, Field.ofRequired, Field.ofOptional,
        Json.WellFormed, JsonNumber.WellFormed, JsonNumber.signedMin, JsonNumber.unsignedMax],
      by simp [FieldType.schemas, Schema.schemas, Schema.fieldSchemas, Field.ofRequired,
        Field.ofOptional]⟩
  have literalsB : (FieldType.object ⟨none, [Field.ofRequired "y"
      (.enum [.number (.float 2.0), .number (.int 1)]), Field.ofOptional "z" .string]⟩).LiteralsWellFormed :=
    ⟨by simp [FieldType.enums, Schema.enums, Schema.fieldEnums, Field.ofRequired, Field.ofOptional,
        finite, Json.WellFormed, JsonNumber.WellFormed, JsonNumber.signedMin, JsonNumber.unsignedMax],
      by simp [FieldType.schemas, Schema.schemas, Schema.fieldSchemas, Field.ofRequired,
        Field.ofOptional]⟩
  exact ⟨namesA, namesB, literalsA, literalsB, compose_is_meet namesA namesB literalsA literalsB⟩

end Schema

end PromptTrainer
