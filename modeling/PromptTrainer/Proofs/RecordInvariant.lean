import PromptTrainer.Proofs.Revalidation
import PromptTrainer.Proofs.Associativity
/-!
# Every record the operations make passes its schema again

A record is made by constructing it from data, by reading its portable form, or from other
records by updating a field, concatenating two records, projecting fields away or keeping some.
Starting from schemas the program builds, every record so made has data that passes its schema
again with no violation: every required field is present, every key is declared, and every
value passes its field's type (`Record.made_revalidates`).

The invariant carried along is `Record.Valid`: the schema is one the program builds, with
well-formed literals, and the data passes it with every required field present.  Each operation
keeps it (`Record.Valid.construct`, `.update`, `.concat`, `.project`, `.keep`,
`.ofPortable`), and `Record.Made.valid` carries it along by induction on how a record was made.

* Construction keeps it because the normal form of data that passes passes again
  (`FieldType.revalidates`): defaults are inserted as they are, and they passed when the
  schema was built.
* Concatenation constructs against the composed schema, which the program builds too
  (`FieldType.WellBuilt.compose`): a shared field keeps the left type but may take the right
  default, which passes the left type because equal types accept the same values.
* A portable form is read through the JSON-Schema reader, which builds every schema it reads
  with `Schema.build` (`JsonSchema.reader_wellBuilt`).
-/

namespace PromptTrainer

/-! ### Types the program builds, with well-formed literals -/

namespace FieldType

/-- Every schema the type holds is one the program builds, and its literals are well formed. -/
def WellBuilt (t : FieldType) : Prop := t.Built ∧ t.LiteralsWellFormed

theorem WellBuilt.of_leaf {t : FieldType} (noSchemas : t.schemas = []) (noEnums : t.enums = []) :
    t.WellBuilt :=
  ⟨fun _ held => by simp [noSchemas] at held,
    ⟨fun _ held => by simp [noEnums] at held, fun _ held => by simp [noSchemas] at held⟩⟩

theorem WellBuilt.enum {values : List Json} (wellFormed : ∀ v ∈ values, v.WellFormed) :
    (enum values).WellBuilt := by
  refine ⟨fun _ held => by simp [schemas] at held, ⟨fun others held => ?_, fun _ held => ?_⟩⟩
  · simp only [enums, List.mem_singleton] at held
    exact held ▸ wellFormed
  · simp [schemas] at held

theorem WellBuilt.list {t : FieldType} (built : t.WellBuilt) : (list t).WellBuilt := built

theorem WellBuilt.map {t : FieldType} (built : t.WellBuilt) : (map t).WellBuilt := built

theorem WellBuilt.optional {t : FieldType} (built : t.WellBuilt) : (optional t).WellBuilt := built

/-- A record type is built when its schema is, with built field types and well-formed
defaults. -/
theorem WellBuilt.object {s : Schema} (accepted : s.Accepted)
    (fields : ∀ f ∈ s.fields, f.type.WellBuilt)
    (defaults : ∀ f ∈ s.fields, ∀ d ∈ f.default, d.WellFormed) : (FieldType.object s).WellBuilt := by
  have held : ∀ x ∈ (FieldType.object s).schemas, x = s ∨ ∃ f ∈ s.fields, x ∈ f.type.schemas := by
    intro x member
    simpa [schemas, Schema.schemas_eq] using member
  refine ⟨fun x member => ?_, ⟨fun values member => ?_, fun x member => ?_⟩⟩
  · rcases held x member with rfl | ⟨f, inFields, inType⟩
    exacts [accepted, (fields f inFields).1 x inType]
  · simp only [enums, Schema.enums_eq, List.mem_flatMap] at member
    obtain ⟨f, inFields, inType⟩ := member
    exact (fields f inFields).2.1 values inType
  · rcases held x member with rfl | ⟨f, inFields, inType⟩
    exacts [defaults, (fields f inFields).2.2 x inType]

theorem WellBuilt.field {s : Schema} (built : (FieldType.object s).WellBuilt) {f : Field}
    (member : f ∈ s.fields) : f.type.WellBuilt :=
  ⟨built.1.field member, built.2.field member⟩

end FieldType

/-! ### Well-formed values inside well-formed values -/

namespace Json

theorem WellFormed.lookup {members : List (String × Json)} (wf : (Json.object members).WellFormed)
    {key : String} {v : Json} (found : Json.lookup members key = some v) : v.WellFormed :=
  membersWellFormed_iff.mp wf.2 _ (mem_of_lookup found)

theorem WellFormed.get? {x : Json} (wf : x.WellFormed) {key : String} {v : Json}
    (found : x.get? key = some v) : v.WellFormed := by
  cases x with
  | object members => exact wf.lookup found
  | _ => simp [Json.get?] at found

theorem WellFormed.item {items : List Json} (wf : (Json.array items).WellFormed) {v : Json}
    (member : v ∈ items) : v.WellFormed :=
  itemsWellFormed_iff.mp wf v member

end Json

/-- A mapped result that is a value was mapped from a value. -/
theorem exists_of_map_eq_ok {ε α β : Type} {f : α → β} {x : Except ε α} {b : β}
    (mapped : x.map f = .ok b) : ∃ a, x = .ok a ∧ f a = b := by
  cases x with
  | error e => cases mapped
  | ok a => exact ⟨a, rfl, Except.ok.inj mapped⟩

/-! ### The JSON-Schema reader builds what it reads -/

namespace JsonSchema

/-- A name read from a type document is a type the program builds. -/
theorem readNamed_wellBuilt {fuel : Nat}
    (schemas : ∀ v path s, readSchema fuel v path = .ok s → v.WellFormed →
      (FieldType.object s).WellBuilt)
    (types : ∀ v path t, readType fuel v path = .ok t → v.WellFormed → t.WellBuilt)
    {name : String} {members : List (String × Json)} {path : String} {t : FieldType}
    (read : readNamed fuel name members (.object members) path = .ok t)
    (wf : (Json.object members).WellFormed) : t.WellBuilt := by
  unfold readNamed at read
  split_ifs at read with isString isInteger isNumber isBoolean isArray isObject described
  iterate 4 exact Except.ok.inj read ▸ FieldType.WellBuilt.of_leaf rfl rfl
  · -- an array: its items document, or `any`
    split at read
    · next items found =>
      obtain ⟨inner, innerRead, rfl⟩ := exists_of_map_eq_ok read
      exact (types _ _ _ innerRead (wf.lookup found)).list
    · obtain rfl := Except.ok.inj read
      exact FieldType.WellBuilt.of_leaf rfl rfl
  · -- an object with properties: a nested schema
    obtain ⟨s, schemaRead, rfl⟩ := exists_of_map_eq_ok read
    exact schemas _ _ _ schemaRead wf
  · -- an object without properties: a map
    split at read
    · next m ms found =>
      obtain ⟨inner, innerRead, rfl⟩ := exists_of_map_eq_ok read
      exact (types _ _ _ innerRead (wf.lookup found)).map
    · obtain rfl := Except.ok.inj read
      exact FieldType.WellBuilt.of_leaf rfl rfl

/-- One more level of a type document is a type the program builds, given that one level less
is, and that the names one level less read are. -/
theorem readType_succ_wellBuilt {fuel : Nat}
    (types : ∀ v path t, readType fuel v path = .ok t → v.WellFormed → t.WellBuilt)
    (named : ∀ name members path t, readNamed fuel name members (.object members) path = .ok t →
      (Json.object members).WellFormed → t.WellBuilt)
    {v : Json} {path : String} {t : FieldType} (read : readType (fuel + 1) v path = .ok t)
    (wf : v.WellFormed) : t.WellBuilt := by
  cases v with
  | object members =>
    rw [readType] at read
    split at read
    · -- an enumeration: its members are the document's
      next values found =>
      obtain rfl := Except.ok.inj read
      exact FieldType.WellBuilt.enum fun x member => (wf.lookup found).item member
    · cases read
    · split at read
      · -- `anyOf` with one variant that is not null
        next variants found =>
        dsimp only at read
        split at read
        · next inner only =>
          have innerWf : inner.WellFormed := (wf.lookup found).item
            (List.mem_of_mem_filter (only ▸ List.mem_singleton_self inner))
          split at read
          · obtain ⟨t', innerRead, rfl⟩ := exists_of_map_eq_ok read
            exact (types _ _ _ innerRead innerWf).optional
          · exact types _ _ _ read innerWf
        · cases read
      · split at read
        · obtain rfl := Except.ok.inj read
          exact FieldType.WellBuilt.of_leaf rfl rfl
        · exact named _ _ _ _ read wf
        · -- a list of names with one that is not null
          dsimp only at read
          split at read
          · next name only =>
            split at read
            · obtain ⟨t', namedRead, rfl⟩ := exists_of_map_eq_ok read
              exact (named _ _ _ _ namedRead wf).optional
            · exact named _ _ _ _ read wf
          · cases read
        · cases read
  | _ => simp [readType] at read

/-- The fields read from the properties of a schema document have types the program builds and
well-formed defaults, given that types one level less deep are. -/
theorem readFields_wellBuilt {fuel : Nat}
    (types : ∀ v path t, readType fuel v path = .ok t → v.WellFormed → t.WellBuilt) :
    ∀ (props : List (String × Json)) {required : List String} {path : String}
      {fields : List Field}, readFields fuel props required path = .ok fields →
      (∀ m ∈ props, m.2.WellFormed) →
      ∀ f ∈ fields, f.type.WellBuilt ∧ ∀ d ∈ f.default, d.WellFormed
  | [], _, _, _, read, _ => by
    rw [readFields] at read
    obtain rfl := (Except.ok.inj read).symm
    simp
  | (name, property) :: rest, required, path, fields, read, wf => by
    rw [readFields] at read
    split at read
    · cases read
    · next type typeRead =>
      obtain ⟨head, headType, headDefault, mapped⟩ : ∃ head : Field, head.type = type ∧
          head.default = property.get? "default" ∧
          (readFields fuel rest required path).map (head :: ·) = .ok fields := by
        refine ⟨_, ?_, ?_, read⟩
        · split <;> split <;> rfl
        · split <;> split <;> simp_all [Field.withDefault, Field.withDescription]
      obtain ⟨others, restRead, rfl⟩ := exists_of_map_eq_ok mapped
      have propertyWf : property.WellFormed := wf _ List.mem_cons_self
      intro f member
      rcases List.mem_cons.mp member with rfl | later
      · refine ⟨headType ▸ types _ _ _ typeRead propertyWf, fun d given => ?_⟩
        rw [headDefault] at given
        exact propertyWf.get? given
      · exact readFields_wellBuilt types rest restRead
          (fun m inRest => wf m (List.mem_cons_of_mem _ inRest)) f later

/-- One more level of a schema document is a schema the program builds, given that its fields'
types are: the reader builds it with `Schema.build`. -/
theorem readSchema_succ_wellBuilt {fuel : Nat}
    (types : ∀ v path t, readType fuel v path = .ok t → v.WellFormed → t.WellBuilt)
    {v : Json} {path : String} {s : Schema} (read : readSchema (fuel + 1) v path = .ok s)
    (wf : v.WellFormed) : (FieldType.object s).WellBuilt := by
  cases v with
  | object members =>
    rw [readSchema] at read
    split at read
    · cases read
    · next props propsRead =>
      have propsWf : ∀ m ∈ props, m.2.WellFormed := by
        intro m member
        split at propsRead
        · next found =>
          obtain rfl := Except.ok.inj propsRead
          exact Json.membersWellFormed_iff.mp (wf.lookup found).2 m member
        · cases propsRead
        · obtain rfl := (Except.ok.inj propsRead).symm
          cases member
      dsimp only at read
      obtain ⟨required, fields, fieldsRead, schema, built, readBack⟩ : ∃ required fields,
          readFields fuel props required path = .ok fields ∧ ∃ schema, Schema.build fields = .ok schema ∧
            s.fields = schema.fields := by
        split at read
        · cases read
        · next fields fieldsRead =>
          split at read
          · cases read
          · next schema built =>
            refine ⟨_, fields, fieldsRead, schema, built, ?_⟩
            split at read <;> (obtain rfl := (Except.ok.inj read).symm; rfl)
      have fieldsBuilt := readFields_wellBuilt types props fieldsRead propsWf
      obtain ⟨rfl, distinct, checks⟩ := (Schema.build_eq_ok_iff fields).mp built
      change s.fields = fields at readBack
      have accepted : s.Accepted := (Schema.accepted_iff s).mpr
        ⟨by simpa [Schema.names, readBack] using distinct, readBack ▸ checks⟩
      exact FieldType.WellBuilt.object accepted
        (fun f member => (fieldsBuilt f (readBack ▸ member)).1)
        (fun f member => (fieldsBuilt f (readBack ▸ member)).2)
  | _ => simp [readSchema] at read

/-- Every schema and every type the reader reads from a well-formed document, with any fuel, is
one the program builds, with well-formed literals.  The induction is on the fuel. -/
theorem reader_wellBuilt : ∀ fuel : Nat,
    (∀ v path s, readSchema fuel v path = .ok s → v.WellFormed →
      (FieldType.object s).WellBuilt) ∧
    (∀ v path t, readType fuel v path = .ok t → v.WellFormed → t.WellBuilt)
  | 0 => ⟨fun _ _ _ read => by simp [readSchema] at read, fun _ _ _ read => by simp [readType] at read⟩
  | fuel + 1 => by
    obtain ⟨schemas, types⟩ := reader_wellBuilt fuel
    exact ⟨fun _ _ _ read wf => readSchema_succ_wellBuilt types read wf,
      fun _ _ _ read wf => readType_succ_wellBuilt types
        (fun _ _ _ _ namedRead namedWf => readNamed_wellBuilt schemas types namedRead namedWf) read wf⟩

end JsonSchema

/-- A schema read from a well-formed JSON-Schema document is one the program builds. -/
theorem Schema.ofJsonSchema_wellBuilt {doc : Json} {s : Schema} (read : Schema.ofJsonSchema doc = .ok s)
    (wf : doc.WellFormed) : (FieldType.object s).WellBuilt :=
  (JsonSchema.reader_wellBuilt _).1 doc "$" s read wf

/-! ### Setting a member -/

namespace Json

/-- Setting a key makes it read the new value and leaves every other key as it was. -/
theorem lookup_setMember (members : List (String × Json)) (key : String) (value : Json)
    (k : String) :
    lookup (setMember members key value) k = if k = key then some value else lookup members k := by
  unfold setMember lookup
  split
  · next present =>
    have sameTest : ((fun x : String × Json => x.1 == k) ∘
        fun m => if m.1 == key then (key, value) else m) = fun x => x.1 == k := by
      funext x
      by_cases named : x.1 = key <;> simp [named]
    rw [List.find?_map, sameTest, Option.map_map]
    by_cases same : k = key
    · subst same
      obtain ⟨m, member, named⟩ := List.any_eq_true.mp present
      obtain ⟨m', found⟩ : ∃ m', members.find? (fun x => x.1 == k) = some m' :=
        Option.isSome_iff_exists.mp (List.find?_isSome.mpr ⟨m, member, named⟩)
      have named' : m'.1 = k := by simpa using List.find?_some found
      simp [found, named']
    · cases found : members.find? (fun x => x.1 == k) with
      | none => simp [same]
      | some m =>
        have named : m.1 = k := by simpa using List.find?_some found
        have other : m.1 ≠ key := named ▸ same
        simp [same, other]
  · next absent =>
    rw [List.find?_append]
    by_cases same : k = key
    · subst same
      have missing : members.find? (fun x => x.1 == k) = none :=
        List.find?_eq_none.mpr fun m member named => absent (List.any_eq_true.mpr ⟨m, member, named⟩)
      simp [missing]
    · simp [same, Ne.symm same]

theorem mem_setMember {members : List (String × Json)} {key : String} {value : Json}
    {m : String × Json} (member : m ∈ setMember members key value) : m.1 = key ∨ m ∈ members := by
  unfold setMember at member
  split at member
  · obtain ⟨m', inMembers, rfl⟩ := List.mem_map.mp member
    by_cases named : m'.1 = key
    · exact .inl (by simp [named])
    · exact .inr (by simpa [named] using inMembers)
  · rcases List.mem_append.mp member with inMembers | added
    · exact .inr inMembers
    · exact .inl (by simp at added; simp [added])

end Json

/-! ### What each operation returns -/

namespace Field

/-- A field's check of its default passes exactly when the default, if any, passes the field's
type at the field's name. -/
theorem checkDefault_eq_ok_iff (f : Field) :
    f.checkDefault = .ok () ↔ ∀ d, f.default = some d → (validateType f.type d f.name).2 = [] := by
  constructor
  · exact fun checked d given => checkDefault_eq_ok given checked
  · intro passes
    unfold checkDefault
    cases given : f.default with
    | none => rfl
    | some d => simp [passes d given]

/-- Whether a field passes depends on the data only through the field's own entry. -/
theorem passes_congr {f : Field} {data data' : List (String × Json)}
    (same : Json.lookup data f.name = Json.lookup data' f.name) (pathPrefix : String) :
    f.Passes data pathPrefix ↔ f.Passes data' pathPrefix := by
  simp [Passes, same]

end Field

namespace Schema

/-- A schema with fields removed keeps its title and a selection of its fields, in order. -/
theorem mask_eq_ok {s s' : Schema} {names : List String} (masked : s.mask names = .ok s') :
    ∃ kept : Field → Bool, s' = ⟨s.title, s.fields.filter kept⟩ := by
  unfold mask at masked
  obtain ⟨checked, -, rfl⟩ := exists_of_map_eq_ok masked
  exact ⟨_, rfl⟩

/-- A schema with only some fields kept keeps its title and a selection of its fields, in
order. -/
theorem keep_eq_ok {s s' : Schema} {names : List String} (kept : s.keep names = .ok s') :
    ∃ chosen : Field → Bool, s' = ⟨s.title, s.fields.filter chosen⟩ := by
  unfold keep at kept
  obtain ⟨checked, -, rfl⟩ := exists_of_map_eq_ok kept
  exact ⟨_, rfl⟩

/-- A field of a composition is a left-hand field, alone or absorbing its right-hand partner of
the same name, or a right-hand field the left does not declare. -/
theorem mem_meetFields_cases {a : Schema} {rights : List Field} {h : Field}
    (member : h ∈ meetFields a rights) :
    (∃ f ∈ a.fields, h = f) ∨
      (∃ f ∈ a.fields, ∃ g ∈ rights, g.name = f.name ∧ h = f.absorb g) ∨
      (h ∈ rights ∧ a.hasField h.name = false) := by
  rcases mem_meetFields member with ⟨f, inLeft, rfl⟩ | right
  · cases partner : rights.find? (fun g => g.name == f.name) with
    | none => exact .inl ⟨f, inLeft, meetField_of_alone partner⟩
    | some g =>
      have named : g.name = f.name := by simpa using List.find?_some partner
      exact .inr (.inl ⟨f, inLeft, g, List.mem_of_find?_eq_some partner, named,
        meetField_of_partner partner⟩)
  · exact .inr (.inr right)

end Schema

namespace FieldType

/-- The composition of two schemas the program builds is one the program builds: a shared
field keeps the left type, and the right default it may take passes that type, being equal. -/
theorem WellBuilt.compose {a b s : Schema} (left : (FieldType.object a).WellBuilt)
    (right : (FieldType.object b).WellBuilt) (composed : a.compose b = .ok s) :
    (FieldType.object s).WellBuilt := by
  have acceptedA := (Schema.accepted_iff a).mp left.1.schema
  have acceptedB := (Schema.accepted_iff b).mp right.1.schema
  obtain ⟨agrees, rfl⟩ : (∀ g ∈ b.fields, a.clash? g = none) ∧ s = a.meet b := by
    rcases Schema.compose_settles a acceptedB.1 with ⟨holds, done⟩ | ⟨-, name, l, r, failed⟩
    · rw [composed] at done
      exact ⟨holds, (Except.ok.inj done)⟩
    · rw [composed] at failed
      cases failed
  have parts : ∀ h ∈ (a.meet b).fields, h.type.WellBuilt ∧ (∀ d ∈ h.default, d.WellFormed) ∧
      h.checkDefault = .ok () := by
    intro h member
    rcases Schema.mem_meetFields_cases member with ⟨f, inLeft, rfl⟩ |
      ⟨f, inLeft, g, inRight, named, rfl⟩ | ⟨inRight, -⟩
    · exact ⟨left.field inLeft, fun _ given => left.2.default inLeft given, acceptedA.2 _ inLeft⟩
    · have declared : a.field? g.name = some f := named ▸ Schema.field?_of_mem acceptedA.1 inLeft
      have equal := Schema.beq_of_clash? declared (agrees g inRight)
      -- the right type is equal to the left one, so the right default passes the left type
      have like : PassesLike g.type f.type := passesLike_of_beq _ _
        (right.1.distinctNames.field inRight) (left.1.distinctNames.field inLeft)
        (right.2.field inRight) (left.2.field inLeft)
        (beq_symm _ _ (left.1.distinctNames.field inLeft) (right.1.distinctNames.field inRight)
          (left.2.field inLeft) (right.2.field inRight) equal)
      refine ⟨(left.field inLeft : f.type.WellBuilt), fun d given => ?_,
        (Field.checkDefault_eq_ok_iff _).mpr ?_⟩
      · rcases Option.or_eq_some_iff.mp given with fromLeft | ⟨-, fromRight⟩
        exacts [left.2.default inLeft fromLeft, right.2.default inRight fromRight]
      · intro d given
        rcases Option.or_eq_some_iff.mp given with fromLeft | ⟨-, fromRight⟩
        · have passed := Field.checkDefault_eq_ok fromLeft (acceptedA.2 f inLeft)
          exact passed
        · have passed := Field.checkDefault_eq_ok fromRight (acceptedB.2 g inRight)
          rw [named] at passed
          exact like _ _ passed
    · exact ⟨right.field inRight, fun _ given => right.2.default inRight given,
        acceptedB.2 h inRight⟩
  exact WellBuilt.object
    ((Schema.accepted_iff _).mpr ⟨Schema.meetFields_nodup acceptedA.1 acceptedB.1,
      fun h member => (parts h member).2.2⟩)
    (fun h member => (parts h member).1) (fun h member => (parts h member).2.1)

/-- A selection of the fields of a schema the program builds, in order, is one too. -/
theorem WellBuilt.filter {s : Schema} (built : (FieldType.object s).WellBuilt)
    (title : Option String) (kept : Field → Bool) :
    (FieldType.object ⟨title, s.fields.filter kept⟩).WellBuilt := by
  have accepted := (Schema.accepted_iff s).mp built.1.schema
  have inFields : ∀ f ∈ s.fields.filter kept, f ∈ s.fields := fun f member => List.mem_of_mem_filter member
  exact WellBuilt.object
    ((Schema.accepted_iff _).mpr ⟨(List.filter_sublist.map Field.name).nodup accepted.1,
      fun f member => accepted.2 f (inFields f member)⟩)
    (fun f member => built.field (inFields f member))
    (fun f member _ given => built.2.default (inFields f member) given)

end FieldType

namespace Record

theorem update_eq_ok {r r' : Record} {name : String} {value : Json}
    (updated : r.update name value = .ok r') :
    ∃ f, r.schema.field? name = some f ∧ (validateType f.type value name).2 = [] ∧
      r' = ⟨r.schema, Json.setMember r.data name (validateType f.type value name).1⟩ := by
  unfold update at updated
  cases found : r.schema.field? name with
  | none => simp [found] at updated
  | some f =>
    simp only [found] at updated
    cases checked : validateType f.type value name with
    | mk normalized violations =>
      cases violations with
      | nil =>
        simp only [checked, Except.ok.injEq] at updated
        exact ⟨f, rfl, by rw [checked], by rw [checked]; exact updated.symm⟩
      | cons v rest => simp [checked] at updated

theorem concat_eq_ok {a b r : Record} (concatenated : a.concat b = .ok r) :
    ∃ s, a.schema.compose b.schema = .ok s ∧
      construct s (.object (Json.setMembers a.data b.data)) = .ok r := by
  unfold concat at concatenated
  cases composed : a.schema.compose b.schema with
  | error e => simp [composed] at concatenated
  | ok s =>
    simp only [composed] at concatenated
    cases constructed : construct s (.object (Json.setMembers a.data b.data)) with
    | error e => simp [constructed] at concatenated
    | ok r' =>
      simp only [constructed, Except.ok.injEq] at concatenated
      exact ⟨s, rfl, by rw [constructed, concatenated]⟩

theorem project_eq_ok {r r' : Record} {names : List String} (projected : r.project names = .ok r') :
    ∃ s, r.schema.mask names = .ok s ∧ r' = r.restrict s := by
  unfold project at projected
  cases masked : r.schema.mask names with
  | error e => simp [masked] at projected
  | ok s =>
    simp only [masked, Except.ok.injEq] at projected
    exact ⟨s, rfl, projected.symm⟩

theorem keep_eq_ok {r r' : Record} {names : List String} (selected : r.keep names = .ok r') :
    ∃ s, r.schema.keep names = .ok s ∧ r' = r.restrict s := by
  unfold keep at selected
  cases chosen : r.schema.keep names with
  | error e => simp [chosen] at selected
  | ok s =>
    simp only [chosen, Except.ok.injEq] at selected
    exact ⟨s, rfl, selected.symm⟩

theorem ofPortable_eq_ok {p : Json} {r : Record} (read : ofPortable p = .ok r) :
    ∃ doc data s, p.get? "schema" = some doc ∧ Schema.ofJsonSchema doc = .ok s ∧
      construct s data = .ok r := by
  unfold ofPortable at read
  cases docFound : p.get? "schema" with
  | none => simp [docFound] at read
  | some doc =>
    cases dataFound : p.get? "data" with
    | none => simp [docFound, dataFound] at read
    | some data =>
      cases schemaRead : Schema.ofJsonSchema doc with
      | error e => simp [docFound, dataFound, schemaRead] at read
      | ok s =>
        cases constructed : construct s data with
        | error e => simp [docFound, dataFound, schemaRead, constructed] at read
        | ok r' =>
          simp only [docFound, dataFound, schemaRead, constructed, Except.ok.injEq] at read
          exact ⟨doc, data, s, rfl, schemaRead, read ▸ constructed⟩

/-! ### The invariant and the operations that keep it -/

/-- A record whose schema is one the program builds, with well-formed literals, and whose data
passes that schema again with every required field present. -/
structure Valid (r : Record) : Prop where
  built : (FieldType.object r.schema).WellBuilt
  passes : (validateObject r.schema r.data "").2 = []
  present : ∀ f ∈ r.schema.fields, f.required = true → (Json.lookup r.data f.name).isSome = true

/-- A record constructed against a schema the program builds is valid: the normal form of data
that passes passes again. -/
theorem Valid.construct {s : Schema} {d : Json} {r : Record} (built : (FieldType.object s).WellBuilt)
    (constructed : construct s d = .ok r) : r.Valid := by
  obtain ⟨members, rfl, passes, rfl⟩ := construct_eq_ok_iff.mp constructed
  have accepted := built.1.schema
  exact ⟨built,
    validateObject_revalidates accepted
      (FieldType.fieldsRevalidate s.fields fun _ member => built.1.field member) passes,
    fun _ member required => validateObject_required ((Schema.accepted_iff s).mp accepted).1
      passes member required⟩

/-- Updating a field of a valid record keeps it valid: the new value is a normal form, which
passes again, and every other field reads what it did. -/
theorem Valid.update {r r' : Record} {name : String} {value : Json} (valid : r.Valid)
    (updated : r.update name value = .ok r') : r'.Valid := by
  obtain ⟨f, found, passed, rfl⟩ := update_eq_ok updated
  have distinct := ((Schema.accepted_iff r.schema).mp valid.built.1.schema).1
  obtain ⟨member, named⟩ := Schema.mem_of_field? found
  obtain ⟨fieldsPass, declared⟩ := (validateObject_snd_eq_nil _ _ _).mp valid.passes
  have only : ∀ g ∈ r.schema.fields, g.name = name → g = f := by
    intro g inFields same
    have foundG := Schema.field?_of_mem distinct inFields
    rw [same, found] at foundG
    exact (Option.some.inj foundG).symm
  refine ⟨valid.built, (validateObject_snd_eq_nil _ _ _).mpr ⟨fun g inFields => ?_, fun m inData => ?_⟩,
    fun g inFields required => ?_⟩
  · by_cases same : g.name = name
    · have isF := only g inFields same
      subst isF
      have entry : Json.lookup (Json.setMember r.data name (validateType g.type value name).1) g.name =
          some (validateType g.type value name).1 := by
        rw [Json.lookup_setMember, if_pos same]
      rw [Field.passes_of_lookup entry, joinPath_top, same]
      exact FieldType.revalidates g.type (valid.built.1.field member) value name passed
    · exact (Field.passes_congr (by rw [Json.lookup_setMember, if_neg same]) "").mpr
        (fieldsPass g inFields)
  · rcases Json.mem_setMember inData with isName | inOld
    · exact List.any_eq_true.mpr ⟨f, member, by simp [named, isName]⟩
    · exact declared m inOld
  · by_cases same : g.name = name
    · simp [Json.lookup_setMember, same]
    · rw [Json.lookup_setMember, if_neg same]
      exact valid.present g inFields required

/-- Restricting a valid record to a selection of its fields keeps it valid: each kept field
reads what it did, and only kept keys remain. -/
theorem Valid.restrict {r : Record} (valid : r.Valid) (title : Option String) (kept : Field → Bool) :
    (r.restrict ⟨title, r.schema.fields.filter kept⟩).Valid := by
  obtain ⟨fieldsPass, _⟩ := (validateObject_snd_eq_nil _ _ _).mp valid.passes
  have sameEntry : ∀ g ∈ r.schema.fields.filter kept,
      Json.lookup (r.data.filter fun m => Schema.hasField ⟨title, r.schema.fields.filter kept⟩ m.1)
        g.name = Json.lookup r.data g.name := fun g member =>
    Json.lookup_filter (List.any_eq_true.mpr ⟨g, member, by simp⟩)
  refine ⟨FieldType.WellBuilt.filter valid.built title kept,
    (validateObject_snd_eq_nil _ _ _).mpr ⟨fun g member => ?_, fun m inData => ?_⟩,
    fun g member required => ?_⟩
  · exact (Field.passes_congr (sameEntry g member) "").mpr
      (fieldsPass g (List.mem_of_mem_filter member))
  · exact (List.mem_filter.mp inData).2
  · rw [Record.restrict, sameEntry g member]
    exact valid.present g (List.mem_of_mem_filter member) required

/-- Projecting a valid record keeps it valid: the schema keeps a selection of its fields. -/
theorem Valid.project {r r' : Record} {names : List String} (valid : r.Valid)
    (projected : r.project names = .ok r') : r'.Valid := by
  obtain ⟨s, masked, rfl⟩ := project_eq_ok projected
  obtain ⟨kept, rfl⟩ := Schema.mask_eq_ok masked
  exact valid.restrict _ kept

/-- Keeping fields of a valid record keeps it valid, as projecting does. -/
theorem Valid.keep {r r' : Record} {names : List String} (valid : r.Valid)
    (selected : r.keep names = .ok r') : r'.Valid := by
  obtain ⟨s, chosen, rfl⟩ := keep_eq_ok selected
  obtain ⟨kept, rfl⟩ := Schema.keep_eq_ok chosen
  exact valid.restrict _ kept

/-- Concatenating two valid records gives a valid record: it is constructed against the
composition of their schemas, which the program builds. -/
theorem Valid.concat {a b r : Record} (left : a.Valid) (right : b.Valid)
    (concatenated : a.concat b = .ok r) : r.Valid := by
  obtain ⟨s, composed, constructed⟩ := concat_eq_ok concatenated
  exact Valid.construct (left.built.compose right.built composed) constructed

/-- A record read from a well-formed portable form is valid: its schema is read by the
JSON-Schema reader, which builds what it reads. -/
theorem Valid.ofPortable {p : Json} {r : Record} (wf : p.WellFormed) (read : ofPortable p = .ok r) :
    r.Valid := by
  obtain ⟨doc, data, s, docFound, schemaRead, constructed⟩ := ofPortable_eq_ok read
  exact Valid.construct (Schema.ofJsonSchema_wellBuilt schemaRead (wf.get? docFound)) constructed

/-! ### Every record made is valid -/

/-- The records the operations make, from schemas the program builds with well-formed literals
and from well-formed portable forms. -/
inductive Made : Record → Prop
  | construct {s : Schema} {d : Json} {r : Record} : (FieldType.object s).Built →
      (FieldType.object s).LiteralsWellFormed → Record.construct s d = .ok r → Made r
  | update {r r' : Record} {name : String} {value : Json} : Made r →
      r.update name value = .ok r' → Made r'
  | concat {a b r : Record} : Made a → Made b → a.concat b = .ok r → Made r
  | project {r r' : Record} {names : List String} : Made r → r.project names = .ok r' → Made r'
  | keep {r r' : Record} {names : List String} : Made r → r.keep names = .ok r' → Made r'
  | ofPortable {p : Json} {r : Record} : p.WellFormed → Record.ofPortable p = .ok r → Made r

/-- Every record made is valid.  The induction is on how it was made, one operation at a
time. -/
theorem Made.valid {r : Record} (made : r.Made) : r.Valid := by
  induction made with
  | construct built literals constructed => exact Valid.construct ⟨built, literals⟩ constructed
  | update _ updated valid => exact valid.update updated
  | concat _ _ concatenated left right => exact left.concat right concatenated
  | project _ projected valid => exact valid.project projected
  | keep _ selected valid => exact valid.keep selected
  | ofPortable wf read => exact Valid.ofPortable wf read

/-- Every record made by construction, update, concatenation, projection, keeping or reading a
portable form, from schemas the program builds, has data that passes its schema again with no
violation: every required field is present, every key is a declared field, and every value
passes its field's type. -/
theorem made_revalidates {r : Record} (made : r.Made) :
    (validateObject r.schema r.data "").2 = [] ∧
      (∀ f ∈ r.schema.fields, f.required = true → (Json.lookup r.data f.name).isSome = true) ∧
      (∀ m ∈ r.data, r.schema.hasField m.1 = true) ∧
      ∀ f ∈ r.schema.fields, ∀ v, Json.lookup r.data f.name = some v →
        (validateType f.type v f.name).2 = [] := by
  have valid := made.valid
  obtain ⟨fieldsPass, declared⟩ := (validateObject_snd_eq_nil _ _ _).mp valid.passes
  refine ⟨valid.passes, valid.present, declared, fun f member v given => ?_⟩
  have passed := (Field.passes_of_lookup given).mp (fieldsPass f member)
  rwa [joinPath_top] at passed

/-- A record constructed with a default filled in, updated with a float that is normalized to
an integer, then narrowed to that one field. -/
theorem made_revalidates_narrowed :
    Made ⟨⟨none, [(Field.ofOptional "x" .integer).withDefault (.number (.float 3.0))]⟩,
      [("x", .number (.int 7))]⟩ ∧
    (validateObject ⟨none, [(Field.ofOptional "x" .integer).withDefault (.number (.float 3.0))]⟩
      [("x", .number (.int 7))] "").2 = [] ∧
    (∀ f ∈ [(Field.ofOptional "x" .integer).withDefault (.number (.float 3.0))],
      f.required = true → (Json.lookup [("x", .number (.int 7))] f.name).isSome = true) ∧
    (∀ m ∈ [("x", Json.number (.int 7))], Schema.hasField
      ⟨none, [(Field.ofOptional "x" .integer).withDefault (.number (.float 3.0))]⟩ m.1 = true) ∧
    ∀ f ∈ [(Field.ofOptional "x" .integer).withDefault (.number (.float 3.0))], ∀ v,
      Json.lookup [("x", .number (.int 7))] f.name = some v →
        (validateType f.type v f.name).2 = [] := by
  have finite : (3.0 : Float).isFinite = true := by decide
  have accepted : Schema.Accepted ⟨none, [(Field.ofOptional "x" .integer).withDefault
      (.number (.float 3.0)), Field.ofRequired "tags" (.list .string)]⟩ := rfl
  have built : (FieldType.object ⟨none, [(Field.ofOptional "x" .integer).withDefault
      (.number (.float 3.0)), Field.ofRequired "tags" (.list .string)]⟩).Built := by
    simp [FieldType.Built, FieldType.schemas, Schema.schemas, Schema.fieldSchemas,
      Field.withDefault, Field.ofOptional, Field.ofRequired]
    exact accepted
  have literals : (FieldType.object ⟨none, [(Field.ofOptional "x" .integer).withDefault
      (.number (.float 3.0)), Field.ofRequired "tags" (.list .string)]⟩).LiteralsWellFormed :=
    ⟨by simp [FieldType.enums, Schema.enums, Schema.fieldEnums, Field.ofOptional,
        Field.ofRequired, Field.withDefault],
      by simp [FieldType.schemas, Schema.schemas, Schema.fieldSchemas, Field.ofOptional,
        Field.ofRequired, Field.withDefault, finite, Json.WellFormed, JsonNumber.WellFormed]⟩
  have made : Made ⟨⟨none, [(Field.ofOptional "x" .integer).withDefault (.number (.float 3.0))]⟩,
      [("x", .number (.int 7))]⟩ :=
    @Made.keep _ _ ["x"] (@Made.update _ _ "x" (.number (.float 7.0))
      (.construct (d := .object [("tags", .array [.string "a"])]) built literals rfl) rfl) rfl
  exact ⟨made, made_revalidates made⟩

end Record

end PromptTrainer
