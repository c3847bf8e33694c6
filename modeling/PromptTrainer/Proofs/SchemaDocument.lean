import PromptTrainer.Proofs.Nested
import PromptTrainer.Schema.JsonSchema
/-!
# Reading a schema's JSON-Schema document gives the schema back

A type's document is an object (`FieldType.toJsonSchema_eq`); a property's document is its
type's document followed by the field's annotations, description then default
(`FieldType.toJsonSchema.properties_eq`).  The reader looks at the keys `enum`, `anyOf`, `type`,
`items`, `properties`, `additionalProperties`, `required` and `title`, which the annotations
never use, so it reads every document the writer produces, with fuel at least the depth of the
document (`JsonSchema.readType_document`).

Main statement: `Schema.ofJsonSchema_toJsonSchema`, for every schema whose nested schemas are all
ones `Schema.build` returns, at any nesting, with titles, required flags, defaults (a null one
included) and descriptions.
-/

namespace PromptTrainer

namespace Json

@[simp] theorem depth_object (members : List (String × Json)) :
    (Json.object members).depth = 1 + depthMembers members := rfl

@[simp] theorem depth_array (items : List Json) : (Json.array items).depth = 1 + depthItems items :=
  rfl

@[simp] theorem string_beq_string (a b : String) : (Json.string a == Json.string b) = (a == b) := rfl

theorem depth_le_depthMembers {members : List (String × Json)} (key : String) {value : Json}
    (member : (key, value) ∈ members) : value.depth ≤ depthMembers members := by
  induction members with
  | nil => simp at member
  | cons head rest ih =>
    obtain ⟨k, v⟩ := head
    rcases List.mem_cons.mp member with same | later
    · cases same
      simp [depthMembers]
    · simp only [depthMembers]
      exact Nat.le_trans (ih later) (Nat.le_max_right _ _)

theorem depth_le_depthItems {items : List Json} {item : Json} (member : item ∈ items) :
    item.depth ≤ depthItems items := by
  induction items with
  | nil => simp at member
  | cons head rest ih =>
    rcases List.mem_cons.mp member with rfl | later
    · simp [depthItems]
    · simp only [depthItems]
      exact Nat.le_trans (ih later) (Nat.le_max_right _ _)

/-- Setting a key an object lacks appends it. -/
theorem setMember_of_absent {members : List (String × Json)} {key : String}
    (absent : ∀ member ∈ members, member.1 ≠ key) (value : Json) :
    setMember members key value = members ++ [(key, value)] := by
  rw [setMember, if_neg]
  simp only [List.any_eq_true, beq_iff_eq, not_exists, not_and]
  exact absent

theorem lookup_eq_none {members : List (String × Json)} {key : String}
    (absent : ∀ member ∈ members, member.1 ≠ key) : lookup members key = none := by
  simp only [lookup, Option.map_eq_none_iff, List.find?_eq_none, beq_iff_eq]
  exact absent

/-- A value inside a member object is shallower than the members holding it. -/
theorem depthMembers_lt_of_mem {outer members : List (String × Json)} (key : String)
    (member : (key, Json.object members) ∈ outer) : depthMembers members < depthMembers outer := by
  have := depth_le_depthMembers key member
  simp only [depth_object] at this
  omega

theorem lookup_append (xs ys : List (String × Json)) (key : String) :
    lookup (xs ++ ys) key = (lookup xs key).or (lookup ys key) := by
  simp only [lookup, List.find?_append]
  cases xs.find? (fun member => member.1 == key) <;> simp

end Json

/-- Members that only annotate a document: a description or a default. -/
def Annotating (extra : List (String × Json)) : Prop :=
  ∀ member ∈ extra, member.1 = "description" ∨ member.1 = "default"

/-- Annotations hide no key the reader looks at. -/
theorem Annotating.find?_eq_none {extra : List (String × Json)} (annotating : Annotating extra)
    {key : String} (notDescription : key ≠ "description") (notDefault : key ≠ "default") :
    extra.find? (fun member => member.1 == key) = none := by
  simp only [List.find?_eq_none, beq_iff_eq]
  intro member inExtra same
  rcases annotating member inExtra with named | named <;> simp_all

theorem annotating_nil : Annotating [] := by simp [Annotating]

namespace Field

/-- What a property's document adds to its type's: the description, then the default. -/
def annotations (f : Field) : List (String × Json) :=
  (f.description.map fun d => ("description", Json.string d)).toList ++
    (f.default.map fun d => ("default", d)).toList

theorem annotating (f : Field) : Annotating f.annotations := by
  obtain ⟨name, type, required, default, description⟩ := f
  cases description <;> cases default <;> simp [Annotating, annotations]

end Field

namespace FieldType

/-- The members of a type's document. -/
def documentMembers (t : FieldType) : List (String × Json) :=
  match t.toJsonSchema with
  | .object members => members
  | _ => []

theorem toJsonSchema_eq (t : FieldType) : t.toJsonSchema = .object t.documentMembers := by
  cases t with
  | object s => obtain ⟨title, fields⟩ := s; rfl
  | _ => rfl

@[simp] theorem documentMembers_list (t : FieldType) :
    (list t).documentMembers = [("type", .string "array"), ("items", .object t.documentMembers)] := by
  rw [← toJsonSchema_eq]; rfl

@[simp] theorem documentMembers_map (t : FieldType) :
    (map t).documentMembers =
      [("type", .string "object"), ("additionalProperties", .object t.documentMembers)] := by
  rw [← toJsonSchema_eq]; rfl

@[simp] theorem documentMembers_optional (t : FieldType) :
    (optional t).documentMembers =
      [("anyOf", .array [.object t.documentMembers, .object [("type", .string "null")]])] := by
  rw [← toJsonSchema_eq]; rfl

@[simp] theorem documentMembers_any : any.documentMembers = [] := rfl

@[simp] theorem documentMembers_object (title : Option String) (fields : List Field) :
    (object ⟨title, fields⟩).documentMembers =
      (title.map fun t => ("title", Json.string t)).toList ++
        [("type", .string "object"), ("properties", .object (toJsonSchema.properties fields)),
          ("required", .array ((fields.filter Field.required).map fun f => .string f.name)),
          ("additionalProperties", .bool false)] := by
  cases title <;> rfl

/-- No type's document is the null type's. -/
theorem isNullType_document (t : FieldType) :
    JsonSchema.isNullType (.object t.documentMembers) = false := by
  cases t with
  | object s =>
    obtain ⟨title, fields⟩ := s
    cases title <;> simp [JsonSchema.isNullType, Json.get?, Json.lookup]
  | _ => simp [JsonSchema.isNullType, Json.get?, Json.lookup, documentMembers, toJsonSchema]

/-- Only `any` has the empty document. -/
theorem eq_any_of_documentMembers {t : FieldType} (empty : t.documentMembers = []) : t = .any := by
  cases t with
  | object s =>
    obtain ⟨title, fields⟩ := s
    cases title <;> simp [documentMembers, toJsonSchema, toJsonSchema.schemaDocument] at empty
  | any => rfl
  | _ => simp [documentMembers, toJsonSchema] at empty

/-- A type's document has no annotation of its own. -/
theorem documentMembers_unannotated (t : FieldType) :
    ∀ member ∈ t.documentMembers, member.1 ≠ "description" ∧ member.1 ≠ "default" := by
  cases t with
  | object s =>
    obtain ⟨title, fields⟩ := s
    cases title <;> simp [documentMembers, toJsonSchema, toJsonSchema.schemaDocument]
  | _ => simp [documentMembers, toJsonSchema]

/-- A property's document is its type's document with the field's annotations after it. -/
theorem toJsonSchema.properties_eq (fields : List Field) :
    toJsonSchema.properties fields =
      fields.map fun f => (f.name, .object (f.type.documentMembers ++ f.annotations)) := by
  induction fields with
  | nil => rfl
  | cons f rest ih =>
    obtain ⟨name, type, required, default, description⟩ := f
    have fresh := documentMembers_unannotated type
    have noDescription : ∀ m ∈ type.documentMembers, m.1 ≠ "description" :=
      fun m inMembers => (fresh m inMembers).1
    have noDefault : ∀ m ∈ type.documentMembers, m.1 ≠ "default" :=
      fun m inMembers => (fresh m inMembers).2
    have noDefaultAfter (d : String) :
        ∀ m ∈ type.documentMembers ++ [("description", Json.string d)], m.1 ≠ "default" := by
      intro m inMembers
      rcases List.mem_append.mp inMembers with old | new
      · exact noDefault m old
      · simp only [List.mem_singleton] at new
        simp [new]
    cases description <;> cases default <;>
      simp [properties, toJsonSchema_eq, Json.setMember_of_absent noDescription,
        Json.setMember_of_absent noDefault, Json.setMember_of_absent (noDefaultAfter _),
        Field.annotations, ih]

end FieldType

namespace Field

theorem lookup_description (f : Field) :
    Json.lookup (f.type.documentMembers ++ f.annotations) "description" =
      f.description.map Json.string := by
  rw [Json.lookup_append,
    Json.lookup_eq_none fun m inMembers => (f.type.documentMembers_unannotated m inMembers).1]
  obtain ⟨name, type, required, default, description⟩ := f
  cases description <;> cases default <;> simp [annotations, Json.lookup]

theorem lookup_default (f : Field) :
    Json.lookup (f.type.documentMembers ++ f.annotations) "default" = f.default := by
  rw [Json.lookup_append,
    Json.lookup_eq_none fun m inMembers => (f.type.documentMembers_unannotated m inMembers).2]
  obtain ⟨name, type, required, default, description⟩ := f
  cases description <;> cases default <;> simp [annotations, Json.lookup]

end Field

namespace Schema

/-- With distinct names, the names of the required fields give each field its own flag back. -/
theorem requiredFlags_eq {fields : List Field} (distinct : (fields.map Field.name).Nodup) :
    fields.map (fun f =>
      { f with required := ((fields.filter Field.required).map Field.name).contains f.name }) =
      fields := by
  have flag : ∀ f ∈ fields,
      ((fields.filter Field.required).map Field.name).contains f.name = f.required := by
    intro f member
    apply Bool.eq_iff_iff.mpr
    simp only [List.contains_iff_mem, List.mem_map, List.mem_filter]
    constructor
    · rintro ⟨g, ⟨inFields, isRequired⟩, named⟩
      rwa [← List.inj_on_of_nodup_map distinct inFields member named]
    · exact fun isRequired => ⟨f, ⟨member, isRequired⟩, rfl⟩
  calc fields.map _ = fields.map id := List.map_congr_left fun f member => by rw [flag f member]; cases f; rfl
    _ = fields := List.map_id fields

end Schema

namespace JsonSchema

/-- A type document without `enum` or `anyOf` is read by its type name. -/
theorem readType_of_named {fuel : Nat} {members : List (String × Json)} {name path : String}
    (noEnum : Json.lookup members "enum" = none) (noAnyOf : Json.lookup members "anyOf" = none)
    (named : Json.lookup members "type" = some (.string name)) :
    readType (fuel + 1) (.object members) path = readNamed fuel name members (.object members) path := by
  simp [readType, noEnum, noAnyOf, named]

/-- An object type with properties is read as a schema. -/
theorem readNamed_object {fuel : Nat} {members : List (String × Json)} {value : Json}
    {path : String} (described : (Json.lookup members "properties").isSome = true) :
    readNamed fuel "object" members value path = (readSchema fuel value path).map .object := by
  simp [readNamed, described]

open FieldType in
mutual
/-- Every type's document, with annotations after it, reads back as the type, given fuel
beyond the depth of its members.  The recursion is on the type. -/
theorem readType_document : ∀ (t : FieldType), t.Built → ∀ {fuel : Nat}
    {extra : List (String × Json)}, Annotating extra →
      Json.depthMembers (t.documentMembers ++ extra) < fuel → ∀ (path : String),
        readType fuel (.object (t.documentMembers ++ extra)) path = .ok t
  | .string, _, fuel + 1, _, annotating, _, path
  | .integer, _, fuel + 1, _, annotating, _, path
  | .number, _, fuel + 1, _, annotating, _, path
  | .boolean, _, fuel + 1, _, annotating, _, path
  | .any, _, fuel + 1, _, annotating, _, path
  | .enum _, _, fuel + 1, _, annotating, _, path => by
    simp [readType, readNamed, documentMembers, toJsonSchema, annotating.find?_eq_none, Json.lookup]
  | .list t, built, fuel + 1, extra, annotating, enough, path => by
    have shallower : Json.depthMembers t.documentMembers < Json.depthMembers
        ((list t).documentMembers ++ extra) := Json.depthMembers_lt_of_mem "items" (by simp)
    have bound : Json.depthMembers (t.documentMembers ++ []) < fuel := by
      rw [List.append_nil]; omega
    have inner := readType_document t built.of_list annotating_nil bound (path ++ "[]")
    rw [List.append_nil] at inner
    simp [readType, readNamed, annotating.find?_eq_none, Json.lookup, inner, Except.map]
  | .map t, built, fuel + 1, extra, annotating, enough, path => by
    cases members : t.documentMembers with
    | nil =>
      obtain rfl := eq_any_of_documentMembers members
      simp [readType, readNamed, annotating.find?_eq_none, Json.lookup]
    | cons m ms =>
      have shallower : Json.depthMembers t.documentMembers < Json.depthMembers
          ((map t).documentMembers ++ extra) :=
        Json.depthMembers_lt_of_mem "additionalProperties" (by simp)
      have bound : Json.depthMembers (t.documentMembers ++ []) < fuel := by
        rw [List.append_nil]; omega
      have inner := readType_document t built.of_map annotating_nil bound path
      rw [List.append_nil, members] at inner
      simp [readType, readNamed, annotating.find?_eq_none, Json.lookup, members, inner, Except.map]
  | .optional t, built, fuel + 1, extra, annotating, enough, path => by
    have variants : (Json.array [.object t.documentMembers, .object [("type", .string "null")]]).depth
        ≤ Json.depthMembers ((optional t).documentMembers ++ extra) :=
      Json.depth_le_depthMembers "anyOf" (by simp)
    have inArray : (Json.object t.documentMembers).depth ≤
        Json.depthItems [.object t.documentMembers, .object [("type", .string "null")]] :=
      Json.depth_le_depthItems List.mem_cons_self
    have bound : Json.depthMembers (t.documentMembers ++ []) < fuel := by
      simp only [Json.depth_array, Json.depth_object] at variants inArray
      rw [List.append_nil]; omega
    have inner := readType_document t built.of_optional annotating_nil bound path
    rw [List.append_nil] at inner
    have nullDocument : isNullType (.object [("type", .string "null")]) = true := rfl
    simp [readType, annotating.find?_eq_none, Json.lookup, isNullType_document, nullDocument, inner,
      Except.map]
  | .object s, built, fuel + 1, extra, annotating, enough, path => by
    have bound : Json.depthMembers ((object s).documentMembers ++ extra) ≤ fuel := by omega
    have inner := readSchema_document s built annotating bound path
    obtain ⟨title, fields⟩ := s
    have noEnum : Json.lookup ((object ⟨title, fields⟩).documentMembers ++ extra) "enum" = none := by
      cases title <;> simp [Json.lookup, annotating.find?_eq_none]
    have noAnyOf : Json.lookup ((object ⟨title, fields⟩).documentMembers ++ extra) "anyOf" = none := by
      cases title <;> simp [Json.lookup, annotating.find?_eq_none]
    have named : Json.lookup ((object ⟨title, fields⟩).documentMembers ++ extra) "type" =
        some (.string "object") := by
      cases title <;> simp [Json.lookup]
    have described :
        (Json.lookup ((object ⟨title, fields⟩).documentMembers ++ extra) "properties").isSome := by
      cases title <;> simp [Json.lookup]
    rw [readType_of_named noEnum noAnyOf named, readNamed_object described, inner]
    rfl
  | _, _, 0, _, _, enough, _ => absurd enough (Nat.not_lt_zero _)

/-- A schema's document, with annotations after it, reads back as the schema, given fuel as
deep as its members. -/
theorem readSchema_document : ∀ (s : Schema), (FieldType.object s).Built → ∀ {fuel : Nat}
    {extra : List (String × Json)}, Annotating extra →
      Json.depthMembers ((FieldType.object s).documentMembers ++ extra) ≤ fuel →
        ∀ (path : String),
          readSchema fuel (.object ((FieldType.object s).documentMembers ++ extra)) path = .ok s
  | ⟨title, fields⟩, built, fuel, extra, annotating, enough, path => by
    have accepted := built.schema
    have distinct := ((Schema.accepted_iff _).mp accepted).1
    have shallower : ∀ f ∈ fields, Json.depthMembers (f.type.documentMembers ++ f.annotations) + 1 <
        Json.depthMembers ((FieldType.object ⟨title, fields⟩).documentMembers ++ extra) := by
      intro f member
      have inProperties : Json.depthMembers (f.type.documentMembers ++ f.annotations) <
          Json.depthMembers (toJsonSchema.properties fields) :=
        Json.depthMembers_lt_of_mem f.name
          (by rw [toJsonSchema.properties_eq]; exact List.mem_map_of_mem member)
      have inSchema : Json.depthMembers (toJsonSchema.properties fields) <
          Json.depthMembers ((FieldType.object ⟨title, fields⟩).documentMembers ++ extra) :=
        Json.depthMembers_lt_of_mem "properties" (by simp)
      omega
    obtain ⟨fuel, rfl⟩ : ∃ smaller, fuel = smaller + 1 := by
      cases fields with
      | nil => exact ⟨fuel - 1, by cases title <;> simp [Json.depthMembers] at enough ⊢ <;> omega⟩
      | cons f _ => exact ⟨fuel - 1, by have := shallower f List.mem_cons_self; omega⟩
    have bound : ∀ f ∈ fields, Json.depthMembers (f.type.documentMembers ++ f.annotations) < fuel :=
      fun f member => by have := shallower f member; omega
    have read := readFields_properties fields (fun f member => built.field member) bound
      ((fields.filter Field.required).map Field.name) path
    rw [Schema.requiredFlags_eq distinct, ← toJsonSchema.properties_eq] at read
    have rebuilt : Schema.build fields = .ok ⟨none, fields⟩ := accepted
    cases title <;>
      simp [readSchema, Json.lookup, annotating.find?_eq_none, Function.comp_def, Json.getString?,
        read, rebuilt, Schema.withTitle]

/-- Property documents read back as their fields, each flagged required when the list of
required names holds its name. -/
theorem readFields_properties : ∀ (fields : List Field), (∀ f ∈ fields, f.type.Built) →
    ∀ {fuel : Nat}, (∀ f ∈ fields, Json.depthMembers (f.type.documentMembers ++ f.annotations) < fuel) →
      ∀ (required : List String) (path : String),
        readFields fuel (fields.map fun f => (f.name, .object (f.type.documentMembers ++ f.annotations)))
          required path = .ok (fields.map fun f => { f with required := required.contains f.name })
  | [], _, _, _, _, _ => by simp [readFields]
  | ⟨name, type, flag, default, description⟩ :: rest, built, fuel, enough, required, path => by
    have head := readType_document type (built _ List.mem_cons_self)
      (Field.annotating ⟨name, type, flag, default, description⟩) (enough _ List.mem_cons_self)
      (path ++ "." ++ name)
    have tail := readFields_properties rest (fun f member => built f (List.mem_cons_of_mem _ member))
      (fun f member => enough f (List.mem_cons_of_mem _ member)) required path
    have described := Field.lookup_description ⟨name, type, flag, default, description⟩
    have defaulted := Field.lookup_default ⟨name, type, flag, default, description⟩
    simp only [List.map_cons, readFields, head, Json.get?, described, defaulted, tail]
    cases description <;> cases default <;> rfl
end

end JsonSchema

namespace Schema

/-- A schema's document reads back as the schema, given fuel as deep as the document's
members. -/
theorem readSchema_toJsonSchema (s : Schema) (built : (FieldType.object s).Built) {fuel : Nat}
    (enough : s.toJsonSchema.depth ≤ fuel + 1) (path : String) :
    JsonSchema.readSchema fuel s.toJsonSchema path = .ok s := by
  have document : s.toJsonSchema = .object ((FieldType.object s).documentMembers ++ []) := by
    rw [List.append_nil, ← FieldType.toJsonSchema_eq]; rfl
  rw [document] at enough ⊢
  simp only [Json.depth_object] at enough
  exact JsonSchema.readSchema_document s built annotating_nil (by omega) path

/-- Every schema whose nested schemas are all ones `Schema.build` returns reads back from its
JSON-Schema document as itself: the same title, fields in the same order, with the same types,
required flags, defaults and descriptions at every level. -/
theorem ofJsonSchema_toJsonSchema (s : Schema) (built : (FieldType.object s).Built) :
    ofJsonSchema s.toJsonSchema = .ok s := by
  rw [ofJsonSchema]
  exact readSchema_toJsonSchema s built (by omega) "$"

/-- A titled schema holding an optional record whose one field has a null default reads back as
itself. -/
theorem ofJsonSchema_toJsonSchema_nested :
    (FieldType.object ⟨some "Answer", [Field.ofOptional "detail"
        (.object ⟨none, [(Field.ofOptional "note" .any).withDefault .null]⟩)]⟩).Built ∧
      ofJsonSchema (toJsonSchema ⟨some "Answer", [Field.ofOptional "detail"
        (.object ⟨none, [(Field.ofOptional "note" .any).withDefault .null]⟩)]⟩) =
        .ok ⟨some "Answer", [Field.ofOptional "detail"
          (.object ⟨none, [(Field.ofOptional "note" .any).withDefault .null]⟩)]⟩ := by
  have built : (FieldType.object ⟨some "Answer", [Field.ofOptional "detail"
      (.object ⟨none, [(Field.ofOptional "note" .any).withDefault .null]⟩)]⟩).Built := by
    intro held member
    simp only [FieldType.schemas, Schema.schemas, Schema.fieldSchemas, Field.ofOptional,
      Field.withDefault, List.append_nil, List.mem_cons, List.not_mem_nil, or_false] at member
    rcases member with rfl | rfl <;> rfl
  exact ⟨built, ofJsonSchema_toJsonSchema _ built⟩

end Schema

end PromptTrainer
