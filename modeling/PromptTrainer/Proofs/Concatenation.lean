import PromptTrainer.Proofs.SchemaOperations
/-!
# Concatenation fails only on conflicting schemas

`Record.concat a b` composes the two schemas, sets `b`'s members over `a`'s data, and validates
the union against the composition.  On the records the operations make, the validation never
fails: the only failure is the composition's conflict, and on success the data holds the keys of
both records, each value taken from `b` when `b` has the key and normalized under the composed
field type (`Record.concat_fails_only_on_conflicts`).

* A shared field keeps the left type, which is equal to the right one, and equal types accept
  the same values (`passesLike_of_beq`), so a value from `b` passes it.
* A field of the composition is required when either side requires it, and then that side's
  data has it.
* Validation inserts a default only for a field that neither side has, and there is none:
  every record made has its defaulted fields present (`Record.Complete`), and a default of the
  composition comes from a side that declares the field.

`Record.Complete` is the second invariant of the records made, beside `Record.Valid`: distinct
keys and every defaulted field present.  Construction leaves it and every operation keeps it.
-/

namespace PromptTrainer

/-! ### Setting members -/

namespace Json

/-- Setting a key keeps the keys distinct: it replaces the key's member or adds one last. -/
theorem setMember_keys_nodup {members : List (String × Json)}
    (distinct : (members.map Prod.fst).Nodup) (key : String) (value : Json) :
    ((setMember members key value).map Prod.fst).Nodup := by
  unfold setMember
  split
  · have sameKeys : (members.map fun m => if m.1 == key then (key, value) else m).map Prod.fst =
        members.map Prod.fst := by
      simp only [List.map_map]
      refine List.map_congr_left fun m _ => ?_
      by_cases named : m.1 = key <;> simp [named]
    rwa [sameKeys]
  · next absent =>
    rw [List.map_append, List.nodup_append]
    refine ⟨distinct, by simp, fun k old k' added same => absent ?_⟩
    simp only [List.map_cons, List.map_nil, List.mem_singleton] at added
    obtain ⟨m, member, rfl⟩ := List.mem_map.mp old
    exact List.any_eq_true.mpr ⟨m, member, by simp [same, added]⟩

/-- Setting the members of distinct updates: a key reads its update when there is one, and
its old value otherwise. -/
theorem lookup_setMembers (members : List (String × Json)) {updates : List (String × Json)}
    (distinct : (updates.map Prod.fst).Nodup) (key : String) :
    lookup (setMembers members updates) key = (lookup updates key).or (lookup members key) := by
  induction updates generalizing members with
  | nil => simp [setMembers, lookup]
  | cons update rest ih =>
    obtain ⟨k, v⟩ := update
    simp only [List.map_cons, List.nodup_cons] at distinct
    have later : setMembers members ((k, v) :: rest) = setMembers (setMember members k v) rest := rfl
    rw [later, ih _ distinct.2, lookup_setMember, lookup_cons]
    by_cases same : key = k
    · subst same
      have absent : lookup rest key = none :=
        lookup_eq_none fun m member named => distinct.1 (named ▸ List.mem_map_of_mem member)
      simp [absent]
    · simp [same, Ne.symm same]

/-- Every key of the members set is an old key or the key of an update. -/
theorem key_mem_setMembers {members updates : List (String × Json)} {m : String × Json}
    (member : m ∈ setMembers members updates) :
    m.1 ∈ members.map Prod.fst ∨ m.1 ∈ updates.map Prod.fst := by
  induction updates generalizing members with
  | nil => exact .inl (List.mem_map_of_mem member)
  | cons update rest ih =>
    have member' : m ∈ setMembers (setMember members update.1 update.2) rest := member
    rcases ih member' with old | later
    · obtain ⟨m', set, same⟩ := List.mem_map.mp old
      rcases mem_setMember set with named | inOld
      · exact .inr (by simp [← same, named])
      · exact .inl (same ▸ List.mem_map_of_mem inOld)
    · exact .inr (List.mem_cons_of_mem _ later)

end Json

/-! ### The data of the records made -/

/-- The keys of a record's normal form are the names of the fields it has entries for, in
order: a sublist of the schema's names. -/
theorem keys_filterMap_sublist (fields : List Field) (entry : Field → Option Json) :
    ((fields.filterMap fun g => (entry g).map (g.name, ·)).map Prod.fst).Sublist
      (fields.map Field.name) := by
  induction fields with
  | nil => simp
  | cons g rest ih =>
    cases given : entry g with
    | none => simpa [given] using ih.cons g.name
    | some w => simpa [given] using ih.cons_cons g.name

namespace Record

/-- A record whose data has distinct keys and holds every field that has a default. -/
structure Complete (r : Record) : Prop where
  keys : (r.data.map Prod.fst).Nodup
  defaulted : ∀ f ∈ r.schema.fields, f.default.isSome = true →
    (Json.lookup r.data f.name).isSome = true

/-- A record constructed against a schema with distinct names is complete: its keys are field
names, and a missing field with a default is filled with it. -/
theorem Complete.construct {s : Schema} {d : Json} {r : Record} (distinct : s.names.Nodup)
    (constructed : Record.construct s d = .ok r) : r.Complete := by
  obtain ⟨members, rfl, -, rfl⟩ := construct_eq_ok_iff.mp constructed
  refine ⟨?_, fun f member defaulted => ?_⟩
  · rw [validateObject_fst]
    exact (keys_filterMap_sublist s.fields _).nodup distinct
  · change (Json.lookup (validateObject s members "").1 f.name).isSome = true
    rw [validateObject_fst, lookup_entries distinct _ member, Field.entry]
    split
    · rfl
    · exact defaulted

/-- Updating a field of a complete record keeps it complete: the key is replaced or added. -/
theorem Complete.update {r r' : Record} {name : String} {value : Json} (complete : r.Complete)
    (updated : r.update name value = .ok r') : r'.Complete := by
  obtain ⟨f, -, -, rfl⟩ := update_eq_ok updated
  refine ⟨Json.setMember_keys_nodup complete.keys _ _, fun g member defaulted => ?_⟩
  change (Json.lookup (Json.setMember r.data name _) g.name).isSome = true
  rw [Json.lookup_setMember]
  split
  · rfl
  · exact complete.defaulted g member defaulted

/-- Restricting a complete record to a selection of its fields keeps it complete: each kept
field reads what it did. -/
theorem Complete.restrict {r : Record} (complete : r.Complete) (title : Option String)
    (kept : Field → Bool) : (r.restrict ⟨title, r.schema.fields.filter kept⟩).Complete := by
  refine ⟨(List.filter_sublist.map Prod.fst).nodup complete.keys, fun g member defaulted => ?_⟩
  change (Json.lookup (r.data.filter fun m => Schema.hasField ⟨title, r.schema.fields.filter kept⟩ m.1)
    g.name).isSome = true
  rw [Json.lookup_filter (List.any_eq_true.mpr ⟨g, member, by simp⟩)]
  exact complete.defaulted g (List.mem_of_mem_filter member) defaulted

theorem Complete.project {r r' : Record} {names : List String} (complete : r.Complete)
    (projected : r.project names = .ok r') : r'.Complete := by
  obtain ⟨s, masked, rfl⟩ := project_eq_ok projected
  obtain ⟨kept, rfl⟩ := Schema.mask_eq_ok masked
  exact complete.restrict _ kept

theorem Complete.keep {r r' : Record} {names : List String} (complete : r.Complete)
    (selected : r.keep names = .ok r') : r'.Complete := by
  obtain ⟨s, chosen, rfl⟩ := keep_eq_ok selected
  obtain ⟨kept, rfl⟩ := Schema.keep_eq_ok chosen
  exact complete.restrict _ kept

/-- A concatenation of valid records is complete: it is constructed against the composition,
whose names are distinct. -/
theorem Complete.concat {a b r : Record} (left : a.Valid) (right : b.Valid)
    (concatenated : a.concat b = .ok r) : r.Complete := by
  obtain ⟨s, composed, constructed⟩ := concat_eq_ok concatenated
  have accepted := (left.built.compose right.built composed).1.schema
  exact Complete.construct ((Schema.accepted_iff s).mp accepted).1 constructed

theorem Complete.ofPortable {p : Json} {r : Record} (wf : p.WellFormed)
    (read : ofPortable p = .ok r) : r.Complete := by
  obtain ⟨doc, data, s, docFound, schemaRead, constructed⟩ := ofPortable_eq_ok read
  have accepted := (Schema.ofJsonSchema_wellBuilt schemaRead (wf.get? docFound)).1.schema
  exact Complete.construct ((Schema.accepted_iff s).mp accepted).1 constructed

/-- Every record made is complete.  The induction is on how it was made. -/
theorem Made.complete {r : Record} (made : r.Made) : r.Complete := by
  induction made with
  | construct built _ constructed => exact Complete.construct built.distinctNames.schema constructed
  | update _ updated complete => exact complete.update updated
  | concat left right concatenated _ _ =>
    exact Complete.concat left.valid right.valid concatenated
  | project _ projected complete => exact complete.project projected
  | keep _ selected complete => exact complete.keep selected
  | ofPortable wf read => exact Complete.ofPortable wf read

/-! ### The data of a concatenation -/

/-- A key of a valid record's data is a declared field. -/
theorem Valid.key_declared {r : Record} (valid : r.Valid) {m : String × Json}
    (member : m ∈ r.data) : r.schema.hasField m.1 = true :=
  ((validateObject_snd_eq_nil _ _ _).mp valid.passes).2 m member

theorem Valid.declared {r : Record} (valid : r.Valid) {k : String} {v : Json}
    (found : Json.lookup r.data k = some v) : r.schema.hasField k = true :=
  valid.key_declared (Json.mem_of_lookup found)

theorem Valid.lookup_eq_none {r : Record} (valid : r.Valid) {k : String}
    (undeclared : r.schema.hasField k = false) : Json.lookup r.data k = none := by
  cases found : Json.lookup r.data k with
  | none => rfl
  | some v =>
    rw [valid.declared found] at undeclared
    cases undeclared

theorem Valid.field_passes {r : Record} (valid : r.Valid) {f : Field}
    (member : f ∈ r.schema.fields) : f.Passes r.data "" :=
  ((validateObject_snd_eq_nil _ _ _).mp valid.passes).1 f member

section Merged

variable {a b : Record}

/-- The union of the data of two records, `b`'s members set over `a`'s. -/
def merged (a b : Record) : List (String × Json) := Json.setMembers a.data b.data

theorem lookup_merged (right : b.Complete) (k : String) :
    Json.lookup (merged a b) k = (Json.lookup b.data k).or (Json.lookup a.data k) :=
  Json.lookup_setMembers a.data right.keys k

/-- A field of the composition is a left-hand field alone, a left-hand field absorbing its
right-hand partner, or a right-hand field the left does not declare. -/
theorem mem_meet_cases {h : Field} (member : h ∈ (a.schema.meet b.schema).fields) :
    (∃ f ∈ a.schema.fields, b.schema.hasField f.name = false ∧ h = f) ∨
      (∃ f ∈ a.schema.fields, ∃ g ∈ b.schema.fields, g.name = f.name ∧ h = f.absorb g) ∨
      (h ∈ b.schema.fields ∧ a.schema.hasField h.name = false) := by
  rcases Schema.mem_meetFields member with ⟨f, inLeft, rfl⟩ | right
  · cases partner : b.schema.fields.find? (fun g => g.name == f.name) with
    | none =>
      have alone : b.schema.hasField f.name = false := by
        simpa [Schema.hasField, List.find?_eq_none] using partner
      exact .inl ⟨f, inLeft, alone, Schema.meetField_of_alone partner⟩
    | some g =>
      have named : g.name = f.name := by simpa using List.find?_some partner
      exact .inr (.inl ⟨f, inLeft, g, List.mem_of_find?_eq_some partner, named,
        Schema.meetField_of_partner partner⟩)
  · exact .inr (.inr right)

/-- Every field of the composition passes in the union of the data of two valid records whose
schemas do not clash. -/
theorem passes_merged (left : a.Valid) (right : b.Valid) (rightComplete : b.Complete)
    (agrees : ∀ g ∈ b.schema.fields, a.schema.clash? g = none) {h : Field}
    (member : h ∈ (a.schema.meet b.schema).fields) : h.Passes (merged a b) "" := by
  have distinctA := left.built.1.distinctNames
  have distinctB := right.built.1.distinctNames
  rcases mem_meet_cases member with ⟨f, inLeft, alone, rfl⟩ |
    ⟨f, inLeft, g, inRight, named, rfl⟩ | ⟨inRight, undeclared⟩
  · -- a left-hand field alone reads `a`'s entry
    refine (Field.passes_congr ?_ "").mpr (left.field_passes inLeft)
    rw [lookup_merged rightComplete, right.lookup_eq_none alone, Option.none_or]
  · -- a shared field: `b`'s value passes the right type, hence the equal left one
    have declared : a.schema.field? g.name = some f :=
      named ▸ Schema.field?_of_mem distinctA.schema inLeft
    have like : FieldType.PassesLike g.type f.type := FieldType.passesLike_of_beq _ _
      (distinctB.field inRight) (distinctA.field inLeft) (right.built.2.field inRight)
      (left.built.2.field inLeft)
      (FieldType.beq_symm _ _ (distinctA.field inLeft) (distinctB.field inRight)
        (left.built.2.field inLeft) (right.built.2.field inRight)
        (Schema.beq_of_clash? declared (agrees g inRight)))
    have fromLeft := left.field_passes inLeft
    have fromRight := right.field_passes inRight
    cases fromB : Json.lookup b.data g.name with
    | some v =>
      have found : Json.lookup (merged a b) (f.absorb g).name = some v := by
        rw [lookup_merged rightComplete, Field.absorb_name, ← named, fromB, Option.some_or]
      rw [Field.passes_of_lookup found, Field.absorb_type, Field.absorb_name, ← named]
      exact like _ _ ((Field.passes_of_lookup fromB).mp fromRight)
    | none =>
      have same : Json.lookup (merged a b) (f.absorb g).name = Json.lookup a.data f.name := by
        rw [lookup_merged rightComplete, Field.absorb_name, ← named, fromB, Option.none_or, named]
      cases fromA : Json.lookup a.data f.name with
      | some v =>
        rw [Field.passes_of_lookup (same.trans fromA), Field.absorb_type, Field.absorb_name]
        exact (Field.passes_of_lookup fromA).mp fromLeft
      | none =>
        -- missing on both sides: neither side defaults or requires it
        rw [Field.passes_of_lookup_none (same.trans fromA)]
        intro noDefault
        simp only [Field.absorb, Option.or_eq_none_iff] at noDefault
        have leftOptional := (Field.passes_of_lookup_none fromA).mp fromLeft noDefault.1
        have rightOptional := (Field.passes_of_lookup_none fromB).mp fromRight noDefault.2
        simp [Field.absorb, leftOptional, rightOptional]
  · -- a right-hand field of a new name reads `b`'s entry
    refine (Field.passes_congr ?_ "").mpr (right.field_passes inRight)
    rw [lookup_merged rightComplete, left.lookup_eq_none undeclared, Option.or_none]

/-- The union of the data of two valid records passes the composition of their schemas when
these do not clash: each field passes, and each key is declared on one side. -/
theorem merged_passes (left : a.Valid) (right : b.Valid) (rightComplete : b.Complete)
    (agrees : ∀ g ∈ b.schema.fields, a.schema.clash? g = none) :
    (validateObject (a.schema.meet b.schema) (merged a b) "").2 = [] := by
  refine (validateObject_snd_eq_nil _ _ _).mpr
    ⟨fun h member => passes_merged left right rightComplete agrees member, fun m inData => ?_⟩
  rw [Schema.hasField_meet]
  rcases Json.key_mem_setMembers inData with fromA | fromB
  · obtain ⟨m', member, same⟩ := List.mem_map.mp fromA
    rw [← same, left.key_declared member, Bool.true_or]
  · obtain ⟨m', member, same⟩ := List.mem_map.mp fromB
    rw [← same, right.key_declared member, Bool.or_true]

/-- A defaulted field of the composition is present in the union of the data of two complete
records: its default comes from a side that declares the field, and that side has it. -/
theorem defaulted_merged (leftComplete : a.Complete) (rightComplete : b.Complete) {h : Field}
    (member : h ∈ (a.schema.meet b.schema).fields) (defaulted : h.default.isSome = true) :
    (Json.lookup (merged a b) h.name).isSome = true := by
  rw [lookup_merged rightComplete, Option.isSome_or]
  rcases mem_meet_cases member with ⟨f, inLeft, -, rfl⟩ |
    ⟨f, inLeft, g, inRight, named, rfl⟩ | ⟨inRight, -⟩
  · simp [leftComplete.defaulted h inLeft defaulted]
  · simp only [Field.absorb, Option.isSome_or, Bool.or_eq_true] at defaulted
    rcases defaulted with fromLeft | fromRight
    · simp [leftComplete.defaulted f inLeft fromLeft]
    · simp [Field.absorb_name, ← named, rightComplete.defaulted g inRight fromRight]
  · simp [rightComplete.defaulted h inRight defaulted]

/-- A name declared by a schema is the name of one of its fields. -/
theorem exists_field_of_hasField {s : Schema} {k : String} (declared : s.hasField k = true) :
    ∃ h ∈ s.fields, h.name = k := by
  obtain ⟨h, member, named⟩ := List.any_eq_true.mp declared
  exact ⟨h, member, by simpa using named⟩

end Merged

/-! ### Concatenation -/

/-- A concatenation of valid records whose schemas do not clash validates the union of their
data against the closed form of the composition, and succeeds. -/
theorem concat_of_agrees {a b : Record} (left : a.Valid) (right : b.Valid)
    (rightComplete : b.Complete) (agrees : ∀ g ∈ b.schema.fields, a.schema.clash? g = none)
    (composed : a.schema.compose b.schema = .ok (a.schema.meet b.schema)) :
    a.concat b =
      .ok ⟨a.schema.meet b.schema, (validateObject (a.schema.meet b.schema) (merged a b) "").1⟩ := by
  have constructed : construct (a.schema.meet b.schema) (.object (Json.setMembers a.data b.data)) =
      .ok ⟨a.schema.meet b.schema, (validateObject (a.schema.meet b.schema) (merged a b) "").1⟩ :=
    construct_eq_ok_iff.mpr ⟨_, rfl, merged_passes left right rightComplete agrees, rfl⟩
  simp only [concat, composed, constructed]

/-- A key the union of the data holds, declared by the composition, reads its value there
normalized under the composed field type. -/
theorem lookup_normal_merged {a b : Record} (distinct : (a.schema.meet b.schema).names.Nodup)
    {k : String} {v : Json} (declared : (a.schema.meet b.schema).hasField k = true)
    (found : Json.lookup (merged a b) k = some v) :
    ∃ h, (a.schema.meet b.schema).field? k = some h ∧
      Json.lookup (validateObject (a.schema.meet b.schema) (merged a b) "").1 k =
        some (validateType h.type v k).1 := by
  obtain ⟨h, member, rfl⟩ := exists_field_of_hasField declared
  refine ⟨h, Schema.field?_of_mem distinct member, ?_⟩
  rw [validateObject_fst, lookup_entries distinct _ member, Field.entry, found, joinPath_top]

/-- The keys of the concatenation's data: a key is present exactly when one side's data has
it.  A declared key with no value on either side would need a default, and the records made
have their defaulted fields present. -/
theorem isSome_lookup_concat {a b : Record} (validA : a.Valid) (validB : b.Valid)
    (completeA : a.Complete) (completeB : b.Complete)
    (distinct : (a.schema.meet b.schema).names.Nodup)
    (validR : Valid ⟨a.schema.meet b.schema,
      (validateObject (a.schema.meet b.schema) (merged a b) "").1⟩) (k : String) :
    (Json.lookup (validateObject (a.schema.meet b.schema) (merged a b) "").1 k).isSome =
      ((Json.lookup a.data k).isSome || (Json.lookup b.data k).isSome) := by
  cases declared : (a.schema.meet b.schema).hasField k with
  | false =>
    have undeclared := declared
    rw [Schema.hasField_meet, Bool.or_eq_false_iff] at declared
    rw [validR.lookup_eq_none undeclared, validA.lookup_eq_none declared.1,
      validB.lookup_eq_none declared.2]
    rfl
  | true =>
    obtain ⟨h, member, rfl⟩ := exists_field_of_hasField declared
    rw [validateObject_fst, lookup_entries distinct _ member, Field.entry]
    cases found : Json.lookup (merged a b) h.name with
    | some v =>
      rw [lookup_merged completeB] at found
      have either : ((Json.lookup a.data h.name).isSome || (Json.lookup b.data h.name).isSome) =
          true := by
        rw [Bool.or_comm, ← Option.isSome_or, found]
        rfl
      rw [either]
      rfl
    | none =>
      have present := defaulted_merged completeA completeB member
      rw [found] at present
      have noDefault : h.default = none := by
        cases given : h.default with
        | none => rfl
        | some d => simp [given] at present
      rw [lookup_merged completeB, Option.or_eq_none_iff] at found
      simp [noDefault, found.1, found.2]

/-- Concatenating two records the operations made fails only when their schemas conflict, and
then with the composition's conflict: the validation inside never reports a violation.  On
success the record has the composed schema, holds the keys of both records' data and no other,
and each value is the right record's when it has the key, the left record's otherwise, in either
case normalized under the composed field type. -/
theorem concat_fails_only_on_conflicts {a b : Record} (left : a.Made) (right : b.Made) :
    (∀ e, a.concat b = .error e ↔ ∃ name l r,
      a.schema.compose b.schema = .error (.conflict name l r) ∧ e = .schema (.conflict name l r)) ∧
    ∀ s, a.schema.compose b.schema = .ok s → ∃ r, a.concat b = .ok r ∧ r.schema = s ∧
      (∀ k, (Json.lookup r.data k).isSome =
        ((Json.lookup a.data k).isSome || (Json.lookup b.data k).isSome)) ∧
      (∀ k v, Json.lookup b.data k = some v →
        ∃ f, s.field? k = some f ∧ Json.lookup r.data k = some (validateType f.type v k).1) ∧
      (∀ k v, Json.lookup a.data k = some v → Json.lookup b.data k = none →
        ∃ f, s.field? k = some f ∧ Json.lookup r.data k = some (validateType f.type v k).1) := by
  have validA := left.valid
  have validB := right.valid
  have completeA := left.complete
  have completeB := right.complete
  have distinctA := validA.built.1.distinctNames.schema
  have distinctB := validB.built.1.distinctNames.schema
  rcases Schema.compose_settles a.schema distinctB with ⟨agrees, composed⟩ |
    ⟨-, name, l, r, failed⟩
  · have concatenated := concat_of_agrees validA validB completeB agrees composed
    have validR := Valid.concat validA validB concatenated
    have distinct : (a.schema.meet b.schema).names.Nodup :=
      Schema.meetFields_nodup distinctA distinctB
    refine ⟨fun e => ⟨fun refused => ?_, fun conflict => ?_⟩, fun s done => ?_⟩
    · rw [concatenated] at refused
      cases refused
    · obtain ⟨_, _, _, refused, -⟩ := conflict
      rw [composed] at refused
      cases refused
    rw [composed] at done
    cases done
    refine ⟨_, concatenated, rfl, fun k => ?_, fun k v fromB => ?_, fun k v fromA absent => ?_⟩
    · exact isSome_lookup_concat validA validB completeA completeB distinct validR k
    · have declared : (a.schema.meet b.schema).hasField k = true := by
        rw [Schema.hasField_meet, validB.declared fromB, Bool.or_true]
      exact lookup_normal_merged distinct declared
        (by rw [lookup_merged completeB, fromB, Option.some_or])
    · have declared : (a.schema.meet b.schema).hasField k = true := by
        rw [Schema.hasField_meet, validA.declared fromA, Bool.true_or]
      exact lookup_normal_merged distinct declared
        (by rw [lookup_merged completeB, absent, fromA, Option.none_or])
  · have refused : a.concat b = .error (.schema (.conflict name l r)) := by
      simp only [concat, failed]
    refine ⟨fun e => ⟨fun failure => ⟨name, l, r, failed, ?_⟩, fun conflict => ?_⟩,
      fun s done => ?_⟩
    · rw [refused] at failure
      cases failure
      rfl
    · obtain ⟨n, l', r', again, named⟩ := conflict
      rw [failed] at again
      cases again
      rw [refused, named]
    · rw [failed] at done
      cases done

/-- Concatenating a record of `{x: integer}` with one of `{x?: integer, y?: string = "d"}`
constructed from `{"x": 2.0}`: the schemas agree on `x`, so only the composition could fail. -/
theorem concat_fails_only_on_conflicts_shared_key :
    Made ⟨⟨none, [Field.ofRequired "x" .integer]⟩, [("x", .number (.int 1))]⟩ ∧
    Made ⟨⟨none, [Field.ofOptional "x" .integer, (Field.ofOptional "y" .string).withDefault (.string "d")]⟩,
      [("x", .number (.int 2)), ("y", .string "d")]⟩ ∧
    (∀ e, Record.concat ⟨⟨none, [Field.ofRequired "x" .integer]⟩, [("x", .number (.int 1))]⟩
        ⟨⟨none, [Field.ofOptional "x" .integer, (Field.ofOptional "y" .string).withDefault (.string "d")]⟩,
          [("x", .number (.int 2)), ("y", .string "d")]⟩ = .error e ↔ ∃ name l r,
      Schema.compose ⟨none, [Field.ofRequired "x" .integer]⟩
        ⟨none, [Field.ofOptional "x" .integer, (Field.ofOptional "y" .string).withDefault (.string "d")]⟩ =
        .error (.conflict name l r) ∧ e = .schema (.conflict name l r)) ∧
    ∀ s, Schema.compose ⟨none, [Field.ofRequired "x" .integer]⟩
        ⟨none, [Field.ofOptional "x" .integer, (Field.ofOptional "y" .string).withDefault (.string "d")]⟩ = .ok s →
      ∃ r, Record.concat ⟨⟨none, [Field.ofRequired "x" .integer]⟩, [("x", .number (.int 1))]⟩
        ⟨⟨none, [Field.ofOptional "x" .integer, (Field.ofOptional "y" .string).withDefault (.string "d")]⟩,
          [("x", .number (.int 2)), ("y", .string "d")]⟩ = .ok r ∧ r.schema = s ∧
      (∀ k, (Json.lookup r.data k).isSome =
        ((Json.lookup [("x", .number (.int 1))] k).isSome ||
          (Json.lookup [("x", .number (.int 2)), ("y", .string "d")] k).isSome)) ∧
      (∀ k v, Json.lookup [("x", .number (.int 2)), ("y", .string "d")] k = some v →
        ∃ f, s.field? k = some f ∧ Json.lookup r.data k = some (validateType f.type v k).1) ∧
      (∀ k v, Json.lookup [("x", .number (.int 1))] k = some v →
        Json.lookup [("x", .number (.int 2)), ("y", .string "d")] k = none →
        ∃ f, s.field? k = some f ∧ Json.lookup r.data k = some (validateType f.type v k).1) := by
  have builtA : (FieldType.object ⟨none, [Field.ofRequired "x" .integer]⟩).Built := by
    simp only [FieldType.Built, FieldType.schemas, Schema.schemas, Schema.fieldSchemas,
      Field.ofRequired, List.append_nil, List.mem_singleton, forall_eq]
    rfl
  have builtB : (FieldType.object ⟨none, [Field.ofOptional "x" .integer,
      (Field.ofOptional "y" .string).withDefault (.string "d")]⟩).Built := by
    simp only [FieldType.Built, FieldType.schemas, Schema.schemas, Schema.fieldSchemas,
      Field.ofOptional, Field.withDefault, List.append_nil, List.mem_singleton, forall_eq]
    rfl
  have literalsA : (FieldType.object ⟨none, [Field.ofRequired "x" .integer]⟩).LiteralsWellFormed :=
    ⟨by simp [FieldType.enums, Schema.enums, Schema.fieldEnums, Field.ofRequired],
      by simp [FieldType.schemas, Schema.schemas, Schema.fieldSchemas, Field.ofRequired]⟩
  have literalsB : (FieldType.object ⟨none, [Field.ofOptional "x" .integer,
      (Field.ofOptional "y" .string).withDefault (.string "d")]⟩).LiteralsWellFormed :=
    ⟨by simp [FieldType.enums, Schema.enums, Schema.fieldEnums, Field.ofOptional, Field.withDefault],
      by simp [FieldType.schemas, Schema.schemas, Schema.fieldSchemas, Field.ofOptional,
        Field.withDefault, Json.WellFormed]⟩
  have madeA : Made ⟨⟨none, [Field.ofRequired "x" .integer]⟩, [("x", .number (.int 1))]⟩ :=
    .construct (d := .object [("x", .number (.int 1))]) builtA literalsA rfl
  have madeB : Made ⟨⟨none, [Field.ofOptional "x" .integer,
      (Field.ofOptional "y" .string).withDefault (.string "d")]⟩,
      [("x", .number (.int 2)), ("y", .string "d")]⟩ :=
    .construct (d := .object [("x", .number (.float 2.0))]) builtB literalsB rfl
  exact ⟨madeA, madeB, concat_fails_only_on_conflicts madeA madeB⟩

end Record

end PromptTrainer
