import PromptTrainer.Proofs.SchemaOperations
/-!
# The output schema of a chain of thought

A chain of thought asks its model for `k` free-text thinking fields before the fields of a
target schema, with at least one thinking field.  Its output schema is the schema of the thinking
fields (required strings named `thinking`, `thinking_1`, ...) composed with the target.

A composition fails exactly at a name both sides declare with types that are not equal, so the
chain can be made exactly when every target field that takes a thinking name is a string
(`ChainOfThought.make_isOk_iff`).  Then the output schema lists the thinking fields first, in
order, followed by the target's other fields in the target's order; a thinking field the target
also declares stays a required string; and the output schema contains the target, because a
shared field keeps the thinking side's type, equal to the target's, and takes both `required`
flags (`Schema.meet_contains_right`).

Main statement: `ChainOfThought.make_output_schema`.
-/

namespace PromptTrainer

/-- A thinking field is a required string. -/
theorem thinking_field_shape {k : Nat} {f : Field} (member : f ∈ (thinkingSchema k).fields) :
    f.type = .string ∧ f.required = true := by
  obtain ⟨i, -, rfl⟩ := List.mem_map.mp member
  exact ⟨rfl, rfl⟩

/-- A name is declared among the thinking fields exactly when it names a position. -/
theorem thinkingSchema_hasField_iff (k : Nat) (name : String) :
    (thinkingSchema k).hasField name = true ↔ name ∈ (List.range k).map thinkingName := by
  rw [← thinkingSchema_names]
  simp [Schema.hasField, Schema.names]

/-- Only `string` equals `string`. -/
theorem FieldType.string_beq_iff (t : FieldType) : FieldType.string.beq t = true ↔ t = .string := by
  cases t <;> simp [FieldType.beq]

/-- A target field clashes with the thinking fields exactly when it takes a thinking name with a
type other than `string`. -/
theorem thinking_clash?_eq_none_iff (k : Nat) (g : Field) :
    (thinkingSchema k).clash? g = none ↔ ∀ i < k, g.name = thinkingName i → g.type = .string := by
  cases declared : (thinkingSchema k).field? g.name with
  | none =>
    have undeclared := Schema.hasField_eq_false_of_field? declared
    rw [Schema.clash?_of_undeclared declared]
    refine ⟨fun _ i below named => ?_, fun _ => rfl⟩
    have listed : g.name ∈ (List.range k).map thinkingName :=
      List.mem_map.mpr ⟨i, List.mem_range.mpr below, named.symm⟩
    rw [← thinkingSchema_hasField_iff, undeclared] at listed
    cases listed
  | some f =>
    obtain ⟨member, named⟩ := Schema.mem_of_field? declared
    have string := (thinking_field_shape member).1
    obtain ⟨i, below, rfl⟩ := List.mem_map.mp member
    cases equal : FieldType.string.beq g.type with
    | true =>
      rw [Schema.clash?_of_equal declared (string ▸ equal)]
      exact ⟨fun _ _ _ _ => (FieldType.string_beq_iff g.type).mp equal, fun _ => rfl⟩
    | false =>
      rw [Schema.clash?_of_unequal declared (string ▸ equal)]
      refine ⟨fun clashes => (by cases clashes), fun strings => ?_⟩
      have isString := strings i (List.mem_range.mp below) named.symm
      rw [isString] at equal
      cases equal

/-- Meeting the thinking fields with target fields lists the thinking names in order, then the
target's names that are no thinking name, in the target's order. -/
theorem thinking_meetFields_names (k : Nat) (target : Schema) :
    (Schema.meetFields (thinkingSchema k) target.fields).map Field.name =
      (List.range k).map thinkingName ++
        target.names.filter (fun n => n ∉ (List.range k).map thinkingName) := by
  have undeclared : ∀ n, (!(thinkingSchema k).hasField n) =
      decide (n ∉ (List.range k).map thinkingName) := by
    intro n
    cases declared : (thinkingSchema k).hasField n <;>
      simp [← thinkingSchema_hasField_iff, declared]
  have thinkingNames : ((thinkingSchema k).fields.map
      (Schema.meetField target.fields)).map Field.name = (List.range k).map thinkingName := by
    rw [List.map_map, ← thinkingSchema_names, Schema.names]
    exact List.map_congr_left (fun f _ => Schema.meetField_name _ f)
  have otherNames : (target.fields.filter
      (fun g => !(thinkingSchema k).hasField g.name)).map Field.name =
      target.names.filter (fun n => n ∉ (List.range k).map thinkingName) := by
    rw [Schema.names, List.filter_map]
    exact congrArg _ (List.filter_congr (fun g _ => undeclared g.name))
  rw [Schema.meetFields, List.map_append, thinkingNames, otherNames]

/-- Each thinking field meets the target fields and stays a required string. -/
theorem thinking_meetFields_field? {k : Nat} {target : Schema} (distinct : target.names.Nodup)
    {i : Nat} (below : i < k) :
    ∃ f, (⟨target.title, Schema.meetFields (thinkingSchema k) target.fields⟩ : Schema).field?
      (thinkingName i) = some f ∧ f.type = .string ∧ f.required = true := by
  have metDistinct : (Schema.meetFields (thinkingSchema k) target.fields).map
      Field.name |>.Nodup := Schema.meetFields_nodup (thinkingSchema_names_nodup k) distinct
  obtain ⟨f, member, named⟩ : ∃ f ∈ (thinkingSchema k).fields, f.name = thinkingName i :=
    ⟨_, List.mem_map.mpr ⟨i, List.mem_range.mpr below, rfl⟩, rfl⟩
  have met : Schema.meetField target.fields f ∈ Schema.meetFields (thinkingSchema k) target.fields :=
    List.mem_append_left _ (List.mem_map_of_mem member)
  refine ⟨Schema.meetField target.fields f, ?_, ?_, ?_⟩
  · rw [← named, ← Schema.meetField_name target.fields f]
    exact Schema.field?_of_mem (s := ⟨target.title, _⟩) metDistinct met
  · rw [Schema.meetField_type]
    exact (thinking_field_shape member).1
  · exact Schema.required_meetField (thinking_field_shape member).2

/-- The thinking fields met with a target whose fields under thinking names are strings contain
the target: a shared field keeps the type `string`, equal to the target's. -/
theorem thinking_meet_contains {k : Nat} {target : Schema}
    (names : (FieldType.object target).DistinctNames)
    (literals : (FieldType.object target).LiteralsWellFormed)
    (strings : ∀ g ∈ target.fields, ∀ i < k, g.name = thinkingName i → g.type = .string) :
    (⟨target.title, Schema.meetFields (thinkingSchema k) target.fields⟩ : Schema).contains
      target = true := by
  have agrees : ∀ g ∈ target.fields, (thinkingSchema k).clash? g = none :=
    fun g member => (thinking_clash?_eq_none_iff _ g).mpr (strings g member)
  refine Schema.meet_contains_right _ (thinkingSchema_names_nodup k) names.schema agrees ?_ ?_
  · -- a thinking field's type, `string`, is narrower than every type equal to it
    intro f member t equal
    rw [(thinking_field_shape member).1] at equal ⊢
    rw [(FieldType.string_beq_iff t).mp equal]
    rfl
  · exact fun g member => FieldType.narrower_self _ (names.field member) (literals.field member)

namespace ChainOfThought

/-- A chain of thought is made when its thinking fields compose with the target, with at least
one thinking field and a generator named after the chain. -/
theorem make_eq (name : String) (target : Schema) (model k : Nat) :
    make name target model k = ((thinkingSchema (max k 1)).compose target).map (fun schema =>
      ⟨name, max k 1, target,
        { name := name ++ "_generator", outputSchema := schema, model := model }⟩) := by
  unfold make
  dsimp only
  cases (thinkingSchema (max k 1)).compose target <;> rfl

/-- A chain of thought is made only when no target field clashes with the thinking fields. -/
theorem noClash_of_make {name : String} {target : Schema} {model k : Nat}
    (distinct : target.names.Nodup) {c : ChainOfThought} (made : make name target model k = .ok c) :
    target.fields.findSome? (thinkingSchema (max k 1)).clash? = none := by
  rw [make_eq, Schema.compose_eq distinct] at made
  cases first : target.fields.findSome? (thinkingSchema (max k 1)).clash? with
  | none => rfl
  | some e => rw [first] at made; cases made

/-- A chain of thought over a target with distinct names can be made exactly when every target
field that takes a thinking name is a string. -/
theorem make_isOk_iff (name : String) {target : Schema} (model k : Nat)
    (distinct : target.names.Nodup) :
    (∃ c, make name target model k = .ok c) ↔
      ∀ g ∈ target.fields, ∀ i < max k 1, g.name = thinkingName i → g.type = .string := by
  constructor
  · rintro ⟨c, made⟩ g member
    have first := noClash_of_make distinct made
    exact (thinking_clash?_eq_none_iff _ g).mp (List.findSome?_eq_none_iff.mp first g member)
  · intro strings
    have first : target.fields.findSome? (thinkingSchema (max k 1)).clash? = none :=
      List.findSome?_eq_none_iff.mpr
        (fun g member => (thinking_clash?_eq_none_iff _ g).mpr (strings g member))
    rw [make_eq, Schema.compose_eq distinct, first]
    exact ⟨_, rfl⟩

/-- A chain of thought that is made answers in the thinking fields composed with the target. -/
theorem outputSchema_of_make {name : String} {target : Schema} {model k : Nat}
    (distinct : target.names.Nodup) {c : ChainOfThought} (made : make name target model k = .ok c) :
    (Node.chain c).outputSchema =
      ⟨target.title, Schema.meetFields (thinkingSchema (max k 1)) target.fields⟩ := by
  have first := noClash_of_make distinct made
  rw [make_eq, Schema.compose_eq distinct, first] at made
  cases made
  rfl

/-- The output schema of a chain of thought, for every number of thinking fields and every
target schema the program can build.  The chain can be made exactly when every target field
named `thinking` or `thinking_i` (`1 ≤ i < max k 1`) is a string.  Then the output schema names
the thinking fields `thinking`, `thinking_1`, ..., `thinking_(max k 1 - 1)` in order, followed
by the target's other fields in the target's order; it contains the target; and each thinking
field is a required string. -/
theorem make_output_schema (name : String) (target : Schema) (model k : Nat)
    (names : (FieldType.object target).DistinctNames)
    (literals : (FieldType.object target).LiteralsWellFormed) :
    ((∃ c, make name target model k = .ok c) ↔
      ∀ g ∈ target.fields, ∀ i < max k 1, g.name = thinkingName i → g.type = .string) ∧
    ∀ c, make name target model k = .ok c →
      (Node.chain c).outputSchema.names =
          (List.range (max k 1)).map thinkingName ++
            target.names.filter (fun n => n ∉ (List.range (max k 1)).map thinkingName) ∧
      (Node.chain c).outputSchema.contains target = true ∧
      ∀ i < max k 1, ∃ f, (Node.chain c).outputSchema.field? (thinkingName i) = some f ∧
        f.type = .string ∧ f.required = true := by
  have distinct := names.schema
  refine ⟨make_isOk_iff name model k distinct, fun c made => ?_⟩
  have strings := (make_isOk_iff name model k distinct).mp ⟨c, made⟩
  rw [outputSchema_of_make distinct made]
  exact ⟨thinking_meetFields_names (max k 1) target, thinking_meet_contains names literals strings,
    fun i below => thinking_meetFields_field? distinct below⟩

/-- Three thinking fields over the target `{thinking_1?: string, answer: string}`: the chain is
made, its output names `thinking`, `thinking_1`, `thinking_2`, `answer`, and the shared
`thinking_1` becomes required. -/
theorem make_output_schema_shared_thinking :
    (FieldType.object ⟨none, [Field.ofOptional "thinking_1" .string, Field.ofRequired "answer" .string]⟩).DistinctNames ∧
    (FieldType.object ⟨none, [Field.ofOptional "thinking_1" .string, Field.ofRequired "answer" .string]⟩).LiteralsWellFormed ∧
    ((∃ c, make "reasoner" ⟨none, [Field.ofOptional "thinking_1" .string, Field.ofRequired "answer" .string]⟩ 0 3 = .ok c) ↔
      ∀ g ∈ [Field.ofOptional "thinking_1" .string, Field.ofRequired "answer" .string], ∀ i < max 3 1, g.name = thinkingName i → g.type = .string) ∧
    ∀ c, make "reasoner" ⟨none, [Field.ofOptional "thinking_1" .string, Field.ofRequired "answer" .string]⟩ 0 3 = .ok c →
      (Node.chain c).outputSchema.names =
          (List.range (max 3 1)).map thinkingName ++
            ["thinking_1", "answer"].filter (fun n => n ∉ (List.range (max 3 1)).map thinkingName) ∧
      (Node.chain c).outputSchema.contains ⟨none, [Field.ofOptional "thinking_1" .string, Field.ofRequired "answer" .string]⟩ = true ∧
      ∀ i < max 3 1, ∃ f, (Node.chain c).outputSchema.field? (thinkingName i) = some f ∧
        f.type = .string ∧ f.required = true := by
  have names : (FieldType.object ⟨none, [Field.ofOptional "thinking_1" .string, Field.ofRequired "answer" .string]⟩).DistinctNames := by
    simp [FieldType.DistinctNames, FieldType.schemas, Schema.schemas, Schema.fieldSchemas,
      Field.ofRequired, Field.ofOptional, Schema.names]
  have literals : (FieldType.object ⟨none, [Field.ofOptional "thinking_1" .string, Field.ofRequired "answer" .string]⟩).LiteralsWellFormed :=
    ⟨by simp [FieldType.enums, Schema.enums, Schema.fieldEnums, Field.ofRequired,
        Field.ofOptional],
      by simp [FieldType.schemas, Schema.schemas, Schema.fieldSchemas, Field.ofRequired,
        Field.ofOptional]⟩
  exact ⟨names, literals, make_output_schema "reasoner" _ 0 3 names literals⟩

end ChainOfThought

end PromptTrainer
