import PromptTrainer.Proofs.Composition
import PromptTrainer.Shapes
/-!
# Recognizers see declared names and are closed upward

A recognizer decides whether a schema has a reference shape by containment of a reference
schema.  Two facts follow from the shape of the reference schemas.

* A presence recognizer asks only for the listed names.  Its reference schema declares each
  name as an optional field of type `any`, every type is narrower than `any`, and an optional
  field asks for no flag, so containing it asks that each name be declared and nothing more
  (`Schema.contains_presence_iff`).
* Every recognizer is closed upward along containment: a schema containing a recognized schema
  is recognized.  Containment is not transitive in general: it fails through `integer` from an
  enumeration whose doubles stand for integers.  But it is transitive to every schema that
  holds no `integer` (`Schema.contains_trans_of_integerFree`), and no reference schema holds
  one (`Shapes.Recognizer.reference_holdsInteger`).

Main statement: `Shapes.recognizers_upward_closed`.
-/

namespace PromptTrainer

namespace Schema

/-- Containing the presence schema of some names asks only that each name be declared: the
fields asked for are optional and of type `any`, which every type is narrower than. -/
theorem contains_presence_iff (s : Schema) (names : List String) :
    s.contains (Shapes.presence names) = true ↔ ∀ name ∈ names, s.hasField name = true := by
  rw [contains_eq, containsFields_iff]
  constructor
  · intro contained name listed
    obtain ⟨found, lookedUp, -, -⟩ :=
      contained (Field.ofOptional name .any) (List.mem_map_of_mem listed)
    change s.field? name = some found at lookedUp
    cases declared : s.hasField name
    · rw [field?_eq_none_of_hasField declared] at lookedUp
      cases lookedUp
    · rfl
  · intro declared wanted member
    obtain ⟨name, listed, rfl⟩ := List.mem_map.mp member
    cases lookedUp : s.field? name with
    | none =>
      have undeclared := hasField_eq_false_of_field? lookedUp
      rw [declared name listed] at undeclared
      cases undeclared
    | some found => exact ⟨found, lookedUp, rfl, FieldType.narrower_any _⟩

end Schema

namespace Shapes

/-- No reference schema holds `integer`, at any depth: the chat roles are an enumeration of
strings, embeddings are lists of numbers, and rewards are optional numbers. -/
theorem Recognizer.reference_holdsInteger (r : Recognizer) : r.reference.holdsInteger = false := by
  cases r <;> decide

/-- A schema containing a recognized schema is recognized: containment is transitive up to the
reference schema, which holds no `integer`. -/
theorem Recognizer.holds_of_contains (r : Recognizer) {s s' : Schema}
    (recognized : r.holds s = true) (containing : s'.contains s = true) : r.holds s' = true :=
  Schema.contains_trans_of_integerFree r.reference_holdsInteger containing recognized

/-- Recognizers depend only on what a schema declares, and are closed upward.  Each presence
recognizer holds of a schema exactly when the schema declares every listed name, whatever the
types and `required` flags; a recognizer that holds of a schema holds of every schema containing
it; and no reference schema holds `integer`, the one type through which containment fails to be
transitive. -/
theorem recognizers_upward_closed :
    (∀ (r : Recognizer) (names : List String),
      (r, names) ∈ [(Recognizer.entity, ["label"]), (.embeddedEntity, ["label", "embedding"]),
        (.relation, ["subj", "label", "obj"]), (.entities, ["entities"]),
        (.relations, ["relations"]), (.knowledgeGraph, ["entities", "relations"]),
        (.similaritySearch, ["entity_label", "similarity_search"]),
        (.tripletSearch, ["subject_label", "subject_similarity_search", "relation_label",
          "object_label", "object_similarity_search"])] →
      ∀ s : Schema, r.holds s = true ↔ ∀ name ∈ names, s.hasField name = true) ∧
    (∀ (r : Recognizer) (s s' : Schema), r.holds s = true → s'.contains s = true →
      r.holds s' = true) ∧
    ∀ r : Recognizer, r.reference.holdsInteger = false := by
  refine ⟨?_, fun r _ _ recognized containing => r.holds_of_contains recognized containing,
    Recognizer.reference_holdsInteger⟩
  intro r names listed s
  simp only [List.mem_cons, Prod.mk.injEq, List.not_mem_nil, or_false] at listed
  rcases listed with ⟨rfl, rfl⟩ | ⟨rfl, rfl⟩ | ⟨rfl, rfl⟩ | ⟨rfl, rfl⟩ | ⟨rfl, rfl⟩ |
    ⟨rfl, rfl⟩ | ⟨rfl, rfl⟩ | ⟨rfl, rfl⟩
  all_goals exact Schema.contains_presence_iff s _

/-- The schema `{subj?: string, label?: integer, obj?: any}` is a relation, whatever the types
of its fields, and so is every schema that contains it. -/
theorem recognizers_upward_closed_loose_relation :
    (Recognizer.relation, ["subj", "label", "obj"]) ∈
      [(Recognizer.entity, ["label"]), (.embeddedEntity, ["label", "embedding"]),
        (.relation, ["subj", "label", "obj"]), (.entities, ["entities"]),
        (.relations, ["relations"]), (.knowledgeGraph, ["entities", "relations"]),
        (.similaritySearch, ["entity_label", "similarity_search"]),
        (.tripletSearch, ["subject_label", "subject_similarity_search", "relation_label",
          "object_label", "object_similarity_search"])] ∧
    Recognizer.relation.holds ⟨none, [Field.ofOptional "subj" .string,
      Field.ofOptional "label" .integer, Field.ofOptional "obj" .any]⟩ = true ∧
    ∀ s' : Schema, s'.contains ⟨none, [Field.ofOptional "subj" .string,
      Field.ofOptional "label" .integer, Field.ofOptional "obj" .any]⟩ = true →
      Recognizer.relation.holds s' = true := by
  have listed : (Recognizer.relation, ["subj", "label", "obj"]) ∈
      [(Recognizer.entity, ["label"]), (.embeddedEntity, ["label", "embedding"]),
        (.relation, ["subj", "label", "obj"]), (.entities, ["entities"]),
        (.relations, ["relations"]), (.knowledgeGraph, ["entities", "relations"]),
        (.similaritySearch, ["entity_label", "similarity_search"]),
        (.tripletSearch, ["subject_label", "subject_similarity_search", "relation_label",
          "object_label", "object_similarity_search"])] := by
    simp
  have recognized := (recognizers_upward_closed.1 _ _ listed ⟨none, [Field.ofOptional "subj" .string,
      Field.ofOptional "label" .integer, Field.ofOptional "obj" .any]⟩).mpr (by decide)
  exact ⟨listed, recognized,
    fun s' containing => recognizers_upward_closed.2.1 _ _ s' recognized containing⟩

end Shapes

end PromptTrainer
