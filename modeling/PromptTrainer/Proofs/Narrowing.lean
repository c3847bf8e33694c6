import PromptTrainer.Proofs.Nested
/-!
# Narrowing is a preorder, except through doubles standing in for integers

Narrowing is reflexive on the types the program builds: names distinct in every schema, and
well-formed enumeration members (`FieldType.narrower_self`).

It is transitive except in one place.  An enumeration is narrower than another when each of
its members equals some member of the other as a literal, so as a double; it is narrower than
`integer` when its members are 64-bit integers.  The enumeration `[1.0]` is narrower than `[1]`,
which is narrower than `integer`, but `[1.0]` is not.  Transitivity holds exactly for the types
whose enumerations, when every member equals some 64-bit integer as a literal, hold only
64-bit integers (`FieldType.IntegerEnumsExact`): `FieldType.narrower_trans` proves it for those,
and `FieldType.exists_chain_of_not_exact` builds a failing chain for every other type.  Seen
from the widest type, the failing chain ends at `integer`, so narrowing is transitive to every
type that holds no `integer` at any depth (`FieldType.narrower_trans_of_safe`), and so is
containment (`Schema.contains_trans_of_integerFree`).

The proofs follow the recursion of `narrower`: transitivity on the widest type, reflexivity
and the failing chains on the narrowest.  Main statement: `narrowing_preorder_exactly`.
-/

namespace PromptTrainer

mutual
/-- Whether `integer` stands anywhere in the type, in nested schemas too. -/
def FieldType.holdsInteger : FieldType → Bool
  | .integer => true
  | .object s => Schema.holdsInteger s
  | .list t | .map t | .optional t => FieldType.holdsInteger t
  | _ => false

/-- Whether `integer` stands anywhere in the types of a schema's fields. -/
def Schema.holdsInteger : Schema → Bool
  | ⟨_, fields⟩ => Schema.fieldsHoldInteger fields

/-- Whether `integer` stands anywhere in the types of fields. -/
def Schema.fieldsHoldInteger : List Field → Bool
  | [] => false
  | ⟨_, t, _, _, _⟩ :: rest => FieldType.holdsInteger t || Schema.fieldsHoldInteger rest
end

namespace FieldType

/-- Members that all equal, as literals, some 64-bit integer are all 64-bit integers. -/
def IntegersExact (values : List Json) : Prop :=
  (∀ v ∈ values, ∃ i, integer.acceptsLiteral i = true ∧ literalEq v i = true) →
    ∀ v ∈ values, integer.acceptsLiteral v = true

/-- Every enumeration the type holds is exact about integers. -/
def IntegerEnumsExact (t : FieldType) : Prop := ∀ values ∈ t.enums, IntegersExact values

theorem IntegerEnumsExact.of_list {t : FieldType} (exact : (FieldType.list t).IntegerEnumsExact) :
    t.IntegerEnumsExact := exact

theorem IntegerEnumsExact.of_map {t : FieldType} (exact : (FieldType.map t).IntegerEnumsExact) :
    t.IntegerEnumsExact := exact

theorem IntegerEnumsExact.of_optional {t : FieldType}
    (exact : (FieldType.optional t).IntegerEnumsExact) : t.IntegerEnumsExact := exact

theorem IntegerEnumsExact.field {s : Schema} (exact : (FieldType.object s).IntegerEnumsExact)
    {f : Field} (member : f ∈ s.fields) : f.type.IntegerEnumsExact :=
  fun values inField => exact values (Schema.mem_enums_of_field member inField)

/-! ### How narrowing unfolds -/

/-- A type is narrower than `integer`, `number`, `string` or `boolean` when it is that type,
when it is `integer` below `number`, or when it is an enumeration whose members the wider type
takes. -/
theorem narrower_primitive_iff {a p : FieldType} (primitive : p.isPrimitive = true) :
    a.narrower p = true ↔
      a = p ∨ (a = .integer ∧ p = .number) ∨
        ∃ values, a = .enum values ∧ values.all p.acceptsLiteral = true := by
  cases p <;> simp [isPrimitive] at primitive <;> cases a <;> simp [narrower]

theorem exists_list_of_narrower {b c : FieldType} (narrow : b.narrower (.list c) = true) :
    ∃ b', b = .list b' := by
  cases b <;> simp_all [narrower]

theorem exists_map_of_narrower {b c : FieldType} (narrow : b.narrower (.map c) = true) :
    ∃ b', b = .map b' := by
  cases b <;> simp_all [narrower]

theorem exists_object_of_narrower {b : FieldType} {c : Schema}
    (narrow : b.narrower (.object c) = true) : ∃ b', b = .object b' := by
  cases b <;> simp_all [narrower]

theorem exists_enum_of_narrower {b : FieldType} {c : List Json}
    (narrow : b.narrower (.enum c) = true) : ∃ b', b = .enum b' := by
  cases b <;> simp_all [narrower]

/-- Nothing but `any` and optional types stands above `any`; every type is narrower than those. -/
theorem narrower_of_any_narrower : ∀ {c : FieldType} (a : FieldType),
    FieldType.any.narrower c = true → a.narrower c = true
  | .any, a, _ => narrower_any a
  | .optional c, a, anyBelow => by
    rw [narrower_optional (by simp)] at anyBelow
    cases a with
    | optional a => exact narrower_of_any_narrower a anyBelow
    | _ => rw [narrower_optional (by simp)]; exact narrower_of_any_narrower _ anyBelow
  | .string, _, below | .integer, _, below | .number, _, below | .boolean, _, below
  | .object _, _, below | .list _, _, below | .map _, _, below | .enum _, _, below => by
    simp [narrower] at below

/-- A member equal, as a literal, to a string, a number or a boolean is one. -/
theorem acceptsLiteral_of_literalEq {p : FieldType} (notInteger : p ≠ .integer) {v w : Json}
    (equal : literalEq v w = true) (accepts : p.acceptsLiteral w = true) :
    p.acceptsLiteral v = true := by
  cases p <;> simp [acceptsLiteral] at notInteger accepts ⊢
  all_goals
    cases w <;> simp at accepts
    cases v <;> simp_all [literalEq, Json.beq]

/-! ### Reflexivity -/

/-- Fields containing themselves: each finds itself by its name, with a type narrower than
itself. -/
theorem containsFields_of_self (s : Schema) {fields : List Field}
    (found : ∀ f ∈ fields, s.field? f.name = some f)
    (each : ∀ f ∈ fields, f.type.narrower f.type = true) : s.containsFields fields = true := by
  induction fields with
  | nil => rfl
  | cons f rest ih =>
    obtain ⟨name, type, required, default, description⟩ := f
    simp only [Schema.containsFields, found _ List.mem_cons_self, Bool.not_or_self,
      Bool.true_and, Bool.and_eq_true]
    exact ⟨each _ List.mem_cons_self,
      ih (fun f member => found f (List.mem_cons_of_mem _ member))
        (fun f member => each f (List.mem_cons_of_mem _ member))⟩

mutual
/-- Narrowing is reflexive on types with distinct names and well-formed enumeration members. -/
theorem narrower_self : ∀ (a : FieldType), a.DistinctNames → a.LiteralsWellFormed →
    a.narrower a = true
  | .string, _, _ | .integer, _, _ | .number, _, _ | .boolean, _, _ | .any, _, _ => rfl
  | .list a, names, literals => narrower_self a names.of_list literals.of_list
  | .map a, names, literals => narrower_self a names.of_map literals.of_map
  | .optional a, names, literals => narrower_self a names.of_optional literals.of_optional
  | .enum values, _, literals => by
    simp only [narrower, List.all_eq_true, List.any_eq_true]
    exact fun v member => ⟨v, member, literalEq_self (literals.members v member)⟩
  | .object ⟨_, fields⟩, names, literals =>
    containsFields_of_self _ (fun _ member => Schema.field?_of_mem names.schema member)
      (fieldsNarrower_self (fun _ member => names.field member)
        (fun _ member => literals.field member))

/-- Every field type that has distinct names and well-formed literals is narrower than
itself. -/
theorem fieldsNarrower_self : ∀ {fields : List Field}, (∀ f ∈ fields, f.type.DistinctNames) →
    (∀ f ∈ fields, f.type.LiteralsWellFormed) → ∀ f ∈ fields, f.type.narrower f.type = true
  | [], _, _ => by simp
  | ⟨_, _, _, _, _⟩ :: _, names, literals => by
    intro f member
    rcases List.mem_cons.mp member with rfl | later
    · exact narrower_self _ (names _ List.mem_cons_self) (literals _ List.mem_cons_self)
    · exact fieldsNarrower_self (fun g inRest => names g (List.mem_cons_of_mem _ inRest))
        (fun g inRest => literals g (List.mem_cons_of_mem _ inRest)) f later
end

/-! ### Transitivity -/

/-- A member the enumeration's wider primitive takes through `integer` is a number. -/
theorem number_acceptsLiteral_of_integer {v : Json} (accepts : integer.acceptsLiteral v = true) :
    number.acceptsLiteral v = true := by
  cases v <;> simp_all [acceptsLiteral]

/-- Through a primitive type, narrowing is transitive; through `integer`, from an exact type. -/
theorem narrower_trans_primitive {p : FieldType} (primitive : p.isPrimitive = true)
    {a b : FieldType} (exact : p = .integer → a.IntegerEnumsExact) (ab : a.narrower b = true)
    (bp : b.narrower p = true) : a.narrower p = true := by
  rcases (narrower_primitive_iff primitive).mp bp with rfl | ⟨rfl, rfl⟩ | ⟨members, rfl, accepted⟩
  · exact ab
  · -- through `integer` up to `number`
    rcases (narrower_primitive_iff rfl).mp ab with rfl | ⟨_, nope⟩ | ⟨values, rfl, integral⟩
    · rfl
    · cases nope
    · simp only [List.all_eq_true] at integral
      simpa [narrower, List.all_eq_true] using
        fun v member => number_acceptsLiteral_of_integer (integral v member)
  · -- through an enumeration: each member equals one the primitive takes
    obtain ⟨values, rfl⟩ := exists_enum_of_narrower ab
    simp only [narrower, List.all_eq_true, List.any_eq_true] at ab
    simp only [List.all_eq_true] at accepted
    have matched : ∀ v ∈ values, ∃ w, p.acceptsLiteral w = true ∧ literalEq v w = true :=
      fun v member => (ab v member).elim fun w ⟨inMembers, equal⟩ =>
        ⟨w, accepted w inMembers, equal⟩
    refine (narrower_primitive_iff primitive).mpr (.inr (.inr ⟨values, rfl, ?_⟩))
    rw [List.all_eq_true]
    by_cases isInteger : p = .integer
    · subst isInteger
      exact exact rfl values (by simp [enums]) matched
    · intro v member
      obtain ⟨w, accepts, equal⟩ := matched v member
      exact acceptsLiteral_of_literalEq isInteger equal accepts

/-- Through an enumeration, narrowing is transitive: literal equality is. -/
theorem narrower_trans_enum {a b : FieldType} {members : List Json} (ab : a.narrower b = true)
    (bc : b.narrower (.enum members) = true) : a.narrower (.enum members) = true := by
  obtain ⟨middle, rfl⟩ := exists_enum_of_narrower bc
  obtain ⟨values, rfl⟩ := exists_enum_of_narrower ab
  simp only [narrower, List.all_eq_true, List.any_eq_true] at ab bc ⊢
  intro v member
  obtain ⟨w, inMiddle, vw⟩ := ab v member
  obtain ⟨u, inMembers, wu⟩ := bc w inMiddle
  exact ⟨u, inMembers, literalEq_trans vw wu⟩

/-- Only optional types and `any` stand above an optional type. -/
theorem not_optional_of_narrower {a b : FieldType} (ab : a.narrower b = true) (notAny : b ≠ .any)
    (plain : ∀ b', b ≠ .optional b') : ∀ a', a ≠ .optional a' := by
  rintro a' rfl
  cases b <;> simp_all [narrower]

end FieldType

theorem Schema.contains_eq (haystack needle : Schema) :
    haystack.contains needle = haystack.containsFields needle.fields := by
  cases needle; rfl

/-- Containment field by field: each wanted field is found by its name, required where it is
wanted required, with a narrower type. -/
theorem Schema.containsFields_iff (s : Schema) (fields : List Field) :
    s.containsFields fields = true ↔
      ∀ f ∈ fields, ∃ found, s.field? f.name = some found ∧
        (!f.required || found.required) = true ∧ found.type.narrower f.type = true := by
  induction fields with
  | nil => simp [containsFields]
  | cons f rest ih =>
    obtain ⟨name, type, required, default, description⟩ := f
    simp only [containsFields, Bool.and_eq_true, ih, List.mem_cons, forall_eq_or_imp]
    cases s.field? name <;> simp

/-- Containing a single optional field asks only for a field of that name with a narrower
type. -/
theorem Schema.containsFields_ofOptional (s : Schema) (name : String) (t : FieldType) :
    s.containsFields [Field.ofOptional name t] =
      ((s.field? name).map fun found => found.type.narrower t).getD false := by
  simp only [Field.ofOptional, containsFields]
  cases s.field? name <;> simp

namespace FieldType

mutual
/-- Narrowing is transitive from every type whose enumerations are exact about integers, and
to every type that holds no `integer`: the one chain that fails goes through `integer` from an
enumeration that is not exact.  The recursion is on the widest type; record types go through
`containsFields_trans_of_safe`. -/
theorem narrower_trans_of_safe : ∀ (c : FieldType) {a b : FieldType},
    a.IntegerEnumsExact ∨ c.holdsInteger = false →
    a.narrower b = true → b.narrower c = true → a.narrower c = true
  | .any, a, _, _, _, _ => narrower_any a
  | .string, _, _, safe, ab, bc | .integer, _, _, safe, ab, bc
  | .number, _, _, safe, ab, bc | .boolean, _, _, safe, ab, bc =>
    narrower_trans_primitive rfl
      (fun isInteger => safe.resolve_right (by rw [isInteger]; decide)) ab bc
  | .enum _, _, _, _, ab, bc => narrower_trans_enum ab bc
  | .list c, _, _, safe, ab, bc => by
    obtain ⟨b, rfl⟩ := exists_list_of_narrower bc
    obtain ⟨a, rfl⟩ := exists_list_of_narrower ab
    exact narrower_trans_of_safe c (safe.imp IntegerEnumsExact.of_list id) ab bc
  | .map c, _, _, safe, ab, bc => by
    obtain ⟨b, rfl⟩ := exists_map_of_narrower bc
    obtain ⟨a, rfl⟩ := exists_map_of_narrower ab
    exact narrower_trans_of_safe c (safe.imp IntegerEnumsExact.of_map id) ab bc
  | .object ⟨title, fields⟩, _, _, safe, ab, bc => by
    obtain ⟨middle, rfl⟩ := exists_object_of_narrower bc
    obtain ⟨s, rfl⟩ := exists_object_of_narrower ab
    exact containsFields_trans_of_safe fields
      (safe.imp (fun exact _ member => exact.field member) id)
      ((Schema.contains_eq s middle) ▸ ab) bc
  | .optional c, a, b, safe, ab, bc => by
    -- the middle type is optional, `any`, or a plain type with a plain type below it
    by_cases anyMiddle : b = .any
    · subst anyMiddle
      exact narrower_of_any_narrower a bc
    cases b with
    | optional b =>
      cases a with
      | optional a => exact narrower_trans_of_safe c (safe.imp IntegerEnumsExact.of_optional id) ab bc
      | _ =>
        rw [narrower_optional (by simp)] at ab ⊢
        exact narrower_trans_of_safe c safe ab bc
    | _ =>
      rw [narrower_optional (by simp)] at bc
      rw [narrower_optional (not_optional_of_narrower ab anyMiddle (by simp))]
      exact narrower_trans_of_safe c safe ab bc

/-- Containment is transitive from a schema whose fields' types are exact about integers, and
to fields whose types hold no `integer`. -/
theorem containsFields_trans_of_safe : ∀ (fields : List Field) {s middle : Schema},
    (∀ f ∈ s.fields, f.type.IntegerEnumsExact) ∨ Schema.fieldsHoldInteger fields = false →
    s.containsFields middle.fields = true → middle.containsFields fields = true →
      s.containsFields fields = true
  | [], _, _, _, _, _ => rfl
  | ⟨name, type, required, default, description⟩ :: rest, s, middle, safe, below, above => by
    have parts : Schema.fieldsHoldInteger (⟨name, type, required, default, description⟩ :: rest) =
        false → type.holdsInteger = false ∧ Schema.fieldsHoldInteger rest = false := by
      simp [Schema.fieldsHoldInteger]
    simp only [Schema.containsFields, Bool.and_eq_true] at above ⊢
    obtain ⟨wanted, others⟩ := above
    refine ⟨?_, containsFields_trans_of_safe rest
      (safe.imp id (fun holds => (parts holds).2)) below others⟩
    cases foundMiddle : middle.field? name with
    | none => simp [foundMiddle] at wanted
    | some g =>
      simp only [foundMiddle, Bool.and_eq_true] at wanted
      obtain ⟨inMiddle, named⟩ := Schema.mem_of_field? foundMiddle
      obtain ⟨f, found, requiredBelow, narrowBelow⟩ :=
        (Schema.containsFields_iff s middle.fields).mp below g inMiddle
      rw [named] at found
      simp only [found, Bool.and_eq_true]
      refine ⟨?_, narrower_trans_of_safe type
        (safe.imp (fun exact => exact f (Schema.mem_of_field? found).1)
          (fun holds => (parts holds).1)) narrowBelow wanted.2⟩
      cases required <;> simp_all
end

/-- Narrowing is transitive from every type whose enumerations are exact about integers. -/
theorem narrower_trans (c : FieldType) {a b : FieldType} (exact : a.IntegerEnumsExact)
    (ab : a.narrower b = true) (bc : b.narrower c = true) : a.narrower c = true :=
  narrower_trans_of_safe c (.inl exact) ab bc

/-! ### Exactness is needed -/

/-- Members each equal to a member of some kind can all be matched in one list of that kind. -/
theorem exists_members_of_matched {values : List Json} {kind : Json → Prop}
    (matched : ∀ v ∈ values, ∃ w, kind w ∧ literalEq v w = true) :
    ∃ members : List Json, (∀ w ∈ members, kind w) ∧
      ∀ v ∈ values, ∃ w ∈ members, literalEq v w = true := by
  induction values with
  | nil => exact ⟨[], by simp, by simp⟩
  | cons v rest ih =>
    obtain ⟨w, isKind, equal⟩ := matched v List.mem_cons_self
    obtain ⟨members, allKind, covered⟩ :=
      ih (fun u member => matched u (List.mem_cons_of_mem _ member))
    refine ⟨w :: members, ?_, ?_⟩
    · simpa using ⟨isKind, allKind⟩
    · simpa [equal] using fun u member => .inr (covered u member)

/-- An enumeration that is not exact sits below the enumeration of integers it matches, which
sits below `integer`; it does not. -/
theorem enum_chain_of_not_exact {values : List Json} (inexact : ¬ IntegersExact values) :
    ∃ b c, (enum values).narrower b = true ∧ b.narrower c = true ∧
      (enum values).narrower c = false := by
  simp only [IntegersExact, Classical.not_imp, not_forall] at inexact
  obtain ⟨matched, v, member, notIntegral⟩ := inexact
  obtain ⟨members, integral, covered⟩ := exists_members_of_matched matched
  refine ⟨.enum members, .integer, ?_, ?_, ?_⟩
  · simpa [narrower, List.all_eq_true, List.any_eq_true] using covered
  · simpa [narrower, List.all_eq_true] using integral
  · simpa [narrower, List.all_eq_false] using ⟨v, member, by simpa using notIntegral⟩

/-- A record type with distinct names and one field whose type heads a failing chain: the
chain through single-field records, optional so that nothing else is asked. -/
theorem object_chain_of_field {s : Schema} (distinct : s.names.Nodup) {f : Field}
    (member : f ∈ s.fields) {b c : FieldType} (fb : f.type.narrower b = true)
    (bc : b.narrower c = true) (fc : f.type.narrower c = false) :
    ∃ b c, (object s).narrower b = true ∧ b.narrower c = true ∧
      (object s).narrower c = false := by
  have found := Schema.field?_of_mem distinct member
  have single : ∀ t, (Schema.field? ⟨none, [Field.ofOptional f.name t]⟩ f.name) =
      some (Field.ofOptional f.name t) := by
    simp [Schema.field?, Field.ofOptional]
  refine ⟨.object ⟨none, [Field.ofOptional f.name b]⟩, .object ⟨none, [Field.ofOptional f.name c]⟩,
    ?_, ?_, ?_⟩
  all_goals
    simp only [narrower, Schema.contains, Schema.containsFields_ofOptional, found, single]
    simpa [Field.ofOptional] using ‹_›

mutual
/-- Every type with distinct names that is not exact about integers heads a chain along which
narrowing is not transitive.  The recursion is on the type, down to an enumeration that is
not exact. -/
theorem exists_chain_of_not_exact : ∀ (a : FieldType), a.DistinctNames →
    (∃ values ∈ a.enums, ¬ IntegersExact values) →
      ∃ b c, a.narrower b = true ∧ b.narrower c = true ∧ a.narrower c = false
  | .string, _, inexact | .integer, _, inexact | .number, _, inexact | .boolean, _, inexact
  | .any, _, inexact => by simp [enums] at inexact
  | .enum values, _, inexact => by
    simp only [enums, List.mem_singleton, exists_eq_left] at inexact
    exact enum_chain_of_not_exact inexact
  | .list a, names, inexact => by
    obtain ⟨b, c, ab, bc, ac⟩ := exists_chain_of_not_exact a names.of_list inexact
    exact ⟨.list b, .list c, ab, bc, ac⟩
  | .map a, names, inexact => by
    obtain ⟨b, c, ab, bc, ac⟩ := exists_chain_of_not_exact a names.of_map inexact
    exact ⟨.map b, .map c, ab, bc, ac⟩
  | .optional a, names, inexact => by
    obtain ⟨b, c, ab, bc, ac⟩ := exists_chain_of_not_exact a names.of_optional inexact
    exact ⟨.optional b, .optional c, ab, bc, ac⟩
  | .object ⟨title, fields⟩, names, inexact => by
    obtain ⟨f, member, b, c, fb, bc, fc⟩ :=
      exists_field_chain fields (fun _ member => names.field member) inexact
    exact object_chain_of_field names.schema member fb bc fc

/-- Among fields with distinct names in their types, one whose type holds an enumeration that
is not exact heads a failing chain. -/
theorem exists_field_chain : ∀ (fields : List Field), (∀ f ∈ fields, f.type.DistinctNames) →
    (∃ values ∈ Schema.fieldEnums fields, ¬ IntegersExact values) →
      ∃ f ∈ fields, ∃ b c, f.type.narrower b = true ∧ b.narrower c = true ∧
        f.type.narrower c = false
  | [], _, inexact => by simp [Schema.fieldEnums] at inexact
  | ⟨name, type, required, default, description⟩ :: rest, names, inexact => by
    simp only [Schema.fieldEnums, List.mem_append] at inexact
    obtain ⟨values, inHead | inRest, notExact⟩ := inexact
    · exact ⟨_, List.mem_cons_self,
        exists_chain_of_not_exact type (names _ List.mem_cons_self) ⟨values, inHead, notExact⟩⟩
    · obtain ⟨f, member, chain⟩ :=
        exists_field_chain rest (fun g inRest => names g (List.mem_cons_of_mem _ inRest))
          ⟨values, inRest, notExact⟩
      exact ⟨f, List.mem_cons_of_mem _ member, chain⟩
end

/-! ### Narrowing is a preorder, with transitivity exactly from exact types -/

/-- On the types the program builds, narrowing is reflexive, and transitive from a type exactly
when every enumeration it holds is exact about integers. -/
theorem narrowing_preorder_exactly (a : FieldType) (names : a.DistinctNames)
    (literals : a.LiteralsWellFormed) :
    a.narrower a = true ∧
      (a.IntegerEnumsExact ↔
        ∀ b c, a.narrower b = true → b.narrower c = true → a.narrower c = true) := by
  refine ⟨narrower_self a names literals, fun exact b c => narrower_trans c exact, ?_⟩
  intro transitive
  by_contra notExact
  have inexact : ∃ values ∈ a.enums, ¬ IntegersExact values := by
    simpa [IntegerEnumsExact] using notExact
  obtain ⟨b, c, ab, bc, ac⟩ := exists_chain_of_not_exact a names inexact
  simp [transitive b c ab bc] at ac

/-- The enumeration of the double `1.0` is narrower than itself, and narrowing is not transitive
from it. -/
theorem narrowing_preorder_exactly_integral_double :
    (enum [.number (.float 1.0)]).DistinctNames ∧ (enum [.number (.float 1.0)]).LiteralsWellFormed ∧
      (enum [.number (.float 1.0)]).narrower (enum [.number (.float 1.0)]) = true ∧
      ((enum [.number (.float 1.0)]).IntegerEnumsExact ↔
        ∀ b c, (enum [.number (.float 1.0)]).narrower b = true → b.narrower c = true →
          (enum [.number (.float 1.0)]).narrower c = true) := by
  have names : (enum [.number (.float 1.0)]).DistinctNames := by
    simp [DistinctNames, schemas]
  have literals : (enum [.number (.float 1.0)]).LiteralsWellFormed := by
    refine ⟨?_, by simp [schemas]⟩
    simp only [enums, List.mem_singleton, forall_eq]
    simpa [Json.WellFormed, JsonNumber.WellFormed] using (by decide : (1.0 : Float).isFinite = true)
  exact ⟨names, literals, narrowing_preorder_exactly _ names literals⟩

/-- `[1.0]` is narrower than `[1]`, which is narrower than `integer`; `[1.0]` is not. -/
theorem narrower_not_transitive_through_integral_double :
    (enum [.number (.float 1.0)]).narrower (enum [.number (.int 1)]) = true ∧
      (enum [.number (.int 1)]).narrower integer = true ∧
      (enum [.number (.float 1.0)]).narrower integer = false := by
  decide

end FieldType

namespace Schema

/-- Containment is reflexive on schemas with distinct names and well-formed literals. -/
theorem contains_self (s : Schema) (names : (FieldType.object s).DistinctNames)
    (literals : (FieldType.object s).LiteralsWellFormed) : s.contains s = true :=
  FieldType.narrower_self (.object s) names literals

/-- Containment is transitive from a schema whose enumerations are exact about integers. -/
theorem contains_trans {s middle t : Schema} (exact : (FieldType.object s).IntegerEnumsExact)
    (below : s.contains middle = true) (above : middle.contains t = true) :
    s.contains t = true :=
  FieldType.narrower_trans (b := .object middle) (.object t) exact below above

/-- Containment is transitive to every schema that holds no `integer`, whatever the schemas
below it. -/
theorem contains_trans_of_integerFree {s middle t : Schema} (free : t.holdsInteger = false)
    (below : s.contains middle = true) (above : middle.contains t = true) :
    s.contains t = true :=
  FieldType.narrower_trans_of_safe (a := .object s) (b := .object middle) (.object t) (.inr free)
    below above

end Schema

end PromptTrainer
