import PromptTrainer.Proofs.RecordInvariant
import PromptTrainer.Pipeline.Node
/-!
# The schema operations keep schemas well formed

A schema is well formed when every schema it holds, itself and those nested in its field types
at any depth, is one `Schema.build` accepts: its names are distinct and each default passes its
field's type (`FieldType.Built`).  With literals the JSON data model can hold
(`FieldType.LiteralsWellFormed`: finite doubles, 64-bit integers, objects with distinct keys)
this is `FieldType.WellBuilt`, and every operation that makes a schema keeps it.

* `Schema.build` checks the names and the defaults of the fields it is given, and nothing
  deeper: nested schemas are well formed because the field types were.
* A composition keeps the left type of a shared field and may take the right default, which
  passes the left type because equal types accept the same values
  (`FieldType.WellBuilt.compose`).
* Masking and keeping select fields, in order (`FieldType.WellBuilt.filter`).
* The JSON-Schema reader builds every schema it reads with `Schema.build`
  (`Schema.ofJsonSchema_wellBuilt`).
* A title changes no field.
* The thinking fields of a chain of thought are required strings named `thinking`,
  `thinking_1`, `thinking_2`, ...; the names are distinct because decimal numerals of distinct
  numbers are (`thinkingName_injective`).

Main statement: `Schema.operations_keep_wellBuilt`.
-/

namespace PromptTrainer

/-! ### Thinking fields -/

/-- Decimal numerals of distinct numbers are distinct: reading the digits back gives the
number. -/
theorem toString_nat_injective : Function.Injective (toString : Nat → String) := by
  intro i j same
  have digits : Nat.toDigits 10 i = Nat.toDigits 10 j := by
    simpa using congrArg String.toList same
  calc i = Nat.ofDigitChars 10 (Nat.toDigits 10 i) 0 := Nat.ofDigitChars_ten_toDigits.symm
    _ = Nat.ofDigitChars 10 (Nat.toDigits 10 j) 0 := by rw [digits]
    _ = j := Nat.ofDigitChars_ten_toDigits

/-- Thinking fields at distinct positions have distinct names. -/
theorem thinkingName_injective : Function.Injective thinkingName := by
  intro i j same
  have bare : "thinking".length = 8 := rfl
  have prefixed : "thinking_".length = 9 := rfl
  by_cases first : i = 0 <;> by_cases second : j = 0
  · rw [first, second]
  · have lengths := congrArg String.length same
    simp [thinkingName, first, second, bare, prefixed] at lengths
    omega
  · have lengths := congrArg String.length same
    simp [thinkingName, first, second, bare, prefixed] at lengths
    omega
  · simp only [thinkingName, first, second, if_false] at same
    exact toString_nat_injective ((String.append_right_inj "thinking_").mp same)

/-- The thinking fields are named after their positions, in order. -/
theorem thinkingSchema_names (k : Nat) :
    (thinkingSchema k).names = (List.range k).map thinkingName := by
  simp only [Schema.names, thinkingSchema, List.map_map]
  rfl

/-- The thinking fields carry distinct names. -/
theorem thinkingSchema_names_nodup (k : Nat) : (thinkingSchema k).names.Nodup := by
  rw [thinkingSchema_names]
  exact List.nodup_range.map (fun i j same => thinkingName_injective same)

/-- The thinking fields of a chain of thought make a well-formed schema, for every number of
them: required strings with distinct names and no defaults. -/
theorem thinkingSchema_wellBuilt (k : Nat) : (FieldType.object (thinkingSchema k)).WellBuilt := by
  have distinct := thinkingSchema_names_nodup k
  have shape : ∀ f ∈ (thinkingSchema k).fields, f.type = .string ∧ f.default = none := by
    intro f member
    obtain ⟨i, -, rfl⟩ := List.mem_map.mp member
    exact ⟨rfl, rfl⟩
  refine FieldType.WellBuilt.object
    ((Schema.accepted_iff _).mpr ⟨distinct, fun f member => ?_⟩)
    (fun f member => ?_) (fun f member d given => ?_)
  · simp [Field.checkDefault, (shape f member).2]
  · rw [(shape f member).1]
    exact FieldType.WellBuilt.of_leaf rfl rfl
  · rw [(shape f member).2] at given
    cases given

namespace Schema

/-! ### Building and titling -/

/-- A schema built from fields whose types are well formed, with well-formed defaults, is well
formed: the build checks the names and defaults, and the types bring their nested schemas. -/
theorem build_wellBuilt {fields : List Field} {s : Schema}
    (types : ∀ f ∈ fields, f.type.WellBuilt ∧ ∀ d ∈ f.default, d.WellFormed)
    (built : build fields = .ok s) : (FieldType.object s).WellBuilt := by
  obtain ⟨rfl, distinct, checks⟩ := (build_eq_ok_iff fields).mp built
  exact FieldType.WellBuilt.object ((accepted_iff _).mpr ⟨by simpa [names] using distinct, checks⟩)
    (fun f member => (types f member).1) (fun f member => (types f member).2)

/-- A title changes no field, so a titled well-formed schema is well formed. -/
theorem withTitle_wellBuilt {s : Schema} (built : (FieldType.object s).WellBuilt)
    (title : String) : (FieldType.object (s.withTitle title)).WellBuilt :=
  FieldType.WellBuilt.object built.1.schema (fun _ member => built.field member)
    (fun _ member _ given => built.2.default member given)

/-! ### Every operation -/

/-- Every operation that makes a schema keeps schemas well formed, with distinct names at every
depth and defaults that pass their fields' types: building from fields of well-formed types,
composing, masking, keeping, reading a JSON-Schema document, titling, and the thinking fields of
a chain of thought.  In particular a composition never declares a name twice, and a default it
takes from the right operand passes the left operand's equal type. -/
theorem operations_keep_wellBuilt :
    (∀ (fields : List Field) (s : Schema),
        (∀ f ∈ fields, f.type.WellBuilt ∧ ∀ d ∈ f.default, d.WellFormed) →
        build fields = .ok s → (FieldType.object s).WellBuilt) ∧
    (∀ a b s : Schema, (FieldType.object a).WellBuilt → (FieldType.object b).WellBuilt →
        a.compose b = .ok s → (FieldType.object s).WellBuilt) ∧
    (∀ (s s' : Schema) (names : List String), (FieldType.object s).WellBuilt →
        s.mask names = .ok s' → (FieldType.object s').WellBuilt) ∧
    (∀ (s s' : Schema) (names : List String), (FieldType.object s).WellBuilt →
        s.keep names = .ok s' → (FieldType.object s').WellBuilt) ∧
    (∀ (doc : Json) (s : Schema), doc.WellFormed → ofJsonSchema doc = .ok s →
        (FieldType.object s).WellBuilt) ∧
    (∀ (s : Schema) (title : String), (FieldType.object s).WellBuilt →
        (FieldType.object (s.withTitle title)).WellBuilt) ∧
    ∀ k, (FieldType.object (thinkingSchema k)).WellBuilt := by
  refine ⟨fun _ _ types built => build_wellBuilt types built,
    fun _ _ _ left right composed => left.compose right composed, ?_, ?_,
    fun _ _ wf read => ofJsonSchema_wellBuilt read wf,
    fun _ title built => withTitle_wellBuilt built title, thinkingSchema_wellBuilt⟩
  · intro s s' names built masked
    obtain ⟨kept, rfl⟩ := mask_eq_ok masked
    exact built.filter _ kept
  · intro s s' names built chosen
    obtain ⟨kept, rfl⟩ := keep_eq_ok chosen
    exact built.filter _ kept

/-- Composing an optional enumeration of `1` with an equal one of `1.0` that has the default
`1.0`: the composition keeps the left type and takes the right default, and is well formed. -/
theorem operations_keep_wellBuilt_shared_default :
    (FieldType.object ⟨none, [Field.ofOptional "x" (.enum [.number (.int 1)])]⟩).WellBuilt ∧
    (FieldType.object ⟨none, [(Field.ofOptional "x" (.enum [.number (.float 1.0)])).withDefault
      (.number (.float 1.0))]⟩).WellBuilt ∧
    Schema.compose ⟨none, [Field.ofOptional "x" (.enum [.number (.int 1)])]⟩
      ⟨none, [(Field.ofOptional "x" (.enum [.number (.float 1.0)])).withDefault
        (.number (.float 1.0))]⟩ =
      .ok ⟨none, [(Field.ofOptional "x" (.enum [.number (.int 1)])).withDefault
        (.number (.float 1.0))]⟩ ∧
    (FieldType.object ⟨none, [(Field.ofOptional "x" (.enum [.number (.int 1)])).withDefault
      (.number (.float 1.0))]⟩).WellBuilt := by
  have one : (Json.number (.float 1.0)).WellFormed := by
    show (1.0 : Float).isFinite = true
    decide
  have left : (FieldType.object ⟨none, [Field.ofOptional "x" (.enum [.number (.int 1)])]⟩).WellBuilt :=
    FieldType.WellBuilt.object rfl
      (fun f member => by
        simp only [List.mem_singleton] at member
        subst member
        exact FieldType.WellBuilt.enum (by simp [Json.WellFormed, JsonNumber.WellFormed,
          JsonNumber.signedMin, JsonNumber.unsignedMax]))
      (fun f member d given => by
        simp only [List.mem_singleton] at member
        subst member
        cases given)
  have right : (FieldType.object ⟨none, [(Field.ofOptional "x" (.enum [.number (.float 1.0)])).withDefault
      (.number (.float 1.0))]⟩).WellBuilt :=
    FieldType.WellBuilt.object rfl
      (fun f member => by
        simp only [List.mem_singleton] at member
        subst member
        exact FieldType.WellBuilt.enum (by simpa using one))
      (fun f member d given => by
        simp only [List.mem_singleton] at member
        subst member
        cases given
        exact one)
  have composed : Schema.compose ⟨none, [Field.ofOptional "x" (.enum [.number (.int 1)])]⟩
      ⟨none, [(Field.ofOptional "x" (.enum [.number (.float 1.0)])).withDefault
        (.number (.float 1.0))]⟩ =
      .ok ⟨none, [(Field.ofOptional "x" (.enum [.number (.int 1)])).withDefault
        (.number (.float 1.0))]⟩ := by rfl
  exact ⟨left, right, composed, operations_keep_wellBuilt.2.1 _ _ _ left right composed⟩

end Schema

end PromptTrainer
