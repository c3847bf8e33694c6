import PromptTrainer.Proofs.VariableRecords
import PromptTrainer.Pipeline.Config
import PromptTrainer.Optimizer.Config
/-!
# Generators, chains of thought and the optimizer rebuilt from their configurations

A node reports its configuration as a JSON object with its model's portable configuration inside,
and `ofConfig` rebuilds it through a resolver of models.  The schemas are written as JSON-Schema
documents, which read back as themselves for every schema the program builds
(`Schema.readSchema_toJsonSchema`); names, instructions, prompt texts and flags are written as
plain JSON values; examples are written in their JSON form, which drops a reward that is not
finite.

Main statement: `configs_round_trip`.  Given a resolver that rebuilds a model with the same
configuration, every generator, chain of thought and optimizer is rebuilt from its configuration
with the same configuration, the optimizer's generation program (which is not read) aside.
-/

namespace PromptTrainer

/-! ### What the JSON forms carry -/

/-- A prediction as its JSON form carries it: a reward that is not finite is dropped. -/
def Prediction.asWritten (p : Prediction) : Prediction :=
  { p with reward := p.reward.filter Float.isFinite }

/-- Dropping a reward that is not finite does not change how it is written. -/
theorem Reward.toJson_filter (r : Option Float) :
    Reward.toJson (r.filter Float.isFinite) = Reward.toJson r := by
  cases r with
  | none => rfl
  | some x => by_cases finite : x.isFinite = true <;> simp [Reward.toJson, Option.filter, finite]

/-- A reward with what is not finite dropped is written as itself. -/
theorem Reward.isPortable_filter (r : Option Float) :
    Reward.isPortable (r.filter Float.isFinite) = true := by
  cases r with
  | none => rfl
  | some x =>
    by_cases finite : x.isFinite = true <;> simp [Reward.isPortable, Option.filter, finite]

/-- A prediction and the prediction as its JSON form carries it are written alike. -/
@[simp] theorem Prediction.toJson_asWritten (p : Prediction) : p.asWritten.toJson = p.toJson := by
  simp [asWritten, toJson, Reward.toJson_filter]

/-- Reading the JSON forms of examples gives them back as the forms carry them. -/
theorem Decode.examples_toJson (examples : List Prediction) :
    Decode.list Decode.prediction (.array (examples.map Prediction.toJson)) =
      .ok (examples.map Prediction.asWritten) := by
  have written : examples.map Prediction.toJson =
      (examples.map Prediction.asWritten).map Prediction.toJson := by
    simp [Function.comp_def]
  rw [written]
  refine Decode.list_map (fun p member => ?_)
  obtain ⟨q, -, rfl⟩ := List.mem_map.mp member
  exact Decode.prediction_toJson (Reward.isPortable_filter q.reward)

/-- An optional text written as a string or null is read back as it was. -/
theorem NodeConfig.optionalText_ofStringOption {config : Json} {key : String}
    {text : Option String} (found : config.get? key = some (Json.ofStringOption text)) :
    NodeConfig.optionalText config key = text := by
  cases text <;> simp [NodeConfig.optionalText, found, Json.ofStringOption]

namespace Generator

/-- A generator as its configuration rebuilds it: its model at the given slot, unbound, and its
examples as their JSON forms carry them. -/
def asRebuilt (g : Generator) (slot : Nat) : Generator :=
  { g with model := slot, bound := false, examples := g.examples.map Prediction.asWritten }

/-- A generator is rebuilt from its configuration with its model at the given slot, unbound, and
with its examples as their JSON forms carry them. -/
theorem ofConfig_config {resolve : Json → Except ModelError LanguageModel} (slot : Nat)
    {g : Generator} {modelConfig : Json} {m' : LanguageModel}
    (built : (FieldType.object g.outputSchema).Built) (resolved : resolve modelConfig = .ok m') :
    Generator.ofConfig resolve slot (g.config modelConfig) =
      .ok (g.asRebuilt slot, m') := by
  have schema : Schema.ofJsonSchema g.outputSchema.toJsonSchema = .ok g.outputSchema := by
    rw [Schema.ofJsonSchema]
    exact Schema.readSchema_toJsonSchema _ built (by omega) "$"
  have instructions : Decode.list Decode.string (Json.ofStrings g.instructions) =
      .ok g.instructions := Decode.list_map (fun _ _ => rfl)
  have template : NodeConfig.optionalText (g.config modelConfig) "prompt_template" =
      g.promptTemplate :=
    NodeConfig.optionalText_ofStringOption (by simp [config, Json.get?, Json.lookup])
  have system : NodeConfig.optionalText (g.config modelConfig) "static_system_prompt" =
      g.systemPrompt :=
    NodeConfig.optionalText_ofStringOption (by simp [config, Json.get?, Json.lookup])
  simp [ofConfig, asRebuilt, config, Json.get?, Json.lookup, resolved, NodeConfig.text,
    NodeConfig.schema, schema, NodeConfig.decoded, instructions, Decode.examples_toJson, bind,
    Except.bind, pure, Except.pure, Except.mapError]
  exact ⟨template, system⟩

/-- Rebuilding a generator leaves its configuration as it was. -/
theorem config_asRebuilt (g : Generator) (slot : Nat) (modelConfig : Json) :
    (g.asRebuilt slot).config modelConfig = g.config modelConfig := by
  simp [asRebuilt, config, Function.comp_def]

end Generator

/-- A count below `2 ^ 64` is read back as itself. -/
theorem JsonNumber.toUnsigned?_nat {n : Nat} (fits : n < 2 ^ 64) :
    JsonNumber.toUnsigned? (.int n) = some n := by
  have bound : (n : Int) ≤ JsonNumber.unsignedMax := by
    simp only [JsonNumber.unsignedMax]
    omega
  simp [JsonNumber.toUnsigned?, bound]

namespace ChainOfThought

/-- A chain of thought is rebuilt from its configuration with its generator rebuilt, given that
its count is a 64-bit number. -/
theorem ofConfig_config {resolve : Json → Except ModelError LanguageModel} (slot : Nat)
    {c : ChainOfThought} {modelConfig : Json} {m' : LanguageModel}
    (targetBuilt : (FieldType.object c.targetSchema).Built)
    (outputBuilt : (FieldType.object c.generator.outputSchema).Built) (fits : c.k < 2 ^ 64)
    (resolved : resolve modelConfig = .ok m') :
    ChainOfThought.ofConfig resolve slot ((Node.chain c).config fun _ => modelConfig) =
      .ok ({ c with generator := c.generator.asRebuilt slot }, m') := by
  have target : Schema.ofJsonSchema c.targetSchema.toJsonSchema = .ok c.targetSchema := by
    rw [Schema.ofJsonSchema]
    exact Schema.readSchema_toJsonSchema _ targetBuilt (by omega) "$"
  simp [ofConfig, Node.config, Json.get?, Json.lookup,
    Generator.ofConfig_config slot outputBuilt resolved, Json.nat, JsonNumber.toUnsigned?_nat fits,
    NodeConfig.text, NodeConfig.schema, target, bind, Except.bind, pure, Except.pure,
    Except.mapError]

end ChainOfThought

namespace Optimizer

/-- The optimizer is rebuilt from its configuration with its model, if any, at the given slot and
no generation program, given that its `kBest` is a positive 64-bit number. -/
theorem ofConfig_config {resolve : Json → Except ModelError LanguageModel} (slot : Nat)
    {o : Optimizer} {modelConfig : Json} {m' : LanguageModel} (notNull : modelConfig ≠ .null)
    (resolved : resolve modelConfig = .ok m') (positive : 1 ≤ o.kBest) (fits : o.kBest < 2 ^ 64) :
    Optimizer.ofConfig resolve slot (o.config fun _ => modelConfig) =
      .ok ({ o with model := o.model.map (fun _ => slot), program := none },
        o.model.map (fun _ => m')) := by
  have lines : Decode.list Decode.string (Json.ofStrings o.metaInstructions) =
      .ok o.metaInstructions := Decode.list_map (fun _ _ => rfl)
  obtain ⟨name, description, kBest, model, metaLines, program⟩ := o
  cases model with
  | none =>
    simp [ofConfig, config, Json.get?, Json.lookup, Json.nat, JsonNumber.toUnsigned?_nat fits,
      withKBest, lines, bind, Except.bind, pure, Except.pure]
    exact positive
  | some i =>
    simp [ofConfig, config, Json.get?, Json.lookup, Json.nat, JsonNumber.toUnsigned?_nat fits,
      withKBest, lines, resolved, bind, Except.bind, pure, Except.pure, Except.mapError]
    exact positive

/-- Rebuilding the optimizer leaves its configuration as it was, the generation program aside. -/
theorem config_rebuilt (o : Optimizer) (slot : Nat) {modelConfig modelConfig' : Json}
    (sameConfig : modelConfig' = modelConfig) :
    ({ o with model := o.model.map (fun _ => slot), program := none } : Optimizer).config
        (fun _ => modelConfig') =
      ({ o with program := none } : Optimizer).config fun _ => modelConfig := by
  cases o.model <;> simp [config, sameConfig]

end Optimizer

/-- The portable configuration of a language model is an object, never null. -/
theorem LanguageModel.config_ne_null (m : LanguageModel) : m.config ≠ .null := by
  cases m <;> simp [LanguageModel.config, ScriptedModel.config, HttpModel.config]

/-- With a resolver that rebuilds a model with the same configuration, every generator, chain of
thought and optimizer is rebuilt from its configuration, and the rebuilt one reports the same
configuration: the optimizer without its generation program, which is not read.  The schemas are
ones the program builds, and the counts are 64-bit numbers, `kBest` at least one as the optimizer
keeps it. -/
theorem configs_round_trip {resolve : Json → Except ModelError LanguageModel} (slot : Nat)
    {m m' : LanguageModel} (resolved : resolve m.config = .ok m')
    (sameConfig : m'.config = m.config) :
    (∀ g : Generator, (FieldType.object g.outputSchema).Built →
      Generator.ofConfig resolve slot (g.config m.config) = .ok (g.asRebuilt slot, m') ∧
        (g.asRebuilt slot).config m'.config = g.config m.config) ∧
    (∀ c : ChainOfThought, (FieldType.object c.targetSchema).Built →
      (FieldType.object c.generator.outputSchema).Built → c.k < 2 ^ 64 →
      ChainOfThought.ofConfig resolve slot ((Node.chain c).config fun _ => m.config) =
          .ok ({ c with generator := c.generator.asRebuilt slot }, m') ∧
        (Node.chain { c with generator := c.generator.asRebuilt slot }).config
            (fun _ => m'.config) = (Node.chain c).config fun _ => m.config) ∧
    (∀ o : Optimizer, 1 ≤ o.kBest → o.kBest < 2 ^ 64 →
      Optimizer.ofConfig resolve slot (o.config fun _ => m.config) =
          .ok ({ o with model := o.model.map (fun _ => slot), program := none },
            o.model.map (fun _ => m')) ∧
        ({ o with model := o.model.map (fun _ => slot), program := none } : Optimizer).config
            (fun _ => m'.config) =
          ({ o with program := none } : Optimizer).config fun _ => m.config) := by
  refine ⟨fun g built => ?_, fun c targetBuilt outputBuilt fits => ?_,
    fun o positive fits => ?_⟩
  · refine ⟨Generator.ofConfig_config slot built resolved, ?_⟩
    rw [sameConfig, Generator.config_asRebuilt]
  · refine ⟨ChainOfThought.ofConfig_config slot targetBuilt outputBuilt fits resolved, ?_⟩
    simp [Node.config, sameConfig, Generator.config_asRebuilt]
  · have notNull := LanguageModel.config_ne_null m
    exact ⟨Optimizer.ofConfig_config slot notNull resolved positive fits,
      Optimizer.config_rebuilt o slot sameConfig⟩

/-- A generator answering entities, a chain of thought over it and an optimizer with three best
candidates, all on one scripted model, are rebuilt by a resolver that gives that model back. -/
theorem configs_round_trip_scripted :
    (FieldType.object Shapes.entity).Built ∧
      Generator.ofConfig (fun _ => .ok (.scripted { name := "meta-model" })) 0
          (Generator.config { name := "answer", outputSchema := Shapes.entity, model := 0 }
            (LanguageModel.scripted { name := "meta-model" }).config) =
        .ok (Generator.asRebuilt { name := "answer", outputSchema := Shapes.entity, model := 0 } 0,
          .scripted { name := "meta-model" }) ∧
      ChainOfThought.ofConfig (fun _ => .ok (.scripted { name := "meta-model" })) 0
          ((Node.chain ⟨"qa", 1, Shapes.entity,
              { name := "qa_generator", outputSchema := Shapes.entity, model := 0 }⟩).config
            fun _ => (LanguageModel.scripted { name := "meta-model" }).config) =
        .ok (⟨"qa", 1, Shapes.entity,
            Generator.asRebuilt
              { name := "qa_generator", outputSchema := Shapes.entity, model := 0 } 0⟩,
          .scripted { name := "meta-model" }) ∧
      Optimizer.ofConfig (fun _ => .ok (.scripted { name := "meta-model" })) 0
          (Optimizer.config { kBest := 3, model := some 0 }
            fun _ => (LanguageModel.scripted { name := "meta-model" }).config) =
        .ok ({ kBest := 3, model := some 0 }, some (.scripted { name := "meta-model" })) := by
  have built : (FieldType.object Shapes.entity).Built := by
    intro held member
    simp only [FieldType.schemas, Schema.schemas, Schema.fieldSchemas, Shapes.entity, Shapes.titled,
      Shapes.entityLabel, Field.ofRequired, Field.withDescription, List.append_nil, List.mem_cons,
      List.not_mem_nil, or_false] at member
    subst member
    rfl
  have rebuilt := @configs_round_trip (fun _ => .ok (.scripted { name := "meta-model" })) 0
    (.scripted { name := "meta-model" }) (.scripted { name := "meta-model" }) rfl rfl
  exact ⟨built, (rebuilt.1 _ built).1, (rebuilt.2.1 _ built built (by decide)).1,
    (rebuilt.2.2 _ (by decide) (by decide)).1⟩

end PromptTrainer
