import PromptTrainer.Proofs.VariableJson
import PromptTrainer.Proofs.Pool
import PromptTrainer.Proofs.Normalization
/-!
# Predictions and instruction sets as records

A prediction becomes a record by checking its JSON form against the prediction shape, and a
record reads back as a prediction by decoding its data; instruction sets likewise, against the
instructions shape.  Checking changes nothing in these forms: the label is a string, the inputs
and outputs are maps of `any`, the instructions a list of strings and the reward an optional
number, and validation keeps each of them as it is.

Main statement: `recognized_records_read_back`.  Every prediction and every instruction set whose
reward is absent or finite becomes a record that its recognizer accepts and that reads back as
itself.
-/

namespace PromptTrainer

namespace FieldType

/-- A string passes as it is. -/
theorem validateType_string (s path : String) :
    validateType .string (.string s) path = (.string s, []) := rfl

/-- A map of `any` passes as it is, whatever its members. -/
theorem validateType_map_any (members : List (String × Json)) (path : String) :
    validateType (.map .any) (.object members) path = (.object members, []) := by
  simp [validateType, Function.comp_def]

/-- A list of strings passes as it is. -/
theorem validateType_strings (lines : List String) (path : String) :
    validateType (.list .string) (Json.ofStrings lines) path = (Json.ofStrings lines, []) := by
  have keeps : ∀ x ∈ lines.map Json.string, ∀ at_, validateType .string x at_ = (x, []) := by
    intro x member at_
    obtain ⟨s, -, rfl⟩ := List.mem_map.mp member
    exact validateType_string s at_
  unfold Json.ofStrings
  refine Prod.ext ?_ ?_
  · rw [validateType_list_fst]
    congr 1
    apply List.ext_getElem (by simp)
    intro i inFirst inSecond
    simp only [List.getElem_mapIdx, keeps _ (List.getElem_mem _)]
  · exact passes_list_iff.mpr (fun i within => by rw [keeps _ (List.getElem_mem within)])

end FieldType

namespace Prediction

/-- The prediction shape accepts the JSON form of every prediction and keeps its members as they
are. -/
theorem toRecord_eq (p : Prediction) :
    p.toRecord = .ok ⟨Shapes.prediction, [("label", .string p.label),
      ("inputs", .object p.inputs), ("outputs", .object p.outputs),
      ("reward", Reward.toJson p.reward)]⟩ := by
  simp [toRecord, Record.encodeWith, Record.construct, toJson, validateObject, validateFields,
    Shapes.prediction, Shapes.titled, Shapes.anyMap, Shapes.rewardField, Field.ofOptional,
    Field.ofRequired, Field.withDefault, Field.withDescription, Json.lookup, Schema.hasField,
    FieldType.validateType_map_any, FieldType.validateType_string, ↓validateType_rewardToJson]

/-- A prediction whose reward is absent or finite reads back from its record. -/
theorem ofRecord_toRecord {p : Prediction} (portable : Reward.isPortable p.reward = true) :
    ∃ r, p.toRecord = .ok r ∧ r.schema = Shapes.prediction ∧ ofRecord r = .ok p := by
  refine ⟨_, toRecord_eq p, rfl, ?_⟩
  simp only [ofRecord, Record.decodeWith]
  rw [show Json.object _ = p.toJson from rfl, Decode.prediction_toJson portable]

end Prediction

namespace Instructions

/-- The instructions shape accepts the JSON form of every instruction set and keeps its members
as they are. -/
theorem toRecord_eq (i : Instructions) :
    i.toRecord = .ok ⟨Shapes.instructions, [("label", .string i.label),
      ("instructions", Json.ofStrings i.lines), ("reward", Reward.toJson i.reward)]⟩ := by
  simp [toRecord, Record.encodeWith, Record.construct, toJson, validateObject, validateFields,
    Shapes.instructions, Shapes.titled, Shapes.rewardField, Field.ofOptional, Field.ofRequired,
    Field.withDefault, Field.withDescription, Json.lookup, Schema.hasField,
    FieldType.validateType_strings, FieldType.validateType_string, ↓validateType_rewardToJson]

/-- An instruction set whose reward is absent or finite reads back from its record. -/
theorem ofRecord_toRecord {i : Instructions} (portable : Reward.isPortable i.reward = true) :
    ∃ r, i.toRecord = .ok r ∧ r.schema = Shapes.instructions ∧ ofRecord r = .ok i := by
  refine ⟨_, toRecord_eq i, rfl, ?_⟩
  simp only [ofRecord, Record.decodeWith]
  rw [show Json.object _ = i.toJson from rfl, Decode.instructions_toJson portable]

end Instructions

/-- Every prediction and every instruction set whose reward is absent or finite becomes a record,
accepted by the prediction or the instructions recognizer, that reads back as itself. -/
theorem recognized_records_read_back :
    (∀ p : Prediction, Reward.isPortable p.reward = true →
      ∃ r, p.toRecord = .ok r ∧ Shapes.Recognizer.prediction.holds r.schema = true ∧
        Prediction.ofRecord r = .ok p) ∧
    (∀ i : Instructions, Reward.isPortable i.reward = true →
      ∃ r, i.toRecord = .ok r ∧ Shapes.Recognizer.instructions.holds r.schema = true ∧
        Instructions.ofRecord r = .ok i) := by
  have predictionShape : Shapes.Recognizer.prediction.holds Shapes.prediction = true := by decide
  have instructionsShape : Shapes.Recognizer.instructions.holds Shapes.instructions = true := by
    decide
  constructor
  · intro p portable
    obtain ⟨r, made, shape, back⟩ := Prediction.ofRecord_toRecord portable
    exact ⟨r, made, shape ▸ predictionShape, back⟩
  · intro i portable
    obtain ⟨r, made, shape, back⟩ := Instructions.ofRecord_toRecord portable
    exact ⟨r, made, shape ▸ instructionsShape, back⟩

/-- A scored prediction with an input and an output reads back from its record, and so does a
scored instruction set. -/
theorem recognized_records_read_back_scored :
    Reward.isPortable (some 0.5) = true ∧
      (∃ r, (Prediction.mk "Prediction" [("query", .string "2+2")] [("answer", .string "4")]
          (some 0.5)).toRecord = .ok r ∧ Shapes.Recognizer.prediction.holds r.schema = true ∧
        Prediction.ofRecord r =
          .ok (Prediction.mk "Prediction" [("query", .string "2+2")] [("answer", .string "4")]
            (some 0.5))) ∧
      ∃ r, (Instructions.mk "Instructions" ["be concise"] (some 0.5)).toRecord = .ok r ∧
        Shapes.Recognizer.instructions.holds r.schema = true ∧
        Instructions.ofRecord r = .ok (Instructions.mk "Instructions" ["be concise"] (some 0.5)) :=
  ⟨by decide, recognized_records_read_back.1 _ (by decide),
    recognized_records_read_back.2 _ (by decide)⟩

end PromptTrainer
