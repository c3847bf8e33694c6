import PromptTrainer.Request.Schemas
import PromptTrainer.Variable.Codec
import PromptTrainer.Ranking
/-!
# Requests on rewards, predictions and instructions

Answers to the requests that rank rewards, check a reward, and take a prediction or an
instruction set to its record and back.
-/

namespace PromptTrainer
namespace Request

/-- A decoder's refusal as the outcome of a request. -/
def liftDecode {α : Type} : Decode.Result α → Outcome α
  | .ok a => .ok a
  | .error message => .error (.undecodable message)

/-- An optional reward given as a number, a non-finite name, or null. -/
def readReward : Json → Outcome (Option Float)
  | .null => .ok none
  | v => (readFloat v).map some

/-- The ranking of a list of rewards, with the first `k` of it (all by default): as
positions in the list, or with `plain` as the rewards themselves. -/
def rankRewards (req : Json) : Outcome Json := do
  let rewards ← match req.get? "rewards" with
    | some (.array items) => items.mapM readReward
    | _ => .error (.malformed "rewards must be a list")
  let k ← match req.get? "k" with
    | none | some .null => .ok rewards.length
    | some _ => natField req "k"
  let plain ← boolField req "plain" false
  let indexed := (List.range rewards.length).zip rewards
  let width := if plain then Ranking.rewardWidth else Ranking.instructionsWidth
  let ranked ← match Ranking.rank width Prod.snd indexed with
    | some ranked => .ok ranked
    | none => .error (.aborted Ranking.orderViolation)
  let shown : List (Nat × Option Float) → Json := fun items =>
    if plain then .array (items.map (fun item => Reward.toJson item.2))
    else .array (items.map (fun item => Json.nat item.1))
  .ok (.object [("ranked", shown ranked), ("top_k", shown (ranked.take k))])

/-- Whether a reward is valid. -/
def rewardValidity (req : Json) : Outcome Json := do
  let r ← readFloat (← field req "reward")
  .ok (.object [("valid", .bool (Reward.isValid r))])

/-- A prediction's record, the prediction read back from it, and whether the two are
equal. -/
def predictionRecord (req : Json) : Outcome Json := do
  let p ← liftDecode (Decode.prediction (← field req "prediction"))
  let r ← liftRecord p.toRecord
  let back ← liftRecord (Prediction.ofRecord r)
  .ok (.object [("value", dumpRecord r), ("back", Prediction.toJson back),
    ("equal", .bool (Prediction.beq back p))])

/-- An instruction set's record, the set read back from it, and whether the two are
equal. -/
def instructionsRecord (req : Json) : Outcome Json := do
  let i ← liftDecode (Decode.instructions (← field req "instructions"))
  let r ← liftRecord i.toRecord
  let back ← liftRecord (Instructions.ofRecord r)
  .ok (.object [("value", dumpRecord r), ("back", Instructions.toJson back),
    ("equal", .bool (Instructions.beq back i))])

end Request
end PromptTrainer
