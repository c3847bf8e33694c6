import PromptTrainer.StableSort

/-!
# Ranking by reward

Items are ranked by their rewards, highest first, unscored items last; items that compare
equal keep their order.  Two rewards compare by their values as doubles, and a NaN compares
equal to everything, so with NaN rewards the order is not a strict weak order and the
ranking depends on the steps of the sort (`StableSort`), which may also reject it.

* `Ranking.rank width reward items` is the ranking of items of `width` bytes, or `none`
  when the sort found the order inconsistent.
* `Ranking.top width reward k items` is its first `k` items.
* `Ranking.orderViolation` is the message of that rejection.
-/

namespace PromptTrainer
namespace Ranking

/-- Whether a reward strictly precedes another: a higher reward precedes a lower one, and a
reward precedes none. -/
def precedes : Option Float → Option Float → Bool
  | some x, some y => y < x
  | some _, none => true
  | none, _ => false

/-- The items ranked by reward, highest first, unscored last, for items of `width` bytes;
`none` when the sort found the order inconsistent. -/
def rank {α : Type} (width : Nat) (reward : α → Option Float) (items : List α) :
    Option (List α) :=
  let rewards := (items.map reward).toArray
  let table := items.toArray
  let lt i j := precedes (rewards.getD i none) (rewards.getD j none)
  (StableSort.sort width lt (List.range items.length)).map (fun order => order.filterMap (table[·]?))

/-- The first `k` items of the ranking. -/
def top {α : Type} (width : Nat) (reward : α → Option Float) (k : Nat) (items : List α) :
    Option (List α) :=
  (rank width reward items).map (·.take k)

/-- The size in bytes of a bare optional reward: a double and its tag. -/
def rewardWidth : Nat := 16

/-- The size in bytes of a set of instructions: a label and a list of lines (three words
each) and an optional reward. -/
def instructionsWidth : Nat := 64

/-- The size in bytes of a prediction: a label, two ordered maps of nine words each, and an
optional reward. -/
def predictionWidth : Nat := 184

/-- The message of a sort that found its order inconsistent. -/
def orderViolation : String :=
  "user-provided comparison function does not correctly implement a total order"

end Ranking
end PromptTrainer
