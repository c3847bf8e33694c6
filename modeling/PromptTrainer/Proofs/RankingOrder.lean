import PromptTrainer.Proofs.Pool
import PromptTrainer.Proofs.StableQuicksort
/-!
# Rankings are stable descending sorts

A ranking by reward sorts the positions of the items with the stable sort (`StableSort.sort`),
one position preceding another when its reward is higher, or when it has a reward and the other
none.  With comparable rewards (absent, or not NaN) this is a strict weak order, so the sort
sorts the positions stably (`StableSort.sort_sortsTo`): every position once, none after one it
strictly precedes, and positions that tie in increasing order.  Read back on the items
(`RanksBefore`):

* scored items come before unscored ones;
* scored rewards do not increase;
* items of equal rewards keep their order: two unscored items, or two rewards equal as doubles,
  `0.0` and `-0.0` among them (`Reward.equal`);
* the best `k` items are the first `k` of the ranking.

So the pool generation is shown holds the best `kBest` candidates and the best `kBest`
predictions of a variable's full lists, in this order.

Main statement: `Ranking.rank_stable_descending`.
-/

namespace PromptTrainer

/-- Whether two optional rewards are equal: both absent, or both present and equal as doubles. -/
def Reward.equal : Option Float → Option Float → Bool
  | some x, some y => x == y
  | none, none => true
  | _, _ => false

namespace Ranking

/-- Equal rewards precede neither the other. -/
theorem not_precedes_of_equal {a b : Option Float} (equal : Reward.equal a b = true) :
    precedes a b = false ∧ precedes b a = false := by
  cases a with
  | none =>
    cases b with
    | none => exact ⟨rfl, rfl⟩
    | some y => cases equal
  | some x =>
    cases b with
    | none => cases equal
    | some y =>
      obtain ⟨below, above⟩ := Ieee.not_lt_of_beq equal
      simp [precedes, below, above]

/-- Position `i` may come before position `j` in a ranking of `items` by `reward`: after an
unscored item only unscored ones, after a scored one no higher reward, and of two items with
equal rewards the earlier first. -/
def RanksBefore {α : Type} (reward : α → Option Float) (items : List α)
    (i j : Fin items.length) : Prop :=
  (reward items[i] = none → reward items[j] = none) ∧
    (∀ x y, reward items[i] = some x → reward items[j] = some y → y ≤ x) ∧
    (Reward.equal (reward items[i]) (reward items[j]) = true → i < j)

/-- `ranked` ranks `items` by `reward`: it lists the items at the positions of `order`, which
holds every position once, in an order `RanksBefore` allows. -/
def IsRanking {α : Type} (reward : α → Option Float) (items ranked : List α) : Prop :=
  ∃ order : List (Fin items.length), order.Perm (List.finRange items.length) ∧
    order.Pairwise (RanksBefore reward items) ∧ ranked = order.map (items[·])

section Order

variable {α : Type} {reward : α → Option Float} {items : List α}

/-- Two positions in the order the sort leaves them: the later one does not strictly precede
the earlier, and if neither precedes the other, the earlier is the smaller. -/
theorem ranksBefore_of_sorted (comparable : ∀ x ∈ items, Reward.isComparable (reward x) = true)
    {i j : Fin items.length} (ordered : precedes (reward items[j]) (reward items[i]) = false)
    (rising : precedes (reward items[i]) (reward items[j]) = false →
      precedes (reward items[j]) (reward items[i]) = false → i.val < j.val) :
    RanksBefore reward items i j := by
  have notNaN : ∀ (k : Fin items.length) x, reward items[k] = some x → x.isNaN = false := by
    intro k x scored
    have := comparable items[k] (List.getElem_mem _)
    rw [scored] at this
    simpa [Reward.isComparable] using this
  refine ⟨fun unscored => ?_, fun x y scoredI scoredJ => ?_, fun equal => ?_⟩
  · rw [unscored] at ordered
    cases scored : reward items[j] with
    | none => rfl
    | some y =>
      rw [scored] at ordered
      cases ordered
  · rw [scoredI, scoredJ] at ordered
    have notBelow : ¬ x < y := by simpa [precedes] using ordered
    exact Ieee.le_of_not_lt (notNaN i x scoredI) (notNaN j y scoredJ) notBelow
  · obtain ⟨first, second⟩ := not_precedes_of_equal equal
    exact rising first second

/-- A listing of the numbers below `n`, each once, lists positions of type `Fin n`. -/
theorem exists_fin_of_perm_range {n : Nat} {sorted : List Nat}
    (perm : sorted.Perm (List.range n)) :
    ∃ order : List (Fin n), order.map Fin.val = sorted ∧ order.Perm (List.finRange n) := by
  have below : ∀ i ∈ sorted, i < n := fun i member => List.mem_range.mp (perm.mem_iff.mp member)
  have values : (sorted.pmap Fin.mk below).map Fin.val = sorted := by simp [List.map_pmap]
  have nodup : (sorted.pmap Fin.mk below).Nodup :=
    List.Nodup.of_map Fin.val (by rw [values]; exact perm.nodup_iff.mpr List.nodup_range)
  refine ⟨sorted.pmap Fin.mk below, values,
    (List.perm_ext_iff_of_nodup nodup (List.nodup_finRange n)).mpr fun i => ?_⟩
  simp only [List.mem_finRange, iff_true]
  have listed : i.val ∈ (sorted.pmap Fin.mk below).map Fin.val := by
    rw [values]
    exact perm.mem_iff.mpr (List.mem_range.mpr i.isLt)
  obtain ⟨j, member, same⟩ := List.mem_map.mp listed
  rwa [Fin.ext same] at member

/-- Items whose rewards are comparable have a ranking, and their best `k` items are its first
`k`. -/
theorem exists_ranking (width : Nat)
    (comparable : ∀ x ∈ items, Reward.isComparable (reward x) = true) :
    ∃ ranked, IsRanking reward items ranked ∧ rank width reward items = some ranked ∧
      ∀ k, top width reward k items = some (ranked.take k) := by
  have weak : StableSort.WeakOrder (fun i j => precedes ((items.map reward).toArray.getD i none)
      ((items.map reward).toArray.getD j none)) :=
    weakOrder_of_comparable fun r member => by
      obtain ⟨x, present, rfl⟩ := List.mem_map.mp (by simpa using member)
      exact comparable x present
  obtain ⟨sorted, sortedEq, perm, ordered, rising⟩ :=
    StableSort.sort_sortsTo width weak (StableSort.rising_of_increasing List.pairwise_lt_range)
  obtain ⟨order, values, orderPerm⟩ := exists_fin_of_perm_range perm
  have atPosition : ∀ i : Fin items.length,
      (items.map reward).toArray.getD i none = reward items[i] := by
    intro i
    simp [Array.getD]
  have listed : sorted.filterMap (fun i => items.toArray[i]?) = order.map (items[·]) := by
    have found : ((fun i => items.toArray[i]?) ∘ Fin.val) =
        some ∘ (fun i : Fin items.length => items[i]) := funext fun i => by simp
    rw [← values, List.filterMap_map, found, List.filterMap_eq_map]
  have ranked : rank width reward items = some (order.map (items[·])) := by
    unfold rank
    dsimp only
    rw [sortedEq, Option.map_some, listed]
  refine ⟨order.map (items[·]), ⟨order, orderPerm, ?_, rfl⟩, ranked, fun k => ?_⟩
  · rw [← values] at ordered rising
    simp only [StableSort.Ordered, StableSort.Rising, List.pairwise_map, atPosition]
      at ordered rising
    exact (ordered.and rising).imp fun both =>
      ranksBefore_of_sorted comparable both.1 both.2
  · unfold top
    rw [ranked, Option.map_some]

end Order

/-- Rankings of items whose rewards are comparable are stable descending sorts: every item once,
scored items first, scored rewards not increasing, items of equal rewards (two absent ones, or
rewards equal as doubles) in their order, and the best `k` items the first `k` of the ranking.
So the pool generation is shown holds the best `kBest` candidates and the best `kBest`
predictions of a variable's full lists, ranked. -/
theorem rank_stable_descending :
    (∀ {α : Type} (width : Nat) (reward : α → Option Float) (items : List α),
      (∀ x ∈ items, Reward.isComparable (reward x) = true) →
      ∃ ranked, IsRanking reward items ranked ∧ rank width reward items = some ranked ∧
        ∀ k, top width reward k items = some (ranked.take k)) ∧
    ∀ (o : Optimizer) (v : Variable), v.RewardsComparable →
      ∃ candidates predictions data,
        IsRanking Instructions.reward v.candidates candidates ∧
        IsRanking Prediction.reward v.predictions predictions ∧
        Record.construct Shapes.optimizationInput
            (.object [("instructions_candidates",
                .array ((candidates.take o.kBest).map Instructions.toJson)),
              ("predictions", .array ((predictions.take o.kBest).map Prediction.toJson))]) =
          .ok ⟨Shapes.optimizationInput, data⟩ ∧
        o.pool v = some (.ok ⟨Shapes.optimizationInput, data⟩) := by
  refine ⟨fun width reward items comparable => exists_ranking width comparable, ?_⟩
  intro o v comparable
  obtain ⟨candidates, candidatesRanked, -, candidatesTop⟩ :=
    exists_ranking instructionsWidth comparable.1
  obtain ⟨predictions, predictionsRanked, -, predictionsTop⟩ :=
    exists_ranking predictionWidth comparable.2
  obtain ⟨data, accepted⟩ := Optimizer.construct_optimizationInput (candidates.take o.kBest)
    (predictions.take o.kBest)
  refine ⟨candidates, predictions, data, candidatesRanked, predictionsRanked, accepted, ?_⟩
  simp only [Optimizer.pool, Optimizer.poolValue, candidatesTop, predictionsTop, accepted]

/-- Three rewards, one of them absent, and a variable with neither candidates nor predictions. -/
theorem rank_stable_descending_three_rewards :
    (∀ x ∈ [some 0.5, none, some 2.0], Reward.isComparable x = true) ∧
    (∃ ranked, IsRanking id [some 0.5, none, some 2.0] ranked ∧
      rank rewardWidth id [some 0.5, none, some 2.0] = some ranked ∧
      ∀ k, top rewardWidth id k [some 0.5, none, some 2.0] = some (ranked.take k)) ∧
    ({ key := "k", updatedAt := .epoch } : Variable).RewardsComparable ∧
    ∃ candidates predictions data,
      IsRanking Instructions.reward [] candidates ∧ IsRanking Prediction.reward [] predictions ∧
      Record.construct Shapes.optimizationInput
          (.object [("instructions_candidates",
              .array ((candidates.take 10).map Instructions.toJson)),
            ("predictions", .array ((predictions.take 10).map Prediction.toJson))]) =
        .ok ⟨Shapes.optimizationInput, data⟩ ∧
      ({} : Optimizer).pool { key := "k", updatedAt := .epoch } =
        some (.ok ⟨Shapes.optimizationInput, data⟩) := by
  have comparable : ∀ x ∈ [some 0.5, none, some 2.0], Reward.isComparable x = true := by decide
  have empty : ({ key := "k", updatedAt := .epoch } : Variable).RewardsComparable :=
    ⟨by simp, by simp⟩
  exact ⟨comparable, rank_stable_descending.1 rewardWidth id _ comparable, empty,
    rank_stable_descending.2 {} _ empty⟩

end Ranking

end PromptTrainer
