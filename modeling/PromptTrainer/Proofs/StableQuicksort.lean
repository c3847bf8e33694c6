import PromptTrainer.Proofs.MergeOfRuns
/-!
# The stable sort sorts stably

The stable quicksort splits the items around a pivot taken among them: those that strictly
precede it go left, the others right, each side keeping its order (`partition`).  When no item
precedes the pivot, or the pivot does not exceed the pivot of the partition to its left (so no
item precedes it either), the items that tie with it are split off instead and left as they are:
they all tie and keep their order, so they are sorted stably already.

Each side of a partition is a sublist of the items, so its ties rise; and no two items on
different sides tie, since an item that ties with one preceding the pivot precedes it too
(`WeakOrder`).  So sorting the sides stably sorts the items stably (`sortsTo_of_sides`,
`sortsTo_of_equal_side`).  With its budget of imbalanced partitions spent, the quicksort hands
over to an eager merge of runs (`drift_spec`), which calls no quicksort.  This proves the
assumption `QuicksortSorts` the merge of runs makes (`quicksortSorts`), and with it that the
whole sort sorts stably.

Main statement: `sort_sortsTo`.
-/

namespace PromptTrainer
namespace StableSort

/-! ### Stable partitions -/

/-- The side a partition sends the item `t.1` at position `t.2` to, `true` for the left: the item
at the pivot's position goes where asked, every other item where `goesLeft` sends it. -/
def sideOf (goesLeft : Nat → Bool) (pivotPos : Nat) (pivotLeft : Bool) (t : Nat × Nat) : Bool :=
  if t.2 = pivotPos then pivotLeft else goesLeft t.1

/-- The items a partition sends left, in their order. -/
def leftSide (goesLeft : Nat → Bool) (pivotPos : Nat) (pivotLeft : Bool) (items : List Nat) :
    List Nat :=
  (items.zipIdx.filter (sideOf goesLeft pivotPos pivotLeft)).map Prod.fst

/-- The items a partition sends right, in their order. -/
def rightSide (goesLeft : Nat → Bool) (pivotPos : Nat) (pivotLeft : Bool) (items : List Nat) :
    List Nat :=
  (items.zipIdx.filter (fun t => !sideOf goesLeft pivotPos pivotLeft t)).map Prod.fst

theorem partition_eq (goesLeft : Nat → Bool) (pivotPos : Nat) (pivotLeft : Bool)
    (items : List Nat) :
    partition goesLeft pivotPos pivotLeft items =
      (leftSide goesLeft pivotPos pivotLeft items ++ rightSide goesLeft pivotPos pivotLeft items,
        (leftSide goesLeft pivotPos pivotLeft items).length) := by
  unfold partition leftSide rightSide
  simp only [List.filter_map, List.map_map]
  rfl

section Partition

variable {goesLeft : Nat → Bool} {pivotPos : Nat} {pivotLeft : Bool} {items : List Nat}

theorem perm_sides :
    (leftSide goesLeft pivotPos pivotLeft items ++
      rightSide goesLeft pivotPos pivotLeft items).Perm items := by
  have split := (List.filter_append_perm (sideOf goesLeft pivotPos pivotLeft) items.zipIdx).map
    Prod.fst
  rwa [List.map_append, List.zipIdx_map_fst] at split

theorem leftSide_sublist : (leftSide goesLeft pivotPos pivotLeft items).Sublist items := by
  have kept := (List.filter_sublist (p := sideOf goesLeft pivotPos pivotLeft)
    (l := items.zipIdx)).map Prod.fst
  rwa [List.zipIdx_map_fst] at kept

theorem rightSide_sublist : (rightSide goesLeft pivotPos pivotLeft items).Sublist items := by
  have kept := (List.filter_sublist (p := fun t => !sideOf goesLeft pivotPos pivotLeft t)
    (l := items.zipIdx)).map Prod.fst
  rwa [List.zipIdx_map_fst] at kept

/-- An item kept by a filter of the items tagged with their positions is the item at a kept
position. -/
theorem exists_position_of_mem_filter {keep : Nat × Nat → Bool} {x : Nat}
    (member : x ∈ (items.zipIdx.filter keep).map Prod.fst) :
    ∃ i, x = items.getD i 0 ∧ keep (x, i) = true := by
  obtain ⟨⟨y, i⟩, kept, rfl⟩ := List.mem_map.mp member
  obtain ⟨tagged, side⟩ := List.mem_filter.mp kept
  obtain ⟨within, same⟩ := List.mem_zipIdx' tagged
  exact ⟨i, by simp [same, List.getD_eq_getElem?_getD, within], side⟩

/-- An item sent left is sent there by `goesLeft`, or is the item at the pivot's position. -/
theorem side_of_mem_leftSide {x : Nat} (member : x ∈ leftSide goesLeft pivotPos pivotLeft items) :
    goesLeft x = true ∨ (x = items.getD pivotPos 0 ∧ pivotLeft = true) := by
  obtain ⟨i, atI, side⟩ := exists_position_of_mem_filter member
  unfold sideOf at side
  by_cases atPivot : i = pivotPos
  · simp only [atPivot, if_true] at side
    exact .inr ⟨atPivot ▸ atI, side⟩
  · simp only [atPivot, if_false] at side
    exact .inl side

/-- An item sent right is sent there by `goesLeft`, or is the item at the pivot's position. -/
theorem side_of_mem_rightSide {x : Nat}
    (member : x ∈ rightSide goesLeft pivotPos pivotLeft items) :
    goesLeft x = false ∨ (x = items.getD pivotPos 0 ∧ pivotLeft = false) := by
  obtain ⟨i, atI, side⟩ := exists_position_of_mem_filter member
  unfold sideOf at side
  by_cases atPivot : i = pivotPos
  · simp only [atPivot, if_true, Bool.not_eq_true'] at side
    exact .inr ⟨atPivot ▸ atI, side⟩
  · simp only [atPivot, if_false, Bool.not_eq_true'] at side
    exact .inl side

/-- A partition that sends nothing left keeps the items as they are. -/
theorem rightSide_of_leftSide_nil (empty : leftSide goesLeft pivotPos pivotLeft items = []) :
    rightSide goesLeft pivotPos pivotLeft items = items := by
  unfold leftSide at empty
  unfold rightSide
  rw [List.map_eq_nil_iff, List.filter_eq_nil_iff] at empty
  rw [List.filter_eq_self.mpr (fun t member => by simpa using empty t member),
    List.zipIdx_map_fst]

end Partition

/-! ### Sorting the sides of a partition -/

section Branches

variable {lt : Nat → Nat → Bool} {pivot pos : Nat} {items : List Nat}

theorem lt_pivot_of_mem_leftSide {x : Nat}
    (member : x ∈ leftSide (fun y => lt y pivot) pos false items) : lt x pivot = true := by
  rcases side_of_mem_leftSide member with goes | ⟨-, never⟩
  · exact goes
  · cases never

theorem not_lt_pivot_of_mem_rightSide (order : WeakOrder lt) (pivotEq : items.getD pos 0 = pivot)
    {x : Nat} (member : x ∈ rightSide (fun y => lt y pivot) pos false items) :
    lt x pivot = false := by
  rcases side_of_mem_rightSide member with goes | ⟨atPivot, -⟩
  · exact goes
  · rw [atPivot, pivotEq]
    exact order.irrefl pivot

theorem not_lt_of_mem_leftSide_equal (order : WeakOrder lt) (pivotEq : items.getD pos 0 = pivot)
    {x : Nat} (member : x ∈ leftSide (fun y => !lt pivot y) pos true items) :
    lt pivot x = false := by
  rcases side_of_mem_leftSide member with goes | ⟨atPivot, -⟩
  · simpa using goes
  · rw [atPivot, pivotEq]
    exact order.irrefl pivot

theorem lt_of_mem_rightSide_equal {x : Nat}
    (member : x ∈ rightSide (fun y => !lt pivot y) pos true items) : lt pivot x = true := by
  rcases side_of_mem_rightSide member with goes | ⟨-, never⟩
  · simpa using goes
  · cases never

/-- Sorting both sides of the partition around the pivot sorts the items stably: an item sent
right precedes no item sent left, and no two items on different sides tie. -/
theorem sortsTo_of_sides (order : WeakOrder lt) (pivotEq : items.getD pos 0 = pivot)
    {left right : List Nat}
    (leftSorts : SortsTo lt (leftSide (fun y => lt y pivot) pos false items) left)
    (rightSorts : SortsTo lt (rightSide (fun y => lt y pivot) pos false items) right) :
    SortsTo lt items (left ++ right) := by
  have below : ∀ x ∈ left, lt x pivot = true := fun x member =>
    lt_pivot_of_mem_leftSide (leftSorts.1.mem_iff.mp member)
  have above : ∀ y ∈ right, lt y pivot = false := fun y member =>
    not_lt_pivot_of_mem_rightSide order pivotEq (rightSorts.1.mem_iff.mp member)
  refine ⟨(leftSorts.1.append rightSorts.1).trans perm_sides, ?_, ?_⟩
  · refine List.pairwise_append.mpr ⟨leftSorts.2.1, rightSorts.2.1, fun x inLeft y inRight => ?_⟩
    cases before : lt y x
    · rfl
    · have late := order.trans before (below x inLeft)
      rw [above y inRight] at late
      cases late
  · -- an item that ties with one preceding the pivot precedes it too
    refine List.pairwise_append.mpr ⟨leftSorts.2.2, rightSorts.2.2,
      fun x inLeft y inRight tied _ => ?_⟩
    have late := order.lt_of_not_lt_of_lt tied (below x inLeft)
    rw [above y inRight] at late
    cases late

/-- When no item precedes the pivot, the items that tie with it, kept in their order, followed by
the others sorted, sort the items stably. -/
theorem sortsTo_of_equal_side (order : WeakOrder lt) (pivotEq : items.getD pos 0 = pivot)
    (rising : Rising lt items) (low : ∀ x ∈ items, lt x pivot = false) {rest : List Nat}
    (restSorts : SortsTo lt (rightSide (fun y => !lt pivot y) pos true items) rest) :
    SortsTo lt items (leftSide (fun y => !lt pivot y) pos true items ++ rest) := by
  have tied : ∀ x ∈ leftSide (fun y => !lt pivot y) pos true items,
      lt x pivot = false ∧ lt pivot x = false := fun x member =>
    ⟨low x (leftSide_sublist.subset member), not_lt_of_mem_leftSide_equal order pivotEq member⟩
  have above : ∀ y ∈ rest, lt pivot y = true := fun y member =>
    lt_of_mem_rightSide_equal (restSorts.1.mem_iff.mp member)
  refine ⟨(restSorts.1.append_left _).trans perm_sides, ?_, ?_⟩
  · refine List.pairwise_append.mpr ⟨?_, restSorts.2.1, fun x inLeft y inRest => ?_⟩
    · -- items that all tie with the pivot are in order however they stand
      exact List.pairwise_of_forall_mem_list fun x inLeft y inLeft' =>
        order.negTrans (tied y inLeft').1 (tied x inLeft).2
    · cases before : lt y x
      · rfl
      · have late := order.lt_of_lt_of_not_lt before (tied x inLeft).2
        rw [order.asymm (above y inRest)] at late
        cases late
  · refine List.pairwise_append.mpr ⟨rising.sublist leftSide_sublist, restSorts.2.2,
      fun x inLeft y inRest tiedXY _ => ?_⟩
    rw [order.lt_of_not_lt_of_lt (tied x inLeft).2 (above y inRest)] at tiedXY
    cases tiedXY

end Branches

/-! ### The stable quicksort -/

section Quicksort

variable {s : Sorter}

/-- When the partition around the pivot sends no item left, no item precedes the pivot. -/
theorem not_lt_pivot_of_leftSide_nil (order : WeakOrder s.lt) {pos pivot : Nat}
    {items : List Nat} (pivotEq : items.getD pos 0 = pivot)
    (empty : leftSide (fun y => s.lt y pivot) pos false items = []) :
    ∀ x ∈ items, s.lt x pivot = false := by
  intro x member
  rw [← rightSide_of_leftSide_nil empty] at member
  exact not_lt_pivot_of_mem_rightSide order pivotEq member

/-- The stable quicksort sorts stably every list of at most `N` items whose ties rise and of which
no item precedes the pivot of the partition to its left, given a round of fuel for each
imbalanced partition it may still make and an eager merge of runs. -/
theorem quicksort_sortsTo (order : WeakOrder s.lt) {N : Nat} (fits : N ≤ 2 * s.scratch) :
    ∀ (fuel : Nat) {limit : Nat} {ancestor : Option Nat} {items : List Nat},
      Rising s.lt items → items.length ≤ N →
      (∀ a, ancestor = some a → ∀ x ∈ items, s.lt x a = false) →
      limit + eagerNeed N + 1 ≤ fuel →
      ∃ sorted, quicksort s fuel limit ancestor items = some sorted ∧
        SortsTo s.lt items sorted := by
  intro fuel
  induction fuel with
  | zero =>
    intro limit ancestor items _ _ _ enough
    omega
  | succ fuel ih =>
    intro limit ancestor items rising bounded above enough
    rw [quicksort]
    by_cases small : items.length ≤ 32
    · rw [if_pos small]
      exact smallSort_sortsTo order s.compact rising
    rw [if_neg small]
    by_cases spent : limit = 0
    · -- the budget of imbalanced partitions is spent: an eager merge of runs sorts the items
      rw [if_pos spent]
      exact drift_spec order fits (fun lazy => by cases lazy) rising bounded (.inl rfl)
        (by simp only [mergeNeed, if_true, eagerNeed] at enough ⊢; omega)
    rw [if_neg spent]
    have recurse : ∀ {ancestor' : Option Nat} {part : List Nat}, part.Sublist items →
        (∀ a, ancestor' = some a → ∀ x ∈ part, s.lt x a = false) →
        ∃ sorted, quicksort s fuel (limit - 1) ancestor' part = some sorted ∧
          SortsTo s.lt part sorted :=
      fun sub partAbove => ih (rising.sublist sub) (Nat.le_trans sub.length_le bounded) partAbove
        (by omega)
    dsimp only
    generalize choosePivot s.lt items.toArray = pos
    generalize pivotEq : items.getD pos 0 = pivot
    obtain ⟨rest, restEq, restSorts⟩ := @recurse none
      (rightSide (fun y => !s.lt pivot y) pos true items) rightSide_sublist
      (fun a none => by cases none)
    obtain ⟨right, rightEq, rightSorts⟩ := @recurse (some pivot)
      (rightSide (fun y => s.lt y pivot) pos false items) rightSide_sublist
      (fun a same x member => by
        cases same
        exact not_lt_pivot_of_mem_rightSide order pivotEq member)
    obtain ⟨left, leftEq, leftSorts⟩ := recurse leftSide_sublist
      (fun a same x member => above a same x (leftSide_sublist.subset member))
    have equal : (∀ x ∈ items, s.lt x pivot = false) →
        SortsTo s.lt items (leftSide (fun y => !s.lt pivot y) pos true items ++ rest) :=
      fun low => sortsTo_of_equal_side order pivotEq rising low restSorts
    have sides := sortsTo_of_sides order pivotEq leftSorts rightSorts
    -- the items tying with the pivot are split off when the pivot does not exceed the one to its
    -- left, or when no item precedes it
    cases ancestor with
    | none =>
      by_cases empty : leftSide (fun y => s.lt y pivot) pos false items = []
      · simp only [Bool.false_eq_true, false_or, if_false, partition_eq, empty, List.length_nil,
          if_true, List.nil_append, rightSide_of_leftSide_nil empty, List.drop_left,
          List.take_left, restEq]
        exact ⟨_, rfl, equal (not_lt_pivot_of_leftSide_nil order pivotEq empty)⟩
      · simp only [Bool.false_eq_true, false_or, if_false, partition_eq, List.length_eq_zero_iff,
          empty, List.drop_left, List.take_left, rightEq, leftEq]
        exact ⟨_, rfl, sides⟩
    | some a =>
      cases atA : s.lt a pivot
      · simp only [atA, Bool.not_false, if_true, true_or, partition_eq, List.drop_left,
          List.take_left, restEq]
        exact ⟨_, rfl, equal (fun x member => order.negTrans (above a rfl x member) atA)⟩
      by_cases empty : leftSide (fun y => s.lt y pivot) pos false items = []
      · simp only [atA, Bool.not_true, Bool.false_eq_true, false_or, if_false, partition_eq, empty,
          List.length_nil, if_true, List.nil_append, rightSide_of_leftSide_nil empty,
          List.drop_left, List.take_left, restEq]
        exact ⟨_, rfl, equal (not_lt_pivot_of_leftSide_nil order pivotEq empty)⟩
      · simp only [atA, Bool.not_true, Bool.false_eq_true, false_or, if_false, partition_eq,
          List.length_eq_zero_iff, empty, List.drop_left, List.take_left, rightEq, leftEq]
        exact ⟨_, rfl, sides⟩

/-- The budget of imbalanced partitions for `n` items is at most `2 n`. -/
theorem partitionLimit_le (n : Nat) : partitionLimit n ≤ 2 * n := by
  have bits : n ||| 1 < 2 ^ (n + 1) :=
    Nat.or_lt_two_pow
      (Nat.lt_trans Nat.lt_two_pow_self (Nat.pow_lt_pow_right (by omega) (by omega)))
      (Nat.one_lt_two_pow (by omega))
  have log : Nat.log2 (n ||| 1) < n + 1 := (Nat.log2_lt (by simp)).mpr bits
  unfold partitionLimit
  omega

/-- The stable quicksort sorts stably within its need: it starts with a budget of imbalanced
partitions that its need covers, and no pivot to its left. -/
theorem quicksortSorts (order : WeakOrder s.lt) {N : Nat} (fits : N ≤ 2 * s.scratch) :
    QuicksortSorts s N := by
  intro fuel enough items rising bounded
  unfold stableNeed at enough
  obtain ⟨fuel, rfl⟩ : ∃ f, fuel = f + 1 := ⟨fuel - 1, by omega⟩
  have budget := partitionLimit_le items.length
  rw [stableQuicksort]
  exact quicksort_sortsTo order fits fuel rising bounded (fun a none => by cases none)
    (by omega)

end Quicksort

/-! ### The sort -/

/-- The scratch space for `n` items holds at least half of them. -/
theorem le_two_mul_scratchFor (width n : Nat) : n ≤ 2 * scratchFor width n := by
  unfold scratchFor
  dsimp only
  split <;> omega

/-- The sort sorts stably every list whose ties rise, under a strict weak order: insertion sort
for at most twenty items, a merge of runs above that, with fuel enough for every round and for
each stable quicksort it calls. -/
theorem sort_sortsTo (width : Nat) {lt : Nat → Nat → Bool} (order : WeakOrder lt)
    {items : List Nat} (rising : Rising lt items) :
    ∃ sorted, sort width lt items = some sorted ∧ SortsTo lt items sorted := by
  unfold sort
  dsimp only
  by_cases few : items.length < 2
  · rw [if_pos few]
    exact ⟨items, rfl, sortsTo_self_of_short few⟩
  rw [if_neg few]
  by_cases short : items.length ≤ 20
  · rw [if_pos short]
    exact ⟨_, rfl, insertionSort_sortsTo order rising⟩
  rw [if_neg short]
  have fits := le_two_mul_scratchFor width items.length
  -- the merge of runs needs `4 n + 8` rounds at most, for a lazy merge calling the quicksort
  have enough : (items.length + 1) / 2 * 2 + mergeNeed (decide (items.length ≤ 64)) items.length
      + 1 ≤ 4 * items.length + 512 := by
    unfold mergeNeed stableNeed eagerNeed
    split <;> omega
  exact drift_spec order fits (fun _ => quicksortSorts order fits) rising (Nat.le_refl _)
    (.inr (by omega)) enough

end StableSort
end PromptTrainer
