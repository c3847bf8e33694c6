import Mathlib
import PromptTrainer.Proofs.StableMerge
/-!
# The merge of runs sorts stably

The merge of runs (`drift`) walks the items from the front.  Each round makes a run at `scan`
(one found in order, reversed if strictly descending, or the next items sorted on the spot, or
left unsorted to be sorted later), merges earlier runs that the merge tree joins before it, and
pushes the run before it.  At the end every run is merged into one, which is sorted if it is
not yet.

The state of the merge (`Laid`) is described by the runs alone: read from the bottom of the
stack, they cover the first `scan` items, each one marked sorted is sorted stably
(`SegmentsSorted`), and the ties of all the items still rise, since every step replaces a
stretch of the items by a permutation of it whose ties rise (`Rising.replace`).  Merging two
neighbouring runs sorts both and merges them stably (`logicalMerge_spec`), which keeps the
state; so does making a run (`createRun_spec`).  When the last run is made and everything is
merged, the one run left covers all items, so they are sorted stably (`driftLoop_spec`).

The sort is written with fuel, each call taking one unit from its caller, so the proof also
shows that the fuel given is enough.  Every run but the last holds at least two items, so a
merge of `n` items takes at most `(n + 1) / 2` rounds, and each round's merges at most one more
than the runs on the stack.  An eager merge only ever merges sorted runs; another may have to
sort a run first, with the stable quicksort, whose own need (`stableNeed`) it then adds.  That
the stable quicksort sorts within its need is an assumption here (`QuicksortSorts`): it calls
only eager merges, so it is proved from this module's eager case.

Main statement: `drift_spec`.
-/

namespace PromptTrainer
namespace StableSort

/-! ### Fuel -/

/-- The fuel an eager merge of runs over at most `n` items needs: a round for every two items,
and two more. -/
def eagerNeed (n : Nat) : Nat := (n + 1) / 2 * 2 + 2

/-- The fuel the stable quicksort of at most `n` items needs: its budget of imbalanced
partitions, at most `2 n`, then an eager merge of runs. -/
def stableNeed (n : Nat) : Nat := 2 * n + eagerNeed n + 2

/-- The fuel one merge of two neighbouring runs needs in a merge of runs over at most `n`
items: an eager merge only merges sorted runs; another may have to sort them first. -/
def mergeNeed (eager : Bool) (n : Nat) : Nat := if eager then 1 else stableNeed n + 1

theorem one_le_mergeNeed (eager : Bool) (n : Nat) : 1 ≤ mergeNeed eager n := by
  cases eager <;> simp [mergeNeed]

/-- The stable quicksort sorts every list of at most `n` items whose ties rise, given its
need. -/
def QuicksortSorts (s : Sorter) (n : Nat) : Prop :=
  ∀ fuel, stableNeed n ≤ fuel → ∀ items, Rising s.lt items → items.length ≤ n →
    ∃ sorted, stableQuicksort s fuel items = some sorted ∧ SortsTo s.lt items sorted

section Runs

variable {s : Sorter}

/-! ### Runs found in order -/

/-- The items a run continues with are in order after each other: strictly descending, or each
not strictly preceding the one before it. -/
theorem runTail_chain (order : WeakOrder s.lt) (descending : Bool) :
    ∀ (prev : Nat) (more : List Nat),
      runTail s.lt descending prev more ≤ more.length ∧
        (prev :: more.take (runTail s.lt descending prev more)).Pairwise
          (fun a b => (if descending then s.lt b a else !s.lt b a) = true)
  | _, [] => by simp [runTail]
  | prev, x :: more => by
    by_cases continues : (if descending then s.lt x prev else !s.lt x prev) = true
    · obtain ⟨within, chain⟩ := runTail_chain order descending x more
      have counted :
          runTail s.lt descending prev (x :: more) = runTail s.lt descending x more + 1 := by
        rw [runTail, if_pos continues]
        omega
      rw [counted, List.take_succ_cons]
      refine ⟨by simp; omega, List.Pairwise.cons (fun z member => ?_) chain⟩
      -- both relations are transitive, so `prev` relates to everything after `x`
      rcases List.mem_cons.mp member with rfl | later
      · exact continues
      · have step := List.rel_of_pairwise_cons chain later
        cases descending
        · simp only [Bool.false_eq_true, if_false, Bool.not_eq_eq_eq_not, Bool.not_true]
            at continues step ⊢
          exact order.negTrans step continues
        · simp only [if_true] at continues step ⊢
          exact order.trans step continues
    · have stops : runTail s.lt descending prev (x :: more) = 0 := by
        rw [runTail, if_neg continues]
      rw [stops]
      simp

/-- The run at the front of at least two items: at least two long, within the items, and
strictly descending or ordered as it says. -/
theorem existingRun_spec (order : WeakOrder s.lt) {items : List Nat} (enough : 2 ≤ items.length) :
    2 ≤ (existingRun s.lt items).1 ∧ (existingRun s.lt items).1 ≤ items.length ∧
      (if (existingRun s.lt items).2 then
        (items.take (existingRun s.lt items).1).Pairwise (fun a b => s.lt b a = true)
       else Ordered s.lt (items.take (existingRun s.lt items).1)) := by
  rcases items with _ | ⟨a, _ | ⟨b, rest⟩⟩
  · simp at enough
  · simp at enough
  · obtain ⟨within, chain⟩ := runTail_chain order (s.lt b a) b rest
    have front : (a :: b :: rest).take (2 + runTail s.lt (s.lt b a) b rest) =
        a :: (b :: rest.take (runTail s.lt (s.lt b a) b rest)) := by
      rw [Nat.add_comm]
      rfl
    refine ⟨by simp [existingRun], by simp [existingRun]; omega, ?_⟩
    simp only [existingRun, front]
    cases direction : s.lt b a
    · simp only [direction, Bool.false_eq_true, if_false] at chain ⊢
      refine List.Pairwise.cons (fun z member => ?_)
        (chain.imp (fun before => by simpa using before))
      rcases List.mem_cons.mp member with rfl | later
      · exact direction
      · exact order.negTrans (by simpa using List.rel_of_pairwise_cons chain later) direction
    · simp only [direction, if_true] at chain ⊢
      refine List.Pairwise.cons (fun z member => ?_) chain
      rcases List.mem_cons.mp member with rfl | later
      · exact direction
      · exact order.trans (List.rel_of_pairwise_cons chain later) direction

/-- A strictly descending run, reversed, is sorted stably: it has no ties. -/
theorem stablySorted_reverse_of_descending (order : WeakOrder s.lt) {run : List Nat}
    (descending : run.Pairwise (fun a b => s.lt b a = true)) : StablySorted s.lt run.reverse := by
  have ascending : run.reverse.Pairwise (fun a b => s.lt a b = true) := by
    rw [List.pairwise_reverse]
    exact descending
  exact ⟨ascending.imp (fun before => order.asymm before),
    ascending.imp (fun before tied => by rw [before] at tied; cases tied)⟩

/-- Lists of at most thirty-two items go straight to the small sort. -/
theorem quicksort_of_small {fuel limit : Nat} {ancestor : Option Nat} {items : List Nat}
    (small : items.length ≤ 32) :
    quicksort s (fuel + 1) limit ancestor items = smallSort s.lt s.compact items := by
  rw [quicksort, if_pos small]

/-! ### Making a run -/

/-- What making a run from the front of `items` gives: a permutation `rest` of them whose ties
still rise, with the run at its front, at least two items long (or all there are), sorted
stably if marked so, and always sorted when made eagerly. -/
structure MadeRun (lt : Nat → Nat → Bool) (eager : Bool) (items : List Nat) (run : Run)
    (rest : List Nat) : Prop where
  perm : rest.Perm items
  rising : Rising lt rest
  long : min 2 items.length ≤ run.length
  within : run.length ≤ items.length
  sorted : run.sorted = true → StablySorted lt (rest.take run.length)
  eagerSorted : eager = true → run.sorted = true

/-- A run found in order at the front of the items: reversed if strictly descending, it is
sorted stably, and the items with it still have rising ties. -/
theorem madeRun_of_found (order : WeakOrder s.lt) {eager : Bool} {items : List Nat}
    {runLength : Nat} {descending : Bool} (rising : Rising s.lt items)
    (found : existingRun s.lt items = (runLength, descending)) (nonempty : items ≠ []) :
    MadeRun s.lt eager items ⟨runLength, true⟩
      (if descending then (items.take runLength).reverse ++ items.drop runLength else items) := by
  by_cases two : 2 ≤ items.length
  · obtain ⟨long, within, shape⟩ := existingRun_spec order two
    rw [found] at long within shape
    cases descending
    · -- an ordered run of a list whose ties rise is sorted stably
      simp only [Bool.false_eq_true, if_false] at shape ⊢
      exact ⟨.refl _, rising, by dsimp only; omega, within,
        fun _ => ⟨shape, rising.sublist (List.take_sublist _ _)⟩, fun _ => rfl⟩
    · simp only [if_true] at shape ⊢
      have reversed := stablySorted_reverse_of_descending order shape
      have whole : Rising s.lt (items.take runLength ++ items.drop runLength) := by
        rw [List.take_append_drop]
        exact rising
      have perm : ((items.take runLength).reverse ++ items.drop runLength).Perm items := by
        conv => rhs; rw [← List.take_append_drop runLength items]
        exact (List.reverse_perm _).append_right _
      have front : ((items.take runLength).reverse ++ items.drop runLength).take runLength =
          (items.take runLength).reverse := by
        rw [List.take_left']
        simp
        omega
      refine ⟨perm, Rising.replace_front whole (List.reverse_perm _) reversed.2,
        by dsimp only; omega, within, fun _ => ?_, fun _ => rfl⟩
      dsimp only
      rw [front]
      exact reversed
  · rcases items with _ | ⟨x, _ | ⟨y, rest⟩⟩
    · exact absurd rfl nonempty
    · simp only [existingRun, List.length_cons, List.length_nil, Prod.mk.injEq] at found
      obtain ⟨rfl, rfl⟩ := found
      exact ⟨.refl _, rising, by simp, by simp, fun _ => by simp [StablySorted, Ordered, Rising],
        fun _ => rfl⟩
    · simp at two

/-- Making a run, with fuel for the small sort of an eager run. -/
theorem createRun_spec (order : WeakOrder s.lt) {fuel minGood : Nat} {eager : Bool}
    {items : List Nat} (rising : Rising s.lt items) (nonempty : items ≠ [])
    (progress : eager = true ∨ 2 ≤ minGood) (enough : 2 ≤ fuel) :
    ∃ run rest, createRun s fuel minGood eager items = some (run, rest) ∧
      MadeRun s.lt eager items run rest := by
  obtain ⟨fuel, rfl⟩ : ∃ f, fuel = f + 1 := ⟨fuel - 1, by omega⟩
  have positive : 0 < items.length := List.length_pos_iff.mpr nonempty
  rw [createRun]
  dsimp only
  cases found : existingRun s.lt items with
  | mk runLength descending =>
  by_cases taken : minGood ≤ items.length ∧ minGood ≤ runLength
  · rw [if_pos taken.1]
    simp only [if_pos taken.2]
    exact ⟨_, _, rfl, madeRun_of_found order rising found nonempty⟩
  · have notFound : (if minGood ≤ items.length then
        (if minGood ≤ runLength then some (runLength, descending) else none) else none) = none := by
      by_cases fits : minGood ≤ items.length
      · rw [if_pos fits, if_neg (fun good => taken ⟨fits, good⟩)]
      · rw [if_neg fits]
    simp only [notFound]
    cases eager with
    | true =>
      simp only [if_true]
      have small : (items.take (min 32 items.length)).length ≤ 32 := by
        simp only [List.length_take]
        omega
      obtain ⟨sorted, sortedEq, sorts⟩ := smallSort_sortsTo order s.compact
        (rising.sublist (List.take_sublist (min 32 items.length) items))
      obtain ⟨fuel, rfl⟩ : ∃ f, fuel = f + 1 := ⟨fuel - 1, by omega⟩
      rw [quicksort_of_small small, sortedEq]
      have length : sorted.length = min 32 items.length := by
        rw [sorts.1.length_eq, List.length_take]
        omega
      have whole :
          Rising s.lt (items.take (min 32 items.length) ++ items.drop (min 32 items.length)) := by
        rw [List.take_append_drop]
        exact rising
      have perm : (sorted ++ items.drop (min 32 items.length)).Perm items := by
        conv => rhs; rw [← List.take_append_drop (min 32 items.length) items]
        exact sorts.1.append_right _
      refine ⟨_, _, rfl, perm, Rising.replace_front whole sorts.1 sorts.rising, ?_, ?_,
        fun _ => ?_, fun _ => rfl⟩
      · dsimp only
        omega
      · dsimp only
        omega
      · dsimp only
        rw [List.take_left' length]
        exact sorts.2
    | false =>
      simp only [Bool.false_eq_true, if_false]
      have good : 2 ≤ minGood := by simpa using progress
      refine ⟨_, _, rfl, .refl _, rising, ?_, ?_, (fun unsorted => by cases unsorted),
        (fun eager => by cases eager)⟩
      · dsimp only
        omega
      · dsimp only
        omega

/-! ### Merging two neighbouring runs -/

/-- Merging two neighbouring runs, given as the items they cover: both are sorted (the ones
not sorted yet by the stable quicksort) and merged stably, unless both are unsorted and fit
in the scratch space together, when they become one unsorted run. -/
theorem logicalMerge_spec (order : WeakOrder s.lt) {N : Nat} (fits : N ≤ 2 * s.scratch)
    {fuel : Nat} {items : List Nat} {left right : Run} (rising : Rising s.lt items)
    (lengths : items.length = left.length + right.length) (bounded : items.length ≤ N)
    (leftSorted : left.sorted = true → StablySorted s.lt (items.take left.length))
    (rightSorted : right.sorted = true → StablySorted s.lt (items.drop left.length))
    (enough : 1 ≤ fuel)
    (sorting : (left.sorted = true ∧ right.sorted = true) ∨
      (QuicksortSorts s N ∧ stableNeed N + 1 ≤ fuel)) :
    ∃ run merged, logicalMerge s fuel items left right = some (run, merged) ∧
      merged.Perm items ∧ Rising s.lt merged ∧ run.length = items.length ∧
      (run.sorted = true → StablySorted s.lt merged) ∧
      (left.sorted = true → right.sorted = true → run.sorted = true) := by
  obtain ⟨fuel, rfl⟩ : ∃ f, fuel = f + 1 := ⟨fuel - 1, by omega⟩
  have halves : items.take left.length ++ items.drop left.length = items :=
    List.take_append_drop _ _
  have sortRun : ∀ (run : Run) (part : List Nat), Rising s.lt part → part.length ≤ N →
      (run.sorted = true → StablySorted s.lt part) →
      (run.sorted = false → QuicksortSorts s N ∧ stableNeed N ≤ fuel) →
      ∃ sorted, (if run.sorted then some part else stableQuicksort s fuel part) = some sorted ∧
        SortsTo s.lt part sorted := by
    intro run part partRising partBounded partSorted quick
    cases sortedFlag : run.sorted
    · obtain ⟨sorts, enoughQuick⟩ := quick sortedFlag
      obtain ⟨sorted, sortedEq, sortsTo⟩ := sorts fuel enoughQuick part partRising partBounded
      exact ⟨sorted, by simpa using sortedEq, sortsTo⟩
    · exact ⟨part, by simp, .refl _, partSorted sortedFlag⟩
  have quick : left.sorted = false ∨ right.sorted = false →
      QuicksortSorts s N ∧ stableNeed N ≤ fuel := by
    intro unsorted
    rcases sorting with ⟨leftFlag, rightFlag⟩ | ⟨sorts, enoughQuick⟩
    · rcases unsorted with unsorted | unsorted <;> simp_all
    · exact ⟨sorts, by omega⟩
  have leftRising : Rising s.lt (items.take left.length) := rising.sublist (List.take_sublist _ _)
  have rightRising : Rising s.lt (items.drop left.length) := rising.sublist (List.drop_sublist _ _)
  rw [logicalMerge]
  dsimp only
  split
  · obtain ⟨l, leftEq, leftSorts⟩ := sortRun left _ leftRising
      (by simp; omega) leftSorted (fun unsorted => quick (.inl unsorted))
    obtain ⟨r, rightEq, rightSorts⟩ := sortRun right _ rightRising
      (by simp; omega) rightSorted (fun unsorted => quick (.inr unsorted))
    simp only [leftEq, rightEq]
    have perm : (l ++ r).Perm items := by
      rw [← halves]
      exact leftSorts.1.append rightSorts.1
    have together : Rising s.lt (l ++ r) := by
      rw [← halves] at rising
      exact Rising.replace_back (Rising.replace_front rising leftSorts.1 leftSorts.rising)
        rightSorts.1 rightSorts.rising
    have merged := merge_sortsTo order leftSorts.2.1 rightSorts.2.1 together
    rw [mergeRuns_eq_merge order leftSorts.2.1 rightSorts.2.1
      (by rw [← List.length_append, perm.length_eq]; omega)]
    exact ⟨_, _, rfl, merged.1.trans perm, merged.rising, by simp, fun _ => merged.2,
      fun _ _ => rfl⟩
  · -- both runs unsorted and fitting the scratch space: one longer unsorted run
    rename_i kept
    have unsorted : left.sorted = false := by simp_all
    exact ⟨_, _, rfl, .refl _, rising, rfl, (fun flag => by cases flag),
      (fun flag => by rw [unsorted] at flag; cases flag)⟩

/-! ### The runs on the stack -/

/-- Each run marked sorted covers a stably sorted stretch of the items, the runs read in order
from the front. -/
def SegmentsSorted (lt : Nat → Nat → Bool) : List Run → List Nat → Prop
  | [], _ => True
  | run :: runs, items =>
    (run.sorted = true → StablySorted lt (items.take run.length)) ∧
      SegmentsSorted lt runs (items.drop run.length)

theorem segmentsSorted_append {lt : Nat → Nat → Bool} (runs more : List Run) (items : List Nat) :
    SegmentsSorted lt (runs ++ more) items ↔
      SegmentsSorted lt runs items ∧
        SegmentsSorted lt more (items.drop (runs.map Run.length).sum) := by
  induction runs generalizing items with
  | nil => simp [SegmentsSorted]
  | cons run runs ih => simp [SegmentsSorted, ih, List.drop_drop, and_assoc]

theorem segmentsSorted_singleton {lt : Nat → Nat → Bool} (run : Run) (items : List Nat) :
    SegmentsSorted lt [run] items ↔
      (run.sorted = true → StablySorted lt (items.take run.length)) := by
  simp [SegmentsSorted]

/-- Whether the runs are sorted depends only on the items they cover. -/
theorem SegmentsSorted.congr {lt : Nat → Nat → Bool} {runs : List Run} {items items' : List Nat}
    (same : items.take (runs.map Run.length).sum = items'.take (runs.map Run.length).sum)
    (sorted : SegmentsSorted lt runs items) : SegmentsSorted lt runs items' := by
  induction runs generalizing items items' with
  | nil => trivial
  | cons run runs ih =>
    obtain ⟨first, rest⟩ := sorted
    simp only [List.map_cons, List.sum_cons] at same
    have front : items.take run.length = items'.take run.length := by
      have := congrArg (List.take run.length) same
      simpa [List.take_take] using this
    have later : (items.drop run.length).take (runs.map Run.length).sum =
        (items'.drop run.length).take (runs.map Run.length).sum := by
      have := congrArg (List.drop run.length) same
      simpa [List.drop_take] using this
    exact ⟨fun flag => front ▸ first flag, ih later rest⟩

/-- The state of a merge of runs over `n` items at `scan`: the runs on the stack, read from the
bottom, and the run before `scan` cover the first `scan` items, each stably sorted if marked
so; the bottom run is the empty one the merge starts with; the ties of all the items rise; and
an eager merge holds sorted runs only. -/
structure Laid (lt : Nat → Nat → Bool) (eager : Bool) (n scan : Nat) (prev : Run)
    (stack : List (Run × Nat)) (items : List Nat) : Prop where
  length : items.length = n
  rising : Rising lt items
  within : scan ≤ n
  cover : ((stack.map Prod.fst).map Run.length).sum + prev.length = scan
  bottomEmpty : ∀ e ∈ stack.getLast?, e.1.length = 0
  startEmpty : stack = [] → prev.length = 0
  segments : SegmentsSorted lt ((stack.map Prod.fst).reverse ++ [prev]) items
  eagerSorted : eager = true → prev.sorted = true ∧ ∀ e ∈ stack, e.1.sorted = true

/-- The run before `scan` covers the items just before it, and is sorted stably if marked so. -/
theorem Laid.prev_sorted {lt : Nat → Nat → Bool} {eager : Bool} {n scan : Nat} {prev : Run}
    {stack : List (Run × Nat)} {items : List Nat} (laid : Laid lt eager n scan prev stack items) :
    prev.sorted = true →
      StablySorted lt
        ((items.drop ((stack.map Prod.fst).map Run.length).sum).take prev.length) := by
  have segments := (segmentsSorted_append _ _ _).mp laid.segments
  rw [List.map_reverse, List.sum_reverse, segmentsSorted_singleton] at segments
  exact segments.2

/-! ### Merging down the stack -/

/-- The items before `start`, from `start` to `stop`, and after `stop` make up the items. -/
theorem take_append_slice_append_drop (items : List Nat) {start stop : Nat} (le : start ≤ stop) :
    items.take start ++ (items.drop start).take (stop - start) ++ items.drop stop = items := by
  have front := List.take_append_drop start items
  have back := List.take_append_drop (stop - start) (items.drop start)
  rw [List.drop_drop, Nat.add_sub_cancel' le] at back
  rw [List.append_assoc, back, front]

section Merge

variable {lt : Nat → Nat → Bool} {eager : Bool} {n scan d : Nat} {prev left : Run}
  {e : Run × Nat} {below : List (Run × Nat)} {items : List Nat}

/-- The top run on the stack ends where the run before `scan` starts. -/
theorem Laid.top_cover (laid : Laid lt eager n scan prev ((left, d) :: e :: below) items) :
    (((e :: below).map Prod.fst).map Run.length).sum + (left.length + prev.length) = scan := by
  have cover := laid.cover
  simp only [List.map_cons, List.sum_cons] at cover ⊢
  omega

/-- The two runs a merge joins are each stably sorted if marked so. -/
theorem Laid.pair_sorted (laid : Laid lt eager n scan prev ((left, d) :: e :: below) items) :
    (left.sorted = true → StablySorted lt
      ((items.drop (scan - (left.length + prev.length))).take left.length)) ∧
    (prev.sorted = true → StablySorted lt
      (((items.drop (scan - (left.length + prev.length))).drop left.length).take prev.length)) := by
  have segments := laid.segments
  have start := laid.top_cover
  rw [List.map_cons, List.reverse_cons, List.append_assoc, segmentsSorted_append,
    List.map_reverse, List.sum_reverse, List.singleton_append] at segments
  rw [← start, Nat.add_sub_cancel]
  simpa [SegmentsSorted] using segments.2

/-- The items fall into those before the two runs a merge joins, those of the two runs, and those
from `scan` on. -/
theorem Laid.merge_split (laid : Laid lt eager n scan prev ((left, d) :: e :: below) items) :
    items.take (scan - (left.length + prev.length)) ++
        (items.drop (scan - (left.length + prev.length))).take (left.length + prev.length) ++
      items.drop scan = items := by
  have start := laid.top_cover
  have whole := take_append_slice_append_drop items (Nat.sub_le scan (left.length + prev.length))
  rwa [Nat.sub_sub_self (by omega)] at whole

/-- Replacing the two runs a merge joins by the merged run keeps the layout, with one run fewer on
the stack. -/
theorem Laid.merge (laid : Laid lt eager n scan prev ((left, d) :: e :: below) items)
    {merged : Run} {slice : List Nat}
    (perm : slice.Perm ((items.drop (scan - (left.length + prev.length))).take
      (left.length + prev.length)))
    (rising : Rising lt slice) (length : merged.length = left.length + prev.length)
    (sorted : merged.sorted = true → StablySorted lt slice)
    (both : left.sorted = true → prev.sorted = true → merged.sorted = true) :
    Laid lt eager n scan merged (e :: below)
      (items.take (scan - (left.length + prev.length)) ++ slice ++ items.drop scan) := by
  have start := laid.top_cover
  have within := laid.within
  have count := laid.length
  have whole := laid.merge_split
  have sliceLength : slice.length = left.length + prev.length := by
    rw [perm.length_eq]
    simp only [List.length_take, List.length_drop]
    omega
  have frontLength : (items.take (scan - (left.length + prev.length))).length =
      scan - (left.length + prev.length) := by
    simp only [List.length_take]
    omega
  have segments := laid.segments
  rw [List.map_cons, List.reverse_cons, List.append_assoc, segmentsSorted_append] at segments
  refine ⟨?_, ?_, within, ?_, ?_, (fun empty => by cases empty), ?_, ?_⟩
  · simp only [List.length_append, List.length_drop, frontLength, sliceLength]
    omega
  · have all := laid.rising
    rw [← whole] at all
    exact Rising.replace all perm rising
  · simp only [List.map_cons, List.sum_cons] at start ⊢
    omega
  · intro last member
    exact laid.bottomEmpty last (by rwa [List.getLast?_cons_cons])
  · rw [segmentsSorted_append]
    refine ⟨segments.1.congr ?_, ?_⟩
    · rw [List.map_reverse, List.sum_reverse, List.append_assoc,
        List.take_append_of_le_length (by omega), List.take_take, Nat.min_eq_left (by omega)]
    · rw [List.map_reverse, List.sum_reverse, segmentsSorted_singleton, length,
        List.append_assoc, List.drop_left' (by omega), List.take_left' sliceLength]
      exact sorted
  · intro isEager
    obtain ⟨prevSorted, stackSorted⟩ := laid.eagerSorted isEager
    exact ⟨both (stackSorted _ List.mem_cons_self) prevSorted,
      fun x member => stackSorted x (List.mem_cons_of_mem _ member)⟩

/-- Replacing the items of the two runs a merge joins by a permutation of them permutes the items
and keeps those from `scan` on. -/
theorem Laid.merge_items (laid : Laid lt eager n scan prev ((left, d) :: e :: below) items)
    {slice : List Nat}
    (perm : slice.Perm ((items.drop (scan - (left.length + prev.length))).take
      (left.length + prev.length))) :
    (items.take (scan - (left.length + prev.length)) ++ slice ++ items.drop scan).Perm items ∧
      (items.take (scan - (left.length + prev.length)) ++ slice ++ items.drop scan).drop scan =
        items.drop scan := by
  have start := laid.top_cover
  have within := laid.within
  have count := laid.length
  have whole := laid.merge_split
  refine ⟨?_, List.drop_left' ?_⟩
  · have replaced :=
      (perm.append_left (items.take (scan - (left.length + prev.length)))).append_right
      (items.drop scan)
    rwa [whole] at replaced
  · simp only [List.length_append, List.length_take, perm.length_eq, List.length_drop]
    omega

end Merge

section Rounds

variable {lt : Nat → Nat → Bool} {eager : Bool} {n scan : Nat} {prev : Run}
  {stack : List (Run × Nat)} {items : List Nat}

/-- The layout a merge of runs starts from: nothing scanned, an empty sorted run before the
items, and an empty stack. -/
theorem Laid.start (rising : Rising lt items) : Laid lt eager items.length 0 ⟨0, true⟩ [] items :=
  ⟨rfl, rising, Nat.zero_le _, rfl, (fun _ member => by cases member), (fun _ => rfl),
    by simp [SegmentsSorted, StablySorted, Ordered, Rising], (fun _ => by simp)⟩

/-- The runs on the stack and the one before `scan` cover exactly the first `scan` items. -/
theorem Laid.covered (laid : Laid lt eager n scan prev stack items) :
    (((stack.map Prod.fst).reverse ++ [prev]).map Run.length).sum = scan := by
  simp only [List.map_append, List.map_reverse, List.sum_append, List.sum_reverse, List.map_cons,
    List.map_nil, List.sum_cons, List.sum_nil, Nat.add_zero]
  exact laid.cover

/-- Making the next run from the items at `scan` keeps the layout: the runs before `scan` keep
their items. -/
theorem Laid.made (laid : Laid lt eager n scan prev stack items) {next : Run} {rest : List Nat}
    (made : MadeRun lt eager (items.drop scan) next rest) :
    Laid lt eager n scan prev stack (items.take scan ++ rest) := by
  have count := laid.length
  have within := laid.within
  have restLength : rest.length = n - scan := by
    rw [made.perm.length_eq, List.length_drop, count]
  have front : (items.take scan).length = scan := by
    simp only [List.length_take]
    omega
  refine ⟨?_, ?_, within, laid.cover, laid.bottomEmpty, laid.startEmpty, ?_, laid.eagerSorted⟩
  · rw [List.length_append, front, restLength]
    omega
  · have all := laid.rising
    rw [← List.take_append_drop scan items] at all
    exact Rising.replace_back all made.perm made.rising
  · apply laid.segments.congr
    rw [laid.covered, List.take_left' front]

/-- Pushing the run before `scan` under a new run keeps the layout. -/
theorem Laid.push (laid : Laid lt eager n scan prev stack items) {next : Run} (depth : Nat)
    (within : scan + next.length ≤ n)
    (sorted : next.sorted = true → StablySorted lt ((items.drop scan).take next.length))
    (eagerSorted : eager = true → next.sorted = true) :
    Laid lt eager n (scan + next.length) next ((prev, depth) :: stack) items := by
  have cover := laid.cover
  refine ⟨laid.length, laid.rising, within, ?_, ?_, (fun pushed => by cases pushed), ?_, ?_⟩
  · simp only [List.map_cons, List.sum_cons] at cover ⊢
    omega
  · intro last member
    cases stack with
    | nil =>
      simp only [List.getLast?_singleton, Option.mem_def, Option.some.injEq] at member
      rw [← member]
      exact laid.startEmpty rfl
    | cons e rest => exact laid.bottomEmpty last (by rwa [List.getLast?_cons_cons] at member)
  · rw [List.map_cons, List.reverse_cons, segmentsSorted_append, laid.covered,
      segmentsSorted_singleton]
    exact ⟨laid.segments, sorted⟩
  · intro isEager
    obtain ⟨prevSorted, stackSorted⟩ := laid.eagerSorted isEager
    refine ⟨eagerSorted isEager, fun x member => ?_⟩
    rcases List.mem_cons.mp member with top | lower
    · rw [top]
      exact prevSorted
    · exact stackSorted x lower

end Rounds

/-- Merging the run before `scan` with the top run of the stack, as `collapse` does, succeeds
with one merge's fuel; it keeps the layout with one run fewer on the stack, permutes the items
the two runs cover and keeps those from `scan` on. -/
theorem Laid.merge_top (order : WeakOrder s.lt) {N : Nat} (fits : N ≤ 2 * s.scratch)
    {eager : Bool} (sorting : eager = false → QuicksortSorts s N) {n scan d fuel : Nat}
    {prev left : Run} {e : Run × Nat} {below : List (Run × Nat)} {items : List Nat}
    (laid : Laid s.lt eager n scan prev ((left, d) :: e :: below) items) (bounded : n ≤ N)
    (enough : mergeNeed eager N ≤ fuel) :
    ∃ merged slice, logicalMerge s fuel ((items.drop (scan - (left.length + prev.length))).take
        (left.length + prev.length)) left prev = some (merged, slice) ∧
      Laid s.lt eager n scan merged (e :: below)
        (items.take (scan - (left.length + prev.length)) ++ slice ++ items.drop scan) ∧
      (items.take (scan - (left.length + prev.length)) ++ slice ++ items.drop scan).Perm items ∧
      (items.take (scan - (left.length + prev.length)) ++ slice ++ items.drop scan).drop scan =
        items.drop scan := by
  have pair := laid.pair_sorted
  have start := laid.top_cover
  have within := laid.within
  have count := laid.length
  have enoughMerge : 1 ≤ fuel := by
    have := one_le_mergeNeed eager N
    omega
  -- an eager merge holds sorted runs only; another may sort them first
  have sorts : (left.sorted = true ∧ prev.sorted = true) ∨
      (QuicksortSorts s N ∧ stableNeed N + 1 ≤ fuel) := by
    cases eagerFlag : eager
    · simp only [eagerFlag, mergeNeed] at enough
      exact .inr ⟨sorting eagerFlag, by simp at enough; omega⟩
    · obtain ⟨prevSorted, stackSorted⟩ := laid.eagerSorted eagerFlag
      exact .inl ⟨stackSorted _ List.mem_cons_self, prevSorted⟩
  obtain ⟨merged, slice, mergedEq, perm, rising, length, sorted, both⟩ :=
    logicalMerge_spec order fits
      (laid.rising.sublist ((List.take_sublist _ _).trans (List.drop_sublist _ _)) :
        Rising s.lt ((items.drop (scan - (left.length + prev.length))).take
          (left.length + prev.length)))
      (by simp only [List.length_take, List.length_drop]; omega)
      (by simp only [List.length_take, List.length_drop]; omega)
      (fun flag => by
        rw [List.take_take, Nat.min_eq_left (by omega)]
        exact pair.1 flag)
      (fun flag => by
        rw [List.drop_take, show left.length + prev.length - left.length = prev.length by omega]
        exact pair.2 flag)
      enoughMerge sorts
  refine ⟨merged, slice, mergedEq, laid.merge perm rising ?_ sorted both, laid.merge_items perm⟩
  rw [length]
  simp only [List.length_take, List.length_drop]
  omega

/-- Merging down the stack keeps the layout and the items from `scan` on, permutes the others,
and stops at a stack of one run or one whose top merge node lies above `depth`; the fuel needed is
one merge's for every run on the stack. -/
theorem collapse_spec (order : WeakOrder s.lt) {N : Nat} (fits : N ≤ 2 * s.scratch) {eager : Bool}
    (sorting : eager = false → QuicksortSorts s N) {n : Nat} (bounded : n ≤ N) (depth : Nat) :
    ∀ (fuel : Nat) {scan : Nat} {prev : Run} {stack : List (Run × Nat)} {items : List Nat},
      Laid s.lt eager n scan prev stack items → stack.length + mergeNeed eager N ≤ fuel + 1 →
      ∃ prev' stack' items', collapse s fuel scan depth prev stack items =
          some (prev', stack', items') ∧
        Laid s.lt eager n scan prev' stack' items' ∧ items'.Perm items ∧
        items'.drop scan = items.drop scan ∧ stack'.length ≤ stack.length ∧
        ∀ top below, stack' = top :: below → below ≠ [] → top.2 < depth := by
  intro fuel
  induction fuel with
  | zero =>
    intro scan prev stack items laid enough
    have empty : stack = [] := by
      have := one_le_mergeNeed eager N
      exact List.length_eq_zero_iff.mp (by omega)
    subst empty
    exact ⟨prev, [], items, by rw [collapse], laid, .refl _, rfl, Nat.le_refl _, by simp⟩
  | succ fuel ih =>
    intro scan prev stack items laid enough
    rcases stack with _ | ⟨⟨left, d⟩, _ | ⟨e, below⟩⟩
    · exact ⟨prev, [], items, by rw [collapse]; simp, laid, .refl _, rfl, Nat.le_refl _, by simp⟩
    · exact ⟨prev, [(left, d)], items, by rw [collapse]; simp, laid, .refl _, rfl, Nat.le_refl _,
        by simp⟩
    by_cases deep : depth ≤ d
    · simp only [List.length_cons] at enough
      have enoughTop : mergeNeed eager N ≤ fuel := by omega
      obtain ⟨merged, slice, mergedEq, laidMerged, permItems, dropItems⟩ :=
        laid.merge_top order fits sorting bounded enoughTop
      obtain ⟨prev', stack', items', collapsed, laid', perm', drop', shorter, stop⟩ :=
        ih laidMerged (by simp only [List.length_cons]; omega)
      refine ⟨prev', stack', items', ?_, laid', perm'.trans permItems, drop'.trans dropItems,
        by simp only [List.length_cons] at shorter ⊢; omega, stop⟩
      rw [collapse]
      dsimp only
      rw [if_pos deep, mergedEq]
      exact collapsed
    · refine ⟨prev, (left, d) :: e :: below, items, ?_, laid, .refl _, rfl, Nat.le_refl _, ?_⟩
      · rw [collapse]
        simp only [deep, if_false]
      · intro top rest same _
        simp only [List.cons.injEq] at same
        rw [← same.1]
        omega

/-! ### The rounds of the merge of runs -/

/-- The last run left covers all the items: with merge depth `0` every merge is made, so at most
the empty bottom run stays under it. -/
theorem Laid.last_covers {eager : Bool} {n : Nat} {prev : Run} {stack : List (Run × Nat)}
    {items : List Nat} (laid : Laid s.lt eager n n prev stack items)
    (stop : ∀ top below, stack = top :: below → below ≠ [] → top.2 < 0) :
    prev.sorted = true → StablySorted s.lt items := by
  have below : ((stack.map Prod.fst).map Run.length).sum = 0 := by
    rcases stack with _ | ⟨top, _ | ⟨e, rest⟩⟩
    · rfl
    · simpa using laid.bottomEmpty top rfl
    · exact absurd (stop top (e :: rest) rfl (List.cons_ne_nil _ _)) (Nat.not_lt_zero _)
  have cover := laid.cover
  intro flag
  have sorted := laid.prev_sorted flag
  rw [below, List.drop_zero, List.take_of_length_le (by rw [laid.length]; omega)] at sorted
  exact sorted

/-- Rounds of the merge of runs from a layout of a permutation of `xs` sort `xs` stably, given a
round of fuel for every two items left and the fuel to merge the stack. -/
theorem driftLoop_spec (order : WeakOrder s.lt) {N : Nat} (fits : N ≤ 2 * s.scratch)
    {eager : Bool} (sorting : eager = false → QuicksortSorts s N) {n scale minGood : Nat}
    (bounded : n ≤ N) (progress : eager = true ∨ 2 ≤ minGood) {xs : List Nat} :
    ∀ (fuel : Nat) {scan : Nat} {prev : Run} {stack : List (Run × Nat)} {items : List Nat},
      Laid s.lt eager n scan prev stack items → items.Perm xs →
      (n - scan + 1) / 2 * 2 + stack.length + mergeNeed eager N ≤ fuel →
      ∃ sorted, driftLoop s fuel eager n scale minGood scan prev stack items = some sorted ∧
        SortsTo s.lt xs sorted := by
  intro fuel
  induction fuel with
  | zero =>
    intro scan prev stack items laid perm enough
    have := one_le_mergeNeed eager N
    omega
  | succ fuel ih =>
    intro scan prev stack items laid perm enough
    have need := one_le_mergeNeed eager N
    have count := laid.length
    by_cases more : scan < n
    · -- the next run is made at `scan`, the runs the merge tree joins before it are merged,
      have restLength : (items.drop scan).length = n - scan := by
        rw [List.length_drop, count]
      have enoughRun : 2 ≤ fuel := by omega
      obtain ⟨next, rest, created, made⟩ :=
        createRun_spec order
          (laid.rising.sublist (List.drop_sublist _ _) : Rising s.lt (items.drop scan))
          (List.ne_nil_of_length_pos (by rw [restLength]; omega)) progress enoughRun
      have long := made.long
      have within := made.within
      rw [restLength] at long within
      obtain ⟨prev', stack', items', collapsed, laid', perm', drop', shorter, -⟩ :=
        collapse_spec order fits sorting bounded
          (treeDepth (scan - prev.length) scan (scan + next.length) scale) fuel (laid.made made)
          (by omega)
      have front : (items.take scan).length = scan := by
        simp only [List.length_take]
        omega
      rw [List.drop_left' front] at drop'
      have pushed := laid'.push (treeDepth (scan - prev.length) scan (scan + next.length) scale)
        (by omega) (by rw [drop']; exact made.sorted) made.eagerSorted
      have permMade : (items.take scan ++ rest).Perm items := by
        have replaced := made.perm.append_left (items.take scan)
        rwa [List.take_append_drop] at replaced
      obtain ⟨sorted, looped, sorts⟩ := ih pushed ((perm'.trans permMade).trans perm)
        (by simp only [List.length_cons]; omega)
      refine ⟨sorted, ?_, sorts⟩
      rw [driftLoop, if_pos more, created]
      dsimp only
      rw [collapsed]
      exact looped
    · have done : scan = n := by
        have := laid.within
        omega
      subst done
      obtain ⟨prev', stack', items', collapsed, laid', perm', -, -, stop⟩ :=
        collapse_spec order fits sorting bounded 0 fuel laid (by omega)
      rw [driftLoop, if_neg more, collapsed]
      dsimp only
      cases flag : prev'.sorted
      · have notEager : eager = false := by
          cases isEager : eager
          · rfl
          · have := (laid'.eagerSorted isEager).1
            rw [flag] at this
            cases this
        simp only [notEager, mergeNeed, Bool.false_eq_true, if_false] at enough
        obtain ⟨sorted, quick, sorts⟩ := sorting notEager fuel (by omega) items' laid'.rising
          (by rw [laid'.length]; exact bounded)
        exact ⟨sorted, by simpa using quick, sorts.1.trans (perm'.trans perm), sorts.2⟩
      · exact ⟨items', by simp, perm'.trans perm, laid'.last_covers stop flag⟩

/-- The square-root estimate of more than `4096` items is at least two. -/
theorem two_le_sqrtApprox {n : Nat} (large : 4096 < n) : 2 ≤ sqrtApprox n := by
  have orLarge : 2 ^ 12 ≤ n ||| 1 := Nat.le_trans (by omega) Nat.left_le_or
  have log : 12 ≤ Nat.log2 (n ||| 1) := (Nat.le_log2 (by omega)).mpr orLarge
  have power : 2 ^ 6 ≤ 1 <<< ((1 + Nat.log2 (n ||| 1)) / 2) := by
    rw [Nat.one_shiftLeft]
    exact Nat.pow_le_pow_right (by omega) (by omega)
  unfold sqrtApprox
  dsimp only
  generalize 1 <<< ((1 + Nat.log2 (n ||| 1)) / 2) = high at power ⊢
  generalize n >>> ((1 + Nat.log2 (n ||| 1)) / 2) = low
  omega

/-- The merge of runs sorts stably every list whose ties rise, given a round of fuel for every
two items and the fuel to merge what is left; an unsorted run takes at least three items. -/
theorem drift_spec (order : WeakOrder s.lt) {N : Nat} (fits : N ≤ 2 * s.scratch)
    {eager : Bool} (sorting : eager = false → QuicksortSorts s N) {fuel : Nat}
    {items : List Nat} (rising : Rising s.lt items) (bounded : items.length ≤ N)
    (progress : eager = true ∨ 3 ≤ items.length)
    (enough : (N + 1) / 2 * 2 + mergeNeed eager N + 1 ≤ fuel) :
    ∃ sorted, drift s fuel eager items = some sorted ∧ SortsTo s.lt items sorted := by
  obtain ⟨fuel, rfl⟩ : ∃ f, fuel = f + 1 := ⟨fuel - 1, by omega⟩
  rw [drift]
  dsimp only
  by_cases few : items.length < 2
  · rw [if_pos few]
    exact ⟨items, rfl, sortsTo_self_of_short few⟩
  · rw [if_neg few]
    have minGood : eager = true ∨ 2 ≤ (if items.length ≤ 4096 then
        min (items.length - items.length / 2) 64 else sqrtApprox items.length) := by
      rcases progress with isEager | three
      · exact .inl isEager
      · right
        split
        · omega
        · exact two_le_sqrtApprox (by omega)
    exact driftLoop_spec order fits sorting bounded minGood fuel (Laid.start rising) (.refl _)
      (by simp only [List.length_nil, Nat.sub_zero]; omega)

end Runs

end StableSort
end PromptTrainer
