/-!
# The stable sort behind rankings

Rankings are computed by a hybrid stable sort: insertion sort for at most twenty items, and
above that a merge of runs, where a run is either found already in order or sorted on the
spot by a small sort (pairs of four or eight, insertion, and a merge from both ends) or by a
stable quicksort.  The runs are merged in the order of a balanced merge tree computed from
their midpoints.

For a strict weak order every such sort gives the one stable order.  Rewards are not one:
a NaN reward compares equal to every other reward, so which pairs are compared decides the
result, and the merge from both ends can notice that its two fronts did not meet.  So this
module follows the sort step by step: every comparison it makes is one the sort makes.

Items are positions `0, 1, …` and `lt i j` says whether item `i` strictly precedes item `j`.
How items are laid out in memory changes two choices of the sort: items of at most sixteen
bytes are presorted eight at a time, and the scratch space holds a number of items that
depends on their size.  `Sorter` records these.

* `StableSort.sort width lt items` is the sorted list of positions, or `none` when a merge
  found that `lt` is not a strict weak order.
-/

namespace PromptTrainer
namespace StableSort

/-- What a sort needs besides the items: the order, whether items are small enough to be
presorted eight at a time, and how many items the scratch space holds. -/
structure Sorter where
  lt : Nat → Nat → Bool
  compact : Bool
  scratch : Nat

/-- A stretch of items handled as one: its length and whether it is already in order. -/
structure Run where
  length : Nat
  sorted : Bool

/-- Places an item into a sorted list held last item first: it passes every item it strictly
precedes. -/
def place (lt : Nat → Nat → Bool) (x : Nat) : List Nat → List Nat
  | [] => [x]
  | y :: rest => if lt x y then y :: place lt x rest else x :: y :: rest

/-- Extends a sorted list by inserting more items one at a time, each from the back. -/
def insertAll (lt : Nat → Nat → Bool) (sorted more : List Nat) : List Nat :=
  (more.foldl (fun acc x => place lt x acc) sorted.reverse).reverse

/-- Insertion sort: every item after the first is inserted into the sorted items before it. -/
def insertionSort (lt : Nat → Nat → Bool) (items : List Nat) : List Nat :=
  insertAll lt [] items

/-- Sorts four items stably with five comparisons: the two pairs, then the two smallest and
the two largest of the pairs, then the two items left in between. -/
def sort4 (lt : Nat → Nat → Bool) (v0 v1 v2 v3 : Nat) : List Nat :=
  let c1 := lt v1 v0
  let c2 := lt v3 v2
  let a := if c1 then v1 else v0
  let b := if c1 then v0 else v1
  let c := if c2 then v3 else v2
  let d := if c2 then v2 else v3
  let c3 := lt c a
  let c4 := lt d b
  let least := if c3 then c else a
  let most := if c4 then b else d
  let unknownLeft := if c3 then a else if c4 then c else b
  let unknownRight := if c4 then d else if c3 then b else c
  let c5 := lt unknownRight unknownLeft
  let lo := if c5 then unknownRight else unknownLeft
  let hi := if c5 then unknownLeft else unknownRight
  [least, lo, hi, most]

/-- The first four items of a list sorted by `sort4` (the list has at least four). -/
def sortFirst4 (lt : Nat → Nat → Bool) : List Nat → List Nat
  | v0 :: v1 :: v2 :: v3 :: _ => sort4 lt v0 v1 v2 v3
  | other => other

/-- The state of a merge from both ends: the next unread item of each half from the front,
one past the last unread item of each half from the back, and what was written at each
end (the front part last item first). -/
structure Fronts where
  left : Nat
  right : Nat
  leftEnd : Nat
  rightEnd : Nat
  front : List Nat
  back : List Nat

/-- One step of the merge from both ends: the smaller front item is written at the front
and the larger back item at the back. -/
def Fronts.step (lt : Nat → Nat → Bool) (src : Array Nat) (s : Fronts) : Fronts :=
  let l := src.getD s.left 0
  let r := src.getD s.right 0
  let takeLeft := !lt r l
  let lb := src.getD (s.leftEnd - 1) 0
  let rb := src.getD (s.rightEnd - 1) 0
  let takeRight := !lt rb lb
  { left := if takeLeft then s.left + 1 else s.left
    right := if takeLeft then s.right else s.right + 1
    leftEnd := if takeRight then s.leftEnd else s.leftEnd - 1
    rightEnd := if takeRight then s.rightEnd - 1 else s.rightEnd
    front := (if takeLeft then l else r) :: s.front
    back := (if takeRight then rb else lb) :: s.back }

/-- Merges the two sorted halves of `src` (the first `size / 2` items and the rest) from both
ends at once; `none` when the fronts did not meet where a strict weak order puts them. -/
def bidirectionalMerge (lt : Nat → Nat → Bool) (src : Array Nat) : Option (List Nat) :=
  let n := src.size
  let half := n / 2
  let start : Fronts := ⟨0, half, half, n, [], []⟩
  let s := (List.range half).foldl (fun s _ => s.step lt src) start
  let s :=
    if n % 2 = 0 then s
    else if s.left < s.leftEnd then { s with left := s.left + 1, front := src.getD s.left 0 :: s.front }
    else { s with right := s.right + 1, front := src.getD s.right 0 :: s.front }
  if s.left = s.leftEnd ∧ s.right = s.rightEnd then some (s.front.reverse ++ s.back) else none

/-- Sorts eight items: two groups of four by `sort4`, then the merge from both ends. -/
def sortFirst8 (lt : Nat → Nat → Bool) (items : List Nat) : Option (List Nat) :=
  bidirectionalMerge lt (sortFirst4 lt items ++ sortFirst4 lt (items.drop 4)).toArray

/-- The small sort, for at most thirty-two items: each half is presorted (eight or four or
one item at its front) and completed by insertion, then the halves are merged from both
ends. -/
def smallSort (lt : Nat → Nat → Bool) (compact : Bool) (items : List Nat) : Option (List Nat) :=
  let n := items.length
  if n < 2 then some items
  else
    let half := n / 2
    let leftItems := items.take half
    let rightItems := items.drop half
    let presorted : Option (Nat × List Nat × List Nat) :=
      if compact ∧ 16 ≤ n then
        match sortFirst8 lt leftItems, sortFirst8 lt rightItems with
        | some l, some r => some (8, l, r)
        | _, _ => none
      else if 8 ≤ n then some (4, sortFirst4 lt leftItems, sortFirst4 lt rightItems)
      else some (1, leftItems.take 1, rightItems.take 1)
    match presorted with
    | none => none
    | some (p, l, r) =>
      let l := insertAll lt l (leftItems.drop p)
      let r := insertAll lt r (rightItems.drop p)
      bidirectionalMerge lt (l ++ r).toArray

/-- The forward merge of a shorter left run (kept aside) with the right run: the left item
is taken unless the right one strictly precedes it. -/
def mergeUp (lt : Nat → Nat → Bool) : List Nat → List Nat → List Nat
  | [], right => right
  | left, [] => left
  | l :: ls, r :: rs =>
    if lt r l then r :: mergeUp lt (l :: ls) rs else l :: mergeUp lt ls (r :: rs)
termination_by left right => left.length + right.length

/-- The backward merge of a longer left run with a shorter right run (kept aside), both held
last item first; `acc` is what is already placed at the back. -/
def mergeDown (lt : Nat → Nat → Bool) : List Nat → List Nat → List Nat → List Nat
  | [], right, acc => right.reverse ++ acc
  | left, [], acc => left.reverse ++ acc
  | l :: ls, r :: rs, acc =>
    if lt r l then mergeDown lt ls (r :: rs) (l :: acc) else mergeDown lt (l :: ls) rs (r :: acc)
termination_by left right => left.length + right.length

/-- Merges two sorted runs, walking from the end of the shorter one; with too little scratch
space for the shorter run nothing is merged. -/
def mergeRuns (s : Sorter) (left right : List Nat) : List Nat :=
  if left.isEmpty ∨ right.isEmpty ∨ s.scratch < min left.length right.length then left ++ right
  else if left.length ≤ right.length then mergeUp s.lt left right
  else mergeDown s.lt left.reverse right.reverse []

/-- Counts how many items continue a run after `prev`: strictly descending ones when
`descending`, otherwise ones that do not strictly precede their predecessor. -/
def runTail (lt : Nat → Nat → Bool) (descending : Bool) (prev : Nat) : List Nat → Nat
  | [] => 0
  | x :: more =>
    if (if descending then lt x prev else !lt x prev) then 1 + runTail lt descending x more else 0

/-- The run at the front of the items: its length and whether it is strictly descending. -/
def existingRun (lt : Nat → Nat → Bool) : List Nat → Nat × Bool
  | a :: b :: rest =>
    let descending := lt b a
    (2 + runTail lt descending b rest, descending)
  | items => (items.length, false)

/-- The median of the items at three positions, by two or three comparisons. -/
def median3 (lt : Nat → Nat → Bool) (src : Array Nat) (a b c : Nat) : Nat :=
  let x := lt (src.getD a 0) (src.getD b 0)
  let y := lt (src.getD a 0) (src.getD c 0)
  if x == y then
    if (lt (src.getD b 0) (src.getD c 0)) != x then c else b
  else a

/-- The pseudo-median of three sections of `n` items starting at `a`, `b` and `c`: for long
sections, the median of the pseudo-medians of their eighths. -/
def median3Rec (lt : Nat → Nat → Bool) (src : Array Nat) (a b c n : Nat) : Nat :=
  if h : 64 ≤ n * 8 then
    let n8 := n / 8
    have : n8 < n := by omega
    median3 lt src (median3Rec lt src a (a + n8 * 4) (a + n8 * 7) n8)
      (median3Rec lt src b (b + n8 * 4) (b + n8 * 7) n8)
      (median3Rec lt src c (c + n8 * 4) (c + n8 * 7) n8)
  else median3 lt src a b c
termination_by n

/-- The pivot position for at least eight items: the median of three samples at the
start, the middle and seven eighths, recursive for sixty-four items or more. -/
def choosePivot (lt : Nat → Nat → Bool) (src : Array Nat) : Nat :=
  let n8 := src.size / 8
  if src.size < 64 then median3 lt src 0 (n8 * 4) (n8 * 7)
  else median3Rec lt src 0 (n8 * 4) (n8 * 7) n8

/-- A stable partition around the item at `pivotPos`: items for which `goesLeft` holds keep
their order on the left, the others keep theirs on the right; the pivot itself is not
tested and goes left exactly when `pivotLeft`.  Answers the items and the left count. -/
def partition (goesLeft : Nat → Bool) (pivotPos : Nat) (pivotLeft : Bool) (items : List Nat) :
    List Nat × Nat :=
  let tagged := items.zipIdx.map (fun (x, i) => (x, if i = pivotPos then pivotLeft else goesLeft x))
  let left := (tagged.filter (·.2)).map (·.1)
  let right := (tagged.filter (fun t => !t.2)).map (·.1)
  (left ++ right, left.length)

/-- The depth in the merge tree of the node joining the runs `[left, mid)` and
`[mid, right)`: the leading zero bits of the difference of their scaled midpoints. -/
def treeDepth (left mid right scale : Nat) : Nat :=
  let word := Nat.pow 2 64
  let x := (scale * (left + mid)) % word
  let y := (scale * (mid + right)) % word
  let d := x ^^^ y
  if d = 0 then 64 else 63 - Nat.log2 d

/-- An approximate square root: a power of two near it, improved by one Newton step. -/
def sqrtApprox (n : Nat) : Nat :=
  let shift := (1 + Nat.log2 (n ||| 1)) / 2
  ((1 <<< shift) + (n >>> shift)) / 2

/-- How many imbalanced partitions the quicksort allows before it merges runs instead. -/
def partitionLimit (n : Nat) : Nat := 2 * Nat.log2 (n ||| 1)

mutual

/-- The stable quicksort of the items, with a budget of imbalanced partitions and the pivot
of the nearest partition to the left, if any; small inputs go to the small sort and a spent
budget to the merge of runs.  When the new pivot does not exceed that left pivot, or no
item precedes it, the items not after it are split off and left as they are. -/
def quicksort (s : Sorter) : Nat → Nat → Option Nat → List Nat → Option (List Nat)
  | 0, _, _, items => some items
  | fuel + 1, limit, ancestor, items =>
    if items.length ≤ 32 then smallSort s.lt s.compact items
    else if limit = 0 then drift s fuel true items
    else
      let limit := limit - 1
      let pivotPos := choosePivot s.lt items.toArray
      let pivot := items.getD pivotPos 0
      let atAncestor := match ancestor with
        | some a => !s.lt a pivot
        | none => false
      let (parted, leftLength) :=
        if atAncestor then (items, 0) else partition (fun x => s.lt x pivot) pivotPos false items
      if atAncestor ∨ leftLength = 0 then
        let (parted, equalLength) := partition (fun x => !s.lt pivot x) pivotPos true parted
        match quicksort s fuel limit none (parted.drop equalLength) with
        | some rest => some (parted.take equalLength ++ rest)
        | none => none
      else
        match quicksort s fuel limit (some pivot) (parted.drop leftLength),
            quicksort s fuel limit ancestor (parted.take leftLength) with
        | some right, some left => some (left ++ right)
        | _, _ => none

/-- The merge of runs over all items: runs are found or made from the front and merged as
the merge tree asks; `eager` runs are sorted when made, the others on their first merge. -/
def drift (s : Sorter) : Nat → Bool → List Nat → Option (List Nat)
  | 0, _, items => some items
  | fuel + 1, eager, items =>
    let n := items.length
    if n < 2 then some items
    else
      let scale := (Nat.pow 2 62 + n - 1) / n
      let minGood := if n ≤ 4096 then min (n - n / 2) 64 else sqrtApprox n
      driftLoop s fuel eager n scale minGood 0 ⟨0, true⟩ [] items

/-- One round of the merge of runs at position `scan`: the next run is made, earlier runs
whose merge node lies deeper than the new one are merged, and the run before it is pushed. -/
def driftLoop (s : Sorter) : Nat → Bool → Nat → Nat → Nat → Nat → Run → List (Run × Nat) →
    List Nat → Option (List Nat)
  | 0, _, _, _, _, _, _, _, items => some items
  | fuel + 1, eager, n, scale, minGood, scan, prev, stack, items =>
    if scan < n then
      match createRun s fuel minGood eager (items.drop scan) with
      | none => none
      | some (next, rest) =>
        let items := items.take scan ++ rest
        let depth := treeDepth (scan - prev.length) scan (scan + next.length) scale
        match collapse s fuel scan depth prev stack items with
        | none => none
        | some (prev, stack, items) =>
          driftLoop s fuel eager n scale minGood (scan + next.length) next ((prev, depth) :: stack)
            items
    else
      match collapse s fuel scan 0 prev stack items with
      | none => none
      | some (prev, _, items) => if prev.sorted then some items else stableQuicksort s fuel items

/-- Merges the run ending at `scan` with the runs below it on the stack while their merge
nodes lie at least as deep as `depth`; the bottom entry is never merged. -/
def collapse (s : Sorter) : Nat → Nat → Nat → Run → List (Run × Nat) → List Nat →
    Option (Run × List (Run × Nat) × List Nat)
  | 0, _, _, prev, stack, items => some (prev, stack, items)
  | fuel + 1, scan, depth, prev, stack, items =>
    match stack with
    | (left, d) :: below@(_ :: _) =>
      if depth ≤ d then
        let mergedLength := left.length + prev.length
        let start := scan - mergedLength
        match logicalMerge s fuel ((items.drop start).take mergedLength) left prev with
        | none => none
        | some (merged, slice) =>
          collapse s fuel scan depth merged below (items.take start ++ slice ++ items.drop scan)
      else some (prev, stack, items)
    | _ => some (prev, stack, items)

/-- The next run from the front of the items, with the items updated: an existing run of
at least `minGood` items (reversed if strictly descending), else the first thirty-two
items small-sorted when `eager`, else `minGood` items left unsorted. -/
def createRun (s : Sorter) : Nat → Nat → Bool → List Nat → Option (Run × List Nat)
  | 0, _, _, items => some (⟨items.length, true⟩, items)
  | fuel + 1, minGood, eager, items =>
    let n := items.length
    let found :=
      if minGood ≤ n then
        let (runLength, descending) := existingRun s.lt items
        if minGood ≤ runLength then some (runLength, descending) else none
      else none
    match found with
    | some (runLength, descending) =>
      some (⟨runLength, true⟩,
        if descending then (items.take runLength).reverse ++ items.drop runLength else items)
    | none =>
      if eager then
        let m := min 32 n
        match quicksort s fuel 0 none (items.take m) with
        | some sorted => some (⟨m, true⟩, sorted ++ items.drop m)
        | none => none
      else some (⟨min minGood n, false⟩, items)

/-- Joins two adjacent runs: when either is sorted, or they would not fit in the scratch
space, both are sorted and merged; otherwise they become one longer unsorted run. -/
def logicalMerge (s : Sorter) : Nat → List Nat → Run → Run → Option (Run × List Nat)
  | 0, items, _, _ => some (⟨items.length, true⟩, items)
  | fuel + 1, items, left, right =>
    let n := items.length
    if s.scratch < n ∨ left.sorted ∨ right.sorted then
      let leftItems := items.take left.length
      let rightItems := items.drop left.length
      let sortedLeft := if left.sorted then some leftItems else stableQuicksort s fuel leftItems
      let sortedRight := if right.sorted then some rightItems else stableQuicksort s fuel rightItems
      match sortedLeft, sortedRight with
      | some l, some r => some (⟨n, true⟩, mergeRuns s l r)
      | _, _ => none
    else some (⟨n, false⟩, items)

/-- The stable quicksort with its budget of imbalanced partitions. -/
def stableQuicksort (s : Sorter) : Nat → List Nat → Option (List Nat)
  | 0, items => some items
  | fuel + 1, items => quicksort s fuel (partitionLimit items.length) none items

end

/-- The scratch space, in items of `width` bytes, for sorting `n` items: enough for half of
them, for all of them up to a budget of eight million bytes, and for the small sort;
a four-kilobyte buffer is used instead whenever it holds as many. -/
def scratchFor (width n : Nat) : Nat :=
  let wanted := max (max (n - n / 2) (min n (8000000 / width))) 48
  let onStack := 4096 / width
  if wanted ≤ onStack then onStack else wanted

/-- Sorts the positions by `lt` for items of `width` bytes: insertion sort for at most
twenty items, the merge of runs above that, eager up to sixty-four items.  `none` when a
merge found that `lt` is not a strict weak order. -/
def sort (width : Nat) (lt : Nat → Nat → Bool) (items : List Nat) : Option (List Nat) :=
  let n := items.length
  if n < 2 then some items
  else if n ≤ 20 then some (insertionSort lt items)
  else drift ⟨lt, width ≤ 16, scratchFor width n⟩ (4 * n + 512) (n ≤ 64) items

end StableSort
end PromptTrainer
