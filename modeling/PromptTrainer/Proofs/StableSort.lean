import PromptTrainer.StableSort
/-!
# The stable sort never rejects a strict weak order

The sort behind rankings answers `none` in one place only: a merge from both ends whose two
ends did not meet.  This module shows that with a strict weak order (`WeakOrder`) that never
happens, whatever the items and whatever path the sort takes.

* The merge from both ends of two ordered halves follows the stable merge (`List.merge`) from
  the front and from the back at once.  The sides the stable merge takes its items from
  (`mergeSides`) account for both ends: after half the steps the front has taken the first
  sides and the back the last ones, so the ends meet and the result is the stable merge
  (`bidirectionalMerge_eq_merge`).
* The small sort orders the front of each half (four items, or two groups of four merged from
  both ends), completes each half by insertion, and merges the halves, which are then ordered
  (`smallSort_isSome`).
* Every other part of the sort only passes on a rejection from a part it calls
  (`quicksort_isSome` and the functions it calls, by induction on the fuel).

Main statement: `sort_isSome`.
-/

namespace PromptTrainer
namespace StableSort

/-- A strict weak order on items: no item precedes one that precedes it, and not preceding is
transitive. -/
structure WeakOrder (lt : Nat → Nat → Bool) : Prop where
  asymm : ∀ {a b}, lt a b = true → lt b a = false
  negTrans : ∀ {a b c}, lt a b = false → lt b c = false → lt a c = false

/-- Items in order: no item strictly precedes one before it. -/
def Ordered (lt : Nat → Nat → Bool) (l : List Nat) : Prop := l.Pairwise (fun a b => lt b a = false)

variable {lt : Nat → Nat → Bool}

/-! ### Strict weak orders -/

theorem WeakOrder.trans (order : WeakOrder lt) {a b c : Nat} (ab : lt a b = true)
    (bc : lt b c = true) : lt a c = true := by
  cases ac : lt a c
  · rw [order.negTrans (order.asymm ab) ac] at bc
    cases bc
  · rfl

theorem WeakOrder.lt_of_not_lt_of_lt (order : WeakOrder lt) {a b c : Nat}
    (ba : lt b a = false) (bc : lt b c = true) : lt a c = true := by
  cases ac : lt a c
  · rw [order.negTrans ba ac] at bc
    cases bc
  · rfl

theorem Ordered.prefix {l : List Nat} (ordered : Ordered lt l) (n : Nat) : Ordered lt (l.take n) :=
  ordered.sublist (List.take_sublist n l)

/-- The stable merge of ordered lists is ordered. -/
theorem Ordered.merge (order : WeakOrder lt) {left right : List Nat} (leftOrdered : Ordered lt left)
    (rightOrdered : Ordered lt right) :
    Ordered lt (List.merge left right (fun a b => !lt b a)) := by
  have lifted : ∀ {l : List Nat}, Ordered lt l → l.Pairwise (fun a b => (!lt b a) = true) :=
    fun ordered => ordered.imp (fun precedes => by simp [precedes])
  have merged := List.pairwise_merge
    (fun a b c ab bc => by simp only [Bool.not_eq_eq_eq_not, Bool.not_true] at ab bc ⊢
                           exact order.negTrans bc ab)
    (fun a b => by cases ab : lt a b <;> simp [order.asymm, ab])
    left right (lifted leftOrdered) (lifted rightOrdered)
  exact merged.imp (fun precedes => by simpa using precedes)

/-! ### The sides of a stable merge -/

def mergeSides (lt : Nat → Nat → Bool) : List Nat → List Nat → List Bool
  | [], right => right.map (fun _ => false)
  | x :: left, [] => (x :: left).map (fun _ => true)
  | x :: left, y :: right =>
    if lt y x then false :: mergeSides lt (x :: left) right else true :: mergeSides lt left (y :: right)

def weave : List Bool → List Nat → List Nat → List Nat
  | true :: sides, x :: left, right => x :: weave sides left right
  | false :: sides, left, y :: right => y :: weave sides left right
  | _, _, _ => []

theorem mergeSides_nil_right (left : List Nat) : mergeSides lt left [] = left.map (fun _ => true) := by
  cases left <;> simp [mergeSides]

theorem length_mergeSides (left right : List Nat) :
    (mergeSides lt left right).length = left.length + right.length := by
  fun_induction mergeSides lt left right <;> simp_all <;> omega

theorem count_true_mergeSides (left right : List Nat) :
    (mergeSides lt left right).count true = left.length := by
  fun_induction mergeSides lt left right <;> simp_all [List.map_const', List.count_replicate]

theorem count_false_mergeSides (left right : List Nat) :
    (mergeSides lt left right).count false = right.length := by
  fun_induction mergeSides lt left right <;> simp_all [List.map_const', List.count_replicate]

theorem mergeSides_eq_true_cons {left right : List Nat} {rest : List Bool}
    (taken : mergeSides lt left right = true :: rest) :
    ∃ x more, left = x :: more ∧ rest = mergeSides lt more right := by
  match left, right with
  | [], [] => simp [mergeSides] at taken
  | [], y :: right => simp [mergeSides] at taken
  | x :: more, [] =>
    simp only [mergeSides, List.map_cons, List.cons.injEq, true_and] at taken
    exact ⟨x, more, rfl, by rw [← taken, mergeSides_nil_right]⟩
  | x :: more, y :: right =>
    by_cases precedes : lt y x = true
    · simp [mergeSides, precedes] at taken
    · simp only [mergeSides, precedes, if_false, Bool.false_eq_true, List.cons.injEq, true_and] at taken
      exact ⟨x, more, rfl, taken.symm⟩

theorem mergeSides_eq_false_cons {left right : List Nat} {rest : List Bool}
    (taken : mergeSides lt left right = false :: rest) :
    ∃ y more, right = y :: more ∧ rest = mergeSides lt left more := by
  match left, right with
  | [], [] => simp [mergeSides] at taken
  | [], y :: more =>
    simp only [mergeSides, List.map_cons, List.cons.injEq, true_and] at taken
    exact ⟨y, more, rfl, by rw [← taken]; simp [mergeSides]⟩
  | x :: left, [] => simp [mergeSides] at taken
  | x :: left, y :: more =>
    by_cases precedes : lt y x = true
    · simp only [mergeSides, precedes, if_true, List.cons.injEq, true_and] at taken
      exact ⟨y, more, rfl, taken.symm⟩
    · simp [mergeSides, precedes] at taken

theorem mergeSides_append_right {b : Nat} (left right : List Nat)
    (after : ∀ x ∈ left, lt b x = false) :
    mergeSides lt left (right ++ [b]) = mergeSides lt left right ++ [false] := by
  induction left generalizing right with
  | nil => simp [mergeSides]
  | cons x left ih =>
    have rest : ∀ z ∈ left, lt b z = false := fun z member => after z (List.mem_cons_of_mem x member)
    induction right with
    | nil =>
      have first : lt b x = false := after x List.mem_cons_self
      have inner := ih [] rest
      simp only [List.nil_append, mergeSides_nil_right] at inner
      simp [mergeSides, first, inner]
    | cons y right restMerged =>
      by_cases precedes : lt y x = true
      · simp [mergeSides, precedes, restMerged]
      · have inner := ih (y :: right) rest
        simp only [List.cons_append] at inner
        simp [mergeSides, precedes, inner]

theorem mergeSides_append_left {a : Nat} (left right : List Nat)
    (before : ∀ y ∈ right, lt y a = true) :
    mergeSides lt (left ++ [a]) right = mergeSides lt left right ++ [true] := by
  induction right generalizing left with
  | nil => simp [mergeSides_nil_right]
  | cons y right ih =>
    have rest : ∀ z ∈ right, lt z a = true := fun z member => before z (List.mem_cons_of_mem y member)
    induction left with
    | nil =>
      have first : lt y a = true := before y List.mem_cons_self
      have inner := ih [] rest
      simp only [List.nil_append] at inner
      simp [mergeSides, first, inner]
    | cons x left restMerged =>
      by_cases precedes : lt y x = true
      · have inner := ih (x :: left) rest
        simp only [List.cons_append] at inner
        simp [mergeSides, precedes, inner]
      · simp [mergeSides, precedes, restMerged]

/-- The last side of a stable merge of two ordered lists: the right one's last item when it
does not strictly precede the left one's. -/
theorem mergeSides_append_append (order : WeakOrder lt) {a b : Nat} {left right : List Nat}
    (leftOrdered : Ordered lt (left ++ [a])) (rightOrdered : Ordered lt (right ++ [b])) :
    mergeSides lt (left ++ [a]) (right ++ [b]) =
      if lt b a then mergeSides lt left (right ++ [b]) ++ [true]
      else mergeSides lt (left ++ [a]) right ++ [false] := by
  unfold Ordered at leftOrdered rightOrdered
  rw [List.pairwise_append] at leftOrdered rightOrdered
  cases last : lt b a with
  | false =>
    refine mergeSides_append_right _ _ (fun x member => ?_)
    rcases List.mem_append.mp member with member | member
    · exact order.negTrans last (leftOrdered.2.2 x member a (List.mem_singleton_self a))
    · rw [List.mem_singleton.mp member]
      exact last
  | true =>
    refine mergeSides_append_left _ _ (fun y member => ?_)
    rcases List.mem_append.mp member with member | member
    · exact order.lt_of_not_lt_of_lt (rightOrdered.2.2 y member b (List.mem_singleton_self b)) last
    · rw [List.mem_singleton.mp member]
      exact last

theorem weave_rights (right : List Nat) : weave (right.map (fun _ => false)) [] right = right := by
  induction right with
  | nil => rfl
  | cons y right ih => simp only [List.map_cons, weave, ih]

theorem weave_lefts (left : List Nat) : weave (left.map (fun _ => true)) left [] = left := by
  induction left with
  | nil => rfl
  | cons x left ih => simp only [List.map_cons, weave, ih]

theorem merge_eq_weave (left right : List Nat) :
    List.merge left right (fun a b => !lt b a) = weave (mergeSides lt left right) left right := by
  fun_induction mergeSides lt left right with
  -- `simp only`: with the whole library in scope, `simp` rewrites a constant map to a replicate
  | case1 right => simp only [List.nil_merge, weave_rights]
  | case2 x left => simp only [List.merge_right, weave_lefts]
  | case3 x left y right precedes ih => simp [precedes, weave, ih]
  | case4 x left y right follows ih => simp [follows, weave, ih]

theorem weave_append (front back : List Bool) (left right : List Nat)
    (fitsLeft : front.count true ≤ left.length) (fitsRight : front.count false ≤ right.length) :
    weave (front ++ back) left right =
      weave front left right ++ weave back (left.drop (front.count true)) (right.drop (front.count false)) := by
  induction front generalizing left right with
  | nil => simp [weave]
  | cons side front ih =>
    cases side with
    | true =>
      obtain ⟨x, left, rfl⟩ := List.exists_cons_of_length_pos
        (by simp at fitsLeft; omega : 0 < left.length)
      simp only [List.count_cons, List.length_cons] at fitsLeft fitsRight
      simp [weave, ih left right (by simpa using fitsLeft) (by simpa using fitsRight)]
    | false =>
      obtain ⟨y, right, rfl⟩ := List.exists_cons_of_length_pos
        (by simp at fitsRight; omega : 0 < right.length)
      simp only [List.count_cons, List.length_cons] at fitsLeft fitsRight
      simp [weave, ih left right (by simpa using fitsLeft) (by simpa using fitsRight)]

/-! ### The merge from both ends -/

theorem getD_append_left {left right : List Nat} {i : Nat} (within : i < left.length) :
    (left ++ right).toArray.getD i 0 = left[i] := by
  simp [Array.getD, List.getElem_append_left within]
  omega

theorem getD_append_right {left right : List Nat} {i : Nat} (past : left.length ≤ i)
    (within : i - left.length < right.length) :
    (left ++ right).toArray.getD i 0 = right[i - left.length] := by
  have inside : i < left.length + right.length := by omega
  simp [Array.getD, inside, List.getElem_append_right past]

/-- The front of a merge from both ends of `left` and `right` after `k` steps: it took the
first `k` sides of the stable merge and wrote their items, last first. -/
def FrontAt (lt : Nat → Nat → Bool) (left right : List Nat) (k : Nat) (s : Fronts) : Prop :=
  ∃ taken : List Bool, taken.length = k ∧
    mergeSides lt left right =
      taken ++ mergeSides lt (left.drop s.left) (right.drop (s.right - left.length)) ∧
    s.left = taken.count true ∧ s.right = left.length + taken.count false ∧
    s.front.reverse = weave taken left right

theorem FrontAt.congr {left right : List Nat} {k : Nat} {s s' : Fronts}
    (front : FrontAt lt left right k s)
    (sameLeft : s'.left = s.left) (sameRight : s'.right = s.right) (sameFront : s'.front = s.front) :
    FrontAt lt left right k s' := by
  unfold FrontAt
  rw [sameLeft, sameRight, sameFront]
  exact front

theorem FrontAt.takeLeft {left right : List Nat} {k : Nat} {s : Fronts} {rest : List Bool}
    (front : FrontAt lt left right k s)
    (next : mergeSides lt (left.drop s.left) (right.drop (s.right - left.length)) = true :: rest) :
    ∃ within : s.left < left.length,
      FrontAt lt left right (k + 1) { s with left := s.left + 1, front := left[s.left] :: s.front } := by
  obtain ⟨taken, length, sides, atLeft, atRight, written⟩ := front
  obtain ⟨x, more, dropped, restSides⟩ := mergeSides_eq_true_cons next
  have within : s.left < left.length := by
    have := congrArg List.length dropped
    simp at this
    omega
  have head : left[s.left] = x := by
    have := List.drop_eq_getElem_cons within
    rw [dropped] at this
    exact (List.cons.inj this).1.symm
  have counts := congrArg (List.count false) sides
  simp only [List.count_append, count_false_mergeSides] at counts
  refine ⟨within, taken ++ [true], by simp [length], ?_, by simp [atLeft], by simp [atRight], ?_⟩
  · rw [sides, next, restSides, ← List.tail_drop, dropped]
    simp
  · rw [List.reverse_cons, written, head, weave_append _ _ _ _ (by omega) (by omega), ← atLeft,
      dropped]
    simp [weave]

theorem FrontAt.takeRight {left right : List Nat} {k : Nat} {s : Fronts} {rest : List Bool}
    (front : FrontAt lt left right k s)
    (next : mergeSides lt (left.drop s.left) (right.drop (s.right - left.length)) = false :: rest) :
    ∃ within : s.right - left.length < right.length,
      FrontAt lt left right (k + 1)
        { s with right := s.right + 1, front := right[s.right - left.length] :: s.front } := by
  obtain ⟨taken, length, sides, atLeft, atRight, written⟩ := front
  obtain ⟨y, more, dropped, restSides⟩ := mergeSides_eq_false_cons next
  have within : s.right - left.length < right.length := by
    have := congrArg List.length dropped
    simp at this
    omega
  have head : right[s.right - left.length] = y := by
    have := List.drop_eq_getElem_cons within
    rw [dropped] at this
    exact (List.cons.inj this).1.symm
  have counts := congrArg (List.count true) sides
  simp only [List.count_append, count_true_mergeSides] at counts
  have shifted : s.right + 1 - left.length = s.right - left.length + 1 := by omega
  refine ⟨within, taken ++ [false], by simp [length], ?_, by simp [atLeft], by simp [atRight]; omega, ?_⟩
  · rw [sides, next, restSides, shifted, ← List.tail_drop, dropped]
    simp
  · have fits : taken.count false = s.right - left.length := by omega
    rw [List.reverse_cons, written, head, weave_append _ _ _ _ (by omega) (by omega), fits,
      dropped]
    simp [weave]

/-- While fewer than half the items are written at the front, a step writes the next item of
the stable merge there. -/
theorem FrontAt.step {left right : List Nat} {k : Nat} {s : Fronts}
    (front : FrontAt lt left right k s)
    (early : k < left.length) (balanced : left.length ≤ right.length) :
    FrontAt lt left right (k + 1) (s.step lt (left ++ right).toArray) := by
  obtain ⟨taken, length, sides, atLeft, atRight, written⟩ := front
  have leftWithin : s.left < left.length := by
    have : taken.count true ≤ taken.length := List.count_le_length
    omega
  have rightWithin : s.right - left.length < right.length := by
    have : taken.count false ≤ taken.length := List.count_le_length
    omega
  have readLeft : (left ++ right).toArray.getD s.left 0 = left[s.left] :=
    getD_append_left leftWithin
  have readRight :
      (left ++ right).toArray.getD s.right 0 = right[s.right - left.length] :=
    getD_append_right (by omega) rightWithin
  have front : FrontAt lt left right k s := ⟨taken, length, sides, atLeft, atRight, written⟩
  -- both halves still have an item at the front: the next side is the comparison's
  have next : mergeSides lt (left.drop s.left) (right.drop (s.right - left.length)) =
      if lt right[s.right - left.length] left[s.left] then
        false :: mergeSides lt (left.drop s.left) (right.drop (s.right - left.length + 1))
      else true :: mergeSides lt (left.drop (s.left + 1)) (right.drop (s.right - left.length)) := by
    rw [List.drop_eq_getElem_cons leftWithin, List.drop_eq_getElem_cons rightWithin, mergeSides]
  cases decision : lt right[s.right - left.length] left[s.left] with
  | true =>
    rw [if_pos decision] at next
    obtain ⟨_, advanced⟩ := front.takeRight next
    exact advanced.congr (by simp [Fronts.step, readLeft, readRight, decision])
      (by simp [Fronts.step, readLeft, readRight, decision])
      (by simp [Fronts.step, readLeft, readRight, decision])
  | false =>
    rw [if_neg (by simp [decision])] at next
    obtain ⟨_, advanced⟩ := front.takeLeft next
    exact advanced.congr (by simp [Fronts.step, readLeft, readRight, decision])
      (by simp [Fronts.step, readLeft, readRight, decision])
      (by simp [Fronts.step, readLeft, readRight, decision])

/-- The back of a merge from both ends of `left` and `right` after `k` steps: it took the
last `k` sides of the stable merge and wrote their items, first first. -/
def BackAt (lt : Nat → Nat → Bool) (left right : List Nat) (k : Nat) (s : Fronts) : Prop :=
  ∃ taken : List Bool, taken.length = k ∧
    mergeSides lt left right =
      mergeSides lt (left.take s.leftEnd) (right.take (s.rightEnd - left.length)) ++ taken ∧
    s.leftEnd + taken.count true = left.length ∧
    s.rightEnd + taken.count false = left.length + right.length ∧
    s.back = weave taken (left.drop s.leftEnd) (right.drop (s.rightEnd - left.length))

theorem BackAt.congr {left right : List Nat} {k : Nat} {s s' : Fronts}
    (back : BackAt lt left right k s)
    (sameLeftEnd : s'.leftEnd = s.leftEnd) (sameRightEnd : s'.rightEnd = s.rightEnd)
    (sameBack : s'.back = s.back) :
    BackAt lt left right k s' := by
  unfold BackAt
  rw [sameLeftEnd, sameRightEnd, sameBack]
  exact back

/-- While fewer than half the items are written at the back, a step writes the item before
them in the stable merge. -/
theorem BackAt.step (order : WeakOrder lt) {left right : List Nat} {k : Nat} {s : Fronts}
    (leftOrdered : Ordered lt left) (rightOrdered : Ordered lt right)
    (back : BackAt lt left right k s)
    (early : k < left.length) (balanced : left.length ≤ right.length) :
    BackAt lt left right (k + 1) (s.step lt (left ++ right).toArray) := by
  obtain ⟨taken, length, sides, atLeft, atRight, written⟩ := back
  have leftCount : taken.count true ≤ taken.length := List.count_le_length
  have rightCount : taken.count false ≤ taken.length := List.count_le_length
  obtain ⟨i, leftEnd⟩ : ∃ i, s.leftEnd = i + 1 := ⟨s.leftEnd - 1, by omega⟩
  obtain ⟨j, rightEnd⟩ : ∃ j, s.rightEnd - left.length = j + 1 := ⟨s.rightEnd - left.length - 1, by omega⟩
  have leftWithin : i < left.length := by omega
  have rightWithin : j < right.length := by omega
  have readLeft : (left ++ right).toArray.getD (s.leftEnd - 1) 0 = left[i] := by
    rw [leftEnd, Nat.add_sub_cancel]
    exact getD_append_left leftWithin
  have readRight : (left ++ right).toArray.getD (s.rightEnd - 1) 0 = right[j] := by
    have place : s.rightEnd - 1 - left.length = j := by omega
    rw [getD_append_right (by omega) (by omega)]
    simp only [place]
  have lastSides := mergeSides_append_append order
    (by rw [← List.take_succ_eq_append_getElem leftWithin]; exact leftOrdered.prefix (i + 1))
    (by rw [← List.take_succ_eq_append_getElem rightWithin]; exact rightOrdered.prefix (j + 1))
  rw [← List.take_succ_eq_append_getElem leftWithin,
    ← List.take_succ_eq_append_getElem rightWithin] at lastSides
  cases decision : lt right[j] left[i] with
  | true =>
    rw [if_pos decision] at lastSides
    have movedEnd : (s.step lt (left ++ right).toArray).leftEnd = i := by
      simp [Fronts.step, readLeft, readRight, decision]
      omega
    have keptEnd : (s.step lt (left ++ right).toArray).rightEnd = s.rightEnd := by
      simp [Fronts.step, readLeft, readRight, decision]
    have wrote : (s.step lt (left ++ right).toArray).back = left[i] :: s.back := by
      simp [Fronts.step, readLeft, readRight, decision]
    refine ⟨true :: taken, by simp [length], ?_, ?_, ?_, ?_⟩
    · rw [movedEnd, keptEnd, sides, leftEnd, rightEnd, lastSides]
      simp
    · rw [movedEnd, List.count_cons_self]
      omega
    · rw [keptEnd, List.count_cons]
      simpa using atRight
    · rw [movedEnd, keptEnd, wrote, written, List.drop_eq_getElem_cons leftWithin, leftEnd]
      simp [weave]
  | false =>
    rw [if_neg (by simp [decision])] at lastSides
    have keptEnd : (s.step lt (left ++ right).toArray).leftEnd = s.leftEnd := by
      simp [Fronts.step, readLeft, readRight, decision]
    have movedEnd : (s.step lt (left ++ right).toArray).rightEnd - left.length = j := by
      simp [Fronts.step, readLeft, readRight, decision]
      omega
    have wrote : (s.step lt (left ++ right).toArray).back = right[j] :: s.back := by
      simp [Fronts.step, readLeft, readRight, decision]
    refine ⟨false :: taken, by simp [length], ?_, ?_, ?_, ?_⟩
    · rw [movedEnd, keptEnd, sides, leftEnd, rightEnd, lastSides]
      simp
    · rw [keptEnd, List.count_cons]
      simpa using atLeft
    · have moved : (s.step lt (left ++ right).toArray).rightEnd = s.rightEnd - 1 := by
        simp [Fronts.step, readLeft, readRight, decision]
      rw [moved, List.count_cons_self]
      omega
    · rw [movedEnd, keptEnd, wrote, written, List.drop_eq_getElem_cons rightWithin, rightEnd]
      simp [weave]

/-- The two ends split the sides of the stable merge: what the front took, then what the
back took. -/
theorem sides_eq_front_append_back {left right : List Nat} {k j : Nat} {s : Fronts}
    {taken taken' : List Bool} (length : taken.length = k) (length' : taken'.length = j)
    (total : k + j = left.length + right.length)
    (front : mergeSides lt left right =
      taken ++ mergeSides lt (left.drop s.left) (right.drop (s.right - left.length)))
    (back : mergeSides lt left right =
      mergeSides lt (left.take s.leftEnd) (right.take (s.rightEnd - left.length)) ++ taken') :
    mergeSides lt left right = taken ++ taken' := by
  have whole : (mergeSides lt left right).length = left.length + right.length :=
    length_mergeSides left right
  have rest : mergeSides lt (left.drop s.left) (right.drop (s.right - left.length)) = taken' := by
    have fromFront : (mergeSides lt left right).drop taken.length =
        mergeSides lt (left.drop s.left) (right.drop (s.right - left.length)) := by
      rw [front, List.drop_left]
    have fromBack : (mergeSides lt left right).drop taken.length = taken' := by
      have lengths : taken.length =
          (mergeSides lt (left.take s.leftEnd) (right.take (s.rightEnd - left.length))).length := by
        have := congrArg List.length back
        simp only [List.length_append] at this
        omega
      rw [lengths]
      conv => lhs; rw [back]
      exact List.drop_left
    rw [← fromFront, fromBack]
  rw [front, rest]

/-- When the two ends have written every item between them, they meet, and the items written
are the stable merge. -/
theorem FrontAt.meets {left right : List Nat} {k j : Nat} {s : Fronts}
    (front : FrontAt lt left right k s) (back : BackAt lt left right j s)
    (total : k + j = left.length + right.length) :
    s.left = s.leftEnd ∧ s.right = s.rightEnd ∧
      s.front.reverse ++ s.back = List.merge left right (fun a b => !lt b a) := by
  obtain ⟨taken, length, sides, atLeft, atRight, written⟩ := front
  obtain ⟨taken', length', sides', atLeftEnd, atRightEnd, written'⟩ := back
  have split := sides_eq_front_append_back length length' total sides sides'
  have trues := congrArg (List.count true) split
  have falses := congrArg (List.count false) split
  simp only [List.count_append, count_true_mergeSides, count_false_mergeSides] at trues falses
  have meetLeft : s.left = s.leftEnd := by omega
  have meetRight : s.right = s.rightEnd := by omega
  refine ⟨meetLeft, meetRight, ?_⟩
  rw [merge_eq_weave, split, weave_append _ _ _ _ (by omega) (by omega), written, written',
    ← meetLeft, ← meetRight, ← atLeft, atRight, Nat.add_sub_cancel_left]

/-- With an odd number of items, the item left between the two ends after half the steps is
written at the front, from the half that still has one. -/
theorem FrontAt.middle {left right : List Nat} {s : Fronts}
    (front : FrontAt lt left right left.length s) (back : BackAt lt left right left.length s)
    (odd : right.length = left.length + 1) :
    FrontAt lt left right (left.length + 1)
      (if s.left < s.leftEnd then
        { s with left := s.left + 1, front := (left ++ right).toArray.getD s.left 0 :: s.front }
       else
        { s with right := s.right + 1, front := (left ++ right).toArray.getD s.right 0 :: s.front }) := by
  have front' := front
  obtain ⟨taken, length, sides, atLeft, atRight, written⟩ := front
  obtain ⟨taken', length', sides', atLeftEnd, atRightEnd, written'⟩ := back
  have whole : (mergeSides lt left right).length = left.length + right.length :=
    length_mergeSides left right
  obtain ⟨side, between⟩ : ∃ side, mergeSides lt (left.drop s.left) (right.drop (s.right - left.length)) =
      side :: taken' := by
    have fromFront : (mergeSides lt left right).drop taken.length =
        mergeSides lt (left.drop s.left) (right.drop (s.right - left.length)) := by
      rw [sides, List.drop_left]
    have fromBack : (mergeSides lt left right).drop (taken.length + 1) = taken' := by
      have lengths : taken.length + 1 =
          (mergeSides lt (left.take s.leftEnd) (right.take (s.rightEnd - left.length))).length := by
        have := congrArg List.length sides'
        simp only [List.length_append] at this
        omega
      rw [lengths]
      conv => lhs; rw [sides']
      exact List.drop_left
    have nonempty : taken.length < (mergeSides lt left right).length := by omega
    rw [← fromFront, List.drop_eq_getElem_cons nonempty, ← fromBack]
    exact ⟨_, rfl⟩
  have trues := congrArg (List.count true) sides
  rw [between] at trues
  simp only [List.count_append, List.count_cons, count_true_mergeSides] at trues
  cases side with
  | true =>
    have inside : s.left < s.leftEnd := by simp at trues; omega
    obtain ⟨within, advanced⟩ := front'.takeLeft between
    rw [if_pos inside]
    exact advanced.congr rfl rfl (by rw [getD_append_left within])
  | false =>
    have outside : ¬ s.left < s.leftEnd := by simp at trues; omega
    obtain ⟨within, advanced⟩ := front'.takeRight between
    rw [if_neg outside]
    exact advanced.congr rfl rfl (by rw [getD_append_right (by omega) within])

/-- The ends of a merge from both ends after `k` steps, each writing one item at the front and
one at the back. -/
theorem stepped_ends (order : WeakOrder lt) {left right : List Nat}
    (leftOrdered : Ordered lt left) (rightOrdered : Ordered lt right)
    (balanced : left.length ≤ right.length) :
    ∀ k ≤ left.length,
      FrontAt lt left right k ((List.range k).foldl (fun s _ => s.step lt (left ++ right).toArray)
        ⟨0, left.length, left.length, left.length + right.length, [], []⟩) ∧
      BackAt lt left right k ((List.range k).foldl (fun s _ => s.step lt (left ++ right).toArray)
        ⟨0, left.length, left.length, left.length + right.length, [], []⟩)
  | 0, _ => by
    refine ⟨⟨[], rfl, by simp, rfl, by simp, rfl⟩, ⟨[], rfl, by simp, by simp, by simp, by simp [weave]⟩⟩
  | k + 1, early => by
    obtain ⟨front, back⟩ := stepped_ends order leftOrdered rightOrdered balanced k (by omega)
    rw [List.range_succ, List.foldl_append, List.foldl_cons, List.foldl_nil]
    exact ⟨front.step (by omega) balanced,
      back.step order leftOrdered rightOrdered (by omega) balanced⟩

/-- A merge from both ends of two ordered halves, the left one holding half the items, rounded
down, never finds the order inconsistent: it gives the stable merge of the halves. -/
theorem bidirectionalMerge_eq_merge (order : WeakOrder lt) {left right : List Nat}
    (leftOrdered : Ordered lt left) (rightOrdered : Ordered lt right)
    (halves : left.length = (left.length + right.length) / 2) :
    bidirectionalMerge lt (left ++ right).toArray =
      some (List.merge left right (fun a b => !lt b a)) := by
  have size : (left ++ right).toArray.size = left.length + right.length := by simp
  have balanced : left.length ≤ right.length := by omega
  obtain ⟨front, back⟩ := stepped_ends order leftOrdered rightOrdered balanced left.length (Nat.le_refl _)
  unfold bidirectionalMerge
  simp only [size, ← halves]
  split
  · -- an even number of items: the ends meet after half the steps
    rename_i even
    obtain ⟨meetLeft, meetRight, written⟩ := front.meets back (by omega)
    simp [meetLeft, meetRight, written]
  · -- an odd number: the middle item goes to the front first
    rename_i odd
    have middle := front.middle back (by omega)
    obtain ⟨meetLeft, meetRight, written⟩ := middle.meets (back.congr (by split <;> rfl)
      (by split <;> rfl) (by split <;> rfl)) (by omega)
    simp only [meetLeft, meetRight, written, and_self, if_true]

/-! ### Insertion and the small sort -/

theorem mem_place {x z : Nat} : ∀ {held : List Nat}, z ∈ place lt x held ↔ z = x ∨ z ∈ held
  | [] => by simp [place]
  | y :: rest => by
    unfold place
    split
    · simp only [List.mem_cons, mem_place, or_left_comm]
    · exact List.mem_cons

theorem length_place (x : Nat) : ∀ held : List Nat, (place lt x held).length = held.length + 1
  | [] => rfl
  | y :: rest => by
    unfold place
    split
    · simp [length_place x rest]
    · simp

/-- Placing an item into a list held last item first keeps it so held. -/
theorem place_descending (order : WeakOrder lt) (x : Nat) :
    ∀ {held : List Nat}, held.Pairwise (fun a b => lt a b = false) →
      (place lt x held).Pairwise (fun a b => lt a b = false)
  | [], _ => by simp [place]
  | y :: rest, descending => by
    rw [List.pairwise_cons] at descending
    unfold place
    split
    · -- the item passes `y`, which stays ahead of it
      rename_i passes
      refine List.pairwise_cons.mpr ⟨fun z member => ?_, place_descending order x descending.2⟩
      rcases mem_place.mp member with rfl | member
      · exact order.asymm passes
      · exact descending.1 z member
    · -- the item stops before `y`, and so before everything after `y`
      rename_i stays
      have stays : lt x y = false := by simpa using stays
      refine List.pairwise_cons.mpr ⟨fun z member => ?_, List.pairwise_cons.mpr descending⟩
      rcases List.mem_cons.mp member with rfl | member
      · exact stays
      · exact order.negTrans stays (descending.1 z member)

/-- Insertion keeps an ordered list ordered, and keeps every item. -/
theorem insertAll_ordered (order : WeakOrder lt) {sorted : List Nat} (ordered : Ordered lt sorted)
    (more : List Nat) :
    Ordered lt (insertAll lt sorted more) ∧
      (insertAll lt sorted more).length = sorted.length + more.length := by
  unfold insertAll Ordered
  rw [List.pairwise_reverse, List.length_reverse]
  -- the items are held last first while they are inserted
  have held : sorted.reverse.Pairwise (fun a b => lt a b = false) := by
    rw [List.pairwise_reverse]
    exact ordered
  have reversedLength : sorted.length = sorted.reverse.length := List.length_reverse.symm
  rw [reversedLength]
  generalize sorted.reverse = acc at held
  induction more generalizing acc with
  | nil => exact ⟨held, by simp⟩
  | cons x more ih =>
    obtain ⟨descending, counted⟩ := ih (place lt x acc) (place_descending order x held)
    refine ⟨descending, ?_⟩
    simp only [List.foldl_cons, counted, length_place, List.length_cons]
    omega

/-- The sort of four items orders them. -/
theorem sort4_ordered (order : WeakOrder lt) (v0 v1 v2 v3 : Nat) :
    Ordered lt (sort4 lt v0 v1 v2 v3) := by
  have asymm := @order.asymm
  have negTrans := @order.negTrans
  have trans := @order.trans
  unfold sort4 Ordered
  simp only [List.pairwise_cons, List.mem_cons, List.not_mem_nil, forall_eq_or_imp,
    List.Pairwise.nil]
  cases c1 : lt v1 v0 <;> cases c2 : lt v3 v2 <;> simp only [Bool.false_eq_true, if_false, if_true] <;>
    grind

theorem sortFirst4_ordered (order : WeakOrder lt) {items : List Nat} (enough : 4 ≤ items.length) :
    Ordered lt (sortFirst4 lt items) ∧ (sortFirst4 lt items).length = 4 := by
  match items, enough with
  | v0 :: v1 :: v2 :: v3 :: _, _ => exact ⟨sort4_ordered order v0 v1 v2 v3, rfl⟩

theorem sortFirst8_ordered (order : WeakOrder lt) {items : List Nat} (enough : 8 ≤ items.length) :
    ∃ sorted, sortFirst8 lt items = some sorted ∧ Ordered lt sorted ∧ sorted.length = 8 := by
  obtain ⟨firstOrdered, firstLength⟩ := sortFirst4_ordered order (by omega : 4 ≤ items.length)
  obtain ⟨secondOrdered, secondLength⟩ :=
    sortFirst4_ordered order (by simp; omega : 4 ≤ (items.drop 4).length)
  exact ⟨_, bidirectionalMerge_eq_merge order firstOrdered secondOrdered
    (by rw [firstLength, secondLength]), firstOrdered.merge order secondOrdered,
    by simp [firstLength, secondLength]⟩

/-- Halves presorted at their front and completed by insertion merge from both ends. -/
theorem merge_presorted (order : WeakOrder lt) {p : Nat} {l r leftItems rightItems : List Nat}
    (leftOrdered : Ordered lt l) (rightOrdered : Ordered lt r)
    (leftLength : l.length = p) (rightLength : r.length = p)
    (fits : p ≤ leftItems.length)
    (halves : leftItems.length = (leftItems.length + rightItems.length) / 2) :
    (bidirectionalMerge lt
      (insertAll lt l (leftItems.drop p) ++ insertAll lt r (rightItems.drop p)).toArray).isSome := by
  obtain ⟨leftDone, leftCount⟩ := insertAll_ordered order leftOrdered (leftItems.drop p)
  obtain ⟨rightDone, rightCount⟩ := insertAll_ordered order rightOrdered (rightItems.drop p)
  simp only [List.length_drop] at leftCount rightCount
  rw [bidirectionalMerge_eq_merge order leftDone rightDone (by omega)]
  rfl

/-- The small sort never finds a strict weak order inconsistent. -/
theorem smallSort_isSome (order : WeakOrder lt) (compact : Bool) (items : List Nat) :
    (smallSort lt compact items).isSome := by
  unfold smallSort
  dsimp only
  split
  · rfl
  · rename_i many
    have halves : (items.take (items.length / 2)).length =
        ((items.take (items.length / 2)).length + (items.drop (items.length / 2)).length) / 2 := by
      simp only [List.length_take, List.length_drop]
      omega
    by_cases big : compact = true ∧ 16 ≤ items.length
    · obtain ⟨l, presortedLeft, leftOrdered, leftLength⟩ :=
        sortFirst8_ordered order (by simp; omega : 8 ≤ (items.take (items.length / 2)).length)
      obtain ⟨r, presortedRight, rightOrdered, rightLength⟩ :=
        sortFirst8_ordered order (by simp; omega : 8 ≤ (items.drop (items.length / 2)).length)
      rw [if_pos big, presortedLeft, presortedRight]
      exact merge_presorted order leftOrdered rightOrdered leftLength rightLength
        (by simp; omega) halves
    · rw [if_neg big]
      by_cases eight : 8 ≤ items.length
      · obtain ⟨leftOrdered, leftLength⟩ :=
          sortFirst4_ordered order (by simp; omega : 4 ≤ (items.take (items.length / 2)).length)
        obtain ⟨rightOrdered, rightLength⟩ :=
          sortFirst4_ordered order (by simp; omega : 4 ≤ (items.drop (items.length / 2)).length)
        rw [if_pos eight]
        exact merge_presorted order leftOrdered rightOrdered leftLength rightLength
          (by simp; omega) halves
      · have first : ∀ xs : List Nat, Ordered lt (xs.take 1) := by
          intro xs
          cases xs <;> simp [Ordered]
        rw [if_neg eight]
        exact merge_presorted order (first _) (first _) (by simp; omega) (by simp; omega)
          (by simp; omega) halves

/-! ### The whole sort -/

section Family

variable {s : Sorter}

mutual

theorem quicksort_isSome (order : WeakOrder s.lt) : ∀ (fuel limit : Nat) (ancestor : Option Nat) (items : List Nat),
    (quicksort s fuel limit ancestor items).isSome
  | 0, _, _, _ => by simp [quicksort]
  | fuel + 1, limit, ancestor, items => by
    obtain ⟨sorted, sortedEq⟩ : ∃ f : Nat → Option Nat → List Nat → List Nat,
        ∀ l a i, quicksort s fuel l a i = some (f l a i) :=
      ⟨fun l a i => (quicksort s fuel l a i).get (quicksort_isSome order fuel l a i),
        fun l a i => (Option.some_get _).symm⟩
    rw [quicksort]
    simp only [sortedEq]
    split
    · exact smallSort_isSome order _ _
    split
    · exact drift_isSome order fuel true items
    simp only [apply_ite Option.isSome, Option.isSome_some, ite_self]

theorem drift_isSome (order : WeakOrder s.lt) : ∀ (fuel : Nat) (eager : Bool) (items : List Nat),
    (drift s fuel eager items).isSome
  | 0, _, _ => by simp [drift]
  | fuel + 1, eager, items => by
    rw [drift]
    dsimp only
    split
    · rfl
    · exact driftLoop_isSome order fuel _ _ _ _ _ _ _ _

theorem driftLoop_isSome (order : WeakOrder s.lt) : ∀ (fuel : Nat) (eager : Bool) (n scale minGood scan : Nat) (prev : Run)
    (stack : List (Run × Nat)) (items : List Nat),
    (driftLoop s fuel eager n scale minGood scan prev stack items).isSome
  | 0, _, _, _, _, _, _, _, _ => by simp [driftLoop]
  | fuel + 1, eager, n, scale, minGood, scan, prev, stack, items => by
    obtain ⟨made, madeEq⟩ : ∃ f : Nat → Bool → List Nat → Run × List Nat,
        ∀ m e i, createRun s fuel m e i = some (f m e i) :=
      ⟨fun m e i => (createRun s fuel m e i).get (createRun_isSome order fuel m e i),
        fun m e i => (Option.some_get _).symm⟩
    obtain ⟨collapsed, collapsedEq⟩ :
        ∃ f : Nat → Nat → Run → List (Run × Nat) → List Nat → Run × List (Run × Nat) × List Nat,
        ∀ c d p st i, collapse s fuel c d p st i = some (f c d p st i) :=
      ⟨fun c d p st i => (collapse s fuel c d p st i).get (collapse_isSome order fuel c d p st i),
        fun c d p st i => (Option.some_get _).symm⟩
    obtain ⟨looped, loopedEq⟩ : ∃ f : Bool → Nat → Nat → Nat → Nat → Run → List (Run × Nat) →
        List Nat → List Nat,
        ∀ e n' sc m c p st i, driftLoop s fuel e n' sc m c p st i = some (f e n' sc m c p st i) :=
      ⟨fun e n' sc m c p st i =>
          (driftLoop s fuel e n' sc m c p st i).get (driftLoop_isSome order fuel e n' sc m c p st i),
        fun e n' sc m c p st i => (Option.some_get _).symm⟩
    obtain ⟨quicksorted, quicksortedEq⟩ : ∃ f : List Nat → List Nat,
        ∀ i, stableQuicksort s fuel i = some (f i) :=
      ⟨fun i => (stableQuicksort s fuel i).get (stableQuicksort_isSome order fuel i),
        fun i => (Option.some_get _).symm⟩
    rw [driftLoop]
    simp only [madeEq, collapsedEq, loopedEq, quicksortedEq]
    simp only [apply_ite Option.isSome, Option.isSome_some, ite_self]

theorem collapse_isSome (order : WeakOrder s.lt) : ∀ (fuel scan depth : Nat) (prev : Run) (stack : List (Run × Nat))
    (items : List Nat), (collapse s fuel scan depth prev stack items).isSome
  | 0, _, _, _, _, _ => by simp [collapse]
  | fuel + 1, scan, depth, prev, stack, items => by
    obtain ⟨merged, mergedEq⟩ : ∃ f : List Nat → Run → Run → Run × List Nat,
        ∀ i l r, logicalMerge s fuel i l r = some (f i l r) :=
      ⟨fun i l r => (logicalMerge s fuel i l r).get (logicalMerge_isSome order fuel i l r),
        fun i l r => (Option.some_get _).symm⟩
    obtain ⟨collapsed, collapsedEq⟩ :
        ∃ f : Nat → Nat → Run → List (Run × Nat) → List Nat → Run × List (Run × Nat) × List Nat,
        ∀ c d p st i, collapse s fuel c d p st i = some (f c d p st i) :=
      ⟨fun c d p st i => (collapse s fuel c d p st i).get (collapse_isSome order fuel c d p st i),
        fun c d p st i => (Option.some_get _).symm⟩
    unfold collapse
    split
    · split
      · simp only [mergedEq, collapsedEq, Option.isSome_some]
      · rfl
    · rfl

theorem createRun_isSome (order : WeakOrder s.lt) : ∀ (fuel minGood : Nat) (eager : Bool) (items : List Nat),
    (createRun s fuel minGood eager items).isSome
  | 0, _, _, _ => by simp [createRun]
  | fuel + 1, minGood, eager, items => by
    obtain ⟨sorted, sortedEq⟩ : ∃ f : Nat → Option Nat → List Nat → List Nat,
        ∀ l a i, quicksort s fuel l a i = some (f l a i) :=
      ⟨fun l a i => (quicksort s fuel l a i).get (quicksort_isSome order fuel l a i),
        fun l a i => (Option.some_get _).symm⟩
    rw [createRun]
    simp only [sortedEq]
    split
    · rfl
    · simp only [apply_ite Option.isSome, Option.isSome_some, ite_self]

theorem logicalMerge_isSome (order : WeakOrder s.lt) : ∀ (fuel : Nat) (items : List Nat) (left right : Run),
    (logicalMerge s fuel items left right).isSome
  | 0, _, _, _ => by simp [logicalMerge]
  | fuel + 1, items, left, right => by
    obtain ⟨quicksorted, quicksortedEq⟩ : ∃ f : List Nat → List Nat,
        ∀ i, stableQuicksort s fuel i = some (f i) :=
      ⟨fun i => (stableQuicksort s fuel i).get (stableQuicksort_isSome order fuel i),
        fun i => (Option.some_get _).symm⟩
    rw [logicalMerge]
    split
    · cases leftSorted : left.sorted <;> cases rightSorted : right.sorted <;>
        simp [quicksortedEq]
    · rfl

theorem stableQuicksort_isSome (order : WeakOrder s.lt) : ∀ (fuel : Nat) (items : List Nat),
    (stableQuicksort s fuel items).isSome
  | 0, _ => by simp [stableQuicksort]
  | fuel + 1, items => by
    rw [stableQuicksort]
    exact quicksort_isSome order fuel _ _ _

end

end Family

/-- The sort never finds a strict weak order inconsistent. -/
theorem sort_isSome {lt : Nat → Nat → Bool} (order : WeakOrder lt) (width : Nat) (items : List Nat) :
    (sort width lt items).isSome := by
  unfold sort
  dsimp only
  split
  · rfl
  split
  · rfl
  · exact drift_isSome order _ _ _

end StableSort
end PromptTrainer
