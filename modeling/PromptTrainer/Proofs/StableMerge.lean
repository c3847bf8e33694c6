import PromptTrainer.Proofs.StableSort
/-!
# Stable merges, insertion and the small sort

The sort behind rankings is stable: items that neither precedes keep the order they were
given in.  Items are positions, and a part of the sort receives them in some order; what it
must keep is the order of each tie.  So the invariant is on lists: the ties of a list rise
(`Rising`) when of two tied items the one listed first is the lower position.  The positions
`0, 1, …, n - 1` rise, every part of the sort is given a list whose ties rise, and each gives
back a permutation of it that is ordered and whose ties still rise (`SortsTo`).

This module proves it for the parts that use no fuel.

* The stable merge (`List.merge`, taking the left item unless the right one strictly precedes
  it) of two ordered lists, whose concatenation has rising ties, keeps them rising
  (`merge_rising`): an item taken from the right strictly precedes every left item still
  waiting, so it ties with none of them.  The forward and the backward merge of runs are that
  merge (`mergeUp_eq_merge`, `mergeDown_eq_merge`), and so is the merge from both ends
  (`bidirectionalMerge_eq_merge`).
* Insertion stops at the first item from the back that the new item does not strictly
  precede, so the new item goes after every item it ties with (`insertAll_sortsTo`).
* The network of four items only swaps, and breaks every tie towards the earlier item
  (`sort4_sortsTo`).
* Hence the small sort and insertion sort sort stably (`smallSort_sortsTo`,
  `insertionSort_sortsTo`).
-/

namespace PromptTrainer
namespace StableSort

/-- The ties of a list rise: of two items neither of which strictly precedes the other, the
one listed first is the lower position. -/
def Rising (lt : Nat → Nat → Bool) (l : List Nat) : Prop :=
  l.Pairwise (fun a b => lt a b = false → lt b a = false → a < b)

/-- A list sorted stably: ordered, with its ties rising. -/
def StablySorted (lt : Nat → Nat → Bool) (l : List Nat) : Prop :=
  Ordered lt l ∧ Rising lt l

/-- `sorted` sorts `items` stably: it is a permutation of them, sorted stably. -/
def SortsTo (lt : Nat → Nat → Bool) (items sorted : List Nat) : Prop :=
  sorted.Perm items ∧ StablySorted lt sorted

variable {lt : Nat → Nat → Bool}

/-! ### Rising ties -/

theorem WeakOrder.irrefl (order : WeakOrder lt) (a : Nat) : lt a a = false := by
  cases self : lt a a
  · rfl
  · have := order.asymm self
    rw [self] at this
    cases this

theorem WeakOrder.lt_of_lt_of_not_lt (order : WeakOrder lt) {a b c : Nat} (ab : lt a b = true)
    (cb : lt c b = false) : lt a c = true := by
  cases ac : lt a c
  · rw [order.negTrans ac cb] at ab
    cases ab
  · rfl

theorem rising_of_increasing {l : List Nat} (increasing : l.Pairwise (· < ·)) : Rising lt l :=
  increasing.imp (fun before _ _ => before)

/-- Whether two items tie depends only on the items, so replacing a stretch of a list by a
permutation of it whose ties rise keeps the ties of the whole list rising. -/
theorem Rising.replace {pre mid mid' post : List Nat} (rising : Rising lt (pre ++ mid ++ post))
    (perm : mid'.Perm mid) (inner : Rising lt mid') : Rising lt (pre ++ mid' ++ post) := by
  unfold Rising at rising inner ⊢
  simp only [List.pairwise_append, List.mem_append] at rising ⊢
  obtain ⟨⟨front, -, beforeMid⟩, back, beforeBack⟩ := rising
  refine ⟨⟨front, inner, fun a inPre b inMid => beforeMid a inPre b (perm.mem_iff.mp inMid)⟩,
    back, fun a early b inPost => ?_⟩
  rcases early with inPre | inMid
  · exact beforeBack a (.inl inPre) b inPost
  · exact beforeBack a (.inr (perm.mem_iff.mp inMid)) b inPost

theorem Rising.replace_front {mid mid' post : List Nat} (rising : Rising lt (mid ++ post))
    (perm : mid'.Perm mid) (inner : Rising lt mid') : Rising lt (mid' ++ post) := by
  simpa using Rising.replace (by simpa using rising : Rising lt ([] ++ mid ++ post)) perm inner

theorem Rising.replace_back {pre mid mid' : List Nat} (rising : Rising lt (pre ++ mid))
    (perm : mid'.Perm mid) (inner : Rising lt mid') : Rising lt (pre ++ mid') := by
  simpa using Rising.replace (by simpa using rising : Rising lt (pre ++ mid ++ [])) perm inner

theorem Rising.left {l r : List Nat} (rising : Rising lt (l ++ r)) : Rising lt l :=
  (List.pairwise_append.mp rising).1

theorem Rising.right {l r : List Nat} (rising : Rising lt (l ++ r)) : Rising lt r :=
  (List.pairwise_append.mp rising).2.1

theorem SortsTo.rising {items sorted : List Nat} (sorts : SortsTo lt items sorted) :
    Rising lt sorted :=
  sorts.2.2

theorem sortsTo_self_of_short {items : List Nat} (short : items.length < 2) :
    SortsTo lt items items := by
  refine ⟨.refl _, ?_⟩
  rcases items with _ | ⟨x, _ | ⟨y, rest⟩⟩
  · exact ⟨List.Pairwise.nil, List.Pairwise.nil⟩
  · exact ⟨List.pairwise_singleton _ x, List.pairwise_singleton _ x⟩
  · simp only [List.length_cons] at short
    omega

/-! ### The stable merge -/

/-- The stable merge keeps rising ties: a right item is taken only when it strictly precedes
the next left item, and so every later left item, which it then ties with none of. -/
theorem merge_rising (order : WeakOrder lt) {left right : List Nat} (ordered : Ordered lt left)
    (rising : Rising lt (left ++ right)) :
    Rising lt (List.merge left right (fun a b => !lt b a)) := by
  fun_induction List.merge left right (fun a b => !lt b a) with
  | case1 right => simpa using rising
  | case2 left _ => simpa using rising
  | case3 x left y right _ ih =>
    have parts := List.pairwise_append.mp rising
    refine List.Pairwise.cons (fun z member => ?_) (ih ordered.of_cons ?_)
    · rcases List.mem_merge.mp member with inLeft | inRight
      · exact List.rel_of_pairwise_cons parts.1 inLeft
      · exact parts.2.2 x List.mem_cons_self z inRight
    · exact List.pairwise_append.mpr ⟨parts.1.of_cons, parts.2.1,
        fun a inLeft b inRight => parts.2.2 a (List.mem_cons_of_mem x inLeft) b inRight⟩
  | case4 x left y right before ih =>
    have parts := List.pairwise_append.mp rising
    have precedes : lt y x = true := by simpa using before
    refine List.Pairwise.cons (fun z member => ?_) (ih ordered ?_)
    · rcases List.mem_merge.mp member with inLeft | inRight
      · -- `y` strictly precedes `x`, which no later left item strictly precedes
        intro ahead
        have notBelow : lt z x = false := by
          rcases List.mem_cons.mp inLeft with same | later
          · rw [same]
            exact order.irrefl x
          · exact List.rel_of_pairwise_cons ordered later
        rw [order.lt_of_lt_of_not_lt precedes notBelow] at ahead
        cases ahead
      · exact List.rel_of_pairwise_cons parts.2.1 inRight
    · exact List.pairwise_append.mpr ⟨parts.1, parts.2.1.of_cons,
        fun a inLeft b inRight => parts.2.2 a inLeft b (List.mem_cons_of_mem y inRight)⟩

/-- The stable merge of two ordered lists whose concatenation has rising ties sorts the
concatenation stably. -/
theorem merge_sortsTo (order : WeakOrder lt) {left right : List Nat} (leftOrdered : Ordered lt left)
    (rightOrdered : Ordered lt right) (rising : Rising lt (left ++ right)) :
    SortsTo lt (left ++ right) (List.merge left right (fun a b => !lt b a)) :=
  ⟨List.merge_perm_append _, leftOrdered.merge order rightOrdered,
    merge_rising order leftOrdered rising⟩

/-- The forward merge of runs is the stable merge. -/
theorem mergeUp_eq_merge (left right : List Nat) :
    mergeUp lt left right = List.merge left right (fun a b => !lt b a) := by
  fun_induction mergeUp lt left right with
  | case1 right => simp
  | case2 left _ => simp
  | case3 x left y right before ih => simp [ih, before]
  | case4 x left y right after ih => simp [ih, after]

/-- A weave that takes no more items than the lists hold ignores what follows them. -/
theorem weave_append_unused (sides : List Bool) (left right extraLeft extraRight : List Nat)
    (fitsLeft : sides.count true ≤ left.length) (fitsRight : sides.count false ≤ right.length) :
    weave sides (left ++ extraLeft) (right ++ extraRight) = weave sides left right := by
  induction sides generalizing left right with
  | nil => simp [weave]
  | cons side sides ih =>
    cases side with
    | true =>
      obtain ⟨x, left, rfl⟩ := List.exists_cons_of_length_pos
        (by simp at fitsLeft; omega : 0 < left.length)
      simp only [List.count_cons, List.length_cons] at fitsLeft fitsRight
      simp [weave, ih left right (by simpa using fitsLeft) (by simpa using fitsRight)]
    | false =>
      obtain ⟨y, right, rfl⟩ := List.exists_cons_of_length_pos
        (by simp at fitsRight; omega : 0 < right.length)
      simp only [List.count_cons, List.length_cons] at fitsLeft fitsRight
      simp [weave, ih left right (by simpa using fitsLeft) (by simpa using fitsRight)]

/-- The last item of a stable merge of two ordered lists: the left one's last item when the
right one's strictly precedes it, the right one's otherwise. -/
theorem merge_append_last (order : WeakOrder lt) {a b : Nat} {left right : List Nat}
    (leftOrdered : Ordered lt (left ++ [a])) (rightOrdered : Ordered lt (right ++ [b])) :
    List.merge (left ++ [a]) (right ++ [b]) (fun x y => !lt y x) =
      if lt b a then List.merge left (right ++ [b]) (fun x y => !lt y x) ++ [a]
      else List.merge (left ++ [a]) right (fun x y => !lt y x) ++ [b] := by
  rw [merge_eq_weave, mergeSides_append_append order leftOrdered rightOrdered]
  cases last : lt b a with
  | true =>
    have trues := @count_true_mergeSides lt left (right ++ [b])
    have falses := @count_false_mergeSides lt left (right ++ [b])
    have unused :=
      weave_append_unused (mergeSides lt left (right ++ [b])) left (right ++ [b]) [a] []
      (by omega) (by omega)
    rw [List.append_nil] at unused
    simp only [if_true]
    rw [weave_append _ _ _ _ (by simp [trues]) (by simp [falses]), trues, falses, unused,
      ← merge_eq_weave]
    simp [weave]
  | false =>
    have trues := @count_true_mergeSides lt (left ++ [a]) right
    have falses := @count_false_mergeSides lt (left ++ [a]) right
    have unused :=
      weave_append_unused (mergeSides lt (left ++ [a]) right) (left ++ [a]) right [] [b]
      (by omega) (by omega)
    rw [List.append_nil] at unused
    simp only [Bool.false_eq_true, if_false]
    rw [weave_append _ _ _ _ (by simp [trues]) (by simp [falses]), trues, falses, unused,
      ← merge_eq_weave]
    simp [weave]

/-- The backward merge of runs, on ordered runs held last item first, is the stable merge
followed by what it had placed already. -/
theorem mergeDown_eq_merge (order : WeakOrder lt) (left right acc : List Nat)
    (leftOrdered : Ordered lt left.reverse) (rightOrdered : Ordered lt right.reverse) :
    mergeDown lt left right acc =
      List.merge left.reverse right.reverse (fun a b => !lt b a) ++ acc := by
  fun_induction mergeDown lt left right acc with
  | case1 right acc => simp
  | case2 left acc _ => simp
  | case3 x left y right acc before ih =>
    simp only [List.reverse_cons] at leftOrdered rightOrdered ⊢
    rw [merge_append_last order leftOrdered rightOrdered, if_pos before,
      ih (leftOrdered.sublist (List.sublist_append_left _ _)) (by simpa using rightOrdered)]
    simp
  | case4 x left y right acc after ih =>
    simp only [List.reverse_cons] at leftOrdered rightOrdered ⊢
    rw [merge_append_last order leftOrdered rightOrdered, if_neg after,
      ih (by simpa using leftOrdered) (rightOrdered.sublist (List.sublist_append_left _ _))]
    simp

/-- With scratch space for half the items, the merge of two ordered runs is the stable
merge, whichever end it walks from. -/
theorem mergeRuns_eq_merge {s : Sorter} (order : WeakOrder s.lt) {left right : List Nat}
    (leftOrdered : Ordered s.lt left) (rightOrdered : Ordered s.lt right)
    (fits : left.length + right.length ≤ 2 * s.scratch) :
    mergeRuns s left right = List.merge left right (fun a b => !s.lt b a) := by
  unfold mergeRuns
  by_cases empty : left.isEmpty ∨ right.isEmpty
  · rcases empty with empty | empty
    · rw [List.isEmpty_iff.mp empty]
      simp
    · rw [List.isEmpty_iff.mp empty]
      simp
  · have roomy : ¬ s.scratch < min left.length right.length := by omega
    rw [if_neg (by simp only [not_or] at empty ⊢; exact ⟨empty.1, empty.2, roomy⟩)]
    split
    · exact mergeUp_eq_merge left right
    · rw [mergeDown_eq_merge order _ _ [] (by simpa using leftOrdered)
        (by simpa using rightOrdered)]
      simp

/-! ### Insertion -/

theorem perm_place (x : Nat) : ∀ held : List Nat, (place lt x held).Perm (x :: held)
  | [] => .refl _
  | y :: rest => by
    unfold place
    split
    · exact ((perm_place x rest).cons y).trans (List.Perm.swap x y rest)
    · exact .refl _

/-- Placing an item into a list held last item first, after every item it ties with, keeps
the ties of the list falling from the back. -/
theorem place_falling (x : Nat) :
    ∀ {held : List Nat}, held.Pairwise (fun a b => lt b a = false → lt a b = false → b < a) →
      (∀ y ∈ held, lt x y = false → lt y x = false → y < x) →
      (place lt x held).Pairwise (fun a b => lt b a = false → lt a b = false → b < a)
  | [], _, _ => by simp [place]
  | y :: rest, falling, later => by
    rw [List.pairwise_cons] at falling
    unfold place
    split
    · -- the item passes `y`, which it strictly precedes and so does not tie with
      rename_i passes
      refine List.pairwise_cons.mpr ⟨fun z member => ?_,
        place_falling x falling.2 (fun z member => later z (List.mem_cons_of_mem y member))⟩
      rcases mem_place.mp member with same | member
      · intro ahead _
        rw [same, passes] at ahead
        cases ahead
      · exact falling.1 z member
    · -- the item stops before `y`: it comes after every item it ties with
      exact List.pairwise_cons.mpr ⟨fun z member tied tied' => later z member tied' tied,
        List.pairwise_cons.mpr falling⟩

theorem insertAll_cons (sorted : List Nat) (x : Nat) (more : List Nat) :
    insertAll lt sorted (x :: more) = insertAll lt (place lt x sorted.reverse).reverse more := by
  simp [insertAll]

/-- Insertion into a stably sorted list, of items that come after it, sorts stably. -/
theorem insertAll_sortsTo (order : WeakOrder lt) (more : List Nat) :
    ∀ {sorted : List Nat}, StablySorted lt sorted → Rising lt (sorted ++ more) →
      SortsTo lt (sorted ++ more) (insertAll lt sorted more) := by
  induction more with
  | nil =>
    intro sorted sortedStably _
    exact ⟨by simp [insertAll], by simpa [insertAll] using sortedStably⟩
  | cons x more ih =>
    intro sorted sortedStably rising
    rw [insertAll_cons]
    have placed : (place lt x sorted.reverse).reverse.Perm (sorted ++ [x]) :=
      (List.reverse_perm _).trans ((perm_place x _).trans
        (((List.reverse_perm sorted).cons x).trans (List.perm_append_singleton x sorted).symm))
    have later : ∀ y ∈ sorted.reverse, lt x y = false → lt y x = false → y < x := by
      intro y member tied tied'
      have parts := List.pairwise_append.mp rising
      exact parts.2.2 y (List.mem_reverse.mp member) x List.mem_cons_self tied' tied
    have falling := place_falling x (by simpa [Rising, List.pairwise_reverse] using sortedStably.2)
      later
    have held : sorted.reverse.Pairwise (fun a b => lt a b = false) := by
      rw [List.pairwise_reverse]
      exact sortedStably.1
    have descending := place_descending order x held
    have placedSorted : StablySorted lt (place lt x sorted.reverse).reverse := by
      refine ⟨?_, ?_⟩
      · simpa [Ordered, List.pairwise_reverse] using descending
      · simpa [Rising, List.pairwise_reverse] using falling
    have sorts := ih placedSorted (by
      refine Rising.replace_front (by simpa using rising : Rising lt ((sorted ++ [x]) ++ more))
        placed
        placedSorted.2)
    exact ⟨sorts.1.trans (by simpa using placed.append_right more), sorts.2⟩

/-- Insertion sort sorts stably. -/
theorem insertionSort_sortsTo (order : WeakOrder lt) {items : List Nat} (rising : Rising lt items) :
    SortsTo lt items (insertionSort lt items) := by
  unfold insertionSort
  simpa using @insertAll_sortsTo lt order items [] ⟨List.Pairwise.nil, List.Pairwise.nil⟩
    (by simpa using rising)

/-! ### The network of four items -/

theorem sort4_perm (v0 v1 v2 v3 : Nat) : (sort4 lt v0 v1 v2 v3).Perm [v0, v1, v2, v3] := by
  unfold sort4
  -- every comparison only decides whether to swap two items
  cases lt v1 v0 <;> cases lt v3 v2 <;> simp only [Bool.false_eq_true, if_false, if_true] <;>
    split <;> split <;> split <;> grind

/-- The network of four items breaks every tie towards the earlier item. -/
theorem sort4_rising (order : WeakOrder lt) {v0 v1 v2 v3 : Nat}
    (rising : Rising lt [v0, v1, v2, v3]) : Rising lt (sort4 lt v0 v1 v2 v3) := by
  have asymm := @order.asymm
  have negTrans := @order.negTrans
  unfold sort4 Rising at *
  simp only [List.pairwise_cons, List.mem_cons, List.not_mem_nil, forall_eq_or_imp,
    List.Pairwise.nil] at *
  cases c1 : lt v1 v0 <;> cases c2 : lt v3 v2 <;>
    simp only [Bool.false_eq_true, if_false, if_true] <;>
    grind

theorem sort4_sortsTo (order : WeakOrder lt) {v0 v1 v2 v3 : Nat}
    (rising : Rising lt [v0, v1, v2, v3]) :
    SortsTo lt [v0, v1, v2, v3] (sort4 lt v0 v1 v2 v3) :=
  ⟨sort4_perm v0 v1 v2 v3, sort4_ordered order v0 v1 v2 v3, sort4_rising order rising⟩

theorem sortFirst4_sortsTo (order : WeakOrder lt) {items : List Nat} (enough : 4 ≤ items.length)
    (rising : Rising lt (items.take 4)) :
    SortsTo lt (items.take 4) (sortFirst4 lt items) := by
  rcases items with _ | ⟨v0, _ | ⟨v1, _ | ⟨v2, _ | ⟨v3, rest⟩⟩⟩⟩ <;>
    simp only [List.length_cons, List.length_nil] at enough <;> try omega
  exact sort4_sortsTo order (by simpa using rising)

theorem sortFirst8_sortsTo (order : WeakOrder lt) {items : List Nat} (enough : 8 ≤ items.length)
    (rising : Rising lt (items.take 8)) :
    ∃ sorted, sortFirst8 lt items = some sorted ∧ SortsTo lt (items.take 8) sorted := by
  have halves : items.take 8 = items.take 4 ++ (items.drop 4).take 4 := by
    rw [show 8 = 4 + 4 from rfl, List.take_add]
  rw [halves] at rising
  have first := sortFirst4_sortsTo order (by omega) rising.left
  have second : SortsTo lt ((items.drop 4).take 4) (sortFirst4 lt (items.drop 4)) :=
    sortFirst4_sortsTo order (by simp; omega) rising.right
  have firstLength : (sortFirst4 lt items).length = 4 := by
    rw [first.1.length_eq]
    simp
    omega
  have secondLength : (sortFirst4 lt (items.drop 4)).length = 4 := by
    rw [second.1.length_eq]
    simp
    omega
  have together : Rising lt (sortFirst4 lt items ++ sortFirst4 lt (items.drop 4)) :=
    Rising.replace_back (Rising.replace_front rising first.1 first.rising) second.1 second.rising
  refine ⟨_, bidirectionalMerge_eq_merge order first.2.1 second.2.1
    (by rw [firstLength, secondLength]), ?_⟩
  have merged := merge_sortsTo order first.2.1 second.2.1 together
  rw [halves]
  exact ⟨merged.1.trans (first.1.append second.1), merged.2⟩

/-! ### The small sort -/

/-- Halves each presorted at their front and completed by insertion merge from both ends into
a stable sort of both. -/
theorem merge_presorted_sortsTo (order : WeakOrder lt) {p : Nat}
    {l r leftItems rightItems : List Nat}
    (leftSorted : SortsTo lt (leftItems.take p) l) (rightSorted : SortsTo lt (rightItems.take p) r)
    (halves : leftItems.length = (leftItems.length + rightItems.length) / 2)
    (rising : Rising lt (leftItems ++ rightItems)) :
    ∃ sorted, bidirectionalMerge lt
        (insertAll lt l (leftItems.drop p) ++ insertAll lt r (rightItems.drop p)).toArray =
          some sorted ∧ SortsTo lt (leftItems ++ rightItems) sorted := by
  have leftRising : Rising lt (l ++ leftItems.drop p) := by
    have := rising.left
    rw [← List.take_append_drop p leftItems] at this
    exact Rising.replace_front this leftSorted.1 leftSorted.rising
  have rightRising : Rising lt (r ++ rightItems.drop p) := by
    have := rising.right
    rw [← List.take_append_drop p rightItems] at this
    exact Rising.replace_front this rightSorted.1 rightSorted.rising
  have leftDone := insertAll_sortsTo order _ leftSorted.2 leftRising
  have rightDone := insertAll_sortsTo order _ rightSorted.2 rightRising
  have leftPerm : (insertAll lt l (leftItems.drop p)).Perm leftItems := by
    refine leftDone.1.trans ?_
    conv => rhs; rw [← List.take_append_drop p leftItems]
    exact leftSorted.1.append_right _
  have rightPerm : (insertAll lt r (rightItems.drop p)).Perm rightItems := by
    refine rightDone.1.trans ?_
    conv => rhs; rw [← List.take_append_drop p rightItems]
    exact rightSorted.1.append_right _
  have together :
      Rising lt (insertAll lt l (leftItems.drop p) ++ insertAll lt r (rightItems.drop p)) :=
    Rising.replace_back (Rising.replace_front rising leftPerm leftDone.rising) rightPerm
      rightDone.rising
  refine ⟨_, bidirectionalMerge_eq_merge order leftDone.2.1 rightDone.2.1
    (by rw [leftPerm.length_eq, rightPerm.length_eq]; exact halves), ?_⟩
  have merged := merge_sortsTo order leftDone.2.1 rightDone.2.1 together
  exact ⟨merged.1.trans (leftPerm.append rightPerm), merged.2⟩

/-- The small sort sorts stably. -/
theorem smallSort_sortsTo (order : WeakOrder lt) (compact : Bool) {items : List Nat}
    (rising : Rising lt items) :
    ∃ sorted, smallSort lt compact items = some sorted ∧ SortsTo lt items sorted := by
  unfold smallSort
  dsimp only
  split
  · rename_i few
    exact ⟨items, rfl, sortsTo_self_of_short few⟩
  · rename_i many
    have halves : (items.take (items.length / 2)).length =
        ((items.take (items.length / 2)).length + (items.drop (items.length / 2)).length) / 2 := by
      simp only [List.length_take, List.length_drop]
      omega
    have split : Rising lt (items.take (items.length / 2) ++ items.drop (items.length / 2)) := by
      simpa using rising
    have front : ∀ (p : Nat) (part : List Nat), Rising lt part → Rising lt (part.take p) :=
      fun p part partRising => partRising.sublist (List.take_sublist p part)
    by_cases big : compact = true ∧ 16 ≤ items.length
    · obtain ⟨l, presortedLeft, leftSorted⟩ :=
        sortFirst8_sortsTo order (by simp; omega) (front 8 _ split.left)
      obtain ⟨r, presortedRight, rightSorted⟩ :=
        sortFirst8_sortsTo order (by simp; omega) (front 8 _ split.right)
      rw [if_pos big, presortedLeft, presortedRight]
      obtain ⟨sorted, merged, sorts⟩ := merge_presorted_sortsTo order leftSorted rightSorted
        halves split
      exact ⟨sorted, merged, by simpa using sorts⟩
    · rw [if_neg big]
      by_cases eight : 8 ≤ items.length
      · rw [if_pos eight]
        obtain ⟨sorted, merged, sorts⟩ := merge_presorted_sortsTo order
          (sortFirst4_sortsTo order (by simp; omega) (front 4 _ split.left))
          (sortFirst4_sortsTo order (by simp; omega) (front 4 _ split.right))
          halves split
        exact ⟨sorted, merged, by simpa using sorts⟩
      · rw [if_neg eight]
        have first : ∀ part : List Nat, SortsTo lt (part.take 1) (part.take 1) := by
          intro part
          refine ⟨.refl _, ?_⟩
          cases part <;> simp [StablySorted, Ordered, Rising]
        obtain ⟨sorted, merged, sorts⟩ := merge_presorted_sortsTo order (first _) (first _)
          halves split
        exact ⟨sorted, merged, by simpa using sorts⟩

end StableSort
end PromptTrainer
