import MarkupRules.Proofs.Document.Subtree
import MarkupRules.Proofs.Path.Anchoring
import MarkupRules.Proofs.Path.Composition

/-!
# Expressions that look downward

An expression that only looks at an element, its attributes and what is below it sees nothing else
of the document: in the document of the subtree it selects the same.

* `Axis.isDownward`, `Filter.isDownward`, `Expr.isDownward` -- no axis leads up or aside and no branch
  starts at the document node, inside filters neither;
* `Axis.items_shift`, `NodeTest.accepts_shift` -- one step in both documents;
* `inner_of_mem_walk`, `inner_of_mem_selectEach` -- **what is selected stays in the subtree**;
* `Filter.holds_shift`, `walk_shift`, `selectEach_shift` -- **every part of an expression** selects the
  same in both documents, by recursion on it;
* `Expr.downward_sees_subtree` -- **an expression that looks downward sees its subtree only**.
-/

namespace MarkupRules.Path

/-! ## 1. Downward -/

/-- Whether the axis leads to an item itself, to its attributes or to what is below it. -/
def Axis.isDownward : Axis → Bool
  | .self | .child | .descendant | .descendantOrSelf | .attribute => true
  | _ => false

mutual
/-- Whether the paths in the filter look downward. -/
def Filter.isDownward : Filter → Bool
  | .or left right | .and left right => left.isDownward && right.isDownward
  | .not inner => inner.isDownward
  | .exists union | .compare union _ _ | .count union _ _ => unionDownward union
  | .position _ => true
termination_by structural f => f

/-- Whether all of the filters look downward. -/
def filtersDownward : List Filter → Bool
  | [] => true
  | f :: rest => f.isDownward && filtersDownward rest

/-- Whether the step leads downward, and so do the paths in its filters. -/
def Step.isDownward : Step → Bool
  | ⟨axis, _, filters⟩ => axis.isDownward && filtersDownward filters

/-- Whether all of the steps lead downward. -/
def stepsDownward : List Step → Bool
  | [] => true
  | s :: rest => s.isDownward && stepsDownward rest

/-- Whether the branch starts at the context and leads downward. -/
def Branch.isDownward : Branch → Bool
  | ⟨absolute, steps⟩ => !absolute && stepsDownward steps

/-- Whether all of the branches lead downward. -/
def unionDownward : List Branch → Bool
  | [] => true
  | b :: rest => b.isDownward && unionDownward rest
end

/-- Whether the expression looks at nothing but its context, attributes of it, and what is below. -/
def Expr.isDownward (x : Expr) : Bool :=
  unionDownward x.union

/-! ## 2. One step -/

variable {sub doc : Document} {i j : Item} {is : List Item} {k : Nat} {axis : Axis}
  {test : NodeTest} {steps : List Step} {union : List Branch}

/-- An axis that leads downward does not leave the subtree. -/
theorem Axis.inner_of_mem_items (down : axis.isDownward = true) (hi : i.Inner sub)
    (h : j ∈ axis.items sub i) : j.Inner sub := by
  rcases i with id | ⟨owner, name⟩
  · cases axis with
    | self => exact List.mem_singleton.mp h ▸ hi
    | child =>
      obtain ⟨c, hc, rfl⟩ := List.mem_map.mp h
      exact .child hc
    | descendant =>
      obtain ⟨d, hd, rfl⟩ := List.mem_map.mp h
      exact Document.Inner.descendant hi hd
    | descendantOrSelf =>
      rcases List.mem_cons.mp h with rfl | h
      · exact hi
      · obtain ⟨d, hd, rfl⟩ := List.mem_map.mp h
        exact Document.Inner.descendant hi hd
    | «attribute» =>
      obtain ⟨a, _, rfl⟩ := List.mem_map.mp h
      exact hi
    | _ => cases down
  · cases axis with
    | self => exact List.mem_singleton.mp h ▸ hi
    | child | descendant | descendantOrSelf | «attribute» => cases h
    | _ => cases down

/-- **An axis that leads downward** leads to the same items in both documents. -/
theorem Axis.items_shift (h : sub.Embeds doc k) (down : axis.isDownward = true) (hi : i.Inner sub) :
    axis.items doc (i.shift k) = (axis.items sub i).map (Item.shift k) := by
  rcases i with id | ⟨owner, name⟩
  · have inner : sub.Inner id := hi
    cases axis with
    | self => rfl
    | child =>
      simp only [Item.shift, Axis.items, h.children inner, List.map_map]
      rfl
    | descendant =>
      simp only [Item.shift, Axis.items, h.descendants inner, List.map_map]
      rfl
    | descendantOrSelf =>
      simp only [Item.shift, Axis.items, h.descendants inner, List.map_cons, List.map_map]
      rfl
    | «attribute» =>
      simp only [Item.shift, Axis.items, h.attributes inner, List.map_map]
      rfl
    | _ => cases down
  · cases axis with
    | self | child | descendant | descendantOrSelf | «attribute» => rfl
    | _ => cases down

/-- **A test passes the same items in both documents.** -/
theorem NodeTest.accepts_shift (h : sub.Embeds doc k) (hi : i.Inner sub) :
    test.accepts doc axis (i.shift k) = test.accepts sub axis i := by
  rcases i with id | ⟨owner, name⟩
  · have inner : sub.Inner id := hi
    simp only [Item.shift, NodeTest.accepts, h.name? inner, h.isElement inner, h.isText inner]
  · rfl

/-! ## 3. What is selected stays in the subtree -/

theorem Step.inner_of_mem_select (s : Step) (down : s.isDownward = true) (hi : i.Inner sub)
    (h : j ∈ s.select sub i) : j.Inner sub := by
  obtain ⟨axis, test, filters⟩ := s
  obtain ⟨leads, _⟩ := Bool.and_eq_true_iff.mp down
  exact Axis.inner_of_mem_items leads hi (Step.mem_items_of_mem_select h)

/-- What a step leads to from items of the subtree, before the next step is taken. -/
theorem Step.inner_of_mem_next (s : Step) (down : s.isDownward = true)
    (inner : ∀ i ∈ is, i.Inner sub) : ∀ j ∈ inDocumentOrder (is.flatMap (s.select sub)), j.Inner sub := by
  intro j hj
  obtain ⟨i, hi, hj⟩ := List.mem_flatMap.mp (mem_inDocumentOrder.mp hj)
  exact s.inner_of_mem_select down (inner i hi) hj

/-- **Steps that lead downward** do not leave the subtree. -/
theorem inner_of_mem_walk : ∀ {steps : List Step} {is : List Item}, stepsDownward steps = true →
    (∀ i ∈ is, i.Inner sub) → j ∈ walk sub steps is → j.Inner sub
  | [], is, _, inner, h => by
    rw [walk_nil] at h
    exact inner j h
  | s :: rest, is, down, inner, h => by
    obtain ⟨first, others⟩ := Bool.and_eq_true_iff.mp down
    rw [walk_cons] at h
    exact inner_of_mem_walk others (s.inner_of_mem_next first inner) h

theorem Branch.inner_of_mem_select {b : Branch} (down : b.isDownward = true) (hi : i.Inner sub)
    (h : j ∈ b.select sub i) : j.Inner sub := by
  obtain ⟨absolute, steps⟩ := b
  obtain ⟨relative, leads⟩ := Bool.and_eq_true_iff.mp down
  cases absolute with
  | true => cases relative
  | false =>
    rw [Branch.select] at h
    exact inner_of_mem_walk leads (fun l hl => List.mem_singleton.mp hl ▸ hi) h

theorem inner_of_mem_selectEach : ∀ {union : List Branch}, unionDownward union = true →
    i.Inner sub → j ∈ selectEach sub union i → j.Inner sub
  | [], _, _, h => by
    rw [selectEach] at h
    cases h
  | b :: rest, down, hi, h => by
    obtain ⟨first, others⟩ := Bool.and_eq_true_iff.mp down
    rw [selectEach] at h
    rcases List.mem_append.mp h with h | h
    · exact Branch.inner_of_mem_select first hi h
    · exact inner_of_mem_selectEach others hi h

/-! ## 4. The parts of an expression -/

/-- What is kept of a list is kept of its image, if the image of a member passes where it does. -/
theorem keepRanked_map {α β : Type} {p : Nat → β → Bool} {q : Nat → α → Bool} {f : α → β} :
    ∀ {rank : Nat} {l : List α}, (∀ r, ∀ a ∈ l, p r (f a) = q r a) →
      keepRanked p rank (l.map f) = (keepRanked q rank l).map f
  | _, [], _ => rfl
  | rank, a :: rest, same => by
    obtain ⟨first, others⟩ : (∀ r, p r (f a) = q r a) ∧ ∀ r, ∀ b ∈ rest, p r (f b) = q r b :=
      ⟨fun r => same r a List.mem_cons_self, fun r b hb => same r b (List.mem_cons_of_mem a hb)⟩
    rw [List.map_cons, keepRanked, keepRanked, first, keepRanked_map others]
    split <;> rfl

theorem unite_shift : unite union (is.map (Item.shift k)) = (unite union is).map (Item.shift k) := by
  rw [unite, unite]
  split
  · exact inDocumentOrder_shift
  · rfl

/-- Some of the items have a value as asked in the one document if they have it in the other. -/
theorem any_holdsOf_shift (h : sub.Embeds doc k) (inner : ∀ i ∈ is, i.Inner sub)
    {comparison : Comparison} {operand : Operand} :
    ((is.map (Item.shift k)).any fun j => comparison.holdsOf (j.stringValue doc) operand) =
      is.any fun j => comparison.holdsOf (j.stringValue sub) operand := by
  induction is with
  | nil => rfl
  | cons i rest ih =>
    obtain ⟨first, others⟩ := List.forall_mem_cons.mp inner
    rw [List.map_cons, List.any_cons, List.any_cons, h.stringValue_shift first, ih others]

mutual
/-- **A filter holds of the same items in both documents.** -/
theorem Filter.holds_shift (h : sub.Embeds doc k) : ∀ (f : Filter) {i : Item} {rank size : Nat},
    f.isDownward = true → i.Inner sub → f.holds doc (i.shift k) rank size = f.holds sub i rank size
  | .or left right, i, rank, size, down, hi => by
    obtain ⟨first, second⟩ := Bool.and_eq_true_iff.mp down
    rw [Filter.holds, Filter.holds, left.holds_shift h first hi, right.holds_shift h second hi]
  | .and left right, i, rank, size, down, hi => by
    obtain ⟨first, second⟩ := Bool.and_eq_true_iff.mp down
    rw [Filter.holds, Filter.holds, left.holds_shift h first hi, right.holds_shift h second hi]
  | .not inner, i, rank, size, down, hi => by
    rw [Filter.holds, Filter.holds, inner.holds_shift h down hi]
  | .exists union, i, rank, size, down, hi => by
    rw [Filter.holds, Filter.holds, selectEach_shift h union down hi, unite_shift, List.isEmpty_map]
  | .compare union comparison operand, i, rank, size, down, hi => by
    rw [Filter.holds, Filter.holds, selectEach_shift h union down hi, unite_shift]
    exact any_holdsOf_shift h fun j hj => inner_of_mem_selectEach down hi (mem_unite.mp hj)
  | .count union comparison value, i, rank, size, down, hi => by
    rw [Filter.holds, Filter.holds, selectEach_shift h union down hi, unite_shift, List.length_map]
  | .position wanted, i, rank, size, _, _ => rfl

/-- **A step leads to the same items in both documents.** -/
theorem Step.select_shift (h : sub.Embeds doc k) : ∀ (s : Step) {i : Item}, s.isDownward = true →
    i.Inner sub → s.select doc (i.shift k) = (s.select sub i).map (Item.shift k)
  | ⟨axis, test, filters⟩, i, down, hi => by
    obtain ⟨leads, filtered⟩ := Bool.and_eq_true_iff.mp down
    have tested : ((axis.items sub i).map (Item.shift k)).filter (test.accepts doc axis) =
        ((axis.items sub i).filter (test.accepts sub axis)).map (Item.shift k) := by
      rw [List.filter_map]
      refine congrArg _ (List.filter_congr fun j hj => ?_)
      exact NodeTest.accepts_shift h (Axis.inner_of_mem_items leads hi hj)
    rw [Step.select, Step.select, Axis.items_shift h leads hi, tested]
    refine keepAll_shift h filters filtered fun j hj => ?_
    exact Axis.inner_of_mem_items leads hi (List.mem_filter.mp hj).1

/-- **Filters in turn keep the same items in both documents.** -/
theorem keepAll_shift (h : sub.Embeds doc k) : ∀ (filters : List Filter) {is : List Item},
    filtersDownward filters = true → (∀ i ∈ is, i.Inner sub) →
      keepAll doc filters (is.map (Item.shift k)) = (keepAll sub filters is).map (Item.shift k)
  | [], is, _, _ => by rw [keepAll, keepAll]
  | f :: rest, is, down, inner => by
    obtain ⟨first, others⟩ := Bool.and_eq_true_iff.mp down
    have kept : keepRanked (fun rank i => f.holds doc i rank is.length) 1 (is.map (Item.shift k)) =
        (keepRanked (fun rank i => f.holds sub i rank is.length) 1 is).map (Item.shift k) :=
      keepRanked_map fun rank i hi => f.holds_shift h first (inner i hi)
    rw [keepAll, keepAll, List.length_map, kept]
    exact keepAll_shift h rest others fun i hi => inner i (keepRanked_sublist.mem hi)

/-- **Steps in a row lead to the same items in both documents.** -/
theorem walk_shift (h : sub.Embeds doc k) : ∀ (steps : List Step) {is : List Item},
    stepsDownward steps = true → (∀ i ∈ is, i.Inner sub) →
      walk doc steps (is.map (Item.shift k)) = (walk sub steps is).map (Item.shift k)
  | [], is, _, _ => by rw [walk_nil, walk_nil]
  | s :: rest, is, down, inner => by
    obtain ⟨first, others⟩ := Bool.and_eq_true_iff.mp down
    have next : (is.map (Item.shift k)).flatMap (s.select doc) =
        (is.flatMap (s.select sub)).map (Item.shift k) := by
      rw [List.flatMap_map, List.map_flatMap]
      exact List.flatMap_congr fun i hi => s.select_shift h first (inner i hi)
    rw [walk_cons, walk_cons, next, inDocumentOrder_shift]
    exact walk_shift h rest others (s.inner_of_mem_next first inner)

/-- **A branch selects the same items in both documents.** -/
theorem Branch.select_shift (h : sub.Embeds doc k) : ∀ (b : Branch) {i : Item},
    b.isDownward = true → i.Inner sub → b.select doc (i.shift k) = (b.select sub i).map (Item.shift k)
  | ⟨absolute, steps⟩, i, down, hi => by
    obtain ⟨relative, leads⟩ := Bool.and_eq_true_iff.mp down
    cases absolute with
    | true => cases relative
    | false =>
      have single : ∀ j ∈ [i], j.Inner sub := fun j hj => List.mem_singleton.mp hj ▸ hi
      have walked := walk_shift h steps leads single
      rw [Branch.select, Branch.select]
      exact walked

/-- **Branches one after the other select the same items in both documents.** -/
theorem selectEach_shift (h : sub.Embeds doc k) : ∀ (union : List Branch) {i : Item},
    unionDownward union = true → i.Inner sub →
      selectEach doc union (i.shift k) = (selectEach sub union i).map (Item.shift k)
  | [], i, _, _ => by
    rw [selectEach, selectEach]
    rfl
  | b :: rest, i, down, hi => by
    obtain ⟨first, others⟩ := Bool.and_eq_true_iff.mp down
    rw [selectEach, selectEach, b.select_shift h first hi, selectEach_shift h rest others hi,
      List.map_append]
end

/-! ## 5. Expressions -/

/-- **An expression that looks downward sees its subtree only.** From an element it selects what it
    selects from the document element of the document that the element's subtree is on its own, the
    indices shifted by what the two elements are apart, and the values are the same. -/
theorem Expr.downward_sees_subtree {x : Expr} {n : NodeId} (element : doc.isElement n = true)
    (down : x.isDownward = true) : ∃ e : Element, doc.content? n = some e.toContent ∧
      (Document.ofElement e).documentElement? = some 1 ∧
      ∃ is, x.select? (.ofElement e) (.node 1) = some is ∧
        x.select? doc (.node n) = some (is.map (Item.shift (n - 1))) ∧
        ∀ i ∈ is, (i.shift (n - 1)).stringValue doc = i.stringValue (.ofElement e) := by
  obtain ⟨e, content, embeds⟩ := Document.exists_embeds element
  have known : Item.within doc (.node n) = true :=
    Item.within_iff.mpr (Document.lt_size_of_isElement element)
  have top : Item.Inner (.ofElement e) (.node 1) := Document.inner_documentElement e
  have within : Item.within (.ofElement e) (.node 1) = true := Item.within_iff.mpr top.2
  have start : (Item.node 1).shift (n - 1) = .node n :=
    congrArg Item.node (Nat.add_sub_cancel' (Document.pos_of_isElement element))
  have same := selectEach_shift embeds x.union down top
  rw [start] at same
  refine ⟨e, content, Document.documentElement?_ofElement e, _, Expr.select?_of_within within, ?_,
    fun i hi => ?_⟩
  · rw [Expr.select?_of_within known, Expr.select, Expr.select, selectUnion, selectUnion, same,
      unite_shift]
  · exact embeds.stringValue_shift (inner_of_mem_selectEach down top (mem_unite.mp hi))

/-- What `.//*[1]` is compiled to. -/
def firstsBelow : Expr where
  source := ".//*[1]"
  union := [⟨false, [Step.here, Step.anywhere, ⟨.child, .wildcard, [.position 1]⟩]⟩]

theorem compile_firstsBelow : Expr.compile ".//*[1]" = .ok firstsBelow := by
  refine Expr.compile_eq_ok_iff.mpr ⟨rfl, [⟨.dot, 0⟩, ⟨.doubleSlash, 1⟩, ⟨.star, 3⟩,
    ⟨.openBracket, 4⟩, ⟨.number 1, 5⟩, ⟨.closeBracket, 6⟩], by decide +kernel,
    readAll_eq_ok_iff.mpr ?_⟩
  have first : Derives .filters [.openBracket, .number 1, .closeBracket] [.position 1] [] :=
    .filter (.noOr (.noAnd (.position (by decide)))) .noFilter
  exact .single (.relative (.nextBelow .here (.last (.child .wildcard first))))

theorem Expr.downward_sees_subtree_sections : Expr.compile ".//*[1]" = .ok firstsBelow ∧
    (Document.ofElement titledSections).isElement 3 = true ∧ firstsBelow.isDownward = true ∧
    firstsBelow.select? (.ofElement titledSections) (.node 3) = some [.node 4] ∧
    ∃ e : Element, (Document.ofElement titledSections).content? 3 = some e.toContent ∧
      (Document.ofElement e).documentElement? = some 1 ∧
      ∃ is, firstsBelow.select? (.ofElement e) (.node 1) = some is ∧
        firstsBelow.select? (.ofElement titledSections) (.node 3) = some (is.map (Item.shift 2)) ∧
        ∀ i ∈ is, (i.shift 2).stringValue (.ofElement titledSections) =
          i.stringValue (.ofElement e) := by
  have element : (Document.ofElement titledSections).isElement 3 = true := by decide +kernel
  exact ⟨compile_firstsBelow, element, rfl, by decide +kernel,
    Expr.downward_sees_subtree element rfl⟩

end MarkupRules.Path
