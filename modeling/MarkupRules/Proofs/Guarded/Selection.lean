import MarkupRules.Proofs.Guarded.Access

/-!
# Guarded selection

The evaluation of expressions once more, with every look at the document guarded: an item whose
axes are followed, whose kind is tested or whose value is compared has to stand at a node of the
document.

* `Guarded.axisItems`, `Guarded.accepts` -- the items along an axis, and the test of one;
* `Guarded.filterHolds`, `Guarded.stepSelect`, `Guarded.walk`, `Guarded.selectEach` -- the
  meaning of an expression, by the same recursion as the plain one;
* `Guarded.selectEach_eq`, `Guarded.select_eq` -- **from an item of the document no access
  fails**, since every step leads to items of the document again.
-/

namespace MarkupRules.Guarded

open MarkupRules.Path

variable {doc : Document} {i j : Item} {axis : Axis}

/-! ## 1. Axes and tests -/

/-- The items along an axis. -/
def axisItems (doc : Document) (axis : Axis) : Item → Guarded (List Item)
  | .attribute owner name => do
    let owner ← demand doc owner
    match axis with
    | .self => return [.attribute owner name]
    | .parent => return [.node owner]
    | .ancestor => return .node owner :: (← ancestors doc owner).map .node
    | .ancestorOrSelf =>
      return .attribute owner name :: .node owner :: (← ancestors doc owner).map .node
    | _ => return []
  | .node id => do
    let id ← demand doc id
    match axis with
    | .self => return [.node id]
    | .child => return (← children doc id).map .node
    | .descendant => return (← descendants doc id).map .node
    | .descendantOrSelf => return .node id :: (← descendants doc id).map .node
    | .parent => return (← parent? doc id).toList.map .node
    | .ancestor => return (← ancestors doc id).map .node
    | .ancestorOrSelf => return .node id :: (← ancestors doc id).map .node
    | .followingSibling => return (← followingSiblings doc id).map .node
    | .precedingSibling => return (← precedingSiblings doc id).map .node
    | .attribute => return (← attributes doc id).map fun (name, _) => .attribute id name

/-- Whether an item met on an axis passes a test. -/
def accepts (doc : Document) (axis : Axis) (test : NodeTest) : Item → Guarded Bool
  | .attribute owner own => return test.accepts doc axis (.attribute owner own)
  | .node id =>
    if axis == .attribute then return false
    else do
      match test, ← kind doc (← demand doc id) with
      | .name wanted, .element name _ => return wanted == name
      | .wildcard, .element .. => return true
      | .text, .text _ => return true
      | .anyNode, _ => return true
      | _, _ => return false

theorem axisItems_eq (h : i.nodeId < doc.size) : axisItems doc axis i = .ok (axis.items doc i) := by
  rcases i with id | ⟨owner, name⟩
  · change id < doc.size at h
    rw [axisItems, demand_eq h, ok_bind]
    match axis with
    | .self => rfl
    | .child => rw [children_eq h]; rfl
    | .descendant => rw [descendants_eq h]; rfl
    | .descendantOrSelf => rw [descendants_eq h]; rfl
    | .parent => rw [parent?_eq h]; rfl
    | .ancestor => rw [ancestors_eq h]; rfl
    | .ancestorOrSelf => rw [ancestors_eq h]; rfl
    | .followingSibling => rw [followingSiblings_eq h]; rfl
    | .precedingSibling => rw [precedingSiblings_eq h]; rfl
    | .attribute => rw [attributes_eq h]; rfl
  · change owner < doc.size at h
    rw [axisItems, demand_eq h, ok_bind]
    match axis with
    | .ancestor => rw [ancestors_eq h]; rfl
    | .ancestorOrSelf => rw [ancestors_eq h]; rfl
    | .self | .parent => rfl
    | .child | .descendant | .descendantOrSelf | .followingSibling | .precedingSibling
    | .attribute => rfl

theorem accepts_eq {test : NodeTest} (h : i.nodeId < doc.size) :
    accepts doc axis test i = .ok (test.accepts doc axis i) := by
  rcases i with id | ⟨owner, name⟩
  · change id < doc.size at h
    obtain ⟨k, hk, hkind⟩ := exists_kind_eq h
    rw [accepts, demand_eq h, ok_bind, hkind, ok_bind]
    by_cases hattribute : axis = .attribute
    · subst hattribute
      rfl
    · rw [beq_eq_false_iff_ne.mpr hattribute, if_neg Bool.false_ne_true, NodeTest.accepts.eq_def,
        bne, beq_eq_false_iff_ne.mpr hattribute]
      simp only [Document.name?, Document.isElement, Document.isText, hk]
      cases test <;> cases k <;> first | rfl | exact congrArg Except.ok Bool.beq_comm
  · rfl

/-- The members of a list that pass a guarded test of their rank and themselves. -/
def keepRanked {α : Type} (p : Nat → α → Guarded Bool) (rank : Nat) : List α → Guarded (List α)
  | [] => return []
  | a :: rest => do
    let passes ← p rank a
    let more ← keepRanked p (rank + 1) rest
    return if passes then a :: more else more

theorem keepRanked_eq {α : Type} {p : Nat → α → Guarded Bool} {q : Nat → α → Bool} :
    ∀ {l : List α} {rank : Nat}, (∀ rank, ∀ a ∈ l, p rank a = .ok (q rank a)) →
      keepRanked p rank l = .ok (Path.keepRanked q rank l)
  | [], _, _ => rfl
  | a :: rest, rank, h => by
    have first := h rank a List.mem_cons_self
    have more : keepRanked p (rank + 1) rest = _ :=
      keepRanked_eq fun rank b hb => h rank b (List.mem_cons_of_mem a hb)
    rw [keepRanked, first, ok_bind, more, ok_bind, pure_eq_ok, Path.keepRanked]

/-! ## 2. The meaning of an expression -/

mutual
/-- Whether the item passes the filter at the given rank among `size` items. The second half of a
    disjunction or conjunction is looked at only if the first does not decide. -/
def filterHolds (doc : Document) : Filter → Item → Nat → Nat → Guarded Bool
  | .or left right, i, rank, size => do
    if ← filterHolds doc left i rank size then return true
    else filterHolds doc right i rank size
  | .and left right, i, rank, size => do
    if ← filterHolds doc left i rank size then filterHolds doc right i rank size
    else return false
  | .not inner, i, rank, size => do return !(← filterHolds doc inner i rank size)
  | .exists union, i, _, _ => do return !(unite union (← selectEach doc union i)).isEmpty
  | .compare union comparison operand, i, _, _ => do
    (unite union (← selectEach doc union i)).anyM fun j => do
      return comparison.holdsOf (← itemValue doc j) operand
  | .count union comparison value, i, _, _ => do
    let found := unite union (← selectEach doc union i)
    return comparison.accepts (compare (found.length : Int) value)
  | .position wanted, _, rank, size => return rank == wanted && wanted ≤ size
termination_by structural f => f

/-- The items that one step leads to from an item. -/
def stepSelect (doc : Document) : Step → Item → Guarded (List Item)
  | ⟨axis, test, filters⟩, i => do
    let along ← axisItems doc axis i
    let accepted ← keep (accepts doc axis test) along
    keepAll doc filters accepted

/-- The items that pass the filters in turn. -/
def keepAll (doc : Document) : List Filter → List Item → Guarded (List Item)
  | [], is => return is
  | f :: rest, is => do
    let kept ← keepRanked (fun rank i => filterHolds doc f i rank is.length) 1 is
    keepAll doc rest kept

/-- The items that steps in a row lead to. -/
def walk (doc : Document) : List Step → List Item → Guarded (List Item)
  | [], is => return is
  | s :: rest, is => do
    let found ← is.mapM (stepSelect doc s)
    let next := inDocumentOrder found.flatten
    if next.isEmpty then return next else walk doc rest next

/-- The items that a branch leads to. An absolute one demands the document node. -/
def branchSelect (doc : Document) : Branch → Item → Guarded (List Item)
  | ⟨absolute, steps⟩, i => do
    if absolute then walk doc steps [.node (← demand doc doc.root)] else walk doc steps [i]

/-- The items that the branches lead to, one branch after the other. -/
def selectEach (doc : Document) : List Branch → Item → Guarded (List Item)
  | [], _ => return []
  | b :: rest, i => do
    let found ← branchSelect doc b i
    let more ← selectEach doc rest i
    return found ++ more
end

/-- The items that an expression selects from a context. -/
def select (doc : Document) (path : Expr) (context : Item) : Guarded (List Item) := do
  return unite path.union (← selectEach doc path.union context)

/-! ## 3. No access fails -/

theorem lt_size_of_mem_stepSelect {s : Step} (h : i.nodeId < doc.size) (hj : j ∈ s.select doc i) :
    j.nodeId < doc.size := by
  rcases Axis.exists_of_mem_items h (Step.mem_items_of_mem_select hj) with rfl | hj
  · exact h
  · exact hj.nodeId_lt

/-- **A union leads from an item of the document to items of the document.** -/
theorem lt_size_of_mem_selectUnion {union : List Branch} (h : i.nodeId < doc.size)
    (hj : j ∈ selectUnion doc union i) : j.nodeId < doc.size := by
  obtain ⟨b, _, hb⟩ := mem_selectUnion.mp hj
  rcases Branch.eq_or_exists_of_mem_select h hb with rfl | hj
  · exact h
  · exact hj.nodeId_lt

-- by recursion on the expression; what is carried along is that every item at hand stands at a
-- node of the document
mutual
theorem filterHolds_eq {i : Item} {rank size : Nat} (h : i.nodeId < doc.size) :
    ∀ f : Filter, filterHolds doc f i rank size = .ok (f.holds doc i rank size)
  | .or left right => by
    rw [filterHolds, filterHolds_eq h left, ok_bind, filterHolds_eq h right, Filter.holds]
    cases left.holds doc i rank size <;> rfl
  | .and left right => by
    rw [filterHolds, filterHolds_eq h left, ok_bind, filterHolds_eq h right, Filter.holds]
    cases left.holds doc i rank size <;> rfl
  | .not inner => by
    rw [filterHolds, filterHolds_eq h inner, Filter.holds]
    rfl
  | .exists union => by
    rw [filterHolds, selectEach_eq h union, Filter.holds]
    rfl
  | .compare union comparison operand => by
    rw [filterHolds, selectEach_eq h union, ok_bind, Filter.holds]
    refine anyM_eq fun j hj => ?_
    rw [itemValue_eq (lt_size_of_mem_selectUnion h hj)]
    rfl
  | .count union comparison value => by
    rw [filterHolds, selectEach_eq h union, Filter.holds]
    rfl
  | .position wanted => by
    rw [filterHolds, Filter.holds]
    rfl

theorem stepSelect_eq {i : Item} (h : i.nodeId < doc.size) :
    ∀ s : Step, stepSelect doc s i = .ok (s.select doc i)
  | ⟨axis, test, filters⟩ => by
    have along : ∀ j ∈ axis.items doc i, j.nodeId < doc.size := by
      intro j hj
      rcases Axis.exists_of_mem_items h hj with rfl | hj
      · exact h
      · exact hj.nodeId_lt
    have accepted : keep (accepts doc axis test) (axis.items doc i) = _ :=
      keep_eq fun j hj => accepts_eq (along j hj)
    rw [stepSelect, axisItems_eq h, ok_bind, accepted, ok_bind, Step.select]
    exact keepAll_eq filters fun j hj => along j (List.mem_filter.mp hj).1

theorem keepAll_eq : ∀ (filters : List Filter) {is : List Item}, (∀ i ∈ is, i.nodeId < doc.size) →
    keepAll doc filters is = .ok (Path.keepAll doc filters is)
  | [], is, _ => by
    rw [keepAll, Path.keepAll]
    rfl
  | f :: rest, is, h => by
    have kept : keepRanked (fun rank i => filterHolds doc f i rank is.length) 1 is = _ :=
      keepRanked_eq fun rank i hi => filterHolds_eq (h i hi) f
    rw [keepAll, kept, ok_bind, Path.keepAll]
    exact keepAll_eq rest fun j hj => h j (keepRanked_sublist.mem hj)

theorem walk_eq : ∀ (steps : List Step) {is : List Item}, (∀ i ∈ is, i.nodeId < doc.size) →
    walk doc steps is = .ok (Path.walk doc steps is)
  | [], is, _ => by
    rw [walk, Path.walk]
    rfl
  | s :: rest, is, h => by
    have found : is.mapM (stepSelect doc s) = _ := mapM_eq fun i hi => stepSelect_eq (h i hi) s
    have next : ∀ j ∈ inDocumentOrder (is.flatMap (s.select doc)), j.nodeId < doc.size := by
      intro j hj
      obtain ⟨i, hi, hj⟩ := List.mem_flatMap.mp (mem_inDocumentOrder.mp hj)
      exact lt_size_of_mem_stepSelect (h i hi) hj
    rw [walk, found, ok_bind, ← List.flatMap_def, Path.walk]
    show (if _ then _ else _) = Except.ok (if _ then _ else _)
    split
    · rfl
    · exact walk_eq rest next

theorem branchSelect_eq {i : Item} (h : i.nodeId < doc.size) :
    ∀ b : Branch, branchSelect doc b i = .ok (b.select doc i)
  | ⟨true, steps⟩ => by
    rw [branchSelect, Branch.select, if_pos rfl, if_pos rfl, demand_eq (root_lt_size doc), ok_bind]
    exact walk_eq steps fun j hj => List.mem_singleton.mp hj ▸ root_lt_size doc
  | ⟨false, steps⟩ => by
    rw [branchSelect, Branch.select, if_neg Bool.false_ne_true, if_neg Bool.false_ne_true]
    exact walk_eq steps fun j hj => List.mem_singleton.mp hj ▸ h

/-- **From an item of the document no look at the document fails.** -/
theorem selectEach_eq {i : Item} (h : i.nodeId < doc.size) :
    ∀ union : List Branch, selectEach doc union i = .ok (Path.selectEach doc union i)
  | [] => by
    rw [selectEach, Path.selectEach]
    rfl
  | b :: rest => by
    rw [selectEach, branchSelect_eq h b, ok_bind, selectEach_eq h rest, Path.selectEach]
    rfl
end

theorem select_eq {path : Expr} (h : i.nodeId < doc.size) :
    select doc path i = .ok (path.select doc i) := by
  rw [select, selectEach_eq h]
  rfl

end MarkupRules.Guarded
