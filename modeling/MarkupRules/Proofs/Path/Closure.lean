import MarkupRules.Path.Select
import MarkupRules.Proofs.Document.Order

/-!
# Selections stay in the document

Whatever is selected from an item of a document is in document order and is an item of the
document again:

* `Axis.exists_of_mem_items` -- an axis leads to existing items only, or stays at the item;
* `Branch.select_ascending`, `Branch.eq_or_exists_of_mem_select` -- the same for all steps of a
  branch;
* `Expr.select_ascending_and_exists` -- **an expression selects existing items in strictly
  ascending order**.

The context itself may be an attribute that its owner does not have; it is then the only such
item that can be selected.
-/

namespace MarkupRules.Path

variable {doc : Document} {i j context : Item}

/-! ## 1. One step -/

/-- The document node is a node of the document. -/
theorem root_lt_size (doc : Document) : doc.root < doc.size := by
  obtain ⟨e, rfl⟩ := doc.exists_eq_ofElement
  rw [Document.size_ofElement]
  exact Content.size_pos _

theorem lt_size_of_mem_ancestors {x y : Nat} (h : x ∈ doc.ancestors y) : x < doc.size := by
  obtain ⟨e, rfl⟩ := doc.exists_eq_ofElement
  by_cases hy : y < (Document.ofElement e).size
  · obtain ⟨p, d, hd, rfl⟩ := Document.exists_index_eq hy
    obtain ⟨q, ⟨r, rfl⟩, _, rfl⟩ := (Document.mem_ancestors_index hd).mp h
    obtain ⟨c, hc, _⟩ := Content.exists_at?_of_append hd
    exact Document.index_lt_size hc
  · have none : (Document.ofElement e).parent? y = none := by
      rw [Document.parent?, Document.node?_eq_none hy]
      rfl
    rw [Document.ancestors_of_parent?_eq_none none] at h
    cases h

theorem lt_size_of_mem_siblings {x y : Nat} (h : x ∈ doc.siblings y) : x < doc.size := by
  rw [Document.siblings] at h
  split at h
  · cases h
  · exact (Document.lt_of_mem_children h).2

theorem lt_size_of_mem_descendants {x y : Nat} (hy : y < doc.size) (h : x ∈ doc.descendants y) :
    x < doc.size :=
  Nat.lt_of_lt_of_le (Document.mem_descendants_iff.mp h).2 (Document.stop_le_size hy)

/-- **An axis leads to items of the document**, or stays where it starts. -/
theorem Axis.exists_of_mem_items {axis : Axis} (hi : i.nodeId < doc.size)
    (h : j ∈ axis.items doc i) : j = i ∨ j.Exists doc := by
  have node : ∀ {ids : List NodeId}, (∀ x ∈ ids, x < doc.size) → j ∈ ids.map Item.node →
      j.Exists doc := by
    intro ids all hj
    obtain ⟨x, hx, rfl⟩ := List.mem_map.mp hj
    exact all x hx
  rcases i with id | ⟨owner, name⟩
  · match axis with
    | .self => exact .inl (List.mem_singleton.mp h)
    | .child => exact .inr (node (fun _ hx => (Document.lt_of_mem_children hx).2) h)
    | .descendant => exact .inr (node (fun _ => lt_size_of_mem_descendants hi) h)
    | .descendantOrSelf =>
      exact (List.mem_cons.mp h).imp_right (node fun _ => lt_size_of_mem_descendants hi)
    | .parent =>
      refine .inr (node (fun x hx => ?_) h)
      exact Nat.lt_trans (doc.lt_of_parent? (Option.mem_toList.mp hx)) hi
    | .ancestor => exact .inr (node (fun _ => lt_size_of_mem_ancestors) h)
    | .ancestorOrSelf =>
      exact (List.mem_cons.mp h).imp_right (node fun _ => lt_size_of_mem_ancestors)
    | .followingSibling =>
      refine .inr (node (fun x hx => ?_) h)
      exact lt_size_of_mem_siblings ((List.dropWhile_sublist _).mem (List.mem_of_mem_drop hx))
    | .precedingSibling =>
      refine .inr (node (fun x hx => ?_) h)
      exact lt_size_of_mem_siblings ((List.takeWhile_sublist _).mem (List.mem_reverse.mp hx))
    | .attribute =>
      obtain ⟨a, ha, rfl⟩ := List.mem_map.mp h
      exact .inr (List.mem_map_of_mem ha)
  · have above : ∀ x ∈ owner :: doc.ancestors owner, x < doc.size := by
      intro x hx
      rcases List.mem_cons.mp hx with rfl | hx
      · exact hi
      · exact lt_size_of_mem_ancestors hx
    match axis with
    | .self => exact .inl (List.mem_singleton.mp h)
    | .parent => exact .inr (List.mem_singleton.mp h ▸ hi)
    | .ancestor => exact .inr (node above h)
    | .ancestorOrSelf => exact (List.mem_cons.mp h).imp_right (node above)
    | .child | .descendant | .descendantOrSelf | .followingSibling | .precedingSibling
    | .attribute => cases h

theorem keepRanked_sublist {α : Type} {p : Nat → α → Bool} : ∀ {rank : Nat} {l : List α},
    (keepRanked p rank l).Sublist l
  | _, [] => List.Sublist.refl []
  | rank, a :: rest => by
    rw [keepRanked]
    split
    · exact keepRanked_sublist.cons_cons a
    · exact keepRanked_sublist.cons a

/-- Filters only leave items out. -/
theorem keepAll_sublist : ∀ {filters : List Filter} {is : List Item},
    (keepAll doc filters is).Sublist is
  | [], is => by rw [keepAll]
  | f :: rest, is => by
    rw [keepAll]
    exact keepAll_sublist.trans keepRanked_sublist

theorem Step.mem_items_of_mem_select {s : Step} (h : j ∈ s.select doc i) :
    j ∈ s.axis.items doc i := by
  obtain ⟨axis, test, filters⟩ := s
  rw [Step.select] at h
  exact (List.mem_filter.mp (keepAll_sublist.mem h)).1

/-- What a step selects passes its test. -/
theorem Step.accepts_of_mem_select {s : Step} (h : j ∈ s.select doc i) :
    s.test.accepts doc s.axis j = true := by
  obtain ⟨axis, test, filters⟩ := s
  rw [Step.select] at h
  exact (List.mem_filter.mp (keepAll_sublist.mem h)).2

/-! ## 2. Steps in a row -/

theorem walk_cons {s : Step} {rest : List Step} {is : List Item} :
    walk doc (s :: rest) is = walk doc rest (inDocumentOrder (is.flatMap (s.select doc))) := by
  rw [walk]
  split
  · rename_i h
    -- an early end gives nothing, and so do all steps from nowhere
    have nowhere : ∀ steps : List Step, walk doc steps [] = [] := by
      intro steps
      cases steps <;> simp [walk, inDocumentOrder]
    rw [List.isEmpty_iff.mp h, nowhere]
  · rfl

/-- **Steps lead from a list in document order to one in document order.** -/
theorem walk_ascending : ∀ {steps : List Step} {is : List Item}, is.Pairwise Item.Before →
    (walk doc steps is).Pairwise Item.Before
  | [], is, h => by
    rw [walk]
    exact h
  | s :: rest, is, _ => by
    rw [walk_cons]
    exact walk_ascending (inDocumentOrder_ascending _)

/-- **Steps lead from the context or existing items to such items.** -/
theorem eq_or_exists_of_mem_walk (hc : context.nodeId < doc.size) :
    ∀ {steps : List Step} {is : List Item}, (∀ i ∈ is, i = context ∨ i.Exists doc) →
      ∀ j ∈ walk doc steps is, j = context ∨ j.Exists doc
  | [], is, h => by
    rw [walk]
    exact h
  | s :: rest, is, h => by
    rw [walk_cons]
    refine eq_or_exists_of_mem_walk hc fun j hj => ?_
    obtain ⟨i, hi, hj⟩ := List.mem_flatMap.mp (mem_inDocumentOrder.mp hj)
    have known := h i hi
    have within : i.nodeId < doc.size := known.elim (fun h => h ▸ hc) Item.Exists.nodeId_lt
    rcases Axis.exists_of_mem_items within (Step.mem_items_of_mem_select hj) with rfl | hj
    · exact known
    · exact .inr hj

/-! ## 3. Branches and unions -/

theorem Branch.select_ascending {b : Branch} : (b.select doc i).Pairwise Item.Before := by
  obtain ⟨absolute, steps⟩ := b
  rw [Branch.select]
  exact walk_ascending (List.pairwise_singleton _ _)

theorem Branch.eq_or_exists_of_mem_select {b : Branch} (hc : context.nodeId < doc.size)
    (h : j ∈ b.select doc context) : j = context ∨ j.Exists doc := by
  obtain ⟨absolute, steps⟩ := b
  rw [Branch.select] at h
  refine eq_or_exists_of_mem_walk hc (fun i hi => ?_) j h
  rw [List.mem_singleton.mp hi]
  cases absolute with
  | true => exact .inr (root_lt_size doc)
  | false => exact .inl rfl

/-- An absolute branch does not look at the context. -/
theorem Branch.select_of_absolute {b : Branch} (doc : Document) (h : b.absolute = true)
    (i j : Item) : b.select doc i = b.select doc j := by
  obtain ⟨absolute, steps⟩ := b
  cases h
  rfl

theorem mem_selectEach {union : List Branch} :
    j ∈ selectEach doc union i ↔ ∃ b ∈ union, j ∈ b.select doc i := by
  induction union with
  | nil => simp [selectEach]
  | cons b rest ih => simp [selectEach, ih]

theorem mem_unite {union : List Branch} {is : List Item} : j ∈ unite union is ↔ j ∈ is := by
  rw [unite]
  split
  · exact mem_inDocumentOrder
  · rfl

/-- **An item is selected by a union if one of its branches selects it.** -/
theorem mem_selectUnion {union : List Branch} :
    j ∈ selectUnion doc union i ↔ ∃ b ∈ union, j ∈ b.select doc i := by
  rw [selectUnion, mem_unite, mem_selectEach]

/-- A union of one branch is in order without sorting. -/
theorem selectUnion_ascending : ∀ {union : List Branch},
    (selectUnion doc union i).Pairwise Item.Before
  | [] => by simp [selectUnion, unite, selectEach]
  | [b] => by simpa [selectUnion, unite, selectEach] using Branch.select_ascending
  | _ :: _ :: _ => by
    rw [selectUnion, unite, if_pos (by simp)]
    exact inDocumentOrder_ascending _

/-- **An expression selects existing items in strictly ascending document order**, each one once.
    Only the context itself may be an attribute that its owner lacks. -/
theorem Expr.select_ascending_and_exists (doc : Document) (x : Expr) (context : Item)
    (h : context.within doc = true) :
    (x.select doc context).Pairwise Item.Before ∧ (x.select doc context).Nodup ∧
      ∀ j ∈ x.select doc context, j.nodeId < doc.size ∧
        ∀ owner name, j = .attribute owner name →
          j = context ∨ name ∈ (doc.attributes owner).map (·.1) := by
  have hc := Item.within_iff.mp h
  have ascending : (x.select doc context).Pairwise Item.Before := selectUnion_ascending
  refine ⟨ascending, nodup_of_ascending ascending, fun j hj => ?_⟩
  obtain ⟨b, _, hb⟩ := mem_selectUnion.mp hj
  have known := Branch.eq_or_exists_of_mem_select hc hb
  refine ⟨known.elim (fun h => h ▸ hc) Item.Exists.nodeId_lt, ?_⟩
  rintro owner name rfl
  exact known

/-- An article with two attributes and a paragraph. -/
def article : Element :=
  (({ name := "article" } : Element).attr "lang" "en").attr "id" "a" |>.child { name := "p" }

/-- What `..|//@*` is compiled to. -/
def parentOrAttributes : Expr where
  source := "..|//@*"
  union := [⟨false, [Step.up]⟩, ⟨true, [Step.anywhere, ⟨.attribute, .wildcard, []⟩]⟩]

theorem select_parentOrAttributes_ascending :
    Item.within (.ofElement article) (.attribute 1 "lang") = true ∧
      (parentOrAttributes.select (.ofElement article) (.attribute 1 "lang")).Pairwise Item.Before ∧
      parentOrAttributes.select (.ofElement article) (.attribute 1 "lang") =
        [.node 1, .attribute 1 "id", .attribute 1 "lang"] := by
  have within : Item.within (.ofElement article) (.attribute 1 "lang") = true := by decide
  refine ⟨within, ?_, by decide +kernel⟩
  exact (Expr.select_ascending_and_exists _ parentOrAttributes _ within).1

end MarkupRules.Path
