import MarkupRules.Proofs.Path.Closure

/-!
# Steps one by one

What the common steps lead to, told on the nodes of the document.

* `walk_append`, `mem_walk_cons` -- steps in a row are taken one after the other, and from each
  item on its own;
* `mem_select_child`, `mem_select_up`, `mem_select_attribute`, `mem_select_anywhere` -- the steps
  `name`, `..`, `@name` and the one that `//` stands for;
* `Step.mem_select_exists` -- a step with a path for its filter keeps what the path leads on from;
* `Step.select_position` -- **a step with a position leads to the one item of that rank**.
-/

namespace MarkupRules.Path

variable {doc : Document} {i j : Item} {is : List Item} {id : NodeId} {n : String}

/-! ## 1. Steps in a row -/

theorem walk_nil : walk doc [] is = is := by
  rw [walk]

theorem walk_append {later : List Step} : ∀ {steps : List Step} {is : List Item},
    walk doc (steps ++ later) is = walk doc later (walk doc steps is)
  | [], is => by
    rw [walk_nil]
    rfl
  | s :: rest, is => by
    rw [List.cons_append, walk_cons, walk_cons, walk_append]

/-- What steps lead to, they lead to from one of the items. -/
theorem mem_walk_iff : ∀ {steps : List Step} {is : List Item},
    j ∈ walk doc steps is ↔ ∃ i ∈ is, j ∈ walk doc steps [i]
  | [], is => by simp [walk_nil]
  | s :: rest, is => by
    simp only [walk_cons, List.flatMap_singleton]
    rw [mem_walk_iff]
    simp only [mem_inDocumentOrder, List.mem_flatMap]
    constructor
    · intro h
      obtain ⟨k, ⟨i, hi, hk⟩, hj⟩ := h
      exact ⟨i, hi, mem_walk_iff.mpr ⟨k, mem_inDocumentOrder.mpr hk, hj⟩⟩
    · intro h
      obtain ⟨i, hi, hj⟩ := h
      obtain ⟨k, hk, hj⟩ := mem_walk_iff.mp hj
      exact ⟨k, ⟨i, hi, mem_inDocumentOrder.mp hk⟩, hj⟩

/-- **A first step is taken before the others.** -/
theorem mem_walk_cons {s : Step} {rest : List Step} :
    j ∈ walk doc (s :: rest) [i] ↔ ∃ k ∈ s.select doc i, j ∈ walk doc rest [k] := by
  rw [walk_cons, mem_walk_iff, List.flatMap_singleton]
  simp only [mem_inDocumentOrder]

theorem walk_single {s : Step} (h : s.select doc i = [j]) : walk doc [s] [i] = [j] := by
  rw [walk_cons, List.flatMap_singleton, h, walk_nil]
  rfl

/-- A union of one branch selects what the branch does. -/
theorem selectUnion_single {b : Branch} : selectUnion doc [b] i = b.select doc i := by
  rw [selectUnion, unite, if_neg (by simp), selectEach, selectEach, List.append_nil]

/-- Items in document order that are all the same are a single one. -/
theorem eq_singleton_of_ascending (h : is.Pairwise Item.Before) (all : ∀ k, k ∈ is ↔ k = j) :
    is = [j] := by
  match is with
  | [] => cases (all j).mpr rfl
  | [k] => rw [(all k).mp List.mem_cons_self]
  | k :: l :: rest =>
    have first := (all k).mp List.mem_cons_self
    have second := (all l).mp (List.mem_cons_of_mem k List.mem_cons_self)
    have before := List.rel_of_pairwise_cons h List.mem_cons_self
    rw [first, second] at before
    exact absurd before (Item.Before.irrefl j)

/-! ## 2. Steps without filters -/

theorem mem_select_plain {axis : Axis} {test : NodeTest} : j ∈ Step.select doc ⟨axis, test, []⟩ i ↔
    j ∈ axis.items doc i ∧ test.accepts doc axis j = true := by
  rw [Step.select, keepAll, List.mem_filter]

/-- **The children of a name.** -/
theorem mem_select_child : j ∈ Step.select doc ⟨.child, .name n, []⟩ (.node id) ↔
    ∃ c ∈ doc.children id, doc.name? c = some n ∧ j = .node c := by
  rw [mem_select_plain]
  constructor
  · intro h
    obtain ⟨hj, accepted⟩ := h
    obtain ⟨c, hc, rfl⟩ := List.mem_map.mp hj
    exact ⟨c, hc, beq_iff_eq.mp accepted, rfl⟩
  · intro h
    obtain ⟨c, hc, named, rfl⟩ := h
    exact ⟨List.mem_map_of_mem hc, beq_iff_eq.mpr named⟩

/-- **The parent.** -/
theorem mem_select_up : j ∈ Step.up.select doc (.node id) ↔
    ∃ p, doc.parent? id = some p ∧ j = .node p := by
  rw [Step.up, mem_select_plain]
  constructor
  · intro h
    obtain ⟨p, hp, rfl⟩ := List.mem_map.mp h.1
    exact ⟨p, Option.mem_toList.mp hp, rfl⟩
  · intro h
    obtain ⟨p, hp, rfl⟩ := h
    exact ⟨List.mem_map_of_mem (Option.mem_toList.mpr hp), rfl⟩

/-- An attribute has a value if and only if its name is listed. -/
theorem exists_attribute?_iff :
    (∃ value, doc.attribute? id n = some value) ↔ n ∈ (doc.attributes id).map (·.1) := by
  rw [Document.attribute?, Document.attributes]
  split
  · rename_i attributes _
    rw [← Option.isSome_iff_exists, Attributes.get?, ← Option.ne_none_iff_isSome, Ne,
      List.lookup_eq_none_iff, List.mem_map]
    simp only [bne_iff_ne, not_forall, not_not, exists_prop, eq_comm (a := n)]
  · simp

/-- **The attribute of a name.** -/
theorem mem_select_attribute : j ∈ Step.select doc ⟨.attribute, .name n, []⟩ (.node id) ↔
    n ∈ (doc.attributes id).map (·.1) ∧ j = .attribute id n := by
  rw [mem_select_plain]
  constructor
  · intro h
    obtain ⟨hj, accepted⟩ := h
    obtain ⟨a, ha, rfl⟩ := List.mem_map.mp hj
    have same : n = a.1 := beq_iff_eq.mp accepted
    exact ⟨same ▸ List.mem_map_of_mem ha, by rw [same]⟩
  · intro h
    obtain ⟨hn, rfl⟩ := h
    obtain ⟨a, ha, rfl⟩ := List.mem_map.mp hn
    exact ⟨List.mem_map_of_mem ha, beq_self_eq_true a.1⟩

/-- **The node itself and everything below it.** -/
theorem mem_select_anywhere : j ∈ Step.anywhere.select doc (.node id) ↔
    ∃ x ∈ id :: doc.descendants id, j = .node x := by
  rw [Step.anywhere, mem_select_plain]
  constructor
  · intro h
    obtain ⟨x, hx, rfl⟩ := List.mem_map.mp (show j ∈ (id :: doc.descendants id).map .node from h.1)
    exact ⟨x, hx, rfl⟩
  · intro h
    obtain ⟨x, hx, rfl⟩ := h
    exact ⟨show _ ∈ (id :: doc.descendants id).map Item.node from List.mem_map_of_mem hx, rfl⟩

/-! ## 3. Filters without ranks -/

/-- What is kept without a look at its rank is filtered. -/
theorem keepRanked_eq_filter {α : Type} {p : α → Bool} : ∀ {rank : Nat} {l : List α},
    keepRanked (fun _ a => p a) rank l = l.filter p
  | _, [] => rfl
  | rank, a :: rest => by
    rw [keepRanked, keepRanked_eq_filter, List.filter_cons]

/-- **A step with a path for its filter** leads to the items that the path leads on from. -/
theorem Step.mem_select_exists {axis : Axis} {test : NodeTest} {union : List Branch} :
    j ∈ Step.select doc ⟨axis, test, [.exists union]⟩ i ↔
      j ∈ Step.select doc ⟨axis, test, []⟩ i ∧ ∃ k, k ∈ selectUnion doc union j := by
  have holds : ∀ (j : Item) (rank size : Nat), (Filter.exists union).holds doc j rank size =
      !(selectUnion doc union j).isEmpty := fun _ _ _ => rfl
  rw [Step.select, keepAll, keepAll]
  simp only [holds]
  rw [keepRanked_eq_filter, List.mem_filter, Step.select, keepAll, Bool.not_eq_true',
    List.isEmpty_eq_false_iff_exists_mem]

/-! ## 4. Positions -/

theorem keepRanked_eq_nil {α : Type} {p : Nat → α → Bool} {rank : Nat} {l : List α}
    (h : ∀ r a, rank ≤ r → p r a = false) : keepRanked p rank l = [] := by
  induction l generalizing rank with
  | nil => rfl
  | cons a rest ih =>
    rw [keepRanked, if_neg (Bool.eq_false_iff.mp (h rank a (Nat.le_refl rank)))]
    exact ih fun r b hr => h r b (Nat.le_of_succ_le hr)

/-- What is kept by one rank is what has that rank. -/
theorem keepRanked_position {α : Type} {k size : Nat} (hk : k ≤ size) {a : α} {behind : List α} :
    ∀ {before : List α} {rank : Nat}, rank + before.length = k →
      keepRanked (fun r _ => r == k && k ≤ size) rank (before ++ a :: behind) = [a]
  | [], rank, h => by
    have here : rank = k := h
    have past : keepRanked (fun r (_ : α) => r == k && k ≤ size) (rank + 1) behind = [] := by
      refine keepRanked_eq_nil fun r _ hr => ?_
      rw [beq_eq_false_iff_ne.mpr (by omega), Bool.false_and]
    rw [List.nil_append, keepRanked, past, if_pos]
    rw [here, beq_self_eq_true, Bool.true_and]
    exact decide_eq_true hk
  | b :: before, rank, h => by
    rw [List.length_cons] at h
    have early : (rank == k && decide (k ≤ size)) = false := by
      rw [beq_eq_false_iff_ne.mpr (by omega), Bool.false_and]
    rw [List.cons_append, keepRanked, if_neg (Bool.eq_false_iff.mp early)]
    exact keepRanked_position hk (by omega)

/-- **A step with a position** leads to the item that has this rank among those that pass the
    test. -/
theorem Step.select_position {axis : Axis} {test : NodeTest} {before behind : List Item}
    (h : (axis.items doc i).filter (test.accepts doc axis) = before ++ j :: behind) :
    Step.select doc ⟨axis, test, [.position (before.length + 1)]⟩ i = [j] := by
  have inside : before.length + 1 ≤ (before ++ j :: behind).length := by
    rw [List.length_append, List.length_cons]
    omega
  rw [Step.select, h, keepAll, keepAll]
  simp only [Filter.holds]
  exact keepRanked_position inside (Nat.add_comm 1 before.length)

end MarkupRules.Path
