import MarkupRules.Proofs.Document.Representation
import MarkupRules.Proofs.Path.Steps

/-!
# Ways down by names

Paths of names lead down a document, child by child.

* `Document.HasChild`, `Document.Leads` -- one child of a name, and several one below the other;
* `Document.documentElement?_eq_some_iff` -- the document element is the child of the document
  node;
* `Document.mem_descendants_iff_parent?` -- what is below a node, told from its parent;
* `mem_walk_children` -- **the steps of some names lead where the names do**;
* `mem_walk_below` -- what the steps of `//` and a name lead to;
* `mem_walk_anywhere` -- the same from the document node;
* `mem_walk_attribute` -- what a last step to an attribute leads to.
-/

namespace MarkupRules

open MarkupRules.Path

variable {doc : Document} {id p x y : NodeId} {n : String} {names : List String} {j : Item}

/-! ## 1. Children of a name -/

namespace Document

/-- `c` is a child of `p`, and its name is `n`. -/
def HasChild (doc : Document) (p : NodeId) (n : String) (c : NodeId) : Prop :=
  doc.parent? c = some p ∧ doc.name? c = some n

instance {doc : Document} {p c : NodeId} {n : String} : Decidable (doc.HasChild p n c) :=
  inferInstanceAs (Decidable (_ ∧ _))

/-- The names lead from a node down to another one, child by child. -/
def Leads (doc : Document) : NodeId → List String → NodeId → Prop
  | p, [], x => x = p
  | p, n :: rest, x => ∃ c, doc.HasChild p n c ∧ Leads doc c rest x

theorem leads_single : doc.Leads p [n] x ↔ doc.HasChild p n x := by
  simp [Leads]

theorem leads_append {more : List String} :
    doc.Leads p (names ++ more) y ↔ ∃ x, doc.Leads p names x ∧ doc.Leads x more y := by
  induction names generalizing p with
  | nil => simp [Leads]
  | cons n rest ih =>
    simp only [List.cons_append, Leads, ih]
    constructor
    · intro h
      obtain ⟨c, hc, x, hx, hy⟩ := h
      exact ⟨x, ⟨c, hc, hx⟩, hy⟩
    · intro h
      obtain ⟨x, ⟨c, hc, hx⟩, hy⟩ := h
      exact ⟨c, hc, x, hx, hy⟩

theorem mem_children_and_name?_iff : (∃ c ∈ doc.children p, doc.name? c = some n ∧ j = .node c) ↔
    ∃ c, doc.HasChild p n c ∧ j = .node c := by
  simp only [mem_children_iff_parent?, HasChild, and_assoc]

/-- The document element is the one below the document node. -/
theorem documentElement?_eq_some_iff :
    doc.documentElement? = some x ↔ doc.parent? x = some doc.root := by
  obtain ⟨e, rfl⟩ := doc.exists_eq_ofElement
  obtain ⟨standing, first⟩ := index_documentElement e
  have children : (ofElement e).children (ofElement e).root = [1] := by
    have below := children_index (Content.at?_nil (c := e.tree))
    rw [Content.index_nil] at below
    rw [root, below, ← first]
    rfl
  have element : (ofElement e).isElement 1 = true := by
    rw [isElement, ← first, kind?_index standing]
    rfl
  rw [← mem_children_iff_parent?, documentElement?, children, List.find?_cons_of_pos element,
    List.mem_singleton, Option.some.injEq, eq_comm]

/-- The document node has no name. -/
theorem name?_root : doc.name? doc.root = none := by
  rw [name?, kind?_root]

/-- What has a name is a node of the document. -/
theorem lt_size_of_name? (h : doc.name? x = some n) : x < doc.size := by
  by_contra outside
  rw [name?, kind?, node?_eq_none outside] at h
  cases h

/-- What holds of the elements of a name is found by going through the nodes. -/
theorem forall_named_iff {p : NodeId → Prop} : (∀ x, doc.name? x = some n → p x) ↔
    ∀ x < doc.size, doc.name? x = some n → p x :=
  ⟨fun h x _ => h x, fun h x named => h x (lt_size_of_name? named) named⟩

/-- Every node is the document node or below it. -/
theorem mem_root_cons_descendants (h : x < doc.size) :
    x ∈ doc.root :: doc.descendants doc.root := by
  obtain ⟨e, rfl⟩ := doc.exists_eq_ofElement
  have stop := stop_index (Content.at?_nil (c := e.tree))
  rw [Content.index_nil, Nat.zero_add, ← size_ofElement] at stop
  rw [List.mem_cons, mem_descendants_iff, root, stop]
  rcases Nat.eq_zero_or_pos x with top | below
  · exact .inl top
  · exact .inr ⟨below, h⟩

/-- What is below a node has a parent that is the node or below it. -/
theorem mem_descendants_iff_parent? (hp : p < doc.size) : x ∈ doc.descendants p ↔
    ∃ y ∈ p :: doc.descendants p, doc.parent? x = some y := by
  constructor
  · intro h
    have hx := lt_size_of_mem_descendants hp h
    rw [mem_descendants_iff_mem_ancestors hp hx] at h
    cases above : doc.parent? x with
    | none =>
      rw [ancestors_of_parent?_eq_none above] at h
      cases h
    | some y =>
      rw [ancestors_of_parent? above] at h
      refine ⟨y, ?_, rfl⟩
      rcases List.mem_cons.mp h with rfl | h
      · exact List.mem_cons_self
      · have hy := Nat.lt_trans (doc.lt_of_parent? above) hx
        exact List.mem_cons_of_mem p ((mem_descendants_iff_mem_ancestors hp hy).mpr h)
  · intro h
    obtain ⟨y, hy, above⟩ := h
    rw [mem_descendants_iff_mem_ancestors hp (lt_size_of_parent? above), ancestors_of_parent? above]
    rcases List.mem_cons.mp hy with rfl | hy
    · exact List.mem_cons_self
    · have inside := lt_size_of_mem_descendants hp hy
      exact List.mem_cons_of_mem y ((mem_descendants_iff_mem_ancestors hp inside).mp hy)

end Document

/-! ## 2. Steps of names -/

/-- The step to the children of a name. -/
def Path.Step.child (n : String) : Step :=
  ⟨.child, .name n, []⟩

open Document in
theorem mem_walk_children : j ∈ walk doc (names.map Step.child) [.node id] ↔
    ∃ x, doc.Leads id names x ∧ j = .node x := by
  induction names generalizing id with
  | nil => simp [walk_nil, Leads]
  | cons n rest ih =>
    rw [List.map_cons, mem_walk_cons]
    simp only [Step.child, mem_select_child, mem_children_and_name?_iff]
    constructor
    · intro h
      obtain ⟨_, ⟨c, hc, rfl⟩, hj⟩ := h
      obtain ⟨x, hx, rfl⟩ := ih.mp hj
      exact ⟨x, ⟨c, hc, hx⟩, rfl⟩
    · intro h
      obtain ⟨x, ⟨c, hc, hx⟩, rfl⟩ := h
      exact ⟨_, ⟨c, hc, rfl⟩, ih.mpr ⟨x, hx, rfl⟩⟩

theorem mem_walk_child : j ∈ walk doc [Step.child n] [.node id] ↔
    ∃ c, doc.HasChild id n c ∧ j = .node c := by
  rw [← List.map_singleton, mem_walk_children]
  simp only [Document.leads_single]

/-- **The steps that `//n` stands for** lead to everything of the name that is below a node. -/
theorem mem_walk_below (h : id < doc.size) : j ∈ walk doc [Step.anywhere, .child n] [.node id] ↔
    ∃ x ∈ doc.descendants id, doc.name? x = some n ∧ j = .node x := by
  rw [mem_walk_cons]
  simp only [mem_select_anywhere, Document.mem_descendants_iff_parent? h]
  constructor
  · intro h
    obtain ⟨_, ⟨y, hy, rfl⟩, hj⟩ := h
    obtain ⟨x, hx, rfl⟩ := mem_walk_child.mp hj
    exact ⟨x, ⟨y, hy, hx.1⟩, hx.2, rfl⟩
  · intro h
    obtain ⟨x, ⟨y, hy, above⟩, named, rfl⟩ := h
    exact ⟨_, ⟨y, hy, rfl⟩, mem_walk_child.mpr ⟨x, ⟨above, named⟩, rfl⟩⟩

/-- **From the document node** the same steps lead to everything of the name. -/
theorem mem_walk_anywhere : j ∈ walk doc [Step.anywhere, .child n] [.node doc.root] ↔
    ∃ x, doc.name? x = some n ∧ j = .node x := by
  rw [mem_walk_below (root_lt_size doc)]
  constructor
  · intro h
    obtain ⟨x, _, h⟩ := h
    exact ⟨x, h⟩
  · intro h
    obtain ⟨x, named, rfl⟩ := h
    have below := Document.mem_root_cons_descendants (Document.lt_size_of_name? named)
    refine ⟨x, (List.mem_cons.mp below).resolve_left ?_, named, rfl⟩
    rintro rfl
    rw [Document.name?_root] at named
    cases named

/-! ## 3. Attributes -/

/-- The step to the attribute of a name. -/
def Path.Step.attribute (n : String) : Step :=
  ⟨.attribute, .name n, []⟩

/-- **A last step to an attribute** leads to it if it has a value. -/
theorem mem_walk_attribute : j ∈ walk doc [Step.attribute n] [.node id] ↔
    (∃ value, doc.attribute? id n = some value) ∧ j = .attribute id n := by
  rw [mem_walk_cons, exists_attribute?_iff]
  simp only [Step.attribute, mem_select_attribute, walk_nil, List.mem_singleton]
  constructor
  · intro h
    obtain ⟨_, h, rfl⟩ := h
    exact h
  · intro h
    exact ⟨j, h, rfl⟩

end MarkupRules
