import MarkupRules.Document.Basic
import MarkupRules.Proofs.Document.Place
import Mathlib.Data.List.Induction

/-!
# Relations between the nodes of a document

What parents, children, descendants, ancestors and siblings of a node are, first by places in the
source, then for any document without mention of them.

* `Document.node?_index` -- the node at the index of a place;
* `Document.exists_index_eq` -- every node of a document stands at a place;
* `Document.mem_children_iff_parent?` -- **the children of a node are the nodes it is the parent
  of**;
* `Document.mem_descendants_iff_mem_ancestors` -- **descendants and ancestors are one relation**,
  and the indices up to the `stop` of a node are its descendants;
* `Document.siblings_eq` -- **a node between its siblings gives the children of its parent**;
* `Document.descendants_eq_flatMap` -- the nodes below a node are its children, each one with what
  is below it.
-/

namespace MarkupRules

/-- The document as a tree. An element without name and attributes stands for the document
    node. -/
def Element.tree (e : Element) : Content :=
  .element "" .none [e.toContent]

/-- Every document is built from an element. -/
theorem Document.exists_eq_ofElement (doc : Document) : ∃ e, doc = .ofElement e := by
  obtain ⟨nodes, e, rfl⟩ := doc
  exact ⟨e, rfl⟩

namespace Document

variable {e : Element} {c d : Content} {p q : Place} {j k : Nat} {doc : Document} {x y : Nat}

/-! ## 1. The node at a place -/

theorem size_ofElement (e : Element) : (ofElement e).size = e.tree.size := by
  have size : e.arena.size = e.nodes.length := by rw [← e.toList_arena, Array.length_toList]
  rw [Document.size, ofElement, size]
  simp [Element.nodes, Element.tree, Content.size, sizeOfAll, Nat.add_comm]

theorem contains_iff : doc.contains x = true ↔ x < doc.size := by
  simp [contains]

/-- The document node aside, a document is laid out as its tree would be. -/
theorem node?_eq_getElem?_nodes (h : x ≠ 0) :
    (ofElement e).node? x = (e.tree.nodes 0 0)[x]? := by
  obtain ⟨x, rfl⟩ := Nat.exists_eq_succ_of_ne_zero h
  rw [node?, ofElement, ← Array.getElem?_toList, e.toList_arena]
  simp [Element.nodes, Element.tree, Content.nodes, nodesOfAll]

/-- What the node at a place is. -/
def kindAt (d : Content) : Place → NodeKind
  | [] => .root
  | _ :: _ => d.kind

/-- The index of the place above a place; the document node has none. -/
def parentAt? (e : Element) : Place → Option NodeId
  | [] => none
  | k :: p => some (e.tree.index (k :: p).dropLast)

/-- **The node at the index of a place** has what the content there asks for. -/
theorem node?_index (h : e.tree.at? p = some d) :
    (ofElement e).node? (e.tree.index p) = some ⟨kindAt d p, parentAt? e p,
      (childIds (e.tree.index p + 1) d.children).toArray, e.tree.index p + d.size⟩ := by
  cases p with
  | nil =>
    cases Content.at?_nil.symm.trans h
    rw [Content.index_nil, node?, ofElement, ← Array.getElem?_toList, e.toList_arena]
    simp [Element.nodes, Element.tree, Content.size, sizeOfAll, Content.children, childIds, kindAt,
      parentAt?]
  | cons k p =>
    obtain ⟨before, behind, split, hlen⟩ := Content.nodes_eq_append_at? 0 0 h
    have first : (0 : Nat) < e.tree.index (k :: p) :=
      Content.index_nil (c := e.tree) ▸ Content.index_lt_index Content.at?_nil h (List.nil_lt_cons k p)
    rw [node?_eq_getElem?_nodes (Nat.ne_of_gt first), split, if_neg (List.cons_ne_nil k p),
      Content.nodes_eq, List.append_assoc, List.getElem?_append_right (Nat.le_of_eq hlen), hlen,
      Nat.sub_self]
    simp [Content.node, kindAt, parentAt?]

theorem index_lt_size (h : e.tree.at? p = some d) : e.tree.index p < (ofElement e).size := by
  rw [size_ofElement]
  exact Content.index_lt_size h

/-- **Every node of a document stands at a place.** -/
theorem exists_index_eq (h : x < (ofElement e).size) :
    ∃ p d, e.tree.at? p = some d ∧ e.tree.index p = x := by
  rw [size_ofElement] at h
  exact Content.exists_index_eq h

theorem kind?_index (h : e.tree.at? p = some d) :
    (ofElement e).kind? (e.tree.index p) = some (kindAt d p) := by
  rw [kind?, node?_index h]
  rfl

theorem stop_index (h : e.tree.at? p = some d) :
    (ofElement e).stop (e.tree.index p) = e.tree.index p + d.size := by
  rw [stop, node?_index h]
  rfl

theorem attributes_index (h : e.tree.at? p = some d) :
    (ofElement e).attributes (e.tree.index p) = d.attributes := by
  rw [attributes, kind?_index h]
  cases p with
  | nil =>
    cases Content.at?_nil.symm.trans h
    rfl
  | cons k p => cases d <;> rfl

theorem parent?_zero : (ofElement e).parent? 0 = none := by
  rw [← Content.index_nil (c := e.tree), parent?, node?_index Content.at?_nil]
  rfl

/-- The node that every document starts with. -/
theorem kind?_root (doc : Document) : doc.kind? doc.root = some .root := by
  obtain ⟨e, rfl⟩ := doc.exists_eq_ofElement
  rw [root, ← Content.index_nil (c := e.tree), kind?_index Content.at?_nil]
  rfl

theorem parent?_index_append (h : e.tree.at? (p ++ [k]) = some d) :
    (ofElement e).parent? (e.tree.index (p ++ [k])) = some (e.tree.index p) := by
  rw [parent?, node?_index h]
  cases p with
  | nil => simp [parentAt?]
  | cons j p =>
    have above : ((j :: p) ++ [k]).dropLast = j :: p := List.dropLast_concat
    rw [List.cons_append] at above
    simp [parentAt?, above]

/-- Consecutive pieces of content start one behind the other. -/
theorem childIds_eq_map_range (start : Nat) (cs : List Content) :
    childIds start cs = (List.range cs.length).map fun k => start + sizeOfAll (cs.take k) := by
  induction cs generalizing start with
  | nil => rfl
  | cons c cs ih =>
    rw [childIds, ih, List.length_cons, List.range_succ_eq_map, List.map_cons, List.map_map]
    simp [sizeOfAll, Nat.add_assoc]

/-- A rank below the number of children belongs to a child. -/
theorem exists_child {cs : List Content} (h : k ∈ List.range cs.length) : ∃ d, cs[k]? = some d :=
  ⟨_, List.getElem?_eq_getElem (List.mem_range.mp h)⟩

/-- **The children of a node** are the nodes at the places one further down. -/
theorem children_index (h : e.tree.at? p = some d) : (ofElement e).children (e.tree.index p) =
    (List.range d.children.length).map fun k => e.tree.index (p ++ [k]) := by
  rw [children, node?_index h]
  simp only [Option.map_some, Option.getD_some, childIds_eq_map_range]
  refine List.map_congr_left fun k hk => ?_
  obtain ⟨child, hk⟩ := exists_child hk
  rw [Content.index_append h, Content.index_cons hk, Content.index_nil]
  omega

theorem at?_append_singleton (h : e.tree.at? p = some c) (hk : c.children[k]? = some d) :
    e.tree.at? (p ++ [k]) = some d := by
  rw [Content.at?_append, h, Option.bind_some, Content.at?_cons, hk, Option.bind_some,
    Content.at?_nil]

/-- The places one further down are the children's. -/
theorem mem_children_index (h : e.tree.at? p = some c) :
    x ∈ (ofElement e).children (e.tree.index p) ↔
      ∃ k d, e.tree.at? (p ++ [k]) = some d ∧ e.tree.index (p ++ [k]) = x := by
  rw [children_index h, List.mem_map]
  constructor
  · intro h
    obtain ⟨k, hk, rfl⟩ := h
    obtain ⟨d, hk⟩ := exists_child hk
    exact ⟨k, d, at?_append_singleton h hk, rfl⟩
  · intro h
    obtain ⟨k, d, hd, rfl⟩ := h
    rw [Content.at?_append, h, Option.bind_some] at hd
    obtain ⟨child, hk, _⟩ := Content.at?_cons_eq_some.mp hd
    exact ⟨k, List.mem_range.mpr (List.getElem?_eq_some_iff.mp hk).1, rfl⟩

/-- A place that exists and is not the top is one step below another. -/
theorem eq_append_of_ne_nil (h : e.tree.at? p = some d) (hp : p ≠ []) :
    ∃ q k c, p = q ++ [k] ∧ e.tree.at? q = some c ∧ c.children[k]? = some d := by
  obtain ⟨q, k, rfl⟩ := List.eq_nil_or_concat p |>.resolve_left hp
  rw [List.concat_eq_append] at h ⊢
  obtain ⟨c, hc, h⟩ := Content.exists_at?_of_append h
  obtain ⟨d', hk, h⟩ := Content.at?_cons_eq_some.mp h
  cases Content.at?_nil.symm.trans h
  exact ⟨q, k, c, rfl, hc, hk⟩

/-! ## 2. Parents and children -/

/-- What is not in the document has neither parent nor children. -/
theorem node?_eq_none (h : ¬ x < doc.size) : doc.node? x = none :=
  Array.getElem?_eq_none (Nat.le_of_not_lt h)

/-- **The children of a node are the nodes it is the parent of.** -/
theorem mem_children_iff_parent? : y ∈ doc.children x ↔ doc.parent? y = some x := by
  obtain ⟨e, rfl⟩ := doc.exists_eq_ofElement
  constructor
  · intro h
    by_cases hx : x < (ofElement e).size
    · obtain ⟨p, c, hc, rfl⟩ := exists_index_eq hx
      obtain ⟨k, d, hd, rfl⟩ := (mem_children_index hc).mp h
      exact parent?_index_append hd
    · rw [children, node?_eq_none hx] at h
      cases h
  · intro h
    by_cases hy : y < (ofElement e).size
    · obtain ⟨p, d, hd, rfl⟩ := exists_index_eq hy
      by_cases hp : p = []
      · rw [hp, Content.index_nil, parent?_zero] at h
        cases h
      · obtain ⟨q, k, c, rfl, hc, _⟩ := eq_append_of_ne_nil hd hp
        rw [parent?_index_append hd, Option.some.injEq] at h
        subst h
        exact (mem_children_index hc).mpr ⟨k, d, hd, rfl⟩
    · rw [parent?, node?_eq_none hy] at h
      cases h

/-- The children of a node stand behind it, in ascending order, within the document. -/
theorem children_ascending : (doc.children x).Pairwise (· < ·) := by
  obtain ⟨e, rfl⟩ := doc.exists_eq_ofElement
  by_cases hx : x < (ofElement e).size
  · obtain ⟨p, c, hc, rfl⟩ := exists_index_eq hx
    rw [children_index hc, List.pairwise_map]
    refine List.pairwise_lt_range.imp_of_mem fun {j k} hj hk hlt => ?_
    obtain ⟨early, hj⟩ := exists_child hj
    obtain ⟨late, hk⟩ := exists_child hk
    exact Content.index_lt_index (at?_append_singleton hc hj) (at?_append_singleton hc hk)
      (List.append_left_lt (List.cons_lt_cons_iff.mpr (.inl hlt)))
  · rw [children, node?_eq_none hx]
    exact .nil

theorem lt_size_of_parent? (h : doc.parent? y = some x) : y < doc.size := by
  by_contra hy
  rw [parent?, node?_eq_none hy] at h
  cases h

theorem lt_of_mem_children (h : y ∈ doc.children x) : x < y ∧ y < doc.size :=
  have h := mem_children_iff_parent?.mp h
  ⟨doc.lt_of_parent? h, lt_size_of_parent? h⟩

/-- The document node is the only one without a parent. -/
theorem exists_parent? (hx : x < doc.size) (h : x ≠ doc.root) : ∃ p, doc.parent? x = some p := by
  obtain ⟨e, rfl⟩ := doc.exists_eq_ofElement
  obtain ⟨p, d, hd, rfl⟩ := exists_index_eq hx
  obtain ⟨q, k, c, rfl, hc, hk⟩ := eq_append_of_ne_nil hd fun hp => h (by simp [hp, root])
  exact ⟨_, parent?_index_append hd⟩

/-- The attributes of a node are listed by name. -/
theorem attributes_ascending (doc : Document) (x : Nat) :
    (doc.attributes x).Pairwise fun a b => a.1 < b.1 := by
  rw [attributes]
  split
  · rename_i as _
    exact as.ascending
  · exact .nil

/-! ## 3. Ancestors and descendants -/

theorem ancestors_of_parent? (h : doc.parent? y = some x) :
    doc.ancestors y = x :: doc.ancestors x := by
  rw [ancestors]
  split
  · rename_i h'
    rw [h] at h'
    cases h'
  · rename_i p h'
    cases h.symm.trans h'
    rfl

theorem ancestors_of_parent?_eq_none (h : doc.parent? y = none) : doc.ancestors y = [] := by
  rw [ancestors]
  split
  · rfl
  · rename_i p h'
    rw [h] at h'
    cases h'

theorem lt_of_mem_ancestors (h : x ∈ doc.ancestors y) : x < y := by
  induction y using Nat.strong_induction_on with
  | _ y ih =>
    cases hp : doc.parent? y with
    | none =>
      rw [ancestors_of_parent?_eq_none hp] at h
      cases h
    | some p =>
      have hpy := doc.lt_of_parent? hp
      rw [ancestors_of_parent? hp, List.mem_cons] at h
      rcases h with rfl | h
      · exact hpy
      · exact Nat.lt_trans (ih p hpy h) hpy

/-- The ancestors of a node are listed from the nearest on. -/
theorem ancestors_descending : (doc.ancestors y).Pairwise (· > ·) := by
  induction y using Nat.strong_induction_on with
  | _ y ih =>
    cases hp : doc.parent? y with
    | none =>
      rw [ancestors_of_parent?_eq_none hp]
      exact .nil
    | some p =>
      rw [ancestors_of_parent? hp]
      exact .cons (fun _ => lt_of_mem_ancestors) (ih p (doc.lt_of_parent? hp))

/-- **The ancestors of a node** are the nodes at the places above it. -/
theorem mem_ancestors_index : ∀ {p : Place} {d : Content}, e.tree.at? p = some d →
    (x ∈ (ofElement e).ancestors (e.tree.index p) ↔
      ∃ q, q <+: p ∧ q ≠ p ∧ e.tree.index q = x) := by
  intro p
  induction p using List.reverseRecOn with
  | nil =>
    intro d _
    rw [Content.index_nil, ancestors_of_parent?_eq_none parent?_zero]
    constructor
    · intro h
      cases h
    · intro h
      obtain ⟨q, hq, hne, _⟩ := h
      exact absurd (List.prefix_nil.mp hq) hne
  | append_singleton p k ih =>
    intro d h
    obtain ⟨c, hc, _⟩ := Content.exists_at?_of_append h
    rw [ancestors_of_parent? (parent?_index_append h), List.mem_cons, ih hc]
    constructor
    · intro h
      rcases h with rfl | ⟨q, hq, hne, hx⟩
      · exact ⟨p, List.prefix_append .., by simp, rfl⟩
      · refine ⟨q, hq.trans (List.prefix_append ..), fun h => ?_, hx⟩
        have shorter := hq.length_le
        rw [h, List.length_append, List.length_singleton] at shorter
        omega
    · intro h
      obtain ⟨q, hq, hne, hx⟩ := h
      rcases List.prefix_concat_iff.mp hq with h | hq
      · exact absurd h (by simpa using hne)
      · by_cases hqp : q = p
        · exact .inl (hqp ▸ hx.symm)
        · exact .inr ⟨q, hq, hqp, hx⟩

/-- **The descendants of a node are the indices up to its stop.** -/
theorem mem_descendants_iff : y ∈ doc.descendants x ↔ x < y ∧ y < doc.stop x := by
  rw [descendants, List.mem_range'_1]
  omega

/-- **A node is above another if the other one stands between it and its stop.** -/
theorem mem_ancestors_iff (hx : x < doc.size) (hy : y < doc.size) :
    x ∈ doc.ancestors y ↔ x < y ∧ y < doc.stop x := by
  obtain ⟨e, rfl⟩ := doc.exists_eq_ofElement
  obtain ⟨p, c, hp, rfl⟩ := exists_index_eq hx
  obtain ⟨q, d, hq, rfl⟩ := exists_index_eq hy
  have below : e.tree.index p ∈ (ofElement e).ancestors (e.tree.index q) ↔ p <+: q ∧ p ≠ q := by
    rw [mem_ancestors_index hq]
    constructor
    · intro h
      obtain ⟨p', hpre, hne, hi⟩ := h
      obtain ⟨c', hp', _⟩ := Content.exists_at?_of_append (hpre.choose_spec ▸ hq)
      cases Content.eq_of_index_eq hp' hp hi
      exact ⟨hpre, hne⟩
    · intro h
      obtain ⟨hpre, hne⟩ := h
      exact ⟨p, hpre, hne, rfl⟩
  have apart : p ≠ q ↔ e.tree.index p ≠ e.tree.index q :=
    not_congr ⟨fun h => h ▸ rfl, Content.eq_of_index_eq hp hq⟩
  rw [below, apart, Content.isPrefix_iff_index hp hq, stop_index hp]
  omega

/-- **Descendants and ancestors are one relation.** -/
theorem mem_descendants_iff_mem_ancestors (hx : x < doc.size) (hy : y < doc.size) :
    y ∈ doc.descendants x ↔ x ∈ doc.ancestors y := by
  rw [mem_descendants_iff, mem_ancestors_iff hx hy]

/-- The nodes below a node are nodes of the document. -/
theorem stop_le_size (hx : x < doc.size) : doc.stop x ≤ doc.size := by
  obtain ⟨e, rfl⟩ := doc.exists_eq_ofElement
  obtain ⟨p, c, hp, rfl⟩ := exists_index_eq hx
  rw [stop_index hp, size_ofElement]
  exact Content.index_add_size_le hp

/-- **The descendants of a node** are the nodes at the places below it. -/
theorem mem_descendants_index (h : e.tree.at? p = some c) :
    x ∈ (ofElement e).descendants (e.tree.index p) ↔
      ∃ q d, e.tree.at? q = some d ∧ p <+: q ∧ p ≠ q ∧ e.tree.index q = x := by
  rw [mem_descendants_iff]
  constructor
  · intro h
    obtain ⟨hlt, hstop⟩ := h
    obtain ⟨q, d, hd, rfl⟩ := exists_index_eq
      (Nat.lt_of_lt_of_le hstop (stop_le_size (index_lt_size h)))
    rw [stop_index h] at hstop
    refine ⟨q, d, hd, (Content.isPrefix_iff_index h hd).mpr ⟨Nat.le_of_lt hlt, hstop⟩, ?_, rfl⟩
    rintro rfl
    exact Nat.lt_irrefl _ hlt
  · intro h
    obtain ⟨q, d, hd, hpre, hne, rfl⟩ := h
    obtain ⟨hle, hstop⟩ := (Content.isPrefix_iff_index h hd).mp hpre
    have apart : e.tree.index p ≠ e.tree.index q := fun h' => hne (Content.eq_of_index_eq h hd h')
    rw [stop_index h]
    exact ⟨by omega, hstop⟩

/-- Pieces of content one behind the other take up one interval. -/
theorem flatMap_childIds {g : Nat → List Nat} : ∀ {start : Nat} {cs : List Content},
    (∀ k c, cs[k]? = some c → g (start + sizeOfAll (cs.take k)) =
      List.range' (start + sizeOfAll (cs.take k)) c.size) →
    (childIds start cs).flatMap g = List.range' start (sizeOfAll cs)
  | start, [], _ => rfl
  | start, c :: rest, h => by
    have first := h 0 c rfl
    have more : (childIds (start + c.size) rest).flatMap g =
        List.range' (start + c.size) (sizeOfAll rest) :=
      flatMap_childIds fun k d hk => by
        simpa [sizeOfAll, Nat.add_assoc] using h (k + 1) d hk
    simp only [List.take_zero, sizeOfAll, Nat.add_zero] at first
    rw [childIds, List.flatMap_cons, first, more, sizeOfAll, List.range'_append_1]

/-- **The nodes below a node are its children, each one with what is below it.** -/
theorem descendants_eq_flatMap :
    doc.descendants x = (doc.children x).flatMap fun c => c :: doc.descendants c := by
  obtain ⟨e, rfl⟩ := doc.exists_eq_ofElement
  by_cases hx : x < (ofElement e).size
  · obtain ⟨p, c, hc, rfl⟩ := exists_index_eq hx
    have listed : (ofElement e).children (e.tree.index p) =
        childIds (e.tree.index p + 1) c.children := by
      rw [children, node?_index hc]
      rfl
    rw [descendants, stop_index hc, listed, c.size_eq, flatMap_childIds]
    · congr 1
      omega
    · intro k d hk
      have start : e.tree.index p + 1 + sizeOfAll (c.children.take k) = e.tree.index (p ++ [k]) := by
        rw [Content.index_append hc, Content.index_cons hk, Content.index_nil]
        omega
      have last := d.size_pos
      rw [start, descendants, stop_index (at?_append_singleton hc hk), ← List.range'_succ]
      congr 1
      omega
  · rw [descendants, stop, children, node?_eq_none hx]
    simp

/-! ## 4. Siblings -/

/-- A list around one of its members: what is before it, itself, what is behind it. -/
theorem takeWhile_append_cons_drop {l : List Nat} (h : x ∈ l) :
    l.takeWhile (· != x) ++ x :: (l.dropWhile (· != x)).drop 1 = l := by
  induction l with
  | nil => cases h
  | cons a l ih =>
    by_cases ha : a = x
    · simp [ha]
    · have hl : x ∈ l := (List.mem_cons.mp h).resolve_left (Ne.symm ha)
      simpa [List.takeWhile_cons, List.dropWhile_cons, ha] using ih hl

/-- **A node between its siblings gives the children of its parent.** -/
theorem siblings_eq (h : doc.parent? y = some x) :
    (doc.precedingSiblings y).reverse ++ y :: doc.followingSiblings y = doc.children x := by
  have hy := mem_children_iff_parent?.mpr h
  rw [precedingSiblings, followingSiblings, siblings, h, List.reverse_reverse]
  exact takeWhile_append_cons_drop hy

/-- Preceding siblings are the children of the parent that stand before the node, following ones
    those that stand behind it. -/
theorem mem_siblings_iff (h : doc.parent? y = some x) {z : Nat} :
    (z ∈ doc.precedingSiblings y ↔ z ∈ doc.children x ∧ z < y) ∧
      (z ∈ doc.followingSiblings y ↔ z ∈ doc.children x ∧ y < z) := by
  have order : (doc.children x).Pairwise (· < ·) := children_ascending
  rw [← siblings_eq h] at order ⊢
  obtain ⟨_, behind, cross⟩ := List.pairwise_append.mp order
  obtain ⟨hy, _⟩ := List.pairwise_cons.mp behind
  simp only [List.mem_append, List.mem_reverse, List.mem_cons] at cross ⊢
  refine ⟨⟨fun hz => ⟨.inl hz, cross z hz y (.inl rfl)⟩, ?_⟩,
    ⟨fun hz => ⟨.inr (.inr hz), hy z hz⟩, ?_⟩⟩
  · intro h
    obtain ⟨hz | rfl | hz, hlt⟩ := h
    · exact hz
    · exact absurd hlt (Nat.lt_irrefl _)
    · exact absurd (hy z hz) (Nat.lt_asymm hlt)
  · intro h
    obtain ⟨hz | rfl | hz, hlt⟩ := h
    · exact absurd (cross z hz y (.inl rfl)) (Nat.lt_asymm hlt)
    · exact absurd hlt (Nat.lt_irrefl _)
    · exact hz

theorem siblings_ascending : (doc.siblings y).Pairwise (· < ·) := by
  rw [siblings]
  split
  · exact .nil
  · exact children_ascending

/-- Following siblings are listed in document order. -/
theorem followingSiblings_ascending : (doc.followingSiblings y).Pairwise (· < ·) :=
  siblings_ascending.sublist ((List.drop_sublist 1 _).trans (List.dropWhile_sublist _))

/-- Preceding siblings are listed from the nearest on. -/
theorem precedingSiblings_descending : (doc.precedingSiblings y).Pairwise (· > ·) :=
  List.pairwise_reverse.mpr (siblings_ascending.sublist (List.takeWhile_sublist _))

/-! ## 5. Text -/

/-- A text has nothing below it. -/
theorem children_of_text {t : String} (h : doc.text? x = some t) : doc.children x = [] := by
  obtain ⟨e, rfl⟩ := doc.exists_eq_ofElement
  by_cases hx : x < (ofElement e).size
  · obtain ⟨p, c, hc, rfl⟩ := exists_index_eq hx
    rw [text?, kind?_index hc] at h
    have leaf : c.children = [] := by
      cases c with
      | text value => rfl
      | element name attributes children => cases p <;> cases h
    rw [children_index hc, leaf]
    rfl
  · rw [children, node?_eq_none hx]
    rfl

/-- The text at and below a node is the string value of the node. -/
theorem join_text_eq (c : Nat) :
    String.join ((c :: doc.descendants c).filterMap doc.text?) = doc.stringValue c := by
  rw [stringValue]
  cases h : doc.text? c with
  | none => rw [List.filterMap_cons_none h]
  | some t =>
    have empty : doc.descendants c = [] := by rw [descendants_eq_flatMap, children_of_text h]; rfl
    simp [h, empty]

/-- **The string value of a node that is no text is the concatenation of its children's.** -/
theorem stringValue_eq_join (h : doc.isText x = false) :
    doc.stringValue x = String.join ((doc.children x).map doc.stringValue) := by
  have noText : doc.text? x = none := by
    rw [isText] at h
    rw [text?]
    split <;> simp_all
  rw [stringValue, noText, descendants_eq_flatMap]
  simp only
  induction doc.children x with
  | nil => rfl
  | cons c cs ih =>
    rw [List.flatMap_cons, List.filterMap_append, String.join_append, ih, join_text_eq,
      List.map_cons, String.join_cons]

end Document

end MarkupRules
