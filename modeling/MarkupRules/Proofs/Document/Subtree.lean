import MarkupRules.Document.Item
import MarkupRules.Proofs.Document.Representation

/-!
# Subtrees

A subtree of a document can be a document of its own, and its nodes are those of the whole document
with indices that differ by one number.

* `Document.Embeds` -- the nodes of a document, its document node aside, are nodes of another one;
* `Document.Embeds.descendants`, `Document.Embeds.stringValue` -- what is below a node and its text
  are the same in both;
* `Document.exists_embeds` -- **the document of an element's subtree is embedded** at that element;
* `Item.shift`, `inDocumentOrder_shift` -- items of the one document as items of the other one, in the
  same order.
-/

namespace MarkupRules

namespace Document

variable {sub doc : Document} {e : Element} {c d : Content} {p q : Place} {k x y n : Nat}

/-! ## 1. Documents in documents -/

/-- The node is the document element or below it. -/
def Inner (doc : Document) (x : NodeId) : Prop :=
  x ≠ doc.root ∧ x < doc.size

theorem Inner.of_lt (hxy : x < y) (hy : y < doc.size) : doc.Inner y :=
  ⟨Nat.ne_of_gt (Nat.lt_of_le_of_lt (Nat.zero_le x) hxy), hy⟩

theorem Inner.child (h : y ∈ doc.children x) : doc.Inner y :=
  have h := lt_of_mem_children h
  .of_lt h.1 h.2

theorem Inner.descendant (hx : doc.Inner x) (h : y ∈ doc.descendants x) : doc.Inner y := by
  obtain ⟨above, below⟩ := mem_descendants_iff.mp h
  exact .of_lt above (Nat.lt_of_lt_of_le below (stop_le_size hx.2))

/-- The nodes of `sub`, its document node aside, are nodes of `doc`, at indices that are greater by
    `k`: of the same kind, with the same children and the same end. -/
structure Embeds (sub doc : Document) (k : Nat) : Prop where
  kind? : ∀ {x}, sub.Inner x → doc.kind? (x + k) = sub.kind? x
  children : ∀ {x}, sub.Inner x → doc.children (x + k) = (sub.children x).map (· + k)
  stop : ∀ {x}, sub.Inner x → doc.stop (x + k) = sub.stop x + k

namespace Embeds

variable (h : sub.Embeds doc k) (hx : sub.Inner x)

include h hx

theorem name? : doc.name? (x + k) = sub.name? x := by
  rw [Document.name?, Document.name?, h.kind? hx]

theorem isElement : doc.isElement (x + k) = sub.isElement x := by
  rw [Document.isElement, Document.isElement, h.kind? hx]

theorem isText : doc.isText (x + k) = sub.isText x := by
  rw [Document.isText, Document.isText, h.kind? hx]

theorem text? : doc.text? (x + k) = sub.text? x := by
  rw [Document.text?, Document.text?, h.kind? hx]

theorem attributes : doc.attributes (x + k) = sub.attributes x := by
  rw [Document.attributes, Document.attributes, h.kind? hx]

theorem attribute? {name : String} : doc.attribute? (x + k) name = sub.attribute? x name := by
  rw [Document.attribute?, Document.attribute?, h.kind? hx]

/-- **What is below a node is the same in both documents.** -/
theorem descendants : doc.descendants (x + k) = (sub.descendants x).map (· + k) := by
  have start : x + k + 1 = k + (x + 1) := by omega
  have length : sub.stop x + k - (k + (x + 1)) = sub.stop x - (x + 1) := by
    rw [Nat.add_comm k, Nat.add_sub_add_right]
  have comm : (· + k) = fun y => k + y := funext fun y => Nat.add_comm y k
  rw [Document.descendants, Document.descendants, h.stop hx, start, length, comm,
    List.map_add_range']

/-- **The text of a node is the same in both documents.** -/
theorem stringValue : doc.stringValue (x + k) = sub.stringValue x := by
  have below : (doc.descendants (x + k)).filterMap doc.text? =
      (sub.descendants x).filterMap sub.text? := by
    rw [h.descendants hx, List.filterMap_map]
    exact List.filterMap_congr fun y hy => h.text? (hx.descendant hy)
  rw [Document.stringValue, Document.stringValue, h.text? hx, below]

end Embeds

/-! ## 2. The document of a subtree -/

theorem kind?_below (h : e.tree.at? p = some c) (hp : p ≠ []) (hq : c.at? q = some d) :
    (ofElement e).kind? (e.tree.index p + c.index q) = some d.kind := by
  have standing := Content.at?_append_of_at? h hq
  obtain ⟨j, r, rfl⟩ := List.exists_cons_of_ne_nil hp
  rw [← Content.index_append h, kind?_index standing]
  rfl

theorem children_below (h : e.tree.at? p = some c) (hq : c.at? q = some d) :
    (ofElement e).children (e.tree.index p + c.index q) =
      (List.range d.children.length).map fun k => e.tree.index p + c.index (q ++ [k]) := by
  have standing := Content.at?_append_of_at? h hq
  rw [← Content.index_append h, children_index standing]
  simp only [List.append_assoc, Content.index_append h]

theorem stop_below (h : e.tree.at? p = some c) (hq : c.at? q = some d) :
    (ofElement e).stop (e.tree.index p + c.index q) = e.tree.index p + c.index q + d.size := by
  have standing := Content.at?_append_of_at? h hq
  rw [← Content.index_append h, stop_index standing]

/-- The nodes but the document node stand at the places of the document element. -/
theorem Inner.exists_place (h : (ofElement e).Inner x) :
    ∃ q d, e.toContent.at? q = some d ∧ x = e.tree.index [0] + e.toContent.index q := by
  obtain ⟨standing, _⟩ := index_documentElement e
  obtain ⟨p, d, hd, rfl⟩ := exists_index_eq h.2
  cases p with
  | nil => exact absurd Content.index_nil h.1
  | cons j q =>
    obtain ⟨child, hj, hq⟩ := Content.at?_cons_eq_some.mp hd
    -- the document node has a single child
    obtain ⟨rfl, rfl⟩ : j = 0 ∧ e.toContent = child := by
      cases j with
      | zero => exact ⟨rfl, Option.some.inj hj⟩
      | succ j => cases hj
    exact ⟨q, d, hq, Content.index_append (p := [0]) standing⟩

theorem inner_documentElement (e : Element) : (ofElement e).Inner 1 := by
  obtain ⟨standing, first⟩ := index_documentElement e
  refine ⟨Nat.one_ne_zero, ?_⟩
  rw [← first]
  exact index_lt_size standing

/-- The document element is node 1. -/
theorem documentElement?_ofElement (e : Element) :
    (ofElement e).documentElement? = some 1 := by
  obtain ⟨standing, first⟩ := index_documentElement e
  have element : (ofElement e).isElement 1 = true := by
    rw [isElement, ← first, kind?_index standing]
    rfl
  rw [documentElement?, (ofElement_represents e).top.2, List.find?_cons_of_pos element]

theorem lt_size_of_isElement (h : doc.isElement n = true) : n < doc.size := by
  by_contra outside
  rw [isElement, Document.kind?, node?_eq_none outside] at h
  cases h

/-- The document node is no element. -/
theorem pos_of_isElement (h : doc.isElement n = true) : 0 < n := by
  refine Nat.pos_of_ne_zero ?_
  rintro rfl
  rw [isElement, ← root, kind?_root] at h
  cases h

/-- An element of a document stands at a place, and an element is read off there. -/
theorem exists_place_of_isElement (h : (ofElement e).isElement n = true) :
    ∃ (p : Place) (e' : Element), p ≠ [] ∧ e.tree.at? p = some e'.toContent ∧ n = e.tree.index p := by
  obtain ⟨p, d, hd, rfl⟩ := exists_index_eq (lt_size_of_isElement h)
  rw [isElement, kind?_index hd] at h
  cases p with
  | nil => cases h
  | cons j q =>
    cases d with
    | text value => cases h
    | element name attributes children =>
      exact ⟨j :: q, ⟨name, attributes, children⟩, List.cons_ne_nil j q, hd, rfl⟩

/-- **The document of the subtree at an element** is embedded there. -/
theorem exists_embeds (h : doc.isElement n = true) :
    ∃ e : Element, doc.content? n = some e.toContent ∧ (ofElement e).Embeds doc (n - 1) := by
  obtain ⟨whole, rfl⟩ := doc.exists_eq_ofElement
  obtain ⟨p, e, hp, standing, rfl⟩ := exists_place_of_isElement h
  obtain ⟨top, first⟩ := index_documentElement e
  have behind : 0 < whole.tree.index p := pos_of_isElement h
  have shifted : ∀ i, e.tree.index [0] + i + (whole.tree.index p - 1) = whole.tree.index p + i := by
    intro i
    omega
  refine ⟨e, content?_index standing hp, ?_, ?_, ?_⟩
  · intro x hx
    obtain ⟨q, d, hq, rfl⟩ := hx.exists_place
    rw [shifted, kind?_below standing hp hq, kind?_below top (List.cons_ne_nil 0 []) hq]
  · intro x hx
    obtain ⟨q, d, hq, rfl⟩ := hx.exists_place
    rw [shifted, children_below standing hq, children_below top hq, List.map_map]
    refine List.map_congr_left fun k _ => ?_
    exact (shifted _).symm
  · intro x hx
    obtain ⟨q, d, hq, rfl⟩ := hx.exists_place
    have moved := shifted (e.toContent.index q + d.size)
    rw [← Nat.add_assoc, ← Nat.add_assoc] at moved
    rw [shifted, stop_below standing hq, stop_below top hq]
    exact moved.symm

end Document

/-! ## 3. Items of the subtree -/

variable {sub doc : Document} {i j : Item} {is : List Item} {k : Nat}

/-- The item with the index of its node greater by `k`. -/
def Item.shift (k : Nat) : Item → Item
  | .node id => .node (id + k)
  | .attribute owner name => .attribute (owner + k) name

theorem Item.shift_inj : i.shift k = j.shift k ↔ i = j := by
  cases i <;> cases j <;> simp [Item.shift]

/-- The order of two items does not change if both are shifted. -/
theorem Item.shift_before : (i.shift k).Before (j.shift k) ↔ i.Before j := by
  cases i <;> cases j <;> simp [Item.shift, Item.Before]

theorem insertItem_shift : ∀ {is : List Item},
    insertItem (i.shift k) (is.map (Item.shift k)) = (insertItem i is).map (Item.shift k)
  | [] => rfl
  | j :: rest => by
    simp only [List.map_cons, insertItem, Item.shift_before, Item.shift_inj, insertItem_shift]
    split
    · rfl
    · split <;> rfl

/-- **Shifted items are put in the same order.** -/
theorem inDocumentOrder_shift : ∀ {is : List Item},
    inDocumentOrder (is.map (Item.shift k)) = (inDocumentOrder is).map (Item.shift k)
  | [] => rfl
  | i :: rest => by
    have others : inDocumentOrder (rest.map (Item.shift k)) =
      (inDocumentOrder rest).map (Item.shift k) := inDocumentOrder_shift
    rw [inDocumentOrder, inDocumentOrder] at others ⊢
    rw [List.map_cons, List.foldr_cons, others, List.foldr_cons, insertItem_shift]

/-- The node of the item is the document element or below it. -/
def Item.Inner (doc : Document) (i : Item) : Prop :=
  doc.Inner i.nodeId

/-- **The value of an item is the same in both documents.** -/
theorem Document.Embeds.stringValue_shift (h : sub.Embeds doc k) (hi : i.Inner sub) :
    (i.shift k).stringValue doc = i.stringValue sub := by
  rcases i with id | ⟨owner, name⟩
  · exact h.stringValue hi
  · exact congrArg (·.getD "") (h.attribute? hi)

end MarkupRules
