import MarkupRules.Proofs.Document.Relations

/-!
# Documents represent their source

A document is read back in two ways, both of them through what it says about its nodes only:

* `Document.content?` -- the tree at a node, put together from its kind and its children;
* `Document.place` -- the way to a node, up along its parents, counting preceding siblings.

**`Document.ofElement_represents`**: the arena of an element gives back the element, its indices
number the places of the source in preorder, and parents, children, descendants, ancestors,
siblings and texts of its nodes are those of the source.
-/

namespace MarkupRules

namespace Document

/-! ## 1. Reading a document back -/

/-- The content at a node, put together from its kind and from the content at its children. The
    document node is no content. -/
def content? (doc : Document) (id : NodeId) : Option Content :=
  match doc.kind? id with
  | some (.text value) => some (.text value)
  | some (.element name attributes) => do
    let children ← (doc.children id).attach.mapM fun ⟨child, listed⟩ =>
      have := doc.lt_of_mem_children listed
      doc.content? child
    return .element name attributes children
  | _ => none
termination_by doc.size - id

/-- The place of a node: the place of its parent, and its own rank among its siblings. -/
def place (doc : Document) (id : NodeId) : Place :=
  match h : doc.parent? id with
  | none => []
  | some p =>
    have : p < id := doc.lt_of_parent? h
    doc.place p ++ [(doc.precedingSiblings id).length]
termination_by id

variable {e : Element} {c d : Content} {p : Place} {k : Nat} {doc : Document} {x y : Nat}

/-- The children in `content?` go through as they are. -/
theorem mapM_attach_content? (ids : List NodeId) :
    (ids.attach.mapM fun ⟨child, _⟩ => doc.content? child) = ids.mapM doc.content? := by
  rw [List.mapM_subtype fun _ _ => rfl, List.unattach_attach]

theorem mapM_eq_some {α β : Type} {f : α → Option β} : ∀ {as : List α} {bs : List β},
    as.length = bs.length → (∀ (k : Nat) a b, as[k]? = some a → bs[k]? = some b → f a = some b) →
    as.mapM f = some bs
  | [], [], _, _ => rfl
  | a :: as, b :: bs, hlen, h => by
    have first := h 0 a b rfl rfl
    have more : as.mapM f = some bs :=
      mapM_eq_some (Nat.succ.inj hlen) fun k a b ha hb => h (k + 1) a b ha hb
    simp [List.mapM_cons, first, more]

/-- **The content read off at the index of a place is the content that stands there.** -/
theorem content?_index {d : Content} {p : Place} (h : e.tree.at? p = some d) (hp : p ≠ []) :
    (ofElement e).content? (e.tree.index p) = some d := by
  obtain ⟨k, q, rfl⟩ := List.exists_cons_of_ne_nil hp
  rw [content?, kind?_index h]
  cases d with
  | text value => rfl
  | element name attributes children =>
    have all : ((ofElement e).children (e.tree.index (k :: q))).mapM (ofElement e).content? =
        some children := by
      rw [children_index h]
      refine mapM_eq_some (by simp [Content.children]) fun j a b ha hb => ?_
      have smaller : b.size < (Content.element name attributes children).size := by
        have inside := Content.index_add_size_le
          (Content.at?_cons_eq_some.mpr ⟨b, hb, Content.at?_nil⟩ :
            (Content.element name attributes children).at? [j] = some b)
        rw [Content.index_cons hb] at inside
        omega
      obtain ⟨hj, rfl⟩ := List.getElem?_eq_some_iff.mp ha
      simp only [List.getElem_map, List.getElem_range]
      exact content?_index (at?_append_singleton h hb) (List.append_ne_nil_of_right_ne_nil _ (by simp))
    simp only [kindAt, Content.kind, mapM_attach_content?, all]
    rfl
termination_by d.size

/-- A member of a list without repetition has as many members before it as its rank says. -/
theorem length_takeWhile_ne {l : List Nat} (hl : l.Nodup) (h : l[k]? = some x) :
    (l.takeWhile (· != x)).length = k := by
  induction l generalizing k with
  | nil => cases h
  | cons a l ih =>
    obtain ⟨ha, hl⟩ := List.nodup_cons.mp hl
    cases k with
    | zero =>
      cases h
      simp
    | succ k =>
      have hx : l[k]? = some x := h
      have hne : a ≠ x := fun hax => ha (hax ▸ List.mem_of_getElem? hx)
      simp [hne, ih hl hx]

/-- The rank of a child among its siblings. -/
theorem length_precedingSiblings_index (hc : e.tree.at? p = some c)
    (hk : c.children[k]? = some d) :
    ((ofElement e).precedingSiblings (e.tree.index (p ++ [k]))).length = k := by
  have ranked : ((ofElement e).children (e.tree.index p))[k]? = some (e.tree.index (p ++ [k])) := by
    have := (List.getElem?_eq_some_iff.mp hk).1
    rw [children_index hc, List.getElem?_map, List.getElem?_range this]
    rfl
  have once : ((ofElement e).children (e.tree.index p)).Nodup :=
    children_ascending.imp fun h => Nat.ne_of_lt h
  rw [precedingSiblings, List.length_reverse, siblings,
    parent?_index_append (at?_append_singleton hc hk)]
  exact length_takeWhile_ne once ranked

/-- **The place of a node is the place it has in the source.** -/
theorem place_index : ∀ {p : Place} {d : Content}, e.tree.at? p = some d →
    (ofElement e).place (e.tree.index p) = p := by
  intro p
  induction p using List.reverseRecOn with
  | nil =>
    intro d _
    rw [place]
    split
    · rfl
    · rename_i q h
      rw [Content.index_nil, parent?_zero] at h
      cases h
  | append_singleton p k ih =>
    intro d h
    obtain ⟨q, j, c, heq, hc, hk⟩ := eq_append_of_ne_nil h (by simp)
    obtain ⟨rfl, hj⟩ := List.append_inj' heq rfl
    cases hj
    rw [place]
    split
    · rename_i h'
      rw [parent?_index_append h] at h'
      cases h'
    · rename_i q h'
      rw [parent?_index_append h, Option.some.injEq] at h'
      subst h'
      rw [ih hc, length_precedingSiblings_index hc hk]

/-- **The indices of a document number the places of its source in preorder.** -/
theorem map_place_range (e : Element) :
    (List.range (ofElement e).size).map (ofElement e).place = e.tree.places := by
  refine List.ext_getElem? fun x => ?_
  by_cases hx : x < (ofElement e).size
  · obtain ⟨p, d, hd, rfl⟩ := exists_index_eq hx
    rw [List.getElem?_map, List.getElem?_range hx, Option.map_some, place_index hd,
      Content.getElem?_places_index hd]
  · rw [List.getElem?_eq_none (by simpa using hx), List.getElem?_eq_none]
    rw [Content.length_places, ← size_ofElement]
    exact Nat.le_of_not_lt hx

/-! ## 2. Representation -/

/-- What it takes for a document to represent an element. -/
structure Represents (doc : Document) (e : Element) : Prop where
  /-- The tree put together from node 1 on is the element. -/
  rebuilt : doc.content? 1 = some e.toContent
  /-- The indices number the places of the source in preorder. -/
  preorder : (List.range doc.size).map doc.place = e.tree.places
  /-- Each node but the document node has the content of its place. -/
  content : ∀ x, x < doc.size → x ≠ doc.root → doc.content? x = e.tree.at? (doc.place x)
  /-- The document node is above the document element. -/
  top : doc.kind? doc.root = some .root ∧ doc.children doc.root = [1]
  /-- Descendants, ancestors and the interval up to the stop are one relation. -/
  below : ∀ x y, x < doc.size → y < doc.size →
    (y ∈ doc.descendants x ↔ x ∈ doc.ancestors y) ∧
      (x ∈ doc.ancestors y ↔ x < y ∧ y < doc.stop x)
  /-- The parent of a node is the one that lists it. -/
  parent : ∀ x y, y ∈ doc.children x ↔ doc.parent? y = some x
  /-- Each node but the document node has a parent, and stands between its siblings. -/
  siblings : ∀ y, y < doc.size → y ≠ doc.root → ∃ x, doc.parent? y = some x ∧
    (doc.precedingSiblings y).reverse ++ y :: doc.followingSiblings y = doc.children x
  /-- The text of the document node and of an element is that of its children. -/
  text : ∀ x, x = doc.root ∨ doc.isElement x →
    doc.stringValue x = String.join ((doc.children x).map doc.stringValue)

/-- The node 1 is the document element. -/
theorem index_documentElement (e : Element) :
    e.tree.at? [0] = some e.toContent ∧ e.tree.index [0] = 1 := by
  have child : e.tree.children[0]? = some e.toContent := rfl
  refine ⟨Content.at?_cons_eq_some.mpr ⟨_, child, Content.at?_nil⟩, ?_⟩
  rw [Content.index_cons child, Content.index_nil]
  rfl

/-- What stands at the top or is an element is no text. -/
theorem isText_eq_false (h : x = doc.root ∨ doc.isElement x) : doc.isText x = false := by
  obtain ⟨e, rfl⟩ := doc.exists_eq_ofElement
  rw [isText]
  rcases h with rfl | h
  · rw [root, ← Content.index_nil (c := e.tree), kind?_index Content.at?_nil]
    rfl
  · rw [isElement] at h
    split at h
    · rename_i hk
      rw [hk]
    · cases h

/-- **The arena built from an element represents it exactly.** -/
theorem ofElement_represents (e : Element) : (ofElement e).Represents e where
  rebuilt := by
    obtain ⟨standing, first⟩ := index_documentElement e
    rw [← first]
    exact content?_index standing (List.cons_ne_nil 0 [])
  preorder := map_place_range e
  content x hx hroot := by
    obtain ⟨p, d, hd, rfl⟩ := exists_index_eq hx
    rw [place_index hd, hd, content?_index hd]
    rintro rfl
    exact hroot Content.index_nil
  top := by
    have top : e.tree.at? [] = some e.tree := Content.at?_nil
    rw [root, ← Content.index_nil (c := e.tree), kind?_index top, children_index top]
    exact ⟨rfl, congrArg (fun x => [x]) (index_documentElement e).2⟩
  below x y hx hy := ⟨mem_descendants_iff_mem_ancestors hx hy, mem_ancestors_iff hx hy⟩
  parent x y := mem_children_iff_parent?
  siblings y hy hroot := by
    obtain ⟨x, hx⟩ := exists_parent? hy hroot
    exact ⟨x, hx, siblings_eq hx⟩
  text x hx := stringValue_eq_join (isText_eq_false hx)

end Document

end MarkupRules
