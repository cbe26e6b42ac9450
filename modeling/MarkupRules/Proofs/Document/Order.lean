import MarkupRules.Document.Item
import MarkupRules.Proofs.Document.Relations

/-!
# The document order of items

* `Item.Before.irrefl`, `Item.Before.trans`, `Item.before_trichotomy` -- the document order is a
  strict total order;
* `inDocumentOrder_ascending` -- **a list put in document order is strictly ascending**, so no item
  is in it twice;
* `Item.Exists` -- the items that a document has, attributes under the names they really have.
-/

namespace MarkupRules

variable {i j k : Item} {is : List Item} {doc : Document}

/-! ## 1. A strict total order -/

theorem Item.Before.irrefl (i : Item) : ¬ i.Before i := by
  rcases i with a | ⟨a, n⟩
  · exact Nat.lt_irrefl a
  · intro h
    rcases h with h | ⟨_, h⟩
    · exact Nat.lt_irrefl a h
    · exact String.lt_irrefl n h

theorem Item.Before.trans (hij : i.Before j) (hjk : j.Before k) : i.Before k := by
  rcases i with a | ⟨a, n⟩ <;> rcases j with b | ⟨b, m⟩ <;> rcases k with c | ⟨c, l⟩ <;>
    simp only [Item.Before, NodeId] at *
  case attribute.attribute.attribute =>
    rcases hij with hij | ⟨rfl, hij⟩
    · exact .inl (by omega)
    · rcases hjk with hjk | ⟨rfl, hjk⟩
      · exact .inl hjk
      · exact .inr ⟨rfl, String.lt_trans hij hjk⟩
  all_goals omega

theorem Item.Before.asymm (h : i.Before j) : ¬ j.Before i :=
  fun h' => Item.Before.irrefl i (h.trans h')

/-- Of two items, one comes first unless they are the same. -/
theorem Item.before_trichotomy (i j : Item) : i.Before j ∨ i = j ∨ j.Before i := by
  rcases i with a | ⟨a, n⟩ <;> rcases j with b | ⟨b, m⟩
  · rcases Nat.lt_trichotomy a b with h | rfl | h
    · exact .inl h
    · exact .inr (.inl rfl)
    · exact .inr (.inr h)
  · exact (Nat.lt_or_ge b a).elim (fun h => .inr (.inr h)) .inl
  · exact (Nat.lt_or_ge a b).imp id .inr
  · rcases Nat.lt_trichotomy a b with h | rfl | h
    · exact .inl (.inl h)
    · rcases Decidable.em (n < m) with h | h
      · exact .inl (.inr ⟨rfl, h⟩)
      · rcases Decidable.em (m < n) with h' | h'
        · exact .inr (.inr (.inr ⟨rfl, h'⟩))
        · cases String.le_antisymm (String.not_lt.mp h') (String.not_lt.mp h)
          exact .inr (.inl rfl)
    · exact .inr (.inr (.inl h))

/-! ## 2. Lists in document order -/

theorem insertItem_ascending (h : is.Pairwise Item.Before) :
    (insertItem i is).Pairwise Item.Before := by
  induction is with
  | nil => exact List.pairwise_singleton _ _
  | cons j rest ih =>
    obtain ⟨hj, hrest⟩ := List.pairwise_cons.mp h
    unfold insertItem
    split
    · rename_i hij
      refine List.pairwise_cons.mpr ⟨fun k hk => ?_, h⟩
      rcases List.mem_cons.mp hk with rfl | hk
      · exact hij
      · exact hij.trans (hj k hk)
    · split
      · exact h
      · rename_i hij hne
        -- neither before `j` nor the same: the new item comes behind it
        have hji : j.Before i := ((Item.before_trichotomy i j).resolve_left hij).resolve_left hne
        refine List.pairwise_cons.mpr ⟨fun k hk => ?_, ih hrest⟩
        rcases mem_insertItem.mp hk with rfl | hk
        · exact hji
        · exact hj k hk

/-- **A list put in document order is strictly ascending.** -/
theorem inDocumentOrder_ascending : ∀ is : List Item, (inDocumentOrder is).Pairwise Item.Before
  | [] => .nil
  | _ :: rest => insertItem_ascending (inDocumentOrder_ascending rest)

/-- No item is twice in a strictly ascending list. -/
theorem nodup_of_ascending (h : is.Pairwise Item.Before) : is.Nodup := by
  refine List.Pairwise.imp (fun {i j} hij => ?_) h
  rintro rfl
  exact Item.Before.irrefl i hij

/-! ## 3. The items of a document -/

/-- Whether the item is one of the document's: a node of it, or an attribute that one of its
    elements has. -/
def Item.Exists (doc : Document) : Item → Prop
  | .node id => id < doc.size
  | .attribute owner name => name ∈ (doc.attributes owner).map (·.1)

instance : (i : Item) → Decidable (i.Exists doc)
  | .node id => inferInstanceAs (Decidable (id < doc.size))
  | .attribute owner name => inferInstanceAs (Decidable (name ∈ (doc.attributes owner).map (·.1)))

/-- Only nodes of the document have attributes. -/
theorem Document.lt_size_of_mem_attributes {owner : NodeId} {a : String × String}
    (h : a ∈ doc.attributes owner) : owner < doc.size := by
  by_contra hx
  rw [Document.attributes, Document.kind?, Document.node?_eq_none hx] at h
  cases h

theorem Item.Exists.nodeId_lt (h : i.Exists doc) : i.nodeId < doc.size := by
  rcases i with id | ⟨owner, name⟩
  · exact h
  · obtain ⟨a, ha, _⟩ := List.mem_map.mp h
    exact Document.lt_size_of_mem_attributes ha

theorem Item.within_iff : i.within doc = true ↔ i.nodeId < doc.size :=
  Document.contains_iff

end MarkupRules
