import MarkupRules.Proofs.Document.Order
import MarkupRules.Proofs.Path.Reference

/-!
# Axes list what they lead to

The lists of items that the axes give in a document are compared with the relations of its tree.

* `Spot.item` -- the item of a spot, `Spot.item_eq_iff` and `Spot.before_iff` -- one item for
  each spot, in the same order;
* `Lists` -- a list of items holds the items of a set of spots, nothing more and nothing less;
* `Axis.items_ordered` -- **an axis lists its items in the order in which it counts**;
* `Axis.items_lists` -- **an axis lists the items of the spots it leads to**;
* `NodeTest.accepts_iff` -- an item is accepted if its spot passes the test.
-/

namespace MarkupRules

/-! ## 1. Items of spots -/

/-- The item of a spot: the node is known by the number of nodes before it. -/
def Spot.item (t : Content) : Spot → Item
  | .node p => .node (t.index p)
  | .attribute owner name => .attribute (t.index owner) name

/-- Whether the place of the spot is one of the tree's. -/
def Spot.Valid (t : Content) (s : Spot) : Prop :=
  ∃ c, t.at? s.place = some c

/-- Whether the list holds the items of these spots and no others. -/
structure Lists (t : Content) (is : List Item) (among : Set Spot) : Prop where
  valid : ∀ s ∈ among, s.Valid t
  mem_iff : ∀ i, i ∈ is ↔ ∃ s ∈ among, s.item t = i

variable {t : Content} {s u : Spot} {i : Item} {is : List Item} {among : Set Spot}

theorem Item.spot?_eq_some : i.spot? t = some s ↔ s.Valid t ∧ s.item t = i := by
  rcases i with id | ⟨owner, name⟩ <;> rcases s with p | ⟨p, n⟩ <;>
    simp [Item.spot?, Spot.Valid, Spot.place, Spot.item, Content.getElem?_places,
      Option.isSome_iff_exists]
  rw [and_assoc]
  exact and_congr_right fun _ => and_congr_right fun _ => eq_comm

/-- **Spots of a tree are told apart by their items.** -/
theorem Spot.item_eq_iff (hs : s.Valid t) (hu : u.Valid t) : s.item t = u.item t ↔ s = u := by
  refine ⟨fun h => ?_, fun h => h ▸ rfl⟩
  have known := Item.spot?_eq_some.mpr ⟨hs, h⟩
  rw [Item.spot?_eq_some.mpr ⟨hu, rfl⟩] at known
  exact (Option.some.inj known).symm

/-- **Spots and their items are in the same order.** -/
theorem Spot.before_iff (hs : s.Valid t) (hu : u.Valid t) :
    (s.item t).Before (u.item t) ↔ s.Before u := by
  obtain ⟨c, hc⟩ := hs
  obtain ⟨d, hd⟩ := hu
  have lt := Content.index_lt_index_iff hc hd
  have eq : t.index s.place = t.index u.place ↔ s.place = u.place :=
    ⟨Content.eq_of_index_eq hc hd, fun h => h ▸ rfl⟩
  rcases s with p | ⟨p, n⟩ <;> rcases u with q | ⟨q, m⟩
  · exact lt
  · exact Nat.le_iff_lt_or_eq.trans (or_congr lt eq)
  · exact lt
  · exact or_congr lt (and_congr_left fun _ => eq)

/-- Every item of the document is the item of a spot. -/
theorem Spot.exists_item_eq (h : i.nodeId < t.size) : ∃ s : Spot, s.Valid t ∧ s.item t = i := by
  obtain ⟨p, c, hc, hp⟩ := Content.exists_index_eq h
  rcases i with id | ⟨owner, name⟩
  · exact ⟨.node p, ⟨c, hc⟩, congrArg Item.node hp⟩
  · exact ⟨.attribute p name, ⟨c, hc⟩, congrArg (Item.attribute · name) hp⟩

/-- Items picked from a list by a property of their spots. -/
theorem Lists.filter {p : Item → Bool} {q : Spot → Prop} (h : Lists t is among)
    (hpq : ∀ s ∈ among, p (s.item t) = true ↔ q s) :
    Lists t (is.filter p) {s | s ∈ among ∧ q s} where
  valid s hs := h.valid s hs.1
  mem_iff i := by
    rw [List.mem_filter, h.mem_iff]
    constructor
    · intro h
      obtain ⟨⟨s, hs, rfl⟩, hp⟩ := h
      exact ⟨s, ⟨hs, (hpq s hs).mp hp⟩, rfl⟩
    · intro h
      obtain ⟨s, ⟨hs, hq⟩, rfl⟩ := h
      exact ⟨⟨s, hs, rfl⟩, (hpq s hs).mpr hq⟩

/-- A list of one item. -/
theorem Lists.singleton (hs : s.Valid t) : Lists t [s.item t] {u | u = s} where
  valid u hu := by
    cases hu
    exact hs
  mem_iff i := by
    rw [List.mem_singleton]
    exact ⟨fun h => ⟨s, rfl, h.symm⟩, fun ⟨u, hu, h⟩ => by rw [← h, hu]⟩

/-- A list with one item more. -/
theorem Lists.cons (hs : s.Valid t) (h : Lists t is among) :
    Lists t (s.item t :: is) {u | u = s ∨ u ∈ among} where
  valid u hu := by
    rcases hu with rfl | hu
    · exact hs
    · exact h.valid u hu
  mem_iff i := by
    rw [List.mem_cons, h.mem_iff]
    constructor
    · intro h
      rcases h with rfl | ⟨u, hu, rfl⟩
      · exact ⟨s, .inl rfl, rfl⟩
      · exact ⟨u, .inr hu, rfl⟩
    · intro h
      obtain ⟨u, rfl | hu, rfl⟩ := h
      · exact .inl rfl
      · exact .inr ⟨u, hu, rfl⟩

theorem Lists.congr {among' : Set Spot} (h : Lists t is among)
    (same : ∀ s, s ∈ among ↔ s ∈ among') : Lists t is among' :=
  Set.ext same ▸ h

theorem Lists.nil (h : ∀ s, s ∉ among) : Lists t [] among where
  valid s hs := absurd hs (h s)
  mem_iff i := by
    constructor
    · rintro ⟨⟩
    · intro h
      obtain ⟨s, hs, _⟩ := h
      exact absurd hs (h s)

/-- Nodes are listed if the indices are those of their places. -/
theorem Lists.nodes {ids : List Nat} (valid : ∀ s ∈ among, ∃ p c, s = .node p ∧ t.at? p = some c)
    (mem : ∀ x, x ∈ ids ↔ ∃ p, .node p ∈ among ∧ t.index p = x) :
    Lists t (ids.map .node) among where
  valid s hs := by
    obtain ⟨p, c, rfl, hc⟩ := valid s hs
    exact ⟨c, hc⟩
  mem_iff i := by
    rw [List.mem_map]
    constructor
    · intro h
      obtain ⟨x, hx, rfl⟩ := h
      obtain ⟨p, hp, rfl⟩ := (mem x).mp hx
      exact ⟨.node p, hp, rfl⟩
    · intro h
      obtain ⟨s, hs, rfl⟩ := h
      obtain ⟨p, c, rfl, _⟩ := valid s hs
      exact ⟨_, (mem _).mpr ⟨p, hs, rfl⟩, rfl⟩

namespace Path

variable {e : Element} {c d : Content} {p q : Place} {x : Nat} {axis : Axis} {doc : Document}

/-! ## 2. The order of an axis -/

theorem Axis.orient_asymm {i j : Item} (h : axis.orient Item.Before i j) :
    ¬ axis.orient Item.Before j i := by
  unfold Axis.orient at *
  by_cases hr : axis.isReverse = true
  · rw [if_pos hr] at *
    exact h.asymm
  · rw [if_neg hr] at *
    exact h.asymm

/-- A later rank on an axis belongs to an item further away. -/
theorem Axis.orient_before_iff (hs : s.Valid t) (hu : u.Valid t) :
    axis.orient Item.Before (s.item t) (u.item t) ↔ axis.orient Spot.Before s u := by
  unfold Axis.orient
  split
  · exact Spot.before_iff hu hs
  · exact Spot.before_iff hs hu

/-- **An axis lists its items in the order in which it counts.** -/
theorem Axis.items_ordered (doc : Document) (axis : Axis) (i : Item) :
    (axis.items doc i).Pairwise (axis.orient Item.Before) := by
  have ascending : ∀ {ids : List NodeId}, ids.Pairwise (fun a b => a < b) →
      (ids.map Item.node).Pairwise Item.Before := fun h => List.pairwise_map.mpr h
  have descending : ∀ {ids : List NodeId}, ids.Pairwise (fun a b => b < a) →
      (ids.map Item.node).Pairwise (fun a b => Item.Before b a) := fun h => List.pairwise_map.mpr h
  have above : ∀ id : NodeId, (id :: doc.ancestors id).Pairwise (fun a b => b < a) := fun id =>
    .cons (fun _ => Document.lt_of_mem_ancestors) Document.ancestors_descending
  rcases i with id | ⟨owner, name⟩
  · match axis with
    | .self => exact List.pairwise_singleton _ _
    | .child => exact ascending Document.children_ascending
    | .descendant => exact ascending (List.pairwise_lt_range' 1)
    | .descendantOrSelf =>
      refine ascending (.cons (fun x hx => ?_) (List.pairwise_lt_range' 1))
      exact (Document.mem_descendants_iff.mp hx).1
    | .parent =>
      refine descending ?_
      cases doc.parent? id with
      | none => exact .nil
      | some p => exact List.pairwise_singleton _ _
    | .ancestor => exact descending Document.ancestors_descending
    | .ancestorOrSelf => exact descending (above id)
    | .followingSibling => exact ascending (Document.followingSiblings_ascending)
    | .precedingSibling => exact descending (Document.precedingSiblings_descending)
    | .attribute =>
      refine List.pairwise_map.mpr ?_
      exact (doc.attributes_ascending id).imp fun h => .inr ⟨rfl, h⟩
  · match axis with
    | .self => exact List.pairwise_singleton _ _
    | .parent => exact List.pairwise_singleton _ _
    | .ancestor => exact descending (above owner)
    | .ancestorOrSelf =>
      refine .cons (fun j hj => ?_) (descending (above owner))
      rw [← List.map_cons] at hj
      obtain ⟨x, hx, rfl⟩ := List.mem_map.mp hj
      rcases List.mem_cons.mp hx with rfl | hx
      · exact Nat.le_refl _
      · exact Nat.le_of_lt (Document.lt_of_mem_ancestors hx)
    | .child | .descendant | .descendantOrSelf | .followingSibling | .precedingSibling
    | .attribute => exact .nil

/-! ## 3. What the axes lead to -/

theorem child_iff : Child t s u ↔
    ∃ p k c, s = .node p ∧ u = .node (p ++ [k]) ∧ t.at? (p ++ [k]) = some c := by
  constructor
  · intro h
    obtain ⟨h⟩ := h
    exact ⟨_, _, _, rfl, rfl, h⟩
  · intro h
    obtain ⟨p, k, c, rfl, rfl, h⟩ := h
    exact .mk h

theorem follows_iff : Follows t s u ↔ ∃ p j k c d, s = .node (p ++ [j]) ∧ u = .node (p ++ [k]) ∧
    t.at? (p ++ [j]) = some c ∧ t.at? (p ++ [k]) = some d ∧ j < k := by
  constructor
  · intro h
    obtain ⟨hc, hd, h⟩ := h
    exact ⟨_, _, _, _, _, rfl, rfl, hc, hd, h⟩
  · intro h
    obtain ⟨p, j, k, c, d, rfl, rfl, hc, hd, h⟩ := h
    exact .mk hc hd h

/-- **From an attribute only the axes that look at itself or upwards lead anywhere.** -/
theorem Axis.looksUp_of_leads {name : String} (h : axis.Leads t (.attribute p name) u) :
    axis = .self ∨ axis = .parent ∨ axis = .ancestor ∨ axis = .ancestorOrSelf := by
  have noChild : ∀ {v}, ¬ Child t (.attribute p name) v := by
    intro v h
    obtain ⟨_, _, _, same, _⟩ := child_iff.mp h
    cases same
  match axis with
  | .self => exact .inl rfl
  | .parent => exact .inr (.inl rfl)
  | .ancestor => exact .inr (.inr (.inl rfl))
  | .ancestorOrSelf => exact .inr (.inr (.inr rfl))
  | .child => exact absurd h noChild
  | .descendant =>
    obtain ⟨v, h, _⟩ := Relation.TransGen.head'_iff.mp h
    exact absurd h noChild
  | .descendantOrSelf =>
    obtain ⟨⟨q, same⟩, _⟩ := h
    cases same
  | .followingSibling =>
    obtain ⟨_, _, _, _, _, same, _⟩ := follows_iff.mp h
    cases same
  | .precedingSibling =>
    obtain ⟨_, _, _, _, _, _, same, _⟩ := follows_iff.mp h
    cases same
  | .attribute => cases h

/-- **Children of children are what stands at the places below.** -/
theorem below_iff : Relation.TransGen (Child t) s u ↔
    ∃ p q c, s = .node p ∧ u = .node q ∧ t.at? q = some c ∧ p <+: q ∧ p ≠ q := by
  have longer : ∀ (q : Place) (k : Nat) {p : Place}, p <+: q → p ≠ q ++ [k] := by
    rintro q k p hpre rfl
    have := hpre.length_le
    rw [List.length_append, List.length_singleton] at this
    omega
  constructor
  · intro h
    induction h with
    | single h =>
      obtain ⟨p, k, c, rfl, rfl, hc⟩ := child_iff.mp h
      exact ⟨p, _, c, rfl, rfl, hc, List.prefix_append .., longer p k (List.prefix_refl p)⟩
    | tail _ h ih =>
      obtain ⟨p, q, _, rfl, rfl, _, hpre, _⟩ := ih
      obtain ⟨q', k, c, same, rfl, hc⟩ := child_iff.mp h
      cases same
      exact ⟨p, _, c, rfl, rfl, hc, hpre.trans (List.prefix_append ..), longer q k hpre⟩
  · intro h
    obtain ⟨p, q, c, rfl, rfl, hc, ⟨r, rfl⟩, hne⟩ := h
    -- one child further down for each number in the rest of the place
    have down : ∀ {r : Place} {c : Content}, t.at? (p ++ r) = some c →
        Relation.ReflTransGen (Child t) (.node p) (.node (p ++ r)) := by
      intro r
      induction r using List.reverseRecOn with
      | nil =>
        intro c _
        rw [List.append_nil]
      | append_singleton r k ih =>
        intro c hc
        rw [← List.append_assoc] at hc ⊢
        obtain ⟨c', hc', _⟩ := Content.exists_at?_of_append hc
        exact (ih hc').tail (.mk hc)
    rcases Relation.reflTransGen_iff_eq_or_transGen.mp (down hc) with same | h
    · exact absurd (Spot.node.inj same).symm hne
    · exact h

theorem parent_node_iff : Parent t (.node p) u ↔ Child t u (.node p) := by
  constructor
  · intro h
    rcases h with h | _
    exact h
  · exact .node

/-- **Upwards from a node is downwards to it.** -/
theorem above_iff : Relation.TransGen (Parent t) (.node p) u ↔
    Relation.TransGen (Child t) u (.node p) := by
  constructor
  · intro h
    induction h with
    | single h => exact .single (parent_node_iff.mp h)
    | tail _ h ih =>
      obtain ⟨q, _, _, rfl, _⟩ := below_iff.mp ih
      exact .head (parent_node_iff.mp h) ih
  · intro h
    induction h using Relation.TransGen.head_induction_on with
    | single h => exact .single (parent_node_iff.mpr h)
    | head h _ ih =>
      obtain ⟨q, k, c, rfl, rfl, _⟩ := child_iff.mp h
      exact ih.tail (parent_node_iff.mpr h)

/-- Children of one node are told apart by their ranks. -/
theorem index_append_lt_iff {j k : Nat} (hc : t.at? (p ++ [j]) = some c)
    (hd : t.at? (p ++ [k]) = some d) : t.index (p ++ [j]) < t.index (p ++ [k]) ↔ j < k := by
  rw [Content.index_lt_index_iff hc hd]
  constructor
  · intro h
    rcases Nat.lt_trichotomy j k with hjk | rfl | hkj
    · exact hjk
    · exact absurd h (lt_irrefl _)
    · exact absurd h (lt_asymm (List.append_left_lt (List.cons_lt_cons_iff.mpr (.inl hkj))))
  · intro h
    exact List.append_left_lt (List.cons_lt_cons_iff.mpr (.inl h))

/-- **The siblings of a node** stand at the places of the other children of its parent. -/
theorem mem_siblings_index (hc : e.tree.at? p = some c) :
    (x ∈ (Document.ofElement e).followingSiblings (e.tree.index p) ↔
      ∃ q, Follows e.tree (.node p) (.node q) ∧ e.tree.index q = x) ∧
    (x ∈ (Document.ofElement e).precedingSiblings (e.tree.index p) ↔
      ∃ q, Follows e.tree (.node q) (.node p) ∧ e.tree.index q = x) := by
  by_cases hp : p = []
  · subst hp
    rw [Content.index_nil, Document.followingSiblings, Document.precedingSiblings,
      Document.siblings, Document.parent?_zero]
    refine ⟨⟨fun h => ?_, ?_⟩, ⟨fun h => ?_, ?_⟩⟩
    · cases h
    · intro h
      obtain ⟨q, h, _⟩ := h
      obtain ⟨_, _, _, _, _, same, _⟩ := follows_iff.mp h
      simp at same
    · cases h
    · intro h
      obtain ⟨q, h, _⟩ := h
      obtain ⟨_, _, _, _, _, _, same, _⟩ := follows_iff.mp h
      simp at same
  · obtain ⟨q, j, _, rfl, hq, _⟩ := Document.eq_append_of_ne_nil hc hp
    obtain ⟨preceding, following⟩ :=
      Document.mem_siblings_iff (Document.parent?_index_append hc) (z := x)
    rw [preceding, following, Document.mem_children_index hq]
    refine ⟨⟨?_, ?_⟩, ⟨?_, ?_⟩⟩
    · intro h
      obtain ⟨⟨k, d, hd, rfl⟩, hlt⟩ := h
      exact ⟨_, .mk hc hd ((index_append_lt_iff hc hd).mp hlt), rfl⟩
    · intro h
      obtain ⟨_, h, rfl⟩ := h
      obtain ⟨q', j', k, c', d, hs, hu, _, hd, hlt⟩ := follows_iff.mp h
      obtain ⟨rfl, rfl⟩ := List.append_singleton_inj.mp (Spot.node.inj hs)
      cases hu
      exact ⟨⟨k, d, hd, rfl⟩, (index_append_lt_iff hc hd).mpr hlt⟩
    · intro h
      obtain ⟨⟨k, d, hd, rfl⟩, hlt⟩ := h
      exact ⟨_, .mk hd hc ((index_append_lt_iff hd hc).mp hlt), rfl⟩
    · intro h
      obtain ⟨_, h, rfl⟩ := h
      obtain ⟨q', k, j', d, c', hs, hu, hd, _, hlt⟩ := follows_iff.mp h
      obtain ⟨rfl, rfl⟩ := List.append_singleton_inj.mp (Spot.node.inj hu)
      cases hs
      exact ⟨⟨k, d, hd, rfl⟩, (index_append_lt_iff hd hc).mpr hlt⟩

/-! ## 4. Lists of the axes -/

theorem lists_children (hc : e.tree.at? p = some c) :
    Lists e.tree (((Document.ofElement e).children (e.tree.index p)).map .node)
      {u | Child e.tree (.node p) u} := by
  refine .nodes (fun s hs => ?_) fun x => ?_
  · obtain ⟨q, k, d, _, rfl, hd⟩ := child_iff.mp hs
    exact ⟨_, d, rfl, hd⟩
  · rw [Document.mem_children_index hc]
    constructor
    · intro h
      obtain ⟨k, d, hd, rfl⟩ := h
      exact ⟨_, .mk hd, rfl⟩
    · intro h
      obtain ⟨q, h, rfl⟩ := h
      obtain ⟨p', k, d, hs, hu, hd⟩ := child_iff.mp h
      cases hs
      cases hu
      exact ⟨k, d, hd, rfl⟩

theorem lists_descendants (hc : e.tree.at? p = some c) :
    Lists e.tree (((Document.ofElement e).descendants (e.tree.index p)).map .node)
      {u | Relation.TransGen (Child e.tree) (.node p) u} := by
  refine .nodes (fun s hs => ?_) fun x => ?_
  · obtain ⟨_, q, d, _, rfl, hd, _⟩ := below_iff.mp hs
    exact ⟨q, d, rfl, hd⟩
  · rw [Document.mem_descendants_index hc]
    constructor
    · intro h
      obtain ⟨q, d, hd, hpre, hne, rfl⟩ := h
      exact ⟨q, below_iff.mpr ⟨p, q, d, rfl, rfl, hd, hpre, hne⟩, rfl⟩
    · intro h
      obtain ⟨q, h, rfl⟩ := h
      obtain ⟨p', q', d, hs, hu, hd, hpre, hne⟩ := below_iff.mp h
      cases hs
      cases hu
      exact ⟨q, d, hd, hpre, hne, rfl⟩

theorem lists_parent (hc : e.tree.at? p = some c) :
    Lists e.tree (((Document.ofElement e).parent? (e.tree.index p)).toList.map .node)
      {u | Parent e.tree (.node p) u} := by
  refine .nodes (fun s hs => ?_) fun x => ?_
  · obtain ⟨q, k, d, rfl, hu, hd⟩ := child_iff.mp (parent_node_iff.mp hs)
    obtain ⟨above, habove, _⟩ := Content.exists_at?_of_append hd
    exact ⟨q, above, rfl, habove⟩
  · rw [Option.mem_toList]
    constructor
    · intro h
      by_cases hp : p = []
      · rw [hp, Content.index_nil, Document.parent?_zero] at h
        cases h
      · obtain ⟨q, k, _, rfl, _⟩ := Document.eq_append_of_ne_nil hc hp
        rw [Document.parent?_index_append hc, Option.some.injEq] at h
        exact ⟨q, .node (.mk hc), h⟩
    · intro h
      obtain ⟨q, h, rfl⟩ := h
      obtain ⟨q', k, d, hs, hu, hd⟩ := child_iff.mp (parent_node_iff.mp h)
      cases hs
      cases hu
      exact Document.parent?_index_append hd

theorem lists_ancestors (hc : e.tree.at? p = some c) :
    Lists e.tree (((Document.ofElement e).ancestors (e.tree.index p)).map .node)
      {u | Relation.TransGen (Parent e.tree) (.node p) u} := by
  refine .nodes (fun s hs => ?_) fun x => ?_
  · obtain ⟨q, _, _, rfl, hu, hd, ⟨r, rfl⟩, _⟩ := below_iff.mp (above_iff.mp hs)
    obtain ⟨above, habove, _⟩ := Content.exists_at?_of_append hd
    exact ⟨q, above, rfl, habove⟩
  · rw [Document.mem_ancestors_index hc]
    constructor
    · intro h
      obtain ⟨q, hpre, hne, rfl⟩ := h
      exact ⟨q, above_iff.mpr (below_iff.mpr ⟨q, p, c, rfl, rfl, hc, hpre, hne⟩), rfl⟩
    · intro h
      obtain ⟨q, h, rfl⟩ := h
      obtain ⟨_, _, _, hs, hu, _, hpre, hne⟩ := below_iff.mp (above_iff.mp h)
      cases hs
      cases hu
      exact ⟨q, hpre, hne, rfl⟩

/-- A node and whatever stands above it. -/
theorem lists_ancestorsOrSelf (hc : e.tree.at? p = some c) :
    Lists e.tree ((e.tree.index p :: (Document.ofElement e).ancestors (e.tree.index p)).map .node)
      {u | Relation.ReflTransGen (Parent e.tree) (.node p) u} :=
  (Lists.cons (s := .node p) ⟨c, hc⟩ (lists_ancestors hc)).congr fun _ =>
    Relation.reflTransGen_iff_eq_or_transGen.symm

theorem lists_attributes (hc : e.tree.at? p = some c) :
    Lists e.tree (((Document.ofElement e).attributes (e.tree.index p)).map
      fun (name, _) => .attribute (e.tree.index p) name) {u | HasAttribute e.tree (.node p) u} where
  valid u hu := by
    obtain ⟨hd, _⟩ := hu
    exact ⟨_, hd⟩
  mem_iff i := by
    rw [Document.attributes_index hc, List.mem_map]
    constructor
    · intro h
      obtain ⟨a, ha, rfl⟩ := h
      exact ⟨.attribute p a.1, .mk hc ha, rfl⟩
    · intro h
      obtain ⟨_, ⟨hd, ha⟩, rfl⟩ := h
      cases hc.symm.trans hd
      exact ⟨_, ha, rfl⟩

/-- **An axis lists the items of the spots it leads to.** -/
theorem Axis.items_lists (axis : Axis) (hs : s.Valid e.tree) :
    Lists e.tree (axis.items (.ofElement e) (s.item e.tree)) {u | axis.Leads e.tree s u} := by
  obtain ⟨c, hc⟩ := hs
  rcases s with p | ⟨p, name⟩
  · match axis with
    | .self => exact .singleton (s := .node p) ⟨c, hc⟩
    | .child => exact lists_children hc
    | .descendant => exact lists_descendants hc
    | .descendantOrSelf =>
      refine (Lists.cons (s := .node p) ⟨c, hc⟩ (lists_descendants hc)).congr fun u => ?_
      exact Relation.reflTransGen_iff_eq_or_transGen.symm.trans (and_iff_right ⟨p, rfl⟩).symm
    | .parent => exact lists_parent hc
    | .ancestor => exact lists_ancestors hc
    | .ancestorOrSelf => exact lists_ancestorsOrSelf hc
    | .followingSibling =>
      refine .nodes (fun s hs => ?_) fun x => (mem_siblings_index hc).1
      obtain ⟨q, _, k, _, d, _, rfl, _, hd, _⟩ := follows_iff.mp hs
      exact ⟨_, d, rfl, hd⟩
    | .precedingSibling =>
      refine .nodes (fun s hs => ?_) fun x => (mem_siblings_index hc).2
      obtain ⟨q, j, _, c', _, rfl, _, hc', _⟩ := follows_iff.mp hs
      exact ⟨_, c', rfl, hc'⟩
    | .attribute => exact lists_attributes hc
  · -- upwards from an attribute is its owner, then upwards from there
    have up : ∀ {u}, Parent e.tree (.attribute p name) u ↔ u = .node p := by
      intro u
      constructor
      · intro h
        rcases h with h | _
        · obtain ⟨_, _, _, _, same, _⟩ := child_iff.mp h
          cases same
        · rfl
      · rintro rfl
        exact .attribute
    have above : ∀ {u}, Relation.TransGen (Parent e.tree) (.attribute p name) u ↔
        Relation.ReflTransGen (Parent e.tree) (.node p) u := by
      intro u
      simp only [Relation.TransGen.head'_iff, up, exists_eq_left]
    have nowhere : ∀ {axis : Axis} {u : Spot}, ¬ (axis = .self ∨ axis = .parent ∨
        axis = .ancestor ∨ axis = .ancestorOrSelf) →
          u ∉ {u | axis.Leads e.tree (.attribute p name) u} :=
      fun other h => other (Axis.looksUp_of_leads h)
    match axis with
    | .self => exact .singleton (s := .attribute p name) ⟨c, hc⟩
    | .parent => exact (Lists.singleton (s := .node p) ⟨c, hc⟩).congr fun u => up.symm
    | .ancestor => exact (lists_ancestorsOrSelf hc).congr fun u => above.symm
    | .ancestorOrSelf =>
      refine (Lists.cons (s := .attribute p name) ⟨c, hc⟩ (lists_ancestorsOrSelf hc)).congr
        fun u => ?_
      exact (or_congr_right above.symm).trans Relation.reflTransGen_iff_eq_or_transGen.symm
    | .child | .descendant | .descendantOrSelf | .followingSibling | .precedingSibling
    | .attribute => exact .nil fun u => nowhere (by decide)

/-! ## 5. Tests and values -/

/-- **An item met on an axis is accepted if its spot passes the test.** -/
theorem NodeTest.accepts_iff {test : NodeTest} (hs : s.Valid e.tree)
    (hu : axis.Leads e.tree s u) :
    test.accepts (.ofElement e) axis (u.item e.tree) = true ↔ test.Passes e.tree u := by
  obtain ⟨c, hc⟩ := (axis.items_lists hs).valid u hu
  rcases u with p | ⟨p, own⟩
  · have notAttribute : axis ≠ .attribute := by
      rintro rfl
      cases hu
    change e.tree.at? p = some c at hc
    have kind := Document.kind?_index hc
    cases p with
    | nil =>
      rw [Content.index_nil] at kind
      cases Content.at?_nil.symm.trans hc
      cases test <;> simp [NodeTest.accepts, NodeTest.Passes, Spot.item, notAttribute,
        Document.name?, Document.isElement, Document.isText, kind, Document.kindAt, Element.tree]
    | cons k p =>
      cases c <;> cases test <;> simp [NodeTest.accepts, NodeTest.Passes, Spot.item, notAttribute,
        Document.name?, Document.isElement, Document.isText, kind, Document.kindAt,
        Content.kind, hc]
  · cases test with
    | name wanted => exact beq_iff_eq.trans eq_comm
    | wildcard => exact iff_of_true rfl trivial
    | anyNode => exact iff_of_true rfl trivial
    | text => exact iff_of_false Bool.false_ne_true id

theorem join_eq_stringValueOfAll (cs : List Content) :
    String.join (cs.map Content.stringValue) = stringValueOfAll cs := by
  induction cs with
  | nil => rfl
  | cons c rest ih => rw [List.map_cons, String.join_cons, ih, stringValueOfAll]

/-- **The string value of a node is the text of the content at its place.** -/
theorem stringValue_index : ∀ {c : Content} {p : Place}, e.tree.at? p = some c →
    (Document.ofElement e).stringValue (e.tree.index p) = c.stringValue
  | .text value, p, hc => by
    have noRoot : p ≠ [] := by
      rintro rfl
      cases Content.at?_nil.symm.trans hc
    obtain ⟨k, p, rfl⟩ := List.exists_cons_of_ne_nil noRoot
    rw [Document.stringValue, Document.text?, Document.kind?_index hc]
    rfl
  | .element name attributes children, p, hc => by
    have noText : (Document.ofElement e).isText (e.tree.index p) = false := by
      rw [Document.isText, Document.kind?_index hc]
      cases p <;> rfl
    have below : (List.range children.length).map
        (fun k => (Document.ofElement e).stringValue (e.tree.index (p ++ [k]))) =
          children.map Content.stringValue := by
      refine List.ext_getElem (by simp) fun k _ hk => ?_
      have hk : k < children.length := by simpa using hk
      have child := Document.at?_append_singleton hc (List.getElem?_eq_getElem hk)
      simpa using stringValue_index child
    rw [Document.stringValue_eq_join noText, Document.children_index hc, List.map_map,
      Content.stringValue, ← join_eq_stringValueOfAll, ← below]
    rfl
termination_by c => c
decreasing_by
  have := List.sizeOf_lt_of_mem (List.getElem_mem hk)
  simp only [Content.element.sizeOf_spec]
  omega

/-- **A spot and its item have the same value.** -/
theorem stringValue_item (hs : s.Valid e.tree) :
    (s.item e.tree).stringValue (.ofElement e) = s.stringValue e.tree := by
  obtain ⟨c, hc⟩ := hs
  rcases s with p | ⟨p, name⟩
  · change e.tree.at? p = some c at hc
    rw [Spot.item, Item.stringValue, stringValue_index hc, Spot.stringValue, hc]
    rfl
  · change e.tree.at? p = some c at hc
    rw [Spot.item, Item.stringValue, Document.attribute?, Document.kind?_index hc,
      Spot.stringValue, hc]
    cases p with
    | nil =>
      cases Content.at?_nil.symm.trans hc
      rfl
    | cons k p => cases c <;> rfl

end Path

end MarkupRules
