import MarkupRules.Document.Arena
import Mathlib.Data.List.Lex

/-!
# Places in a tree

The source of a document is a tree, and a node of a tree is named by its place: which child to
take from the top, and again from there. This file counts places and compares the count with the
way content is laid out in an arena.

* `Content.at?` -- the content at a place;
* `Content.places` -- all places, a node before whatever is below it;
* `Content.index` -- how many nodes stand before a place;
* `Content.map_index_places` -- **the index of a place is its rank in `places`**;
* `Content.index_lt_index_iff` -- the lexicographic order of places is the order of their indices;
* `Content.isPrefix_iff_index` -- the places below a place are the indices of one interval;
* `Content.nodes_eq_append_at?` -- content below content is laid out as it would be on its own.
-/

namespace MarkupRules

/-! ## 1. Content and its places -/

/-- Which child to take from the top, and again from there, until the node is reached. -/
abbrev Place := List Nat

/-- What a piece of content is, whatever stands below it. -/
def Content.kind : Content → NodeKind
  | .text value => .text value
  | .element name attributes _ => .element name attributes

/-- The attributes of a piece of content. A text has none. -/
def Content.attributes : Content → List (String × String)
  | .text _ => []
  | .element _ attributes _ => attributes.entries

/-- The content right below a piece of content. -/
def Content.children : Content → List Content
  | .text _ => []
  | .element _ _ children => children

/-- The content at a place. -/
def Content.at? : Content → Place → Option Content
  | c, [] => some c
  | c, k :: p =>
    match c.children[k]? with
    | some d => d.at? p
    | none => none

mutual
/-- The places of a piece of content, each one before the places below it. -/
def Content.places : Content → List Place
  | .text _ => [[]]
  | .element _ _ children => [] :: placesOfAll 0 children

/-- The places of consecutive children, the first of them being child number `k`. -/
def placesOfAll (k : Nat) : List Content → List Place
  | [] => []
  | c :: rest => c.places.map (k :: ·) ++ placesOfAll (k + 1) rest
end

/-- The number of nodes that stand before the one at a place. -/
def Content.index : Content → Place → Nat
  | _, [] => 0
  | c, k :: p =>
    match c.children[k]? with
    | some d => 1 + sizeOfAll (c.children.take k) + d.index p
    | none => 0

variable {c d d' : Content} {p q : Place} {k : Nat}

@[simp] theorem Content.at?_nil : c.at? [] = some c := by
  simp [Content.at?]

@[simp] theorem Content.index_nil : c.index [] = 0 := by
  simp [Content.index]

theorem Content.at?_cons : c.at? (k :: p) = c.children[k]?.bind (·.at? p) := by
  rw [Content.at?]
  cases c.children[k]? <;> rfl

/-- What stands at a place that starts with `k` stands below child number `k`. -/
theorem Content.at?_cons_eq_some : c.at? (k :: p) = some d ↔
    ∃ child, c.children[k]? = some child ∧ child.at? p = some d := by
  rw [Content.at?_cons, Option.bind_eq_some_iff]

theorem Content.index_cons {child : Content} (h : c.children[k]? = some child) :
    c.index (k :: p) = 1 + sizeOfAll (c.children.take k) + child.index p := by
  rw [Content.index, h]

/-- A place below a place. -/
theorem Content.at?_append : ∀ {c : Content} {p : Place},
    c.at? (p ++ q) = (c.at? p).bind (·.at? q)
  | c, [] => by simp
  | c, k :: p => by
    rw [List.cons_append, Content.at?_cons, Content.at?_cons]
    cases c.children[k]? with
    | none => rfl
    | some child => exact Content.at?_append

/-- What stands above a place that exists exists. -/
theorem Content.exists_at?_of_append (h : c.at? (p ++ q) = some d) :
    ∃ d', c.at? p = some d' ∧ d'.at? q = some d := by
  rw [Content.at?_append, Option.bind_eq_some_iff] at h
  exact h

/-- What stands at a place below a place. -/
theorem Content.at?_append_of_at? (h : c.at? p = some d) (hq : d.at? q = some d') :
    c.at? (p ++ q) = some d' := by
  rw [Content.at?_append, h, Option.bind_some, hq]

theorem Content.index_append : ∀ {c : Content} {p : Place}, c.at? p = some d →
    c.index (p ++ q) = c.index p + d.index q
  | c, [], h => by
    rw [Content.at?_nil, Option.some.injEq] at h
    simp [h]
  | c, k :: p, h => by
    obtain ⟨child, hk, h⟩ := Content.at?_cons_eq_some.mp h
    rw [List.cons_append, Content.index_cons hk, Content.index_cons hk, Content.index_append h]
    omega

/-! ## 2. Sizes -/

theorem Content.size_eq : c.size = 1 + sizeOfAll c.children := by
  cases c <;> simp [Content.size, Content.children, sizeOfAll]

theorem sizeOfAll_append (cs ds : List Content) :
    sizeOfAll (cs ++ ds) = sizeOfAll cs + sizeOfAll ds := by
  induction cs with
  | nil => simp [sizeOfAll]
  | cons c cs ih => simp [sizeOfAll, ih, Nat.add_assoc]

/-- The children before, at and behind child number `k`. -/
theorem take_append_cons_drop {α : Type} {cs : List α} {c : α} (h : cs[k]? = some c) :
    cs.take k ++ c :: cs.drop (k + 1) = cs := by
  obtain ⟨hk, rfl⟩ := List.getElem?_eq_some_iff.mp h
  rw [List.getElem_cons_drop, List.take_append_drop]

theorem sizeOfAll_take_succ {cs : List Content} (h : cs[k]? = some c) :
    sizeOfAll (cs.take (k + 1)) = sizeOfAll (cs.take k) + c.size := by
  rw [List.take_add_one, h, sizeOfAll_append]
  simp [sizeOfAll]

theorem sizeOfAll_take_le {cs : List Content} {j k : Nat} (h : j ≤ k) :
    sizeOfAll (cs.take j) ≤ sizeOfAll (cs.take k) := by
  rw [← Nat.add_sub_cancel' h, List.take_add, sizeOfAll_append]
  exact Nat.le_add_right ..

/-- The nodes at and below a place are nodes of the whole. -/
theorem Content.index_add_size_le : ∀ {c : Content} {p : Place}, c.at? p = some d →
    c.index p + d.size ≤ c.size
  | c, [], h => by
    rw [Content.at?_nil, Option.some.injEq] at h
    simp [h]
  | c, k :: p, h => by
    obtain ⟨child, hk, h⟩ := Content.at?_cons_eq_some.mp h
    have inside := Content.index_add_size_le h
    have upto : sizeOfAll (c.children.take (k + 1)) ≤ sizeOfAll c.children := by
      have all := sizeOfAll_append (c.children.take (k + 1)) (c.children.drop (k + 1))
      rw [List.take_append_drop] at all
      omega
    rw [sizeOfAll_take_succ hk] at upto
    rw [Content.index_cons hk, c.size_eq]
    omega

theorem Content.index_lt_size (h : c.at? p = some d) : c.index p < c.size :=
  Nat.lt_of_lt_of_le (Nat.lt_add_of_pos_right d.size_pos) (Content.index_add_size_le h)

/-! ## 3. Indices number the places -/

mutual
/-- **The index of a place is its rank among all places.** -/
theorem Content.map_index_places : ∀ c : Content, c.places.map c.index = List.range c.size
  | .text _ => by simp [Content.places, Content.size]
  | .element name attributes children => by
    have below := map_index_placesOfAll name attributes [] children
    simp only [List.length_nil, List.nil_append] at below
    rw [Content.places, List.map_cons, below, Content.index_nil, Content.size,
      Nat.add_comm 1 (sizeOfAll children), List.range_eq_range', List.range'_succ]
    rfl

/-- The same for the children behind some others, the nodes before them counted along. -/
theorem map_index_placesOfAll (name : String) (attributes : Attributes) (before : List Content) :
    ∀ cs : List Content, (placesOfAll before.length cs).map
      (Content.element name attributes (before ++ cs)).index =
        List.range' (1 + sizeOfAll before) (sizeOfAll cs)
  | [] => by simp [placesOfAll, sizeOfAll]
  | c :: rest => by
    have own : (c.places.map (before.length :: ·)).map
        (Content.element name attributes (before ++ c :: rest)).index =
          List.range' (1 + sizeOfAll before) c.size := by
      rw [List.map_map, List.range'_eq_map_range, ← c.map_index_places, List.map_map]
      refine List.map_congr_left fun p _ => ?_
      simp [Content.index, Content.children]
    have more := map_index_placesOfAll name attributes (before ++ [c]) rest
    have single : sizeOfAll [c] = c.size := rfl
    rw [List.length_append, List.length_singleton, List.append_assoc, List.singleton_append,
      sizeOfAll_append, single, ← Nat.add_assoc] at more
    rw [placesOfAll, List.map_append, own, more, List.range'_append_1, sizeOfAll]
end

mutual
/-- The places are those where something stands. -/
theorem Content.mem_places : ∀ {c : Content} {p : Place}, p ∈ c.places ↔ (c.at? p).isSome
  | .text _, p => by
    cases p <;> simp [Content.places, Content.at?, Content.children]
  | .element _ _ children, [] => by simp [Content.places]
  | .element _ _ children, k :: p => by
    rw [Content.places, List.mem_cons, mem_placesOfAll, Content.at?_cons]
    simp [Content.children, Option.isSome_bind]

theorem mem_placesOfAll : ∀ {i : Nat} {cs : List Content} {p : Place}, p ∈ placesOfAll i cs ↔
    ∃ k q, p = (i + k) :: q ∧ (cs[k]?.bind (·.at? q)).isSome
  | i, [], p => by simp [placesOfAll]
  | i, c :: rest, p => by
    rw [placesOfAll, List.mem_append, List.mem_map, mem_placesOfAll]
    constructor
    · intro h
      rcases h with ⟨q, hq, rfl⟩ | ⟨k, q, rfl, hq⟩
      · exact ⟨0, q, rfl, by simpa using Content.mem_places.mp hq⟩
      · exact ⟨k + 1, q, by rw [Nat.add_assoc, Nat.add_comm 1], by simpa using hq⟩
    · intro h
      obtain ⟨k, q, rfl, hq⟩ := h
      cases k with
      | zero => exact .inl ⟨q, Content.mem_places.mpr (by simpa using hq), rfl⟩
      | succ k => exact .inr ⟨k, q, by rw [Nat.add_assoc, Nat.add_comm 1], by simpa using hq⟩
end

@[simp] theorem Content.length_places : c.places.length = c.size := by
  simpa using congrArg List.length c.map_index_places

/-- **A place is found in the list at its index**, and nowhere else. -/
theorem Content.getElem?_places {i : Nat} :
    c.places[i]? = some p ↔ (c.at? p).isSome ∧ c.index p = i := by
  have found : ∀ {j}, c.places[j]? = some p → c.index p = j := by
    intro j h
    have ranked := congrArg (·[j]?) c.map_index_places
    simp only [List.getElem?_map, h, Option.map_some] at ranked
    obtain ⟨hj, hi⟩ := List.getElem?_eq_some_iff.mp ranked.symm
    rw [← hi, List.getElem_range]
  constructor
  · intro h
    exact ⟨Content.mem_places.mp (List.mem_of_getElem? h), found h⟩
  · intro h
    obtain ⟨h, rfl⟩ := h
    obtain ⟨j, hj⟩ := List.mem_iff_getElem?.mp (Content.mem_places.mpr h)
    rw [found hj, hj]

theorem Content.getElem?_places_index (h : c.at? p = some d) : c.places[c.index p]? = some p :=
  Content.getElem?_places.mpr ⟨by simp [h], rfl⟩

/-- Places that exist are told apart by their indices. -/
theorem Content.eq_of_index_eq (hp : c.at? p = some d) (hq : c.at? q = some d')
    (h : c.index p = c.index q) : p = q := by
  have := Content.getElem?_places_index hp
  rw [h, Content.getElem?_places_index hq] at this
  exact (Option.some.inj this).symm

/-- Every index below the size is the index of a place. -/
theorem Content.exists_index_eq {i : Nat} (h : i < c.size) :
    ∃ p d, c.at? p = some d ∧ c.index p = i := by
  obtain ⟨p, hp⟩ : ∃ p, c.places[i]? = some p := by
    rw [List.getElem?_eq_getElem (by simpa using h)]
    exact ⟨_, rfl⟩
  obtain ⟨hd, hi⟩ := Content.getElem?_places.mp hp
  obtain ⟨d, hd⟩ := Option.isSome_iff_exists.mp hd
  exact ⟨p, d, hd, hi⟩

/-! ## 4. The order of places -/

/-- Whatever stands at or below an earlier child stands before everything at or below a later
    one. -/
theorem Content.index_add_size_le_of_lt {j k : Nat} (hp : c.at? (j :: p) = some d)
    (hq : c.at? (k :: q) = some d') (h : j < k) :
    c.index (j :: p) + d.size ≤ c.index (k :: q) := by
  obtain ⟨early, hj, hp⟩ := Content.at?_cons_eq_some.mp hp
  obtain ⟨late, hk, hq⟩ := Content.at?_cons_eq_some.mp hq
  have inside := Content.index_add_size_le hp
  have between : sizeOfAll (c.children.take (j + 1)) ≤ sizeOfAll (c.children.take k) :=
    sizeOfAll_take_le (Nat.succ_le_of_lt h)
  rw [sizeOfAll_take_succ hj] at between
  rw [Content.index_cons hj, Content.index_cons hk]
  omega

theorem Content.index_lt_index : ∀ {c d d' : Content} {p q : Place}, c.at? p = some d →
    c.at? q = some d' → p < q → c.index p < c.index q
  | c, d, d', p, [], _, _, h => absurd h (List.not_lt_nil p)
  | c, d, d', [], k :: q, _, hq, _ => by
    obtain ⟨child, hk, _⟩ := Content.at?_cons_eq_some.mp hq
    rw [Content.index_nil, Content.index_cons hk]
    omega
  | c, d, d', j :: p, k :: q, hp, hq, h => by
    rcases List.cons_lt_cons_iff.mp h with hlt | ⟨rfl, hlt⟩
    · have := Content.index_add_size_le_of_lt hp hq hlt
      have := d.size_pos
      omega
    · obtain ⟨child, hj, hp⟩ := Content.at?_cons_eq_some.mp hp
      obtain ⟨child', hj', hq⟩ := Content.at?_cons_eq_some.mp hq
      cases hj.symm.trans hj'
      rw [Content.index_cons hj, Content.index_cons hj]
      exact Nat.add_lt_add_left (Content.index_lt_index hp hq hlt) _

/-- **The lexicographic order of places is the order of their indices.** -/
theorem Content.index_lt_index_iff (hp : c.at? p = some d) (hq : c.at? q = some d') :
    c.index p < c.index q ↔ p < q := by
  refine ⟨fun h => ?_, Content.index_lt_index hp hq⟩
  rcases lt_trichotomy p q with hpq | rfl | hqp
  · exact hpq
  · exact absurd h (Nat.lt_irrefl _)
  · exact absurd (Content.index_lt_index hq hp hqp) (Nat.lt_asymm h)

/-- **The places at and below a place are the indices of one interval.** -/
theorem Content.isPrefix_iff_index : ∀ {c d d' : Content} {p q : Place}, c.at? p = some d →
    c.at? q = some d' → (p <+: q ↔ c.index p ≤ c.index q ∧ c.index q < c.index p + d.size)
  | c, d, d', [], q, hp, hq => by
    cases Content.at?_nil.symm.trans hp
    simpa using Content.index_lt_size hq
  | c, d, d', j :: p, [], hp, hq => by
    have : c.index [] < c.index (j :: p) := Content.index_lt_index hq hp (List.nil_lt_cons j p)
    simp only [List.prefix_nil, reduceCtorEq, false_iff]
    omega
  | c, d, d', j :: p, k :: q, hp, hq => by
    rcases Nat.lt_trichotomy j k with h | rfl | h
    · have := Content.index_add_size_le_of_lt hp hq h
      simp only [List.cons_prefix_cons, Nat.ne_of_lt h, false_and, false_iff]
      omega
    · obtain ⟨child, hj, hp⟩ := Content.at?_cons_eq_some.mp hp
      obtain ⟨child', hj', hq⟩ := Content.at?_cons_eq_some.mp hq
      cases hj.symm.trans hj'
      rw [List.cons_prefix_cons, Content.index_cons hj, Content.index_cons hj,
        Content.isPrefix_iff_index hp hq]
      omega
    · have := Content.index_add_size_le_of_lt hq hp h
      have := d'.size_pos
      simp only [List.cons_prefix_cons, Nat.ne_of_gt h, false_and, false_iff]
      omega

/-! ## 5. The nodes at a place -/

theorem nodesOfAll_append (parent id : Nat) : ∀ cs ds : List Content,
    nodesOfAll parent id (cs ++ ds) =
      nodesOfAll parent id cs ++ nodesOfAll parent (id + sizeOfAll cs) ds
  | [], ds => by simp [nodesOfAll, sizeOfAll]
  | c :: cs, ds => by
    simp [nodesOfAll, sizeOfAll, nodesOfAll_append parent (id + c.size) cs ds, Nat.add_assoc]

/-- The first node of content placed at `id` below `parent`. -/
def Content.node (parent id : Nat) (c : Content) : Node :=
  ⟨c.kind, some parent, (childIds (id + 1) c.children).toArray, id + c.size⟩

theorem Content.nodes_eq (parent id : Nat) (c : Content) :
    c.nodes parent id = c.node parent id :: nodesOfAll id (id + 1) c.children := by
  cases c <;> simp [Content.nodes, Content.node, Content.kind, Content.children, Content.size,
    childIds, nodesOfAll, Nat.add_assoc]

/-- **Content below other content is laid out as it would be on its own**, at the index of its
    place and below the node that stands above it. -/
theorem Content.nodes_eq_append_at? : ∀ {c d : Content} {p : Place} (parent id : Nat),
    c.at? p = some d → ∃ before behind, c.nodes parent id =
      before ++ d.nodes (if p = [] then parent else id + c.index p.dropLast) (id + c.index p) ++
        behind ∧ before.length = c.index p
  | c, d, [], parent, id, h => by
    cases Content.at?_nil.symm.trans h
    exact ⟨[], [], by simp, by simp⟩
  | c, d, k :: p, parent, id, h => by
    obtain ⟨child, hk, h⟩ := Content.at?_cons_eq_some.mp h
    obtain ⟨before, behind, split, hlen⟩ := Content.nodes_eq_append_at? id
      (id + 1 + sizeOfAll (c.children.take k)) h
    have owner : (if p = [] then id else id + 1 + sizeOfAll (c.children.take k) +
        child.index p.dropLast) = id + c.index (k :: p).dropLast := by
      cases p with
      | nil => simp
      | cons j p => simp [Content.index_cons hk]; omega
    have start : id + 1 + sizeOfAll (c.children.take k) + child.index p = id + c.index (k :: p) := by
      rw [Content.index_cons hk]
      omega
    rw [owner, start] at split
    refine ⟨c.node parent id :: nodesOfAll id (id + 1) (c.children.take k) ++ before,
      behind ++ nodesOfAll id (id + 1 + sizeOfAll (c.children.take k) + child.size)
        (c.children.drop (k + 1)), ?_, ?_⟩
    · rw [Content.nodes_eq, if_neg (List.cons_ne_nil k p)]
      have all := nodesOfAll_append id (id + 1) (c.children.take k) (child :: c.children.drop (k + 1))
      rw [take_append_cons_drop hk, nodesOfAll, split] at all
      rw [all]
      simp
    · rw [Content.index_cons hk, List.cons_append, List.length_cons, List.length_append,
        length_nodesOfAll, hlen]
      omega

end MarkupRules
