import MarkupRules.Document.Element

/-!
# Arenas

A document keeps its nodes in one array, its arena, in document order: the document node at
index 0, the document element at index 1, every other node behind its parent. An index is
therefore a key of the document order, and the nodes below a node are the indices up to its
`stop`.

* `Node` -- what the array holds for one node;
* `Content.place`, `placeAll` -- an arena with content put at its end. A node is there before its
  children are: it enters each child once the child is placed, and learns its `stop` at last;
* `Element.arena` -- the arena of the document with a given document element;
* `Content.nodes`, `nodesOfAll` -- the nodes that content leaves behind, computed from sizes alone;
* `Element.toList_arena` -- both ways give the same nodes.
-/

namespace MarkupRules

/-! ## 1. Nodes -/

/-- The index of a node in its document. -/
abbrev NodeId := Nat

/-- What a node is. Only the document node is a `root`. -/
inductive NodeKind where
  | root
  | element (name : String) (attributes : Attributes)
  | text (content : String)

/-- One node of a document. -/
structure Node where
  kind : NodeKind
  parent : Option NodeId
  children : Array NodeId
  /-- One past the last index of the nodes below this one. -/
  stop : NodeId

/-- The node with one more child at the end. -/
def Node.enter (id : NodeId) (n : Node) : Node :=
  { n with children := n.children.push id }

/-- The node with its nodes below ending at `stop`. -/
def Node.close (stop : NodeId) (n : Node) : Node :=
  { n with stop := stop }

/-! ## 2. Placing content -/

mutual
/-- The nodes `ns` with content placed behind them, below `parent`. -/
def Content.place (parent : NodeId) (ns : Array Node) : Content → Array Node
  | .text value => ns.push ⟨.text value, some parent, #[], ns.size + 1⟩
  | .element name attributes children =>
    let id := ns.size
    let ns := placeAll id (ns.push ⟨.element name attributes, some parent, #[], id + 1⟩) children
    let stop := ns.size
    ns.modify id (Node.close stop)

/-- The nodes `ns` with several pieces of content placed behind them, each of them entered at
    `parent` once it is placed. -/
def placeAll (parent : NodeId) (ns : Array Node) : List Content → Array Node
  | [] => ns
  | c :: rest =>
    let id := ns.size
    let ns := c.place parent ns
    placeAll parent (ns.modify parent (Node.enter id)) rest
end

/-- The nodes of the document with the document element `e`. -/
def Element.arena (e : Element) : Array Node :=
  let ns := placeAll 0 #[⟨.root, none, #[], 1⟩] [e.toContent]
  let stop := ns.size
  ns.modify 0 (Node.close stop)

/-! ## 3. The nodes that content leaves behind -/

/-- The indices of consecutive pieces of content, the first one at `start`. -/
def childIds (start : NodeId) : List Content → List NodeId
  | [] => []
  | c :: rest => start :: childIds (start + c.size) rest

mutual
/-- The nodes that content placed at `id` below `parent` becomes, in document order. -/
def Content.nodes (parent id : NodeId) : Content → List Node
  | .text value => [⟨.text value, some parent, #[], id + 1⟩]
  | .element name attributes children =>
    ⟨.element name attributes, some parent, (childIds (id + 1) children).toArray,
      id + 1 + sizeOfAll children⟩ :: nodesOfAll id (id + 1) children

/-- The nodes that consecutive pieces of content below `parent` become. -/
def nodesOfAll (parent id : NodeId) : List Content → List Node
  | [] => []
  | c :: rest => c.nodes parent id ++ nodesOfAll parent (id + c.size) rest
end

/-- The nodes of the document with the document element `e`, computed from sizes. -/
def Element.nodes (e : Element) : List Node :=
  ⟨.root, none, #[1], 1 + e.toContent.size⟩ :: e.toContent.nodes 0 1

mutual
@[simp] theorem Content.length_nodes (parent id : NodeId) :
    ∀ c : Content, (c.nodes parent id).length = c.size
  | .text _ => by simp [Content.nodes, Content.size]
  | .element _ _ children => by
    simp [Content.nodes, Content.size, length_nodesOfAll id (id + 1) children, Nat.add_comm]

@[simp] theorem length_nodesOfAll (parent id : NodeId) :
    ∀ cs : List Content, (nodesOfAll parent id cs).length = sizeOfAll cs
  | [] => rfl
  | c :: rest => by
    simp [nodesOfAll, sizeOfAll, c.length_nodes parent id,
      length_nodesOfAll parent (id + c.size) rest]
end

/-! ## 4. Placing leaves exactly these nodes behind -/

/-- The node with several more children at the end. -/
def Node.enterAll (ids : List NodeId) (n : Node) : Node :=
  { n with children := n.children ++ ids.toArray }

theorem Node.enterAll_nil : Node.enterAll [] = id := by
  funext n
  simp [Node.enterAll]

theorem Node.enterAll_comp_enter (id : NodeId) (ids : List NodeId) :
    Node.enterAll ids ∘ Node.enter id = Node.enterAll (id :: ids) := by
  funext n
  simp [Node.enterAll, Node.enter]

/-- A change at an index of the left list leaves the right one alone. -/
theorem modify_append_left {α : Type} {xs ys : List α} {i : Nat} (h : i < xs.length) (f : α → α) :
    (xs ++ ys).modify i f = xs.modify i f ++ ys := by
  induction xs generalizing i with
  | nil => cases h
  | cons x xs ih =>
    cases i with
    | zero => simp
    | succ i => simpa using ih (Nat.lt_of_succ_lt_succ h)

/-- A change right behind the left list meets the head of the right one. -/
theorem modify_append_cons {α : Type} {xs : List α} {i : Nat} (h : i = xs.length) (y : α)
    (ys : List α) (f : α → α) : (xs ++ y :: ys).modify i f = xs ++ f y :: ys := by
  subst h
  induction xs with
  | nil => simp
  | cons x xs ih => simpa using ih

mutual
/-- Placing content leaves the nodes before it alone. -/
theorem Content.toList_place (parent : NodeId) (ns : Array Node) :
    ∀ c : Content, (c.place parent ns).toList = ns.toList ++ c.nodes parent ns.size
  | .text value => by simp [Content.place, Content.nodes]
  | .element name attributes children => by
    have placed := toList_placeAll ns.size
      (ns.push ⟨.element name attributes, some parent, #[], ns.size + 1⟩) (by simp) children
    have size : (placeAll ns.size
        (ns.push ⟨.element name attributes, some parent, #[], ns.size + 1⟩) children).size
          = ns.size + 1 + sizeOfAll children := by
      simpa using congrArg List.length placed
    have behind : ns.size = ns.toList.length := Array.length_toList.symm
    rw [Array.toList_push, Array.size_push, modify_append_cons behind] at placed
    rw [Content.place, Array.toList_modify, size, placed, List.append_assoc, List.cons_append,
      modify_append_cons behind]
    simp [Content.nodes, Node.close, Node.enterAll]

/-- Placing several pieces of content only changes the children of the parent, which may still
    lack children of its own and its stop. -/
theorem toList_placeAll (parent : NodeId) (ns : Array Node) (h : parent < ns.size) :
    ∀ cs : List Content, (placeAll parent ns cs).toList =
      ns.toList.modify parent (Node.enterAll (childIds ns.size cs)) ++ nodesOfAll parent ns.size cs
  | [] => by simp [placeAll, childIds, nodesOfAll, Node.enterAll_nil]
  | c :: rest => by
    have placed := c.toList_place parent ns
    have size : (c.place parent ns).size = ns.size + c.size := by
      simpa using congrArg List.length placed
    have within : parent < ns.size + c.size := Nat.lt_of_lt_of_le h (Nat.le_add_right ..)
    rw [placeAll, toList_placeAll parent _ (by simpa [size] using within) rest, Array.toList_modify, placed,
      Array.size_modify, size, List.modify_modify_eq, Node.enterAll_comp_enter,
      modify_append_left (by simpa using h), List.append_assoc]
    rfl
end

/-- **The arena of a document, filled node by node, holds the nodes computed from sizes.** -/
theorem Element.toList_arena (e : Element) : e.arena.toList = e.nodes := by
  have placed := toList_placeAll 0 #[⟨.root, none, #[], 1⟩] (by simp) [e.toContent]
  have size : (placeAll 0 #[⟨.root, none, #[], 1⟩] [e.toContent]).size = 1 + e.toContent.size := by
    simpa [nodesOfAll, sizeOfAll, Nat.add_comm] using congrArg List.length placed
  rw [Element.arena, Array.toList_modify, size, placed]
  simp [Element.nodes, nodesOfAll, childIds, Node.enterAll, Node.close]

/-! ## 5. Parents stand before their children -/

/-- Every node of a list placed from `id` on has a parent before it. -/
def ParentsBefore (id : Nat) (ns : List Node) : Prop :=
  ∀ i n, ns[i]? = some n → ∀ p : Nat, n.parent = some p → p < id + i

theorem ParentsBefore.append {id : Nat} {xs ys : List Node} (hx : ParentsBefore id xs)
    (hy : ParentsBefore (id + xs.length) ys) : ParentsBefore id (xs ++ ys) := by
  intro i n h p hp
  rcases Nat.lt_or_ge i xs.length with hi | hi
  · exact hx i n (by rwa [List.getElem?_append_left hi] at h) p hp
  · rw [List.getElem?_append_right hi] at h
    have := hy _ n h p hp
    omega

theorem ParentsBefore.cons {id : Nat} {x : Node} {ys : List Node}
    (hx : ∀ p : Nat, x.parent = some p → p < id) (hy : ParentsBefore (id + 1) ys) :
    ParentsBefore id (x :: ys) := by
  intro i n h p hp
  cases i with
  | zero =>
    simp only [List.getElem?_cons_zero, Option.some.injEq] at h
    exact hx p (h ▸ hp)
  | succ i =>
    have := hy i n (by simpa using h) p hp
    omega

mutual
theorem Content.parentsBefore {parent id : NodeId} (h : parent < id) :
    ∀ c : Content, ParentsBefore id (c.nodes parent id)
  | .text _ => by
    rw [Content.nodes]
    refine .cons (fun p hp => ?_) (fun i n hi => by simp at hi)
    cases hp; exact h
  | .element _ _ children => by
    rw [Content.nodes]
    refine .cons (fun p hp => ?_) (parentsBefore_nodesOfAll (Nat.lt_succ_self id) children)
    cases hp; exact h

theorem parentsBefore_nodesOfAll {parent id : NodeId} (h : parent < id) :
    ∀ cs : List Content, ParentsBefore id (nodesOfAll parent id cs)
  | [] => fun i n hi => by simp [nodesOfAll] at hi
  | c :: rest => by
    rw [nodesOfAll]
    refine .append (Content.parentsBefore h c) ?_
    rw [c.length_nodes parent id]
    exact parentsBefore_nodesOfAll (Nat.lt_of_lt_of_le h (Nat.le_add_right ..)) rest
end

theorem Element.parentsBefore (e : Element) : ParentsBefore 0 e.nodes :=
  .cons (fun p hp => by cases hp) (Content.parentsBefore (Nat.zero_lt_one) e.toContent)

end MarkupRules
