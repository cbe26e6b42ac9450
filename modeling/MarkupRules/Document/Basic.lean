import MarkupRules.Document.Arena

/-!
# Documents

A document is an arena that was filled from one element, and what can be asked about its nodes:

* `Document`, `Document.ofElement` -- the document, and the only way to build one;
* `Document.parent?`, `children`, `descendants`, `ancestors`, `followingSiblings`,
  `precedingSiblings` -- the relations between nodes;
* `Document.stringValue`, `Document.location` -- the text below a node and the way to it.

A look-up of an index that is no node answers like a node without parent, children or text.
-/

namespace MarkupRules

/-! ## 1. Documents -/

/-- A document: an arena that some document element fills. -/
structure Document where
  nodes : Array Node
  built : ∃ e : Element, nodes = e.arena

/-- The document whose document element is `e`. -/
def Document.ofElement (e : Element) : Document where
  nodes := e.arena
  built := ⟨e, rfl⟩

namespace Document

variable (doc : Document)

/-- The number of nodes, the document node and the texts among them. -/
def size : Nat :=
  doc.nodes.size

/-- Whether the document has nothing below the document node. -/
def isEmpty : Bool :=
  doc.size ≤ 1

/-- The document node. -/
def root (_doc : Document) : NodeId :=
  0

/-- Whether `id` is a node of the document. -/
def contains (id : NodeId) : Bool :=
  id < doc.size

/-- The node at an index. -/
def node? (id : NodeId) : Option Node :=
  doc.nodes[id]?

/-! ## 2. One node -/

/-- What the node is. -/
def kind? (id : NodeId) : Option NodeKind :=
  (doc.node? id).map (·.kind)

/-- Whether the node is an element. -/
def isElement (id : NodeId) : Bool :=
  match doc.kind? id with
  | some (.element ..) => true
  | _ => false

/-- Whether the node is a text. -/
def isText (id : NodeId) : Bool :=
  match doc.kind? id with
  | some (.text _) => true
  | _ => false

/-- The name of an element. Other nodes have none. -/
def name? (id : NodeId) : Option String :=
  match doc.kind? id with
  | some (.element name _) => some name
  | _ => none

/-- The content of a text. Other nodes have none. -/
def text? (id : NodeId) : Option String :=
  match doc.kind? id with
  | some (.text content) => some content
  | _ => none

/-- The attributes of a node in ascending order of their names. Only elements have any. -/
def attributes (id : NodeId) : List (String × String) :=
  match doc.kind? id with
  | some (.element _ attributes) => attributes.entries
  | _ => []

/-- The value of an attribute of a node. -/
def attribute? (id : NodeId) (name : String) : Option String :=
  match doc.kind? id with
  | some (.element _ attributes) => attributes.get? name
  | _ => none

/-! ## 3. Relations between nodes -/

/-- The parent of a node. -/
def parent? (id : NodeId) : Option NodeId :=
  (doc.node? id).bind (·.parent)

/-- A parent stands before its children. -/
theorem lt_of_parent? {id p : NodeId} (h : doc.parent? id = some p) : p < id := by
  obtain ⟨n, hn, hp⟩ := Option.bind_eq_some_iff.mp h
  obtain ⟨e, built⟩ := doc.built
  rw [node?, built, ← Array.getElem?_toList, e.toList_arena] at hn
  simpa using e.parentsBefore id n hn p hp

/-- The children of a node in document order. -/
def children (id : NodeId) : List NodeId :=
  ((doc.node? id).map (·.children.toList)).getD []

/-- The children that are elements. -/
def elementChildren (id : NodeId) : List NodeId :=
  (doc.children id).filter doc.isElement

/-- One past the last index of the nodes below a node. -/
def stop (id : NodeId) : NodeId :=
  ((doc.node? id).map (·.stop)).getD (id + 1)

/-- The nodes below a node in document order. -/
def descendants (id : NodeId) : List NodeId :=
  List.range' (id + 1) (doc.stop id - (id + 1))

/-- The nodes above a node, nearest first. -/
def ancestors (id : NodeId) : List NodeId :=
  match h : doc.parent? id with
  | none => []
  | some p =>
    have : p < id := doc.lt_of_parent? h
    p :: ancestors p
termination_by id

/-- The node and its siblings in document order; nothing for a node without parent. -/
def siblings (id : NodeId) : List NodeId :=
  match doc.parent? id with
  | none => []
  | some p => doc.children p

/-- The siblings behind a node in document order. -/
def followingSiblings (id : NodeId) : List NodeId :=
  ((doc.siblings id).dropWhile (· != id)).drop 1

/-- The siblings before a node, nearest first. -/
def precedingSiblings (id : NodeId) : List NodeId :=
  ((doc.siblings id).takeWhile (· != id)).reverse

/-- The element below the document node. -/
def documentElement? : Option NodeId :=
  (doc.children doc.root).find? doc.isElement

/-! ## 4. Text and location -/

/-- The content of a text; the texts below any other node, joined in document order. -/
def stringValue (id : NodeId) : String :=
  match doc.text? id with
  | some content => content
  | none => String.join ((doc.descendants id).filterMap doc.text?)

/-- The step that leads from its parent to a node: its name, or `text()`, and its place among the
    siblings that share it. The document node needs no step. -/
def locationStep? (id : NodeId) : Option String :=
  match doc.kind? id with
  | some (.element name _) =>
    let before := (doc.precedingSiblings id).filter fun s => doc.name? s == some name
    some (name ++ "[" ++ toString (before.length + 1) ++ "]")
  | some (.text _) =>
    let before := (doc.precedingSiblings id).filter doc.isText
    some ("text()[" ++ toString (before.length + 1) ++ "]")
  | _ => none

/-- The steps that lead from the document node to a node. -/
def locationSteps (id : NodeId) : List String :=
  ((id :: doc.ancestors id).filterMap doc.locationStep?).reverse

/-- The way from the document node to a node, such as `/article[1]/front[1]/text()[2]`. -/
def location (id : NodeId) : String :=
  match doc.locationSteps id with
  | [] => "/"
  | steps => "/" ++ "/".intercalate steps

end Document

end MarkupRules
