import MarkupRules.Document.Item
import MarkupRules.Path.Expr
import MarkupRules.Text.Integer

/-!
# Selecting items

What a compiled expression selects from a context item:

* `Axis.items` -- the items along an axis, nearest first;
* `NodeTest.accepts` -- the test of one item;
* `Step.select`, `Branch.select`, `selectUnion`, `Filter.holds` -- the meaning of an expression,
  by recursion on it;
* `Expr.select` -- the selected items in document order, each one once;
* `Expr.select?` -- the same for a context that may not be in the document.

A filter sees the rank of an item among those that passed the filters before it, counted along
the axis, and how many these are. After each step the items are put in document order, so ranks
never cross steps; a union of a single branch is in order already.
-/

namespace MarkupRules.Path

/-! ## 1. Axes and tests -/

/-- The items along an axis, in the order in which ranks count them. From an attribute only the
    axes that look at itself or upwards lead anywhere. -/
def Axis.items (doc : Document) (axis : Axis) : Item → List Item
  | .attribute owner name =>
    match axis with
    | .self => [.attribute owner name]
    | .parent => [.node owner]
    | .ancestor => .node owner :: (doc.ancestors owner).map .node
    | .ancestorOrSelf => .attribute owner name :: .node owner :: (doc.ancestors owner).map .node
    | _ => []
  | .node id =>
    match axis with
    | .self => [.node id]
    | .child => (doc.children id).map .node
    | .descendant => (doc.descendants id).map .node
    | .descendantOrSelf => .node id :: (doc.descendants id).map .node
    | .parent => (doc.parent? id).toList.map .node
    | .ancestor => (doc.ancestors id).map .node
    | .ancestorOrSelf => .node id :: (doc.ancestors id).map .node
    | .followingSibling => (doc.followingSiblings id).map .node
    | .precedingSibling => (doc.precedingSiblings id).map .node
    | .attribute => (doc.attributes id).map fun (name, _) => .attribute id name

/-- Whether an item met on an axis passes a test. A name test looks at the name of an element or
    an attribute. On the attribute axis no node passes. -/
def NodeTest.accepts (doc : Document) (axis : Axis) (test : NodeTest) : Item → Bool
  | .attribute _ own =>
    match test with
    | .name wanted => wanted == own
    | .wildcard | .anyNode => true
    | .text => false
  | .node id =>
    axis != .attribute &&
      match test with
      | .name wanted => doc.name? id == some wanted
      | .wildcard => doc.isElement id
      | .text => doc.isText id
      | .anyNode => true

/-- Whether the value of an item compares with the operand as asked. A value that is no integer
    compares with no number, not even as different. -/
def Comparison.holdsOf (comparison : Comparison) (value : String) : Operand → Bool
  | .text literal => comparison.accepts (compare value literal)
  | .number n =>
    match Text.parseInteger value with
    | some m => comparison.accepts (compare m n)
    | none => false

/-- The members of a list that pass a test of their rank and themselves, the first rank being
    `rank`. -/
def keepRanked {α : Type} (p : Nat → α → Bool) (rank : Nat) : List α → List α
  | [] => []
  | a :: rest =>
    if p rank a then a :: keepRanked p (rank + 1) rest else keepRanked p (rank + 1) rest

/-- The items that the branches of a union select, brought together: in document order, which a
    single branch keeps by itself. -/
def unite (union : List Branch) (is : List Item) : List Item :=
  if 1 < union.length then inDocumentOrder is else is

/-! ## 2. The meaning of an expression -/

mutual
/-- Whether the item passes the filter at the given rank among `size` items. -/
def Filter.holds (doc : Document) : Filter → Item → Nat → Nat → Bool
  | .or left right, i, rank, size => left.holds doc i rank size || right.holds doc i rank size
  | .and left right, i, rank, size => left.holds doc i rank size && right.holds doc i rank size
  | .not inner, i, rank, size => !inner.holds doc i rank size
  | .exists union, i, _, _ => !(unite union (selectEach doc union i)).isEmpty
  | .compare union comparison operand, i, _, _ =>
    (unite union (selectEach doc union i)).any fun j =>
      comparison.holdsOf (j.stringValue doc) operand
  | .count union comparison value, i, _, _ =>
    comparison.accepts (compare ((unite union (selectEach doc union i)).length : Int) value)
  | .position wanted, _, rank, size => rank == wanted && wanted ≤ size
termination_by structural f => f

/-- The items that one step leads to from an item, in the order of its axis. -/
def Step.select (doc : Document) : Step → Item → List Item
  | ⟨axis, test, filters⟩, i =>
    keepAll doc filters ((axis.items doc i).filter (test.accepts doc axis))

/-- The items that pass the filters in turn. -/
def keepAll (doc : Document) : List Filter → List Item → List Item
  | [], is => is
  | f :: rest, is =>
    keepAll doc rest (keepRanked (fun rank i => f.holds doc i rank is.length) 1 is)

/-- The items that steps in a row lead to from the given items. No step is taken from nowhere. -/
def walk (doc : Document) : List Step → List Item → List Item
  | [], is => is
  | s :: rest, is =>
    let next := inDocumentOrder (is.flatMap (s.select doc))
    if next.isEmpty then next else walk doc rest next

/-- The items that a branch leads to. -/
def Branch.select (doc : Document) : Branch → Item → List Item
  | ⟨absolute, steps⟩, i => walk doc steps [if absolute then .node doc.root else i]

/-- The items that the branches lead to, one branch after the other. -/
def selectEach (doc : Document) : List Branch → Item → List Item
  | [], _ => []
  | b :: rest, i => b.select doc i ++ selectEach doc rest i
end

/-- The items that a union selects, in document order. -/
def selectUnion (doc : Document) (union : List Branch) (i : Item) : List Item :=
  unite union (selectEach doc union i)

/-- The items that an expression selects from a context, in document order. -/
def Expr.select (e : Expr) (doc : Document) (context : Item) : List Item :=
  selectUnion doc e.union context

/-- The items that an expression selects from the document node. -/
def Expr.selectFromRoot (e : Expr) (doc : Document) : List Item :=
  e.select doc (.node doc.root)

/-! ## 3. Contexts from outside -/

/-- Whether the expression looks at its context at all: a relative branch does. -/
def Expr.looksAtContext (e : Expr) : Bool :=
  !e.isAbsolute

/-- The items selected from a context that may not be in the document. There is no answer if the
    expression would have to look at a node that does not exist. -/
def Expr.select? (e : Expr) (doc : Document) (context : Item) : Option (List Item) :=
  if e.looksAtContext && !context.within doc then none else some (e.select doc context)

end MarkupRules.Path
