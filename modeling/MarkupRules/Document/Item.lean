import MarkupRules.Document.Basic
import MarkupRules.Text.Blank

/-!
# Items

A path expression selects items: nodes, and attributes of elements. An attribute has no index of
its own and is known by its owner and its name.

* `Item.Before` -- the document order: an element, its attributes by name, then its content;
* `inDocumentOrder` -- a list of items put in that order, each item once;
* `Item.stringValue`, `Item.isBlank`, `Item.location` -- what a rule may ask about an item.
-/

namespace MarkupRules

/-- A node of a document, or an attribute of one of its elements. -/
inductive Item where
  | node (id : NodeId)
  | attribute (owner : NodeId) (name : String)
  deriving DecidableEq, Repr

/-- The node itself, or the owner of the attribute. -/
def Item.nodeId : Item → NodeId
  | .node id => id
  | .attribute owner _ => owner

/-- The name of an attribute. -/
def Item.attributeName? : Item → Option String
  | .node _ => none
  | .attribute _ name => some name

/-- Whether the item can be looked at in the document: its node is one of the document's. -/
def Item.within (doc : Document) (i : Item) : Bool :=
  doc.contains i.nodeId

/-! ## 1. Document order -/

/-- The document order. An attribute follows its owner and the smaller names, and comes before
    whatever stands below the owner. -/
def Item.Before : Item → Item → Prop
  | .node a, .node b => a < b
  | .node a, .attribute b _ => a ≤ b
  | .attribute a _, .node b => a < b
  | .attribute a n, .attribute b m => a < b ∨ a = b ∧ n < m

instance : (a b : Item) → Decidable (a.Before b)
  | .node a, .node b => inferInstanceAs (Decidable (a < b))
  | .node a, .attribute b _ => inferInstanceAs (Decidable (a ≤ b))
  | .attribute a _, .node b => inferInstanceAs (Decidable (a < b))
  | .attribute a n, .attribute b m => inferInstanceAs (Decidable (a < b ∨ a = b ∧ n < m))

/-- The list with an item put before the first greater one, unless it is there already. -/
def insertItem (i : Item) : List Item → List Item
  | [] => [i]
  | j :: rest =>
    if i.Before j then i :: j :: rest
    else if i = j then j :: rest
    else j :: insertItem i rest

/-- The items in document order, each one once. -/
def inDocumentOrder (is : List Item) : List Item :=
  is.foldr insertItem []

theorem mem_insertItem {i j : Item} : ∀ {is : List Item}, j ∈ insertItem i is ↔ j = i ∨ j ∈ is
  | [] => by simp [insertItem]
  | k :: rest => by
    unfold insertItem
    split
    · exact List.mem_cons
    · split
      · rename_i _ heq
        subst heq
        simp
      · rw [List.mem_cons, mem_insertItem, List.mem_cons]
        constructor
        · rintro (h | h | h) <;> simp [h]
        · rintro (h | h | h) <;> simp [h]

/-- **Putting items in document order neither loses nor invents one.** -/
theorem mem_inDocumentOrder {j : Item} : ∀ {is : List Item}, j ∈ inDocumentOrder is ↔ j ∈ is
  | [] => Iff.rfl
  | i :: rest => by
    rw [inDocumentOrder, List.foldr_cons, mem_insertItem, List.mem_cons]
    exact or_congr_right mem_inDocumentOrder

/-! ## 2. What a rule may ask -/

/-- The value of an attribute, empty if there is no such attribute; the text of a node. -/
def Item.stringValue (doc : Document) : Item → String
  | .node id => doc.stringValue id
  | .attribute owner name => (doc.attribute? owner name).getD ""

/-- Whether the item carries no content. An attribute or a text is blank if its value is; an
    element, if it has neither attributes nor child elements and its text is blank. The document
    node never is. -/
def Item.isBlank (doc : Document) : Item → Bool
  | .attribute owner name => Text.isBlankText ((doc.attribute? owner name).getD "")
  | .node id =>
    match doc.kind? id with
    | some (.text content) => Text.isBlankText content
    | some (.element _ attributes) =>
      attributes.entries.isEmpty && (doc.elementChildren id).isEmpty &&
        Text.isBlankText (doc.stringValue id)
    | _ => false

/-- The way from the document node to the item; an attribute is a last step `@name`. -/
def Item.location (doc : Document) : Item → String
  | .node id => doc.location id
  | .attribute owner name =>
    let way := doc.location owner
    if way == "/" then "/@" ++ name else way ++ "/@" ++ name

end MarkupRules
