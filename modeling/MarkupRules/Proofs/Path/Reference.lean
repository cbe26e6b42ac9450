import MarkupRules.Path.Select
import MarkupRules.Proofs.Document.Relations
import Mathlib.Data.Set.Card
import Mathlib.Logic.Relation

/-!
# What an expression means in a tree

The meaning of path expressions, said about the source of a document alone: without indices,
without lists, without sorting.

* `Spot` -- a node of a tree by its place, or an attribute by its owner's place and its name;
* `Child`, `Parent`, `HasAttribute`, `Follows` -- the relations between spots of a tree;
* `Axis.Leads` -- the axes in terms of these relations;
* `Axis.rank` -- how many spots of a set are at least as near along an axis as a given one;
* `Step.Leads`, `Branch.Leads`, `Filter.Meets` -- the meaning of an expression, by recursion on it;
* `Item.spot?` -- the spot that an item of the document stands for.

A set of spots takes the place of each list of items, and the number of its members that of the
length.
-/

namespace MarkupRules

/-! ## 1. Spots -/

/-- A node of a tree, or an attribute of one of its elements. -/
inductive Spot where
  | node (place : Place)
  | attribute (owner : Place) (name : String)

/-- The place of the node, or of the owner of the attribute. -/
def Spot.place : Spot → Place
  | .node p => p
  | .attribute owner _ => owner

/-- The document order, told from places: a place comes before the places below it and before
    those below later children, and attributes follow their owner by name. -/
def Spot.Before : Spot → Spot → Prop
  | .node p, .node q => p < q
  | .node p, .attribute q _ => p < q ∨ p = q
  | .attribute p _, .node q => p < q
  | .attribute p n, .attribute q m => p < q ∨ p = q ∧ n < m

mutual
/-- The texts in a piece of content, joined. -/
def Content.stringValue : Content → String
  | .text value => value
  | .element _ _ children => stringValueOfAll children

/-- The texts in several pieces of content, joined. -/
def stringValueOfAll : List Content → String
  | [] => ""
  | c :: rest => c.stringValue ++ stringValueOfAll rest
end

/-- The text of the content at a place, or the value of an attribute; empty if there is no such
    attribute. -/
def Spot.stringValue (t : Content) : Spot → String
  | .node p => ((t.at? p).map Content.stringValue).getD ""
  | .attribute owner name => ((t.at? owner).bind (·.attributes.lookup name)).getD ""

/-- The spot of an item, the nodes being numbered by their rank among all places. -/
def Item.spot? (t : Content) : Item → Option Spot
  | .node id => t.places[id]?.map .node
  | .attribute owner name => t.places[owner]?.map (.attribute · name)

namespace Path

/-! ## 2. Relations in a tree -/

/-- A node leads to the nodes right below it. -/
inductive Child (t : Content) : Spot → Spot → Prop
  | mk {p : Place} {k : Nat} {c : Content} :
      t.at? (p ++ [k]) = some c → Child t (.node p) (.node (p ++ [k]))

/-- A node leads to the node right above it, and an attribute to its owner. -/
inductive Parent (t : Content) : Spot → Spot → Prop
  | node {s u : Spot} : Child t u s → Parent t s u
  | attribute {p : Place} {name : String} : Parent t (.attribute p name) (.node p)

/-- An element leads to its attributes. -/
inductive HasAttribute (t : Content) : Spot → Spot → Prop
  | mk {p : Place} {c : Content} {a : String × String} :
      t.at? p = some c → a ∈ c.attributes → HasAttribute t (.node p) (.attribute p a.1)

/-- A node leads to the later children of its parent. -/
inductive Follows (t : Content) : Spot → Spot → Prop
  | mk {p : Place} {j k : Nat} {c d : Content} :
      t.at? (p ++ [j]) = some c → t.at? (p ++ [k]) = some d → j < k →
        Follows t (.node (p ++ [j])) (.node (p ++ [k]))

/-- Whether an axis leads from one spot to another. From an attribute only the axes that look at
    itself or upwards lead anywhere. -/
def Axis.Leads (t : Content) : Axis → Spot → Spot → Prop
  | .self, s, u => u = s
  | .child, s, u => Child t s u
  | .descendant, s, u => Relation.TransGen (Child t) s u
  | .descendantOrSelf, s, u => (∃ p, s = .node p) ∧ Relation.ReflTransGen (Child t) s u
  | .parent, s, u => Parent t s u
  | .ancestor, s, u => Relation.TransGen (Parent t) s u
  | .ancestorOrSelf, s, u => Relation.ReflTransGen (Parent t) s u
  | .followingSibling, s, u => Follows t s u
  | .precedingSibling, s, u => Follows t u s
  | .attribute, s, u => HasAttribute t s u

/-- Whether the axis counts against the document order. -/
def Axis.isReverse : Axis → Bool
  | .parent | .ancestor | .ancestorOrSelf | .precedingSibling => true
  | _ => false

/-- The document order as the axis counts: turned around on a reverse axis. -/
def Axis.orient {α : Type} (axis : Axis) (before : α → α → Prop) (a b : α) : Prop :=
  if axis.isReverse then before b a else before a b

/-- The rank of a spot in a set, counted from 1 along an axis. -/
noncomputable def Axis.rank (axis : Axis) (among : Set Spot) (s : Spot) : Nat :=
  {u | u ∈ among ∧ axis.orient Spot.Before u s}.ncard + 1

/-- Whether a spot passes a test. The document node has no name. -/
def NodeTest.Passes (t : Content) : NodeTest → Spot → Prop
  | .name wanted, .node p => p ≠ [] ∧ ∃ as cs, t.at? p = some (.element wanted as cs)
  | .wildcard, .node p => p ≠ [] ∧ ∃ name as cs, t.at? p = some (.element name as cs)
  | .text, .node p => ∃ value, t.at? p = some (.text value)
  | .anyNode, .node _ => True
  | .name wanted, .attribute _ own => own = wanted
  | .wildcard, .attribute .. => True
  | .text, .attribute .. => False
  | .anyNode, .attribute .. => True

/-! ## 3. The meaning of an expression -/

mutual
/-- Whether a spot of the given rank meets the filter. -/
def Filter.Meets (t : Content) : Filter → Spot → Nat → Prop
  | .or left right, s, rank => left.Meets t s rank ∨ right.Meets t s rank
  | .and left right, s, rank => left.Meets t s rank ∧ right.Meets t s rank
  | .not inner, s, rank => ¬ inner.Meets t s rank
  | .exists union, s, _ => ∃ u, AnyLeads t union s u
  | .compare union comparison operand, s, _ =>
    ∃ u, AnyLeads t union s u ∧ comparison.holdsOf (u.stringValue t) operand = true
  | .count union comparison value, s, _ =>
    comparison.accepts (compare ({u | AnyLeads t union s u}.ncard : Int) value) = true
  | .position wanted, _, rank => rank = wanted
termination_by structural f => f

/-- Whether the step leads from one spot to another: along its axis, past its test and through
    its filters. -/
def Step.Leads (t : Content) : Step → Spot → Spot → Prop
  | ⟨axis, test, filters⟩, s, u =>
    Survives t axis filters {v | axis.Leads t s v ∧ test.Passes t v} u

/-- Whether a spot of the set survives the filters in turn. Each filter sees the rank among those
    that survived the filters before it. -/
def Survives (t : Content) (axis : Axis) : List Filter → Set Spot → Spot → Prop
  | [], among, u => u ∈ among
  | f :: rest, among, u =>
    Survives t axis rest {v | v ∈ among ∧ f.Meets t v (axis.rank among v)} u

/-- Whether steps in a row lead from one spot to another. -/
def AllLead (t : Content) : List Step → Spot → Spot → Prop
  | [], s, u => u = s
  | step :: rest, s, u => ∃ v, step.Leads t s v ∧ AllLead t rest v u

/-- Whether the branch leads to a spot, from the document node if absolute and from the given
    spot otherwise. -/
def Branch.Leads (t : Content) : Branch → Spot → Spot → Prop
  | ⟨absolute, steps⟩, s, u => AllLead t steps (if absolute then .node [] else s) u

/-- Whether one of the branches leads from one spot to another. -/
def AnyLeads (t : Content) : List Branch → Spot → Spot → Prop
  | [], _, _ => False
  | b :: rest, s, u => b.Leads t s u ∨ AnyLeads t rest s u
end

/-- A union leads where one of its branches does. -/
theorem anyLeads_iff {t : Content} {s u : Spot} {union : List Branch} :
    AnyLeads t union s u ↔ ∃ b ∈ union, b.Leads t s u := by
  induction union with
  | nil => simp [AnyLeads]
  | cons b rest ih => simp [AnyLeads, ih]

end Path

end MarkupRules
