/-!
# Path expressions

A path expression selects items of a document. Its compiled form is a tree:

* `Expr` -- the source text and the branches of a union;
* `Branch` -- steps taken one after the other, from the document node or from the context;
* `Step` -- an axis, a test of what stands on it, and filters;
* `Filter` -- a condition on an item and on its rank among the items that reached the filter;
* `Expr.anchored` -- the expression as a pattern that matches anywhere in the document.
-/

namespace MarkupRules.Path

/-! ## 1. Steps without filters -/

/-- The direction of a step. -/
inductive Axis where
  | self
  | child
  | descendant
  | descendantOrSelf
  | parent
  | ancestor
  | ancestorOrSelf
  | followingSibling
  | precedingSibling
  | attribute
  deriving DecidableEq, Repr

/-- The axes by the names they have in an expression. -/
def Axis.names : List (String × Axis) := [
  ("self", .self),
  ("child", .child),
  ("descendant", .descendant),
  ("descendant-or-self", .descendantOrSelf),
  ("parent", .parent),
  ("ancestor", .ancestor),
  ("ancestor-or-self", .ancestorOrSelf),
  ("following-sibling", .followingSibling),
  ("preceding-sibling", .precedingSibling),
  ("attribute", .attribute)]

/-- The axis of a name. -/
def Axis.ofName? (name : String) : Option Axis :=
  Axis.names.lookup name

/-- What an item has to be. -/
inductive NodeTest where
  | name (name : String)
  | wildcard
  | text
  | anyNode
  deriving DecidableEq, Repr

/-- How two values are compared. -/
inductive Comparison where
  | eq
  | ne
  | lt
  | le
  | gt
  | ge
  deriving DecidableEq, Repr

/-- Whether the comparison asks for no order. -/
def Comparison.isEquality : Comparison → Bool
  | .eq | .ne => true
  | _ => false

/-- Whether the comparison holds of two values in the given order. -/
def Comparison.accepts : Comparison → Ordering → Bool
  | .eq, o => o.isEq
  | .ne, o => o.isNe
  | .lt, o => o.isLT
  | .le, o => o.isLE
  | .gt, o => o.isGT
  | .ge, o => o.isGE

/-- What the value of an item is compared with. -/
inductive Operand where
  | text (value : String)
  | number (value : Int)
  deriving DecidableEq, Repr

/-! ## 2. Filters, steps, branches -/

mutual
/-- A condition on an item and on its rank. -/
inductive Filter where
  | or (left right : Filter)
  | and (left right : Filter)
  | not (inner : Filter)
  /-- The union selects something from the item. -/
  | exists (union : List Branch)
  /-- The union selects an item whose value compares as asked. -/
  | compare (union : List Branch) (comparison : Comparison) (operand : Operand)
  /-- The number of selected items compares as asked. -/
  | count (union : List Branch) (comparison : Comparison) (value : Int)
  /-- The item has this rank, counted from 1. -/
  | position (rank : Nat)

/-- One step: along an axis, past a test, through the filters in turn. -/
structure Step where
  axis : Axis
  test : NodeTest
  filters : List Filter

/-- Steps in a row, from the document node if absolute and from the context otherwise. -/
structure Branch where
  absolute : Bool
  steps : List Step
end

/-- The step that `//` stands for. -/
def Step.anywhere : Step :=
  ⟨.descendantOrSelf, .anyNode, []⟩

/-- The step that `.` stands for. -/
def Step.here : Step :=
  ⟨.self, .anyNode, []⟩

/-- The step that `..` stands for. -/
def Step.up : Step :=
  ⟨.parent, .anyNode, []⟩

/-! ## 3. Expressions -/

/-- A compiled path expression: its source and the branches of its union. -/
structure Expr where
  source : String
  union : List Branch

/-- Whether every branch starts at the document node. -/
def Expr.isAbsolute (e : Expr) : Bool :=
  e.union.all (·.absolute)

/-- The branch as a pattern: a relative one starts anywhere below the document node. -/
def Branch.anchored (b : Branch) : Branch :=
  if b.absolute then b else ⟨true, Step.anywhere :: b.steps⟩

/-- The expression as a pattern that matches anywhere in the document. The source stays. -/
def Expr.anchored (e : Expr) : Expr :=
  { e with union := e.union.map Branch.anchored }

theorem Branch.anchored_eq_self_iff {b : Branch} : b.anchored = b ↔ b.absolute = true := by
  obtain ⟨absolute, steps⟩ := b
  cases absolute <;> simp [Branch.anchored]

/-- **Anchoring leaves an expression alone exactly if it is absolute.** -/
theorem Expr.anchored_eq_self_iff {e : Expr} : e.anchored = e ↔ e.isAbsolute = true := by
  obtain ⟨source, union⟩ := e
  simp only [Expr.anchored, Expr.isAbsolute, Expr.mk.injEq, true_and, List.all_eq_true]
  induction union with
  | nil => simp
  | cons b rest ih => simp [Branch.anchored_eq_self_iff, ih]

instance (e : Expr) : Decidable (e.anchored = e) :=
  decidable_of_iff _ Expr.anchored_eq_self_iff.symm

end MarkupRules.Path
