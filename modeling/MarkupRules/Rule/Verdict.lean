import MarkupRules.Path.Select
import MarkupRules.Rule.Basic

/-!
# Verdicts

What a predicate says about an item:

* `Scope` -- a document, and whether blank items count as missing;
* `Predicate.holds` -- the truth of a predicate, a conditional being an implication;
* `Verdict`, `Predicate.verdict` -- the same with a third outcome: a conditional at the top whose
  condition is false passes without having tested anything;
* `Predicate.verdict?` -- the verdict about an item that may not be in the document.
-/

namespace MarkupRules

/-! ## 1. What paths select in a scope -/

/-- A document, and how blank items count in it. -/
structure Scope where
  doc : Document
  blankIsAbsent : Bool

namespace Scope

/-- The items that a path selects. -/
def items (s : Scope) (context : Item) (path : Path.Expr) : List Item :=
  path.select s.doc context

/-- The items that a path selects and that count as present. -/
def presentItems (s : Scope) (context : Item) (path : Path.Expr) : List Item :=
  if s.blankIsAbsent then (s.items context path).filter fun i => !i.isBlank s.doc
  else s.items context path

/-- The values of the items that count as present. -/
def values (s : Scope) (context : Item) (path : Path.Expr) : List String :=
  (s.presentItems context path).map fun i => i.stringValue s.doc

/-- The integers that the values declare: none if there is no value or one of them is no
    integer. The first one stands apart. -/
def integers (s : Scope) (context : Item) (path : Path.Expr) : Option (Int × List Int) :=
  match (s.values context path).mapM Text.parseInteger with
  | some (n :: rest) => some (n, rest)
  | _ => none

end Scope

/-- The number of places from the first to the last one, both counted; two zeros stand for an
    empty span. There is no answer if the difference or the number leaves the signed 64-bit
    range. -/
def spanLength (first last : Int) : Option Int :=
  if first = 0 ∧ last = 0 then some 0
  else (Text.inRange? (last - first)).bind fun d => Text.inRange? (d + 1)

/-! ## 2. The truth of a predicate -/

mutual
/-- Whether the predicate holds of the context. -/
def Predicate.holds (s : Scope) (context : Item) : Predicate → Bool
  | .present path => !(s.presentItems context path).isEmpty
  | .absent path => (s.presentItems context path).isEmpty
  | .not inner => !inner.holds s context
  | .all parts => allHold s context parts
  | .any parts => anyHolds s context parts
  | .xor left right => left.holds s context != right.holds s context
  | .count path condition => condition.holds (s.items context path).length
  | .compare path value quantifier mode allowAbsent =>
    let values := s.values context path
    if values.isEmpty then allowAbsent
    else match quantifier with
      | .any => values.any fun v => value.accepts mode v
      | .all => values.all fun v => value.accepts mode v
  | .exactlyOneOf path domain mode =>
    ((s.values context path).filter fun v => domain.any (mode.agree v)).length == 1
  | .countEquals declared counted =>
    match s.integers context declared with
    | none => false
    | some (n, more) => (n :: more).all (· == ((s.items context counted).length : Int))
  | .spanEquals declared first last =>
    match s.integers context declared, s.integers context first, s.integers context last with
    | some (n, more), some (first, _), some (last, _) =>
      match spanLength first last with
      | none => false
      | some expected => (n :: more).all (· == expected)
    | _, _, _ => false
  | .when condition consequence => !condition.holds s context || consequence.holds s context
termination_by structural p => p

/-- Whether all of the predicates hold. -/
def allHold (s : Scope) (context : Item) : List Predicate → Bool
  | [] => true
  | p :: rest => p.holds s context && allHold s context rest

/-- Whether one of the predicates holds. -/
def anyHolds (s : Scope) (context : Item) : List Predicate → Bool
  | [] => false
  | p :: rest => p.holds s context || anyHolds s context rest
end

/-! ## 3. Verdicts -/

/-- The outcome of a test. -/
inductive Verdict where
  | pass
  | fail
  /-- Passed without having tested anything. -/
  | vacuous
  deriving DecidableEq, Repr

/-- Whether the outcome counts as passed. -/
def Verdict.passed : Verdict → Bool
  | .fail => false
  | _ => true

/-- The outcome that a truth value is. -/
def Verdict.ofBool (holds : Bool) : Verdict :=
  if holds then .pass else .fail

/-- The verdict of a predicate on the context. -/
def Predicate.verdict (s : Scope) (context : Item) : Predicate → Verdict
  | .when condition consequence =>
    if condition.holds s context then .ofBool (consequence.holds s context) else .vacuous
  | p => .ofBool (p.holds s context)

/-! ## 4. Contexts from outside -/

mutual
/-- Whether the truth of the predicate hangs on looking at the context: parts are taken in order,
    and only as far as they decide. -/
def Predicate.looksAtContext (s : Scope) (context : Item) : Predicate → Bool
  | .present path | .absent path | .count path _ | .compare path .. | .exactlyOneOf path .. =>
    path.looksAtContext
  | .not inner => inner.looksAtContext s context
  | .all parts => allLook s context parts
  | .any parts => anyLooks s context parts
  | .xor left right => left.looksAtContext s context || right.looksAtContext s context
  | .countEquals declared counted =>
    declared.looksAtContext ||
      (s.integers context declared).isSome && counted.looksAtContext
  | .spanEquals declared first last =>
    declared.looksAtContext || first.looksAtContext || last.looksAtContext
  | .when condition consequence =>
    condition.looksAtContext s context ||
      condition.holds s context && consequence.looksAtContext s context
termination_by structural p => p

/-- The parts are looked at up to the first that does not hold. -/
def allLook (s : Scope) (context : Item) : List Predicate → Bool
  | [] => false
  | p :: rest =>
    p.looksAtContext s context || p.holds s context && allLook s context rest

/-- The parts are looked at up to the first that holds. -/
def anyLooks (s : Scope) (context : Item) : List Predicate → Bool
  | [] => false
  | p :: rest =>
    p.looksAtContext s context || !p.holds s context && anyLooks s context rest
end

/-- The verdict on a context that may not be in the document. There is none if the predicate would
    have to look at a node that does not exist. -/
def Predicate.verdict? (s : Scope) (context : Item) (p : Predicate) : Option Verdict :=
  if p.looksAtContext s context && !context.within s.doc then none else some (p.verdict s context)

end MarkupRules
