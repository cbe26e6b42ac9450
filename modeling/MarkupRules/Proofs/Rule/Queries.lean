import Mathlib.Algebra.Order.Ring.Int
import MarkupRules.Proofs.Path.Embedding
import MarkupRules.Proofs.Path.Sources
import MarkupRules.Proofs.Path.Steps
import MarkupRules.Proofs.Rule.Truth

/-!
# Predicates said as queries

Some demands can be made in two ways: by a predicate of a rule, and by a filter of a query for the
context. Each way has an evaluator of its own, and they give the same answer.

* `Path.select_contextIf` -- the query for the context selects it if it passes the filter;
* `Path.Comparison.bound` -- a comparison with a number as a bound on a count;
* `Predicate.holds_present`, `Predicate.holds_compare_text`, `Predicate.holds_compare_integer`,
  `Predicate.holds_count` -- the predicates that are filters;
* `Predicate.SaysAs` -- a predicate and a query that give the same answer everywhere;
* `Predicate.says_as_query` -- **presence, equality and counts are said as queries**.
-/

namespace MarkupRules

variable {doc : Document} {i : Item} {path text : String} {x : Path.Expr} {f : Path.Filter}
  {n : Nat} {test : Predicate}

/-! ## 1. Queries for the context -/

/-- **The query for the context** selects it if it passes the filter, as the only item there is. -/
theorem Path.select_contextIf (f : Filter) (doc : Document) (i : Item) :
    selectUnion doc [⟨false, [⟨.self, .anyNode, [f]⟩]⟩] i =
      if f.holds doc i 1 1 then [i] else [] := by
  have itself : (Axis.self.items doc i).filter (NodeTest.anyNode.accepts doc .self) = [i] := by
    cases i <;> rfl
  have step : Step.select doc ⟨.self, .anyNode, [f]⟩ i = if f.holds doc i 1 1 then [i] else [] := by
    rw [Step.select, itself, keepAll, keepAll, keepRanked, keepRanked]
    rfl
  show selectUnion doc _ i = _
  rw [selectUnion_single, Branch.select, if_neg Bool.false_ne_true]
  split
  · rename_i passes
    exact walk_single (step.trans (if_pos passes))
  · rename_i fails
    rw [walk_cons, List.flatMap_singleton, step, if_neg fails, walk_nil]
    rfl

/-! ## 2. Predicates that are filters -/

/-- A comparison with a number, as a bound on a count. -/
def Path.Comparison.bound (n : Nat) : Comparison → CountCondition
  | .eq => { eq := some n }
  | .ne => { ne := some n }
  | .lt => { lt := some n }
  | .le => { lte := some n }
  | .gt => { gt := some n }
  | .ge => { gte := some n }

/-- **A bound is met by the counts that compare so.** Counts are natural numbers to a rule and
    integers to a query. -/
theorem Path.Comparison.holds_bound (op : Comparison) (n count : Nat) :
    (op.bound n).holds count = op.accepts (compare (count : Int) n) := by
  rw [Bool.eq_iff_iff]
  cases op <;> simp [bound, CountCondition.holds, accepts, Int.isLE_compare, Int.isGE_compare,
    Int.compare_eq_lt, Int.compare_eq_gt]

/-- A value agrees with a text if they compare as equal. -/
theorem accepts_text (value expected : String) :
    Literal.accepts .exact value (.text expected) =
      Path.Comparison.eq.holdsOf value (.text expected) := by
  show (value == expected) = (compare value expected).isEq
  rw [Bool.eq_iff_iff]
  simp

/-- A value agrees with an integer if it is one and they compare as equal. -/
theorem accepts_integer (value : String) (expected : Int) :
    Literal.accepts .exact value (.integer expected) =
      Path.Comparison.eq.holdsOf value (.number expected) := by
  rw [Literal.accepts, Path.Comparison.holdsOf]
  cases Text.parseInteger value with
  | none => rfl
  | some m =>
    show (some m == some expected) = (compare m expected).isEq
    rw [Bool.eq_iff_iff]
    simp

theorem Predicate.holds_present : (Predicate.present x).holds ⟨doc, false⟩ i =
    (Path.Filter.exists x.union).holds doc i 1 1 :=
  rfl

/-- A comparison that some value has to pass, and that nothing does not pass, is the comparison
    of a filter. -/
theorem Predicate.holds_compare_any {value : Literal} {operand : Path.Operand}
    (same : ∀ v, value.accepts .exact v = Path.Comparison.eq.holdsOf v operand) :
    (Predicate.compare x value .any .exact false).holds ⟨doc, false⟩ i =
      (Path.Filter.compare x.union .eq operand).holds doc i 1 1 := by
  have values : (Scope.mk doc false).values i x = (x.select doc i).map (·.stringValue doc) := rfl
  have some : (Path.Filter.compare x.union .eq operand).holds doc i 1 1 =
      (x.select doc i).any fun j => Path.Comparison.eq.holdsOf (j.stringValue doc) operand := rfl
  rw [Predicate.holds, values, some]
  cases x.select doc i with
  | nil => rfl
  | cons j rest => simp [same, Function.comp_def]

theorem Predicate.holds_count {op : Path.Comparison} :
    (Predicate.count x (op.bound n)).holds ⟨doc, false⟩ i =
      (Path.Filter.count x.union op n).holds doc i 1 1 :=
  op.holds_bound n _

/-! ## 3. One answer -/

/-- **The predicate and the query give the same answer.** The query is compiled; for each item of a
    document both have an answer, and the predicate passes if and only if something is selected. -/
def Predicate.SaysAs (test : Predicate) (source : String) : Prop :=
  ∃ query, Path.Expr.compile source = .ok query ∧
    ∀ (doc : Document) (i : Item), i.Exists doc → ∃ verdict selected,
      test.verdict? ⟨doc, false⟩ i = some verdict ∧ query.select? doc i = some selected ∧
        (verdict.passed = true ↔ selected ≠ [])

/-- **A predicate that is a filter** is said as the query for the context that passes it. -/
theorem Predicate.saysAs_of_filter (read : Path.ReadsAsFilter text f)
    (same : ∀ (doc : Document) (i : Item), test.holds ⟨doc, false⟩ i = f.holds doc i 1 1) :
    test.SaysAs (Path.contextIf text) := by
  refine ⟨_, read.compile_contextIf, fun doc i known => ?_⟩
  have within : i.within doc = true := Item.within_iff.mpr known.nodeId_lt
  refine ⟨test.verdict ⟨doc, false⟩ i, if f.holds doc i 1 1 then [i] else [], ?_, ?_, ?_⟩
  · rw [Predicate.verdict?, within, Bool.not_true, Bool.and_false, if_neg Bool.false_ne_true]
  · rw [Path.Expr.select?, within, Bool.not_true, Bool.and_false, if_neg Bool.false_ne_true]
    exact congrArg some (Path.select_contextIf f doc i)
  · rw [Predicate.passed_verdict, same doc i]
    cases f.holds doc i 1 1 <;> simp

/-- **Presence, equality and counts are said as queries.** For a path that is compiled, the
    predicates about it give the same answers as the queries for the context whose filters say the
    same; a text is put between quotes of the kind that it does not hold. -/
theorem Predicate.says_as_query (compiled : Path.Expr.compile path = .ok x) :
    (Predicate.present x).SaysAs (Path.contextIf path) ∧
    (∀ (value : String) (q : Char), q = '\x27' ∨ q = '\x22' → q ∉ value.toList →
      (Predicate.compare x (.text value) .any .exact false).SaysAs
        (Path.contextIf (Path.valueFilter path (Path.quoted q value)))) ∧
    (∀ n : Nat, n < 2 ^ 63 →
      (Predicate.compare x (.integer n) .any .exact false).SaysAs
        (Path.contextIf (Path.valueFilter path (toString n)))) ∧
    ∀ (op : Path.Comparison) (n : Nat), n < 2 ^ 63 →
      (Predicate.count x (op.bound n)).SaysAs (Path.contextIf (Path.countFilter path op n)) := by
  refine ⟨?_, fun value q quote absent => ?_, fun n hn => ?_, fun op n hn => ?_⟩
  · exact saysAs_of_filter (.exists compiled) fun _ _ => holds_present
  · exact saysAs_of_filter (.compareText compiled quote absent) fun _ _ =>
      holds_compare_any fun v => accepts_text v value
  · exact saysAs_of_filter (.compareNumber compiled hn) fun _ _ =>
      holds_compare_any fun v => accepts_integer v n
  · exact saysAs_of_filter (.count compiled op hn) fun _ _ => holds_count

theorem Predicate.says_as_query_title :
    Path.Expr.compile "title" = .ok Path.titleExpr ∧
      (Predicate.present Path.titleExpr).SaysAs "self::node()[title]" ∧
      (Predicate.compare Path.titleExpr (.text "it\x27s") .any .exact false).SaysAs
        "self::node()[title = \x22it\x27s\x22]" ∧
      (Predicate.compare Path.titleExpr (.integer 12) .any .exact false).SaysAs
        "self::node()[title = 12]" ∧
      (Predicate.count Path.titleExpr (.atLeast 2)).SaysAs "self::node()[count(title) >= 2]" := by
  obtain ⟨present, text, integer, count⟩ := says_as_query Path.compile_titleExpr
  have absent : '\x22' ∉ "it\x27s".toList := by decide
  have written : Path.contextIf (Path.valueFilter "title" (Path.quoted '\x22' "it\x27s")) =
      "self::node()[title = \x22it\x27s\x22]" := by decide +kernel
  exact ⟨Path.compile_titleExpr, present, written ▸ text "it\x27s" '\x22' (.inr rfl) absent,
    integer 12 (by decide), count .ge 2 (by decide)⟩

end MarkupRules
