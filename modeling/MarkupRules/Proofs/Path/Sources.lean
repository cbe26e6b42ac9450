import Mathlib.Logic.Function.Iterate
import MarkupRules.Exchange.Rule
import MarkupRules.Proofs.Path.Anchoring
import MarkupRules.Proofs.Path.Parsing

/-!
# Expressions and their sources

An expression is handed over as its source. The source does not tell whether the expression was
anchored, so what is read back has never been.

* `Expr.ofValue_toValue` -- what is read back is what the source is compiled to;
* `Expr.iterate_anchored` -- an expression is anchored or it is not, however often it was;
* `Expr.read_back_unanchored` -- **what is read back is the expression before it was anchored**, and
  anchoring it gives the expression again;
* `Expr.anchored_not_read_back` -- an expression that is not read back;
* `Rule.compile_source_context` -- a rule is compiled again from the source of its context.
-/

namespace MarkupRules

namespace Path

variable {doc : Document} {source : String} {x y : Expr}

theorem Expr.source_of_compile (h : Expr.compile source = .ok x) : x.source = source :=
  (Expr.compile_eq_ok_iff.mp h).1

/-- What is read back is what the source is compiled to. -/
theorem Expr.ofValue_toValue (h : Expr.compile x.source = .ok y) : ofValue x.toValue = .ok y := by
  show (Expr.compile x.source).mapError _ = .ok y
  rw [h]
  rfl

/-- **Anchoring has only two results**, however often it is done. -/
theorem Expr.iterate_anchored (x : Expr) : ∀ n : Nat,
    Expr.anchored^[n] x = if n = 0 then x else x.anchored
  | 0 => rfl
  | n + 1 => by
    rw [Function.iterate_succ_apply', iterate_anchored x n, if_neg (Nat.succ_ne_zero n)]
    split
    · rfl
    · exact x.anchored_anchored

theorem Expr.source_iterate_anchored (x : Expr) (n : Nat) :
    (Expr.anchored^[n] x).source = x.source := by
  rw [iterate_anchored]
  split <;> rfl

/-- **What is read back is the expression before it was anchored.** It is the expression that was
    handed over if and only if that was never anchored or is absolute; otherwise, anchoring it
    gives the expression that was handed over, which selects from everywhere what the one that is
    read back selects from some node. -/
theorem Expr.read_back_unanchored (compiled : Expr.compile source = .ok x) (n : Nat) :
    ofValue (Expr.anchored^[n] x).toValue = .ok x ∧
      (Expr.anchored^[n] x = x ↔ n = 0 ∨ x.isAbsolute = true) ∧
        (0 < n → Expr.anchored^[n] x = x.anchored ∧ ∀ (doc : Document) (context j : Item),
          j ∈ (Expr.anchored^[n] x).select doc context ↔
            ∃ id, id < doc.size ∧ j ∈ x.select doc (.node id)) := by
  refine ⟨ofValue_toValue ?_, ?_, fun positive => ?_⟩
  · rw [source_iterate_anchored, Expr.source_of_compile compiled]
    exact compiled
  · rw [iterate_anchored]
    split
    · rename_i never
      simp [never]
    · rename_i anchored
      rw [Expr.anchored_eq_self_iff, or_iff_right anchored]
  · have once : Expr.anchored^[n] x = x.anchored := by
      rw [iterate_anchored, if_neg (Nat.pos_iff_ne_zero.mp positive)]
    refine ⟨once, fun doc context j => ?_⟩
    rw [once]
    exact Expr.mem_select_anchored

/-- What `title` is compiled to. -/
def titleExpr : Expr where
  source := "title"
  union := [⟨false, [⟨.child, .name "title", []⟩]⟩]

theorem compile_titleExpr : Expr.compile "title" = .ok titleExpr :=
  Expr.compile_eq_ok_iff.mpr ⟨rfl, [⟨.name "title", 0⟩], by decide +kernel,
    readAll_eq_ok_iff.mpr (.single (.relative (.last (.child .name .noFilter))))⟩

theorem Expr.read_back_unanchored_title : Expr.compile "title" = .ok titleExpr ∧ 0 < 2 ∧
    ofValue (Expr.anchored^[2] titleExpr).toValue = .ok titleExpr ∧
      (Expr.anchored^[2] titleExpr = titleExpr ↔ 2 = 0 ∨ titleExpr.isAbsolute = true) ∧
        Expr.anchored^[2] titleExpr = titleExpr.anchored ∧
          ∀ (doc : Document) (context j : Item),
            j ∈ (Expr.anchored^[2] titleExpr).select doc context ↔
              ∃ id, id < doc.size ∧ j ∈ titleExpr.select doc (.node id) := by
  obtain ⟨readBack, same, again⟩ := Expr.read_back_unanchored compile_titleExpr 2
  exact ⟨compile_titleExpr, by decide, readBack, same, again (by decide)⟩

/-- **An expression that is not read back.** `title` is anchored and handed over; what is read back
    is another expression, which selects nothing from the document node where the one that was
    handed over selects the titles. -/
theorem Expr.anchored_not_read_back : Expr.compile "title" = .ok titleExpr ∧
    ofValue titleExpr.anchored.toValue = .ok titleExpr ∧ titleExpr.anchored ≠ titleExpr ∧
      titleExpr.anchored.selectFromRoot (.ofElement titledSections) = [.node 2, .node 4] ∧
        titleExpr.selectFromRoot (.ofElement titledSections) = [] :=
  ⟨compile_titleExpr, Expr.ofValue_toValue compile_titleExpr, by decide +kernel,
    by decide +kernel, by decide +kernel⟩

end Path

/-- **A rule is compiled again from the source of its context**, which it hands over. -/
theorem Rule.compile_source_context {id phase source : String} {test : Predicate} {r : Rule}
    (h : Rule.compile id phase source test = .ok r) :
    Rule.compile id phase r.context.source test = .ok r := by
  obtain ⟨x, compiled, rfl⟩ := Rule.compile_eq_ok_iff.mp h
  -- anchoring leaves the source alone
  show Rule.compile id phase x.source test = _
  rw [Path.Expr.source_of_compile compiled, h]

end MarkupRules
