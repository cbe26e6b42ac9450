import MarkupRules.Proofs.Library.Packaged
import MarkupRules.Proofs.Registry.Truthfulness

/-!
# What the rules of a packaged phase ask for

A rule asks for something wherever its context is found. What it asks for is read off the rule that
its draft compiles to, and a packaged phase is valid where all that its rules ask for is the case.

* `Demand` -- what a rule asks for, its name and its words left out;
* `Demand.Met` -- the document has it;
* `Packaged.exists_check_of_demands` -- **a check is valid if and only if the demands are met**.
-/

namespace MarkupRules

open MarkupRules.Path

variable {doc : Document} {context i : Item}

/-! ## 1. Demands -/

/-- What a rule asks for, its name and its words left out. -/
structure Demand where
  union : List Branch
  test : Predicate
  blankIsAbsent : Bool

/-- The test is true of every item that the union selects from the document node. -/
def Demand.Met (doc : Document) (d : Demand) : Prop :=
  ∀ i ∈ selectUnion doc d.union (.node doc.root), d.test.IsTrue ⟨doc, d.blankIsAbsent⟩ i

/-- The demand of a rule. -/
def Rule.demand (r : Rule) : Demand :=
  ⟨r.context.union, r.test, r.blankIsAbsent⟩

namespace Packaged

/-- The scope of rules to which blank items are present. -/
theorem present_iff {path : Expr} :
    Scope.Present ⟨doc, false⟩ context path i ↔ i ∈ path.select doc context := by
  simp [Scope.Present]

/-! ## 2. Packaged phases -/

/-- **A check of a packaged phase is valid if and only if the document meets the demands** that the
    draft of the phase compiles to. -/
theorem exists_check_of_demands {p : PhaseDraft} {demands : List Demand} (hp : p ∈ draft.phases)
    (asked : (p.compile draft.defaults).map (·.map Rule.demand) = .ok demands)
    (doc : Document) : ∃ report, check doc p.name = .ok report ∧
      (report.valid = true ↔ ∀ d ∈ demands, d.Met doc) := by
  obtain ⟨reg, built, runs⟩ := exists_registry
  obtain ⟨rules, compiled, rfl⟩ := map_eq_ok.mp asked
  have resolved := runs p hp rules compiled
  have validated : reg.validate doc p.name = .ok _ := Registry.validate_of_resolve resolved
  refine ⟨_, by rw [check, built]; exact validated, ?_⟩
  rw [Registry.valid_iff_of_resolve resolved validated, List.forall_mem_map]
  rfl

end Packaged

end MarkupRules
