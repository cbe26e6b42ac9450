import MarkupRules.Proofs.Registry.Acceptance
import MarkupRules.Proofs.Rule.Truth

/-!
# Reports tell the truth

What the report of a phase consists of, and what each of its results says.

* `Rule.Judgement` -- a result that tells the truth about an item;
* `Rule.Block` -- the results of one rule: one for each item that the rule selects, or a single
  one about nothing;
* `Registry.validate_eq` -- a report is made of the blocks of the rules that the phase runs;
* `Report.valid_ofResults_iff` -- a phase is valid if every rule is true of every item it selects;
* `Registry.report_truthful` -- **every report is well formed and tells the truth**.
-/

namespace MarkupRules

variable {doc : Document} {r : Rule} {i : Item} {a : AssertionResult}

/-! ## 1. One rule -/

/-- The result tells the truth about an item that the rule selects. -/
structure Rule.Judgement (doc : Document) (r : Rule) (i : Item) (a : AssertionResult) : Prop where
  rule : a.ruleId = r.id ∧ a.severity = r.severity
  /-- The node of the item, and the way to the item itself. -/
  place : a.context = some i.nodeId ∧ a.location = some (i.location doc)
  /-- It failed if what the test says is false there, a conditional being an implication. -/
  failed : a.passed = false ↔ ¬ r.test.IsTrue (r.scope doc) i
  message : a.message.isSome = true ↔ a.passed = false
  vacuous : a.vacuous = true ↔ ∃ condition consequence, r.test = .when condition consequence ∧
    ¬ condition.IsTrue (r.scope doc) i

/-- The result says that the rule selects nothing. -/
structure Rule.Untested (r : Rule) (a : AssertionResult) : Prop where
  rule : a.ruleId = r.id ∧ a.severity = r.severity
  place : a.context = none ∧ a.location = none
  passed : a.passed = true
  message : a.message = none
  vacuous : a.vacuous = true

/-- The results of one rule: a single one if the rule selects nothing from the document node, and
    otherwise one for each item that it selects, in strictly ascending document order. -/
inductive Rule.Block (doc : Document) (r : Rule) : List AssertionResult → Prop
  | untested {a : AssertionResult} : r.context.select doc (.node doc.root) = [] → r.Untested a →
      Block doc r [a]
  | tested {items : List Item} {results : List AssertionResult} :
      r.context.select doc (.node doc.root) = items → items ≠ [] → items.Pairwise Item.Before →
        List.Forall₂ (r.Judgement doc) items results → Block doc r results

theorem Rule.judgement_judge : r.Judgement doc i (r.judge doc i) where
  rule := ⟨rfl, rfl⟩
  place := ⟨rfl, rfl⟩
  failed := by
    show (r.test.verdict (r.scope doc) i).passed = false ↔ _
    rw [Predicate.passed_verdict, ← Bool.not_eq_true, Predicate.holds_iff_isTrue]
  message := by
    show (if (r.test.verdict (r.scope doc) i).passed then none
      else some (r.failureMessage doc i)).isSome = true ↔
        (r.test.verdict (r.scope doc) i).passed = false
    cases (r.test.verdict (r.scope doc) i).passed <;> simp
  vacuous := by
    show (r.test.verdict (r.scope doc) i == Verdict.vacuous) = true ↔ _
    rw [beq_iff_eq, Predicate.verdict_eq_vacuous_iff]

/-- **The results of a rule are a block.** -/
theorem Rule.block_evaluate : r.Block doc (r.evaluate doc) := by
  have ascending : (r.contexts doc).Pairwise Item.Before := Path.selectUnion_ascending
  unfold Rule.evaluate
  cases selected : r.contexts doc with
  | nil => exact .untested selected ⟨⟨rfl, rfl⟩, ⟨rfl, rfl⟩, rfl, rfl, rfl⟩
  | cons i rest =>
    rw [selected] at ascending
    refine .tested selected (List.cons_ne_nil i rest) ascending ?_
    rw [List.forall₂_map_right_iff]
    exact List.forall₂_same.mpr fun j _ => Rule.judgement_judge

/-- **A rule fails nowhere** if its test is true of every item that it selects. -/
theorem Rule.passed_evaluate_iff : (∀ a ∈ r.evaluate doc, a.passed = true) ↔
    ∀ i ∈ r.context.select doc (.node doc.root), r.test.IsTrue (r.scope doc) i := by
  have judged : ∀ i, (r.judge doc i).passed = true ↔ r.test.IsTrue (r.scope doc) i := by
    intro i
    have failed : (r.judge doc i).passed = false ↔ ¬ r.test.IsTrue (r.scope doc) i :=
      Rule.judgement_judge.failed
    rw [← Bool.not_eq_true, not_iff_not] at failed
    exact failed
  unfold Rule.evaluate
  change _ ↔ ∀ i ∈ r.contexts doc, _
  cases r.contexts doc with
  | nil => simp [Rule.vacuousResult]
  | cons i rest => simp [judged]

/-! ## 2. Reports -/

/-- Results are valid if none of them failed. -/
theorem Report.valid_ofResults_iff {phase : String} {results : List AssertionResult} :
    (Report.ofResults phase results).valid = true ↔ ∀ a ∈ results, a.passed = true :=
  List.all_eq_true

namespace Registry

variable {reg : Registry} {names : List String} {phase : String} {rules : List Rule}

theorem validate_of_resolve (h : reg.resolve phase = .ok rules) :
    reg.validate doc phase = .ok (.ofResults phase (rules.flatMap (·.evaluate doc))) := by
  rw [validate, h]
  rfl

/-- **Validation fails exactly on a name that no phase has**, and the error carries the name. -/
theorem validate_eq_error_iff {err : ConfigError} : reg.validate doc phase = .error err ↔
    (phase ≠ allPhase ∧ phase ∉ reg.phaseNames) ∧ err = .unknownPhase phase := by
  rw [← resolve_eq_error_iff]
  cases h : reg.resolve phase with
  | error err' =>
    rw [validate, h]
    show Except.error err' = Except.error err ↔ Except.error err' = Except.error err
    rw [Except.error.injEq, Except.error.injEq]
  | ok rules => simp [validate_of_resolve h]

/-- **A phase is valid** if each of its rules is true of every item that the rule selects. -/
theorem valid_iff_of_resolve {report : Report} (h : reg.resolve phase = .ok rules)
    (validated : reg.validate doc phase = .ok report) : report.valid = true ↔
      ∀ r ∈ rules, ∀ i ∈ r.context.select doc (.node doc.root), r.test.IsTrue (r.scope doc) i := by
  rw [validate_of_resolve h] at validated
  cases validated
  rw [Report.valid_ofResults_iff, List.forall_mem_flatMap]
  exact forall₂_congr fun r _ => Rule.passed_evaluate_iff

/-- **Every report is well formed and tells the truth.** The results are those of the rules that
    the phase runs, a block for each rule in their order; each result tells the truth about its
    item; and the report is valid if no result failed, whatever its severity. -/
theorem report_truthful (accepted : reg.Accepted names) (doc : Document) (phase : String)
    (resolvable : phase = allPhase ∨ phase ∈ names) :
    ∃ report rules blocks, reg.validate doc phase = .ok report ∧ report.phase = phase ∧
      reg.Runs phase rules ∧ List.Forall₂ (Rule.Block doc) rules blocks ∧
        report.results = blocks.flatten ∧
          (report.valid = true ↔ ∀ a ∈ report.results, a.passed = true) := by
  rw [accepted.mem_names_iff, ← exists_resolve_eq_ok_iff] at resolvable
  obtain ⟨rules, resolved⟩ := resolvable
  refine ⟨_, rules, rules.map (·.evaluate doc), validate_of_resolve resolved, rfl,
    accepted.runs_of_resolve resolved, ?_, rfl, Report.valid_ofResults_iff⟩
  rw [List.forall₂_map_right_iff]
  exact List.forall₂_same.mpr fun r _ => Rule.block_evaluate

/-- A section with a label has to have a title. -/
def labelledSection : Rule where
  id := "section.title"
  phase := "sections"
  context := ⟨"section", [⟨true, [Path.Step.anywhere, ⟨.child, .name "section", []⟩]⟩]⟩
  test := .when (.present ⟨"@label", [⟨false, [⟨.attribute, .name "label", []⟩]⟩]⟩)
    (.present ⟨"title", [⟨false, [⟨.child, .name "title", []⟩]⟩]⟩)

/-- The registry of that rule alone. -/
def sectionRules : Registry where
  rules := [labelledSection]
  phases := [⟨"sections", ["section.title"]⟩]

/-- A section with a label and no title, which holds one without a label. -/
def nestedSections : Element :=
  (({ name := "section" } : Element).attr "label" "1").child { name := "section" }

theorem report_truthful_sections : Registry.ofRules [labelledSection] = .ok sectionRules ∧
    ∃ report rules blocks,
      sectionRules.validate (.ofElement nestedSections) "sections" = .ok report ∧
        report.phase = "sections" ∧ sectionRules.Runs "sections" rules ∧
          List.Forall₂ (Rule.Block (.ofElement nestedSections)) rules blocks ∧
            report.results = blocks.flatten ∧
              (report.valid = true ↔ ∀ a ∈ report.results, a.passed = true) := by
  have named : phasesOf [labelledSection] = sectionRules.phases := by decide +kernel
  have built : Registry.ofRules [labelledSection] = .ok sectionRules := by
    rw [Registry.ofRules, named]
    exact withPhases_eq_ok_iff.mpr ⟨rfl, by decide +kernel, by decide +kernel⟩
  exact ⟨built, report_truthful (.ofRules built) (.ofElement nestedSections) "sections"
    (.inr List.mem_cons_self)⟩

example : (sectionRules.validate (.ofElement nestedSections) "sections").toOption.map
    (·.results.map fun a => (a.passed, a.vacuous)) = some [(false, false), (true, true)] := by
  decide +kernel

end Registry

end MarkupRules
