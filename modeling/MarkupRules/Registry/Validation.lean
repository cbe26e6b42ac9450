import MarkupRules.Registry.Basic
import MarkupRules.Rule.Report

/-!
# Validation

A phase of a registry is run against a document. Only the name of the phase can be at fault:
whatever the document holds, a phase that resolves gives a report.

* `Registry.validate` -- the report of one phase;
* `Registry.validatePhases` -- the reports of several phases, up to the first unknown one;
* `Registry.validationJournal` -- what a validation reports about its own course.
-/

namespace MarkupRules.Registry

/-- The report of a phase on a document. -/
def validate (reg : Registry) (doc : Document) (phase : String) : Except ConfigError Report := do
  let rules ← reg.resolve phase
  .ok (.ofResults phase (rules.flatMap (·.evaluate doc)))

/-- The reports of phases in order. The first unknown phase is the error. -/
def validatePhases (reg : Registry) (doc : Document) :
    List String → Except ConfigError (List Report)
  | [] => .ok []
  | phase :: rest => do
    let report ← reg.validate doc phase
    let reports ← reg.validatePhases doc rest
    .ok (report :: reports)

/-- What is reported about the validation of a phase; nothing about an unknown one. -/
def validationJournal (reg : Registry) (doc : Document) (phase : String) : List LogLine :=
  match reg.resolve phase with
  | .error _ => []
  | .ok rules =>
    let valid := rules.all fun r => (r.evaluate doc).all (·.passed)
    [⟨.debug, "phase " ++ phase ++ ": running " ++ toString rules.length ++ " rules"⟩] ++
      rules.flatMap (·.journal doc) ++
      [⟨.debug, "phase " ++ phase ++ ": valid = " ++ toString valid⟩]

end MarkupRules.Registry
