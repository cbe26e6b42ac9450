import MarkupRules.Error
import MarkupRules.Exchange.Rule
import MarkupRules.Rule.Report

/-!
# Reports and errors as values

The form in which results are handed to other programs. What is not set is left out.

* `AssertionResult.toValue`, `Report.toValue` -- the results of a phase;
* `ConfigError.toValue`, `ConfigError.ofValue` -- a configuration error, which can be read back.
-/

namespace MarkupRules

/-! ## 1. Reports -/

def AssertionResult.toValue (a : AssertionResult) : Value :=
  .mapping ([
    ("rule_id", .text a.ruleId), ("severity", wordOf Severity.spellings a.severity)] ++
    fieldIf "context" (a.context.map countOf) ++ fieldIf "location" (a.location.map .text) ++
    [("passed", .boolean a.passed), ("vacuous", .boolean a.vacuous)] ++
    fieldIf "message" (a.message.map .text))

def Report.toValue (r : Report) : Value :=
  .mapping [
    ("phase", .text r.phase), ("valid", .boolean r.valid),
    ("results", .sequence (r.results.map AssertionResult.toValue))]

/-! ## 2. Errors -/

def ConfigError.toValue (e : ConfigError) : Value :=
  .mapping ([
    ("kind", wordOf ErrorKind.spellings e.kind), ("message", .text e.message)] ++
    fieldIf "rule_id" (e.ruleId.map .text) ++ fieldIf "phase" (e.phase.map .text))

/-- The error that a value holds. Fields of other names are passed over. -/
def ConfigError.ofValue : Value → Except Problem ConfigError :=
  RecordForm.read ⟨"ConfigError", ["kind", "message", "rule_id", "phase"], false⟩ fun f =>
    ConfigError.mk <$> f.required "kind" (Value.asSpelled ErrorKind.spellings) <*>
      f.required "message" Value.asText <*> f.optional "rule_id" Value.asText <*>
      f.optional "phase" Value.asText

end MarkupRules
