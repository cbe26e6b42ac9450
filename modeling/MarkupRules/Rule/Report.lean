import MarkupRules.Rule.Message
import MarkupRules.Rule.Verdict

/-!
# Results of a rule

* `AssertionResult` -- what a rule says about one item, or about a document it selects nothing of;
* `Rule.evaluate` -- the results of a rule on a document;
* `LogLine`, `Rule.journal` -- what the evaluation reports about its own course;
* `Report` -- the results of a phase.
-/

namespace MarkupRules

/-! ## 1. Results -/

/-- What a rule says about one item. -/
structure AssertionResult where
  ruleId : String
  severity : Severity
  /-- The node of the item, the owner for an attribute; none if the rule selects nothing. -/
  context : Option NodeId := none
  location : Option String := none
  passed : Bool
  vacuous : Bool
  /-- The message about a failure. -/
  message : Option String := none
  deriving DecidableEq, Repr

/-- The scope in which a rule looks at a document. -/
def Rule.scope (r : Rule) (doc : Document) : Scope :=
  ⟨doc, r.blankIsAbsent⟩

/-- The items that a rule is about. -/
def Rule.contexts (r : Rule) (doc : Document) : List Item :=
  r.context.selectFromRoot doc

/-- The message about a failure at an item. A template that does not render gives way to the
    standard message. -/
def Rule.failureMessage (r : Rule) (doc : Document) (context : Item) : String :=
  if r.message.isEmpty then fallbackMessage r.id (context.location doc)
  else match renderMessage r.message r.id doc context with
    | .ok message => message
    | .error _ => fallbackMessage r.id (context.location doc)

/-- The result of a rule at an item. -/
def Rule.judge (r : Rule) (doc : Document) (context : Item) : AssertionResult :=
  let verdict := r.test.verdict (r.scope doc) context
  { ruleId := r.id
    severity := r.severity
    context := some context.nodeId
    location := some (context.location doc)
    passed := verdict.passed
    vacuous := verdict == .vacuous
    message := if verdict.passed then none else some (r.failureMessage doc context) }

/-- The result of a rule that selects nothing: it passes without having tested anything. -/
def Rule.vacuousResult (r : Rule) : AssertionResult where
  ruleId := r.id
  severity := r.severity
  passed := true
  vacuous := true

/-- The results of a rule on a document: one for each item it is about, in document order. -/
def Rule.evaluate (r : Rule) (doc : Document) : List AssertionResult :=
  match r.contexts doc with
  | [] => [r.vacuousResult]
  | contexts => contexts.map (r.judge doc)

/-! ## 2. The journal -/

/-- How closely a line of the journal follows the run. -/
inductive LogLevel where
  | trace
  | debug
  | warn
  deriving DecidableEq, Repr

/-- A line of the journal. -/
structure LogLine where
  level : LogLevel
  text : String
  deriving DecidableEq, Repr

/-- How the journal writes a verdict. -/
def Verdict.word : Verdict → String
  | .pass => "Pass"
  | .fail => "Fail"
  | .vacuous => "Vacuous"

/-- What is reported about the judgement at an item: the verdict, and a template that does not
    render. -/
def Rule.judgementLines (r : Rule) (doc : Document) (context : Item) : List LogLine :=
  let verdict := r.test.verdict (r.scope doc) context
  let line := ⟨.trace,
    "rule " ++ r.id ++ " at " ++ context.location doc ++ ": " ++ verdict.word⟩
  let warning :=
    if verdict.passed || r.message.isEmpty then []
    else match renderMessage r.message r.id doc context with
      | .ok _ => []
      | .error problem =>
        [⟨.warn, "rule " ++ r.id ++ ": message template failed to render: " ++ problem.message⟩]
  line :: warning

/-- What is reported about a rule: its judgements, then how many there were and how many failed. -/
def Rule.journal (r : Rule) (doc : Document) : List LogLine :=
  let judgements :=
    match r.contexts doc with
    | [] => [⟨.trace, "rule " ++ r.id ++ ": no context node, vacuous pass"⟩]
    | contexts => contexts.flatMap (r.judgementLines doc)
  let results := r.evaluate doc
  let failed := results.filter fun a => !a.passed
  judgements ++ [⟨.debug, "rule " ++ r.id ++ ": " ++ toString results.length ++ " assertions, " ++
    toString failed.length ++ " failed"⟩]

/-! ## 3. Reports -/

/-- The results of the rules of a phase. -/
structure Report where
  phase : String
  valid : Bool
  results : List AssertionResult
  deriving DecidableEq, Repr

namespace Report

/-- The report on results: valid if every one of them passed, whatever its severity. -/
def ofResults (phase : String) (results : List AssertionResult) : Report where
  phase
  valid := results.all (·.passed)
  results

/-- The results that failed. -/
def failures (r : Report) : List AssertionResult :=
  r.results.filter fun a => !a.passed

/-- The failures that are errors. -/
def errors (r : Report) : List AssertionResult :=
  r.failures.filter fun a => a.severity == .error

/-- The failures that are warnings. -/
def warnings (r : Report) : List AssertionResult :=
  r.failures.filter fun a => a.severity == .warning

end Report

end MarkupRules
