import MarkupRules.Rule.Predicate

/-!
# Rules and phases

* `Rule` -- a predicate that every item selected by the context has to satisfy;
* `Rule.compile` -- a rule from the source of its context, which is anchored;
* `Phase` -- a name under which rules are run together.
-/

namespace MarkupRules

/-- A rule: whatever the context selects has to satisfy the test. -/
structure Rule where
  id : String
  /-- The phase the rule belongs to. -/
  phase : String
  context : Path.Expr
  test : Predicate
  severity : Severity := .error
  /-- The template of the message about a failure, empty for the standard message. -/
  message : String := ""
  /-- Whether items without content count as missing. -/
  blankIsAbsent : Bool := false

/-- A rule with its context compiled. A relative context matches anywhere in the document. An
    error blames the rule. -/
def Rule.compile (id phase context : String) (test : Predicate) : Except ConfigError Rule :=
  match Path.Expr.compile context with
  | .error e => .error (e.inRule id)
  | .ok context => .ok { id, phase, context := context.anchored, test }

/-- A phase: a name and the rules it runs, in order. -/
structure Phase where
  name : String
  ruleIds : List String
  deriving DecidableEq, Repr

end MarkupRules
