/-!
# Configuration errors

A rule set can be broken, and a request can name a phase that does not exist. No error of this
kind ever comes from the content of a document.

* `ErrorKind` -- what is broken;
* `ConfigError` -- the kind, the message, and the rule or phase to blame where one is known;
* `ConfigError.inRule`, `ConfigError.inPhase` -- blame added on the way out, never replaced;
* `ConfigError.display` -- the message behind the name it blames.
-/

namespace MarkupRules

/-- What is broken. -/
inductive ErrorKind where
  /-- The requested phase does not exist. -/
  | unknownPhase
  /-- A path expression goes beyond the supported grammar. -/
  | unsupportedExpression
  /-- A rule or a phase is put together wrongly. -/
  | malformedRule
  | duplicateRule
  | duplicatePhase
  /-- The text of a rule library cannot be read. -/
  | syntaxError
  deriving DecidableEq, Repr

/-- The kinds as they are spelled, in their order. -/
def ErrorKind.spellings : List (String × ErrorKind) := [
  ("unknown_phase", .unknownPhase),
  ("unsupported_expression", .unsupportedExpression),
  ("malformed_rule", .malformedRule),
  ("duplicate_rule", .duplicateRule),
  ("duplicate_phase", .duplicatePhase),
  ("syntax", .syntaxError)]

/-- Why rules cannot be compiled, a registry not built or a phase not resolved. -/
structure ConfigError where
  kind : ErrorKind
  message : String
  ruleId : Option String := none
  phase : Option String := none
  deriving DecidableEq, Repr

namespace ConfigError

/-- A phase that the registry does not have. -/
def unknownPhase (name : String) : ConfigError where
  kind := .unknownPhase
  message := "unknown phase: '" ++ name ++ "'"
  phase := some name

/-- A path expression that is not supported, with the offset in bytes where it stops being so. -/
def unsupported (expression : String) (offset : Nat) (detail : String) : ConfigError where
  kind := .unsupportedExpression
  message :=
    "unsupported expression '" ++ expression ++ "' at offset " ++ toString offset ++ ": " ++ detail

/-- A rule or phase that is put together wrongly. -/
def malformed (message : String) : ConfigError where
  kind := .malformedRule
  message := message

/-- The error with a rule to blame, unless it blames one already. -/
def inRule (e : ConfigError) (id : String) : ConfigError :=
  { e with ruleId := e.ruleId.or (some id) }

/-- The error with a phase to blame, unless it blames one already. -/
def inPhase (e : ConfigError) (name : String) : ConfigError :=
  { e with phase := e.phase.or (some name) }

/-- The message behind the rule it blames, or else behind the phase. The message about an unknown
    phase names the phase itself. -/
def display (e : ConfigError) : String :=
  match e.ruleId, e.phase with
  | some id, _ => "rule " ++ id ++ ": " ++ e.message
  | none, some name =>
    if e.kind = .unknownPhase then e.message else "phase " ++ name ++ ": " ++ e.message
  | none, none => e.message

end ConfigError

end MarkupRules
