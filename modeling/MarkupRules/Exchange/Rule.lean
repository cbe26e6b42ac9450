import MarkupRules.Library.Basic

/-!
# Rules as values

The form in which compiled rules are handed to other programs. A path is handed over as its
source; an unset bound and an unset field are left out.

* `wordOf` -- a word of a vocabulary in its spelling;
* `Predicate.toValue`, `Rule.toValue`, `Library.toValue` -- rules and what holds them;
* `Path.Expr.ofValue` -- a path read back and compiled again.
-/

namespace MarkupRules

/-! ## 1. Parts -/

/-- A word of a vocabulary in its spelling. -/
def wordOf [DecidableEq α] (spellings : List (String × α)) (a : α) : Value :=
  .text (((spellings.find? fun e => e.2 == a).map (·.1)).getD "")

/-- A sequence of texts. -/
def textsOf (ss : List String) : Value :=
  .sequence (ss.map .text)

/-- A natural number. -/
def countOf (n : Nat) : Value :=
  .integer n

/-- A field that is left out if it is not set. -/
def fieldIf (name : String) (v : Option Value) : List (String × Value) :=
  (v.map fun v => (name, v)).toList

def Path.Expr.toValue (e : Path.Expr) : Value :=
  .text e.source

/-- The path whose source a text is. The words of a refusal are those of the compiler. -/
def Path.Expr.ofValue (v : Value) : Except MarkupRules.Problem Path.Expr := do
  let source ← v.asText
  (Path.Expr.compile source).mapError fun e => .refused e.display

def Literal.toValue : Literal → Value
  | .text s => .mapping [("text", .text s)]
  | .integer n => .mapping [("integer", .integer n)]
  | .enumerated domain => .mapping [("enumerated", textsOf domain)]

def CountCondition.toValue (c : CountCondition) : Value :=
  .mapping (fieldIf "eq" (c.eq.map countOf) ++ fieldIf "ne" (c.ne.map countOf) ++
    fieldIf "gt" (c.gt.map countOf) ++ fieldIf "lt" (c.lt.map countOf) ++
    fieldIf "gte" (c.gte.map countOf) ++ fieldIf "lte" (c.lte.map countOf))

/-! ## 2. Predicates -/

mutual

/-- A predicate as a mapping of its name to its content. -/
def Predicate.toValue : Predicate → Value
  | .present path => .mapping [("present", path.toValue)]
  | .absent path => .mapping [("absent", path.toValue)]
  | .not inner => .mapping [("not", inner.toValue)]
  | .all parts => .mapping [("all", .sequence (predicatesToValues parts))]
  | .any parts => .mapping [("any", .sequence (predicatesToValues parts))]
  | .xor left right => .mapping [("xor", .sequence [left.toValue, right.toValue])]
  | .count path condition =>
    .mapping [("count", .mapping [("path", path.toValue), ("condition", condition.toValue)])]
  | .compare path value quantifier mode allowAbsent =>
    .mapping [("compare", .mapping [
      ("path", path.toValue), ("value", value.toValue),
      ("quantifier", wordOf Quantifier.spellings quantifier),
      ("mode", wordOf MatchMode.spellings mode), ("allow_absent", .boolean allowAbsent)])]
  | .exactlyOneOf path domain mode =>
    .mapping [("exactly_one_of", .mapping [
      ("path", path.toValue), ("domain", textsOf domain),
      ("mode", wordOf MatchMode.spellings mode)])]
  | .countEquals declared counted =>
    .mapping [("count_equals", .mapping [
      ("declared", declared.toValue), ("counted", counted.toValue)])]
  | .spanEquals declared first last =>
    .mapping [("span_equals", .mapping [
      ("declared", declared.toValue), ("first", first.toValue), ("last", last.toValue)])]
  | .when condition consequence =>
    .mapping [("when", .mapping [
      ("condition", condition.toValue), ("then", consequence.toValue)])]
termination_by structural p => p

/-- Predicates one after another. -/
def predicatesToValues : List Predicate → List Value
  | [] => []
  | p :: rest => p.toValue :: predicatesToValues rest

end

/-! ## 3. Rules and libraries -/

def Rule.toValue (r : Rule) : Value :=
  .mapping [
    ("id", .text r.id), ("phase", .text r.phase), ("context", r.context.toValue),
    ("test", r.test.toValue), ("severity", wordOf Severity.spellings r.severity),
    ("message", .text r.message), ("blank_is_absent", .boolean r.blankIsAbsent)]

def Phase.toValue (p : Phase) : Value :=
  .mapping [("name", .text p.name), ("rule_ids", textsOf p.ruleIds)]

def Defaults.toValue (d : Defaults) : Value :=
  .mapping [
    ("blank_is_absent", .boolean d.blankIsAbsent), ("mode", wordOf MatchMode.spellings d.mode)]

def Library.toValue (lib : Library) : Value :=
  .mapping [
    ("version", .text lib.version), ("defaults", lib.defaults.toValue),
    ("rules", .sequence (lib.rules.map Rule.toValue)),
    ("phases", .sequence (lib.phases.map Phase.toValue))]

end MarkupRules
