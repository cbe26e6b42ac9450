import MarkupRules.Error
import MarkupRules.Library.Draft
import MarkupRules.Registry.Basic

/-!
# Libraries

A library is a draft whose paths are compiled and whose silences are filled in from its defaults:

* `PredicateDraft.compile`, `RuleDraft.compile` -- the parts of it;
* `LibraryDraft.compile` -- the library, or the error of the first rule that does not compile;
* `Library.toRegistry` -- the registry of its rules and phases.
-/

namespace MarkupRules

/-- A library: rules in the order in which they are written, and the phases that they are written
    under. -/
structure Library where
  version : String
  defaults : Defaults
  rules : List Rule
  phases : List Phase

/-- The registry of a library, if its rules and phases have no fault. -/
def Library.toRegistry (lib : Library) : Except ConfigError Registry :=
  Registry.withPhases lib.rules lib.phases

/-! ## 1. Predicates -/

namespace PredicateDraft

/-- A count has to be held against something. -/
def compileCount (path : String) (condition : CountCondition) : Except ConfigError Predicate :=
  if condition.isEmpty then
    .error (.malformed ("count on '" ++ path ++ "' needs at least one of eq, ne, gt, lt, gte, lte"))
  else Predicate.ofCount path condition

/-- The domain of a value must not be empty. -/
def compileValueIn (path : String) (domain : List String) (required : Bool) (mode : MatchMode) :
    Except ConfigError Predicate :=
  if domain.isEmpty then
    .error (.malformed ("value_in on '" ++ path ++ "' has an empty domain"))
  else
    (Path.Expr.compile path).map fun path =>
      .compare path (.enumerated domain) .all mode (!required)

/-- An exclusive choice is between two predicates. -/
def wrongChoice (n : Nat) : ConfigError :=
  .malformed ("xor takes exactly two operands, got " ++ toString n)

mutual

/-- The predicate with its paths compiled, first to last, and the defaults filled in. -/
def compile (d : Defaults) : PredicateDraft → Except ConfigError Predicate
  | .present path => Predicate.ofPresent path
  | .absent path => Predicate.ofAbsent path
  | .not inner => (compile d inner).map .not
  | .all parts => (compileList d parts).map .all
  | .any parts => (compileList d parts).map .any
  | .xor [left, right] => do
    let left ← compile d left
    let right ← compile d right
    .ok (.xor left right)
  | .xor parts => .error (wrongChoice parts.length)
  | .count path condition => compileCount path condition
  | .equals path value quantifier mode =>
    (Path.Expr.compile path).map fun path =>
      .compare path value quantifier (mode.getD d.mode) false
  | .valueIn path domain required mode => compileValueIn path domain required (mode.getD d.mode)
  | .exactlyOneOf path domain mode =>
    (Path.Expr.compile path).map fun path => .exactlyOneOf path domain (mode.getD d.mode)
  | .countEquals declared counted => Predicate.ofCountEquals declared counted
  | .spanEquals declared first last => Predicate.ofSpanEquals declared first last
  | .when condition consequence => do
    let condition ← compile d condition
    let consequence ← compile d consequence
    .ok (.when condition consequence)

/-- The predicates compiled one after another. -/
def compileList (d : Defaults) : List PredicateDraft → Except ConfigError (List Predicate)
  | [] => .ok []
  | p :: rest => do
    let p ← compile d p
    let ps ← compileList d rest
    .ok (p :: ps)

end

end PredicateDraft

/-! ## 2. Rules and phases -/

/-- The rule of a phase. The test is compiled before the context, and an error of either blames the
    rule. -/
def RuleDraft.compile (d : Defaults) (phase : String) (r : RuleDraft) : Except ConfigError Rule :=
  match r.test.compile d with
  | .error e => .error (e.inRule r.id)
  | .ok test =>
    (Rule.compile r.id phase r.context test).map fun rule =>
      { rule with
        severity := r.severity
        message := r.message
        blankIsAbsent := r.blankIsAbsent.getD d.blankIsAbsent }

/-- The rules of a phase, an error blaming the phase as well. -/
def PhaseDraft.compile (d : Defaults) (p : PhaseDraft) : Except ConfigError (List Rule) :=
  (p.rules.mapM (RuleDraft.compile d p.name)).mapError (·.inPhase p.name)

/-- The phase without its rules. -/
def PhaseDraft.toPhase (p : PhaseDraft) : Phase :=
  ⟨p.name, p.rules.map (·.id)⟩

/-! ## 3. Libraries -/

/-- The library of a draft: the first rule in the order of the text that does not compile is to
    blame for an error. -/
def LibraryDraft.compile (lib : LibraryDraft) : Except ConfigError Library :=
  (lib.phases.mapM (PhaseDraft.compile lib.defaults)).map fun rules =>
    { version := lib.version
      defaults := lib.defaults
      rules := rules.flatten
      phases := lib.phases.map PhaseDraft.toPhase }

/-! ## 4. Libraries in values -/

/-- The kind of error that a problem is: a name or a field that is wrong makes a rule malformed,
    and all else is an error in the text. The words of the message decide. -/
def Problem.errorKind (p : Problem) : ErrorKind :=
  let words := Text.lowercase p.message.toList
  if ["unknown variant", "unknown field", "missing field"].any fun phrase =>
      Text.occursIn phrase.toList words then
    .malformedRule
  else .syntaxError

/-- The library that a value holds. The root has to be a mapping. -/
def Library.ofValue : Value → Except ConfigError Library
  | .mapping entries =>
    match LibraryDraft.ofValue (.mapping entries) with
    | .error p => .error ⟨p.errorKind, p.message, none, none⟩
    | .ok draft => draft.compile
  | _ => .error ⟨.syntaxError, "rule library root must be a YAML mapping", none, none⟩

end MarkupRules
