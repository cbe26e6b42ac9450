import MarkupRules.Rule.Basic
import MarkupRules.Rule.Report

/-!
# Registries

A registry holds rules and the phases that run them. It is checked once, when it is built:

* `Registry.withPhases` -- a registry from rules and phases, or the first fault;
* `Registry.ofRules` -- the same, the phases being those that the rules name;
* `Registry.resolve` -- the rules of a phase, `#ALL` standing for every rule.
-/

namespace MarkupRules

/-- Rules, and the phases that run them. -/
structure Registry where
  rules : List Rule
  phases : List Phase

/-- The name of the phase that runs every rule. -/
def allPhase : String :=
  "#ALL"

/-! ## 1. Faults -/

/-- Whether a text may name a rule or a phase: an ASCII letter, then ASCII letters, digits,
    underscores, dots and hyphens. -/
def isIdentifier (s : String) : Bool :=
  match s.toList with
  | [] => false
  | c :: rest => c.isAlpha && rest.all fun d => d.isAlphanum || d == '_' || d == '.' || d == '-'

/-- What is wrong with a rule on its own: its id, or else the first unknown reference of its
    template. -/
def Rule.fault? (r : Rule) : Option ConfigError :=
  if !isIdentifier r.id then
    some ((ConfigError.malformed ("invalid rule id '" ++ r.id ++ "'")).inRule r.id)
  else
    ((referencesIn r.message).find? fun reference => !isKnownReference reference).map
      fun reference =>
        (ConfigError.malformed ("unknown message template reference '\x7b\x7b" ++ reference ++
          "\x7d\x7d'")).inRule r.id

/-- A rule whose id is taken. -/
def duplicateRule (id : String) : ConfigError :=
  ConfigError.inRule ⟨.duplicateRule, "duplicate rule id '" ++ id ++ "'", none, none⟩ id

/-- The first fault among rules, `seen` being the ids of the rules before them. -/
def rulesFault? (seen : List String) : List Rule → Option ConfigError
  | [] => none
  | r :: rest =>
    match r.fault? with
    | some e => some e
    | none =>
      if seen.contains r.id then some (duplicateRule r.id) else rulesFault? (r.id :: seen) rest

/-- What is wrong with a phase, given the ids that rules have and the names of the phases before
    it. -/
def Phase.fault? (p : Phase) (ids seen : List String) : Option ConfigError :=
  if p.name = allPhase then
    some ((ConfigError.malformed ("phase name '" ++ allPhase ++ "' is reserved")).inPhase p.name)
  else if !isIdentifier p.name then
    some ((ConfigError.malformed ("invalid phase name '" ++ p.name ++ "'")).inPhase p.name)
  else if seen.contains p.name then
    some (ConfigError.inPhase ⟨.duplicatePhase, "duplicate phase '" ++ p.name ++ "'", none, none⟩
      p.name)
  else
    (p.ruleIds.find? fun id => !ids.contains id).map fun id =>
      (ConfigError.malformed ("phase references unknown rule '" ++ id ++ "'")).inPhase p.name

/-- The first fault among phases, `seen` being the names of the phases before them. -/
def phasesFault? (ids seen : List String) : List Phase → Option ConfigError
  | [] => none
  | p :: rest =>
    match p.fault? ids seen with
    | some e => some e
    | none => phasesFault? ids (p.name :: seen) rest

/-! ## 2. Building -/

namespace Registry

/-- The registry of the given rules and phases, if there is no fault in them. The rules are
    checked before the phases. -/
def withPhases (rules : List Rule) (phases : List Phase) : Except ConfigError Registry :=
  match rulesFault? [] rules with
  | some e => .error e
  | none =>
    match phasesFault? (rules.map (·.id)) [] phases with
    | some e => .error e
    | none => .ok ⟨rules, phases⟩

/-- The phases with a rule added: to the phase of its name, or to a new one at the end. -/
def addToPhase (r : Rule) : List Phase → List Phase
  | [] => [⟨r.phase, [r.id]⟩]
  | p :: rest =>
    if p.name = r.phase then { p with ruleIds := p.ruleIds ++ [r.id] } :: rest
    else p :: addToPhase r rest

/-- The phases that rules name, in the order in which they are first named. -/
def phasesOf (rules : List Rule) : List Phase :=
  rules.foldl (fun phases r => addToPhase r phases) []

/-- The registry of rules and of the phases that they name. -/
def ofRules (rules : List Rule) : Except ConfigError Registry :=
  withPhases rules (phasesOf rules)

/-! ## 3. Looking up -/

/-- The number of rules. -/
def size (reg : Registry) : Nat :=
  reg.rules.length

/-- Whether there are no rules. -/
def isEmpty (reg : Registry) : Bool :=
  reg.rules.isEmpty

/-- The rule of an id. -/
def rule? (reg : Registry) (id : String) : Option Rule :=
  reg.rules.find? fun r => r.id == id

/-- The names of the phases, in order. -/
def phaseNames (reg : Registry) : List String :=
  reg.phases.map (·.name)

/-- The rules that a phase runs, in order. -/
def resolve (reg : Registry) (name : String) : Except ConfigError (List Rule) :=
  if name = allPhase then .ok reg.rules
  else match reg.phases.find? (fun p => p.name == name) with
    | none => .error (.unknownPhase name)
    | some p => .ok (p.ruleIds.filterMap reg.rule?)

/-- What is reported once a registry is built. -/
def journal (reg : Registry) : List LogLine :=
  [⟨.debug, "registry built: " ++ toString reg.rules.length ++ " rules in " ++
    toString reg.phases.length ++ " phases"⟩]

end Registry

end MarkupRules
