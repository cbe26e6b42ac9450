import MarkupRules.Rule.Predicate
import MarkupRules.Value.Form

/-!
# Libraries as they are written

A draft is a rule library before its paths are compiled and its defaults filled in:

* `LibraryDraft`, `PhaseDraft`, `RuleDraft`, `PredicateDraft` -- the parts of a library;
* `Defaults` -- what holds where a rule or a predicate says nothing;
* `LibraryDraft.ofValue` -- the draft that a value holds, or what is wrong with the value.
-/

namespace MarkupRules

/-! ## 1. Drafts -/

/-- What holds where a rule or a predicate is silent. -/
structure Defaults where
  blankIsAbsent : Bool := false
  mode : MatchMode := .exact
  deriving DecidableEq, Repr

/-- A predicate whose paths are still texts. -/
inductive PredicateDraft where
  | present (path : String)
  | absent (path : String)
  | not (inner : PredicateDraft)
  | all (parts : List PredicateDraft)
  | any (parts : List PredicateDraft)
  | xor (parts : List PredicateDraft)
  | count (path : String) (condition : CountCondition)
  | equals (path : String) (value : Literal) (quantifier : Quantifier) (mode : Option MatchMode)
  /-- Every value is one of the domain; if `required`, there is one. -/
  | valueIn (path : String) (domain : List String) (required : Bool) (mode : Option MatchMode)
  | exactlyOneOf (path : String) (domain : List String) (mode : Option MatchMode)
  | countEquals (declared counted : String)
  | spanEquals (declared first last : String)
  | when (condition consequence : PredicateDraft)

/-- A rule as it is written. -/
structure RuleDraft where
  id : String
  context : String
  severity : Severity := .error
  message : String := ""
  blankIsAbsent : Option Bool := none
  test : PredicateDraft

/-- A phase with its rules. -/
structure PhaseDraft where
  name : String
  rules : List RuleDraft

/-- A library: phase by phase. -/
structure LibraryDraft where
  version : String
  defaults : Defaults := {}
  phases : List PhaseDraft

/-! ## 2. Predicates in values -/

/-- A literal in a comparison: a signed 64-bit integer or a text. -/
def Literal.ofValue : Value → Except Problem Literal
  | .integer n => if Text.InRange n then .ok (.integer n) else .error (.noAlternative "ValueSource")
  | .text s => .ok (.text s)
  | _ => .error (.noAlternative "ValueSource")

namespace PredicateDraft

/-- How the content of a predicate is given. -/
inductive Content where
  /-- By one value. -/
  | single
  /-- By named fields. -/
  | fields

/-- The names of the predicates, in their order. -/
def variants : List (String × Content) := [
  ("present", .single), ("absent", .single), ("not", .single), ("all", .single), ("any", .single),
  ("xor", .single), ("count", .fields), ("equals", .fields), ("value_in", .fields),
  ("exactly_one_of", .fields), ("count_equals", .fields), ("span_equals", .fields),
  ("when", .fields)]

/-- What is wrong with the name of a predicate that stands alone. -/
def bareName (name : String) : Problem :=
  match variants.lookup name with
  | none => .unknownVariant name (variants.map (·.1))
  | some .single => .wrongType "unit variant" "newtype variant"
  | some .fields => .wrongType "unit variant" "struct variant"

/-- A mode of comparison that may be left to the defaults. -/
def modeField (f : Fields Value) : Reading (Option MatchMode) :=
  f.withDefault "mode" none (Value.orNull (Value.asSpelled MatchMode.spellings))

/-- A path in a field. -/
def pathField (f : Fields Value) (name : String) : Reading String :=
  f.required name Value.asText

/-- A list of texts in the field of the domain. -/
def domainField (f : Fields Value) : Reading (List String) :=
  f.required "values" (Value.asSequence Value.asText)

/-- The bound of an operator, if there is one. -/
def boundField (f : Fields Value) (name : String) : Reading (Option Nat) :=
  f.withDefault name none (Value.orNull Value.asCount)

def countOfFields (f : Fields Value) : Reading PredicateDraft :=
  let condition := CountCondition.mk <$> boundField f "eq" <*> boundField f "ne" <*>
    boundField f "gt" <*> boundField f "lt" <*> boundField f "gte" <*> boundField f "lte"
  count <$> pathField f "path" <*> condition

def equalsOfFields (f : Fields Value) : Reading PredicateDraft :=
  equals <$> pathField f "path" <*> f.required "value" Literal.ofValue <*>
    f.withDefault "quantifier" .any (Value.asSpelled Quantifier.spellings) <*> modeField f

def valueInOfFields (f : Fields Value) : Reading PredicateDraft :=
  valueIn <$> pathField f "path" <*> domainField f <*>
    f.withDefault "required" true Value.asFlag <*> modeField f

def exactlyOneOfOfFields (f : Fields Value) : Reading PredicateDraft :=
  exactlyOneOf <$> pathField f "path" <*> domainField f <*> modeField f

def countEqualsOfFields (f : Fields Value) : Reading PredicateDraft :=
  countEquals <$> pathField f "declared" <*> pathField f "counted"

def spanEqualsOfFields (f : Fields Value) : Reading PredicateDraft :=
  spanEquals <$> pathField f "declared" <*> pathField f "first" <*> pathField f "last"

/-- A predicate without predicates in it. -/
def leafOfValue (name : String) (content : Value) : Except Problem PredicateDraft :=
  match name with
  | "present" => (content.asText).map present
  | "absent" => (content.asText).map absent
  | "count" =>
    Fields.asFields ["path", "eq", "ne", "gt", "lt", "gte", "lte"] countOfFields content
  | "equals" => Fields.asFields ["path", "value", "quantifier", "mode"] equalsOfFields content
  | "value_in" => Fields.asFields ["path", "values", "required", "mode"] valueInOfFields content
  | "exactly_one_of" => Fields.asFields ["path", "values", "mode"] exactlyOneOfOfFields content
  | "count_equals" => Fields.asFields ["declared", "counted"] countEqualsOfFields content
  | "span_equals" => Fields.asFields ["declared", "first", "last"] spanEqualsOfFields content
  | name => .error (.unknownVariant name (variants.map (·.1)))

/-- The parts of an implication, once its entries are read. -/
def whenOfFields (f : Fields (Except Problem PredicateDraft)) : Reading PredicateDraft :=
  when <$> f.required "condition" id <*> f.required "then" id

mutual

/-- The predicate that a value holds: a mapping of its name to its content. -/
def ofValue : Value → Except Problem PredicateDraft
  | .text name => .error (bareName name)
  | .mapping [(name, content)] =>
    match name with
    | "not" => (ofValue content).map .not
    | "all" => (ofItems content).map .all
    | "any" => (ofItems content).map .any
    | "xor" => (ofItems content).map .xor
    | "when" => whenOfValue content
    | name => leafOfValue name content
  | .mapping entries => .error (.wrongValue (Value.mapping entries).found "map with a single key")
  | v => .error (.wrongType v.found "string or map")

/-- The predicates that a sequence holds. -/
def ofItems : Value → Except Problem (List PredicateDraft)
  | .sequence items => ofList items
  | v => .error (.wrongType v.found "a sequence")

/-- The predicates that values hold, or the first problem. -/
def ofList : List Value → Except Problem (List PredicateDraft)
  | [] => .ok []
  | v :: rest => do
    let p ← ofValue v
    let ps ← ofList rest
    .ok (p :: ps)

/-- The implication that a mapping holds. -/
def whenOfValue : Value → Except Problem PredicateDraft
  | .mapping entries =>
    let f := Fields.ofEntries ["condition", "then"] (ofEntries entries)
    f.finish (whenOfFields f)
  | v => .error (.wrongType v.found "struct variant")

/-- What the entries of a mapping hold. -/
def ofEntries : List (String × Value) → List (String × Except Problem PredicateDraft)
  | [] => []
  | (name, v) :: rest => (name, ofValue v) :: ofEntries rest

end

end PredicateDraft

/-! ## 3. Rules, phases and libraries in values -/

/-- The settings that a value holds. -/
def Defaults.ofValue : Value → Except Problem Defaults :=
  RecordForm.read ⟨"Defaults", ["blank_is_absent", "mode"], true⟩ fun f =>
    Defaults.mk <$> f.withDefault "blank_is_absent" false Value.asFlag <*>
      f.withDefault "mode" .exact (Value.asSpelled MatchMode.spellings)

/-- The rule that a value holds. -/
def RuleDraft.ofValue : Value → Except Problem RuleDraft :=
  RecordForm.read
    ⟨"RuleSource", ["id", "context", "severity", "message", "blank_is_absent", "assert"], true⟩
    fun f =>
      RuleDraft.mk <$> f.required "id" Value.asText <*> f.required "context" Value.asText <*>
        f.withDefault "severity" .error (Value.asSpelled Severity.spellings) <*>
        f.withDefault "message" "" Value.asText <*>
        f.withDefault "blank_is_absent" none (Value.orNull Value.asFlag) <*>
        f.required "assert" PredicateDraft.ofValue

/-- The phase that a value holds. -/
def PhaseDraft.ofValue : Value → Except Problem PhaseDraft :=
  RecordForm.read ⟨"PhaseSource", ["name", "rules"], true⟩ fun f =>
    PhaseDraft.mk <$> f.required "name" Value.asText <*>
      f.required "rules" (Value.asSequence RuleDraft.ofValue)

/-- The library that a value holds. -/
def LibraryDraft.ofValue : Value → Except Problem LibraryDraft :=
  RecordForm.read ⟨"LibrarySource", ["version", "defaults", "phases"], true⟩ fun f =>
    LibraryDraft.mk <$> f.required "version" Value.asText <*>
      f.withDefault "defaults" {} Defaults.ofValue <*>
      f.required "phases" (Value.asSequence PhaseDraft.ofValue)

end MarkupRules
