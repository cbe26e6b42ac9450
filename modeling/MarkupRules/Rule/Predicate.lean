import MarkupRules.Path.Reading
import MarkupRules.Text.Blank
import MarkupRules.Text.Integer
import MarkupRules.Text.Lowercase

/-!
# Predicates

What a rule can demand of an item, and the closed vocabularies it is said in:

* `Severity`, `MatchMode`, `Quantifier` -- the vocabularies, each with its spelling;
* `Literal`, `CountCondition` -- what values and counts are held against;
* `Predicate` -- the thirteen forms of a demand.
-/

namespace MarkupRules

/-! ## 1. Vocabularies -/

/-- How serious a failed assertion is. -/
inductive Severity where
  | error
  | warning
  deriving DecidableEq, Repr

/-- The severities as they are spelled, in their order. -/
def Severity.spellings : List (String × Severity) := [
  ("error", .error),
  ("warning", .warning)]

/-- How a selected value is compared with a text. -/
inductive MatchMode where
  /-- Character for character. -/
  | exact
  /-- In lower case on both sides. -/
  | caseInsensitive
  /-- Word for word: blanks at the ends do not count, and inner ones count as one space. -/
  | normalizeSpace
  deriving DecidableEq, Repr

/-- The match modes as they are spelled, in their order. -/
def MatchMode.spellings : List (String × MatchMode) := [
  ("exact", .exact),
  ("case_insensitive", .caseInsensitive),
  ("normalize_space", .normalizeSpace)]

/-- Which of the selected items must satisfy a comparison. -/
inductive Quantifier where
  | any
  | all
  deriving DecidableEq, Repr

/-- The quantifiers as they are spelled, in their order. -/
def Quantifier.spellings : List (String × Quantifier) := [
  ("any", .any),
  ("all", .all)]

/-- Whether a value and a text agree under the mode. -/
def MatchMode.agree (mode : MatchMode) (value expected : String) : Bool :=
  match mode with
  | .exact => value == expected
  | .caseInsensitive => Text.lowercase value.toList == Text.lowercase expected.toList
  | .normalizeSpace => Text.normalizeSpace value == Text.normalizeSpace expected

/-! ## 2. What values and counts are held against -/

/-- A literal that values are compared with. -/
inductive Literal where
  | text (expected : String)
  | integer (expected : Int)
  /-- The value has to agree with one of the texts. -/
  | enumerated (domain : List String)
  deriving DecidableEq, Repr

/-- Whether a value agrees with the literal. An integer is compared as a number, whatever the
    mode. -/
def Literal.accepts (mode : MatchMode) (value : String) : Literal → Bool
  | .text expected => mode.agree value expected
  | .integer expected => Text.parseInteger value == some expected
  | .enumerated domain => domain.any (mode.agree value)

/-- Bounds on a count. All the bounds that are given have to hold. -/
structure CountCondition where
  eq : Option Nat := none
  ne : Option Nat := none
  gt : Option Nat := none
  lt : Option Nat := none
  gte : Option Nat := none
  lte : Option Nat := none
  deriving DecidableEq, Repr

namespace CountCondition

/-- Exactly `n`. -/
def exactly (n : Nat) : CountCondition :=
  { eq := some n }

/-- At least `n`. -/
def atLeast (n : Nat) : CountCondition :=
  { gte := some n }

/-- At most `n`. -/
def atMost (n : Nat) : CountCondition :=
  { lte := some n }

/-- Whether no bound is given. -/
def isEmpty (c : CountCondition) : Bool :=
  c == {}

/-- Whether a count meets every bound that is given. -/
def holds (c : CountCondition) (count : Nat) : Bool :=
  c.eq.all (count == ·) && c.ne.all (count != ·) && c.gt.all (· < count) && c.lt.all (count < ·) &&
    c.gte.all (· ≤ count) && c.lte.all (count ≤ ·)

end CountCondition

/-! ## 3. Predicates -/

/-- A demand on an item. The paths start at the item, or at the document node if absolute. -/
inductive Predicate where
  /-- Something is selected. -/
  | present (path : Path.Expr)
  /-- Nothing is selected. -/
  | absent (path : Path.Expr)
  | not (inner : Predicate)
  | all (parts : List Predicate)
  | any (parts : List Predicate)
  | xor (left right : Predicate)
  /-- The number of selected items, the blank ones among them, meets the condition. -/
  | count (path : Path.Expr) (condition : CountCondition)
  /-- The selected values agree with the literal. Where nothing is selected, `allowAbsent`
      decides. -/
  | compare (path : Path.Expr) (value : Literal) (quantifier : Quantifier) (mode : MatchMode)
      (allowAbsent : Bool)
  /-- Exactly one selected value agrees with a text of the domain. -/
  | exactlyOneOf (path : Path.Expr) (domain : List String) (mode : MatchMode)
  /-- Every declared value is the number of counted items. -/
  | countEquals (declared counted : Path.Expr)
  /-- Every declared value is the length of the span from the first to the last number. -/
  | spanEquals (declared first last : Path.Expr)
  /-- Where the condition holds, the consequence does. -/
  | when (condition consequence : Predicate)

namespace Predicate

/-- Something is selected by the path. -/
def ofPresent (path : String) : Except ConfigError Predicate := do
  .ok (.present (← Path.Expr.compile path))

/-- Nothing is selected by the path. -/
def ofAbsent (path : String) : Except ConfigError Predicate := do
  .ok (.absent (← Path.Expr.compile path))

/-- The number of items selected by the path meets the condition. -/
def ofCount (path : String) (condition : CountCondition) : Except ConfigError Predicate := do
  .ok (.count (← Path.Expr.compile path) condition)

/-- The path selects something, and every value of it is one of the given texts. -/
def ofValues (path : String) (values : List String) : Except ConfigError Predicate := do
  .ok (.compare (← Path.Expr.compile path) (.enumerated values) .all .exact false)

/-- Every value declared is the number of items counted. -/
def ofCountEquals (declared counted : String) : Except ConfigError Predicate := do
  let declared ← Path.Expr.compile declared
  let counted ← Path.Expr.compile counted
  .ok (.countEquals declared counted)

/-- Every value declared is the length of the span between two numbers. -/
def ofSpanEquals (declared first last : String) : Except ConfigError Predicate := do
  let declared ← Path.Expr.compile declared
  let first ← Path.Expr.compile first
  let last ← Path.Expr.compile last
  .ok (.spanEquals declared first last)

end Predicate

end MarkupRules
