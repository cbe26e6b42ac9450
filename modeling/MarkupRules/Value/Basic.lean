import MarkupRules.Text.Decimal
import MarkupRules.Text.Quoted

/-!
# Values

What a structured text holds before anything is known about its meaning, and what can be wrong
with a value where a certain form is expected:

* `Value` -- scalars, sequences, and mappings with their entries in the order of the text;
* `Value.found` -- a value as a message names it;
* `Problem` -- the ways in which a value can be of the wrong form, each with its `message`.
-/

namespace MarkupRules

/-- A value of a structured text. -/
inductive Value where
  | null
  | boolean (b : Bool)
  /-- An integer of at most 64 bits: signed where it is negative, unsigned otherwise. -/
  | integer (n : Int)
  | fraction (x : Text.Fraction)
  | text (s : String)
  | sequence (items : List Value)
  /-- The entries in the order in which they are written. -/
  | mapping (entries : List (String × Value))
  deriving Repr

/-! ## 1. Values in messages -/

/-- The value as messages name it: scalars are shown, collections are not. -/
def Value.found : Value → String
  | .null => "null"
  | .boolean b => "boolean `" ++ (if b then "true" else "false") ++ "`"
  | .integer n => "integer `" ++ toString n ++ "`"
  | .fraction x => "floating point `" ++ x.show ++ "`"
  | .text s => "string " ++ Text.quoted s
  | .sequence _ => "sequence"
  | .mapping _ => "map"

/-! ## 2. Problems -/

/-- Why a value is not of the form that is expected of it. -/
inductive Problem where
  /-- Something of another kind. -/
  | wrongType (found expected : String)
  /-- Something of the right kind that is out of bounds. -/
  | wrongValue (found expected : String)
  /-- A sequence with too few items or too many. -/
  | wrongLength (length : Nat) (expected : String)
  /-- A name that is none of the variants. -/
  | unknownVariant (name : String) (variants : List String)
  /-- A name that is none of the fields. -/
  | unknownField (name : String) (fields : List String)
  | missingField (name : String)
  /-- A value that fits none of several alternative forms. -/
  | noAlternative (name : String)
  /-- A text that the reader of its contents refuses. -/
  | refused (reason : String)
  deriving DecidableEq, Repr

/-- A choice of names: one, two, or a list of them. -/
def oneOf : List String → String
  | [a] => "expected `" ++ a ++ "`"
  | [a, b] => "expected `" ++ a ++ "` or `" ++ b ++ "`"
  | names => "expected one of " ++ ", ".intercalate (names.map fun a => "`" ++ a ++ "`")

/-- What is said about the problem. -/
def Problem.message : Problem → String
  | .wrongType found expected => "invalid type: " ++ found ++ ", expected " ++ expected
  | .wrongValue found expected => "invalid value: " ++ found ++ ", expected " ++ expected
  | .wrongLength length expected =>
    "invalid length " ++ toString length ++ ", expected " ++ expected
  | .unknownVariant name variants => "unknown variant `" ++ name ++ "`, " ++ oneOf variants
  | .unknownField name fields => "unknown field `" ++ name ++ "`, " ++ oneOf fields
  | .missingField name => "missing field `" ++ name ++ "`"
  | .noAlternative name => "data did not match any variant of untagged enum " ++ name
  | .refused reason => reason

end MarkupRules
