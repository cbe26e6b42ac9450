import MarkupRules.Text.Blank

/-!
# Integers in text

Declared numbers are signed 64-bit integers:

* `InRange` -- the numbers that have such a form;
* `readDigits` -- a non-empty run of decimal digits;
* `readInteger?` -- an optional sign and digits, the number in range;
* `parseInteger` -- the same, blanks at the ends allowed.
-/

namespace MarkupRules.Text

/-- The least signed 64-bit integer. -/
def minInteger : Int := -9223372036854775808

/-- The greatest signed 64-bit integer. -/
def maxInteger : Int := 9223372036854775807

/-- The numbers that a signed 64-bit integer can hold. -/
def InRange (n : Int) : Prop :=
  minInteger ≤ n ∧ n ≤ maxInteger

instance (n : Int) : Decidable (InRange n) :=
  inferInstanceAs (Decidable (_ ∧ _))

/-- The number, if it is in range. -/
def inRange? (n : Int) : Option Int :=
  if InRange n then some n else none

/-- The number that a non-empty run of decimal digits writes. -/
def readDigits (cs : List Char) : Option Nat :=
  if !cs.isEmpty && cs.all Char.isDigit then
    some (cs.foldl (fun n c => 10 * n + (c.toNat - '0'.toNat)) 0)
  else
    none

/-- The signed 64-bit integer that an optional sign and decimal digits write. -/
def readInteger? : List Char → Option Int
  | '-' :: ds => (readDigits ds).bind fun n => inRange? (-n)
  | '+' :: ds => (readDigits ds).bind fun n => inRange? n
  | ds => (readDigits ds).bind fun n => inRange? n

/-- The integer a text declares: blanks at its ends do not count. -/
def parseInteger (s : String) : Option Int :=
  readInteger? (trim s.toList)

end MarkupRules.Text
