import MarkupRules.Text.Blank
import MarkupRules.Value.Basic

/-!
# Plain scalars as values

A scalar without quotes is a value of the first of these kinds that its text fits:

* nothing, `~` or `null`;
* a word for true or for false;
* an integer in base 10, 16, 8 or 2 that 64 bits can hold;
* a decimal fraction, numbers beyond all fractions and no numbers at all having names as texts;
* a text.

Words count in any case.
-/

namespace MarkupRules.Yaml

/-- The words for true. -/
def trueWords : List String :=
  ["y", "yes", "true", "on"]

/-- The words for false. -/
def falseWords : List String :=
  ["n", "no", "false", "off"]

/-- The value of a digit in bases up to 16. -/
def digitValue? (c : Char) : Option Nat :=
  if c.isDigit then some (c.toNat - '0'.toNat)
  else if 'a' ≤ c ∧ c ≤ 'f' then some (c.toNat - 'a'.toNat + 10)
  else if 'A' ≤ c ∧ c ≤ 'F' then some (c.toNat - 'A'.toNat + 10)
  else none

/-- The number that digits of a base write behind the number `n`. -/
def readMore? (base n : Nat) : List Char → Option Nat
  | [] => some n
  | c :: rest =>
    match digitValue? c with
    | none => none
    | some d => if d < base then readMore? base (base * n + d) rest else none

/-- The number that digits of a base write. Underscores among them do not count. -/
def readBase? (base : Nat) (cs : List Char) : Option Nat :=
  let digits := cs.filter (· != '_')
  if digits.isEmpty then none else readMore? base 0 digits

/-- The number that an unsigned integer writes. Its first two characters can give a base. -/
def readUnsignedInteger? : List Char → Option Nat
  | '0' :: 'x' :: ds | '0' :: 'X' :: ds => readBase? 16 ds
  | '0' :: 'o' :: ds | '0' :: 'O' :: ds => readBase? 8 ds
  | '0' :: 'b' :: ds | '0' :: 'B' :: ds => readBase? 2 ds
  | ds => readBase? 10 ds

/-- The integer that a text writes: an unsigned 64-bit number, or a negative one with a sign. -/
def integerOf? (cs : List Char) : Option Int :=
  let (negative, digits) := Text.splitSign cs
  (readUnsignedInteger? digits).bind fun n =>
    if negative then if n ≤ Nat.pow 2 63 then some (-(n : Int)) else none
    else if n < Nat.pow 2 64 then some n else none

/-- How a number beyond all fractions is named. -/
def infinityName (negative : Bool) : String :=
  if negative then "-.inf" else ".inf"

/-- The fraction that a text in lower case writes. What is no finite number is known by a name. -/
def fractionOf? (cs : List Char) : Option Value :=
  let (negative, name) := Text.splitSign cs
  let name := String.ofList name
  if [".nan", "nan"].contains name then some (.text ".nan")
  else if [".inf", "inf", "infinity"].contains name then some (.text (infinityName negative))
  else
    (Text.readFraction? cs).map fun (negative, digits, exponent) =>
      match Text.Fraction.nearest? negative digits exponent with
      | some x => .fraction x
      | none => .text (infinityName negative)

/-- Whether a scalar without quotes stands for nothing. -/
def isNullWord (text : String) : Bool :=
  ["", "~", "null"].contains (String.ofList (text.toList.map Char.toLower))

/-- The value of a scalar without quotes. It can have blanks other than spaces and tabs at its ends,
    which count only where it is a text. -/
def plainValue (text : String) : Value :=
  let trimmed := Text.trim text.toList
  let lower := trimmed.map Char.toLower
  let word := String.ofList lower
  if isNullWord text then .null
  else if trueWords.contains word then .boolean true
  else if falseWords.contains word then .boolean false
  else match integerOf? trimmed with
    | some n => .integer n
    | none => (fractionOf? lower).getD (.text text)

end MarkupRules.Yaml
