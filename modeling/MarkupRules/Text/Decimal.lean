/-!
# Decimal fractions

A fraction in a text is read as the nearest binary floating point number of 64 bits, and shown
again in the fewest decimal digits that read back as the same number. All of it is exact
arithmetic on natural numbers.

* `Fraction` -- a finite number of that format, as sign, mantissa and exponent of two;
* `Fraction.nearest?` -- the nearest one to a decimal fraction, unless it lies beyond them all;
* `Fraction.shortest` -- the fewest digits between the midpoints to the neighbours;
* `Fraction.show` -- the digits in the layout of `FractionLayout`;
* `readFraction?` -- the number that a text writes.
-/

namespace MarkupRules.Text

/-! ## 1. The numbers -/

/-- The number `mantissa * 2 ^ exponent`, or its negative. The mantissa has at most 53 bits, and
    all of them unless the exponent is the least one, -1074. -/
structure Fraction where
  negative : Bool
  mantissa : Nat
  exponent : Int
  deriving DecidableEq, Repr

/-- A quotient of natural numbers times `2 ^ e`, the power written into the side where it is
    whole. -/
def scaleTwo (num den : Nat) (e : Int) : Nat × Nat :=
  match e with
  | .ofNat e => (num * Nat.pow 2 e, den)
  | .negSucc e => (num, den * Nat.pow 2 (e + 1))

/-- A quotient of natural numbers times `10 ^ e`. -/
def scaleTen (num den : Nat) (e : Int) : Nat × Nat :=
  match e with
  | .ofNat e => (num * Nat.pow 10 e, den)
  | .negSucc e => (num, den * Nat.pow 10 (e + 1))

/-- A quotient rounded to the nearest integer, a tie to the even one. -/
def roundHalfEven (num den : Nat) : Nat :=
  let q := num / den
  let r := num % den
  if 2 * r < den then q
  else if den < 2 * r then q + 1
  else if q % 2 = 0 then q
  else q + 1

/-- The greatest exponent of two with which a mantissa of 53 bits is still finite. -/
def maxExponent : Int := 971

/-- The least exponent of two. -/
def minExponent : Int := -1074

/-- The mantissa and exponent nearest to a positive quotient, or none above all finite numbers. -/
def nearestQuotient? (num den : Nat) : Option (Nat × Int) :=
  -- the quotient lies between 2 ^ (l - 1) and 2 ^ (l + 1)
  let l : Int := (Nat.log2 num : Int) - (Nat.log2 den : Int)
  let low := max (l - 53) minExponent
  let (n, d) := scaleTwo num den (-low)
  let e := if Nat.pow 2 53 ≤ n / d then low + 1 else low
  let (n, d) := scaleTwo num den (-e)
  let m := roundHalfEven n d
  let (m, e) := if m = Nat.pow 2 53 then (Nat.pow 2 52, e + 1) else (m, e)
  if maxExponent < e then none else some (m, e)

/-- The number nearest to `digits * 10 ^ exponent`, a tie going to the even mantissa. There is
    none if that rounds beyond every finite number. -/
def Fraction.nearest? (negative : Bool) (digits : Nat) (exponent : Int) : Option Fraction :=
  if digits = 0 then some ⟨negative, 0, minExponent⟩
  else
    let size := ((Nat.toDigits 10 digits).length : Int) + exponent
    if 400 < size then none
    else if size < -400 then some ⟨negative, 0, minExponent⟩
    else
      let (num, den) := scaleTen digits 1 exponent
      (nearestQuotient? num den).map fun (m, e) => ⟨negative, m, e⟩

/-! ## 2. The fewest digits -/

/-- The exponent of ten of the leading digit of a positive quotient. -/
def leadingExponent (num den : Nat) : Int :=
  if den ≤ num then ((Nat.toDigits 10 (num / den)).length : Int) - 1
  else
    let places := (Nat.toDigits 10 (den / num)).length
    if den ≤ num * Nat.pow 10 (places - 1) then -((places : Int) - 1) else -(places : Int)

/-- Whether a quotient lies between two others, the ends included if `closed`. -/
def between (closed : Bool) (low high value : Nat × Nat) : Bool :=
  let (ln, ld) := low
  let (hn, hd) := high
  let (n, d) := value
  if closed then ln * d ≤ n * ld && n * hd ≤ hn * d
  else ln * d < n * ld && n * hd < hn * d

/-- The fewest digits, at most 17 of them, of a decimal between the midpoints to the neighbours,
    the one nearest to the number itself, a tie going to the even last digit; and the exponent of
    ten of their last place. `places` counts the numbers of digits still to be tried. -/
def shortestFrom (value low high : Nat × Nat) (closed : Bool) (lead : Int) :
    (places : Nat) → Nat × Int
  | 0 => (0, 0)
  | places + 1 =>
    let last := lead - (16 - (places : Int))
    let (n, d) := scaleTen value.1 value.2 (-last)
    let below := n / d
    let above := below + 1
    let inside (c : Nat) : Bool := between closed low high (scaleTen c 1 last)
    if inside below && inside above then (roundHalfEven n d, last)
    else if inside below then (below, last)
    else if inside above then (above, last)
    else shortestFrom value low high closed lead places

/-- The fewest digits that read back as the number, and the exponent of ten of their last place. -/
def Fraction.shortest (x : Fraction) : Nat × Int :=
  if x.mantissa = 0 then (0, 0)
  else
    let value := scaleTwo x.mantissa 1 x.exponent
    -- midpoints in quarters of the last place: below a power of two the neighbour is nearer
    let gap := if x.mantissa = Nat.pow 2 52 ∧ x.exponent ≠ minExponent then 1 else 2
    let low := scaleTwo (4 * x.mantissa - gap) 1 (x.exponent - 2)
    let high := scaleTwo (4 * x.mantissa + 2) 1 (x.exponent - 2)
    shortestFrom value low high (x.mantissa % 2 = 0) (leadingExponent value.1 value.2) 17

/-! ## 3. The layout -/

/-- How digits are laid out: positionally while the exponent of the leading digit lies between two
    bounds, with an exponent of its own otherwise. -/
structure FractionLayout where
  leastPositional : Int
  greatestPositional : Int

/-- Messages write numbers from a hundred thousandth up to sixteen digits positionally. -/
def messageLayout : FractionLayout :=
  ⟨-5, 15⟩

/-- The digits without the zeros at their end, and the exponent of the last place left. -/
def dropZeros (digits : List Char) (last : Int) : List Char × Int :=
  let kept := (digits.reverse.dropWhile (· == '0')).reverse
  (kept, last + ((digits.length - kept.length : Nat) : Int))

/-- Digits whose last place has exponent `last`, in a layout. -/
def layOut (layout : FractionLayout) (digits : List Char) (last : Int) : List Char :=
  let lead := last + ((digits.length : Int) - 1)
  if layout.leastPositional ≤ lead ∧ lead ≤ layout.greatestPositional then
    if 0 ≤ last then digits ++ List.replicate last.toNat '0' ++ ['.', '0']
    else if 0 ≤ lead then
      let whole := (lead + 1).toNat
      digits.take whole ++ '.' :: digits.drop whole
    else '0' :: '.' :: List.replicate ((-lead).toNat - 1) '0' ++ digits
  else
    let fraction := digits.drop 1
    digits.take 1 ++ (if fraction.isEmpty then [] else '.' :: fraction) ++ 'e' ::
      (if lead < 0 then '-' else '+') :: Nat.toDigits 10 lead.natAbs

/-- The number in its fewest digits, as messages write it. -/
def Fraction.show (x : Fraction) : String :=
  let sign := if x.negative then ['-'] else []
  if x.mantissa = 0 then String.ofList (sign ++ ['0', '.', '0'])
  else
    let (n, last) := x.shortest
    let (digits, last) := dropZeros (Nat.toDigits 10 n) last
    String.ofList (sign ++ layOut messageLayout digits last)

/-! ## 4. Reading -/

/-- The number that decimal digits write. -/
def digitsValue (ds : List Char) : Nat :=
  ds.foldl (fun n c => 10 * n + (c.toNat - '0'.toNat)) 0

/-- The exponent that follows an `e`: an optional sign and digits. Nothing written is zero. -/
def readExponent? : List Char → Option Int
  | [] => some 0
  | e :: rest =>
    if e = 'e' ∨ e = 'E' then
      match rest with
      | '-' :: ds => if !ds.isEmpty && ds.all Char.isDigit then some (-(digitsValue ds)) else none
      | '+' :: ds => if !ds.isEmpty && ds.all Char.isDigit then some (digitsValue ds) else none
      | ds => if !ds.isEmpty && ds.all Char.isDigit then some (digitsValue ds) else none
    else none

/-- The digits and the exponent of ten of an unsigned decimal fraction: digits with a point
    anywhere among them, or none, and an optional exponent. -/
def readUnsigned? (cs : List Char) : Option (Nat × Int) :=
  let whole := cs.takeWhile Char.isDigit
  let rest := cs.dropWhile Char.isDigit
  let (fraction, rest) :=
    match rest with
    | '.' :: more => (more.takeWhile Char.isDigit, more.dropWhile Char.isDigit)
    | rest => ([], rest)
  if whole.isEmpty && fraction.isEmpty then none
  else (readExponent? rest).map fun e =>
    (digitsValue (whole ++ fraction), e - (fraction.length : Int))

/-- The sign of a text, if it starts with one, and what is behind it. -/
def splitSign : List Char → Bool × List Char
  | '-' :: rest => (true, rest)
  | '+' :: rest => (false, rest)
  | cs => (false, cs)

/-- The sign, the digits and the exponent of ten of a decimal fraction. -/
def readFraction? (cs : List Char) : Option (Bool × Nat × Int) :=
  let (negative, rest) := splitSign cs
  (readUnsigned? rest).map fun (digits, e) => (negative, digits, e)

end MarkupRules.Text
