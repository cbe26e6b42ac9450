import MarkupRules.Path.Expr
import MarkupRules.Text.Integer
import MarkupRules.Text.Letter
import MarkupRules.Text.Numeral

/-!
# Tokens of path expressions

The text of an expression is cut into tokens, blanks between them left out:

* `Problem` -- why an expression is not supported, and the words for it;
* `Token`, `Placed` -- a token, and a token with the offset in bytes where it starts;
* `takeName` -- the longest name at the start of a text;
* `readToken` -- the one token at the start of a text;
* `tokens` -- all tokens of a text.
-/

namespace MarkupRules.Path

/-! ## 1. What can go wrong -/

/-- Why an expression is not supported. -/
inductive Problem where
  | unterminatedLiteral
  | numberOutOfRange
  | unexpectedCharacter (c : Char)
  | expectedBracket
  | expectedParenthesis
  | expectedNodeTest
  | expectedOperand
  | unsupportedAxis (name : String)
  | unsupportedFunction (name : String)
  | countNotCompared
  | positionBelowOne
  | bareLiteral
  | orderedLiteral
  | trailingInput
  deriving DecidableEq, Repr

/-- The words for a problem. -/
def Problem.detail : Problem → String
  | .unterminatedLiteral => "unterminated string literal"
  | .numberOutOfRange => "number out of range"
  | .unexpectedCharacter c => "unexpected character '" ++ c.toString ++ "'"
  | .expectedBracket => "expected ']'"
  | .expectedParenthesis => "expected ')'"
  | .expectedNodeTest => "expected a node test"
  | .expectedOperand => "expected a literal or number"
  | .unsupportedAxis name => "unsupported axis '" ++ name ++ "'"
  | .unsupportedFunction name => "unsupported function '" ++ name ++ "()'"
  | .countNotCompared => "count() must be compared against a number"
  | .positionBelowOne => "positions start at 1"
  | .bareLiteral => "bare literals are not supported"
  | .orderedLiteral => "ordering comparison against a string literal"
  | .trailingInput => "unexpected trailing input"

/-! ## 2. Tokens -/

/-- A token of a path expression. -/
inductive Token where
  | slash
  | doubleSlash
  | openBracket
  | closeBracket
  | openParenthesis
  | closeParenthesis
  | atSign
  | dot
  | dotDot
  | pipe
  | colonColon
  | star
  | comparison (c : Comparison)
  | literal (value : String)
  | number (value : Int)
  | name (name : String)
  deriving DecidableEq, Repr

/-- A token and the offset in bytes where it starts. -/
structure Placed where
  token : Token
  offset : Nat
  deriving DecidableEq, Repr

/-- A character that a name may start with. -/
def isNameStart (c : Char) : Bool :=
  Text.isLetter c || c == '_'

/-- A character that may stand inside a name. -/
def isNameChar (c : Char) : Bool :=
  Text.isLetter c || Text.isNumeral c || c == '-' || c == '_' || c == '.'

/-- The longest continuation of a name, and what is behind it. A single colon belongs to the name
    if a name could start behind it, as in `xml:lang`. -/
def takeName : List Char → List Char × List Char
  | [] => ([], [])
  | c :: rest =>
    if isNameChar c then
      let (more, behind) := takeName rest
      (c :: more, behind)
    else match c, rest with
      | ':', d :: rest' =>
        if isNameStart d then
          let (more, behind) := takeName rest'
          (':' :: d :: more, behind)
        else ([], ':' :: d :: rest')
      | c, rest => ([], c :: rest)

/-- The token that starts with `c`, which is no blank, and what is behind it. -/
def readToken (c : Char) (rest : List Char) : Except Problem (Token × List Char) :=
  match c, rest with
  | '/', '/' :: rest => .ok (.doubleSlash, rest)
  | '/', rest => .ok (.slash, rest)
  | '[', rest => .ok (.openBracket, rest)
  | ']', rest => .ok (.closeBracket, rest)
  | '(', rest => .ok (.openParenthesis, rest)
  | ')', rest => .ok (.closeParenthesis, rest)
  | '@', rest => .ok (.atSign, rest)
  | '|', rest => .ok (.pipe, rest)
  | '*', rest => .ok (.star, rest)
  | '.', '.' :: rest => .ok (.dotDot, rest)
  | '.', rest => .ok (.dot, rest)
  | ':', ':' :: rest => .ok (.colonColon, rest)
  | '=', rest => .ok (.comparison .eq, rest)
  | '!', '=' :: rest => .ok (.comparison .ne, rest)
  | '<', '=' :: rest => .ok (.comparison .le, rest)
  | '<', rest => .ok (.comparison .lt, rest)
  | '>', '=' :: rest => .ok (.comparison .ge, rest)
  | '>', rest => .ok (.comparison .gt, rest)
  | c, rest =>
    if c = '\x27' || c = '\x22' then
      match rest.dropWhile (· != c) with
      | [] => .error .unterminatedLiteral
      | _ :: behind => .ok (.literal (String.ofList (rest.takeWhile (· != c))), behind)
    else if c.isDigit then
      match Text.readInteger? (c :: rest.takeWhile Char.isDigit) with
      | none => .error .numberOutOfRange
      | some n => .ok (.number n, rest.dropWhile Char.isDigit)
    else if isNameStart c then
      let (more, behind) := takeName rest
      .ok (.name (String.ofList (c :: more)), behind)
    else .error (.unexpectedCharacter c)

/-! ## 3. A token leaves less to read -/

theorem length_dropWhile_le {α : Type} (p : α → Bool) (l : List α) :
    (l.dropWhile p).length ≤ l.length :=
  (List.dropWhile_sublist p).length_le

theorem length_takeName_le : ∀ cs : List Char, (takeName cs).2.length ≤ cs.length
  | [] => Nat.le_refl _
  | c :: rest => by
    unfold takeName
    split
    · exact Nat.le_succ_of_le (length_takeName_le rest)
    · split
      · rename_i d rest' _
        split
        · have := length_takeName_le rest'
          simp only [List.length_cons]
          omega
        · exact Nat.le_refl _
      · exact Nat.le_refl _

/-- What is behind a token is no longer than what follows its first character. -/
theorem length_le_of_readToken {c : Char} {rest behind : List Char} {t : Token}
    (h : readToken c rest = .ok (t, behind)) : behind.length ≤ rest.length := by
  unfold readToken at h
  split at h
  all_goals try (cases h; exact Nat.le_refl _)
  all_goals try (cases h; exact Nat.le_succ _)
  split at h
  · split at h
    · cases h
    · rename_i hd
      cases h
      have := length_dropWhile_le (· != c) rest
      rw [hd, List.length_cons] at this
      omega
  · split at h
    · split at h
      · cases h
      · cases h
        exact length_dropWhile_le _ _
    · split at h
      · cases h
        exact length_takeName_le rest
      · cases h

/-! ## 4. All tokens of a text -/

/-- The length in bytes of a text in UTF-8. -/
def byteLength (cs : List Char) : Nat :=
  cs.foldr (fun c n => c.utf8Size + n) 0

/-- The tokens of `cs`, the end of a text of `total` bytes. A problem comes with its offset. -/
def tokensFrom (total : Nat) (cs : List Char) : Except (Problem × Nat) (List Placed) :=
  match cs with
  | [] => .ok []
  | c :: rest =>
    if Text.isBlank c then tokensFrom total rest
    else
      let offset := total - byteLength (c :: rest)
      match h : readToken c rest with
      | .error problem => .error (problem, offset)
      | .ok (token, behind) =>
        have := length_le_of_readToken h
        (tokensFrom total behind).map (⟨token, offset⟩ :: ·)
termination_by cs.length
decreasing_by all_goals simp only [List.length_cons]; omega

/-- The tokens of a text, or the first problem and its offset. -/
def tokens (cs : List Char) : Except (Problem × Nat) (List Placed) :=
  tokensFrom (byteLength cs) cs

end MarkupRules.Path
