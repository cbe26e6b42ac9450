/-!
# Characters with their places

YAML gives meaning to the place of a character: its column, what stands before it on its line, and
whether a blank stands before it.

* `Glyph` -- a character with its place;
* `glyphs` -- the characters of a text, line breaks in one form and a byte order mark left out; a
  NUL character closes them;
* `skipBlanks`, `skipLine?`, `skipSpace?` -- what follows blanks, what follows blanks and a comment
  on the same line, and what follows blanks, comments and breaks.
-/

namespace MarkupRules.Yaml

/-! ## 1. Characters in their places -/

/-- A character with its place. -/
structure Glyph where
  char : Char
  line : Nat
  column : Nat
  /-- Whether there is nothing but blanks before the character on its line. -/
  leading : Bool
  /-- Whether the character starts its line or follows a blank. -/
  spaced : Bool
  deriving DecidableEq, Repr

/-- A space or a tab. -/
def isBlankChar (c : Char) : Bool :=
  c == ' ' || c == '\t'

/-- A line break, or the NUL character at the end of a text. -/
def isBreakChar (c : Char) : Bool :=
  c == '\n' || c == '\x00'

/-- The characters that delimit flow collections. -/
def isFlowIndicator (c : Char) : Bool :=
  c == ',' || c == '[' || c == ']' || c == '\x7b' || c == '\x7d'

/-- Every line break as one line feed. -/
def normalizeBreaks : List Char → List Char
  | '\r' :: '\n' :: rest => '\n' :: normalizeBreaks rest
  | '\r' :: rest => '\n' :: normalizeBreaks rest
  | c :: rest => c :: normalizeBreaks rest
  | [] => []

/-- The glyphs from a column of a line on. At a line feed the next line starts. -/
def place (line column : Nat) (leading spaced : Bool) : List Char → List Glyph
  | [] => []
  | c :: rest =>
    ⟨c, line, column, leading, spaced⟩ ::
      if c = '\n' then place (line + 1) 0 true true rest
      else place line (column + 1) (leading && isBlankChar c) (isBlankChar c) rest

/-- The glyphs of a text. A NUL character in it ends it. -/
def glyphs (text : String) : List Glyph :=
  let cs := match text.toList with
    | '\ufeff' :: rest => rest
    | cs => cs
  place 0 0 true true (normalizeBreaks (cs.takeWhile (· != '\x00')) ++ ['\x00'])

/-! ## 2. Questions about what comes next -/

/-- Whether the text ends here. -/
def endNext : List Glyph → Bool
  | [] => true
  | g :: _ => g.char == '\x00'

/-- Whether a line break or the end comes next. -/
def breakNext : List Glyph → Bool
  | [] => true
  | g :: _ => isBreakChar g.char

/-- Whether a blank, a line break or the end comes next. -/
def spaceNext : List Glyph → Bool
  | [] => true
  | g :: _ => isBlankChar g.char || isBreakChar g.char

/-- Whether this very character comes next. -/
def charNext (c : Char) : List Glyph → Bool
  | [] => false
  | g :: _ => g.char == c

/-- Whether a character that delimits flow collections comes next. -/
def flowNext : List Glyph → Bool
  | [] => false
  | g :: _ => isFlowIndicator g.char

/-- Whether a lone `c` comes next, with space or the end behind it. -/
def loneNext (c : Char) : List Glyph → Bool
  | [] => false
  | g :: rest => g.char == c && spaceNext rest

/-- Whether three times `c` comes next, with space or the end behind it. -/
def tripleNext (c : Char) : List Glyph → Bool
  | g :: g' :: g'' :: rest => g.char == c && g'.char == c && g''.char == c && spaceNext rest
  | _ => false

/-- Whether the marker of a document's start or end comes next. -/
def markerNext (cs : List Glyph) : Bool :=
  tripleNext '-' cs || tripleNext '.' cs

/-- The line on which the text goes on. -/
def lineOf (cs : List Glyph) : Nat :=
  (cs.head?.map (·.line)).getD 0

/-- The column at which the text goes on. -/
def columnOf (cs : List Glyph) : Nat :=
  (cs.head?.map (·.column)).getD 0

/-! ## 3. Skipping -/

/-- What follows the blanks. -/
def skipBlanks (cs : List Glyph) : List Glyph :=
  cs.dropWhile fun g => isBlankChar g.char

/-- The line break that ends the line, or the end of the text, and what follows it. -/
def skipToBreak (cs : List Glyph) : List Glyph :=
  cs.dropWhile fun g => !isBreakChar g.char

/-- What follows the blanks and a comment on the same line. A comment needs a blank before it. -/
def skipLine? (cs : List Glyph) : Option (List Glyph) :=
  if charNext '#' cs then none
  else if charNext '#' (skipBlanks cs) then some (skipToBreak cs)
  else some (skipBlanks cs)

/-- Where between two things of the text the reading is. -/
inductive Gap where
  | blank
  | comment
  /-- On a line that a tab indents: nothing but a comment may stand on it. -/
  | tabbed
  deriving DecidableEq, Repr

/-- What follows the blanks, comments and line breaks. Tabs do not count as an indentation by
    `indent` columns. -/
def skipSpace? (indent : Int) : Gap → List Glyph → Option (List Glyph)
  | _, [] => some []
  | gap, g :: rest =>
    if g.char = '\n' then skipSpace? indent .blank rest
    else if g.char = '\x00' then some (g :: rest)
    else match gap with
      | .comment => skipSpace? indent .comment rest
      | .blank =>
        if g.char = '\t' ∧ g.leading ∧ g.column < indent then skipSpace? indent .tabbed rest
        else if isBlankChar g.char then skipSpace? indent .blank rest
        else if g.char = '#' then skipSpace? indent .comment rest
        else some (g :: rest)
      | .tabbed =>
        if isBlankChar g.char then skipSpace? indent .tabbed rest
        else if g.char = '#' then skipSpace? indent .comment rest
        else none

end MarkupRules.Yaml
