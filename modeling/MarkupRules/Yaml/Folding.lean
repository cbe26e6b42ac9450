import MarkupRules.Yaml.Glyph
import MarkupRules.Yaml.Scalar

/-!
# Scalars that fold

Plain and quoted scalars can go over several lines. Blanks around a line break do not count, one
break reads as a space, and of several breaks the first one does not count.

* `Pending` -- blanks and breaks of which it is not yet known whether more of the scalar follows;
* `scanPlain` -- a scalar without quotes;
* `scanSingle`, `scanDouble` -- a scalar between single or double quotes.

In block style the further lines of a scalar have to be indented by more than `indent` columns.
-/

namespace MarkupRules.Yaml

/-! ## 1. Folding -/

/-- Blanks and line breaks inside a scalar. -/
structure Pending where
  blanks : List Char := []
  breaks : Nat := 0
  /-- Whether the line before ended in an escape. -/
  escaped : Bool := false
  /-- Whether a comment is left out up to the end of its line. -/
  comment : Bool := false

namespace Pending

/-- Whether a new line has been started. -/
def onNewLine (p : Pending) : Bool :=
  p.escaped || p.breaks != 0

/-- One more blank. It counts only behind something else on its line. -/
def blank (p : Pending) (c : Char) : Pending :=
  if p.onNewLine then p else { p with blanks := p.blanks ++ [c] }

/-- One more line break. -/
def lineBreak (p : Pending) : Pending :=
  { p with blanks := [], breaks := p.breaks + 1, comment := false }

/-- What the blanks and breaks are in the scalar, now that more of it follows. -/
def chars (p : Pending) : List Char :=
  if p.escaped then List.replicate p.breaks '\n'
  else match p.breaks with
    | 0 => p.blanks
    | 1 => [' ']
    | n + 2 => List.replicate (n + 1) '\n'

/-- Whether a tab stands where a new line has to be indented by `indent` columns. -/
def badTab (p : Pending) (indent : Int) (g : Glyph) : Bool :=
  p.onNewLine && g.char == '\t' && decide (g.column < indent)

/-- Whether a new line of a scalar in block style is indented too little. -/
def outside (p : Pending) (inFlow : Bool) (indent : Int) (g : Glyph) : Bool :=
  !inFlow && p.onNewLine && decide (g.column ≤ indent)

end Pending

/-! ## 2. Plain scalars -/

/-- Whether a value indicator is here: a colon with space or, inside a flow collection, a flow
    indicator behind it. -/
def colonNext (inFlow : Bool) : List Glyph → Bool
  | [] => false
  | g :: rest => g.char == ':' && (spaceNext rest || inFlow && flowNext rest)

/-- Whether a hyphen is here that has a flow indicator behind it. -/
def hyphenFlowNext : List Glyph → Bool
  | [] => false
  | g :: rest => g.char == '-' && flowNext rest

/-- Whether a plain scalar cannot go on here: at the end, at a value indicator, at a comment, at a
    flow indicator inside a flow collection, and at the marker of a document. -/
def plainEnds (inFlow : Bool) : List Glyph → Bool
  | [] => true
  | g :: rest =>
    g.char == '\x00' || g.char == '#' && g.spaced || colonNext inFlow (g :: rest) ||
      inFlow && isFlowIndicator g.char || g.leading && markerNext (g :: rest)

/-- The characters of a plain scalar from here on, and what follows it and the space behind it. A
    tab does not indent a line, but a line with a tab and a comment counts as empty. -/
def scanPlain (inFlow : Bool) (indent : Int) (p : Pending) :
    List Glyph → Option (List Char × List Glyph)
  | [] => some ([], [])
  | g :: rest =>
    if g.char = '\n' then scanPlain inFlow indent p.lineBreak rest
    else if p.comment && g.char != '\x00' then scanPlain inFlow indent p rest
    else if isBlankChar g.char then
      if p.badTab (indent + 1) g then
        let behind := skipBlanks rest
        if breakNext behind || charNext '#' behind then
          scanPlain inFlow indent { p with comment := true } rest
        else none
      else scanPlain inFlow indent (p.blank g.char) rest
    else if plainEnds inFlow (g :: rest) || p.outside inFlow indent g then some ([], g :: rest)
    else if inFlow && g.spaced && hyphenFlowNext (g :: rest) then none
    else
      (scanPlain inFlow indent {} rest).map fun (cs, behind) => (p.chars ++ g.char :: cs, behind)

/-! ## 3. Quoted scalars -/

/-- Whether a quoted scalar cannot go on here, on a new line: the marker of a document stands here,
    or something other than the quote is not indented in block style. -/
def badLine (inFlow : Bool) (indent : Int) (quote : Char) (p : Pending) : List Glyph → Bool
  | [] => false
  | g :: rest =>
    p.onNewLine && g.column == 0 && markerNext (g :: rest) ||
      p.outside inFlow indent g && g.char != quote

/-- The characters of a scalar up to its closing single quote, and what follows it. Two quotes are
    one quote of the scalar; `quote` says whether a first one has been met. -/
def scanSingle (inFlow : Bool) (indent : Int) (p : Pending) (quote : Bool) :
    List Glyph → Option (List Char × List Glyph)
  | [] => none
  | g :: rest =>
    if quote then
      if g.char = '\x27' then
        (scanSingle inFlow indent {} false rest).map fun (cs, behind) => (g.char :: cs, behind)
      else some ([], g :: rest)
    else if g.char = '\n' then scanSingle inFlow indent p.lineBreak false rest
    else if isBlankChar g.char then
      if p.badTab indent g then none else scanSingle inFlow indent (p.blank g.char) false rest
    else if g.char = '\x00' || badLine inFlow indent '\x27' p (g :: rest) then none
    else if g.char = '\x27' then
      (scanSingle inFlow indent {} true rest).map fun (cs, behind) => (p.chars ++ cs, behind)
    else
      (scanSingle inFlow indent {} false rest).map fun (cs, behind) =>
        (p.chars ++ g.char :: cs, behind)

/-- What a letter behind a backslash stands for. -/
def escapeValue? (c : Char) : Option Char :=
  [('0', '\x00'), ('a', '\x07'), ('b', '\x08'), ('t', '\t'), ('\t', '\t'), ('n', '\n'),
    ('v', '\x0b'), ('f', '\x0c'), ('r', '\r'), ('e', '\x1b'), (' ', ' '), ('\x22', '\x22'),
    ('/', '/'), ('\\', '\\'), ('N', '\u0085'), ('_', '\u00a0'), ('L', '\u2028'),
    ('P', '\u2029')].lookup c

/-- The number of digits that follow a letter behind a backslash. -/
def escapeDigits? (c : Char) : Option Nat :=
  [('x', 2), ('u', 4), ('U', 8)].lookup c

/-- Where in a double-quoted scalar the reading is. -/
inductive DoubleState where
  | text (p : Pending)
  /-- Behind a backslash. -/
  | escape
  /-- In a code point with so many digits left. -/
  | code (left value : Nat)

/-- The characters of a scalar up to its closing double quote, and what follows it. -/
def scanDouble (inFlow : Bool) (indent : Int) (state : DoubleState) :
    List Glyph → Option (List Char × List Glyph)
  | [] => none
  | g :: rest =>
    match state with
    | .text p =>
      if g.char = '\n' then scanDouble inFlow indent (.text p.lineBreak) rest
      else if isBlankChar g.char then
        if p.badTab indent g then none
        else scanDouble inFlow indent (.text (p.blank g.char)) rest
      else if g.char = '\x00' || badLine inFlow indent '\x22' p (g :: rest) then none
      else if g.char = '\x22' then some (p.chars, rest)
      else if g.char = '\\' then
        (scanDouble inFlow indent .escape rest).map fun (cs, behind) => (p.chars ++ cs, behind)
      else
        (scanDouble inFlow indent (.text {}) rest).map fun (cs, behind) =>
          (p.chars ++ g.char :: cs, behind)
    | .escape =>
      if g.char = '\n' then scanDouble inFlow indent (.text { escaped := true }) rest
      else match escapeValue? g.char, escapeDigits? g.char with
        | some c, _ =>
          (scanDouble inFlow indent (.text {}) rest).map fun (cs, behind) => (c :: cs, behind)
        | none, some left => scanDouble inFlow indent (.code left 0) rest
        | none, none => none
    | .code left value =>
      match digitValue? g.char with
      | none => none
      | some d =>
        let value := 16 * value + d
        if 1 < left then scanDouble inFlow indent (.code (left - 1) value) rest
        else if value.isValidChar then
          (scanDouble inFlow indent (.text {}) rest).map fun (cs, behind) =>
            (Char.ofNat value :: cs, behind)
        else none

end MarkupRules.Yaml
