import MarkupRules.Yaml.Glyph

/-!
# Block scalars

A block scalar is written in the lines below its header, all of them indented. A literal one keeps
its line breaks; in a folded one a break between two lines that start without a blank is a space.

* `Header` -- whether the scalar folds, what becomes of its last breaks, and its indentation;
* `Header.scanLines` -- the text of the lines, without their indentation;
* `scanBlock` -- a whole block scalar.
-/

namespace MarkupRules.Yaml

/-! ## 1. The header -/

/-- What becomes of the line breaks at the end of a block scalar. -/
inductive Chomping where
  /-- All of them are left out. -/
  | strip
  /-- The break of the last line is kept. -/
  | clip
  /-- All of them are kept. -/
  | keep
  deriving DecidableEq, Repr

/-- The header of a block scalar. -/
structure Header where
  folded : Bool
  chomping : Option Chomping := none
  /-- The indentation of the lines beyond that of the parent, if it is given. -/
  increment : Option Nat := none

/-- The header with one more indicator, if it is one and the first of its kind. -/
def Header.indicator? (h : Header) (c : Char) : Option Header :=
  if c = '-' ∧ h.chomping = none then some { h with chomping := some .strip }
  else if c = '+' ∧ h.chomping = none then some { h with chomping := some .keep }
  else if '1' ≤ c ∧ c ≤ '9' ∧ h.increment = none then
    some { h with increment := some (c.toNat - '0'.toNat) }
  else none

/-- The header with its indicators, and what is left of the text from its line break on. Nothing
    but a comment may follow the indicators. -/
def Header.read? (h : Header) : List Glyph → Option (Header × List Glyph)
  | [] => some (h, [])
  | g :: rest =>
    match h.indicator? g.char with
    | some h => h.read? rest
    | none =>
      (skipLine? (g :: rest)).bind fun behind =>
        if breakNext behind then some (h, behind) else none

/-! ## 2. Indentation -/

/-- The number of empty lines, and what follows them and at most `limit` columns of spaces. -/
def skipIndent (limit : Nat) : List Glyph → Nat × List Glyph
  | [] => (0, [])
  | g :: rest =>
    if g.char = '\n' then
      let (breaks, behind) := skipIndent limit rest
      (breaks + 1, behind)
    else if g.char = ' ' ∧ g.column < limit then skipIndent limit rest
    else (0, g :: rest)

/-- The greatest indentation of the lines up to the first that has something in it. -/
def detectIndent : List Glyph → Nat
  | [] => 0
  | g :: rest =>
    if g.char = '\n' then max g.column (detectIndent rest)
    else if g.char = ' ' then detectIndent rest
    else g.column

/-! ## 3. The lines -/

/-- Where in a block scalar the reading is. -/
inductive BlockState where
  /-- In a line, which may have started with a blank. -/
  | line (blank : Bool)
  /-- Behind so many empty lines. The line before them, if there is one, may have started with a
      blank. -/
  | gap (before : Option Bool) (empties : Nat)

/-- What the space between two lines is in the text, the second of which may start with a blank. -/
def Header.space (h : Header) (before : Option Bool) (empties : Nat) (blank : Bool) : List Char :=
  match before with
  | none => List.replicate empties '\n'
  | some before =>
    if h.folded && !before && !blank then
      if empties = 0 then [' '] else List.replicate empties '\n'
    else List.replicate (empties + 1) '\n'

/-- What is left of the breaks behind the last line, `broken` being whether that line has a break
    of its own, and `more` whether the text ends in a further line that is indented. -/
def Header.ending (h : Header) (broken : Bool) (empties : Nat) (more : Bool) : List Char :=
  let own := (if broken then ['\n'] else []) ++ (if more then ['\n'] else [])
  match h.chomping.getD .clip with
  | .strip => []
  | .clip => own
  | .keep => own ++ List.replicate empties '\n'

/-- Whether the text ends here, on a line that is indented by `indent` columns. -/
def endsIndented (indent : Nat) (cs : List Glyph) : Bool :=
  endNext cs && decide (max indent 1 ≤ columnOf cs)

/-- The text of the lines that are indented by `indent` columns, and what follows them. -/
def Header.scanLines (h : Header) (indent : Nat) : BlockState → List Glyph → List Char × List Glyph
  | .line _, [] => (h.ending false 0 false, [])
  | .gap before empties, [] => (h.ending before.isSome empties false, [])
  | .line blank, g :: rest =>
    if g.char = '\n' then h.scanLines indent (.gap (some blank) 0) rest
    else if g.char = '\x00' then
      (h.ending false 0 (endsIndented indent (g :: rest)), g :: rest)
    else
      let (cs, behind) := h.scanLines indent (.line blank) rest
      (g.char :: cs, behind)
  | .gap before empties, g :: rest =>
    if g.char = '\n' then h.scanLines indent (.gap before (empties + 1)) rest
    else if g.char = ' ' ∧ g.column < indent then h.scanLines indent (.gap before empties) rest
    else if g.char = '\x00' ∨ g.column ≠ indent ∨ indent = 0 ∧ tripleNext '.' (g :: rest) then
      (h.ending before.isSome empties (endsIndented indent (g :: rest)), g :: rest)
    else
      let blank := isBlankChar g.char
      let (cs, behind) := h.scanLines indent (.line blank) rest
      (h.space before empties blank ++ g.char :: cs, behind)

/-! ## 4. The whole scalar -/

/-- The text of a scalar without a line that has something in it. -/
def Header.emptyText (h : Header) (empties : Nat) : List Char :=
  match h.chomping.getD .clip with
  | .strip => []
  | .clip => ['\n']
  | .keep => List.replicate (max empties 1) '\n'

/-- The text of a block scalar from its header on, and what follows it. Around it, collections are
    indented by `parent` columns. Its first line is indented by no less than the empty lines before
    it, and no tab indents it. -/
def scanBlock (folded : Bool) (parent : Int) (cs : List Glyph) :
    Option (List Char × List Glyph) := do
  let (h, behind) ← Header.read? ⟨folded, none, none⟩ cs
  let lines := if endNext behind then behind else behind.drop 1
  if charNext '\t' lines then none
  else
    let indent := match h.increment with
      | some n => parent.toNat + n
      | none => max (detectIndent lines) (parent + 1).toNat
    let (empties, start) := skipIndent indent lines
    if endNext start then some (if endNext behind then [] else h.emptyText empties, start)
    else if columnOf start < indent ∧ parent < columnOf start then none
    else some (h.scanLines indent (.gap none empties) start)

end MarkupRules.Yaml
