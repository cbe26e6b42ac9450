import MarkupRules.Yaml.Token

/-!
# What is open in a text

Between two tokens of a text it matters which collections are open. Those in block style are known
by their columns, those in flow style by their brackets and braces. A key is known only by the
colon behind it, so a token can be a candidate for a key until then.

* `Level` -- a level of indentation;
* `Candidate` -- a token that is a key if a colon follows;
* `Nesting` -- the tokens so far, the levels, the flow collections and the candidates;
* `Nesting.settled` -- the tokens that no colon can change any more.
-/

namespace MarkupRules.Yaml

/-! ## 1. Levels, candidates, and flow collections -/

/-- A level of indentation. -/
structure Level where
  column : Nat
  /-- Whether a collection in block style has opened the level. If not, the level is there for the
      value of a key or a dash, and nothing has to close it. -/
  collection : Bool
  deriving DecidableEq, Repr

/-- A token that is a key if a colon follows. -/
structure Candidate where
  /-- The number of tokens before it. -/
  position : Nat
  line : Nat
  column : Nat
  /-- Whether nothing but a key can stand there. -/
  required : Bool
  deriving DecidableEq, Repr

/-- Whether a candidate is none any more: a key ends on its line, within 1024 characters. -/
def Candidate.isStale (k : Candidate) (cs : List Glyph) : Bool :=
  decide (k.line < lineOf cs) || decide (k.column + 1024 < columnOf cs)

/-- An open collection in flow style. -/
structure Flow where
  /-- The candidate around it. -/
  outer : Option Candidate
  /-- Whether it stands in brackets. -/
  brackets : Bool
  /-- Whether a pair of key and value is open in the brackets. -/
  pair : Bool := false
  deriving DecidableEq, Repr

/-- What is known at a place of a text. The innermost levels and collections come first. -/
structure Nesting where
  tokens : Array Token := #[]
  levels : List Level := []
  flows : List Flow := []
  candidate : Option Candidate := none
  /-- Whether a key in block style can start. -/
  keyAllowed : Bool := true
  /-- Whether the last token is an anchor or a tag in the first column. -/
  propertyFirst : Bool := false
  /-- Whether a brace or the mark of a key has been met since the last pair in brackets. -/
  marked : Bool := false
  /-- Where a colon separates a key from a value whatever follows it. -/
  adjacent : Option (Nat × Nat) := none

namespace Nesting

/-- Whether a collection in flow style is open. -/
def inFlow (s : Nesting) : Bool :=
  !s.flows.isEmpty

/-- The column of the innermost level. -/
def indent (s : Nesting) : Int :=
  match s.levels with
  | [] => -1
  | level :: _ => level.column

/-- Whether the innermost level is that of a collection. -/
def inCollection (s : Nesting) : Bool :=
  s.levels.head?.any (·.collection)

/-- One more token. -/
def push (s : Nesting) (t : Token) : Nesting :=
  { s with tokens := s.tokens.push t, propertyFirst := false }

/-- One more token, before those from a position on. -/
def insert (s : Nesting) (position : Nat) (t : Token) : Nesting :=
  { s with tokens := s.tokens.insertIdxIfInBounds position t, propertyFirst := false }

/-! ## 2. Levels of indentation -/

/-- The number of collections that are closed by what stands at a column, and the levels left. -/
def closeLevels (column : Int) : List Level → Nat × List Level
  | [] => (0, [])
  | level :: rest =>
    if column < level.column then
      let (n, left) := closeLevels column rest
      (n + (if level.collection then 1 else 0), left)
    else (0, level :: rest)

/-- The collections closed that are indented by more than a column. In flow style columns close
    nothing. -/
def closeTo (s : Nesting) (column : Int) : Nesting :=
  if s.inFlow then s
  else
    let (n, left) := closeLevels column s.levels
    { s with
      levels := left
      tokens := s.tokens ++ List.replicate n Token.blockEnd
      propertyFirst := s.propertyFirst && n == 0 }

/-- A collection in block style opened at a column, if none is open there, its first token being
    put before those from a position on. -/
def openBlock (s : Nesting) (column position : Nat) (start : Token) : Nesting :=
  if s.inFlow then s
  else
    let levels :=
      if s.indent ≤ (column : Int) ∧ !s.inCollection then s.levels.drop 1 else s.levels
    let left := { s with levels := levels }
    if left.indent < (column : Int) then
      { left with levels := ⟨column, true⟩ :: levels }.insert position start
    else left

/-- A level opened for what follows a key or a dash. -/
def openContent (s : Nesting) : Nesting :=
  match s.flows, s.levels with
  | [], level :: rest =>
    if level.collection then { s with levels := ⟨level.column + 1, false⟩ :: level :: rest } else s
  | _, _ => s

/-- The levels of collections only. -/
def closeContent (s : Nesting) : Nesting :=
  { s with levels := s.levels.dropWhile fun level => !level.collection }

/-! ## 3. Candidates for keys -/

/-- What comes next offered as a key, if a key can start. -/
def offer (s : Nesting) (cs : List Glyph) : Nesting :=
  if s.keyAllowed then
    let required := !s.inFlow && s.inCollection && s.indent == columnOf cs
    { s with candidate := some ⟨s.tokens.size, lineOf cs, columnOf cs, required⟩ }
  else s

/-- The candidate given up, if it does not have to be a key. -/
def withdraw? (s : Nesting) : Option Nesting :=
  if s.candidate.any (·.required) then none else some { s with candidate := none }

/-- A stale candidate given up. Inside a flow collection none is stale. -/
def refresh? (s : Nesting) (cs : List Glyph) : Option Nesting :=
  if !s.inFlow && s.candidate.any (·.isStale cs) then s.withdraw? else some s

/-- The tokens before all candidates. No colon behind them changes them. -/
def settled (s : Nesting) (cs : List Glyph) : List Token :=
  let current := s.candidate.filter fun k => s.inFlow || !k.isStale cs
  let candidates := current.toList ++ s.flows.filterMap (·.outer)
  s.tokens.toList.take ((candidates.map (·.position)).foldl min s.tokens.size)

/-! ## 4. Pairs in brackets -/

/-- Whether a colon opens a pair in brackets. -/
def opensPair (s : Nesting) : Bool :=
  !s.marked && s.flows.head?.any (·.brackets)

/-- The innermost collection with a pair open or not. -/
def setPair (s : Nesting) (pair : Bool) : Nesting :=
  match s.flows with
  | [] => s
  | flow :: outer => { s with flows := { flow with pair := pair } :: outer }

/-- The pair closed that is open in the innermost brackets, if there is one. -/
def closePair (s : Nesting) : Nesting :=
  if s.flows.head?.any (·.pair) then
    ({ s with marked := false }.setPair false).push .braceClose
  else s

end Nesting

end MarkupRules.Yaml
