import MarkupRules.Yaml.BlockScalar
import MarkupRules.Yaml.Folding
import MarkupRules.Yaml.Nesting

/-!
# The tokens of a text

A text is cut into tokens from the left. Each takes at least one character, the end apart.

* `readDirective?` -- a line that starts with a percent sign;
* `Nesting.step?` -- the next token, with what it opens and closes;
* `tokens` -- all tokens, or those before the first thing that is no YAML.
-/

namespace MarkupRules.Yaml

/-! ## 1. Directives -/

/-- What follows the version that a directive asks for. -/
def skipVersion? (cs : List Glyph) : Option (List Glyph) :=
  let behind := cs.dropWhile (·.char.isDigit)
  let rest := (behind.drop 1).dropWhile (·.char.isDigit)
  let digits := behind.length < cs.length ∧ rest.length + 1 < behind.length
  if digits ∧ charNext '.' behind then some rest else none

/-- The handle that a directive explains, and what follows its explanation. -/
def readHandle? (cs : List Glyph) : Option (String × List Glyph) :=
  let name := (cs.drop 1).takeWhile isWordChar
  let closed := (cs.drop 1).dropWhile isWordChar
  if !charNext '!' cs then none
  else if !name.isEmpty && !charNext '!' closed then none
  else
    let behind := skipBlanks (if charNext '!' closed then closed.drop 1 else closed)
    let handle := String.ofList (name.map (·.char))
    if (behind.head?.any fun g => isTagChar g || g.char == '!') &&
        spaceNext (behind.dropWhile isFullTagChar) then
      some (handle, behind.dropWhile isFullTagChar)
    else none

/-- A directive behind its percent sign, and what follows it on its line. -/
def readDirective? (cs : List Glyph) : Option (Token × List Glyph) :=
  let name := String.ofList ((cs.takeWhile isWordChar).map (·.char))
  let behind := cs.dropWhile isWordChar
  if name = "" ∨ !spaceNext behind then none
  else if name = "YAML" then
    (skipVersion? (skipBlanks behind)).map fun rest => (.directive true none, rest)
  else if name = "TAG" then
    (readHandle? (skipBlanks behind)).map fun (handle, rest) =>
      (.directive false (some handle), rest)
  else some (.directive false none, skipToBreak behind)

/-! ## 2. Characters with a meaning -/

/-- What is open behind a token, and what is left of the text. -/
abbrev Step : Type :=
  Option (Nesting × List Glyph)

/-- What follows the blanks on the line, if nothing but a comment is left of it. -/
def skipRest? (cs : List Glyph) : Option (List Glyph) :=
  (skipLine? cs).filter breakNext

/-- What follows the spaces, comments and line breaks, `comment` saying whether a comment is
    open. -/
def skipLines (comment : Bool) : List Glyph → List Glyph
  | [] => []
  | g :: rest =>
    if g.char = '\n' then skipLines false rest
    else if comment && g.char != '\x00' then skipLines true rest
    else if g.char = ' ' then skipLines false rest
    else if g.char = '#' then skipLines true rest
    else g :: rest

/-- Whether tabs alone lead to a letter, a digit, an underscore or a hyphen: they do not separate
    it from what is before them. -/
def tabsOnly (cs : List Glyph) : Bool :=
  charNext '\t' cs && (cs.dropWhile fun g => g.char == '\t').head?.any isWordChar

namespace Nesting

/-- The end of everything in block style. -/
def closeAll? (s : Nesting) : Option Nesting :=
  (s.closeTo (-1)).withdraw?.map fun s => { s with keyAllowed := false }

/-- The marker of a document's start or end. Nothing else stands on the line of the latter. -/
def marker? (s : Nesting) (t : Token) (cs : List Glyph) : Step := do
  let closed ← s.closeAll?
  let rest ← if t = .documentEnd then skipRest? (cs.drop 3) else some (cs.drop 3)
  some (closed.push t, rest)

/-- A directive from its percent sign on. -/
def directive? (s : Nesting) (cs : List Glyph) : Step := do
  let closed ← s.closeAll?
  let (t, behind) ← readDirective? (cs.drop 1)
  let rest ← skipRest? behind
  some (closed.push t, rest)

/-- A bracket or a brace that opens a collection. At most 255 of them are open. -/
def openFlow? (s : Nesting) (brackets : Bool) (cs : List Glyph) : Step := do
  let outer := (s.offer cs).openContent
  let rest ← skipLine? (cs.drop 1)
  if 255 ≤ s.flows.length then none
  else
    let flows := ⟨outer.candidate, brackets, false⟩ :: outer.flows
    let inner :=
      { outer with
        flows := flows
        candidate := none
        keyAllowed := true
        marked := outer.marked || !brackets }
    some (inner.push (if brackets then .bracketOpen else .braceOpen), rest)

/-- A bracket or a brace that closes a collection. Behind it a colon needs nothing behind itself. -/
def closeFlow? (s : Nesting) (brackets : Bool) (cs : List Glyph) : Step := do
  let inner := if brackets then s.closePair else s
  let rest ← skipLine? (cs.drop 1)
  match inner.flows with
  | [] => none
  | flow :: flows =>
    let outer :=
      { inner with
        flows := flows
        candidate := flow.outer
        keyAllowed := false
        adjacent := if flows.isEmpty then inner.adjacent else some (lineOf rest, columnOf rest) }
    some (outer.push (if brackets then .bracketClose else .braceClose), rest)

/-- A comma. -/
def comma? (s : Nesting) (cs : List Glyph) : Step := do
  let s ← s.withdraw?
  let rest ← skipLine? (cs.drop 1)
  some ({ s.closePair with keyAllowed := true }.push .comma, rest)

/-- The dash of an item. Behind it, tabs do not separate another dash. -/
def item? (s : Nesting) (cs : List Glyph) : Step :=
  if s.inFlow || !s.keyAllowed || s.propertyFirst && columnOf cs == 0 && decide (-1 < s.indent) then
    none
  else do
    let opened := s.openBlock (columnOf cs) s.tokens.size .sequenceStart
    let rest ← skipLine? (cs.drop 1)
    let tab := ((cs.drop 1).takeWhile fun g => isBlankChar g.char).any fun g => g.char == '\t'
    if tab && loneNext '-' rest then none
    else
      let inner := if charNext '\n' rest || flowNext rest then opened.openContent else opened
      let given ← inner.withdraw?
      some ({ given with keyAllowed := true }.push .item, rest)

/-- The question mark before a key. -/
def key? (s : Nesting) (cs : List Glyph) : Step :=
  let rest := cs.drop 1
  if !s.inFlow && !s.keyAllowed || charNext '\t' rest || endNext rest ||
      charNext '\t' (skipLines false rest) then none
  else do
    let opened := s.openBlock (columnOf cs) s.tokens.size .mappingStart
    let given ← opened.withdraw?
    let marked := given.marked || given.inFlow
    some ({ given with keyAllowed := !given.inFlow, marked := marked }.push .key,
      skipLines false rest)

/-- The colon before a value. The candidate becomes a key; in brackets, a pair starts with it. -/
def value? (s : Nesting) (cs : List Glyph) : Step := do
  let rest ← if charNext '\t' (cs.drop 1) then skipLine? (cs.drop 1) else some (cs.drop 1)
  let pair := s.opensPair
  let inner := if pair then s.setPair true else s
  if tabsOnly (cs.drop 1) then none
  else match s.candidate with
    | some k =>
      if pair && decide (k.line < lineOf cs) then none
      else
        let keyed := inner.insert k.position .key
        let paired := if pair then keyed.insert k.position .braceOpen else keyed
        let opened := (paired.openBlock k.column k.position .mappingStart).openContent
        some ({ opened with candidate := none, keyAllowed := false }.push .value, rest)
    | none =>
      let paired := if pair then inner.push .braceOpen else inner
      if !s.inFlow && !s.keyAllowed then none
      else
        let opened := paired.openBlock (columnOf cs) paired.tokens.size .mappingStart
        some ({ opened.openContent with keyAllowed := !s.inFlow }.push .value, rest)

/-! ## 3. Properties and scalars -/

/-- A name behind an ampersand or an asterisk. -/
def name? (s : Nesting) (anchor : Bool) (cs : List Glyph) : Step := do
  let (name, rest) ← readName? (cs.drop 1)
  let offered := { s.offer cs with keyAllowed := false }
  let pushed := offered.push (if anchor then .anchor name else .reference name)
  some ({ pushed with propertyFirst := anchor && columnOf cs == 0 }, rest)

/-- A tag behind its exclamation mark. -/
def tag? (s : Nesting) (cs : List Glyph) : Step := do
  let (tag, rest) ← Tag.read? (cs.drop 1)
  if spaceNext rest || s.inFlow && flowNext rest then
    let pushed := { s.offer cs with keyAllowed := false }.push (.tag tag)
    some ({ pushed with propertyFirst := columnOf cs == 0 }, rest)
  else none

/-- A block scalar from its first character on. A key can start behind it. -/
def blockScalar? (s : Nesting) (folded : Bool) (cs : List Glyph) : Step := do
  let offered := (s.offer cs).closeContent
  let (text, rest) ← scanBlock folded offered.indent (cs.drop 1)
  some ({ offered with keyAllowed := true }.push (.scalar (String.ofList text) .block), rest)

/-- Whether a quoted scalar that starts at `start` can end here: before the end of the line, a
    colon, or something that goes on with a flow collection. A key in block style stands on one
    line. -/
def quotedEnds (s : Nesting) (start rest : List Glyph) : Bool :=
  breakNext rest || charNext ':' rest && (s.inFlow || lineOf start == lineOf rest) ||
    s.inFlow && (charNext ',' rest || charNext ']' rest || charNext '\x7d' rest)

/-- A quoted scalar. Behind it a colon needs nothing behind itself. -/
def quoted? (s : Nesting) (double : Bool) (cs : List Glyph) : Step := do
  let (text, behind) ←
    if double then scanDouble s.inFlow s.indent (.text {}) (cs.drop 1)
    else scanSingle s.inFlow s.indent {} false (cs.drop 1)
  let close ← skipLine? behind
  if !s.quotedEnds cs close then none
  else
    let rest ← skipSpace? s.indent .blank close
    let offered := s.offer cs
    let after :=
      { offered with
        keyAllowed := !s.inFlow && lineOf close != lineOf rest
        adjacent := some (lineOf rest, columnOf rest) }
    some (after.push (.scalar (String.ofList text) .quoted), rest)

/-- A plain scalar. Inside a flow collection it is indented by more than what is around that. -/
def plain? (s : Nesting) (cs : List Glyph) : Step := do
  let offered := (s.offer cs).closeContent
  let short := decide (columnOf cs ≤ offered.indent)
  if plainEnds s.inFlow cs || s.inFlow && (short || hyphenFlowNext cs) then none
  else
    let (text, rest) ← scanPlain s.inFlow offered.indent {} cs
    let allowed := rest.head?.any (·.leading)
    some ({ offered with keyAllowed := allowed }.push (.scalar (String.ofList text) .plain), rest)

/-! ## 4. The next token -/

/-- Whether a colon that is no lone one separates a key from a value here. Inside a flow collection
    it does before a flow indicator, and behind a quoted scalar or a collection before anything. -/
def colonSeparates (s : Nesting) (cs : List Glyph) : Bool :=
  s.inFlow && charNext ':' cs &&
    (s.adjacent == some (lineOf cs, columnOf cs) ||
      flowNext (cs.drop 1) && !charNext '[' (cs.drop 1) && !charNext '\x7b' (cs.drop 1))

/-- The next token, if no space comes next, and neither the end nor a marker. -/
def content? (s : Nesting) (cs : List Glyph) : Step :=
  if loneNext '-' cs then s.item? cs
  else if loneNext '?' cs then s.key? cs
  else if loneNext ':' cs || s.colonSeparates cs then s.value? cs
  else match cs.head?.map (·.char) with
    | some '[' => s.openFlow? true cs
    | some '\x7b' => s.openFlow? false cs
    | some ']' => s.closeFlow? true cs
    | some '\x7d' => s.closeFlow? false cs
    | some ',' => s.comma? cs
    | some '*' => s.name? false cs
    | some '&' => s.name? true cs
    | some '!' => s.tag? cs
    | some '\x27' => s.quoted? false cs
    | some '\x22' => s.quoted? true cs
    | some '%' | some '@' | some '\x60' => none
    | some '|' => if s.inFlow then s.plain? cs else s.blockScalar? false cs
    | some '>' => if s.inFlow then s.plain? cs else s.blockScalar? true cs
    | _ => s.plain? cs

/-- The end of the text. No collection in flow style is open there. -/
def finish? (s : Nesting) : Option Nesting :=
  if s.inFlow then none else s.closeAll?.map (·.push .finish)

/-- Whether what stands here may be indented by less than what is around it. -/
def leftAllowed (s : Nesting) (cs : List Glyph) : Bool :=
  s.inFlow && (charNext ',' cs || charNext ']' cs || charNext '\x7d' cs)

/-- The next token with the space before it. -/
def step? (s : Nesting) (cs : List Glyph) : Step := do
  let start ← skipSpace? s.indent .blank cs
  let broken := !s.inFlow && lineOf cs != lineOf start
  let s ← { s with keyAllowed := s.keyAllowed || broken }.refresh? start
  let s := s.closeTo (columnOf start)
  if endNext start then s.finish?.map fun s => (s, [])
  else if columnOf start = 0 ∧ charNext '%' start then s.directive? start
  else if columnOf start = 0 ∧ tripleNext '-' start then s.marker? .documentStart start
  else if columnOf start = 0 ∧ tripleNext '.' start then s.marker? .documentEnd start
  else if (columnOf start : Int) < s.indent ∧ !s.leftAllowed start then none
  else s.content? start

/-- The tokens of a text of at most `fuel` tokens. -/
def tokensFrom : Nat → Nesting → List Glyph → List Token
  | 0, s, cs => s.settled cs
  | fuel + 1, s, cs =>
    match s.step? cs with
    | none => s.settled cs
    | some (next, []) => next.tokens.toList
    | some (next, rest) => tokensFrom fuel next rest

end Nesting

/-- The tokens of a text. What is no YAML ends them early: `Token.finish` is not among them. -/
def tokens (cs : List Glyph) : List Token :=
  Nesting.tokensFrom cs.length {} cs

end MarkupRules.Yaml
