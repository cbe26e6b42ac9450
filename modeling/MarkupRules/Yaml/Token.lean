import MarkupRules.Yaml.Glyph

/-!
# Tokens

What a YAML text consists of: the scalars and the marks around them. Indentation is made explicit,
a collection in block style starting and ending with a token of its own.

* `Token` -- a token;
* `Style`, `Tag` -- how a scalar is written, and what is said about its kind;
* `Tag.read?`, `readName?` -- what follows an exclamation mark, an ampersand or an asterisk.
-/

namespace MarkupRules.Yaml

/-! ## 1. Tokens -/

/-- How a scalar is written. -/
inductive Style where
  | plain
  | quoted
  /-- In the lines below a header. -/
  | block
  deriving DecidableEq, Repr

/-- What is said about the kind of a node. -/
inductive Tag where
  /-- That it is a text. -/
  | text
  /-- That it is nothing. -/
  | null
  /-- Something else. -/
  | other
  /-- Something that a directive has to explain, which is known by its handle. -/
  | declared (handle : String)
  deriving DecidableEq, Repr

/-- A token. -/
inductive Token where
  /-- A directive; the one that explains a handle of tags names it. -/
  | directive (version : Bool) (handle : Option String)
  | documentStart
  | documentEnd
  /-- The start of a sequence in block style. -/
  | sequenceStart
  /-- The start of a mapping in block style. -/
  | mappingStart
  /-- The end of a collection in block style. -/
  | blockEnd
  /-- The dash before an item of a sequence. -/
  | item
  /-- What stands before a key. -/
  | key
  /-- What stands between a key and its value. -/
  | value
  | bracketOpen
  | bracketClose
  | braceOpen
  | braceClose
  | comma
  | anchor (name : String)
  /-- The node of the anchor of that name, once more. -/
  | reference (name : String)
  | tag (tag : Tag)
  | scalar (text : String) (style : Style)
  /-- The end of the whole text. -/
  | finish
  deriving DecidableEq, Repr

/-! ## 2. Names and tags -/

/-- Whether a character can stand in the name of an anchor. -/
def isNameChar (g : Glyph) : Bool :=
  !isBlankChar g.char && !isBreakChar g.char && !isFlowIndicator g.char && g.char != '\ufeff'

/-- A name of at least one character, and what follows it. -/
def readName? (cs : List Glyph) : Option (String × List Glyph) :=
  let name := cs.takeWhile isNameChar
  if name.isEmpty then none
  else some (String.ofList (name.map (·.char)), cs.dropWhile isNameChar)

/-- Whether a character can stand in a word: letters, digits, underscores and hyphens. -/
def isWordChar (g : Glyph) : Bool :=
  g.char.isAlphanum || g.char == '_' || g.char == '-'

/-- Whether a character can stand in a tag that is written out in full. -/
def isFullTagChar (g : Glyph) : Bool :=
  g.char.isAlphanum || "-#;/?:@&=+$,_.!~*'()[]%".toList.contains g.char

/-- Whether a character can stand behind the handle of a tag. -/
def isTagChar (g : Glyph) : Bool :=
  isFullTagChar g && !isFlowIndicator g.char && g.char != '!'

/-- A tag that is written out in full between angle brackets, and what follows it. -/
def Tag.readFull? (cs : List Glyph) : Option (Tag × List Glyph) :=
  let name := String.ofList ((cs.takeWhile isFullTagChar).map (·.char))
  match cs.dropWhile isFullTagChar with
  | [] => none
  | g :: rest =>
    if g.char != '>' then none
    else if name = "tag:yaml.org,2002:str" then some (.text, rest)
    else if name = "tag:yaml.org,2002:null" then some (.null, rest)
    else some (.other, rest)

/-- A tag behind its exclamation mark, and what follows it. A further exclamation mark ends a
    handle; that of the standard tags is empty. -/
def Tag.read? (cs : List Glyph) : Option (Tag × List Glyph) :=
  if charNext '<' cs then Tag.readFull? (cs.drop 1)
  else
    let handle := String.ofList ((cs.takeWhile isWordChar).map (·.char))
    let behind := cs.dropWhile isWordChar
    if charNext '!' behind then
      let name := String.ofList (((behind.drop 1).takeWhile isTagChar).map (·.char))
      let rest := (behind.drop 1).dropWhile isTagChar
      if name = "" then none
      else if handle != "" then some (.declared handle, rest)
      else if name = "str" then some (.text, rest)
      else if name = "null" then some (.null, rest)
      else some (.other, rest)
    else
      let name := cs.takeWhile isTagChar
      some (if name.isEmpty then .text else .other, cs.dropWhile isTagChar)

end MarkupRules.Yaml
