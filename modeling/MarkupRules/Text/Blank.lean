import MarkupRules.Text.CodePoints

/-!
# Blanks

A blank is a character with the property White_Space of Unicode. Texts are trimmed, cut into
words and compared by that one class:

* `isBlank` -- the class;
* `trim` -- a text without the blanks at its ends;
* `words` -- the maximal runs without a blank;
* `normalizeSpace` -- the words, one space between each two.
-/

namespace MarkupRules.Text

/-- The code points with the property White_Space. -/
def whiteSpace : CodePoints := ⟨[
  (0x9, 0xd), (0x20, 0x20), (0x85, 0x85), (0xa0, 0xa0), (0x1680, 0x1680), (0x2000, 0x200a),
  (0x2028, 0x2029), (0x202f, 0x202f), (0x205f, 0x205f), (0x3000, 0x3000)]⟩

/-- A blank: a character with the property White_Space. -/
def isBlank (c : Char) : Bool :=
  whiteSpace.contains c

/-- The text without its leading blanks. -/
def trimLeft (cs : List Char) : List Char :=
  cs.dropWhile isBlank

/-- The text without its trailing blanks. -/
def trimRight (cs : List Char) : List Char :=
  (trimLeft cs.reverse).reverse

/-- The text without the blanks at its ends. -/
def trim (cs : List Char) : List Char :=
  trimRight (trimLeft cs)

/-- The words of a text, `word` being the characters of an open word, backwards. -/
def wordsFrom (word : List Char) : List Char → List (List Char)
  | [] => if word.isEmpty then [] else [word.reverse]
  | c :: rest =>
    if isBlank c then
      if word.isEmpty then wordsFrom [] rest else word.reverse :: wordsFrom [] rest
    else wordsFrom (c :: word) rest

/-- The words of a text: its maximal runs without a blank. -/
def words (cs : List Char) : List (List Char) :=
  wordsFrom [] cs

/-- The words of a text with one space between each two of them. -/
def normalizeSpace (s : String) : String :=
  String.ofList ([' '].intercalate (words s.toList))

/-- Whether a text holds nothing but blanks. -/
def isBlankText (s : String) : Bool :=
  s.toList.all isBlank

end MarkupRules.Text
