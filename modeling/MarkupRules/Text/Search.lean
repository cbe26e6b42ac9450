/-!
# Looking for a text inside a text

Three searches for a pattern, all from the left:

* `cut?` -- the text before the first occurrence and the text after it;
* `replaceAll` -- every occurrence replaced, none overlapping another;
* `occursIn` -- whether there is an occurrence.
-/

namespace MarkupRules.Text

/-- The text before the first occurrence of the pattern, and the text after it. -/
def cut? (pattern : List Char) : List Char → Option (List Char × List Char)
  | [] => if pattern.isEmpty then some ([], []) else none
  | c :: rest =>
    if pattern.isPrefixOf (c :: rest) then some ([], (c :: rest).drop pattern.length)
    else (cut? pattern rest).map fun (before, after) => (c :: before, after)

/-- The text with every occurrence of the pattern replaced, after the next `skip` characters have
    been passed over: they belong to an occurrence already replaced. -/
def replaceAfter (pattern replacement : List Char) : Nat → List Char → List Char
  | _, [] => []
  | skip + 1, _ :: rest => replaceAfter pattern replacement skip rest
  | 0, c :: rest =>
    if pattern.isPrefixOf (c :: rest) then
      replacement ++ replaceAfter pattern replacement (pattern.length - 1) rest
    else c :: replaceAfter pattern replacement 0 rest

/-- The text with every occurrence of a non-empty pattern replaced, from the left and without
    overlap. The replacement is not searched again. -/
def replaceAll (pattern replacement : List Char) (cs : List Char) : List Char :=
  replaceAfter pattern replacement 0 cs

/-- Whether the pattern occurs in the text. -/
def occursIn (pattern cs : List Char) : Bool :=
  (cut? pattern cs).isSome

end MarkupRules.Text
