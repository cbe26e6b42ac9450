import MarkupRules.Document.Item
import MarkupRules.Text.Search

/-!
# Messages

A rule words its failures with a template. Between double braces the template refers to the item
that failed; a backslash in front of double braces keeps them as they are.

* `Reference` -- what a template can refer to;
* `renderMessage` -- the template with every reference replaced by its value;
* `referencesIn` -- the references that a template is checked for before it is ever rendered;
* `fallbackMessage` -- the message where there is no template, or none that renders.
-/

namespace MarkupRules

/-! ## 1. References -/

/-- What a template can refer to. -/
inductive Reference where
  | name
  | path
  | text
  | rule
  | attribute (name : String)
  deriving DecidableEq, Repr

/-- The reference between two pairs of braces, blanks at its ends left out. -/
def Reference.ofText? (s : String) : Option Reference :=
  if s = "name" then some .name
  else if s = "path" then some .path
  else if s = "text" then some .text
  else if s = "rule" then some .rule
  else match s.toList with
    | '@' :: c :: rest => some (.attribute (String.ofList (c :: rest)))
    | _ => none

/-- Why a template does not render. -/
inductive TemplateProblem where
  | unclosed
  | unknownReference (reference : String)
  | missingAttribute (name : String)
  deriving DecidableEq, Repr

/-- The words for a problem with a template. -/
def TemplateProblem.message : TemplateProblem → String
  | .unclosed => "unclosed '\x7b\x7b' in message template"
  | .unknownReference reference => "unknown template reference '" ++ reference ++ "'"
  | .missingAttribute name => "context node has no attribute '" ++ name ++ "'"

/-- What a reference stands for at an item. The attributes are those of the item's node, the
    owner if the item is an attribute itself. -/
def Reference.value (doc : Document) (ruleId : String) (context : Item) :
    Reference → Except TemplateProblem String
  | .name =>
    match context with
    | .attribute _ own => .ok own
    | .node id => .ok ((doc.name? id).getD "")
  | .path => .ok (context.location doc)
  | .text => .ok (Text.normalizeSpace (context.stringValue doc))
  | .rule => .ok ruleId
  | .attribute wanted =>
    match doc.attribute? context.nodeId wanted with
    | some value => .ok value
    | none => .error (.missingAttribute wanted)

/-! ## 2. Rendering -/

/-- The braces that open a reference. -/
def openBraces : List Char :=
  ['\x7b', '\x7b']

/-- The braces that close a reference. -/
def closeBraces : List Char :=
  ['\x7d', '\x7d']

/-- Opening braces that open nothing. -/
def escapedBraces : List Char :=
  '\x5c' :: openBraces

/-- The mark that stands for escaped braces while references are replaced. -/
def escapeMark : List Char :=
  '\x00' :: "ESCAPED_OPEN_BRACE".toList ++ ['\x00']

/-- The parts of a text cut at the first occurrence of a pattern, and the pattern, are as long
    as the text. -/
theorem length_of_cut? {pattern : List Char} : ∀ {cs before after : List Char},
    Text.cut? pattern cs = some (before, after) →
      before.length + pattern.length + after.length = cs.length
  | [], before, after, h => by
    unfold Text.cut? at h
    split at h
    · rename_i hp
      cases h
      simp [List.isEmpty_iff.mp hp]
    · cases h
  | c :: rest, before, after, h => by
    unfold Text.cut? at h
    split at h
    · rename_i hp
      cases h
      have := (List.isPrefixOf_iff_prefix.mp hp).length_le
      simp only [List.length_nil, List.length_drop]
      omega
    · obtain ⟨⟨b, a⟩, hcut, heq⟩ := Option.map_eq_some_iff.mp h
      cases heq
      have := length_of_cut? hcut
      simp only [List.length_cons]
      omega

/-- The text with every reference in it replaced, from the left. What a reference stands for is
    not looked at again. -/
def replaceReferences (value : Reference → Except TemplateProblem String) (cs : List Char) :
    Except TemplateProblem (List Char) :=
  match hopen : Text.cut? openBraces cs with
  | none => .ok cs
  | some (before, opened) =>
    match hclose : Text.cut? closeBraces opened with
    | none => .error .unclosed
    | some (inner, after) => do
      have : before.length + 2 + opened.length = cs.length := length_of_cut? hopen
      have : inner.length + 2 + after.length = opened.length := length_of_cut? hclose
      let reference := String.ofList (Text.trim inner)
      match Reference.ofText? reference with
      | none => .error (.unknownReference reference)
      | some r =>
        let replacement ← value r
        let more ← replaceReferences value after
        .ok (before ++ replacement.toList ++ more)
termination_by cs.length

/-- The message that a template gives for an item. Escaped braces are marked first and put back
    last. -/
def renderMessage (template ruleId : String) (doc : Document) (context : Item) :
    Except TemplateProblem String := do
  let marked := Text.replaceAll escapedBraces escapeMark template.toList
  let rendered ← replaceReferences (Reference.value doc ruleId context) marked
  .ok (String.ofList (Text.replaceAll escapeMark openBraces rendered))

/-- The rendered message for an item that may not be in the document. There is none if its node
    does not exist. -/
def renderMessage? (template ruleId : String) (doc : Document) (context : Item) :
    Option (Except TemplateProblem String) :=
  if context.within doc then some (renderMessage template ruleId doc context) else none

/-- The message where there is no template, or none that renders. -/
def fallbackMessage (ruleId location : String) : String :=
  "rule '" ++ ruleId ++ "' failed at " ++ location

/-! ## 3. Checking templates -/

/-- The texts between double braces that hold no closing brace, from the left and without
    overlap. -/
def bracedTexts (cs : List Char) : List (List Char) :=
  match cs with
  | '\x7b' :: '\x7b' :: rest =>
    match h : rest.dropWhile (· != '\x7d') with
    | '\x7d' :: '\x7d' :: behind =>
      have : (rest.dropWhile (· != '\x7d')).length ≤ rest.length :=
        (List.dropWhile_sublist _).length_le
      have : behind.length < rest.length := by
        rw [h] at this; simp only [List.length_cons] at this; omega
      rest.takeWhile (· != '\x7d') :: bracedTexts behind
    | _ => bracedTexts ('\x7b' :: rest)
  | _ :: rest => bracedTexts rest
  | [] => []
termination_by cs.length

/-- The references of a template, blanks at their ends left out. Escaped braces open none. -/
def referencesIn (template : String) : List String :=
  (bracedTexts (Text.replaceAll escapedBraces [] template.toList)).map fun r =>
    String.ofList (Text.trim r)

/-- Whether a text is an attribute reference with a plain name: an ASCII letter or underscore,
    then ASCII letters, digits, underscores, dots, colons and hyphens. -/
def isAttributeReference (s : String) : Bool :=
  match s.toList with
  | '@' :: c :: rest =>
    (c.isAlpha || c == '_') &&
      rest.all fun d => d.isAlphanum || d == '_' || d == '.' || d == ':' || d == '-'
  | _ => false

/-- Whether a reference may stand in the template of a rule. -/
def isKnownReference (s : String) : Bool :=
  s == "name" || s == "path" || s == "text" || s == "rule" || isAttributeReference s

end MarkupRules
