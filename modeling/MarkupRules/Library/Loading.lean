import MarkupRules.Library.Basic
import MarkupRules.Yaml.Document

/-!
# Loading a library

* `LoadError` -- a text that is not read at all, or a library that is put together wrongly;
* `Library.ofText` -- the library that a text writes.
-/

namespace MarkupRules

/-- Why a text is no library. -/
inductive LoadError where
  /-- The text is not structured as the reader expects. -/
  | unreadable
  /-- What the text says is no library. -/
  | config (error : ConfigError)

/-- The library that a text writes. A text of nothing but blanks is an error of its own. -/
def Library.ofText (text : String) : Except LoadError Library :=
  if Text.isBlankText text then .error (.config ⟨.syntaxError, "empty input", none, none⟩)
  else match Yaml.read? text with
    | none => .error .unreadable
    | some v => (Library.ofValue v).mapError .config

end MarkupRules
