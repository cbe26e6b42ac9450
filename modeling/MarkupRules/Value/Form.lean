import MarkupRules.Value.Basic

/-!
# Forms of values

Readers that ask a value to be of a certain form, and say what is wrong if it is not:

* `Value.asText`, `Value.asFlag`, `Value.asCount`, `Value.asSequence`, `Value.orNull` -- plain
  forms;
* `Value.asSpelled` -- a word of a vocabulary;
* `Fields`, `Reading` -- the fields of a record, read side by side: of several faults the one that
  stands first in the text is reported, and missing fields come last;
* `RecordForm.read` -- a record, its fields named in a mapping or in order in a sequence.
-/

namespace MarkupRules

namespace Value

/-! ## 1. Plain forms -/

def asText : Value → Except Problem String
  | .text s => .ok s
  | v => .error (.wrongType v.found "a string")

def asFlag : Value → Except Problem Bool
  | .boolean b => .ok b
  | v => .error (.wrongType v.found "a boolean")

/-- A natural number. -/
def asCount : Value → Except Problem Nat
  | .integer n => if 0 ≤ n then .ok n.toNat else .error (.wrongValue (integer n).found "usize")
  | v => .error (.wrongType v.found "usize")

/-- The items of a sequence, each read in turn. -/
def asSequence (item : Value → Except Problem α) : Value → Except Problem (List α)
  | .sequence items => items.mapM item
  | v => .error (.wrongType v.found "a sequence")

/-- Nothing for null, and otherwise what the reader makes of the value. -/
def orNull (read : Value → Except Problem α) : Value → Except Problem (Option α)
  | .null => .ok none
  | v => (read v).map some

/-! ## 2. Vocabularies -/

/-- The name of a variant and its content: a lone name has none. -/
def variant : Value → Except Problem (String × Option Value)
  | .text name => .ok (name, none)
  | .mapping [(name, content)] => .ok (name, some content)
  | .mapping entries => .error (.wrongValue (mapping entries).found "map with a single key")
  | v => .error (.wrongType v.found "string or map")

/-- A word of a vocabulary: its spelling, or a mapping of its spelling to null. -/
def asSpelled (spellings : List (String × α)) (v : Value) : Except Problem α :=
  match v.variant with
  | .error p => .error p
  | .ok (name, content) =>
    match spellings.lookup name, content with
    | none, _ => .error (.unknownVariant name (spellings.map (·.1)))
    | some a, none => .ok a
    | some a, some .null => .ok a
    | some _, some content => .error (.wrongType content.found "unit")

end Value

/-! ## 3. Fields side by side -/

/-- A problem, and the place of the entry that has it. -/
structure Fault where
  place : Nat
  problem : Problem

/-- What reading some fields of a record gives: a value, or the first fault. -/
structure Reading (α : Type) where
  outcome : Except Fault α

/-- The outcome of two readings, of two faults the one with the lesser place. -/
def Reading.ap (f : Reading (α → β)) (x : Reading α) : Reading β :=
  match f.outcome, x.outcome with
  | .ok f, .ok a => ⟨.ok (f a)⟩
  | .error e, .ok _ => ⟨.error e⟩
  | .ok _, .error e => ⟨.error e⟩
  | .error e, .error e' => ⟨.error (if e'.place < e.place then e' else e)⟩

instance : Applicative Reading where
  pure a := ⟨.ok a⟩
  seq f x := f.ap (x ())

/-- The entries of a record. -/
structure Fields (α : Type) where
  entries : List (String × α)
  /-- Whether the fields are named, and not given by their order. -/
  named : Bool
  /-- What is wrong where a field is missing. -/
  missing : String → Problem
  /-- The first entry that belongs to no field. -/
  stray : Option Fault

namespace Fields

/-- The entry of a field, and its place. -/
def get? (f : Fields α) (name : String) : Option (α × Nat) :=
  (f.entries.zipIdx.find? fun e => e.1.1 == name).map fun e => (e.1.2, e.2)

/-- A field with a value of its own where it is missing. Without such a value its absence is a
    fault behind all entries. -/
def field (f : Fields α) (name : String) (default? : Option β) (read : α → Except Problem β) :
    Reading β :=
  match f.get? name with
  | some (v, place) => ⟨(read v).mapError (⟨place, ·⟩)⟩
  | none =>
    match default? with
    | some b => pure b
    | none => ⟨.error ⟨f.entries.length, f.missing name⟩⟩

/-- A field that has to be there. -/
def required (f : Fields α) (name : String) (read : α → Except Problem β) : Reading β :=
  f.field name none read

/-- A field that may be missing. -/
def withDefault (f : Fields α) (name : String) (default : β) (read : α → Except Problem β) :
    Reading β :=
  f.field name (some default) read

/-- A field that may be missing only where fields are named. -/
def optional (f : Fields Value) (name : String) (read : Value → Except Problem β) :
    Reading (Option β) :=
  f.field name (if f.named then some none else none) (Value.orNull read)

/-- The value that was read, if there is no stray entry either. -/
def finish (f : Fields α) (r : Reading β) : Except Problem β :=
  let strayed : Reading Unit := match f.stray with
    | none => pure ()
    | some e => ⟨.error e⟩
  (r <* strayed).outcome.mapError (·.problem)

/-- The fields that the entries of a mapping name, `known` being all the names there are. -/
def ofEntries (known : List String) (entries : List (String × α)) : Fields α where
  entries
  named := true
  missing := .missingField
  stray := (entries.zipIdx.find? fun e => !known.contains e.1.1).map fun e =>
    ⟨e.2, .unknownField e.1.1 known⟩

/-- What the fields of a mapping give, `known` being all the names there are. -/
def asFields (known : List String) (parts : Fields Value → Reading β) : Value → Except Problem β
  | .mapping entries => let f := ofEntries known entries; f.finish (parts f)
  | v => .error (.wrongType v.found "struct variant")

end Fields

/-! ## 4. Records -/

/-- What is known about a kind of record. -/
structure RecordForm where
  name : String
  fields : List String
  /-- Whether other fields are faults. -/
  strict : Bool

namespace RecordForm

/-- The fields that the items of a sequence give in order. An item beyond the last field is
    noticed after all others. -/
def ofItems (form : RecordForm) (items : List Value) : Fields Value where
  entries := form.fields.zip items
  named := false
  missing name := .wrongLength (form.fields.idxOf name)
    ("struct " ++ form.name ++ " with " ++ toString form.fields.length ++ " elements")
  stray :=
    if form.fields.length < items.length then
      some ⟨form.fields.length, .wrongLength items.length "fewer elements in array"⟩
    else none

/-- The fields that the entries of a mapping name. -/
def ofEntries (form : RecordForm) (entries : List (String × Value)) : Fields Value :=
  let fields := Fields.ofEntries form.fields entries
  if form.strict then fields else { fields with stray := none }

/-- The record of a value. -/
def read (form : RecordForm) (parts : Fields Value → Reading β) : Value → Except Problem β
  | .mapping entries => let f := form.ofEntries entries; f.finish (parts f)
  | .sequence items => let f := form.ofItems items; f.finish (parts f)
  | v => .error (.wrongType v.found ("struct " ++ form.name))

end RecordForm

end MarkupRules
