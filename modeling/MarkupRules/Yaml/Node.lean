import MarkupRules.Yaml.Scalar
import MarkupRules.Yaml.Token

/-!
# Nodes

What a YAML text says before its plain scalars are taken for numbers or words:

* `Node` -- scalars, sequences, and mappings of any nodes to nodes;
* `Node.value?` -- the value that a node stands for, if its keys are texts, each one once;
* `mergedEntries?` -- the entries that a mapping takes over from others;
* `Names` -- the names that are known in a document.
-/

namespace MarkupRules.Yaml

/-! ## 1. Nodes and their properties -/

/-- What may stand in front of a node. -/
structure Properties where
  anchor : Option String := none
  tag : Option Tag := none
  deriving DecidableEq, Repr

/-- Whether nothing stands in front of the node. -/
def Properties.isNone (p : Properties) : Bool :=
  p.anchor.isNone && p.tag.isNone

/-- A node. -/
inductive Node where
  | scalar (text : String) (style : Style) (properties : Properties)
  | sequence (items : List Node)
  | mapping (entries : List (Node × Node))

/-- The node where nothing is written. -/
def Node.empty : Node :=
  .scalar "" .plain {}

/-- Whether a node stands for nothing: a plain scalar with a word for that, whatever its tag, or an
    empty quoted scalar with an anchor. -/
def Node.isNull : Node → Bool
  | .scalar text .plain _ => isNullWord text
  | .scalar text .quoted p => text == "" && p.anchor.isSome
  | _ => false

/-- Whether a node is the key below which a mapping takes over the entries of others. -/
def Node.isMerge : Node → Bool
  | .scalar text .plain _ => text == "<<"
  | _ => false

/-- The text of a key. Neither a collection nor nothing is a key. -/
def Node.key? : Node → Option String
  | .scalar text style p => if (Node.scalar text style p).isNull then none else some text
  | _ => none

/-- The value of a scalar. Only a plain one can be something other than a text. -/
def scalarValue (text : String) (style : Style) (p : Properties) : Value :=
  if (Node.scalar text style p).isNull then .null
  else if style ≠ .plain ∨ p.tag = some .text then .text text
  else if p.tag = some .null then .null
  else plainValue text

/-! ## 2. Values -/

/-- Entries with the value of each, if it has one. -/
abbrev Entries : Type :=
  List (String × Option Value)

/-- The values of entries, if each has one and no key comes twice. -/
def Entries.values? : Entries → Option (List (String × Value))
  | [] => some []
  | (key, value) :: rest => do
    let value ← value
    let values ← Entries.values? rest
    if values.any fun entry => entry.1 == key then none else some ((key, value) :: values)

/-- The entries with those of others behind them. A key that is there already stays as it is. -/
def Entries.adopt (entries : Entries) : Entries → Entries
  | [] => entries
  | (key, value) :: rest =>
    if entries.any fun entry => entry.1 == key then Entries.adopt entries rest
    else Entries.adopt (entries ++ [(key, value)]) rest

mutual

/-- The value that a node stands for. Entries that a mapping takes over come behind its own, those
    of the last merge first. -/
def Node.value? : Node → Option Value
  | .scalar text style p => some (scalarValue text style p)
  | .sequence items => (valuesOf? items).map .sequence
  | .mapping entries => do
    let own ← ownEntries? entries
    let _ ← Entries.values? own
    let merged ← mergedEntries? entries
    let values ← Entries.values? (own.adopt merged)
    some (.mapping values)

/-- The values of nodes. -/
def valuesOf? : List Node → Option (List Value)
  | [] => some []
  | n :: rest => do
    let value ← n.value?
    let values ← valuesOf? rest
    some (value :: values)

/-- The entries of a mapping, without those that it takes over. -/
def ownEntries? : List (Node × Node) → Option Entries
  | [] => some []
  | (key, n) :: rest => do
    let entries ← ownEntries? rest
    if key.isMerge then some entries
    else
      let name ← key.key?
      some ((name, n.value?) :: entries)

/-- The entries that a mapping takes over from others. -/
def mergedEntries? : List (Node × Node) → Option Entries
  | [] => some []
  | (key, n) :: rest => do
    let later ← mergedEntries? rest
    if key.isMerge then
      let entries ← n.entries?
      some (later ++ entries)
    else some later

/-- The entries that a node hands over to a mapping: its own and those that it takes over itself.
    The mappings of a sequence hand over theirs, the last one first, and nothing hands over
    nothing. -/
def Node.entries? : Node → Option Entries
  | .scalar text style p => if (Node.scalar text style p).isNull then some [] else none
  | .sequence items => itemEntries? items
  | .mapping entries => do
    let own ← ownEntries? entries
    let merged ← mergedEntries? entries
    some (own ++ merged)

/-- The entries that the mappings of a sequence hand over. -/
def itemEntries? : List Node → Option Entries
  | [] => some []
  | n :: rest => do
    let later ← itemEntries? rest
    let entries ← n.entries?
    some (later ++ entries)

end

/-! ## 3. Sizes -/

mutual

/-- The number of scalars in a node, and of the starts and ends of collections. -/
def Node.size : Node → Nat
  | .scalar _ _ _ => 1
  | .sequence items => 2 + itemsSize items
  | .mapping entries => 2 + entriesSize entries

/-- The size of nodes together. -/
def itemsSize : List Node → Nat
  | [] => 0
  | n :: rest => n.size + itemsSize rest

/-- The size of entries together. -/
def entriesSize : List (Node × Node) → Nat
  | [] => 0
  | (key, n) :: rest => key.size + n.size + entriesSize rest

end

mutual

/-- The number of collections around the innermost scalars of a node. -/
def Node.depth : Node → Nat
  | .scalar _ _ _ => 0
  | .sequence items => 1 + itemsDepth items
  | .mapping entries => 1 + entriesDepth entries

/-- The depth of the deepest of nodes. -/
def itemsDepth : List Node → Nat
  | [] => 0
  | n :: rest => max n.depth (itemsDepth rest)

/-- The depth of the deepest key or value of entries. -/
def entriesDepth : List (Node × Node) → Nat
  | [] => 0
  | (key, n) :: rest => max (max key.depth n.depth) (entriesDepth rest)

end

/-! ## 4. Names -/

/-- The names that are known at a place of a document. -/
structure Names where
  /-- The handles of tags that directives explain. -/
  handles : List String := []
  /-- The nodes that anchors name, the latest first. One that is not complete is missing. -/
  anchors : List (String × Option Node) := []
  /-- The number of references to anchors. -/
  references : Nat := 0
  /-- The size of the nodes that the references stand for. -/
  copied : Nat := 0

namespace Names

/-- Whether the properties use no handle that is not explained. -/
def allows (names : Names) (p : Properties) : Bool :=
  match p.tag with
  | some (.declared handle) => names.handles.contains handle
  | _ => true

/-- The names with that of a node that starts. -/
def start (names : Names) (p : Properties) : Names :=
  match p.anchor with
  | none => names
  | some name => { names with anchors := (name, none) :: names.anchors }

/-- The names once a node is complete. If its anchor names another node by now, that stays. -/
def complete (names : Names) (p : Properties) (n : Node) : Names :=
  match p.anchor with
  | none => names
  | some name =>
    match names.anchors.lookup name with
    | some none => { names with anchors := (name, some n) :: names.anchors }
    | _ => names

/-- The complete node that an anchor names. References stand for nodes of a million at most. -/
def node? (names : Names) (name : String) : Option (Node × Names) := do
  let n ← (names.anchors.lookup name).join
  let copied := names.copied + n.size
  if 1000000 < copied then none
  else some (n, { names with references := names.references + 1, copied := copied })

/-- Whether there are not too many references: up to a hundred, ten for each anchor are allowed. -/
def moderate (names : Names) : Bool :=
  decide (names.references < 100) ||
    decide (names.references ≤ 10 * names.anchors.countP fun anchor => anchor.2.isNone)

end Names

end MarkupRules.Yaml
