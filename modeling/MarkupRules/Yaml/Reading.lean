import MarkupRules.Yaml.Node

/-!
# Reading nodes

Nodes are read from the tokens of a text, a collection by reading its items. What is read so far is
known by the tokens that are left, fewer than before (`Read`), so the reading ends; no answer means
that the tokens make no node.

* `readNode` -- a node;
* `readItems`, `readEntries` and their companions -- what stands inside collections in block style;
* `readFlowItems`, `readFlowEntries` and their companions -- what stands in brackets and braces.

Where a node is expected, nothing may be written. What comes next shows that.
-/

namespace MarkupRules.Yaml

/-! ## 1. Answers -/

/-- Something read, the names known behind it, and the tokens left, fewer than `bound`. -/
structure Read (α : Type) (bound : Nat) where
  value : α
  names : Names
  rest : List Token
  short : rest.length < bound

/-- What reading gives that takes at least one token. -/
abbrev Reading (α : Type) (ts : List Token) : Type :=
  Option (Read α ts.length)

/-- What reading gives that may take no token. -/
abbrev ReadingAny (α : Type) (ts : List Token) : Type :=
  Option (Read α (ts.length + 1))

/-- The same answer for more tokens. -/
def Read.weaken {α : Type} {m n : Nat} (r : Read α m) (h : m ≤ n) : Read α n :=
  ⟨r.value, r.names, r.rest, Nat.lt_of_lt_of_le r.short h⟩

/-- The value changed, the rest kept. -/
def Read.map {α β : Type} {n : Nat} (f : α → β) (r : Read α n) : Read β n :=
  ⟨f r.value, r.names, r.rest, r.short⟩

/-- The node that an answer has with its properties. -/
def Read.node {n : Nat} (p : Properties) (r : Read Node n) : Read Node n :=
  ⟨r.value, r.names.complete p r.value, r.rest, r.short⟩

/-! ## 2. Properties -/

/-- The properties in front of a node, and the node. There is one anchor and one tag at most, in
    either order. -/
def readProperties : List Token → Properties × List Token
  | .anchor name :: .tag tag :: rest => (⟨some name, some tag⟩, rest)
  | .anchor name :: rest => (⟨some name, none⟩, rest)
  | .tag tag :: .anchor name :: rest => (⟨some name, some tag⟩, rest)
  | .tag tag :: rest => (⟨none, some tag⟩, rest)
  | ts => ({}, ts)

theorem length_readProperties_le (ts : List Token) : (readProperties ts).2.length ≤ ts.length := by
  unfold readProperties
  split <;> simp <;> omega

theorem length_readProperties_lt (ts : List Token) (h : (readProperties ts).1.isNone = false) :
    (readProperties ts).2.length < ts.length := by
  revert h
  unfold readProperties
  split <;> intro h
  case h_5 => simp [Properties.isNone] at h
  all_goals simp only [List.length_cons]; omega

/-! ## 3. Nodes -/

mutual

/-- A node. Behind its properties nothing need be written. In block style it can be a collection
    that indentation shows; if `dashes`, it can be a sequence that is not indented by more than the
    mapping around it. -/
def readNode (block dashes : Bool) (names : Names) (ts : List Token) : Reading Node ts :=
  match ts with
  | .reference name :: rest => do
    let (n, names) ← names.node? name
    some ⟨n, names, rest, Nat.lt_succ_self _⟩
  | ts =>
    let p := (readProperties ts).1
    let started := names.start p
    have := length_readProperties_le ts
    if !names.allows p then none
    else match h : (readProperties ts).2 with
      | [] => none
      | t :: rest =>
        have : rest.length < ts.length := by simp [h] at this; omega
        let unwritten : Reading Node ts :=
          if written : p.isNone = false then
            some ⟨.scalar "" .plain p, started, t :: rest, by
              have := length_readProperties_lt ts written; simpa [h] using this⟩
          else none
        let node : Reading Node ts :=
          match t with
          | .scalar text style => some ⟨.scalar text style p, started, rest, this⟩
          | .bracketOpen => do
            let items ← readFlowItems started rest
            some ((items.map .sequence).weaken (by omega))
          | .braceOpen => do
            let entries ← readFlowEntries started rest
            some ((entries.map .mapping).weaken (by omega))
          | .sequenceStart =>
            if block then do
              let items ← readItems started rest
              some ((items.map .sequence).weaken (by omega))
            else unwritten
          | .mappingStart =>
            if block then do
              let entries ← readEntries started rest
              some ((entries.map .mapping).weaken (by omega))
            else unwritten
          | .item =>
            if dashes then do
              let item ← readOptional [.item, .key, .value, .blockEnd] true false started rest
              have := item.short
              let items ← readDashes item.names item.rest
              some ((items.map fun more => .sequence (item.value :: more)).weaken (by omega))
            else unwritten
          | _ => unwritten
        node.map (·.node p)
termination_by 3 * ts.length + 1

/-- A node, or nothing in front of one of these tokens. -/
def readOptional (ends : List Token) (block dashes : Bool) (names : Names) (ts : List Token) :
    ReadingAny Node ts :=
  match ts with
  | [] => none
  | t :: rest =>
    if ends.contains t then some ⟨.empty, names, t :: rest, Nat.lt_succ_self _⟩
    else do
      let n ← readNode block dashes names (t :: rest)
      some (n.weaken (Nat.le_succ _))
termination_by 3 * ts.length + 2

/-- The items of a sequence in block style up to its end. -/
def readItems (names : Names) (ts : List Token) : Reading (List Node) ts :=
  match ts with
  | .blockEnd :: rest => some ⟨[], names, rest, Nat.lt_succ_self _⟩
  | .item :: rest => do
    let item ← readOptional [.item, .blockEnd] true false names rest
    have := item.short
    let items ← readItems item.names item.rest
    some ((items.map (item.value :: ·)).weaken (by simp; omega))
  | _ => none
termination_by 3 * ts.length

/-- The items of a sequence that goes on as long as dashes follow. -/
def readDashes (names : Names) (ts : List Token) : ReadingAny (List Node) ts :=
  match ts with
  | [] => none
  | .item :: rest => do
    let item ← readOptional [.item, .key, .value, .blockEnd] true false names rest
    have := item.short
    let items ← readDashes item.names item.rest
    some ((items.map (item.value :: ·)).weaken (by simp; omega))
  | t :: rest => some ⟨[], names, t :: rest, Nat.lt_succ_self _⟩
termination_by 3 * ts.length

/-- The value of an entry in block style. It may be left out. -/
def readValue (names : Names) (ts : List Token) : ReadingAny Node ts :=
  match ts with
  | [] => none
  | .value :: rest => do
    let n ← readOptional [.key, .value, .blockEnd] true true names rest
    some (n.weaken (by simp))
  | t :: rest => some ⟨.empty, names, t :: rest, Nat.lt_succ_self _⟩
termination_by 3 * ts.length

/-- The entries of a mapping in block style up to its end. -/
def readEntries (names : Names) (ts : List Token) : Reading (List (Node × Node)) ts :=
  match ts with
  | .blockEnd :: rest => some ⟨[], names, rest, Nat.lt_succ_self _⟩
  | .key :: rest => do
    let key ← readOptional [.key, .value, .blockEnd] true true names rest
    have := key.short
    let value ← readValue key.names key.rest
    have := value.short
    let entries ← readEntries value.names value.rest
    some ((entries.map ((key.value, value.value) :: ·)).weaken (by simp; omega))
  | .value :: rest => do
    let value ← readOptional [.key, .value, .blockEnd] true true names rest
    have := value.short
    let entries ← readEntries value.names value.rest
    some ((entries.map ((.empty, value.value) :: ·)).weaken (by simp; omega))
  | _ => none
termination_by 3 * ts.length

/-- The value of an entry in flow style, in a collection with this end. It may be left out. -/
def readFlowValue (close : Token) (names : Names) (ts : List Token) : ReadingAny Node ts :=
  match ts with
  | [] => none
  | .value :: rest => do
    let n ← readOptional [.comma, close] false false names rest
    some (n.weaken (by simp))
  | t :: rest => some ⟨.empty, names, t :: rest, Nat.lt_succ_self _⟩
termination_by 3 * ts.length

/-- The items in brackets up to the end. A pair of key and value is a mapping of one entry. -/
def readFlowItems (names : Names) (ts : List Token) : Reading (List Node) ts :=
  match ts with
  | [] => none
  | .bracketClose :: rest => some ⟨[], names, rest, Nat.lt_succ_self _⟩
  | .key :: rest => do
    let key ← readOptional [.value, .comma, .bracketClose] false false names rest
    have := key.short
    let value ← readFlowValue .bracketClose key.names key.rest
    have := value.short
    let items ← readMoreItems value.names value.rest
    some ((items.map (.mapping [(key.value, value.value)] :: ·)).weaken (by simp; omega))
  | t :: rest => do
    let item ← readNode false false names (t :: rest)
    have : item.rest.length < rest.length + 1 := item.short
    let items ← readMoreItems item.names item.rest
    some ((items.map (item.value :: ·)).weaken (by simp; omega))
termination_by 3 * ts.length + 2

/-- What follows an item in brackets: the end, or a comma and further items. -/
def readMoreItems (names : Names) (ts : List Token) : Reading (List Node) ts :=
  match ts with
  | .bracketClose :: rest => some ⟨[], names, rest, Nat.lt_succ_self _⟩
  | .comma :: rest => do
    let items ← readFlowItems names rest
    some (items.weaken (by simp))
  | _ => none
termination_by 3 * ts.length

/-- The entries in braces up to the end. A key without a colon has an empty value. -/
def readFlowEntries (names : Names) (ts : List Token) : Reading (List (Node × Node)) ts :=
  match ts with
  | [] => none
  | .braceClose :: rest => some ⟨[], names, rest, Nat.lt_succ_self _⟩
  | .key :: rest => do
    let key ← readOptional [.value, .comma, .braceClose] false false names rest
    have := key.short
    let value ← readFlowValue .braceClose key.names key.rest
    have := value.short
    let entries ← readMoreEntries value.names value.rest
    some ((entries.map ((key.value, value.value) :: ·)).weaken (by simp; omega))
  | .value :: rest => do
    let value ← readOptional [.comma, .braceClose] false false names rest
    have := value.short
    let entries ← readMoreEntries value.names value.rest
    some ((entries.map ((.empty, value.value) :: ·)).weaken (by simp; omega))
  | t :: rest => do
    let key ← readNode false false names (t :: rest)
    have : key.rest.length < rest.length + 1 := key.short
    let entries ← readMoreEntries key.names key.rest
    some ((entries.map ((key.value, .empty) :: ·)).weaken (by simp; omega))
termination_by 3 * ts.length + 2

/-- What follows an entry in braces: the end, or a comma and further entries. -/
def readMoreEntries (names : Names) (ts : List Token) : Reading (List (Node × Node)) ts :=
  match ts with
  | .braceClose :: rest => some ⟨[], names, rest, Nat.lt_succ_self _⟩
  | .comma :: rest => do
    let entries ← readFlowEntries names rest
    some (entries.weaken (by simp))
  | _ => none
termination_by 3 * ts.length

end

end MarkupRules.Yaml
