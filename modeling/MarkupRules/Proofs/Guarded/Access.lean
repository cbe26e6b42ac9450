import MarkupRules.Proofs.Path.Closure

/-!
# Guarded access to a document

A run on a document asks for nodes by their ids and reads the arena by index. Here every such
access is guarded: it fails where the node does not exist, instead of answering like a node
without content.

* `Breach`, `Guarded` -- what would break a run off, and the answer of a guarded run;
* `Guarded.demand` -- a node that has to be one of the document's;
* `Guarded.entry` -- the entry of the arena at an index;
* `Guarded.kind`, `Guarded.parent?`, `Guarded.location` and the like -- the questions about nodes
  and items once more, each of them by guarded accesses only;
* `Guarded.stringValue_eq`, `Guarded.itemLocation_eq` and the like -- **on a node of the document
  no access fails**, and the answer is the plain one.
-/

namespace MarkupRules

/-! ## 1. Breaches -/

/-- What would break a run off. -/
inductive Breach where
  /-- A node is asked for that is out of range: the document does not have it. -/
  | nodeOutOfRange (id : NodeId)
  /-- An array is read beyond its end. -/
  | indexOutOfBounds (index : Nat)
  deriving DecidableEq, Repr

/-- The answer of a guarded run: a value, or the first breach. -/
abbrev Guarded (α : Type) : Type :=
  Except Breach α

namespace Guarded

variable {α β : Type}

@[simp] theorem ok_bind (a : α) (f : α → Guarded β) : (Except.ok a >>= f : Guarded β) = f a := rfl

@[simp] theorem pure_eq_ok (a : α) : (pure a : Guarded α) = .ok a := rfl

/-- The members of a list that pass a guarded test. -/
def keep (p : α → Guarded Bool) : List α → Guarded (List α)
  | [] => return []
  | a :: rest => do
    let passes ← p a
    let more ← keep p rest
    return if passes then a :: more else more

theorem keep_eq {p : α → Guarded Bool} {q : α → Bool} : ∀ {l : List α},
    (∀ a ∈ l, p a = .ok (q a)) → keep p l = .ok (l.filter q)
  | [], _ => rfl
  | a :: rest, h => by
    have first := h a List.mem_cons_self
    have more := keep_eq fun b hb => h b (List.mem_cons_of_mem a hb)
    rw [keep, first, ok_bind, more, ok_bind, List.filter_cons, pure_eq_ok]

theorem mapM_eq {f : α → Guarded β} {g : α → β} : ∀ {l : List α},
    (∀ a ∈ l, f a = .ok (g a)) → l.mapM f = .ok (l.map g)
  | [], _ => rfl
  | a :: rest, h => by
    have first := h a List.mem_cons_self
    have more := mapM_eq fun b hb => h b (List.mem_cons_of_mem a hb)
    rw [List.mapM_cons, first, ok_bind, more, ok_bind, List.map_cons, pure_eq_ok]

theorem anyM_eq {p : α → Guarded Bool} {q : α → Bool} : ∀ {l : List α},
    (∀ a ∈ l, p a = .ok (q a)) → l.anyM p = .ok (l.any q)
  | [], _ => rfl
  | a :: rest, h => by
    have first := h a List.mem_cons_self
    have more := anyM_eq fun b hb => h b (List.mem_cons_of_mem a hb)
    rw [List.anyM, first, ok_bind, List.any_cons]
    cases q a with
    | true => rfl
    | false => exact more

theorem allM_eq {p : α → Guarded Bool} {q : α → Bool} : ∀ {l : List α},
    (∀ a ∈ l, p a = .ok (q a)) → l.allM p = .ok (l.all q)
  | [], _ => rfl
  | a :: rest, h => by
    have first := h a List.mem_cons_self
    have more := allM_eq fun b hb => h b (List.mem_cons_of_mem a hb)
    rw [List.allM, first, ok_bind, List.all_cons]
    cases q a with
    | true => exact more
    | false => rfl

/-! ## 2. One node -/

variable {doc : Document} {id : NodeId}

/-- The node of an id, which has to be one of the document's. -/
def demand (doc : Document) (id : NodeId) : Guarded NodeId :=
  if id < doc.size then .ok id else .error (.nodeOutOfRange id)

/-- The entry of the arena at an index. -/
def entry (doc : Document) (id : NodeId) : Guarded Node :=
  match doc.nodes[id]? with
  | some n => .ok n
  | none => .error (.indexOutOfBounds id)

/-- What the node is. -/
def kind (doc : Document) (id : NodeId) : Guarded NodeKind := do
  return (← entry doc id).kind

/-- Whether the node is an element. -/
def isElement (doc : Document) (id : NodeId) : Guarded Bool := do
  match ← kind doc id with
  | .element .. => return true
  | _ => return false

/-- Whether the node is a text. -/
def isText (doc : Document) (id : NodeId) : Guarded Bool := do
  match ← kind doc id with
  | .text _ => return true
  | _ => return false

/-- The name of an element. -/
def name? (doc : Document) (id : NodeId) : Guarded (Option String) := do
  match ← kind doc id with
  | .element name _ => return some name
  | _ => return none

/-- The content of a text. -/
def text? (doc : Document) (id : NodeId) : Guarded (Option String) := do
  match ← kind doc id with
  | .text content => return some content
  | _ => return none

/-- The attributes of a node. -/
def attributes (doc : Document) (id : NodeId) : Guarded (List (String × String)) := do
  match ← kind doc id with
  | .element _ attributes => return attributes.entries
  | _ => return []

/-- The value of an attribute of a node. -/
def attribute? (doc : Document) (id : NodeId) (name : String) : Guarded (Option String) := do
  match ← kind doc id with
  | .element _ attributes => return attributes.get? name
  | _ => return none

theorem demand_eq (h : id < doc.size) : demand doc id = .ok id :=
  if_pos h

/-- **A node of the document has an entry.** -/
theorem exists_entry_eq (h : id < doc.size) : ∃ n, doc.node? id = some n ∧ entry doc id = .ok n := by
  have found : doc.nodes[id]? = some doc.nodes[id] := Array.getElem?_eq_getElem h
  refine ⟨doc.nodes[id], found, ?_⟩
  rw [entry, found]

theorem exists_kind_eq (h : id < doc.size) : ∃ k, doc.kind? id = some k ∧ kind doc id = .ok k := by
  obtain ⟨n, hn, hentry⟩ := exists_entry_eq h
  refine ⟨n.kind, ?_, ?_⟩
  · rw [Document.kind?, hn]
    rfl
  · rw [kind, hentry]
    rfl

theorem isElement_eq (h : id < doc.size) : isElement doc id = .ok (doc.isElement id) := by
  obtain ⟨k, hk, hkind⟩ := exists_kind_eq h
  rw [isElement, Document.isElement, hk, hkind]
  cases k <;> rfl

theorem isText_eq (h : id < doc.size) : isText doc id = .ok (doc.isText id) := by
  obtain ⟨k, hk, hkind⟩ := exists_kind_eq h
  rw [isText, Document.isText, hk, hkind]
  cases k <;> rfl

theorem name?_eq (h : id < doc.size) : name? doc id = .ok (doc.name? id) := by
  obtain ⟨k, hk, hkind⟩ := exists_kind_eq h
  rw [name?, Document.name?, hk, hkind]
  cases k <;> rfl

theorem text?_eq (h : id < doc.size) : text? doc id = .ok (doc.text? id) := by
  obtain ⟨k, hk, hkind⟩ := exists_kind_eq h
  rw [text?, Document.text?, hk, hkind]
  cases k <;> rfl

theorem attributes_eq (h : id < doc.size) : attributes doc id = .ok (doc.attributes id) := by
  obtain ⟨k, hk, hkind⟩ := exists_kind_eq h
  rw [attributes, Document.attributes, hk, hkind]
  cases k <;> rfl

theorem attribute?_eq {name : String} (h : id < doc.size) :
    attribute? doc id name = .ok (doc.attribute? id name) := by
  obtain ⟨k, hk, hkind⟩ := exists_kind_eq h
  rw [attribute?, Document.attribute?, hk, hkind]
  cases k <;> rfl

/-! ## 3. Relations between nodes -/

/-- The parent of a node. -/
def parent? (doc : Document) (id : NodeId) : Guarded (Option NodeId) := do
  return (← entry doc id).parent

/-- The children of a node. -/
def children (doc : Document) (id : NodeId) : Guarded (List NodeId) := do
  return (← entry doc id).children.toList

/-- The children that are elements. -/
def elementChildren (doc : Document) (id : NodeId) : Guarded (List NodeId) := do
  keep (isElement doc) (← children doc id)

/-- The nodes below a node: the indices up to its stop. -/
def descendants (doc : Document) (id : NodeId) : Guarded (List NodeId) := do
  let stop := (← entry doc id).stop
  return List.range' (id + 1) (stop - (id + 1))

theorem lt_of_parent?_eq {p : NodeId} (h : parent? doc id = .ok (some p)) : p < id := by
  rw [parent?, entry] at h
  cases found : doc.nodes[id]? with
  | none =>
    rw [found] at h
    cases h
  | some n =>
    rw [found, ok_bind, pure_eq_ok, Except.ok.injEq] at h
    have same : doc.parent? id = some p := by
      rw [Document.parent?, Document.node?, found]
      exact h
    exact doc.lt_of_parent? same

/-- The nodes above a node, each one found from the one below it. -/
def ancestors (doc : Document) (id : NodeId) : Guarded (List NodeId) :=
  match h : parent? doc id with
  | .error breach => .error breach
  | .ok none => return []
  | .ok (some p) => do
    have : p < id := lt_of_parent?_eq h
    return p :: (← ancestors doc p)
termination_by id

/-- The node and its siblings: the children that its parent lists. -/
def siblings (doc : Document) (id : NodeId) : Guarded (List NodeId) := do
  match ← parent? doc id with
  | none => return []
  | some p => children doc p

/-- The siblings behind a node. -/
def followingSiblings (doc : Document) (id : NodeId) : Guarded (List NodeId) := do
  return ((← siblings doc id).dropWhile (· != id)).drop 1

/-- The siblings before a node, nearest first. -/
def precedingSiblings (doc : Document) (id : NodeId) : Guarded (List NodeId) := do
  return ((← siblings doc id).takeWhile (· != id)).reverse

theorem parent?_eq (h : id < doc.size) : parent? doc id = .ok (doc.parent? id) := by
  obtain ⟨n, hn, hentry⟩ := exists_entry_eq h
  rw [parent?, Document.parent?, hn, hentry]
  rfl

theorem children_eq (h : id < doc.size) : children doc id = .ok (doc.children id) := by
  obtain ⟨n, hn, hentry⟩ := exists_entry_eq h
  rw [children, Document.children, hn, hentry]
  rfl

theorem elementChildren_eq (h : id < doc.size) :
    elementChildren doc id = .ok (doc.elementChildren id) := by
  rw [elementChildren, children_eq h, ok_bind, Document.elementChildren]
  exact keep_eq fun c hc => isElement_eq (Document.lt_of_mem_children hc).2

theorem descendants_eq (h : id < doc.size) : descendants doc id = .ok (doc.descendants id) := by
  obtain ⟨n, hn, hentry⟩ := exists_entry_eq h
  rw [descendants, Document.descendants, Document.stop, hn, hentry]
  rfl

theorem ancestors_eq (h : id < doc.size) : ancestors doc id = .ok (doc.ancestors id) := by
  induction id using Nat.strong_induction_on with
  | _ id ih =>
    have found := parent?_eq h
    rw [ancestors]
    split
    · rename_i failed
      cases found.symm.trans failed
    · rename_i none
      have above : doc.parent? id = .none := Except.ok.inj (found.symm.trans none)
      rw [Document.ancestors_of_parent?_eq_none above]
      rfl
    · rename_i p some
      have above : doc.parent? id = .some p := Except.ok.inj (found.symm.trans some)
      have lt := doc.lt_of_parent? above
      rw [Document.ancestors_of_parent? above, ih p lt (Nat.lt_trans lt h)]
      rfl

theorem siblings_eq (h : id < doc.size) : siblings doc id = .ok (doc.siblings id) := by
  rw [siblings, parent?_eq h, ok_bind, Document.siblings]
  cases above : doc.parent? id with
  | none => rfl
  | some p => exact children_eq (Nat.lt_trans (doc.lt_of_parent? above) h)

theorem followingSiblings_eq (h : id < doc.size) :
    followingSiblings doc id = .ok (doc.followingSiblings id) := by
  rw [followingSiblings, siblings_eq h]
  rfl

theorem precedingSiblings_eq (h : id < doc.size) :
    precedingSiblings doc id = .ok (doc.precedingSiblings id) := by
  rw [precedingSiblings, siblings_eq h]
  rfl

/-! ## 4. Text and location -/

/-- The content of a text; the texts below any other node, joined. -/
def stringValue (doc : Document) (id : NodeId) : Guarded String := do
  match ← kind doc id with
  | .text content => return content
  | _ =>
    let texts ← (← descendants doc id).mapM (text? doc)
    return String.join (texts.filterMap fun text => text)

/-- The step that leads from its parent to a node. -/
def locationStep? (doc : Document) (id : NodeId) : Guarded (Option String) := do
  match ← kind doc id with
  | .element name _ =>
    let before ← keep (fun s => return (← name? doc s) == some name) (← precedingSiblings doc id)
    return some (name ++ "[" ++ toString (before.length + 1) ++ "]")
  | .text _ =>
    let before ← keep (isText doc) (← precedingSiblings doc id)
    return some ("text()[" ++ toString (before.length + 1) ++ "]")
  | .root => return none

/-- The way from the document node to a node. -/
def location (doc : Document) (id : NodeId) : Guarded String := do
  let steps ← (id :: (← ancestors doc id)).mapM (locationStep? doc)
  match (steps.filterMap fun step => step).reverse with
  | [] => return "/"
  | steps => return "/" ++ "/".intercalate steps

theorem stringValue_eq (h : id < doc.size) : stringValue doc id = .ok (doc.stringValue id) := by
  obtain ⟨k, hk, hkind⟩ := exists_kind_eq h
  have below : (doc.descendants id).mapM (text? doc) = .ok ((doc.descendants id).map doc.text?) :=
    mapM_eq fun x hx => text?_eq (Path.lt_size_of_mem_descendants h hx)
  rw [stringValue, Document.stringValue, Document.text?, hk, hkind, ok_bind]
  cases k with
  | text content => rfl
  | _ =>
    rw [descendants_eq h, ok_bind, below, ok_bind, pure_eq_ok, List.filterMap_map]
    rfl

theorem lt_size_of_mem_precedingSiblings {x : NodeId} (h : x ∈ doc.precedingSiblings id) :
    x < doc.size :=
  Path.lt_size_of_mem_siblings ((List.takeWhile_sublist _).mem (List.mem_reverse.mp h))

theorem locationStep?_eq (h : id < doc.size) :
    locationStep? doc id = .ok (doc.locationStep? id) := by
  obtain ⟨k, hk, hkind⟩ := exists_kind_eq h
  rw [locationStep?, Document.locationStep?, hk, hkind, ok_bind]
  cases k with
  | root => rfl
  | element name attributes =>
    have before : keep (fun s => return (← name? doc s) == some name) (doc.precedingSiblings id) =
        .ok ((doc.precedingSiblings id).filter fun s => doc.name? s == some name) := by
      refine keep_eq fun s hs => ?_
      rw [name?_eq (lt_size_of_mem_precedingSiblings hs), ok_bind, pure_eq_ok]
    show precedingSiblings doc id >>= _ = _
    rw [precedingSiblings_eq h, ok_bind, before]
    rfl
  | text content =>
    have before : keep (isText doc) (doc.precedingSiblings id) =
        .ok ((doc.precedingSiblings id).filter doc.isText) :=
      keep_eq fun s hs => isText_eq (lt_size_of_mem_precedingSiblings hs)
    show precedingSiblings doc id >>= _ = _
    rw [precedingSiblings_eq h, ok_bind, before]
    rfl

theorem location_eq (h : id < doc.size) : location doc id = .ok (doc.location id) := by
  have steps : (id :: doc.ancestors id).mapM (locationStep? doc) =
      .ok ((id :: doc.ancestors id).map doc.locationStep?) := by
    refine mapM_eq fun x hx => locationStep?_eq ?_
    rcases List.mem_cons.mp hx with rfl | hx
    · exact h
    · exact Path.lt_size_of_mem_ancestors hx
  rw [location, ancestors_eq h, ok_bind, steps, ok_bind, List.filterMap_map, Document.location]
  show _ = Except.ok (match ((id :: doc.ancestors id).filterMap doc.locationStep?).reverse with
    | [] => "/"
    | steps => "/" ++ "/".intercalate steps)
  show (match ((id :: doc.ancestors id).filterMap doc.locationStep?).reverse with
    | [] => pure "/"
    | steps => pure ("/" ++ "/".intercalate steps) : Guarded String) = _
  split <;> rfl

/-! ## 5. Items -/

variable {i : Item}

/-- The value of an item. -/
def itemValue (doc : Document) : Item → Guarded String
  | .node id => do stringValue doc (← demand doc id)
  | .attribute owner name => do return (← attribute? doc (← demand doc owner) name).getD ""

/-- Whether the item carries no content. -/
def itemIsBlank (doc : Document) : Item → Guarded Bool
  | .attribute owner name => do return Text.isBlankText (← itemValue doc (.attribute owner name))
  | .node id => do
    let id ← demand doc id
    match ← kind doc id with
    | .root => return false
    | .text content => return Text.isBlankText content
    | .element .. =>
      if !(← attributes doc id).isEmpty then return false
      else if !(← elementChildren doc id).isEmpty then return false
      else return Text.isBlankText (← stringValue doc id)

/-- The way from the document node to the item. -/
def itemLocation (doc : Document) : Item → Guarded String
  | .node id => do location doc (← demand doc id)
  | .attribute owner name => do
    let way ← location doc (← demand doc owner)
    return if way == "/" then "/@" ++ name else way ++ "/@" ++ name

theorem itemValue_eq (h : i.nodeId < doc.size) : itemValue doc i = .ok (i.stringValue doc) := by
  rcases i with id | ⟨owner, name⟩
  · change id < doc.size at h
    rw [itemValue, demand_eq h, ok_bind]
    exact stringValue_eq h
  · change owner < doc.size at h
    rw [itemValue, demand_eq h, ok_bind, attribute?_eq h]
    rfl

example : itemValue (.ofElement { name := "p" }) (.node 2) = .error (.nodeOutOfRange 2) := rfl

theorem itemIsBlank_eq (h : i.nodeId < doc.size) : itemIsBlank doc i = .ok (i.isBlank doc) := by
  rcases i with id | ⟨owner, name⟩
  · change id < doc.size at h
    obtain ⟨k, hk, hkind⟩ := exists_kind_eq h
    rw [itemIsBlank, demand_eq h, ok_bind, hkind, ok_bind, Item.isBlank, hk]
    cases k with
    | root => rfl
    | text content => rfl
    | element name own =>
      have listed : doc.attributes id = own.entries := by rw [Document.attributes, hk]
      simp only [attributes_eq h, elementChildren_eq h, stringValue_eq h, ok_bind, pure_eq_ok, listed]
      cases own.entries.isEmpty <;> cases (doc.elementChildren id).isEmpty <;> rfl
  · rw [itemIsBlank, itemValue_eq h]
    rfl

theorem itemLocation_eq (h : i.nodeId < doc.size) :
    itemLocation doc i = .ok (i.location doc) := by
  rcases i with id | ⟨owner, name⟩
  · change id < doc.size at h
    rw [itemLocation, demand_eq h, ok_bind]
    exact location_eq h
  · change owner < doc.size at h
    rw [itemLocation, demand_eq h, ok_bind, location_eq h]
    rfl

end Guarded

end MarkupRules
