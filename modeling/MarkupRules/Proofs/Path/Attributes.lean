import Mathlib.Data.Set.Basic
import MarkupRules.Proofs.Path.Embedding
import MarkupRules.Proofs.Path.Steps

/-!
# Attributes as contexts

A step may be taken from an attribute: the context of a rule may be one, and so may be what the
steps before lead to. Two properties of steps that hold of every context that is a node stop
there.

* `Axis.query` -- the expression of one step without filters, `Expr.compile_query` -- its text;
* `Axis.selected` -- what this expression selects, as a set;
* `Axis.orSelf_includes_self` -- **the `-or-self` axes include the context**, except that the one
  downwards leads nowhere from an attribute;
* `Axis.Principal` -- the kind of item that a name on an axis is about;
* `Step.principal_or_context` -- a step that asks for names selects such items, or an attribute it
  is taken from;
* `Step.principal_iff` -- the latter is the only way to select anything else;
* `walk_nodes` -- steps lead from nodes to nodes, if none of them is to attributes;
* `Step.principal_kind` -- **when names are about items of the principal kind**.
-/

namespace MarkupRules

/-- Whether the item is an attribute. -/
def Item.IsAttribute (i : Item) : Prop :=
  ∃ owner name, i = .attribute owner name

namespace Path

variable {doc : Document} {axis : Axis} {test : NodeTest} {s : Step} {i j : Item} {id : NodeId}

/-! ## 1. Expressions of one step -/

theorem Axis.name_mem_keywords (axis : Axis) : axis.name ∈ keywords := by
  cases axis <;> decide

/-- A test as it is written. -/
def NodeTest.spelling : NodeTest → String
  | .name n => n
  | .wildcard => "*"
  | .text => "text()"
  | .anyNode => "node()"

/-- Whether the test can be written: its name, if it asks for one, has to be a token. -/
def NodeTest.Written : NodeTest → Prop
  | .name n => ReadsAsName n
  | _ => True

/-- The expression `axis::test`. -/
def Axis.query (axis : Axis) (test : NodeTest) : Expr :=
  ⟨axis.name ++ "::" ++ test.spelling, [⟨false, [⟨axis, test, []⟩]⟩]⟩

/-- A test is read back from the way it is written. -/
theorem NodeTest.Written.exists_tokens (h : test.Written) :
    ∃ ts, Lexes test.spelling.toList ts ∧ Derives .test ts test [] := by
  have called : ∀ n : String, ReadsAsName n → Lexes (n.toList ++ ['(', ')'])
      [.name n, .openParenthesis, .closeParenthesis] := fun n hn =>
    .name hn (endsName_of_head? (.inr rfl)) (.cons (by decide) rfl (.cons (by decide) rfl .nil))
  match test with
  | .name n =>
    refine ⟨[.name n], ?_, .name⟩
    have alone : Lexes (n.toList ++ []) [.name n] := .name h (by rintro _ ⟨⟩) .nil
    rwa [List.append_nil] at alone
  | .wildcard => exact ⟨[.star], .cons (by decide) rfl .nil, .wildcard⟩
  | .text => exact ⟨_, called "text" (readsAsName_of_mem_keywords (by decide)), .text⟩
  | .anyNode => exact ⟨_, called "node" (readsAsName_of_mem_keywords (by decide)), .anyNode⟩

/-- **An axis and a test are read back from their text.** -/
theorem Expr.compile_query (axis : Axis) (written : test.Written) :
    Expr.compile (axis.name ++ "::" ++ test.spelling) = .ok (axis.query test) := by
  obtain ⟨ts, lexes, derived⟩ := written.exists_tokens
  have lexed : Lexes (axis.name ++ "::" ++ test.spelling).toList
      (.name axis.name :: .colonColon :: ts) := by
    -- two colons do not belong to the name of the axis
    have apart : takeName (':' :: ':' :: test.spelling.toList) = ([], _) :=
      takeName_colon (by rintro _ ⟨⟩; decide)
    have named := Lexes.name_of_takeName (readsAsName_of_mem_keywords axis.name_mem_keywords) apart
      (.cons (by decide) rfl lexes)
    simpa using named
  exact Expr.compile_of_lexes lexed
    (.single (.relative (.last (.axis derived .noFilter))))

/-- **`axis::test` selects the items along the axis that pass the test.** -/
theorem Axis.select_query : (axis.query test).select doc i =
    inDocumentOrder ((axis.items doc i).filter (test.accepts doc axis)) := by
  rw [Expr.select, query, selectUnion_single, Branch.select, if_neg Bool.false_ne_true, walk_cons,
    walk_nil, List.flatMap_singleton, Step.select, keepAll]

/-- What `axis::test` selects from an item, in any order. -/
def Axis.selected (doc : Document) (axis : Axis) (test : NodeTest) (i : Item) : Set Item :=
  {j | j ∈ (axis.query test).select doc i}

theorem Axis.mem_selected : j ∈ axis.selected doc test i ↔
    j ∈ axis.items doc i ∧ test.accepts doc axis j = true := by
  rw [selected, Set.mem_ofPred_eq, select_query, mem_inDocumentOrder, List.mem_filter]

/-! ## 2. The axes that include the context -/

/-- A test does not tell axes apart that are not to attributes. -/
theorem NodeTest.accepts_eq_accepts_self (h : axis ≠ .attribute) :
    test.accepts doc axis j = test.accepts doc .self j := by
  rcases j with id | ⟨owner, name⟩
  · have guard : (axis != .attribute) = (Axis.self != .attribute) := bne_iff_ne.mpr h
    simp only [accepts, guard]
  · rfl

theorem Axis.items_self : Axis.self.items doc i = [i] := by
  cases i <;> rfl

/-- An axis that puts the context in front of what another axis leads to. -/
theorem Axis.selected_eq_union {wide narrow : Axis} (hw : wide ≠ .attribute)
    (hn : narrow ≠ .attribute) (items : wide.items doc i = i :: narrow.items doc i) :
    wide.selected doc test i = Axis.self.selected doc test i ∪ narrow.selected doc test i := by
  ext j
  rw [Set.mem_union, mem_selected, mem_selected, mem_selected, items, items_self, List.mem_cons,
    List.mem_singleton, NodeTest.accepts_eq_accepts_self hw, NodeTest.accepts_eq_accepts_self hn,
    or_and_right]

theorem Axis.selected_ancestorOrSelf : Axis.ancestorOrSelf.selected doc test i =
    Axis.self.selected doc test i ∪ Axis.ancestor.selected doc test i :=
  selected_eq_union nofun nofun (by cases i <;> rfl)

theorem Axis.selected_descendantOrSelf : Axis.descendantOrSelf.selected doc test (.node id) =
    Axis.self.selected doc test (.node id) ∪ Axis.descendant.selected doc test (.node id) :=
  selected_eq_union nofun nofun rfl

/-- An axis that does not lead anywhere selects nothing. -/
theorem Axis.selected_eq_empty (items : axis.items doc i = []) : axis.selected doc test i = ∅ := by
  rw [Set.eq_empty_iff_forall_notMem]
  intro j hj
  rw [mem_selected, items] at hj
  exact absurd hj.1 List.not_mem_nil

theorem Axis.mem_selected_self : j ∈ Axis.self.selected doc test i ↔
    j = i ∧ test.accepts doc .self i = true := by
  rw [mem_selected, items_self, List.mem_singleton]
  refine and_congr_right fun same => ?_
  rw [same]

/-- **The `-or-self` axes include the context**, for every test that can be written. Upwards they
    do so from every item, and downwards from every node. From an attribute `descendant-or-self`
    leads nowhere, so it leaves out the attribute where that passes the test, and only there. -/
theorem Axis.orSelf_includes_self (written : test.Written) (doc : Document) (i : Item) :
    (∀ axis : Axis, Expr.compile (axis.name ++ "::" ++ test.spelling) = .ok (axis.query test)) ∧
    Axis.ancestorOrSelf.selected doc test i =
      Axis.self.selected doc test i ∪ Axis.ancestor.selected doc test i ∧
    (∀ id, i = .node id → Axis.descendantOrSelf.selected doc test i =
      Axis.self.selected doc test i ∪ Axis.descendant.selected doc test i) ∧
    (i.IsAttribute → Axis.descendantOrSelf.selected doc test i = ∅) ∧
    (Axis.descendantOrSelf.selected doc test i =
        Axis.self.selected doc test i ∪ Axis.descendant.selected doc test i ↔
      ¬ (i.IsAttribute ∧ i ∈ Axis.self.selected doc test i)) := by
  have nodes : ∀ id, i = .node id → Axis.descendantOrSelf.selected doc test i =
      Axis.self.selected doc test i ∪ Axis.descendant.selected doc test i := by
    rintro id rfl
    exact selected_descendantOrSelf
  have nowhere : i.IsAttribute → Axis.descendantOrSelf.selected doc test i = ∅ ∧
      Axis.descendant.selected doc test i = ∅ := by
    rintro ⟨owner, name, rfl⟩
    exact ⟨selected_eq_empty rfl, selected_eq_empty rfl⟩
  refine ⟨fun axis => Expr.compile_query axis written, selected_ancestorOrSelf, nodes,
    fun h => (nowhere h).1, ?_⟩
  constructor
  · intro same h
    obtain ⟨isAttribute, here⟩ := h
    rw [(nowhere isAttribute).1] at same
    exact absurd (same ▸ Set.mem_union_left _ here) (Set.notMem_empty i)
  · intro h
    rcases i with id | ⟨owner, name⟩
    · exact nodes id rfl
    · have isAttribute : (Item.attribute owner name).IsAttribute := ⟨owner, name, rfl⟩
      -- the attribute fails the test, so all three axes select nothing
      have none : Axis.self.selected doc test (.attribute owner name) = ∅ := by
        rw [Set.eq_empty_iff_forall_notMem]
        intro j hj
        obtain rfl := (mem_selected_self.mp hj).1
        exact h ⟨isAttribute, hj⟩
      rw [(nowhere isAttribute).1, (nowhere isAttribute).2, none, Set.union_self]

theorem Axis.orSelf_includes_self_lang : NodeTest.Written (.name "lang") ∧
    (∀ axis : Axis, Expr.compile (axis.name ++ "::lang") = .ok (axis.query (.name "lang"))) ∧
    Axis.ancestorOrSelf.selected (.ofElement article) (.name "lang") (.attribute 1 "lang") =
      Axis.self.selected (.ofElement article) (.name "lang") (.attribute 1 "lang") ∪
        Axis.ancestor.selected (.ofElement article) (.name "lang") (.attribute 1 "lang") := by
  have written : NodeTest.Written (.name "lang") := show ReadsAsName "lang" by decide +kernel
  obtain ⟨compiled, above, _⟩ :=
    Axis.orSelf_includes_self written (.ofElement article) (.attribute 1 "lang")
  refine ⟨written, fun axis => ?_, above⟩
  have same : axis.name ++ "::lang" = axis.name ++ "::" ++ "lang" := by
    rw [String.append_assoc]
    rfl
  rw [same]
  exact compiled axis

/-- **An attribute is left out of what is at it or below it.** The expressions `self::node()` and
    `descendant-or-self::node()` are taken from the same attribute; the first selects it, and the
    second selects nothing. -/
theorem Axis.descendantOrSelf_leaves_out_attribute :
    Expr.compile "self::node()" = .ok (Axis.self.query .anyNode) ∧
      Expr.compile "descendant-or-self::node()" = .ok (Axis.descendantOrSelf.query .anyNode) ∧
        (Axis.self.query .anyNode).select (.ofElement article) (.attribute 1 "lang") =
          [.attribute 1 "lang"] ∧
        (Axis.descendantOrSelf.query .anyNode).select (.ofElement article) (.attribute 1 "lang") =
          [] := by
  have written : NodeTest.Written .anyNode := trivial
  have here : Axis.self.name ++ "::" ++ NodeTest.spelling .anyNode = "self::node()" := rfl
  have below : Axis.descendantOrSelf.name ++ "::" ++ NodeTest.spelling .anyNode =
      "descendant-or-self::node()" := rfl
  exact ⟨here ▸ Expr.compile_query .self written,
    below ▸ Expr.compile_query .descendantOrSelf written, Axis.select_query, Axis.select_query⟩

/-! ## 3. The kind of item that a name is about -/

/-- Whether the test asks for a name, whichever it is. -/
def NodeTest.ByName : NodeTest → Prop
  | .name _ | .wildcard => True
  | .text | .anyNode => False

/-- The kind of item that a name on the axis is about: attributes on the axis to them, elements on
    every other axis. -/
def Axis.Principal (doc : Document) (axis : Axis) : Item → Prop
  | .node id => axis ≠ .attribute ∧ doc.isElement id = true
  | .attribute .. => axis = .attribute

/-- A node that passes a test for a name is an element. -/
theorem NodeTest.ByName.isElement (named : test.ByName)
    (h : test.accepts doc axis (.node id) = true) : axis ≠ .attribute ∧ doc.isElement id = true := by
  rw [NodeTest.accepts.eq_def, Bool.and_eq_true, bne_iff_ne] at h
  refine ⟨h.1, ?_⟩
  match test with
  | .wildcard => exact h.2
  | .name n =>
    have own : doc.name? id = some n := beq_iff_eq.mp h.2
    rw [Document.name?] at own
    rw [Document.isElement]
    split at own
    · rfl
    · cases own

/-- An axis leads to attributes if it is the axis to them, or it stays at the context. -/
theorem Axis.eq_of_attribute_mem_items {owner : NodeId} {name : String}
    (h : .attribute owner name ∈ axis.items doc i) (apart : axis ≠ .attribute) :
    i = .attribute owner name ∧ (axis = .self ∨ axis = .ancestorOrSelf) := by
  have nodes : ∀ ids : List NodeId, .attribute owner name ∉ ids.map Item.node := by
    intro ids mem
    obtain ⟨x, _, same⟩ := List.mem_map.mp mem
    cases same
  rcases i with id | ⟨o, n⟩
  · match axis with
    | .attribute => exact absurd rfl apart
    | .self => exact absurd h (nodes [id])
    | .descendantOrSelf => exact absurd h (nodes (id :: doc.descendants id))
    | .ancestorOrSelf => exact absurd h (nodes (id :: doc.ancestors id))
    | .child | .descendant | .parent | .ancestor | .followingSibling | .precedingSibling =>
      exact absurd h (nodes _)
  · match axis with
    | .self => exact ⟨(List.mem_singleton.mp h).symm, .inl rfl⟩
    | .ancestorOrSelf =>
      rcases List.mem_cons.mp h with same | above
      · exact ⟨same.symm, .inr rfl⟩
      · exact absurd above (nodes (o :: doc.ancestors o))
    | .parent => exact absurd h (nodes [o])
    | .ancestor => exact absurd h (nodes (o :: doc.ancestors o))
    | .child | .descendant | .descendantOrSelf | .followingSibling | .precedingSibling
    | .attribute => cases h

/-- **What a step for names selects is of the principal kind**, or it is an attribute at which the
    step stays. -/
theorem Step.principal_or_context (named : s.test.ByName) (h : j ∈ s.select doc i) :
    s.axis.Principal doc j ∨
      j = i ∧ i.IsAttribute ∧ (s.axis = .self ∨ s.axis = .ancestorOrSelf) := by
  rcases j with id | ⟨owner, name⟩
  · exact .inl (named.isElement (Step.accepts_of_mem_select h))
  · by_cases toAttributes : s.axis = .attribute
    · exact .inl toAttributes
    · obtain ⟨rfl, stays⟩ :=
        Axis.eq_of_attribute_mem_items (Step.mem_items_of_mem_select h) toAttributes
      exact .inr ⟨rfl, ⟨owner, name, rfl⟩, stays⟩

/-- Nothing but the attribute itself can be of the wrong kind. -/
theorem Step.principal_iff (named : s.test.ByName) :
    (∀ j ∈ s.select doc i, s.axis.Principal doc j) ↔ ¬ (i.IsAttribute ∧ i ∈ s.select doc i) := by
  constructor
  · intro all h
    obtain ⟨⟨owner, name, rfl⟩, here⟩ := h
    have toAttributes : s.axis = .attribute := all _ here
    -- an attribute has no attributes
    have nowhere := Step.mem_items_of_mem_select here
    rw [toAttributes] at nowhere
    cases nowhere
  · intro h j hj
    rcases Step.principal_or_context named hj with principal | ⟨rfl, isAttribute, _⟩
    · exact principal
    · exact absurd ⟨isAttribute, hj⟩ h

/-! ## 4. Steps in a row -/

/-- A step that is not to attributes leads from a node to nodes. -/
theorem Step.not_isAttribute (apart : s.axis ≠ .attribute) (hi : ¬ i.IsAttribute)
    (h : j ∈ s.select doc i) : ¬ j.IsAttribute := by
  rintro ⟨owner, name, rfl⟩
  have stays := Axis.eq_of_attribute_mem_items (Step.mem_items_of_mem_select h) apart
  exact hi ⟨owner, name, stays.1⟩

/-- **Steps lead from nodes to nodes**, if none of them is to attributes. -/
theorem walk_nodes : ∀ {steps : List Step} {is : List Item}, (∀ s ∈ steps, s.axis ≠ .attribute) →
    (∀ i ∈ is, ¬ i.IsAttribute) → ∀ j ∈ walk doc steps is, ¬ j.IsAttribute
  | [], is, _, h => by
    rw [walk_nil]
    exact h
  | s :: rest, is, apart, h => by
    rw [walk_cons]
    refine walk_nodes (fun t ht => apart t (List.mem_cons_of_mem s ht)) fun j hj => ?_
    obtain ⟨i, hi, hj⟩ := List.mem_flatMap.mp (mem_inDocumentOrder.mp hj)
    exact Step.not_isAttribute (apart s List.mem_cons_self) (h i hi) hj

/-- **When names are about items of the principal kind.** A step for names selects such items, save
    that on `self` and `ancestor-or-self` it may select the attribute it is taken from; where it
    does not, all items are of the principal kind. So they are at the end of every path from a node
    whose steps before are not to attributes. -/
theorem Step.principal_kind (named : s.test.ByName) (doc : Document) :
    (∀ i, ∀ j ∈ s.select doc i, s.axis.Principal doc j ∨
      j = i ∧ i.IsAttribute ∧ (s.axis = .self ∨ s.axis = .ancestorOrSelf)) ∧
    (∀ i, (∀ j ∈ s.select doc i, s.axis.Principal doc j) ↔
      ¬ (i.IsAttribute ∧ i ∈ s.select doc i)) ∧
    ∀ (absolute : Bool) (before : List Step) (id : NodeId), (∀ t ∈ before, t.axis ≠ .attribute) →
      ∀ j ∈ Branch.select doc ⟨absolute, before ++ [s]⟩ (.node id), s.axis.Principal doc j := by
  refine ⟨fun i j => Step.principal_or_context named, fun i => Step.principal_iff named, ?_⟩
  intro absolute before id apart j hj
  rw [Branch.select, walk_append, mem_walk_iff] at hj
  obtain ⟨i, hi, hj⟩ := hj
  obtain ⟨k, hk, hj⟩ := mem_walk_cons.mp hj
  rw [walk_nil, List.mem_singleton] at hj
  subst hj
  have start : ∀ i ∈ [if absolute then Item.node doc.root else .node id], ¬ i.IsAttribute := by
    intro i hi
    rw [List.mem_singleton.mp hi]
    rintro ⟨owner, name, same⟩
    cases absolute <;> cases same
  have node := walk_nodes apart start i hi
  exact (Step.principal_iff named).mpr (fun h => node h.1) j hk

theorem Step.principal_kind_upwards : NodeTest.wildcard.ByName ∧
    (∀ j ∈ Step.select (.ofElement article) ⟨.ancestorOrSelf, .wildcard, []⟩ (.node 2),
      Axis.ancestorOrSelf.Principal (.ofElement article) j) ∧
    ¬ ∀ j ∈ Step.select (.ofElement article) ⟨.ancestorOrSelf, .wildcard, []⟩
        (.attribute 1 "lang"), Axis.ancestorOrSelf.Principal (.ofElement article) j := by
  have named : NodeTest.wildcard.ByName := trivial
  obtain ⟨_, exactly, _⟩ := Step.principal_kind (s := ⟨.ancestorOrSelf, .wildcard, []⟩) named
    (.ofElement article)
  refine ⟨named, (exactly (.node 2)).mpr ?_, fun all => (exactly _).mp all ?_⟩
  · rintro ⟨⟨owner, name, same⟩, _⟩
    cases same
  · exact ⟨⟨1, "lang", rfl⟩, mem_select_plain.mpr ⟨List.mem_cons_self, rfl⟩⟩

/-- **A name may be about an attribute on an axis of nodes.** The expression `self::*` selects the
    attribute it is taken from. -/
theorem Step.wildcard_keeps_attribute :
    Expr.compile "self::*" = .ok (Axis.self.query .wildcard) ∧
      (Axis.self.query .wildcard).select (.ofElement article) (.attribute 1 "lang") =
        [.attribute 1 "lang"] ∧
      ¬ Axis.self.Principal (.ofElement article) (.attribute 1 "lang") := by
  have written : NodeTest.Written .wildcard := trivial
  have here : Axis.self.name ++ "::" ++ NodeTest.spelling .wildcard = "self::*" := rfl
  exact ⟨here ▸ Expr.compile_query .self written, Axis.select_query, nofun⟩

end Path

end MarkupRules
