import Mathlib.Data.List.Perm.Subperm
import MarkupRules.Proofs.Path.Lexing
import MarkupRules.Proofs.Path.Parsing
import MarkupRules.Proofs.Path.Steps

/-!
# Locations are addresses

A location is a path expression that selects the item it was made for, and no other.

* `Mark` -- what one step of a location says: a name, or that it is a text, and a rank;
* `Document.marks` -- the marks on the way to a node;
* `Lexes.marks`, `SlashedSteps` -- the text of marks is cut into their tokens, and these write
  the steps of the marks;
* `Document.walk_marks` -- **the steps of its marks lead to the node**, by induction on the way
  down to it;
* `Document.NamesReadable` -- the documents whose names can stand in an expression;
* `Document.location_resolves` -- **a location is resolved to its item**.
-/

namespace MarkupRules

open MarkupRules.Path

/-! ## 1. Marks -/

/-- What one step of a location says. -/
structure Mark where
  /-- The name of an element; a text has none. -/
  name? : Option String
  /-- The place among the siblings of that name, or among the texts. -/
  rank : Nat

namespace Mark

/-- The mark as a location shows it. -/
def text (m : Mark) : String :=
  m.name?.getD "text()" ++ "[" ++ toString m.rank ++ "]"

/-- What an item at the mark has to be. -/
def test (m : Mark) : NodeTest :=
  match m.name? with
  | some n => .name n
  | none => .text

/-- The tokens of the test. -/
def testTokens (m : Mark) : List Token :=
  match m.name? with
  | some n => [.name n]
  | none => [.name "text", .openParenthesis, .closeParenthesis]

/-- The tokens of the mark. -/
def tokens (m : Mark) : List Token :=
  m.testTokens ++ [.openBracket, .number m.rank, .closeBracket]

/-- The step that the mark writes. -/
def step (m : Mark) : Step :=
  ⟨.child, m.test, [.position m.rank]⟩

end Mark

/-- The siblings before a node that pass a test. -/
def Document.alikeBefore (doc : Document) (test : NodeTest) (id : NodeId) : List NodeId :=
  (doc.precedingSiblings id).filter fun s => test.accepts doc .child (.node s)

/-- The mark of a node. The document node has none. -/
def Document.mark? (doc : Document) (id : NodeId) : Option Mark :=
  match doc.kind? id with
  | some (.element name _) => some ⟨some name, (doc.alikeBefore (.name name) id).length + 1⟩
  | some (.text _) => some ⟨none, (doc.alikeBefore .text id).length + 1⟩
  | _ => none

/-- The marks on the way from the document node to a node. -/
def Document.marks (doc : Document) (id : NodeId) : List Mark :=
  ((id :: doc.ancestors id).filterMap doc.mark?).reverse

namespace Document

variable {doc : Document} {id p : NodeId} {m : Mark}

theorem locationStep?_eq (doc : Document) (id : NodeId) :
    doc.locationStep? id = (doc.mark? id).map Mark.text := by
  rw [locationStep?, mark?]
  cases doc.kind? id with
  | none => rfl
  | some k => cases k <;> rfl

theorem locationSteps_eq (doc : Document) (id : NodeId) :
    doc.locationSteps id = (doc.marks id).map Mark.text := by
  rw [locationSteps, marks, List.map_reverse, List.map_filterMap]
  simp only [locationStep?_eq]

/-- A node below another one has a mark, which says what it is and how many of its kind stand
    before it. -/
theorem exists_mark (h : doc.parent? id = some p) : ∃ m, doc.mark? id = some m ∧
    m.test.accepts doc .child (.node id) = true ∧ m.rank = (doc.alikeBefore m.test id).length + 1 := by
  obtain ⟨e, rfl⟩ := doc.exists_eq_ofElement
  obtain ⟨q, d, hd, rfl⟩ := exists_index_eq (lt_size_of_parent? h)
  have kind := kind?_index hd
  cases q with
  | nil =>
    rw [Content.index_nil, parent?_zero] at h
    cases h
  | cons k q =>
    cases d with
    | text content =>
      refine ⟨⟨none, _⟩, by rw [mark?, kind]; rfl, ?_, rfl⟩
      show (ofElement e).isText (e.tree.index (k :: q)) = true
      rw [isText, kind]
      rfl
    | element name attributes children =>
      refine ⟨⟨some name, _⟩, by rw [mark?, kind]; rfl, ?_, rfl⟩
      show ((ofElement e).name? (e.tree.index (k :: q)) == some name) = true
      rw [name?, kind]
      exact beq_self_eq_true (some name)

theorem marks_root (doc : Document) : doc.marks doc.root = [] := by
  have above : doc.ancestors doc.root = [] := by
    obtain ⟨e, rfl⟩ := doc.exists_eq_ofElement
    exact ancestors_of_parent?_eq_none parent?_zero
  rw [marks, above, List.filterMap_cons, mark?, kind?_root]
  rfl

/-- **The way to a node** is the way to its parent and one mark more. -/
theorem marks_of_parent? (h : doc.parent? id = some p) (hm : doc.mark? id = some m) :
    doc.marks id = doc.marks p ++ [m] := by
  rw [marks, ancestors_of_parent? h, List.filterMap_cons_some hm, List.reverse_cons]
  rfl

theorem marks_ne_nil (h : doc.parent? id = some p) : doc.marks id ≠ [] := by
  obtain ⟨m, hm, _⟩ := exists_mark h
  rw [marks_of_parent? h hm]
  exact List.append_ne_nil_of_right_ne_nil _ (List.cons_ne_nil m [])

/-! ## 2. The steps of the marks lead to the node -/

/-- **The mark of a node leads to it** from its parent. -/
theorem select_mark (h : doc.parent? id = some p) (hm : doc.mark? id = some m) :
    m.step.select doc (.node p) = [.node id] := by
  obtain ⟨m', hm', accepted, rank⟩ := exists_mark h
  rw [hm] at hm'
  cases hm'
  have children : (Axis.items doc .child (.node p)).filter (m.test.accepts doc .child) =
      ((doc.alikeBefore m.test id).reverse.map .node) ++ .node id ::
        ((doc.followingSiblings id).map .node).filter (m.test.accepts doc .child) := by
    show ((doc.children p).map Item.node).filter _ = _
    rw [← siblings_eq h, List.map_append, List.filter_append, List.map_cons,
      List.filter_cons_of_pos accepted, alikeBefore, ← List.filter_reverse, List.filter_map]
    rfl
  have found := Step.select_position children
  rw [List.length_map, List.length_reverse, ← rank] at found
  exact found

/-- **The marks on the way to a node lead to it**: by induction on the way down, since every node
    stands behind its parent. -/
theorem walk_marks (h : id < doc.size) :
    walk doc ((doc.marks id).map Mark.step) [.node doc.root] = [.node id] := by
  induction id using Nat.strong_induction_on with
  | _ id ih =>
    by_cases top : id = doc.root
    · rw [top, marks_root, List.map_nil, walk_nil]
    · obtain ⟨p, hp⟩ := exists_parent? h top
      obtain ⟨m, hm, _⟩ := exists_mark hp
      have lt := doc.lt_of_parent? hp
      rw [marks_of_parent? hp hm, List.map_append, walk_append, ih p lt (Nat.lt_trans lt h)]
      exact walk_single (select_mark hp hm)

end Document

/-! ## 3. The text of the marks -/

/-- The mark can be read back: its name is one token, and its rank is in range. -/
structure Mark.Readable (m : Mark) : Prop where
  name : ∀ n ∈ m.name?, ReadsAsName n
  rank : 1 ≤ m.rank ∧ m.rank < 2 ^ 63

theorem readsAsName_text : ReadsAsName "text" := by
  decide +kernel

/-- **The text of a mark is cut into its tokens**, whatever stands behind it. -/
theorem Path.Lexes.mark {m : Mark} {tail : List Char} {ts : List Token} (h : m.Readable)
    (more : Lexes tail ts) :
    Lexes ('/' :: m.text.toList ++ tail) (.slash :: m.tokens ++ ts) := by
  have number : Lexes ('[' :: ((toString m.rank).toList ++ ']' :: tail))
      (.openBracket :: .number m.rank :: .closeBracket :: ts) := by
    refine .cons (by decide) rfl (.number h.rank.2 ?_ (.cons (by decide) rfl more))
    rintro _ ⟨⟩
    decide
  obtain ⟨name?, rank⟩ := m
  cases name? with
  | some n =>
    have name := h.name n rfl
    have text : Mark.text ⟨some n, rank⟩ = n ++ "[" ++ toString rank ++ "]" := rfl
    rw [text]
    simp only [String.toList_append, List.append_assoc, List.cons_append]
    exact .slash name.head?_ne_slash (.name name (endsName_of_head? (.inl rfl)) number)
  | none =>
    have text : Mark.text ⟨none, rank⟩ = "text" ++ "()" ++ "[" ++ toString rank ++ "]" := rfl
    rw [text]
    simp only [String.toList_append, List.append_assoc, List.cons_append]
    exact .slash readsAsName_text.head?_ne_slash (.name readsAsName_text
      (endsName_of_head? (.inr rfl)) (.cons (by decide) rfl (.cons (by decide) rfl number)))

theorem Path.Lexes.marks {tail : List Char} {ts : List Token} (more : Lexes tail ts) :
    ∀ {ms : List Mark}, (∀ m ∈ ms, m.Readable) →
      Lexes (ms.flatMap (fun m => '/' :: m.text.toList) ++ tail)
        (ms.flatMap (fun m => .slash :: m.tokens) ++ ts)
  | [], _ => more
  | m :: ms, h => by
    have others := Lexes.marks more fun m' hm' => h m' (List.mem_cons_of_mem m hm')
    rw [List.flatMap_cons, List.flatMap_cons, List.append_assoc, List.append_assoc]
    exact .mark (h m List.mem_cons_self) others

/-- The tokens write steps, each of them behind a slash. -/
inductive SlashedSteps : List Token → List Step → Prop
  | nil : SlashedSteps [] []
  | cons {ts mid s more} : Derives .step ts s mid → SlashedSteps mid more →
      SlashedSteps (.slash :: ts) (s :: more)

theorem SlashedSteps.derives_steps {mid : List Token} {more : List Step}
    (h : SlashedSteps mid more) : ∀ {ts s}, Derives .step ts s mid →
      Derives .steps ts (s :: more) [] := by
  induction h with
  | nil => exact fun first => .last first
  | cons second _ ih => exact fun first => .next first (ih second)

/-- **Slashed steps are an absolute path.** -/
theorem SlashedSteps.derives_union {ts : List Token} {steps : List Step} (h : SlashedSteps ts steps)
    (nonempty : ts ≠ []) : Derives .union ts [⟨true, steps⟩] [] := by
  cases h with
  | nil => exact absurd rfl nonempty
  | cons first more => exact .single (.absolute (more.derives_steps first))

/-- **The tokens of a mark write its step.** -/
theorem Mark.derives_step {m : Mark} {mid : List Token} (h : 1 ≤ m.rank) :
    Derives .step (m.tokens ++ mid) m.step mid := by
  have position : Derives .filters (.openBracket :: .number m.rank :: .closeBracket :: mid)
      [.position (m.rank : Int).toNat] mid :=
    .filter (.noOr (.noAnd (.position (Int.ofNat_le.mpr h)))) .noFilter
  rw [Int.toNat_natCast] at position
  rw [Mark.step, Mark.tokens, Mark.test, Mark.testTokens]
  cases m.name? with
  | some n => exact .child .name position
  | none => exact .child .text position

theorem SlashedSteps.marks {ts : List Token} {steps : List Step} (more : SlashedSteps ts steps) :
    ∀ {ms : List Mark}, (∀ m ∈ ms, m.Readable) →
      SlashedSteps (ms.flatMap (fun m => .slash :: m.tokens) ++ ts) (ms.map Mark.step ++ steps)
  | [], _ => more
  | m :: ms, h => by
    have others := SlashedSteps.marks more fun m' hm' => h m' (List.mem_cons_of_mem m hm')
    rw [List.flatMap_cons, List.append_assoc, List.map_cons, List.cons_append, List.cons_append]
    exact .cons (Mark.derives_step (h m List.mem_cons_self).rank.1) others

/-! ## 4. Locations -/

/-- The steps that lead from the document node to an item. -/
def Item.steps (doc : Document) : Item → List Step
  | .node id => (doc.marks id).map Mark.step
  | .attribute owner n => (doc.marks owner).map Mark.step ++ [⟨.attribute, .name n, []⟩]

namespace Document

variable {doc : Document} {id p : NodeId} {i : Item}

/-- Every name of the document is read as one token. -/
def NamesReadable (doc : Document) : Prop :=
  ∀ id < doc.size, (∀ n ∈ doc.name? id, ReadsAsName n) ∧ ∀ a ∈ doc.attributes id, ReadsAsName a.1

instance : Decidable doc.NamesReadable :=
  inferInstanceAs (Decidable (∀ id < doc.size,
    (∀ n ∈ doc.name? id, ReadsAsName n) ∧ ∀ a ∈ doc.attributes id, ReadsAsName a.1))

theorem slash_intercalate : ∀ {l : List (List Char)}, l ≠ [] →
    '/' :: ['/'].intercalate l = l.flatMap ('/' :: ·)
  | [a], _ => by simp
  | a :: b :: l, _ => by
    have ih := slash_intercalate (List.cons_ne_nil b l)
    rw [List.intercalate_cons_cons, List.flatMap_cons, ← ih]
    simp

/-- **The text of a location** is that of its marks, each behind a slash. -/
theorem toList_location (h : doc.marks id ≠ []) :
    (doc.location id).toList = (doc.marks id).flatMap fun m => '/' :: m.text.toList := by
  have some : (doc.marks id).map Mark.text ≠ [] := fun none => h (List.map_eq_nil_iff.mp none)
  rw [location, locationSteps_eq]
  split
  · rename_i none
    exact absurd none some
  · rw [String.toList_append, String.toList_intercalate]
    show '/' :: ['/'].intercalate _ = _
    rw [slash_intercalate fun none => some (List.map_eq_nil_iff.mp none), List.flatMap_map,
      List.flatMap_map]

theorem location_ne_slash (h : doc.marks id ≠ []) : doc.location id ≠ "/" := by
  intro slash
  have text := toList_location h
  obtain ⟨m, ms, hms⟩ := List.exists_cons_of_ne_nil h
  rw [slash, hms, List.flatMap_cons, Mark.text] at text
  simp at text

theorem location_attribute {n : String} (h : doc.marks id ≠ []) :
    Item.location doc (.attribute id n) = doc.location id ++ "/@" ++ n := by
  have below : ¬ (doc.location id == "/") = true := by
    rw [beq_iff_eq]
    exact location_ne_slash h
  rw [Item.location]
  exact if_neg below

/-- No more siblings stand before a node than there are nodes before it. -/
theorem length_alikeBefore_le (doc : Document) (test : NodeTest) (id : NodeId) :
    (doc.alikeBefore test id).length ≤ id := by
  have shorter : (doc.alikeBefore test id).length ≤ (doc.precedingSiblings id).length :=
    List.length_filter_le ..
  have nodup : (doc.precedingSiblings id).Nodup :=
    precedingSiblings_descending.imp fun lt => Nat.ne_of_gt lt
  have before : doc.precedingSiblings id ⊆ List.range id := by
    intro y hy
    cases above : doc.parent? id with
    | none =>
      rw [precedingSiblings, siblings, above] at hy
      cases hy
    | some p => exact List.mem_range.mpr ((mem_siblings_iff above).1.mp hy).2
  have bound := (List.subperm_of_subset nodup before).length_le
  rw [List.length_range] at bound
  exact shorter.trans bound

theorem readable_of_mem_marks (readable : doc.NamesReadable) (size : doc.size < 2 ^ 63)
    (h : id < doc.size) {m : Mark} (hm : m ∈ doc.marks id) : m.Readable := by
  obtain ⟨x, hx, marked⟩ := List.mem_filterMap.mp (List.mem_reverse.mp hm)
  have within : x < doc.size := by
    rcases List.mem_cons.mp hx with rfl | hx
    · exact h
    · exact lt_size_of_mem_ancestors hx
  have few : ∀ test : NodeTest, (doc.alikeBefore test x).length + 1 < 2 ^ 63 := by
    intro test
    have earlier := Nat.lt_of_le_of_lt (doc.length_alikeBefore_le test x) within
    exact Nat.lt_of_le_of_lt (Nat.succ_le_of_lt earlier) size
  rw [mark?] at marked
  cases hk : doc.kind? x with
  | none =>
    rw [hk] at marked
    cases marked
  | some k =>
    rw [hk] at marked
    cases k with
    | root => cases marked
    | text content =>
      cases marked
      refine ⟨fun n hn => ?_, Nat.le_add_left 1 _, few .text⟩
      cases hn
    | element name attributes =>
      cases marked
      refine ⟨fun n hn => ?_, Nat.le_add_left 1 _, few (.name name)⟩
      cases hn
      exact (readable x within).1 name (by rw [name?, hk]; rfl)

/-- A node with attributes is below another one. -/
theorem exists_parent?_of_mem_attributes {a : String × String} (h : a ∈ doc.attributes id) :
    ∃ p, doc.parent? id = some p := by
  refine exists_parent? (lt_size_of_mem_attributes h) ?_
  rintro rfl
  rw [attributes, kind?_root] at h
  cases h

/-- **The tokens of marks write their steps**, and what stands behind the marks goes on with them. -/
theorem marks_written {ms : List Mark} {tail : List Char} {ts : List Token} {steps : List Step}
    (nonempty : ms ≠ []) (readable : ∀ m ∈ ms, m.Readable) (lexed : Lexes tail ts)
    (written : SlashedSteps ts steps) :
    ∃ ts', Lexes (ms.flatMap (fun m => '/' :: m.text.toList) ++ tail) ts' ∧
      Derives .union ts' [⟨true, ms.map Mark.step ++ steps⟩] [] := by
  refine ⟨_, lexed.marks readable, (written.marks readable).derives_union fun nothing => ?_⟩
  obtain ⟨m, hm⟩ := List.exists_mem_of_ne_nil ms nonempty
  cases List.flatMap_eq_nil_iff.mp (List.append_eq_nil_iff.mp nothing).1 m hm

/-- The text of a last step to an attribute. -/
theorem lexes_attribute {n : String} (name : ReadsAsName n) :
    Lexes ('/' :: '@' :: n.toList) [.slash, .atSign, .name n] := by
  have apart : ('@' :: n.toList).head? ≠ some '/' := by
    rw [List.head?_cons]
    decide
  refine .slash apart (.cons (by decide) rfl ?_)
  rw [← List.append_nil n.toList]
  refine .name name (fun _ none => ?_) .nil
  cases none

/-- **The tokens of a location write the steps to its item.** -/
theorem location_written (size : doc.size < 2 ^ 63) (readable : doc.NamesReadable)
    (h : i.Exists doc) : ∃ ts, Lexes (i.location doc).toList ts ∧
      Derives .union ts [⟨true, i.steps doc⟩] [] := by
  rcases i with id | ⟨owner, n⟩
  · have marks := fun m (hm : m ∈ doc.marks id) => readable_of_mem_marks readable size h hm
    by_cases none : doc.marks id = []
    · have location : doc.location id = "/" := by
        rw [location, locationSteps_eq, none]
        rfl
      rw [Item.location, location, Item.steps, none]
      exact ⟨[.slash], .slash (by decide) .nil, .single (.root rfl)⟩
    · have written := marks_written none marks .nil .nil
      rw [List.append_nil, List.append_nil, ← toList_location none] at written
      exact written
  · obtain ⟨a, ha, rfl⟩ := List.mem_map.mp h
    obtain ⟨p, hp⟩ := exists_parent?_of_mem_attributes ha
    have within := lt_size_of_mem_attributes ha
    have marks := fun m (hm : m ∈ doc.marks owner) =>
      readable_of_mem_marks readable size within hm
    have lexed := lexes_attribute ((readable owner within).2 a ha)
    have location : (Item.location doc (.attribute owner a.1)).toList =
        (doc.marks owner).flatMap (fun m => '/' :: m.text.toList) ++ '/' :: '@' :: a.1.toList := by
      rw [location_attribute (marks_ne_nil hp), String.toList_append, String.toList_append,
        toList_location (marks_ne_nil hp), List.append_assoc]
      rfl
    rw [location]
    exact marks_written (marks_ne_nil hp) marks lexed (.cons (.atSign .name .noFilter) .nil)

theorem walk_steps (h : i.Exists doc) : walk doc (i.steps doc) [.node doc.root] = [i] := by
  rcases i with id | ⟨owner, n⟩
  · exact walk_marks h
  · obtain ⟨a, ha, rfl⟩ := List.mem_map.mp h
    rw [Item.steps, walk_append, walk_marks (lt_size_of_mem_attributes ha)]
    refine eq_singleton_of_ascending (walk_ascending (List.pairwise_singleton _ _)) fun k => ?_
    simp only [mem_walk_cons, mem_select_attribute, walk_nil, List.mem_singleton]
    constructor
    · intro hk
      obtain ⟨_, ⟨_, rfl⟩, rfl⟩ := hk
      rfl
    · intro hk
      exact ⟨_, ⟨List.mem_map_of_mem ha, rfl⟩, hk⟩

/-- **A location is resolved to its item.** In a document whose names are read as one token each,
    the location of an item is an expression that selects this item from the document node and
    nothing else; so no other item has the same location. -/
theorem location_resolves (doc : Document) (size : doc.size < 2 ^ 63)
    (readable : doc.NamesReadable) (i : Item) (h : i.Exists doc) :
    ∃ x, Expr.compile (i.location doc) = .ok x ∧ x.selectFromRoot doc = [i] ∧
      ∀ j : Item, j.Exists doc → j.location doc = i.location doc → j = i := by
  have compiled : ∀ j : Item, j.Exists doc →
      Expr.compile (j.location doc) = .ok ⟨j.location doc, [⟨true, j.steps doc⟩]⟩ := by
    intro j hj
    obtain ⟨ts, lexed, derived⟩ := location_written size readable hj
    obtain ⟨placed, hplaced, rfl⟩ := lexed (byteLength (j.location doc).toList)
    exact Expr.compile_eq_ok_iff.mpr ⟨rfl, placed, hplaced, readAll_eq_ok_iff.mpr derived⟩
  have selected : ∀ j : Item, j.Exists doc →
      Expr.selectFromRoot ⟨j.location doc, [⟨true, j.steps doc⟩]⟩ doc = [j] := by
    intro j hj
    rw [Expr.selectFromRoot, Expr.select, selectUnion_single, Branch.select, if_pos rfl]
    exact walk_steps hj
  refine ⟨_, compiled i h, selected i h, fun j hj same => ?_⟩
  have again := (compiled j hj).symm.trans ((congrArg Expr.compile same).trans (compiled i h))
  have found := selected j hj
  rw [Except.ok.inj again, selected i h] at found
  exact (List.singleton_inj.mp found).symm

/-- An article in which names, a text and an attribute stand more than once. -/
def repeated : Element :=
  (({ name := "article" } : Element).child (({ name := "text" } : Element).text "a")).child
    (((({ name := "text" } : Element).attr "xml:lang" "en").text "b").child
      { name := "or" } |>.text "c")

theorem location_resolves_repeated :
    (Document.ofElement repeated).size < 2 ^ 63 ∧ (Document.ofElement repeated).NamesReadable ∧
      Item.Exists (.ofElement repeated) (.attribute 4 "xml:lang") ∧
      ∃ x, Expr.compile (Item.location (.ofElement repeated) (.attribute 4 "xml:lang")) = .ok x ∧
        x.selectFromRoot (.ofElement repeated) = [.attribute 4 "xml:lang"] ∧
        ∀ j : Item, j.Exists (.ofElement repeated) →
          j.location (.ofElement repeated) =
            Item.location (.ofElement repeated) (.attribute 4 "xml:lang") →
              j = .attribute 4 "xml:lang" := by
  have size : (Document.ofElement repeated).size < 2 ^ 63 := by decide
  have readable : (Document.ofElement repeated).NamesReadable := by decide +kernel
  have known : Item.Exists (.ofElement repeated) (.attribute 4 "xml:lang") := by
    decide +kernel
  exact ⟨size, readable, known, location_resolves _ size readable _ known⟩

example : Item.location (.ofElement repeated) (.node 7) = "/article[1]/text[2]/text()[2]" := by
  decide +kernel

end Document

end MarkupRules
