import Mathlib
import MarkupRules.Proofs.Library.Demand
import MarkupRules.Proofs.Path.Descent
import MarkupRules.Proofs.Path.Evaluation
import MarkupRules.Proofs.Rule.Spans

/-!
# What the packaged phase `counts` demands

The seven rules of the phase, compiled from their texts, against what they are about: the numbers
that an article declares and the things that are counted.

* `Document.ArticleMeta`, `Document.inBody`, `Document.references` -- where numbers are declared,
  and the things that they count;
* `Document.CountsKept` -- the demand, told on the nodes of the document;
* `Document.LeastSpan` -- the span of pages that no check finds kept;
* `Document.pagesFound_iff` -- what a check finds of the pages is the demand, this span left out;
* `Packaged.demands_counts` -- what the drafts of the phase compile to;
* `Packaged.met_countsDemands_iff` -- what the compiled rules ask for is the demand, the least span
  left out;
* `check_counts` -- **a check of the counts is valid if and only if the demand is met**, the least
  span left out;
* `leastPages_not_valid` -- a document that meets the demand and is not valid.
-/

namespace MarkupRules

open MarkupRules.Path

/-! ## 1. The demand -/

namespace Document

/-- An `article-meta` in a `front` in an `article`, wherever in the document the article stands. -/
def ArticleMeta (doc : Document) (m : NodeId) : Prop :=
  ∃ article front, doc.name? article = some "article" ∧ doc.HasChild article "front" front ∧
    doc.HasChild front "article-meta" m

/-- The document element is an article, and `x` is one of its children named `n`. -/
def ArticlePart (doc : Document) (n : String) (x : NodeId) : Prop :=
  ∃ article, doc.documentElement? = some article ∧ doc.name? article = some "article" ∧
    doc.HasChild article n x

/-- The elements named `n` below a body of the article that is the document element. -/
def inBody (doc : Document) (n : String) : Set NodeId :=
  {x | doc.name? x = some n ∧ ∃ body, doc.ArticlePart "body" body ∧ x ∈ doc.descendants body}

/-- The references in the lists in a back of the article that is the document element. -/
def references (doc : Document) : Set NodeId :=
  {x | ∃ back list, doc.ArticlePart "back" back ∧ doc.HasChild back "ref-list" list ∧
    doc.HasChild list "ref" x}

/-- The attribute `count` of the node is the integer `n`, blanks at the ends aside. -/
def DeclaresCount (doc : Document) (x : NodeId) (n : Int) : Prop :=
  ∃ value, doc.attribute? x "count" = some value ∧ Text.parseInteger value = some n

/-- The children of `p` of the name are integers all of them, and the first of them is `n`. -/
structure FirstNumber (doc : Document) (p : NodeId) (name : String) (n : Int) : Prop where
  integers : ∀ c, doc.HasChild p name c → ∃ k, Text.parseInteger (doc.stringValue c) = some k
  first : ∃ c, doc.HasChild p name c ∧ (∀ c', doc.HasChild p name c' → c ≤ c') ∧
    Text.parseInteger (doc.stringValue c) = some n

/-- The numbers that `counts` has to declare. -/
def countNames : List String :=
  ["table-count", "ref-count", "fig-count", "equation-count", "page-count"]

/-- What an `article-meta` declares is what there is. -/
structure CountsKept (doc : Document) (m : NodeId) : Prop where
  present : ∃ c, doc.HasChild m "counts" c
  complete : ∀ c, doc.HasChild m "counts" c → ∀ n ∈ countNames, ∃ x, doc.HasChild c n x
  tables : ∀ c, doc.HasChild m "counts" c → ∀ x, doc.HasChild c "table-count" x →
    doc.DeclaresCount x (doc.inBody "table").ncard
  references : ∀ c, doc.HasChild m "counts" c → ∀ x, doc.HasChild c "ref-count" x →
    doc.DeclaresCount x doc.references.ncard
  figures : ∀ c, doc.HasChild m "counts" c → ∀ x, doc.HasChild c "fig-count" x →
    doc.DeclaresCount x (doc.inBody "fig").ncard
  equations : ∀ c, doc.HasChild m "counts" c → ∀ x, doc.HasChild c "equation-count" x →
    doc.DeclaresCount x (doc.inBody "disp-formula").ncard
  /-- Where there are first and last pages, their number is the length of the span from the first
      of the first ones to the first of the last ones, among all integers. -/
  pages : ∀ c, doc.HasChild m "counts" c → ∀ x, doc.HasChild c "page-count" x →
    (∃ f, doc.HasChild m "fpage" f) → (∃ l, doc.HasChild m "lpage" l) →
      ∃ a b, doc.FirstNumber m "fpage" a ∧ doc.FirstNumber m "lpage" b ∧
        doc.DeclaresCount x (spanBetween a b)

/-- The length of the span of the pages is the least integer in range. It is in range itself, but
    it comes of a difference that is not. -/
def LeastSpan (doc : Document) (m : NodeId) : Prop :=
  ∃ a b, doc.FirstNumber m "fpage" a ∧ doc.FirstNumber m "lpage" b ∧
    spanBetween a b = Text.minInteger

/-- What a check finds of the pages: each count of them is the length of their span, and this is not
    the least integer in range. -/
def PagesFound (doc : Document) (m : NodeId) : Prop :=
  ∀ c, doc.HasChild m "counts" c → ∀ x, doc.HasChild c "page-count" x →
    (∃ f, doc.HasChild m "fpage" f) → (∃ l, doc.HasChild m "lpage" l) →
      ∃ a b, doc.FirstNumber m "fpage" a ∧ doc.FirstNumber m "lpage" b ∧
        doc.DeclaresCount x (spanBetween a b) ∧ spanBetween a b ≠ Text.minInteger

end Document

/-! ## 2. Ways down the document -/

variable {doc : Document} {m x y : NodeId} {n : String} {names : List String} {context i j : Item}

namespace Document

theorem articlePart_iff : doc.ArticlePart n x ↔
    ∃ article, doc.HasChild doc.root "article" article ∧ doc.HasChild article n x := by
  simp only [ArticlePart, documentElement?_eq_some_iff, HasChild, and_assoc]

/-- The names of an `article-meta` lead to it from some node. -/
theorem articleMeta_iff : doc.ArticleMeta m ↔
    ∃ y, doc.Leads y ["article", "front", "article-meta"] m := by
  constructor
  · intro h
    obtain ⟨article, front, named, hfront, hm⟩ := h
    have inside := Nat.lt_trans (doc.lt_of_parent? hfront.1) (lt_size_of_parent? hfront.1)
    have below : article ≠ doc.root := by
      rintro rfl
      rw [name?_root] at named
      cases named
    obtain ⟨y, hy⟩ := exists_parent? inside below
    exact ⟨y, article, ⟨hy, named⟩, front, hfront, m, hm, rfl⟩
  · intro h
    obtain ⟨y, article, ⟨_, named⟩, front, hfront, _, hm, rfl⟩ := h
    exact ⟨article, front, named, hfront, hm⟩

end Document

/-! ## 3. Integers at a path -/

/-- What no other member is before is the head of a list in document order. -/
theorem exists_eq_cons {is : List Item} (ascending : is.Pairwise Item.Before) (hi : i ∈ is)
    (least : ∀ j ∈ is, ¬ j.Before i) : ∃ rest, is = i :: rest := by
  match is with
  | [] => cases hi
  | j :: rest =>
    rcases List.mem_cons.mp hi with rfl | later
    · exact ⟨rest, rfl⟩
    · exact absurd (List.rel_of_pairwise_cons ascending later) (least j List.mem_cons_self)

/-- Values are declared if each item has one. -/
theorem exists_map_eq_map_some_iff {α β : Type} {f : α → Option β} {l : List α} :
    (∃ bs : List β, l.map f = bs.map some) ↔ ∀ a ∈ l, ∃ b, f a = some b := by
  have range : (∃ bs : List β, l.map f = bs.map some) ↔ l.map f ∈ Set.range (List.map some) :=
    exists_congr fun bs => eq_comm
  rw [range, Set.range_list_map, Set.mem_ofPred_eq, List.forall_mem_map]
  exact forall₂_congr fun a _ => exists_congr fun b => eq_comm

namespace Scope

variable {s : Scope} {path : Expr} {a : Int}

/-- Some integers are declared and `a` comes first: every value is an integer, and `a` is that of
    the item that no other one is before. -/
theorem exists_declares_cons_iff : (∃ more, s.Declares context path (a :: more)) ↔
    (∀ i, s.Present context path i → ∃ k, Text.parseInteger (i.stringValue s.doc) = some k) ∧
      ∃ i, s.Present context path i ∧ (∀ j, s.Present context path j → ¬ j.Before i) ∧
        Text.parseInteger (i.stringValue s.doc) = some a := by
  have ascending : (s.presentItems context path).Pairwise Item.Before := presentItems_ascending
  simp only [← mem_presentItems, Declares]
  rw [← exists_map_eq_map_some_iff]
  generalize s.presentItems context path = is at ascending ⊢
  constructor
  · intro h
    obtain ⟨more, _, read⟩ := h
    refine ⟨⟨a :: more, read⟩, ?_⟩
    match is with
    | [] => cases read
    | i :: rest =>
      refine ⟨i, List.mem_cons_self, fun j hj before => ?_, (List.cons.inj read).1⟩
      rcases List.mem_cons.mp hj with rfl | hj
      · exact Item.Before.irrefl j before
      · exact Item.Before.asymm before (List.rel_of_pairwise_cons ascending hj)
  · intro h
    obtain ⟨⟨ns, read⟩, i, hi, least, first⟩ := h
    obtain ⟨rest, rfl⟩ := exists_eq_cons ascending hi least
    match ns with
    | [] => cases read
    | n :: more =>
      rw [List.map_cons, List.map_cons, first] at read
      obtain ⟨same, others⟩ := List.cons.inj read
      cases same
      refine ⟨more, List.cons_ne_nil a more, ?_⟩
      rw [List.map_cons, List.map_cons, first, others]

end Scope

namespace Document

variable {a b : Int}

/-- There is only one first number. -/
theorem FirstNumber.unique (h : doc.FirstNumber m n a) (h' : doc.FirstNumber m n b) : a = b := by
  obtain ⟨c, hc, least, read⟩ := h.first
  obtain ⟨c', hc', least', read'⟩ := h'.first
  cases Nat.le_antisymm (least c' hc') (least' c hc)
  exact Option.some.inj (read.symm.trans read')

theorem FirstNumber.exists_hasChild (h : doc.FirstNumber m n a) : ∃ c, doc.HasChild m n c := by
  obtain ⟨c, hc, _⟩ := h.first
  exact ⟨c, hc⟩

/-- A count is the length of a span if it is so among all integers, and not the least one. -/
theorem exists_spanIs_iff : (∃ k, doc.DeclaresCount x k ∧ SpanIs a b k) ↔
    doc.DeclaresCount x (spanBetween a b) ∧ spanBetween a b ≠ Text.minInteger := by
  have inRange : ∀ {k}, doc.DeclaresCount x k → Text.InRange k := by
    intro k declared
    obtain ⟨_, _, read⟩ := declared
    exact Text.inRange_of_readInteger? read
  constructor
  · intro h
    obtain ⟨k, declared, span⟩ := h
    obtain ⟨rfl, notLeast⟩ := (spanIs_iff (inRange declared)).mp span
    exact ⟨declared, notLeast⟩
  · intro h
    obtain ⟨declared, notLeast⟩ := h
    exact ⟨_, declared, (spanIs_iff (inRange declared)).mpr ⟨rfl, notLeast⟩⟩

/-- **Leaving the least span out**, where there is a count of pages: each count leaves it out if and
    only if it is not the span of the pages. -/
theorem pagesFound_iff
    (counted : ∃ c, doc.HasChild m "counts" c ∧ ∃ x, doc.HasChild c "page-count" x) :
    doc.PagesFound m ↔
      (∀ c, doc.HasChild m "counts" c → ∀ x, doc.HasChild c "page-count" x →
        (∃ f, doc.HasChild m "fpage" f) → (∃ l, doc.HasChild m "lpage" l) →
          ∃ a b, doc.FirstNumber m "fpage" a ∧ doc.FirstNumber m "lpage" b ∧
            doc.DeclaresCount x (spanBetween a b)) ∧ ¬ doc.LeastSpan m := by
  constructor
  · intro found
    refine ⟨fun c hc x hx hfirst hlast => ?_, fun least => ?_⟩
    · obtain ⟨a, b, first, last, declared, _⟩ := found c hc x hx hfirst hlast
      exact ⟨a, b, first, last, declared⟩
    · obtain ⟨a, b, first, last, least⟩ := least
      obtain ⟨c, hc, x, hx⟩ := counted
      obtain ⟨a', b', first', last', _, notLeast⟩ :=
        found c hc x hx first.exists_hasChild last.exists_hasChild
      rw [first.unique first', last.unique last'] at least
      exact notLeast least
  · intro kept c hc x hx hfirst hlast
    obtain ⟨a, b, first, last, declared⟩ := kept.1 c hc x hx hfirst hlast
    exact ⟨a, b, first, last, declared, fun least => kept.2 ⟨a, b, first, last, least⟩⟩

end Document

/-! ## 4. What the paths of the phase select -/

/-- A list of nodes in document order is as long as the set of its nodes is large. -/
theorem length_eq_ncard_nodes {is : List Item} {nodes : Set NodeId}
    (ascending : is.Pairwise Item.Before) (members : ∀ j, j ∈ is ↔ ∃ x ∈ nodes, j = .node x) :
    is.length = nodes.ncard := by
  have image : {j | j ∈ is} = Item.node '' nodes := by
    ext j
    rw [Set.mem_ofPred_eq, members, Set.mem_image]
    exact exists_congr fun x => and_congr_right fun _ => eq_comm
  have injective : Function.Injective Item.node := fun x y same => Item.node.inj same
  rw [← ncard_mem (nodup_of_ascending ascending), image,
    Set.ncard_image_of_injective nodes injective]

namespace Packaged

/-- The path `n`. -/
def childPath (n : String) : Expr :=
  ⟨n, [⟨false, [.child n]⟩]⟩

/-- The path `@count`. -/
def countPath : Expr :=
  ⟨"@count", [⟨false, [⟨.attribute, .name "count", []⟩]⟩]⟩

/-- The path to the children of the grandparent that are named `n`. -/
def besides (n : String) : Expr :=
  ⟨"../../" ++ n, [⟨false, [.up, .up, .child n]⟩]⟩

/-- The path to what is named `n` below a body of the article. -/
def inBodyPath (n : String) : Expr :=
  ⟨"/article/body//" ++ n, [⟨true, ["article", "body"].map .child ++ [.anywhere, .child n]⟩]⟩

/-- The path to the references of the article. -/
def referencesPath : Expr :=
  ⟨"/article/back/ref-list/ref", [⟨true, ["article", "back", "ref-list", "ref"].map .child⟩]⟩

/-- The names, an `article-meta` before them, anywhere in the document. -/
def pattern (names : List String) : List Branch :=
  [⟨true, .anywhere :: (["article", "front", "article-meta"] ++ names).map .child⟩]

open Document

theorem mem_select_childPath : j ∈ (childPath n).select doc (.node x) ↔
    ∃ c, doc.HasChild x n c ∧ j = .node c := by
  rw [Expr.select, childPath, selectUnion_single, Branch.select]
  exact mem_walk_child

theorem mem_select_besides (hx : doc.parent? x = some y) (hy : doc.parent? y = some m) :
    j ∈ (besides n).select doc (.node x) ↔ ∃ c, doc.HasChild m n c ∧ j = .node c := by
  have up : ∀ {rest : List Step} {x y : NodeId}, doc.parent? x = some y →
      (j ∈ walk doc (.up :: rest) [.node x] ↔ j ∈ walk doc rest [.node y]) := by
    intro rest x y h
    rw [mem_walk_cons]
    simp [mem_select_up, h]
  rw [Expr.select, besides, selectUnion_single, Branch.select]
  exact (up hx).trans ((up hy).trans mem_walk_child)

theorem mem_select_inBodyPath : j ∈ (inBodyPath n).select doc i ↔
    ∃ x ∈ doc.inBody n, j = .node x := by
  rw [Expr.select, inBodyPath, selectUnion_single, Branch.select, if_pos rfl, walk_append,
    mem_walk_iff]
  simp only [mem_walk_children, inBody, articlePart_iff, Set.mem_ofPred_eq]
  constructor
  · intro h
    obtain ⟨_, ⟨body, ⟨article, harticle, hbody⟩, rfl⟩, hj⟩ := h
    rw [leads_single] at hbody
    obtain ⟨x, hx, named, rfl⟩ := (mem_walk_below (lt_size_of_parent? hbody.1)).mp hj
    exact ⟨x, ⟨named, body, ⟨article, harticle, hbody⟩, hx⟩, rfl⟩
  · intro h
    obtain ⟨x, ⟨named, body, ⟨article, harticle, hbody⟩, hx⟩, rfl⟩ := h
    have below := (mem_walk_below (lt_size_of_parent? hbody.1)).mpr ⟨x, hx, named, rfl⟩
    exact ⟨_, ⟨body, ⟨article, harticle, leads_single.mpr hbody⟩, rfl⟩, below⟩

theorem mem_select_referencesPath : j ∈ referencesPath.select doc i ↔
    ∃ x ∈ doc.references, j = .node x := by
  rw [Expr.select, referencesPath, selectUnion_single, Branch.select, if_pos rfl,
    mem_walk_children]
  simp only [references, articlePart_iff, Set.mem_ofPred_eq]
  refine exists_congr fun x => and_congr_left fun _ => ?_
  constructor
  · intro h
    obtain ⟨article, harticle, back, hback, list, hlist, hx⟩ := h
    exact ⟨back, list, ⟨article, harticle, hback⟩, hlist, leads_single.mp hx⟩
  · intro h
    obtain ⟨back, list, ⟨article, harticle, hback⟩, hlist, hx⟩ := h
    exact ⟨article, harticle, back, hback, list, hlist, leads_single.mpr hx⟩

theorem length_inBodyPath : ((inBodyPath n).select doc i).length = (doc.inBody n).ncard :=
  length_eq_ncard_nodes selectUnion_ascending fun _ => mem_select_inBodyPath

theorem length_referencesPath : (referencesPath.select doc i).length = doc.references.ncard :=
  length_eq_ncard_nodes selectUnion_ascending fun _ => mem_select_referencesPath

/-- A pattern stands for what its names lead to from an `article-meta`. -/
theorem mem_select_pattern : i ∈ selectUnion doc (pattern names) (.node doc.root) ↔
    ∃ m, doc.ArticleMeta m ∧ ∃ x, doc.Leads m names x ∧ i = .node x := by
  rw [pattern, selectUnion_single, Branch.select, if_pos rfl, mem_walk_cons]
  simp only [mem_select_anywhere, articleMeta_iff]
  constructor
  · intro h
    obtain ⟨_, ⟨y, _, rfl⟩, hi⟩ := h
    obtain ⟨x, hx, rfl⟩ := mem_walk_children.mp hi
    obtain ⟨m, hm, hx⟩ := leads_append.mp hx
    exact ⟨m, ⟨y, hm⟩, x, hx, rfl⟩
  · intro h
    obtain ⟨m, ⟨y, hm⟩, x, hx, rfl⟩ := h
    have inside : y < doc.size := by
      obtain ⟨article, harticle, _⟩ := hm
      exact Nat.lt_trans (doc.lt_of_parent? harticle.1) (lt_size_of_parent? harticle.1)
    exact ⟨_, ⟨y, mem_root_cons_descendants inside, rfl⟩,
      mem_walk_children.mpr ⟨x, leads_append.mpr ⟨m, hm, hx⟩, rfl⟩⟩

/-! ## 5. What the tests of the phase say -/

theorem isTrue_childPath :
    (Predicate.present (childPath n)).IsTrue ⟨doc, false⟩ (.node x) ↔
      ∃ c, doc.HasChild x n c := by
  simp [Predicate.IsTrue, present_iff, mem_select_childPath]

theorem isTrue_besides (hx : doc.parent? x = some y) (hy : doc.parent? y = some m) :
    (Predicate.present (besides n)).IsTrue ⟨doc, false⟩ (.node x) ↔
      ∃ c, doc.HasChild m n c := by
  simp [Predicate.IsTrue, present_iff, mem_select_besides hx hy]

theorem mem_select_countPath : j ∈ countPath.select doc (.node x) ↔
    (∃ value, doc.attribute? x "count" = some value) ∧ j = .attribute x "count" := by
  rw [Expr.select, countPath, selectUnion_single, Branch.select]
  exact mem_walk_attribute

/-- The attribute is the only item that declares a count. -/
theorem declares_countPath {ns : List Int} : Scope.Declares ⟨doc, false⟩ (.node x) countPath ns ↔
    ∃ n, doc.DeclaresCount x n ∧ ns = [n] := by
  have members : ∀ j, j ∈ Scope.presentItems ⟨doc, false⟩ (.node x) countPath ↔
      (∃ value, doc.attribute? x "count" = some value) ∧ j = .attribute x "count" :=
    fun j => Scope.mem_presentItems.trans (present_iff.trans mem_select_countPath)
  cases value : doc.attribute? x "count" with
  | none =>
    have empty : Scope.presentItems ⟨doc, false⟩ (.node x) countPath = [] := by
      simp [List.eq_nil_iff_forall_not_mem, members, value]
    rw [Scope.Declares, empty]
    constructor
    · intro h
      exact absurd (List.map_eq_nil_iff.mp h.2.symm) h.1
    · intro h
      obtain ⟨n, ⟨v, standing, _⟩, _⟩ := h
      rw [value] at standing
      cases standing
  | some v =>
    have single : Scope.presentItems ⟨doc, false⟩ (.node x) countPath = [.attribute x "count"] := by
      refine eq_singleton_of_ascending Scope.presentItems_ascending fun j => ?_
      simp [members, value]
    have read : (Item.attribute x "count").stringValue doc = v := by
      rw [Item.stringValue, value, Option.getD_some]
    rw [Scope.Declares, single, List.map_singleton, read]
    cases ns with
    | nil => simp
    | cons n more => cases more <;> simp [DeclaresCount, value]

/-- The values beside are a number, the first one of them, if they are the children's. -/
theorem exists_declares_besides (hx : doc.parent? x = some y) (hy : doc.parent? y = some m)
    {a : Int} : (∃ more, Scope.Declares ⟨doc, false⟩ (.node x) (besides n) (a :: more)) ↔
      doc.FirstNumber m n a := by
  rw [Scope.exists_declares_cons_iff]
  simp only [present_iff, mem_select_besides hx hy]
  constructor
  · intro h
    obtain ⟨integers, _, ⟨c, hc, rfl⟩, least, read⟩ := h
    refine ⟨fun c hc => integers (.node c) ⟨c, hc, rfl⟩, c, hc, fun c' hc' => ?_, read⟩
    exact Nat.le_of_not_lt (least (.node c') ⟨c', hc', rfl⟩)
  · intro h
    obtain ⟨integers, c, hc, least, read⟩ := h
    refine ⟨?_, .node c, ⟨c, hc, rfl⟩, ?_, read⟩
    · rintro _ ⟨c', hc', rfl⟩
      exact integers c' hc'
    · rintro _ ⟨c', hc', rfl⟩
      exact Nat.not_lt_of_le (least c' hc')

/-- Counts are declared by a single attribute, so the count declared is the number. -/
theorem isTrue_countEquals {counted : Expr} {number : Nat}
    (length : (counted.select doc (.node x)).length = number) :
    (Predicate.countEquals countPath counted).IsTrue ⟨doc, false⟩ (.node x) ↔
      doc.DeclaresCount x number := by
  rw [Predicate.IsTrue]
  simp only [declares_countPath, length]
  constructor
  · intro h
    obtain ⟨_, ⟨n, declared, rfl⟩, same⟩ := h
    rw [← same n List.mem_cons_self]
    exact declared
  · intro h
    exact ⟨[(number : Int)], ⟨number, h, rfl⟩, fun n hn => List.mem_singleton.mp hn⟩

theorem isTrue_spanEquals (hx : doc.parent? x = some y) (hy : doc.parent? y = some m) :
    (Predicate.spanEquals countPath (besides "fpage") (besides "lpage")).IsTrue ⟨doc, false⟩
      (.node x) ↔ ∃ a b, doc.FirstNumber m "fpage" a ∧ doc.FirstNumber m "lpage" b ∧
        doc.DeclaresCount x (spanBetween a b) ∧ spanBetween a b ≠ Text.minInteger := by
  rw [Predicate.IsTrue]
  simp only [declares_countPath, ← exists_declares_besides hx hy, ← exists_spanIs_iff]
  constructor
  · intro h
    obtain ⟨_, a, as, b, bs, ⟨n, declared, rfl⟩, first, last, spans⟩ := h
    exact ⟨a, b, ⟨as, first⟩, ⟨bs, last⟩, n, declared, spans n List.mem_cons_self⟩
  · intro h
    obtain ⟨a, b, ⟨as, first⟩, ⟨bs, last⟩, n, declared, span⟩ := h
    refine ⟨[n], a, as, b, bs, ⟨n, declared, rfl⟩, first, last, fun k hk => ?_⟩
    rw [List.mem_singleton.mp hk]
    exact span

end Packaged

/-! ## 6. The phase -/

namespace Packaged

open Document

/-- What the rules of the phase ask for, in their order. -/
def countsDemands : List Demand := [
  ⟨pattern [], .present (childPath "counts"), false⟩,
  ⟨pattern ["counts"], .all (countNames.map fun n => .present (childPath n)), false⟩,
  ⟨pattern ["counts", "table-count"], .countEquals countPath (inBodyPath "table"), false⟩,
  ⟨pattern ["counts", "ref-count"], .countEquals countPath referencesPath, false⟩,
  ⟨pattern ["counts", "fig-count"], .countEquals countPath (inBodyPath "fig"), false⟩,
  ⟨pattern ["counts", "equation-count"], .countEquals countPath (inBodyPath "disp-formula"), false⟩,
  ⟨pattern ["counts", "page-count"],
    .when (.all [.present (besides "fpage"), .present (besides "lpage")])
      (.spanEquals countPath (besides "fpage") (besides "lpage")), false⟩]

/-- **The texts of the phase compile to these demands.** -/
theorem demands_counts :
    (counts.compile draft.defaults).map (·.map Rule.demand) = .ok countsDemands := by
  cbv

/-- A pattern with a test speaks of each `article-meta` on its own. -/
theorem met_pattern_iff {test : Predicate} : Demand.Met doc ⟨pattern names, test, false⟩ ↔
    ∀ m, doc.ArticleMeta m → ∀ x, doc.Leads m names x → test.IsTrue ⟨doc, false⟩ (.node x) := by
  simp only [Demand.Met, mem_select_pattern]
  constructor
  · intro h m hm x hx
    exact h _ ⟨m, hm, x, hx, rfl⟩
  · rintro h _ ⟨m, hm, x, hx, rfl⟩
    exact h m hm x hx

/-- Two names lead to the children of children. -/
theorem forall_leads_pair {p : NodeId → Prop} {first second : String} :
    (∀ x, doc.Leads m [first, second] x → p x) ↔
      ∀ c, doc.HasChild m first c → ∀ x, doc.HasChild c second x → p x := by
  constructor
  · intro h c hc x hx
    exact h x ⟨c, hc, leads_single.mpr hx⟩
  · intro h x hx
    obtain ⟨c, hc, hx⟩ := hx
    exact h c hc x (leads_single.mp hx)

theorem complete_iff : (∀ c, doc.Leads m ["counts"] c →
      (Predicate.all (countNames.map fun n => .present (childPath n))).IsTrue ⟨doc, false⟩
        (.node c)) ↔
    ∀ c, doc.HasChild m "counts" c → ∀ n ∈ countNames, ∃ x, doc.HasChild c n x := by
  simp only [leads_single]
  refine forall₂_congr fun c _ => ?_
  rw [Predicate.IsTrue, allTrue_iff, List.forall_mem_map]
  exact forall₂_congr fun n _ => isTrue_childPath

theorem declared_iff {counted : Expr} {number : Nat}
    (length : ∀ i, (counted.select doc i).length = number) :
    (∀ x, doc.Leads m ["counts", n] x →
      (Predicate.countEquals countPath counted).IsTrue ⟨doc, false⟩ (.node x)) ↔
    ∀ c, doc.HasChild m "counts" c → ∀ x, doc.HasChild c n x → doc.DeclaresCount x number := by
  rw [forall_leads_pair]
  exact forall₄_congr fun c hc x hx => isTrue_countEquals (length (.node x))

theorem pages_iff : (∀ x, doc.Leads m ["counts", "page-count"] x →
      (Predicate.when (.all [.present (besides "fpage"), .present (besides "lpage")])
        (.spanEquals countPath (besides "fpage") (besides "lpage"))).IsTrue ⟨doc, false⟩
          (.node x)) ↔ doc.PagesFound m := by
  rw [forall_leads_pair]
  refine forall₄_congr fun c hc x hx => ?_
  rw [Predicate.IsTrue, Predicate.IsTrue, allTrue_iff, List.forall_mem_cons,
    List.forall_mem_singleton, isTrue_besides hx.1 hc.1, isTrue_besides hx.1 hc.1,
    isTrue_spanEquals hx.1 hc.1, and_imp]

/-- **What the compiled rules ask for is the demand**, the least span left out. -/
theorem met_countsDemands_iff : (∀ d ∈ countsDemands, d.Met doc) ↔
    ∀ m, doc.ArticleMeta m → doc.CountsKept m ∧ ¬ doc.LeastSpan m := by
  have tables : ∀ i, ((inBodyPath "table").select doc i).length = _ := fun _ => length_inBodyPath
  have figures : ∀ i, ((inBodyPath "fig").select doc i).length = _ := fun _ => length_inBodyPath
  have equations : ∀ i, ((inBodyPath "disp-formula").select doc i).length = _ :=
    fun _ => length_inBodyPath
  have refs : ∀ i, (referencesPath.select doc i).length = _ := fun _ => length_referencesPath
  have counted : ∀ {m}, (∃ c, doc.HasChild m "counts" c) →
      (∀ c, doc.HasChild m "counts" c → ∀ n ∈ countNames, ∃ x, doc.HasChild c n x) →
        ∃ c, doc.HasChild m "counts" c ∧ ∃ x, doc.HasChild c "page-count" x := by
    intro m present complete
    obtain ⟨c, hc⟩ := present
    exact ⟨c, hc, complete c hc "page-count" (by decide)⟩
  simp only [countsDemands, List.forall_mem_cons, met_pattern_iff, complete_iff, pages_iff,
    declared_iff tables, declared_iff figures, declared_iff equations, declared_iff refs]
  constructor
  · intro h m hm
    obtain ⟨present, complete, tables, refs, figures, equations, pages, _⟩ := h
    have present := isTrue_childPath.mp (present m hm m rfl)
    have complete := complete m hm
    obtain ⟨pages, notLeast⟩ := (pagesFound_iff (counted present complete)).mp (pages m hm)
    exact ⟨⟨present, complete, tables m hm, refs m hm, figures m hm, equations m hm, pages⟩,
      notLeast⟩
  · intro h
    have kept : ∀ m, doc.ArticleMeta m → doc.CountsKept m := fun m hm => (h m hm).1
    refine ⟨?_, fun m hm => (kept m hm).complete, fun m hm => (kept m hm).tables,
      fun m hm => (kept m hm).references, fun m hm => (kept m hm).figures,
      fun m hm => (kept m hm).equations, fun m hm => ?_, nofun⟩
    · rintro m hm x rfl
      exact isTrue_childPath.mpr (kept x hm).present
    · have counts := counted (kept m hm).present (kept m hm).complete
      exact (pagesFound_iff counts).mpr ⟨(kept m hm).pages, (h m hm).2⟩

end Packaged

theorem exists_check_counts (doc : Document) : ∃ report, check doc "counts" = .ok report ∧
    (report.valid = true ↔ ∀ d ∈ Packaged.countsDemands, d.Met doc) := by
  have listed : Packaged.counts ∈ Packaged.draft.phases := by simp [Packaged.draft]
  exact Packaged.exists_check_of_demands listed Packaged.demands_counts doc

/-- **A check of the counts is valid if and only if the demand is met** by every `article-meta`, and
    the least integer in range is the length of no span of pages. Where it is one, the demand may be
    met as well, and the check does not find it so. -/
theorem check_counts (doc : Document) : ∃ report, check doc "counts" = .ok report ∧
    (report.valid = true ↔
      ∀ m, doc.ArticleMeta m → doc.CountsKept m ∧ ¬ doc.LeastSpan m) := by
  obtain ⟨report, checked, valid⟩ := exists_check_counts doc
  exact ⟨report, checked, valid.trans Packaged.met_countsDemands_iff⟩

/-! ## 7. The least span -/

namespace Document

/-- What is declared about an article without anything to count, but with pages. -/
def leastCounts : List (String × String) := [
  ("table-count", "0"), ("ref-count", "0"), ("fig-count", "0"), ("equation-count", "0"),
  ("page-count", "-9223372036854775808")]

/-- An article whose pages run from 1 to the least integer in range, as many as are declared. -/
def leastPages : Document :=
  .ofElement { name := "article", children := [.element "front" .none [
    .element "article-meta" .none [
      .element "fpage" .none [.text "1"],
      .element "lpage" .none [.text "-9223372036854775808"],
      .element "counts" .none (leastCounts.map fun (name, count) =>
        .element name (Attributes.none.insert "count" count) [])]]] }

theorem leastPages_named : ∀ w ∈ [("article-meta", 3), ("fpage", 4), ("lpage", 6), ("counts", 8)],
    ∀ x, leastPages.name? x = some w.1 → x = w.2 := by
  simp only [forall_named_iff]
  decide +kernel

theorem leastPages_counts : ∀ w ∈ leastCounts,
    ∀ x, leastPages.name? x = some w.1 → leastPages.attribute? x "count" = some w.2 := by
  simp only [forall_named_iff]
  decide +kernel

/-- There is nothing to count in it. -/
theorem ncard_leastPages : (∀ n, (leastPages.inBody n).ncard = 0) ∧
    leastPages.references.ncard = 0 := by
  have noPart : ∀ n ∈ ["body", "back"], ∀ x, leastPages.name? x = some n → False := by
    simp only [forall_named_iff]
    decide +kernel
  have noBody : ∀ n, leastPages.inBody n = ∅ := by
    intro n
    refine Set.eq_empty_iff_forall_notMem.mpr fun x hx => ?_
    obtain ⟨_, body, ⟨_, _, _, hbody⟩, _⟩ := hx
    exact noPart "body" (by decide) body hbody.2
  have noBack : leastPages.references = ∅ := by
    refine Set.eq_empty_iff_forall_notMem.mpr fun x hx => ?_
    obtain ⟨back, _, ⟨_, _, _, hback⟩, _⟩ := hx
    exact noPart "back" (by decide) back hback.2
  exact ⟨fun n => by rw [noBody, Set.ncard_empty], by rw [noBack, Set.ncard_empty]⟩

/-- A child that is the only one of its name is the first number, if it is a number. -/
theorem FirstNumber.of_only {c : NodeId} {a : Int} (hc : doc.HasChild m n c)
    (only : ∀ c', doc.name? c' = some n → c' = c)
    (read : Text.parseInteger (doc.stringValue c) = some a) : doc.FirstNumber m n a where
  integers c' hc' := ⟨a, only c' hc'.2 ▸ read⟩
  first := ⟨c, hc, fun c' hc' => (only c' hc'.2).ge, read⟩

theorem firstNumber_leastPages : leastPages.FirstNumber 3 "fpage" 1 ∧
    leastPages.FirstNumber 3 "lpage" Text.minInteger :=
  ⟨.of_only (by decide +kernel) (leastPages_named ("fpage", 4) (by decide)) (by decide +kernel),
    .of_only (by decide +kernel) (leastPages_named ("lpage", 6) (by decide)) (by decide +kernel)⟩

/-- It meets the demand. -/
theorem countsKept_leastPages (hm : leastPages.ArticleMeta m) : leastPages.CountsKept m := by
  obtain ⟨_, _, _, _, metaNamed⟩ := hm
  cases leastPages_named ("article-meta", 3) (by decide) m metaNamed.2
  have counts : ∀ c, leastPages.HasChild 3 "counts" c → c = 8 :=
    fun c hc => leastPages_named ("counts", 8) (by decide) c hc.2
  have zero : ∀ {n : String} {k : Nat}, (n, "0") ∈ leastCounts → k = 0 →
      ∀ c, leastPages.HasChild 3 "counts" c → ∀ x, leastPages.HasChild c n x →
        leastPages.DeclaresCount x k := by
    intro n k listed none c _ x hx
    rw [none]
    exact ⟨"0", leastPages_counts (n, "0") listed x hx.2, by decide +kernel⟩
  have complete : ∀ n ∈ countNames, ∃ x < 14, leastPages.HasChild 8 n x := by
    decide +kernel
  obtain ⟨none, noReferences⟩ := ncard_leastPages
  obtain ⟨first, last⟩ := firstNumber_leastPages
  exact {
    present := ⟨8, by decide +kernel⟩
    complete := by
      intro c hc n hn
      obtain ⟨x, _, hx⟩ := complete n hn
      exact ⟨x, counts c hc ▸ hx⟩
    tables := zero (by decide) (none "table")
    references := zero (by decide) noReferences
    figures := zero (by decide) (none "fig")
    equations := zero (by decide) (none "disp-formula")
    pages := by
      intro c _ x hx _ _
      have declared := leastPages_counts ("page-count", "-9223372036854775808") (by decide) x hx.2
      exact ⟨1, Text.minInteger, first, last, _, declared, by decide +kernel⟩ }

end Document

/-- **The least span is not found kept.** The document meets the demand, and the check is not
    valid. -/
theorem leastPages_not_valid : ∃ report, check Document.leastPages "counts" = .ok report ∧
    report.valid = false ∧
      ∀ m, Document.leastPages.ArticleMeta m → Document.leastPages.CountsKept m := by
  obtain ⟨report, checked, valid⟩ := exists_check_counts Document.leastPages
  obtain ⟨first, last⟩ := Document.firstNumber_leastPages
  refine ⟨report, checked, ?_, fun m => Document.countsKept_leastPages⟩
  rw [← Bool.not_eq_true, valid, Packaged.met_countsDemands_iff]
  intro met
  have inMeta : Document.leastPages.ArticleMeta 3 := ⟨1, 2, by decide +kernel⟩
  exact (met 3 inMeta).2 ⟨1, Text.minInteger, first, last, by decide⟩

end MarkupRules
