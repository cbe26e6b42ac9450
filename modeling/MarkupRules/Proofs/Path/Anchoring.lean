import MarkupRules.Proofs.Path.Descent
import MarkupRules.Rule.Report

/-!
# Patterns match anywhere

An anchored expression is a pattern: what it selects does not depend on where it is asked, and is
what the expression itself selects from the nodes of the document.

* `Expr.isAbsolute_anchored`, `Expr.anchored_anchored` -- anchoring once is enough;
* `Branch.mem_select_anchored` -- the same for a branch, absolute or not;
* `Expr.anchored_matches_anywhere` -- **an anchored expression selects what the expression selects
  from some node**;
* `Rule.mem_contexts_of_compile` -- a rule is about what the source of its context selects from
  some node.
-/

namespace MarkupRules

namespace Path

variable {doc : Document} {context i j : Item} {b : Branch} {x : Expr}

/-! ## 1. Anchoring -/

theorem Branch.absolute_anchored (b : Branch) : b.anchored.absolute = true := by
  cases h : b.absolute with
  | true => rw [Branch.anchored_eq_self_iff.mpr h, h]
  | false => simp [Branch.anchored, h]

/-- **An anchored expression is absolute.** -/
theorem Expr.isAbsolute_anchored (x : Expr) : x.anchored.isAbsolute = true := by
  rw [Expr.isAbsolute, Expr.anchored, List.all_map, List.all_eq_true]
  exact fun b _ => b.absolute_anchored

/-- **Anchoring once is enough.** -/
theorem Expr.anchored_anchored (x : Expr) : x.anchored.anchored = x.anchored :=
  Expr.anchored_eq_self_iff.mpr x.isAbsolute_anchored

/-! ## 2. What patterns select -/

/-- The first step of an anchored branch leads to every node. -/
theorem mem_select_anywhere_root : i ∈ Step.anywhere.select doc (.node doc.root) ↔
    ∃ id, id < doc.size ∧ i = .node id := by
  rw [mem_select_anywhere]
  constructor
  · intro h
    obtain ⟨id, hid, rfl⟩ := h
    refine ⟨id, ?_, rfl⟩
    rcases List.mem_cons.mp hid with rfl | below
    · exact root_lt_size doc
    · exact lt_size_of_mem_descendants (root_lt_size doc) below
  · intro h
    obtain ⟨id, hid, rfl⟩ := h
    exact ⟨id, Document.mem_root_cons_descendants hid, rfl⟩

/-- **An anchored branch selects what the branch selects from some node.** Ranks of positions are
    no obstacle: each step is taken from each item on its own, so the items brought together by
    the first step do not see each other. -/
theorem Branch.mem_select_anchored : j ∈ b.anchored.select doc context ↔
    ∃ id, id < doc.size ∧ j ∈ b.select doc (.node id) := by
  cases h : b.absolute with
  | true =>
    rw [Branch.anchored_eq_self_iff.mpr h]
    constructor
    · intro hj
      exact ⟨doc.root, root_lt_size doc, b.select_of_absolute doc h _ _ ▸ hj⟩
    · intro hj
      obtain ⟨id, _, hj⟩ := hj
      exact b.select_of_absolute doc h _ _ ▸ hj
  | false =>
    obtain ⟨absolute, steps⟩ := b
    cases h
    show j ∈ walk doc (Step.anywhere :: steps) [.node doc.root] ↔
      ∃ id, id < doc.size ∧ j ∈ walk doc steps [.node id]
    simp only [mem_walk_cons, mem_select_anywhere_root]
    constructor
    · intro hj
      obtain ⟨_, ⟨id, hid, rfl⟩, hj⟩ := hj
      exact ⟨id, hid, hj⟩
    · intro hj
      obtain ⟨id, hid, hj⟩ := hj
      exact ⟨_, ⟨id, hid, rfl⟩, hj⟩

/-- An anchored expression selects from any context what the expression selects from some node. -/
theorem Expr.mem_select_anchored : j ∈ x.anchored.select doc context ↔
    ∃ id, id < doc.size ∧ j ∈ x.select doc (.node id) := by
  simp only [Expr.select, Expr.anchored, mem_selectUnion, List.mem_map]
  constructor
  · intro h
    obtain ⟨_, ⟨b, hb, rfl⟩, hj⟩ := h
    obtain ⟨id, hid, hj⟩ := Branch.mem_select_anchored.mp hj
    exact ⟨id, hid, b, hb, hj⟩
  · intro h
    obtain ⟨id, hid, b, hb, hj⟩ := h
    exact ⟨_, ⟨b, hb, rfl⟩, Branch.mem_select_anchored.mpr ⟨id, hid, hj⟩⟩

/-- Branches that are all absolute do not look at their context. -/
theorem Expr.select_eq_of_isAbsolute (h : x.isAbsolute = true) :
    x.select doc i = x.select doc j := by
  have same : ∀ union : List Branch, union.all (·.absolute) = true →
      selectEach doc union i = selectEach doc union j := by
    intro union
    induction union with
    | nil => exact fun _ => by rw [selectEach, selectEach]
    | cons b rest ih =>
      intro all
      rw [List.all_cons, Bool.and_eq_true] at all
      rw [selectEach, selectEach, b.select_of_absolute doc all.1 i j, ih all.2]
  rw [Expr.select, Expr.select, selectUnion, selectUnion, same x.union h]

/-- **An anchored expression matches anywhere.** It is absolute, anchoring it again changes
    nothing, and it is the expression itself if and only if that is absolute already. It gives one
    list for all contexts, those that are not in the document among them: what the expression
    selects from the nodes of the document, taken together. -/
theorem Expr.anchored_matches_anywhere (x : Expr) (doc : Document) :
    x.anchored.isAbsolute = true ∧ x.anchored.anchored = x.anchored ∧
      (x.anchored = x ↔ x.isAbsolute = true) ∧
        ∃ selected, (∀ context, x.anchored.select? doc context = some selected) ∧
          ∀ j, j ∈ selected ↔ ∃ id, id < doc.size ∧ j ∈ x.select doc (.node id) := by
  refine ⟨x.isAbsolute_anchored, x.anchored_anchored, Expr.anchored_eq_self_iff,
    x.anchored.selectFromRoot doc, fun context => ?_, fun j => Expr.mem_select_anchored⟩
  rw [Expr.select?, Expr.looksAtContext, x.isAbsolute_anchored]
  exact congrArg some (Expr.select_eq_of_isAbsolute x.isAbsolute_anchored)

/-- Two sections, one inside the other, each with a title. -/
def titledSections : Element :=
  let inner := ({ name := "section" } : Element).child { name := "title" }
  (({ name := "section" } : Element).child { name := "title" }).child inner

/-- What `*[1]|/section` is compiled to. -/
def firstOrSection : Expr where
  source := "*[1]|/section"
  union := [⟨false, [⟨.child, .wildcard, [.position 1]⟩]⟩, ⟨true, [.child "section"]⟩]

-- the first children of the document node and of both sections; the inner section is a second child
example : firstOrSection.anchored.selectFromRoot (.ofElement titledSections) =
    [.node 1, .node 2, .node 4] := by decide +kernel

end Path

/-! ## 3. Rules -/

variable {id phase source : String} {test : Predicate} {r : Rule}

/-- A rule is compiled by compiling its context, which is anchored. -/
theorem Rule.compile_eq_ok_iff : Rule.compile id phase source test = .ok r ↔
    ∃ x, Path.Expr.compile source = .ok x ∧ r = { id, phase, context := x.anchored, test } := by
  rw [Rule.compile]
  cases Path.Expr.compile source with
  | error e => simp
  | ok x => simp [eq_comm]

/-- **A rule is about what the source of its context selects from some node.** -/
theorem Rule.mem_contexts_of_compile (h : Rule.compile id phase source test = .ok r) :
    ∃ x, Path.Expr.compile source = .ok x ∧ ∀ (doc : Document) (i : Item), i ∈ r.contexts doc ↔
      ∃ n, n < doc.size ∧ i ∈ x.select doc (.node n) := by
  obtain ⟨x, compiled, rfl⟩ := Rule.compile_eq_ok_iff.mp h
  exact ⟨x, compiled, fun doc i => Path.Expr.mem_select_anchored⟩

end MarkupRules
