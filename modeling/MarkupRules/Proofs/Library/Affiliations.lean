import Mathlib
import MarkupRules.Proofs.Library.Demand
import MarkupRules.Proofs.Path.Descent

/-!
# What the packaged phase `aff_contenttypes` demands

The two rules of the phase, compiled from their texts, against what they are about: the types that
the institutions of an affiliation are given.

* `Document.TypesInstitution` -- an institution of an affiliation and the type it is given;
* `Document.InstitutionsTyped` -- the demand, told on the nodes of the document;
* `Packaged.demands_affContenttypes` -- what the drafts of the phase compile to;
* `Packaged.met_affDemands_iff` -- what the compiled rules ask for is the demand;
* `check_affContenttypes` -- **a check of the types is valid if and only if the demand is met**.
-/

namespace MarkupRules

open MarkupRules.Path

/-! ## 1. The demand -/

namespace Document

/-- `x` is an institution in `a`, and `type` is the type that it is given. -/
def TypesInstitution (doc : Document) (a x : NodeId) (type : String) : Prop :=
  doc.HasChild a "institution" x ∧ doc.attribute? x "content-type" = some type

/-- The types that an institution may be given. -/
def institutionTypes : List String :=
  ["original", "orgname", "orgdiv1", "orgdiv2", "orgdiv3"]

/-- The institutions of an affiliation are typed well: one of them is the original, and only one,
    and no other types are given than those allowed. An institution may be without a type. -/
structure InstitutionsTyped (doc : Document) (a : NodeId) : Prop where
  original : ∃! x, doc.TypesInstitution a x "original"
  allowed : ∀ x type, doc.TypesInstitution a x type → type ∈ institutionTypes

end Document

/-! ## 2. What the paths of the phase select -/

variable {doc : Document} {a x : NodeId} {i j : Item}

namespace Packaged

open Document

/-- The path `@content-type`. -/
def typePath : Expr :=
  ⟨"@content-type", [⟨false, [.attribute "content-type"]⟩]⟩

/-- The path `institution/@content-type`. -/
def institutionTypePath : Expr :=
  ⟨"institution/@content-type", [⟨false, [.child "institution", .attribute "content-type"]⟩]⟩

/-- Affiliations, anywhere in the document. -/
def affPattern : List Branch :=
  [⟨true, [.anywhere, .child "aff"]⟩]

/-- Institutions with a type in an affiliation, anywhere in the document. -/
def typedInstitutionPattern : List Branch :=
  [⟨true, [.anywhere, .child "aff",
    ⟨.child, .name "institution", [.exists typePath.union]⟩]⟩]

theorem mem_select_typePath : j ∈ selectUnion doc typePath.union (.node x) ↔
    (∃ type, doc.attribute? x "content-type" = some type) ∧ j = .attribute x "content-type" := by
  rw [typePath, selectUnion_single, Branch.select]
  exact mem_walk_attribute

theorem mem_select_institutionTypePath : j ∈ institutionTypePath.select doc (.node a) ↔
    ∃ x, (∃ type, doc.TypesInstitution a x type) ∧ j = .attribute x "content-type" := by
  rw [Expr.select, institutionTypePath, selectUnion_single, Branch.select, if_neg Bool.false_ne_true,
    ← List.singleton_append, walk_append, mem_walk_iff]
  simp only [mem_walk_child, TypesInstitution]
  constructor
  · intro h
    obtain ⟨_, ⟨x, hx, rfl⟩, hj⟩ := h
    obtain ⟨⟨type, given⟩, rfl⟩ := mem_walk_attribute.mp hj
    exact ⟨x, ⟨type, hx, given⟩, rfl⟩
  · intro h
    obtain ⟨x, ⟨type, hx, given⟩, rfl⟩ := h
    exact ⟨_, ⟨x, hx, rfl⟩, mem_walk_attribute.mpr ⟨⟨type, given⟩, rfl⟩⟩

theorem mem_select_affPattern : i ∈ selectUnion doc affPattern (.node doc.root) ↔
    ∃ a, doc.name? a = some "aff" ∧ i = .node a := by
  rw [affPattern, selectUnion_single, Branch.select]
  exact mem_walk_anywhere

theorem mem_select_typedInstitutionPattern :
    i ∈ selectUnion doc typedInstitutionPattern (.node doc.root) ↔
      ∃ a x, doc.name? a = some "aff" ∧ (∃ type, doc.TypesInstitution a x type) ∧ i = .node x := by
  -- the step to the institutions keeps those that have a type
  have typed : ∀ a, i ∈ walk doc [⟨.child, .name "institution", [.exists typePath.union]⟩]
      [.node a] ↔ ∃ x, (∃ type, doc.TypesInstitution a x type) ∧ i = .node x := by
    intro a
    rw [mem_walk_cons]
    simp only [walk_nil, List.mem_singleton, Step.mem_select_exists, mem_select_child,
      mem_children_and_name?_iff, TypesInstitution]
    constructor
    · intro h
      obtain ⟨_, ⟨⟨x, hx, rfl⟩, k, hk⟩, rfl⟩ := h
      obtain ⟨⟨type, given⟩, _⟩ := mem_select_typePath.mp hk
      exact ⟨x, ⟨type, hx, given⟩, rfl⟩
    · intro h
      obtain ⟨x, ⟨type, hx, given⟩, rfl⟩ := h
      exact ⟨_, ⟨⟨x, hx, rfl⟩, _, mem_select_typePath.mpr ⟨⟨type, given⟩, rfl⟩⟩, rfl⟩
  rw [typedInstitutionPattern, selectUnion_single, Branch.select, if_pos rfl,
    show [_, _, _] = [Step.anywhere, .child "aff"] ++ [_] from rfl, walk_append, mem_walk_iff]
  simp only [mem_walk_anywhere]
  constructor
  · intro h
    obtain ⟨_, ⟨a, ha, rfl⟩, hi⟩ := h
    obtain ⟨x, hx, rfl⟩ := (typed a).mp hi
    exact ⟨a, x, ha, hx, rfl⟩
  · intro h
    obtain ⟨a, x, ha, hx, rfl⟩ := h
    exact ⟨_, ⟨a, ha, rfl⟩, (typed a).mpr ⟨x, hx, rfl⟩⟩

/-! ## 3. What the tests of the phase say -/

/-- One selected attribute has the value if one institution is given the type: an attribute is
    known by its owner. -/
theorem isTrue_exactlyOneOf :
    (Predicate.exactlyOneOf institutionTypePath ["original"] .exact).IsTrue ⟨doc, false⟩
      (.node a) ↔ ∃! x, doc.TypesInstitution a x "original" := by
  have carries : ∀ i : Item, (Scope.Present ⟨doc, false⟩ (.node a) institutionTypePath i ∧
      ∃ d ∈ ["original"], MatchMode.exact.agree (i.stringValue doc) d = true) ↔
        ∃ x, doc.TypesInstitution a x "original" ∧ i = .attribute x "content-type" := by
    intro i
    rw [present_iff, mem_select_institutionTypePath]
    constructor
    · intro h
      obtain ⟨⟨x, ⟨type, hx, given⟩, rfl⟩, _, hd, agrees⟩ := h
      rw [Item.stringValue, given, List.mem_singleton.mp hd] at agrees
      have same : type = "original" := beq_iff_eq.mp agrees
      exact ⟨x, ⟨hx, same ▸ given⟩, rfl⟩
    · intro h
      obtain ⟨x, ⟨hx, given⟩, rfl⟩ := h
      refine ⟨⟨x, ⟨_, hx, given⟩, rfl⟩, _, List.mem_singleton_self _, ?_⟩
      rw [Item.stringValue, given]
      exact beq_self_eq_true _
  rw [Predicate.IsTrue, existsUnique_congr carries]
  constructor
  · intro h
    obtain ⟨_, ⟨x, hx, rfl⟩, only⟩ := h
    refine ⟨x, hx, fun y hy => ?_⟩
    cases only _ ⟨y, hy, rfl⟩
    rfl
  · intro h
    obtain ⟨x, hx, only⟩ := h
    refine ⟨_, ⟨x, hx, rfl⟩, ?_⟩
    rintro _ ⟨y, hy, rfl⟩
    rw [only y hy]

/-- The type of an institution that has one is accepted if it is one of the domain. -/
theorem isTrue_valueIn {type : String} {domain : List String}
    (given : doc.attribute? x "content-type" = some type) :
    (Predicate.compare typePath (.enumerated domain) .all .exact false).IsTrue ⟨doc, false⟩
      (.node x) ↔ type ∈ domain := by
  have present : ∀ i : Item, Scope.Present ⟨doc, false⟩ (.node x) typePath i ↔
      i = .attribute x "content-type" := by
    intro i
    rw [present_iff, Expr.select, mem_select_typePath, and_iff_right ⟨type, given⟩]
  have value : (Item.attribute x "content-type").stringValue doc = type := by
    rw [Item.stringValue, given]
    rfl
  rw [Predicate.IsTrue]
  simp only [present, exists_eq, not_true_eq_false, false_and, false_or, true_and, forall_eq, value,
    Literal.accepts, MatchMode.agree, List.any_eq_true, beq_iff_eq, exists_eq_right']

/-! ## 4. The phase -/

/-- What the rules of the phase ask for, in their order. -/
def affDemands : List Demand := [
  ⟨affPattern, .exactlyOneOf institutionTypePath ["original"] .exact, false⟩,
  ⟨typedInstitutionPattern, .compare typePath (.enumerated institutionTypes) .all .exact false,
    false⟩]

/-- **The texts of the phase compile to these demands.** -/
theorem demands_affContenttypes :
    (affContenttypes.compile draft.defaults).map (·.map Rule.demand) = .ok affDemands := by
  cbv

/-- **What the compiled rules ask for is the demand.** -/
theorem met_affDemands_iff : (∀ d ∈ affDemands, d.Met doc) ↔
    ∀ a, doc.name? a = some "aff" → doc.InstitutionsTyped a := by
  simp only [affDemands, List.forall_mem_cons, Demand.Met, mem_select_affPattern,
    mem_select_typedInstitutionPattern]
  constructor
  · intro h a ha
    obtain ⟨original, allowed, _⟩ := h
    refine ⟨isTrue_exactlyOneOf.mp (original _ ⟨a, ha, rfl⟩), fun x type hx => ?_⟩
    exact (isTrue_valueIn hx.2).mp (allowed _ ⟨a, x, ha, ⟨type, hx⟩, rfl⟩)
  · intro h
    refine ⟨?_, ?_, nofun⟩
    · rintro _ ⟨a, ha, rfl⟩
      exact isTrue_exactlyOneOf.mpr (h a ha).original
    · rintro _ ⟨a, x, ha, ⟨type, hx⟩, rfl⟩
      exact (isTrue_valueIn hx.2).mpr ((h a ha).allowed x type hx)

end Packaged

/-- **A check of the types is valid if and only if the demand is met** by every affiliation, at
    whatever depth it stands. -/
theorem check_affContenttypes (doc : Document) : ∃ report,
    check doc "aff_contenttypes" = .ok report ∧
      (report.valid = true ↔ ∀ a, doc.name? a = some "aff" → doc.InstitutionsTyped a) := by
  have listed : Packaged.affContenttypes ∈ Packaged.draft.phases := by simp [Packaged.draft]
  obtain ⟨report, checked, valid⟩ :=
    Packaged.exists_check_of_demands listed Packaged.demands_affContenttypes doc
  exact ⟨report, checked, valid.trans Packaged.met_affDemands_iff⟩

end MarkupRules
