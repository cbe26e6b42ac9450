import MarkupRules.Proofs.Path.Closure
import MarkupRules.Rule.Verdict
import Mathlib.Data.List.Nodup
import Mathlib.Data.Option.Basic

/-!
# The truth of a predicate

What a predicate says about an item, read as a formula: the connectives are those of logic, a
conditional is an implication, and the forms that look at the document speak of the items that a
path selects.

* `Scope.Present` -- an item that a path selects and that counts as present;
* `Scope.Declares` -- the integers that the present items declare;
* `CountCondition.Admits`, `SpanIs` -- what counts and spans are held against;
* `Predicate.IsTrue` -- the formula;
* `Predicate.holds_iff_isTrue` -- **the evaluation decides the formula**;
* `Predicate.passed_verdict`, `Predicate.verdict_eq_vacuous_iff` -- the verdict, which treats a
  conditional at the top apart, passes exactly where the formula is true.
-/

namespace MarkupRules

/-! ## 1. What a path selects in a scope -/

namespace Scope

variable {s : Scope} {context i : Item} {path : Path.Expr}

/-- The path selects the item, and the item counts as present. -/
def Present (s : Scope) (context : Item) (path : Path.Expr) (i : Item) : Prop :=
  i ∈ path.select s.doc context ∧ (s.blankIsAbsent = true → i.isBlank s.doc = false)

/-- The present items declare these integers, in document order. There is at least one, and every
    value is an integer. -/
def Declares (s : Scope) (context : Item) (path : Path.Expr) (ns : List Int) : Prop :=
  ns ≠ [] ∧ (s.presentItems context path).map
    (fun i => Text.parseInteger (i.stringValue s.doc)) = ns.map some

theorem mem_presentItems : i ∈ s.presentItems context path ↔ s.Present context path i := by
  unfold presentItems Present
  by_cases h : s.blankIsAbsent = true
  · simp [h, items, List.mem_filter]
  · simp [h, items]

theorem presentItems_sublist : (s.presentItems context path).Sublist (s.items context path) := by
  unfold presentItems
  split
  · exact List.filter_sublist
  · exact List.Sublist.refl _

/-- Every present item is listed once, in document order. -/
theorem presentItems_ascending : (s.presentItems context path).Pairwise Item.Before := by
  have ascending : (s.items context path).Pairwise Item.Before := Path.selectUnion_ascending
  exact ascending.sublist presentItems_sublist

theorem isEmpty_presentItems :
    (s.presentItems context path).isEmpty = true ↔ ¬ ∃ i, s.Present context path i := by
  rw [List.isEmpty_iff, List.eq_nil_iff_forall_not_mem, not_exists]
  exact forall_congr' fun i => not_congr mem_presentItems

theorem isEmpty_values :
    (s.values context path).isEmpty = true ↔ ¬ ∃ i, s.Present context path i := by
  rw [values, List.isEmpty_map, isEmpty_presentItems]

theorem mapM_eq_some_iff {α β : Type} {f : α → Option β} : ∀ {l : List α} {bs : List β},
    l.mapM f = some bs ↔ l.map f = bs.map some
  | [], bs => by cases bs <;> simp
  | a :: l, [] => by simp [List.mapM_cons, Option.bind_eq_some_iff]
  | a :: l, b :: bs => by
    have ih : l.mapM f = some bs ↔ l.map f = bs.map some := mapM_eq_some_iff
    simp [List.mapM_cons, Option.bind_eq_some_iff, ih]

/-- **The integers read off a path are those that its items declare.** -/
theorem integers_eq_some_iff {n : Int} {more : List Int} :
    s.integers context path = some (n, more) ↔ s.Declares context path (n :: more) := by
  have read : (s.values context path).mapM Text.parseInteger = some (n :: more) ↔
      s.Declares context path (n :: more) := by
    rw [mapM_eq_some_iff, values, List.map_map]
    exact ⟨fun h => ⟨List.cons_ne_nil n more, h⟩, fun h => h.2⟩
  rw [← read, integers]
  cases (s.values context path).mapM Text.parseInteger with
  | none => simp
  | some ns => cases ns <;> simp

theorem integers_eq_none_iff :
    s.integers context path = none ↔ ¬ ∃ ns, s.Declares context path ns := by
  rw [Option.eq_none_iff_forall_ne_some, not_exists]
  constructor
  · intro h ns declared
    obtain ⟨n, more, rfl⟩ := List.exists_cons_of_ne_nil declared.1
    exact h (n, more) (integers_eq_some_iff.mpr declared)
  · intro h (n, more) read
    exact h _ (integers_eq_some_iff.mp read)

/-- There is one way only to read integers. -/
theorem Declares.unique {ns ms : List Int} (h : s.Declares context path ns)
    (h' : s.Declares context path ms) : ns = ms :=
  List.map_injective_iff.mpr (Option.some_injective Int) (h.2.symm.trans h'.2)

end Scope

/-! ## 2. Counts and spans -/

/-- A count that meets every bound that is given. -/
structure CountCondition.Admits (c : CountCondition) (count : Nat) : Prop where
  eq : ∀ n ∈ c.eq, count = n
  ne : ∀ n ∈ c.ne, count ≠ n
  gt : ∀ n ∈ c.gt, n < count
  lt : ∀ n ∈ c.lt, count < n
  gte : ∀ n ∈ c.gte, n ≤ count
  lte : ∀ n ∈ c.lte, count ≤ n

theorem CountCondition.holds_iff_admits {c : CountCondition} {count : Nat} :
    c.holds count = true ↔ c.Admits count := by
  have bound : ∀ {o : Option Nat} {p : Nat → Bool}, o.all p = true ↔ ∀ n ∈ o, p n = true := by
    intro o p
    cases o <;> simp
  unfold CountCondition.holds
  simp only [Bool.and_eq_true, bound, beq_iff_eq, bne_iff_ne, decide_eq_true_eq]
  constructor
  · intro h
    obtain ⟨⟨⟨⟨⟨eq, ne⟩, gt⟩, lt⟩, gte⟩, lte⟩ := h
    exact ⟨eq, ne, gt, lt, gte, lte⟩
  · intro h
    exact ⟨⟨⟨⟨⟨h.eq, h.ne⟩, h.gt⟩, h.lt⟩, h.gte⟩, h.lte⟩

/-- The length of the span between two numbers, both counted. Two zeros stand for no span at all.
    The difference and the length have to be signed 64-bit integers. -/
def SpanIs (first last length : Int) : Prop :=
  if first = 0 ∧ last = 0 then length = 0
  else Text.InRange (last - first) ∧ Text.InRange (last - first + 1) ∧ length = last - first + 1

theorem inRange?_eq_some_iff {n m : Int} : Text.inRange? n = some m ↔ Text.InRange n ∧ n = m := by
  unfold Text.inRange?
  by_cases h : Text.InRange n <;> simp [h]

theorem spanLength_eq_some_iff {first last length : Int} :
    spanLength first last = some length ↔ SpanIs first last length := by
  unfold spanLength SpanIs
  by_cases h : first = 0 ∧ last = 0
  · rw [if_pos h, if_pos h, Option.some.injEq, eq_comm]
  · rw [if_neg h, if_neg h, Option.bind_eq_some_iff]
    simp only [inRange?_eq_some_iff]
    constructor
    · intro h
      obtain ⟨_, ⟨difference, rfl⟩, sum, rfl⟩ := h
      exact ⟨difference, sum, rfl⟩
    · intro h
      obtain ⟨difference, sum, rfl⟩ := h
      exact ⟨_, ⟨difference, rfl⟩, sum, rfl⟩

/-! ## 3. The formula -/

mutual
/-- What the predicate says about the context. -/
def Predicate.IsTrue (s : Scope) (context : Item) : Predicate → Prop
  | .present path => ∃ i, s.Present context path i
  | .absent path => ¬ ∃ i, s.Present context path i
  | .not inner => ¬ inner.IsTrue s context
  | .all parts => AllTrue s context parts
  | .any parts => SomeTrue s context parts
  | .xor left right => Xor (left.IsTrue s context) (right.IsTrue s context)
  | .count path condition => condition.Admits (path.select s.doc context).length
  | .compare path value quantifier mode allowAbsent =>
    ((¬ ∃ i, s.Present context path i) ∧ allowAbsent = true) ∨
      (∃ i, s.Present context path i) ∧
        match quantifier with
        | .any => ∃ i, s.Present context path i ∧ value.accepts mode (i.stringValue s.doc) = true
        | .all => ∀ i, s.Present context path i → value.accepts mode (i.stringValue s.doc) = true
  | .exactlyOneOf path domain mode =>
    ∃! i, s.Present context path i ∧ ∃ d ∈ domain, mode.agree (i.stringValue s.doc) d = true
  | .countEquals declared counted =>
    ∃ ns, s.Declares context declared ns ∧ ∀ n ∈ ns, n = (counted.select s.doc context).length
  | .spanEquals declared first last =>
    ∃ ns a as b bs, s.Declares context declared ns ∧ s.Declares context first (a :: as) ∧
      s.Declares context last (b :: bs) ∧ ∀ n ∈ ns, SpanIs a b n
  | .when condition consequence => condition.IsTrue s context → consequence.IsTrue s context
termination_by structural p => p

/-- All of the predicates say the truth. -/
def AllTrue (s : Scope) (context : Item) : List Predicate → Prop
  | [] => True
  | p :: rest => p.IsTrue s context ∧ AllTrue s context rest

/-- One of the predicates says the truth. -/
def SomeTrue (s : Scope) (context : Item) : List Predicate → Prop
  | [] => False
  | p :: rest => p.IsTrue s context ∨ SomeTrue s context rest
end

variable {s : Scope} {context : Item}

theorem allTrue_iff {parts : List Predicate} :
    AllTrue s context parts ↔ ∀ p ∈ parts, p.IsTrue s context := by
  induction parts with
  | nil => simp [AllTrue]
  | cons p rest ih => simp [AllTrue, ih]

theorem someTrue_iff {parts : List Predicate} :
    SomeTrue s context parts ↔ ∃ p ∈ parts, p.IsTrue s context := by
  induction parts with
  | nil => simp [SomeTrue]
  | cons p rest ih => simp [SomeTrue, ih]

/-! ## 4. The evaluation decides the formula -/

/-- A property that one member of a list without repetition has is counted once. -/
theorem length_filter_eq_one_iff {α : Type} {l : List α} {p : α → Bool} (nodup : l.Nodup) :
    (l.filter p).length = 1 ↔ ∃! a, a ∈ l ∧ p a = true := by
  rw [List.length_eq_one_iff]
  constructor
  · intro h
    obtain ⟨a, ha⟩ := h
    have mem : ∀ b, b ∈ l ∧ p b = true ↔ b = a := fun b => by
      rw [← List.mem_filter, ha, List.mem_singleton]
    exact ⟨a, (mem a).mpr rfl, fun b hb => (mem b).mp hb⟩
  · intro h
    obtain ⟨a, ha, unique⟩ := h
    refine ⟨a, List.perm_singleton.mp ((List.perm_ext_iff_of_nodup (nodup.filter p)
      (List.nodup_singleton a)).mpr fun b => ?_)⟩
    rw [List.mem_filter, List.mem_singleton]
    exact ⟨unique b, fun h => h ▸ ha⟩

theorem holds_compare_iff {path : Path.Expr} {value : Literal} {quantifier : Quantifier}
    {mode : MatchMode} {allowAbsent : Bool} :
    (Predicate.compare path value quantifier mode allowAbsent).holds s context = true ↔
      (Predicate.compare path value quantifier mode allowAbsent).IsTrue s context := by
  simp only [Predicate.holds, Predicate.IsTrue]
  by_cases empty : (s.values context path).isEmpty = true
  · rw [if_pos empty, or_iff_left fun h => Scope.isEmpty_values.mp empty h.1,
      and_iff_right (Scope.isEmpty_values.mp empty)]
  · have present : ∃ i, s.Present context path i := by
      rw [Scope.isEmpty_values] at empty
      exact not_not.mp empty
    rw [if_neg empty, or_iff_right fun h => h.1 present, and_iff_right present]
    cases quantifier with
    | any => simp [Scope.values, Scope.mem_presentItems]
    | all => simp [Scope.values, Scope.mem_presentItems]

theorem holds_exactlyOneOf_iff {path : Path.Expr} {domain : List String} {mode : MatchMode} :
    (Predicate.exactlyOneOf path domain mode).holds s context = true ↔
      (Predicate.exactlyOneOf path domain mode).IsTrue s context := by
  rw [Predicate.holds, Predicate.IsTrue, beq_iff_eq, Scope.values, List.filter_map, List.length_map,
    length_filter_eq_one_iff (nodup_of_ascending Scope.presentItems_ascending)]
  simp [Scope.mem_presentItems]

theorem holds_countEquals_iff {declared counted : Path.Expr} :
    (Predicate.countEquals declared counted).holds s context = true ↔
      (Predicate.countEquals declared counted).IsTrue s context := by
  rw [Predicate.holds, Predicate.IsTrue]
  cases read : s.integers context declared with
  | none =>
    have none := Scope.integers_eq_none_iff.mp read
    simp only [Bool.false_eq_true, false_iff, not_exists, not_and]
    exact fun ns declares => absurd ⟨ns, declares⟩ none
  | some ns =>
    obtain ⟨n, more⟩ := ns
    have declares := Scope.integers_eq_some_iff.mp read
    simp only [List.all_eq_true, beq_iff_eq]
    constructor
    · intro h
      exact ⟨_, declares, h⟩
    · intro h
      obtain ⟨ms, declares', h⟩ := h
      rw [declares.unique declares']
      exact h

theorem holds_spanEquals_iff {declared first last : Path.Expr} :
    (Predicate.spanEquals declared first last).holds s context = true ↔
      (Predicate.spanEquals declared first last).IsTrue s context := by
  rw [Predicate.holds, Predicate.IsTrue]
  constructor
  · intro h
    split at h
    · rename_i n more a as b bs declares first last
      cases span : spanLength a b with
      | none =>
        rw [span] at h
        cases h
      | some length =>
        rw [span] at h
        refine ⟨n :: more, a, as, b, bs, Scope.integers_eq_some_iff.mp declares,
          Scope.integers_eq_some_iff.mp first, Scope.integers_eq_some_iff.mp last, fun k hk => ?_⟩
        rw [beq_iff_eq.mp (List.all_eq_true.mp h k hk)]
        exact spanLength_eq_some_iff.mp span
    · cases h
  · intro h
    obtain ⟨ns, a, as, b, bs, declares, first, last, spans⟩ := h
    obtain ⟨n, more, rfl⟩ := List.exists_cons_of_ne_nil declares.1
    have lengths : ∀ k ∈ n :: more, spanLength a b = some k :=
      fun k hk => spanLength_eq_some_iff.mpr (spans k hk)
    have span := lengths n List.mem_cons_self
    simp only [Scope.integers_eq_some_iff.mpr declares, Scope.integers_eq_some_iff.mpr first,
      Scope.integers_eq_some_iff.mpr last, span, List.all_eq_true, beq_iff_eq]
    intro k hk
    exact Option.some.inj ((lengths k hk).symm.trans span)

mutual
/-- **A predicate holds exactly if it says the truth.** -/
theorem Predicate.holds_iff_isTrue : ∀ p : Predicate,
    p.holds s context = true ↔ p.IsTrue s context
  | .present path => by
    rw [Predicate.holds, Predicate.IsTrue, Bool.not_eq_true', ← Bool.not_eq_true,
      Scope.isEmpty_presentItems, not_not]
  | .absent path => by
    rw [Predicate.holds, Predicate.IsTrue, Scope.isEmpty_presentItems]
  | .not inner => by
    rw [Predicate.holds, Predicate.IsTrue, Bool.not_eq_true', ← Bool.not_eq_true,
      inner.holds_iff_isTrue]
  | .all parts => by
    rw [Predicate.holds, Predicate.IsTrue, allHold_iff_allTrue parts]
  | .any parts => by
    rw [Predicate.holds, Predicate.IsTrue, anyHolds_iff_someTrue parts]
  | .xor left right => by
    rw [Predicate.holds, Predicate.IsTrue, ← left.holds_iff_isTrue, ← right.holds_iff_isTrue]
    cases left.holds s context <;> cases right.holds s context <;> simp [xor_def]
  | .count path condition => by
    rw [Predicate.holds, Predicate.IsTrue, CountCondition.holds_iff_admits]
    rfl
  | .compare .. => holds_compare_iff
  | .exactlyOneOf .. => holds_exactlyOneOf_iff
  | .countEquals .. => holds_countEquals_iff
  | .spanEquals .. => holds_spanEquals_iff
  | .when condition consequence => by
    rw [Predicate.holds, Predicate.IsTrue, ← condition.holds_iff_isTrue,
      ← consequence.holds_iff_isTrue]
    cases condition.holds s context <;> simp

theorem allHold_iff_allTrue : ∀ parts : List Predicate,
    allHold s context parts = true ↔ AllTrue s context parts
  | [] => by simp [allHold, AllTrue]
  | p :: rest => by
    rw [allHold, AllTrue, Bool.and_eq_true, p.holds_iff_isTrue, allHold_iff_allTrue rest]

theorem anyHolds_iff_someTrue : ∀ parts : List Predicate,
    anyHolds s context parts = true ↔ SomeTrue s context parts
  | [] => by simp [anyHolds, SomeTrue]
  | p :: rest => by
    rw [anyHolds, SomeTrue, Bool.or_eq_true, p.holds_iff_isTrue, anyHolds_iff_someTrue rest]
end

/-! ## 5. Verdicts -/

theorem Verdict.passed_ofBool (b : Bool) : (Verdict.ofBool b).passed = b := by
  cases b <;> rfl

/-- **A verdict passes exactly if the predicate holds**, a conditional at the top included. -/
theorem Predicate.passed_verdict (p : Predicate) :
    (p.verdict s context).passed = p.holds s context := by
  cases p with
  | «when» condition consequence =>
    rw [Predicate.verdict, Predicate.holds]
    cases condition.holds s context with
    | true => rw [if_pos rfl, Verdict.passed_ofBool, Bool.not_true, Bool.false_or]
    | false => rw [if_neg Bool.false_ne_true, Bool.not_false, Bool.true_or]; rfl
  | _ => exact Verdict.passed_ofBool _

/-- **A verdict is vacuous exactly if the predicate is a conditional whose condition is false.** -/
theorem Predicate.verdict_eq_vacuous_iff {p : Predicate} : p.verdict s context = .vacuous ↔
    ∃ condition consequence, p = .when condition consequence ∧ ¬ condition.IsTrue s context := by
  have truth : ∀ b, Verdict.ofBool b ≠ .vacuous := by
    intro b
    cases b <;> exact nofun
  constructor
  · intro h
    cases p with
    | «when» condition consequence =>
      refine ⟨condition, consequence, rfl, fun met => ?_⟩
      rw [Predicate.verdict, if_pos (condition.holds_iff_isTrue.mpr met)] at h
      exact truth _ h
    | _ => exact absurd h (truth _)
  · intro h
    obtain ⟨condition, consequence, rfl, unmet⟩ := h
    rw [Predicate.verdict, if_neg fun met => unmet (condition.holds_iff_isTrue.mp met)]

end MarkupRules
