import MarkupRules.Proofs.Path.Attributes
import MarkupRules.Proofs.Rule.Truth

/-!
# Spans of numbers

The length of a span is a difference and one more, and both have to stay in the range of the signed
64-bit integers. There is one length in this range whose difference is not.

* `spanBetween` -- the length of a span, among all integers;
* `Scope.Declares.inRange` -- what items declare is in range;
* `spanIs_iff` -- **what the bounds leave out**: of the lengths in range, the least one only;
* `Scope.Declares.spans_iff` -- the same of all numbers that are declared;
* `Predicate.spanEquals_is_exact` -- **spans are compared exactly**, the least integer left out;
* `Predicate.leastSpan_never_matches` -- the span that is left out.
-/

namespace MarkupRules

variable {s : Scope} {context : Item} {path : Path.Expr} {n first last : Int}

/-! ## 1. Numbers in range -/

theorem Text.inRange_of_readInteger? {cs : List Char} (h : readInteger? cs = some n) :
    InRange n := by
  unfold readInteger? at h
  split at h
  all_goals
    obtain ⟨m, _, bounded⟩ := Option.bind_eq_some_iff.mp h
    obtain ⟨inside, rfl⟩ := inRange?_eq_some_iff.mp bounded
    exact inside

/-- **What items declare is in range.** -/
theorem Scope.Declares.inRange {ns : List Int} (h : s.Declares context path ns) (hn : n ∈ ns) :
    Text.InRange n := by
  have listed : some n ∈ ns.map some := List.mem_map_of_mem hn
  rw [← h.2] at listed
  obtain ⟨i, _, read⟩ := List.mem_map.mp listed
  exact Text.inRange_of_readInteger? read

/-! ## 2. One span -/

/-- The length of the span between two numbers, both counted, among all integers. Two zeros stand
    for no span at all. -/
def spanBetween (first last : Int) : Int :=
  if first = 0 ∧ last = 0 then 0 else last - first + 1

/-- **What the bounds leave out.** Of the lengths in range it is the least one only: the difference
    before it is one less, and so out of range. -/
theorem spanIs_iff (inside : Text.InRange n) :
    SpanIs first last n ↔ n = spanBetween first last ∧ n ≠ Text.minInteger := by
  unfold SpanIs spanBetween
  unfold Text.InRange Text.minInteger Text.maxInteger at *
  by_cases zeros : first = 0 ∧ last = 0
  · rw [if_pos zeros, if_pos zeros]
    omega
  · rw [if_neg zeros, if_neg zeros]
    omega

/-- Numbers that are declared are the length of a span if they are so among all integers, and the
    length is not the least one. -/
theorem Scope.Declares.spans_iff {ns : List Int} (h : s.Declares context path ns) :
    (∀ n ∈ ns, SpanIs first last n) ↔
      (∀ n ∈ ns, n = spanBetween first last) ∧ spanBetween first last ≠ Text.minInteger := by
  have each : ∀ n ∈ ns, SpanIs first last n ↔ n = spanBetween first last ∧ n ≠ Text.minInteger :=
    fun n hn => spanIs_iff (h.inRange hn)
  constructor
  · intro spans
    obtain ⟨n, hn⟩ := List.exists_mem_of_ne_nil ns h.1
    obtain ⟨rfl, notLeast⟩ := (each n hn).mp (spans n hn)
    exact ⟨fun m hm => ((each m hm).mp (spans m hm)).1, notLeast⟩
  · intro spans n hn
    have length := spans.1 n hn
    exact (each n hn).mpr ⟨length, length ▸ spans.2⟩

/-! ## 3. All spans -/

/-- **Spans are compared exactly, the least integer left out.** The predicate holds if and only if
    each of the three paths declares integers, and all that the first one declares are the length
    of the span between the first ones of the others, which must not be the least integer in range.
    A span whose length is out of range never matches. -/
theorem Predicate.spanEquals_is_exact (s : Scope) (context : Item)
    (declared first last : Path.Expr) :
    ((Predicate.spanEquals declared first last).holds s context = true ↔
      ∃ ns a as b bs, s.Declares context declared ns ∧ s.Declares context first (a :: as) ∧
        s.Declares context last (b :: bs) ∧ (∀ n ∈ ns, n = spanBetween a b) ∧
          spanBetween a b ≠ Text.minInteger) ∧
    ∀ a as b bs, s.Declares context first (a :: as) → s.Declares context last (b :: bs) →
      ¬ Text.InRange (spanBetween a b) →
        (Predicate.spanEquals declared first last).holds s context = false := by
  have exactly : (Predicate.spanEquals declared first last).holds s context = true ↔
      (Predicate.spanEquals declared first last).IsTrue s context := holds_spanEquals_iff
  rw [Predicate.IsTrue] at exactly
  constructor
  · rw [exactly]
    constructor
    · intro h
      obtain ⟨ns, a, as, b, bs, declares, starts, ends, spans⟩ := h
      exact ⟨ns, a, as, b, bs, declares, starts, ends, declares.spans_iff.mp spans⟩
    · intro h
      obtain ⟨ns, a, as, b, bs, declares, starts, ends, spans⟩ := h
      exact ⟨ns, a, as, b, bs, declares, starts, ends, declares.spans_iff.mpr spans⟩
  · intro a as b bs starts ends outside
    rw [← Bool.not_eq_true, exactly]
    intro h
    obtain ⟨ns, a', as', b', bs', declares, starts', ends', spans⟩ := h
    cases starts.unique starts'
    cases ends.unique ends'
    obtain ⟨n, hn⟩ := List.exists_mem_of_ne_nil ns declares.1
    have length := (declares.spans_iff.mp spans).1 n hn
    exact outside (length ▸ declares.inRange hn)

/-- The expression `attribute::name`. -/
def attributePath (name : String) : Path.Expr :=
  Path.Axis.attribute.query (.name name)

theorem compile_attributePath {name : String} (h : Path.ReadsAsName name) :
    Path.Expr.compile ("attribute::" ++ name) = .ok (attributePath name) :=
  @Path.Expr.compile_query (.name name) .attribute h

/-- A document that declares a number of pages, and the first and the last of them. -/
def paginated (count first last : String) : Scope where
  doc := .ofElement ((({ name := "pages" } : Element).attr "count" count).attr "first" first
    |>.attr "last" last)
  blankIsAbsent := false

/-- The pages of such a document are as many as it declares. -/
def pagesCounted : Predicate :=
  .spanEquals (attributePath "count") (attributePath "first") (attributePath "last")

/-- As many pages as the greatest integer in range, from the first one on. -/
def greatestSpan : Scope :=
  paginated " 9223372036854775807" "1" "9223372036854775807"

/-- As many pages as there are integers from 0 to the greatest one in range. -/
def overlongSpan : Scope :=
  paginated "1" "0" "9223372036854775807"

theorem Predicate.spanEquals_is_exact_greatest :
    pagesCounted.holds greatestSpan (.node 1) = true ∧
      overlongSpan.Declares (.node 1) (attributePath "first") [0] ∧
      overlongSpan.Declares (.node 1) (attributePath "last") [Text.maxInteger] ∧
      ¬ Text.InRange (spanBetween 0 Text.maxInteger) ∧
      pagesCounted.holds overlongSpan (.node 1) = false := by
  have count : greatestSpan.Declares (.node 1) (attributePath "count") [Text.maxInteger] :=
    ⟨List.cons_ne_nil _ _, by decide +kernel⟩
  have first : greatestSpan.Declares (.node 1) (attributePath "first") [1] :=
    ⟨List.cons_ne_nil _ _, by decide +kernel⟩
  have last : greatestSpan.Declares (.node 1) (attributePath "last") [Text.maxInteger] :=
    ⟨List.cons_ne_nil _ _, by decide +kernel⟩
  have first' : overlongSpan.Declares (.node 1) (attributePath "first") [0] :=
    ⟨List.cons_ne_nil _ _, by decide +kernel⟩
  have last' : overlongSpan.Declares (.node 1) (attributePath "last") [Text.maxInteger] :=
    ⟨List.cons_ne_nil _ _, by decide +kernel⟩
  have outside : ¬ Text.InRange (spanBetween 0 Text.maxInteger) := by decide
  have matched := (Predicate.spanEquals_is_exact greatestSpan (.node 1) _ _ _).1.mpr
    ⟨_, _, _, _, _, count, first, last, by decide, by decide⟩
  have never := (Predicate.spanEquals_is_exact overlongSpan (.node 1) (attributePath "count")
    _ _).2 _ _ _ _ first' last' outside
  exact ⟨matched, first', last', outside, never⟩

/-- As many pages as the least integer in range: from 1 to that integer. -/
def leastSpan : Scope :=
  paginated "-9223372036854775808" "1" "-9223372036854775808"

/-- **The span that never matches.** Its length is the least integer in range, and this is what is
    declared. -/
theorem Predicate.leastSpan_never_matches :
    (∀ name ∈ ["count", "first", "last"],
      Path.Expr.compile ("attribute::" ++ name) = .ok (attributePath name)) ∧
    leastSpan.Declares (.node 1) (attributePath "count") [Text.minInteger] ∧
    leastSpan.Declares (.node 1) (attributePath "first") [1] ∧
    leastSpan.Declares (.node 1) (attributePath "last") [Text.minInteger] ∧
    spanBetween 1 Text.minInteger = Text.minInteger ∧ Text.InRange Text.minInteger ∧
    pagesCounted.holds leastSpan (.node 1) = false := by
  have named : ∀ name ∈ ["count", "first", "last"], Path.ReadsAsName name := by decide +kernel
  exact ⟨fun name hname => compile_attributePath (named name hname),
    ⟨List.cons_ne_nil _ _, by decide +kernel⟩, ⟨List.cons_ne_nil _ _, by decide +kernel⟩,
    ⟨List.cons_ne_nil _ _, by decide +kernel⟩, by decide, by decide, by decide +kernel⟩

end MarkupRules
