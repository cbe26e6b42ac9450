import MarkupRules.Proofs.Path.Filters

/-!
# Values that differ

A filter may ask for a value that differs from a literal. Where the literal is a text, this is a
value that does not equal it. Where it is a number, a value that is no integer does not equal the
number, and does not differ from it either.

* `Comparison.holdsOf_number` -- **a value compares with a number** as the integer that it is;
* `Comparison.holdsOf_ne_text`, `Comparison.holdsOf_ne_number` -- when one value differs from a
  literal;
* `Item.Declares` -- the integer that the value of an item is;
* `Filter.holds_ne_number_iff` -- **a filter for another number** holds where another integer is
  declared;
* `Expr.DiffersAsUnequal` -- the law that a filter for a different value holds where something is
  selected that does not pass the filter for an equal one;
* `Expr.differsAsUnequal_text`, `Expr.differsAsUnequal_number_iff` -- **the law holds of texts**,
  and of numbers under a condition;
* `IsCondition.compareText`, `IsCondition.compareNumber` -- comparisons as they are written;
* `Expr.differs_from_number` -- what has been said of filters, for their texts;
* `Expr.undeclared_not_different` -- a value that neither equals a number nor differs from it.
-/

namespace MarkupRules

/-- The value of the item is the integer, as far as blanks at its ends do not count. -/
def Item.Declares (doc : Document) (i : Item) (n : Int) : Prop :=
  Text.parseInteger (i.stringValue doc) = some n

instance {doc : Document} {i : Item} {n : Int} : Decidable (i.Declares doc n) :=
  inferInstanceAs (Decidable (_ = _))

theorem Item.Declares.unique {doc : Document} {i : Item} {n m : Int} (h : i.Declares doc n)
    (h' : i.Declares doc m) : n = m :=
  Option.some.inj (h.symm.trans h')

namespace Path

variable {doc : Document} {i j : Item} {x : Expr} {op : Comparison} {operand : Operand}
  {path literal value text : String} {m n : Int} {k rank size : Nat}

/-! ## 1. One value -/

/-- A value differs from a text unless it equals the text. -/
theorem Comparison.holdsOf_ne_text :
    Comparison.ne.holdsOf value (.text text) = !Comparison.eq.holdsOf value (.text text) := by
  show (compare value text).isNe = !(compare value text).isEq
  cases compare value text <;> rfl

/-- A value compares with a number as the integer that it is, and not at all if it is none. -/
theorem Comparison.holdsOf_number : op.holdsOf value (.number n) = true ↔
    ∃ m, op.accepts (compare m n) = true ∧ Text.parseInteger value = some m := by
  rw [holdsOf]
  cases Text.parseInteger value with
  | none => simp
  | some m => simp

theorem Comparison.accepts_eq : Comparison.eq.accepts (compare m n) = true ↔ m = n := by
  simp [accepts]

theorem Comparison.accepts_ne : Comparison.ne.accepts (compare m n) = true ↔ m ≠ n := by
  simp [accepts]

/-- A value equals a number if it is that integer. -/
theorem Comparison.holdsOf_eq_number : Comparison.eq.holdsOf value (.number n) = true ↔
    Text.parseInteger value = some n := by
  simp only [holdsOf_number, accepts_eq, exists_eq_left]

/-- A value differs from a number if it is another integer. -/
theorem Comparison.holdsOf_ne_number : Comparison.ne.holdsOf value (.number n) = true ↔
    ∃ m, m ≠ n ∧ Text.parseInteger value = some m := by
  simp only [holdsOf_number, accepts_ne]

/-! ## 2. Filters that compare -/

/-- A comparison holds of an item if it does of the value of something selected from it. -/
theorem Filter.holds_compare_iff :
    (Filter.compare x.union op operand).holds doc i rank size = true ↔
      ∃ j ∈ x.select doc i, op.holdsOf (j.stringValue doc) operand = true := by
  rw [Filter.holds, List.any_eq_true]
  rfl

/-- **A filter for a number** holds where that integer is declared. -/
theorem Filter.holds_eq_number_iff :
    (Filter.compare x.union .eq (.number n)).holds doc i rank size = true ↔
      ∃ j ∈ x.select doc i, j.Declares doc n := by
  rw [holds_compare_iff]
  exact exists_congr fun j => and_congr_right fun _ => Comparison.holdsOf_eq_number

/-- **A filter for another number** holds where another integer is declared. -/
theorem Filter.holds_ne_number_iff :
    (Filter.compare x.union .ne (.number n)).holds doc i rank size = true ↔
      ∃ j ∈ x.select doc i, ∃ m, m ≠ n ∧ j.Declares doc m := by
  rw [holds_compare_iff]
  exact exists_congr fun j => and_congr_right fun _ => Comparison.holdsOf_ne_number

/-- One of the two holds where any integer is declared. -/
theorem Filter.holds_eq_or_ne_number_iff :
    (Filter.compare x.union .eq (.number n)).holds doc i rank size = true ∨
        (Filter.compare x.union .ne (.number n)).holds doc i rank size = true ↔
      ∃ j ∈ x.select doc i, ∃ m, j.Declares doc m := by
  rw [holds_eq_number_iff, holds_ne_number_iff]
  constructor
  · rintro (⟨j, hj, declares⟩ | ⟨j, hj, m, _, declares⟩)
    · exact ⟨j, hj, n, declares⟩
    · exact ⟨j, hj, m, declares⟩
  · rintro ⟨j, hj, m, declares⟩
    by_cases same : m = n
    · exact .inl ⟨j, hj, same ▸ declares⟩
    · exact .inr ⟨j, hj, m, same, declares⟩

/-- The expression `.`. -/
def itself : Expr :=
  ⟨".", [⟨false, [.here]⟩]⟩

theorem compile_itself : Expr.compile "." = .ok itself :=
  Expr.compile_of_lexes (.cons (by decide) rfl .nil) (.single (.relative (.last .here)))

theorem select_itself : itself.select doc i = [i] := by
  have step : Step.here.select doc i = [i] := by cases i <;> rfl
  rw [Expr.select, itself, selectUnion_single, Branch.select, if_neg Bool.false_ne_true]
  exact walk_single step

/-- A comparison with `.` is about the value of the item. -/
theorem Filter.holds_compare_itself :
    (Filter.compare itself.union op operand).holds doc i rank size =
      op.holdsOf (i.stringValue doc) operand := by
  rw [Bool.eq_iff_iff, holds_compare_iff, select_itself]
  simp

/-! ## 3. Differing and not being equal -/

/-- **The law of differing values**: the filter `other` for a different value holds of an item if
    and only if something is selected from it that does not pass the filter `own` for an equal
    one. -/
def Expr.DiffersAsUnequal (x : Expr) (other own : Filter) (doc : Document) (i : Item) : Prop :=
  ∀ rank size, other.holds doc i rank size = true ↔
    ∃ j ∈ x.select doc i, own.holds doc j 1 1 = false

/-- **The law holds of texts.** -/
theorem Expr.differsAsUnequal_text : x.DiffersAsUnequal (.compare x.union .ne (.text text))
    (.compare itself.union .eq (.text text)) doc i := by
  intro rank size
  rw [Filter.holds_compare_iff]
  refine exists_congr fun j => and_congr_right fun _ => ?_
  rw [Filter.holds_compare_itself, Comparison.holdsOf_ne_text, Bool.not_eq_true']

/-- What declares another integer does not declare this one. -/
theorem exists_not_declares (h : ∃ j ∈ x.select doc i, ∃ m, m ≠ n ∧ j.Declares doc m) :
    ∃ j ∈ x.select doc i, ¬ j.Declares doc n := by
  obtain ⟨j, hj, m, differs, declares⟩ := h
  exact ⟨j, hj, fun same => differs (declares.unique same)⟩

/-- **Of numbers the law holds** where all that is selected declares integers, or something declares
    another one than the number. Anywhere else something is selected that neither equals the number
    nor differs from it, and this goes unnoticed. -/
theorem Expr.differsAsUnequal_number_iff :
    x.DiffersAsUnequal (.compare x.union .ne (.number n)) (.compare itself.union .eq (.number n))
        doc i ↔
      (∀ j ∈ x.select doc i, ∃ m, j.Declares doc m) ∨
        ∃ j ∈ x.select doc i, ∃ m, m ≠ n ∧ j.Declares doc m := by
  have own : ∀ j, (Filter.compare itself.union .eq (.number n)).holds doc j 1 1 = false ↔
      ¬ j.Declares doc n := by
    intro j
    rw [← Bool.not_eq_true, Filter.holds_compare_itself, Comparison.holdsOf_eq_number]
    rfl
  simp only [DiffersAsUnequal, Filter.holds_ne_number_iff, own]
  constructor
  · intro law
    by_cases other : ∃ j ∈ x.select doc i, ∃ m, m ≠ n ∧ j.Declares doc m
    · exact .inr other
    · refine .inl fun j hj => ⟨n, ?_⟩
      by_contra unequal
      exact other ((law 1 1).mpr ⟨j, hj, unequal⟩)
  · intro h rank size
    refine ⟨exists_not_declares, fun unequal => ?_⟩
    rcases h with integers | other
    · obtain ⟨j, hj, unequal⟩ := unequal
      obtain ⟨m, declares⟩ := integers j hj
      exact ⟨j, hj, m, fun same => unequal (same ▸ declares), declares⟩
    · exact other

/-! ## 4. Comparisons as they are written -/

theorem IsCondition.compareNumber (compiled : Expr.compile path = .ok x) (op : Comparison)
    (read : Text.readDigits literal.toList = some k) (hk : k < 2 ^ 63) :
    IsCondition (comparisonFilter path op literal) (.compare x.union op (.number k)) := by
  obtain ⟨us, lexes, derived⟩ := Expr.lexesAhead_of_compile compiled
  exact .of_lexes (lexes.comparisonFilter op (.digits read hk)).lexes
    (.noOr (.noAnd (.compareNumber (derived.append rfl))))

theorem IsCondition.compareText {q : Char} (compiled : Expr.compile path = .ok x)
    (equality : op.isEquality = true) (quote : q = '\x27' ∨ q = '\x22')
    (absent : q ∉ value.toList) :
    IsCondition (comparisonFilter path op (quoted q value))
      (.compare x.union op (.text value)) := by
  obtain ⟨us, lexes, derived⟩ := Expr.lexesAhead_of_compile compiled
  exact .of_lexes (lexes.comparisonFilter op (.quoted quote absent)).lexes
    (.noOr (.noAnd (.compareText (derived.append rfl) equality)))

/-- **What differs from a number is another integer.** For a path that is compiled and the digits of
    a number, the filter for a different value holds exactly where another integer is declared. So
    it does not hold where nothing but the number and values that are no integers is selected:
    there it is not the same as that something selected does not pass `. = n`, and if no integer at
    all is selected, the filter for the number does not hold either. Of texts between quotes the
    law holds. -/
theorem Expr.differs_from_number (compiled : Expr.compile path = .ok x)
    (read : Text.readDigits literal.toList = some k) (hk : k < 2 ^ 63) :
    (∃ same other own, IsCondition (comparisonFilter path .eq literal) same ∧
      IsCondition (comparisonFilter path .ne literal) other ∧
      IsCondition (comparisonFilter "." .eq literal) own ∧
      ∀ (doc : Document) (i : Item),
        (∀ rank size, other.holds doc i rank size = true ↔
          ∃ j ∈ x.select doc i, ∃ m : Int, m ≠ k ∧ j.Declares doc m) ∧
        (x.DiffersAsUnequal other own doc i ↔ (∀ j ∈ x.select doc i, ∃ m, j.Declares doc m) ∨
          ∃ j ∈ x.select doc i, ∃ m : Int, m ≠ k ∧ j.Declares doc m) ∧
        ∀ rank size, same.holds doc i rank size = true ∨ other.holds doc i rank size = true ↔
          ∃ j ∈ x.select doc i, ∃ m, j.Declares doc m) ∧
    ∀ (value : String) (q : Char), q = '\x27' ∨ q = '\x22' → q ∉ value.toList →
      ∃ other own, IsCondition (comparisonFilter path .ne (quoted q value)) other ∧
        IsCondition (comparisonFilter "." .eq (quoted q value)) own ∧
        ∀ (doc : Document) (i : Item), x.DiffersAsUnequal other own doc i := by
  constructor
  · refine ⟨_, _, _, .compareNumber compiled .eq read hk, .compareNumber compiled .ne read hk,
      .compareNumber compile_itself .eq read hk, fun doc i => ?_⟩
    exact ⟨fun _ _ => Filter.holds_ne_number_iff, Expr.differsAsUnequal_number_iff,
      fun _ _ => Filter.holds_eq_or_ne_number_iff⟩
  · intro value q quote absent
    exact ⟨_, _, .compareText compiled rfl quote absent,
      .compareText compile_itself rfl quote absent, fun doc i => Expr.differsAsUnequal_text⟩

/-- The expression `@pages`. -/
def pagesExpr : Expr :=
  ⟨"@pages", [⟨false, [⟨.attribute, .name "pages", []⟩]⟩]⟩

theorem compile_pagesExpr : Expr.compile "@pages" = .ok pagesExpr :=
  Expr.compile_eq_ok_iff.mpr ⟨rfl, [⟨.atSign, 0⟩, ⟨.name "pages", 1⟩], by decide +kernel,
    readAll_eq_ok_iff.mpr (.single (.relative (.last (.atSign .name .noFilter))))⟩

/-- A count of pages, as it is declared. -/
def counted (pages : String) : Document :=
  .ofElement { name := "counts", attributes := Attributes.none.insert "pages" pages }

theorem Expr.differs_from_number_pages : Expr.compile "@pages" = .ok pagesExpr ∧
    Text.readDigits "012".toList = some 12 ∧
    ∃ other, IsCondition "@pages != 012" other ∧
      other.holds (counted " 13 ") (.node 1) 1 1 = true ∧
      other.holds (counted "12") (.node 1) 1 1 = false := by
  have read : Text.readDigits "012".toList = some 12 := by decide +kernel
  obtain ⟨⟨_, other, _, _, condition, _, holds⟩, _⟩ :=
    Expr.differs_from_number compile_pagesExpr read (by decide)
  have thirteen : (Item.attribute 1 "pages").Declares (counted " 13 ") 13 := by decide +kernel
  have twelve : (Item.attribute 1 "pages").Declares (counted "12") 12 := by decide +kernel
  have selected : ∀ pages, pagesExpr.select (counted pages) (.node 1) = [.attribute 1 "pages"] := by
    intro pages
    rfl
  refine ⟨compile_pagesExpr, read, other, condition, ?_, ?_⟩
  · refine ((holds _ _).1 1 1).mpr ⟨_, ?_, 13, by decide, thirteen⟩
    rw [selected]
    exact List.mem_singleton_self _
  · rw [← Bool.not_eq_true, (holds _ _).1]
    rintro ⟨j, hj, m, differs, declares⟩
    rw [selected, List.mem_singleton] at hj
    subst hj
    exact differs (declares.unique twelve)

/-- **What is no integer neither equals a number nor differs from it.** Of `many` pages neither
    filter holds, though the attribute does not pass `. = 1`. -/
theorem Expr.undeclared_not_different :
    ∃ same other own, IsCondition "@pages = 1" same ∧ IsCondition "@pages != 1" other ∧
      IsCondition ". = 1" own ∧
      pagesExpr.select (counted "many") (.node 1) = [.attribute 1 "pages"] ∧
      own.holds (counted "many") (.attribute 1 "pages") 1 1 = false ∧
      same.holds (counted "many") (.node 1) 1 1 = false ∧
      other.holds (counted "many") (.node 1) 1 1 = false ∧
      ¬ pagesExpr.DiffersAsUnequal other own (counted "many") (.node 1) := by
  have read : Text.readDigits "1".toList = some 1 := by decide +kernel
  have selected : pagesExpr.select (counted "many") (.node 1) = [.attribute 1 "pages"] := rfl
  have unequal : (Filter.compare itself.union .eq (.number 1)).holds (counted "many")
      (.attribute 1 "pages") 1 1 = false := by decide +kernel
  have unnoticed : (Filter.compare pagesExpr.union .ne (.number 1)).holds (counted "many")
      (.node 1) 1 1 = false := by decide +kernel
  refine ⟨_, _, _, .compareNumber compile_pagesExpr .eq read (by decide),
    .compareNumber compile_pagesExpr .ne read (by decide),
    .compareNumber compile_itself .eq read (by decide), selected, unequal, by decide +kernel,
    unnoticed, fun law => ?_⟩
  have noticed := (law 1 1).mpr ⟨.attribute 1 "pages", by simp [selected], unequal⟩
  exact Bool.false_ne_true (unnoticed.symm.trans noticed)

end Path

end MarkupRules
