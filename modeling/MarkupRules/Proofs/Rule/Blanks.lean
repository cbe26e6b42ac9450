import MarkupRules.Proofs.Path.Sources
import MarkupRules.Proofs.Rule.Truth
import MarkupRules.Proofs.Text.Words

/-!
# Blank items

A rule may have blank items count as missing. On most forms of predicates this acts in one
direction only: a predicate is easier to pass with the blank items, or without them.

* `Item.parseInteger_of_isBlank` -- a blank item declares no integer;
* `Scope.Declares.withoutBlanks` -- **integers are declared by the same items**, whether blank ones
  count or not;
* `Polarity`, `Predicate.Polar` -- the two directions, and the predicates that have one of them;
* `Predicate.Polar.isTrue` -- **a predicate stays true in its direction**;
* `Predicate.blank_flag_has_polarity` -- the same for verdicts.
-/

namespace MarkupRules

variable {doc : Document} {i context : Item} {x : Path.Expr} {p : Predicate}

/-! ## 1. Blank items declare nothing -/

theorem Text.parseInteger_of_isBlankText {v : String} (h : isBlankText v = true) :
    parseInteger v = none := by
  rw [parseInteger, isBlankText_iff_trim_eq_nil.mp h]
  rfl

/-- The value of a blank item holds nothing but blanks, whatever kind of item it is. -/
theorem Item.isBlankText_of_isBlank (h : i.isBlank doc = true) :
    Text.isBlankText (i.stringValue doc) = true := by
  rcases i with id | ⟨owner, name⟩
  · rw [Item.isBlank] at h
    split at h
    · rename_i content kind
      have text : doc.text? id = some content := by rw [Document.text?, kind]
      rw [Item.stringValue, Document.stringValue, text]
      exact h
    · rw [Bool.and_eq_true] at h
      exact h.2
    · cases h
  · exact h

/-- **A blank item declares no integer.** -/
theorem Item.parseInteger_of_isBlank (h : i.isBlank doc = true) :
    Text.parseInteger (i.stringValue doc) = none :=
  Text.parseInteger_of_isBlankText (Item.isBlankText_of_isBlank h)

/-- What is present without the blank items is present with them. -/
theorem Scope.Present.withBlanks (h : (Scope.mk doc true).Present context x i) :
    (Scope.mk doc false).Present context x i :=
  ⟨h.1, nofun⟩

/-- **Integers are declared by the same items**, whether blank ones count or not: where one of them
    is blank, nothing is declared. -/
theorem Scope.Declares.withoutBlanks {ns : List Int}
    (h : (Scope.mk doc false).Declares context x ns) :
    (Scope.mk doc true).Declares context x ns := by
  have allItems : (Scope.mk doc false).presentItems context x = x.select doc context := rfl
  obtain ⟨nonempty, integers⟩ := h
  rw [allItems] at integers
  have noBlank : ∀ i ∈ x.select doc context, (!i.isBlank doc) = true := by
    intro i hi
    rw [Bool.not_eq_true', ← Bool.not_eq_true]
    intro blank
    have listed := List.mem_map_of_mem (f := fun i => Text.parseInteger (i.stringValue doc)) hi
    rw [integers, Item.parseInteger_of_isBlank blank] at listed
    obtain ⟨n, _, integer⟩ := List.mem_map.mp listed
    cases integer
  have kept : (Scope.mk doc true).presentItems context x = x.select doc context :=
    List.filter_eq_self.mpr noBlank
  exact ⟨nonempty, by rw [kept, integers]⟩

/-! ## 2. The two directions -/

/-- The direction in which blank items act on a predicate. -/
inductive Polarity where
  /-- True without blank items, it is true with them. -/
  | shrinking
  /-- True with blank items, it is true without them. -/
  | growing
  deriving DecidableEq, Repr

namespace Polarity

/-- The other direction. -/
def flip : Polarity → Polarity
  | .shrinking => .growing
  | .growing => .shrinking

theorem flip_flip (d : Polarity) : d.flip.flip = d := by
  cases d <;> rfl

/-- The scope in which predicates of this direction are harder to pass. -/
def hardScope (doc : Document) : Polarity → Scope
  | .shrinking => ⟨doc, true⟩
  | .growing => ⟨doc, false⟩

/-- The scope in which predicates of this direction are easier to pass. -/
def easyScope (doc : Document) (d : Polarity) : Scope :=
  d.flip.hardScope doc

end Polarity

/-- The predicates that have a direction. Negations and the conditions of conditionals turn it
    around; a count does not look at blanks and has both. -/
inductive Predicate.Polar : Polarity → Predicate → Prop where
  | present {path} : Polar .shrinking (.present path)
  | absent {path} : Polar .growing (.absent path)
  | compareAny {path value mode} : Polar .shrinking (.compare path value .any mode false)
  | compareAll {path value mode} : Polar .growing (.compare path value .all mode true)
  | count {d path condition} : Polar d (.count path condition)
  | countEquals {declared counted} : Polar .growing (.countEquals declared counted)
  | spanEquals {declared first last} : Polar .growing (.spanEquals declared first last)
  | all {d parts} : (∀ p ∈ parts, Polar d p) → Polar d (.all parts)
  | any {d parts} : (∀ p ∈ parts, Polar d p) → Polar d (.any parts)
  | not {d inner} : Polar d.flip inner → Polar d (.not inner)
  | when {d condition consequence} : Polar d.flip condition → Polar d consequence →
      Polar d (.when condition consequence)

/-! ## 3. Predicates stay true -/

/-- **A predicate stays true in its direction.** By induction on the way the predicate is built;
    negations use the induction hypothesis the other way round. -/
theorem Predicate.Polar.isTrue {d : Polarity} (h : p.Polar d)
    (hard : p.IsTrue (d.hardScope doc) context) : p.IsTrue (d.easyScope doc) context := by
  induction h with
  | present =>
    obtain ⟨i, hi⟩ := hard
    exact ⟨i, hi.withBlanks⟩
  | absent =>
    rintro ⟨i, hi⟩
    exact hard ⟨i, hi.withBlanks⟩
  | compareAny =>
    rcases hard with ⟨_, allowed⟩ | ⟨_, i, hi, accepted⟩
    · cases allowed
    · exact .inr ⟨⟨i, hi.withBlanks⟩, i, hi.withBlanks, accepted⟩
  | @compareAll x value mode =>
    by_cases some : ∃ i, (Scope.mk doc true).Present context x i
    · obtain ⟨i, hi⟩ := some
      rcases hard with ⟨nothing, _⟩ | ⟨_, accepted⟩
      · exact absurd ⟨i, hi.withBlanks⟩ nothing
      · exact .inr ⟨⟨i, hi⟩, fun j hj => accepted j hj.withBlanks⟩
    · exact .inl ⟨some, rfl⟩
  | @count d path condition => cases d <;> exact hard
  | countEquals =>
    obtain ⟨ns, declares, counted⟩ := hard
    exact ⟨ns, declares.withoutBlanks, counted⟩
  | spanEquals =>
    obtain ⟨ns, a, as, b, bs, declares, first, last, spans⟩ := hard
    exact ⟨ns, a, as, b, bs, declares.withoutBlanks, first.withoutBlanks, last.withoutBlanks, spans⟩
  | all _ ih =>
    rw [Predicate.IsTrue, allTrue_iff] at hard ⊢
    exact fun p hp => ih p hp (hard p hp)
  | any _ ih =>
    rw [Predicate.IsTrue, someTrue_iff] at hard ⊢
    obtain ⟨p, hp, true⟩ := hard
    exact ⟨p, hp, ih p hp true⟩
  | @not d inner _ ih =>
    rw [Polarity.easyScope, d.flip_flip] at ih
    exact fun inside => hard (ih inside)
  | @«when» d condition consequence _ _ ihCondition ihConsequence =>
    rw [Polarity.easyScope, d.flip_flip] at ihCondition
    exact fun met => ihConsequence (hard (ihCondition met))

/-- A verdict that passes goes on passing in the direction of its predicate. -/
theorem Predicate.Polar.passed {d : Polarity} (h : p.Polar d)
    (hard : (p.verdict (d.hardScope doc) context).passed = true) :
    (p.verdict (d.easyScope doc) context).passed = true := by
  rw [Predicate.passed_verdict, Predicate.holds_iff_isTrue] at hard ⊢
  exact h.isTrue hard

/-- **That blank items count as missing acts in one direction.** A shrinking predicate that passes
    with the blank items missing passes with them present, and a growing one that passes with them
    present passes with them missing. -/
theorem Predicate.blank_flag_has_polarity (doc : Document) (context : Item) (p : Predicate) :
    (p.Polar .shrinking → (p.verdict ⟨doc, true⟩ context).passed = true →
      (p.verdict ⟨doc, false⟩ context).passed = true) ∧
    (p.Polar .growing → (p.verdict ⟨doc, false⟩ context).passed = true →
      (p.verdict ⟨doc, true⟩ context).passed = true) :=
  ⟨fun shrinking => shrinking.passed, fun growing => growing.passed⟩

/-- There is a title. -/
def titled : Predicate :=
  .present Path.titleExpr

/-- There is a title, if only one that does not count as present. -/
def titleOrBlank : Predicate :=
  .when (.absent Path.titleExpr) (.count Path.titleExpr (.atLeast 1))

/-- No title is that of an annex. -/
def noAnnex : Predicate :=
  .not (.compare Path.titleExpr (.text "Annex") .any .exact false)

theorem Predicate.blank_flag_has_polarity_titles :
    titleOrBlank.Polar .shrinking ∧ noAnnex.Polar .growing ∧
    (titleOrBlank.verdict ⟨.ofElement Path.titledSections, true⟩ (.node 1)).passed = true ∧
    (titleOrBlank.verdict ⟨.ofElement Path.titledSections, false⟩ (.node 1)).passed = true ∧
    (noAnnex.verdict ⟨.ofElement Path.titledSections, false⟩ (.node 1)).passed = true ∧
    (noAnnex.verdict ⟨.ofElement Path.titledSections, true⟩ (.node 1)).passed = true := by
  have shrinking : titleOrBlank.Polar .shrinking := .when .absent .count
  have growing : noAnnex.Polar .growing := .not .compareAny
  have hard : (titleOrBlank.verdict ⟨.ofElement Path.titledSections, true⟩ (.node 1)).passed =
      true := by decide +kernel
  have hard' : (noAnnex.verdict ⟨.ofElement Path.titledSections, false⟩ (.node 1)).passed =
      true := by decide +kernel
  exact ⟨shrinking, growing, hard, (blank_flag_has_polarity _ _ _).1 shrinking hard, hard',
    (blank_flag_has_polarity _ _ _).2 growing hard'⟩

-- the title of the outer section is blank, so the direction of presence cannot be turned around
example : (titled.verdict ⟨.ofElement Path.titledSections, false⟩ (.node 1)).passed = true ∧
    (titled.verdict ⟨.ofElement Path.titledSections, true⟩ (.node 1)).passed = false := by
  decide +kernel

end MarkupRules
