import MarkupRules.Proofs.Document.Subtree
import MarkupRules.Proofs.Text.Words
import MarkupRules.Rule.Predicate

/-!
# Blanks in values and in items

Values are compared word by word in one of the match modes, and items count as missing if they are
blank. Both look at blanks, and in the same way.

* `MatchMode.agree_normalizeSpace` -- **two texts agree word by word**;
* `Document.elementChildren_eq_nil_iff` -- what an element without child elements has below it;
* `Item.isBlank_attribute`, `Item.isBlank_of_isText` -- **an attribute or a text is blank** if its
  normal form is empty;
* `Item.isBlank_of_isElement` -- **an element is blank** if it has no attributes and nothing but
  blank texts below it;
* `Item.blanks_coherent` -- all of these at once.
-/

namespace MarkupRules

variable {doc : Document} {id c : NodeId} {a b : String}

/-! ## 1. Values -/

/-- **Two texts agree word by word** if the pieces between their blanks are the same. -/
theorem MatchMode.agree_normalizeSpace : MatchMode.normalizeSpace.agree a b = true ↔
    Text.piecesBetweenBlanks a.toList = Text.piecesBetweenBlanks b.toList := by
  rw [← Text.words_eq_piecesBetweenBlanks, ← Text.words_eq_piecesBetweenBlanks,
    ← Text.normalizeSpace_eq_iff]
  exact beq_iff_eq

/-! ## 2. Children -/

namespace Document

theorem exists_of_isText (h : doc.isText id = true) :
    ∃ content, doc.kind? id = some (.text content) := by
  unfold isText at h
  split at h
  · exact ⟨_, by assumption⟩
  · cases h

theorem exists_of_isElement (h : doc.isElement id = true) :
    ∃ name own, doc.kind? id = some (.element name own) := by
  unfold isElement at h
  split at h
  · exact ⟨_, _, by assumption⟩
  · cases h

/-- A child is a text unless it is an element. -/
theorem isText_of_mem_children (h : c ∈ doc.children id) : doc.isText c = !doc.isElement c := by
  obtain ⟨e, rfl⟩ := doc.exists_eq_ofElement
  obtain ⟨q, d, hd, rfl⟩ := (Inner.child h).exists_place
  have kind := kind?_below (index_documentElement e).1 (List.cons_ne_nil 0 []) hd
  rw [isText, isElement, kind]
  cases d <;> rfl

/-- Without child elements, there are only texts directly below a node. -/
theorem elementChildren_eq_nil_iff :
    doc.elementChildren id = [] ↔ ∀ c ∈ doc.children id, doc.isText c = true := by
  rw [elementChildren, List.filter_eq_nil_iff]
  refine forall₂_congr fun c hc => ?_
  rw [isText_of_mem_children hc, Bool.not_eq_true', Bool.not_eq_true]

end Document

/-! ## 3. Items -/

namespace Item

/-- **An attribute is blank** if the normal form of its value is empty. -/
theorem isBlank_attribute {owner : NodeId} {name : String} :
    (Item.attribute owner name).isBlank doc = true ↔
      Text.normalizeSpace ((Item.attribute owner name).stringValue doc) = "" :=
  Text.normalizeSpace_eq_empty_iff.symm

/-- **A text is blank** if the normal form of its value is empty. -/
theorem isBlank_of_isText (h : doc.isText id = true) : (Item.node id).isBlank doc = true ↔
    Text.normalizeSpace ((Item.node id).stringValue doc) = "" := by
  obtain ⟨content, kind⟩ := Document.exists_of_isText h
  have own : doc.stringValue id = content := by rw [Document.stringValue, Document.text?, kind]
  rw [Text.normalizeSpace_eq_empty_iff, Item.isBlank, kind, stringValue, own]

/-- **An element is blank** if it has no attributes and nothing but blank texts below it. Its own
    value is that of its children, joined. -/
theorem isBlank_of_isElement (h : doc.isElement id = true) : (Item.node id).isBlank doc = true ↔
    doc.attributes id = [] ∧
      ∀ c ∈ doc.children id, doc.isText c = true ∧ (Item.node c).isBlank doc = true := by
  obtain ⟨name, own, kind⟩ := Document.exists_of_isElement h
  have listed : doc.attributes id = own.entries := by rw [Document.attributes, kind]
  have noText : doc.isText id = false := Document.isText_eq_false (.inr h)
  have blank : (Item.node id).isBlank doc = true ↔ doc.attributes id = [] ∧
      (∀ c ∈ doc.children id, doc.isText c = true) ∧
        ∀ c ∈ doc.children id, Text.isBlankText (doc.stringValue c) = true := by
    rw [Item.isBlank, kind]
    simp only [Bool.and_eq_true, List.isEmpty_iff, and_assoc]
    rw [listed, Document.elementChildren_eq_nil_iff, Document.stringValue_eq_join noText,
      Text.isBlankText_join, List.forall_mem_map]
  rw [blank, ← forall₂_and]
  refine and_congr_right fun _ => forall₂_congr fun c _ => and_congr_right fun text => ?_
  rw [isBlank_of_isText text, Text.normalizeSpace_eq_empty_iff]
  rfl

/-- **Values and items look at blanks in the same way.** A normal form is its own normal form and
    has no blanks to spare, and texts agree word by word if the pieces between their blanks are the
    same. An attribute or a text is blank if the normal form of its value is empty; an element, if
    it has no attributes and each of its children is a blank text. -/
theorem blanks_coherent (a b : String) (doc : Document) :
    (Text.normalizeSpace (Text.normalizeSpace a) = Text.normalizeSpace a ∧
      Text.SingleSpaced (Text.normalizeSpace a).toList) ∧
    (MatchMode.normalizeSpace.agree a b = true ↔
      Text.piecesBetweenBlanks a.toList = Text.piecesBetweenBlanks b.toList) ∧
    (∀ owner name, (Item.attribute owner name).isBlank doc = true ↔
      Text.normalizeSpace ((Item.attribute owner name).stringValue doc) = "") ∧
    (∀ id, doc.isText id = true → ((Item.node id).isBlank doc = true ↔
      Text.normalizeSpace ((Item.node id).stringValue doc) = "")) ∧
    ∀ id, doc.isElement id = true → ((Item.node id).isBlank doc = true ↔
      doc.attributes id = [] ∧
        ∀ c ∈ doc.children id, doc.isText c = true ∧ (Item.node c).isBlank doc = true) := by
  have normal : Text.normalizeSpace (Text.normalizeSpace a) = Text.normalizeSpace a ∧
      Text.SingleSpaced (Text.normalizeSpace a).toList :=
    ⟨Text.normalizeSpace_normalizeSpace a, Text.singleSpaced_normalizeSpace a⟩
  exact ⟨normal, MatchMode.agree_normalizeSpace, fun _ _ => isBlank_attribute,
    fun _ text => isBlank_of_isText text, fun _ element => isBlank_of_isElement element⟩

/-- A note with two blank texts in a row, one with an attribute, and one with a text. -/
def notes : Element where
  name := "notes"
  children := [
    .element "note" .none [.text " ", .text "\n\t"],
    .element "note" (Attributes.none.insert "id" "a") [],
    .text " x "]

theorem blanks_coherent_notes :
    MatchMode.normalizeSpace.agree "  two\n words " "two words" = true ∧
    (Document.ofElement notes).isText 6 = true ∧
    (Item.node 6).isBlank (.ofElement notes) = false ∧
    (Document.ofElement notes).isElement 2 = true ∧
    (Item.node 2).isBlank (.ofElement notes) = true ∧
    (Document.ofElement notes).isElement 5 = true ∧
    (Item.node 5).isBlank (.ofElement notes) = false := by
  obtain ⟨_, agree, _, text, element⟩ :=
    blanks_coherent "  two\n words " "two words" (.ofElement notes)
  have six : (Document.ofElement notes).isText 6 = true := by decide +kernel
  have two : (Document.ofElement notes).isElement 2 = true := by decide +kernel
  have five : (Document.ofElement notes).isElement 5 = true := by decide +kernel
  refine ⟨agree.mpr (by decide +kernel), six, ?_, two, (element 2 two).mpr (by decide +kernel),
    five, ?_⟩
  · rw [← Bool.not_eq_true, text 6 six]
    decide +kernel
  · rw [← Bool.not_eq_true, element 5 five]
    decide +kernel

end Item

end MarkupRules
