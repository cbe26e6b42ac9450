import MarkupRules.Proofs.Text.Search
import Mathlib.Data.List.Chain
import Mathlib.Data.List.TakeWhile

/-!
# Words and normal forms

A text is cut into words by one pass over it that keeps the open word backwards. What comes out can
be said without the pass.

* `piecesBetweenBlanks` -- the text split at every blank, the empty pieces left out;
* `words_eq_piecesBetweenBlanks` -- **these are the words**;
* `IsWord`, `words_intercalate` -- **words that are joined by spaces** are the words of what they
  make;
* `SingleSpaced`, `singleSpaced_normalizeSpace` -- **a text in normal form** has no blanks at its
  ends or side by side;
* `normalizeSpace_eq_iff` -- **two texts have one normal form** exactly if they have the same words;
* `isBlankText_iff_trim_eq_nil`, `normalizeSpace_eq_empty_iff` -- a text is blank if trimming leaves
  nothing of it, or if its normal form is empty.
-/

namespace MarkupRules.Text

variable {c : Char} {w word cs ds : List Char} {ws : List (List Char)} {s a b : String}

/-! ## 1. Words -/

/-- The pieces of a text between its blanks, the empty ones left out. -/
def piecesBetweenBlanks (cs : List Char) : List (List Char) :=
  (cs.splitOnP isBlank).filter fun piece => !piece.isEmpty

/-- The pass with a word open. Splitting keeps the open piece backwards as well. -/
theorem wordsFrom_eq_filter : wordsFrom word cs =
    (List.splitOnPPrepend isBlank cs word).filter fun piece => !piece.isEmpty := by
  fun_induction wordsFrom word cs with
  | case1 word nothing => simp_all
  | case2 word opened => simp_all
  | case3 word c cs blank nothing ih =>
    rw [List.splitOnPPrepend_cons_pos blank, ih]
    simp_all
  | case4 word c cs blank opened ih =>
    rw [List.splitOnPPrepend_cons_pos blank, ih]
    simp_all
  | case5 word c cs noBlank ih =>
    rw [List.splitOnPPrepend_cons_neg (Bool.eq_false_iff.mpr noBlank), ih]

/-- **The words of a text** are its pieces between blanks. -/
theorem words_eq_piecesBetweenBlanks (cs : List Char) : words cs = piecesBetweenBlanks cs :=
  wordsFrom_eq_filter

/-- A blank stands between words. -/
theorem words_append_cons (blank : isBlank c = true) :
    words (ds ++ c :: cs) = words ds ++ words cs := by
  simp only [words_eq_piecesBetweenBlanks, piecesBetweenBlanks]
  rw [List.splitOnP_append_cons ds cs blank, List.filter_append]

theorem wordsFrom_eq_nil_iff :
    wordsFrom word cs = [] ↔ word = [] ∧ ∀ c ∈ cs, isBlank c = true := by
  fun_induction wordsFrom word cs <;> simp_all

/-- A text has no words exactly if all of it is blank. -/
theorem words_eq_nil_iff : words cs = [] ↔ ∀ c ∈ cs, isBlank c = true :=
  wordsFrom_eq_nil_iff.trans (and_iff_right rfl)

/-- A word is not empty and holds no blank. -/
def IsWord (w : List Char) : Prop :=
  w ≠ [] ∧ ∀ c ∈ w, isBlank c = false

theorem isWord_of_mem_wordsFrom (opened : ∀ c ∈ word, isBlank c = false)
    (h : w ∈ wordsFrom word cs) : IsWord w := by
  -- a word is closed as it was opened, the other way round
  have closed : ∀ {word : List Char}, word.isEmpty ≠ true → (∀ c ∈ word, isBlank c = false) →
      IsWord word.reverse := by
    intro word nonempty opened
    exact ⟨by simpa using nonempty, fun c hc => opened c (List.mem_reverse.mp hc)⟩
  fun_induction wordsFrom word cs with
  | case1 word nothing => cases h
  | case2 word nonempty =>
    rw [List.mem_singleton.mp h]
    exact closed nonempty opened
  | case3 word c cs blank nothing ih => exact ih nofun h
  | case4 word c cs blank nonempty ih =>
    rcases List.mem_cons.mp h with rfl | later
    · exact closed nonempty opened
    · exact ih nofun later
  | case5 word c cs noBlank ih =>
    exact ih (List.forall_mem_cons.mpr ⟨Bool.eq_false_iff.mpr noBlank, opened⟩) h

theorem isWord_of_mem_words (h : w ∈ words cs) : IsWord w :=
  isWord_of_mem_wordsFrom (fun _ hc => absurd hc List.not_mem_nil) h

theorem IsWord.words_eq (h : IsWord w) : words w = [w] := by
  rw [words_eq_piecesBetweenBlanks, piecesBetweenBlanks, List.splitOnP_eq_singleton h.2]
  simpa using h.1

/-- **Words that are joined by spaces** are the words of the text they make. -/
theorem words_intercalate : ∀ {ws : List (List Char)}, (∀ w ∈ ws, IsWord w) →
    words ([' '].intercalate ws) = ws
  | [], _ => rfl
  | [w], h => by
    rw [List.intercalate_singleton, (h w List.mem_cons_self).words_eq]
  | w :: next :: ws, h => by
    obtain ⟨first, others⟩ := List.forall_mem_cons.mp h
    have space : isBlank ' ' = true := by decide
    rw [List.intercalate_cons_cons, List.append_assoc, List.singleton_append,
      words_append_cons space, first.words_eq, words_intercalate others]
    rfl

/-! ## 2. Texts without blanks to spare -/

/-- A text without blanks at its ends, and without two of them side by side. -/
structure SingleSpaced (cs : List Char) : Prop where
  first : ∀ c ∈ cs.head?, isBlank c = false
  last : ∀ c ∈ cs.getLast?, isBlank c = false
  apart : cs.IsChain fun c d => isBlank c = false ∨ isBlank d = false

theorem IsWord.singleSpaced (h : IsWord w) : SingleSpaced w where
  first c hc := h.2 c (List.mem_of_mem_head? hc)
  last c hc := h.2 c (List.mem_of_mem_getLast? hc)
  apart := List.Pairwise.isChain (List.pairwise_of_forall_mem_list fun c hc _ _ => .inl (h.2 c hc))

/-- A word and a space in front of such a text. -/
theorem SingleSpaced.append_cons (h : IsWord w) (hcs : SingleSpaced cs) (more : cs ≠ []) :
    SingleSpaced (w ++ ' ' :: cs) := by
  obtain ⟨d, rest, rfl⟩ := List.exists_cons_of_ne_nil more
  refine ⟨fun c hc => ?_, fun c hc => ?_, ?_⟩
  · rw [List.head?_append_of_ne_nil _ h.1] at hc
    exact h.singleSpaced.first c hc
  · rw [List.getLast?_append_cons, List.getLast?_cons_cons] at hc
    exact hcs.last c hc
  · have behind : (' ' :: d :: rest).IsChain fun c d => isBlank c = false ∨ isBlank d = false :=
      List.isChain_cons_cons.mpr ⟨.inr (hcs.first d rfl), hcs.apart⟩
    exact List.isChain_append.mpr ⟨h.singleSpaced.apart, behind, fun c hc _ _ =>
      .inl (h.singleSpaced.last c hc)⟩

theorem singleSpaced_intercalate : ∀ {ws : List (List Char)}, (∀ w ∈ ws, IsWord w) →
    SingleSpaced ([' '].intercalate ws)
  | [], _ => ⟨nofun, nofun, .nil⟩
  | [w], h => by
    rw [List.intercalate_singleton]
    exact (h w List.mem_cons_self).singleSpaced
  | w :: next :: ws, h => by
    obtain ⟨first, others⟩ := List.forall_mem_cons.mp h
    have more : [' '].intercalate (next :: ws) ≠ [] := by
      intro nothing
      have read := words_intercalate others
      rw [nothing] at read
      cases read
    rw [List.intercalate_cons_cons, List.append_assoc, List.singleton_append]
    exact .append_cons first (singleSpaced_intercalate others) more

/-! ## 3. Normal forms -/

/-- Putting a text in normal form keeps its words. -/
theorem words_normalizeSpace (s : String) : words (normalizeSpace s).toList = words s.toList := by
  rw [normalizeSpace, String.toList_ofList, words_intercalate fun _ => isWord_of_mem_words]

/-- **A text in normal form** has no blanks to spare. -/
theorem singleSpaced_normalizeSpace (s : String) : SingleSpaced (normalizeSpace s).toList := by
  rw [normalizeSpace, String.toList_ofList]
  exact singleSpaced_intercalate fun _ => isWord_of_mem_words

/-- **Two texts have one normal form** exactly if they have the same words. -/
theorem normalizeSpace_eq_iff :
    normalizeSpace a = normalizeSpace b ↔ words a.toList = words b.toList := by
  constructor
  · intro same
    rw [← words_normalizeSpace a, same, words_normalizeSpace]
  · intro same
    rw [normalizeSpace, same, normalizeSpace]

/-- A normal form is its own normal form. -/
theorem normalizeSpace_normalizeSpace (s : String) :
    normalizeSpace (normalizeSpace s) = normalizeSpace s :=
  normalizeSpace_eq_iff.mpr (words_normalizeSpace s)

/-! ## 4. Blank texts -/

theorem isBlankText_iff : isBlankText s = true ↔ ∀ c ∈ s.toList, isBlank c = true :=
  List.all_eq_true

/-- Trimming leaves nothing of a blank text, and of no other. -/
theorem isBlankText_iff_trim_eq_nil : isBlankText s = true ↔ trim s.toList = [] := by
  rw [isBlankText_iff]
  constructor
  · intro blank
    have nothing : trimLeft s.toList = [] := List.dropWhile_eq_nil_iff.mpr blank
    rw [trim, nothing]
    rfl
  · intro nothing c hc
    by_contra noBlank
    have kept := mem_trim (Bool.eq_false_iff.mpr noBlank) hc
    rw [nothing] at kept
    cases kept

/-- The normal form of a blank text is empty, and that of no other. -/
theorem normalizeSpace_eq_empty_iff : normalizeSpace s = "" ↔ isBlankText s = true := by
  have empty : normalizeSpace "" = "" := rfl
  rw [isBlankText_iff, ← words_eq_nil_iff]
  exact empty ▸ normalizeSpace_eq_iff

/-- Texts that are joined are blank together if each of them is. -/
theorem isBlankText_join {parts : List String} :
    isBlankText (String.join parts) = true ↔ ∀ part ∈ parts, isBlankText part = true := by
  simp only [isBlankText_iff, String.toList_join, List.mem_flatMap]
  constructor
  · intro h part hpart c hc
    exact h c ⟨part, hpart, hc⟩
  · intro h c hc
    obtain ⟨part, hpart, hc⟩ := hc
    exact h part hpart c hc

end MarkupRules.Text
