import MarkupRules.Proofs.Text.Search
import MarkupRules.Text.Lowercase

/-!
# Phrases in lower case

Whether a phrase occurs in the lower case of a text does not depend on where words end: only the
two forms of the small sigma do. So a text is searched part by part, if it is cut at a character
that belongs to no phrase.

* `fold` -- the lower case of a text, character by character, and `foldChar_of_ascii` -- what it is
  in ASCII;
* `infix_lowercase_iff` -- **a phrase without a sigma occurs in the lower case of a text if it
  occurs in what is folded**;
* `infix_append_cons_iff` -- a phrase occurs in front of a character that it lacks, or behind it.
-/

namespace MarkupRules.Text

variable {pattern cs before behind : List Char} {c : Char}

/-- What holds of each character of a text is decided on the text, and not on all characters. -/
instance decidableForallMem {p : Char → Prop} [DecidablePred p] {cs : List Char} :
    Decidable (∀ c ∈ cs, p c) :=
  List.decidableBAll p cs

/-- The lower case of a character, wherever it stands. -/
def foldChar (c : Char) : List Char :=
  if c = 'Σ' then ['σ'] else lowerChar c

/-- The lower case of a text, character by character. -/
def fold (cs : List Char) : List Char :=
  cs.flatMap foldChar

/-- **In ASCII only the capital letters are folded**: all other runs of case mappings start above
    it. -/
theorem foldChar_of_ascii (ascii : c.toNat < 0x80) : foldChar c = [c.toLower] := by
  have above : ∀ r ∈ caseRuns.tail, 0x80 ≤ r.first := by decide +kernel
  have noOther : caseRuns.tail.findSome? (·.lower? c.toNat) = none := by
    refine List.findSome?_eq_none_iff.mpr fun r hr => ?_
    have := above r hr
    rw [CaseRun.lower?, if_neg (by omega)]
  have first : caseRuns = ⟨0x41, 0x5a, 1, 0x61⟩ :: caseRuns.tail := rfl
  have noSigma : c ≠ 'Σ' := by
    rintro rfl
    exact absurd ascii (by decide)
  have all : ∀ n < 0x80, Char.ofNat (((CaseRun.mk 0x41 0x5a 1 0x61).lower? n).getD n) =
      (Char.ofNat n).toLower := by decide
  have own := all c.toNat ascii
  rw [Char.ofNat_toNat] at own
  rw [foldChar, if_neg noSigma, lowerChar, if_neg (by omega), first, List.findSome?_cons, noOther,
    ← own]
  cases (CaseRun.mk 0x41 0x5a 1 0x61).lower? c.toNat with
  | some n => rfl
  | none => rw [Option.getD_none, Char.ofNat_toNat]

/-- One form of the small sigma for both. -/
def oneSigma (c : Char) : Char :=
  if c = 'ς' then 'σ' else c

theorem map_oneSigma_lowercaseFrom : ∀ (before cs : List Char),
    (lowercaseFrom before cs).map oneSigma = (fold cs).map oneSigma
  | _, [] => rfl
  | before, c :: rest => by
    rw [lowercaseFrom, fold, List.flatMap_cons, List.map_append, List.map_append,
      map_oneSigma_lowercaseFrom (c :: before) rest]
    congr 1
    by_cases sigma : c = 'Σ'
    · rw [if_pos sigma, foldChar, if_pos sigma]
      split <;> rfl
    · rw [if_neg sigma, foldChar, if_neg sigma]

/-- A phrase without a sigma does not see which form the others have. -/
theorem infix_map_oneSigma_iff (plain : 'σ' ∉ pattern ∧ 'ς' ∉ pattern) :
    pattern <:+: cs.map oneSigma ↔ pattern <:+: cs := by
  have fixed : ∀ d, oneSigma d ∈ pattern → oneSigma d = d := by
    intro d hd
    rw [oneSigma] at hd ⊢
    split
    · rename_i last
      rw [if_pos last] at hd
      exact absurd hd plain.1
    · rfl
  have kept : ∀ l : List Char, (∀ d ∈ l, oneSigma d ∈ pattern) → l.map oneSigma = l := by
    intro l inside
    conv_rhs => rw [← List.map_id l]
    exact List.map_congr_left fun d hd => fixed d (inside d hd)
  constructor
  · intro occurs
    obtain ⟨front, last, whole⟩ := occurs
    obtain ⟨l, l₃, rfl, left, rfl⟩ := List.map_eq_append_iff.mp whole.symm
    obtain ⟨l₁, l₂, rfl, rfl, middle⟩ := List.map_eq_append_iff.mp left
    have same : l₂ = pattern := by
      rw [← middle, kept l₂ fun d hd => middle ▸ List.mem_map_of_mem hd]
    exact ⟨l₁, l₃, by rw [same]⟩
  · intro occurs
    have same : pattern.map oneSigma = pattern := by
      conv_rhs => rw [← List.map_id pattern]
      refine List.map_congr_left fun d hd => ?_
      have other : d ≠ 'ς' := by
        rintro rfl
        exact plain.2 hd
      rw [oneSigma, if_neg other]
      rfl
    exact same ▸ occurs.map oneSigma

/-- **A phrase without a sigma occurs in the lower case of a text if it occurs in what is
    folded.** -/
theorem infix_lowercase_iff (plain : 'σ' ∉ pattern ∧ 'ς' ∉ pattern) :
    pattern <:+: lowercase cs ↔ pattern <:+: fold cs := by
  rw [← infix_map_oneSigma_iff plain, lowercase, map_oneSigma_lowercaseFrom,
    infix_map_oneSigma_iff plain]

/-- What starts a text ends before a character that it lacks. -/
theorem prefix_of_prefix_append_cons (lacks : c ∉ pattern) (before : List Char)
    (h : pattern <+: before ++ c :: behind) : pattern <+: before := by
  have upto : before ++ [c] <+: before ++ c :: behind := ⟨behind, by simp⟩
  rcases List.prefix_or_prefix_of_prefix h upto with short | long
  · rcases List.prefix_concat_iff.mp short with rfl | short
    · exact absurd (List.mem_concat_self) lacks
    · exact short
  · exact absurd (long.subset List.mem_concat_self) lacks

/-- **A phrase occurs in front of a character that it lacks, or behind it.** -/
theorem infix_append_cons_iff (lacks : c ∉ pattern) : ∀ {before : List Char},
    pattern <:+: before ++ c :: behind ↔ pattern <:+: before ∨ pattern <:+: behind
  | [] => by
    rw [List.nil_append, List.infix_cons_iff]
    refine or_congr_left ⟨fun starts => ?_, fun occurs => ?_⟩
    · exact (prefix_of_prefix_append_cons lacks [] starts).isInfix
    · rw [List.infix_nil.mp occurs]
      exact List.nil_prefix
  | d :: before => by
    rw [List.cons_append, List.infix_cons_iff, List.infix_cons_iff, infix_append_cons_iff lacks,
      or_assoc]
    refine or_congr_left ⟨?_, fun starts => ?_⟩
    · exact prefix_of_prefix_append_cons lacks (d :: before)
    · exact starts.trans (List.prefix_append (d :: before) _)

end MarkupRules.Text
