import MarkupRules.Text.Blank
import MarkupRules.Text.Search
import Mathlib.Data.List.Infix

/-!
# What searches find

* `Text.eq_of_cut?`, `Text.cut?_eq_none_iff` -- a text is cut at an occurrence, if there is one;
* `Text.exists_cut?_append` -- **no occurrence is missed**: a text is cut at a given occurrence or
  before it;
* `Text.cut?_cons`, `Text.cut?_append` -- the search goes on, or it ends;
* `Text.replaceAll_cons`, `Text.replaceAll_append` -- a pattern is replaced where it is met, and
  what is no start of it stays;
* `Text.infix_trim` -- what is bounded by other characters than blanks survives trimming.
-/

namespace MarkupRules.Text

variable {pattern replacement cs before after : List Char} {c : Char}

/-! ## 1. The first occurrence -/

/-- A text is cut at an occurrence of the pattern. -/
theorem eq_of_cut? : ∀ {cs before after : List Char}, cut? pattern cs = some (before, after) →
    cs = before ++ (pattern ++ after)
  | [], before, after, h => by
    unfold cut? at h
    split at h
    · rename_i hp
      cases h
      rw [List.isEmpty_iff.mp hp]
      rfl
    · cases h
  | c :: rest, before, after, h => by
    unfold cut? at h
    split at h
    · rename_i hp
      cases h
      exact List.prefix_append_drop (List.isPrefixOf_iff_prefix.mp hp)
    · obtain ⟨⟨b, a⟩, hcut, heq⟩ := Option.map_eq_some_iff.mp h
      cases heq
      rw [List.cons_append, ← eq_of_cut? hcut]

/-- **No occurrence is missed.** Where the pattern occurs, the text is cut there or, `skipped`
    being what lies between, at an earlier place. -/
theorem exists_cut?_append (nonempty : pattern ≠ []) (after : List Char) :
    ∀ before : List Char, ∃ b a skipped, cut? pattern (before ++ (pattern ++ after)) = some (b, a) ∧
      before = b ++ skipped ∧ pattern ++ a = skipped ++ (pattern ++ after)
  | [] => by
    refine ⟨[], after, [], ?_, rfl, rfl⟩
    obtain ⟨c, rest, rfl⟩ := List.exists_cons_of_ne_nil nonempty
    have here : (c :: rest).isPrefixOf (c :: (rest ++ after)) = true :=
      List.isPrefixOf_iff_prefix.mpr (List.prefix_append (c :: rest) after)
    show cut? (c :: rest) (c :: (rest ++ after)) = _
    unfold cut?
    rw [if_pos here]
    have passed : ((c :: rest) ++ after).drop (c :: rest).length = after := List.drop_left
    exact congrArg (fun a => some ([], a)) passed
  | c :: before => by
    rw [List.cons_append]
    unfold cut?
    split
    · rename_i hp
      exact ⟨[], _, c :: before, rfl, rfl,
        List.prefix_append_drop (List.isPrefixOf_iff_prefix.mp hp) |>.symm⟩
    · obtain ⟨b, a, skipped, hcut, split, rest⟩ := exists_cut?_append nonempty after before
      refine ⟨c :: b, a, skipped, ?_, by rw [split]; rfl, rest⟩
      rw [hcut]
      rfl

/-- A text is not cut if the pattern does not occur in it. -/
theorem cut?_eq_none_iff (nonempty : pattern ≠ []) : cut? pattern cs = none ↔ ¬ pattern <:+: cs := by
  constructor
  · intro h occurs
    obtain ⟨before, after, rfl⟩ := occurs
    obtain ⟨b, a, _, hcut, _⟩ := exists_cut?_append nonempty after before
    rw [List.append_assoc, hcut] at h
    cases h
  · intro h
    cases hcut : cut? pattern cs with
    | none => rfl
    | some parts => exact absurd ⟨parts.1, parts.2, by rw [eq_of_cut? hcut, List.append_assoc]⟩ h

/-- A pattern that is met at the start is where the text is cut. -/
theorem cut?_append (nonempty : pattern ≠ []) : cut? pattern (pattern ++ cs) = some ([], cs) := by
  obtain ⟨before, after, skipped, hcut, split, same⟩ := exists_cut?_append nonempty cs []
  obtain ⟨rfl, rfl⟩ := List.append_eq_nil_iff.mp split.symm
  rw [List.append_cancel_left same] at hcut
  exact hcut

/-- What is no start of the pattern is passed over. -/
theorem cut?_cons (h : ¬ pattern <+: c :: cs) :
    cut? pattern (c :: cs) = (cut? pattern cs).map fun (before, after) => (c :: before, after) := by
  rw [cut?, if_neg (by rwa [List.isPrefixOf_iff_prefix])]

/-- A text without the first character of the pattern is passed over. -/
theorem cut?_append_of_not_mem {first : Char} : ∀ {front : List Char}, first ∉ front →
    cut? (first :: pattern) (front ++ cs) =
      (cut? (first :: pattern) cs).map fun (before, after) => (front ++ before, after)
  | [], _ => Option.map_id'.symm
  | c :: front, plain => by
    have other : ¬ first :: pattern <+: c :: (front ++ cs) := by
      rintro ⟨behind, same⟩
      exact plain ((List.cons.inj same).1 ▸ List.mem_cons_self)
    rw [List.cons_append, cut?_cons other,
      cut?_append_of_not_mem fun met => plain (List.mem_cons_of_mem c met), Option.map_map]
    rfl

/-! ## 2. Replacement -/

theorem replaceAfter_length : ∀ (passed rest : List Char),
    replaceAfter pattern replacement passed.length (passed ++ rest) =
      replaceAfter pattern replacement 0 rest
  | [], rest => rfl
  | c :: passed, rest => by
    rw [List.length_cons, List.cons_append, replaceAfter, replaceAfter_length]

/-- A pattern that is met is replaced. -/
theorem replaceAll_append (nonempty : pattern ≠ []) :
    replaceAll pattern replacement (pattern ++ cs) =
      replacement ++ replaceAll pattern replacement cs := by
  obtain ⟨c, rest, rfl⟩ := List.exists_cons_of_ne_nil nonempty
  have here : (c :: rest).isPrefixOf (c :: (rest ++ cs)) = true :=
    List.isPrefixOf_iff_prefix.mpr (List.prefix_append (c :: rest) cs)
  rw [replaceAll, List.cons_append, replaceAfter, if_pos here]
  exact congrArg (replacement ++ ·) (replaceAfter_length rest cs)

/-- What is no start of the pattern stays. -/
theorem replaceAll_cons (h : ¬ pattern <+: c :: cs) : replaceAll pattern replacement (c :: cs) =
    c :: replaceAll pattern replacement cs := by
  rw [replaceAll, replaceAfter, if_neg (by rwa [List.isPrefixOf_iff_prefix])]
  rfl

/-! ## 3. Trimming -/

theorem infix_dropWhile {p : Char → Bool} : ∀ {middle : List Char},
    (∀ c ∈ middle.head?, p c = false) → middle <:+: cs → middle <:+: cs.dropWhile p
  | [], _, _ => List.nil_infix
  | c :: middle, starts, occurs => by
    obtain ⟨before, behind, rfl⟩ := occurs
    rw [List.append_assoc, List.dropWhile_append]
    split
    · rw [List.cons_append, List.dropWhile_cons_of_neg (by simp [starts c rfl])]
      exact ⟨[], behind, rfl⟩
    · exact ⟨_, behind, List.append_assoc ..⟩

/-- **What starts and ends with other characters than blanks survives trimming.** -/
theorem infix_trim {middle : List Char} (starts : ∀ c ∈ middle.head?, isBlank c = false)
    (ends : ∀ c ∈ middle.getLast?, isBlank c = false) (occurs : middle <:+: cs) :
    middle <:+: trim cs := by
  rw [trim, trimRight, ← List.reverse_infix, List.reverse_reverse]
  refine infix_dropWhile ?_ (List.reverse_infix.mpr (infix_dropWhile starts occurs))
  rwa [List.head?_reverse]

/-- Other characters than blanks survive trimming. -/
theorem mem_trim (h : isBlank c = false) (hc : c ∈ cs) : c ∈ trim cs := by
  obtain ⟨before, behind, rfl⟩ := List.append_of_mem hc
  have starts : ∀ d ∈ [c].head?, isBlank d = false := fun d hd => Option.mem_some.mp hd ▸ h
  have ends : ∀ d ∈ [c].getLast?, isBlank d = false := fun d hd => Option.mem_some.mp hd ▸ h
  have occurs : [c] <:+: before ++ c :: behind := ⟨before, behind, by simp⟩
  exact (infix_trim starts ends occurs).mem List.mem_cons_self

end MarkupRules.Text
