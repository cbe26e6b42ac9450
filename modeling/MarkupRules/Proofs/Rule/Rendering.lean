import MarkupRules.Proofs.Text.Search
import MarkupRules.Rule.Message

/-!
# How a template is rendered

Rendering reads a template reference by reference, and fails at the first one that it cannot
replace. Escaped braces are marked before, so they are no part of any reference's braces.

* `replaceReferences_unfold` -- one reference of a text replaced;
* `readTexts` -- the texts that rendering looks up;
* `exists_of_mem_readTexts`, `readTexts_finds` -- a text that is looked up stands between double
  braces, and **one that does is looked up, or is part of one with a brace in it**;
* `replaceReferences_eq_error` -- **why rendering fails**.
-/

namespace MarkupRules

variable {cs before opened inner after t : List Char}

/-! ## 1. One reference -/

theorem replaceReferences_unfold (value : Reference → Except TemplateProblem String)
    (cs : List Char) :
    replaceReferences value cs =
      match Text.cut? openBraces cs with
      | none => .ok cs
      | some (before, opened) =>
        match Text.cut? closeBraces opened with
        | none => .error .unclosed
        | some (inner, after) =>
          match Reference.ofText? (String.ofList (Text.trim inner)) with
          | none => .error (.unknownReference (String.ofList (Text.trim inner)))
          | some r => value r >>= fun replacement =>
            replaceReferences value after >>= fun more =>
              .ok (before ++ replacement.toList ++ more) := by
  rw [replaceReferences]
  split
  · rename_i hopen
    rw [hopen]
  · rename_i hopen
    split
    · rename_i hclose
      simp only [hopen, hclose]
    · rename_i inner _ hclose
      cases known : Reference.ofText? (String.ofList (Text.trim inner)) with
      | none => simp only [hopen, hclose, known]
      | some r => simp only [hopen, hclose, known]

/-- What is behind a reference is shorter than the whole text. -/
theorem length_lt_of_cuts (hopen : Text.cut? openBraces cs = some (before, opened))
    (hclose : Text.cut? closeBraces opened = some (inner, after)) : after.length < cs.length := by
  have : before.length + 2 + opened.length = cs.length := length_of_cut? hopen
  have : inner.length + 2 + after.length = opened.length := length_of_cut? hclose
  omega

/-- A reference stands between its braces. -/
theorem eq_of_cuts (hopen : Text.cut? openBraces cs = some (before, opened))
    (hclose : Text.cut? closeBraces opened = some (inner, after)) :
    cs = before ++ (openBraces ++ (inner ++ (closeBraces ++ after))) := by
  rw [Text.eq_of_cut? hopen, Text.eq_of_cut? hclose]

/-! ## 2. All references -/

/-- The texts that rendering looks up, from the left: each one that stands between opening braces
    and the next closing ones, up to opening braces that are not closed. -/
def readTexts (cs : List Char) : List (List Char) :=
  match hopen : Text.cut? openBraces cs with
  | none => []
  | some (_, opened) =>
    match hclose : Text.cut? closeBraces opened with
    | none => []
    | some (inner, after) =>
      have : after.length < cs.length := length_lt_of_cuts hopen hclose
      inner :: readTexts after
termination_by cs.length

/-- A text that is looked up stands between double braces. -/
theorem exists_of_mem_readTexts (h : t ∈ readTexts cs) :
    ∃ before after, cs = before ++ (openBraces ++ (t ++ (closeBraces ++ after))) := by
  fun_induction readTexts cs with
  | case1 => cases h
  | case2 => cases h
  | case3 cs before opened hopen inner after hclose _ ih =>
    rw [eq_of_cuts hopen hclose]
    rcases List.mem_cons.mp h with rfl | h
    · exact ⟨before, after, rfl⟩
    · obtain ⟨between, behind, split⟩ := ih h
      refine ⟨before ++ (openBraces ++ (inner ++ (closeBraces ++ between))), behind, ?_⟩
      rw [split]
      simp only [List.append_assoc]

/-- Opening braces that stand before others are those others, or they overlap them, or they stand
    apart from them. -/
theorem opened_eq {skipped rest : List Char}
    (same : openBraces ++ opened = skipped ++ (openBraces ++ rest)) :
    opened = rest ∨ opened = '\x7b' :: rest ∨ ∃ more, opened = more ++ (openBraces ++ rest) :=
  match skipped, same with
  | [], same => .inl (List.append_cancel_left same)
  | [_], same => .inr (.inl (List.cons.inj (List.cons.inj same).2).2)
  | _ :: _ :: more, same => .inr (.inr ⟨more, (List.cons.inj (List.cons.inj same).2).2⟩)

/-- The first opening braces are those of a given text between braces, or they overlap them, or
    they stand before them. -/
theorem exists_opened_eq {front rest : List Char}
    (hopen : Text.cut? openBraces (front ++ (openBraces ++ rest)) = some (before, opened)) :
    opened = rest ∨ opened = '\x7b' :: rest ∨ ∃ more, opened = more ++ (openBraces ++ rest) := by
  obtain ⟨b, a, skipped, hcut, _, same⟩ :=
    Text.exists_cut?_append (show openBraces ≠ [] by decide) rest front
  cases hopen.symm.trans hcut
  exact opened_eq same

/-- The first closing braces are those of a given text without closing braces, or one of them is
    met in what stands before it. -/
theorem exists_closed_eq (front : List Char) {behind : List Char} (plain : '\x7d' ∉ t) :
    ∃ inner after, Text.cut? closeBraces (front ++ (t ++ (closeBraces ++ behind))) =
      some (inner, after) ∧ (inner = front ++ t ∨ ∃ more, front = inner ++ '\x7d' :: more ∧
        '\x7d' :: after = more ++ (t ++ (closeBraces ++ behind))) := by
  obtain ⟨inner, after, skipped, hcut, split, same⟩ :=
    Text.exists_cut?_append (show closeBraces ≠ [] by decide) behind (front ++ t)
  rw [List.append_assoc] at hcut
  refine ⟨inner, after, hcut, ?_⟩
  match skipped, same, split with
  | [], _, split => exact .inl (split.trans (List.append_nil _)).symm
  | _ :: skipped, same, split =>
    obtain ⟨rfl, rest⟩ := List.cons.inj same
    rcases List.append_eq_append_iff.mp split with ⟨_, _, own⟩ | ⟨more, hfront, own⟩
    · exact absurd (own ▸ List.mem_append_right _ List.mem_cons_self) plain
    · match more, own with
      | [], own =>
        have met : '\x7d' ∈ [] ++ t := own ▸ List.mem_cons_self
        exact absurd met plain
      | _ :: more, own =>
        obtain ⟨rfl, rfl⟩ := List.cons.inj own
        exact .inr ⟨more, hfront, rest.trans (List.append_assoc ..)⟩

/-- **A text between double braces is looked up**, if it holds no closing brace, or it is part of a
    text with an opening brace in it that is looked up. -/
theorem readTexts_finds (plain : '\x7d' ∉ t) {front behind : List Char}
    (h : cs = front ++ (openBraces ++ (t ++ (closeBraces ++ behind)))) :
    t ∈ readTexts cs ∨ ∃ u ∈ readTexts cs, '\x7b' ∈ u := by
  fun_induction readTexts cs generalizing front with
  | case1 cs hopen =>
    refine absurd ?_ ((Text.cut?_eq_none_iff (by decide)).mp hopen)
    exact ⟨front, _, by rw [h, List.append_assoc]⟩
  | case2 cs before opened hopen hclose =>
    subst h
    have closed : closeBraces <:+: opened := by
      rcases exists_opened_eq hopen with rfl | rfl | ⟨more, rfl⟩
      · exact ⟨t, behind, List.append_assoc ..⟩
      · exact ⟨'\x7b' :: t, behind, by simp⟩
      · exact ⟨more ++ (openBraces ++ t), behind, by simp⟩
    exact absurd closed ((Text.cut?_eq_none_iff (by decide)).mp hclose)
  | case3 cs before opened hopen inner after hclose _ ih =>
    subst h
    rcases exists_opened_eq hopen with rfl | rfl | ⟨more, rfl⟩
    · obtain ⟨i, a, hcut, own | ⟨_, split, _⟩⟩ := exists_closed_eq [] plain
      · cases hclose.symm.trans hcut
        exact .inl (own ▸ List.mem_cons_self)
      · cases List.append_ne_nil_of_right_ne_nil i (List.cons_ne_nil _ _) split.symm
    · obtain ⟨i, a, hcut, own | ⟨_, split, _⟩⟩ := exists_closed_eq ['\x7b'] plain
      · cases hclose.symm.trans hcut
        exact .inr ⟨inner, List.mem_cons_self, own ▸ List.mem_cons_self⟩
      · have met : '\x7d' ∈ ['\x7b'] := split ▸ List.mem_append_right _ List.mem_cons_self
        exact absurd met (by decide)
    · obtain ⟨i, a, hcut, own | ⟨rest, split, same⟩⟩ :=
        exists_closed_eq (more ++ openBraces) plain
      all_goals
        rw [List.append_assoc] at hcut
        cases hclose.symm.trans hcut
      · refine .inr ⟨inner, List.mem_cons_self, ?_⟩
        rw [own]
        exact List.mem_append_left _ (List.mem_append_right _ List.mem_cons_self)
      · -- the closing braces are met before the text, which is looked for behind them
        rcases List.append_eq_append_iff.mp split with ⟨_, _, met⟩ | ⟨met, hmore, hrest⟩
        · have met : '\x7d' ∈ openBraces := met ▸ List.mem_append_right _ List.mem_cons_self
          exact absurd met (by decide)
        · match met, hrest with
          | [], hrest => cases (List.cons.inj hrest).1
          | [_], hrest =>
            rw [(List.cons.inj hrest).2] at same
            cases (List.cons.inj same).1
          | _ :: _ :: between, hrest =>
            rw [(List.cons.inj hrest).2] at same
            have behindIt := (List.cons.inj same).2.trans (List.append_assoc between _ _)
            rcases ih behindIt with own | ⟨u, hu, opens⟩
            · exact .inl (List.mem_cons_of_mem inner own)
            · exact .inr ⟨u, List.mem_cons_of_mem inner hu, opens⟩

/-- Opening braces that are not closed. -/
def LeavesOpen (cs : List Char) : Prop :=
  ∃ before behind, cs = before ++ (openBraces ++ behind) ∧ ¬ closeBraces <:+: behind

/-- **Why rendering fails**: a reference has no value, opening braces are not closed, or a text
    that is looked up is no reference. -/
theorem replaceReferences_eq_error {value : Reference → Except TemplateProblem String}
    {problem : TemplateProblem} (h : replaceReferences value cs = .error problem) :
    (∃ r, value r = .error problem) ∨ (problem = .unclosed ∧ LeavesOpen cs) ∨
      ∃ x ∈ readTexts cs, Reference.ofText? (String.ofList (Text.trim x)) = none ∧
        problem = .unknownReference (String.ofList (Text.trim x)) := by
  fun_induction readTexts cs with
  | case1 cs hopen =>
    rw [replaceReferences_unfold, hopen] at h
    cases h
  | case2 cs before opened hopen hclose =>
    simp only [replaceReferences_unfold value cs, hopen, hclose, Except.error.injEq] at h
    exact .inr (.inl ⟨h.symm, before, opened, Text.eq_of_cut? hopen,
      (Text.cut?_eq_none_iff (by decide)).mp hclose⟩)
  | case3 cs before opened hopen inner after hclose _ ih =>
    simp only [replaceReferences_unfold value cs, hopen, hclose] at h
    cases known : Reference.ofText? (String.ofList (Text.trim inner)) with
    | none =>
      rw [known] at h
      cases h
      exact .inr (.inr ⟨inner, List.mem_cons_self, known, rfl⟩)
    | some r =>
      simp only [known] at h
      cases found : value r with
      | error problem' =>
        rw [found] at h
        cases h
        exact .inl ⟨r, found⟩
      | ok replacement =>
        have failed : replaceReferences value after = .error problem := by
          cases more : replaceReferences value after with
          | error problem' =>
            rw [found, more] at h
            cases h
            rfl
          | ok rest =>
            rw [found, more] at h
            cases h
        rcases ih failed with noValue | ⟨unclosed, front, behind, split, never⟩ | ⟨x, hx, unknown⟩
        · exact .inl noValue
        · refine .inr (.inl ⟨unclosed, before ++ (openBraces ++ (inner ++ (closeBraces ++ front))),
            behind, ?_, never⟩)
          rw [eq_of_cuts hopen hclose, split]
          simp only [List.append_assoc]
        · exact .inr (.inr ⟨x, List.mem_cons_of_mem inner hx, unknown⟩)

end MarkupRules
