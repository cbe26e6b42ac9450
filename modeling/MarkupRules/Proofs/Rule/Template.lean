import MarkupRules.Proofs.Rule.Rendering
import Mathlib.Data.List.TakeWhile

/-!
# Templates are checked before they are rendered

The check of a template and its rendering read the same references in two ways: the check scans a
text from which escapes are deleted, for texts without closing braces between double braces; the
rendering cuts a text in which escapes are marked, at opening and closing braces in turn.

* `bracedTexts_finds`, `exists_of_mem_bracedTexts` -- what the check finds;
* `pieces`, `spell` -- a template cut into characters and escapes, and written out again;
* `replaceAll_escapedBraces` -- replacing the escapes writes something else in their places;
* `isKnownReference_of_mem_referencesRead`, `isKnownReference_of_mem_referencesIn` -- **each reading
  vouches for the other**, as far as they agree on what stands between braces;
* `renderMessage_eq_error` -- why a message is not rendered.
-/

namespace MarkupRules

variable {cs before after t mark : List Char}

/-! ## 1. What the check finds -/

/-- A text that the check finds stands between double braces and holds no closing brace. -/
theorem exists_of_mem_bracedTexts (h : t ∈ bracedTexts cs) : '\x7d' ∉ t ∧
    ∃ before after, cs = before ++ (openBraces ++ (t ++ (closeBraces ++ after))) := by
  fun_induction bracedTexts cs with
  | case1 rest behind closed _ _ ih =>
    have split : rest = rest.takeWhile (· != '\x7d') ++ (closeBraces ++ behind) := by
      conv_lhs => rw [← List.takeWhile_append_dropWhile (p := (· != '\x7d')) (l := rest), closed]
      rfl
    rcases List.mem_cons.mp h with rfl | h
    · refine ⟨fun met => ?_, [], behind, congrArg (openBraces ++ ·) split⟩
      simpa using List.mem_takeWhile_imp met
    · obtain ⟨plain, before, after, same⟩ := ih h
      refine ⟨plain, openBraces ++ (rest.takeWhile (· != '\x7d') ++ (closeBraces ++ before)), after, ?_⟩
      rw [same] at split
      simp only [List.append_assoc]
      exact congrArg (openBraces ++ ·) split
  | case2 rest _ ih =>
    obtain ⟨plain, before, after, same⟩ := ih h
    exact ⟨plain, '\x7b' :: before, after, congrArg ('\x7b' :: ·) same⟩
  | case3 c rest _ ih =>
    obtain ⟨plain, before, after, same⟩ := ih h
    exact ⟨plain, c :: before, after, congrArg (c :: ·) same⟩
  | case4 => cases h

/-- A text without closing braces ends where the first one is met. -/
theorem span_closed (plain : '\x7d' ∉ t) :
    (t ++ '\x7d' :: after).takeWhile (· != '\x7d') = t ∧
      (t ++ '\x7d' :: after).dropWhile (· != '\x7d') = '\x7d' :: after := by
  have pass : ∀ c ∈ t, (c != '\x7d') = true := fun c hc => bne_iff_ne.mpr fun same => plain (same ▸ hc)
  rw [List.takeWhile_append_of_pos pass, List.dropWhile_append_of_pos pass]
  simp

/-- **A text between double braces is found**, if it holds no closing brace, or it is part of a text
    with an opening brace in it that is found. -/
theorem bracedTexts_finds (plain : '\x7d' ∉ t) {front behind : List Char}
    (h : cs = front ++ (openBraces ++ (t ++ (closeBraces ++ behind)))) :
    t ∈ bracedTexts cs ∨ ∃ u ∈ bracedTexts cs, '\x7b' ∈ u := by
  fun_induction bracedTexts cs generalizing front with
  | case1 rest after closed _ _ ih =>
    rcases opened_eq h with rfl | rfl | ⟨more, rfl⟩
    · have found : (t ++ (closeBraces ++ behind)).takeWhile (· != '\x7d') = t := (span_closed plain).1
      exact .inl (List.mem_cons.mpr (.inl found.symm))
    · exact .inr ⟨_, List.mem_cons_self, by simp⟩
    · by_cases met : '\x7d' ∈ more
      · -- the braces found close an earlier text, and the given one is looked for behind them
        obtain ⟨first, later, rfl, early⟩ := List.eq_append_cons_of_mem met
        rw [List.append_assoc, List.cons_append, (span_closed early).2] at closed
        match later, (List.cons.inj closed).2 with
        | [], same => cases (List.cons.inj same).1
        | _ :: between, same =>
          rcases ih (List.cons.inj same).2.symm with own | ⟨u, hu, opens⟩
          · exact .inl (List.mem_cons_of_mem _ own)
          · exact .inr ⟨u, List.mem_cons_of_mem _ hu, opens⟩
      · refine .inr ⟨_, List.mem_cons_self, ?_⟩
        have pass : ∀ c ∈ more, (c != '\x7d') = true := fun c hc =>
          bne_iff_ne.mpr fun same => met (same ▸ hc)
        rw [List.takeWhile_append_of_pos pass]
        exact List.mem_append_right _ (by simp [openBraces])
  | case2 rest never ih =>
    match front, h with
    | [], h =>
      have same : rest = t ++ (closeBraces ++ behind) := (List.cons.inj (List.cons.inj h).2).2
      exact absurd (same ▸ (span_closed plain).2) (never behind)
    | _ :: front, h => exact ih (List.cons.inj h).2
  | case3 c rest never ih =>
    match front, h with
    | [], h => exact absurd (List.cons.inj h).2 (never _ (List.cons.inj h).1)
    | _ :: front, h => exact ih (List.cons.inj h).2
  | case4 => cases List.append_ne_nil_of_right_ne_nil front (List.cons_ne_nil _ _) h.symm

/-! ## 2. Escapes -/

/-- A piece of a template: a character, or an escape. -/
inductive Piece where
  | char (c : Char)
  | escape
  deriving DecidableEq

/-- The pieces of a template. -/
def pieces : List Char → List Piece
  | '\x5c' :: '\x7b' :: '\x7b' :: rest => .escape :: pieces rest
  | c :: rest => .char c :: pieces rest
  | [] => []

/-- A piece written out, with a mark in the place of an escape. -/
def Piece.spell (mark : List Char) : Piece → List Char
  | .char c => [c]
  | .escape => mark

/-- Pieces written out, with a mark in the place of each escape. -/
def spell (mark : List Char) (ps : List Piece) : List Char :=
  ps.flatMap (Piece.spell mark)

variable {ps : List Piece}

@[simp]
theorem spell_append {qs : List Piece} : spell mark (ps ++ qs) = spell mark ps ++ spell mark qs :=
  List.flatMap_append

@[simp]
theorem spell_char {c : Char} : spell mark (.char c :: ps) = c :: spell mark ps :=
  rfl

@[simp]
theorem spell_escape : spell mark (.escape :: ps) = mark ++ spell mark ps :=
  rfl

/-- **Replacing the escapes** of a template is writing something else in their places. -/
theorem replaceAll_escapedBraces (mark cs : List Char) :
    Text.replaceAll escapedBraces mark cs = spell mark (pieces cs) := by
  fun_induction pieces cs with
  | case1 rest ih =>
    rw [spell_escape, ← ih]
    exact Text.replaceAll_append (show escapedBraces ≠ [] by decide)
  | case2 c rest other ih =>
    rw [spell_char, ← ih]
    refine Text.replaceAll_cons fun starts => ?_
    obtain ⟨behind, same⟩ := starts
    obtain ⟨first, others⟩ := List.cons.inj same
    exact other behind first.symm others.symm
  | case3 => rfl

/-- The pieces of a template are the template. -/
theorem spell_pieces (cs : List Char) : spell escapedBraces (pieces cs) = cs := by
  fun_induction pieces cs with
  | case1 rest ih => rw [spell_escape, ih]; rfl
  | case2 c rest _ ih => rw [spell_char, ih]
  | case3 => rfl

/-- A character that the mark does not hold is written by a piece of its own. -/
theorem exists_of_spell_eq {c : Char} (apart : c ∉ mark) {ps : List Piece} (before : List Char)
    (h : spell mark ps = before ++ c :: after) :
    ∃ a b, ps = a ++ .char c :: b ∧ spell mark a = before ∧ spell mark b = after := by
  induction ps generalizing before with
  | nil => cases List.append_ne_nil_of_right_ne_nil before (List.cons_ne_nil _ _) h.symm
  | cons p ps ih =>
    cases p with
    | char d =>
      match before, h with
      | [], h =>
        obtain ⟨rfl, rest⟩ := List.cons.inj h
        exact ⟨[], ps, rfl, rfl, rest⟩
      | _ :: before, h =>
        obtain ⟨rfl, rest⟩ := List.cons.inj h
        obtain ⟨a, b, rfl, rfl, behind⟩ := ih before rest
        exact ⟨.char d :: a, b, rfl, rfl, behind⟩
    | escape =>
      rw [spell_escape] at h
      rcases List.append_eq_append_iff.mp h with ⟨between, rfl, rest⟩ | ⟨between, own, rest⟩
      · obtain ⟨a, b, rfl, rfl, behind⟩ := ih between rest
        exact ⟨.escape :: a, b, rfl, rfl, behind⟩
      · match between, own, rest with
        | [], own, rest =>
          obtain ⟨a, b, rfl, written, behind⟩ := ih [] rest.symm
          refine ⟨.escape :: a, b, rfl, ?_, behind⟩
          rw [spell_escape, written, own, List.append_nil, List.append_nil]
        | _ :: _, own, rest =>
          obtain ⟨rfl, _⟩ := List.cons.inj rest
          exact absurd (own ▸ List.mem_append_right _ List.mem_cons_self) apart

/-- A text between double braces is written by pieces of its own. Between the two braces of a pair
    there may be pieces that write nothing. -/
theorem exists_of_spell_eq_braced (opens : '\x7b' ∉ mark) (closes : '\x7d' ∉ mark)
    (h : spell mark ps = before ++ (openBraces ++ (t ++ (closeBraces ++ after)))) :
    ∃ a gap x gap' b, ps = a ++ .char '\x7b' :: (gap ++ .char '\x7b' ::
        (x ++ .char '\x7d' :: (gap' ++ .char '\x7d' :: b))) ∧
      spell mark gap = [] ∧ spell mark x = t ∧ spell mark gap' = [] := by
  obtain ⟨a, ps, rfl, _, h⟩ := exists_of_spell_eq opens _ h
  obtain ⟨gap, ps, rfl, hgap, h⟩ := exists_of_spell_eq opens [] h
  obtain ⟨x, ps, rfl, hx, h⟩ := exists_of_spell_eq closes _ h
  obtain ⟨gap', b, rfl, hgap', _⟩ := exists_of_spell_eq closes [] h
  exact ⟨a, gap, x, gap', b, rfl, hgap, hx, hgap'⟩

theorem mem_spell_iff {c : Char} (apart : c ∉ mark) : c ∈ spell mark ps ↔ .char c ∈ ps := by
  constructor
  · intro h
    obtain ⟨p, hp, hc⟩ := List.mem_flatMap.mp h
    cases p with
    | char d => exact List.mem_singleton.mp hc ▸ hp
    | escape => exact absurd hc apart
  · intro h
    exact List.mem_flatMap.mpr ⟨_, h, List.mem_singleton_self c⟩

/-- The mark of an escape is written out. -/
theorem infix_spell (h : .escape ∈ ps) : mark <:+: spell mark ps := by
  obtain ⟨a, b, rfl⟩ := List.append_of_mem h
  exact ⟨spell mark a, spell mark b, by simp⟩

/-- Without escapes, the mark makes no difference. -/
theorem spell_eq_of_not_mem (h : .escape ∉ ps) (mark mark' : List Char) :
    spell mark ps = spell mark' ps := by
  refine List.flatMap_congr fun p hp => ?_
  cases p with
  | char c => rfl
  | escape => exact absurd hp h

/-- Pieces that write nothing are escapes with an empty mark. -/
theorem eq_replicate_of_spell_eq_nil (h : spell mark ps = []) :
    ps = List.replicate ps.length .escape ∧ (mark ≠ [] → ps = []) := by
  have nothing := List.flatMap_eq_nil_iff.mp h
  have escapes : ∀ p ∈ ps, p = .escape := by
    intro p hp
    cases p with
    | char c => cases nothing _ hp
    | escape => rfl
  refine ⟨List.eq_replicate_iff.mpr ⟨rfl, escapes⟩, fun written => ?_⟩
  refine List.eq_nil_iff_forall_not_mem.mpr fun p hp => written ?_
  obtain rfl := escapes p hp
  exact nothing .escape hp

/-! ## 3. Known references -/

theorem isKnownReference_eq_true_iff {s : String} : isKnownReference s = true ↔
    s = "name" ∨ s = "path" ∨ s = "text" ∨ s = "rule" ∨ isAttributeReference s = true := by
  simp only [isKnownReference, Bool.or_eq_true, beq_iff_eq, or_assoc]

/-- An attribute reference has a name, of plain characters only. -/
theorem exists_of_isAttributeReference {s : String} (h : isAttributeReference s = true) :
    ∃ c rest, s.toList = '@' :: c :: rest ∧ ∀ d ∈ c :: rest,
      (d.isAlphanum || d == '_' || d == '.' || d == ':' || d == '-') = true := by
  unfold isAttributeReference at h
  split at h
  · rename_i c rest hs
    rw [Bool.and_eq_true, List.all_eq_true] at h
    refine ⟨c, rest, hs, fun d hd => ?_⟩
    rcases List.mem_cons.mp hd with rfl | hd
    · have letter : (d.isAlpha || d == '_') = true := h.1
      simp only [Bool.or_eq_true, Char.isAlphanum] at letter ⊢
      tauto
    · exact h.2 d hd
  · cases h

/-- A known reference is a reference. -/
theorem exists_ofText?_of_isKnownReference {s : String} (known : isKnownReference s = true) :
    ∃ r, Reference.ofText? s = some r := by
  rcases isKnownReference_eq_true_iff.mp known with rfl | rfl | rfl | rfl | named
  · exact ⟨.name, rfl⟩
  · exact ⟨.path, rfl⟩
  · exact ⟨.text, rfl⟩
  · exact ⟨.rule, rfl⟩
  · obtain ⟨c, rest, hs, _⟩ := exists_of_isAttributeReference named
    unfold Reference.ofText?
    rw [hs]
    split_ifs
    all_goals exact ⟨_, rfl⟩

/-- The characters that braces and the marks of escapes are made of, each mark having one. -/
def signs : List Char :=
  ['\x7b', '\x7d', '\x00']

theorem forall_signs {p : Char → Prop} (opens : p '\x7b') (closes : p '\x7d') (marks : p '\x00') :
    ∀ c ∈ signs, p c := by
  intro c hc
  rcases List.mem_cons.mp hc with rfl | hc
  · exact opens
  · rcases List.mem_pair.mp hc with rfl | rfl
    · exact closes
    · exact marks

/-- A known reference is written without braces and without the mark of an escape. -/
theorem plain_of_isKnownReference {s : String} (known : isKnownReference s = true) :
    ∀ c ∈ signs, c ∉ s.toList := by
  rcases isKnownReference_eq_true_iff.mp known with rfl | rfl | rfl | rfl | named
  iterate 4 exact forall_signs (by decide) (by decide) (by decide)
  obtain ⟨c, rest, hs, plain⟩ := exists_of_isAttributeReference named
  intro d hd met
  rw [hs] at met
  rcases List.mem_cons.mp met with rfl | met
  · exact absurd hd (by decide)
  · have foreign : ∀ d ∈ signs,
        (d.isAlphanum || d == '_' || d == '.' || d == ':' || d == '-') = false :=
      forall_signs (by decide) (by decide) (by decide)
    exact absurd (plain d met) (by rw [foreign d hd]; decide)

/-! ## 4. The two readings -/

/-- The template with its escapes marked, as rendering reads it. -/
def marked (template : String) : List Char :=
  Text.replaceAll escapedBraces escapeMark template.toList

/-- The references of a template that rendering looks up, blanks at their ends left out. -/
def referencesRead (template : String) : List String :=
  (readTexts (marked template)).map fun r => String.ofList (Text.trim r)

/-- No run of escapes stands between two opening braces, or between two closing ones, that are no
    part of escapes themselves. -/
def EscapesApart (template : String) : Prop :=
  ∀ brace ∈ ['\x7b', '\x7d'], ∀ n,
    ¬ .char brace :: (List.replicate (n + 1) .escape ++ [.char brace]) <:+: pieces template.toList

variable {template : String} {x : String}

/-- Braces and the mark of an escape are not trimmed away. -/
theorem mem_trim_of_mem {c : Char} (hc : c ∈ signs) (h : c ∈ t) : c ∈ Text.trim t := by
  have noBlank : ∀ c ∈ signs, Text.isBlank c = false :=
    forall_signs (by decide) (by decide) (by decide)
  exact Text.mem_trim (noBlank c hc) h

/-- A text that is a known reference once it is trimmed holds no brace and no mark of an escape. -/
theorem plain_of_isKnownReference_trim (known : isKnownReference (String.ofList (Text.trim t)) = true) :
    ∀ c ∈ signs, c ∉ t := by
  intro c hc met
  have plain := plain_of_isKnownReference known c hc
  rw [String.toList_ofList] at plain
  exact plain (mem_trim_of_mem hc met)

/-- **What rendering looks up is known**, if what the check finds is: all but a text with a closing
    brace or an escape in it. -/
theorem isKnownReference_of_mem_referencesRead
    (checked : ∀ y ∈ referencesIn template, isKnownReference y = true)
    (hx : x ∈ referencesRead template) (plain : '\x7d' ∉ x.toList)
    (unmarked : ¬ escapeMark <:+: x.toList) : isKnownReference x = true := by
  obtain ⟨t, ht, rfl⟩ := List.mem_map.mp hx
  rw [String.toList_ofList] at plain unmarked
  rw [marked, replaceAll_escapedBraces] at ht
  obtain ⟨before, after, split⟩ := exists_of_mem_readTexts ht
  -- a marked escape writes something, so the braces of either pair are next to each other
  obtain ⟨a, gap, ps, gap', b, hps, hgap, rfl, hgap'⟩ :=
    exists_of_spell_eq_braced (by decide) (by decide) split
  obtain rfl := (eq_replicate_of_spell_eq_nil hgap).2 (by decide)
  obtain rfl := (eq_replicate_of_spell_eq_nil hgap').2 (by decide)
  have starts : ∀ c ∈ escapeMark.head?, Text.isBlank c = false := by
    rintro _ ⟨⟩
    decide
  have ends : ∀ c ∈ escapeMark.getLast?, Text.isBlank c = false := by
    rintro _ ⟨⟩
    decide
  have noEscape : .escape ∉ ps := fun met =>
    unmarked (Text.infix_trim starts ends (infix_spell met))
  have plain' : '\x7d' ∉ spell escapeMark ps := fun met => plain (mem_trim_of_mem (by decide) met)
  have stands : Text.replaceAll escapedBraces [] template.toList =
      spell [] a ++ (openBraces ++ (spell escapeMark ps ++ (closeBraces ++ spell [] b))) := by
    rw [replaceAll_escapedBraces, hps, spell_eq_of_not_mem noEscape escapeMark []]
    simp [openBraces, closeBraces]
  rcases bracedTexts_finds plain' stands with found | ⟨u, hu, opens⟩
  · exact checked _ (List.mem_map_of_mem found)
  · have known := checked _ (List.mem_map_of_mem hu)
    exact absurd opens (plain_of_isKnownReference_trim known _ (by decide))

/-- Where escapes are apart, the braces of a pair that deletion leaves are next to each other. -/
theorem EscapesApart.gap_eq_nil (apart : EscapesApart template) {brace : Char}
    (hbrace : brace ∈ ['\x7b', '\x7d']) {a gap b : List Piece}
    (hps : pieces template.toList = a ++ .char brace :: (gap ++ .char brace :: b))
    (hgap : spell [] gap = []) : gap = [] := by
  obtain ⟨escapes, _⟩ := eq_replicate_of_spell_eq_nil hgap
  cases hlen : gap.length with
  | zero => exact List.eq_nil_of_length_eq_zero hlen
  | succ n =>
    rw [hlen] at escapes
    refine absurd ⟨a, b, ?_⟩ (apart brace hbrace n)
    rw [hps, escapes]
    simp

/-- **What the check finds is known**, if what rendering looks up is. -/
theorem isKnownReference_of_mem_referencesIn (apart : EscapesApart template)
    (known : ∀ y ∈ referencesRead template, isKnownReference y = true)
    (hx : x ∈ referencesIn template) : isKnownReference x = true := by
  obtain ⟨t, ht, rfl⟩ := List.mem_map.mp hx
  rw [replaceAll_escapedBraces] at ht
  obtain ⟨plain, before, after, split⟩ := exists_of_mem_bracedTexts ht
  obtain ⟨a, gap, ps, gap', b, hps, hgap, rfl, hgap'⟩ :=
    exists_of_spell_eq_braced List.not_mem_nil List.not_mem_nil split
  have hps' : pieces template.toList = (a ++ .char '\x7b' :: (gap ++ .char '\x7b' :: ps)) ++
      .char '\x7d' :: (gap' ++ .char '\x7d' :: b) := by rw [hps]; simp
  obtain rfl := apart.gap_eq_nil (by decide) hps hgap
  obtain rfl := apart.gap_eq_nil (by decide) hps' hgap'
  have plain' : '\x7d' ∉ spell escapeMark ps := by
    rwa [mem_spell_iff (by decide)] at plain ⊢
  have stands : marked template = spell escapeMark a ++
      (openBraces ++ (spell escapeMark ps ++ (closeBraces ++ spell escapeMark b))) := by
    rw [marked, replaceAll_escapedBraces, hps]
    simp [openBraces, closeBraces]
  rcases readTexts_finds plain' stands with read | ⟨u, hu, opens⟩
  · have own := known _ (List.mem_map_of_mem read)
    have noEscape : .escape ∉ ps := fun met =>
      plain_of_isKnownReference_trim own '\x00' (by decide) ((infix_spell met).mem (by decide))
    rw [spell_eq_of_not_mem noEscape [] escapeMark]
    exact own
  · have own := known _ (List.mem_map_of_mem hu)
    exact absurd opens (plain_of_isKnownReference_trim own _ (by decide))

/-- Only an attribute that is missing leaves a reference without a value. -/
theorem Reference.value_eq_error {doc : Document} {ruleId : String} {context : Item} {r : Reference}
    {problem : TemplateProblem} (h : r.value doc ruleId context = .error problem) :
    ∃ name, problem = .missingAttribute name := by
  unfold Reference.value at h
  split at h
  · split at h
    all_goals cases h
  iterate 3 cases h
  rename_i wanted
  cases found : doc.attribute? context.nodeId wanted with
  | none =>
    simp only [found, Except.error.injEq] at h
    exact ⟨wanted, h.symm⟩
  | some value => simp only [found, reduceCtorEq] at h

/-- **Why a message is not rendered**: an attribute is missing, opening braces are not closed, or
    what rendering looks up is no reference. -/
theorem renderMessage_eq_error {ruleId : String} {doc : Document} {context : Item}
    {problem : TemplateProblem} (h : renderMessage template ruleId doc context = .error problem) :
    (∃ name, problem = .missingAttribute name) ∨
      (problem = .unclosed ∧ LeavesOpen (marked template)) ∨
      ∃ x ∈ referencesRead template, Reference.ofText? x = none ∧ problem = .unknownReference x := by
  have failed : replaceReferences (Reference.value doc ruleId context) (marked template) =
      .error problem := by
    change replaceReferences (Reference.value doc ruleId context) (marked template) >>= _ = _ at h
    cases rendered : replaceReferences (Reference.value doc ruleId context) (marked template) with
    | ok text =>
      rw [rendered] at h
      cases h
    | error problem' =>
      rw [rendered] at h
      cases h
      rfl
  rcases replaceReferences_eq_error failed with ⟨r, missing⟩ | unclosed | ⟨x, hx, unknown, rfl⟩
  · exact .inl (Reference.value_eq_error missing)
  · exact .inr (.inl unclosed)
  · exact .inr (.inr ⟨_, List.mem_map_of_mem hx, unknown, rfl⟩)

end MarkupRules
