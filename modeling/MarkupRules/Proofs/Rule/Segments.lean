import MarkupRules.Proofs.Document.Characters
import MarkupRules.Proofs.Rule.Template

/-!
# A template is read once, from the left

A message is rendered in three rounds over changing texts: the escapes of the template are marked,
the references of the marked text are replaced, and the marks are put back into a text that holds
values of the document by then. The outcome is that of one pass over the template.

* `Segment`, `segments` -- a template in one pass: characters, escapes and references;
* `StandsFor`, `Segment.Gives` -- what a reference stands for, and what a segment gives;
* `replaceReferences_append`, `replaceReferences_opened` -- one step of the second round;
* `cut?_markEscapes` -- **marks are in nobody's way**: closing braces are met at the same places;
* `Renders`, `renders_iff` -- one segment more, through all three rounds, and then all of them;
* `renderMessage_reads_segments` -- **a message is rendered from the segments of its template**.
-/

namespace MarkupRules

/-! ## 1. Segments -/

/-- What a reader of a template meets. -/
inductive Segment where
  | literal (c : Char)
  | escape
  | reference (inner : List Char)
  /-- Opening braces with no closing ones behind them. -/
  | unclosed
  deriving DecidableEq, Repr

/-- The segments of a template. A backslash in front of double braces is an escape; any other
    double braces open a reference, which goes on to the next closing ones. -/
def segments (cs : List Char) : List Segment :=
  match cs with
  | '\x5c' :: '\x7b' :: '\x7b' :: rest => .escape :: segments rest
  | '\x7b' :: '\x7b' :: rest =>
    match h : Text.cut? closeBraces rest with
    | none => [.unclosed]
    | some (inner, after) =>
      have : inner.length + 2 + after.length = rest.length := length_of_cut? h
      .reference inner :: segments after
  | c :: rest => .literal c :: segments rest
  | [] => []
termination_by cs.length
decreasing_by all_goals (simp only [List.length_cons]; omega)

/-- What a reference stands for at an item of a document. -/
inductive StandsFor (ruleId : String) (doc : Document) (context : Item) : String → String → Prop
  | nodeName {id} : context = .node id →
      StandsFor ruleId doc context "name" ((doc.name? id).getD "")
  | attributeName {owner own} : context = .attribute owner own →
      StandsFor ruleId doc context "name" own
  | path : StandsFor ruleId doc context "path" (context.location doc)
  | text : StandsFor ruleId doc context "text" (Text.normalizeSpace (context.stringValue doc))
  | rule : StandsFor ruleId doc context "rule" ruleId
  | attribute {wanted value} : wanted ≠ "" → doc.attribute? context.nodeId wanted = some value →
      StandsFor ruleId doc context ("@" ++ wanted) value

/-- What a segment of a template gives to the message. A reference with an escape in it, one that
    stands for nothing and one that is not closed give nothing. -/
inductive Segment.Gives (ruleId : String) (doc : Document) (context : Item) :
    Segment → List Char → Prop
  | literal {c} : Gives ruleId doc context (.literal c) [c]
  | escape : Gives ruleId doc context .escape openBraces
  | reference {inner value} : ¬ escapedBraces <:+: inner →
      StandsFor ruleId doc context (String.ofList (Text.trim inner)) value →
      Gives ruleId doc context (.reference inner) value.toList

variable {ruleId : String} {doc : Document} {context : Item} {s v : String}

/-- An attribute of some name is referred to by an at sign and its name. -/
theorem Reference.ofText?_attribute {wanted : String} (h : wanted ≠ "") :
    Reference.ofText? ("@" ++ wanted) = some (.attribute wanted) := by
  obtain ⟨c, rest, split⟩ : ∃ c rest, wanted.toList = c :: rest :=
    List.exists_cons_of_ne_nil fun none => h (String.toList_eq_nil_iff.mp none)
  have apart : ∀ {word : String}, word.toList.head? ≠ some '@' → "@" ++ wanted ≠ word := by
    rintro _ other rfl
    exact other (by simp)
  have text : ("@" ++ wanted).toList = '@' :: c :: rest := by simp [split]
  rw [Reference.ofText?, if_neg (apart (by decide)), if_neg (apart (by decide)),
    if_neg (apart (by decide)), if_neg (apart (by decide)), text]
  simp only
  rw [← split, String.ofList_toList]

/-- A reference as it is written. -/
def Reference.written : Reference → String
  | .name => "name"
  | .path => "path"
  | .text => "text"
  | .rule => "rule"
  | .attribute wanted => "@" ++ wanted

/-- **A text is a reference** if it is written as one and the name of an attribute is not empty. -/
theorem Reference.ofText?_eq_some_iff {r : Reference} :
    Reference.ofText? s = some r ↔ s = r.written ∧ r ≠ .attribute "" := by
  constructor
  · intro known
    unfold Reference.ofText? at known
    split_ifs at known with name path text rule
    · cases known
      exact ⟨name, nofun⟩
    · cases known
      exact ⟨path, nofun⟩
    · cases known
      exact ⟨text, nofun⟩
    · cases known
      exact ⟨rule, nofun⟩
    · split at known
      · rename_i c rest split
        cases known
        refine ⟨?_, by simp⟩
        rw [written, ← String.toList_inj, split]
        simp
      · cases known
  · rintro ⟨rfl, named⟩
    rcases r with _ | _ | _ | _ | wanted
    iterate 4 rfl
    exact ofText?_attribute fun empty => named (congrArg _ empty)

/-- **What a reference stands for** is its value. -/
theorem standsFor_iff : StandsFor ruleId doc context s v ↔
    ∃ r, Reference.ofText? s = some r ∧ r.value doc ruleId context = .ok v := by
  constructor
  · intro h
    rcases h with own | own | _ | _ | _ | ⟨nonempty, found⟩
    · exact ⟨.name, rfl, by rw [own]; rfl⟩
    · exact ⟨.name, rfl, by rw [own]; rfl⟩
    · exact ⟨.path, rfl, rfl⟩
    · exact ⟨.text, rfl, rfl⟩
    · exact ⟨.rule, rfl, rfl⟩
    · exact ⟨.attribute _, Reference.ofText?_attribute nonempty, by rw [Reference.value, found]⟩
  · rintro ⟨r, known, value⟩
    obtain ⟨rfl, named⟩ := Reference.ofText?_eq_some_iff.mp known
    rcases r with _ | _ | _ | _ | wanted
    · rcases context with id | ⟨owner, own⟩
      · obtain rfl := Except.ok.inj value
        exact .nodeName rfl
      · obtain rfl := Except.ok.inj value
        exact .attributeName rfl
    · obtain rfl := Except.ok.inj value
      exact .path
    · obtain rfl := Except.ok.inj value
      exact .text
    · obtain rfl := Except.ok.inj value
      exact .rule
    · rw [Reference.value] at value
      split at value
      · rename_i found
        obtain rfl := Except.ok.inj value
        exact .attribute (fun empty => named (congrArg _ empty)) found
      · cases value

/-! ## 2. One step of a round -/

variable {value : Reference → Except TemplateProblem String} {c : Char}
  {cs rest front out : List Char}

/-- **A reference is replaced**, if opening braces are met, closing ones behind them, and the text
    between them has a value. -/
theorem replaceReferences_opened : replaceReferences value (openBraces ++ rest) = .ok out ↔
    ∃ inner after, Text.cut? closeBraces rest = some (inner, after) ∧
      ∃ r, Reference.ofText? (String.ofList (Text.trim inner)) = some r ∧
        ∃ v, value r = .ok v ∧
          ∃ more, replaceReferences value after = .ok more ∧ out = v.toList ++ more := by
  rw [replaceReferences_unfold, Text.cut?_append (show openBraces ≠ [] by decide)]
  simp only
  constructor
  · intro h
    split at h
    · cases h
    · rename_i inner after hclose
      split at h
      · cases h
      · rename_i r known
        obtain ⟨v, hv, h⟩ := bind_eq_ok.mp h
        obtain ⟨more, hmore, h⟩ := bind_eq_ok.mp h
        exact ⟨inner, after, hclose, r, known, v, hv, more, hmore, (Except.ok.inj h).symm⟩
  · rintro ⟨inner, after, hclose, r, known, v, hv, more, hmore, rfl⟩
    simp only [hclose, known, hv, hmore]
    rfl

/-- A character that opens no reference is passed over. -/
theorem replaceReferences_cons (h : ¬ openBraces <+: c :: cs) :
    replaceReferences value (c :: cs) = .ok out ↔
      ∃ more, replaceReferences value cs = .ok more ∧ out = c :: more := by
  rw [replaceReferences_unfold value (c :: cs), replaceReferences_unfold value cs, Text.cut?_cons h]
  cases Text.cut? openBraces cs with
  | none => simp [eq_comm]
  | some parts =>
    obtain ⟨before, opened⟩ := parts
    simp only [Option.map_some]
    cases Text.cut? closeBraces opened with
    | none => simp
    | some parts =>
      obtain ⟨inner, after⟩ := parts
      simp only
      cases Reference.ofText? (String.ofList (Text.trim inner)) with
      | none => simp
      | some r =>
        simp only
        cases value r with
        | error problem => simp [bind, Except.bind]
        | ok v =>
          cases replaceReferences value after with
          | error problem => simp [bind, Except.bind]
          | ok more => simp [bind, Except.bind, eq_comm]

theorem replaceReferences_append (plain : '\x7b' ∉ front) :
    replaceReferences value (front ++ cs) = .ok out ↔
      ∃ more, replaceReferences value cs = .ok more ∧ out = front ++ more := by
  induction front generalizing out with
  | nil => simp
  | cons c front ih =>
    have other : ¬ openBraces <+: c :: (front ++ cs) := by
      rintro ⟨behind, same⟩
      exact plain ((List.cons.inj same).1 ▸ List.mem_cons_self)
    rw [List.cons_append, replaceReferences_cons other]
    simp only [ih fun met => plain (List.mem_cons_of_mem c met)]
    constructor
    · rintro ⟨_, ⟨more, hmore, rfl⟩, rfl⟩
      exact ⟨more, hmore, rfl⟩
    · rintro ⟨more, hmore, rfl⟩
      exact ⟨_, ⟨more, hmore, rfl⟩, rfl⟩

theorem replaceReferences_nil : replaceReferences value [] = .ok out ↔ out = [] := by
  rw [replaceReferences_unfold]
  simp [Text.cut?, openBraces, eq_comm]

/-- A text without the mark's first character is passed over when marks are put back. -/
theorem replaceAll_escapeMark_append (plain : '\x00' ∉ front) :
    Text.replaceAll escapeMark openBraces (front ++ cs) =
      front ++ Text.replaceAll escapeMark openBraces cs := by
  induction front with
  | nil => rfl
  | cons c front ih =>
    have other : ¬ escapeMark <+: c :: (front ++ cs) := by
      rintro ⟨behind, same⟩
      exact plain ((List.cons.inj same).1 ▸ List.mem_cons_self)
    rw [List.cons_append, Text.replaceAll_cons other,
      ih fun met => plain (List.mem_cons_of_mem c met), List.cons_append]

/-! ## 3. Marked texts -/

/-- A text with its escapes marked. -/
def markEscapes (cs : List Char) : List Char :=
  Text.replaceAll escapedBraces escapeMark cs

theorem markEscapes_escape : markEscapes (escapedBraces ++ cs) = escapeMark ++ markEscapes cs :=
  Text.replaceAll_append (show escapedBraces ≠ [] by decide)

theorem markEscapes_cons (h : ¬ escapedBraces <+: c :: cs) :
    markEscapes (c :: cs) = c :: markEscapes cs :=
  Text.replaceAll_cons h

theorem markEscapes_cons_of_ne (h : c ≠ '\x5c') : markEscapes (c :: cs) = c :: markEscapes cs :=
  markEscapes_cons fun ⟨_, same⟩ => h (List.cons.inj same).1.symm

/-- **Marks make no braces**: where two equal characters are met in a marked text, the first of them
    not being part of a mark, they are met in the text itself. -/
theorem pair_prefix_of_markEscapes {d : Char} (hd : d ≠ '\x00')
    (h : [d, d] <+: c :: markEscapes cs) : [d, d] <+: c :: cs := by
  obtain ⟨behind, same⟩ := h
  obtain ⟨rfl, next⟩ := List.cons.inj same
  have spelled : d :: behind = spell escapeMark (pieces cs) :=
    next.trans (replaceAll_escapedBraces escapeMark cs)
  clear same next
  revert spelled
  fun_cases pieces cs with
  | case1 rest => exact fun spelled => absurd (List.cons.inj spelled).1 hd
  | case2 first rest _ =>
    intro spelled
    obtain rfl := (List.cons.inj spelled).1
    exact ⟨rest, rfl⟩
  | case3 => exact fun spelled => by cases spelled

/-- **Closing braces are met at the same places** whether escapes are marked or not. -/
theorem cut?_markEscapes (cs : List Char) : Text.cut? closeBraces (markEscapes cs) =
    (Text.cut? closeBraces cs).map fun (before, after) =>
      (markEscapes before, markEscapes after) := by
  fun_induction pieces cs with
  | case1 rest ih =>
    have marks : '\x7d' ∉ escapeMark := by decide
    have braces : '\x7d' ∉ escapedBraces := by decide
    show Text.cut? closeBraces (markEscapes (escapedBraces ++ rest)) =
      (Text.cut? closeBraces (escapedBraces ++ rest)).map _
    rw [markEscapes_escape, closeBraces, Text.cut?_append_of_not_mem marks,
      Text.cut?_append_of_not_mem braces, ← closeBraces, ih, Option.map_map, Option.map_map]
    simp only [Function.comp_def, markEscapes_escape]
  | case2 c rest other ih =>
    -- no escape starts here, neither in the text nor in what is cut off in front of the braces
    have plain : ∀ {cs : List Char}, cs <+: rest → ¬ escapedBraces <+: c :: cs := by
      rintro cs ⟨more, rfl⟩ ⟨behind, same⟩
      obtain ⟨rfl, rfl⟩ := List.cons.inj same
      exact other (behind ++ more) rfl rfl
    rw [markEscapes_cons (plain List.prefix_rfl)]
    by_cases closes : closeBraces <+: c :: rest
    · obtain ⟨after, same⟩ := closes
      obtain ⟨rfl, rfl⟩ := List.cons.inj same
      have nonempty : closeBraces ≠ [] := by decide
      show Text.cut? closeBraces ('\x7d' :: markEscapes ('\x7d' :: after)) =
        (Text.cut? closeBraces (closeBraces ++ after)).map _
      rw [markEscapes_cons_of_ne (by decide), Text.cut?_append nonempty]
      exact Text.cut?_append nonempty
    · have others : ¬ closeBraces <+: c :: markEscapes rest := fun met =>
        closes (pair_prefix_of_markEscapes (by decide) met)
      rw [Text.cut?_cons closes, Text.cut?_cons others, ih, Option.map_map, Option.map_map]
      cases hcut : Text.cut? closeBraces rest with
      | none => rfl
      | some parts =>
        have front : parts.1 <+: rest := ⟨_, (Text.eq_of_cut? hcut).symm⟩
        simp only [Option.map_some, Function.comp_apply, markEscapes_cons (plain front)]
  | case3 => rfl

/-- A text without escapes stays as it is, and a mark comes into one that has any. -/
theorem markEscapes_eq_self_or (cs : List Char) :
    ¬ escapedBraces <:+: cs ∧ markEscapes cs = cs ∨
      escapedBraces <:+: cs ∧ '\x00' ∈ markEscapes cs := by
  have escapes : escapedBraces <:+: cs → .escape ∈ pieces cs := by
    intro occurs
    fun_induction pieces cs with
    | case1 rest _ => exact List.mem_cons_self
    | case2 c rest other ih =>
      rcases List.infix_cons_iff.mp occurs with ⟨behind, same⟩ | later
      · obtain ⟨rfl, rfl⟩ := List.cons.inj same
        exact absurd rfl (other behind rfl)
      · exact List.mem_cons_of_mem _ (ih later)
    | case3 => exact absurd (List.infix_nil.mp occurs) (by decide)
  by_cases met : .escape ∈ pieces cs
  · have occurs : escapedBraces <:+: spell escapedBraces (pieces cs) := infix_spell met
    rw [spell_pieces] at occurs
    refine .inr ⟨occurs, ?_⟩
    rw [markEscapes, replaceAll_escapedBraces]
    exact (infix_spell met).mem (by decide)
  · refine .inl ⟨fun occurs => met (escapes occurs), ?_⟩
    rw [markEscapes, replaceAll_escapedBraces, spell_eq_of_not_mem met escapeMark escapedBraces, spell_pieces]

/-! ## 4. The three rounds -/

/-- The text renders: its escapes are marked, its references replaced, and the marks put back. -/
def Renders (value : Reference → Except TemplateProblem String) (cs out : List Char) : Prop :=
  ∃ text, replaceReferences value (markEscapes cs) = .ok text ∧
    out = Text.replaceAll escapeMark openBraces text

theorem renders_nil : Renders value [] out ↔ out = [] := by
  constructor
  · rintro ⟨text, h, rfl⟩
    obtain rfl := replaceReferences_nil.mp h
    rfl
  · rintro rfl
    exact ⟨[], replaceReferences_nil.mpr rfl, rfl⟩

/-- **An escape** gives opening braces. -/
theorem renders_escape : Renders value (escapedBraces ++ cs) out ↔
    ∃ more, Renders value cs more ∧ out = openBraces ++ more := by
  have opens : '\x7b' ∉ escapeMark := by decide
  have nonempty : escapeMark ≠ [] := by decide
  unfold Renders
  rw [markEscapes_escape]
  constructor
  · rintro ⟨text, h, rfl⟩
    obtain ⟨more, hmore, rfl⟩ := (replaceReferences_append opens).mp h
    exact ⟨_, ⟨more, hmore, rfl⟩, Text.replaceAll_append nonempty⟩
  · rintro ⟨_, ⟨more, hmore, rfl⟩, rfl⟩
    exact ⟨escapeMark ++ more, (replaceReferences_append opens).mpr ⟨more, hmore, rfl⟩,
      (Text.replaceAll_append nonempty).symm⟩

/-- **A character** that starts neither an escape nor a reference is copied. -/
theorem renders_literal (hc : c ≠ '\x00') (noEscape : ¬ escapedBraces <+: c :: cs)
    (noReference : ¬ openBraces <+: c :: cs) : Renders value (c :: cs) out ↔
      ∃ more, Renders value cs more ∧ out = c :: more := by
  have passed : ¬ openBraces <+: c :: markEscapes cs := fun met =>
    noReference (pair_prefix_of_markEscapes (by decide) met)
  have kept : ∀ text, Text.replaceAll escapeMark openBraces (c :: text) =
      c :: Text.replaceAll escapeMark openBraces text := fun text =>
    replaceAll_escapeMark_append (show '\x00' ∉ [c] by simpa using hc.symm)
  unfold Renders
  rw [markEscapes_cons noEscape]
  constructor
  · rintro ⟨text, h, rfl⟩
    obtain ⟨more, hmore, rfl⟩ := (replaceReferences_cons passed).mp h
    exact ⟨_, ⟨more, hmore, rfl⟩, kept more⟩
  · rintro ⟨_, ⟨more, hmore, rfl⟩, rfl⟩
    exact ⟨c :: more, (replaceReferences_cons passed).mpr ⟨more, hmore, rfl⟩, (kept more).symm⟩

/-- **A reference** gives its value, if it is closed. -/
theorem renders_reference (lacks : ∀ r v, value r = .ok v → '\x00' ∉ v.toList) :
    Renders value (openBraces ++ cs) out ↔
      ∃ inner after, Text.cut? closeBraces cs = some (inner, after) ∧
        ∃ r, Reference.ofText? (String.ofList (Text.trim (markEscapes inner))) = some r ∧
          ∃ v, value r = .ok v ∧ ∃ more, Renders value after more ∧ out = v.toList ++ more := by
  have marked : markEscapes (openBraces ++ cs) = openBraces ++ markEscapes cs :=
    (markEscapes_cons_of_ne (by decide)).trans
      (congrArg ('\x7b' :: ·) (markEscapes_cons_of_ne (by decide)))
  unfold Renders
  rw [marked]
  constructor
  · rintro ⟨text, h, rfl⟩
    obtain ⟨_, _, hcut, r, known, v, hv, more, hmore, rfl⟩ := replaceReferences_opened.mp h
    obtain ⟨⟨inner, after⟩, within, same⟩ :=
      Option.map_eq_some_iff.mp ((cut?_markEscapes cs).symm.trans hcut)
    cases same
    exact ⟨inner, after, within, r, known, v, hv, _, ⟨more, hmore, rfl⟩,
      replaceAll_escapeMark_append (lacks r v hv)⟩
  · rintro ⟨inner, after, hcut, r, known, v, hv, _, ⟨more, hmore, rfl⟩, rfl⟩
    refine ⟨v.toList ++ more, replaceReferences_opened.mpr
      ⟨markEscapes inner, markEscapes after, ?_, r, known, v, hv, more, hmore, rfl⟩,
      (replaceAll_escapeMark_append (lacks r v hv)).symm⟩
    rw [cut?_markEscapes, hcut]
    rfl

/-! ## 5. Rendering from segments -/

/-- A reference that stands for something is written with the characters of the document. -/
theorem StandsFor.lacks (h : StandsFor ruleId doc context s v) (plain : doc.Lacks '\x00') :
    '\x00' ∉ s.toList := by
  rcases h with rfl | rfl | _ | _ | _ | ⟨_, found⟩
  iterate 5 decide
  have name := (plain.attributes (Document.mem_attributes_of_attribute? found)).1
  intro met
  rw [String.toList_append] at met
  rcases List.mem_append.mp met with sign | met
  · exact absurd sign (by decide)
  · exact name met

/-- The value of a reference is written with the characters of the rule and the document. -/
theorem Reference.not_mem_value {r : Reference} (h : r.value doc ruleId context = .ok v)
    (rule : '\x00' ∉ ruleId.toList) (plain : doc.Lacks '\x00') (known : context.Exists doc) :
    '\x00' ∉ v.toList := by
  rcases r with _ | _ | _ | _ | wanted
  · rcases context with id | ⟨owner, own⟩
    · obtain rfl := Except.ok.inj h
      cases named : doc.name? id with
      | none => exact List.not_mem_nil
      | some n => exact plain.name? named
    · obtain rfl := Except.ok.inj h
      exact Item.not_mem_name plain known
  · obtain rfl := Except.ok.inj h
    exact Item.not_mem_location plain known (by decide) (by decide)
  · obtain rfl := Except.ok.inj h
    intro met
    rcases Text.mem_normalizeSpace met with space | own
    · cases space
    · exact Item.not_mem_stringValue plain own
  · obtain rfl := Except.ok.inj h
    exact rule
  · rw [Reference.value] at h
    split at h
    · rename_i found
      obtain rfl := Except.ok.inj h
      exact (plain.attributes (Document.mem_attributes_of_attribute? found)).2
    · cases h

/-- **A marked reference has a value** if the reference holds no escape and stands for it. -/
theorem value_markEscapes_iff (plain : doc.Lacks '\x00') {inner : List Char} :
    (∃ r, Reference.ofText? (String.ofList (Text.trim (markEscapes inner))) = some r ∧
      r.value doc ruleId context = .ok v) ↔
        ¬ escapedBraces <:+: inner ∧
          StandsFor ruleId doc context (String.ofList (Text.trim inner)) v := by
  rw [← standsFor_iff]
  rcases markEscapes_eq_self_or inner with ⟨noEscape, same⟩ | ⟨occurs, marked⟩
  · rw [same, and_iff_right noEscape]
  · refine iff_of_false (fun h => h.lacks plain ?_) fun h => h.1 occurs
    rw [String.toList_ofList]
    exact mem_trim_of_mem (by decide) marked

theorem exists_parts_cons_iff {R : Segment → List Char → Prop} {s : Segment} {ss : List Segment} :
    (∃ parts, List.Forall₂ R (s :: ss) parts ∧ out = parts.flatten) ↔
      ∃ part, R s part ∧ ∃ more, (∃ parts, List.Forall₂ R ss parts ∧ more = parts.flatten) ∧
        out = part ++ more := by
  constructor
  · rintro ⟨_, h, rfl⟩
    obtain ⟨part, parts, own, others, rfl⟩ := List.forall₂_cons_left_iff.mp h
    exact ⟨part, own, _, ⟨parts, others, rfl⟩, List.flatten_cons⟩
  · rintro ⟨part, own, _, ⟨parts, others, rfl⟩, rfl⟩
    exact ⟨part :: parts, .cons own others, List.flatten_cons.symm⟩

/-- **A text renders to what its segments give**, by induction on them. -/
theorem renders_iff (rule : '\x00' ∉ ruleId.toList) (plain : doc.Lacks '\x00')
    (known : context.Exists doc) (own : '\x00' ∉ cs) :
    Renders (Reference.value doc ruleId context) cs out ↔
      ∃ parts, List.Forall₂ (Segment.Gives ruleId doc context) (segments cs) parts ∧
        out = parts.flatten := by
  have lacks : ∀ r v, Reference.value doc ruleId context r = .ok v → '\x00' ∉ v.toList :=
    fun _ _ h => Reference.not_mem_value h rule plain known
  have behind : ∀ (front : List Char) {rest}, '\x00' ∉ front ++ rest → '\x00' ∉ rest :=
    fun front _ own met => own (List.mem_append_right front met)
  fun_induction segments cs generalizing out with
  | case1 rest ih =>
    have shorter := fun out => @ih out (behind escapedBraces own)
    rw [exists_parts_cons_iff]
    refine renders_escape.trans ?_
    simp only [shorter]
    constructor
    · rintro ⟨rendered, parts, same⟩
      exact ⟨_, .escape, rendered, parts, same⟩
    · rintro ⟨_, ⟨⟩, rendered, parts, same⟩
      exact ⟨rendered, parts, same⟩
  | case2 rest hcut =>
    -- braces that are not closed render to nothing, and the segment gives nothing
    refine iff_of_false (fun h => ?_) (fun h => ?_)
    · obtain ⟨_, _, closed, _⟩ := (renders_reference lacks).mp h
      rw [hcut] at closed
      cases closed
    · obtain ⟨_, gives, _⟩ := exists_parts_cons_iff.mp h
      cases gives
  | case3 rest inner after hcut _ ih =>
    rw [Text.eq_of_cut? hcut] at own
    have shorter := fun out => @ih out (behind (openBraces ++ (inner ++ closeBraces)) (by
      simpa [openBraces] using own))
    rw [exists_parts_cons_iff]
    refine (renders_reference lacks).trans ?_
    constructor
    · rintro ⟨_, _, closed, r, text, v, hv, _, rendered, same⟩
      cases hcut.symm.trans closed
      obtain ⟨noEscape, stands⟩ := (value_markEscapes_iff plain).mp ⟨r, text, hv⟩
      exact ⟨_, .reference noEscape stands, _, (shorter _).mp rendered, same⟩
    · rintro ⟨_, gives, _, parts, same⟩
      cases gives with | reference noEscape stands => _
      obtain ⟨r, text, hv⟩ := (value_markEscapes_iff plain).mpr ⟨noEscape, stands⟩
      exact ⟨inner, after, hcut, r, text, _, hv, _, (shorter _).mpr parts, same⟩
  | case4 c rest noEscape noReference ih =>
    have shorter := fun out => @ih out (behind [c] own)
    have other : c ≠ '\x00' := fun same => own (same ▸ List.mem_cons_self)
    have plainStart : ¬ escapedBraces <+: c :: rest := by
      rintro ⟨more, same⟩
      obtain ⟨rfl, rfl⟩ := List.cons.inj same
      exact noEscape more rfl rfl
    have noOpening : ¬ openBraces <+: c :: rest := by
      rintro ⟨more, same⟩
      obtain ⟨rfl, rfl⟩ := List.cons.inj same
      exact noReference more rfl rfl
    rw [exists_parts_cons_iff, renders_literal other plainStart noOpening]
    simp only [shorter]
    constructor
    · rintro ⟨rendered, parts, same⟩
      exact ⟨_, .literal, rendered, parts, same⟩
    · rintro ⟨_, ⟨⟩, rendered, parts, same⟩
      exact ⟨rendered, parts, same⟩
  | case5 =>
    rw [renders_nil]
    constructor
    · rintro rfl
      exact ⟨[], .nil, rfl⟩
    · rintro ⟨_, ⟨⟩, rfl⟩
      rfl

/-- **A message is what the segments of its template give.** -/
theorem renderMessage_eq_ok_iff {template message : String} (rule : '\x00' ∉ ruleId.toList)
    (plain : doc.Lacks '\x00') (known : context.Exists doc) (own : '\x00' ∉ template.toList) :
    renderMessage template ruleId doc context = .ok message ↔
      ∃ parts, List.Forall₂ (Segment.Gives ruleId doc context) (segments template.toList) parts ∧
        message = String.ofList parts.flatten := by
  rw [renderMessage]
  refine bind_eq_ok.trans ⟨?_, ?_⟩
  · rintro ⟨text, rendered, same⟩
    obtain ⟨parts, gives, out⟩ := (renders_iff rule plain known own).mp ⟨text, rendered, rfl⟩
    exact ⟨parts, gives, out ▸ (Except.ok.inj same).symm⟩
  · rintro ⟨parts, gives, rfl⟩
    obtain ⟨text, rendered, out⟩ := (renders_iff rule plain known own).mpr ⟨parts, gives, rfl⟩
    exact ⟨text, rendered, congrArg (Except.ok ∘ String.ofList) out.symm⟩

/-- **A message is rendered from the segments of its template**, read once from the left: what they
    give is joined, and nothing of it is looked at again. If one of them gives nothing, there is no
    message. No string may hold the character that the marks of escapes are bounded by. -/
theorem renderMessage_reads_segments (template ruleId : String) (doc : Document) (context : Item)
    (own : '\x00' ∉ template.toList) (rule : '\x00' ∉ ruleId.toList) (plain : doc.Lacks '\x00')
    (known : context.Exists doc) :
    ∃ answer, renderMessage? template ruleId doc context = some answer ∧
      (∀ message, answer = .ok message ↔
        ∃ parts, List.Forall₂ (Segment.Gives ruleId doc context) (segments template.toList) parts ∧
          message = String.ofList parts.flatten) ∧
      ((∃ problem, answer = .error problem) ↔
        ∃ s ∈ segments template.toList, ∀ part, ¬ s.Gives ruleId doc context part) := by
  have within : context.within doc = true := Item.within_iff.mpr known.nodeId_lt
  have rendered : ∀ message, renderMessage template ruleId doc context = .ok message ↔ _ :=
    fun message => renderMessage_eq_ok_iff rule plain known own
  refine ⟨_, if_pos within, rendered, ?_⟩
  constructor
  · rintro ⟨problem, failed⟩
    by_contra all
    have some : ∀ s ∈ segments template.toList, ∃ part, s.Gives ruleId doc context part :=
      fun s hs => by_contra fun none => all ⟨s, hs, not_exists.mp none⟩
    obtain ⟨parts, gives⟩ := exists_forall₂ some
    cases failed.symm.trans ((rendered _).mpr ⟨parts, gives, rfl⟩)
  · rintro ⟨s, hs, nothing⟩
    cases answer : renderMessage template ruleId doc context with
    | error problem => exact ⟨problem, rfl⟩
    | ok message =>
      obtain ⟨parts, gives, _⟩ := (rendered message).mp answer
      obtain ⟨part, _, own⟩ := exists_of_forall₂ gives hs
      exact absurd own (nothing part)

/-- A footnote whose kind is written with braces. -/
def bracedNote : Element :=
  (({ name := "fn" } : Element).attr "fn-type" "\x7b\x7bname\x7d\x7d").text "a  note"

/-- A template with an escape, a reference with blanks in it, and the name of an attribute. -/
def noteTemplate : String :=
  "\\\x7b\x7b \x7b\x7b text \x7d\x7d: \x7b\x7b@fn-type\x7d\x7d"

theorem renderMessage_reads_segments_note :
    '\x00' ∉ noteTemplate.toList ∧ '\x00' ∉ "fn-kind".toList ∧
      (Document.ofElement bracedNote).Lacks '\x00' ∧ Item.Exists (.ofElement bracedNote) (.node 1) ∧
      ∃ answer, renderMessage? noteTemplate "fn-kind" (.ofElement bracedNote) (.node 1) =
          some answer ∧
        (∀ message, answer = .ok message ↔
          ∃ parts, List.Forall₂ (Segment.Gives "fn-kind" (.ofElement bracedNote) (.node 1))
              (segments noteTemplate.toList) parts ∧ message = String.ofList parts.flatten) ∧
        ((∃ problem, answer = .error problem) ↔ ∃ s ∈ segments noteTemplate.toList,
          ∀ part, ¬ s.Gives "fn-kind" (.ofElement bracedNote) (.node 1) part) := by
  have own : '\x00' ∉ noteTemplate.toList := by decide +kernel
  have rule : '\x00' ∉ "fn-kind".toList := by decide
  have plain : (Document.ofElement bracedNote).Lacks '\x00' := by decide +kernel
  have known : Item.Exists (.ofElement bracedNote) (.node 1) := by decide
  exact ⟨own, rule, plain, known, renderMessage_reads_segments _ _ _ _ own rule plain known⟩

example : renderMessage noteTemplate "fn-kind" (.ofElement bracedNote) (.node 1) =
    .ok "\x7b\x7b a note: \x7b\x7bname\x7d\x7d" := by
  cbv

end MarkupRules
