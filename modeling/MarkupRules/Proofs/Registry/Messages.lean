import MarkupRules.Proofs.Registry.Checks
import MarkupRules.Proofs.Registry.Truthfulness
import MarkupRules.Proofs.Rule.Template

/-!
# The messages of accepted rules

A registry is not built from rules with an unknown reference in a message, so that messages can be
rendered when rules fail. The check vouches for references that are complete: braces that are not
closed show only when a message is rendered, and the standard message is taken in its place.

* `unknownReferenceFault` -- the error about an unknown reference, and the only rule to blame for it;
* `Registry.template_check_agrees` -- **the check of messages and their rendering agree**;
* `Registry.template_check_differs` -- where they do not.
-/

namespace MarkupRules

/-! ## 1. Faults of messages -/

/-- The error about an unknown reference in the message of a rule. -/
def unknownReferenceFault (id x : String) : ConfigError :=
  (ConfigError.malformed ("unknown message template reference '\x7b\x7b" ++ x ++
    "\x7d\x7d'")).inRule id

variable {r : Rule} {id x : String}

/-- **The error is about the rule that it names**, and there is an unknown reference in its
    message. -/
theorem Rule.exists_unknown_of_fault? (h : r.fault? = some (unknownReferenceFault id x)) :
    r.id = id ∧ ∃ y ∈ referencesIn r.message, isKnownReference y = false := by
  unfold Rule.fault? at h
  split at h
  · -- the error about the id starts with another letter
    have words := congrArg (·.map fun e => e.message.toList.head?) h
    simp [ConfigError.inRule, ConfigError.malformed, unknownReferenceFault] at words
  · obtain ⟨y, hy, same⟩ := Option.map_eq_some_iff.mp h
    have named : some r.id = some id := congrArg ConfigError.ruleId same
    refine ⟨Option.some.inj named, y, List.mem_of_find?_eq_some hy, ?_⟩
    simpa using List.find?_some hy

/-- The first fault among rules is the fault of one of them, or an id that is taken. -/
theorem exists_of_rulesFault?_eq_some {e : ConfigError} {rules : List Rule} {seen : List String}
    (h : rulesFault? seen rules = some e) :
    (∃ r ∈ rules, r.fault? = some e) ∨ ∃ id, e = duplicateRule id := by
  obtain ⟨before, r, after, known, rfl, _, _, found⟩ := isWalk_rulesFault?.exists_split h
  rcases Option.or_eq_some_iff.mp found with own | ⟨_, taken⟩
  · exact .inl ⟨r, List.mem_append_right before List.mem_cons_self, own⟩
  · split at taken
    · cases taken
      exact .inr ⟨r.id, rfl⟩
    · cases taken

/-- A fault among phases blames a phase. -/
theorem phase_isSome_of_phasesFault? {e : ConfigError} {ids seen : List String}
    {phases : List Phase} (h : phasesFault? ids seen phases = some e) : e.phase.isSome = true := by
  obtain ⟨_, p, _, _, _, _, _, found⟩ := (isWalk_phasesFault? ids).exists_split h
  rw [(p.blamed_of_fault? found).1]
  rfl

namespace Registry

/-- **An unknown reference is the fault of a rule**, whatever the other rules and the phases. -/
theorem exists_unknown_of_withPhases {rules : List Rule} {phases : List Phase}
    (h : withPhases rules phases = .error (unknownReferenceFault id x)) :
    ∃ r ∈ rules, r.id = id ∧ ∃ y ∈ referencesIn r.message, isKnownReference y = false := by
  unfold withPhases at h
  cases ruleFault : rulesFault? [] rules with
  | some e =>
    rw [ruleFault] at h
    cases h
    rcases exists_of_rulesFault?_eq_some ruleFault with ⟨r, hr, fault⟩ | ⟨id', taken⟩
    · exact ⟨r, hr, Rule.exists_unknown_of_fault? fault⟩
    · cases congrArg ConfigError.kind taken
  | none =>
    rw [ruleFault] at h
    cases phaseFault : phasesFault? (rules.map (·.id)) [] phases with
    | some e =>
      rw [phaseFault] at h
      cases h
      cases phase_isSome_of_phasesFault? phaseFault
    | none =>
      rw [phaseFault] at h
      cases h

/-! ## 2. Checked messages -/

/-- **The check of messages and their rendering agree.** A message of an accepted rule is rendered
    for every item of a document, unless the item lacks an attribute, or braces of the message are
    never closed, or there is a closing brace or an escape between double braces. And no registry is
    refused for an unknown reference, if all that rendering would look up is known and no escape
    keeps braces apart that would be double braces without it. -/
theorem template_check_agrees :
    (∀ rules phases reg, withPhases rules phases = .ok reg → ∀ r ∈ reg.rules, ∀ doc context,
      Item.within doc context = true → ∃ outcome,
        renderMessage? r.message r.id doc context = some outcome ∧
          ∀ problem, outcome = .error problem →
            (∃ name, problem = .missingAttribute name) ∨
              (problem = .unclosed ∧ LeavesOpen (marked r.message)) ∨
                ∃ x ∈ referencesRead r.message, problem = .unknownReference x ∧
                  ('\x7d' ∈ x.toList ∨ escapeMark <:+: x.toList)) ∧
      ∀ rules phases id x, (∀ r ∈ rules, r.id = id → EscapesApart r.message ∧
        ∀ y ∈ referencesRead r.message, isKnownReference y = true) →
          withPhases rules phases ≠ .error (unknownReferenceFault id x) := by
  constructor
  · intro rules phases reg built r hr doc context within
    obtain ⟨rfl, faultless, _⟩ := withPhases_eq_ok_iff.mp built
    have checked := (Rule.fault?_eq_none_iff.mp ((rulesFault?_eq_none_iff.mp faultless).1 r hr).1).2
    refine ⟨_, if_pos within, fun problem failed => ?_⟩
    rcases renderMessage_eq_error failed with missing | unclosed | ⟨x, hx, unknown, same⟩
    · exact .inl missing
    · exact .inr (.inl unclosed)
    · refine .inr (.inr ⟨x, hx, same, ?_⟩)
      by_contra plain
      rw [not_or] at plain
      have known := isKnownReference_of_mem_referencesRead checked hx plain.1 plain.2
      obtain ⟨reference, found⟩ := exists_ofText?_of_isKnownReference known
      rw [unknown] at found
      cases found
  · intro rules phases id x fine refused
    obtain ⟨r, hr, named, y, hy, unknown⟩ := exists_unknown_of_withPhases refused
    obtain ⟨apart, known⟩ := fine r hr named
    rw [isKnownReference_of_mem_referencesIn apart known hy] at unknown
    cases unknown

/-- The rule about sections, with a message. -/
def worded (message : String) : Rule :=
  { labelledSection with message }

/-- Braces as they are, then a reference. -/
def escapedThenName : String :=
  "use \x5c\x7b\x7bname\x7d\x7d like <\x7b\x7bname\x7d\x7d>"

theorem template_check_agrees_escaped : ∃ reg,
    withPhases [worded escapedThenName] [] = .ok reg ∧
      (∃ outcome, renderMessage? escapedThenName "section.title" (.ofElement nestedSections) (.node 1) =
        some outcome ∧ ∀ problem, outcome = .error problem →
          (∃ name, problem = .missingAttribute name) ∨
            (problem = .unclosed ∧ LeavesOpen (marked escapedThenName)) ∨
              ∃ x ∈ referencesRead escapedThenName, problem = .unknownReference x ∧
                ('\x7d' ∈ x.toList ∨ escapeMark <:+: x.toList)) ∧
      (∀ r ∈ [worded escapedThenName], r.id = "section.title" → EscapesApart r.message ∧
        ∀ y ∈ referencesRead r.message, isKnownReference y = true) ∧
      withPhases [worded escapedThenName] [] ≠
        .error (unknownReferenceFault "section.title" "name") := by
  have built : withPhases [worded escapedThenName] [] = .ok ⟨[worded escapedThenName], []⟩ :=
    withPhases_eq_ok_iff.mpr ⟨rfl, by decide +kernel, rfl⟩
  have apart : EscapesApart escapedThenName := by
    intro brace hbrace n run
    have met : [.char brace, .escape] <:+: pieces escapedThenName.toList :=
      (show [Piece.char brace, Piece.escape] <+: _ from ⟨_, rfl⟩).isInfix.trans run
    rcases List.mem_pair.mp hbrace with rfl | rfl
    all_goals exact absurd met (by decide +kernel)
  have fine : ∀ r ∈ [worded escapedThenName], r.id = "section.title" → EscapesApart r.message ∧
      ∀ y ∈ referencesRead r.message, isKnownReference y = true := by
    intro r hr _
    obtain rfl := List.mem_singleton.mp hr
    exact ⟨apart, by decide +kernel⟩
  exact ⟨_, built, template_check_agrees.1 _ _ _ built _ List.mem_cons_self _ _ (by decide +kernel),
    fine, template_check_agrees.2 _ _ _ _ fine⟩

example : renderMessage? escapedThenName "section.title" (.ofElement nestedSections) (.node 1) =
    some (.ok "use \x7b\x7bname\x7d\x7d like <section>") := by
  decide +kernel

/-- **Where they differ.** Braces that are not closed pass the check and are not rendered; so does
    a text with a closing brace in it, which is no reference; and an escape that is deleted leaves
    braces of a reference that rendering does not see. -/
theorem template_check_differs :
    (∃ reg, withPhases [worded "\x7b\x7bname"] [] = .ok reg ∧
      renderMessage? "\x7b\x7bname" "section.title" (.ofElement nestedSections) (.node 1) =
        some (.error .unclosed)) ∧
      (∃ reg, withPhases [worded "\x7b\x7ba\x7db\x7d\x7d"] [] = .ok reg ∧
        renderMessage? "\x7b\x7ba\x7db\x7d\x7d" "section.title" (.ofElement nestedSections)
          (.node 1) = some (.error (.unknownReference "a\x7db"))) ∧
      withPhases [worded "\x7b\x5c\x7b\x7b\x7bnope\x7d\x7d"] [] =
        .error (unknownReferenceFault "section.title" "nope") ∧
      referencesRead "\x7b\x5c\x7b\x7b\x7bnope\x7d\x7d" = [] := by
  refine ⟨⟨⟨[worded "\x7b\x7bname"], []⟩, ?_, by decide +kernel⟩,
    ⟨⟨[worded "\x7b\x7ba\x7db\x7d\x7d"], []⟩, ?_, by decide +kernel⟩, ?_, by decide +kernel⟩
  · exact withPhases_eq_ok_iff.mpr ⟨rfl, by decide +kernel, rfl⟩
  · exact withPhases_eq_ok_iff.mpr ⟨rfl, by decide +kernel, rfl⟩
  · have fault : rulesFault? [] [worded "\x7b\x5c\x7b\x7b\x7bnope\x7d\x7d"] =
        some (unknownReferenceFault "section.title" "nope") := by decide +kernel
    rw [withPhases, fault]

end Registry

end MarkupRules
