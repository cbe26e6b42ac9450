import MarkupRules.Proofs.Registry.Grouping
import MarkupRules.Proofs.Registry.Truthfulness

/-!
# Rules do not depend on each other

A registry of rules that name their phases, and the same with its rules in another order or with
further rules among them.

* `Registry.exists_ofRules_eq_ok_iff` -- when rules are accepted, told without their order;
* `Registry.validate_of_ofRules` -- what a phase reports, told from the rules;
* `Registry.Agree` -- two outcomes of a phase that differ in the order of their results at most;
* `Interleaves` -- a list of rules with others inserted anywhere;
* `Registry.rules_independent` -- **the order of rules changes the order of results and nothing
  else, and rules of other phases change nothing**.
-/

namespace MarkupRules

variable {rules rules' others : List Rule} {r : Rule} {name phase : String} {doc : Document}

/-! ## 1. Inserted rules -/

/-- The last list is the first one with the rules of the second inserted, both keeping their
    order. -/
inductive Interleaves : List Rule → List Rule → List Rule → Prop
  | nil : Interleaves [] [] []
  | keep {rules others rules' : List Rule} (r : Rule) : Interleaves rules others rules' →
      Interleaves (r :: rules) others (r :: rules')
  | insert {rules others rules' : List Rule} (r : Rule) : Interleaves rules others rules' →
      Interleaves rules (r :: others) (r :: rules')

theorem Interleaves.sublist (h : Interleaves rules others rules') : rules.Sublist rules' := by
  induction h with
  | nil => exact .slnil
  | keep r _ ih => exact ih.cons_cons r
  | insert r _ ih => exact ih.cons r

/-- Rules of other phases do not belong to the phase. -/
theorem Interleaves.rulesOf_eq (h : Interleaves rules others rules')
    (apart : ∀ r ∈ others, r.phase ≠ name) : rulesOf rules' name = rulesOf rules name := by
  induction h with
  | nil => rfl
  | keep r _ ih =>
    rw [← List.singleton_append, rulesOf_append, ih apart, ← rulesOf_append]
    rfl
  | insert r _ ih =>
    obtain ⟨first, more⟩ := List.forall_mem_cons.mp apart
    rw [← List.singleton_append, rulesOf_append,
      rulesOf_eq_nil (List.forall_mem_singleton.mpr first), ih more]
    rfl

namespace Registry

variable {reg : Registry}

/-! ## 2. Registries of rules -/

/-- **Rules are accepted** if each is without fault and names a phase well, and no id is taken
    twice. -/
theorem exists_ofRules_eq_ok_iff : (∃ reg, ofRules rules = .ok reg) ↔
    (∀ r ∈ rules, r.fault? = none ∧ r.phase ≠ allPhase ∧ isIdentifier r.phase = true) ∧
      (rules.map (·.id)).Nodup := by
  have groups := Groups.of_phasesOf rules
  have named : ∀ p : Phase, p ∈ phasesOf rules → ∃ r ∈ rules, r.phase = p.name := fun p hp =>
    List.mem_map.mp (mem_names_phasesOf.mp (List.mem_map_of_mem (f := Phase.name) hp))
  simp only [ofRules, withPhases_eq_ok_iff, rulesFault?_eq_none_iff, phasesFault?_eq_none_iff,
    Phase.fault?_eq_none_iff, List.not_mem_nil, not_false_iff, and_true, true_and]
  constructor
  · intro h
    obtain ⟨_, _, ⟨fine, nodup⟩, wellNamed, _⟩ := h
    refine ⟨fun r hr => ⟨fine r hr, ?_⟩, nodup⟩
    obtain ⟨p, hp, same⟩ := List.mem_map.mp (groups.covered r hr)
    obtain ⟨notAll, format, _⟩ := wellNamed p hp
    rw [← same]
    exact ⟨notAll, format⟩
  · intro h
    obtain ⟨fine, nodup⟩ := h
    refine ⟨_, rfl, ⟨fun r hr => (fine r hr).1, nodup⟩, fun p hp => ?_, groups.names⟩
    obtain ⟨r, hr, same⟩ := named p hp
    obtain ⟨_, notAll, format⟩ := fine r hr
    refine ⟨same ▸ notAll, same ▸ format, fun id hid => ?_⟩
    rw [groups.listed p hp] at hid
    obtain ⟨r', hr', rfl⟩ := List.mem_map.mp hid
    exact List.mem_map_of_mem (mem_rulesOf.mp hr').1

theorem rules_of_ofRules (built : ofRules rules = .ok reg) : reg.rules = rules := by
  obtain ⟨rfl, _⟩ := withPhases_eq_ok_iff.mp built
  rfl

/-- The phases of a registry of rules are those that the rules name. -/
theorem mem_phaseNames_of_ofRules (built : ofRules rules = .ok reg) :
    phase ∈ reg.phaseNames ↔ phase ∈ rules.map (·.phase) :=
  (Accepted.ofRules built).mem_names_iff.symm

theorem resolve_of_ofRules (built : ofRules rules = .ok reg) (declared : phase ∈ reg.phaseNames) :
    reg.resolve phase = .ok (rulesOf rules phase) := by
  obtain ⟨rfl, _⟩ := withPhases_eq_ok_iff.mp built
  exact (Accepted.ofRules built).resolve_of_groups (Groups.of_phasesOf rules) declared

/-! ## 3. Outcomes -/

/-- Two outcomes of a phase agree if both find no such phase, or if both are reports that are
    equally valid and hold the same results, each as often. -/
inductive Agree (phase : String) : Except ConfigError Report → Except ConfigError Report → Prop
  | unknown : Agree phase (.error (.unknownPhase phase)) (.error (.unknownPhase phase))
  | reports {report report' : Report} : report.phase = phase → report'.phase = phase →
      report.valid = report'.valid → report.results.Perm report'.results →
        Agree phase (.ok report) (.ok report')

theorem agree_of_perm {reg' : Registry} {runs runs' : List Rule}
    (resolved : reg.resolve phase = .ok runs) (resolved' : reg'.resolve phase = .ok runs')
    (h : runs.Perm runs') : Agree phase (reg.validate doc phase) (reg'.validate doc phase) := by
  have results := h.flatMap_right (·.evaluate doc)
  rw [validate_of_resolve resolved, validate_of_resolve resolved']
  exact .reports rfl rfl results.all_eq results

/-- The order in which rules are given changes at most the order of results. -/
theorem agree_of_ofRules {reg' : Registry} (h : rules.Perm rules') (built : ofRules rules = .ok reg)
    (built' : ofRules rules' = .ok reg') :
    Agree phase (reg.validate doc phase) (reg'.validate doc phase) := by
  have declared : phase ∈ reg'.phaseNames ↔ phase ∈ reg.phaseNames := by
    rw [mem_phaseNames_of_ofRules built, mem_phaseNames_of_ofRules built']
    exact (h.map _).mem_iff.symm
  by_cases every : phase = allPhase
  · have all : ∀ reg : Registry, reg.resolve phase = .ok reg.rules := fun reg => if_pos every
    refine agree_of_perm (all reg) (all reg') ?_
    rw [rules_of_ofRules built, rules_of_ofRules built']
    exact h
  · by_cases known : phase ∈ reg.phaseNames
    · exact agree_of_perm (resolve_of_ofRules built known)
        (resolve_of_ofRules built' (declared.mpr known)) (h.filter _)
    · rw [validate_eq_error_iff.mpr ⟨⟨every, known⟩, rfl⟩,
        validate_eq_error_iff.mpr ⟨⟨every, declared.not.mpr known⟩, rfl⟩]
      exact .unknown

/-! ## 4. Independence -/

/-- **Rules do not depend on each other.** Rules in another order are accepted if and only if they
    are, and every phase then gives the same results in some order, or none of the two registries
    has it. Where rules are accepted with others inserted anywhere, they are accepted without
    them, and the report of each phase that none of the others belongs to stays as it is. -/
theorem rules_independent (rules : List Rule) :
    (∀ rules', rules.Perm rules' →
      ((∃ reg, ofRules rules = .ok reg) ↔ ∃ reg', ofRules rules' = .ok reg') ∧
      ∀ reg reg', ofRules rules = .ok reg → ofRules rules' = .ok reg' → ∀ doc phase,
        Agree phase (reg.validate doc phase) (reg'.validate doc phase)) ∧
    ∀ others rules' reg', Interleaves rules others rules' → ofRules rules' = .ok reg' →
      ∃ reg, ofRules rules = .ok reg ∧
        ∀ phase ∈ reg.phaseNames, (∀ r ∈ others, r.phase ≠ phase) →
          ∀ doc, reg'.validate doc phase = reg.validate doc phase := by
  constructor
  · intro rules' h
    refine ⟨?_, fun reg reg' built built' doc phase => agree_of_ofRules h built built'⟩
    rw [exists_ofRules_eq_ok_iff, exists_ofRules_eq_ok_iff, (h.map _).nodup_iff]
    simp only [h.mem_iff]
  · intro others rules' reg' h built'
    obtain ⟨fine, nodup⟩ := exists_ofRules_eq_ok_iff.mp ⟨reg', built'⟩
    obtain ⟨reg, built⟩ := exists_ofRules_eq_ok_iff.mpr
      ⟨fun r hr => fine r (h.sublist.mem hr), nodup.sublist (h.sublist.map _)⟩
    refine ⟨reg, built, fun phase known apart doc => ?_⟩
    have known' : phase ∈ reg'.phaseNames := by
      rw [mem_phaseNames_of_ofRules built] at known
      rw [mem_phaseNames_of_ofRules built']
      exact (h.sublist.map _).mem known
    rw [validate_of_resolve (resolve_of_ofRules built known),
      validate_of_resolve (resolve_of_ofRules built' known'), h.rulesOf_eq apart]

/-- A section has to have a label. -/
def sectionLabel : Rule where
  id := "section.label"
  phase := "labels"
  context := labelledSection.context
  test := .present ⟨"@label", [⟨false, [⟨.attribute, .name "label", []⟩]⟩]⟩

theorem rules_independent_sections :
    [labelledSection, sectionLabel].Perm [sectionLabel, labelledSection] ∧
      Interleaves [labelledSection] [sectionLabel] [sectionLabel, labelledSection] ∧
      ∃ reg reg' alone, ofRules [labelledSection, sectionLabel] = .ok reg ∧
        ofRules [sectionLabel, labelledSection] = .ok reg' ∧
        ofRules [labelledSection] = .ok alone ∧
        Agree allPhase (reg.validate (.ofElement nestedSections) allPhase)
          (reg'.validate (.ofElement nestedSections) allPhase) ∧
        reg'.validate (.ofElement nestedSections) "sections" =
          alone.validate (.ofElement nestedSections) "sections" := by
  have swapped : [labelledSection, sectionLabel].Perm [sectionLabel, labelledSection] := .swap _ _ _
  have inserted : Interleaves [labelledSection] [sectionLabel] [sectionLabel, labelledSection] :=
    .insert _ (.keep _ .nil)
  obtain ⟨reg, built⟩ := exists_ofRules_eq_ok_iff.mpr
    (show (∀ r ∈ [labelledSection, sectionLabel], _) ∧ _ by decide +kernel)
  have reordered := (rules_independent _).1 _ swapped
  obtain ⟨reg', built'⟩ := reordered.1.mp ⟨reg, built⟩
  obtain ⟨alone, builtAlone, same⟩ := (rules_independent _).2 _ _ reg' inserted built'
  refine ⟨swapped, inserted, reg, reg', alone, built, built', builtAlone,
    reordered.2 reg reg' built built' _ _, same "sections" ?_ ?_ _⟩
  · rw [mem_phaseNames_of_ofRules builtAlone]
    exact List.mem_cons_self
  · exact List.forall_mem_singleton.mpr (by decide)

end Registry

end MarkupRules
