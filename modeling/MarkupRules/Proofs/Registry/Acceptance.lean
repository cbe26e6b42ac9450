import MarkupRules.Registry.Validation
import Mathlib.Data.List.Nodup

/-!
# Accepted registries

What a registry that was built without a fault is like, and which rules its phases run.

* `rulesFault?_eq_none_iff`, `phasesFault?_eq_none_iff` -- no fault, told without the walk through
  the lists;
* `Registry.Accepted` -- a registry that was accepted, with the names of the phases it was given;
* `Registry.Runs` -- the rules of a phase: all of them, or one for each id that the phase lists;
* `Registry.resolve_eq_error_iff` -- **resolving fails exactly on an undeclared name**;
* `Registry.Accepted.runs_of_resolve` -- **a phase of an accepted registry loses no rule**.
-/

namespace MarkupRules

/-! ## 1. No fault -/

/-- **Rules are without fault** if each one is and no id is taken twice. -/
theorem rulesFault?_eq_none_iff : ∀ {rules : List Rule} {seen : List String},
    rulesFault? seen rules = none ↔
      (∀ r ∈ rules, r.fault? = none ∧ r.id ∉ seen) ∧ (rules.map (·.id)).Nodup
  | [], seen => by simp [rulesFault?]
  | r :: rest, seen => by
    rw [rulesFault?]
    cases fault : r.fault? with
    | some e =>
      simp only [reduceCtorEq, List.mem_cons, forall_eq_or_imp, fault, false_and]
    | none =>
      by_cases taken : r.id ∈ seen
      · simp [taken]
      · have ih := @rulesFault?_eq_none_iff rest (r.id :: seen)
        simp only [List.contains_eq_mem, taken, decide_false, Bool.false_eq_true, if_false, ih,
          List.mem_cons, forall_eq_or_imp, fault, not_false_iff, and_self, true_and, not_or,
          List.map_cons, List.nodup_cons, List.mem_map, not_exists, not_and]
        constructor
        · intro h
          obtain ⟨fine, nodup⟩ := h
          exact ⟨fun r' hr' => ⟨(fine r' hr').1, (fine r' hr').2.2⟩,
            fun r' hr' => (fine r' hr').2.1, nodup⟩
        · intro h
          obtain ⟨fine, apart, nodup⟩ := h
          exact ⟨fun r' hr' => ⟨(fine r' hr').1, apart r' hr', (fine r' hr').2⟩, nodup⟩

/-- A rule is without fault if its id and the references of its message are in order. -/
theorem Rule.fault?_eq_none_iff {r : Rule} : r.fault? = none ↔
    isIdentifier r.id = true ∧ ∀ x ∈ referencesIn r.message, isKnownReference x = true := by
  unfold Rule.fault?
  cases format : isIdentifier r.id with
  | false => simp
  | true => simp [List.find?_eq_none]

theorem Phase.fault?_eq_none_iff {p : Phase} {ids seen : List String} : p.fault? ids seen = none ↔
    p.name ≠ allPhase ∧ isIdentifier p.name = true ∧ p.name ∉ seen ∧ ∀ id ∈ p.ruleIds, id ∈ ids := by
  unfold Phase.fault?
  by_cases reserved : p.name = allPhase
  · simp [reserved]
  · by_cases format : isIdentifier p.name = true
    · by_cases taken : p.name ∈ seen
      · simp [reserved, format, taken]
      · simp [reserved, format, taken]
    · simp [reserved, format]

/-- **Phases are without fault** if each one is and no name is taken twice. -/
theorem phasesFault?_eq_none_iff {ids : List String} : ∀ {phases : List Phase} {seen : List String},
    phasesFault? ids seen phases = none ↔
      (∀ p ∈ phases, p.fault? ids seen = none) ∧ (phases.map (·.name)).Nodup
  | [], seen => by simp [phasesFault?]
  | p :: rest, seen => by
    rw [phasesFault?]
    cases fault : p.fault? ids seen with
    | some e =>
      simp only [reduceCtorEq, List.mem_cons, forall_eq_or_imp, fault, false_and]
    | none =>
      have ih := @phasesFault?_eq_none_iff ids rest (p.name :: seen)
      -- one more name seen: no later phase may have it
      have more : ∀ q : Phase, q.fault? ids (p.name :: seen) = none ↔
          q.fault? ids seen = none ∧ q.name ≠ p.name := by
        intro q
        simp only [Phase.fault?_eq_none_iff, List.mem_cons, not_or]
        tauto
      simp only [ih, more, List.mem_cons, forall_eq_or_imp, fault, true_and, List.map_cons,
        List.nodup_cons, List.mem_map, not_exists, not_and]
      constructor
      · intro h
        obtain ⟨fine, nodup⟩ := h
        exact ⟨fun q hq => (fine q hq).1, fun q hq => (fine q hq).2, nodup⟩
      · intro h
        obtain ⟨fine, apart, nodup⟩ := h
        exact ⟨fun q hq => ⟨fine q hq, apart q hq⟩, nodup⟩

namespace Registry

variable {rules : List Rule} {phases : List Phase} {reg : Registry} {names : List String}

theorem withPhases_eq_ok_iff : withPhases rules phases = .ok reg ↔ reg = ⟨rules, phases⟩ ∧
    rulesFault? [] rules = none ∧ phasesFault? (rules.map (·.id)) [] phases = none := by
  unfold withPhases
  cases rulesFault? [] rules with
  | some e => simp
  | none =>
    cases phasesFault? (rules.map (·.id)) [] phases with
    | some e => simp
    | none => simp [eq_comm]

/-! ## 2. Phases named by rules -/

theorem mem_names_addToPhase {r : Rule} {name : String} : ∀ {phases : List Phase},
    name ∈ (addToPhase r phases).map (·.name) ↔ name = r.phase ∨ name ∈ phases.map (·.name)
  | [] => by simp [addToPhase]
  | p :: rest => by
    unfold addToPhase
    by_cases same : p.name = r.phase
    · rw [if_pos same, List.map_cons, List.map_cons, List.mem_cons]
      constructor
      · exact .inr
      · intro h
        rcases h with h | h
        · exact .inl (h.trans same.symm)
        · exact h
    · rw [if_neg same, List.map_cons, List.map_cons, List.mem_cons, mem_names_addToPhase,
        List.mem_cons]
      exact or_left_comm

/-- **The phases of a list of rules** are those that the rules name. -/
theorem mem_names_phasesOf {name : String} :
    name ∈ (phasesOf rules).map (·.name) ↔ name ∈ rules.map (·.phase) := by
  have added : ∀ (rules : List Rule) (phases : List Phase),
      name ∈ (rules.foldl (fun phases r => addToPhase r phases) phases).map (·.name) ↔
        name ∈ rules.map (·.phase) ∨ name ∈ phases.map (·.name) := by
    intro rules
    induction rules with
    | nil => simp
    | cons r rest ih =>
      intro phases
      rw [List.foldl_cons, ih, mem_names_addToPhase, List.map_cons, List.mem_cons]
      tauto
  rw [phasesOf, added]
  simp

/-! ## 3. Acceptance -/

/-- A registry that was accepted, and the names of its phases as they were given: by the rules
    themselves, or apart from them. -/
inductive Accepted : Registry → List String → Prop
  | ofRules {rules : List Rule} {reg : Registry} : Registry.ofRules rules = .ok reg →
      Accepted reg (rules.map (·.phase))
  | withPhases {rules : List Rule} {phases : List Phase} {reg : Registry} :
      Registry.withPhases rules phases = .ok reg → Accepted reg (phases.map (·.name))

/-- An accepted registry could be built again from what it holds. -/
theorem Accepted.rebuilt (h : Accepted reg names) :
    Registry.withPhases reg.rules reg.phases = .ok reg := by
  cases h with
  | ofRules built =>
    obtain ⟨rfl, _⟩ := withPhases_eq_ok_iff.mp built
    exact built
  | withPhases built =>
    obtain ⟨rfl, _⟩ := withPhases_eq_ok_iff.mp built
    exact built

/-- A name is declared if a phase of the registry has it. -/
theorem Accepted.mem_names_iff (h : Accepted reg names) {name : String} :
    name ∈ names ↔ name ∈ reg.phaseNames := by
  cases h with
  | ofRules built =>
    obtain ⟨rfl, _⟩ := withPhases_eq_ok_iff.mp built
    exact mem_names_phasesOf.symm
  | withPhases built =>
    obtain ⟨rfl, _⟩ := withPhases_eq_ok_iff.mp built
    exact Iff.rfl

/-- Rules of an accepted registry are told apart by their ids. -/
theorem Accepted.nodup_ids (h : Accepted reg names) : (reg.rules.map (·.id)).Nodup :=
  (rulesFault?_eq_none_iff.mp (withPhases_eq_ok_iff.mp h.rebuilt).2.1).2

/-- The ids that a phase of an accepted registry lists are ids of rules. -/
theorem Accepted.mem_ids (h : Accepted reg names) {p : Phase} (hp : p ∈ reg.phases) {id : String}
    (hid : id ∈ p.ruleIds) : id ∈ reg.rules.map (·.id) := by
  have faultless := (withPhases_eq_ok_iff.mp h.rebuilt).2.2
  have fine := (phasesFault?_eq_none_iff.mp faultless).1 p hp
  exact (Phase.fault?_eq_none_iff.mp fine).2.2.2 id hid

/-! ## 4. Resolving a phase -/

/-- The rules that a phase runs: all of them in their order, or for each id that the phase lists
    the rule of that id. -/
inductive Runs (reg : Registry) : String → List Rule → Prop
  | all : Runs reg allPhase reg.rules
  | listed {p : Phase} {rules : List Rule} : p ∈ reg.phases →
      List.Forall₂ (fun id r => r ∈ reg.rules ∧ r.id = id) p.ruleIds rules → Runs reg p.name rules

/-- **Resolving fails exactly on a name that no phase has**, and the error carries the name. -/
theorem resolve_eq_error_iff {name : String} {err : ConfigError} :
    reg.resolve name = .error err ↔
      (name ≠ allPhase ∧ name ∉ reg.phaseNames) ∧ err = .unknownPhase name := by
  unfold resolve phaseNames
  by_cases every : name = allPhase
  · simp [every]
  · rw [if_neg every]
    cases found : reg.phases.find? (fun p => p.name == name) with
    | none =>
      have undeclared : name ∉ reg.phases.map (·.name) := by
        simpa [List.find?_eq_none] using found
      simp [every, undeclared, eq_comm]
    | some p =>
      have declared : name ∈ reg.phases.map (·.name) := by
        have same : p.name = name := by simpa using List.find?_some found
        exact List.mem_map.mpr ⟨p, List.mem_of_find?_eq_some found, same⟩
      simp [declared]

/-- A name that is declared, or that stands for all rules, resolves. -/
theorem exists_resolve_eq_ok_iff {name : String} :
    (∃ rules, reg.resolve name = .ok rules) ↔ name = allPhase ∨ name ∈ reg.phaseNames := by
  cases h : reg.resolve name with
  | error err =>
    obtain ⟨⟨every, undeclared⟩, _⟩ := resolve_eq_error_iff.mp h
    simp [every, undeclared]
  | ok rules =>
    have declared : name = allPhase ∨ name ∈ reg.phaseNames := by
      by_contra none
      rw [not_or] at none
      rw [resolve_eq_error_iff.mpr ⟨none, rfl⟩] at h
      cases h
    simp [declared]

/-- A known id finds its rule. -/
theorem exists_rule?_eq {id : String} (h : id ∈ reg.rules.map (·.id)) :
    ∃ r, reg.rule? id = some r ∧ r ∈ reg.rules ∧ r.id = id := by
  obtain ⟨r, hr, rfl⟩ := List.mem_map.mp h
  have isSome : (reg.rule? r.id).isSome = true := by
    rw [rule?, List.find?_isSome]
    exact ⟨r, hr, beq_self_eq_true r.id⟩
  obtain ⟨found, hfound⟩ := Option.isSome_iff_exists.mp isSome
  refine ⟨found, hfound, List.mem_of_find?_eq_some hfound, ?_⟩
  simpa using List.find?_some hfound

/-- Where every id is known, looking them up in turn loses none. -/
theorem forall₂_filterMap_rule? {ids : List String} (known : ∀ id ∈ ids, id ∈ reg.rules.map (·.id)) :
    List.Forall₂ (fun id r => r ∈ reg.rules ∧ r.id = id) ids (ids.filterMap reg.rule?) := by
  induction ids with
  | nil => exact .nil
  | cons id rest ih =>
    obtain ⟨r, hr, listed⟩ := exists_rule?_eq (known id List.mem_cons_self)
    rw [List.filterMap_cons_some hr]
    exact .cons listed (ih fun id hid => known id (List.mem_cons_of_mem _ hid))

/-- **A phase of an accepted registry runs one rule for each id that it lists.** -/
theorem Accepted.runs_of_resolve (h : Accepted reg names) {name : String} {rules : List Rule}
    (resolved : reg.resolve name = .ok rules) : reg.Runs name rules := by
  unfold resolve at resolved
  by_cases every : name = allPhase
  · rw [if_pos every] at resolved
    cases resolved
    rw [every]
    exact .all
  · rw [if_neg every] at resolved
    cases found : reg.phases.find? (fun p => p.name == name) with
    | none =>
      rw [found] at resolved
      cases resolved
    | some p =>
      rw [found] at resolved
      cases resolved
      have hp := List.mem_of_find?_eq_some found
      have same : p.name = name := by simpa using List.find?_some found
      rw [← same]
      exact .listed hp (forall₂_filterMap_rule? fun id hid => h.mem_ids hp hid)

/-- The rules that a phase of an accepted registry resolves to answer to the ids that it lists. -/
theorem Accepted.forall₂_of_resolve (h : Accepted reg names) {p : Phase} {rules : List Rule}
    (resolved : reg.resolve p.name = .ok rules) (hp : p ∈ reg.phases) :
    List.Forall₂ (fun id r => r ∈ reg.rules ∧ r.id = id) p.ruleIds rules := by
  have faultless := phasesFault?_eq_none_iff.mp (withPhases_eq_ok_iff.mp h.rebuilt).2.2
  have fine := Phase.fault?_eq_none_iff.mp (faultless.1 p hp)
  have runs := h.runs_of_resolve resolved
  generalize hname : p.name = name at runs
  cases runs with
  | all => exact absurd hname fine.1
  | listed hq answers =>
    rw [List.inj_on_of_nodup_map faultless.2 hp hq hname]
    exact answers

end Registry

end MarkupRules
