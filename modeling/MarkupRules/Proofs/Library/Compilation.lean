import MarkupRules.Library.Basic
import MarkupRules.Proofs.Fallible
import MarkupRules.Proofs.Registry.Acceptance

/-!
# What a compiled library runs

A library is compiled rule by rule, and its registry resolves a phase to the rules that were
compiled from the draft of this phase, whatever the other phases are.

* `LibraryDraft.compile_eq_ok_iff` -- what a compiled library consists of;
* `LibraryDraft.InOrder.exists_registry` -- a draft in order is compiled and makes a registry;
* `LibraryDraft.resolve_of_compile` -- **a phase of the registry runs what its draft compiles to**.
-/

namespace MarkupRules

variable {d : Defaults} {reg : Registry}

/-! ## 1. Rules and phases -/

/-- **A compiled rule** is its draft with the paths compiled and the silences filled in. -/
theorem RuleDraft.compile_eq_ok_iff {phase : String} {r : RuleDraft} {rule : Rule} :
    r.compile d phase = .ok rule ↔ ∃ test context, r.test.compile d = .ok test ∧
      Path.Expr.compile r.context = .ok context ∧
        rule = ⟨r.id, phase, context.anchored, test, r.severity, r.message,
          r.blankIsAbsent.getD d.blankIsAbsent⟩ := by
  rw [RuleDraft.compile]
  cases r.test.compile d with
  | error e => simp
  | ok test =>
    simp only [map_eq_ok, Rule.compile]
    cases Path.Expr.compile r.context with
    | error e => simp
    | ok context => simp [eq_comm]

/-- A rule keeps the id and the message of its draft. -/
theorem RuleDraft.id_and_message_of_compile {phase : String} {r : RuleDraft} {rule : Rule}
    (h : r.compile d phase = .ok rule) : rule.id = r.id ∧ rule.message = r.message := by
  obtain ⟨_, _, _, _, rfl⟩ := RuleDraft.compile_eq_ok_iff.mp h
  exact ⟨rfl, rfl⟩

/-- The rules of a phase are those of its drafts, in order. -/
theorem PhaseDraft.compile_eq_ok_iff {p : PhaseDraft} {rules : List Rule} :
    p.compile d = .ok rules ↔
      List.Forall₂ (fun r rule => r.compile d p.name = .ok rule) p.rules rules := by
  rw [← mapM_eq_ok_iff, PhaseDraft.compile]
  cases p.rules.mapM (RuleDraft.compile d p.name) with
  | error e => exact ⟨fun h => (nomatch h), fun h => (nomatch h)⟩
  | ok rules' => exact Iff.rfl

theorem PhaseDraft.ids_of_compile {p : PhaseDraft} {rules : List Rule}
    (h : p.compile d = .ok rules) : rules.map (·.id) = p.toPhase.ruleIds := by
  have same := (PhaseDraft.compile_eq_ok_iff.mp h).imp fun _ _ h =>
    (RuleDraft.id_and_message_of_compile h).1
  have mapped : List.Forall₂ Eq (rules.map (·.id)) (p.rules.map (·.id)) := by
    rw [List.forall₂_map_left_iff, List.forall₂_map_right_iff]
    exact same.flip
  rw [List.forall₂_eq_eq_eq] at mapped
  exact mapped

/-- The rules of a phase belong to it. -/
theorem PhaseDraft.phase_of_mem_compile {p : PhaseDraft} {rules : List Rule} {rule : Rule}
    (h : p.compile d = .ok rules) (hrule : rule ∈ rules) : rule.phase = p.name := by
  obtain ⟨r, _, compiled⟩ := exists_of_forall₂ (PhaseDraft.compile_eq_ok_iff.mp h).flip hrule
  obtain ⟨_, _, _, _, rfl⟩ := RuleDraft.compile_eq_ok_iff.mp compiled
  rfl

/-! ## 2. Libraries -/

/-- **A compiled library** holds the rules of its phases, one phase after the other. -/
theorem LibraryDraft.compile_eq_ok_iff {draft : LibraryDraft} {lib : Library} :
    draft.compile = .ok lib ↔ ∃ rules,
      List.Forall₂ (fun p rules => p.compile draft.defaults = .ok rules) draft.phases rules ∧
        lib = ⟨draft.version, draft.defaults, rules.flatten, draft.phases.map PhaseDraft.toPhase⟩ := by
  rw [LibraryDraft.compile, map_eq_ok]
  simp only [mapM_eq_ok_iff, eq_comm (a := lib)]

/-- A draft in order: its rules and phases can be told apart, and their names and messages are
    well formed. -/
structure LibraryDraft.InOrder (draft : LibraryDraft) : Prop where
  ids : ((draft.phases.flatMap (·.rules)).map (·.id)).Nodup
  names : (draft.phases.map (·.name)).Nodup
  rules : ∀ r ∈ draft.phases.flatMap (·.rules),
    isIdentifier r.id = true ∧ ∀ x ∈ referencesIn r.message, isKnownReference x = true
  phases : ∀ p ∈ draft.phases, p.name ≠ allPhase ∧ isIdentifier p.name = true

/-- The rules of a library have the ids and the messages of its drafts, in order. -/
theorem forall₂_rules {phases : List PhaseDraft} {parts : List (List Rule)}
    (h : List.Forall₂ (fun p rules => p.compile d = .ok rules) phases parts) :
    List.Forall₂ (fun (r : RuleDraft) (rule : Rule) => rule.id = r.id ∧ rule.message = r.message)
      (phases.flatMap (·.rules)) parts.flatten := by
  induction h with
  | nil => exact .nil
  | cons first _ ih =>
    rw [List.flatMap_cons, List.flatten_cons]
    exact List.rel_append ((PhaseDraft.compile_eq_ok_iff.mp first).imp
      fun _ _ => RuleDraft.id_and_message_of_compile) ih

/-- **A draft in order whose phases compile gives a registry.** -/
theorem LibraryDraft.InOrder.exists_registry {draft : LibraryDraft} (h : draft.InOrder)
    (compiles : ∀ p ∈ draft.phases, ∃ rules, p.compile draft.defaults = .ok rules) :
    ∃ lib reg, draft.compile = .ok lib ∧ lib.toRegistry = .ok reg := by
  obtain ⟨parts, hparts⟩ := exists_forall₂ compiles
  have rules := forall₂_rules hparts
  have ids : parts.flatten.map (·.id) = (draft.phases.flatMap (·.rules)).map (·.id) := by
    rw [← List.forall₂_eq_eq_eq, List.forall₂_map_left_iff, List.forall₂_map_right_iff]
    exact (rules.imp fun _ _ same => same.1).flip
  refine ⟨_, _, LibraryDraft.compile_eq_ok_iff.mpr ⟨parts, hparts, rfl⟩,
    Registry.withPhases_eq_ok_iff.mpr ⟨rfl, ?_, ?_⟩⟩
  · refine rulesFault?_eq_none_iff.mpr ⟨fun rule hrule => ⟨?_, List.not_mem_nil⟩, ids ▸ h.ids⟩
    obtain ⟨r, hr, same⟩ := exists_of_forall₂ rules.flip hrule
    rw [Rule.fault?_eq_none_iff, same.1, same.2]
    exact h.rules r hr
  · refine phasesFault?_eq_none_iff.mpr ⟨fun phase hphase => ?_, ?_⟩
    · obtain ⟨p, hp, rfl⟩ := List.mem_map.mp hphase
      obtain ⟨notAll, format⟩ := h.phases p hp
      refine Phase.fault?_eq_none_iff.mpr ⟨notAll, format, List.not_mem_nil, fun id hid => ?_⟩
      obtain ⟨r, hr, rfl⟩ := List.mem_map.mp hid
      show r.id ∈ parts.flatten.map (·.id)
      rw [ids]
      exact List.mem_map_of_mem (List.mem_flatMap.mpr ⟨p, hp, hr⟩)
    · rw [List.map_map]
      exact h.names

/-- Rules found by the same ids are the same, where ids tell rules apart. -/
theorem eq_of_forall₂_id {ids : List String} {rules rules' : List Rule}
    (nodup : (reg.rules.map (·.id)).Nodup)
    (h : List.Forall₂ (fun id r => r ∈ reg.rules ∧ r.id = id) ids rules)
    (h' : List.Forall₂ (fun id r => r ∈ reg.rules ∧ r.id = id) ids rules') : rules = rules' := by
  induction h generalizing rules' with
  | nil =>
    cases h'
    rfl
  | cons first _ ih =>
    cases h' with
    | cons first' more' =>
      have same := List.inj_on_of_nodup_map nodup first.1 first'.1 (first.2.trans first'.2.symm)
      rw [same, ih more']

/-- **A phase of the registry runs what its draft compiles to.** -/
theorem LibraryDraft.resolve_of_compile {draft : LibraryDraft} {lib : Library} {p : PhaseDraft}
    {rules : List Rule} (compiled : draft.compile = .ok lib) (built : lib.toRegistry = .ok reg)
    (hp : p ∈ draft.phases) (hrules : p.compile draft.defaults = .ok rules) :
    reg.resolve p.name = .ok rules := by
  obtain ⟨parts, hparts, rfl⟩ := LibraryDraft.compile_eq_ok_iff.mp compiled
  obtain ⟨rfl, _, faultless⟩ := Registry.withPhases_eq_ok_iff.mp built
  have accepted := Registry.Accepted.withPhases built
  have listed : p.toPhase ∈ draft.phases.map PhaseDraft.toPhase := List.mem_map_of_mem hp
  have declared : p.name ∈ Registry.phaseNames ⟨parts.flatten, draft.phases.map PhaseDraft.toPhase⟩ :=
    List.mem_map_of_mem (f := Phase.name) listed
  obtain ⟨resolved, hresolved⟩ := Registry.exists_resolve_eq_ok_iff.mpr (.inr declared)
  rw [hresolved, Except.ok.injEq]
  -- both lists of rules answer to the ids of the phase
  have own : List.Forall₂ (fun id r => r ∈ parts.flatten ∧ r.id = id) p.toPhase.ruleIds rules := by
    rw [← PhaseDraft.ids_of_compile hrules, List.forall₂_map_left_iff, List.forall₂_same]
    intro r hr
    refine ⟨?_, rfl⟩
    obtain ⟨part, hpart, same⟩ := exists_of_forall₂ hparts hp
    rw [hrules] at same
    cases same
    exact List.mem_flatten.mpr ⟨rules, hpart, hr⟩
  exact eq_of_forall₂_id accepted.nodup_ids (accepted.forall₂_of_resolve hresolved listed) own

end MarkupRules
