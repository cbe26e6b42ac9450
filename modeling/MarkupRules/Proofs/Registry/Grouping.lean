import MarkupRules.Proofs.Registry.Acceptance
import Mathlib.Data.List.Induction
import Mathlib.Data.List.Perm.Basic

/-!
# Rules grouped into phases

Rules carry the name of the phase that they belong to. What it takes for a list of phases to group
rules by these names, and what such phases run.

* `rulesOf` -- the rules that belong to a phase, in their order;
* `Groups` -- phases that group rules;
* `Groups.of_phasesOf` -- **the phases that rules name group them**;
* `Groups.perm_flatMap` -- the phases share the rules out among them;
* `Registry.Accepted.resolve_of_groups` -- **a phase runs the rules that belong to it**.
-/

namespace MarkupRules

variable {rules : List Rule} {phases : List Phase} {r : Rule} {p : Phase} {name : String}

/-! ## 1. The rules of a phase -/

/-- The rules that belong to a phase, in their order. -/
def rulesOf (rules : List Rule) (name : String) : List Rule :=
  rules.filter fun r => r.phase == name

theorem mem_rulesOf : r ∈ rulesOf rules name ↔ r ∈ rules ∧ r.phase = name := by
  rw [rulesOf, List.mem_filter, beq_iff_eq]

theorem rulesOf_append (before after : List Rule) :
    rulesOf (before ++ after) name = rulesOf before name ++ rulesOf after name :=
  List.filter_append before after

theorem rulesOf_eq_self (h : ∀ r ∈ rules, r.phase = name) : rulesOf rules name = rules :=
  List.filter_eq_self.mpr fun r hr => beq_iff_eq.mpr (h r hr)

theorem rulesOf_eq_nil (h : ∀ r ∈ rules, r.phase ≠ name) : rulesOf rules name = [] :=
  List.filter_eq_nil_iff.mpr fun r hr => by simp [h r hr]

/-! ## 2. Phases that group rules -/

/-- The phases group the rules by the phases that these belong to. -/
structure Groups (rules : List Rule) (phases : List Phase) : Prop where
  names : (phases.map (·.name)).Nodup
  /-- A phase lists its rules in their order. -/
  listed : ∀ p ∈ phases, p.ruleIds = (rulesOf rules p.name).map (·.id)
  covered : ∀ r ∈ rules, r.phase ∈ phases.map (·.name)

namespace Registry

theorem mem_addToPhase (nodup : (phases.map (·.name)).Nodup) (h : p ∈ addToPhase r phases) :
    p ∈ phases ∧ p.name ≠ r.phase ∨
      (∃ q ∈ phases, q.name = r.phase ∧ p = { q with ruleIds := q.ruleIds ++ [r.id] }) ∨
        r.phase ∉ phases.map (·.name) ∧ p = ⟨r.phase, [r.id]⟩ := by
  induction phases with
  | nil => exact .inr (.inr ⟨List.not_mem_nil, List.mem_singleton.mp h⟩)
  | cons q rest ih =>
    rw [List.map_cons, List.nodup_cons] at nodup
    unfold addToPhase at h
    by_cases same : q.name = r.phase
    · rw [if_pos same] at h
      rcases List.mem_cons.mp h with rfl | h
      · exact .inr (.inl ⟨q, List.mem_cons_self, same, rfl⟩)
      · refine .inl ⟨List.mem_cons_of_mem q h, fun other => nodup.1 ?_⟩
        exact List.mem_map.mpr ⟨p, h, other.trans same.symm⟩
    · rw [if_neg same] at h
      rcases List.mem_cons.mp h with rfl | h
      · exact .inl ⟨List.mem_cons_self, same⟩
      · rcases ih nodup.2 h with ⟨hp, apart⟩ | ⟨q', hq', named, rfl⟩ | ⟨fresh, rfl⟩
        · exact .inl ⟨List.mem_cons_of_mem q hp, apart⟩
        · exact .inr (.inl ⟨q', List.mem_cons_of_mem q hq', named, rfl⟩)
        · refine .inr (.inr ⟨?_, rfl⟩)
          rw [List.map_cons, List.mem_cons, not_or]
          exact ⟨Ne.symm same, fresh⟩

/-- A rule added to its phase brings its name at most once. -/
theorem nodup_names_addToPhase : ∀ {phases : List Phase}, (phases.map (·.name)).Nodup →
    ((addToPhase r phases).map (·.name)).Nodup
  | [], _ => List.nodup_singleton _
  | p :: rest, h => by
    have apart := List.nodup_cons.mp h
    unfold addToPhase
    by_cases same : p.name = r.phase
    · rw [if_pos same]
      exact h
    · rw [if_neg same, List.map_cons, List.nodup_cons, mem_names_addToPhase, not_or]
      exact ⟨⟨same, apart.1⟩, nodup_names_addToPhase apart.2⟩

end Registry

open Registry in
/-- Phases that group rules group one rule more once it is added to its phase. -/
theorem Groups.addToPhase (h : Groups rules phases) :
    Groups (rules ++ [r]) (addToPhase r phases) where
  names := nodup_names_addToPhase h.names
  listed p hp := by
    rw [rulesOf_append, List.map_append]
    rcases mem_addToPhase h.names hp with ⟨hp, apart⟩ | ⟨q, hq, named, rfl⟩ | ⟨fresh, rfl⟩
    · rw [rulesOf_eq_nil (List.forall_mem_singleton.mpr apart.symm), h.listed p hp]
      exact (List.append_nil _).symm
    · rw [rulesOf_eq_self (List.forall_mem_singleton.mpr named.symm)]
      exact congrArg (· ++ [r.id]) (h.listed q hq)
    · have none : rulesOf rules r.phase = [] :=
        rulesOf_eq_nil fun r' hr' same => fresh (same ▸ h.covered r' hr')
      rw [none, rulesOf_eq_self (List.forall_mem_singleton.mpr rfl)]
      rfl
  covered r' hr' := by
    rw [mem_names_addToPhase]
    rcases List.mem_append.mp hr' with hr' | hr'
    · exact .inr (h.covered r' hr')
    · exact .inl (List.mem_singleton.mp hr' ▸ rfl)

/-- **The phases that rules name group them**: by adding one rule after the other. -/
theorem Groups.of_phasesOf (rules : List Rule) : Groups rules (Registry.phasesOf rules) := by
  induction rules using List.reverseRecOn with
  | nil => exact ⟨List.nodup_nil, fun p hp => absurd hp List.not_mem_nil,
      fun r hr => absurd hr List.not_mem_nil⟩
  | append_singleton before r ih =>
    rw [Registry.phasesOf, List.foldl_concat]
    exact ih.addToPhase

/-- A phase in front of others, with the rules that belong to it. -/
theorem Groups.cons {own : List Rule} (h : Groups rules phases)
    (fresh : p.name ∉ phases.map (·.name)) (listed : p.ruleIds = own.map (·.id))
    (owned : ∀ r ∈ own, r.phase = p.name) : Groups (own ++ rules) (p :: phases) where
  names := List.nodup_cons.mpr ⟨fresh, h.names⟩
  listed q hq := by
    rw [rulesOf_append, List.map_append]
    rcases List.mem_cons.mp hq with rfl | hq
    · have none : rulesOf rules q.name = [] :=
        rulesOf_eq_nil fun r hr same => fresh (same ▸ h.covered r hr)
      rw [rulesOf_eq_self owned, none, listed]
      exact (List.append_nil _).symm
    · have none : rulesOf own q.name = [] :=
        rulesOf_eq_nil fun r hr same =>
          fresh (((owned r hr).symm.trans same) ▸ List.mem_map_of_mem (f := Phase.name) hq)
      rw [none, h.listed q hq]
      rfl
  covered r hr := by
    rw [List.map_cons, List.mem_cons]
    exact (List.mem_append.mp hr).imp (owned r) (h.covered r)

/-- **Names share the rules out among them**, if each rule belongs to one of them. -/
theorem perm_flatMap_rulesOf {names : List String} (nodup : names.Nodup)
    (covered : ∀ r ∈ rules, r.phase ∈ names) : rules.Perm (names.flatMap (rulesOf rules)) := by
  induction names generalizing rules with
  | nil =>
    have none : rules = [] := List.eq_nil_iff_forall_not_mem.mpr fun r hr =>
      absurd (covered r hr) List.not_mem_nil
    rw [none]
    exact .nil
  | cons name rest ih =>
    obtain ⟨fresh, nodup⟩ := List.nodup_cons.mp nodup
    -- the rules that belong to the other names
    have others := @ih (rules.filter fun r => !(r.phase == name)) nodup fun r hr => by
      obtain ⟨hr, apart⟩ := List.mem_filter.mp hr
      exact (List.mem_cons.mp (covered r hr)).resolve_left (by simpa using apart)
    have same : ∀ n ∈ rest, rulesOf (rules.filter fun r => !(r.phase == name)) n = rulesOf rules n := by
      intro n hn
      rw [rulesOf, List.filter_filter, rulesOf]
      refine List.filter_congr fun r _ => ?_
      by_cases h : r.phase = n
      · have apart : n ≠ name := fun same => fresh (same ▸ hn)
        simp [h, apart]
      · simp [h]
    rw [List.flatMap_cons, ← List.flatMap_congr same]
    exact (List.filter_append_perm _ rules).symm.trans (others.append_left _)

/-- The phases share the rules out among them. -/
theorem Groups.perm_flatMap (h : Groups rules phases) :
    rules.Perm ((phases.map (·.name)).flatMap (rulesOf rules)) :=
  perm_flatMap_rulesOf h.names h.covered

/-! ## 3. What a phase runs -/

namespace Registry

variable {reg : Registry} {names : List String}

/-- A rule of an accepted registry is found by its id. -/
theorem Accepted.rule?_id (h : reg.Accepted names) (hr : r ∈ reg.rules) : reg.rule? r.id = some r := by
  obtain ⟨found, hfound, listed, same⟩ := exists_rule?_eq (List.mem_map_of_mem (f := Rule.id) hr)
  rw [hfound, List.inj_on_of_nodup_map h.nodup_ids listed hr same]

/-- No phase of an accepted registry has the reserved name. -/
theorem Accepted.ne_allPhase (h : reg.Accepted names) (declared : name ∈ reg.phaseNames) :
    name ≠ allPhase := by
  obtain ⟨p, hp, rfl⟩ := List.mem_map.mp declared
  have faultless := phasesFault?_eq_none_iff.mp (withPhases_eq_ok_iff.mp h.rebuilt).2.2
  exact (Phase.fault?_eq_none_iff.mp (faultless.1 p hp)).1

/-- **A phase runs the rules that belong to it**, in their order. -/
theorem Accepted.resolve_of_groups (h : reg.Accepted names) (groups : Groups reg.rules reg.phases)
    (declared : name ∈ reg.phaseNames) : reg.resolve name = .ok (rulesOf reg.rules name) := by
  rw [resolve, if_neg (h.ne_allPhase declared)]
  cases found : reg.phases.find? (fun p => p.name == name) with
  | none =>
    obtain ⟨p, hp, named⟩ := List.mem_map.mp declared
    exact absurd (beq_iff_eq.mpr named) (List.find?_eq_none.mp found p hp)
  | some p =>
    have named : p.name = name := by simpa using List.find?_some found
    have looked : (rulesOf reg.rules name).filterMap (reg.rule? ∘ Rule.id) =
        (rulesOf reg.rules name).filterMap some :=
      List.filterMap_congr fun r hr => h.rule?_id (mem_rulesOf.mp hr).1
    show Except.ok (p.ruleIds.filterMap reg.rule?) = _
    rw [groups.listed p (List.mem_of_find?_eq_some found), named, List.filterMap_map, looked,
      List.filterMap_some]

end Registry

end MarkupRules
