import MarkupRules.Proofs.Registry.Grouping
import MarkupRules.Proofs.Registry.Truthfulness

/-!
# How often a rule is run

A rule says something about each item that it selects, and one thing if it selects nothing. A phase
runs a rule each time that it lists it, and a registry does not ask whether it lists a rule twice.

* `Rule.breadth` -- how many results a rule has on a document;
* `Report.resultsOf` -- how many results of a report are those of a rule;
* `resultsOf_flatMap` -- a rule that is run several times has its results several times;
* `Registry.results_per_listing` -- **a report holds the results of a rule once for each time that
  the phase lists it**;
* `Registry.repeated_listing` -- a phase that lists a rule twice is accepted.
-/

namespace MarkupRules

variable {doc : Document} {r : Rule} {rules : List Rule} {a : AssertionResult} {id phase : String}

/-! ## 1. The results of one rule -/

/-- How many results a rule has: one for each item that it selects from the document node, and one
    if there is none. -/
def Rule.breadth (r : Rule) (doc : Document) : Nat :=
  max 1 (r.context.select doc (.node doc.root)).length

/-- How many results of the report are those of the rule. -/
def Report.resultsOf (report : Report) (id : String) : Nat :=
  report.results.countP fun a => a.ruleId == id

theorem Rule.breadth_pos : 0 < r.breadth doc :=
  Nat.lt_of_lt_of_le Nat.zero_lt_one (Nat.le_max_left _ _)

theorem Rule.length_evaluate : (r.evaluate doc).length = r.breadth doc := by
  unfold Rule.evaluate Rule.breadth
  change _ = max 1 (r.contexts doc).length
  cases r.contexts doc with
  | nil => rfl
  | cons i rest => simp

/-- All results of a rule are its own. -/
theorem Rule.ruleId_of_mem_evaluate (h : a ∈ r.evaluate doc) : a.ruleId = r.id := by
  unfold Rule.evaluate at h
  split at h
  · rw [List.mem_singleton.mp h]
    rfl
  · obtain ⟨i, _, rfl⟩ := List.mem_map.mp h
    rfl

theorem Rule.countP_evaluate : (r.evaluate doc).countP (fun a => a.ruleId == id) =
    if r.id = id then r.breadth doc else 0 := by
  by_cases own : r.id = id
  · rw [if_pos own, ← Rule.length_evaluate, List.countP_eq_length]
    intro a ha
    rw [Rule.ruleId_of_mem_evaluate ha, beq_iff_eq]
    exact own
  · rw [if_neg own, List.countP_eq_zero]
    intro a ha
    rw [Rule.ruleId_of_mem_evaluate ha, beq_iff_eq]
    exact own

/-! ## 2. The results of several rules -/

/-- **Rules that are run one after the other** give the results of a rule as often as it is among
    them, if no other rule has its id. -/
theorem resultsOf_flatMap (alone : ∀ r' ∈ rules, r'.id = r.id → r' = r) :
    (Report.ofResults phase (rules.flatMap (·.evaluate doc))).resultsOf r.id =
      (rules.map (·.id)).count r.id * r.breadth doc := by
  show (rules.flatMap (·.evaluate doc)).countP _ = _
  induction rules with
  | nil => simp
  | cons r' rest ih =>
    obtain ⟨first, others⟩ := List.forall_mem_cons.mp alone
    rw [List.flatMap_cons, List.countP_append, Rule.countP_evaluate, ih others, List.map_cons]
    by_cases own : r'.id = r.id
    · rw [if_pos own, own, List.count_cons_self, first own, Nat.succ_mul, Nat.add_comm]
    · rw [if_neg own, List.count_cons_of_ne own, Nat.zero_add]

namespace Registry

variable {reg : Registry} {names : List String} {p : Phase}

/-- A phase runs rules of the registry, with the ids that the phase lists. -/
theorem Accepted.listed_of_resolve (h : reg.Accepted names) (hp : p ∈ reg.phases)
    (resolved : reg.resolve p.name = .ok rules) :
    (∀ r ∈ rules, r ∈ reg.rules) ∧ rules.map (·.id) = p.ruleIds := by
  have answers := (h.forall₂_of_resolve resolved hp).flip
  obtain ⟨own, ids⟩ := (List.forall₂_and_left _ _).mp answers
  refine ⟨own, ?_⟩
  rw [← List.forall₂_eq_eq_eq, List.forall₂_map_left_iff]
  exact ids

/-- **A report holds the results of a rule once for each time that the phase lists it.** The phase
    of all rules runs each of them once; so does any other phase if and only if it lists no rule
    twice. -/
theorem results_per_listing (accepted : reg.Accepted names) (doc : Document) :
    (∃ report, reg.validate doc allPhase = .ok report ∧
      ∀ r ∈ reg.rules, report.resultsOf r.id = r.breadth doc) ∧
    ∀ p ∈ reg.phases, ∃ report, reg.validate doc p.name = .ok report ∧
      (∀ r ∈ reg.rules, report.resultsOf r.id = p.ruleIds.count r.id * r.breadth doc) ∧
      ((∀ r ∈ reg.rules, r.id ∈ p.ruleIds → report.resultsOf r.id = r.breadth doc) ↔
        p.ruleIds.Nodup) := by
  have alone : ∀ r ∈ reg.rules, ∀ r' ∈ reg.rules, r'.id = r.id → r' = r :=
    fun r hr r' hr' same => List.inj_on_of_nodup_map accepted.nodup_ids hr' hr same
  constructor
  · refine ⟨_, validate_of_resolve (if_pos rfl), fun r hr => ?_⟩
    rw [resultsOf_flatMap (alone r hr),
      List.count_eq_one_of_mem accepted.nodup_ids (List.mem_map_of_mem hr), Nat.one_mul]
  · intro p hp
    obtain ⟨runs, resolved⟩ := exists_resolve_eq_ok_iff.mpr (.inr (List.mem_map_of_mem hp))
    obtain ⟨own, ids⟩ := accepted.listed_of_resolve hp resolved
    have count : ∀ r ∈ reg.rules,
        (Report.ofResults p.name (runs.flatMap (·.evaluate doc))).resultsOf r.id =
          p.ruleIds.count r.id * r.breadth doc := by
      intro r hr
      rw [← ids]
      exact resultsOf_flatMap fun r' hr' => alone r hr r' (own r' hr')
    refine ⟨_, validate_of_resolve resolved, count, fun once => ?_, fun nodup r hr listed => ?_⟩
    · -- an id that is listed is the id of a rule, and the rule has at least one result
      refine List.nodup_iff_count_eq_one.mpr fun id listed => ?_
      obtain ⟨r, hr, rfl⟩ := List.mem_map.mp (accepted.mem_ids hp listed)
      have same := (count r hr).symm.trans (once r hr listed)
      exact Nat.eq_of_mul_eq_mul_right Rule.breadth_pos (same.trans (Nat.one_mul _).symm)
    · rw [count r hr, List.count_eq_one_of_mem nodup listed, Nat.one_mul]

/-- The registry of one rule, with a phase that lists it twice. -/
def listedTwice : Registry where
  rules := [labelledSection]
  phases := [⟨"sections", ["section.title", "section.title"]⟩]

theorem withPhases_listedTwice :
    withPhases listedTwice.rules listedTwice.phases = .ok listedTwice :=
  withPhases_eq_ok_iff.mpr ⟨rfl, by decide +kernel, by decide +kernel⟩

theorem results_per_listing_listedTwice :
    withPhases listedTwice.rules listedTwice.phases = .ok listedTwice ∧
    (∃ report, listedTwice.validate (.ofElement nestedSections) allPhase = .ok report ∧
      ∀ r ∈ listedTwice.rules, report.resultsOf r.id = r.breadth (.ofElement nestedSections)) ∧
    ∀ p ∈ listedTwice.phases, ∃ report,
      listedTwice.validate (.ofElement nestedSections) p.name = .ok report ∧
      (∀ r ∈ listedTwice.rules,
        report.resultsOf r.id = p.ruleIds.count r.id * r.breadth (.ofElement nestedSections)) ∧
      ((∀ r ∈ listedTwice.rules, r.id ∈ p.ruleIds →
        report.resultsOf r.id = r.breadth (.ofElement nestedSections)) ↔ p.ruleIds.Nodup) :=
  ⟨withPhases_listedTwice,
    results_per_listing (.withPhases withPhases_listedTwice) (.ofElement nestedSections)⟩

/-- **A phase that lists a rule twice** is accepted, and its reports hold each result twice. -/
theorem repeated_listing :
    withPhases listedTwice.rules listedTwice.phases = .ok listedTwice ∧
      labelledSection.breadth (.ofElement nestedSections) = 2 ∧
        (listedTwice.validate (.ofElement nestedSections) "sections").toOption.map
          (·.resultsOf "section.title") = some 4 :=
  ⟨withPhases_listedTwice, by decide +kernel, by decide +kernel⟩

end Registry

end MarkupRules
