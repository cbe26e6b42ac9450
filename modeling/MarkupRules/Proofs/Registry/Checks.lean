import MarkupRules.Proofs.Registry.Grouping

/-!
# What is checked when a registry is built

Rules and phases that are accepted, told without the walk through them, and the first of them that
is not.

* `Identifier` -- what may name a rule or a phase;
* `RulesInOrder`, `PhasesInOrder` -- rules and phases without a fault;
* `FirstFault` -- the first member of a list with which the list is no longer in order;
* `IsWalk.exists_firstFault` -- a walk through a list stops at such a member;
* `Registry.withPhases_checks_completely` -- **a registry is built exactly from rules and phases in
  order, the error names the first fault, and what is built resolves to what was listed**.
-/

namespace MarkupRules

variable {rules : List Rule} {phases : List Phase} {r : Rule} {p : Phase} {e : ConfigError}

/-! ## 1. Identifiers -/

/-- The letters of ASCII. -/
def AsciiLetter (c : Char) : Prop :=
  'A' ≤ c ∧ c ≤ 'Z' ∨ 'a' ≤ c ∧ c ≤ 'z'

/-- The digits of ASCII. -/
def AsciiDigit (c : Char) : Prop :=
  '0' ≤ c ∧ c ≤ '9'

/-- An identifier: an ASCII letter, then letters, digits, underscores, dots and hyphens. -/
def Identifier (s : String) : Prop :=
  ∃ c rest, s.toList = c :: rest ∧ AsciiLetter c ∧
    ∀ d ∈ rest, AsciiLetter d ∨ AsciiDigit d ∨ d ∈ ['_', '.', '-']

theorem isAlpha_iff {c : Char} : c.isAlpha = true ↔ AsciiLetter c := by
  have upper : c.isUpper = true ↔ 'A' ≤ c ∧ c ≤ 'Z' := decide_eq_true_iff
  have lower : c.isLower = true ↔ 'a' ≤ c ∧ c ≤ 'z' := by
    show (decide ('a' ≤ c) && decide (c ≤ 'z')) = true ↔ _
    rw [Bool.and_eq_true, decide_eq_true_iff, decide_eq_true_iff]
  show (c.isUpper || c.isLower) = true ↔ _
  rw [Bool.or_eq_true, upper, lower]
  exact Iff.rfl

theorem isDigit_iff {c : Char} : c.isDigit = true ↔ AsciiDigit c := by
  simp [Char.isDigit, AsciiDigit, Char.le_def]

theorem isIdentifier_iff {s : String} : isIdentifier s = true ↔ Identifier s := by
  unfold isIdentifier Identifier
  cases s.toList with
  | nil => simp
  | cons c rest =>
    simp [Char.isAlphanum, isAlpha_iff, isDigit_iff, or_assoc]

/-- The reserved name is no identifier. -/
theorem Identifier.ne_allPhase {s : String} (h : Identifier s) : s ≠ allPhase := by
  rintro rfl
  exact absurd (isIdentifier_iff.mpr h) (by decide)

/-! ## 2. Rules and phases in order -/

/-- Rules that are accepted. -/
structure RulesInOrder (rules : List Rule) : Prop where
  identifiers : ∀ r ∈ rules, Identifier r.id
  /-- The references that a message is checked for are known. -/
  messages : ∀ r ∈ rules, ∀ x ∈ referencesIn r.message, isKnownReference x = true
  distinct : (rules.map (·.id)).Nodup

/-- Phases that are accepted beside rules. -/
structure PhasesInOrder (rules : List Rule) (phases : List Phase) : Prop where
  identifiers : ∀ p ∈ phases, Identifier p.name
  known : ∀ p ∈ phases, ∀ id ∈ p.ruleIds, ∃ r ∈ rules, r.id = id
  distinct : (phases.map (·.name)).Nodup

theorem rulesFault?_eq_none_iff_inOrder : rulesFault? [] rules = none ↔ RulesInOrder rules := by
  rw [rulesFault?_eq_none_iff]
  simp only [Rule.fault?_eq_none_iff, isIdentifier_iff, List.not_mem_nil, not_false_iff, and_true]
  constructor
  · intro h
    obtain ⟨fine, nodup⟩ := h
    exact ⟨fun r hr => (fine r hr).1, fun r hr => (fine r hr).2, nodup⟩
  · intro h
    exact ⟨fun r hr => ⟨h.identifiers r hr, h.messages r hr⟩, h.distinct⟩

theorem phasesFault?_eq_none_iff_inOrder :
    phasesFault? (rules.map (·.id)) [] phases = none ↔ PhasesInOrder rules phases := by
  rw [phasesFault?_eq_none_iff]
  simp only [Phase.fault?_eq_none_iff, isIdentifier_iff, List.not_mem_nil, not_false_iff, true_and,
    List.mem_map]
  constructor
  · intro h
    obtain ⟨fine, nodup⟩ := h
    exact ⟨fun p hp => (fine p hp).2.1, fun p hp => (fine p hp).2.2, nodup⟩
  · intro h
    refine ⟨fun p hp => ?_, h.distinct⟩
    exact ⟨(h.identifiers p hp).ne_allPhase, h.identifiers p hp, h.known p hp⟩

/-! ## 3. The first fault -/

section

variable {α : Type} {l : List α} {a : α} {seen : List String} {key : α → String}
  {scan : List String → List α → Option ConfigError} {check : List String → α → Option ConfigError}

/-- The first member of a list with which the list is no longer in order. -/
def FirstFault (inOrder : List α → Prop) (l : List α) (a : α) : Prop :=
  ∃ before after, l = before ++ a :: after ∧ inOrder before ∧ ¬ inOrder (before ++ [a])

/-- A walk through a list that checks each member beside the keys of the members before it. -/
structure IsWalk (scan : List String → List α → Option ConfigError)
    (check : List String → α → Option ConfigError) (key : α → String) : Prop where
  nil : ∀ seen, scan seen [] = none
  cons : ∀ seen a rest, scan seen (a :: rest) = (check seen a).or (scan (key a :: seen) rest)

/-- **A walk stops at the first member with a fault**, and would stop there if nothing came behind
    it. -/
theorem IsWalk.exists_split (walk : IsWalk scan check key) (h : scan seen l = some e) :
    ∃ before a after known, l = before ++ a :: after ∧ scan seen before = none ∧
      scan seen (before ++ [a]) = some e ∧ check known a = some e := by
  induction l generalizing seen with
  | nil =>
    rw [walk.nil] at h
    cases h
  | cons a rest ih =>
    rw [walk.cons] at h
    cases fault : check seen a with
    | some e' =>
      rw [fault] at h
      cases h
      refine ⟨[], a, rest, seen, rfl, walk.nil seen, ?_, fault⟩
      rw [List.nil_append, walk.cons, fault]
      rfl
    | none =>
      rw [fault] at h
      obtain ⟨before, b, after, known, rfl, fine, stops, found⟩ := ih h
      refine ⟨a :: before, b, after, known, rfl, ?_, ?_, found⟩
      · rw [walk.cons, fault, fine]
        rfl
      · rw [List.cons_append, walk.cons, fault, stops]
        rfl

/-- **What a walk finds is the first fault**, if it finds nothing exactly where all is in order. -/
theorem IsWalk.exists_firstFault (walk : IsWalk scan check key) {inOrder : List α → Prop}
    (decides : ∀ l, scan [] l = none ↔ inOrder l) (h : scan [] l = some e) :
    ∃ a known, FirstFault inOrder l a ∧ check known a = some e := by
  obtain ⟨before, a, after, known, whole, fine, stops, found⟩ := walk.exists_split h
  refine ⟨a, known, ⟨before, after, whole, (decides before).mp fine, fun ordered => ?_⟩, found⟩
  rw [(decides _).mpr ordered] at stops
  cases stops

end

/-- The fault of a rule blames the rule. -/
theorem Rule.blamed_of_fault? (h : r.fault? = some e) : e.ruleId = some r.id ∧ e.phase = none := by
  unfold Rule.fault? at h
  split at h
  · cases h
    exact ⟨rfl, rfl⟩
  · obtain ⟨x, _, rfl⟩ := Option.map_eq_some_iff.mp h
    exact ⟨rfl, rfl⟩

/-- The fault of a phase blames the phase. -/
theorem Phase.blamed_of_fault? {ids seen : List String} (h : p.fault? ids seen = some e) :
    e.phase = some p.name ∧ e.ruleId = none := by
  unfold Phase.fault? at h
  split_ifs at h
  iterate 3
    cases h
    exact ⟨rfl, rfl⟩
  obtain ⟨id, _, rfl⟩ := Option.map_eq_some_iff.mp h
  exact ⟨rfl, rfl⟩

/-- What is wrong with a rule behind others: the rule itself, or its id if one of them has it. -/
def Rule.faultBehind? (seen : List String) (r : Rule) : Option ConfigError :=
  r.fault?.or (if seen.contains r.id then some (duplicateRule r.id) else none)

theorem Rule.blamed_of_faultBehind? {seen : List String} (h : r.faultBehind? seen = some e) :
    e.ruleId = some r.id ∧ e.phase = none := by
  rcases Option.or_eq_some_iff.mp h with own | ⟨_, taken⟩
  · exact r.blamed_of_fault? own
  · split at taken
    · cases taken
      exact ⟨rfl, rfl⟩
    · cases taken

theorem isWalk_rulesFault? : IsWalk rulesFault? Rule.faultBehind? (·.id) where
  nil _ := rfl
  cons seen r rest := by
    rw [rulesFault?, Rule.faultBehind?]
    cases r.fault? with
    | some e => rfl
    | none =>
      by_cases taken : seen.contains r.id = true
      · rw [if_pos taken, if_pos taken]
        rfl
      · rw [if_neg taken, if_neg taken]
        rfl

theorem isWalk_phasesFault? (ids : List String) :
    IsWalk (phasesFault? ids) (fun seen p => p.fault? ids seen) (·.name) where
  nil _ := rfl
  cons seen p rest := by
    rw [phasesFault?]
    cases p.fault? ids seen <;> rfl

/-! ## 4. Building and resolving -/

namespace Registry

variable {reg : Registry}

theorem withPhases_eq_ok_iff_inOrder : withPhases rules phases = .ok reg ↔
    reg = ⟨rules, phases⟩ ∧ RulesInOrder rules ∧ PhasesInOrder rules phases := by
  rw [withPhases_eq_ok_iff, rulesFault?_eq_none_iff_inOrder, phasesFault?_eq_none_iff_inOrder]

/-- **The error is about the first fault**: of a rule, or of a phase if the rules are in order. -/
theorem blamed_of_withPhases (h : withPhases rules phases = .error e) :
    (∃ r, FirstFault RulesInOrder rules r ∧ e.ruleId = some r.id ∧ e.phase = none) ∨
      (RulesInOrder rules ∧
        ∃ p, FirstFault (PhasesInOrder rules) phases p ∧ e.phase = some p.name ∧
          e.ruleId = none) := by
  unfold withPhases at h
  cases ruleFault : rulesFault? [] rules with
  | some e' =>
    rw [ruleFault] at h
    cases h
    obtain ⟨r, known, first, found⟩ := isWalk_rulesFault?.exists_firstFault
      (fun _ => rulesFault?_eq_none_iff_inOrder) ruleFault
    exact .inl ⟨r, first, r.blamed_of_faultBehind? found⟩
  | none =>
    rw [ruleFault] at h
    cases phaseFault : phasesFault? (rules.map (·.id)) [] phases with
    | some e' =>
      rw [phaseFault] at h
      cases h
      obtain ⟨p, known, first, found⟩ := (isWalk_phasesFault? _).exists_firstFault
        (fun _ => phasesFault?_eq_none_iff_inOrder) phaseFault
      exact .inr ⟨rulesFault?_eq_none_iff_inOrder.mp ruleFault, p, first, p.blamed_of_fault? found⟩
    | none =>
      rw [phaseFault] at h
      cases h

/-- **A rule is found by its id**, and nothing else is. -/
theorem Accepted.rule?_eq_some_iff {names : List String} (h : reg.Accepted names) {id : String} :
    reg.rule? id = some r ↔ r ∈ reg.rules ∧ r.id = id := by
  constructor
  · intro found
    exact ⟨List.mem_of_find?_eq_some found, by simpa using List.find?_some found⟩
  · intro listed
    rw [← listed.2]
    exact h.rule?_id listed.1

/-- **Building a registry checks everything, and resolving a phase then loses nothing.** It is built
    if and only if the rules and the phases beside them are in order. The error names the first
    rule at fault in their order, or the first phase if all the rules are in order. A registry that
    was built holds what it was given, each declared phase resolves to the one rule of each id that
    it lists, in the same order, and an id finds its rule. -/
theorem withPhases_checks_completely (rules : List Rule) (phases : List Phase) :
    ((∃ reg, withPhases rules phases = .ok reg) ↔
      RulesInOrder rules ∧ PhasesInOrder rules phases) ∧
    (∀ e, withPhases rules phases = .error e →
      (∃ r, FirstFault RulesInOrder rules r ∧ e.ruleId = some r.id ∧ e.phase = none) ∨
        (RulesInOrder rules ∧ ∃ p, FirstFault (PhasesInOrder rules) phases p ∧
          e.phase = some p.name ∧ e.ruleId = none)) ∧
    ∀ reg, withPhases rules phases = .ok reg → reg.rules = rules ∧ reg.phases = phases ∧
      (∀ p ∈ phases, ∃ runs, reg.resolve p.name = .ok runs ∧
        List.Forall₂ (fun id r => r ∈ rules ∧ r.id = id ∧ ∀ r' ∈ rules, r'.id = id → r' = r)
          p.ruleIds runs) ∧
      ∀ id r, reg.rule? id = some r ↔ r ∈ rules ∧ r.id = id := by
  refine ⟨?_, fun e => blamed_of_withPhases, fun reg built => ?_⟩
  · simp only [withPhases_eq_ok_iff_inOrder, exists_and_right, exists_eq, true_and]
  · have accepted := Accepted.withPhases built
    obtain ⟨rfl, ordered, _⟩ := withPhases_eq_ok_iff_inOrder.mp built
    refine ⟨rfl, rfl, fun p hp => ?_, fun id r => accepted.rule?_eq_some_iff⟩
    have declared : p.name ∈ (Registry.mk rules phases).phaseNames := List.mem_map_of_mem hp
    obtain ⟨runs, resolved⟩ := exists_resolve_eq_ok_iff.mpr (.inr declared)
    refine ⟨runs, resolved, (accepted.forall₂_of_resolve resolved hp).imp fun id r answers => ?_⟩
    obtain ⟨hr, rfl⟩ := answers
    exact ⟨hr, rfl, fun r' hr' same => List.inj_on_of_nodup_map ordered.distinct hr' hr same⟩

end Registry

end MarkupRules
