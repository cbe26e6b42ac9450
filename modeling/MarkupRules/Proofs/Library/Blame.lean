import MarkupRules.Proofs.Library.Compilation

/-!
# Who is to blame for a library that does not compile

A library compiles if each of its rules does. Otherwise the error is one of the first rule, in the
order of the text, that does not, and it carries the id of this rule and the name of its phase.

* `PredicateDraft.Fault` -- the faults of a predicate, at any depth, each with the error for it;
* `PredicateDraft.fault_of_compile`, `PredicateDraft.exists_compile_eq_ok_iff` -- **a predicate
  compiles if and only if there is no fault in it**;
* `PredicateDraft.Fault.blameless` -- what is wrong with a predicate blames no rule and no phase yet;
* `RuleDraft.compiles_iff_faultless` -- **a rule compiles if and only if nothing is wrong with it**;
* `RuleDraft.compile_eq_error` -- a rule that does not compile is blamed for a fault of its own;
* `LibraryDraft.written` -- the rules in the order of the text, each one with its phase, and
  `RuleDraft.Becomes` -- what they are compiled to;
* `LibraryDraft.compile_blames_first` -- **the first rule that does not compile is blamed**.
-/

namespace MarkupRules

variable {d : Defaults} {e : ConfigError}

theorem Path.Expr.exists_unsupported_of_compile {source : String}
    (h : Path.Expr.compile source = .error e) :
    ∃ offset detail, e = .unsupported source offset detail := by
  rw [Path.Expr.compile] at h
  simp only at h
  split at h
  · cases h
    exact ⟨_, _, rfl⟩
  · split at h
    · cases h
      exact ⟨_, _, rfl⟩
    · cases h

/-! ## 1. Predicates -/

namespace PredicateDraft

/-- The predicates right inside a predicate. -/
def parts : PredicateDraft → List PredicateDraft
  | .not inner => [inner]
  | .all parts | .any parts | .xor parts => parts
  | .when condition consequence => [condition, consequence]
  | _ => []

/-- The paths of a predicate itself. -/
def paths : PredicateDraft → List String
  | .present path | .absent path | .count path _ | .equals path .. => [path]
  | .valueIn path .. | .exactlyOneOf path .. => [path]
  | .countEquals declared counted => [declared, counted]
  | .spanEquals declared first last => [declared, first, last]
  | _ => []

/-- What can be wrong with a predicate, and the error for it. -/
inductive Fault : PredicateDraft → ConfigError → Prop
  /-- A path is not supported. -/
  | path {p : PredicateDraft} {path : String} {e : ConfigError} : path ∈ p.paths →
      Path.Expr.compile path = .error e → Fault p e
  /-- A count is held against nothing. -/
  | unbounded (path : String) : Fault (.count path {})
      (.malformed ("count on '" ++ path ++ "' needs at least one of eq, ne, gt, lt, gte, lte"))
  /-- A value has nothing to be taken from. -/
  | emptyDomain (path : String) (required : Bool) (mode : Option MatchMode) :
      Fault (.valueIn path [] required mode)
        (.malformed ("value_in on '" ++ path ++ "' has an empty domain"))
  /-- A choice is not between two predicates. -/
  | choice {parts : List PredicateDraft} : parts.length ≠ 2 →
      Fault (.xor parts) (wrongChoice parts.length)
  /-- Something is wrong further inside. -/
  | inside {p q : PredicateDraft} {e : ConfigError} : q ∈ p.parts → Fault q e → Fault p e

/-- **A fault blames nobody yet**: it says what is wrong and leaves it to the rule and the phase to
    add their names. -/
theorem Fault.blameless {p : PredicateDraft} (h : p.Fault e) :
    (e.kind = .malformedRule ∨ e.kind = .unsupportedExpression) ∧ e.ruleId = none ∧
      e.phase = none := by
  induction h with
  | path _ unsupported =>
    obtain ⟨offset, detail, rfl⟩ := Path.Expr.exists_unsupported_of_compile unsupported
    exact ⟨.inr rfl, rfl, rfl⟩
  | unbounded | emptyDomain | choice => exact ⟨.inl rfl, rfl, rfl⟩
  | inside _ _ ih => exact ih

theorem compileList_eq_mapM : ∀ parts : List PredicateDraft,
    compileList d parts = parts.mapM (compile d)
  | [] => by
    rw [compileList, List.mapM_nil]
    rfl
  | p :: rest => by
    rw [compileList, List.mapM_cons, compileList_eq_mapM rest]
    rfl

/-- Paths that are compiled one after the other fail as one of them does. -/
theorem fault_of_compile_path {p : PredicateDraft} {path : String}
    {next : Path.Expr → Except ConfigError Predicate} (own : path ∈ p.paths)
    (h : (Path.Expr.compile path).bind next = .error e)
    (more : ∀ x, next x = .error e → p.Fault e) : p.Fault e := by
  rcases bind_eq_error.mp h with unsupported | ⟨x, _, failed⟩
  · exact .path own unsupported
  · exact more x failed

mutual
/-- **A predicate that does not compile has a fault**, and the error is the one for it. -/
theorem fault_of_compile : ∀ {p : PredicateDraft} {e : ConfigError}, compile d p = .error e →
    p.Fault e
  | .present path, e, h | .absent path, e, h => by
    rw [compile] at h
    exact fault_of_compile_path List.mem_cons_self h fun _ => nofun
  | .not inner, e, h => by
    rw [compile, map_eq_error] at h
    exact .inside List.mem_cons_self (fault_of_compile h)
  | .all parts, e, h | .any parts, e, h => by
    rw [compile, map_eq_error] at h
    obtain ⟨q, hq, fault⟩ := exists_fault_of_compileList h
    exact .inside hq fault
  | .xor [left, right], e, h => by
    rw [compile] at h
    rcases bind_eq_error.mp h with failed | ⟨_, _, h⟩
    · exact .inside List.mem_cons_self (fault_of_compile failed)
    · rcases bind_eq_error.mp h with failed | ⟨_, _, ⟨⟩⟩
      exact .inside (List.mem_cons_of_mem _ List.mem_cons_self) (fault_of_compile failed)
  | .xor [], e, h | .xor [_], e, h | .xor (_ :: _ :: _ :: _), e, h => by
    rw [compile] at h
    · cases h
      exact .choice (by simp)
    · nofun
  | .count path condition, e, h => by
    rw [compile, compileCount] at h
    split at h
    · rename_i empty
      cases eq_of_beq empty
      cases h
      exact .unbounded path
    · exact fault_of_compile_path List.mem_cons_self h fun _ => nofun
  | .equals path value quantifier mode, e, h | .exactlyOneOf path domain mode, e, h => by
    rw [compile, map_eq_error] at h
    exact .path List.mem_cons_self h
  | .valueIn path domain required mode, e, h => by
    rw [compile, compileValueIn] at h
    split at h
    · rename_i empty
      cases List.isEmpty_iff.mp empty
      cases h
      exact .emptyDomain path required mode
    · exact .path List.mem_cons_self (map_eq_error.mp h)
  | .countEquals declared counted, e, h => by
    rw [compile] at h
    refine fault_of_compile_path List.mem_cons_self h fun _ h => ?_
    exact fault_of_compile_path (List.mem_cons_of_mem _ List.mem_cons_self) h fun _ => nofun
  | .spanEquals declared first last, e, h => by
    rw [compile] at h
    refine fault_of_compile_path List.mem_cons_self h fun _ h => ?_
    refine fault_of_compile_path (List.mem_cons_of_mem _ List.mem_cons_self) h fun _ h => ?_
    have third : last ∈ [declared, first, last] :=
      List.mem_cons_of_mem _ (List.mem_cons_of_mem _ List.mem_cons_self)
    exact fault_of_compile_path third h fun _ => nofun
  | .when condition consequence, e, h => by
    rw [compile] at h
    rcases bind_eq_error.mp h with failed | ⟨_, _, h⟩
    · exact .inside List.mem_cons_self (fault_of_compile failed)
    · rcases bind_eq_error.mp h with failed | ⟨_, _, ⟨⟩⟩
      exact .inside (List.mem_cons_of_mem _ List.mem_cons_self) (fault_of_compile failed)

theorem exists_fault_of_compileList : ∀ {parts : List PredicateDraft} {e : ConfigError},
    compileList d parts = .error e → ∃ q ∈ parts, q.Fault e
  | p :: rest, e, h => by
    rw [compileList] at h
    rcases bind_eq_error.mp h with failed | ⟨_, _, h⟩
    · exact ⟨p, List.mem_cons_self, fault_of_compile failed⟩
    · rcases bind_eq_error.mp h with failed | ⟨_, _, ⟨⟩⟩
      obtain ⟨q, hq, fault⟩ := exists_fault_of_compileList failed
      exact ⟨q, List.mem_cons_of_mem p hq, fault⟩
end

/-- **What a predicate consists of compiles**, if the predicate does. -/
theorem compiles_of_compile : ∀ {p : PredicateDraft} {q : Predicate}, compile d p = .ok q →
    (∀ path ∈ p.paths, ∃ x, Path.Expr.compile path = .ok x) ∧
      ∀ r ∈ p.parts, ∃ q, compile d r = .ok q
  | .present path, q, h | .absent path, q, h => by
    rw [compile] at h
    obtain ⟨x, hx, _⟩ := bind_eq_ok.mp h
    exact ⟨List.forall_mem_singleton.mpr ⟨x, hx⟩, nofun⟩
  | .not inner, q, h => by
    rw [compile, map_eq_ok] at h
    obtain ⟨q', inside, _⟩ := h
    exact ⟨nofun, List.forall_mem_singleton.mpr ⟨q', inside⟩⟩
  | .all parts, q, h | .any parts, q, h => by
    rw [compile, map_eq_ok] at h
    obtain ⟨qs, inside, _⟩ := h
    rw [compileList_eq_mapM] at inside
    exact ⟨nofun, exists_mapM_eq_ok_iff.mp ⟨qs, inside⟩⟩
  | .xor [left, right], q, h | .when left right, q, h => by
    rw [compile] at h
    obtain ⟨q₁, first, h⟩ := bind_eq_ok.mp h
    obtain ⟨q₂, second, _⟩ := bind_eq_ok.mp h
    exact ⟨nofun, List.forall_mem_cons.mpr ⟨⟨q₁, first⟩,
      List.forall_mem_singleton.mpr ⟨q₂, second⟩⟩⟩
  | .xor [], q, h | .xor [_], q, h | .xor (_ :: _ :: _ :: _), q, h => by
    rw [compile] at h
    · cases h
    · nofun
  | .count path condition, q, h => by
    rw [compile, compileCount] at h
    split at h
    · cases h
    · obtain ⟨x, hx, _⟩ := bind_eq_ok.mp h
      exact ⟨List.forall_mem_singleton.mpr ⟨x, hx⟩, nofun⟩
  | .equals path value quantifier mode, q, h | .exactlyOneOf path domain mode, q, h => by
    rw [compile, map_eq_ok] at h
    obtain ⟨x, hx, _⟩ := h
    exact ⟨List.forall_mem_singleton.mpr ⟨x, hx⟩, nofun⟩
  | .valueIn path domain required mode, q, h => by
    rw [compile, compileValueIn] at h
    split at h
    · cases h
    · obtain ⟨x, hx, _⟩ := map_eq_ok.mp h
      exact ⟨List.forall_mem_singleton.mpr ⟨x, hx⟩, nofun⟩
  | .countEquals declared counted, q, h => by
    rw [compile] at h
    obtain ⟨x, hx, h⟩ := bind_eq_ok.mp h
    obtain ⟨y, hy, _⟩ := bind_eq_ok.mp h
    exact ⟨List.forall_mem_cons.mpr ⟨⟨x, hx⟩, List.forall_mem_singleton.mpr ⟨y, hy⟩⟩, nofun⟩
  | .spanEquals declared first last, q, h => by
    rw [compile] at h
    obtain ⟨x, hx, h⟩ := bind_eq_ok.mp h
    obtain ⟨y, hy, h⟩ := bind_eq_ok.mp h
    obtain ⟨z, hz, _⟩ := bind_eq_ok.mp h
    exact ⟨List.forall_mem_cons.mpr ⟨⟨x, hx⟩, List.forall_mem_cons.mpr ⟨⟨y, hy⟩,
      List.forall_mem_singleton.mpr ⟨z, hz⟩⟩⟩, nofun⟩

/-- A predicate with a fault in it does not compile, however deep the fault is. -/
theorem Fault.not_compiles {p : PredicateDraft} (h : p.Fault e) :
    ¬ ∃ q, compile d p = .ok q := by
  induction h with
  | path own unsupported =>
    intro h
    obtain ⟨q, compiled⟩ := h
    obtain ⟨x, hx⟩ := (compiles_of_compile compiled).1 _ own
    rw [unsupported] at hx
    cases hx
  | unbounded path =>
    intro h
    obtain ⟨q, compiled⟩ := h
    rw [compile] at compiled
    cases compiled
  | emptyDomain path required mode =>
    intro h
    obtain ⟨q, compiled⟩ := h
    rw [compile] at compiled
    cases compiled
  | @choice parts wrong =>
    intro h
    obtain ⟨q, compiled⟩ := h
    rw [compile] at compiled
    · cases compiled
    · rintro left right rfl
      exact wrong rfl
  | inside own _ ih =>
    intro h
    obtain ⟨q, compiled⟩ := h
    exact ih ((compiles_of_compile compiled).2 _ own)

/-- **A predicate compiles if and only if there is no fault in it**, whatever the defaults are. -/
theorem exists_compile_eq_ok_iff {p : PredicateDraft} :
    (∃ q, compile d p = .ok q) ↔ ∀ e, ¬ p.Fault e := by
  constructor
  · intro compiled e fault
    exact fault.not_compiles compiled
  · intro sound
    exact exists_eq_ok_iff.mpr fun e failed => sound e (fault_of_compile failed)

end PredicateDraft

/-! ## 2. Rules -/

/-- The test and the context of the rule compile. -/
def RuleDraft.Compiles (d : Defaults) (r : RuleDraft) : Prop :=
  (∃ test, r.test.compile d = .ok test) ∧ ∃ context, Path.Expr.compile r.context = .ok context

/-- What can be wrong with a rule: its test, or its context. -/
def RuleDraft.Fault (r : RuleDraft) (e : ConfigError) : Prop :=
  r.test.Fault e ∨ Path.Expr.compile r.context = .error e

theorem RuleDraft.Fault.blameless {r : RuleDraft} (h : r.Fault e) :
    (e.kind = .malformedRule ∨ e.kind = .unsupportedExpression) ∧ e.ruleId = none ∧
      e.phase = none := by
  rcases h with wrong | unsupported
  · exact wrong.blameless
  · obtain ⟨offset, detail, rfl⟩ := Path.Expr.exists_unsupported_of_compile unsupported
    exact ⟨.inr rfl, rfl, rfl⟩

theorem RuleDraft.compiles_iff {r : RuleDraft} (phase : String) :
    r.Compiles d ↔ ∃ rule, r.compile d phase = .ok rule := by
  simp only [RuleDraft.compile_eq_ok_iff, Compiles]
  constructor
  · intro h
    obtain ⟨⟨test, htest⟩, context, hcontext⟩ := h
    exact ⟨_, test, context, htest, hcontext, rfl⟩
  · intro h
    obtain ⟨_, test, context, htest, hcontext, _⟩ := h
    exact ⟨⟨test, htest⟩, context, hcontext⟩

/-- **A rule compiles if and only if nothing is wrong with it**: its test and its context have no
    fault. -/
theorem RuleDraft.compiles_iff_faultless {r : RuleDraft} :
    r.Compiles d ↔ ∀ e, ¬ r.Fault e := by
  have context : (∃ x, Path.Expr.compile r.context = .ok x) ↔
      ∀ e, ¬ Path.Expr.compile r.context = .error e := exists_eq_ok_iff
  simp only [Compiles, Fault, not_or, forall_and, PredicateDraft.exists_compile_eq_ok_iff, context]

/-- The error with a rule and a phase to blame. -/
def ConfigError.blaming (e : ConfigError) (id phase : String) : ConfigError :=
  { e with ruleId := some id, phase := some phase }

/-- **A rule that does not compile is blamed** for a fault of its own. -/
theorem RuleDraft.compile_eq_error {r : RuleDraft} {phase : String}
    (h : r.compile d phase = .error e) : ∃ fault, r.Fault fault ∧ e = fault.inRule r.id := by
  rw [RuleDraft.compile] at h
  cases test : r.test.compile d with
  | error fault =>
    rw [test] at h
    cases h
    exact ⟨fault, .inl (PredicateDraft.fault_of_compile test), rfl⟩
  | ok test' =>
    rw [test] at h
    have failed := map_eq_error.mp h
    rw [Rule.compile] at failed
    cases context : Path.Expr.compile r.context with
    | error fault =>
      rw [context] at failed
      cases failed
      exact ⟨fault, .inr context, rfl⟩
    | ok context' =>
      rw [context] at failed
      cases failed

/-- Where nobody is blamed yet, the names are added. -/
theorem RuleDraft.Fault.blaming_eq {r : RuleDraft} {fault : ConfigError} (h : r.Fault fault)
    (id phase : String) : (fault.inRule id).inPhase phase = fault.blaming id phase := by
  obtain ⟨_, noRule, noPhase⟩ := h.blameless
  simp only [ConfigError.inRule, ConfigError.inPhase, ConfigError.blaming, noRule, noPhase,
    Option.none_or]

/-! ## 3. Libraries -/

/-- The rules of phases in the order of the text, each one with its phase. -/
def rulesWritten (phases : List PhaseDraft) : List (PhaseDraft × RuleDraft) :=
  phases.flatMap fun p => p.rules.map (p, ·)

/-- The rules of a library in the order of the text, each one with its phase. -/
def LibraryDraft.written (draft : LibraryDraft) : List (PhaseDraft × RuleDraft) :=
  rulesWritten draft.phases

/-- A rule is its draft compiled, and belongs to the phase. -/
structure RuleDraft.Becomes (d : Defaults) (phase : String) (r : RuleDraft) (rule : Rule) :
    Prop where
  id : rule.id = r.id
  phase : rule.phase = phase
  context : ∃ x, Path.Expr.compile r.context = .ok x ∧ rule.context = x.anchored
  test : r.test.compile d = .ok rule.test
  severity : rule.severity = r.severity
  message : rule.message = r.message
  blankIsAbsent : rule.blankIsAbsent = r.blankIsAbsent.getD d.blankIsAbsent

theorem RuleDraft.becomes_of_compile {phase : String} {r : RuleDraft} {rule : Rule}
    (h : r.compile d phase = .ok rule) : r.Becomes d phase rule := by
  obtain ⟨test, context, htest, hcontext, rfl⟩ := RuleDraft.compile_eq_ok_iff.mp h
  exact ⟨rfl, rfl, ⟨context, hcontext, rfl⟩, htest, rfl, rfl, rfl⟩

theorem PhaseDraft.exists_compile_eq_ok_iff {p : PhaseDraft} :
    (∃ rules, p.compile d = .ok rules) ↔ ∀ r ∈ p.rules, r.Compiles d := by
  simp only [PhaseDraft.compile_eq_ok_iff, ← mapM_eq_ok_iff, exists_mapM_eq_ok_iff,
    RuleDraft.compiles_iff p.name]

/-- **A phase fails as its first rule does that fails**, and both are blamed. -/
theorem PhaseDraft.compile_eq_error {p : PhaseDraft} (h : p.compile d = .error e) :
    ∃ before r after fault, p.rules = before ++ r :: after ∧ (∀ x ∈ before, x.Compiles d) ∧
      ¬ r.Compiles d ∧ r.Fault fault ∧ e = fault.blaming r.id p.name := by
  obtain ⟨e', failed, rfl⟩ := mapError_eq_error.mp h
  obtain ⟨before, r, after, whole, fine, failed⟩ := mapM_eq_error_iff.mp failed
  obtain ⟨fault, wrong, rfl⟩ := RuleDraft.compile_eq_error failed
  refine ⟨before, r, after, fault, whole, fun x hx => ?_, fun compiles => ?_, wrong,
    wrong.blaming_eq r.id p.name⟩
  · exact (RuleDraft.compiles_iff _).mpr (fine x hx)
  · obtain ⟨rule, compiled⟩ := (RuleDraft.compiles_iff _).mp compiles
    rw [failed] at compiled
    cases compiled

/-- The rules of a compiled library are those of the text, in its order. -/
theorem forall₂_rulesWritten {phases : List PhaseDraft} {parts : List (List Rule)}
    (h : List.Forall₂ (fun p rules => p.compile d = .ok rules) phases parts) :
    List.Forall₂ (fun w rule => w.2.Becomes d w.1.name rule) (rulesWritten phases)
      parts.flatten := by
  induction h with
  | nil => exact .nil
  | @cons p rules _ _ first _ ih =>
    have own : List.Forall₂ (fun w rule => w.2.Becomes d w.1.name rule)
        (p.rules.map (p, ·)) rules := by
      rw [List.forall₂_map_left_iff]
      exact (PhaseDraft.compile_eq_ok_iff.mp first).imp fun _ _ => RuleDraft.becomes_of_compile
    rw [rulesWritten, List.flatMap_cons, List.flatten_cons]
    exact List.rel_append own ih

/-- The ids that the phases list are those of the rules. -/
theorem flatMap_ruleIds {phases : List PhaseDraft} {parts : List (List Rule)}
    (h : List.Forall₂ (fun p rules => p.compile d = .ok rules) phases parts) :
    (phases.map PhaseDraft.toPhase).flatMap (·.ruleIds) = parts.flatten.map (·.id) := by
  induction h with
  | nil => rfl
  | cons first _ ih =>
    rw [List.map_cons, List.flatMap_cons, List.flatten_cons, List.map_append, ih,
      PhaseDraft.ids_of_compile first]

/-- **The first rule that does not compile is blamed.** A library compiles if and only if the test
    and the context of each rule do, and these do if and only if there is no fault in them, however
    deep. Its rules are then those of the text in their order, each one
    in its phase, and the phases together list their ids. Otherwise the error is that of a fault in
    the first rule, in the order of the text, that does not compile: the rule is malformed or an
    expression of it not supported, and its id and the name of its phase are in the error. -/
theorem LibraryDraft.compile_blames_first (draft : LibraryDraft) :
    ((∃ lib, draft.compile = .ok lib) ↔
      ∀ p ∈ draft.phases, ∀ r ∈ p.rules, r.Compiles draft.defaults) ∧
    (∀ r : RuleDraft, r.Compiles draft.defaults ↔ ∀ e, ¬ r.Fault e) ∧
    (∀ lib, draft.compile = .ok lib →
      List.Forall₂ (fun w rule => w.2.Becomes draft.defaults w.1.name rule) draft.written
        lib.rules ∧
      lib.phases = draft.phases.map PhaseDraft.toPhase ∧
      lib.phases.flatMap (·.ruleIds) = lib.rules.map (·.id)) ∧
    ∀ e, draft.compile = .error e → ∃ before p r after fault,
      draft.written = before ++ (p, r) :: after ∧
      (∀ w ∈ before, w.2.Compiles draft.defaults) ∧ ¬ r.Compiles draft.defaults ∧
      r.Fault fault ∧ e = fault.blaming r.id p.name ∧
      (e.kind = .malformedRule ∨ e.kind = .unsupportedExpression) := by
  refine ⟨?_, fun r => RuleDraft.compiles_iff_faultless, fun lib compiled => ?_, fun e failed => ?_⟩
  · simp only [LibraryDraft.compile, exists_map_eq_ok_iff, exists_mapM_eq_ok_iff,
      PhaseDraft.exists_compile_eq_ok_iff]
  · obtain ⟨parts, each, rfl⟩ := LibraryDraft.compile_eq_ok_iff.mp compiled
    exact ⟨forall₂_rulesWritten each, rfl, flatMap_ruleIds each⟩
  · rw [LibraryDraft.compile, map_eq_error] at failed
    obtain ⟨earlier, p, later, phases, fine, failed⟩ := mapM_eq_error_iff.mp failed
    obtain ⟨before, r, after, fault, rules, sound, fails, wrong, rfl⟩ :=
      PhaseDraft.compile_eq_error failed
    have written : draft.written = (rulesWritten earlier ++ before.map (p, ·)) ++
        (p, r) :: (after.map (p, ·) ++ rulesWritten later) := by
      rw [LibraryDraft.written, phases, rulesWritten, List.flatMap_append, List.flatMap_cons, rules,
        List.map_append, List.map_cons]
      simp [rulesWritten]
    refine ⟨_, p, r, _, fault, written, fun w hw => ?_, fails, wrong, rfl, wrong.blameless.1⟩
    rcases List.mem_append.mp hw with hw | hw
    · obtain ⟨q, hq, hw⟩ := List.mem_flatMap.mp hw
      obtain ⟨x, hx, rfl⟩ := List.mem_map.mp hw
      exact PhaseDraft.exists_compile_eq_ok_iff.mp (fine q hq) x hx
    · obtain ⟨x, hx, rfl⟩ := List.mem_map.mp hw
      exact sound x hx

/-- A library whose second rule has a choice among three predicates, two levels down. -/
def choiceOfThree : LibraryDraft where
  version := "1"
  phases := [
    ⟨"titles", [{ id := "sec.title", context := "sec", test := .present "title" }]⟩,
    ⟨"figures", [
      { id := "fig.label", context := "fig",
        test := .any [.present "label", .not (.xor [.present "a", .present "b", .present "c"])] },
      { id := "fig.caption", context := "fig[", test := .present "caption" }]⟩]

example : choiceOfThree.compile.map (·.version) =
    .error ((PredicateDraft.wrongChoice 3).blaming "fig.label" "figures") := by
  decide +kernel

end MarkupRules
