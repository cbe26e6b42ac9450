import MarkupRules.Proofs.Library.Blame

/-!
# Defaults written out

The defaults of a library stand for what its rules and predicates could have said themselves. With
all of it written out, the library is compiled to the same under any defaults.

* `PredicateDraft.Silent`, `RuleDraft.Silent` -- something is left to the defaults, at any depth;
* `PredicateDraft.filled`, `RuleDraft.filled`, `LibraryDraft.filled` -- the defaults written wherever
  something is left to them;
* `PredicateDraft.not_silent_filled`, `PredicateDraft.filled_eq_self` -- **every silence is filled,
  and nothing else is changed**;
* `PredicateDraft.compile_filled` -- a filled predicate is compiled as before, whatever the defaults;
* `LibraryDraft.defaults_written_out` -- **the same holds of a library**.
-/

namespace MarkupRules

variable {d : Defaults} {m : MatchMode}

/-! ## 1. Predicates -/

namespace PredicateDraft

/-- What a predicate says about the mode of its own comparison, if it has one. -/
def ownMode? : PredicateDraft → Option (Option MatchMode)
  | .equals _ _ _ mode | .valueIn _ _ _ mode | .exactlyOneOf _ _ mode => some mode
  | _ => none

/-- Somewhere in the predicate a mode is left to the defaults. -/
inductive Silent : PredicateDraft → Prop
  | own {p : PredicateDraft} : p.ownMode? = some none → Silent p
  | inside {p q : PredicateDraft} : q ∈ p.parts → Silent q → Silent p

mutual

/-- The predicate with the mode written wherever none is, at any depth. -/
def filled (m : MatchMode) : PredicateDraft → PredicateDraft
  | .present path => .present path
  | .absent path => .absent path
  | .not inner => .not (filled m inner)
  | .all parts => .all (filledList m parts)
  | .any parts => .any (filledList m parts)
  | .xor parts => .xor (filledList m parts)
  | .count path condition => .count path condition
  | .equals path value quantifier mode => .equals path value quantifier (some (mode.getD m))
  | .valueIn path domain required mode => .valueIn path domain required (some (mode.getD m))
  | .exactlyOneOf path domain mode => .exactlyOneOf path domain (some (mode.getD m))
  | .countEquals declared counted => .countEquals declared counted
  | .spanEquals declared first last => .spanEquals declared first last
  | .when condition consequence => .when (filled m condition) (filled m consequence)

/-- The predicates with the mode written wherever none is. -/
def filledList (m : MatchMode) : List PredicateDraft → List PredicateDraft
  | [] => []
  | p :: rest => filled m p :: filledList m rest

end

theorem filledList_eq_map : ∀ parts : List PredicateDraft, filledList m parts = parts.map (filled m)
  | [] => by rw [filledList, List.map_nil]
  | p :: rest => by rw [filledList, List.map_cons, filledList_eq_map rest]

/-- What is inside a filled predicate is filled. -/
theorem parts_filled (p : PredicateDraft) : (p.filled m).parts = p.parts.map (filled m) := by
  cases p <;> rw [filled] <;> first | rfl | exact filledList_eq_map _

/-- A mode that is written stays, and one that is not is written. -/
theorem ownMode?_filled (p : PredicateDraft) :
    (p.filled m).ownMode? = p.ownMode?.map fun mode => some (mode.getD m) := by
  cases p <;> rw [filled] <;> rfl

/-- **Every silence is filled.** -/
theorem not_silent_filled (p : PredicateDraft) : ¬ (p.filled m).Silent := by
  intro silent
  generalize same : p.filled m = q at silent
  induction silent generalizing p with
  | own none =>
    rw [← same, ownMode?_filled] at none
    obtain ⟨mode, _, written⟩ := Option.map_eq_some_iff.mp none
    cases written
  | inside part _ ih =>
    rw [← same, parts_filled] at part
    obtain ⟨r, _, filled⟩ := List.mem_map.mp part
    exact ih r filled

mutual
/-- **Nothing else is changed.** -/
theorem filled_eq_self : ∀ {p : PredicateDraft}, ¬ p.Silent → p.filled m = p
  | .present _, _ | .absent _, _ | .count .., _ | .countEquals .., _ | .spanEquals .., _ => by
    rw [filled]
  | .not inner, h => by
    rw [filled, filled_eq_self fun silent => h (.inside List.mem_cons_self silent)]
  | .all parts, h | .any parts, h | .xor parts, h => by
    have sound : ∀ q ∈ parts, ¬ q.Silent := fun q hq silent => h (.inside hq silent)
    rw [filled, filledList_eq_self sound]
  | .equals _ _ _ (some _), _ | .valueIn _ _ _ (some _), _ | .exactlyOneOf _ _ (some _), _ => by
    rw [filled, Option.getD_some]
  | .equals _ _ _ none, h | .valueIn _ _ _ none, h | .exactlyOneOf _ _ none, h =>
    absurd (.own rfl) h
  | .when condition consequence, h => by
    have last : consequence ∈ (when condition consequence).parts :=
      List.mem_cons_of_mem _ List.mem_cons_self
    rw [filled, filled_eq_self fun silent => h (.inside List.mem_cons_self silent),
      filled_eq_self fun silent => h (.inside last silent)]

theorem filledList_eq_self : ∀ {parts : List PredicateDraft}, (∀ q ∈ parts, ¬ q.Silent) →
    filledList m parts = parts
  | [], _ => by rw [filledList]
  | p :: rest, h => by
    obtain ⟨first, others⟩ := List.forall_mem_cons.mp h
    rw [filledList, filled_eq_self first, filledList_eq_self others]
end

mutual
/-- **A filled predicate is compiled as before**, whatever the defaults are then: the modes are
    written, and nothing else in a predicate asks for them. -/
theorem compile_filled (others : Defaults) : ∀ p : PredicateDraft,
    compile others (p.filled d.mode) = compile d p
  | .present _ | .absent _ | .count .. | .countEquals .. | .spanEquals .. => by
    rw [filled, compile, compile]
  | .equals .. | .valueIn .. | .exactlyOneOf .. => by
    rw [filled, compile, compile, Option.getD_some]
  | .not inner => by
    rw [filled, compile, compile, compile_filled others inner]
  | .all parts | .any parts => by
    rw [filled, compile, compile, compileList_filled others parts]
  | .xor [left, right] => by
    rw [filled, filledList, filledList, filledList, compile, compile, compile_filled others left,
      compile_filled others right]
  | .xor [] | .xor [_] | .xor (_ :: _ :: _ :: _) => by
    -- the error tells the number of predicates only
    simp [filled, filledList, filledList_eq_map, compile]
  | .when condition consequence => by
    rw [filled, compile, compile, compile_filled others condition,
      compile_filled others consequence]

theorem compileList_filled (others : Defaults) : ∀ parts : List PredicateDraft,
    compileList others (filledList d.mode parts) = compileList d parts
  | [] => by rw [filledList, compileList, compileList]
  | p :: rest => by
    rw [filledList, compileList, compileList, compile_filled others p,
      compileList_filled others rest]
end

end PredicateDraft

/-! ## 2. Rules and phases -/

/-- Something in the rule is left to the defaults. -/
def RuleDraft.Silent (r : RuleDraft) : Prop :=
  r.blankIsAbsent = none ∨ r.test.Silent

/-- The rule with the defaults written wherever something is left to them. -/
def RuleDraft.filled (d : Defaults) (r : RuleDraft) : RuleDraft :=
  { r with
    blankIsAbsent := some (r.blankIsAbsent.getD d.blankIsAbsent)
    test := r.test.filled d.mode }

theorem RuleDraft.not_silent_filled (r : RuleDraft) : ¬ (r.filled d).Silent := by
  rintro (blank | silent)
  · cases blank
  · exact r.test.not_silent_filled silent

theorem RuleDraft.filled_eq_self {r : RuleDraft} (h : ¬ r.Silent) : r.filled d = r := by
  obtain ⟨id, context, severity, message, blankIsAbsent, test⟩ := r
  obtain ⟨said, sound⟩ := not_or.mp h
  obtain ⟨blank, rfl⟩ := Option.ne_none_iff_exists'.mp said
  rw [filled, PredicateDraft.filled_eq_self sound]
  rfl

theorem RuleDraft.compile_filled (others : Defaults) (phase : String) (r : RuleDraft) :
    (r.filled d).compile others phase = r.compile d phase := by
  rw [compile, compile, filled, PredicateDraft.compile_filled]
  rfl

/-- The phase with the defaults written into its rules. -/
def PhaseDraft.filled (d : Defaults) (p : PhaseDraft) : PhaseDraft :=
  { p with rules := p.rules.map (RuleDraft.filled d) }

theorem PhaseDraft.compile_filled (others : Defaults) (p : PhaseDraft) :
    (p.filled d).compile others = p.compile d := by
  have each : RuleDraft.compile others p.name ∘ RuleDraft.filled d = RuleDraft.compile d p.name :=
    funext fun r => r.compile_filled others p.name
  rw [compile, compile, filled, List.mapM_map, each]

theorem PhaseDraft.toPhase_filled (p : PhaseDraft) : (p.filled d).toPhase = p.toPhase := by
  rw [toPhase, toPhase, filled, List.map_map]
  rfl

/-! ## 3. Libraries -/

/-- The library with its defaults written into its rules, and other defaults in their place. -/
def LibraryDraft.filled (draft : LibraryDraft) (others : Defaults) : LibraryDraft :=
  { draft with
    defaults := others
    phases := draft.phases.map (PhaseDraft.filled draft.defaults) }

/-- **Defaults are the same as what they stand for.** With its defaults written into its rules, a
    library leaves nothing to any defaults, and rules that left nothing to them are as they were.
    Whatever defaults it is given then, it fails with the same error as before, or has the same
    rules and phases. -/
theorem LibraryDraft.defaults_written_out (draft : LibraryDraft) (others : Defaults) :
    (∀ w ∈ (draft.filled others).written, ¬ w.2.Silent) ∧
    (∀ w ∈ draft.written, ¬ w.2.Silent → w.2.filled draft.defaults = w.2) ∧
    ((∃ e, draft.compile = .error e ∧ (draft.filled others).compile = .error e) ∨
      ∃ lib lib', draft.compile = .ok lib ∧ (draft.filled others).compile = .ok lib' ∧
        lib'.rules = lib.rules ∧ lib'.phases = lib.phases) := by
  refine ⟨fun w hw => ?_, fun w _ => RuleDraft.filled_eq_self, ?_⟩
  · obtain ⟨p', hp, hw⟩ := List.mem_flatMap.mp hw
    obtain ⟨p, _, rfl⟩ := List.mem_map.mp hp
    obtain ⟨r', hr, rfl⟩ := List.mem_map.mp hw
    obtain ⟨r, _, rfl⟩ := List.mem_map.mp hr
    exact r.not_silent_filled
  · have each : PhaseDraft.compile others ∘ PhaseDraft.filled draft.defaults =
        PhaseDraft.compile draft.defaults := funext fun p => p.compile_filled others
    have phases : (draft.phases.map (PhaseDraft.filled draft.defaults)).map PhaseDraft.toPhase =
        draft.phases.map PhaseDraft.toPhase := by
      rw [List.map_map]
      exact List.map_congr_left fun p _ => p.toPhase_filled
    have compiled : (draft.phases.map (PhaseDraft.filled draft.defaults)).mapM
        (PhaseDraft.compile others) = draft.phases.mapM (PhaseDraft.compile draft.defaults) := by
      rw [List.mapM_map, each]
    rw [compile, compile, filled, compiled, phases]
    cases draft.phases.mapM (PhaseDraft.compile draft.defaults) with
    | error e => exact .inl ⟨e, rfl, rfl⟩
    | ok rules => exact .inr ⟨_, _, rfl, rfl, rfl, rfl⟩

example : (PredicateDraft.not (.all [.valueIn "@type" ["a", "b"] true none])).filled .normalizeSpace =
    .not (.all [.valueIn "@type" ["a", "b"] true (some .normalizeSpace)]) := rfl

end MarkupRules
