import MarkupRules.Proofs.Library.Partition
import MarkupRules.Proofs.Registry.Independence

/-!
# The phases of a library and the phases that its rules name

A library declares its phases, and each of its rules carries the name of the phase that it is
written under. Grouping the rules by these names gives the declared phases back, except for those
that no rule is written under.

* `Phase.Heads` -- a phase and the rules that are written under it;
* `Registry.foldl_addToPhase_run` -- rules of one phase in a row make one phase;
* `Registry.phasesOf_flatten` -- **rules written phase by phase name these phases in their order**;
* `LibraryDraft.exists_heads_of_compile` -- a compiled library is written phase by phase;
* `Library.regrouping_agrees` -- **the registry of a library and that of its rules agree**.
-/

namespace MarkupRules

variable {r : Rule} {own rules : List Rule} {before phases : List Phase} {parts : List (List Rule)}
  {name : String} {ids : List String} {p : Phase}

/-! ## 1. Rules phase by phase -/

/-- Whether a phase lists any rule. -/
def Phase.hasRules (p : Phase) : Bool :=
  !p.ruleIds.isEmpty

/-- The rules that are written under the phase: it lists them, and they belong to it. -/
structure Phase.Heads (p : Phase) (own : List Rule) : Prop where
  listed : p.ruleIds = own.map (·.id)
  owned : ∀ r ∈ own, r.phase = p.name

theorem Phase.Heads.hasRules_iff (h : p.Heads own) : p.hasRules = true ↔ own ≠ [] := by
  simp [hasRules, h.listed]

namespace Registry

/-- Phases of other names are passed over. -/
theorem addToPhase_append (fresh : r.phase ∉ before.map (·.name)) :
    addToPhase r (before ++ phases) = before ++ addToPhase r phases := by
  induction before with
  | nil => rfl
  | cons p rest ih =>
    obtain ⟨apart, fresh⟩ := List.ne_and_not_mem_of_not_mem_cons fresh
    rw [List.cons_append, addToPhase, if_neg (Ne.symm apart), ih fresh]
    rfl

/-- Rules of the last phase join it. -/
theorem foldl_addToPhase_last (fresh : name ∉ before.map (·.name))
    (owned : ∀ r ∈ own, r.phase = name) :
    own.foldl (fun phases r => addToPhase r phases) (before ++ [⟨name, ids⟩]) =
      before ++ [⟨name, ids ++ own.map (·.id)⟩] := by
  induction own generalizing ids with
  | nil => rw [List.foldl_nil, List.map_nil, List.append_nil]
  | cons r rest ih =>
    obtain ⟨first, others⟩ := List.forall_mem_cons.mp owned
    have joined : addToPhase r [⟨name, ids⟩] = [⟨name, ids ++ [r.id]⟩] := if_pos first.symm
    rw [List.foldl_cons, addToPhase_append (first ▸ fresh), joined, ih others, List.append_assoc]
    rfl

/-- **Rules of one phase in a row make one phase**, behind those that are there. -/
theorem foldl_addToPhase_run (fresh : p.name ∉ before.map (·.name)) (heads : p.Heads own)
    (nonempty : own ≠ []) :
    own.foldl (fun phases r => addToPhase r phases) before = before ++ [p] := by
  obtain ⟨r, rest, rfl⟩ := List.exists_cons_of_ne_nil nonempty
  obtain ⟨first, others⟩ := List.forall_mem_cons.mp heads.owned
  have opened : addToPhase r before = before ++ [⟨p.name, [r.id]⟩] := by
    have behind : addToPhase r (before ++ []) = before ++ addToPhase r [] :=
      addToPhase_append (first ▸ fresh)
    rw [List.append_nil, addToPhase, first] at behind
    exact behind
  have whole : p = ⟨p.name, [r.id] ++ rest.map (·.id)⟩ := by
    obtain ⟨pname, pids⟩ := p
    exact congrArg (Phase.mk pname) heads.listed
  rw [List.foldl_cons, opened, foldl_addToPhase_last fresh others, ← whole]

/-- Phases are met one after the other, those without rules not at all. By induction on the
    phases, those met so far being `before`. -/
theorem foldl_addToPhase_flatten (heads : List.Forall₂ Phase.Heads phases parts)
    (nodup : ((before ++ phases).map (·.name)).Nodup) :
    parts.flatten.foldl (fun phases r => addToPhase r phases) before =
      before ++ phases.filter (·.hasRules) := by
  induction heads generalizing before with
  | nil => rw [List.flatten_nil, List.foldl_nil, List.filter_nil, List.append_nil]
  | @cons p own rest others first _ ih =>
    rw [List.flatten_cons, List.foldl_append, List.filter_cons]
    by_cases empty : own = []
    · have none : ¬ p.hasRules = true := fun some => first.hasRules_iff.mp some empty
      have fewer : ((before ++ rest).map (·.name)).Nodup :=
        nodup.sublist (((List.sublist_cons_self p rest).append_left before).map _)
      rw [empty, List.foldl_nil, ih fewer, if_neg none]
    · have fresh : p.name ∉ before.map (·.name) := by
        rw [List.map_append, List.map_cons, List.nodup_middle, List.nodup_cons] at nodup
        exact fun met => nodup.1 (List.mem_append_left _ met)
      have met : before ++ p :: rest = before ++ [p] ++ rest := List.append_cons before p rest
      rw [foldl_addToPhase_run fresh first empty, if_pos (first.hasRules_iff.mpr empty),
        ih (met ▸ nodup), ← List.append_cons]

/-- **Rules written phase by phase name these phases in their order**, except for those that no
    rule is written under. -/
theorem phasesOf_flatten (heads : List.Forall₂ Phase.Heads phases parts)
    (nodup : (phases.map (·.name)).Nodup) :
    phasesOf parts.flatten = phases.filter (·.hasRules) :=
  @foldl_addToPhase_flatten [] phases parts heads nodup

/-! ## 2. Grouped rules are accepted -/

/-- Rules that are accepted with phases that group them are accepted without them. -/
theorem exists_ofRules_of_groups {reg : Registry} (built : withPhases rules phases = .ok reg)
    (groups : Groups rules phases) : ∃ regrouped, ofRules rules = .ok regrouped := by
  obtain ⟨_, faultless, fine⟩ := withPhases_eq_ok_iff.mp built
  obtain ⟨sound, nodup⟩ := rulesFault?_eq_none_iff.mp faultless
  refine exists_ofRules_eq_ok_iff.mpr ⟨fun r hr => ⟨(sound r hr).1, ?_⟩, nodup⟩
  obtain ⟨p, hp, same⟩ := List.mem_map.mp (groups.covered r hr)
  obtain ⟨notAll, format, _⟩ :=
    Phase.fault?_eq_none_iff.mp ((phasesFault?_eq_none_iff.mp fine).1 p hp)
  exact same ▸ ⟨notAll, format⟩

end Registry

/-! ## 3. Libraries -/

/-- **A compiled library is written phase by phase.** -/
theorem LibraryDraft.exists_heads_of_compile {draft : LibraryDraft} {lib : Library}
    (h : draft.compile = .ok lib) :
    ∃ parts, lib.rules = parts.flatten ∧ List.Forall₂ Phase.Heads lib.phases parts := by
  obtain ⟨parts, compiled, rfl⟩ := LibraryDraft.compile_eq_ok_iff.mp h
  refine ⟨parts, rfl, ?_⟩
  rw [List.forall₂_map_left_iff]
  exact compiled.imp fun p own h =>
    ⟨(PhaseDraft.ids_of_compile h).symm, fun r hr => PhaseDraft.phase_of_mem_compile h hr⟩

open Registry in
/-- **The registry of a library and that of its rules agree**, for every draft that compiles. Where
    the first is accepted, so is the second; its phases are those of the library that have a rule,
    in their order; and each of these phases, and the phase of all rules, resolves to the same rules
    in both and gives the same report on every document. -/
theorem Library.regrouping_agrees {draft : LibraryDraft} {lib : Library} {reg : Registry}
    (compiled : draft.compile = .ok lib) (built : lib.toRegistry = .ok reg) :
    ∃ regrouped, Registry.ofRules lib.rules = .ok regrouped ∧
      regrouped.phases = lib.phases.filter (·.hasRules) ∧
        ∀ name, name = allPhase ∨ name ∈ regrouped.phaseNames →
          ∃ rules, reg.resolve name = .ok rules ∧ regrouped.resolve name = .ok rules ∧
            ∀ doc, ∃ report, reg.validate doc name = .ok report ∧
              regrouped.validate doc name = .ok report := by
  obtain ⟨parts, written, heads⟩ := draft.exists_heads_of_compile compiled
  obtain ⟨same, _, faultless⟩ := withPhases_eq_ok_iff.mp built
  have nodup := (phasesFault?_eq_none_iff.mp faultless).2
  have grouped : ByPhase reg := .ofLibrary compiled built
  obtain ⟨regrouped, again⟩ :=
    exists_ofRules_of_groups built (draft.groups_of_compile compiled nodup)
  have phases : regrouped.phases = lib.phases.filter (·.hasRules) := by
    obtain ⟨rfl, _⟩ := withPhases_eq_ok_iff.mp again
    rw [← phasesOf_flatten heads nodup, ← written]
  refine ⟨regrouped, again, phases, fun name known => ?_⟩
  have resolved : ∃ rules, reg.resolve name = .ok rules ∧ regrouped.resolve name = .ok rules := by
    rcases known with rfl | declared
    · refine ⟨lib.rules, ?_, ?_⟩
      · rw [same]
        exact if_pos rfl
      · rw [← rules_of_ofRules again]
        exact if_pos rfl
    · -- the library declares the phase too, and both run the rules that belong to it
      have first : name ∈ reg.phaseNames := by
        rw [phaseNames, phases] at declared
        rw [same]
        exact (List.filter_sublist.map _).mem declared
      refine ⟨rulesOf lib.rules name, ?_, resolve_of_ofRules again declared⟩
      rw [grouped.resolve_eq first, same]
  obtain ⟨rules, resolved, resolved'⟩ := resolved
  exact ⟨rules, resolved, resolved', fun doc =>
    ⟨_, validate_of_resolve resolved, validate_of_resolve resolved'⟩⟩

/-- A library with a phase that no rule is written under. -/
def sparseLibrary : String :=
  "version: \"1\"\nphases:\n- name: drafts\n  rules: []\n- name: shelves\n  rules:\n" ++
    "  - id: shelf.book\n    context: shelf\n    assert:\n      present: book\n" ++
      "- name: books\n  rules:\n  - id: book.title\n    context: book\n" ++
        "    assert:\n      present: title\n"

theorem Library.regrouping_agrees_sparse : ∃ draft lib reg regrouped,
    Library.ofText sparseLibrary = .ok lib ∧ LibraryDraft.compile draft = .ok lib ∧
      lib.toRegistry = .ok reg ∧ reg.phaseNames = ["drafts", "shelves", "books"] ∧
        Registry.ofRules lib.rules = .ok regrouped ∧
        regrouped.phases = [⟨"shelves", ["shelf.book"]⟩, ⟨"books", ["book.title"]⟩] ∧
          ∀ name ∈ [allPhase, "shelves", "books"],
            ∃ rules, reg.resolve name = .ok rules ∧ regrouped.resolve name = .ok rules ∧
              ∀ doc, ∃ report, reg.validate doc name = .ok report ∧
                regrouped.validate doc name = .ok report := by
  have declared : ((Library.ofText sparseLibrary).toOption.bind (·.toRegistry.toOption)).map
      (·.phases) = some [⟨"drafts", []⟩, ⟨"shelves", ["shelf.book"]⟩, ⟨"books", ["book.title"]⟩] := by
    decide +kernel
  obtain ⟨reg, built, phases⟩ := Option.map_eq_some_iff.mp declared
  obtain ⟨lib, read, built⟩ := Option.bind_eq_some_iff.mp built
  rw [toOption_eq_some_iff] at read built
  obtain ⟨draft, compiled⟩ := Library.exists_compile_of_ofText read
  obtain ⟨regrouped, again, kept, agree⟩ := Library.regrouping_agrees compiled built
  have own : lib.phases = reg.phases := by
    obtain ⟨rfl, _⟩ := Registry.withPhases_eq_ok_iff.mp built
    rfl
  rw [own, phases] at kept
  refine ⟨draft, lib, reg, regrouped, read, compiled, built, ?_, again, kept,
    fun name known => agree name ?_⟩
  · rw [Registry.phaseNames, phases]
    rfl
  · rw [Registry.phaseNames, kept]
    exact List.mem_cons.mp known

end MarkupRules
