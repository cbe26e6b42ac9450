import MarkupRules.Library.Loading
import MarkupRules.Proofs.Library.Compilation
import MarkupRules.Proofs.Registry.Grouping
import MarkupRules.Proofs.Registry.Truthfulness

/-!
# The phases are a partition of all rules

Registries whose rules belong to their phases: those of a list of rules, and those of a library.
Running each phase on its own does what running all rules at once does.

* `LibraryDraft.groups_of_compile` -- **the phases of a library group its rules**;
* `Registry.ByPhase` -- a registry of rules, or of a compiled library;
* `Registry.ByPhase.ofText` -- a library that was read from a text is one of these;
* `Registry.ByPhase.groups`, `Registry.ByPhase.resolve_iff` -- a rule is run by the phase that it
  belongs to, and by no other;
* `Registry.all_phase_is_partitioned` -- **the results of all rules are those of the phases
  together**.
-/

namespace MarkupRules

variable {reg : Registry} {doc : Document} {name : String}

/-! ## 1. Libraries -/

/-- Phases that are told apart by their names group what they are compiled to. -/
theorem groups_flatten {d : Defaults} {phases : List PhaseDraft} {parts : List (List Rule)}
    (compiled : List.Forall₂ (fun p rules => p.compile d = .ok rules) phases parts)
    (nodup : (phases.map (·.name)).Nodup) :
    Groups parts.flatten (phases.map PhaseDraft.toPhase) := by
  induction compiled with
  | nil => exact Groups.of_phasesOf []
  | cons first _ ih =>
    obtain ⟨fresh, nodup⟩ := List.nodup_cons.mp nodup
    refine (ih nodup).cons ?_ (PhaseDraft.ids_of_compile first).symm
      fun r hr => PhaseDraft.phase_of_mem_compile first hr
    rw [List.map_map]
    exact fresh

/-- **The phases of a library group its rules**, if they are told apart by their names. -/
theorem LibraryDraft.groups_of_compile {draft : LibraryDraft} {lib : Library}
    (h : draft.compile = .ok lib) (nodup : (lib.phases.map (·.name)).Nodup) :
    Groups lib.rules lib.phases := by
  obtain ⟨parts, compiled, rfl⟩ := LibraryDraft.compile_eq_ok_iff.mp h
  rw [List.map_map] at nodup
  exact groups_flatten compiled nodup

/-- A library that was read from a text is a draft compiled. -/
theorem Library.exists_compile_of_ofText {text : String} {lib : Library}
    (h : Library.ofText text = .ok lib) : ∃ draft : LibraryDraft, draft.compile = .ok lib := by
  have valued : ∀ v, Library.ofValue v = .ok lib → ∃ draft : LibraryDraft,
      draft.compile = .ok lib := by
    intro v h
    unfold Library.ofValue at h
    split at h
    · split at h
      · cases h
      · exact ⟨_, h⟩
    · cases h
  unfold Library.ofText at h
  split at h
  · cases h
  · split at h
    · cases h
    · rename_i v _
      cases read : Library.ofValue v with
      | error e =>
        rw [read] at h
        cases h
      | ok lib' =>
        rw [read] at h
        cases h
        exact valued v read

namespace Registry

/-! ## 2. Registries whose rules belong to their phases -/

/-- A registry whose phases are those that the rules name, or those of a compiled library. -/
inductive ByPhase : Registry → Prop
  | ofRules {rules : List Rule} {reg : Registry} : Registry.ofRules rules = .ok reg → ByPhase reg
  | ofLibrary {draft : LibraryDraft} {lib : Library} {reg : Registry} : draft.compile = .ok lib →
      lib.toRegistry = .ok reg → ByPhase reg

/-- What was read from a text is a compiled library. -/
theorem ByPhase.ofText {text : String} {lib : Library} (read : Library.ofText text = .ok lib)
    (built : lib.toRegistry = .ok reg) : ByPhase reg := by
  obtain ⟨draft, compiled⟩ := Library.exists_compile_of_ofText read
  exact .ofLibrary compiled built

theorem ByPhase.exists_accepted (h : reg.ByPhase) : ∃ names, reg.Accepted names := by
  cases h with
  | ofRules built => exact ⟨_, .ofRules built⟩
  | ofLibrary _ built => exact ⟨_, .withPhases built⟩

/-- **Its phases group the rules.** -/
theorem ByPhase.groups (h : reg.ByPhase) : Groups reg.rules reg.phases := by
  cases h with
  | ofRules built =>
    obtain ⟨rfl, _⟩ := withPhases_eq_ok_iff.mp built
    exact Groups.of_phasesOf _
  | ofLibrary compiled built =>
    obtain ⟨rfl, _, faultless⟩ := withPhases_eq_ok_iff.mp built
    exact LibraryDraft.groups_of_compile compiled (phasesFault?_eq_none_iff.mp faultless).2

theorem ByPhase.resolve_eq (h : reg.ByPhase) (declared : name ∈ reg.phaseNames) :
    reg.resolve name = .ok (rulesOf reg.rules name) := by
  obtain ⟨names, accepted⟩ := h.exists_accepted
  exact accepted.resolve_of_groups h.groups declared

/-- **A rule is run by the phase that it belongs to**, and by no other. -/
theorem ByPhase.resolve_iff (h : reg.ByPhase) {r : Rule} (hr : r ∈ reg.rules) :
    (name ∈ reg.phaseNames ∧ ∃ resolved, reg.resolve name = .ok resolved ∧ r ∈ resolved) ↔
      name = r.phase := by
  constructor
  · intro run
    obtain ⟨declared, resolved, hresolved, member⟩ := run
    rw [h.resolve_eq declared] at hresolved
    cases hresolved
    exact (mem_rulesOf.mp member).2.symm
  · rintro rfl
    have declared : r.phase ∈ reg.phaseNames := h.groups.covered r hr
    exact ⟨declared, _, h.resolve_eq declared, mem_rulesOf.mpr ⟨hr, rfl⟩⟩

/-! ## 3. All rules at once -/

/-- The report of a phase, told from the rules that belong to it. -/
def phaseReport (reg : Registry) (doc : Document) (name : String) : Report :=
  .ofResults name ((rulesOf reg.rules name).flatMap (·.evaluate doc))

theorem ByPhase.forall₂_phaseReport (h : reg.ByPhase) :
    List.Forall₂ (fun name report => reg.validate doc name = .ok report) reg.phaseNames
      (reg.phaseNames.map (reg.phaseReport doc)) := by
  rw [List.forall₂_map_right_iff]
  exact List.forall₂_same.mpr fun name declared => validate_of_resolve (h.resolve_eq declared)

/-- **All rules at once are the phases one by one.** No phase is declared twice, and the phase of
    all rules gives the results that the declared phases give together, each as often; all rules
    are valid if and only if each phase is; and each rule is run by exactly one declared phase, the
    one that it belongs to. -/
theorem all_phase_is_partitioned (h : reg.ByPhase) (doc : Document) :
    reg.phaseNames.Nodup ∧ (∃ whole reports, reg.validate doc allPhase = .ok whole ∧
      List.Forall₂ (fun name report => reg.validate doc name = .ok report) reg.phaseNames reports ∧
        whole.results.Perm (reports.flatMap (·.results)) ∧
          (whole.valid = true ↔ ∀ report ∈ reports, report.valid = true)) ∧
      ∀ r ∈ reg.rules, ∀ name,
        (name ∈ reg.phaseNames ∧ ∃ resolved, reg.resolve name = .ok resolved ∧ r ∈ resolved) ↔
          name = r.phase := by
  have all : reg.resolve allPhase = .ok reg.rules := if_pos rfl
  -- the rules of all phases in a row are all rules, so their results are all results
  have results : (reg.rules.flatMap (·.evaluate doc)).Perm
      ((reg.phaseNames.map (reg.phaseReport doc)).flatMap (·.results)) := by
    rw [List.flatMap_map]
    refine (h.groups.perm_flatMap.flatMap_right _).trans (.of_eq ?_)
    rw [List.flatMap_assoc]
    rfl
  refine ⟨h.groups.names, ⟨_, _, validate_of_resolve all, h.forall₂_phaseReport, results, ?_⟩,
    fun r hr name => h.resolve_iff hr⟩
  rw [Report.valid_ofResults_iff]
  constructor
  · intro valid report hreport
    obtain ⟨name, _, rfl⟩ := List.mem_map.mp hreport
    exact Report.valid_ofResults_iff.mpr fun a ha =>
      valid a (results.mem_iff.mpr (List.mem_flatMap.mpr ⟨_, hreport, ha⟩))
  · intro valid a ha
    obtain ⟨report, hreport, ha⟩ := List.mem_flatMap.mp (results.mem_iff.mp ha)
    obtain ⟨name, _, rfl⟩ := List.mem_map.mp hreport
    exact Report.valid_ofResults_iff.mp (valid _ hreport) a ha

/-- A library of two phases. -/
def shelfLibrary : String :=
  "version: \"1\"\nphases:\n- name: books\n  rules:\n  - id: book.title\n    context: book\n" ++
    "    assert:\n      present: title\n- name: shelves\n  rules:\n  - id: shelf.book\n" ++
      "    context: shelf\n    assert:\n      present: book\n"

/-- A shelf with a book that has no title. -/
def shelf : Element :=
  ({ name := "shelf" } : Element).child { name := "book" }

theorem all_phase_is_partitioned_shelf : ∃ lib reg, Library.ofText shelfLibrary = .ok lib ∧
    lib.toRegistry = .ok reg ∧ reg.phaseNames = ["books", "shelves"] ∧
      ∃ whole reports, reg.validate (.ofElement shelf) allPhase = .ok whole ∧
        List.Forall₂ (fun name report => reg.validate (.ofElement shelf) name = .ok report)
          reg.phaseNames reports ∧
        whole.results.Perm (reports.flatMap (·.results)) ∧
          (whole.valid = true ↔ ∀ report ∈ reports, report.valid = true) := by
  have named : ((Library.ofText shelfLibrary).toOption.bind (·.toRegistry.toOption)).map
      (·.phaseNames) = some ["books", "shelves"] := by decide +kernel
  obtain ⟨reg, built, names⟩ := Option.map_eq_some_iff.mp named
  obtain ⟨lib, read, built⟩ := Option.bind_eq_some_iff.mp built
  rw [toOption_eq_some_iff] at read built
  exact ⟨lib, reg, read, built, names,
    (all_phase_is_partitioned (.ofText read built) (.ofElement shelf)).2.1⟩

end Registry

end MarkupRules
