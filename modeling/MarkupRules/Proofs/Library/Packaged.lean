import MarkupRules.Library.Packaged
import MarkupRules.Proofs.Library.Compilation

/-!
# The packaged library is accepted

The packaged draft is in order and compiles, so there is a registry, and each of its phases runs
what the draft of the phase compiles to.

* `Packaged.inOrder_draft` -- the names and messages of the draft;
* `Packaged.exists_registry` -- **the packaged rules are a registry**.
-/

namespace MarkupRules

namespace Packaged

/-! ## 1. The draft -/

theorem inOrder_draft : draft.InOrder where
  ids := by decide +kernel
  names := by decide +kernel
  rules := by decide +kernel
  phases := by decide +kernel

/-- Every path of the draft compiles. -/
theorem compiles_draft : ∀ p ∈ draft.phases, ∃ rules, p.compile draft.defaults = .ok rules := by
  have some : ∀ p ∈ draft.phases, (p.compile draft.defaults).toOption.isSome = true := by
    decide +kernel
  intro p hp
  obtain ⟨rules, compiled⟩ := Option.isSome_iff_exists.mp (some p hp)
  exact ⟨rules, toOption_eq_some_iff.mp compiled⟩

/-! ## 2. The registry -/

/-- **The packaged rules are a registry**, in which each phase runs what its draft compiles to. -/
theorem exists_registry : ∃ reg, registry = .ok reg ∧ ∀ p ∈ draft.phases, ∀ rules,
    p.compile draft.defaults = .ok rules → reg.resolve p.name = .ok rules := by
  obtain ⟨lib, reg, compiled, built⟩ := inOrder_draft.exists_registry compiles_draft
  refine ⟨reg, ?_, fun p hp rules => draft.resolve_of_compile compiled built hp⟩
  rw [registry, library, compiled]
  exact built

end Packaged

end MarkupRules
