import Mathlib.Data.List.Forall2

/-!
# Computations that can fail

A computation gives a value if each of its parts does.

* `bind_eq_ok`, `map_eq_ok` -- two computations in a row, and one whose value is changed;
* `mapM_eq_ok_iff` -- the same computation on each member of a list;
* `mapM_eq_error_iff` -- **a list fails as the first of its members does that fails**;
* `exists_of_forall₂`, `exists_forall₂` -- two lists whose members are related in turn.
-/

namespace MarkupRules

/-- Two computations in a row give what the last one gives. -/
theorem bind_eq_ok {ε α β : Type} {a : Except ε α} {f : α → Except ε β} {b : β} :
    a.bind f = .ok b ↔ ∃ v, a = .ok v ∧ f v = .ok b := by
  cases a <;> simp [Except.bind]

theorem map_eq_ok {ε α β : Type} {a : Except ε α} {f : α → β} {b : β} :
    a.map f = .ok b ↔ ∃ v, a = .ok v ∧ f v = b := by
  cases a <;> simp [Except.map]

/-- Two computations in a row fail as the first one does, or as the second one. -/
theorem bind_eq_error {ε α β : Type} {a : Except ε α} {f : α → Except ε β} {e : ε} :
    a.bind f = .error e ↔ a = .error e ∨ ∃ v, a = .ok v ∧ f v = .error e := by
  cases a <;> simp [Except.bind]

theorem map_eq_error {ε α β : Type} {a : Except ε α} {f : α → β} {e : ε} :
    a.map f = .error e ↔ a = .error e := by
  cases a <;> simp [Except.map]

theorem mapError_eq_error {ε ε' α : Type} {a : Except ε α} {f : ε → ε'} {e : ε'} :
    a.mapError f = .error e ↔ ∃ e', a = .error e' ∧ f e' = e := by
  cases a <;> simp [Except.mapError]

theorem exists_map_eq_ok_iff {ε α β : Type} {a : Except ε α} {f : α → β} :
    (∃ b, a.map f = .ok b) ↔ ∃ v, a = .ok v := by
  cases a <;> simp [Except.map]

/-- What does not fail gives a value. -/
theorem exists_eq_ok_iff {ε α : Type} {a : Except ε α} :
    (∃ v, a = .ok v) ↔ ∀ e, a ≠ .error e := by
  cases a <;> simp

theorem toOption_eq_some_iff {ε α : Type} {a : Except ε α} {v : α} :
    a.toOption = some v ↔ a = .ok v := by
  cases a <;> simp [Except.toOption]

/-- What a computation fails with, if it does. -/
def error? {ε α : Type} : Except ε α → Option ε
  | .error e => some e
  | .ok _ => none

theorem error?_eq_some_iff {ε α : Type} {a : Except ε α} {e : ε} :
    error? a = some e ↔ a = .error e := by
  cases a <;> simp [error?]

/-- Members are taken in turn, and each of them has to succeed. -/
theorem mapM_eq_ok_iff {ε α β : Type} {f : α → Except ε β} : ∀ {l : List α} {bs : List β},
    l.mapM f = .ok bs ↔ List.Forall₂ (fun a b => f a = .ok b) l bs
  | [], bs => by
    rw [List.mapM_nil, List.forall₂_nil_left_iff]
    show Except.ok [] = Except.ok bs ↔ bs = []
    rw [Except.ok.injEq, eq_comm]
  | a :: rest, bs => by
    rw [List.mapM_cons, List.forall₂_cons_left_iff]
    simp only [← mapM_eq_ok_iff (l := rest)]
    cases f a with
    | error e => exact ⟨fun h => (nomatch h), fun h => (nomatch h)⟩
    | ok b =>
      cases rest.mapM f with
      | error e => exact ⟨fun h => (nomatch h), fun h => (nomatch h)⟩
      | ok more =>
        constructor
        · intro h
          cases h
          exact ⟨b, more, rfl, rfl, rfl⟩
        · intro h
          obtain ⟨_, _, first, others, rfl⟩ := h
          cases first
          cases others
          rfl

/-- A member of the one list is related to a member of the other one. -/
theorem exists_of_forall₂ {α β : Type} {R : α → β → Prop} {a : α} {l : List α} {bs : List β}
    (h : List.Forall₂ R l bs) (ha : a ∈ l) : ∃ b ∈ bs, R a b := by
  induction h with
  | nil => cases ha
  | cons first _ ih =>
    rcases List.mem_cons.mp ha with rfl | ha
    · exact ⟨_, List.mem_cons_self, first⟩
    · obtain ⟨b, hb, related⟩ := ih ha
      exact ⟨b, List.mem_cons_of_mem _ hb, related⟩

/-- A list is related to another one if each of its members is to something. -/
theorem exists_forall₂ {α β : Type} {R : α → β → Prop} : ∀ {l : List α},
    (∀ a ∈ l, ∃ b, R a b) → ∃ bs, List.Forall₂ R l bs
  | [], _ => ⟨[], .nil⟩
  | a :: rest, h => by
    obtain ⟨b, hb⟩ := h a List.mem_cons_self
    obtain ⟨bs, hbs⟩ := exists_forall₂ fun c hc => h c (List.mem_cons_of_mem a hc)
    exact ⟨b :: bs, .cons hb hbs⟩

/-- A list succeeds if each of its members does. -/
theorem exists_mapM_eq_ok_iff {ε α β : Type} {f : α → Except ε β} {l : List α} :
    (∃ bs, l.mapM f = .ok bs) ↔ ∀ a ∈ l, ∃ b, f a = .ok b := by
  simp only [mapM_eq_ok_iff]
  constructor
  · intro h a ha
    obtain ⟨bs, related⟩ := h
    obtain ⟨b, _, hb⟩ := exists_of_forall₂ related ha
    exact ⟨b, hb⟩
  · exact exists_forall₂

/-- **A list fails as its first member does that fails.** -/
theorem mapM_eq_error_iff {ε α β : Type} {f : α → Except ε β} {e : ε} : ∀ {l : List α},
    l.mapM f = .error e ↔ ∃ before a after, l = before ++ a :: after ∧
      (∀ x ∈ before, ∃ b, f x = .ok b) ∧ f a = .error e
  | [] => by
    constructor
    · intro h
      cases h
    · intro h
      obtain ⟨before, a, after, whole, _⟩ := h
      exact absurd whole.symm (List.append_ne_nil_of_right_ne_nil _ (List.cons_ne_nil _ _))
  | a :: rest => by
    have first : (a :: rest).mapM f = (f a).bind fun b => (rest.mapM f).map (b :: ·) := by
      rw [List.mapM_cons]
      cases f a <;> cases rest.mapM f <;> rfl
    rw [first, bind_eq_error]
    simp only [map_eq_error, mapM_eq_error_iff (l := rest)]
    constructor
    · intro h
      rcases h with failed | ⟨b, done, before, a', after, rfl, fine, failed⟩
      · exact ⟨[], a, rest, rfl, fun _ hx => absurd hx List.not_mem_nil, failed⟩
      · exact ⟨a :: before, a', after, rfl, List.forall_mem_cons.mpr ⟨⟨b, done⟩, fine⟩, failed⟩
    · intro h
      obtain ⟨before, a', after, whole, fine, failed⟩ := h
      cases before with
      | nil =>
        cases whole
        exact .inl failed
      | cons x before =>
        cases whole
        obtain ⟨⟨b, done⟩, fine⟩ := List.forall_mem_cons.mp fine
        exact .inr ⟨b, done, before, a', after, rfl, fine, failed⟩

end MarkupRules
