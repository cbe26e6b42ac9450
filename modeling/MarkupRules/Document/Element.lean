/-!
# Elements under construction

A document is built from one owned element. This file fixes what an element holds:

* `Attributes` -- values by name, names ascending and each one once;
* `Content` -- a text or an element with its children, the recursive shape of a tree;
* `Element` -- an element on its own, and the steps that fill it (`attr`, `child`, `text`).
-/

namespace MarkupRules

/-! ## 1. Attributes -/

/-- The entries with `name` set to `value`: an entry of that name gives way, and a new one stands
    before the first greater name. -/
def setEntry (name value : String) : List (String × String) → List (String × String)
  | [] => [(name, value)]
  | (n, v) :: rest =>
    if name < n then (name, value) :: (n, v) :: rest
    else if name = n then (name, value) :: rest
    else (n, v) :: setEntry name value rest

/-- Every name after setting is the new one or was there before. -/
theorem mem_setEntry {name value : String} {e : String × String} :
    ∀ {es : List (String × String)}, e ∈ setEntry name value es → e.1 = name ∨ e ∈ es
  | [], h => by
    simp only [setEntry, List.mem_singleton] at h
    exact .inl (by rw [h])
  | (n, v) :: rest, h => by
    unfold setEntry at h
    split at h
    · rcases List.mem_cons.mp h with rfl | h
      · exact .inl rfl
      · exact .inr h
    · split at h
      · rcases List.mem_cons.mp h with rfl | h
        · exact .inl rfl
        · exact .inr (List.mem_cons_of_mem _ h)
      · rcases List.mem_cons.mp h with rfl | h
        · exact .inr List.mem_cons_self
        · exact (mem_setEntry h).imp_right (List.mem_cons_of_mem _)

/-- **Setting an entry keeps the names ascending.** -/
theorem setEntry_ascending {name value : String} :
    ∀ {es : List (String × String)}, es.Pairwise (fun a b => a.1 < b.1) →
      (setEntry name value es).Pairwise (fun a b => a.1 < b.1)
  | [], _ => by simp [setEntry]
  | (n, v) :: rest, h => by
    obtain ⟨hn, hrest⟩ := List.pairwise_cons.mp h
    unfold setEntry
    split
    · rename_i hlt
      refine List.pairwise_cons.mpr ⟨fun e he => ?_, h⟩
      rcases List.mem_cons.mp he with rfl | he
      · exact hlt
      · exact String.lt_trans hlt (hn e he)
    · split
      · rename_i heq
        subst heq
        exact List.pairwise_cons.mpr ⟨hn, hrest⟩
      · rename_i hnlt hne
        -- neither below nor equal: the new name stands above `n`
        have hgt : n < name :=
          Decidable.byContradiction fun hng =>
            hne (String.le_antisymm (String.not_lt.mp hng) (String.not_lt.mp hnlt))
        refine List.pairwise_cons.mpr ⟨fun e he => ?_, setEntry_ascending hrest⟩
        rcases mem_setEntry he with he | he
        · rw [he]; exact hgt
        · exact hn e he

/-- The attributes of an element: a value for each name, in ascending order of the names. -/
structure Attributes where
  entries : List (String × String) := []
  ascending : entries.Pairwise (fun a b => a.1 < b.1) := by exact List.Pairwise.nil

/-- No attributes at all. -/
def Attributes.none : Attributes where
  entries := []

/-- The attributes with `name` set to `value`. -/
def Attributes.insert (as : Attributes) (name value : String) : Attributes where
  entries := setEntry name value as.entries
  ascending := setEntry_ascending as.ascending

/-- The value of an attribute. -/
def Attributes.get? (as : Attributes) (name : String) : Option String :=
  as.entries.lookup name

/-- The number of attributes. -/
def Attributes.size (as : Attributes) : Nat :=
  as.entries.length

/-! ## 2. Content -/

/-- What may stand below an element: a text, or an element with content of its own. -/
inductive Content where
  | text (value : String)
  | element (name : String) (attributes : Attributes) (children : List Content)

mutual
/-- The number of nodes that a piece of content becomes. -/
def Content.size : Content → Nat
  | .text _ => 1
  | .element _ _ children => 1 + sizeOfAll children

/-- The number of nodes that several pieces of content become. -/
def sizeOfAll : List Content → Nat
  | [] => 0
  | c :: rest => c.size + sizeOfAll rest
end

theorem Content.size_pos (c : Content) : 0 < c.size := by
  cases c <;> simp only [Content.size] <;> omega

/-! ## 3. Elements -/

/-- An element that a document can be built from. -/
structure Element where
  name : String
  attributes : Attributes := .none
  children : List Content := []

/-- The element as a piece of content. -/
def Element.toContent (e : Element) : Content :=
  .element e.name e.attributes e.children

/-- The element with an attribute set; a value set before gives way. -/
def Element.attr (e : Element) (name value : String) : Element :=
  { e with attributes := e.attributes.insert name value }

/-- The element with one more piece of content at its end. -/
def Element.push (e : Element) (c : Content) : Element :=
  { e with children := e.children ++ [c] }

/-- The element with one more child element at its end. -/
def Element.child (e c : Element) : Element :=
  e.push c.toContent

/-- The element with one more text at its end. Two texts in a row stay two. -/
def Element.text (e : Element) (value : String) : Element :=
  e.push (.text value)

end MarkupRules
