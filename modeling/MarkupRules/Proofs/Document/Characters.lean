import MarkupRules.Proofs.Document.Location

/-!
# Characters that a document does not hold

What can be asked about an item is written with the characters of the document and a few signs of
its own: the space between two words, and the signs of a location.

* `Text.mem_normalizeSpace`, `Document.mem_stringValue`, `Document.mem_location` -- where the
  characters of these texts are from;
* `Document.Lacks` -- the documents without a given character in any of their strings;
* `Item.not_mem_stringValue`, `Item.not_mem_location` -- **what is told about an item lacks it** as
  well.
-/

namespace MarkupRules

variable {c : Char} {doc : Document} {id : NodeId} {i : Item}

/-! ## 1. Where characters are from -/

namespace Text

theorem mem_intercalate {sep : List Char} : ∀ {parts : List (List Char)},
    c ∈ sep.intercalate parts → c ∈ sep ∨ ∃ part ∈ parts, c ∈ part
  | [], h => by cases h
  | [part], h => .inr ⟨part, List.mem_cons_self, by simpa using h⟩
  | part :: next :: parts, h => by
    rw [List.intercalate_cons_cons, List.mem_append, List.mem_append] at h
    rcases h with (own | between) | later
    · exact .inr ⟨part, List.mem_cons_self, own⟩
    · exact .inl between
    · refine (mem_intercalate later).imp_right fun ⟨other, known, met⟩ => ?_
      exact ⟨other, List.mem_cons_of_mem part known, met⟩

theorem mem_wordsFrom {w : List Char} : ∀ {word cs : List Char}, w ∈ wordsFrom word cs → c ∈ w →
    c ∈ word ∨ c ∈ cs
  | word, [], hw, hc => by
    unfold wordsFrom at hw
    split at hw
    · cases hw
    · exact .inl (List.mem_reverse.mp (List.mem_singleton.mp hw ▸ hc))
  | word, d :: cs, hw, hc => by
    unfold wordsFrom at hw
    split at hw
    · split at hw
      · exact .inr (List.mem_cons_of_mem d ((mem_wordsFrom hw hc).resolve_left List.not_mem_nil))
      · rcases List.mem_cons.mp hw with rfl | later
        · exact .inl (List.mem_reverse.mp hc)
        · exact .inr (List.mem_cons_of_mem d
            ((mem_wordsFrom later hc).resolve_left List.not_mem_nil))
    · rcases mem_wordsFrom hw hc with opened | behind
      · refine (List.mem_cons.mp opened).symm.imp_right fun same => ?_
        exact List.mem_cons.mpr (.inl same)
      · exact .inr (List.mem_cons_of_mem d behind)

/-- The characters of a text in normal form are its own, and the space. -/
theorem mem_normalizeSpace {s : String} (h : c ∈ (normalizeSpace s).toList) :
    c = ' ' ∨ c ∈ s.toList := by
  rw [normalizeSpace, String.toList_ofList] at h
  rcases mem_intercalate h with space | ⟨word, known, met⟩
  · exact .inl (List.mem_singleton.mp space)
  · exact .inr ((mem_wordsFrom known met).resolve_left List.not_mem_nil)

end Text

namespace Document

/-- The characters of a string value are those of texts. -/
theorem mem_stringValue (h : c ∈ (doc.stringValue id).toList) :
    ∃ x, ∃ t ∈ doc.text? x, c ∈ t.toList := by
  unfold stringValue at h
  split at h
  · rename_i t own
    exact ⟨id, t, own, h⟩
  · rw [String.toList_join] at h
    obtain ⟨t, below, met⟩ := List.mem_flatMap.mp h
    obtain ⟨x, _, text⟩ := List.mem_filterMap.mp below
    exact ⟨x, t, text, met⟩

/-- The signs that a location is written with, digits apart. -/
def locationSigns : List Char :=
  ['/', '[', ']', '@', 't', 'e', 'x', '(', ')']

/-- The characters of a mark are those of the name, digits and signs. -/
theorem mem_text_mark {m : Mark} (h : c ∈ m.text.toList) :
    (∃ n ∈ m.name?, c ∈ n.toList) ∨ c.isDigit = true ∨ c ∈ locationSigns := by
  obtain ⟨named, rank⟩ := m
  simp only [Mark.text, String.toList_append, List.mem_append] at h
  rcases h with ((told | opens) | digit) | closes
  · cases named with
    | some n => exact .inl ⟨n, rfl, told⟩
    | none =>
      have told : c ∈ "text()".toList := told
      exact .inr (.inr (by simp_all [locationSigns]; tauto))
  · exact .inr (.inr (by simp_all [locationSigns]))
  · rw [Nat.toString_eq_repr, Nat.toList_repr] at digit
    exact .inr (.inl (Nat.isDigit_of_mem_toDigits (by decide) (by decide) digit))
  · exact .inr (.inr (by simp_all [locationSigns]))

/-- The name that a mark says is that of the node. -/
theorem mem_name?_of_mark? {m : Mark} {n : String} (h : doc.mark? id = some m) (hn : n ∈ m.name?) :
    n ∈ doc.name? id := by
  unfold mark? at h
  rw [name?]
  cases kind : doc.kind? id with
  | none =>
    rw [kind] at h
    cases h
  | some k =>
    rw [kind] at h
    cases k with
    | root => cases h
    | element name _ =>
      obtain rfl := Option.some.inj h
      exact hn
    | text _ =>
      obtain rfl := Option.some.inj h
      cases hn

/-- The characters of a location are those of names, digits and signs. -/
theorem mem_location (h : c ∈ (doc.location id).toList) :
    (∃ x, ∃ n ∈ doc.name? x, c ∈ n.toList) ∨ c.isDigit = true ∨ c ∈ locationSigns := by
  have slash : c = '/' → c ∈ locationSigns := fun same => same ▸ List.mem_cons_self
  unfold location at h
  split at h
  · exact .inr (.inr (slash (by simpa using h)))
  · rw [String.toList_append, String.toList_intercalate] at h
    rcases List.mem_append.mp h with first | h
    · exact .inr (.inr (slash (by simpa using first)))
    rcases Text.mem_intercalate h with between | ⟨step, known, met⟩
    · exact .inr (.inr (slash (by simpa using between)))
    · rw [locationSteps_eq, List.map_map] at known
      obtain ⟨m, marked, rfl⟩ := List.mem_map.mp known
      obtain ⟨x, _, hx⟩ := List.mem_filterMap.mp (List.mem_reverse.mp marked)
      exact (mem_text_mark met).imp_left fun ⟨n, named, met⟩ =>
        ⟨x, n, mem_name?_of_mark? hx named, met⟩

/-! ## 2. Documents without a character -/

/-- No string of the document holds the character. -/
def Lacks (doc : Document) (c : Char) : Prop :=
  ∀ id < doc.size, (∀ n ∈ doc.name? id, c ∉ n.toList) ∧ (∀ t ∈ doc.text? id, c ∉ t.toList) ∧
    ∀ a ∈ doc.attributes id, c ∉ a.1.toList ∧ c ∉ a.2.toList

instance : Decidable (doc.Lacks c) :=
  inferInstanceAs (Decidable (∀ id < doc.size, (∀ n ∈ doc.name? id, c ∉ n.toList) ∧
    (∀ t ∈ doc.text? id, c ∉ t.toList) ∧ ∀ a ∈ doc.attributes id, c ∉ a.1.toList ∧ c ∉ a.2.toList))

namespace Lacks

theorem name? (h : doc.Lacks c) {n : String} (hn : n ∈ doc.name? id) : c ∉ n.toList := by
  refine (h id (Decidable.byContradiction fun none => ?_)).1 n hn
  rw [Document.name?, kind?, node?_eq_none none] at hn
  cases hn

theorem text? (h : doc.Lacks c) {t : String} (ht : t ∈ doc.text? id) : c ∉ t.toList := by
  refine (h id (Decidable.byContradiction fun none => ?_)).2.1 t ht
  rw [Document.text?, kind?, node?_eq_none none] at ht
  cases ht

theorem attributes (h : doc.Lacks c) {a : String × String} (ha : a ∈ doc.attributes id) :
    c ∉ a.1.toList ∧ c ∉ a.2.toList :=
  (h id (lt_size_of_mem_attributes ha)).2.2 a ha

end Lacks

/-- A value of an attribute is that of an entry. -/
theorem mem_attributes_of_attribute? {n v : String} (h : v ∈ doc.attribute? id n) :
    (n, v) ∈ doc.attributes id := by
  unfold attribute? at h
  unfold attributes
  split at h
  · rename_i kind
    obtain ⟨before, behind, split, _⟩ := List.lookup_eq_some_iff.mp h
    simp only [split]
    exact List.mem_append_right _ List.mem_cons_self
  · cases h

end Document

/-! ## 3. What is told about an item -/

namespace Item

/-- The name of an attribute that a document has is one of its strings. -/
theorem not_mem_name {n : String} (h : doc.Lacks c) (hi : Item.Exists doc (.attribute id n)) :
    c ∉ n.toList := by
  obtain ⟨a, ha, rfl⟩ := List.mem_map.mp hi
  exact (h.attributes ha).1

theorem not_mem_stringValue (h : doc.Lacks c) : c ∉ (i.stringValue doc).toList := by
  intro met
  rcases i with id | ⟨owner, n⟩
  · obtain ⟨x, t, text, met⟩ := Document.mem_stringValue met
    exact h.text? text met
  · cases found : doc.attribute? owner n with
    | none =>
      rw [stringValue, found] at met
      cases met
    | some v =>
      rw [stringValue, found] at met
      exact (h.attributes (Document.mem_attributes_of_attribute? found)).2 met

/-- **A character that is no digit and no sign of a location** does not come into one. -/
theorem not_mem_location (h : doc.Lacks c) (hi : i.Exists doc) (digit : c.isDigit = false)
    (sign : c ∉ Document.locationSigns) : c ∉ (i.location doc).toList := by
  have way : ∀ id, c ∉ (doc.location id).toList := by
    intro id met
    rcases Document.mem_location met with ⟨x, n, named, met⟩ | isDigit | isSign
    · exact h.name? named met
    · exact absurd isDigit (by rw [digit]; decide)
    · exact sign isSign
  have lead : c ∉ "/@".toList := by
    intro met
    refine sign ?_
    simp_all [Document.locationSigns]
  rcases i with id | ⟨owner, n⟩
  · exact way id
  · have name : c ∉ n.toList := not_mem_name h hi
    show c ∉ (if doc.location owner == "/" then "/@" ++ n
      else doc.location owner ++ "/@" ++ n).toList
    split
    all_goals simp only [String.toList_append, List.mem_append, lead, name, way, or_false,
      not_false_eq_true]

end Item

end MarkupRules
