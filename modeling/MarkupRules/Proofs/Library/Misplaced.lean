import MarkupRules.Proofs.Fallible
import MarkupRules.Proofs.Library.Kinds

/-!
# Texts in the wrong place

A text where something else is expected is blamed in a message that quotes it, and any other text
in its place is blamed in the same words. The readers of values are put together from smaller ones,
and this is kept by each way of doing so.

* `Value.at?`, `Value.put` -- the value at a place, and another one put there;
* `Judges` -- **whatever a reader blames is settled, or it is a text that may be any other one**;
* `Judges.part` -- a value that fails as one of its parts does, taken for `judges_sequence`,
  `Judges.orNull` and `Judges.single`: items, nothing, and what one name holds;
* `Fields.Judges` -- the same for the fields of a record, with the names of those that are read, and
  `Fields.judges_ap` -- **fields are read side by side**, of several faults the first;
* `RecordForm.judges_read` -- records, their fields named or in order.
-/

namespace MarkupRules

variable {α β γ : Type}

/-! ## 1. Places -/

/-- The value at a place: which item or entry, inside of it which one, and so on. -/
def Value.at? : Value → List Nat → Option Value
  | v, [] => some v
  | .sequence items, k :: path => items[k]?.bind (·.at? path)
  | .mapping entries, k :: path => entries[k]?.bind (·.2.at? path)
  | _, _ :: _ => none

/-- The value with another one at the place. -/
def Value.put : Value → List Nat → Value → Value
  | _, [], new => new
  | .sequence items, k :: path, new => .sequence (items.modify k (·.put path new))
  | .mapping entries, k :: path, new =>
    .mapping (entries.modify k fun (name, v) => (name, v.put path new))
  | v, _ :: _, _ => v

/-- A text is not put in the place of nothing. -/
theorem Value.put_ne_null {v : Value} {path : List Nat} {s t : String}
    (h : v.at? path = some (.text s)) : v.put path (.text t) ≠ .null := by
  cases path with
  | nil =>
    rw [put]
    exact nofun
  | cons k path =>
    cases v with
    | sequence items | mapping entries =>
      rw [put]
      exact nofun
    | _ => cases h

/-! ## 2. Readers -/

/-- A text stands where something else is expected, and any other one there is blamed in the same
    words. -/
def Misplaces (read : Value → Except Problem α) (v : Value) (p : Problem) : Prop :=
  ∃ path s expected, v.at? path = some (.text s) ∧ Expectation expected ∧
    p = .wrongType (Value.text s).found expected ∧
    ∀ t, read (v.put path (.text t)) = .error (.wrongType (Value.text t).found expected)

/-- Whatever is wrong with the value is settled, or it is a text in the wrong place. -/
def Judges (read : Value → Except Problem α) (v : Value) : Prop :=
  ∀ p, read v = .error p → p.Settled ∨ Misplaces read v p

variable {read : Value → Except Problem α} {v : Value} {expected : String}

theorem judges_of_ok {a : α} (h : read v = .ok a) : Judges read v := by
  intro p failed
  rw [h] at failed
  cases failed

theorem judges_of_settled {p : Problem} (h : read v = .error p) (settled : p.Settled) :
    Judges read v := by
  intro q failed
  rw [h] at failed
  cases failed
  exact .inl settled

/-- A value of a wrong type, where texts are of a wrong type too. -/
theorem judges_wrongType (plain : Expectation expected)
    (own : read v = .error (.wrongType v.found expected))
    (texts : ∀ t, read (.text t) = .error (.wrongType (Value.text t).found expected)) :
    Judges read v := by
  by_cases other : ∀ s, v ≠ .text s
  · exact judges_of_settled own (Problem.settled_wrongType plain other)
  · push Not at other
    obtain ⟨s, rfl⟩ := other
    intro p failed
    rw [own] at failed
    cases failed
    exact .inr ⟨[], s, expected, rfl, plain, rfl, texts⟩

theorem judges_asText : ∀ v, Judges Value.asText v
  | .text s => judges_of_ok rfl
  | .null | .boolean _ | .integer _ | .fraction _ | .sequence _ | .mapping _ =>
    judges_of_settled rfl (Problem.settled_wrongType (by decide) nofun)

theorem judges_asFlag : ∀ v, Judges Value.asFlag v
  | .boolean b => judges_of_ok rfl
  | .null | .text _ | .integer _ | .fraction _ | .sequence _ | .mapping _ =>
    judges_wrongType (by decide) rfl fun _ => rfl

theorem judges_asCount : ∀ v, Judges Value.asCount v
  | .integer n => by
    intro p failed
    rw [Value.asCount] at failed
    split at failed
    · cases failed
    · cases failed
      exact .inl (Problem.settled_wrongValue (by decide) nofun)
  | .null | .text _ | .boolean _ | .fraction _ | .sequence _ | .mapping _ =>
    judges_wrongType (by decide) rfl fun _ => rfl

/-- **A value is judged by the part of it that fails**, if it fails as the part does. -/
theorem Judges.part {inner : Value → Except Problem β} {part : Value} {p : Problem}
    (h : Judges inner part) (failed : inner part = .error p) (front : List Nat)
    (there : ∀ path w, part.at? path = some w → v.at? (front ++ path) = some w)
    (again : ∀ path s t e, part.at? path = some (.text s) →
      inner (part.put path (.text t)) = .error e →
        read (v.put (front ++ path) (.text t)) = .error e) :
    p.Settled ∨ Misplaces read v p := by
  rcases h p failed with settled | ⟨path, s, expected, place, plain, own, others⟩
  · exact .inl settled
  · exact .inr ⟨front ++ path, s, expected, there path _ place, plain, own,
      fun t => again path s t _ place (others t)⟩

theorem Judges.map (f : α → β) (h : Judges read v) : Judges (fun v => (read v).map f) v :=
  fun _ failed => h.part (map_eq_error.mp failed) [] (fun _ _ => id)
    fun _ _ _ _ _ => map_eq_error.mpr

theorem Judges.orNull (h : Judges read v) : Judges (Value.orNull read) v := by
  have present : ∀ w : Value, w ≠ .null → Value.orNull read w = (read w).map some := by
    intro w other
    cases w with
    | null => exact absurd rfl other
    | _ => rfl
  by_cases null : v = .null
  · rw [null]
    exact judges_of_ok rfl
  · intro p failed
    rw [present v null] at failed
    refine h.part (map_eq_error.mp failed) [] (fun _ _ => id) fun path s t e place other => ?_
    rw [List.nil_append, present _ (Value.put_ne_null place)]
    exact map_eq_error.mpr other

/-- **The items of a sequence are read in turn**, so the first one that fails is blamed again. -/
theorem judges_sequence {items : List Value} (each : ∀ v ∈ items, Judges read v) :
    Judges (Value.asSequence read) (.sequence items) := by
  intro p failed
  obtain ⟨before, v, after, rfl, fine, blamed⟩ := mapM_eq_error_iff.mp failed
  refine (each v (by simp)).part blamed [before.length] (fun path w place => ?_)
    fun path s t e _ other => ?_
  · rw [List.singleton_append, Value.at?, List.getElem?_append_right (Nat.le_refl _), Nat.sub_self]
    exact place
  · rw [List.singleton_append, Value.put, modify_append_cons rfl]
    exact mapM_eq_error_iff.mpr ⟨before, _, after, rfl, fine, other⟩

theorem judges_asSequence (each : ∀ v, Judges read v) : ∀ v, Judges (Value.asSequence read) v
  | .sequence items => judges_sequence fun v _ => each v
  | .null | .text _ | .boolean _ | .fraction _ | .integer _ | .mapping _ =>
    judges_wrongType (by decide) rfl fun _ => rfl

/-- A mapping of one name, read as what the name holds. -/
theorem Judges.single {inner : Value → Except Problem β} {read : Value → Except Problem β}
    {name : String} {content : Value} (same : ∀ w, read (.mapping [(name, w)]) = inner w)
    (h : Judges inner content) : Judges read (.mapping [(name, content)]) := by
  intro p failed
  rw [same] at failed
  exact h.part failed [0] (fun _ _ => id) fun _ _ _ _ _ other => (same _).trans other

/-- The reader of what a word of a vocabulary holds. -/
def Value.asNothing (a : α) : Value → Except Problem α
  | .null => .ok a
  | v => .error (.wrongType v.found "unit")

theorem judges_asNothing (a : α) : ∀ v, Judges (Value.asNothing a) v
  | .null => judges_of_ok rfl
  | .text _ | .boolean _ | .fraction _ | .integer _ | .sequence _ | .mapping _ =>
    judges_wrongType (by decide) rfl fun _ => rfl

/-- A word of a vocabulary, and nothing else beside it. -/
theorem judges_asSpelled (spellings : List (String × α)) :
    ∀ v, Judges (Value.asSpelled spellings) v
  | .text name => by
    cases known : spellings.lookup name with
    | none =>
      have own : Value.asSpelled spellings (.text name) =
          .error (.unknownVariant name (spellings.map (·.1))) := by
        simp only [Value.asSpelled, Value.variant, known]
      exact judges_of_settled own (Problem.settled_unknownVariant _ _)
    | some a =>
      have own : Value.asSpelled spellings (.text name) = .ok a := by
        simp only [Value.asSpelled, Value.variant, known]
      exact judges_of_ok own
  | .mapping [(name, content)] => by
    cases known : spellings.lookup name with
    | none =>
      have own : Value.asSpelled spellings (.mapping [(name, content)]) =
          .error (.unknownVariant name (spellings.map (·.1))) := by
        simp only [Value.asSpelled, Value.variant, known]
      exact judges_of_settled own (Problem.settled_unknownVariant _ _)
    | some a =>
      have same : ∀ w, Value.asSpelled spellings (.mapping [(name, w)]) = Value.asNothing a w := by
        intro w
        simp only [Value.asSpelled, Value.variant, known]
        cases w <;> rfl
      exact (judges_asNothing a content).single same
  | .mapping [] | .mapping (_ :: _ :: _) =>
    judges_of_settled rfl (Problem.settled_wrongValue (by decide) nofun)
  | .null | .boolean _ | .integer _ | .fraction _ | .sequence _ =>
    judges_of_settled rfl (Problem.settled_wrongType (by decide) nofun)

theorem judges_literal : ∀ v, Judges Literal.ofValue v
  | .integer n => by
    intro p failed
    rw [Literal.ofValue] at failed
    split at failed
    · cases failed
    · cases failed
      exact .inl Problem.settled_noAlternative
  | .text s => judges_of_ok rfl
  | .null | .boolean _ | .fraction _ | .sequence _ | .mapping _ =>
    judges_of_settled rfl Problem.settled_noAlternative

/-! ## 3. Fields -/

/-- Two readings side by side fail as the one that stands first in the text does. -/
theorem Reading.ap_eq_error_iff {g : Reading (β → γ)} {x : Reading β} {e : Fault} :
    (g <*> x).outcome = .error e ↔
      (g.outcome = .error e ∧ ∀ e', x.outcome = .error e' → ¬ e'.place < e.place) ∨
      (x.outcome = .error e ∧ ∀ e', g.outcome = .error e' → e.place < e'.place) := by
  obtain ⟨g⟩ := g
  obtain ⟨x⟩ := x
  show (Reading.ap ⟨g⟩ ⟨x⟩).outcome = .error e ↔ _
  cases g with
  | ok g => cases x <;> simp [Reading.ap]
  | error eg =>
    cases x with
    | ok x => simp [Reading.ap]
    | error ex =>
      simp only [Reading.ap, Except.error.injEq, forall_eq']
      split
      · rename_i first
        constructor
        · rintro rfl
          exact .inr ⟨rfl, first⟩
        · rintro (⟨rfl, last⟩ | ⟨rfl, _⟩)
          · exact absurd first last
          · rfl
      · rename_i last
        constructor
        · rintro rfl
          exact .inl ⟨rfl, last⟩
        · rintro (⟨rfl, _⟩ | ⟨rfl, first⟩)
          · rfl
          · exact absurd first last

namespace Fields

/-- The entries with the value at a place changed. -/
def modify (f : Fields α) (k : Nat) (change : α → α) : Fields α :=
  { f with entries := f.entries.modify k fun (name, v) => (name, change v) }

/-- An entry is found by its name, whatever its value is. -/
theorem find?_zipIdx_modify (wanted : String → Bool) (change : α → α) :
    ∀ (entries : List (String × α)) (n k : Nat),
      ((entries.modify k fun (name, v) => (name, change v)).zipIdx n).find?
          (fun e => wanted e.1.1) =
        ((entries.zipIdx n).find? fun e => wanted e.1.1).map fun e =>
          ((e.1.1, if e.2 = n + k then change e.1.2 else e.1.2), e.2)
  | [], n, k => by simp
  | (name, v) :: rest, n, 0 => by
    rw [List.modify_zero_cons, List.zipIdx_cons, List.zipIdx_cons, List.find?_cons, List.find?_cons]
    cases wanted name with
    | true => simp
    | false =>
      cases found : (rest.zipIdx (n + 1)).find? fun e => wanted e.1.1 with
      | none => simp
      | some e =>
        have behind := List.le_snd_of_mem_zipIdx (List.mem_of_find?_eq_some found)
        have later : e.2 ≠ n := by omega
        simp [later]
  | (name, v) :: rest, n, k + 1 => by
    rw [List.modify_succ_cons, List.zipIdx_cons, List.zipIdx_cons, List.find?_cons, List.find?_cons]
    cases wanted name with
    | true => simp
    | false =>
      have others := find?_zipIdx_modify wanted change rest (n + 1) k
      have place : n + 1 + k = n + (k + 1) := by omega
      rw [place] at others
      exact others

theorem get?_modify (f : Fields α) (k : Nat) (change : α → α) (name : String) :
    (f.modify k change).get? name =
      (f.get? name).map fun (v, place) => (if place = k then change v else v, place) := by
  rw [get?, get?, modify, find?_zipIdx_modify (· == name) change f.entries 0 k, Option.map_map,
    Option.map_map]
  congr 1
  funext e
  simp

/-- A field that is there is read from its entry. -/
theorem field_of_get? {f : Fields α} {name : String} {v : α} {k : Nat} {default? : Option β}
    {read : α → Except Problem β} (h : f.get? name = some (v, k)) :
    f.field name default? read = ⟨(read v).mapError (⟨k, ·⟩)⟩ := by
  unfold field
  rw [h]

/-- An entry that is found is at its place. -/
theorem getElem?_of_get? {f : Fields α} {name : String} {v : α} {k : Nat}
    (h : f.get? name = some (v, k)) : f.entries[k]? = some (name, v) := by
  obtain ⟨e, found, same⟩ := Option.map_eq_some_iff.mp h
  have named := List.find?_some found
  have among := List.mem_of_find?_eq_some found
  obtain ⟨⟨own, w⟩, place⟩ := e
  cases same
  rw [← beq_iff_eq.mp named]
  exact List.mk_mem_zipIdx_iff_getElem?.mp among

/-- Fields have places of their own. -/
theorem name_eq_of_get? {f : Fields α} {name name' : String} {v v' : α} {k : Nat}
    (h : f.get? name = some (v, k)) (h' : f.get? name' = some (v', k)) : name = name' := by
  have same := (getElem?_of_get? h).symm.trans (getElem?_of_get? h')
  cases same
  rfl

/-- A text in one of the fields is blamed, and any other one there in the same words. -/
def Misplaces (f : Fields Value) (names : List String) (parts : Fields Value → Reading β)
    (e : Fault) : Prop :=
  ∃ name ∈ names, ∃ v path s expected, f.get? name = some (v, e.place) ∧
    v.at? path = some (.text s) ∧ Expectation expected ∧
    e.problem = .wrongType (Value.text s).found expected ∧
    ∀ t, (parts (f.modify e.place (·.put path (.text t)))).outcome =
      .error ⟨e.place, .wrongType (Value.text t).found expected⟩

/-- The parts of a record are read from these fields only, and whatever is wrong with them is
    settled, or it is a text in the wrong place. -/
structure Judges (f : Fields Value) (names : List String) (parts : Fields Value → Reading β) :
    Prop where
  fault : ∀ e, (parts f).outcome = .error e → e.problem.Settled ∨ f.Misplaces names parts e
  frame : ∀ k change, (∀ name ∈ names, ∀ v, f.get? name ≠ some (v, k)) →
    parts (f.modify k change) = parts f

variable {f : Fields Value} {names names' : List String}

theorem judges_pure (b : β) : f.Judges [] fun _ => pure b where
  fault := nofun
  frame _ _ _ := rfl

theorem judges_field {name : String} {default? : Option β} {read : Value → Except Problem β}
    (missing : (f.missing name).Settled)
    (inside : ∀ v k, f.get? name = some (v, k) → MarkupRules.Judges read v) :
    f.Judges [name] fun f => f.field name default? read where
  fault e failed := by
    change (f.field name default? read).outcome = _ at failed
    cases found : f.get? name with
    | none =>
      unfold field at failed
      rw [found] at failed
      cases default? with
      | some b => cases failed
      | none =>
        cases failed
        exact .inl missing
    | some entry =>
      obtain ⟨v, place⟩ := entry
      rw [field_of_get? found] at failed
      obtain ⟨p, blamed, rfl⟩ := mapError_eq_error.mp failed
      rcases inside v place found p blamed with
        settled | ⟨path, s, expected, there, plain, rfl, others⟩
      · exact .inl settled
      · refine .inr ⟨name, List.mem_singleton_self _, v, path, s, expected, found, there, plain,
          rfl, fun t => ?_⟩
        have again : (f.modify place (·.put path (.text t))).get? name =
            some (v.put path (.text t), place) := by
          rw [get?_modify, found]
          simp
        change ((f.modify place _).field name default? read).outcome = _
        rw [field_of_get? again]
        exact mapError_eq_error.mpr ⟨_, others t, rfl⟩
  frame k change apart := by
    cases found : f.get? name with
    | none =>
      have length : (f.modify k change).entries.length = f.entries.length := List.length_modify ..
      unfold field
      rw [get?_modify, found, length]
      rfl
    | some entry =>
      obtain ⟨v, place⟩ := entry
      have other : place ≠ k := by
        rintro rfl
        exact apart name (List.mem_singleton_self _) v found
      have again : (f.modify k change).get? name = some (v, place) := by
        rw [get?_modify, found]
        simp [other]
      rw [field_of_get? found, field_of_get? again]

theorem judges_required {name : String} {read : Value → Except Problem β}
    (missing : (f.missing name).Settled) (each : ∀ v, MarkupRules.Judges read v) :
    f.Judges [name] fun f => f.required name read :=
  judges_field missing fun v _ _ => each v

theorem judges_withDefault {name : String} {default : β} {read : Value → Except Problem β}
    (missing : (f.missing name).Settled) (each : ∀ v, MarkupRules.Judges read v) :
    f.Judges [name] fun f => f.withDefault name default read :=
  judges_field missing fun v _ _ => each v

/-- **Fields side by side**: a text in the one is not read by the other. -/
theorem judges_ap {g : Fields Value → Reading (β → γ)} {x : Fields Value → Reading β}
    (hg : f.Judges names g) (hx : f.Judges names' x) (apart : ∀ name ∈ names, name ∉ names') :
    f.Judges (names ++ names') fun f => g f <*> x f where
  fault e failed := by
    rcases Reading.ap_eq_error_iff.mp failed with ⟨blamed, last⟩ | ⟨blamed, first⟩
    · rcases hg.fault e blamed with
        settled | ⟨name, among, v, path, s, expected, found, there, plain, own, others⟩
      · exact .inl settled
      · refine .inr ⟨name, List.mem_append_left _ among, v, path, s, expected, found, there, plain,
          own, fun t => Reading.ap_eq_error_iff.mpr (.inl ⟨others t, ?_⟩)⟩
        -- the other side reads no entry that has changed, so it fails as before, and behind
        rw [hx.frame]
        · exact last
        · intro name' among' w found'
          exact apart name among (name_eq_of_get? found found' ▸ among')
    · rcases hx.fault e blamed with
        settled | ⟨name, among, v, path, s, expected, found, there, plain, own, others⟩
      · exact .inl settled
      · refine .inr ⟨name, List.mem_append_right _ among, v, path, s, expected, found, there, plain,
          own, fun t => Reading.ap_eq_error_iff.mpr (.inr ⟨others t, ?_⟩)⟩
        rw [hg.frame]
        · exact first
        · intro name' among' w found'
          exact apart name' among' (name_eq_of_get? found' found ▸ among)
  frame k change other := by
    rw [hg.frame k change fun name among => other name (List.mem_append_left _ among),
      hx.frame k change fun name among => other name (List.mem_append_right _ among)]

theorem judges_map (h : β → γ) {x : Fields Value → Reading β} (hx : f.Judges names x) :
    f.Judges names fun f => h <$> x f :=
  judges_ap (judges_pure h) hx nofun

/-- A record fails as the first of its entries does that fails, or as its first stray entry. -/
theorem finish_eq_error_iff {r : Reading β} {p : Problem} {f : Fields α} : f.finish r = .error p ↔
    ∃ e, e.problem = p ∧
      ((r.outcome = .error e ∧ ∀ e', f.stray = some e' → ¬ e'.place < e.place) ∨
      (f.stray = some e ∧ ∀ e', r.outcome = .error e' → e.place < e'.place)) := by
  have kept : ∀ e, (Function.const Unit <$> r).outcome = .error e ↔ r.outcome = .error e := by
    intro e
    show ((pure (Function.const Unit) : Reading (β → Unit → β)) <*> r).outcome = .error e ↔ _
    rw [Reading.ap_eq_error_iff]
    constructor
    · rintro (⟨nothing, _⟩ | ⟨failed, _⟩)
      · cases nothing
      · exact failed
    · intro failed
      exact .inr ⟨failed, nofun⟩
  rw [finish, mapError_eq_error]
  refine exists_congr fun e => ?_
  rw [and_comm]
  refine and_congr_right fun _ => ?_
  show ((Function.const Unit <$> r) <*> _).outcome = .error e ↔ _
  rw [Reading.ap_eq_error_iff]
  simp only [kept]
  cases f.stray with
  | none =>
    have nothing : ∀ e, (pure () : Reading Unit).outcome ≠ .error e := fun _ => nofun
    simp [nothing]
  | some stray => simp

/-- **What is wrong with a record** is settled, or it is a text in the wrong place, in any value
    whose parts are the entries. -/
theorem Judges.finish {parts : Fields Value → Reading β} {read : Value → Except Problem β}
    {v : Value} (h : f.Judges names parts) (strays : ∀ e, f.stray = some e → e.problem.Settled)
    (own : read v = f.finish (parts f))
    (there : ∀ k name w path, f.entries[k]? = some (name, w) → v.at? (k :: path) = w.at? path)
    (again : ∀ k path new, read (v.put (k :: path) new) =
      (f.modify k (·.put path new)).finish (parts (f.modify k (·.put path new)))) :
    MarkupRules.Judges read v := by
  intro p failed
  rw [own] at failed
  obtain ⟨e, rfl, ⟨blamed, last⟩ | ⟨strayed, _⟩⟩ := finish_eq_error_iff.mp failed
  · rcases h.fault e blamed with
      settled | ⟨name, _, w, path, s, expected, found, place, plain, same, others⟩
    · exact .inl settled
    · refine .inr ⟨e.place :: path, s, expected, ?_, plain, same, fun t => ?_⟩
      · rw [there _ _ _ path (getElem?_of_get? found)]
        exact place
      · rw [again]
        exact finish_eq_error_iff.mpr ⟨_, rfl, .inl ⟨others t, last⟩⟩
  · exact .inl (strays e strayed)

/-- Which entries are strays is a matter of names. -/
theorem ofEntries_modify (known : List String) (entries : List (String × α)) (k : Nat)
    (change : α → α) :
    Fields.ofEntries known (entries.modify k fun (name, v) => (name, change v)) =
      (Fields.ofEntries known entries).modify k change := by
  have strays := find?_zipIdx_modify (!known.contains ·) change entries 0 k
  rw [Fields.ofEntries, strays, Option.map_map]
  rfl

theorem settled_of_stray {known : List String} {entries : List (String × α)} {e : Fault}
    (h : (Fields.ofEntries known entries).stray = some e) : e.problem.Settled := by
  obtain ⟨entry, _, rfl⟩ := Option.map_eq_some_iff.mp h
  exact Problem.settled_unknownField _ _

theorem judges_mapping {known : List String} {entries : List (String × Value)}
    {parts : Fields Value → Reading β} (h : (Fields.ofEntries known entries).Judges names parts) :
    MarkupRules.Judges (asFields known parts) (.mapping entries) := by
  refine h.finish (fun e => settled_of_stray) rfl (fun k name w path entry => ?_)
    fun k path new => ?_
  · have own : entries[k]? = some (name, w) := entry
    rw [Value.at?, own]
    rfl
  · rw [← ofEntries_modify]
    rfl

theorem judges_asFields {known : List String} {parts : Fields Value → Reading β}
    (h : ∀ entries, (Fields.ofEntries known entries).Judges names parts) :
    ∀ v, MarkupRules.Judges (asFields known parts) v
  | .mapping entries => judges_mapping (h entries)
  | .null | .text _ | .boolean _ | .fraction _ | .integer _ | .sequence _ =>
    judges_wrongType (by decide) rfl fun _ => rfl

/-- A field of entries that are read ahead is the field read. -/
theorem field_readAhead (known : List String) (entries : List (String × α))
    (read : α → Except Problem β) (name : String) (default? : Option β) :
    (ofEntries known (entries.map fun e => (e.1, read e.2))).field name default? id =
      (ofEntries known entries).field name default? read := by
  have same : (ofEntries known (entries.map fun e => (e.1, read e.2))).get? name =
      ((ofEntries known entries).get? name).map fun e => (read e.1, e.2) := by
    unfold get? ofEntries
    dsimp only
    rw [List.zipIdx_map, List.find?_map, Option.map_map, Option.map_map]
    rfl
  have length : (entries.map fun e => (e.1, read e.2)).length = entries.length :=
    List.length_map ..
  unfold field
  rw [same]
  cases (ofEntries known entries).get? name with
  | some entry => rfl
  | none => exact length ▸ rfl

theorem stray_readAhead (known : List String) (entries : List (String × α)) (read : α → β) :
    (ofEntries known (entries.map fun e => (e.1, read e.2))).stray =
      (ofEntries known entries).stray := by
  unfold ofEntries
  dsimp only
  rw [List.zipIdx_map, List.find?_map, Option.map_map]
  rfl

end Fields

/-! ## 4. Records -/

theorem zip_modify (change : β → β) : ∀ (as : List α) (bs : List β) (k : Nat),
    as.zip (bs.modify k change) = (as.zip bs).modify k fun (a, b) => (a, change b)
  | [], bs, k => by simp
  | a :: as, [], k => by simp
  | a :: as, b :: bs, 0 => by simp
  | a :: as, b :: bs, k + 1 => by simp [zip_modify change as bs k]

namespace RecordForm

variable {form : RecordForm}

theorem ofEntries_modify (entries : List (String × Value)) (k : Nat) (change : Value → Value) :
    form.ofEntries (entries.modify k fun (name, v) => (name, change v)) =
      (form.ofEntries entries).modify k change := by
  unfold ofEntries
  rw [Fields.ofEntries_modify]
  split <;> rfl

theorem ofItems_modify (items : List Value) (k : Nat) (change : Value → Value) :
    form.ofItems (items.modify k change) = (form.ofItems items).modify k change := by
  rw [ofItems, zip_modify, List.length_modify]
  rfl

/-- **What is wrong with a record** is settled, or it is a text in the wrong place, whether its
    fields are named or in order. -/
theorem judges_read {parts : Fields Value → Reading β} (names : List String)
    (plain : Expectation ("struct " ++ form.name))
    (counted : Expectation
      ("struct " ++ form.name ++ " with " ++ toString form.fields.length ++ " elements"))
    (h : ∀ f : Fields Value, (∀ name, (f.missing name).Settled) → f.Judges names parts) :
    ∀ v, Judges (form.read parts) v
  | .mapping entries => by
    have missing : ∀ name, ((form.ofEntries entries).missing name).Settled := by
      intro name
      unfold ofEntries
      split <;> exact Problem.settled_missingField name
    have strays : ∀ e, (form.ofEntries entries).stray = some e → e.problem.Settled := by
      intro e strayed
      unfold ofEntries at strayed
      split at strayed
      · exact Fields.settled_of_stray strayed
      · cases strayed
    refine (h _ missing).finish strays rfl (fun k name w path entry => ?_) fun k path new => ?_
    · have own : entries[k]? = some (name, w) := by
        unfold ofEntries at entry
        split at entry <;> exact entry
      rw [Value.at?, own]
      rfl
    · rw [← ofEntries_modify]
      rfl
  | .sequence items => by
    have missing : ∀ name, ((form.ofItems items).missing name).Settled :=
      fun name => Problem.settled_wrongLength counted _
    have strays : ∀ e, (form.ofItems items).stray = some e → e.problem.Settled := by
      intro e strayed
      simp only [ofItems] at strayed
      split at strayed
      · cases strayed
        exact Problem.settled_wrongLength (by decide) _
      · cases strayed
    refine (h _ missing).finish strays rfl (fun k name w path entry => ?_) fun k path new => ?_
    · have own : (form.fields.zip items)[k]? = some (name, w) := entry
      rw [Value.at?, (List.getElem?_zip_eq_some.mp own).2]
      rfl
    · rw [← ofItems_modify]
      rfl
  | .null | .text _ | .boolean _ | .fraction _ | .integer _ =>
    judges_wrongType plain rfl fun _ => rfl

end RecordForm

end MarkupRules
