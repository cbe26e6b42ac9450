import MarkupRules.Proofs.Guarded.Selection
import MarkupRules.Proofs.Registry.Truthfulness
import MarkupRules.Proofs.Rule.Rendering

/-!
# No document breaks a run

The run of a phase once more, with every look at the document and every access by index guarded.

* `Guarded.holds`, `Guarded.verdict` -- the truth of a predicate, the first numbers of a span
  being read by index;
* `Guarded.renderMessage`, `Guarded.judge`, `Guarded.validate` -- messages, results and reports;
* `Guarded.holds_eq`, `Guarded.validate_eq` -- **whatever the document holds, no access fails**;
* `Registry.validatePhases_eq_error_iff` -- several phases fail as the first unknown one does;
* `Registry.run_never_breaks` -- **only the name of a phase can be at fault**.
-/

namespace MarkupRules

namespace Guarded

variable {doc : Document} {s : Scope} {context : Item} {path : Path.Expr}

/-! ## 1. What paths select in a scope -/

/-- The items that a path selects and that count as present. -/
def presentItems (s : Scope) (context : Item) (path : Path.Expr) : Guarded (List Item) := do
  let items ← select s.doc path context
  if s.blankIsAbsent then keep (fun i => do return !(← itemIsBlank s.doc i)) items
  else return items

/-- The values of the items that count as present. -/
def values (s : Scope) (context : Item) (path : Path.Expr) : Guarded (List String) := do
  (← presentItems s context path).mapM (itemValue s.doc)

/-- The integers that the values declare, if there are values and each one is an integer. -/
def integers (s : Scope) (context : Item) (path : Path.Expr) : Guarded (Option (List Int)) := do
  let values ← values s context path
  return if values.isEmpty then none else values.mapM Text.parseInteger

/-- The entry of a list at the index 0. -/
def first : List Int → Guarded Int
  | [] => .error (.indexOutOfBounds 0)
  | n :: _ => return n

theorem lt_size_of_mem_select {j : Item} (h : context.nodeId < doc.size)
    (hj : j ∈ path.select doc context) : j.nodeId < doc.size :=
  lt_size_of_mem_selectUnion h hj

theorem presentItems_eq (h : context.nodeId < s.doc.size) :
    presentItems s context path = .ok (s.presentItems context path) := by
  rw [presentItems, select_eq h, ok_bind, Scope.presentItems, Scope.items]
  split
  · refine keep_eq fun i hi => ?_
    rw [itemIsBlank_eq (lt_size_of_mem_select h hi)]
    rfl
  · rfl

theorem values_eq (h : context.nodeId < s.doc.size) :
    values s context path = .ok (s.values context path) := by
  rw [values, presentItems_eq h, ok_bind, Scope.values]
  refine mapM_eq fun i hi => itemValue_eq ?_
  rw [Scope.presentItems] at hi
  split at hi
  · exact lt_size_of_mem_select h (List.mem_filter.mp hi).1
  · exact lt_size_of_mem_select h hi

/-- Integers that are declared are not none at all. -/
theorem integers_eq (h : context.nodeId < s.doc.size) : integers s context path =
    .ok ((s.integers context path).map fun numbers => numbers.1 :: numbers.2) := by
  rw [integers, values_eq h, ok_bind, Scope.integers]
  cases s.values context path with
  | nil => rfl
  | cons value rest =>
    show Except.ok ((value :: rest).mapM Text.parseInteger) = _
    rw [List.mapM_cons]
    cases Text.parseInteger value with
    | none => rfl
    | some n => cases rest.mapM Text.parseInteger <;> rfl

/-! ## 2. The truth of a predicate -/

mutual
/-- Whether the predicate holds of the context. Parts that do not decide are not looked at. -/
def holds (s : Scope) (context : Item) : Predicate → Guarded Bool
  | .present path => do return !(← presentItems s context path).isEmpty
  | .absent path => do return (← presentItems s context path).isEmpty
  | .not inner => do return !(← holds s context inner)
  | .all parts => allHold s context parts
  | .any parts => anyHolds s context parts
  | .xor left right => do
    let a ← holds s context left
    let b ← holds s context right
    return a != b
  | .count path condition => do return condition.holds (← select s.doc path context).length
  | .compare path value quantifier mode allowAbsent => do
    let values ← values s context path
    if values.isEmpty then return allowAbsent
    else match quantifier with
      | .any => return values.any fun v => value.accepts mode v
      | .all => return values.all fun v => value.accepts mode v
  | .exactlyOneOf path domain mode => do
    let values ← values s context path
    return (values.filter fun v => domain.any (mode.agree v)).length == 1
  | .countEquals declared counted => do
    match ← integers s context declared with
    | none => return false
    | some numbers =>
      let counted ← select s.doc counted context
      return numbers.all (· == (counted.length : Int))
  | .spanEquals declared firsts lasts => do
    match ← integers s context declared, ← integers s context firsts,
      ← integers s context lasts with
    | some numbers, some firsts, some lasts =>
      match spanLength (← first firsts) (← first lasts) with
      | none => return false
      | some expected => return numbers.all (· == expected)
    | _, _, _ => return false
  | .when condition consequence => do
    if ← holds s context condition then holds s context consequence else return true
termination_by structural p => p

/-- Whether all of the predicates hold. -/
def allHold (s : Scope) (context : Item) : List Predicate → Guarded Bool
  | [] => return true
  | p :: rest => do if ← holds s context p then allHold s context rest else return false

/-- Whether one of the predicates holds. -/
def anyHolds (s : Scope) (context : Item) : List Predicate → Guarded Bool
  | [] => return false
  | p :: rest => do if ← holds s context p then return true else anyHolds s context rest
end

/-- The verdict of a predicate on the context. -/
def verdict (s : Scope) (context : Item) : Predicate → Guarded Verdict
  | .when condition consequence => do
    if ← holds s context condition then return .ofBool (← holds s context consequence)
    else return .vacuous
  | p => do return .ofBool (← holds s context p)

-- by recursion on the predicate, one case for each of its forms
mutual
/-- **At an item of the document the truth of a predicate is found without a breach.** -/
theorem holds_eq (h : context.nodeId < s.doc.size) :
    ∀ p : Predicate, holds s context p = .ok (p.holds s context)
  | .present path => by
    rw [holds, presentItems_eq h, Predicate.holds]
    rfl
  | .absent path => by
    rw [holds, presentItems_eq h, Predicate.holds]
    rfl
  | .not inner => by
    rw [holds, holds_eq h inner, Predicate.holds]
    rfl
  | .all parts => by
    rw [holds, Predicate.holds]
    exact allHold_eq h parts
  | .any parts => by
    rw [holds, Predicate.holds]
    exact anyHolds_eq h parts
  | .xor left right => by
    rw [holds, holds_eq h left, ok_bind, holds_eq h right, Predicate.holds]
    rfl
  | .count path condition => by
    rw [holds, select_eq h, Predicate.holds]
    rfl
  | .compare path value quantifier mode allowAbsent => by
    rw [holds, values_eq h, ok_bind]
    cases quantifier <;>
    · rw [Predicate.holds]
      show (if _ then _ else _) = Except.ok (if _ then _ else _)
      split <;> rfl
  | .exactlyOneOf path domain mode => by
    rw [holds, values_eq h, Predicate.holds]
    rfl
  | .countEquals declared counted => by
    rw [holds, integers_eq h, ok_bind, Predicate.holds]
    cases s.integers context declared with
    | none => rfl
    | some numbers =>
      show select s.doc counted context >>= _ = _
      rw [select_eq h]
      rfl
  | .spanEquals declared firsts lasts => by
    rw [holds, integers_eq h, ok_bind, integers_eq h, ok_bind, integers_eq h, ok_bind,
      Predicate.holds]
    cases s.integers context declared with
    | none => rfl
    | some numbers =>
      cases s.integers context firsts with
      | none => rfl
      | some firsts =>
        cases s.integers context lasts with
        | none => rfl
        | some lasts =>
          show (match spanLength firsts.1 lasts.1 with
            | none => pure false
            | some expected => pure ((numbers.1 :: numbers.2).all (· == expected)) : Guarded Bool) =
              Except.ok (match spanLength firsts.1 lasts.1 with
                | none => false
                | some expected => (numbers.1 :: numbers.2).all (· == expected))
          cases spanLength firsts.1 lasts.1 <;> rfl
  | .when condition consequence => by
    rw [holds, holds_eq h condition, ok_bind, holds_eq h consequence, Predicate.holds]
    cases condition.holds s context <;> rfl

theorem allHold_eq (h : context.nodeId < s.doc.size) :
    ∀ parts : List Predicate, allHold s context parts = .ok (MarkupRules.allHold s context parts)
  | [] => by
    rw [allHold, MarkupRules.allHold]
    rfl
  | p :: rest => by
    rw [allHold, holds_eq h p, ok_bind, allHold_eq h rest, MarkupRules.allHold]
    cases p.holds s context <;> rfl

theorem anyHolds_eq (h : context.nodeId < s.doc.size) :
    ∀ parts : List Predicate, anyHolds s context parts = .ok (MarkupRules.anyHolds s context parts)
  | [] => by
    rw [anyHolds, MarkupRules.anyHolds]
    rfl
  | p :: rest => by
    rw [anyHolds, holds_eq h p, ok_bind, anyHolds_eq h rest, MarkupRules.anyHolds]
    cases p.holds s context <;> rfl
end

theorem verdict_eq (h : context.nodeId < s.doc.size) (p : Predicate) :
    verdict s context p = .ok (p.verdict s context) := by
  cases p with
  | when condition consequence =>
    rw [verdict, holds_eq h condition, ok_bind, holds_eq h consequence, Predicate.verdict]
    cases condition.holds s context <;> rfl
  | _ =>
    show holds s context _ >>= _ = _
    rw [holds_eq h]
    rfl

/-! ## 3. Messages -/

/-- What a reference stands for at an item. -/
def referenceValue (doc : Document) (ruleId : String) (context : Item) :
    Reference → Guarded (Except TemplateProblem String)
  | .name =>
    match context with
    | .attribute _ own => return .ok own
    | .node id => do return .ok ((← name? doc id).getD "")
  | .path => do return .ok (← itemLocation doc context)
  | .text => do return .ok (Text.normalizeSpace (← itemValue doc context))
  | .rule => return .ok ruleId
  | .attribute wanted => do
    match ← attribute? doc context.nodeId wanted with
    | some value => return .ok value
    | none => return .error (.missingAttribute wanted)

/-- The text with every reference in it replaced, from the left. -/
def replaceReferences (value : Reference → Guarded (Except TemplateProblem String))
    (cs : List Char) : Guarded (Except TemplateProblem (List Char)) :=
  match hopen : Text.cut? openBraces cs with
  | none => return .ok cs
  | some (before, opened) =>
    match hclose : Text.cut? closeBraces opened with
    | none => return .error .unclosed
    | some (inner, after) => do
      have : before.length + 2 + opened.length = cs.length := length_of_cut? hopen
      have : inner.length + 2 + after.length = opened.length := length_of_cut? hclose
      let reference := String.ofList (Text.trim inner)
      match Reference.ofText? reference with
      | none => return .error (.unknownReference reference)
      | some r =>
        match ← value r with
        | .error problem => return .error problem
        | .ok replacement =>
          let more ← replaceReferences value after
          return more.map fun more => before ++ replacement.toList ++ more
termination_by cs.length

/-- The message that a template gives for an item, whose node is demanded first. -/
def renderMessage (template ruleId : String) (doc : Document) (context : Item) :
    Guarded (Except TemplateProblem String) := do
  let _ ← demand doc context.nodeId
  let marked := Text.replaceAll escapedBraces escapeMark template.toList
  let rendered ← replaceReferences (referenceValue doc ruleId context) marked
  return rendered.map fun text => String.ofList (Text.replaceAll escapeMark openBraces text)

theorem referenceValue_eq {ruleId : String} (h : context.nodeId < doc.size) (r : Reference) :
    referenceValue doc ruleId context r = .ok (r.value doc ruleId context) := by
  match r with
  | .name =>
    rcases context with id | ⟨owner, own⟩
    · change id < doc.size at h
      rw [referenceValue, name?_eq h]
      rfl
    · rfl
  | .path =>
    rw [referenceValue, itemLocation_eq h]
    rfl
  | .text =>
    rw [referenceValue, itemValue_eq h]
    rfl
  | .rule => rfl
  | .attribute wanted =>
    rw [referenceValue, attribute?_eq h, ok_bind, Reference.value]
    cases doc.attribute? context.nodeId wanted <;> rfl

theorem replaceReferences_unfold {value : Reference → Guarded (Except TemplateProblem String)}
    {cs : List Char} : replaceReferences value cs =
      match Text.cut? openBraces cs with
      | none => .ok (.ok cs)
      | some (before, opened) =>
        match Text.cut? closeBraces opened with
        | none => .ok (.error .unclosed)
        | some (inner, after) =>
          match Reference.ofText? (String.ofList (Text.trim inner)) with
          | none => .ok (.error (.unknownReference (String.ofList (Text.trim inner))))
          | some r => value r >>= fun
            | .error problem => .ok (.error problem)
            | .ok replacement => replaceReferences value after >>= fun more =>
              .ok (more.map fun more => before ++ replacement.toList ++ more) := by
  rw [replaceReferences]
  split
  · rename_i hopen
    rw [hopen]
    rfl
  · rename_i hopen
    split
    · rename_i hclose
      simp only [hopen, hclose, pure_eq_ok]
    · rename_i hclose
      simp only [hopen, hclose]
      rfl

theorem replaceReferences_eq {value : Reference → Guarded (Except TemplateProblem String)}
    {plain : Reference → Except TemplateProblem String} (h : ∀ r, value r = .ok (plain r))
    (cs : List Char) :
    replaceReferences value cs = .ok (MarkupRules.replaceReferences plain cs) := by
  rw [replaceReferences_unfold, MarkupRules.replaceReferences_unfold]
  cases hopen : Text.cut? openBraces cs with
  | none => rfl
  | some cut =>
    obtain ⟨before, opened⟩ := cut
    dsimp only
    cases hclose : Text.cut? closeBraces opened with
    | none => rfl
    | some cut =>
      obtain ⟨inner, after⟩ := cut
      have := length_lt_of_cuts hopen hclose
      have ih := replaceReferences_eq h after
      dsimp only
      cases Reference.ofText? (String.ofList (Text.trim inner)) with
      | none => rfl
      | some r =>
        dsimp only
        rw [h r, ok_bind]
        cases plain r with
        | error problem => rfl
        | ok replacement =>
          dsimp only
          rw [ih]
          cases MarkupRules.replaceReferences plain after <;> rfl
termination_by cs.length

theorem renderMessage_eq {template ruleId : String} (h : context.nodeId < doc.size) :
    renderMessage template ruleId doc context =
      .ok (MarkupRules.renderMessage template ruleId doc context) := by
  rw [renderMessage, demand_eq h, ok_bind, MarkupRules.renderMessage]
  dsimp only
  rw [replaceReferences_eq (referenceValue_eq h)]
  cases MarkupRules.replaceReferences (Reference.value doc ruleId context)
    (Text.replaceAll escapedBraces escapeMark template.toList) <;> rfl

/-! ## 4. Results and reports -/

/-- The message about a failure at an item that stands at a location. -/
def failureMessage (r : Rule) (doc : Document) (context : Item) (location : String) :
    Guarded String := do
  if r.message.isEmpty then return fallbackMessage r.id location
  else match ← renderMessage r.message r.id doc context with
    | .ok message => return message
    | .error _ => return fallbackMessage r.id location

/-- The result of a rule at an item. -/
def judge (r : Rule) (doc : Document) (context : Item) : Guarded AssertionResult := do
  let verdict ← verdict (r.scope doc) context r.test
  let location ← itemLocation doc context
  let message ← if verdict.passed then pure none else some <$> failureMessage r doc context location
  return {
    ruleId := r.id
    severity := r.severity
    context := some context.nodeId
    location := some location
    passed := verdict.passed
    vacuous := verdict == .vacuous
    message }

/-- The results of a rule on a document. -/
def evaluate (doc : Document) (r : Rule) : Guarded (List AssertionResult) := do
  match ← select doc r.context (.node (← demand doc doc.root)) with
  | [] => return [r.vacuousResult]
  | contexts => contexts.mapM (judge r doc)

/-- The report of a phase on a document. -/
def validate (reg : Registry) (doc : Document) (phase : String) :
    Guarded (Except ConfigError Report) := do
  match reg.resolve phase with
  | .error err => return .error err
  | .ok rules =>
    let results ← rules.mapM (evaluate doc)
    return .ok (.ofResults phase results.flatten)

theorem failureMessage_eq {r : Rule} (h : context.nodeId < doc.size) :
    failureMessage r doc context (context.location doc) = .ok (r.failureMessage doc context) := by
  rw [failureMessage, Rule.failureMessage, renderMessage_eq h]
  split
  · rfl
  · cases MarkupRules.renderMessage r.message r.id doc context <;> rfl

theorem judge_eq {r : Rule} (h : context.nodeId < doc.size) :
    judge r doc context = .ok (r.judge doc context) := by
  have tested : verdict (r.scope doc) context r.test = .ok (r.test.verdict (r.scope doc) context) :=
    verdict_eq h r.test
  rw [judge, tested, ok_bind, itemLocation_eq h, ok_bind, failureMessage_eq h, Rule.judge]
  cases (r.test.verdict (r.scope doc) context).passed <;> rfl

theorem evaluate_eq {r : Rule} : evaluate doc r = .ok (r.evaluate doc) := by
  have root : (Item.node doc.root).nodeId < doc.size := Path.root_lt_size doc
  have judged : (r.contexts doc).mapM (judge r doc) = .ok ((r.contexts doc).map (r.judge doc)) :=
    mapM_eq fun i hi => judge_eq (lt_size_of_mem_select root hi)
  rw [evaluate, demand_eq (Path.root_lt_size doc), ok_bind, select_eq root, ok_bind]
  unfold Rule.evaluate
  change (match r.contexts doc with
    | [] => pure [r.vacuousResult]
    | contexts => contexts.mapM (judge r doc)) = _
  cases selected : r.contexts doc with
  | nil => rfl
  | cons i rest =>
    rw [selected] at judged
    exact judged

/-- **Whatever the document holds, no access of a run fails.** -/
theorem validate_eq {reg : Registry} {phase : String} :
    validate reg doc phase = .ok (reg.validate doc phase) := by
  rw [validate, Registry.validate]
  cases reg.resolve phase with
  | error err => rfl
  | ok rules =>
    have results : rules.mapM (evaluate doc) = .ok (rules.map (·.evaluate doc)) :=
      mapM_eq fun r _ => evaluate_eq
    show rules.mapM (evaluate doc) >>= _ = _
    rw [results, ok_bind, ← List.flatMap_def]
    rfl

end Guarded

namespace Registry

variable {reg : Registry} {names : List String} {doc : Document} {phase : String}

/-! ## 5. Several phases -/

/-- A name that is declared, or that stands for all rules, gives a report. -/
theorem exists_validate_eq_ok_iff :
    (∃ report, reg.validate doc phase = .ok report) ↔ phase = allPhase ∨ phase ∈ reg.phaseNames := by
  rw [← exists_resolve_eq_ok_iff]
  cases h : reg.resolve phase with
  | error err =>
    have failed : reg.validate doc phase = .error err :=
      validate_eq_error_iff.mpr (resolve_eq_error_iff.mp h)
    simp [failed]
  | ok rules => simp [validate_of_resolve h]

theorem validatePhases_cons {rest : List String} : reg.validatePhases doc (phase :: rest) =
    match reg.validate doc phase with
    | .error err => .error err
    | .ok report =>
      match reg.validatePhases doc rest with
      | .error err => .error err
      | .ok reports => .ok (report :: reports) := by
  rw [validatePhases]
  cases reg.validate doc phase with
  | error err => rfl
  | ok report => cases reg.validatePhases doc rest <;> rfl

/-- **Several phases give the reports** that they give one by one, in order. -/
theorem validatePhases_eq_ok_iff : ∀ {phases : List String} {reports : List Report},
    reg.validatePhases doc phases = .ok reports ↔
      List.Forall₂ (fun phase report => reg.validate doc phase = .ok report) phases reports
  | [], reports => by
    rw [validatePhases, List.forall₂_nil_left_iff, Except.ok.injEq, eq_comm]
  | phase :: rest, reports => by
    rw [validatePhases_cons, List.forall₂_cons_left_iff]
    simp only [← @validatePhases_eq_ok_iff rest]
    cases reg.validate doc phase with
    | error err => simp
    | ok report =>
      cases reg.validatePhases doc rest with
      | error err => simp
      | ok more => simp [eq_comm]

/-- The first member at fault is the head, or the head is fine and it is that of the rest. -/
theorem exists_first_cons_iff {α : Type} {fine fault : α → Prop} {a : α} {rest : List α} :
    (∃ before b after, a :: rest = before ++ b :: after ∧ (∀ c ∈ before, fine c) ∧ fault b) ↔
      fault a ∨ fine a ∧
        ∃ before b after, rest = before ++ b :: after ∧ (∀ c ∈ before, fine c) ∧ fault b := by
  constructor
  · intro h
    obtain ⟨before, b, after, split, all, failed⟩ := h
    cases before with
    | nil =>
      obtain ⟨rfl, rfl⟩ := List.cons.inj split
      exact .inl failed
    | cons c before =>
      obtain ⟨rfl, rfl⟩ := List.cons.inj split
      obtain ⟨first, others⟩ := List.forall_mem_cons.mp all
      exact .inr ⟨first, before, b, after, rfl, others, failed⟩
  · intro h
    rcases h with failed | ⟨first, before, b, after, rfl, others, failed⟩
    · exact ⟨[], a, rest, rfl, fun c hc => absurd hc List.not_mem_nil, failed⟩
    · exact ⟨a :: before, b, after, rfl, List.forall_mem_cons.mpr ⟨first, others⟩, failed⟩

/-- **Several phases fail as the first one does that fails.** -/
theorem validatePhases_eq_error_iff {err : ConfigError} : ∀ {phases : List String},
    reg.validatePhases doc phases = .error err ↔
      ∃ before phase after, phases = before ++ phase :: after ∧
        (∀ p ∈ before, ∃ report, reg.validate doc p = .ok report) ∧
          reg.validate doc phase = .error err
  | [] => by simp [validatePhases]
  | phase :: rest => by
    rw [exists_first_cons_iff, ← validatePhases_eq_error_iff, validatePhases_cons]
    cases reg.validate doc phase with
    | error err' => simp
    | ok report => cases reg.validatePhases doc rest <;> simp

/-- Several phases give reports if and only if each of them resolves. -/
theorem exists_validatePhases_eq_ok_iff {phases : List String} :
    (∃ reports, reg.validatePhases doc phases = .ok reports) ↔
      ∀ phase ∈ phases, ∃ rules, reg.resolve phase = .ok rules := by
  have known : ∀ p, (∃ rules, reg.resolve p = .ok rules) ↔
      ∃ report, reg.validate doc p = .ok report := by
    intro p
    rw [exists_resolve_eq_ok_iff, exists_validate_eq_ok_iff]
  simp only [known, validatePhases_eq_ok_iff]
  induction phases with
  | nil => simp
  | cons phase rest ih =>
    simp only [List.forall₂_cons_left_iff, List.forall_mem_cons, ← ih]
    constructor
    · intro h
      obtain ⟨_, report, more, first, hmore, _⟩ := h
      exact ⟨⟨report, first⟩, more, hmore⟩
    · intro h
      obtain ⟨⟨report, first⟩, more, hmore⟩ := h
      exact ⟨_, report, more, first, hmore, rfl⟩

/-! ## 6. Runs never break -/

/-- **Only the name of a phase can be at fault.** A run on a document fails if and only if its
    phase is not declared, and then with that name; otherwise no access to the document and none
    by index fails. Several phases give the reports that they give one by one if each of them
    resolves, and the error of the first that does not otherwise. -/
theorem run_never_breaks (accepted : reg.Accepted names) (doc : Document) :
    (∀ phase,
      ((∃ err, reg.validate doc phase = .error err) ↔ phase ≠ allPhase ∧ phase ∉ names) ∧
      (∀ err, reg.validate doc phase = .error err → err = .unknownPhase phase) ∧
      Guarded.validate reg doc phase = .ok (reg.validate doc phase)) ∧
    ∀ phases,
      ((∃ reports, reg.validatePhases doc phases = .ok reports) ↔
        ∀ phase ∈ phases, ∃ rules, reg.resolve phase = .ok rules) ∧
      (∀ reports, reg.validatePhases doc phases = .ok reports ↔
        List.Forall₂ (fun phase report => reg.validate doc phase = .ok report) phases reports) ∧
      ∀ err, reg.validatePhases doc phases = .error err ↔
        ∃ before phase after, phases = before ++ phase :: after ∧
          (∀ p ∈ before, ∃ rules, reg.resolve p = .ok rules) ∧ reg.resolve phase = .error err := by
  constructor
  · intro phase
    refine ⟨?_, fun err h => (validate_eq_error_iff.mp h).2, Guarded.validate_eq⟩
    simp only [validate_eq_error_iff, accepted.mem_names_iff, exists_and_left, exists_eq, and_true]
  · intro phases
    refine ⟨exists_validatePhases_eq_ok_iff, fun reports => validatePhases_eq_ok_iff, fun err => ?_⟩
    simp only [validatePhases_eq_error_iff, exists_validate_eq_ok_iff, exists_resolve_eq_ok_iff,
      validate_eq_error_iff, resolve_eq_error_iff]

/-- An article declares as many pages as there are from its first to its last one. -/
def declaredPages : Rule where
  id := "article.pages"
  phase := "pages"
  context := ⟨"article", [⟨true, [Path.Step.anywhere, ⟨.child, .name "article", []⟩]⟩]⟩
  test := .spanEquals ⟨"@pages", [⟨false, [⟨.attribute, .name "pages", []⟩]⟩]⟩
    ⟨"fpage", [⟨false, [⟨.child, .name "fpage", []⟩]⟩]⟩
    ⟨"lpage", [⟨false, [⟨.child, .name "lpage", []⟩]⟩]⟩
  message := "\x7b\x7bpath\x7d\x7d declares \x7b\x7b@pages\x7d\x7d pages"

/-- The registry of that rule alone. -/
def pageRules : Registry where
  rules := [declaredPages]
  phases := [⟨"pages", ["article.pages"]⟩]

/-- An article that has a first page, but no last one. -/
def openArticle : Element :=
  (({ name := "article" } : Element).attr "pages" "3").child
    (({ name := "fpage" } : Element).text "7")

theorem run_never_breaks_pages :
    Registry.withPhases [declaredPages] [⟨"pages", ["article.pages"]⟩] = .ok pageRules ∧
      (∃ err, pageRules.validate (.ofElement openArticle) "page" = .error err) ∧
      Guarded.validate pageRules (.ofElement openArticle) "pages" =
        .ok (pageRules.validate (.ofElement openArticle) "pages") ∧
      ∃ reports, pageRules.validatePhases (.ofElement openArticle) ["#ALL", "pages"] =
        .ok reports := by
  have built : Registry.withPhases [declaredPages] [⟨"pages", ["article.pages"]⟩] =
      .ok pageRules :=
    withPhases_eq_ok_iff.mpr ⟨rfl, by decide +kernel, by decide +kernel⟩
  have run := run_never_breaks (.withPhases built) (.ofElement openArticle)
  refine ⟨built, (run.1 "page").1.mpr ⟨by decide, by decide⟩, (run.1 "pages").2.2,
    (run.2 ["#ALL", "pages"]).1.mpr fun phase hp => ?_⟩
  rw [exists_resolve_eq_ok_iff]
  rcases List.mem_cons.mp hp with rfl | hp
  · exact .inl rfl
  · exact .inr hp

example : (pageRules.validate (.ofElement openArticle) "pages").toOption.map
    (·.results.map (·.message)) = some [some "/article[1] declares 3 pages"] := by
  decide +kernel

end Registry

end MarkupRules
