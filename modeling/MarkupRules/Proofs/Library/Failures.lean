import MarkupRules.Proofs.Library.Misplaced

/-!
# The kinds of errors of libraries that are not read

Whatever is wrong with a library, its predicates at any depth included, is settled by what the
problem is, or a text is in the wrong place. Any other text in this place is blamed in the same
words, and the kind of the error is that of a malformed rule if the text, as the message quotes it,
has one of the phrases in it that tell such errors from errors in the text of the library.

* `PredicateDraft.judges_ofValue`, `LibraryDraft.judges_ofValue` -- predicates and libraries;
* `Library.misread`, `Library.misplacedText` -- what is said about a problem, and about a text in
  the wrong place;
* `Library.kind_of_failure` -- **the kind of the error of every library that is not read**.
-/

namespace MarkupRules

/-! ## 1. Predicates -/

namespace PredicateDraft

theorem settled_bareName (name : String) : (bareName name).Settled := by
  unfold bareName
  split
  · exact Problem.settled_unknownVariant _ _
  · exact Problem.settled_unitVariant (by decide)
  · exact Problem.settled_unitVariant (by decide)

section Leaves

variable {f : Fields Value} (missing : ∀ name, (f.missing name).Settled)

include missing

theorem judges_pathField (name : String) : f.Judges [name] fun f => pathField f name :=
  Fields.judges_required (missing name) judges_asText

theorem judges_domainField : f.Judges ["values"] domainField :=
  Fields.judges_required (missing _) (judges_asSequence judges_asText)

theorem judges_modeField : f.Judges ["mode"] modeField :=
  Fields.judges_withDefault (missing _) fun v => (judges_asSpelled _ v).orNull

theorem judges_boundField (name : String) : f.Judges [name] fun f => boundField f name :=
  Fields.judges_withDefault (missing name) fun v => (judges_asCount v).orNull

theorem judges_countOfFields :
    f.Judges ["path", "eq", "ne", "gt", "lt", "gte", "lte"] countOfFields := by
  have bound := judges_boundField missing
  have two := Fields.judges_ap (Fields.judges_map CountCondition.mk (bound "eq")) (bound "ne")
    (by decide)
  have four := Fields.judges_ap (Fields.judges_ap two (bound "gt") (by decide)) (bound "lt")
    (by decide)
  have condition := Fields.judges_ap (Fields.judges_ap four (bound "gte") (by decide))
    (bound "lte") (by decide)
  exact Fields.judges_ap (Fields.judges_map count (judges_pathField missing "path")) condition
    (by decide)

theorem judges_equalsOfFields :
    f.Judges ["path", "value", "quantifier", "mode"] equalsOfFields := by
  have value : f.Judges ["value"] fun f => f.required "value" Literal.ofValue :=
    Fields.judges_required (missing _) judges_literal
  have quantifier : f.Judges ["quantifier"] fun f =>
      f.withDefault "quantifier" .any (Value.asSpelled Quantifier.spellings) :=
    Fields.judges_withDefault (missing _) (judges_asSpelled _)
  have two := Fields.judges_ap (Fields.judges_map equals (judges_pathField missing "path")) value
    (by decide)
  exact Fields.judges_ap (Fields.judges_ap two quantifier (by decide)) (judges_modeField missing)
    (by decide)

theorem judges_valueInOfFields :
    f.Judges ["path", "values", "required", "mode"] valueInOfFields := by
  have required : f.Judges ["required"] fun f => f.withDefault "required" true Value.asFlag :=
    Fields.judges_withDefault (missing _) judges_asFlag
  have two := Fields.judges_ap (Fields.judges_map valueIn (judges_pathField missing "path"))
    (judges_domainField missing) (by decide)
  exact Fields.judges_ap (Fields.judges_ap two required (by decide)) (judges_modeField missing)
    (by decide)

theorem judges_exactlyOneOfOfFields :
    f.Judges ["path", "values", "mode"] exactlyOneOfOfFields := by
  have two := Fields.judges_ap (Fields.judges_map exactlyOneOf (judges_pathField missing "path"))
    (judges_domainField missing) (by decide)
  exact Fields.judges_ap two (judges_modeField missing) (by decide)

theorem judges_countEqualsOfFields :
    f.Judges ["declared", "counted"] countEqualsOfFields :=
  Fields.judges_ap (Fields.judges_map countEquals (judges_pathField missing "declared"))
    (judges_pathField missing "counted") (by decide)

theorem judges_spanEqualsOfFields :
    f.Judges ["declared", "first", "last"] spanEqualsOfFields := by
  have two := Fields.judges_ap
    (Fields.judges_map spanEquals (judges_pathField missing "declared"))
    (judges_pathField missing "first") (by decide)
  exact Fields.judges_ap two (judges_pathField missing "last") (by decide)

end Leaves

/-- **Predicates without predicates in them.** -/
theorem judges_leafOfValue (name : String) (content : Value) :
    Judges (leafOfValue name) content := by
  have missing : ∀ {known : List String} {entries : List (String × Value)} (name : String),
      ((Fields.ofEntries known entries).missing name).Settled :=
    fun name => Problem.settled_missingField name
  by_cases known : name ∈ ["present", "absent", "count", "equals", "value_in", "exactly_one_of",
    "count_equals", "span_equals"]
  · simp only [List.mem_cons, List.not_mem_nil, or_false] at known
    rcases known with rfl | rfl | rfl | rfl | rfl | rfl | rfl | rfl
    · exact (judges_asText content).map present
    · exact (judges_asText content).map absent
    · exact Fields.judges_asFields (fun _ => judges_countOfFields missing) content
    · exact Fields.judges_asFields (fun _ => judges_equalsOfFields missing) content
    · exact Fields.judges_asFields (fun _ => judges_valueInOfFields missing) content
    · exact Fields.judges_asFields (fun _ => judges_exactlyOneOfOfFields missing) content
    · exact Fields.judges_asFields (fun _ => judges_countEqualsOfFields missing) content
    · exact Fields.judges_asFields (fun _ => judges_spanEqualsOfFields missing) content
  · have own : leafOfValue name content = .error (.unknownVariant name (variants.map (·.1))) := by
      unfold leafOfValue
      split
      all_goals first | rfl | exact absurd (by decide) known
    exact judges_of_settled own (Problem.settled_unknownVariant _ _)

/-- The predicates of a sequence are read one by one. -/
theorem ofItems_eq : ofItems = Value.asSequence ofValue := by
  have each : ∀ items, ofList items = items.mapM ofValue := by
    intro items
    induction items with
    | nil => rfl
    | cons v rest ih =>
      rw [ofList, List.mapM_cons, ih]
      rfl
  funext v
  cases v with
  | sequence items => exact each items
  | _ => rfl

/-- The entries of an implication are read before they are asked for. -/
theorem whenOfValue_eq : whenOfValue = Fields.asFields ["condition", "then"] fun f =>
    when <$> f.required "condition" ofValue <*> f.required "then" ofValue := by
  have each : ∀ entries, ofEntries entries = entries.map fun e => (e.1, ofValue e.2) := by
    intro entries
    induction entries with
    | nil => rfl
    | cons entry rest ih => rw [ofEntries, ih, List.map_cons]
  funext v
  cases v with
  | mapping entries =>
    have condition := Fields.field_readAhead ["condition", "then"] entries ofValue "condition" none
    have consequence := Fields.field_readAhead ["condition", "then"] entries ofValue "then" none
    have strays := Fields.stray_readAhead ["condition", "then"] entries ofValue
    rw [← each] at condition consequence strays
    show Fields.finish _ (when <$> _ <*> _) = Fields.finish _ (when <$> _ <*> _)
    simp only [Fields.required, condition, consequence, Fields.finish, strays]
  | _ => rfl

theorem ofValue_of_leaf {name : String} (leaf : name ∉ ["not", "all", "any", "xor", "when"])
    (content : Value) : ofValue (.mapping [(name, content)]) = leafOfValue name content := by
  simp only [ofValue]
  split
  all_goals first | rfl | exact absurd (by decide) leaf

mutual

/-- **Predicates**: the recursion is that of the reader. -/
theorem judges_ofValue : ∀ v, Judges ofValue v
  | .text name => judges_of_settled rfl (settled_bareName name)
  | .mapping [(name, content)] => by
    by_cases nested : name ∈ ["not", "all", "any", "xor", "when"]
    · simp only [List.mem_cons, List.not_mem_nil, or_false] at nested
      rcases nested with rfl | rfl | rfl | rfl | rfl
      · exact ((judges_ofValue content).map not).single fun _ => rfl
      · exact ((judges_ofItems content).map all).single fun _ => rfl
      · exact ((judges_ofItems content).map any).single fun _ => rfl
      · exact ((judges_ofItems content).map xor).single fun _ => rfl
      · exact (judges_whenOfValue content).single fun _ => rfl
    · exact (judges_leafOfValue name content).single (ofValue_of_leaf nested)
  | .mapping [] | .mapping (_ :: _ :: _) =>
    judges_of_settled rfl (Problem.settled_wrongValue (by decide) nofun)
  | .null | .boolean _ | .integer _ | .fraction _ | .sequence _ =>
    judges_of_settled rfl (Problem.settled_wrongType (by decide) nofun)

theorem judges_ofItems : ∀ v, Judges ofItems v
  | .sequence items => by
    rw [ofItems_eq]
    exact judges_sequence (judges_ofList items)
  | .null | .text _ | .boolean _ | .fraction _ | .integer _ | .mapping _ =>
    judges_wrongType (by decide) rfl fun _ => rfl

theorem judges_ofList : ∀ items : List Value, ∀ v ∈ items, Judges ofValue v
  | [] => nofun
  | v :: rest => List.forall_mem_cons.mpr ⟨judges_ofValue v, judges_ofList rest⟩

theorem judges_whenOfValue : ∀ v, Judges whenOfValue v
  | .mapping entries => by
    have part : ∀ name, (Fields.ofEntries ["condition", "then"] entries).Judges [name] fun f =>
        f.required name ofValue :=
      fun name => Fields.judges_field (Problem.settled_missingField name) fun v k found =>
        judges_ofEntries entries _ (List.mem_of_getElem? (Fields.getElem?_of_get? found))
    rw [whenOfValue_eq]
    exact Fields.judges_mapping
      (Fields.judges_ap (Fields.judges_map when (part "condition")) (part "then") (by decide))
  | .null | .text _ | .boolean _ | .fraction _ | .integer _ | .sequence _ =>
    judges_wrongType (by decide) rfl fun _ => rfl

theorem judges_ofEntries : ∀ entries : List (String × Value), ∀ e ∈ entries, Judges ofValue e.2
  | [] => nofun
  | (_, v) :: rest => List.forall_mem_cons.mpr ⟨judges_ofValue v, judges_ofEntries rest⟩

end

end PredicateDraft

/-! ## 2. Libraries -/

theorem Defaults.judges_ofValue : ∀ v, Judges Defaults.ofValue v := by
  refine RecordForm.judges_read ["blank_is_absent", "mode"] (by decide) (by decide)
    fun f missing => ?_
  have blankIsAbsent : f.Judges ["blank_is_absent"] fun f =>
      f.withDefault "blank_is_absent" false Value.asFlag :=
    Fields.judges_withDefault (missing _) judges_asFlag
  have mode : f.Judges ["mode"] fun f =>
      f.withDefault "mode" .exact (Value.asSpelled MatchMode.spellings) :=
    Fields.judges_withDefault (missing _) (judges_asSpelled _)
  exact Fields.judges_ap (Fields.judges_map Defaults.mk blankIsAbsent) mode (by decide)

theorem RuleDraft.judges_ofValue : ∀ v, Judges RuleDraft.ofValue v := by
  refine RecordForm.judges_read
    ["id", "context", "severity", "message", "blank_is_absent", "assert"] (by decide) (by decide)
    fun f missing => ?_
  have text : ∀ name, f.Judges [name] fun f => f.required name Value.asText :=
    fun name => Fields.judges_required (missing name) judges_asText
  have severity : f.Judges ["severity"] fun f =>
      f.withDefault "severity" .error (Value.asSpelled Severity.spellings) :=
    Fields.judges_withDefault (missing _) (judges_asSpelled _)
  have message : f.Judges ["message"] fun f => f.withDefault "message" "" Value.asText :=
    Fields.judges_withDefault (missing _) judges_asText
  have blankIsAbsent : f.Judges ["blank_is_absent"] fun f =>
      f.withDefault "blank_is_absent" none (Value.orNull Value.asFlag) :=
    Fields.judges_withDefault (missing _) fun v => (judges_asFlag v).orNull
  have test : f.Judges ["assert"] fun f => f.required "assert" PredicateDraft.ofValue :=
    Fields.judges_required (missing _) PredicateDraft.judges_ofValue
  have two := Fields.judges_ap (Fields.judges_map RuleDraft.mk (text "id")) (text "context")
    (by decide)
  have four := Fields.judges_ap (Fields.judges_ap two severity (by decide)) message (by decide)
  exact Fields.judges_ap (Fields.judges_ap four blankIsAbsent (by decide)) test (by decide)

theorem PhaseDraft.judges_ofValue : ∀ v, Judges PhaseDraft.ofValue v := by
  refine RecordForm.judges_read ["name", "rules"] (by decide) (by decide) fun f missing => ?_
  have name : f.Judges ["name"] fun f => f.required "name" Value.asText :=
    Fields.judges_required (missing _) judges_asText
  have rules : f.Judges ["rules"] fun f =>
      f.required "rules" (Value.asSequence RuleDraft.ofValue) :=
    Fields.judges_required (missing _) (judges_asSequence RuleDraft.judges_ofValue)
  exact Fields.judges_ap (Fields.judges_map PhaseDraft.mk name) rules (by decide)

/-- **Libraries**: whatever is wrong with one is settled, or it is a text in the wrong place. -/
theorem LibraryDraft.judges_ofValue : ∀ v, Judges LibraryDraft.ofValue v := by
  refine RecordForm.judges_read ["version", "defaults", "phases"] (by decide) (by decide)
    fun f missing => ?_
  have version : f.Judges ["version"] fun f => f.required "version" Value.asText :=
    Fields.judges_required (missing _) judges_asText
  have defaults : f.Judges ["defaults"] fun f => f.withDefault "defaults" {} Defaults.ofValue :=
    Fields.judges_withDefault (missing _) Defaults.judges_ofValue
  have phases : f.Judges ["phases"] fun f =>
      f.required "phases" (Value.asSequence PhaseDraft.ofValue) :=
    Fields.judges_required (missing _) (judges_asSequence PhaseDraft.judges_ofValue)
  exact Fields.judges_ap
    (Fields.judges_ap (Fields.judges_map LibraryDraft.mk version) defaults (by decide)) phases
    (by decide)

namespace Library

/-- What is said about a text where something else is expected. -/
def misplacedText (expected t : String) : ConfigError where
  kind := if quotesPhrase t then .malformedRule else .syntaxError
  message := (Problem.wrongType (Value.text t).found expected).message

/-- What is said about any other problem. -/
def misread (p : Problem) : ConfigError where
  kind := if p.isOfName then .malformedRule else .syntaxError
  message := p.message

variable {entries : List (String × Value)} {p : Problem}

theorem ofValue_eq_error (failed : LibraryDraft.ofValue (.mapping entries) = .error p) :
    ofValue (.mapping entries) = .error { kind := p.errorKind, message := p.message } := by
  rw [ofValue, failed]

/-- **The kind of the error of a library that is not read** is that of the problem: an unknown
    variant, an unknown field or a missing one is that of a malformed rule, and all else is in the
    text. The exceptions are texts where something else is expected: any text in such a place is
    blamed, and the kind is that of a malformed rule if the text, as the message quotes it, has one
    of the phrases in it. -/
theorem kind_of_failure (failed : LibraryDraft.ofValue (.mapping entries) = .error p) :
    ((∀ s expected, p ≠ .wrongType (Value.text s).found expected) ∧
      ofValue (.mapping entries) = .error (misread p)) ∨
    ∃ path s expected, (Value.mapping entries).at? path = some (.text s) ∧
      p = .wrongType (Value.text s).found expected ∧
      ofValue (.mapping entries) = .error (misplacedText expected s) ∧
      ∀ t, ofValue ((Value.mapping entries).put path (.text t)) =
        .error (misplacedText expected t) := by
  have own := ofValue_eq_error failed
  rcases LibraryDraft.judges_ofValue _ p failed with
    settled | ⟨path, s, expected, place, plain, rfl, others⟩
  · rw [settled.kind] at own
    exact .inl ⟨settled.apart, own⟩
  · have told := Problem.errorKind_quoted plain
    rw [told] at own
    refine .inr ⟨path, s, expected, place, rfl, own, fun t => ?_⟩
    -- the root is a mapping, and stays one
    cases path with
    | nil => cases place
    | cons k path =>
      have other := others t
      rw [Value.put] at other ⊢
      rw [ofValue_eq_error other, told]
      rfl

theorem kind_of_failure_phases :
    LibraryDraft.ofValue (.mapping [("version", .text "1"), ("phases", .text "none")]) =
      .error (.wrongType (Value.text "none").found "a sequence") ∧
    ∃ path s expected,
      (Value.mapping [("version", .text "1"), ("phases", .text "none")]).at? path =
        some (.text s) ∧
      Problem.wrongType (Value.text "none").found "a sequence" =
        .wrongType (Value.text s).found expected ∧
      ofValue (.mapping [("version", .text "1"), ("phases", .text "none")]) =
        .error (misplacedText expected s) ∧
      ∀ t, ofValue
        ((Value.mapping [("version", .text "1"), ("phases", .text "none")]).put path (.text t)) =
        .error (misplacedText expected t) := by
  have failed : LibraryDraft.ofValue (.mapping [("version", .text "1"), ("phases", .text "none")]) =
      .error (.wrongType (Value.text "none").found "a sequence") := by
    rw [← error?_eq_some_iff]
    decide +kernel
  exact ⟨failed, (kind_of_failure failed).resolve_left fun other => other.1 _ _ rfl⟩

/-- A text instead of phases is an error in the text of the library, unless it is worded like a
    malformed rule. -/
theorem kind_told_by_text :
    ofValue (.mapping [("version", .text "1"), ("phases", .text "none")]) =
      .error ⟨.syntaxError, "invalid type: string \x22none\x22, expected a sequence", none, none⟩ ∧
    ofValue (.mapping [("version", .text "1"), ("phases", .text "unknown variant")]) =
      .error ⟨.malformedRule, "invalid type: string \x22unknown variant\x22, expected a sequence",
        none, none⟩ := by
  rw [← error?_eq_some_iff, ← error?_eq_some_iff]
  decide +kernel

end Library

end MarkupRules
