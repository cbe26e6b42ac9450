import MarkupRules.Path.Reading
import MarkupRules.Proofs.Fallible

/-!
# Productions without their bounds

Every reading function carries the proof that it leaves fewer tokens than it found, which is what
lets the reading end. Here each one is said again without these proofs:

* `outcome` -- an answer as a value and the tokens behind it, or the problem;
* `outcome_readUnion` and the like -- one equation for each production;
* `length_lt_of_outcome` -- the bound, told from the outcome.
-/

namespace MarkupRules.Path

variable {α β : Type} {m n : Nat}

/-! ## 1. Outcomes -/

/-- An answer without the bound on the tokens behind it. -/
def outcome (answer : Except Stuck (Read α n)) : Except Stuck (α × List Token) :=
  answer.map fun r => (r.value, r.rest)

theorem outcome_bind {answer : Except Stuck (Read α n)}
    {f : Read α n → Except Stuck (Read β m)} {g : α × List Token → Except Stuck (β × List Token)}
    (h : ∀ r, outcome (f r) = g (r.value, r.rest)) :
    outcome (answer.bind f) = (outcome answer).bind g := by
  cases answer with
  | error stuck => rfl
  | ok r => exact h r

theorem outcome_map {answer : Except Stuck (Read α n)} {f : Read α n → Read β m} {g : α → β}
    (h : ∀ r, (f r).value = g r.value ∧ (f r).rest = r.rest) :
    outcome (answer.map f) = (outcome answer).map fun (v, rest) => (g v, rest) := by
  cases answer with
  | error stuck => rfl
  | ok r =>
    obtain ⟨hv, hr⟩ := h r
    simp only [outcome, Except.map, hv, hr]

/-- An answer behind a longer text has the same outcome. -/
theorem outcome_weaken {answer : Except Stuck (Read α n)} {h : n ≤ m} :
    outcome (answer.map (·.weaken h)) = outcome answer := by
  cases answer <;> rfl

/-- **What is behind a production is shorter.** -/
theorem length_lt_of_outcome {answer : Except Stuck (Read α n)} {v : α} {rest : List Token}
    (h : outcome answer = .ok (v, rest)) : rest.length < n := by
  obtain ⟨r, rfl, same⟩ := map_eq_ok.mp h
  cases same
  exact r.short

/-! ## 2. One equation for each production -/

theorem outcome_readClose (v : α) (ts : List Token) : outcome (readClose v ts) =
    match ts with
    | .closeParenthesis :: rest => .ok (v, rest)
    | ts => .error ⟨.expectedParenthesis, ts⟩ := by
  cases ts with
  | nil => rfl
  | cons t rest => cases t <;> rfl

theorem outcome_readTest (ts : List Token) : outcome (readTest ts) =
    match ts with
    | .star :: rest => .ok (.wildcard, rest)
    | .name n :: .openParenthesis :: rest =>
      if n = "text" then outcome (readClose .text rest)
      else if n = "node" then outcome (readClose .anyNode rest)
      else .error ⟨.unsupportedFunction n, .name n :: .openParenthesis :: rest⟩
    | .name n :: rest => .ok (.name n, rest)
    | ts => .error ⟨.expectedNodeTest, ts⟩ := by
  rw [readTest.eq_def]
  cases ts with
  | nil => rfl
  | cons t rest =>
    cases t with
    | name n =>
      cases rest with
      | nil => rfl
      | cons t' rest =>
        cases t' with
        | openParenthesis =>
          simp only
          split
          · exact outcome_weaken
          · split
            · exact outcome_weaken
            · rfl
        | _ => rfl
    | _ => rfl

theorem outcome_readUnion (ts : List Token) : outcome (readUnion ts) =
    (outcome (readBranch ts)).bind fun (b, mid) =>
      match mid with
      | .pipe :: rest => (outcome (readUnion rest)).map fun (more, rest) => (b :: more, rest)
      | rest => .ok ([b], rest) := by
  rw [readUnion]
  refine outcome_bind fun r => ?_
  obtain ⟨b, mid, short⟩ := r
  cases mid with
  | nil => rfl
  | cons t rest =>
    cases t with
    | pipe => exact outcome_map fun r => ⟨rfl, rfl⟩
    | _ => rfl

theorem outcome_readBranch (ts : List Token) : outcome (readBranch ts) =
    match ts with
    | .slash :: rest =>
      if startsStep rest then
        (outcome (readSteps rest)).map fun (steps, rest) => (⟨true, steps⟩, rest)
      else .ok (⟨true, []⟩, rest)
    | .doubleSlash :: rest =>
      (outcome (readSteps rest)).map fun (steps, rest) => (⟨true, Step.anywhere :: steps⟩, rest)
    | ts => (outcome (readSteps ts)).map fun (steps, rest) => (⟨false, steps⟩, rest) := by
  have relative : ∀ ts, outcome ((readSteps ts).map (·.map (Branch.mk false))) =
      (outcome (readSteps ts)).map fun (steps, rest) => (⟨false, steps⟩, rest) :=
    fun ts => outcome_map fun r => ⟨rfl, rfl⟩
  rw [readBranch.eq_def]
  cases ts with
  | nil => exact relative _
  | cons t rest =>
    cases t with
    | slash =>
      simp only
      split
      · exact outcome_map (g := Branch.mk true) fun r => ⟨rfl, rfl⟩
      · rfl
    | doubleSlash =>
      exact outcome_map (g := fun steps => Branch.mk true (Step.anywhere :: steps)) fun r =>
        ⟨rfl, rfl⟩
    | _ => exact relative _

theorem outcome_readSteps (ts : List Token) : outcome (readSteps ts) =
    (outcome (readStep ts)).bind fun (s, mid) =>
      match mid with
      | .slash :: rest => (outcome (readSteps rest)).map fun (more, rest) => (s :: more, rest)
      | .doubleSlash :: rest =>
        (outcome (readSteps rest)).map fun (more, rest) => (s :: Step.anywhere :: more, rest)
      | rest => .ok ([s], rest) := by
  rw [readSteps]
  refine outcome_bind fun r => ?_
  obtain ⟨s, mid, short⟩ := r
  cases mid with
  | nil => rfl
  | cons t rest =>
    cases t with
    | slash => exact outcome_map fun r => ⟨rfl, rfl⟩
    | doubleSlash => exact outcome_map (g := (s :: Step.anywhere :: ·)) fun r => ⟨rfl, rfl⟩
    | _ => rfl

theorem outcome_readStep (ts : List Token) : outcome (readStep ts) =
    match ts with
    | .dot :: rest => .ok (Step.here, rest)
    | .dotDot :: rest => .ok (Step.up, rest)
    | .atSign :: rest => outcome (readTested .attribute rest)
    | .name n :: .colonColon :: rest =>
      match Axis.ofName? n with
      | some axis => outcome (readTested axis rest)
      | none => .error ⟨.unsupportedAxis n, .name n :: .colonColon :: rest⟩
    | ts => outcome (readTested .child ts) := by
  rw [readStep.eq_def]
  cases ts with
  | nil => rfl
  | cons t rest =>
    cases t with
    | atSign => exact outcome_weaken
    | name n =>
      cases rest with
      | nil => rfl
      | cons t' rest =>
        cases t' with
        | colonColon =>
          simp only
          cases Axis.ofName? n with
          | none => rfl
          | some axis => exact outcome_weaken
        | _ => rfl
    | _ => rfl

theorem outcome_readTested (axis : Axis) (ts : List Token) : outcome (readTested axis ts) =
    (outcome (readTest ts)).bind fun (test, mid) =>
      (outcome (readFilters mid)).map fun (filters, rest) => (⟨axis, test, filters⟩, rest) := by
  rw [readTested]
  refine outcome_bind fun r => ?_
  exact outcome_map fun r => ⟨rfl, rfl⟩

theorem outcome_readFilters (ts : List Token) : outcome (readFilters ts) =
    match ts with
    | .openBracket :: rest => (outcome (readDisjunction rest)).bind fun (f, mid) =>
      match mid with
      | .closeBracket :: behind =>
        (outcome (readFilters behind)).map fun (more, rest) => (f :: more, rest)
      | behind => .error ⟨.expectedBracket, behind⟩
    | ts => .ok ([], ts) := by
  rw [readFilters.eq_def]
  cases ts with
  | nil => rfl
  | cons t rest =>
    cases t with
    | openBracket =>
      refine outcome_bind fun r => ?_
      obtain ⟨f, mid, short⟩ := r
      cases mid with
      | nil => rfl
      | cons t behind =>
        cases t with
        | closeBracket => exact outcome_map fun r => ⟨rfl, rfl⟩
        | _ => rfl
    | _ => rfl

theorem outcome_readDisjunction (ts : List Token) : outcome (readDisjunction ts) =
    (outcome (readConjunction ts)).bind fun (f, mid) => outcome (readMoreOr f mid) := by
  rw [readDisjunction]
  exact outcome_bind fun r => outcome_weaken

theorem outcome_readMoreOr (left : Filter) (ts : List Token) : outcome (readMoreOr left ts) =
    match ts with
    | .name n :: rest =>
      if n = "or" then
        (outcome (readConjunction rest)).bind fun (right, mid) =>
          outcome (readMoreOr (.or left right) mid)
      else .ok (left, .name n :: rest)
    | ts => .ok (left, ts) := by
  rw [readMoreOr.eq_def]
  cases ts with
  | nil => rfl
  | cons t rest =>
    cases t with
    | name n =>
      simp only
      split
      · exact outcome_bind fun r => outcome_weaken
      · rfl
    | _ => rfl

theorem outcome_readConjunction (ts : List Token) : outcome (readConjunction ts) =
    (outcome (readUnary ts)).bind fun (f, mid) => outcome (readMoreAnd f mid) := by
  rw [readConjunction]
  exact outcome_bind fun r => outcome_weaken

theorem outcome_readMoreAnd (left : Filter) (ts : List Token) : outcome (readMoreAnd left ts) =
    match ts with
    | .name n :: rest =>
      if n = "and" then
        (outcome (readUnary rest)).bind fun (right, mid) =>
          outcome (readMoreAnd (.and left right) mid)
      else .ok (left, .name n :: rest)
    | ts => .ok (left, ts) := by
  rw [readMoreAnd.eq_def]
  cases ts with
  | nil => rfl
  | cons t rest =>
    cases t with
    | name n =>
      simp only
      split
      · exact outcome_bind fun r => outcome_weaken
      · rfl
    | _ => rfl

/-- What stands behind a counted union: a comparison with a number. -/
def countCompared (union : List Branch) : List Token → Except Stuck (Filter × List Token)
  | .comparison c :: .number value :: rest => .ok (.count union c value, rest)
  | .comparison _ :: rest => .error ⟨.countNotCompared, rest⟩
  | rest => .error ⟨.countNotCompared, rest⟩

theorem outcome_readUnary (ts : List Token) : outcome (readUnary ts) =
    match ts with
    | .name n :: .openParenthesis :: rest =>
      if n = "not" then
        (outcome (readDisjunction rest)).bind fun (f, mid) => outcome (readClose (.not f) mid)
      else if n = "count" then
        (outcome (readUnion rest)).bind fun (union, mid) =>
          (outcome (readClose union mid)).bind fun (union, behind) => countCompared union behind
      else if n = "text" ∨ n = "node" then
        outcome (readCompared (.name n :: .openParenthesis :: rest))
      else .error ⟨.unsupportedFunction n, .name n :: .openParenthesis :: rest⟩
    | .openParenthesis :: rest =>
      (outcome (readDisjunction rest)).bind fun (f, mid) => outcome (readClose f mid)
    | .number n :: rest =>
      if n < 1 then .error ⟨.positionBelowOne, rest⟩ else .ok (.position n.toNat, rest)
    | .literal value :: rest => .error ⟨.bareLiteral, .literal value :: rest⟩
    | ts => outcome (readCompared ts) := by
  rw [readUnary.eq_def]
  cases ts with
  | nil => rfl
  | cons t rest =>
    cases t with
    | name n =>
      cases rest with
      | nil => rfl
      | cons t' rest =>
        cases t' with
        | openParenthesis =>
          simp only
          split
          · exact outcome_bind fun r => outcome_weaken
          · split
            · refine outcome_bind fun counted => outcome_bind fun closed => ?_
              obtain ⟨union, behind, short⟩ := closed
              cases behind with
              | nil => rfl
              | cons t behind =>
                cases t with
                | comparison c =>
                  cases behind with
                  | nil => rfl
                  | cons t' behind => cases t' <;> rfl
                | _ => rfl
            · split <;> rfl
        | _ => rfl
    | openParenthesis => exact outcome_bind fun r => outcome_weaken
    | number n =>
      simp only
      split <;> rfl
    | _ => rfl

/-- What may stand behind a union: a comparison with a literal or a number, or nothing of it. -/
def compared (union : List Branch) : List Token → Except Stuck (Filter × List Token)
  | .comparison c :: .literal value :: rest =>
    if c.isEquality then .ok (.compare union c (.text value), rest)
    else .error ⟨.orderedLiteral, .literal value :: rest⟩
  | .comparison c :: .number value :: rest => .ok (.compare union c (.number value), rest)
  | .comparison _ :: rest => .error ⟨.expectedOperand, rest⟩
  | rest => .ok (.exists union, rest)

theorem outcome_readCompared (ts : List Token) : outcome (readCompared ts) =
    (outcome (readUnion ts)).bind fun (union, mid) => compared union mid := by
  rw [readCompared]
  refine outcome_bind fun selected => ?_
  obtain ⟨union, mid, short⟩ := selected
  cases mid with
  | nil => rfl
  | cons t rest =>
    cases t with
    | comparison c =>
      cases rest with
      | nil => rfl
      | cons t' rest =>
        cases t' with
        | literal value =>
          simp only [compared]
          split <;> rfl
        | _ => rfl
    | _ => rfl

end MarkupRules.Path
