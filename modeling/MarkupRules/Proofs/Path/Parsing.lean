import MarkupRules.Proofs.Path.Grammar
import MarkupRules.Proofs.Path.Productions

/-!
# Reading follows the grammar

The reading functions accept what the grammar derives and build the tree it derives.

* `Derives.reads` -- **what the grammar derives is read**, if it ends where its phrase may end;
* `sound` -- **what is read is derived**;
* `derives_unique` -- the tokens of an expression write one tree;
* `Expr.compile_follows_grammar` -- **compiling accepts exactly the grammar**.
-/

namespace MarkupRules.Path

variable {ts rest : List Token}

/-! ## 1. What is derived is read -/

/-- Whether the reading function of a phrase finds it. Behind a disjunction or a conjunction more
    operands may follow, so these are read up to the given point only. -/
def Reads : (x : Phrase) → List Token → x.Value → List Token → Prop
  | .union, ts, union, rest => outcome (readUnion ts) = .ok (union, rest)
  | .branch, ts, b, rest => outcome (readBranch ts) = .ok (b, rest)
  | .steps, ts, steps, rest => outcome (readSteps ts) = .ok (steps, rest)
  | .step, ts, s, rest => outcome (readStep ts) = .ok (s, rest)
  | .test, ts, test, rest => outcome (readTest ts) = .ok (test, rest)
  | .filters, ts, filters, rest => outcome (readFilters ts) = .ok (filters, rest)
  | .disjunction, ts, f, rest => outcome (readDisjunction ts) = outcome (readMoreOr f rest)
  | .conjunction, ts, f, rest => outcome (readConjunction ts) = outcome (readMoreAnd f rest)
  | .unary, ts, f, rest => outcome (readUnary ts) = .ok (f, rest)

/-- A test is read wherever neither a slash, a dot, an at sign nor an axis starts the union. -/
theorem exists_test_of_readUnion {union : List Branch}
    (hbranch : outcome (readBranch ts) =
      (outcome (readSteps ts)).map fun (steps, rest) => (⟨false, steps⟩, rest))
    (hstep : outcome (readStep ts) = outcome (readTested .child ts))
    (h : outcome (readUnion ts) = .ok (union, rest)) :
    ∃ test mid, outcome (readTest ts) = .ok (test, mid) := by
  rw [outcome_readUnion] at h
  obtain ⟨⟨b, _⟩, hb, _⟩ := bind_eq_ok.mp h
  rw [hbranch] at hb
  obtain ⟨⟨steps, _⟩, hs, _⟩ := map_eq_ok.mp hb
  rw [outcome_readSteps] at hs
  obtain ⟨⟨s, _⟩, hs, _⟩ := bind_eq_ok.mp hs
  rw [hstep, outcome_readTested] at hs
  obtain ⟨⟨test, mid⟩, ht, _⟩ := bind_eq_ok.mp hs
  exact ⟨test, mid, ht⟩

/-- **A union is read wherever a condition may be one**: none starts like another condition. -/
theorem outcome_readUnary_of_readUnion {union : List Branch}
    (h : outcome (readUnion ts) = .ok (union, rest)) :
    outcome (readUnary ts) = outcome (readCompared ts) := by
  have test := fun hbranch hstep => exists_test_of_readUnion hbranch hstep h
  rw [outcome_readBranch, outcome_readStep, outcome_readTest] at test
  rw [outcome_readUnary]
  cases ts with
  | nil => rfl
  | cons t rest =>
    cases t with
    | openParenthesis =>
      obtain ⟨_, _, ⟨⟩⟩ := test rfl rfl
    | number n =>
      obtain ⟨_, _, ⟨⟩⟩ := test rfl rfl
    | literal value =>
      obtain ⟨_, _, ⟨⟩⟩ := test rfl rfl
    | name n =>
      cases rest with
      | nil => rfl
      | cons t' rest =>
        cases t' with
        | openParenthesis =>
          obtain ⟨_, _, ht⟩ := test rfl rfl
          simp only at ht ⊢
          by_cases htext : n = "text"
          · simp [htext]
          · by_cases hnode : n = "node"
            · simp [hnode]
            · rw [if_neg htext, if_neg hnode] at ht
              cases ht
        | _ => rfl
    | _ => rfl

/-- A name is read as a test of its own unless a parenthesis makes it a function. -/
theorem outcome_readTest_of_endsAt {n : String} (ends : Phrase.test.EndsAt rest) :
    outcome (readTest (.name n :: rest)) = .ok (.name n, rest) := by
  rw [outcome_readTest]
  cases rest with
  | nil => rfl
  | cons t rest =>
    cases t with
    | openParenthesis => exact absurd ends (Phrase.EndsAt.not_cons fun d hd => by cases hd)
    | _ => rfl

theorem outcome_readFilters_of_endsAt (ends : Phrase.filters.EndsAt rest) :
    outcome (readFilters rest) = .ok ([], rest) := by
  rw [outcome_readFilters]
  cases rest with
  | nil => rfl
  | cons t rest =>
    cases t with
    | openBracket => exact absurd ends (Phrase.EndsAt.not_cons fun d hd => by cases hd; decide)
    | _ => rfl

theorem outcome_readSteps_of_endsAt {s : Step} (hs : outcome (readStep ts) = .ok (s, rest))
    (ends : Phrase.steps.EndsAt rest) : outcome (readSteps ts) = .ok ([s], rest) := by
  rw [outcome_readSteps, hs]
  cases rest with
  | nil => rfl
  | cons t rest =>
    cases t with
    | slash => exact absurd ends (Phrase.EndsAt.not_cons fun d hd => by cases hd; decide)
    | doubleSlash => exact absurd ends (Phrase.EndsAt.not_cons fun d hd => by cases hd; decide)
    | _ => rfl

theorem outcome_readUnion_of_endsAt {b : Branch} (hb : outcome (readBranch ts) = .ok (b, rest))
    (ends : Phrase.union.EndsAt rest) : outcome (readUnion ts) = .ok ([b], rest) := by
  rw [outcome_readUnion, hb]
  cases rest with
  | nil => rfl
  | cons t rest =>
    cases t with
    | pipe => exact absurd ends (Phrase.EndsAt.not_cons fun d hd => by cases hd; decide)
    | _ => rfl

/-- Behind a conjunction no operand follows if a disjunction may go on. -/
theorem outcome_readMoreAnd_of_endsAt {f : Filter} (h : Phrase.disjunction.EndsAt rest) :
    outcome (readMoreAnd f rest) = .ok (f, rest) := by
  rw [outcome_readMoreAnd]
  cases rest with
  | nil => rfl
  | cons t rest =>
    cases t with
    | name n =>
      have notAnd : n ≠ "and" := by
        rintro rfl
        exact absurd h (Phrase.EndsAt.not_cons fun d hd => by cases hd; decide)
      simp only [if_neg notAnd]
    | _ => rfl

/-- A union on its own is compared with nothing. -/
theorem compared_of_endsAt {union : List Branch} (h : Phrase.unary.EndsAt rest) :
    compared union rest = .ok (.exists union, rest) := by
  cases rest with
  | nil => rfl
  | cons t rest =>
    cases t with
    | comparison c => exact absurd h (Phrase.EndsAt.not_cons fun d hd => by cases hd; decide)
    | _ => rfl

/-- A test and the filters behind it are a tested step on any axis. -/
theorem outcome_readTested_of_reads {axis : Axis} {mid : List Token} {test : NodeTest}
    {filters : List Filter} (ht : outcome (readTest ts) = .ok (test, mid))
    (hf : outcome (readFilters mid) = .ok (filters, rest)) :
    outcome (readTested axis ts) = .ok (⟨axis, test, filters⟩, rest) := by
  rw [outcome_readTested, ht]
  simp only [Except.bind, hf, Except.map]

/-- Filters start with a bracket, if there are any. -/
theorem Derives.endsAt_filters {filters : List Filter} (h : Derives .filters ts filters rest)
    (ends : Phrase.filters.EndsAt rest) : Phrase.test.EndsAt ts := by
  cases h with
  | noFilter => exact ends.mono (by decide)
  | filter _ _ => exact .cons rfl (by decide)

/-- Behind a test no axis is named. -/
theorem outcome_readStep_of_test {mid : List Token} {test : NodeTest}
    (h : Derives .test ts test mid) (ends : Phrase.test.EndsAt mid) :
    outcome (readStep ts) = outcome (readTested .child ts) := by
  rw [outcome_readStep]
  cases h with
  | name =>
    cases mid with
    | nil => rfl
    | cons t rest =>
      cases t with
      | colonColon => exact absurd ends (Phrase.EndsAt.not_cons fun d hd => by cases hd)
      | _ => rfl
  | wildcard => rfl
  | text => rfl
  | anyNode => rfl

/-- **What the grammar derives is read**, if it ends where its phrase may end. -/
theorem Derives.reads {x : Phrase} {v : x.Value} (h : Derives x ts v rest) :
    x.EndsAt rest → Reads x ts v rest := by
  induction h with
  | @single ts rest b _ ih =>
    intro ends
    have hb : outcome (readBranch ts) = .ok (b, rest) := ih (ends.mono (by decide))
    exact outcome_readUnion_of_endsAt hb ends
  | @alternative ts mid rest b more _ _ ihb ihu =>
    intro ends
    have hb : outcome (readBranch ts) = .ok (b, .pipe :: mid) := ihb (.cons rfl (by decide))
    have hu : outcome (readUnion mid) = .ok (more, rest) := ihu ends
    rw [Reads, outcome_readUnion, hb]
    simp only [Except.bind, hu, Except.map]
  | @root rest hstart =>
    intro _
    rw [Reads, outcome_readBranch]
    simp only [hstart, Bool.false_eq_true, if_false]
  | @absolute ts rest steps hsteps ih =>
    intro ends
    have hs : outcome (readSteps ts) = .ok (steps, rest) := ih (ends.mono (by decide))
    rw [Reads, outcome_readBranch]
    simp only [hsteps.startsStep_of_steps, if_true, hs, Except.map]
  | @anywhere ts rest steps _ ih =>
    intro ends
    have hs : outcome (readSteps ts) = .ok (steps, rest) := ih (ends.mono (by decide))
    rw [Reads, outcome_readBranch]
    simp only [hs, Except.map]
  | @relative ts rest steps hsteps ih =>
    intro ends
    have hs : outcome (readSteps ts) = .ok (steps, rest) := ih (ends.mono (by decide))
    have start := hsteps.startsStep_of_steps
    rw [Reads, outcome_readBranch]
    split
    · cases start
    · cases start
    · rw [hs]
      rfl
  | @last ts rest s _ ih =>
    intro ends
    have hs : outcome (readStep ts) = .ok (s, rest) := ih (ends.mono (by decide))
    exact outcome_readSteps_of_endsAt hs ends
  | @next ts mid rest s more _ _ ihs ihm =>
    intro ends
    have hs : outcome (readStep ts) = .ok (s, .slash :: mid) := ihs (.cons rfl (by decide))
    have hm : outcome (readSteps mid) = .ok (more, rest) := ihm ends
    rw [Reads, outcome_readSteps, hs]
    simp only [Except.bind, hm, Except.map]
  | @nextBelow ts mid rest s more _ _ ihs ihm =>
    intro ends
    have hs : outcome (readStep ts) = .ok (s, .doubleSlash :: mid) := ihs (.cons rfl (by decide))
    have hm : outcome (readSteps mid) = .ok (more, rest) := ihm ends
    rw [Reads, outcome_readSteps, hs]
    simp only [Except.bind, hm, Except.map]
  | here =>
    intro _
    rw [Reads, outcome_readStep]
  | up =>
    intro _
    rw [Reads, outcome_readStep]
  | @atSign ts mid rest test filters _ hf iht ihf =>
    intro ends
    have ht : outcome (readTest ts) = .ok (test, mid) := iht (hf.endsAt_filters ends)
    rw [Reads, outcome_readStep]
    exact outcome_readTested_of_reads ht (ihf ends)
  | @axis axis ts mid rest test filters _ hf iht ihf =>
    intro ends
    have ht : outcome (readTest ts) = .ok (test, mid) := iht (hf.endsAt_filters ends)
    rw [Reads, outcome_readStep]
    simp only [axis.ofName?_name]
    exact outcome_readTested_of_reads ht (ihf ends)
  | @child ts mid rest test filters htest hf iht ihf =>
    intro ends
    have behind := hf.endsAt_filters ends
    have ht : outcome (readTest ts) = .ok (test, mid) := iht behind
    rw [Reads, outcome_readStep_of_test htest behind]
    exact outcome_readTested_of_reads ht (ihf ends)
  | @name n rest =>
    intro ends
    exact outcome_readTest_of_endsAt ends
  | wildcard =>
    intro _
    rw [Reads, outcome_readTest]
  | text =>
    intro _
    rw [Reads, outcome_readTest]
    rfl
  | anyNode =>
    intro _
    rw [Reads, outcome_readTest]
    rfl
  | @noFilter rest =>
    intro ends
    exact outcome_readFilters_of_endsAt ends
  | @filter ts mid rest f more _ _ ihf ihm =>
    intro ends
    have hf : outcome (readDisjunction ts) = .ok (f, .closeBracket :: mid) :=
      (ihf (.cons rfl (by decide))).trans (outcome_readMoreOr _ _)
    have hm : outcome (readFilters mid) = .ok (more, rest) := ihm ends
    rw [Reads, outcome_readFilters]
    simp only [hf, Except.bind, hm, Except.map]
  | @noOr ts rest f _ ih =>
    intro ends
    have hf : outcome (readConjunction ts) = outcome (readMoreAnd f rest) :=
      ih (ends.mono (by decide))
    rw [Reads, outcome_readDisjunction, hf, outcome_readMoreAnd_of_endsAt ends]
    rfl
  | @or ts mid rest left right _ _ ihl ihr =>
    intro ends
    have hl : outcome (readDisjunction ts) = outcome (readMoreOr left (.name "or" :: mid)) :=
      ihl (.cons rfl (by decide))
    have hr : outcome (readConjunction mid) = outcome (readMoreAnd right rest) :=
      ihr (ends.mono (by decide))
    rw [Reads, hl, outcome_readMoreOr]
    simp only [if_true, hr, outcome_readMoreAnd_of_endsAt ends, Except.bind]
  | @noAnd ts rest f _ ih =>
    intro ends
    have hf : outcome (readUnary ts) = .ok (f, rest) := ih ends
    rw [Reads, outcome_readConjunction, hf]
    rfl
  | @and ts mid rest left right _ _ ihl ihr =>
    intro ends
    have hl : outcome (readConjunction ts) = outcome (readMoreAnd left (.name "and" :: mid)) :=
      ihl (.cons rfl (by decide))
    have hr : outcome (readUnary mid) = .ok (right, rest) := ihr ends
    rw [Reads, hl, outcome_readMoreAnd]
    simp only [if_true, hr, Except.bind]
  | @not ts rest f _ ih =>
    intro _
    have hf : outcome (readDisjunction ts) = .ok (f, .closeParenthesis :: rest) :=
      (ih (.cons rfl (by decide))).trans (outcome_readMoreOr _ _)
    rw [Reads, outcome_readUnary]
    simp only [if_true, hf, Except.bind, outcome_readClose]
  | @count ts rest union c value _ ih =>
    intro _
    have hu : outcome (readUnion ts) =
        .ok (union, .closeParenthesis :: .comparison c :: .number value :: rest) :=
      ih (.cons rfl (by decide))
    rw [Reads, outcome_readUnary]
    simp only [if_neg (show "count" ≠ "not" by decide), if_true, hu, Except.bind,
      outcome_readClose, countCompared]
  | @parentheses ts rest f _ ih =>
    intro _
    have hf : outcome (readDisjunction ts) = .ok (f, .closeParenthesis :: rest) :=
      (ih (.cons rfl (by decide))).trans (outcome_readMoreOr _ _)
    rw [Reads, outcome_readUnary]
    simp only [hf, Except.bind, outcome_readClose]
  | @position n rest hn =>
    intro _
    rw [Reads, outcome_readUnary]
    simp only [if_neg (Int.not_lt.mpr hn)]
  | @notCompared ts rest union _ ih =>
    intro ends
    have hu : outcome (readUnion ts) = .ok (union, rest) := ih (ends.mono (by decide))
    rw [Reads, outcome_readUnary_of_readUnion hu, outcome_readCompared, hu]
    exact compared_of_endsAt ends
  | @compareText ts rest union c value _ hc ih =>
    intro _
    have hu : outcome (readUnion ts) = .ok (union, .comparison c :: .literal value :: rest) :=
      ih (.cons rfl (by decide))
    rw [Reads, outcome_readUnary_of_readUnion hu, outcome_readCompared, hu]
    simp only [Except.bind, compared, hc, if_true]
  | @compareNumber ts rest union c value _ ih =>
    intro _
    have hu : outcome (readUnion ts) = .ok (union, .comparison c :: .number value :: rest) :=
      ih (.cons rfl (by decide))
    rw [Reads, outcome_readUnary_of_readUnion hu, outcome_readCompared, hu]
    rfl

/-! ## 2. What is read is derived -/

theorem eq_of_readClose {α : Type} {v v' : α} (h : outcome (readClose v ts) = .ok (v', rest)) :
    ts = .closeParenthesis :: rest ∧ v' = v := by
  rw [outcome_readClose] at h
  split at h
  · cases h
    exact ⟨rfl, rfl⟩
  · cases h

theorem readTest_sound {test : NodeTest} (h : outcome (readTest ts) = .ok (test, rest)) :
    Derives .test ts test rest := by
  rw [outcome_readTest] at h
  split at h
  · cases h
    exact .wildcard
  · split at h
    · rename_i htext
      obtain ⟨rfl, rfl⟩ := eq_of_readClose h
      exact htext ▸ .text
    · split at h
      · rename_i hnode
        obtain ⟨rfl, rfl⟩ := eq_of_readClose h
        exact hnode ▸ .anyNode
      · cases h
  · cases h
    exact .name
  · cases h

theorem compared_sound {mid : List Token} {union : List Branch} {f : Filter}
    (hu : Derives .union ts union mid) (h : compared union mid = .ok (f, rest)) :
    Derives .unary ts f rest := by
  unfold compared at h
  split at h
  · split at h
    · rename_i hc
      cases h
      exact .compareText hu hc
    · cases h
  · cases h
    exact .compareNumber hu
  · cases h
  · cases h
    exact .notCompared hu

theorem countCompared_sound {mid : List Token} {union : List Branch} {f : Filter}
    (hu : Derives .union ts union (.closeParenthesis :: mid))
    (h : countCompared union mid = .ok (f, rest)) :
    Derives .unary (.name "count" :: .openParenthesis :: ts) f rest := by
  unfold countCompared at h
  split at h
  · cases h
    exact .count hu
  · cases h
  · cases h

/-- What is read of these tokens is derived, whatever phrase they are read as. Further operands
    turn the disjunction or conjunction read so far into a longer one. -/
structure Sound (ts : List Token) : Prop where
  union : ∀ {union rest}, outcome (readUnion ts) = .ok (union, rest) →
    Derives .union ts union rest
  steps : ∀ {steps rest}, outcome (readSteps ts) = .ok (steps, rest) →
    Derives .steps ts steps rest
  filters : ∀ {filters rest}, outcome (readFilters ts) = .ok (filters, rest) →
    Derives .filters ts filters rest
  disjunction : ∀ {f rest}, outcome (readDisjunction ts) = .ok (f, rest) →
    Derives .disjunction ts f rest
  moreOr : ∀ {start left f rest}, Derives .disjunction start left ts →
    outcome (readMoreOr left ts) = .ok (f, rest) → Derives .disjunction start f rest
  conjunction : ∀ {f rest}, outcome (readConjunction ts) = .ok (f, rest) →
    Derives .conjunction ts f rest
  moreAnd : ∀ {start left f rest}, Derives .conjunction start left ts →
    outcome (readMoreAnd left ts) = .ok (f, rest) → Derives .conjunction start f rest
  unary : ∀ {f rest}, outcome (readUnary ts) = .ok (f, rest) → Derives .unary ts f rest

section

-- whatever is shorter is sound already
variable (shorter : ∀ us : List Token, us.length < ts.length → Sound us)

include shorter

theorem readTested_sound {axis : Axis} {s : Step}
    (h : outcome (readTested axis ts) = .ok (s, rest)) :
    ∃ mid test filters, Derives .test ts test mid ∧ Derives .filters mid filters rest ∧
      s = ⟨axis, test, filters⟩ := by
  rw [outcome_readTested] at h
  obtain ⟨⟨test, mid⟩, ht, h⟩ := bind_eq_ok.mp h
  obtain ⟨⟨filters, rest⟩, hf, h⟩ := map_eq_ok.mp h
  cases h
  exact ⟨mid, test, filters, readTest_sound ht, (shorter mid (length_lt_of_outcome ht)).filters hf,
    rfl⟩

theorem readStep_sound {s : Step} (h : outcome (readStep ts) = .ok (s, rest)) :
    Derives .step ts s rest := by
  rw [outcome_readStep] at h
  split at h
  · cases h
    exact .here
  · cases h
    exact .up
  · obtain ⟨mid, test, filters, ht, hf, rfl⟩ := readTested_sound
      (fun us hus => shorter us (Nat.lt_succ_of_lt hus)) h
    exact .atSign ht hf
  · split at h
    · rename_i named
      obtain ⟨mid, test, filters, ht, hf, rfl⟩ := readTested_sound
        (fun us hus => shorter us (Nat.lt_succ_of_lt (Nat.lt_succ_of_lt hus))) h
      exact Axis.name_of_ofName? named ▸ .axis ht hf
    · cases h
  · obtain ⟨mid, test, filters, ht, hf, rfl⟩ := readTested_sound shorter h
    exact .child ht hf

theorem readSteps_sound {steps : List Step} (h : outcome (readSteps ts) = .ok (steps, rest)) :
    Derives .steps ts steps rest := by
  rw [outcome_readSteps] at h
  obtain ⟨⟨s, mid⟩, hs, h⟩ := bind_eq_ok.mp h
  have short := length_lt_of_outcome hs
  have step := readStep_sound shorter hs
  simp only at h
  split at h
  · obtain ⟨⟨more, rest⟩, hm, h⟩ := map_eq_ok.mp h
    cases h
    exact .next step ((shorter _ (Nat.lt_of_succ_lt short)).steps hm)
  · obtain ⟨⟨more, rest⟩, hm, h⟩ := map_eq_ok.mp h
    cases h
    exact .nextBelow step ((shorter _ (Nat.lt_of_succ_lt short)).steps hm)
  · cases h
    exact .last step

theorem readBranch_sound {b : Branch} (h : outcome (readBranch ts) = .ok (b, rest)) :
    Derives .branch ts b rest := by
  rw [outcome_readBranch] at h
  split at h
  · split at h
    · obtain ⟨⟨steps, rest⟩, hs, h⟩ := map_eq_ok.mp h
      cases h
      exact .absolute ((shorter _ (Nat.lt_succ_self _)).steps hs)
    · rename_i start
      cases h
      exact .root (Bool.not_eq_true _ ▸ start)
  · obtain ⟨⟨steps, rest⟩, hs, h⟩ := map_eq_ok.mp h
    cases h
    exact .anywhere ((shorter _ (Nat.lt_succ_self _)).steps hs)
  · obtain ⟨⟨steps, rest⟩, hs, h⟩ := map_eq_ok.mp h
    cases h
    exact .relative (readSteps_sound shorter hs)

theorem readUnion_sound {union : List Branch}
    (h : outcome (readUnion ts) = .ok (union, rest)) : Derives .union ts union rest := by
  rw [outcome_readUnion] at h
  obtain ⟨⟨b, mid⟩, hb, h⟩ := bind_eq_ok.mp h
  have short := length_lt_of_outcome hb
  have branch := readBranch_sound shorter hb
  simp only at h
  split at h
  · obtain ⟨⟨more, rest⟩, hm, h⟩ := map_eq_ok.mp h
    cases h
    exact .alternative branch ((shorter _ (Nat.lt_of_succ_lt short)).union hm)
  · cases h
    exact .single branch

theorem readFilters_sound {filters : List Filter}
    (h : outcome (readFilters ts) = .ok (filters, rest)) : Derives .filters ts filters rest := by
  rw [outcome_readFilters] at h
  split at h
  · obtain ⟨⟨f, mid⟩, hf, h⟩ := bind_eq_ok.mp h
    have short := length_lt_of_outcome hf
    have first := (shorter _ (Nat.lt_succ_self _)).disjunction hf
    simp only at h
    split at h
    · obtain ⟨⟨more, rest⟩, hm, h⟩ := map_eq_ok.mp h
      cases h
      exact .filter first
        ((shorter _ (Nat.lt_succ_of_lt (Nat.lt_of_succ_lt short))).filters hm)
    · cases h
  · cases h
    exact .noFilter

theorem readUnary_sound {f : Filter} (h : outcome (readUnary ts) = .ok (f, rest)) :
    Derives .unary ts f rest := by
  have asCompared : outcome (readCompared ts) = .ok (f, rest) → Derives .unary ts f rest := by
    intro h
    rw [outcome_readCompared] at h
    obtain ⟨⟨union, mid⟩, hu, h⟩ := bind_eq_ok.mp h
    exact compared_sound (readUnion_sound shorter hu) h
  rw [outcome_readUnary] at h
  split at h
  · have within := shorter _ (Nat.lt_succ_of_lt (Nat.lt_succ_self _))
    split at h
    · rename_i hn
      obtain ⟨⟨inner, mid⟩, hi, h⟩ := bind_eq_ok.mp h
      obtain ⟨rfl, rfl⟩ := eq_of_readClose h
      exact hn ▸ .not (within.disjunction hi)
    · split at h
      · rename_i hn
        obtain ⟨⟨union, mid⟩, hu, h⟩ := bind_eq_ok.mp h
        obtain ⟨⟨union', behind⟩, hc, h⟩ := bind_eq_ok.mp h
        obtain ⟨rfl, rfl⟩ := eq_of_readClose hc
        exact hn ▸ countCompared_sound (within.union hu) h
      · split at h
        · exact asCompared h
        · cases h
  · obtain ⟨⟨inner, mid⟩, hi, h⟩ := bind_eq_ok.mp h
    obtain ⟨rfl, rfl⟩ := eq_of_readClose h
    exact .parentheses ((shorter _ (Nat.lt_succ_self _)).disjunction hi)
  · split at h
    · cases h
    · rename_i hn
      cases h
      exact .position (Int.not_lt.mp hn)
  · cases h
  · exact asCompared h

theorem readMoreAnd_sound {start : List Token} {left f : Filter}
    (hl : Derives .conjunction start left ts) (h : outcome (readMoreAnd left ts) = .ok (f, rest)) :
    Derives .conjunction start f rest := by
  rw [outcome_readMoreAnd] at h
  split at h
  · split at h
    · rename_i hn
      obtain ⟨⟨right, mid⟩, hr, h⟩ := bind_eq_ok.mp h
      have operand := (shorter _ (Nat.lt_succ_self _)).unary hr
      rw [hn] at hl
      exact (shorter _ (Nat.lt_succ_of_lt (length_lt_of_outcome hr))).moreAnd (.and hl operand) h
    · cases h
      exact hl
  · cases h
    exact hl

theorem readConjunction_sound {f : Filter} (h : outcome (readConjunction ts) = .ok (f, rest)) :
    Derives .conjunction ts f rest := by
  rw [outcome_readConjunction] at h
  obtain ⟨⟨first, mid⟩, hf, h⟩ := bind_eq_ok.mp h
  exact (shorter mid (length_lt_of_outcome hf)).moreAnd (.noAnd (readUnary_sound shorter hf)) h

theorem readMoreOr_sound {start : List Token} {left f : Filter}
    (hl : Derives .disjunction start left ts) (h : outcome (readMoreOr left ts) = .ok (f, rest)) :
    Derives .disjunction start f rest := by
  rw [outcome_readMoreOr] at h
  split at h
  · split at h
    · rename_i hn
      obtain ⟨⟨right, mid⟩, hr, h⟩ := bind_eq_ok.mp h
      have operand := (shorter _ (Nat.lt_succ_self _)).conjunction hr
      rw [hn] at hl
      exact (shorter _ (Nat.lt_succ_of_lt (length_lt_of_outcome hr))).moreOr (.or hl operand) h
    · cases h
      exact hl
  · cases h
    exact hl

theorem readDisjunction_sound {f : Filter} (h : outcome (readDisjunction ts) = .ok (f, rest)) :
    Derives .disjunction ts f rest := by
  rw [outcome_readDisjunction] at h
  obtain ⟨⟨first, mid⟩, hf, h⟩ := bind_eq_ok.mp h
  exact (shorter mid (length_lt_of_outcome hf)).moreOr (.noOr (readConjunction_sound shorter hf)) h

end

/-- **What is read is derived**, by induction on the number of tokens. -/
theorem sound (ts : List Token) : Sound ts := by
  induction h : ts.length using Nat.strongRecOn generalizing ts with
  | ind n ih =>
    have shorter : ∀ us : List Token, us.length < ts.length → Sound us :=
      fun us hus => ih us.length (h ▸ hus) us rfl
    exact {
      union := readUnion_sound shorter
      steps := readSteps_sound shorter
      filters := readFilters_sound shorter
      disjunction := readDisjunction_sound shorter
      moreOr := readMoreOr_sound shorter
      conjunction := readConjunction_sound shorter
      moreAnd := readMoreAnd_sound shorter
      unary := readUnary_sound shorter }

/-! ## 3. Whole expressions -/

/-- **The tokens of an expression write one tree.** -/
theorem derives_unique {union union' : List Branch} (h : Derives .union ts union [])
    (h' : Derives .union ts union' []) : union = union' := by
  have read : outcome (readUnion ts) = .ok (union, []) := h.reads .nil
  have read' : outcome (readUnion ts) = .ok (union', []) := h'.reads .nil
  rw [read] at read'
  cases read'
  rfl

/-- A union that has to be all there is. -/
def whole (union : List Branch) : List Token → Except Stuck (List Branch)
  | [] => .ok union
  | rest => .error ⟨.trailingInput, rest⟩

theorem readAll_eq (ts : List Token) :
    readAll ts = (outcome (readUnion ts)).bind fun (union, rest) => whole union rest := by
  rw [readAll]
  cases readUnion ts with
  | error stuck => rfl
  | ok r =>
    obtain ⟨union, rest, short⟩ := r
    cases rest <;> rfl

/-- **All tokens are read as what they derive.** -/
theorem readAll_eq_ok_iff {union : List Branch} :
    readAll ts = .ok union ↔ Derives .union ts union [] := by
  rw [readAll_eq]
  constructor
  · intro h
    obtain ⟨⟨union, rest⟩, hu, h⟩ := bind_eq_ok.mp h
    cases rest with
    | nil =>
      cases h
      exact (sound ts).union hu
    | cons t rest => cases h
  · intro h
    have read : outcome (readUnion ts) = .ok (union, []) := h.reads .nil
    rw [read]
    rfl

/-- A text is compiled if it has tokens and all of them are read. -/
theorem Expr.compile_eq_ok_iff {source : String} {x : Expr} :
    Expr.compile source = .ok x ↔ x.source = source ∧
      ∃ ts, tokens source.toList = .ok ts ∧ readAll (ts.map (·.token)) = .ok x.union := by
  rw [Expr.compile]
  cases tokens source.toList with
  | error stuck => simp
  | ok ts =>
    obtain ⟨own, union⟩ := x
    simp only [Except.ok.injEq, exists_eq_left']
    cases readAll (ts.map (·.token)) with
    | error stuck => simp
    | ok read =>
      simp only [Except.ok.injEq, Expr.mk.injEq]
      exact and_congr_left fun _ => eq_comm

theorem Expr.kind_of_compile {source : String} {err : ConfigError}
    (h : Expr.compile source = .error err) : err.kind = .unsupportedExpression := by
  rw [Expr.compile] at h
  simp only at h
  split at h
  · cases h
    rfl
  · split at h
    · cases h
      rfl
    · cases h

/-- **Compiling accepts exactly the grammar and builds the tree it derives.** A text is compiled if
    and only if it has tokens and all of them derive a union, which then is the only one; whatever
    else is an unsupported expression. The grammar looks ahead once, for whether a step can start,
    and it can with the tokens that the grammar derives some step from. -/
theorem Expr.compile_follows_grammar (source : String) :
    (∀ x, Expr.compile source = .ok x ↔ x.source = source ∧
      ∃ ts, tokens source.toList = .ok ts ∧ Derives .union (ts.map (·.token)) x.union []) ∧
    (∀ ts union union', tokens source.toList = .ok ts →
      Derives .union (ts.map (·.token)) union [] → Derives .union (ts.map (·.token)) union' [] →
        union = union') ∧
    ((¬ ∃ ts union, tokens source.toList = .ok ts ∧
      Derives .union (ts.map (·.token)) union []) →
        ∃ err, Expr.compile source = .error err ∧ err.kind = .unsupportedExpression) ∧
    ∀ ts, startsStep ts = true ↔
      ∃ t us s rest, ts.head? = some t ∧ Derives .step (t :: us) s rest := by
  have accepted : ∀ x, Expr.compile source = .ok x ↔ x.source = source ∧
      ∃ ts, tokens source.toList = .ok ts ∧ Derives .union (ts.map (·.token)) x.union [] := by
    intro x
    simp only [Expr.compile_eq_ok_iff, readAll_eq_ok_iff]
  refine ⟨accepted, fun ts union union' _ => derives_unique, fun underivable => ?_,
    fun ts => startsStep_iff_derives⟩
  cases h : Expr.compile source with
  | error err => exact ⟨err, rfl, Expr.kind_of_compile h⟩
  | ok x =>
    obtain ⟨_, ts, hts, derived⟩ := (accepted x).mp h
    exact absurd ⟨ts, x.union, hts, derived⟩ underivable

end MarkupRules.Path
