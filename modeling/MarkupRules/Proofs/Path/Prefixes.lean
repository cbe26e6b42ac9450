import MarkupRules.Proofs.Path.Spacing

/-!
# Where reading gets stuck

The reading functions go through the tokens once, from the left. What they have read when they get
stuck is the beginning of some expression, so the first token that is left is blamed, or the end of
the text. There is one exception: a position below one is read before it is blamed.

* `Phrase.Opens` -- tokens that a few more make a phrase of;
* `Stuck.ReadToo` -- what is read of the tokens to blame;
* `stalls` -- **what is read in front of the tokens to blame can be completed**;
* `Viable` -- what an expression that is compiled starts with;
* `Expr.offset_of_blame` -- the same for texts and offsets.
-/

namespace MarkupRules.Path

variable {x y : Phrase} {ts rest : List Token} {stuck : Stuck}

/-! ## 1. Phrases to be completed -/

/-- The tokens that complete a phrase. -/
def closing : List Token :=
  [.star, .closeBracket, .closeParenthesis, .comparison .eq, .number 1]

/-- Closing tokens make a phrase of these, whatever stands behind. -/
def Phrase.Opens (x : Phrase) (us : List Token) : Prop :=
  ∃ more ⊆ closing, ∀ tail, ∃ v, Derives x (us ++ (more ++ tail)) v tail

/-- What is read of the tokens to blame: nothing, but for a position below one, which is blamed
    behind its number. -/
def Stuck.ReadToo (stuck : Stuck) (extra : List Token) : Prop :=
  if stuck.problem = .positionBelowOne then ∃ n : Int, n < 1 ∧ extra = [.number n] else extra = []

/-- What is in front of the tokens to blame can be completed to the phrase. -/
def Phrase.StuckIn (x : Phrase) (ts : List Token) (stuck : Stuck) : Prop :=
  ∃ us extra, ts = us ++ (extra ++ stuck.rest) ∧ x.Opens us ∧ stuck.ReadToo extra

/-- The tokens left are to blame. -/
theorem Phrase.StuckIn.here {problem : Problem} (own : problem ≠ .positionBelowOne)
    (us more : List Token) (closes : more ⊆ closing)
    (completes : ∀ tail, ∃ v, Derives x (us ++ (more ++ tail)) v tail) :
    x.StuckIn (us ++ rest) ⟨problem, rest⟩ :=
  ⟨us, [], rfl, ⟨more, closes, completes⟩, by rw [Stuck.ReadToo, if_neg own]⟩

/-- **What is stuck in a part is stuck in the whole**, if closing tokens complete it behind the
    part. -/
theorem Phrase.StuckIn.inside (before behind : List Token) (closes : behind ⊆ closing)
    (part : ∀ {ts v tail}, Derives x ts v (behind ++ tail) → ∃ w, Derives y (before ++ ts) w tail)
    (h : x.StuckIn ts stuck) : y.StuckIn (before ++ ts) stuck := by
  obtain ⟨us, extra, rfl, ⟨more, few, completes⟩, own⟩ := h
  refine ⟨before ++ us, extra, (List.append_assoc ..).symm,
    ⟨more ++ behind, List.append_subset.mpr ⟨few, closes⟩, fun tail => ?_⟩, own⟩
  obtain ⟨v, derived⟩ := completes (behind ++ tail)
  rw [List.append_assoc, List.append_assoc]
  exact part derived

/-- The last part is stuck behind a token. -/
theorem Phrase.StuckIn.behind (front : List Token) (t : Token)
    (part : ∀ {ts v tail}, Derives x ts v tail → ∃ w, Derives y (front ++ t :: ts) w tail)
    (h : x.StuckIn rest stuck) : y.StuckIn (front ++ t :: rest) stuck := by
  rw [List.append_cons]
  refine h.inside (front ++ [t]) [] (List.nil_subset _) fun {ts v tail} derived => ?_
  rw [← List.append_cons]
  exact part derived

/-! ## 2. What is read before getting stuck -/

theorem stuck_of_readClose {α : Type} {v : α} (h : outcome (readClose v ts) = .error stuck) :
    stuck = ⟨.expectedParenthesis, ts⟩ := by
  rw [outcome_readClose] at h
  split at h
  · cases h
  · cases h
    rfl

/-- Behind a comparison, a number is always an operand. -/
theorem stuck_of_compared {mid : List Token} {union : List Branch}
    (h : compared union mid = .error stuck) :
    ∃ c, mid = .comparison c :: stuck.rest ∧ stuck.problem ≠ .positionBelowOne := by
  unfold compared at h
  split at h
  · split at h
    · cases h
    · cases h
      exact ⟨_, rfl, nofun⟩
  · cases h
  · cases h
    exact ⟨_, rfl, nofun⟩
  · cases h

theorem stuck_of_countCompared {mid : List Token} {union : List Branch}
    (h : countCompared union mid = .error stuck) :
    (mid = stuck.rest ∨ ∃ c, mid = .comparison c :: stuck.rest) ∧
      stuck.problem ≠ .positionBelowOne := by
  unfold countCompared at h
  split at h
  · cases h
  · cases h
    exact ⟨.inr ⟨_, rfl⟩, nofun⟩
  · cases h
    exact ⟨.inl rfl, nofun⟩

/-- A test never looks ahead. -/
theorem Derives.exists_front_test {test : NodeTest} (h : Derives .test ts test rest) :
    ∃ front, ts = front ++ rest ∧ ∀ anew, Derives .test (front ++ anew) test anew := by
  cases h with
  | @name n => exact ⟨[.name n], rfl, fun _ => .name⟩
  | wildcard => exact ⟨[.star], rfl, fun _ => .wildcard⟩
  | text => exact ⟨[_, _, _], rfl, fun _ => .text⟩
  | anyNode => exact ⟨[_, _, _], rfl, fun _ => .anyNode⟩

theorem readTest_stuck (h : outcome (readTest ts) = .error stuck) :
    Phrase.test.StuckIn ts stuck := by
  rw [outcome_readTest] at h
  split at h
  · cases h
  · split at h
    · rename_i named
      rw [stuck_of_readClose h, named]
      exact .here (by decide) [.name "text", .openParenthesis] [.closeParenthesis] (by decide)
        fun _ => ⟨_, .text⟩
    · split at h
      · rename_i named
        rw [stuck_of_readClose h, named]
        exact .here (by decide) [.name "node", .openParenthesis] [.closeParenthesis] (by decide)
          fun _ => ⟨_, .anyNode⟩
      · cases h
        exact .here (by simp) [] [.star] (by decide) fun _ => ⟨_, .wildcard⟩
  · cases h
  · cases h
    exact .here (by decide) [] [.star] (by decide) fun _ => ⟨_, .wildcard⟩

/-- What is in front of the tokens to blame can be completed, whatever phrase is read. Of a
    disjunction or conjunction a part is read already. -/
structure Stalls (ts : List Token) : Prop where
  union : ∀ {stuck}, outcome (readUnion ts) = .error stuck → Phrase.union.StuckIn ts stuck
  steps : ∀ {stuck}, outcome (readSteps ts) = .error stuck → Phrase.steps.StuckIn ts stuck
  filters : ∀ {stuck}, outcome (readFilters ts) = .error stuck → Phrase.filters.StuckIn ts stuck
  disjunction : ∀ {stuck}, outcome (readDisjunction ts) = .error stuck →
    Phrase.disjunction.StuckIn ts stuck
  moreOr : ∀ {start left stuck}, Derives .disjunction start left ts →
    outcome (readMoreOr left ts) = .error stuck → Phrase.disjunction.StuckIn start stuck
  conjunction : ∀ {stuck}, outcome (readConjunction ts) = .error stuck →
    Phrase.conjunction.StuckIn ts stuck
  moreAnd : ∀ {start left stuck}, Derives .conjunction start left ts →
    outcome (readMoreAnd left ts) = .error stuck → Phrase.conjunction.StuckIn start stuck
  unary : ∀ {stuck}, outcome (readUnary ts) = .error stuck → Phrase.unary.StuckIn ts stuck

section

-- whatever is shorter can be completed already
variable (shorter : ∀ us : List Token, us.length < ts.length → Stalls us)

include shorter

/-- A test and its filters, behind what names their axis. -/
theorem readTested_stuck {axis : Axis} (named : List Token)
    (step : ∀ {ts mid rest test filters}, Derives .test ts test mid →
      Derives .filters mid filters rest → Derives .step (named ++ ts) ⟨axis, test, filters⟩ rest)
    (h : outcome (readTested axis ts) = .error stuck) :
    Phrase.step.StuckIn (named ++ ts) stuck := by
  rw [outcome_readTested] at h
  rcases bind_eq_error.mp h with ht | ⟨⟨test, mid⟩, ht, failed⟩
  · exact (readTest_stuck ht).inside named [] (List.nil_subset _)
      fun test => ⟨_, step test .noFilter⟩
  · have hf := map_eq_error.mp failed
    obtain ⟨front, rfl, first⟩ := (readTest_sound ht).exists_front_test
    rw [← List.append_assoc]
    refine ((shorter mid (length_lt_of_outcome ht)).filters hf).inside (named ++ front) []
      (List.nil_subset _) fun {_ _ tail} filters => ?_
    rw [List.append_assoc]
    exact ⟨_, step (first _) filters⟩

theorem readStep_stuck (h : outcome (readStep ts) = .error stuck) :
    Phrase.step.StuckIn ts stuck := by
  rw [outcome_readStep] at h
  split at h
  · cases h
  · cases h
  · exact readTested_stuck (fun us hus => shorter us (Nat.lt_succ_of_lt hus)) [.atSign] .atSign h
  · split at h
    · rename_i axis named
      cases Axis.name_of_ofName? named
      exact readTested_stuck (fun us hus => shorter us (Nat.lt_succ_of_lt (Nat.lt_succ_of_lt hus)))
        [_, .colonColon] .axis h
    · cases h
      exact .here (by simp) [] [.star] (by decide) fun _ => ⟨_, .child .wildcard .noFilter⟩
  · exact readTested_stuck shorter [] .child h

theorem readSteps_stuck (h : outcome (readSteps ts) = .error stuck) :
    Phrase.steps.StuckIn ts stuck := by
  rw [outcome_readSteps] at h
  rcases bind_eq_error.mp h with hs | ⟨⟨s, mid⟩, hs, failed⟩
  · exact (readStep_stuck shorter hs).inside [] [] (List.nil_subset _) fun step => ⟨_, .last step⟩
  have short := length_lt_of_outcome hs
  obtain ⟨front, rfl, first⟩ :=
    (readStep_sound (fun us _ => sound us) hs).exists_front
  simp only at failed
  split at failed
  · have others := (shorter _ (Nat.lt_of_succ_lt short)).steps (map_eq_error.mp failed)
    exact others.behind front .slash fun steps => ⟨_, .next (first _ fun _ => rfl) steps⟩
  · have others := (shorter _ (Nat.lt_of_succ_lt short)).steps (map_eq_error.mp failed)
    exact others.behind front .doubleSlash fun steps =>
      ⟨_, .nextBelow (first _ fun _ => rfl) steps⟩
  · cases failed

theorem readBranch_stuck (h : outcome (readBranch ts) = .error stuck) :
    Phrase.branch.StuckIn ts stuck := by
  rw [outcome_readBranch] at h
  split at h
  · split at h
    · exact ((shorter _ (Nat.lt_succ_self _)).steps (map_eq_error.mp h)).behind [] .slash
        fun steps => ⟨_, .absolute steps⟩
    · cases h
  · exact ((shorter _ (Nat.lt_succ_self _)).steps (map_eq_error.mp h)).behind [] .doubleSlash
      fun steps => ⟨_, .anywhere steps⟩
  · exact (readSteps_stuck shorter (map_eq_error.mp h)).inside [] [] (List.nil_subset _)
      fun steps => ⟨_, .relative steps⟩

theorem readUnion_stuck (h : outcome (readUnion ts) = .error stuck) :
    Phrase.union.StuckIn ts stuck := by
  rw [outcome_readUnion] at h
  rcases bind_eq_error.mp h with hb | ⟨⟨b, mid⟩, hb, failed⟩
  · exact (readBranch_stuck shorter hb).inside [] [] (List.nil_subset _)
      fun branch => ⟨_, .single branch⟩
  have short := length_lt_of_outcome hb
  obtain ⟨front, rfl, first⟩ := (readBranch_sound (fun us _ => sound us) hb).exists_front
  simp only at failed
  split at failed
  · have others := (shorter _ (Nat.lt_of_succ_lt short)).union (map_eq_error.mp failed)
    exact others.behind front .pipe fun union => ⟨_, .alternative (first _ fun _ => rfl) union⟩
  · cases failed

theorem readFilters_stuck (h : outcome (readFilters ts) = .error stuck) :
    Phrase.filters.StuckIn ts stuck := by
  rw [outcome_readFilters] at h
  split at h
  · rcases bind_eq_error.mp h with hf | ⟨⟨f, mid⟩, hf, failed⟩
    · exact ((shorter _ (Nat.lt_succ_self _)).disjunction hf).inside [.openBracket]
        [.closeBracket] (by decide) fun inner => ⟨_, .filter inner .noFilter⟩
    have short := length_lt_of_outcome hf
    obtain ⟨front, rfl, first⟩ := ((sound _).disjunction hf).exists_front
    simp only at failed
    split at failed
    · have others := (shorter _ (Nat.lt_succ_of_lt (Nat.lt_of_succ_lt short))).filters
        (map_eq_error.mp failed)
      exact others.behind (.openBracket :: front) .closeBracket fun filters =>
        ⟨_, .filter (first _ fun _ => rfl) filters⟩
    · cases failed
      refine .here (by decide) (.openBracket :: front) [.closeBracket] (by decide) fun tail => ?_
      exact ⟨_, .filter (first (.closeBracket :: tail) fun _ => rfl) .noFilter⟩
  · cases h

theorem readCompared_stuck (h : outcome (readCompared ts) = .error stuck) :
    Phrase.unary.StuckIn ts stuck := by
  rw [outcome_readCompared] at h
  rcases bind_eq_error.mp h with hu | ⟨⟨union, mid⟩, hu, failed⟩
  · exact (readUnion_stuck shorter hu).inside [] [] (List.nil_subset _)
      fun union => ⟨_, .notCompared union⟩
  obtain ⟨front, rfl, first⟩ := ((sound _).union hu).exists_front
  obtain ⟨c, rfl, own⟩ := stuck_of_compared failed
  rw [List.append_cons]
  refine .here own (front ++ [.comparison c]) [.number 1] (by decide) fun tail => ?_
  rw [← List.append_cons]
  exact ⟨_, .compareNumber (first (.comparison c :: .number 1 :: tail) fun _ => rfl)⟩

/-- A counted union has to be closed and compared with a number. -/
theorem readCount_stuck (h : (outcome (readUnion ts)).bind (fun (union, mid) =>
      (outcome (readClose union mid)).bind fun (union, behind) => countCompared union behind) =
        .error stuck) :
    Phrase.unary.StuckIn (.name "count" :: .openParenthesis :: ts) stuck := by
  rcases bind_eq_error.mp h with hu | ⟨⟨union, mid⟩, hu, failed⟩
  · exact (readUnion_stuck shorter hu).inside [.name "count", .openParenthesis]
      [.closeParenthesis, .comparison .eq, .number 1] (by decide) fun union => ⟨_, .count union⟩
  obtain ⟨front, rfl, first⟩ := ((sound _).union hu).exists_front
  have counted : ∀ c tail, ∃ v, Derives .unary (.name "count" :: .openParenthesis ::
      (front ++ .closeParenthesis :: .comparison c :: .number 1 :: tail)) v tail :=
    fun c tail => ⟨_, .count (first (.closeParenthesis :: .comparison c :: .number 1 :: tail)
      fun _ => rfl)⟩
  rcases bind_eq_error.mp failed with hc | ⟨⟨union', behind⟩, hc, failed'⟩
  · rw [stuck_of_readClose hc]
    exact .here (by decide) (.name "count" :: .openParenthesis :: front)
      [.closeParenthesis, .comparison .eq, .number 1] (by decide) (counted .eq)
  · obtain ⟨rfl, rfl⟩ := eq_of_readClose hc
    obtain ⟨rfl | ⟨c, rfl⟩, own⟩ := stuck_of_countCompared failed'
    · rw [List.append_cons]
      refine .here own (.name "count" :: .openParenthesis :: (front ++ [.closeParenthesis]))
        [.comparison .eq, .number 1] (by decide) fun tail => ?_
      simpa using counted .eq tail
    · rw [List.append_cons, List.append_cons]
      refine .here own
        (.name "count" :: .openParenthesis :: (front ++ [.closeParenthesis] ++ [.comparison c]))
        [.number 1] (by decide) fun tail => ?_
      simpa using counted c tail

theorem readUnary_stuck (h : outcome (readUnary ts) = .error stuck) :
    Phrase.unary.StuckIn ts stuck := by
  have anything : ∀ tail, ∃ v, Derives .unary (.star :: tail) v tail := fun tail =>
    ⟨_, .notCompared (.single (.relative (.last (.child .wildcard .noFilter))))⟩
  rw [outcome_readUnary] at h
  split at h
  · rename_i n rest
    have within : ∀ us : List Token, us.length < rest.length → Stalls us :=
      fun us hus => shorter us (Nat.lt_succ_of_lt (Nat.lt_succ_of_lt hus))
    split at h
    · rename_i named
      rw [named]
      rcases bind_eq_error.mp h with hi | ⟨⟨inner, mid⟩, hi, failed⟩
      · have inside := shorter rest (Nat.lt_succ_of_lt (Nat.lt_succ_self _))
        exact (inside.disjunction hi).inside [.name "not", .openParenthesis] [.closeParenthesis]
          (by decide) fun inner => ⟨_, .not inner⟩
      · obtain ⟨front, rfl, first⟩ := ((sound _).disjunction hi).exists_front
        rw [stuck_of_readClose failed]
        exact .here (by decide) (.name "not" :: .openParenthesis :: front) [.closeParenthesis]
          (by decide) fun tail => ⟨_, .not (first (.closeParenthesis :: tail) fun _ => rfl)⟩
    · split at h
      · rename_i named
        exact named ▸ readCount_stuck within h
      · split at h
        · exact readCompared_stuck shorter h
        · cases h
          exact .here (by simp) [] [.star] (by decide) anything
  · rcases bind_eq_error.mp h with hi | ⟨⟨inner, mid⟩, hi, failed⟩
    · exact ((shorter _ (Nat.lt_succ_self _)).disjunction hi).inside [.openParenthesis]
        [.closeParenthesis] (by decide) fun inner => ⟨_, .parentheses inner⟩
    · obtain ⟨front, rfl, first⟩ := ((sound _).disjunction hi).exists_front
      rw [stuck_of_readClose failed]
      exact .here (by decide) (.openParenthesis :: front) [.closeParenthesis] (by decide)
        fun tail => ⟨_, .parentheses (first (.closeParenthesis :: tail) fun _ => rfl)⟩
  · rename_i n rest
    split at h
    · rename_i low
      cases h
      -- the number is read already
      exact ⟨[], [.number n], rfl, ⟨[.star], by decide, anything⟩, n, low, rfl⟩
    · cases h
  · cases h
    exact .here (by decide) [] [.star] (by decide) anything
  · exact readCompared_stuck shorter h

theorem readMoreAnd_stuck {start : List Token} {left : Filter}
    (hl : Derives .conjunction start left ts) (h : outcome (readMoreAnd left ts) = .error stuck) :
    Phrase.conjunction.StuckIn start stuck := by
  rw [outcome_readMoreAnd] at h
  split at h
  · split at h
    · rename_i named
      rw [named] at hl
      rcases bind_eq_error.mp h with hr | ⟨⟨right, mid⟩, hr, failed⟩
      · obtain ⟨front, rfl, first⟩ := hl.exists_front
        exact ((shorter _ (Nat.lt_succ_self _)).unary hr).behind front (.name "and")
          fun {ts _ _} operand => ⟨_, .and (first (.name "and" :: ts) id) operand⟩
      · exact (shorter _ (Nat.lt_succ_of_lt (length_lt_of_outcome hr))).moreAnd
          (.and hl ((sound _).unary hr)) failed
    · cases h
  · cases h

theorem readConjunction_stuck (h : outcome (readConjunction ts) = .error stuck) :
    Phrase.conjunction.StuckIn ts stuck := by
  rw [outcome_readConjunction] at h
  rcases bind_eq_error.mp h with hf | ⟨⟨first, mid⟩, hf, failed⟩
  · exact (readUnary_stuck shorter hf).inside [] [] (List.nil_subset _)
      fun operand => ⟨_, .noAnd operand⟩
  · exact (shorter mid (length_lt_of_outcome hf)).moreAnd (.noAnd ((sound _).unary hf)) failed

theorem readMoreOr_stuck {start : List Token} {left : Filter}
    (hl : Derives .disjunction start left ts) (h : outcome (readMoreOr left ts) = .error stuck) :
    Phrase.disjunction.StuckIn start stuck := by
  rw [outcome_readMoreOr] at h
  split at h
  · split at h
    · rename_i named
      rw [named] at hl
      rcases bind_eq_error.mp h with hr | ⟨⟨right, mid⟩, hr, failed⟩
      · obtain ⟨front, rfl, first⟩ := hl.exists_front
        exact ((shorter _ (Nat.lt_succ_self _)).conjunction hr).behind front (.name "or")
          fun {ts _ _} operand => ⟨_, .or (first (.name "or" :: ts) id) operand⟩
      · exact (shorter _ (Nat.lt_succ_of_lt (length_lt_of_outcome hr))).moreOr
          (.or hl ((sound _).conjunction hr)) failed
    · cases h
  · cases h

theorem readDisjunction_stuck (h : outcome (readDisjunction ts) = .error stuck) :
    Phrase.disjunction.StuckIn ts stuck := by
  rw [outcome_readDisjunction] at h
  rcases bind_eq_error.mp h with hf | ⟨⟨first, mid⟩, hf, failed⟩
  · exact (readConjunction_stuck shorter hf).inside [] [] (List.nil_subset _)
      fun operand => ⟨_, .noOr operand⟩
  · exact (shorter mid (length_lt_of_outcome hf)).moreOr (.noOr ((sound _).conjunction hf)) failed

end

/-- **What is in front of the tokens to blame can be completed**, by induction on the number of
    tokens. -/
theorem stalls (ts : List Token) : Stalls ts := by
  induction h : ts.length using Nat.strongRecOn generalizing ts with
  | ind n ih =>
    have shorter : ∀ us : List Token, us.length < ts.length → Stalls us :=
      fun us hus => ih us.length (h ▸ hus) us rfl
    exact {
      union := readUnion_stuck shorter
      steps := readSteps_stuck shorter
      filters := readFilters_stuck shorter
      disjunction := readDisjunction_stuck shorter
      moreOr := readMoreOr_stuck shorter
      conjunction := readConjunction_stuck shorter
      moreAnd := readMoreAnd_stuck shorter
      unary := readUnary_stuck shorter }

/-- What is read of all the tokens can be completed to an expression. -/
theorem readAll_stuck (h : readAll ts = .error stuck) : ∃ us extra more union,
    ts = us ++ (extra ++ stuck.rest) ∧ stuck.ReadToo extra ∧ more ⊆ closing ∧
      Derives .union (us ++ more) union [] := by
  rw [readAll_eq] at h
  rcases bind_eq_error.mp h with hu | ⟨⟨union, rest⟩, hu, failed⟩
  · obtain ⟨us, extra, whole, ⟨more, few, completes⟩, own⟩ := (stalls ts).union hu
    obtain ⟨union, derived⟩ := completes []
    rw [List.append_nil] at derived
    exact ⟨us, extra, more, union, whole, own, few, derived⟩
  · obtain ⟨front, rfl, alone⟩ := ((sound ts).union hu).exists_front
    cases rest with
    | nil => cases failed
    | cons t rest =>
      cases failed
      have own : Stuck.ReadToo ⟨.trailingInput, t :: rest⟩ [] := by
        rw [Stuck.ReadToo, if_neg (by simp)]
      exact ⟨front, [], [], union, rfl, own, List.nil_subset _, alone [] fun _ => rfl⟩

/-! ## 3. Texts -/

/-- Some expression that is compiled starts with these tokens. -/
def Viable (us : List Token) : Prop :=
  ∃ source x placed, Expr.compile source = .ok x ∧ tokens source.toList = .ok placed ∧
    us <+: placed.map (·.token)

theorem writable_of_mem_closing : ∀ t ∈ closing, ∃ text, t.WrittenAs text := by
  have number : Token.WrittenAs (.number 1) ['1'] :=
    .number (by decide) (List.forall_mem_singleton.mpr (by decide)) (by decide)
  simp only [closing, List.forall_mem_cons]
  exact ⟨⟨_, .sign rfl⟩, ⟨_, .sign rfl⟩, ⟨_, .sign rfl⟩, ⟨_, .sign rfl⟩, ⟨_, number⟩, nofun⟩

/-- **What can be completed is what some expression starts with**, if it can be written. -/
theorem viable_of_derives {us more : List Token} {union : List Branch}
    (writable : ∀ t ∈ us, ∃ text, t.WrittenAs text) (few : more ⊆ closing)
    (derived : Derives .union (us ++ more) union []) : Viable us := by
  have all : ∀ t ∈ us ++ more, ∃ text, t.WrittenAs text := by
    intro t ht
    rcases List.mem_append.mp ht with ht | ht
    · exact writable t ht
    · exact writable_of_mem_closing t (few ht)
  obtain ⟨cs, lexes⟩ := exists_lexes all
  obtain ⟨placed, cut, same⟩ := lexes (byteLength cs)
  refine ⟨String.ofList cs, ⟨String.ofList cs, union⟩, placed, ?_, ?_,
    same ▸ List.prefix_append us more⟩
  · refine Expr.compile_of_lexes ?_ derived
    rw [String.toList_ofList]
    exact lexes
  · rw [String.toList_ofList]
    exact cut

/-- The tokens strictly in front of an offset. -/
def tokensBefore (placed : List Placed) (offset : Nat) : List Token :=
  (placed.filter (·.offset < offset)).map (·.token)

/-- The tokens in front of the offset of those that are left are those that are not left. -/
theorem tokensBefore_offsetOf {total : Nat} {front unread : List Placed}
    (ascending : (front ++ unread).Pairwise fun p q => p.offset < q.offset)
    (within : ∀ p ∈ front ++ unread, p.offset < total) :
    tokensBefore (front ++ unread) (offsetOf total unread) = front.map (·.token) := by
  obtain ⟨_, behind, apart⟩ := List.pairwise_append.mp ascending
  have kept : ∀ p ∈ front, p.offset < offsetOf total unread := by
    intro p hp
    cases unread with
    | nil => exact within p (List.mem_append_left _ hp)
    | cons q unread => exact apart p hp q List.mem_cons_self
  have left : ∀ p ∈ unread, ¬ p.offset < offsetOf total unread := by
    intro p hp
    cases unread with
    | nil => cases hp
    | cons q unread =>
      rcases List.mem_cons.mp hp with rfl | hp
      · exact Nat.lt_irrefl _
      · exact Nat.not_lt_of_gt ((List.pairwise_cons.mp behind).1 p hp)
  have first : (front ++ unread).filter (·.offset < offsetOf total unread) = front := by
    rw [List.filter_append, List.filter_eq_self.mpr fun p hp => decide_eq_true (kept p hp),
      List.filter_eq_nil_iff.mpr fun p hp => by simpa using left p hp, List.append_nil]
  rw [tokensBefore, first]

/-- **Tokens can be written and start inside the text**, one behind the other. -/
theorem ascending_of_tokens {source : String} {placed : List Placed}
    (cut : tokens source.toList = .ok placed) :
    placed.Pairwise (fun p q => p.offset < q.offset) ∧
      ∀ p ∈ placed, p.offset < byteLength source.toList ∧ ∃ text, p.token.WrittenAs text := by
  obtain ⟨parts, whole, sound, places, _⟩ := exists_parts cut (Nat.le_refl _)
  rw [Nat.sub_self] at places
  refine ⟨places ▸ (placedFrom_ascending 0 sound).2, fun p hp => ?_⟩
  obtain ⟨before, text, after, rfl, place⟩ := exists_of_mem_placedFrom (places ▸ hp)
  have own : p.token.WrittenAs text := sound (.token p.token text) (by simp)
  have wide : 0 < byteLength text := byteLength_pos own.ne_nil
  refine ⟨?_, text, own⟩
  rw [← whole, place, written, written, List.flatMap_append, List.flatMap_cons, byteLength_append,
    byteLength_append, Part.chars]
  omega

/-! ## 4. Offsets -/

/-- **The offset can be read off the message** of an expression that is not supported. -/
theorem unsupported_inj {source detail detail' : String} {offset offset' : Nat}
    (h : ConfigError.unsupported source offset detail = .unsupported source offset' detail') :
    offset = offset' ∧ detail = detail' := by
  have digits : ∀ k, ∀ c ∈ Nat.toDigits 10 k, c.isDigit = true :=
    fun k c hc => Nat.isDigit_of_mem_toDigits (by decide) (by decide) hc
  have cut : ∀ k d,
      (Nat.toDigits 10 k ++ ':' :: ' ' :: d).takeWhile Char.isDigit = Nat.toDigits 10 k ∧
      (Nat.toDigits 10 k ++ ':' :: ' ' :: d).dropWhile Char.isDigit = ':' :: ' ' :: d :=
    fun k d => takeWhile_and_dropWhile_append (digits k) (by rintro _ ⟨⟩; rfl)
  have message := congrArg (fun e : ConfigError => e.message.toList) h
  have behind : Nat.toDigits 10 offset ++ ':' :: ' ' :: detail.toList =
      Nat.toDigits 10 offset' ++ ':' :: ' ' :: detail'.toList := by
    simpa [ConfigError.unsupported, Nat.toString_eq_ofList_toDigits] using message
  constructor
  · have same := congrArg (List.takeWhile Char.isDigit) behind
    rw [(cut _ _).1, (cut _ _).1] at same
    have read := congrArg Text.readDigits same
    rw [readDigits_toDigits, readDigits_toDigits] at read
    exact Option.some.inj read
  · have same := congrArg (List.dropWhile Char.isDigit) behind
    rw [(cut _ _).2, (cut _ _).2] at same
    exact String.toList_inj.mp (List.cons.inj (List.cons.inj same).2).2

/-- **An error points at the first token that is not supported**, or at the end of the text. Of a
    text that has tokens but is not compiled, the offset in the error is the offset of a token or
    the length of the text, and some expression that is compiled starts with the tokens in front of
    it. Only a position below one is blamed behind its number, and some expression starts with the
    tokens in front of the number. -/
theorem Expr.offset_of_blame {source : String} {placed : List Placed} {err : ConfigError}
    (cut : tokens source.toList = .ok placed) (failed : Expr.compile source = .error err) :
    ∃ (offset : Nat) (problem : Problem), err = .unsupported source offset problem.detail ∧
      (∀ offset' detail, err = .unsupported source offset' detail → offset' = offset) ∧
      (offset ∈ placed.map (·.offset) ∨ offset = source.utf8ByteSize) ∧
      (problem ≠ .positionBelowOne → Viable (tokensBefore placed offset)) ∧
      (problem = .positionBelowOne → ∃ us n, n < 1 ∧
        tokensBefore placed offset = us ++ [.number n] ∧ Viable us) := by
  rw [Expr.compile] at failed
  simp only [cut] at failed
  split at failed
  case h_2 => cases failed
  rename_i stuck unread
  cases failed
  obtain ⟨us, extra, more, union, whole, own, few, derived⟩ := readAll_stuck unread
  obtain ⟨ascending, inside⟩ := ascending_of_tokens cut
  have size := congrArg List.length whole
  rw [List.length_map, List.length_append, List.length_append] at size
  have parts := List.take_append_drop (placed.length - stuck.rest.length) placed
  have before : tokensBefore placed (offsetOf (byteLength source.toList)
      (placed.drop (placed.length - stuck.rest.length))) = us ++ extra := by
    have read := tokensBefore_offsetOf (parts.symm ▸ ascending)
      fun p hp => (inside p (parts ▸ hp)).1
    rw [parts, List.map_take, whole, ← List.append_assoc] at read
    rw [read]
    exact List.take_left' (by rw [List.length_append]; omega)
  have viable : Viable us := by
    refine viable_of_derives (fun t ht => ?_) few derived
    obtain ⟨p, hp, rfl⟩ := List.mem_map.mp (whole ▸ List.mem_append_left _ ht)
    exact (inside p hp).2
  refine ⟨_, stuck.problem, rfl, fun _ _ h => (unsupported_inj h).1.symm, ?_, fun plain => ?_,
    fun low => ?_⟩
  · cases left : placed.drop (placed.length - stuck.rest.length) with
    | nil => exact .inr (by rw [offsetOf, byteLength_eq, String.ofList_toList])
    | cons p others =>
      have among : p ∈ placed := List.mem_of_mem_drop (left ▸ List.mem_cons_self)
      exact .inl (List.mem_map_of_mem among)
  · rw [Stuck.ReadToo, if_neg plain] at own
    rw [before, own, List.append_nil]
    exact viable
  · rw [Stuck.ReadToo, if_pos low] at own
    obtain ⟨n, below, rfl⟩ := own
    exact ⟨us, n, below, before, viable⟩

/-- The tokens of `a[b < 'x']`. -/
def orderedTokens : List Placed := [
  ⟨.name "a", 0⟩, ⟨.openBracket, 1⟩, ⟨.name "b", 2⟩, ⟨.comparison .lt, 4⟩, ⟨.literal "x", 6⟩,
  ⟨.closeBracket, 9⟩]

/-- The literal is blamed, for a number could stand there. -/
theorem Expr.offset_of_blame_ordered : tokens "a[b < 'x']".toList = .ok orderedTokens ∧
    Expr.compile "a[b < 'x']" =
      .error (.unsupported "a[b < 'x']" 6 Problem.orderedLiteral.detail) ∧
    ∃ (offset : Nat) (problem : Problem),
      ConfigError.unsupported "a[b < 'x']" 6 Problem.orderedLiteral.detail =
        .unsupported "a[b < 'x']" offset problem.detail ∧
      (∀ offset' detail, ConfigError.unsupported "a[b < 'x']" 6 Problem.orderedLiteral.detail =
        .unsupported "a[b < 'x']" offset' detail → offset' = offset) ∧
      (offset ∈ orderedTokens.map (·.offset) ∨ offset = "a[b < 'x']".utf8ByteSize) ∧
      (problem ≠ .positionBelowOne → Viable (tokensBefore orderedTokens offset)) ∧
      (problem = .positionBelowOne → ∃ us n, n < 1 ∧
        tokensBefore orderedTokens offset = us ++ [.number n] ∧ Viable us) := by
  have cut : tokens "a[b < 'x']".toList = .ok orderedTokens := by decide +kernel
  have failed : Expr.compile "a[b < 'x']" =
      .error (.unsupported "a[b < 'x']" 6 Problem.orderedLiteral.detail) := by
    rw [← error?_eq_some_iff]
    decide +kernel
  exact ⟨cut, failed, Expr.offset_of_blame cut failed⟩

/-- No expression starts with a position below one. -/
theorem not_viable_lowPosition : ¬ Viable [.name "a", .openBracket, .number 0] := by
  have stuck : ∀ more : List Token,
      outcome (readUnion ([.name "a", .openBracket, .number 0] ++ more)) =
        .error ⟨.positionBelowOne, more⟩ := by
    intro more
    have position : outcome (readUnary (.number 0 :: more)) = .error ⟨.positionBelowOne, more⟩ := by
      rw [outcome_readUnary]
      rfl
    have filters : outcome (readFilters (.openBracket :: .number 0 :: more)) =
        .error ⟨.positionBelowOne, more⟩ := by
      rw [outcome_readFilters]
      simp only [outcome_readDisjunction, outcome_readConjunction, position, Except.bind]
    have step : outcome (readStep (.name "a" :: .openBracket :: .number 0 :: more)) =
        .error ⟨.positionBelowOne, more⟩ := by
      rw [outcome_readStep]
      simp only [outcome_readTested, outcome_readTest, filters, Except.bind, Except.map]
    rw [outcome_readUnion, outcome_readBranch]
    simp only [List.cons_append, List.nil_append, outcome_readSteps (.name _ :: _), step,
      Except.bind, Except.map]
  rintro ⟨source, x, placed, compiled, cut, more, same⟩
  obtain ⟨_, placed', cut', read⟩ := Expr.compile_eq_ok_iff.mp compiled
  rw [cut] at cut'
  cases cut'
  rw [← same, readAll_eq, stuck] at read
  cases read

/-- A position below one is blamed behind its number: no expression starts with the tokens in
    front of the offset, the number among them. -/
theorem Expr.lowPosition_blamed_behind : ∃ placed, tokens "a[0]".toList = .ok placed ∧
    Expr.compile "a[0]" =
      .error (.unsupported "a[0]" 3 Problem.positionBelowOne.detail) ∧
    ¬ Viable (tokensBefore placed 3) := by
  refine ⟨[⟨.name "a", 0⟩, ⟨.openBracket, 1⟩, ⟨.number 0, 2⟩, ⟨.closeBracket, 3⟩], ?_, ?_,
    not_viable_lowPosition⟩
  · decide +kernel
  · rw [← error?_eq_some_iff]
    decide +kernel

end MarkupRules.Path
