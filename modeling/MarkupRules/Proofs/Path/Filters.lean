import Mathlib.Data.List.ModifyLast
import MarkupRules.Proofs.Path.Composition
import MarkupRules.Proofs.Path.Evaluation

/-!
# Filters behind an expression

Filters that are written behind an expression are filters of its last step.

* `OpenToFilters`, `TakesFilters` -- what filters can be written behind: it ends with neither `.` nor
  `..`;
* `Derives.steps_filtered` -- **filters behind steps** are filters of the last one;
* `IsCondition` -- a text that is a condition as a whole, and what it is read as;
* `BracketsRead`, `Expr.compile_filtered` -- **an expression with filters behind it is compiled**,
  the filters being the last ones of its last step;
* `Filter.RankFree` -- no rank is asked for but inside a path;
* `Branch.select_filtered` -- what the last step keeps, from each item on its own;
* `Expr.filters_narrow` -- **a filter narrows, its negation keeps the others, and two filters are
  one conjunction**.
-/

namespace MarkupRules.Path

variable {ts us ws mid rest : List Token} {more : List Filter}

/-! ## 1. Filters behind steps -/

/-- The tokens end with neither of the two steps that have no filters. -/
def OpenToFilters (ts : List Token) : Prop :=
  ∀ t ∈ ts.getLast?, t ≠ .dot ∧ t ≠ .dotDot

/-- Filters can be written behind the text: it ends with neither `.` nor `..`. -/
def TakesFilters (source : String) : Prop :=
  ∃ placed, tokens source.toList = .ok placed ∧ OpenToFilters (placed.map (·.token))

theorem OpenToFilters.of_suffix (h : OpenToFilters ts) (behind : us <:+ ts) : OpenToFilters us := by
  obtain ⟨front, rfl⟩ := behind
  intro t ht
  refine h t ?_
  rw [Option.mem_def] at ht ⊢
  rw [List.getLast?_append, ht]
  rfl

/-- The step with further filters behind its own. -/
def Step.filtered (more : List Filter) (s : Step) : Step :=
  { s with filters := s.filters ++ more }

/-- The branch with further filters behind those of its last step. -/
def Branch.filtered (more : List Filter) (b : Branch) : Branch :=
  { b with steps := b.steps.modifyLast (Step.filtered more) }

theorem modifyLast_cons {s : Step} {steps : List Step} {f : Step → Step} (h : steps ≠ []) :
    (s :: steps).modifyLast f = s :: steps.modifyLast f :=
  List.modifyLast_append_of_right_ne_nil f [s] steps h

/-- **Filters behind filters** are filters. -/
theorem Derives.filters_append (behind : Derives .filters ws more []) :
    ∀ {ts : List Token} {filters : List Filter}, Derives .filters ts filters [] →
      startsStep ws = false → Derives .filters (ts ++ ws) (filters ++ more) []
  | _, _, .noFilter, _ => behind
  | _, _, .filter inner others, apart =>
    .filter (inner.append apart) (behind.filters_append others apart)

theorem Derives.ne_nil_of_steps {steps : List Step} (h : Derives .steps ts steps rest) :
    steps ≠ [] := by
  cases h <;> exact List.cons_ne_nil _ _

theorem Derives.step_filtered {s : Step} (h : Derives .step ts s []) (isOpen : OpenToFilters ts)
    (apart : startsStep ws = false) (behind : Derives .filters ws more []) :
    Derives .step (ts ++ ws) (s.filtered more) [] := by
  cases h with
  | here => exact absurd rfl (isOpen .dot rfl).1
  | up => exact absurd rfl (isOpen .dotDot rfl).2
  | atSign test filters => exact .atSign (test.append apart) (behind.filters_append filters apart)
  | axis test filters =>
    exact .axis (test.append apart) (behind.filters_append filters apart)
  | child test filters => exact .child (test.append apart) (behind.filters_append filters apart)

/-- **Filters behind steps** are filters of the last one, by induction on the steps. -/
theorem Derives.steps_filtered (apart : startsStep ws = false) (behind : Derives .filters ws more []) :
    ∀ {ts : List Token} {steps : List Step}, OpenToFilters ts → Derives .steps ts steps [] →
      Derives .steps (ts ++ ws) (steps.modifyLast (Step.filtered more)) []
  | _, _, isOpen, .last step => .last (step.step_filtered isOpen apart behind)
  | _, _, isOpen, .next step others => by
    have inner := steps_filtered apart behind (isOpen.of_suffix (suffix_of_cons step.suffix)) others
    rw [modifyLast_cons others.ne_nil_of_steps]
    exact .next (step.append apart) inner
  | _, _, isOpen, .nextBelow step others => by
    have inner := steps_filtered apart behind (isOpen.of_suffix (suffix_of_cons step.suffix)) others
    rw [modifyLast_cons (List.cons_ne_nil _ _), modifyLast_cons others.ne_nil_of_steps]
    exact .nextBelow (step.append apart) inner

theorem Derives.branch_filtered {b : Branch} (h : Derives .branch ts b []) (stepped : b.steps ≠ [])
    (isOpen : OpenToFilters ts) (apart : startsStep ws = false)
    (behind : Derives .filters ws more []) : Derives .branch (ts ++ ws) (b.filtered more) [] := by
  cases h with
  | root => exact absurd rfl stepped
  | absolute steps =>
    exact .absolute (.steps_filtered apart behind (isOpen.of_suffix (List.suffix_cons _ _)) steps)
  | anywhere steps =>
    have inner :=
      Derives.steps_filtered apart behind (isOpen.of_suffix (List.suffix_cons _ _)) steps
    rw [Branch.filtered, modifyLast_cons steps.ne_nil_of_steps]
    exact .anywhere inner
  | relative steps => exact .relative (.steps_filtered apart behind isOpen steps)

/-! ## 2. Conditions as texts -/

variable {p f g text : String} {F G : Filter} {x : Expr} {b : Branch}

/-- The text is a condition as a whole, and this is the filter it is read as. -/
def IsCondition (text : String) (F : Filter) : Prop :=
  ∃ placed, tokens text.toList = .ok placed ∧ Derives .disjunction (placed.map (·.token)) F []

theorem IsCondition.lexesAhead (h : IsCondition text F) :
    ∃ us, LexesAhead text.toList us ∧ Derives .disjunction us F [] := by
  obtain ⟨placed, cut, derived⟩ := h
  exact ⟨_, .of_tokensFrom cut, derived⟩

theorem IsCondition.of_lexes (lexes : Lexes text.toList us) (derived : Derives .disjunction us F []) :
    IsCondition text F := by
  obtain ⟨placed, cut, rfl⟩ := lexes (byteLength text.toList)
  exact ⟨placed, cut, derived⟩

/-- The condition that is met where the other one is not. -/
def negated (f : String) : String :=
  "not(" ++ f ++ ")"

/-- The condition that is met where both of them are. -/
def bothOf (f g : String) : String :=
  "(" ++ f ++ ") and (" ++ g ++ ")"

/-- The tokens of a text in parentheses. -/
theorem LexesAhead.parenthesized {cs tail : List Char} (h : LexesAhead cs us) (more : Lexes tail ts) :
    Lexes ('(' :: (cs ++ ')' :: tail)) (.openParenthesis :: (us ++ .closeParenthesis :: ts)) :=
  .cons (by decide) rfl (h (endsToken_of_head? (.inr (.inr rfl))) (.cons (by decide) rfl more))

/-- **A condition is negated.** -/
theorem IsCondition.not (h : IsCondition f F) : IsCondition (negated f) (.not F) := by
  obtain ⟨us, lexes, derived⟩ := h.lexesAhead
  have named : ReadsAsName "not" := by decide +kernel
  have lexed : Lexes (negated f).toList
      (.name "not" :: .openParenthesis :: (us ++ [.closeParenthesis])) := by
    simpa [negated] using
      Lexes.name named (endsName_of_head? (.inr rfl)) (lexes.parenthesized .nil)
  exact .of_lexes lexed (.noOr (.noAnd (.not (derived.append rfl))))

/-- **Two conditions are one conjunction.** -/
theorem IsCondition.and (hf : IsCondition f F) (hg : IsCondition g G) :
    IsCondition (bothOf f g) (.and F G) := by
  obtain ⟨us, lexesF, first⟩ := hf.lexesAhead
  obtain ⟨vs, lexesG, second⟩ := hg.lexesAhead
  have named : ReadsAsName "and" := by decide +kernel
  have blank : Text.isBlank ' ' = true := by decide
  have ends : EndsName (' ' :: '(' :: (g.toList ++ [')'])) := by
    rintro _ ⟨⟩
    decide
  have behind := Lexes.name named ends (.blank blank (lexesG.parenthesized .nil))
  have lexed := lexesF.parenthesized (.blank blank behind)
  have right : Derives .unary (.openParenthesis :: (vs ++ [.closeParenthesis])) G [] :=
    .parentheses (second.append rfl)
  have left : Derives .conjunction (.openParenthesis :: (us ++ .closeParenthesis :: .name "and" ::
      .openParenthesis :: (vs ++ [.closeParenthesis]))) F
        (.name "and" :: .openParenthesis :: (vs ++ [.closeParenthesis])) :=
    .noAnd (.parentheses (first.append rfl))
  refine .of_lexes ?_ (.noOr (.and left right))
  simpa [bothOf] using lexed

/-! ## 3. Filters behind texts -/

/-- The condition as a filter. -/
def bracketed (f : String) : String :=
  "[" ++ f ++ "]"

/-- The text is a row of filters, and this is what they are read as. -/
structure BracketsRead (cs : List Char) (ws : List Token) (more : List Filter) : Prop where
  apart : EndsToken cs
  lexes : Lexes cs ws
  noStep : startsStep ws = false
  derived : Derives .filters ws more []

theorem BracketsRead.nil : BracketsRead [] [] [] where
  apart := nofun
  lexes := .nil
  noStep := rfl
  derived := .noFilter

/-- **A condition in brackets is a filter**, in front of others. -/
theorem IsCondition.brackets {cs : List Char} (h : IsCondition f F) (others : BracketsRead cs ws more) :
    ∃ us, BracketsRead ((bracketed f).toList ++ cs) us (F :: more) := by
  obtain ⟨us, lexes, derived⟩ := h.lexesAhead
  have text : (bracketed f).toList ++ cs = '[' :: (f.toList ++ ']' :: cs) := by simp [bracketed]
  rw [text]
  refine ⟨.openBracket :: (us ++ .closeBracket :: ws), ?_, ?_, rfl, ?_⟩
  · rintro _ ⟨⟩
    decide
  · have closed := lexes (endsToken_of_head? (.inr (.inl rfl)))
      (.cons (c := ']') (by decide) rfl others.lexes)
    exact .cons (by decide) rfl closed
  · exact .filter (derived.append rfl) others.derived

/-- **An expression with filters behind it is compiled**: they are the last filters of its last
    step. -/
theorem Expr.compile_filtered (hp : Expr.compile p = .ok x) (hx : x.union = [b])
    (stepped : b.steps ≠ []) (isOpen : TakesFilters p) (filters : BracketsRead text.toList ws more) :
    Expr.compile (p ++ text) = .ok ⟨p ++ text, [b.filtered more]⟩ := by
  obtain ⟨_, placed, cut, read⟩ := Expr.compile_eq_ok_iff.mp hp
  obtain ⟨placed', cut', last⟩ := isOpen
  cases cut.symm.trans cut'
  rw [hx] at read
  have branch := (readAll_eq_ok_iff.mp read).branch_of_union
  have lexed := LexesAhead.of_tokensFrom cut filters.apart filters.lexes
  rw [← String.toList_append] at lexed
  exact Expr.compile_of_lexes lexed
    (.single (branch.branch_filtered stepped last filters.noStep filters.derived))

/-! ## 4. What filters keep -/

variable {doc : Document} {is : List Item} {i j context : Item}

/-- The condition asks for no rank but inside its paths. -/
def Filter.RankFree : Filter → Prop
  | .or left right | .and left right => left.RankFree ∧ right.RankFree
  | .not inner => inner.RankFree
  | .exists _ | .compare _ _ _ | .count _ _ _ => True
  | .position _ => False

/-- **Whether such a condition holds does not depend on the rank**, by recursion on it. -/
theorem Filter.RankFree.holds_eq : ∀ {F : Filter}, F.RankFree → ∀ {rank size rank' size' : Nat},
    F.holds doc i rank size = F.holds doc i rank' size'
  | .or left right, h, _, _, _, _ => by
    rw [Filter.holds, Filter.holds, h.1.holds_eq, h.2.holds_eq]
  | .and left right, h, _, _, _, _ => by
    rw [Filter.holds, Filter.holds, h.1.holds_eq, h.2.holds_eq]
  | .not inner, h, _, _, _, _ => by
    rw [Filter.holds, Filter.holds, holds_eq (F := inner) h]
  | .exists union, _, _, _, _, _ => by rw [Filter.holds, Filter.holds]
  | .compare union c operand, _, _, _, _, _ => by rw [Filter.holds, Filter.holds]
  | .count union c value, _, _, _, _, _ => by rw [Filter.holds, Filter.holds]

theorem keepAll_append : ∀ {filters : List Filter} {is : List Item},
    keepAll doc (filters ++ more) is = keepAll doc more (keepAll doc filters is)
  | [], is => by
    rw [keepAll]
    rfl
  | f :: rest, is => by
    rw [List.cons_append, keepAll, keepAll, keepAll_append]

theorem Step.select_filtered {s : Step} :
    (s.filtered more).select doc i = keepAll doc more (s.select doc i) := by
  obtain ⟨axis, test, filters⟩ := s
  rw [Step.filtered, Step.select, Step.select, keepAll_append]

/-- **Filters behind a branch** see what its last step leads to, from each item on its own. -/
theorem Branch.select_filtered (b : Branch) (doc : Document) (context : Item)
    (stepped : b.steps ≠ []) : ∃ groups : List (List Item),
    b.select doc context = inDocumentOrder groups.flatten ∧ ∀ more,
      (b.filtered more).select doc context = inDocumentOrder (groups.flatMap (keepAll doc more)) := by
  obtain ⟨absolute, steps⟩ := b
  obtain ⟨front, s, rfl⟩ : ∃ front s, steps = front ++ [s] :=
    ⟨_, _, (List.dropLast_concat_getLast stepped).symm⟩
  have reached : ∀ s' : Step, Branch.select doc ⟨absolute, front ++ [s']⟩ context = inDocumentOrder
      ((walk doc front [if absolute then .node doc.root else context]).flatMap (s'.select doc)) := by
    intro s'
    rw [Branch.select, walk_append, walk_cons, walk_nil]
  refine ⟨(walk doc front [if absolute then .node doc.root else context]).map (s.select doc),
    ?_, fun more => ?_⟩
  · rw [reached, List.flatMap_def]
  · have each : (s.filtered more).select doc = fun i => keepAll doc more (s.select doc i) :=
      funext fun _ => Step.select_filtered
    rw [Branch.filtered, List.modifyLast_concat, reached, List.flatMap_map, each]

/-- What is kept by rank, and what is kept where it is not, is all there is. -/
theorem mem_keepRanked_or_not {α : Type} {p : Nat → α → Bool} {rank : Nat} {l : List α} {a : α} :
    a ∈ l ↔ a ∈ keepRanked p rank l ∨ a ∈ keepRanked (fun r b => !p r b) rank l := by
  constructor
  · intro h
    obtain ⟨k, hk⟩ := List.mem_iff_getElem?.mp h
    by_cases hp : p (rank + k) a = true
    · exact .inl (mem_keepRanked.mpr ⟨k, hk, hp⟩)
    · exact .inr (mem_keepRanked.mpr ⟨k, hk, by rw [Bool.eq_false_iff.mpr hp]; rfl⟩)
  · intro h
    exact h.elim keepRanked_sublist.mem keepRanked_sublist.mem

/-- **A condition and its negation** keep all items between them. -/
theorem mem_keepAll_or_not :
    j ∈ is ↔ j ∈ keepAll doc [F] is ∨ j ∈ keepAll doc [.not F] is := by
  rw [keepAll, keepAll, keepAll, keepAll]
  exact mem_keepRanked_or_not

/-- A condition without ranks keeps the items that it holds of. -/
theorem keepAll_rankFree (h : F.RankFree) :
    keepAll doc (F :: more) is = keepAll doc more (is.filter fun i => F.holds doc i 1 1) := by
  have same : (fun rank i => F.holds doc i rank is.length) = fun _ i => F.holds doc i 1 1 := by
    funext rank i
    exact h.holds_eq
  rw [keepAll, same, keepRanked_eq_filter]

theorem mem_keepAll_rankFree (h : F.RankFree) :
    j ∈ keepAll doc [F] is ↔ j ∈ is ∧ F.holds doc j 1 1 = true := by
  rw [keepAll_rankFree h, keepAll, List.mem_filter]

theorem filter_keepRanked {α : Type} {p : Nat → α → Bool} {q : α → Bool} :
    ∀ {rank : Nat} {l : List α},
      (keepRanked p rank l).filter q = keepRanked (fun r a => p r a && q a) rank l
  | _, [] => rfl
  | rank, a :: rest => by
    by_cases hp : p rank a = true
    · by_cases hq : q a = true
      · simp [keepRanked, hp, hq, filter_keepRanked]
      · simp [keepRanked, hp, hq, filter_keepRanked]
    · simp [keepRanked, hp, filter_keepRanked]

/-- **A filter behind another one** is the conjunction of both, if it asks for no rank. -/
theorem keepAll_and (h : G.RankFree) : keepAll doc [F, G] is = keepAll doc [.and F G] is := by
  have both : (fun rank i => (Filter.and F G).holds doc i rank is.length) =
      fun rank i => F.holds doc i rank is.length && G.holds doc i 1 1 := by
    funext rank i
    rw [Filter.holds, h.holds_eq]
  rw [keepAll, keepAll_rankFree h, keepAll, filter_keepRanked, keepAll, keepAll, both]

/-- **A filter and its negation** behind a branch select together what the branch does. -/
theorem Branch.mem_select_or_not (stepped : b.steps ≠ []) : j ∈ b.select doc context ↔
    j ∈ (b.filtered [F]).select doc context ∨ j ∈ (b.filtered [.not F]).select doc context := by
  obtain ⟨groups, all, filtered⟩ := b.select_filtered doc context stepped
  rw [all, filtered, filtered, mem_inDocumentOrder, mem_inDocumentOrder, mem_inDocumentOrder,
    List.mem_flatten, List.mem_flatMap, List.mem_flatMap, ← exists_or]
  refine exists_congr fun group => ?_
  rw [← and_or_left, ← mem_keepAll_or_not]

/-- **They have nothing in common** if no rank is asked for. An item that is reached from several
    items may have several ranks, and then a position can keep it and leave it out. -/
theorem Branch.not_mem_select_both (stepped : b.steps ≠ []) (h : F.RankFree)
    (kept : j ∈ (b.filtered [F]).select doc context) :
    j ∉ (b.filtered [.not F]).select doc context := by
  intro dropped
  obtain ⟨groups, _, filtered⟩ := b.select_filtered doc context stepped
  rw [filtered, mem_inDocumentOrder, List.mem_flatMap] at kept dropped
  obtain ⟨_, _, kept⟩ := kept
  obtain ⟨_, _, dropped⟩ := dropped
  have holds := ((mem_keepAll_rankFree h).mp kept).2
  have fails := ((mem_keepAll_rankFree (F := .not F) h).mp dropped).2
  rw [Filter.holds, holds] at fails
  cases fails

/-- **A second filter without ranks** may be joined to the first one. -/
theorem Branch.select_and (stepped : b.steps ≠ []) (h : G.RankFree) :
    (b.filtered [F, G]).select doc context = (b.filtered [.and F G]).select doc context := by
  obtain ⟨groups, _, filtered⟩ := b.select_filtered doc context stepped
  have each : keepAll doc [F, G] = keepAll doc [.and F G] := funext fun _ => keepAll_and h
  rw [filtered, filtered, each]

/-! ## 5. Expressions with filters -/

/-- **A condition behind an expression** is a filter of its last step. -/
theorem Expr.compile_bracketed (hp : Expr.compile p = .ok x) (hx : x.union = [b])
    (stepped : b.steps ≠ []) (isOpen : TakesFilters p) (hf : IsCondition f F) :
    Expr.compile (p ++ bracketed f) = .ok ⟨p ++ bracketed f, [b.filtered [F]]⟩ := by
  obtain ⟨ws, filters⟩ := hf.brackets .nil
  rw [List.append_nil] at filters
  exact Expr.compile_filtered hp hx stepped isOpen filters

/-- **Two conditions behind an expression** are two filters, one behind the other. -/
theorem Expr.compile_bracketed_twice (hp : Expr.compile p = .ok x) (hx : x.union = [b])
    (stepped : b.steps ≠ []) (isOpen : TakesFilters p) (hf : IsCondition f F)
    (hg : IsCondition g G) : Expr.compile (p ++ bracketed f ++ bracketed g) =
      .ok ⟨p ++ bracketed f ++ bracketed g, [b.filtered [F, G]]⟩ := by
  obtain ⟨ws, second⟩ := hg.brackets .nil
  rw [List.append_nil] at second
  obtain ⟨ws', both⟩ := hf.brackets second
  rw [← String.toList_append] at both
  rw [String.append_assoc]
  exact Expr.compile_filtered hp hx stepped isOpen both

theorem Expr.mem_select_single {z : Expr} (hz : z.union = [b]) :
    j ∈ z.select doc context ↔ j ∈ b.select doc context := by
  rw [Expr.select, hz, selectUnion_single]

/-- **Filters narrow a step, and a negation keeps the others.** Behind an expression of one branch,
    a condition and its negation keep together what the expression selects, and nothing in common
    if the condition asks for no rank. A further condition that asks for none may as well be joined
    to the first one. -/
theorem Expr.filters_narrow (hp : Expr.compile p = .ok x) (hx : x.union = [b])
    (stepped : b.steps ≠ []) (isOpen : TakesFilters p) (hf : IsCondition f F) :
    (∃ kept dropped, Expr.compile (p ++ bracketed f) = .ok kept ∧
      Expr.compile (p ++ bracketed (negated f)) = .ok dropped ∧
      ∀ (doc : Document) (context : Item), context.within doc = true →
        (∀ e ∈ [x, kept, dropped], ∃ is, e.select? doc context = some is) ∧
        (∀ j, x.Selects doc context j ↔
          kept.Selects doc context j ∨ dropped.Selects doc context j) ∧
        (F.RankFree → ∀ j, ¬ (kept.Selects doc context j ∧ dropped.Selects doc context j))) ∧
    ∀ g G, IsCondition g G → G.RankFree → ∃ twice once,
      Expr.compile (p ++ bracketed f ++ bracketed g) = .ok twice ∧
      Expr.compile (p ++ bracketed (bothOf f g)) = .ok once ∧
      ∀ (doc : Document) (context : Item), twice.select? doc context = once.select? doc context := by
  refine ⟨⟨_, _, Expr.compile_bracketed hp hx stepped isOpen hf,
    Expr.compile_bracketed hp hx stepped isOpen hf.not, fun doc context within => ?_⟩,
    fun g G hg unranked => ⟨_, _, Expr.compile_bracketed_twice hp hx stepped isOpen hf hg,
      Expr.compile_bracketed hp hx stepped isOpen (hf.and hg), fun doc context => ?_⟩⟩
  · refine ⟨fun e _ => ⟨_, Expr.select?_of_within within⟩, fun j => ?_, fun unranked j => ?_⟩
    · rw [Expr.selects_iff within, Expr.selects_iff within, Expr.selects_iff within,
        Expr.mem_select_single hx, Expr.mem_select_single rfl, Expr.mem_select_single rfl]
      exact Branch.mem_select_or_not stepped
    · rw [Expr.selects_iff within, Expr.selects_iff within, Expr.mem_select_single rfl,
        Expr.mem_select_single rfl]
      rintro ⟨kept, dropped⟩
      exact Branch.not_mem_select_both stepped unranked kept dropped
  · simp only [Expr.select?, Expr.select, selectUnion_single, Branch.select_and stepped unranked]
    rfl

theorem isCondition_title : IsCondition "title" (.exists titleExpr.union) :=
  ⟨[⟨.name "title", 0⟩], by decide +kernel,
    .noOr (.noAnd (.notCompared (.single (.relative (.last (.child .name .noFilter))))))⟩

/-- What `@id = 'a' or not(@id)` is as a filter. -/
def unmarkedOrFirst : Filter :=
  let marked := [⟨false, [⟨.attribute, .name "id", []⟩]⟩]
  .or (.compare marked .eq (.text "a")) (.not (.exists marked))

theorem isCondition_unmarkedOrFirst : IsCondition "@id = 'a' or not(@id)" unmarkedOrFirst := by
  refine ⟨[⟨.atSign, 0⟩, ⟨.name "id", 1⟩, ⟨.comparison .eq, 4⟩, ⟨.literal "a", 6⟩, ⟨.name "or", 10⟩,
    ⟨.name "not", 13⟩, ⟨.openParenthesis, 16⟩, ⟨.atSign, 17⟩, ⟨.name "id", 18⟩,
    ⟨.closeParenthesis, 20⟩], by decide +kernel, ?_⟩
  exact .or
    (.noOr (.noAnd (.compareText (.single (.relative (.last (.atSign .name .noFilter)))) rfl)))
    (.noAnd (.not
      (.noOr (.noAnd (.notCompared (.single (.relative (.last (.atSign .name .noFilter)))))))))

theorem Expr.filters_narrow_sections : Expr.compile "//sec" = .ok sectionsExpr ∧
    TakesFilters "//sec" ∧ IsCondition "title" (.exists titleExpr.union) ∧
    IsCondition "@id = 'a' or not(@id)" unmarkedOrFirst ∧ unmarkedOrFirst.RankFree ∧
    ∃ kept dropped twice once, Expr.compile "//sec[title]" = .ok kept ∧
      Expr.compile "//sec[not(title)]" = .ok dropped ∧
      Expr.compile "//sec[title][@id = 'a' or not(@id)]" = .ok twice ∧
      Expr.compile "//sec[(title) and (@id = 'a' or not(@id))]" = .ok once ∧
      ∀ (doc : Document) (context : Item), context.within doc = true →
        (∀ j, sectionsExpr.Selects doc context j ↔
          kept.Selects doc context j ∨ dropped.Selects doc context j) ∧
        (∀ j, ¬ (kept.Selects doc context j ∧ dropped.Selects doc context j)) ∧
        twice.select? doc context = once.select? doc context := by
  have isOpen : TakesFilters "//sec" :=
    ⟨[⟨.doubleSlash, 0⟩, ⟨.name "sec", 2⟩], by decide +kernel, by rintro _ ⟨⟩; decide⟩
  have unranked : unmarkedOrFirst.RankFree := ⟨trivial, trivial⟩
  obtain ⟨⟨kept, dropped, hkept, hdropped, narrow⟩, joined⟩ := Expr.filters_narrow
    compile_sectionsExpr rfl (List.cons_ne_nil _ _) isOpen isCondition_title
  obtain ⟨twice, once, htwice, honce, same⟩ := joined _ _ isCondition_unmarkedOrFirst unranked
  refine ⟨compile_sectionsExpr, isOpen, isCondition_title, isCondition_unmarkedOrFirst, unranked,
    kept, dropped, twice, once, hkept, hdropped, htwice, honce, fun doc context within => ?_⟩
  obtain ⟨_, cover, disjoint⟩ := narrow doc context within
  exact ⟨cover, disjoint trivial, same doc context⟩

end MarkupRules.Path
