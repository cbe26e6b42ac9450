import MarkupRules.Proofs.Path.Embedding
import MarkupRules.Proofs.Path.Sources
import MarkupRules.Proofs.Path.Steps

/-!
# Expressions one behind the other

Two expressions with a slash between them are one expression, and it selects what the second one
selects from the items that the first one does.

* `Derives.suffix`, `EndsBehind` -- no phrase with a step in it ends with a slash, so a slash behind
  an expression is read as one;
* `Joint` -- a slash or two of them, and the steps they stand for;
* `Derives.steps_joined`, `Expr.compile_joined` -- **two expressions are compiled as one**, with the
  steps of the second one behind those of the first;
* `Expr.Selects` -- what is selected from an item, as a relation;
* `Expr.join_is_composition` -- **joining is the composition of relations**.
-/

namespace MarkupRules.Path

variable {ts us rest mid : List Token} {more : List Step}

/-! ## 1. Where steps end -/

theorem suffix_of_cons {t : Token} (h : t :: rest <:+ ts) : rest <:+ ts :=
  (List.suffix_cons t rest).trans h

/-- **A phrase is read from the left**: what is behind it is what is left of the tokens. -/
theorem Derives.suffix {x : Phrase} {v : x.Value} (h : Derives x ts v rest) : rest <:+ ts := by
  obtain ⟨front, rfl, _⟩ := h.exists_front
  exact List.suffix_append front rest

/-- The tokens in front of the others end with one that is no slash. -/
def EndsBehind (ts rest : List Token) : Prop :=
  ∃ front t, ts = front ++ t :: rest ∧ t ≠ .slash

theorem EndsBehind.of_suffix (h : EndsBehind mid rest) (within : mid <:+ ts) :
    EndsBehind ts rest := by
  obtain ⟨front, t, rfl, other⟩ := h
  obtain ⟨before, rfl⟩ := within
  exact ⟨before ++ front, t, List.append_assoc .. |>.symm, other⟩

theorem EndsBehind.getLast?_ne_slash (h : EndsBehind ts []) : ts.getLast? ≠ some .slash := by
  obtain ⟨front, t, rfl, other⟩ := h
  rw [List.getLast?_concat]
  exact fun same => other (Option.some.inj same)

theorem Derives.endsBehind_test {test : NodeTest} (h : Derives .test ts test rest) :
    EndsBehind ts rest := by
  cases h with
  | name => exact ⟨[], _, rfl, nofun⟩
  | wildcard => exact ⟨[], _, rfl, nofun⟩
  | text => exact ⟨[_, _], _, rfl, nofun⟩
  | anyNode => exact ⟨[_, _], _, rfl, nofun⟩

/-- Filters end with a bracket, if there are any. -/
theorem Derives.endsBehind_filters : ∀ {ts : List Token} {filters : List Filter},
    Derives .filters ts filters rest → rest = ts ∨ EndsBehind ts rest
  | _, _, .noFilter => .inl rfl
  | _, _, @Derives.filter _ mid _ _ _ inner others => by
    obtain ⟨front, rfl⟩ := inner.suffix
    have bracket : EndsBehind (.openBracket :: (front ++ .closeBracket :: mid)) mid :=
      ⟨.openBracket :: front, .closeBracket, rfl, nofun⟩
    rcases others.endsBehind_filters with rfl | ends
    · exact .inr bracket
    · exact .inr (ends.of_suffix ⟨.openBracket :: (front ++ [.closeBracket]), by simp⟩)

theorem Derives.endsBehind_tested {test : NodeTest} {filters : List Filter}
    (htest : Derives .test ts test mid) (hfilters : Derives .filters mid filters rest) :
    EndsBehind ts rest := by
  rcases hfilters.endsBehind_filters with rfl | ends
  · exact htest.endsBehind_test
  · exact ends.of_suffix htest.suffix

theorem Derives.endsBehind_step {s : Step} (h : Derives .step ts s rest) : EndsBehind ts rest := by
  cases h with
  | here => exact ⟨[], _, rfl, nofun⟩
  | up => exact ⟨[], _, rfl, nofun⟩
  | atSign test filters => exact (test.endsBehind_tested filters).of_suffix (List.suffix_cons _ _)
  | axis test filters =>
    exact (test.endsBehind_tested filters).of_suffix (suffix_of_cons (List.suffix_cons _ _))
  | child test filters => exact test.endsBehind_tested filters

/-- **Steps do not end with a slash.** -/
theorem Derives.endsBehind_steps : ∀ {ts : List Token} {steps : List Step},
    Derives .steps ts steps rest → EndsBehind ts rest
  | _, _, .last step => step.endsBehind_step
  | _, _, .next step others | _, _, .nextBelow step others =>
    others.endsBehind_steps.of_suffix (suffix_of_cons step.suffix)

/-! ## 2. Branches one behind the other -/

/-- A slash between two paths, or two of them. -/
inductive Joint where
  | slash
  | doubleSlash

namespace Joint

/-- The joint as it is written. -/
def sign : Joint → String
  | .slash => "/"
  | .doubleSlash => "//"

/-- The token of the joint. -/
def token : Joint → Token
  | .slash => .slash
  | .doubleSlash => .doubleSlash

/-- The steps that the joint stands for. -/
def steps : Joint → List Step
  | .slash => []
  | .doubleSlash => [Step.anywhere]

theorem startsStep_token (joint : Joint) : startsStep (joint.token :: ts) = false := by
  cases joint <;> rfl

end Joint

variable {joint : Joint}

theorem Derives.next_joined {s : Step} (step : Derives .step ts s (joint.token :: us))
    (others : Derives .steps us more []) : Derives .steps ts (s :: (joint.steps ++ more)) [] := by
  cases joint with
  | slash => exact .next step others
  | doubleSlash => exact .nextBelow step others

/-- **Steps behind other steps** are steps, by induction on the first ones. -/
theorem Derives.steps_joined (others : Derives .steps us more []) :
    ∀ {ts : List Token} {steps : List Step}, Derives .steps ts steps [] →
      Derives .steps (ts ++ joint.token :: us) (steps ++ (joint.steps ++ more)) []
  | _, _, .last step => (step.append joint.startsStep_token).next_joined others
  | _, _, .next step first => .next (step.append joint.startsStep_token) (others.steps_joined first)
  | _, _, .nextBelow step first =>
    .nextBelow (step.append joint.startsStep_token) (others.steps_joined first)

/-- **A branch with steps behind it** is a branch. -/
theorem Derives.branch_joined {b : Branch} (first : Derives .branch ts b []) (stepped : b.steps ≠ [])
    (others : Derives .steps us more []) : Derives .branch (ts ++ joint.token :: us)
      ⟨b.absolute, b.steps ++ (joint.steps ++ more)⟩ [] := by
  cases first with
  | root => exact absurd rfl stepped
  | absolute steps => exact .absolute (others.steps_joined steps)
  | anywhere steps => exact .anywhere (others.steps_joined steps)
  | relative steps => exact .relative (others.steps_joined steps)

/-- A branch with a step in it does not end with a slash. -/
theorem Derives.endsBehind_branch {b : Branch} (h : Derives .branch ts b rest) (stepped : b.steps ≠ []) :
    EndsBehind ts rest := by
  cases h with
  | root => exact absurd rfl stepped
  | absolute steps => exact steps.endsBehind_steps.of_suffix (List.suffix_cons _ _)
  | anywhere steps => exact steps.endsBehind_steps.of_suffix (List.suffix_cons _ _)
  | relative steps => exact steps.endsBehind_steps

/-- A union of one branch is that branch. -/
theorem Derives.branch_of_union {b : Branch} (h : Derives .union ts [b] rest) :
    Derives .branch ts b rest := by
  cases h with
  | single branch => exact branch
  | alternative _ others => cases others

theorem Derives.steps_of_relative (h : Derives .branch ts ⟨false, more⟩ rest) :
    Derives .steps ts more rest := by
  cases h with
  | relative steps => exact steps

/-! ## 3. Texts one behind the other -/

variable {cs : List Char} {p q : String} {x y : Expr} {b : Branch}

theorem LexesAhead.lexes (h : LexesAhead cs us) : Lexes cs us := by
  have alone := @h [] [] nofun Lexes.nil
  rwa [List.append_nil, List.append_nil] at alone

/-- A text does not start with a slash if its tokens start a step. -/
theorem Lexes.head?_ne_slash (h : Lexes cs us) (start : startsStep us = true) :
    cs.head? ≠ some '/' := by
  intro slash
  obtain ⟨rest, rfl⟩ := List.head?_eq_some_iff.mp slash
  obtain ⟨placed, cut, rfl⟩ := h 0
  obtain ⟨t, behind, others, read, _, rfl⟩ := exists_readToken (by decide) cut
  by_cases next : rest.head? = some '/'
  · obtain ⟨_, rfl⟩ := List.head?_eq_some_iff.mp next
    cases read
    cases start
  · rw [readToken_slash next] at read
    cases read
    cases start

theorem Lexes.joined (h : Lexes cs us) (start : startsStep us = true) :
    Lexes (joint.sign.toList ++ cs) (joint.token :: us) := by
  cases joint with
  | slash => exact .slash (h.head?_ne_slash start) h
  | doubleSlash => exact .cons (by decide) rfl h

/-- **Two expressions are compiled as one**, if there are steps on both sides of the joint. -/
theorem Expr.compile_joined (joint : Joint) (hp : Expr.compile p = .ok x) (hx : x.union = [b])
    (stepped : b.steps ≠ []) (hq : Expr.compile q = .ok y) (hy : y.union = [⟨false, more⟩]) :
    Expr.compile (p ++ joint.sign ++ q) =
      .ok ⟨p ++ joint.sign ++ q, [⟨b.absolute, b.steps ++ (joint.steps ++ more)⟩]⟩ := by
  obtain ⟨_, placed, cut, read⟩ := Expr.compile_eq_ok_iff.mp hp
  obtain ⟨us, lexes, derived⟩ := Expr.lexesAhead_of_compile hq
  rw [hx] at read
  rw [hy] at derived
  have first := (readAll_eq_ok_iff.mp read).branch_of_union
  have others := derived.branch_of_union.steps_of_relative
  -- what the first text ends with does not become one token with the joint
  have last := (first.endsBehind_branch stepped).getLast?_ne_slash
  have slash : EndsButSlash (joint.sign.toList ++ q.toList) := by
    cases joint
    all_goals
      rintro _ ⟨⟩
      decide
  have lexed := lexes_append slash (lexes.lexes.joined others.startsStep_of_steps) cut fun _ => last
  refine Expr.compile_of_lexes ?_ (.single (first.branch_joined stepped others))
  rw [String.toList_append, String.toList_append, List.append_assoc]
  exact lexed

/-- **An expression and a further branch** are compiled as both of them. -/
theorem Expr.compile_either (hp : Expr.compile p = .ok x) (hx : x.union = [b])
    (hq : Expr.compile q = .ok y) :
    Expr.compile (p ++ "|" ++ q) = .ok ⟨p ++ "|" ++ q, b :: y.union⟩ := by
  obtain ⟨ts, lexesFirst, first⟩ := Expr.lexesAhead_of_compile hp
  obtain ⟨us, lexes, others⟩ := Expr.lexesAhead_of_compile hq
  rw [hx] at first
  have pipe : EndsToken ('|' :: q.toList) := by
    rintro _ ⟨⟩
    decide
  have lexed := lexesFirst pipe (.cons (by decide) rfl lexes.lexes)
  refine Expr.compile_of_lexes ?_ (.alternative (first.branch_of_union.append rfl) others)
  rw [String.toList_append, String.toList_append, List.append_assoc]
  exact lexed

/-! ## 4. What is selected -/

variable {doc : Document} {i j context : Item}

/-- The expression selects the second item from the first one. -/
def Expr.Selects (x : Expr) (doc : Document) (i j : Item) : Prop :=
  ∃ is, x.select? doc i = some is ∧ j ∈ is

theorem Expr.select?_of_within (h : i.within doc = true) :
    x.select? doc i = some (x.select doc i) := by
  rw [select?, h]
  simp

theorem Expr.selects_iff (h : i.within doc = true) : x.Selects doc i j ↔ j ∈ x.select doc i := by
  rw [Selects, select?_of_within h]
  simp

/-- What is selected from an item of the document is in the document. -/
theorem Expr.Selects.within (h : x.Selects doc i j) (hi : i.within doc = true) :
    j.within doc = true := by
  have hi' := Item.within_iff.mp hi
  obtain ⟨b, _, hb⟩ := mem_selectUnion.mp ((Expr.selects_iff hi).mp h)
  rcases Branch.eq_or_exists_of_mem_select hi' hb with rfl | known
  · exact hi
  · exact Item.within_iff.mpr known.nodeId_lt

/-- **Steps behind a branch** lead on from what the branch selects. -/
theorem Branch.mem_select_append {later : List Step} :
    j ∈ Branch.select doc ⟨b.absolute, b.steps ++ later⟩ context ↔
      ∃ i ∈ b.select doc context, j ∈ walk doc later [i] := by
  obtain ⟨absolute, steps⟩ := b
  rw [Branch.select, walk_append, mem_walk_iff]
  rfl

/-- A slash leads nowhere else. -/
theorem Joint.mem_walk_slash : j ∈ walk doc Joint.slash.steps [i] ↔ j = i := by
  rw [Joint.steps, walk_nil, List.mem_singleton]

/-- Two slashes lead to the node and everything below it. -/
theorem Joint.mem_walk_doubleSlash {id : NodeId} :
    j ∈ walk doc Joint.doubleSlash.steps [.node id] ↔
      ∃ k, (k = id ∨ k ∈ doc.descendants id) ∧ j = .node k := by
  rw [Joint.steps, mem_walk_cons]
  simp only [mem_select_anywhere, walk_nil, List.mem_singleton]
  constructor
  · rintro ⟨_, ⟨k, hk, rfl⟩, rfl⟩
    exact ⟨k, List.mem_cons.mp hk, rfl⟩
  · rintro ⟨k, hk, rfl⟩
    exact ⟨_, ⟨k, List.mem_cons.mpr hk, rfl⟩, rfl⟩

/-- **What a joined expression selects**: what the steps behind the first branch lead to. -/
theorem Expr.mem_select_joined {z : Expr} (hx : x.union = [b]) (hy : y.union = [⟨false, more⟩])
    (hz : z.union = [⟨b.absolute, b.steps ++ (joint.steps ++ more)⟩]) :
    j ∈ z.select doc context ↔
      ∃ i ∈ x.select doc context, ∃ k ∈ walk doc joint.steps [i], j ∈ y.select doc k := by
  have second : ∀ k, y.select doc k = walk doc more [k] := fun k => by
    rw [Expr.select, hy, selectUnion_single]
    rfl
  rw [Expr.select, hz, selectUnion_single, Branch.mem_select_append, Expr.select, hx,
    selectUnion_single]
  simp only [walk_append, second]
  exact exists_congr fun i => and_congr_right fun _ => mem_walk_iff

/-- **Joining expressions is composing what they select.** With one slash between them, the second
    expression is taken from every item that the first one selects; with two, from every node that
    is selected and every node below it, if only nodes are selected. -/
theorem Expr.join_is_composition (hp : Expr.compile p = .ok x) (hx : x.union = [b])
    (stepped : b.steps ≠ []) (hq : Expr.compile q = .ok y) (hy : y.union = [⟨false, more⟩]) :
    ∃ once below either, Expr.compile (p ++ "/" ++ q) = .ok once ∧
      Expr.compile (p ++ "//" ++ q) = .ok below ∧ Expr.compile (p ++ "|" ++ q) = .ok either ∧
      ∀ (doc : Document) (context : Item), context.within doc = true →
        (∀ e ∈ [once, below, either], ∃ is, e.select? doc context = some is) ∧
        (∀ j, once.Selects doc context j ↔ ∃ i, x.Selects doc context i ∧ y.Selects doc i j) ∧
        ((∀ i, x.Selects doc context i → ∃ id, i = .node id) →
          ∀ j, below.Selects doc context j ↔ ∃ id k, x.Selects doc context (.node id) ∧
            (k = id ∨ k ∈ doc.descendants id) ∧ y.Selects doc (.node k) j) ∧
        ∀ j, either.Selects doc context j ↔ x.Selects doc context j ∨ y.Selects doc context j := by
  refine ⟨_, _, _, Expr.compile_joined .slash hp hx stepped hq hy,
    Expr.compile_joined .doubleSlash hp hx stepped hq hy, Expr.compile_either hp hx hq, ?_⟩
  intro doc context within
  refine ⟨fun e _ => ⟨_, Expr.select?_of_within within⟩, fun j => ?_, fun nodes j => ?_, fun j => ?_⟩
  · rw [Expr.selects_iff within, Expr.mem_select_joined hx hy rfl]
    constructor
    · rintro ⟨i, hi, k, hk, hj⟩
      obtain rfl := Joint.mem_walk_slash.mp hk
      have first := (Expr.selects_iff within).mpr hi
      exact ⟨k, first, (Expr.selects_iff (first.within within)).mpr hj⟩
    · rintro ⟨i, first, second⟩
      exact ⟨i, (Expr.selects_iff within).mp first, i, Joint.mem_walk_slash.mpr rfl,
        (Expr.selects_iff (first.within within)).mp second⟩
  · have belowWithin : ∀ {id k : NodeId}, x.Selects doc context (.node id) →
        k = id ∨ k ∈ doc.descendants id → Item.within doc (.node k) = true := by
      intro id k first below
      have known : id < doc.size := Item.within_iff.mp (first.within within)
      refine Item.within_iff.mpr (below.elim (fun same => ?_) fun hk => ?_)
      · exact same ▸ known
      · exact lt_size_of_mem_descendants known hk
    rw [Expr.selects_iff within, Expr.mem_select_joined hx hy rfl]
    constructor
    · rintro ⟨i, hi, k, hk, hj⟩
      have first := (Expr.selects_iff within).mpr hi
      obtain ⟨id, rfl⟩ := nodes i first
      obtain ⟨k, below, rfl⟩ := Joint.mem_walk_doubleSlash.mp hk
      exact ⟨id, k, first, below, (Expr.selects_iff (belowWithin first below)).mpr hj⟩
    · rintro ⟨id, k, first, below, second⟩
      exact ⟨.node id, (Expr.selects_iff within).mp first, .node k,
        Joint.mem_walk_doubleSlash.mpr ⟨k, below, rfl⟩,
        (Expr.selects_iff (belowWithin first below)).mp second⟩
  · rw [Expr.selects_iff within, Expr.selects_iff within, Expr.selects_iff within, Expr.select,
      Expr.select, Expr.select, mem_selectUnion, mem_selectUnion, mem_selectUnion, hx]
    simp only [List.mem_cons, exists_eq_or_imp, List.not_mem_nil, or_false, exists_eq_left]

/-- What `//sec` is compiled to. -/
def sectionsExpr : Expr where
  source := "//sec"
  union := [⟨true, [Step.anywhere, ⟨.child, .name "sec", []⟩]⟩]

theorem compile_sectionsExpr : Expr.compile "//sec" = .ok sectionsExpr :=
  Expr.compile_eq_ok_iff.mpr ⟨rfl, [⟨.doubleSlash, 0⟩, ⟨.name "sec", 2⟩], by decide +kernel,
    readAll_eq_ok_iff.mpr (.single (.anywhere (.last (.child .name .noFilter))))⟩

theorem Expr.join_is_composition_sections : Expr.compile "//sec" = .ok sectionsExpr ∧
    sectionsExpr.union = [⟨true, [Step.anywhere, ⟨.child, .name "sec", []⟩]⟩] ∧
    [Step.anywhere, ⟨.child, .name "sec", []⟩] ≠ [] ∧
    Expr.compile "title" = .ok titleExpr ∧
    titleExpr.union = [⟨false, [⟨.child, .name "title", []⟩]⟩] ∧
    ∃ once below either, Expr.compile ("//sec" ++ "/" ++ "title") = .ok once ∧
      Expr.compile ("//sec" ++ "//" ++ "title") = .ok below ∧
      Expr.compile ("//sec" ++ "|" ++ "title") = .ok either ∧
      ∀ (doc : Document) (context : Item), context.within doc = true →
        (∀ e ∈ [once, below, either], ∃ is, e.select? doc context = some is) ∧
        (∀ j, once.Selects doc context j ↔
          ∃ i, sectionsExpr.Selects doc context i ∧ titleExpr.Selects doc i j) ∧
        ((∀ i, sectionsExpr.Selects doc context i → ∃ id, i = .node id) →
          ∀ j, below.Selects doc context j ↔ ∃ id k, sectionsExpr.Selects doc context (.node id) ∧
            (k = id ∨ k ∈ doc.descendants id) ∧ titleExpr.Selects doc (.node k) j) ∧
        ∀ j, either.Selects doc context j ↔
          sectionsExpr.Selects doc context j ∨ titleExpr.Selects doc context j :=
  ⟨compile_sectionsExpr, rfl, List.cons_ne_nil _ _, compile_titleExpr, rfl,
    Expr.join_is_composition compile_sectionsExpr rfl (List.cons_ne_nil _ _) compile_titleExpr rfl⟩

end MarkupRules.Path
