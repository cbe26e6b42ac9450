import MarkupRules.Path.Reading

/-!
# The grammar of path expressions

What sequences of tokens are path expressions and which tree each one writes, without a word on
how they are read. The rules are those of the documented grammar, one constructor for each
alternative of a rule:

* `Axis.name` -- the names of the axes;
* `Phrase`, `Phrase.Value` -- the phrases of the grammar, and what each of them stands for;
* `Derives` -- the rules: a phrase with its value at the start of some tokens, and what is behind;
* `startsStep_iff_derives` -- the one look ahead in them, told by the rules themselves;
* `Phrase.EndsAt` -- what may stand behind a phrase in an expression.

The rules do not say where a phrase ends: any of them may leave off early. Only a slash on its
own looks ahead, for it stands for the document node unless a step could start behind it.
-/

namespace MarkupRules.Path

/-- The name of an axis in an expression. -/
def Axis.name : Axis → String
  | .self => "self"
  | .child => "child"
  | .descendant => "descendant"
  | .descendantOrSelf => "descendant-or-self"
  | .parent => "parent"
  | .ancestor => "ancestor"
  | .ancestorOrSelf => "ancestor-or-self"
  | .followingSibling => "following-sibling"
  | .precedingSibling => "preceding-sibling"
  | .attribute => "attribute"

theorem Axis.ofName?_name (axis : Axis) : ofName? axis.name = some axis := by
  cases axis <;> rfl

/-- Axes are looked up by these names, and by no others. -/
theorem Axis.name_of_ofName? {n : String} {axis : Axis} (h : ofName? n = some axis) :
    axis.name = n := by
  obtain ⟨before, after, listed, _⟩ := List.lookup_eq_some_iff.mp h
  have named : ∀ e ∈ Axis.names, e.2.name = e.1 := by decide
  exact named (n, axis) (listed ▸ List.mem_append_right before List.mem_cons_self)

/-- The phrases of the grammar. -/
inductive Phrase where
  | union
  | branch
  | steps
  | step
  | test
  | filters
  | disjunction
  | conjunction
  | unary

/-- What a phrase stands for. -/
@[reducible] def Phrase.Value : Phrase → Type
  | .union => List Branch
  | .branch => Branch
  | .steps => List Step
  | .step => Step
  | .test => NodeTest
  | .filters => List Filter
  | .disjunction | .conjunction | .unary => Filter

/-- The rules of the grammar. `Derives x ts v rest` says that `ts` starts with a phrase `x` of
    value `v` and goes on with `rest`. -/
inductive Derives : (x : Phrase) → List Token → x.Value → List Token → Prop
  /-- `union = branch ('|' branch)*` -/
  | single {ts rest b} : Derives .branch ts b rest → Derives .union ts [b] rest
  | alternative {ts mid rest b more} : Derives .branch ts b (.pipe :: mid) →
      Derives .union mid more rest → Derives .union ts (b :: more) rest
  /-- `branch = '/' steps? | '//' steps | steps` -/
  | root {rest} : startsStep rest = false → Derives .branch (.slash :: rest) ⟨true, []⟩ rest
  | absolute {ts rest steps} : Derives .steps ts steps rest →
      Derives .branch (.slash :: ts) ⟨true, steps⟩ rest
  | anywhere {ts rest steps} : Derives .steps ts steps rest →
      Derives .branch (.doubleSlash :: ts) ⟨true, Step.anywhere :: steps⟩ rest
  | relative {ts rest steps} : Derives .steps ts steps rest →
      Derives .branch ts ⟨false, steps⟩ rest
  /-- `steps = step (('/' | '//') step)*` -/
  | last {ts rest s} : Derives .step ts s rest → Derives .steps ts [s] rest
  | next {ts mid rest s more} : Derives .step ts s (.slash :: mid) →
      Derives .steps mid more rest → Derives .steps ts (s :: more) rest
  | nextBelow {ts mid rest s more} : Derives .step ts s (.doubleSlash :: mid) →
      Derives .steps mid more rest → Derives .steps ts (s :: Step.anywhere :: more) rest
  /-- `step = '.' | '..' | '@' test filter* | (axis '::')? test filter*` -/
  | here {rest} : Derives .step (.dot :: rest) Step.here rest
  | up {rest} : Derives .step (.dotDot :: rest) Step.up rest
  | atSign {ts mid rest test filters} : Derives .test ts test mid →
      Derives .filters mid filters rest →
        Derives .step (.atSign :: ts) ⟨.attribute, test, filters⟩ rest
  | axis {axis ts mid rest test filters} : Derives .test ts test mid →
      Derives .filters mid filters rest →
        Derives .step (.name axis.name :: .colonColon :: ts) ⟨axis, test, filters⟩ rest
  | child {ts mid rest test filters} : Derives .test ts test mid →
      Derives .filters mid filters rest → Derives .step ts ⟨.child, test, filters⟩ rest
  /-- `test = name | '*' | 'text()' | 'node()'` -/
  | name {n rest} : Derives .test (.name n :: rest) (.name n) rest
  | wildcard {rest} : Derives .test (.star :: rest) .wildcard rest
  | text {rest} :
      Derives .test (.name "text" :: .openParenthesis :: .closeParenthesis :: rest) .text rest
  | anyNode {rest} :
      Derives .test (.name "node" :: .openParenthesis :: .closeParenthesis :: rest) .anyNode rest
  /-- `filter = '[' disjunction ']'` -/
  | noFilter {rest} : Derives .filters rest [] rest
  | filter {ts mid rest f more} : Derives .disjunction ts f (.closeBracket :: mid) →
      Derives .filters mid more rest → Derives .filters (.openBracket :: ts) (f :: more) rest
  /-- `disjunction = conjunction ('or' conjunction)*`, from the left -/
  | noOr {ts rest f} : Derives .conjunction ts f rest → Derives .disjunction ts f rest
  | or {ts mid rest left right} : Derives .disjunction ts left (.name "or" :: mid) →
      Derives .conjunction mid right rest → Derives .disjunction ts (.or left right) rest
  /-- `conjunction = unary ('and' unary)*`, from the left -/
  | noAnd {ts rest f} : Derives .unary ts f rest → Derives .conjunction ts f rest
  | and {ts mid rest left right} : Derives .conjunction ts left (.name "and" :: mid) →
      Derives .unary mid right rest → Derives .conjunction ts (.and left right) rest
  /-- `unary = 'not(' disjunction ')' | 'count(' union ')' comparison number`
      `| '(' disjunction ')' | number | union (comparison (literal | number))?` -/
  | not {ts rest f} : Derives .disjunction ts f (.closeParenthesis :: rest) →
      Derives .unary (.name "not" :: .openParenthesis :: ts) (.not f) rest
  | count {ts rest union c value} :
      Derives .union ts union (.closeParenthesis :: .comparison c :: .number value :: rest) →
        Derives .unary (.name "count" :: .openParenthesis :: ts) (.count union c value) rest
  | parentheses {ts rest f} : Derives .disjunction ts f (.closeParenthesis :: rest) →
      Derives .unary (.openParenthesis :: ts) f rest
  | position {n rest} : 1 ≤ n → Derives .unary (.number n :: rest) (.position n.toNat) rest
  | notCompared {ts rest union} : Derives .union ts union rest → Derives .unary ts (.exists union) rest
  | compareText {ts rest union c value} :
      Derives .union ts union (.comparison c :: .literal value :: rest) → c.isEquality = true →
        Derives .unary ts (.compare union c (.text value)) rest
  | compareNumber {ts rest union c value} :
      Derives .union ts union (.comparison c :: .number value :: rest) →
        Derives .unary ts (.compare union c (.number value)) rest

theorem Derives.startsStep_of_step {ts rest : List Token} {s : Step}
    (h : Derives .step ts s rest) : startsStep ts = true := by
  cases h with
  | here | up | atSign | axis => rfl
  | child test => cases test <;> rfl

theorem Derives.startsStep_of_steps {ts rest : List Token} {steps : List Step}
    (h : Derives .steps ts steps rest) : startsStep ts = true := by
  cases h with
  | last step => exact step.startsStep_of_step
  | next step | nextBelow step => exact step.startsStep_of_step

/-- **A step can start** exactly with the tokens that the grammar derives some step from. -/
theorem startsStep_iff_derives {ts : List Token} :
    startsStep ts = true ↔ ∃ t us s rest, ts.head? = some t ∧ Derives .step (t :: us) s rest := by
  constructor
  · intro h
    cases ts with
    | nil => cases h
    | cons t rest =>
      cases t with
      | dot => exact ⟨_, rest, _, rest, rfl, .here⟩
      | dotDot => exact ⟨_, rest, _, rest, rfl, .up⟩
      | atSign => exact ⟨_, [.star], _, [], rfl, .atSign .wildcard .noFilter⟩
      | star => exact ⟨_, rest, _, rest, rfl, .child .wildcard .noFilter⟩
      | name n => exact ⟨_, rest, _, rest, rfl, .child .name .noFilter⟩
      | _ => cases h
  · intro h
    obtain ⟨t, us, s, rest, head, derived⟩ := h
    obtain ⟨tail, rfl⟩ := List.head?_eq_some_iff.mp head
    -- the look ahead sees one token, whatever the step goes on with
    have ahead : startsStep (t :: tail) = startsStep (t :: us) := by cases t <;> rfl
    rw [ahead]
    exact derived.startsStep_of_step

/-- How deep in the grammar a phrase is. A deeper one is part of the others. -/
def Phrase.depth : Phrase → Nat
  | .disjunction => 0
  | .conjunction | .unary => 1
  | .union => 2
  | .branch | .steps => 3
  | .step | .filters => 4
  | .test => 5

/-- The least depth of the phrases that a token may stand behind, if it may stand behind any. -/
def Token.closes? : Token → Option Nat
  | .closeBracket | .closeParenthesis => some 0
  | .name n => if n = "or" then some 0 else if n = "and" then some 1 else none
  | .comparison _ => some 2
  | .pipe => some 3
  | .slash | .doubleSlash => some 4
  | .openBracket => some 5
  | _ => none

/-- Whether a phrase may end in front of these tokens. -/
def Phrase.EndsAt (x : Phrase) (rest : List Token) : Prop :=
  ∀ t ∈ rest.head?, ∃ d, t.closes? = some d ∧ d ≤ x.depth

theorem Phrase.EndsAt.nil {x : Phrase} : x.EndsAt [] := by
  rintro _ ⟨⟩

theorem Phrase.EndsAt.cons {x : Phrase} {t : Token} {rest : List Token} {d : Nat}
    (h : t.closes? = some d) (hd : d ≤ x.depth) : x.EndsAt (t :: rest) := by
  rintro _ ⟨⟩
  exact ⟨d, h, hd⟩

/-- A token that closes deeper phrases only does not stand behind this one. -/
theorem Phrase.EndsAt.not_cons {x : Phrase} {t : Token} {rest : List Token}
    (ht : ∀ d, t.closes? = some d → x.depth < d) : ¬ x.EndsAt (t :: rest) := by
  intro h
  obtain ⟨d, hd, hle⟩ := h t rfl
  exact absurd hle (Nat.not_le_of_lt (ht d hd))

/-- What may stand behind a phrase may stand behind its parts. -/
theorem Phrase.EndsAt.mono {x y : Phrase} {rest : List Token} (h : x.EndsAt rest)
    (hxy : x.depth ≤ y.depth) : y.EndsAt rest := by
  intro t ht
  obtain ⟨d, hd, hle⟩ := h t ht
  exact ⟨d, hd, Nat.le_trans hle hxy⟩

end MarkupRules.Path
