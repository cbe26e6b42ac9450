import MarkupRules.Error
import MarkupRules.Path.Token

/-!
# Reading path expressions

The grammar of path expressions, production by production:

```text
union      = branch ('|' branch)*
branch     = '/' steps? | '//' steps | steps
steps      = step (('/' | '//') step)*
step       = '.' | '..' | '@' test filter* | (axis '::')? test filter*
test       = name | '*' | 'text()' | 'node()'
filter     = '[' disjunction ']'
disjunction = conjunction ('or' conjunction)*
conjunction = unary ('and' unary)*
unary      = 'not(' disjunction ')' | 'count(' union ')' comparison number
           | '(' disjunction ')' | number | union (comparison (literal | number))?
```

Every production is a function of the tokens still to be read. It answers with a value and the
tokens behind it (`Read`), or with a problem and the tokens it got stuck at (`Stuck`); the tokens
behind are fewer than those before, so the reading ends. `Expr.compile` reads a whole text and
finds the offset of a problem by the number of tokens left unread.
-/

namespace MarkupRules.Path

/-! ## 1. Answers -/

/-- A value and the tokens behind it, fewer than `bound`. -/
structure Read (α : Type) (bound : Nat) where
  value : α
  rest : List Token
  short : rest.length < bound

/-- A problem and the tokens it arose at. -/
structure Stuck where
  problem : Problem
  rest : List Token

/-- The answer of a production: it reads at least one of `ts`. -/
abbrev Reading (α : Type) (ts : List Token) : Type :=
  Except Stuck (Read α ts.length)

/-- The answer of a production that may read nothing of `ts`. -/
abbrev ReadingAny (α : Type) (ts : List Token) : Type :=
  Except Stuck (Read α (ts.length + 1))

/-- The same value behind a longer text. -/
def Read.weaken {α : Type} {m n : Nat} (r : Read α m) (h : m ≤ n) : Read α n :=
  ⟨r.value, r.rest, Nat.lt_of_lt_of_le r.short h⟩

/-- The value changed, the tokens behind it kept. -/
def Read.map {α β : Type} {n : Nat} (f : α → β) (r : Read α n) : Read β n :=
  ⟨f r.value, r.rest, r.short⟩

/-! ## 2. Productions without recursion -/

/-- What a closing parenthesis closes. -/
def readClose {α : Type} (value : α) (ts : List Token) : Reading α ts :=
  match ts with
  | .closeParenthesis :: rest => .ok ⟨value, rest, by simp⟩
  | ts => .error ⟨.expectedParenthesis, ts⟩

/-- A node test. A name with a parenthesis behind it is a function, and only two are known. -/
def readTest (ts : List Token) : Reading NodeTest ts :=
  match ts with
  | .star :: rest => .ok ⟨.wildcard, rest, by simp⟩
  | .name n :: .openParenthesis :: rest =>
    if n = "text" then
      (readClose .text rest).map (·.weaken (by simp only [List.length_cons]; omega))
    else if n = "node" then
      (readClose .anyNode rest).map (·.weaken (by simp only [List.length_cons]; omega))
    else .error ⟨.unsupportedFunction n, .name n :: .openParenthesis :: rest⟩
  | .name n :: rest => .ok ⟨.name n, rest, by simp⟩
  | ts => .error ⟨.expectedNodeTest, ts⟩

/-- Whether a step can start here. -/
def startsStep : List Token → Bool
  | .dot :: _ | .dotDot :: _ | .atSign :: _ => true
  | .star :: _ | .name _ :: _ => true
  | _ => false

/-! ## 3. The recursive productions -/

mutual
/-- `branch ('|' branch)*` -/
def readUnion (ts : List Token) : Reading (List Branch) ts := do
  let first ← readBranch ts
  match h : first.rest with
  | .pipe :: rest =>
    have := first.short
    have : rest.length < ts.length := by simp only [h, List.length_cons] at this; omega
    let more ← readUnion rest
    .ok ⟨first.value :: more.value, more.rest, Nat.lt_trans more.short this⟩
  | _ => .ok (first.map ([·]))
termination_by 16 * ts.length + 6

/-- `'/' steps? | '//' steps | steps`. Steps follow a single slash wherever one can start. -/
def readBranch (ts : List Token) : Reading Branch ts :=
  match ts with
  | .slash :: rest =>
    if startsStep rest then
      (readSteps rest).map fun r => (r.map (⟨true, ·⟩)).weaken (by simp)
    else .ok ⟨⟨true, []⟩, rest, by simp⟩
  | .doubleSlash :: rest =>
    (readSteps rest).map fun r => (r.map (⟨true, Step.anywhere :: ·⟩)).weaken (by simp)
  | ts => (readSteps ts).map (·.map (⟨false, ·⟩))
termination_by 16 * ts.length + 5

/-- `step (('/' | '//') step)*` -/
def readSteps (ts : List Token) : Reading (List Step) ts := do
  let first ← readStep ts
  match h : first.rest with
  | .slash :: rest =>
    have := first.short
    have : rest.length < ts.length := by simp only [h, List.length_cons] at this; omega
    let more ← readSteps rest
    .ok ⟨first.value :: more.value, more.rest, Nat.lt_trans more.short this⟩
  | .doubleSlash :: rest =>
    have := first.short
    have : rest.length < ts.length := by simp only [h, List.length_cons] at this; omega
    let more ← readSteps rest
    .ok ⟨first.value :: Step.anywhere :: more.value, more.rest, Nat.lt_trans more.short this⟩
  | _ => .ok (first.map ([·]))
termination_by 16 * ts.length + 4

/-- `'.' | '..' | '@' test filter* | (axis '::')? test filter*` -/
def readStep (ts : List Token) : Reading Step ts :=
  match ts with
  | .dot :: rest => .ok ⟨Step.here, rest, by simp⟩
  | .dotDot :: rest => .ok ⟨Step.up, rest, by simp⟩
  | .atSign :: rest => (readTested .attribute rest).map (·.weaken (by simp))
  | .name n :: .colonColon :: rest =>
    match Axis.ofName? n with
    | some axis =>
      (readTested axis rest).map (·.weaken (by simp only [List.length_cons]; omega))
    | none => .error ⟨.unsupportedAxis n, .name n :: .colonColon :: rest⟩
  | ts => readTested .child ts
termination_by 16 * ts.length + 3

/-- `test filter*`, on a given axis. -/
def readTested (axis : Axis) (ts : List Token) : Reading Step ts := do
  let test ← readTest ts
  have := test.short
  let filters ← readFilters test.rest
  .ok ⟨⟨axis, test.value, filters.value⟩, filters.rest, by have := filters.short; omega⟩
termination_by 16 * ts.length + 2

/-- `('[' disjunction ']')*` -/
def readFilters (ts : List Token) : ReadingAny (List Filter) ts :=
  match ts with
  | .openBracket :: rest => do
    let first ← readDisjunction rest
    match h : first.rest with
    | .closeBracket :: behind =>
      have := first.short
      have : behind.length < rest.length := by simp only [h, List.length_cons] at this; omega
      let more ← readFilters behind
      .ok ⟨first.value :: more.value, more.rest, by
        have := more.short; simp only [List.length_cons]; omega⟩
    | behind => .error ⟨.expectedBracket, behind⟩
  | ts => .ok ⟨[], ts, Nat.lt_succ_self _⟩
termination_by 16 * ts.length + 1

/-- `conjunction ('or' conjunction)*` -/
def readDisjunction (ts : List Token) : Reading Filter ts := do
  let first ← readConjunction ts
  have := first.short
  let all ← readMoreOr first.value first.rest
  .ok (all.weaken this)
termination_by 16 * ts.length + 10

/-- `('or' conjunction)*` behind `left`, which every further operand joins on the right. -/
def readMoreOr (left : Filter) (ts : List Token) : ReadingAny Filter ts :=
  match ts with
  | .name n :: rest =>
    if n = "or" then do
      let right ← readConjunction rest
      have := right.short
      let all ← readMoreOr (.or left right.value) right.rest
      .ok (all.weaken (by simp only [List.length_cons]; omega))
    else .ok ⟨left, .name n :: rest, Nat.lt_succ_self _⟩
  | ts => .ok ⟨left, ts, Nat.lt_succ_self _⟩
termination_by 16 * ts.length

/-- `unary ('and' unary)*` -/
def readConjunction (ts : List Token) : Reading Filter ts := do
  let first ← readUnary ts
  have := first.short
  let all ← readMoreAnd first.value first.rest
  .ok (all.weaken this)
termination_by 16 * ts.length + 9

/-- `('and' unary)*` behind `left`, which every further operand joins on the right. -/
def readMoreAnd (left : Filter) (ts : List Token) : ReadingAny Filter ts :=
  match ts with
  | .name n :: rest =>
    if n = "and" then do
      let right ← readUnary rest
      have := right.short
      let all ← readMoreAnd (.and left right.value) right.rest
      .ok (all.weaken (by simp only [List.length_cons]; omega))
    else .ok ⟨left, .name n :: rest, Nat.lt_succ_self _⟩
  | ts => .ok ⟨left, ts, Nat.lt_succ_self _⟩
termination_by 16 * ts.length

/-- `'not(' disjunction ')' | 'count(' union ')' comparison number | '(' disjunction ')' | number`
    or a union with or without a comparison. -/
def readUnary (ts : List Token) : Reading Filter ts :=
  match ts with
  | .name n :: .openParenthesis :: rest =>
    if n = "not" then do
      let inner ← readDisjunction rest
      have := inner.short
      let closed ← readClose (.not inner.value) inner.rest
      .ok (closed.weaken (by simp only [List.length_cons]; omega))
    else if n = "count" then do
      let counted ← readUnion rest
      have := counted.short
      let closed ← readClose counted.value counted.rest
      match h : closed.rest with
      | .comparison c :: .number value :: behind =>
        .ok ⟨.count closed.value c value, behind, by
          have := closed.short; simp only [h, List.length_cons] at this ⊢; omega⟩
      | .comparison _ :: behind => .error ⟨.countNotCompared, behind⟩
      | behind => .error ⟨.countNotCompared, behind⟩
    else if n = "text" ∨ n = "node" then
      readCompared (.name n :: .openParenthesis :: rest)
    else .error ⟨.unsupportedFunction n, .name n :: .openParenthesis :: rest⟩
  | .openParenthesis :: rest => do
    let inner ← readDisjunction rest
    have := inner.short
    let closed ← readClose inner.value inner.rest
    .ok (closed.weaken (by simp only [List.length_cons]; omega))
  | .number n :: rest =>
    -- the offset blamed is the one behind the number
    if n < 1 then .error ⟨.positionBelowOne, rest⟩ else .ok ⟨.position n.toNat, rest, by simp⟩
  | .literal value :: rest => .error ⟨.bareLiteral, .literal value :: rest⟩
  | ts => readCompared ts
termination_by 16 * ts.length + 8

/-- `union (comparison (literal | number))?`. A literal knows no order. -/
def readCompared (ts : List Token) : Reading Filter ts := do
  let selected ← readUnion ts
  have := selected.short
  match h : selected.rest with
  | .comparison c :: .literal value :: behind =>
    if c.isEquality then
      .ok ⟨.compare selected.value c (.text value), behind, by
        simp only [h, List.length_cons] at this; omega⟩
    else .error ⟨.orderedLiteral, .literal value :: behind⟩
  | .comparison c :: .number value :: behind =>
    .ok ⟨.compare selected.value c (.number value), behind, by
      simp only [h, List.length_cons] at this; omega⟩
  | .comparison _ :: behind => .error ⟨.expectedOperand, behind⟩
  | _ => .ok (selected.map .exists)
termination_by 16 * ts.length + 7
end

/-! ## 4. Whole expressions -/

/-- The union that all of the tokens write. -/
def readAll (ts : List Token) : Except Stuck (List Branch) := do
  let union ← readUnion ts
  match union.rest with
  | [] => .ok union.value
  | rest => .error ⟨.trailingInput, rest⟩

/-- The offset in bytes at which the tokens start, the end of the text if there are none. -/
def offsetOf (total : Nat) : List Placed → Nat
  | [] => total
  | t :: _ => t.offset

/-- The compiled form of an expression. Anything beyond the grammar is an error that carries the
    offset where the expression stops being supported. -/
def Expr.compile (source : String) : Except ConfigError Expr :=
  let cs := source.toList
  match tokens cs with
  | .error (problem, offset) => .error (.unsupported source offset problem.detail)
  | .ok ts =>
    match readAll (ts.map (·.token)) with
    | .error stuck =>
      let unread := ts.drop (ts.length - stuck.rest.length)
      .error (.unsupported source (offsetOf (byteLength cs) unread) stuck.problem.detail)
    | .ok union => .ok ⟨source, union⟩

end MarkupRules.Path
