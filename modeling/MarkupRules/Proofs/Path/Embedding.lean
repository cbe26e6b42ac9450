import MarkupRules.Proofs.Path.Lexing
import MarkupRules.Proofs.Path.Parsing

/-!
# Expressions inside other texts

An expression that stands inside a longer text is read as it is read on its own, if what is behind
it neither goes on with its last token nor starts a step: behind a slash alone, that would be read
as a step of the expression.

* `readToken_append` -- **a token ends where it would end on its own**;
* `LexesAhead` -- the tokens of a text, whatever stands behind it;
* `lexes_append`, `LexesAhead.of_tokensFrom` -- a text has the same tokens in front of others;
* `Derives.exists_front` -- a phrase has its own tokens, and `Derives.append` -- **it has the same
  value in front of others**;
* `contextIf`, `valueFilter`, `comparisonFilter`, `countFilter` -- texts with a path inside, and
  `ReadsAsFilter`, what they are read as;
* `ReadsAsFilter.compile_contextIf` -- **a filter is read in the query for the context**.
-/

namespace MarkupRules.Path

variable {c : Char} {cs rest behind tail : List Char} {t : Token} {ts us more : List Token}

/-! ## 1. Tokens -/

/-- What does not go on with a token, whatever the token is. -/
def EndsToken (tail : List Char) : Prop :=
  ∀ c ∈ tail.head?, isNameChar c = false ∧ c.isDigit = false ∧ c ∉ ['/', '.', ':', '=']

/-- The same but for a slash, which goes on with a slash only. -/
def EndsButSlash (tail : List Char) : Prop :=
  ∀ c ∈ tail.head?, isNameChar c = false ∧ c.isDigit = false ∧ c ∉ ['.', ':', '=']

theorem EndsToken.butSlash (h : EndsToken tail) : EndsButSlash tail := by
  intro c hc
  obtain ⟨noName, noDigit, noSign⟩ := h c hc
  exact ⟨noName, noDigit, fun met => noSign (List.mem_cons_of_mem _ met)⟩

theorem EndsToken.head?_ne_slash (h : EndsToken tail) : tail.head? ≠ some '/' :=
  fun slash => (h '/' slash).2.2 List.mem_cons_self

theorem EndsButSlash.endsName (h : EndsButSlash tail) : EndsName tail := by
  intro c hc
  obtain ⟨noName, _, noSign⟩ := h c hc
  refine ⟨noName, ?_⟩
  rintro rfl
  exact absurd (by decide) noSign

/-- The second character of a sign does not stand behind a text. -/
theorem EndsButSlash.append_ne_cons {d : Char} (h : EndsButSlash tail) (hd : d ∈ ['.', ':', '='])
    (first : ∀ behind, rest ≠ d :: behind) : ∀ behind, rest ++ tail ≠ d :: behind := by
  intro behind same
  cases rest with
  | nil =>
    have sign : d ∈ tail.head? := List.head?_eq_some_iff.mpr ⟨behind, same⟩
    exact (h d sign).2.2 hd
  | cons e rest =>
    cases same
    exact first rest rfl

theorem readToken_quote (h : c = '\x27' ∨ c = '\x22') : readToken c rest =
    match rest.dropWhile (· != c) with
    | [] => .error .unterminatedLiteral
    | _ :: behind => .ok (.literal (String.ofList (rest.takeWhile (· != c))), behind) := by
  rcases h with rfl | rfl <;> rfl

/-- A character that is no quote is not taken for one. -/
theorem not_decide_quote (h : ¬ (c = '\x27' ∨ c = '\x22')) :
    ¬ (decide (c = '\x27') || decide (c = '\x22')) = true := by
  rw [Bool.or_eq_true, decide_eq_true_eq, decide_eq_true_eq]
  exact h

/-- A run of characters is the same in front of others, if it ends before them or at them. -/
theorem takeWhile_and_dropWhile_of_stops {p : Char → Bool} (tail : List Char)
    (stops : rest.dropWhile p ≠ [] ∨ ∀ c ∈ tail.head?, p c = false) :
    (rest ++ tail).takeWhile p = rest.takeWhile p ∧
      (rest ++ tail).dropWhile p = rest.dropWhile p ++ tail := by
  have dropped : (rest ++ tail).dropWhile p = rest.dropWhile p ++ tail := by
    rw [List.dropWhile_append]
    split
    · rename_i all
      have nothing := List.isEmpty_iff.mp all
      have apart := stops.resolve_left (not_not_intro nothing)
      rw [nothing]
      exact (takeWhile_and_dropWhile_append (fun _ h => absurd h List.not_mem_nil) apart).2
    · rfl
  refine ⟨?_, dropped⟩
  have parts : (rest ++ tail).takeWhile p ++ (rest.dropWhile p ++ tail) =
      rest.takeWhile p ++ (rest.dropWhile p ++ tail) := by
    rw [← dropped, List.takeWhile_append_dropWhile, dropped, ← List.append_assoc,
      List.takeWhile_append_dropWhile]
  exact List.append_cancel_right parts

/-- **A token ends where it would end on its own**, if no slash meets another one. -/
theorem readToken_append (apart : EndsButSlash tail)
    (single : t = .slash → (rest ++ tail).head? ≠ some '/') (h : readToken c rest = .ok (t, behind)) :
    readToken c (rest ++ tail) = .ok (t, behind ++ tail) := by
  by_cases digit : c.isDigit = true
  · have noDigit : ∀ d ∈ tail.head?, d.isDigit = false := fun d hd => (apart d hd).2.1
    obtain ⟨taken, dropped⟩ := takeWhile_and_dropWhile_of_stops tail (.inr noDigit)
    rw [readToken_of_isDigit digit] at h ⊢
    rw [taken, dropped]
    split at h
    · cases h
    · cases h
      rfl
  by_cases start : isNameStart c = true
  · have more := takeName_append_tail (takeName_of_endsName apart.endsName) rest
    rw [readToken_of_isNameStart start] at h ⊢
    cases h
    rw [more]
  by_cases quote : c = '\x27' ∨ c = '\x22'
  · rw [readToken_quote quote] at h ⊢
    cases closed : rest.dropWhile (· != c) with
    | nil =>
      rw [closed] at h
      cases h
    | cons q behind' =>
      have found : rest.dropWhile (· != c) ≠ [] := closed ▸ List.cons_ne_nil q behind'
      obtain ⟨taken, dropped⟩ := takeWhile_and_dropWhile_of_stops tail (.inl found)
      rw [closed] at h dropped
      cases h
      rw [taken, dropped]
      rfl
  -- signs are left; only those that are the first half of another sign look ahead
  unfold readToken at h
  split at h
  case h_2 =>
    cases h
    rw [readToken]
    exact fun _ same => single rfl (same ▸ rfl)
  case h_11 alone | h_16 alone | h_18 alone =>
    cases h
    rw [readToken]
    exact apart.append_ne_cons (by decide) alone
  case h_19 =>
    rw [if_neg (not_decide_quote quote), if_neg digit, if_neg start] at h
    cases h
  all_goals
    cases h
    rfl

/-! ## 2. Texts -/

/-- The text is cut into these tokens, whatever stands behind it that does not go on with it. -/
def LexesAhead (cs : List Char) (us : List Token) : Prop :=
  ∀ ⦃tail : List Char⦄ ⦃ts : List Token⦄, EndsToken tail → Lexes tail ts →
    Lexes (cs ++ tail) (us ++ ts)

/-- A slash is read where it does not meet another one. -/
theorem of_readToken_eq_slash (h : readToken c rest = .ok (.slash, behind)) :
    behind = rest ∧ rest.head? ≠ some '/' := by
  unfold readToken at h
  split at h
  case h_2 alone =>
    cases h
    refine ⟨rfl, fun slash => ?_⟩
    obtain ⟨more, same⟩ := List.head?_eq_some_iff.mp slash
    exact alone more same
  case h_19 =>
    split at h
    · split at h <;> cases h
    · split at h
      · split at h <;> cases h
      · split at h <;> cases h
  all_goals cases h

/-- **A text has the same tokens in front of others**, if a slash at its end does not meet another
    one. -/
theorem lexes_append {total : Nat} (apart : EndsButSlash tail) (more : Lexes tail ts) :
    ∀ {cs : List Char} {placed : List Placed}, tokensFrom total cs = .ok placed →
      (tail.head? = some '/' → (placed.map (·.token)).getLast? ≠ some .slash) →
        Lexes (cs ++ tail) (placed.map (·.token) ++ ts)
  | [], placed, h, _ => by
    rw [tokensFrom] at h
    cases h
    exact more
  | c :: rest, placed, h, last => by
    cases blank : Text.isBlank c with
    | true =>
      rw [tokensFrom, if_pos blank] at h
      exact .blank blank (lexes_append apart more h last)
    | false =>
      obtain ⟨t, behind, others, read, cut, rfl⟩ := exists_readToken blank h
      have short := length_le_of_readToken read
      have single : t = .slash → (rest ++ tail).head? ≠ some '/' := by
        rintro rfl
        obtain ⟨rfl, alone⟩ := of_readToken_eq_slash read
        cases behind with
        | nil =>
          rw [tokensFrom] at cut
          cases cut
          exact fun slash => last slash rfl
        | cons d behind => exact alone
      refine .cons blank (readToken_append apart single read) (lexes_append apart more cut ?_)
      intro slash met
      refine last slash ?_
      rw [List.map_cons, List.getLast?_cons, met]
      rfl
termination_by cs => cs.length

/-- **A text has the same tokens** in front of what goes on with none of them. -/
theorem LexesAhead.of_tokensFrom {total : Nat} {placed : List Placed}
    (h : tokensFrom total cs = .ok placed) : LexesAhead cs (placed.map (·.token)) :=
  fun _ _ apart more =>
    lexes_append apart.butSlash more h fun slash => absurd slash apart.head?_ne_slash

/-! ## 3. Phrases -/

theorem startsStep_append (apart : startsStep more = false) (h : startsStep ts = false) :
    startsStep (ts ++ more) = false := by
  cases ts with
  | nil => exact apart
  | cons t rest =>
    -- only the first token counts
    cases t <;> first | rfl | cases h

/-- Behind the same tokens, a step starts where one started before. -/
theorem startsStep_append_imp {rest anew : List Token}
    (h : startsStep rest = false → startsStep anew = false) (front : List Token) :
    startsStep (front ++ rest) = false → startsStep (front ++ anew) = false := by
  cases front with
  | nil => exact h
  | cons t front => cases t <;> exact id

/-- **A phrase has its own tokens**, and the same value in front of others. Only a slash alone looks
    ahead: where it stood for the document node, no step may start behind it now. By induction on
    the derivation. -/
theorem Derives.exists_front {x : Phrase} {v : x.Value} {rest : List Token}
    (h : Derives x ts v rest) : ∃ front, ts = front ++ rest ∧
      ∀ anew, (startsStep rest = false → startsStep anew = false) →
        Derives x (front ++ anew) v anew := by
  induction h with
  | single _ branch =>
    obtain ⟨front, rfl, first⟩ := branch
    exact ⟨front, rfl, fun anew ahead => .single (first anew ahead)⟩
  | alternative _ _ branch others =>
    obtain ⟨front, rfl, first⟩ := branch
    obtain ⟨behind, rfl, last⟩ := others
    refine ⟨front ++ .pipe :: behind, by simp, fun anew ahead => ?_⟩
    simpa using Derives.alternative (first _ fun _ => rfl) (last anew ahead)
  | root alone => exact ⟨[.slash], rfl, fun anew ahead => .root (ahead alone)⟩
  | absolute _ steps =>
    obtain ⟨front, rfl, others⟩ := steps
    exact ⟨.slash :: front, rfl, fun anew ahead => .absolute (others anew ahead)⟩
  | anywhere _ steps =>
    obtain ⟨front, rfl, others⟩ := steps
    exact ⟨.doubleSlash :: front, rfl, fun anew ahead => .anywhere (others anew ahead)⟩
  | relative _ steps =>
    obtain ⟨front, rfl, others⟩ := steps
    exact ⟨front, rfl, fun anew ahead => .relative (others anew ahead)⟩
  | last _ step =>
    obtain ⟨front, rfl, first⟩ := step
    exact ⟨front, rfl, fun anew ahead => .last (first anew ahead)⟩
  | next _ _ step steps =>
    obtain ⟨front, rfl, first⟩ := step
    obtain ⟨behind, rfl, others⟩ := steps
    refine ⟨front ++ .slash :: behind, by simp, fun anew ahead => ?_⟩
    simpa using Derives.next (first _ fun _ => rfl) (others anew ahead)
  | nextBelow _ _ step steps =>
    obtain ⟨front, rfl, first⟩ := step
    obtain ⟨behind, rfl, others⟩ := steps
    refine ⟨front ++ .doubleSlash :: behind, by simp, fun anew ahead => ?_⟩
    simpa using Derives.nextBelow (first _ fun _ => rfl) (others anew ahead)
  | here => exact ⟨[.dot], rfl, fun _ _ => .here⟩
  | up => exact ⟨[.dotDot], rfl, fun _ _ => .up⟩
  | atSign _ _ test filters =>
    obtain ⟨front, rfl, first⟩ := test
    obtain ⟨behind, rfl, others⟩ := filters
    refine ⟨.atSign :: (front ++ behind), by simp, fun anew ahead => ?_⟩
    simpa using Derives.atSign (first _ (startsStep_append_imp ahead behind)) (others anew ahead)
  | @axis axis _ _ _ _ _ _ _ test filters =>
    obtain ⟨front, rfl, first⟩ := test
    obtain ⟨behind, rfl, others⟩ := filters
    refine ⟨.name axis.name :: .colonColon :: (front ++ behind), by simp, fun anew ahead => ?_⟩
    simpa using Derives.axis (first _ (startsStep_append_imp ahead behind)) (others anew ahead)
  | child _ _ test filters =>
    obtain ⟨front, rfl, first⟩ := test
    obtain ⟨behind, rfl, others⟩ := filters
    refine ⟨front ++ behind, by simp, fun anew ahead => ?_⟩
    simpa using Derives.child (first _ (startsStep_append_imp ahead behind)) (others anew ahead)
  | @name n _ => exact ⟨[.name n], rfl, fun _ _ => .name⟩
  | wildcard => exact ⟨[.star], rfl, fun _ _ => .wildcard⟩
  | text => exact ⟨[_, _, _], rfl, fun _ _ => .text⟩
  | anyNode => exact ⟨[_, _, _], rfl, fun _ _ => .anyNode⟩
  | noFilter => exact ⟨[], rfl, fun _ _ => .noFilter⟩
  | filter _ _ inner filters =>
    obtain ⟨front, rfl, first⟩ := inner
    obtain ⟨behind, rfl, others⟩ := filters
    refine ⟨.openBracket :: (front ++ .closeBracket :: behind), by simp, fun anew ahead => ?_⟩
    simpa using Derives.filter (first _ fun _ => rfl) (others anew ahead)
  | noOr _ operand =>
    obtain ⟨front, rfl, first⟩ := operand
    exact ⟨front, rfl, fun anew ahead => .noOr (first anew ahead)⟩
  | or _ _ left right =>
    obtain ⟨front, rfl, first⟩ := left
    obtain ⟨behind, rfl, last⟩ := right
    refine ⟨front ++ .name "or" :: behind, by simp, fun anew ahead => ?_⟩
    simpa using Derives.or (first (.name "or" :: (behind ++ anew)) id) (last anew ahead)
  | noAnd _ operand =>
    obtain ⟨front, rfl, first⟩ := operand
    exact ⟨front, rfl, fun anew ahead => .noAnd (first anew ahead)⟩
  | and _ _ left right =>
    obtain ⟨front, rfl, first⟩ := left
    obtain ⟨behind, rfl, last⟩ := right
    refine ⟨front ++ .name "and" :: behind, by simp, fun anew ahead => ?_⟩
    simpa using Derives.and (first (.name "and" :: (behind ++ anew)) id) (last anew ahead)
  | not _ inner =>
    obtain ⟨front, rfl, first⟩ := inner
    refine ⟨.name "not" :: .openParenthesis :: (front ++ [.closeParenthesis]), by simp,
      fun anew _ => ?_⟩
    simpa using Derives.not (first (.closeParenthesis :: anew) fun _ => rfl)
  | @count _ _ _ c value _ union =>
    obtain ⟨front, rfl, first⟩ := union
    refine ⟨.name "count" :: .openParenthesis ::
      (front ++ [.closeParenthesis, .comparison c, .number value]), by simp, fun anew _ => ?_⟩
    simpa using Derives.count (first (.closeParenthesis :: .comparison c :: .number value :: anew)
      fun _ => rfl)
  | parentheses _ inner =>
    obtain ⟨front, rfl, first⟩ := inner
    refine ⟨.openParenthesis :: (front ++ [.closeParenthesis]), by simp, fun anew _ => ?_⟩
    simpa using Derives.parentheses (first (.closeParenthesis :: anew) fun _ => rfl)
  | @position n _ positive => exact ⟨[.number n], rfl, fun _ _ => .position positive⟩
  | notCompared _ union =>
    obtain ⟨front, rfl, first⟩ := union
    exact ⟨front, rfl, fun anew ahead => .notCompared (first anew ahead)⟩
  | @compareText _ _ _ c value _ equality union =>
    obtain ⟨front, rfl, first⟩ := union
    refine ⟨front ++ [.comparison c, .literal value], by simp, fun anew _ => ?_⟩
    simpa using Derives.compareText (first (.comparison c :: .literal value :: anew) fun _ => rfl)
      equality
  | @compareNumber _ _ _ c value _ union =>
    obtain ⟨front, rfl, first⟩ := union
    refine ⟨front ++ [.comparison c, .number value], by simp, fun anew _ => ?_⟩
    simpa using Derives.compareNumber (first (.comparison c :: .number value :: anew) fun _ => rfl)

/-- **A phrase has the same value in front of others**, unless a step starts there. -/
theorem Derives.append {x : Phrase} {v : x.Value} {rest : List Token}
    (apart : startsStep more = false) (h : Derives x ts v rest) :
    Derives x (ts ++ more) v (rest ++ more) := by
  obtain ⟨front, rfl, again⟩ := h.exists_front
  rw [List.append_assoc]
  exact again _ (startsStep_append apart)

/-! ## 4. Filters -/

/-- A comparison as it is written. -/
def Comparison.sign : Comparison → String
  | .eq => "="
  | .ne => "!="
  | .lt => "<"
  | .le => "<="
  | .gt => ">"
  | .ge => ">="

/-- The query for the context, which is selected if it passes the filter. -/
def contextIf (filter : String) : String :=
  "self::node()[" ++ filter ++ "]"

/-- A text between two quotes. -/
def quoted (q : Char) (value : String) : String :=
  String.singleton q ++ value ++ String.singleton q

/-- The filter for a value of the path that equals the literal. -/
def valueFilter (path literal : String) : String :=
  path ++ " = " ++ literal

/-- The filter for a value of the path that compares with the literal as asked. -/
def comparisonFilter (path : String) (c : Comparison) (literal : String) : String :=
  path ++ " " ++ c.sign ++ " " ++ literal

/-- The filter for the number of items that the path selects. -/
def countFilter (path : String) (c : Comparison) (n : Nat) : String :=
  "count(" ++ path ++ ") " ++ c.sign ++ " " ++ toString n

/-- In brackets, the text is read as the filter. -/
def ReadsAsFilter (text : String) (f : Filter) : Prop :=
  ∃ us, LexesAhead text.toList us ∧
    Derives .disjunction (us ++ [.closeBracket]) f [.closeBracket]

variable {path : String} {x : Expr} {f : Filter} {n : Nat}

/-- **A compiled text has its tokens in front of others**, and they write its union. -/
theorem Expr.lexesAhead_of_compile (h : Expr.compile path = .ok x) :
    ∃ us, LexesAhead path.toList us ∧ Derives .union us x.union [] := by
  obtain ⟨_, placed, cut, read⟩ := Expr.compile_eq_ok_iff.mp h
  exact ⟨_, .of_tokensFrom cut, readAll_eq_ok_iff.mp read⟩

/-- Behind a blank, a closing bracket or a closing parenthesis, everything starts anew. -/
theorem endsToken_of_head? (h : c = ' ' ∨ c = ']' ∨ c = ')') : EndsToken (c :: rest) := by
  have noName : isNameChar c = false := by
    rcases h with rfl | rfl | rfl <;> decide
  rintro _ ⟨⟩
  refine ⟨noName, ?_⟩
  rcases h with rfl | rfl | rfl <;> decide

/-- **A quoted text is read back**, if the quote is not part of it. -/
theorem LexesAhead.quoted {q : Char} {value : String} (quote : q = '\x27' ∨ q = '\x22')
    (absent : q ∉ value.toList) : LexesAhead (quoted q value).toList [.literal value] := by
  intro tail ts _ more
  have blank : Text.isBlank q = false := by rcases quote with rfl | rfl <;> decide
  have inside : ∀ c ∈ value.toList, (c != q) = true := by
    intro c hc
    rw [bne_iff_ne]
    rintro rfl
    exact absent hc
  have stops : ∀ c ∈ (q :: tail).head?, (c != q) = false := by
    rintro _ ⟨⟩
    exact bne_self_eq_false q
  obtain ⟨taken, dropped⟩ := takeWhile_and_dropWhile_append inside stops
  have read : readToken q (value.toList ++ q :: tail) = .ok (.literal value, tail) := by
    rw [readToken_quote quote, dropped, taken, String.ofList_toList]
  simpa [Path.quoted] using Lexes.cons blank read more

theorem LexesAhead.digits {literal : String} (read : Text.readDigits literal.toList = some n)
    (hn : n < 2 ^ 63) : LexesAhead literal.toList [.number n] :=
  fun _ _ apart more => .digits read hn (fun c hc => (apart c hc).2.1) more

theorem LexesAhead.number (hn : n < 2 ^ 63) : LexesAhead (toString n).toList [.number n] :=
  fun _ _ apart more => .number hn (fun c hc => (apart c hc).2.1) more

/-- A comparison is read back from its sign. -/
theorem Lexes.sign (op : Comparison) (more : Lexes rest ts) :
    Lexes (op.sign.toList ++ ' ' :: rest) (.comparison op :: ts) := by
  have spaced : Lexes (' ' :: rest) ts := .blank rfl more
  cases op <;> exact .cons (by decide) rfl spaced

theorem ReadsAsFilter.exists (h : Expr.compile path = .ok x) :
    ReadsAsFilter path (.exists x.union) := by
  obtain ⟨us, lexes, derived⟩ := Expr.lexesAhead_of_compile h
  exact ⟨us, lexes, .noOr (.noAnd (.notCompared (derived.append rfl)))⟩

/-- The tokens of a path, of a comparison and of a literal. -/
theorem LexesAhead.comparisonFilter {us : List Token} {literal : String} (op : Comparison)
    (hpath : LexesAhead path.toList us) (hliteral : LexesAhead literal.toList [t]) :
    LexesAhead (comparisonFilter path op literal).toList (us ++ [.comparison op, t]) := by
  intro tail ts apart more
  have behind : Lexes (' ' :: (op.sign.toList ++ ' ' :: (literal.toList ++ tail)))
      (.comparison op :: t :: ts) := .blank rfl (Lexes.sign op (hliteral apart more))
  simpa [Path.comparisonFilter] using hpath (endsToken_of_head? (.inl rfl)) behind

theorem LexesAhead.valueFilter {us : List Token} {literal : String}
    (hpath : LexesAhead path.toList us) (hliteral : LexesAhead literal.toList [t]) :
    LexesAhead (valueFilter path literal).toList (us ++ [.comparison .eq, t]) := by
  have written : Path.valueFilter path literal = Path.comparisonFilter path .eq literal := by
    simp [Path.valueFilter, Path.comparisonFilter, Comparison.sign, String.append_assoc]
  rw [written]
  exact hpath.comparisonFilter .eq hliteral

theorem ReadsAsFilter.compareText {q : Char} {value : String} (h : Expr.compile path = .ok x)
    (quote : q = '\x27' ∨ q = '\x22') (absent : q ∉ value.toList) :
    ReadsAsFilter (valueFilter path (quoted q value)) (.compare x.union .eq (.text value)) := by
  obtain ⟨us, lexes, derived⟩ := Expr.lexesAhead_of_compile h
  refine ⟨_, lexes.valueFilter (.quoted quote absent), .noOr (.noAnd (.compareText ?_ rfl))⟩
  rw [List.append_assoc]
  exact derived.append rfl

theorem ReadsAsFilter.compareNumber (h : Expr.compile path = .ok x) (hn : n < 2 ^ 63) :
    ReadsAsFilter (valueFilter path (toString n)) (.compare x.union .eq (.number n)) := by
  obtain ⟨us, lexes, derived⟩ := Expr.lexesAhead_of_compile h
  refine ⟨_, lexes.valueFilter (.number hn), .noOr (.noAnd (.compareNumber ?_))⟩
  rw [List.append_assoc]
  exact derived.append rfl

theorem ReadsAsFilter.count (h : Expr.compile path = .ok x) (op : Comparison) (hn : n < 2 ^ 63) :
    ReadsAsFilter (countFilter path op n) (.count x.union op n) := by
  obtain ⟨us, lexes, derived⟩ := Expr.lexesAhead_of_compile h
  refine ⟨.name "count" :: .openParenthesis ::
    (us ++ [.closeParenthesis, .comparison op, .number n]), ?_, .noOr (.noAnd (.count ?_))⟩
  · intro tail ts apart more
    have compared : Lexes (' ' :: (op.sign.toList ++ ' ' :: ((toString n).toList ++ tail)))
        (.comparison op :: .number n :: ts) :=
      .blank rfl (Lexes.sign op (LexesAhead.number hn apart more))
    have closed := lexes (endsToken_of_head? (.inr (.inr rfl)))
      (.cons (c := ')') (by decide) rfl compared)
    have opened := Lexes.cons (c := '(') (by decide) rfl closed
    have counted := Lexes.name (readsAsName_of_mem_keywords (n := "count") (by decide))
      (endsName_of_head? (.inr rfl)) opened
    simpa [countFilter] using counted
  · have union : Derives .union
        (us ++ [.closeParenthesis, .comparison op, .number n, .closeBracket]) x.union
        [.closeParenthesis, .comparison op, .number n, .closeBracket] := derived.append rfl
    simpa using union

theorem Expr.compile_of_lexes {source : String} {union : List Branch}
    (lexes : Lexes source.toList ts) (derived : Derives .union ts union []) :
    Expr.compile source = .ok ⟨source, union⟩ := by
  obtain ⟨placed, cut, rfl⟩ := lexes (byteLength source.toList)
  exact Expr.compile_eq_ok_iff.mpr ⟨rfl, placed, cut, readAll_eq_ok_iff.mpr derived⟩

/-- **A filter is read in the query for the context.** -/
theorem ReadsAsFilter.compile_contextIf {text : String} (h : ReadsAsFilter text f) :
    Expr.compile (contextIf text) =
      .ok ⟨contextIf text, [⟨false, [⟨.self, .anyNode, [f]⟩]⟩]⟩ := by
  obtain ⟨us, lexes, derived⟩ := h
  have lexed : Lexes (contextIf text).toList (.name "self" :: .colonColon :: .name "node" ::
      .openParenthesis :: .closeParenthesis :: .openBracket :: (us ++ [.closeBracket])) := by
    have closed := lexes (endsToken_of_head? (.inr (.inl rfl)))
      (.cons (c := ']') (by decide) rfl .nil)
    have opened := Lexes.cons (c := '[') (by decide) rfl closed
    have node := Lexes.name (readsAsName_of_mem_keywords (n := "node") (by decide))
      (endsName_of_head? (.inr rfl)) (.cons (by decide) rfl (.cons (c := ')') (by decide) rfl opened))
    -- two colons do not belong to the name of the axis
    have apart : takeName (':' :: ':' :: ("node".toList ++ '(' :: ')' :: '[' ::
        (text.toList ++ [']']))) = ([], _) := takeName_colon (by rintro _ ⟨⟩; decide)
    have axis := Lexes.name_of_takeName (readsAsName_of_mem_keywords (n := "self") (by decide))
      apart (.cons (by decide) rfl node)
    simpa [contextIf] using axis
  have step : Derives .step (.name Axis.self.name :: _) _ _ :=
    .axis .anyNode (.filter derived .noFilter)
  exact Expr.compile_of_lexes lexed (.single (.relative (.last step)))

end MarkupRules.Path
