import MarkupRules.Proofs.Path.Composition
import MarkupRules.Proofs.Path.Spacing

/-!
# Abbreviations in full

`.`, `..`, `@` and `//` are short for steps and axes that can be written in full, and an expression
with some of them in full is compiled to the same union.

* `Token.inFull?`, `Token.spelling` -- what an abbreviation stands for, as a text and as tokens;
* `spellOut` -- a text with the chosen ones of its abbreviations in full, each between blanks;
* `SpelledOut`, `Derives.spelledOut` -- **the tokens in full derive the same value**, in every phrase;
* `exists_spelledOut` -- the tokens of the new text are those of the old one, the chosen ones in full;
* `Expr.compile_spellOut` -- **abbreviations are nothing but short**.
-/

namespace MarkupRules.Path

variable {c : Char} {cs rest behind tail gap new : List Char} {t : Token} {ts us : List Token}
  {chosen : Placed → Bool} {total : Nat}

/-! ## 1. What abbreviations stand for -/

/-- What an abbreviation is in full. -/
def Token.inFull? : Token → Option String
  | .dot => some "self::node()"
  | .dotDot => some "parent::node()"
  | .atSign => some "attribute::"
  | .doubleSlash => some "/descendant-or-self::node()/"
  | _ => none

/-- The tokens that a token stands for, for most of them the token itself. -/
def Token.spelling : Token → List Token
  | .dot => [.name "self", .colonColon, .name "node", .openParenthesis, .closeParenthesis]
  | .dotDot => [.name "parent", .colonColon, .name "node", .openParenthesis, .closeParenthesis]
  | .atSign => [.name "attribute", .colonColon]
  | .doubleSlash => [.slash, .name "descendant-or-self", .colonColon, .name "node",
      .openParenthesis, .closeParenthesis, .slash]
  | t => [t]

/-- What stands for a token in the new text: what is written in the old one, or, if the token is
    chosen and an abbreviation, the same in full between blanks. -/
def Placed.respelled (chosen : Placed → Bool) (p : Placed) (written : List Char) : List Char :=
  match p.token.inFull? with
  | some full => if chosen p then ' ' :: (full.toList ++ [' ']) else written
  | none => written

/-- The end `cs` of a text of `total` bytes with the chosen abbreviations in full. What has no
    tokens stays as it is. -/
def spellOutFrom (chosen : Placed → Bool) (total : Nat) (cs : List Char) : List Char :=
  match cs with
  | [] => []
  | c :: rest =>
    if Text.isBlank c then c :: spellOutFrom chosen total rest
    else
      let offset := total - byteLength (c :: rest)
      match h : readToken c rest with
      | .error _ => c :: rest
      | .ok (token, behind) =>
        have := length_le_of_readToken h
        let written := (c :: rest).take ((c :: rest).length - behind.length)
        Placed.respelled chosen ⟨token, offset⟩ written ++ spellOutFrom chosen total behind
termination_by cs.length
decreasing_by all_goals simp only [List.length_cons]; omega

/-- The text with the chosen abbreviations in full, each between blanks. -/
def spellOut (chosen : Placed → Bool) (source : String) : String :=
  String.ofList (spellOutFrom chosen (byteLength source.toList) source.toList)

/-! ## 2. Phrases in full -/

/-- The second tokens are the first ones, some of them in full. -/
inductive SpelledOut : List Token → List Token → Prop
  | nil : SpelledOut [] []
  | keep {t : Token} {ts us : List Token} : SpelledOut ts us → SpelledOut (t :: ts) (t :: us)
  | expand {t : Token} {ts us : List Token} :
      SpelledOut ts us → SpelledOut (t :: ts) (t.spelling ++ us)

/-- Tokens that are no abbreviations stay. -/
theorem SpelledOut.of_plain (plain : List Token) (h : SpelledOut (plain ++ ts) us)
    (all : plain.map Token.spelling = plain.map ([·])) :
    ∃ ts', us = plain ++ ts' ∧ SpelledOut ts ts' := by
  induction plain generalizing us with
  | nil => exact ⟨us, rfl, h⟩
  | cons t plain ih =>
    obtain ⟨first, others⟩ := List.cons.inj all
    cases h with
    | keep more =>
      obtain ⟨ts', rfl, behind⟩ := ih more others
      exact ⟨ts', rfl, behind⟩
    | expand more =>
      obtain ⟨ts', rfl, behind⟩ := ih more others
      exact ⟨ts', by rw [first]; rfl, behind⟩

/-- Where no step starts, none starts in full. -/
theorem SpelledOut.startsStep (h : SpelledOut ts us) (start : startsStep ts = false) :
    startsStep us = false := by
  cases h with
  | nil => rfl
  | @keep t =>
    -- only the first token counts
    cases t <;> first | rfl | cases start
  | @expand t =>
    cases t <;> first | rfl | cases start

/-- The step that an abbreviation stands for, without filters. -/
theorem Derives.inFull (axis : Axis) {rest : List Token} :
    Derives .step (.name axis.name :: .colonColon :: .name "node" :: .openParenthesis ::
      .closeParenthesis :: rest) ⟨axis, .anyNode, []⟩ rest :=
  .axis .anyNode .noFilter

/-- **A phrase in full has the same value**, and what is behind it is in full as well. By induction
    on the derivation: the steps that stand for the abbreviations are derived by the rules for an
    axis, and two slashes by two slashes with a step between them. -/
theorem Derives.spelledOut {x : Phrase} {v : x.Value} {rest : List Token}
    (h : Derives x ts v rest) : ∀ {us : List Token}, SpelledOut ts us →
      ∃ rest', SpelledOut rest rest' ∧ Derives x us v rest' := by
  induction h with
  | single _ branch =>
    intro us full
    obtain ⟨rest', behind, b⟩ := branch full
    exact ⟨rest', behind, .single b⟩
  | alternative _ _ branch others =>
    intro us full
    obtain ⟨_, behind, b⟩ := branch full
    obtain ⟨mid, rfl, past⟩ := behind.of_plain [.pipe] rfl
    obtain ⟨rest', behind, more⟩ := others past
    exact ⟨rest', behind, .alternative b more⟩
  | root start =>
    intro us full
    obtain ⟨rest', rfl, past⟩ := full.of_plain [.slash] rfl
    exact ⟨rest', past, .root (past.startsStep start)⟩
  | absolute _ ih =>
    intro us full
    obtain ⟨_, rfl, inner⟩ := full.of_plain [.slash] rfl
    obtain ⟨rest', behind, steps⟩ := ih inner
    exact ⟨rest', behind, .absolute steps⟩
  | anywhere _ ih =>
    intro us full
    cases full with
    | keep full =>
      obtain ⟨rest', behind, steps⟩ := ih full
      exact ⟨rest', behind, .anywhere steps⟩
    | expand full =>
      obtain ⟨rest', behind, steps⟩ := ih full
      exact ⟨rest', behind, .absolute (.next (.inFull .descendantOrSelf) steps)⟩
  | relative _ ih =>
    intro us full
    obtain ⟨rest', behind, steps⟩ := ih full
    exact ⟨rest', behind, .relative steps⟩
  | last _ ih =>
    intro us full
    obtain ⟨rest', behind, s⟩ := ih full
    exact ⟨rest', behind, .last s⟩
  | next _ _ step others =>
    intro us full
    obtain ⟨_, behind, s⟩ := step full
    obtain ⟨mid, rfl, past⟩ := behind.of_plain [.slash] rfl
    obtain ⟨rest', behind, more⟩ := others past
    exact ⟨rest', behind, .next s more⟩
  | nextBelow _ _ step others =>
    intro us full
    obtain ⟨_, behind, s⟩ := step full
    cases behind with
    | keep behind =>
      obtain ⟨rest', behind, more⟩ := others behind
      exact ⟨rest', behind, .nextBelow s more⟩
    | expand behind =>
      obtain ⟨rest', behind, more⟩ := others behind
      exact ⟨rest', behind, .next s (.next (.inFull .descendantOrSelf) more)⟩
  | here =>
    intro us full
    cases full with
    | keep behind => exact ⟨_, behind, .here⟩
    | expand behind => exact ⟨_, behind, .inFull .self⟩
  | up =>
    intro us full
    cases full with
    | keep behind => exact ⟨_, behind, .up⟩
    | expand behind => exact ⟨_, behind, .inFull .parent⟩
  | atSign _ _ test filters =>
    intro us full
    cases full with
    | keep full =>
      obtain ⟨_, behind, accepted⟩ := test full
      obtain ⟨rest', behind, kept⟩ := filters behind
      exact ⟨rest', behind, .atSign accepted kept⟩
    | expand full =>
      obtain ⟨_, behind, accepted⟩ := test full
      obtain ⟨rest', behind, kept⟩ := filters behind
      exact ⟨rest', behind, @Derives.axis .attribute _ _ _ _ _ accepted kept⟩
  | axis _ _ test filters =>
    intro us full
    obtain ⟨_, rfl, inner⟩ := full.of_plain [.name _, .colonColon] rfl
    obtain ⟨_, behind, accepted⟩ := test inner
    obtain ⟨rest', behind, kept⟩ := filters behind
    exact ⟨rest', behind, .axis accepted kept⟩
  | child _ _ test filters =>
    intro us full
    obtain ⟨_, behind, accepted⟩ := test full
    obtain ⟨rest', behind, kept⟩ := filters behind
    exact ⟨rest', behind, .child accepted kept⟩
  | name =>
    intro us full
    obtain ⟨rest', rfl, past⟩ := full.of_plain [.name _] rfl
    exact ⟨rest', past, .name⟩
  | wildcard =>
    intro us full
    obtain ⟨rest', rfl, past⟩ := full.of_plain [.star] rfl
    exact ⟨rest', past, .wildcard⟩
  | text =>
    intro us full
    obtain ⟨rest', rfl, behind⟩ :=
      full.of_plain [.name "text", .openParenthesis, .closeParenthesis] rfl
    exact ⟨rest', behind, .text⟩
  | anyNode =>
    intro us full
    obtain ⟨rest', rfl, behind⟩ :=
      full.of_plain [.name "node", .openParenthesis, .closeParenthesis] rfl
    exact ⟨rest', behind, .anyNode⟩
  | noFilter =>
    intro us full
    exact ⟨us, full, .noFilter⟩
  | filter _ _ ih others =>
    intro us full
    obtain ⟨_, rfl, inner⟩ := full.of_plain [.openBracket] rfl
    obtain ⟨_, behind, f⟩ := ih inner
    obtain ⟨_, rfl, past⟩ := behind.of_plain [.closeBracket] rfl
    obtain ⟨rest', behind, more⟩ := others past
    exact ⟨rest', behind, .filter f more⟩
  | noOr _ operand =>
    intro us full
    obtain ⟨rest', behind, f⟩ := operand full
    exact ⟨rest', behind, .noOr f⟩
  | or _ _ left right =>
    intro us full
    obtain ⟨_, behind, f⟩ := left full
    obtain ⟨_, rfl, past⟩ := behind.of_plain [.name "or"] rfl
    obtain ⟨rest', behind, g⟩ := right past
    exact ⟨rest', behind, .or f g⟩
  | noAnd _ operand =>
    intro us full
    obtain ⟨rest', behind, f⟩ := operand full
    exact ⟨rest', behind, .noAnd f⟩
  | and _ _ left right =>
    intro us full
    obtain ⟨_, behind, f⟩ := left full
    obtain ⟨_, rfl, past⟩ := behind.of_plain [.name "and"] rfl
    obtain ⟨rest', behind, g⟩ := right past
    exact ⟨rest', behind, .and f g⟩
  | not _ ih =>
    intro us full
    obtain ⟨_, rfl, inner⟩ := full.of_plain [.name "not", .openParenthesis] rfl
    obtain ⟨_, behind, f⟩ := ih inner
    obtain ⟨rest', rfl, past⟩ := behind.of_plain [.closeParenthesis] rfl
    exact ⟨rest', past, .not f⟩
  | count _ union =>
    intro us full
    obtain ⟨_, rfl, inner⟩ := full.of_plain [.name "count", .openParenthesis] rfl
    obtain ⟨_, behind, counted⟩ := union inner
    obtain ⟨rest', rfl, past⟩ :=
      behind.of_plain [.closeParenthesis, .comparison _, .number _] rfl
    exact ⟨rest', past, .count counted⟩
  | parentheses _ ih =>
    intro us full
    obtain ⟨_, rfl, inner⟩ := full.of_plain [.openParenthesis] rfl
    obtain ⟨_, behind, f⟩ := ih inner
    obtain ⟨rest', rfl, past⟩ := behind.of_plain [.closeParenthesis] rfl
    exact ⟨rest', past, .parentheses f⟩
  | position positive =>
    intro us full
    obtain ⟨rest', rfl, past⟩ := full.of_plain [.number _] rfl
    exact ⟨rest', past, .position positive⟩
  | notCompared _ union =>
    intro us full
    obtain ⟨rest', behind, selected⟩ := union full
    exact ⟨rest', behind, .notCompared selected⟩
  | compareText _ equality union =>
    intro us full
    obtain ⟨_, behind, selected⟩ := union full
    obtain ⟨rest', rfl, past⟩ := behind.of_plain [.comparison _, .literal _] rfl
    exact ⟨rest', past, .compareText selected equality⟩
  | compareNumber _ union =>
    intro us full
    obtain ⟨_, behind, selected⟩ := union full
    obtain ⟨rest', rfl, past⟩ := behind.of_plain [.comparison _, .number _] rfl
    exact ⟨rest', past, .compareNumber selected⟩

/-! ## 3. Texts in full -/

/-- **An abbreviation in full is read as what it stands for.** -/
theorem Token.lexes_inFull {full : String} (h : t.inFull? = some full) :
    LexesAhead full.toList t.spelling := by
  have read : (tokens full.toList).map (·.map (·.token)) = .ok t.spelling := by
    cases t with
    | dot | dotDot | atSign | doubleSlash =>
      cases h
      decide +kernel
    | _ => cases h
  obtain ⟨placed, cut, same⟩ := map_eq_ok.mp read
  exact same ▸ .of_tokensFrom cut

/-- **An abbreviation in full starts everything anew.** -/
theorem Respelled.expand {full : String} (abbreviated : t.inFull? = some full)
    (h : Respelled behind new ts) :
    Respelled cs (' ' :: (full.toList ++ [' '] ++ new)) (t.spelling ++ ts) := by
  have spaced : Lexes (' ' :: new) ts := .blank rfl h.lexes
  have anew := Token.lexes_inFull abbreviated (endsToken_of_head? (.inl rfl)) spaced
  refine ⟨[], cs, _, [], _, rfl, rfl, endsToken_of_head? (.inl rfl), .nil, ?_, rfl⟩
  rw [List.append_assoc]
  exact .blank rfl anew

theorem spellOutFrom_of_readToken (blank : Text.isBlank c = false)
    (h : readToken c rest = .ok (t, behind)) : spellOutFrom chosen total (c :: rest) =
      Placed.respelled chosen ⟨t, total - byteLength (c :: rest)⟩
        ((c :: rest).take ((c :: rest).length - behind.length)) ++
          spellOutFrom chosen total behind := by
  rw [spellOutFrom, if_neg (Bool.eq_false_iff.mp blank)]
  split
  · rename_i h'
    rw [h] at h'
    cases h'
  · rename_i h'
    rw [h] at h'
    cases h'
    rfl

/-- **The tokens of the new text** are those of the old one, the chosen ones in full. By induction
    on the text, token by token. -/
theorem exists_spelledOut (chosen : Placed → Bool) : ∀ {cs : List Char} {placed : List Placed},
    tokensFrom total cs = .ok placed → ∃ us, SpelledOut (placed.map (·.token)) us ∧
      Respelled cs (spellOutFrom chosen total cs) us
  | [], placed, h => by
    rw [tokensFrom] at h
    cases h
    rw [spellOutFrom]
    exact ⟨[], .nil, .nil⟩
  | c :: rest, placed, h => by
    cases blank : Text.isBlank c with
    | true =>
      rw [tokensFrom, if_pos blank] at h
      obtain ⟨us, full, new⟩ := exists_spelledOut chosen h
      rw [spellOutFrom, if_pos blank]
      exact ⟨us, full, new.blank blank⟩
    | false =>
      obtain ⟨t, behind, others, read, cut, rfl⟩ := exists_readToken blank h
      have short := length_le_of_readToken read
      obtain ⟨us, full, new⟩ := exists_spelledOut chosen cut
      obtain ⟨written, rfl, readBefore⟩ := exists_written read
      have own : (c :: (written ++ behind)).take
          ((c :: (written ++ behind)).length - behind.length) = c :: written := by
        rw [← List.cons_append, List.length_append, Nat.add_sub_cancel, List.take_left]
      rw [spellOutFrom_of_readToken blank read, own, Placed.respelled]
      split
      · rename_i text abbreviated
        by_cases chosenHere : chosen ⟨t, total - byteLength (c :: (written ++ behind))⟩ = true
        · rw [if_pos chosenHere]
          exact ⟨_, .expand full, new.expand abbreviated⟩
        · rw [if_neg chosenHere]
          exact ⟨_, .keep full, new.keep blank readBefore⟩
      · exact ⟨_, .keep full, new.keep blank readBefore⟩
termination_by cs => cs.length

/-! ## 4. Expressions in full -/

/-- **Abbreviations are nothing but short.** Whichever of its abbreviations are put in full, inside
    filters or not, a text that is compiled is compiled to the same union, and so it selects the
    same from every item of every document. -/
theorem Expr.compile_spellOut {source : String} {x : Expr} (h : Expr.compile source = .ok x)
    (chosen : Placed → Bool) : ∃ y, Expr.compile (spellOut chosen source) = .ok y ∧
      y.union = x.union ∧ ∀ doc context, y.select? doc context = x.select? doc context := by
  obtain ⟨_, placed, cut, read⟩ := Expr.compile_eq_ok_iff.mp h
  obtain ⟨us, full, new⟩ := exists_spelledOut chosen cut
  obtain ⟨rest, behind, derived⟩ := (readAll_eq_ok_iff.mp read).spelledOut full
  cases behind
  have lexed : Lexes (spellOut chosen source).toList us := by
    rw [spellOut, String.toList_ofList]
    exact new.lexes
  exact ⟨_, Expr.compile_of_lexes lexed derived, rfl, fun doc context => rfl⟩

/-- What `//sec[.//@id]/..` is compiled to. -/
def aboveMarkedExpr : Expr where
  source := "//sec[.//@id]/.."
  union :=
    let marked := [⟨false, [Step.here, Step.anywhere, ⟨.attribute, .name "id", []⟩]⟩]
    [⟨true, [Step.anywhere, ⟨.child, .name "sec", [.exists marked]⟩, Step.up]⟩]

theorem compile_aboveMarkedExpr : Expr.compile "//sec[.//@id]/.." = .ok aboveMarkedExpr := by
  refine Expr.compile_eq_ok_iff.mpr ⟨rfl,
    [⟨.doubleSlash, 0⟩, ⟨.name "sec", 2⟩, ⟨.openBracket, 5⟩, ⟨.dot, 6⟩, ⟨.doubleSlash, 7⟩,
      ⟨.atSign, 9⟩, ⟨.name "id", 10⟩, ⟨.closeBracket, 12⟩, ⟨.slash, 13⟩, ⟨.dotDot, 14⟩],
    by decide +kernel, readAll_eq_ok_iff.mpr ?_⟩
  refine .single (.anywhere (.next (.child .name (.filter (.noOr (.noAnd ?_)) .noFilter)) (.last .up)))
  exact .notCompared (.single (.relative (.nextBelow .here (.last (.atSign .name .noFilter)))))

theorem Expr.compile_spellOut_inFilter :
    Expr.compile "//sec[.//@id]/.." = .ok aboveMarkedExpr ∧
      spellOut (fun p => p.offset != 0) "//sec[.//@id]/.." =
        "//sec[ self::node()  /descendant-or-self::node()/  attribute:: id]/ parent::node() " ∧
      ∃ y, Expr.compile (spellOut (fun p => p.offset != 0) "//sec[.//@id]/..") = .ok y ∧
        y.union = aboveMarkedExpr.union ∧
        ∀ doc context, y.select? doc context = aboveMarkedExpr.select? doc context :=
  ⟨compile_aboveMarkedExpr, by decide +kernel,
    Expr.compile_spellOut compile_aboveMarkedExpr fun p => p.offset != 0⟩

end MarkupRules.Path
