import MarkupRules.Proofs.Path.Embedding

/-!
# Blanks between tokens

A text that has tokens is these tokens as they are written, one behind the other, and blanks. More
blanks between them, in front or behind do not change what the tokens are.

* `Token.WrittenAs` -- how a token is written;
* `Token.WrittenAs.exists_read` -- **a token is read back** as it is written;
* `exists_written` -- a token is read from its own part of the text, whatever is cut off behind it;
* `Respelled` -- a text that is another one up to a point behind which everything starts anew;
* `Part`, `written`, `placedFrom` -- the parts of a text, the text and its tokens;
* `Spaced` -- the same parts with more blanks, and `exists_parts` -- **a text is its parts, and has
  the same tokens however it is spaced**;
* `tokens_lossless` -- the same for whole expressions.
-/

namespace MarkupRules.Text

/-- The code points of a set, one by one. -/
def CodePoints.points (s : CodePoints) : List Nat :=
  s.ranges.flatMap fun (first, last) => List.range' first (last + 1 - first)

theorem CodePoints.toNat_mem_points {s : CodePoints} {c : Char} (h : s.contains c = true) :
    c.toNat ∈ s.points := by
  obtain ⟨ranges⟩ := s
  rw [contains] at h
  rw [points]
  induction ranges with
  | nil => cases h
  | cons r more ih =>
    obtain ⟨first, last⟩ := r
    rw [List.flatMap_cons, List.mem_append, List.mem_range'_1]
    rw [inRanges] at h
    split at h
    · cases h
    · split at h
      · exact .inl (by omega)
      · exact .inr (ih h)

end MarkupRules.Text

namespace MarkupRules.Path

variable {c : Char} {cs rest behind tail gap new : List Char} {t : Token} {ts : List Token}
  {total offset : Nat}

/-! ## 1. Blanks and names -/

/-- **No blank is part of a name.** -/
theorem isNameChar_of_isBlank (h : Text.isBlank c = true) : isNameChar c = false := by
  have apart : ∀ n ∈ Text.whiteSpace.points, Text.inRanges n Text.alphabetic.ranges = false ∧
      Text.inRanges n Text.numeric.ranges = false := by decide +kernel
  obtain ⟨noLetter, noNumeral⟩ := apart _ (Text.CodePoints.toNat_mem_points h)
  have noSign : c ≠ '-' ∧ c ≠ '_' ∧ c ≠ '.' := by
    refine ⟨?_, ?_, ?_⟩ <;> rintro rfl <;> exact absurd h (by decide)
  simp [isNameChar, Text.isLetter, Text.isNumeral, Text.CodePoints.contains, noLetter, noNumeral,
    noSign]

/-- **A blank goes on with no token.** -/
theorem endsToken_of_isBlank (h : Text.isBlank c = true) : EndsToken (c :: rest) := by
  rintro _ ⟨⟩
  refine ⟨isNameChar_of_isBlank h, ?_, ?_⟩
  · by_contra digit
    rw [isBlank_of_isDigit (Bool.not_eq_false _ ▸ digit)] at h
    cases h
  · intro sign
    have none : ['/', '.', ':', '='].all (fun s => !Text.isBlank s) = true := by decide
    have apart := List.all_eq_true.mp none c sign
    rw [h] at apart
    cases apart

/-! ## 2. Texts cut off -/

/-- A run of characters is the same in front of a part of what is behind it. -/
theorem takeWhile_and_dropWhile_cut {p : Char → Bool} {mid : List Char}
    (h : rest.dropWhile p = gap ++ mid) : (rest.takeWhile p ++ gap).takeWhile p = rest.takeWhile p ∧
      (rest.takeWhile p ++ gap).dropWhile p = gap := by
  have all : ∀ c ∈ rest.takeWhile p, p c = true := fun c hc => List.mem_takeWhile_imp hc
  refine takeWhile_and_dropWhile_append all fun c hc => ?_
  obtain ⟨more, rfl⟩ := List.head?_eq_some_iff.mp hc
  have first := List.head?_dropWhile_not p rest
  rw [h] at first
  exact first

/-- Where no name goes on, it ends without what is behind the text as well. -/
theorem eq_of_takeName_stopped {name : List Char}
    (h : (([], cs ++ tail) : List Char × List Char) = (name, behind ++ tail)) :
    ([], cs) = (name, behind) := by
  obtain ⟨rfl, same⟩ := Prod.mk.inj h
  rw [List.append_cancel_right same]

/-- A name that ends inside a text ends there without what is behind the text. -/
theorem takeName_cut : ∀ {rest name : List Char},
    takeName (rest ++ tail) = (name, behind ++ tail) → takeName rest = (name, behind)
  | [], name, h => by
    have parts := takeName_append tail
    rw [List.nil_append] at h
    rw [h, ← List.append_assoc, List.append_left_eq_self] at parts
    obtain ⟨rfl, rfl⟩ := List.append_eq_nil_iff.mp parts
    rfl
  | c :: rest, name, h => by
    by_cases inside : isNameChar c = true
    · rw [List.cons_append, takeName_of_isNameChar inside] at h
      obtain ⟨rfl, last⟩ := Prod.mk.inj h
      rw [takeName_of_isNameChar inside, takeName_cut (Prod.ext rfl last)]
    by_cases colon : c = ':'
    · subst colon
      by_cases stop' : ∀ d ∈ (rest ++ tail).head?, isNameStart d = false
      · have stop : ∀ d ∈ rest.head?, isNameStart d = false := by
          intro d hd
          obtain ⟨more, rfl⟩ := List.head?_eq_some_iff.mp hd
          exact stop' d rfl
        rw [List.cons_append, takeName_colon stop'] at h
        rw [takeName_colon stop]
        exact eq_of_takeName_stopped h
      · push Not at stop'
        obtain ⟨d, hd, start⟩ := stop'
        have start : isNameStart d = true := Bool.not_eq_false _ ▸ start
        cases rest with
        | nil =>
          -- the name would go on behind the text
          obtain ⟨more, rfl⟩ := List.head?_eq_some_iff.mp hd
          rw [List.cons_append, List.nil_append, takeName_of_colon start] at h
          have short := length_takeName_le more
          rw [(Prod.mk.inj h).2, List.length_append, List.length_cons] at short
          omega
        | cons e rest =>
          cases hd
          rw [List.cons_append, List.cons_append, takeName_of_colon start] at h
          obtain ⟨rfl, last⟩ := Prod.mk.inj h
          rw [takeName_of_colon start, takeName_cut (Prod.ext rfl last)]
    · have noName := Bool.eq_false_iff.mpr inside
      rw [List.cons_append, takeName_of_not_isNameChar noName colon] at h
      rw [takeName_of_not_isNameChar noName colon]
      exact eq_of_takeName_stopped h

/-- **A token has a part of the text**, and it is read from there in front of any part of what is
    behind it. -/
theorem exists_written (h : readToken c rest = .ok (t, behind)) : ∃ written,
    rest = written ++ behind ∧
      ∀ gap mid, behind = gap ++ mid → readToken c (written ++ gap) = .ok (t, gap) := by
  by_cases digit : c.isDigit = true
  · rw [readToken_of_isDigit digit] at h
    split at h
    · cases h
    · rename_i n integer
      cases h
      refine ⟨rest.takeWhile Char.isDigit, List.takeWhile_append_dropWhile.symm, ?_⟩
      intro gap mid parts
      obtain ⟨taken, dropped⟩ := takeWhile_and_dropWhile_cut parts
      rw [readToken_of_isDigit digit, taken, dropped, integer]
  by_cases start : isNameStart c = true
  · rw [readToken_of_isNameStart start] at h
    cases h
    refine ⟨(takeName rest).1, (takeName_append rest).symm, ?_⟩
    intro gap mid parts
    have whole : takeName ((takeName rest).1 ++ gap ++ mid) = ((takeName rest).1, gap ++ mid) := by
      rw [List.append_assoc, ← parts, takeName_append]
    rw [readToken_of_isNameStart start, takeName_cut whole]
  by_cases quote : c = '\x27' ∨ c = '\x22'
  · rw [readToken_quote quote] at h
    split at h
    · cases h
    · rename_i q behind' closed
      cases h
      refine ⟨rest.takeWhile (· != c) ++ [q], ?_, ?_⟩
      · rw [List.append_assoc, List.singleton_append, ← closed, List.takeWhile_append_dropWhile]
      · rintro gap mid rfl
        have parts : rest.dropWhile (· != c) = q :: gap ++ mid := closed
        obtain ⟨taken, dropped⟩ := takeWhile_and_dropWhile_cut parts
        rw [List.append_assoc, List.singleton_append, readToken_quote quote, taken, dropped]
  -- signs are left, of one character or of two
  unfold readToken at h
  split at h
  case h_1 | h_10 | h_12 | h_14 | h_15 | h_17 =>
    cases h
    exact ⟨[_], rfl, fun _ _ _ => rfl⟩
  case h_2 alone | h_11 alone | h_16 alone | h_18 alone =>
    cases h
    refine ⟨[], rfl, ?_⟩
    rintro gap mid rfl
    rw [List.nil_append, readToken]
    rintro more rfl
    exact alone (more ++ mid) rfl
  case h_19 =>
    rw [if_neg (not_decide_quote quote), if_neg digit, if_neg start] at h
    cases h
  all_goals
    cases h
    exact ⟨[], rfl, fun _ _ _ => rfl⟩

/-! ## 3. How tokens are written -/

/-- The signs as they are written. -/
def Token.sign? : Token → Option (List Char)
  | .slash => some ['/']
  | .doubleSlash => some ['/', '/']
  | .openBracket => some ['[']
  | .closeBracket => some [']']
  | .openParenthesis => some ['(']
  | .closeParenthesis => some [')']
  | .atSign => some ['@']
  | .dot => some ['.']
  | .dotDot => some ['.', '.']
  | .pipe => some ['|']
  | .colonColon => some [':', ':']
  | .star => some ['*']
  | .comparison .eq => some ['=']
  | .comparison .ne => some ['!', '=']
  | .comparison .lt => some ['<']
  | .comparison .le => some ['<', '=']
  | .comparison .gt => some ['>']
  | .comparison .ge => some ['>', '=']
  | .literal _ | .number _ | .name _ => none

/-- How a token is written. -/
inductive Token.WrittenAs : Token → List Char → Prop
  | sign {t : Token} {text : List Char} : t.sign? = some text → WrittenAs t text
  /-- A literal stands between two equal quotes. -/
  | literal {quote : Char} {value : List Char} : quote = '\x27' ∨ quote = '\x22' → quote ∉ value →
      WrittenAs (.literal (String.ofList value)) (quote :: (value ++ [quote]))
  /-- A number is its digits. -/
  | number {n : Int} {digits : List Char} : digits ≠ [] → (∀ c ∈ digits, c.isDigit = true) →
      Text.readInteger? digits = some n → WrittenAs (.number n) digits
  /-- A name is its characters. -/
  | name {c : Char} {rest : List Char} : isNameStart c = true → takeName rest = (rest, []) →
      WrittenAs (.name (String.ofList (c :: rest))) (c :: rest)

theorem Token.WrittenAs.ne_nil {text : List Char} (h : t.WrittenAs text) : text ≠ [] := by
  cases h with
  | sign sign =>
    rintro rfl
    cases t with
    | comparison c => cases c <;> cases sign
    | _ => cases sign
  | literal => exact List.cons_ne_nil _ _
  | number digits => exact digits
  | name => exact List.cons_ne_nil _ _

/-- **A text that is read as one token** is written as the token is. -/
theorem writtenAs_of_readToken (h : readToken c rest = .ok (t, [])) : t.WrittenAs (c :: rest) := by
  by_cases digit : c.isDigit = true
  · rw [readToken_of_isDigit digit] at h
    have parts := List.takeWhile_append_dropWhile (p := Char.isDigit) (l := rest)
    split at h
    · cases h
    · rename_i n integer
      obtain ⟨rfl, nothing⟩ := Prod.mk.inj (Except.ok.inj h)
      rw [nothing, List.append_nil] at parts
      rw [parts] at integer
      refine .number (List.cons_ne_nil _ _) (List.forall_mem_cons.mpr ⟨digit, ?_⟩) integer
      exact List.dropWhile_eq_nil_iff.mp nothing
  by_cases start : isNameStart c = true
  · rw [readToken_of_isNameStart start] at h
    obtain ⟨rfl, nothing⟩ := Prod.mk.inj (Except.ok.inj h)
    have parts := takeName_append rest
    rw [nothing, List.append_nil] at parts
    rw [parts]
    exact .name start (Prod.ext parts nothing)
  by_cases quote : c = '\x27' ∨ c = '\x22'
  · rw [readToken_quote quote] at h
    split at h
    · cases h
    · rename_i q behind' closed
      obtain ⟨rfl, rfl⟩ := Prod.mk.inj (Except.ok.inj h)
      have last := List.head?_dropWhile_not (· != c) rest
      rw [closed, List.head?_cons] at last
      obtain rfl : q = c := by simpa using last
      have parts := List.takeWhile_append_dropWhile (p := (· != q)) (l := rest)
      rw [closed] at parts
      have apart : q ∉ rest.takeWhile (· != q) := by
        intro inside
        simpa using List.mem_takeWhile_imp inside
      have whole : q :: rest = q :: (rest.takeWhile (· != q) ++ [q]) := congrArg (q :: ·) parts.symm
      rw [whole]
      exact .literal quote apart
  -- signs are left
  unfold readToken at h
  split at h
  case h_19 =>
    rw [if_neg (not_decide_quote quote), if_neg digit, if_neg start] at h
    cases h
  all_goals
    cases h
    exact .sign rfl

/-- **A token is read back** as it is written. -/
theorem Token.WrittenAs.exists_read {text : List Char} (h : t.WrittenAs text) :
    ∃ c rest, text = c :: rest ∧ Text.isBlank c = false ∧ readToken c rest = .ok (t, []) := by
  cases h with
  | sign sign =>
    cases t with
    | comparison c => cases c <;> cases sign <;> exact ⟨_, _, rfl, by decide, rfl⟩
    | literal | number | name => cases sign
    | _ => cases sign; exact ⟨_, _, rfl, by decide, rfl⟩
  | @literal q value quote absent =>
    refine ⟨q, value ++ [q], rfl, by rcases quote with rfl | rfl <;> decide, ?_⟩
    have inside : ∀ c ∈ value, (c != q) = true := by
      intro c hc
      rw [bne_iff_ne]
      rintro rfl
      exact absent hc
    have stops : ∀ c ∈ [q].head?, (c != q) = false := by
      rintro _ ⟨⟩
      exact bne_self_eq_false q
    obtain ⟨taken, dropped⟩ := takeWhile_and_dropWhile_append inside stops
    rw [readToken_quote quote, taken, dropped]
  | number nonempty digits integer =>
    obtain ⟨d, rest, rfl⟩ := List.exists_cons_of_ne_nil nonempty
    obtain ⟨first, others⟩ := List.forall_mem_cons.mp digits
    have stops : ∀ c ∈ ([] : List Char).head?, c.isDigit = false := nofun
    obtain ⟨taken, dropped⟩ := takeWhile_and_dropWhile_append others stops
    rw [List.append_nil] at taken dropped
    refine ⟨d, rest, rfl, isBlank_of_isDigit first, ?_⟩
    rw [readToken_of_isDigit first, taken, dropped, integer]
  | @name c rest start whole =>
    refine ⟨c, rest, rfl, ?_, ?_⟩
    · cases blank : Text.isBlank c with
      | false => rfl
      | true =>
        have inside := isNameChar_of_isNameStart start
        rw [isNameChar_of_isBlank blank] at inside
        cases inside
    · rw [readToken_of_isNameStart start, whole]

/-- A token is cut off as it is written. -/
theorem Token.WrittenAs.lexesAhead {text : List Char} (h : t.WrittenAs text) :
    LexesAhead text [t] := by
  obtain ⟨c, rest, rfl, blank, read⟩ := h.exists_read
  obtain ⟨placed, cut, alone⟩ := Lexes.cons blank read .nil 0
  exact alone ▸ .of_tokensFrom cut

/-- **Tokens that can be written are the tokens of some text**: each one as it is written, and a
    blank behind it. -/
theorem exists_lexes : ∀ {ts : List Token}, (∀ t ∈ ts, ∃ text, t.WrittenAs text) → ∃ cs, Lexes cs ts
  | [], _ => ⟨[], .nil⟩
  | t :: rest, writable => by
    obtain ⟨⟨text, own⟩, others⟩ := List.forall_mem_cons.mp writable
    obtain ⟨cs, more⟩ := exists_lexes others
    exact ⟨text ++ ' ' :: cs, own.lexesAhead (endsToken_of_isBlank rfl) (.blank rfl more)⟩

/-! ## 4. Texts written anew -/

/-- The second text has these tokens and is the first one up to a point behind which everything
    starts anew. -/
def Respelled (cs new : List Char) (ts : List Token) : Prop :=
  ∃ gap mid anew us vs, cs = gap ++ mid ∧ new = gap ++ anew ∧ EndsToken anew ∧
    Lexes gap us ∧ Lexes anew vs ∧ ts = us ++ vs

theorem Respelled.nil : Respelled [] [] [] :=
  ⟨[], [], [], [], [], rfl, rfl, nofun, .nil, .nil, rfl⟩

theorem Respelled.lexes (h : Respelled cs new ts) : Lexes new ts := by
  obtain ⟨gap, mid, anew, us, vs, rfl, rfl, apart, lexesGap, lexesAnew, rfl⟩ := h
  obtain ⟨placed, cut, rfl⟩ := lexesGap 0
  exact LexesAhead.of_tokensFrom cut apart lexesAnew

/-- A blank stays. -/
theorem Respelled.blank (blank : Text.isBlank c = true) (h : Respelled rest new ts) :
    Respelled (c :: rest) (c :: new) ts := by
  obtain ⟨gap, mid, anew, us, vs, rfl, rfl, apart, lexesGap, lexesAnew, rfl⟩ := h
  exact ⟨c :: gap, mid, anew, us, vs, rfl, rfl, apart, .blank blank lexesGap, lexesAnew, rfl⟩

/-- **A token that stays is read as before**, for what is behind it stays up to where everything
    starts anew. -/
theorem Respelled.keep {written : List Char} (blank : Text.isBlank c = false)
    (read : ∀ gap mid, behind = gap ++ mid → readToken c (written ++ gap) = .ok (t, gap))
    (h : Respelled behind new ts) :
    Respelled (c :: (written ++ behind)) (c :: (written ++ new)) (t :: ts) := by
  obtain ⟨gap, mid, anew, us, vs, same, rfl, apart, lexesGap, lexesAnew, rfl⟩ := h
  refine ⟨c :: (written ++ gap), mid, anew, t :: us, vs, ?_, ?_, apart,
    .cons blank (read gap mid same) lexesGap, lexesAnew, rfl⟩
  · rw [same, List.cons_append, List.append_assoc]
  · rw [List.cons_append, List.append_assoc]

/-- **A blank starts everything anew.** -/
theorem Respelled.insert (blank : Text.isBlank c = true) (h : Respelled cs new ts) :
    Respelled cs (c :: new) ts :=
  ⟨[], cs, c :: new, [], ts, rfl, rfl, endsToken_of_isBlank blank, .nil, .blank blank h.lexes, rfl⟩

/-! ## 5. The parts of a text -/

/-- A part of a text: a blank, or a token and how it is written. -/
inductive Part where
  | blank (c : Char)
  | token (t : Token) (text : List Char)

/-- The part as it is written. -/
def Part.chars : Part → List Char
  | .blank c => [c]
  | .token _ text => text

/-- Blanks are blanks, and tokens are written as they are. -/
def Part.Sound : Part → Prop
  | .blank c => Text.isBlank c = true
  | .token t text => t.WrittenAs text

/-- The text of the parts. -/
def written (parts : List Part) : List Char :=
  parts.flatMap Part.chars

/-- The tokens among the parts of a text that starts at the offset, each one with its own. -/
def placedFrom (offset : Nat) : List Part → List Placed
  | [] => []
  | .blank c :: rest => placedFrom (offset + c.utf8Size) rest
  | .token t text :: rest => ⟨t, offset⟩ :: placedFrom (offset + byteLength text) rest

/-- The second parts are the first ones and more blanks. -/
inductive Spaced : List Part → List Part → Prop
  | nil : Spaced [] []
  | keep {parts spaced : List Part} (p : Part) : Spaced parts spaced →
      Spaced (p :: parts) (p :: spaced)
  | insert {parts spaced : List Part} {c : Char} : Text.isBlank c = true → Spaced parts spaced →
      Spaced parts (.blank c :: spaced)

/-- Blanks in front change nothing, so only what is kept counts. -/
theorem Spaced.respelled {parts spaced : List Part} (h : Spaced parts spaced)
    (nil : parts = [] → Respelled cs [] ts)
    (keep : ∀ p rest more, parts = p :: rest → Spaced rest more →
      Respelled cs (written (p :: more)) ts) : Respelled cs (written spaced) ts := by
  induction h with
  | nil => exact nil rfl
  | keep p more => exact keep p _ _ rfl more
  | insert blank _ ih => exact (ih nil keep).insert blank

theorem byteLength_append (cs ds : List Char) :
    byteLength (cs ++ ds) = byteLength cs + byteLength ds := by
  induction cs with
  | nil => simp [byteLength]
  | cons c rest ih =>
    simp only [byteLength, List.cons_append, List.foldr_cons] at ih ⊢
    omega

theorem byteLength_cons (c : Char) (rest : List Char) :
    byteLength (c :: rest) = c.utf8Size + byteLength rest := rfl

theorem byteLength_eq (cs : List Char) : byteLength cs = (String.ofList cs).utf8ByteSize := by
  induction cs with
  | nil => rfl
  | cons c rest ih =>
    rw [byteLength_cons, ih, String.ofList_cons, String.utf8ByteSize_append,
      String.utf8ByteSize_singleton]

/-- **Every token is at its offset** in the text. -/
theorem exists_of_mem_placedFrom {p : Placed} : ∀ {parts : List Part} {offset : Nat},
    p ∈ placedFrom offset parts → ∃ before text after,
      parts = before ++ .token p.token text :: after ∧ p.offset = offset + byteLength (written before)
  | [], offset, h => absurd h List.not_mem_nil
  | .blank c :: rest, offset, h => by
    rw [placedFrom] at h
    obtain ⟨before, text, after, rfl, place⟩ := exists_of_mem_placedFrom h
    refine ⟨.blank c :: before, text, after, rfl, ?_⟩
    rw [place, written, written, List.flatMap_cons, byteLength_append]
    exact Nat.add_assoc ..
  | .token t text :: rest, offset, h => by
    rw [placedFrom] at h
    rcases List.mem_cons.mp h with rfl | h
    · exact ⟨[], text, rest, rfl, rfl⟩
    · obtain ⟨before, text', after, rfl, place⟩ := exists_of_mem_placedFrom h
      refine ⟨.token t text :: before, text', after, rfl, ?_⟩
      rw [place, written, written, List.flatMap_cons, byteLength_append]
      exact Nat.add_assoc ..

theorem byteLength_pos (h : cs ≠ []) : 0 < byteLength cs := by
  obtain ⟨c, rest, rfl⟩ := List.exists_cons_of_ne_nil h
  rw [byteLength_cons]
  have := c.utf8Size_pos
  omega

/-- **Offsets ascend**, for no token is written as nothing. -/
theorem placedFrom_ascending : ∀ {parts : List Part} (offset : Nat), (∀ p ∈ parts, p.Sound) →
    (∀ p ∈ placedFrom offset parts, offset ≤ p.offset) ∧
      (placedFrom offset parts).Pairwise fun p q => p.offset < q.offset
  | [], offset, _ => ⟨nofun, .nil⟩
  | .blank c :: rest, offset, sound => by
    obtain ⟨above, ascending⟩ := placedFrom_ascending (offset + c.utf8Size)
      (List.forall_mem_cons.mp sound).2
    rw [placedFrom]
    exact ⟨fun p hp => Nat.le_trans (Nat.le_add_right ..) (above p hp), ascending⟩
  | .token t text :: rest, offset, sound => by
    obtain ⟨own, others⟩ := List.forall_mem_cons.mp sound
    have wide : 0 < byteLength text := byteLength_pos (Token.WrittenAs.ne_nil own)
    obtain ⟨above, ascending⟩ := placedFrom_ascending (offset + byteLength text) others
    have behind : ∀ p ∈ placedFrom (offset + byteLength text) rest, offset < p.offset :=
      fun p hp => Nat.lt_of_lt_of_le (Nat.lt_add_of_pos_right wide) (above p hp)
    rw [placedFrom]
    refine ⟨List.forall_mem_cons.mpr ⟨Nat.le_refl _, fun p hp => Nat.le_of_lt (behind p hp)⟩, ?_⟩
    exact List.pairwise_cons.mpr ⟨behind, ascending⟩

/-- **A text is its parts**, and has the same tokens however it is spaced. By induction on the text,
    token by token. -/
theorem exists_parts : ∀ {cs : List Char} {placed : List Placed},
    tokensFrom total cs = .ok placed → byteLength cs ≤ total → ∃ parts, written parts = cs ∧
      (∀ p ∈ parts, p.Sound) ∧ placedFrom (total - byteLength cs) parts = placed ∧
        ∀ spaced, Spaced parts spaced → Respelled cs (written spaced) (placed.map (·.token))
  | [], placed, h, _ => by
    rw [tokensFrom] at h
    cases h
    refine ⟨[], rfl, List.forall_mem_nil _, rfl, fun spaced more => ?_⟩
    exact more.respelled (fun _ => .nil) fun _ _ _ whole => absurd whole.symm (List.cons_ne_nil _ _)
  | c :: rest, placed, h, within => by
    rw [byteLength_cons] at within
    cases blank : Text.isBlank c with
    | true =>
      rw [tokensFrom, if_pos blank] at h
      obtain ⟨parts, rfl, sound, places, spacing⟩ := exists_parts h (by omega)
      refine ⟨.blank c :: parts, rfl, List.forall_mem_cons.mpr ⟨blank, sound⟩, ?_, ?_⟩
      · rw [placedFrom, byteLength_cons, ← places]
        congr 1
        omega
      · intro spaced more
        refine more.respelled (fun whole => absurd whole (List.cons_ne_nil _ _)) ?_
        rintro _ _ spaced ⟨⟩ more
        exact (spacing spaced more).blank blank
    | false =>
      obtain ⟨t, behind, others, read, cut, rfl⟩ := exists_readToken blank h
      have short := length_le_of_readToken read
      obtain ⟨own, rfl, readBefore⟩ := exists_written read
      rw [byteLength_append] at within
      obtain ⟨parts, rfl, sound, places, spacing⟩ := exists_parts cut (by omega)
      have alone : t.WrittenAs (c :: own) := by
        have read := readBefore [] _ rfl
        rw [List.append_nil] at read
        exact writtenAs_of_readToken read
      refine ⟨.token t (c :: own) :: parts, rfl, List.forall_mem_cons.mpr ⟨alone, sound⟩, ?_, ?_⟩
      · rw [placedFrom, byteLength_cons, byteLength_append, ← places, byteLength_cons]
        congr 2
        omega
      · intro spaced more
        refine more.respelled (fun whole => absurd whole (List.cons_ne_nil _ _)) ?_
        rintro _ _ spaced ⟨⟩ more
        exact (spacing spaced more).keep blank readBefore
termination_by cs => cs.length

/-! ## 6. Whole texts -/

/-- The same tokens are compiled to the same union, or not compiled. -/
theorem Expr.compile_of_same_tokens {source source' : String} {placed placed' : List Placed}
    (cut : tokens source.toList = .ok placed) (cut' : tokens source'.toList = .ok placed')
    (same : placed'.map (·.token) = placed.map (·.token)) :
    (∃ x y, Expr.compile source = .ok x ∧ Expr.compile source' = .ok y ∧ y.union = x.union) ∨
      ∃ e e', Expr.compile source = .error e ∧ Expr.compile source' = .error e' := by
  rw [Expr.compile, Expr.compile]
  simp only [cut, cut', same]
  cases readAll (placed.map (·.token)) with
  | error stuck => exact .inr ⟨_, _, rfl, rfl⟩
  | ok union => exact .inl ⟨_, _, rfl, rfl, rfl⟩

/-- **Tokens keep the text, and blanks between them do not count.** Of a text that has tokens, their
    offsets ascend and are offsets of characters. The text consists of the tokens as they are
    written, each one at its offset, and of blanks. With more blanks in front of the tokens, between
    them or behind them, the text has the same tokens, and is compiled to the same union or, as
    before, not compiled. -/
theorem tokens_lossless {source : String} {placed : List Placed}
    (cut : tokens source.toList = .ok placed) :
    placed.Pairwise (fun p q => p.offset < q.offset) ∧
    (∀ p ∈ placed, (String.Pos.Raw.mk p.offset).IsValid source) ∧
    ∃ parts, (∀ p ∈ parts, p.Sound) ∧ source = String.ofList (written parts) ∧
      placed = placedFrom 0 parts ∧
      ∀ spaced, Spaced parts spaced →
        (∃ placed', tokens (written spaced) = .ok placed' ∧
          placed'.map (·.token) = placed.map (·.token)) ∧
        ((∃ x y, Expr.compile source = .ok x ∧
            Expr.compile (String.ofList (written spaced)) = .ok y ∧ y.union = x.union) ∨
          ∃ e e', Expr.compile source = .error e ∧
            Expr.compile (String.ofList (written spaced)) = .error e') := by
  obtain ⟨parts, whole, sound, places, spacing⟩ := exists_parts cut (Nat.le_refl _)
  rw [Nat.sub_self] at places
  have text : source = String.ofList (written parts) := by rw [whole, String.ofList_toList]
  have ascending := (placedFrom_ascending 0 sound).2
  refine ⟨places ▸ ascending, fun p hp => ?_, parts, sound, text, places.symm,
    fun spaced more => ?_⟩
  · obtain ⟨before, own, after, rfl, place⟩ := exists_of_mem_placedFrom (places ▸ hp)
    rw [Nat.zero_add, byteLength_eq] at place
    refine String.Pos.Raw.isValid_iff_exists_append.mpr
      ⟨String.ofList (written before), String.ofList (written (.token p.token own :: after)),
        ?_, ?_⟩
    · rw [text, written, List.flatMap_append, String.ofList_append]
      rfl
    · rw [place]
      rfl
  · obtain ⟨placed', cut', same⟩ := (spacing spaced more).lexes (byteLength (written spaced))
    refine ⟨⟨placed', cut', same⟩, Expr.compile_of_same_tokens cut ?_ same⟩
    rw [String.toList_ofList]
    exact cut'

/-- The tokens of `é[.!='€' ]//x:b`. -/
def accentedTokens : List Placed := [
  ⟨.name "é", 0⟩, ⟨.openBracket, 2⟩, ⟨.dot, 3⟩, ⟨.comparison .ne, 4⟩, ⟨.literal "€", 6⟩,
  ⟨.closeBracket, 12⟩, ⟨.doubleSlash, 13⟩, ⟨.name "x:b", 15⟩]

theorem tokens_lossless_accented : tokens "é[.!='€' ]//x:b".toList = .ok accentedTokens ∧
    accentedTokens.Pairwise (fun p q => p.offset < q.offset) ∧
    (∀ p ∈ accentedTokens, (String.Pos.Raw.mk p.offset).IsValid "é[.!='€' ]//x:b") ∧
    ∃ parts, (∀ p ∈ parts, p.Sound) ∧ "é[.!='€' ]//x:b" = String.ofList (written parts) ∧
      accentedTokens = placedFrom 0 parts ∧
      ∀ spaced, Spaced parts spaced →
        (∃ placed', tokens (written spaced) = .ok placed' ∧
          placed'.map (·.token) = accentedTokens.map (·.token)) ∧
        ((∃ x y, Expr.compile "é[.!='€' ]//x:b" = .ok x ∧
            Expr.compile (String.ofList (written spaced)) = .ok y ∧ y.union = x.union) ∨
          ∃ e e', Expr.compile "é[.!='€' ]//x:b" = .error e ∧
            Expr.compile (String.ofList (written spaced)) = .error e') := by
  have cut : tokens "é[.!='€' ]//x:b".toList = .ok accentedTokens := by decide +kernel
  exact ⟨cut, tokens_lossless cut⟩

end MarkupRules.Path
