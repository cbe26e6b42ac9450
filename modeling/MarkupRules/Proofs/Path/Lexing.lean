import Mathlib.Algebra.Group.Nat.Defs
import Mathlib.Data.List.TakeWhile
import MarkupRules.Path.Token

/-!
# Texts put together from tokens

What the tokens of a text are that was put together from pieces, told without offsets.

* `Lexes` -- the tokens of the end of a text, wherever that end stands;
* `Lexes.cons` -- one token in front of others;
* `readToken_of_isNameStart`, `readToken_of_isDigit` -- the two kinds of token that go on as far
  as they can;
* `ReadsAsName` -- a name that is read as one token, as every one of the `keywords` is;
* `Lexes.slash`, `Lexes.name`, `Lexes.number` -- **a name or a number is read back from its text**,
  if what is behind it does not go on with it.
-/

namespace MarkupRules.Path

variable {c : Char} {cs rest behind tail : List Char} {t : Token} {ts : List Token} {n : String}

/-! ## 1. One token after the other -/

/-- `cs`, the end of some text, is cut into the tokens `ts`. -/
def Lexes (cs : List Char) (ts : List Token) : Prop :=
  ∀ total, ∃ placed, tokensFrom total cs = .ok placed ∧ placed.map (·.token) = ts

theorem tokensFrom_of_readToken {total : Nat} (blank : Text.isBlank c = false)
    (h : readToken c rest = .ok (t, behind)) : tokensFrom total (c :: rest) =
      (tokensFrom total behind).map (⟨t, total - byteLength (c :: rest)⟩ :: ·) := by
  rw [tokensFrom, if_neg (Bool.eq_false_iff.mp blank)]
  split
  · rename_i h'
    rw [h] at h'
    cases h'
  · rename_i h'
    rw [h] at h'
    cases h'
    rfl

/-- **What stands in front of a text that is no blank** is read as a token, and then the rest. -/
theorem exists_readToken {total : Nat} {placed : List Placed} (blank : Text.isBlank c = false)
    (h : tokensFrom total (c :: rest) = .ok placed) : ∃ t behind more,
      readToken c rest = .ok (t, behind) ∧ tokensFrom total behind = .ok more ∧
        placed = ⟨t, total - byteLength (c :: rest)⟩ :: more := by
  cases read : readToken c rest with
  | error problem =>
    rw [tokensFrom, if_neg (Bool.eq_false_iff.mp blank)] at h
    split at h
    · cases h
    · rename_i read'
      rw [read] at read'
      cases read'
  | ok r =>
    obtain ⟨t, behind⟩ := r
    rw [tokensFrom_of_readToken blank read] at h
    cases more : tokensFrom total behind with
    | error problem =>
      rw [more] at h
      cases h
    | ok placed' =>
      rw [more] at h
      cases h
      exact ⟨t, behind, placed', rfl, more, rfl⟩

theorem Lexes.nil : Lexes [] [] := by
  intro total
  exact ⟨[], by rw [tokensFrom], rfl⟩

/-- **A token is read in front of others.** -/
theorem Lexes.cons (blank : Text.isBlank c = false) (h : readToken c rest = .ok (t, behind))
    (more : Lexes behind ts) : Lexes (c :: rest) (t :: ts) := by
  intro total
  obtain ⟨placed, hplaced, rfl⟩ := more total
  refine ⟨⟨t, total - byteLength (c :: rest)⟩ :: placed, ?_, rfl⟩
  rw [tokensFrom_of_readToken blank h, hplaced]
  rfl

/-- Blanks are left out. -/
theorem Lexes.blank (blank : Text.isBlank c = true) (more : Lexes rest ts) :
    Lexes (c :: rest) ts := by
  intro total
  rw [tokensFrom, if_pos blank]
  exact more total

/-! ## 2. Names and digits -/

theorem le_toNat_of_isLetter (h : Text.isLetter c = true) : 0x41 ≤ c.toNat := by
  by_contra below
  have outside : Text.isLetter c = false := if_pos (Nat.lt_of_not_le below)
  rw [outside] at h
  cases h

theorem toNat_of_isDigit (h : c.isDigit = true) : 0x30 ≤ c.toNat ∧ c.toNat ≤ 0x39 := by
  simpa [Char.isDigit, UInt32.le_iff_toNat_le] using h

/-- No name starts with a digit. -/
theorem isDigit_of_isNameStart (h : isNameStart c = true) : c.isDigit = false := by
  by_contra digit
  have upto := (toNat_of_isDigit (Bool.not_eq_false _ ▸ digit)).2
  rw [isNameStart, Bool.or_eq_true, beq_iff_eq] at h
  rcases h with h | rfl
  · have above := le_toNat_of_isLetter h
    omega
  · exact absurd upto (by decide)

/-- The characters that are tokens of their own, start one, or start a literal. -/
def signs : List Char :=
  ['/', '[', ']', '(', ')', '@', '|', '*', '.', ':', '=', '!', '<', '>', '\x27', '\x22']

/-- **Where no sign stands**, there is a number or a name. -/
theorem readToken_of_not_mem_signs (h : c ∉ signs) : readToken c rest =
    if c.isDigit then
      match Text.readInteger? (c :: rest.takeWhile Char.isDigit) with
      | none => .error .numberOutOfRange
      | some n => .ok (.number n, rest.dropWhile Char.isDigit)
    else if isNameStart c then
      .ok (.name (String.ofList (c :: (takeName rest).1)), (takeName rest).2)
    else .error (.unexpectedCharacter c) := by
  unfold readToken
  split
  all_goals try exact absurd (by decide) h
  have noQuote : ¬ (c = '\x27' || c = '\x22') = true := by
    rw [Bool.or_eq_true, decide_eq_true_eq, decide_eq_true_eq]
    rintro (rfl | rfl)
    · exact absurd (by decide) h
    · exact absurd (by decide) h
  exact if_neg noQuote

theorem readToken_of_isDigit (h : c.isDigit = true) : readToken c rest =
    match Text.readInteger? (c :: rest.takeWhile Char.isDigit) with
    | none => .error .numberOutOfRange
    | some n => .ok (.number n, rest.dropWhile Char.isDigit) := by
  have noSign : c ∉ signs := by
    intro sign
    have none : signs.all (fun s => !s.isDigit) = true := by decide
    have noDigit := List.all_eq_true.mp none c sign
    rw [h] at noDigit
    cases noDigit
  rw [readToken_of_not_mem_signs noSign, if_pos h]

theorem readToken_of_isNameStart (h : isNameStart c = true) : readToken c rest =
    .ok (.name (String.ofList (c :: (takeName rest).1)), (takeName rest).2) := by
  have noSign : c ∉ signs := by
    intro sign
    have none : signs.all (fun s => !isNameStart s) = true := by decide
    have noStart := List.all_eq_true.mp none c sign
    rw [h] at noStart
    cases noStart
  have noDigit : ¬ c.isDigit = true := Bool.eq_false_iff.mp (isDigit_of_isNameStart h)
  rw [readToken_of_not_mem_signs noSign, if_neg noDigit, if_pos h]

/-- **A name token** starts as a name does and goes on as far as it can. -/
theorem of_readToken_eq_name (h : readToken c rest = .ok (.name n, behind)) :
    isNameStart c = true ∧ n.toList = c :: (takeName rest).1 ∧ behind = (takeName rest).2 := by
  have start : isNameStart c = true := by
    unfold readToken at h
    split at h
    all_goals try cases h
    split at h
    · split at h <;> cases h
    · split at h
      · split at h <;> cases h
      · split at h
        · assumption
        · cases h
  rw [readToken_of_isNameStart start] at h
  cases h
  exact ⟨start, String.toList_ofList, rfl⟩

theorem takeName_of_isNameChar (h : isNameChar c = true) :
    takeName (c :: rest) = (c :: (takeName rest).1, (takeName rest).2) := by
  rw [takeName.eq_def (c :: rest)]
  exact if_pos h

theorem takeName_of_colon {d : Char} (h : isNameStart d = true) :
    takeName (':' :: d :: rest) = (':' :: d :: (takeName rest).1, (takeName rest).2) := by
  have noName : ¬ isNameChar ':' = true := by decide
  rw [takeName.eq_def (':' :: d :: rest)]
  exact (if_neg noName).trans (if_pos h)

theorem takeName_append : ∀ cs : List Char, (takeName cs).1 ++ (takeName cs).2 = cs
  | [] => rfl
  | c :: rest => by
    by_cases hc : isNameChar c = true
    · rw [takeName_of_isNameChar hc]
      exact congrArg (c :: ·) (takeName_append rest)
    · unfold takeName
      rw [if_neg hc]
      split
      · rename_i d rest'
        split
        · exact congrArg (':' :: d :: ·) (takeName_append rest')
        · rfl
      · rfl

theorem takeName_of_not_isNameChar (noName : isNameChar c = false) (noColon : c ≠ ':') :
    takeName (c :: rest) = ([], c :: rest) := by
  unfold takeName
  rw [if_neg (Bool.eq_false_iff.mp noName)]
  split
  · exact absurd rfl noColon
  · rfl

/-- A colon does not belong to the name if no name could start behind it. -/
theorem takeName_colon (stop : ∀ d ∈ rest.head?, isNameStart d = false) :
    takeName (':' :: rest) = ([], ':' :: rest) := by
  have noName : ¬ isNameChar ':' = true := by decide
  cases rest with
  | nil => exact if_neg noName
  | cons d rest =>
    rw [takeName.eq_def (':' :: d :: rest)]
    exact (if_neg noName).trans (if_neg (Bool.eq_false_iff.mp (stop d rfl)))

/-- What does not go on with a name. -/
def EndsName (tail : List Char) : Prop :=
  ∀ c ∈ tail.head?, isNameChar c = false ∧ c ≠ ':'

/-- An opening bracket or parenthesis ends a name. -/
theorem endsName_of_head? (h : c = '[' ∨ c = '(') : EndsName (c :: rest) := by
  rintro _ ⟨⟩
  rcases h with rfl | rfl <;> decide

theorem takeName_of_endsName (h : EndsName tail) : takeName tail = ([], tail) := by
  cases tail with
  | nil => rfl
  | cons c rest =>
    obtain ⟨noName, noColon⟩ := h c rfl
    exact takeName_of_not_isNameChar noName noColon

theorem isNameChar_of_isNameStart (h : isNameStart c = true) : isNameChar c = true := by
  rw [isNameStart, Bool.or_eq_true] at h
  rcases h with letter | underscore
  · simp [isNameChar, letter]
  · simp [isNameChar, underscore]

/-- No name starts where none goes on. -/
theorem isNameStart_of_takeName_eq (h : takeName tail = ([], tail)) :
    ∀ d ∈ tail.head?, isNameStart d = false := by
  intro d hd
  obtain ⟨rest, rfl⟩ := List.head?_eq_some_iff.mp hd
  by_contra start
  have inside := isNameChar_of_isNameStart (Bool.not_eq_false _ ▸ start)
  rw [takeName_of_isNameChar inside] at h
  cases h

/-- **A name ends where it would end on its own**, if no name goes on behind it. -/
theorem takeName_append_tail (apart : takeName tail = ([], tail)) : ∀ cs : List Char,
    takeName (cs ++ tail) = ((takeName cs).1, (takeName cs).2 ++ tail)
  | [] => apart
  | c :: rest => by
    by_cases hc : isNameChar c = true
    · rw [List.cons_append, takeName_of_isNameChar hc, takeName_of_isNameChar hc,
        takeName_append_tail apart rest]
    · by_cases colon : c = ':'
      · subst colon
        cases rest with
        | nil =>
          have stop := isNameStart_of_takeName_eq apart
          rw [List.cons_append, List.nil_append, takeName_colon stop]
          rfl
        | cons d rest' =>
          by_cases hd : isNameStart d = true
          · rw [List.cons_append, List.cons_append, takeName_of_colon hd, takeName_of_colon hd,
              takeName_append_tail apart rest']
          · have stop : ∀ e ∈ (d :: rest').head?, isNameStart e = false := by
              rintro _ ⟨⟩
              exact Bool.eq_false_iff.mpr hd
            have stop' : ∀ e ∈ (d :: rest' ++ tail).head?, isNameStart e = false := stop
            rw [List.cons_append, takeName_colon stop, takeName_colon stop']
            rfl
      · have noName := Bool.eq_false_iff.mpr hc
        rw [List.cons_append, takeName_of_not_isNameChar noName colon,
          takeName_of_not_isNameChar noName colon]
        rfl

/-! ## 3. Names that are one token -/

/-- The name is read as one token, and this token is the name. -/
def ReadsAsName (n : String) : Prop :=
  (tokens n.toList).map (·.map (·.token)) = .ok [.name n]

instance : DecidablePred ReadsAsName :=
  fun n => inferInstanceAs (Decidable ((tokens n.toList).map (·.map (·.token)) = .ok [.name n]))

/-- The words that stand for more than a name in an expression. -/
def keywords : List String :=
  "count" :: "node" :: "text" :: Axis.names.map (·.1)

/-- **Every keyword is one token.** -/
theorem readsAsName_of_mem_keywords (h : n ∈ keywords) : ReadsAsName n := by
  have all : ∀ n ∈ keywords, ReadsAsName n := by decide +kernel
  exact all n h

/-- A name in front of all tokens is no longer than the text. -/
theorem length_le_of_tokensFrom {total : Nat} : ∀ {cs : List Char} {placed : List Placed},
    tokensFrom total cs = .ok placed → placed.head?.map (·.token) = some (.name n) →
      n.toList.length ≤ cs.length
  | [], placed, h, first => by
    rw [tokensFrom] at h
    cases h
    cases first
  | c :: rest, placed, h, first => by
    cases blank : Text.isBlank c with
    | true =>
      rw [tokensFrom, if_pos blank] at h
      exact Nat.le_succ_of_le (length_le_of_tokensFrom h first)
    | false =>
      obtain ⟨t, behind, more, read, _, rfl⟩ := exists_readToken blank h
      cases first
      have whole := (of_readToken_eq_name read).2.1
      have parts := congrArg List.length (takeName_append rest)
      rw [List.length_append] at parts
      rw [whole, List.length_cons, List.length_cons]
      omega

/-- **A name that is one token** is a start of a name and what goes on with it. -/
theorem ReadsAsName.exists_cons (h : ReadsAsName n) : ∃ c rest, n.toList = c :: rest ∧
    Text.isBlank c = false ∧ isNameStart c = true ∧ (takeName rest).2 = [] := by
  rw [ReadsAsName, tokens] at h
  cases read : tokensFrom (byteLength n.toList) n.toList with
  | error problem =>
    rw [read] at h
    cases h
  | ok placed =>
    rw [read] at h
    have single : placed.map (·.token) = [.name n] := Except.ok.inj h
    obtain ⟨only, rfl, first⟩ := List.map_eq_singleton_iff.mp single
    cases hn : n.toList with
    | nil =>
      rw [hn, tokensFrom] at read
      cases read
    | cons c rest =>
      rw [hn] at read
      cases blank : Text.isBlank c with
      | true =>
        -- the token would be longer than what is behind the blank
        rw [tokensFrom, if_pos blank] at read
        have short := length_le_of_tokensFrom (n := n) read (congrArg some first)
        rw [hn, List.length_cons] at short
        omega
      | false =>
        obtain ⟨t, behind, more, token, _, only⟩ := exists_readToken blank read
        cases only
        cases first
        obtain ⟨start, whole, _⟩ := of_readToken_eq_name token
        rw [hn] at whole
        have taken : rest = (takeName rest).1 := (List.cons.inj whole).2
        have parts := takeName_append rest
        rw [← taken, List.append_right_eq_self] at parts
        exact ⟨c, rest, rfl, blank, start, parts⟩

/-- **A name is read back from its text**, if no name goes on behind it. -/
theorem Lexes.name_of_takeName (h : ReadsAsName n) (apart : takeName tail = ([], tail))
    (more : Lexes tail ts) : Lexes (n.toList ++ tail) (.name n :: ts) := by
  obtain ⟨c, rest, hn, blank, start, whole⟩ := h.exists_cons
  have parts := takeName_append rest
  rw [whole, List.append_nil] at parts
  have taken := takeName_append_tail apart rest
  rw [parts, whole, List.nil_append] at taken
  have same : String.ofList (c :: rest) = n := by rw [← hn, String.ofList_toList]
  rw [hn, List.cons_append]
  refine .cons blank ?_ more
  rw [readToken_of_isNameStart start, taken, same]

theorem Lexes.name (h : ReadsAsName n) (apart : EndsName tail) (more : Lexes tail ts) :
    Lexes (n.toList ++ tail) (.name n :: ts) :=
  .name_of_takeName h (takeName_of_endsName apart) more

theorem readToken_slash (apart : rest.head? ≠ some '/') :
    readToken '/' rest = .ok (.slash, rest) := by
  rw [readToken]
  rintro behind rfl
  exact apart rfl

/-- A slash that is not the first of two. -/
theorem Lexes.slash (apart : rest.head? ≠ some '/') (more : Lexes rest ts) :
    Lexes ('/' :: rest) (.slash :: ts) :=
  .cons (by decide) (readToken_slash apart) more

/-- No name starts with a slash. -/
theorem ReadsAsName.head?_ne_slash (h : ReadsAsName n) :
    (n.toList ++ tail).head? ≠ some '/' := by
  obtain ⟨c, rest, hn, _, start, _⟩ := h.exists_cons
  rw [hn, List.cons_append, List.head?_cons]
  intro slash
  cases slash
  exact absurd start (by decide)

/-! ## 4. Numbers -/

theorem readDigits_toDigits (k : Nat) : Text.readDigits (Nat.toDigits 10 k) = some k := by
  have digits : (Nat.toDigits 10 k).all Char.isDigit = true :=
    List.all_eq_true.mpr fun c hc => Nat.isDigit_of_mem_toDigits (by decide) (by decide) hc
  have nonempty : (Nat.toDigits 10 k).isEmpty = false := by
    rw [List.isEmpty_eq_false_iff]
    exact Nat.toDigits_ne_nil
  rw [Text.readDigits, digits, nonempty]
  exact congrArg some Nat.ofDigitChars_ten_toDigits

theorem isBlank_of_isDigit (h : c.isDigit = true) : Text.isBlank c = false := by
  obtain ⟨above, upto⟩ := toNat_of_isDigit h
  have ascii : ∀ n < 0x3a, 0x30 ≤ n → Text.inRanges n Text.whiteSpace.ranges = false := by decide
  exact ascii c.toNat (by omega) above

/-- A number is written with decimal digits, and with one of them at least. -/
theorem of_readDigits {k : Nat} (h : Text.readDigits cs = some k) :
    cs ≠ [] ∧ ∀ c ∈ cs, c.isDigit = true := by
  unfold Text.readDigits at h
  split at h
  · rename_i digits
    simpa using digits
  · cases h

theorem readInteger?_of_readDigits {k : Nat} (read : Text.readDigits cs = some k)
    (hk : k < 2 ^ 63) : Text.readInteger? cs = some (k : Int) := by
  have inRange : Text.inRange? (k : Int) = some (k : Int) := by
    refine if_pos ⟨?_, ?_⟩
    · unfold Text.minInteger
      omega
    · unfold Text.maxInteger
      omega
  unfold Text.readInteger?
  split
  case h_3 => rw [read, Option.bind_some, inRange]
  -- no sign is a digit
  all_goals exact absurd ((of_readDigits read).2 _ List.mem_cons_self) (by decide)

/-- A run of characters ends where a character of another kind stands. -/
theorem takeWhile_and_dropWhile_append {p : Char → Bool} (all : ∀ c ∈ rest, p c = true)
    (apart : ∀ c ∈ tail.head?, p c = false) :
    (rest ++ tail).takeWhile p = rest ∧ (rest ++ tail).dropWhile p = tail := by
  rw [List.takeWhile_append_of_pos all, List.dropWhile_append_of_pos all]
  cases tail with
  | nil => simp
  | cons c _ => simp [apart c rfl]

/-- **A number in range is read from its digits.** -/
theorem Lexes.digits {k : Nat} (read : Text.readDigits cs = some k) (hk : k < 2 ^ 63)
    (apart : ∀ c ∈ tail.head?, c.isDigit = false) (more : Lexes tail ts) :
    Lexes (cs ++ tail) (.number k :: ts) := by
  have integer := readInteger?_of_readDigits read hk
  obtain ⟨nonempty, digits⟩ := of_readDigits read
  obtain ⟨d, rest, rfl⟩ := List.exists_cons_of_ne_nil nonempty
  obtain ⟨first, others⟩ := List.forall_mem_cons.mp digits
  obtain ⟨taken, dropped⟩ := takeWhile_and_dropWhile_append others apart
  rw [List.cons_append]
  refine .cons (isBlank_of_isDigit first) ?_ more
  rw [readToken_of_isDigit first, taken, dropped, integer]

/-- **A number in range is read back from its text.** -/
theorem Lexes.number {k : Nat} (hk : k < 2 ^ 63) (apart : ∀ c ∈ tail.head?, c.isDigit = false)
    (more : Lexes tail ts) : Lexes ((toString k).toList ++ tail) (.number k :: ts) := by
  rw [Nat.toString_eq_ofList_toDigits, String.toList_ofList]
  exact .digits (readDigits_toDigits k) hk apart more

end MarkupRules.Path
