import MarkupRules.Library.Basic
import MarkupRules.Proofs.Text.Phrases

/-!
# The kind of a problem

Whether a library cannot be read or has a malformed rule is told by phrases in the message. Nothing
that a message says on its own has such a phrase in it unless a name is to blame, so what the
problem is settles the kind, as long as the message quotes no text.

* `speaksOfNames` -- the search for the phrases, and `speaksOfNames_cut` -- **a message is searched
  part by part**;
* `Plain`, `calmChars` -- texts without a phrase in them;
* `speaksOfNames_found` -- a value that is no text does not tell the kind;
* `Problem.Settled` -- **the kind is that of the problem**, whatever is written in the values;
* `Problem.errorKind_quoted` -- **the kind of a text in the wrong place is told by the text**.
-/

namespace MarkupRules

variable {c : Char} {cs behind : List Char} {expected s : String} {v : Value}

/-! ## 1. Phrases -/

/-- The phrases that make an error one of a malformed rule. -/
def namePhrases : List String :=
  ["unknown variant", "unknown field", "missing field"]

/-- Whether one of the phrases occurs in the lower case of a text. -/
def speaksOfNames (cs : List Char) : Bool :=
  namePhrases.any fun phrase => Text.occursIn phrase.toList (Text.lowercase cs)

theorem Problem.errorKind_eq (p : Problem) : p.errorKind =
    if speaksOfNames p.message.toList then .malformedRule else .syntaxError := rfl

theorem speaksOfNames_iff :
    speaksOfNames cs = true ↔ ∃ phrase ∈ namePhrases, phrase.toList <:+: Text.fold cs := by
  have plain : ∀ phrase ∈ namePhrases,
      phrase.toList ≠ [] ∧ 'σ' ∉ phrase.toList ∧ 'ς' ∉ phrase.toList := by decide
  rw [speaksOfNames, List.any_eq_true]
  refine exists_congr fun phrase => and_congr_right fun among => ?_
  obtain ⟨nonempty, noSigma⟩ := plain phrase among
  rw [Text.occursIn, Option.isSome_iff_ne_none, Ne, Text.cut?_eq_none_iff nonempty, not_not,
    Text.infix_lowercase_iff noSigma]

/-- A character that is its own lower case and belongs to no phrase. -/
def Separates (c : Char) : Prop :=
  Text.foldChar c = [c] ∧ ∀ phrase ∈ namePhrases, c ∉ phrase.toList

/-- **A text is searched part by part**, if it is cut at a character that belongs to no phrase. -/
theorem speaksOfNames_cut (apart : Separates c) (front behind : List Char) :
    speaksOfNames (front ++ c :: behind) = (speaksOfNames front || speaksOfNames behind) := by
  obtain ⟨own, lacks⟩ := apart
  rw [Bool.eq_iff_iff, Bool.or_eq_true, speaksOfNames_iff, speaksOfNames_iff, speaksOfNames_iff,
    ← exists_or]
  refine exists_congr fun phrase => ?_
  rw [← and_or_left]
  refine and_congr_right fun among => ?_
  rw [Text.fold, List.flatMap_append, List.flatMap_cons, own, List.singleton_append,
    Text.infix_append_cons_iff (lacks phrase among)]
  rfl

/-- A text of ASCII characters without a phrase in it. -/
def Plain (text : String) : Prop :=
  (∀ c ∈ text.toList, c.toNat < 0x80) ∧
    ∀ phrase ∈ namePhrases, ¬ phrase.toList <:+: text.toList.map Char.toLower

instance {text : String} : Decidable (Plain text) :=
  inferInstanceAs (Decidable (_ ∧ _))

theorem fold_of_ascii (ascii : ∀ c ∈ cs, c.toNat < 0x80) : Text.fold cs = cs.map Char.toLower := by
  rw [Text.fold, List.flatMap_congr fun c hc => Text.foldChar_of_ascii (ascii c hc),
    ← List.map_eq_flatMap]

theorem Plain.quiet {text : String} (h : Plain text) : speaksOfNames text.toList = false := by
  obtain ⟨ascii, absent⟩ := h
  rw [Bool.eq_false_iff, Ne, speaksOfNames_iff, fold_of_ascii ascii]
  rintro ⟨phrase, among, occurs⟩
  exact absent phrase among occurs

/-- The characters between the parts of a message. -/
theorem separates : ∀ c ∈ [',', '\x60', '\x22'], Separates c := by
  have apart : ∀ c ∈ [',', '\x60', '\x22'], c.toNat < 0x80 ∧ c.toLower = c ∧
      ∀ phrase ∈ namePhrases, c ∉ phrase.toList := by decide
  intro c among
  obtain ⟨ascii, own, lacks⟩ := apart c among
  exact ⟨by rw [Text.foldChar_of_ascii ascii, own], lacks⟩

/-! ## 2. Numbers in messages -/

/-- The characters that numbers are written with, and the words in front of a length. -/
def calmChars : List Char :=
  "0123456789.e-+invalid length ".toList

/-- Every phrase has one of two letters, and none of these characters is one of them. -/
theorem speaksOfNames_of_calm (calm : ∀ c ∈ cs, c ∈ calmChars) : speaksOfNames cs = false := by
  have plain : ∀ c ∈ calmChars, c.toNat < 0x80 ∧ c.toLower ≠ 'u' ∧ c.toLower ≠ 'm' := by decide
  have letters : ∀ phrase ∈ namePhrases, 'u' ∈ phrase.toList ∨ 'm' ∈ phrase.toList := by decide
  rw [Bool.eq_false_iff, Ne, speaksOfNames_iff, fold_of_ascii fun c hc => (plain c (calm c hc)).1]
  rintro ⟨phrase, among, occurs⟩
  rcases letters phrase among with letter | letter
  · obtain ⟨c, hc, same⟩ := List.mem_map.mp (occurs.subset letter)
    exact (plain c (calm c hc)).2.1 same
  · obtain ⟨c, hc, same⟩ := List.mem_map.mp (occurs.subset letter)
    exact (plain c (calm c hc)).2.2 same

theorem mem_calmChars_of_isDigit (digit : c.isDigit = true) : c ∈ calmChars := by
  have all : ∀ n < 58, 48 ≤ n → Char.ofNat n ∈ calmChars := by decide
  rw [Char.isDigit, Bool.and_eq_true, decide_eq_true_iff, decide_eq_true_iff] at digit
  have own := all c.toNat (Nat.lt_succ_of_le digit.2) digit.1
  rwa [Char.ofNat_toNat] at own

theorem mem_calmChars_of_mem_toDigits {n : Nat} (h : c ∈ Nat.toDigits 10 n) : c ∈ calmChars :=
  mem_calmChars_of_isDigit (Nat.isDigit_of_mem_toDigits (by decide) (by decide) h)

theorem mem_calmChars_of_natural {n : Nat} (h : c ∈ (toString n).toList) : c ∈ calmChars := by
  rw [Nat.toString_eq_ofList_toDigits, String.toList_ofList] at h
  exact mem_calmChars_of_mem_toDigits h

theorem mem_calmChars_of_integer : ∀ {n : Int}, c ∈ (toString n).toList → c ∈ calmChars
  | .ofNat n, h => mem_calmChars_of_natural h
  | .negSucc n, h => by
    have parts : (toString (Int.negSucc n)).toList = '-' :: (toString (n + 1)).toList :=
      String.toList_append
    rw [parts] at h
    rcases List.mem_cons.mp h with rfl | h
    · decide
    · exact mem_calmChars_of_natural h

/-- Digits are laid out with a point, an exponent and signs. -/
theorem mem_calmChars_of_layOut {layout : Text.FractionLayout} {digits : List Char} {last : Int}
    (all : ∀ c ∈ digits, c ∈ calmChars) :
    ∀ c ∈ Text.layOut layout digits last, c ∈ calmChars := by
  have zeros : ∀ n, ∀ c ∈ List.replicate n '0', c ∈ calmChars := by
    intro n c hc
    rw [List.eq_of_mem_replicate hc]
    decide
  have exponent : ∀ n, ∀ c ∈ Nat.toDigits 10 n, c ∈ calmChars :=
    fun n c => mem_calmChars_of_mem_toDigits
  have taken : ∀ n, ∀ c ∈ digits.take n, c ∈ calmChars :=
    fun n c hc => all c (List.mem_of_mem_take hc)
  have dropped : ∀ n, ∀ c ∈ digits.drop n, c ∈ calmChars :=
    fun n c hc => all c (List.mem_of_mem_drop hc)
  have signs : '0' ∈ calmChars ∧ '.' ∈ calmChars ∧ 'e' ∈ calmChars ∧ '-' ∈ calmChars ∧
      '+' ∈ calmChars := by decide
  unfold Text.layOut
  dsimp only
  split
  · split
    · simp only [List.forall_mem_append, List.forall_mem_cons]
      exact ⟨⟨all, zeros _⟩, signs.2.1, signs.1, nofun⟩
    · split
      · simp only [List.forall_mem_append, List.forall_mem_cons]
        exact ⟨taken _, signs.2.1, dropped _⟩
      · simp only [List.cons_append, List.forall_mem_append, List.forall_mem_cons]
        exact ⟨signs.1, signs.2.1, zeros _, all⟩
  · have fraction : ∀ c ∈ (if (digits.drop 1).isEmpty then [] else '.' :: digits.drop 1),
        c ∈ calmChars := by
      split
      · nofun
      · exact List.forall_mem_cons.mpr ⟨signs.2.1, dropped 1⟩
    have sign : ∀ lead : Int, (if lead < 0 then '-' else '+') ∈ calmChars := by
      intro lead
      split
      · exact signs.2.2.2.1
      · exact signs.2.2.2.2
    simp only [List.forall_mem_append, List.forall_mem_cons]
    exact ⟨⟨taken 1, fraction⟩, signs.2.2.1, sign _, exponent _⟩

theorem mem_calmChars_of_show {x : Text.Fraction} : ∀ c ∈ x.show.toList, c ∈ calmChars := by
  have sign : ∀ c ∈ (if x.negative then ['-'] else []), c ∈ calmChars := by
    split <;> decide
  rw [Text.Fraction.show]
  dsimp only
  split
  · rw [String.toList_ofList, List.forall_mem_append]
    exact ⟨sign, by decide⟩
  · rw [String.toList_ofList, List.forall_mem_append]
    refine ⟨sign, mem_calmChars_of_layOut fun c hc => ?_⟩
    rw [Text.dropZeros, List.mem_reverse] at hc
    exact mem_calmChars_of_mem_toDigits
      (List.mem_reverse.mp ((List.dropWhile_suffix _).subset hc))

/-! ## 3. Messages -/

/-- What is expected does not tell the kind. -/
theorem speaksOfNames_expected (plain : Plain (" expected " ++ expected)) (found : String) :
    speaksOfNames (found ++ ", expected " ++ expected).toList = speaksOfNames found.toList := by
  have parts : (found ++ ", expected " ++ expected).toList =
      found.toList ++ ',' :: (" expected " ++ expected).toList := by
    rw [String.toList_append, String.toList_append, String.toList_append, List.append_assoc]
    rfl
  rw [parts, speaksOfNames_cut (separates _ (by decide)), plain.quiet, Bool.or_false]

/-- How the messages about a value start. -/
def openings : List String :=
  ["invalid type: ", "invalid value: "]

/-- A number that is named as one does not tell the kind. -/
theorem speaksOfNames_number {front number : String} (word : String)
    (plain : ∀ c ∈ number.toList, c ∈ calmChars)
    (quiet : speaksOfNames (front ++ word).toList = false) :
    speaksOfNames (front ++ (word ++ "\x60" ++ number ++ "\x60")).toList = false := by
  have parts : (front ++ (word ++ "\x60" ++ number ++ "\x60")).toList =
      (front ++ word).toList ++ '\x60' :: (number.toList ++ '\x60' :: []) := by
    simp
  have apart : Separates '\x60' := separates _ (by decide)
  rw [parts, speaksOfNames_cut apart, speaksOfNames_cut apart, quiet, speaksOfNames_of_calm plain]
  rfl

/-- **A value that is no text does not tell the kind.** -/
theorem speaksOfNames_found {opening : String} (among : opening ∈ openings)
    (other : ∀ s, v ≠ .text s) : speaksOfNames (opening ++ v.found).toList = false := by
  have words : ∀ o ∈ openings, ∀ word ∈ ["null", "boolean \x60true\x60", "boolean \x60false\x60",
      "sequence", "map", "integer ", "floating point "], Plain (o ++ word) := by decide +kernel
  cases v with
  | null => exact (words _ among "null" (by decide)).quiet
  | boolean b =>
    cases b with
    | true => exact (words _ among "boolean \x60true\x60" (by decide)).quiet
    | false => exact (words _ among "boolean \x60false\x60" (by decide)).quiet
  | integer n =>
    exact speaksOfNames_number "integer " (fun c => mem_calmChars_of_integer)
      (words _ among _ (by decide)).quiet
  | fraction x =>
    exact speaksOfNames_number "floating point " (fun c => mem_calmChars_of_show c)
      (words _ among _ (by decide)).quiet
  | text s => exact absurd rfl (other s)
  | sequence items => exact (words _ among "sequence" (by decide)).quiet
  | mapping entries => exact (words _ among "map" (by decide)).quiet

/-! ## 4. Problems -/

/-- Whether a name is to blame: a variant or a field that is not known, or a missing field. -/
def Problem.isOfName : Problem → Bool
  | .unknownVariant .. | .unknownField .. | .missingField .. => true
  | _ => false

/-- The problem is not that of a text in the wrong place, and its kind does not depend on what is
    written in the values. -/
structure Problem.Settled (p : Problem) : Prop where
  apart : ∀ s expected, p ≠ .wrongType (Value.text s).found expected
  kind : p.errorKind = if p.isOfName then .malformedRule else .syntaxError

/-- What is expected of a value, as messages name it. -/
abbrev Expectation (expected : String) : Prop :=
  Plain (" expected " ++ expected)

/-- No other value is named as a text is: two letters tell. -/
theorem Value.found_ne_found_text (other : ∀ s, v ≠ .text s) (s : String) :
    v.found ≠ (Value.text s).found := by
  intro same
  have named : ∀ word rest : String, (word ++ rest).toList.take 2 =
      (word.toList ++ rest.toList).take 2 := fun word rest => by rw [String.toList_append]
  have first : v.found.toList.take 2 = ['s', 't'] := same ▸ named "string " (Text.quoted s)
  cases v with
  | null => exact absurd (show ['n', 'u'] = ['s', 't'] from first) (by decide)
  | boolean b =>
    cases b <;> exact absurd (show ['b', 'o'] = ['s', 't'] from first) (by decide)
  | integer n =>
    have own : (Value.integer n).found = "integer \x60" ++ (toString n ++ "\x60") :=
      String.append_assoc
    rw [own, named] at first
    exact absurd (show ['i', 'n'] = ['s', 't'] from first) (by decide)
  | fraction x =>
    have own : (Value.fraction x).found = "floating point \x60" ++ (x.show ++ "\x60") :=
      String.append_assoc
    rw [own, named] at first
    exact absurd (show ['f', 'l'] = ['s', 't'] from first) (by decide)
  | text t => exact other t rfl
  | sequence items =>
    have own : (Value.sequence items).found = "sequence" := rfl
    exact absurd (own ▸ first) (by decide)
  | mapping entries =>
    have own : (Value.mapping entries).found = "map" := rfl
    exact absurd (own ▸ first) (by decide)

/-- A value of the wrong type that is no text. -/
theorem Problem.settled_wrongType (plain : Expectation expected) (other : ∀ s, v ≠ .text s) :
    (Problem.wrongType v.found expected).Settled where
  apart s _ same := Value.found_ne_found_text other s (Problem.wrongType.inj same).1
  kind := by
    have quiet := speaksOfNames_found (show "invalid type: " ∈ openings by decide) other
    rw [← speaksOfNames_expected plain] at quiet
    exact if_neg (Bool.eq_false_iff.mp quiet)

/-- A value that is out of bounds. -/
theorem Problem.settled_wrongValue (plain : Expectation expected) (other : ∀ s, v ≠ .text s) :
    (Problem.wrongValue v.found expected).Settled where
  apart := nofun
  kind := by
    have quiet := speaksOfNames_found (show "invalid value: " ∈ openings by decide) other
    rw [← speaksOfNames_expected plain] at quiet
    exact if_neg (Bool.eq_false_iff.mp quiet)

/-- The name of a predicate that stands alone. -/
theorem Problem.settled_unitVariant (plain : Expectation expected) :
    (Problem.wrongType "unit variant" expected).Settled where
  apart s _ same := by
    have first := congrArg (fun named => named.toList.take 1) (Problem.wrongType.inj same).1
    have text : ("string " ++ Text.quoted s).toList.take 1 = ['s'] := by
      rw [String.toList_append]
      rfl
    exact absurd (first.trans text) (by decide)
  kind := by
    have quiet : Plain ("invalid type: " ++ "unit variant") := by decide
    have calm := quiet.quiet
    rw [← speaksOfNames_expected plain] at calm
    exact if_neg (Bool.eq_false_iff.mp calm)

/-- A sequence of the wrong length. -/
theorem Problem.settled_wrongLength (plain : Expectation expected) (length : Nat) :
    (Problem.wrongLength length expected).Settled where
  apart := nofun
  kind := by
    have calm : speaksOfNames ("invalid length " ++ toString length).toList = false := by
      refine speaksOfNames_of_calm fun c hc => ?_
      rw [String.toList_append, List.mem_append] at hc
      rcases hc with word | number
      · have all : ∀ c ∈ "invalid length ".toList, c ∈ calmChars := by decide
        exact all c word
      · exact mem_calmChars_of_natural number
    rw [← speaksOfNames_expected plain] at calm
    exact if_neg (Bool.eq_false_iff.mp calm)

/-- A problem whose message starts with a phrase is one of a name. -/
theorem Problem.settled_of_phrase {p : Problem} {phrase : String} (among : phrase ∈ namePhrases)
    (name : p.isOfName = true) (starts : (phrase ++ " \x60").toList <+: p.message.toList) :
    p.Settled where
  apart := by
    rintro s expected rfl
    cases name
  kind := by
    have own : ∀ phrase ∈ namePhrases, (∀ c ∈ (phrase ++ " ").toList, c.toNat < 0x80) ∧
        phrase.toList <:+: (phrase ++ " ").toList.map Char.toLower ∧
        (phrase ++ " \x60").toList = (phrase ++ " ").toList ++ ['\x60'] := by decide
    obtain ⟨ascii, occurs, parts⟩ := own phrase among
    obtain ⟨behind, whole⟩ := starts
    have spoken : speaksOfNames (phrase ++ " ").toList = true :=
      speaksOfNames_iff.mpr ⟨phrase, among, fold_of_ascii ascii ▸ occurs⟩
    rw [if_pos name, Problem.errorKind_eq, ← whole, parts, List.append_assoc,
      List.singleton_append, speaksOfNames_cut (separates _ (by decide)), spoken, Bool.true_or,
      if_pos rfl]

theorem Problem.settled_unknownVariant (name : String) (variants : List String) :
    (Problem.unknownVariant name variants).Settled := by
  refine settled_of_phrase (show "unknown variant" ∈ namePhrases by decide) rfl ?_
  show _ <+: ("unknown variant \x60" ++ name ++ "\x60, " ++ oneOf variants).toList
  simp only [String.toList_append, List.append_assoc]
  exact List.prefix_append ("unknown variant".toList ++ " \x60".toList) _

theorem Problem.settled_unknownField (name : String) (fields : List String) :
    (Problem.unknownField name fields).Settled := by
  refine settled_of_phrase (show "unknown field" ∈ namePhrases by decide) rfl ?_
  show _ <+: ("unknown field \x60" ++ name ++ "\x60, " ++ oneOf fields).toList
  simp only [String.toList_append, List.append_assoc]
  exact List.prefix_append ("unknown field".toList ++ " \x60".toList) _

theorem Problem.settled_missingField (name : String) : (Problem.missingField name).Settled := by
  refine settled_of_phrase (show "missing field" ∈ namePhrases by decide) rfl ?_
  show _ <+: ("missing field \x60" ++ name ++ "\x60").toList
  simp only [String.toList_append, List.append_assoc]
  exact List.prefix_append ("missing field".toList ++ " \x60".toList) _

/-- A value that is neither an integer nor a text. -/
theorem Problem.settled_noAlternative : (Problem.noAlternative "ValueSource").Settled where
  apart := nofun
  kind := by
    have quiet : Plain ("data did not match any variant of untagged enum " ++ "ValueSource") := by
      decide +kernel
    have own : (Problem.noAlternative "ValueSource").message =
        "data did not match any variant of untagged enum " ++ "ValueSource" := rfl
    rw [Problem.errorKind_eq, own, quiet.quiet]
    rfl

/-! ## 5. Texts in the wrong place -/

/-- Whether a text, as messages quote it, has one of the phrases in it. -/
def quotesPhrase (s : String) : Bool :=
  speaksOfNames (Text.quoted s).toList

/-- **The kind of a text in the wrong place is told by the text**: quotation marks cut it off from
    the rest of the message. -/
theorem Problem.errorKind_quoted (plain : Expectation expected) (s : String) :
    (Problem.wrongType (Value.text s).found expected).errorKind =
      if quotesPhrase s then .malformedRule else .syntaxError := by
  have quiet : Plain "invalid type: string " := by decide
  have quoted : (Text.quoted s).toList = '\x22' :: (s.toList.flatMap Text.escaped ++ ['\x22']) := by
    rw [Text.quoted, String.toList_ofList]
    rfl
  have found : ("invalid type: " ++ (Value.text s).found).toList =
      "invalid type: string ".toList ++ '\x22' :: (s.toList.flatMap Text.escaped ++ ['\x22']) := by
    have own : (Value.text s).found = "string " ++ Text.quoted s := rfl
    rw [own, String.toList_append, String.toList_append, quoted, ← List.append_assoc]
    rfl
  have same : speaksOfNames ("invalid type: " ++ (Value.text s).found).toList = quotesPhrase s := by
    have alone := speaksOfNames_cut (separates '\x22' (by decide)) []
      (s.toList.flatMap Text.escaped ++ ['\x22'])
    rw [found, speaksOfNames_cut (separates _ (by decide)), quiet.quiet, quotesPhrase, quoted]
    exact alone.symm
  rw [← speaksOfNames_expected plain] at same
  exact same ▸ rfl

end MarkupRules
