import Mathlib.Data.List.TakeDrop
import Databook.Proofs.Formula.Parser

/-!
# How tokens are written

`Spelled t word` says that `word` is one way of writing the token `t`: a number as a literal, a string in
either quote with its backslashes and quotes escaped, a quoted name in backticks, and the operators `&&`,
`||` and `!` also as words. A text is `Spaced` over a list of tokens if it has a spelling of each of them
in order, with blanks between them.

Splitting such a text gives these tokens back (`tokenize_of_spaced`). Every spelling is read up to its end
and no further, because what stands behind it is a blank (`Reads`), and a blank goes on no token.
-/

namespace Databook.Formula

open Text

/-! ### Words that end -/

/-- Does the text end here, or go on with a blank? -/
def Breaks (rest : List Char) : Prop := ∀ c ∈ rest.head?, isBlank c = true

theorem breaks_nil : Breaks [] := nofun

theorem breaks_cons {b : Char} (hb : isBlank b = true) (rest : List Char) : Breaks (b :: rest) := by
  rintro c ⟨⟩
  exact hb

section Runs

variable {p : Char → Bool} {cs rest : List Char}

theorem takeWhile_append_of_head (hcs : ∀ c ∈ cs, p c = true) (hrest : ∀ c ∈ rest.head?, p c = false) :
    (cs ++ rest).takeWhile p = cs := by
  rw [List.takeWhile_append_of_pos hcs]
  cases rest with
  | nil => exact List.append_nil cs
  | cons c rest => rw [List.takeWhile_cons_of_neg (by rw [hrest c rfl]; decide), List.append_nil]

theorem span_append_of_head (hcs : ∀ c ∈ cs, p c = true) (hrest : ∀ c ∈ rest.head?, p c = false) :
    (cs ++ rest).span p = (cs, rest) := by
  rw [List.span_eq_takeWhile_dropWhile, takeWhile_append_of_head hcs hrest,
    List.dropWhile_append_of_pos hcs]
  cases rest with
  | nil => rfl
  | cons c rest => rw [List.dropWhile_cons_of_neg (by rw [hrest c rfl]; decide)]

/-- A run of characters among which there is no blank ends in front of one. -/
theorem takeWhile_of_breaks (hp : ∀ b, isBlank b = true → p b = false) (hcs : ∀ c ∈ cs, p c = true)
    (hrest : Breaks rest) : (cs ++ rest).takeWhile p = cs :=
  takeWhile_append_of_head hcs fun b hb => hp b (hrest b hb)

theorem not_isBlank_of_part (hp : ∀ b, isBlank b = true → p b = false) {c : Char} (hc : p c = true) :
    isBlank c = false := by
  cases hblank : isBlank c with
  | false => rfl
  | true =>
    rw [hp c hblank] at hc
    cases hc

end Runs

/-- The characters of numbers lie between the point and the digit nine, where there is neither a blank nor
the start of a word. -/
theorem not_isNumberPart {c : Char} (h : isBlank c = true ∨ isWordStart c = true) :
    isNumberPart c = false := by
  cases hpart : isNumberPart c with
  | false => rfl
  | true =>
    have hrange : '.'.toNat ≤ c.toNat ∧ c.toNat ≤ '9'.toNat := by
      simp only [isNumberPart, Char.isDigit, Bool.or_eq_true, Bool.and_eq_true, decide_eq_true_eq,
        beq_iff_eq] at hpart
      rcases hpart with ⟨hlow, hhigh⟩ | rfl
      · exact ⟨Nat.le_trans (by decide) hlow, hhigh⟩
      · decide
    have hall : ∀ n < '9'.toNat + 1, '.'.toNat ≤ n →
        ¬ (isBlank (Char.ofNat n) = true ∨ isWordStart (Char.ofNat n) = true) := by decide
    rw [← Char.ofNat_toNat c] at h
    exact absurd h (hall _ (Nat.lt_succ_of_le hrange.2) hrange.1)

theorem startsNumber_of_isDigit {c : Char} (h : c.isDigit = true) (cs : List Char) :
    startsNumber (c :: cs) = true := by
  unfold startsNumber
  split
  · next heq =>
    cases heq
    exact absurd h (by decide)
  · next heq =>
    cases heq
    exact h
  · next heq => cases heq

theorem not_startsNumber {c : Char} (h : isNumberPart c = false) (cs : List Char) :
    startsNumber (c :: cs) = false := by
  rw [isNumberPart, Bool.or_eq_false_iff] at h
  unfold startsNumber
  split
  · next heq =>
    cases heq
    exact absurd h.2 (by decide)
  · next heq =>
    cases heq
    exact h.1
  · rfl

/-! ### Literals -/

/-- The text of a number: digits with at most one point, and at least one digit. -/
structure Literal where
  whole : List Char
  /-- The digits behind the point, if there is one. -/
  fraction? : Option (List Char)
  whole_digits : ∀ c ∈ whole, c.isDigit = true
  fraction_digits : ∀ c ∈ fraction?.getD [], c.isDigit = true
  some_digit : whole ≠ [] ∨ fraction?.getD [] ≠ []

namespace Literal

/-- The point and the digits behind it. -/
def tail (n : Literal) : List Char :=
  match n.fraction? with
  | none => []
  | some digits => '.' :: digits

def chars (n : Literal) : List Char := n.whole ++ n.tail

def numeral (n : Literal) : Decimal.Numeral := ⟨false, n.whole, n.fraction?.getD [], 0⟩

/-- The double nearest to the number written. -/
def value (n : Literal) : Float := n.numeral.toFloat

theorem isNumberPart_of_mem {n : Literal} {c : Char} (hc : c ∈ n.chars) : isNumberPart c = true := by
  unfold isNumberPart
  rcases List.mem_append.1 hc with hc | hc
  · rw [n.whole_digits c hc, Bool.true_or]
  · unfold tail at hc
    split at hc
    · cases hc
    · next digits hfraction =>
      rcases List.mem_cons.1 hc with rfl | hc
      · rfl
      · rw [n.fraction_digits c (by rwa [hfraction]), Bool.true_or]

/-- A number starts where a literal does: at a digit, or at a point and a digit behind it. -/
theorem exists_chars (n : Literal) :
    ∃ c cs, n.chars = c :: cs ∧ ∀ rest, startsNumber (c :: (cs ++ rest)) = true := by
  obtain ⟨whole, fraction?, hwhole, hfraction, hsome⟩ := n
  cases whole with
  | cons d ds => exact ⟨d, _, rfl, fun rest => startsNumber_of_isDigit (hwhole d List.mem_cons_self) _⟩
  | nil =>
    have hdigits : fraction?.getD [] ≠ [] := hsome.resolve_left fun hwhole => hwhole rfl
    rcases fraction? with _ | _ | ⟨d, ds⟩
    · exact absurd rfl hdigits
    · exact absurd rfl hdigits
    · exact ⟨'.', d :: ds, rfl, fun rest => hfraction d List.mem_cons_self⟩

/-- A literal has no sign. -/
theorem sign_chars (n : Literal) : Decimal.Numeral.sign n.chars = (false, n.chars) := by
  unfold Decimal.Numeral.sign
  split
  · next heq => exact absurd (isNumberPart_of_mem (heq ▸ List.mem_cons_self)) (by decide)
  · next heq => exact absurd (isNumberPart_of_mem (heq ▸ List.mem_cons_self)) (by decide)
  · rfl

theorem tail_cases (n : Literal) :
    n.tail = [] ∧ n.fraction?.getD [] = [] ∨ n.tail = '.' :: n.fraction?.getD [] := by
  unfold tail
  cases n.fraction? with
  | none => exact .inl ⟨rfl, rfl⟩
  | some digits => exact .inr rfl

theorem read?_chars (n : Literal) : Decimal.Numeral.read? n.chars = some n.numeral := by
  have hempty : (n.whole.isEmpty && (n.fraction?.getD []).isEmpty) = false := by
    rw [Bool.and_eq_false_iff, List.isEmpty_eq_false_iff, List.isEmpty_eq_false_iff]
    exact n.some_digit
  -- the digits in front of the point end at it, and those behind it at the end of the text
  have hwhole : n.chars.span Char.isDigit = (n.whole, n.tail) := by
    apply span_append_of_head n.whole_digits
    intro c hc
    rcases n.tail_cases with ⟨htail, -⟩ | htail
    · rw [htail] at hc
      cases hc
    · rw [htail] at hc
      cases hc
      rfl
  have hfraction : (n.fraction?.getD []).span Char.isDigit = (n.fraction?.getD [], []) := by
    have hspan : (n.fraction?.getD [] ++ []).span Char.isDigit = (n.fraction?.getD [], []) :=
      span_append_of_head n.fraction_digits nofun
    rwa [List.append_nil] at hspan
  unfold Decimal.Numeral.read?
  rw [sign_chars]
  rcases n.tail_cases with ⟨htail, hnone⟩ | htail
  · rw [hnone] at hempty
    simp only [hwhole, htail, hempty, Bool.false_eq_true, if_false]
    rw [numeral, hnone]
    rfl
  · simp only [hwhole, htail, hfraction, hempty, Bool.false_eq_true, if_false]
    rfl

theorem readFloat?_chars (n : Literal) : Decimal.readFloat? (String.ofList n.chars) = some n.value := by
  rw [Decimal.readFloat?, String.toList_ofList, read?_chars]
  rfl

end Literal

/-! ### Spellings -/

/-- Is the text a letter or an underscore with letters, number characters and underscores behind it? -/
def isWord : List Char → Bool
  | [] => false
  | c :: cs => isWordStart c && cs.all isWordPart

/-- The words that are no names. -/
def reservedWords : List String := ["and", "or", "not", "true", "false"]

/-- A name that needs no quotes. -/
structure IsPlainName (name : String) : Prop where
  word : isWord name.toList = true
  free : name ∉ reservedWords

/-- The second text is how the first one stands within quotes: a backslash and the quote around it have a
backslash in front of them, and the other quote may have one. -/
inductive Escaped (quote : Char) : List Char → List Char → Prop where
  | nil : Escaped quote [] []
  | plain {c : Char} {cs body : List Char} (hslash : c ≠ '\\') (hquote : c ≠ quote)
      (rest : Escaped quote cs body) : Escaped quote (c :: cs) (c :: body)
  | escape {c : Char} {cs body : List Char} (hc : c = '\\' ∨ c = '"' ∨ c = '\x27')
      (rest : Escaped quote cs body) : Escaped quote (c :: cs) ('\\' :: c :: body)

/-- Every text can stand in double quotes. -/
theorem exists_escaped (cs : List Char) : ∃ body, Escaped '"' cs body := by
  induction cs with
  | nil => exact ⟨[], .nil⟩
  | cons c cs ih =>
    obtain ⟨body, hbody⟩ := ih
    by_cases hslash : c = '\\'
    · exact ⟨_, .escape (.inl hslash) hbody⟩
    · by_cases hquote : c = '"'
      · exact ⟨_, .escape (.inr (.inl hquote)) hbody⟩
      · exact ⟨_, .plain hslash hquote hbody⟩

/-- Is the text a way of writing the token? -/
inductive Spelled : Token → List Char → Prop where
  | number (n : Literal) : Spelled (.number n.value) n.chars
  | string {quote : Char} {s : String} {body : List Char} (hquote : quote = '"' ∨ quote = '\x27')
      (h : Escaped quote s.toList body) : Spelled (.string s) (quote :: (body ++ [quote]))
  | bool (b : Bool) : Spelled (.bool b) (if b then "true" else "false").toList
  | name {s : String} (h : IsPlainName s) : Spelled (.name s) s.toList
  | quotedName {s : String} (h : '\x60' ∉ s.toList) :
      Spelled (.quotedName s) ('\x60' :: (s.toList ++ ['\x60']))
  | openParen : Spelled .openParen ['(']
  | closeParen : Spelled .closeParen [')']
  | comma : Spelled .comma [',']
  | op (o : Operator) : Spelled (.op o) o.symbol.toList
  | andWord : Spelled (.op .and) "and".toList
  | orWord : Spelled (.op .or) "or".toList
  | notWord : Spelled (.op .not) "not".toList

/-! ### Reading a spelling -/

/-- Is the word read as the token, and up to its end, wherever it stands in front of a blank or the end
of a text? -/
def Reads (t : Token) (word : List Char) : Prop :=
  ∃ c cs, word = c :: cs ∧ isBlank c = false ∧
    ∀ rest, Breaks rest → Token.at? c (cs ++ rest) = .ok (t, cs.length + 1)

theorem reads_number (n : Literal) : Reads (.number n.value) n.chars := by
  obtain ⟨c, cs, hchars, hstarts⟩ := n.exists_chars
  have hparts : ∀ d ∈ c :: cs, isNumberPart d = true := fun d hd =>
    Literal.isNumberPart_of_mem (hchars ▸ hd)
  refine ⟨c, cs, hchars, ?_, ?_⟩
  · exact not_isBlank_of_part (fun b hb => not_isNumberPart (.inl hb)) (hparts c List.mem_cons_self)
  · intro rest hrest
    have htake : (c :: (cs ++ rest)).takeWhile isNumberPart = c :: cs :=
      takeWhile_of_breaks (fun b hb => not_isNumberPart (.inl hb)) hparts hrest
    rw [Token.at?, if_pos (hstarts rest)]
    simp only [htake]
    rw [← hchars, n.readFloat?_chars, hchars]
    rfl

theorem stringBody?_of_ne {quote c : Char} (h : c ≠ '\\') (cs : List Char) :
    stringBody? quote (c :: cs) =
      if c == quote then some ([], 1)
      else (stringBody? quote cs).map fun (body, size) => (c :: body, size + 1) := by
  rw [stringBody?, if_neg (by rw [beq_iff_eq]; exact h)]
  · split
    · rfl
    · cases stringBody? quote cs <;> rfl
  · exact fun _ _ hc => absurd hc h

theorem unescape_of_escape {c : Char} (hc : c = '\\' ∨ c = '"' ∨ c = '\x27') : unescape c = c := by
  rcases hc with rfl | rfl | rfl <;> rfl

theorem stringBody?_of_escaped {quote : Char} {cs body : List Char} (hquote : quote ≠ '\\')
    (h : Escaped quote cs body) (rest : List Char) :
    stringBody? quote (body ++ quote :: rest) = some (cs, body.length + 1) := by
  induction h with
  | nil =>
    rw [List.nil_append, stringBody?_of_ne hquote, if_pos (beq_self_eq_true _)]
    rfl
  | plain hslash hc _ ih =>
    rw [List.cons_append, stringBody?_of_ne hslash, if_neg (by rw [beq_iff_eq]; exact hc), ih]
    rfl
  | escape hc _ ih =>
    rw [List.cons_append, List.cons_append, stringBody?, ih, unescape_of_escape hc]
    rfl

/-- What starts with a quote is a string. -/
theorem at?_quote {c : Char} (h : c = '"' ∨ c = '\x27') (cs : List Char) :
    Token.at? c cs =
      match stringBody? c cs with
      | some (body, size) => .ok (.string (String.ofList body), size + 1)
      | none => .error .unterminatedString := by
  have hnumber : isNumberPart c = false := by rcases h with rfl | rfl <;> decide
  rw [Token.at?, not_startsNumber hnumber, if_neg Bool.false_ne_true]
  exact if_pos (by rcases h with rfl | rfl <;> rfl)

theorem reads_string {quote : Char} {s : String} {body : List Char} (hquote : quote = '"' ∨ quote = '\x27')
    (h : Escaped quote s.toList body) : Reads (.string s) (quote :: (body ++ [quote])) := by
  have hslash : quote ≠ '\\' := by rcases hquote with rfl | rfl <;> decide
  refine ⟨quote, body ++ [quote], rfl, by rcases hquote with rfl | rfl <;> decide, ?_⟩
  -- the closing quote ends the string, whatever is behind it
  intro rest _
  have hbody := stringBody?_of_escaped hslash h rest
  rw [at?_quote hquote, List.append_assoc, List.singleton_append, hbody]
  simp

/-- What starts with a backtick is a name up to the next one. -/
theorem at?_backtick (body rest : List Char) (h : '\x60' ∉ body) :
    Token.at? '\x60' (body ++ '\x60' :: rest) = .ok (.quotedName (String.ofList body), body.length + 2) := by
  have htake : (body ++ '\x60' :: rest).takeWhile (· != '\x60') = body := by
    apply takeWhile_append_of_head
    · intro c hc
      exact bne_iff_ne.2 (fun heq => h (heq ▸ hc))
    · rintro c ⟨⟩
      rfl
  rw [Token.at?, not_startsNumber (by decide), if_neg Bool.false_ne_true, if_neg (by decide),
    if_pos (by decide)]
  simp only [htake]
  rw [if_pos (by simp)]

theorem reads_quotedName {s : String} (h : '\x60' ∉ s.toList) :
    Reads (.quotedName s) ('\x60' :: (s.toList ++ ['\x60'])) := by
  refine ⟨'\x60', s.toList ++ ['\x60'], rfl, by decide, fun rest _ => ?_⟩
  rw [List.append_assoc, List.singleton_append, at?_backtick s.toList rest h, String.ofList_toList,
    List.length_append]
  rfl

/-- What starts a word is read up to the end of the word. -/
theorem at?_word {c : Char} (h : isWordStart c = true) (cs : List Char) :
    Token.at? c cs = .ok (Token.ofWord (String.ofList ((c :: cs).takeWhile isWordPart)),
      ((c :: cs).takeWhile isWordPart).length) := by
  -- no quote starts a word
  have hquote : ¬ (c == '"' || c == '\x27') = true := by
    rw [Bool.or_eq_true, beq_iff_eq, beq_iff_eq]
    rintro (rfl | rfl) <;> exact absurd h (by decide)
  have hbacktick : ¬ (c == '\x60') = true := by
    rw [beq_iff_eq]
    rintro rfl
    exact absurd h (by decide)
  rw [Token.at?, not_startsNumber (not_isNumberPart (.inr h)), if_neg Bool.false_ne_true,
    if_neg hquote, if_neg hbacktick, if_pos h]

/-- A word is read as what it stands for. -/
theorem reads_word {cs : List Char} (h : isWord cs = true) : Reads (Token.ofWord (String.ofList cs)) cs := by
  cases cs with
  | nil => cases h
  | cons c cs =>
    rw [isWord, Bool.and_eq_true, List.all_eq_true] at h
    obtain ⟨hstart, hall⟩ := h
    have hparts : ∀ d ∈ c :: cs, isWordPart d = true :=
      List.forall_mem_cons.2 ⟨isWordPart_of_isWordStart hstart, hall⟩
    refine ⟨c, cs, rfl, ?_, ?_⟩
    · exact not_isBlank_of_part (fun _ => not_isWordPart_of_isBlank) (hparts c List.mem_cons_self)
    · intro rest hrest
      have htake : (c :: (cs ++ rest)).takeWhile isWordPart = c :: cs :=
        takeWhile_of_breaks (fun _ => not_isWordPart_of_isBlank) hparts hrest
      rw [at?_word hstart, htake]
      rfl

/-- A plain name stands for itself. -/
theorem IsPlainName.ofWord {name : String} (h : IsPlainName name) : Token.ofWord name = .name name := by
  have hfree := h.free
  unfold Token.ofWord
  split
  case h_6 => rfl
  all_goals exact absurd (by decide) hfree

theorem doubleOperator?_eq_none {rest : List Char} (c : Char) (h : Breaks rest) :
    doubleOperator? (c :: rest) = none := by
  unfold doubleOperator?
  split
  case h_7 => rfl
  all_goals
    next heq =>
      cases heq
      cases h _ rfl

/-- A sign is read by itself unless an operator of two characters starts there. -/
theorem at?_ofChar {c : Char} {t : Token} {rest : List Char} (h : Token.ofChar? c = some t)
    (hdouble : doubleOperator? (c :: rest) = none) : Token.at? c rest = .ok (t, 1) := by
  unfold Token.ofChar? at h
  split at h
  case h_12 => cases h
  all_goals
    rw [Token.at?, not_startsNumber rfl, hdouble]
    cases h
    rfl

theorem reads_char {c : Char} {t : Token} (h : Token.ofChar? c = some t) : Reads t [c] := by
  refine ⟨c, [], rfl, ?_, fun rest hrest => at?_ofChar h (doubleOperator?_eq_none c hrest)⟩
  unfold Token.ofChar? at h
  split at h
  case h_12 => cases h
  all_goals rfl

theorem reads_operator (o : Operator) : Reads (.op o) o.symbol.toList := by
  cases o
  case lt | gt | plus | minus | star | slash | percent | not => exact reads_char rfl
  all_goals exact ⟨_, _, rfl, rfl, fun rest _ => rfl⟩

theorem Spelled.reads {t : Token} {word : List Char} (h : Spelled t word) : Reads t word := by
  cases h with
  | number n => exact reads_number n
  | string hquote h => exact reads_string hquote h
  | bool b => cases b <;> exact reads_word (by decide)
  | name h =>
    have hword := reads_word h.word
    rwa [String.ofList_toList, h.ofWord] at hword
  | quotedName h => exact reads_quotedName h
  | openParen | closeParen | comma => exact reads_char rfl
  | op o => exact reads_operator o
  | andWord | orWord | notWord => exact reads_word (by decide)

/-! ### Spaced texts -/

/-- Is the text made of spellings of the tokens, in order, with blanks between them? There may be blanks
in front of the first and behind the last one too. -/
inductive Spaced : List Token → List Char → Prop where
  | nil : Spaced [] []
  | blank {ts : List Token} {b : Char} {cs : List Char} (hb : isBlank b = true) (rest : Spaced ts cs) :
      Spaced ts (b :: cs)
  | token {t : Token} {ts : List Token} {word cs : List Char} (h : Spelled t word) (hbreak : Breaks cs)
      (rest : Spaced ts cs) : Spaced (t :: ts) (word ++ cs)

theorem tokensAfter_of_spaced {ts : List Token} {cs : List Char} (h : Spaced ts cs) (position : Nat) :
    ∃ placed, tokensAfter position 0 cs = .ok placed ∧ tokensOf placed = ts := by
  induction h generalizing position with
  | nil => exact ⟨[], rfl, rfl⟩
  | blank hb _ ih =>
    rw [tokensAfter_blank hb]
    exact ih (position + 1)
  | @token t ts word cs h hbreak _ ih =>
    obtain ⟨c, more, rfl, hblank, hat⟩ := h.reads
    obtain ⟨placed, hplaced, htokens⟩ := ih (position + 1 + more.length)
    refine ⟨⟨t, position⟩ :: placed, ?_, ?_⟩
    · apply tokensAfter_token hblank (hat cs hbreak)
      rw [tokensAfter_skip]
      exact hplaced
    · rw [tokensOf_cons rfl, htokens]

/-- **Spaced texts are split into their tokens.** -/
theorem tokenize_of_spaced {ts : List Token} {text : String} (h : Spaced ts text.toList) :
    ∃ placed, tokenize text = .ok placed ∧ tokensOf placed = ts :=
  tokensAfter_of_spaced h 0

/-! ### Tokens that have a text -/

/-- Does every token have a spelling? -/
def AllSpelled (ts : List Token) : Prop := ∀ t ∈ ts, ∃ word, Spelled t word

namespace AllSpelled

variable {ts ts' : List Token} {t : Token} {word : List Char}

theorem nil : AllSpelled [] := nofun

theorem cons (h : AllSpelled ts) (ht : Spelled t word) : AllSpelled (t :: ts) :=
  List.forall_mem_cons.2 ⟨⟨word, ht⟩, h⟩

theorem append (h : AllSpelled ts) (h' : AllSpelled ts') : AllSpelled (ts ++ ts') :=
  List.forall_mem_append.2 ⟨h, h'⟩

theorem snoc (h : AllSpelled ts) (ht : Spelled t word) : AllSpelled (ts ++ [t]) :=
  h.append (nil.cons ht)

theorem of_cons (h : AllSpelled (t :: ts)) : (∃ word, Spelled t word) ∧ AllSpelled ts :=
  List.forall_mem_cons.1 h

theorem of_append (h : AllSpelled (ts ++ ts')) : AllSpelled ts ∧ AllSpelled ts' :=
  List.forall_mem_append.1 h

end AllSpelled

/-- Tokens that can be spelled have a text. -/
theorem AllSpelled.exists_spaced {ts : List Token} (h : AllSpelled ts) :
    ∃ text : String, Spaced ts text.toList := by
  have hchars : ∃ cs, Breaks cs ∧ Spaced ts cs := by
    induction ts with
    | nil => exact ⟨[], breaks_nil, .nil⟩
    | cons t ts ih =>
      obtain ⟨⟨word, hword⟩, hts⟩ := h.of_cons
      obtain ⟨cs, hbreak, hcs⟩ := ih hts
      exact ⟨' ' :: (word ++ cs), breaks_cons rfl _, .blank rfl (.token hword hbreak hcs)⟩
  obtain ⟨cs, -, hcs⟩ := hchars
  exact ⟨String.ofList cs, by rwa [String.toList_ofList]⟩

/-- The tokens of a text can be spelled. -/
theorem Spaced.allSpelled {ts : List Token} {cs : List Char} (h : Spaced ts cs) : AllSpelled ts := by
  induction h with
  | nil => exact AllSpelled.nil
  | blank _ _ ih => exact ih
  | token h _ _ ih => exact ih.cons h

end Databook.Formula
