import Databook.Proofs.Formula.Spelling

/-!
# Where tokens stand

Splitting a text into tokens loses nothing. Each token takes up a span of the text; the spans stand in order
and apart from each other, outside of them there are only blanks, and the characters of a span are read as
its token when nothing else is there. If no token can be read somewhere, the text in front of that place is
split all the same, and the text from there on fails for the same reason (`tokenize_spans`).

Both rest on what a token depends on: its own characters and at most the one behind them
(`readLocally_of_at?`). So it is read in the same way whatever stands behind it, as long as that cannot go on
with it (`Replaces`).

`Split` is the relation between a text and its tokens with their spans. `tokensAfter_cases` says that every
text is either split or stuck at a place up to which it is split; what else is said about spans follows by
induction on `Split`.
-/

namespace Databook.Formula

open Text

/-! ### What a token depends on -/

/-- Can the second text stand behind a word in place of the first? It ends or goes on with a blank, or it
starts with the same character. -/
def Replaces (rest rest' : List Char) : Prop := Breaks rest' ∨ rest'.head? = rest.head?

section Local

variable {c : Char} {cs rest rest' : List Char} {p : Char → Bool}

theorem Replaces.not_head (h : Replaces rest rest') (hp : ∀ b, isBlank b = true → p b = false)
    (hrest : ∀ d ∈ rest.head?, p d = false) : ∀ d ∈ rest'.head?, p d = false := by
  intro d hd
  rcases h with h | h
  · exact hp d (h d hd)
  · exact hrest d (h ▸ hd)

theorem not_head?_dropWhile (p : Char → Bool) (cs : List Char) :
    ∀ d ∈ (cs.dropWhile p).head?, p d = false := by
  intro d hd
  have hstop := List.head?_dropWhile_not p cs
  rw [hd] at hstop
  exact hstop

/-- A run of characters among which there is no blank ends at the same place. -/
theorem exists_run (hp : ∀ b, isBlank b = true → p b = false) (hc : p c = true) (cs : List Char) :
    ∃ more rest, cs = more ++ rest ∧
      ∀ rest', Replaces rest rest' → (c :: (more ++ rest')).takeWhile p = c :: more := by
  have hmore : ∀ d ∈ cs.takeWhile p, p d = true := List.all_eq_true.1 List.all_takeWhile
  refine ⟨cs.takeWhile p, cs.dropWhile p, List.takeWhile_append_dropWhile.symm, fun rest' h => ?_⟩
  rw [List.takeWhile_cons_of_pos hc,
    takeWhile_append_of_head hmore (h.not_head hp (not_head?_dropWhile p cs))]

theorem Replaces.refl (rest : List Char) : Replaces rest rest := .inr rfl

theorem startsNumber_iff :
    startsNumber (c :: cs) = true ↔ c.isDigit = true ∨ c = '.' ∧ ∃ d ∈ cs.head?, d.isDigit = true := by
  constructor
  · intro h
    unfold startsNumber at h
    split at h
    · next d cs heq =>
      cases heq
      exact .inr ⟨rfl, d, rfl, h⟩
    · next heq =>
      cases heq
      exact .inl h
    · cases h
  · rintro (h | ⟨rfl, d, hd, h⟩)
    · exact startsNumber_of_isDigit h cs
    · obtain ⟨tail, rfl⟩ := List.head?_eq_some_iff.1 hd
      exact h

theorem isNumberPart_of_startsNumber (h : startsNumber (c :: cs) = true) : isNumberPart c = true := by
  rcases startsNumber_iff.1 h with h | ⟨rfl, -⟩
  · rw [isNumberPart, h, Bool.true_or]
  · rfl

/-- Whether a number starts is settled by the characters that belong to it. -/
theorem startsNumber_of_run {more : List Char} (h : startsNumber (c :: (more ++ rest)) = true)
    (hrun : (c :: (more ++ rest)).takeWhile isNumberPart = c :: more) (rest' : List Char) :
    startsNumber (c :: (more ++ rest')) = true := by
  rcases startsNumber_iff.1 h with hc | ⟨rfl, d, hd, hdigit⟩
  · exact startsNumber_of_isDigit hc _
  · cases more with
    | cons d' more => exact startsNumber_iff.2 (.inr ⟨rfl, d, hd, hdigit⟩)
    | nil =>
      -- the digit behind the point is a part of the run
      obtain ⟨tail, rfl⟩ := List.head?_eq_some_iff.1 hd
      have hpart : isNumberPart d = true := by rw [isNumberPart, hdigit, Bool.true_or]
      rw [List.nil_append, List.takeWhile_cons_of_pos rfl, List.takeWhile_cons_of_pos hpart] at hrun
      cases hrun

/-- A string ends with its closing quote. -/
theorem exists_stringBody {quote : Char} {body : List Char} {size : Nat}
    (h : stringBody? quote cs = some (body, size)) :
    ∃ front rest, cs = front ++ rest ∧ size = front.length ∧
      ∀ rest', stringBody? quote (front ++ rest') = some (body, size) := by
  fun_induction stringBody? quote cs generalizing body size with
  | case1 => cases h
  | case2 e cs ih =>
    obtain ⟨⟨inner, innerSize⟩, hinner, heq⟩ := Option.bind_eq_some_iff.1 h
    cases heq
    obtain ⟨front, rest, rfl, rfl, hread⟩ := ih hinner
    refine ⟨'\\' :: e :: front, rest, rfl, rfl, fun rest' => ?_⟩
    rw [List.cons_append, List.cons_append, stringBody?, hread]
    rfl
  | case3 c cs hescape hslash => cases h
  | case4 c cs hescape hslash hquote =>
    cases h
    refine ⟨[c], cs, rfl, rfl, fun rest' => ?_⟩
    rw [List.singleton_append, stringBody?_of_ne (by simpa using hslash), if_pos hquote]
  | case5 c cs hescape hslash hquote ih =>
    obtain ⟨⟨inner, innerSize⟩, hinner, heq⟩ := Option.bind_eq_some_iff.1 h
    cases heq
    obtain ⟨front, rest, rfl, rfl, hread⟩ := ih hinner
    refine ⟨c :: front, rest, rfl, rfl, fun rest' => ?_⟩
    rw [List.cons_append, stringBody?_of_ne (by simpa using hslash), if_neg hquote, hread]
    rfl

/-- A quoted name ends with its closing backtick. -/
theorem exists_backtick (h : (cs.takeWhile (· != '\x60')).length < cs.length) :
    ∃ rest, cs = cs.takeWhile (· != '\x60') ++ '\x60' :: rest ∧ '\x60' ∉ cs.takeWhile (· != '\x60') := by
  have hbody : '\x60' ∉ cs.takeWhile (· != '\x60') := fun hmem =>
    absurd (List.all_eq_true.1 List.all_takeWhile _ hmem) (by decide)
  cases hrest : cs.dropWhile (· != '\x60') with
  | nil =>
    have hall : cs.takeWhile (· != '\x60') ++ [] = cs := hrest ▸ List.takeWhile_append_dropWhile
    rw [List.append_nil] at hall
    exact absurd h (by rw [hall]; exact Nat.lt_irrefl _)
  | cons d rest =>
    have hd : (d != '\x60') = false := not_head?_dropWhile _ cs d (by rw [hrest]; rfl)
    obtain rfl : d = '\x60' := by simpa using hd
    exact ⟨rest, hrest ▸ List.takeWhile_append_dropWhile.symm, hbody⟩

theorem doubleOperator?_of_replaces (h : doubleOperator? (c :: rest) = none)
    (hrest : Replaces rest rest') : doubleOperator? (c :: rest') = none := by
  rcases hrest with hrest | hrest
  · exact doubleOperator?_eq_none c hrest
  · cases rest with
    | nil =>
      cases List.head?_eq_none_iff.1 hrest
      exact h
    | cons d rest =>
      obtain ⟨tail, rfl⟩ := List.head?_eq_some_iff.1 hrest
      unfold doubleOperator? at h ⊢
      grind

/-- Does the token take up at least one character, and is it read in the same way if something else stands
behind it that cannot go on with it? -/
def ReadLocally (c : Char) (cs : List Char) (t : Token) (size : Nat) : Prop :=
  ∃ more rest, cs = more ++ rest ∧ size = more.length + 1 ∧
    ∀ rest', Replaces rest rest' → Token.at? c (more ++ rest') = .ok (t, size)

variable {t : Token} {size : Nat}

theorem readLocally_string (hquote : c = '"' ∨ c = '\x27') (h : Token.at? c cs = .ok (t, size)) :
    ReadLocally c cs t size := by
  rw [at?_quote hquote] at h
  split at h
  · next body size' hbody =>
    cases h
    obtain ⟨front, rest, rfl, rfl, hread⟩ := exists_stringBody hbody
    refine ⟨front, rest, rfl, rfl, fun rest' _ => ?_⟩
    rw [at?_quote hquote, hread]
  · cases h

theorem readLocally_word (hword : isWordStart c = true) (h : Token.at? c cs = .ok (t, size)) :
    ReadLocally c cs t size := by
  obtain ⟨more, rest, rfl, hrun⟩ :=
    exists_run (fun _ => not_isWordPart_of_isBlank) (isWordPart_of_isWordStart hword) cs
  rw [at?_word hword, hrun rest (.refl rest)] at h
  cases h
  refine ⟨more, rest, rfl, rfl, fun rest' hrest => ?_⟩
  rw [at?_word hword, hrun rest' hrest]

theorem readLocally_number (hnumber : startsNumber (c :: cs) = true) (h : Token.at? c cs = .ok (t, size)) :
    ReadLocally c cs t size := by
  obtain ⟨more, rest, rfl, hrun⟩ :=
    exists_run (fun b hb => not_isNumberPart (.inl hb)) (isNumberPart_of_startsNumber hnumber) cs
  have htake := hrun rest (.refl rest)
  rw [Token.at?, if_pos hnumber] at h
  simp only [htake] at h
  split at h
  · next x hx =>
    cases h
    refine ⟨more, rest, rfl, rfl, fun rest' hrest => ?_⟩
    rw [Token.at?, if_pos (startsNumber_of_run hnumber htake rest')]
    simp only [hrun rest' hrest, hx]
  · cases h

theorem readLocally_quotedName (h : Token.at? '\x60' cs = .ok (t, size)) : ReadLocally '\x60' cs t size := by
  rw [Token.at?, not_startsNumber (by decide), if_neg Bool.false_ne_true, if_neg (by decide),
    if_pos (by decide)] at h
  simp only at h
  split at h
  · next hclosed =>
    cases h
    obtain ⟨rest, hcs, hbody⟩ := exists_backtick hclosed
    refine ⟨cs.takeWhile (· != '\x60') ++ ['\x60'], rest, ?_, ?_, fun rest' _ => ?_⟩
    · rw [List.append_assoc]
      exact hcs
    · rw [List.length_append]
      rfl
    · rw [List.append_assoc]
      exact at?_backtick _ rest' hbody
  · cases h

theorem readLocally_operator {o : Operator} (h : doubleOperator? (c :: cs) = some o) :
    ReadLocally c cs (.op o) 2 := by
  unfold doubleOperator? at h
  split at h
  case h_7 => cases h
  all_goals
    next rest heq =>
    cases heq
    cases h
    exact ⟨[_], rest, rfl, rfl, fun rest' _ => rfl⟩

theorem readLocally_sign (hdouble : doubleOperator? (c :: cs) = none) (h : Token.ofChar? c = some t) :
    ReadLocally c cs t 1 :=
  ⟨[], cs, rfl, rfl, fun _ hrest => at?_ofChar h (doubleOperator?_of_replaces hdouble hrest)⟩

/-- **A token is read from its own characters and at most the one behind them.** -/
theorem readLocally_of_at? (h : Token.at? c cs = .ok (t, size)) : ReadLocally c cs t size := by
  by_cases hnumber : startsNumber (c :: cs) = true
  · exact readLocally_number hnumber h
  by_cases hquote : c = '"' ∨ c = '\x27'
  · exact readLocally_string hquote h
  by_cases hbacktick : c = '\x60'
  · subst hbacktick
    exact readLocally_quotedName h
  by_cases hword : isWordStart c = true
  · exact readLocally_word hword h
  rw [Token.at?, if_neg hnumber, if_neg (by simpa using hquote), if_neg (by simpa using hbacktick),
    if_neg hword] at h
  split at h
  · next o ho =>
    cases h
    exact readLocally_operator ho
  · next hdouble =>
    split at h
    · next t' ht =>
      cases h
      exact readLocally_sign hdouble ht
    · cases h

/-- What stands behind the characters of a token can be replaced. -/
theorem at?_of_replaces {more : List Char} (ht : Token.at? c (more ++ rest) = .ok (t, more.length + 1))
    (h : Replaces rest rest') : Token.at? c (more ++ rest') = .ok (t, more.length + 1) := by
  obtain ⟨more', tail, heq, hsize, hlocal⟩ := readLocally_of_at? ht
  obtain ⟨rfl, rfl⟩ := List.append_inj heq (Nat.succ.inj hsize)
  exact hlocal rest' h

end Local

/-! ### Texts that are split -/

/-- A token with the span of the text that it takes up. -/
structure Lexeme where
  token : Token
  start : Nat
  size : Nat

namespace Lexeme

def placed (x : Lexeme) : Placed := ⟨x.token, x.start⟩

/-- The place behind the span. -/
def stop (x : Lexeme) : Nat := x.start + x.size

/-- Does the span hold the place? -/
def Holds (x : Lexeme) (i : Nat) : Prop := x.start ≤ i ∧ i < x.stop

/-- The characters of the span. -/
def chars (x : Lexeme) (text : List Char) : List Char := (text.drop x.start).take x.size

end Lexeme

/-- The text, which has `position` characters in front of it, is split into tokens with their spans. -/
inductive Split : Nat → List Char → List Lexeme → Prop where
  | nil (position : Nat) : Split position [] []
  | blank {position : Nat} {b : Char} {cs : List Char} {xs : List Lexeme} (hb : isBlank b = true)
      (rest : Split (position + 1) cs xs) : Split position (b :: cs) xs
  | token {position : Nat} {c : Char} {more cs : List Char} {t : Token} {xs : List Lexeme}
      (hc : isBlank c = false) (ht : Token.at? c (more ++ cs) = .ok (t, more.length + 1))
      (rest : Split (position + (more.length + 1)) cs xs) :
      Split position (c :: (more ++ cs)) (⟨t, position, more.length + 1⟩ :: xs)

/-- A token is put in front of what is read behind it. -/
theorem tokensAfter_word {position : Nat} {c : Char} {more cs : List Char} {t : Token}
    (hc : isBlank c = false) (ht : Token.at? c (more ++ cs) = .ok (t, more.length + 1)) :
    tokensAfter position 0 (c :: (more ++ cs)) =
      (tokensAfter (position + (more.length + 1)) 0 cs).map (⟨t, position⟩ :: ·) := by
  have hrest : tokensAfter (position + 1) more.length (more ++ cs) =
      tokensAfter (position + (more.length + 1)) 0 cs := by
    rw [tokensAfter_skip, Nat.add_assoc, Nat.add_comm 1]
  rw [tokensAfter, hc, if_neg Bool.false_ne_true, ht]
  simp only [Nat.add_sub_cancel, hrest]
  cases tokensAfter (position + (more.length + 1)) 0 cs <;> rfl

theorem tokensAfter_stuck {position : Nat} {c : Char} {cs : List Char} {e : LexError}
    (hc : isBlank c = false) (he : Token.at? c cs = .error e) :
    tokensAfter position 0 (c :: cs) = .error (e, position) := by
  rw [tokensAfter, hc, if_neg Bool.false_ne_true, he]

theorem Split.tokensAfter_eq {position : Nat} {cs : List Char} {xs : List Lexeme}
    (h : Split position cs xs) : tokensAfter position 0 cs = .ok (xs.map Lexeme.placed) := by
  induction h with
  | nil position => rfl
  | blank hb _ ih => rw [tokensAfter_blank hb, ih]
  | token hc ht _ ih =>
    rw [tokensAfter_word hc ht, ih]
    rfl

/-- No token can be read at the character `c`, up to which the text is split. -/
structure StuckAt (position : Nat) (cs front : List Char) (c : Char) (rest : List Char) (e : LexError) :
    Prop where
  eq : cs = front ++ c :: rest
  notBlank : isBlank c = false
  unread : Token.at? c rest = .error e
  split : ∃ xs, Split position front xs

/-- What may stand behind a word is settled by the first character. -/
theorem replaces_append (front : List Char) (c : Char) (rest : List Char) :
    Replaces (front ++ c :: rest) front := by
  cases front with
  | nil => exact .inl breaks_nil
  | cons d front => exact .inr rfl

/-- Every text is split, or stuck at a character up to which it is split. -/
theorem tokensAfter_cases (position : Nat) (cs : List Char) :
    (∃ xs, Split position cs xs) ∨
      ∃ front c rest e, StuckAt position cs front c rest e ∧
        tokensAfter position 0 cs = .error (e, position + front.length) := by
  match cs with
  | [] => exact .inl ⟨[], .nil position⟩
  | c :: cs =>
    by_cases hc : isBlank c = true
    · rcases tokensAfter_cases (position + 1) cs with ⟨xs, h⟩ | ⟨front, d, rest, e, h, herror⟩
      · exact .inl ⟨xs, .blank hc h⟩
      · obtain ⟨xs, hfront⟩ := h.split
        refine .inr ⟨c :: front, d, rest, e, ⟨congrArg (c :: ·) h.eq, h.notBlank, h.unread, xs,
          .blank hc hfront⟩, ?_⟩
        rw [tokensAfter_blank hc, herror, List.length_cons, Nat.add_assoc, Nat.add_comm 1]
    · have hc : isBlank c = false := Bool.not_eq_true _ ▸ hc
      cases hat : Token.at? c cs with
      | error e =>
        exact .inr ⟨[], c, cs, e, ⟨rfl, hc, hat, [], .nil position⟩, tokensAfter_stuck hc hat⟩
      | ok result =>
        obtain ⟨t, size⟩ := result
        obtain ⟨more, tail, hcs, rfl, hlocal⟩ := readLocally_of_at? hat
        have htail : tail.length ≤ cs.length := by rw [hcs, List.length_append]; omega
        rw [hcs] at hat ⊢
        rcases tokensAfter_cases (position + (more.length + 1)) tail with
          ⟨xs, h⟩ | ⟨front, d, rest, e, h, herror⟩
        · exact .inl ⟨_, .token hc hat h⟩
        · obtain ⟨xs, hfront⟩ := h.split
          have hcut : Token.at? c (more ++ front) = .ok (t, more.length + 1) :=
            hlocal front (h.eq ▸ replaces_append front d rest)
          refine .inr ⟨c :: (more ++ front), d, rest, e, ⟨?_, h.notBlank, h.unread, _,
            .token hc hcut hfront⟩, ?_⟩
          · rw [h.eq, List.cons_append, List.append_assoc]
          · have hplace : position + (more.length + 1) + front.length =
                position + (c :: (more ++ front)).length := by
              rw [List.length_cons, List.length_append]
              omega
            rw [tokensAfter_word hc hat, herror, hplace]
            rfl
termination_by cs.length
decreasing_by
  · exact Nat.lt_succ_self _
  · exact Nat.lt_succ_of_le htail

theorem tokensAfter_ok_iff {position : Nat} {cs : List Char} {ts : List Placed} :
    tokensAfter position 0 cs = .ok ts ↔ ∃ xs, Split position cs xs ∧ xs.map Lexeme.placed = ts := by
  constructor
  · intro h
    rcases tokensAfter_cases position cs with ⟨xs, hsplit⟩ | ⟨front, c, rest, e, -, herror⟩
    · rw [hsplit.tokensAfter_eq] at h
      exact ⟨xs, hsplit, Except.ok.inj h⟩
    · rw [herror] at h
      cases h
  · rintro ⟨xs, hsplit, rfl⟩
    exact hsplit.tokensAfter_eq

/-! ### Spans -/

/-- The word of a token is the whole text of a formula. -/
theorem Reads.tokenize {t : Token} {word : List Char} (h : Reads t word) :
    tokenize (String.ofList word) = .ok [⟨t, 0⟩] := by
  obtain ⟨c, cs, rfl, hc, hread⟩ := h
  have hat : Token.at? c (cs ++ []) = .ok (t, cs.length + 1) := hread [] breaks_nil
  have hsplit : Split 0 (c :: (cs ++ [])) [⟨t, 0, cs.length + 1⟩] := .token hc hat (.nil _)
  rw [List.append_nil] at hsplit
  rw [Formula.tokenize, String.toList_ofList]
  exact hsplit.tokensAfter_eq

namespace Split

variable {position : Nat} {cs : List Char} {xs : List Lexeme}

/-- Spans are not empty and lie within the text. -/
theorem bounds (h : Split position cs xs) :
    ∀ x ∈ xs, position ≤ x.start ∧ x.start < x.stop ∧ x.stop ≤ position + cs.length := by
  induction h with
  | nil position => nofun
  | blank _ _ ih =>
    intro x hx
    obtain ⟨hstart, hlt, hstop⟩ := ih x hx
    rw [List.length_cons]
    omega
  | token _ _ _ ih =>
    refine List.forall_mem_cons.2 ⟨?_, fun x hx => ?_⟩
    · simp only [Lexeme.stop, List.length_cons, List.length_append]
      omega
    · obtain ⟨hstart, hlt, hstop⟩ := ih x hx
      rw [List.length_cons, List.length_append]
      omega

/-- A span ends before the next one starts. -/
theorem apart (h : Split position cs xs) : xs.Pairwise fun x y => x.stop ≤ y.start := by
  induction h with
  | nil position => exact .nil
  | blank _ _ ih => exact ih
  | token _ _ rest ih => exact .cons (fun y hy => (rest.bounds y hy).1) ih

/-- What lies in no span is blank. -/
theorem isBlank_of_outside (h : Split position cs xs) {i : Nat} {c : Char} (hi : cs[i]? = some c)
    (houtside : ∀ x ∈ xs, ¬ x.Holds (position + i)) : isBlank c = true := by
  induction h generalizing i with
  | nil position => cases hi
  | @blank position b cs xs hb _ ih =>
    cases i with
    | zero =>
      cases hi
      exact hb
    | succ i =>
      apply ih hi
      intro x hx hholds
      exact houtside x hx (by rwa [Nat.add_right_comm, Nat.add_assoc] at hholds)
  | @token position d more cs t xs _ _ _ ih =>
    obtain ⟨hfirst, hrest⟩ := List.forall_mem_cons.1 houtside
    -- the place lies behind the word
    have hi' : more.length + 1 ≤ i := by
      by_contra hlt
      exact hfirst ⟨Nat.le_add_right _ _, Nat.add_lt_add_left (Nat.not_le.1 hlt) _⟩
    obtain ⟨j, rfl⟩ := Nat.exists_eq_add_of_le hi'
    apply ih (i := j)
    · rwa [← List.cons_append, List.getElem?_append_right (by simp), List.length_cons,
        Nat.add_sub_cancel_left] at hi
    · intro x hx hholds
      exact hrest x hx (by rwa [Nat.add_assoc] at hholds)

/-- The characters of a span are a word of its token. -/
theorem reads (h : Split position cs xs) (front : List Char) (hfront : front.length = position) :
    ∀ x ∈ xs, Reads x.token (x.chars (front ++ cs)) := by
  induction h generalizing front with
  | nil position => nofun
  | @blank position b cs xs _ _ ih =>
    intro x hx
    have hreads := ih (front ++ [b]) (by rw [List.length_append, hfront]; rfl) x hx
    rwa [List.append_assoc, List.singleton_append] at hreads
  | @token position c more cs t xs hc ht _ ih =>
    refine List.forall_mem_cons.2 ⟨?_, fun x hx => ?_⟩
    · have hword : Lexeme.chars ⟨t, position, more.length + 1⟩ (front ++ c :: (more ++ cs)) = c :: more := by
        rw [Lexeme.chars, List.drop_left' hfront, List.take_succ_cons, List.take_left]
      rw [hword]
      exact ⟨c, more, rfl, hc, fun rest hrest => at?_of_replaces ht (.inl hrest)⟩
    · have hreads := ih (front ++ c :: more)
        (by rw [List.length_append, hfront, List.length_cons]) x hx
      rwa [List.append_assoc, List.cons_append] at hreads

end Split

/-- The spans of a text: they are not empty, stand in order and apart from each other, there are only blanks
outside of them, and each is read as its token when it stands alone. -/
structure ProperSpans (text : List Char) (xs : List Lexeme) : Prop where
  inside : ∀ x ∈ xs, x.start < x.stop ∧ x.stop ≤ text.length
  apart : xs.Pairwise fun x y => x.stop ≤ y.start
  blank : ∀ i c, text[i]? = some c → (∀ x ∈ xs, ¬ x.Holds i) → isBlank c = true
  alone : ∀ x ∈ xs, tokenize (String.ofList (x.chars text)) = .ok [⟨x.token, 0⟩]

theorem Split.properSpans {text : List Char} {xs : List Lexeme} (h : Split 0 text xs) :
    ProperSpans text xs where
  inside x hx := by
    obtain ⟨-, hlt, hstop⟩ := h.bounds x hx
    exact ⟨hlt, by rwa [Nat.zero_add] at hstop⟩
  apart := h.apart
  blank i c hi houtside := h.isBlank_of_outside hi (by rwa [Nat.zero_add])
  alone x hx := (h.reads [] rfl x hx).tokenize

theorem ProperSpans.increasing {text : List Char} {xs : List Lexeme} (h : ProperSpans text xs) :
    ((xs.map Lexeme.placed).map (·.position)).Pairwise (· < ·) := by
  rw [List.map_map, List.pairwise_map]
  exact h.apart.imp_of_mem fun hx _ hle => Nat.lt_of_lt_of_le (h.inside _ hx).1 hle

/-- **Splitting a text loses nothing and reports true places.** If a text is split into tokens, they stand at
increasing positions, and there are spans for them, apart from each other, outside of which all is blank and
each of which is read as its token, at the position 0, when it stands alone. If it is not, the error is
reported at a character of the text that is no blank, the characters in front of it are split, and the text
from there on fails for the same reason at the position 0. -/
theorem tokenize_spans (input : String) :
    match tokenize input with
    | .ok ts => (ts.map (·.position)).Pairwise (· < ·) ∧
        ∃ xs, xs.map Lexeme.placed = ts ∧ ProperSpans input.toList xs
    | .error (e, p) => (∃ c, input.toList[p]? = some c ∧ isBlank c = false) ∧
        (∃ ts, tokenize (String.ofList (input.toList.take p)) = .ok ts) ∧
        tokenize (String.ofList (input.toList.drop p)) = .error (e, 0) := by
  rcases tokensAfter_cases 0 input.toList with ⟨xs, h⟩ | ⟨front, c, rest, e, h, herror⟩
  · rw [tokenize, h.tokensAfter_eq]
    exact ⟨h.properSpans.increasing, xs, rfl, h.properSpans⟩
  · obtain ⟨xs, hfront⟩ := h.split
    rw [tokenize, herror, Nat.zero_add, h.eq]
    simp only [List.take_left, List.drop_left, tokenize, String.toList_ofList]
    refine ⟨⟨c, ?_, h.notBlank⟩, ⟨_, hfront.tokensAfter_eq⟩, tokensAfter_stuck h.notBlank h.unread⟩
    rw [List.getElem?_append_right (Nat.le_refl _), Nat.sub_self]
    rfl

end Databook.Formula
