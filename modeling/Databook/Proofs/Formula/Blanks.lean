import Databook.Proofs.Formula.Spans

/-!
# Blanks between tokens

A blank ends whatever stands in front of it and goes on nothing. So the tokens of two texts with a blank
between them are the tokens of the first and, moved by its length and the blank, those of the second
(`tokenize_across_blank`); and a formula stays the same when blanks are added between its tokens, in front of
them or behind them (`Loosened`).
-/

namespace Databook.Formula

open Text

/-! ### Texts further behind -/

/-- The token with some more characters in front of it. -/
def Placed.shift (n : Nat) (t : Placed) : Placed := { t with position := t.position + n }

/-- The tokens of a text, or its error, with some more characters in front of it. -/
def shiftTokens (n : Nat) : Except (LexError × Nat) (List Placed) → Except (LexError × Nat) (List Placed)
  | .ok ts => .ok (ts.map (Placed.shift n))
  | .error (e, p) => .error (e, p + n)

/-- What is read does not depend on how far behind it is read. -/
theorem tokensAfter_add (n position skip : Nat) (cs : List Char) :
    tokensAfter (position + n) skip cs = shiftTokens n (tokensAfter position skip cs) := by
  fun_induction tokensAfter position skip cs with
  | case1 position skip => rfl
  | case2 position skip c cs ih =>
    rw [tokensAfter, Nat.add_right_comm]
    exact ih
  | case3 position c cs hc ih =>
    rw [tokensAfter_blank hc, Nat.add_right_comm]
    exact ih
  | case4 position c cs hc e he => exact tokensAfter_stuck (Bool.not_eq_true _ ▸ hc) he
  | case5 position c cs hc t size ht ih =>
    rw [tokensAfter, if_neg hc, ht, Nat.add_right_comm]
    simp only [ih]
    cases tokensAfter (position + 1) (size - 1) cs <;> rfl

/-! ### Two texts with a blank between them -/

theorem replaces_blank {w : Char} (hw : isBlank w = true) (cs rest : List Char) :
    Replaces cs (cs ++ w :: rest) := by
  cases cs with
  | nil => exact .inl (breaks_cons hw rest)
  | cons c cs => exact .inr rfl

/-- Behind a text that is split and a blank, the tokens go on as if they were read there. -/
theorem Split.tokensAfter_append {position : Nat} {cs : List Char} {xs : List Lexeme}
    (h : Split position cs xs) {w : Char} (hw : isBlank w = true) (rest : List Char) :
    tokensAfter position 0 (cs ++ w :: rest) =
      (tokensAfter (position + (cs.length + 1)) 0 rest).map (xs.map Lexeme.placed ++ ·) := by
  induction h with
  | nil position =>
    rw [List.nil_append, tokensAfter_blank hw]
    cases tokensAfter (position + 1) 0 rest <;> rfl
  | @blank position b cs xs hb _ ih =>
    rw [List.cons_append, tokensAfter_blank hb, ih, List.length_cons, Nat.add_assoc, Nat.add_comm 1]
  | @token position c more cs t xs hc ht _ ih =>
    have hlength : position + (more.length + 1) + (cs.length + 1) =
        position + ((c :: (more ++ cs)).length + 1) := by
      rw [List.length_cons, List.length_append]
      omega
    rw [List.cons_append, List.append_assoc,
      tokensAfter_word hc (at?_of_replaces ht (replaces_blank hw cs rest)), ih, hlength]
    cases tokensAfter (position + ((c :: (more ++ cs)).length + 1)) 0 rest <;> rfl

/-! ### More blanks -/

/-- The second text is the first one with blanks added between tokens, in front of them or behind them. -/
inductive Loosened : List Char → List Char → Prop where
  | nil : Loosened [] []
  | add {b : Char} {cs cs' : List Char} (hb : isBlank b = true) (rest : Loosened cs cs') :
      Loosened cs (b :: cs')
  | blank {b : Char} {cs cs' : List Char} (hb : isBlank b = true) (rest : Loosened cs cs') :
      Loosened (b :: cs) (b :: cs')
  | token {c : Char} {more cs cs' : List Char} {t : Token} (hc : isBlank c = false)
      (ht : Token.at? c (more ++ cs) = .ok (t, more.length + 1)) (rest : Loosened cs cs') :
      Loosened (c :: (more ++ cs)) (c :: (more ++ cs'))

theorem Loosened.replaces {cs cs' : List Char} (h : Loosened cs cs') : Replaces cs cs' := by
  cases h with
  | nil => exact .refl []
  | add hb rest => exact .inl (breaks_cons hb _)
  | blank hb rest => exact .inl (breaks_cons hb _)
  | token => exact .inr rfl

/-- The tokens stay the same. -/
theorem Loosened.exists_split {cs cs' : List Char} (h : Loosened cs cs') (position position' : Nat) :
    ∃ xs xs', Split position cs xs ∧ Split position' cs' xs' ∧
      xs.map Lexeme.token = xs'.map Lexeme.token := by
  induction h generalizing position position' with
  | nil => exact ⟨[], [], .nil _, .nil _, rfl⟩
  | add hb _ ih =>
    obtain ⟨xs, xs', h, h', htokens⟩ := ih position (position' + 1)
    exact ⟨xs, xs', h, .blank hb h', htokens⟩
  | blank hb _ ih =>
    obtain ⟨xs, xs', h, h', htokens⟩ := ih (position + 1) (position' + 1)
    exact ⟨xs, xs', .blank hb h, .blank hb h', htokens⟩
  | @token c more cs cs' t hc ht rest ih =>
    obtain ⟨xs, xs', h, h', htokens⟩ := ih (position + (more.length + 1)) (position' + (more.length + 1))
    exact ⟨_, _, .token hc ht h, .token hc (at?_of_replaces ht rest.replaces) h', congrArg (t :: ·) htokens⟩

/-- Whether a text is a formula, and which one, is settled by its tokens. -/
theorem parse_ok_congr {text text' : String} {ts ts' : List Placed} (h : tokenize text = .ok ts)
    (h' : tokenize text' = .ok ts') (htokens : tokensOf ts = tokensOf ts') (e : Expr) :
    parse text = .ok e ↔ parse text' = .ok e := by
  have hparse : ∀ {text : String} {ts : List Placed}, tokenize text = .ok ts →
      (parse text = .ok e ↔ ∃ t : Tree 0, t.tokens = tokensOf ts ∧ t.nesting ≤ 255 ∧ t.expr = e) := by
    intro text ts h
    rw [parse_ok_iff, h]
    simp only [Except.ok.injEq, exists_eq_left', parseTokens_ok_iff_derived]
  rw [hparse h, hparse h', htokens]

/-- **Splitting goes on behind a blank as if nothing had been in front of it.** The tokens of two texts with a
blank between them are those of the first, followed by those of the second moved by the length of the first
and the blank; if the second text fails, its error is moved in the same way. So adding blanks between the
tokens of a text, in front of them or behind them, changes neither whether it is a formula nor which one. -/
theorem tokenize_across_blank (a b : String) {w : Char} {ts : List Placed} (ha : tokenize a = .ok ts)
    (hw : isBlank w = true) :
    (tokenize (a ++ String.singleton w ++ b) =
      match tokenize b with
      | .ok ts' => .ok (ts ++ ts'.map (Placed.shift (a.length + 1)))
      | .error (e, p) => .error (e, p + (a.length + 1))) ∧
      ∀ loose : String, Loosened a.toList loose.toList → ∀ e, parse loose = .ok e ↔ parse a = .ok e := by
  constructor
  · obtain ⟨xs, hsplit, rfl⟩ := tokensAfter_ok_iff.1 ha
    have happend := hsplit.tokensAfter_append hw b.toList
    rw [tokensAfter_add] at happend
    rw [tokenize, String.toList_append, String.toList_append, String.toList_singleton,
      List.append_assoc, List.singleton_append, happend, String.length_toList, tokenize]
    cases tokensAfter 0 0 b.toList <;> rfl
  · intro loose hloose e
    obtain ⟨xs, xs', hsplit, hsplit', htokens⟩ := hloose.exists_split 0 0
    have htokensOf : tokensOf (xs'.map Lexeme.placed) = tokensOf (xs.map Lexeme.placed) := by
      unfold tokensOf
      rw [List.map_map, List.map_map]
      exact htokens.symm
    exact parse_ok_congr hsplit'.tokensAfter_eq hsplit.tokensAfter_eq htokensOf e

/-- A string without an end behind the formula `x<y` and a tab, and the same formula with blanks in it. -/
theorem tokenize_across_blank_less :
    (tokenize "x<y" = .ok [⟨.name "x", 0⟩, ⟨.op .lt, 1⟩, ⟨.name "y", 2⟩] ∧ isBlank '\t' = true ∧
        Loosened "x<y".toList " x < y".toList) ∧
      tokenize "x<y\t+'" = .error (.unterminatedString, 5) ∧
      ∀ e, parse " x < y" = .ok e ↔ parse "x<y" = .ok e := by
  have ha : tokenize "x<y" = .ok [⟨.name "x", 0⟩, ⟨.op .lt, 1⟩, ⟨.name "y", 2⟩] := rfl
  have hb : tokenize "+'" = .error (.unterminatedString, 1) := rfl
  have hloose : Loosened "x<y".toList " x < y".toList :=
    .add rfl (@Loosened.token 'x' [] _ _ _ rfl rfl (.add rfl (@Loosened.token '<' [] _ _ _ rfl rfl
      (.add rfl (@Loosened.token 'y' [] _ _ _ rfl rfl .nil)))))
  obtain ⟨htokens, hparse⟩ := tokenize_across_blank "x<y" "+'" ha (w := '\t') rfl
  rw [hb] at htokens
  exact ⟨⟨ha, rfl, hloose⟩, htokens, hparse _ hloose⟩

end Databook.Formula
