import Databook.Proofs.Formula.Grammar

/-!
# The parser reads the grammar

The parser accepts a text exactly if its tokens are derived by the grammar and no primary stands
inside of more than 255 unary operators, parentheses and calls; it gives the formula of the derivation,
of which there is only one (`parse_ok_iff_derived`).

`Yields` says what a part of the parser reads and what it leaves. The lemmas of the first section give,
for each part, when it yields something. **Soundness** (`parseLevel_sound`) follows the recursion of
the parser and puts a derivation together from those of the parts. **Completeness** (`Tree.read`)
is by induction on the derivation: what is derived at a level is read as a left operand, after which
the parser goes on with the chain of that level.
-/

namespace Databook.Formula

/-! ### What the parts of the parser yield -/

/-- A part of the parser reads something and leaves some tokens. -/
def Yields {ε α : Type} {P : List Placed → Prop} (r : Except ε (α × { rest : List Placed // P rest }))
    (a : α) (rest : List Placed) : Prop :=
  ∃ h : P rest, r = .ok (a, ⟨rest, h⟩)

section Parts

variable {stop depth level : Nat} {t : Placed} {ts rest : List Placed} {e left : Expr} {args : List Expr}

/-- The tokens of a list of placed ones. -/
def tokensOf (ts : List Placed) : List Token := ts.map (·.token)

theorem tokensOf_cons {token : Token} (h : t.token = token) (ts : List Placed) :
    tokensOf (t :: ts) = token :: tokensOf ts := by
  rw [tokensOf, List.map_cons, h, tokensOf]

theorem Token.beq_openParen {t : Token} : (t == .openParen) = true ↔ t = .openParen := by
  cases t <;> simp <;> rfl

theorem Token.beq_closeParen {t : Token} : (t == .closeParen) = true ↔ t = .closeParen := by
  cases t <;> simp <;> rfl

theorem Token.beq_comma {t : Token} : (t == .comma) = true ↔ t = .comma := by
  cases t <;> simp <;> rfl

theorem ofOperator?_eq_some_iff {op : BinaryOp} {o : Operator} :
    BinaryOp.ofOperator? level o = some op ↔ op.level = level ∧ op.operator = o := by
  constructor
  · intro h
    unfold BinaryOp.ofOperator? at h
    split at h <;> cases h <;> exact ⟨rfl, rfl⟩
  · rintro ⟨rfl, rfl⟩
    cases op <;> rfl

theorem ofToken?_eq_some_iff {op : UnaryOp} {token : Token} :
    UnaryOp.ofToken? token = some op ↔ token = .op op.operator := by
  constructor
  · intro h
    unfold UnaryOp.ofToken? at h
    split at h <;> cases h <;> rfl
  · rintro rfl
    cases op <;> rfl

/-- A binary level is an operand of the next level and a chain of operators. -/
theorem yields_parseLevel (hl : level < unaryLevel) :
    Yields (parseLevel stop depth level ts) e rest ↔
      ∃ left middle, Yields (parseLevel stop depth (level + 1) ts) left middle ∧
        Yields (parseChain stop depth level left middle) e rest := by
  rw [parseLevel, if_pos hl]
  constructor
  · rintro ⟨h, heq⟩
    split at heq
    · cases heq
    · next left middle hmiddle hleft =>
      split at heq
      · cases heq
      · next e' rest' hrest' hchain =>
        cases heq
        exact ⟨left, middle, ⟨hmiddle, hleft⟩, hrest', hchain⟩
  · rintro ⟨left, middle, ⟨hmiddle, hleft⟩, hrest, hchain⟩
    refine ⟨Nat.lt_of_le_of_lt hrest hmiddle, ?_⟩
    rw [hleft]
    simp only
    rw [hchain]

theorem yields_parseLevel_of_le (hl : unaryLevel ≤ level) :
    Yields (parseLevel stop depth level ts) e rest ↔ Yields (parseUnary stop depth ts) e rest := by
  rw [parseLevel, if_neg (Nat.not_lt.2 hl)]

/-- Where no operator of the level comes, the chain ends. -/
theorem yields_parseChain_of_none (h : chainOperator? level ts = none) :
    Yields (parseChain stop depth level left ts) e rest ↔ e = left ∧ rest = ts := by
  have hchain : parseChain stop depth level left ts = .ok (left, ⟨ts, Nat.le_refl _⟩) := by
    cases ts with
    | nil => rw [parseChain]
    | cons t ts =>
      rw [parseChain]
      split
      · rfl
      · next hop =>
        rw [h] at hop
        cases hop
  rw [hchain]
  constructor
  · rintro ⟨h, heq⟩
    cases heq
    exact ⟨rfl, rfl⟩
  · rintro ⟨rfl, rfl⟩
    exact ⟨Nat.le_refl _, rfl⟩

/-- Behind an operator of the level comes its right operand, and then the rest of the chain. -/
theorem yields_parseChain_of_operator {op : BinaryOp} (hop : op.level = level)
    (ht : t.token = .op op.operator) :
    Yields (parseChain stop depth level left (t :: ts)) e rest ↔
      ∃ right middle, Yields (parseLevel stop depth (level + 1) ts) right middle ∧
        Yields (parseChain stop depth level (.binary op left right) middle) e rest := by
  obtain ⟨token, position⟩ := t
  cases ht
  have hoperator : chainOperator? level (⟨.op op.operator, position⟩ :: ts) = some op :=
    ofOperator?_eq_some_iff.2 ⟨hop, rfl⟩
  rw [parseChain]
  split
  · next hnone =>
    rw [hoperator] at hnone
    cases hnone
  · next op' hop' =>
    rw [hoperator] at hop'
    cases hop'
    constructor
    · rintro ⟨h, heq⟩
      split at heq
      · cases heq
      · next right middle hmiddle hright =>
        split at heq
        · cases heq
        · next e' rest' hrest' hchain =>
          cases heq
          exact ⟨right, middle, ⟨hmiddle, hright⟩, hrest', hchain⟩
    · rintro ⟨right, middle, ⟨hmiddle, hright⟩, hrest, hchain⟩
      refine ⟨Nat.le_trans hrest (Nat.le_succ_of_le (Nat.le_of_lt hmiddle)), ?_⟩
      rw [hright]
      simp only
      rw [hchain]

/-- Operators of a level are found where the tokens start with one. -/
theorem chainOperator?_cases (level : Nat) (ts : List Placed) :
    chainOperator? level ts = none ∨
      ∃ op : BinaryOp, op.level = level ∧ ∃ t rest, ts = t :: rest ∧ t.token = .op op.operator := by
  cases hop : chainOperator? level ts with
  | none => exact .inl rfl
  | some op =>
    unfold chainOperator? at hop
    split at hop
    · next o position rest =>
      obtain ⟨hlevel, hoperator⟩ := ofOperator?_eq_some_iff.1 hop
      exact .inr ⟨op, hlevel, ⟨.op o, position⟩, rest, rfl, congrArg Token.op hoperator.symm⟩
    · cases hop

/-- A unary formula is an operator and a unary formula, or a primary. It is not read at the depth at
which nesting ends. -/
theorem yields_parseUnary :
    Yields (parseUnary stop depth ts) e rest ↔
      depth < maxDepth ∧ ∃ t tail, ts = t :: tail ∧
        ((∃ op operand, t.token = .op (UnaryOp.operator op) ∧ e = .unary op operand ∧
            Yields (parseUnary stop (depth + 1) tail) operand rest) ∨
          UnaryOp.ofToken? t.token = none ∧ Yields (parsePrimary stop (depth + 1) t tail) e rest) := by
  rw [parseUnary.eq_def]
  split
  · next hdeep =>
    constructor
    · rintro ⟨_, heq⟩
      cases heq
    · rintro ⟨hdepth, -⟩
      exact absurd hdepth (Nat.not_lt.2 hdeep)
  · next hdepth =>
    have hdepth : depth < maxDepth := Nat.not_le.1 hdepth
    cases ts with
    | nil =>
      constructor
      · rintro ⟨_, heq⟩
        cases heq
      · rintro ⟨-, t, tail, hts, -⟩
        cases hts
    | cons t tail =>
      simp only
      split
      · next hnone =>
        constructor
        · intro h
          exact ⟨hdepth, t, tail, rfl, .inr ⟨hnone, h⟩⟩
        · rintro ⟨-, t', tail', hts, h⟩
          cases hts
          rcases h with ⟨op, operand, hop, -, -⟩ | ⟨-, h⟩
          · rw [ofToken?_eq_some_iff.2 hop] at hnone
            cases hnone
          · exact h
      · next op hop =>
        constructor
        · rintro ⟨_, heq⟩
          split at heq
          · cases heq
          · next operand rest' hrest' hoperand =>
            cases heq
            exact ⟨hdepth, t, tail, rfl,
              .inl ⟨op, operand, ofToken?_eq_some_iff.1 hop, rfl, hrest', hoperand⟩⟩
        · rintro ⟨-, t', tail', hts, h⟩
          cases hts
          rcases h with ⟨op', operand, hop', rfl, hrest, hoperand⟩ | ⟨hnone, -⟩
          · rw [ofToken?_eq_some_iff.2 hop'] at hop
            cases hop
            refine ⟨Nat.lt_succ_of_lt hrest, ?_⟩
            rw [hoperand]
          · rw [hop] at hnone
            cases hnone

theorem after?_cases {token : Token} (hbeq : ∀ t : Token, (t == token) = true ↔ t = token)
    (ts : List Placed) :
    (after? token ts = none ∧ (tokensOf ts).head? ≠ some token) ∨
      ∃ t rest h, ts = t :: rest ∧ t.token = token ∧ after? token ts = some ⟨rest, h⟩ := by
  cases ts with
  | nil => exact .inl ⟨rfl, nofun⟩
  | cons t rest =>
    by_cases ht : t.token = token
    · refine .inr ⟨t, rest, Nat.lt_succ_self _, rfl, ht, ?_⟩
      rw [after?, if_pos ((hbeq t.token).2 ht)]
    · refine .inl ⟨?_, fun h => ht (Option.some.inj h)⟩
      rw [after?, if_neg fun h => ht ((hbeq t.token).1 h)]

theorem readClose_ok (ht : t.token = .closeParen) :
    readClose stop (t :: ts) = .ok ⟨ts, Nat.lt_succ_self _⟩ := by
  rw [readClose, if_pos (Token.beq_closeParen.2 ht)]

theorem eq_cons_of_readClose {h : rest.length < ts.length} (hread : readClose stop ts = .ok ⟨rest, h⟩) :
    ∃ closing, ts = closing :: rest ∧ closing.token = .closeParen := by
  unfold readClose at hread
  split at hread
  · cases hread
  · next t ts =>
    split at hread
    · next hclose =>
      cases hread
      exact ⟨t, rfl, Token.beq_closeParen.1 hclose⟩
    · cases hread

theorem readArgumentEnd_comma (ht : t.token = .comma) :
    readArgumentEnd stop (t :: ts) = .ok (true, ⟨ts, Nat.lt_succ_self _⟩) := by
  rw [readArgumentEnd, if_pos (Token.beq_comma.2 ht)]

theorem readArgumentEnd_close (ht : t.token = .closeParen) :
    readArgumentEnd stop (t :: ts) = .ok (false, ⟨ts, Nat.lt_succ_self _⟩) := by
  have hcomma : ¬(t.token == .comma) = true := by
    rw [Token.beq_comma, ht]
    nofun
  rw [readArgumentEnd, if_neg hcomma, if_pos (Token.beq_closeParen.2 ht)]

theorem cases_of_readArgumentEnd {more : Bool} {h : rest.length < ts.length}
    (hread : readArgumentEnd stop ts = .ok (more, ⟨rest, h⟩)) :
    ∃ ending, ts = ending :: rest ∧
      ending.token = (match more with | true => .comma | false => .closeParen) := by
  cases ts with
  | nil => cases hread
  | cons t ts =>
    by_cases hcomma : t.token = .comma
    · rw [readArgumentEnd_comma hcomma] at hread
      cases hread
      exact ⟨t, rfl, hcomma⟩
    · by_cases hclose : t.token = .closeParen
      · rw [readArgumentEnd_close hclose] at hread
        cases hread
        exact ⟨t, rfl, hclose⟩
      · rw [readArgumentEnd, if_neg fun h => hcomma (Token.beq_comma.1 h),
          if_neg fun h => hclose (Token.beq_closeParen.1 h)] at hread
        cases hread

/-- Can the atom stand in front of the tokens? A column in front of a parenthesis would be a call. -/
def Atom.EndsBefore (a : Atom) (ts : List Placed) : Prop :=
  ∀ name, a = .column name → (tokensOf ts).head? ≠ some .openParen

/-- A primary is an atom, a call or a formula in parentheses. -/
theorem cases_of_parsePrimary (h : Yields (parsePrimary stop depth t ts) e rest) :
    (∃ a : Atom, t.token = a.token ∧ e = a.expr ∧ rest = ts ∧ a.EndsBefore ts) ∨
      (∃ function opening inside args, t.token = .name function ∧ ts = opening :: inside ∧
        opening.token = .openParen ∧ e = .call function args ∧
        Yields (parseArgs stop depth inside) args rest) ∨
      (t.token = .openParen ∧ ∃ closing, closing.token = .closeParen ∧
        Yields (parseLevel stop depth 0 ts) e (closing :: rest)) := by
  obtain ⟨hrest, heq⟩ := h
  rw [parsePrimary.eq_def] at heq
  split at heq
  · next x hx =>
    cases heq
    exact .inl ⟨.number x, hx, rfl, rfl, fun _ h => by cases h⟩
  · next s hs =>
    cases heq
    exact .inl ⟨.string s, hs, rfl, rfl, fun _ h => by cases h⟩
  · next b hb =>
    cases heq
    exact .inl ⟨.bool b, hb, rfl, rfl, fun _ h => by cases h⟩
  · next name hname =>
    cases heq
    exact .inl ⟨.quotedColumn name, hname, rfl, rfl, fun _ h => by cases h⟩
  · next name hname =>
    -- a name is a column unless a parenthesis follows
    rcases after?_cases (fun _ => Token.beq_openParen) ts with ⟨hnone, hhead⟩ | ⟨opening, inside, hinside, rfl, hopen, hsome⟩
    · rw [hnone] at heq
      cases heq
      exact .inl ⟨.column name, hname, rfl, rfl, fun _ _ => hhead⟩
    · rw [hsome] at heq
      simp only at heq
      split at heq
      · cases heq
      · next args rest' hrest' hargs =>
        cases heq
        exact .inr (.inl ⟨name, opening, inside, args, hname, rfl, hopen, rfl, hrest', hargs⟩)
  · next hopen =>
    split at heq
    · cases heq
    · next e' middle hmiddle hinner =>
      split at heq
      · cases heq
      · next rest' hrest' hclose =>
        cases heq
        obtain ⟨closing, rfl, hclosing⟩ := eq_cons_of_readClose hclose
        exact .inr (.inr ⟨hopen, closing, hclosing, hmiddle, hinner⟩)
  · cases heq

theorem yields_atom {a : Atom} (ht : t.token = a.token) (hts : a.EndsBefore ts) :
    Yields (parsePrimary stop depth t ts) a.expr ts := by
  refine ⟨Nat.lt_succ_self _, ?_⟩
  rw [parsePrimary.eq_def]
  cases a with
  | column name =>
    simp only [ht, Atom.token]
    rcases after?_cases (fun _ => Token.beq_openParen) ts with ⟨hnone, -⟩ | ⟨opening, inside, -, rfl, hopen, -⟩
    · rw [hnone]
      rfl
    · exact absurd (congrArg some hopen) (hts name rfl)
  | _ =>
    simp only [ht, Atom.token]
    rfl

theorem yields_call {function : String} {opening : Placed} (ht : t.token = .name function)
    (hopen : opening.token = .openParen) (h : Yields (parseArgs stop depth ts) args rest) :
    Yields (parsePrimary stop depth t (opening :: ts)) (.call function args) rest := by
  obtain ⟨hrest, hargs⟩ := h
  refine ⟨Nat.lt_succ_of_lt (Nat.lt_succ_of_lt hrest), ?_⟩
  rw [parsePrimary.eq_def]
  simp only [ht]
  have hafter : after? .openParen (opening :: ts) = some ⟨ts, Nat.lt_succ_self _⟩ := by
    rw [after?, if_pos (Token.beq_openParen.2 hopen)]
  rw [hafter]
  simp only
  rw [hargs]

theorem yields_group {closing : Placed} (ht : t.token = .openParen)
    (hclose : closing.token = .closeParen) (h : Yields (parseLevel stop depth 0 ts) e (closing :: rest)) :
    Yields (parsePrimary stop depth t ts) e rest := by
  obtain ⟨hmiddle, hinner⟩ := h
  have hlt : rest.length < (closing :: rest).length := Nat.lt_succ_self _
  refine ⟨Nat.lt_trans hlt (Nat.lt_succ_of_lt hmiddle), ?_⟩
  rw [parsePrimary.eq_def]
  simp only [ht]
  rw [hinner]
  simp only
  rw [readClose_ok hclose]

theorem yields_parseArgs :
    Yields (parseArgs stop depth ts) args rest ↔
      (∃ closing, closing.token = .closeParen ∧ ts = closing :: rest ∧ args = []) ∨
        (tokensOf ts).head? ≠ some .closeParen ∧ Yields (parseArgList stop depth ts) args rest := by
  rw [parseArgs]
  rcases after?_cases (fun _ => Token.beq_closeParen) ts with ⟨hnone, hhead⟩ | ⟨closing, inside, hinside, rfl, hclose, hsome⟩
  · rw [hnone]
    constructor
    · intro h
      exact .inr ⟨hhead, h⟩
    · rintro (⟨closing, hclose, rfl, -⟩ | ⟨-, h⟩)
      · exact absurd (congrArg some hclose) hhead
      · exact h
  · rw [hsome]
    constructor
    · rintro ⟨h, heq⟩
      cases heq
      exact .inl ⟨closing, hclose, rfl, rfl⟩
    · rintro (⟨closing', -, hts, rfl⟩ | ⟨hhead, -⟩)
      · cases hts
        exact ⟨hinside, rfl⟩
      · exact absurd (congrArg some hclose) hhead

/-- Behind an argument the list is closed, or a comma and further arguments follow. -/
theorem yields_parseArgList :
    Yields (parseArgList stop depth ts) args rest ↔
      ∃ arg ending middle, Yields (parseLevel stop depth 0 ts) arg (ending :: middle) ∧
        ((ending.token = .closeParen ∧ args = [arg] ∧ rest = middle) ∨
          ending.token = .comma ∧ ∃ more, args = arg :: more ∧
            Yields (parseArgList stop depth middle) more rest) := by
  rw [parseArgList]
  constructor
  · rintro ⟨h, heq⟩
    split at heq
    · cases heq
    · next arg middle hmiddle harg =>
      split at heq
      · cases heq
      · next tail htail hread =>
        cases heq
        obtain ⟨ending, rfl, hclose⟩ := cases_of_readArgumentEnd hread
        exact ⟨arg, ending, rest, ⟨hmiddle, harg⟩, .inl ⟨hclose, rfl, rfl⟩⟩
      · next tail htail hread =>
        split at heq
        · cases heq
        · next more rest' hrest' hmore =>
          cases heq
          obtain ⟨ending, rfl, hcomma⟩ := cases_of_readArgumentEnd hread
          exact ⟨arg, ending, tail, ⟨hmiddle, harg⟩, .inr ⟨hcomma, more, rfl, hrest', hmore⟩⟩
  · rintro ⟨arg, ending, middle, ⟨hmiddle, harg⟩, h⟩
    have hlt : middle.length < (ending :: middle).length := Nat.lt_succ_self _
    rcases h with ⟨hclose, rfl, rfl⟩ | ⟨hcomma, more, rfl, hrest, hmore⟩
    · refine ⟨Nat.lt_trans hlt hmiddle, ?_⟩
      rw [harg]
      simp only
      rw [readArgumentEnd_close hclose]
    · refine ⟨Nat.lt_trans hrest (Nat.lt_trans hlt hmiddle), ?_⟩
      rw [harg]
      simp only
      rw [readArgumentEnd_comma hcomma]
      simp only
      rw [hmore]

end Parts

/-! ### Soundness -/

/-- What is read at a depth, between two places of a list of tokens, is derived at a level. -/
def Derived (level depth : Nat) (ts rest : List Placed) (e : Expr) : Prop :=
  ∃ t : Tree level, tokensOf ts = t.tokens ++ tokensOf rest ∧ t.expr = e ∧ depth + t.nesting < maxDepth

mutual

theorem parseLevel_sound {stop depth level : Nat} {ts rest : List Placed} {e : Expr}
    (hl : level ≤ unaryLevel) (h : Yields (parseLevel stop depth level ts) e rest) :
    Derived level depth ts rest e := by
  by_cases hlevel : level < unaryLevel
  · obtain ⟨left, middle, hleft, hchain⟩ := (yields_parseLevel hlevel).1 h
    have hmiddle : middle.length < ts.length := hleft.1
    obtain ⟨t, htokens, rfl, hdepth⟩ := parseLevel_sound (Nat.succ_le_of_lt hlevel) hleft
    have hlt : level < primaryLevel := Nat.lt_succ_of_lt hlevel
    obtain ⟨t', htokens', rfl, hdepth'⟩ := parseChain_sound (.lift hlt t) hdepth hchain
    exact ⟨t', htokens.trans htokens', rfl, hdepth'⟩
  · obtain rfl : level = unaryLevel := Nat.le_antisymm hl (Nat.not_lt.1 hlevel)
    exact parseUnary_sound ((yields_parseLevel_of_le (Nat.le_refl _)).1 h)
termination_by (ts.length, 3 + (unaryLevel - level))

/-- The chain puts its operators and operands behind what has been derived in front of them. -/
theorem parseChain_sound {stop depth level : Nat} {ts rest : List Placed} {e : Expr}
    (left : Tree level) (hdepth : depth + left.nesting < maxDepth)
    (h : Yields (parseChain stop depth level left.expr ts) e rest) :
    ∃ t : Tree level, left.tokens ++ tokensOf ts = t.tokens ++ tokensOf rest ∧ t.expr = e ∧
      depth + t.nesting < maxDepth := by
  rcases chainOperator?_cases level ts with hnone | ⟨op, hop, t, tail, hts, ht⟩
  · obtain ⟨rfl, rfl⟩ := (yields_parseChain_of_none hnone).1 h
    exact ⟨left, rfl, rfl, hdepth⟩
  · subst hts
    obtain ⟨e', middle, hright, hchain⟩ := (yields_parseChain_of_operator hop ht).1 h
    have hmiddle : middle.length < tail.length := hright.1
    have htail : tail.length < (t :: tail).length := Nat.lt_succ_self _
    have hlevel : level + 1 ≤ unaryLevel := hop ▸ op.level_lt
    obtain ⟨right, htokens, rfl, hdepth'⟩ := parseLevel_sound hlevel hright
    have hnesting : depth + (Tree.binary op hop left right).nesting < maxDepth := by
      rw [Tree.nesting]
      omega
    obtain ⟨whole, hwhole, rfl, hdepth''⟩ := parseChain_sound (.binary op hop left right) hnesting hchain
    refine ⟨whole, ?_, rfl, hdepth''⟩
    calc left.tokens ++ tokensOf (t :: tail)
        = left.tokens ++ .op op.operator :: tokensOf tail := by rw [tokensOf_cons ht]
      _ = (Tree.binary op hop left right).tokens ++ tokensOf middle := by
        rw [htokens, Tree.tokens, List.append_assoc, List.cons_append]
      _ = whole.tokens ++ tokensOf rest := hwhole
termination_by (ts.length, 0)

theorem parseUnary_sound {stop depth : Nat} {ts rest : List Placed} {e : Expr}
    (h : Yields (parseUnary stop depth ts) e rest) : Derived unaryLevel depth ts rest e := by
  obtain ⟨hdepth, t, tail, hts, hcases⟩ := yields_parseUnary.1 h
  subst hts
  have htail : tail.length < (t :: tail).length := Nat.lt_succ_self _
  rcases hcases with ⟨op, operand, hop, rfl, hoperand⟩ | ⟨-, hprimary⟩
  · obtain ⟨u, htokens, rfl, hu⟩ := parseUnary_sound hoperand
    refine ⟨.unary op rfl u, ?_, rfl, ?_⟩
    · rw [tokensOf_cons hop, Tree.tokens, List.cons_append, ← htokens]
    · rw [Tree.nesting]
      omega
  · obtain ⟨p, htokens, rfl, hp⟩ := parsePrimary_sound hdepth hprimary
    exact ⟨.lift (Nat.lt_succ_self _) p, htokens, rfl, hp⟩
termination_by (ts.length, 2)
decreasing_by
  · exact .left _ _ (by rw [hts]; exact htail)
  · rw [hts]
    exact .right _ (by decide)

theorem parsePrimary_sound {stop depth : Nat} {t : Placed} {ts rest : List Placed} {e : Expr}
    (hdepth : depth < maxDepth) (h : Yields (parsePrimary stop (depth + 1) t ts) e rest) :
    Derived primaryLevel depth (t :: ts) rest e := by
  rcases cases_of_parsePrimary h with ⟨a, ha, rfl, rfl, -⟩ |
    ⟨function, opening, inside, args, hname, hts, hopen, rfl, hargs⟩ | ⟨hopen, closing, hclose, hinner⟩
  · refine ⟨.atom a rfl, ?_, rfl, hdepth⟩
    rw [tokensOf_cons ha]
    rfl
  · subst hts
    rw [Derived, tokensOf_cons hname, tokensOf_cons hopen]
    have hinside : inside.length < (opening :: inside).length := Nat.lt_succ_self _
    rcases yields_parseArgs.1 hargs with ⟨closing, hclose, rfl, rfl⟩ | ⟨-, hlist⟩
    · refine ⟨.bareCall function rfl, ?_, rfl, hdepth⟩
      rw [tokensOf_cons hclose]
      rfl
    · obtain ⟨derived, htokens, rfl, hargs⟩ := parseArgList_sound hlist
      refine ⟨.call function derived rfl, ?_, rfl, ?_⟩
      · rw [htokens]
        rfl
      · rw [Tree.nesting]
        omega
  · obtain ⟨inner, htokens, rfl, hinner⟩ := parseLevel_sound (Nat.zero_le _) hinner
    refine ⟨.group inner rfl, ?_, rfl, ?_⟩
    · rw [tokensOf_cons hopen, htokens, tokensOf_cons hclose, Tree.tokens, List.cons_append,
        List.append_assoc]
      rfl
    · rw [Tree.nesting]
      omega
termination_by (ts.length + 1, 1)

theorem parseArgList_sound {stop depth : Nat} {ts rest : List Placed} {args : List Expr}
    (h : Yields (parseArgList stop depth ts) args rest) :
    ∃ derived : Args, tokensOf ts = derived.tokens ++ tokensOf rest ∧ derived.exprs = args ∧
      depth + derived.nesting < maxDepth := by
  obtain ⟨arg, ending, middle, harg, h⟩ := yields_parseArgList.1 h
  have hmiddle : (ending :: middle).length < ts.length := harg.1
  have hlt : middle.length < (ending :: middle).length := Nat.lt_succ_self _
  obtain ⟨t, htokens, rfl, hdepth⟩ := parseLevel_sound (Nat.zero_le _) harg
  rcases h with ⟨hclose, rfl, rfl⟩ | ⟨hcomma, more, rfl, hmore⟩
  · refine ⟨.last t, ?_, rfl, hdepth⟩
    rw [htokens, tokensOf_cons hclose, Args.tokens, List.append_assoc]
    rfl
  · obtain ⟨derived, htokens', rfl, hdepth'⟩ := parseArgList_sound hmore
    refine ⟨.more t derived, ?_, rfl, ?_⟩
    · rw [htokens, tokensOf_cons hcomma, htokens', Args.tokens, List.append_assoc, List.cons_append]
    · rw [Args.nesting]
      omega
termination_by (ts.length, 4 + unaryLevel)

end

/-! ### Completeness -/

section Read

variable {stop depth level : Nat} {rest : List Placed} {left : Expr}

theorem chainOperator?_of_le (hl : unaryLevel ≤ level) (ts : List Placed) :
    chainOperator? level ts = none := by
  rcases chainOperator?_cases level ts with hnone | ⟨op, hop, -⟩
  · exact hnone
  · exact absurd op.level_lt (Nat.not_lt.2 (hop ▸ hl))

/-- There are no chains at the levels of unary operators and primaries. -/
theorem eq_of_parseChain {ts : List Placed} {e : Expr} (hl : unaryLevel ≤ level)
    (h : Yields (parseChain stop depth level left ts) e rest) : e = left ∧ rest = ts :=
  (yields_parseChain_of_none (chainOperator?_of_le hl ts)).1 h

theorem follows_of_closeParen {closing : Placed} (h : closing.token = .closeParen)
    (ts : List Placed) (level : Nat) : Follows level (tokensOf (closing :: ts)) := by
  rw [tokensOf_cons h]
  exact follows_closeParen level _

theorem follows_of_comma {comma : Placed} (h : comma.token = .comma) (ts : List Placed)
    (level : Nat) : Follows level (tokensOf (comma :: ts)) := by
  rw [tokensOf_cons h]
  exact follows_comma level _

theorem parseChain_of_follows (h : Follows level (tokensOf rest)) :
    Yields (parseChain stop depth level left rest) left rest := by
  rcases chainOperator?_cases level rest with hnone | ⟨op, hop, t, tail, rfl, ht⟩
  · exact (yields_parseChain_of_none hnone).2 ⟨rfl, rfl⟩
  · exact absurd (congrArg some ht) (h.2 op (Nat.le_of_eq hop.symm))

/-- Primaries are read at their own level as they are at that of the unary operators. -/
theorem yields_of_primary (hl : level = primaryLevel) (hdepth : depth < maxDepth) {t : Placed}
    {ts : List Placed} {e : Expr} (ht : UnaryOp.ofToken? t.token = none)
    (h : Yields (parsePrimary stop (depth + 1) t ts) e rest) :
    Yields (parseLevel stop depth level (t :: ts)) e rest := by
  have hle : unaryLevel ≤ level := hl ▸ Nat.le_succ _
  exact (yields_parseLevel_of_le hle).2 (yields_parseUnary.2 ⟨hdepth, t, ts, rfl, .inr ⟨ht, h⟩⟩)

theorem exists_append_of_tokensOf {used : List Placed} {ts ts' : List Token}
    (h : tokensOf used = ts ++ ts') :
    ∃ front back, used = front ++ back ∧ tokensOf front = ts ∧ tokensOf back = ts' :=
  List.map_eq_append_iff.1 h

theorem exists_cons_of_tokensOf {used : List Placed} {t : Token} {ts : List Token}
    (h : tokensOf used = t :: ts) :
    ∃ first back, used = first :: back ∧ first.token = t ∧ tokensOf back = ts :=
  List.map_eq_cons_iff.1 h

end Read

mutual

/-- The tokens of a derivation are read as the first operand of a chain of its level. -/
theorem Tree.read {stop depth l : Nat} (t : Tree l) {used rest rest' : List Placed} {e : Expr}
    (hused : tokensOf used = t.tokens) (hdepth : depth + t.nesting < maxDepth)
    (hrest : Follows (l + 1) (tokensOf rest))
    (hchain : Yields (parseChain stop depth l t.expr rest) e rest') :
    Yields (parseLevel stop depth l (used ++ rest)) e rest' := by
  match t with
  | .lift hl first =>
    have hfirst : Yields (parseLevel stop depth (l + 1) (used ++ rest)) first.expr rest :=
      first.read hused hdepth (hrest.mono (Nat.le_succ _)) (parseChain_of_follows hrest)
    by_cases hlevel : l < unaryLevel
    · exact (yields_parseLevel hlevel).2 ⟨first.expr, rest, hfirst, hchain⟩
    · have hle : unaryLevel ≤ l := Nat.not_lt.1 hlevel
      obtain ⟨rfl, rfl⟩ := eq_of_parseChain hle hchain
      apply (yields_parseLevel_of_le hle).2
      exact (yields_parseLevel_of_le (Nat.le_succ_of_le hle)).1 hfirst
  | .binary op hop left right =>
    obtain ⟨front, back, rfl, hfront, hback⟩ := exists_append_of_tokensOf hused
    obtain ⟨operator, operand, rfl, hoperator, hoperand⟩ := exists_cons_of_tokensOf hback
    rw [Tree.nesting] at hdepth
    have hright : Yields (parseLevel stop depth (l + 1) (operand ++ rest)) right.expr rest :=
      right.read hoperand (by omega) (hrest.mono (Nat.le_succ _)) (parseChain_of_follows hrest)
    -- the left operand is read first, and the chain goes on with the operator
    have hleft : Follows (l + 1) (tokensOf (operator :: (operand ++ rest))) := by
      rw [tokensOf_cons hoperator]
      exact follows_operator (Nat.lt_succ_of_le (Nat.le_of_eq hop)) _
    rw [List.append_assoc, List.cons_append]
    apply left.read hfront (by omega) hleft
    exact (yields_parseChain_of_operator hop hoperator).2 ⟨right.expr, rest, hright, hchain⟩
  | .unary op hl operand =>
    have hle : unaryLevel ≤ l := Nat.le_of_eq hl.symm
    obtain ⟨operator, back, rfl, hoperator, hback⟩ := exists_cons_of_tokensOf hused
    obtain ⟨rfl, rfl⟩ := eq_of_parseChain hle hchain
    rw [Tree.nesting] at hdepth
    have hoperand : Yields (parseLevel stop (depth + 1) l (back ++ rest')) operand.expr rest' :=
      operand.read hback (by omega) hrest
        ((yields_parseChain_of_none (chainOperator?_of_le hle rest')).2 ⟨rfl, rfl⟩)
    apply (yields_parseLevel_of_le hle).2
    exact yields_parseUnary.2 ⟨by omega, operator, back ++ rest', rfl,
      .inl ⟨op, operand.expr, hoperator, rfl, (yields_parseLevel_of_le hle).1 hoperand⟩⟩
  | .atom a hl =>
    obtain ⟨first, back, rfl, hfirst, hback⟩ := exists_cons_of_tokensOf hused
    obtain rfl : back = [] := List.map_eq_nil_iff.1 hback
    obtain ⟨rfl, rfl⟩ := eq_of_parseChain (hl ▸ Nat.le_succ _) hchain
    apply yields_of_primary hl hdepth
    · rw [hfirst]
      cases a <;> rfl
    · exact yields_atom hfirst fun _ _ => hrest.1
  | .bareCall function hl =>
    obtain ⟨name, back, rfl, hname, hback⟩ := exists_cons_of_tokensOf hused
    obtain ⟨opening, back, rfl, hopen, hback⟩ := exists_cons_of_tokensOf hback
    obtain ⟨closing, back, rfl, hclose, hback⟩ := exists_cons_of_tokensOf hback
    obtain rfl : back = [] := List.map_eq_nil_iff.1 hback
    obtain ⟨rfl, rfl⟩ := eq_of_parseChain (hl ▸ Nat.le_succ _) hchain
    apply yields_of_primary hl hdepth
    · rw [hname]
      rfl
    · exact yields_call hname hopen (yields_parseArgs.2 (.inl ⟨closing, hclose, rfl, rfl⟩))
  | .call function args hl =>
    obtain ⟨name, back, rfl, hname, hback⟩ := exists_cons_of_tokensOf hused
    obtain ⟨opening, back, rfl, hopen, hback⟩ := exists_cons_of_tokensOf hback
    obtain ⟨rfl, rfl⟩ := eq_of_parseChain (hl ▸ Nat.le_succ _) hchain
    rw [Tree.nesting] at hdepth
    -- the first token of an argument does not close the list
    have hhead : (tokensOf (back ++ rest')).head? ≠ some .closeParen := by
      rw [tokensOf, List.map_append, ← tokensOf, hback]
      exact args.head?_ne_closeParen _
    apply yields_of_primary hl (by omega)
    · rw [hname]
      rfl
    · exact yields_call hname hopen
        (yields_parseArgs.2 (.inr ⟨hhead, args.read hback (by omega)⟩))
  | .group inner hl =>
    obtain ⟨opening, back, rfl, hopen, hback⟩ := exists_cons_of_tokensOf hused
    obtain ⟨inside, back, rfl, hinside, hback⟩ := exists_append_of_tokensOf hback
    obtain ⟨closing, back, rfl, hclose, hback⟩ := exists_cons_of_tokensOf hback
    obtain rfl : back = [] := List.map_eq_nil_iff.1 hback
    obtain ⟨rfl, rfl⟩ := eq_of_parseChain (hl ▸ Nat.le_succ _) hchain
    rw [Tree.nesting] at hdepth
    have hfollows := follows_of_closeParen hclose rest'
    have hinner : Yields (parseLevel stop (depth + 1) 0 (inside ++ closing :: rest')) inner.expr
        (closing :: rest') :=
      inner.read hinside (by omega) (hfollows _) (parseChain_of_follows (hfollows _))
    rw [List.cons_append, List.append_assoc]
    apply yields_of_primary hl (by omega)
    · rw [hopen]
      rfl
    · exact yields_group hopen hclose hinner

theorem Args.read {stop depth : Nat} (args : Args) {used rest : List Placed}
    (hused : tokensOf used = args.tokens) (hdepth : depth + args.nesting < maxDepth) :
    Yields (parseArgList stop depth (used ++ rest)) args.exprs rest := by
  match args with
  | .last t =>
    obtain ⟨front, back, rfl, hfront, hback⟩ := exists_append_of_tokensOf hused
    obtain ⟨closing, back, rfl, hclose, hback⟩ := exists_cons_of_tokensOf hback
    obtain rfl : back = [] := List.map_eq_nil_iff.1 hback
    have hfollows := follows_of_closeParen hclose rest
    have harg : Yields (parseLevel stop depth 0 (front ++ closing :: rest)) t.expr (closing :: rest) :=
      t.read hfront hdepth (hfollows _) (parseChain_of_follows (hfollows _))
    rw [List.append_assoc]
    exact yields_parseArgList.2 ⟨t.expr, closing, rest, harg, .inl ⟨hclose, rfl, rfl⟩⟩
  | .more t more =>
    obtain ⟨front, back, rfl, hfront, hback⟩ := exists_append_of_tokensOf hused
    obtain ⟨comma, back, rfl, hcomma, hback⟩ := exists_cons_of_tokensOf hback
    rw [Args.nesting] at hdepth
    have hfollows := follows_of_comma hcomma (back ++ rest)
    have harg : Yields (parseLevel stop depth 0 (front ++ comma :: (back ++ rest))) t.expr
        (comma :: (back ++ rest)) :=
      t.read hfront (by omega) (hfollows _) (parseChain_of_follows (hfollows _))
    rw [List.append_assoc, List.cons_append]
    exact yields_parseArgList.2 ⟨t.expr, comma, back ++ rest, harg,
      .inr ⟨hcomma, more.exprs, rfl, more.read hback (by omega)⟩⟩

end

/-! ### Texts -/

theorem parseTokens_ok_iff {stop : Nat} {ts : List Placed} {e : Expr} :
    parseTokens stop ts = .ok e ↔ Yields (parseLevel stop 0 0 ts) e [] := by
  unfold parseTokens
  constructor
  · intro h
    split at h
    · cases h
    · next e' hnil hread =>
      cases h
      exact ⟨hnil, hread⟩
    · cases h
  · rintro ⟨hnil, hread⟩
    rw [hread]

theorem parse_ok_iff {input : String} {e : Expr} :
    parse input = .ok e ↔ ∃ ts, tokenize input = .ok ts ∧ parseTokens input.length ts = .ok e := by
  unfold parse
  cases htokens : tokenize input with
  | error failure =>
    constructor
    · intro h
      cases h
    · rintro ⟨ts, hts, -⟩
      cases hts
  | ok ts =>
    constructor
    · intro h
      refine ⟨ts, rfl, ?_⟩
      simp only at h
      split at h
      · cases h
      · next e' hparse =>
        cases h
        exact hparse
    · rintro ⟨ts', hts, hparse⟩
      cases hts
      simp only
      rw [hparse]

/-- A list of tokens is a formula exactly if it is derived within the allowed nesting. -/
theorem parseTokens_ok_iff_derived {stop : Nat} {ts : List Placed} {e : Expr} :
    parseTokens stop ts = .ok e ↔ ∃ t : Tree 0, t.tokens = tokensOf ts ∧ t.nesting ≤ 255 ∧ t.expr = e := by
  rw [parseTokens_ok_iff]
  constructor
  · intro h
    obtain ⟨t, htokens, hexpr, hdepth⟩ := parseLevel_sound (Nat.zero_le _) h
    have hnesting : t.nesting ≤ 255 := by
      unfold maxDepth at hdepth
      omega
    exact ⟨t, (htokens.trans (List.append_nil _)).symm, hnesting, hexpr⟩
  · rintro ⟨t, htokens, hnesting, rfl⟩
    have hdepth : 0 + t.nesting < maxDepth := by
      unfold maxDepth
      omega
    have hend : Yields (parseChain stop 0 0 t.expr []) t.expr [] := parseChain_of_follows (follows_nil 0)
    have hread := t.read htokens.symm hdepth (follows_nil _) hend
    rwa [List.append_nil] at hread

/-! ### Texts of long chains -/

theorem tokensAfter_blank {c : Char} (h : Text.isBlank c = true) (position : Nat) (cs : List Char) :
    tokensAfter position 0 (c :: cs) = tokensAfter (position + 1) 0 cs := by
  rw [tokensAfter, if_pos h]

theorem tokensAfter_token {c : Char} {cs : List Char} {position size : Nat} {t : Token}
    {rest : List Placed} (h : Text.isBlank c = false) (ht : Token.at? c cs = .ok (t, size + 1))
    (hrest : tokensAfter (position + 1) size cs = .ok rest) :
    tokensAfter position 0 (c :: cs) = .ok (⟨t, position⟩ :: rest) := by
  rw [tokensAfter, h, if_neg Bool.false_ne_true, ht]
  simp only [Nat.add_sub_cancel]
  rw [hrest]
  rfl

theorem tokensAfter_skip (position : Nat) (skipped cs : List Char) :
    tokensAfter position skipped.length (skipped ++ cs)
      = tokensAfter (position + skipped.length) 0 cs := by
  induction skipped generalizing position with
  | nil => rfl
  | cons c skipped ih =>
    show tokensAfter (position + 1) skipped.length (skipped ++ cs) = _
    rw [ih, List.length_cons]
    congr 1
    omega

/-- A written operator is read as such if a blank follows. -/
theorem at?_symbol (op : BinaryOp) (cs : List Char) :
    ∃ c more, op.operator.symbol.toList = c :: more ∧ Text.isBlank c = false ∧
      Token.at? c (more ++ ' ' :: cs) = .ok (.op op.operator, more.length + 1) := by
  cases op <;> exact ⟨_, _, rfl, rfl, rfl⟩

/-- The characters of operators with the column `a` behind each of them. -/
def chainChars : List BinaryOp → List Char
  | [] => []
  | op :: ops => ' ' :: (op.operator.symbol.toList ++ ' ' :: 'a' :: chainChars ops)

/-- A chain of operators over the column `a`. -/
def chainText (ops : List BinaryOp) : String := String.ofList ('a' :: chainChars ops)

theorem at?_column (ops : List BinaryOp) : Token.at? 'a' (chainChars ops) = .ok (.name "a", 0 + 1) := by
  cases ops with
  | nil => rfl
  | cons op ops => rfl

theorem tokensAfter_chain (position : Nat) (ops : List BinaryOp) :
    ∃ ts, tokensAfter position 0 ('a' :: chainChars ops) = .ok ts ∧
      tokensOf ts = .name "a" :: ops.flatMap fun op => [.op op.operator, .name "a"] := by
  induction ops generalizing position with
  | nil => exact ⟨[⟨.name "a", position⟩], rfl, rfl⟩
  | cons op ops ih =>
    obtain ⟨c, more, hsymbol, hblank, hat⟩ := at?_symbol op ('a' :: chainChars ops)
    obtain ⟨ts, hts, htokens⟩ := ih (position + 1 + 1 + 1 + more.length + 1)
    have hoperator : tokensAfter (position + 1 + 1) 0 (c :: (more ++ ' ' :: 'a' :: chainChars ops))
        = .ok (⟨.op op.operator, position + 1 + 1⟩ :: ts) := by
      apply tokensAfter_token hblank hat
      rw [tokensAfter_skip, tokensAfter_blank rfl]
      exact hts
    refine ⟨⟨.name "a", position⟩ :: ⟨.op op.operator, position + 1 + 1⟩ :: ts, ?_, ?_⟩
    · apply tokensAfter_token rfl (at?_column (op :: ops))
      rw [chainChars, tokensAfter_blank rfl, hsymbol, List.cons_append]
      exact hoperator
    · rw [tokensOf_cons rfl, tokensOf_cons rfl, htokens, List.flatMap_cons]
      rfl

/-- Operands with operators between them are accepted, however many there are. -/
theorem exists_parseTokens_of_operands {stop : Nat} {ts : List Placed} (first : Tree unaryLevel)
    (operands : List (BinaryOp × Tree unaryLevel))
    (hts : tokensOf ts = first.tokens ++ Tree.tailTokens operands) (hfirst : first.nesting ≤ 255)
    (hoperands : ∀ operand ∈ operands, operand.2.nesting ≤ 255) :
    ∃ e, parseTokens stop ts = .ok e := by
  obtain ⟨start, hstart, hnesting, -⟩ := Tree.exists_lift (Nat.zero_le _) (Nat.le_succ _) first
  obtain ⟨t, htokens, ht⟩ := start.exists_of_operands operands (by rw [hnesting]; exact hfirst) hoperands
  exact ⟨t.expr, parseTokens_ok_iff_derived.2 ⟨t, by rw [htokens, hstart, hts], ht, rfl⟩⟩

/-- **The parser accepts exactly its grammar.** A text is parsed exactly if its tokens have a
derivation in which no primary stands inside of more than 255 unary operators, parentheses and
calls, and the result is the formula that is derived; there is only one derivation. So every
node of the result stands inside of at most 255 unary operators and calls. Operands with binary
operators of any levels between them are accepted however many they are, and there are texts of
such chains for every list of operators. -/
theorem parse_accepts (input : String) :
    (∀ e, parse input = .ok e ↔ ∃ ts, tokenize input = .ok ts ∧
        ∃ t : Tree 0, t.tokens = tokensOf ts ∧ t.nesting ≤ 255 ∧ t.expr = e) ∧
      (∀ t t' : Tree 0, t.tokens = t'.tokens → t = t') ∧
      (∀ e, parse input = .ok e → ∀ n k, e.HasNode n k → k ≤ 255) ∧
      (∀ ts (first : Tree unaryLevel) (operands : List (BinaryOp × Tree unaryLevel)),
        tokenize input = .ok ts → tokensOf ts = first.tokens ++ Tree.tailTokens operands →
        first.nesting ≤ 255 → (∀ operand ∈ operands, operand.2.nesting ≤ 255) →
        ∃ e, parse input = .ok e) ∧
      ∀ ops : List BinaryOp, ∃ e, parse (chainText ops) = .ok e := by
  have hderived : ∀ input e, parse input = .ok e ↔ ∃ ts, tokenize input = .ok ts ∧
      ∃ t : Tree 0, t.tokens = tokensOf ts ∧ t.nesting ≤ 255 ∧ t.expr = e := by
    intro input e
    rw [parse_ok_iff]
    exact exists_congr fun ts => and_congr_right fun _ => parseTokens_ok_iff_derived
  have hchain : ∀ input ts (first : Tree unaryLevel) (operands : List (BinaryOp × Tree unaryLevel)),
      tokenize input = .ok ts → tokensOf ts = first.tokens ++ Tree.tailTokens operands →
      first.nesting ≤ 255 → (∀ operand ∈ operands, operand.2.nesting ≤ 255) →
      ∃ e, parse input = .ok e := by
    intro input ts first operands htokenize hts hfirst hoperands
    obtain ⟨e, he⟩ := exists_parseTokens_of_operands first operands hts hfirst hoperands
    exact ⟨e, parse_ok_iff.2 ⟨ts, htokenize, he⟩⟩
  refine ⟨hderived input, fun t t' => Tree.eq_of_tokens, ?_, hchain input, ?_⟩
  · intro e he n k hnode
    obtain ⟨ts, -, t, -, hnesting, rfl⟩ := (hderived input e).1 he
    exact Nat.le_trans (t.le_nesting_of_hasNode hnode) hnesting
  · intro ops
    obtain ⟨ts, htokenize, hts⟩ := tokensAfter_chain 0 ops
    -- the operands are the column `a`, as a derivation at the level of unary operators
    let column : Tree unaryLevel := .lift (Nat.lt_succ_self _) (.atom (.column "a") rfl)
    refine hchain (chainText ops) ts column (ops.map (·, column)) ?_ ?_ (Nat.zero_le _) ?_
    · rw [tokenize, chainText, String.toList_ofList]
      exact htokenize
    · rw [hts, Tree.tailTokens, List.flatMap_map]
      rfl
    · intro operand hoperand
      obtain ⟨op, -, rfl⟩ := List.mem_map.1 hoperand
      exact Nat.zero_le _

end Databook.Formula
