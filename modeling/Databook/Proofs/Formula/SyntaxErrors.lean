import Databook.Proofs.Formula.Lookahead
import Databook.Proofs.Formula.Spans

/-!
# Where syntax errors are reported

If the tokens of a text are no formula, the parser reports the first token that does not belong there: what
stands in front of it can be gone on with to a formula, and together with it this is no longer possible. If
there is no such token, the error is reported at the end of the text, and the tokens are the beginning of a
longer formula (`parse_error_place`). Only the limit on nesting is reported otherwise.

Whenever a part of the parser fails, it fails at a place as described, where "formula" is what that part reads
(`Offends`, `parseLevel_offends`). What has been read up to there is completed with `true`, where an operand is
missing, and with the parentheses that are open. That never exceeds the nesting, since the parser has checked
the depth before it looks for an operand. And what is refused is refused whatever follows, since the parser
looks one token ahead only.
-/

namespace Databook.Formula

/-! ### Which part fails -/

section Errors

variable {stop depth level : Nat} {t : Placed} {ts : List Placed} {left : Expr} {err : ParseError × Nat}

theorem cases_of_parseLevel_error (hl : level < unaryLevel)
    (h : parseLevel stop depth level ts = .error err) :
    parseLevel stop depth (level + 1) ts = .error err ∨
      ∃ left middle, Yields (parseLevel stop depth (level + 1) ts) left middle ∧
        parseChain stop depth level left middle = .error err := by
  rw [parseLevel, if_pos hl] at h
  split at h
  · next hleft =>
    cases h
    exact .inl hleft
  · next left middle hmiddle hleft =>
    split at h
    · next hchain =>
      cases h
      exact .inr ⟨left, middle, ⟨hmiddle, hleft⟩, hchain⟩
    · cases h

theorem cases_of_parseChain_error {op : BinaryOp} (hop : op.level = level)
    (ht : t.token = .op op.operator) (h : parseChain stop depth level left (t :: ts) = .error err) :
    parseLevel stop depth (level + 1) ts = .error err ∨
      ∃ right middle, Yields (parseLevel stop depth (level + 1) ts) right middle ∧
        parseChain stop depth level (.binary op left right) middle = .error err := by
  obtain ⟨token, position⟩ := t
  cases ht
  have hoperator : chainOperator? level (⟨.op op.operator, position⟩ :: ts) = some op :=
    ofOperator?_eq_some_iff.2 ⟨hop, rfl⟩
  rw [parseChain] at h
  split at h
  · cases h
  · next op' hop' =>
    rw [hoperator] at hop'
    cases hop'
    split at h
    · next hright =>
      cases h
      exact .inl hright
    · next right middle hmiddle hright =>
      split at h
      · next hchain =>
        cases h
        exact .inr ⟨right, middle, ⟨hmiddle, hright⟩, hchain⟩
      · cases h

/-- Where no operator of the level comes, the chain does not fail. -/
theorem exists_chainOperator_of_error (h : parseChain stop depth level left ts = .error err) :
    ∃ op : BinaryOp, op.level = level ∧ ∃ t rest, ts = t :: rest ∧ t.token = .op op.operator := by
  rcases chainOperator?_cases level ts with hnone | hop
  · have hends : Yields (parseChain stop depth level left ts) left ts :=
      (yields_parseChain_of_none hnone).2 ⟨rfl, rfl⟩
    cases h.symm.trans hends.2
  · exact hop

theorem cases_of_parseUnary_error (h : parseUnary stop depth ts = .error err) (he : err.1 ≠ .tooDeep) :
    depth < maxDepth ∧
      (ts = [] ∧ err.2 = stop ∨ ∃ t tail, ts = t :: tail ∧
        ((∃ op : UnaryOp, t.token = .op op.operator ∧ parseUnary stop (depth + 1) tail = .error err) ∨
          UnaryOp.ofToken? t.token = none ∧ parsePrimary stop (depth + 1) t tail = .error err)) := by
  rw [parseUnary.eq_def] at h
  split at h
  · cases h
    exact absurd rfl he
  · next hdepth =>
    refine ⟨Nat.not_le.1 hdepth, ?_⟩
    cases ts with
    | nil =>
      cases h
      exact .inl ⟨rfl, rfl⟩
    | cons t tail =>
      refine .inr ⟨t, tail, rfl, ?_⟩
      simp only at h
      split at h
      · next hnone => exact .inr ⟨hnone, h⟩
      · next op hop =>
        split at h
        · next hoperand =>
          cases h
          exact .inl ⟨op, ofToken?_eq_some_iff.1 hop, hoperand⟩
        · cases h

theorem cases_of_readClose_error (h : readClose stop ts = .error err) :
    err.2 = nextPosition stop ts ∧ (tokensOf ts).head? ≠ some .closeParen := by
  cases ts with
  | nil =>
    cases h
    exact ⟨rfl, nofun⟩
  | cons t ts =>
    rw [readClose] at h
    split at h
    · cases h
    · next hclose =>
      cases h
      exact ⟨rfl, fun hhead => hclose (Token.beq_closeParen.2 (Option.some.inj hhead))⟩

theorem cases_of_readArgumentEnd_error (h : readArgumentEnd stop ts = .error err) :
    err.2 = nextPosition stop ts ∧ (tokensOf ts).head? ≠ some .comma ∧
      (tokensOf ts).head? ≠ some .closeParen := by
  cases ts with
  | nil =>
    cases h
    exact ⟨rfl, nofun, nofun⟩
  | cons t ts =>
    rw [readArgumentEnd] at h
    split at h
    · cases h
    · next hcomma =>
      split at h
      · cases h
      · next hclose =>
        cases h
        exact ⟨rfl, fun hhead => hcomma (Token.beq_comma.2 (Option.some.inj hhead)),
          fun hhead => hclose (Token.beq_closeParen.2 (Option.some.inj hhead))⟩

/-- A primary fails at its first token, in the arguments of a call, in parentheses or behind them. -/
theorem cases_of_parsePrimary_error (h : parsePrimary stop depth t ts = .error err) :
    (err.2 = t.position ∧ ∀ ts' stop e rest, ¬Yields (parsePrimary stop depth t ts') e rest) ∨
      (∃ function opening inside, t.token = .name function ∧ ts = opening :: inside ∧
        opening.token = .openParen ∧ parseArgs stop depth inside = .error err) ∨
      t.token = .openParen ∧ (parseLevel stop depth 0 ts = .error err ∨
        ∃ e middle, Yields (parseLevel stop depth 0 ts) e middle ∧ readClose stop middle = .error err) := by
  rw [parsePrimary.eq_def] at h
  split at h
  · cases h
  · cases h
  · cases h
  · cases h
  · next name hname =>
    rcases after?_cases (fun _ => Token.beq_openParen) ts with ⟨hnone, -⟩ | ⟨opening, inside, hinside, rfl, hopen, hsome⟩
    · rw [hnone] at h
      cases h
    · rw [hsome] at h
      simp only at h
      split at h
      · next hargs =>
        cases h
        exact .inr (.inl ⟨name, opening, inside, hname, rfl, hopen, hargs⟩)
      · cases h
  · next hopen =>
    refine .inr (.inr ⟨hopen, ?_⟩)
    split at h
    · next hinner =>
      cases h
      exact .inl hinner
    · next e middle hmiddle hinner =>
      split at h
      · next hclose =>
        cases h
        exact .inr ⟨e, middle, ⟨hmiddle, hinner⟩, hclose⟩
      · cases h
  · next hnumber hstring hbool hquoted hname hopen =>
    cases h
    refine .inl ⟨rfl, fun ts' stop e rest hread => ?_⟩
    rcases cases_of_parsePrimary hread with ⟨a, ha, -⟩ | ⟨function, _, _, _, hfunction, -⟩ | ⟨hopen', -⟩
    · cases a with
      | number x => exact hnumber x ha
      | string s => exact hstring s ha
      | bool b => exact hbool b ha
      | column name => exact hname name ha
      | quotedColumn name => exact hquoted name ha
    · exact hname function hfunction
    · exact hopen hopen'

theorem cases_of_parseArgs_error (h : parseArgs stop depth ts = .error err) :
    (tokensOf ts).head? ≠ some .closeParen ∧ parseArgList stop depth ts = .error err := by
  rw [parseArgs] at h
  rcases after?_cases (fun _ => Token.beq_closeParen) ts with ⟨hnone, hhead⟩ | ⟨_, _, _, _, _, hsome⟩
  · rw [hnone] at h
    exact ⟨hhead, h⟩
  · rw [hsome] at h
    cases h

theorem cases_of_parseArgList_error (h : parseArgList stop depth ts = .error err) :
    parseLevel stop depth 0 ts = .error err ∨
      ∃ arg middle, Yields (parseLevel stop depth 0 ts) arg middle ∧
        (readArgumentEnd stop middle = .error err ∨
          ∃ comma more, middle = comma :: more ∧ comma.token = .comma ∧
            parseArgList stop depth more = .error err) := by
  rw [parseArgList] at h
  split at h
  · next harg =>
    cases h
    exact .inl harg
  · next arg middle hmiddle harg =>
    refine .inr ⟨arg, middle, ⟨hmiddle, harg⟩, ?_⟩
    split at h
    · next hend =>
      cases h
      exact .inl hend
    · cases h
    · next more _ hread =>
      obtain ⟨comma, rfl, hcomma⟩ := cases_of_readArgumentEnd hread
      split at h
      · next hmore =>
        cases h
        exact .inr ⟨comma, more, rfl, hcomma, hmore⟩
      · cases h

end Errors

/-! ### The offending token -/

/-- Does a list of tokens consist of what an unfinished formula can end with: the operand that is missing and
the parentheses that are open? -/
def Ending (more : List Token) : Prop := ∀ t ∈ more, t = .bool true ∨ t = .closeParen

theorem ending_nil : Ending [] := nofun

theorem ending_true : Ending [.bool true] := List.forall_mem_singleton.2 (.inl rfl)

theorem ending_closeParen : Ending [.closeParen] := List.forall_mem_singleton.2 (.inr rfl)

theorem Ending.append {more more' : List Token} (h : Ending more) (h' : Ending more') :
    Ending (more ++ more') :=
  List.forall_mem_append.2 ⟨h, h'⟩

/-- The tokens fail at a place: what stands in front of a token can be completed, but with the token it is
refused whatever follows; or the tokens end there and can be completed with some more. -/
inductive Offends (refused : List Placed → Prop) (complete : List Token → Prop) (stop : Nat) :
    List Placed → Nat → Prop where
  | token {front : List Placed} {t : Placed} {rest : List Placed}
      (hcomplete : ∃ more, Ending more ∧ complete (tokensOf front ++ more))
      (hrefused : ∀ rest', refused (front ++ t :: rest')) :
      Offends refused complete stop (front ++ t :: rest) t.position
  | stop {ts : List Placed}
      (hcomplete : ∃ more, more ≠ [] ∧ Ending more ∧ complete (tokensOf ts ++ more)) :
      Offends refused complete stop ts stop

section Offends

variable {refused refused' : List Placed → Prop} {complete complete' : List Token → Prop}
  {stop place : Nat} {ts : List Placed}

/-- The tokens fail at the next one. -/
theorem Offends.here {more : List Token} (hmore : more ≠ []) (hending : Ending more)
    (hcomplete : complete more) (hrefused : ∀ ts', SameStart ts ts' → refused ts') :
    Offends refused complete stop ts (nextPosition stop ts) := by
  cases ts with
  | nil => exact .stop ⟨more, hmore, hending, hcomplete⟩
  | cons t rest => exact @Offends.token _ _ _ [] t rest ⟨more, hending, hcomplete⟩ fun _ => hrefused _ rfl

/-- Behind tokens that have been read, tokens fail at the place where they fail by themselves. -/
theorem Offends.under (h : Offends refused complete stop ts place) (used : List Placed)
    {closing : List Token} (hclosing : Ending closing)
    (hcomplete : ∀ more, complete more → complete' (tokensOf used ++ more ++ closing))
    (hrefused : ∀ ts', SameStart ts ts' → refused ts' → refused' (used ++ ts')) :
    Offends refused' complete' stop (used ++ ts) place := by
  have hmove : ∀ front more, complete (tokensOf front ++ more) →
      complete' (tokensOf (used ++ front) ++ (more ++ closing)) := by
    intro front more h
    have hmoved := hcomplete _ h
    rw [tokensOf_append]
    simpa only [List.append_assoc] using hmoved
  cases h with
  | @token front t rest hfront hfails =>
    obtain ⟨more, hmore, hfront⟩ := hfront
    rw [← List.append_assoc]
    refine .token ⟨more ++ closing, hmore.append hclosing, hmove front more hfront⟩ fun rest' => ?_
    rw [List.append_assoc]
    have hstart : SameStart (t :: rest) (t :: rest') := rfl
    exact hrefused _ (hstart.append front) (hfails rest')
  | stop hall =>
    obtain ⟨more, hne, hmore, hall⟩ := hall
    exact .stop ⟨more ++ closing, List.append_ne_nil_of_left_ne_nil hne _, hmore.append hclosing,
      hmove ts more hall⟩

/-- Behind tokens that have been read, when nothing needs to be closed. -/
theorem Offends.behind (h : Offends refused complete stop ts place) (used : List Placed)
    (hcomplete : ∀ more, complete more → complete' (tokensOf used ++ more))
    (hrefused : ∀ ts', SameStart ts ts' → refused ts' → refused' (used ++ ts')) :
    Offends refused' complete' stop (used ++ ts) place := by
  refine h.under used ending_nil (fun more hmore => ?_) hrefused
  rw [List.append_nil]
  exact hcomplete more hmore

end Offends

/-- No formula of the level is read at the front of the tokens. -/
def Unread (depth level : Nat) (ts : List Placed) : Prop :=
  ∀ stop e rest, ¬Yields (parseLevel stop depth level ts) e rest

/-- Are the tokens derived at the level, within the nesting that is left at a depth? -/
def Fits (depth level : Nat) (ts : List Token) : Prop :=
  ∃ t : Tree level, t.tokens = ts ∧ depth + t.nesting < maxDepth

def UnreadArgs (depth : Nat) (ts : List Placed) : Prop :=
  ∀ stop args rest, ¬Yields (parseArgList stop depth ts) args rest

def FitsArgs (depth : Nat) (ts : List Token) : Prop :=
  ∃ args : Args, args.tokens = ts ∧ depth + args.nesting < maxDepth

/-- What has been read is derived, and is read in front of all tokens that start like those behind it. -/
theorem exists_front {stop depth level : Nat} {ts rest : List Placed} {e : Expr} (hl : level ≤ unaryLevel)
    (h : Yields (parseLevel stop depth level ts) e rest) :
    ∃ used, ts = used ++ rest ∧
      (∃ t : Tree level, tokensOf used = t.tokens ∧ t.expr = e ∧ depth + t.nesting < maxDepth) ∧
      ∀ ts', SameStart rest ts' → ∀ stop, Yields (parseLevel stop depth level (used ++ ts')) e ts' := by
  obtain ⟨t, htokens, hexpr, hdepth⟩ := parseLevel_sound hl h
  obtain ⟨used, rfl, hused⟩ := parseLevel_steady h
  rw [tokensOf_append] at htokens
  exact ⟨used, rfl, ⟨t, List.append_cancel_right htokens, hexpr, hdepth⟩, hused⟩

theorem fits_lift {depth level : Nat} {ts : List Token} (hl : level < primaryLevel)
    (h : Fits depth (level + 1) ts) : Fits depth level ts := by
  obtain ⟨t, htokens, hdepth⟩ := h
  exact ⟨.lift hl t, htokens, hdepth⟩

/-- A missing operand can be `true`. -/
theorem fits_true {depth : Nat} (h : depth < maxDepth) : Fits depth unaryLevel [.bool true] :=
  fits_lift (Nat.lt_succ_self _) ⟨.atom (.bool true) rfl, rfl, h⟩

theorem fits_group {depth : Nat} {ts : List Token} (h : Fits (depth + 1) 0 ts) :
    Fits depth unaryLevel (.openParen :: (ts ++ [.closeParen])) := by
  obtain ⟨t, rfl, hdepth⟩ := h
  refine fits_lift (Nat.lt_succ_self _) ⟨.group t rfl, rfl, ?_⟩
  change depth + (t.nesting + 1) < maxDepth
  omega

theorem fits_call {depth : Nat} {ts : List Token} (function : String) (h : FitsArgs (depth + 1) ts) :
    Fits depth unaryLevel (.name function :: .openParen :: ts) := by
  obtain ⟨args, rfl, hdepth⟩ := h
  refine fits_lift (Nat.lt_succ_self _) ⟨.call function args rfl, rfl, ?_⟩
  change depth + (args.nesting + 1) < maxDepth
  omega

theorem fits_unary {depth : Nat} {ts : List Token} (op : UnaryOp) (h : Fits (depth + 1) unaryLevel ts) :
    Fits depth unaryLevel (.op op.operator :: ts) := by
  obtain ⟨t, rfl, hdepth⟩ := h
  refine ⟨.unary op rfl t, rfl, ?_⟩
  rw [Tree.nesting]
  omega

theorem yields_unaryLevel {stop depth : Nat} {ts rest : List Placed} {e : Expr} :
    Yields (parseLevel stop depth unaryLevel ts) e rest ↔ Yields (parseUnary stop depth ts) e rest :=
  yields_parseLevel_of_le (Nat.le_refl _)

theorem yields_parsePrimary_of_unary {stop depth : Nat} {t : Placed} {ts rest : List Placed} {e : Expr}
    (hnone : UnaryOp.ofToken? t.token = none) (h : Yields (parseLevel stop depth unaryLevel (t :: ts)) e rest) :
    Yields (parsePrimary stop (depth + 1) t ts) e rest := by
  obtain ⟨-, t', tail, hts, hcases⟩ := yields_parseUnary.1 (yields_unaryLevel.1 h)
  cases hts
  rcases hcases with ⟨op, -, hop, -⟩ | ⟨-, hprimary⟩
  · rw [ofToken?_eq_some_iff.2 hop] at hnone
    cases hnone
  · exact hprimary

/-- What starts with a parenthesis is a formula in parentheses. -/
theorem yields_inside {stop depth : Nat} {t : Placed} {ts rest : List Placed} {e : Expr}
    (hopen : t.token = .openParen) (h : Yields (parsePrimary stop depth t ts) e rest) :
    ∃ closing, closing.token = .closeParen ∧ Yields (parseLevel stop depth 0 ts) e (closing :: rest) := by
  rcases cases_of_parsePrimary h with ⟨a, ha, -⟩ | ⟨_, _, _, _, hname, -⟩ | ⟨-, hinner⟩
  · cases a <;> cases hopen.symm.trans ha
  · cases hopen.symm.trans hname
  · exact hinner

/-! ### The parts of the parser -/

mutual

theorem parseLevel_offends {stop depth level : Nat} {ts : List Placed} {err : ParseError × Nat}
    (hl : level ≤ unaryLevel) (h : parseLevel stop depth level ts = .error err) (he : err.1 ≠ .tooDeep) :
    Offends (Unread depth level) (Fits depth level) stop ts err.2 := by
  by_cases hlevel : level < unaryLevel
  · have hlt : level < primaryLevel := Nat.lt_succ_of_lt hlevel
    rcases cases_of_parseLevel_error hlevel h with hfirst | ⟨left, middle, hleft, hchain⟩
    · -- what is refused as an operand is refused here, since nothing else can come first
      refine (parseLevel_offends (Nat.succ_le_of_lt hlevel) hfirst he).behind [] ?_ ?_
      · exact fun more => fits_lift hlt
      · intro ts' _ hunread stop e rest hread
        obtain ⟨left, middle, hleft, -⟩ := (yields_parseLevel hlevel).1 hread
        exact hunread stop left middle hleft
    · have hmiddle : middle.length < ts.length := hleft.1
      obtain ⟨used, rfl, ⟨t, htokens, rfl, hdepth⟩, hused⟩ := exists_front (Nat.succ_le_of_lt hlevel) hleft
      -- the operand is read in front of whatever starts like the chain, so the chain alone refuses
      refine (parseChain_offends (.lift hlt t) hdepth hchain he).behind used ?_ ?_
      · rintro more ⟨whole, hwhole, hfits⟩
        refine ⟨whole, ?_, hfits⟩
        rw [hwhole, htokens]
        rfl
      · intro ts' hstart hunread stop e rest hread
        obtain ⟨left, middle', hleft, hchain⟩ := (yields_parseLevel hlevel).1 hread
        obtain ⟨rfl, rfl⟩ := hleft.unique (hused ts' hstart stop)
        exact hunread stop e rest hchain
  · obtain rfl : level = unaryLevel := Nat.le_antisymm hl (Nat.not_lt.1 hlevel)
    rw [parseLevel, if_neg hlevel] at h
    exact parseUnary_offends h he
termination_by (ts.length, 3 + (unaryLevel - level))

/-- A chain goes on with what has been derived in front of it. -/
theorem parseChain_offends {stop depth level : Nat} {ts : List Placed} {err : ParseError × Nat}
    (left : Tree level) (hdepth : depth + left.nesting < maxDepth)
    (h : parseChain stop depth level left.expr ts = .error err) (he : err.1 ≠ .tooDeep) :
    Offends (fun ts => ∀ stop e rest, ¬Yields (parseChain stop depth level left.expr ts) e rest)
      (fun ts => ∃ whole : Tree level, whole.tokens = left.tokens ++ ts ∧ depth + whole.nesting < maxDepth)
      stop ts err.2 := by
  obtain ⟨op, hop, t, tail, hts, ht⟩ := exists_chainOperator_of_error h
  subst hts
  have htail : tail.length < (t :: tail).length := Nat.lt_succ_self _
  have hlevel : level + 1 ≤ unaryLevel := hop ▸ op.level_lt
  rcases cases_of_parseChain_error hop ht h with hright | ⟨right, middle, hright, hchain⟩
  · refine (parseLevel_offends hlevel hright he).behind [t] ?_ ?_
    · rintro more ⟨operand, rfl, hfits⟩
      refine ⟨.binary op hop left operand, ?_, ?_⟩
      · rw [tokensOf_cons ht]
        rfl
      · rw [Tree.nesting]
        omega
    · intro ts' _ hunread stop e rest hread
      obtain ⟨right, middle, hright, -⟩ := (yields_parseChain_of_operator hop ht).1 hread
      exact hunread stop right middle hright
  · have hmiddle : middle.length < tail.length := hright.1
    obtain ⟨used, rfl, ⟨operand, htokens, rfl, hoperand⟩, hused⟩ := exists_front hlevel hright
    have hnesting : depth + (Tree.binary op hop left operand).nesting < maxDepth := by
      rw [Tree.nesting]
      omega
    refine (parseChain_offends (.binary op hop left operand) hnesting hchain he).behind (t :: used) ?_ ?_
    · rintro more ⟨whole, hwhole, hfits⟩
      refine ⟨whole, ?_, hfits⟩
      rw [hwhole, tokensOf_cons ht, htokens, Tree.tokens, List.append_assoc]
    · intro ts' hstart hunread stop e rest hread
      obtain ⟨right, middle', hright, hchain⟩ := (yields_parseChain_of_operator hop ht).1 hread
      obtain ⟨rfl, rfl⟩ := hright.unique (hused ts' hstart stop)
      exact hunread stop e rest hchain
termination_by (ts.length, 0)

theorem parseUnary_offends {stop depth : Nat} {ts : List Placed} {err : ParseError × Nat}
    (h : parseUnary stop depth ts = .error err) (he : err.1 ≠ .tooDeep) :
    Offends (Unread depth unaryLevel) (Fits depth unaryLevel) stop ts err.2 := by
  obtain ⟨hdepth, hcases⟩ := cases_of_parseUnary_error h he
  rcases hcases with ⟨rfl, hstop⟩ | ⟨t, tail, hts, ⟨op, hop, hoperand⟩ | ⟨hnone, hprimary⟩⟩
  · rw [hstop]
    exact .stop ⟨[.bool true], List.cons_ne_nil _ _, ending_true, fits_true hdepth⟩
  · subst hts
    have htail : tail.length < (t :: tail).length := Nat.lt_succ_self _
    refine (parseUnary_offends hoperand he).behind [t] ?_ ?_
    · intro more hmore
      rw [tokensOf_cons hop]
      exact fits_unary op hmore
    · intro ts' _ hunread stop e rest hread
      obtain ⟨-, t', tail', hts', hcases⟩ := yields_parseUnary.1 (yields_unaryLevel.1 hread)
      cases hts'
      rcases hcases with ⟨_, operand, -, -, hoperand⟩ | ⟨hnone, -⟩
      · exact hunread stop operand rest (yields_unaryLevel.2 hoperand)
      · rw [ofToken?_eq_some_iff.2 hop] at hnone
        cases hnone
  · subst hts
    exact parsePrimary_offends hdepth hnone hprimary he
termination_by (ts.length, 2)
decreasing_by
  · exact .left _ _ (by rw [hts]; exact htail)
  · rw [hts]
    exact .right _ (by decide)

theorem parsePrimary_offends {stop depth : Nat} {t : Placed} {ts : List Placed} {err : ParseError × Nat}
    (hdepth : depth < maxDepth) (hnone : UnaryOp.ofToken? t.token = none)
    (h : parsePrimary stop (depth + 1) t ts = .error err) (he : err.1 ≠ .tooDeep) :
    Offends (Unread depth unaryLevel) (Fits depth unaryLevel) stop (t :: ts) err.2 := by
  rcases cases_of_parsePrimary_error h with ⟨hplace, hunread⟩ |
    ⟨function, opening, inside, hname, hts, hopen, hargs⟩ | ⟨hopen, hinner | ⟨e, middle, hinner, hclose⟩⟩
  · rw [hplace]
    refine .here (List.cons_ne_nil _ _) ending_true (fits_true hdepth) fun ts' hstart stop e rest hread => ?_
    obtain ⟨rest', rfl⟩ := List.head?_eq_some_iff.1 hstart
    exact hunread rest' stop e rest (yields_parsePrimary_of_unary hnone hread)
  · subst hts
    have hinside : inside.length < (opening :: inside).length := Nat.lt_succ_self _
    obtain ⟨hhead, hlist⟩ := cases_of_parseArgs_error hargs
    refine (parseArgList_offends hlist he).behind [t, opening] ?_ ?_
    · intro more hmore
      rw [tokensOf_cons hname, tokensOf_cons hopen]
      exact fits_call function hmore
    · intro ts' hstart hunread stop e rest hread
      rcases cases_of_parsePrimary (yields_parsePrimary_of_unary hnone hread) with
        ⟨a, ha, -, -, hends⟩ | ⟨_, _, _, args, -, hts', -, -, hargs⟩ | ⟨hopen', -⟩
      · -- a name in front of a parenthesis is no column
        cases a <;> cases hname.symm.trans ha
        exact hends function rfl (congrArg some hopen)
      · cases hts'
        rcases yields_parseArgs.1 hargs with ⟨closing, hclose, rfl, -⟩ | ⟨-, hlist⟩
        · -- the call is not closed at once, as it was not before
          rw [← hstart.head?_tokensOf, tokensOf_cons hclose] at hhead
          exact hhead rfl
        · exact hunread stop args rest hlist
      · cases hname.symm.trans hopen'
  · refine (parseLevel_offends (Nat.zero_le _) hinner he).under [t] ending_closeParen ?_ ?_
    · intro more hmore
      rw [tokensOf_cons hopen]
      exact fits_group hmore
    · intro ts' _ hunread stop e rest hread
      obtain ⟨closing, -, hinner⟩ := yields_inside hopen (yields_parsePrimary_of_unary hnone hread)
      exact hunread stop e _ hinner
  · obtain ⟨hplace, hhead⟩ := cases_of_readClose_error hclose
    obtain ⟨used, rfl, ⟨inner, htokens, rfl, hfits⟩, hused⟩ := exists_front (Nat.zero_le _) hinner
    have hmissing : Offends (fun ts => (tokensOf ts).head? ≠ some .closeParen) (· = [.closeParen]) stop
        middle (nextPosition stop middle) :=
      .here (List.cons_ne_nil _ _) ending_closeParen rfl fun ts' hstart => hstart.head?_tokensOf ▸ hhead
    rw [hplace]
    refine hmissing.behind (t :: used) ?_ ?_
    · rintro _ rfl
      rw [tokensOf_cons hopen, htokens, List.cons_append]
      exact fits_group ⟨inner, rfl, hfits⟩
    · intro ts' hstart hhead stop e rest hread
      obtain ⟨closing, hclosing, hinner⟩ := yields_inside hopen (yields_parsePrimary_of_unary hnone hread)
      obtain ⟨-, rfl⟩ := hinner.unique (hused ts' hstart stop)
      exact hhead (congrArg some hclosing)
termination_by (ts.length + 1, 1)

theorem parseArgList_offends {stop depth : Nat} {ts : List Placed} {err : ParseError × Nat}
    (h : parseArgList stop depth ts = .error err) (he : err.1 ≠ .tooDeep) :
    Offends (UnreadArgs depth) (FitsArgs depth) stop ts err.2 := by
  rcases cases_of_parseArgList_error h with harg | ⟨arg, middle, harg, hcases⟩
  · refine (parseLevel_offends (Nat.zero_le _) harg he).under [] ending_closeParen ?_ ?_
    · rintro more ⟨t, rfl, hfits⟩
      exact ⟨.last t, rfl, hfits⟩
    · intro ts' _ hunread stop args rest hread
      obtain ⟨arg, ending, middle, harg, -⟩ := yields_parseArgList.1 hread
      exact hunread stop arg _ harg
  · have hmiddle : middle.length < ts.length := harg.1
    obtain ⟨used, rfl, ⟨t, htokens, rfl, hdepth⟩, hused⟩ := exists_front (Nat.zero_le _) harg
    rcases hcases with hend | ⟨comma, more, rfl, hcomma, hmore⟩
    · obtain ⟨hplace, hhead⟩ := cases_of_readArgumentEnd_error hend
      have hmissing : Offends
          (fun ts => (tokensOf ts).head? ≠ some .comma ∧ (tokensOf ts).head? ≠ some .closeParen)
          (· = [.closeParen]) stop middle (nextPosition stop middle) :=
        .here (List.cons_ne_nil _ _) ending_closeParen rfl fun ts' hstart => hstart.head?_tokensOf ▸ hhead
      rw [hplace]
      refine hmissing.behind used ?_ ?_
      · rintro _ rfl
        rw [htokens]
        exact ⟨.last t, rfl, hdepth⟩
      · rintro ts' hstart ⟨hcomma, hclose⟩ stop args rest hread
        obtain ⟨arg, ending, middle', harg, hending⟩ := yields_parseArgList.1 hread
        obtain ⟨-, rfl⟩ := harg.unique (hused ts' hstart stop)
        rcases hending with ⟨hending, -⟩ | ⟨hending, -⟩
        · exact hclose (congrArg some hending)
        · exact hcomma (congrArg some hending)
    · have hlt : more.length < (comma :: more).length := Nat.lt_succ_self _
      suffices hoffends : Offends (UnreadArgs depth) (FitsArgs depth) stop (used ++ [comma] ++ more) err.2 by
        rwa [List.append_assoc] at hoffends
      refine (parseArgList_offends hmore he).behind (used ++ [comma]) ?_ ?_
      · rintro _ ⟨args, rfl, hfits⟩
        refine ⟨.more t args, ?_, ?_⟩
        · rw [tokensOf_append, htokens, tokensOf_cons hcomma, List.append_assoc]
          rfl
        · rw [Args.nesting]
          omega
      · intro ts' hstart hunread stop args rest hread
        rw [List.append_assoc] at hread
        obtain ⟨arg, ending, middle', harg, hending⟩ := yields_parseArgList.1 hread
        obtain ⟨-, heq⟩ := harg.unique (hused ([comma] ++ ts') rfl stop)
        cases heq
        rcases hending with ⟨hclose, -⟩ | ⟨-, more, -, hmore⟩
        · cases hcomma.symm.trans hclose
        · exact hunread stop more rest hmore
termination_by (ts.length, 4 + unaryLevel)

end

/-! ### Texts -/

/-- Has each of the tokens a word that is read as it? -/
def Legible (ts : List Token) : Prop := ∀ t ∈ ts, ∃ word, Reads t word

/-- The words of tokens can be put one behind the other, with blanks between them. -/
theorem Legible.exists_split {ts : List Token} (h : Legible ts) (position : Nat) :
    ∃ cs xs, Split position cs xs ∧ tokensOf (xs.map Lexeme.placed) = ts := by
  induction ts generalizing position with
  | nil => exact ⟨[], [], .nil position, rfl⟩
  | cons t ts ih =>
    obtain ⟨⟨word, c, more, rfl, hc, hread⟩, hts⟩ := List.forall_mem_cons.1 h
    obtain ⟨cs, xs, hsplit, htokens⟩ := ih hts (position + (more.length + 1) + 1)
    have ht : Token.at? c (more ++ ' ' :: cs) = .ok (t, more.length + 1) :=
      hread (' ' :: cs) (breaks_cons rfl cs)
    exact ⟨_, _, .token hc ht (.blank rfl hsplit), congrArg (t :: ·) htokens⟩

theorem Ending.legible {more : List Token} (h : Ending more) : Legible more := by
  intro t ht
  rcases h t ht with rfl | rfl
  · exact ⟨_, @reads_word "true".toList rfl⟩
  · exact ⟨[')'], reads_char rfl⟩

/-- Each token of a text has a word in it. -/
theorem legible_of_tokenize {text : String} {ts : List Placed} (h : tokenize text = .ok ts) :
    Legible (tokensOf ts) := by
  obtain ⟨xs, hsplit, rfl⟩ := tokensAfter_ok_iff.1 h
  intro t ht
  obtain ⟨placed, hplaced, rfl⟩ := List.mem_map.1 ht
  obtain ⟨x, hx, rfl⟩ := List.mem_map.1 hplaced
  exact ⟨_, hsplit.reads [] rfl x hx⟩

/-- Does the parser accept the tokens, wherever they stand? -/
def Accepted (ts : List Token) : Prop :=
  ∃ stop placed e, tokensOf placed = ts ∧ parseTokens stop placed = .ok e

/-- Tokens that the parser accepts and some text has. -/
structure IsFormula (ts : List Token) : Prop where
  accepted : Accepted ts
  written : ∃ text placed, tokenize text = .ok placed ∧ tokensOf placed = ts

/-- Tokens that are derived are a formula, if they have words. -/
theorem isFormula_of_fits {ts : List Token} (hts : Legible ts) (h : Fits 0 0 ts) : IsFormula ts := by
  obtain ⟨cs, xs, hsplit, htokens⟩ := hts.exists_split 0
  obtain ⟨tree, htree, hdepth⟩ := h
  have hnesting : tree.nesting ≤ 255 := by
    unfold maxDepth at hdepth
    omega
  have hparse : parseTokens 0 (xs.map Lexeme.placed) = .ok tree.expr :=
    parseTokens_ok_iff_derived.2 ⟨tree, htree.trans htokens.symm, hnesting, rfl⟩
  refine ⟨⟨0, _, _, htokens, hparse⟩, String.ofList cs, _, ?_, htokens⟩
  rw [tokenize, String.toList_ofList]
  exact hsplit.tokensAfter_eq

/-- Accepted tokens are read as a formula at whatever places they stand. -/
theorem Accepted.yields {ts : List Placed} (h : Accepted (tokensOf ts)) (stop : Nat) :
    ∃ e, Yields (parseLevel stop 0 0 ts) e [] := by
  obtain ⟨stop', placed, e, htokens, hparse⟩ := h
  obtain ⟨tree, htree, hnesting, hexpr⟩ := parseTokens_ok_iff_derived.1 hparse
  exact ⟨e, parseTokens_ok_iff.1 (parseTokens_ok_iff_derived.2 ⟨tree, htree.trans htokens, hnesting, hexpr⟩)⟩

/-- If all tokens are to be read, those behind a formula fail as well. -/
theorem parseTokens_offends {stop : Nat} {ts : List Placed} {err : ParseError × Nat}
    (h : parseTokens stop ts = .error err) (he : err.1 ≠ .tooDeep) :
    Offends (fun ts => ∀ stop e, ¬Yields (parseLevel stop 0 0 ts) e []) (Fits 0 0) stop ts err.2 := by
  unfold parseTokens at h
  split at h
  · next hlevel =>
    cases h
    refine (parseLevel_offends (Nat.zero_le _) hlevel he).behind [] ?_ ?_
    · exact fun more hmore => hmore
    · exact fun ts' _ hunread stop e => hunread stop e []
  · cases h
  · next e t rest hrest hlevel =>
    cases h
    obtain ⟨used, rfl, ⟨tree, htokens, -, hdepth⟩, hused⟩ := exists_front (Nat.zero_le _) ⟨hrest, hlevel⟩
    refine .token ⟨[], ending_nil, tree, ?_, hdepth⟩ fun rest' stop e hread => ?_
    · rw [htokens, List.append_nil]
    · cases (hread.unique (hused (t :: rest') rfl stop)).2

/-- **Syntax errors are reported at the first token that does not belong there.** If the tokens of a text are no
formula, and not only because of its nesting, then the reported place is that of a token: what stands in front
of it can be completed to the tokens of a formula, but no list of tokens that goes on with this token is
accepted. Or it is the end of the text, and its tokens are the beginning of a longer formula. -/
theorem parse_error_place {input : String} {e : ParseError} {p : Nat}
    (h : parse input = .error (.grammatical e p)) (he : e ≠ .tooDeep) :
    ∃ ts, tokenize input = .ok ts ∧
      ((∃ front t rest, ts = front ++ t :: rest ∧ p = t.position ∧
          (∃ more, IsFormula (tokensOf front ++ more)) ∧
          ∀ more, ¬Accepted (tokensOf front ++ t.token :: more)) ∨
        p = input.length ∧ ∃ more, more ≠ [] ∧ IsFormula (tokensOf ts ++ more)) := by
  unfold parse at h
  split at h
  · cases h
  · next ts htokenize =>
    split at h
    · next hparse =>
      cases h
      refine ⟨ts, htokenize, ?_⟩
      have hlegible := legible_of_tokenize htokenize
      have hformula : ∀ front more, Legible (tokensOf front) → Ending more →
          Fits 0 0 (tokensOf front ++ more) → IsFormula (tokensOf front ++ more) :=
        fun _ _ hfront hmore => isFormula_of_fits (List.forall_mem_append.2 ⟨hfront, hmore.legible⟩)
      cases parseTokens_offends hparse he with
      | @token front t rest hcomplete hrefused =>
        obtain ⟨more, hmore, hfits⟩ := hcomplete
        rw [tokensOf_append] at hlegible
        refine .inl ⟨front, t, rest, rfl, rfl, ⟨more, ?_⟩, fun more haccepted => ?_⟩
        · exact hformula front more (List.forall_mem_append.1 hlegible).1 hmore hfits
        · -- the tokens behind `t` can be placed anywhere
          have hplaced : tokensOf (front ++ t :: more.map (⟨·, 0⟩)) = tokensOf front ++ t.token :: more := by
            rw [tokensOf_append, tokensOf_cons rfl, tokensOf, tokensOf, List.map_map]
            exact congrArg (_ ++ _ :: ·) (List.map_id more)
          obtain ⟨e, hread⟩ := (hplaced ▸ haccepted).yields 0
          exact hrefused _ 0 e hread
      | stop hcomplete =>
        obtain ⟨more, hne, hmore, hfits⟩ := hcomplete
        exact .inr ⟨rfl, more, hne, hformula ts more hlegible hmore hfits⟩
    · cases h

/-- The second of two strings does not belong there, and no tokens that start with both are a formula. -/
theorem parse_error_place_strings :
    (parse "'a' 'b'" = .error (.grammatical (.unexpectedToken (.string "b")) 4) ∧
        ParseError.unexpectedToken (.string "b") ≠ .tooDeep) ∧
      (∃ more, IsFormula (.string "a" :: more)) ∧ ∀ more, ¬Accepted (.string "a" :: .string "b" :: more) := by
  have htokenize : tokenize "'a' 'b'" = .ok [⟨.string "a", 0⟩, ⟨.string "b", 4⟩] := rfl
  have hparse : parse "'a' 'b'" = .error (.grammatical (.unexpectedToken (.string "b")) 4) := by
    simp [parse, htokenize, parseTokens, parseLevel, parseChain, parseUnary, parsePrimary, unaryLevel,
      maxDepth, UnaryOp.ofToken?, chainOperator?]
  have hdepth : ParseError.unexpectedToken (.string "b") ≠ .tooDeep := by rintro ⟨⟩
  refine ⟨⟨hparse, hdepth⟩, ?_⟩
  obtain ⟨ts, hts, ⟨front, t, rest, hsplit, hplace, hplaces⟩ | ⟨hstop, -⟩⟩ := parse_error_place hparse hdepth
  · cases htokenize.symm.trans hts
    -- the token at the place 4 is the second one
    rcases front with _ | ⟨_, _ | ⟨_, front⟩⟩
    · cases hsplit
      cases hplace
    · cases hsplit
      exact hplaces
    · cases front <;> cases hsplit
  · cases hstop

end Databook.Formula
