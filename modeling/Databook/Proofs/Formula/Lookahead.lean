import Databook.Proofs.Formula.Parser

/-!
# One token ahead

Where a part of the parser stops, it has looked at the next token at most: it reads the same in front of all
tokens that start in the same way (`SameStart`), wherever the text ends. The induction follows the recursion of
the parser (`parseLevel_steady`); what it needs of the tokens behind is which operator they start with, after
an operand, and whether they start with a parenthesis, after a name.
-/

namespace Databook.Formula

theorem tokensOf_append (ts ts' : List Placed) : tokensOf (ts ++ ts') = tokensOf ts ++ tokensOf ts' :=
  List.map_append

/-- What a part of the parser reads is settled by the tokens. -/
theorem Yields.unique {ε α : Type} {P : List Placed → Prop}
    {r : Except ε (α × { rest : List Placed // P rest })} {a a' : α} {rest rest' : List Placed}
    (h : Yields r a rest) (h' : Yields r a' rest') : a = a' ∧ rest = rest' := by
  obtain ⟨_, h⟩ := h
  obtain ⟨_, h'⟩ := h'
  cases h.symm.trans h'
  exact ⟨rfl, rfl⟩

/-- Do two lists of tokens start in the same way? -/
def SameStart (ts ts' : List Placed) : Prop := ts'.head? = ts.head?

theorem SameStart.append {rest rest' : List Placed} (h : SameStart rest rest') (used : List Placed) :
    SameStart (used ++ rest) (used ++ rest') := by
  cases used with
  | nil => exact h
  | cons t used => rfl

theorem SameStart.head?_tokensOf {ts ts' : List Placed} (h : SameStart ts ts') :
    (tokensOf ts').head? = (tokensOf ts).head? := by
  rw [tokensOf, tokensOf, List.head?_map, List.head?_map, h]

theorem SameStart.chainOperator?_eq {ts ts' : List Placed} (h : SameStart ts ts') (level : Nat) :
    chainOperator? level ts' = chainOperator? level ts := by
  cases ts with
  | nil => rw [List.head?_eq_none_iff.1 h]
  | cons t ts =>
    obtain ⟨rest, rfl⟩ := List.head?_eq_some_iff.1 h
    obtain ⟨token, position⟩ := t
    cases token <;> rfl

/-- Does what is read in front of the rest stay the same in front of all tokens that start in the same way? -/
def Steady (reads : List Placed → List Placed → Prop) (ts rest : List Placed) : Prop :=
  ∃ used, ts = used ++ rest ∧ ∀ rest', SameStart rest rest' → reads (used ++ rest') rest'

section Steady

variable {reads first second : List Placed → List Placed → Prop} {ts middle rest : List Placed}

theorem Steady.nil (h : ∀ rest', SameStart rest rest' → reads rest' rest') : Steady reads rest rest :=
  ⟨[], rfl, h⟩

theorem Steady.cons {t : Placed} (h : Steady second ts rest)
    (hreads : ∀ ts rest, second ts rest → reads (t :: ts) rest) : Steady reads (t :: ts) rest := by
  obtain ⟨used, rfl, hused⟩ := h
  exact ⟨t :: used, rfl, fun rest' hrest => hreads _ _ (hused rest' hrest)⟩

theorem Steady.append (h : Steady first ts middle) (h' : Steady second middle rest)
    (hreads : ∀ ts middle rest, first ts middle → second middle rest → reads ts rest) :
    Steady reads ts rest := by
  obtain ⟨used, rfl, hused⟩ := h
  obtain ⟨used', rfl, hused'⟩ := h'
  refine ⟨used ++ used', (List.append_assoc _ _ _).symm, fun rest' hrest => ?_⟩
  rw [List.append_assoc]
  exact hreads _ _ _ (hused _ (hrest.append used')) (hused' rest' hrest)

end Steady

mutual

theorem parseLevel_steady {stop depth level : Nat} {ts rest : List Placed} {e : Expr}
    (h : Yields (parseLevel stop depth level ts) e rest) :
    Steady (fun ts rest => ∀ stop, Yields (parseLevel stop depth level ts) e rest) ts rest := by
  by_cases hlevel : level < unaryLevel
  · obtain ⟨left, middle, hleft, hchain⟩ := (yields_parseLevel hlevel).1 h
    have hmiddle : middle.length < ts.length := hleft.1
    exact (parseLevel_steady hleft).append (parseChain_steady hchain) fun _ middle _ hleft hchain stop =>
      (yields_parseLevel hlevel).2 ⟨left, middle, hleft stop, hchain stop⟩
  · have hle : unaryLevel ≤ level := Nat.not_lt.1 hlevel
    obtain ⟨used, hts, hused⟩ := parseUnary_steady ((yields_parseLevel_of_le hle).1 h)
    exact ⟨used, hts, fun rest' hrest stop => (yields_parseLevel_of_le hle).2 (hused rest' hrest stop)⟩
termination_by (ts.length, 3 + (unaryLevel - level))

theorem parseChain_steady {stop depth level : Nat} {ts rest : List Placed} {left e : Expr}
    (h : Yields (parseChain stop depth level left ts) e rest) :
    Steady (fun ts rest => ∀ stop, Yields (parseChain stop depth level left ts) e rest) ts rest := by
  rcases chainOperator?_cases level ts with hnone | ⟨op, hop, t, tail, hts, ht⟩
  · obtain ⟨rfl, rfl⟩ := (yields_parseChain_of_none hnone).1 h
    exact .nil fun rest' hrest stop =>
      (yields_parseChain_of_none (hrest.chainOperator?_eq level ▸ hnone)).2 ⟨rfl, rfl⟩
  · subst hts
    obtain ⟨right, middle, hright, hchain⟩ := (yields_parseChain_of_operator hop ht).1 h
    have hmiddle : middle.length < tail.length := hright.1
    have htail : tail.length < (t :: tail).length := Nat.lt_succ_self _
    have hoperand : Steady (fun ts rest => ∀ stop, ∃ middle,
        Yields (parseLevel stop depth (level + 1) ts) right middle ∧
          Yields (parseChain stop depth level (.binary op left right) middle) e rest) tail rest :=
      (parseLevel_steady hright).append (parseChain_steady hchain) fun _ middle _ hright hchain stop =>
        ⟨middle, hright stop, hchain stop⟩
    exact hoperand.cons fun _ _ hoperand stop =>
      (yields_parseChain_of_operator hop ht).2 ⟨right, hoperand stop⟩
termination_by (ts.length, 0)

theorem parseUnary_steady {stop depth : Nat} {ts rest : List Placed} {e : Expr}
    (h : Yields (parseUnary stop depth ts) e rest) :
    Steady (fun ts rest => ∀ stop, Yields (parseUnary stop depth ts) e rest) ts rest := by
  obtain ⟨hdepth, t, tail, hts, hcases⟩ := yields_parseUnary.1 h
  subst hts
  have htail : tail.length < (t :: tail).length := Nat.lt_succ_self _
  rcases hcases with ⟨op, operand, hop, rfl, hoperand⟩ | ⟨hnone, hprimary⟩
  · exact (parseUnary_steady hoperand).cons fun ts _ hoperand stop =>
      yields_parseUnary.2 ⟨hdepth, t, ts, rfl, .inl ⟨op, operand, hop, rfl, hoperand stop⟩⟩
  · exact (parsePrimary_steady hprimary).cons fun ts _ hprimary stop =>
      yields_parseUnary.2 ⟨hdepth, t, ts, rfl, .inr ⟨hnone, hprimary stop⟩⟩
termination_by (ts.length, 2)
decreasing_by
  · exact .left _ _ (by rw [hts]; exact htail)
  · rw [hts]
    exact .right _ (by decide)

theorem parsePrimary_steady {stop depth : Nat} {t : Placed} {ts rest : List Placed} {e : Expr}
    (h : Yields (parsePrimary stop depth t ts) e rest) :
    Steady (fun ts rest => ∀ stop, Yields (parsePrimary stop depth t ts) e rest) ts rest := by
  rcases cases_of_parsePrimary h with ⟨a, ha, rfl, rfl, hends⟩ |
    ⟨function, opening, inside, args, hname, hts, hopen, rfl, hargs⟩ | ⟨hopen, closing, hclose, hinner⟩
  · exact .nil fun rest' hrest stop =>
      yields_atom ha fun name hname => hrest.head?_tokensOf ▸ hends name hname
  · subst hts
    have hinside : inside.length < (opening :: inside).length := Nat.lt_succ_self _
    have hsteady : Steady (fun ts rest => ∀ stop, Yields (parseArgs stop depth ts) args rest) inside rest := by
      rcases yields_parseArgs.1 hargs with ⟨closing, hclose, rfl, rfl⟩ | ⟨hhead, hlist⟩
      · exact ⟨[closing], rfl, fun _ _ _ => yields_parseArgs.2 (.inl ⟨closing, hclose, rfl, rfl⟩)⟩
      · obtain ⟨used, hused, hlist⟩ := parseArgList_steady hlist
        refine ⟨used, hused, fun rest' hrest stop => yields_parseArgs.2 (.inr ⟨?_, hlist rest' hrest stop⟩)⟩
        rwa [(hrest.append used).head?_tokensOf, ← hused]
    exact hsteady.cons fun _ _ hargs stop => yields_call hname hopen (hargs stop)
  · obtain ⟨used, hused, hinner⟩ := parseLevel_steady hinner
    refine ⟨used ++ [closing], by rw [hused, List.append_assoc]; rfl, fun rest' _ stop => ?_⟩
    rw [List.append_assoc]
    exact yields_group hopen hclose (hinner (closing :: rest') rfl stop)
termination_by (ts.length + 1, 1)

theorem parseArgList_steady {stop depth : Nat} {ts rest : List Placed} {args : List Expr}
    (h : Yields (parseArgList stop depth ts) args rest) :
    Steady (fun ts rest => ∀ stop, Yields (parseArgList stop depth ts) args rest) ts rest := by
  obtain ⟨arg, ending, middle, harg, h⟩ := yields_parseArgList.1 h
  have hmiddle : (ending :: middle).length < ts.length := harg.1
  have hlt : middle.length < (ending :: middle).length := Nat.lt_succ_self _
  obtain ⟨used, hused, harg⟩ := parseLevel_steady harg
  rcases h with ⟨hclose, rfl, rfl⟩ | ⟨hcomma, more, rfl, hmore⟩
  · refine ⟨used ++ [ending], by rw [hused, List.append_assoc]; rfl, fun rest' _ stop => ?_⟩
    rw [List.append_assoc]
    exact yields_parseArgList.2 ⟨arg, ending, rest', harg (ending :: rest') rfl stop, .inl ⟨hclose, rfl, rfl⟩⟩
  · obtain ⟨used', hused', hmore⟩ := parseArgList_steady hmore
    refine ⟨used ++ ending :: used', by rw [hused, hused', List.append_assoc]; rfl, fun rest' hrest stop => ?_⟩
    rw [List.append_assoc]
    exact yields_parseArgList.2 ⟨arg, ending, used' ++ rest', harg (ending :: (used' ++ rest')) rfl stop,
      .inr ⟨hcomma, more, rfl, hmore rest' hrest stop⟩⟩
termination_by (ts.length, 4 + unaryLevel)

end

end Databook.Formula
