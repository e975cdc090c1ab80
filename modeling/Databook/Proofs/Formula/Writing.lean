import Databook.Proofs.Formula.Spelling

/-!
# Formulas that are written and read back

`Written n l e ts` says that the tokens `ts` are a way of writing the formula `e` where an operand of the
level `l` is expected: operators stand between their operands, columns are quoted names, and there are
parentheses wherever the operator of `e` is of a lower level, and possibly elsewhere. A binary operator
takes its left operand at its own level and its right operand at the next one. No primary stands inside of
more than `n` unary operators, parentheses and calls.

Every way of writing a formula derives it (`Written.derived`), so that the parser, which finds every
derivation of the grammar, gives back the formula that was written (`parse_written`).
-/

namespace Databook.Formula

/-! ### Ways of writing a formula -/

mutual

/-- Are the tokens a way of writing the formula as an operand of the level, within the nesting? -/
inductive Written : Nat → Nat → Expr → List Token → Prop where
  | number {n l : Nat} (x : Float) : Written n l (.number x) [.number x]
  | string {n l : Nat} (s : String) : Written n l (.string s) [.string s]
  | bool {n l : Nat} (b : Bool) : Written n l (.bool b) [.bool b]
  | column {n l : Nat} (name : String) : Written n l (.column name) [.quotedName name]
  | unary {n l : Nat} {e : Expr} {ts : List Token} (op : UnaryOp) (hl : l ≤ unaryLevel)
      (operand : Written n unaryLevel e ts) : Written (n + 1) l (.unary op e) (.op op.operator :: ts)
  | binary {n l : Nat} {e e' : Expr} {ts ts' : List Token} (op : BinaryOp) (hl : l ≤ op.level)
      (left : Written n op.level e ts) (right : Written n (op.level + 1) e' ts') :
      Written n l (.binary op e e') (ts ++ .op op.operator :: ts')
  | bareCall {n l : Nat} (function : String) :
      Written n l (.call function []) [.name function, .openParen, .closeParen]
  | call {n l : Nat} {es : List Expr} {ts : List Token} (function : String) (args : WrittenArgs n es ts) :
      Written (n + 1) l (.call function es) (.name function :: .openParen :: ts)
  /-- Parentheses can stand around every formula. -/
  | group {n l : Nat} {e : Expr} {ts : List Token} (inner : Written n 0 e ts) :
      Written (n + 1) l e (.openParen :: (ts ++ [.closeParen]))

/-- Are the tokens a way of writing one or more arguments, up to the parenthesis that closes them? -/
inductive WrittenArgs : Nat → List Expr → List Token → Prop where
  | last {n : Nat} {e : Expr} {ts : List Token} (arg : Written n 0 e ts) :
      WrittenArgs n [e] (ts ++ [.closeParen])
  | more {n : Nat} {e : Expr} {es : List Expr} {ts ts' : List Token} (arg : Written n 0 e ts)
      (rest : WrittenArgs n es ts') : WrittenArgs n (e :: es) (ts ++ .comma :: ts')

end

/-! ### Derivations -/

/-- Is the formula derived with the tokens at the level, within the nesting? -/
def DerivedWithin (n l : Nat) (e : Expr) (ts : List Token) : Prop :=
  ∃ t : Tree l, t.tokens = ts ∧ t.nesting ≤ n ∧ t.expr = e

theorem DerivedWithin.lower {n l m : Nat} {e : Expr} {ts : List Token} (h : DerivedWithin n m e ts)
    (hlm : l ≤ m) (hm : m ≤ primaryLevel) : DerivedWithin n l e ts := by
  obtain ⟨t, rfl, hn, rfl⟩ := h
  obtain ⟨t', htokens, hnesting, hexpr⟩ := Tree.exists_lift hlm hm t
  exact ⟨t', htokens, hnesting ▸ hn, hexpr⟩

/-- A token that is a primary is derived at every level. -/
theorem derivedWithin_atom {n l : Nat} (a : Atom) (hl : l ≤ primaryLevel) :
    DerivedWithin n l a.expr [a.token] :=
  DerivedWithin.lower ⟨.atom a rfl, rfl, Nat.zero_le n, rfl⟩ hl (Nat.le_refl _)

mutual

theorem Written.derived {n l : Nat} {e : Expr} {ts : List Token} (h : Written n l e ts)
    (hl : l ≤ primaryLevel) : DerivedWithin n l e ts := by
  match h with
  | .number x => exact derivedWithin_atom (.number x) hl
  | .string s => exact derivedWithin_atom (.string s) hl
  | .bool b => exact derivedWithin_atom (.bool b) hl
  | .column name => exact derivedWithin_atom (.quotedColumn name) hl
  | .unary op hop operand =>
    obtain ⟨t, rfl, hn, rfl⟩ := operand.derived (Nat.le_succ _)
    apply DerivedWithin.lower _ hop (Nat.le_succ _)
    exact ⟨.unary op rfl t, rfl, Nat.succ_le_succ hn, rfl⟩
  | .binary op hop left right =>
    -- both operands are of binary levels or of the one of unary operators
    have hlevel : op.level < unaryLevel := op.level_lt
    have hle : op.level ≤ primaryLevel := by
      unfold primaryLevel
      omega
    obtain ⟨t, rfl, hn, rfl⟩ := left.derived hle
    obtain ⟨t', rfl, hn', rfl⟩ := right.derived (Nat.le_succ_of_le hlevel)
    apply DerivedWithin.lower _ hop hle
    exact ⟨.binary op rfl t t', rfl, Nat.max_le.2 ⟨hn, hn'⟩, rfl⟩
  | .bareCall function =>
    apply DerivedWithin.lower _ hl (Nat.le_refl _)
    exact ⟨.bareCall function rfl, rfl, Nat.zero_le _, rfl⟩
  | .call function args =>
    obtain ⟨t, rfl, hn, rfl⟩ := args.derived
    apply DerivedWithin.lower _ hl (Nat.le_refl _)
    exact ⟨.call function t rfl, rfl, Nat.succ_le_succ hn, rfl⟩
  | .group inner =>
    obtain ⟨t, rfl, hn, rfl⟩ := inner.derived (Nat.zero_le _)
    apply DerivedWithin.lower _ hl (Nat.le_refl _)
    exact ⟨.group t rfl, rfl, Nat.succ_le_succ hn, rfl⟩

theorem WrittenArgs.derived {n : Nat} {es : List Expr} {ts : List Token} (h : WrittenArgs n es ts) :
    ∃ args : Args, args.tokens = ts ∧ args.nesting ≤ n ∧ args.exprs = es := by
  match h with
  | .last arg =>
    obtain ⟨t, rfl, hn, rfl⟩ := arg.derived (Nat.zero_le _)
    exact ⟨.last t, rfl, hn, rfl⟩
  | .more arg rest =>
    obtain ⟨t, rfl, hn, rfl⟩ := arg.derived (Nat.zero_le _)
    obtain ⟨args, rfl, hn', rfl⟩ := rest.derived
    exact ⟨.more t args, rfl, Nat.max_le.2 ⟨hn, hn'⟩, rfl⟩

end

/-! ### Formulas that can be written -/

/-- Can the formula be written? Its columns contain no backtick, the functions it calls have plain names,
and its numbers are the values of literals. -/
inductive Expr.Writable : Expr → Prop where
  | number (n : Literal) : Writable (.number n.value)
  | string (s : String) : Writable (.string s)
  | bool (b : Bool) : Writable (.bool b)
  | column {name : String} (h : '\x60' ∉ name.toList) : Writable (.column name)
  | unary {e : Expr} (op : UnaryOp) (h : Writable e) : Writable (.unary op e)
  | binary {e e' : Expr} (op : BinaryOp) (h : Writable e) (h' : Writable e') : Writable (.binary op e e')
  | call {function : String} {args : List Expr} (h : IsPlainName function)
      (hargs : ∀ arg ∈ args, Writable arg) : Writable (.call function args)

mutual

/-- Whatever has a text can be written. -/
theorem Written.writable {n l : Nat} {e : Expr} {ts : List Token} (h : Written n l e ts)
    (hts : AllSpelled ts) : e.Writable := by
  match h with
  | .number x =>
    obtain ⟨⟨word, hword⟩, -⟩ := hts.of_cons
    cases hword with
    | number literal => exact .number literal
  | .string s => exact .string s
  | .bool b => exact .bool b
  | .column name =>
    obtain ⟨⟨word, hword⟩, -⟩ := hts.of_cons
    cases hword with
    | quotedName hname => exact .column hname
  | .unary op _ operand => exact .unary op (operand.writable hts.of_cons.2)
  | .binary op _ left right =>
    obtain ⟨hleft, hright⟩ := hts.of_append
    exact .binary op (left.writable hleft) (right.writable hright.of_cons.2)
  | .bareCall function =>
    obtain ⟨⟨word, hword⟩, -⟩ := hts.of_cons
    cases hword with
    | name hname => exact .call hname nofun
  | .call function args =>
    obtain ⟨⟨word, hword⟩, hrest⟩ := hts.of_cons
    cases hword with
    | name hname => exact .call hname (args.writable hrest.of_cons.2)
  | .group inner => exact inner.writable hts.of_cons.2.of_append.1

theorem WrittenArgs.writable {n : Nat} {es : List Expr} {ts : List Token} (h : WrittenArgs n es ts)
    (hts : AllSpelled ts) : ∀ e ∈ es, e.Writable := by
  match h with
  | .last arg => exact List.forall_mem_singleton.2 (arg.writable hts.of_append.1)
  | .more arg rest =>
    obtain ⟨harg, hrest⟩ := hts.of_append
    exact List.forall_mem_cons.2 ⟨arg.writable harg, rest.writable hrest.of_cons.2⟩

end

theorem Expr.nodes_le_nodesOfList {e : Expr} {es : List Expr} (h : e ∈ es) : e.nodes ≤ nodesOfList es := by
  induction es with
  | nil => cases h
  | cons e' es ih =>
    rw [nodesOfList]
    rcases List.mem_cons.1 h with rfl | h
    · omega
    · have := ih h
      omega

theorem exists_writtenArgs {n : Nat} {e : Expr} {es : List Expr}
    (h : ∀ arg ∈ e :: es, ∃ ts, Written n 0 arg ts ∧ AllSpelled ts) :
    ∃ ts, WrittenArgs n (e :: es) ts ∧ AllSpelled ts := by
  induction es generalizing e with
  | nil =>
    obtain ⟨ts, hwritten, hts⟩ := h e List.mem_cons_self
    exact ⟨_, .last hwritten, hts.snoc .closeParen⟩
  | cons e' es ih =>
    obtain ⟨⟨ts, hwritten, hts⟩, hrest⟩ := List.forall_mem_cons.1 h
    obtain ⟨more, hmore, hmorespelled⟩ := ih hrest
    exact ⟨_, .more hwritten hmore, hts.append (hmorespelled.cons .comma)⟩

/-- A formula that can be written has a text. With parentheses around every operator it nests at most
twice for each node. -/
theorem Expr.Writable.exists_written {e : Expr} (h : e.Writable) (n l : Nat) (hn : 2 * e.nodes ≤ n) :
    ∃ ts, Written n l e ts ∧ AllSpelled ts := by
  induction h generalizing n l with
  | number literal => exact ⟨_, .number _, AllSpelled.nil.cons (.number literal)⟩
  | string s =>
    obtain ⟨body, hbody⟩ := exists_escaped s.toList
    exact ⟨_, .string s, AllSpelled.nil.cons (.string (.inl rfl) hbody)⟩
  | bool b => exact ⟨_, .bool b, AllSpelled.nil.cons (.bool b)⟩
  | column hname => exact ⟨_, .column _, AllSpelled.nil.cons (.quotedName hname)⟩
  | unary op _ ih =>
    rw [nodes] at hn
    obtain ⟨m, rfl⟩ : ∃ m, n = m + 2 := ⟨n - 2, by omega⟩
    obtain ⟨ts, hwritten, hts⟩ := ih m unaryLevel (by omega)
    exact ⟨_, .group (.unary op (Nat.zero_le _) hwritten),
      ((hts.cons (.op op.operator)).snoc .closeParen).cons .openParen⟩
  | binary op _ _ ih ih' =>
    rw [nodes] at hn
    obtain ⟨m, rfl⟩ : ∃ m, n = m + 1 := ⟨n - 1, by omega⟩
    obtain ⟨ts, hwritten, hts⟩ := ih m op.level (by omega)
    obtain ⟨ts', hwritten', hts'⟩ := ih' m (op.level + 1) (by omega)
    exact ⟨_, .group (.binary op (Nat.zero_le _) hwritten hwritten'),
      ((hts.append (hts'.cons (.op op.operator))).snoc .closeParen).cons .openParen⟩
  | @call function args hname _ ih =>
    cases args with
    | nil =>
      exact ⟨_, .bareCall function,
        ((AllSpelled.nil.cons .closeParen).cons .openParen).cons (.name hname)⟩
    | cons arg args =>
      rw [nodes] at hn
      obtain ⟨m, rfl⟩ : ∃ m, n = m + 1 := ⟨n - 1, by omega⟩
      have hargs : ∀ a ∈ arg :: args, ∃ ts, Written m 0 a ts ∧ AllSpelled ts := by
        intro a ha
        have hnodes := nodes_le_nodesOfList ha
        exact ih a ha m 0 (by omega)
      obtain ⟨ts, hwritten, hts⟩ := exists_writtenArgs hargs
      exact ⟨_, .call function hwritten, (hts.cons .openParen).cons (.name hname)⟩

/-! ### Reading back -/

/-- **What is written is read back.** A text of a formula in which no primary stands inside of more than
255 unary operators, parentheses and calls is parsed as that formula, whatever quotes, escapes, blanks and
further parentheses it is written with. Every formula whose columns have no backtick, whose functions have
plain names and whose numbers are values of literals has a text, and no other formula has one. -/
theorem parse_written (e : Expr) :
    (∀ ts (text : String), Written 255 0 e ts → Spaced ts text.toList → parse text = .ok e) ∧
      (e.Writable → ∀ n, 2 * e.nodes ≤ n →
        ∃ ts, ∃ text : String, Written n 0 e ts ∧ Spaced ts text.toList) ∧
      ∀ n ts (text : String), Written n 0 e ts → Spaced ts text.toList → e.Writable := by
  refine ⟨?_, ?_, ?_⟩
  · intro ts text hwritten hspaced
    obtain ⟨placed, htokenize, hplaced⟩ := tokenize_of_spaced hspaced
    obtain ⟨t, htokens, hnesting, hexpr⟩ := hwritten.derived (Nat.zero_le _)
    apply parse_ok_iff.2
    refine ⟨placed, htokenize, ?_⟩
    exact parseTokens_ok_iff_derived.2 ⟨t, htokens.trans hplaced.symm, hnesting, hexpr⟩
  · intro h n hn
    obtain ⟨ts, hwritten, hts⟩ := h.exists_written n 0 hn
    obtain ⟨text, hspaced⟩ := hts.exists_spaced
    exact ⟨ts, text, hwritten, hspaced⟩
  · intro n ts text hwritten hspaced
    exact hwritten.writable hspaced.allSpelled

end Databook.Formula
