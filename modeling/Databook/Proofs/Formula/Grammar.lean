import Databook.Formula.Parser

/-!
# The grammar of formulas

A `Tree l` is a derivation of the grammar at the level `l`: the binary levels from 0 for `or` to 5 for
products, the unary operators, and the primaries. That a binary operator associates to the left is that
its left operand is of the operator's own level and its right operand of the next one. `Tree.tokens`
are the tokens that are derived, `Tree.expr` is the formula that they stand for, and `Tree.nesting` says
how many unary operators, parentheses and calls a primary stands inside of at most.

The grammar is unambiguous: no two derivations have the same tokens (`Tree.eq_of_tokens`). For this a
derivation at a binary level is seen as a first operand and the operators and operands behind it
(`Tree.exists_links`). Two such chains with the same tokens agree operand by operand, since no operand
can be followed by what it could go on with (`Follows`).
-/

namespace Databook.Formula

/-! ### Operators and atoms -/

/-- The level of a binary operator; those of higher levels bind more strongly. -/
def BinaryOp.level : BinaryOp → Nat
  | or => 0
  | and => 1
  | eq | ne => 2
  | lt | gt | le | ge => 3
  | add | sub => 4
  | mul | div | mod => 5

/-- The operator as it is written. -/
def BinaryOp.operator : BinaryOp → Operator
  | or => .or
  | and => .and
  | eq => .eq
  | ne => .ne
  | lt => .lt
  | gt => .gt
  | le => .le
  | ge => .ge
  | add => .plus
  | sub => .minus
  | mul => .star
  | div => .slash
  | mod => .percent

/-- The operator as it is written. -/
def UnaryOp.operator : UnaryOp → Operator
  | not => .not
  | neg => .minus

/-- The primaries of a single token. -/
inductive Atom where
  | number (x : Float)
  | string (s : String)
  | bool (b : Bool)
  | column (name : String)
  | quotedColumn (name : String)

namespace Atom

def token : Atom → Token
  | number x => .number x
  | string s => .string s
  | bool b => .bool b
  | column name => .name name
  | quotedColumn name => .quotedName name

def expr : Atom → Expr
  | number x => .number x
  | string s => .string s
  | bool b => .bool b
  | column name => .column name
  | quotedColumn name => .column name

theorem token_injective {a a' : Atom} (h : a.token = a'.token) : a = a' := by
  cases a <;> cases a' <;> cases h <;> rfl

end Atom

/-- The level of the primaries. -/
def primaryLevel : Nat := unaryLevel + 1

/-! ### Derivations -/

mutual

/-- A derivation of the grammar at a level. -/
inductive Tree : Nat → Type where
  /-- What is derived at the next level is derived at this one. -/
  | lift {l : Nat} (h : l < primaryLevel) (t : Tree (l + 1)) : Tree l
  | binary {l : Nat} (op : BinaryOp) (h : op.level = l) (left : Tree l) (right : Tree (l + 1)) : Tree l
  | unary {l : Nat} (op : UnaryOp) (h : l = unaryLevel) (operand : Tree l) : Tree l
  | atom {l : Nat} (a : Atom) (h : l = primaryLevel) : Tree l
  /-- A call without arguments. -/
  | bareCall {l : Nat} (function : String) (h : l = primaryLevel) : Tree l
  | call {l : Nat} (function : String) (args : Args) (h : l = primaryLevel) : Tree l
  /-- A formula in parentheses. -/
  | group {l : Nat} (t : Tree 0) (h : l = primaryLevel) : Tree l

/-- A derivation of one or more arguments. -/
inductive Args : Type where
  | last (t : Tree 0)
  | more (t : Tree 0) (rest : Args)

end

mutual

/-- The tokens that are derived. -/
def Tree.tokens : {l : Nat} → Tree l → List Token
  | _, .lift _ t => t.tokens
  | _, .binary op _ left right => left.tokens ++ .op op.operator :: right.tokens
  | _, .unary op _ operand => .op op.operator :: operand.tokens
  | _, .atom a _ => [a.token]
  | _, .bareCall function _ => [.name function, .openParen, .closeParen]
  | _, .call function args _ => .name function :: .openParen :: args.tokens
  | _, .group t _ => .openParen :: (t.tokens ++ [.closeParen])

/-- The tokens of arguments, with the parenthesis that closes them. -/
def Args.tokens : Args → List Token
  | .last t => t.tokens ++ [.closeParen]
  | .more t rest => t.tokens ++ .comma :: rest.tokens

end

mutual

/-- The formula that is derived. -/
def Tree.expr : {l : Nat} → Tree l → Expr
  | _, .lift _ t => t.expr
  | _, .binary op _ left right => .binary op left.expr right.expr
  | _, .unary op _ operand => .unary op operand.expr
  | _, .atom a _ => a.expr
  | _, .bareCall function _ => .call function []
  | _, .call function args _ => .call function args.exprs
  | _, .group t _ => t.expr

def Args.exprs : Args → List Expr
  | .last t => [t.expr]
  | .more t rest => t.expr :: rest.exprs

end

mutual

/-- The largest number of unary operators, parentheses and calls that a primary stands inside of. -/
def Tree.nesting : {l : Nat} → Tree l → Nat
  | _, .lift _ t => t.nesting
  | _, .binary _ _ left right => max left.nesting right.nesting
  | _, .unary _ _ operand => operand.nesting + 1
  | _, .atom _ _ => 0
  | _, .bareCall _ _ => 0
  | _, .call _ args _ => args.nesting + 1
  | _, .group t _ => t.nesting + 1

def Args.nesting : Args → Nat
  | .last t => t.nesting
  | .more t rest => max t.nesting rest.nesting

end

/-! ### What can follow -/

theorem BinaryOp.operator_injective {op op' : BinaryOp} (h : op.operator = op'.operator) : op = op' := by
  cases op <;> cases op' <;> first | rfl | cases h

theorem BinaryOp.level_lt (op : BinaryOp) : op.level < unaryLevel := by
  cases op <;> decide

/-- Can the tokens follow what is derived at a level, without being a part of it? They must not start
with an operator of that level or a higher one, nor with the parenthesis of a call. -/
def Follows (level : Nat) (rest : List Token) : Prop :=
  rest.head? ≠ some .openParen ∧
    ∀ op : BinaryOp, level ≤ op.level → rest.head? ≠ some (.op op.operator)

theorem Follows.mono {level level' : Nat} {rest : List Token} (h : Follows level rest)
    (hle : level ≤ level') : Follows level' rest :=
  ⟨h.1, fun op hop => h.2 op (Nat.le_trans hle hop)⟩

theorem follows_nil (level : Nat) : Follows level [] := ⟨nofun, fun _ _ => nofun⟩

theorem follows_closeParen (level : Nat) (rest : List Token) : Follows level (.closeParen :: rest) :=
  ⟨nofun, fun _ _ => nofun⟩

theorem follows_comma (level : Nat) (rest : List Token) : Follows level (.comma :: rest) :=
  ⟨nofun, fun _ _ => nofun⟩

/-- An operator of a level follows operands of the next one. -/
theorem follows_operator {op : BinaryOp} {level : Nat} (h : op.level < level) (rest : List Token) :
    Follows level (.op op.operator :: rest) := by
  refine ⟨nofun, fun op' hop' heq => ?_⟩
  injection heq with heq
  injection heq with heq
  cases BinaryOp.operator_injective heq
  omega

theorem Follows.not_operator {op : BinaryOp} {level : Nat} {rest : List Token}
    (h : Follows level (.op op.operator :: rest)) (hlevel : op.level = level) : False :=
  h.2 op (Nat.le_of_eq hlevel.symm) rfl

/-! ### First tokens -/

/-- Can a derivation at a level start with the token? -/
def Starts (level : Nat) (first : Token) : Prop :=
  first ≠ .closeParen ∧ (level = primaryLevel → ∀ op : UnaryOp, first ≠ .op op.operator)

theorem Tree.exists_first {l : Nat} (t : Tree l) : ∃ first rest, t.tokens = first :: rest ∧ Starts l first := by
  match l, t with
  | l, .lift h t =>
    obtain ⟨first, rest, htokens, hclose, -⟩ := t.exists_first
    exact ⟨first, rest, htokens, hclose, fun hl => absurd hl (Nat.ne_of_lt h)⟩
  | l, .binary op h left right =>
    obtain ⟨first, rest, htokens, hclose, -⟩ := left.exists_first
    refine ⟨first, rest ++ .op op.operator :: right.tokens, ?_, hclose, fun hl => ?_⟩
    · rw [Tree.tokens, htokens, List.cons_append]
    · have := op.level_lt
      unfold primaryLevel at hl
      omega
  | l, .unary op h operand =>
    refine ⟨.op op.operator, operand.tokens, rfl, nofun, fun hl => ?_⟩
    rw [h] at hl
    cases hl
  | l, .atom a h =>
    refine ⟨a.token, [], rfl, ?_, fun _ op => ?_⟩ <;> cases a <;> nofun
  | l, .bareCall function h => exact ⟨_, _, rfl, nofun, fun _ _ => nofun⟩
  | l, .call function args h => exact ⟨_, _, rfl, nofun, fun _ _ => nofun⟩
  | l, .group t h => exact ⟨_, _, rfl, nofun, fun _ _ => nofun⟩

theorem Args.exists_first (args : Args) :
    ∃ first rest, args.tokens = first :: rest ∧ first ≠ .closeParen := by
  cases args with
  | last t =>
    obtain ⟨first, rest, htokens, hclose, -⟩ := t.exists_first
    exact ⟨first, rest ++ [.closeParen], by rw [Args.tokens, htokens, List.cons_append], hclose⟩
  | more t args =>
    obtain ⟨first, rest, htokens, hclose, -⟩ := t.exists_first
    exact ⟨first, rest ++ .comma :: args.tokens, by rw [Args.tokens, htokens, List.cons_append], hclose⟩

/-- Arguments do not start with the parenthesis that closes a call without any. -/
theorem Args.head?_ne_closeParen (args : Args) (rest : List Token) :
    (args.tokens ++ rest).head? ≠ some .closeParen := by
  obtain ⟨first, more, hstart, hclose⟩ := args.exists_first
  rw [hstart]
  intro heq
  exact hclose (Option.some.inj heq)

/-! ### Chains of operators -/

/-- An operator of a level with its right operand. -/
structure Link (l : Nat) where
  op : BinaryOp
  level_eq : op.level = l
  operand : Tree (l + 1)

namespace Link

variable {l : Nat}

def tokens (k : Link l) : List Token := .op k.op.operator :: k.operand.tokens

/-- The tokens of a chain follow its first operand. -/
theorem follows (links : List (Link l)) {rest : List Token} (h : Follows l rest) :
    Follows (l + 1) (links.flatMap tokens ++ rest) := by
  cases links with
  | nil => exact h.mono (Nat.le_succ l)
  | cons k links => exact follows_operator (by rw [k.level_eq]; exact Nat.lt_succ_self l) _

/-- What cannot go on with an operator of the level starts with no link. -/
theorem eq_nil_of_follows {links : List (Link l)} {rest : List Token}
    (h : Follows l (links.flatMap tokens ++ rest)) : links = [] := by
  cases links with
  | nil => rfl
  | cons k links =>
    exact (h.not_operator k.level_eq).elim

end Link

namespace Tree

variable {l : Nat}

/-- A derivation with operators of its level and their operands put behind it. -/
def chain (t : Tree l) (links : List (Link l)) : Tree l :=
  links.foldl (fun left k => .binary k.op k.level_eq left k.operand) t

theorem tokens_chain (t : Tree l) (links : List (Link l)) :
    (t.chain links).tokens = t.tokens ++ links.flatMap Link.tokens := by
  unfold chain
  induction links generalizing t with
  | nil => simp
  | cons k links ih => simp [ih, Tree.tokens, Link.tokens]

/-- At a binary level, a derivation is a first operand with operators and operands behind it. -/
theorem exists_links (hl : l < unaryLevel) (t : Tree l) :
    ∃ (h : l < primaryLevel) (first : Tree (l + 1)) (links : List (Link l)),
      t = (Tree.lift h first).chain links := by
  match t with
  | .lift h first => exact ⟨h, first, [], rfl⟩
  | .binary op h left right =>
    obtain ⟨hl, first, links, rfl⟩ := exists_links hl left
    refine ⟨hl, first, links ++ [⟨op, h, right⟩], ?_⟩
    unfold chain
    rw [List.foldl_append]
    rfl
  | .unary op h operand => exact absurd h (Nat.ne_of_lt hl)
  | .atom a h | .bareCall function h | .call function args h | .group t h =>
    subst h
    exact absurd hl (by decide)

/-- There are no links at the levels of unary operators and primaries. -/
theorem eq_nil_of_unaryLevel_le (hl : unaryLevel ≤ l) (links : List (Link l)) : links = [] := by
  cases links with
  | nil => rfl
  | cons k links =>
    have := k.op.level_lt
    have := k.level_eq
    omega

/-- At the level of unary operators there are these and primaries. -/
theorem unary_or_lift (hl : l = unaryLevel) (t : Tree l) :
    (∃ op operand, t = .unary op hl operand) ∨ ∃ h first, t = .lift h first := by
  cases t with
  | unary op h operand => exact .inl ⟨op, operand, rfl⟩
  | lift h first => exact .inr ⟨h, first, rfl⟩
  | binary op h left right => exact absurd (h.trans hl) (Nat.ne_of_lt op.level_lt)
  | atom a h | bareCall function h | call function args h | group t h =>
    exact absurd (hl.symm.trans h) (by decide)

/-- At the level of primaries there is nothing else. -/
theorem primary_cases (hl : l = primaryLevel) (t : Tree l) :
    (∃ a, t = .atom a hl) ∨ (∃ function, t = .bareCall function hl) ∨
      (∃ function args, t = .call function args hl) ∨ ∃ inner, t = .group inner hl := by
  cases t with
  | atom a h => exact .inl ⟨a, rfl⟩
  | bareCall function h => exact .inr (.inl ⟨function, rfl⟩)
  | call function args h => exact .inr (.inr (.inl ⟨function, args, rfl⟩))
  | group inner h => exact .inr (.inr (.inr ⟨inner, rfl⟩))
  | lift h first => exact absurd hl (Nat.ne_of_lt h)
  | unary op h operand => exact absurd (h.symm.trans hl) (by decide)
  | binary op h left right =>
    have := op.level_lt
    unfold primaryLevel at hl
    omega

/-- If an operator of the level cannot follow the first of two such derivations either, there is none
between their ends. -/
theorem eq_of_chain {t t' : Tree l} {rest rest' : List Token} (h : Follows l rest)
    (hchain : ∃ links, t' = t.chain links ∧ rest = links.flatMap Link.tokens ++ rest') :
    t = t' ∧ rest = rest' := by
  obtain ⟨links, rfl, hrest⟩ := hchain
  cases Link.eq_nil_of_follows (hrest ▸ h)
  exact ⟨rfl, hrest⟩

end Tree

theorem UnaryOp.operator_injective {op op' : UnaryOp} (h : op.operator = op'.operator) : op = op' := by
  cases op <;> cases op' <;> first | rfl | cases h

mutual

/-- **Left factors.** Two derivations at a level, in front of tokens that can follow them, of which the
second is followed by no further operator of the level: the second is the first with the operators
and operands that stand between the ends of the two. -/
theorem Tree.exists_chain {l : Nat} (t t' : Tree l) {rest rest' : List Token}
    (h : Follows (l + 1) rest) (h' : Follows l rest') (htokens : t.tokens ++ rest = t'.tokens ++ rest') :
    ∃ links, t' = t.chain links ∧ rest = links.flatMap Link.tokens ++ rest' := by
  match t with
  | .lift hl first =>
    have hfirst := first.exists_chain
    by_cases hlevel : l < unaryLevel
    · -- the operand ends where the chain of operators begins
      obtain ⟨hl', first', links, rfl⟩ := t'.exists_links hlevel
      rw [Tree.tokens_chain, List.append_assoc] at htokens
      obtain ⟨rfl, hrest⟩ := Tree.eq_of_chain h
        (hfirst first' (h.mono (Nat.le_succ _)) (Link.follows links h') htokens)
      exact ⟨links, rfl, hrest⟩
    · have hl' : l = unaryLevel := by unfold primaryLevel at hl; omega
      rcases t'.unary_or_lift hl' with ⟨op, operand, rfl⟩ | ⟨hl₂, first', rfl⟩
      · -- a primary does not start with a unary operator
        obtain ⟨token, more, hstart, -, hunary⟩ := first.exists_first
        rw [Tree.tokens, hstart] at htokens
        injection htokens with htoken
        exact absurd htoken (hunary (congrArg (· + 1) hl') op)
      · obtain ⟨rfl, rfl⟩ := Tree.eq_of_chain h
          (hfirst first' (h.mono (Nat.le_succ _)) (h'.mono (Nat.le_succ _)) htokens)
        exact ⟨[], rfl, rfl⟩
  | .binary op hop left right =>
    have hsplit : left.tokens ++ (.op op.operator :: (right.tokens ++ rest)) = t'.tokens ++ rest' := by
      simpa [Tree.tokens] using htokens
    -- the second derivation goes on behind the left operand, at the latest with this operator
    obtain ⟨links, rfl, hrest⟩ := left.exists_chain t'
      (follows_operator (Nat.lt_succ_of_le (Nat.le_of_eq hop)) _) h' hsplit
    cases links with
    | nil =>
      cases hrest
      exact (h'.not_operator hop).elim
    | cons k links =>
      rw [List.flatMap_cons, Link.tokens, List.append_assoc, List.cons_append] at hrest
      injection hrest with hop' hrest
      injection hop' with hop'
      obtain ⟨rfl, hlater⟩ := Tree.eq_of_chain h
        (right.exists_chain k.operand (h.mono (Nat.le_succ _)) (Link.follows links h') hrest)
      obtain rfl : op = k.op := BinaryOp.operator_injective hop'
      exact ⟨links, rfl, hlater⟩
  | .unary op hl operand =>
    rcases t'.unary_or_lift hl with ⟨op', operand', rfl⟩ | ⟨hl', first', rfl⟩
    · injection htokens with hop htokens
      injection hop with hop
      cases UnaryOp.operator_injective hop
      obtain ⟨links, rfl, hrest⟩ := operand.exists_chain operand' h h' htokens
      cases Tree.eq_nil_of_unaryLevel_le (Nat.le_of_eq hl.symm) links
      exact ⟨[], rfl, hrest⟩
    · obtain ⟨token, more, hstart, -, hunary⟩ := first'.exists_first
      rw [Tree.tokens, Tree.tokens, hstart] at htokens
      injection htokens with htoken
      exact absurd htoken.symm (hunary (congrArg (· + 1) hl) op)
  | .atom a hl =>
    rcases t'.primary_cases hl with ⟨a', rfl⟩ | ⟨function, rfl⟩ | ⟨function, args, rfl⟩ | ⟨inner, rfl⟩
    · injection htokens with htoken hrest
      cases Atom.token_injective htoken
      exact ⟨[], rfl, hrest⟩
    · -- a name with an opening parenthesis behind it is no column
      injection htokens with htoken hrest
      exact absurd (congrArg List.head? hrest) h.1
    · injection htokens with htoken hrest
      exact absurd (congrArg List.head? hrest) h.1
    · injection htokens with htoken hrest
      cases a <;> cases htoken
  | .bareCall function hl =>
    rcases t'.primary_cases hl with ⟨a', rfl⟩ | ⟨function', rfl⟩ | ⟨function', args, rfl⟩ | ⟨inner, rfl⟩
    · injection htokens with htoken hrest
      exact absurd (congrArg List.head? hrest.symm) h'.1
    · cases htokens
      exact ⟨[], rfl, rfl⟩
    · injection htokens with hfunction htokens
      injection htokens with hopen htokens
      exact absurd (congrArg List.head? htokens.symm) (args.head?_ne_closeParen rest')
    · cases htokens
  | .call function args hl =>
    rcases t'.primary_cases hl with ⟨a', rfl⟩ | ⟨function', rfl⟩ | ⟨function', args', rfl⟩ | ⟨inner, rfl⟩
    · injection htokens with htoken hrest
      exact absurd (congrArg List.head? hrest.symm) h'.1
    · injection htokens with hfunction htokens
      injection htokens with hopen htokens
      exact absurd (congrArg List.head? htokens) (args.head?_ne_closeParen rest)
    · injection htokens with hfunction htokens
      cases hfunction
      injection htokens with hopen htokens
      obtain ⟨rfl, rfl⟩ := args.eq_of_tokens args' htokens
      exact ⟨[], rfl, rfl⟩
    · cases htokens
  | .group inner hl =>
    rcases t'.primary_cases hl with ⟨a', rfl⟩ | ⟨function', rfl⟩ | ⟨function', args', rfl⟩ | ⟨inner', rfl⟩
    · injection htokens with htoken hrest
      cases a' <;> cases htoken
    · cases htokens
    · cases htokens
    · have hinner : inner.tokens ++ (.closeParen :: rest) = inner'.tokens ++ (.closeParen :: rest') := by
        simpa [Tree.tokens] using htokens
      obtain ⟨rfl, hrest⟩ := Tree.eq_of_chain (follows_closeParen 0 rest)
        (inner.exists_chain inner' (follows_closeParen _ _) (follows_closeParen _ _) hinner)
      cases hrest
      exact ⟨[], rfl, rfl⟩

theorem Args.eq_of_tokens (args args' : Args) {rest rest' : List Token}
    (htokens : args.tokens ++ rest = args'.tokens ++ rest') : args = args' ∧ rest = rest' := by
  match args, args' with
  | .last t, .last t' =>
    have hlast : t.tokens ++ (.closeParen :: rest) = t'.tokens ++ (.closeParen :: rest') := by
      simpa [Args.tokens] using htokens
    obtain ⟨rfl, hrest⟩ := Tree.eq_of_chain (follows_closeParen 0 rest)
      (t.exists_chain t' (follows_closeParen _ _) (follows_closeParen _ _) hlast)
    cases hrest
    exact ⟨rfl, rfl⟩
  | .last t, .more t' args' =>
    have hlast : t.tokens ++ (.closeParen :: rest) = t'.tokens ++ (.comma :: (args'.tokens ++ rest')) := by
      simpa [Args.tokens] using htokens
    have hrest := (Tree.eq_of_chain (follows_closeParen 0 rest)
      (t.exists_chain t' (follows_closeParen _ _) (follows_comma _ _) hlast)).2
    cases hrest
  | .more t args, .last t' =>
    have hlast : t.tokens ++ (.comma :: (args.tokens ++ rest)) = t'.tokens ++ (.closeParen :: rest') := by
      simpa [Args.tokens] using htokens
    have hrest := (Tree.eq_of_chain (follows_comma 0 _)
      (t.exists_chain t' (follows_comma _ _) (follows_closeParen _ _) hlast)).2
    cases hrest
  | .more t args, .more t' args' =>
    have hmore : t.tokens ++ (.comma :: (args.tokens ++ rest))
        = t'.tokens ++ (.comma :: (args'.tokens ++ rest')) := by
      simpa [Args.tokens] using htokens
    obtain ⟨rfl, hrest⟩ := Tree.eq_of_chain (follows_comma 0 _)
      (t.exists_chain t' (follows_comma _ _) (follows_comma _ _) hmore)
    injection hrest with hcomma hrest
    obtain ⟨rfl, rfl⟩ := args.eq_of_tokens args' hrest
    exact ⟨rfl, rfl⟩

end

/-- **The grammar is unambiguous.** No two derivations have the same tokens. -/
theorem Tree.eq_of_tokens {l : Nat} {t t' : Tree l} (h : t.tokens = t'.tokens) : t = t' :=
  (Tree.eq_of_chain (follows_nil l)
    (t.exists_chain t' (follows_nil _) (follows_nil _) (congrArg (· ++ []) h))).1

/-! ### Depth of nodes -/

/-- The formula has a node that stands inside of a number of unary operators and calls. -/
inductive Expr.HasNode : Expr → Expr → Nat → Prop where
  | self (e : Expr) : HasNode e e 0
  | operand {op : UnaryOp} {e n : Expr} {k : Nat} (h : HasNode e n k) : HasNode (.unary op e) n (k + 1)
  | left {op : BinaryOp} {l r n : Expr} {k : Nat} (h : HasNode l n k) : HasNode (.binary op l r) n k
  | right {op : BinaryOp} {l r n : Expr} {k : Nat} (h : HasNode r n k) : HasNode (.binary op l r) n k
  | argument {function : String} {args : List Expr} {e n : Expr} {k : Nat} (he : e ∈ args)
      (h : HasNode e n k) : HasNode (.call function args) n (k + 1)

mutual

/-- Unary operators and calls around a node are around a primary in it. -/
theorem Tree.le_nesting_of_hasNode {l : Nat} (t : Tree l) {n : Expr} {k : Nat}
    (h : t.expr.HasNode n k) : k ≤ t.nesting := by
  match t with
  | .lift _ t => exact t.le_nesting_of_hasNode h
  | .group t _ => exact Nat.le_succ_of_le (t.le_nesting_of_hasNode h)
  | .binary op _ left right =>
    cases h with
    | self => exact Nat.zero_le _
    | left h => exact Nat.le_trans (left.le_nesting_of_hasNode h) (Nat.le_max_left _ _)
    | right h => exact Nat.le_trans (right.le_nesting_of_hasNode h) (Nat.le_max_right _ _)
  | .unary op _ operand =>
    cases h with
    | self => exact Nat.zero_le _
    | operand h => exact Nat.succ_le_succ (operand.le_nesting_of_hasNode h)
  | .atom a _ => cases a <;> cases h <;> exact Nat.zero_le _
  | .bareCall function _ =>
    cases h with
    | self => exact Nat.zero_le _
    | argument he h => cases he
  | .call function args _ =>
    cases h with
    | self => exact Nat.zero_le _
    | argument he h => exact Nat.succ_le_succ (args.le_nesting_of_hasNode he h)

theorem Args.le_nesting_of_hasNode (args : Args) {e n : Expr} {k : Nat} (he : e ∈ args.exprs)
    (h : e.HasNode n k) : k ≤ args.nesting := by
  match args with
  | .last t =>
    cases List.mem_singleton.1 he
    exact t.le_nesting_of_hasNode h
  | .more t rest =>
    rcases List.mem_cons.1 he with rfl | he
    · exact Nat.le_trans (t.le_nesting_of_hasNode h) (Nat.le_max_left _ _)
    · exact Nat.le_trans (rest.le_nesting_of_hasNode he h) (Nat.le_max_right _ _)

end

/-! ### Long chains -/

namespace Tree

/-- What is derived at a level is derived at all lower ones. -/
theorem exists_lift {l m : Nat} (hlm : l ≤ m) (hm : m ≤ primaryLevel) (t : Tree m) :
    ∃ t' : Tree l, t'.tokens = t.tokens ∧ t'.nesting = t.nesting ∧ t'.expr = t.expr := by
  induction hlm with
  | refl => exact ⟨t, rfl, rfl, rfl⟩
  | step _ ih => exact ih (Nat.le_of_succ_le hm) (.lift hm t)

/-- An operator and an operand can be put behind a derivation at the operator's level or a lower one.
They end up at the right edge of the tree, where the operators of lower levels leave their last
operand. -/
theorem exists_snoc {l : Nat} (t : Tree l) (op : BinaryOp) (hl : l ≤ op.level)
    (operand : Tree unaryLevel) :
    ∃ t' : Tree l, t'.tokens = t.tokens ++ .op op.operator :: operand.tokens ∧
      t'.nesting = max t.nesting operand.nesting := by
  by_cases hop : op.level = l
  · obtain ⟨right, htokens, hnesting, -⟩ := exists_lift (l := l + 1)
      (hop ▸ Nat.succ_le_of_lt op.level_lt) (Nat.le_succ _) operand
    exact ⟨.binary op hop t right, by rw [tokens, htokens], by rw [nesting, hnesting]⟩
  · have hlt : l + 1 ≤ op.level := by omega
    match t with
    | .lift h first =>
      obtain ⟨first', htokens, hnesting⟩ := first.exists_snoc op hlt operand
      exact ⟨.lift h first', htokens, hnesting⟩
    | .binary op' h left right =>
      obtain ⟨right', htokens, hnesting⟩ := right.exists_snoc op hlt operand
      refine ⟨.binary op' h left right', ?_, ?_⟩
      · rw [tokens, htokens, tokens, List.append_assoc, List.cons_append]
      · rw [nesting, hnesting, nesting, Nat.max_assoc]
    | .unary _ h _ | .atom _ h | .bareCall _ h | .call _ _ h | .group _ h =>
      have := op.level_lt
      unfold primaryLevel at *
      omega

/-- The tokens of operators with their right operands. -/
def tailTokens (operands : List (BinaryOp × Tree unaryLevel)) : List Token :=
  operands.flatMap fun (op, operand) => .op op.operator :: operand.tokens

/-- Operands with operators of any levels between them are derived, however many they are. -/
theorem exists_of_operands (t : Tree 0) (operands : List (BinaryOp × Tree unaryLevel)) {bound : Nat}
    (ht : t.nesting ≤ bound) (hoperands : ∀ operand ∈ operands, operand.2.nesting ≤ bound) :
    ∃ t' : Tree 0, t'.tokens = t.tokens ++ tailTokens operands ∧ t'.nesting ≤ bound := by
  induction operands generalizing t with
  | nil => exact ⟨t, (List.append_nil _).symm, ht⟩
  | cons operand operands ih =>
    obtain ⟨hoperand, hoperands⟩ := List.forall_mem_cons.1 hoperands
    obtain ⟨t₁, htokens₁, hnesting₁⟩ := t.exists_snoc operand.1 (Nat.zero_le _) operand.2
    obtain ⟨t₂, htokens₂, hnesting₂⟩ := ih t₁ (by rw [hnesting₁]; exact Nat.max_le.2 ⟨ht, hoperand⟩)
      hoperands
    refine ⟨t₂, ?_, hnesting₂⟩
    rw [htokens₂, htokens₁, List.append_assoc]
    rfl

end Tree

end Databook.Formula
