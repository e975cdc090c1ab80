import Databook.Formula.Lexer
import Databook.Formula.Expr

/-!
# Parsing formulas

The grammar has one level per strength of binding, the weakest first:

    or  <  and  <  equality  <  comparison  <  sum  <  product  <  unary  <  primary

Operators of the first six levels associate to the left. A primary is a literal, a column, a call or
a formula in parentheses. No primary may stand inside more than 255 unary operators, parentheses and
calls.

`parseLevel` reads an operand of a level and hands the loop over its operators to `parseChain`. All
parts of the parser recurse on the tokens that are left, and on the level where none is taken; each
returns its rest together with the proof that it is shorter.
-/

namespace Databook.Formula

/-- Why a list of tokens is no formula. -/
inductive ParseError where
  | unexpectedToken (t : Token)
  | unexpectedEnd
  | expectedClose (found : Option Token)
  | expectedArgumentEnd (found : Option Token)
  | tooDeep
deriving BEq, Inhabited

def ParseError.message : ParseError → String
  | unexpectedToken t => "Unexpected token '" ++ t.display ++ "'"
  | unexpectedEnd => "Unexpected end of expression"
  | expectedClose none => "Expected ')'"
  | expectedClose (some t) => "Expected ')' but found '" ++ t.display ++ "'"
  | expectedArgumentEnd none => "Expected ')' to close argument list"
  | expectedArgumentEnd (some t) => "Expected ',' or ')' but found '" ++ t.display ++ "'"
  | tooDeep => "Expression nested too deeply"

/-- The depth at which nesting ends: a primary may stand inside fewer unary operators, parentheses
and calls than this. -/
def maxDepth : Nat := 256

/-- The level of the unary operators, above those of the binary ones. -/
def unaryLevel : Nat := 6

/-- The operators of a binary level. -/
def BinaryOp.ofOperator? : Nat → Operator → Option BinaryOp
  | 0, .or => some .or
  | 1, .and => some .and
  | 2, .eq => some .eq
  | 2, .ne => some .ne
  | 3, .lt => some .lt
  | 3, .gt => some .gt
  | 3, .le => some .le
  | 3, .ge => some .ge
  | 4, .plus => some .add
  | 4, .minus => some .sub
  | 5, .star => some .mul
  | 5, .slash => some .div
  | 5, .percent => some .mod
  | _, _ => none

/-- The operator of a binary level that a list of tokens starts with. -/
def chainOperator? (level : Nat) : List Placed → Option BinaryOp
  | ⟨.op o, _⟩ :: _ => BinaryOp.ofOperator? level o
  | _ => none

/-- Where an error at the next token is reported: at the token, or at the end of the input. -/
def nextPosition (stop : Nat) : List Placed → Nat
  | t :: _ => t.position
  | [] => stop

/-- A result with tokens left over, fewer than there were. -/
abbrev Parsed (α : Type) (ts : List Placed) :=
  Except (ParseError × Nat) (α × { rest : List Placed // rest.length < ts.length })

/-- A result with tokens left over, possibly as many as there were. -/
abbrev ParsedChain (ts : List Placed) :=
  Except (ParseError × Nat) (Expr × { rest : List Placed // rest.length ≤ ts.length })

/-- Read the parenthesis that closes a formula. -/
def readClose (stop : Nat) (ts : List Placed) :
    Except (ParseError × Nat) { rest : List Placed // rest.length < ts.length } :=
  match ts with
  | [] => .error (.expectedClose none, stop)
  | t :: rest =>
    if t.token == .closeParen then .ok ⟨rest, by simp⟩
    else .error (.expectedClose (some t.token), t.position)

/-- Read what follows an argument: a comma, in front of a further argument, or the parenthesis that
closes the list. -/
def readArgumentEnd (stop : Nat) (ts : List Placed) :
    Except (ParseError × Nat) (Bool × { rest : List Placed // rest.length < ts.length }) :=
  match ts with
  | [] => .error (.expectedArgumentEnd none, stop)
  | t :: rest =>
    if t.token == .comma then .ok (true, ⟨rest, by simp⟩)
    else if t.token == .closeParen then .ok (false, ⟨rest, by simp⟩)
    else .error (.expectedArgumentEnd (some t.token), t.position)

/-- The operator of a unary formula. -/
def UnaryOp.ofToken? : Token → Option UnaryOp
  | .op .not => some .not
  | .op .minus => some .neg
  | _ => none

/-- The tokens behind a given one that a list starts with. -/
def after? (t : Token) (ts : List Placed) : Option { rest : List Placed // rest.length < ts.length } :=
  match ts with
  | [] => none
  | t' :: rest => if t'.token == t then some ⟨rest, by simp⟩ else none

mutual

/-- Read an operand of a level and the chain of that level's operators behind it. -/
def parseLevel (stop depth level : Nat) (ts : List Placed) : Parsed Expr ts :=
  if level < unaryLevel then
    match parseLevel stop depth (level + 1) ts with
    | .error e => .error e
    | .ok (left, ⟨rest, hrest⟩) =>
      match parseChain stop depth level left rest with
      | .error e => .error e
      | .ok (e, ⟨rest', hrest'⟩) => .ok (e, ⟨rest', by omega⟩)
  else parseUnary stop depth ts
termination_by (ts.length, 3 + (unaryLevel - level))

/-- Read operators of a level and their right operands, with `left` in front of them. -/
def parseChain (stop depth level : Nat) (left : Expr) (ts : List Placed) : ParsedChain ts :=
  match ts with
  | [] => .ok (left, ⟨[], by simp⟩)
  | t :: ts =>
    match chainOperator? level (t :: ts) with
    | none => .ok (left, ⟨t :: ts, by simp⟩)
    | some op =>
      match parseLevel stop depth (level + 1) ts with
      | .error e => .error e
      | .ok (right, ⟨rest, hrest⟩) =>
        match parseChain stop depth level (.binary op left right) rest with
        | .error e => .error e
        | .ok (e, ⟨rest', hrest'⟩) =>
          .ok (e, ⟨rest', by simp only [List.length_cons]; omega⟩)
termination_by (ts.length, 0)
decreasing_by
  all_goals simp_wf
  · exact .left _ _ (by omega)
  · exact .left _ _ (by omega)

/-- Read unary operators and the primary behind them. -/
def parseUnary (stop depth : Nat) (ts : List Placed) : Parsed Expr ts :=
  if maxDepth ≤ depth then .error (.tooDeep, nextPosition stop ts)
  else match ts with
    | [] => .error (.unexpectedEnd, stop)
    | t :: ts =>
      match UnaryOp.ofToken? t.token with
      | none => parsePrimary stop (depth + 1) t ts
      | some op =>
        match parseUnary stop (depth + 1) ts with
        | .error e => .error e
        | .ok (e, ⟨rest, hrest⟩) =>
          .ok (.unary op e, ⟨rest, by simp only [List.length_cons]; omega⟩)
termination_by (ts.length, 2)

/-- Read a literal, a column, a call or a formula in parentheses that starts with the token `t`. -/
def parsePrimary (stop depth : Nat) (t : Placed) (ts : List Placed) : Parsed Expr (t :: ts) :=
  match t.token with
  | .number x => .ok (.number x, ⟨ts, by simp⟩)
  | .string s => .ok (.string s, ⟨ts, by simp⟩)
  | .bool b => .ok (.bool b, ⟨ts, by simp⟩)
  | .quotedName s => .ok (.column s, ⟨ts, by simp⟩)
  | .name s =>
    match after? .openParen ts with
    | none => .ok (.column s, ⟨ts, by simp⟩)
    | some ⟨inside, hinside⟩ =>
      match parseArgs stop depth inside with
      | .error e => .error e
      | .ok (args, ⟨rest, hrest⟩) =>
        .ok (.call s args, ⟨rest, by simp only [List.length_cons]; omega⟩)
  | .openParen =>
    match parseLevel stop depth 0 ts with
    | .error e => .error e
    | .ok (e, ⟨rest, hrest⟩) =>
      match readClose stop rest with
      | .error e => .error e
      | .ok ⟨rest', hrest'⟩ => .ok (e, ⟨rest', by simp only [List.length_cons]; omega⟩)
  | other => .error (.unexpectedToken other, t.position)
termination_by (ts.length + 1, 1)

/-- Read the arguments of a call, up to the parenthesis that closes them. -/
def parseArgs (stop depth : Nat) (ts : List Placed) : Parsed (List Expr) ts :=
  match after? .closeParen ts with
  | some rest => .ok ([], rest)
  | none => parseArgList stop depth ts
termination_by (ts.length, 5 + unaryLevel)

/-- Read one or more arguments, up to the parenthesis that closes them. -/
def parseArgList (stop depth : Nat) (ts : List Placed) : Parsed (List Expr) ts :=
  match parseLevel stop depth 0 ts with
  | .error e => .error e
  | .ok (arg, ⟨rest, hrest⟩) =>
    match readArgumentEnd stop rest with
    | .error e => .error e
    | .ok (false, ⟨rest', hrest'⟩) => .ok ([arg], ⟨rest', by omega⟩)
    | .ok (true, ⟨rest', hrest'⟩) =>
      match parseArgList stop depth rest' with
      | .error e => .error e
      | .ok (args, ⟨rest'', hrest''⟩) => .ok (arg :: args, ⟨rest'', by omega⟩)
termination_by (ts.length, 4 + unaryLevel)

end

/-- Why a text is no formula, and where. -/
inductive SyntaxError where
  | lexical (e : LexError) (position : Nat)
  | grammatical (e : ParseError) (position : Nat)
deriving BEq, Inhabited

/-- The formula of a list of tokens that ends with an input of `stop` characters. -/
def parseTokens (stop : Nat) (ts : List Placed) : Except (ParseError × Nat) Expr :=
  match parseLevel stop 0 0 ts with
  | .error e => .error e
  | .ok (e, ⟨[], _⟩) => .ok e
  | .ok (_, ⟨t :: _, _⟩) => .error (.unexpectedToken t.token, t.position)

/-- The formula that a text stands for. -/
def parse (input : String) : Except SyntaxError Expr :=
  match tokenize input with
  | .error (e, position) => .error (.lexical e position)
  | .ok ts =>
    match parseTokens input.length ts with
    | .error (e, position) => .error (.grammatical e position)
    | .ok e => .ok e

end Databook.Formula
