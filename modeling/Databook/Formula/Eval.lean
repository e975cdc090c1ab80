import Databook.Formula.Expr
import Databook.Formula.Function

/-!
# Evaluating formulas

`Expr.eval` is the value of a formula in a `Context`, which holds the values of the columns by their
names. Columns are read flat, so a value is never a list. `&&`, `||` and `if` evaluate what they need
and no more; all other operands are evaluated from left to right, and the first error is the error of
the formula.
-/

namespace Databook.Formula

open Calendar

/-- The values of the columns of a row, by column name. -/
abbrev Context := IdMap Cell

/-- Equal as formulas see it: the same value, or the same text. -/
def looselyEqual (l r : Cell) : Bool := l == r || l.display == r.display

/-- The value of a binary operator for the values of its operands. `and` and `or` are listed for
completeness; `eval` does not come here with them. -/
def BinaryOp.apply (op : BinaryOp) (l r : Cell) : Except EvalError Cell :=
  match op with
  | and => .ok (.bool (l.isTruthy && r.isTruthy))
  | or => .ok (.bool (l.isTruthy || r.isTruthy))
  | add =>
    if l.isText || r.isText then .ok (.text (l.display ++ r.display))
    else .ok (.number (l.toNumber + r.toNumber))
  | sub => .ok (.number (l.toNumber - r.toNumber))
  | mul => .ok (.number (l.toNumber * r.toNumber))
  | div =>
    if r.toNumber == 0 then .error .divisionByZero
    else .ok (.number (l.toNumber / r.toNumber))
  | mod =>
    if r.toNumber == 0 then .error .divisionByZero
    else .ok (.number (Decimal.remainder l.toNumber r.toNumber))
  | eq => .ok (.bool (looselyEqual l r))
  | ne => .ok (.bool !(looselyEqual l r))
  | lt => .ok (.bool (l.toNumber < r.toNumber))
  | gt => .ok (.bool (r.toNumber < l.toNumber))
  | le => .ok (.bool (l.toNumber ≤ r.toNumber))
  | ge => .ok (.bool (r.toNumber ≤ l.toNumber))

def UnaryOp.apply (op : UnaryOp) (c : Cell) : Cell :=
  match op with
  | not => .bool !c.isTruthy
  | neg => .number (-c.toNumber)

/-- The value of a column. -/
def Context.column (context : Context) (name : String) : Except EvalError Cell :=
  match context.get? name with
  | some c => .ok c.flatten
  | none => .error (.unknownColumn name)

mutual

/-- The value of a formula on a day. -/
def Expr.eval (today : Date) (context : Context) : Expr → Except EvalError Cell
  | .number x => .ok (.number x)
  | .string s => .ok (.text s)
  | .bool b => .ok (.bool b)
  | .column name => Context.column context name
  | .unary op e => do return op.apply (← e.eval today context)
  | .binary .and l r => do
    if (← l.eval today context).isTruthy then
      return .bool (← r.eval today context).isTruthy
    else return .bool false
  | .binary .or l r => do
    if (← l.eval today context).isTruthy then return .bool true
    else return .bool (← r.eval today context).isTruthy
  | .binary op l r => do
    let left ← l.eval today context
    let right ← r.eval today context
    op.apply left right
  | .call name args =>
    match Function.named? name with
    | none => .error (.unknownFunction name)
    | some f =>
      if !f.arity.allows args.length then .error (.wrongArity name f.arity args.length)
      else match f, args with
        | .cond, [condition, yes] => do
          if (← condition.eval today context).isTruthy then yes.eval today context
          else return .null
        | .cond, [condition, yes, no] => do
          if (← condition.eval today context).isTruthy then yes.eval today context
          else no.eval today context
        | f, args => do f.apply today name (← evalList today context args)

/-- The values of a list of formulas. -/
def evalList (today : Date) (context : Context) : List Expr → Except EvalError (List Cell)
  | [] => .ok []
  | e :: es => do
    let value ← e.eval today context
    return value :: (← evalList today context es)

end

end Databook.Formula
