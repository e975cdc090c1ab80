import Databook.Formula.Token

/-!
# Formula expressions

The syntax tree of a formula. A name in it is a column of the row that the formula is evaluated for,
or, in a call, a function.
-/

namespace Databook.Formula

inductive UnaryOp where
  | not | neg
deriving DecidableEq, Inhabited

inductive BinaryOp where
  | or | and | eq | ne | lt | gt | le | ge | add | sub | mul | div | mod
deriving DecidableEq, Inhabited

/-- A formula. -/
inductive Expr where
  | number (x : Float)
  | string (s : String)
  | bool (b : Bool)
  | column (name : String)
  | unary (op : UnaryOp) (operand : Expr)
  | binary (op : BinaryOp) (left right : Expr)
  | call (function : String) (args : List Expr)
deriving Inhabited

namespace Expr

mutual

/-- The number of nodes of the tree. -/
def nodes : Expr → Nat
  | number _ | string _ | bool _ | column _ => 1
  | unary _ e => e.nodes + 1
  | binary _ l r => l.nodes + r.nodes + 1
  | call _ args => nodesOfList args + 1

def nodesOfList : List Expr → Nat
  | [] => 0
  | e :: es => e.nodes + nodesOfList es

end

mutual

/-- The columns named in a formula, in the order in which they are written. -/
def columns : Expr → List String
  | number _ | string _ | bool _ => []
  | column name => [name]
  | unary _ e => e.columns
  | binary _ l r => l.columns ++ r.columns
  | call _ args => columnsOfList args

def columnsOfList : List Expr → List String
  | [] => []
  | e :: es => e.columns ++ columnsOfList es

end

end Expr

end Databook.Formula
