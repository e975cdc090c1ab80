import Databook.Decimal.Layout

/-!
# Tokens of formulas

Numbers, strings, truth values, names, quoted names, parentheses, commas and operators. The words
`and`, `or` and `not` are operators.
-/

namespace Databook.Formula

/-- The operators as they are written. -/
inductive Operator where
  | or | and | eq | ne | lt | gt | le | ge | plus | minus | star | slash | percent | not
deriving DecidableEq, Inhabited

def Operator.symbol : Operator → String
  | or => "||"
  | and => "&&"
  | eq => "=="
  | ne => "!="
  | lt => "<"
  | gt => ">"
  | le => "<="
  | ge => ">="
  | plus => "+"
  | minus => "-"
  | star => "*"
  | slash => "/"
  | percent => "%"
  | not => "!"

/-- A token of a formula. -/
inductive Token where
  | number (x : Float)
  | string (s : String)
  | bool (b : Bool)
  | name (s : String)
  /-- A name in backticks, which never names a function. -/
  | quotedName (s : String)
  | openParen
  | closeParen
  | comma
  | op (o : Operator)
deriving BEq, Inhabited

/-- The token as messages show it. -/
def Token.display : Token → String
  | number x => Decimal.Layout.display.write x
  | string s => "\"" ++ s ++ "\""
  | bool b => if b then "true" else "false"
  | name s => s
  | quotedName s => "`" ++ s ++ "`"
  | openParen => "("
  | closeParen => ")"
  | comma => ","
  | op o => o.symbol

/-- A token and the number of characters in front of it. -/
structure Placed where
  token : Token
  position : Nat
deriving BEq, Inhabited

end Databook.Formula
