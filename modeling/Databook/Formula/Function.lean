import Databook.Cell
import Databook.Text.Casing
import Databook.Calendar.DateText

/-!
# Built-in functions

The functions that formulas can call. `Function.named?` finds a function by its name,
`Function.arity` says how many arguments it takes, and `Function.apply` what it returns for given
values. The conditional `if` evaluates one of its branches only, so evaluation handles it before any
value is known (`Databook.Formula.Eval`).
-/

namespace Databook.Formula

open Text Decimal Calendar

/-- The built-in functions. -/
inductive Function where
  | cond | concat | length | lower | upper | contains | replace | trim | abs | round | floor | ceil
  | min | max | sqrt | pow | now | dateAdd | dateDiff | toNumber | toString | empty
deriving DecidableEq, Inhabited

namespace Function

/-- The functions with their names, in the order in which they are listed. -/
def table : List (String × Function) :=
  [("if", cond), ("concat", concat), ("length", length), ("lower", lower), ("upper", upper),
   ("contains", contains), ("replace", replace), ("trim", trim), ("abs", abs), ("round", round),
   ("floor", floor), ("ceil", ceil), ("min", min), ("max", max), ("sqrt", sqrt), ("pow", pow),
   ("now", now), ("dateAdd", dateAdd), ("dateDiff", dateDiff), ("toNumber", toNumber),
   ("toString", toString), ("empty", empty)]

/-- The names of the functions. -/
def names : List String := table.map (·.1)

/-- The function of a name. -/
def named? (name : String) : Option Function := table.lookup name

/-- Is it the name of a function? -/
def isName (name : String) : Bool := (named? name).isSome

end Function

/-- How many arguments a function takes; without a most, any number from the least. -/
structure Arity where
  least : Nat
  most : Option Nat
deriving DecidableEq, Inhabited

namespace Arity

def exactly (n : Nat) : Arity := ⟨n, some n⟩

def between (least most : Nat) : Arity := ⟨least, some most⟩

def atLeast (n : Nat) : Arity := ⟨n, none⟩

def allows (a : Arity) (n : Nat) : Bool :=
  a.least ≤ n && match a.most with
    | some most => n ≤ most
    | none => true

/-- The requirement in words, `2 to 3 arguments`. -/
def requirement (a : Arity) : String :=
  match a.most with
  | some most =>
    if most = a.least then
      toString a.least ++ (if a.least = 1 then " argument" else " arguments")
    else toString a.least ++ " to " ++ toString most ++ " arguments"
  | none => "at least " ++ toString a.least ++ " arguments"

end Arity

/-- Why a formula has no value. -/
inductive EvalError where
  | unknownColumn (name : String)
  | unknownFunction (name : String)
  | wrongArity (function : String) (arity : Arity) (given : Nat)
  | divisionByZero
  | invalidDate (text : String)
  | amountNotANumber
  | dateOutOfRange
  | unknownDateUnit (name : String)
deriving DecidableEq, Inhabited

def EvalError.message : EvalError → String
  | unknownColumn name => "Unknown column: " ++ name
  | unknownFunction name => "Unknown function: " ++ name
  | wrongArity function arity given =>
    "Function " ++ function ++ " requires " ++ arity.requirement ++ ", got " ++ toString given
  | divisionByZero => "Division by zero"
  | invalidDate text => "Invalid date: '" ++ text ++ "'"
  | amountNotANumber => "dateAdd amount must be a number"
  | dateOutOfRange => "Date out of range"
  | unknownDateUnit name => "Unknown date unit: '" ++ name ++ "'"

/-! ### Dates -/

/-- The units in which dates are moved and measured. -/
inductive DateUnit where
  | day | week | month | year
deriving DecidableEq, Inhabited

def DateUnit.named? : String → Option DateUnit
  | "day" | "days" => some day
  | "week" | "weeks" => some week
  | "month" | "months" => some month
  | "year" | "years" => some year
  | _ => none

/-- The unit of a name. -/
def DateUnit.read (name : String) : Except EvalError DateUnit :=
  match named? name with
  | some unit => .ok unit
  | none => .error (.unknownDateUnit name)

/-- The date at the start of a text, behind blanks. -/
def readDate (s : String) : Except EvalError Date :=
  match Date.readHead? (Text.trim s) with
  | some date => .ok date
  | none => .error (.invalidDate s)

/-- The date that is some units later. -/
def shiftDate? (d : Date) (n : Int) : DateUnit → Option Date
  | .day => d.addDays? n
  | .week => d.addDays? (7 * n)
  | .month => d.addMonths? n
  | .year => d.addMonths? (12 * n)

/-- The whole units from `b` to `a`, negative when `a` is earlier. -/
def measureDates (a b : Date) : DateUnit → Int
  | .day => a.daysFrom b
  | .week => (a.daysFrom b).tdiv 7
  | .month => a.monthsFrom b
  | .year => (a.monthsFrom b).tdiv 12

/-- The date `amount` units later, the amount cut down to a whole number. -/
def dateAdd (d : Date) (amount : Float) (unit : String) : Except EvalError Date := do
  let some n := truncate? amount | throw .amountNotANumber
  let unit ← DateUnit.read unit
  match shiftDate? d n unit with
  | some date => return date
  | none => throw .dateOutOfRange

/-! ### Numbers -/

/-- The smaller number; NaN counts for nothing. -/
def lesser (x y : Float) : Float :=
  if x.isNaN then y else if y < x then y else x

/-- The greater number; NaN counts for nothing. -/
def greater (x y : Float) : Float :=
  if x.isNaN then y else if x < y then y else x

/-- The whole part of a double, as a double. Infinities and NaN are as they are. -/
def wholePart (x : Float) : Float :=
  match truncate? x with
  | some n => Float.ofInt n
  | none => x

/-- Ten to the power of a whole number. The least positive double is `5e-324`; `1e-324` is nearer to
zero, so it and the powers below it are zero. -/
def powerOfTen (decimals : Float) : Float :=
  if decimals < -323 then 0 else Float.pow 10 decimals

/-- Round to a number of decimals; a half goes up. Nothing is asked of the power of ten that is
divided by, which may be zero. -/
def roundHalfUp (x decimals : Float) : Float :=
  let factor := powerOfTen decimals
  (x * factor + 0.5).floor / factor

/-! ### Application -/

namespace Function

/-- How many arguments a function takes. -/
def arity : Function → Arity
  | cond => .between 2 3
  | concat => .atLeast 0
  | now => .exactly 0
  | round => .between 1 2
  | dateDiff => .between 2 3
  | contains | min | max | pow => .exactly 2
  | replace | dateAdd => .exactly 3
  | _ => .exactly 1

/-- The value of a function for the values of its arguments; `today` is the date of `now`. A list of
values that the function does not take gives the error of a wrong number of arguments. -/
def apply (today : Date) (name : String) (f : Function) (args : List Cell) : Except EvalError Cell :=
  match f, args with
  | concat, args => .ok (.text (args.foldl (fun s c => s ++ c.display) ""))
  | length, [a] => .ok (.number (Float.ofNat a.display.length))
  | lower, [a] => .ok (.text (toLower a.display))
  | upper, [a] => .ok (.text (toUpper a.display))
  | trim, [a] => .ok (.text (Text.trim a.display))
  | contains, [a, b] => .ok (.bool (Text.contains (toLower a.display) (toLower b.display)))
  | replace, [a, b, c] =>
    if b.display.isEmpty then .ok (.text a.display)
    else .ok (.text (replaceAll a.display b.display c.display))
  | abs, [a] => .ok (.number a.toNumber.abs)
  | floor, [a] => .ok (.number a.toNumber.floor)
  | ceil, [a] => .ok (.number a.toNumber.ceil)
  | sqrt, [a] => .ok (.number a.toNumber.sqrt)
  | pow, [a, b] => .ok (.number (Float.pow a.toNumber b.toNumber))
  | min, [a, b] => .ok (.number (lesser a.toNumber b.toNumber))
  | max, [a, b] => .ok (.number (greater a.toNumber b.toNumber))
  | round, [a] => .ok (.number (roundHalfUp a.toNumber 0))
  | round, [a, b] => .ok (.number (roundHalfUp a.toNumber (wholePart b.toNumber)))
  | now, [] => .ok (.text today.toText)
  | dateAdd, [a, b, c] => do
    let date ← readDate a.display
    return .text (← Formula.dateAdd date b.toNumber c.display).toText
  | dateDiff, [a, b] => do
    let a ← readDate a.display
    let b ← readDate b.display
    return .number (Float.ofInt (measureDates a b .day))
  | dateDiff, [a, b, c] => do
    let a ← readDate a.display
    let b ← readDate b.display
    let unit ← DateUnit.read c.display
    return .number (Float.ofInt (measureDates a b unit))
  | toNumber, [a] => .ok (.number a.toNumber)
  | toString, [a] => .ok (.text a.display)
  | empty, [.number x] => .ok (.bool (x == 0))
  | empty, [.bool b] => .ok (.bool !b)
  | empty, [a] => .ok (.bool a.isEmpty)
  | f, args => .error (.wrongArity name f.arity args.length)

end Function

end Databook.Formula
