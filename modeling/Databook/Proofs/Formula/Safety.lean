import Mathlib.Data.List.Basic
import Databook.Formula.Eval

/-!
# Evaluation is safe

`Expr.checkedEval` evaluates a formula and watches what it does. It finds the functions by their names, in
three tables that know nothing of each other: the list of names, the numbers of arguments (`arityNamed`) and
the rules (`applyNamed`), which take their arguments by position. Wherever a rule would take an argument that
is not there, a listed name has no rule or a logical operator is applied to both of its operands, it stops with
a `Fault`. Values are divided by values in three places, by the operators `/` and `%` and by `round`, and each
of them notes down when its divisor is zero (`checkedDivide`).

There are no faults: checked evaluation gives what evaluation gives, a value that is no list or an error of
evaluation (`eval_safe`). For the functions this is that the three tables agree (`agrees_applyNamed`). The
operators do not divide by zero either. `round` does, where the power of ten that it scales by is too small for
a double.
-/

namespace Databook

/-- Is it a text, a number, a truth value or nothing? -/
def Cell.IsScalar : Cell → Prop
  | .text _ | .number _ | .bool _ | .null => True
  | .list _ => False

theorem Cell.isScalar_flatten (c : Cell) : c.flatten.IsScalar := by
  cases c <;> trivial

namespace Formula

open Text Calendar

/-! ### Scalar results -/

/-- Is the value, if there is one, no list? -/
def ScalarResult (r : Except EvalError Cell) : Prop := ∀ c, r = .ok c → c.IsScalar

section ScalarResult

variable {α : Type} {c : Cell} {e : EvalError}

theorem scalarResult_ok (h : c.IsScalar) : ScalarResult (.ok c) := by
  rintro _ ⟨⟩
  exact h

theorem scalarResult_error : ScalarResult (.error e) := nofun

theorem scalarResult_bind {x : Except EvalError α} {f : α → Except EvalError Cell}
    (h : ∀ a, ScalarResult (f a)) : ScalarResult (x >>= f) := by
  cases x with
  | error e => exact scalarResult_error
  | ok a => exact h a

theorem scalarResult_ite {p : Prop} [Decidable p] {x y : Except EvalError Cell} (hx : ScalarResult x)
    (hy : ScalarResult y) : ScalarResult (if p then x else y) := by
  split
  · exact hx
  · exact hy

end ScalarResult

theorem UnaryOp.isScalar_apply (op : UnaryOp) (c : Cell) : (op.apply c).IsScalar := by
  cases op <;> trivial

theorem BinaryOp.scalarResult_apply (op : BinaryOp) (l r : Cell) : ScalarResult (op.apply l r) := by
  cases op
  case add => exact scalarResult_ite (scalarResult_ok trivial) (scalarResult_ok trivial)
  case div | mod => exact scalarResult_ite scalarResult_error (scalarResult_ok trivial)
  all_goals exact scalarResult_ok trivial

theorem Function.scalarResult_apply (today : Date) (name : String) (f : Function) (args : List Cell) :
    ScalarResult (f.apply today name args) := by
  unfold Function.apply
  split
  all_goals
    repeat refine scalarResult_bind fun _ => ?_
    first
      | exact scalarResult_ok trivial
      | exact scalarResult_error
      | exact scalarResult_ite (scalarResult_ok trivial) (scalarResult_ok trivial)

/-- The value of a formula is no list. -/
theorem Expr.scalarResult_eval (today : Date) (context : Context) (e : Expr) :
    ScalarResult (e.eval today context) := by
  match e with
  | .number _ | .string _ | .bool _ => exact scalarResult_ok trivial
  | .column name =>
    unfold Expr.eval Context.column
    split
    · exact scalarResult_ok (Cell.isScalar_flatten _)
    · exact scalarResult_error
  | .unary op e =>
    unfold Expr.eval
    exact scalarResult_bind fun c => scalarResult_ok (op.isScalar_apply c)
  | .binary op l r =>
    cases op
    case and | or =>
      unfold Expr.eval
      refine scalarResult_bind fun _ => scalarResult_ite ?_ ?_ <;>
        first | exact scalarResult_ok trivial | exact scalarResult_bind fun _ => scalarResult_ok trivial
    all_goals
      unfold Expr.eval
      exact scalarResult_bind fun _ => scalarResult_bind fun _ => BinaryOp.scalarResult_apply _ _ _
  | .call name args =>
    unfold Expr.eval
    split
    · exact scalarResult_error
    refine scalarResult_ite scalarResult_error ?_
    split
    · next _ condition yes _ =>
      have hyes := yes.scalarResult_eval today context
      exact scalarResult_bind fun _ => scalarResult_ite hyes (scalarResult_ok trivial)
    · next _ condition yes no _ =>
      have hyes := yes.scalarResult_eval today context
      have hno := no.scalarResult_eval today context
      exact scalarResult_bind fun _ => scalarResult_ite hyes hno
    · exact scalarResult_bind fun _ => Function.scalarResult_apply _ _ _ _

/-! ### Checked evaluation -/

/-- What evaluation must not do. -/
inductive Fault where
  /-- Take an argument that is not there. -/
  | missingArgument (index : Nat)
  /-- Look for the rule of a listed function that has none. -/
  | noRule (name : String)
  /-- Apply a logical operator to the values of both operands. -/
  | eagerLogic (op : BinaryOp)

/-- What a value is divided for. -/
inductive Division where
  | operator (op : BinaryOp)
  /-- Scaling back what was rounded to a number of decimals. -/
  | rounding (decimals : Float)
deriving DecidableEq

/-- A computation that may come to a fault. It notes down its divisions by zero, and goes on. -/
abbrev Checked (α : Type) := ExceptT (Fault ⊕ EvalError) (StateM (List Division)) α

/-- A result without a fault. -/
def Checked.ofEval {α : Type} (r : Except EvalError α) : Checked α := ExceptT.mk (pure (r.mapError .inr))

/-- An argument by its position. -/
def argument (args : List Cell) (index : Nat) : Checked Cell :=
  match args[index]? with
  | some c => pure c
  | none => throw (.inl (.missingArgument index))

/-- Divide, and note the division down if the divisor is zero. -/
def checkedDivide (division : Division) (divide : Float → Float → Float) (x y : Float) : Checked Float := do
  if y == 0 then modify (· ++ [division])
  return divide x y

def BinaryOp.checkedApply (op : BinaryOp) (l r : Cell) : Checked Cell :=
  match op with
  | and | or => throw (.inl (.eagerLogic op))
  | div =>
    if r.toNumber == 0 then throw (.inr .divisionByZero)
    else return .number (← checkedDivide (.operator op) (· / ·) l.toNumber r.toNumber)
  | mod =>
    if r.toNumber == 0 then throw (.inr .divisionByZero)
    else return .number (← checkedDivide (.operator op) Decimal.remainder l.toNumber r.toNumber)
  | op => .ofEval (op.apply l r)

/-- Round to a number of decimals. -/
def checkedRound (x decimals : Float) : Checked Float :=
  let factor := powerOfTen decimals
  checkedDivide (.rounding decimals) (· / ·) (x * factor + 0.5).floor factor

/-- The number of arguments of a listed function other than `if`, by its name. -/
def arityNamed : String → Arity
  | "concat" => .atLeast 0
  | "now" => .exactly 0
  | "round" => .between 1 2
  | "dateDiff" => .between 2 3
  | "contains" | "min" | "max" | "pow" => .exactly 2
  | "replace" | "dateAdd" => .exactly 3
  | _ => .exactly 1

/-- The value of a function by its name. -/
def applyNamed (today : Date) (name : String) (args : List Cell) : Checked Cell :=
  let text (i : Nat) : Checked String := return (← argument args i).display
  let number (i : Nat) : Checked Float := return (← argument args i).toNumber
  match name with
  | "concat" => return .text (args.foldl (fun s c => s ++ c.display) "")
  | "length" => return .number (Float.ofNat (← text 0).length)
  | "lower" => return .text (toLower (← text 0))
  | "upper" => return .text (toUpper (← text 0))
  | "trim" => return .text (Text.trim (← text 0))
  | "contains" => return .bool (Text.contains (toLower (← text 0)) (toLower (← text 1)))
  | "replace" => do
    let old ← text 1
    if old.isEmpty then return .text (← text 0)
    else return .text (replaceAll (← text 0) old (← text 2))
  | "abs" => return .number (← number 0).abs
  | "floor" => return .number (← number 0).floor
  | "ceil" => return .number (← number 0).ceil
  | "sqrt" => return .number (← number 0).sqrt
  | "pow" => return .number (Float.pow (← number 0) (← number 1))
  | "min" => return .number (lesser (← number 0) (← number 1))
  | "max" => return .number (greater (← number 0) (← number 1))
  | "round" => do
    let decimals := match args[1]? with
      | some c => wholePart c.toNumber
      | none => 0
    return .number (← checkedRound (← number 0) decimals)
  | "now" => return .text today.toText
  | "dateAdd" => do
    let date ← .ofEval (readDate (← text 0))
    let later ← .ofEval (dateAdd date (← number 1) (← text 2))
    return .text later.toText
  | "dateDiff" => do
    let a ← .ofEval (readDate (← text 0))
    let b ← .ofEval (readDate (← text 1))
    let unit ← match args[2]? with
      | some c => .ofEval (DateUnit.read c.display)
      | none => pure .day
    return .number (Float.ofInt (measureDates a b unit))
  | "toNumber" => return .number (← number 0)
  | "toString" => return .text (← text 0)
  | "empty" => do
    match ← argument args 0 with
    | .number x => return .bool (x == 0)
    | .bool b => return .bool !b
    | c => return .bool c.isEmpty
  | other => throw (.inl (.noRule other))

mutual

/-- The value of a formula on a day, or a fault on the way to it. -/
def Expr.checkedEval (today : Date) (context : Context) : Expr → Checked Cell
  | .number x => return .number x
  | .string s => return .text s
  | .bool b => return .bool b
  | .column name => .ofEval (Context.column context name)
  | .unary op e => return op.apply (← e.checkedEval today context)
  | .binary .and l r => do
    if (← l.checkedEval today context).isTruthy then
      return .bool (← r.checkedEval today context).isTruthy
    else return .bool false
  | .binary .or l r => do
    if (← l.checkedEval today context).isTruthy then return .bool true
    else return .bool (← r.checkedEval today context).isTruthy
  | .binary op l r => do
    let left ← l.checkedEval today context
    let right ← r.checkedEval today context
    op.checkedApply left right
  | .call name args =>
    if name = "if" then
      if !(Arity.between 2 3).allows args.length then
        throw (.inr (.wrongArity name (.between 2 3) args.length))
      else match args with
        | [] => throw (.inl (.missingArgument 0))
        | [condition] => do
          if (← condition.checkedEval today context).isTruthy then throw (.inl (.missingArgument 1))
          else return .null
        | [condition, yes] => do
          if (← condition.checkedEval today context).isTruthy then yes.checkedEval today context
          else return .null
        | condition :: yes :: no :: _ => do
          if (← condition.checkedEval today context).isTruthy then yes.checkedEval today context
          else no.checkedEval today context
    else if !Function.isName name then throw (.inr (.unknownFunction name))
    else if !(arityNamed name).allows args.length then
      throw (.inr (.wrongArity name (arityNamed name) args.length))
    else do applyNamed today name (← checkedEvalList today context args)

def checkedEvalList (today : Date) (context : Context) : List Expr → Checked (List Cell)
  | [] => return []
  | e :: es => do
    let value ← e.checkedEval today context
    return value :: (← checkedEvalList today context es)

end

/-- What checked evaluation of a formula comes to. -/
def Expr.outcome (e : Expr) (today : Date) (context : Context) : Except (Fault ⊕ EvalError) Cell :=
  ((e.checkedEval today context).run.run []).1

/-- The divisions by zero on the way there. -/
def Expr.zeroDivisions (e : Expr) (today : Date) (context : Context) : List Division :=
  ((e.checkedEval today context).run.run []).2

/-! ### There are no faults -/

/-- Is it the division of `round` by a power of ten that is zero? -/
def Division.IsByZeroPower (division : Division) : Prop :=
  ∃ decimals, division = .rounding decimals ∧ (powerOfTen decimals == 0) = true

section Agrees

variable {α β : Type} {x : Checked α} {r : Except EvalError α} {e : EvalError}

/-- Does the computation come to the result, and divide by no zero but a power of ten? -/
def Checked.Agrees (x : Checked α) (r : Except EvalError α) : Prop :=
  ∀ noted, ∃ more, x.run.run noted = (r.mapError .inr, noted ++ more) ∧
    ∀ division ∈ more, division.IsByZeroPower

theorem agrees_ofEval (r : Except EvalError α) : (Checked.ofEval r).Agrees r :=
  fun noted => ⟨[], by rw [List.append_nil]; rfl, nofun⟩

theorem agrees_pure (a : α) : (pure a : Checked α).Agrees (pure a) := agrees_ofEval (pure a)

theorem agrees_throw (e : EvalError) : (throw (.inr e) : Checked α).Agrees (.error e) :=
  agrees_ofEval (.error e)

theorem run_bind (x : Checked α) (f : α → Checked β) (noted : List Division) :
    (x >>= f).run.run noted = match x.run.run noted with
      | (.ok a, noted) => (f a).run.run noted
      | (.error e, noted) => (.error e, noted) := by
  rw [ExceptT.run_bind, StateT.run_bind]
  rcases x.run.run noted with ⟨_ | _, _⟩ <;> rfl

/-- One computation after the other divides by the zeros of both. -/
theorem agrees_bind {f : α → Checked β} {g : α → Except EvalError β} (hx : x.Agrees r)
    (hf : ∀ a, r = .ok a → (f a).Agrees (g a)) : (x >>= f).Agrees (r >>= g) := by
  intro noted
  obtain ⟨more, hrun, hmore⟩ := hx noted
  cases r with
  | error e => exact ⟨more, by rw [run_bind, hrun]; rfl, hmore⟩
  | ok a =>
    obtain ⟨more', hrun', hmore'⟩ := hf a rfl (noted ++ more)
    refine ⟨more ++ more', ?_, List.forall_mem_append.2 ⟨hmore, hmore'⟩⟩
    rw [run_bind, hrun, ← List.append_assoc]
    exact hrun'

theorem agrees_ite {p : Prop} [Decidable p] {y : Checked α} {r' : Except EvalError α}
    (hx : p → x.Agrees r) (hy : ¬p → y.Agrees r') :
    (if p then x else y).Agrees (if p then r else r') := by
  split
  · exact hx ‹_›
  · exact hy ‹_›

theorem ofEval_bind (x : Except EvalError α) (f : α → Except EvalError β) :
    Checked.ofEval (x >>= f) = Checked.ofEval x >>= fun a => Checked.ofEval (f a) := by
  cases x <;> rfl

theorem ofEval_ite {p : Prop} [Decidable p] (x y : Except EvalError α) :
    Checked.ofEval (if p then x else y) = if p then Checked.ofEval x else Checked.ofEval y :=
  apply_ite _ _ _ _

end Agrees

theorem checkedDivide_of_ne {division : Division} {divide : Float → Float → Float} {x y : Float}
    (h : ¬(y == 0) = true) : checkedDivide division divide x y = pure (divide x y) := by
  rw [checkedDivide, if_neg h]

theorem agrees_checkedRound (x decimals : Float) :
    (checkedRound x decimals).Agrees (pure (roundHalfUp x decimals)) := by
  by_cases hzero : (powerOfTen decimals == 0) = true
  · intro noted
    refine ⟨[.rounding decimals], ?_, List.forall_mem_singleton.2 ⟨decimals, rfl, hzero⟩⟩
    rw [checkedRound, checkedDivide, if_pos hzero]
    rfl
  · rw [checkedRound, checkedDivide_of_ne hzero]
    exact agrees_pure _

/-- The operators divide by what is not zero only. -/
theorem BinaryOp.checkedApply_eq (op : BinaryOp) (hand : op ≠ .and) (hor : op ≠ .or) (l r : Cell) :
    op.checkedApply l r = .ofEval (op.apply l r) := by
  cases op
  case and => exact absurd rfl hand
  case or => exact absurd rfl hor
  case div | mod =>
    simp only [checkedApply, apply]
    by_cases hzero : (r.toNumber == 0) = true
    · rw [if_pos hzero, if_pos hzero]
      rfl
    · rw [if_neg hzero, if_neg hzero, checkedDivide_of_ne hzero]
      rfl
  all_goals rfl

/-- The name of a function. -/
def Function.name : Function → String
  | cond => "if"
  | concat => "concat"
  | length => "length"
  | lower => "lower"
  | upper => "upper"
  | contains => "contains"
  | replace => "replace"
  | trim => "trim"
  | abs => "abs"
  | round => "round"
  | floor => "floor"
  | ceil => "ceil"
  | min => "min"
  | max => "max"
  | sqrt => "sqrt"
  | pow => "pow"
  | now => "now"
  | dateAdd => "dateAdd"
  | dateDiff => "dateDiff"
  | toNumber => "toNumber"
  | toString => "toString"
  | empty => "empty"

theorem Function.name_of_named? {name : String} {f : Function} (h : named? name = some f) :
    name = f.name := by
  obtain ⟨before, after, htable, -⟩ := List.lookup_eq_some_iff.1 h
  have hnames : ∀ entry ∈ table, entry.1 = entry.2.name := by decide
  exact hnames (name, f) (htable ▸ List.mem_append_right _ List.mem_cons_self)

theorem Function.arityNamed_name {f : Function} (hf : f ≠ .cond) : arityNamed f.name = f.arity := by
  cases f
  case cond => exact absurd rfl hf
  all_goals rfl

theorem allows_iff {a : Arity} {n : Nat} : a.allows n = true ↔ a.least ≤ n ∧ ∀ most ∈ a.most, n ≤ most := by
  rw [Arity.allows, Bool.and_eq_true, decide_eq_true_iff]
  cases a.most <;> simp

theorem eq_of_allows {n k : Nat} (h : (Arity.exactly n).allows k = true) : k = n := by
  obtain ⟨hleast, hmost⟩ := allows_iff.1 h
  exact Nat.le_antisymm (hmost n rfl) hleast

/-- Between a number of arguments and the next one there are only these two. -/
theorem eq_or_eq_of_allows {n k : Nat} (h : (Arity.between n (n + 1)).allows k = true) :
    k = n ∨ k = n + 1 := by
  obtain ⟨hleast, hmost⟩ := allows_iff.1 h
  have hle : k ≤ n + 1 := hmost _ rfl
  have hge : n ≤ k := hleast
  omega

/-- Every listed function other than `if` has a rule, which takes none but the arguments that its number of
arguments grants. Unless it is `round`, it divides by no value. -/
theorem applyNamed_eq (today : Date) (given : String) {f : Function} (hf : f ≠ .cond) (hround : f ≠ .round)
    {args : List Cell} (h : f.arity.allows args.length = true) :
    applyNamed today f.name args = .ofEval (f.apply today given args) := by
  cases f
  case cond => exact absurd rfl hf
  case round => exact absurd rfl hround
  case concat => rfl
  case now =>
    obtain rfl := List.length_eq_zero_iff.1 (eq_of_allows h)
    rfl
  case dateDiff =>
    rcases eq_or_eq_of_allows h with h | h
    · obtain ⟨a, b, rfl⟩ := List.length_eq_two.1 h
      simp only [Function.name, applyNamed, Function.apply, ofEval_bind]
      rfl
    · obtain ⟨a, b, c, rfl⟩ := List.length_eq_three.1 h
      simp only [Function.name, applyNamed, Function.apply, ofEval_bind]
      rfl
  case contains | min | max | pow =>
    obtain ⟨a, b, rfl⟩ := List.length_eq_two.1 (eq_of_allows h)
    rfl
  case replace =>
    obtain ⟨a, b, c, rfl⟩ := List.length_eq_three.1 (eq_of_allows h)
    simp only [Function.name, applyNamed, Function.apply, ofEval_ite]
    rfl
  case dateAdd =>
    obtain ⟨a, b, c, rfl⟩ := List.length_eq_three.1 (eq_of_allows h)
    simp only [Function.name, applyNamed, Function.apply, ofEval_bind]
    rfl
  case empty =>
    obtain ⟨a, rfl⟩ := List.length_eq_one_iff.1 (eq_of_allows h)
    cases a <;> rfl
  all_goals
    obtain ⟨a, rfl⟩ := List.length_eq_one_iff.1 (eq_of_allows h)
    rfl

/-- Without its second argument a power would be a fault. -/
example (today : Date) (x : Float) :
    applyNamed today "pow" [.number x] = throw (.inl (.missingArgument 1)) := rfl

theorem agrees_round (today : Date) (given : String) {args : List Cell}
    (h : Function.round.arity.allows args.length = true) :
    (applyNamed today Function.round.name args).Agrees (Function.round.apply today given args) := by
  rcases eq_or_eq_of_allows h with h | h
  · obtain ⟨a, rfl⟩ := List.length_eq_one_iff.1 h
    exact agrees_bind (agrees_checkedRound _ _) fun x _ => agrees_pure (Cell.number x)
  · obtain ⟨a, b, rfl⟩ := List.length_eq_two.1 h
    exact agrees_bind (agrees_checkedRound _ _) fun x _ => agrees_pure (Cell.number x)

/-- **The tables of functions agree.** The function that is found by its name is the one that is listed. -/
theorem agrees_applyNamed (today : Date) (given : String) {f : Function} (hf : f ≠ .cond) {args : List Cell}
    (h : f.arity.allows args.length = true) :
    (applyNamed today f.name args).Agrees (f.apply today given args) := by
  by_cases hround : f = .round
  · subst hround
    exact agrees_round today given h
  · rw [applyNamed_eq today given hf hround h]
    exact agrees_ofEval _

section Eval

variable {today : Date} {context : Context}

/-- Does checked evaluation of the formula do what evaluation does? -/
def Expr.Faultless (today : Date) (context : Context) (e : Expr) : Prop :=
  (e.checkedEval today context).Agrees (e.eval today context)

theorem agrees_checkedEvalList {es : List Expr} (h : ∀ e ∈ es, e.Faultless today context) :
    (checkedEvalList today context es).Agrees (evalList today context es) := by
  induction es with
  | nil => exact agrees_pure _
  | cons e es ih =>
    obtain ⟨he, hes⟩ := List.forall_mem_cons.1 h
    unfold checkedEvalList evalList
    exact agrees_bind he fun _ _ => agrees_bind (ih hes) fun _ _ => agrees_pure _

theorem length_of_evalList {es : List Expr} {values : List Cell}
    (h : evalList today context es = .ok values) : values.length = es.length := by
  induction es generalizing values with
  | nil =>
    cases h
    rfl
  | cons e es ih =>
    unfold evalList at h
    cases he : e.eval today context with
    | error error =>
      rw [he] at h
      cases h
    | ok value =>
      cases hes : evalList today context es with
      | error error =>
        rw [he, hes] at h
        cases h
      | ok rest =>
        rw [he, hes] at h
        cases h
        exact congrArg (· + 1) (ih hes)

/-- `if` takes its condition and the branches that are there. -/
theorem faultless_if {args : List Expr} (h : ∀ arg ∈ args, arg.Faultless today context) :
    (Expr.call "if" args).Faultless today context := by
  unfold Expr.Faultless Expr.checkedEval Expr.eval
  rw [if_pos rfl]
  change Checked.Agrees _ (if !(Arity.between 2 3).allows args.length then _ else _)
  refine agrees_ite (fun _ => agrees_throw _) fun harity => ?_
  -- there is a condition, a first branch and perhaps a second one
  rcases eq_or_eq_of_allows (by simpa using harity) with hlength | hlength
  · obtain ⟨condition, yes, rfl⟩ := List.length_eq_two.1 hlength
    simp only [List.forall_mem_cons] at h
    obtain ⟨hcondition, hyes, -⟩ := h
    exact agrees_bind hcondition fun _ _ => agrees_ite (fun _ => hyes) fun _ => agrees_pure _
  · obtain ⟨condition, yes, no, rfl⟩ := List.length_eq_three.1 hlength
    simp only [List.forall_mem_cons] at h
    obtain ⟨hcondition, hyes, hno, -⟩ := h
    exact agrees_bind hcondition fun _ _ => agrees_ite (fun _ => hyes) fun _ => hno

/-- The arguments of another function are only evaluated if their number is right, so its rule finds as many as
it takes. -/
theorem faultless_call {name : String} {args : List Expr} (hif : name ≠ "if")
    (h : ∀ arg ∈ args, arg.Faultless today context) : (Expr.call name args).Faultless today context := by
  unfold Expr.Faultless Expr.checkedEval Expr.eval
  rw [if_neg hif]
  cases hnamed : Function.named? name with
  | none =>
    rw [Function.isName, hnamed]
    exact agrees_throw _
  | some f =>
    obtain rfl := Function.name_of_named? hnamed
    have hcond : f ≠ .cond := fun hf => hif (by rw [hf]; rfl)
    rw [Function.isName, hnamed, Function.arityNamed_name hcond, Option.isSome_some, Bool.not_true,
      if_neg Bool.false_ne_true]
    change Checked.Agrees _ (if !f.arity.allows args.length then _ else _)
    refine agrees_ite (fun _ => agrees_throw _) fun harity => ?_
    split
    · exact absurd rfl hcond
    · exact absurd rfl hcond
    · refine agrees_bind (agrees_checkedEvalList h) fun values hvalues => ?_
      refine agrees_applyNamed today f.name hcond ?_
      rw [length_of_evalList hvalues]
      simpa using harity

mutual

/-- Checked evaluation never faults and otherwise does what evaluation does. -/
theorem Expr.faultless (e : Expr) : e.Faultless today context := by
  match e with
  | .number _ | .string _ | .bool _ =>
    unfold Expr.Faultless Expr.checkedEval Expr.eval
    exact agrees_pure _
  | .column _ =>
    unfold Expr.Faultless Expr.checkedEval Expr.eval
    exact agrees_ofEval _
  | .unary op e =>
    have he : e.Faultless today context := e.faultless
    unfold Expr.Faultless Expr.checkedEval Expr.eval
    exact agrees_bind he fun _ _ => agrees_pure _
  | .binary op l r =>
    have hl : l.Faultless today context := l.faultless
    have hr : r.Faultless today context := r.faultless
    cases op
    case and =>
      unfold Expr.Faultless Expr.checkedEval Expr.eval
      exact agrees_bind hl fun _ _ =>
        agrees_ite (fun _ => agrees_bind hr fun _ _ => agrees_pure _) fun _ => agrees_pure _
    case or =>
      unfold Expr.Faultless Expr.checkedEval Expr.eval
      exact agrees_bind hl fun _ _ =>
        agrees_ite (fun _ => agrees_pure _) fun _ => agrees_bind hr fun _ _ => agrees_pure _
    all_goals
      unfold Expr.Faultless Expr.checkedEval Expr.eval
      refine agrees_bind hl fun left _ => agrees_bind hr fun right _ => ?_
      rw [BinaryOp.checkedApply_eq _ (by decide) (by decide)]
      exact agrees_ofEval _
  | .call name args =>
    by_cases hif : name = "if"
    · exact hif ▸ faultless_if (forall_faultless args)
    · exact faultless_call hif (forall_faultless args)

theorem forall_faultless (es : List Expr) : ∀ e ∈ es, e.Faultless today context := by
  match es with
  | [] => nofun
  | e :: es => exact List.forall_mem_cons.2 ⟨e.faultless, forall_faultless es⟩

end

end Eval

/-- **Evaluation is safe and stays scalar.** The value of a formula, whatever it calls with however many
arguments and whatever the columns hold, is a text, a number, a truth value or nothing, or there is an error of
evaluation. On the way to it no function takes an argument that is not there, no listed function lacks a rule
and no logical operator is applied to both of its operands. `/` and `%` never divide by zero; only `round` may,
where the power of ten that it scales by is zero as a double. -/
theorem eval_safe (today : Date) (context : Context) (e : Expr) :
    e.outcome today context = (e.eval today context).mapError .inr ∧
      (∀ fault, e.outcome today context ≠ .error (.inl fault)) ∧
      (∀ division ∈ e.zeroDivisions today context,
        ∃ decimals, division = .rounding decimals ∧ (powerOfTen decimals == 0) = true) ∧
      ∀ c, e.eval today context = .ok c → c.IsScalar := by
  have hfaultless : e.Faultless today context := e.faultless
  obtain ⟨noted, hrun, hnoted⟩ := hfaultless []
  have houtcome : e.outcome today context = (e.eval today context).mapError .inr :=
    congrArg Prod.fst hrun
  have hzero : e.zeroDivisions today context = noted := congrArg Prod.snd hrun
  refine ⟨houtcome, fun fault => ?_, hzero ▸ hnoted, e.scalarResult_eval today context⟩
  rw [houtcome]
  cases e.eval today context <;> nofun

/-- Rounding to -400 decimals divides by zero: `round(1, -400)`. -/
theorem zeroDivisions_round :
    (Expr.call "round" [.number 1, .unary .neg (.number 400)]).zeroDivisions default .empty
      = [.rounding (-400)] := by
  decide +kernel

end Formula

end Databook
