import Databook.Formula.Eval

/-!
# What a formula reads

The value of a formula depends on the columns that it names and on no others
(`Expr.eval_congr`). If it has no value because a column is unknown, it names that column and the
context does not have it (`Expr.missesOnly_eval`).
-/

namespace Databook.Formula

open Calendar

/-- Two contexts that give the same value to some names. -/
def Context.Agree (context context' : Context) (names : List String) : Prop :=
  ∀ name ∈ names, context.get? name = context'.get? name

variable {context context' : Context} {names names' : List String}

theorem Context.Agree.left (h : Context.Agree context context' (names ++ names')) :
    Context.Agree context context' names :=
  fun name hname => h name (List.mem_append_left _ hname)

theorem Context.Agree.right (h : Context.Agree context context' (names ++ names')) :
    Context.Agree context context' names' :=
  fun name hname => h name (List.mem_append_right _ hname)

theorem Context.Agree.column {name : String} (h : Context.Agree context context' [name]) :
    Context.column context name = Context.column context' name := by
  unfold Context.column
  rw [h name List.mem_cons_self]

mutual

/-- A formula has the same value in contexts that agree on the columns that it names. -/
theorem Expr.eval_congr (today : Date) (e : Expr) (h : Context.Agree context context' e.columns) :
    e.eval today context = e.eval today context' := by
  cases e with
  | number x => rfl
  | string s => rfl
  | bool b => rfl
  | column name =>
    unfold Expr.eval
    exact Context.Agree.column h
  | unary op e =>
    have he := Expr.eval_congr today e h
    simp only [Expr.eval, he]
  | binary op l r =>
    have hl := Expr.eval_congr today l (Context.Agree.left h)
    have hr := Expr.eval_congr today r (Context.Agree.right h)
    cases op <;> simp only [Expr.eval, hl, hr]
  | call name args =>
    have hargs := evalList_congr today args h
    unfold Expr.eval
    cases Function.named? name with
    | none => rfl
    | some f =>
      refine ite_congr rfl (fun _ => rfl) fun _ => ?_
      -- `if` alone evaluates its arguments itself
      match args with
      | [condition, yes] =>
        have hcondition := Expr.eval_congr today condition (Context.Agree.left h)
        have hyes := Expr.eval_congr today yes (Context.Agree.left (Context.Agree.right h))
        cases f <;> simp only [hargs, hcondition, hyes]
      | [condition, yes, no] =>
        have hcondition := Expr.eval_congr today condition (Context.Agree.left h)
        have hyes := Expr.eval_congr today yes (Context.Agree.left (Context.Agree.right h))
        have hno := Expr.eval_congr today no
          (Context.Agree.left (Context.Agree.right (Context.Agree.right h)))
        cases f <;> simp only [hargs, hcondition, hyes, hno]
      | [] | [_] | _ :: _ :: _ :: _ :: _ => simp only [hargs]

theorem evalList_congr (today : Date) (es : List Expr)
    (h : Context.Agree context context' (Expr.columnsOfList es)) :
    evalList today context es = evalList today context' es := by
  cases es with
  | nil => rfl
  | cons e es =>
    have he := Expr.eval_congr today e (Context.Agree.left h)
    have hes := evalList_congr today es (Context.Agree.right h)
    simp only [evalList, he, hes]

end

/-! ### Unknown columns -/

/-- A column that is not found is one of these, and the context does not have it. -/
def MissesOnly {α : Type} (columns : List String) (context : Context) (r : Except EvalError α) : Prop :=
  ∀ name, r = .error (.unknownColumn name) → name ∈ columns ∧ context.get? name = none

section MissesOnly

variable {α β : Type} {columns columns' : List String} {r r' : Except EvalError α}

theorem missesOnly_ok {a : α} : MissesOnly columns context (.ok a) := nofun

theorem missesOnly_error {e : EvalError} (h : ∀ name, e ≠ .unknownColumn name) :
    MissesOnly columns context (.error e : Except EvalError α) := by
  rintro name ⟨⟩
  exact absurd rfl (h name)

theorem MissesOnly.bind {f : α → Except EvalError β} (h : MissesOnly columns context r)
    (hf : ∀ a, MissesOnly columns context (f a)) : MissesOnly columns context (r >>= f) := by
  cases r with
  | error e =>
    intro name hname
    cases hname
    exact h name rfl
  | ok a => exact hf a

theorem MissesOnly.ite {p : Prop} [Decidable p] (h : MissesOnly columns context r)
    (h' : MissesOnly columns context r') : MissesOnly columns context (if p then r else r') := by
  split
  · exact h
  · exact h'

theorem MissesOnly.mono (h : MissesOnly columns context r) (hsub : columns ⊆ columns') :
    MissesOnly columns' context r :=
  fun name hname => (h name hname).imp_left (@hsub name)

/-! Dates, units, operators and functions do not look at columns. -/

theorem missesOnly_readDate (s : String) : MissesOnly columns context (readDate s) := by
  unfold readDate
  split
  · exact missesOnly_ok
  · exact missesOnly_error fun _ => nofun

theorem DateUnit.missesOnly_read (s : String) : MissesOnly columns context (DateUnit.read s) := by
  unfold DateUnit.read
  split
  · exact missesOnly_ok
  · exact missesOnly_error fun _ => nofun

theorem missesOnly_dateAdd (d : Date) (amount : Float) (unit : String) :
    MissesOnly columns context (dateAdd d amount unit) := by
  unfold dateAdd
  split
  · refine (DateUnit.missesOnly_read unit).bind fun unit => ?_
    split
    · exact missesOnly_ok
    · exact missesOnly_error fun _ => nofun
  · exact missesOnly_error fun _ => nofun

theorem BinaryOp.missesOnly_apply (op : BinaryOp) (l r : Cell) :
    MissesOnly columns context (op.apply l r) := by
  cases op
  case add => exact missesOnly_ok.ite missesOnly_ok
  case div | mod => exact MissesOnly.ite (missesOnly_error fun _ => nofun) missesOnly_ok
  all_goals exact missesOnly_ok

theorem Function.missesOnly_apply (today : Date) (given : String) (f : Function) (args : List Cell) :
    MissesOnly columns context (f.apply today given args) := by
  unfold Function.apply
  split
  -- the functions of dates take several steps, all others give a value or an error at once
  all_goals first
    | exact missesOnly_ok
    | exact missesOnly_error fun _ => nofun
    | exact missesOnly_ok.ite missesOnly_ok
    | exact (missesOnly_readDate _).bind fun _ => (missesOnly_dateAdd _ _ _).bind fun _ => missesOnly_ok
    | exact (missesOnly_readDate _).bind fun _ => (missesOnly_readDate _).bind fun _ => missesOnly_ok
    | exact (missesOnly_readDate _).bind fun _ => (missesOnly_readDate _).bind fun _ =>
        (DateUnit.missesOnly_read _).bind fun _ => missesOnly_ok

end MissesOnly

/-- A list of formulas names the columns that each of them names. -/
theorem Expr.columns_subset_of_mem {e : Expr} {es : List Expr} (h : e ∈ es) :
    e.columns ⊆ Expr.columnsOfList es := by
  induction es with
  | nil => cases h
  | cons e' es ih =>
    rcases List.mem_cons.1 h with rfl | h
    · exact List.subset_append_left _ _
    · exact List.Subset.trans (ih h) (List.subset_append_right _ _)

mutual

/-- An unknown column is one that the formula names and the context does not have. -/
theorem Expr.missesOnly_eval (today : Date) (e : Expr) :
    MissesOnly e.columns context (e.eval today context) := by
  cases e with
  | number x => exact missesOnly_ok
  | string s => exact missesOnly_ok
  | bool b => exact missesOnly_ok
  | column name =>
    unfold Expr.eval Context.column
    split
    · exact missesOnly_ok
    · next hnone =>
      rintro _ ⟨⟩
      exact ⟨List.mem_singleton.2 rfl, hnone⟩
  | unary op e =>
    unfold Expr.eval
    exact (Expr.missesOnly_eval today e).bind fun _ => missesOnly_ok
  | binary op l r =>
    have hleft : MissesOnly (Expr.binary op l r).columns context (l.eval today context) :=
      (Expr.missesOnly_eval today l).mono (List.subset_append_left _ _)
    have hright : MissesOnly (Expr.binary op l r).columns context (r.eval today context) :=
      (Expr.missesOnly_eval today r).mono (List.subset_append_right _ _)
    cases op
    case and =>
      unfold Expr.eval
      exact hleft.bind fun _ => (hright.bind fun _ => missesOnly_ok).ite missesOnly_ok
    case or =>
      unfold Expr.eval
      exact hleft.bind fun _ => missesOnly_ok.ite (hright.bind fun _ => missesOnly_ok)
    all_goals
      unfold Expr.eval
      exact hleft.bind fun left => hright.bind fun right => BinaryOp.missesOnly_apply _ left right
  | call name args =>
    show MissesOnly (Expr.columnsOfList args) context _
    unfold Expr.eval
    split
    · exact missesOnly_error fun _ => nofun
    refine MissesOnly.ite (missesOnly_error fun _ => nofun) ?_
    -- `if` alone evaluates its arguments itself
    split
    · next condition yes _ =>
      have hcondition := Expr.missesOnly_eval today condition
      have hyes := Expr.missesOnly_eval today yes
      exact (hcondition.mono (Expr.columns_subset_of_mem (by simp))).bind fun _ =>
        (hyes.mono (Expr.columns_subset_of_mem (by simp))).ite missesOnly_ok
    · next condition yes no _ =>
      have hcondition := Expr.missesOnly_eval today condition
      have hyes := Expr.missesOnly_eval today yes
      have hno := Expr.missesOnly_eval today no
      exact (hcondition.mono (Expr.columns_subset_of_mem (by simp))).bind fun _ =>
        (hyes.mono (Expr.columns_subset_of_mem (by simp))).ite
          (hno.mono (Expr.columns_subset_of_mem (by simp)))
    · exact (missesOnly_evalList today args).bind fun values => Function.missesOnly_apply today name _ values

theorem missesOnly_evalList (today : Date) (es : List Expr) :
    MissesOnly (Expr.columnsOfList es) context (evalList today context es) := by
  cases es with
  | nil => exact missesOnly_ok
  | cons e es =>
    have hfirst : MissesOnly (Expr.columnsOfList (e :: es)) context (e.eval today context) :=
      (Expr.missesOnly_eval today e).mono (List.subset_append_left _ _)
    have hrest : MissesOnly (Expr.columnsOfList (e :: es)) context (evalList today context es) :=
      (missesOnly_evalList today es).mono (List.subset_append_right _ _)
    unfold evalList
    exact hfirst.bind fun _ => hrest.bind fun _ => missesOnly_ok

end

end Databook.Formula
