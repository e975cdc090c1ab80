import Databook.Validation.Report

/-!
# Strict and other checks

A check goes through a document once and puts each problem into its report where it finds it: ids and
rollups as errors of any check, and all else as an issue, which is an error if the check is strict and
a warning if it is not (`Document.inspect`). The report comes out as that of `Document.validate`, which
lists all problems first and sorts them by their severity afterwards (`Document.validate_eq_inspect`).

A strict check and another one find the same, so that their reports stay in step (`Report.InStep`):
what is added to both by one step keeps them so, and thus the whole check does. In the end the errors
of the strict check are the errors and the warnings of the other one (`Document.validate_interleaved`).
-/

namespace Databook

/-! ### Merged lists -/

/-- Is the third list made of the members of the other two, in the order that they have there? -/
inductive Interleaved : List α → List α → List α → Prop
  | nil : Interleaved [] [] []
  | left {a : α} {as bs merged : List α} :
      Interleaved as bs merged → Interleaved (a :: as) bs (a :: merged)
  | right {b : α} {as bs merged : List α} :
      Interleaved as bs merged → Interleaved as (b :: bs) (b :: merged)

namespace Interleaved

variable {as as' bs bs' merged merged' : List α}

theorem append (h : Interleaved as bs merged) (h' : Interleaved as' bs' merged') :
    Interleaved (as ++ as') (bs ++ bs') (merged ++ merged') := by
  induction h with
  | nil => exact h'
  | left _ ih => exact .left ih
  | right _ ih => exact .right ih

theorem nil_right (as : List α) : Interleaved as [] as := by
  induction as with
  | nil => exact .nil
  | cons a as ih => exact .left ih

theorem nil_left (bs : List α) : Interleaved [] bs bs := by
  induction bs with
  | nil => exact .nil
  | cons b bs ih => exact .right ih

theorem map (f : α → β) (h : Interleaved as bs merged) :
    Interleaved (as.map f) (bs.map f) (merged.map f) := by
  induction h with
  | nil => exact .nil
  | left _ ih => exact .left ih
  | right _ ih => exact .right ih

theorem eq_nil_iff (h : Interleaved as bs merged) : merged = [] ↔ as = [] ∧ bs = [] := by
  cases h <;> simp

end Interleaved

/-! ### Reports that grow -/

namespace Report

def empty : Report := ⟨[], []⟩

/-- The report of some problems. -/
def ofProblems (strict : Bool) (problems : List Problem) : Report where
  errors := problems.filter fun problem => strict || problem.isSevere
  warnings := problems.filter fun problem => !(strict || problem.isSevere)

/-- Put in problems that are errors in any check. -/
def addErrors (problems : List Problem) (r : Report) : Report :=
  { r with errors := r.errors ++ problems }

/-- Put in problems that are errors in a strict check only. -/
def addIssues (strict : Bool) (problems : List Problem) (r : Report) : Report :=
  if strict then r.addErrors problems else { r with warnings := r.warnings ++ problems }

section

variable {strict : Bool} {before problems : List Problem}

theorem addErrors_ofProblems (h : ∀ problem ∈ problems, problem.isSevere = true) :
    (ofProblems strict before).addErrors problems = ofProblems strict (before ++ problems) := by
  have herrors : problems.filter (fun problem => strict || problem.isSevere) = problems :=
    List.filter_eq_self.2 fun problem hp => by rw [h problem hp, Bool.or_true]
  have hwarnings : problems.filter (fun problem => !(strict || problem.isSevere)) = [] :=
    List.filter_eq_nil_iff.2 fun problem hp => by simp [h problem hp]
  simp only [addErrors, ofProblems, List.filter_append, herrors, hwarnings, List.append_nil]

theorem addIssues_ofProblems (h : ∀ problem ∈ problems, problem.isSevere = false) :
    (ofProblems strict before).addIssues strict problems
      = ofProblems strict (before ++ problems) := by
  have hstrict : problems.filter (fun problem => strict || problem.isSevere)
      = if strict then problems else [] := by
    cases strict with
    | true => exact List.filter_eq_self.2 fun _ _ => rfl
    | false => exact List.filter_eq_nil_iff.2 fun problem hp => by simp [h problem hp]
  have hother : problems.filter (fun problem => !(strict || problem.isSevere))
      = if strict then [] else problems := by
    cases strict with
    | true => exact List.filter_eq_nil_iff.2 fun _ _ => by simp
    | false => exact List.filter_eq_self.2 fun problem hp => by simp [h problem hp]
  unfold addIssues ofProblems
  rw [List.filter_append, List.filter_append, hstrict, hother]
  cases strict <;> simp [addErrors]

end

/-- Are these the reports of a strict check and of another one that have got equally far? -/
structure InStep (strict other : Report) : Prop where
  warnings : strict.warnings = []
  errors : Interleaved other.errors other.warnings strict.errors

namespace InStep

variable {r s : Report}

theorem empty : InStep empty empty := ⟨rfl, .nil⟩

theorem addErrors (h : InStep r s) (problems : List Problem) :
    InStep (r.addErrors problems) (s.addErrors problems) where
  warnings := h.warnings
  errors := by
    have hmerged := h.errors.append (.nil_right problems)
    rwa [List.append_nil] at hmerged

theorem addIssues (h : InStep r s) (problems : List Problem) :
    InStep (r.addIssues true problems) (s.addIssues false problems) where
  warnings := h.warnings
  errors := by
    have hmerged := h.errors.append (.nil_left problems)
    rwa [List.append_nil] at hmerged

end InStep

end Report

namespace Document

/-! ### Going through a document -/

/-- Look at the settings of a property. -/
def inspectKind (d : Document) (strict : Bool) (p : Property) (r : Report) : Report :=
  match p.kind with
  | .select options | .multiSelect options =>
    r.addErrors (idProblems (.options p.name) (options.map (·.id)))
  | .rollup rollup => r.addErrors (d.rollupProblems p.name rollup)
  | .formula expression => r.addIssues strict (d.formulaProblems p.name expression)
  | _ => r

/-- Look at properties, in front of which there are properties of some names. -/
def inspectProperties (d : Document) (strict : Bool) (names : List String) (r : Report) :
    List Property → Report
  | [] => r
  | p :: ps =>
    let r := if names.contains p.name then r.addIssues strict [.repeatedName p.name] else r
    d.inspectProperties strict (p.name :: names) (d.inspectKind strict p r) ps

/-- Look at the views. There should be one. -/
def inspectViews (d : Document) (strict : Bool) (r : Report) : Report :=
  if d.views.isEmpty then r.addIssues strict [.noViews]
  else d.views.foldl (fun r v => r.addIssues strict (d.viewProblems v)) r

/-- Go through the document. -/
def inspect (d : Document) (strict : Bool) : Report :=
  let r := Report.empty.addErrors (idProblems .properties (d.properties.map (·.id)))
  let r := r.addErrors (idProblems .rows (d.rows.map (·.id)))
  let r := r.addErrors (idProblems .views (d.views.map (·.id)))
  let r := d.inspectProperties strict [] r d.properties
  let r := d.inspectViews strict r
  d.rows.foldl (fun r row => r.addIssues strict (d.rowProblems row)) r

/-! ### Severity -/

variable {d : Document}

theorem isSevere_of_mem_idProblems {scope : IdScope} {ids : List String} :
    ∀ problem ∈ idProblems scope ids, problem.isSevere = true := by
  simp [idProblems, Problem.isSevere]

theorem isSevere_of_mem_rollupProblems {name : String} {rollup : Rollup} :
    ∀ problem ∈ d.rollupProblems name rollup, problem.isSevere = true := by
  intro problem hproblem
  unfold rollupProblems at hproblem
  split at hproblem
  · obtain rfl := List.mem_singleton.1 hproblem
    rfl
  · split at hproblem
    · cases hproblem
    · obtain rfl := List.mem_singleton.1 hproblem
      rfl

theorem isSevere_of_mem_formulaProblems {name expression : String} :
    ∀ problem ∈ d.formulaProblems name expression, problem.isSevere = false := by
  intro problem hproblem
  unfold formulaProblems at hproblem
  split at hproblem
  · cases hproblem
  · split at hproblem
    · obtain rfl := List.mem_singleton.1 hproblem
      rfl
    · obtain ⟨_, -, rfl⟩ := List.mem_map.1 hproblem
      rfl

theorem isSevere_of_mem_roleProblems {v : View} {role : ViewRole} {properties : List String} :
    ∀ problem ∈ d.roleProblems v role properties, problem.isSevere = false := by
  intro problem hproblem
  obtain ⟨_, -, rfl⟩ := List.mem_map.1 hproblem
  rfl

theorem isSevere_of_mem_summaryProblems {v : View} {property : String} {a : Aggregation} :
    ∀ problem ∈ d.summaryProblems v property a, problem.isSevere = false := by
  intro problem hproblem
  unfold summaryProblems at hproblem
  split at hproblem
  · obtain rfl := List.mem_singleton.1 hproblem
    rfl
  · split at hproblem
    · cases hproblem
    · obtain rfl := List.mem_singleton.1 hproblem
      rfl

theorem isSevere_of_mem_viewProblems {v : View} :
    ∀ problem ∈ d.viewProblems v, problem.isSevere = false := by
  unfold viewProblems
  simp only [List.forall_mem_append]
  refine ⟨⟨⟨⟨isSevere_of_mem_roleProblems, isSevere_of_mem_roleProblems⟩,
    isSevere_of_mem_roleProblems⟩, isSevere_of_mem_roleProblems⟩, fun problem hproblem => ?_⟩
  obtain ⟨_, -, hproblem⟩ := List.mem_flatMap.1 hproblem
  exact isSevere_of_mem_summaryProblems problem hproblem

theorem isSevere_of_mem_cellProblems {p : Property} {row : String} {c : Cell} :
    ∀ problem ∈ p.cellProblems row c, problem.isSevere = false := by
  intro problem hproblem
  unfold Property.cellProblems at hproblem
  split at hproblem
  · cases hproblem
  split at hproblem
  · obtain rfl := List.mem_singleton.1 hproblem
    rfl
  split at hproblem
  · obtain rfl := List.mem_singleton.1 hproblem
    rfl
  · obtain ⟨_, -, rfl⟩ := List.mem_map.1 hproblem
    rfl

theorem isSevere_of_mem_rowProblems {row : Row} :
    ∀ problem ∈ d.rowProblems row, problem.isSevere = false := by
  intro problem hproblem
  obtain ⟨⟨property, c⟩, -, hproblem⟩ := List.mem_flatMap.1 hproblem
  simp only at hproblem
  split at hproblem
  · obtain rfl := List.mem_singleton.1 hproblem
    rfl
  · exact isSevere_of_mem_cellProblems problem hproblem

/-! ### The report of a walk -/

section Walk

open Report

variable {strict : Bool} {before : List Problem}

theorem inspectKind_ofProblems (p : Property) :
    d.inspectKind strict p (ofProblems strict before)
      = ofProblems strict (before ++ d.kindProblems p) := by
  unfold inspectKind kindProblems
  cases p.kind with
  | select options | multiSelect options => exact addErrors_ofProblems isSevere_of_mem_idProblems
  | rollup rollup => exact addErrors_ofProblems isSevere_of_mem_rollupProblems
  | formula expression => exact addIssues_ofProblems isSevere_of_mem_formulaProblems
  | _ => exact congrArg (ofProblems strict) (List.append_nil before).symm

theorem inspectProperties_ofProblems (names : List String) (properties : List Property) :
    d.inspectProperties strict names (ofProblems strict before) properties
      = ofProblems strict (before ++ d.propertyProblems names properties) := by
  induction properties generalizing names before with
  | nil => exact congrArg (ofProblems strict) (List.append_nil before).symm
  | cons p ps ih =>
    have hname : (if names.contains p.name then
          (ofProblems strict before).addIssues strict [.repeatedName p.name]
        else ofProblems strict before)
        = ofProblems strict
          (before ++ if names.contains p.name then [.repeatedName p.name] else []) := by
      split
      · exact addIssues_ofProblems (by simp [Problem.isSevere])
      · rw [List.append_nil]
    rw [inspectProperties, propertyProblems, hname, inspectKind_ofProblems, ih, List.append_assoc,
      List.append_assoc, List.append_assoc]

/-- Looking at one item after the other puts in the problems of all of them. -/
theorem foldl_addIssues_ofProblems {items : List α} {found : α → List Problem}
    (h : ∀ item, ∀ problem ∈ found item, problem.isSevere = false) :
    items.foldl (fun r item => r.addIssues strict (found item)) (ofProblems strict before)
      = ofProblems strict (before ++ items.flatMap found) := by
  induction items generalizing before with
  | nil => exact congrArg (ofProblems strict) (List.append_nil before).symm
  | cons item items ih =>
    rw [List.foldl_cons, addIssues_ofProblems (h item), ih, List.flatMap_cons, List.append_assoc]

theorem inspectViews_ofProblems : d.inspectViews strict (ofProblems strict before)
    = ofProblems strict
      (before ++ if d.views.isEmpty then [.noViews] else d.views.flatMap d.viewProblems) := by
  unfold inspectViews
  split
  · exact addIssues_ofProblems (by simp [Problem.isSevere])
  · exact foldl_addIssues_ofProblems fun _ => isSevere_of_mem_viewProblems

theorem validate_eq_ofProblems (d : Document) (strict : Bool) :
    d.validate strict = ofProblems strict d.problems := by
  rw [validate, List.partition_eq_filter_filter]
  rfl

/-- In a strict check every problem is an error. -/
theorem errors_validate_true (d : Document) : (d.validate true).errors = d.problems := by
  rw [validate_eq_ofProblems]
  exact List.filter_eq_self.2 fun _ _ => rfl

/-- Going through a document comes to the same report as listing its problems first. -/
theorem validate_eq_inspect (d : Document) (strict : Bool) : d.validate strict = d.inspect strict := by
  have hempty : Report.empty = ofProblems strict [] := rfl
  rw [validate_eq_ofProblems, inspect, hempty, addErrors_ofProblems isSevere_of_mem_idProblems,
    addErrors_ofProblems isSevere_of_mem_idProblems,
    addErrors_ofProblems isSevere_of_mem_idProblems, inspectProperties_ofProblems,
    inspectViews_ofProblems, foldl_addIssues_ofProblems fun _ => isSevere_of_mem_rowProblems]
  rfl

end Walk

/-! ### Two walks -/

section TwoWalks

open Report

variable {r s : Report}

theorem inStep_inspectKind (h : InStep r s) (p : Property) :
    InStep (d.inspectKind true p r) (d.inspectKind false p s) := by
  unfold inspectKind
  cases p.kind with
  | select options | multiSelect options | rollup rollup => exact h.addErrors _
  | formula expression => exact h.addIssues _
  | _ => exact h

theorem inStep_inspectProperties (h : InStep r s) (names : List String)
    (properties : List Property) : InStep (d.inspectProperties true names r properties)
      (d.inspectProperties false names s properties) := by
  induction properties generalizing names r s with
  | nil => exact h
  | cons p ps ih =>
    refine ih (inStep_inspectKind ?_ p) _
    split
    · exact h.addIssues _
    · exact h

theorem inStep_foldl (h : InStep r s) (items : List α) (found : α → List Problem) :
    InStep (items.foldl (fun r item => r.addIssues true (found item)) r)
      (items.foldl (fun r item => r.addIssues false (found item)) s) := by
  induction items generalizing r s with
  | nil => exact h
  | cons item items ih => exact ih (h.addIssues (found item))

theorem inStep_inspectViews (h : InStep r s) :
    InStep (d.inspectViews true r) (d.inspectViews false s) := by
  unfold inspectViews
  split
  · exact h.addIssues _
  · exact inStep_foldl h d.views d.viewProblems

theorem inStep_inspect (d : Document) : InStep (d.inspect true) (d.inspect false) := by
  have hids := ((InStep.empty.addErrors (idProblems .properties (d.properties.map (·.id)))).addErrors
    (idProblems .rows (d.rows.map (·.id)))).addErrors (idProblems .views (d.views.map (·.id)))
  exact inStep_foldl (inStep_inspectViews (inStep_inspectProperties hids [] d.properties)) d.rows
    d.rowProblems

end TwoWalks

/-! ### Both checks of a document -/

/-- A document that is checked may be stored exactly if there are no errors. -/
theorem checked_eq_ok_iff {strict : Bool} {warnings : List String} :
    d.checked strict = .ok warnings ↔
      (d.validate strict).isOk = true ∧ (d.validate strict).warningTexts = warnings := by
  simp only [checked]
  split
  · next hok => simp [hok]
  · next hok => simp [hok]

/-- A strict check and another one of a document differ in nothing but what they call its problems.
The strict one has no warnings, and its errors are the errors and the warnings of the other one, each
of them once and in order. So a document passes the strict check exactly if it passes the other one
without warnings. -/
theorem validate_interleaved (d : Document) :
    (∀ strict, d.validate strict = d.inspect strict) ∧
      (d.validate true).warnings = [] ∧
      Interleaved (d.validate false).errorTexts (d.validate false).warningTexts
        (d.validate true).errorTexts ∧
      ((d.validate true).isOk = true ↔
        (d.validate false).isOk = true ∧ (d.validate false).hasWarnings = false) ∧
      ((∃ warnings, d.checked true = .ok warnings) ↔ d.checked false = .ok []) := by
  have hstep := inStep_inspect d
  rw [← validate_eq_inspect, ← validate_eq_inspect] at hstep
  have hok : (d.validate true).isOk = true ↔
      (d.validate false).isOk = true ∧ (d.validate false).hasWarnings = false := by
    simp only [Report.isOk, Report.hasWarnings, List.isEmpty_iff, Bool.not_eq_false',
      hstep.errors.eq_nil_iff]
  refine ⟨validate_eq_inspect d, hstep.warnings, hstep.errors.map Problem.message, hok, ?_⟩
  simp only [checked_eq_ok_iff, exists_and_left, exists_eq', and_true, hok, Report.hasWarnings,
    Report.warningTexts, Bool.not_eq_false', List.isEmpty_iff, List.map_eq_nil_iff]

end Document

end Databook
