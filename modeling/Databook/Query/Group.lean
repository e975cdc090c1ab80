import Databook.Document.Index

/-!
# Groups of rows

`groupRows` parts rows by the value of a property. Rows of a select property are grouped by option,
in the order of the options, and a row with several options is in several groups; rows of any other
property are grouped by the text of the value, in the order in which the texts appear. Rows without
a value come last. Every group has rows, and lists them in their order.
-/

namespace Databook

/-- Rows that have a value in common. -/
structure RowGroup where
  /-- The option or the text of the value; none for rows without a value. -/
  key : Option String
  label : String
  rowIds : List String
deriving DecidableEq, Inhabited

/-- The groups of rows by the options that they name. Of options with one id the first gets the rows. -/
def groupByOption (options : List SelectOption) (valueOf : Row → Cell) (rows : List Row) :
    List RowGroup :=
  let members : RowIndex :=
    .ofRows (fun row => (valueOf row).ids.filter fun id => options.any (·.id == id)) rows
  (members.handOut SelectOption.id options).filterMap fun (option, rowIds?) =>
    rowIds?.map fun rowIds => ⟨some option.id, option.label, rowIds⟩

/-- Put a row into the group of a text, which is opened if it is not there. -/
def joinGroup (text row : String) : List RowGroup → List RowGroup
  | [] => [⟨some text, text, [row]⟩]
  | g :: groups =>
    if g.key == some text then { g with rowIds := g.rowIds ++ [row] } :: groups
    else g :: joinGroup text row groups

/-- The groups of rows by the texts of their values. -/
def groupByText (valueOf : Row → Cell) (rows : List Row) : List RowGroup :=
  rows.foldl (fun groups row =>
    if (valueOf row).isEmpty then groups else joinGroup (valueOf row).display row.id groups) []

/-- Does the row belong to no group of a property? -/
def hasNoGroup (kind : PropertyKind) (c : Cell) : Bool :=
  match kind with
  | .select options | .multiSelect options =>
    !c.ids.any fun id => options.any (·.id == id)
  | _ => c.isEmpty

/-- The groups of rows by a property; `noValueLabel` is the label of the last one. -/
def groupRows (p : Property) (noValueLabel : String) (valueOf : Row → Cell) (rows : List Row) :
    List RowGroup :=
  let groups := match p.kind with
    | .select options | .multiSelect options => groupByOption options valueOf rows
    | _ => groupByText valueOf rows
  let rest := rows.filter fun row => hasNoGroup p.kind (valueOf row)
  if rest.isEmpty then groups
  else groups ++ [⟨none, noValueLabel, rest.map (·.id)⟩]

end Databook
