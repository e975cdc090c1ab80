import Databook.Document.Property
import Databook.Text.Casing

/-!
# Option labels

Select cells hold the ids of options, users see and type labels. `Property.shownText` goes from the
stored value to labels; `Property.acceptInput` goes from labels to ids, and adds an option for each
label that is new. Labels are the same if they differ in case only.
-/

namespace Databook

open Text

/-- The label of an option, or its id if there is no such option. -/
def Property.labelOf (p : Property) (id : String) : String := (p.optionLabel? id).getD id

/-- The text that stands for a stored value, with the labels of options. -/
def Property.shownText (p : Property) (c : Cell) : String :=
  match p.kind, c with
  | .select _, .text id => p.labelOf id
  | .multiSelect _, .list ids => join ", " (ids.map p.labelOf)
  | _, c => c.display

/-- The id of the option with a label, and the options with that one in them. `freshId` gives the
id of an option that is added at a place. -/
def optionForLabel (freshId : Nat → String) (options : List SelectOption) (label : String) :
    String × List SelectOption :=
  match options.find? fun o => toLower o.label == toLower label with
  | some o => (o.id, options)
  | none =>
    let option := SelectOption.fresh (freshId options.length) label options.length
    (option.id, options ++ [option])

/-- The ids of the options with some labels, and the options with those in them. -/
def optionsForLabels (freshId : Nat → String) (options : List SelectOption) :
    List String → List String × List SelectOption
  | [] => ([], options)
  | label :: labels =>
    let (id, options) := optionForLabel freshId options label
    let (ids, options) := optionsForLabels freshId options labels
    (id :: ids, options)

/-- The value to store for what a user enters, and the property with the options that are new.
Properties other than selects take what is entered as it is. -/
def Property.acceptInput (p : Property) (freshId : Nat → String) (c : Cell) : Cell × Property :=
  match p.kind, c with
  | .select options, .text label =>
    let (id, options) := optionForLabel freshId options label
    (.text id, { p with kind := .select options })
  | .multiSelect options, .list labels =>
    let (ids, options) := optionsForLabels freshId options labels
    (.list ids, { p with kind := .multiSelect options })
  | .multiSelect options, .text label =>
    if label.isEmpty then (c, p)
    else
      let (id, options) := optionForLabel freshId options label
      (.list [id], { p with kind := .multiSelect options })
  | _, c => (c, p)

end Databook
