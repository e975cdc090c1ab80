import Databook.Settings
import Databook.Error
import Databook.Calendar.DateText
import Databook.Yaml.Node
import Databook.Yaml.Scalar

/-!
# Settings as text

Settings are written as a YAML mapping with the keys `today`, `no_value_label` and
`strict_validation`, each at most once; other keys count for nothing. What is left out is as in
`Settings.standard`, and so is everything if the text is blank.
-/

namespace Databook.Settings

open Calendar Yaml

/-- A setting: its key and what its value does to the settings, if it has the right form. -/
structure Field where
  key : String
  set : Settings → Node → Option Settings

/-- The tag of scalars that stand for nothing. -/
def nullTag : String := "tag:yaml.org,2002:null"

/-- The tag of truth values. -/
def boolTag : String := "tag:yaml.org,2002:bool"

/-- Does a scalar stand for no date? With a tag it has to be the right one, and then no date can
follow. -/
def standsForNoDate? (text : String) (style : Style) (tag : Option String) : Option Bool :=
  if style ≠ .plain then some false
  else match tag with
    | none => some (text.isEmpty || isNull text)
    | some tag =>
      if tag ≠ nullTag then some false
      else if isNull text then some true
      else none

/-- A date, or nothing. -/
def readToday (s : Settings) : Node → Option Settings
  | .scalar text style tag => do
    if ← standsForNoDate? text style tag then return { s with today := none }
    return { s with today := some (← Date.readSpaced? text) }
  | _ => none

/-- Any scalar. -/
def readLabel (s : Settings) : Node → Option Settings
  | .scalar text _ _ => some { s with noValueLabel := text }
  | _ => none

/-- A truth value without quotes, or in a block that is tagged as one. -/
def readStrict (s : Settings) : Node → Option Settings
  | .scalar text style tag =>
    if style = .plain ∨ style = .literal ∧ tag = some boolTag then
      (bool? text).map fun b => { s with strictValidation := b }
    else none
  | _ => none

/-- The settings that can be made. -/
def fields : List Field :=
  [⟨"today", readToday⟩, ⟨"no_value_label", readLabel⟩, ⟨"strict_validation", readStrict⟩]

/-- Apply the entries of a mapping in a document. `seen` are the keys that have been set. -/
def ofEntries (document : Node) (seen : List String) (s : Settings) :
    List (Node × Node) → Option Settings
  | [] => some s
  | (key, value) :: entries =>
    match document.follow? key with
    | some (.scalar key _ _) =>
      match fields.find? (·.key == key) with
      | none => ofEntries document seen s entries
      | some field =>
        if seen.contains key then none
        else do
          let s ← field.set s (← document.follow? value)
          ofEntries document (key :: seen) s entries
    | _ => none

/-- The settings of a YAML document. -/
def ofDocument (document : Node) : Option Settings :=
  match document.content with
  | .mapping entries => ofEntries document [] standard entries
  | .scalar text style _ => if style = .plain ∧ text.isEmpty then some standard else none
  | _ => none

/-- The settings of a text. -/
def parse (s : String) : Except Error Settings :=
  if Text.isAllBlank s then .ok standard
  else match (Node.read? s).bind ofDocument with
    | some settings => .ok settings
    | none => .error .settings

end Databook.Settings
