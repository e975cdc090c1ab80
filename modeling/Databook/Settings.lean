import Databook.Calendar.Date

/-!
# Settings

What can be set about how views are made and documents are checked. `Databook.Settings.Text` reads
settings from a text.
-/

namespace Databook

open Calendar

/-- The settings. -/
structure Settings where
  /-- The date that formulas take for the current one; if none, they take the current date. -/
  today : Option Date
  /-- The label of the group of the rows without a value. -/
  noValueLabel : String
  /-- Is everything that is wrong with a document an error? -/
  strictValidation : Bool
deriving DecidableEq

namespace Settings

/-- What holds unless it is set otherwise. -/
def standard : Settings := ⟨none, "No value", false⟩

instance : Inhabited Settings := ⟨standard⟩

/-- The date of formulas on a given day. -/
def date (s : Settings) (current : Date) : Date := s.today.getD current

end Settings

end Databook
