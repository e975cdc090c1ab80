import Databook.Formula.Parser
import Databook.Formula.Function
import Databook.Json.Decode

/-!
# Errors

Everything that can go wrong in the library, by its cause. `Error.message` words it for the user.
-/

namespace Databook

/-- Why the transactions of a record store cannot go on as asked. -/
inductive TransactionError where
  /-- A transaction is begun while one is open. -/
  | alreadyOpen
  /-- A transaction is committed while none is open. -/
  | nothingToCommit
  /-- A transaction is rolled back while none is open. -/
  | nothingToRollBack
deriving DecidableEq, Inhabited

def TransactionError.message : TransactionError → String
  | alreadyOpen => "cannot start a transaction within a transaction"
  | nothingToCommit => "cannot commit - no transaction is active"
  | nothingToRollBack => "cannot rollback - no transaction is active"

/-- Why a property cannot be used as asked. -/
inductive PropertyFault where
  /-- The setting that its type needs is missing. -/
  | missingSetting (type setting : String)
  /-- Its values are computed and cannot be written. -/
  | computedValues (type : String)
deriving DecidableEq, Inhabited

def PropertyFault.message : PropertyFault → String
  | missingSetting type setting => type ++ " property is missing " ++ setting
  | computedValues type => type ++ " values are computed and cannot be written"

/-- What went wrong. -/
inductive Error where
  /-- A formula cannot be read. -/
  | formula (e : Formula.SyntaxError)
  /-- A formula has no value. -/
  | evaluation (e : Formula.EvalError)
  /-- Formulas or other nodes depend on each other in a circle. -/
  | circular (path : List String)
  | documentNotFound (page : String)
  | notABackRelation (property : String)
  /-- The document on the other side of a relation cannot be loaded. -/
  | targetUnavailable (page : String) (cause : Error)
  | forwardPropertyMissing (page property : String)
  | propertyNotFound (name : String)
  | viewNotFound (id : String)
  | rowNotFound (id : String)
  | invalidProperty (name : String) (fault : PropertyFault)
  /-- A document breaks these rules. -/
  | invalidDocument (failures : List String)
  | json (fault : Json.Fault)
  /-- Settings cannot be read. -/
  | settings
  | fileNotFound
  | transaction (e : TransactionError)
  /-- A file that is no record store is used as one. -/
  | notAStore
  /-- There is no place for a record store. -/
  | storeUnavailable (path : String)
  | other (message : String)
deriving Inhabited

namespace Error

/-- The path of a circle, or of anything else that leads from one to the next. -/
def pathText (path : List String) : String := Text.join " -> " path

/-- The error in words. -/
def message : Error → String
  | formula (.lexical e position) =>
    "Tokenize error at position " ++ toString position ++ ": " ++ e.message
  | formula (.grammatical e position) =>
    "Parse error at position " ++ toString position ++ ": " ++ e.message
  | evaluation e => e.message
  | circular path => "Circular reference: " ++ pathText path
  | documentNotFound page => "Document not found: " ++ page
  | notABackRelation property => "Relation resolution error: '" ++ property ++ "' is not a back relation"
  | targetUnavailable page cause =>
    "Relation resolution error: Cannot load target document " ++ page ++ ": " ++ cause.message
  | forwardPropertyMissing page property =>
    "Relation resolution error: Target document " ++ page ++ " has no relation property " ++ property
  | propertyNotFound name => "Property not found: " ++ name
  | viewNotFound id => "View not found: " ++ id
  | rowNotFound id => "Row not found: " ++ id
  | invalidProperty name fault => "Invalid property '" ++ name ++ "': " ++ fault.message
  | invalidDocument failures =>
    "Validation error: Database validation failed:\n  - " ++ Text.join "\n  - " failures
  | json _ => "JSON error"
  | settings => "YAML error"
  | fileNotFound => "IO error: No such file or directory (os error 2)"
  | transaction e => "SQLite error: " ++ e.message
  | notAStore => "SQLite error: file is not a database"
  | storeUnavailable path => "SQLite error: unable to open database file: " ++ path
  | other message => message

/-- Is it an error of a formula, which is reported in the cell of the formula? -/
def isFormulaError : Error → Bool
  | formula _ | evaluation _ | circular _ => true
  | _ => false

end Error

end Databook
