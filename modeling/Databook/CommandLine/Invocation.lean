import Databook.CommandLine.Arguments
import Databook.Text.Search

/-!
# Commands

A `Command` is one thing to do with the documents of a record store or with a formula, and an
`Invocation` is a command with the store, the settings and the format of the output.
`Invocation.parse` reads it from arguments: first the options that all commands have, then the name
of the command, then its own options and operands.
-/

namespace Databook.CommandLine

/-- The formats of output. -/
inductive Format where
  | yaml | json
deriving DecidableEq, Inhabited

/-- The format of a name. -/
def Format.named? : String → Option Format
  | "yaml" => some .yaml
  | "json" => some .json
  | _ => none

/-- What to do. -/
inductive Command where
  /-- Store the document of a file for a page. -/
  | importFile (page file notebook : String)
  /-- Write the document of a page. -/
  | exportPage (page : String)
  /-- List the pages, or those of a notebook. -/
  | list (notebook : Option String)
  /-- Evaluate a formula with values for columns. -/
  | eval (formula : String) (columns : List (String × String))
  /-- List the columns that a formula refers to. -/
  | references (formula : String)
  /-- Materialize a view, or all views. -/
  | materialize (page : String) (view : Option String)
  /-- Write a cell; the property is given by id or name. -/
  | set (page row property value : String)
  /-- Link a row by a back relation to exactly some rows. -/
  | link (page property row : String) (targets : List String)
  /-- Check a document. -/
  | validate (page : String)
  /-- Write a document as a markdown table. -/
  | table (page : String) (title : Option String)
deriving DecidableEq, Inhabited

namespace Command

/-- The names of the commands. -/
def names : List String :=
  ["import", "export", "list", "eval", "refs", "materialize", "set", "link", "validate", "table"]

/-- The options of the command of a name. -/
def options (name : String) : List OptionSpec :=
  match name with
  | "import" | "list" => [⟨"notebook", false⟩]
  | "eval" => [⟨"var", true⟩]
  | "materialize" => [⟨"view", false⟩]
  | "link" => [⟨"target", true⟩]
  | "table" => [⟨"title", false⟩]
  | _ => []

/-- The command of a name with its arguments, if their number is right. -/
def ofArguments? (name : String) (a : Arguments) : Option Command :=
  match name, a.operands with
  | "import", [page, file] => some (.importFile page file ((a.value? "notebook").getD ""))
  | "export", [page] => some (.exportPage page)
  | "list", [] => some (.list (a.value? "notebook"))
  | "eval", [formula] =>
    ((a.values "var").mapM (Text.splitAtChar? '=')).map fun columns => .eval formula columns
  | "refs", [formula] => some (.references formula)
  | "materialize", [page] => some (.materialize page (a.value? "view"))
  | "set", [page, row, property, value] => some (.set page row property value)
  | "link", [page, property, row] => some (.link page property row (a.values "target"))
  | "validate", [page] => some (.validate page)
  | "table", [page] => some (.table page (a.value? "title"))
  | _, _ => none

/-- Why a request for help is not a command: it may name the command that help is wanted for. -/
def helpHalt : List String → Halt
  | [] => .help
  | [name] => if name = "help" || names.contains name then .help else .misuse
  | _ => .misuse

/-- The command of a name, read from its arguments. -/
def parse (name : String) (args : List String) : Except Halt Command := do
  if name = "help" then throw (helpHalt args)
  if !names.contains name then throw .misuse
  let arguments ← Arguments.read (options name) args
  match ofArguments? name arguments with
  | some command => return command
  | none => throw .misuse

end Command

/-- Does a command work on the documents of a store? -/
def Command.usesStore : Command → Bool
  | .eval .. | .references .. => false
  | _ => true

/-- A command with what all commands have. -/
structure Invocation where
  /-- The path of the record store. -/
  store : String
  /-- The path of the settings, if there are any. -/
  settings : Option String
  format : Format
  command : Command
deriving DecidableEq, Inhabited

namespace Invocation

/-- The path of the record store if none is given. -/
def standardStore : String := "celldb.sqlite"

/-- The options that all commands have. -/
def options : List OptionSpec := [⟨"db", false⟩, ⟨"config", false⟩, ⟨"format", false⟩]

/-- Read an invocation from arguments. -/
def parse (args : List String) : Except Halt Invocation := do
  let (a, rest) ← Arguments.scan options true ⟨[], []⟩ args
  let some format := Format.named? ((a.value? "format").getD "yaml") | throw .misuse
  match rest with
  | [] => throw .misuse
  | name :: args =>
    return { store := (a.value? "db").getD standardStore, settings := a.value? "config", format,
             command := ← Command.parse name args }

/-- The files that an invocation reads besides the store. -/
def files (i : Invocation) : List String :=
  i.settings.toList ++ match i.command with
    | .importFile _ file _ => [file]
    | _ => []

end Invocation

end Databook.CommandLine
