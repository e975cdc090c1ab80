import Databook.CommandLine.Invocation
import Databook.CommandLine.Workspace
import Databook.Columns.BackLink
import Databook.Display.Markdown
import Databook.Validation.Report
import Databook.View.Codec
import Databook.Settings.Text
import Databook.Yaml.Text

/-!
# Running commands

`Invocation.run` carries out a command in a workspace. A command reads its settings first, and a
formula is evaluated without opening a store. What a command has written by the time it fails stays
written; each of them writes once at most, and after all that can fail.
-/

namespace Databook.CommandLine

open Calendar

/-- What is done to a state and may fail. Changes that have been made before a failure stay made. -/
abbrev Act (σ α : Type) := ExceptT Error (StateM σ) α

/-- The outcome of an act, and the state afterwards. -/
def Act.applyTo (a : Act σ α) (s : σ) : Except Error α × σ := a.run s

/-- What a command needs besides the workspace. -/
structure Surroundings where
  /-- The current time. -/
  now : Instant
  /-- The id of an option that is added at a place. -/
  freshId : Nat → String

/-- The value that a text on the command line stands for: a JSON value, or else the text. -/
def readCell (s : String) : Cell :=
  match Json.parse s with
  | .ok j => .ofJson j
  | .error _ => .text s

/-- A value as output. -/
def Format.render (f : Format) (j : Json) : String :=
  match f with
  | json => j.pretty ++ "\n"
  | yaml => j.yaml

/-- The property that is given by its id or name. -/
def findProperty (d : Document) (given : String) : Except Error Property :=
  match (d.property? given).or (d.propertyNamed? given) with
  | some p => .ok p
  | none => .error (.propertyNotFound given)

/-! ### Commands about formulas -/

/-- The value of a formula. -/
def evalFormula (formula : String) (columns : List (String × String)) (today : Date) :
    Except Error Json := do
  let context : Formula.Context := .ofList (columns.map fun (name, value) => (name, readCell value))
  let e ← (Formula.parse formula).mapError .formula
  let value ← (e.eval today context).mapError .evaluation
  return .object [("value", value.toJson)]

/-! ### Commands that change the store -/

/-- The document of a page. -/
def loadPage (page : String) : Act RecordStore Document := do PageStore.load (← get) page

/-- Store the document of a text. -/
def importText (page text notebook : String) (settings : Settings) : Act RecordStore Json := do
  let d ← Document.parse text
  let warnings ← d.checked settings.strictValidation
  modify (·.put page notebook d)
  return .object [("ok", .bool true), ("page_id", .string page), ("rows", .ofNat d.rows.length),
    ("warnings", .ofTexts warnings)]

/-- Write a cell with what a user enters. -/
def setCell (page row given value : String) (around : Surroundings) (settings : Settings) :
    Act RecordStore Json := do
  let d ← loadPage page
  let found ← findProperty d given
  let p := (d.property? found.id).getD found
  let (stored, p) := p.acceptInput around.freshId (readCell value)
  let d ← (d.replaceProperty p).setCell row p.id stored around.now
  let _ ← d.checked settings.strictValidation
  modify (PageStore.save · page d)
  return .object [("ok", .bool true), ("property_id", .string p.id), ("row_id", .string row),
    ("value", stored.toJson)]

/-- Link a row by a back relation. -/
def linkRow (page given row : String) (targets : List String) (around : Surroundings) :
    Act RecordStore Json := do
  let d ← loadPage page
  let p ← findProperty d given
  let (change, store, _) ← d.setBackLinks p.id row targets around.now (← get) .empty
  set store
  return change.toJson

/-! ### Commands that read the store -/

/-- The pages with their notebooks and times. -/
def listPages (notebook : Option String) (store : RecordStore) : Json :=
  .ofList (fun (page, r) => .object [("notebook_id", .string r.notebook), ("page_id", .string page),
    ("updated_at", .string r.updatedAt.toStamp)]) (store.list notebook)

/-- Materialized views of a page. -/
def materializePage (page : String) (view : Option String) (around : Surroundings)
    (settings : Settings) (store : RecordStore) : Except Error Json := do
  let d ← PageStore.load store page
  match view with
  | some view =>
    let (v, _) ← d.materialize view store .empty settings around.now.date
    return v.toJson
  | none =>
    let (views, _) := d.materializeAll store .empty settings around.now.date
    return .ofList MaterializedView.toJson views

/-- The report on a page. -/
def validatePage (page : String) (settings : Settings) (store : RecordStore) :
    Except Error Json := do
  let d ← PageStore.load store page
  let report := d.validate settings.strictValidation
  return .object [("errors", .ofTexts report.errorTexts), ("warnings", .ofTexts report.warningTexts)]

/-! ### Invocations -/

/-- Carry out a command that uses a store. -/
def Invocation.runInStore (i : Invocation) (w : Workspace) (around : Surroundings)
    (settings : Settings) : Act RecordStore String := do
  match i.command with
  | .importFile page file notebook =>
    return i.format.render (← importText page (← w.read file) notebook settings)
  | .set page row property value =>
    return i.format.render (← setCell page row property value around settings)
  | .link page property row targets =>
    return i.format.render (← linkRow page property row targets around)
  | .exportPage page => return (← loadPage page).toText ++ "\n"
  | .table page title => return (← loadPage page).markdown (title.getD page) ++ "\n"
  | .list notebook => return i.format.render (listPages notebook (← get))
  | .materialize page view =>
    return i.format.render (← materializePage page view around settings (← get))
  | .validate page => return i.format.render (← validatePage page settings (← get))
  | .eval .. | .references .. => return ""

/-- Do something to a store. The store is kept, whatever comes of it. -/
def withStore (path : String) (store : RecordStore) (a : Act RecordStore α) : Act Workspace α := do
  let (result, store) := a.applyTo store
  modify (·.keepStore path store)
  result

/-- The settings of an invocation. -/
def Invocation.readSettings (i : Invocation) (w : Workspace) : Except Error Settings :=
  match i.settings with
  | some path => do Settings.parse (← w.read path)
  | none => .ok .standard

/-- Carry out an invocation. -/
def Invocation.run (i : Invocation) (around : Surroundings) : Act Workspace String := do
  let w ← get
  let settings ← i.readSettings w
  match i.command with
  | .eval formula columns =>
    return i.format.render (← evalFormula formula columns (settings.date around.now.date))
  | .references formula => return i.format.render (.ofTexts (← references formula))
  | _ =>
    let store ← w.openStore i.store
    withStore i.store { store with clock := around.now } (i.runInStore w around settings)

/-- What a run of the program shows. -/
structure Outcome where
  exitCode : Nat
  output : String
  errors : String
deriving DecidableEq, Inhabited

/-- The version of the program. -/
def versionText : String := "celldb 0.1.0\n"

/-- How the program is used. -/
def usageText : String :=
  "Usage: celldb [--db PATH] [--config PATH] [--format yaml|json] COMMAND\n\nCommands: " ++
    Text.join ", " Command.names ++ "\n"

/-- Run the program with some arguments: what it shows and the workspace afterwards. -/
def runArguments (args : List String) (w : Workspace) (around : Surroundings) : Outcome × Workspace :=
  match Invocation.parse args with
  | .error .misuse => (⟨2, "", usageText⟩, w)
  | .error .help => (⟨0, usageText, ""⟩, w)
  | .error .version => (⟨0, versionText, ""⟩, w)
  | .ok i =>
    match (i.run around).applyTo w with
    | (.ok output, w) => (⟨0, output, ""⟩, w)
    | (.error e, w) => (⟨1, "", "ERROR:" ++ e.message ++ "\n"⟩, w)

end Databook.CommandLine
