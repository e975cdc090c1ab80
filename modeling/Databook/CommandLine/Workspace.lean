import Databook.Pages.Records

/-!
# Workspaces

A `Workspace` holds the files and the record stores that commands work on, by their paths. A store
that is not there yet is made when it is opened; stores without a path, and those of the path
`:memory:`, are not kept.
-/

namespace Databook.CommandLine

/-- Texts of files and record stores by path. -/
structure Workspace where
  files : IdMap String
  stores : IdMap RecordStore
deriving Inhabited

namespace Workspace

/-- The workspace with some files and no stores. -/
def ofFiles (files : List (String × String)) : Workspace := ⟨.ofList files, .empty⟩

/-- A path without the dot for the place where one is. -/
def plainPath (path : String) : String :=
  match path.toList with
  | '.' :: '/' :: cs => String.ofList cs
  | _ => path

/-- The text of a file. -/
def read (w : Workspace) (path : String) : Except Error String :=
  match w.files.get? (plainPath path) with
  | some text => .ok text
  | none => .error .fileNotFound

/-- Is the store of a path kept after it has been used? -/
def isKept (path : String) : Bool := !(path.isEmpty || path == ":memory:")

/-- The store of a path. There is a place for a new one next to the other files only. -/
def openStore (w : Workspace) (path : String) : Except Error RecordStore :=
  let plain := plainPath path
  if !isKept path then .ok .empty
  else match w.stores.get? plain, w.files.get? plain with
    | some store, _ => .ok store
    | none, some text => if text.isEmpty then .ok .empty else .error .notAStore
    | none, none =>
      if plain.isEmpty || plain.contains '/' then .error (.storeUnavailable path) else .ok .empty

/-- Keep a store. -/
def keepStore (w : Workspace) (path : String) (store : RecordStore) : Workspace :=
  if isKept path then { w with stores := w.stores.insert (plainPath path) store } else w

end Workspace

end Databook.CommandLine
