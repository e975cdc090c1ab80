import Databook.Pages.Store

/-!
# Record stores

A `RecordStore` keeps for each page the notebook that it belongs to, the text of its document and
the time of the last write. It has at most one open transaction: the records as they were when the
transaction began are kept aside, to go back to them (`rollBack`) or to be dropped (`commit`).

`inTransaction` runs an action between the two and picks the one that fits its outcome.
-/

namespace Databook

open Calendar

/-- What is stored for a page. -/
structure PageRecord where
  notebook : String
  text : String
  updatedAt : Instant
deriving DecidableEq, Inhabited

/-- The document of a record. -/
def PageRecord.document (r : PageRecord) (page : String) : Except Error Document :=
  PageStore.decode page (some r.text)

/-- Pages with their records. -/
structure RecordStore where
  records : IdMap PageRecord
  /-- The records when the open transaction began; none if no transaction is open. -/
  snapshot : Option (IdMap PageRecord)
  /-- The notebook of documents that are saved; if empty, pages stay in the notebook that they are
  in. -/
  notebook : String
  /-- The time that writes note down. -/
  clock : Instant
deriving Inhabited

namespace RecordStore

/-- The store without pages. -/
def empty : RecordStore := ⟨.empty, none, "", .epoch⟩

def get? (s : RecordStore) (page : String) : Option PageRecord := s.records.get? page

/-- Store a text as it is. -/
def putText (s : RecordStore) (page notebook text : String) : RecordStore :=
  { s with records := s.records.insert page ⟨notebook, text, s.clock⟩ }

/-- Store a document in a notebook. -/
def put (s : RecordStore) (page notebook : String) (d : Document) : RecordStore :=
  s.putText page notebook d.toText

/-- Remove a page; tells whether there was one. -/
def remove (s : RecordStore) (page : String) : Bool × RecordStore :=
  (s.records.contains page, { s with records := s.records.erase page })

/-- The pages with their records, in order, or only those of one notebook. -/
def list (s : RecordStore) (notebook : Option String) : List (String × PageRecord) :=
  match notebook with
  | none => s.records.entries
  | some notebook => s.records.entries.filter (·.2.notebook == notebook)

/-- The notebook that a document is saved in. -/
def notebookFor (s : RecordStore) (page : String) : String :=
  if s.notebook.isEmpty then ((s.get? page).map (·.notebook)).getD "" else s.notebook

instance : PageStore RecordStore where
  load s page := PageStore.decode page ((s.get? page).map (·.text))
  save s page d := s.put page (s.notebookFor page) d

/-! ### Transactions -/

/-- Open a transaction. -/
def begin (s : RecordStore) : Except Error RecordStore :=
  match s.snapshot with
  | some _ => .error (.transaction .alreadyOpen)
  | none => .ok { s with snapshot := some s.records }

/-- Keep what has been written since the transaction began. -/
def commit (s : RecordStore) : Except Error RecordStore :=
  match s.snapshot with
  | some _ => .ok { s with snapshot := none }
  | none => .error (.transaction .nothingToCommit)

/-- Go back to the records of when the transaction began. -/
def rollBack (s : RecordStore) : Except Error RecordStore :=
  match s.snapshot with
  | some records => .ok { s with records, snapshot := none }
  | none => .error (.transaction .nothingToRollBack)

/-- Run an action in a transaction of its own: what it writes is kept if it succeeds, and taken back
if it fails. Nothing is run while another transaction is open. -/
def inTransaction (s : RecordStore) (action : RecordStore → Except Error α × RecordStore) :
    Except Error α × RecordStore :=
  match s.begin with
  | .error e => (.error e, s)
  | .ok opened =>
    match action opened with
    | (.ok value, s) =>
      match s.commit with
      | .ok s => (.ok value, s)
      | .error e => (.error e, s)
    | (.error e, s) => (.error e, s.rollBack.toOption.getD s)

end RecordStore

end Databook
