import Databook.Pages.Records

/-!
# Record stores as files

The records of a store are written as a JSON array, one object per page. A transaction that is open
is not written.
-/

namespace Databook

open Json (Decoder Record)
open Calendar

/-- A page with its record. -/
def pageRecordDecoder : Decoder (String × PageRecord) :=
  ((fun page notebook text updatedAt => (page, ⟨notebook, text, updatedAt⟩))
    <$> Record.required "page" Decoder.string
    <*> Record.required "notebook" Decoder.string
    <*> Record.required "text" Decoder.string
    <*> Record.required "updatedAt" Instant.decoder).decode

def pageRecordJson (entry : String × PageRecord) : Json :=
  let (page, r) := entry
  .object [("page", .string page), ("notebook", .string r.notebook), ("text", .string r.text),
    ("updatedAt", .string r.updatedAt.toText)]

namespace RecordStore

/-- The text of a file for a store. -/
def toFile (s : RecordStore) : String := (Json.ofList pageRecordJson s.records.entries).pretty ++ "\n"

/-- The store that the text of a file holds. -/
def ofFile? (text : String) : Option RecordStore :=
  match Decoder.decode (.list pageRecordDecoder) text with
  | .ok entries => some { empty with records := .ofList entries }
  | .error _ => none

end RecordStore

end Databook
