import Databook.Pages.Store

/-!
# Page stores in memory

A `MemoryStore` is a map from pages to the texts of their documents.
-/

namespace Databook

/-- The texts of the documents by page. -/
structure MemoryStore where
  texts : IdMap String
deriving Inhabited

namespace MemoryStore

/-- The store without pages. -/
def empty : MemoryStore := ⟨.empty⟩

/-- Store a text as it is. -/
def putText (s : MemoryStore) (page text : String) : MemoryStore := ⟨s.texts.insert page text⟩

/-- Remove a page; tells whether there was one. -/
def remove (s : MemoryStore) (page : String) : Bool × MemoryStore :=
  (s.texts.contains page, ⟨s.texts.erase page⟩)

/-- The pages, in order. -/
def pages (s : MemoryStore) : List String := s.texts.keys

instance : PageStore MemoryStore where
  load s page := PageStore.decode page (s.texts.get? page)
  save s page d := s.putText page d.toText

end MemoryStore

end Databook
