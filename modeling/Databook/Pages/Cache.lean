import Databook.Pages.Store

/-!
# Caches of related documents

While the columns of a document are computed, the documents that it is related to are kept in a
`DocumentCache`, so that each page is read once only. A page that cannot be loaded is noted down as
such and not tried again.

`load` makes sure that a page is in the cache, `find?` is what the cache knows of it.
-/

namespace Databook

/-- Pages with their documents; without one for those that could not be loaded. -/
structure DocumentCache where
  documents : IdMap (Option Document)
deriving Inhabited

namespace DocumentCache

/-- The cache without pages. -/
def empty : DocumentCache := ⟨.empty⟩

/-- The document of a page, as far as it is in the cache. -/
def find? (c : DocumentCache) (page : String) : Option Document := (c.documents.get? page).join

/-- Load a page unless it is in the cache. -/
def load [PageStore σ] (c : DocumentCache) (store : σ) (page : String) : DocumentCache :=
  if c.documents.contains page then c
  else ⟨c.documents.insert page (PageStore.load store page).toOption⟩

/-- Load several pages. -/
def loadAll [PageStore σ] (c : DocumentCache) (store : σ) (pages : List String) : DocumentCache :=
  pages.foldl (·.load store ·) c

/-- Note down a document of a page. -/
def insert (c : DocumentCache) (page : String) (d : Document) : DocumentCache :=
  ⟨c.documents.insert page (some d)⟩

/-- Forget a page. -/
def invalidate (c : DocumentCache) (page : String) : DocumentCache := ⟨c.documents.erase page⟩

/-- The number of pages, with those that could not be loaded. -/
def size (c : DocumentCache) : Nat := c.documents.size

def isEmpty (c : DocumentCache) : Bool := c.documents.isEmpty

end DocumentCache

end Databook
