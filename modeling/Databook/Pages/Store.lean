import Databook.Document.Codec

/-!
# Page stores

A `PageStore` keeps the documents of pages as texts. A page whose text is blank has no document.

Stores differ in what else they keep about a page, so the class asks for no more than loading and
saving; `loadOrFresh` and `trySave` work for all of them. A store may be unable to save a document;
it is then left as it is.
-/

namespace Databook

/-- Stores that documents are loaded from and saved to. -/
class PageStore (σ : Type) where
  /-- The document of a page. -/
  load : σ → String → Except Error Document
  /-- Put a document in place of the one that a page has. -/
  save : σ → String → Document → σ
  /-- Why a document cannot be saved at present; none if it can. -/
  saveFault? : σ → String → Document → Option Error := fun _ _ _ => none

namespace PageStore

/-- The document that the text of a page holds; there may be no text at all. -/
def decode (page : String) (text : Option String) : Except Error Document :=
  match text with
  | none => .error (.documentNotFound page)
  | some text =>
    if Text.isAllBlank text then .error (.documentNotFound page) else Document.parse text

/-- The document of a page, or `fresh` if the page has none. -/
def loadOrFresh [PageStore σ] (store : σ) (page : String) (fresh : Document) :
    Except Error Document :=
  match load store page with
  | .error (.documentNotFound _) => .ok fresh
  | result => result

/-- Save a document if that can be done. -/
def trySave [PageStore σ] (store : σ) (page : String) (d : Document) : Except Error σ :=
  match saveFault? store page d with
  | some e => .error e
  | none => .ok (save store page d)

end PageStore

end Databook
