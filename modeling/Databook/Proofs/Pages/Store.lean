import Databook.Pages.Memory
import Databook.Pages.Records
import Databook.Proofs.Document.Reloaded

/-!
# Stores that keep texts

A store of `TextPages` keeps a text for each page: saving a document writes its text and leaves all
other pages alone, and loading a page reads its text. What is loaded from one can be stored
(`PageStore.storable_of_load`), and what is saved is loaded again as it is stored
(`PageStore.load_save`). If it holds doubles that are not read as they were written, it still keeps
its shape (`PageStore.sameShape_of_load_save`). In a `LawfulPageStore` saving never fails either. The
stores of the library are lawful.

Of a store that keeps its documents in another way, or cannot always save them, no more is asked than
that saving a page leaves the other pages alone (`SeparatePages`).
-/

namespace Databook

/-- Stores in which saving a page leaves the other pages alone. -/
class SeparatePages (σ : Type) [PageStore σ] : Prop where
  load_save_of_ne (s : σ) (d : Document) {page other : String} (h : other ≠ page) :
    PageStore.load (PageStore.save s page d) other = PageStore.load s other

/-- Stores that keep a text for each page. -/
class LawfulPageStore (σ : Type) [PageStore σ] where
  /-- The text of a page. -/
  text? : σ → String → Option String
  load_eq (s : σ) (page : String) : PageStore.load s page = PageStore.decode page (text? s page)
  text?_save (s : σ) (page : String) (d : Document) (other : String) :
    text? (PageStore.save s page d) other = if other = page then some d.toText else text? s other
  saveFault?_eq (s : σ) (page : String) (d : Document) : PageStore.saveFault? s page d = none

/-- Stores that keep a text for each page, and need not be able to save every document. -/
class TextPages (σ : Type) [PageStore σ] where
  /-- The text of a page. -/
  text? : σ → String → Option String
  load_eq (s : σ) (page : String) : PageStore.load s page = PageStore.decode page (text? s page)
  text?_save (s : σ) (page : String) (d : Document) (other : String) :
    text? (PageStore.save s page d) other = if other = page then some d.toText else text? s other

instance {σ : Type} [PageStore σ] [LawfulPageStore σ] : TextPages σ where
  text? := LawfulPageStore.text?
  load_eq := LawfulPageStore.load_eq
  text?_save := LawfulPageStore.text?_save

instance : LawfulPageStore MemoryStore where
  text? s page := s.texts.get? page
  load_eq _ _ := rfl
  text?_save s page d other := IdMap.get?_insert s.texts page other d.toText
  saveFault?_eq _ _ _ := rfl

instance : LawfulPageStore RecordStore where
  text? s page := (s.get? page).map (·.text)
  load_eq _ _ := rfl
  text?_save s page d other := by
    have hget := IdMap.get?_insert s.records page other
      ⟨s.notebookFor page, d.toText, s.clock⟩
    have hsave : (PageStore.save s page d).get? other = if other = page then
      some ⟨s.notebookFor page, d.toText, s.clock⟩ else s.get? other := hget
    rw [hsave]
    split <;> rfl
  saveFault?_eq _ _ _ := rfl

/-- The text of a document starts with a brace. -/
theorem Document.isAllBlank_toText (d : Document) : Text.isAllBlank d.toText = false := by
  obtain ⟨cs, hcs⟩ : ∃ cs, d.toJson.prettyChars 0 = '\x7b' :: cs := ⟨_, rfl⟩
  unfold toText Json.pretty Text.isAllBlank
  rw [hcs, String.toList_ofList]
  rfl

namespace PageStore

variable {σ : Type} [PageStore σ] [TextPages σ] {s : σ} {page : String} {d : Document}

/-- What is loaded has been read from the text of the page. -/
theorem parse_of_load (h : load s page = .ok d) :
    ∃ text, TextPages.text? s page = some text ∧ Document.parse text = .ok d := by
  rw [TextPages.load_eq] at h
  cases htext : TextPages.text? s page with
  | none =>
    rw [htext] at h
    cases h
  | some text =>
    rw [htext, decode] at h
    split at h
    · cases h
    · exact ⟨text, rfl, h⟩

theorem storable_of_load (h : load s page = .ok d) : d.Storable := by
  obtain ⟨_, -, hparse⟩ := parse_of_load h
  exact Document.storable_of_parse hparse

/-- What is saved is loaded again as it is stored. -/
theorem load_save (s : σ) (page : String) (hd : d.Storable) (hdoubles : d.DoublesReadBack) :
    load (save s page d) page = .ok d.stored := by
  rw [TextPages.load_eq, TextPages.text?_save, if_pos rfl, decode,
    d.isAllBlank_toText, if_neg Bool.false_ne_true]
  exact Document.parse_toText hd hdoubles

/-- Whatever is loaded after a document has been saved has its shape. -/
theorem sameShape_of_load_save {d' : Document}
    (hproperties : ∀ p ∈ d.properties, p.Storable (Json.fullRoom - 1 - 1)) (hfits : d.toJson.Fits)
    (h : load (save s page d) page = .ok d') : d.SameShape d' := by
  obtain ⟨text, htext, hparse⟩ := parse_of_load h
  rw [TextPages.text?_save, if_pos rfl] at htext
  cases htext
  exact Document.sameShape_of_parse hproperties hfits hparse

instance : SeparatePages σ where
  load_save_of_ne s d page other h := by
    rw [TextPages.load_eq, TextPages.text?_save, if_neg h, TextPages.load_eq]

omit [TextPages σ] in
/-- A lawful store saves every document. -/
theorem trySave_eq [LawfulPageStore σ] (s : σ) (page : String) (d : Document) :
    trySave s page d = .ok (save s page d) := by
  rw [trySave, LawfulPageStore.saveFault?_eq]

end PageStore

end Databook
