import Databook.Pages.Cache
import Databook.Proofs.IdMap
import Databook.Proofs.Pages.Store

/-!
# Coherent caches

A cache is *coherent* with a store if what it holds of each page is what loading the page would give
now: the document, or nothing for a page that cannot be loaded. Loading keeps a cache coherent
(`Coherent.loadAll`); after a page has been saved, the cache is coherent again once the page is
forgotten (`Coherent.invalidate_save`). In a coherent cache, looking up the pages that have been loaded
gives what is in the store, whatever else the cache held before (`Coherent.find?_loadAll`).
-/

namespace Databook

/-- The document of a page; none if it cannot be loaded. -/
def PageStore.document? {σ : Type} [PageStore σ] (store : σ) (page : String) : Option Document :=
  (PageStore.load store page).toOption

namespace DocumentCache

variable {σ : Type} [PageStore σ] {c : DocumentCache} {store : σ}

/-- Does the cache hold of each of its pages what loading it would give? -/
def Coherent (c : DocumentCache) (store : σ) : Prop :=
  ∀ page entry, c.documents.get? page = some entry → entry = PageStore.document? store page

/-! ### Loading -/

theorem load_of_contains {page : String} (h : c.documents.contains page = true) :
    c.load store page = c := by
  rw [load, if_pos h]

theorem get?_load (c : DocumentCache) (store : σ) (page other : String) :
    (c.load store page).documents.get? other
      = (c.documents.get? other).or
          (if other = page then some (PageStore.document? store page) else none) := by
  unfold load
  split
  · next h =>
    split
    · next heq =>
      subst heq
      obtain ⟨entry, hentry⟩ := IdMap.contains_iff.1 h
      rw [hentry, Option.some_or]
    · rw [Option.or_none]
  · next h =>
    show (c.documents.insert page (PageStore.document? store page)).get? other = _
    rw [IdMap.get?_insert]
    split
    · next heq =>
      subst heq
      have hnone : c.documents.get? other = none := by
        cases hget : c.documents.get? other with
        | none => rfl
        | some entry => exact absurd (IdMap.contains_iff.2 ⟨entry, hget⟩) h
      rw [hnone, Option.none_or]
    · rw [Option.or_none]

theorem contains_load {page other : String} (h : c.documents.contains other = true ∨ other = page) :
    (c.load store page).documents.contains other = true := by
  unfold IdMap.contains
  rw [get?_load, Option.isSome_or]
  rcases h with h | h
  · rw [IdMap.contains] at h
    rw [h, Bool.true_or]
  · rw [if_pos h, Option.isSome_some, Bool.or_true]

/-- Afterwards the pages are in the cache, with those that were there. -/
theorem contains_loadAll {pages : List String} {page : String}
    (h : c.documents.contains page = true ∨ page ∈ pages) :
    (c.loadAll store pages).documents.contains page = true := by
  unfold loadAll
  induction pages generalizing c with
  | nil => exact h.resolve_right List.not_mem_nil
  | cons first pages ih =>
    rw [List.foldl_cons]
    apply ih
    rcases h with h | h
    · exact .inl (contains_load (.inl h))
    · rcases List.mem_cons.1 h with rfl | h
      · exact .inl (contains_load (.inr rfl))
      · exact .inr h

/-- Pages that are in the cache are not loaded again. -/
theorem loadAll_of_contains {pages : List String}
    (h : ∀ page ∈ pages, c.documents.contains page = true) : c.loadAll store pages = c := by
  unfold loadAll
  induction pages with
  | nil => rfl
  | cons page pages ih =>
    rw [List.foldl_cons, load_of_contains (h page List.mem_cons_self)]
    exact ih fun page hpage => h page (List.mem_cons_of_mem _ hpage)

/-! ### Coherence -/

theorem coherent_empty (store : σ) : empty.Coherent store := by
  intro page entry h
  cases h

theorem Coherent.load (h : c.Coherent store) (page : String) : (c.load store page).Coherent store := by
  intro other entry hentry
  rw [get?_load] at hentry
  cases hget : c.documents.get? other with
  | some held =>
    rw [hget, Option.some_or] at hentry
    cases hentry
    exact h other entry hget
  | none =>
    rw [hget, Option.none_or] at hentry
    split at hentry
    · next heq =>
      subst heq
      cases hentry
      rfl
    · cases hentry

theorem Coherent.loadAll (h : c.Coherent store) (pages : List String) :
    (c.loadAll store pages).Coherent store := by
  unfold DocumentCache.loadAll
  induction pages generalizing c with
  | nil => exact h
  | cons page pages ih => exact ih (h.load page)

theorem Coherent.invalidate (h : c.Coherent store) (page : String) :
    (c.invalidate page).Coherent store := by
  intro other entry hentry
  rw [DocumentCache.invalidate, IdMap.get?_erase] at hentry
  split at hentry
  · cases hentry
  · exact h other entry hentry

/-- What is in the cache of other pages is not touched when a page is saved. -/
theorem Coherent.invalidate_save [SeparatePages σ] (h : c.Coherent store) (page : String)
    (d : Document) : (c.invalidate page).Coherent (PageStore.save store page d) := by
  intro other entry hentry
  rw [DocumentCache.invalidate, IdMap.get?_erase] at hentry
  split at hentry
  · cases hentry
  · next hne =>
    rw [h other entry hentry, PageStore.document?, PageStore.document?,
      SeparatePages.load_save_of_ne store d hne]

/-- A coherent cache knows of its pages what is in the store. -/
theorem Coherent.find?_eq (h : c.Coherent store) {page : String}
    (hpage : c.documents.contains page = true) : c.find? page = PageStore.document? store page := by
  obtain ⟨entry, hentry⟩ := IdMap.contains_iff.1 hpage
  rw [find?, hentry, Option.join_some, h page entry hentry]

theorem Coherent.find?_loadAll (h : c.Coherent store) {pages : List String} {page : String}
    (hpage : page ∈ pages) : (c.loadAll store pages).find? page = PageStore.document? store page :=
  (h.loadAll pages).find?_eq (contains_loadAll (.inr hpage))

/-! ### Documents that can be read -/

/-- Is the document of a page there to be read: in the cache, or in the store behind a coherent one? -/
def Provides (c : DocumentCache) (store : σ) (page : String) (d : Document) : Prop :=
  c.find? page = some d ∨ c.Coherent store ∧ PageStore.load store page = .ok d

/-- Loading pages replaces no document. -/
theorem find?_loadAll_of_find? {pages : List String} {page : String} {d : Document}
    (h : c.find? page = some d) : (c.loadAll store pages).find? page = some d := by
  unfold loadAll
  induction pages generalizing c with
  | nil => exact h
  | cons first pages ih =>
    rw [List.foldl_cons]
    apply ih
    rw [find?, get?_load, Option.join_eq_some_iff.1 h, Option.some_or, Option.join_some]

theorem Provides.find?_loadAll {page : String} {d : Document} (h : c.Provides store page d)
    {pages : List String} (hpage : page ∈ pages) : (c.loadAll store pages).find? page = some d := by
  rcases h with hfind | ⟨hcoherent, hload⟩
  · exact find?_loadAll_of_find? hfind
  · rw [hcoherent.find?_loadAll hpage, PageStore.document?, hload]
    rfl

end DocumentCache

end Databook
