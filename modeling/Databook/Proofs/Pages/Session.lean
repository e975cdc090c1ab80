import Databook.Proofs.Document.ComputedCells

/-!
# Sessions

A session holds documents in memory and pages in a store, which may be unable to save some of them.
The documents are edited, and rows of them are linked by back relations, which edits the pages that
store the links. If at the start nothing is stored for computed properties, then nothing ever is, in
memory and in the store (`Session.storesInputs_run`) — but for back relations of a page that are named
as the forward side of a back relation of a document (`Session.Crosses`). Those links are stored, and
stay (`Session.exists_cell_of_crossing`).
-/

namespace Databook

open Calendar

/-- Documents in memory by their places, pages in a store, and a cache of pages. -/
structure Session (σ : Type) where
  documents : List Document
  store : σ
  cache : DocumentCache

namespace Session

/-- What is done in a session. -/
inductive Action where
  /-- Edit the document at a place. -/
  | edit (place : Nat) (e : Document.MemoryEdit)
  /-- Link a row of the document at a place by a back relation to exactly the wanted rows. -/
  | link (place : Nat) (property row : String) (wanted : List String) (now : Instant)

variable {σ : Type} [PageStore σ]

/-- The session after an action; one that fails leaves it as it is. -/
def step (w : Session σ) : Action → Session σ
  | .edit place e => { w with documents := w.documents.modify place (·.apply e) }
  | .link place property row wanted now =>
    match w.documents[place]? with
    | none => w
    | some d =>
      match d.setBackLinks property row wanted now w.store w.cache with
      | .error _ => w
      | .ok (_, store, cache) => { w with store, cache }

def run (w : Session σ) (actions : List Action) : Session σ := actions.foldl step w

/-- Has the page a back relation that a document in memory takes for the forward side of one of its
own back relations? -/
def Crosses (w : Session σ) (page forward : String) : Prop :=
  ∃ target p, PageStore.load w.store page = .ok target ∧ target.property? forward = some p ∧
    p.isBackRelation = true ∧
    ∃ d ∈ w.documents, ∃ property, d.linkSource property = .ok (page, forward)

/-! ### Crossing relations -/

/-- Links that are added for a computed property stay in the store: the page is loaded with cells of
that property. -/
theorem exists_cell_of_crossing [TextPages σ] {d t t' : Document}
    {property row page forward : String} {wanted : List String} {now : Instant} {store store' : σ}
    {cache cache' : DocumentCache} {change : LinkChange} {p : Property}
    (hcall : d.setBackLinks property row wanted now store cache = .ok (change, store', cache'))
    (hsource : d.linkSource property = .ok (page, forward))
    (hload : PageStore.load store page = .ok t) (hp : t.property? forward = some p)
    (hcomputed : p.isComputed = true) (hadded : change.added ≠ [])
    (hload' : PageStore.load store' page = .ok t') :
    ∃ p' ∈ t'.properties, p'.isComputed = true ∧ ∃ r ∈ t'.rows, r.cells.get? p'.id ≠ none := by
  obtain ⟨page₁, forward₁, t₁, hsource₁, -, hload₁, -, rfl, -, hstore⟩ :=
    Document.setBackLinks_ok hcall
  cases hsource.symm.trans hsource₁
  cases hload.symm.trans hload₁
  rcases hstore with ⟨hempty, -⟩ | ⟨-, rfl⟩
  · rw [LinkChange.isEmpty, Bool.and_eq_true, List.isEmpty_iff] at hempty
    exact absurd hempty.1 hadded
  -- the page has been saved with a cell, and a cell comes back, whatever its value is
  · have hshape := Document.sameShape_of_load_relink hload hload'
    have hid : p.id = forward := by simpa using List.find?_some hp
    have hmem : p ∈ (t.relink forward row wanted now).1.properties := List.mem_of_find?_eq_some hp
    obtain ⟨p', hp', hrole⟩ := Document.exists_mem_of_roles hshape.symm.roles hmem
    obtain ⟨r, hr, hcell⟩ := Document.exists_cell_of_added hadded
    obtain ⟨r', hr', hfilled⟩ := hshape.symm.exists_row hr
    refine ⟨p', hp', ?_, r', hr', ?_⟩
    · rw [← Property.isComputed_of_role hrole]
      exact hcomputed
    · rw [← (Property.role_eq_iff.1 hrole).1, hid, ne_eq, ← hfilled]
      exact hcell

/-! ### Steps -/

/-- What a run that starts at a session keeps: the roles of all properties, and that nothing is
stored for computed properties unless back relations cross. -/
structure Keeps (start w : Session σ) : Prop where
  roles : w.documents.map (·.roles) = start.documents.map (·.roles)
  documents : ∀ d ∈ w.documents, d.StoresInputs ∅
  pages : ∀ page d, PageStore.load w.store page = .ok d →
    d.StoresInputs {forward | start.Crosses page forward} ∧
      ∃ d₀, PageStore.load start.store page = .ok d₀ ∧ d.roles = d₀.roles

namespace Keeps

variable {start w : Session σ}

theorem refl (hdocuments : ∀ d ∈ w.documents, d.StoresInputs ∅)
    (hpages : ∀ page d, PageStore.load w.store page = .ok d → d.StoresInputs ∅) : Keeps w w where
  roles := rfl
  documents := hdocuments
  pages page d hload := ⟨(hpages page d hload).mono (Set.empty_subset _), d, hload, rfl⟩

theorem edit (h : Keeps start w) (place : Nat) (e : Document.MemoryEdit) :
    Keeps start (w.step (.edit place e)) where
  roles := by
    rw [← h.roles]
    exact map_modify_of_eq (fun d => d.roles_apply e) place w.documents
  documents := forall_mem_modify (fun _ hd => hd.apply e) place h.documents
  pages := h.pages

/-- Only back relations that cross are computed and have links written for them. -/
theorem crosses (h : Keeps start w) {d t : Document} {property page forward : String} {p : Property}
    (hd : d ∈ w.documents) (hsource : d.linkSource property = .ok (page, forward))
    (hload : PageStore.load w.store page = .ok t)
    (hforward : (t.property? forward).any (·.relation?.isSome) = true)
    (hp : t.property? forward = some p) (hcomputed : p.isComputed = true) :
    start.Crosses page forward := by
  rw [hp, Option.any_some] at hforward
  have hback := Property.isBackRelation_of_isComputed hforward hcomputed
  -- the page and the document have been in the session from the start
  obtain ⟨-, t₀, hload₀, hroles⟩ := h.pages page t hload
  obtain ⟨p₀, hp₀, hrole⟩ := Document.exists_property?_of_roles hroles hp
  have hmem : d.roles ∈ start.documents.map (·.roles) := h.roles ▸ List.mem_map_of_mem hd
  obtain ⟨d₀, hd₀, hroles₀⟩ := List.mem_map.1 hmem
  refine ⟨t₀, p₀, hload₀, hp₀, ?_, d₀, hd₀, property, ?_⟩
  · rw [← Property.isBackRelation_of_role hrole]
    exact hback
  · exact Document.linkSource_of_roles hroles₀.symm hsource

variable [TextPages σ]

theorem link (h : Keeps start w) (place : Nat) (property row : String) (wanted : List String)
    (now : Instant) : Keeps start (w.step (.link place property row wanted now)) := by
  simp only [step]
  split
  · exact h
  · next d hd =>
    split
    · exact h
    · next hcall =>
      obtain ⟨page, forward, t, hsource, -, hload, hforward, -, -, hstore⟩ :=
        Document.setBackLinks_ok hcall
      refine ⟨h.roles, h.documents, fun other d' hload' => ?_⟩
      rcases hstore with ⟨-, rfl⟩ | ⟨-, rfl⟩
      · exact h.pages other d' hload'
      · by_cases hother : other = page
        · -- the page has been relinked, saved and loaded again
          subst hother
          have hshape := Document.sameShape_of_load_relink hload hload'
          obtain ⟨hinputs, t₀, hload₀, hroles⟩ := h.pages other t hload
          refine ⟨?_, t₀, hload₀, hshape.roles.trans hroles⟩
          refine (hinputs.relink ?_).of_sameShape hshape
          exact fun p hp hcomputed => h.crosses (List.mem_of_getElem? hd) hsource hload hforward hp
            hcomputed
        · rw [SeparatePages.load_save_of_ne _ _ hother] at hload'
          exact h.pages other d' hload'

theorem step (h : Keeps start w) (a : Action) : Keeps start (w.step a) := by
  cases a with
  | edit place e => exact h.edit place e
  | link place property row wanted now => exact h.link place property row wanted now

theorem run (h : Keeps start w) (actions : List Action) : Keeps start (w.run actions) := by
  induction actions generalizing w with
  | nil => exact h
  | cons a actions ih => exact ih (h.step a)

end Keeps

/-! ### Runs -/

/-- If at the start nothing is stored for computed properties, then nothing ever is: not in memory,
and in the store only for back relations that cross. -/
theorem storesInputs_run [TextPages σ] {w : Session σ}
    (hdocuments : ∀ d ∈ w.documents, d.StoresInputs ∅)
    (hpages : ∀ page d, PageStore.load w.store page = .ok d → d.StoresInputs ∅)
    (actions : List Action) :
    (∀ d ∈ (w.run actions).documents, d.StoresInputs ∅) ∧
      ∀ page d, PageStore.load (w.run actions).store page = .ok d →
        d.StoresInputs {forward | w.Crosses page forward} := by
  have hend := (Keeps.refl hdocuments hpages).run actions
  exact ⟨hend.documents, fun page d hload => (hend.pages page d hload).1⟩

/-- A document with a back relation and a row. -/
def mirror (id page forward row : String) : Document where
  properties := [.fresh id "Links" (.relation ⟨page, .back forward⟩)]
  rows := [⟨row, .empty, .epoch, .epoch⟩]
  views := []

/-- Two documents with back relations that name each other, one of them in memory and the other one
in the store. -/
def mirrors : Session MemoryStore where
  documents := [mirror "b" "q" "f" "r"]
  store := PageStore.save MemoryStore.empty "q" (mirror "f" "p" "b" "t")
  cache := .empty

theorem storesInputs_mirror (id page forward row : String) :
    (mirror id page forward row).StoresInputs ∅ := by
  refine ⟨by simp [mirror], fun p _ _ _ r hr => ?_⟩
  obtain rfl := List.mem_singleton.1 hr
  rfl

theorem load_mirrors : PageStore.load mirrors.store "q" = .ok (mirror "f" "p" "b" "t") := by
  have hstorable : (mirror "f" "p" "b" "t").Storable := by
    refine ⟨fun p hp => ?_, fun r hr => ?_, fun v hv => by cases hv⟩
    · obtain rfl := List.mem_singleton.1 hp
      exact Property.storable_fresh nofun
    · obtain rfl := List.mem_singleton.1 hr
      exact ⟨by simp [IdMap.empty], Instant.isValid_epoch, Instant.isValid_epoch⟩
  have hdoubles : (mirror "f" "p" "b" "t").DoublesReadBack := fun x hx => by cases hx
  exact PageStore.load_save MemoryStore.empty "q" hstorable hdoubles

theorem storesInputs_of_load_mirrors {page : String} {d : Document}
    (hload : PageStore.load mirrors.store page = .ok d) : d.StoresInputs ∅ := by
  by_cases hpage : page = "q"
  · subst hpage
    cases load_mirrors.symm.trans hload
    exact storesInputs_mirror "f" "p" "b" "t"
  · have hother := SeparatePages.load_save_of_ne MemoryStore.empty (mirror "f" "p" "b" "t") hpage
    cases hother.symm.trans hload

/-- Linking a row of the document in memory: the relations cross, and nothing else can be stored for
a computed property. -/
theorem storesInputs_mirrors :
    mirrors.Crosses "q" "f" ∧
      (∀ d ∈ (mirrors.run [.link 0 "b" "r" ["t"] .epoch]).documents, d.StoresInputs ∅) ∧
      ∀ page d, PageStore.load (mirrors.run [.link 0 "b" "r" ["t"] .epoch]).store page = .ok d →
        d.StoresInputs {forward | mirrors.Crosses page forward} := by
  refine ⟨⟨_, _, load_mirrors, rfl, rfl, _, List.mem_cons_self, "b", rfl⟩, ?_⟩
  refine storesInputs_run (fun d hd => ?_) (fun _ _ => storesInputs_of_load_mirrors) _
  obtain rfl := List.mem_singleton.1 hd
  exact storesInputs_mirror "b" "q" "f" "r"

end Session

end Databook
