import Databook.Columns.BackLink
import Databook.View.Materialized
import Databook.Proofs.Columns.LinkCalls
import Databook.Proofs.Pages.Cache

/-!
# Views do not depend on the cache

What a document shows of other documents is determined by the documents that a store has for the
related pages (`Document.computed_congr`). A coherent cache gives these, so a view is the same with
any coherent cache (`Document.materialize_eq`).

`CacheCall` is what can be done with a store and one cache that goes along with it. One call keeps the
cache coherent with the store as it is afterwards, also if the call fails (`CacheCall.coherent_run`),
hence so does any sequence of calls, and the views after it are those without a cache
(`CacheCall.views_after_runAll`).
-/

namespace Databook

open Calendar

namespace Document

/-! ### Columns from related documents -/

section Related

variable {d : Document} {related related' : String → Option Document}

theorem links_congr (h : ∀ page ∈ d.relatedPages, related page = related' page) :
    d.links related = d.links related' := by
  have hpage : ∀ p r, (p, r) ∈ d.relations → related r.page = related' r.page := by
    intro p r hmem
    exact h r.page (List.mem_map.2 ⟨(p, r), hmem, rfl⟩)
  unfold links
  congr 2
  · refine List.map_congr_left fun entry hmem => ?_
    obtain ⟨p, r⟩ := entry
    simp only [hpage p r hmem]
  · refine List.map_congr_left fun entry hmem => ?_
    obtain ⟨p, r⟩ := entry
    simp only [hpage p r hmem]

theorem rollupTarget?_congr {p : Property} {r : Rollup} (hr : (p, r) ∈ d.rollups)
    (h : ∀ page ∈ d.rollupPages, related page = related' page) :
    d.rollupTarget? related r = d.rollupTarget? related' r := by
  unfold rollupTarget?
  cases hproperty : d.property? r.relation with
  | none => rfl
  | some relationProperty =>
    cases hrelation : relationProperty.relation? with
    | none =>
      show relationProperty.relation?.bind _ = relationProperty.relation?.bind _
      rw [hrelation]
      rfl
    | some relation =>
      have hpage : related relation.page = related' relation.page := by
        refine h _ (List.mem_filterMap.2 ⟨(p, r), hr, ?_⟩)
        simp only [hproperty, Option.bind_some, hrelation, Option.map_some]
      show relationProperty.relation?.bind _ = relationProperty.relation?.bind _
      rw [hrelation]
      show (related relation.page).bind _ = (related' relation.page).bind _
      rw [hpage]

theorem rollupValues_congr (h : ∀ page ∈ d.rollupPages, related page = related' page)
    (links : Links) (today : Date) :
    d.rollupValues links related today = d.rollupValues links related' today := by
  unfold rollupValues
  congr 1
  refine List.map_congr_left fun entry hmem => ?_
  obtain ⟨p, r⟩ := entry
  simp only [rollupColumn, rollupTarget?_congr hmem h]

end Related

/-! ### Columns and views from a coherent cache -/

section Coherent

variable {σ : Type} [PageStore σ] {d : Document} {store : σ} {cache : DocumentCache}

theorem resolveLinks_eq (h : cache.Coherent store) :
    (d.resolveLinks store cache).1 = d.links (PageStore.document? store) :=
  links_congr fun _ hpage => h.find?_loadAll hpage

theorem resolveRollups_eq (h : cache.Coherent store) (links : Links) (today : Date) :
    (d.resolveRollups links store cache today).1
      = d.rollupValues links (PageStore.document? store) today :=
  rollupValues_congr (fun _ hpage => h.find?_loadAll hpage) links today

theorem coherent_resolveLinks (h : cache.Coherent store) :
    (d.resolveLinks store cache).2.Coherent store :=
  h.loadAll d.relatedPages

theorem coherent_resolveRollups (h : cache.Coherent store) (links : Links) (today : Date) :
    (d.resolveRollups links store cache today).2.Coherent store :=
  h.loadAll d.rollupPages

/-- The computed columns are those that the documents in the store give, and the cache stays coherent. -/
theorem computeWith_eq (h : cache.Coherent store) (today : Date) :
    (d.computeWith store cache today).1 = d.computed (PageStore.document? store) today ∧
      (d.computeWith store cache today).2.Coherent store := by
  have hlinks := resolveLinks_eq (d := d) h
  have hcoherent := coherent_resolveLinks (d := d) h
  unfold computeWith computed
  generalize d.resolveLinks store cache = resolved at hlinks hcoherent ⊢
  obtain ⟨links, cache'⟩ := resolved
  -- the rollups are computed with the links and with the cache that the relations leave
  have hrollups := resolveRollups_eq (d := d) hcoherent links today
  have hcoherent' := coherent_resolveRollups (d := d) hcoherent links today
  simp only at hlinks hrollups hcoherent' ⊢
  generalize d.resolveRollups links store cache' today = resolved at hrollups hcoherent' ⊢
  subst hlinks
  exact ⟨by rw [← hrollups], hcoherent'⟩

/-- The pages of a document are loaded once: computing its columns again loads nothing. -/
theorem computeWith_snd_again (store : σ) (cache : DocumentCache) (today : Date) :
    (d.computeWith store (d.computeWith store cache today).2 today).2
      = (d.computeWith store cache today).2 := by
  have hrelated : ∀ page ∈ d.relatedPages,
      ((cache.loadAll store d.relatedPages).loadAll store d.rollupPages).documents.contains page
        = true :=
    fun page hpage =>
      DocumentCache.contains_loadAll (.inl (DocumentCache.contains_loadAll (.inr hpage)))
  have hrollups : ∀ page ∈ d.rollupPages,
      ((cache.loadAll store d.relatedPages).loadAll store d.rollupPages).documents.contains page
        = true :=
    fun page hpage => DocumentCache.contains_loadAll (.inr hpage)
  show (((cache.loadAll store d.relatedPages).loadAll store d.rollupPages).loadAll store
    d.relatedPages).loadAll store d.rollupPages = _
  rw [DocumentCache.loadAll_of_contains hrelated, DocumentCache.loadAll_of_contains hrollups]
  rfl

/-- A view of a document among related documents. -/
def viewAmong (d : Document) (related : String → Option Document) (view : String)
    (settings : Settings) (current : Date) : Except Error MaterializedView :=
  match d.view? view with
  | none => .error (.viewNotFound view)
  | some v =>
    .ok ((d.computed related (settings.date current)).materialize d v settings.noValueLabel)

/-- A view made with a coherent cache is the view among the documents in the store. -/
theorem materialize_eq (h : cache.Coherent store) (view : String) (settings : Settings)
    (current : Date) : (d.materialize view store cache settings current).map (·.1)
      = d.viewAmong (PageStore.document? store) view settings current := by
  unfold materialize viewAmong
  cases d.view? view with
  | none => rfl
  | some v =>
    show Except.ok ((d.computeWith store cache _).1.materialize d v _) = _
    rw [(computeWith_eq h _).1]

theorem materializeAll_eq (h : cache.Coherent store) (settings : Settings) (current : Date) :
    (d.materializeAll store cache settings current).1
      = d.views.map fun v => (d.computed (PageStore.document? store) (settings.date current)).materialize
          d v settings.noValueLabel := by
  show d.views.map ((d.computeWith store cache _).1.materialize d · _) = _
  rw [(computeWith_eq h _).1]

/-- Without a cache the view is that of the store. -/
theorem rematerialize_eq (d : Document) (store : σ) (view : String) (settings : Settings)
    (current : Date) : (d.rematerialize view store settings current).1
      = d.viewAmong (PageStore.document? store) view settings current := by
  rw [← materialize_eq (DocumentCache.coherent_empty store)]
  unfold rematerialize
  cases d.materialize view store .empty settings current <;> rfl

/-- A view that is made again with the cache that it leaves is the same and loads nothing. -/
theorem materialize_again (h : cache.Coherent store) {view : String} {settings : Settings}
    {current : Date} {shown : MaterializedView} {cache' : DocumentCache}
    (hshown : d.materialize view store cache settings current = .ok (shown, cache')) :
    d.materialize view store cache' settings current = .ok (shown, cache') := by
  unfold materialize at hshown ⊢
  cases hview : d.view? view with
  | none =>
    rw [hview] at hshown
    cases hshown
  | some v =>
    rw [hview] at hshown
    obtain ⟨hcolumns, hcoherent⟩ := computeWith_eq (d := d) h (settings.date current)
    have hcolumns' := (computeWith_eq (d := d) hcoherent (settings.date current)).1
    have hcache := computeWith_snd_again (d := d) store cache (settings.date current)
    simp only at hshown ⊢
    generalize d.computeWith store cache (settings.date current) = answer at *
    cases hshown
    rw [hcolumns, ← hcolumns']
    simp only [hcache]

theorem coherent_of_materialize (h : cache.Coherent store) {view : String} {settings : Settings}
    {current : Date} {shown : MaterializedView} {cache' : DocumentCache}
    (hshown : d.materialize view store cache settings current = .ok (shown, cache')) :
    cache'.Coherent store := by
  unfold materialize at hshown
  split at hshown
  · cases hshown
  · next v =>
    have hcoherent := (computeWith_eq (d := d) h (settings.date current)).2
    generalize d.computeWith store cache (settings.date current) = answer at hshown hcoherent
    cases hshown
    exact hcoherent

/-- The matching entry for each view, if the ids of views are their own. -/
theorem viewAmong_eq_of_mem {related : String → Option Document} {settings : Settings}
    {current : Date} (hviews : (d.views.map (·.id)).Nodup) {v : View} (hv : v ∈ d.views) :
    d.viewAmong related v.id settings current
      = .ok ((d.computed related (settings.date current)).materialize d v settings.noValueLabel) := by
  unfold viewAmong
  rw [(view?_eq_some_iff hviews).2 ⟨hv, rfl⟩]

end Coherent

end Document

/-! ### Calls -/

/-- What is done with a store and the cache that goes along with it. -/
inductive CacheCall where
  | load (page : String)
  | invalidate (page : String)
  | clear
  | resolveLinks (d : Document)
  | resolveRollups (d : Document) (links : Links) (today : Date)
  | materialize (d : Document) (view : String) (settings : Settings) (current : Date)
  | materializeAll (d : Document) (settings : Settings) (current : Date)
  | rematerialize (d : Document) (view : String) (settings : Settings) (current : Date)
  | setBackLinks (d : Document) (property row : String) (wanted : List String) (now : Instant)

namespace CacheCall

/-- Is the store only read? -/
def isRead : CacheCall → Bool
  | setBackLinks .. => false
  | _ => true

section Run

variable {σ : Type} [PageStore σ]

/-- The store and the cache after a call. A call that fails leaves both as they are. -/
def run (store : σ) (cache : DocumentCache) : CacheCall → σ × DocumentCache
  | load page => (store, cache.load store page)
  | invalidate page => (store, cache.invalidate page)
  | clear => (store, .empty)
  | resolveLinks d => (store, (d.resolveLinks store cache).2)
  | resolveRollups d links today => (store, (d.resolveRollups links store cache today).2)
  | materialize d view settings current =>
    match d.materialize view store cache settings current with
    | .ok (_, cache) => (store, cache)
    | .error _ => (store, cache)
  | materializeAll d settings current => (store, (d.materializeAll store cache settings current).2)
  | rematerialize d view settings current =>
    (store, (d.rematerialize view store settings current).2)
  | setBackLinks d property row wanted now =>
    match d.setBackLinks property row wanted now store cache with
    | .ok (_, store, cache) => (store, cache)
    | .error _ => (store, cache)

/-- The store and the cache after calls in turn. -/
def runAll (store : σ) (cache : DocumentCache) : List CacheCall → σ × DocumentCache
  | [] => (store, cache)
  | call :: calls => runAll (call.run store cache).1 (call.run store cache).2 calls

variable {store : σ} {cache : DocumentCache}

theorem run_fst_of_isRead {call : CacheCall} (h : call.isRead = true) :
    (call.run store cache).1 = store := by
  cases call with
  | setBackLinks => cases h
  | materialize d view settings current =>
    simp only [run]
    split <;> rfl
  | _ => rfl

/-- After each call the cache is coherent with the store that the call leaves. -/
theorem coherent_run [SeparatePages σ] (h : cache.Coherent store) (call : CacheCall) :
    (call.run store cache).2.Coherent (call.run store cache).1 := by
  cases call with
  | load page => exact h.load page
  | invalidate page => exact h.invalidate page
  | clear => exact DocumentCache.coherent_empty store
  | resolveLinks d => exact Document.coherent_resolveLinks h
  | resolveRollups d links today => exact Document.coherent_resolveRollups h links today
  | materializeAll d settings current => exact (Document.computeWith_eq h (settings.date current)).2
  | materialize d view settings current =>
    simp only [run]
    cases hview : d.materialize view store cache settings current with
    | error e => exact h
    | ok result => exact Document.coherent_of_materialize h hview
  | rematerialize d view settings current =>
    simp only [run, Document.rematerialize]
    cases hview : d.materialize view store .empty settings current with
    | error e => exact DocumentCache.coherent_empty store
    | ok result =>
      exact Document.coherent_of_materialize (DocumentCache.coherent_empty store) hview
  | setBackLinks d property row wanted now =>
    simp only [run]
    cases hcall : d.setBackLinks property row wanted now store cache with
    | error e => exact h
    | ok result =>
      obtain ⟨change, store', cache'⟩ := result
      obtain ⟨page, forward, t, -, -, -, -, -, rfl, ⟨-, rfl⟩ | ⟨-, rfl⟩⟩ :=
        Document.setBackLinks_ok hcall
      · exact h.invalidate page
      · exact h.invalidate_save page _

theorem coherent_runAll [SeparatePages σ] (h : cache.Coherent store) (calls : List CacheCall) :
    (runAll store cache calls).2.Coherent (runAll store cache calls).1 := by
  induction calls generalizing store cache with
  | nil => exact h
  | cons call calls ih => exact ih (coherent_run h call)

theorem runAll_fst_of_isRead {calls : List CacheCall} (h : ∀ call ∈ calls, call.isRead = true) :
    (runAll store cache calls).1 = store := by
  induction calls generalizing store cache with
  | nil => rfl
  | cons call calls ih =>
    obtain ⟨hcall, hcalls⟩ := List.forall_mem_cons.1 h
    exact (ih hcalls).trans (run_fst_of_isRead hcall)

/-- Calls in turn, failing ones among them, keep a coherent cache coherent with the store as it is
after each of them, and change the store only by links that are set. Whatever calls there were, a view
is then what it is with an empty cache; so are the view that is made after dropping the cache and
the entry among all views, and the view made once more, for which no page is loaded. -/
theorem views_after_runAll [SeparatePages σ] (h : cache.Coherent store) (calls : List CacheCall) :
    ∃ store' cache', runAll store cache calls = (store', cache') ∧ cache'.Coherent store' ∧
      ((∀ call ∈ calls, call.isRead = true) → store' = store) ∧
      ∀ (d : Document) (settings : Settings) (current : Date),
        (∀ view, (d.materialize view store' cache' settings current).map (·.1)
            = (d.materialize view store' .empty settings current).map (·.1) ∧
          (d.rematerialize view store' settings current).1
            = (d.materialize view store' cache' settings current).map (·.1) ∧
          ∀ shown cache'', d.materialize view store' cache' settings current = .ok (shown, cache'') →
            d.materialize view store' cache'' settings current = .ok (shown, cache'')) ∧
        ((d.views.map (·.id)).Nodup →
          d.views.map (fun v => (d.materialize v.id store' cache' settings current).map (·.1))
            = (d.materializeAll store' cache' settings current).1.map .ok) := by
  have hcoherent := coherent_runAll h calls
  refine ⟨_, _, rfl, hcoherent, runAll_fst_of_isRead, fun d settings current => ⟨fun view => ?_, ?_⟩⟩
  · refine ⟨?_, ?_, fun shown cache'' => Document.materialize_again hcoherent⟩
    · rw [Document.materialize_eq hcoherent,
        Document.materialize_eq (DocumentCache.coherent_empty _)]
    · rw [Document.materialize_eq hcoherent, Document.rematerialize_eq]
  · intro hviews
    rw [Document.materializeAll_eq hcoherent, List.map_map]
    refine List.map_congr_left fun v hv => ?_
    rw [Document.materialize_eq hcoherent]
    exact Document.viewAmong_eq_of_mem hviews hv

end Run

/-- Projects with a table of them. -/
def listedProjects : Document :=
  { Document.projects with views := [.fresh "v" "All" .table] }

/-- With the tasks and a page that is not there in the cache, links to the tasks are set; then the
table is made and, once more, found among all views. -/
theorem views_after_links : ∃ store' cache',
    runAll (PageStore.save MemoryStore.empty "q" Document.tasks)
        ((DocumentCache.empty.load (PageStore.save MemoryStore.empty "q" Document.tasks) "q").load
          (PageStore.save MemoryStore.empty "q" Document.tasks) "gone")
        [.setBackLinks listedProjects "b" "r" ["t"] .epoch,
          .materialize listedProjects "v" .standard .epoch]
      = (store', cache') ∧ cache'.Coherent store' ∧
    (listedProjects.materialize "v" store' cache' .standard .epoch).map (·.1)
      = (listedProjects.materialize "v" store' .empty .standard .epoch).map (·.1) ∧
    listedProjects.views.map
        (fun v => (listedProjects.materialize v.id store' cache' .standard .epoch).map (·.1))
      = (listedProjects.materializeAll store' cache' .standard .epoch).1.map .ok := by
  have hcache := ((DocumentCache.coherent_empty
    (PageStore.save MemoryStore.empty "q" Document.tasks)).load "q").load "gone"
  obtain ⟨store', cache', hrun, hcoherent, -, hviews⟩ := views_after_runAll hcache
    [.setBackLinks listedProjects "b" "r" ["t"] .epoch,
      .materialize listedProjects "v" .standard .epoch]
  obtain ⟨hview, hall⟩ := hviews listedProjects .standard .epoch
  exact ⟨store', cache', hrun, hcoherent, (hview "v").1, hall (by decide)⟩

end CacheCall

end Databook
