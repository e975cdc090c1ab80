import Databook.Proofs.Columns.LinkCalls
import Databook.Proofs.Pages.Cache

/-!
# Links as they are resolved

`Document.resolveLinks` reads the documents on the other side from a cache, or from the store behind it.

* Both sides of a relation show the same links: a back relation is the transpose of the forward
  relation that it names (`Document.links_transpose`).
* Editing asks whether the other document still has the forward relation, and reading does not: the
  links that it left behind in the rows are shown for as long as the cells are there
  (`Document.links_left_behind`).
-/

namespace Databook

open Calendar

namespace Document

variable {d other : Document} {property row id page : String} {σ : Type} [PageStore σ] {store : σ}
  {cache : DocumentCache}

/-! ### Rows that name another row -/

theorem mem_linksTo : id ∈ d.linksTo property row
    ↔ ∃ t ∈ d.rows, t.id = id ∧ row ∈ (t.cell property).ids := by
  unfold linksTo
  simp only [List.mem_eraseDups, List.mem_map, List.mem_filter, List.contains_iff_mem]
  constructor
  · rintro ⟨t, ⟨ht, hrow⟩, hid⟩
    exact ⟨t, ht, hid, hrow⟩
  · rintro ⟨t, ht, hid, hrow⟩
    exact ⟨t, ⟨ht, hrow⟩, hid⟩

theorem linksTo_eq_nil_iff :
    d.linksTo property row = [] ↔ ∀ t ∈ d.rows, row ∉ (t.cell property).ids := by
  rw [List.eq_nil_iff_forall_not_mem]
  constructor
  · intro h t ht hrow
    exact h t.id (mem_linksTo.2 ⟨t, ht, rfl, hrow⟩)
  · intro h id hid
    obtain ⟨t, ht, -, hrow⟩ := mem_linksTo.1 hid
    exact h t ht hrow

/-- Each row is found by its id, so it is listed exactly if it names the other row itself. -/
theorem id_mem_linksTo (hrows : (d.rows.map (·.id)).Nodup) {t : Row} (ht : t ∈ d.rows) :
    t.id ∈ d.linksTo property row ↔ row ∈ (t.cell property).ids := by
  rw [mem_linksTo]
  constructor
  · rintro ⟨t', ht', hid, hrow⟩
    rwa [List.inj_on_of_nodup_map hrows ht' ht hid] at hrow
  · exact fun hrow => ⟨t, ht, rfl, hrow⟩

theorem linksTo_sublist (hrows : (d.rows.map (·.id)).Nodup) (property row : String) :
    (d.linksTo property row).Sublist (d.rows.map (·.id)) := by
  rw [linksTo_of_nodup hrows]
  exact List.filter_sublist.map _

/-! ### Both sides of a relation -/

theorem mem_relatedPages {p : Property} {r : Relation} (hp : p ∈ d.properties)
    (hrelation : p.relation? = some r) : r.page ∈ d.relatedPages :=
  List.mem_map.2 ⟨(p, r), mem_relations.2 ⟨hp, hrelation⟩, rfl⟩

/-- Every row has an entry for a back relation whose other document can be read. -/
theorem get?_resolveLinks_of_back {p : Property} (hp : p ∈ d.properties)
    (honly : ∀ q ∈ d.properties, q.id = p.id → q = p)
    (hback : p.relation? = some ⟨page, .back property⟩) (hother : cache.Provides store page other)
    {r : Row} (hr : r ∈ d.rows) :
    ((d.resolveLinks store cache).1.values.get? p.id).bind (·.get? r.id)
      = some (if d.isSharedId r.id then [] else other.linksTo property r.id) := by
  have hfind : (cache.loadAll store d.relatedPages).find? page = some other :=
    hother.find?_loadAll (mem_relatedPages hp hback)
  have hvalues := get?_links hp honly hback (cache.loadAll store d.relatedPages).find?
  simp only [linksOf, hfind] at hvalues
  show (((d.links _).values.get? p.id).bind _) = _
  rw [hvalues, Option.bind_some, get?_backLinks_of_mem hr]

/-- Forward and back relations are transposes. A row of the other document is among the back links of a
row exactly if it stores a link to that row. The back links of a row follow the order of the other
document, none is there twice, and every row has an entry: an empty one if nothing links to it. -/
theorem links_transpose {τ : Type} [PageStore τ] (hproperties : (d.properties.map (·.id)).Nodup)
    (hrows : (d.rows.map (·.id)).Nodup) (hproperties' : (other.properties.map (·.id)).Nodup)
    (hrows' : (other.rows.map (·.id)).Nodup) {b f : Property} (hb : b ∈ d.properties)
    (hback : b.relation? = some ⟨page, .back f.id⟩) (hf : f ∈ other.properties) {page' : String}
    {shownBy : Option String} (hforward : f.relation? = some ⟨page', .forward shownBy⟩)
    (hother : cache.Provides store page other) (store' : τ) (cache' : DocumentCache) :
    (∀ r ∈ d.rows, ∀ t ∈ other.rows,
      t.id ∈ (d.resolveLinks store cache).1.linked b.id r.id
        ↔ r.id ∈ (other.resolveLinks store' cache').1.linked f.id t.id) ∧
    ∀ r ∈ d.rows, ∃ links,
      ((d.resolveLinks store cache).1.values.get? b.id).bind (·.get? r.id) = some links ∧
      links.Sublist (other.rows.map (·.id)) ∧ links.Nodup ∧
      (links = [] ↔
        ∀ t ∈ other.rows, r.id ∉ (other.resolveLinks store' cache').1.linked f.id t.id) := by
  have hentry : ∀ r ∈ d.rows,
      ((d.resolveLinks store cache).1.values.get? b.id).bind (·.get? r.id)
        = some (other.linksTo f.id r.id) := by
    intro r hr
    rw [get?_resolveLinks_of_back hb (eq_of_property_id hproperties hb) hback hother hr,
      isSharedId_of_nodup hrows]
    rfl
  have hstored : ∀ t ∈ other.rows,
      (other.resolveLinks store' cache').1.linked f.id t.id = (t.cell f.id).ids :=
    fun t ht => linked_of_forward hproperties' hrows' hf hforward _ ht
  refine ⟨fun r hr t ht => ?_, fun r hr => ⟨_, hentry r hr, ?_, ?_, ?_⟩⟩
  · rw [Links.linked, hentry r hr, Option.getD_some, hstored t ht]
    exact id_mem_linksTo hrows' ht
  · exact linksTo_sublist hrows' f.id r.id
  · exact hrows'.sublist (linksTo_sublist hrows' f.id r.id)
  · rw [linksTo_eq_nil_iff]
    exact forall₂_congr fun t ht => by rw [hstored t ht]

/-- A task that names a project is among the tasks of the project. -/
theorem links_transpose_tasks :
    ("u" ∈ (projects.resolveLinks (PageStore.save MemoryStore.empty "q" tasks) .empty).1.linked "b" "r"
      ↔ "r" ∈ (tasks.stored.resolveLinks MemoryStore.empty .empty).1.linked "f" "u") ∧
    "r" ∈ (tasks.stored.resolveLinks MemoryStore.empty .empty).1.linked "f" "u" := by
  have hload := PageStore.load_save MemoryStore.empty "q" storable_tasks doublesReadBack_tasks
  have htranspose := links_transpose (d := projects)
    (b := .fresh "b" "Tasks" (.relation ⟨"q", .back "f"⟩))
    (f := .fresh "f" "Projects" (.relation ⟨"p", .forward none⟩))
    (by decide) (by decide) (by decide) (by decide) List.mem_cons_self rfl List.mem_cons_self rfl
    (.inr ⟨DocumentCache.coherent_empty _, hload⟩) MemoryStore.empty .empty
  have hu : (⟨"u", .ofList [("f", .text "r")], .epoch, .epoch⟩ : Row).stored ∈ tasks.stored.rows :=
    List.mem_map_of_mem (by simp [tasks])
  exact ⟨htranspose.1 ⟨"r", .empty, .epoch, .epoch⟩ List.mem_cons_self _ hu, by decide⟩

/-! ### Links that are left behind -/

theorem property?_of_unique {p : Property} (hp : p ∈ d.properties)
    (honly : ∀ q ∈ d.properties, q.id = p.id → q = p) : d.property? p.id = some p := by
  unfold property?
  obtain ⟨q, hq⟩ := Option.isSome_iff_exists.1
    (List.find?_isSome.2 ⟨p, hp, beq_self_eq_true p.id⟩ :
      (d.properties.find? (·.id == p.id)).isSome = true)
  have hid : (q.id == p.id) = true := List.find?_some (p := fun q : Property => q.id == p.id) hq
  rw [hq, honly q (List.mem_of_find?_eq_some hq) (beq_iff_eq.1 hid)]

/-- Reading a back relation does not ask whether the other document has the forward relation. If it has
lost it, or has another property in its place, then every edit is refused for that reason, but the
links are still the rows whose cells name the row: no row has links exactly if no cell is left that
names one. -/
theorem links_left_behind {p : Property} (hp : p ∈ d.properties)
    (honly : ∀ q ∈ d.properties, q.id = p.id → q = p)
    (hback : p.relation? = some ⟨page, .back property⟩)
    (hload : PageStore.load store page = .ok other) (hcoherent : cache.Coherent store) :
    ((other.property? property).any (·.relation?.isSome) = false →
      ∀ row wanted now, (d.row? row).isSome = true →
        d.setBackLinks p.id row wanted now store cache
          = .error (.forwardPropertyMissing page property)) ∧
    (∀ r ∈ d.rows, ((d.resolveLinks store cache).1.values.get? p.id).bind (·.get? r.id)
      = some (if d.isSharedId r.id then [] else other.linksTo property r.id)) ∧
    ((∀ r ∈ d.rows, (d.resolveLinks store cache).1.linked p.id r.id = []) ↔
      ∀ r ∈ d.rows, d.isSharedId r.id = false → ∀ t ∈ other.rows, r.id ∉ (t.cell property).ids) := by
  have hsource : d.linkSource p.id = .ok (page, property) :=
    linkSource_of_property? (property?_of_unique hp honly) hback
  have hentry := fun r (hr : r ∈ d.rows) =>
    get?_resolveLinks_of_back hp honly hback (.inr ⟨hcoherent, hload⟩) hr
  refine ⟨fun hmissing row wanted now hrow => ?_, hentry, forall₂_congr fun r hr => ?_⟩
  · exact setBackLinks_of_missing hsource hrow hload hmissing
  · rw [Links.linked, hentry r hr, Option.getD_some]
    cases d.isSharedId r.id with
    | true => simp
    | false => simp [linksTo_eq_nil_iff]

/-- The tasks after the column of their projects has been deleted; a cell of it is still there. -/
def cutTasks : Document := { tasks with properties := [.fresh "n" "Hours" (.number none)] }

theorem storable_cutTasks : cutTasks.Storable where
  properties p hp := by
    cases List.mem_singleton.1 hp
    exact Property.storable_fresh nofun
  rows := storable_tasks.rows
  views := storable_tasks.views

/-- The edit is refused, and the deleted link is shown. -/
theorem links_left_behind_cutTasks :
    projects.setBackLinks "b" "r" ["t"] .epoch (PageStore.save MemoryStore.empty "q" cutTasks) .empty
      = .error (.forwardPropertyMissing "q" "f") ∧
    (projects.resolveLinks (PageStore.save MemoryStore.empty "q" cutTasks) .empty).1.linked "b" "r"
      = ["u"] := by
  have hload := PageStore.load_save MemoryStore.empty "q" storable_cutTasks
    (doublesReadBack_of_all readsBack_half (by decide +kernel))
  have honly : ∀ q ∈ projects.properties, q.id = "b" →
      q = .fresh "b" "Tasks" (.relation ⟨"q", .back "f"⟩) := fun q hq _ => List.mem_singleton.1 hq
  obtain ⟨hrefused, hlinks, -⟩ := links_left_behind (d := projects) List.mem_cons_self honly rfl hload
    (DocumentCache.coherent_empty _)
  refine ⟨hrefused (by decide) "r" ["t"] .epoch (by decide), ?_⟩
  have hr := hlinks ⟨"r", .empty, .epoch, .epoch⟩ List.mem_cons_self
  have hcell : (if projects.isSharedId "r" then [] else cutTasks.stored.linksTo "f" "r") = ["u"] := by
    decide
  exact congrArg (Option.getD · []) (hr.trans (congrArg some hcell))

end Document

end Databook
