import Databook.Columns.Links
import Databook.Proofs.Document.Index
import Databook.Proofs.Document.Lookup
import Mathlib.Data.List.Nodup

/-!
# Links of rows

In a document whose properties and rows have ids of their own, the links of a row through a forward
relation are those that it stores (`Document.linked_of_forward`), and through a back relation they are
the rows of the other document that name it, in their order (`Document.linked_of_back`).

The index that back links are looked up in comes to the same as asking, for each row, which rows name it
(`Document.linksTo`), but an id that several rows share gets no links (`Document.get?_backLinks`).
-/

namespace Databook

/-- A list without duplicates is left as it is. -/
theorem eraseDups_of_nodup {ids : List String} (h : ids.Nodup) : ids.eraseDups = ids := by
  induction ids with
  | nil => rfl
  | cons id ids ih =>
    obtain ⟨hid, hids⟩ := List.nodup_cons.1 h
    have hfilter : ids.filter (fun other => !other == id) = ids := by
      refine List.filter_eq_self.2 fun other hother => ?_
      have hne : other ≠ id := fun heq => hid (heq ▸ hother)
      simpa using hne
    rw [List.eraseDups_cons, hfilter, ih hids]

namespace Document

/-- The rows that name `row` in a property, in order. -/
def linksTo (d : Document) (property row : String) : List String :=
  ((d.rows.filter fun r => (r.cell property).ids.contains row).map (·.id)).eraseDups

/-- Do several rows have the same id? Such an id names none of them. -/
def isSharedId (d : Document) (row : String) : Bool :=
  1 < (d.rows.filter (·.id == row)).length

variable {d other : Document} {property row : String}

/-- An id that only one row has is not shared. -/
theorem isSharedId_of_nodup (hrows : (d.rows.map (·.id)).Nodup) (row : String) :
    d.isSharedId row = false := by
  have hsame : ((d.rows.filter (·.id == row)).map (·.id)).Nodup :=
    hrows.sublist (List.filter_sublist.map _)
  have hall : ∀ id ∈ (d.rows.filter (·.id == row)).map (·.id), id = row := by
    intro id hid
    obtain ⟨r, hr, rfl⟩ := List.mem_map.1 hid
    exact beq_iff_eq.1 (List.mem_filter.1 hr).2
  have hreplicate := List.eq_replicate_of_mem hall
  rw [hreplicate, List.nodup_replicate, List.length_map] at hsame
  simpa [isSharedId] using hsame

/-- The rows that name another one, if their ids are their own. -/
theorem linksTo_of_nodup (hrows : (d.rows.map (·.id)).Nodup) (property row : String) :
    d.linksTo property row
      = (d.rows.filter fun r => (r.cell property).ids.contains row).map (·.id) :=
  eraseDups_of_nodup (hrows.sublist (List.filter_sublist.map _))

theorem mem_relations {p : Property} {r : Relation} :
    (p, r) ∈ d.relations ↔ p ∈ d.properties ∧ p.relation? = some r := by
  unfold relations
  rw [List.mem_filterMap]
  constructor
  · rintro ⟨q, hq, hmap⟩
    obtain ⟨r', hr', hpair⟩ := Option.map_eq_some_iff.1 hmap
    cases hpair
    exact ⟨hq, hr'⟩
  · rintro ⟨hp, hr⟩
    exact ⟨p, hp, by rw [hr]; rfl⟩

/-- The links of a relation that no other property shares its id with. -/
theorem get?_links {p : Property} {r : Relation} (hp : p ∈ d.properties)
    (honly : ∀ q ∈ d.properties, q.id = p.id → q = p) (hrelation : p.relation? = some r)
    (related : String → Option Document) :
    (d.links related).values.get? p.id = some (d.linksOf (related r.page) p r) := by
  refine IdMap.get?_ofList_of_unique (List.mem_map.2 ⟨(p, r), mem_relations.2 ⟨hp, hrelation⟩, rfl⟩) ?_
  intro links hlinks
  obtain ⟨⟨q, r'⟩, hmem, hentry⟩ := List.mem_map.1 hlinks
  obtain ⟨hq, hr'⟩ := mem_relations.1 hmem
  obtain ⟨hid, rfl⟩ := Prod.mk.inj hentry
  obtain rfl := honly q hq hid
  rw [hrelation, Option.some_inj] at hr'
  rw [hr']

theorem isSharedId_iff : d.isSharedId row = true ↔ 1 < (d.rows.map (·.id)).count row := by
  rw [isSharedId, decide_eq_true_iff, List.count_eq_countP, List.countP_map,
    List.countP_eq_length_filter]
  rfl

/-- Every id of a row has its back links: the rows of the other document that name it, and nothing if
rows share the id or there is no such document. -/
theorem get?_backLinks (d : Document) (other : Option Document) (property id : String) :
    (d.backLinks other property).get? id
      = if id ∈ d.rows.map (·.id) then
          some (if d.isSharedId id then [] else (other.map (·.linksTo property id)).getD [])
        else none := by
  unfold backLinks
  rw [RowIndex.get?_ofList_handOut]
  simp only [isSharedId_iff]
  cases other with
  | none => rfl
  | some other =>
    simp only [RowIndex.getD_get?_ofRows]
    rfl

theorem get?_backLinks_of_mem {r : Row} (hr : r ∈ d.rows) (other : Document) (property : String) :
    (d.backLinks (some other) property).get? r.id
      = some (if d.isSharedId r.id then [] else other.linksTo property r.id) := by
  rw [get?_backLinks, if_pos (List.mem_map_of_mem hr)]
  rfl

theorem get?_forwardLinks (hrows : (d.rows.map (·.id)).Nodup) {r : Row} (hr : r ∈ d.rows)
    (property : String) : (d.forwardLinks property).get? r.id = some (r.cell property).ids := by
  refine IdMap.get?_ofList_of_unique (List.mem_map.2 ⟨r, hr, rfl⟩) fun links hlinks => ?_
  obtain ⟨r', hr', hentry⟩ := List.mem_map.1 hlinks
  obtain ⟨hid, rfl⟩ := Prod.mk.inj hentry
  rw [List.inj_on_of_nodup_map hrows hr' hr hid]

/-- In a document in which every property has an id of its own, no other one shares an id with it. -/
theorem eq_of_property_id (hproperties : (d.properties.map (·.id)).Nodup) {p : Property}
    (hp : p ∈ d.properties) : ∀ q ∈ d.properties, q.id = p.id → q = p :=
  fun _ hq hid => List.inj_on_of_nodup_map hproperties hq hp hid

/-- The links of a row through a back relation are the rows of the other document that name it. -/
theorem linked_of_back {p : Property} {page : String} {related : String → Option Document}
    (hproperties : (d.properties.map (·.id)).Nodup) (hrows : (d.rows.map (·.id)).Nodup)
    (hp : p ∈ d.properties) (hrelation : p.relation? = some ⟨page, .back property⟩)
    (hother : related page = some other) {r : Row} (hr : r ∈ d.rows) :
    (d.links related).linked p.id r.id = other.linksTo property r.id := by
  have hvalues := get?_links hp (eq_of_property_id hproperties hp) hrelation related
  simp only [linksOf, hother] at hvalues
  rw [Links.linked, hvalues, Option.bind_some, get?_backLinks_of_mem hr,
    isSharedId_of_nodup hrows]
  rfl

/-- The links of a row through a forward relation are those that it stores. -/
theorem linked_of_forward {p : Property} {page : String} {shownBy : Option String}
    (hproperties : (d.properties.map (·.id)).Nodup) (hrows : (d.rows.map (·.id)).Nodup)
    (hp : p ∈ d.properties) (hrelation : p.relation? = some ⟨page, .forward shownBy⟩)
    (related : String → Option Document) {r : Row} (hr : r ∈ d.rows) :
    (d.links related).linked p.id r.id = (r.cell p.id).ids := by
  have hvalues := get?_links hp (eq_of_property_id hproperties hp) hrelation related
  simp only [linksOf] at hvalues
  rw [Links.linked, hvalues, Option.bind_some, get?_forwardLinks hrows hr, Option.getD_some]

end Document

end Databook
