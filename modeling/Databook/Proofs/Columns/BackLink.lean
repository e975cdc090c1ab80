import Databook.Columns.BackLink
import Databook.Proofs.Columns.Links
import Databook.Proofs.Pages.Store

/-!
# Editing a back relation

What one call of `Document.setBackLinks` does (`Document.setBackLinks_ok`). It moves from the stored
document to the next one by `Document.relink`; `Row.Moved` and `Document.Moved` say what such a move
leaves as it is, and can be put together to say it of calls that follow each other
(`Databook.Proofs.Columns.LinkCalls`).
-/

namespace Databook

open Calendar

/-! ### Rows -/

namespace Row

theorem get?_setCell_list (r : Row) (property : String) (ids : List String) (now : Instant)
    (other : String) : (r.setCell property (.list ids) now).cells.get? other
      = if other = property then some (.list ids) else r.cells.get? other := by
  have hcells : (r.setCell property (.list ids) now).cells = r.cells.insert property (.list ids) :=
    rfl
  rw [hcells, IdMap.get?_insert]

theorem ids_setCell_list (r : Row) (property : String) (ids : List String) (now : Instant) :
    ((r.setCell property (.list ids) now).cell property).ids = ids := by
  rw [cell, get?_setCell_list, if_pos rfl]
  rfl

section Relink

variable (r : Row) (property row : String) (wanted : List String) (now : Instant)

/-- A row is left alone, or the other row is added at the end, or taken out. -/
theorem relink_cases :
    (r.names property row = wanted.contains r.id ∧ r.relink property row wanted now = r) ∨
    (r.names property row = false ∧ wanted.contains r.id = true ∧
      r.relink property row wanted now
        = r.setCell property (.list ((r.cell property).ids ++ [row])) now) ∨
    (r.names property row = true ∧ wanted.contains r.id = false ∧
      r.relink property row wanted now
        = r.setCell property (.list ((r.cell property).ids.filter (· != row))) now) := by
  unfold relink
  cases hnames : r.names property row <;> cases hwanted : wanted.contains r.id
  · exact .inl ⟨rfl, rfl⟩
  · exact .inr (.inl ⟨rfl, rfl, rfl⟩)
  · exact .inr (.inr ⟨rfl, rfl, rfl⟩)
  · exact .inl ⟨rfl, rfl⟩

@[simp] theorem relink_id : (r.relink property row wanted now).id = r.id := by
  rcases r.relink_cases property row wanted now with ⟨-, h⟩ | ⟨-, -, h⟩ | ⟨-, -, h⟩ <;> rw [h] <;> rfl

@[simp] theorem relink_createdAt : (r.relink property row wanted now).createdAt = r.createdAt := by
  rcases r.relink_cases property row wanted now with ⟨-, h⟩ | ⟨-, -, h⟩ | ⟨-, -, h⟩ <;> rw [h] <;> rfl

theorem get?_relink {other : String} (hne : other ≠ property) :
    (r.relink property row wanted now).cells.get? other = r.cells.get? other := by
  rcases r.relink_cases property row wanted now with ⟨-, h⟩ | ⟨-, -, h⟩ | ⟨-, -, h⟩
  · rw [h]
  · rw [h, get?_setCell_list, if_neg hne]
  · rw [h, get?_setCell_list, if_neg hne]

/-- The other ids that a row names keep their order. -/
theorem filter_ids_relink : ((r.relink property row wanted now).cell property).ids.filter (· != row)
    = (r.cell property).ids.filter (· != row) := by
  rcases r.relink_cases property row wanted now with ⟨-, h⟩ | ⟨-, -, h⟩ | ⟨-, -, h⟩
  · rw [h]
  · rw [h, ids_setCell_list]
    simp
  · rw [h, ids_setCell_list]
    simp

theorem names_eq_of_filter {r r' : Row} {property row other : String} (hne : other ≠ row)
    (h : (r'.cell property).ids.filter (· != row) = (r.cell property).ids.filter (· != row)) :
    r'.names property other = r.names property other := by
  have hmem : other ∈ (r'.cell property).ids ↔ other ∈ (r.cell property).ids := by
    have := congrArg (other ∈ ·) h
    simpa [hne] using this
  simp [names, hmem]

/-- Afterwards the row names the other one if it is wanted. -/
theorem names_relink (other : String) : (r.relink property row wanted now).names property other
    = if other = row then wanted.contains r.id else r.names property other := by
  split
  · next heq =>
    subst heq
    rcases r.relink_cases property other wanted now with ⟨hsame, h⟩ | ⟨-, hwanted, h⟩ | ⟨-, hwanted, h⟩
    · rw [h, hsame]
    · rw [h, names, ids_setCell_list, hwanted]
      simp
    · rw [h, names, ids_setCell_list, hwanted]
      simp
  · next hne => exact names_eq_of_filter hne (r.filter_ids_relink property row wanted now)

end Relink

/-! ### Stored rows -/

theorem get?_stored (r : Row) (property : String) :
    r.stored.cells.get? property = (r.cells.get? property).map Cell.stored :=
  IdMap.get?_map Cell.stored r.cells property

theorem ids_stored (r : Row) (property : String) :
    (r.stored.cell property).ids = (r.cell property).ids := by
  rw [cell, get?_stored, cell]
  cases r.cells.get? property with
  | none => rfl
  | some c => exact c.ids_stored

theorem names_stored (r : Row) (property row : String) :
    r.stored.names property row = r.names property row := by
  rw [names, ids_stored, names]

theorem stored_stored (r : Row) : r.stored.stored = r.stored := by
  simp [stored, IdMap.map, Function.comp_def, Cell.stored_stored]

/-! ### What a row keeps -/

/-- What a row keeps while the links to the rows `named` are edited: its cells but for one property,
the order of all other ids in that property, and all of it unless its id is in `changed`. -/
structure Moved (property : String) (named changed : List String) (r r' : Row) : Prop where
  id : r'.id = r.id
  createdAt : r'.createdAt = r.createdAt
  cells : ∀ other ≠ property, r'.cells.get? other = r.cells.get? other ∨
    r'.cells.get? other = (r.cells.get? other).map Cell.stored
  order : (r'.cell property).ids.filter (!named.contains ·)
    = (r.cell property).ids.filter (!named.contains ·)
  unchanged : r.id ∉ changed → r' = r ∨ r' = r.stored

theorem map_stored_stored (c : Option Cell) :
    (c.map Cell.stored).map Cell.stored = c.map Cell.stored := by
  cases c with
  | none => rfl
  | some c => exact congrArg some c.stored_stored

namespace Moved

variable {property : String} {named named' changed changed' : List String} {r r' r'' : Row}

theorem refl (r : Row) : Moved property named changed r r :=
  ⟨rfl, rfl, fun _ _ => .inl rfl, rfl, fun _ => .inl rfl⟩

theorem stored (h : Moved property named changed r r') :
    Moved property named changed r r'.stored where
  id := h.id
  createdAt := h.createdAt
  cells other hne := by
    rw [get?_stored]
    rcases h.cells other hne with hcell | hcell
    · exact .inr (by rw [hcell])
    · exact .inr (by rw [hcell, map_stored_stored])
  order := by rw [ids_stored, h.order]
  unchanged hid := by
    rcases h.unchanged hid with rfl | rfl
    · exact .inr rfl
    · exact .inr r.stored_stored

theorem trans (h : Moved property named changed r r') (h' : Moved property named' changed' r' r'') :
    Moved property (named ++ named') (changed ++ changed') r r'' where
  id := h'.id.trans h.id
  createdAt := h'.createdAt.trans h.createdAt
  cells other hne := by
    rcases h'.cells other hne with hcell' | hcell' <;> rcases h.cells other hne with hcell | hcell
    · exact .inl (by rw [hcell', hcell])
    · exact .inr (by rw [hcell', hcell])
    · exact .inr (by rw [hcell', hcell])
    · exact .inr (by rw [hcell', hcell, map_stored_stored])
  order := by
    have hsplit : ∀ ids : List String, ids.filter (!(named ++ named').contains ·)
        = (ids.filter (!named.contains ·)).filter (!named'.contains ·) := by
      intro ids
      rw [List.filter_filter]
      exact List.filter_congr fun id _ => by simp [Bool.and_comm]
    have hsplit' : ∀ ids : List String, ids.filter (!(named ++ named').contains ·)
        = (ids.filter (!named'.contains ·)).filter (!named.contains ·) := by
      intro ids
      rw [List.filter_filter]
      exact List.filter_congr fun id _ => by simp
    rw [hsplit', h'.order, ← hsplit', hsplit, h.order, ← hsplit]
  unchanged hid := by
    obtain ⟨hid, hid'⟩ := not_or.1 fun hor => hid (List.mem_append.2 hor)
    rw [← h.id] at hid'
    rcases h'.unchanged hid' with rfl | rfl
    · exact h.unchanged hid
    · rcases h.unchanged hid with rfl | rfl
      · exact .inr rfl
      · exact .inr r.stored_stored

end Moved

theorem moved_relink {r : Row} {property row : String} {wanted changed : List String}
    (h : r.id ∉ changed → r.names property row = wanted.contains r.id) (now : Instant) :
    Moved property [row] changed r (r.relink property row wanted now) where
  id := r.relink_id property row wanted now
  createdAt := r.relink_createdAt property row wanted now
  cells _ hne := .inl (r.get?_relink property row wanted now hne)
  order := by
    have hnamed : ∀ ids : List String, ids.filter (! [row].contains ·) = ids.filter (· != row) :=
      fun ids => List.filter_congr fun id _ => by rw [Bool.eq_iff_iff]; simp
    rw [hnamed, hnamed, filter_ids_relink]
  unchanged hid := by
    rcases r.relink_cases property row wanted now with ⟨-, hr⟩ | ⟨hnames, hwanted, -⟩ |
      ⟨hnames, hwanted, -⟩
    · exact .inl hr
    · rw [h hid, hwanted] at hnames
      cases hnames
    · rw [h hid, hwanted] at hnames
      cases hnames

end Row

/-! ### Relinked documents -/

theorem Row.mem_numbers {r : Row} {n : Json.Number} :
    n ∈ r.toJson.numbers ↔ ∃ entry ∈ r.cells.entries, n ∈ entry.2.toJson.numbers := by
  have hrow : r.toJson.numbers = r.cellsJson.numbers := by
    simp [toJson, Json.numbers, Json.numbersOfFields]
  rw [hrow]
  exact Json.mem_numbers_ofMap

/-- Relinking a row writes no numbers. -/
theorem Row.mem_numbers_of_relink {r : Row} {property row : String} {wanted : List String}
    {now : Instant} {n : Json.Number} (h : n ∈ (r.relink property row wanted now).toJson.numbers) :
    n ∈ r.toJson.numbers := by
  have hset : ∀ ids : List String, n ∈ (r.setCell property (.list ids) now).toJson.numbers →
      n ∈ r.toJson.numbers := by
    intro ids hn
    obtain ⟨entry, hentry, hn⟩ := mem_numbers.1 hn
    rcases IdMap.mem_of_mem_entries_insert hentry with rfl | hentry
    · obtain ⟨id, -, hid⟩ := Json.mem_numbers_ofList.1 hn
      cases hid
    · exact mem_numbers.2 ⟨entry, hentry, hn⟩
  rcases r.relink_cases property row wanted now with ⟨-, hr⟩ | ⟨-, -, hr⟩ | ⟨-, -, hr⟩
  · rwa [hr] at h
  · exact hset _ (hr ▸ h)
  · exact hset _ (hr ▸ h)

theorem Row.Storable.relink {r : Row} (h : r.Storable) (property row : String)
    (wanted : List String) {now : Instant} (hnow : now.IsValid) :
    (r.relink property row wanted now).Storable := by
  have hset : ∀ ids : List String, (r.setCell property (.list ids) now).Storable := by
    intro ids
    have hlist : (Cell.list ids).IsFinite := trivial
    exact h.setCell property hlist hnow
  rcases r.relink_cases property row wanted now with ⟨-, hr⟩ | ⟨-, -, hr⟩ | ⟨-, -, hr⟩
  · rwa [hr]
  · exact hr ▸ hset _
  · exact hr ▸ hset _

namespace Document

section Relink

variable {d : Document} (property row : String) (wanted : List String) {now : Instant}

theorem Storable.relink (h : d.Storable) (hnow : now.IsValid) :
    (d.relink property row wanted now).1.Storable := by
  refine ⟨h.properties, fun r hr => ?_, h.views⟩
  obtain ⟨old, hold, rfl⟩ := List.mem_map.1 hr
  exact (h.rows old hold).relink property row wanted hnow

/-- Relinking a document writes no numbers. -/
theorem mem_numbers_of_relink {n : Json.Number}
    (hn : n ∈ (d.relink property row wanted now).1.toJson.numbers) : n ∈ d.toJson.numbers := by
  obtain ⟨field, hfield, hn⟩ := Json.mem_numbers_object.1 hn
  simp only [List.mem_cons, List.not_mem_nil, or_false] at hfield
  rcases hfield with rfl | rfl | rfl
  · exact Json.mem_numbers_object.2 ⟨("properties", .ofList Property.toJson d.properties), by simp, hn⟩
  · obtain ⟨r, hr, hn⟩ := Json.mem_numbers_ofList.1 hn
    obtain ⟨old, hold, rfl⟩ := List.mem_map.1 hr
    have hrows := Json.mem_numbers_ofList.2 ⟨old, hold, Row.mem_numbers_of_relink hn⟩
    exact Json.mem_numbers_object.2 ⟨("rows", .ofList Row.toJson d.rows), by simp, hrows⟩
  · exact Json.mem_numbers_object.2 ⟨("views", .ofList View.toJson d.views), by simp, hn⟩

theorem fits_relink (h : d.toJson.Fits) : (d.relink property row wanted now).1.toJson.Fits :=
  fun n hn => h n (mem_numbers_of_relink property row wanted hn)

theorem DoublesReadBack.relink (h : d.DoublesReadBack) (now : Instant) :
    (d.relink property row wanted now).1.DoublesReadBack :=
  fun x hx => h x (mem_numbers_of_relink property row wanted hx)

end Relink

theorem DoublesReadBack.stored {d : Document} (h : d.DoublesReadBack) : d.stored.DoublesReadBack := by
  unfold DoublesReadBack
  rw [toJson_stored]
  exact h

/-- A move from one document to another: properties and views stay, or are as they are after they
have been stored, and each row moves as `R` says. -/
structure Moved (R : Row → Row → Prop) (d d' : Document) : Prop where
  properties : d'.properties = d.properties ∨ d'.properties = d.properties.map (·.stored)
  rows : ∃ f : Row → Row, d'.rows = d.rows.map f ∧ ∀ r ∈ d.rows, R r (f r)
  views : d'.views = d.views ∨ d'.views = d.views.map (·.stored)

namespace Moved

variable {R R' R'' : Row → Row → Prop} {d d' d'' : Document}

theorem refl (h : ∀ r ∈ d.rows, R r r) : Moved R d d :=
  ⟨.inl rfl, ⟨id, (List.map_id _).symm, h⟩, .inl rfl⟩

theorem trans (h : Moved R d d') (h' : Moved R' d' d'')
    (hR : ∀ r r' r'', R r r' → R' r' r'' → R'' r r'') : Moved R'' d d'' where
  properties := by
    rcases h'.properties with hp' | hp' <;> rcases h.properties with hp | hp
    · exact .inl (hp'.trans hp)
    · exact .inr (hp'.trans hp)
    · exact .inr (by rw [hp', hp])
    · exact .inr (by rw [hp', hp]; simp [Function.comp_def, Property.stored_stored])
  rows := by
    obtain ⟨f, hf, hrows⟩ := h.rows
    obtain ⟨f', hf', hrows'⟩ := h'.rows
    refine ⟨f' ∘ f, by rw [hf', hf, List.map_map], fun r hr => ?_⟩
    exact hR r (f r) (f' (f r)) (hrows r hr) (hrows' (f r) (hf ▸ List.mem_map_of_mem hr))
  views := by
    rcases h'.views with hv' | hv' <;> rcases h.views with hv | hv
    · exact .inl (hv'.trans hv)
    · exact .inr (hv'.trans hv)
    · exact .inr (by rw [hv', hv])
    · exact .inr (by rw [hv', hv]; simp [Function.comp_def, View.stored_stored])

theorem stored (h : Moved R d d') (hR : ∀ r r', R r r' → R r r'.stored) : Moved R d d'.stored := by
  have hstored : Moved (fun r r' => r' = r.stored) d' d'.stored :=
    ⟨.inr rfl, ⟨Row.stored, rfl, fun _ _ => rfl⟩, .inr rfl⟩
  refine h.trans hstored fun r r' r'' hr hr' => ?_
  rw [hr']
  exact hR r r' hr

end Moved

/-! ### What a call does -/

section Call

variable {σ : Type} [PageStore σ] {d t : Document} {property row page forward : String}
  {wanted : List String} {now : Instant} {store store' : σ} {cache cache' : DocumentCache}
  {change : LinkChange}

/-- The links of a back relation are stored where the relation says. -/
theorem property?_of_linkSource (h : d.linkSource property = .ok (page, forward)) :
    ∃ p, d.property? property = some p ∧ p.relation? = some ⟨page, .back forward⟩ := by
  unfold linkSource at h
  split at h
  · cases h
  · next p hp =>
    split at h
    · next hrelation =>
      cases h
      exact ⟨p, hp, hrelation⟩
    · cases h

theorem linkSource_of_property? {p : Property} (hp : d.property? property = some p)
    (hrelation : p.relation? = some ⟨page, .back forward⟩) :
    d.linkSource property = .ok (page, forward) := by
  rw [linkSource, hp]
  simp only
  rw [hrelation]

theorem load_of_loadLinkSource (h : loadLinkSource store page forward = .ok t) :
    PageStore.load store page = .ok t ∧ (t.property? forward).any (·.relation?.isSome) = true := by
  unfold loadLinkSource at h
  split at h
  · cases h
  · next hload =>
    split at h
    · next hforward =>
      cases h
      exact ⟨hload, hforward⟩
    · cases h

/-- A call that succeeds has loaded the other document, which has the relation, and made the wanted
links in it; it has saved the document if there was something to change, and the cache has forgotten
the page in any case. -/
theorem setBackLinks_ok
    (h : d.setBackLinks property row wanted now store cache = .ok (change, store', cache')) :
    ∃ page forward t, d.linkSource property = .ok (page, forward) ∧ (d.row? row).isSome = true ∧
      PageStore.load store page = .ok t ∧ (t.property? forward).any (·.relation?.isSome) = true ∧
      change = (t.relink forward row wanted now).2 ∧ cache' = cache.invalidate page ∧
      (change.isEmpty = true ∧ store' = store ∨
        change.isEmpty = false ∧
          store' = PageStore.save store page (t.relink forward row wanted now).1) := by
  unfold setBackLinks at h
  obtain ⟨⟨page, forward⟩, hsource, h⟩ := Json.exists_of_bind_ok h
  simp only at h
  split at h
  · cases h
  · next hrow =>
    have hsome : (d.row? row).isSome = true := by simpa [Option.isSome_iff_ne_none] using hrow
    obtain ⟨t, hlink, h⟩ := Json.exists_of_bind_ok h
    obtain ⟨hload, hforward⟩ := load_of_loadLinkSource hlink
    refine ⟨page, forward, t, hsource, hsome, hload, hforward, ?_⟩
    split at h
    · next hempty =>
      cases h
      exact ⟨rfl, rfl, .inl ⟨hempty, rfl⟩⟩
    · next hempty =>
      obtain ⟨saved, hsave, h⟩ := Json.exists_of_bind_ok h
      cases h
      refine ⟨rfl, rfl, .inr ⟨by simpa using hempty, ?_⟩⟩
      -- a save that does not fail is the save itself
      unfold PageStore.trySave at hsave
      split at hsave
      · cases hsave
      · cases hsave
        rfl

/-- A call is refused if the other document does not have the relation. -/
theorem setBackLinks_of_missing (hsource : d.linkSource property = .ok (page, forward))
    (hrow : (d.row? row).isSome = true) (hload : PageStore.load store page = .ok t)
    (hmissing : (t.property? forward).any (·.relation?.isSome) = false) :
    d.setBackLinks property row wanted now store cache
      = .error (.forwardPropertyMissing page forward) := by
  have hlink : loadLinkSource store page forward = .error (.forwardPropertyMissing page forward) := by
    rw [loadLinkSource, hload]
    simp only
    rw [if_neg (by rw [hmissing]; exact Bool.false_ne_true)]
  have hsome : ¬ (d.row? row).isNone = true := by
    rw [Option.isNone_iff_eq_none, ← ne_eq, ← Option.isSome_iff_ne_none]
    exact hrow
  unfold setBackLinks
  rw [Json.bind_ok hsource]
  simp only
  rw [if_neg hsome, hlink]
  rfl

end Call

end Document

end Databook
