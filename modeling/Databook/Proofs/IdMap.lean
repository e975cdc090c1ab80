import Databook.IdMap

/-!
# Laws of maps

What the operations of an `IdMap` do to its entries and its keys. A map is determined by the list of
its entries, and a list in the order of its ids is the list of entries of its map
(`entries_ofList_of_increasing`).
-/

namespace Databook

namespace IdMap

variable {α : Type u} {β : Type v}

@[ext] theorem ext {m m' : IdMap α} (h : m.entries = m'.entries) : m = m' := by
  cases m
  cases m'
  cases h
  rfl

/-! ### Looking up -/

/-- In a list in which every id stands once, looking up finds every entry. -/
theorem lookup_eq_some_iff {entries : List (String × α)} (h : (entries.map (·.1)).Nodup)
    {id : String} {value : α} : entries.lookup id = some value ↔ (id, value) ∈ entries := by
  induction entries with
  | nil => simp
  | cons entry rest ih =>
    obtain ⟨key, held⟩ := entry
    rw [List.map_cons, List.nodup_cons] at h
    rw [lookup_entry, List.mem_cons]
    split
    · next hk =>
      subst hk
      constructor
      · intro hv
        cases hv
        exact .inl rfl
      · rintro (hv | hv)
        · cases hv
          rfl
        · exact absurd (List.mem_map_of_mem (f := (·.1)) hv) h.1
    · next hk =>
      rw [ih h.2]
      constructor
      · exact .inr
      · rintro (hv | hv)
        · cases hv
          exact absurd rfl hk
        · exact hv

theorem nodup_of_increasing {entries : List (String × α)} (h : Increasing entries) :
    (entries.map (·.1)).Nodup := by
  refine List.pairwise_map.2 (h.imp ?_)
  intro a b hlt heq
  rw [heq] at hlt
  exact String.lt_irrefl _ hlt

theorem nodup_keys (m : IdMap α) : m.keys.Nodup := nodup_of_increasing m.increasing

theorem get?_eq_some_iff {m : IdMap α} {id : String} {value : α} :
    m.get? id = some value ↔ (id, value) ∈ m.entries :=
  lookup_eq_some_iff m.nodup_keys

theorem contains_iff {m : IdMap α} {id : String} :
    m.contains id = true ↔ ∃ value, m.get? id = some value := by
  unfold contains
  exact Option.isSome_iff_exists

theorem mem_keys {m : IdMap α} {id : String} : id ∈ m.keys ↔ m.contains id = true := by
  rw [contains_iff]
  unfold keys
  rw [List.mem_map]
  constructor
  · rintro ⟨⟨key, value⟩, he, rfl⟩
    exact ⟨value, get?_eq_some_iff.2 he⟩
  · rintro ⟨value, hv⟩
    exact ⟨(id, value), get?_eq_some_iff.1 hv, rfl⟩

theorem get?_eq_none_iff {m : IdMap α} {id : String} : m.get? id = none ↔ id ∉ m.keys := by
  rw [mem_keys, contains, Option.not_isSome_iff_eq_none]

/-! ### Maps of lists -/

theorem get?_foldl_insert (entries : List (String × α)) (m : IdMap α) (id : String) :
    (entries.foldl (fun m entry => m.insert entry.1 entry.2) m).get? id
      = (entries.reverse.lookup id).or (m.get? id) := by
  induction entries generalizing m with
  | nil => simp
  | cons entry rest ih =>
    obtain ⟨key, value⟩ := entry
    rw [List.foldl_cons, ih, get?_insert, List.reverse_cons, List.lookup_append]
    by_cases h : id = key
    · subst h
      simp
    · have hb : (id == key) = false := by simpa using h
      simp [List.lookup_cons, h, hb]

/-- Of several entries with one id the last counts. -/
theorem get?_ofList (entries : List (String × α)) (id : String) :
    (ofList entries).get? id = entries.reverse.lookup id := by
  unfold ofList
  rw [get?_foldl_insert]
  simp

theorem mem_of_mem_entries_ofList {entries : List (String × α)} {entry : String × α}
    (h : entry ∈ (ofList entries).entries) : entry ∈ entries := by
  have hget := get?_eq_some_iff.2 h
  rw [get?_ofList, List.lookup_eq_some_iff] at hget
  obtain ⟨before, after, hsplit, -⟩ := hget
  rw [← List.mem_reverse, hsplit]
  exact List.mem_append_right _ List.mem_cons_self

theorem mem_of_mem_entries_insert {m : IdMap α} {id : String} {value : α} {entry : String × α}
    (h : entry ∈ (m.insert id value).entries) : entry = (id, value) ∨ entry ∈ m.entries := by
  have hget := get?_eq_some_iff.2 h
  rw [get?_insert] at hget
  split at hget
  · next hid =>
    cases hget
    exact .inl (Prod.ext hid rfl)
  · exact .inr (get?_eq_some_iff.1 hget)

/-- Writing an id above all others puts it at the end. -/
theorem insertEntry_eq_append {id : String} {value : α} {entries : List (String × α)}
    (h : ∀ e ∈ entries, e.1 < id) : insertEntry id value entries = entries ++ [(id, value)] := by
  induction entries with
  | nil => rfl
  | cons entry rest ih =>
    obtain ⟨key, held⟩ := entry
    have hlt : key < id := h _ List.mem_cons_self
    have hne : id ≠ key := fun heq => String.lt_irrefl id (heq ▸ hlt)
    rw [insertEntry, if_neg (String.lt_asymm hlt), if_neg hne,
      ih fun e he => h e (List.mem_cons_of_mem _ he), List.cons_append]

theorem entries_foldl_insert {rest : List (String × α)} {m : IdMap α}
    (h : Increasing (m.entries ++ rest)) :
    (rest.foldl (fun m entry => m.insert entry.1 entry.2) m).entries = m.entries ++ rest := by
  induction rest generalizing m with
  | nil => simp
  | cons entry rest ih =>
    have hlast : (m.insert entry.1 entry.2).entries = m.entries ++ [entry] := by
      refine insertEntry_eq_append fun e he => ?_
      exact (List.pairwise_append.1 h).2.2 e he entry List.mem_cons_self
    rw [List.foldl_cons, ih]
    · rw [hlast, List.append_assoc, List.singleton_append]
    · rw [hlast, List.append_assoc, List.singleton_append]
      exact h

theorem entries_ofList_of_increasing {entries : List (String × α)} (h : Increasing entries) :
    (ofList entries).entries = entries := by
  unfold ofList
  rw [entries_foldl_insert (by simpa [empty] using h)]
  simp [empty]

/-- The map of a list with the ids of a map has these ids. -/
theorem keys_ofList_of_map {entries : List (String × β)} {m : IdMap α}
    (h : entries.map (·.1) = m.keys) : (ofList entries).keys = m.keys := by
  have hincreasing : Increasing entries := by
    refine List.pairwise_map.1 (?_ : (entries.map (·.1)).Pairwise (· < ·))
    rw [h]
    exact List.pairwise_map.2 m.increasing
  rw [keys, entries_ofList_of_increasing hincreasing, h]

theorem ofList_entries (m : IdMap α) : ofList m.entries = m :=
  ext (entries_ofList_of_increasing m.increasing)

theorem isSome_get?_ofList {entries : List (String × α)} {id : String} {value : α}
    (h : (id, value) ∈ entries) : ((ofList entries).get? id).isSome = true := by
  rw [get?_ofList, Option.isSome_iff_ne_none]
  intro hnone
  simpa using List.lookup_eq_none_iff.1 hnone (id, value) (List.mem_reverse.2 h)

theorem mem_of_get?_ofList {entries : List (String × α)} {id : String} {value : α}
    (h : (ofList entries).get? id = some value) : (id, value) ∈ entries :=
  mem_of_mem_entries_ofList (get?_eq_some_iff.1 h)

/-- If all entries with an id have the same value, looking the id up finds this value. -/
theorem get?_ofList_of_unique {entries : List (String × α)} {id : String} {value : α}
    (hmem : (id, value) ∈ entries) (honly : ∀ other, (id, other) ∈ entries → other = value) :
    (ofList entries).get? id = some value := by
  obtain ⟨found, hfound⟩ := Option.isSome_iff_exists.1 (isSome_get?_ofList hmem)
  rw [hfound, honly found (mem_of_get?_ofList hfound)]

/-- In a merge the values of the second map come first. -/
theorem get?_merge (m other : IdMap α) (id : String) :
    (m.merge other).get? id = (other.get? id).or (m.get? id) := by
  unfold merge
  rw [get?_foldl_insert, ← get?_ofList, ofList_entries]

theorem get?_foldl_erase (ids : List String) (m : IdMap α) (id : String) :
    (ids.foldl (·.erase ·) m).get? id = if id ∈ ids then none else m.get? id := by
  induction ids generalizing m with
  | nil => simp
  | cons first ids ih =>
    rw [List.foldl_cons, ih, get?_erase]
    by_cases hfirst : id = first <;> by_cases hids : id ∈ ids <;> simp [hfirst, hids]

theorem erase_comm (m : IdMap α) (id id' : String) : (m.erase id).erase id' = (m.erase id').erase id := by
  ext1
  simp only [erase, List.filter_filter, Bool.and_comm]

theorem erase_erase (m : IdMap α) (id : String) : (m.erase id).erase id = m.erase id := by
  ext1
  simp only [erase, List.filter_filter, Bool.and_self]

theorem nodup_entries (m : IdMap α) : m.entries.Nodup :=
  List.Pairwise.of_map (·.1) (fun _ _ hne heq => hne (congrArg (·.1) heq)) m.nodup_keys

/-- Entries in the order of their ids are determined by their members. -/
theorem eq_of_increasing {entries entries' : List (String × α)} (h : Increasing entries)
    (h' : Increasing entries') (hmem : ∀ entry, entry ∈ entries ↔ entry ∈ entries') :
    entries = entries' := by
  have hperm : entries.Perm entries' :=
    (List.perm_ext_iff_of_nodup (nodup_entries ⟨entries, h⟩) (nodup_entries ⟨entries', h'⟩)).2 hmem
  exact hperm.eq_of_pairwise (fun a b _ _ hab hba => absurd hba (String.lt_asymm hab)) h h'

/-- A map is determined by its look-ups. -/
theorem ext_get? {m m' : IdMap α} (h : ∀ id, m.get? id = m'.get? id) : m = m' := by
  refine ext (eq_of_increasing m.increasing m'.increasing fun entry => ?_)
  rw [← get?_eq_some_iff, ← get?_eq_some_iff, h]

theorem lookup_map (f : α → β) (entries : List (String × α)) (id : String) :
    (entries.map fun entry => (entry.1, f entry.2)).lookup id = (entries.lookup id).map f := by
  induction entries with
  | nil => rfl
  | cons entry rest ih =>
    rw [List.map_cons, lookup_entry, lookup_entry, ih]
    split <;> rfl

theorem get?_map (f : α → β) (m : IdMap α) (id : String) : (m.map f).get? id = (m.get? id).map f :=
  lookup_map f m.entries id

theorem map_insert (f : α → β) (m : IdMap α) (id : String) (value : α) :
    (m.insert id value).map f = (m.map f).insert id (f value) := by
  refine ext_get? fun other => ?_
  simp only [get?_map, get?_insert]
  split <;> rfl

theorem map_erase (f : α → β) (m : IdMap α) (id : String) :
    (m.erase id).map f = (m.map f).erase id := by
  refine ext_get? fun other => ?_
  simp only [get?_map, get?_erase]
  split <;> rfl

theorem contains_map (f : α → β) (m : IdMap α) (id : String) :
    (m.map f).contains id = m.contains id := by
  unfold contains
  rw [get?_map, Option.isSome_map]

theorem keys_map (f : α → β) (m : IdMap α) : (m.map f).keys = m.keys := by
  simp [keys, map]

theorem map_id (m : IdMap α) : m.map id = m := by
  ext1
  simp [map]

/-- Writing into the map that belongs to an id. -/
theorem get?_insert_within (m : IdMap (IdMap α)) (id key id' key' : String) (value : α) :
    ((m.insert id (((m.get? id).getD .empty).insert key value)).get? id').bind (·.get? key')
      = if id' = id ∧ key' = key then some value else (m.get? id').bind (·.get? key') := by
  rw [get?_insert]
  by_cases hid : id' = id
  · subst hid
    rw [if_pos rfl, Option.bind_some, get?_insert]
    by_cases hkey : key' = key
    · rw [if_pos hkey, if_pos ⟨rfl, hkey⟩]
    · rw [if_neg hkey, if_neg fun h => hkey h.2]
      cases m.get? id' <;> rfl
  · rw [if_neg hid, if_neg fun h => hid h.1]

/-- A map of what the entries of another one give. -/
theorem get?_ofList_filterMap_entries (m : IdMap α) (f : String → α → Option β) (id : String) :
    (ofList (m.entries.filterMap fun entry => (f entry.1 entry.2).map (entry.1, ·))).get? id
      = (m.get? id).bind (f id) := by
  ext value
  rw [Option.bind_eq_some_iff]
  constructor
  · intro hget
    obtain ⟨⟨key, held⟩, hentry, hgives⟩ := List.mem_filterMap.1 (mem_of_get?_ofList hget)
    obtain ⟨_, hvalue, hpair⟩ := Option.map_eq_some_iff.1 hgives
    cases hpair
    exact ⟨held, get?_eq_some_iff.2 hentry, hvalue⟩
  · rintro ⟨held, hheld, hvalue⟩
    refine get?_ofList_of_unique (List.mem_filterMap.2
      ⟨(id, held), get?_eq_some_iff.1 hheld, by rw [hvalue, Option.map_some]⟩) fun other hother => ?_
    obtain ⟨⟨key, held'⟩, hentry, hgives⟩ := List.mem_filterMap.1 hother
    obtain ⟨_, hvalue', hpair⟩ := Option.map_eq_some_iff.1 hgives
    cases hpair
    have hsame := (get?_eq_some_iff.2 hentry).symm.trans hheld
    cases hsame
    exact Option.some_inj.1 (hvalue'.symm.trans hvalue)

theorem eq_empty_of_isEmpty {m : IdMap α} (h : m.isEmpty = true) : m = empty :=
  ext (List.isEmpty_iff.1 h)

end IdMap

end Databook
