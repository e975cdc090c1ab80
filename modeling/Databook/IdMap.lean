/-!
# Maps keyed by ids

An `IdMap` holds at most one value per id, in the order of the ids; ids are compared character by
character. Everything that is listed by id in an answer or in a stored document is such a map, so
that two maps with the same content are written alike.

`get?` is the view: `get?_insert` and `get?_erase` say what writing and erasing do to it.
-/

namespace Databook

/-- Write a value into a list of entries in the order of their ids. -/
def insertEntry (id : String) (value : α) : List (String × α) → List (String × α)
  | [] => [(id, value)]
  | (other, held) :: rest =>
    if id < other then (id, value) :: (other, held) :: rest
    else if id = other then (id, value) :: rest
    else (other, held) :: insertEntry id value rest

/-- Entries whose ids increase strictly. -/
def Increasing (entries : List (String × α)) : Prop :=
  entries.Pairwise fun a b => a.1 < b.1

theorem mem_insertEntry {id : String} {value : α} {e : String × α} :
    ∀ {entries : List (String × α)}, e ∈ insertEntry id value entries → e.1 = id ∨ e ∈ entries
  | [], h => by simp [insertEntry] at h; simp [h]
  | (other, held) :: rest, h => by
    unfold insertEntry at h
    split at h
    · simp only [List.mem_cons] at h
      rcases h with h | h
      · exact .inl (by rw [h])
      · exact .inr (by simpa using h)
    · split at h
      · simp only [List.mem_cons] at h
        rcases h with h | h
        · exact .inl (by rw [h])
        · exact .inr (by simp [h])
      · simp only [List.mem_cons] at h
        rcases h with h | h
        · exact .inr (by simp [h])
        · rcases mem_insertEntry h with h | h
          · exact .inl h
          · exact .inr (by simp [h])

theorem increasing_insertEntry {id : String} {value : α} :
    ∀ {entries : List (String × α)}, Increasing entries → Increasing (insertEntry id value entries)
  | [], _ => by simp [insertEntry, Increasing]
  | (other, held) :: rest, h => by
    have hall := List.pairwise_cons.1 h
    unfold insertEntry
    split
    · next hlt =>
      refine List.pairwise_cons.2 ⟨fun e he => ?_, h⟩
      rcases List.mem_cons.1 he with rfl | he
      · exact hlt
      · exact String.lt_trans hlt (hall.1 e he)
    · next hge =>
      split
      · next heq =>
        subst heq
        exact List.pairwise_cons.2 ⟨hall.1, hall.2⟩
      · next hne =>
        refine List.pairwise_cons.2 ⟨fun e he => ?_, increasing_insertEntry hall.2⟩
        rcases mem_insertEntry he with he | he
        · rcases Std.lt_trichotomy id other with hl | hl | hl
          · exact absurd hl hge
          · exact absurd hl hne
          · rw [he]; exact hl
        · exact hall.1 e he

/-- A map from ids to values. -/
structure IdMap (α : Type u) where
  entries : List (String × α)
  increasing : Increasing entries

namespace IdMap

instance [BEq α] : BEq (IdMap α) := ⟨fun a b => a.entries == b.entries⟩

/-- The map without entries. -/
def empty : IdMap α := ⟨[], .nil⟩

instance : Inhabited (IdMap α) := ⟨empty⟩

def isEmpty (m : IdMap α) : Bool := m.entries.isEmpty

def size (m : IdMap α) : Nat := m.entries.length

def keys (m : IdMap α) : List String := m.entries.map (·.1)

/-- The value of an id. -/
def get? (m : IdMap α) (id : String) : Option α := m.entries.lookup id

def contains (m : IdMap α) (id : String) : Bool := (m.get? id).isSome

/-- Write a value, in place of the one held before if there is one. -/
def insert (m : IdMap α) (id : String) (value : α) : IdMap α :=
  ⟨insertEntry id value m.entries, increasing_insertEntry m.increasing⟩

/-- Remove an id and its value. -/
def erase (m : IdMap α) (id : String) : IdMap α :=
  ⟨m.entries.filter (·.1 != id), m.increasing.filter _⟩

/-- Write all values of `other` into the map. -/
def merge (m other : IdMap α) : IdMap α :=
  other.entries.foldl (fun m entry => m.insert entry.1 entry.2) m

/-- The map of a list of entries. Of two entries with one id the later counts. -/
def ofList (entries : List (String × α)) : IdMap α :=
  entries.foldl (fun m entry => m.insert entry.1 entry.2) empty

/-- The map with a function applied to all values. -/
def map (f : α → β) (m : IdMap α) : IdMap β :=
  ⟨m.entries.map fun entry => (entry.1, f entry.2),
    List.pairwise_map.2 (m.increasing.imp fun h => h)⟩

@[simp] theorem get?_empty (id : String) : (empty : IdMap α).get? id = none := rfl

/-- Looking up in a list of entries tries the first one first. -/
theorem lookup_entry (id key : String) (held : α) (rest : List (String × α)) :
    ((key, held) :: rest).lookup id = if id = key then some held else rest.lookup id := by
  by_cases h : id = key
  · subst h; simp
  · have : (id == key) = false := by simpa using h
    simp [List.lookup_cons, this, h]

theorem get?_insert (m : IdMap α) (id other : String) (value : α) :
    (m.insert id value).get? other = if other = id then some value else m.get? other := by
  obtain ⟨entries, h⟩ := m
  simp only [get?, insert]
  clear h
  induction entries with
  | nil => simp [insertEntry, lookup_entry]
  | cons entry rest ih =>
    obtain ⟨key, held⟩ := entry
    unfold insertEntry
    split
    · rw [lookup_entry]
    · split
      · next h =>
        subst h
        by_cases ho : other = id <;> simp [lookup_entry, ho]
      · next h =>
        rw [lookup_entry, lookup_entry, ih]
        by_cases ho : other = key
        · subst ho
          have : ¬ other = id := fun e => h e.symm
          simp [this]
        · simp [ho]

theorem get?_erase (m : IdMap α) (id other : String) :
    (m.erase id).get? other = if other = id then none else m.get? other := by
  obtain ⟨entries, h⟩ := m
  simp only [get?, erase]
  clear h
  induction entries with
  | nil => simp
  | cons entry rest ih =>
    obtain ⟨key, held⟩ := entry
    by_cases hk : key = id
    · subst hk
      rw [List.filter_cons_of_neg (by simp), ih, lookup_entry]
      by_cases h : other = key <;> simp [h]
    · rw [List.filter_cons_of_pos (by simpa using hk), lookup_entry, lookup_entry, ih]
      by_cases h : other = id
      · subst h
        have : ¬ other = key := fun e => hk e.symm
        simp [this]
      · simp [h]

end IdMap

end Databook
