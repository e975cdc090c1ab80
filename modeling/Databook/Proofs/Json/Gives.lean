import Databook.Proofs.Json.Record

/-!
# What is read of a written value, if anything is

A double may be read as another one than was written, or not at all. `Decoder.Gives` says what holds
of the value that a decoder reads from what was written, whether there is one or not, and
`Record.Gives` says it of the fields of an object. So what does not depend on a number is known to
come back without asking anything of the numbers.
-/

namespace Databook.Json

variable {α β : Type} {room : Nat}

/-! ### Decoders -/

namespace Decoder

/-- Does `P` hold of what the decoder reads the value as, if it reads it? -/
def Gives (dec : Decoder α) (room : Nat) (j : Json) (P : α → Prop) : Prop :=
  ∀ a, dec room j.draft = .ok a → P a

theorem Reads.gives {dec : Decoder α} {j : Json} {a : α} (h : Reads dec room j a) :
    dec.Gives room j (· = a) := by
  intro b hb
  unfold Reads at h
  rw [h] at hb
  cases hb
  rfl

/-- What is read of each item is what is read of the list. -/
theorem map_of_mapM {γ δ ε : Type} {f : γ → Except Fault β} {g : δ → γ} {k : δ → ε} {k' : β → ε}
    {ds : List δ} {bs : List β} (hf : ∀ d ∈ ds, ∀ b, f (g d) = .ok b → k' b = k d)
    (h : (ds.map g).mapM f = .ok bs) : bs.map k' = ds.map k := by
  induction ds generalizing bs with
  | nil =>
    cases h
    rfl
  | cons d ds ih =>
    rw [List.map_cons, List.mapM_cons] at h
    obtain ⟨b, hb, h⟩ := exists_of_bind_ok h
    obtain ⟨bs, hbs, h⟩ := exists_of_bind_ok h
    cases h
    rw [List.map_cons, List.map_cons, hf d List.mem_cons_self b hb,
      ih (fun d hd => hf d (List.mem_cons_of_mem _ hd)) hbs]

theorem gives_list {γ : Type} {item : Decoder β} {toJson : α → Json} {k : α → γ} {k' : β → γ}
    {items : List α} (h : ∀ a ∈ items, item.Gives (room - 1) (toJson a) fun b => k' b = k a) :
    (list item).Gives room (.ofList toJson items) fun bs => bs.map k' = items.map k := by
  intro bs hbs
  simp only [ofList, draft, list] at hbs
  obtain ⟨room', hroom, hbs⟩ := exists_of_bind_ok hbs
  obtain ⟨-, rfl⟩ := le_of_enter hroom
  obtain ⟨bs, hmapM, hbs⟩ := exists_of_bind_ok hbs
  obtain ⟨-, -, hbs⟩ := exists_of_bind_ok hbs
  cases hbs
  rw [draftItems_eq_map, List.map_map] at hmapM
  exact map_of_mapM h hmapM

/-- A map is read with the ids that it has. -/
theorem gives_map {value : Decoder β} {toJson : α → Json} {m : IdMap α} :
    (map value).Gives room (.ofMap toJson m) fun m' => m'.keys = m.keys := by
  intro m' hm'
  simp only [ofMap, draft, map] at hm'
  obtain ⟨room', hroom, hm'⟩ := exists_of_bind_ok hm'
  obtain ⟨-, rfl⟩ := le_of_enter hroom
  obtain ⟨entries, hmapM, hm'⟩ := exists_of_bind_ok hm'
  obtain ⟨-, -, hm'⟩ := exists_of_bind_ok hm'
  cases hm'
  rw [draftFields_eq_map, List.map_map] at hmapM
  refine IdMap.keys_ofList_of_map (map_of_mapM (fun entry _ entry' hentry => ?_) hmapM)
  obtain ⟨name, hname, hentry⟩ := exists_of_bind_ok hentry
  obtain ⟨b, -, hentry⟩ := exists_of_bind_ok hentry
  cases hname
  cases hentry
  rfl

end Decoder

/-! ### Records -/

namespace Record

variable {fields : List (String × Json)}

/-- Does `P` hold of what the record is read as from an object with these fields, if it is? -/
def Gives (r : Record α) (room : Nat) (fields : List (String × Json)) (P : α → Prop) : Prop :=
  ∀ s a, Feeds r room r.start fields s → r.finish s = .ok a → P a

variable {P : β → Prop} {Q : α → Prop}

theorem Feeds.of_map {r : Record α} {f : α → β} {s s' : (f <$> r).State}
    (h : Feeds (f <$> r) room s fields s') : Feeds r room s fields s' := by
  induction h with
  | nil s => exact @Feeds.nil _ r room s
  | take hput _ ih => exact .take hput ih
  | skip hput _ ih => exact .skip hput ih

/-- Of two records without a common field each takes in its own ones. -/
theorem Feeds.of_seq {r : Record (α → β)} {q : Record α} {u u' : (r <*> q).State}
    (h : Feeds (r <*> q) room u fields u') (hapart : ∀ name, r.Skips name ∨ q.Skips name) :
    Feeds r room u.1 fields u'.1 ∧ Feeds q room u.2 fields u'.2 := by
  induction h with
  | nil u => exact ⟨.nil _, .nil _⟩
  | @take u u₁ u' name j rest hput _ ih =>
    rcases put_seq_ok hput with ⟨hr, hsame⟩ | ⟨hr, hq, hsame⟩
    · rw [hsame] at ih
      have hskips : q.Skips name := by
        refine (hapart name).resolve_left fun hskips => ?_
        cases (hskips u.1 room j.draft).symm.trans hr
      exact ⟨.take hr ih.1, .skip (hskips u.2 room j.draft) ih.2⟩
    · rw [hsame] at ih
      exact ⟨.skip hr ih.1, .take hq ih.2⟩
  | skip hput _ ih =>
    obtain ⟨hr, hq⟩ := put_seq_eq_none.1 hput
    exact ⟨.skip hr ih.1, .skip hq ih.2⟩

theorem Gives.map {r : Record α} {f : α → β} (h : r.Gives room fields Q)
    (hf : ∀ a, Q a → P (f a)) : (f <$> r).Gives room fields P := by
  intro s b hfeeds hb
  obtain ⟨a, ha, rfl⟩ := exists_of_map_ok hb
  exact hf a (h s a hfeeds.of_map ha)

theorem Gives.seq {r : Record (α → β)} {q : Record α}
    (hr : r.Gives room fields fun f => ∀ a, Q a → P (f a)) (hq : q.Gives room fields Q)
    (hapart : ∀ name, r.Skips name ∨ q.Skips name) : (r <*> q).Gives room fields P := by
  intro u b hfeeds hb
  obtain ⟨hleft, hright⟩ := hfeeds.of_seq hapart
  obtain ⟨f, hf, hb⟩ := exists_of_bind_ok hb
  obtain ⟨a, ha, hb⟩ := exists_of_bind_ok hb
  cases hb
  exact hr u.1 f hleft hf a (hq u.2 a hright ha)

section Field

variable {own : String} {value : Decoder α} {missing : Except Fault α}

/-- A field of a record after other fields. -/
theorem Gives.field {r : Record (α → β)}
    (hr : r.Gives room fields fun f => ∀ a, Q a → P (f a))
    (hq : (Record.field own value missing).Gives room fields Q) (hskips : r.Skips own) :
    (r <*> Record.field own value missing).Gives room fields P := by
  refine hr.seq hq fun name => ?_
  by_cases h : name = own
  · exact .inl (h ▸ hskips)
  · exact .inr (skips_field.2 h)

theorem eq_of_feeds {r : Record α} {s s' : r.State} (h : Feeds r room s fields s')
    (hskips : ∀ f ∈ fields, r.Skips f.1) : s' = s := by
  induction h with
  | nil s => rfl
  | @take s s₁ s' name j rest hput _ _ =>
    rw [hskips (name, j) List.mem_cons_self s room j.draft] at hput
    cases hput
  | skip _ _ ih => exact ih fun f hf => hskips f (List.mem_cons_of_mem _ hf)

/-- A field that is there has been read from its value. -/
theorem read_of_feeds {s : (Record.field own value missing).State} {j : Json}
    (hnames : (fields.map (·.1)).Nodup) (hmem : (own, j) ∈ fields)
    (h : Feeds (Record.field own value missing) room (Record.field own value missing).start fields s) :
    ∃ a, value room j.draft = .ok a ∧ s = some a := by
  induction fields with
  | nil => cases hmem
  | cons f fields ih =>
    obtain ⟨hnotMem, hothers⟩ := List.nodup_cons.1 hnames
    rcases List.mem_cons.1 hmem with rfl | hlater
    · cases h with
      | @take _ s₁ _ _ _ _ hput hrest =>
        have hlast := eq_of_feeds hrest fun f hf => skips_field.2 fun heq =>
          hnotMem (List.mem_map.2 ⟨f, hf, heq⟩)
        subst hlast
        simp only [Record.field, if_true, Option.isSome_none, Bool.false_eq_true, if_false,
          Option.some.injEq] at hput
        obtain ⟨a, hvalue, rfl⟩ := exists_of_map_ok hput
        exact ⟨a, hvalue, rfl⟩
      | skip hput _ => simp [Record.field] at hput
    · have hne : f.1 ≠ own := by
        rintro rfl
        exact hnotMem (List.mem_map.2 ⟨_, hlater, rfl⟩)
      cases h with
      | @take _ s₁ _ name j' _ hput _ =>
        have hskips := skips_field.2 hne (Record.field own value missing).start room j'.draft
        cases hskips.symm.trans hput
      | skip _ hrest => exact ih hothers hlater hrest

/-- A field is read from the value under its name. -/
theorem gives_field (hnames : (fields.map (·.1)).Nodup)
    (h : match fields.lookup own with
      | some j => value.Gives room j Q
      | none => ∀ a, missing = .ok a → Q a) :
    (Record.field own value missing).Gives room fields Q := by
  intro s a hfeeds ha
  cases hlookup : fields.lookup own with
  | none =>
    rw [hlookup] at h
    have hskips : ∀ f ∈ fields, (Record.field own value missing).Skips f.1 := by
      refine fun f hf => skips_field.2 ?_
      rintro rfl
      exact absurd (List.lookup_eq_none_iff.1 hlookup f hf) (by simp)
    obtain rfl := eq_of_feeds hfeeds hskips
    exact h a ha
  | some j =>
    rw [hlookup] at h
    obtain ⟨b, hb, rfl⟩ := read_of_feeds hnames ((IdMap.lookup_eq_some_iff hnames).1 hlookup) hfeeds
    cases ha
    exact h _ hb

theorem gives_present {j : Json} (hnames : (fields.map (·.1)).Nodup)
    (hlookup : fields.lookup own = some j) (h : value.Gives room j Q) :
    (Record.field own value missing).Gives room fields Q :=
  gives_field hnames (by rw [hlookup]; exact h)

theorem gives_true (r : Record α) : r.Gives room fields fun _ => True := fun _ _ _ _ => trivial

end Field

/-! ### Objects -/

theorem feeds_of_collect {γ : Type} {r : Record α} {other : Nat → Draft → Except Fault γ}
    {s s' : r.State} {kept kept' : List (String × γ)}
    (h : r.collect other room s kept (draftFields fields) = .ok (s', kept')) :
    Feeds r room s fields s' := by
  induction fields generalizing s kept with
  | nil =>
    cases h
    exact .nil _
  | cons f fields ih =>
    simp only [draftFields, collect, Decoder.text?] at h
    obtain ⟨name, hname, h⟩ := exists_of_bind_ok h
    cases hname
    cases hput : r.put s f.1 room f.2.draft with
    | some result =>
      rw [hput] at h
      obtain ⟨s₁, rfl, h⟩ := exists_of_bind_ok h
      exact .take hput (ih h)
    | none =>
      rw [hput] at h
      obtain ⟨b, -, h⟩ := exists_of_bind_ok h
      exact .skip hput (ih h)

/-- What the fields of an object give is given by the object. -/
theorem gives_decode {r : Record α} (hnames : (fields.map (·.1)).Nodup)
    (h : (fields.map (·.1)).Nodup → r.Gives (room - 1) fields Q) :
    r.decode.Gives room (.object fields) Q := by
  intro a ha
  simp only [draft, Record.decode] at ha
  obtain ⟨room', hroom, ha⟩ := exists_of_bind_ok ha
  obtain ⟨-, rfl⟩ := le_of_enter hroom
  obtain ⟨⟨s, kept⟩, hcollect, ha⟩ := exists_of_bind_ok ha
  obtain ⟨-, -, ha⟩ := exists_of_bind_ok ha
  exact h hnames s a (feeds_of_collect hcollect) ha

theorem gives_decodeExtra {r : Record α} (hnames : (fields.map (·.1)).Nodup)
    (h : (fields.map (·.1)).Nodup → r.Gives (room - 1) fields Q) :
    r.decodeExtra.Gives room (.object fields) fun p => Q p.1 := by
  intro p hp
  simp only [draft, Record.decodeExtra] at hp
  obtain ⟨room', hroom, hp⟩ := exists_of_bind_ok hp
  obtain ⟨-, rfl⟩ := le_of_enter hroom
  obtain ⟨⟨s, extra⟩, hcollect, hp⟩ := exists_of_bind_ok hp
  obtain ⟨-, -, hp⟩ := exists_of_bind_ok hp
  obtain ⟨a, ha, hp⟩ := exists_of_bind_ok hp
  cases hp
  exact h hnames s a (feeds_of_collect hcollect) ha

end Record

end Databook.Json
