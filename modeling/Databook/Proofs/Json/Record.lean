import Databook.Proofs.Json.Decode

/-!
# Reading records back

-/

namespace Databook.Json

variable {α β : Type} {room : Nat}

/-! ### Decoders -/

namespace Decoder

/-- Does the decoder read the value as `a`? -/
def Reads (dec : Decoder α) (room : Nat) (j : Json) (a : α) : Prop := dec room j.draft = .ok a

theorem reads_string (s : String) : Reads string room (.string s) s := rfl

theorem reads_bool (b : Bool) : Reads bool room (.bool b) b := rfl

theorem reads_float {x : Float} (h : (Number.double x).ReadsBack) :
    Reads float room (.number (.double x)) x := by
  simp only [Reads, draft, float, h.value?]
  rfl

theorem reads_nat32 {n : Nat} (h : n < 2 ^ 32) : Reads nat32 room (.ofNat n) n := by
  have hnumber : (Number.integer n).ReadsBack := Number.readsBack_integer (by omega) (by omega)
  have hfits : (0 : Int) ≤ n ∧ (n : Int) < 2 ^ 32 := by omega
  simp only [Reads, Json.ofNat, draft, nat32, hnumber.value?]
  rw [if_pos hfits]
  rfl

theorem reads_variant {known : List (String × α)} {name : String} {a : α}
    (h : known.lookup name = some a) : Reads (variant known) room (.string name) a := by
  simp only [Reads, draft, variant, text?]
  rw [bind_ok rfl, h]

/-- A value other than null is read as it would be without null being allowed. -/
theorem reads_nullable {dec : Decoder α} {j : Json} {a : α} (hnull : j ≠ .null)
    (h : Reads dec room j a) : Reads (nullable dec) room j (some a) := by
  unfold Reads at h ⊢
  cases j with
  | null => exact absurd rfl hnull
  | _ =>
    simp only [draft, nullable] at h ⊢
    rw [bind_ok h]
    rfl

theorem reads_list {item : Decoder β} {toJson : α → Json} {f : α → β} {items : List α}
    (hroom : 2 ≤ room) (h : ∀ a ∈ items, Reads item (room - 1) (toJson a) (f a)) :
    Reads (list item) room (.ofList toJson items) (items.map f) := by
  have hitems : (draftItems (items.map toJson)).mapM (item (room - 1)) = .ok (items.map f) := by
    induction items with
    | nil => rfl
    | cons a items ih =>
      rw [List.map_cons, draftItems, List.mapM_cons, bind_ok (h a List.mem_cons_self),
        bind_ok (ih fun a ha => h a (List.mem_cons_of_mem _ ha))]
      rfl
  simp only [Reads, ofList, draft, list]
  rw [bind_ok (enter_of_le hroom), bind_ok hitems]
  rfl

theorem reads_list_self {item : Decoder α} {toJson : α → Json} {items : List α}
    (hroom : 2 ≤ room) (h : ∀ a ∈ items, Reads item (room - 1) (toJson a) a) :
    Reads (list item) room (.ofList toJson items) items := by
  have hmap := reads_list (f := id) hroom h
  rwa [List.map_id] at hmap

/-- The fields of a map are read one by one. -/
theorem mapM_draftFields {value : Decoder β} {toJson : α → Json} {f : α → β}
    {entries : List (String × α)}
    (h : ∀ entry ∈ entries, Reads value (room - 1) (toJson entry.2) (f entry.2)) :
    (draftFields (entries.map fun (id, a) => (id, toJson a))).mapM
        (fun (name, d) => do return (← text? name, ← value (room - 1) d))
      = .ok (entries.map fun entry => (entry.1, f entry.2)) := by
  induction entries with
  | nil => rfl
  | cons entry entries ih =>
    have hvalue := h entry List.mem_cons_self
    unfold Reads at hvalue
    have hentry : (do return (← text? (some entry.1), ← value (room - 1) (toJson entry.2).draft))
        = Except.ok (entry.1, f entry.2) := by
      simp only [text?]
      rw [bind_ok rfl, bind_ok hvalue]
      rfl
    rw [List.map_cons, draftFields, List.mapM_cons, bind_ok hentry,
      bind_ok (ih fun entry he => h entry (List.mem_cons_of_mem _ he))]
    rfl

theorem reads_map {value : Decoder β} {toJson : α → Json} {f : α → β} {m : IdMap α}
    (hroom : 2 ≤ room) (h : ∀ entry ∈ m.entries, Reads value (room - 1) (toJson entry.2) (f entry.2)) :
    Reads (map value) room (.ofMap toJson m) (m.map f) := by
  simp only [Reads, ofMap, draft, map]
  rw [bind_ok (enter_of_le hroom), bind_ok (mapM_draftFields h)]
  have hmap : IdMap.ofList (m.entries.map fun entry => (entry.1, f entry.2)) = m.map f :=
    IdMap.ofList_entries (m.map f)
  rw [hmap]
  rfl

theorem reads_map_self {value : Decoder α} {toJson : α → Json} {m : IdMap α} (hroom : 2 ≤ room)
    (h : ∀ entry ∈ m.entries, Reads value (room - 1) (toJson entry.2) entry.2) :
    Reads (map value) room (.ofMap toJson m) m := by
  have hmap := reads_map (f := id) hroom h
  rwa [IdMap.map_id] at hmap

end Decoder

/-! ### Fields -/

namespace Record

variable {name : String}

/-- Has the record no field of this name? -/
def Skips (r : Record α) (name : String) : Prop :=
  ∀ s room d, r.put s name room d = none

/-- Has the record a field of this name? -/
def Takes (r : Record α) (name : String) : Prop :=
  ∀ s room d, (r.put s name room d).isSome = true

/-- Whether a record takes a field in depends on the name of the field only. -/
def Regular (r : Record α) : Prop := ∀ name, r.Skips name ∨ r.Takes name

@[simp] theorem skips_map {f : α → β} {r : Record α} : (f <$> r).Skips name ↔ r.Skips name :=
  Iff.rfl

theorem put_seq (r : Record (α → β)) (q : Record α) (s : r.State × q.State) (name : String)
    (room : Nat) (d : Draft) :
    (r <*> q).put s name room d = match r.put s.1 name room d with
      | some result => some (result.map fun s' => (s', s.2))
      | none => (q.put s.2 name room d).map fun result => result.map fun s' => (s.1, s') := rfl

/-- Of two records the first one that has the field takes it in. -/
theorem put_seq_ok {r : Record (α → β)} {q : Record α} {s u : r.State × q.State} {room : Nat}
    {d : Draft} (h : (r <*> q).put s name room d = some (.ok u)) :
    (r.put s.1 name room d = some (.ok u.1) ∧ u.2 = s.2) ∨
      (r.put s.1 name room d = none ∧ q.put s.2 name room d = some (.ok u.2) ∧ u.1 = s.1) := by
  replace h := (put_seq r q s name room d).symm.trans h
  cases hr : r.put s.1 name room d with
  | some result =>
    rw [hr] at h
    cases result with
    | error e => cases h
    | ok s₁ =>
      cases h
      exact .inl ⟨rfl, rfl⟩
  | none =>
    rw [hr] at h
    obtain ⟨result, hq, hresult⟩ := Option.map_eq_some_iff.1 h
    cases result with
    | error e => cases hresult
    | ok t₁ =>
      cases hresult
      exact .inr ⟨rfl, hq, rfl⟩

theorem put_seq_eq_none {r : Record (α → β)} {q : Record α} {s : r.State × q.State} {room : Nat}
    {d : Draft} : (r <*> q).put s name room d = none ↔
      r.put s.1 name room d = none ∧ q.put s.2 name room d = none := by
  have hput := put_seq r q s name room d
  cases hr : r.put s.1 name room d with
  | some result =>
    rw [hr] at hput
    simp [hput]
  | none =>
    rw [hr] at hput
    simp [hput]

@[simp] theorem skips_seq {r : Record (α → β)} {q : Record α} :
    (r <*> q).Skips name ↔ r.Skips name ∧ q.Skips name := by
  constructor
  · intro h
    constructor
    · intro s room d
      exact (put_seq_eq_none.1 (h (s, q.start) room d)).1
    · intro t room d
      exact (put_seq_eq_none.1 (h (r.start, t) room d)).2
  · rintro ⟨hr, hq⟩ s room d
    exact put_seq_eq_none.2 ⟨hr s.1 room d, hq s.2 room d⟩

theorem regular_seq {r : Record (α → β)} {q : Record α} (hr : r.Regular) (hq : q.Regular) :
    (r <*> q).Regular := by
  intro name
  rcases hr name with hskips | htakes
  · rcases hq name with hskips' | htakes
    · exact .inl (skips_seq.2 ⟨hskips, hskips'⟩)
    · refine .inr fun s room d => ?_
      obtain ⟨result, hresult⟩ := Option.isSome_iff_exists.1 (htakes s.2 room d)
      have hput := put_seq r q s name room d
      rw [hskips, hresult] at hput
      rw [hput]
      rfl
  · refine .inr fun s room d => ?_
    obtain ⟨result, hresult⟩ := Option.isSome_iff_exists.1 (htakes s.1 room d)
    have hput := put_seq r q s name room d
    rw [hresult] at hput
    rw [hput]
    rfl

section Field

variable {own : String} {value : Decoder α} {missing : Except Fault α}

@[simp] theorem skips_field : (field own value missing).Skips name ↔ name ≠ own := by
  constructor
  · rintro h rfl
    have hput := h none 0 .null
    simp [field] at hput
  · intro hne s room d
    exact if_neg hne

theorem regular_field : (field own value missing).Regular := by
  intro name
  by_cases h : name = own
  · refine .inr fun s room d => ?_
    simp [field, h]
  · exact .inl (skips_field.2 h)

@[simp] theorem skips_required : (required own value).Skips name ↔ name ≠ own := skips_field

@[simp] theorem skips_optional {default : α} :
    (optional own value default).Skips name ↔ name ≠ own := skips_field

@[simp] theorem skips_nullable : (nullable own value).Skips name ↔ name ≠ own := skips_field

end Field

/-! ### Records that are read from an object -/

/-- Taking in the fields of an object, all of them values, leads from one state to another. -/
inductive Feeds (r : Record α) (room : Nat) : r.State → List (String × Json) → r.State → Prop
  | nil (s : r.State) : Feeds r room s [] s
  | take {s s' s'' : r.State} {name : String} {j : Json} {rest : List (String × Json)}
      (hput : r.put s name room j.draft = some (.ok s')) (hrest : Feeds r room s' rest s'') :
      Feeds r room s ((name, j) :: rest) s''
  | skip {s s' : r.State} {name : String} {j : Json} {rest : List (String × Json)}
      (hput : r.put s name room j.draft = none) (hrest : Feeds r room s rest s') :
      Feeds r room s ((name, j) :: rest) s'

/-- Is the record read as `a` from an object with these fields? -/
def Reads (r : Record α) (room : Nat) (fields : List (String × Json)) (a : α) : Prop :=
  ∃ s, Feeds r room r.start fields s ∧ r.finish s = .ok a

variable {fields : List (String × Json)}

theorem feeds_of_skips {r : Record α} (s : r.State) (h : ∀ f ∈ fields, r.Skips f.1) :
    Feeds r room s fields s := by
  induction fields with
  | nil => exact .nil s
  | cons f fields ih =>
    exact .skip (h f List.mem_cons_self s room _) (ih fun f hf => h f (List.mem_cons_of_mem _ hf))

theorem Feeds.map {r : Record α} {s s' : r.State} (h : Feeds r room s fields s') (f : α → β) :
    Feeds (f <$> r) room s fields s' := by
  induction h with
  | nil s => exact @Feeds.nil _ (f <$> r) room s
  | take hput _ ih => exact .take hput ih
  | skip hput _ ih => exact .skip hput ih

/-- Two records without a common field do not get into each other's way. -/
theorem Feeds.seq {r : Record (α → β)} {q : Record α} {s s' : r.State} {t t' : q.State}
    (hr : Feeds r room s fields s') (hq : Feeds q room t fields t')
    (hapart : ∀ name, r.Skips name ∨ q.Skips name) :
    Feeds (r <*> q) room (s, t) fields (s', t') := by
  induction hr generalizing t with
  | nil s =>
    cases hq
    exact .nil _
  | @take s s₁ s' name j rest hput _ ih =>
    have hskips : q.Skips name := by
      rcases hapart name with hskips | hskips
      · rw [hskips s room j.draft] at hput
        cases hput
      · exact hskips
    have hboth : (r <*> q).put (s, t) name room j.draft = some (.ok (s₁, t)) := by
      rw [put_seq, hput]
      rfl
    cases hq with
    | take hput' _ =>
      rw [hskips t room j.draft] at hput'
      cases hput'
    | skip _ hrest => exact .take hboth (ih hrest)
  | @skip s s' name j rest hput _ ih =>
    cases hq with
    | @take _ t₁ _ _ _ _ hput' hrest =>
      have hboth : (r <*> q).put (s, t) name room j.draft = some (.ok (s, t₁)) := by
        rw [put_seq, hput, hput']
        rfl
      exact .take hboth (ih hrest)
    | skip hput' hrest =>
      have hboth : (r <*> q).put (s, t) name room j.draft = none := by
        rw [put_seq, hput, hput']
        rfl
      exact .skip hboth (ih hrest)

theorem Reads.map {r : Record α} {a : α} (h : r.Reads room fields a) (f : α → β) :
    (f <$> r).Reads room fields (f a) := by
  obtain ⟨s, hfeeds, hfinish⟩ := h
  refine ⟨s, hfeeds.map f, ?_⟩
  have hmap : (f <$> r).finish s = (r.finish s).map f := rfl
  rw [hmap, hfinish]
  rfl

theorem Reads.seq {r : Record (α → β)} {q : Record α} {f : α → β} {a : α}
    (hr : r.Reads room fields f) (hq : q.Reads room fields a)
    (hapart : ∀ name, r.Skips name ∨ q.Skips name) : (r <*> q).Reads room fields (f a) := by
  obtain ⟨s, hfeeds, hfinish⟩ := hr
  obtain ⟨t, hfeeds', hfinish'⟩ := hq
  refine ⟨(s, t), hfeeds.seq hfeeds' hapart, ?_⟩
  have hseq : (r <*> q).finish (s, t) = do return (← r.finish s) (← q.finish t) := rfl
  rw [hseq, hfinish, hfinish']
  rfl

section Field

variable {own : String} {value : Decoder α} {missing : Except Fault α}

/-- A field of a record after other fields. -/
theorem Reads.field {r : Record (α → β)} {f : α → β} {a : α} (hr : r.Reads room fields f)
    (hq : (field own value missing).Reads room fields a) (hskips : r.Skips own) :
    (r <*> Record.field own value missing).Reads room fields (f a) := by
  refine hr.seq hq fun name => ?_
  by_cases h : name = own
  · exact .inl (h ▸ hskips)
  · exact .inr (skips_field.2 h)

theorem feeds_present {a : α} {j : Json} (hnames : (fields.map (·.1)).Nodup)
    (hmem : (own, j) ∈ fields) (h : value.Reads room j a) :
    Feeds (field own value missing) room none fields (some a) := by
  induction fields with
  | nil => cases hmem
  | cons f fields ih =>
    obtain ⟨name, j'⟩ := f
    obtain ⟨hnotMem, hnames⟩ := List.nodup_cons.1 hnames
    rcases List.mem_cons.1 hmem with heq | hmem
    · cases heq
      have hput : (field own value missing).put none own room j.draft = some (.ok (some a)) := by
        unfold Decoder.Reads at h
        simp [field, h]
        rfl
      refine .take hput (feeds_of_skips _ fun f hf => skips_field.2 ?_)
      rintro rfl
      exact hnotMem (List.mem_map.2 ⟨f, hf, rfl⟩)
    · have hne : name ≠ own := by
        rintro rfl
        exact hnotMem (List.mem_map.2 ⟨_, hmem, rfl⟩)
      exact .skip (skips_field.2 hne none room j'.draft) (ih hnames hmem)

/-- A field is read from the value under its name. -/
theorem reads_field {a : α} (hnames : (fields.map (·.1)).Nodup)
    (h : match fields.lookup own with
      | some j => value.Reads room j a
      | none => missing = .ok a) :
    (field own value missing).Reads room fields a := by
  cases hlookup : fields.lookup own with
  | none =>
    rw [hlookup] at h
    refine ⟨none, feeds_of_skips _ fun f hf => skips_field.2 ?_, h⟩
    rintro rfl
    exact absurd (List.lookup_eq_none_iff.1 hlookup f hf) (by simp)
  | some j =>
    rw [hlookup] at h
    exact ⟨some a, feeds_present hnames ((IdMap.lookup_eq_some_iff hnames).1 hlookup) h, rfl⟩

theorem reads_present {a : α} {j : Json} (hnames : (fields.map (·.1)).Nodup)
    (hlookup : fields.lookup own = some j) (h : value.Reads room j a) :
    (field own value missing).Reads room fields a :=
  reads_field hnames (by rw [hlookup]; exact h)

theorem reads_nullable {toJson : α → Json} {o : Option α} (hnames : (fields.map (·.1)).Nodup)
    (hlookup : fields.lookup own = o.map toJson)
    (h : ∀ a ∈ o, toJson a ≠ .null ∧ value.Reads room (toJson a) a) :
    (nullable own value).Reads room fields o := by
  cases o with
  | none => exact reads_field hnames (by rw [hlookup]; rfl)
  | some a =>
    obtain ⟨hnull, hread⟩ := h a rfl
    exact reads_present hnames hlookup (Decoder.reads_nullable hnull hread)

theorem reads_text? {o : Option String} (hnames : (fields.map (·.1)).Nodup)
    (hlookup : fields.lookup own = o.map .string) :
    (nullable own Decoder.string).Reads room fields o :=
  reads_nullable hnames hlookup fun s _ => ⟨Json.noConfusion, Decoder.reads_string s⟩

/-- A list that is left out when it is empty. -/
theorem reads_listField {value : Decoder (List α)} {toJson : β → Json} {items : List β}
    {as : List α} (hnames : (fields.map (·.1)).Nodup)
    (hlookup : fields.lookup own = if items = [] then none else some (.ofList toJson items))
    (h : value.Reads room (.ofList toJson items) as) (hnil : items = [] → as = []) :
    (optional own value []).Reads room fields as := by
  by_cases hempty : items = []
  · rw [if_pos hempty] at hlookup
    exact reads_field hnames (by rw [hlookup, hnil hempty])
  · rw [if_neg hempty] at hlookup
    exact reads_present hnames hlookup h

end Field

/-! ### Looking up fields -/

theorem lookup_field? {own : String} {toJson : β → Json} {o : Option β} :
    (Json.field? own toJson o).lookup name = if name = own then o.map toJson else none := by
  cases o with
  | none => simp [Json.field?]
  | some b => simp [Json.field?, IdMap.lookup_entry]

theorem lookup_listField? {own : String} {toJson : β → Json} {items : List β} :
    (Json.listField? own toJson items).lookup name
      = if name = own ∧ items ≠ [] then some (.ofList toJson items) else none := by
  cases items with
  | nil => simp [Json.listField?]
  | cons b items => simp [Json.listField?, IdMap.lookup_entry]

theorem names_field? (own : String) (toJson : β → Json) (o : Option β) :
    ((Json.field? own toJson o).map (·.1)).Sublist [own] := by
  cases o with
  | none => exact List.nil_sublist _
  | some b => exact List.Sublist.refl _

theorem names_listField? (own : String) (toJson : β → Json) (items : List β) :
    ((Json.listField? own toJson items).map (·.1)).Sublist [own] := by
  unfold Json.listField?
  split
  · exact List.nil_sublist _
  · exact List.Sublist.refl _

/-! ### Objects -/

theorem exists_collect_of_feeds {r : Record α} {s s' : r.State} (h : Feeds r room s fields s')
    (kept : List (String × Unit)) :
    ∃ kept', r.collect (fun _ d => Decoder.ignore d) room s kept (draftFields fields)
      = .ok (s', kept') := by
  induction h generalizing kept with
  | nil s => exact ⟨_, rfl⟩
  | @take s s₁ s' name j rest hput _ ih =>
    obtain ⟨kept', hrest⟩ := ih kept
    refine ⟨kept', ?_⟩
    simp only [draftFields, collect, Decoder.text?]
    rw [bind_ok rfl, hput]
    exact hrest
  | @skip s s' name j rest hput _ ih =>
    obtain ⟨kept', hrest⟩ := ih ((name, ()) :: kept)
    refine ⟨kept', ?_⟩
    simp only [draftFields, collect, Decoder.text?]
    rw [bind_ok rfl, hput]
    simp only
    rw [bind_ok (ignore_draft j)]
    exact hrest

/-- A record that is read from the fields of an object is decoded from the object. -/
theorem reads_decode {r : Record α} {a : α} (hroom : 2 ≤ room) (hnames : (fields.map (·.1)).Nodup)
    (h : (fields.map (·.1)).Nodup → r.Reads (room - 1) fields a) :
    r.decode.Reads room (.object fields) a := by
  obtain ⟨s, hfeeds, hfinish⟩ := h hnames
  obtain ⟨kept, hcollect⟩ := exists_collect_of_feeds hfeeds []
  simp only [Decoder.Reads, draft, Record.decode]
  rw [bind_ok (enter_of_le hroom), bind_ok hcollect]
  exact hfinish

/-- The names of the fields of a record. -/
structure HasNames (r : Record α) (names : List String) : Prop where
  regular : r.Regular
  skips : ∀ name, r.Skips name ↔ name ∉ names

theorem hasNames_field {own : String} {value : Decoder α} {missing : Except Fault α} :
    (Record.field own value missing).HasNames [own] where
  regular := regular_field
  skips name := by rw [skips_field, List.mem_singleton]

theorem HasNames.map {r : Record α} {names : List String} (h : r.HasNames names) (f : α → β) :
    (f <$> r).HasNames names := ⟨h.regular, h.skips⟩

theorem HasNames.field {r : Record (α → β)} {names : List String} (h : r.HasNames names)
    (own : String) (value : Decoder α) (missing : Except Fault α) :
    (r <*> Record.field own value missing).HasNames (names ++ [own]) where
  regular := regular_seq h.regular regular_field
  skips name := by
    rw [skips_seq, h.skips, skips_field, List.mem_append, List.mem_singleton, not_or]

/-- Going through the fields of an object; those that the record skips are kept. -/
theorem collect_of_feeds {r : Record α} {names : List String} (hr : r.HasNames names)
    {other : Nat → Draft → Except Fault β} {g : Json → β} {s s' : r.State}
    (h : Feeds r room s fields s')
    (hother : ∀ f ∈ fields, f.1 ∉ names → other room f.2.draft = .ok (g f.2))
    (kept : List (String × β)) :
    r.collect other room s kept (draftFields fields)
      = .ok (s', kept.reverse ++
          (fields.filter fun f => decide (f.1 ∉ names)).map fun f => (f.1, g f.2)) := by
  induction h generalizing kept with
  | nil s => simp [draftFields, collect]
  | @take s s₁ s' name j rest hput _ ih =>
    have hmem : name ∈ names := by
      by_contra hout
      rw [(hr.skips name).2 hout s room j.draft] at hput
      cases hput
    simp only [draftFields, collect, Decoder.text?]
    rw [bind_ok rfl, hput]
    simp only
    rw [bind_ok rfl, ih fun f hf => hother f (List.mem_cons_of_mem _ hf)]
    simp [hmem]
  | @skip s s' name j rest hput _ ih =>
    have hskips : r.Skips name := by
      refine (hr.regular name).resolve_right fun htakes => ?_
      have hsome := htakes s room j.draft
      rw [hput] at hsome
      cases hsome
    have hout := (hr.skips name).1 hskips
    simp only [draftFields, collect, Decoder.text?]
    rw [bind_ok rfl, hput]
    simp only
    rw [bind_ok (hother (name, j) List.mem_cons_self hout),
      ih fun f hf => hother f (List.mem_cons_of_mem _ hf)]
    simp [hout]

/-- Are these further settings, with names that the record does not have? -/
def Extra (names : List String) (room : Nat) (extra : IdMap Json) : Prop :=
  ∀ entry ∈ extra.entries, entry.1 ∉ names ∧ Settled room entry.2

/-- A known name is not looked up among the further settings. -/
theorem Extra.lookup_append {names : List String} {extra : IdMap Json} (h : Extra names room extra)
    (hname : name ∈ names) (known : List (String × Json)) :
    (known ++ extra.entries).lookup name = known.lookup name := by
  have hnone : extra.entries.lookup name = none := by
    refine List.lookup_eq_none_iff.2 fun entry hentry => ?_
    have hne : name ≠ entry.1 := fun heq => (h entry hentry).1 (heq ▸ hname)
    simpa using hne
  rw [List.lookup_append, hnone, Option.or_none]

/-- No name stands twice in known settings and further ones. -/
theorem Extra.nodup {names : List String} {known : List (String × Json)} {extra : IdMap Json}
    (h : Extra names room extra) (hnames : names.Nodup) (hknown : (known.map (·.1)).Sublist names) :
    ((known ++ extra.entries).map (·.1)).Nodup := by
  rw [List.map_append, List.nodup_append]
  refine ⟨hnames.sublist hknown, extra.nodup_keys, fun a ha b hb heq => ?_⟩
  obtain ⟨entry, hentry, rfl⟩ := List.mem_map.1 hb
  exact (h entry hentry).1 (hknown.subset (heq ▸ ha))

/-- A record with further settings is decoded from the known fields, in the order of the record,
and the further ones. -/
theorem reads_decodeExtra {r : Record α} {names : List String} {a : α}
    {known : List (String × Json)} {extra : IdMap Json} (hroom : 2 ≤ room) (hr : r.HasNames names)
    (hnames : names.Nodup) (hknown : (known.map (·.1)).Sublist names)
    (hextra : Extra names (room - 1) extra)
    (hnumbers : ReadBack (Json.object extra.entries).numbers)
    (h : ((known ++ extra.entries).map (·.1)).Nodup →
      r.Reads (room - 1) (known ++ extra.entries) a) :
    r.decodeExtra.Reads room (.object (known ++ extra.entries)) (a, extra) := by
  obtain ⟨s, hfeeds, hfinish⟩ := h (hextra.nodup hnames hknown)
  have hother : ∀ f ∈ known ++ extra.entries, f.1 ∉ names →
      Decoder.any (room - 1) f.2.draft = .ok (id f.2) := by
    intro f hf hout
    rcases List.mem_append.1 hf with hf | hf
    · exact absurd (hknown.subset (List.mem_map_of_mem hf)) hout
    · exact any_draft f.2 (hextra f hf).2 fun n hn => hnumbers n (mem_numbers_object.2 ⟨f, hf, hn⟩)
  have hfilter : (known ++ extra.entries).filter (fun f => decide (f.1 ∉ names))
      = extra.entries := by
    have hnone : known.filter (fun f => decide (f.1 ∉ names)) = [] := by
      rw [List.filter_eq_nil_iff]
      intro f hf
      simpa using hknown.subset (List.mem_map_of_mem hf)
    have hall : extra.entries.filter (fun f => decide (f.1 ∉ names)) = extra.entries := by
      rw [List.filter_eq_self]
      intro f hf
      simp [(hextra f hf).1]
    rw [List.filter_append, hnone, hall, List.nil_append]
  have hcollect := collect_of_feeds hr hfeeds hother []
  rw [hfilter, List.reverse_nil, List.nil_append] at hcollect
  simp only [Decoder.Reads, draft, Record.decodeExtra]
  rw [bind_ok (enter_of_le hroom), bind_ok hcollect]
  have hentries : (extra.entries.map fun f => (f.1, id f.2)) = extra.entries := by simp
  rw [hentries, IdMap.ofList_entries]
  simp only [bind_ok rfl, hfinish]
  rfl

end Record

end Databook.Json
