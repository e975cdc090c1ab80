import Databook.Proofs.Json.Record
import Databook.Proofs.Json.Scale

/-!
# What decoding ensures

Whatever text is read, some things hold of all results: a number of 32 bits is below `2 ^ 32`, a map
of further settings has no name that its record knows. `Decoder.Ensures` and `Record.Ensures` say so
of a decoder and of a record, and are put together as decoders and records are.
-/

namespace Databook.Json

variable {α β : Type} {room : Nat}

namespace Decoder

/-- Does `P` hold of all that the decoder reads? -/
def Ensures (dec : Decoder α) (room : Nat) (P : α → Prop) : Prop :=
  ∀ d a, dec room d = .ok a → P a

variable {P Q : α → Prop}

theorem ensures_true (dec : Decoder α) : dec.Ensures room fun _ => True := fun _ _ _ => trivial

/-- A decoder whose result is turned into another value. -/
theorem ensures_comp {dec : Decoder α} {f : α → β} {P : β → Prop}
    (h : dec.Ensures room fun a => P (f a)) :
    Ensures (fun room d => (dec room d).map f) room P := by
  intro d b hb
  obtain ⟨a, ha, rfl⟩ := exists_of_map_ok hb
  exact h d a ha

theorem ensures_nat32 : Ensures nat32 room (· < 2 ^ 32) := by
  intro d n h
  unfold nat32 at h
  split at h
  · split at h
    · split at h
      · cases h
        omega
      · cases h
    · cases h
    · cases h
  · cases h

theorem ensures_float : Ensures float room fun x => x.isFinite = true := by
  intro d x h
  unfold float at h
  split at h
  · split at h
    · next n hn =>
      cases h
      exact isFinite_of_value? hn
    · cases h
  · cases h

theorem ensures_nullable {dec : Decoder α} (h : dec.Ensures room P) :
    (nullable dec).Ensures room fun o => ∀ a ∈ o, P a := by
  intro d o ho a ha
  unfold nullable at ho
  split at ho
  · cases ho
    cases ha
  · obtain ⟨b, hb, ho⟩ := exists_of_bind_ok ho
    cases ho
    cases ha
    exact h _ _ hb

theorem forall_of_mapM {γ : Type} {f : γ → Except Fault α} {ds : List γ} {as : List α}
    (hf : ∀ d a, f d = .ok a → P a) (h : ds.mapM f = .ok as) : ∀ a ∈ as, P a := by
  induction ds generalizing as with
  | nil =>
    cases h
    simp
  | cons d ds ih =>
    rw [List.mapM_cons] at h
    obtain ⟨a, ha, h⟩ := exists_of_bind_ok h
    obtain ⟨as, has, h⟩ := exists_of_bind_ok h
    cases h
    exact List.forall_mem_cons.2 ⟨hf d a ha, ih has⟩

theorem ensures_list {item : Decoder α} (h : item.Ensures (room - 1) P) :
    (list item).Ensures room fun as => ∀ a ∈ as, P a := by
  intro d as has
  unfold list at has
  split at has
  · obtain ⟨room', hroom, has⟩ := exists_of_bind_ok has
    obtain ⟨-, rfl⟩ := le_of_enter hroom
    obtain ⟨as, hmapM, has⟩ := exists_of_bind_ok has
    obtain ⟨-, -, has⟩ := exists_of_bind_ok has
    cases has
    exact forall_of_mapM h hmapM
  · cases has

theorem ensures_map {value : Decoder α} (h : value.Ensures (room - 1) P) :
    (map value).Ensures room fun m => ∀ entry ∈ m.entries, P entry.2 := by
  intro d m hm
  unfold map at hm
  split at hm
  · obtain ⟨room', hroom, hm⟩ := exists_of_bind_ok hm
    obtain ⟨-, rfl⟩ := le_of_enter hroom
    obtain ⟨entries, hmapM, hm⟩ := exists_of_bind_ok hm
    obtain ⟨-, -, hm⟩ := exists_of_bind_ok hm
    cases hm
    intro entry hentry
    refine forall_of_mapM (P := fun entry => P entry.2) ?_ hmapM entry
      (IdMap.mem_of_mem_entries_ofList hentry)
    rintro ⟨name, d⟩ entry hentry
    obtain ⟨name', -, hentry⟩ := exists_of_bind_ok hentry
    obtain ⟨a, ha, hentry⟩ := exists_of_bind_ok hentry
    cases hentry
    exact h _ _ ha
  · cases hm

/-- What a decoder ensures holds of all that is read from texts. -/
theorem Ensures.of_decode {dec : Decoder α} (h : dec.Ensures fullRoom P) {s : String} {a : α}
    (hs : decode dec s = .ok a) : P a := by
  unfold decode at hs
  obtain ⟨b, hb, hs⟩ := exists_of_bind_ok hs
  obtain ⟨-, -, hs⟩ := exists_of_bind_ok hs
  cases hs
  exact h _ _ hb

end Decoder

namespace Record

/-- Does `P` hold of all that the record is read as? From an object this is shown by what holds of
the fields known so far. -/
structure Ensures (r : Record α) (room : Nat) (P : α → Prop) : Prop where
  object : ∃ I : r.State → Prop, I r.start ∧
    (∀ s name d s', I s → r.put s name room d = some (.ok s') → I s') ∧
    ∀ s a, I s → r.finish s = .ok a → P a
  positional : ∀ closed items a rest, r.positional room closed items = .ok (a, rest) → P a

variable {P : β → Prop} {Q : α → Prop}

theorem Ensures.map {r : Record α} {f : α → β} (h : r.Ensures room Q) (hf : ∀ a, Q a → P (f a)) :
    (f <$> r).Ensures room P where
  object := by
    obtain ⟨I, hstart, hput, hfinish⟩ := h.object
    refine ⟨I, hstart, hput, fun s b hs hb => ?_⟩
    obtain ⟨a, ha, rfl⟩ := exists_of_map_ok hb
    exact hf a (hfinish s a hs ha)
  positional closed items b rest hb := by
    obtain ⟨p, hp, heq⟩ := exists_of_map_ok hb
    cases heq
    exact hf p.1 (h.positional closed items p.1 p.2 hp)

theorem Ensures.seq {r : Record (α → β)} {q : Record α}
    (hr : r.Ensures room fun f => ∀ a, Q a → P (f a)) (hq : q.Ensures room Q) :
    (r <*> q).Ensures room P where
  object := by
    obtain ⟨I, hstart, hput, hfinish⟩ := hr.object
    obtain ⟨J, hstart', hput', hfinish'⟩ := hq.object
    refine ⟨fun s => I s.1 ∧ J s.2, ⟨hstart, hstart'⟩, ?_, ?_⟩
    · rintro u name d u' ⟨hs, ht⟩ hu'
      rcases put_seq_ok hu' with ⟨hr', hsame⟩ | ⟨-, hq', hsame⟩
      · rw [hsame]
        exact ⟨hput u.1 name d u'.1 hs hr', ht⟩
      · rw [hsame]
        exact ⟨hs, hput' u.2 name d u'.2 ht hq'⟩
    · rintro ⟨s, t⟩ b ⟨hs, ht⟩ hb
      obtain ⟨f, hf, hb⟩ := exists_of_bind_ok hb
      obtain ⟨a, ha, hb⟩ := exists_of_bind_ok hb
      cases hb
      exact hfinish s f hs hf a (hfinish' t a ht ha)
  positional closed items b rest hb := by
    obtain ⟨⟨f, items'⟩, hf, hb⟩ := exists_of_bind_ok hb
    obtain ⟨⟨a, rest'⟩, ha, hb⟩ := exists_of_bind_ok hb
    cases hb
    exact hr.positional closed items f items' hf a (hq.positional closed items' a rest ha)

theorem ensures_field {own : String} {value : Decoder α} {missing : Except Fault α}
    (h : value.Ensures room Q) (hmissing : ∀ a, missing = .ok a → Q a) :
    (field own value missing).Ensures room Q where
  object := by
    refine ⟨fun s => ∀ a, s = some a → Q a, ?_, ?_, ?_⟩
    · intro a ha
      cases ha
    · intro s name d s' hs hs' a ha
      simp only [field] at hs'
      split at hs'
      · split at hs'
        · cases hs'
        · obtain ⟨b, hb, rfl⟩ := exists_of_map_ok (Option.some.inj hs')
          cases ha
          exact h d _ hb
      · cases hs'
    · intro s a hs ha
      cases s with
      | none => exact hmissing a ha
      | some b =>
        cases ha
        exact hs _ rfl
  positional closed items a rest ha := by
    cases items with
    | nil =>
      simp only [field] at ha
      split at ha
      · cases ha
      · cases ha
        exact hmissing a rfl
      · cases ha
    | cons d items =>
      obtain ⟨b, hb, heq⟩ := exists_of_map_ok ha
      cases heq
      exact h d _ hb

theorem ensures_required {own : String} {value : Decoder α} (h : value.Ensures room Q) :
    (required own value).Ensures room Q := ensures_field h fun _ ha => by cases ha

theorem ensures_optional {own : String} {value : Decoder α} {default : α}
    (h : value.Ensures room Q) (hdefault : Q default) : (optional own value default).Ensures room Q :=
  ensures_field h fun a ha => by
    cases ha
    exact hdefault

theorem ensures_nullable {own : String} {value : Decoder α} (h : value.Ensures room Q) :
    (nullable own value).Ensures room fun o => ∀ a ∈ o, Q a :=
  ensures_field (Decoder.ensures_nullable h) fun o ho a ha => by
    cases ho
    cases ha

/-- Going through the fields of an object keeps what every field keeps, and gathers what is made of
the other ones. -/
theorem collect_induction {r : Record α} {other : Nat → Draft → Except Fault β} {I : r.State → Prop}
    {K : String × β → Prop} (hput : ∀ s name d s', I s → r.put s name room d = some (.ok s') → I s')
    (hother : ∀ s name d b, r.put s name room d = none → other room d = .ok b → K (name, b))
    {s s' : r.State} {kept kept' : List (String × β)} {ds : List (Option String × Draft)}
    (h : r.collect other room s kept ds = .ok (s', kept')) (hs : I s)
    (hkept : ∀ e ∈ kept, K e) : I s' ∧ ∀ e ∈ kept', K e := by
  induction ds generalizing s kept with
  | nil =>
    cases h
    exact ⟨hs, fun e he => hkept e (List.mem_reverse.1 he)⟩
  | cons field ds ih =>
    obtain ⟨name?, d⟩ := field
    simp only [collect] at h
    obtain ⟨name, -, h⟩ := exists_of_bind_ok h
    cases hd : r.put s name room d with
    | some result =>
      rw [hd] at h
      obtain ⟨s₁, rfl, h⟩ := exists_of_bind_ok h
      exact ih h (hput s name d s₁ hs hd) hkept
    | none =>
      rw [hd] at h
      obtain ⟨b, hb, h⟩ := exists_of_bind_ok h
      exact ih h hs (List.forall_mem_cons.2 ⟨hother s name d b hd hb, hkept⟩)

theorem Ensures.decode {r : Record α} (h : r.Ensures (room - 1) Q) : r.decode.Ensures room Q := by
  intro d a ha
  unfold Record.decode at ha
  split at ha
  · obtain ⟨room', hroom, ha⟩ := exists_of_bind_ok ha
    obtain ⟨-, rfl⟩ := le_of_enter hroom
    obtain ⟨⟨s, kept⟩, hcollect, ha⟩ := exists_of_bind_ok ha
    obtain ⟨-, -, ha⟩ := exists_of_bind_ok ha
    obtain ⟨I, hstart, hput, hfinish⟩ := h.object
    have hs := collect_induction (K := fun _ => True) hput (fun _ _ _ _ _ _ => trivial) hcollect hstart
      (by simp)
    exact hfinish s a hs.1 ha
  · obtain ⟨room', hroom, ha⟩ := exists_of_bind_ok ha
    obtain ⟨-, rfl⟩ := le_of_enter hroom
    obtain ⟨⟨b, rest⟩, hpositional, ha⟩ := exists_of_bind_ok ha
    obtain ⟨-, -, ha⟩ := exists_of_bind_ok ha
    cases ha
    exact h.positional _ _ _ rest hpositional
  · cases ha

theorem Ensures.decodeExtra {r : Record α} {names : List String} (h : r.Ensures (room - 1) Q)
    (hr : r.HasNames names) :
    r.decodeExtra.Ensures room fun p => Q p.1 ∧ Extra names (room - 1) p.2 := by
  intro d p hp
  unfold Record.decodeExtra at hp
  split at hp
  · obtain ⟨room', hroom, hp⟩ := exists_of_bind_ok hp
    obtain ⟨-, rfl⟩ := le_of_enter hroom
    obtain ⟨⟨s, kept⟩, hcollect, hp⟩ := exists_of_bind_ok hp
    obtain ⟨-, -, hp⟩ := exists_of_bind_ok hp
    obtain ⟨a, ha, hp⟩ := exists_of_bind_ok hp
    cases hp
    obtain ⟨I, hstart, hput, hfinish⟩ := h.object
    have hkept := collect_induction (K := fun e => e.1 ∉ names ∧ Settled (room - 1) e.2) hput
      (fun s name d j hnone hj => ⟨fun hmem => ?_, settled_of_any d hj⟩) hcollect hstart (by simp)
    · exact ⟨hfinish s a hkept.1 ha, fun e he => hkept.2 e (IdMap.mem_of_mem_entries_ofList he)⟩
    · have htakes := (hr.regular name).resolve_left fun hskips => (hr.skips name).1 hskips hmem
      have hsome := htakes s (room - 1) d
      rw [hnone] at hsome
      cases hsome
  · cases hp

end Record

end Databook.Json
