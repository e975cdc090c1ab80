import Databook.Proofs.Columns.BackLink
import Mathlib.Data.List.Forall2

/-!
# Calls that edit back relations

Calls of `Document.setBackLinks` that follow each other make the last wanted list of each row hold,
whatever the calls in between were for (`Document.runLinkCalls_ok`). The induction is on the calls;
it carries along that the rows of the stored document name what was wanted last
(`Row.Settled`).
-/

namespace Databook

open Calendar

/-- A call that links a row to the wanted ones. -/
structure LinkCall where
  row : String
  wanted : List String
  now : Instant

/-- What was wanted for a row by the last call for it. -/
def lastWanted? (calls : List LinkCall) (row : String) : Option (List String) :=
  (calls.reverse.find? (·.row == row)).map (·.wanted)

theorem lastWanted?_append (calls : List LinkCall) (call : LinkCall) (row : String) :
    lastWanted? (calls ++ [call]) row
      = if row = call.row then some call.wanted else lastWanted? calls row := by
  rw [lastWanted?, List.reverse_append, List.reverse_singleton, List.singleton_append,
    List.find?_cons]
  by_cases h : row = call.row
  · have hrow : (call.row == row) = true := by simp [h]
    rw [hrow, if_pos h]
    rfl
  · have hrow : (call.row == row) = false := by simpa using Ne.symm h
    rw [hrow, if_neg h]
    rfl

namespace Document

/-- The links of a row after some calls: the rows that were wanted last, in the order of the
document, or the links that it has had if no call was for the row. -/
def linksAfter (d : Document) (property : String) (calls : List LinkCall) (row : String) :
    List String :=
  match lastWanted? calls row with
  | some wanted => (d.rows.map (·.id)).filter wanted.contains
  | none => d.linksTo property row

/-- What a call changes after some other calls. -/
def linkChange (d : Document) (property : String) (calls : List LinkCall) (call : LinkCall) :
    LinkChange :=
  let before := d.linksAfter property calls call.row
  let after := d.linksAfter property (calls ++ [call]) call.row
  ⟨after.filter (!before.contains ·), before.filter (!after.contains ·)⟩

/-- What each of several calls changes after some other calls. -/
def linkChanges (d : Document) (property : String) (earlier : List LinkCall) :
    List LinkCall → List LinkChange
  | [] => []
  | call :: calls =>
    d.linkChange property earlier call :: d.linkChanges property (earlier ++ [call]) calls

/-- Make several calls in turn. -/
def runLinkCalls [PageStore σ] (d : Document) (property : String) :
    List LinkCall → σ → DocumentCache → Except Error (List LinkChange × σ × DocumentCache)
  | [], store, cache => .ok ([], store, cache)
  | call :: calls, store, cache => do
    let (change, store, cache) ←
      d.setBackLinks property call.row call.wanted call.now store cache
    let (changes, store, cache) ← d.runLinkCalls property calls store cache
    return (change :: changes, store, cache)

end Document

/-- The rows that a change is about. -/
def LinkChange.rows (c : LinkChange) : List String := c.added ++ c.removed

/-! ### Rows -/

namespace Row

/-- Does the row name another one after some calls? -/
def namesAfter (r : Row) (property : String) (calls : List LinkCall) (row : String) : Bool :=
  match lastWanted? calls row with
  | some wanted => wanted.contains r.id
  | none => r.names property row

/-- What a call does to a row. -/
structure Called (property : String) (call : LinkCall) (changed : List String) (r r' : Row) :
    Prop where
  moved : Moved property [call.row] changed r r'
  names : ∀ row, r'.names property row
    = if row = call.row then call.wanted.contains r.id else r.names property row

/-- What several calls have done to a row. -/
structure Settled (property : String) (calls : List LinkCall) (changed : List String) (r r' : Row) :
    Prop where
  moved : Moved property (calls.map (·.row)) changed r r'
  names : ∀ row, r'.names property row = r.namesAfter property calls row

variable {property : String} {calls : List LinkCall} {call : LinkCall}
  {changed changed' : List String} {r r' r'' : Row}

theorem Called.stored (h : Called property call changed r r') :
    Called property call changed r r'.stored :=
  ⟨h.moved.stored, fun row => (r'.names_stored property row).trans (h.names row)⟩

theorem Settled.refl (r : Row) : Settled property [] [] r r := ⟨.refl r, fun _ => rfl⟩

theorem Settled.called (h : Settled property calls changed r r')
    (h' : Called property call changed' r' r'') :
    Settled property (calls ++ [call]) (changed ++ changed') r r'' where
  moved := by
    rw [List.map_append]
    exact h.moved.trans h'.moved
  names row := by
    rw [h'.names, namesAfter, lastWanted?_append, h.moved.id]
    split
    · rfl
    · exact h.names row

end Row

/-! ### Documents -/

namespace Document

variable {d target : Document} {property : String}

/-- A row that is not changed names the other one if and only if that is wanted. -/
theorem names_of_not_changed {d : Document} {property row : String} {wanted : List String}
    {now : Instant} {r : Row} (hr : r ∈ d.rows)
    (hid : r.id ∉ (d.relink property row wanted now).2.rows) :
    r.names property row = wanted.contains r.id := by
  cases hnames : r.names property row <;> cases hwanted : wanted.contains r.id
  · rfl
  · refine absurd (List.mem_append_left _ (List.mem_map_of_mem (List.mem_filter.2 ⟨hr, ?_⟩))) hid
    rw [hnames, hwanted]
    rfl
  · refine absurd (List.mem_append_right _ (List.mem_map_of_mem (List.mem_filter.2 ⟨hr, ?_⟩))) hid
    rw [hnames, hwanted]
    rfl
  · rfl

/-- Relinking does to each row what the call asks for. -/
theorem moved_relink (d : Document) (property : String) (call : LinkCall) :
    d.Moved (Row.Called property call (d.relink property call.row call.wanted call.now).2.rows)
      (d.relink property call.row call.wanted call.now).1 where
  properties := .inl rfl
  rows := by
    refine ⟨(·.relink property call.row call.wanted call.now), rfl, fun r hr => ⟨?_, ?_⟩⟩
    · exact Row.moved_relink (names_of_not_changed hr) call.now
    · exact r.names_relink property call.row call.wanted call.now
  views := .inl rfl

/-- The links after some calls are the rows that then name the row. -/
theorem linksAfter_eq (hrows : (d.rows.map (·.id)).Nodup) (property : String)
    (calls : List LinkCall) (row : String) : d.linksAfter property calls row
      = (d.rows.filter (·.namesAfter property calls row)).map (·.id) := by
  unfold linksAfter Row.namesAfter
  split
  · next wanted _ => rw [List.filter_map, Function.comp_def]
  · exact linksTo_of_nodup hrows property row

theorem contains_linksAfter (hrows : (d.rows.map (·.id)).Nodup) (calls : List LinkCall)
    (row : String) {r : Row} (hr : r ∈ d.rows) :
    (d.linksAfter property calls row).contains r.id = r.namesAfter property calls row := by
  rw [linksAfter_eq hrows, Bool.eq_iff_iff, List.contains_iff_mem, List.mem_map]
  constructor
  · rintro ⟨r', hr', hid⟩
    obtain ⟨hr', hnames⟩ := List.mem_filter.1 hr'
    obtain rfl := List.inj_on_of_nodup_map hrows hr' hr hid
    exact hnames
  · intro hnames
    exact ⟨r, List.mem_filter.2 ⟨hr, hnames⟩, rfl⟩

section Settled

variable {calls : List LinkCall} {changed : List String}
  (h : target.Moved (Row.Settled property calls changed) d)

include h

/-- The rows that pass a test, in terms of the rows from before the calls. -/
theorem map_filter_of_settled (test test' : Row → Bool)
    (htest : ∀ r ∈ target.rows, ∀ r', Row.Settled property calls changed r r' →
      test' r' = test r) :
    (d.rows.filter test').map (·.id) = (target.rows.filter test).map (·.id) := by
  obtain ⟨f, hf, hrows⟩ := h.rows
  have hfilter : target.rows.filter (test' ∘ f) = target.rows.filter test :=
    List.filter_congr fun r hr => htest r hr (f r) (hrows r hr)
  rw [hf, List.filter_map, List.map_map, hfilter]
  refine List.map_congr_left fun r hr => ?_
  exact (hrows r (List.mem_filter.1 hr).1).moved.id

theorem ids_of_settled : d.rows.map (·.id) = target.rows.map (·.id) := by
  have hall := map_filter_of_settled h (fun _ => true) (fun _ => true) fun _ _ _ _ => rfl
  simpa using hall

/-- The rows that name a row are those that were wanted last. -/
theorem linksTo_of_settled (htarget : (target.rows.map (·.id)).Nodup) (row : String) :
    d.linksTo property row = target.linksAfter property calls row := by
  have hrows : (d.rows.map (·.id)).Nodup := by rwa [ids_of_settled h]
  rw [linksTo_of_nodup hrows, linksAfter_eq htarget]
  exact map_filter_of_settled h _ _ fun r _ r' hr' => hr'.names row

/-- Relinking changes what the call has to change. -/
theorem relink_change (htarget : (target.rows.map (·.id)).Nodup) (call : LinkCall) :
    (d.relink property call.row call.wanted call.now).2 = target.linkChange property calls call := by
  have hwanted : ∀ r : Row, r.namesAfter property (calls ++ [call]) call.row
      = call.wanted.contains r.id := by
    intro r
    rw [Row.namesAfter, lastWanted?_append, if_pos rfl]
  have hadded := map_filter_of_settled h
    (fun r => !r.namesAfter property calls call.row && call.wanted.contains r.id)
    (fun r => !r.names property call.row && call.wanted.contains r.id)
    fun r _ r' hr' => by rw [hr'.names, hr'.moved.id]
  have hremoved := map_filter_of_settled h
    (fun r => r.namesAfter property calls call.row && !call.wanted.contains r.id)
    (fun r => r.names property call.row && !call.wanted.contains r.id)
    fun r _ r' hr' => by rw [hr'.names, hr'.moved.id]
  have hdiff : ∀ calls calls' : List LinkCall,
      (target.linksAfter property calls call.row).filter
          (!(target.linksAfter property calls' call.row).contains ·)
        = (target.rows.filter fun r => !r.namesAfter property calls' call.row &&
            r.namesAfter property calls call.row).map (·.id) := by
    intro calls calls'
    rw [linksAfter_eq htarget property calls, List.filter_map, List.filter_filter]
    refine congrArg _ (List.filter_congr fun r hr => ?_)
    rw [Function.comp_apply, contains_linksAfter htarget calls' call.row hr]
  unfold relink linkChange
  simp only
  rw [hadded, hremoved, hdiff, hdiff]
  simp only [hwanted, Bool.and_comm]

end Settled

end Document

/-! ### What stays equal -/

/-- Is a row the other one but for the links of the rows `named` in a property? Nothing else in it
is changed, the other ids in the property keep their order, and the whole row stays equal unless its
id is in `changed`. -/
structure Row.SameBut (property : String) (named changed : List String) (r r' : Row) : Prop where
  id : r'.id = r.id
  createdAt : r'.createdAt = r.createdAt
  cells : ∀ other ≠ property, (r'.cells.get? other == r.cells.get? other) = true
  order : (r'.cell property).ids.filter (!named.contains ·)
    = (r.cell property).ids.filter (!named.contains ·)
  unchanged : r.id ∉ changed → (r' == r) = true

/-- Is a document the other one but for the links of the rows `named` in a property of the rows
`changed`? -/
structure Document.SameBut (property : String) (named changed : List String) (d d' : Document) :
    Prop where
  properties : (d'.properties == d.properties) = true
  rows : List.Forall₂ (Row.SameBut property named changed) d.rows d'.rows
  views : (d'.views == d.views) = true

theorem Row.Moved.sameBut {property : String} {named changed : List String} {r r' : Row}
    (h : Moved property named changed r r') (hr : r.Storable) :
    SameBut property named changed r r' where
  id := h.id
  createdAt := h.createdAt
  cells other hne := by
    have hfinite : ∀ c, r.cells.get? other = some c → c.IsFinite := fun c hc =>
      hr.cells (other, c) (IdMap.get?_eq_some_iff.1 hc)
    rcases h.cells other hne with hcell | hcell
    · rw [hcell]
      cases hc : r.cells.get? other with
      | none => rfl
      | some c => exact Cell.beq_self (hfinite c hc)
    · rw [hcell]
      cases hc : r.cells.get? other with
      | none => rfl
      | some c => exact Cell.stored_beq (hfinite c hc)
  order := h.order
  unchanged hid := by
    rcases h.unchanged hid with rfl | rfl
    · exact hr.beq_self
    · exact hr.stored_beq

theorem Document.Moved.sameBut {R : Row → Row → Prop} {property : String}
    {named changed : List String} {d d' : Document} (h : d.Moved R d') (hd : d.Storable)
    (hdoubles : d.DoublesReadBack) (hR : ∀ r r', R r r' → Row.Moved property named changed r r') :
    d.SameBut property named changed d' where
  properties := by
    have hnumbers := readBack_of_storable hd hdoubles
    rcases h.properties with hp | hp
    · rw [hp]
      exact list_beq_self fun p hp => (hd.properties p hp).beq_self (readBack_property hnumbers hp)
    · rw [hp]
      exact list_map_beq fun p hp => (hd.properties p hp).stored_beq (readBack_property hnumbers hp)
  rows := by
    obtain ⟨f, hf, hrows⟩ := h.rows
    rw [hf, List.forall₂_map_right_iff, List.forall₂_same]
    exact fun r hr => (hR r (f r) (hrows r hr)).sameBut (hd.rows r hr)
  views := by
    have hnumbers := readBack_of_storable hd hdoubles
    rcases h.views with hv | hv
    · rw [hv]
      exact list_beq_self fun v hv => (hd.views v hv).beq_self (readBack_view hnumbers hv)
    · rw [hv]
      exact list_map_beq fun v hv => (hd.views v hv).stored_beq (readBack_view hnumbers hv)

/-! ### One call -/

namespace Document

/-- The change of a call is empty only if the call changes no row. -/
theorem relink_eq_self {d : Document} {property row : String} {wanted : List String} {now : Instant}
    (h : (d.relink property row wanted now).2.isEmpty = true) :
    (d.relink property row wanted now).1 = d := by
  obtain ⟨hadded, hremoved⟩ := (Bool.and_eq_true _ _).mp h
  have hchange : (d.relink property row wanted now).2.rows = [] := by
    rw [LinkChange.rows, List.isEmpty_iff.1 hadded, List.isEmpty_iff.1 hremoved]
    rfl
  have hrow : ∀ r ∈ d.rows, r.relink property row wanted now = r := by
    intro r hr
    have hnames := names_of_not_changed hr (hchange ▸ List.not_mem_nil)
    rcases r.relink_cases property row wanted now with ⟨-, h⟩ | ⟨hno, hyes, -⟩ | ⟨hyes, hno, -⟩
    · exact h
    · rw [hno, hyes] at hnames
      cases hnames
    · rw [hno, hyes] at hnames
      cases hnames
  have hrows : d.rows.map (·.relink property row wanted now) = d.rows := by
    rw [List.map_congr_left hrow, List.map_id']
  exact congrArg (fun rows => (⟨d.properties, rows, d.views⟩ : Document)) hrows

theorem property?_of_moved {R : Row → Row → Prop} {d d' : Document} (h : d.Moved R d')
    (id : String) : (d'.property? id).any (·.relation?.isSome)
      = (d.property? id).any (·.relation?.isSome) := by
  unfold property?
  rcases h.properties with hp | hp
  · rw [hp]
  · rw [hp, List.find?_map]
    have hcomp : ((·.id == id) : Property → Bool) ∘ Property.stored = (·.id == id) := rfl
    rw [hcomp]
    cases d.properties.find? (·.id == id) <;> rfl

section Calls

variable {σ : Type} [PageStore σ] {d target t : Document} {property page forward : String}
  {store store' : σ} {calls : List LinkCall} {changed : List String}

/-- What is in a store after some calls. -/
structure Reached (target : Document) (page forward : String) (calls : List LinkCall)
    (changed : List String) (store store' : σ) (t : Document) : Prop where
  load : PageStore.load store' page = .ok t
  others : ∀ other ≠ page, PageStore.load store' other = PageStore.load store other
  moved : target.Moved (Row.Settled forward calls changed) t
  forward : (t.property? forward).any (·.relation?.isSome) = true
  doubles : t.DoublesReadBack

/-- The answer of a call and what it leaves in the store. -/
theorem setBackLinks_eq {row : String} (hsource : d.linkSource property = .ok (page, forward))
    (hrow : (d.row? row).isSome = true) (hload : PageStore.load store page = .ok t)
    (hforward : (t.property? forward).any (·.relation?.isSome) = true) (wanted : List String)
    (now : Instant) (cache : DocumentCache) :
    d.setBackLinks property row wanted now store cache
      = (if (t.relink forward row wanted now).2.isEmpty then .ok store
          else PageStore.trySave store page (t.relink forward row wanted now).1).map
        fun store => ((t.relink forward row wanted now).2, store, cache.invalidate page) := by
  have hlink : loadLinkSource store page forward = .ok t := by
    unfold loadLinkSource
    rw [hload]
    simp only
    rw [if_pos hforward]
  have hsome : (d.row? row).isNone = false := by
    rw [Option.isNone_eq_false_iff]
    exact hrow
  unfold setBackLinks
  rw [Json.bind_ok hsource]
  simp only [hsome]
  rw [if_neg Bool.false_ne_true, Json.bind_ok hlink]
  split
  · rfl
  · cases PageStore.trySave store page (t.relink forward row wanted now).1 <;> rfl

variable [LawfulPageStore σ]

/-- A call succeeds. Afterwards the page holds the document with the wanted links, and nothing is
written if there was nothing to change. -/
theorem reached_call (h : Reached target page forward calls changed store store' t)
    (hsource : d.linkSource property = .ok (page, forward)) {call : LinkCall}
    (hrow : (d.row? call.row).isSome = true) (hnow : call.now.IsValid) (cache : DocumentCache) :
    ∃ change store'' t', change = (t.relink forward call.row call.wanted call.now).2 ∧
      d.setBackLinks property call.row call.wanted call.now store' cache
        = .ok (change, store'', cache.invalidate page) ∧
      Reached target page forward (calls ++ [call]) (changed ++ change.rows) store store'' t' ∧
      t.Moved (Row.Called forward call change.rows) t' ∧
      (change.isEmpty = true → store'' = store') := by
  have hcall := setBackLinks_eq hsource hrow h.load h.forward call.wanted call.now cache
  have hrelink := moved_relink t forward call
  have hreached : ∀ {store'' : σ} {t' : Document}, PageStore.load store'' page = .ok t' →
      (∀ other ≠ page, PageStore.load store'' other = PageStore.load store' other) →
      t.Moved (Row.Called forward call (t.relink forward call.row call.wanted call.now).2.rows) t' →
      t'.DoublesReadBack →
      Reached target page forward (calls ++ [call])
        (changed ++ (t.relink forward call.row call.wanted call.now).2.rows) store store'' t' := by
    intro store'' t' hload hothers hmoved hdoubles
    refine ⟨hload, fun other hne => (hothers other hne).trans (h.others other hne), ?_, ?_, hdoubles⟩
    · exact h.moved.trans hmoved fun r r' r'' => Row.Settled.called
    · exact (property?_of_moved hmoved forward).trans h.forward
  by_cases hempty : (t.relink forward call.row call.wanted call.now).2.isEmpty = true
  · rw [relink_eq_self hempty] at hrelink
    rw [if_pos hempty, Except.map] at hcall
    exact ⟨_, store', t, rfl, hcall, hreached h.load (fun _ _ => rfl) hrelink h.doubles,
      hrelink, fun _ => rfl⟩
  · have hstored := hrelink.stored fun r r' hr => hr.stored
    have hdoubles := h.doubles.relink forward call.row call.wanted call.now
    have hload := PageStore.load_save store' page
      ((PageStore.storable_of_load h.load).relink forward call.row call.wanted hnow) hdoubles
    rw [if_neg hempty, PageStore.trySave_eq, Except.map] at hcall
    exact ⟨_, _, _, rfl, hcall, hreached hload
      (fun other hne => SeparatePages.load_save_of_ne store' _ hne) hstored hdoubles.stored,
      hstored, fun h => absurd h hempty⟩

/-- Calls in turn succeed. -/
theorem reached_calls (h : Reached target page forward calls changed store store' t)
    (htarget : (target.rows.map (·.id)).Nodup)
    (hsource : d.linkSource property = .ok (page, forward)) {later : List LinkCall}
    (hrow : ∀ call ∈ later, (d.row? call.row).isSome = true)
    (hnow : ∀ call ∈ later, call.now.IsValid) (cache : DocumentCache) :
    ∃ store'' cache' t',
      d.runLinkCalls property later store' cache
        = .ok (target.linkChanges forward calls later, store'', cache') ∧
      Reached target page forward (calls ++ later)
        (changed ++ (target.linkChanges forward calls later).flatMap LinkChange.rows) store store''
        t' := by
  induction later generalizing calls changed store' t cache with
  | nil => exact ⟨store', cache, t, rfl, by simpa [linkChanges] using h⟩
  | cons call later ih =>
    obtain ⟨hrow, hrows⟩ := List.forall_mem_cons.1 hrow
    obtain ⟨hnow, hnows⟩ := List.forall_mem_cons.1 hnow
    obtain ⟨change, store₁, t₁, hchange, hcall, h₁, -, -⟩ := reached_call h hsource hrow hnow cache
    rw [relink_change h.moved htarget] at hchange
    subst hchange
    obtain ⟨store₂, cache₂, t₂, hcalls, h₂⟩ := ih h₁ hrows hnows (cache.invalidate page)
    refine ⟨store₂, cache₂, t₂, ?_, ?_⟩
    · rw [runLinkCalls, Json.bind_ok hcall]
      simp only
      rw [Json.bind_ok hcalls]
      rfl
    · simpa [linkChanges] using h₂

omit [LawfulPageStore σ] in
/-- A call that is repeated changes nothing and writes nothing. -/
theorem setBackLinks_repeated {call : LinkCall}
    (h : Reached target page forward (calls ++ [call]) changed store store' t)
    (htarget : (target.rows.map (·.id)).Nodup)
    (hsource : d.linkSource property = .ok (page, forward))
    (hrow : (d.row? call.row).isSome = true) (now : Instant) (cache : DocumentCache) :
    d.setBackLinks property call.row call.wanted now store' cache
      = .ok (⟨[], []⟩, store', cache.invalidate page) := by
  have hlinks : target.linksAfter forward (calls ++ [call] ++ [{ call with now }]) call.row
      = target.linksAfter forward (calls ++ [call]) call.row := by
    simp only [linksAfter, lastWanted?_append, if_pos]
  have hnothing : ∀ ids : List String, ids.filter (!ids.contains ·) = [] := fun ids =>
    List.filter_eq_nil_iff.2 fun id hid => by simpa using hid
  have hchange : (t.relink forward call.row call.wanted now).2 = ⟨[], []⟩ := by
    refine (relink_change h.moved htarget { call with now }).trans ?_
    rw [linkChange, hlinks, hnothing]
  rw [setBackLinks_eq hsource hrow h.load h.forward call.wanted now cache, hchange]
  rfl

/-! ### Runs -/

/-- Calls in turn on the rows of a document, with a back relation of it, succeed whatever rows they
want. In the end the links of each row are what was wanted last, in the order of the other document;
each call has answered with the difference that it makes; and nothing else is changed. A further
call makes its own difference and no other one, and repeating it changes and writes nothing. -/
theorem runLinkCalls_ok {p : Property} (hproperties : (d.properties.map (·.id)).Nodup)
    (hrows : (d.rows.map (·.id)).Nodup) (hp : p ∈ d.properties)
    (hrelation : p.relation? = some ⟨page, .back forward⟩)
    (hload : PageStore.load store page = .ok target)
    (htarget : (target.rows.map (·.id)).Nodup)
    (hforward : (target.property? forward).any (·.relation?.isSome) = true)
    (hdoubles : target.DoublesReadBack)
    (hcalls : ∀ call ∈ calls, call.row ∈ d.rows.map (·.id))
    (hnow : ∀ call ∈ calls, call.now.IsValid) (cache : DocumentCache) :
    ∃ changes store' cache' t,
      d.runLinkCalls p.id calls store cache = .ok (changes, store', cache') ∧
      PageStore.load store' page = .ok t ∧
      (∀ r ∈ d.rows, (d.links fun page => (PageStore.load store' page).toOption).linked p.id r.id
        = target.linksAfter forward calls r.id) ∧
      changes = target.linkChanges forward [] calls ∧
      target.SameBut forward (calls.map (·.row)) (changes.flatMap (·.rows)) t ∧
      (∀ other ≠ page, PageStore.load store' other = PageStore.load store other) ∧
      ∀ call : LinkCall, call.row ∈ d.rows.map (·.id) → call.now.IsValid →
        ∃ change store'' t',
          d.setBackLinks p.id call.row call.wanted call.now store' cache'
            = .ok (change, store'', cache'.invalidate page) ∧
          PageStore.load store'' page = .ok t' ∧
          change = target.linkChange forward calls call ∧
          t.SameBut forward [call.row] change.rows t' ∧
          (∀ other ≠ page, PageStore.load store'' other = PageStore.load store' other) ∧
          ∀ now cache, d.setBackLinks p.id call.row call.wanted now store'' cache
            = .ok (⟨[], []⟩, store'', cache.invalidate page) := by
  have hsource : d.linkSource p.id = .ok (page, forward) := by
    unfold linkSource
    rw [(property?_eq_some_iff hproperties).2 ⟨hp, rfl⟩]
    simp only
    rw [hrelation]
  have hrow : ∀ row ∈ d.rows.map (·.id), (d.row? row).isSome = true := by
    intro row hrow
    obtain ⟨r, hr, rfl⟩ := List.mem_map.1 hrow
    rw [(row?_eq_some_iff hrows).2 ⟨hr, rfl⟩]
    rfl
  have hstart : Reached target page forward [] [] store store target :=
    ⟨hload, fun _ _ => rfl, .refl fun r _ => .refl r, hforward, hdoubles⟩
  obtain ⟨store', cache', t, hrun, hend⟩ := reached_calls hstart htarget hsource
    (fun call hcall => hrow _ (hcalls call hcall)) hnow cache
  simp only [List.nil_append] at hend
  refine ⟨_, store', cache', t, hrun, hend.load, fun r hr => ?_, rfl, ?_, hend.others, ?_⟩
  · have ht : (PageStore.load store' page).toOption = some t := by rw [hend.load]; rfl
    rw [linked_of_back hproperties hrows hp hrelation ht hr]
    exact linksTo_of_settled hend.moved htarget r.id
  · exact hend.moved.sameBut (PageStore.storable_of_load hload) hdoubles fun _ _ h => h.moved
  · intro call hcall hnow
    obtain ⟨change, store'', t', hchange, hanswer, hnext, hmoved, -⟩ :=
      reached_call hend hsource (hrow _ hcall) hnow cache'
    have hothers : ∀ other ≠ page, PageStore.load store'' other = PageStore.load store' other :=
      fun other hne => (hnext.others other hne).trans (hend.others other hne).symm
    refine ⟨change, store'', t', hanswer, hnext.load, ?_, ?_, hothers, ?_⟩
    · exact hchange.trans (relink_change hend.moved htarget call)
    · exact hmoved.sameBut (PageStore.storable_of_load hend.load) hend.doubles fun _ _ h => h.moved
    · exact setBackLinks_repeated hnext htarget hsource (hrow _ hcall)

end Calls

/-- Tasks that name their projects. -/
def tasks : Document where
  properties := [.fresh "f" "Projects" (.relation ⟨"p", .forward none⟩),
    .fresh "n" "Hours" (.number none)]
  rows := [⟨"t", .ofList [("n", .number 2.5)], .epoch, .epoch⟩,
    ⟨"u", .ofList [("f", .text "r")], .epoch, .epoch⟩]
  views := []

/-- Projects that show their tasks. -/
def projects : Document where
  properties := [.fresh "b" "Tasks" (.relation ⟨"q", .back "f"⟩)]
  rows := [⟨"r", .empty, .epoch, .epoch⟩, ⟨"s", .empty, .epoch, .epoch⟩]
  views := []

theorem storable_tasks : tasks.Storable where
  properties p hp := by
    simp only [tasks, List.mem_cons, List.not_mem_nil, or_false] at hp
    rcases hp with rfl | rfl
    · exact Property.storable_fresh nofun
    · exact Property.storable_fresh nofun
  rows r hr := by
    simp only [tasks, List.mem_cons, List.not_mem_nil, or_false] at hr
    have hnumber : (Cell.number 2.5).IsFinite := rfl
    rcases hr with rfl | rfl
    · exact ⟨by simp [IdMap.ofList, IdMap.insert, IdMap.empty, insertEntry, hnumber],
        Instant.isValid_epoch, Instant.isValid_epoch⟩
    · exact ⟨by simp [IdMap.ofList, IdMap.insert, IdMap.empty, insertEntry, Cell.IsFinite],
        Instant.isValid_epoch, Instant.isValid_epoch⟩
  views v hv := by cases hv

theorem doublesReadBack_tasks : tasks.DoublesReadBack :=
  doublesReadBack_of_all readsBack_half (by decide +kernel)

/-- The first call unlinks a task and links the other one, the second links both. -/
theorem runLinkCalls_tasks : ∃ store' cache',
    projects.runLinkCalls "b" [⟨"r", ["t"], .epoch⟩, ⟨"s", ["u", "t"], .epoch⟩]
        (PageStore.save MemoryStore.empty "q" tasks) .empty
      = .ok ([⟨["t"], ["u"]⟩, ⟨["t", "u"], []⟩], store', cache') ∧
    (projects.links fun page => (PageStore.load store' page).toOption).linked "b" "r" = ["t"] := by
  have hload := PageStore.load_save MemoryStore.empty "q" storable_tasks doublesReadBack_tasks
  have hcalls : ∀ call ∈ [(⟨"r", ["t"], .epoch⟩ : LinkCall), ⟨"s", ["u", "t"], .epoch⟩],
      call.row ∈ projects.rows.map (·.id) := by decide
  obtain ⟨changes, store', cache', t, hrun, -, hlinks, hchanges, -⟩ :=
    runLinkCalls_ok (d := projects) (p := .fresh "b" "Tasks" (.relation ⟨"q", .back "f"⟩))
      (by decide) (by decide) List.mem_cons_self rfl hload (by decide) (by decide)
      doublesReadBack_tasks.stored hcalls (by simp [Instant.isValid_epoch]) .empty
  subst hchanges
  refine ⟨store', cache', hrun, ?_⟩
  exact hlinks ⟨"r", .empty, .epoch, .epoch⟩ List.mem_cons_self

end Document

end Databook
