import Databook.CommandLine.Run
import Databook.Proofs.Columns.BackLink

/-!
# What commands write

A run of the program that fails leaves every stored record as it is, and a run that ends well changes
no record but the one that its command is about (`records_runArguments`).

`Act.Ends` says how an act ends: with a result that fits one condition or with a failure that fits
another. The lemmas `ends_…` take an act apart into its steps, so that a command that has written may
not fail any more: what it has written would have to be as it was before.
-/

namespace Databook.CommandLine

open Workspace

/-! ### How acts end -/

section Acts

variable {σ α β : Type} {a : Act σ α} {f : α → Act σ β} {s : σ} {E : σ → Prop}

/-- The act ends in the state `s` with a result and a state that fit `R`, or it fails and leaves a
state that fits `E`. -/
def Act.Ends (a : Act σ α) (s : σ) (E : σ → Prop) (R : α → σ → Prop) : Prop :=
  match a.applyTo s with
  | (.error _, s') => E s'
  | (.ok x, s') => R x s'

theorem Act.Ends.mono {E' : σ → Prop} {R R' : α → σ → Prop} (h : a.Ends s E R)
    (hE : ∀ s', E s' → E' s') (hR : ∀ x s', R x s' → R' x s') : a.Ends s E' R' := by
  unfold Ends at h ⊢
  split
  · next hrun =>
    rw [hrun] at h
    exact hE _ h
  · next hrun =>
    rw [hrun] at h
    exact hR _ _ h

theorem Act.Ends.of_applyTo {R : α → σ → Prop} (h : a.Ends s E R) :
    (∀ e s', a.applyTo s = (.error e, s') → E s') ∧ (∀ x s', a.applyTo s = (.ok x, s') → R x s') := by
  unfold Ends at h
  constructor
  · intro e s' hrun
    rw [hrun] at h
    exact h
  · intro x s' hrun
    rw [hrun] at h
    exact h

@[simp] theorem ends_pure {R : α → σ → Prop} (x : α) : (pure x : Act σ α).Ends s E R ↔ R x s :=
  Iff.rfl

/-- The second of two acts starts in the state in which the first one ends. -/
theorem ends_bind {R : β → σ → Prop} :
    (a >>= f).Ends s E R ↔ a.Ends s E fun x s' => (f x).Ends s' E R := by
  have hrun : (a >>= f).applyTo s = match a.applyTo s with
      | (.error e, s') => (.error e, s')
      | (.ok x, s') => (f x).applyTo s' := by
    show (ExceptT.bind a f).run s = _
    unfold ExceptT.bind Act.applyTo
    show (match a.run s with | (x, s') => ExceptT.bindCont f x s') = _
    rcases a.run s with ⟨e | x, s'⟩ <;> rfl
  unfold Act.Ends
  rw [hrun]
  rcases a.applyTo s with ⟨e | x, s'⟩ <;> rfl

@[simp] theorem ends_get {R : σ → σ → Prop} : (get : Act σ σ).Ends s E R ↔ R s s := Iff.rfl

@[simp] theorem ends_set {R : PUnit → σ → Prop} (s' : σ) :
    (set s' : Act σ PUnit).Ends s E R ↔ R ⟨⟩ s' := Iff.rfl

@[simp] theorem ends_modify {R : PUnit → σ → Prop} (g : σ → σ) :
    (modify g : Act σ PUnit).Ends s E R ↔ R ⟨⟩ (g s) := Iff.rfl

/-- What does not look at the state leaves it, whether or not it fails. -/
theorem ends_lift_bind {R : β → σ → Prop} {x : Except Error α} (hE : E s)
    (hR : ∀ a, x = .ok a → (f a).Ends s E R) : (liftM x >>= f).Ends s E R := by
  rw [ends_bind]
  cases x with
  | error e => exact hE
  | ok a => exact hR a rfl

theorem ends_lift_of_ok {R : α → σ → Prop} {x : Except Error α} {a : α} (h : x = .ok a) :
    (liftM x : Act σ α).Ends s E R ↔ R a s := by
  subst h
  exact Iff.rfl

theorem ends_get_bind {R : β → σ → Prop} {f : σ → Act σ β} :
    (get >>= f).Ends s E R ↔ (f s).Ends s E R := by
  rw [ends_bind, ends_get]

end Acts

/-! ### Commands that use a store -/

theorem isOk_of_checked {d : Document} {strict : Bool} {warnings : List String}
    (h : d.checked strict = .ok warnings) : (d.validate strict).isOk = true := by
  simp only [Document.checked] at h
  split at h
  · next hok => exact hok
  · cases h

section Commands

variable {s : RecordStore} {settings : Settings} {around : Surroundings}

theorem ends_loadPage_bind {E : RecordStore → Prop} {R : α → RecordStore → Prop} {page : String}
    {f : Document → Act RecordStore α} (hE : E s)
    (hR : ∀ d, PageStore.load s page = .ok d → (f d).Ends s E R) : (loadPage page >>= f).Ends s E R := by
  have hload : (loadPage page).applyTo s = (PageStore.load s page, s) := rfl
  rw [ends_bind]
  unfold Act.Ends
  rw [hload]
  cases hd : PageStore.load s page with
  | error e => exact hE
  | ok d => exact hR d hd

/-- An import stores the document of the text once it has been checked. -/
theorem ends_importText (page text notebook : String) :
    (importText page text notebook settings).Ends s (· = s) fun _ s' =>
      ∃ d, Document.parse text = .ok d ∧ (d.validate settings.strictValidation).isOk = true ∧
        s' = s.put page notebook d := by
  unfold importText
  refine ends_lift_bind rfl ?_
  intro d hd
  refine ends_lift_bind rfl ?_
  intro warnings hchecked
  -- nothing fails behind the write
  rw [ends_bind, ends_modify, ends_pure]
  exact ⟨d, hd, isOk_of_checked hchecked, rfl⟩

/-- A cell is written into a document with the options that its value needs, and the document is
saved once it has been checked. -/
theorem ends_setCell (page row given value : String) :
    (setCell page row given value around settings).Ends s (· = s) fun _ s' =>
      ∃ d found stored p d', PageStore.load s page = .ok d ∧ findProperty d given = .ok found ∧
        ((d.property? found.id).getD found).acceptInput around.freshId (readCell value)
          = (stored, p) ∧
        (d.replaceProperty p).setCell row p.id stored around.now = .ok d' ∧
        (d'.validate settings.strictValidation).isOk = true ∧ s' = PageStore.save s page d' := by
  unfold setCell
  refine ends_loadPage_bind rfl ?_
  intro d hd
  refine ends_lift_bind rfl ?_
  intro found hfound
  -- the property with new options is only in the document that is written to, not in the store
  simp only
  rcases haccept : ((d.property? found.id).getD found).acceptInput around.freshId (readCell value)
    with ⟨stored, p⟩
  refine ends_lift_bind rfl ?_
  intro d' hd'
  refine ends_lift_bind rfl ?_
  intro warnings hchecked
  rw [ends_bind, ends_modify, ends_pure]
  exact ⟨d, found, stored, p, d', hd, hfound, haccept, hd', isOk_of_checked hchecked, rfl⟩

/-- A link is made in the document that the back relation leads to, and that document is saved only if
links in it change. -/
theorem ends_linkRow (page given row : String) (targets : List String) :
    (linkRow page given row targets around).Ends s (· = s) fun _ s' =>
      ∃ d p other forward t, PageStore.load s page = .ok d ∧ findProperty d given = .ok p ∧
        d.linkSource p.id = .ok (other, forward) ∧ PageStore.load s other = .ok t ∧
        (s' = s ∨ (t.relink forward row targets around.now).2.isEmpty = false ∧
          s' = PageStore.save s other (t.relink forward row targets around.now).1) := by
  unfold linkRow
  refine ends_loadPage_bind rfl ?_
  intro d hd
  refine ends_lift_bind rfl ?_
  intro p hp
  rw [ends_get_bind]
  refine ends_lift_bind rfl ?_
  rintro ⟨change, s', cache⟩ hlinks
  rw [ends_bind, ends_set, ends_pure]
  -- what the linking gives is the state that the act ends in
  obtain ⟨other, forward, t, hsource, -, ht, -, rfl, -, hsame | ⟨hchange, hsave⟩⟩ :=
    Document.setBackLinks_ok hlinks
  · exact ⟨d, p, other, forward, t, hd, hp, hsource, ht, .inl hsame.2⟩
  · exact ⟨d, p, other, forward, t, hd, hp, hsource, ht, .inr ⟨hchange, hsave⟩⟩

end Commands

/-- The pages whose records a command may change in a store. A link is made in the document that the
back relation leads to, if one of its rows does not name the given row as wanted. -/
def Command.Writes (s : RecordStore) (page : String) : Command → Prop
  | .importFile given _ _ => page = given
  | .set given _ _ _ => page = given
  | .link given property row targets => ∃ d p forward t, PageStore.load s given = .ok d ∧
      findProperty d property = .ok p ∧ d.linkSource p.id = .ok (page, forward) ∧
      PageStore.load s page = .ok t ∧ ∃ r ∈ t.rows, r.names forward row ≠ targets.contains r.id
  | _ => False

theorem get?_put (s : RecordStore) (page notebook : String) (d : Document) (other : String) :
    (s.put page notebook d).get? other
      = if other = page then some ⟨notebook, d.toText, s.clock⟩ else s.get? other :=
  IdMap.get?_insert s.records page other _

theorem eq_of_get?_put_ne {s : RecordStore} {page notebook other : String} {d : Document}
    (h : (s.put page notebook d).get? other ≠ s.get? other) : other = page := by
  rw [get?_put] at h
  by_contra hne
  exact h (if_neg hne)

theorem exists_of_relink_change {t : Document} {property row : String} {wanted : List String}
    {now : Calendar.Instant} (h : (t.relink property row wanted now).2.isEmpty = false) :
    ∃ r ∈ t.rows, r.names property row ≠ wanted.contains r.id := by
  by_contra hnone
  push Not at hnone
  have hlinked : t.rows.filter (fun r => !r.names property row && wanted.contains r.id) = [] := by
    apply List.filter_eq_nil_iff.2
    intro r hr
    simp [hnone r hr]
  have hunlinked : t.rows.filter (fun r => r.names property row && !wanted.contains r.id) = [] := by
    apply List.filter_eq_nil_iff.2
    intro r hr
    simp [hnone r hr]
  -- every row names it as wanted, so that there is nothing to change
  have hchange : (t.relink property row wanted now).2 = ⟨[], []⟩ := by
    simp only [Document.relink, hlinked, hunlinked, List.map_nil]
  rw [hchange] at h
  cases h

/-- A command that fails leaves the store, and one that ends well changes no records but those that it
writes. -/
theorem ends_runInStore (i : Invocation) (w : Workspace) (around : Surroundings)
    (settings : Settings) (s : RecordStore) :
    (i.runInStore w around settings).Ends s (· = s) fun _ s' =>
      ∀ page, s'.get? page ≠ s.get? page → i.command.Writes s page := by
  have hread : ∀ c : Command, ∀ page, s.get? page ≠ s.get? page → c.Writes s page :=
    fun _ _ hne => absurd rfl hne
  unfold Invocation.runInStore
  cases hcommand : i.command with
  | importFile page file notebook =>
    refine ends_lift_bind rfl ?_
    intro text _
    rw [ends_bind]
    apply (ends_importText page text notebook).mono fun _ h => h
    rintro _ _ ⟨d, -, -, rfl⟩ other hne
    exact eq_of_get?_put_ne hne
  | set page row property value =>
    simp only
    rw [ends_bind]
    apply (ends_setCell page row property value).mono fun _ h => h
    rintro _ _ ⟨d, found, stored, p, d', -, -, -, -, -, rfl⟩ other hne
    exact eq_of_get?_put_ne hne
  | link page property row targets =>
    simp only
    rw [ends_bind]
    apply (ends_linkRow page property row targets).mono fun _ h => h
    rintro _ _ ⟨d, p, other, forward, t, hd, hp, hsource, ht, hsave⟩ changed hne
    rcases hsave with rfl | ⟨hchange, rfl⟩
    · exact absurd rfl hne
    · cases eq_of_get?_put_ne hne
      exact ⟨d, p, forward, t, hd, hp, hsource, ht, exists_of_relink_change hchange⟩
  | exportPage page => exact ends_loadPage_bind rfl fun d _ => hread (.exportPage page)
  | table page title => exact ends_loadPage_bind rfl fun d _ => hread (.table page title)
  | list notebook => exact hread (.list notebook)
  | materialize page view =>
    simp only
    rw [ends_get_bind]
    exact ends_lift_bind rfl fun j _ => hread (.materialize page view)
  | validate page =>
    simp only
    rw [ends_get_bind]
    exact ends_lift_bind rfl fun j _ => hread (.validate page)
  | eval formula columns => exact hread (.eval formula columns)
  | references formula => exact hread (.references formula)

/-! ### Workspaces -/

/-- What is stored for a page in the store of a path. -/
def Workspace.record? (w : Workspace) (path page : String) : Option PageRecord :=
  (w.stores.get? (plainPath path)).bind (·.get? page)

/-- The two workspaces have the same records in the stores of all paths. -/
def Workspace.SameRecords (w w' : Workspace) : Prop :=
  ∀ path page, w'.record? path page = w.record? path page

section Stores

variable {w : Workspace} {path other page : String} {store s : RecordStore}

theorem get?_openStore (hopen : w.openStore path = .ok store) (hkept : isKept path = true)
    (page : String) : store.get? page = w.record? path page := by
  unfold Workspace.openStore at hopen
  unfold Workspace.record?
  rw [hkept] at hopen
  cases hstore : w.stores.get? (plainPath path) with
  | some found =>
    simp only [hstore] at hopen
    cases hopen
    rfl
  | none =>
    -- what is not there yet is opened without pages
    have hempty : store = .empty := by
      cases hfile : w.files.get? (plainPath path) with
      | some text | none =>
        simp only [hstore, hfile, Bool.not_true, Bool.false_eq_true, if_false] at hopen
        split at hopen
        all_goals cases hopen
        rfl
    rw [hempty]
    rfl

theorem record?_keepStore : (w.keepStore path s).record? other page
    = if isKept path = true ∧ plainPath other = plainPath path then s.get? page
      else w.record? other page := by
  unfold Workspace.keepStore
  cases hkept : isKept path with
  | false => simp
  | true =>
    unfold Workspace.record?
    simp only [if_true, true_and, IdMap.get?_insert]
    split <;> rfl

/-- If a record changes when a store is kept, the store of that path has been changed there. -/
theorem changed_of_keepStore (hopen : w.openStore path = .ok store)
    (h : (w.keepStore path s).record? other page ≠ w.record? other page) :
    plainPath other = plainPath path ∧ s.get? page ≠ store.get? page := by
  rw [record?_keepStore] at h
  split at h
  · next hpath =>
    have hsame : w.record? other page = w.record? path page := by
      unfold Workspace.record?
      rw [hpath.2]
    rw [hsame, ← get?_openStore hopen hpath.1] at h
    exact ⟨hpath.2, h⟩
  · exact absurd rfl h

theorem ends_withStore {E : Workspace → Prop} {R : α → Workspace → Prop} {a : Act RecordStore α} :
    (withStore path store a).Ends w E R ↔
      a.Ends store (fun s => E (w.keepStore path s)) fun x s => R x (w.keepStore path s) := by
  unfold withStore
  rcases hrun : a.applyTo store with ⟨e | x, s⟩
  · unfold Act.Ends
    rw [hrun]
    rfl
  · unfold Act.Ends
    rw [hrun]
    rfl

end Stores

/-- An invocation that fails leaves all records, and one that ends well changes those records only that
its command writes to its store. -/
theorem ends_run (i : Invocation) (w : Workspace) (around : Surroundings) :
    (i.run around).Ends w w.SameRecords fun _ w' =>
      ∀ path page, w'.record? path page ≠ w.record? path page →
        plainPath path = plainPath i.store ∧
          ∃ store, w.openStore i.store = .ok store ∧ i.command.Writes store page := by
  have hsame : w.SameRecords w := fun _ _ => rfl
  unfold Invocation.run
  rw [ends_get_bind]
  apply ends_lift_bind hsame
  intro settings _
  split
  · apply ends_lift_bind hsame
    exact fun _ _ _ _ hne => absurd rfl hne
  · apply ends_lift_bind hsame
    exact fun _ _ _ _ hne => absurd rfl hne
  · apply ends_lift_bind hsame
    intro store hopen
    rw [ends_withStore]
    apply (ends_runInStore i w around settings _).mono
    · -- a failed command is kept too, with the store that it has left as it was
      rintro _ rfl path page
      by_contra hne
      exact (changed_of_keepStore hopen hne).2 rfl
    · intro output s hwrites path page hne
      obtain ⟨hpath, hchanged⟩ := changed_of_keepStore hopen hne
      exact ⟨hpath, store, hopen, hwrites page hchanged⟩

/-- What a run of the program does to the records of all stores. If the run fails, nothing; otherwise
only the records change that the command of the arguments writes to its store. -/
theorem records_runArguments (args : List String) (w : Workspace) (around : Surroundings) :
    ((runArguments args w around).1.exitCode ≠ 0 → w.SameRecords (runArguments args w around).2) ∧
    ∀ path page, (runArguments args w around).2.record? path page ≠ w.record? path page →
      ∃ i store, Invocation.parse args = .ok i ∧ plainPath path = plainPath i.store ∧
        w.openStore i.store = .ok store ∧ i.command.Writes store page := by
  have hsame : w.SameRecords w := fun _ _ => rfl
  unfold runArguments
  cases hparse : Invocation.parse args with
  | error halt =>
    cases halt with
    | misuse | help | version => exact ⟨fun _ => hsame, fun _ _ hne => absurd rfl hne⟩
  | ok i =>
    obtain ⟨hfailed, hended⟩ := (ends_run i w around).of_applyTo
    simp only
    rcases hrun : (i.run around).applyTo w with ⟨e | output, w'⟩
    · have hkept := hfailed e w' hrun
      exact ⟨fun _ => hkept, fun path page hne => absurd (hkept path page) hne⟩
    · refine ⟨fun hcode => absurd rfl hcode, ?_⟩
      intro path page hne
      obtain ⟨hpath, store, hopen, hwrites⟩ := hended output w' hrun path page hne
      exact ⟨i, store, rfl, hpath, hopen, hwrites⟩

end Databook.CommandLine
