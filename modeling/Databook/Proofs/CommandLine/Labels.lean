import Databook.Proofs.CommandLine.Records
import Databook.Proofs.Display.Option
import Databook.Proofs.Document.RowEdits

/-!
# Labels on the command line

The command that writes a cell takes labels for the values of a select property. It reads what it is
given as a JSON value first, and takes it for text only if it is none. So a label that is a JSON value
itself is not found under its own text, unless the value reads as the label; a value that is no text
is in the row as it is then (`set_chooses_iff`). Under a JSON string every label is found.
-/

namespace Databook.CommandLine

open Text Workspace

/-! ### Values that name options -/

/-- Is a label named by a value that is given as a text? -/
def Names (text label : String) : Prop :=
  ∃ named, readCell text = .text named ∧ toLower named = toLower label

/-- A label that is no JSON value is named by itself. -/
theorem names_self {label : String} (h : ∀ j, Json.parse label ≠ .ok j) : Names label label := by
  refine ⟨label, ?_, rfl⟩
  unfold readCell
  split
  · next j hj => exact absurd hj (h j)
  · rfl

/-- A label is named by the JSON string of it. -/
theorem names_string (label : String) : Names (Json.string label).pretty label := by
  refine ⟨label, ?_, rfl⟩
  have hparse : Json.parse (Json.string label).pretty = .ok (.string label) := by
    unfold Json.parse Json.Decoder.decode
    rw [Json.Draft.ofText_pretty fun _ hn => absurd hn List.not_mem_nil]
    rfl
  rw [readCell, hparse]
  rfl

/-! ### Writing cells of properties with one choice -/

section Choice

variable {w : Workspace} {args : List String} {i : Invocation} {page row given text : String}
  {store : RecordStore} {d d' : Document} {found p : Property} {options : List SelectOption}
  {o : SelectOption} {around : Surroundings}

/-- Has a row an option for a property, which is as it was? -/
def Chooses (d' : Document) (row : String) (p : Property) (o : SelectOption) : Prop :=
  d'.property? p.id = some p ∧ ∃ r, d'.row? row = some r ∧ r.cell p.id = .text o.id

/-- A document of a page can only come from a store that is kept. -/
theorem isKept_of_load (hopen : w.openStore i.store = .ok store)
    (hload : PageStore.load store page = .ok d) : isKept i.store = true := by
  by_contra hkept
  rw [Bool.not_eq_true] at hkept
  simp only [openStore, hkept, Bool.not_false, if_true] at hopen
  cases hopen
  cases hload

/-- A run that writes a cell saves the document with it. -/
theorem ends_run_set (hcommand : i.command = .set page row given text)
    (hopen : w.openStore i.store = .ok store) (around : Surroundings) :
    (i.run around).Ends w (fun _ => True) fun _ w' => ∃ d found stored p d',
      PageStore.load store page = .ok d ∧ findProperty d given = .ok found ∧
        ((d.property? found.id).getD found).acceptInput around.freshId (readCell text)
          = (stored, p) ∧
        (d.replaceProperty p).setCell row p.id stored around.now = .ok d' ∧
        w' = w.keepStore i.store (PageStore.save { store with clock := around.now } page d') := by
  unfold Invocation.run
  rw [ends_get_bind]
  refine ends_lift_bind trivial ?_
  intro settings _
  rw [hcommand]
  simp only
  refine ends_lift_bind trivial ?_
  intro opened hopened
  obtain rfl := Except.ok.inj (hopened.symm.trans hopen)
  rw [ends_withStore]
  unfold Invocation.runInStore
  rw [hcommand]
  simp only
  rw [ends_bind]
  refine (ends_setCell page row given text).mono (fun _ _ => trivial) ?_
  rintro j s' ⟨d, found, stored, p, d', hload, hfound, haccept, hset, -, rfl⟩
  exact ⟨d, found, stored, p, d', hload, hfound, haccept, hset, rfl⟩

/-- A run that writes a cell ends well if the cell can be written and the outcome passes the check. -/
theorem exitCode_of_set {settings : Settings} {stored : Cell}
    (hparse : Invocation.parse args = .ok i) (hcommand : i.command = .set page row given text)
    (hsettings : i.readSettings w = .ok settings) (hopen : w.openStore i.store = .ok store)
    (hload : PageStore.load store page = .ok d) (hfound : findProperty d given = .ok found)
    (haccept : ((d.property? found.id).getD found).acceptInput around.freshId (readCell text)
      = (stored, p))
    (hset : (d.replaceProperty p).setCell row p.id stored around.now = .ok d')
    (hok : (d'.validate settings.strictValidation).isOk = true) :
    (runArguments args w around).1.exitCode = 0 := by
  have hwrites : (i.runInStore w around settings).Ends { store with clock := around.now }
      (fun _ => False) fun _ _ => True := by
    have hchecked : d'.checked settings.strictValidation
        = .ok (d'.validate settings.strictValidation).warningTexts := if_pos hok
    have hloads : PageStore.load { store with clock := around.now } page = .ok d := hload
    unfold Invocation.runInStore setCell loadPage
    rw [hcommand]
    simp only
    rw [ends_bind, ends_bind, ends_get_bind, ends_lift_of_ok hloads, ends_bind,
      ends_lift_of_ok hfound]
    simp only [haccept]
    rw [ends_bind, ends_lift_of_ok hset, ends_bind, ends_lift_of_ok hchecked, ends_bind, ends_modify,
      ends_pure, ends_pure]
    trivial
  have hends : (i.run around).Ends w (fun _ => False) fun _ _ => True := by
    unfold Invocation.run
    rw [ends_get_bind, ends_bind, ends_lift_of_ok hsettings, hcommand]
    simp only
    rw [ends_bind, ends_lift_of_ok hopen, ends_withStore]
    exact hwrites
  unfold runArguments
  rw [hparse]
  simp only
  rcases hrun : (i.run around).applyTo w with ⟨e | output, w'⟩
  · exact (hends.of_applyTo.1 e w' hrun).elim
  · rfl

/-- After what is entered has been written, the row has the option exactly if that was entered. -/
theorem chooses_iff_of_setCell {stored : Cell} {p' : Property} {freshId : Nat → String} {c : Cell}
    {now : Calendar.Instant} (haccept : p.acceptInput freshId c = (stored, p'))
    (hset : (d.replaceProperty p').setCell row p'.id stored now = .ok d') :
    Chooses d' row p o ↔ p.acceptInput freshId c = (.text o.id, p) := by
  obtain ⟨hproperty, r, hr, hcell⟩ := Document.written_of_setCell hset
  have hid : p'.id = p.id := by rw [← p.id_acceptInput freshId c, haccept]
  rw [hid] at hproperty hcell
  rw [haccept, Prod.mk.injEq]
  constructor
  · rintro ⟨hsame, r', hr', hoption⟩
    obtain rfl := Option.some_inj.1 (hr.symm.trans hr')
    exact ⟨hcell.symm.trans hoption, Option.some_inj.1 (hproperty.symm.trans hsame)⟩
  · rintro ⟨rfl, rfl⟩
    exact ⟨hproperty, r, hr, hcell⟩

/-- What a run that ends well has made of a row when it was given a value for a property with one
choice: it has the option with a label that no other one has, and none has been added, exactly if the
value names that label. A label that is no JSON value is named by itself, and every label by the JSON
string of it. A value that is no text is in the row as it is. -/
theorem set_chooses_iff (hparse : Invocation.parse args = .ok i)
    (hcommand : i.command = .set page row given text) (hopen : w.openStore i.store = .ok store)
    (hload : PageStore.load store page = .ok d) (hfound : findProperty d given = .ok found)
    (hp : d.property? found.id = some p) (hkind : p.kind = .select options)
    (hids : (options.map (·.id)).Nodup) (ho : o ∈ options)
    (hunique : ∀ o' ∈ options, toLower o'.label = toLower o.label → o' = o)
    (hcode : (runArguments args w around).1.exitCode = 0) :
    ∃ d', ((runArguments args w around).2.record? i.store page).map (·.text) = some d'.toText ∧
      (Chooses d' row p o ↔ Names text o.label) ∧
      (text = o.label → (∀ j, Json.parse text ≠ .ok j) → Chooses d' row p o) ∧
      (text = (Json.string o.label).pretty → Chooses d' row p o) ∧
      ((readCell text).isText = false → d'.property? p.id = some p ∧
        ∃ r, d'.row? row = some r ∧ r.cell p.id = readCell text) := by
  have hkept := isKept_of_load hopen hload
  obtain ⟨-, hend⟩ := (ends_run_set hcommand hopen around).of_applyTo
  unfold runArguments at hcode ⊢
  rw [hparse] at hcode ⊢
  simp only at hcode ⊢
  rcases hrun : (i.run around).applyTo w with ⟨e | output, w'⟩
  · rw [hrun] at hcode
    cases hcode
  · obtain ⟨d₀, found₀, stored, p', d', hload₀, hfound₀, haccept, hset, rfl⟩ := hend output w' hrun
    obtain rfl := Except.ok.inj (hload₀.symm.trans hload)
    obtain rfl := Except.ok.inj (hfound₀.symm.trans hfound)
    rw [hp, Option.getD_some] at haccept
    have hchooses : Chooses d' row p o ↔ Names text o.label :=
      (chooses_iff_of_setCell haccept hset).trans
        (Property.acceptInput_eq_option_iff hkind hids ho hunique)
    refine ⟨d', ?_, hchooses, ?_, ?_, ?_⟩
    -- the store of the path is the one that the document has been saved in
    · have hrecord : (PageStore.save { store with clock := around.now } page d').get? page
          = some ⟨store.notebookFor page, d'.toText, around.now⟩ := by
        refine (get?_put _ page _ d' page).trans (if_pos rfl)
      simp only [record?_keepStore, hkept, true_and, if_true, hrecord, Option.map_some]
    · rintro rfl hnone
      exact hchooses.2 (names_self hnone)
    · rintro rfl
      exact hchooses.2 (names_string o.label)
    · intro htext
      rw [Property.acceptInput_of_not_text hkind htext] at haccept
      cases haccept
      exact Document.written_of_setCell hset

end Choice

section Form

/-- A column of answers. The label of one of them is a JSON value. -/
def answers : Property :=
  .fresh "s" "Answer" (.select [⟨"a", "true", "#ef4444"⟩, ⟨"b", "Maybe", "#f97316"⟩])

def form : Document where
  properties := [answers]
  rows := [⟨"r", .empty, .epoch, .epoch⟩]
  views := [.fresh "v" "Table" .table]

def formStore : RecordStore := PageStore.save .empty "p" form

theorem storable_form : form.Storable where
  properties p hp := by
    obtain rfl := List.mem_singleton.1 hp
    refine Property.storable_fresh fun f hf => ?_
    cases hf
  rows r hr := by
    obtain rfl := List.mem_singleton.1 hr
    exact ⟨fun _ hentry => absurd hentry List.not_mem_nil, Calendar.Instant.isValid_epoch,
      Calendar.Instant.isValid_epoch⟩
  views v hv := by
    obtain rfl := List.mem_singleton.1 hv
    exact ⟨fun _ hf => absurd hf List.not_mem_nil, ViewSettings.storable_none⟩

theorem load_form : PageStore.load formStore "p" = .ok form := by
  have hnumbers : form.toJson.numbers = [] := by decide
  refine PageStore.load_save RecordStore.empty "p" storable_form fun x hx => ?_
  rw [hnumbers] at hx
  exact absurd hx List.not_mem_nil

def formWorkspace : Workspace := ⟨.empty, .ofList [(Invocation.standardStore, formStore)]⟩

theorem openStore_form : formWorkspace.openStore Invocation.standardStore = .ok formStore := rfl

def formSurroundings : Surroundings := ⟨.epoch, toString⟩

/-- The arguments that give an answer. -/
def answerArgs (text : String) : List String := ["set", "p", "r", "Answer", text]

def answerInvocation (text : String) : Invocation :=
  ⟨Invocation.standardStore, none, .yaml, .set "p" "r" "Answer" text⟩

/-- An answer can be given with any value that adds no option and passes the check. -/
theorem exitCode_answerArgs {text : String} {stored : Cell}
    (hparse : Invocation.parse (answerArgs text) = .ok (answerInvocation text))
    (haccept : answers.acceptInput toString (readCell text) = (stored, answers))
    (hok : ((form.modifyRow "r" (·.setCell "s" stored .epoch)).validate false).isOk = true) :
    (runArguments (answerArgs text) formWorkspace formSurroundings).1.exitCode = 0 :=
  exitCode_of_set (i := answerInvocation text) hparse rfl rfl openStore_form load_form rfl haccept rfl
    hok

/-- The label that is a JSON value is not found under its own text, but under its JSON string; the
other one is found. -/
theorem set_chooses_iff_form : ∃ d₁ d₂ d₃,
    ((runArguments (answerArgs "true") formWorkspace formSurroundings).2.record?
      Invocation.standardStore "p").map (·.text) = some d₁.toText ∧
    ((runArguments (answerArgs "\"true\"") formWorkspace formSurroundings).2.record?
      Invocation.standardStore "p").map (·.text) = some d₂.toText ∧
    ((runArguments (answerArgs "Maybe") formWorkspace formSurroundings).2.record?
      Invocation.standardStore "p").map (·.text) = some d₃.toText ∧
    ¬ Chooses d₁ "r" answers ⟨"a", "true", "#ef4444"⟩ ∧
    Chooses d₂ "r" answers ⟨"a", "true", "#ef4444"⟩ ∧
    Chooses d₃ "r" answers ⟨"b", "Maybe", "#f97316"⟩ := by
  have hunique : ∀ o ∈ answers.options, ∀ o' ∈ answers.options,
      toLower o'.label = toLower o.label → o' = o := by decide +kernel
  have htrue : Invocation.parse (answerArgs "true") = .ok (answerInvocation "true") := by
    decide +kernel
  obtain ⟨d₁, hstored₁, hchooses₁, -⟩ := set_chooses_iff htrue rfl openStore_form load_form
    rfl rfl rfl (by decide) List.mem_cons_self (hunique _ List.mem_cons_self)
    (exitCode_answerArgs htrue rfl (by decide +kernel))
  have hquoted : Invocation.parse (answerArgs "\"true\"") = .ok (answerInvocation "\"true\"") := by
    decide +kernel
  obtain ⟨d₂, hstored₂, -, -, hchooses₂, -⟩ := set_chooses_iff hquoted rfl openStore_form load_form
    rfl rfl rfl (by decide) List.mem_cons_self (hunique _ List.mem_cons_self)
    (exitCode_answerArgs hquoted rfl (by decide +kernel))
  have hmaybe : Invocation.parse (answerArgs "Maybe") = .ok (answerInvocation "Maybe") := by
    decide +kernel
  obtain ⟨d₃, hstored₃, -, hchooses₃, -⟩ := set_chooses_iff hmaybe rfl openStore_form load_form
    rfl rfl rfl (by decide) (List.mem_cons_of_mem _ List.mem_cons_self)
    (hunique _ (List.mem_cons_of_mem _ List.mem_cons_self))
    (exitCode_answerArgs hmaybe rfl (by decide +kernel))
  refine ⟨d₁, d₂, d₃, hstored₁, hstored₂, hstored₃, ?_, hchooses₂ rfl, hchooses₃ rfl nofun⟩
  rw [hchooses₁]
  rintro ⟨named, hnamed, -⟩
  cases hnamed

end Form

end Databook.CommandLine
