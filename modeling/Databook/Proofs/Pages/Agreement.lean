import Databook.Proofs.Pages.Store

/-!
# Stores that answer alike

A store in memory and a record store are asked to save documents, to store texts as they are, to load
and to remove pages and to list them. Whatever notebooks the records are filed under, both give the same
answers (`stores_answer_alike`): a record store that forgets notebooks and times (`RecordStore.forget`)
is a store in memory, and goes on forgetting as both go on.
-/

namespace Databook

open Calendar

/-- What stores are asked for. -/
inductive PageCall where
  | save (page : String) (d : Document)
  | putText (page text : String)
  | load (page : String)
  | remove (page : String)
  | pages

inductive PageAnswer where
  | done
  | loaded (result : Except Error Document)
  | removed (found : Bool)
  | pages (ids : List String)

/-- When and where a record store files what it is asked to write. -/
structure Filing where
  now : Instant
  /-- The notebook that is configured; if empty, there is none. -/
  configured : String
  /-- The notebook that is named for what is written. Without one, a document is saved in the notebook
  that is configured, or stays in its own. -/
  named : Option String

def MemoryStore.answer (s : MemoryStore) : PageCall → PageAnswer × MemoryStore
  | .save page d => (.done, PageStore.save s page d)
  | .putText page text => (.done, s.putText page text)
  | .load page => (.loaded (PageStore.load s page), s)
  | .remove page => (.removed (s.remove page).1, (s.remove page).2)
  | .pages => (.pages s.pages, s)

/-- A store at the time of a call, with the notebook that is configured by then. -/
def RecordStore.filing (s : RecordStore) (f : Filing) : RecordStore :=
  { s with clock := f.now, notebook := f.configured }

def RecordStore.answer (s : RecordStore) : Filing × PageCall → PageAnswer × RecordStore
  | (f, .save page d) =>
    match f.named with
    | none => (.done, PageStore.save (s.filing f) page d)
    | some notebook => (.done, (s.filing f).put page notebook d)
  | (f, .putText page text) => (.done, (s.filing f).putText page (f.named.getD "") text)
  | (_, .load page) => (.loaded (PageStore.load s page), s)
  | (_, .remove page) => (.removed (s.remove page).1, (s.remove page).2)
  | (_, .pages) => (.pages ((s.list none).map (·.1)), s)

/-- The answers of a store to calls, and the store after them. -/
def answerAll (answer : σ → ι → PageAnswer × σ) (s : σ) : List ι → List PageAnswer × σ
  | [] => ([], s)
  | call :: rest =>
    let (first, s) := answer s call
    let (answers, s) := answerAll answer s rest
    (first :: answers, s)

namespace PageCall

/-- What a call leaves behind as the text of a page: nothing if it removes the page. Calls that do not
write to the page leave nothing behind. -/
def writes? (page : String) : PageCall → Option (Option String)
  | .save other d => if other = page then some (some d.toText) else none
  | .putText other text => if other = page then some (some text) else none
  | .remove other => if other = page then some none else none
  | .load _ | .pages => none

/-- What the last call that writes to a page leaves behind. -/
def lastWrite? (page : String) (calls : List PageCall) : Option (Option String) :=
  calls.reverse.findSome? (·.writes? page)

end PageCall

/-- Is there no document of a page after some calls: was it never stored, is it removed, or is the text
that was stored last blank? -/
def PageCall.Missing (page : String) (calls : List PageCall) : Prop :=
  lastWrite? page calls = none ∨ lastWrite? page calls = some none ∨
    ∃ text, lastWrite? page calls = some (some text) ∧ Text.isAllBlank text = true

/-- Does loading a page give the text that was stored last? -/
structure LoadsLast (page : String) (calls : List PageCall) (result : Except Error Document) :
    Prop where
  missing : PageCall.Missing page calls → result = .error (.documentNotFound page)
  found : ¬PageCall.Missing page calls → ∀ other, result ≠ .error (.documentNotFound other)
  read : ∀ text, PageCall.lastWrite? page calls = some (some text) → Text.isAllBlank text = false →
    result = Document.parse text

/-- Do two states of a store answer alike about a page? -/
structure AlikeOn (page : String) (answer answer' : PageCall → PageAnswer) : Prop where
  load : answer (.load page) = answer' (.load page)
  remove : answer (.remove page) = answer' (.remove page)
  pages : ∀ ids ids', answer .pages = .pages ids → answer' .pages = .pages ids' →
    (page ∈ ids ↔ page ∈ ids')

/-! ### Errors of reading -/

/-- What cannot be read is there. -/
theorem Document.parse_ne_documentNotFound (text page : String) :
    Document.parse text ≠ .error (.documentNotFound page) := by
  unfold parse
  cases Json.Decoder.decode decoder text <;> simp [Except.mapError]

theorem loadsLast_decode (page : String) (calls : List PageCall) :
    LoadsLast page calls (PageStore.decode page ((PageCall.lastWrite? page calls).getD none)) := by
  have hread : ∀ text, PageCall.lastWrite? page calls = some (some text) →
      Text.isAllBlank text = false →
      PageStore.decode page ((PageCall.lastWrite? page calls).getD none) = Document.parse text := by
    intro text hlast hblank
    rw [hlast, Option.getD_some, PageStore.decode, hblank, if_neg Bool.false_ne_true]
  refine ⟨?_, ?_, hread⟩
  · rintro (hlast | hlast | ⟨text, hlast, hblank⟩)
    · rw [hlast]
      rfl
    · rw [hlast]
      rfl
    · rw [hlast, Option.getD_some, PageStore.decode, if_pos hblank]
  · intro hfound other hnotFound
    unfold PageCall.Missing at hfound
    push Not at hfound
    obtain ⟨hwritten, hkept, hfilled⟩ := hfound
    -- what is left behind is a text that is not blank: it is read, and reading has errors of its own
    obtain ⟨left, hlast⟩ := Option.ne_none_iff_exists'.1 hwritten
    cases left with
    | none => exact hkept hlast
    | some text =>
      rw [hread text hlast (Bool.eq_false_iff.2 (hfilled text hlast))] at hnotFound
      exact Document.parse_ne_documentNotFound text other hnotFound

/-! ### Stores in memory -/

theorem PageCall.lastWrite?_cons (page : String) (call : PageCall) (rest : List PageCall) :
    lastWrite? page (call :: rest) = (lastWrite? page rest).or (call.writes? page) := by
  unfold lastWrite?
  rw [List.reverse_cons, List.findSome?_append]
  simp

namespace MemoryStore

theorem get?_answer (s : MemoryStore) (call : PageCall) (page : String) :
    (s.answer call).2.texts.get? page = (call.writes? page).getD (s.texts.get? page) := by
  cases call with
  | save other d =>
    refine (IdMap.get?_insert s.texts other page d.toText).trans ?_
    by_cases h : page = other <;> simp [PageCall.writes?, h, Ne.symm]
  | putText other text =>
    refine (IdMap.get?_insert s.texts other page text).trans ?_
    by_cases h : page = other <;> simp [PageCall.writes?, h, Ne.symm]
  | remove other =>
    refine (IdMap.get?_erase s.texts other page).trans ?_
    by_cases h : page = other <;> simp [PageCall.writes?, h, Ne.symm]
  | load _ => rfl
  | pages => rfl

/-- The text of a page is what the last write to it has left behind. -/
theorem get?_answerAll (s : MemoryStore) (calls : List PageCall) (page : String) :
    (answerAll answer s calls).2.texts.get? page
      = (PageCall.lastWrite? page calls).getD (s.texts.get? page) := by
  induction calls generalizing s with
  | nil => rfl
  | cons call rest ih =>
    refine (ih (s.answer call).2).trans ?_
    -- a later write counts; without one, what the first call has left behind
    rw [get?_answer, PageCall.lastWrite?_cons]
    cases PageCall.lastWrite? page rest <;> rfl

theorem load_answerAll (calls : List PageCall) (page : String) :
    PageStore.load (answerAll answer .empty calls).2 page
      = PageStore.decode page ((PageCall.lastWrite? page calls).getD none) :=
  congrArg (PageStore.decode page) (get?_answerAll .empty calls page)

theorem alikeOn {s s' : MemoryStore} {page : String} (h : s.texts.get? page = s'.texts.get? page) :
    AlikeOn page (fun call => (s.answer call).1) fun call => (s'.answer call).1 := by
  have hcontains : s.texts.contains page = s'.texts.contains page := congrArg Option.isSome h
  refine ⟨?_, congrArg PageAnswer.removed hcontains, ?_⟩
  · exact congrArg (fun text => PageAnswer.loaded (PageStore.decode page text)) h
  · intro ids ids' hids hids'
    cases hids
    cases hids'
    unfold pages
    rw [IdMap.mem_keys, IdMap.mem_keys, hcontains]

theorem alikeOn_answer (s : MemoryStore) {call : PageCall} {page : String}
    (h : call.writes? page = none) :
    AlikeOn page (fun c => (s.answer c).1) fun c => ((s.answer call).2.answer c).1 := by
  refine alikeOn ?_
  rw [get?_answer, h, Option.getD_none]

end MemoryStore

/-! ### Record stores -/

namespace RecordStore

/-- Only the texts. -/
def forget (s : RecordStore) : MemoryStore := ⟨s.records.map (·.text)⟩

theorem forget_putText (s : RecordStore) (page notebook text : String) :
    (s.putText page notebook text).forget = s.forget.putText page text :=
  congrArg MemoryStore.mk (IdMap.map_insert _ s.records page ⟨notebook, text, s.clock⟩)

theorem load_forget (s : RecordStore) (page : String) :
    PageStore.load s.forget page = PageStore.load s page :=
  congrArg (PageStore.decode page) (IdMap.get?_map _ s.records page)

theorem remove_forget (s : RecordStore) (page : String) :
    s.forget.remove page = ((s.remove page).1, (s.remove page).2.forget) :=
  Prod.ext (IdMap.contains_map _ s.records page)
    (congrArg MemoryStore.mk (IdMap.map_erase _ s.records page).symm)

theorem pages_forget (s : RecordStore) : s.forget.pages = (s.list none).map (·.1) :=
  IdMap.keys_map _ s.records

/-- A record store that forgets answers as before. -/
theorem answer_forget (s : RecordStore) (f : Filing) (call : PageCall) :
    s.forget.answer call = ((s.answer (f, call)).1, (s.answer (f, call)).2.forget) := by
  cases call with
  | save page d =>
    cases hnamed : f.named with
    | none =>
      simp only [answer, hnamed]
      exact congrArg (Prod.mk _) (forget_putText (s.filing f) page _ d.toText).symm
    | some notebook =>
      simp only [answer, hnamed]
      exact congrArg (Prod.mk _) (forget_putText (s.filing f) page notebook d.toText).symm
  | putText page text => exact congrArg (Prod.mk _) (forget_putText (s.filing f) page _ text).symm
  | load page => exact congrArg (fun result => (PageAnswer.loaded result, s.forget)) (load_forget s page)
  | remove page =>
    exact congrArg (fun removed => (PageAnswer.removed removed.1, removed.2)) (remove_forget s page)
  | pages => exact congrArg (fun ids => (PageAnswer.pages ids, s.forget)) s.pages_forget

theorem answerAll_forget (s : RecordStore) (calls : List (Filing × PageCall)) :
    answerAll MemoryStore.answer s.forget (calls.map (·.2))
      = ((answerAll answer s calls).1, (answerAll answer s calls).2.forget) := by
  induction calls generalizing s with
  | nil => rfl
  | cons entry rest ih =>
    simp only [List.map_cons, answerAll, answer_forget s entry.1 entry.2, ih]

theorem alikeOn_answer (s : RecordStore) {entry : Filing × PageCall} {page : String}
    (h : entry.2.writes? page = none) (f : Filing) :
    AlikeOn page (fun c => (s.answer (f, c)).1) fun c => ((s.answer entry).2.answer (f, c)).1 := by
  have halike := MemoryStore.alikeOn_answer s.forget h
  rw [answer_forget s entry.1] at halike
  simp only [answer_forget _ f] at halike
  exact halike

end RecordStore

/-! ### Both -/

/-- A record store and a store in memory answer alike, whatever the filing. They load what was stored
last, and a call that does not write to a page changes no answer about it. -/
theorem stores_answer_alike (calls : List (Filing × PageCall)) :
    (answerAll RecordStore.answer .empty calls).1
      = (answerAll MemoryStore.answer .empty (calls.map (·.2))).1 ∧
    (∀ page,
      LoadsLast page (calls.map (·.2))
        (PageStore.load (answerAll RecordStore.answer .empty calls).2 page) ∧
      LoadsLast page (calls.map (·.2))
        (PageStore.load (answerAll MemoryStore.answer .empty (calls.map (·.2))).2 page)) ∧
    ∀ (records : RecordStore) (memory : MemoryStore) (f : Filing) (call : PageCall) (page : String),
      call.writes? page = none →
        (∀ later, AlikeOn page (fun c => (records.answer (later, c)).1)
          fun c => ((records.answer (f, call)).2.answer (later, c)).1) ∧
        AlikeOn page (fun c => (memory.answer c).1) fun c => ((memory.answer call).2.answer c).1 := by
  have hall := RecordStore.answerAll_forget .empty calls
  refine ⟨(congrArg Prod.fst hall).symm, fun page => ?_, fun records memory f call page h =>
    ⟨records.alikeOn_answer h, memory.alikeOn_answer h⟩⟩
  have hmemory : LoadsLast page (calls.map (·.2))
      (PageStore.load (answerAll MemoryStore.answer .empty (calls.map (·.2))).2 page) := by
    rw [MemoryStore.load_answerAll]
    exact loadsLast_decode page _
  have hforget : (answerAll RecordStore.answer .empty calls).2.forget
      = (answerAll MemoryStore.answer .empty (calls.map (·.2))).2 := (congrArg Prod.snd hall).symm
  refine ⟨?_, hmemory⟩
  rw [← RecordStore.load_forget, hforget]
  exact hmemory

section Sheets

/-- Two pages. -/
def sheets : MemoryStore := ⟨.ofList [("p", "1"), ("q", "2")]⟩

/-- Texts are stored for two pages; one of them is replaced by a blank text, and the other removed. -/
def sheetCalls : List (Filing × PageCall) :=
  [(⟨.epoch, "", some "n"⟩, .putText "p" "1"), (⟨.epoch, "m", none⟩, .putText "q" "2"),
   (⟨.epoch, "", none⟩, .putText "p" " \n"), (⟨.epoch, "", some "k"⟩, .remove "q")]

/-- Neither page is found in the end, and removing one does not concern the other. -/
theorem stores_answer_alike_sheets :
    PageStore.load (answerAll RecordStore.answer .empty sheetCalls).2 "p"
      = .error (.documentNotFound "p") ∧
    PageStore.load (answerAll RecordStore.answer .empty sheetCalls).2 "q"
      = .error (.documentNotFound "q") ∧
    PageCall.writes? "p" (.remove "q") = none ∧
    AlikeOn "p" (fun c => (sheets.answer c).1) fun c => ((sheets.answer (.remove "q")).2.answer c).1 := by
  obtain ⟨-, hloads, hothers⟩ := stores_answer_alike sheetCalls
  exact ⟨(hloads "p").1.missing (.inr (.inr ⟨" \n", rfl, rfl⟩)),
    (hloads "q").1.missing (.inr (.inl rfl)), rfl,
    (hothers .empty sheets ⟨.epoch, "", none⟩ (.remove "q") "p" rfl).2⟩

end Sheets

end Databook
