import Databook.Pages.Records
import Databook.Proofs.IdMap
import Mathlib.Logic.Function.Basic

/-!
# Record stores as maps with one transaction

To its users a record store is a map from pages to notebooks and texts, of which at most one earlier
state is kept aside (`RecordMap`). `RecordMap.Runs` says what the calls of a session do to such a map
and what is replied to each; a store gives these replies and no others, and ends in a state that shows
the map in which they end (`RecordStore.run_as_map`).

What runs in a transaction is an `Action`: it reads and writes records one after the other, may go on by
what it has been told, and succeeds or fails in the end.
-/

namespace Databook

open Calendar

/-- What is told about a record: all but the time of the write. -/
def PageRecord.content (r : PageRecord) : String × String := (r.notebook, r.text)

namespace RecordStore

/-- What is done to the records of a store, apart from transactions. -/
inductive Access where
  | putText (page notebook text : String)
  | put (page notebook : String) (d : Document)
  | save (page : String) (d : Document)
  | remove (page : String)
  | get (page : String)
  | list (notebook : Option String)

/-- What is told in return. -/
inductive Answer where
  | done
  | removed (found : Bool)
  | record (content : Option (String × String))
  | records (entries : List (String × String × String))

/-- What runs in a transaction. -/
inductive Action (α : Type) where
  | finish (result : Except Error α)
  | access (now : Instant) (a : Access) (next : Answer → Action α)

/-- What a store is asked for; the results of transactions are of type `α`. -/
inductive Call (α : Type) where
  | access (a : Access)
  | begin
  | commit
  | rollBack
  | transaction (action : Action α)

inductive Reply (α : Type) where
  | answer (answer : Answer)
  | control (result : Except Error Unit)
  | finished (result : Except Error α)

/-- Does a call close the open transaction? -/
def Call.Closes : Call α → Prop
  | .commit | .rollBack => True
  | _ => False

/-! ### Sessions of a store -/

def access (s : RecordStore) : Access → Answer × RecordStore
  | .putText page notebook text => (.done, s.putText page notebook text)
  | .put page notebook d => (.done, s.put page notebook d)
  | .save page d => (.done, PageStore.save s page d)
  | .remove page => (.removed (s.remove page).1, (s.remove page).2)
  | .get page => (.record ((s.get? page).map (·.content)), s)
  | .list notebook => (.records ((s.list notebook).map fun entry => (entry.1, entry.2.content)), s)

def Action.run : Action α → RecordStore → Except Error α × RecordStore
  | .finish result, s => (result, s)
  | .access now a next, s =>
    let (answer, s) := RecordStore.access { s with clock := now } a
    (next answer).run s

/-- A store that cannot do as asked is left as it is. -/
def control (s : RecordStore) : Except Error RecordStore → Reply α × RecordStore
  | .ok s' => (.control (.ok ()), s')
  | .error e => (.control (.error e), s)

def call (s : RecordStore) (now : Instant) : Call α → Reply α × RecordStore
  | .access a =>
    let (answer, s) := access { s with clock := now } a
    (.answer answer, s)
  | .begin => s.control s.begin
  | .commit => s.control s.commit
  | .rollBack => s.control s.rollBack
  | .transaction action =>
    let (result, s) := s.inTransaction action.run
    (.finished result, s)

/-- The replies to calls, each at its time, and the store after them. -/
def run (s : RecordStore) : List (Instant × Call α) → List (Reply α) × RecordStore
  | [] => ([], s)
  | (now, call) :: rest =>
    let (reply, s) := s.call now call
    let (replies, s) := s.run rest
    (reply :: replies, s)

end RecordStore

open RecordStore

/-! ### Sessions of a map -/

/-- The notebook and the text of each page. -/
abbrev PageContents := String → Option (String × String)

namespace PageContents

/-- What an access tells and does, if documents without a notebook of their own go to `notebook`. -/
inductive Accesses (notebook : String) (pages : PageContents) : Access → Answer → PageContents → Prop
  | putText {page id text} :
    Accesses notebook pages (.putText page id text) .done (Function.update pages page (some (id, text)))
  | put {page id d} :
    Accesses notebook pages (.put page id d) .done (Function.update pages page (some (id, d.toText)))
  | save_kept {page id text d} (hnone : notebook = "") (hpage : pages page = some (id, text)) :
    Accesses notebook pages (.save page d) .done (Function.update pages page (some (id, d.toText)))
  | save {page d} (hother : notebook ≠ "" ∨ pages page = none) :
    Accesses notebook pages (.save page d) .done
      (Function.update pages page (some (notebook, d.toText)))
  | remove {page} :
    Accesses notebook pages (.remove page) (.removed (pages page).isSome)
      (Function.update pages page none)
  | get {page} : Accesses notebook pages (.get page) (.record (pages page)) pages
  | list {only entries} (hsorted : entries.Pairwise fun a b => a.1 < b.1)
    (hmem : ∀ page content, (page, content) ∈ entries ↔
      pages page = some content ∧ ∀ id, only = some id → content.1 = id) :
    Accesses notebook pages (.list only) (.records entries) pages

/-- What an action comes to, and the map in which it ends, whether it succeeds or fails. -/
inductive Performs (notebook : String) : PageContents → Action α → Except Error α → PageContents → Prop
  | finish {pages result} : Performs notebook pages (.finish result) result pages
  | access {pages now a next answer pages' result pages''}
    (hfirst : Accesses notebook pages a answer pages')
    (hnext : Performs notebook pages' (next answer) result pages'') :
    Performs notebook pages (.access now a next) result pages''

end PageContents

/-- A map of pages with the map to go back to, if a transaction is open. -/
structure RecordMap where
  pages : PageContents
  kept : Option PageContents
  /-- The notebook that is configured; if empty, there is none. -/
  notebook : String

namespace RecordMap

/-- A call that fails changes nothing, and neither does a transaction that fails. -/
inductive Step : RecordMap → Call α → Reply α → RecordMap → Prop
  | access {m : RecordMap} {a answer pages} (h : m.pages.Accesses m.notebook a answer pages) :
    Step m (.access a) (.answer answer) { m with pages }
  | begin {m : RecordMap} (hclosed : m.kept = none) :
    Step m .begin (.control (.ok ())) { m with kept := some m.pages }
  | begin_open {m : RecordMap} (hopen : m.kept ≠ none) :
    Step m .begin (.control (.error (.transaction .alreadyOpen))) m
  | commit {m : RecordMap} (hopen : m.kept ≠ none) :
    Step m .commit (.control (.ok ())) { m with kept := none }
  | commit_closed {m : RecordMap} (hclosed : m.kept = none) :
    Step m .commit (.control (.error (.transaction .nothingToCommit))) m
  | rollBack {m : RecordMap} {pages} (hopen : m.kept = some pages) :
    Step m .rollBack (.control (.ok ())) { m with pages, kept := none }
  | rollBack_closed {m : RecordMap} (hclosed : m.kept = none) :
    Step m .rollBack (.control (.error (.transaction .nothingToRollBack))) m
  | transaction_ok {m : RecordMap} {action value pages} (hclosed : m.kept = none)
    (h : m.pages.Performs m.notebook action (.ok value) pages) :
    Step m (.transaction action) (.finished (.ok value)) { m with pages }
  | transaction_error {m : RecordMap} {action e pages} (hclosed : m.kept = none)
    (h : m.pages.Performs m.notebook action (.error e) pages) :
    Step m (.transaction action) (.finished (.error e)) m
  | transaction_open {m : RecordMap} {action} (hopen : m.kept ≠ none) :
    Step m (.transaction action) (.finished (.error (.transaction .alreadyOpen))) m

inductive Runs : RecordMap → List (Call α) → List (Reply α) → RecordMap → Prop
  | nil {m} : Runs m [] [] m
  | cons {m m' m'' call calls reply replies} (hstep : Step m call reply m')
    (hrest : Runs m' calls replies m'') : Runs m (call :: calls) (reply :: replies) m''

end RecordMap

/-! ### A map leaves no choice -/

theorem PageContents.Accesses.unique {notebook : String} {pages pages₁ pages₂ : PageContents}
    {a : Access} {answer₁ answer₂ : Answer} (h₁ : pages.Accesses notebook a answer₁ pages₁)
    (h₂ : pages.Accesses notebook a answer₂ pages₂) : answer₁ = answer₂ ∧ pages₁ = pages₂ := by
  cases h₁ with
  | save_kept hnone hpage =>
    cases h₂ with
    | save_kept _ hpage' =>
      cases hpage.symm.trans hpage'
      exact ⟨rfl, rfl⟩
    | save hother =>
      rcases hother with hsome | hpage'
      · exact absurd hnone hsome
      · cases hpage.symm.trans hpage'
  | save hother =>
    cases h₂ with
    | save_kept hnone hpage =>
      rcases hother with hsome | hpage'
      · exact absurd hnone hsome
      · cases hpage.symm.trans hpage'
    | save => exact ⟨rfl, rfl⟩
  | list hsorted hmem =>
    cases h₂ with
    | list hsorted' hmem' =>
      refine ⟨congrArg Answer.records (IdMap.eq_of_increasing hsorted hsorted' ?_), rfl⟩
      rintro ⟨page, content⟩
      rw [hmem, hmem']
  | _ =>
    cases h₂
    exact ⟨rfl, rfl⟩

theorem PageContents.Performs.unique {notebook : String} {pages pages₁ pages₂ : PageContents}
    {action : Action α} {result₁ result₂ : Except Error α}
    (h₁ : pages.Performs notebook action result₁ pages₁)
    (h₂ : pages.Performs notebook action result₂ pages₂) : result₁ = result₂ ∧ pages₁ = pages₂ := by
  -- the answers that an action goes on by are the same, and with them what it goes on with
  induction h₁ with
  | finish =>
    cases h₂
    exact ⟨rfl, rfl⟩
  | access hfirst _ ih =>
    cases h₂ with
    | access hfirst' hnext' =>
      obtain ⟨rfl, rfl⟩ := hfirst.unique hfirst'
      exact ih hnext'

theorem RecordMap.Step.unique {m m₁ m₂ : RecordMap} {c : Call α} {reply₁ reply₂ : Reply α}
    (h₁ : m.Step c reply₁ m₁) (h₂ : m.Step c reply₂ m₂) : reply₁ = reply₂ ∧ m₁ = m₂ := by
  cases h₁ with
  | access h =>
    cases h₂ with
    | access h' =>
      obtain ⟨rfl, rfl⟩ := h.unique h'
      exact ⟨rfl, rfl⟩
  | begin hclosed =>
    cases h₂ with
    | begin => exact ⟨rfl, rfl⟩
    | begin_open hopen => exact absurd hclosed hopen
  | begin_open hopen =>
    cases h₂ with
    | begin hclosed => exact absurd hclosed hopen
    | begin_open => exact ⟨rfl, rfl⟩
  | commit hopen =>
    cases h₂ with
    | commit => exact ⟨rfl, rfl⟩
    | commit_closed hclosed => exact absurd hclosed hopen
  | commit_closed hclosed =>
    cases h₂ with
    | commit hopen => exact absurd hclosed hopen
    | commit_closed => exact ⟨rfl, rfl⟩
  | rollBack hopen =>
    cases h₂ with
    | rollBack hopen' =>
      cases hopen.symm.trans hopen'
      exact ⟨rfl, rfl⟩
    | rollBack_closed hclosed => cases hopen.symm.trans hclosed
  | rollBack_closed hclosed =>
    cases h₂ with
    | rollBack hopen => cases hopen.symm.trans hclosed
    | rollBack_closed => exact ⟨rfl, rfl⟩
  | transaction_ok hclosed h =>
    cases h₂ with
    | transaction_ok _ h' =>
      obtain ⟨hvalue, rfl⟩ := h.unique h'
      cases hvalue
      exact ⟨rfl, rfl⟩
    | transaction_error _ h' => cases (h.unique h').1
    | transaction_open hopen => exact absurd hclosed hopen
  | transaction_error hclosed h =>
    cases h₂ with
    | transaction_ok _ h' => cases (h.unique h').1
    | transaction_error _ h' =>
      cases (h.unique h').1
      exact ⟨rfl, rfl⟩
    | transaction_open hopen => exact absurd hclosed hopen
  | transaction_open hopen =>
    cases h₂ with
    | transaction_ok hclosed => exact absurd hclosed hopen
    | transaction_error hclosed => exact absurd hclosed hopen
    | transaction_open => exact ⟨rfl, rfl⟩

theorem RecordMap.Runs.unique {m m₁ m₂ : RecordMap} {calls : List (Call α)} {replies₁ replies₂}
    (h₁ : m.Runs calls replies₁ m₁) (h₂ : m.Runs calls replies₂ m₂) :
    replies₁ = replies₂ ∧ m₁ = m₂ := by
  induction h₁ generalizing replies₂ with
  | nil =>
    cases h₂
    exact ⟨rfl, rfl⟩
  | cons hstep _ ih =>
    cases h₂ with
    | cons hstep' hrest' =>
      obtain ⟨rfl, rfl⟩ := hstep.unique hstep'
      obtain ⟨rfl, rfl⟩ := ih hrest'
      exact ⟨rfl, rfl⟩

namespace RecordStore

/-- The notebooks and texts of records. -/
def contents (records : IdMap PageRecord) : PageContents :=
  fun page => (records.get? page).map (·.content)

/-- The map that a store shows. -/
def view (s : RecordStore) : RecordMap := ⟨contents s.records, s.snapshot.map contents, s.notebook⟩

theorem contents_insert (records : IdMap PageRecord) (page : String) (r : PageRecord) :
    contents (records.insert page r)
      = Function.update (contents records) page (some r.content) := by
  funext other
  unfold contents
  rw [IdMap.get?_insert, Function.update_apply]
  split <;> rfl

theorem contents_erase (records : IdMap PageRecord) (page : String) :
    contents (records.erase page) = Function.update (contents records) page none := by
  funext other
  unfold contents
  rw [IdMap.get?_erase, Function.update_apply]
  split <;> rfl

/-! ### Accesses -/

@[simp] theorem notebook_access (s : RecordStore) (a : Access) : (s.access a).2.notebook = s.notebook := by
  cases a <;> rfl

@[simp] theorem snapshot_access (s : RecordStore) (a : Access) :
    (s.access a).2.snapshot = s.snapshot := by
  cases a <;> rfl

theorem contents_save (s : RecordStore) (page : String) (d : Document) :
    contents (PageStore.save s page d).records
      = Function.update (contents s.records) page (some (s.notebookFor page, d.toText)) :=
  contents_insert s.records page _

theorem notebookFor_of_kept {s : RecordStore} {page id text : String} (hnone : s.notebook = "")
    (hpage : contents s.records page = some (id, text)) : s.notebookFor page = id := by
  obtain ⟨r, hr, heq⟩ := Option.map_eq_some_iff.1 hpage
  cases heq
  unfold notebookFor get?
  rw [hnone, hr]
  rfl

theorem notebookFor_of_other {s : RecordStore} {page : String}
    (hother : s.notebook ≠ "" ∨ contents s.records page = none) : s.notebookFor page = s.notebook := by
  unfold notebookFor get?
  cases hempty : s.notebook.isEmpty with
  | false => rfl
  | true =>
    have hnone : s.notebook = "" := String.isEmpty_iff.1 hempty
    have hpage := hother.resolve_left (not_not_intro hnone)
    rw [if_pos rfl, hnone, Option.map_eq_none_iff.1 hpage]
    rfl

theorem mem_list {s : RecordStore} {only : Option String} {page : String} {content : String × String} :
    (page, content) ∈ (s.list only).map (fun entry => (entry.1, entry.2.content))
      ↔ contents s.records page = some content ∧ ∀ id, only = some id → content.1 = id := by
  have hentry : ∀ r, (page, r) ∈ s.list only
      ↔ s.records.get? page = some r ∧ ∀ id, only = some id → r.notebook = id := by
    intro r
    rw [IdMap.get?_eq_some_iff]
    cases only <;> simp [list]
  unfold contents
  rw [List.mem_map, Option.map_eq_some_iff]
  constructor
  · rintro ⟨⟨page', r⟩, hr, heq⟩
    cases heq
    obtain ⟨hget, honly⟩ := (hentry r).1 hr
    exact ⟨⟨r, hget, rfl⟩, honly⟩
  · rintro ⟨⟨r, hget, rfl⟩, honly⟩
    exact ⟨(page, r), (hentry r).2 ⟨hget, honly⟩, rfl⟩

theorem increasing_list (s : RecordStore) (only : Option String) :
    Increasing ((s.list only).map fun entry => (entry.1, entry.2.content)) := by
  refine List.pairwise_map.2 ?_
  cases only with
  | none => exact s.records.increasing
  | some id => exact s.records.increasing.filter _

theorem accesses_access (s : RecordStore) (a : Access) :
    (contents s.records).Accesses s.notebook a (s.access a).1 (contents (s.access a).2.records) := by
  cases a with
  | putText page id text =>
    simp only [access, putText, contents_insert]
    exact .putText
  | put page id d =>
    simp only [access, put, putText, contents_insert]
    exact .put
  | save page d =>
    simp only [access, contents_save]
    -- the notebook that is configured counts; without one, the page stays where it is
    by_cases hnone : s.notebook = ""
    · cases hpage : contents s.records page with
      | none =>
        rw [notebookFor_of_other (.inr hpage)]
        exact .save (.inr hpage)
      | some content =>
        rw [notebookFor_of_kept hnone hpage]
        exact .save_kept hnone hpage
    · rw [notebookFor_of_other (.inl hnone)]
      exact .save (.inl hnone)
  | remove page =>
    have hfound : (s.remove page).1 = (contents s.records page).isSome := Option.isSome_map.symm
    simp only [access, hfound]
    simp only [remove, contents_erase]
    exact .remove
  | get page => exact .get
  | list only => exact .list (increasing_list s only) fun page content => mem_list

/-! ### Actions -/

@[simp] theorem notebook_actionRun (action : Action α) (s : RecordStore) :
    (action.run s).2.notebook = s.notebook := by
  induction action generalizing s with
  | finish => rfl
  | access now a next ih => exact (ih _ _).trans (notebook_access _ a)

@[simp] theorem snapshot_actionRun (action : Action α) (s : RecordStore) :
    (action.run s).2.snapshot = s.snapshot := by
  induction action generalizing s with
  | finish => rfl
  | access now a next ih => exact (ih _ _).trans (snapshot_access _ a)

theorem performs_run (action : Action α) (s : RecordStore) :
    (contents s.records).Performs s.notebook action (action.run s).1
      (contents (action.run s).2.records) := by
  induction action generalizing s with
  | finish result => exact .finish
  | access now a next ih =>
    have hrest := ih (access { s with clock := now } a).1 (access { s with clock := now } a).2
    rw [notebook_access] at hrest
    exact .access (accesses_access { s with clock := now } a) hrest

/-! ### Transactions -/

theorem begin_of_closed {s : RecordStore} (hclosed : s.snapshot = none) :
    s.begin = .ok { s with snapshot := some s.records } := by
  unfold begin
  rw [hclosed]

theorem begin_of_open {s : RecordStore} (hopen : s.snapshot ≠ none) :
    s.begin = .error (.transaction .alreadyOpen) := by
  obtain ⟨records, hrecords⟩ := Option.ne_none_iff_exists'.1 hopen
  unfold begin
  rw [hrecords]

theorem commit_of_closed {s : RecordStore} (hclosed : s.snapshot = none) :
    s.commit = .error (.transaction .nothingToCommit) := by
  unfold commit
  rw [hclosed]

theorem commit_of_open {s : RecordStore} (hopen : s.snapshot ≠ none) :
    s.commit = .ok { s with snapshot := none } := by
  obtain ⟨records, hrecords⟩ := Option.ne_none_iff_exists'.1 hopen
  unfold commit
  rw [hrecords]

theorem rollBack_of_closed {s : RecordStore} (hclosed : s.snapshot = none) :
    s.rollBack = .error (.transaction .nothingToRollBack) := by
  unfold rollBack
  rw [hclosed]

theorem rollBack_of_open {s : RecordStore} {records : IdMap PageRecord}
    (hopen : s.snapshot = some records) : s.rollBack = .ok { s with records, snapshot := none } := by
  unfold rollBack
  rw [hopen]

theorem inTransaction_of_open {s : RecordStore} (hopen : s.snapshot ≠ none) (action : Action α) :
    s.inTransaction action.run = (.error (.transaction .alreadyOpen), s) := by
  unfold inTransaction
  rw [begin_of_open hopen]

/-- What is written in a transaction of its own is kept or taken back as a whole. -/
theorem inTransaction_of_closed {s : RecordStore} (hclosed : s.snapshot = none) (action : Action α) :
    s.inTransaction action.run =
      match action.run { s with snapshot := some s.records } with
      | (.ok value, s') => (.ok value, { s' with snapshot := none })
      | (.error e, s') => (.error e, { s' with records := s.records, snapshot := none }) := by
  have hsnapshot := snapshot_actionRun action { s with snapshot := some s.records }
  unfold inTransaction
  rw [begin_of_closed hclosed]
  cases hrun : action.run { s with snapshot := some s.records } with
  | mk result s' =>
    have hkept : s'.snapshot = some s.records := by rw [hrun] at hsnapshot; exact hsnapshot
    cases result with
    | ok value =>
      simp only [hrun]
      rw [commit_of_open (hkept ▸ Option.some_ne_none _)]
    | error e =>
      simp only [hrun]
      rw [rollBack_of_open hkept]
      rfl

/-! ### Calls -/

theorem kept_view_eq_none_iff {s : RecordStore} : s.view.kept = none ↔ s.snapshot = none :=
  Option.map_eq_none_iff

theorem view_access (s : RecordStore) (now : Instant) (a : Access) :
    (access { s with clock := now } a).2.view
      = { s.view with pages := contents (access { s with clock := now } a).2.records } := by
  unfold view
  rw [snapshot_access, notebook_access]

theorem step_transaction (s : RecordStore) (now : Instant) (action : Action α) :
    s.view.Step (.transaction action) (s.call now (.transaction action)).1
      (s.call now (.transaction action)).2.view := by
  by_cases hclosed : s.snapshot = none
  · have hkept := kept_view_eq_none_iff.2 hclosed
    have hperforms := performs_run action { s with snapshot := some s.records }
    have hnotebook := notebook_actionRun action { s with snapshot := some s.records }
    simp only [call, inTransaction_of_closed hclosed]
    cases hrun : action.run { s with snapshot := some s.records } with
    | mk result s' =>
      rw [hrun] at hperforms hnotebook
      -- the action has run on records that were kept aside, which the map does not show: it keeps
      -- nothing aside for a transaction of its own
      cases result with
      | ok value =>
        have hview : ({ s' with snapshot := none } : RecordStore).view
            = { s.view with pages := contents s'.records } := by
          unfold view
          rw [hclosed, ← hnotebook]
        rw [hview]
        exact .transaction_ok hkept hperforms
      | error e =>
        have hview : ({ s' with records := s.records, snapshot := none } : RecordStore).view
            = s.view := by
          unfold view
          rw [hclosed, ← hnotebook]
        rw [hview]
        exact .transaction_error hkept hperforms
  · simp only [call, inTransaction_of_open hclosed]
    exact .transaction_open (mt kept_view_eq_none_iff.1 hclosed)

theorem step_call (s : RecordStore) (now : Instant) (c : Call α) :
    s.view.Step c (s.call now c).1 (s.call now c).2.view := by
  have hkept := kept_view_eq_none_iff (s := s)
  cases c with
  | access a =>
    simp only [call, view_access]
    exact .access (accesses_access { s with clock := now } a)
  | begin =>
    unfold call
    by_cases hclosed : s.snapshot = none
    · rw [begin_of_closed hclosed]
      exact .begin (hkept.2 hclosed)
    · rw [begin_of_open hclosed]
      exact .begin_open (mt hkept.1 hclosed)
  | commit =>
    unfold call
    by_cases hclosed : s.snapshot = none
    · rw [commit_of_closed hclosed]
      exact .commit_closed (hkept.2 hclosed)
    · rw [commit_of_open hclosed]
      exact .commit (mt hkept.1 hclosed)
  | rollBack =>
    unfold call
    cases hsnapshot : s.snapshot with
    | none =>
      rw [rollBack_of_closed hsnapshot]
      exact .rollBack_closed (hkept.2 hsnapshot)
    | some records =>
      rw [rollBack_of_open hsnapshot]
      exact .rollBack (congrArg (Option.map contents) hsnapshot)
  | transaction action => exact step_transaction s now action

theorem runs_run (s : RecordStore) (calls : List (Instant × Call α)) :
    s.view.Runs (calls.map (·.2)) (s.run calls).1 (s.run calls).2.view := by
  induction calls generalizing s with
  | nil => exact .nil
  | cons entry rest ih => exact .cons (step_call s entry.1 entry.2) (ih _)

/-! ### Going back -/

/-- What an open transaction goes back to stays until it is closed. -/
theorem snapshot_call {s : RecordStore} {records : IdMap PageRecord} (hopen : s.snapshot = some records)
    (now : Instant) {c : Call α} (hc : ¬c.Closes) : (s.call now c).2.snapshot = some records := by
  have hsome : s.snapshot ≠ none := hopen ▸ Option.some_ne_none _
  cases c with
  | access a => exact (snapshot_access _ a).trans hopen
  | begin =>
    simp only [call, begin_of_open hsome]
    exact hopen
  | commit => exact absurd trivial hc
  | rollBack => exact absurd trivial hc
  | transaction action =>
    simp only [call, inTransaction_of_open hsome]
    exact hopen

theorem snapshot_run {s : RecordStore} {records : IdMap PageRecord} (hopen : s.snapshot = some records)
    {calls : List (Instant × Call α)} (hcalls : ∀ entry ∈ calls, ¬entry.2.Closes) :
    (s.run calls).2.snapshot = some records := by
  induction calls generalizing s with
  | nil => exact hopen
  | cons entry rest ih =>
    obtain ⟨hentry, hrest⟩ := List.forall_mem_cons.1 hcalls
    exact ih (snapshot_call hopen entry.1 hentry) hrest

theorem run_append (s : RecordStore) (calls rest : List (Instant × Call α)) :
    (s.run (calls ++ rest)).2 = ((s.run calls).2.run rest).2 := by
  induction calls generalizing s with
  | nil => rfl
  | cons entry calls ih => exact ih _

/-- Rolling back brings back the records as they were when the transaction began. -/
theorem records_run_rollBack {s : RecordStore} (hclosed : s.snapshot = none)
    {calls : List (Instant × Call α)} (hcalls : ∀ entry ∈ calls, ¬entry.2.Closes)
    (begun ended : Instant) :
    (s.run ((begun, .begin) :: calls ++ [(ended, .rollBack)])).2.records = s.records ∧
    (s.run ((begun, .begin) :: calls ++ [(ended, .rollBack)])).2.snapshot = none := by
  have hbegun : (s.call begun (.begin : Call α)).2 = { s with snapshot := some s.records } := by
    simp only [call, begin_of_closed hclosed]
    rfl
  have hopen : (s.run ((begun, .begin) :: calls)).2.snapshot = some s.records := by
    show ((s.call begun .begin).2.run calls).2.snapshot = _
    -- begin keeps the records aside as they are, and no call until the end closes the transaction
    rw [hbegun]
    exact snapshot_run rfl hcalls
  rw [run_append]
  generalize (s.run ((begun, .begin) :: calls)).2 = opened at hopen ⊢
  simp only [run, call, rollBack_of_open hopen]
  exact ⟨rfl, rfl⟩

/-- A session of a store is a session of the map that it shows, and the only one. If a transaction is
begun in it, rolling back brings back the records as they were. -/
theorem run_as_map (s : RecordStore) (calls : List (Instant × Call α)) :
    (∀ replies m, s.view.Runs (calls.map (·.2)) replies m
      ↔ (s.run calls).1 = replies ∧ (s.run calls).2.view = m) ∧
    (s.snapshot = none → (∀ entry ∈ calls, ¬entry.2.Closes) → ∀ begun ended,
      (s.run ((begun, .begin) :: calls ++ [(ended, .rollBack)])).2.records = s.records ∧
      (s.run ((begun, .begin) :: calls ++ [(ended, .rollBack)])).2.snapshot = none) := by
  refine ⟨fun replies m => ⟨(runs_run s calls).unique, ?_⟩, fun hclosed hcalls begun ended =>
    records_run_rollBack hclosed hcalls begun ended⟩
  rintro ⟨rfl, rfl⟩
  exact runs_run s calls

section Filed

/-- A store with a page. -/
def filed : RecordStore := { empty with records := .ofList [("q", ⟨"n", "kept", .epoch⟩)] }

/-- Calls that write a page, begin a second transaction in two ways, and remove the first page. -/
def filedCalls : List (Instant × Call Unit) :=
  [(.epoch, .access (.putText "p" "n" "new")), (.epoch, .begin),
   (.epoch, .transaction (.access .epoch (.remove "p") fun _ => .finish (.ok ()))),
   (.epoch, .access (.remove "q"))]

/-- The page is gone, the one written is not, and rolling back brings the page back. -/
theorem run_as_map_filed :
    filed.snapshot = none ∧ (∀ entry ∈ filedCalls, ¬entry.2.Closes) ∧
    (filed.run ((.epoch, .begin) :: filedCalls)).2.get? "q" = none ∧
    ((filed.run ((.epoch, .begin) :: filedCalls)).2.get? "p").map (·.text) = some "new" ∧
    (filed.run ((.epoch, .begin) :: filedCalls ++ [(.epoch, .rollBack)])).2.records = filed.records := by
  have hcalls : ∀ entry ∈ filedCalls, ¬entry.2.Closes := by simp [filedCalls, Call.Closes]
  exact ⟨rfl, hcalls, rfl, rfl, ((run_as_map filed filedCalls).2 rfl hcalls .epoch .epoch).1⟩

end Filed

end RecordStore

end Databook
