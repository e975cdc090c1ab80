import Databook.Proofs.Display.Option
import Databook.Proofs.Document.RowEdits
import Databook.Proofs.Validation.References
import Databook.Proofs.Validation.Severity

/-!
# Edits of documents that pass the strict check

A document passes the strict check if nothing is wrong with any of its parts (`Document.Passes`). It
still passes after one of its select properties has got more options (`Passes.replaceProperty`), and
after a cell has been written nothing is wrong with it but what is wrong with the cell
(`Passes.mem_problems_setCell`).
-/

namespace Databook

open Text
open Calendar (Instant)

/-! ### What passes the strict check -/

theorem repeated_eq_nil_iff [BEq α] [LawfulBEq α] {before l : List α} :
    repeated before l = [] ↔ l.Nodup ∧ ∀ a ∈ l, a ∉ before := by
  refine ⟨nodup_of_repeated, ?_⟩
  rintro ⟨hnodup, hapart⟩
  induction l generalizing before with
  | nil => rfl
  | cons a as ih =>
    obtain ⟨hnew, hrest⟩ := List.nodup_cons.1 hnodup
    have ha : before.contains a = false := by
      simpa using hapart a List.mem_cons_self
    rw [repeated, if_neg (by rw [ha]; exact Bool.false_ne_true)]
    refine ih hrest fun b hb hmem => ?_
    rcases List.mem_cons.1 hmem with rfl | hmem
    · exact hnew hb
    · exact hapart b (List.mem_cons_of_mem _ hb) hmem

theorem idProblems_eq_nil_iff {scope : IdScope} {ids : List String} :
    idProblems scope ids = [] ↔ ids.Nodup := by
  rw [idProblems, List.map_eq_nil_iff, repeated_eq_nil_iff]
  exact and_iff_left fun _ _ => List.not_mem_nil

namespace Document

/-- Is nothing wrong with any part of the document? -/
structure Passes (d : Document) : Prop where
  propertyIds : (d.properties.map (·.id)).Nodup
  rowIds : (d.rows.map (·.id)).Nodup
  viewIds : (d.views.map (·.id)).Nodup
  names : (d.properties.map (·.name)).Nodup
  kinds : ∀ p ∈ d.properties, d.kindProblems p = []
  hasViews : d.views.isEmpty = false
  views : ∀ v ∈ d.views, d.viewProblems v = []
  rows : ∀ r ∈ d.rows, d.rowProblems r = []

variable {d d' : Document}

theorem propertyProblems_eq_nil_iff {names : List String} {properties : List Property} :
    d.propertyProblems names properties = [] ↔
      repeated names (properties.map (·.name)) = [] ∧ ∀ p ∈ properties, d.kindProblems p = [] := by
  induction properties generalizing names with
  | nil => simp [propertyProblems, repeated]
  | cons p ps ih =>
    rw [propertyProblems, List.append_eq_nil_iff, List.append_eq_nil_iff, ih, List.map_cons,
      List.forall_mem_cons, repeated]
    split
    · simp
    · simp only [true_and]
      exact and_left_comm

theorem problems_eq_nil_iff : d.problems = [] ↔ d.Passes := by
  have hviews : (if d.views.isEmpty then [.noViews] else d.views.flatMap d.viewProblems) = [] ↔
      d.views.isEmpty = false ∧ ∀ v ∈ d.views, d.viewProblems v = [] := by
    split
    · next hempty => simp [hempty]
    · next hempty => simp [hempty, List.flatMap_eq_nil_iff]
  simp only [problems, List.append_eq_nil_iff, idProblems_eq_nil_iff, propertyProblems_eq_nil_iff,
    repeated_eq_nil_iff, hviews, List.flatMap_eq_nil_iff]
  constructor
  · rintro ⟨⟨⟨⟨⟨hproperties, hrows⟩, hviews⟩, ⟨hnames, -⟩, hkinds⟩, hhas, hviews'⟩, hrows'⟩
    exact ⟨hproperties, hrows, hviews, hnames, hkinds, hhas, hviews', hrows'⟩
  · intro h
    exact ⟨⟨⟨⟨⟨h.propertyIds, h.rowIds⟩, h.viewIds⟩, ⟨h.names, fun _ _ => List.not_mem_nil⟩,
      h.kinds⟩, h.hasViews, h.views⟩, h.rows⟩

theorem isOk_validate_true_iff : (d.validate true).isOk = true ↔ d.Passes := by
  rw [Report.isOk, List.isEmpty_iff, errors_validate_true, problems_eq_nil_iff]

/-! ### Columns that look the same -/

end Document

/-- What the checks of other parts of a document see of a property. -/
def Property.face (p : Property) : String × PropertyType × Option Relation :=
  (p.name, p.type, p.relation?)

namespace Document

/-- Have the two documents columns that look the same from other parts of the documents? -/
structure SameFaces (d d' : Document) : Prop where
  columns : ∀ id, (d'.property? id).map Property.face = (d.property? id).map Property.face
  names : ∀ name, (d'.propertyNamed? name).isNone = (d.propertyNamed? name).isNone

namespace SameFaces

variable {d d' : Document} (h : d.SameFaces d')
include h

theorem isNone_property? (id : String) : (d'.property? id).isNone = (d.property? id).isNone := by
  have hfaces := congrArg Option.isNone (h.columns id)
  rwa [Option.isNone_map, Option.isNone_map] at hfaces

/-- A property that is looked up is missing in both documents, or looks the same in both. -/
theorem property?_cases (id : String) :
    (d.property? id = none ∧ d'.property? id = none) ∨
      ∃ p p', d.property? id = some p ∧ d'.property? id = some p' ∧
        p'.name = p.name ∧ p'.type = p.type ∧ p'.relation? = p.relation? := by
  have hfaces := h.columns id
  cases hp : d.property? id with
  | none =>
    rw [hp, Option.map_none, Option.map_eq_none_iff] at hfaces
    exact .inl ⟨rfl, hfaces⟩
  | some p =>
    rw [hp, Option.map_some, Option.map_eq_some_iff] at hfaces
    obtain ⟨p', hp', hface⟩ := hfaces
    exact .inr ⟨p, p', rfl, hp', by simpa [Property.face] using hface⟩

theorem formulaProblems_eq (name expression : String) :
    d'.formulaProblems name expression = d.formulaProblems name expression := by
  unfold formulaProblems
  simp only [h.names]

theorem rollupProblems_eq (name : String) (rollup : Rollup) :
    d'.rollupProblems name rollup = d.rollupProblems name rollup := by
  unfold rollupProblems
  rcases h.property?_cases rollup.relation with ⟨hp, hp'⟩ | ⟨p, p', hp, hp', hname, -, hrelation⟩
  · rw [hp, hp']
  · rw [hp, hp']
    simp only [hname, hrelation]

theorem kindProblems_eq (p : Property) : d'.kindProblems p = d.kindProblems p := by
  unfold kindProblems
  cases p.kind with
  | rollup rollup => exact h.rollupProblems_eq p.name rollup
  | formula expression => exact h.formulaProblems_eq p.name expression
  | _ => rfl

theorem summaryProblems_eq (v : View) (property : String) (a : Aggregation) :
    d'.summaryProblems v property a = d.summaryProblems v property a := by
  unfold summaryProblems
  rcases h.property?_cases property with ⟨hp, hp'⟩ | ⟨p, p', hp, hp', hname, htype, -⟩
  · rw [hp, hp']
  · rw [hp, hp']
    simp only [hname, htype]

theorem viewProblems_eq (v : View) : d'.viewProblems v = d.viewProblems v := by
  unfold viewProblems roleProblems
  simp only [h.isNone_property?, h.summaryProblems_eq]

end SameFaces

end Document

/-! ### More options -/

namespace Property

/-- Is a property the other one, but that it may have more options? -/
def MoreOptions (p p' : Property) : Prop :=
  ∃ added, p' = p.withOptions (p.options ++ added)

namespace MoreOptions

variable {p p' : Property} (h : p.MoreOptions p')
include h

theorem id_eq : p'.id = p.id := by
  obtain ⟨added, rfl⟩ := h
  unfold withOptions
  split <;> rfl

theorem face_eq : p'.face = p.face := by
  obtain ⟨added, rfl⟩ := h
  obtain ⟨id, name, kind, formats, extra⟩ := p
  cases kind <;> rfl

theorem isComputed_eq : p'.isComputed = p.isComputed := by
  obtain ⟨added, rfl⟩ := h
  obtain ⟨id, name, kind, formats, extra⟩ := p
  cases kind <;> rfl

theorem expectation?_eq (c : Cell) : p'.expectation? c = p.expectation? c := by
  obtain ⟨added, rfl⟩ := h
  obtain ⟨id, name, kind, formats, extra⟩ := p
  cases kind with
  | select options | multiSelect options => cases c <;> rfl
  | _ => rfl

theorem namedOptions_eq (c : Cell) : p'.namedOptions c = p.namedOptions c := by
  obtain ⟨added, rfl⟩ := h
  obtain ⟨id, name, kind, formats, extra⟩ := p
  cases kind with
  | select options | multiSelect options => cases c <;> rfl
  | _ => rfl

theorem optionLabel?_eq_some {id label : String} (hlabel : p.optionLabel? id = some label) :
    p'.optionLabel? id = some label := by
  obtain ⟨added, rfl⟩ := h
  obtain ⟨o, ho, rfl⟩ := Option.map_eq_some_iff.1 hlabel
  obtain ⟨_, name, kind, formats, extra⟩ := p
  cases kind with
  | select options | multiSelect options =>
    have hoptions : options.find? (·.id == id) = some o := ho
    have hmore : (options ++ added).find? (·.id == id) = some o := by
      rw [List.find?_append, hoptions, Option.some_or]
    exact congrArg (Option.map (·.label)) hmore
  | _ => cases ho

/-- A cell that was in order stays in order. -/
theorem cellProblems_eq_nil {row : String} {c : Cell} (hc : p.cellProblems row c = []) :
    p'.cellProblems row c = [] := by
  unfold cellProblems at hc ⊢
  rw [h.isComputed_eq, h.expectation?_eq, h.namedOptions_eq]
  split
  · rfl
  next hnull =>
  rw [if_neg hnull] at hc
  split
  · next hcomputed =>
    rw [if_pos hcomputed] at hc
    cases hc
  next hstored =>
  rw [if_neg hstored] at hc
  -- the value is of the right kind, and the options that it names are there still
  split at hc
  · cases hc
  · rw [List.map_eq_nil_iff, List.filter_eq_nil_iff] at hc ⊢
    intro id hid
    obtain ⟨label, hlabel⟩ := Option.ne_none_iff_exists'.1 (by simpa using hc id hid)
    simp [h.optionLabel?_eq_some hlabel]

end MoreOptions

end Property

namespace Document

variable {d d' : Document} {p p' : Property}

/-- Only one property has an id. -/
theorem Passes.eq_of_id {q : Property} (hd : d.Passes) (hp : p ∈ d.properties)
    (hq : q ∈ d.properties) (hid : p.id = q.id) : q = p := by
  have hfound := (property?_eq_some_iff hd.propertyIds).2 ⟨hp, hid⟩
  exact Option.some_inj.1 (((property?_eq_some_iff hd.propertyIds).2 ⟨hq, rfl⟩).symm.trans hfound)

/-! ### Putting a property in place of another one -/

section ReplaceProperty

variable (hd : d.Passes) (hmore : p.MoreOptions p')
include hd hmore

/-- The property with more options stands where the other one stood. -/
theorem properties_replaceProperty : (d.replaceProperty p').properties
    = d.properties.map fun q => if p.id = q.id then p' else q := by
  rw [← hmore.id_eq]
  exact modifyFirst_eq_map hd.propertyIds p'.id fun _ => p'

theorem property?_replaceProperty (id : String) : (d.replaceProperty p').property? id
    = (d.property? id).map fun q => if p.id = q.id then p' else q := by
  have hid : ∀ q : Property, (if p.id = q.id then p' else q).id = q.id := by
    intro q
    split
    · next heq => exact hmore.id_eq.trans heq
    · rfl
  rw [property?, properties_replaceProperty hd hmore, List.find?_map, property?]
  refine congrArg (Option.map _) (congrArg (List.find? · d.properties) (funext fun q => ?_))
  simp only [Function.comp_apply, hid]

variable (hp : p ∈ d.properties)
include hp

theorem face_replaced {q : Property} (hq : q ∈ d.properties) :
    (if p.id = q.id then p' else q).face = q.face := by
  split
  · next hid =>
    rw [hd.eq_of_id hp hq hid]
    exact hmore.face_eq
  · rfl

theorem map_name_replaceProperty :
    (d.replaceProperty p').properties.map (·.name) = d.properties.map (·.name) := by
  rw [properties_replaceProperty hd hmore, List.map_map]
  exact List.map_congr_left fun q hq => congrArg Prod.fst (face_replaced hd hmore hp hq)

theorem sameFaces_replaceProperty : d.SameFaces (d.replaceProperty p') where
  columns id := by
    rw [property?_replaceProperty hd hmore, Option.map_map]
    refine Option.map_congr fun q hq => ?_
    exact face_replaced hd hmore hp (List.mem_of_find?_eq_some hq)
  names name := by
    rw [Bool.eq_iff_iff, Option.isNone_iff_eq_none, Option.isNone_iff_eq_none, propertyNamed?,
      propertyNamed?, find?_key_eq_none_iff, find?_key_eq_none_iff,
      map_name_replaceProperty hd hmore hp]

theorem rowProblems_replaceProperty {r : Row} (hr : d.rowProblems r = []) :
    (d.replaceProperty p').rowProblems r = [] := by
  unfold rowProblems at hr ⊢
  rw [List.flatMap_eq_nil_iff] at hr ⊢
  rintro ⟨id, c⟩ hentry
  have hcell := hr (id, c) hentry
  simp only [property?_replaceProperty hd hmore] at hcell ⊢
  cases hproperty : d.property? id with
  | none =>
    rw [hproperty] at hcell
    cases hcell
  | some q =>
    rw [hproperty] at hcell
    simp only [Option.map_some]
    -- a cell of another property is checked as before
    split
    · next hid =>
      obtain rfl := hd.eq_of_id hp (List.mem_of_find?_eq_some hproperty) hid
      exact hmore.cellProblems_eq_nil hcell
    · exact hcell

/-- A document still passes after a property has got more options, if their ids are distinct. -/
theorem Passes.replaceProperty (hkind : d.kindProblems p' = []) :
    (d.replaceProperty p').Passes where
  propertyIds := by
    rw [properties_replaceProperty hd hmore, List.map_map]
    refine (List.map_congr_left fun q _ => ?_).symm ▸ hd.propertyIds
    rw [Function.comp_apply]
    split
    · next hid => exact hmore.id_eq.trans hid
    · rfl
  rowIds := hd.rowIds
  viewIds := hd.viewIds
  names := by
    rw [map_name_replaceProperty hd hmore hp]
    exact hd.names
  kinds q hq := by
    rw [properties_replaceProperty hd hmore] at hq
    rw [(sameFaces_replaceProperty hd hmore hp).kindProblems_eq]
    obtain ⟨old, hold, rfl⟩ := List.mem_map.1 hq
    split
    · exact hkind
    · exact hd.kinds old hold
  hasViews := hd.hasViews
  views v hv := by
    rw [(sameFaces_replaceProperty hd hmore hp).viewProblems_eq]
    exact hd.views v hv
  rows r hr := rowProblems_replaceProperty hd hmore hp (hd.rows r hr)

end ReplaceProperty

/-! ### Writing a cell -/

section SetCell

variable {r : Row} {c : Cell} {now : Instant}

theorem setCell_eq_ok (hd : d.Passes) (hp : d.property? p.id = some p)
    (hstored : p.isComputed = false) (hr : r ∈ d.rows) (c : Cell) (now : Instant) :
    d.setCell r.id p.id c now = .ok (d.modifyRow r.id (·.setCell p.id c now)) := by
  rw [setCell, hp, (row?_eq_some_iff hd.rowIds).2 ⟨hr, rfl⟩]
  simp only [hstored, Bool.false_eq_true, if_false, Option.isNone_some]

theorem rows_modifyRow (hd : d.Passes) (id : String) (f : Row → Row) :
    (d.modifyRow id f).rows = d.rows.map fun old => if id = old.id then f old else old :=
  modifyFirst_eq_map hd.rowIds id f

theorem map_id_modifyRow (hd : d.Passes) (id : String) {f : Row → Row}
    (hf : ∀ old, (f old).id = old.id) :
    (d.modifyRow id f).rows.map (·.id) = d.rows.map (·.id) := by
  rw [rows_modifyRow hd, List.map_map]
  refine List.map_congr_left fun old _ => ?_
  rw [Function.comp_apply]
  split
  · exact hf old
  · rfl

theorem rowProblems_setCell_subset (hp : d.property? p.id = some p) (hr : d.rowProblems r = []) :
    ∀ problem ∈ d.rowProblems (r.setCell p.id c now), problem ∈ p.cellProblems r.id c := by
  intro problem hproblem
  obtain ⟨⟨id, held⟩, hentry, hproblem⟩ := List.mem_flatMap.1 hproblem
  have hold : (id, held) ∈ r.cells.entries → problem ∈ p.cellProblems r.id c := fun hmem => by
    have hnone := List.flatMap_eq_nil_iff.1 hr (id, held) hmem
    rw [show (r.setCell p.id c now).id = r.id from rfl] at hproblem
    rw [hnone] at hproblem
    cases hproblem
  unfold Row.setCell at hentry
  simp only at hentry
  split at hentry
  · exact hold (List.mem_filter.1 hentry).1
  · rcases IdMap.mem_of_mem_entries_insert hentry with heq | hmem
    · cases heq
      simp only [hp] at hproblem
      exact hproblem
    · exact hold hmem

theorem cellProblems_subset_setCell (hp : d.property? p.id = some p) :
    ∀ problem ∈ p.cellProblems r.id c, problem ∈ d.rowProblems (r.setCell p.id c now) := by
  intro problem hproblem
  have hnull : c.isNull = false := by
    cases c with
    | null => cases hproblem
    | _ => rfl
  have hentry : (p.id, c) ∈ (r.setCell p.id c now).cells.entries := by
    rw [← IdMap.get?_eq_some_iff, Row.setCell]
    simp only [hnull, Bool.false_eq_true, if_false, IdMap.get?_insert, if_true]
  refine List.mem_flatMap.2 ⟨(p.id, c), hentry, ?_⟩
  simp only [hp]
  exact hproblem

/-- With other rows in a document that passes, only what is wrong with the rows is wrong with it. -/
theorem Passes.problems_withRows (hd : d.Passes) {rows : List Row}
    (hids : (rows.map (·.id)).Nodup) : { d with rows }.problems = rows.flatMap d.rowProblems := by
  have hproperties : { d with rows }.propertyProblems [] d.properties = [] :=
    propertyProblems_eq_nil_iff.2
      ⟨repeated_eq_nil_iff.2 ⟨hd.names, fun _ _ => List.not_mem_nil⟩, hd.kinds⟩
  have hviews : d.views.flatMap { d with rows }.viewProblems = [] :=
    List.flatMap_eq_nil_iff.2 hd.views
  rw [problems, idProblems_eq_nil_iff.2 hd.propertyIds, idProblems_eq_nil_iff.2 hids,
    idProblems_eq_nil_iff.2 hd.viewIds, hproperties, hd.hasViews, hviews]
  rfl

/-- After a cell has been written into a document that passes, nothing is wrong with it but what is
wrong with the cell. -/
theorem Passes.mem_problems_setCell (hd : d.Passes) (hp : d.property? p.id = some p)
    (hr : r ∈ d.rows) {problem : Problem} :
    problem ∈ (d.modifyRow r.id (·.setCell p.id c now)).problems ↔
      problem ∈ p.cellProblems r.id c := by
  have hids := map_id_modifyRow (f := (·.setCell p.id c now)) hd r.id fun _ => rfl
  have hproblems := hd.problems_withRows (hids.symm ▸ hd.rowIds)
  rw [show (d.modifyRow r.id (·.setCell p.id c now)).problems = _ from hproblems, rows_modifyRow hd,
    List.mem_flatMap]
  constructor
  · rintro ⟨changed, hchanged, hproblem⟩
    obtain ⟨old, hold, rfl⟩ := List.mem_map.1 hchanged
    -- a row that has not been written to was in order
    split at hproblem
    · next hid =>
      rw [hid]
      exact rowProblems_setCell_subset hp (hd.rows old hold) problem hproblem
    · rw [hd.rows old hold] at hproblem
      cases hproblem
  · intro hproblem
    refine ⟨r.setCell p.id c now, List.mem_map.2 ⟨r, hr, if_pos rfl⟩, ?_⟩
    exact cellProblems_subset_setCell hp problem hproblem

/-- A property of a document that passes gets more options, and one of its cells is written. Nothing
is wrong with the outcome but what is wrong with the cell. -/
theorem exists_setCell_replaceProperty (hd : d.Passes) (hp : p ∈ d.properties)
    (hmore : p.MoreOptions p') (hkind : d.kindProblems p' = []) (hstored : p.isComputed = false)
    (hr : r ∈ d.rows) (c : Cell) (now : Instant) :
    ∃ d' r', (d.replaceProperty p').setCell r.id p.id c now = .ok d' ∧
      d'.row? r.id = some r' ∧ r'.cell p.id = c ∧
      ∀ problem, problem ∈ (d'.validate true).errors ↔ problem ∈ p'.cellProblems r.id c := by
  have hpasses := hd.replaceProperty hmore hp hkind
  have hproperty : (d.replaceProperty p').property? p'.id = some p' := by
    rw [property?_replaceProperty_self, hmore.id_eq,
      (property?_eq_some_iff hd.propertyIds).2 ⟨hp, rfl⟩, Option.map_some]
  have hset := setCell_eq_ok hpasses hproperty (hmore.isComputed_eq.trans hstored) hr c now
  obtain ⟨-, r', hrow, hcell⟩ := written_of_setCell hset
  rw [← hmore.id_eq]
  refine ⟨_, r', hset, hrow, hcell, fun problem => ?_⟩
  rw [errors_validate_true]
  exact hpasses.mem_problems_setCell hproperty hr

end SetCell

end Document

end Databook
