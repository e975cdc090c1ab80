import Databook.Proofs.Columns.FormulaReadings
import Mathlib.Data.List.Forall2

/-!
# Changed formulas do not reach other columns

The formulas of some columns of a document are changed: they get other errors, lie on circles, or take
other places in the order. A formula column that does not refer to one of them, directly or through
other formula columns, stays as it is on every row (`Document.formulaValues_isolated`). Such a column is
free of the changes, and so are the columns that it refers to; the values of these come earlier in the
order, so that an induction over the order shows that the values of free columns stay
(`Document.shows_of_sameButFormulas`).
-/

namespace Databook

open Formula (Expr Context Function)
open Calendar (Date)

/-- Two properties that are the same, or formula columns whose change is allowed and which differ in
nothing but the formula. -/
def Property.SameButFormula (changed : String → Prop) (p p' : Property) : Prop :=
  p' = p ∨ changed p.id ∧ ∃ text text', p.kind = .formula text ∧ p' = { p with kind := .formula text' }

/-- Two documents that differ at most in the formulas of some columns, as far as formulas see them. -/
structure Document.SameButFormulas (changed : String → Prop) (d d' : Document) : Prop where
  properties : List.Forall₂ (Property.SameButFormula changed) d.properties d'.properties
  rows : d'.rows = d.rows

/-- Ids and names are used once, and no name is that of a function. -/
structure Document.Unambiguous (d : Document) : Prop where
  ids : (d.properties.map (·.id)).Nodup
  names : (d.properties.map (·.name)).Nodup
  plain : ∀ p ∈ d.properties, Function.isName p.name = false
  rows : (d.rows.map (·.id)).Nodup

/-- Is `q` a formula column whose name stands in the formula of `p`? -/
def Document.Refers (d : Document) (p q : Property) : Prop :=
  p ∈ d.properties ∧ q ∈ d.properties ∧ q.formula?.isSome = true ∧
    ∃ text e, p.formula? = some text ∧ FormulaPlan.readFormula text = .ok (some e) ∧ q.name ∈ e.columns

variable {changed : String → Prop}

namespace Property.SameButFormula

variable {p p' : Property}

theorem symm (h : p.SameButFormula changed p') : p'.SameButFormula changed p := by
  rcases h with rfl | ⟨hchanged, text, text', hkind, rfl⟩
  · exact .inl rfl
  · refine .inr ⟨hchanged, text', text, rfl, ?_⟩
    rw [← hkind]

theorem id_eq (h : p.SameButFormula changed p') : p'.id = p.id := by
  rcases h with rfl | ⟨-, text, text', -, rfl⟩ <;> rfl

theorem name_eq (h : p.SameButFormula changed p') : p'.name = p.name := by
  rcases h with rfl | ⟨-, text, text', -, rfl⟩ <;> rfl

theorem isSome_formula? (h : p.SameButFormula changed p') : p'.formula?.isSome = p.formula?.isSome := by
  rcases h with rfl | ⟨-, text, text', hkind, rfl⟩
  · rfl
  · unfold Property.formula?
    rw [hkind]
    rfl

theorem seenValue_eq (h : p.SameButFormula changed p') (row : Row) (columns : ColumnValues) :
    p'.seenValue row columns = p.seenValue row columns := by
  rcases h with rfl | ⟨-, text, text', hkind, rfl⟩
  · rfl
  · unfold Property.seenValue
    rw [hkind]

theorem eq_of_unchanged (h : p.SameButFormula changed p') (hfree : ¬ changed p.id) : p' = p :=
  h.resolve_right fun hchange => hfree hchange.1

end Property.SameButFormula

namespace Document

variable {d d' : Document} {p q : Property} {row : Row}

/-! ### Two such documents -/

theorem exists_mem_of_forall₂ {R : Property → Property → Prop} {ps ps' : List Property}
    (h : List.Forall₂ R ps ps') (hp : p ∈ ps) : ∃ p' ∈ ps', R p p' := by
  induction h with
  | nil => cases hp
  | cons hhead _ ih =>
    rcases List.mem_cons.1 hp with rfl | hp
    · exact ⟨_, List.mem_cons_self, hhead⟩
    · obtain ⟨p', hp', hsame⟩ := ih hp
      exact ⟨p', List.mem_cons_of_mem _ hp', hsame⟩

namespace SameButFormulas

theorem symm (h : d.SameButFormulas changed d') : d'.SameButFormulas changed d :=
  ⟨(h.properties.imp fun _ _ => Property.SameButFormula.symm).flip, h.rows.symm⟩

theorem exists_mem (h : d.SameButFormulas changed d') (hp : p ∈ d.properties) :
    ∃ p' ∈ d'.properties, p.SameButFormula changed p' :=
  exists_mem_of_forall₂ h.properties hp

theorem mem_of_unchanged (h : d.SameButFormulas changed d') (hp : p ∈ d.properties)
    (hfree : ¬ changed p.id) : p ∈ d'.properties := by
  obtain ⟨p', hp', hsame⟩ := h.exists_mem hp
  rwa [hsame.eq_of_unchanged hfree] at hp'

theorem map_eq {β : Type} (h : d.SameButFormulas changed d') {key : Property → β}
    (hkey : ∀ p p', Property.SameButFormula changed p p' → key p' = key p) :
    d'.properties.map key = d.properties.map key := by
  rw [← List.forall₂_eq_eq_eq, List.forall₂_map_left_iff, List.forall₂_map_right_iff]
  exact h.symm.properties.imp fun p' p hsame => hkey p p' hsame.symm

theorem map_id_eq (h : d.SameButFormulas changed d') :
    d'.properties.map (·.id) = d.properties.map (·.id) := h.map_eq fun _ _ hsame => hsame.id_eq

theorem map_name_eq (h : d.SameButFormulas changed d') :
    d'.properties.map (·.name) = d.properties.map (·.name) := h.map_eq fun _ _ hsame => hsame.name_eq

theorem propertyNamed?_eq_none (h : d.SameButFormulas changed d') {name : String}
    (hnone : d.propertyNamed? name = none) : d'.propertyNamed? name = none := by
  rw [propertyNamed?, List.find?_eq_none] at hnone ⊢
  intro p' hp'
  obtain ⟨p, hp, hsame⟩ := h.symm.exists_mem hp'
  rw [← hsame.name_eq]
  exact hnone p hp

theorem unambiguous (h : d.SameButFormulas changed d') (hd : d.Unambiguous) : d'.Unambiguous where
  ids := h.map_id_eq ▸ hd.ids
  names := h.map_name_eq ▸ hd.names
  plain p' hp' := by
    obtain ⟨p, hp, hsame⟩ := h.symm.exists_mem hp'
    rw [← hsame.name_eq]
    exact hd.plain p hp
  rows := h.rows ▸ hd.rows

theorem exists_propertyNamed? (h : d.SameButFormulas changed d')
    (hnames : (d.properties.map (·.name)).Nodup) (hq : q ∈ d.properties) :
    ∃ q', d'.propertyNamed? q.name = some q' ∧ q.SameButFormula changed q' := by
  obtain ⟨q', hq', hsame⟩ := h.exists_mem hq
  exact ⟨q', (propertyNamed?_eq_some_iff (h.map_name_eq ▸ hnames)).2 ⟨hq', hsame.name_eq⟩, hsame⟩

/-- The columns that an unchanged formula refers to, step by step, are the same in both documents as
long as none of them is changed. -/
theorem reflTransGen (h : d.SameButFormulas changed d')
    (hfree : ∀ q, Relation.ReflTransGen d.Refers p q → ¬ changed q.id)
    (hreach : Relation.ReflTransGen d'.Refers p q) : Relation.ReflTransGen d.Refers p q := by
  induction hreach with
  | refl => exact .refl
  | tail _ hstep ih =>
    obtain ⟨ha, hb, hformula, text, e, htext, hread, hname⟩ := hstep
    obtain ⟨b, hb, hsame⟩ := h.symm.exists_mem hb
    have ha := h.symm.mem_of_unchanged ha (hfree _ ih)
    have hrefers : d.Refers _ b :=
      ⟨ha, hb, by rw [hsame.isSome_formula?, hformula], text, e, htext, hread, by rwa [hsame.name_eq]⟩
    rw [hsame.symm.eq_of_unchanged (hfree b (ih.tail hrefers))]
    exact ih.tail hrefers

end SameButFormulas

theorem Unambiguous.firstOnly (hd : d.Unambiguous) (name : String) : d.FirstOnly name := by
  rintro q hq - rfl
  exact ⟨(propertyNamed?_eq_some_iff hd.names).2 ⟨hq, rfl⟩, hd.plain q hq⟩

/-! ### Values that stay -/

section Shows

variable {columns : ColumnValues} {today : Date} {expression : String} {e : Expr}

/-- A formula that has a value reads no error. -/
theorem reading?_ne_error (hd : d.Unambiguous) (hrow : row ∈ d.rows) (hp : p ∈ d.properties)
    (hformula : p.formula? = some expression)
    (hread : FormulaPlan.readFormula expression = .ok (some e)) {value : Cell}
    (hshows : (d.formulaValues columns today).Shows row.id p.id (.ok value)) :
    ∀ name ∈ e.columns, ∀ error,
      d.reading? row columns (d.formulaValues columns today) p name ≠ some (.error error) := by
  intro name hname error hreading
  obtain ⟨error', herror, -⟩ :=
    shows_error_of_reading hd.ids hd.rows hrow hp hformula hread hname hreading
  cases hshows.unique herror

/-- The value of a formula that reads the same in another document is its value there. -/
theorem shows_of_same_readings (hd : d.Unambiguous) (hd' : d'.Unambiguous) (hrow : row ∈ d.rows)
    (hrow' : row ∈ d'.rows) (hp : p ∈ d.properties) (hp' : p ∈ d'.properties)
    (hformula : p.formula? = some expression)
    (hread : FormulaPlan.readFormula expression = .ok (some e))
    (hsame : ∀ name ∈ e.columns, d'.reading? row columns (d'.formulaValues columns today) p name
      = d.reading? row columns (d.formulaValues columns today) p name) {value : Cell}
    (hshows : (d.formulaValues columns today).Shows row.id p.id (.ok value)) :
    (d'.formulaValues columns today).Shows row.id p.id (.ok value) := by
  have hfine := reading?_ne_error hd hrow hp hformula hread hshows
  have hfine' : ∀ name ∈ e.columns, ∀ error,
      d'.reading? row columns (d'.formulaValues columns today) p name ≠ some (.error error) := by
    intro name hname error
    rw [hsame name hname]
    exact hfine name hname error
  obtain ⟨context, hcontext, hgives⟩ :=
    shows_of_readings hd.ids hd.rows hrow hp hformula hread hfine
  obtain ⟨context', hcontext', hgives'⟩ :=
    shows_of_readings hd'.ids hd'.rows hrow' hp' hformula hread hfine'
  have hagree : Context.Agree context' context e.columns := by
    intro name hname
    have heq := (hcontext' name hname).trans ((hsame name hname).trans (hcontext name hname).symm)
    exact Option.map_injective (fun _ _ => Except.ok.inj) heq
  have hvalue : formulaValue today context' expression = formulaValue today context expression := by
    refine formulaValue_congr today expression fun e' hread' => ?_
    rw [hread] at hread'
    cases hread'
    exact hagree
  rwa [hvalue, ← hshows.unique hgives] at hgives'

/-- What the property of a name shows stays if it is no error and, for a formula column, its value
stays. -/
theorem firstNamed?_of_sameButFormulas (h : d.SameButFormulas changed d') (hd : d.Unambiguous)
    (hrow : row ∈ d.rows) {name : String}
    (hfine : ∀ error,
      d.firstNamed? row columns (d.formulaValues columns today) name ≠ some (.error error))
    (hstays : ∀ q ∈ d.properties, q.name = name → q.formula?.isSome = true → ∀ value,
      (d.formulaValues columns today).Shows row.id q.id (.ok value) →
        (d'.formulaValues columns today).Shows row.id q.id (.ok value)) :
    d'.firstNamed? row columns (d'.formulaValues columns today) name
      = d.firstNamed? row columns (d.formulaValues columns today) name := by
  unfold firstNamed? at hfine ⊢
  cases hnamed : d.propertyNamed? name with
  | none => rw [h.propertyNamed?_eq_none hnamed]; rfl
  | some q =>
    obtain ⟨hq, rfl⟩ := (propertyNamed?_eq_some_iff hd.names).1 hnamed
    obtain ⟨q', hnamed', hsame⟩ := h.exists_propertyNamed? hd.names hq
    rw [hnamed, Option.bind_some] at hfine
    rw [hnamed', Option.bind_some, Option.bind_some, hsame.isSome_formula?, hsame.id_eq]
    by_cases hformula : q.formula?.isSome = true
    · rw [if_pos hformula] at hfine
      rw [if_pos hformula, if_pos hformula]
      obtain ⟨shown, hshows⟩ := exists_shows hd.ids hd.rows columns today hrow hq hformula
      cases shown with
      | error error => exact absurd (by rw [hshows.1]) (hfine error)
      | ok value =>
        have hshows' := hstays q hq rfl hformula value hshows
        rw [hshows.1, hshows.2, hshows'.1, hshows'.2]
    · rw [if_neg hformula, if_neg hformula, hsame.seenValue_eq]

/-- A formula column that a formula refers to comes before it if it has a value. -/
theorem Refers.idxOf_lt (hd : d.Unambiguous) (hrow : row ∈ d.rows) (h : d.Refers p q) {value : Cell}
    (hvalue : (d.formulaValues columns today).value? row.id q.id = some value) :
    (d.formulaValues columns today).order.idxOf q.id
      < (d.formulaValues columns today).order.idxOf p.id := by
  obtain ⟨hp, hq, hqformula, text, e, hformula, hread, hname⟩ := h
  have hused := (mem_usesOf_iff_usedAs? hread).2
    ⟨q.name, hname, usedAs?_of_firstOnly hq hqformula (hd.firstOnly q.name)⟩
  exact FormulaPlan.idxOf_lt_of_mem_takeWhile
    (mem_takeWhile_order hd.ids hd.rows hrow hp hformula hused hvalue)

/-- The value of a column that does not refer to a changed one stays. -/
theorem shows_of_sameButFormulas (h : d.SameButFormulas changed d') (hd : d.Unambiguous)
    (hrow : row ∈ d.rows) (hp : p ∈ d.properties)
    (hfree : ∀ q, Relation.ReflTransGen d.Refers p q → ¬ changed q.id)
    (hformula : p.formula?.isSome = true) {value : Cell}
    (hshows : (d.formulaValues columns today).Shows row.id p.id (.ok value)) :
    (d'.formulaValues columns today).Shows row.id p.id (.ok value) := by
  have hd' := h.unambiguous hd
  have hrow' : row ∈ d'.rows := h.rows ▸ hrow
  -- on the place in the order: the values that a formula reads come before it
  induction hplace : (d.formulaValues columns today).order.idxOf p.id using Nat.strong_induction_on
    generalizing p value with
  | _ place ih =>
    have hp' := h.mem_of_unchanged hp (hfree p .refl)
    obtain ⟨expression, hexpression⟩ := Option.isSome_iff_exists.1 hformula
    cases hread : FormulaPlan.readFormula expression with
    | error error =>
      cases hshows.unique (shows_of_unreadable hd.ids hd.rows columns today hrow hp hexpression hread)
    | ok read =>
      cases read with
      | none =>
        cases hshows.unique (shows_of_blank hd.ids hd.rows columns today hrow hp hexpression hread)
        exact shows_of_blank hd'.ids hd'.rows columns today hrow' hp' hexpression hread
      | some e =>
        refine shows_of_same_readings hd hd' hrow hrow' hp hp' hexpression hread ?_ hshows
        intro name hname
        have hfine := reading?_ne_error hd hrow hp hexpression hread hshows name hname
        rw [reading?_eq_firstNamed? hd.ids hd.rows hrow hp hexpression hread hname
          (hd.firstOnly name)] at hfine ⊢
        rw [reading?_eq_firstNamed? hd'.ids hd'.rows hrow' hp' hexpression hread hname
          (hd'.firstOnly name)]
        refine firstNamed?_of_sameButFormulas h hd hrow hfine ?_
        rintro q hq rfl hqformula held hheld
        have hrefers : d.Refers p q := ⟨hp, hq, hqformula, expression, e, hexpression, hread, hname⟩
        -- what a free column refers to is free
        exact ih _ (hplace ▸ hrefers.idxOf_lt hd hrow hheld.1) hq
          (fun r hr => hfree r (.head hrefers hr)) hqformula hheld rfl

/-- If the formulas of some columns are changed, a formula column that does not refer to one of them,
directly or through other formula columns, has the same value for a row as before, or has an error both
before and after. -/
theorem formulaValues_isolated (h : d.SameButFormulas changed d') (hd : d.Unambiguous)
    (columns : ColumnValues) (today : Date) (hrow : row ∈ d.rows) (hp : p ∈ d.properties)
    (hformula : p.formula?.isSome = true)
    (hfree : ∀ q, Relation.ReflTransGen d.Refers p q → ¬ changed q.id) :
    (∃ value, (d.formulaValues columns today).Shows row.id p.id (.ok value) ∧
      (d'.formulaValues columns today).Shows row.id p.id (.ok value)) ∨
    ∃ error error', (d.formulaValues columns today).Shows row.id p.id (.error error) ∧
      (d'.formulaValues columns today).Shows row.id p.id (.error error') := by
  have hd' := h.unambiguous hd
  have hrow' : row ∈ d'.rows := h.rows ▸ hrow
  have hp' := h.mem_of_unchanged hp (hfree p .refl)
  have hfree' : ∀ q, Relation.ReflTransGen d'.Refers p q → ¬ changed q.id :=
    fun q hreach => hfree q (h.reflTransGen hfree hreach)
  obtain ⟨shown, hshows⟩ := exists_shows hd.ids hd.rows columns today hrow hp hformula
  obtain ⟨shown', hshows'⟩ := exists_shows hd'.ids hd'.rows columns today hrow' hp' hformula
  cases shown with
  | ok value => exact .inl ⟨value, hshows, shows_of_sameButFormulas h hd hrow hp hfree hformula hshows⟩
  | error error =>
    cases shown' with
    | ok value =>
      cases hshows.unique
        (shows_of_sameButFormulas h.symm hd' hrow' hp' hfree' hformula hshows')
    | error error' => exact .inr ⟨error, error', hshows, hshows'⟩

end Shows

end Document

/-! ### A circle beside a formula -/

section Beside

/-- A stored column, a formula that refers to it, and another formula. -/
def besideDocument (text : String) : Document where
  properties := [.fresh "s" "N" .text, .fresh "f" "F" (.formula "N"), .fresh "g" "G" (.formula text)]
  rows := [namesakeRow]
  views := []

theorem unambiguous_besideDocument (text : String) : (besideDocument text).Unambiguous where
  ids := show ["s", "f", "g"].Nodup by decide
  names := show ["N", "F", "G"].Nodup by decide
  plain p hp := by
    have hnames : ∀ name ∈ ["N", "F", "G"], Function.isName name = false := by decide
    exact hnames p.name (List.mem_map_of_mem (f := (·.name)) hp)
  rows := show ["r"].Nodup by decide

theorem sameButFormulas_besideDocument (text text' : String) :
    (besideDocument text).SameButFormulas (· = "g") (besideDocument text') where
  properties := .cons (.inl rfl) (.cons (.inl rfl)
    (.cons (.inr ⟨rfl, text, text', rfl, rfl⟩) .nil))
  rows := rfl

/-- The formula refers to the stored column only. -/
theorem eq_of_reflTransGen_besideDocument {text : String} {q : Property}
    (h : Relation.ReflTransGen (besideDocument text).Refers (.fresh "f" "F" (.formula "N")) q) :
    q = .fresh "f" "F" (.formula "N") := by
  rcases Relation.ReflTransGen.cases_head h with rfl | ⟨r, ⟨-, hr, hformula, t, e, ht, hread, hname⟩, -⟩
  · rfl
  · cases ht
    rw [readFormula_name] at hread
    cases hread
    simp only [besideDocument, List.mem_cons, List.not_mem_nil, or_false] at hr
    rcases hr with rfl | rfl | rfl
    · cases hformula
    · exact absurd (show "F" = "N" from List.mem_singleton.1 hname) (by decide)
    · exact absurd (show "G" = "N" from List.mem_singleton.1 hname) (by decide)

theorem shows_besideDocument (text : String) (today : Date) :
    ((besideDocument text).formulaValues .empty today).Shows namesakeRow.id "f" (.ok (.text "y")) := by
  have hd := unambiguous_besideDocument text
  have hp : Property.fresh "f" "F" (.formula "N") ∈ (besideDocument text).properties := by
    simp [besideDocument]
  have hstored : ∀ q ∈ (besideDocument text).properties, q.formula?.isSome = true → q.name ≠ "N" := by
    simp [besideDocument, Property.fresh, Property.formula?]
  have hreading : (besideDocument text).reading? namesakeRow .empty
      ((besideDocument text).formulaValues .empty today) (.fresh "f" "F" (.formula "N")) "N"
        = some (.ok (.text "y")) := Document.reading?_of_stored hd.ids hstored
  obtain ⟨context, hcontext, hshows⟩ := Document.shows_of_readings hd.ids hd.rows
    List.mem_cons_self hp rfl readFormula_name fun name hname error herror => by
      rw [List.mem_singleton.1 hname, hreading] at herror
      cases herror
  rwa [formulaValue_of_name today readFormula_name ((hcontext "N" List.mem_cons_self).trans hreading)]
    at hshows

/-- The formula stays if the other one comes to refer to itself. -/
theorem formulaValues_isolated_besideDocument :
    ((besideDocument "\"x\"").formulaValues .empty default).Shows namesakeRow.id "f" (.ok (.text "y")) ∧
    ((besideDocument "G").formulaValues .empty default).Shows namesakeRow.id "f" (.ok (.text "y")) := by
  have hp : Property.fresh "f" "F" (.formula "N") ∈ (besideDocument "\"x\"").properties := by
    simp [besideDocument]
  have hshows := shows_besideDocument "\"x\"" default
  rcases Document.formulaValues_isolated (sameButFormulas_besideDocument "\"x\"" "G")
      (unambiguous_besideDocument "\"x\"") .empty default List.mem_cons_self hp rfl
      (fun q hq => by rw [eq_of_reflTransGen_besideDocument hq]; decide)
    with ⟨value, hvalue, hvalue'⟩ | ⟨error, error', herror, -⟩
  · cases hshows.unique hvalue
    exact ⟨hvalue, hvalue'⟩
  · cases hshows.unique herror

end Beside

end Databook
