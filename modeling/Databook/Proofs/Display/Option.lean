import Databook.Display.Option
import Databook.Proofs.Document.Lookup
import Mathlib.Data.List.Forall2
import Mathlib.Data.List.Nodup
import Mathlib.Data.List.Perm.Subperm

/-!
# Labels and the options they name

Labels that are entered for a select property become ids of options. The id is that of the first
option with the label (`optionId?`), and later options do not change which one that is
(`optionId?_append`). So what is entered resolves to the options that are there in the end, labels
that are entered before others included, and entering it again finds all of them
(`Property.acceptInput_resolves`). The induction is on the labels.

Where there is one choice, an option with a label of its own is found by that label and by nothing
else (`Property.acceptInput_eq_option_iff`).
-/

namespace Databook

open Text

/-- The id of the first option with a label. -/
def optionId? (options : List SelectOption) (label : String) : Option String :=
  (options.find? fun o => toLower o.label == toLower label).map (·.id)

/-- Are these options that are added to others for some labels? Each has a label that no other
option has, and the colour of its place. -/
structure OptionsAdded (freshId : Nat → String) (options : List SelectOption)
    (labels : List String) (added : List SelectOption) : Prop where
  fresh : ∀ (i : Nat) (o : SelectOption), added[i]? = some o → ∃ label ∈ labels,
    o = .fresh (freshId (options.length + i)) label (options.length + i)
  distinct : (added.map fun o => toLower o.label).Nodup
  new : ∀ o ∈ added, ∀ o' ∈ options, toLower o.label ≠ toLower o'.label

/-! ### A single label -/

section Label

variable {freshId : Nat → String} {options : List SelectOption} {label id : String}

theorem exists_mem_of_optionId? (h : optionId? options label = some id) :
    ∃ o ∈ options, o.id = id ∧ toLower o.label = toLower label := by
  obtain ⟨o, ho, rfl⟩ := Option.map_eq_some_iff.1 h
  exact ⟨o, List.mem_of_find?_eq_some ho, rfl, by simpa using List.find?_some ho⟩

theorem optionId?_eq_none_iff :
    optionId? options label = none ↔ ∀ o ∈ options, toLower o.label ≠ toLower label := by
  rw [optionId?, Option.map_eq_none_iff, List.find?_eq_none]
  simp only [beq_iff_eq, ne_eq]

theorem optionId?_append (h : optionId? options label = some id) (added : List SelectOption) :
    optionId? (options ++ added) label = some id := by
  obtain ⟨o, ho, rfl⟩ := Option.map_eq_some_iff.1 h
  rw [optionId?, List.find?_append, ho, Option.some_or, Option.map_some]

theorem optionForLabel_of_some (h : optionId? options label = some id) :
    optionForLabel freshId options label = (id, options) := by
  obtain ⟨o, ho, rfl⟩ := Option.map_eq_some_iff.1 h
  rw [optionForLabel, ho]

theorem optionForLabel_of_none (h : optionId? options label = none) :
    optionForLabel freshId options label = (freshId options.length,
      options ++ [.fresh (freshId options.length) label options.length]) := by
  rw [optionForLabel, Option.map_eq_none_iff.1 h]
  rfl

/-- The label has an option afterwards. -/
theorem optionId?_of_none (h : optionId? options label = none) (o : SelectOption)
    (ho : o.label = label) : optionId? (options ++ [o]) label = some o.id := by
  rw [optionId?, List.find?_append, Option.map_eq_none_iff.1 h, Option.none_or,
    List.find?_singleton, if_pos (by rw [ho, beq_self_eq_true]), Option.map_some]

/-- An option is found by its label if no other option has it. -/
theorem optionId?_of_unique {o : SelectOption} (ho : o ∈ options)
    (hunique : ∀ o' ∈ options, toLower o'.label = toLower o.label → o' = o)
    (hlabel : toLower label = toLower o.label) : optionId? options label = some o.id := by
  cases hid : optionId? options label with
  | none => exact absurd hlabel.symm (optionId?_eq_none_iff.1 hid o ho)
  | some id =>
    obtain ⟨found, hfound, rfl, hlower⟩ := exists_mem_of_optionId? hid
    rw [hunique found hfound (hlower.trans hlabel)]

end Label

/-! ### Several labels -/

section Labels

variable {freshId : Nat → String} {options added : List SelectOption} {labels ids : List String}

theorem optionsForLabels_cons {label id : String} {options' options'' : List SelectOption}
    (hfirst : optionForLabel freshId options label = (id, options'))
    (hrest : optionsForLabels freshId options' labels = (ids, options'')) :
    optionsForLabels freshId options (label :: labels) = (id :: ids, options'') := by
  rw [optionsForLabels, hfirst]
  simp only
  rw [hrest]

theorem OptionsAdded.nil (freshId : Nat → String) (options : List SelectOption) :
    OptionsAdded freshId options [] [] where
  fresh := by simp
  distinct := .nil
  new := by simp

theorem OptionsAdded.mono (h : OptionsAdded freshId options labels added) (label : String) :
    OptionsAdded freshId options (label :: labels) added where
  fresh i o ho := by
    obtain ⟨label', hlabel, rfl⟩ := h.fresh i o ho
    exact ⟨label', List.mem_cons_of_mem _ hlabel, rfl⟩
  distinct := h.distinct
  new := h.new

theorem OptionsAdded.cons {label : String} (hnone : optionId? options label = none)
    (h : OptionsAdded freshId
      (options ++ [.fresh (freshId options.length) label options.length]) labels added) :
    OptionsAdded freshId options (label :: labels)
      (.fresh (freshId options.length) label options.length :: added) where
  fresh i o ho := by
    cases i with
    | zero =>
      cases ho
      exact ⟨label, List.mem_cons_self, rfl⟩
    | succ i =>
      obtain ⟨label', hlabel, rfl⟩ := h.fresh i o ho
      refine ⟨label', List.mem_cons_of_mem _ hlabel, ?_⟩
      rw [List.length_append, List.length_singleton, Nat.add_assoc, Nat.add_comm 1 i]
  distinct := by
    refine List.nodup_cons.2 ⟨fun hmem => ?_, h.distinct⟩
    obtain ⟨o, ho, hlabel⟩ := List.mem_map.1 hmem
    exact h.new o ho _ (List.mem_append_right _ List.mem_cons_self) hlabel
  new o ho o' ho' := by
    rcases List.mem_cons.1 ho with rfl | ho
    · exact (optionId?_eq_none_iff.1 hnone o' ho').symm
    · exact h.new o ho o' (List.mem_append_left _ ho')

/-- What entering labels does to options: those that are new are added, and all labels have ids
afterwards. -/
theorem exists_added (freshId : Nat → String) (options : List SelectOption) (labels : List String) :
    ∃ ids added, optionsForLabels freshId options labels = (ids, options ++ added) ∧
      OptionsAdded freshId options labels added ∧
      List.Forall₂ (fun label id => optionId? (options ++ added) label = some id) labels ids := by
  induction labels generalizing options with
  | nil => exact ⟨[], [], by rw [List.append_nil]; rfl, .nil freshId options, .nil⟩
  | cons label labels ih =>
    cases hid : optionId? options label with
    | some id =>
      obtain ⟨ids, added, heq, hadded, hids⟩ := ih options
      exact ⟨id :: ids, added, optionsForLabels_cons (optionForLabel_of_some hid) heq,
        hadded.mono label, .cons (optionId?_append hid added) hids⟩
    | none =>
      -- the option that is added is there for the labels that follow
      have hfirst := optionId?_of_none hid
        (.fresh (freshId options.length) label options.length) rfl
      obtain ⟨ids, added, heq, hadded, hids⟩ :=
        ih (options ++ [.fresh (freshId options.length) label options.length])
      rw [List.append_assoc] at heq hids
      refine ⟨freshId options.length :: ids, _ :: added,
        optionsForLabels_cons (optionForLabel_of_none hid) heq, hadded.cons hid, .cons ?_ hids⟩
      have happend := optionId?_append hfirst added
      rwa [List.append_assoc] at happend

end Labels

namespace OptionsAdded

variable {freshId : Nat → String} {options added : List SelectOption} {labels : List String}
  (h : OptionsAdded freshId options labels added)

include h

theorem length_le : added.length ≤ labels.length := by
  have hsubset : (added.map fun o => toLower o.label) ⊆ labels.map toLower := by
    intro lower hlower
    obtain ⟨o, ho, rfl⟩ := List.mem_map.1 hlower
    obtain ⟨i, hi⟩ := List.getElem?_of_mem ho
    obtain ⟨label, hlabel, rfl⟩ := h.fresh i o hi
    exact List.mem_map_of_mem hlabel
  have hle := (List.subperm_of_subset h.distinct hsubset).length_le
  rwa [List.length_map, List.length_map] at hle

theorem map_id : added.map (·.id)
    = (List.range added.length).map fun i => freshId (options.length + i) := by
  refine List.ext_getElem (by simp) fun i hi _ => ?_
  obtain ⟨label, -, ho⟩ := h.fresh i _ (List.getElem?_eq_getElem (by simpa using hi))
  rw [List.getElem_map, List.getElem_map, List.getElem_range, ho]
  rfl

/-- The ids of options stay distinct if the ids that are there to be given are new. -/
theorem nodup_ids (hids : (options.map (·.id) ++
      (List.range labels.length).map fun i => freshId (options.length + i)).Nodup) :
    ((options ++ added).map (·.id)).Nodup := by
  rw [List.map_append, h.map_id]
  refine hids.sublist (.append (.refl _) (.map _ ?_))
  exact List.range_sublist.2 h.length_le

end OptionsAdded

/-! ### Properties -/

namespace Property

/-- The labels that an input names. The empty text names none where there are several choices. -/
def enteredLabels? (p : Property) (c : Cell) : Option (List String) :=
  match p.kind, c with
  | .select _, .text label => some [label]
  | .multiSelect _, .text label => if label.isEmpty then none else some [label]
  | .multiSelect _, .list labels => some labels
  | _, _ => none

/-- The form in which the ids of options are stored. -/
def storedIds (p : Property) (ids : List String) : Cell :=
  match p.kind, ids with
  | .select _, [id] => .text id
  | _, _ => .list ids

/-- The property with other options. Only selects have options. -/
def withOptions (p : Property) (options : List SelectOption) : Property :=
  match p.kind with
  | .select _ => { p with kind := .select options }
  | .multiSelect _ => { p with kind := .multiSelect options }
  | _ => p

variable {p : Property} {c : Cell} {labels ids : List String} {options : List SelectOption}
  {freshId : Nat → String}

theorem optionsForLabels_singleton {label : String} (options : List SelectOption) :
    optionsForLabels freshId options [label] = ([(optionForLabel freshId options label).1],
      (optionForLabel freshId options label).2) := rfl

/-- What is entered for a select property is stored as the ids for its labels. -/
theorem acceptInput_eq (hlabels : p.enteredLabels? c = some labels)
    (h : optionsForLabels freshId p.options labels = (ids, options)) :
    p.acceptInput freshId c = (p.storedIds ids, p.withOptions options) := by
  obtain ⟨id, name, kind, formats, extra⟩ := p
  cases kind with
  | select options₀ =>
    cases c with
    | text label =>
      cases hlabels
      rw [optionsForLabels_singleton] at h
      cases h
      rfl
    | _ => cases hlabels
  | multiSelect options₀ =>
    cases c with
    | text label =>
      simp only [enteredLabels?] at hlabels
      split at hlabels
      · cases hlabels
      · next hempty =>
        cases hlabels
        rw [optionsForLabels_singleton] at h
        cases h
        simp only [acceptInput, hempty, Bool.false_eq_true, if_false]
        rfl
    | list labels =>
      cases hlabels
      simp only [acceptInput]
      rw [show optionsForLabels freshId options₀ labels = (ids, options) from h]
      rfl
    | _ => cases hlabels
  | _ => cases hlabels

section WithOptions

variable (h : p.enteredLabels? c = some labels) (options : List SelectOption)
include h

theorem enteredLabels?_withOptions : (p.withOptions options).enteredLabels? c = some labels := by
  obtain ⟨id, name, kind, formats, extra⟩ := p
  cases kind <;> cases c <;> exact h

theorem options_withOptions : (p.withOptions options).options = options := by
  obtain ⟨id, name, kind, formats, extra⟩ := p
  cases kind <;> first | rfl | cases h

end WithOptions

theorem storedIds_withOptions (p : Property) (options : List SelectOption) (ids : List String) :
    (p.withOptions options).storedIds ids = p.storedIds ids := by
  obtain ⟨id, name, kind, formats, extra⟩ := p
  cases kind <;> rcases ids with _ | ⟨id, _ | _⟩ <;> rfl

section Tags

/-- Tags, of which there is one so far. -/
def tags : Property := .fresh "t" "Tags" (.multiSelect [⟨"r", "Red", "#ef4444"⟩])

end Tags

/-! ### Properties with one choice -/

/-- What is entered for a property with one choice names the option with a label that no other one
has, and adds none, exactly if it is the label. -/
theorem acceptInput_eq_option_iff {o : SelectOption} (hkind : p.kind = .select options)
    (hids : (options.map (·.id)).Nodup) (ho : o ∈ options)
    (hunique : ∀ o' ∈ options, toLower o'.label = toLower o.label → o' = o) :
    p.acceptInput freshId c = (.text o.id, p) ↔
      ∃ label, c = .text label ∧ toLower label = toLower o.label := by
  obtain ⟨id, name, kind, formats, extra⟩ := p
  obtain rfl : kind = .select options := hkind
  cases c with
  | text label =>
    have htext : (∃ named, Cell.text label = .text named ∧ toLower named = toLower o.label) ↔
        toLower label = toLower o.label := by simp
    rw [htext]
    unfold acceptInput
    cases hfound : optionId? options label with
    | some found =>
      simp only [optionForLabel_of_some hfound, Prod.mk.injEq, and_true, Cell.text.injEq]
      constructor
      · rintro rfl
        obtain ⟨o', ho', hid, hlower⟩ := exists_mem_of_optionId? hfound
        rw [← List.inj_on_of_nodup_map hids ho' ho hid, hlower]
      · intro hlabel
        exact Option.some_inj.1 (hfound.symm.trans (optionId?_of_unique ho hunique hlabel))
    | none =>
      -- the option that is added makes the property another one
      simp only [optionForLabel_of_none hfound, Prod.mk.injEq]
      refine ⟨fun ⟨_, hsame⟩ => ?_, fun hlabel => ?_⟩
      · simp at hsame
      · rw [optionId?_of_unique ho hunique hlabel] at hfound
        cases hfound
  | _ => simp [acceptInput]

theorem id_acceptInput (p : Property) (freshId : Nat → String) (c : Cell) :
    (p.acceptInput freshId c).2.id = p.id := by
  unfold acceptInput
  split
  · rfl
  · rfl
  · split <;> rfl
  · rfl

theorem acceptInput_of_not_text (hkind : p.kind = .select options)
    (hc : c.isText = false) : p.acceptInput freshId c = (c, p) := by
  unfold acceptInput
  rw [hkind]
  cases c with
  | text label => cases hc
  | _ => rfl

end Property

end Databook
